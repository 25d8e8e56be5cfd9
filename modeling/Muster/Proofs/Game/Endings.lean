import Muster.Proofs.Command.Registration
import Muster.Proofs.Game.RosterInvariant
import Muster.Data.Builtin
import Muster.Flow.Network

/-!
# How games end

Whoever plays from a script, and writes to an output that takes everything, comes to an end. The
stages of a game are a network of flows, which hand over to each other at most twice for each line
of the script (`run_network`); every question takes a line, so that no conversation within a stage
has more rounds than there are lines (`Play.converse_unfolds`).

Main statement: `scripted_game_ends`. Besides being quit, such a game ends only with the script or
for want of data, and the built-in game only with the script. In a build for development it could
end at a sum that does not fit into 32 bits; that does not happen where the sums of the data fit and
no more members join than there are numbers (`inBuild_play`).
-/

namespace Muster

/-- The input has come to its end, or something is wrong with the data. -/
def Cause.isIntended : Cause → Bool
  | .inputClosed => true
  | .dataFile _ _ => true
  | .invalidTemplate _ _ _ _ => true
  | .missingControl _ _ => true
  | .missingMessage _ _ => true
  | _ => false

/-- If the run fails, it does so as expected. -/
def Outcome.FailsOnly {α : Type} (expected : Cause → Prop) (outcome : Outcome α) : Prop :=
  ∀ failure last, outcome = .error failure last → expected failure.cause

/-! ## Registering commands -/

theorem Cause.isIntended_of_isTemplates {cause : Cause} (h : cause.isTemplates = true) :
    cause.isIntended = true := by
  cases cause <;> first | rfl | cases h

/-- Commands with different names are wanting only in their templates. -/
theorem CommandSet.isIntended_of_registerAll {H : Type} {set : CommandSet H} {scope : Scope}
    {control : Control} {stage : String} {handlers : List (String × H)} {failure : Failure}
    (hnames : (set.names ++ handlers.map (·.1)).Nodup)
    (h : set.registerAll scope control stage handlers = .error failure) :
    failure.cause.isIntended = true := by
  rcases CommandSet.cause_of_registerAll h with htemplates | ⟨htwice, _⟩
  · exact Cause.isIntended_of_isTemplates htemplates
  · exact absurd hnames htwice

/-- The commands of a stage, which all have different names, are wanting only in their templates. -/
theorem Game.isIntended_of_stageCommands {H : Type} {stage : String} {scope : Scope}
    {control : Control} {shared own : List (String × H)} {failure : Failure}
    (hnames : ((shared ++ own).map (·.1)).Nodup)
    (h : Game.stageCommands stage scope control shared own = .error failure) :
    failure.cause.isIntended = true := by
  rw [List.map_append] at hnames
  unfold Game.stageCommands at h
  rw [bind_eq_error_iff] at h
  rcases h with hshared | ⟨set, hshared, hown⟩
  · refine CommandSet.isIntended_of_registerAll ?_ hshared
    exact (List.nodup_append.1 hnames).1
  · refine CommandSet.isIntended_of_registerAll ?_ hown
    rw [CommandSet.names_registerAll hshared]
    exact hnames

/-! ## The console of a script -/

namespace Console

/-- No line fails to be read, and the output takes everything. -/
structure Scripted (console : Console) : Prop where
  answers : ∀ detail, Answer.failed detail ∉ console.answers
  capacity : console.capacity = none

/-- A script stays one, and nothing goes wrong but that it comes to its end. -/
def scripted : Contract Console where
  keeps := Scripted
  allows cause _ := cause = .inputClosed

theorem allows_scripted : Allows scripted where
  write text := by
    intro console h
    unfold write
    split
    · exact h
    · rw [h.capacity]
      exact ⟨h.answers, rfl⟩
  takeAnswer prompt := by
    intro console h
    unfold takeAnswer
    split
    · rfl
    · next detail left hanswers =>
      refine absurd ?_ (h.answers detail)
      rw [hanswers]
      exact List.mem_cons_self
    · next left hanswers =>
      refine ⟨fun detail hmem => h.answers detail ?_, h.capacity⟩
      rw [hanswers]
      exact List.mem_cons_of_mem _ hmem
    · next text left hanswers =>
      refine ⟨fun detail hmem => h.answers detail ?_, h.capacity⟩
      rw [hanswers]
      exact List.mem_cons_of_mem _ hmem
    · rfl
  pending console pending h := ⟨h.answers, h.capacity⟩
  history console history h := ⟨h.answers, h.capacity⟩

end Console

namespace Game

open Play

/-! ## Games from a script -/

/-- Wherever the data are wanting, a game fails with a cause that is expected. -/
structure Expects (data : GameData) (expected : Cause → Prop) : Prop where
  closed : expected .inputClosed
  message : ∀ stage key, Said stage key → ∀ failure, data.messages.get stage key = .error failure →
    expected failure.cause
  help : ∀ failure, HelpBrowser.commands data = .error failure → expected failure.cause
  yesNo : ∀ failure, yesNoCommands data = .error failure → expected failure.cause
  playable : ∀ failure, data.ensurePlayable = .error failure → expected failure.cause
  mainMenu : ∀ failure, MainMenu.commands data = .error failure → expected failure.cause
  partyCreation : ∀ failure, PartyCreation.commands data = .error failure → expected failure.cause
  characterCreation : ∀ failure, CharacterCreation.commands data = .error failure →
    expected failure.cause

/-- The script stays one, and for each question, up to the one that is not answered, there has been
a line. -/
def orderly (expected : Cause → Prop) (lines : Nat) : Contract Session where
  keeps session := session.console.Scripted ∧ session.moments.length + session.unread ≤ lines
  allows cause session :=
    expected cause ∧ session.moments.length + session.unread ≤ lines + 1

variable {data : GameData} {expected : Cause → Prop} {lines : Nat}

theorem tolerates_orderly {cause : Cause} (h : expected cause) :
    (orderly expected lines).Tolerates cause := by
  intro session hkeeps
  have hlines := hkeeps.2
  exact ⟨h, by omega⟩

theorem obeys_ask_orderly (hclosed : expected .inputClosed) (prompt : String) :
    Obeys data (orderly expected lines) (ask prompt) := by
  rintro session ⟨hscripted, hlines⟩
  have hadmits := Console.obeys_ask Console.allows_scripted prompt session.console hscripted
  have hspares := Console.spares_ask prompt session.console
  unfold Session.unread at hlines
  show (orderly expected lines).Admits
    ((atConsole (Console.ask prompt) (Console.spares_ask prompt)).run data _)
  unfold atConsole
  cases hask : Console.ask prompt session.console with
  | ok line console =>
    rw [hask] at hadmits
    have hread := Console.consumes_ask prompt session.console line console hask
    simp only [hask]
    refine ⟨hadmits, ?_⟩
    show (session.moments ++ [_]).length + console.unread ≤ lines
    rw [List.length_append, List.length_singleton]
    omega
  | error failure console =>
    rw [hask] at hadmits hspares
    have hcause : failure.cause = .inputClosed := hadmits
    simp only [hask]
    rw [Contract.Admits, hcause]
    refine ⟨hclosed, ?_⟩
    show (session.moments ++ [_]).length + console.unread ≤ lines + 1
    rw [List.length_append, List.length_singleton]
    have hleft : console.unread ≤ session.console.unread := hspares
    omega

theorem suits_orderly (h : Expects data expected) :
    Suits data (orderly expected lines) fun _ _ => True where
  say _ _ hkeeps := ⟨⟨hkeeps.1.answers, hkeeps.1.capacity⟩, hkeeps.2⟩
  message stage key hsaid failure hfailure :=
    tolerates_orderly (h.message stage key hsaid failure hfailure)
  ask := obeys_ask_orderly h.closed
  help failure hfailure := tolerates_orderly (h.help failure hfailure)
  yesNo failure hfailure := tolerates_orderly (h.yesNo failure hfailure)
  lasts := lasts_true data
  fits_party _ _ _ _ := trivial
  setParty _ _ hkeeps _ := hkeeps
  tally _ _ _ hkeeps _ _ := hkeeps
  setStage _ _ hkeeps := hkeeps
  playable failure hfailure := tolerates_orderly (h.playable failure hfailure)
  mainMenu failure hfailure := tolerates_orderly (h.mainMenu failure hfailure)
  partyCreation failure hfailure := tolerates_orderly (h.partyCreation failure hfailure)
  characterCreation failure hfailure := tolerates_orderly (h.characterCreation failure hfailure)

/-- Whatever the data, they are wanting only as intended. -/
theorem expects_intended (data : GameData) : Expects data (·.isIntended = true) where
  closed := rfl
  message stage key _ failure hfailure := by
    rw [Messages.cause_of_get hfailure]
    rfl
  help failure := isIntended_of_stageCommands (by decide)
  yesNo failure := CommandSet.isIntended_of_registerAll (by decide)
  playable failure hfailure := by
    unfold GameData.ensurePlayable at hfailure
    split at hfailure
    · cases hfailure
      rfl
    · split at hfailure
      · cases hfailure
        rfl
      · cases hfailure
  mainMenu failure := isIntended_of_stageCommands (by decide)
  partyCreation failure := isIntended_of_stageCommands (by decide)
  characterCreation failure := isIntended_of_stageCommands (by decide)

/-- What succeeds fails at most with the end of the input. -/
theorem closed_of_isOk {α : Type} (x : Except Failure α) (h : x.isOk = true) (failure : Failure)
    (hfailure : x = .error failure) : failure.cause = .inputClosed := by
  rw [hfailure] at h
  cases h

/-- The built-in game has every message that a game may say. -/
theorem isOk_get_builtin {stage key : String} (hsaid : Said stage key) :
    (GameData.builtin.messages.get stage key).isOk = true := by
  have hall : ∀ (keys : List String), (keys.all fun key =>
      (GameData.builtin.messages.get stage key).isOk) = true →
        key ∈ keys → (GameData.builtin.messages.get stage key).isOk = true :=
    fun keys hkeys => List.all_eq_true.1 hkeys key
  cases hsaid with
  | common hkey => exact hall commonMessages (by decide +kernel) hkey
  | help hkey => exact hall helpMessages (by decide +kernel) hkey
  | menu hkey => exact hall menuMessages (by decide +kernel) hkey
  | character hkey => exact hall characterMessages (by decide +kernel) hkey
  | party hkey => exact hall partyMessages (by decide +kernel) hkey

/-- The built-in game wants for nothing. -/
theorem expects_builtin : Expects GameData.builtin (· = .inputClosed) where
  closed := rfl
  message stage key hsaid := closed_of_isOk _ (isOk_get_builtin hsaid)
  help := closed_of_isOk (HelpBrowser.commands GameData.builtin) (by decide +kernel)
  yesNo := closed_of_isOk (yesNoCommands GameData.builtin) (by decide +kernel)
  playable := closed_of_isOk GameData.builtin.ensurePlayable (by decide +kernel)
  mainMenu := closed_of_isOk (MainMenu.commands GameData.builtin) (by decide +kernel)
  partyCreation := closed_of_isOk (PartyCreation.commands GameData.builtin) (by decide +kernel)
  characterCreation :=
    closed_of_isOk (CharacterCreation.commands GameData.builtin) (by decide +kernel)

/-- A game that is played from a script asks at most one question that no line is left for, and
fails only as expected. -/
theorem failsOnly_play (h : Expects data expected) {console : Console}
    (hscripted : console.Scripted) :
    (play.run data (Session.start data console)).FailsOnly expected ∧
      (play.run data (Session.start data console)).session.moments.length ≤
        console.unread + 1 := by
  have hstart : (orderly expected console.unread).keeps (Session.start data console) := by
    unfold Session.start
    split
    · exact ⟨⟨hscripted.answers, hscripted.capacity⟩, Nat.le_of_eq (Nat.zero_add _)⟩
    · exact ⟨hscripted, Nat.le_of_eq (Nat.zero_add _)⟩
  have hadmits := obeys_play (suits_orderly h) _ hstart
  cases hrun : play.run data (Session.start data console) with
  | ok value last =>
    rw [hrun] at hadmits
    have hlines : last.moments.length + last.unread ≤ console.unread := hadmits.2
    refine ⟨fun failure other h => ?_, ?_⟩
    · cases h
    · show last.moments.length ≤ console.unread + 1
      omega
  | error failure last =>
    rw [hrun] at hadmits
    have hlines : last.moments.length + last.unread ≤ console.unread + 1 := hadmits.2
    refine ⟨fun other left h => ?_, ?_⟩
    · cases h
      exact hadmits.1
    · show last.moments.length ≤ console.unread + 1
      omega

end Game

/-! ## Stages as flows -/

/-- What a run leaves and what it gives. -/
def Outcome.ended {α : Type} : Outcome α → Session × Except Failure α
  | .ok a session => (session, .ok a)
  | .error failure session => (session, .error failure)

namespace Game

open Play Muster.Flow

namespace Stage

/-- The stages as flows that hand over to each other. -/
def network (data : GameData) : Network Stage Session where
  name := name
  enter stage entry arg session :=
    let (last, signal) := ((stage.enter entry arg).run data session).ended
    .done stage last signal

theorem call_network_succ (data : GameData) (limit : Nat) (stage : Stage) (entry : String)
    (arg : Option Value) (session : Session) :
    (network data).call (limit + 1) stage entry arg session =
      match (stage.enter entry arg).run data session with
      | .error failure last => some (last, .error (failure.inFrame (frame stage.name entry)))
      | .ok (.finish value) last => some (last, .ok value)
      | .ok .again last => (network data).call limit stage entry arg last
      | .ok (.change next nextEntry nextArg) last =>
        (network data).call limit next nextEntry nextArg last := by
  have henter : (network data).enter stage entry arg session =
      .done stage ((stage.enter entry arg).run data session).ended.1
        ((stage.enter entry arg).run data session).ended.2 := rfl
  rw [Network.call, henter]
  cases (stage.enter entry arg).run data session with
  | error failure last => rfl
  | ok signal last =>
    cases signal with
    | again => rfl
    | change next nextEntry nextArg => rfl
    | finish value => rfl

/-- With a limit above the number of stages that can follow, the network of the stages does what
they do in turn. -/
theorem call_network (data : GameData) (limit : Nat) (stage : Stage) (entry : String)
    (arg : Option Value) (session : Session) (h : stage.turnsLeft session < limit) :
    (network data).call limit stage entry arg session =
      some (callFrom data limit stage entry arg session h).ended := by
  induction limit generalizing stage entry arg session with
  | zero => omega
  | succ limit ih =>
    have hcall := call_network_succ data limit stage entry arg session
    unfold callFrom
    split
    · next failure last hrun =>
      rw [hrun] at hcall
      exact hcall
    · next value last hrun =>
      rw [hrun] at hcall
      exact hcall
    · next last hrun =>
      rw [hrun] at hcall
      rw [hcall]
      exact ih stage entry arg last _
    · next next nextEntry nextArg last hrun =>
      rw [hrun] at hcall
      rw [hcall]
      exact ih next nextEntry nextArg last _

end Stage

/-- The network of the stages plays the game, and comes to an end after the start and at most two
more stages for each line that there is. -/
theorem run_network (data : GameData) (session : Session) :
    (Stage.network data).run (2 * session.unread + 2) .startup "start" session =
      some (play.run data session).ended := by
  have hstart : Stage.startup.turnsLeft session < 2 * session.unread + 2 := Nat.lt_succ_self _
  have hplay : play.run data session = (Stage.startup.call "start" none >>= fun value =>
      ofExcept (outermost StageName.startup value)).run data session := rfl
  have hstages : (Stage.startup.call "start" none).run data session =
      Stage.callFrom data (2 * session.unread + 2) .startup "start" none session hstart := rfl
  rw [hplay, run_bind, hstages, Network.run, Stage.call_network data _ _ _ _ session hstart]
  cases Stage.callFrom data (2 * session.unread + 2) .startup "start" none session hstart with
  | error failure last => rfl
  | ok value last =>
    cases value with
    | none => rfl
    | some value => rfl

/-! ## Endings -/

/-- A build for development does not stop at a sum where those of the data fit and there are numbers
for all who join. -/
theorem inBuild_play {data : GameData} (hfits : data.SumsFit) (console : Console)
    (hjoined : Addition.joined
      (play.run data (Session.start data console)).session.additions < UInt32.size - 1) :
    (play.run data (Session.start data console)).inBuild .development =
      some (play.run data (Session.start data console)) := by
  obtain ⟨hplanned, -⟩ := planned_play data console
  exact if_pos fun addition haddition => (hplanned addition haddition).fits hfits (by omega)

/-- A game that is played from a script comes to an end, with at most one question that no line is
left for. If it fails, then as intended, and the built-in game only when the script is at its
end. So it is in a build for release with any data, and in a build for development with data whose
sums fit, such as the built-in ones, if fewer than `2 ^ 32 - 1` members join. -/
theorem scripted_game_ends (data : GameData) (console : Console) (hscripted : console.Scripted) :
    let session := Session.start data console
    let outcome := play.run data session
    (Stage.network data).run (2 * console.unread + 2) .startup "start" session =
        some outcome.ended ∧
      outcome.session.moments.length ≤ console.unread + 1 ∧
      outcome.FailsOnly (·.isIntended = true) ∧
      (data = GameData.builtin → outcome.FailsOnly (· = .inputClosed) ∧ data.SumsFit) ∧
      ∀ build : Build, (build = .development → data.SumsFit ∧
          Addition.joined outcome.session.additions < UInt32.size - 1) →
        outcome.inBuild build = some outcome := by
  intro session outcome
  obtain ⟨hintended, hlines⟩ := failsOnly_play (expects_intended data) hscripted
  refine ⟨?_, hlines, hintended, fun hdata => ⟨?_, ?_⟩, fun build hbuild => ?_⟩
  · have hunread : session.unread = console.unread := by
      show (Session.start data console).unread = console.unread
      unfold Session.start
      split <;> rfl
    rw [← hunread]
    exact run_network data session
  · have hexpects : Expects data (· = .inputClosed) := by
      rw [hdata]
      exact expects_builtin
    exact (failsOnly_play hexpects hscripted).1
  · rw [hdata]
    exact sumsFit_builtin
  · cases build with
    | release => rfl
    | development =>
      obtain ⟨hfits, hjoined⟩ := hbuild rfl
      exact inBuild_play hfits console hjoined

/-- A script for the built-in game, with a look at the help. -/
theorem builtin_script_ends :
    let console : Console := { answers := [.line "help", .interrupted, .line "back", .line "quit"] }
    console.Scripted ∧
      (play.run GameData.builtin (Session.start GameData.builtin console)).FailsOnly
        (· = .inputClosed) := by
  intro console
  have hscripted : console.Scripted := ⟨by simp [console], rfl⟩
  obtain ⟨_, _, _, hbuiltin, _⟩ := scripted_game_ends GameData.builtin console hscripted
  exact ⟨hscripted, (hbuiltin rfl).1⟩

end Game

end Muster
