import Muster.Proofs.Command.Registration
import Muster.Proofs.Game.Stages
import Muster.Data.Builtin

/-!
# What the check of the grammars finds

The check compiles the commands of every stage, but not those with which a question is answered by
yes or no. Those are compiled whenever such a question is asked, which happens when a member of the
party is to be let go. So a game with data that pass the check never fails on its grammar if these
commands compile; if they do not, letting a member go ends it.
-/

namespace Muster

/-- The cause lies in the templates of a command. -/
def Cause.isGrammar : Cause → Bool
  | .invalidTemplate _ _ _ _ => true
  | .missingControl _ _ => true
  | .duplicateCommand _ _ => true
  | _ => false

theorem Cause.isGrammar_of_isTemplates {cause : Cause} (h : cause.isTemplates = true) :
    cause.isGrammar = true := by
  cases cause <;> first | rfl | cases h

/-- Commands that cannot be registered are a matter of grammar. -/
theorem CommandSet.isGrammar_of_registerAll {H : Type} {set : CommandSet H} {scope : Scope}
    {control : Control} {stage : String} {handlers : List (String × H)} {failure : Failure}
    (h : set.registerAll scope control stage handlers = .error failure) :
    failure.cause.isGrammar = true := by
  rcases CommandSet.cause_of_registerAll h with htemplates | ⟨_, _, _, hcause⟩
  · exact Cause.isGrammar_of_isTemplates htemplates
  · rw [hcause]
    rfl

namespace Game

open Play

/-! ## Causes that are allowed -/

/-- Anything may go wrong at the console but the grammar. -/
def grammarFree : Contract Console where
  keeps _ := True
  allows cause _ := cause.isGrammar = false

theorem allows_grammarFree : Console.Allows grammarFree where
  write text := by
    intro console _
    unfold Console.write
    split
    · trivial
    · split
      · rfl
      · trivial
  takeAnswer prompt := by
    intro console _
    unfold Console.takeAnswer
    split
    · rfl
    · rfl
    · trivial
    · trivial
    · rfl
  pending _ _ _ := trivial
  history _ _ _ := trivial

/-- Where the grammar goes wrong, it does so in the commands for yes and no. -/
def soundButYesNo (data : GameData) : Contract Session where
  keeps _ := True
  allows cause _ := cause.isGrammar = true →
    ∃ failure, yesNoCommands data = .error failure ∧ cause = failure.cause

theorem tolerates_of_not_isGrammar {data : GameData} {cause : Cause}
    (h : cause.isGrammar = false) : (soundButYesNo data).Tolerates cause := by
  intro session _ hgrammar
  rw [h] at hgrammar
  cases hgrammar

/-- Commands that compile do not fail. -/
theorem tolerates_of_isOk {data : GameData} {α : Type} {x : Except Failure α} (h : ∃ a, x = .ok a)
    {failure : Failure} (hfailure : x = .error failure) :
    (soundButYesNo data).Tolerates failure.cause := by
  obtain ⟨a, ha⟩ := h
  rw [ha] at hfailure
  cases hfailure

/-- The check has compiled the commands of the four stages. -/
theorem commands_of_check {data : GameData} (h : checkCommands data = .ok ()) :
    (∃ set, MainMenu.commands data = .ok set) ∧ (∃ set, PartyCreation.commands data = .ok set) ∧
      (∃ set, CharacterCreation.commands data = .ok set) ∧
      ∃ set, HelpBrowser.commands data = .ok set := by
  unfold checkCommands at h
  obtain ⟨menu, hmenu, h⟩ := bind_eq_ok_iff.1 h
  obtain ⟨party, hparty, h⟩ := bind_eq_ok_iff.1 h
  obtain ⟨character, hcharacter, h⟩ := bind_eq_ok_iff.1 h
  obtain ⟨help, hhelp, _⟩ := bind_eq_ok_iff.1 h
  exact ⟨⟨menu, hmenu⟩, ⟨party, hparty⟩, ⟨character, hcharacter⟩, ⟨help, hhelp⟩⟩

theorem suits_of_check {data : GameData} (h : checkCommands data = .ok ()) :
    Suits data (soundButYesNo data) fun _ _ => True := by
  obtain ⟨hmenu, hparty, hcharacter, hhelp⟩ := commands_of_check h
  exact {
    say := fun text _ _ => trivial
    message := fun stage key _ failure hfailure => by
      refine tolerates_of_not_isGrammar ?_
      rw [Messages.cause_of_get hfailure]
      rfl
    ask := fun prompt => Obeys.bind (fun _ _ => trivial) fun _ =>
      obeys_atConsole (Console.obeys_ask allows_grammarFree prompt) (fun _ _ => trivial)
        (fun _ _ _ _ => trivial) fun session console _ _ hfree =>
          tolerates_of_not_isGrammar hfree { session with console } trivial
    help := fun _ => tolerates_of_isOk hhelp
    yesNo := fun failure hfailure _ _ _ => ⟨failure, hfailure, rfl⟩
    lasts := lasts_true data
    fits_party := fun _ _ _ _ => trivial
    setParty := fun _ _ _ _ => trivial
    tally := fun _ _ _ _ _ _ => trivial
    setStage := fun _ _ _ => trivial
    playable := fun failure hfailure => by
      unfold GameData.ensurePlayable at hfailure
      split at hfailure
      · cases hfailure
        exact tolerates_of_not_isGrammar rfl
      · split at hfailure
        · cases hfailure
          exact tolerates_of_not_isGrammar rfl
        · cases hfailure
    mainMenu := fun _ => tolerates_of_isOk hmenu
    partyCreation := fun _ => tolerates_of_isOk hparty
    characterCreation := fun _ => tolerates_of_isOk hcharacter }

/-! ## Questions -/

/-- A question whose commands do not compile is not asked. -/
theorem askYesNo_of_error {data : GameData} {flaw : Failure} (h : yesNoCommands data = .error flaw)
    (question : String) (session : Session) :
    (askYesNo question).run data session = .error flaw session := by
  have hinsist : (insist question [("yes", .yes), ("no", .no)] "just yes or no").run data session =
      .error flaw session := by
    change (ofExcept (yesNoCommands data) >>= _).run data session = _
    rw [h]
    rfl
  unfold askYesNo
  rw [run_bind, hinsist]

/-- A member is not let go when the player cannot be asked. -/
theorem delete_of_error {data : GameData} {flaw : Failure} (h : yesNoCommands data = .error flaw)
    {member : Character} {question : String}
    (hquestion : data.messages.format StageName.partyCreation "delete confirm"
      [("name", member.name)] = .ok question) (session : Session) :
    (PartyCreation.delete member).run data session = .error flaw session := by
  change (ofExcept (data.messages.format StageName.partyCreation "delete confirm"
    [("name", member.name)]) >>= _).run data session = _
  rw [hquestion]
  change (askYesNo question >>= _).run data session = _
  rw [run_bind, askYesNo_of_error h]

/-! ## Games with data that pass the check -/

/-- With data that pass the check, a game does not fail on its grammar if the commands for yes and
no compile. If they do not, what is wrong with them is the only flaw of the grammar that a game can
fail on, and letting a member go always fails on it. -/
theorem grammar_failures_of_check {data : GameData} (hcheck : checkCommands data = .ok ()) :
    ((∃ set, yesNoCommands data = .ok set) →
      ∀ session failure last, play.run data session = .error failure last →
        failure.cause.isGrammar = false) ∧
    ∀ flaw, yesNoCommands data = .error flaw →
      flaw.cause.isGrammar = true ∧
      (∀ session failure last, play.run data session = .error failure last →
        failure.cause.isGrammar = true → failure.cause = flaw.cause) ∧
      ∀ member question, data.messages.format StageName.partyCreation "delete confirm"
          [("name", member.name)] = .ok question →
        ∀ session, (PartyCreation.delete member).run data session = .error flaw session := by
  have hplay : ∀ session failure last, play.run data session = .error failure last →
      failure.cause.isGrammar = true →
        ∃ flaw, yesNoCommands data = .error flaw ∧ failure.cause = flaw.cause := by
    intro session failure last hrun
    have hadmits := obeys_play (suits_of_check hcheck) session trivial
    rw [hrun] at hadmits
    exact hadmits
  constructor
  · rintro ⟨set, hset⟩ session failure last hrun
    refine Bool.eq_false_iff.2 fun hgrammar => ?_
    obtain ⟨flaw, hflaw, _⟩ := hplay session failure last hrun hgrammar
    rw [hset] at hflaw
    cases hflaw
  · intro flaw hflaw
    refine ⟨CommandSet.isGrammar_of_registerAll hflaw, ?_, ?_⟩
    · intro session failure last hrun hgrammar
      obtain ⟨other, hother, hcause⟩ := hplay session failure last hrun hgrammar
      rw [hflaw] at hother
      cases hother
      exact hcause
    · intro member question hquestion session
      exact delete_of_error hflaw hquestion session

/-- The data of the game without templates for yes. -/
def dataWithoutYes : GameData :=
  { GameData.builtin with
    control := GameData.builtin.control.insertCommand StageName.common "yes" [] }

/-- The check passes these data, and a game with them fails on nothing but the missing templates. -/
theorem dataWithoutYes_failures :
    checkCommands dataWithoutYes = .ok () ∧
      ∃ flaw, yesNoCommands dataWithoutYes = .error flaw ∧ flaw.cause.isGrammar = true ∧
        ∀ session failure last, play.run dataWithoutYes session = .error failure last →
          failure.cause.isGrammar = true → failure.cause = flaw.cause := by
  have hok : (checkCommands dataWithoutYes).toOption.any (fun _ => true) = true := by
    decide +kernel
  obtain ⟨_, hcheck, _⟩ := exists_ok_of_any hok
  have hnone : (yesNoCommands dataWithoutYes).isOk = false := by
    decide +kernel
  cases hyesNo : yesNoCommands dataWithoutYes with
  | ok set =>
    rw [hyesNo] at hnone
    cases hnone
  | error flaw =>
    obtain ⟨hgrammar, honly, _⟩ := (grammar_failures_of_check hcheck).2 flaw hyesNo
    exact ⟨hcheck, flaw, rfl, hgrammar, honly⟩

/-- A game with data that pass the check can end for want of templates. -/
theorem check_misses_yes :
    (checkCommands dataWithoutYes).isOk = true ∧
      (match play.run dataWithoutYes (Session.start dataWithoutYes {
          answers := ["new party", "Band", "add", "Bob", "species human", "background scholar", "done",
            "delete bob"].map .line }) with
        | .ok _ _ => none
        | .error failure _ => some failure.cause) = some (.missingControl "common" "yes") := by
  decide +kernel

end Game

end Muster
