import Muster.Proofs.Game.Drafts
import Muster.Game.Stage

/-!
# What the stages of a game can fail with

A contract suits a game if it leaves room for what any game does: to say something (`Speaks`), to
ask (`Hosts`), to change the party (`Suits`), to lack a message, and to fail at what cannot be
compiled. Every part of the game obeys such a contract, one after the other down to the whole game
(`obeys_play`). A contract that says something about the party and what has been added up is obeyed
if whatever the game does to a party keeps that property (`Lasts`); one that is only `about` these
and the moments has room for all that is said and asked.
-/

namespace Muster.Game

open Muster.Flow Play

/-- The commands with which a question is answered by yes or no. -/
def yesNoCommands (data : GameData) : Except Failure (CommandSet Verdict) :=
  ({ stage := StageName.common } : CommandSet Verdict).registerAll (data.scope none) data.control
    StageName.common [("yes", .yes), ("no", .no)]

/-! ## Messages that a game may say -/

/-- Messages of all stages. -/
def commonMessages : List String :=
  ["empty cmd", "what", "ambiguous cmd", "list leader", "just yes or no", "farewell",
    "farewell with party name", "no such char", "okay"]

/-- Messages of the help browser. -/
def helpMessages : List String := ["general", "prompt", "topics", "no topic", "leaving"]

/-- Messages of the main menu. -/
def menuMessages : List String := ["greeting", "prompt", "party ready"]

/-- Messages of character creation. -/
def characterMessages : List String :=
  ["greeting", "name prompt", "edit greeting", "prompt", "option line", "not selected", "name",
    "species", "bg", "stats", "species list", "bg list", "species set", "invalid species", "bg set",
    "invalid bg", "renamed", "species not selected", "bg not selected"]

/-- Messages of party creation. -/
def partyMessages : List String :=
  ["greeting", "name prompt", "name is", "what next", "added", "add aborted", "edited",
    "delete confirm", "deleted", "kept", "renamed char", "renamed party", "empty party",
    "character list", "char line", "cannot finish", "finished"]

/-- A message that a game may say. -/
inductive Said : String → String → Prop
  | common {key : String} (h : key ∈ commonMessages) : Said StageName.common key
  | help {key : String} (h : key ∈ helpMessages) : Said StageName.help key
  | menu {key : String} (h : key ∈ menuMessages) : Said StageName.mainMenu key
  | character {key : String} (h : key ∈ characterMessages) : Said StageName.characterCreation key
  | party {key : String} (h : key ∈ partyMessages) : Said StageName.partyCreation key

/-! ## Contracts for games -/

/-- The contract leaves room for what is said. -/
structure Speaks (data : GameData) (contract : Contract Session) : Prop where
  say : ∀ text, Obeys data contract (say text)
  message : ∀ stage key, Said stage key → ∀ failure, data.messages.get stage key = .error failure →
    contract.Tolerates failure.cause

/-- The contract leaves room for what is said and asked. -/
structure Hosts (data : GameData) (contract : Contract Session) : Prop
    extends Speaks data contract where
  ask : ∀ prompt, Obeys data contract (ask prompt)
  help : ∀ failure, HelpBrowser.commands data = .error failure → contract.Tolerates failure.cause
  yesNo : ∀ failure, yesNoCommands data = .error failure → contract.Tolerates failure.cause

/-- The contract leaves room for what is added up while a character of the party is in the making. -/
def Tallies (data : GameData) (contract : Contract Session) (party : Party) : Prop :=
  ∀ additions, (∀ addition ∈ additions, CharacterCreation.Expected data party addition) →
    Obeys data contract (tally additions)

/-- Whatever the game does to a party, it keeps its property beside what has been added up, and so it
does however much is added up. -/
structure Lasts (data : GameData) (fits : List Addition → Party → Prop) : Prop where
  grow : ∀ additions more party, fits additions party → fits (additions ++ more) party
  named : ∀ additions name, fits additions (Party.named name)
  rename : ∀ additions party name, fits additions party → fits additions (party.rename name)
  renameMember : ∀ additions party id name, fits additions party →
    fits additions (party.update id (·.rename name))
  remove : ∀ additions party id, fits additions party → fits additions (party.remove id)
  save : ∀ additions party editing (finished : CharacterCreation.Finished), fits additions party →
    finished.Known data party →
    fits (additions ++ CharacterCreation.additions party editing finished)
      (CharacterCreation.save party editing finished).1

/-- The contract leaves room for what a game with the given data does, where the party has a
property that lasts. -/
structure Suits (data : GameData) (contract : Contract Session)
    (fits : List Addition → Party → Prop) : Prop extends Hosts data contract where
  lasts : Lasts data fits
  fits_party : ∀ session, contract.keeps session → ∀ party ∈ session.party,
    fits session.additions party
  setParty : ∀ session (party : Option Party), contract.keeps session →
    (∀ kept ∈ party, fits session.additions kept) → contract.keeps { session with party }
  tally : ∀ session party additions, contract.keeps session → fits session.additions party →
    (∀ addition ∈ additions, CharacterCreation.Expected data party addition) →
    contract.keeps { session with additions := session.additions ++ additions }
  setStage : ∀ stage, Obeys data contract (setStage stage)
  playable : ∀ failure, data.ensurePlayable = .error failure → contract.Tolerates failure.cause
  mainMenu : ∀ failure, MainMenu.commands data = .error failure → contract.Tolerates failure.cause
  partyCreation : ∀ failure, PartyCreation.commands data = .error failure →
    contract.Tolerates failure.cause
  characterCreation : ∀ failure, CharacterCreation.commands data = .error failure →
    contract.Tolerates failure.cause

/-- What holds of every party lasts. -/
theorem lasts_true (data : GameData) : Lasts data fun _ _ => True where
  grow _ _ _ _ := trivial
  named _ _ := trivial
  rename _ _ _ _ := trivial
  renameMember _ _ _ _ _ := trivial
  remove _ _ _ _ := trivial
  save _ _ _ _ _ _ := trivial

variable {data : GameData} {contract : Contract Session}

/-- A property of the party, the moments and what has been added up is kept, and nothing is said of
what may go wrong. -/
def about (p : Option Party → List Moment → List Addition → Prop) : Contract Session where
  keeps session := p session.party session.moments session.additions
  allows _ session := p session.party session.moments session.additions

section

variable {p : Option Party → List Moment → List Addition → Prop}

/-- However a run ends, the property holds then. -/
theorem of_admits_about {α : Type} {outcome : Outcome α} (h : (about p).Admits outcome) :
    p outcome.session.party outcome.session.moments outcome.session.additions := by
  cases outcome with
  | ok a last => exact h
  | error failure last => exact h

theorem obeys_atConsole_about {α : Type} {action : Console.Action α}
    {spares : Console.Spares action} : Obeys data (about p) (atConsole action spares) := by
  intro session h
  unfold atConsole
  cases haction : action session.console with
  | ok a console =>
    simp only [haction]
    exact h
  | error failure console =>
    simp only [haction]
    exact h

theorem speaks_about (p : Option Party → List Moment → List Addition → Prop) :
    Speaks data (about p) where
  say _ := obeys_atConsole_about
  message _ _ _ _ _ _ h := h

/-- Whatever holds on after a question holds of all that is said and asked. -/
theorem hosts_about
    (h : ∀ party moments additions stage, p party moments additions →
      p party (moments ++ [⟨stage, party, additions⟩]) additions) :
    Hosts data (about p) where
  toSpeaks := speaks_about p
  ask _ := Obeys.bind
    (fun session hsession =>
      h session.party session.moments session.additions session.stage hsession)
    fun _ => obeys_atConsole_about
  help _ _ _ hsession := hsession
  yesNo _ _ _ hsession := hsession

/-- Whatever holds however much is added up holds of all that is. -/
theorem tallies_about
    (h : ∀ party moments additions more, p party moments additions →
      p party moments (additions ++ more)) (party : Party) : Tallies data (about p) party :=
  fun more _ session hsession => h session.party session.moments session.additions more hsession

end

/-- Both contracts leave room for what is said and asked. -/
theorem Hosts.both {other : Contract Session} (h : Hosts data contract)
    (hother : Hosts data other) : Hosts data (contract.both other) where
  say text := (h.say text).both (hother.say text)
  message stage key hkey failure hfailure session hsession :=
    ⟨h.message stage key hkey failure hfailure session hsession.1,
      hother.message stage key hkey failure hfailure session hsession.2⟩
  ask prompt := (h.ask prompt).both (hother.ask prompt)
  help failure hfailure session hsession :=
    ⟨h.help failure hfailure session hsession.1, hother.help failure hfailure session hsession.2⟩
  yesNo failure hfailure session hsession :=
    ⟨h.yesNo failure hfailure session hsession.1, hother.yesNo failure hfailure session hsession.2⟩

/-! ## Saying -/

section

variable (h : Speaks data contract)

include h

theorem obeys_get {stage key : String} (hkey : Said stage key) :
    Obeys data contract (ofExcept (data.messages.get stage key)) :=
  obeys_ofExcept (h.message stage key hkey)

theorem obeys_format {stage key : String} (hkey : Said stage key)
    (values : List (String × String)) :
    Obeys data contract (ofExcept (data.messages.format stage key values)) := by
  refine obeys_ofExcept fun failure hfailure => h.message stage key hkey failure ?_
  unfold Messages.format at hfailure
  cases hget : data.messages.get stage key with
  | ok text =>
    rw [hget] at hfailure
    cases hfailure
  | error cause =>
    rw [hget] at hfailure
    exact hfailure

theorem obeys_text {stage key : String} (hkey : Said stage key) :
    Obeys data contract (text stage key) :=
  obeys_data_bind (obeys_get h hkey)

theorem obeys_sayMessage {stage key : String} (hkey : Said stage key) :
    Obeys data contract (sayMessage stage key) :=
  (obeys_text h hkey).bind fun _ => h.say _

theorem obeys_sayFormat {stage key : String} (hkey : Said stage key)
    (values : List (String × String)) : Obeys data contract (sayFormat stage key values) :=
  obeys_data_bind ((obeys_format h hkey values).bind fun _ => h.say _)

theorem obeys_sayItem (item : String) : Obeys data contract (sayItem item) :=
  (obeys_text h (.common (by decide))).bind fun _ => h.say _

theorem obeys_understand {H : Type} (set : CommandSet H) (scope : Scope) (line : String) :
    Obeys data contract (understand set scope line) := by
  unfold understand
  split
  · exact (obeys_sayMessage h (.common (by decide))).bind fun _ => obeys_pure _
  · split
    · exact (obeys_sayMessage h (.common (by decide))).bind fun _ => obeys_pure _
    · exact (obeys_sayMessage h (.common (by decide))).bind fun _ =>
        (obeys_forM fun name => obeys_sayItem h name).bind fun _ => obeys_pure _
    · exact obeys_pure _

theorem obeys_sayFarewell : Obeys data contract sayFarewell := by
  refine obeys_party.bind fun party => ?_
  show Obeys data contract (if _ then _ else _)
  split
  · exact obeys_sayMessage h (.common (by decide))
  · exact obeys_sayFormat h (.common (by decide)) _

theorem obeys_showTopic (topic : String) : Obeys data contract (HelpBrowser.showTopic topic) := by
  refine obeys_data_bind ?_
  split
  · exact h.say _
  · exact obeys_sayFormat h (.help (by decide)) _

theorem obeys_helpAct (state : Unit) (action : HelpBrowser.Action) (bindings : Bindings) :
    Obeys data contract (HelpBrowser.act state action bindings) := by
  cases action with
  | read =>
    simp only [HelpBrowser.act]
    split
    · exact (obeys_showTopic h _).bind fun _ => obeys_pure _
    · exact obeys_pure _
  | topics =>
    refine (obeys_sayMessage h (.help (by decide))).bind fun _ => obeys_data_bind ?_
    exact (obeys_forM fun name => obeys_sayItem h name).bind fun _ => obeys_pure _
  | back => exact (obeys_sayMessage h (.help (by decide))).bind fun _ => obeys_pure _

theorem obeys_sayOptions (options : List Naming) :
    Obeys data contract (CharacterCreation.sayOptions options) :=
  obeys_forM fun _ => obeys_data_bind
    ((obeys_format h (.character (by decide)) _).bind fun _ => obeys_sayItem h _)

theorem obeys_overview {party : Party} (htally : Tallies data contract party)
    {draft : CharacterCreation.Draft} (hdraft : draft.Known data party) :
    Obeys data contract (CharacterCreation.overview draft) := by
  have hline : ∀ key value, key ∈ characterMessages → Obeys data contract (Play.data >>= fun d =>
      ofExcept (d.messages.format StageName.characterCreation key [(key, value)])) :=
    fun key value hkey => obeys_data_bind (obeys_format h (.character hkey) _)
  refine (obeys_text h (.character (by decide))).bind fun unset =>
    (hline _ _ (by decide)).bind fun name => (hline _ _ (by decide)).bind fun species =>
      (hline _ _ (by decide)).bind fun background => ?_
  refine (obeys_forM fun line => h.say line).bind fun _ => ?_
  split
  · next species background hspecies hbackground =>
    refine (htally _ fun addition haddition => ?_).bind fun _ =>
      obeys_sayFormat h (.character (by decide)) _
    rw [List.mem_singleton.1 haddition]
    exact .stats (hdraft.species species hspecies) (hdraft.background background hbackground)
  · exact obeys_pure _

theorem obeys_sayReady : Obeys data contract MainMenu.sayReady := by
  refine obeys_party.bind fun party => ?_
  split
  · exact obeys_sayFormat h (.menu (by decide)) _
  · exact obeys_pure _

omit h in
theorem obeys_roster : Obeys data contract PartyCreation.roster :=
  obeys_party.bind fun _ => obeys_pure _

omit h in
theorem obeys_rosterScope : Obeys data contract PartyCreation.rosterScope :=
  obeys_data_bind (obeys_roster.bind fun _ => obeys_pure _)

theorem obeys_list : Obeys data contract PartyCreation.list := by
  refine obeys_roster.bind fun roster => (obeys_sayFormat h (.party (by decide)) _).bind fun _ => ?_
  split
  · exact obeys_sayMessage h (.party (by decide))
  · exact (obeys_sayMessage h (.party (by decide))).bind fun _ =>
      (obeys_text h (.party (by decide))).bind fun _ => obeys_forM fun _ => obeys_sayItem h _

theorem obeys_done : Obeys data contract PartyCreation.done := by
  refine obeys_roster.bind fun roster => ?_
  split
  · exact (obeys_sayMessage h (.party (by decide))).bind fun _ => obeys_pure _
  · exact (obeys_sayFormat h (.party (by decide)) _).bind fun _ => obeys_pure _

theorem obeys_namedMember (bindings : Bindings) :
    Obeys data contract (PartyCreation.namedMember bindings) := by
  refine obeys_roster.bind fun roster => ?_
  split
  · exact obeys_pure _
  · exact (obeys_sayMessage h (.common (by decide))).bind fun _ => obeys_pure _

end

/-! ## Asking -/

section

variable (h : Hosts data contract)

include h

theorem obeys_askMessage {stage key : String} (hkey : Said stage key) :
    Obeys data contract (askMessage stage key) :=
  (obeys_text h.toSpeaks hkey).bind fun _ => h.ask _

/-- A command loop is obedient if every action is in the states that actions lead to. -/
theorem obeys_commandLoop_of {α σ H : Type} {stage prompt : String} (hprompt : Said stage prompt)
    {set : CommandSet H} {scope : Play Scope} {act : σ → H → Bindings → Play (Turn σ α)}
    {offered : Scope → Prop} {inv : σ → Prop} {p : α → Prop} (hscope : Obeys data contract scope)
    (hoffered : Gives data offered scope)
    (hact : ∀ state, inv state → ∀ action bindings, Obeys data contract (act state action bindings))
    (hinv : ∀ state, inv state → ∀ scope, offered scope → ∀ action (bindings : Bindings),
      bindings.FilledFrom scope → Gives data (Turn.Meets inv p) (act state action bindings))
    {state : σ} (hstate : inv state) :
    Obeys data contract (commandLoop stage prompt set scope act state) := by
  refine obeys_converse_of (obeys_askMessage h hprompt) (fun state hstate line => ?_)
    (fun _ hstate => gives_respond hoffered hinv hstate) hstate
  refine hscope.bind fun scope => (obeys_understand h.toSpeaks set scope line).bind fun meant => ?_
  cases meant with
  | none => exact obeys_pure _
  | some found => exact hact state hstate found.1 found.2

theorem obeys_commandLoop {α σ H : Type} {stage prompt : String} (hprompt : Said stage prompt)
    {set : CommandSet H} {scope : Play Scope} {act : σ → H → Bindings → Play (Turn σ α)}
    (hscope : Obeys data contract scope)
    (hact : ∀ state action bindings, Obeys data contract (act state action bindings)) (state : σ) :
    Obeys data contract (commandLoop stage prompt set scope act state) := by
  have hoffered : Gives data (fun _ => True) scope := fun _ _ _ _ => trivial
  exact obeys_commandLoop_of h hprompt hscope hoffered (fun state _ => hact state)
    (fun _ _ _ _ _ _ _ _ turn _ _ => turn.meets_true) trivial

omit h in
theorem obeys_partylessScope : Obeys data contract partylessScope :=
  obeys_data_bind (obeys_pure _)

theorem obeys_askName {stage prompt : String} (hprompt : Said stage prompt) :
    Obeys data contract (askName stage prompt) := by
  refine obeys_converse (obeys_askMessage h hprompt) (fun _ line => ?_) ()
  simp only
  split
  · exact obeys_pure _
  · exact obeys_pure _

/-- A question fails as its commands do. -/
theorem obeys_askYesNo (question : String) : Obeys data contract (askYesNo question) := by
  refine Obeys.bind ?_ fun verdict => obeys_pure _
  refine obeys_data_bind ((obeys_ofExcept h.yesNo).bind fun set => ?_)
  refine obeys_converse (h.ask question) (fun _ line => ?_) ()
  split
  · exact obeys_pure _
  · exact (obeys_sayMessage h.toSpeaks (.common (by decide))).bind fun _ => obeys_pure _

omit h in
theorem obeys_enterAt {α : Type} {table : EntryTable (Play α)} {entry : String}
    {arg : Option Value} {body : Play α} (hinvoke : table.invoke entry arg = .ok body)
    (hbody : Obeys data contract body) : Obeys data contract (enterAt table entry arg) := by
  unfold enterAt
  rw [hinvoke]
  exact hbody

omit h in
theorem obeys_callAt {α : Type} {table : EntryTable (Play α)} {entry : String}
    {arg : Option Value} {body : Play α} (hinvoke : table.invoke entry arg = .ok body)
    (hbody : Obeys data contract body) : Obeys data contract (callAt table entry arg) :=
  (obeys_enterAt hinvoke hbody).inFrame _

theorem obeys_answerHelp (bindings : Bindings) :
    Obeys data contract (HelpBrowser.answerHelp bindings) := by
  refine obeys_data_bind ((obeys_ofExcept h.help).bind fun set => ?_)
  split
  · exact (obeys_callAt rfl (Obeys.bind (obeys_showTopic h.toSpeaks _) fun _ => obeys_pure _)).bind
      fun _ => obeys_pure _
  · refine (obeys_callAt rfl ?_).bind fun _ => obeys_pure _
    refine obeys_data_bind ((h.say _).bind fun _ =>
      (obeys_sayMessage h.toSpeaks (.help (by decide))).bind fun _ => ?_)
    exact obeys_commandLoop h (.help (by decide)) obeys_partylessScope (obeys_helpAct h.toSpeaks) ()

/-! ### Character creation -/

section

variable {party : Party} (htally : Tallies data contract party)

include htally

theorem obeys_characterAct {draft : CharacterCreation.Draft} (hdraft : draft.Known data party)
    (action : CharacterCreation.Action) (bindings : Bindings) :
    Obeys data contract (CharacterCreation.act draft action bindings) := by
  have hspeaks := h.toSpeaks
  cases action with
  | help => exact (obeys_answerHelp h bindings).bind fun _ => obeys_pure _
  | abort => exact (obeys_sayMessage hspeaks (.common (by decide))).bind fun _ => obeys_pure _
  | overview => exact (obeys_overview hspeaks htally hdraft).bind fun _ => obeys_pure _
  | listSpecies =>
    exact (obeys_sayMessage hspeaks (.character (by decide))).bind fun _ => obeys_data_bind
      ((obeys_sayOptions hspeaks _).bind fun _ => obeys_pure _)
  | listBackgrounds =>
    exact (obeys_sayMessage hspeaks (.character (by decide))).bind fun _ => obeys_data_bind
      ((obeys_sayOptions hspeaks _).bind fun _ => obeys_pure _)
  | setSpecies =>
    simp only [CharacterCreation.act]
    split
    · exact (obeys_sayFormat hspeaks (.character (by decide)) _).bind fun _ => obeys_pure _
    · exact (obeys_sayMessage hspeaks (.character (by decide))).bind fun _ => obeys_pure _
  | setBackground =>
    simp only [CharacterCreation.act]
    split
    · exact (obeys_sayFormat hspeaks (.character (by decide)) _).bind fun _ => obeys_pure _
    · exact (obeys_sayMessage hspeaks (.character (by decide))).bind fun _ => obeys_pure _
  | rename =>
    simp only [CharacterCreation.act]
    split
    · exact obeys_pure _
    · exact (obeys_sayFormat hspeaks (.character (by decide)) _).bind fun _ => obeys_pure _
  | done =>
    simp only [CharacterCreation.act]
    split
    · exact (obeys_sayMessage hspeaks (.character (by decide))).bind fun _ => obeys_pure _
    · exact (obeys_sayMessage hspeaks (.character (by decide))).bind fun _ => obeys_pure _
    · exact obeys_pure _

theorem obeys_finishDraft (set : CommandSet CharacterCreation.Action)
    {draft : CharacterCreation.Draft} (hdraft : draft.Known data party) :
    Obeys data contract (CharacterCreation.finishDraft set draft) :=
  obeys_commandLoop_of h (.character (by decide)) obeys_partylessScope gives_partylessScope
    (fun _ hstate => obeys_characterAct h htally hstate)
    (fun _ hstate _ hscope action _ hfilled =>
      CharacterCreation.gives_act hstate action (hscope ▸ hfilled)) hdraft

theorem obeys_draftNew (set : CommandSet CharacterCreation.Action) :
    Obeys data contract (CharacterCreation.draftNew set) :=
  (obeys_sayMessage h.toSpeaks (.character (by decide))).bind fun _ =>
    (obeys_askName h (.character (by decide))).bind fun name =>
      obeys_finishDraft h htally set (CharacterCreation.known_new party name)

theorem obeys_draftMember (set : CommandSet CharacterCreation.Action) {member : Character}
    (hmem : member ∈ party.members) :
    Obeys data contract (CharacterCreation.draftMember set member) :=
  (obeys_sayFormat h.toSpeaks (.character (by decide)) _).bind fun _ =>
    obeys_finishDraft h htally set (CharacterCreation.known_of_mem hmem)

omit h in
theorem obeys_settle {editing : Option Nat} {finished : Option CharacterCreation.Finished}
    (hknown : ∀ found ∈ finished, found.Known data party) :
    Obeys data contract (CharacterCreation.settle party editing finished) := by
  refine (htally _ fun addition haddition => ?_).bind fun _ => obeys_pure _
  cases finished with
  | none => exact absurd haddition List.not_mem_nil
  | some found =>
    exact CharacterCreation.expected_additions (hknown found rfl) editing addition haddition

theorem obeys_create (set : CommandSet CharacterCreation.Action) :
    Obeys data contract (CharacterCreation.create set party) :=
  (obeys_draftNew h htally set).bind_yields (CharacterCreation.gives_draftNew set party).yields
    fun _ => obeys_settle htally

theorem obeys_editCharacter (set : CommandSet CharacterCreation.Action) (id : Nat) :
    Obeys data contract (CharacterCreation.edit set party (.int id)) := by
  unfold CharacterCreation.edit
  simp only [CharacterCreation.memberOf?_natCast]
  split
  · exact (obeys_sayMessage h.toSpeaks (.common (by decide))).bind fun _ => obeys_pure _
  · next member hget =>
    have hmem := List.mem_of_find?_eq_some hget
    exact (obeys_draftMember h htally set hmem).bind_yields
      (CharacterCreation.gives_draftMember set hmem).yields fun _ => obeys_settle htally

theorem obeys_call_new (set : CommandSet CharacterCreation.Action) :
    Obeys data contract (CharacterCreation.call set party "new" none) :=
  obeys_callAt rfl (obeys_create h htally set)

theorem obeys_call_edit (set : CommandSet CharacterCreation.Action) (id : Nat) :
    Obeys data contract (CharacterCreation.call set party "edit" (some (.int id))) :=
  obeys_callAt rfl (obeys_editCharacter h htally set id)

end

/-! ### The main menu -/

theorem obeys_menuAct (state : Unit) (action : MainMenu.Action) (bindings : Bindings) :
    Obeys data contract (MainMenu.act state action bindings) := by
  cases action with
  | help => exact (obeys_answerHelp h bindings).bind fun _ => obeys_pure _
  | quit => exact (obeys_sayFarewell h.toSpeaks).bind fun _ => obeys_pure _
  | newParty => exact obeys_pure _

theorem obeys_attend (set : CommandSet MainMenu.Action) :
    Obeys data contract (MainMenu.attend set) :=
  obeys_commandLoop h (.menu (by decide)) obeys_partylessScope (obeys_menuAct h) ()

end

/-! ## Changing the party -/

/-- What has been added up goes with the party. -/
def holding (fits : List Addition → Party → Prop) (party : Party) : Contract Session :=
  about fun _ _ additions => fits additions party

section

variable {fits : List Addition → Party → Prop} (h : Suits data contract fits)

include h

/-- Beside what is kept, a party may be kept in mind that goes with what has been added up. -/
theorem hosts_holding (party : Party) : Hosts data (contract.both (holding fits party)) :=
  h.toHosts.both (hosts_about fun _ _ _ _ hfits => hfits)

theorem tallies_holding (party : Party) :
    Tallies data (contract.both (holding fits party)) party := fun additions hadditions session hsession =>
  ⟨h.tally session party additions hsession.1 hsession.2 hadditions,
    h.lasts.grow session.additions additions party hsession.2⟩

/-- The party that is being assembled goes with what has been added up. -/
theorem obeys_roster_bind {α : Type} {f : Party → Play α}
    (hf : ∀ roster, Obeys data (contract.both (holding fits roster)) (f roster)) :
    Obeys data contract (PartyCreation.roster >>= f) := by
  intro session hkeeps
  refine (Contract.admits_both.1 (hf (session.party.getD (Party.named "")) session ⟨hkeeps, ?_⟩)).1
  show fits session.additions (session.party.getD (Party.named ""))
  cases hparty : session.party with
  | none => exact h.lasts.named session.additions ""
  | some kept => exact h.fits_party session hkeeps kept hparty

/-- The party becomes one that goes with what has been added up. -/
theorem obeys_setParty {roster party : Party}
    (hparty : ∀ additions, fits additions roster → fits additions party) :
    Obeys data (contract.both (holding fits roster)) (setParty (some party)) := by
  intro session hsession
  refine ⟨h.setParty session (some party) hsession.1 fun kept hkept => ?_, hsession.2⟩
  rw [Option.mem_some_iff] at hkept
  exact hkept ▸ hparty session.additions hsession.2

/-- Whether a draft has been saved or given up, the party goes with what has been added up then. -/
theorem yields_settle {party : Party} {editing : Option Nat}
    {finished : Option CharacterCreation.Finished}
    (hknown : ∀ found ∈ finished, found.Known data party) :
    Yields data (contract.both (holding fits party))
      (fun result session => fits session.additions result.1)
      (CharacterCreation.settle party editing finished) := by
  intro session hsession result next hrun
  cases finished with
  | none =>
    cases hrun
    exact h.lasts.grow session.additions [] party hsession.2
  | some found =>
    cases hrun
    exact h.lasts.save session.additions party editing found hsession.2 (hknown found rfl)

theorem yields_create (set : CommandSet CharacterCreation.Action) (party : Party) :
    Yields data (contract.both (holding fits party))
      (fun result session => fits session.additions result.1)
      (CharacterCreation.create set party) :=
  Yields.bind (obeys_draftNew (hosts_holding h party) (tallies_holding h party) set)
    (CharacterCreation.gives_draftNew set party).yields fun _ => yields_settle h

theorem yields_editCharacter (set : CommandSet CharacterCreation.Action) (party : Party) (id : Nat) :
    Yields data (contract.both (holding fits party))
      (fun result session => fits session.additions result.1)
      (CharacterCreation.edit set party (.int id)) := by
  have hhosts := hosts_holding h party
  unfold CharacterCreation.edit
  simp only [CharacterCreation.memberOf?_natCast]
  split
  · exact Yields.of_bind (obeys_sayMessage hhosts.toSpeaks (.common (by decide))) fun _ =>
      yields_pure fun _ hsession => hsession.2
  · next member hget =>
    have hmem := List.mem_of_find?_eq_some hget
    exact Yields.bind (obeys_draftMember hhosts (tallies_holding h party) set hmem)
      (CharacterCreation.gives_draftMember set hmem).yields fun _ => yields_settle h

/-- After character creation the party becomes what that ended with. -/
theorem obeys_call_bind {roster : Party} {x : Play (Party × Option Value)}
    {f : Party × Option Value → Play Unit}
    (hx : Obeys data (contract.both (holding fits roster)) x)
    (hyields : Yields data (contract.both (holding fits roster))
      (fun result session => fits session.additions result.1) x)
    (hf : ∀ result, Obeys data (contract.both (holding fits roster)) (f result)) :
    Obeys data (contract.both (holding fits roster))
      (x >>= fun result => setParty (some result.1) >>= fun _ => f result) := by
  intro session hsession
  refine admits_bind (hx session hsession) fun result next hrun hnext => ?_
  refine hf result { next with party := some result.1 } ⟨?_, hnext.2⟩
  refine h.setParty next (some result.1) hnext.1 fun kept hkept => ?_
  rw [Option.mem_some_iff] at hkept
  exact hkept ▸ hyields session hsession result next hrun

theorem obeys_add : Obeys data contract PartyCreation.add := by
  refine obeys_data_bind ((obeys_ofExcept h.characterCreation).bind fun set => ?_)
  refine obeys_roster_bind h fun roster => ?_
  have hhosts := hosts_holding h roster
  have hyields : Yields _ _ _ (CharacterCreation.call set roster "new" none) :=
    Yields.inFrame (yields_create h set roster) _
  refine obeys_call_bind h (obeys_call_new hhosts (tallies_holding h roster) set) hyields
    fun result => ?_
  split
  · exact obeys_sayFormat hhosts.toSpeaks (.party (by decide)) _
  · exact obeys_sayMessage hhosts.toSpeaks (.party (by decide))

theorem obeys_edit (member : Character) : Obeys data contract (PartyCreation.edit member) := by
  refine obeys_data_bind ((obeys_ofExcept h.characterCreation).bind fun set => ?_)
  refine obeys_roster_bind h fun roster => ?_
  have hhosts := hosts_holding h roster
  have hyields : Yields _ _ _
      (CharacterCreation.call set roster "edit" (some (.int member.id))) :=
    Yields.inFrame (yields_editCharacter h set roster member.id) _
  refine obeys_call_bind h (obeys_call_edit hhosts (tallies_holding h roster) set member.id) hyields
    fun result => ?_
  split
  · exact obeys_sayFormat hhosts.toSpeaks (.party (by decide)) _
  · exact obeys_pure _

theorem obeys_delete (member : Character) : Obeys data contract (PartyCreation.delete member) := by
  refine obeys_data_bind ((obeys_format h.toSpeaks (.party (by decide)) _).bind fun question => ?_)
  refine (obeys_askYesNo h.toHosts question).bind fun sure => ?_
  split
  · refine obeys_roster_bind h fun roster => ?_
    exact (obeys_setParty h fun additions => h.lasts.remove additions roster member.id).bind
      fun _ => obeys_sayFormat (hosts_holding h roster).toSpeaks (.party (by decide)) _
  · exact obeys_sayFormat h.toSpeaks (.party (by decide)) _

theorem obeys_renameCharacter (member : Character) (bindings : Bindings) :
    Obeys data contract (PartyCreation.renameCharacter member bindings) := by
  refine obeys_roster_bind h fun roster => ?_
  exact (obeys_setParty h fun additions =>
      h.lasts.renameMember additions roster member.id _).bind
    fun _ => obeys_sayFormat (hosts_holding h roster).toSpeaks (.party (by decide)) _

theorem obeys_renameParty (bindings : Bindings) :
    Obeys data contract (PartyCreation.renameParty bindings) := by
  refine obeys_roster_bind h fun roster => ?_
  exact (obeys_setParty h fun additions => h.lasts.rename additions roster _).bind
    fun _ => obeys_sayFormat (hosts_holding h roster).toSpeaks (.party (by decide)) _

theorem obeys_withNamed (bindings : Bindings) {body : Character → Play Unit}
    (hbody : ∀ member, Obeys data contract (body member)) :
    Obeys data contract (PartyCreation.withNamed bindings body) := by
  refine (obeys_namedMember h.toSpeaks bindings).bind fun named => ?_
  cases named with
  | none => exact obeys_pure _
  | some member => exact (hbody member).bind fun _ => obeys_pure _

theorem obeys_partyAct (state : Unit) (action : PartyCreation.Action) (bindings : Bindings) :
    Obeys data contract (PartyCreation.act state action bindings) := by
  cases action with
  | abort =>
    refine (obeys_sayMessage h.toSpeaks (.common (by decide))).bind fun _ => ?_
    refine Obeys.bind (fun session hsession => ?_) fun _ => obeys_pure _
    exact h.setParty session none hsession fun kept hkept => absurd hkept (Option.not_mem_none kept)
  | help => exact (obeys_answerHelp h.toHosts bindings).bind fun _ => obeys_pure _
  | quit => exact (obeys_sayFarewell h.toSpeaks).bind fun _ => obeys_pure _
  | add => exact (obeys_add h).bind fun _ => obeys_pure _
  | edit => exact obeys_withNamed h bindings (obeys_edit h)
  | delete => exact obeys_withNamed h bindings (obeys_delete h)
  | renameCharacter =>
    exact obeys_withNamed h bindings fun member => obeys_renameCharacter h member bindings
  | renameParty => exact (obeys_renameParty h bindings).bind fun _ => obeys_pure _
  | list => exact (obeys_list h.toSpeaks).bind fun _ => obeys_pure _
  | done => exact obeys_done h.toSpeaks

/-- A new party goes with whatever has been added up. -/
theorem obeys_setNamed (name : String) :
    Obeys data contract (setParty (some (Party.named name))) := by
  intro session hsession
  refine h.setParty session (some (Party.named name)) hsession fun kept hkept => ?_
  rw [Option.mem_some_iff] at hkept
  exact hkept ▸ h.lasts.named session.additions name

theorem obeys_startParty (set : CommandSet PartyCreation.Action) :
    Obeys data contract (PartyCreation.start set) :=
  (obeys_sayMessage h.toSpeaks (.party (by decide))).bind fun _ =>
    (obeys_askName h.toHosts (.party (by decide))).bind fun name =>
      (obeys_setNamed h name).bind fun _ =>
        (obeys_sayFormat h.toSpeaks (.party (by decide)) _).bind fun _ =>
          obeys_commandLoop h.toHosts (.party (by decide)) obeys_rosterScope (obeys_partyAct h) ()

/-! ## Stages in turn -/

/-- The points at which stages are entered in a game. -/
inductive Awaits : Stage → String → Option Value → Prop
  | start : Awaits .startup "start" none
  | menu (set : CommandSet MainMenu.Action) : Awaits (.mainMenu set) "start" none
  | back (set : CommandSet MainMenu.Action) : Awaits (.mainMenu set) "from party creation" none
  | party (set : CommandSet PartyCreation.Action) :
    Awaits (.partyCreation set) "from main menu" none

/-- The signal ends the game without a value, or enters a stage where one is entered. -/
def Leads : Signal Stage → Prop
  | .again => False
  | .change next entry arg => Awaits next entry arg
  | .finish value => value = none

theorem obeys_toMainMenu (entry : String) : Obeys data contract (Stage.toMainMenu entry) :=
  obeys_data_bind ((obeys_ofExcept h.mainMenu).bind fun _ => obeys_pure _)

theorem obeys_toPartyCreation : Obeys data contract Stage.toPartyCreation :=
  obeys_data_bind ((obeys_ofExcept h.partyCreation).bind fun _ => obeys_pure _)

/-- A stage that is entered where it may be obeys the contract. -/
theorem obeys_enter {stage : Stage} {entry : String} {arg : Option Value}
    (hawaits : Awaits stage entry arg) : Obeys data contract (stage.enter entry arg) := by
  refine (h.setStage _).bind fun _ => ?_
  -- the signal for what comes next depends on why the stage has been left
  have hmenu : ∀ next : MainMenu.Departure → Play (Signal Stage),
      next .quit = pure (.finish none) → next .newParty = Stage.toPartyCreation →
      ∀ departure, Obeys data contract (next departure) := by
    intro next hquit hnew departure
    cases departure with
    | quit =>
      rw [hquit]
      exact obeys_pure _
    | newParty =>
      rw [hnew]
      exact obeys_toPartyCreation h
  cases hawaits with
  | start =>
    refine obeys_enterAt rfl (obeys_data_bind ((obeys_ofExcept h.playable).bind fun _ => ?_))
    exact obeys_toMainMenu h _
  | menu set =>
    refine (obeys_enterAt rfl ?_).bind (hmenu _ rfl rfl)
    exact (obeys_sayMessage h.toSpeaks (.menu (by decide))).bind fun _ => obeys_attend h.toHosts set
  | back set =>
    refine (obeys_enterAt rfl ?_).bind (hmenu _ rfl rfl)
    exact (obeys_sayReady h.toSpeaks).bind fun _ => obeys_attend h.toHosts set
  | party set =>
    refine (obeys_enterAt rfl (obeys_startParty h set)).bind fun departure => ?_
    cases departure with
    | quit => exact obeys_pure _
    | toMainMenu => exact obeys_toMainMenu h _

omit h in
theorem leads_toMainMenu {entry : String} (hawaits : ∀ set, Awaits (.mainMenu set) entry none) :
    Gives data Leads (Stage.toMainMenu entry) :=
  Gives.of_bind fun _ => Gives.of_bind fun set => gives_pure (hawaits set)

omit h in
/-- What follows a stage is entered where it may be. -/
theorem leads_enter {stage : Stage} {entry : String} {arg : Option Value}
    (hawaits : Awaits stage entry arg) : Gives data Leads (stage.enter entry arg) := by
  refine Gives.of_bind fun _ => ?_
  have hmenu : ∀ next : MainMenu.Departure → Play (Signal Stage), next .quit = pure (.finish none) →
      next .newParty = Stage.toPartyCreation → ∀ departure, Gives data Leads (next departure) := by
    intro next hquit hnew departure
    cases departure with
    | quit =>
      rw [hquit]
      exact gives_pure rfl
    | newParty =>
      rw [hnew]
      exact Gives.of_bind fun _ => Gives.of_bind fun set => gives_pure (Awaits.party set)
  cases hawaits with
  | start =>
    have hstart : Gives data Leads Stage.startUp :=
      Gives.of_bind fun _ => Gives.of_bind fun _ => leads_toMainMenu Awaits.menu
    exact hstart
  | menu set => exact Gives.of_bind (hmenu _ rfl rfl)
  | back set => exact Gives.of_bind (hmenu _ rfl rfl)
  | party set =>
    refine Gives.of_bind fun departure => ?_
    cases departure with
    | quit => exact gives_pure rfl
    | toMainMenu => exact leads_toMainMenu Awaits.back

/-- From stage to stage the contract is obeyed: by induction on the bound. -/
theorem admits_callFrom (bound : Nat) {stage : Stage} {entry : String} {arg : Option Value}
    (hawaits : Awaits stage entry arg) {session : Session}
    (hbound : stage.turnsLeft session < bound) (hkeeps : contract.keeps session) :
    contract.Admits (Stage.callFrom data bound stage entry arg session hbound) ∧
      ∀ value last, Stage.callFrom data bound stage entry arg session hbound = .ok value last →
        value = none := by
  induction bound generalizing stage entry arg session with
  | zero => omega
  | succ bound ih =>
    have hadmits := obeys_enter h hawaits session hkeeps
    have hleads : Gives data Leads (stage.enter entry arg) := leads_enter hawaits
    unfold Stage.callFrom
    split
    · next failure last hrun =>
      rw [hrun] at hadmits
      exact ⟨hadmits, fun _ _ h => by cases h⟩
    · next value last hrun =>
      rw [hrun] at hadmits
      refine ⟨hadmits, fun value' last' h => ?_⟩
      cases h
      exact hleads session _ _ hrun
    · next last hrun => exact (hleads session _ _ hrun).elim
    · next next nextEntry nextArg last hrun =>
      rw [hrun] at hadmits
      exact ih (hleads session _ _ hrun) _ hadmits

/-- The whole game obeys the contract. -/
theorem obeys_play : Obeys data contract play := by
  intro session hkeeps
  obtain ⟨hadmits, hnone⟩ := admits_callFrom h _ Awaits.start (Nat.lt_succ_self _) hkeeps
  show contract.Admits (Play.run (_ >>= _) data session)
  rw [run_bind]
  cases hcall : (Stage.startup.call "start" none).run data session with
  | error failure last =>
    rw [show Stage.callFrom data _ _ _ _ session _ = _ from hcall] at hadmits
    exact hadmits
  | ok value last =>
    rw [show Stage.callFrom data _ _ _ _ session _ = _ from hcall] at hadmits
    rw [hnone value last hcall]
    exact hadmits

end

end Muster.Game
