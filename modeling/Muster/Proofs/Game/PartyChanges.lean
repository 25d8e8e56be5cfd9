import Muster.Proofs.Game.Rounds
import Muster.Proofs.Game.Stages
import Muster.Proofs.Roster.Members

/-!
# What changes the party

In party creation the party changes by a few commands, each in its own way (`Change`), and by
nothing else: not by what the player types into the stages that are called, nor by what is said or
asked on the way (`leaves_act`).
-/

namespace Muster.Game.PartyCreation

open Muster.Flow Play

variable {α β : Type} {data : GameData}

/-! ## Lines and their commands -/

/-- Does what a line has been found to mean. -/
def follow (state : Unit) : Option (Action × Bindings) → Play (Turn Unit Departure)
  | none => pure (.again state)
  | some (action, bindings) => act state action bindings

/-- What party creation makes of a line. -/
def respond (set : CommandSet Action) (state : Unit) (line : String) : Play (Turn Unit Departure) :=
  rosterScope >>= fun scope => understand set scope line >>= follow state

theorem assemble_eq_converse (set : CommandSet Action) :
    assemble set = converse (askMessage StageName.partyCreation "what next")
      (reads_askMessage StageName.partyCreation "what next") (respond set) () :=
  commandLoop_eq_converse follow (fun _ => rfl) (fun _ _ _ => rfl) ()

/-- A line that is meant for exactly one command, with the slots that it fills. -/
structure Means (set : CommandSet Action) (scope : Scope) (line : String) (action : Action)
    (bindings : Bindings) : Prop where
  notBlank : Text.isBlank line.toList = false
  dispatch : ∃ name, set.dispatch scope line = .matched name action bindings

/-- A line is meant for one command, or the player is told that it is not. -/
theorem understand_cases (set : CommandSet Action) (scope : Scope) (line : String) :
    Gives data (· = none) (understand set scope line) ∨
      ∃ action bindings, Means set scope line action bindings ∧
        understand set scope line = pure (some (action, bindings)) := by
  have hcases : (_ ∧ Gives data _ _) ∨ _ := understand_meaning set scope line
  rcases hcases with ⟨_, hnone⟩ | ⟨⟨action, bindings⟩, hmeaning, hunderstood⟩
  · exact Or.inl hnone
  · obtain ⟨hblank, hdispatch⟩ := meaning_eq_some_iff.1 hmeaning
    exact Or.inr ⟨action, bindings, ⟨hblank, hdispatch⟩, hunderstood⟩

/-- The member that a slot names. -/
def Names (party : Party) (bindings : Bindings) (member : Character) : Prop :=
  bindings.member?.bind party.get? = some member

/-- The name that fills the slot for one, in display form. -/
def givenName (bindings : Bindings) : String := displayName ((bindings.text? .name).getD "")

/-! ## Changes -/

/-- How a command changes the party, given the session in which its line has been read. -/
inductive Change (data : GameData) (heard : Session) (party : Party) (bindings : Bindings) :
    Action → Party → Prop
  /-- Character creation has ended with a new character, who joins. -/
  | join {set : CommandSet CharacterCreation.Action} {finished : CharacterCreation.Finished}
    {value : Value} {last : Session} (hset : CharacterCreation.commands data = .ok set)
    (hcall : (CharacterCreation.call set party "new" none).run data heard =
      .ok ((CharacterCreation.save party none finished).1, some value) last) :
    Change data heard party bindings .add (CharacterCreation.save party none finished).1
  /-- Character creation has ended with a draft for the member that is named. -/
  | edit {member : Character} {set : CommandSet CharacterCreation.Action}
    {finished : CharacterCreation.Finished} {value : Value} {last : Session}
    (hnames : Names party bindings member) (hset : CharacterCreation.commands data = .ok set)
    (hcall : (CharacterCreation.call set party "edit" (some (.int member.id))).run data heard =
      .ok ((CharacterCreation.save party (some member.id) finished).1, some value) last) :
    Change data heard party bindings .edit
      (CharacterCreation.save party (some member.id) finished).1
  /-- The player has said yes to letting the member go that is named. -/
  | delete {member : Character} {before after : List Character} {question : String} {last : Session}
    (hnames : Names party bindings member) (hmembers : party.members = before ++ member :: after)
    (hbefore : ∀ other ∈ before, other.id ≠ member.id)
    (hquestion : data.messages.format StageName.partyCreation "delete confirm"
      [("name", member.name)] = .ok question)
    (hyes : (askYesNo question).run data heard = .ok true last) :
    Change data heard party bindings .delete { party with members := before ++ after }
  /-- The member that is named goes by the name that is given, and by aliases that suit it. -/
  | renameCharacter {member : Character} {before after : List Character}
    (hnames : Names party bindings member) (hmembers : party.members = before ++ member :: after)
    (hbefore : ∀ other ∈ before, other.id ≠ member.id) :
    Change data heard party bindings .renameCharacter
      { party with
        members := before ++ { member with
          name := givenName bindings
          aliases := (member.rename (givenName bindings)).aliases } :: after }
  /-- The party goes by the name that is given. -/
  | renameParty :
    Change data heard party bindings .renameParty { party with name := givenName bindings }

/-! ## Standing still -/

/-- At the moments that have come after the earlier ones, the party was as given. -/
def Shown (party : Option Party) (earlier moments : List Moment) : Prop :=
  ∃ more, moments = earlier ++ more ∧ ∀ moment ∈ more, moment.party = party

theorem shown_refl (party : Option Party) (moments : List Moment) : Shown party moments moments :=
  ⟨[], (List.append_nil _).symm, fun _ h => by cases h⟩

theorem Shown.trans {party : Option Party} {earlier moments later : List Moment}
    (h : Shown party earlier moments) (hlater : Shown party moments later) :
    Shown party earlier later := by
  obtain ⟨first, hfirst, hall⟩ := h
  obtain ⟨more, hmore, hallMore⟩ := hlater
  refine ⟨first ++ more, ?_, fun moment hmem => ?_⟩
  · rw [hmore, hfirst, List.append_assoc]
  · rcases List.mem_append.1 hmem with hmem | hmem
    · exact hall moment hmem
    · exact hallMore moment hmem

theorem shown_append (moment : Moment) (moments : List Moment) :
    Shown moment.party moments (moments ++ [moment]) := by
  refine ⟨[moment], rfl, fun other hmem => ?_⟩
  rw [List.mem_singleton] at hmem
  rw [hmem]

/-- The party is what it was, and was so whenever something was asked since. -/
def steady (session : Session) : Contract Session :=
  about fun party moments _ =>
    party = session.party ∧ Shown session.party session.moments moments

/-- The party is what it was, and nothing has been asked since. -/
def quiet (session : Session) : Contract Session :=
  about fun party moments _ => party = session.party ∧ moments = session.moments

theorem hosts_steady (session : Session) : Hosts data (steady session) := by
  refine hosts_about fun party moments additions stage h => ?_
  obtain ⟨hparty, hshown⟩ := h
  have hasked := shown_append ⟨stage, party, additions⟩ moments
  rw [hparty] at hasked ⊢
  exact ⟨rfl, hshown.trans hasked⟩

/-- What is added up is no change to the party. -/
theorem tallies_steady (session : Session) (party : Party) :
    Tallies data (steady session) party := tallies_about (fun _ _ _ _ h => h) party

theorem keeps_steady (session : Session) : (steady session).keeps session :=
  ⟨rfl, shown_refl _ _⟩

theorem speaks_quiet (session : Session) : Speaks data (quiet session) := speaks_about _

/-! ## The party that is assembled -/

/-- While there is a party, it is the one that is being assembled. -/
theorem run_roster {heard : Session} {party : Party} (hparty : heard.party = some party) :
    roster.run data heard = .ok party heard := by
  show EStateM.Result.ok (heard.party.getD (Party.named "")) heard = _
  rw [hparty, Option.getD_some]

/-- While there is a party, slots can refer to its members. -/
theorem run_rosterScope {heard : Session} {party : Party} (hparty : heard.party = some party) :
    rosterScope.run data heard = .ok (data.scope (some party)) heard := by
  show EStateM.Result.ok (data.scope (some (heard.party.getD (Party.named "")))) heard = _
  rw [hparty, Option.getD_some]

/-! ## What comes of a command -/

/-- Whatever was asked on the way, the party was as before; and then it has been changed by the
command, or not at all. -/
structure Leaves (data : GameData) (heard : Session) (party : Party) (bindings : Bindings)
    (action : Action) (last : Session) : Prop where
  shown : Shown (some party) heard.moments last.moments
  party : last.party = some party ∨
    ∃ next, Change data heard party bindings action next ∧ last.party = some next

section

variable {heard : Session} {party : Party} {bindings : Bindings} {action : Action}
  (hparty : heard.party = some party)

include hparty

theorem leaves_of_keeps {last : Session} (h : (steady heard).keeps last) :
    Leaves data heard party bindings action last := by
  obtain ⟨hlast, hshown⟩ := h
  rw [hparty] at hlast hshown
  exact ⟨hshown, Or.inl hlast⟩

omit hparty in
theorem keeps_of_obeys {last : Session} (h : (steady heard).keeps last) {x : Play α}
    (hx : Obeys data (steady heard) x) : (steady heard).keeps (x.run data last).session :=
  of_admits_about (hx last h)

theorem leaves_of_obeys {last : Session} (h : (steady heard).keeps last) {x : Play α}
    (hx : Obeys data (steady heard) x) :
    Leaves data heard party bindings action (x.run data last).session :=
  leaves_of_keeps hparty (keeps_of_obeys h hx)

/-- A part that leaves the party alone, before a part that may change it. -/
theorem leaves_bind {x : Play β} {f : β → Play α} (hx : Obeys data (steady heard) x)
    (hf : ∀ b last, x.run data heard = .ok b last → (steady heard).keeps last →
      Leaves data heard party bindings action ((f b).run data last).session) :
    Leaves data heard party bindings action ((x >>= f).run data heard).session := by
  have hadmits := hx heard (keeps_steady heard)
  rw [run_bind]
  cases hrun : x.run data heard with
  | ok b last =>
    rw [hrun] at hadmits
    exact hf b last hrun hadmits
  | error failure last =>
    rw [hrun] at hadmits
    exact leaves_of_keeps hparty hadmits

theorem leaves_roster_bind {f : Party → Play α} {last : Session} (h : (steady heard).keeps last)
    (hf : Leaves data heard party bindings action ((f party).run data last).session) :
    Leaves data heard party bindings action ((roster >>= f).run data last).session := by
  rw [run_bind, run_roster (h.1.trans hparty)]
  exact hf

omit hparty in
/-- When the party is replaced and then only something is said, the new party is there. -/
theorem run_setParty_bind {f : Unit → Play α} (hf : ∀ session, Obeys data (quiet session) (f ()))
    (next : Party) (last : Session) :
    ((setParty (some next) >>= f).run data last).session.party = some next ∧
      ((setParty (some next) >>= f).run data last).session.moments = last.moments :=
  of_admits_about (hf { last with party := some next } _ ⟨rfl, rfl⟩)

/-- The party is replaced, and then only something is said. -/
theorem leaves_setParty_bind {last : Session} (h : (steady heard).keeps last) {next : Party}
    (hnext : next = party ∨ Change data heard party bindings action next) {f : Unit → Play α}
    (hf : ∀ session, Obeys data (quiet session) (f ())) :
    Leaves data heard party bindings action
      ((setParty (some next) >>= f).run data last).session := by
  obtain ⟨_, hshown⟩ := h
  obtain ⟨hlast, hmoments⟩ := run_setParty_bind hf next last
  refine ⟨?_, ?_⟩
  · rw [hmoments, ← hparty]
    exact hshown
  · rw [hlast]
    rcases hnext with rfl | hchange
    · exact Or.inl rfl
    · exact Or.inr ⟨next, hchange, rfl⟩

/-! ## Command by command -/

omit hparty in
theorem of_run_ofExcept {x : Except Failure α} {a : α} {session next : Session}
    (h : (ofExcept x).run data session = .ok a next) : x = .ok a ∧ session = next := by
  cases x with
  | ok b =>
    cases h
    exact ⟨rfl, rfl⟩
  | error failure => cases h

omit hparty in
/-- What is computed from the data leaves everything alone. -/
theorem obeys_ofExcept_steady (x : Except Failure α) : Obeys data (steady heard) (ofExcept x) :=
  obeys_ofExcept fun _ _ _ h => h

omit hparty in
/-- Character creation has given the party back, or with a finished draft and a value. -/
theorem concludes_cases {editing : Option Nat} {next : Party} {value : Option Value}
    (h : CharacterCreation.Concludes data party editing (next, value)) :
    next = party ∨ ∃ finished number, next = (CharacterCreation.save party editing finished).1 ∧
      value = some number := by
  obtain ⟨finished, _, hresult⟩ := h
  cases finished with
  | none => exact Or.inl (congrArg Prod.fst hresult)
  | some finished =>
    exact Or.inr ⟨finished, _, congrArg Prod.fst hresult, congrArg Prod.snd hresult⟩

theorem leaves_add : Leaves data heard party bindings .add (add.run data heard).session := by
  show Leaves data heard party bindings .add
    ((ofExcept (CharacterCreation.commands data) >>= _).run data heard).session
  refine leaves_bind hparty (obeys_ofExcept_steady _) fun set _ hrun _ => ?_
  obtain ⟨hset, rfl⟩ := of_run_ofExcept hrun
  refine leaves_roster_bind hparty (keeps_steady _) ?_
  refine leaves_bind hparty (obeys_call_new (hosts_steady _) (tallies_steady _ party) set) ?_
  intro ⟨next, value⟩ final hcall hfinal
  have hresult := concludes_cases (CharacterCreation.gives_call_new set party _ _ _ hcall)
  show Leaves data heard party bindings .add ((setParty (some next) >>= _).run data final).session
  refine leaves_setParty_bind hparty hfinal ?_ fun session => ?_
  · rcases hresult with hsame | ⟨finished, number, rfl, rfl⟩
    · exact Or.inl hsame
    · exact Or.inr (.join hset hcall)
  · split
    · exact obeys_sayFormat (speaks_quiet session) (.party (by decide)) _
    · exact obeys_sayMessage (speaks_quiet session) (.party (by decide))

theorem leaves_edit {member : Character} (hnames : Names party bindings member) :
    Leaves data heard party bindings .edit ((edit member).run data heard).session := by
  show Leaves data heard party bindings .edit
    ((ofExcept (CharacterCreation.commands data) >>= _).run data heard).session
  refine leaves_bind hparty (obeys_ofExcept_steady _) fun set _ hrun _ => ?_
  obtain ⟨hset, rfl⟩ := of_run_ofExcept hrun
  refine leaves_roster_bind hparty (keeps_steady _) ?_
  refine leaves_bind hparty (obeys_call_edit (hosts_steady _) (tallies_steady _ party) set member.id) ?_
  intro ⟨next, value⟩ final hcall hfinal
  have hresult :=
    concludes_cases (CharacterCreation.gives_call_edit set party member.id _ _ _ hcall)
  show Leaves data heard party bindings .edit ((setParty (some next) >>= _).run data final).session
  refine leaves_setParty_bind hparty hfinal ?_ fun session => ?_
  · rcases hresult with hsame | ⟨finished, number, rfl, rfl⟩
    · exact Or.inl hsame
    · exact Or.inr (.edit hnames hset hcall)
  · split
    · exact obeys_sayFormat (speaks_quiet session) (.party (by decide)) _
    · exact obeys_pure _

omit hparty in
/-- A member that a slot names stands between others, none of which has its number. -/
theorem Names.exists_append {member : Character} (h : Names party bindings member) :
    ∃ before after, party.members = before ++ member :: after ∧
      ∀ other ∈ before, other.id ≠ member.id := by
  obtain ⟨id, _, hget⟩ := Option.bind_eq_some_iff.1 h
  obtain ⟨rfl, before, after, hmembers, hbefore⟩ := Party.get?_eq_some hget
  exact ⟨before, after, hmembers, hbefore⟩

omit hparty in
/-- The member of a number gets another name in its place. -/
theorem update_rename {member : Character} {before after : List Character} (name : String)
    (hmembers : party.members = before ++ member :: after)
    (hbefore : ∀ other ∈ before, other.id ≠ member.id) :
    party.update member.id (·.rename name) =
      { party with
        members := before ++
          { member with name, aliases := (member.rename name).aliases } :: after } := by
  have hupdated := Party.members_update (·.rename name) hmembers rfl hbefore
  rw [Character.rename_eq] at hupdated
  rw [← hupdated]
  rfl

omit hparty in
/-- The member of a number is taken out from among the others. -/
theorem remove_eq {member : Character} {before after : List Character}
    (hmembers : party.members = before ++ member :: after)
    (hbefore : ∀ other ∈ before, other.id ≠ member.id) :
    party.remove member.id = { party with members := before ++ after } := by
  rw [← Party.members_remove hmembers rfl hbefore]
  rfl

theorem leaves_delete {member : Character} (hnames : Names party bindings member) :
    Leaves data heard party bindings .delete ((delete member).run data heard).session := by
  obtain ⟨before, after, hmembers, hbefore⟩ := hnames.exists_append
  show Leaves data heard party bindings .delete
    ((ofExcept (data.messages.format StageName.partyCreation "delete confirm"
      [("name", member.name)]) >>= _).run data heard).session
  refine leaves_bind hparty (obeys_ofExcept_steady _) fun question _ hrun _ => ?_
  obtain ⟨hquestion, rfl⟩ := of_run_ofExcept hrun
  refine leaves_bind hparty (obeys_askYesNo (hosts_steady _) question) ?_
  intro sure final hasked hfinal
  cases sure with
  | false =>
    refine leaves_of_obeys hparty hfinal ?_
    exact obeys_sayFormat (hosts_steady heard).toSpeaks (.party (by decide)) _
  | true =>
    have hremove := remove_eq hmembers hbefore
    refine leaves_roster_bind hparty hfinal ?_
    refine leaves_setParty_bind hparty hfinal (Or.inr ?_) fun session => ?_
    · rw [hremove]
      exact .delete hnames hmembers hbefore hquestion hasked
    · exact obeys_sayFormat (speaks_quiet session) (.party (by decide)) _

theorem leaves_renameCharacter {member : Character} (hnames : Names party bindings member) :
    Leaves data heard party bindings .renameCharacter
      ((renameCharacter member bindings).run data heard).session := by
  obtain ⟨before, after, hmembers, hbefore⟩ := hnames.exists_append
  refine leaves_roster_bind hparty (keeps_steady _) ?_
  refine leaves_setParty_bind hparty (keeps_steady _) (Or.inr ?_) fun session => ?_
  · show Change data heard party bindings .renameCharacter
      (party.update member.id (·.rename (givenName bindings)))
    rw [update_rename _ hmembers hbefore]
    exact .renameCharacter hnames hmembers hbefore
  · exact obeys_sayFormat (speaks_quiet session) (.party (by decide)) _

theorem leaves_renameParty :
    Leaves data heard party bindings .renameParty
      ((renameParty bindings).run data heard).session := by
  refine leaves_roster_bind hparty (keeps_steady _) ?_
  refine leaves_setParty_bind hparty (keeps_steady _) (Or.inr .renameParty) fun session => ?_
  exact obeys_sayFormat (speaks_quiet session) (.party (by decide)) _

/-- A slot that is found to name a member has done so without a word. -/
theorem of_run_namedMember {member : Character} {last : Session}
    (h : (namedMember bindings).run data heard = .ok (some member) last) :
    Names party bindings member ∧ heard = last := by
  change (roster >>= _).run data heard = _ at h
  rw [run_bind, run_roster hparty] at h
  simp only at h
  split at h
  · next other hget =>
    cases h
    exact ⟨hget, rfl⟩
  · have hnone : Gives data (· = none)
        (sayMessage StageName.common "no such char" >>= fun _ => pure (none : Option Character)) :=
      Gives.of_bind fun _ => gives_pure rfl
    cases hnone heard _ last h

omit hparty in
theorem leaves_bind_pure {x : Play β} {a : α}
    (h : Leaves data heard party bindings action (x.run data heard).session) :
    Leaves data heard party bindings action ((x >>= fun _ => pure a).run data heard).session := by
  rw [run_bind]
  cases hrun : x.run data heard with
  | ok b last =>
    rw [hrun] at h
    exact h
  | error failure last =>
    rw [hrun] at h
    exact h

theorem leaves_withNamed {body : Character → Play Unit}
    (hbody : ∀ member, Names party bindings member →
      Leaves data heard party bindings action ((body member).run data heard).session) :
    Leaves data heard party bindings action ((withNamed bindings body).run data heard).session := by
  refine leaves_bind hparty (obeys_namedMember (speaks_about _) bindings) ?_
  intro named last hrun hlast
  cases named with
  | none => exact leaves_of_keeps hparty hlast
  | some member =>
    obtain ⟨hnames, rfl⟩ := of_run_namedMember hparty hrun
    exact leaves_bind_pure (hbody member hnames)

/-- Every command but the one that gives the party up leaves it as it was, or changes it in its own
way. -/
theorem leaves_act (haction : action ≠ .abort) :
    Leaves data heard party bindings action ((act () action bindings).run data heard).session := by
  cases action with
  | abort => exact absurd rfl haction
  | help =>
    refine leaves_of_obeys hparty (keeps_steady _) ?_
    exact (obeys_answerHelp (hosts_steady heard) bindings).bind fun _ => obeys_pure _
  | quit =>
    refine leaves_of_obeys hparty (keeps_steady _) ?_
    exact (obeys_sayFarewell (speaks_about _)).bind fun _ => obeys_pure _
  | add => exact leaves_bind_pure (leaves_add hparty)
  | edit => exact leaves_withNamed hparty fun member hnames => leaves_edit hparty hnames
  | delete => exact leaves_withNamed hparty fun member hnames => leaves_delete hparty hnames
  | renameCharacter =>
    exact leaves_withNamed hparty fun member hnames => leaves_renameCharacter hparty hnames
  | renameParty => exact leaves_bind_pure (leaves_renameParty hparty)
  | list =>
    refine leaves_of_obeys hparty (keeps_steady _) ?_
    exact (obeys_list (speaks_about _)).bind fun _ => obeys_pure _
  | done => exact leaves_of_obeys hparty (keeps_steady _) (obeys_done (speaks_about _))

omit hparty in
/-- When the stage is aborted the player is told so, and then the party is given up as it is. -/
theorem act_abort {state : Unit} {outcome : Outcome (Turn Unit Departure)}
    (h : outcome = (act state .abort bindings).run data heard) :
    (quiet heard).keeps outcome.session ∨
      ∃ last, (quiet heard).keeps last ∧
        outcome = .ok (.leave .toMainMenu) { last with party := none } := by
  have hrun : (act state .abort bindings).run data heard = (sayMessage StageName.common "okay" >>=
      fun _ => setParty none >>= fun _ => pure (.leave .toMainMenu)).run data heard := rfl
  have hobeys : Obeys data (quiet heard) (sayMessage StageName.common "okay") :=
    obeys_sayMessage (speaks_quiet heard) (.common (by decide))
  have hsaid := hobeys heard ⟨rfl, rfl⟩
  rw [h, hrun, run_bind]
  cases hsay : (sayMessage StageName.common "okay").run data heard with
  | ok _ last =>
    rw [hsay] at hsaid
    exact Or.inr ⟨last, hsaid, rfl⟩
  | error failure last =>
    rw [hsay] at hsaid
    exact Or.inl hsaid

/-- A line has nothing but an answer, or the command that it is meant for is carried out. -/
theorem respond_cases (data : GameData) (set : CommandSet Action) (state : Unit) (line : String) :
    (steady heard).keeps ((respond set state line).run data heard).session ∨
      ∃ action bindings, Means set (data.scope (some party)) line action bindings ∧
        (respond set state line).run data heard = (act state action bindings).run data heard := by
  have hrun : (respond set state line).run data heard =
      (understand set (data.scope (some party)) line >>= follow state).run data heard := by
    rw [respond, run_bind, run_rosterScope hparty]
  rw [hrun]
  have hcases : Gives data (· = none) (understand set (data.scope (some party)) line) ∨ _ :=
    understand_cases set (data.scope (some party)) line
  rcases hcases with hnone | ⟨action, bindings, hmeans, hunderstood⟩
  · refine Or.inl (keeps_of_obeys (keeps_steady heard) ?_)
    have hspeaks : Speaks data (steady heard) := speaks_about _
    refine (obeys_understand hspeaks set _ _).bind_yields hnone.yields fun meant hmeant => ?_
    rw [hmeant]
    exact obeys_pure _
  · rw [hunderstood]
    exact Or.inr ⟨action, bindings, hmeans, rfl⟩

end

end Muster.Game.PartyCreation
