import Muster.Proofs.Game.PartyChanges
import Muster.Data.Builtin

/-!
# The party from round to round

A change to the party that is due is made (`party_of_change`), and there is no other: each round of
party creation leaves the party as it was, or gives it up, or makes the change that its command calls
for (`Accounts`). Main statement: `party_changes`, which accounts for the party round by round.
-/

namespace Muster.Game.PartyCreation

open Muster.Flow Play

variable {data : GameData}

/-! ## Changes that are due -/

/-- A line that is meant for a command has it carried out. -/
theorem run_respond {set : CommandSet Action} {party : Party} {line : String} {action : Action}
    {bindings : Bindings} {heard : Session} (hparty : heard.party = some party)
    (hmeans : Means set (data.scope (some party)) line action bindings) :
    (respond set () line).run data heard = (act () action bindings).run data heard := by
  have hunderstood : understand set (data.scope (some party)) line =
      pure (some (action, bindings)) := by
    obtain ⟨name, hdispatch⟩ := hmeans.dispatch
    unfold understand
    rw [hmeans.notBlank, if_neg Bool.false_ne_true, hdispatch]
  rw [respond, run_bind, run_rosterScope hparty]
  simp only [hunderstood]
  rfl

theorem session_bind_pure {α β : Type} (x : Play α) (b : β) (session : Session) :
    ((x >>= fun _ => pure b).run data session).session = (x.run data session).session := by
  rw [run_bind]
  cases x.run data session <;> rfl

section

variable {heard : Session} {party : Party} {bindings : Bindings} (hparty : heard.party = some party)

include hparty

/-- What is done with the member that is named is done with it. -/
theorem session_withNamed {member : Character} (hnames : Names party bindings member)
    (body : Character → Play Unit) :
    ((withNamed bindings body).run data heard).session = ((body member).run data heard).session := by
  have hnamed : (namedMember bindings).run data heard = .ok (some member) heard := by
    unfold namedMember
    rw [run_bind, run_roster hparty]
    simp only [show bindings.member?.bind party.get? = some member from hnames]
    rfl
  unfold withNamed
  rw [run_bind, hnamed]
  exact session_bind_pure (body member) _ heard

/-- The party with a new character takes the place of the one before. -/
theorem party_add {set : CommandSet CharacterCreation.Action} {next : Party} {value : Option Value}
    {last : Session} (hset : CharacterCreation.commands data = .ok set)
    (hcall : (CharacterCreation.call set party "new" none).run data heard =
      .ok (next, value) last) :
    ((act () .add bindings).run data heard).session.party = some next := by
  show ((add >>= fun _ => pure (Turn.again ())).run data heard).session.party = _
  rw [session_bind_pure]
  show ((ofExcept (CharacterCreation.commands data) >>= _).run data heard).session.party = _
  rw [hset, show ofExcept (.ok set) = pure set from rfl, pure_bind, run_bind, run_roster hparty]
  show ((CharacterCreation.call set party "new" none >>= _).run data heard).session.party = _
  rw [run_bind, hcall]
  refine (run_setParty_bind (fun session => ?_) next last).1
  split
  · exact obeys_sayFormat (speaks_quiet session) (.party (by decide)) _
  · exact obeys_sayMessage (speaks_quiet session) (.party (by decide))

/-- The party with the member changed takes the place of the one before. -/
theorem party_edit {member : Character} (hnames : Names party bindings member)
    {set : CommandSet CharacterCreation.Action} {next : Party} {value : Option Value}
    {last : Session} (hset : CharacterCreation.commands data = .ok set)
    (hcall : (CharacterCreation.call set party "edit" (some (.int member.id))).run data heard =
      .ok (next, value) last) :
    ((act () .edit bindings).run data heard).session.party = some next := by
  show ((withNamed bindings edit).run data heard).session.party = _
  rw [session_withNamed hparty hnames]
  show ((ofExcept (CharacterCreation.commands data) >>= _).run data heard).session.party = _
  rw [hset, show ofExcept (.ok set) = pure set from rfl, pure_bind, run_bind, run_roster hparty]
  show ((CharacterCreation.call set party "edit" _ >>= _).run data heard).session.party = _
  rw [run_bind, hcall]
  refine (run_setParty_bind (fun session => ?_) next last).1
  split
  · exact obeys_sayFormat (speaks_quiet session) (.party (by decide)) _
  · exact obeys_pure _

/-- The member goes when the player has said yes. -/
theorem party_delete {member : Character} (hnames : Names party bindings member) {question : String}
    {last : Session} (hquestion : data.messages.format StageName.partyCreation "delete confirm"
      [("name", member.name)] = .ok question)
    (hyes : (askYesNo question).run data heard = .ok true last) :
    ((act () .delete bindings).run data heard).session.party =
      some (party.remove member.id) := by
  have hlast : last.party = some party := by
    have hobeys : Obeys data (steady heard) (askYesNo question) :=
      obeys_askYesNo (hosts_steady heard) question
    have hasked := hobeys heard (keeps_steady heard)
    rw [hyes] at hasked
    exact hasked.1.trans hparty
  show ((withNamed bindings delete).run data heard).session.party = _
  rw [session_withNamed hparty hnames]
  show ((ofExcept (data.messages.format StageName.partyCreation "delete confirm"
    [("name", member.name)]) >>= _).run data heard).session.party = _
  rw [hquestion]
  show ((askYesNo question >>= _).run data heard).session.party = _
  rw [run_bind, hyes]
  show ((roster >>= _).run data last).session.party = _
  rw [run_bind, run_roster hlast]
  exact (run_setParty_bind (fun session =>
    obeys_sayFormat (speaks_quiet session) (.party (by decide)) _) _ last).1

/-- The party goes by what fills the slot for its name, which is nothing if there is no slot. -/
theorem party_renameParty :
    ((act () .renameParty bindings).run data heard).session.party =
      some (party.rename (givenName bindings)) := by
  show ((renameParty bindings >>= fun _ => pure (Turn.again ())).run data heard).session.party = _
  rw [session_bind_pure]
  show ((roster >>= _).run data heard).session.party = _
  rw [run_bind, run_roster hparty]
  exact (run_setParty_bind (fun session =>
    obeys_sayFormat (speaks_quiet session) (.party (by decide)) _) _ heard).1

/-- The member that is named goes by what fills the slot for its name. -/
theorem party_renameCharacter {member : Character} (hnames : Names party bindings member) :
    ((act () .renameCharacter bindings).run data heard).session.party =
      some (party.update member.id (·.rename (givenName bindings))) := by
  show ((withNamed bindings fun member =>
    renameCharacter member bindings).run data heard).session.party = _
  rw [session_withNamed hparty hnames]
  show ((roster >>= _).run data heard).session.party = _
  rw [run_bind, run_roster hparty]
  exact (run_setParty_bind (fun session =>
    obeys_sayFormat (speaks_quiet session) (.party (by decide)) _) _ heard).1

/-- A change that is due is made by its command: the character joins or is changed once character
creation has ended with a value, the member goes once the player has said yes, and a new name is
given at once. -/
theorem party_of_change {action : Action} {next : Party}
    (h : Change data heard party bindings action next) :
    ((act () action bindings).run data heard).session.party = some next := by
  cases h with
  | join hset hcall => exact party_add hparty hset hcall
  | edit hnames hset hcall => exact party_edit hparty hnames hset hcall
  | delete hnames hmembers hbefore hquestion hyes =>
    rw [party_delete hparty hnames hquestion hyes, remove_eq hmembers hbefore]
  | renameCharacter hnames hmembers hbefore =>
    rw [party_renameCharacter hparty hnames, update_rename _ hmembers hbefore]
  | renameParty => exact party_renameParty hparty

end

/-! ## Round by round -/

/-- How a round of party creation accounts for the party: whatever was asked, the party was as
before; and then it still is, or it has been given up as it was, or the command that the line was
meant for has changed it. If that command calls for a change, the change has been made. -/
structure Accounts (data : GameData) (set : CommandSet Action) (party : Party)
    (round : Round Unit Departure) : Prop where
  asked : round.asked.party = some party
  heard : round.heard.party = some party
  shown : Shown (some party) round.asked.moments round.outcome.session.moments
  outcome : round.outcome.session.party = some party ∨
    (∃ (bindings : Bindings) (last : Session),
      Means set (data.scope (some party)) round.line .abort bindings ∧ last.party = some party ∧
      round.outcome = .ok (.leave .toMainMenu) { last with party := none }) ∨
    ∃ action bindings next, Means set (data.scope (some party)) round.line action bindings ∧
      Change data round.heard party bindings action next ∧
      round.outcome.session.party = some next
  /-- A change that is called for is made. -/
  effect : ∀ action bindings next, Means set (data.scope (some party)) round.line action bindings →
    Change data round.heard party bindings action next → round.outcome.session.party = some next

section

variable {set : CommandSet Action} {party : Party} {round : Round Unit Departure}

theorem obeys_askCommand (data : GameData) (session : Session) :
    Obeys data (steady session) (askMessage StageName.partyCreation "what next") :=
  obeys_askMessage (hosts_steady session) (.party (by decide))

theorem accounts_of_happens
    (h : round.Happens (askMessage StageName.partyCreation "what next") (respond set) data)
    (hparty : round.asked.party = some party) : Accounts data set party round := by
  have hasked := obeys_askCommand data round.asked round.asked (keeps_steady round.asked)
  rw [h.question] at hasked
  obtain ⟨hheard, hshown⟩ := hasked
  rw [hparty] at hheard hshown
  have heffect : ∀ action bindings next,
      Means set (data.scope (some party)) round.line action bindings →
      Change data round.heard party bindings action next →
      round.outcome.session.party = some next := fun action bindings next hmeans hchange => by
    rw [← h.response, run_respond hheard hmeans, party_of_change hheard hchange]
  have hcases := respond_cases hheard data set round.state round.line
  rw [h.response] at hcases
  rcases hcases with ⟨hlast, hsince⟩ | ⟨action, bindings, hmeans, hact⟩
  · rw [hheard] at hlast hsince
    exact ⟨hparty, hheard, hshown.trans hsince, Or.inl hlast, heffect⟩
  · by_cases haction : action = .abort
    · rw [haction] at hact hmeans
      rcases act_abort hact with ⟨hlast, hsame⟩ | ⟨last, ⟨hlast, hsame⟩, hleft⟩
      · rw [hheard] at hlast
        rw [← hsame] at hshown
        exact ⟨hparty, hheard, hshown, Or.inl hlast, heffect⟩
      · have hmoments : round.outcome.session.moments = round.heard.moments := by
          rw [hleft]
          exact hsame
        rw [hheard] at hlast
        rw [← hmoments] at hshown
        exact ⟨hparty, hheard, hshown,
          Or.inr (Or.inl ⟨bindings, last, hmeans, hlast, hleft⟩), heffect⟩
    · have hleaves : Leaves data round.heard party bindings action round.outcome.session := by
        rw [hact]
        exact leaves_act hheard haction
      refine ⟨hparty, hheard, hshown.trans hleaves.shown, ?_, heffect⟩
      rcases hleaves.party with hlast | ⟨next, hchange, hlast⟩
      · exact Or.inl hlast
      · exact Or.inr (Or.inr ⟨action, bindings, next, hmeans, hchange, hlast⟩)

/-- From the moment the party has its name, what the player types into party creation changes the
party by the commands of `Change` only, whenever these call for it, and `abort` gives it up as it
is. -/
theorem party_changes (set : CommandSet Action) {session : Session}
    (hparty : session.party ≠ none) :
    ∃ rounds : List (Round Unit Departure),
      Unfolds (askMessage StageName.partyCreation "what next") (respond set) data () session rounds
        ((assemble set).run data session) ∧
      (∀ round ∈ rounds, ∃ party, Accounts data set party round) ∧
      ((assemble set).run data session).session.party =
        (rounds.getLast?.elim session (·.outcome.session)).party := by
  obtain ⟨rounds, _, hunfolds⟩ := converse_unfolds
    (reads_askMessage StageName.partyCreation "what next") () session
  rw [← assemble_eq_converse] at hunfolds
  refine ⟨rounds, hunfolds, ?_, ?_⟩
  · refine hunfolds.forall_rounds (·.party ≠ none) (fun round hround hasked => ?_) hparty
    obtain ⟨party, hbefore⟩ := Option.ne_none_iff_exists'.1 hasked
    have haccounts := accounts_of_happens hround hbefore
    refine ⟨⟨party, haccounts⟩, fun following next hnext => ?_⟩
    -- who gives the party up leaves the stage
    have houtcome := haccounts.outcome
    rw [hnext] at houtcome
    rcases houtcome with hsame | ⟨_, _, _, _, hleft⟩ | ⟨_, _, changed, _, _, hchanged⟩
    · show next.party ≠ none
      rw [show next.party = some party from hsame]
      exact Option.some_ne_none party
    · cases hleft
    · show next.party ≠ none
      rw [show next.party = some changed from hchanged]
      exact Option.some_ne_none changed
  · refine hunfolds.last_round (fun earlier later => later.party = earlier.party) (fun _ => rfl) ?_
    intro asked failure last hquestion
    have hasked := obeys_askCommand data asked asked (keeps_steady asked)
    rw [hquestion] at hasked
    exact hasked.1

end

/-- The commands of the built-in game. -/
def builtinCommands : CommandSet Action :=
  ((commands GameData.builtin).toOption).getD { stage := StageName.partyCreation }

/-- A party of the built-in game, and a line that gives it another name. -/
def renamedSession : Session where
  console := { answers := [.line "name the party the crew"] }
  party := some (Party.named "Band")

/-- The party has its new name, and the rounds account for it. -/
theorem renamedSession_changes :
    renamedSession.party ≠ none ∧
      (((assemble builtinCommands).run GameData.builtin renamedSession).session.party.any
        fun kept => kept.name == "The Crew") = true ∧
      ∃ rounds : List (Round Unit Departure),
        Unfolds (askMessage StageName.partyCreation "what next") (respond builtinCommands)
          GameData.builtin () renamedSession rounds
          ((assemble builtinCommands).run GameData.builtin renamedSession) ∧
        ∀ round ∈ rounds, ∃ party, Accounts GameData.builtin builtinCommands party round := by
  have hparty : renamedSession.party ≠ none := Option.some_ne_none _
  have hname : (((assemble builtinCommands).run GameData.builtin renamedSession).session.party.any
      fun kept => kept.name == "The Crew") = true := by
    decide +kernel
  obtain ⟨rounds, hunfolds, haccounts, _⟩ := party_changes builtinCommands hparty
  exact ⟨hparty, hname, rounds, hunfolds, haccounts⟩

end Muster.Game.PartyCreation
