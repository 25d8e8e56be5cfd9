import Muster.Proofs.Game.DraftRounds
import Muster.Proofs.Game.PartyVisits
import Muster.Proofs.Roster.Answering
import Muster.Proofs.Roster.Changes

/-!
# Character creation as a transaction

Character creation is called for a new character or for a member of the party (`Purpose`). Whatever
is typed, the party stays as it is until a draft is complete; only then, and all at once, a new
member joins, or the one that is edited takes over the draft (`Purpose.Saves`). On the way only sums
are worked out that the party and the data give rise to (`expecting`), so that a build for development
does not stop in the middle unless one of these does not fit. Main statement: `call_transaction`.
-/

namespace Muster.Game.CharacterCreation

open Muster.Flow Play
open PartyCreation (Shown steady hosts_steady tallies_steady keeps_steady)

variable {data : GameData}

/-- What character creation is called for. -/
inductive Purpose where
  /-- A new character. -/
  | new
  /-- A change to a member of the party. -/
  | edit (member : Character)

namespace Purpose

/-- The call of the stage. -/
def call (set : CommandSet Action) (party : Party) : Purpose → Play (Party × Option Value)
  | .new => CharacterCreation.call set party "new" none
  | .edit member => CharacterCreation.call set party "edit" (some (.int member.id))

/-- The number of the member that is edited. -/
def editing : Purpose → Option Nat
  | .new => none
  | .edit member => some member.id

/-- Greets the player, and begins a draft: of a new character only the name is known, which is asked
for, and of a member everything is. -/
def openDraft : Purpose → Play Draft
  | .new => do
    sayMessage StageName.characterCreation "greeting"
    let name ← askName StageName.characterCreation "name prompt"
    return { name }
  | .edit member => do
    sayFormat StageName.characterCreation "edit greeting" [("name", member.name)]
    return {
      name := member.name, species := some member.species, background := some member.background }

/-- The draft is one to begin with. -/
def Begins : Purpose → Draft → Prop
  | .new, draft =>
    draft.species = none ∧ draft.background = none ∧
      ∃ line : String, Text.isBlank line.toList = false ∧ draft.name = displayName line
  | .edit member, draft =>
    draft = {
      name := member.name, species := some member.species, background := some member.background }

/-- What a finished draft makes of a party, and the number of its character. A new character joins as
the last of the members, with a number that none of them has; a member takes over the draft, in its
place and with its number. The other members stay as they are. -/
def Saves (party : Party) (finished : Finished) (next : Party) (id : Nat) : Purpose → Prop
  | .new =>
    ∃ joined, next.members = party.members ++ [joined] ∧ next.name = party.name ∧
      joined.id = id ∧ (party.Numbered → id ∉ party.numbers) ∧
      joined.name = finished.name ∧ joined.species = finished.species ∧
      joined.background = finished.background
  | .edit member =>
    ∃ before after changed, party.members = before ++ member :: after ∧
      next.members = before ++ changed :: after ∧ next.name = party.name ∧
      changed.id = id ∧ member.id = id ∧
      changed.name = finished.name ∧ changed.species = finished.species ∧
      changed.background = finished.background

end Purpose

/-- How a call ends in which some lines have been typed to a draft. -/
inductive Closes (set : CommandSet Action) (data : GameData) (party : Party) (purpose : Purpose)
    (draft : Draft) (lines : List String) : Outcome (Party × Option Value) → Prop
  /-- The stage fails, and no line has completed the draft. -/
  | failed {failure : Failure} {last : Session}
    (hopen : ∀ before line after, lines = before ++ line :: after → ∀ finished,
      ¬ Ends set data (draft.after set data before) line (some finished)) :
    Closes set data party purpose draft lines (.error failure last)
  /-- The last line gives the draft up. The party is as it was, and there is no value. -/
  | givenUp {before : List String} {line : String} {last : Session}
    (hlines : lines = before ++ [line])
    (hends : Ends set data (draft.after set data before) line none) :
    Closes set data party purpose draft lines (.ok (party, none) last)
  /-- The last line completes the draft. It is saved, and the value is the number of its
  character. -/
  | saved {before : List String} {line : String} {finished : Finished} {next : Party} {id : Nat}
    {last : Session} (hlines : lines = before ++ [line])
    (hends : Ends set data (draft.after set data before) line (some finished))
    (hsaves : purpose.Saves party finished next id) :
    Closes set data party purpose draft lines (.ok (next, some (.int id)) last)

section

variable {set : CommandSet Action} {party : Party} {purpose : Purpose}

/-! ## Opening and saving -/

theorem gives_openDraft (purpose : Purpose) : Gives data purpose.Begins purpose.openDraft := by
  cases purpose with
  | edit member => exact Gives.of_bind fun _ => gives_pure rfl
  | new =>
    refine Gives.of_bind fun _ => Gives.bind (gives_askName_line _ _) fun name hname => ?_
    exact gives_pure ⟨rfl, rfl, hname⟩

/-- The stage opens a draft, has it finished or given up, and settles what has become of it. -/
theorem call_eq (set : CommandSet Action)
    (hmember : ∀ member, purpose = .edit member → party.get? member.id = some member) :
    ∃ entry, purpose.call set party = inFrame (frame StageName.characterCreation entry)
      (purpose.openDraft >>= fun draft => finishDraft set draft >>= fun finished =>
        settle party purpose.editing finished) := by
  cases purpose with
  | new =>
    refine ⟨"new", ?_⟩
    show inFrame _ (create set party) = _
    simp only [create, draftNew, Purpose.openDraft, Purpose.editing, bind_assoc, pure_bind]
    rfl
  | edit member =>
    refine ⟨"edit", ?_⟩
    have hget : memberOf? party member.id = some member := by
      rw [memberOf?_natCast, hmember member rfl]
    show inFrame _ (edit set party (.int member.id)) = _
    simp only [edit, hget, draftMember, Purpose.openDraft, Purpose.editing, bind_assoc, pure_bind]
    rfl

theorem obeys_call {contract : Contract Session} (hhosts : Hosts data contract)
    (htally : Tallies data contract party) (set : CommandSet Action) (purpose : Purpose) :
    Obeys data contract (purpose.call set party) := by
  cases purpose with
  | new => exact obeys_call_new hhosts htally set
  | edit member => exact obeys_call_edit hhosts htally set member.id

/-- What is saved is all there is to the new party. -/
theorem saves_save (finished : Finished)
    (hmember : ∀ member, purpose = .edit member → party.get? member.id = some member) :
    purpose.Saves party finished (save party purpose.editing finished).1
      (save party purpose.editing finished).2 := by
  cases purpose with
  | new =>
    have hcreated : ∀ id, ∃ aliases stats,
        Character.create id finished.name finished.species finished.background =
          { id, name := finished.name, aliases, species := finished.species
            background := finished.background, stats } := by
      intro id
      rw [Character.create, Character.rename_eq]
      exact ⟨_, _, rfl⟩
    obtain ⟨aliases, stats, hjoined⟩ := hcreated party.freshId
    have hfresh : party.Numbered → party.freshId ∉ party.numbers := fun hnumbered hmem =>
      Nat.lt_irrefl _ (hnumbered.fresh _ hmem)
    refine ⟨_, rfl, rfl, ?_, hfresh, ?_, ?_, ?_⟩ <;> rw [hjoined]
    rfl
  | edit member =>
    have hget := hmember member rfl
    obtain ⟨_, before, after, hmembers, hbefore⟩ := Party.get?_eq_some hget
    have hsave : save party (some member.id) finished =
        (party.update member.id fun member =>
          ((member.rename finished.name).changeSpecies finished.species).changeBackground
            finished.background, member.id) := by
      simp only [save, Option.bind_some, hget]
    rw [Purpose.editing, hsave]
    refine ⟨before, after, _, hmembers, Party.members_update _ hmembers rfl hbefore, rfl, ?_, rfl,
      ?_, rfl, rfl⟩
    · exact Character.id_rename member finished.name
    · exact Character.name_rename member finished.name

/-! ## What is added up -/

/-- Nothing has been added up since but what is expected for the party. -/
def expecting (data : GameData) (party : Party) (session : Session) : Contract Session :=
  about fun _ _ additions => ∃ more, additions = session.additions ++ more ∧
    ∀ addition ∈ more, Expected data party addition

theorem hosts_expecting (party : Party) (session : Session) :
    Hosts data (expecting data party session) := hosts_about fun _ _ _ _ h => h

theorem tallies_expecting (party : Party) (session : Session) :
    Tallies data (expecting data party session) party := by
  rintro additions hadditions last ⟨more, hmore, hexpected⟩
  refine ⟨more ++ additions, ?_, fun addition haddition => ?_⟩
  · show last.additions ++ additions = _
    rw [hmore, List.append_assoc]
  · rcases List.mem_append.1 haddition with hbefore | hnew
    · exact hexpected addition hbefore
    · exact hadditions addition hnew

/-- All sums fit that the party and the data give rise to. -/
structure SumsFit (data : GameData) (party : Party) : Prop where
  stats : ∀ species background, KnownSpecies data party species →
    KnownBackground data party background → species.stats.Fits background.modifiers
  number : party.freshId + 1 < UInt32.size

theorem Expected.fits {addition : Addition} (h : Expected data party addition)
    (hfits : SumsFit data party) : addition.Fits := by
  cases h with
  | stats hspecies hbackground => exact hfits.stats _ _ hspecies hbackground
  | number => exact hfits.number

/-- No build stops in the course of a call where all sums fit. -/
theorem inBuild_call (set : CommandSet Action) {session : Session} (build : Build)
    (hfits : build = .development →
      (∀ addition ∈ session.additions, addition.Fits) ∧ SumsFit data party) :
    ((purpose.call set party).run data session).inBuild build =
      some ((purpose.call set party).run data session) := by
  cases build with
  | release => rfl
  | development =>
    obtain ⟨hearlier, hsums⟩ := hfits rfl
    have hkept : (expecting data party session).keeps session :=
      ⟨[], (List.append_nil _).symm, fun _ h => absurd h List.not_mem_nil⟩
    obtain ⟨more, hmore, hexpected⟩ := of_admits_about (obeys_call (hosts_expecting party session)
      (tallies_expecting party session) set purpose session hkept)
    refine if_pos fun addition haddition => ?_
    rw [hmore] at haddition
    rcases List.mem_append.1 haddition with hbefore | hnew
    · exact hearlier addition hbefore
    · exact (hexpected addition hnew).fits hsums

/-! ## The transaction -/

/-- A draft is worked on in rounds. -/
theorem finishDraft_unfolds (data : GameData) (set : CommandSet Action) (draft : Draft)
    (begun : Session) :
    ∃ rounds : List (Round Draft (Option Finished)),
      Unfolds (askMessage StageName.characterCreation "prompt") (respond set) data draft begun rounds
        ((finishDraft set draft).run data begun) := by
  rw [finishDraft_eq_converse]
  obtain ⟨rounds, _, hunfolds⟩ := converse_unfolds
    (reads_askMessage StageName.characterCreation "prompt") draft begun
  exact ⟨rounds, hunfolds⟩

/-- The stage concludes with what has become of the draft. -/
theorem closes_of_drafted {draft : Draft} {lines : List String} {drafted : Outcome (Option Finished)}
    (hmember : ∀ member, purpose = .edit member → party.get? member.id = some member)
    (h : Drafted set data draft lines drafted) :
    (∀ finished last, drafted = .ok finished last → ∀ final, Closes set data party purpose draft
        lines (.ok (conclude party purpose.editing finished) final)) ∧
      ∀ cause last, drafted = .error cause last → ∀ failure,
        Closes set data party purpose draft lines (.error failure last) := by
  refine ⟨fun finished last houtcome final => ?_, fun cause last houtcome failure => .failed ?_⟩
  · obtain ⟨before, line, hlines, hends⟩ := h.left finished last houtcome
    cases finished with
    | none => exact .givenUp hlines hends
    | some finished => exact .saved hlines hends (saves_save finished hmember)
  · intro before line after hlines finished hends
    cases after with
    | nil => exact h.failed cause last houtcome before line hlines finished hends
    | cons other after =>
      exact h.earlier before line (other :: after) hlines (List.cons_ne_nil _ _) _ hends

/-- Character creation is a transaction on the party. As long as it is run the party of the game is
what it was at the call. The call fails if the draft cannot be opened. Otherwise lines are typed in
rounds, and none but the last of them ends the stage: it fails, or the draft is given up, and the
party is as it was; or the draft is completed, which by then holds the last value that was accepted
for each field, and is saved in the party. So it is in every build, except that one for development
stops if there are sums that do not fit. -/
theorem call_transaction (set : CommandSet Action) (session : Session)
    (hmember : ∀ member, purpose = .edit member → party.get? member.id = some member) :
    let outcome := (purpose.call set party).run data session
    (outcome.session.party = session.party ∧
      Shown session.party session.moments outcome.session.moments) ∧
    ((∃ cause failure last, purpose.openDraft.run data session = .error cause last ∧
        outcome = .error failure last) ∨
      ∃ draft begun rounds drafted, purpose.openDraft.run data session = .ok draft begun ∧
        purpose.Begins draft ∧
        Unfolds (askMessage StageName.characterCreation "prompt") (respond set) data draft begun
          rounds drafted ∧
        (∀ before line after, rounds.map (·.line) = before ++ line :: after → after ≠ [] →
          ∀ value, ¬ Ends set data (draft.after set data before) line value) ∧
        Closes set data party purpose draft (rounds.map (·.line)) outcome) ∧
    ∀ build : Build, (build = .development →
        (∀ addition ∈ session.additions, addition.Fits) ∧ SumsFit data party) →
      outcome.inBuild build = some outcome := by
  intro outcome
  have hsteady : (steady session).keeps outcome.session := of_admits_about
    (obeys_call (hosts_steady session) (tallies_steady session party) set purpose session
      (keeps_steady session))
  refine ⟨hsteady, ?_, inBuild_call set⟩
  obtain ⟨entry, hcall⟩ := call_eq set hmember
  have hrun : outcome = (inFrame (frame StageName.characterCreation entry)
      (purpose.openDraft >>= fun draft => finishDraft set draft >>= fun finished =>
        settle party purpose.editing finished)).run data session := by
    rw [← hcall]
  unfold inFrame at hrun
  simp only [run_bind] at hrun
  cases hopened : purpose.openDraft.run data session with
  | error cause last =>
    rw [hopened] at hrun
    exact Or.inl ⟨cause, _, last, rfl, hrun⟩
  | ok draft begun =>
    rw [hopened] at hrun
    obtain ⟨rounds, hunfolds⟩ := finishDraft_unfolds data set draft begun
    have hdrafted := drafted_of_unfolds hunfolds
    obtain ⟨hok, herror⟩ := closes_of_drafted hmember hdrafted
    refine Or.inr ⟨draft, begun, rounds, _, rfl, gives_openDraft purpose _ _ _ hopened, hunfolds,
      hdrafted.earlier, ?_⟩
    cases hfinish : (finishDraft set draft).run data begun with
    | ok finished last =>
      simp only [hfinish] at hrun
      rw [hrun]
      exact hok finished last hfinish _
    | error cause last =>
      simp only [hfinish] at hrun
      rw [hrun]
      exact herror cause last hfinish _

end

/-- The commands of character creation in the built-in game. -/
def builtinCommands : CommandSet Action :=
  ((commands GameData.builtin).toOption).getD { stage := StageName.characterCreation }

/-- Two members of a party, of whom the second one is edited. -/
def editedParty : Party :=
  ((Party.named "Band").add "Ann" ⟨⟨"Human", "Hum"⟩, {}⟩ ⟨⟨"Priest", "Pri"⟩, {}⟩).add "Bob"
    ⟨⟨"Orc", "Orc"⟩, {}⟩ ⟨⟨"Scholar", "Sch"⟩, {}⟩

/-- The member with the number two. -/
def editedMember : Character :=
  Character.create 2 "Bob" ⟨⟨"Orc", "Orc"⟩, {}⟩ ⟨⟨"Scholar", "Sch"⟩, {}⟩

/-- Of three species the first is unknown and the last one counts, and the background is left. -/
def editedSession : Session where
  console := { answers := [.line "species dragon", .line "species wood elf", .line "name curt",
    .line "species dwarf", .line "done"] }

/-- The second member has taken over the draft, and the first one is as before. -/
theorem editedSession_transaction :
    editedParty.get? editedMember.id = some editedMember ∧
      (match ((Purpose.edit editedMember).call builtinCommands editedParty).run GameData.builtin
          editedSession with
        | .ok (next, value) _ => value == some (.int 2) &&
            next.members.map (fun member => (member.name, member.species.name,
              member.background.name)) == [("Ann", "Human", "Priest"), ("Curt", "Dwarf", "Scholar")]
        | .error _ _ => false) = true ∧
      ∃ draft lines, (Purpose.edit editedMember).Begins draft ∧
        Closes builtinCommands GameData.builtin editedParty (.edit editedMember) draft lines
          (((Purpose.edit editedMember).call builtinCommands editedParty).run GameData.builtin
            editedSession) := by
  have hget : editedParty.get? editedMember.id = some editedMember := rfl
  have hresult : (match ((Purpose.edit editedMember).call builtinCommands editedParty).run
      GameData.builtin editedSession with
    | .ok (next, value) _ => value == some (.int 2) &&
        next.members.map (fun member => (member.name, member.species.name,
          member.background.name)) == [("Ann", "Human", "Priest"), ("Curt", "Dwarf", "Scholar")]
    | .error _ _ => false) = true := by
    decide +kernel
  refine ⟨hget, hresult, ?_⟩
  have hmember : ∀ member, Purpose.edit editedMember = .edit member →
      editedParty.get? member.id = some member := fun member hmember =>
    Purpose.edit.inj hmember ▸ hget
  obtain ⟨_, ⟨_, _, _, _, hfailed⟩ | ⟨draft, _, rounds, _, _, hbegins, _, _, hcloses⟩, _⟩ :=
    call_transaction builtinCommands editedSession hmember
  · rw [hfailed] at hresult
    cases hresult
  · exact ⟨draft, _, hbegins, hcloses⟩

end Muster.Game.CharacterCreation
