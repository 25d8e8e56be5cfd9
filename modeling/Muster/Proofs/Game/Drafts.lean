import Muster.Proofs.Game.Contract
import Muster.Proofs.Pattern.Fillings
import Muster.Proofs.Roster.Members
import Muster.Game.CharacterCreation

/-!
# What character creation ends with

A command acts with slots that are filled from the scope of its stage, so that a draft holds only
species and backgrounds that the game offers, or that a member of the party has had before. Main
statements: `gives_create` and `gives_edit`. The stage ends with the party as it was and no value,
or with the party in which such a draft has been saved and the number of the character.
-/

namespace Muster.Game

open Muster.Flow Play

variable {data : GameData}

/-! ## Commands -/

/-- The command that a line is meant for, with the slots that it fills. A line that is blank, or that
no command or several commands accept, has no meaning. -/
def meaning {H : Type} (set : CommandSet H) (scope : Scope) (line : String) :
    Option (H × Bindings) :=
  if Text.isBlank line.toList then none
  else
    match set.dispatch scope line with
    | .matched _ handler bindings => some (handler, bindings)
    | _ => none

section

variable {H : Type} {set : CommandSet H} {scope : Scope} {line : String}

theorem meaning_eq_some_iff {handler : H} {bindings : Bindings} :
    meaning set scope line = some (handler, bindings) ↔
      Text.isBlank line.toList = false ∧
        ∃ name, set.dispatch scope line = .matched name handler bindings := by
  unfold meaning
  by_cases hblank : Text.isBlank line.toList = true
  · rw [if_pos hblank]
    simp [hblank]
  · rw [if_neg hblank]
    cases set.dispatch scope line <;> simp [hblank]

/-- A line that has a meaning is understood without a word; about another one the player is told so. -/
theorem understand_meaning (set : CommandSet H) (scope : Scope) (line : String) :
    (meaning set scope line = none ∧ Gives data (· = none) (understand set scope line)) ∨
      ∃ found, meaning set scope line = some found ∧
        understand set scope line = pure (some found) := by
  have hnone : Gives data (· = none) (pure none : Play (Option (H × Bindings))) := gives_pure rfl
  unfold meaning understand
  by_cases hblank : Text.isBlank line.toList = true
  · rw [if_pos hblank, if_pos hblank]
    exact Or.inl ⟨rfl, Gives.of_bind fun _ => hnone⟩
  · rw [if_neg hblank, if_neg hblank]
    cases set.dispatch scope line with
    | unrecognized => exact Or.inl ⟨rfl, Gives.of_bind fun _ => hnone⟩
    | ambiguous names => exact Or.inl ⟨rfl, Gives.of_bind fun _ => Gives.of_bind fun _ => hnone⟩
    | matched name handler bindings => exact Or.inr ⟨(handler, bindings), rfl, rfl⟩

/-- The slots of a command are filled from the scope in which its line is understood. -/
theorem gives_understand (set : CommandSet H) (scope : Scope) (line : String) :
    Gives data (fun meant => ∀ found ∈ meant, found.2.FilledFrom scope)
      (understand set scope line) := by
  have hcases : (_ ∧ Gives data _ _) ∨ _ := understand_meaning set scope line
  rcases hcases with ⟨_, hnone⟩ | ⟨⟨handler, bindings⟩, hmeaning, hunderstood⟩
  · intro session meant next hrun found hfound
    rw [hnone session meant next hrun] at hfound
    cases hfound
  · rw [hunderstood]
    refine gives_pure fun found hfound => ?_
    obtain ⟨_, name, hdispatch⟩ := meaning_eq_some_iff.1 hmeaning
    rw [Option.mem_some_iff] at hfound
    rw [← hfound]
    exact CommandSet.filledFrom_dispatch hdispatch

end

/-- A command loop is a conversation in which what a line means is followed. -/
theorem commandLoop_eq_converse {α σ H : Type} {stage prompt : String} {set : CommandSet H}
    {scope : Play Scope} {act : σ → H → Bindings → Play (Turn σ α)}
    (follow : σ → Option (H × Bindings) → Play (Turn σ α))
    (hnone : ∀ state, follow state none = pure (.again state))
    (hsome : ∀ state action bindings,
      follow state (some (action, bindings)) = act state action bindings) (state : σ) :
    commandLoop stage prompt set scope act state =
      converse (askMessage stage prompt) (reads_askMessage stage prompt)
        (fun state line => scope >>= fun scope => understand set scope line >>= follow state)
        state := by
  unfold commandLoop
  congr 1
  funext state line
  show (scope >>= _) = scope >>= _
  congr 1
  funext scope
  show (understand set scope line >>= _) = understand set scope line >>= _
  congr 1
  funext meant
  cases meant with
  | none => exact (hnone state).symm
  | some found => exact (hsome state found.1 found.2).symm

section

variable {α σ H : Type} {set : CommandSet H} {scope : Play Scope}
  {act : σ → H → Bindings → Play (Turn σ α)} {offered : Scope → Prop} {inv : σ → Prop} {p : α → Prop}

/-- What every action keeps is kept by the response to a line. -/
theorem gives_respond (hscope : Gives data offered scope)
    (hact : ∀ state, inv state → ∀ scope, offered scope → ∀ action (bindings : Bindings),
      bindings.FilledFrom scope → Gives data (Turn.Meets inv p) (act state action bindings))
    {state : σ} (hstate : inv state) (line : String) :
    Gives data (Turn.Meets inv p) (do
      match ← understand set (← scope) line with
      | none => return .again state
      | some (handler, bindings) => act state handler bindings) := by
  refine hscope.bind fun scope hoffered => (gives_understand set scope line).bind fun meant hmeant => ?_
  cases meant with
  | none => exact gives_pure hstate
  | some found => exact hact state hstate scope hoffered found.1 found.2 (hmeant found rfl)

/-- What every action keeps holds when the loop is left. -/
theorem gives_commandLoop {stage prompt : String} (hscope : Gives data offered scope)
    (hact : ∀ state, inv state → ∀ scope, offered scope → ∀ action (bindings : Bindings),
      bindings.FilledFrom scope → Gives data (Turn.Meets inv p) (act state action bindings))
    {state : σ} (hstate : inv state) :
    Gives data p (commandLoop stage prompt set scope act state) :=
  gives_converse (fun _ hstate => gives_respond hscope hact hstate) hstate

end

theorem gives_partylessScope : Gives data (· = data.scope none) partylessScope :=
  gives_data_bind (gives_pure rfl)

theorem gives_enterAt {α : Type} {p : α → Prop} {table : EntryTable (Play α)} {entry : String}
    {arg : Option Value} {body : Play α} (hinvoke : table.invoke entry arg = .ok body)
    (hbody : Gives data p body) : Gives data p (enterAt table entry arg) := by
  unfold enterAt
  rw [hinvoke]
  exact hbody

theorem gives_callAt {α : Type} {p : α → Prop} {table : EntryTable (Play α)} {entry : String}
    {arg : Option Value} {body : Play α} (hinvoke : table.invoke entry arg = .ok body)
    (hbody : Gives data p body) : Gives data p (callAt table entry arg) :=
  (gives_enterAt hinvoke hbody).inFrame _

/-! ## Drafts -/

namespace CharacterCreation

/-- A species that the game offers or a member of the party has. -/
def KnownSpecies (data : GameData) (party : Party) (species : Species) : Prop :=
  species ∈ data.species ∨ ∃ member ∈ party.members, member.species = species

/-- A background that the game offers or a member of the party has. -/
def KnownBackground (data : GameData) (party : Party) (background : Background) : Prop :=
  background ∈ data.backgrounds ∨ ∃ member ∈ party.members, member.background = background

/-- What a draft holds so far is known. -/
structure Draft.Known (data : GameData) (party : Party) (draft : Draft) : Prop where
  species : ∀ species ∈ draft.species, KnownSpecies data party species
  background : ∀ background ∈ draft.background, KnownBackground data party background

/-- A finished draft holds what is known. -/
structure Finished.Known (data : GameData) (party : Party) (finished : Finished) : Prop where
  species : KnownSpecies data party finished.species
  background : KnownBackground data party finished.background

/-- What may be added up for a character of the party: known statistics with known modifiers, and the
number of who joins with one. -/
inductive Expected (data : GameData) (party : Party) : Addition → Prop
  | stats {species : Species} {background : Background} (hspecies : KnownSpecies data party species)
    (hbackground : KnownBackground data party background) :
    Expected data party (.stats species.stats background.modifiers)
  | number : Expected data party (.number party.freshId)

/-- How the stage ends: the party as it was, or with a known draft saved. -/
def Concludes (data : GameData) (party : Party) (editing : Option Nat)
    (result : Party × Option Value) : Prop :=
  ∃ finished, (∀ draft ∈ finished, draft.Known data party) ∧
    result = conclude party editing finished

variable {party : Party}

/-- Every action leaves a known draft, or the stage with one. -/
theorem gives_act {draft : Draft} (hdraft : draft.Known data party) (action : Action)
    {bindings : Bindings} (hfilled : bindings.FilledFrom (data.scope none)) :
    Gives data (Turn.Meets (Draft.Known data party)
      fun finished => ∀ found ∈ finished, found.Known data party) (act draft action bindings) := by
  -- what only says something goes on with the same draft
  have hagain : Gives data (Turn.Meets (Draft.Known data party)
      fun finished : Option Finished => ∀ found ∈ finished, found.Known data party)
      (pure (.again draft)) := gives_pure hdraft
  cases action with
  | help => exact Gives.of_bind fun _ => hagain
  | overview => exact Gives.of_bind fun _ => hagain
  | listSpecies => exact Gives.of_bind fun _ => Gives.of_bind fun _ => Gives.of_bind fun _ => hagain
  | listBackgrounds =>
    exact Gives.of_bind fun _ => Gives.of_bind fun _ => Gives.of_bind fun _ => hagain
  | abort =>
    exact Gives.of_bind fun _ => gives_pure fun found hfound =>
      absurd hfound (Option.not_mem_none found)
  | setSpecies =>
    simp only [act]
    split
    · next species hspecies =>
      refine Gives.of_bind fun _ => gives_pure ⟨fun chosen hchosen => ?_, hdraft.background⟩
      rw [Option.mem_some_iff] at hchosen
      rw [← hchosen]
      exact Or.inl (hfilled.species_mem hspecies)
    · exact Gives.of_bind fun _ => hagain
  | setBackground =>
    simp only [act]
    split
    · next background hbackground =>
      refine Gives.of_bind fun _ => gives_pure ⟨hdraft.species, fun chosen hchosen => ?_⟩
      rw [Option.mem_some_iff] at hchosen
      rw [← hchosen]
      exact Or.inl (hfilled.background_mem hbackground)
    · exact Gives.of_bind fun _ => hagain
  | rename =>
    simp only [act]
    split
    · exact hagain
    · exact Gives.of_bind fun _ => gives_pure ⟨hdraft.species, hdraft.background⟩
  | done =>
    simp only [act]
    split
    · exact Gives.of_bind fun _ => hagain
    · exact Gives.of_bind fun _ => hagain
    · next species background hspecies hbackground =>
      refine gives_pure fun found hfound => ?_
      rw [Option.mem_some_iff] at hfound
      rw [← hfound]
      exact ⟨hdraft.species species hspecies, hdraft.background background hbackground⟩

/-- A draft is finished with what is known, or given up. -/
theorem gives_finishDraft (set : CommandSet Action) {draft : Draft}
    (hdraft : draft.Known data party) :
    Gives data (fun finished => ∀ found ∈ finished, found.Known data party)
      (finishDraft set draft) :=
  gives_commandLoop gives_partylessScope
    (fun _ hstate _ hscope action _ hfilled => gives_act hstate action (hscope ▸ hfilled)) hdraft

/-- Nothing is held by the draft of a new character. -/
theorem known_new (party : Party) (name : String) : Draft.Known data party { name } where
  species species h := absurd h (Option.not_mem_none species)
  background background h := absurd h (Option.not_mem_none background)

/-- A new character is finished with what is known, or given up. -/
theorem gives_draftNew (set : CommandSet Action) (party : Party) :
    Gives data (fun finished => ∀ found ∈ finished, found.Known data party) (draftNew set) :=
  Gives.of_bind fun _ => Gives.of_bind fun name => gives_finishDraft set (known_new party name)

/-- What a member is is known. -/
theorem known_of_mem {member : Character} (hmem : member ∈ party.members) :
    Draft.Known data party
      { name := member.name, species := some member.species
        background := some member.background } := by
  refine ⟨fun species hspecies => ?_, fun background hbackground => ?_⟩
  · rw [Option.mem_some_iff] at hspecies
    exact Or.inr ⟨member, hmem, hspecies⟩
  · rw [Option.mem_some_iff] at hbackground
    exact Or.inr ⟨member, hmem, hbackground⟩

/-- A member is changed into what is known, or given up. -/
theorem gives_draftMember (set : CommandSet Action) {member : Character}
    (hmem : member ∈ party.members) :
    Gives data (fun finished => ∀ found ∈ finished, found.Known data party)
      (draftMember set member) :=
  Gives.of_bind fun _ => gives_finishDraft set (known_of_mem hmem)

/-- When a known draft is saved, nothing else is added up than what may be. -/
theorem expected_additions {finished : Finished} (hknown : finished.Known data party)
    (editing : Option Nat) :
    ∀ addition ∈ additions party editing finished, Expected data party addition := by
  unfold additions
  split
  · next member hmember =>
    obtain ⟨id, -, hget⟩ := Option.bind_eq_some_iff.1 hmember
    have hold : KnownBackground data party member.background :=
      Or.inr ⟨member, List.mem_of_find?_eq_some hget, rfl⟩
    simpa using ⟨.stats hknown.species hold, .stats hknown.species hknown.background⟩
  · simpa using ⟨.number, .stats hknown.species hknown.background⟩

theorem gives_settle {editing : Option Nat} {finished : Option Finished}
    (hfinished : ∀ found ∈ finished, found.Known data party) :
    Gives data (Concludes data party editing) (settle party editing finished) :=
  Gives.of_bind fun _ => gives_pure ⟨finished, hfinished, rfl⟩

/-- A new character joins with a known draft, or nobody does. -/
theorem gives_create (set : CommandSet Action) (party : Party) :
    Gives data (Concludes data party none) (create set party) :=
  (gives_draftNew set party).bind fun _ => gives_settle

/-- The member of a number is the first one that has it. -/
theorem memberOf?_natCast (party : Party) (id : Nat) : memberOf? party id = party.get? id := by
  unfold memberOf?
  rw [if_neg (by omega), Int.toNat_natCast]

/-- The member of the given number takes over a known draft, or the party stays as it was. -/
theorem gives_edit (set : CommandSet Action) (party : Party) (id : Nat) :
    Gives data (Concludes data party (some id)) (edit set party (.int id)) := by
  unfold edit
  simp only [memberOf?_natCast]
  split
  · refine Gives.of_bind fun _ => gives_pure ⟨none, fun found hfound => ?_, rfl⟩
    exact absurd hfound (Option.not_mem_none found)
  · next member hget =>
    rw [(Party.get?_eq_some hget).1]
    exact (gives_draftMember set (List.mem_of_find?_eq_some hget)).bind fun _ => gives_settle

/-- What a call of the stage for a new character ends with. -/
theorem gives_call_new (set : CommandSet Action) (party : Party) :
    Gives data (Concludes data party none) (call set party "new" none) :=
  gives_callAt rfl (gives_create set party)

/-- What a call of the stage for a member ends with. -/
theorem gives_call_edit (set : CommandSet Action) (party : Party) (id : Nat) :
    Gives data (Concludes data party (some id)) (call set party "edit" (some (.int id))) :=
  gives_callAt rfl (gives_edit set party id)

end CharacterCreation

end Muster.Game
