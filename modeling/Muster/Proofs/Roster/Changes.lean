import Muster.Proofs.Roster.Members

/-!
# Changes to a party

Members join, change and leave in any order. Whatever they do, the numbers of the members ascend and
stay below the number for the next one (`Party.Numbered`), so no number is given to two of them. The
number of a member who has left is behind that of the next one, too, and does not come back
(`Party.Past`). All this holds as long as there are numbers of 32 bits left for those who join.
-/

namespace Muster

/-! ## Changes to a character -/

/-- A change to a character that leaves its number alone. -/
inductive CharacterChange where
  | rename (name : String)
  | addAlias (text : String)
  | removeAlias (text : String)
  | resetAliases
  | changeSpecies (species : Species)
  | changeBackground (background : Background)

/-- The character after a change. -/
def CharacterChange.apply (character : Character) : CharacterChange → Character
  | .rename name => character.rename name
  | .addAlias text => character.addAlias text
  | .removeAlias text => character.removeAlias text
  | .resetAliases => character.resetAliases
  | .changeSpecies species => character.changeSpecies species
  | .changeBackground background => character.changeBackground background

namespace CharacterChange

/-- The name that a change gives. -/
def name? : CharacterChange → Option String
  | .rename name => some name
  | _ => none

/-- The species that a change gives. -/
def species? : CharacterChange → Option Species
  | .changeSpecies species => some species
  | _ => none

/-- The background that a change gives. -/
def background? : CharacterChange → Option Background
  | .changeBackground background => some background
  | _ => none

/-- Aliases and statistics apart, a change alters only what it gives, and the number never. -/
theorem apply_eq (character : Character) (change : CharacterChange) :
    change.apply character = { change.apply character with
      id := character.id
      name := change.name?.getD character.name
      species := change.species?.getD character.species
      background := change.background?.getD character.background } := by
  cases change with
  | rename name =>
    rw [show apply character (.rename name) = character.rename name from rfl, Character.rename_eq]
    rfl
  | addAlias text =>
    rw [show apply character (.addAlias text) = character.addAlias text from rfl,
      Character.addAlias_eq]
    rfl
  | removeAlias | resetAliases | changeSpecies | changeBackground => rfl

theorem id_apply (character : Character) (change : CharacterChange) :
    (change.apply character).id = character.id := by
  rw [apply_eq]

theorem name_apply (character : Character) (change : CharacterChange) :
    (change.apply character).name = change.name?.getD character.name := by
  rw [apply_eq]

theorem species_apply (character : Character) (change : CharacterChange) :
    (change.apply character).species = change.species?.getD character.species := by
  rw [apply_eq]

theorem background_apply (character : Character) (change : CharacterChange) :
    (change.apply character).background = change.background?.getD character.background := by
  rw [apply_eq]

end CharacterChange

/-! ## Changes to a party -/

/-- A change to the members of a party. -/
inductive RosterChange where
  | add (name : String) (species : Species) (background : Background)
  | remove (id : Nat)
  | member (id : Nat) (change : CharacterChange)

/-- The party after a change. -/
def RosterChange.apply (party : Party) : RosterChange → Party
  | .add name species background => party.add name species background
  | .remove id => party.remove id
  | .member id change => party.update id fun member => change.apply member

/-- How many members join by a change. -/
def RosterChange.joins : RosterChange → Nat
  | .add _ _ _ => 1
  | .remove _ | .member _ _ => 0

namespace Party

/-- The numbers of the members, in the order in which these joined. -/
def numbers (party : Party) : List Nat := party.members.map (·.id)

variable {party : Party}

theorem numbers_add (party : Party) (name : String) (species : Species) (background : Background) :
    (party.add name species background).numbers = party.numbers ++ [party.freshId] := by
  show (party.members ++ [Character.create party.freshId name species background]).map (·.id) = _
  rw [List.map_append, List.map_singleton, Character.id_create]
  rfl

/-- The number for the next member goes up by one with each who joins. -/
theorem freshId_change {change : RosterChange} (h : party.freshId + change.joins < UInt32.size) :
    (change.apply party).freshId = party.freshId + change.joins := by
  cases change with
  | add name species background => exact freshId_add h name species background
  | remove id => rfl
  | member id change => rfl

theorem numbers_remove (party : Party) (id : Nat) :
    (party.remove id).numbers = party.numbers.erase id := by
  rw [numbers, numbers, List.erase_eq_eraseP', List.eraseP_map]
  rfl

theorem numbers_update (party : Party) (id : Nat) (change : CharacterChange) :
    (party.update id fun member => change.apply member).numbers = party.numbers :=
  map_id_updateFirst id (fun member => CharacterChange.id_apply member change) party.members

/-! ## Numbers -/

/-- The numbers of the members ascend, up to the number for the next one. -/
structure Numbered (party : Party) : Prop where
  ascending : party.numbers.Pairwise (· < ·)
  fresh : ∀ id ∈ party.numbers, id < party.freshId

/-- A number that no member has and that has been passed. -/
structure Past (party : Party) (id : Nat) : Prop where
  absent : id ∉ party.numbers
  passed : id < party.freshId

theorem numbered_of_members_eq_nil (h : party.members = []) : party.Numbered := by
  have hnumbers : party.numbers = [] := by rw [numbers, h, List.map_nil]
  constructor
  · rw [hnumbers]
    exact List.Pairwise.nil
  · rw [hnumbers]
    intro id hid
    cases hid

/-- No number is given to two members. -/
theorem Numbered.nodup (h : party.Numbered) : party.numbers.Nodup := h.ascending.imp Nat.ne_of_lt

theorem Numbered.remove (h : party.Numbered) (id : Nat) : (party.remove id).Numbered := by
  have hsublist : (party.remove id).numbers.Sublist party.numbers := by
    rw [numbers_remove]
    exact List.erase_sublist
  exact ⟨h.ascending.sublist hsublist, fun other hother => h.fresh other (hsublist.mem hother)⟩

/-- Changes leave the members with ascending numbers. -/
theorem Numbered.apply (h : party.Numbered) {change : RosterChange}
    (hleft : party.freshId + change.joins < UInt32.size) : (change.apply party).Numbered := by
  cases change with
  | add name species background =>
    have hnumbers := numbers_add party name species background
    have hfresh := freshId_add hleft name species background
    constructor
    · show (party.add name species background).numbers.Pairwise (· < ·)
      rw [hnumbers, List.pairwise_append]
      refine ⟨h.ascending, List.pairwise_singleton _ _, ?_⟩
      intro id hid joined hjoined
      rw [List.mem_singleton.1 hjoined]
      exact h.fresh id hid
    · show ∀ id ∈ (party.add name species background).numbers,
        id < (party.add name species background).freshId
      rw [hnumbers, hfresh]
      intro id hid
      rcases List.mem_append.1 hid with hold | hjoined
      · have hlt := h.fresh id hold
        omega
      · rw [List.mem_singleton.1 hjoined]
        omega
  | remove id => exact h.remove id
  | member id change =>
    have hnumbers := numbers_update party id change
    constructor
    · show (party.update id fun member => change.apply member).numbers.Pairwise (· < ·)
      rw [hnumbers]
      exact h.ascending
    · show ∀ other ∈ (party.update id fun member => change.apply member).numbers,
        other < party.freshId
      rw [hnumbers]
      exact h.fresh

/-- The number of a member who leaves has passed. -/
theorem Numbered.past_remove (h : party.Numbered) {id : Nat} (hid : id ∈ party.numbers) :
    (party.remove id).Past id := by
  constructor
  · rw [numbers_remove]
    exact h.nodup.not_mem_erase
  · exact h.fresh id hid

/-- A number that has passed does not come back. -/
theorem Past.apply {id : Nat} (h : party.Past id) {change : RosterChange}
    (hleft : party.freshId + change.joins < UInt32.size) : (change.apply party).Past id := by
  have habsent := h.absent
  have hpassed := h.passed
  cases change with
  | add name species background =>
    constructor
    · show id ∉ (party.add name species background).numbers
      rw [numbers_add, List.mem_append, List.mem_singleton]
      -- the one who joins gets a later number
      rintro (hold | hjoined)
      · exact habsent hold
      · omega
    · show id < (party.add name species background).freshId
      rw [freshId_add hleft]
      omega
  | remove other =>
    refine ⟨?_, hpassed⟩
    show id ∉ (party.remove other).numbers
    rw [numbers_remove]
    exact fun hmem => habsent (List.mem_of_mem_erase hmem)
  | member other change =>
    refine ⟨?_, hpassed⟩
    show id ∉ (party.update other fun member => change.apply member).numbers
    rw [numbers_update]
    exact habsent

end Party

end Muster
