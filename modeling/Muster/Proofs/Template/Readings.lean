import Muster.Proofs.Text.Lowering
import Muster.Template.Piece

/-!
# Readings of a template

Each group of a template may be kept or left out, and a group within a group that is left out is
left out, too. What remains is a *reading*: words, white space and slots in a row. This file lists
the readings of some pieces (`readingsOfAll`) and the words in them (`wordsOfAll`), and shows that a
reading has no words or slots but those of the template, in the same order.
-/

namespace Muster.Template.Piece

/-! ## Going through pieces -/

/-- To prove something of a list of pieces, the pieces of a group come before those after it. -/
@[elab_as_elim]
theorem listInduction {motive : List Piece → Prop} (nil : motive [])
    (word : ∀ letters rest, motive rest → motive (.word letters :: rest))
    (space : ∀ rest, motive rest → motive (.space :: rest))
    (slot : ∀ kind offset rest, motive rest → motive (.slot kind offset :: rest))
    (group : ∀ pieces offset rest, motive pieces → motive rest →
      motive (.group pieces offset :: rest)) : ∀ pieces, motive pieces
  | [] => nil
  | .word letters :: rest => word letters rest (listInduction nil word space slot group rest)
  | .space :: rest => space rest (listInduction nil word space slot group rest)
  | .slot kind offset :: rest => slot kind offset rest (listInduction nil word space slot group rest)
  | .group pieces offset :: rest =>
    group pieces offset rest (listInduction nil word space slot group pieces)
      (listInduction nil word space slot group rest)

/-! ## Words -/

mutual

/-- The words within a piece, in reading order. -/
def words : Piece → List (List Char)
  | .word letters => [letters]
  | .space => []
  | .group pieces _ => wordsOfAll pieces
  | .slot _ _ => []

/-- The words within some pieces, in reading order. -/
def wordsOfAll : List Piece → List (List Char)
  | [] => []
  | piece :: rest => words piece ++ wordsOfAll rest

end

theorem wordsOfAll_eq_flatMap (pieces : List Piece) : wordsOfAll pieces = pieces.flatMap words := by
  induction pieces with
  | nil => rfl
  | cons piece rest ih => rw [wordsOfAll, ih, List.flatMap_cons]

theorem wordsOfAll_append (pieces more : List Piece) :
    wordsOfAll (pieces ++ more) = wordsOfAll pieces ++ wordsOfAll more := by
  simp only [wordsOfAll_eq_flatMap, List.flatMap_append]

/-- What all words within some pieces have in common, those of the first piece and of the others
have. -/
theorem forall_wordsOfAll_cons {p : List Char → Prop} {piece : Piece} {rest : List Piece} :
    (∀ w ∈ wordsOfAll (piece :: rest), p w) ↔
      (∀ w ∈ words piece, p w) ∧ ∀ w ∈ wordsOfAll rest, p w :=
  List.forall_mem_append

/-! ## Readings -/

mutual

/-- What can remain of a piece. -/
def readings : Piece → List (List Piece)
  | .word letters => [[.word letters]]
  | .space => [[.space]]
  | .group pieces _ => [] :: readingsOfAll pieces
  | .slot kind offset => [[.slot kind offset]]

/-- What can remain of some pieces, each group being kept or left out. -/
def readingsOfAll : List Piece → List (List Piece)
  | [] => [[]]
  | piece :: rest => (readings piece).flatMap fun kept => (readingsOfAll rest).map (kept ++ ·)

end

theorem mem_readingsOfAll_cons {piece : Piece} {rest reading : List Piece} :
    reading ∈ readingsOfAll (piece :: rest) ↔
      ∃ kept ∈ readings piece, ∃ more ∈ readingsOfAll rest, kept ++ more = reading := by
  simp only [readingsOfAll, List.mem_flatMap, List.mem_map]

/-- A piece that is no group remains. -/
theorem mem_readingsOfAll_cons_of_leaf {piece : Piece} (h : readings piece = [[piece]])
    {rest reading : List Piece} :
    reading ∈ readingsOfAll (piece :: rest) ↔
      ∃ more ∈ readingsOfAll rest, piece :: more = reading := by
  rw [mem_readingsOfAll_cons, h]
  simp

/-- A group is left out, or a reading of its pieces comes first. -/
theorem mem_readingsOfAll_group {pieces rest reading : List Piece} {offset : Nat} :
    reading ∈ readingsOfAll (.group pieces offset :: rest) ↔
      reading ∈ readingsOfAll rest ∨
        ∃ kept ∈ readingsOfAll pieces, ∃ more ∈ readingsOfAll rest, kept ++ more = reading := by
  rw [mem_readingsOfAll_cons, readings]
  simp

/-- No group remains as such. -/
theorem group_notMem_of_mem_readingsOfAll {pieces reading : List Piece}
    (h : reading ∈ readingsOfAll pieces) (inner : List Piece) (offset : Nat) :
    .group inner offset ∉ reading := by
  induction pieces using listInduction generalizing reading with
  | nil =>
    rw [readingsOfAll, List.mem_singleton] at h
    rw [h]
    exact List.not_mem_nil
  | word letters rest ih =>
    obtain ⟨more, hmore, rfl⟩ := (mem_readingsOfAll_cons_of_leaf rfl).1 h
    simpa using ih hmore
  | space rest ih =>
    obtain ⟨more, hmore, rfl⟩ := (mem_readingsOfAll_cons_of_leaf rfl).1 h
    simpa using ih hmore
  | slot kind _ rest ih =>
    obtain ⟨more, hmore, rfl⟩ := (mem_readingsOfAll_cons_of_leaf rfl).1 h
    simpa using ih hmore
  | group pieces _ rest ihp ih =>
    rcases mem_readingsOfAll_group.1 h with hrest | ⟨kept, hkept, more, hmore, rfl⟩
    · exact ih hrest
    · rw [List.mem_append, not_or]
      exact ⟨ihp hkept, ih hmore⟩

/-- The words of a reading are words of the template, in the same order. -/
theorem wordsOfAll_sublist {pieces reading : List Piece} (h : reading ∈ readingsOfAll pieces) :
    (wordsOfAll reading).Sublist (wordsOfAll pieces) := by
  induction pieces using listInduction generalizing reading with
  | nil =>
    rw [readingsOfAll, List.mem_singleton] at h
    exact h ▸ List.Sublist.refl _
  | word letters rest ih =>
    obtain ⟨more, hmore, rfl⟩ := (mem_readingsOfAll_cons_of_leaf rfl).1 h
    exact (ih hmore).append_left _
  | space rest ih =>
    obtain ⟨more, hmore, rfl⟩ := (mem_readingsOfAll_cons_of_leaf rfl).1 h
    show (wordsOfAll more).Sublist (wordsOfAll rest)
    exact ih hmore
  | slot kind offset rest ih =>
    obtain ⟨more, hmore, rfl⟩ := (mem_readingsOfAll_cons_of_leaf rfl).1 h
    show (wordsOfAll more).Sublist (wordsOfAll rest)
    exact ih hmore
  | group pieces offset rest ihp ih =>
    rw [wordsOfAll, words]
    rcases mem_readingsOfAll_group.1 h with hrest | ⟨kept, hkept, more, hmore, rfl⟩
    · exact (ih hrest).trans (List.sublist_append_right _ _)
    · rw [wordsOfAll_append]
      exact (ihp hkept).append (ih hmore)

theorem slotsOfAll_append (pieces more : List Piece) :
    slotsOfAll (pieces ++ more) = slotsOfAll pieces ++ slotsOfAll more := by
  induction pieces with
  | nil => rfl
  | cons piece rest ih => rw [List.cons_append, slotsOfAll, slotsOfAll, ih, List.append_assoc]

/-- The slots among some pieces are slots within them. -/
theorem mem_slotsOfAll {pieces : List Piece} {kind : SlotKind} {offset : Nat}
    (h : .slot kind offset ∈ pieces) : (kind, offset) ∈ slotsOfAll pieces := by
  induction pieces with
  | nil => cases h
  | cons piece rest ih =>
    rw [slotsOfAll]
    rcases List.mem_cons.1 h with rfl | hrest
    · exact List.mem_append_left _ (List.mem_singleton_self _)
    · exact List.mem_append_right _ (ih hrest)

/-- The kind of a slot. -/
def kind? : Piece → Option SlotKind
  | .slot kind _ => some kind
  | _ => none

/-- The kinds of the slots that a reading keeps. -/
def kinds (reading : List Piece) : List SlotKind := reading.filterMap kind?

/-- The slots of a reading are slots of the template, in the same order. -/
theorem kinds_sublist {pieces reading : List Piece} (h : reading ∈ readingsOfAll pieces) :
    (kinds reading).Sublist ((slotsOfAll pieces).map (·.1)) := by
  induction pieces using listInduction generalizing reading with
  | nil =>
    rw [readingsOfAll, List.mem_singleton] at h
    rw [h]
    exact List.Sublist.refl _
  | word letters rest ih =>
    obtain ⟨more, hmore, rfl⟩ := (mem_readingsOfAll_cons_of_leaf rfl).1 h
    show (kinds more).Sublist ((slotsOfAll rest).map (·.1))
    exact ih hmore
  | space rest ih =>
    obtain ⟨more, hmore, rfl⟩ := (mem_readingsOfAll_cons_of_leaf rfl).1 h
    show (kinds more).Sublist ((slotsOfAll rest).map (·.1))
    exact ih hmore
  | slot kind offset rest ih =>
    obtain ⟨more, hmore, rfl⟩ := (mem_readingsOfAll_cons_of_leaf rfl).1 h
    show (kind :: kinds more).Sublist (kind :: (slotsOfAll rest).map (·.1))
    exact (ih hmore).cons_cons kind
  | group pieces offset rest ihp ih =>
    rw [slotsOfAll, slots, List.map_append]
    rcases mem_readingsOfAll_group.1 h with hrest | ⟨kept, hkept, more, hmore, rfl⟩
    · exact (ih hrest).trans (List.sublist_append_right _ _)
    · rw [kinds, List.filterMap_append]
      exact (ihp hkept).append (ih hmore)

end Muster.Template.Piece
