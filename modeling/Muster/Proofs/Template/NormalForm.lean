import Mathlib.Data.List.Chain
import Muster.Proofs.Template.Parsing

/-!
# Normal form of templates

Pieces are in *normal form* when no row of them, at whatever level of nesting, begins or ends with
white space, has white space beside white space or a word beside a word, or is empty; when their
words have letters, all of them lowered; and when no kind of slot occurs twice. Main statement: what
is read from a template is in normal form (`normal_of_parse`).

The reader builds the rows from left to right and keeps the last piece first. `Growing` says what
holds of such a row while it is being built, and is kept by every mark.
-/

namespace Muster.Template

open Muster.Text

namespace Piece

/-! ## Rows of pieces -/

/-- Whether a piece is a word. -/
def isWord : Piece → Bool
  | .word _ => true
  | _ => false

theorem eq_space_of_isSpace {piece : Piece} (h : piece.isSpace = true) : piece = .space := by
  cases piece with
  | space => rfl
  | word letters => cases h
  | group pieces offset => cases h
  | slot kind offset => cases h

theorem exists_eq_word_of_isWord {piece : Piece} (h : piece.isWord = true) :
    ∃ letters, piece = .word letters := by
  cases piece with
  | word letters => exact ⟨letters, rfl⟩
  | space => cases h
  | group pieces offset => cases h
  | slot kind offset => cases h

/-- Two pieces may stand side by side: they are not both white space, and not both words. -/
structure Adjoins (a b : Piece) : Prop where
  space : a.isSpace = true → b.isSpace = false
  word : a.isWord = true → b.isWord = false

theorem Adjoins.symm {a b : Piece} (h : Adjoins a b) : Adjoins b a where
  space hb := by
    refine Bool.eq_false_iff.2 fun ha => ?_
    rw [h.space ha] at hb
    cases hb
  word hb := by
    refine Bool.eq_false_iff.2 fun ha => ?_
    rw [h.word ha] at hb
    cases hb

/-- Pieces that stand in a row as they should: something is there, no white space is at either end,
and neighbours may stand side by side. -/
structure Row (pieces : List Piece) : Prop where
  ne_nil : pieces ≠ []
  head : ∀ piece ∈ pieces.head?, piece.isSpace = false
  last : ∀ piece ∈ pieces.getLast?, piece.isSpace = false
  apart : pieces.IsChain Adjoins

mutual

/-- The rows of pieces within a piece. -/
def rows : Piece → List (List Piece)
  | .word _ => []
  | .space => []
  | .group pieces _ => pieces :: rowsOfAll pieces
  | .slot _ _ => []

/-- The rows of pieces within some pieces, at every level of nesting. -/
def rowsOfAll : List Piece → List (List Piece)
  | [] => []
  | piece :: rest => rows piece ++ rowsOfAll rest

end

theorem rowsOfAll_eq_flatMap (pieces : List Piece) : rowsOfAll pieces = pieces.flatMap rows := by
  induction pieces with
  | nil => rfl
  | cons piece rest ih => rw [rowsOfAll, ih, List.flatMap_cons]

theorem mem_rowsOfAll_reverse {pieces row : List Piece} :
    row ∈ rowsOfAll pieces.reverse ↔ row ∈ rowsOfAll pieces := by
  simp only [rowsOfAll_eq_flatMap, List.mem_flatMap, List.mem_reverse]

end Piece

open Piece

/-- Pieces in normal form. -/
structure Normal (pieces : List Piece) : Prop where
  row : Row pieces
  rows : ∀ row ∈ rowsOfAll pieces, Row row
  words : ∀ w ∈ wordsOfAll pieces, w ≠ [] ∧ Lowered w
  slots : ((slotsOfAll pieces).map (·.1)).Nodup

namespace Outline

/-! ## Rows that are being built -/

/-- What holds of a row, the last piece first, while it is being built: it may still end, but not
begin, with white space. -/
structure Growing (pieces : List Piece) : Prop where
  first : ∀ piece ∈ pieces.getLast?, piece.isSpace = false
  apart : pieces.IsChain Adjoins
  rows : ∀ row ∈ rowsOfAll pieces, Row row

theorem growing_nil : Growing [] where
  first piece h := by cases h
  apart := List.isChain_nil
  rows row h := by cases h

/-- A piece is put after those that are there. -/
theorem Growing.cons {pieces : List Piece} (h : Growing pieces) {piece : Piece}
    (hfirst : pieces = [] → piece.isSpace = false)
    (hnext : ∀ before ∈ pieces.head?, Adjoins piece before)
    (hrows : ∀ row ∈ piece.rows, Row row) : Growing (piece :: pieces) where
  first := by
    intro last hlast
    by_cases hempty : pieces = []
    · rw [hempty, List.getLast?_singleton, Option.mem_some_iff] at hlast
      rw [← hlast]
      exact hfirst hempty
    · rw [List.getLast?_cons_of_ne_nil hempty] at hlast
      exact h.first last hlast
  apart := List.isChain_cons.2 ⟨hnext, h.apart⟩
  rows := by
    intro row hrow
    rw [rowsOfAll, List.mem_append] at hrow
    rcases hrow with hrow | hrow
    · exact hrows row hrow
    · exact h.rows row hrow

/-- Without the last piece the row is as it was before. -/
theorem Growing.tail {piece : Piece} {pieces : List Piece} (h : Growing (piece :: pieces)) :
    Growing pieces where
  first := by
    intro last hlast
    have hne : pieces ≠ [] := by
      intro hempty
      rw [hempty] at hlast
      cases hlast
    apply h.first last
    rw [List.getLast?_cons_of_ne_nil hne]
    exact hlast
  apart := (List.isChain_cons.1 h.apart).2
  rows := fun row hrow => h.rows row (List.mem_append_right _ hrow)

/-- A piece that is neither white space nor a word may follow any other. -/
theorem Growing.cons_other {pieces : List Piece} (h : Growing pieces) {piece : Piece}
    (hspace : piece.isSpace = false) (hword : piece.isWord = false)
    (hrows : ∀ row ∈ piece.rows, Row row) : Growing (piece :: pieces) := by
  refine h.cons (fun _ => hspace) (fun before _ => ⟨fun hpiece => ?_, fun hpiece => ?_⟩) hrows
  · rw [hspace] at hpiece
    cases hpiece
  · rw [hword] at hpiece
    cases hpiece

theorem growing_addLetters {pieces : List Piece} (h : Growing pieces) (chars : List Char) :
    Growing (addLetters chars pieces) := by
  unfold addLetters
  split
  · -- a longer word has the neighbours of the word
    next letters before =>
    have hnext := (List.isChain_cons.1 h.apart).1
    refine h.tail.cons (fun _ => rfl) (fun piece hpiece => ?_) fun row hrow =>
      absurd hrow List.not_mem_nil
    exact ⟨(hnext piece hpiece).space, (hnext piece hpiece).word⟩
  · next hword =>
    refine h.cons (fun _ => rfl) (fun before hbefore => ⟨fun hspace => ?_, fun _ => ?_⟩)
      fun row hrow => absurd hrow List.not_mem_nil
    · cases hspace
    · -- the piece before is no word, or it would have been continued
      refine Bool.eq_false_iff.2 fun hisWord => ?_
      obtain ⟨letters, hletters⟩ := exists_eq_word_of_isWord hisWord
      obtain ⟨more, hmore⟩ := List.head?_eq_some_iff.1 hbefore
      exact hword letters more (by rw [hmore, hletters])

theorem growing_addSpace {pieces : List Piece} (h : Growing pieces) :
    Growing (addSpace pieces) := by
  unfold addSpace
  split
  · exact h
  · exact h
  · next hne hspace =>
    refine h.cons (fun hnil => (hne hnil).elim) (fun before hbefore => ⟨fun _ => ?_, fun hword => ?_⟩)
      fun row hrow => absurd hrow List.not_mem_nil
    · refine Bool.eq_false_iff.2 fun hisSpace => ?_
      obtain ⟨more, hmore⟩ := List.head?_eq_some_iff.1 hbefore
      exact hspace more (by rw [hmore, eq_space_of_isSpace hisSpace])
    · cases hword

theorem growing_dropSpace {pieces : List Piece} (h : Growing pieces) :
    Growing (dropSpace pieces) := by
  unfold dropSpace
  split
  · exact h.tail
  · exact h

/-- Only one blank can be at the end of a row, so none is left when it has been dropped. -/
theorem head_dropSpace {pieces : List Piece} (h : Growing pieces) :
    ∀ piece ∈ (dropSpace pieces).head?, piece.isSpace = false := by
  intro piece hpiece
  unfold dropSpace at hpiece
  split at hpiece
  · have hnext := (List.isChain_cons.1 h.apart).1 piece hpiece
    exact hnext.space rfl
  · next hspace =>
    refine Bool.eq_false_iff.2 fun hisSpace => ?_
    obtain ⟨more, hmore⟩ := List.head?_eq_some_iff.1 hpiece
    exact hspace more (by rw [hmore, eq_space_of_isSpace hisSpace])

/-- A row that has been built stands as it should. -/
theorem row_of_growing {pieces : List Piece} (h : Growing pieces) (hne : dropSpace pieces ≠ []) :
    Row (dropSpace pieces).reverse where
  ne_nil hnil := hne (List.reverse_eq_nil_iff.1 hnil)
  head := by
    intro piece hpiece
    rw [List.head?_reverse] at hpiece
    exact (growing_dropSpace h).first piece hpiece
  last := by
    intro piece hpiece
    rw [List.getLast?_reverse] at hpiece
    exact head_dropSpace h piece hpiece
  apart := by
    rw [List.isChain_reverse]
    exact (growing_dropSpace h).apart.imp fun _ _ hadjoins => hadjoins.symm

/-- The rows within a row that has been built stand as they should. -/
theorem rows_of_growing {pieces : List Piece} (h : Growing pieces) :
    ∀ row ∈ rowsOfAll (dropSpace pieces).reverse, Row row := by
  intro row hrow
  exact (growing_dropSpace h).rows row (mem_rowsOfAll_reverse.1 hrow)

/-! ## Outlines -/

/-- All rows of an outline are being built as they should. -/
structure Sound (outline : Outline) : Prop where
  inner : Growing outline.inner
  enclosing : ∀ frame ∈ outline.enclosing, Growing frame.2

theorem sound_empty : Sound {} where
  inner := growing_nil
  enclosing _ h := absurd h List.not_mem_nil

/-- Whatever the mark, the rows stay as they should be. -/
theorem Sound.add {outline next : Outline} {mark : Mark} (h : outline.Sound)
    (hadd : outline.add mark = .ok next) : next.Sound := by
  cases mark with
  | letters chars =>
    cases hadd
    exact ⟨growing_addLetters h.inner chars, h.enclosing⟩
  | blank =>
    cases hadd
    exact ⟨growing_addSpace h.inner, h.enclosing⟩
  | slot kind offset =>
    cases hadd
    exact ⟨h.inner.cons_other rfl rfl fun row hrow => absurd hrow List.not_mem_nil, h.enclosing⟩
  | opening offset =>
    cases hadd
    refine ⟨growing_nil, fun frame hframe => ?_⟩
    rcases List.mem_cons.1 hframe with rfl | hframe
    · exact h.inner
    · exact h.enclosing frame hframe
  | closing offset =>
    simp only [Outline.add] at hadd
    split at hadd
    · cases hadd
    · next start before enclosing henclosing =>
      have hbefore : Growing before := h.enclosing (start, before) (by simp [henclosing])
      split at hadd
      · cases hadd
      · next hne =>
        cases hadd
        refine ⟨hbefore.cons_other rfl rfl fun row hrow => ?_,
          fun frame hframe => h.enclosing frame (by simp [henclosing, hframe])⟩
        -- the pieces of the group, or a row within them
        rcases List.mem_cons.1 hrow with rfl | hrow
        · exact row_of_growing h.inner hne
        · exact rows_of_growing h.inner row hrow

theorem Sound.finish {outline : Outline} {pieces : List Piece} (h : outline.Sound)
    (hfinish : outline.finish = .ok pieces) :
    Row pieces ∧ ∀ row ∈ rowsOfAll pieces, Row row := by
  unfold Outline.finish at hfinish
  split at hfinish
  · cases hfinish
  · split at hfinish
    · cases hfinish
    · next hne =>
      cases hfinish
      exact ⟨row_of_growing h.inner hne, rows_of_growing h.inner⟩

end Outline

/-- What is read from a template is in normal form. -/
theorem normal_of_parse {template : String} {pieces : List Piece}
    (h : parse template = .ok pieces) : Normal pieces := by
  obtain ⟨outline, hfold, hfinish, _⟩ := parseChars_eq_ok h
  have hsound : outline.Sound :=
    foldlM_preserves (fun before hbefore mark _ next hnext => hbefore.add hnext)
      Outline.sound_empty hfold
  have hrows := hsound.finish hfinish
  exact {
    row := hrows.1
    rows := hrows.2
    words := fun w hw => words_of_parse h hw
    slots := nodup_slots_of_parse h }

end Muster.Template
