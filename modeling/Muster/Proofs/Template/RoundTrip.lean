import Muster.Proofs.Template.NormalForm
import Muster.Template.Printer

/-!
# Reading what has been written

Pieces in normal form are written as a text from which the same pieces are read again, with the
offsets that groups and slots have in that text. The two steps of reading are taken one after the
other: what is written for a piece is scanned to certain marks, wherever it stands (`ScansTo`), and
from these marks an outline with that piece is made (`foldlM_marksOfAll`).

Main statement: reading yields normal form, reading undoes writing, and to write and read once more
changes nothing but offsets (`reading_inverts_writing`).
-/

namespace Muster.Template

open Muster.Text Muster.Unicode

namespace Piece

/-! ## Offsets -/

mutual

/-- A piece whose text begins at an offset, with the offsets that its groups and slots have
there. -/
def placed (start : Nat) : Piece → Piece
  | .word letters => .word letters
  | .space => .space
  | .group pieces _ => .group (placedAll (start + 1) pieces) start
  | .slot kind _ => .slot kind start

/-- Pieces whose text begins at an offset. Each begins where the text of the one before ends. -/
def placedAll (start : Nat) : List Piece → List Piece
  | [] => []
  | piece :: rest => placed start piece :: placedAll (start + byteLength piece.print) rest

end

mutual

/-- A piece without its offsets. -/
def bare : Piece → Piece
  | .word letters => .word letters
  | .space => .space
  | .group pieces _ => .group (bareAll pieces) 0
  | .slot kind _ => .slot kind 0

/-- Pieces without their offsets. -/
def bareAll : List Piece → List Piece
  | [] => []
  | piece :: rest => bare piece :: bareAll rest

end

mutual

/-- The groups and slots within a piece, each by the character that opens it and its offset. -/
def openings : Piece → List (Char × Nat)
  | .word _ => []
  | .space => []
  | .group pieces offset => ('[', offset) :: openingsOfAll pieces
  | .slot _ offset => [('{', offset)]

/-- The groups and slots within some pieces. -/
def openingsOfAll : List Piece → List (Char × Nat)
  | [] => []
  | piece :: rest => openings piece ++ openingsOfAll rest

end

@[simp] theorem isSpace_placed (start : Nat) (piece : Piece) :
    (placed start piece).isSpace = piece.isSpace := by
  cases piece <;> rfl

@[simp] theorem isWord_placed (start : Nat) (piece : Piece) :
    (placed start piece).isWord = piece.isWord := by
  cases piece <;> rfl

theorem map_isSpace_placedAll (start : Nat) (pieces : List Piece) :
    (placedAll start pieces).map isSpace = pieces.map isSpace := by
  induction pieces generalizing start with
  | nil => rfl
  | cons piece rest ih => rw [placedAll, List.map_cons, List.map_cons, isSpace_placed, ih]

/-- Only offsets change. -/
theorem bareAll_placedAll (start : Nat) (pieces : List Piece) :
    bareAll (placedAll start pieces) = bareAll pieces := by
  induction pieces using listInduction generalizing start with
  | nil => rfl
  | word letters rest ih => rw [placedAll, bareAll, bareAll, ih, placed]
  | space rest ih => rw [placedAll, bareAll, bareAll, ih, placed]
  | slot kind offset rest ih => rw [placedAll, bareAll, bareAll, ih, placed, bare, bare]
  | group pieces offset rest ihp ih => rw [placedAll, bareAll, bareAll, ih, placed, bare, bare, ihp]

theorem kinds_placedAll (start : Nat) (pieces : List Piece) :
    (slotsOfAll (placedAll start pieces)).map (·.1) = (slotsOfAll pieces).map (·.1) := by
  induction pieces using listInduction generalizing start with
  | nil => rfl
  | word letters rest ih => exact ih _
  | space rest ih => exact ih _
  | slot kind offset rest ih =>
    rw [placedAll, slotsOfAll, slotsOfAll, List.map_append, List.map_append, ih, placed, slots, slots]
    rfl
  | group pieces offset rest ihp ih =>
    rw [placedAll, slotsOfAll, slotsOfAll, List.map_append, List.map_append, ih, placed, slots, slots,
      ihp]

/-- At the offset of a group or slot stands the character that opens it. -/
theorem exists_opening {start : Nat} {pieces : List Piece} {opening : Char × Nat}
    (h : opening ∈ openingsOfAll (placedAll start pieces)) :
    ∃ before after, printAll pieces = before ++ opening.1 :: after ∧
      opening.2 = start + byteLength before := by
  induction pieces using listInduction generalizing start with
  | nil => cases h
  | word letters rest ih =>
    obtain ⟨before, after, hprint, hoffset⟩ := ih h
    refine ⟨printLetters letters ++ before, after, ?_, ?_⟩
    · rw [printAll, hprint, List.append_assoc]
      rfl
    · rw [hoffset, print, byteLength_append]
      omega
  | space rest ih =>
    obtain ⟨before, after, hprint, hoffset⟩ := ih h
    refine ⟨' ' :: before, after, ?_, ?_⟩
    · rw [printAll, hprint]
      rfl
    · rw [hoffset, print, byteLength_cons, byteLength_cons, byteLength_nil]
      omega
  | slot kind offset rest ih =>
    rcases List.mem_cons.1 h with rfl | hrest
    · exact ⟨[], kind.label.toList ++ ['}'] ++ printAll rest, rfl, rfl⟩
    · obtain ⟨before, after, hprint, hoffset⟩ := ih hrest
      refine ⟨print (.slot kind offset) ++ before, after, ?_, ?_⟩
      · rw [printAll, hprint, List.append_assoc]
      · rw [hoffset, byteLength_append]
        omega
  | group pieces offset rest ihp ih =>
    rw [placedAll, openingsOfAll, placed, openings, List.cons_append, List.mem_cons,
      List.mem_append] at h
    rcases h with rfl | hinner | hrest
    · exact ⟨[], printAll pieces ++ [']'] ++ printAll rest, rfl, rfl⟩
    · -- one within the group comes after the bracket of the group
      obtain ⟨before, after, hprint, hoffset⟩ := ihp hinner
      refine ⟨'[' :: before, after ++ ']' :: printAll rest, ?_, ?_⟩
      · rw [printAll, print, hprint]
        simp only [List.cons_append, List.append_assoc, List.nil_append]
      · have hbracket : '['.utf8Size = 1 := rfl
        rw [hoffset, byteLength_cons, hbracket]
        omega
    · obtain ⟨before, after, hprint, hoffset⟩ := ih hrest
      refine ⟨print (.group pieces offset) ++ before, after, ?_, ?_⟩
      · rw [printAll, hprint, List.append_assoc]
      · rw [hoffset, byteLength_append]
        omega

/-! ## Marks -/

mutual

/-- The marks to which the text of a piece is scanned that begins at an offset. -/
def marks (start : Nat) : Piece → List Mark
  | .word letters => letters.map fun c => .letters [c]
  | .space => [.blank]
  | .group pieces _ =>
    .opening start :: (marksOfAll (start + 1) pieces ++
      [.closing (start + byteLength ('[' :: printAll pieces))])
  | .slot kind _ => [.slot kind start]

/-- The marks to which the text of some pieces is scanned. -/
def marksOfAll (start : Nat) : List Piece → List Mark
  | [] => []
  | piece :: rest => marks start piece ++ marksOfAll (start + byteLength piece.print) rest

end

end Piece

open Piece

/-- Wherever a text begins, and whatever follows it, it is scanned to the given marks. -/
def ScansTo (text : List Char) (marks : Nat → List Mark) : Prop :=
  ∀ start rest, scan .plain start (text ++ rest) =
    (scan .plain (start + byteLength text) rest).map (marks start ++ ·) id

theorem scansTo_nil : ScansTo [] fun _ => [] := fun _ _ => rfl

/-- Of two texts in a row the second one begins where the first one ends. -/
theorem ScansTo.append {s t : List Char} {ms ns : Nat → List Mark} (hs : ScansTo s ms)
    (ht : ScansTo t ns) : ScansTo (s ++ t) fun start => ms start ++ ns (start + byteLength s) := by
  intro start rest
  rw [List.append_assoc, hs, ht, byteLength_append, Nat.add_assoc]
  simp only [Prod.map, List.append_assoc, id]

/-- A letter is a mark, if need be after a backslash. -/
theorem scansTo_letter {c : Char} (h : lowerChar c = [c]) :
    ScansTo (if needsEscape c then ['\\', c] else [c]) fun _ => [.letters [c]] := by
  intro start rest
  by_cases hescape : needsEscape c = true
  · rw [if_pos hescape]
    have hslash : '\\'.utf8Size = 1 := rfl
    simp only [List.cons_append, List.nil_append, scan, if_true, h, byteLength_cons, byteLength_nil,
      hslash, Nat.add_zero, Nat.add_assoc]
  · rw [if_neg hescape]
    -- a character that needs no backslash has no meaning of its own
    unfold needsEscape at hescape
    simp only [Bool.or_eq_true, decide_eq_true_eq, List.mem_cons, List.not_mem_nil, or_false,
      not_or] at hescape
    obtain ⟨hwhite, hslash, hopen, hclose, hbrace, hend⟩ := hescape
    simp only [List.cons_append, List.nil_append, scan, if_neg hwhite, if_neg hslash, if_neg hopen,
      if_neg hclose, if_neg hbrace, if_neg hend, h, byteLength_cons, byteLength_nil, Nat.add_zero]

theorem scansTo_letters {letters : List Char} (h : Lowered letters) :
    ScansTo (printLetters letters) fun _ => letters.map fun c => .letters [c] := by
  induction letters with
  | nil => exact scansTo_nil
  | cons c cs ih =>
    have hc := scansTo_letter (h c (by simp))
    have hcs := ih fun d hd => h d (by simp [hd])
    exact hc.append hcs

theorem scansTo_space : ScansTo [' '] fun _ => [.blank] := fun _ _ => rfl

theorem scansTo_opening : ScansTo ['['] fun start => [.opening start] := fun _ _ => rfl

theorem scansTo_closing : ScansTo [']'] fun start => [.closing start] := fun _ _ => rfl

/-- Between braces everything belongs to the name, up to the closing brace. -/
theorem scan_braces (start offset : Nat) (read name rest : List Char)
    (h : ∀ c ∈ name, c ≠ '}') :
    scan (.braces start read) offset (name ++ '}' :: rest) =
      scan (.braces start (read ++ name)) (offset + byteLength name) ('}' :: rest) := by
  induction name generalizing offset read with
  | nil => rw [List.nil_append, List.append_nil, byteLength_nil, Nat.add_zero]
  | cons c cs ih =>
    have hc : c ≠ '}' := h c (by simp)
    rw [List.cons_append, scan]
    simp only [if_neg hc]
    rw [ih _ _ fun d hd => h d (by simp [hd]), byteLength_cons, List.append_assoc, Nat.add_assoc]
    rfl

theorem slotNamed_label (start : Nat) (kind : SlotKind) :
    slotNamed start kind.label.toList = .ok kind := by
  cases kind <;> rfl

theorem scansTo_slot (kind : SlotKind) (offset : Nat) :
    ScansTo (Piece.print (.slot kind offset)) fun start => [.slot kind start] := by
  intro start rest
  have hname : ∀ c ∈ kind.label.toList, c ≠ '}' := by
    have hall : kind.label.toList.all (· != '}') = true := by
      cases kind <;> decide
    intro c hc
    simpa using List.all_eq_true.1 hall c hc
  have hopen : '{'.utf8Size = 1 := rfl
  have hclose : '}'.utf8Size = 1 := rfl
  have htext : Piece.print (.slot kind offset) ++ rest =
      '{' :: (kind.label.toList ++ '}' :: rest) := by
    rw [Piece.print, List.cons_append, List.cons_append, List.append_assoc]
    rfl
  have hlength : byteLength (Piece.print (.slot kind offset)) =
      1 + byteLength kind.label.toList + 1 := by
    rw [Piece.print, List.cons_append, byteLength_cons, byteLength_append, byteLength_cons,
      byteLength_nil, hopen, hclose]
    omega
  have hbrace : scan .plain start ('{' :: (kind.label.toList ++ '}' :: rest)) =
      scan (.braces start []) (start + 1) (kind.label.toList ++ '}' :: rest) := rfl
  rw [htext, hlength, hbrace, scan_braces start _ [] _ rest hname, List.nil_append, scan]
  simp only [if_true, slotNamed_label, hclose]
  rw [← Nat.add_assoc, ← Nat.add_assoc]
  rfl

/-- What is written for pieces is scanned to their marks. -/
theorem scansTo_printAll {pieces : List Piece} (h : ∀ w ∈ wordsOfAll pieces, Lowered w) :
    ScansTo (printAll pieces) (marksOfAll · pieces) := by
  induction pieces using listInduction with
  | nil => exact scansTo_nil
  | word letters rest ih =>
    have hword := scansTo_letters (h letters (List.mem_cons_self ..))
    exact hword.append (ih fun w hw => h w (List.mem_cons_of_mem _ hw))
  | space rest ih => exact scansTo_space.append (ih h)
  | slot kind offset rest ih => exact (scansTo_slot kind offset).append (ih h)
  | group pieces offset rest ihp ih =>
    have hinner := ihp fun w hw => h w (List.mem_append_left _ hw)
    have hrest := ih fun w hw => h w (List.mem_append_right _ hw)
    exact ((scansTo_opening.append hinner).append scansTo_closing).append hrest

/-! ## Outlines -/

namespace Outline

/-- Pieces may come after those of a row that have been read, the last of which stands first. -/
structure Follows (inner pieces : List Piece) : Prop where
  first : inner = [] → ∀ piece ∈ pieces.head?, piece.isSpace = false
  next : ∀ before ∈ inner.head?, ∀ piece ∈ pieces.head?, Adjoins before piece
  apart : pieces.IsChain Adjoins

theorem follows_of_row {pieces : List Piece} (h : Row pieces) : Follows [] pieces where
  first _ := h.head
  next before hbefore := by cases hbefore
  apart := h.apart

/-- Once a piece has been read the others come after it. -/
theorem Follows.step {inner : List Piece} {piece : Piece} {rest : List Piece}
    (h : Follows inner (piece :: rest)) (start : Nat) : Follows (piece.placed start :: inner) rest where
  first hnil := by cases hnil
  next before hbefore next hnext := by
    have hadjoins := (List.isChain_cons.1 h.apart).1 next hnext
    rw [List.head?_cons, Option.mem_some_iff] at hbefore
    subst hbefore
    refine ⟨fun hspace => ?_, fun hword => ?_⟩
    · rw [isSpace_placed] at hspace
      exact hadjoins.space hspace
    · rw [isWord_placed] at hword
      exact hadjoins.word hword
  apart := (List.isChain_cons.1 h.apart).2

theorem dropSpace_eq_self {pieces : List Piece}
    (h : ∀ piece ∈ pieces.head?, piece.isSpace = false) : dropSpace pieces = pieces := by
  unfold dropSpace
  split
  · have hspace := h .space rfl
    cases hspace
  · rfl

/-- A finished row is not changed by what is done at its end. -/
theorem dropSpace_placedAll {pieces : List Piece} (h : Row pieces) (start : Nat) :
    dropSpace (placedAll start pieces).reverse = (placedAll start pieces).reverse := by
  refine dropSpace_eq_self fun piece hpiece => ?_
  rw [List.head?_reverse] at hpiece
  have hlast : piece.isSpace ∈ ((placedAll start pieces).map isSpace).getLast? := by
    rw [List.getLast?_map, hpiece]
    rfl
  rw [map_isSpace_placedAll, List.getLast?_map] at hlast
  obtain ⟨last, hmem, heq⟩ := Option.map_eq_some_iff.1 hlast
  rw [← heq]
  exact h.last last hmem

theorem placedAll_ne_nil {pieces : List Piece} (h : pieces ≠ []) (start : Nat) :
    placedAll start pieces ≠ [] := by
  intro hnil
  have hmap := map_isSpace_placedAll start pieces
  rw [hnil, List.map_nil, eq_comm, List.map_eq_nil_iff] at hmap
  exact h hmap

/-- Letters go on with the word that has been begun. -/
theorem foldlM_letters (letters begun : List Char) (before : List Piece)
    (enclosing : List (Nat × List Piece)) :
    (letters.map fun c => Mark.letters [c]).foldlM Outline.add ⟨.word begun :: before, enclosing⟩ =
      .ok ⟨.word (begun ++ letters) :: before, enclosing⟩ := by
  induction letters generalizing begun with
  | nil => rw [List.append_nil]; rfl
  | cons c cs ih =>
    have hrest := ih (begun ++ [c])
    rw [List.append_assoc] at hrest
    exact hrest

/-- The letters of a word make a word, unless they come right after another one. -/
theorem foldlM_word {letters : List Char} (hne : letters ≠ []) {inner : List Piece}
    (hinner : ∀ before ∈ inner.head?, before.isWord = false) (enclosing : List (Nat × List Piece)) :
    (letters.map fun c => Mark.letters [c]).foldlM Outline.add ⟨inner, enclosing⟩ =
      .ok ⟨.word letters :: inner, enclosing⟩ := by
  obtain ⟨c, cs, rfl⟩ := List.exists_cons_of_ne_nil hne
  have hbegin : addLetters [c] inner = .word [c] :: inner := by
    unfold addLetters
    split
    · have hword := hinner _ rfl
      cases hword
    · rfl
  have hadd : Outline.add ⟨inner, enclosing⟩ (.letters [c]) = .ok ⟨.word [c] :: inner, enclosing⟩ := by
    rw [Outline.add, hbegin]
  rw [List.map_cons, List.foldlM_cons, hadd]
  exact foldlM_letters cs [c] inner enclosing

/-- From the marks of some pieces these pieces are made, with their offsets, after those that have
been read before. -/
theorem foldlM_marksOfAll {pieces : List Piece} (hrows : ∀ row ∈ rowsOfAll pieces, Row row)
    (hwords : ∀ w ∈ wordsOfAll pieces, w ≠ []) (start : Nat) {inner : List Piece}
    (hfollows : Follows inner pieces) (enclosing : List (Nat × List Piece)) :
    (marksOfAll start pieces).foldlM Outline.add ⟨inner, enclosing⟩ =
      .ok ⟨(placedAll start pieces).reverse ++ inner, enclosing⟩ := by
  induction pieces using listInduction generalizing start inner enclosing with
  | nil => rfl
  | word letters rest ih =>
    have hne : letters ≠ [] := hwords letters (List.mem_cons_self ..)
    have hinner : ∀ before ∈ inner.head?, before.isWord = false := by
      intro before hbefore
      have hadjoins := hfollows.next before hbefore (.word letters) rfl
      exact hadjoins.symm.word rfl
    have hrest := ih hrows (fun w hw => hwords w (List.mem_cons_of_mem _ hw))
      (start + byteLength (Piece.print (.word letters))) (hfollows.step start) enclosing
    rw [marksOfAll, marks, List.foldlM_append, foldlM_word hne hinner enclosing]
    rw [placedAll, List.reverse_cons, List.append_assoc]
    exact hrest
  | space rest ih =>
    have hadd : addSpace inner = .space :: inner := by
      unfold addSpace
      split
      · -- white space is not the first piece of a row
        have hspace := hfollows.first rfl .space rfl
        cases hspace
      · -- nor does it follow white space
        have hspace := (hfollows.next .space rfl .space rfl).space rfl
        cases hspace
      · rfl
    have hrest := ih hrows hwords (start + byteLength (Piece.print .space)) (hfollows.step start)
      enclosing
    have hblank : Outline.add ⟨inner, enclosing⟩ .blank = .ok ⟨.space :: inner, enclosing⟩ := by
      rw [Outline.add, hadd]
    rw [marksOfAll, marks, List.cons_append, List.foldlM_cons, hblank]
    rw [placedAll, List.reverse_cons, List.append_assoc]
    exact hrest
  | slot kind offset rest ih =>
    have hrest := ih hrows hwords (start + byteLength (Piece.print (.slot kind offset)))
      (hfollows.step start) enclosing
    rw [marksOfAll, marks, placedAll, List.reverse_cons, List.append_assoc]
    exact hrest
  | group pieces offset rest ihp ih =>
    have hrow : Row pieces := hrows pieces (List.mem_cons_self ..)
    -- the pieces of the group are read with nothing before them
    have hinside := ihp
      (fun row hrow => hrows row (List.mem_cons_of_mem _ (List.mem_append_left _ hrow)))
      (fun w hw => hwords w (List.mem_append_left _ hw)) (start + 1) (follows_of_row hrow)
      ((start, inner) :: enclosing)
    have hclose : Outline.add
        ⟨(placedAll (start + 1) pieces).reverse ++ [], (start, inner) :: enclosing⟩
        (.closing (start + byteLength ('[' :: printAll pieces))) =
          .ok ⟨.group (placedAll (start + 1) pieces) start :: inner, enclosing⟩ := by
      rw [List.append_nil, Outline.add]
      simp only [dropSpace_placedAll hrow]
      split
      · next hnil => exact absurd (List.reverse_eq_nil_iff.1 hnil) (placedAll_ne_nil hrow.ne_nil _)
      · rw [List.reverse_reverse]
    have hrest := ih
      (fun row hrow => hrows row (List.mem_cons_of_mem _ (List.mem_append_right _ hrow)))
      (fun w hw => hwords w (List.mem_append_right _ hw))
      (start + byteLength (Piece.print (.group pieces offset))) (hfollows.step start) enclosing
    have hopen : Outline.add ⟨inner, enclosing⟩ (.opening start) =
        .ok ⟨[], (start, inner) :: enclosing⟩ := rfl
    have hgroup : (marks start (.group pieces offset)).foldlM Outline.add ⟨inner, enclosing⟩ =
        .ok ⟨.group (placedAll (start + 1) pieces) start :: inner, enclosing⟩ := by
      rw [marks, List.foldlM_cons, hopen]
      show ((marksOfAll (start + 1) pieces ++ _).foldlM Outline.add _) = _
      rw [List.foldlM_append, hinside]
      show ([Mark.closing _].foldlM Outline.add _) = _
      rw [List.foldlM_cons, hclose]
      rfl
    rw [marksOfAll, List.foldlM_append, hgroup]
    rw [placedAll, List.reverse_cons, List.append_assoc]
    exact hrest

end Outline

/-- Where no kind of slot occurs twice, no slot is reported. -/
theorem repeatedSlot?_eq_none {seen : List SlotKind} {slots : List (SlotKind × Nat)}
    (hnodup : (slots.map (·.1)).Nodup) (hseen : ∀ slot ∈ slots, slot.1 ∉ seen) :
    repeatedSlot? seen slots = none := by
  induction slots generalizing seen with
  | nil => rfl
  | cons slot slots ih =>
    obtain ⟨kind, offset⟩ := slot
    rw [List.map_cons, List.nodup_cons] at hnodup
    have hkind : kind ∉ seen := hseen (kind, offset) (by simp)
    rw [repeatedSlot?, if_neg hkind]
    refine ih hnodup.2 fun other hother hmem => ?_
    rcases List.mem_cons.1 hmem with heq | hmem
    · exact hnodup.1 (List.mem_map.2 ⟨other, hother, heq⟩)
    · exact hseen other (by simp [hother]) hmem

/-- Pieces in normal form are read from what is written for them. -/
theorem parse_print {pieces : List Piece} (h : Normal pieces) :
    parse (print pieces) = .ok (placedAll 0 pieces) := by
  have hscan : scan .plain 0 (printAll pieces) = (marksOfAll 0 pieces, none) := by
    have hmarks := scansTo_printAll (fun w hw => (h.words w hw).2) 0 []
    rw [List.append_nil] at hmarks
    rw [hmarks]
    simp only [scan, Prod.map, List.append_nil, id]
  have houtline : (marksOfAll 0 pieces).foldlM Outline.add {} =
      .ok ⟨(placedAll 0 pieces).reverse, []⟩ := by
    have hfold := Outline.foldlM_marksOfAll h.rows (fun w hw => (h.words w hw).1) 0
      (Outline.follows_of_row h.row) []
    rw [List.append_nil] at hfold
    exact hfold
  have hfinish : Outline.finish ⟨(placedAll 0 pieces).reverse, []⟩ = .ok (placedAll 0 pieces) := by
    unfold Outline.finish
    simp only [Outline.dropSpace_placedAll h.row]
    split
    · next hnil =>
      exact absurd (List.reverse_eq_nil_iff.1 hnil) (Outline.placedAll_ne_nil h.row.ne_nil 0)
    · rw [List.reverse_reverse]
  have hrepeat : repeatedSlot? [] (slotsOfAll (placedAll 0 pieces)) = none := by
    refine repeatedSlot?_eq_none ?_ fun _ _ => List.not_mem_nil
    rw [kinds_placedAll]
    exact h.slots
  unfold parse print parseChars
  rw [String.toList_ofList, hscan]
  show (marksOfAll 0 pieces).foldlM Outline.add {} >>= _ = _
  rw [houtline]
  show Outline.finish _ >>= _ = _
  rw [hfinish]
  simp only [bind, Except.bind, hrepeat]
  rfl

/-- What is read from a template is in normal form. Pieces in normal form are read from what is
written for them, each group and slot with the offset at which its bracket or brace stands. So to
write and read what has been read changes nothing but offsets. -/
theorem reading_inverts_writing :
    (∀ template pieces, parse template = .ok pieces → Normal pieces) ∧
    (∀ pieces, Normal pieces →
      parse (print pieces) = .ok (placedAll 0 pieces) ∧
      bareAll (placedAll 0 pieces) = bareAll pieces ∧
      ∀ opening ∈ openingsOfAll (placedAll 0 pieces), ∃ before after,
        (print pieces).toList = before ++ opening.1 :: after ∧ opening.2 = byteLength before) ∧
    ∀ template pieces, parse template = .ok pieces →
      ∃ again, parse (print pieces) = .ok again ∧ bareAll again = bareAll pieces := by
  refine ⟨fun template pieces => normal_of_parse, fun pieces h => ?_, fun template pieces h => ?_⟩
  · refine ⟨parse_print h, bareAll_placedAll 0 pieces, fun opening hopening => ?_⟩
    obtain ⟨before, after, hprint, hoffset⟩ := exists_opening hopening
    refine ⟨before, after, ?_, ?_⟩
    · rw [print, String.toList_ofList, hprint]
    · rw [hoffset, Nat.zero_add]
  · exact ⟨placedAll 0 pieces, parse_print (normal_of_parse h), bareAll_placedAll 0 pieces⟩

/-- A word with a bracket and one with a blank, and a slot in a group: what is written for them is
shorter than the template. -/
theorem tell_inverts_writing :
    ∃ pieces, parse "  Tell [\\[  { name }]\tA\\ b" = .ok pieces ∧
      Normal pieces ∧ print pieces = "tell [\\[ {name}] a\\ b" ∧
      parse (print pieces) = .ok (placedAll 0 pieces) ∧
      ∃ again, parse (print pieces) = .ok again ∧ bareAll again = bareAll pieces := by
  have hprint : (parse "  Tell [\\[  { name }]\tA\\ b").toOption.any
      (print · == "tell [\\[ {name}] a\\ b") = true := by
    decide +kernel
  obtain ⟨pieces, hparse, hwritten⟩ := exists_ok_of_any hprint
  obtain ⟨hnormal, hread, hagain⟩ := reading_inverts_writing
  have hpieces := hnormal _ pieces hparse
  exact ⟨pieces, hparse, hpieces, beq_iff_eq.1 hwritten, (hread pieces hpieces).1,
    hagain _ pieces hparse⟩

end Muster.Template
