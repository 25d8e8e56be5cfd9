import Muster.Proofs.Steps
import Muster.Proofs.Pattern.Taking
import Muster.Proofs.Template.Parsing
import Muster.Pattern.Compile

/-!
# Matching a compiled template

How a pattern in several parts matches is said by what its parts do, and which parts a template is
compiled to by its pieces. Main statements: a compiled template matches a line if its parts match
the line without its leading white space and leave nothing but white space
(`matchLine_eq_some_iff`); a command matches as the first of its templates that does
(`matchLine_choice`).
-/

namespace Muster.Pattern

open Muster.Text

variable {scope : Scope}

/-! ## Parts in a row -/

theorem matchEach_cons_of_some {part : Pattern} {text rest : List Char} {bindings filled : Bindings}
    (h : matchText scope part text bindings = (some rest, filled)) (parts : List Pattern) :
    matchEach scope (part :: parts) text bindings = matchEach scope parts rest filled := by
  rw [matchEach, h]

theorem matchEach_cons_of_none {part : Pattern} {text : List Char} {bindings filled : Bindings}
    (h : matchText scope part text bindings = (none, filled)) (parts : List Pattern) :
    matchEach scope (part :: parts) text bindings = (none, filled) := by
  rw [matchEach, h]

/-- Parts in a row match if the first one does and the others match what it leaves. -/
theorem matchEach_cons_eq_some {part : Pattern} {parts : List Pattern} {text rest : List Char}
    {bindings filled : Bindings}
    (h : matchEach scope (part :: parts) text bindings = (some rest, filled)) :
    ∃ middle between, matchText scope part text bindings = (some middle, between) ∧
      matchEach scope parts middle between = (some rest, filled) := by
  cases hpart : matchText scope part text bindings with
  | mk middle between =>
    cases middle with
    | none =>
      rw [matchEach_cons_of_none hpart] at h
      cases h
    | some middle =>
      rw [matchEach_cons_of_some hpart] at h
      exact ⟨middle, between, rfl, h⟩

theorem matchEach_append (parts more : List Pattern) (text : List Char) (bindings : Bindings) :
    matchEach scope (parts ++ more) text bindings =
      match matchEach scope parts text bindings with
      | (some rest, filled) => matchEach scope more rest filled
      | (none, filled) => (none, filled) := by
  induction parts generalizing text bindings with
  | nil => rfl
  | cons part parts ih =>
    rw [List.cons_append]
    cases hpart : matchText scope part text bindings with
    | mk middle between =>
      cases middle with
      | none => rw [matchEach_cons_of_none hpart, matchEach_cons_of_none hpart]
      | some middle => rw [matchEach_cons_of_some hpart, matchEach_cons_of_some hpart, ih]

/-! ## Groups -/

theorem matchText_optional_of_some {parts : List Pattern} {text rest : List Char}
    {bindings filled : Bindings} (h : matchEach scope parts text bindings = (some rest, filled)) :
    matchText scope (.optional (.sequence parts)) text bindings = (some rest, filled) := by
  rw [matchText, matchText, h]

theorem matchText_optional_of_none {parts : List Pattern} {text : List Char}
    {bindings filled : Bindings} (h : matchEach scope parts text bindings = (none, filled)) :
    matchText scope (.optional (.sequence parts)) text bindings = (some text, bindings) := by
  rw [matchText, matchText, h]

/-- A group is kept if its parts match, or left out without a trace. -/
theorem matchText_optional_eq {parts : List Pattern} {text rest : List Char}
    {bindings filled : Bindings}
    (h : matchText scope (.optional (.sequence parts)) text bindings = (some rest, filled)) :
    matchEach scope parts text bindings = (some rest, filled) ∨ rest = text ∧ filled = bindings := by
  cases hparts : matchEach scope parts text bindings with
  | mk left between =>
    cases left with
    | none =>
      rw [matchText_optional_of_none hparts] at h
      cases h
      exact Or.inr ⟨rfl, rfl⟩
    | some left =>
      rw [matchText_optional_of_some hparts] at h
      exact Or.inl h

/-! ## Whole lines -/

theorem trimStart_eq_nil_iff (text : List Char) : trimStart text = [] ↔ isBlank text = true := by
  rw [← words_eq_nil_iff, ← words_trimStart]
  constructor
  · intro h
    rw [h]
    rfl
  · intro h
    rcases trimStart_eq_nil_or_startsWord text with hnil | hword
    · exact hnil
    · obtain ⟨word, rest, hbegins⟩ := exists_beginsWith hword
      rw [hbegins.words_eq] at h
      cases h

/-- After its last part a line holds nothing but white space. -/
theorem matchEach_lineEnd (text : List Char) (bindings : Bindings) :
    matchEach scope [.gap, .lineEnd] text bindings =
      (if isBlank text then some [] else none, bindings) := by
  have hgap : matchText scope .gap text bindings = (some (trimStart text), bindings) := rfl
  rw [matchEach_cons_of_some hgap, matchEach, matchText]
  by_cases hblank : isBlank text = true
  · rw [(trimStart_eq_nil_iff text).2 hblank, if_pos hblank]
    rfl
  · have hne : ¬ (trimStart text).isEmpty = true := by
      rw [List.isEmpty_iff, trimStart_eq_nil_iff]
      exact hblank
    rw [if_neg hne, if_neg hblank]

/-- The pattern of a whole line matches if its parts match and leave only white space. -/
theorem matchText_line (parts : List Pattern) (text : List Char) (bindings : Bindings) :
    matchText scope (.sequence (.gap :: parts ++ [.gap, .lineEnd])) text bindings =
      match matchEach scope parts (trimStart text) bindings with
      | (some rest, filled) => (if isBlank rest then some [] else none, filled)
      | (none, filled) => (none, filled) := by
  have hgap : matchText scope .gap text bindings = (some (trimStart text), bindings) := rfl
  rw [matchText, List.cons_append, matchEach_cons_of_some hgap, matchEach_append]
  simp only [matchEach_lineEnd]

theorem matchLine_eq_some_iff {parts : List Pattern} {line : String} {bindings : Bindings} :
    matchLine scope (.sequence (.gap :: parts ++ [.gap, .lineEnd])) line = some bindings ↔
      ∃ rest, matchEach scope parts (trimStart line.toList) .empty = (some rest, bindings) ∧
        isBlank rest = true := by
  rw [matchLine, matchText_line]
  cases hparts : matchEach scope parts (trimStart line.toList) .empty with
  | mk left filled =>
    cases left with
    | none => simp
    | some left =>
      constructor
      · intro h
        by_cases hblank : isBlank left = true
        · simp only [hblank, if_true, Option.some.injEq] at h
          exact ⟨left, by rw [h], hblank⟩
        · simp [hblank] at h
      · rintro ⟨rest, heq, hblank⟩
        cases heq
        simp [hblank]

/-- A line does not match if more than white space is left of it, whenever the parts of the pattern
match. -/
theorem matchLine_eq_none {parts : List Pattern} {line : String}
    (h : ∀ rest filled, matchEach scope parts (trimStart line.toList) .empty = (some rest, filled) →
      isBlank rest = false) :
    matchLine scope (.sequence (.gap :: parts ++ [.gap, .lineEnd])) line = none := by
  refine Option.eq_none_iff_forall_ne_some.2 fun bindings hmatch => ?_
  obtain ⟨rest, hrest, hblank⟩ := matchLine_eq_some_iff.1 hmatch
  rw [h rest bindings hrest] at hblank
  cases hblank

/-- If whatever matches takes the whole text, a choice matches a line as the first of its ways that
does. -/
theorem matchLine_choice {ways : List Pattern}
    (h : ∀ way ∈ ways, ∀ text bindings, (matchText scope way text bindings).1 = none ∨
      (matchText scope way text bindings).1 = some []) (line : String) :
    matchLine scope (.choice ways) line = ways.findSome? (matchLine scope · line) := by
  rw [matchLine, matchText]
  induction ways with
  | nil => rfl
  | cons way ways ih =>
    have hrest := ih fun other hother => h other (List.mem_cons_of_mem _ hother)
    rw [List.findSome?_cons, matchFirst]
    have hway := h way (List.mem_cons_self ..) line.toList .empty
    conv => rhs; rw [matchLine]
    cases hmatch : matchText scope way line.toList .empty with
    | mk left filled =>
      rw [hmatch] at hway
      rcases hway with rfl | rfl
      · exact hrest
      · rfl

/-- A choice does the same with two lines if each of its ways does. -/
theorem matchLine_choice_congr {ways : List Pattern}
    (h : ∀ way ∈ ways, ∀ text bindings, (matchText scope way text bindings).1 = none ∨
      (matchText scope way text bindings).1 = some []) {a b : String}
    (hsame : ∀ way ∈ ways, matchLine scope way a = matchLine scope way b) :
    matchLine scope (.choice ways) a = matchLine scope (.choice ways) b := by
  rw [matchLine_choice h, matchLine_choice h]
  clear h
  induction ways with
  | nil => rfl
  | cons way ways ih =>
    rw [List.findSome?_cons, List.findSome?_cons, hsame way (List.mem_cons_self ..),
      ih fun other hother => hsame other (List.mem_cons_of_mem _ hother)]

end Muster.Pattern

namespace Muster.Template

open Muster.Text

variable {scope : Scope} {outer : Follow}

/-! ## The parts of a template -/

/-- Words are in lowercase already. -/
theorem ofWord_of_lowered {letters : List Char} (h : Lowered letters) :
    Pattern.ofWord letters = .literal letters := by
  rw [Pattern.ofWord, lowerText_of_lowered h]

theorem compilePieces_cons_eq_ok {piece : Piece} {rest : List Piece} {parts : List Pattern}
    (h : compilePieces scope outer (piece :: rest) = .ok parts) :
    ∃ first more, compilePiece scope (Follow.of outer rest) piece = .ok first ∧
      compilePieces scope outer rest = .ok more ∧ parts = first :: more := by
  rw [compilePieces] at h
  obtain ⟨first, hfirst, h⟩ := bind_eq_ok_iff.1 h
  obtain ⟨more, hmore, h⟩ := bind_eq_ok_iff.1 h
  cases h
  exact ⟨first, more, hfirst, hmore, rfl⟩

theorem compilePiece_group_eq_ok {pieces : List Piece} {offset : Nat} {part : Pattern}
    (h : compilePiece scope outer (.group pieces offset) = .ok part) :
    ∃ parts, compilePieces scope outer pieces = .ok parts ∧ part = .optional (.sequence parts) := by
  rw [compilePiece] at h
  obtain ⟨parts, hparts, h⟩ := bind_eq_ok_iff.1 h
  cases h
  exact ⟨parts, hparts, rfl⟩

/-- A slot is compiled only where a word or the end of the line follows. -/
theorem compileSlot_eq_ok {follow : Follow} {kind : SlotKind} {offset : Nat} {part : Pattern}
    (h : compileSlot scope follow kind offset = .ok part) :
    follow = .lineEnd ∧ part = .slot kind none ∨
      ∃ letters, follow = .word letters ∧ part = .slot kind (some (lowerText letters)) := by
  unfold compileSlot at h
  cases follow with
  | lineEnd =>
    simp only at h
    split at h
    · cases h
      exact Or.inl ⟨rfl, rfl⟩
    · cases h
  | word letters =>
    simp only at h
    split at h
    · cases h
      exact Or.inr ⟨letters, rfl, rfl⟩
    · cases h
  | slot => cases h
  | group => cases h

/-- A template without slots compiles in any scope. -/
theorem exists_compilePieces {pieces : List Piece} (h : Piece.slotsOfAll pieces = [])
    (scope : Scope) (outer : Follow) : ∃ parts, compilePieces scope outer pieces = .ok parts := by
  induction pieces using Piece.listInduction generalizing outer with
  | nil => exact ⟨[], rfl⟩
  | word letters rest ih =>
    obtain ⟨more, hmore⟩ := ih h outer
    exact ⟨.ofWord letters :: more, by rw [compilePieces, compilePiece, hmore]; rfl⟩
  | space rest ih =>
    obtain ⟨more, hmore⟩ := ih h outer
    exact ⟨.gap :: more, by rw [compilePieces, compilePiece, hmore]; rfl⟩
  | slot kind offset rest ih => cases h
  | group pieces offset rest ihp ih =>
    obtain ⟨hpieces, hrest⟩ := List.append_eq_nil_iff.1 h
    obtain ⟨parts, hparts⟩ := ihp hpieces (Follow.of outer rest)
    obtain ⟨more, hmore⟩ := ih hrest outer
    exact ⟨.optional (.sequence parts) :: more, by
      rw [compilePieces, compilePiece, hparts, hmore]; rfl⟩

/-! ## Templates and commands -/

theorem compileLine_eq_ok {pieces : List Piece} {pattern : Pattern}
    (h : compileLine scope pieces = .ok pattern) :
    ∃ parts, compilePieces scope .lineEnd pieces = .ok parts ∧
      pattern = .sequence (.gap :: parts ++ [.gap, .lineEnd]) := by
  obtain ⟨parts, hparts, h⟩ := bind_eq_ok_iff.1 h
  cases h
  exact ⟨parts, hparts, rfl⟩

theorem compile_eq_ok {template : String} {pattern : Pattern}
    (h : compile scope template = .ok pattern) :
    ∃ pieces parts, parse template = .ok pieces ∧ compilePieces scope .lineEnd pieces = .ok parts ∧
      pattern = .sequence (.gap :: parts ++ [.gap, .lineEnd]) := by
  obtain ⟨pieces, hpieces, hline⟩ := bind_eq_ok_iff.1 h
  obtain ⟨parts, hparts, hpattern⟩ := compileLine_eq_ok hline
  exact ⟨pieces, parts, hpieces, hparts, hpattern⟩

theorem compileRanked_eq_ok {template : String} {ranked : Bool × Pattern}
    (h : compileRanked scope template = .ok ranked) :
    ∃ pieces, parse template = .ok pieces ∧ compileLine scope pieces = .ok ranked.2 := by
  unfold compileRanked at h
  split at h
  · cases h
  · next pieces hpieces =>
    split at h
    · cases h
    · next pattern hpattern =>
      cases h
      exact ⟨pieces, hpieces, hpattern⟩

/-- The pattern of a whole line matches nothing but a whole line. -/
theorem whole_of_compileLine {pieces : List Piece} {pattern : Pattern}
    (h : compileLine scope pieces = .ok pattern) (live : Scope) (text : List Char)
    (bindings : Bindings) :
    (Pattern.matchText live pattern text bindings).1 = none ∨
      (Pattern.matchText live pattern text bindings).1 = some [] := by
  obtain ⟨parts, _, rfl⟩ := compileLine_eq_ok h
  rw [Pattern.matchText_line]
  split
  · split
    · exact Or.inr rfl
    · exact Or.inl rfl
  · exact Or.inl rfl

/-- A command is a choice among the patterns of its templates. -/
theorem compileAll_eq_ok {templates : List String} {pattern : Pattern}
    (h : compileAll scope templates = .ok pattern) :
    ∃ ways, pattern = .choice ways ∧ ∀ way ∈ ways, ∃ template ∈ templates, ∃ pieces,
      parse template = .ok pieces ∧ compileLine scope pieces = .ok way := by
  unfold compileAll at h
  obtain ⟨ranked, hranked, h⟩ := bind_eq_ok_iff.1 h
  rw [List.partition_eq_filter_filter] at h
  cases h
  refine ⟨_, rfl, fun way hway => ?_⟩
  obtain ⟨one, hone, rfl⟩ := List.mem_map.1 hway
  have hmem : one ∈ ranked := by
    rw [List.mem_append, List.mem_filter, List.mem_filter] at hone
    rcases hone with hone | hone
    · exact hone.1
    · exact hone.1
  obtain ⟨template, htemplate, hone⟩ := mem_of_mapM hranked hmem
  obtain ⟨pieces, hpieces, hline⟩ := compileRanked_eq_ok hone
  exact ⟨template, htemplate, pieces, hpieces, hline⟩

end Muster.Template
