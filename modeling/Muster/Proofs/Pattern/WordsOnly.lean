import Muster.Proofs.Pattern.Compiled

/-!
# Only the words of a line matter

Two lines with the same words, up to the case of ASCII letters, may differ in their white space and
so in their lengths. They are matched side by side: where one of them stands within a word, at the
end of one or at the beginning of one, the other one stands in the corresponding place (`Alike`).
Every part of a pattern keeps them so, as long as no word of the template has white space in it.
-/

namespace Muster.Pattern

open Muster.Text Muster.Unicode

/-- The words of a text without the case of their ASCII letters. -/
def foldedWords (s : List Char) : List (List Char) := (words s).map (·.map Char.toLower)

/-- Two texts go on with the same words, up to the case of ASCII letters, and begin at a word
together. -/
structure Alike (s t : List Char) : Prop where
  starts : startsWord s = startsWord t
  words : foldedWords s = foldedWords t

/-! ## Texts with the same words -/

theorem foldedWords_of_beginsWith {s w rest : List Char} (h : BeginsWith s w rest) :
    foldedWords s = w.map Char.toLower :: foldedWords rest := by
  rw [foldedWords, h.words_eq]
  rfl

theorem isBlank_congr {s t : List Char} (h : foldedWords s = foldedWords t) :
    isBlank s = isBlank t := by
  have hiff : ∀ u, isBlank u = true ↔ foldedWords u = [] := by
    intro u
    rw [← words_eq_nil_iff]
    exact List.map_eq_nil_iff.symm
  rw [Bool.eq_iff_iff, hiff s, hiff t, h]

/-- Without their leading white space, two texts with the same words begin at a word together. -/
theorem alike_trimStart {s t : List Char} (h : foldedWords s = foldedWords t) :
    Alike (trimStart s) (trimStart t) := by
  have hstarts : ∀ u, startsWord (trimStart u) = !isBlank u := by
    intro u
    rcases trimStart_eq_nil_or_startsWord u with hnil | hword
    · rw [(trimStart_eq_nil_iff u).1 hnil, hnil]
      rfl
    · rw [hword]
      cases hblank : isBlank u with
      | false => rfl
      | true =>
        rw [(trimStart_eq_nil_iff u).2 hblank] at hword
        cases hword
  constructor
  · rw [hstarts, hstarts, isBlank_congr h]
  · rw [foldedWords, foldedWords, words_trimStart, words_trimStart]
    exact h

/-- A word in front of texts with the same words, where neither goes on with a word. -/
theorem alike_append {u v s t : List Char} (huv : u.map Char.toLower = v.map Char.toLower)
    (hu : ∀ c ∈ u, isWhite c = false) (hs : startsWord s = false) (ht : startsWord t = false)
    (h : foldedWords s = foldedWords t) : Alike (u ++ s) (v ++ t) := by
  cases u with
  | nil =>
    rw [List.map_eq_nil_iff.1 huv.symm]
    exact ⟨hs.trans ht.symm, h⟩
  | cons c cs =>
    cases v with
    | nil => cases huv
    | cons d ds =>
      have hv : ∀ e ∈ d :: ds, isWhite e = false := by
        intro e he
        have hmem : e.toLower ∈ (c :: cs).map Char.toLower := huv ▸ List.mem_map_of_mem he
        obtain ⟨c', hc', heq⟩ := List.mem_map.1 hmem
        rw [← isWhite_toLower, ← heq, isWhite_toLower, hu c' hc']
      have hs' : BeginsWith ((c :: cs) ++ s) (c :: cs) s := ⟨rfl, by simp, hu, hs⟩
      have ht' : BeginsWith ((d :: ds) ++ t) (d :: ds) t := ⟨rfl, by simp, hv, ht⟩
      constructor
      · rw [List.cons_append, List.cons_append, startsWord_cons, startsWord_cons, hu c (by simp),
          hv d (by simp)]
      · rw [foldedWords_of_beginsWith hs', foldedWords_of_beginsWith ht', huv, h]

/-! ## Words -/

/-- Letters are taken off a text no matter the case of its ASCII letters. -/
theorem takeLetters_map_toLower (word text : List Char) :
    takeLetters word (text.map Char.toLower) = (takeLetters word text).map (·.map Char.toLower) := by
  induction word generalizing text with
  | nil => rfl
  | cons letter letters ih =>
    cases text with
    | nil => rfl
    | cons c cs =>
      rw [List.map_cons, takeLetters, takeLetters, lowerChar_toLower]
      by_cases hc : lowerChar c = lowerChar letter
      · rw [if_pos hc, if_pos hc, ih]
      · rw [if_neg hc, if_neg hc]
        rfl

/-- Letters are taken off the word at which a text begins, and off nothing after it. -/
theorem takeLetters_append {word u rest : List Char} (hword : ∀ c ∈ word, isWhite c = false)
    (hrest : startsWord rest = false) :
    takeLetters word (u ++ rest) = (takeLetters word u).map (· ++ rest) := by
  induction word generalizing u with
  | nil => rfl
  | cons letter letters ih =>
    have hletters : ∀ c ∈ letters, isWhite c = false := fun c hc => hword c (by simp [hc])
    cases u with
    | nil =>
      cases rest with
      | nil => rfl
      | cons c cs =>
        -- white space is no letter of the word
        have hne : lowerChar c ≠ lowerChar letter := by
          intro h
          have hwhite := isWhite_eq_of_lowerChar_eq h
          rw [startsWord_cons, Bool.not_eq_false'] at hrest
          rw [hrest, hword letter (by simp)] at hwhite
          cases hwhite
        show (if lowerChar c = lowerChar letter then takeLetters letters cs else none) = none
        rw [if_neg hne]
    | cons c cs =>
      rw [List.cons_append, takeLetters, takeLetters]
      by_cases hc : lowerChar c = lowerChar letter
      · rw [if_pos hc, if_pos hc, ih hletters]
      · rw [if_neg hc, if_neg hc]
        rfl

/-- Where no word begins, none is taken. -/
theorem takeWord_of_not_startsWord {word text : List Char} (hne : word ≠ [])
    (hword : ∀ c ∈ word, isWhite c = false) (htext : startsWord text = false) :
    takeWord word text = none := by
  obtain ⟨c, cs, rfl⟩ := List.exists_cons_of_ne_nil hne
  have hletters := takeLetters_append (u := []) hword htext
  rw [List.nil_append] at hletters
  rw [takeWord, hletters]
  rfl

theorem startsAlphanumeric_congr {u v s t : List Char}
    (huv : u.map Char.toLower = v.map Char.toLower) (hs : startsWord s = false)
    (ht : startsWord t = false) : startsAlphanumeric (u ++ s) = startsAlphanumeric (v ++ t) := by
  cases u with
  | nil =>
    rw [List.map_eq_nil_iff.1 huv.symm, List.nil_append, List.nil_append,
      startsAlphanumeric_of_not_startsWord hs, startsAlphanumeric_of_not_startsWord ht]
  | cons c cs =>
    cases v with
    | nil => cases huv
    | cons d ds =>
      have hcd : c.toLower = d.toLower := (List.cons.inj huv).1
      show isAlphanumeric c = isAlphanumeric d
      rw [← isAlphanumeric_toLower c, hcd, isAlphanumeric_toLower]

/-- A word is taken off both of two texts, or off neither. -/
theorem takeWord_alike {word s t : List Char} (hne : word ≠ [])
    (hword : ∀ c ∈ word, isWhite c = false) (h : Alike s t) :
    Option.Rel Alike (takeWord word s) (takeWord word t) := by
  cases hstarts : startsWord s with
  | false =>
    -- no word begins here, in neither text
    rw [takeWord_of_not_startsWord hne hword hstarts,
      takeWord_of_not_startsWord hne hword (h.starts ▸ hstarts)]
    exact Option.Rel.none
  | true =>
    obtain ⟨v, q, hv⟩ := exists_beginsWith hstarts
    obtain ⟨v', q', hv'⟩ := exists_beginsWith (h.starts ▸ hstarts : startsWord t = true)
    have hwords := h.words
    rw [foldedWords_of_beginsWith hv, foldedWords_of_beginsWith hv', List.cons.injEq] at hwords
    obtain ⟨hfirst, hrest⟩ := hwords
    have htake : (takeLetters word v).map (·.map Char.toLower) =
        (takeLetters word v').map (·.map Char.toLower) := by
      rw [← takeLetters_map_toLower, hfirst, takeLetters_map_toLower]
    rw [takeWord, takeWord, hv.eq_append, hv'.eq_append, takeLetters_append hword hv.ends,
      takeLetters_append hword hv'.ends]
    cases hu : takeLetters word v with
    | none =>
      rw [hu] at htake
      rw [Option.map_eq_none_iff.1 htake.symm]
      exact Option.Rel.none
    | some u =>
      rw [hu] at htake
      obtain ⟨u', hu', huu'⟩ := Option.map_eq_some_iff.1 htake.symm
      rw [hu']
      have halnum := startsAlphanumeric_congr huu'.symm hv.ends hv'.ends
      have hletters : ∀ c ∈ u, isWhite c = false := by
        obtain ⟨taken, hvu, _⟩ := takeLetters_eq_some_iff.1 hu
        exact fun c hc => hv.letters c (by simp [hvu, hc])
      simp only [Option.map_some, halnum]
      split
      · exact Option.Rel.none
      · exact Option.Rel.some (alike_append huu'.symm hletters hv.ends hv'.ends hrest)

/-! ## Slots -/

/-- A slot takes fillings with the same words off two texts, or it takes none off either. -/
theorem takeSlot_alike (stop : Option (List Char)) {s t : List Char}
    (h : foldedWords s = foldedWords t) :
    Option.Rel (fun a b => foldedWords a.1 = foldedWords b.1 ∧ Alike a.2 b.2)
      (takeSlot stop s) (takeSlot stop t) := by
  cases stop with
  | none =>
    rw [takeSlot_none, takeSlot_none, isBlank_congr h]
    split
    · exact Option.Rel.none
    · exact Option.Rel.some ⟨h, rfl, rfl⟩
  | some stop =>
    have hsplit := splitBefore_congr stop false h
    cases hs : takeSlot (some stop) s with
    | none =>
      rw [takeSlot_some_eq_none hs] at hsplit
      cases ht : takeSlot (some stop) t with
      | none => exact Option.Rel.none
      | some found =>
        rw [(takeSlot_some_eq_some ht).2.2.1] at hsplit
        cases hsplit
    | some found =>
      obtain ⟨_, hstarts, hfound, _⟩ := takeSlot_some_eq_some hs
      rw [hfound] at hsplit
      cases ht : takeSlot (some stop) t with
      | none =>
        rw [takeSlot_some_eq_none ht] at hsplit
        cases hsplit
      | some other =>
        obtain ⟨_, hstarts', hother, _⟩ := takeSlot_some_eq_some ht
        rw [hother] at hsplit
        obtain ⟨hfilling, hrest⟩ := Prod.mk.inj (Option.some.inj hsplit)
        exact Option.Rel.some ⟨hfilling, hstarts.trans hstarts'.symm, hrest⟩

/-! ## Parts in a row -/

/-- Both matches fail, or both leave texts that are alike. The same slots are filled. -/
structure SameOutcome (x y : Option (List Char) × Bindings) : Prop where
  rest : Option.Rel Alike x.1 y.1
  bindings : x.2 = y.2

theorem SameOutcome.cases {x y : Option (List Char) × Bindings} (h : SameOutcome x y) :
    (∃ filled, x = (none, filled) ∧ y = (none, filled)) ∨
      ∃ s t filled, x = (some s, filled) ∧ y = (some t, filled) ∧ Alike s t := by
  obtain ⟨left, filled⟩ := x
  obtain ⟨left', filled'⟩ := y
  obtain ⟨hrest, hbindings⟩ := h
  cases hbindings
  cases hrest with
  | none => exact Or.inl ⟨filled, rfl, rfl⟩
  | some halike => exact Or.inr ⟨_, _, filled, rfl, rfl, halike⟩

theorem sameOutcome_cons {scope : Scope} {part : Pattern} {parts : List Pattern} {s t : List Char}
    {bindings : Bindings}
    (hpart : SameOutcome (matchText scope part s bindings) (matchText scope part t bindings))
    (hparts : ∀ s' t' between, Alike s' t' →
      SameOutcome (matchEach scope parts s' between) (matchEach scope parts t' between)) :
    SameOutcome (matchEach scope (part :: parts) s bindings)
      (matchEach scope (part :: parts) t bindings) := by
  rcases hpart.cases with ⟨filled, hs, ht⟩ | ⟨s', t', filled, hs, ht, halike⟩
  · rw [matchEach_cons_of_none hs, matchEach_cons_of_none ht]
    exact ⟨Option.Rel.none, rfl⟩
  · rw [matchEach_cons_of_some hs, matchEach_cons_of_some ht]
    exact hparts s' t' filled halike

/-- A group is kept in both texts or left out in both. -/
theorem sameOutcome_optional {scope : Scope} {parts : List Pattern} {s t : List Char}
    {bindings : Bindings} (halike : Alike s t)
    (h : SameOutcome (matchEach scope parts s bindings) (matchEach scope parts t bindings)) :
    SameOutcome (matchText scope (.optional (.sequence parts)) s bindings)
      (matchText scope (.optional (.sequence parts)) t bindings) := by
  rcases h.cases with ⟨filled, hs, ht⟩ | ⟨s', t', filled, hs, ht, hleft⟩
  · rw [matchText_optional_of_none hs, matchText_optional_of_none ht]
    exact ⟨Option.Rel.some halike, rfl⟩
  · rw [matchText_optional_of_some hs, matchText_optional_of_some ht]
    exact ⟨Option.Rel.some hleft, rfl⟩

/-- A slot is filled in both texts or in neither, and its fillings have the same normal form. -/
theorem sameOutcome_slot {scope : Scope} (kind : SlotKind) (stop : Option (List Char))
    {s t : List Char} (bindings : Bindings) (halike : Alike s t) :
    SameOutcome (matchText scope (.slot kind stop) s bindings)
      (matchText scope (.slot kind stop) t bindings) := by
  have hslot := takeSlot_alike stop halike.words
  rw [matchText, matchText]
  generalize takeSlot stop s = x at hslot ⊢
  generalize takeSlot stop t = y at hslot ⊢
  cases hslot with
  | none => exact ⟨Option.Rel.none, rfl⟩
  | some h =>
    obtain ⟨hfilling, hrest⟩ := h
    refine ⟨Option.Rel.some hrest, ?_⟩
    simp only [normal_congr hfilling]

end Muster.Pattern

namespace Muster.Template

open Muster.Text Muster.Unicode Muster.Pattern

variable {scope : Scope}

/-- The parts of a template in words without white space do the same with two texts that are
alike. -/
theorem matchEach_alike {outer : Follow} {pieces : List Piece} {parts : List Pattern}
    (hlowered : ∀ w ∈ Piece.wordsOfAll pieces, w ≠ [] ∧ Lowered w)
    (hletters : ∀ w ∈ Piece.wordsOfAll pieces, ∀ c ∈ w, isWhite c = false)
    (hparts : compilePieces scope outer pieces = .ok parts) (scope' : Scope) {s t : List Char}
    (bindings : Bindings) (halike : Alike s t) :
    SameOutcome (matchEach scope' parts s bindings) (matchEach scope' parts t bindings) := by
  induction pieces using Piece.listInduction generalizing outer parts s t bindings with
  | nil =>
    cases hparts
    exact ⟨Option.Rel.some halike, rfl⟩
  | word letters rest ih =>
    obtain ⟨first, others, hfirst, hothers, rfl⟩ := compilePieces_cons_eq_ok hparts
    obtain ⟨hlow, hlowRest⟩ := Piece.forall_wordsOfAll_cons.1 hlowered
    obtain ⟨hword, hwordRest⟩ := Piece.forall_wordsOfAll_cons.1 hletters
    have hmem : letters ∈ [letters] := List.mem_singleton_self _
    rw [compilePiece, ofWord_of_lowered (hlow letters hmem).2] at hfirst
    cases hfirst
    refine sameOutcome_cons ?_ fun s' t' between h => ih hlowRest hwordRest hothers between h
    rw [matchText, matchText]
    exact ⟨takeWord_alike (hlow letters hmem).1 (hword letters hmem) halike, rfl⟩
  | space rest ih =>
    obtain ⟨first, others, hfirst, hothers, rfl⟩ := compilePieces_cons_eq_ok hparts
    cases hfirst
    refine sameOutcome_cons ?_ fun s' t' between h => ih hlowered hletters hothers between h
    rw [matchText, matchText]
    exact ⟨Option.Rel.some (alike_trimStart halike.words), rfl⟩
  | slot kind offset rest ih =>
    obtain ⟨first, others, hfirst, hothers, rfl⟩ := compilePieces_cons_eq_ok hparts
    refine sameOutcome_cons ?_ fun s' t' between h => ih hlowered hletters hothers between h
    rw [compilePiece] at hfirst
    rcases compileSlot_eq_ok hfirst with ⟨_, rfl⟩ | ⟨letters, _, rfl⟩
    · exact sameOutcome_slot kind none bindings halike
    · exact sameOutcome_slot kind _ bindings halike
  | group pieces offset rest ihp ih =>
    obtain ⟨first, others, hfirst, hothers, rfl⟩ := compilePieces_cons_eq_ok hparts
    obtain ⟨inner, hinner, rfl⟩ := compilePiece_group_eq_ok hfirst
    obtain ⟨hlow, hlowRest⟩ := Piece.forall_wordsOfAll_cons.1 hlowered
    obtain ⟨hword, hwordRest⟩ := Piece.forall_wordsOfAll_cons.1 hletters
    refine sameOutcome_cons ?_ fun s' t' between h => ih hlowRest hwordRest hothers between h
    exact sameOutcome_optional halike (ihp hlow hword hinner bindings halike)

/-- The pattern of a template in words without white space does the same with two lines that have
the same words. -/
theorem matchLine_template_congr {template : String} {pieces : List Piece} {pattern : Pattern}
    (hparse : parse template = .ok pieces)
    (hletters : ∀ w ∈ Piece.wordsOfAll pieces, ∀ c ∈ w, isWhite c = false)
    (hline : compileLine scope pieces = .ok pattern) (scope' : Scope) {a b : String}
    (hwords : foldedWords a.toList = foldedWords b.toList) :
    pattern.matchLine scope' a = pattern.matchLine scope' b := by
  obtain ⟨parts, hparts, rfl⟩ := compileLine_eq_ok hline
  have hsame := matchEach_alike (fun w hw => words_of_parse hparse hw) hletters hparts scope' .empty
    (alike_trimStart hwords)
  rw [matchLine, matchLine, matchText_line, matchText_line]
  rcases hsame.cases with ⟨filled, ha, hb⟩ | ⟨left, left', filled, ha, hb, hleft⟩
  · simp only [ha, hb]
  · simp only [ha, hb, isBlank_congr hleft.words]

/-- Commands whose templates have no white space within a word see only the words of a line, up to
the case of ASCII letters. -/
theorem matchLine_congr_of_words {templates : List String} {pattern : Pattern}
    (hcompile : compileAll scope templates = .ok pattern)
    (hletters : ∀ template ∈ templates, ∀ pieces, parse template = .ok pieces →
      ∀ w ∈ Piece.wordsOfAll pieces, ∀ c ∈ w, isWhite c = false)
    (scope' : Scope) {a b : String}
    (hwords : (words a.toList).map (·.map Char.toLower) = (words b.toList).map (·.map Char.toLower)) :
    pattern.matchLine scope' a = pattern.matchLine scope' b := by
  obtain ⟨ways, rfl, hways⟩ := compileAll_eq_ok hcompile
  have hwhole : ∀ way ∈ ways, ∀ text bindings, (matchText scope' way text bindings).1 = none ∨
      (matchText scope' way text bindings).1 = some [] := by
    intro way hway text bindings
    obtain ⟨_, _, pieces, _, hline⟩ := hways way hway
    obtain ⟨parts, _, rfl⟩ := compileLine_eq_ok hline
    rw [matchText_line]
    split
    · split
      · exact Or.inr rfl
      · exact Or.inl rfl
    · exact Or.inl rfl
  refine matchLine_choice_congr hwhole fun way hway => ?_
  obtain ⟨template, htemplate, pieces, hparse, hline⟩ := hways way hway
  exact matchLine_template_congr hparse (hletters template htemplate pieces hparse) hline scope'
    hwords

/-- Blanks of several kinds, and capitals in a word of the template and in the filling of a slot. -/
theorem call_matchLine_congr :
    ∃ pattern, compileAll {} ["[please] call \x7bname\x7d now"] = .ok pattern ∧
      (∀ template ∈ ["[please] call \x7bname\x7d now"], ∀ pieces, parse template = .ok pieces →
        ∀ w ∈ Piece.wordsOfAll pieces, ∀ c ∈ w, isWhite c = false) ∧
      (words "CALL  Li\u2003ΟΔΟΣ now".toList).map (·.map Char.toLower) =
        (words " Call LI ΟΔΟΣ\tnow ".toList).map (·.map Char.toLower) ∧
      pattern.matchLine {} "CALL  Li\u2003ΟΔΟΣ now" =
        pattern.matchLine {} " Call LI ΟΔΟΣ\tnow " := by
  have hcompile : (compileAll {} ["[please] call \x7bname\x7d now"]).toOption.any (fun _ => true) =
      true := by
    decide +kernel
  obtain ⟨pattern, hpattern, _⟩ := exists_ok_of_any hcompile
  have hcheck : (parse "[please] call \x7bname\x7d now").toOption.any (fun pieces =>
      (Piece.wordsOfAll pieces).all (·.all (! isWhite ·))) = true := by
    decide +kernel
  have hletters : ∀ template ∈ ["[please] call \x7bname\x7d now"], ∀ pieces,
      parse template = .ok pieces → ∀ w ∈ Piece.wordsOfAll pieces, ∀ c ∈ w, isWhite c = false := by
    intro template htemplate pieces hparse w hw c hc
    obtain ⟨found, hfound, hwhite⟩ := exists_ok_of_any hcheck
    rw [List.mem_singleton.1 htemplate, hfound] at hparse
    cases hparse
    have := List.all_eq_true.1 (List.all_eq_true.1 hwhite w hw) c hc
    rwa [Bool.not_eq_true'] at this
  have hwords : (words "CALL  Li\u2003ΟΔΟΣ now".toList).map (·.map Char.toLower) =
      (words " Call LI ΟΔΟΣ\tnow ".toList).map (·.map Char.toLower) := by
    decide +kernel
  exact ⟨pattern, hpattern, hletters, hwords, matchLine_congr_of_words hpattern hletters {} hwords⟩

end Muster.Template
