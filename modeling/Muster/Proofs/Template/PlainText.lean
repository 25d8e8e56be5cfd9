import Muster.Proofs.Pattern.Alternatives
import Muster.Proofs.Pattern.StopWords

/-!
# Templates in plain text

A template without brackets, braces and backslashes is read as its words, lowered letter by letter,
with white space between them (`parse_of_isPlain`). Such a template is a line as well. It matches
itself, except that the capital dotted `İ` becomes two letters when it is lowered and is then not
recognized any more; and it matches no line that goes on after it with anything but white space. Main
statement: `plain_matches_itself_iff`.
-/

namespace Muster.Template

open Muster.Text Muster.Unicode Muster.Pattern

/-- No character of the text has a meaning of its own in a template. -/
def IsPlain (text : List Char) : Prop := ∀ c ∈ text, c ∉ ['\\', '[', ']', '{', '}']

instance (text : List Char) : Decidable (IsPlain text) :=
  List.decidableBAll (· ∉ ['\\', '[', ']', '{', '}']) text

/-- Words with white space between them. -/
def phrase : List (List Char) → List Piece
  | [] => []
  | [w] => [.word w]
  | w :: ws => .word w :: .space :: phrase ws

theorem phrase_cons {w : List Char} {ws : List (List Char)} (h : ws ≠ []) :
    phrase (w :: ws) = .word w :: .space :: phrase ws := by
  obtain ⟨v, vs, rfl⟩ := List.exists_cons_of_ne_nil h
  rfl

theorem slotsOfAll_phrase (ws : List (List Char)) : Piece.slotsOfAll (phrase ws) = [] := by
  induction ws with
  | nil => rfl
  | cons w ws ih =>
    by_cases h : ws = []
    · rw [h]
      rfl
    · rw [phrase_cons h]
      exact ih

/-! ## Reading plain text -/

/-- The mark of a character that has no meaning of its own. -/
def plainMark (c : Char) : Mark := if isWhite c then .blank else .letters (lowerChar c)

theorem scan_of_isPlain {text : List Char} (h : IsPlain text) (offset : Nat) :
    scan .plain offset text = (text.map plainMark, none) := by
  induction text generalizing offset with
  | nil => rfl
  | cons c cs ih =>
    have hc := h c List.mem_cons_self
    have hcs : IsPlain cs := fun d hd => h d (List.mem_cons_of_mem _ hd)
    simp only [List.mem_cons, List.not_mem_nil, or_false, not_or] at hc
    obtain ⟨hslash, hopen, hclose, hbrace, hend⟩ := hc
    simp only [scan, if_neg hslash, if_neg hopen, if_neg hclose, if_neg hbrace, if_neg hend, ih hcs,
      List.map_cons, plainMark]
    by_cases hwhite : isWhite c = true
    · simp [hwhite]
    · simp [hwhite]

namespace Outline

/-- The letters of a word go on with the word that has been begun. -/
theorem foldlM_plainMark {w : List Char} (hletters : ∀ c ∈ w, isWhite c = false) (begun : List Char)
    (before : List Piece) (enclosing : List (Nat × List Piece)) :
    (w.map plainMark).foldlM Outline.add ⟨.word begun :: before, enclosing⟩ =
      .ok ⟨.word (begun ++ lowerEach w) :: before, enclosing⟩ := by
  induction w generalizing begun with
  | nil =>
    rw [lowerEach, List.flatMap_nil, List.append_nil]
    rfl
  | cons c cs ih =>
    have hc : isWhite c = false := hletters c List.mem_cons_self
    have hcs := ih (fun d hd => hletters d (List.mem_cons_of_mem _ hd)) (begun ++ lowerChar c)
    have hmark : plainMark c = .letters (lowerChar c) := by
      rw [plainMark, if_neg (Bool.eq_false_iff.1 hc)]
    rw [List.map_cons, hmark, List.foldlM_cons, lowerEach, List.flatMap_cons, ← List.append_assoc]
    exact hcs

/-- Where no word has been begun, the words of a text are read one after the other. -/
theorem exists_foldlM_plainMark (text : List Char) (before : List Piece)
    (hbefore : before = [] ∨ ∃ earlier, before = .space :: earlier)
    (enclosing : List (Nat × List Piece)) :
    ∃ inner, (text.map plainMark).foldlM Outline.add ⟨before, enclosing⟩ = .ok ⟨inner, enclosing⟩ ∧
      dropSpace inner = if words text = [] then dropSpace before
        else (phrase ((words text).map lowerEach)).reverse ++ before := by
  induction text using wordsInduction generalizing before with
  | nil => exact ⟨before, rfl, rfl⟩
  | white c cs hc ih =>
    obtain ⟨inner, hfold, hinner⟩ := ih before hbefore
    have hmark : plainMark c = .blank := by rw [plainMark, if_pos hc]
    have hadd : Outline.add ⟨before, enclosing⟩ .blank = .ok ⟨before, enclosing⟩ := by
      rcases hbefore with rfl | ⟨earlier, rfl⟩ <;> rfl
    refine ⟨inner, ?_, by rw [words_cons_of_isWhite hc]; exact hinner⟩
    rw [List.map_cons, hmark, List.foldlM_cons, hadd]
    exact hfold
  | word s w rest h ih =>
    obtain ⟨c, cs, rfl⟩ := List.exists_cons_of_ne_nil h.ne_nil
    have hc : isWhite c = false := h.letters c List.mem_cons_self
    have hmark : plainMark c = .letters (lowerChar c) := by
      rw [plainMark, if_neg (Bool.eq_false_iff.1 hc)]
    have hadd : Outline.add ⟨before, enclosing⟩ (.letters (lowerChar c)) =
        .ok ⟨.word (lowerChar c) :: before, enclosing⟩ := by
      rcases hbefore with rfl | ⟨earlier, rfl⟩ <;> rfl
    have hword : ((c :: cs).map plainMark).foldlM Outline.add ⟨before, enclosing⟩ =
        .ok ⟨.word (lowerEach (c :: cs)) :: before, enclosing⟩ := by
      rw [List.map_cons, hmark, List.foldlM_cons, hadd]
      exact foldlM_plainMark (fun d hd => h.letters d (List.mem_cons_of_mem _ hd)) _ _ _
    rw [h.words_eq, h.eq_append, List.map_append, List.foldlM_append, hword]
    cases rest with
    | nil => exact ⟨_, rfl, rfl⟩
    | cons d ds =>
      -- white space ends the word, and counts once
      have hd : isWhite d = true := by
        have hends := h.ends
        rwa [startsWord_cons, Bool.not_eq_false'] at hends
      obtain ⟨inner, hfold, hinner⟩ :=
        ih (.space :: .word (lowerEach (c :: cs)) :: before) (Or.inr ⟨_, rfl⟩)
      refine ⟨inner, ?_, ?_⟩
      · have hblank : plainMark d = .blank := by rw [plainMark, if_pos hd]
        rw [List.map_cons, hblank] at hfold ⊢
        exact hfold
      · rw [hinner, if_neg (List.cons_ne_nil _ _), List.map_cons]
        by_cases hrest : words (d :: ds) = []
        · rw [if_pos hrest, hrest]
          rfl
        · rw [if_neg hrest, phrase_cons (by simpa using hrest)]
          simp

end Outline

/-- A plain text that is not blank is read as its words, their letters lowered one by one. -/
theorem parse_of_isPlain {template : String} (hplain : IsPlain template.toList)
    (hblank : isBlank template.toList = false) :
    parse template = .ok (phrase ((words template.toList).map lowerEach)) := by
  have hwords : words template.toList ≠ [] := by
    rw [Ne, words_eq_nil_iff, hblank]
    exact Bool.false_ne_true
  obtain ⟨inner, hfold, hinner⟩ :=
    Outline.exists_foldlM_plainMark template.toList [] (Or.inl rfl) []
  rw [if_neg hwords, List.append_nil] at hinner
  have hne : phrase ((words template.toList).map lowerEach) ≠ [] := by
    obtain ⟨w, ws, hcons⟩ := List.exists_cons_of_ne_nil hwords
    rw [hcons]
    cases ws <;> exact List.cons_ne_nil _ _
  have hfinish : Outline.finish ⟨inner, []⟩ = .ok (phrase ((words template.toList).map lowerEach)) := by
    unfold Outline.finish
    obtain ⟨piece, before, hcons⟩ := List.exists_cons_of_ne_nil (List.reverse_ne_nil_iff.2 hne)
    rw [hcons] at hinner
    simp only [hinner]
    rw [← hcons, List.reverse_reverse]
  have hrepeat : repeatedSlot? [] (Piece.slotsOfAll (phrase ((words template.toList).map lowerEach))) =
      none := by
    rw [slotsOfAll_phrase]
    rfl
  rw [parse, parseChars, scan_of_isPlain hplain]
  simp only [hfold]
  show (Outline.finish ⟨inner, []⟩ >>= _) = _
  rw [hfinish]
  simp only [bind, Except.bind, hrepeat]
  rfl

/-! ## Matching plain text -/

/-- The letters of a lowered word are found in the word itself, unless it has a dotted `İ`: what is
found for one with that letter would hold it, too. -/
theorem takeLetters_lowerEach_append (word rest : List Char) :
    takeLetters (lowerEach word) (word ++ rest) = if 'İ' ∈ word then none else some rest := by
  by_cases hdotted : 'İ' ∈ word
  · rw [if_pos hdotted]
    refine Option.eq_none_iff_forall_ne_some.2 fun left htake => ?_
    obtain ⟨taken, htext, htaken⟩ := takeLetters_eq_some_iff.1 htake
    have hundotted : 'İ' ∉ taken := ((caseless_eq_iff (lowered_lowerEach word)).1 htaken).1
    have hlength : word.length ≤ taken.length := by
      have heq : taken.length = (lowerEach word).length := by
        simpa only [caseless, List.length_map] using congrArg List.length htaken
      rw [heq]
      exact length_le_lowerEach word
    have hbegins : word <+: taken :=
      List.prefix_of_prefix_length_le ⟨rest, rfl⟩ ⟨left, htext.symm⟩ hlength
    exact hundotted (hbegins.subset hdotted)
  · rw [if_neg hdotted]
    exact takeLetters_eq_some_iff.2
      ⟨word, rfl, (caseless_eq_iff (lowered_lowerEach word)).2 ⟨hdotted, rfl⟩⟩

/-- So a lowered word is taken off a text that begins with the word, unless it goes on there. -/
theorem takeWord_lowerEach_append (word rest : List Char) :
    takeWord (lowerEach word) (word ++ rest) =
      if 'İ' ∈ word ∨ endsAlphanumeric (lowerEach word) = true ∧ startsAlphanumeric rest = true then
        none
      else some rest := by
  rw [takeWord, takeLetters_lowerEach_append]
  by_cases hdotted : 'İ' ∈ word
  · rw [if_pos hdotted, if_pos (Or.inl hdotted)]
  · rw [if_neg hdotted]
    simp only [hdotted, false_or, Bool.and_eq_true]

/-- Only what follows a text can go on with the word at the end of the text. -/
theorem isBlank_of_startsAlphanumeric_append {rest extra : List Char}
    (hrest : startsWord rest = false) (h : startsAlphanumeric (rest ++ extra) = true) :
    isBlank extra = false := by
  cases rest with
  | nil => exact isBlank_of_startsAlphanumeric h
  | cons d ds =>
    have hstart : startsAlphanumeric (d :: ds ++ extra) = false :=
      startsAlphanumeric_of_not_startsWord hrest
    rw [h] at hstart
    cases hstart

/-- The first part that a phrase is compiled to is its first word. White space parts it from the
others. -/
theorem exists_literal_of_phrase {scope : Scope} {w : List Char} (hw : Lowered w)
    {ws : List (List Char)} {parts : List Pattern}
    (h : compilePieces scope .lineEnd (phrase (w :: ws)) = .ok parts) :
    ∃ more, parts = .literal w :: more ∧ (ws = [] ∧ more = [] ∨
      ∃ others, more = .gap :: others ∧ compilePieces scope .lineEnd (phrase ws) = .ok others) := by
  by_cases hws : ws = []
  · rw [hws] at h
    obtain ⟨_, _, hfirst, hmore, rfl⟩ := compilePieces_cons_eq_ok h
    cases hfirst
    cases hmore
    exact ⟨[], by rw [ofWord_of_lowered hw], Or.inl ⟨hws, rfl⟩⟩
  · rw [phrase_cons hws] at h
    obtain ⟨_, _, hfirst, hmore, rfl⟩ := compilePieces_cons_eq_ok h
    obtain ⟨_, others, hgap, hothers, rfl⟩ := compilePieces_cons_eq_ok hmore
    cases hfirst
    cases hgap
    exact ⟨_, by rw [ofWord_of_lowered hw], Or.inr ⟨others, rfl, hothers⟩⟩

/-- The parts that plain text is compiled to take its words off a text that begins with it, and leave
what follows the last of them. They fail if one of the words has a dotted `İ`, or if more letters
follow the last one. -/
theorem matchEach_phrase {scope : Scope} (live : Scope) (text extra : List Char)
    (parts : List Pattern) (bindings : Bindings)
    (hparts : compilePieces scope .lineEnd (phrase ((words text).map lowerEach)) = .ok parts) :
    (∃ rest, matchEach live parts (trimStart (text ++ extra)) bindings = (some rest, bindings) ∧
        isBlank rest = isBlank extra ∧ 'İ' ∉ text) ∨
      (matchEach live parts (trimStart (text ++ extra)) bindings).1 = none ∧
        ('İ' ∈ text ∨ isBlank extra = false) := by
  induction text using wordsInduction generalizing parts with
  | nil =>
    cases hparts
    refine Or.inl ⟨trimStart extra, rfl, ?_, List.not_mem_nil⟩
    rw [Bool.eq_iff_iff, ← words_eq_nil_iff, ← words_eq_nil_iff, words_trimStart]
  | white c cs hc ih =>
    have hmem : 'İ' ∈ c :: cs ↔ 'İ' ∈ cs := by
      have hne : 'İ' ≠ c := by
        rintro rfl
        exact absurd hc (by decide)
      simp [hne]
    have htrim : trimStart (c :: cs ++ extra) = trimStart (cs ++ extra) :=
      trimStart_cons_of_isWhite hc _
    rw [words_cons_of_isWhite hc] at hparts
    rw [hmem, htrim]
    exact ih parts hparts
  | word s w rest h ih =>
    have htext : trimStart (s ++ extra) = w ++ (rest ++ extra) := by
      rw [trimStart_of_startsWord (startsWord_append_left h.startsWord extra), h.eq_append,
        List.append_assoc]
    have hmem : 'İ' ∈ s ↔ 'İ' ∈ w ∨ 'İ' ∈ rest := by rw [h.eq_append, List.mem_append]
    rw [h.words_eq, List.map_cons] at hparts
    obtain ⟨more, rfl, hmore⟩ := exists_literal_of_phrase (lowered_lowerEach w) hparts
    rw [htext, hmem]
    have htake := takeWord_lowerEach_append w (rest ++ extra)
    by_cases hfails : 'İ' ∈ w ∨
        endsAlphanumeric (lowerEach w) = true ∧ startsAlphanumeric (rest ++ extra) = true
    · have hnone : matchText live (.literal (lowerEach w)) (w ++ (rest ++ extra)) bindings =
          (none, bindings) := by
        rw [matchText, htake, if_pos hfails]
      refine Or.inr ⟨by rw [matchEach_cons_of_none hnone], ?_⟩
      rcases hfails with hdotted | ⟨_, hstarts⟩
      · exact Or.inl (Or.inl hdotted)
      · exact Or.inr (isBlank_of_startsAlphanumeric_append h.ends hstarts)
    · have hdotted : 'İ' ∉ w := fun hw => hfails (Or.inl hw)
      have hsome : matchText live (.literal (lowerEach w)) (w ++ (rest ++ extra)) bindings =
          (some (rest ++ extra), bindings) := by
        rw [matchText, htake, if_neg hfails]
      rw [matchEach_cons_of_some hsome]
      rcases hmore with ⟨hnil, rfl⟩ | ⟨parts, rfl, hothers⟩
      · have hblank : isBlank rest = true := (words_eq_nil_iff rest).1 (List.map_eq_nil_iff.1 hnil)
        refine Or.inl ⟨rest ++ extra, rfl, ?_, ?_⟩
        · rw [isBlank, List.all_append]
          exact (congrArg (· && isBlank extra) hblank).trans (Bool.true_and _)
        · rintro (hw | hw)
          · exact hdotted hw
          · exact absurd (List.all_eq_true.1 hblank _ hw) (by decide)
      · have hgap : matchText live .gap (rest ++ extra) bindings =
            (some (trimStart (rest ++ extra)), bindings) := rfl
        rw [matchEach_cons_of_some hgap]
        simpa only [hdotted, false_or] using ih parts hothers

/-- A template in plain text that is not blank compiles in every scope, alone or as the only template
of a command. What it is compiled to matches the template itself, with no slot filled, unless the
template has a dotted `İ`; it matches no line in which something other than white space follows the
template. -/
theorem plain_matches_itself_iff (scope : Scope) {template : String}
    (hplain : IsPlain template.toList) (hblank : isBlank template.toList = false) :
    ∃ pattern, compileAll scope [template] = .ok pattern ∧ ∀ live : Scope,
      pattern.matchLine live template =
        (if 'İ' ∈ template.toList then none else some .empty) ∧
      ∀ extra : String, isBlank extra.toList = false →
        pattern.matchLine live (template ++ extra) = none := by
  have hparse := parse_of_isPlain hplain hblank
  obtain ⟨parts, hparts⟩ := exists_compilePieces (slotsOfAll_phrase _) scope .lineEnd
  have hcompile : compile scope template = .ok (.sequence (.gap :: parts ++ [.gap, .lineEnd])) :=
    bind_eq_ok_iff.2 ⟨_, hparse, bind_eq_ok_iff.2 ⟨parts, hparts, rfl⟩⟩
  obtain ⟨pattern, hpattern, halone⟩ := exists_compileAll_singleton hcompile
  refine ⟨pattern, hpattern, fun live => ⟨?_, fun extra hextra => ?_⟩⟩
  · have hmatch := matchEach_phrase live template.toList [] parts .empty hparts
    rw [List.append_nil] at hmatch
    rw [halone]
    rcases hmatch with ⟨rest, hrest, hrestBlank, hdotted⟩ | ⟨hnone, hdotted⟩
    · rw [if_neg hdotted]
      exact matchLine_eq_some_iff.2 ⟨rest, hrest, hrestBlank⟩
    · rw [if_pos (hdotted.resolve_right (by decide))]
      refine matchLine_eq_none fun rest filled hrest => ?_
      rw [hrest] at hnone
      cases hnone
  · rw [halone]
    refine matchLine_eq_none fun rest filled hrest => ?_
    rw [String.toList_append] at hrest
    rcases matchEach_phrase live template.toList extra.toList parts .empty hparts with
      ⟨rest', hrest', hsame, _⟩ | ⟨hnone, _⟩
    · rw [hrest'] at hrest
      cases hrest
      rw [hsame, hextra]
    · rw [hrest] at hnone
      cases hnone

/-- A template with a capital, an accent and marks that are no letters. -/
theorem cafe_matches_itself :
    IsPlain "Öffne  Café-Tür!".toList ∧ isBlank "Öffne  Café-Tür!".toList = false ∧
      ∃ pattern, compileAll {} ["Öffne  Café-Tür!"] = .ok pattern ∧
        pattern.matchLine {} "Öffne  Café-Tür!" = some .empty ∧
        pattern.matchLine {} ("Öffne  Café-Tür!" ++ "!") = none := by
  have hplain : IsPlain "Öffne  Café-Tür!".toList := by decide +kernel
  have hblank : isBlank "Öffne  Café-Tür!".toList = false := by decide +kernel
  obtain ⟨pattern, hpattern, hmatch⟩ := plain_matches_itself_iff {} hplain hblank
  obtain ⟨hself, hmore⟩ := hmatch {}
  have hundotted : 'İ' ∉ "Öffne  Café-Tür!".toList := by decide +kernel
  exact ⟨hplain, hblank, pattern, hpattern, hself.trans (if_neg hundotted),
    hmore "!" (by decide +kernel)⟩

/-- The dotted `İ` is lowered when the template is read, and not found in the line. -/
theorem dotted_mismatch :
    IsPlain "İ".toList ∧ isBlank "İ".toList = false ∧
      ∃ pattern, compileAll {} ["İ"] = .ok pattern ∧ pattern.matchLine {} "İ" = none := by
  have hcheck : (compileAll {} ["İ"]).toOption.any
      (fun pattern => (pattern.matchLine {} "İ").isNone) = true := by
    decide +kernel
  obtain ⟨pattern, hpattern, hnone⟩ := exists_ok_of_any hcheck
  exact ⟨by decide +kernel, by decide +kernel, pattern, hpattern, Option.isNone_iff_eq_none.1 hnone⟩

end Muster.Template
