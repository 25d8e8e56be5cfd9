import Muster.Proofs.Pattern.SampleLine

/-!
# Templates that some line matches

That a template compiles does not mean that a line can match it. A word that ends in a letter or digit
is not taken where another one follows directly, and a group that is found is not left out. So
`colo[u]r` matches nothing at all: the words of neither of its readings can stand side by side. Main
statement: `matchable_iff`, which says exactly for which templates there is a line.
-/

namespace Muster.Template

open Muster.Text Muster.Unicode Muster.Pattern

/-! ## What a plan has that can be said -/

section

variable {plan : List Item} {text filling rest : List Char}

/-- What does not depend on case holds of the first letter in the text if it holds of the first letter
of the word there. -/
theorem head_of_run {p : Char → Bool} (hp : ∀ c d, lowerChar c = lowerChar d → p c = p d)
    (hin : InWords plan text) (h : (run (reading plan)).head?.any p = true) :
    text.head?.any p = true := by
  induction hin with
  | nil htrail => cases h
  | @word letters taken rest plan hsame hends hrest ih =>
    cases letters with
    | nil =>
      have hnil : taken = [] := List.map_eq_nil_iff.1 hsame
      rw [hnil]
      exact ih h
    | cons d ds =>
      cases taken with
      | nil => cases hsame
      | cons c cs => exact (hp c d (List.cons.inj hsame).1).trans h
  | space hgap htrimmed hrest ih => cases h
  | slot hfilling hends hrest ih => cases h
  | leftOut hmissing hrest ih => exact ih h

/-- The words that a text has one after the other do not run into each other. -/
theorem smooth_of_inWords (hin : InWords plan text) : smooth (reading plan) = true := by
  induction hin with
  | nil htrail => rfl
  | word hsame hends hrest ih =>
    refine Bool.and_eq_true_iff.2 ⟨?_, ih⟩
    rw [Bool.not_eq_true', Bool.eq_false_iff]
    intro hclash
    obtain ⟨hlast, hfirst⟩ := Bool.and_eq_true_iff.1 hclash
    exact hends ⟨hlast, head_of_run (fun c d => isAlphanumeric_eq_of_lowerChar_eq) hrest hfirst⟩
  | space hgap htrimmed hrest ih => exact ih
  | slot hfilling hends hrest ih => exact ih
  | leftOut hmissing hrest ih => exact ih

/-- Where a word of the line is the stop word, and what is taken for the stop word is equal to it
letter by letter, the two are the same part of the line. So no word begins directly after it. -/
theorem not_startsWord_of_stop {letters taken rest word more : List Char}
    (hsame : caseless taken = caseless letters) (hbegins : BeginsWith (taken ++ rest) word more)
    (hlower : lowerText word = letters) :
    (∀ d ∈ letters, isWhite d = false) ∧ startsWord rest = false := by
  have hletters : ∀ d ∈ letters, isWhite d = false := by
    intro d hd
    rw [← hlower] at hd
    obtain ⟨_, c, hc, hwhite⟩ := of_mem_lowerAfter hd
    rw [hwhite, hbegins.letters c hc]
  have htaken : ∀ c ∈ taken, isWhite c = false := by
    intro c hc
    obtain ⟨d, hd, heq⟩ := exists_of_caseless_eq hsame hc
    rw [isWhite_eq_of_lowerChar_eq heq, hletters d hd]
  have hlength : word.length ≤ taken.length := by
    have hlowered := length_le_lowerAfter [] word
    have hcount : taken.length = letters.length := by
      simpa only [caseless, List.length_map] using congrArg List.length hsame
    rw [hcount, ← hlower]
    exact hlowered
  exact ⟨hletters, not_startsWord_of_beginsWith hbegins htaken hlength⟩

/-- After a filling there is no white space left. -/
theorem trimStart_of_endsAt {follow : Follow} (h : EndsAt filling rest follow) :
    trimStart rest = rest := by
  cases follow with
  | lineEnd =>
    have hrest : rest = [] := h
    rw [hrest]
    rfl
  | word stop =>
    obtain ⟨word, more, hbegins, _⟩ := StopsBefore.stops h
    exact trimStart_of_startsWord hbegins.startsWord
  | slot => cases h
  | group => cases h

/-- A stop word that is found in a text is found as a word by itself. -/
theorem parted_of_inWords (hin : InWords plan text)
    (hends : EndsAt filling text (Follow.of .lineEnd (reading plan))) :
    parted (reading plan) = true := by
  induction hin with
  | nil htrail => rfl
  | @word letters taken rest plan hsame _ hrest ih =>
    obtain ⟨word, more, hbegins, hlower⟩ := StopsBefore.stops hends
    obtain ⟨hletters, hnext⟩ := not_startsWord_of_stop hsame hbegins hlower
    refine Bool.and_eq_true_iff.2 ⟨by simpa using hletters, ?_⟩
    rw [Bool.not_eq_true', Bool.eq_false_iff]
    intro hrun
    have hstarts : startsWord rest = true :=
      head_of_run (fun c d h => by rw [isWhite_eq_of_lowerChar_eq h]) hrest hrun
    rw [hnext] at hstarts
    cases hstarts
  | @space gap rest plan hgap htrimmed hrest ih =>
    -- no white space is left for the gap
    have htext := trimStart_of_endsAt hends
    rw [trimStart_append_of_isBlank hgap, htrimmed] at htext
    rw [← htext] at hends
    exact ih hends
  | slot hfilling _ hrest ih => cases hends
  | leftOut hmissing hrest ih => exact ih hends

/-- Every slot of a text finds its end. -/
theorem ending_of_inWords (hin : InWords plan text) : ending (reading plan) = true := by
  induction hin with
  | nil htrail => rfl
  | word hsame hends hrest ih => exact ih
  | space hgap htrimmed hrest ih => exact ih
  | slot hfilling hends hrest ih => exact Bool.and_eq_true_iff.2 ⟨parted_of_inWords hrest hends, ih⟩
  | leftOut hmissing hrest ih => exact ih

/-- No word of a text begins with white space that has been passed before. -/
theorem upright_of_inWords (hin : InWords plan text) {passed : Bool}
    (hpassed : passed = true → trimStart text = text) : upright passed (reading plan) = true := by
  induction hin generalizing passed with
  | nil htrail => rfl
  | @word letters taken rest plan hsame hends hrest ih =>
    refine Bool.and_eq_true_iff.2 ⟨?_, ih (fun h => absurd h Bool.false_ne_true)⟩
    rw [Bool.not_eq_true', Bool.and_eq_false_imp, Bool.eq_false_iff]
    intro htrim hwhite
    cases letters with
    | nil => cases hwhite
    | cons d ds =>
      cases taken with
      | nil => cases hsame
      | cons c cs =>
        have hc : isWhite c = true := (isWhite_eq_of_lowerChar_eq (List.cons.inj hsame).1).trans hwhite
        have htext := hpassed htrim
        rcases trimStart_eq_nil_or_startsWord (c :: cs ++ rest) with hnil | hstarts
        · rw [htext] at hnil
          cases hnil
        · rw [htext, List.cons_append, startsWord_cons, hc] at hstarts
          cases hstarts
  | space hgap htrimmed hrest ih => exact ih fun _ => htrimmed
  | slot hfilling hends hrest ih => exact ih fun _ => trimStart_of_endsAt hends
  | leftOut hmissing hrest ih => exact ih hpassed

/-- A plan in whose words there is a line can be said. -/
theorem sayable_of_inWords {line : List Char} (hin : InWords plan (trimStart line)) : Sayable plan :=
  ⟨smooth_of_inWords hin, ending_of_inWords hin,
    upright_of_inWords hin fun _ => trimStart_trimStart line⟩

end

/-! ## Templates that some line matches -/

/-- A plan that can be said has a line in its words, if no group that it leaves out is found in the
sample line. -/
theorem exists_inWords {template : String} {pieces : List Piece} (hparse : parse template = .ok pieces)
    {plan : List Item} (hplan : plan ∈ Piece.plansOfAll pieces) (hsayable : Sayable plan) {n : Nat}
    (hn : 0 < n) (hspared : spared n true plan = true) :
    ∃ line : String, InWords plan (trimStart line.toList) := by
  have hreading := reading_mem hplan
  have hwords : ∀ w ∈ Piece.wordsOfAll (reading plan), w ≠ [] ∧ Lowered w := fun w hw =>
    words_of_parse hparse ((Piece.wordsOfAll_sublist hreading).mem hw)
  have hin := inWords_sample hn (Piece.group_notMem_of_mem_readingsOfAll hreading) hwords
    hsayable.smooth hsayable.ending hsayable.upright hspared
  refine ⟨String.ofList (sample n (reading plan)), ?_⟩
  rw [String.toList_ofList]
  exact hin

/-- A template matches exactly the lines in the words of its plans. So there is a line for it exactly
if some plan has one, which then can be said. A plan that can be said and leaves nothing out has a
line, and so has one whose left-out groups are not found in its sample line. All groups can be kept if
no word has white space in it and there are no groups, or no two words or groups side by side. -/
theorem matchable_iff {scope : Scope} {template : String} {pieces : List Piece} {pattern : Pattern}
    (hparse : parse template = .ok pieces) (hcompile : compile scope template = .ok pattern) :
    (∀ live line, (pattern.matchLine live line).isSome = true ↔
      ∃ plan ∈ Piece.plansOfAll pieces, InWords plan (trimStart line.toList)) ∧
    ((∃ line, ∀ live, (pattern.matchLine live line).isSome = true) ↔
      ∃ plan ∈ Piece.plansOfAll pieces, Sayable plan ∧
        ∃ line : String, InWords plan (trimStart line.toList)) ∧
    (∀ plan ∈ Piece.plansOfAll pieces, (∀ item ∈ plan, item.isKept = true) →
      ((∃ line : String, InWords plan (trimStart line.toList)) ↔ Sayable plan)) ∧
    (∀ plan ∈ Piece.plansOfAll pieces, Sayable plan → (∃ n > 0, spared n true plan = true) →
      ∃ line : String, InWords plan (trimStart line.toList)) ∧
    (((∀ inner offset, .group inner offset ∉ pieces) ∨ Piece.separateAll pieces = true) →
      (∀ w ∈ Piece.wordsOfAll pieces, ∀ c ∈ w, isWhite c = false) →
      ∃ plan ∈ Piece.plansOfAll pieces, Sayable plan ∧ ∀ item ∈ plan, item.isKept = true) := by
  have hmatches := matchLine_isSome_iff hparse hcompile
  refine ⟨hmatches, ?_, ?_, ?_, exists_sayable hparse hcompile⟩
  · constructor
    · rintro ⟨line, hline⟩
      obtain ⟨plan, hplan, hin⟩ := (hmatches {} line).1 (hline {})
      exact ⟨plan, hplan, sayable_of_inWords hin, line, hin⟩
    · rintro ⟨plan, hplan, _, line, hin⟩
      exact ⟨line, fun live => (hmatches live line).2 ⟨plan, hplan, hin⟩⟩
  · intro plan hplan hkept
    constructor
    · rintro ⟨line, hin⟩
      exact sayable_of_inWords hin
    · intro hsayable
      exact exists_inWords hparse hplan hsayable Nat.one_pos (spared_of_isKept 1 hkept true)
  · rintro plan hplan hsayable ⟨n, hn, hspared⟩
    exact exists_inWords hparse hplan hsayable hn hspared

/-- Neither group can be kept, since a word would run into the next one. Both can be left out, though
one begins with the word that comes next, and the other stands before a word that begins with a
blank. -/
theorem take_matchable :
    ∃ pieces pattern, parse "[take all]take it[x]\\ go" = .ok pieces ∧
      compile {} "[take all]take it[x]\\ go" = .ok pattern ∧
      ∃ line, ∀ live, (pattern.matchLine live line).isSome = true := by
  have hplans : (parse "[take all]take it[x]\\ go").toOption.any (fun pieces =>
      decide (∃ plan ∈ Piece.plansOfAll pieces, Sayable plan ∧ spared 1 true plan = true)) = true := by
    decide +kernel
  have hcompiles : (compile {} "[take all]take it[x]\\ go").toOption.any (fun _ => true) = true := by
    decide +kernel
  obtain ⟨pieces, hparse, hplan⟩ := exists_ok_of_any hplans
  obtain ⟨pattern, hcompile, _⟩ := exists_ok_of_any hcompiles
  obtain ⟨plan, hmem, hsayable, hspared⟩ := of_decide_eq_true hplan
  obtain ⟨_, hlines, _, hsample, _⟩ := matchable_iff hparse hcompile
  exact ⟨pieces, pattern, hparse, hcompile,
    hlines.2 ⟨plan, hmem, hsayable, hsample plan hmem hsayable ⟨1, Nat.one_pos, hspared⟩⟩⟩

/-- Both spellings are meant, and neither is matched. -/
theorem colour_unmatched :
    ∃ pattern, compile {} "colo[u]r" = .ok pattern ∧
      ∀ live line, pattern.matchLine live line = none := by
  have hplans : (parse "colo[u]r").toOption.any (fun pieces =>
      decide (∀ plan ∈ Piece.plansOfAll pieces, ¬ Sayable plan)) = true := by
    decide +kernel
  have hcompiles : (compile {} "colo[u]r").toOption.any (fun _ => true) = true := by decide +kernel
  obtain ⟨pieces, hparse, hnone⟩ := exists_ok_of_any hplans
  obtain ⟨pattern, hcompile, _⟩ := exists_ok_of_any hcompiles
  refine ⟨pattern, hcompile, fun live line => ?_⟩
  by_contra hmatch
  obtain ⟨plan, hplan, hin⟩ :=
    (matchLine_isSome_iff hparse hcompile live line).1 (Option.isSome_iff_ne_none.2 hmatch)
  exact of_decide_eq_true hnone plan hplan (sayable_of_inWords hin)

end Muster.Template
