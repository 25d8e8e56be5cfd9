import Muster.Proofs.Text.Lowering
import Muster.Proofs.Unicode.Raising

/-!
# Names and their normal forms

A name is kept in display form, and is looked up in normal form. The display form has the words of
the name (`words_display`), so that it is blank only if the name is (`isBlank_display`). Whether its
normal form is that of the name is a question about each word by itself. Raising the first letter
must not change what it is lowered to, and no capital sigma may stand where a word ends, since the
display form has a plain small sigma there (`Restored`). Main statement: `normal_display_eq_iff`.
-/

namespace Muster.Text

open Muster.Unicode

/-! ## Display form -/

theorem capitalized_ne_nil {w : List Char} (h : w ≠ []) : capitalized w ≠ [] := by
  obtain ⟨c, cs, rfl⟩ := List.exists_cons_of_ne_nil h
  exact List.append_ne_nil_of_left_ne_nil (upperChar_ne_nil c) _

/-- A word in display form has no white space. -/
theorem isWhite_of_mem_capitalized {w : List Char} (h : ∀ c ∈ w, isWhite c = false) :
    ∀ d ∈ capitalized w, isWhite d = false := by
  intro d hd
  cases w with
  | nil => cases hd
  | cons c cs =>
    rcases List.mem_append.1 hd with hd | hd
    · exact isWhite_of_mem_upperChar (h c (by simp)) hd
    · obtain ⟨e, he, hlower⟩ := List.mem_flatMap.1 hd
      rw [isWhite_of_mem_lowerChar hlower]
      exact h e (by simp [he])

/-- The words of a display form are those of the name, each capitalized. -/
theorem words_display (s : List Char) : words (display s) = (words s).map capitalized := by
  refine words_unwords fun v hv => ?_
  obtain ⟨w, hw, rfl⟩ := List.mem_map.1 hv
  obtain ⟨hne, hletters⟩ := of_mem_words hw
  exact ⟨capitalized_ne_nil hne, isWhite_of_mem_capitalized hletters⟩

theorem isBlank_display (s : List Char) : isBlank (display s) = isBlank s := by
  rw [Bool.eq_iff_iff, ← words_eq_nil_iff, ← words_eq_nil_iff, words_display, List.map_eq_nil_iff]

theorem isBlank_normal (s : List Char) : isBlank (normal s) = isBlank s := by
  rw [Bool.eq_iff_iff, ← words_eq_nil_iff, ← words_eq_nil_iff, words_normal, List.map_eq_nil_iff]

/-- The display form of a blank text is empty. -/
theorem display_eq_nil_iff (s : List Char) : display s = [] ↔ isBlank s = true := by
  constructor
  · intro h
    rw [← isBlank_display, h]
    rfl
  · intro h
    rw [display, (words_eq_nil_iff s).2 h]
    rfl

/-! ## Lowering a display form -/

theorem lowerChar_sigma : lowerChar 'Σ' = ['σ'] := by decide +kernel

theorem length_lowerAfter (before s : List Char) :
    (lowerAfter before s).length = (lowerEach s).length := by
  induction s generalizing before with
  | nil => rfl
  | cons c cs ih =>
    have hfirst : (if c = 'Σ' then [lowerSigma before cs] else lowerChar c).length =
        (lowerChar c).length := by
      by_cases hc : c = 'Σ'
      · rw [if_pos hc, hc, lowerChar_sigma]
        rfl
      · rw [if_neg hc]
    rw [lowerAfter, lowerEach, List.flatMap_cons, List.length_append, List.length_append, hfirst,
      ih (c :: before), lowerEach]

/-- Letters that are lowered one by one are lowered. -/
theorem lowered_lowerEach (s : List Char) : Lowered (lowerEach s) := by
  intro d hd
  obtain ⟨c, _, hlower⟩ := List.mem_flatMap.1 hd
  exact lowerChar_of_mem_lowerChar hlower

theorem lowerEach_of_lowered {s : List Char} (h : Lowered s) : lowerEach s = s := by
  induction s with
  | nil => rfl
  | cons c cs ih =>
    have hcs := ih fun d hd => h d (by simp [hd])
    rw [lowerEach] at hcs
    rw [lowerEach, List.flatMap_cons, h c (by simp), hcs]
    rfl

/-- Without a capital sigma the place of a letter in its word does not matter. -/
theorem lowerAfter_append {s : List Char} (h : 'Σ' ∉ s) (before t : List Char) :
    lowerAfter before (s ++ t) = lowerEach s ++ lowerAfter (s.reverse ++ before) t := by
  induction s generalizing before with
  | nil => rfl
  | cons c cs ih =>
    have hc : c ≠ 'Σ' := fun hc => h (by simp [hc])
    have hcs := ih (fun hmem => h (by simp [hmem])) (c :: before)
    rw [List.cons_append, lowerAfter, if_neg hc, hcs, lowerEach, lowerEach, List.flatMap_cons,
      List.append_assoc, List.reverse_cons, List.append_assoc]
    rfl

/-- A sigma that nothing comes before is not a final one. -/
theorem lowerSigma_nil (after : List Char) : lowerSigma [] after = 'σ' := rfl

/-- A capitalized word is lowered as its letters are. -/
theorem lowerText_capitalized (c : Char) (cs : List Char) :
    lowerText (capitalized (c :: cs)) = lowerEach (upperChar c) ++ lowerEach cs := by
  have hlowered : ∀ before, lowerAfter before (lowerEach cs) = lowerEach cs := fun before =>
    lowerAfter_of_lowered before (lowered_lowerEach cs)
  rw [lowerText, capitalized]
  by_cases hsigma : 'Σ' ∈ upperChar c
  · rw [upperChar_of_mem_sigma hsigma]
    show lowerAfter [] ('Σ' :: lowerEach cs) = lowerChar 'Σ' ++ [] ++ lowerEach cs
    rw [lowerAfter, if_pos rfl, lowerSigma_nil, hlowered, lowerChar_sigma]
    rfl
  · rw [lowerAfter_append hsigma, hlowered]

/-- The first letter of a word is lowered by itself. -/
theorem lowerText_cons (c : Char) (cs : List Char) :
    lowerText (c :: cs) = lowerChar c ++ lowerAfter [c] cs := by
  rw [lowerText, lowerAfter]
  by_cases hc : c = 'Σ'
  · rw [if_pos hc, lowerSigma_nil, hc, lowerChar_sigma]
  · rw [if_neg hc]

/-- No capital sigma of the text is in a place where it becomes a final one, after the characters
that come before. -/
def NoFinalSigma (before s : List Char) : Prop :=
  ∀ pre post, s = pre ++ 'Σ' :: post → lowerSigma (pre.reverse ++ before) post = 'σ'

theorem noFinalSigma_cons (before : List Char) (c : Char) (cs : List Char) :
    NoFinalSigma before (c :: cs) ↔
      (c = 'Σ' → lowerSigma before cs = 'σ') ∧ NoFinalSigma (c :: before) cs := by
  constructor
  · intro h
    refine ⟨fun hc => h [] cs (by rw [hc]; rfl), fun pre post hcs => ?_⟩
    have hsigma := h (c :: pre) post (by rw [hcs]; rfl)
    rw [List.reverse_cons, List.append_assoc] at hsigma
    exact hsigma
  · rintro ⟨hfirst, hrest⟩ pre post hs
    cases pre with
    | nil =>
      obtain ⟨hc, rfl⟩ := List.cons.inj hs
      exact hfirst hc
    | cons d pre =>
      obtain ⟨rfl, hcs⟩ := List.cons.inj hs
      have hsigma := hrest pre post hcs
      rw [List.reverse_cons, List.append_assoc]
      exact hsigma

/-- Letters are lowered one by one exactly where no sigma becomes a final one. -/
theorem lowerAfter_eq_lowerEach_iff (before s : List Char) :
    lowerAfter before s = lowerEach s ↔ NoFinalSigma before s := by
  induction s generalizing before with
  | nil =>
    refine ⟨fun _ pre post h => ?_, fun _ => rfl⟩
    cases pre <;> cases h
  | cons c cs ih =>
    rw [noFinalSigma_cons, ← ih (c :: before), lowerAfter, lowerEach, List.flatMap_cons]
    by_cases hc : c = 'Σ'
    · rw [if_pos hc, hc, lowerChar_sigma]
      simp [lowerEach]
    · rw [if_neg hc, List.append_cancel_left_eq]
      simp [hc, lowerEach]

/-- Capitalizing a word does not change what it is in lowercase: neither does raising its first
letter, nor does it end in a capital sigma, or have one before the end of its letters. -/
structure Restored (word : List Char) : Prop where
  initial : ∀ c ∈ word.head?, lowerEach (upperChar c) = lowerChar c
  sigmas : NoFinalSigma [] word

/-- A word that is capitalized and lowered is what it is in lowercase exactly if it is restored. -/
theorem lowerText_capitalized_iff {w : List Char} (hne : w ≠ []) :
    lowerText (capitalized w) = lowerText w ↔ Restored w := by
  obtain ⟨c, cs, rfl⟩ := List.exists_cons_of_ne_nil hne
  rw [lowerText_capitalized, lowerText_cons]
  constructor
  · intro h
    obtain ⟨hinitial, hrest⟩ := List.append_inj' h (length_lowerAfter [c] cs).symm
    refine ⟨fun d hd => ?_, ?_⟩
    · rw [List.head?_cons, Option.mem_some_iff] at hd
      rw [← hd]
      exact hinitial
    · rw [noFinalSigma_cons]
      exact ⟨fun _ => lowerSigma_nil cs, (lowerAfter_eq_lowerEach_iff [c] cs).1 hrest.symm⟩
  · intro h
    rw [h.initial c rfl, (lowerAfter_eq_lowerEach_iff [c] cs).2
      ((noFinalSigma_cons [] c cs).1 h.sigmas).2]

/-- Words are told apart when they are joined by blanks. -/
theorem unwords_map_inj {f g : List Char → List Char} {ws : List (List Char)}
    (hf : ∀ w ∈ ws, f w ≠ [] ∧ ∀ c ∈ f w, isWhite c = false)
    (hg : ∀ w ∈ ws, g w ≠ [] ∧ ∀ c ∈ g w, isWhite c = false) :
    unwords (ws.map f) = unwords (ws.map g) ↔ ∀ w ∈ ws, f w = g w := by
  rw [← List.map_inj_left]
  constructor
  · intro h
    have hwords := congrArg words h
    rw [words_unwords (by simpa using hf), words_unwords (by simpa using hg)] at hwords
    exact hwords
  · intro h
    rw [h]

/-- The normal form of a display form is that of the name exactly if every word is restored. -/
theorem normal_display_eq_iff (s : List Char) :
    normal (display s) = normal s ↔ ∀ word ∈ words s, Restored word := by
  have hword : ∀ w ∈ words s, w ≠ [] ∧ ∀ c ∈ w, isWhite c = false := fun w hw => of_mem_words hw
  rw [normal, words_display, List.map_map, normal, unwords_map_inj]
  · constructor
    · exact fun h w hw => (lowerText_capitalized_iff (hword w hw).1).1 (h w hw)
    · exact fun h w hw => (lowerText_capitalized_iff (hword w hw).1).2 (h w hw)
  · intro w hw
    obtain ⟨hne, hletters⟩ := hword w hw
    exact (lowerText_of_word (capitalized_ne_nil hne) (isWhite_of_mem_capitalized hletters)).2
  · intro w hw
    exact (lowerText_of_word (hword w hw).1 (hword w hw).2).2

/-- A lowered word has no capital sigma, so that only its first letter matters. -/
theorem restored_iff_of_lowered {w : List Char} (h : Lowered w) :
    Restored w ↔ ∀ c ∈ w.head?, lowerEach (upperChar c) = [c] := by
  have hsigmas : NoFinalSigma [] w := by
    rw [← lowerAfter_eq_lowerEach_iff, lowerAfter_of_lowered [] h, lowerEach_of_lowered h]
  constructor
  · intro hrestored c hc
    rw [hrestored.initial c hc, h c (List.mem_of_mem_head? hc)]
  · intro hinitial
    refine ⟨fun c hc => ?_, hsigmas⟩
    rw [hinitial c hc, h c (List.mem_of_mem_head? hc)]

end Muster.Text

namespace Muster

open Text

theorem normalize_normalize (s : String) : normalize (normalize s) = normalize s := by
  rw [normalize, normalize, String.toList_ofList, normal_normal]

/-- The display form of a name is blank only if the name is. -/
theorem isBlank_displayName (s : String) : isBlank (displayName s).toList = isBlank s.toList := by
  rw [displayName, String.toList_ofList, isBlank_display]

theorem isEmpty_displayName (s : String) : (displayName s).isEmpty = isBlank s.toList := by
  rw [Bool.eq_iff_iff, String.isEmpty_iff, displayName, String.ofList_eq_empty_iff,
    display_eq_nil_iff]

end Muster
