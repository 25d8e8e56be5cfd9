import Muster.Proofs.Text.Words
import Muster.Proofs.Unicode.LetterCase

/-!
# Comparing words without their case

Words are compared in two ways: letter by letter (`caseless`), and as lowered texts (`lowerText`),
where the place of a sigma in its word matters. Main statements: a text whose letters are lowered
is its own lowercase (`lowerText_of_lowered`), so that a text in normal form is its own normal form
(`normal_normal`); and neither the lowercase of a text nor its normal form depends on the case of
its ASCII letters (`lowerText_map_toLower`, `normal_congr`).
-/

namespace Muster.Text

open Muster.Unicode

/-- The letters of a text one by one, each without its case. -/
def caseless (s : List Char) : List (List Char) := s.map lowerChar

/-- The letters of a text are lowered. -/
def Lowered (s : List Char) : Prop := ∀ c ∈ s, lowerChar c = [c]

@[simp] theorem caseless_cons (c : Char) (cs : List Char) :
    caseless (c :: cs) = lowerChar c :: caseless cs := rfl

/-- Letters are told apart by their case-free forms once they are lowered. -/
theorem eq_of_caseless_eq {s t : List Char} (hs : Lowered s) (ht : Lowered t)
    (h : caseless s = caseless t) : s = t := by
  induction s generalizing t with
  | nil =>
    cases t with
    | nil => rfl
    | cons d ds => cases h
  | cons c cs ih =>
    cases t with
    | nil => cases h
    | cons d ds =>
      rw [caseless_cons, caseless_cons, List.cons.injEq, hs c (by simp), ht d (by simp)] at h
      have hcs : cs = ds :=
        ih (fun e he => hs e (by simp [he])) (fun e he => ht e (by simp [he])) h.2
      rw [(List.cons.inj h.1).1, hcs]

/-- What holds of a character's case-free form holds of the letters in the same place. -/
theorem exists_of_caseless_eq {s t : List Char} (h : caseless s = caseless t) {c : Char}
    (hc : c ∈ s) : ∃ d ∈ t, lowerChar c = lowerChar d := by
  have hmem : lowerChar c ∈ caseless t := h ▸ List.mem_map_of_mem hc
  obtain ⟨d, hd, heq⟩ := List.mem_map.1 hmem
  exact ⟨d, hd, heq.symm⟩

/-! ## Lowered texts -/

theorem lowerAfter_of_lowered (before : List Char) {s : List Char} (h : Lowered s) :
    lowerAfter before s = s := by
  induction s generalizing before with
  | nil => rfl
  | cons c cs ih =>
    have hc := h c (by simp)
    rw [lowerAfter, if_neg (ne_sigma_of_lowerChar_eq hc), hc,
      ih (c :: before) fun d hd => h d (by simp [hd])]
    rfl

/-- A text of lowered letters is its own lowercase. -/
theorem lowerText_of_lowered {s : List Char} (h : Lowered s) : lowerText s = s :=
  lowerAfter_of_lowered [] h

/-- The letters of a lowercase are lowered, and white where the text is. -/
theorem of_mem_lowerAfter {before s : List Char} {d : Char} (h : d ∈ lowerAfter before s) :
    lowerChar d = [d] ∧ ∃ c ∈ s, isWhite d = isWhite c := by
  induction s generalizing before with
  | nil => cases h
  | cons c cs ih =>
    rw [lowerAfter, List.mem_append] at h
    rcases h with hd | hd
    · by_cases hc : c = 'Σ'
      · -- both forms of the small sigma are letters
        rw [if_pos hc, List.mem_singleton] at hd
        have hsigma : d = 'ς' ∨ d = 'σ' := by
          rw [hd]
          unfold lowerSigma
          split
          · exact Or.inl rfl
          · exact Or.inr rfl
        refine ⟨?_, c, by simp, ?_⟩
        · rcases hsigma with rfl | rfl <;> decide +kernel
        · rw [hc]
          rcases hsigma with rfl | rfl <;> decide +kernel
      · rw [if_neg hc] at hd
        exact ⟨lowerChar_of_mem_lowerChar hd, c, by simp, isWhite_of_mem_lowerChar hd⟩
    · obtain ⟨hlower, e, he, hwhite⟩ := ih hd
      exact ⟨hlower, e, by simp [he], hwhite⟩

/-- The lowercase of a word is a word of lowered letters. -/
theorem lowerText_of_word {w : List Char} (hne : w ≠ []) (hletters : ∀ c ∈ w, isWhite c = false) :
    Lowered (lowerText w) ∧ lowerText w ≠ [] ∧ ∀ d ∈ lowerText w, isWhite d = false := by
  refine ⟨fun d hd => (of_mem_lowerAfter hd).1, ?_, fun d hd => ?_⟩
  · obtain ⟨c, cs, rfl⟩ := List.exists_cons_of_ne_nil hne
    rw [lowerText, lowerAfter]
    refine List.append_ne_nil_of_left_ne_nil ?_ _
    split
    · exact List.cons_ne_nil _ _
    · exact lowerChar_ne_nil c
  · obtain ⟨_, c, hc, hwhite⟩ := of_mem_lowerAfter hd
    rw [hwhite, hletters c hc]

/-- The words of a normal form are those of the text in lowercase. -/
theorem words_normal (s : List Char) : words (normal s) = (words s).map lowerText := by
  refine words_unwords fun v hv => ?_
  obtain ⟨w, hw, rfl⟩ := List.mem_map.1 hv
  obtain ⟨hne, hletters⟩ := of_mem_words hw
  exact (lowerText_of_word hne hletters).2

/-- A text in normal form is its own normal form. -/
theorem normal_normal (s : List Char) : normal (normal s) = normal s := by
  have htwice : ((words s).map lowerText).map lowerText = (words s).map lowerText := by
    rw [List.map_map]
    refine List.map_congr_left fun w hw => ?_
    obtain ⟨hne, hletters⟩ := of_mem_words hw
    exact lowerText_of_lowered (lowerText_of_word hne hletters).1
  rw [normal, words_normal, htwice, normal]

/-- Lowering a text makes it no shorter. -/
theorem length_le_lowerAfter (before text : List Char) :
    text.length ≤ (lowerAfter before text).length := by
  induction text generalizing before with
  | nil => exact Nat.zero_le _
  | cons c cs ih =>
    have hrest := ih (c :: before)
    have hfirst : 0 < (if c = 'Σ' then [lowerSigma before cs] else lowerChar c).length := by
      split
      · exact Nat.one_pos
      · exact List.length_pos_iff.2 (lowerChar_ne_nil c)
    rw [lowerAfter, List.length_append, List.length_cons]
    omega

/-- Lowering the letters of a word makes it no shorter. -/
theorem length_le_lowerEach (word : List Char) : word.length ≤ (lowerEach word).length := by
  induction word with
  | nil => exact Nat.le_refl _
  | cons c cs ih =>
    have hc : 0 < (lowerChar c).length := List.length_pos_iff.2 (lowerChar_ne_nil c)
    rw [lowerEach, List.flatMap_cons, List.length_append, List.length_cons]
    rw [lowerEach] at ih
    omega

/-! ## The case of ASCII letters -/

theorem casedNext_map_toLower (s : List Char) : casedNext (s.map Char.toLower) = casedNext s := by
  induction s with
  | nil => rfl
  | cons c cs ih =>
    unfold casedNext at ih ⊢
    rw [List.map_cons, List.dropWhile_cons, List.dropWhile_cons, isCaseIgnorable_toLower]
    by_cases hc : isCaseIgnorable c = true
    · rw [if_pos hc, if_pos hc]
      exact ih
    · rw [if_neg hc, if_neg hc]
      exact isCased_toLower c

theorem lowerAfter_map_toLower (before s : List Char) :
    lowerAfter (before.map Char.toLower) (s.map Char.toLower) = lowerAfter before s := by
  induction s generalizing before with
  | nil => rfl
  | cons c cs ih =>
    have hrest := ih (c :: before)
    rw [List.map_cons] at hrest
    rw [List.map_cons, lowerAfter, lowerAfter, hrest]
    by_cases hc : c = 'Σ'
    · rw [if_pos ((toLower_eq_sigma_iff c).2 hc), if_pos hc]
      unfold lowerSigma
      rw [casedNext_map_toLower, casedNext_map_toLower]
    · rw [if_neg fun h => hc ((toLower_eq_sigma_iff c).1 h), if_neg hc, lowerChar_toLower]

/-- The lowercase of a text does not depend on the case of its ASCII letters. -/
theorem lowerText_map_toLower (s : List Char) : lowerText (s.map Char.toLower) = lowerText s :=
  lowerAfter_map_toLower [] s

theorem lowerText_congr {s t : List Char} (h : s.map Char.toLower = t.map Char.toLower) :
    lowerText s = lowerText t := by
  rw [← lowerText_map_toLower s, h, lowerText_map_toLower]

/-- The normal form depends on the words only, and not on the case of their ASCII letters. -/
theorem normal_congr {s t : List Char}
    (h : (words s).map (·.map Char.toLower) = (words t).map (·.map Char.toLower)) :
    normal s = normal t := by
  have hlower : ∀ u, (words u).map lowerText =
      ((words u).map (·.map Char.toLower)).map lowerText := by
    intro u
    rw [List.map_map]
    exact List.map_congr_left fun w _ => (lowerText_map_toLower w).symm
  unfold normal
  rw [hlower s, hlower t, h]

end Muster.Text
