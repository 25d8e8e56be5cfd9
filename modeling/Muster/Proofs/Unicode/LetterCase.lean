import Muster.Text.Normal
import Muster.Unicode.Alphanumeric

/-!
# Case, white space and alphanumeric characters

The tables of `Unicode` are lists of ranges and runs. This file reads off them, by evaluation, how
the properties fit together, and turns each fact about code points into one about characters:

* white space is not alphanumeric, and characters that are equal in lowercase agree in being white
  space;
* lowering a character twice changes no more than lowering it once;
* what is lowered to the same as an ASCII letter or digit is alphanumeric;
* no property can tell apart the cases of an ASCII letter.
-/

namespace Muster.Unicode

/-! ## Intervals of code points -/

/-- No range of the set meets the interval. -/
def Ranges.misses (ranges : Ranges) (first last : Nat) : Bool :=
  ranges.all fun r => r.2.blt first || last.blt r.1

/-- The interval lies within one range of the set. -/
def Ranges.covers : Ranges → Nat → Nat → Bool
  | [], _, _ => false
  | r :: above, first, last => r.1.ble first && (last.ble r.2 || Ranges.covers above first last)

theorem Ranges.not_holds_of_misses {ranges : Ranges} {first last n : Nat}
    (h : ranges.misses first last = true) (hfirst : first ≤ n) (hlast : n ≤ last) :
    ranges.holds n = false := by
  rw [← Bool.not_eq_true]
  intro hn
  obtain ⟨r, hr, hrn⟩ := Ranges.exists_of_holds hn
  have hmiss := List.all_eq_true.1 h r hr
  simp only [Bool.or_eq_true, Nat.blt_eq] at hmiss
  omega

theorem Ranges.holds_of_covers {ranges : Ranges} {first last n : Nat}
    (h : ranges.covers first last = true) (hfirst : first ≤ n) (hlast : n ≤ last) :
    ranges.holds n = true := by
  induction ranges with
  | nil => cases h
  | cons r above ih =>
    simp only [Ranges.covers, Bool.and_eq_true, Bool.or_eq_true, Nat.ble_eq] at h
    unfold Ranges.holds
    rw [if_neg (by omega)]
    -- either this range holds the code point, or one above it covers the interval
    by_cases hn : n ≤ r.2
    · rw [if_pos hn]
    · rw [if_neg hn]
      exact ih (h.2.resolve_left (by omega))

/-! ## Runs -/

namespace CaseRun

/-- The code point is one of those that the run maps. -/
def Maps (run : CaseRun) (n : Nat) : Prop :=
  run.first ≤ n ∧ n ≤ run.last ∧ (n - run.first) % run.step = 0

/-- The last code point that a run maps to. -/
def lastTarget (run : CaseRun) : Nat := run.target + (run.last - run.first)

/-- The targets of the run and the code points of the other alternate. -/
def alternates (run other : CaseRun) : Bool :=
  (run.step == 2 || run.first == run.last) && other.step == 2 && (run.target + other.first) % 2 == 1

/-- Of a list of ascending runs, none maps a code point that this run maps to. -/
def clears (run : CaseRun) : List CaseRun → Bool
  | [] => true
  | other :: above =>
    run.lastTarget.blt other.first ||
      ((other.last.blt run.target || run.alternates other) && clears run above)

theorem exists_of_lookup? {runs : List CaseRun} {n m : Nat}
    (h : CaseRun.lookup? runs n = some m) :
    ∃ run ∈ runs, run.Maps n ∧ m = run.target + (n - run.first) := by
  induction runs with
  | nil => cases h
  | cons run above ih =>
    unfold CaseRun.lookup? at h
    split at h
    · cases h
    · next hfirst =>
      split at h
      · next hlast =>
        split at h
        · next hstep =>
          cases h
          exact ⟨run, by simp, ⟨by omega, hlast, hstep⟩, rfl⟩
        · cases h
      · obtain ⟨other, hmem, hother⟩ := ih h
        exact ⟨other, by simp [hmem], hother⟩

/-- Between alternating runs the distance from the other run's beginning is odd. -/
theorem not_maps_of_alternates {run other : CaseRun} (h : run.alternates other = true) {n : Nat}
    (hn : run.Maps n) (hother : other.first ≤ run.target + (n - run.first)) :
    (run.target + (n - run.first) - other.first) % other.step ≠ 0 := by
  obtain ⟨hfirst, hlast, hstep⟩ := hn
  simp only [alternates, Bool.or_eq_true, Bool.and_eq_true, beq_iff_eq] at h
  obtain ⟨⟨hrun, htwo⟩, hodd⟩ := h
  rw [htwo]
  rcases hrun with hrun | hrun
  · rw [hrun] at hstep
    omega
  · omega

/-- The lookup follows the check: it stops at the first run that begins above the code point. -/
theorem lookup?_of_clears {run : CaseRun} {runs : List CaseRun} (h : run.clears runs = true)
    {n : Nat} (hn : run.Maps n) :
    CaseRun.lookup? runs (run.target + (n - run.first)) = none := by
  have hbound : run.target + (n - run.first) ≤ run.lastTarget := by
    unfold lastTarget
    obtain ⟨_, hlast, _⟩ := hn
    omega
  induction runs with
  | nil => rfl
  | cons other above ih =>
    simp only [clears, Bool.or_eq_true, Bool.and_eq_true, Nat.blt_eq] at h
    unfold CaseRun.lookup?
    split
    · rfl
    · next hfirst =>
      -- the check went on past this run
      obtain ⟨hother, habove⟩ := h.resolve_left (by omega)
      split
      · next hlast =>
        have halternates := hother.resolve_left (by omega)
        rw [if_neg (not_maps_of_alternates halternates hn (by omega))]
      · exact ih habove

end CaseRun

/-! ## What the tables say -/

/-- What holds of a run of lowercase mappings. -/
structure CaseRun.Lowers (run : CaseRun) : Prop where
  /-- It maps no white space. -/
  from_nonwhite : whiteSpace.misses run.first run.last = true
  /-- It maps to no white space. -/
  to_nonwhite : whiteSpace.misses run.target run.lastTarget = true
  /-- It maps to code points of characters. -/
  to_char : run.lastTarget < 0xD800 ∨ (0xDFFF < run.target ∧ run.lastTarget < 0x110000)
  /-- What it maps to is not mapped again. -/
  to_lowered : run.clears lowerRuns = true
  /-- Nor is that expanded. -/
  to_unexpanded : run.clears [⟨0x130, 0x130, 2, 0⟩] = true
  /-- If it maps to ASCII, it maps alphanumeric characters. -/
  from_alphanumeric : 128 ≤ run.target ∨ alphanumeric.covers run.first run.last = true

/-- The conditions are evaluated together: one walk over the table. -/
instance (run : CaseRun) : Decidable run.Lowers :=
  decidable_of_iff
    (whiteSpace.misses run.first run.last = true ∧
      whiteSpace.misses run.target run.lastTarget = true ∧
      (run.lastTarget < 0xD800 ∨ (0xDFFF < run.target ∧ run.lastTarget < 0x110000)) ∧
      run.clears lowerRuns = true ∧ run.clears [⟨0x130, 0x130, 2, 0⟩] = true ∧
      (128 ≤ run.target ∨ alphanumeric.covers run.first run.last = true))
    ⟨fun ⟨a, b, c, d, e, f⟩ => ⟨a, b, c, d, e, f⟩, fun ⟨a, b, c, d, e, f⟩ => ⟨a, b, c, d, e, f⟩⟩

theorem lowers_of_mem_lowerRuns : ∀ run ∈ lowerRuns, run.Lowers := by
  decide +kernel

/-- No white space is alphanumeric. -/
theorem whiteSpace_miss_alphanumeric :
    (whiteSpace.all fun r => alphanumeric.misses r.1 r.2) = true := by decide +kernel

/-! ## Lowering one character -/

theorem toNat_ofNat {n : Nat} (h : n.isValidChar) : (Char.ofNat n).toNat = n := by
  rw [Char.ofNat, dif_pos h]
  rfl

theorem lookup_lowerExpansions {n : Nat} (hn : n ≠ 0x130) : lowerExpansions.lookup n = none := by
  rw [lowerExpansions, List.lookup_cons, beq_eq_false_iff_ne.2 hn]
  rfl

/-- A character that is neither expanded nor mapped is its own lowercase. -/
theorem lowerChar_of_lookup? {c : Char} (hc : c.toNat ≠ 0x130)
    (hlookup : CaseRun.lookup? lowerRuns c.toNat = none) : lowerChar c = [c] := by
  simp only [lowerChar, mapCase, lookup_lowerExpansions hc, hlookup]

/-- What the lowercase of a character can be: itself, the expansion of the only capital that becomes
two characters, or the image under a run. -/
theorem lowerChar_cases (c : Char) :
    lowerChar c = [c] ∨ (c.toNat = 0x130 ∧ lowerChar c = ['i', '\u0307']) ∨
      ∃ run ∈ lowerRuns, run.Maps c.toNat ∧ ∃ d, lowerChar c = [d] ∧
        d.toNat = run.target + (c.toNat - run.first) := by
  by_cases hc : c.toNat = 0x130
  · refine Or.inr (Or.inl ⟨hc, ?_⟩)
    rw [← Char.ofNat_toNat c, hc]
    decide
  · have hexpand := lookup_lowerExpansions hc
    cases hlookup : CaseRun.lookup? lowerRuns c.toNat with
    | none => exact Or.inl (lowerChar_of_lookup? hc hlookup)
    | some m =>
      obtain ⟨run, hmem, hmaps, rfl⟩ := CaseRun.exists_of_lookup? hlookup
      refine Or.inr (Or.inr ⟨run, hmem, hmaps, _,
        by simp only [lowerChar, mapCase, hexpand, hlookup]; rfl, ?_⟩)
      -- the image is the code point of a character
      have hvalid := (lowers_of_mem_lowerRuns run hmem).to_char
      obtain ⟨_, hlast, _⟩ := hmaps
      unfold CaseRun.lastTarget at hvalid
      have hchar : (run.target + (c.toNat - run.first)).isValidChar := by
        unfold Nat.isValidChar
        omega
      exact toNat_ofNat hchar

theorem lowerChar_ne_nil (c : Char) : lowerChar c ≠ [] := by
  rcases lowerChar_cases c with h | ⟨_, h⟩ | ⟨_, _, _, _, h, _⟩
  · simp [h]
  · simp [h]
  · simp [h]

/-- Lowering keeps white space, and makes none. -/
theorem isWhite_of_mem_lowerChar {c d : Char} (h : d ∈ lowerChar c) : isWhite d = isWhite c := by
  rcases lowerChar_cases c with hc | ⟨hc, hlower⟩ | ⟨run, hrun, hmaps, e, hlower, he⟩
  · rw [hc, List.mem_singleton] at h
    rw [h]
  · have hwhite : isWhite c = false := by
      rw [← Char.ofNat_toNat c, hc]
      decide
    rw [hlower, List.mem_cons, List.mem_singleton] at h
    rcases h with rfl | rfl
    · rw [hwhite]
      decide
    · rw [hwhite]
      decide
  · -- a run neither maps white space nor maps to it
    rw [hlower, List.mem_singleton] at h
    subst h
    have hfrom := (lowers_of_mem_lowerRuns run hrun).from_nonwhite
    have hto := (lowers_of_mem_lowerRuns run hrun).to_nonwhite
    obtain ⟨hfirst, hlast, _⟩ := hmaps
    unfold isWhite
    rw [Ranges.not_holds_of_misses hfrom hfirst hlast,
      Ranges.not_holds_of_misses hto (by omega) (by unfold CaseRun.lastTarget; omega)]

/-- Characters that are equal in lowercase are both white space or neither. -/
theorem isWhite_eq_of_lowerChar_eq {c d : Char} (h : lowerChar c = lowerChar d) :
    isWhite c = isWhite d := by
  obtain ⟨e, he⟩ := List.exists_mem_of_ne_nil _ (lowerChar_ne_nil c)
  rw [← isWhite_of_mem_lowerChar he, isWhite_of_mem_lowerChar (h ▸ he)]

/-- What lowering a character gives is lowered. -/
theorem lowerChar_of_mem_lowerChar {c d : Char} (h : d ∈ lowerChar c) : lowerChar d = [d] := by
  rcases lowerChar_cases c with hc | ⟨_, hlower⟩ | ⟨run, hrun, hmaps, e, hlower, he⟩
  · rw [hc, List.mem_singleton] at h
    rw [h, hc]
  · rw [hlower, List.mem_cons, List.mem_singleton] at h
    rcases h with rfl | rfl
    · decide
    · decide
  · rw [hlower, List.mem_singleton] at h
    subst h
    have hlowers := lowers_of_mem_lowerRuns run hrun
    refine lowerChar_of_lookup? ?_ ?_
    · -- the one character that is expanded makes up a run of its own
      have hexpand := CaseRun.lookup?_of_clears hlowers.to_unexpanded hmaps
      rw [← he] at hexpand
      intro hd
      simp [CaseRun.lookup?, hd] at hexpand
    · rw [he]
      exact CaseRun.lookup?_of_clears hlowers.to_lowered hmaps

/-- A lowered character is no capital sigma. -/
theorem ne_sigma_of_lowerChar_eq {c : Char} (h : lowerChar c = [c]) : c ≠ 'Σ' := by
  rintro rfl
  revert h
  decide

/-! ## Alphanumeric characters -/

/-- White space is not alphanumeric. -/
theorem isAlphanumeric_of_isWhite {c : Char} (h : isWhite c = true) : isAlphanumeric c = false := by
  obtain ⟨r, hr, hfirst, hlast⟩ := Ranges.exists_of_holds h
  exact Ranges.not_holds_of_misses (List.all_eq_true.1 whiteSpace_miss_alphanumeric r hr)
    hfirst hlast

/-- What a run maps, and what it maps to, is alphanumeric. One run has gaps. -/
theorem alphanumeric_of_mem_lowerRuns : ∀ run ∈ lowerRuns,
    alphanumeric.covers run.target run.lastTarget = true ∧
      (alphanumeric.covers run.first run.last = true ∨
        ∀ k ≤ run.last - run.first, k % run.step = 0 → alphanumeric.holds (run.first + k) = true) := by
  decide +kernel

/-- Lowering does not change whether a character is alphanumeric. -/
theorem isAlphanumeric_head_lowerChar (c : Char) :
    (lowerChar c).head?.any isAlphanumeric = isAlphanumeric c := by
  rcases lowerChar_cases c with hc | ⟨hc, hlower⟩ | ⟨run, hrun, ⟨hfirst, hlast, hstep⟩, d, hlower, hd⟩
  · rw [hc]
    rfl
  · have hdotted : isAlphanumeric c = true := by
      rw [← Char.ofNat_toNat c, hc]
      decide
    rw [hlower, hdotted]
    decide
  · obtain ⟨htarget, hsource⟩ := alphanumeric_of_mem_lowerRuns run hrun
    have hto : isAlphanumeric d = true :=
      Ranges.holds_of_covers htarget (by omega) (by unfold CaseRun.lastTarget; omega)
    have hfrom : isAlphanumeric c = true := by
      rcases hsource with hcovers | heach
      · exact Ranges.holds_of_covers hcovers hfirst hlast
      · have hholds := heach (c.toNat - run.first) (by omega) hstep
        rwa [Nat.add_sub_cancel' hfirst] at hholds
    rw [hlower, hfrom]
    exact hto

/-- Characters that are equal in lowercase are both alphanumeric or neither. -/
theorem isAlphanumeric_eq_of_lowerChar_eq {c d : Char} (h : lowerChar c = lowerChar d) :
    isAlphanumeric c = isAlphanumeric d := by
  rw [← isAlphanumeric_head_lowerChar c, h, isAlphanumeric_head_lowerChar d]

theorem toNat_lt_of_isAlphanum {c : Char} (hc : c.isAlphanum = true) : c.toNat < 128 := by
  have hc : (c.isUpper || c.isLower || c.isDigit) = true := hc
  rw [Bool.or_eq_true, Bool.or_eq_true] at hc
  rcases hc with (hupper | hlower) | hdigit
  · have h : c.val ≥ 'A'.val ∧ c.val ≤ 'Z'.val := of_decide_eq_true hupper
    have hle : c.toNat ≤ 90 := UInt32.le_iff_toNat_le.1 h.2
    omega
  · have h : (decide (c.val ≥ 'a'.val) && decide (c.val ≤ 'z'.val)) = true := hlower
    rw [Bool.and_eq_true, decide_eq_true_eq, decide_eq_true_eq] at h
    have hle : c.toNat ≤ 122 := UInt32.le_iff_toNat_le.1 h.2
    omega
  · have hle : c.toNat ≤ 57 := (Char.isDigit_iff_toNat.1 hdigit).2
    omega

/-- A property of the ASCII letters and digits, checked one by one, holds of all of them. -/
theorem of_isAlphanum {p : Char → Prop} (h : ∀ n < 128, (Char.ofNat n).isAlphanum → p (Char.ofNat n))
    {c : Char} (hc : c.isAlphanum = true) : p c := by
  have := h c.toNat (toNat_lt_of_isAlphanum hc)
  rw [Char.ofNat_toNat] at this
  exact this hc

/-- An ASCII letter is lowered within ASCII. -/
theorem lowerChar_of_isAlphanum {x : Char} (hx : x.isAlphanum = true) :
    lowerChar x = [x.toLower] ∧ x.toLower.toNat < 128 ∧ isAlphanumeric x.toLower = true := by
  refine of_isAlphanum (p := fun x => lowerChar x = [x.toLower] ∧ x.toLower.toNat < 128 ∧
    isAlphanumeric x.toLower = true) ?_ hx
  decide +kernel

/-- What is lowered to the same as an ASCII letter or digit is alphanumeric. -/
theorem isAlphanumeric_of_lowerChar_eq {c x : Char} (hx : x.isAlphanum = true)
    (h : lowerChar c = lowerChar x) : isAlphanumeric c = true := by
  obtain ⟨hlower, hlt, halpha⟩ := lowerChar_of_isAlphanum hx
  rw [hlower] at h
  rcases lowerChar_cases c with hc | ⟨_, hc⟩ | ⟨run, hrun, ⟨hfirst, hlast, _⟩, d, hc, hd⟩
  · rw [hc, List.cons.injEq] at h
    rw [h.1, halpha]
  · rw [hc] at h
    simp at h
  · rw [hc, List.cons.injEq] at h
    rw [h.1] at hd
    -- only capitals and the sign for a unit are lowered to ASCII
    have hascii := (lowers_of_mem_lowerRuns run hrun).from_alphanumeric
    exact Ranges.holds_of_covers (hascii.resolve_left (by omega)) hfirst hlast

/-! ## The case of ASCII letters -/

/-- What does not tell the cases of ASCII letters apart, checked for one letter after the other. -/
theorem apply_toLower {α : Type} (f : Char → α)
    (h : ∀ k < 26, f (Char.ofNat (k + 97)) = f (Char.ofNat (k + 65))) (c : Char) :
    f c.toLower = f c := by
  by_cases hc : c.val ≥ 'A'.val ∧ c.val ≤ 'Z'.val
  · have hge : 65 ≤ c.toNat := UInt32.le_iff_toNat_le.1 hc.1
    have hle : c.toNat ≤ 90 := UInt32.le_iff_toNat_le.1 hc.2
    have hlower : c.toLower = Char.ofNat (c.toNat - 65 + 97) := by
      have hvalid : (c.toNat - 65 + 97).isValidChar := by
        unfold Nat.isValidChar
        omega
      have hshift : c.toLower.toNat = (c.toNat + 32) % 2 ^ 32 := congrArg Char.toNat (dif_pos hc)
      apply Char.ext
      apply UInt32.toNat_inj.1
      show c.toLower.toNat = (Char.ofNat (c.toNat - 65 + 97)).toNat
      rw [hshift, toNat_ofNat hvalid]
      omega
    have hupper : c = Char.ofNat (c.toNat - 65 + 65) := by
      rw [Nat.sub_add_cancel hge, Char.ofNat_toNat]
    calc f c.toLower = f (Char.ofNat (c.toNat - 65 + 97)) := by rw [hlower]
      _ = f (Char.ofNat (c.toNat - 65 + 65)) := h _ (by omega)
      _ = f c := by rw [← hupper]
  · have hkeep : c.toLower = c := dif_neg hc
    rw [hkeep]

theorem isWhite_toLower (c : Char) : isWhite c.toLower = isWhite c :=
  apply_toLower isWhite (by decide) c

theorem isAlphanumeric_toLower (c : Char) : isAlphanumeric c.toLower = isAlphanumeric c :=
  apply_toLower isAlphanumeric (by decide) c

theorem isCased_toLower (c : Char) : isCased c.toLower = isCased c :=
  apply_toLower isCased (by decide) c

theorem isCaseIgnorable_toLower (c : Char) : isCaseIgnorable c.toLower = isCaseIgnorable c :=
  apply_toLower isCaseIgnorable (by decide) c

theorem lowerChar_toLower (c : Char) : lowerChar c.toLower = lowerChar c :=
  apply_toLower lowerChar (by decide) c

theorem toLower_eq_sigma_iff (c : Char) : c.toLower = 'Σ' ↔ c = 'Σ' := by
  have h := apply_toLower (fun c => decide (c = 'Σ')) (by decide) c
  simpa using h

end Muster.Unicode
