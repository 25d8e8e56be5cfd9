import Muster.Proofs.Unicode.LetterCase

/-!
# Raising characters

What the tables say of the uppercase of a character, read off by evaluation as for the lowercase:
it is not empty (`upperChar_ne_nil`), it holds white space only if the character is white space
(`isWhite_of_mem_upperChar`), and a capital sigma in it stands alone (`upperChar_of_mem_sigma`).
-/

namespace Muster.Unicode

/-- What holds of a run of uppercase mappings. -/
structure CaseRun.Raises (run : CaseRun) : Prop where
  /-- It maps to no white space. -/
  to_nonwhite : whiteSpace.misses run.target run.lastTarget = true
  /-- It maps to code points of characters. -/
  to_char : run.lastTarget < 0xD800 ∨ (0xDFFF < run.target ∧ run.lastTarget < 0x110000)

instance (run : CaseRun) : Decidable run.Raises :=
  decidable_of_iff
    (whiteSpace.misses run.target run.lastTarget = true ∧
      (run.lastTarget < 0xD800 ∨ (0xDFFF < run.target ∧ run.lastTarget < 0x110000)))
    ⟨fun ⟨a, b⟩ => ⟨a, b⟩, fun ⟨a, b⟩ => ⟨a, b⟩⟩

theorem raises_of_mem_upperRuns : ∀ run ∈ upperRuns, run.Raises := by
  decide +kernel

/-- What a character is expanded to has no white space and no capital sigma. -/
theorem of_mem_upperExpansions : ∀ expansion ∈ upperExpansions, expansion.2 ≠ [] ∧
    ∀ code ∈ expansion.2, isWhite (Char.ofNat code) = false ∧ Char.ofNat code ≠ 'Σ' := by
  decide +kernel

/-- What the uppercase of a character can be: itself, an expansion, or the image under a run. -/
theorem upperChar_cases (c : Char) :
    upperChar c = [c] ∨
      (∃ expansion ∈ upperExpansions, upperChar c = expansion.2.map Char.ofNat) ∨
      ∃ run ∈ upperRuns, run.Maps c.toNat ∧ ∃ d, upperChar c = [d] ∧
        d.toNat = run.target + (c.toNat - run.first) := by
  cases hexpand : upperExpansions.lookup c.toNat with
  | some codes =>
    obtain ⟨below, above, hlist, _⟩ := List.lookup_eq_some_iff.1 hexpand
    have hmem : (c.toNat, codes) ∈ upperExpansions := by
      rw [hlist]
      simp
    exact Or.inr (Or.inl ⟨_, hmem, by simp only [upperChar, mapCase, hexpand]⟩)
  | none =>
    cases hlookup : CaseRun.lookup? upperRuns c.toNat with
    | none => exact Or.inl (by simp only [upperChar, mapCase, hexpand, hlookup])
    | some m =>
      obtain ⟨run, hmem, hmaps, rfl⟩ := CaseRun.exists_of_lookup? hlookup
      refine Or.inr (Or.inr ⟨run, hmem, hmaps, _,
        by simp only [upperChar, mapCase, hexpand, hlookup]; rfl, ?_⟩)
      -- the image is the code point of a character
      have hvalid := (raises_of_mem_upperRuns run hmem).to_char
      obtain ⟨_, hlast, _⟩ := hmaps
      unfold CaseRun.lastTarget at hvalid
      have hchar : (run.target + (c.toNat - run.first)).isValidChar := by
        unfold Nat.isValidChar
        omega
      exact toNat_ofNat hchar

theorem upperChar_ne_nil (c : Char) : upperChar c ≠ [] := by
  rcases upperChar_cases c with h | ⟨expansion, hmem, h⟩ | ⟨_, _, _, _, h, _⟩
  · simp [h]
  · have hne := (of_mem_upperExpansions expansion hmem).1
    simp [h, hne]
  · simp [h]

/-- Raising makes no white space. -/
theorem isWhite_of_mem_upperChar {c d : Char} (hc : isWhite c = false) (h : d ∈ upperChar c) :
    isWhite d = false := by
  rcases upperChar_cases c with hsame | ⟨expansion, hmem, hexpand⟩ |
    ⟨run, hrun, ⟨_, hlast, _⟩, e, hraise, he⟩
  · rw [hsame, List.mem_singleton] at h
    rw [h, hc]
  · rw [hexpand] at h
    obtain ⟨code, hcode, rfl⟩ := List.mem_map.1 h
    exact ((of_mem_upperExpansions expansion hmem).2 code hcode).1
  · rw [hraise, List.mem_singleton] at h
    subst h
    have hto := (raises_of_mem_upperRuns run hrun).to_nonwhite
    exact Ranges.not_holds_of_misses hto (by omega) (by unfold CaseRun.lastTarget; omega)

/-- No other character is raised together with a capital sigma. -/
theorem upperChar_of_mem_sigma {c : Char} (h : 'Σ' ∈ upperChar c) : upperChar c = ['Σ'] := by
  rcases upperChar_cases c with hsame | ⟨expansion, hmem, hexpand⟩ | ⟨_, _, _, d, hraise, _⟩
  · rw [hsame, List.mem_singleton] at h
    rw [hsame, ← h]
  · rw [hexpand] at h
    obtain ⟨code, hcode, hsigma⟩ := List.mem_map.1 h
    exact absurd hsigma ((of_mem_upperExpansions expansion hmem).2 code hcode).2
  · rw [hraise, List.mem_singleton] at h
    rw [hraise, ← h]

end Muster.Unicode
