import Mathlib.Data.List.Forall2

/-!
# Chains of steps that may fail

A chain of steps succeeds when each step does. What one successful step preserves, a fold over many
of them preserves.
-/

namespace Muster

variable {ε α β σ : Type}

/-- A chain of two steps succeeds if the first does, and then the second. -/
theorem bind_eq_ok_iff {x : Except ε α} {f : α → Except ε β} {b : β} :
    x >>= f = .ok b ↔ ∃ a, x = .ok a ∧ f a = .ok b := by
  cases x with
  | error e =>
    constructor
    · intro h
      cases h
    · rintro ⟨a, ha, _⟩
      cases ha
  | ok a =>
    constructor
    · intro h
      exact ⟨a, rfl, h⟩
    · rintro ⟨a', ha, h⟩
      cases ha
      exact h

/-- A chain of two steps fails if the first does, or if it succeeds and the second fails. -/
theorem bind_eq_error_iff {x : Except ε α} {f : α → Except ε β} {e : ε} :
    x >>= f = .error e ↔ x = .error e ∨ ∃ a, x = .ok a ∧ f a = .error e := by
  cases x with
  | error e' =>
    constructor
    · intro h
      cases h
      exact Or.inl rfl
    · rintro (h | ⟨a, ha, _⟩)
      · cases h
        rfl
      · cases ha
  | ok a =>
    constructor
    · intro h
      exact Or.inr ⟨a, rfl, h⟩
    · rintro (h | ⟨a', ha, h⟩)
      · cases h
      · cases ha
        exact h

/-- What fails for the reasons that `o` gives succeeds where `o` gives none. -/
theorem exists_ok_iff {x : Except ε α} {o : Option ε} (h : ∀ e, x = .error e ↔ o = some e) :
    (∃ a, x = .ok a) ↔ o = none := by
  cases x with
  | error e =>
    have ho : o = some e := (h e).1 rfl
    rw [ho]
    simp
  | ok a =>
    have ho : o = none := Option.eq_none_iff_forall_ne_some.2 fun e he => by cases (h e).2 he
    rw [ho]
    simp

/-- A result that passes a check is there. -/
theorem exists_ok_of_any {x : Except ε α} {p : α → Bool} (h : x.toOption.any p = true) :
    ∃ a, x = .ok a ∧ p a = true := by
  cases x with
  | error e => cases h
  | ok a => exact ⟨a, rfl, h⟩

/-- What a list of steps yields comes from one of them. -/
theorem mem_of_mapM {f : α → Except ε β} {items : List α} {results : List β}
    (h : items.mapM f = .ok results) {b : β} (hb : b ∈ results) : ∃ a ∈ items, f a = .ok b := by
  induction items generalizing results with
  | nil =>
    cases h
    cases hb
  | cons a items ih =>
    rw [List.mapM_cons] at h
    obtain ⟨first, hfirst, h⟩ := bind_eq_ok_iff.1 h
    obtain ⟨others, hothers, h⟩ := bind_eq_ok_iff.1 h
    cases h
    rcases List.mem_cons.1 hb with rfl | hb
    · exact ⟨a, by simp, hfirst⟩
    · obtain ⟨a', ha', hf⟩ := ih hothers hb
      exact ⟨a', by simp [ha'], hf⟩

/-- Steps taken one after the other succeed if each of them does, and yield what each of them yields. -/
theorem mapM_eq_ok_iff {f : α → Except ε β} {items : List α} {results : List β} :
    items.mapM f = .ok results ↔ List.Forall₂ (fun a b => f a = .ok b) items results := by
  induction items generalizing results with
  | nil =>
    rw [List.forall₂_nil_left_iff]
    constructor
    · intro h
      cases h
      rfl
    · rintro rfl
      rfl
  | cons a items ih =>
    rw [List.mapM_cons, bind_eq_ok_iff, List.forall₂_cons_left_iff]
    constructor
    · rintro ⟨first, hfirst, h⟩
      obtain ⟨others, hothers, h⟩ := bind_eq_ok_iff.1 h
      cases h
      exact ⟨first, others, hfirst, ih.1 hothers, rfl⟩
    · rintro ⟨first, others, hfirst, hothers, rfl⟩
      exact ⟨first, hfirst, bind_eq_ok_iff.2 ⟨others, ih.2 hothers, rfl⟩⟩

/-- Steps taken one after the other succeed if each of them does. -/
theorem exists_mapM_iff {f : α → Except ε β} {items : List α} :
    (∃ results, items.mapM f = .ok results) ↔ ∀ a ∈ items, ∃ b, f a = .ok b := by
  induction items with
  | nil => exact ⟨fun _ _ h => (by cases h), fun _ => ⟨[], rfl⟩⟩
  | cons a items ih =>
    rw [List.forall_mem_cons, ← ih]
    constructor
    · rintro ⟨results, h⟩
      obtain ⟨first, others, hfirst, hothers, _⟩ := List.forall₂_cons_left_iff.1 (mapM_eq_ok_iff.1 h)
      exact ⟨⟨first, hfirst⟩, others, mapM_eq_ok_iff.2 hothers⟩
    · rintro ⟨⟨first, hfirst⟩, others, hothers⟩
      exact ⟨first :: others, mapM_eq_ok_iff.2 (.cons hfirst (mapM_eq_ok_iff.1 hothers))⟩

/-- Steps taken one after the other fail as the first of them that fails. -/
theorem mapM_eq_error_iff {f : α → Except ε β} {items : List α} {e : ε} :
    items.mapM f = .error e ↔ ∃ before a after, items = before ++ a :: after ∧
      (∀ b ∈ before, ∃ result, f b = .ok result) ∧ f a = .error e := by
  induction items with
  | nil =>
    constructor
    · intro h
      cases h
    · rintro ⟨before, a, after, h, _⟩
      cases before <;> cases h
  | cons a items ih =>
    rw [List.mapM_cons, bind_eq_error_iff]
    constructor
    · rintro (hfirst | ⟨first, hfirst, h⟩)
      · exact ⟨[], a, items, rfl, fun _ h => (by cases h), hfirst⟩
      · rcases bind_eq_error_iff.1 h with hothers | ⟨_, _, h⟩
        · obtain ⟨before, b, after, hitems, hbefore, hb⟩ := ih.1 hothers
          refine ⟨a :: before, b, after, by rw [hitems, List.cons_append], ?_, hb⟩
          exact List.forall_mem_cons.2 ⟨⟨first, hfirst⟩, hbefore⟩
        · cases h
    · rintro ⟨before, b, after, hitems, hbefore, hb⟩
      cases before with
      | nil =>
        obtain ⟨rfl, rfl⟩ := List.cons.inj hitems
        exact Or.inl hb
      | cons c before =>
        obtain ⟨rfl, rfl⟩ := List.cons.inj hitems
        obtain ⟨⟨first, hfirst⟩, hbefore⟩ := List.forall_mem_cons.1 hbefore
        have hothers := ih.2 ⟨before, b, after, rfl, hbefore, hb⟩
        exact Or.inr ⟨first, hfirst, bind_eq_error_iff.2 (Or.inl hothers)⟩

/-- What every step of a fold preserves holds at its end. -/
theorem foldlM_preserves {step : σ → α → Except ε σ} {inv : σ → Prop} {items : List α}
    (hstep : ∀ s, inv s → ∀ a ∈ items, ∀ t, step s a = .ok t → inv t) {s t : σ} (hs : inv s)
    (hfold : items.foldlM step s = .ok t) : inv t := by
  induction items generalizing s with
  | nil =>
    cases hfold
    exact hs
  | cons a items ih =>
    rw [List.foldlM_cons, bind_eq_ok_iff] at hfold
    obtain ⟨next, hnext, hrest⟩ := hfold
    have hinv : inv next := hstep s hs a (by simp) next hnext
    exact ih (fun s hs b hb => hstep s hs b (by simp [hb])) hinv hrest

end Muster
