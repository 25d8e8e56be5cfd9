import Mathlib.Data.List.Infix
import Mathlib.Data.List.Nodup
import Mathlib.Data.List.TakeWhile
import Mathlib.Tactic.Linarith
import Muster.Text.Message

/-!
# Filling in a message at once

A message is filled in one key after the other, each time in the whole text so far; `fillAtOnce`
fills in all placeholders of a text in one go and never looks at a value. A key can be filled
in after others, with the same outcome, exactly if its placeholder occurs as often then as it did at
first, or if it is shown as its placeholder (`fillAtOnce_fillAtOnce_iff`).

A text is made up of placeholders of the given keys and of other characters (`parts_induction`): as
there are no braces in a key, two placeholders never overlap.
-/

namespace Muster.Text

/-- Replaces each placeholder of a text by the value of its key. The first `skip` characters belong
to the placeholder found last and are dropped. -/
def fillFrom (values : List (List Char × List Char)) (skip : Nat) : List Char → List Char
  | [] => []
  | c :: cs =>
    match skip with
    | skip + 1 => fillFrom values skip cs
    | 0 =>
      match values.find? fun entry => (placeholder entry.1).isPrefixOf (c :: cs) with
      | some (key, value) => value ++ fillFrom values ((placeholder key).length - 1) cs
      | none => c :: fillFrom values 0 cs

/-- Fills in a message, all keys at once. -/
def fillAtOnce (values : List (List Char × List Char)) (message : List Char) : List Char :=
  fillFrom values 0 message

/-- How often a text that is not empty occurs in another one. -/
def occurrences (pattern s : List Char) : Nat := s.tails.countP (pattern.isPrefixOf ·)

/-- There is no brace in a text. -/
def NoBraces (s : List Char) : Prop := '{' ∉ s ∧ '}' ∉ s

instance (s : List Char) : Decidable (NoBraces s) :=
  inferInstanceAs (Decidable ('{' ∉ s ∧ '}' ∉ s))

/-- The keys are distinct, and there are no braces in them. -/
structure Keyed (values : List (List Char × List Char)) : Prop where
  nodup : (values.map (·.1)).Nodup
  noBraces : ∀ entry ∈ values, NoBraces entry.1

variable {values earlier : List (List Char × List Char)} {key value : List Char}

theorem Keyed.of_append (h : Keyed (earlier ++ values)) : Keyed earlier where
  nodup := by
    have hnodup := h.nodup
    rw [List.map_append] at hnodup
    exact (List.nodup_append.1 hnodup).1
  noBraces entry hentry := h.noBraces entry (List.mem_append_left _ hentry)

theorem Keyed.last (h : Keyed (earlier ++ [(key, value)])) : Keyed [(key, value)] where
  nodup := List.pairwise_singleton _ _
  noBraces entry hentry := h.noBraces entry (List.mem_append_right _ hentry)

theorem Keyed.not_mem (h : Keyed (earlier ++ [(key, value)])) :
    ∀ entry ∈ earlier, entry.1 ≠ key := by
  have hnodup := h.nodup
  rw [List.map_append, List.nodup_append] at hnodup
  exact fun entry hentry => hnodup.2.2 entry.1 (List.mem_map_of_mem hentry) key
    (List.mem_singleton_self key)

/-! ## Placeholders -/

theorem placeholder_append (key rest : List Char) :
    placeholder key ++ rest = '{' :: (key ++ '}' :: rest) := by
  rw [placeholder, List.cons_append, List.cons_append, List.append_assoc]
  rfl

theorem length_placeholder (key : List Char) : (placeholder key).length = key.length + 2 := by
  rw [placeholder, List.cons_append, List.length_cons, List.length_append]
  rfl

theorem takeWhile_key (hkey : '}' ∉ key) (rest : List Char) :
    (key ++ '}' :: rest).takeWhile (· != '}') = key := by
  have hletters : ∀ c ∈ key, (c != '}') = true := by
    intro c hc
    rw [bne_iff_ne]
    rintro rfl
    exact hkey hc
  rw [List.takeWhile_append_of_pos hletters]
  simp

/-- At one place of a text there is only one placeholder. -/
theorem key_eq_of_starts {other s : List Char} (hkey : NoBraces key) (hother : NoBraces other)
    (h : placeholder key <+: s) (h' : placeholder other <+: s) : key = other := by
  obtain ⟨rest, hrest⟩ := h
  obtain ⟨rest', hrest'⟩ := h'
  rw [placeholder_append] at hrest hrest'
  have htail := (List.cons.inj (hrest.trans hrest'.symm)).2
  rw [← takeWhile_key hkey.2 rest, htail, takeWhile_key hother.2]

theorem not_starts_of_ne {c : Char} (hc : c ≠ '{') (cs : List Char) :
    ¬ placeholder key <+: c :: cs := by
  rintro ⟨rest, hrest⟩
  rw [placeholder_append] at hrest
  exact hc (List.cons.inj hrest).1.symm

/-! ## Filling in at once -/

theorem fillFrom_skip (skipped rest : List Char) :
    fillFrom values skipped.length (skipped ++ rest) = fillAtOnce values rest := by
  induction skipped with
  | nil => rfl
  | cons c cs ih => exact ih

theorem fillAtOnce_placeholder (h : Keyed values) (hmem : (key, value) ∈ values)
    (rest : List Char) :
    fillAtOnce values (placeholder key ++ rest) = value ++ fillAtOnce values rest := by
  have hkey : NoBraces key := h.noBraces _ hmem
  have hfind : values.find? (fun entry => (placeholder entry.1).isPrefixOf
      ('{' :: (key ++ '}' :: rest))) = some (key, value) := by
    have hstarts : placeholder key <+: '{' :: (key ++ '}' :: rest) :=
      ⟨rest, placeholder_append key rest⟩
    cases hfound : values.find? (fun entry => (placeholder entry.1).isPrefixOf
      ('{' :: (key ++ '}' :: rest))) with
    | none =>
      have hnone := List.find?_eq_none.1 hfound _ hmem
      exact absurd (List.isPrefixOf_iff_prefix.2 hstarts) hnone
    | some entry =>
      -- another entry that is found there has the same key
      have hentry := List.mem_of_find?_eq_some hfound
      have hother : (placeholder entry.1).isPrefixOf ('{' :: (key ++ '}' :: rest)) = true :=
        by simpa using List.find?_some hfound
      have hsame := key_eq_of_starts (h.noBraces _ hentry) hkey
        (List.isPrefixOf_iff_prefix.1 hother) hstarts
      rw [List.inj_on_of_nodup_map h.nodup hentry hmem hsame]
  have hskip : (placeholder key).length - 1 = (key ++ ['}']).length := by
    rw [length_placeholder, List.length_append]
    rfl
  have hrest : key ++ '}' :: rest = (key ++ ['}']) ++ rest := List.append_cons ..
  rw [placeholder_append, fillAtOnce, fillFrom, hfind]
  show value ++ fillFrom values ((placeholder key).length - 1) (key ++ '}' :: rest) = _
  rw [hskip, hrest, fillFrom_skip]

theorem fillAtOnce_cons {c : Char} {cs : List Char}
    (h : ∀ entry ∈ values, ¬ placeholder entry.1 <+: c :: cs) :
    fillAtOnce values (c :: cs) = c :: fillAtOnce values cs := by
  have hfind : values.find? (fun entry => (placeholder entry.1).isPrefixOf (c :: cs)) = none :=
    List.find?_eq_none.2 fun entry hentry hstarts =>
      h entry hentry (List.isPrefixOf_iff_prefix.1 hstarts)
  rw [fillAtOnce, fillFrom, hfind]
  rfl

theorem fillAtOnce_nil (message : List Char) : fillAtOnce [] message = message := by
  induction message with
  | nil => rfl
  | cons c cs ih => rw [fillAtOnce_cons fun _ h => absurd h List.not_mem_nil, ih]

theorem fillAtOnce_append {s : List Char} (h : '{' ∉ s) (rest : List Char) :
    fillAtOnce values (s ++ rest) = s ++ fillAtOnce values rest := by
  induction s with
  | nil => rfl
  | cons c cs ih =>
    rw [List.mem_cons, not_or] at h
    rw [List.cons_append, fillAtOnce_cons fun _ _ => not_starts_of_ne (Ne.symm h.1) _, ih h.2,
      List.cons_append]

theorem fillAtOnce_of_not_mem {s : List Char} (h : '{' ∉ s) : fillAtOnce values s = s := by
  calc
    fillAtOnce values s = fillAtOnce values (s ++ []) := by rw [List.append_nil]
    _ = s ++ [] := fillAtOnce_append h []
    _ = s := List.append_nil s

/-- The placeholder of another key stays. -/
theorem fillAtOnce_other (h : Keyed values) (hkey : NoBraces key)
    (hother : ∀ entry ∈ values, entry.1 ≠ key) (rest : List Char) :
    fillAtOnce values (placeholder key ++ rest) = placeholder key ++ fillAtOnce values rest := by
  have hclose : '{' ∉ key ++ ['}'] := by simp [hkey.1]
  have hnot : ∀ entry ∈ values, ¬ placeholder entry.1 <+: '{' :: (key ++ '}' :: rest) :=
    fun entry hentry hstarts => hother entry hentry
      (key_eq_of_starts (h.noBraces _ hentry) hkey hstarts ⟨rest, placeholder_append key rest⟩)
  rw [placeholder_append, fillAtOnce_cons hnot, List.append_cons, fillAtOnce_append hclose,
    placeholder_append, ← List.append_cons]

/-- To replace one placeholder is to fill in one key. -/
theorem replaceAll_eq_fillAtOnce (s : List Char) :
    replaceAll (placeholder key) value s = fillAtOnce [(key, value)] s := by
  have hfrom : ∀ skip, replaceFrom (placeholder key) value skip s =
      fillFrom [(key, value)] skip s := by
    induction s with
    | nil => exact fun _ => rfl
    | cons c cs ih =>
      intro skip
      cases skip with
      | succ skip => exact ih skip
      | zero =>
        rw [replaceFrom, fillFrom, List.find?_singleton, ih, ih]
        split <;> rfl
  exact hfrom 0

/-- Every text is made up of placeholders of the given keys and of other characters. -/
@[elab_as_elim]
theorem parts_induction (values : List (List Char × List Char)) {motive : List Char → Prop}
    (nil : motive [])
    (placeholder : ∀ key value rest, (key, value) ∈ values → motive rest →
      motive (placeholder key ++ rest))
    (char : ∀ c cs, (∀ entry ∈ values, ¬ Text.placeholder entry.1 <+: c :: cs) → motive cs →
      motive (c :: cs)) (s : List Char) : motive s := by
  induction hlength : s.length using Nat.strongRecOn generalizing s with
  | ind n ih =>
    by_cases hfound : ∃ entry ∈ values, Text.placeholder entry.1 <+: s
    · obtain ⟨⟨key, value⟩, hmem, rest, rfl⟩ := hfound
      refine placeholder key value rest hmem (ih rest.length ?_ rest rfl)
      rw [← hlength, List.length_append, length_placeholder]
      omega
    · push Not at hfound
      cases s with
      | nil => exact nil
      | cons c cs => exact char c cs hfound (ih cs.length (by rw [← hlength]; simp) cs rfl)

/-! ## Occurrences -/

theorem occurrences_cons (key : List Char) (c : Char) (cs : List Char) :
    occurrences (placeholder key) (c :: cs) =
      occurrences (placeholder key) cs +
        if (placeholder key).isPrefixOf (c :: cs) then 1 else 0 := by
  rw [occurrences, List.tails_cons, List.countP_cons, occurrences]

theorem occurrences_cons_of_not_starts {c : Char} {cs : List Char}
    (h : ¬ placeholder key <+: c :: cs) :
    occurrences (placeholder key) (c :: cs) = occurrences (placeholder key) cs := by
  rw [occurrences_cons, if_neg fun hstarts => h (List.isPrefixOf_iff_prefix.1 hstarts),
    Nat.add_zero]

theorem occurrences_le_append (key s rest : List Char) :
    occurrences (placeholder key) rest ≤ occurrences (placeholder key) (s ++ rest) := by
  induction s with
  | nil => exact le_rfl
  | cons c cs ih =>
    rw [List.cons_append, occurrences_cons]
    exact ih.trans (Nat.le_add_right _ _)

/-- No placeholder begins where there is no opening brace. -/
theorem occurrences_append {s : List Char} (h : '{' ∉ s) (rest : List Char) :
    occurrences (placeholder key) (s ++ rest) = occurrences (placeholder key) rest := by
  induction s with
  | nil => rfl
  | cons c cs ih =>
    rw [List.mem_cons, not_or] at h
    rw [List.cons_append, occurrences_cons_of_not_starts (not_starts_of_ne (Ne.symm h.1) _), ih h.2]

theorem occurrences_placeholder {other : List Char} (hkey : NoBraces key) (hother : NoBraces other)
    (rest : List Char) :
    occurrences (placeholder key) (placeholder other ++ rest) =
      occurrences (placeholder key) rest + if other = key then 1 else 0 := by
  have hclose : '{' ∉ other ++ ['}'] := by simp [hother.1]
  have hstarts : (placeholder key).isPrefixOf ('{' :: (other ++ '}' :: rest)) = true ↔
      other = key := by
    rw [List.isPrefixOf_iff_prefix]
    constructor
    · exact fun h => key_eq_of_starts hother hkey ⟨rest, placeholder_append other rest⟩ h
    · rintro rfl
      exact ⟨rest, placeholder_append other rest⟩
  rw [placeholder_append, occurrences_cons, List.append_cons, occurrences_append hclose,
    ← List.append_cons]
  simp only [hstarts]

/-- A key is filled in behind a text in which its placeholder does not begin. -/
theorem fillAtOnce_append_of_occurrences {s rest : List Char}
    (h : occurrences (placeholder key) (s ++ rest) = occurrences (placeholder key) rest) :
    fillAtOnce [(key, value)] (s ++ rest) = s ++ fillAtOnce [(key, value)] rest := by
  induction s with
  | nil => rfl
  | cons c cs ih =>
    have hle := occurrences_le_append key cs rest
    rw [List.cons_append, occurrences_cons] at h
    have hnot : ¬ placeholder key <+: c :: (cs ++ rest) := by
      intro hstarts
      rw [if_pos (List.isPrefixOf_iff_prefix.2 hstarts)] at h
      omega
    rw [List.cons_append, fillAtOnce_cons fun entry hentry => by
      rwa [List.mem_singleton.1 hentry], ih (by omega), List.cons_append]

/-! ## One more key -/

/-- The first text becomes the second one when a part of it is replaced `n` times by a value. -/
inductive Replaced (part value : List Char) : Nat → List Char → List Char → Prop where
  | nil : Replaced part value 0 [] []
  | keep {n : Nat} {s t : List Char} (c : Char) (h : Replaced part value n s t) :
    Replaced part value n (c :: s) (c :: t)
  | replace {n : Nat} {s t : List Char} (h : Replaced part value n s t) :
    Replaced part value (n + 1) (part ++ s) (value ++ t)

namespace Replaced

variable {part : List Char} {n m : Nat} {s t : List Char}

theorem append (h : Replaced part value n s t) (kept : List Char) :
    Replaced part value n (kept ++ s) (kept ++ t) := by
  induction kept with
  | nil => exact h
  | cons c cs ih => exact ih.keep c

theorem eq_of_same (h : Replaced part part n s t) : s = t := by
  induction h with
  | nil => rfl
  | keep c _ ih => rw [ih]
  | replace _ ih => rw [ih]

theorem length_eq (h : Replaced part value n s t) :
    t.length + n * part.length = s.length + n * value.length := by
  induction h with
  | nil => rw [Nat.zero_mul, Nat.zero_mul]
  | keep c _ ih =>
    rw [List.length_cons, List.length_cons]
    omega
  | replace _ ih =>
    rw [List.length_append, List.length_append, Nat.succ_mul, Nat.succ_mul]
    omega

/-- How many characters differ. -/
theorem mismatches_eq (hlength : part.length = value.length) (h : Replaced part value n s t) :
    (s.zip t).countP (fun (c, d) => c != d) =
      n * (part.zip value).countP (fun (c, d) => c != d) := by
  induction h with
  | nil => rw [Nat.zero_mul]; rfl
  | keep c _ ih =>
    rw [List.zip_cons_cons, List.countP_cons, ih]
    simp
  | replace _ ih =>
    rw [List.zip_append hlength, List.countP_append, ih, Nat.succ_mul, Nat.add_comm]

theorem mismatches_pos {part value : List Char} (hlength : part.length = value.length)
    (hne : part ≠ value) : 0 < (part.zip value).countP (fun (c, d) => c != d) := by
  by_contra hzero
  refine hne (List.ext_getElem hlength fun i hpart hvalue => ?_)
  have hnone := List.countP_eq_zero.1 (Nat.eq_zero_of_not_pos hzero) (part[i], value[i])
    (List.mem_iff_getElem.2 ⟨i, by simpa using ⟨hpart, hvalue⟩, by simp⟩)
  simpa using hnone

/-- Two texts tell how often a part was replaced by another one. -/
theorem count_unique (h : Replaced part value n s t) (h' : Replaced part value m s t)
    (hne : part ≠ value) : n = m := by
  by_cases hlength : part.length = value.length
  · have hpos := mismatches_pos hlength hne
    have hcount := (h.mismatches_eq hlength).symm.trans (h'.mismatches_eq hlength)
    exact Nat.eq_of_mul_eq_mul_right hpos hcount
  · have hn := h.length_eq
    have hm := h'.length_eq
    rcases Nat.lt_or_gt_of_ne hlength with hlt | hlt
    · nlinarith
    · nlinarith

end Replaced

section

variable (h : Keyed (earlier ++ [(key, value)])) (s : List Char)

include h

/-- What one more key changes: as many parts as its placeholder occurs in the text. -/
theorem replaced_fillAtOnce :
    Replaced (placeholder key) value (occurrences (placeholder key) s) (fillAtOnce earlier s)
      (fillAtOnce (earlier ++ [(key, value)]) s) := by
  have hkey : NoBraces key := h.noBraces (key, value) (by simp)
  induction s using parts_induction (earlier ++ [(key, value)]) with
  | nil => exact .nil
  | placeholder other shown rest hmem ih =>
    have hother : NoBraces other := h.noBraces _ hmem
    rw [occurrences_placeholder hkey hother, fillAtOnce_placeholder h hmem]
    rcases List.mem_append.1 hmem with hearlier | hlast
    · rw [if_neg (h.not_mem _ hearlier), Nat.add_zero,
        fillAtOnce_placeholder h.of_append hearlier]
      exact ih.append shown
    · obtain ⟨rfl, rfl⟩ := Prod.mk.inj (List.mem_singleton.1 hlast)
      rw [if_pos rfl, fillAtOnce_other h.of_append hother h.not_mem]
      exact ih.replace
  | char c cs hnot ih =>
    rw [occurrences_cons_of_not_starts (hnot (key, value) (by simp)), fillAtOnce_cons hnot,
      fillAtOnce_cons fun entry hentry => hnot entry (List.mem_append_left _ hentry)]
    exact ih.keep c

/-- Filling in takes no placeholder of another key away. -/
theorem occurrences_le_fillAtOnce :
    occurrences (placeholder key) s ≤ occurrences (placeholder key) (fillAtOnce earlier s) := by
  have hkey : NoBraces key := h.noBraces (key, value) (by simp)
  induction s using parts_induction (earlier ++ [(key, value)]) with
  | nil => exact le_rfl
  | placeholder other shown rest hmem ih =>
    have hother : NoBraces other := h.noBraces _ hmem
    rw [occurrences_placeholder hkey hother]
    rcases List.mem_append.1 hmem with hearlier | hlast
    · rw [if_neg (h.not_mem _ hearlier), Nat.add_zero,
        fillAtOnce_placeholder h.of_append hearlier]
      exact ih.trans (occurrences_le_append key shown _)
    · obtain ⟨rfl, rfl⟩ := Prod.mk.inj (List.mem_singleton.1 hlast)
      rw [fillAtOnce_other h.of_append hother h.not_mem, occurrences_placeholder hkey hother]
      exact Nat.add_le_add_right ih _
  | char c cs hnot ih =>
    rw [occurrences_cons_of_not_starts (hnot (key, value) (by simp)),
      fillAtOnce_cons fun entry hentry => hnot entry (List.mem_append_left _ hentry)]
    exact ih.trans (occurrences_le_append key [c] _)

/-- Where no placeholder of a key has come in, the key is filled in as if it had been at once. -/
theorem fillAtOnce_fillAtOnce
    (hsame : occurrences (placeholder key) (fillAtOnce earlier s) =
      occurrences (placeholder key) s) :
    fillAtOnce [(key, value)] (fillAtOnce earlier s) =
      fillAtOnce (earlier ++ [(key, value)]) s := by
  have hkey : NoBraces key := h.noBraces (key, value) (by simp)
  induction s using parts_induction (earlier ++ [(key, value)]) with
  | nil => rfl
  | placeholder other shown rest hmem ih =>
    have hother : NoBraces other := h.noBraces _ hmem
    have hrest := occurrences_le_fillAtOnce h rest
    rw [occurrences_placeholder hkey hother] at hsame
    rw [fillAtOnce_placeholder h hmem]
    rcases List.mem_append.1 hmem with hearlier | hlast
    · -- nothing has come in with the value, and nothing behind it
      rw [if_neg (h.not_mem _ hearlier), Nat.add_zero,
        fillAtOnce_placeholder h.of_append hearlier] at hsame
      have hshown := occurrences_le_append key shown (fillAtOnce earlier rest)
      rw [fillAtOnce_placeholder h.of_append hearlier,
        fillAtOnce_append_of_occurrences (by omega), ih (by omega)]
    · obtain ⟨rfl, rfl⟩ := Prod.mk.inj (List.mem_singleton.1 hlast)
      rw [fillAtOnce_other h.of_append hother h.not_mem, occurrences_placeholder hkey hother]
        at hsame
      rw [fillAtOnce_other h.of_append hother h.not_mem,
        fillAtOnce_placeholder h.last (List.mem_singleton_self _), ih (by omega)]
  | char c cs hnot ih =>
    have hearlier : ∀ entry ∈ earlier, ¬ placeholder entry.1 <+: c :: cs :=
      fun entry hentry => hnot entry (List.mem_append_left _ hentry)
    have hplain : ¬ placeholder key <+: c :: cs := hnot (key, value) (by simp)
    have hrest := occurrences_le_fillAtOnce h cs
    have hc := occurrences_le_append key [c] (fillAtOnce earlier cs)
    rw [fillAtOnce_cons hearlier, occurrences_cons_of_not_starts hplain, ← List.singleton_append]
      at hsame
    have hfirst : occurrences (placeholder key) ([c] ++ fillAtOnce earlier cs) =
        occurrences (placeholder key) (fillAtOnce earlier cs) := by omega
    rw [fillAtOnce_cons hearlier, fillAtOnce_cons hnot, ← ih (by omega)]
    exact fillAtOnce_append_of_occurrences hfirst

/-- A key can be filled in after others as if it had been at once exactly if none of its
placeholders has come in with them, or it is shown as its placeholder. -/
theorem fillAtOnce_fillAtOnce_iff :
    fillAtOnce [(key, value)] (fillAtOnce earlier s) = fillAtOnce (earlier ++ [(key, value)]) s ↔
      value = placeholder key ∨
        occurrences (placeholder key) (fillAtOnce earlier s) = occurrences (placeholder key) s := by
  have hlast : Keyed ([] ++ [(key, value)]) := h.last
  have hsteps := replaced_fillAtOnce hlast (fillAtOnce earlier s)
  rw [fillAtOnce_nil, List.nil_append] at hsteps
  have honce := replaced_fillAtOnce h s
  constructor
  · intro heq
    rw [heq] at hsteps
    by_contra hnot
    rw [not_or] at hnot
    exact hnot.2 (hsteps.count_unique honce (Ne.symm hnot.1))
  · rintro (rfl | hsame)
    · rw [← hsteps.eq_of_same, ← honce.eq_of_same]
    · exact fillAtOnce_fillAtOnce h s hsame

end

end Muster.Text
