import Muster.Proofs.Pattern.Offsets
import Muster.Proofs.Pattern.Recognition

/-!
# Slots filled before

A pattern is matched with slots that have been filled before, by the parts that stand before it or
by another line. Main statement: `matchAt_overwrites`. Whether the pattern matches and where it ends
does not depend on them, and afterwards the slots it fills stand over them. Slots that are filled by
a part which fails in the end count as long as only rows of parts are left, and are forgotten at the
choice or optional part around them.
-/

namespace Muster

open Muster.Text

namespace Bindings

/-- Bindings with others put over them. -/
def overwrite (bindings later : Bindings) : Bindings :=
  ⟨fun kind => (later.value? kind).or (bindings.value? kind)⟩

@[simp] theorem value?_overwrite (bindings later : Bindings) (kind : SlotKind) :
    (bindings.overwrite later).value? kind = (later.value? kind).or (bindings.value? kind) :=
  rfl

/-- What some fillings refer to is put over what was there. -/
theorem fill_eq_overwrite (scope : Scope) (bindings : Bindings) (fillings : List Filling) :
    bindings.fill scope fillings = bindings.overwrite (empty.fill scope fillings) := by
  refine ext fun kind => ?_
  rw [value?_overwrite, value?_fill, value?_fill]
  cases fillings.reverse.find? (·.kind = kind) <;> rfl

end Bindings

namespace Pattern

variable {scope : Scope}

/-- A pattern matches whatever has been filled before, and fills its slots over it. -/
theorem matchText_overwrites (scope : Scope) (pattern : Pattern) (text : List Char)
    (bindings : Bindings) :
    matchText scope pattern text bindings = ((matchText scope pattern text .empty).1,
      bindings.overwrite (matchText scope pattern text .empty).2) := by
  rw [matchText_eq, matchText_eq, Bindings.fill_eq_overwrite]

/-- No filling is left of ways none of which matches. -/
theorem recognizeFirst_of_none {ways : List Pattern} {text : List Char}
    (h : (recognizeFirst ways text).1 = none) : recognizeFirst ways text = (none, []) := by
  induction ways with
  | nil => rfl
  | cons way ways ih =>
    rw [recognizeFirst] at h ⊢
    generalize recognize way text = recognized at h ⊢
    rcases recognized with ⟨_ | rest, fillings⟩
    · exact ih h
    · cases h

/-- A choice that fails leaves the slots as they were. -/
theorem matchText_choice_of_none {ways : List Pattern} {text : List Char} {bindings : Bindings}
    (h : (matchText scope (.choice ways) text bindings).1 = none) :
    matchText scope (.choice ways) text bindings = (none, bindings) := by
  rw [matchText_eq] at h ⊢
  rw [recognize] at h ⊢
  rw [recognizeFirst_of_none h]
  rfl

/-- An optional part that fails takes nothing and leaves the slots as they were. -/
theorem matchText_optional_of_miss {part : Pattern} {text : List Char} {bindings : Bindings}
    (h : (matchText scope part text bindings).1 = none) :
    matchText scope (.optional part) text bindings = (some text, bindings) := by
  rw [matchText]
  generalize matchText scope part text bindings = matched at h ⊢
  rcases matched with ⟨_ | rest, filled⟩
  · rfl
  · cases h

/-- At a valid position of a line a pattern is matched with some slots filled before: it ends where
it ends with no slot filled, or fails as it does then, and the slots it has filled then are put over
those. A choice that fails leaves the slots as they were; so does an optional part whose pattern
fails, and it ends where it began. -/
theorem matchAt_overwrites (scope : Scope) {line : String} {position : Nat}
    (hposition : String.Pos.Raw.IsValid line ⟨position⟩) (bindings : Bindings) :
    (∀ pattern : Pattern, pattern.matchAt scope line position bindings =
      ((pattern.matchAt scope line position .empty).1,
        bindings.overwrite (pattern.matchAt scope line position .empty).2)) ∧
    (∀ ways, ((Pattern.choice ways).matchAt scope line position bindings).1 = none →
      ((Pattern.choice ways).matchAt scope line position bindings).2 = bindings) ∧
    ∀ part : Pattern, (part.matchAt scope line position bindings).1 = none →
      (Pattern.optional part).matchAt scope line position bindings = (some position, bindings) := by
  obtain ⟨before, text, hline, rfl⟩ := isValid_iff_exists_append.1 hposition
  -- at the position the rest of the line is matched
  have hmatch : ∀ (pattern : Pattern) (filled : Bindings),
      pattern.matchAt scope line (byteLength before) filled =
        ((pattern.matchText scope text filled).1.map
            fun rest => byteLength (before ++ text) - byteLength rest,
          (pattern.matchText scope text filled).2) := by
    intro pattern filled
    rw [matchAt, hline, dropBytes?_append]
  refine ⟨fun pattern => ?_, fun ways hnone => ?_, fun part hnone => ?_⟩
  · rw [hmatch, hmatch, matchText_overwrites scope pattern text bindings]
  · rw [hmatch, Option.map_eq_none_iff] at hnone
    rw [hmatch, matchText_choice_of_none hnone]
  · rw [hmatch, Option.map_eq_none_iff] at hnone
    rw [hmatch, matchText_optional_of_miss hnone, Option.map_some, byteLength_append,
      Nat.add_sub_cancel]

/-- A group fills the slot for a topic and then fails, alone and before a slot for a name, which is
filled for the second time. -/
theorem rename_overwrites :
    let line := "é Bob to x"
    let group := Pattern.sequence [.slot .topic none, .literal "never".toList]
    let pattern := Pattern.sequence [.optional group, .slot .name (some "to".toList)]
    let before := (Bindings.empty.insert .name (some (.text "ann"))).insert .topic
      (some (.text "parties"))
    String.Pos.Raw.IsValid line ⟨3⟩ ∧
      (pattern.matchAt {} line 3 before).1 = some 7 ∧
      (pattern.matchAt {} line 3 before).2.get? .name = some (.text "bob") ∧
      (pattern.matchAt {} line 3 before).2.get? .topic = some (.text "parties") ∧
      (group.matchAt {} line 3 before).2.get? .topic = some (.text "bob to x") ∧
      ((Pattern.choice [group]).matchAt {} line 3 before).2 = before ∧
      (Pattern.optional group).matchAt {} line 3 before = (some 3, before) := by
  intro line group pattern before
  have hvalid : String.Pos.Raw.IsValid line ⟨3⟩ :=
    isValid_iff_exists_append.2 ⟨"é ".toList, "Bob to x".toList, by decide +kernel,
      by decide +kernel⟩
  obtain ⟨hover, hchoice, hoptional⟩ := matchAt_overwrites {} hvalid before
  rw [hover pattern]
  refine ⟨hvalid, by decide +kernel, by decide +kernel, by decide +kernel, by decide +kernel,
    hchoice [group] ?_, hoptional group ?_⟩
  · decide +kernel
  · decide +kernel

end Pattern

end Muster
