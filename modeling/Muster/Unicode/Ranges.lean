/-!
# Sets of code points

A property of characters is held as the ascending list of its ranges, both ends included.
`Ranges.holds` walks such a list and stops at the first range that lies above the code point.
-/

namespace Muster.Unicode

/-- A set of code points: its maximal ranges in ascending order, both ends included. -/
abbrev Ranges := List (Nat × Nat)

/-- Whether a code point lies in one of the ranges. -/
def Ranges.holds : Ranges → Nat → Bool
  | [], _ => false
  | (first, last) :: above, n =>
    if n < first then false else if n ≤ last then true else Ranges.holds above n

/-- A code point that a set holds lies between the ends of one of its ranges. -/
theorem Ranges.exists_of_holds {ranges : Ranges} {n : Nat} (h : ranges.holds n = true) :
    ∃ r ∈ ranges, r.1 ≤ n ∧ n ≤ r.2 := by
  induction ranges with
  | nil => simp [Ranges.holds] at h
  | cons r above ih =>
    obtain ⟨first, last⟩ := r
    unfold Ranges.holds at h
    split at h
    · simp at h
    · -- the code point is in the first range or in one of those above
      split at h
      · exact ⟨(first, last), by simp, by simp; omega⟩
      · obtain ⟨r, hr, hn⟩ := ih h
        exact ⟨r, by simp [hr], hn⟩

end Muster.Unicode
