import Muster.Roster.Party

/-!
# Sums of 32 bits

Two things are added up in a game: the statistics of a species and the modifiers of a background, and
the number of a member who joins and one. Both sums have 32 bits. What becomes of a sum that does not
fit is up to the build of the program: for release it wraps around, as it does in `Stats.apply` and
`Party.add`; for development the program stops there.
-/

namespace Muster

/-- What is added up in 32 bits. -/
inductive Addition where
  /-- Statistics and their modifiers. -/
  | stats (base modifiers : Stats)
  /-- The number of a member who joins and one. -/
  | number (id : Nat)
  deriving DecidableEq, Repr

namespace Addition

/-- The sum fits into its 32 bits. -/
def Fits : Addition → Prop
  | .stats base modifiers => base.Fits modifiers
  | .number id => id + 1 < UInt32.size

/-- Whether it is the number of a member who joins that one is added to. -/
def isNumber : Addition → Bool
  | .stats _ _ => false
  | .number _ => true

/-- How many members have joined, by what has been added up. -/
def joined (additions : List Addition) : Nat := additions.countP (·.isNumber)

instance (addition : Addition) : Decidable addition.Fits :=
  match addition with
  | .stats base modifiers => inferInstanceAs (Decidable (base.Fits modifiers))
  | .number id => inferInstanceAs (Decidable (id + 1 < UInt32.size))

end Addition

end Muster
