/-!
# Digits

Natural numbers that are written in some base of at most sixteen. Letters are digits in either case.
-/

namespace Muster.Text

/-- The value of a digit. -/
def digitValue? (base : Nat) (c : Char) : Option Nat :=
  let value :=
    if '0' ≤ c && c ≤ '9' then some (c.toNat - '0'.toNat)
    else if 'a' ≤ c && c ≤ 'f' then some (c.toNat - 'a'.toNat + 10)
    else if 'A' ≤ c && c ≤ 'F' then some (c.toNat - 'A'.toNat + 10)
    else none
  value.filter (· < base)

/-- The number with the given digits, of which there must be one at least. -/
def natural? (base : Nat) (digits : List Char) : Option Nat :=
  if digits.isEmpty then none
  else digits.foldlM (fun value c => (digitValue? base c).map (base * value + ·)) 0

/-- The number in decimal digits, before which a plus sign may stand. -/
def count? (text : List Char) : Option Nat :=
  match text with
  | '+' :: digits => natural? 10 digits
  | digits => natural? 10 digits

end Muster.Text
