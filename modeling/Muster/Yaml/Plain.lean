import Muster.Text.Digits

/-!
# What a plain scalar can mean

A plain scalar may stand for nothing, a truth value or a number instead of a text. Whole numbers may
be written in four bases; a leading zero before further decimal digits makes a text. This file
decides which scalars are numbers, and reads the whole ones.
-/

namespace Muster.Yaml

open Muster.Text (natural?)

/-- The digits that follow a text's beginning, if it begins that way. -/
def afterStart? (start : String) (text : List Char) : Option (List Char) :=
  if start.toList.isPrefixOf text then some (text.drop start.length) else none

/-- Whether decimal digits follow a zero at the beginning, after a sign or not. -/
def hasLeadingZero (text : List Char) : Bool :=
  let digits := match text with
    | '-' :: rest => rest
    | '+' :: rest => rest
    | rest => rest
  match digits with
  | '0' :: c :: rest => (c :: rest).all Char.isDigit
  | _ => false

/-- A magnitude in the base that its beginning gives. -/
def magnitude? (text : List Char) : Option Nat :=
  match afterStart? "0x" text, afterStart? "0o" text, afterStart? "0b" text with
  | some digits, _, _ => natural? 16 digits
  | _, some digits, _ => natural? 8 digits
  | _, _, some digits => natural? 2 digits
  | none, none, none => if hasLeadingZero text then none else natural? 10 text

/-- The whole number that a plain scalar stands for. -/
def wholeNumber? (text : List Char) : Option Int :=
  match text with
  | '+' :: rest => (magnitude? rest).map Int.ofNat
  | '-' :: rest => (magnitude? rest).map fun n => -(Int.ofNat n)
  | rest => (magnitude? rest).map Int.ofNat

/-- The least magnitude that a floating-point number of 64 bits cannot have. -/
def floatBound : Nat := Nat.pow 2 1024 - Nat.pow 2 970

/-- Whether `digits · 10 ^ exponent` is less than the bound of floating-point numbers. The number of
digits settles it for very large and very small exponents. -/
def isFloat (digits : Nat) (count : Nat) (exponent : Int) : Bool :=
  if digits = 0 then true
  else if exponent > 400 then false
  else if exponent + count < 0 then true
  else if 0 ≤ exponent then digits * Nat.pow 10 exponent.toNat < floatBound
  else digits < floatBound * Nat.pow 10 (-exponent).toNat

/-- The exponent written after the digits of a decimal number; zero if there is none. -/
def exponent? (text : List Char) : Option Int :=
  match text with
  | [] => some 0
  | c :: rest =>
    if c = 'e' || c = 'E' then
      match rest with
      | '+' :: digits => (natural? 10 digits).map Int.ofNat
      | '-' :: digits => (natural? 10 digits).map fun n => -(Int.ofNat n)
      | digits => (natural? 10 digits).map Int.ofNat
    else none

/-- Whether a text is a decimal number, without a sign, that a floating-point number can hold. -/
def isUnsignedDecimal (text : List Char) : Bool :=
  let whole := text.takeWhile Char.isDigit
  let afterWhole := text.dropWhile Char.isDigit
  let (fraction, afterFraction) := match afterWhole with
    | '.' :: rest => (rest.takeWhile Char.isDigit, rest.dropWhile Char.isDigit)
    | rest => ([], rest)
  match natural? 10 (whole ++ fraction), exponent? afterFraction with
  | some digits, some exponent =>
    isFloat digits (whole ++ fraction).length (exponent - fraction.length)
  | _, _ => false

/-- Whether a plain scalar stands for a number with a decimal point or an exponent, or for one of
the special values. -/
def isDecimal (text : List Char) : Bool :=
  let special := [".inf", ".Inf", ".INF", "+.inf", "+.Inf", "+.INF", "-.inf", "-.Inf", "-.INF",
    ".nan", ".NaN", ".NAN"]
  String.ofList text ∈ special ||
    (!hasLeadingZero text &&
      match text with
      | '+' :: rest => isUnsignedDecimal rest
      | '-' :: rest => isUnsignedDecimal rest
      | rest => isUnsignedDecimal rest)

/-- Whether a plain scalar stands for a whole number of at most 128 bits. -/
def isWhole (text : List Char) : Bool :=
  (wholeNumber? text).any fun n => -(Nat.pow 2 127 : Int) ≤ n && n < (Nat.pow 2 128 : Int)

/-- Whether a plain scalar stands for nothing. -/
def isNull (text : List Char) : Bool := String.ofList text ∈ ["", "~", "null", "Null", "NULL"]

/-- Whether a plain scalar stands for a truth value. -/
def isTruthValue (text : List Char) : Bool :=
  String.ofList text ∈ ["true", "True", "TRUE", "false", "False", "FALSE"]

/-- Whether a plain scalar stands for a text. -/
def isPlainText (text : List Char) : Bool :=
  !isNull text && !isTruthValue text && !isWhole text && !isDecimal text

end Muster.Yaml
