import Muster.Yaml.Node

/-!
# Writing a document

A node as text on a single line: collections in brackets or braces, texts between double quotation
marks. Tags and anchors are left out.
-/

namespace Muster.Yaml

/-- A number in exactly eight hexadecimal digits. -/
def eightDigits (n : Nat) : List Char :=
  let digits := Nat.toDigits 16 n
  List.replicate (8 - digits.length) '0' ++ digits

/-- How a character is written between double quotation marks. -/
def printChar (c : Char) : List Char :=
  if c = '"' || c = '\\' then ['\\', c]
  else if c = '\n' then ['\\', 'n']
  else if c = '\t' then ['\\', 't']
  else if isAdmissible c && !isBreak c && c ≠ '\r' && c ≠ '\u0085' then [c]
  else '\\' :: 'U' :: eightDigits c.toNat

/-- A text between double quotation marks. -/
def printText (text : String) : List Char := '"' :: text.toList.flatMap printChar ++ ['"']

mutual

/-- A node on one line. A plain scalar stays plain, and an alias shows the number of its anchor. -/
def Node.print : Node → List Char
  | .scalar .plain _ text => text.toList
  | .scalar _ _ text => printText text
  | .alias anchor => '*' :: Nat.toDigits 10 anchor
  | .sequence _ items => '[' :: Node.printItems items ++ [']']
  | .mapping _ entries => '{' :: Node.printEntries entries ++ ['}']

/-- The items of a sequence, separated by commas. -/
def Node.printItems : List Node → List Char
  | [] => []
  | [item] => Node.print item
  | item :: more => Node.print item ++ ',' :: ' ' :: Node.printItems more

/-- The entries of a mapping, separated by commas. -/
def Node.printEntries : List (Node × Node) → List Char
  | [] => []
  | [(key, value)] => Node.print key ++ ':' :: ' ' :: Node.print value
  | (key, value) :: more =>
    Node.print key ++ ':' :: ' ' :: Node.print value ++ ',' :: ' ' :: Node.printEntries more

end

end Muster.Yaml
