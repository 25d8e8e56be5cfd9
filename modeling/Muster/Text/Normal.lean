import Muster.Text.Words
import Muster.Unicode.Casing
import Muster.Unicode.CaseMapping

/-!
# Normal form and display form

What a player types is compared in *normal form*: lowercase words with single blanks between them.
A name is shown in *display form*: each word begins with a capital and goes on in lowercase.

Lowering a word is not quite lowering its characters: a capital sigma at the end of a word becomes
a final sigma. `lowerText` follows that rule, `lowerEach` does not.
-/

namespace Muster.Text

open Muster.Unicode

/-- Whether a character with case comes first, past those that casing ignores. -/
def casedNext (s : List Char) : Bool :=
  match s.dropWhile isCaseIgnorable with
  | [] => false
  | c :: _ => isCased c

/-- The lowercase of a capital sigma, given the characters before it, nearest first, and those
after it. -/
def lowerSigma (before after : List Char) : Char :=
  if casedNext before && !casedNext after then 'ς' else 'σ'

/-- Lowers a text that follows the characters `before`, nearest first. -/
def lowerAfter (before : List Char) : List Char → List Char
  | [] => []
  | c :: cs =>
    (if c = 'Σ' then [lowerSigma before cs] else lowerChar c) ++ lowerAfter (c :: before) cs

/-- The lowercase of a text, a sigma at the end of a word in its final form. -/
def lowerText (s : List Char) : List Char := lowerAfter [] s

/-- The lowercase of a text, each character taken by itself. -/
def lowerEach (s : List Char) : List Char := s.flatMap lowerChar

/-- A word with its first character raised and the others lowered. -/
def capitalized : List Char → List Char
  | [] => []
  | c :: cs => upperChar c ++ lowerEach cs

/-- The normal form of a text. -/
def normal (s : List Char) : List Char := unwords ((words s).map lowerText)

/-- The display form of a name. -/
def display (s : List Char) : List Char := unwords ((words s).map capitalized)

end Muster.Text

namespace Muster

/-- The form in which everything the player types is compared: lowercase words, single blanks. -/
def normalize (s : String) : String := String.ofList (Text.normal s.toList)

/-- The form in which names are shown: single blanks, each word capitalized. -/
def displayName (s : String) : String := String.ofList (Text.display s.toList)

end Muster
