import Muster.Template.Piece
import Muster.Unicode.WhiteSpace

/-!
# Writing a template

The canonical text of some pieces. A character of a word that would mean something by itself is
preceded by a backslash; white space is one blank.
-/

namespace Muster.Template

/-- Whether a character of a word has to be escaped. -/
def needsEscape (c : Char) : Bool := Unicode.isWhite c || c ∈ ['\\', '[', ']', '{', '}']

/-- The text of the letters of a word. -/
def printLetters (letters : List Char) : List Char :=
  letters.flatMap fun c => if needsEscape c then ['\\', c] else [c]

mutual

/-- The text of a piece. -/
def Piece.print : Piece → List Char
  | .word letters => printLetters letters
  | .space => [' ']
  | .group pieces _ => '[' :: Piece.printAll pieces ++ [']']
  | .slot kind _ => '{' :: kind.label.toList ++ ['}']

/-- The text of some pieces. -/
def Piece.printAll : List Piece → List Char
  | [] => []
  | piece :: rest => Piece.print piece ++ Piece.printAll rest

end

/-- The text of a template with the given pieces. -/
def print (pieces : List Piece) : String := String.ofList (Piece.printAll pieces)

end Muster.Template
