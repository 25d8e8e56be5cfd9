/-!
# Characters of a document in their places

Indentation and line breaks carry meaning in a YAML document, so each of its characters is kept
together with its place. The document ends in a NUL character, which cannot occur within it, and the
ways of ending a line that fold alike are made one.
-/

namespace Muster.Yaml

/-- A character of a document and its place. -/
structure Spot where
  char : Char
  /-- How many characters stand before it. -/
  index : Nat
  line : Nat
  column : Nat
  deriving Repr

/-- Whether a character ends a line. -/
def isBreak (c : Char) : Bool := c = '\n' || c = '\u2028' || c = '\u2029'

/-- Whether a character is white space within a line. -/
def isBlank (c : Char) : Bool := c = ' ' || c = '\t'

/-- Whether a character marks the end of the document. -/
def isEnd (c : Char) : Bool := c = '\x00'

/-- Whether a character ends a line or the document. -/
def isBreakOrEnd (c : Char) : Bool := isBreak c || isEnd c

/-- Whether a character is a blank or ends a line or the document. -/
def isGap (c : Char) : Bool := isBlank c || isBreakOrEnd c

/-- The byte order mark. It may begin a line and then separates tokens as a blank does. -/
def byteOrderMark : Char := '\ufeff'

/-- Whether a character may occur in a document. -/
def isAdmissible (c : Char) : Bool :=
  c = '\t' || c = '\n' || c = '\r' || c = '\u0085' || (' ' ≤ c && c ≤ '~') ||
    ('\u00a0' ≤ c && c ≤ '\ufffd') || '\uffff' < c

/-- Makes a carriage return, with a line feed after it or not, and a next-line control one line
feed. -/
def unifyBreaks : List Char → List Char
  | [] => []
  | '\r' :: '\n' :: cs => '\n' :: unifyBreaks cs
  | c :: cs => (if c = '\r' || c = '\u0085' then '\n' else c) :: unifyBreaks cs

/-- The characters of a text in their places, with the end mark after them. -/
def locate (index line column : Nat) : List Char → List Spot
  | [] => [⟨'\x00', index, line, column⟩]
  | c :: cs =>
    ⟨c, index, line, column⟩ ::
      if isBreak c then locate (index + 1) (line + 1) 0 cs
      else locate (index + 1) line (column + 1) cs

/-- The characters of a document, if all of them may occur in one. -/
def spots? (text : List Char) : Option (List Spot) :=
  if text.all isAdmissible then some (locate 0 0 0 (unifyBreaks text)) else none

/-- The first character of some spots; past the end there is only the end mark. -/
def here (spots : List Spot) : Char := (spots.head?.map Spot.char).getD '\x00'

/-- The column of the first of some spots. -/
def columnOf (spots : List Spot) : Nat := (spots.head?.map Spot.column).getD 0

/-- Whether a mark that begins or ends a document stands at the beginning of a line here. -/
def isDocumentMark (spots : List Spot) : Bool :=
  match spots with
  | a :: b :: c :: rest =>
    a.column = 0 && (a.char = '-' || a.char = '.') && b.char = a.char && c.char = a.char &&
      isGap (here rest)
  | _ => false

end Muster.Yaml
