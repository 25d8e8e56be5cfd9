import Muster.Pattern.Scope
import Muster.Unicode.Alphanumeric

/-!
# Patterns

A pattern is what a template is compiled to: a tree that accepts a line from left to right and
fills slots on the way. Matching takes what is left of the line and returns what is left after the
match. A group and a choice are committed: once a part has matched, no other way is tried.
-/

namespace Muster

open Muster.Text Muster.Unicode

/-- A compiled form of what a player may type. -/
inductive Pattern where
  /-- A word, in whatever case. -/
  | literal (word : List Char)
  /-- White space, or nothing. -/
  | gap
  /-- Patterns one after the other. -/
  | sequence (parts : List Pattern)
  /-- The first of some patterns that matches. -/
  | choice (ways : List Pattern)
  /-- A pattern, or nothing. -/
  | optional (part : Pattern)
  /-- A slot that ends before the given word, or at the end of the line. -/
  | slot (kind : SlotKind) (stop : Option (List Char))
  /-- Nothing, at the end of the line. -/
  | lineEnd
  deriving Repr

namespace Pattern

/-- The pattern for a word. -/
def ofWord (word : List Char) : Pattern := .literal (lowerText word)

/-- The pattern for a slot that ends before a word, or at the end of the line. -/
def ofSlot (kind : SlotKind) (stop : Option (List Char)) : Pattern :=
  .slot kind (stop.map lowerText)

/-- Takes the letters of a word off a text, each compared in lowercase. -/
def takeLetters : List Char → List Char → Option (List Char)
  | [], text => some text
  | _ :: _, [] => none
  | letter :: letters, c :: cs =>
    if lowerChar c = lowerChar letter then takeLetters letters cs else none

/-- Whether a word ends in a letter or digit. -/
def endsAlphanumeric (word : List Char) : Bool := word.getLast?.any isAlphanumeric

/-- Whether a text begins with a letter or digit. -/
def startsAlphanumeric (text : List Char) : Bool := text.head?.any isAlphanumeric

/-- Takes a word off a text. A word that ends in a letter or digit is not taken when another one
follows directly. -/
def takeWord (word text : List Char) : Option (List Char) :=
  match takeLetters word text with
  | some rest => if endsAlphanumeric word && startsAlphanumeric rest then none else some rest
  | none => none

/-- The text from the first word on that equals `stop` in lowercase, where the very first word does
not count: `seen` says that it has been passed, `inWord` that the text begins inside a word. -/
def findStop (stop : List Char) (inWord seen : Bool) : List Char → Option (List Char)
  | [] => none
  | c :: cs =>
    if isWhite c then findStop stop false seen cs
    else if inWord then findStop stop true seen cs
    -- a word begins here
    else if seen && lowerText ((c :: cs).takeWhile (!isWhite ·)) == stop then some (c :: cs)
    else findStop stop true true cs

/-- Where a slot ends: what is left of the text from the stop word on, or nothing when there is no
stop word. -/
def slotRest? (stop : Option (List Char)) (text : List Char) : Option (List Char) :=
  match stop with
  | none => some []
  | some word => findStop word false false text

/-- Takes the filling of a slot off a text: the filling, which is not blank, and what is left. -/
def takeSlot (stop : Option (List Char)) (text : List Char) : Option (List Char × List Char) :=
  match slotRest? stop text with
  | none => none
  | some rest =>
    let filling := text.take (text.length - rest.length)
    if isBlank filling then none else some (filling, rest)

mutual

/-- Matches a pattern at the beginning of a text. Returns what is left of the text, if the pattern
matches, and the slots filled. A failed sequence keeps the slots that its parts have filled; a
failed choice or optional part does not. -/
def matchText (scope : Scope) : Pattern → List Char → Bindings → Option (List Char) × Bindings
  | .literal word, text, bindings => (takeWord word text, bindings)
  | .gap, text, bindings => (some (trimStart text), bindings)
  | .sequence parts, text, bindings => matchEach scope parts text bindings
  | .choice ways, text, bindings => matchFirst scope ways text bindings
  | .optional part, text, bindings =>
    match matchText scope part text bindings with
    | (some rest, filled) => (some rest, filled)
    -- what the part has filled before it failed is forgotten
    | (none, _) => (some text, bindings)
  | .slot kind stop, text, bindings =>
    match takeSlot stop text with
    | some (filling, rest) =>
      (some rest, bindings.insert kind (scope.resolve kind (String.ofList (normal filling))))
    | none => (none, bindings)
  | .lineEnd, text, bindings => (if text.isEmpty then some text else none, bindings)

/-- Matches patterns one after the other. -/
def matchEach (scope : Scope) :
    List Pattern → List Char → Bindings → Option (List Char) × Bindings
  | [], text, bindings => (some text, bindings)
  | part :: parts, text, bindings =>
    match matchText scope part text bindings with
    | (some rest, filled) => matchEach scope parts rest filled
    -- what has been filled so far is kept
    | (none, filled) => (none, filled)

/-- Matches the first of some patterns that does match. -/
def matchFirst (scope : Scope) :
    List Pattern → List Char → Bindings → Option (List Char) × Bindings
  | [], _, bindings => (none, bindings)
  | way :: ways, text, bindings =>
    match matchText scope way text bindings with
    | (some rest, filled) => (some rest, filled)
    | (none, _) => matchFirst scope ways text bindings

end

/-- Matches a pattern at a byte position of a line that begins a character. Returns the position
after the match, if the pattern matches, and the slots filled. -/
def matchAt (scope : Scope) (pattern : Pattern) (line : String) (position : Nat)
    (bindings : Bindings) : Option Nat × Bindings :=
  match dropBytes? line.toList position with
  | none => (none, bindings)
  | some text =>
    let (rest, filled) := pattern.matchText scope text bindings
    (rest.map fun rest => byteLength line.toList - byteLength rest, filled)

/-- Matches a pattern with a whole line. -/
def matchLine (scope : Scope) (pattern : Pattern) (line : String) : Option Bindings :=
  match pattern.matchText scope line.toList .empty with
  | (some [], bindings) => some bindings
  | _ => none

end Pattern

end Muster
