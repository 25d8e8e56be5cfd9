import Muster.Template.Piece
import Muster.Text.Normal

/-!
# Reading a template

A template is read in two steps. `scan` goes through its characters, resolves escapes and
placeholders, and yields *marks*; it stops at the first character sequence that is no mark. `Outline`
then takes the marks one by one and builds the pieces, keeping the groups that are still open. The
defect reported is the first one in reading order; only when all marks have been taken does it
matter whether a group is still open, whether anything was there at all, and whether a kind of slot
occurs twice.
-/

namespace Muster.Template

open Muster.Text Muster.Unicode

/-- What stands at one place of a template. -/
inductive Mark where
  /-- Letters of a word, in lowercase. -/
  | letters (chars : List Char)
  /-- A white-space character. -/
  | blank
  /-- An opening bracket and its offset. -/
  | opening (offset : Nat)
  /-- A closing bracket and its offset. -/
  | closing (offset : Nat)
  /-- A placeholder and the offset of its opening brace. -/
  | slot (kind : SlotKind) (offset : Nat)
  deriving Repr

/-- How the next character is to be taken. -/
inductive Reading where
  /-- Every character with its own meaning. -/
  | plain
  /-- As a letter, after a backslash. -/
  | escaped
  /-- As part of the placeholder that was opened at an offset and reads `name` so far. -/
  | braces (offset : Nat) (name : List Char)

/-- The kind of slot that a placeholder names. White space around the name does not count. -/
def slotNamed (offset : Nat) (name : List Char) : Except Defect SlotKind :=
  let label := trim name
  if label.isEmpty then .error (.emptySlot offset)
  else match SlotKind.ofLabel? (String.ofList label) with
    | some kind => .ok kind
    | none => .error (.unknownSlot (String.ofList label) offset)

/-- The marks of a template up to its end or up to the first defect, which is then reported with
them. -/
def scan (reading : Reading) (offset : Nat) : List Char → List Mark × Option Defect
  | [] =>
    match reading with
    | .plain => ([], none)
    | .escaped => ([], some .trailingBackslash)
    | .braces start _ => ([], some (.unclosedBrace start))
  | c :: cs =>
    let next := offset + c.utf8Size
    let mark (m : Mark) := (scan .plain next cs).map (m :: ·) id
    match reading with
    | .escaped => mark (.letters (lowerChar c))
    | .braces start name =>
      if c = '}' then
        match slotNamed start name with
        | .ok kind => mark (.slot kind start)
        | .error defect => ([], some defect)
      else scan (.braces start (name ++ [c])) next cs
    | .plain =>
      if c = '\\' then scan .escaped next cs
      else if isWhite c then mark .blank
      else if c = '[' then mark (.opening offset)
      else if c = ']' then mark (.closing offset)
      else if c = '{' then scan (.braces offset []) next cs
      else if c = '}' then ([], some (.unexpectedClosing c offset))
      else mark (.letters (lowerChar c))

/-- The pieces read so far, in each list the last one first. -/
structure Outline where
  /-- The pieces of the innermost open group, or of the template when no group is open. -/
  inner : List Piece := []
  /-- For each open group, innermost first, its offset and the pieces before it. -/
  enclosing : List (Nat × List Piece) := []

namespace Outline

/-- Letters continue a word or begin one. -/
def addLetters (chars : List Char) : List Piece → List Piece
  | .word letters :: before => .word (letters ++ chars) :: before
  | before => .word chars :: before

/-- White space counts once, and not at the beginning. -/
def addSpace : List Piece → List Piece
  | [] => []
  | .space :: before => .space :: before
  | before => .space :: before

/-- White space does not count at the end either. -/
def dropSpace : List Piece → List Piece
  | .space :: before => before
  | before => before

/-- Takes in one mark. -/
def add (outline : Outline) : Mark → Except Defect Outline
  | .letters chars => .ok { outline with inner := addLetters chars outline.inner }
  | .blank => .ok { outline with inner := addSpace outline.inner }
  | .opening offset => .ok { inner := [], enclosing := (offset, outline.inner) :: outline.enclosing }
  | .closing offset =>
    match outline.enclosing with
    | [] => .error (.unexpectedClosing ']' offset)
    | (start, before) :: enclosing =>
      match dropSpace outline.inner with
      | [] => .error (.emptyGroup start)
      | pieces => .ok { inner := .group pieces.reverse start :: before, enclosing }
  | .slot kind offset => .ok { outline with inner := .slot kind offset :: outline.inner }

/-- The pieces of a template that has been read to its end. -/
def finish (outline : Outline) : Except Defect (List Piece) :=
  match outline.enclosing with
  | (start, _) :: _ => .error (.unclosedBracket start)
  | [] =>
    match dropSpace outline.inner with
    | [] => .error .empty
    | pieces => .ok pieces.reverse

end Outline

/-- The first slot whose kind has occurred before. -/
def repeatedSlot? (seen : List SlotKind) : List (SlotKind × Nat) → Option (SlotKind × Nat)
  | [] => none
  | (kind, offset) :: rest =>
    if kind ∈ seen then some (kind, offset) else repeatedSlot? (kind :: seen) rest

/-- The pieces of a template given by its characters. -/
def parseChars (template : List Char) : Except Defect (List Piece) := do
  let (marks, stop) := scan .plain 0 template
  -- a defect among the marks comes before the one at which the scan stopped
  let outline ← marks.foldlM Outline.add {}
  match stop with
  | some defect => throw defect
  | none =>
    let pieces ← outline.finish
    -- repetition is looked for last, in the whole template
    match repeatedSlot? [] (Piece.slotsOfAll pieces) with
    | some (kind, offset) => throw (.repeatedSlot kind offset)
    | none => pure pieces

/-- The pieces of a template, or its first defect. -/
def parse (template : String) : Except Defect (List Piece) := parseChars template.toList

end Muster.Template
