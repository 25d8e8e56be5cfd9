/-!
# Pieces of a template

A template is a line of words in which `[...]` marks a group that may be left out and a placeholder
in braces marks a slot, to be filled by part of what the player types. This file holds the parsed
form of a template, the kinds of slots, and what can be wrong with a template.
-/

namespace Muster

/-- What a slot stands for. -/
inductive SlotKind where
  /-- Free text that names something new. -/
  | name
  /-- Free text that names a help topic. -/
  | topic
  /-- A playable species. -/
  | species
  /-- A playable background. -/
  | background
  /-- A member of the party. -/
  | member
  deriving DecidableEq, Repr

namespace SlotKind

/-- All kinds of slots. -/
def all : List SlotKind := [.name, .topic, .species, .background, .member]

/-- The word that stands for a kind between the braces of a template. -/
def label : SlotKind → String
  | .name => "name"
  | .topic => "topic"
  | .species => "species"
  | .background => "bg"
  | .member => "pc"

/-- The kind with a given label. -/
def ofLabel? (label : String) : Option SlotKind := all.find? (·.label == label)

/-- Every kind is listed. -/
theorem mem_all (kind : SlotKind) : kind ∈ all := by cases kind <;> decide

/-- A label names its own kind. -/
theorem ofLabel?_label (kind : SlotKind) : ofLabel? kind.label = some kind := by
  cases kind <;> decide

end SlotKind

namespace Template

/-- A part of a template. Offsets count bytes of the template. -/
inductive Piece where
  /-- A word, in lowercase. -/
  | word (letters : List Char)
  /-- White space between two pieces. -/
  | space
  /-- A group that may be left out, with the offset of its opening bracket. -/
  | group (pieces : List Piece) (offset : Nat)
  /-- A slot, with the offset of its opening brace. -/
  | slot (kind : SlotKind) (offset : Nat)
  deriving Repr

namespace Piece

/-- Whether a piece is white space. -/
def isSpace : Piece → Bool
  | .space => true
  | _ => false

/-- Whether the first piece that is not white space is a slot. -/
def startsWithSlot (pieces : List Piece) : Bool :=
  match pieces.find? (!·.isSpace) with
  | some (.slot _ _) => true
  | _ => false

mutual

/-- The slots within a piece, in reading order, with their offsets. -/
def slots : Piece → List (SlotKind × Nat)
  | .word _ => []
  | .space => []
  | .group pieces _ => slotsOfAll pieces
  | .slot kind offset => [(kind, offset)]

/-- The slots within some pieces, in reading order, with their offsets. -/
def slotsOfAll : List Piece → List (SlotKind × Nat)
  | [] => []
  | piece :: rest => slots piece ++ slotsOfAll rest

end

end Piece

/-- What is wrong with a template. -/
inductive Defect where
  /-- There is neither a word nor a slot. -/
  | empty
  /-- A group is never closed. -/
  | unclosedBracket (offset : Nat)
  /-- A closing bracket or brace has nothing to close. -/
  | unexpectedClosing (mark : Char) (offset : Nat)
  /-- A placeholder is never closed. -/
  | unclosedBrace (offset : Nat)
  /-- A placeholder is empty. -/
  | emptySlot (offset : Nat)
  /-- A group is empty. -/
  | emptyGroup (offset : Nat)
  /-- A placeholder names no kind of slot. -/
  | unknownSlot (name : String) (offset : Nat)
  /-- A kind of slot occurs a second time. -/
  | repeatedSlot (kind : SlotKind) (offset : Nat)
  /-- A slot is followed directly by another one. -/
  | adjacentSlots (kind : SlotKind) (offset : Nat)
  /-- A slot is followed by a group, so that its end is not clear. -/
  | unboundedSlot (kind : SlotKind) (offset : Nat)
  /-- Nothing is there that a slot of this kind could name. -/
  | unavailableSlot (kind : SlotKind)
  /-- The template ends in a backslash that has nothing to escape. -/
  | trailingBackslash
  deriving DecidableEq, Repr

namespace Defect

/-- A kind of slot as it stands in a template. -/
private def slotText (label : String) : String := "\x7b" ++ label ++ "\x7d"

/-- The wording of a defect. -/
def message : Defect → String
  | .empty => "template is empty"
  | .unclosedBracket offset => "unclosed '[' at offset " ++ toString offset
  | .unexpectedClosing mark offset =>
    "unexpected '" ++ mark.toString ++ "' at offset " ++ toString offset
  | .unclosedBrace offset => "unclosed '\x7b' at offset " ++ toString offset
  | .emptySlot offset => "empty capture at offset " ++ toString offset
  | .emptyGroup offset => "empty optional group at offset " ++ toString offset
  | .unknownSlot name offset =>
    "unknown capture " ++ slotText name ++ " at offset " ++ toString offset
  | .repeatedSlot kind offset =>
    "capture " ++ slotText kind.label ++ " appears more than once (offset " ++ toString offset ++ ")"
  | .adjacentSlots kind offset =>
    "capture " ++ slotText kind.label ++ " at offset " ++ toString offset ++
      " is followed by another capture"
  | .unboundedSlot kind offset =>
    "capture " ++ slotText kind.label ++ " at offset " ++ toString offset ++
      " must be followed by a word or the end"
  | .unavailableSlot kind => "capture " ++ slotText kind.label ++ " is not available here"
  | .trailingBackslash => "trailing backslash"

end Defect

end Template

end Muster
