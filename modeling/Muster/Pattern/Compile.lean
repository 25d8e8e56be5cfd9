import Muster.Pattern.Basic
import Muster.Template.Parser

/-!
# From templates to patterns

A template becomes a pattern for a whole line: its pieces with white space around them. Where a slot
ends depends on what follows it, past white space and out of the groups it stands in: before the
word that follows, or at the end of the line. A slot that a slot or a group follows has no clear end
and is refused.

The templates of one command become a choice, those that begin with a slot last, so that a slot
which takes anything cannot keep a phrasing in plain words from being seen.
-/

namespace Muster.Template

/-- What comes after a piece, white space apart. -/
inductive Follow where
  | lineEnd
  | word (letters : List Char)
  | slot
  | group
  deriving Repr

/-- What comes first in some pieces, or after them if there is nothing but white space. -/
def Follow.of (outer : Follow) : List Piece → Follow
  | [] => outer
  | .space :: rest => Follow.of outer rest
  | .word letters :: _ => .word letters
  | .slot _ _ :: _ => .slot
  | .group _ _ :: _ => .group

/-- The pattern for a slot, given what follows it. -/
def compileSlot (scope : Scope) (follow : Follow) (kind : SlotKind) (offset : Nat) :
    Except Defect Pattern :=
  let ending (stop : Option (List Char)) :=
    if scope.offers kind then .ok (Pattern.ofSlot kind stop) else .error (.unavailableSlot kind)
  match follow with
  | .lineEnd => ending none
  | .word letters => ending (some letters)
  | .slot => .error (.adjacentSlots kind offset)
  | .group => .error (.unboundedSlot kind offset)

mutual

/-- The pattern for a piece, given what follows it. -/
def compilePiece (scope : Scope) (follow : Follow) : Piece → Except Defect Pattern
  | .word letters => .ok (Pattern.ofWord letters)
  | .space => .ok .gap
  | .group pieces _ => do
    let parts ← compilePieces scope follow pieces
    pure (.optional (.sequence parts))
  | .slot kind offset => compileSlot scope follow kind offset

/-- The patterns for some pieces, given what follows the last of them. -/
def compilePieces (scope : Scope) (outer : Follow) : List Piece → Except Defect (List Pattern)
  | [] => .ok []
  | piece :: rest => do
    let first ← compilePiece scope (Follow.of outer rest) piece
    let more ← compilePieces scope outer rest
    pure (first :: more)

end

/-- The pattern for a whole line made of some pieces. -/
def compileLine (scope : Scope) (pieces : List Piece) : Except Defect Pattern := do
  let parts ← compilePieces scope .lineEnd pieces
  pure (.sequence (.gap :: parts ++ [.gap, .lineEnd]))

/-- The pattern of a single template. -/
def compile (scope : Scope) (template : String) : Except Defect Pattern := do
  let pieces ← parse template
  compileLine scope pieces

/-- A template that does not compile, and why. -/
structure Invalid where
  template : String
  defect : Defect
  deriving DecidableEq, Repr

/-- A template in quotation marks, and what is wrong with it. -/
def Invalid.message (invalid : Invalid) : String :=
  "\"" ++ invalid.template ++ "\": " ++ invalid.defect.message

/-- A template's pattern, and whether the template begins with a slot. -/
def compileRanked (scope : Scope) (template : String) : Except Invalid (Bool × Pattern) :=
  match parse template with
  | .error defect => .error { template, defect }
  | .ok pieces =>
    match compileLine scope pieces with
    | .error defect => .error { template, defect }
    | .ok pattern => .ok (Piece.startsWithSlot pieces, pattern)

/-- The pattern of a command with the given templates, or the first template that is invalid. -/
def compileAll (scope : Scope) (templates : List String) : Except Invalid Pattern := do
  let ranked ← templates.mapM (compileRanked scope)
  -- both parts keep the order in which the templates are listed
  let (slotFirst, wordFirst) := ranked.partition (·.1)
  pure (.choice ((wordFirst ++ slotFirst).map (·.2)))

end Muster.Template
