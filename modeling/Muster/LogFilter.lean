import Muster.Text.Digits
import Muster.Text.Words
import Muster.Unicode.Alphanumeric

/-!
# Log filters

Which events are logged: a filter is a list of directives, separated by commas. A directive gives
the level down to which events count, and may be limited to a part of the program, to a span and to
a field of it: `part[span{field}]=level`. A word alone is a level, or else a part of the program.
-/

namespace Muster.LogFilter

/-- How important an event must be to be logged. -/
inductive Level where
  | off
  | error
  | warn
  | info
  | debug
  | trace
  deriving DecidableEq, Repr

/-- The levels and their names. -/
def levels : List (String × Level) :=
  [("off", .off), ("error", .error), ("warn", .warn), ("info", .info), ("debug", .debug),
    ("trace", .trace)]

/-- The level with a name, in letters of either case, or with a number. -/
def Level.ofText? (text : List Char) : Option Level :=
  match Text.count? text with
  | some n => levels[n]?.map (·.2)
  | none => levels.lookup (String.ofList (text.map Char.toLower))

/-- The name of a level is read as the level. -/
theorem Level.ofText?_name :
    ∀ entry ∈ levels, Level.ofText? entry.1.toList = some entry.2 := by decide

/-- Down to which level events are logged, and which ones. What is not given is no limit. -/
structure Directive where
  target : Option String := none
  span : Option String := none
  field : Option String := none
  level : Level := .trace
  deriving DecidableEq, Repr

/-- What is wrong with a filter. -/
inductive Defect where
  | malformedDirective
  | unknownLevel
  deriving DecidableEq, Repr

/-- The wording of a defect. -/
def Defect.message : Defect → String
  | .malformedDirective => "invalid filter directive"
  | .unknownLevel =>
    "error parsing level filter: expected one of \"off\", \"error\", \"warn\", \"info\", " ++
      "\"debug\", \"trace\", or a number 0-5"

/-- A text, if it is not empty. -/
private def given? (text : List Char) : Option String :=
  if text.isEmpty then none else some (String.ofList text)

namespace Directive

/-- Whether a directive may begin with a character. -/
def isStart (c : Char) : Bool := c ∈ ['[', '-', ':', '_'] || Unicode.isAlphanumeric c

/-- The directive that a word alone is. -/
def ofWord (word : List Char) : Directive :=
  match Level.ofText? word with
  | some level => { level }
  | none => { target := some (String.ofList word) }

/-- Reads a span from the character after its opening bracket on, and returns what follows the
closing one. -/
def readSpan (directive : Directive) (text : List Char) :
    Except Defect (Directive × List Char) :=
  let name := text.takeWhile fun c => c ≠ ']' && c ≠ '\x7b'
  let directive := { directive with span := given? name }
  match text.drop name.length with
  | ']' :: rest => .ok (directive, rest)
  | '\x7b' :: inner =>
    let field := inner.takeWhile (· ≠ '\x7d')
    match inner.drop field.length with
    | '\x7d' :: ']' :: rest =>
      if field.isEmpty then .error .malformedDirective
      else .ok ({ directive with field := given? field }, rest)
    | _ => .error .malformedDirective
  | _ => .error .malformedDirective

/-- Reads the level after an equals sign. None at all lets every event count. -/
def readLevel (directive : Directive) (text : List Char) : Except Defect Directive :=
  if text.isEmpty then .ok directive
  else match Level.ofText? text with
    | some level => .ok { directive with level }
    | none => .error .unknownLevel

/-- Reads a directive. White space around it is passed over where its parts are told apart; their
places are then looked up in the directive as it is written. -/
def parse (written : List Char) : Except Defect Directive := do
  let text := Text.trim written
  let target := text.takeWhile fun c => c ≠ '=' && c ≠ '['
  let rest := text.drop target.length
  if !(text.head?.any isStart) then .error .malformedDirective
  else if rest.isEmpty then .ok (ofWord written)
  else
    let (directive, rest) ← match rest with
      | '[' :: inside => readSpan { target := given? target } inside
      | rest => .ok ({ target := given? target }, rest)
    match rest with
    | [] => .ok directive
    | '=' :: level => directive.readLevel (written.drop (text.length - level.length))
    | _ => .error .malformedDirective

end Directive

/-- The directives of a filter. Empty ones are passed over, and the first one that is wrong is
reported. -/
def parse (filter : String) : Except Defect (List Directive) :=
  ((filter.splitOn ",").filter (· ≠ "")).mapM fun directive => Directive.parse directive.toList

end Muster.LogFilter
