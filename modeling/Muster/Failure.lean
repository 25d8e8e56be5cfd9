/-!
# Failures

Everything that can go wrong, as a cause with its data, and the trace of the flows that were being
run when it did. `Cause.message` gives each cause its wording.
-/

namespace Muster

/-- Why an operation failed. -/
inductive Cause where
  /-- A command's template does not compile. -/
  | invalidTemplate (stage command template reason : String)
  /-- The control catalog has no templates for a command. -/
  | missingControl (stage command : String)
  /-- The message catalog lacks a key. -/
  | missingMessage (catalog key : String)
  /-- A command name was registered a second time. -/
  | duplicateCommand (stage command : String)
  /-- A flow was entered at a point it does not have. -/
  | unknownEntry (flow entry : String)
  /-- An entry point was given too many or too few arguments. -/
  | entryArity (flow entry : String) (expected actual : Nat)
  /-- A control signal arrived where nothing can receive it. -/
  | misrouted (detail : String)
  /-- A data file is missing or cannot be understood. -/
  | dataFile (path reason : String)
  /-- Reading or writing failed. -/
  | io (detail : String)
  /-- The input came to its end. -/
  | inputClosed
  /-- Something that should not happen. -/
  | internal (detail : String)
  deriving DecidableEq, Repr

/-- The wording of a cause. -/
def Cause.message : Cause → String
  | .invalidTemplate stage command template reason =>
    "invalid command syntax for " ++ stage ++ "/" ++ command ++ ": \"" ++ template ++ "\": " ++
      reason
  | .missingControl stage command => "no control templates for " ++ stage ++ "/" ++ command
  | .missingMessage catalog key => "no string " ++ key ++ " in catalog " ++ catalog
  | .duplicateCommand stage command =>
    "command " ++ command ++ " registered twice for stage " ++ stage
  | .unknownEntry flow entry => "flow " ++ flow ++ " has no entry point \"" ++ entry ++ "\""
  | .entryArity flow entry expected actual =>
    "entry point " ++ flow ++ "/" ++ entry ++ " takes " ++ toString expected ++
      " argument(s), got " ++ toString actual
  | .misrouted detail => "control signal misrouted: " ++ detail
  | .dataFile path reason => "data file " ++ path ++ ": " ++ reason
  | .io detail => "i/o error: " ++ detail
  | .inputClosed => "input closed"
  | .internal detail => "internal error: " ++ detail

/-- Where a failure happened: a source, and the frames of the flows being run, innermost first. -/
structure Trace where
  source : Option String := none
  frames : List String := []
  deriving DecidableEq, Repr

/-- A trace as text: the source on the first line, then one indented line for each frame. -/
def Trace.describe (trace : Trace) : String :=
  let place := match trace.source with
    | some source => "at " ++ source
    | none => ""
  if trace.frames.isEmpty then place
  else place ++ "\n" ++ String.join (trace.frames.map fun frame => "  in " ++ frame ++ "\n")

/-- A cause, with a trace once one is known. -/
structure Failure where
  cause : Cause
  trace : Option Trace := none
  deriving DecidableEq, Repr

namespace Failure

/-- The wording of a failure is that of its cause. -/
def message (failure : Failure) : String := failure.cause.message

/-- The frames of a failure, innermost first. -/
def frames (failure : Failure) : List String := (failure.trace.getD {}).frames

/-- Whether the failure is the end of the input. -/
def isInputClosed (failure : Failure) : Bool := failure.cause == .inputClosed

/-- Records one more frame, outside those known. -/
def inFrame (failure : Failure) (frame : String) : Failure :=
  let trace := failure.trace.getD {}
  { failure with trace := some { trace with frames := trace.frames ++ [frame] } }

@[simp] theorem cause_inFrame (failure : Failure) (frame : String) :
    (failure.inFrame frame).cause = failure.cause := rfl

@[simp] theorem frames_inFrame (failure : Failure) (frame : String) :
    (failure.inFrame frame).frames = failure.frames ++ [frame] := rfl

end Failure

/-- Fails with a cause and no trace. -/
def fail {α : Type} (cause : Cause) : Except Failure α := .error { cause }

end Muster
