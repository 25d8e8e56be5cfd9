import Muster.Flow.Signal

/-!
# Networks of flows

A network says what its flows are called and what entering one of them does. What an entry point
does is a *routine*: it calls other flows, one after the other and as many as it likes, and goes on
with what came of them until it hands back a signal. `Network.call` follows the signals of a flow
until it ends. Its limit bounds how many flows may be entered one after or within the other, and how
many calls an entry point may make; a run that needs more has no outcome within this limit.

A failure that leaves a call carries one more frame, that of the flow and entry point which were
being run at that moment.
-/

namespace Muster.Flow

/-- What an entry point does next, over flows `φ` and a context `C` that all flows share. -/
inductive Move (φ C : Type) where
  /-- Hands back the flow in its new state, the context, and a signal or a failure. -/
  | done (flow : φ) (context : C) (result : Except Failure (Signal φ))
  /-- Calls a flow. -/
  | call (flow : φ) (entry : String) (arg : Option Value) (context : C)

/-- The outcome of a call: the context left, and the value that the flow ended with or a failure. -/
abbrev Outcome (C : Type) := C × Except Failure (Option Value)

/-- What an entry point does: its next move, given the outcomes of the calls that it has made. There
is no next move if it never comes to one. -/
structure Routine (φ C : Type) where
  next : List (Outcome C) → Option (Move φ C)

variable {φ C : Type}

namespace Routine

/-- Hands back a signal or a failure at once. -/
def done (flow : φ) (context : C) (result : Except Failure (Signal φ)) : Routine φ C where
  next _ := some (.done flow context result)

/-- Calls a flow and goes on with the context it leaves and its outcome. -/
def call (flow : φ) (entry : String) (arg : Option Value) (context : C)
    (resume : C → Except Failure (Option Value) → Routine φ C) : Routine φ C where
  next outcomes := match outcomes with
    | [] => some (.call flow entry arg context)
    | (left, outcome) :: later => (resume left outcome).next later

/-- What is left of a routine when its first call has turned out in some way. -/
def after (routine : Routine φ C) (outcome : Outcome C) : Routine φ C where
  next later := routine.next (outcome :: later)

/-- Carries out a routine, given how calls turn out, if it makes fewer calls than the limit. -/
def perform (call : φ → String → Option Value → C → Option (Outcome C)) :
    (limit : Nat) → Routine φ C → Option (φ × C × Except Failure (Signal φ))
  | 0, _ => none
  | limit + 1, routine =>
    match routine.next [] with
    | none => none
    | some (.done flow context result) => some (flow, context, result)
    | some (.call flow entry arg context) =>
      match call flow entry arg context with
      | none => none
      | some outcome => perform call limit (routine.after outcome)

theorem perform_done (call : φ → String → Option Value → C → Option (Outcome C)) {limit : Nat}
    (h : 0 < limit) (flow : φ) (context : C) (result : Except Failure (Signal φ)) :
    (done flow context result).perform call limit = some (flow, context, result) := by
  cases limit with
  | zero => cases h
  | succ limit => rfl

theorem perform_call (call : φ → String → Option Value → C → Option (Outcome C)) (limit : Nat)
    (flow : φ) (entry : String) (arg : Option Value) (context : C)
    (resume : C → Except Failure (Option Value) → Routine φ C) :
    (Routine.call flow entry arg context resume).perform call (limit + 1) =
      match call flow entry arg context with
      | none => none
      | some (left, outcome) => (resume left outcome).perform call limit := by
  show (match call flow entry arg context with
    | none => none
    | some outcome => (resume outcome.1 outcome.2).perform call limit) = _
  cases call flow entry arg context with
  | none => rfl
  | some outcome => rfl

end Routine

/-- Enters a flow by its table of entry points. An entry point that does not exist or does not fit
fails at once. -/
def EntryTable.enter (table : EntryTable (φ → C → Routine φ C)) (flow : φ) (entry : String)
    (arg : Option Value) (context : C) : Routine φ C :=
  match table.invoke entry arg with
  | .ok body => body flow context
  | .error failure => .done flow context (.error failure)

/-- Flows that can be entered and can pass control to each other. -/
structure Network (φ C : Type) where
  name : φ → String
  enter : φ → String → Option Value → C → Routine φ C

namespace Network

/-- Runs a flow from an entry point until it ends. -/
def call (net : Network φ C) :
    (limit : Nat) → φ → String → Option Value → C → Option (Outcome C)
  | 0, _, _, _, _ => none
  | limit + 1, flow, entry, arg, context =>
    match (net.enter flow entry arg context).perform (net.call limit) (limit + 1) with
    | none => none
    -- only the flow that failed leaves a frame, and not those whose place it has taken
    | some (left, context, .error failure) =>
      some (context, .error (failure.inFrame (frame (net.name left) entry)))
    | some (left, context, .ok .again) => net.call limit left entry arg context
    | some (_, context, .ok (.change next entry arg)) => net.call limit next entry arg context
    | some (_, context, .ok (.finish value)) => some (context, .ok value)

/-- Runs a flow that nobody called. -/
def run (net : Network φ C) (limit : Nat) (flow : φ) (entry : String) (context : C) :
    Option (C × Except Failure Unit) :=
  (net.call limit flow entry none context).map fun (left, outcome) =>
    (left, outcome >>= outermost (net.name flow))

end Network

end Muster.Flow
