import Muster.Failure
import Muster.Text.Quoted

/-!
# Signals between flows

A flow is a named bundle of entry points that share state. An entry point does not return to whoever
entered it: it hands back a signal that says what is to run next. Values travel with signals, as the
argument of an entry point or as what a flow ends with.
-/

namespace Muster.Flow

/-- A value that flows pass to each other. -/
inductive Value where
  | int (value : Int)
  | text (value : String)
  deriving DecidableEq, Repr

namespace Value

/-- The number, if the value is one. -/
def int? : Value → Option Int
  | .int value => some value
  | .text _ => none

/-- The text, if the value is one. -/
def text? : Value → Option String
  | .int _ => none
  | .text value => some value

/-- How a value is shown to the player: a text stands in quotation marks. -/
def shown : Value → String
  | .int value => toString value
  | .text value => quoted value

/-- How a value is shown with its kind. -/
def describe : Value → String
  | .int value => "Int(" ++ toString value ++ ")"
  | .text value => "Text(" ++ quoted value ++ ")"

end Value

/-- How an optional value is shown with its kind. -/
def describeValue? : Option Value → String
  | none => "None"
  | some value => "Some(" ++ value.describe ++ ")"

/-- What an entry point asks for: `φ` stands for the flows there are. -/
inductive Signal (φ : Type) where
  /-- Enter the same flow again, at the same point and with the same argument. -/
  | again
  /-- Enter another flow in place of this one. -/
  | change (flow : φ) (entry : String) (arg : Option Value)
  /-- Return to the caller of the flow. -/
  | finish (value : Option Value)
  deriving Repr

/-- A signal in words. -/
def Signal.describe {φ : Type} (name : φ → String) : Signal φ → String
  | .again => "Continue"
  | .change flow entry arg =>
    "ChangeFlow \x7b flow: " ++ quoted (name flow) ++ ", entry_point: " ++ quoted entry ++
      ", arg: " ++ describeValue? arg ++ " \x7d"
  | .finish value => "EndFlow(" ++ describeValue? value ++ ")"

/-- An entry point that takes no argument or one. `R` is what entering it gives. -/
inductive EntryPoint (R : Type) where
  | nullary (body : R)
  | unary (body : Value → R)

/-- How many arguments an entry point takes. -/
def EntryPoint.arity {R : Type} : EntryPoint R → Nat
  | .nullary _ => 0
  | .unary _ => 1

/-- The entry points of a flow, under the flow's name. -/
structure EntryTable (R : Type) where
  flow : String
  entries : List (String × EntryPoint R)

namespace EntryTable

variable {R : Type}

/-- The first entry point of the given name. -/
def get? (table : EntryTable R) (entry : String) : Option (EntryPoint R) :=
  table.entries.lookup entry

/-- The names of the entry points, in order. -/
def names (table : EntryTable R) : List String := table.entries.map (·.1)

/-- What entering a flow at a point gives, provided that the point exists and the argument fits. -/
def invoke (table : EntryTable R) (entry : String) (arg : Option Value) : Except Failure R :=
  match table.get? entry, arg with
  | none, _ => fail (.unknownEntry table.flow entry)
  | some (.nullary body), none => .ok body
  | some (.unary body), some value => .ok (body value)
  | some point, arg => fail (.entryArity table.flow entry point.arity (if arg.isSome then 1 else 0))

/-- What entering a flow gives is what one of its entry points does. -/
theorem mem_of_invoke {table : EntryTable R} {entry : String} {arg : Option Value} {body : R}
    (h : table.invoke entry arg = .ok body) :
    (arg = none ∧ (entry, EntryPoint.nullary body) ∈ table.entries) ∨
      ∃ f value, arg = some value ∧ (entry, EntryPoint.unary f) ∈ table.entries ∧ f value = body := by
  -- what is found under a name is one of the entries
  have hmem {point : EntryPoint R} (hget : table.get? entry = some point) :
      (entry, point) ∈ table.entries := by
    obtain ⟨before, after, hentries, _⟩ := List.lookup_eq_some_iff.1 hget
    simp [hentries]
  unfold invoke at h
  split at h
  · cases h
  · next nullary hget =>
    cases h
    exact Or.inl ⟨rfl, hmem hget⟩
  · next f value hget =>
    cases h
    exact Or.inr ⟨f, value, rfl, hmem hget, rfl⟩
  · cases h

end EntryTable

/-- The frame that a flow and one of its entry points leave in the trace of a failure. -/
def frame (flow entry : String) : String := flow ++ "/" ++ entry

/-- The outcome of a run that nobody called: it must have ended without a value. -/
def outermost (started : String) : Option Value → Except Failure Unit
  | none => .ok ()
  | some value =>
    fail (.misrouted ("outermost flow (started as " ++ started ++ ") ended with " ++ value.shown ++
      " and no caller to receive it"))

end Muster.Flow
