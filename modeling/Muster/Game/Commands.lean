import Muster.Command.Registry
import Muster.Flow.Signal
import Muster.Game.Play

/-!
# What all stages share

A stage reads lines and acts on the command that each of them is meant for (`commandLoop`). A line
that is blank, or that no command or several commands accept, is answered by a message and changes
nothing. Questions that want a yes or no are asked until the answer is one. A stage is entered
through its table of entry points, and a failure inside it carries a frame for the entry.
-/

namespace Muster.Game

open Muster.Flow Play

variable {α σ H : Type}

/-- The commands of a stage: some that several stages have, and those of its own. -/
def stageCommands (stage : String) (scope : Scope) (control : Control)
    (shared own : List (String × H)) : Except Failure (CommandSet H) := do
  let set ← ({ stage } : CommandSet H).registerAll scope control StageName.common shared
  set.registerAll scope control stage own

/-- The command that a line is meant for, with the slots that it fills. Tells the player if there
is none. -/
def understand (set : CommandSet H) (scope : Scope) (line : String) :
    Play (Option (H × Bindings)) := do
  if Text.isBlank line.toList then
    sayMessage StageName.common "empty cmd"
    return none
  match set.dispatch scope line with
  | .unrecognized =>
    sayMessage StageName.common "what"
    return none
  | .ambiguous names =>
    sayMessage StageName.common "ambiguous cmd"
    names.forM sayItem
    return none
  | .matched _ handler bindings => return some (handler, bindings)

/-- Reads lines and acts on their commands until an action leaves the loop. What slots can refer to
is found out anew for each line. -/
def commandLoop (stage prompt : String) (set : CommandSet H) (scope : Play Scope)
    (act : σ → H → Bindings → Play (Turn σ α)) (state : σ) : Play α :=
  converse (askMessage stage prompt) (reads_askMessage stage prompt)
    (fun state line => do
      match ← understand set (← scope) line with
      | none => return .again state
      | some (handler, bindings) => act state handler bindings)
    state

/-- A command loop that is left has taken an answer. -/
theorem reads_commandLoop (stage prompt : String) (set : CommandSet H) (scope : Play Scope)
    (act : σ → H → Bindings → Play (Turn σ α)) (state : σ) :
    Reads (commandLoop stage prompt set scope act state) :=
  reads_converse _ _ _ _

/-- The scope of a stage that has no party for slots to refer to. -/
def partylessScope : Play Scope := return (← data).scope none

/-- Asks for a name until one is given, and returns it in display form. -/
def askName (stage prompt : String) : Play String :=
  converse (askMessage stage prompt) (reads_askMessage stage prompt)
    (fun () line =>
      let name := displayName line
      if name.isEmpty then return .again () else return .leave name)
    ()

/-- An answer to a question. -/
inductive Verdict where
  | yes
  | no
  /-- Neither. -/
  | abort
  deriving DecidableEq, Repr

/-- Asks a question until it is answered in one of the allowed ways. -/
def insist (question : String) (allowed : List (String × Verdict)) (reminder : String) :
    Play Verdict := do
  let data ← data
  let scope := data.scope none
  let set ← ofExcept <|
    ({ stage := StageName.common } : CommandSet Verdict).registerAll scope data.control
      StageName.common allowed
  converse (ask question) (reads_ask question)
    (fun () line =>
      match set.dispatch scope line with
      | .matched _ verdict _ => return .leave verdict
      | _ => do
        sayMessage StageName.common reminder
        return .again ())
    ()

/-- Asks a question until the answer is yes or no. -/
def askYesNo (question : String) : Play Bool := do
  let verdict ← insist question [("yes", .yes), ("no", .no)] "just yes or no"
  return verdict == .yes

/-- Asks a question until the answer is yes, no or abort. -/
def askYesNoAbort (question : String) : Play Verdict :=
  insist question [("yes", .yes), ("no", .no), ("abort", .abort)] "just yes no abort"

/-- Says farewell to the party, if it has a name, or to the player. -/
def sayFarewell : Play Unit := do
  let name := ((← party).map Party.name).getD ""
  if name.isEmpty then sayMessage StageName.common "farewell"
  else sayFormat StageName.common "farewell with party name" [("party_name", name)]

/-- Does what an entry point of a stage does. -/
def enterAt (table : EntryTable (Play α)) (entry : String) (arg : Option Value) : Play α := do
  let body ← ofExcept (table.invoke entry arg)
  body

/-- Enters a stage that returns to its caller. -/
def callAt (table : EntryTable (Play α)) (entry : String) (arg : Option Value) : Play α :=
  inFrame (frame table.flow entry) (enterAt table entry arg)

end Muster.Game
