import Muster.Pattern.Compile
import Muster.Catalog.Control

/-!
# The commands of a stage

A stage recognizes what the player types by its commands. A command has a name, a pattern and a
handler; all commands are tried on a line, and only when exactly one of them accepts it is it clear
what the player wants.
-/

namespace Muster

/-- A command of a stage. -/
structure Command (H : Type) where
  name : String
  pattern : Pattern
  handler : H

/-- The commands of a stage, in the order in which they were registered. -/
structure CommandSet (H : Type) where
  stage : String
  commands : List (Command H) := []

/-- What a line means to a set of commands. -/
inductive Dispatch (H : Type) where
  /-- No command accepts the line. -/
  | unrecognized
  /-- Several commands accept the line. -/
  | ambiguous (names : List String)
  /-- One command accepts the line. -/
  | matched (name : String) (handler : H) (bindings : Bindings)

namespace CommandSet

variable {H : Type}

/-- Adds a command with the given templates, in place. The source names the stage that the templates
are listed under, which may be another one. -/
def enrollAs (scope : Scope) (source name : String) (templates : List String) (handler : H) :
    EStateM Failure (CommandSet H) Unit := do
  let set ← get
  if templates.isEmpty then throw { cause := .missingControl source name }
  else if set.commands.any (·.name == name) then
    throw { cause := .duplicateCommand set.stage name }
  else
    match Template.compileAll scope templates with
    | .error invalid =>
      throw { cause := .invalidTemplate source name invalid.template invalid.defect.message }
    | .ok pattern =>
      modify fun set => { set with commands := set.commands ++ [{ name, pattern, handler }] }

/-- Adds a command of the stage's own, in place. -/
def enroll (scope : Scope) (name : String) (templates : List String) (handler : H) :
    EStateM Failure (CommandSet H) Unit := do
  enrollAs scope (← get).stage name templates handler

/-- Adds a command with the templates that the control catalog lists for it under a stage, in
place. -/
def enrollFrom (scope : Scope) (control : Control) (stage command : String) (handler : H) :
    EStateM Failure (CommandSet H) Unit := do
  match control.templates stage command with
  | .error failure => throw failure
  | .ok templates => enrollAs scope stage command templates handler

/-- The set after a change, for whoever has no use for it when the change fails. -/
def after (set : CommandSet H) (change : EStateM Failure (CommandSet H) Unit) :
    Except Failure (CommandSet H) :=
  match change set with
  | .ok _ next => .ok next
  | .error failure _ => .error failure

/-- The set with a command of the stage's own. -/
def register (set : CommandSet H) (scope : Scope) (name : String) (templates : List String)
    (handler : H) : Except Failure (CommandSet H) :=
  set.after (enroll scope name templates handler)

/-- The set with a command with the templates that the control catalog lists for it under a stage. -/
def registerFrom (set : CommandSet H) (scope : Scope) (control : Control)
    (stage command : String) (handler : H) : Except Failure (CommandSet H) :=
  set.after (enrollFrom scope control stage command handler)

/-- The set with several commands that the control catalog lists under a stage. -/
def registerAll (set : CommandSet H) (scope : Scope) (control : Control) (stage : String)
    (handlers : List (String × H)) : Except Failure (CommandSet H) :=
  handlers.foldlM (fun set (command, handler) => set.registerFrom scope control stage command handler)
    set

/-- The commands that accept a line, each with the slots that the line fills. -/
def accepting (set : CommandSet H) (scope : Scope) (line : String) :
    List (Command H × Bindings) :=
  set.commands.filterMap fun command =>
    (command.pattern.matchLine scope line).map fun bindings => (command, bindings)

/-- Finds out which command a line is meant for. -/
def dispatch (set : CommandSet H) (scope : Scope) (line : String) : Dispatch H :=
  match set.accepting scope line with
  | [] => .unrecognized
  | [(command, bindings)] => .matched command.name command.handler bindings
  | several => .ambiguous (several.map (·.1.name))

/-- The names of the commands in the order of registration. -/
def names (set : CommandSet H) : List String := set.commands.map (·.name)

/-- The command of the given name. -/
def get? (set : CommandSet H) (name : String) : Option (Command H) :=
  set.commands.find? (·.name == name)

/-- How many commands there are. -/
def size (set : CommandSet H) : Nat := set.commands.length

end CommandSet

end Muster
