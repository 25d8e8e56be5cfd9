import Muster.Catalog.Dictionary
import Muster.Failure

/-!
# The control catalog

The templates of every command, by stage and command name. A command without templates counts as
one that the catalog does not have.
-/

namespace Muster

/-- The templates of each command of one stage. -/
abbrev StageControl := Dictionary (List String)

/-- The templates of every stage. -/
structure Control where
  stages : Dictionary StageControl := {}
  deriving Repr

namespace Control

/-- Gives a stage its templates, in place of those it had. -/
def insertStage (control : Control) (stage : String) (commands : StageControl) : Control :=
  ⟨control.stages.insert stage commands⟩

/-- Gives one command of a stage its templates. -/
def insertCommand (control : Control) (stage command : String) (templates : List String) :
    Control :=
  control.insertStage stage (((control.stages.get? stage).getD {}).insert command templates)

/-- The templates of a command. -/
def templates (control : Control) (stage command : String) : Except Failure (List String) :=
  match (control.stages.get? stage).bind (·.get? command) with
  | some (first :: more) => .ok (first :: more)
  | _ => fail (.missingControl stage command)

/-- The names of the commands of a stage, in ascending order. -/
def commands (control : Control) (stage : String) : List String :=
  ((control.stages.get? stage).map Dictionary.keys).getD []

end Control

end Muster
