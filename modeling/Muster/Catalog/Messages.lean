import Muster.Catalog.Dictionary
import Muster.Failure
import Muster.Text.Message

/-!
# The message catalog

What the game says to the player, by stage and key.
-/

namespace Muster

/-- The messages of one stage. -/
abbrev StageMessages := Dictionary String

/-- The messages of every stage. -/
structure Messages where
  stages : Dictionary StageMessages := {}
  deriving Repr

namespace Messages

/-- Gives a stage its messages, in place of those it had. -/
def insertStage (messages : Messages) (stage : String) (texts : StageMessages) : Messages :=
  ⟨messages.stages.insert stage texts⟩

/-- Gives one key of a stage its message. -/
def insertMessage (messages : Messages) (stage key text : String) : Messages :=
  messages.insertStage stage (((messages.stages.get? stage).getD {}).insert key text)

/-- The message of a stage under a key. -/
def get (messages : Messages) (stage key : String) : Except Failure String :=
  match (messages.stages.get? stage).bind (·.get? key) with
  | some text => .ok text
  | none => fail (.missingMessage stage key)

theorem cause_of_get {messages : Messages} {stage key : String} {failure : Failure}
    (h : messages.get stage key = .error failure) : failure.cause = .missingMessage stage key := by
  unfold get at h
  split at h
  · cases h
  · cases h
    rfl

/-- The message under a key with its placeholders filled in. -/
def format (messages : Messages) (stage key : String) (values : List (String × String)) :
    Except Failure String :=
  (messages.get stage key).map (interpolate · values)

end Messages

end Muster
