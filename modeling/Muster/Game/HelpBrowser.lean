import Muster.Game.Commands

/-!
# The help browser

Shows the text of one help topic, or lets the player read one after the other.
-/

namespace Muster.Game.HelpBrowser

open Muster.Flow Play

/-- What the player can do in the help browser. -/
inductive Action where
  | read
  | topics
  | back
  deriving DecidableEq, Repr

/-- The commands of the help browser. -/
def commands (data : GameData) : Except Failure (CommandSet Action) :=
  stageCommands StageName.help (data.scope none) data.control []
    [("read", .read), ("topics", .topics), ("back", .back)]

/-- Says the text of a topic, or that there is none. -/
def showTopic (topic : String) : Play Unit := do
  match (← data).help.topic? topic with
  | some text => say text
  | none => sayFormat StageName.help "no topic" [("topic", topic)]

/-- Does what the player wants; going back leaves the browser. -/
def act (_ : Unit) (action : Action) (bindings : Bindings) : Play (Turn Unit (Option Value)) := do
  match action with
  | .read =>
    match bindings.text? .topic with
    | some topic => showTopic topic
    | none => pure ()
    return .again ()
  | .topics =>
    sayMessage StageName.help "topics"
    (← data).help.topicNames.forM sayItem
    return .again ()
  | .back =>
    sayMessage StageName.help "leaving"
    return .leave none

/-- Shows the index and reads commands. -/
def general (set : CommandSet Action) : Play (Option Value) := do
  say (← data).help.index
  sayMessage StageName.help "general"
  commandLoop StageName.help "prompt" set partylessScope act ()

/-- Shows a single topic. -/
def particular (topic : Value) : Play (Option Value) := do
  match topic with
  | .text topic =>
    showTopic topic
    return none
  | .int _ => throw { cause := .internal ("help topic must be text, got " ++ topic.shown) }

/-- The entry points of the help browser. -/
def entries (set : CommandSet Action) : EntryTable (Play (Option Value)) where
  flow := StageName.help
  entries := [("general", .nullary (general set)), ("particular", .unary particular)]

/-- Enters the help browser. -/
def call (set : CommandSet Action) (entry : String) (arg : Option Value) : Play (Option Value) :=
  callAt (entries set) entry arg

/-- The command for help, which other stages have: about the topic that fills its slot, or in
general. -/
def answerHelp (bindings : Bindings) : Play Unit := do
  let set ← ofExcept (commands (← data))
  match bindings.text? .topic with
  | some topic =>
    let _ ← call set "particular" (some (.text topic))
  | none =>
    let _ ← call set "general" none

end Muster.Game.HelpBrowser
