import Muster.Game.HelpBrowser

/-!
# The main menu

Where a game begins, and where it goes on after a party has been completed or given up.
-/

namespace Muster.Game.MainMenu

open Muster.Flow Play

/-- What the player can do in the main menu. -/
inductive Action where
  | help
  | quit
  | newParty
  deriving DecidableEq, Repr

/-- The commands of the main menu. -/
def commands (data : GameData) : Except Failure (CommandSet Action) :=
  stageCommands StageName.mainMenu (data.scope none) data.control
    [("help", .help), ("quit", .quit)] [("new party", .newParty)]

/-- Why the main menu is left. -/
inductive Departure where
  | quit
  | newParty
  deriving DecidableEq, Repr

/-- Does what the player wants. -/
def act (_ : Unit) (action : Action) (bindings : Bindings) : Play (Turn Unit Departure) := do
  match action with
  | .help =>
    HelpBrowser.answerHelp bindings
    return .again ()
  | .quit =>
    sayFarewell
    return .leave .quit
  | .newParty => return .leave .newParty

/-- Reads commands until the menu is left. -/
def attend (set : CommandSet Action) : Play Departure :=
  commandLoop StageName.mainMenu "prompt" set partylessScope act ()

/-- Greets the player. -/
def start (set : CommandSet Action) : Play Departure := do
  sayMessage StageName.mainMenu "greeting"
  attend set

/-- Says that the party is ready, if there is one. -/
def sayReady : Play Unit := do
  match ← party with
  | some party => sayFormat StageName.mainMenu "party ready" [("party_name", party.name)]
  | none => pure ()

/-- Goes on after the party has been completed or given up. -/
def afterParty (set : CommandSet Action) : Play Departure := do
  sayReady
  attend set

/-- The entry points of the main menu. -/
def entries (set : CommandSet Action) : EntryTable (Play Departure) where
  flow := StageName.mainMenu
  entries := [("start", .nullary (start set)), ("from party creation", .nullary (afterParty set))]

end Muster.Game.MainMenu
