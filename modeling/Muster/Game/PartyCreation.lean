import Muster.Game.CharacterCreation

/-!
# Party creation

The player names a party and lets characters join it. The party that is being assembled is the party
of the game from the moment it has a name; it stays so when it is done, and there is none when it is
given up. Slots for characters refer to its members as they are when a line is read.
-/

namespace Muster.Game.PartyCreation

open Muster.Flow Play

/-- What the player can do in party creation. -/
inductive Action where
  | abort
  | help
  | quit
  | add
  | edit
  | delete
  | renameCharacter
  | renameParty
  | list
  | done
  deriving DecidableEq, Repr

/-- The commands of party creation. -/
def commands (data : GameData) : Except Failure (CommandSet Action) :=
  stageCommands StageName.partyCreation (data.scope (some (Party.named ""))) data.control
    [("abort", .abort), ("help", .help), ("quit", .quit)]
    [("add", .add), ("edit", .edit), ("delete", .delete), ("rename character", .renameCharacter),
      ("rename party", .renameParty), ("list", .list), ("done", .done)]

/-- Why party creation is left. -/
inductive Departure where
  | quit
  /-- The party has been completed or given up. -/
  | toMainMenu
  deriving DecidableEq, Repr

/-- The party being assembled. -/
def roster : Play Party := return (← party).getD (Party.named "")

/-- What slots can refer to. -/
def rosterScope : Play Scope := return (← data).scope (some (← roster))

/-- The member that a slot names. Tells the player if it names nobody. -/
def namedMember (bindings : Bindings) : Play (Option Character) := do
  let roster ← roster
  match bindings.member?.bind roster.get? with
  | some member => return some member
  | none =>
    sayMessage StageName.common "no such char"
    return none

/-- Lets a new character join. -/
def add : Play Unit := do
  let set ← ofExcept (CharacterCreation.commands (← data))
  let (party, value) ← CharacterCreation.call set (← roster) "new" none
  setParty (some party)
  match (value.bind Value.int?).bind (CharacterCreation.memberOf? party) with
  | some member => sayFormat StageName.partyCreation "added" [("name", member.name)]
  | none => sayMessage StageName.partyCreation "add aborted"

/-- Changes a member. -/
def edit (member : Character) : Play Unit := do
  let set ← ofExcept (CharacterCreation.commands (← data))
  let (party, value) ← CharacterCreation.call set (← roster) "edit" (some (.int member.id))
  setParty (some party)
  -- without a value the draft was given up, and nothing is said about it
  match value.bind fun _ => party.get? member.id with
  | some member => sayFormat StageName.partyCreation "edited" [("name", member.name)]
  | none => pure ()

/-- Lets a member go, if the player is sure. -/
def delete (member : Character) : Play Unit := do
  let question ← ofExcept <| (← data).messages.format StageName.partyCreation "delete confirm"
    [("name", member.name)]
  if ← askYesNo question then
    setParty (some ((← roster).remove member.id))
    sayFormat StageName.partyCreation "deleted" [("name", member.name)]
  else
    sayFormat StageName.partyCreation "kept" [("name", member.name)]

/-- Gives a member the name that fills a slot. -/
def renameCharacter (member : Character) (bindings : Bindings) : Play Unit := do
  let name := displayName ((bindings.text? .name).getD "")
  setParty (some ((← roster).update member.id (·.rename name)))
  sayFormat StageName.partyCreation "renamed char" [("old", member.name), ("name", name)]

/-- Gives the party the name that fills a slot. -/
def renameParty (bindings : Bindings) : Play Unit := do
  let name := displayName ((bindings.text? .name).getD "")
  setParty (some ((← roster).rename name))
  sayFormat StageName.partyCreation "renamed party" [("party_name", name)]

/-- Says who has joined. -/
def list : Play Unit := do
  let roster ← roster
  sayFormat StageName.partyCreation "name is" [("party_name", roster.name)]
  if roster.isEmpty then sayMessage StageName.partyCreation "empty party"
  else
    sayMessage StageName.partyCreation "character list"
    let line ← text StageName.partyCreation "char line"
    roster.members.forM fun member => sayItem (member.describe line)

/-- Completes the party, unless nobody has joined. -/
def done : Play (Turn Unit Departure) := do
  let roster ← roster
  if roster.isEmpty then
    sayMessage StageName.partyCreation "cannot finish"
    return .again ()
  else
    sayFormat StageName.partyCreation "finished" [("party_name", roster.name)]
    return .leave .toMainMenu

/-- Does something with the member that a slot names, if it names one. -/
def withNamed (bindings : Bindings) (body : Character → Play Unit) :
    Play (Turn Unit Departure) := do
  match ← namedMember bindings with
  | some member => body member
  | none => pure ()
  return .again ()

/-- Does what the player wants. -/
def act (_ : Unit) (action : Action) (bindings : Bindings) : Play (Turn Unit Departure) := do
  match action with
  | .abort =>
    sayMessage StageName.common "okay"
    setParty none
    return .leave .toMainMenu
  | .help =>
    HelpBrowser.answerHelp bindings
    return .again ()
  | .quit =>
    sayFarewell
    return .leave .quit
  | .add =>
    add
    return .again ()
  | .edit => withNamed bindings edit
  | .delete => withNamed bindings delete
  | .renameCharacter => withNamed bindings fun member => renameCharacter member bindings
  | .renameParty =>
    renameParty bindings
    return .again ()
  | .list =>
    list
    return .again ()
  | .done => done

/-- Reads commands until the party is completed or given up. -/
def assemble (set : CommandSet Action) : Play Departure :=
  commandLoop StageName.partyCreation "what next" set rosterScope act ()

/-- Names a new party, which takes the place of the one before, and assembles it. -/
def start (set : CommandSet Action) : Play Departure := do
  sayMessage StageName.partyCreation "greeting"
  let name ← askName StageName.partyCreation "name prompt"
  setParty (some (Party.named name))
  sayFormat StageName.partyCreation "name is" [("party_name", name)]
  assemble set

/-- The entry points of party creation. -/
def entries (set : CommandSet Action) : EntryTable (Play Departure) where
  flow := StageName.partyCreation
  entries := [("from main menu", .nullary (start set))]

end Muster.Game.PartyCreation
