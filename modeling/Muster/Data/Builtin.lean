import Muster.Data.GameData

/-!
# The built-in game data

The commands, messages, help texts, species and backgrounds of the game as it is played when no data
directory is given.
-/

namespace Muster.Builtin

/-- The commands that several stages have. -/
def commonControl : StageControl := .ofList
  [("abort", ["abort", "cancel"]),
   ("help", ["help [{topic}]", "? [{topic}]"]),
   ("no", ["no", "n", "nope"]),
   ("quit", ["quit", "exit"]),
   ("yes", ["yes", "y", "sure"])]

/-- The commands of the main menu. -/
def mainMenuControl : StageControl := .ofList
  [("new party", ["new [game]", "new party", "start [a] [new] [game]", "play"])]

/-- The commands of party creation. -/
def partyCreationControl : StageControl := .ofList
  [("add", ["add [a] [new] [character]", "new character", "create [a] [new] character"]),
   ("delete", ["delete {pc}", "remove {pc}", "kick {pc}"]),
   ("done", ["done", "finish", "ready"]),
   ("edit", ["edit {pc}", "change {pc}"]),
   ("list", ["list", "party", "roster", "show [the] party"]),
   ("rename character", ["rename {pc} to {name}"]),
   ("rename party", ["name [the] party {name}", "call [the] party {name}"])]

/-- The commands of character creation. -/
def characterCreationControl : StageControl := .ofList
  [("done", ["done", "finish", "ok"]),
   ("list bgs", ["list backgrounds", "list bgs", "backgrounds", "bgs"]),
   ("list species", ["list species", "species"]),
   ("overview", ["overview", "status", "look", "show [character]"]),
   ("rename", ["name {name}", "rename [to] {name}"]),
   ("set bg", ["set background [to] {bg}", "set bg [to] {bg}", "background {bg}", "bg {bg}"]),
   ("set species", ["set species [to] {species}", "species {species}"])]

/-- The commands of the help browser. -/
def helpControl : StageControl := .ofList
  [("back", ["back", "done", "exit", "quit"]),
   ("read", ["read {topic}", "about {topic}", "help [on] {topic}"]),
   ("topics", ["topics", "index", "help"])]

/-- The messages that several stages have. -/
def commonMessages : StageMessages := .ofList
  [("ambiguous cmd", "That could mean more than one thing:"),
   ("empty cmd", "Please type a command. Try 'help' if you are lost."),
   ("farewell", "Farewell!"),
   ("farewell with party name", "Farewell, {party_name}!"),
   ("just yes no abort", "Please answer yes, no, or abort."),
   ("just yes or no", "Please answer yes or no."),
   ("list leader", "* "),
   ("no such char", "There is nobody by that name in the party."),
   ("okay", "Okay."),
   ("what", "What?")]

/-- The messages of the main menu. -/
def mainMenuMessages : StageMessages := .ofList
  [("greeting",
    "Welcome, traveller.\n" ++
      "Type 'new party' to gather your companions, 'help' for help, or 'quit' to leave.\n"),
   ("party ready", "Your party, {party_name}, awaits your orders."),
   ("prompt", "Main menu >")]

/-- The messages of party creation. -/
def partyCreationMessages : StageMessages := .ofList
  [("add aborted", "Nobody new joins."),
   ("added", "{name} joins the party."),
   ("cannot finish", "A party needs at least one member."),
   ("char line", "{name}, {species} {bg}"),
   ("character list", "Members:"),
   ("delete confirm", "Really send {name} away?"),
   ("deleted", "{name} leaves the party."),
   ("edited", "{name} is ready."),
   ("empty party", "Nobody has joined yet."),
   ("finished", "{party_name} is complete."),
   ("greeting", "Every journey starts with a company. Let us assemble yours."),
   ("kept", "{name} stays."),
   ("name is", "Party: {party_name}"),
   ("name prompt", "What is your party called?"),
   ("renamed char", "{old} will now be known as {name}."),
   ("renamed party", "The party is now called {party_name}."),
   ("what next", "Party >")]

/-- The messages of character creation. -/
def characterCreationMessages : StageMessages := .ofList
  [("bg", "Background: {bg}"),
   ("bg list", "Available backgrounds:"),
   ("bg not selected", "Choose a background first."),
   ("bg set", "Background: {bg}."),
   ("edit greeting", "{name} steps forward."),
   ("greeting", "A new face approaches."),
   ("invalid bg", "That is not a valid background. Type 'backgrounds' to see the options."),
   ("invalid species", "That is not a valid species. Type 'species' to see the options."),
   ("name", "Name: {name}"),
   ("name prompt", "What is the character's name?"),
   ("not selected", "not selected"),
   ("option line", "{name} ({short})"),
   ("prompt", "Character >"),
   ("renamed", "The character is now called {name}."),
   ("species", "Species: {species}"),
   ("species list", "Available species:"),
   ("species not selected", "Choose a species first."),
   ("species set", "Species: {species}."),
   ("stats", "Stats: {stats}")]

/-- The messages of the help browser. -/
def helpMessages : StageMessages := .ofList
  [("general", "Type 'read <topic>' for details, 'topics' for the list, or 'back' to return."),
   ("leaving", "Back to the game."),
   ("no topic", "There is no help on '{topic}'."),
   ("prompt", "Help >"),
   ("topics", "Help topics:")]

/-- The messages of the console. -/
def consoleMessages : StageMessages := .ofList
  [("continue", "-- press enter to continue --")]

/-- The help texts. -/
def helpTexts : HelpTexts where
  index :=
    "Commands are typed as plain phrases, like 'add character' or 'set species elf'.\n" ++
      "Words in the help texts between [brackets] are optional.\n"
  topics := .ofList
    [("backgrounds",
      "Backgrounds adjust statistics on top of your species. Type 'backgrounds'\n" ++
        "while creating a character to see them all.\n"),
     ("characters",
      "While creating a character, pick a species with 'species <name>' and a\n" ++
        "background with 'background <name>'. 'overview' shows your choices and\n" ++
        "'done' adds the character to the party.\n"),
     ("commands",
      "Every screen accepts 'help' and 'help <topic>'.\n" ++
        "Most screens also accept 'abort' to go back and 'quit' to leave the game.\n"),
     ("party",
      "In party creation you can 'add' a character, 'edit <name>', 'delete <name>',\n" ++
        "'rename <name> to <new name>', 'name party <new name>', 'list' the members,\n" ++
        "and say 'done' when the party is complete.\n"),
     ("species",
      "Species set your starting statistics. Type 'species' while creating a\n" ++
        "character to see them all. Short names work too.\n")]

/-- The playable species. -/
def species : List Species :=
  [{ name := "Human", shortName := "Hum"
     stats := { str := 10, dex := 10, int := 10, spi := 10, cha := 10, luc := 10 } },
   { name := "Wood Elf", shortName := "Elf"
     stats := { str := 8, dex := 12, int := 11, spi := 11, cha := 10, luc := 8 } },
   { name := "Dwarf", shortName := "Dwa"
     stats := { str := 12, dex := 9, int := 10, spi := 10, cha := 8, luc := 11 } },
   { name := "Halfling", shortName := "Hlf"
     stats := { str := 7, dex := 12, int := 10, spi := 9, cha := 11, luc := 13 } },
   { name := "Orc", shortName := "Orc"
     stats := { str := 13, dex := 9, int := 8, spi := 10, cha := 8, luc := 10 } }]

/-- The playable backgrounds. -/
def backgrounds : List Background :=
  [{ name := "Mercenary", shortName := "Merc", modifiers := { str := 2, cha := -1 } },
   { name := "Scholar", shortName := "Sch", modifiers := { int := 2, str := -1 } },
   { name := "Thief", shortName := "Thf", modifiers := { dex := 2, luc := 1, cha := -1 } },
   { name := "Priest", shortName := "Pri", modifiers := { spi := 2, dex := -1 } },
   { name := "Ranger", shortName := "Rng", modifiers := { dex := 1, spi := 1 } }]

end Muster.Builtin

namespace Muster

/-- The game data that is there without any files. -/
def GameData.builtin : GameData where
  control := ⟨.ofList
    [(StageName.common, Builtin.commonControl), (StageName.mainMenu, Builtin.mainMenuControl),
     (StageName.partyCreation, Builtin.partyCreationControl),
     (StageName.characterCreation, Builtin.characterCreationControl),
     (StageName.help, Builtin.helpControl)]⟩
  messages := ⟨.ofList
    [(StageName.common, Builtin.commonMessages), (StageName.mainMenu, Builtin.mainMenuMessages),
     (StageName.partyCreation, Builtin.partyCreationMessages),
     (StageName.characterCreation, Builtin.characterCreationMessages),
     (StageName.help, Builtin.helpMessages), (StageName.console, Builtin.consoleMessages)]⟩
  help := Builtin.helpTexts
  species := Builtin.species
  backgrounds := Builtin.backgrounds

end Muster
