import Muster.Game.HelpBrowser

/-!
# Character creation

A character is made or changed as a draft. The party that it belongs to stays as it is until the
draft is done; then the character joins the party, or the member that was to be changed takes over
the draft. So what this stage does is to turn a party into a party, with the number of the character
as its value, or to return the party as it was.
-/

namespace Muster.Game.CharacterCreation

open Muster.Flow Play

/-- What the player can do in character creation. -/
inductive Action where
  | help
  | abort
  | done
  | overview
  | listSpecies
  | listBackgrounds
  | setSpecies
  | setBackground
  | rename
  deriving DecidableEq, Repr

/-- The commands of character creation. -/
def commands (data : GameData) : Except Failure (CommandSet Action) :=
  stageCommands StageName.characterCreation (data.scope none) data.control
    [("help", .help), ("abort", .abort)]
    [("done", .done), ("overview", .overview), ("list species", .listSpecies),
      ("list bgs", .listBackgrounds), ("set species", .setSpecies), ("set bg", .setBackground),
      ("rename", .rename)]

/-- A character in the making. -/
structure Draft where
  name : String
  species : Option Species := none
  background : Option Background := none
  deriving DecidableEq, Repr

/-- A draft with everything that a character needs. -/
structure Finished where
  name : String
  species : Species
  background : Background
  deriving DecidableEq, Repr

/-- Says the lines of some options, each with its full and its short name. -/
def sayOptions (options : List Naming) : Play Unit :=
  options.forM fun option => do
    let line ← ofExcept <| (← data).messages.format StageName.characterCreation "option line"
      [("name", option.name), ("short", option.shortName)]
    sayItem line

/-- Says what the draft holds so far, and the statistics once they are certain. -/
def overview (draft : Draft) : Play Unit := do
  let unset ← text StageName.characterCreation "not selected"
  let line (key value : String) : Play String := do
    ofExcept ((← data).messages.format StageName.characterCreation key [(key, value)])
  let name ← line "name" draft.name
  let species ← line "species" ((draft.species.map (·.name)).getD unset)
  let background ← line "bg" ((draft.background.map (·.name)).getD unset)
  [name, species, background].forM say
  match draft.species, draft.background with
  | some species, some background =>
    tally [.stats species.stats background.modifiers]
    sayFormat StageName.characterCreation "stats"
      [("stats", (species.stats.apply background.modifiers).describe)]
  | _, _ => pure ()

/-- Does what the player wants. The stage is left without a character when it is aborted, and with
a finished draft when it is done. -/
def act (draft : Draft) (action : Action) (bindings : Bindings) :
    Play (Turn Draft (Option Finished)) := do
  match action with
  | .help =>
    HelpBrowser.answerHelp bindings
    return .again draft
  | .abort =>
    sayMessage StageName.common "okay"
    return .leave none
  | .overview =>
    overview draft
    return .again draft
  | .listSpecies =>
    sayMessage StageName.characterCreation "species list"
    sayOptions ((← data).species.map (·.toNaming))
    return .again draft
  | .listBackgrounds =>
    sayMessage StageName.characterCreation "bg list"
    sayOptions ((← data).backgrounds.map (·.toNaming))
    return .again draft
  | .setSpecies =>
    match bindings.species? with
    | some species =>
      sayFormat StageName.characterCreation "species set" [("species", species.name)]
      return .again { draft with species := some species }
    | none =>
      sayMessage StageName.characterCreation "invalid species"
      return .again draft
  | .setBackground =>
    match bindings.background? with
    | some background =>
      sayFormat StageName.characterCreation "bg set" [("bg", background.name)]
      return .again { draft with background := some background }
    | none =>
      sayMessage StageName.characterCreation "invalid bg"
      return .again draft
  | .rename =>
    let name := displayName ((bindings.text? .name).getD "")
    if name.isEmpty then return .again draft
    else
      sayFormat StageName.characterCreation "renamed" [("name", name)]
      return .again { draft with name }
  | .done =>
    match draft.species, draft.background with
    -- of two things that are missing the species is asked for
    | none, _ =>
      sayMessage StageName.characterCreation "species not selected"
      return .again draft
    | some _, none =>
      sayMessage StageName.characterCreation "bg not selected"
      return .again draft
    | some species, some background =>
      return .leave (some { name := draft.name, species, background })

/-- Reads commands until the draft is done or given up. -/
def finishDraft (set : CommandSet Action) (draft : Draft) : Play (Option Finished) :=
  commandLoop StageName.characterCreation "prompt" set partylessScope act draft

/-- The party with the finished character, and the character's number. The member of the given
number is changed, if there is one; otherwise the character joins. -/
def save (party : Party) (editing : Option Nat) (finished : Finished) : Party × Nat :=
  match editing.bind party.get? with
  | some member =>
    (party.update member.id fun member =>
      ((member.rename finished.name).changeSpecies finished.species).changeBackground
        finished.background, member.id)
  | none =>
    (party.add finished.name finished.species finished.background, party.freshId)

/-- What is added up when the finished character is saved. The statistics of a member are worked out
once with its new species and once more with its new background. -/
def additions (party : Party) (editing : Option Nat) (finished : Finished) : List Addition :=
  match editing.bind party.get? with
  | some member =>
    [.stats finished.species.stats member.background.modifiers,
      .stats finished.species.stats finished.background.modifiers]
  | none =>
    [.number party.freshId, .stats finished.species.stats finished.background.modifiers]

/-- The party after a stage that was left with or without a finished character. -/
def conclude (party : Party) (editing : Option Nat) : Option Finished → Party × Option Value
  | none => (party, none)
  | some finished =>
    let (party, id) := save party editing finished
    (party, some (.int id))

/-- Saves the finished character, if there is one. -/
def settle (party : Party) (editing : Option Nat) (finished : Option Finished) :
    Play (Party × Option Value) := do
  tally ((finished.map (additions party editing)).getD [])
  return conclude party editing finished

/-- Asks for a name and has a new character made. -/
def draftNew (set : CommandSet Action) : Play (Option Finished) := do
  sayMessage StageName.characterCreation "greeting"
  let name ← askName StageName.characterCreation "name prompt"
  finishDraft set { name }

/-- Has a member changed, from what it is. -/
def draftMember (set : CommandSet Action) (member : Character) : Play (Option Finished) := do
  sayFormat StageName.characterCreation "edit greeting" [("name", member.name)]
  finishDraft set
    { name := member.name, species := some member.species, background := some member.background }

/-- Makes a new character. -/
def create (set : CommandSet Action) (party : Party) : Play (Party × Option Value) := do
  settle party none (← draftNew set)

/-- The member with the number that a value gives. -/
def memberOf? (party : Party) (id : Int) : Option Character :=
  if id < 0 then none else party.get? id.toNat

/-- Changes the member of the given number. -/
def edit (set : CommandSet Action) (party : Party) (id : Value) : Play (Party × Option Value) := do
  match id with
  | .text _ => throw { cause := .internal ("character id must be an integer, got " ++ id.shown) }
  | .int id =>
    match memberOf? party id with
    | none =>
      sayMessage StageName.common "no such char"
      return (party, none)
    | some member => settle party (some member.id) (← draftMember set member)

/-- The entry points of character creation over a party. -/
def entries (set : CommandSet Action) (party : Party) :
    EntryTable (Play (Party × Option Value)) where
  flow := StageName.characterCreation
  entries := [("new", .nullary (create set party)), ("edit", .unary (edit set party))]

/-- Enters character creation over a party. -/
def call (set : CommandSet Action) (party : Party) (entry : String) (arg : Option Value) :
    Play (Party × Option Value) :=
  callAt (entries set party) entry arg

end Muster.Game.CharacterCreation
