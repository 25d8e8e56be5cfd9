import Muster.Roster.Origin
import Muster.Text.Message

/-!
# Characters

A character has a number, a name, a species and a background, and the statistics that follow from
these two. It answers to its name and to its aliases, which are kept in normal form. The first word
of the name gives the *default alias*; a new name takes the old default alias away and brings its
own.
-/

namespace Muster

/-- A player's character. -/
structure Character where
  /-- The number of the character within its party. -/
  id : Nat
  name : String
  aliases : List String
  species : Species
  background : Background
  /-- The statistics of the species, as modified by the background. -/
  stats : Stats
  deriving DecidableEq, Repr

/-- The first word of a name in normal form, if the name has a word. -/
def defaultAlias? (name : String) : Option String :=
  (Text.words name.toList).head?.map fun word => String.ofList (Text.normal word)

namespace Character

/-- Works out the statistics anew from the species and the background. -/
def recomputeStats (character : Character) : Character :=
  { character with stats := character.species.stats.apply character.background.modifiers }

/-- Gives the character another species. -/
def changeSpecies (character : Character) (species : Species) : Character :=
  { character with species }.recomputeStats

/-- Gives the character another background. -/
def changeBackground (character : Character) (background : Background) : Character :=
  { character with background }.recomputeStats

/-- How the number of a character is shown. -/
def shownId (character : Character) : String := "#" ++ toString character.id

/-- Adds an alias in normal form, unless it is empty or there already. -/
def addAlias (character : Character) (text : String) : Character :=
  let wanted := normalize text
  if wanted.isEmpty || character.aliases.contains wanted then character
  else { character with aliases := character.aliases ++ [wanted] }

/-- Takes an alias away. -/
def removeAlias (character : Character) (text : String) : Character :=
  let wanted := normalize text
  { character with aliases := character.aliases.filter (· != wanted) }

/-- Leaves the default alias alone. -/
def resetAliases (character : Character) : Character :=
  { character with aliases := (defaultAlias? character.name).toList }

/-- Gives the character a new name, and the default alias of the new name for that of the old. -/
def rename (character : Character) (name : String) : Character :=
  let nameless := match defaultAlias? character.name with
    | some old => character.removeAlias old
    | none => character
  let renamed := { nameless with name := name }
  match defaultAlias? name with
  | some new => renamed.addAlias new
  | none => renamed

/-- A character with the statistics of its species and background and the default alias of its
name. -/
def create (id : Nat) (name : String) (species : Species) (background : Background) : Character :=
  let unnamed : Character := { id, name := "", aliases := [], species, background, stats := {} }
  unnamed.recomputeStats.rename name

/-- Whether a text in normal form is the character's name or one of its aliases. -/
def answersTo (character : Character) (wanted : String) : Bool :=
  normalize character.name == wanted || character.aliases.contains wanted

/-- Describes the character by a message that may mention its name, species and background. -/
def describe (character : Character) (message : String) : String :=
  interpolate message
    [("name", character.name), ("species", character.species.shortName),
      ("bg", character.background.shortName)]

end Character

end Muster
