import Muster.Catalog.Control
import Muster.Catalog.HelpTexts
import Muster.Catalog.Messages
import Muster.Pattern.Scope

/-!
# Game data

What a game is played with: the templates of the commands, the messages and help texts, and what
characters can be made of. None of it changes during a game.
-/

namespace Muster

/-- Everything that is fixed before a game begins. -/
structure GameData where
  control : Control := {}
  messages : Messages := {}
  help : HelpTexts := {}
  species : List Species := []
  backgrounds : List Background := []
  deriving Repr

namespace GameData

/-- Fails unless there are a species and a background to choose. -/
def ensurePlayable (data : GameData) : Except Failure Unit :=
  if data.species.isEmpty then fail (.dataFile "game/species.yaml" "no species defined")
  else if data.backgrounds.isEmpty then
    fail (.dataFile "game/backgrounds.yaml" "no backgrounds defined")
  else .ok ()

/-- The statistics of each species and the modifiers of each background have sums in range. -/
def SumsFit (data : GameData) : Prop :=
  ∀ species ∈ data.species, ∀ background ∈ data.backgrounds,
    species.stats.Fits background.modifiers

instance (data : GameData) : Decidable data.SumsFit :=
  inferInstanceAs (Decidable (∀ species ∈ data.species, ∀ background ∈ data.backgrounds,
    species.stats.Fits background.modifiers))

/-- What slots can refer to, given the party there is. -/
def scope (data : GameData) (party : Option Party) : Scope where
  species := data.species
  backgrounds := data.backgrounds
  party := party

end GameData

/-! ## Stages

The parts of the game. Templates and messages are listed under these names. -/

namespace StageName

/-- What all stages share. -/
def common : String := "common"

def startup : String := "startup"

def mainMenu : String := "main menu"

def partyCreation : String := "party creation"

def characterCreation : String := "character creation"

def help : String := "help"

/-- The messages of the console itself. -/
def console : String := "io"

end StageName

end Muster
