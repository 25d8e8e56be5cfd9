import Muster.Roster.Stats
import Muster.Text.Normal

/-!
# Species and backgrounds

What a player picks for a character: a species, which gives the statistics to begin with, and a
background, which modifies them. Both go by a full and a short name.
-/

namespace Muster

/-- The full and the short name of something that can be picked. -/
structure Naming where
  name : String
  shortName : String
  deriving DecidableEq, Repr

/-- Whether a text in normal form is the full or the short name. -/
def Naming.answersTo (naming : Naming) (wanted : String) : Bool :=
  normalize naming.name == wanted || normalize naming.shortName == wanted

/-- A playable species, with the statistics its members start from. -/
structure Species extends Naming where
  stats : Stats
  deriving DecidableEq, Repr

/-- A playable background, with what it adds to the statistics of the species. -/
structure Background extends Naming where
  modifiers : Stats := {}
  deriving DecidableEq, Repr

end Muster
