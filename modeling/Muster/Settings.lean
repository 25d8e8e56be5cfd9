import Muster.Console
import Muster.Data.Builtin
import Muster.Data.Loader

/-!
# Settings

What can be chosen before a game begins: where the data comes from, how output is paged, and where
the lines come from that are read.
-/

namespace Muster

/-- The settings of a game. -/
structure Settings where
  /-- The data directory; the built-in data is used if there is none. -/
  dataDirectory : Option String := none
  /-- How many lines are written before the output stops. -/
  pageLines : Option Nat := some defaultPageLines
  /-- Which events are logged. -/
  logFilter : String := "warn"
  /-- Whether the title is shown. -/
  showBanner : Bool := true
  /-- The file that lines are read from, in place of the standard input. -/
  script : Option String := none
  deriving DecidableEq, Repr

namespace Settings

/-- The data that the settings ask for, provided that it can be played. -/
def loadData (settings : Settings) (tree : FileTree) : Except Failure GameData := do
  let data ← match settings.dataDirectory with
    | some directory => GameData.load tree directory
    | none => .ok GameData.builtin
  data.ensurePlayable
  return data

end Settings

end Muster
