import Muster.Data.FileTree
import Muster.Data.Format

/-!
# Loading game data

Game data lies in a directory with a file for each kind of content and stage. The directory is
looked for in several places: under its own path, beside the working directory's parent, and in the
directory for data that all users share. The files are read in a fixed order, and the first one that
is missing or cannot be understood is reported.
-/

namespace Muster

/-- Where data that all users share is kept. -/
def sharedDataDirectory : String := "/usr/share/toi"

/-- Where a data directory is looked for, in order. -/
def dataCandidates (directory : String) : List String :=
  if FilePath.isAbsolute directory then [directory]
  else
    [directory, FilePath.join ".." directory, FilePath.join sharedDataDirectory directory]

/-- The first place where the data directory is. -/
def FileTree.locateData (tree : FileTree) (directory : String) : Except Failure String :=
  match (dataCandidates directory).find? tree.isDirectory with
  | some found => .ok found
  | none => fail (.dataFile directory "directory not found")

namespace GameData

/-- The files with the templates of each stage. -/
def controlFiles : List (String × String) :=
  [(StageName.common, "control/common.yaml"), (StageName.mainMenu, "control/main_menu.yaml"),
    (StageName.partyCreation, "control/party_creation.yaml"),
    (StageName.characterCreation, "control/char_creation.yaml"),
    (StageName.help, "control/help.yaml")]

/-- The files with the messages of each stage. -/
def messageFiles : List (String × String) :=
  [(StageName.common, "strings/common.yaml"), (StageName.mainMenu, "strings/main_menu.yaml"),
    (StageName.partyCreation, "strings/party_creation.yaml"),
    (StageName.characterCreation, "strings/char_creation.yaml"),
    (StageName.help, "strings/help.yaml"), (StageName.console, "strings/io.yaml")]

/-- The file with the help texts. -/
def helpFile : String := "help.yaml"

/-- The file with the species. -/
def speciesFile : String := "game/species.yaml"

/-- The file with the backgrounds. -/
def backgroundsFile : String := "game/backgrounds.yaml"

/-- The files of a data directory. -/
def fileNames : List String :=
  controlFiles.map (·.2) ++ messageFiles.map (·.2) ++ [helpFile, speciesFile, backgroundsFile]

/-- Reads a file of a data directory. -/
def readFile {α : Type} (tree : FileTree) (directory : String) (format : DataFormat α)
    (file : String) : Except Failure α :=
  let path := FilePath.join directory file
  match tree.read path with
  | .ok text => format.read path text
  | .error problem => fail (.dataFile path problem.message)

/-- Reads the game data from the data directory of the given name. -/
def load (tree : FileTree) (directory : String) : Except Failure GameData := do
  let directory ← tree.locateData directory
  let control ← controlFiles.foldlM
    (fun control (stage, file) =>
      return control.insertStage stage (← readFile tree directory DataFormat.control file))
    ({} : Control)
  let messages ← messageFiles.foldlM
    (fun messages (stage, file) =>
      return messages.insertStage stage (← readFile tree directory DataFormat.messages file))
    ({} : Messages)
  let help ← readFile tree directory DataFormat.help helpFile
  let species ← readFile tree directory DataFormat.species speciesFile
  let backgrounds ← readFile tree directory DataFormat.backgrounds backgroundsFile
  return { control, messages, help, species, backgrounds }

/-- The files of a data directory that holds the given data. -/
def files (data : GameData) : List (String × String) :=
  controlFiles.map (fun (stage, file) =>
      (file, DataFormat.control.write ((data.control.stages.get? stage).getD {}))) ++
    messageFiles.map (fun (stage, file) =>
      (file, DataFormat.messages.write ((data.messages.stages.get? stage).getD {}))) ++
    [(helpFile, DataFormat.help.write data.help),
      (speciesFile, DataFormat.species.write data.species),
      (backgroundsFile, DataFormat.backgrounds.write data.backgrounds)]

/-- A tree in which the game data has been written into a directory. -/
def writeTo (data : GameData) (directory : String) (tree : FileTree) : FileTree :=
  data.files.foldl (fun tree (file, text) => tree.write (FilePath.join directory file) text) tree

end GameData

end Muster
