import Muster.Data.GameData
import Muster.Yaml.Decode
import Muster.Yaml.Printer
import Muster.Text.Words

/-!
# Data files

The content of each kind of data file, read from its document and written as one. A file that is
blank holds nothing.
-/

namespace Muster

open Muster.Yaml

/-- A way of reading a kind of content from a document and of writing it. -/
structure DataFormat (α : Type) where
  decode : Node → Decoding α
  encode : α → Node

namespace DataFormat

/-- A text that stays a text when it is read. -/
private def textNode (text : String) : Node := .scalar .quoted none text

/-- A dictionary as a mapping. -/
private def dictionaryNode {α : Type} (encode : α → Node) (dictionary : Dictionary α) : Node :=
  .mapping none (dictionary.entries.map fun (key, value) => (textNode key, encode value))

/-- Statistics by their labels. Those that are not mentioned are zero. -/
def stats : DataFormat Stats where
  decode node :=
    return Stats.ofEntries (← Decoding.pairs (Decoding.choice Stat.ofLabel?) Decoding.number node)
  encode stats :=
    .mapping none (Stat.all.map fun stat =>
      (textNode stat.label, .scalar .plain none (toString (stats.get stat))))

/-- A list of species, each with its names and statistics. -/
def species : DataFormat (List Species) where
  decode := Decoding.list fun node => do
    match ← Decoding.fields ["name", "shortname", "stats"] node with
    | [some name, some shortName, some given] =>
      return { name := ← Decoding.text name, shortName := ← Decoding.text shortName,
               stats := ← stats.decode given }
    | _ => failure
  encode list := .sequence none (list.map fun species =>
    .mapping none [(textNode "name", textNode species.name),
      (textNode "shortname", textNode species.shortName),
      (textNode "stats", stats.encode species.stats)])

/-- A list of backgrounds, each with its names and, if there are any, its modifiers. -/
def backgrounds : DataFormat (List Background) where
  decode := Decoding.list fun node => do
    match ← Decoding.fields ["name", "shortname", "modifiers"] node with
    | [some name, some shortName, given] =>
      return { name := ← Decoding.text name, shortName := ← Decoding.text shortName,
               modifiers := ← stats.decode (given.getD Node.absent) }
    | _ => failure
  encode list := .sequence none (list.map fun background =>
    .mapping none [(textNode "name", textNode background.name),
      (textNode "shortname", textNode background.shortName),
      (textNode "modifiers", stats.encode background.modifiers)])

/-- The messages of a stage. -/
def messages : DataFormat StageMessages where
  decode := Decoding.dictionary Decoding.text
  encode := dictionaryNode textNode

/-- The help texts. -/
def help : DataFormat HelpTexts where
  decode node := do
    match ← Decoding.fields ["index", "topics"] node with
    | [index, topics] =>
      return { index := ← Decoding.text (index.getD Node.absent),
               topics := ← messages.decode (topics.getD Node.absent) }
    | _ => failure
  encode texts :=
    .mapping none [(textNode "index", textNode texts.index),
      (textNode "topics", messages.encode texts.topics)]

/-- The templates of one command: a single one or a list. Here a scalar counts as a text only if it
cannot mean anything else. -/
def templates (node : Node) : Decoding (List String) := do
  match ← Decoding.follow node with
  | .sequence (some (.own _)) _ => failure
  | .sequence _ items => items.mapM Decoding.properText
  | node => return [← Decoding.properText node]

/-- The templates of the commands of a stage. -/
def control : DataFormat StageControl where
  decode := Decoding.dictionary templates
  encode := dictionaryNode fun templates => .sequence none (templates.map textNode)

/-- Reads the content of a file, whose path names it in case it cannot be understood. -/
def read {α : Type} (format : DataFormat α) (path text : String) : Except Failure α :=
  let document? :=
    if Text.isBlank text.toList then some Document.blank else Document.ofText? text
  match document?.bind (Decoding.run? format.decode) with
  | some content => .ok content
  | none => fail (.dataFile path "not a document of this kind")

/-- Writes the content of a file. -/
def write {α : Type} (format : DataFormat α) (content : α) : String :=
  String.ofList ((format.encode content).print ++ ['\n'])

end DataFormat

end Muster
