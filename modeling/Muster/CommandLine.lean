import Muster.Game.Stage
import Muster.LogFilter
import Muster.Settings
import Muster.Text.Clusters
import Muster.Text.Digits

/-!
# The command line

The arguments of the program say how it is to be run; the run gives what is written to the standard
output and the standard error, and an exit code. A run is a function of the arguments, the files
there are and the lines that can be read, so that it can be repeated when there are more lines.
-/

namespace Muster

/-- What is wrong with the arguments. -/
inductive UsageError where
  | unknownOption (argument : String)
  | missingValue (option : String)
  | badPageLines (value : String)
  deriving DecidableEq, Repr

/-- The wording of a usage error. -/
def UsageError.message : UsageError → String
  | .unknownOption argument => "unknown option: " ++ argument
  | .missingValue option => option ++ " requires a value"
  | .badPageLines value => "invalid --page-lines value: " ++ value

/-- What the arguments ask for. -/
structure Options where
  settings : Settings := {}
  showHelp : Bool := false
  showVersion : Bool := false
  /-- Whether only the commands of the stages are checked. -/
  checkOnly : Bool := false
  deriving DecidableEq, Repr

/-- The largest number of lines that can be asked for. -/
def maxPageLines : Nat := UInt64.size - 1

/-- A number of lines. -/
def pageLinesValue? (text : String) : Option Nat :=
  (Text.count? text.toList).filter (· ≤ maxPageLines)

namespace Options

/-- What some arguments ask for in addition. -/
def parseFrom (options : Options) : List String → Except UsageError Options
  | [] => .ok options
  | "-h" :: rest => parseFrom { options with showHelp := true } rest
  | "--help" :: rest => parseFrom { options with showHelp := true } rest
  | "-V" :: rest => parseFrom { options with showVersion := true } rest
  | "--version" :: rest => parseFrom { options with showVersion := true } rest
  | "--check" :: rest => parseFrom { options with checkOnly := true } rest
  | "--no-paging" :: rest =>
    parseFrom { options with settings := { options.settings with pageLines := none } } rest
  | "--no-banner" :: rest =>
    parseFrom { options with settings := { options.settings with showBanner := false } } rest
  | ["--data-dir"] => .error (.missingValue "--data-dir")
  | "--data-dir" :: directory :: rest =>
    parseFrom { options with settings := { options.settings with dataDirectory := some directory } }
      rest
  | ["--page-lines"] => .error (.missingValue "--page-lines")
  | "--page-lines" :: value :: rest =>
    match pageLinesValue? value with
    | some n =>
      parseFrom { options with settings := { options.settings with pageLines := some n } } rest
    | none => .error (.badPageLines value)
  | ["--log"] => .error (.missingValue "--log")
  | "--log" :: filter :: rest =>
    parseFrom { options with settings := { options.settings with logFilter := filter } } rest
  | ["--script"] => .error (.missingValue "--script")
  | "--script" :: path :: rest =>
    parseFrom { options with settings := { options.settings with script := some path } } rest
  | argument :: _ => .error (.unknownOption argument)

/-- What the arguments ask for. -/
def parse (args : List String) : Except UsageError Options := parseFrom {} args

end Options

namespace CommandLine

/-- The version of the program. -/
def version : String := "0.1.0"

/-- The title shown when a game begins. -/
def banner : String := "\x1b[1;36mToi\x1b[0m " ++ version ++ " - gather a party\n\n"

/-- The help text. -/
def helpText : String := "\n".intercalate
  ["\x1b[1mToi\x1b[0m - Text-driven party builder",
    "",
    "\x1b[1mUSAGE:\x1b[0m",
    "    toi [OPTIONS]",
    "",
    "\x1b[1mOPTIONS:\x1b[0m",
    "    -h, --help           Print help information",
    "    -V, --version        Print version information",
    "    --data-dir DIR       Load data files from DIR instead of the built-in set",
    "    --page-lines N       Pause after N lines of output (default 20)",
    "    --no-paging          Never pause output",
    "    --no-banner          Do not print the title banner",
    "    --log LEVEL          Log filter when TOI_LOG is unset (default warn)",
    "    --script FILE        Read input lines from FILE instead of the terminal",
    "    --check              Compile every stage's command grammars and exit",
    "",
    "\x1b[1mEXAMPLES:\x1b[0m",
    "    toi                          Start a new game",
    "    toi --data-dir ./data        Play with edited data files",
    "    toi --check --data-dir ./data",
    "                                 Validate edited control files",
    "    toi --script session.txt     Replay a session",
    "    TOI_LOG=debug toi            Log command dispatch to stderr",
    "",
    "In the game, type 'help' at any prompt.",
    ""]

/-- What a run of the program gives. -/
structure Report where
  exitCode : UInt8 := 0
  output : String := ""
  errors : String := ""
  /-- If a line of the standard input was to be read and there were no more: what had been written
  before, and the prompt. -/
  awaiting : Option (String × String) := none
  deriving Repr

/-- The report of a run that ends with an error. -/
def Report.failed (output message : String) : Report where
  exitCode := 1
  output := output
  errors := "\x1b[31mError: " ++ message ++ "\x1b[0m\n"

/-- A line that is being typed without a terminal. What comes last in it stands first. -/
structure TypedLine where
  text : List Char := []
  /-- The sizes of its clusters in bytes. A size is kept in one byte itself. -/
  sizes : List UInt8 := []

/-- The line when another cluster is typed. A backspace takes away as much as the size of the last
cluster says. -/
def TypedLine.add (line : TypedLine) (cluster : List Char) : TypedLine :=
  if cluster = ['\x08'] then
    match line.sizes with
    | [] => line
    | size :: sizes => { text := (Text.dropBytes? line.text size.toNat).getD line.text, sizes }
  else
    { text := cluster.reverse ++ line.text
      sizes := (Text.byteLength cluster).toUInt8 :: line.sizes }

/-- The line that typing gives. -/
def typedLine (typed : List Char) : List Char :=
  ((Text.clusters typed).foldl TypedLine.add {}).text.reverse

theorem TypedLine.text_foldl_add (line : TypedLine) {clusters : List (List Char)}
    (h : ['\x08'] ∉ clusters) :
    (clusters.foldl add line).text = clusters.flatten.reverse ++ line.text := by
  induction clusters generalizing line with
  | nil => simp
  | cons cluster more ih =>
    have hc : cluster ≠ ['\x08'] := fun hc => h (by simp [hc])
    have hmore : ['\x08'] ∉ more := fun hm => h (by simp [hm])
    simp [ih _ hmore, add, hc]

/-- What is typed without a backspace is the line. -/
theorem typedLine_of_not_mem {typed : List Char} (h : '\x08' ∉ typed) :
    typedLine typed = typed := by
  have hclusters : ['\x08'] ∉ Text.clusters typed := by
    intro hmem
    apply h
    -- the clusters make up what is typed
    rw [← Text.flatten_clusters typed]
    exact List.mem_flatten.2 ⟨_, hmem, by simp⟩
  simp [typedLine, TypedLine.text_foldl_add _ hclusters, Text.flatten_clusters]

/-- The lines that can be read from a standard input with the given content. -/
def inputLines (input : String) : List String :=
  (Text.lines input.toList).map fun line => String.ofList (typedLine line)

/-- The lines of a script file. -/
def scriptLines (script : String) : List String := (Text.lines script.toList).map String.ofList

/-- The console of a game whose lines come from a script or from the standard input. -/
def console (settings : Settings) (tree : FileTree) (input : List String) :
    Except Failure Console := do
  let pageLines := Console.pageLinesOf settings.pageLines
  match settings.script with
  | none => return { answers := input.map .line, pageLines }
  | some path =>
    match tree.read path with
    | .ok script => return { answers := (scriptLines script).map .line, pageLines, echo := true }
    | .error problem => fail (.io problem.message)

/-- Plays a game, with some output written before. -/
def playGame (data : GameData) (console : Console) (before : String) : Report :=
  let written (session : Session) : String := before ++ session.console.written
  match Game.play.run data (Session.start data console) with
  | .ok () session => { output := written session }
  | .error failure session =>
    if failure.isInputClosed then
      -- the end of the input is no error: what is queued is written, and the game is over
      let awaiting := some (written session, session.console.lastPrompt?.getD "")
      match Play.flush.run data session with
      | .ok () session => { output := written session, awaiting }
      | .error failure session =>
        { Report.failed (written session) failure.message with awaiting }
    else Report.failed (written session) failure.message

/-- Does what the options ask for, given the files there are and the lines of the standard input. -/
def runOptions (options : Options) (tree : FileTree) (input : List String) : Report :=
  if options.showHelp then { output := helpText }
  else if options.showVersion then { output := "toi " ++ version ++ "\n" }
  else if let .error defect := LogFilter.parse options.settings.logFilter then
    Report.failed "" defect.message
  else
    let prepared : Except Failure (GameData × Console) := do
      let data ← options.settings.loadData tree
      let console ← console options.settings tree input
      return (data, console)
    match prepared with
    | .error failure => Report.failed "" failure.message
    | .ok (data, console) =>
      if options.checkOnly then
        match Game.checkCommands data with
        | .ok () => { output := "All stage grammars compile.\n" }
        | .error failure => Report.failed "" failure.message
      else
        let report := playGame data console (if options.settings.showBanner then banner else "")
        if options.settings.script.isSome then { report with awaiting := none } else report

/-- The paths that a run looks at. -/
def pathsRead (options : Options) : List String :=
  let directories := (options.settings.dataDirectory.map dataCandidates).getD []
  options.settings.script.toList ++ directories.flatMap fun directory =>
    directory :: GameData.fileNames.map (FilePath.join directory)

/-- Runs the program. -/
def run (args : List String) (tree : FileTree) (input : List String) : Report :=
  match Options.parse args with
  | .ok options => runOptions options tree input
  | .error error => Report.failed "" error.message

end CommandLine

end Muster
