import Muster.Command.Registry

/-!
# Matching by byte positions

`Pattern.matchText` passes on what is left of a line. Whoever keeps the whole line and passes on a
byte position has to cut the line again at every step: where a word is compared, where white space
is skipped, where the stop word of a slot is looked for, and where a filling is taken. Such a cut is
only possible between two positions in order that both begin a character or end the line
(`slice?`). Here matching is written in this way; what has to make an impossible cut has no result
at all. `Muster.Proofs.Pattern.Offsets` shows that this never happens.
-/

namespace Muster

namespace Text

/-- The first `n` bytes of a text, if they end at a character. -/
def takeBytes? : List Char → Nat → Option (List Char)
  | _, 0 => some []
  | [], _ + 1 => none
  | c :: cs, n + 1 =>
    if c.utf8Size ≤ n + 1 then (takeBytes? cs (n + 1 - c.utf8Size)).map (c :: ·) else none

/-- The part of a text from one byte position to another. There is none when the positions are out
of order, beyond the end of the text, or inside a character. -/
def slice? (text : List Char) (first last : Nat) : Option (List Char) :=
  if first ≤ last then (dropBytes? text first).bind (takeBytes? · (last - first)) else none

/-- The part of a text from a byte position on. -/
def sliceFrom? (text : List Char) (first : Nat) : Option (List Char) :=
  slice? text first (byteLength text)

/-- The characters of a text that begins at the given position, each with its own position. -/
def positioned (position : Nat) : List Char → List (Nat × Char)
  | [] => []
  | c :: cs => (position, c) :: positioned (position + c.utf8Size) cs

end Text

namespace Pattern

open Muster.Text Muster.Unicode

/-- Where the letters of a word end that the characters begin with, if they do. -/
def lettersEnd (last : Nat) : List Char → List (Nat × Char) → Option Nat
  | [], _ => some last
  | _ :: _, [] => none
  | letter :: letters, (position, c) :: more =>
    if lowerChar c = lowerChar letter then lettersEnd (position + c.utf8Size) letters more else none

/-- Where a word ends that a text begins with, if it does. -/
def wordEnd (word text : List Char) : Option (Option Nat) :=
  match lettersEnd 0 word (positioned 0 text) with
  | none => some none
  | some last => do
    let rest ← sliceFrom? text last
    return if endsAlphanumeric word && startsAlphanumeric rest then none else some last

/-- Where the first word of a text begins that equals `stop` in lowercase, where the very first word
does not count: `seen` says that it has been passed, `afterSpace` that a word may begin here. -/
def stopStart (stop text : List Char) (afterSpace seen : Bool) :
    List (Nat × Char) → Option (Option Nat)
  | [] => some none
  | (position, c) :: more =>
    if afterSpace && !isWhite c then
      if seen then do
        let rest ← sliceFrom? text position
        if lowerText ((words rest).headD []) == stop then return some position
        stopStart stop text (isWhite c) true more
      else stopStart stop text (isWhite c) true more
    else stopStart stop text (isWhite c) seen more

/-- Where a slot would end that begins at a position of a line. -/
def slotLimit (stop : Option (List Char)) (line : List Char) (position : Nat) :
    Option (Option Nat) := do
  let rest ← sliceFrom? line position
  match stop with
  | none => return some (byteLength line)
  | some word =>
    let start ← stopStart word rest true false (positioned 0 rest)
    return start.map (position + ·)

/-- Where a slot ends that begins at a position of a line, unless it would be blank. -/
def slotEnd (stop : Option (List Char)) (line : List Char) (position : Nat) :
    Option (Option Nat) := do
  match ← slotLimit stop line position with
  | none => return none
  | some last =>
    let filling ← slice? line position last
    return if isBlank filling then none else some last

mutual

/-- Matches a pattern at a byte position of a line. Gives the position after the match, if the
pattern matches, and the slots filled; gives nothing when the line cannot be cut as it would have to
be. -/
def walk (scope : Scope) (line : List Char) :
    Pattern → Nat → Bindings → Option (Option Nat × Bindings)
  | .literal word, position, bindings => do
    let rest ← sliceFrom? line position
    let last ← wordEnd word rest
    return (last.map (position + ·), bindings)
  | .gap, position, bindings => do
    let rest ← sliceFrom? line position
    return (some (position + byteLength (rest.takeWhile isWhite)), bindings)
  | .sequence parts, position, bindings => walkEach scope line parts position bindings
  | .choice ways, position, bindings => walkFirst scope line ways position bindings
  | .optional part, position, bindings => do
    match ← walk scope line part position bindings with
    | (some last, filled) => return (some last, filled)
    | (none, _) => return (some position, bindings)
  | .slot kind stop, position, bindings => do
    match ← slotEnd stop line position with
    | none => return (none, bindings)
    | some last =>
      let filling ← slice? line position last
      return (some last,
        bindings.insert kind (scope.resolve kind (String.ofList (normal filling))))
  | .lineEnd, position, bindings =>
    some (if position = byteLength line then some position else none, bindings)

/-- Matches patterns one after the other. -/
def walkEach (scope : Scope) (line : List Char) :
    List Pattern → Nat → Bindings → Option (Option Nat × Bindings)
  | [], position, bindings => some (some position, bindings)
  | part :: parts, position, bindings => do
    match ← walk scope line part position bindings with
    | (some last, filled) => walkEach scope line parts last filled
    | (none, filled) => return (none, filled)

/-- Matches the first of some patterns that does match. -/
def walkFirst (scope : Scope) (line : List Char) :
    List Pattern → Nat → Bindings → Option (Option Nat × Bindings)
  | [], _, bindings => some (none, bindings)
  | way :: ways, position, bindings => do
    match ← walk scope line way position bindings with
    | (some last, filled) => return (some last, filled)
    | (none, _) => walkFirst scope line ways position bindings

end

/-- Matches a pattern with a whole line. -/
def walkLine (scope : Scope) (pattern : Pattern) (line : List Char) : Option (Option Bindings) := do
  match ← walk scope line pattern 0 .empty with
  | (some last, bindings) => return if last = byteLength line then some bindings else none
  | (none, _) => return none

end Pattern

namespace CommandSet

variable {H : Type}

/-- The commands that accept a line, each with the slots that the line fills. -/
def walkCommands (scope : Scope) (line : List Char) :
    List (Command H) → Option (List (Command H × Bindings))
  | [] => some []
  | command :: commands => do
    let found ← command.pattern.walkLine scope line
    let others ← walkCommands scope line commands
    return found.toList.map (command, ·) ++ others

/-- Finds out which command a line is meant for. -/
def walkDispatch (set : CommandSet H) (scope : Scope) (line : List Char) : Option (Dispatch H) := do
  match ← walkCommands scope line set.commands with
  | [] => return .unrecognized
  | [(command, bindings)] => return .matched command.name command.handler bindings
  | several => return .ambiguous (several.map (·.1.name))

end CommandSet

end Muster
