import Muster.Text.Digits
import Muster.Yaml.Spot

/-!
# Reading scalars

The three ways in which a document writes a text: plain, between quotation marks, and as a block of
indented lines. Line breaks inside a plain or quoted scalar are folded: a single one becomes a
blank, of several the first one is dropped. Each reader takes the spots from the first character of
the scalar on and returns the text and the spots after it, or nothing if the scalar is ill-formed.
-/

namespace Muster.Yaml

/-- The way in which a scalar is written. -/
inductive Style where
  | plain
  | quoted
  /-- A block that keeps its line breaks. -/
  | literal
  /-- A block whose line breaks are folded. -/
  | folded
  deriving DecidableEq, Repr

/-- White space inside a scalar that is kept back until it is known that text follows. -/
inductive Gap where
  | none
  /-- Blanks within a line. -/
  | blanks (chars : List Char)
  /-- A line break and those after it. The first one is absent if it was escaped. -/
  | breaks (first more : List Char)

namespace Gap

/-- Whether the gap holds a line break. -/
def isBroken : Gap → Bool
  | .breaks _ _ => true
  | _ => false

/-- The gap with another blank. Blanks next to a line break do not count. -/
def addBlank (c : Char) : Gap → Gap
  | .none => .blanks [c]
  | .blanks chars => .blanks (chars ++ [c])
  | .breaks first more => .breaks first more

/-- The gap with another line break. -/
def addBreak (c : Char) : Gap → Gap
  | .breaks first more => .breaks first (more ++ [c])
  | _ => .breaks [c] []

/-- What becomes of a gap between two parts of the text. -/
def folded : Gap → List Char
  | .none => []
  | .blanks chars => chars
  | .breaks first more =>
    if first = ['\n'] then (if more.isEmpty then [' '] else more) else first ++ more

end Gap

/-- Whether a character means something of its own inside a flow collection. -/
def isFlowIndicator (c : Char) : Bool := c ∈ [',', '[', ']', '{', '}']

/-- Reads a plain scalar that may go on in lines indented by at least `indent`, inside a flow
collection or not. Also says whether a line break was passed at its end. -/
def readPlain (inFlow : Bool) (indent : Nat) (gap : Gap) (text : List Char) :
    List Spot → Option (List Char × List Spot × Bool)
  | [] => some (text, [], gap.isBroken)
  | s :: rest =>
    let stop := some (text, s :: rest, gap.isBroken)
    if isBlank s.char then
      if gap.isBroken && s.column < indent && s.char = '\t' then none
      else readPlain inFlow indent (gap.addBlank s.char) text rest
    else if isBreak s.char then readPlain inFlow indent (gap.addBreak s.char) text rest
    else if isEnd s.char then stop
    else
      let afterGap := match gap with
        | .none => false
        | _ => true
      -- what follows a gap may belong to another token
      if afterGap && ((!inFlow && s.column < indent) || isDocumentMark (s :: rest) ||
          s.char = '#') then stop
      else if inFlow && s.char = ':' && (isFlowIndicator (here rest) || here rest = '?') then none
      else if (s.char = ':' && isGap (here rest)) || (inFlow && isFlowIndicator s.char) then stop
      else readPlain inFlow indent .none (text ++ gap.folded ++ [s.char]) rest

/-- The character that a backslash and a letter stand for between double quotation marks. -/
def escaped? : Char → Option Char
  | '0' => some '\x00'
  | 'a' => some '\x07'
  | 'b' => some '\x08'
  | 't' => some '\t'
  | '\t' => some '\t'
  | 'n' => some '\n'
  | 'v' => some '\x0b'
  | 'f' => some '\x0c'
  | 'r' => some '\r'
  | 'e' => some '\x1b'
  | ' ' => some ' '
  | '"' => some '"'
  | '/' => some '/'
  | '\\' => some '\\'
  | 'N' => some '\u0085'
  | '_' => some '\u00a0'
  | 'L' => some '\u2028'
  | 'P' => some '\u2029'
  | _ => none

/-- How many hexadecimal digits follow a letter after a backslash. -/
def escapeDigits? : Char → Option Nat
  | 'x' => some 2
  | 'u' => some 4
  | 'U' => some 8
  | _ => none

/-- The character of a code point, if there is one. -/
def charOfCode? (code : Nat) : Option Char :=
  if h : code.isValidChar then some (Char.ofNatAux code h) else none

/-- How the next character of a quoted scalar is to be taken. -/
inductive QuoteReading where
  | text
  /-- After a single quotation mark, which is doubled or ends the scalar. -/
  | mark
  | backslash
  /-- The given number of hexadecimal digits is to come, after those of the given value. -/
  | digits (left value : Nat)

/-- Reads a scalar between single or double quotation marks, from the first character inside on. -/
def readQuoted (double : Bool) (reading : QuoteReading) (gap : Gap) (text : List Char) :
    List Spot → Option (List Char × List Spot)
  | [] => match reading with
    | .mark => some (text, [])
    | _ => none
  | s :: rest =>
    match reading with
    | .mark =>
      if s.char = '\'' then readQuoted double .text .none (text ++ ['\'']) rest
      else some (text, s :: rest)
    | .backslash =>
      if isBreak s.char then readQuoted double .text (.breaks [] []) text rest
      else match escaped? s.char, escapeDigits? s.char with
        | some c, _ => readQuoted double .text .none (text ++ [c]) rest
        | none, some left => readQuoted double (.digits left 0) .none text rest
        | none, none => none
    | .digits left value =>
      match Text.digitValue? 16 s.char with
      | none => none
      | some digit =>
        let value := 16 * value + digit
        if left = 1 then
          match charOfCode? value with
          | some c => readQuoted double .text .none (text ++ [c]) rest
          | none => none
        else readQuoted double (.digits (left - 1) value) .none text rest
    | .text =>
      if isBlank s.char then readQuoted double .text (gap.addBlank s.char) text rest
      else if isBreak s.char then readQuoted double .text (gap.addBreak s.char) text rest
      else if isEnd s.char || isDocumentMark (s :: rest) then none
      else
        let text := text ++ gap.folded
        if double && s.char = '"' then some (text, rest)
        else if !double && s.char = '\'' then readQuoted double .mark .none text rest
        else if double && s.char = '\\' then readQuoted double .backslash .none text rest
        else readQuoted double .text .none (text ++ [s.char]) rest

/-- What becomes of the line breaks at the end of a block scalar. -/
inductive Chomping where
  /-- All are dropped. -/
  | strip
  /-- The first one is kept. -/
  | clip
  /-- All are kept. -/
  | keep

/-- The first line of a block scalar. -/
structure BlockHeader where
  folded : Bool
  chomping : Chomping := .clip
  /-- The indentation relative to the parent, if it is given. -/
  increment : Option Nat := none

/-- Reads the chomping and indentation indicators of a block scalar, each at most once. -/
def readIndicators (header : BlockHeader) (chomped : Bool) :
    List Spot → Option (BlockHeader × List Spot)
  | [] => some (header, [])
  | s :: rest =>
    if !chomped && s.char = '+' then readIndicators { header with chomping := .keep } true rest
    else if !chomped && s.char = '-' then readIndicators { header with chomping := .strip } true rest
    else if header.increment.isNone && s.char.isDigit then
      if s.char = '0' then none
      else readIndicators { header with increment := some (s.char.toNat - '0'.toNat) } chomped rest
    else some (header, s :: rest)

/-- What has been read of a block scalar. -/
structure BlockState where
  text : List Char := []
  /-- The indentation of the lines, once it is known. -/
  indent : Option Nat
  /-- The greatest indentation seen before it was known. -/
  deepest : Nat := 0
  /-- The break of the last line. -/
  lastBreak : List Char := []
  /-- The breaks of the empty lines after it. -/
  emptyLines : List Char := []
  /-- Whether the last line began with a blank. -/
  lastBlank : Bool := false
  /-- Whether reading stands inside a line. -/
  inLine : Bool := false

namespace BlockState

/-- What stands between the lines read and a line that begins with the given character. -/
def joint (state : BlockState) (folded : Bool) (c : Char) : List Char :=
  if folded && state.lastBreak = ['\n'] && !state.lastBlank && !isBlank c then
    (if state.emptyLines.isEmpty then [' '] else []) ++ state.emptyLines
  else state.lastBreak ++ state.emptyLines

/-- The text of the block when it has come to its end. -/
def finish (state : BlockState) (chomping : Chomping) : List Char :=
  match chomping with
  | .strip => state.text
  | .clip => state.text ++ state.lastBreak
  | .keep => state.text ++ state.lastBreak ++ state.emptyLines

end BlockState

/-- Reads the lines of a block scalar, which are indented by at least `least`. -/
def readBlockLines (header : BlockHeader) (least : Nat) (state : BlockState) :
    List Spot → Option (List Char × List Spot)
  | [] => some (state.finish header.chomping, [])
  | s :: rest =>
    if state.inLine then
      if isBreak s.char then
        readBlockLines header least
          { state with lastBreak := [s.char], emptyLines := [], inLine := false } rest
      else if isEnd s.char then
        some ({ state with lastBreak := [], emptyLines := [] }.finish header.chomping, s :: rest)
      else readBlockLines header least { state with text := state.text ++ [s.char] } rest
    else
      let inMargin := match state.indent with
        | none => true
        | some indent => s.column < indent
      if inMargin && s.char = ' ' then readBlockLines header least state rest
      else if inMargin && s.char = '\t' then none
      else
        let deepest := max state.deepest s.column
        if isBreak s.char then
          readBlockLines header least
            { state with deepest, emptyLines := state.emptyLines ++ [s.char] } rest
        else
          let indent := state.indent.getD (max deepest least)
          if s.column = indent && !isEnd s.char then
            readBlockLines header least
              { text := state.text ++ state.joint header.folded s.char ++ [s.char]
                indent := some indent
                lastBlank := isBlank s.char
                inLine := true } rest
          else some (state.finish header.chomping, s :: rest)

/-- Reads a block scalar, from the character after its indicator on. The parent is indented by
`parent` columns, or not at all. -/
def readBlock (folded : Bool) (parent : Option Nat) (spots : List Spot) :
    Option (List Char × List Spot) :=
  match readIndicators { folded } false spots with
  | none => none
  | some (header, spots) =>
    let afterBlanks := spots.dropWhile (isBlank ·.char)
    let afterComment :=
      if here afterBlanks = '#' then afterBlanks.dropWhile (!isBreakOrEnd ·.char) else afterBlanks
    if !isBreakOrEnd (here afterComment) then none
    else
      let lines := if isBreak (here afterComment) then afterComment.tail else afterComment
      let least := match parent with
        | none => 1
        | some column => column + 1
      readBlockLines header least { indent := header.increment.map (parent.getD 0 + ·) } lines

end Muster.Yaml
