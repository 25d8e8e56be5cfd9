import Muster.Yaml.Scalar
import Muster.Yaml.Tag

/-!
# Tokens of a document

A document is cut into tokens from left to right. Indentation is made explicit: a block collection
begins with a token of its own and ends with `blockEnd`. Whether a scalar is a key is known only
when a colon follows on the same line; so the place of each possible key is remembered, and the
tokens that make it one are put there afterwards.
-/

namespace Muster.Yaml

/-- A token of a document. -/
inductive Token where
  | documentStart
  | documentEnd
  | directive
  | blockSequence
  | blockMapping
  | blockEnd
  | flowSequence
  | flowSequenceEnd
  | flowMapping
  | flowMappingEnd
  /-- A dash before an item of a block sequence. -/
  | entry
  /-- A comma in a flow collection. -/
  | comma
  | key
  | value
  | anchor (name : String)
  | alias (name : String)
  | tag (tag : Tag)
  | scalar (style : Style) (text : String)
  deriving DecidableEq, Repr

/-- A place where a key may begin. -/
structure KeyPlace where
  /-- How many tokens stand before it. -/
  token : Nat
  spot : Spot
  /-- Whether nothing else can stand there. -/
  required : Bool

/-- What has been read of a document. -/
structure Lexer where
  rest : List Spot
  tokens : Array Token := #[]
  /-- The columns of the open block collections, innermost first. -/
  indents : List Nat := []
  /-- For each open flow collection, innermost first, and for the block around them, where a key
  may begin. -/
  keys : List (Option KeyPlace) := [none]
  /-- Whether a key may begin here. -/
  keyAllowed : Bool := true
  /-- Whether the version of the format has been given. -/
  versioned : Bool := false
  /-- The handles that the document declares, and the octets that they stand for. -/
  handles : List (String × List UInt8) := []

namespace Lexer

/-- How many flow collections are open. -/
def flowDepth (lexer : Lexer) : Nat := lexer.keys.length - 1

/-- Whether a flow collection is open. -/
def inFlow (lexer : Lexer) : Bool := lexer.flowDepth > 0

/-- The first column that belongs to the innermost block collection's items. -/
def nextIndent (lexer : Lexer) : Nat :=
  match lexer.indents with
  | [] => 0
  | column :: _ => column + 1

/-- Appends a token. -/
def push (lexer : Lexer) (token : Token) : Lexer := { lexer with tokens := lexer.tokens.push token }

/-- Passes over some characters. -/
def skip (lexer : Lexer) (count : Nat) : Lexer := { lexer with rest := lexer.rest.drop count }

/-- Puts a token in front of those from the given one on. -/
def insertToken (lexer : Lexer) (position : Nat) (token : Token) : Lexer :=
  { lexer with tokens := (lexer.tokens.toList.insertIdx position token).toArray }

/-- Opens a block collection at a column, unless one is open that far in, by putting its token at
the given place. -/
def openBlock (lexer : Lexer) (column position : Nat) (token : Token) : Lexer :=
  if lexer.inFlow || column < lexer.nextIndent then lexer
  else { lexer.insertToken position token with indents := column :: lexer.indents }

/-- Closes the block collections that stand further in than a column. -/
def closeBlocks (lexer : Lexer) (column : Option Nat) : Lexer :=
  if lexer.inFlow then lexer
  else
    let isInner (indent : Nat) := match column with
      | none => true
      | some column => decide (column < indent)
    let closed := lexer.indents.takeWhile isInner
    { lexer with
      indents := lexer.indents.dropWhile isInner
      tokens := lexer.tokens ++ closed.map fun _ => Token.blockEnd }

/-- Gives up the innermost place where a key may begin. -/
def dropKey (lexer : Lexer) : Option Lexer :=
  match lexer.keys with
  | some place :: outer =>
    if place.required then none else some { lexer with keys := none :: outer }
  | _ => some lexer

/-- Remembers that a key may begin here, if one may. -/
def saveKey (lexer : Lexer) : Option Lexer :=
  if !lexer.keyAllowed then some lexer
  else do
    let lexer ← lexer.dropKey
    let spot ← lexer.rest.head?
    let required := !lexer.inFlow && lexer.indents.head? = some spot.column
    some { lexer with
      keys := some { token := lexer.tokens.size, spot, required } :: lexer.keys.tail }

/-- Gives up the places from which a colon can no longer be reached: those in another line and
those too far back. -/
def dropStaleKeys (lexer : Lexer) : Option Lexer := do
  let spot ← lexer.rest.head?
  let keys ← lexer.keys.mapM fun place? =>
    match place? with
    | none => some none
    | some place =>
      if place.spot.line < spot.line || place.spot.index + 1024 < spot.index then
        if place.required then none else some none
      else some (some place)
  some { lexer with keys }

/-- Passes over blanks, comments and line breaks, and a byte order mark that begins a line.
`inComment` says that a comment has begun. -/
def skipGap (inFlow keyAllowed inComment : Bool) : List Spot → List Spot × Bool
  | [] => ([], keyAllowed)
  | s :: rest =>
    if isBreak s.char then skipGap inFlow (keyAllowed || !inFlow) false rest
    else if isEnd s.char then (s :: rest, keyAllowed)
    else if inComment then skipGap inFlow keyAllowed true rest
    else if s.char = ' ' || ((inFlow || !keyAllowed) && s.char = '\t') then
      skipGap inFlow keyAllowed false rest
    else if s.char = '#' then skipGap inFlow keyAllowed true rest
    else if s.char = byteOrderMark && s.column = 0 then skipGap inFlow keyAllowed false rest
    else (s :: rest, keyAllowed)

/-- Passes over what separates tokens. -/
def toToken (lexer : Lexer) : Lexer :=
  let (rest, keyAllowed) := skipGap lexer.inFlow lexer.keyAllowed false lexer.rest
  { lexer with rest, keyAllowed }

/-- The columns of the open blocks at the end of the document or at a document mark. -/
def closeDocument (lexer : Lexer) : Option Lexer := do
  let lexer ← (lexer.closeBlocks none).dropKey
  some { lexer with keyAllowed := false }

/-- A token that opens a flow collection. -/
def openFlow (lexer : Lexer) (token : Token) : Option Lexer := do
  let lexer ← lexer.saveKey
  some { lexer.push token with
    keys := none :: lexer.keys, keyAllowed := true, rest := lexer.rest.tail }

/-- A token that closes a flow collection. -/
def closeFlow (lexer : Lexer) (token : Token) : Option Lexer := do
  let lexer ← lexer.dropKey
  let keys := if lexer.inFlow then lexer.keys.tail else lexer.keys
  some { lexer.push token with keys, keyAllowed := false, rest := lexer.rest.tail }

/-- A comma. -/
def takeComma (lexer : Lexer) : Option Lexer := do
  let lexer ← lexer.dropKey
  some { lexer.push .comma with keyAllowed := true, rest := lexer.rest.tail }

/-- A dash before an item. -/
def takeEntry (lexer : Lexer) : Option Lexer := do
  if !lexer.inFlow && !lexer.keyAllowed then none
  else
    let lexer := lexer.openBlock (columnOf lexer.rest) lexer.tokens.size .blockSequence
    let lexer ← lexer.dropKey
    some { lexer.push .entry with keyAllowed := true, rest := lexer.rest.tail }

/-- A question mark before a key. -/
def takeKey (lexer : Lexer) : Option Lexer := do
  if !lexer.inFlow && !lexer.keyAllowed then none
  else
    let lexer := lexer.openBlock (columnOf lexer.rest) lexer.tokens.size .blockMapping
    let lexer ← lexer.dropKey
    some { lexer.push .key with keyAllowed := !lexer.inFlow, rest := lexer.rest.tail }

/-- A colon before a value. What was remembered as a possible key is one now. -/
def takeValue (lexer : Lexer) : Option Lexer :=
  match lexer.keys with
  | some place :: outer =>
    -- the key's token goes where the key began, and a mapping may begin there, too
    let lexer := { lexer.insertToken place.token .key with keys := none :: outer }
    let lexer := lexer.openBlock place.spot.column place.token .blockMapping
    some { lexer.push .value with keyAllowed := false, rest := lexer.rest.tail }
  | _ =>
    if !lexer.inFlow && !lexer.keyAllowed then none
    else
      let lexer := lexer.openBlock (columnOf lexer.rest) lexer.tokens.size .blockMapping
      some { lexer.push .value with keyAllowed := !lexer.inFlow, rest := lexer.rest.tail }

/-- Whether a character may occur in the name of an anchor. -/
def isNameChar (c : Char) : Bool := c.isAlphanum || c = '_' || c = '-'

/-- An anchor or an alias. -/
def takeName (lexer : Lexer) (token : String → Token) : Option Lexer := do
  let lexer ← lexer.saveKey
  let name := lexer.rest.tail.takeWhile (isNameChar ·.char)
  let rest := lexer.rest.tail.drop name.length
  let ends := isGap (here rest) || here rest ∈ ['?', ':', ',', ']', '}', '%', '@', '\x60']
  if name.isEmpty || !ends then none
  else
    some { lexer.push (token (String.ofList (name.map Spot.char))) with keyAllowed := false, rest }

/-- The octets that a handle stands for. -/
def handleMeaning? (lexer : Lexer) (handle : String) : Option (List UInt8) :=
  (lexer.handles ++ [("!", Tag.ascii "!"), ("!!", Tag.ascii coreTags)]).lookup handle

/-- The tag that is written as a handle and a name. A handle other than a single exclamation mark
ends with one. -/
def shorthandTag? (lexer : Lexer) (spelling : List Char) : Option Tag :=
  let word := spelling.tail.takeWhile isNameChar
  match spelling.tail.drop word.length with
  | '!' :: name => do
    if name.isEmpty then none
    else
      let meaning ← lexer.handleMeaning? (String.ofList ('!' :: word ++ ['!']))
      let octets ← Tag.part? name
      some (.ofOctets (meaning ++ octets))
  | _ => do
    let octets ← Tag.part? spelling.tail
    -- an exclamation mark alone is no handle
    if octets.isEmpty then some (.own "")
    else
      let meaning ← lexer.handleMeaning? "!"
      some (.ofOctets (meaning ++ octets))

/-- A tag in angle brackets, from the opening one on. -/
def bracketedTag? (spots : List Spot) : Option (Tag × List Spot) := do
  let spelling := (spots.tail.takeWhile (isTagChar true ·.char)).map Spot.char
  let rest := spots.tail.drop spelling.length
  if spelling.isEmpty || here rest ≠ '>' then none
  else
    let octets ← Tag.part? spelling
    some (.ofOctets octets, rest.tail)

/-- A tag. -/
def takeTag (lexer : Lexer) : Option Lexer := do
  let lexer ← lexer.saveKey
  let (tag, rest) ←
    if here lexer.rest.tail = '<' then bracketedTag? lexer.rest.tail
    else do
      let spelling := (lexer.rest.takeWhile (isTagChar false ·.char)).map Spot.char
      let tag ← lexer.shorthandTag? spelling
      some (tag, lexer.rest.drop spelling.length)
  if !isGap (here rest) && !(lexer.inFlow && here rest = ',') then none
  else some { lexer.push (.tag tag) with keyAllowed := false, rest }

/-- A block scalar. -/
def takeBlock (lexer : Lexer) (folded : Bool) : Option Lexer := do
  let lexer ← lexer.dropKey
  let (text, rest) ← readBlock folded lexer.indents.head? lexer.rest.tail
  let style : Style := if folded then .folded else .literal
  some { lexer.push (.scalar style (String.ofList text)) with keyAllowed := true, rest }

/-- A scalar between quotation marks. -/
def takeQuoted (lexer : Lexer) (double : Bool) : Option Lexer := do
  let lexer ← lexer.saveKey
  let (text, rest) ← readQuoted double .text .none [] lexer.rest.tail
  some { lexer.push (.scalar .quoted (String.ofList text)) with keyAllowed := false, rest }

/-- A plain scalar. -/
def takePlain (lexer : Lexer) : Option Lexer := do
  let lexer ← lexer.saveKey
  let (text, rest, broken) ← readPlain lexer.inFlow lexer.nextIndent .none [] lexer.rest
  some { lexer.push (.scalar .plain (String.ofList text)) with keyAllowed := broken, rest }

/-- A number of a version, and what follows it. -/
def versionNumber? (text : List Char) : Option (Nat × List Char) :=
  let digits := text.takeWhile Char.isDigit
  if digits.length > 9 then none
  else (Text.natural? 10 digits).map (·, text.drop digits.length)

/-- The version directive, after its name. It must give a version of this format. -/
def takeVersion (lexer : Lexer) (text : List Char) : Option (Lexer × List Char) := do
  let (major, rest) ← versionNumber? (text.dropWhile isBlank)
  match rest with
  | '.' :: rest =>
    let (minor, rest) ← versionNumber? rest
    if major = 1 && (minor = 1 || minor = 2) && !lexer.versioned then
      some ({ lexer with versioned := true }, rest)
    else none
  | _ => none

/-- The directive that declares a handle, after its name. -/
def takeHandle (lexer : Lexer) (text : List Char) : Option (Lexer × List Char) := do
  let text := text.dropWhile isBlank
  let word := text.tail.takeWhile isNameChar
  let afterWord := text.tail.drop word.length
  let (handle, rest) ← match text.head?, afterWord with
    | some '!', '!' :: rest => some ('!' :: word ++ ['!'], rest)
    | some '!', rest => if word.isEmpty then some (['!'], rest) else none
    | _, _ => none
  let meaning := (rest.dropWhile isBlank).takeWhile (isTagChar true)
  let afterMeaning := (rest.dropWhile isBlank).drop meaning.length
  let handle := String.ofList handle
  let octets ← Tag.part? meaning
  if !(rest.head?.any isBlank) || meaning.isEmpty || !(afterMeaning.head?.all isBlank) ||
      (lexer.handles.lookup handle).isSome then none
  else some ({ lexer with handles := (handle, octets) :: lexer.handles }, afterMeaning)

/-- A directive, which fills its line. The line break belongs to it, so that no key may begin in the
next line either. -/
def takeDirective (lexer : Lexer) : Option Lexer := do
  let lexer ← lexer.closeDocument
  let line := (lexer.rest.takeWhile (!isBreakOrEnd ·.char)).map Spot.char
  let name := line.tail.takeWhile isNameChar
  let afterName := line.tail.drop name.length
  if !(afterName.head?.all isBlank) then none
  else
    let (lexer, rest) ←
      if name = "YAML".toList then lexer.takeVersion afterName
      else if name = "TAG".toList then lexer.takeHandle afterName
      else none
    if (rest.dropWhile isBlank).head?.all (· = '#') then
      let afterLine := lexer.rest.drop line.length
      let rest := if isBreak (here afterLine) then afterLine.tail else afterLine
      some { lexer.push .directive with rest }
    else none

/-- Reads the token that begins here. -/
def next (lexer : Lexer) : Option Lexer := do
  let c := here lexer.rest
  let following := here lexer.rest.tail
  let column := columnOf lexer.rest
  if column = 0 && c = '%' then lexer.takeDirective
  else if isDocumentMark lexer.rest then
    let lexer ← lexer.closeDocument
    some (lexer.push (if c = '-' then .documentStart else .documentEnd) |>.skip 3)
  else if c = '[' then lexer.openFlow .flowSequence
  else if c = '{' then lexer.openFlow .flowMapping
  else if c = ']' then lexer.closeFlow .flowSequenceEnd
  else if c = '}' then lexer.closeFlow .flowMappingEnd
  else if c = ',' then lexer.takeComma
  else if c = '-' && isGap following then lexer.takeEntry
  else if c = '?' && (lexer.inFlow || isGap following) then lexer.takeKey
  else if c = ':' && (lexer.inFlow || isGap following) then lexer.takeValue
  else if c = '*' then lexer.takeName .alias
  else if c = '&' then lexer.takeName .anchor
  else if c = '!' then lexer.takeTag
  else if c = '|' && !lexer.inFlow then lexer.takeBlock false
  else if c = '>' && !lexer.inFlow then lexer.takeBlock true
  else if c = '\'' then lexer.takeQuoted false
  else if c = '"' then lexer.takeQuoted true
  else if c ∈ ['#', '|', '>', '%', '@', '\x60', '\t'] then none
  else lexer.takePlain

/-- Reads all tokens. Each of them takes at least one character, so that `limit` need not be more
than the number of characters left. -/
def run (limit : Nat) (lexer : Lexer) : Option (Array Token) := do
  let lexer ← lexer.toToken.dropStaleKeys
  if isEnd (here lexer.rest) then
    let lexer ← lexer.closeDocument
    some lexer.tokens
  else
    match limit with
    | 0 => none
    | limit + 1 =>
      -- a token further out than an open block closes it
      let lexer ← (lexer.closeBlocks (some (columnOf lexer.rest))).next
      lexer.run limit

end Lexer

/-- The tokens of a document, if it can be cut into tokens. -/
def tokens? (text : List Char) : Option (List Token) := do
  let spots ← spots? text
  (← Lexer.run spots.length { rest := spots }).toList

end Muster.Yaml
