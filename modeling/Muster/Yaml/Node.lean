import Muster.Yaml.Token

/-!
# Nodes of a document

The tree that the tokens of a document describe. A node that is left out where one could stand is an
empty plain scalar. An alias is kept as the number of the anchor that it names; numbers lead to
nodes only when the whole document is known, so that an alias may stand inside the node that it
stands for.
-/

namespace Muster.Yaml

/-- A node of a document. -/
inductive Node where
  | scalar (style : Style) (tag : Option Tag) (text : String)
  | sequence (tag : Option Tag) (items : List Node)
  | mapping (tag : Option Tag) (entries : List (Node × Node))
  | alias (anchor : Nat)

/-- The node that stands where none is written. -/
def Node.absent : Node := .scalar .plain none ""

mutual

/-- The number of steps in which a node can be told: a scalar or an alias is one of them, and a
collection also takes one to begin and one to end. -/
def Node.size : Node → Nat
  | .scalar _ _ _ => 1
  | .alias _ => 1
  | .sequence _ items => Node.sizeOfItems items + 2
  | .mapping _ entries => Node.sizeOfEntries entries + 2

/-- The number of steps in which the items of a sequence can be told. -/
def Node.sizeOfItems : List Node → Nat
  | [] => 0
  | node :: more => node.size + Node.sizeOfItems more

/-- The number of steps in which the entries of a mapping can be told. -/
def Node.sizeOfEntries : List (Node × Node) → Nat
  | [] => 0
  | (key, value) :: more => key.size + value.size + Node.sizeOfEntries more

end

/-- A node and, by their numbers, the nodes that its aliases stand for. -/
structure Document where
  root : Node
  anchors : List (Nat × Node) := []

/-- The document without content. -/
def Document.blank : Document := { root := .absent }

/-- What is left of the tokens, and the anchors so far. -/
structure Builder where
  tokens : List Token
  /-- The names of the anchors, each with the number it has now. -/
  names : List (String × Nat) := []
  /-- The nodes that carry anchors, in the order in which they begin, each with the number of its
  anchor. One that is still being read counts as left out. -/
  anchored : Array (Nat × Node) := #[]

/-- A step in building the tree. It fails where the tokens do not fit together. -/
abbrev Build := StateT Builder Option

namespace Build

/-- The next token. -/
def peek : Build (Option Token) := return (← get).tokens.head?

/-- Passes over a token. -/
def advance : Build Unit := modify fun builder => { builder with tokens := builder.tokens.tail }

/-- Passes over a token if it comes next, and says whether it did. -/
def accept (token : Token) : Build Bool := do
  if (← peek) = some token then
    advance
    return true
  else return false

/-- Passes over all tokens of a kind that come next, and says whether there were any. -/
def acceptAll (token : Token) : Build Bool := do
  let found := (← peek) = some token
  modify fun builder => { builder with tokens := builder.tokens.dropWhile (· = token) }
  return found

/-- Gives an anchor its number, which says how many names there are so far, and returns its place
among the nodes that carry anchors. A name that is used again adds none, and the anchor that comes
next then has the same number. -/
def announce (name : String) : Build Nat := do
  let builder ← get
  let number := builder.names.length
  set { builder with
    names := (name, number) :: builder.names.filter (·.1 ≠ name)
    anchored := builder.anchored.push (number, Node.absent) }
  return builder.anchored.size

/-- Records the node at a place among those that carry anchors. -/
def record (place : Nat) (node : Node) : Build Unit :=
  modify fun builder =>
    { builder with anchored := builder.anchored.modify place fun (number, _) => (number, node) }

/-- The anchor and the tag that stand before a node, in either order. -/
def properties : Build (Option String × Option Tag) := do
  match ← peek with
  | some (.anchor name) =>
    advance
    match ← peek with
    | some (.tag tag) =>
      advance
      return (some name, some tag)
    | _ => return (some name, none)
  | some (.tag tag) =>
    advance
    match ← peek with
    | some (.anchor name) =>
      advance
      return (some name, some tag)
    | _ => return (none, some tag)
  | _ => return (none, none)

mutual

/-- A node. Inside a block it may be a block collection; as the value of a block mapping it may be a
block sequence that is not indented further. `fuel` bounds the number of steps. -/
def node (fuel : Nat) (block indentless : Bool) : Build Node :=
  match fuel with
  | 0 => failure
  | fuel + 1 => do
    match ← peek with
    | some (.alias name) =>
      advance
      match (← get).names.lookup name with
      | some number => return Node.alias number
      | none => failure
    | _ =>
      let (anchor, tag) ← properties
      let place ← anchor.mapM announce
      let node ← match ← peek with
        | some (.scalar style text) => do
          advance
          pure (Node.scalar style tag text)
        | some .flowSequence => do
          advance
          pure (Node.sequence tag (← flowItems fuel true))
        | some .flowMapping => do
          advance
          pure (Node.mapping tag (← flowEntries fuel true))
        | some .blockSequence => do
          if !block then failure
          advance
          pure (Node.sequence tag (← blockItems fuel))
        | some .blockMapping => do
          if !block then failure
          advance
          pure (Node.mapping tag (← blockEntries fuel))
        | some .entry => do
          if indentless then pure (Node.sequence tag (← indentlessItems fuel))
          else if anchor.isSome || tag.isSome then pure (Node.scalar .plain tag "")
          else failure
        | _ => do
          if anchor.isSome || tag.isSome then pure (Node.scalar .plain tag "") else failure
      place.forM (record · node)
      return node

/-- A node that may be left out before the given tokens or the end. -/
def nodeUnless (fuel : Nat) (block indentless : Bool) (ends : List Token) : Build Node := do
  match fuel with
  | 0 => failure
  | fuel + 1 =>
    match ← peek with
    | some token => if token ∈ ends then return Node.absent else node fuel block indentless
    | none => return Node.absent

/-- The items of a block sequence, up to its end. -/
def blockItems (fuel : Nat) : Build (List Node) :=
  match fuel with
  | 0 => failure
  | fuel + 1 => do
    if ← accept .blockEnd then return []
    else if ← accept .entry then
      let item ← nodeUnless fuel true false [.entry, .blockEnd]
      return item :: (← blockItems fuel)
    else failure

/-- The items of a block sequence that has no end of its own. -/
def indentlessItems (fuel : Nat) : Build (List Node) :=
  match fuel with
  | 0 => failure
  | fuel + 1 => do
    if ← accept .entry then
      let item ← nodeUnless fuel true false [.entry, .key, .value, .blockEnd]
      return item :: (← indentlessItems fuel)
    else return []

/-- The entries of a block mapping, up to its end. -/
def blockEntries (fuel : Nat) : Build (List (Node × Node)) :=
  match fuel with
  | 0 => failure
  | fuel + 1 => do
    if ← accept .blockEnd then return []
    else if ← accept .key then
      let key ← nodeUnless fuel true true [.key, .value, .blockEnd]
      let value ←
        if ← accept .value then nodeUnless fuel true true [.key, .value, .blockEnd]
        else pure Node.absent
      return (key, value) :: (← blockEntries fuel)
    else failure

/-- The items of a flow sequence, up to its end. A pair of key and value may stand as an item and is
a mapping with one entry. Where its key is left out, the token that stands there is passed over as
if it were the key. -/
def flowItems (fuel : Nat) (first : Bool) : Build (List Node) :=
  match fuel with
  | 0 => failure
  | fuel + 1 => do
    if ← accept .flowSequenceEnd then return []
    if !first then
      if !(← accept .comma) then failure
    if ← accept .flowSequenceEnd then return []
    else if ← accept .key then
      let key ←
        if (← peek).any (· ∈ [Token.value, .comma, .flowSequenceEnd]) then do
          advance
          pure Node.absent
        else node fuel false false
      let value ←
        if ← accept .value then nodeUnless fuel false false [.comma, .flowSequenceEnd]
        else pure Node.absent
      return Node.mapping none [(key, value)] :: (← flowItems fuel false)
    else
      let item ← node fuel false false
      return item :: (← flowItems fuel false)

/-- The entries of a flow mapping, up to its end. A key may stand without a value. -/
def flowEntries (fuel : Nat) (first : Bool) : Build (List (Node × Node)) :=
  match fuel with
  | 0 => failure
  | fuel + 1 => do
    if ← accept .flowMappingEnd then return []
    if !first then
      if !(← accept .comma) then failure
    if ← accept .flowMappingEnd then return []
    else if ← accept .key then
      let key ← nodeUnless fuel false false [.value, .comma, .flowMappingEnd]
      let value ←
        if ← accept .value then nodeUnless fuel false false [.comma, .flowMappingEnd]
        else pure Node.absent
      return (key, value) :: (← flowEntries fuel false)
    else
      let key ← node fuel false false
      return (key, Node.absent) :: (← flowEntries fuel false)

end

/-- The only document of a stream of tokens. A document with directives has a mark where it begins,
and one without the mark holds a node, unless there are no tokens at all. -/
def document (fuel : Nat) : Build Node := do
  let declared ← acceptAll .directive
  if ← accept .documentStart then
    nodeUnless fuel true false [.directive, .documentStart, .documentEnd]
  else if declared then failure
  else
    match ← peek with
    | none => return Node.absent
    | some _ => node fuel true false

end Build

/-- The document that a text is. There must not be a second one after it. -/
def Document.ofText? (text : String) : Option Document := do
  let tokens ← tokens? text.toList
  let (root, builder) ← (Build.document (4 * tokens.length + 8)).run { tokens }
  -- of several nodes with one number the last one counts
  let anchors := builder.anchored.toList.reverse
  if (builder.tokens.dropWhile (· = .documentEnd)).isEmpty then some { root, anchors } else none

end Muster.Yaml
