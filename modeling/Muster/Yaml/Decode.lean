import Muster.Yaml.Node
import Muster.Yaml.Plain
import Muster.Catalog.Dictionary

/-!
# From nodes to data

The shapes in which data files hold their content: texts, whole numbers, names from a fixed set,
lists, dictionaries and records. Where a text is wanted any scalar will do, and where a list or
dictionary is wanted a node that is left out counts as an empty one. A key of a dictionary may be
repeated, and the last one holds; a field of a record may not, and fields that the record does not
have are passed over.

Aliases are followed where a shape asks for a node, and only so often in all. What is passed over is
not looked at, so that an alias there may lead anywhere.
-/

namespace Muster.Yaml

/-- Reading data from the nodes of a document. The nodes that carry anchors are known by their
numbers; the state says how many aliases may still be followed. -/
abbrev Decoding := ReaderT (List (Nat × Node)) (StateT Nat Option)

namespace Decoding

/-- How many aliases may be followed in reading a document, for each step in which its root can be
told. -/
def aliasesPerStep : Nat := 100

/-- What is read from the root of a document. -/
def run? {α : Type} (decode : Node → Decoding α) (document : Document) : Option α :=
  ((decode document.root).run document.anchors).run' (aliasesPerStep * document.root.size)

/-- The node itself, or the one that an alias stands for. That one is no alias. -/
def follow (node : Node) : Decoding Node :=
  match node with
  | .alias anchor => do
    match ← get with
    | 0 => failure
    | left + 1 =>
      set left
      match (← read).lookup anchor with
      | some target => return target
      | none => failure
  | node => return node

/-- The text of a scalar. -/
def text (node : Node) : Decoding String := do
  match ← follow node with
  | .scalar _ _ text => return text
  | _ => failure

/-- The text of a scalar that can mean nothing but a text. -/
def properText (node : Node) : Decoding String := do
  match ← follow node with
  | .scalar style tag text =>
    let isText : Bool := match tag with
      | some (.core name) => name ∉ ["bool", "int", "float", "null"]
      | some (.own _) => false
      | some .other => true
      | none => style ≠ .plain || isPlainText text.toList
    if isText then return text else failure
  | _ => failure

/-- A whole number that fits in 32 bits. It is plain, or a block that is marked as a number. -/
def number (node : Node) : Decoding Int := do
  match ← follow node with
  | .scalar style tag text =>
    if style = .plain || (style = .literal && tag = some (.core "int")) then
      match wholeNumber? text.toList with
      | some n =>
        if Int32.minValue.toInt ≤ n && n ≤ Int32.maxValue.toInt then return n else failure
      | none => failure
    else failure
  | _ => failure

/-- One of several things that have names. It is written as its name, or as a tag of the document's
own that names it before nothing. -/
def choice {α : Type} (ofName? : String → Option α) (node : Node) : Decoding α := do
  let name ← match ← follow node with
    | .scalar style (some (.own name)) text =>
      if style = .plain && isNull text.toList then pure name else failure
    | .scalar _ _ text => pure text
    | _ => failure
  match ofName? name with
  | some a => return a
  | none => failure

/-- Whether a node is empty, as one that is left out. -/
def isAbsent : Node → Bool
  | .scalar style _ text => style = .plain && text.isEmpty
  | _ => false

/-- The items of a list. -/
def items (node : Node) : Decoding (List Node) := do
  match ← follow node with
  | .sequence _ items => return items
  | node => if isAbsent node then return [] else failure

/-- The entries of a dictionary. -/
def entries (node : Node) : Decoding (List (Node × Node)) := do
  match ← follow node with
  | .mapping _ entries => return entries
  | node => if isAbsent node then return [] else failure

/-- A list of items that all have the same shape. -/
def list {α : Type} (item : Node → Decoding α) (node : Node) : Decoding (List α) := do
  (← items node).mapM item

/-- The entries of a dictionary whose keys have one shape and whose values have another. -/
def pairs {α β : Type} (key : Node → Decoding α) (value : Node → Decoding β) (node : Node) :
    Decoding (List (α × β)) := do
  (← entries node).mapM fun (k, v) => return (← key k, ← value v)

/-- A dictionary whose values all have the same shape. -/
def dictionary {α : Type} (value : Node → Decoding α) (node : Node) : Decoding (Dictionary α) :=
  return Dictionary.ofList (← pairs text value node)

/-- For each of a record's fields the node that it holds, if it is given. -/
def fields (names : List String) (node : Node) : Decoding (List (Option Node)) := do
  let named ← pairs text pure node
  names.mapM fun name =>
    match named.filter (·.1 = name) with
    | [] => return none
    | [(_, value)] => return some value
    -- a field is given twice
    | _ => failure

end Decoding

end Muster.Yaml
