import Muster.Text.Digits
import Muster.Yaml.Plain

/-!
# Tags

A tag says what kind of thing a node is. It is written in a few characters of ASCII, in which a
percent sign and two hexadecimal digits stand for one octet, and is put together of octets: what a
handle stands for and a name.
-/

namespace Muster.Yaml

/-- What a tag says. -/
inductive Tag where
  /-- One of the tags that every document has, for a kind of data. -/
  | core (name : String)
  /-- One of the document's own, which begins with an exclamation mark. -/
  | own (name : String)
  | other
  deriving DecidableEq, Repr

/-- What the tags that every document has begin with. -/
def coreTags : String := "tag:yaml.org,2002:"

/-- Whether a character may occur in a tag. A tag in angle brackets may hold some more. -/
def isTagChar (bracketed : Bool) (c : Char) : Bool :=
  c.isAlphanum || c ∈ ['-', '_', ';', '/', '?', ':', '@', '&', '=', '+', '$', '.', '!', '~', '*',
    '\'', '(', ')', '%'] || (bracketed && c ∈ [',', '[', ']'])

namespace Tag

/-- How many octets follow the first one of a character; none if it cannot be the first. -/
def followers? (octet : Nat) : Option Nat :=
  if octet < 0x80 then some 0
  else if octet < 0xC0 then none
  else if octet < 0xE0 then some 1
  else if octet < 0xF0 then some 2
  else if octet < 0xF8 then some 3
  else none

/-- Whether an octet can follow the first one of a character. -/
def isFollower (octet : Nat) : Bool := 0x80 ≤ octet && octet < 0xC0

/-- The octets that the characters of a tag stand for. So many of them, all written with a percent
sign, are still to follow the first one of a character. -/
def octets? (pending : Nat) : List Char → Option (List UInt8)
  | [] => if pending = 0 then some [] else none
  | '%' :: a :: b :: rest => do
    let octet ← Text.natural? 16 [a, b]
    let pending ←
      if pending = 0 then followers? octet
      else if isFollower octet then some (pending - 1)
      else none
    let octets ← octets? pending rest
    some (octet.toUInt8 :: octets)
  | c :: rest => do
    if c = '%' || pending ≠ 0 then none
    else
      let octets ← octets? 0 rest
      some (c.toNat.toUInt8 :: octets)

/-- The octets that a part of a tag stands for. One that is zero ends it. -/
def part? (spelling : List Char) : Option (List UInt8) :=
  (octets? 0 spelling).map fun octets => octets.takeWhile (· ≠ 0)

/-- The tag that some octets are. Octets that are no text say nothing. -/
def ofOctets (octets : List UInt8) : Tag :=
  match (String.fromUTF8? ⟨octets.toArray⟩).map String.toList with
  | some ('!' :: name) => .own (String.ofList name)
  | some text => match afterStart? coreTags text with
    | some name => .core (String.ofList name)
    | none => .other
  | none => .other

/-- The octets of a text in ASCII. -/
def ascii (text : String) : List UInt8 := text.toList.map (·.toNat.toUInt8)

end Tag

end Muster.Yaml
