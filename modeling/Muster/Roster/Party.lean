import Muster.Roster.Character

/-!
# Parties

A party has a name and its members in the order in which they joined. Members get ascending
numbers, and the number of a member who left is not given again until the numbers, which have 32 bits,
are used up.
-/

namespace Muster

/-- A party of characters. -/
structure Party where
  name : String := ""
  members : List Character := []
  /-- The number for the next member; numbers start at one, whatever stands here. -/
  nextId : Nat := 0
  deriving DecidableEq, Repr, Inhabited

namespace Party

/-- An empty party of the given name. -/
def named (name : String) : Party := { name, nextId := 1 }

/-- The party under another name. -/
def rename (party : Party) (name : String) : Party := { party with name }

/-- The number that the next member gets. -/
def freshId (party : Party) : Nat := max party.nextId 1

/-- Lets a new character join, as the last of the members. After the greatest number of 32 bits the
next one wraps around. -/
def add (party : Party) (name : String) (species : Species) (background : Background) : Party :=
  { party with
    members := party.members ++ [Character.create party.freshId name species background]
    nextId := (UInt32.ofNat (party.freshId + 1)).toNat }

/-- The member with a given number. -/
def get? (party : Party) (id : Nat) : Option Character := party.members.find? (·.id == id)

/-- The party without the member of the given number. -/
def remove (party : Party) (id : Nat) : Party :=
  { party with members := party.members.eraseP (·.id == id) }

/-- Changes the first of some characters that has the given number. -/
def updateFirst (id : Nat) (change : Character → Character) : List Character → List Character
  | [] => []
  | c :: cs => if c.id == id then change c :: cs else c :: updateFirst id change cs

/-- Changes the member of the given number. -/
def update (party : Party) (id : Nat) (change : Character → Character) : Party :=
  { party with members := updateFirst id change party.members }

/-- The first member who answers to a text in normal form. -/
def find? (party : Party) (wanted : String) : Option Character :=
  party.members.find? (·.answersTo wanted)

/-- Whether nobody has joined. -/
def isEmpty (party : Party) : Bool := party.members.isEmpty

end Party

end Muster
