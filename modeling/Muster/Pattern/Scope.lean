import Muster.Roster.Party
import Muster.Template.Piece

/-!
# What slots refer to

The text that fills a slot is brought into normal form and looked up in a *scope*: the species and
backgrounds of the game and the party, if there is one. A text that names nothing known still fills
the slot, which is then unresolved. `Bindings` records, for each kind of slot, whether it was filled
and with what.
-/

namespace Muster

/-- What the text of a slot refers to. -/
inductive Referent where
  /-- Free text refers to itself. -/
  | text (text : String)
  | species (species : Species)
  | background (background : Background)
  /-- A member of the party, by number. -/
  | member (id : Nat)
  deriving DecidableEq, Repr

/-- What slots can refer to at some moment of the game. -/
structure Scope where
  species : List Species := []
  backgrounds : List Background := []
  party : Option Party := none
  deriving Repr

namespace Scope

/-- Whether there is anything that a slot of the given kind could refer to. -/
def offers (scope : Scope) : SlotKind → Bool
  | .member => scope.party.isSome
  | _ => true

/-- What a text in normal form refers to, as the text of a slot of the given kind. -/
def resolve (scope : Scope) (kind : SlotKind) (wanted : String) : Option Referent :=
  match kind with
  | .name | .topic => some (.text wanted)
  | .species => (scope.species.find? (·.answersTo wanted)).map .species
  | .background => (scope.backgrounds.find? (·.answersTo wanted)).map .background
  | .member => (scope.party.bind (·.find? wanted)).map fun member => .member member.id

end Scope

/-- The slots filled by a line: for each kind nothing, or an unresolved or resolved filling. -/
structure Bindings where
  value? : SlotKind → Option (Option Referent)

namespace Bindings

/-- No slot is filled. -/
def empty : Bindings := ⟨fun _ => none⟩

instance : Inhabited Bindings := ⟨empty⟩

/-- Records the filling of a slot, in place of an earlier one of the same kind. -/
def insert (bindings : Bindings) (kind : SlotKind) (value : Option Referent) : Bindings :=
  ⟨fun k => if k = kind then some value else bindings.value? k⟩

/-- Whether a slot of the given kind is filled. -/
def contains (bindings : Bindings) (kind : SlotKind) : Bool := (bindings.value? kind).isSome

/-- What the slot of the given kind refers to, if it is filled and resolved. -/
def get? (bindings : Bindings) (kind : SlotKind) : Option Referent :=
  (bindings.value? kind).join

/-- The free text of a slot. -/
def text? (bindings : Bindings) (kind : SlotKind) : Option String :=
  match bindings.get? kind with
  | some (.text text) => some text
  | _ => none

/-- The species named. -/
def species? (bindings : Bindings) : Option Species :=
  match bindings.get? .species with
  | some (.species species) => some species
  | _ => none

/-- The background named. -/
def background? (bindings : Bindings) : Option Background :=
  match bindings.get? .background with
  | some (.background background) => some background
  | _ => none

/-- The number of the member named. -/
def member? (bindings : Bindings) : Option Nat :=
  match bindings.get? .member with
  | some (.member id) => some id
  | _ => none

@[ext] theorem ext {a b : Bindings} (h : ∀ kind, a.value? kind = b.value? kind) : a = b := by
  cases a
  cases b
  simp only [Bindings.mk.injEq]
  exact funext h

@[simp] theorem value?_empty (kind : SlotKind) : empty.value? kind = none := rfl

@[simp] theorem value?_insert (bindings : Bindings) (k kind : SlotKind) (value : Option Referent) :
    (bindings.insert kind value).value? k = if k = kind then some value else bindings.value? k :=
  rfl

end Bindings

end Muster
