import Muster.Proofs.Pattern.Routes

/-!
# Where slots end

A slot ends where the next thing begins that is sure to come: before a word, or at the end of the
line. What comes next is found in the template written out in a row, by going on from the slot past
white space and past the ends of groups (`slotEnds`). Main statement: `compile_slotEnds`. A template
compiles exactly if each of its slots has such an end, its pattern has the same slots with these
ends, and on every route through the pattern a slot is followed by what it stops at.
-/

namespace Muster

open Muster.Text Muster.Pattern

namespace Template

/-! ## A template in a row -/

/-- What stands at one place of a template that is written out in a row. -/
inductive Sign where
  | word (letters : List Char)
  | space
  | slot (kind : SlotKind) (offset : Nat)
  /-- A group begins. -/
  | opening
  /-- A group ends. -/
  | closing

mutual

/-- A piece in a row. -/
def Piece.signs : Piece → List Sign
  | .word letters => [.word letters]
  | .space => [.space]
  | .group pieces _ => .opening :: Piece.signsOfAll pieces ++ [.closing]
  | .slot kind offset => [.slot kind offset]

/-- Some pieces in a row. -/
def Piece.signsOfAll : List Piece → List Sign
  | [] => []
  | piece :: rest => Piece.signs piece ++ Piece.signsOfAll rest

end

/-- What comes next in a row, past white space and ends of groups, or after it if there is nothing
else. -/
def Follow.ofSigns (outer : Follow) : List Sign → Follow
  | [] => outer
  | .space :: rest => Follow.ofSigns outer rest
  | .closing :: rest => Follow.ofSigns outer rest
  | .word letters :: _ => .word letters
  | .slot _ _ :: _ => .slot
  | .opening :: _ => .group

/-- A slot of a template, and what comes next after it. -/
structure SlotEnd where
  kind : SlotKind
  offset : Nat
  next : Follow

/-- The slots in a row, each with what comes next. -/
def slotEnds (outer : Follow) : List Sign → List SlotEnd
  | [] => []
  | .slot kind offset :: rest => ⟨kind, offset, Follow.ofSigns outer rest⟩ :: slotEnds outer rest
  | _ :: rest => slotEnds outer rest

/-- The slots of a template in reading order, each with what comes next. -/
def slotEndsOf (pieces : List Piece) : List SlotEnd := slotEnds .lineEnd (Piece.signsOfAll pieces)

section

variable {outer : Follow}

theorem ofSigns_append (signs more : List Sign) :
    Follow.ofSigns outer (signs ++ more) = Follow.ofSigns (Follow.ofSigns outer more) signs := by
  induction signs with
  | nil => rfl
  | cons sign signs ih => cases sign <;> first | exact ih | rfl

theorem slotEnds_append (signs more : List Sign) :
    slotEnds outer (signs ++ more) =
      slotEnds (Follow.ofSigns outer more) signs ++ slotEnds outer more := by
  induction signs with
  | nil => rfl
  | cons sign signs ih =>
    cases sign with
    | slot kind offset =>
      rw [List.cons_append, slotEnds, slotEnds, ih, ofSigns_append, List.cons_append]
    | _ => exact ih

/-- What comes first among some pieces comes first in the row that they make. -/
theorem ofSigns_signsOfAll (pieces : List Piece) :
    Follow.ofSigns outer (Piece.signsOfAll pieces) = Follow.of outer pieces := by
  induction pieces with
  | nil => rfl
  | cons piece rest ih =>
    cases piece with
    | space => exact ih
    | _ => rfl

/-- What comes next after a slot of a piece may stand after the piece. -/
theorem slotEnds_signsOfAll_cons (piece : Piece) (rest : List Piece) :
    slotEnds outer (Piece.signsOfAll (piece :: rest)) =
      slotEnds (Follow.of outer rest) (Piece.signs piece) ++
        slotEnds outer (Piece.signsOfAll rest) := by
  rw [Piece.signsOfAll, slotEnds_append, ofSigns_signsOfAll]

/-- At the end of a group one reads on after the group. -/
theorem slotEnds_signs_group (pieces : List Piece) (offset : Nat) :
    slotEnds outer (Piece.signs (.group pieces offset)) =
      slotEnds outer (Piece.signsOfAll pieces) := by
  show slotEnds outer (Piece.signsOfAll pieces ++ [.closing]) = _
  rw [slotEnds_append]
  exact List.append_nil _

/-- Every slot is listed, in reading order. -/
theorem map_slotEnds_signsOfAll (pieces : List Piece) (outer : Follow) :
    (slotEnds outer (Piece.signsOfAll pieces)).map (fun slot => (slot.kind, slot.offset)) =
      Piece.slotsOfAll pieces := by
  induction pieces using Piece.listInduction generalizing outer with
  | nil => rfl
  | word letters rest ih => exact ih outer
  | space rest ih => exact ih outer
  | slot kind offset rest ih => exact congrArg ((kind, offset) :: ·) (ih outer)
  | group pieces offset rest ihp ih =>
    rw [slotEnds_signsOfAll_cons, slotEnds_signs_group, List.map_append, ihp, ih]
    rfl

end

/-! ## Whether the end is clear -/

/-- It is clear where a slot ends: before the word that comes next, or at the end of the line. -/
def SlotEnd.Clear (slot : SlotEnd) : Prop :=
  slot.next = .lineEnd ∨ ∃ letters, slot.next = .word letters

/-- The defect of a slot whose end is not clear. -/
def SlotEnd.defect? (slot : SlotEnd) : Option Defect :=
  match slot.next with
  | .lineEnd => none
  | .word _ => none
  | .slot => some (.adjacentSlots slot.kind slot.offset)
  | .group => some (.unboundedSlot slot.kind slot.offset)

theorem SlotEnd.defect?_eq_none_iff (slot : SlotEnd) :
    slot.defect? = none ↔ slot.Clear := by
  obtain ⟨kind, offset, next⟩ := slot
  cases next <;> simp [SlotEnd.defect?, SlotEnd.Clear]

instance (slot : SlotEnd) : Decidable slot.Clear :=
  decidable_of_iff (slot.defect? = none) slot.defect?_eq_none_iff

theorem SlotEnd.defect?_eq_some_iff (slot : SlotEnd) (defect : Defect) :
    slot.defect? = some defect ↔
      slot.next = .slot ∧ defect = .adjacentSlots slot.kind slot.offset ∨
        slot.next = .group ∧ defect = .unboundedSlot slot.kind slot.offset := by
  obtain ⟨kind, offset, next⟩ := slot
  cases next <;> simp [SlotEnd.defect?, eq_comm]

section

variable {scope : Scope} {outer : Follow}

/-- With a party there is something that every slot could refer to. -/
theorem offers_of_party (hparty : scope.party.isSome = true) (kind : SlotKind) :
    scope.offers kind = true := by
  cases kind with
  | member => exact hparty
  | _ => rfl

theorem compileSlot_eq_error_iff (hparty : scope.party.isSome = true) (follow : Follow)
    (kind : SlotKind) (offset : Nat) (defect : Defect) :
    compileSlot scope follow kind offset = .error defect ↔
      SlotEnd.defect? ⟨kind, offset, follow⟩ = some defect := by
  have hoffers := offers_of_party hparty kind
  cases follow <;> simp [compileSlot, hoffers, SlotEnd.defect?]

theorem compilePiece_group_eq_error_iff {pieces : List Piece} {offset : Nat} {defect : Defect} :
    compilePiece scope outer (.group pieces offset) = .error defect ↔
      compilePieces scope outer pieces = .error defect := by
  rw [compilePiece, bind_eq_error_iff]
  constructor
  · rintro (h | ⟨_, _, h⟩)
    · exact h
    · cases h
  · exact Or.inl

/-- Pieces in a row do not compile if the first does not, or if it does and the others do not. -/
theorem compilePieces_cons_eq_error_iff {piece : Piece} {rest : List Piece} {defect : Defect} :
    compilePieces scope outer (piece :: rest) = .error defect ↔
      compilePiece scope (Follow.of outer rest) piece = .error defect ∨
        (∃ part, compilePiece scope (Follow.of outer rest) piece = .ok part) ∧
          compilePieces scope outer rest = .error defect := by
  rw [compilePieces, bind_eq_error_iff]
  constructor
  · rintro (h | ⟨part, hpart, h⟩)
    · exact Or.inl h
    · rcases bind_eq_error_iff.1 h with hrest | ⟨_, _, h⟩
      · exact Or.inr ⟨⟨part, hpart⟩, hrest⟩
      · cases h
  · rintro (h | ⟨⟨part, hpart⟩, hrest⟩)
    · exact Or.inl h
    · exact Or.inr ⟨part, hpart, bind_eq_error_iff.2 (Or.inl hrest)⟩

/-- Pieces do not compile because of the first slot among them whose end is not clear. -/
theorem compilePieces_eq_error_iff (hparty : scope.party.isSome = true) (pieces : List Piece)
    (outer : Follow) (defect : Defect) :
    compilePieces scope outer pieces = .error defect ↔
      (slotEnds outer (Piece.signsOfAll pieces)).findSome? SlotEnd.defect? = some defect := by
  -- if it is so for the first piece and for the others, it is so for all of them
  have hcons : ∀ {piece : Piece} {rest : List Piece} {outer : Follow} {defect : Defect},
      (∀ defect, compilePiece scope (Follow.of outer rest) piece = .error defect ↔
        (slotEnds (Follow.of outer rest) piece.signs).findSome? SlotEnd.defect? = some defect) →
      (compilePieces scope outer rest = .error defect ↔
        (slotEnds outer (Piece.signsOfAll rest)).findSome? SlotEnd.defect? = some defect) →
      (compilePieces scope outer (piece :: rest) = .error defect ↔
        (slotEnds outer (Piece.signsOfAll (piece :: rest))).findSome? SlotEnd.defect? =
          some defect) := by
    intro piece rest outer defect hpiece hrest
    rw [slotEnds_signsOfAll_cons, List.findSome?_append, Option.or_eq_some_iff,
      compilePieces_cons_eq_error_iff, exists_ok_iff hpiece, hpiece, hrest]
  induction pieces using Piece.listInduction generalizing outer defect with
  | nil => simp [compilePieces, Piece.signsOfAll, slotEnds]
  | word letters rest ih =>
    refine hcons (fun defect => ?_) (ih outer defect)
    simp [compilePiece, Piece.signs, slotEnds]
  | space rest ih =>
    refine hcons (fun defect => ?_) (ih outer defect)
    simp [compilePiece, Piece.signs, slotEnds]
  | slot kind offset rest ih =>
    refine hcons (fun defect => ?_) (ih outer defect)
    rw [compilePiece, compileSlot_eq_error_iff hparty, Piece.signs, slotEnds, slotEnds,
      List.findSome?_singleton]
    rfl
  | group pieces offset rest ihp ih =>
    refine hcons (fun defect => ?_) (ih outer defect)
    rw [compilePiece_group_eq_error_iff, slotEnds_signs_group]
    exact ihp _ defect

end

end Template

/-! ## The slots of a pattern -/

namespace Pattern

mutual

/-- The slots within a pattern, in order, each with its stop word. -/
def slots : Pattern → List (SlotKind × Option (List Char))
  | .literal _ => []
  | .gap => []
  | .sequence parts => slotsOfEach parts
  | .choice ways => slotsOfEach ways
  | .optional part => slots part
  | .slot kind stop => [(kind, stop)]
  | .lineEnd => []

/-- The slots within some patterns, in order. -/
def slotsOfEach : List Pattern → List (SlotKind × Option (List Char))
  | [] => []
  | part :: parts => slots part ++ slotsOfEach parts

end

theorem slotsOfEach_append (parts more : List Pattern) :
    slotsOfEach (parts ++ more) = slotsOfEach parts ++ slotsOfEach more := by
  induction parts with
  | nil => rfl
  | cons part parts ih => rw [List.cons_append, slotsOfEach, slotsOfEach, ih, List.append_assoc]

theorem routesOfEach_append (parts more : List Pattern) :
    routesOfEach (parts ++ more) =
      (routesOfEach parts).flatMap fun route => (routesOfEach more).map (route ++ ·) := by
  induction parts with
  | nil => simp [routesOfEach]
  | cons part parts ih =>
    rw [List.cons_append, routesOfEach, ih, routesOfEach, List.flatMap_assoc]
    simp only [List.map_flatMap, List.flatMap_map, List.map_map, Function.comp_def,
      List.append_assoc]

end Pattern

/-- Whether a step passes white space only. -/
def Step.isGap : Step → Bool
  | .gap => true
  | _ => false

/-- The next step that does not only pass white space. -/
def nextStep? (route : List Step) : Option Step := route.find? (!·.isGap)

/-- The step at which a slot stops. -/
def Step.stopping : Option (List Char) → Step
  | some letters => .word letters
  | none => .lineEnd

/-- Each slot on a route is followed by the step at which it stops. -/
def Stopped : List Step → Prop
  | [] => True
  | .slot _ stop :: rest => nextStep? rest = some (Step.stopping stop) ∧ Stopped rest
  | _ :: rest => Stopped rest

theorem Stopped.next {before after : List Step} {kind : SlotKind} {stop : Option (List Char)}
    (h : Stopped (before ++ .slot kind stop :: after)) :
    nextStep? after = some (Step.stopping stop) := by
  induction before with
  | nil => exact h.1
  | cons step before ih =>
    cases step with
    | slot _ _ => exact ih h.2
    | _ => exact ih h

namespace Template

/-- The word that follows, if one does. -/
def Follow.word? : Follow → Option (List Char)
  | .word letters => some letters
  | _ => none

/-- A route begins with what was expected there, if that is settled. -/
def Begins (route : List Step) : Follow → Prop
  | .lineEnd => nextStep? route = some .lineEnd
  | .word letters => nextStep? route = some (.word (lowerText letters))
  | .slot => True
  | .group => True

section

variable {scope : Scope} {outer : Follow} {pieces : List Piece} {parts : List Pattern}

/-- The slots of some pieces are compiled one by one, each with the word that comes next. -/
theorem slots_compilePieces (hlowered : ∀ w ∈ Piece.wordsOfAll pieces, Lowered w)
    (houter : ∀ letters, outer = .word letters → Lowered letters)
    (hparts : compilePieces scope outer pieces = .ok parts) :
    slotsOfEach parts =
      (slotEnds outer (Piece.signsOfAll pieces)).map fun slot => (slot.kind, slot.next.word?) := by
  induction pieces using Piece.listInduction generalizing outer parts with
  | nil =>
    cases hparts
    rfl
  | word letters rest ih =>
    obtain ⟨first, others, hfirst, hothers, rfl⟩ := compilePieces_cons_eq_ok hparts
    obtain ⟨_, hrest⟩ := Piece.forall_wordsOfAll_cons.1 hlowered
    cases hfirst
    show slotsOfEach others = (slotEnds outer (Piece.signsOfAll rest)).map _
    exact ih hrest houter hothers
  | space rest ih =>
    obtain ⟨first, others, hfirst, hothers, rfl⟩ := compilePieces_cons_eq_ok hparts
    cases hfirst
    show slotsOfEach others = (slotEnds outer (Piece.signsOfAll rest)).map _
    exact ih hlowered houter hothers
  | slot kind offset rest ih =>
    obtain ⟨first, others, hfirst, hothers, rfl⟩ := compilePieces_cons_eq_ok hparts
    obtain ⟨_, hrest⟩ := Piece.forall_wordsOfAll_cons.1 hlowered
    have hfollow : ∀ letters, Follow.of outer rest = .word letters → Lowered letters :=
      fun _ => of_follow hrest houter
    rw [slotEnds_signsOfAll_cons, List.map_append, ← ih hrest houter hothers, slotsOfEach]
    rcases compileSlot_eq_ok hfirst with ⟨hend, rfl⟩ | ⟨letters, hword, rfl⟩
    · rw [hend]
      rfl
    · rw [lowerText_of_lowered (hfollow letters hword), hword]
      rfl
  | group pieces offset rest ihp ih =>
    obtain ⟨first, others, hfirst, hothers, rfl⟩ := compilePieces_cons_eq_ok hparts
    obtain ⟨inner, hinner, rfl⟩ := compilePiece_group_eq_ok hfirst
    obtain ⟨hpieces, hrest⟩ := Piece.forall_wordsOfAll_cons.1 hlowered
    rw [slotEnds_signsOfAll_cons, List.map_append, ← ih hrest houter hothers,
      slotEnds_signs_group, ← ihp hpieces (fun _ => of_follow hrest houter) hinner]
    rfl

/-- The word that comes next after a slot is lowered, as all words are. -/
theorem lowered_of_mem_slotEnds (hlowered : ∀ w ∈ Piece.wordsOfAll pieces, Lowered w)
    (houter : ∀ letters, outer = .word letters → Lowered letters) {slot : SlotEnd}
    (hslot : slot ∈ slotEnds outer (Piece.signsOfAll pieces)) {letters : List Char}
    (hnext : slot.next = .word letters) : Lowered letters := by
  induction pieces using Piece.listInduction generalizing outer with
  | nil => cases hslot
  | word other rest ih =>
    exact ih (Piece.forall_wordsOfAll_cons.1 hlowered).2 houter hslot
  | space rest ih => exact ih hlowered houter hslot
  | slot kind offset rest ih =>
    obtain ⟨_, hrest⟩ := Piece.forall_wordsOfAll_cons.1 hlowered
    rw [slotEnds_signsOfAll_cons] at hslot
    rcases List.mem_append.1 hslot with hfirst | hothers
    · rw [List.mem_singleton.1 hfirst] at hnext
      exact of_follow hrest houter hnext
    · exact ih hrest houter hothers
  | group pieces offset rest ihp ih =>
    obtain ⟨hpieces, hrest⟩ := Piece.forall_wordsOfAll_cons.1 hlowered
    rw [slotEnds_signsOfAll_cons, slotEnds_signs_group] at hslot
    rcases List.mem_append.1 hslot with hinner | hothers
    · exact ihp hpieces (fun _ => of_follow hrest houter) hinner
    · exact ih hrest houter hothers

/-- Whichever groups are kept, what is expected after a slot comes next: by induction on the pieces,
for whatever route goes on from them. -/
theorem stopped_compilePieces (hparts : compilePieces scope outer pieces = .ok parts)
    {route more : List Step} (hroute : route ∈ routesOfEach parts) (hmore : Stopped more)
    (hbegins : Begins more outer) :
    Stopped (route ++ more) ∧ Begins (route ++ more) (Follow.of outer pieces) := by
  induction pieces using Piece.listInduction generalizing outer parts route more with
  | nil =>
    cases hparts
    rw [routesOfEach, List.mem_singleton] at hroute
    rw [hroute]
    exact ⟨hmore, hbegins⟩
  | word letters rest ih =>
    obtain ⟨first, others, hfirst, hothers, rfl⟩ := compilePieces_cons_eq_ok hparts
    cases hfirst
    obtain ⟨tail, htail, rfl⟩ : ∃ tail ∈ routesOfEach others,
        route = .word (lowerText letters) :: tail := by
      simpa [routesOfEach, routes, Pattern.ofWord, eq_comm] using hroute
    exact ⟨(ih hothers htail hmore hbegins).1, rfl⟩
  | space rest ih =>
    obtain ⟨first, others, hfirst, hothers, rfl⟩ := compilePieces_cons_eq_ok hparts
    cases hfirst
    obtain ⟨tail, htail, rfl⟩ : ∃ tail ∈ routesOfEach others, route = .gap :: tail := by
      simpa [routesOfEach, routes, eq_comm] using hroute
    obtain ⟨hstopped, hnext⟩ := ih hothers htail hmore hbegins
    refine ⟨hstopped, ?_⟩
    -- white space is no step that counts
    show Begins (.gap :: (tail ++ more)) (Follow.of outer rest)
    cases hfollow : Follow.of outer rest <;> rw [hfollow] at hnext <;> exact hnext
  | slot kind offset rest ih =>
    obtain ⟨first, others, hfirst, hothers, rfl⟩ := compilePieces_cons_eq_ok hparts
    rcases compileSlot_eq_ok hfirst with ⟨hend, rfl⟩ | ⟨letters, hword, rfl⟩
    · obtain ⟨tail, htail, rfl⟩ : ∃ tail ∈ routesOfEach others, route = .slot kind none :: tail := by
        simpa [routesOfEach, routes, eq_comm] using hroute
      obtain ⟨hstopped, hnext⟩ := ih hothers htail hmore hbegins
      rw [hend] at hnext
      exact ⟨⟨hnext, hstopped⟩, trivial⟩
    · obtain ⟨tail, htail, rfl⟩ : ∃ tail ∈ routesOfEach others,
          route = .slot kind (some (lowerText letters)) :: tail := by
        simpa [routesOfEach, routes, eq_comm] using hroute
      obtain ⟨hstopped, hnext⟩ := ih hothers htail hmore hbegins
      rw [hword] at hnext
      exact ⟨⟨hnext, hstopped⟩, trivial⟩
  | group pieces offset rest ihp ih =>
    obtain ⟨first, others, hfirst, hothers, rfl⟩ := compilePieces_cons_eq_ok hparts
    obtain ⟨inner, hinner, rfl⟩ := compilePiece_group_eq_ok hfirst
    obtain ⟨kept, hkept, tail, htail, rfl⟩ : ∃ kept ∈ [] :: routesOfEach inner,
        ∃ tail ∈ routesOfEach others, kept ++ tail = route := by
      simpa only [routesOfEach, routes, List.mem_flatMap, List.mem_map] using hroute
    obtain ⟨hstopped, hnext⟩ := ih hothers htail hmore hbegins
    rw [List.append_assoc]
    refine ⟨?_, trivial⟩
    rcases List.mem_cons.1 hkept with rfl | hkept
    · exact hstopped
    · exact (ihp hinner hkept hstopped hnext).1

end

/-! ## Whole templates -/

section

variable {scope : Scope} {template : String} {pieces : List Piece}

theorem compile_eq_error_iff (hparse : parse template = .ok pieces) {defect : Defect} :
    compile scope template = .error defect ↔
      compilePieces scope .lineEnd pieces = .error defect := by
  show (parse template >>= compileLine scope) = .error defect ↔ _
  rw [hparse]
  show compileLine scope pieces = .error defect ↔ _
  unfold compileLine
  rw [bind_eq_error_iff]
  constructor
  · rintro (h | ⟨_, _, h⟩)
    · exact h
    · cases h
  · exact Or.inl

/-- The pattern of a template has its slots, each with the word that comes next. -/
theorem slots_compile (hparse : parse template = .ok pieces) {pattern : Pattern}
    (h : compile scope template = .ok pattern) :
    pattern.slots = (slotEndsOf pieces).map fun slot => (slot.kind, slot.next.word?) := by
  obtain ⟨read, parts, hread, hparts, rfl⟩ := compile_eq_ok h
  obtain rfl := Except.ok.inj (hparse.symm.trans hread)
  have hlowered : ∀ w ∈ Piece.wordsOfAll pieces, Lowered w := fun _ hw =>
    (words_of_parse hparse hw).2
  show slotsOfEach (parts ++ [.gap, .lineEnd]) = _
  rw [slotsOfEach_append, slots_compilePieces hlowered (fun _ hword => Follow.noConfusion hword) hparts]
  exact List.append_nil _

/-- The stop words of a pattern are lowered. -/
theorem lowered_of_mem_slots {pattern : Pattern} (h : compile scope template = .ok pattern)
    {kind : SlotKind} {stop : List Char} (hslot : (kind, some stop) ∈ pattern.slots) :
    Lowered stop := by
  obtain ⟨pieces, _, hparse, _, _⟩ := compile_eq_ok h
  rw [slots_compile hparse h] at hslot
  obtain ⟨slot, hmem, heq⟩ := List.mem_map.1 hslot
  have hnext : slot.next = .word stop := by
    cases hnext : slot.next <;> simp_all [Follow.word?]
  exact lowered_of_mem_slotEnds (fun _ hw => (words_of_parse hparse hw).2)
    (fun _ hword => Follow.noConfusion hword) hmem hnext

/-- On every route through the pattern of a template a slot is followed by what it stops at. -/
theorem stopped_compile {pattern : Pattern} (h : compile scope template = .ok pattern)
    {route : List Step} (hroute : route ∈ pattern.routes) : Stopped route := by
  obtain ⟨pieces, parts, _, hparts, rfl⟩ := compile_eq_ok h
  rw [routes, List.cons_append, routesOfEach, routesOfEach_append] at hroute
  obtain ⟨inner, hinner, rfl⟩ : ∃ inner ∈ routesOfEach parts,
      route = .gap :: (inner ++ [.gap, .lineEnd]) := by
    simpa [routesOfEach, routes, eq_comm] using hroute
  have hend : Stopped [.gap, .lineEnd] := trivial
  exact (stopped_compilePieces hparts hinner hend rfl).1

/-- Where slots end. In a scope with a party a template compiles exactly if the end of each of its
slots is clear: a word or the end of the template comes next, past white space and the ends of
groups. Then its pattern has the same slots, each with the word that comes next, and whichever
groups are kept or left out, the next step after a slot, white space apart, is the literal of its
stop word, or the end of the line if there is no stop word. Otherwise the first slot whose end is
not clear is reported, according to whether a slot or a group comes next. -/
theorem compile_slotEnds (hparse : parse template = .ok pieces)
    (hparty : scope.party.isSome = true) :
    (slotEndsOf pieces).map (fun slot => (slot.kind, slot.offset)) = Piece.slotsOfAll pieces ∧
    ((∃ pattern, compile scope template = .ok pattern) ↔
      ∀ slot ∈ slotEndsOf pieces, slot.Clear) ∧
    (∀ pattern, compile scope template = .ok pattern →
      pattern.slots = (slotEndsOf pieces).map (fun slot => (slot.kind, slot.next.word?)) ∧
      ∀ before kind stop after, before ++ .slot kind stop :: after ∈ pattern.routes →
        nextStep? after = some (Step.stopping stop)) ∧
    ∀ defect, compile scope template = .error defect ↔
      ∃ before slot after, slotEndsOf pieces = before ++ slot :: after ∧
        (∀ earlier ∈ before, earlier.Clear) ∧
        (slot.next = .slot ∧ defect = .adjacentSlots slot.kind slot.offset ∨
          slot.next = .group ∧ defect = .unboundedSlot slot.kind slot.offset) := by
  have herror : ∀ defect, compile scope template = .error defect ↔
      (slotEndsOf pieces).findSome? SlotEnd.defect? = some defect := fun defect =>
    (compile_eq_error_iff hparse).trans (compilePieces_eq_error_iff hparty pieces .lineEnd defect)
  refine ⟨map_slotEnds_signsOfAll pieces .lineEnd, ?_,
    fun pattern hpattern => ⟨slots_compile hparse hpattern, ?_⟩, fun defect => ?_⟩
  · rw [exists_ok_iff herror, List.findSome?_eq_none_iff]
    exact forall₂_congr fun slot _ => slot.defect?_eq_none_iff
  · exact fun before kind stop after hroute => (stopped_compile hpattern hroute).next
  · rw [herror, List.findSome?_eq_some_iff]
    simp only [SlotEnd.defect?_eq_none_iff, SlotEnd.defect?_eq_some_iff]
    constructor
    · rintro ⟨before, slot, after, hsplit, hslot, hbefore⟩
      exact ⟨before, slot, after, hsplit, hbefore, hslot⟩
    · rintro ⟨before, slot, after, hsplit, hbefore, hslot⟩
      exact ⟨before, slot, after, hsplit, hslot, hbefore⟩

/-- The first slot ends before a word that stands after both groups around it. -/
theorem tell_slotEnds :
    ∃ pieces, parse "tell [[my] friend [\x7bname\x7d]] about \x7btopic\x7d" = .ok pieces ∧
      (∀ slot ∈ slotEndsOf pieces, slot.Clear) ∧
      ∃ pattern, compile { party := some {} }
          "tell [[my] friend [\x7bname\x7d]] about \x7btopic\x7d" = .ok pattern ∧
        pattern.slots = [(.name, some "about".toList), (.topic, none)] ∧
        ∀ before kind stop after, before ++ .slot kind stop :: after ∈ pattern.routes →
          nextStep? after = some (Step.stopping stop) := by
  have hcheck : (parse "tell [[my] friend [\x7bname\x7d]] about \x7btopic\x7d").toOption.any
      (fun pieces => decide (∀ slot ∈ slotEndsOf pieces, slot.Clear) &&
        (slotEndsOf pieces).map (fun slot => (slot.kind, slot.next.word?)) ==
          [(.name, some "about".toList), (.topic, none)]) = true := by
    decide +kernel
  obtain ⟨pieces, hparse, hends⟩ := exists_ok_of_any hcheck
  rw [Bool.and_eq_true, decide_eq_true_iff, beq_iff_eq] at hends
  have hparty : ({ party := some {} } : Scope).party.isSome = true := rfl
  obtain ⟨_, hcompiles, hpatterns, _⟩ := compile_slotEnds hparse hparty
  obtain ⟨pattern, hpattern⟩ := hcompiles.2 hends.1
  obtain ⟨hslots, hroutes⟩ := hpatterns pattern hpattern
  exact ⟨pieces, hparse, hends.1, pattern, hpattern, hslots.trans hends.2, hroutes⟩

end

end Template

end Muster
