import Muster.Proofs.Command.History
import Muster.Proofs.Template.Readings

/-!
# Recognition in two scopes

Two scopes may list different species and backgrounds and have different parties. As long as both
have a party or neither does, templates compile to the same in both (`compileAll_congr`), commands
are registered in both or in neither (`registerEach_congr`), and every line is recognized as the same
in both. The slots then hold the same texts, and only what these refer to may differ
(`Bindings.Alike`). The main statement is `recognition_congr`.
-/

namespace Muster

variable {scope scope' : Scope}

/-- Which slots there can be depends on nothing but whether there is a party. -/
theorem Scope.offers_congr (h : scope.party.isSome = scope'.party.isSome) :
    scope.offers = scope'.offers := by
  funext kind
  cases kind with
  | member => exact h
  | name | topic | species | background => rfl

/-- Free text refers to itself in every scope, and nothing else refers to a text. -/
theorem Scope.resolve_eq_text_iff {kind : SlotKind} {wanted text : String} :
    scope.resolve kind wanted = some (.text text) ↔
      (kind = .name ∨ kind = .topic) ∧ wanted = text := by
  cases kind with
  | name | topic => simp [resolve]
  | species | background | member =>
    rw [resolve, Option.map_eq_some_iff]
    simp

/-! ## Compiling -/

namespace Template

theorem compileSlot_congr (h : scope.offers = scope'.offers) (follow : Follow) (kind : SlotKind)
    (offset : Nat) : compileSlot scope follow kind offset = compileSlot scope' follow kind offset := by
  unfold compileSlot
  rw [h]

theorem compilePieces_congr (h : scope.offers = scope'.offers) (outer : Follow)
    (pieces : List Piece) : compilePieces scope outer pieces = compilePieces scope' outer pieces := by
  induction pieces using Piece.listInduction generalizing outer with
  | nil => rfl
  | word letters rest ih => rw [compilePieces, compilePieces, compilePiece, compilePiece, ih]
  | space rest ih => rw [compilePieces, compilePieces, compilePiece, compilePiece, ih]
  | slot kind offset rest ih =>
    rw [compilePieces, compilePieces, compilePiece, compilePiece, compileSlot_congr h, ih]
  | group pieces offset rest ihPieces ih =>
    rw [compilePieces, compilePieces, compilePiece, compilePiece, ihPieces, ih]

/-- Templates compile to the same in both scopes, or are refused in both for the same reason. -/
theorem compileAll_congr (h : scope.offers = scope'.offers) (templates : List String) :
    compileAll scope templates = compileAll scope' templates := by
  have hline : ∀ pieces, compileLine scope pieces = compileLine scope' pieces := by
    intro pieces
    rw [compileLine, compileLine, compilePieces_congr h]
  have hranked : compileRanked scope = compileRanked scope' := by
    funext template
    simp only [compileRanked, hline]
  rw [compileAll, compileAll, hranked]

end Template

/-! ## Matching -/

namespace Bindings

/-- Two lots of bindings, one in each scope, are alike if the same slots are filled with the same
texts. -/
structure Alike (scope scope' : Scope) (bindings other : Bindings) : Prop where
  /-- The same slots are filled. -/
  kinds : ∀ kind, bindings.contains kind = other.contains kind
  /-- Slots for free text hold the same text. -/
  texts : ∀ kind, bindings.text? kind = other.text? kind
  /-- The text of any slot has been looked up in both scopes. -/
  wanted : ∃ wanted : SlotKind → Option String, ∀ kind,
    bindings.value? kind = (wanted kind).map (scope.resolve kind) ∧
      other.value? kind = (wanted kind).map (scope'.resolve kind)

theorem text?_eq_some_iff {bindings : Bindings} {kind : SlotKind} {text : String} :
    bindings.text? kind = some text ↔ bindings.value? kind = some (some (.text text)) := by
  rw [text?, get?]
  rcases bindings.value? kind with _ | _ | (_ | _ | _ | _) <;> simp

/-- The same fillings, looked up in both scopes. -/
theorem alike_fill (scope scope' : Scope) (fillings : List Filling) :
    Alike scope scope' (empty.fill scope fillings) (empty.fill scope' fillings) := by
  let wanted (kind : SlotKind) : Option String :=
    (fillings.reverse.find? (·.kind = kind)).map Filling.wanted
  have hvalue : ∀ (scope : Scope) (kind : SlotKind),
      (empty.fill scope fillings).value? kind = (wanted kind).map (scope.resolve kind) := by
    intro scope kind
    rw [value?_fill]
    show _ = ((fillings.reverse.find? (·.kind = kind)).map Filling.wanted).map (scope.resolve kind)
    cases fillings.reverse.find? (·.kind = kind) <;> rfl
  constructor
  · intro kind
    simp only [contains, hvalue, Option.isSome_map]
  · intro kind
    ext text
    simp only [text?_eq_some_iff, hvalue, Option.map_eq_some_iff, Scope.resolve_eq_text_iff]
  · exact ⟨wanted, fun kind => ⟨hvalue scope kind, hvalue scope' kind⟩⟩

end Bindings

/-- A pattern matches a line in both scopes or in neither. -/
theorem Pattern.alike_matchLine (scope scope' : Scope) (pattern : Pattern) (line : String) :
    Option.Rel (Bindings.Alike scope scope') (pattern.matchLine scope line)
      (pattern.matchLine scope' line) := by
  rw [matchLine_eq, matchLine_eq]
  cases pattern.recognizeLine line with
  | none => exact .none
  | some fillings => exact .some (Bindings.alike_fill scope scope' fillings)

/-! ## Commands -/

section

variable {H : Type}

theorem CommandSet.enrollAs_congr (h : scope.offers = scope'.offers) (source name : String)
    (templates : List String) (handler : H) :
    enrollAs scope source name templates handler =
      enrollAs scope' source name templates handler := by
  rw [enrollAs, enrollAs, Template.compileAll_congr h]

theorem Registration.attempt_congr (h : scope.offers = scope'.offers) (set : CommandSet H)
    (call : Registration H) : call.attempt scope set = call.attempt scope' set := by
  have hperform : call.perform scope = call.perform scope' := by
    cases call with
    | own name templates handler => simp only [perform, CommandSet.enroll, CommandSet.enrollAs_congr h]
    | listed control stage name handler =>
      simp only [perform, CommandSet.enrollFrom, CommandSet.enrollAs_congr h]
  rw [attempt, attempt, hperform]

/-- Commands are registered in both scopes, or refused in both for the same reason. -/
theorem registerEach_congr (h : scope.offers = scope'.offers) (set : CommandSet H)
    (calls : List (Registration H)) :
    registerEach scope set calls = registerEach scope' set calls := by
  induction calls generalizing set with
  | nil => rfl
  | cons call calls ih => rw [registerEach, registerEach, Registration.attempt_congr h, ih]

/-- A line is meant for the same commands in both scopes. -/
theorem CommandSet.alike_dispatch (set : CommandSet H) (scope scope' : Scope) (line : String) :
    Dispatch.Rel Eq (Bindings.Alike scope scope') (set.dispatch scope line)
      (set.dispatch scope' line) := by
  have haccepting := set.accepting_eq scope line
  have haccepting' := set.accepting_eq scope' line
  rcases hline : set.recognizing line with _ | ⟨⟨command, fillings⟩, _ | ⟨second, rest⟩⟩ <;>
    rw [hline] at haccepting haccepting'
  · rw [dispatch_of_nil haccepting, dispatch_of_nil haccepting']
    exact .unrecognized
  · rw [dispatch_of_one haccepting, dispatch_of_one haccepting']
    exact .matched _ _ (Bindings.alike_fill scope scope' fillings)
  · have htwo : 2 ≤ (set.accepting scope line).length := by simp [haccepting]
    have htwo' : 2 ≤ (set.accepting scope' line).length := by simp [haccepting']
    rw [dispatch_of_several htwo, dispatch_of_several htwo', haccepting, haccepting']
    refine .ambiguous ?_
    rw [List.map_map, List.map_map]
    rfl

/-- If two scopes both have a party, or both have none, templates compile to the same in both, and
every line is recognized as the same in both: the same slots are filled with the same texts. The
commands of a stage are then the same in both, too, and a line is meant for the same of them. -/
theorem recognition_congr (h : scope.party.isSome = scope'.party.isSome) :
    (∀ templates : List String,
      Template.compileAll scope templates = Template.compileAll scope' templates ∧
        ∀ pattern, Template.compileAll scope templates = .ok pattern → ∀ line : String,
          Option.Rel (Bindings.Alike scope scope') (pattern.matchLine scope line)
            (pattern.matchLine scope' line)) ∧
    ∀ (stage : String) (calls : List (Registration H)),
      (registerEach scope { stage } calls).2 = (registerEach scope' { stage } calls).2 ∧
        ∀ line : String, Dispatch.Rel Eq (Bindings.Alike scope scope')
          ((registerEach scope { stage } calls).1.dispatch scope line)
          ((registerEach scope' { stage } calls).1.dispatch scope' line) := by
  have hoffers := Scope.offers_congr h
  constructor
  · intro templates
    refine ⟨Template.compileAll_congr hoffers templates, ?_⟩
    intro pattern _ line
    exact Pattern.alike_matchLine scope scope' pattern line
  · intro stage calls
    rw [registerEach_congr hoffers]
    exact ⟨rfl, fun line => CommandSet.alike_dispatch _ scope scope' line⟩

/-- A species that only one of the scopes knows is named in both. -/
theorem dwarf_recognition_congr :
    let known : Scope := { species := [⟨⟨"Dwarf", "Dwa"⟩, {}⟩], party := some {} }
    let unknown : Scope := { party := some (.named "Wolves") }
    let calls : List (Registration Nat) := [.own "species" ["be [a] \x7bspecies\x7d"] 1]
    known.party.isSome = unknown.party.isSome ∧
      (known.resolve .species "dwarf").isSome = true ∧ unknown.resolve .species "dwarf" = none ∧
      Dispatch.Rel Eq (Bindings.Alike known unknown)
        ((registerEach known { stage := "test" } calls).1.dispatch known "Be DWARF")
        ((registerEach unknown { stage := "test" } calls).1.dispatch unknown "Be DWARF") := by
  intro known unknown calls
  have hparty : known.party.isSome = unknown.party.isSome := rfl
  have hknown : (known.resolve .species "dwarf").isSome = true := by decide +kernel
  exact ⟨hparty, hknown, rfl, ((recognition_congr hparty).2 "test" calls).2 "Be DWARF"⟩

end

end Muster
