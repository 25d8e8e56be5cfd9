import Muster.Pattern.Basic

/-!
# Recognition without a scope

Which part of a line each slot takes is settled before anything is looked up. `recognize` is matching
up to that point, and `Bindings.fill` looks the fillings up afterwards. Main statements: matching in
a scope is the one followed by the other (`matchText_eq`, `matchLine_eq`), and a slot is bound to
what the last filling of its kind refers to (`Bindings.value?_fill`).
-/

namespace Muster

open Muster.Text

/-- What a slot has taken off a text. -/
structure Filling where
  kind : SlotKind
  text : List Char

/-- The text of a filling as it is looked up. -/
def Filling.wanted (filling : Filling) : String := String.ofList (normal filling.text)

namespace Bindings

/-- Records what some fillings refer to, one after the other. -/
def fill (scope : Scope) (bindings : Bindings) : List Filling → Bindings
  | [] => bindings
  | filling :: fillings =>
    fill scope (bindings.insert filling.kind (scope.resolve filling.kind filling.wanted)) fillings

@[simp] theorem fill_append (scope : Scope) (bindings : Bindings) (fillings more : List Filling) :
    bindings.fill scope (fillings ++ more) = (bindings.fill scope fillings).fill scope more := by
  induction fillings generalizing bindings with
  | nil => rfl
  | cons filling fillings ih => exact ih _

/-- The last filling of a kind is the one that counts. -/
theorem value?_fill (scope : Scope) (bindings : Bindings) (fillings : List Filling)
    (kind : SlotKind) :
    (bindings.fill scope fillings).value? kind =
      match fillings.reverse.find? (·.kind = kind) with
      | some filling => some (scope.resolve kind filling.wanted)
      | none => bindings.value? kind := by
  induction fillings generalizing bindings with
  | nil => rfl
  | cons filling fillings ih =>
    show ((bindings.insert _ _).fill scope fillings).value? kind = _
    rw [ih, List.reverse_cons, List.find?_append, value?_insert]
    cases fillings.reverse.find? (·.kind = kind) with
    | some later => rfl
    | none =>
      -- no later filling is of this kind, so the first one counts
      by_cases hkind : filling.kind = kind
      · simp [hkind]
      · simp [hkind, Ne.symm hkind]

end Bindings

namespace Pattern

/-! ## Recognizing a text -/

mutual

/-- What a pattern leaves of a text, if it matches, and what its slots have taken. -/
def recognize : Pattern → List Char → Option (List Char) × List Filling
  | .literal word, text => (takeWord word text, [])
  | .gap, text => (some (trimStart text), [])
  | .sequence parts, text => recognizeEach parts text
  | .choice ways, text => recognizeFirst ways text
  | .optional part, text =>
    match recognize part text with
    | (some rest, fillings) => (some rest, fillings)
    | (none, _) => (some text, [])
  | .slot kind stop, text =>
    match takeSlot stop text with
    | some (filling, rest) => (some rest, [⟨kind, filling⟩])
    | none => (none, [])
  | .lineEnd, text => (if text.isEmpty then some text else none, [])

/-- What patterns in a row leave of a text. -/
def recognizeEach : List Pattern → List Char → Option (List Char) × List Filling
  | [], text => (some text, [])
  | part :: parts, text =>
    match recognize part text with
    | (some rest, fillings) => (recognizeEach parts rest).map id (fillings ++ ·)
    | (none, fillings) => (none, fillings)

/-- What the first of some patterns that matches leaves of a text. -/
def recognizeFirst : List Pattern → List Char → Option (List Char) × List Filling
  | [], _ => (none, [])
  | way :: ways, text =>
    match recognize way text with
    | (some rest, fillings) => (some rest, fillings)
    | (none, _) => recognizeFirst ways text

end

/-- What the slots of a pattern take off a whole line, if the pattern matches it. -/
def recognizeLine (pattern : Pattern) (line : String) : Option (List Filling) :=
  match recognize pattern line.toList with
  | (some [], fillings) => some fillings
  | _ => none

theorem recognize_of_recognizeLine {pattern : Pattern} {line : String} {fillings : List Filling}
    (h : recognizeLine pattern line = some fillings) :
    recognize pattern line.toList = (some [], fillings) := by
  unfold recognizeLine at h
  split at h
  · next hrecognize =>
    cases h
    exact hrecognize
  · cases h

/-! ## What is left -/

theorem fst_recognizeEach_cons (part : Pattern) (parts : List Pattern) (text : List Char) :
    (recognizeEach (part :: parts) text).1 =
      (recognize part text).1.bind fun rest => (recognizeEach parts rest).1 := by
  rw [recognizeEach]
  rcases recognize part text with ⟨_ | rest, fillings⟩ <;> rfl

theorem fst_recognize_optional (parts : List Pattern) (text : List Char) :
    (recognize (.optional (.sequence parts)) text).1 =
      some ((recognizeEach parts text).1.getD text) := by
  rw [recognize, recognize]
  rcases recognizeEach parts text with ⟨_ | rest, fillings⟩ <;> rfl

theorem fst_recognize_slot (kind : SlotKind) (stop : Option (List Char)) (text : List Char) :
    (recognize (.slot kind stop) text).1 = (takeSlot stop text).map (·.2) := by
  rw [recognize]
  rcases takeSlot stop text with _ | ⟨filling, rest⟩ <;> rfl

/-! ## Matching -/

variable {scope : Scope}

mutual

/-- A pattern is matched by recognizing it and looking up what its slots have taken. -/
theorem matchText_eq (pattern : Pattern) (text : List Char) (bindings : Bindings) :
    matchText scope pattern text bindings =
      ((recognize pattern text).1, bindings.fill scope (recognize pattern text).2) := by
  cases pattern with
  | literal word => rfl
  | gap => rfl
  | lineEnd => rfl
  | sequence parts => exact matchEach_eq parts text bindings
  | choice ways => exact matchFirst_eq ways text bindings
  | optional part =>
    have hpart := matchText_eq part text bindings
    rw [matchText, recognize, hpart]
    rcases recognize part text with ⟨_ | rest, fillings⟩ <;> rfl
  | slot kind stop =>
    rw [matchText, recognize]
    cases takeSlot stop text <;> rfl

theorem matchEach_eq (parts : List Pattern) (text : List Char) (bindings : Bindings) :
    matchEach scope parts text bindings =
      ((recognizeEach parts text).1, bindings.fill scope (recognizeEach parts text).2) := by
  cases parts with
  | nil => rfl
  | cons part parts =>
    have hpart := matchText_eq part text bindings
    rw [matchEach, recognizeEach, hpart]
    rcases recognize part text with ⟨_ | rest, fillings⟩
    · rfl
    · -- what the other parts fill comes after what the first one has filled
      simp [matchEach_eq parts rest (bindings.fill scope fillings)]

theorem matchFirst_eq (ways : List Pattern) (text : List Char) (bindings : Bindings) :
    matchFirst scope ways text bindings =
      ((recognizeFirst ways text).1, bindings.fill scope (recognizeFirst ways text).2) := by
  cases ways with
  | nil => rfl
  | cons way ways =>
    have hway := matchText_eq way text bindings
    rw [matchFirst, recognizeFirst, hway]
    rcases recognize way text with ⟨_ | rest, fillings⟩
    · exact matchFirst_eq ways text bindings
    · rfl

end

/-- A line is matched by recognizing it and looking up what the slots have taken. -/
theorem matchLine_eq (scope : Scope) (pattern : Pattern) (line : String) :
    matchLine scope pattern line = (recognizeLine pattern line).map (Bindings.empty.fill scope) := by
  rw [matchLine, recognizeLine, matchText_eq]
  rcases recognize pattern line.toList with ⟨_ | _ | ⟨c, cs⟩, fillings⟩ <;> rfl

end Pattern

end Muster
