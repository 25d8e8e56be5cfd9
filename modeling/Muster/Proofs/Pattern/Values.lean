import Muster.Proofs.Pattern.Fillings
import Muster.Proofs.Roster.Answering

/-!
# The values that slots hold

A slot holds a value that belongs to its kind: a slot for free text always holds the text in it, and
the other ones hold the first of the things that they can name which answers to it, or nothing. The
text is the filling in normal form, and it is never empty, since a filling is not blank. Whoever reads
a slot by the accessor of its kind then misses nothing. Main statement: `values_fit_kinds`.
-/

namespace Muster

open Muster.Text

/-! ## What a text names -/

/-- The first of some items that is named, or nothing if none of them is. -/
inductive FirstNamed {α : Type} (named : α → Bool) (items : List α) : Option α → Prop where
  | found {before after : List α} {item : α} :
    items = before ++ item :: after → named item = true → (∀ other ∈ before, named other = false) →
      FirstNamed named items (some item)
  | missing : (∀ item ∈ items, named item = false) → FirstNamed named items none

/-- To look for the first item that is named is to find it, if there is one. -/
theorem firstNamed_find? {α : Type} (named : α → Bool) (items : List α) :
    FirstNamed named items (items.find? named) := by
  cases hfind : items.find? named with
  | none =>
    refine .missing fun item hitem => ?_
    simpa using List.find?_eq_none.1 hfind item hitem
  | some item =>
    obtain ⟨hnamed, before, after, hitems, hbefore⟩ := List.find?_eq_some_iff_append.1 hfind
    exact .found hitems hnamed fun other hother => by simpa using hbefore other hother

/-- A slot for free text. -/
def SlotKind.IsText (kind : SlotKind) : Prop := kind = .name ∨ kind = .topic

namespace Scope

/-- The members of the party, if there is a party. -/
def members (scope : Scope) : List Character := (scope.party.map (·.members)).getD []

/-- What a slot of each kind holds, if the text in it is `wanted`. -/
def Holds (scope : Scope) (wanted : String) (value : Option Referent) : SlotKind → Prop
  | .name => value = some (.text wanted)
  | .topic => value = some (.text wanted)
  | .species => ∃ found, FirstNamed (·.answersTo wanted) scope.species found ∧
      value = found.map .species
  | .background => ∃ found, FirstNamed (·.answersTo wanted) scope.backgrounds found ∧
      value = found.map .background
  | .member => ∃ found, FirstNamed (·.answersTo wanted) scope.members found ∧
      value = found.map fun member => .member member.id

/-- A text is resolved as the kind of the slot demands. -/
theorem holds_resolve (scope : Scope) (wanted : String) (kind : SlotKind) :
    scope.Holds wanted (scope.resolve kind wanted) kind := by
  cases kind with
  | name => rfl
  | topic => rfl
  | species => exact ⟨_, firstNamed_find? _ _, rfl⟩
  | background => exact ⟨_, firstNamed_find? _ _, rfl⟩
  | member =>
    refine ⟨_, firstNamed_find? _ _, ?_⟩
    show (scope.party.bind (·.find? wanted)).map _ = _
    unfold members
    cases scope.party <;> rfl

/-- What a slot holds is a text, a species, a background or a member, according to its kind. -/
theorem Holds.shape {scope : Scope} {wanted : String} {referent : Referent} {kind : SlotKind}
    (h : scope.Holds wanted (some referent) kind) :
    kind.IsText ∧ referent = .text wanted ∨ kind = .species ∧ (∃ species, referent = .species species) ∨
      kind = .background ∧ (∃ background, referent = .background background) ∨
      kind = .member ∧ ∃ id, referent = .member id := by
  cases kind with
  | name => exact Or.inl ⟨Or.inl rfl, Option.some.inj h⟩
  | topic => exact Or.inl ⟨Or.inr rfl, Option.some.inj h⟩
  | species =>
    obtain ⟨found, _, hfound⟩ := h
    obtain ⟨species, _, rfl⟩ := Option.map_eq_some_iff.1 hfound.symm
    exact Or.inr (Or.inl ⟨rfl, species, rfl⟩)
  | background =>
    obtain ⟨found, _, hfound⟩ := h
    obtain ⟨background, _, rfl⟩ := Option.map_eq_some_iff.1 hfound.symm
    exact Or.inr (Or.inr (Or.inl ⟨rfl, background, rfl⟩))
  | member =>
    obtain ⟨found, _, hfound⟩ := h
    obtain ⟨member, _, rfl⟩ := Option.map_eq_some_iff.1 hfound.symm
    exact Or.inr (Or.inr (Or.inr ⟨rfl, member.id, rfl⟩))

end Scope

/-! ## Reading slots -/

namespace Bindings

/-- Every slot that is filled holds what belongs to its kind. -/
def FitKinds (scope : Scope) (bindings : Bindings) : Prop :=
  ∀ kind value, bindings.value? kind = some value → ∃ wanted, wanted ≠ "" ∧
    normalize wanted = wanted ∧ scope.Holds wanted value kind

variable {scope : Scope} {bindings : Bindings}

/-- A slot refers to nothing, or to something that belongs to its kind. -/
theorem FitKinds.get?_cases (h : bindings.FitKinds scope) (kind : SlotKind) :
    bindings.get? kind = none ∨ ∃ wanted referent, wanted ≠ "" ∧ normalize wanted = wanted ∧
      scope.Holds wanted (some referent) kind ∧ bindings.get? kind = some referent := by
  unfold get?
  cases hvalue : bindings.value? kind with
  | none => exact Or.inl rfl
  | some value =>
    obtain ⟨wanted, hne, hnormal, hholds⟩ := h kind value hvalue
    cases value with
    | none => exact Or.inl rfl
    | some referent => exact Or.inr ⟨wanted, referent, hne, hnormal, hholds, rfl⟩

/-- An accessor that finds the values that belong to a kind misses nothing that a slot of the kind
refers to. -/
theorem FitKinds.get?_eq_map (h : bindings.FitKinds scope) {α : Type} {kind : SlotKind}
    (make : α → Referent) {found : Option α} (hnone : bindings.get? kind = none → found = none)
    (hfound : ∀ value, bindings.get? kind = some (make value) → found = some value)
    (hmake : ∀ wanted referent, scope.Holds wanted (some referent) kind →
      ∃ value, referent = make value) :
    bindings.get? kind = found.map make := by
  rcases h.get?_cases kind with hget | ⟨wanted, referent, _, _, hholds, hget⟩
  · rw [hnone hget, hget]
    rfl
  · obtain ⟨value, rfl⟩ := hmake wanted referent hholds
    rw [hfound value hget, hget]
    rfl

/-- What a slot for free text refers to is its text. -/
theorem FitKinds.get?_text (h : bindings.FitKinds scope) {kind : SlotKind} (hkind : kind.IsText) :
    bindings.get? kind = (bindings.text? kind).map .text := by
  refine h.get?_eq_map .text (fun hget => by rw [text?, hget]) (fun _ hget => by rw [text?, hget]) ?_
  intro wanted referent hholds
  rcases hkind with rfl | rfl
  · exact ⟨wanted, Option.some.inj hholds⟩
  · exact ⟨wanted, Option.some.inj hholds⟩

/-- What a slot for a species refers to is a species. -/
theorem FitKinds.get?_species (h : bindings.FitKinds scope) :
    bindings.get? .species = bindings.species?.map .species := by
  refine h.get?_eq_map .species (fun hget => by rw [species?, hget])
    (fun _ hget => by rw [species?, hget]) ?_
  intro wanted referent hholds
  simpa [SlotKind.IsText] using hholds.shape

/-- What a slot for a background refers to is a background. -/
theorem FitKinds.get?_background (h : bindings.FitKinds scope) :
    bindings.get? .background = bindings.background?.map .background := by
  refine h.get?_eq_map .background (fun hget => by rw [background?, hget])
    (fun _ hget => by rw [background?, hget]) ?_
  intro wanted referent hholds
  simpa [SlotKind.IsText] using hholds.shape

/-- What a slot for a member refers to is the number of a member. -/
theorem FitKinds.get?_member (h : bindings.FitKinds scope) :
    bindings.get? .member = bindings.member?.map .member := by
  refine h.get?_eq_map .member (fun hget => by rw [member?, hget])
    (fun _ hget => by rw [member?, hget]) ?_
  intro wanted referent hholds
  simpa [SlotKind.IsText] using hholds.shape

/-- Free text is found in slots for free text only. It is not empty, and in normal form. -/
theorem FitKinds.of_text? (h : bindings.FitKinds scope) {kind : SlotKind} {text : String}
    (htext : bindings.text? kind = some text) :
    kind.IsText ∧ text ≠ "" ∧ normalize text = text := by
  unfold text? at htext
  rcases h.get?_cases kind with hnone | ⟨wanted, referent, hne, hnormal, hholds, hget⟩
  · rw [hnone] at htext
    cases htext
  · rw [hget] at htext
    rcases hholds.shape with ⟨hkind, rfl⟩ | ⟨_, _, rfl⟩ | ⟨_, _, rfl⟩ | ⟨_, _, rfl⟩
    · cases htext
      exact ⟨hkind, hne, hnormal⟩
    · cases htext
    · cases htext
    · cases htext

/-- A slot for free text that is filled has a text. -/
theorem FitKinds.contains_iff (h : bindings.FitKinds scope) {kind : SlotKind} (hkind : kind.IsText) :
    bindings.contains kind = true ↔ ∃ text, bindings.text? kind = some text := by
  have hresolved : bindings.contains kind = (bindings.get? kind).isSome := by
    unfold contains get?
    cases hvalue : bindings.value? kind with
    | none => rfl
    | some value =>
      obtain ⟨wanted, _, _, hholds⟩ := h kind value hvalue
      rcases hkind with rfl | rfl
      · cases hholds
        rfl
      · cases hholds
        rfl
  rw [hresolved, h.get?_text hkind, Option.isSome_map, Option.isSome_iff_exists]

end Bindings

/-! ## Lines that match -/

namespace Filling

/-- The text of a filling that is not blank is not empty. -/
theorem wanted_ne_empty {filling : Filling} (h : isBlank filling.text = false) :
    filling.wanted ≠ "" := by
  intro hempty
  have hnil : normal filling.text = [] := String.ofList_eq_empty_iff.1 hempty
  rw [← isBlank_normal, hnil] at h
  cases h

theorem normalize_wanted (filling : Filling) : normalize filling.wanted = filling.wanted := by
  rw [wanted, normalize, String.toList_ofList, normal_normal]

end Filling

namespace Pattern

variable {scope : Scope} {pattern : Pattern} {line : String} {bindings : Bindings}

/-- What a slot holds is what belongs to its kind, given the part of the line that it has taken. -/
theorem exists_captures_holds (hmatch : pattern.matchLine scope line = some bindings)
    {kind : SlotKind} {value : Option Referent} (hvalue : bindings.value? kind = some value) :
    ∃ filling, pattern.Captures line kind filling ∧ filling.wanted ≠ "" ∧
      normalize filling.wanted = filling.wanted ∧ scope.Holds filling.wanted value kind := by
  obtain ⟨filling, hcaptures, rfl⟩ := exists_captures hmatch hvalue
  exact ⟨filling, hcaptures, Filling.wanted_ne_empty hcaptures.nonblank, filling.normalize_wanted,
    scope.holds_resolve filling.wanted kind⟩

theorem fitKinds_matchLine (hmatch : pattern.matchLine scope line = some bindings) :
    bindings.FitKinds scope := by
  intro kind value hvalue
  obtain ⟨filling, _, hfits⟩ := exists_captures_holds hmatch hvalue
  exact ⟨filling.wanted, hfits⟩

/-- The slots that a line fills hold values of their kinds. A slot has taken a part of the line. If the
slot is for free text, it holds that text in normal form, which is not empty; if it is for a species, a
background or a member, it holds the first one in the scope that answers to the text, or nothing if
there is none. So the accessors give a value exactly where a slot is filled and resolved, and free
text is neither empty nor found in slots of another kind. -/
theorem values_fit_kinds (hmatch : pattern.matchLine scope line = some bindings) :
    (∀ kind value, bindings.value? kind = some value → ∃ filling,
      pattern.Captures line kind filling ∧ filling.wanted ≠ "" ∧
        normalize filling.wanted = filling.wanted ∧ scope.Holds filling.wanted value kind) ∧
    (∀ kind : SlotKind, kind.IsText →
      bindings.get? kind = (bindings.text? kind).map .text ∧
        (bindings.contains kind = true ↔ ∃ text, bindings.text? kind = some text)) ∧
    (∀ kind text, bindings.text? kind = some text →
      kind.IsText ∧ text ≠ "" ∧ normalize text = text) ∧
    bindings.get? .species = bindings.species?.map .species ∧
    bindings.get? .background = bindings.background?.map .background ∧
    bindings.get? .member = bindings.member?.map .member := by
  have hfit := fitKinds_matchLine hmatch
  exact ⟨fun kind value => exists_captures_holds hmatch,
    fun kind hkind => ⟨hfit.get?_text hkind, hfit.contains_iff hkind⟩,
    fun kind text => hfit.of_text?, hfit.get?_species, hfit.get?_background, hfit.get?_member⟩

/-- A member who is there and a new name, typed in whatever case and with blanks as they come. -/
theorem rename_values_fit :
    let ann : Character := .create 3 "Ann Lee" ⟨⟨"Wood Elf", "Elf"⟩, {}⟩ ⟨⟨"Thief", "Thf"⟩, {}⟩
    let scope : Scope := { party := some { members := [ann], nextId := 4 } }
    ∃ pattern bindings,
      Template.compileAll scope ["rename \x7bpc\x7d to \x7bname\x7d"] = .ok pattern ∧
      pattern.matchLine scope "Rename ANN  to  Old  TOM" = some bindings ∧
      (∃ filling, pattern.Captures "Rename ANN  to  Old  TOM" .member filling ∧
        scope.Holds filling.wanted (some (.member 3)) .member) ∧
      bindings.member? = some 3 ∧ bindings.get? .member = bindings.member?.map .member ∧
      bindings.text? .name = some "old tom" ∧ "old tom" ≠ "" ∧ normalize "old tom" = "old tom" := by
  intro ann scope
  have hcheck : (Template.compileAll scope ["rename \x7bpc\x7d to \x7bname\x7d"]).toOption.any
      (fun pattern => (pattern.matchLine scope "Rename ANN  to  Old  TOM").any fun bindings =>
        bindings.value? .member == some (some (.member 3)) && bindings.member? == some 3 &&
          bindings.text? .name == some "old tom") = true := by
    decide +kernel
  obtain ⟨pattern, hpattern, hline⟩ := exists_ok_of_any hcheck
  obtain ⟨bindings, hmatch, hvalues⟩ := (Option.any_eq_true _ _).1 hline
  simp only [Bool.and_eq_true, beq_iff_eq] at hvalues
  obtain ⟨⟨hvalue, hmember⟩, htext⟩ := hvalues
  obtain ⟨hholds, _, hnames, _, _, hmembers⟩ := values_fit_kinds hmatch
  obtain ⟨filling, hcaptures, _, _, hfilling⟩ := hholds .member _ hvalue
  exact ⟨pattern, bindings, hpattern, hmatch, ⟨filling, hcaptures, hfilling⟩, hmember, hmembers, htext,
    (hnames .name _ htext).2⟩

end Pattern

end Muster
