import Muster.Proofs.Pattern.Alternatives
import Muster.Proofs.Pattern.SlotEnds

/-!
# Phrasings without slots come first

Of two templates that match a line, one in plain words is to be preferred to one whose slot takes
the line from its beginning. Whether a template *begins* with a slot is decided when it is compiled,
and those that do are tried last. Whether a slot is the first to take something is decided by each
line: groups in front of the slot may be left out. `opening` says what the first step of a match is
that takes something. Main statement: `unslotted_wins_iff`. If a template without slots matches a
line, and all others that match it do so with a slot first, then no slot is filled exactly if among
the matching templates that do not begin with a slot the first one listed has none.
-/

namespace Muster

open Muster.Text

namespace Pattern

/-! ## The first step of a match -/

mutual

/-- The first step of the match of a pattern that takes something other than white space off a
text. -/
def opening : Pattern → List Char → Option Step
  | .literal word, _ => if isBlank word then none else some (.word word)
  | .gap, _ => none
  | .sequence parts, text => openingOfEach parts text
  | .choice ways, text => openingOfAny ways text
  | .optional part, text =>
    match (recognize part text).1 with
    | some _ => opening part text
    | none => none
  | .slot kind stop, _ => some (.slot kind stop)
  | .lineEnd, _ => none

/-- The first such step of a match of patterns in a row. -/
def openingOfEach : List Pattern → List Char → Option Step
  | [], _ => none
  | part :: parts, text =>
    match opening part text, (recognize part text).1 with
    | some step, _ => some step
    | none, some rest => openingOfEach parts rest
    | none, none => none

/-- The first such step of a match of the first of some patterns that does match. -/
def openingOfAny : List Pattern → List Char → Option Step
  | [], _ => none
  | way :: ways, text =>
    match (recognize way text).1 with
    | some _ => opening way text
    | none => openingOfAny ways text

end

/-- What a match that begins with a given step fills: nothing if there is no such step, and the slot
first if the step is a slot. -/
def OpenedBy (fillings : List Filling) : Option Step → Prop
  | none => fillings = []
  | some (.slot kind _) => ∃ filling others, fillings = ⟨kind, filling⟩ :: others
  | some _ => True

theorem OpenedBy.append {fillings : List Filling} {step : Step} (h : OpenedBy fillings (some step))
    (others : List Filling) : OpenedBy (fillings ++ others) (some step) := by
  cases step with
  | slot kind stop =>
    obtain ⟨filling, later, rfl⟩ := h
    exact ⟨filling, later ++ others, rfl⟩
  | _ => trivial

mutual

/-- The first step of a match that takes something says what is filled first. -/
theorem openedBy_opening {pattern : Pattern} {text rest : List Char} {fillings : List Filling}
    (h : recognize pattern text = (some rest, fillings)) :
    OpenedBy fillings (opening pattern text) := by
  cases pattern with
  | literal word =>
    obtain ⟨_, rfl⟩ := Prod.mk.inj h
    rw [opening]
    split
    · rfl
    · trivial
  | gap =>
    cases h
    rfl
  | lineEnd =>
    obtain ⟨_, rfl⟩ := Prod.mk.inj h
    rfl
  | sequence parts => exact openedBy_openingOfEach h
  | choice ways => exact openedBy_openingOfAny h
  | optional part =>
    rw [opening]
    rw [recognize] at h
    cases hpart : recognize part text with
    | mk left taken =>
      rw [hpart] at h
      cases left with
      | none =>
        cases h
        rfl
      | some left =>
        cases h
        exact openedBy_opening hpart
  | slot kind stop =>
    rw [recognize] at h
    split at h
    · cases h
      exact ⟨_, [], rfl⟩
    · cases h

theorem openedBy_openingOfEach {parts : List Pattern} {text rest : List Char}
    {fillings : List Filling} (h : recognizeEach parts text = (some rest, fillings)) :
    OpenedBy fillings (openingOfEach parts text) := by
  cases parts with
  | nil =>
    cases h
    rfl
  | cons part parts =>
    rw [openingOfEach]
    rw [recognizeEach] at h
    cases hpart : recognize part text with
    | mk left taken =>
      rw [hpart] at h
      cases left with
      | none => cases h
      | some left =>
        obtain ⟨hrest, rfl⟩ := Prod.mk.inj h
        have hfirst := openedBy_opening hpart
        cases hstep : opening part text with
        | some step =>
          rw [hstep] at hfirst
          exact hfirst.append _
        | none =>
          -- the first part has filled nothing
          rw [hstep] at hfirst
          rw [show taken = [] from hfirst]
          exact openedBy_openingOfEach (Prod.ext hrest rfl)

theorem openedBy_openingOfAny {ways : List Pattern} {text rest : List Char}
    {fillings : List Filling} (h : recognizeFirst ways text = (some rest, fillings)) :
    OpenedBy fillings (openingOfAny ways text) := by
  cases ways with
  | nil => cases h
  | cons way ways =>
    rw [openingOfAny]
    rw [recognizeFirst] at h
    cases hway : recognize way text with
    | mk left taken =>
      rw [hway] at h
      cases left with
      | none => exact openedBy_openingOfAny h
      | some left =>
        cases h
        exact openedBy_opening hway

end

/-- A line that a slot is the first to take something of does not leave all slots unfilled. -/
theorem matchLine_ne_empty {scope : Scope} {pattern : Pattern} {line : String} {kind : SlotKind}
    {stop : Option (List Char)} (hopening : opening pattern line.toList = some (.slot kind stop)) :
    pattern.matchLine scope line ≠ some .empty := by
  intro hmatch
  rw [matchLine_eq] at hmatch
  obtain ⟨fillings, hline, hempty⟩ := Option.map_eq_some_iff.1 hmatch
  have hopened := openedBy_opening (recognize_of_recognizeLine hline)
  rw [hopening] at hopened
  obtain ⟨filling, others, rfl⟩ := hopened
  have hnone := congrArg (·.value? kind) hempty
  simp only [Bindings.value?_fill, Bindings.value?_empty] at hnone
  split at hnone
  · cases hnone
  · next hfind => exact List.find?_eq_none.1 hfind ⟨kind, filling⟩ (by simp) (by simp)

end Pattern

namespace Template

open Pattern

variable {scope live : Scope} {line : String}

/-! ## Templates without slots -/

/-- Whether a template can be read and has no slot. -/
def isSlotless (template : String) : Bool :=
  match parse template with
  | .ok pieces => (Piece.slotsOfAll pieces).isEmpty
  | .error _ => false

/-- Whether a template matches a line, given what slots can refer to by then. -/
def accepts (scope live : Scope) (line template : String) : Bool :=
  (matchAlone scope live line template).isSome

/-- Whether a slot of a template is the first to take something off a line other than white space. -/
def opensWithSlot (scope : Scope) (line template : String) : Bool :=
  match (compile scope template).toOption.bind (opening · line.toList) with
  | some (.slot _ _) => true
  | _ => false

/-- A template without slots fills none. -/
theorem matchAlone_of_isSlotless {template : String} (hslotless : isSlotless template = true)
    (haccepts : accepts scope live line template = true) :
    matchAlone scope live line template = some .empty := by
  obtain ⟨bindings, hmatch⟩ := Option.isSome_iff_exists.1 haccepts
  cases hcompile : compile scope template with
  | error defect =>
    rw [matchAlone, hcompile] at hmatch
    cases hmatch
  | ok pattern =>
    have hline : pattern.matchLine live line = some bindings := by
      rwa [matchAlone_of_ok hcompile] at hmatch
    obtain ⟨pieces, _, hparse, _⟩ := compile_eq_ok hcompile
    obtain ⟨segments, trail, hcut, _⟩ := exists_cut_of_match hparse hcompile hline
    have hslots : Piece.slotsOfAll pieces = [] := by
      rw [isSlotless, hparse] at hslotless
      exact List.isEmpty_iff.1 hslotless
    have hkinds : Piece.kinds (piecesOf segments) = [] := by
      have hsublist := Piece.kinds_sublist hcut.reading
      rw [hslots] at hsublist
      exact List.sublist_nil.1 hsublist
    rw [hmatch, hcut.filled_eq, bindSlots_of_kinds_eq_nil live hkinds]

/-- A template that a slot is the first to match with fills that slot. -/
theorem matchAlone_of_opensWithSlot {template : String} (h : opensWithSlot scope line template = true) :
    matchAlone scope live line template ≠ some .empty := by
  unfold opensWithSlot at h
  split at h
  · next kind stop hopening =>
    obtain ⟨pattern, hpattern, hslot⟩ := Option.bind_eq_some_iff.1 hopening
    rw [matchAlone, hpattern]
    exact matchLine_ne_empty hslot
  · cases h

/-- A template without slots does not begin with one. -/
theorem beginsWithSlot_of_isSlotless {template : String} (h : isSlotless template = true) :
    beginsWithSlot template = false := by
  rw [isSlotless] at h
  rw [beginsWithSlot]
  cases hparse : parse template with
  | ok pieces =>
    rw [hparse] at h
    show Piece.startsWithSlot pieces = false
    unfold Piece.startsWithSlot
    split
    · next kind offset hfind =>
      have hmem := Piece.mem_slotsOfAll (List.mem_of_find?_eq_some hfind)
      rw [List.isEmpty_iff.1 h] at hmem
      cases hmem
    · rfl
  | error defect => rfl

/-! ## Which template is first -/

/-- Among some templates the first one that matches a line and does not begin with a slot has no slot
at all. -/
def UnslottedFirst (scope live : Scope) (line : String) (templates : List String) : Prop :=
  ∃ before template after, templates = before ++ template :: after ∧
    accepts scope live line template = true ∧ isSlotless template = true ∧
    ∀ earlier ∈ before, accepts scope live line earlier = true → beginsWithSlot earlier = true

/-- The templates that are tried first are those that do not begin with a slot. If one of them matches
without filling a slot, that is what the command answers. -/
theorem findSome?_inTrialOrder_of_unslottedFirst {templates : List String}
    (h : UnslottedFirst scope live line templates) :
    (inTrialOrder templates).findSome? (matchAlone scope live line) = some .empty := by
  obtain ⟨before, template, after, rfl, haccepts, hslotless, hbefore⟩ := h
  have hfirst : template :: after.filter (!beginsWithSlot ·) =
      (template :: after).filter (!beginsWithSlot ·) := by
    rw [List.filter_cons_of_pos (by rw [beginsWithSlot_of_isSlotless hslotless]; rfl)]
  have hnone : (before.filter (!beginsWithSlot ·)).findSome? (matchAlone scope live line) = none := by
    refine List.findSome?_eq_none_iff.2 fun earlier hearlier => ?_
    obtain ⟨hmem, hbegins⟩ := List.mem_filter.1 hearlier
    by_contra hmatch
    rw [hbefore earlier hmem (Option.isSome_iff_ne_none.2 hmatch)] at hbegins
    cases hbegins
  rw [inTrialOrder, List.filter_append, ← hfirst, List.append_assoc, List.findSome?_append, hnone,
    Option.none_or, List.cons_append, List.findSome?_cons,
    matchAlone_of_isSlotless hslotless haccepts]

/-- If no slot is filled, then the first matching template that does not begin with a slot has none: a
slot that opens the match of a template is filled by it. -/
theorem unslottedFirst_of_findSome? {templates : List String}
    (hsome : ∃ template ∈ templates, accepts scope live line template = true ∧
      isSlotless template = true)
    (hothers : ∀ template ∈ templates, accepts scope live line template = true →
      isSlotless template = true ∨ opensWithSlot scope line template = true)
    (h : (inTrialOrder templates).findSome? (matchAlone scope live line) = some .empty) :
    UnslottedFirst scope live line templates := by
  obtain ⟨plain, hplain, haccepts, hslotless⟩ := hsome
  have hfound : ((templates.filter (!beginsWithSlot ·)).findSome?
      (matchAlone scope live line)).isSome = true := by
    rw [List.isSome_findSome?, List.any_eq_true]
    refine ⟨plain, List.mem_filter.2 ⟨hplain, ?_⟩, haccepts⟩
    rw [beginsWithSlot_of_isSlotless hslotless]
    rfl
  obtain ⟨bindings, hbindings⟩ := Option.isSome_iff_exists.1 hfound
  rw [inTrialOrder, List.findSome?_append, hbindings, Option.some_or, Option.some.injEq] at h
  rw [h] at hbindings
  obtain ⟨passed, template, later, hfilter, hmatch, hpassed⟩ := List.findSome?_eq_some_iff.1 hbindings
  obtain ⟨before, more, rfl, hbefore, hmore⟩ := List.filter_eq_append_iff.1 hfilter
  obtain ⟨between, after, rfl, hbetween, _, _⟩ := List.filter_eq_cons_iff.1 hmore
  have haccepted : accepts scope live line template = true := by
    rw [accepts, hmatch]
    rfl
  have htemplate : template ∈ before ++ (between ++ template :: after) := by simp
  refine ⟨before ++ between, template, after, by rw [List.append_assoc], haccepted, ?_, ?_⟩
  · exact (hothers template htemplate haccepted).resolve_right fun hopens =>
      matchAlone_of_opensWithSlot hopens hmatch
  · -- what is listed earlier and does not begin with a slot was tried, and did not match
    intro earlier hearlier hmatches
    by_contra hbegins
    rcases List.mem_append.1 hearlier with hmem | hmem
    · have hnone := hpassed earlier (hbefore ▸ List.mem_filter.2 ⟨hmem, by simp [hbegins]⟩)
      rw [accepts, hnone] at hmatches
      cases hmatches
    · exact hbetween earlier hmem (by simp [hbegins])

/-- If all templates that match a line begin with a slot or have none, the first one that does not
begin with a slot has none. -/
theorem unslottedFirst_of_forall {templates : List String}
    (hsome : ∃ template ∈ templates, accepts scope live line template = true ∧
      isSlotless template = true)
    (hall : ∀ template ∈ templates, accepts scope live line template = true →
      isSlotless template = true ∨ beginsWithSlot template = true) :
    UnslottedFirst scope live line templates := by
  obtain ⟨plain, hplain, haccepts, hslotless⟩ := hsome
  have hfound : (templates.find? fun template =>
      accepts scope live line template && !beginsWithSlot template).isSome = true := by
    refine List.find?_isSome.2 ⟨plain, hplain, ?_⟩
    rw [haccepts, beginsWithSlot_of_isSlotless hslotless]
    rfl
  obtain ⟨template, hfind⟩ := Option.isSome_iff_exists.1 hfound
  obtain ⟨htried, before, after, rfl, hbefore⟩ := List.find?_eq_some_iff_append.1 hfind
  rw [Bool.and_eq_true, Bool.not_eq_true'] at htried
  refine ⟨before, template, after, rfl, htried.1, ?_, fun earlier hearlier hmatches => ?_⟩
  · refine (hall template (by simp) htried.1).resolve_right fun hbegins => ?_
    rw [htried.2] at hbegins
    cases hbegins
  · have hpassed := hbefore earlier hearlier
    rw [hmatches] at hpassed
    simpa using hpassed

/-- If a template without slots matches a line, and every other template that matches it does so with
a slot that takes the beginning of the line, then a command answers without filling a slot exactly if
the first matching template of the list that does not begin with a slot has no slot. Where all of
them begin with a slot or have none, in whatever order they are listed, the line fills no slot. -/
theorem unslotted_wins_iff {templates : List String} {pattern : Pattern}
    (hcompile : compileAll scope templates = .ok pattern)
    (hsome : ∃ template ∈ templates, accepts scope live line template = true ∧
      isSlotless template = true)
    (hothers : ∀ template ∈ templates, accepts scope live line template = true →
      isSlotless template = true ∨ opensWithSlot scope line template = true) :
    (pattern.matchLine live line = some .empty ↔ UnslottedFirst scope live line templates) ∧
    ((∀ template ∈ templates, accepts scope live line template = true →
        isSlotless template = true ∨ beginsWithSlot template = true) →
      ∀ others : List String, others.Perm templates → ∃ other,
        compileAll scope others = .ok other ∧ other.matchLine live line = some .empty) := by
  constructor
  · rw [matchLine_compileAll hcompile]
    exact ⟨unslottedFirst_of_findSome? hsome hothers, findSome?_inTrialOrder_of_unslottedFirst⟩
  · intro hall others hperm
    have hcompiled := exists_compileAll_iff.1 ⟨pattern, hcompile⟩
    obtain ⟨other, hother⟩ := exists_compileAll_iff.2 fun template htemplate =>
      hcompiled template (hperm.mem_iff.1 htemplate)
    refine ⟨other, hother, ?_⟩
    rw [matchLine_compileAll hother]
    apply findSome?_inTrialOrder_of_unslottedFirst
    obtain ⟨template, htemplate, hplain⟩ := hsome
    exact unslottedFirst_of_forall ⟨template, hperm.mem_iff.2 htemplate, hplain⟩
      fun template htemplate => hall template (hperm.mem_iff.1 htemplate)

/-- Three templates match the line. The one that begins with a slot is tried last, and the one that
begins with a group is listed later than the plain one. -/
theorem topics_unslotted_wins :
    let templates := ["\x7btopic\x7d", "topics [now]", "[be] \x7bspecies\x7d"]
    (∃ template ∈ templates, accepts {} {} "Topics" template = true ∧ isSlotless template = true) ∧
      (∀ template ∈ templates, accepts {} {} "Topics" template = true →
        isSlotless template = true ∨ opensWithSlot {} "Topics" template = true) ∧
      ∃ pattern, compileAll {} templates = .ok pattern ∧
        pattern.matchLine {} "Topics" = some .empty := by
  intro templates
  have hsome : ∃ template ∈ templates,
      accepts {} {} "Topics" template = true ∧ isSlotless template = true := by
    decide +kernel
  have hothers : ∀ template ∈ templates, accepts {} {} "Topics" template = true →
      isSlotless template = true ∨ opensWithSlot {} "Topics" template = true := by
    decide +kernel
  have hcompile : (compileAll {} templates).toOption.isSome = true := by decide +kernel
  have hbefore : ∀ earlier ∈ ["\x7btopic\x7d"], accepts {} {} "Topics" earlier = true →
      beginsWithSlot earlier = true := by
    decide +kernel
  obtain ⟨pattern, hpattern, _⟩ := exists_ok_of_any (p := fun _ => true) (by simpa using hcompile)
  refine ⟨hsome, hothers, pattern, hpattern, ?_⟩
  refine (unslotted_wins_iff hpattern hsome hothers).1.2
    ⟨["\x7btopic\x7d"], "topics [now]", ["[be] \x7bspecies\x7d"], rfl, ?_, ?_, hbefore⟩
  · decide +kernel
  · decide +kernel

/-- The template listed first begins with a group that may be left out. If it is, the slot takes the
line, and the plain template is never tried. -/
theorem topics_starved :
    let templates := ["[be] \x7btopic\x7d", "topics"]
    ∃ pattern, compileAll {} templates = .ok pattern ∧
      accepts {} {} "topics" "topics" = true ∧ isSlotless "topics" = true ∧
      (∀ template ∈ templates, template ≠ "topics" → accepts {} {} "topics" template = true →
        opensWithSlot {} "topics" template = true) ∧
      (pattern.matchLine {} "topics").map (·.text? .topic) = some (some "topics") ∧
      pattern.matchLine {} "topics" ≠ some .empty := by
  intro templates
  have hcheck : (compileAll {} templates).toOption.any (fun pattern =>
      (pattern.matchLine {} "topics").map (·.text? .topic) == some (some "topics")) = true := by
    decide +kernel
  obtain ⟨pattern, hpattern, hmatch⟩ := exists_ok_of_any hcheck
  rw [beq_iff_eq] at hmatch
  refine ⟨pattern, hpattern, by decide +kernel, by decide +kernel, by decide +kernel, hmatch, ?_⟩
  intro hempty
  rw [hempty] at hmatch
  cases hmatch

end Template

end Muster
