import Muster.Command.Registry
import Muster.Proofs.Pattern.Routes

/-!
# What fills the slots of a command

Whatever the pattern, a slot is only ever filled with what the scope makes of a part of the line
that is not blank. So a species that a slot names is one that the scope offers, and likewise a
background. Main statements: `exists_captures` for a single pattern, `dispatch_eq_matched` for the
commands of a stage.
-/

namespace Muster

open Muster.Text

namespace Bindings

/-- Every slot that is filled holds what the scope makes of some text that is not blank. -/
def FilledFrom (scope : Scope) (bindings : Bindings) : Prop :=
  ∀ kind value, bindings.value? kind = some value → ∃ filling, isBlank filling = false ∧
    value = scope.resolve kind (String.ofList (normal filling))

variable {scope : Scope} {bindings : Bindings}

/-- What a slot refers to was found in the scope. -/
theorem FilledFrom.exists_resolve (h : bindings.FilledFrom scope) {kind : SlotKind}
    {referent : Referent} (hget : bindings.get? kind = some referent) :
    ∃ wanted, scope.resolve kind wanted = some referent := by
  unfold get? at hget
  cases hvalue : bindings.value? kind with
  | none =>
    rw [hvalue] at hget
    cases hget
  | some value =>
    obtain ⟨filling, _, hresolve⟩ := h kind value hvalue
    rw [hvalue] at hget
    refine ⟨String.ofList (normal filling), ?_⟩
    rw [← hresolve]
    exact hget

/-- A species that a slot names is one of the scope. -/
theorem FilledFrom.species_mem (h : bindings.FilledFrom scope) {species : Species}
    (hspecies : bindings.species? = some species) : species ∈ scope.species := by
  have hget : bindings.get? .species = some (.species species) := by
    unfold species? at hspecies
    split at hspecies
    · next found hfound =>
      rw [Option.some.injEq] at hspecies
      rw [hfound, hspecies]
    · cases hspecies
  obtain ⟨wanted, hresolve⟩ := h.exists_resolve hget
  obtain ⟨found, hfind, heq⟩ := Option.map_eq_some_iff.1 hresolve
  cases heq
  exact List.mem_of_find?_eq_some hfind

/-- A background that a slot names is one of the scope. -/
theorem FilledFrom.background_mem (h : bindings.FilledFrom scope) {background : Background}
    (hbackground : bindings.background? = some background) :
    background ∈ scope.backgrounds := by
  have hget : bindings.get? .background = some (.background background) := by
    unfold background? at hbackground
    split at hbackground
    · next found hfound =>
      rw [Option.some.injEq] at hbackground
      rw [hfound, hbackground]
    · cases hbackground
  obtain ⟨wanted, hresolve⟩ := h.exists_resolve hget
  obtain ⟨found, hfind, heq⟩ := Option.map_eq_some_iff.1 hresolve
  cases heq
  exact List.mem_of_find?_eq_some hfind

end Bindings

namespace Pattern

open Bindings

/-- The line fills a slot of the given kind, and no later one, with a part of it that is not
blank. -/
structure Captures (pattern : Pattern) (line : String) (kind : SlotKind)
    (filling : Filling) : Prop where
  last : ∃ earlier later, pattern.recognizeLine line = some (earlier ++ filling :: later) ∧
    filling.kind = kind ∧ ∀ other ∈ later, other.kind ≠ kind
  part : filling.text <:+: line.toList
  nonblank : isBlank filling.text = false

/-- What a slot holds is what the text in it refers to. -/
theorem exists_captures {scope : Scope} {pattern : Pattern} {line : String}
    {bindings : Bindings} (hmatch : pattern.matchLine scope line = some bindings) {kind : SlotKind}
    {value : Option Referent} (hvalue : bindings.value? kind = some value) :
    ∃ filling, pattern.Captures line kind filling ∧ value = scope.resolve kind filling.wanted := by
  rw [matchLine_eq] at hmatch
  obtain ⟨fillings, hrecognize, rfl⟩ := Option.map_eq_some_iff.1 hmatch
  rw [Bindings.value?_fill] at hvalue
  cases hlast : fillings.reverse.find? (·.kind = kind) with
  | none =>
    rw [hlast] at hvalue
    cases hvalue
  | some filling =>
    rw [hlast, Option.some.injEq] at hvalue
    obtain ⟨hkind, later, earlier, hreverse, hlater⟩ := List.find?_eq_some_iff_append.1 hlast
    have hfillings : fillings = earlier.reverse ++ filling :: later.reverse := by
      rw [← List.reverse_reverse fillings, hreverse]
      simp
    obtain ⟨route, _, hleads⟩ := exists_route_of_line hrecognize
    have hmem : filling ∈ fillings := by simp [hfillings]
    have hpart := hleads.of_mem hmem
    refine ⟨filling, ⟨⟨earlier.reverse, later.reverse, ?_, ?_, ?_⟩, hpart.1, hpart.2⟩, hvalue.symm⟩
    · rw [hrecognize, hfillings]
    · simpa using hkind
    · intro other hother
      simpa using hlater other (List.mem_reverse.1 hother)

/-- The slots that a line fills are filled from the scope. -/
theorem filledFrom_matchLine {scope : Scope} {pattern : Pattern} {line : String}
    {bindings : Bindings} (h : matchLine scope pattern line = some bindings) :
    bindings.FilledFrom scope := by
  intro kind value hvalue
  obtain ⟨filling, hcaptures, hresolve⟩ := exists_captures h hvalue
  exact ⟨filling.text, hcaptures.nonblank, hresolve⟩

end Pattern

/-! ## Slots that are always filled -/

/-- The step is a slot of the given kind. -/
def Step.fills (kind : SlotKind) : Step → Bool
  | .slot other _ => other == kind
  | _ => false

/-- A slot on the way to what is left of a text has taken a filling. -/
theorem Leads.exists_filling {route : List Step} {text rest : List Char} {fillings : List Filling}
    (h : Leads route text fillings rest) {kind : SlotKind} {step : Step} (hstep : step ∈ route)
    (hfills : step.fills kind = true) : ∃ filling ∈ fillings, filling.kind = kind := by
  induction h with
  | arrived text => cases hstep
  | word _ _ ih =>
    rcases List.mem_cons.1 hstep with rfl | hstep
    · cases hfills
    · exact ih hstep
  | gap _ ih =>
    rcases List.mem_cons.1 hstep with rfl | hstep
    · cases hfills
    · exact ih hstep
  | slot _ _ ih =>
    rcases List.mem_cons.1 hstep with rfl | hstep
    · exact ⟨_, List.mem_cons_self, beq_iff_eq.1 hfills⟩
    · obtain ⟨filling, hmem, hkind⟩ := ih hstep
      exact ⟨filling, List.mem_cons_of_mem _ hmem, hkind⟩
  | lineEnd _ ih =>
    rcases List.mem_cons.1 hstep with rfl | hstep
    · cases hfills
    · exact ih hstep

namespace Pattern

/-- A slot that lies on every route through a pattern is filled by every line that it matches. -/
theorem contains_of_routes {scope : Scope} {pattern : Pattern} {line : String}
    {bindings : Bindings} {kind : SlotKind}
    (hroutes : ∀ route ∈ pattern.routes, ∃ step ∈ route, step.fills kind = true)
    (h : matchLine scope pattern line = some bindings) : bindings.contains kind = true := by
  rw [matchLine_eq] at h
  obtain ⟨fillings, hrecognize, rfl⟩ := Option.map_eq_some_iff.1 h
  obtain ⟨route, hroute, hleads⟩ := exists_route_of_line hrecognize
  obtain ⟨step, hstep, hfills⟩ := hroutes route hroute
  obtain ⟨filling, hmem, hkind⟩ := hleads.exists_filling hstep hfills
  have hfound : (fillings.reverse.find? (·.kind = kind)).isSome = true :=
    List.find?_isSome.2 ⟨filling, List.mem_reverse.2 hmem, by simp [hkind]⟩
  obtain ⟨last, hlast⟩ := Option.isSome_iff_exists.1 hfound
  rw [Bindings.contains, Bindings.value?_fill, hlast]
  rfl

end Pattern

namespace CommandSet

variable {H : Type} {set : CommandSet H} {scope : Scope}

/-- A line is meant for a command that accepts it. -/
theorem dispatch_eq_matched {line name : String} {handler : H} {bindings : Bindings}
    (h : set.dispatch scope line = .matched name handler bindings) :
    ∃ command ∈ set.commands, command.name = name ∧ command.handler = handler ∧
      command.pattern.matchLine scope line = some bindings := by
  unfold dispatch at h
  split at h
  · cases h
  · next command filled haccepting =>
    cases h
    have hmem : (command, bindings) ∈ set.accepting scope line := by
      rw [haccepting]
      exact List.mem_singleton_self _
    obtain ⟨other, hother, hmap⟩ := List.mem_filterMap.1 hmem
    obtain ⟨filled, hmatch, heq⟩ := Option.map_eq_some_iff.1 hmap
    cases heq
    exact ⟨command, hother, rfl, rfl, hmatch⟩
  · cases h

/-- The slots of the command that a line is meant for are filled from the scope. -/
theorem filledFrom_dispatch {line name : String} {handler : H} {bindings : Bindings}
    (h : set.dispatch scope line = .matched name handler bindings) :
    bindings.FilledFrom scope := by
  obtain ⟨_, _, _, _, hmatch⟩ := dispatch_eq_matched h
  exact Pattern.filledFrom_matchLine hmatch

end CommandSet

end Muster
