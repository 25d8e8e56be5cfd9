import Muster.Proofs.Pattern.Recognition
import Muster.Proofs.Pattern.Segments

/-!
# Routes through a pattern

A match keeps each group or leaves it out, and takes one way of each choice. What remains is a
*route*: words, white space and slots in a row. `routes` lists the routes of a pattern, and `Leads`
says what it means for a route to lead from a text to what is left of it, its slots having taken some
fillings. Main statements: whatever a pattern takes off a text, it has taken along one of its routes
(`exists_route`), and the fillings are parts of the text that are not blank (`Leads.of_mem`).
-/

namespace Muster

open Muster.Text Muster.Pattern

/-- A step on the way through a pattern. -/
inductive Step where
  | word (letters : List Char)
  | gap
  | slot (kind : SlotKind) (stop : Option (List Char))
  | lineEnd

namespace Pattern

mutual

/-- The routes through a pattern. -/
def routes : Pattern → List (List Step)
  | .literal word => [[.word word]]
  | .gap => [[.gap]]
  | .sequence parts => routesOfEach parts
  | .choice ways => routesOfAny ways
  | .optional part => [] :: routes part
  | .slot kind stop => [[.slot kind stop]]
  | .lineEnd => [[.lineEnd]]

/-- The routes through patterns one after the other. -/
def routesOfEach : List Pattern → List (List Step)
  | [] => [[]]
  | part :: parts => (routes part).flatMap fun route => (routesOfEach parts).map (route ++ ·)

/-- The routes through one of some patterns. -/
def routesOfAny : List Pattern → List (List Step)
  | [] => []
  | way :: ways => routes way ++ routesOfAny ways

end

end Pattern

/-- A route leads from a text to what is left of it, and its slots take some fillings. -/
inductive Leads : List Step → List Char → List Filling → List Char → Prop where
  | arrived (text : List Char) : Leads [] text [] text
  | word {letters text middle rest : List Char} {route : List Step} {fillings : List Filling} :
    takeWord letters text = some middle → Leads route middle fillings rest →
      Leads (.word letters :: route) text fillings rest
  | gap {text rest : List Char} {route : List Step} {fillings : List Filling} :
    Leads route (trimStart text) fillings rest → Leads (.gap :: route) text fillings rest
  | slot {kind : SlotKind} {stop : Option (List Char)} {text filling middle rest : List Char}
    {route : List Step} {fillings : List Filling} :
    takeSlot stop text = some (filling, middle) → Leads route middle fillings rest →
      Leads (.slot kind stop :: route) text (⟨kind, filling⟩ :: fillings) rest
  | lineEnd {rest : List Char} {route : List Step} {fillings : List Filling} :
    Leads route [] fillings rest → Leads (.lineEnd :: route) [] fillings rest

namespace Leads

variable {route more : List Step} {text middle rest : List Char} {fillings others : List Filling}

/-- One route after another. -/
theorem append (h : Leads route text fillings middle) (hmore : Leads more middle others rest) :
    Leads (route ++ more) text (fillings ++ others) rest := by
  induction h with
  | arrived text => exact hmore
  | word htake _ ih => exact .word htake (ih hmore)
  | gap _ ih => exact .gap (ih hmore)
  | slot htake _ ih => exact .slot htake (ih hmore)
  | lineEnd _ ih => exact .lineEnd (ih hmore)

/-- What slots take are parts of the text, and not blank. -/
theorem of_mem (h : Leads route text fillings rest) {filling : Filling} (hmem : filling ∈ fillings) :
    filling.text <:+: text ∧ isBlank filling.text = false := by
  induction h with
  | arrived text => cases hmem
  | @word letters text middle rest route fillings htake _ ih =>
    obtain ⟨taken, htext, _⟩ := takeWord_eq_some_iff.1 htake
    have hrest : middle <:+ text := ⟨taken, htext.symm⟩
    exact ⟨(ih hmem).1.trans hrest.isInfix, (ih hmem).2⟩
  | gap _ ih => exact ⟨(ih hmem).1.trans (List.dropWhile_suffix _).isInfix, (ih hmem).2⟩
  | @slot kind stop text taken middle rest route fillings htake _ ih =>
    obtain ⟨htext, hblank⟩ := Template.isBlank_of_takeSlot htake
    rcases List.mem_cons.1 hmem with rfl | hmem
    · have htaken : taken <+: text := ⟨middle, htext.symm⟩
      exact ⟨htaken.isInfix, hblank⟩
    · have hrest : middle <:+ text := ⟨taken, htext.symm⟩
      exact ⟨(ih hmem).1.trans hrest.isInfix, (ih hmem).2⟩
  | lineEnd _ ih => exact ih hmem

end Leads

namespace Pattern

mutual

/-- What a pattern takes off a text, it has taken along one of its routes. -/
theorem exists_route {pattern : Pattern} {text rest : List Char} {fillings : List Filling}
    (h : recognize pattern text = (some rest, fillings)) :
    ∃ route ∈ routes pattern, Leads route text fillings rest := by
  cases pattern with
  | literal word =>
    obtain ⟨htake, rfl⟩ := Prod.mk.inj h
    exact ⟨_, List.mem_singleton_self _, .word htake (.arrived rest)⟩
  | gap =>
    cases h
    exact ⟨_, List.mem_singleton_self _, .gap (.arrived _)⟩
  | sequence parts => exact exists_route_ofEach h
  | choice ways => exact exists_route_ofAny h
  | optional part =>
    rw [recognize] at h
    split at h
    · next left taken hpart =>
      cases h
      obtain ⟨route, hroute, hleads⟩ := exists_route hpart
      exact ⟨route, List.mem_cons_of_mem _ hroute, hleads⟩
    · cases h
      exact ⟨[], List.mem_cons_self, .arrived _⟩
  | slot kind stop =>
    rw [recognize] at h
    split at h
    · next filling left htake =>
      cases h
      exact ⟨_, List.mem_singleton_self _, .slot htake (.arrived _)⟩
    · cases h
  | lineEnd =>
    rw [recognize] at h
    obtain ⟨hrest, rfl⟩ := Prod.mk.inj h
    split at hrest
    · next hempty =>
      cases hrest
      have hnil : text = [] := List.isEmpty_iff.1 hempty
      subst hnil
      exact ⟨_, List.mem_singleton_self _, .lineEnd (.arrived [])⟩
    · cases hrest

theorem exists_route_ofEach {parts : List Pattern} {text rest : List Char} {fillings : List Filling}
    (h : recognizeEach parts text = (some rest, fillings)) :
    ∃ route ∈ routesOfEach parts, Leads route text fillings rest := by
  cases parts with
  | nil =>
    cases h
    exact ⟨[], List.mem_singleton_self _, .arrived _⟩
  | cons part parts =>
    rw [recognizeEach] at h
    split at h
    · next middle first hpart =>
      obtain ⟨hrest, rfl⟩ := Prod.mk.inj h
      obtain ⟨route, hroute, hleads⟩ := exists_route hpart
      obtain ⟨more, hmore, hothers⟩ := exists_route_ofEach (Prod.ext hrest rfl)
      refine ⟨route ++ more, ?_, hleads.append hothers⟩
      exact List.mem_flatMap.2 ⟨route, hroute, List.mem_map_of_mem hmore⟩
    · cases h

theorem exists_route_ofAny {ways : List Pattern} {text rest : List Char} {fillings : List Filling}
    (h : recognizeFirst ways text = (some rest, fillings)) :
    ∃ route ∈ routesOfAny ways, Leads route text fillings rest := by
  cases ways with
  | nil => cases h
  | cons way ways =>
    rw [recognizeFirst] at h
    split at h
    · next left taken hway =>
      cases h
      obtain ⟨route, hroute, hleads⟩ := exists_route hway
      exact ⟨route, List.mem_append_left _ hroute, hleads⟩
    · obtain ⟨route, hroute, hleads⟩ := exists_route_ofAny h
      exact ⟨route, List.mem_append_right _ hroute, hleads⟩

end

/-- A line that a pattern recognizes is led to its end by one of the routes. -/
theorem exists_route_of_line {pattern : Pattern} {line : String} {fillings : List Filling}
    (h : recognizeLine pattern line = some fillings) :
    ∃ route ∈ routes pattern, Leads route line.toList fillings [] :=
  exists_route (recognize_of_recognizeLine h)

end Pattern

end Muster
