import Mathlib.Data.List.Induction
import Muster.Proofs.Roster.Aliases

/-!
# A character over many changes

Whatever becomes of a character, it stays `Character.WellFormed`: its aliases are texts in normal
form, none of them empty and none listed twice, and its statistics are those of its species and
background. Its name, its species and its background are what it was given last (`after_eq_last`).
The first word of its name is an alias of it exactly if that word has been brought back whenever it
was dropped (`mem_aliases_first_iff`). Main statement: `created_stays_wellFormed`.
-/

namespace Muster

/-! ## Changes in a row -/

/-- A statement about every place of a list is one about its last item and one about the places
before it. -/
theorem forall_split_concat {α : Type} {p : List α → α → List α → Prop} {items : List α}
    {last : α} :
    (∀ earlier item later, items ++ [last] = earlier ++ item :: later → p earlier item later) ↔
      p items last [] ∧ ∀ earlier item later, items = earlier ++ item :: later →
        p earlier item (later ++ [last]) := by
  constructor
  · intro h
    exact ⟨h items last [] rfl, fun earlier item later hitems =>
      h earlier item (later ++ [last]) (by rw [hitems, List.append_assoc, List.cons_append])⟩
  · rintro ⟨hlast, hearlier⟩ earlier item later hitems
    rcases List.eq_nil_or_concat later with rfl | ⟨more, final, rfl⟩
    · obtain ⟨rfl, hsame⟩ := List.append_inj' hitems rfl
      cases hsame
      exact hlast
    · rw [List.concat_eq_append, ← List.cons_append, ← List.append_assoc] at hitems
      obtain ⟨hbefore, hsame⟩ := List.append_inj' hitems rfl
      cases hsame
      rw [List.concat_eq_append]
      exact hearlier earlier item more hbefore

namespace CharacterChange

/-- The change takes one alias away. -/
def Drops (wanted : String) : CharacterChange → Prop
  | .removeAlias text => normalize text = wanted
  | _ => False

/-- The change leaves the first word of the name as an alias, if it is the given one: a name comes
with it, a reset leaves it alone, and it can be added by itself. -/
def BringsBack (wanted : String) : CharacterChange → Prop
  | .rename _ | .resetAliases => True
  | .addAlias text => normalize text = wanted
  | _ => False

/-- Whenever the changes drop an alias, a later one brings it back. -/
def BroughtBack (changes : List CharacterChange) (wanted : String) : Prop :=
  ∀ earlier change later, changes = earlier ++ change :: later → change.Drops wanted →
    ∃ given ∈ later, given.BringsBack wanted

theorem broughtBack_nil (wanted : String) : BroughtBack [] wanted := by
  intro earlier change later h
  cases earlier <;> cases h

/-- The last change drops nothing, and brings the alias back or leaves it as it was. -/
theorem broughtBack_concat {changes : List CharacterChange} {last : CharacterChange}
    {wanted : String} : BroughtBack (changes ++ [last]) wanted ↔
      ¬ last.Drops wanted ∧ (last.BringsBack wanted ∨ BroughtBack changes wanted) := by
  -- what is dropped before the last change may be brought back by it
  have hlater : ∀ later : List CharacterChange,
      (∃ given ∈ later ++ [last], given.BringsBack wanted) ↔
        (∃ given ∈ later, given.BringsBack wanted) ∨ last.BringsBack wanted := by
    intro later
    simp [or_and_right, exists_or]
  unfold BroughtBack
  rw [forall_split_concat]
  simp only [hlater]
  by_cases hlast : last.BringsBack wanted
  · simp [hlast]
  · simp [hlast]

end CharacterChange

namespace Character

open CharacterChange

theorem after_concat (character : Character) (changes : List CharacterChange)
    (last : CharacterChange) :
    character.after (changes ++ [last]) = last.apply (character.after changes) :=
  after_append character changes [last]

/-- What only some changes give to a character is what the last of them gave. -/
theorem after_eq_last {α : Type} {field : Character → α} {given? : CharacterChange → Option α}
    (hfield : ∀ character change, field (change.apply character) =
      (given? change).getD (field character))
    (character : Character) (changes : List CharacterChange) :
    field (character.after changes) =
      ((changes.filterMap given?).getLast?).getD (field character) := by
  induction changes using List.reverseRecOn with
  | nil => rfl
  | append_singleton changes last ih =>
    rw [after_concat, hfield, ih, List.filterMap_append]
    cases hlast : given? last with
    | none => simp [hlast]
    | some value => simp [hlast]

theorem id_after (character : Character) (changes : List CharacterChange) :
    (character.after changes).id = character.id := by
  induction changes generalizing character with
  | nil => rfl
  | cons change changes ih => rw [after_cons, ih, CharacterChange.id_apply]

/-! ## Well-formed characters -/

/-- The aliases are texts in normal form, not empty and none listed twice, and the statistics are
those of the species as the background modifies them. -/
structure WellFormed (character : Character) : Prop where
  nodup : character.aliases.Nodup
  normal : ∀ known ∈ character.aliases, known ≠ "" ∧ normalize known = known
  stats_eq : character.stats = character.species.stats.apply character.background.modifiers

variable {character : Character}

/-- A statistic whose sum is in range is that sum. -/
theorem WellFormed.stats_get (h : character.WellFormed) {stat : Stat}
    (hrange : Stats.InRange
      (character.species.stats.get stat + character.background.modifiers.get stat)) :
    character.stats.get stat =
      character.species.stats.get stat + character.background.modifiers.get stat := by
  rw [h.stats_eq, Stats.get_apply, Stats.wrap_of_inRange hrange]

theorem WellFormed.addAlias (h : character.WellFormed) (text : String) :
    (character.addAlias text).WellFormed := by
  unfold Character.addAlias
  simp only
  split
  · exact h
  · next hnew =>
    rw [Bool.or_eq_true, not_or, String.isEmpty_iff, List.contains_iff_mem] at hnew
    obtain ⟨hne, hmem⟩ := hnew
    refine ⟨?_, fun known hknown => ?_, h.stats_eq⟩
    · show (character.aliases ++ [normalize text]).Nodup
      rw [List.nodup_append]
      refine ⟨h.nodup, List.pairwise_singleton _ _, fun known hknown added hadded => ?_⟩
      rw [List.mem_singleton.1 hadded]
      exact fun hsame => hmem (hsame ▸ hknown)
    · rcases List.mem_append.1 hknown with hold | hadded
      · exact h.normal known hold
      · rw [List.mem_singleton.1 hadded]
        exact ⟨hne, normalize_normalize text⟩

theorem WellFormed.removeAlias (h : character.WellFormed) (text : String) :
    (character.removeAlias text).WellFormed where
  nodup := h.nodup.filter _
  normal known hknown := h.normal known (List.mem_filter.1 hknown).1
  stats_eq := h.stats_eq

theorem WellFormed.rename (h : character.WellFormed) (name : String) :
    (character.rename name).WellFormed := by
  -- the name itself does not matter
  have hnamed : ∀ nameless : Character, nameless.WellFormed →
      ({ nameless with name } : Character).WellFormed := fun _ h => ⟨h.nodup, h.normal, h.stats_eq⟩
  unfold Character.rename
  cases defaultAlias? character.name with
  | none =>
    cases defaultAlias? name with
    | none => exact hnamed character h
    | some new => exact (hnamed character h).addAlias new
  | some old =>
    cases defaultAlias? name with
    | none => exact hnamed _ (h.removeAlias old)
    | some new => exact (hnamed _ (h.removeAlias old)).addAlias new

theorem WellFormed.resetAliases (h : character.WellFormed) : character.resetAliases.WellFormed := by
  refine ⟨?_, fun known hknown => ?_, h.stats_eq⟩
  · show (defaultAlias? character.name).toList.Nodup
    cases defaultAlias? character.name with
    | none => exact List.Pairwise.nil
    | some first => exact List.pairwise_singleton _ _
  · obtain ⟨hnormal, hnonempty⟩ := normalize_defaultAlias (Option.mem_toList.1 hknown)
    refine ⟨?_, hnormal⟩
    rintro rfl
    cases hnonempty

/-- Statistics that are worked out anew follow from the species and the background. -/
theorem wellFormed_recomputeStats (hnodup : character.aliases.Nodup)
    (hnormal : ∀ known ∈ character.aliases, known ≠ "" ∧ normalize known = known) :
    character.recomputeStats.WellFormed :=
  ⟨hnodup, hnormal, rfl⟩

/-- A change leaves a character well-formed. -/
theorem WellFormed.apply (h : character.WellFormed) (change : CharacterChange) :
    (change.apply character).WellFormed := by
  cases change with
  | rename name => exact h.rename name
  | addAlias text => exact h.addAlias text
  | removeAlias text => exact h.removeAlias text
  | resetAliases => exact h.resetAliases
  | changeSpecies species => exact wellFormed_recomputeStats h.nodup h.normal
  | changeBackground background => exact wellFormed_recomputeStats h.nodup h.normal

theorem WellFormed.after (h : character.WellFormed) (changes : List CharacterChange) :
    (character.after changes).WellFormed := by
  induction changes generalizing character with
  | nil => exact h
  | cons change changes ih => exact ih (h.apply change)

theorem wellFormed_create (id : Nat) (name : String) (species : Species)
    (background : Background) : (create id name species background).WellFormed := by
  have hunnamed : ({ id, name := "", aliases := [], species, background, stats := {} } :
      Character).recomputeStats.WellFormed :=
    wellFormed_recomputeStats List.nodup_nil fun known hknown => by cases hknown
  exact hunnamed.rename name

/-- A new character has the name, the species and the background that it is made with. -/
theorem create_eq (id : Nat) (name : String) (species : Species) (background : Background) :
    create id name species background =
      { (create id name species background) with id, name, species, background } := by
  rw [create, rename_eq]
  rfl

/-! ## The first word of the name -/

/-- A new character has the first word of its name as an alias. -/
theorem mem_aliases_create (id : Nat) {name first : String} (species : Species)
    (background : Background) (h : defaultAlias? name = some first) :
    first ∈ (create id name species background).aliases := by
  rw [create, mem_aliases_rename]
  exact Or.inr h

/-- A character that has the first word of its name as an alias has it after some changes exactly if
these have brought it back whenever they dropped it. -/
theorem mem_aliases_first_iff
    (hstart : ∀ first, defaultAlias? character.name = some first → first ∈ character.aliases)
    (changes : List CharacterChange) {first : String}
    (hfirst : defaultAlias? (character.after changes).name = some first) :
    first ∈ (character.after changes).aliases ↔ BroughtBack changes first := by
  induction changes using List.reverseRecOn with
  | nil => exact ⟨fun _ => broughtBack_nil first, fun _ => hstart first hfirst⟩
  | append_singleton changes last ih =>
    have hword : first ≠ "" := by
      rintro rfl
      cases (normalize_defaultAlias hfirst).2
    rw [after_concat, name_apply] at hfirst
    rw [after_concat, broughtBack_concat]
    cases last with
    | rename name =>
      have hgiven : first ∈ ((character.after changes).rename name).aliases :=
        mem_aliases_rename.2 (Or.inr hfirst)
      exact ⟨fun _ => ⟨fun h => h, Or.inl trivial⟩, fun _ => hgiven⟩
    | addAlias text =>
      show first ∈ ((character.after changes).addAlias text).aliases ↔ _
      rw [mem_aliases_addAlias_iff hword, ih hfirst]
      simp [Drops, BringsBack, or_comm]
    | removeAlias text =>
      show first ∈ (character.after changes).aliases.filter (· != normalize text) ↔ _
      rw [List.mem_filter, ih hfirst, bne_iff_ne]
      simp [Drops, BringsBack, and_comm, eq_comm]
    | resetAliases =>
      have hleft : first ∈ (character.after changes).resetAliases.aliases :=
        Option.mem_toList.2 hfirst
      exact ⟨fun _ => ⟨fun h => h, Or.inl trivial⟩, fun _ => hleft⟩
    | changeSpecies species =>
      show first ∈ (character.after changes).aliases ↔ _
      rw [ih hfirst]
      simp [Drops, BringsBack]
    | changeBackground background =>
      show first ∈ (character.after changes).aliases ↔ _
      rw [ih hfirst]
      simp [Drops, BringsBack]

/-- Whatever becomes of a character, its number stays, and so do the rules for its aliases and its
statistics, each of which is a sum that is taken as it is where it is in range. The name, the species
and the background are those given last. The character answers to the first word of its name unless
that word has been dropped since the name was given or the aliases were reset: it does exactly if the
word is the whole name, or has been brought back whenever it was dropped. -/
theorem created_stays_wellFormed (id : Nat) (name : String) (species : Species)
    (background : Background) (changes : List CharacterChange) :
    let now := (create id name species background).after changes
    now.id = id ∧ now.WellFormed ∧
    (∀ stat, Stats.InRange (now.species.stats.get stat + now.background.modifiers.get stat) →
      now.stats.get stat = now.species.stats.get stat + now.background.modifiers.get stat) ∧
    now.name = ((changes.filterMap name?).getLast?).getD name ∧
    now.species = ((changes.filterMap species?).getLast?).getD species ∧
    now.background = ((changes.filterMap background?).getLast?).getD background ∧
    ∀ first, defaultAlias? now.name = some first →
      (now.answersTo first = true ↔ normalize now.name = first ∨ BroughtBack changes first) := by
  intro now
  have hnow : now.WellFormed := (wellFormed_create id name species background).after changes
  refine ⟨?_, hnow, fun stat => hnow.stats_get, ?_, ?_, ?_, fun first hfirst => ?_⟩
  · rw [id_after, create_eq]
  · rw [after_eq_last name_apply, create_eq]
  · rw [after_eq_last species_apply, create_eq]
  · rw [after_eq_last background_apply, create_eq]
  · have hstart : ∀ first, defaultAlias? (create id name species background).name = some first →
        first ∈ (create id name species background).aliases := by
      intro first hname
      rw [create_eq] at hname
      exact mem_aliases_create id species background hname
    rw [answersTo_iff, mem_aliases_first_iff hstart changes hfirst]

/-- The first word of a name is dropped, and is an alias again after a reset. -/
theorem sam_stays_wellFormed :
    let human : Species := { name := "Human", shortName := "Hum", stats := {} }
    let scholar : Background := { name := "Scholar", shortName := "Sch" }
    let changes : List CharacterChange :=
      [.rename "ΣΑΜ Gamgee", .addAlias "Gardener", .removeAlias " ΣΑΜ ", .resetAliases]
    let now := (create 1 "Bilbo Baggins" human scholar).after changes
    defaultAlias? now.name = some "σαμ" ∧ normalize now.name ≠ "σαμ" ∧
      now.answersTo "σαμ" = true ∧ BroughtBack changes "σαμ" := by
  intro human scholar changes now
  have hfirst : defaultAlias? now.name = some "σαμ" := by decide +kernel
  have hname : normalize now.name ≠ "σαμ" := by decide +kernel
  have hanswers : now.answersTo "σαμ" = true := by decide +kernel
  have hword : now.answersTo "σαμ" = true ↔
      normalize now.name = "σαμ" ∨ BroughtBack changes "σαμ" :=
    (created_stays_wellFormed 1 "Bilbo Baggins" human scholar changes).2.2.2.2.2.2 "σαμ" hfirst
  have hback := (hword.1 hanswers).resolve_left hname
  exact ⟨hfirst, hname, hanswers, hback⟩

end Character

end Muster
