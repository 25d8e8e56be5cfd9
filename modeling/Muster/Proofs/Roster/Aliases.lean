import Muster.Proofs.Roster.Answering
import Muster.Proofs.Roster.Changes

/-!
# Aliases over many changes

A character has one list of aliases, in which the first word of its name is not told apart from an
alias that it was given by itself. So a new name takes away what the first word of the old name is,
whoever has given it. Main statement: `answersTo_added_iff`. An alias that has been given to a
character, and has not been taken back, is one that it answers to, unless the character has borne a
name with that first word and lost it again. `sam_unanswered` shows that such an alias is lost.
-/

namespace Muster

open Muster.Text Muster.Unicode

namespace CharacterChange

/-- The change gives the character an alias, by itself or as the first word of a name. -/
def Gives (wanted : String) : CharacterChange → Prop
  | .addAlias text => normalize text = wanted
  | .rename name => defaultAlias? name = some wanted
  | _ => False

/-- The change takes an alias back, alone or with all others. -/
def TakesBack (wanted : String) : CharacterChange → Prop
  | .removeAlias text => normalize text = wanted
  | .resetAliases => True
  | _ => False

/-- The change replaces a name whose first word is an alias by one whose first word is another. -/
def Replaces (character : Character) (wanted : String) : CharacterChange → Prop
  | .rename name => defaultAlias? character.name = some wanted ∧ defaultAlias? name ≠ some wanted
  | _ => False

end CharacterChange

namespace Character

open CharacterChange

/-- The character after some changes. -/
def after (character : Character) (changes : List CharacterChange) : Character :=
  changes.foldl CharacterChange.apply character

theorem after_append (character : Character) (changes later : List CharacterChange) :
    character.after (changes ++ later) = (character.after changes).after later :=
  List.foldl_append

theorem after_cons (character : Character) (change : CharacterChange)
    (later : List CharacterChange) :
    character.after (change :: later) = (change.apply character).after later :=
  rfl

/-! ## One change -/

/-- A text in normal form is an alias once it has been given, unless it is empty. -/
theorem mem_aliases_addAlias_iff {character : Character} {text wanted : String}
    (hword : wanted ≠ "") :
    wanted ∈ (character.addAlias text).aliases ↔
      wanted ∈ character.aliases ∨ normalize text = wanted := by
  have hnormal : character.addAlias text = character.addAlias (normalize text) := by
    unfold addAlias
    rw [normalize_normalize]
  by_cases hempty : normalize text = ""
  · have hsame : character.addAlias text = character := by
      unfold addAlias
      rw [hempty]
      rfl
    rw [hsame, hempty]
    exact ⟨Or.inl, fun h => h.resolve_right hword.symm⟩
  · have hnonempty : (normalize text).isEmpty = false := by
      rw [Bool.eq_false_iff]
      exact fun h => hempty (String.isEmpty_iff.1 h)
    rw [hnormal]
    exact mem_aliases_addAlias (normalize_normalize text) hnonempty

/-- A new name takes away the alias that the old name gives, and no other. -/
theorem mem_aliases_rename_iff {character : Character} {name wanted : String} :
    wanted ∈ (character.rename name).aliases ↔
      wanted ∈ character.aliases ∧ defaultAlias? character.name ≠ some wanted ∨
        defaultAlias? name = some wanted := by
  have hkept : wanted ∈ character.keptAliases ↔
      wanted ∈ character.aliases ∧ defaultAlias? character.name ≠ some wanted := by
    unfold keptAliases
    cases defaultAlias? character.name with
    | none => simp
    | some old =>
      rw [List.mem_filter, bne_iff_ne, Ne, Ne, Option.some.injEq, eq_comm]
  rw [mem_aliases_rename, hkept]

/-- What a change that takes nothing back makes of an alias: it is there if it was there and is not
replaced, or if it is given. -/
theorem mem_aliases_apply (character : Character) {change : CharacterChange} {wanted : String}
    (hword : wanted ≠ "") (hkept : ¬ change.TakesBack wanted) :
    wanted ∈ (change.apply character).aliases ↔
      wanted ∈ character.aliases ∧ ¬ change.Replaces character wanted ∨ change.Gives wanted := by
  cases change with
  | rename name =>
    show wanted ∈ (character.rename name).aliases ↔ _
    rw [mem_aliases_rename_iff]
    by_cases hnew : defaultAlias? name = some wanted <;> simp [Replaces, Gives, hnew]
  | addAlias text =>
    show wanted ∈ (character.addAlias text).aliases ↔ _
    rw [mem_aliases_addAlias_iff hword]
    simp [Replaces, Gives]
  | removeAlias text =>
    have hother : ¬ normalize text = wanted := hkept
    show wanted ∈ character.aliases.filter (· != normalize text) ↔ _
    simp [Replaces, Gives, Ne.symm hother]
  | resetAliases => exact absurd trivial hkept
  | changeSpecies species =>
    show wanted ∈ character.aliases ↔ _
    simp [Replaces, Gives]
  | changeBackground background =>
    show wanted ∈ character.aliases ↔ _
    simp [Replaces, Gives]

/-- The first word of a name is given with the name. -/
theorem gives_of_name_apply {character : Character} {change : CharacterChange} {wanted : String}
    (h : defaultAlias? (change.apply character).name = some wanted) :
    defaultAlias? character.name = some wanted ∨ change.Gives wanted := by
  rw [name_apply] at h
  cases change with
  | rename name => exact Or.inr h
  | addAlias | removeAlias | resetAliases | changeSpecies | changeBackground => exact Or.inl h

/-! ## Many changes -/

theorem exists_gives_of_name_after {character : Character} {changes : List CharacterChange}
    {wanted : String} (h : defaultAlias? (character.after changes).name = some wanted) :
    defaultAlias? character.name = some wanted ∨ ∃ change ∈ changes, change.Gives wanted := by
  induction changes generalizing character with
  | nil => exact Or.inl h
  | cons change changes ih =>
    rw [after_cons] at h
    rcases ih h with hname | ⟨given, hgiven, hgives⟩
    · rcases gives_of_name_apply hname with hold | hgives
      · exact Or.inl hold
      · exact Or.inr ⟨change, List.mem_cons_self, hgives⟩
    · exact Or.inr ⟨given, List.mem_cons_of_mem _ hgiven, hgives⟩

/-- A statement about every place of a list is one about its head and one about the places behind
it. -/
theorem forall_split_cons {α : Type} {p : List α → α → List α → Prop} {first : α}
    {items : List α} :
    (∀ earlier item later, first :: items = earlier ++ item :: later → p earlier item later) ↔
      p [] first items ∧ ∀ earlier item later, items = earlier ++ item :: later →
        p (first :: earlier) item later := by
  constructor
  · intro h
    exact ⟨h [] first items rfl, fun earlier item later hitems =>
      h (first :: earlier) item later (by rw [hitems, List.cons_append])⟩
  · rintro ⟨hfirst, hlater⟩ earlier item later hitems
    cases earlier with
    | nil =>
      cases hitems
      exact hfirst
    | cons head earlier =>
      cases hitems
      exact hlater earlier item later rfl

/-- Where nothing is taken back, an alias is there in the end if it was there in the beginning or
has been given, and has been given anew whenever it was replaced. -/
theorem mem_aliases_after {wanted : String} (hword : wanted ≠ "") {changes : List CharacterChange}
    (hkept : ∀ change ∈ changes, ¬ change.TakesBack wanted) (character : Character) :
    wanted ∈ (character.after changes).aliases ↔
      (wanted ∈ character.aliases ∨ ∃ change ∈ changes, change.Gives wanted) ∧
        ∀ earlier change later, changes = earlier ++ change :: later →
          change.Replaces (character.after earlier) wanted →
            ∃ given ∈ later, given.Gives wanted := by
  induction changes generalizing character with
  | nil => simp [after]
  | cons change changes ih =>
    rw [List.forall_mem_cons] at hkept
    have happly := mem_aliases_apply character hword hkept.1
    -- what is replaced is not given at the same time
    have hnot : change.Replaces character wanted → ¬ change.Gives wanted := by
      cases change with
      | rename name => exact fun h => h.2
      | addAlias | removeAlias | resetAliases | changeSpecies | changeBackground => exact False.elim
    have hafter : character.after [] = character := rfl
    rw [forall_split_cons, after_cons, ih hkept.2 (change.apply character), happly, hafter]
    simp only [after_cons, List.mem_cons, exists_eq_or_imp]
    by_cases hreplaces : change.Replaces character wanted
    · have hgives := hnot hreplaces
      simp only [hreplaces, hgives, not_true_eq_false, and_false, false_or, true_imp_iff]
      constructor
      · exact fun h => ⟨Or.inr h.1, h.1, h.2⟩
      · exact fun h => ⟨h.2.1, h.2.2⟩
    · simp only [hreplaces, not_false_eq_true, and_true, false_imp_iff, true_and, or_assoc]

/-! ## Answering to an alias that was given -/

/-- If the normal form of a name is the first word of some name, it is the first word of the name
itself. -/
theorem defaultAlias_of_normalize_eq {name other first : String}
    (h : defaultAlias? other = some first) (hname : normalize name = first) :
    defaultAlias? name = some first := by
  rw [defaultAlias?, Option.map_eq_some_iff] at h
  obtain ⟨word, hword, hfirst⟩ := h
  have hself : ∀ w, w ∈ words other.toList ∨ w ∈ words name.toList → words w = [w] := by
    intro w hw
    have hletters : w ≠ [] ∧ ∀ c ∈ w, isWhite c = false := by
      rcases hw with hw | hw
      · exact of_mem_words hw
      · exact of_mem_words hw
    have hbegins : BeginsWith w w [] := ⟨(List.append_nil w).symm, hletters.1, hletters.2, rfl⟩
    exact hbegins.words_eq
  -- the name has one word, as its normal form has
  have hone : (words name.toList).map lowerText = [lowerText word] := by
    have hnormal : normal name.toList = normal word := by
      rw [normalize, ← hfirst, String.ofList_inj] at hname
      exact hname
    rw [← words_normal, hnormal, words_normal, hself word (Or.inl (List.mem_of_mem_head? hword))]
    rfl
  obtain ⟨only, hwords, -⟩ := List.map_eq_singleton_iff.1 hone
  have honly : normal only = normal name.toList := by
    rw [normal, normal, hself only (Or.inr (by rw [hwords]; exact List.mem_singleton_self only)),
      hwords]
  rw [defaultAlias?, hwords, List.head?_cons, Option.map_some, honly, ← hname, normalize]

/-- An alias is given to a character and never taken back, alone or with all others. Then the
character answers to it in the end exactly if it has been given anew, by itself or as the first word
of a name, whenever a name with that first word was replaced by one with another. A new name never
takes away an alias but the first word of the old name. -/
theorem answersTo_added_iff (character : Character) (before : List CharacterChange) {text : String}
    (hword : normalize text ≠ "") {changes : List CharacterChange}
    (hkept : ∀ change ∈ changes, ¬ change.TakesBack (normalize text)) :
    ((character.after (before ++ .addAlias text :: changes)).answersTo (normalize text) = true ↔
      ∀ earlier change later, changes = earlier ++ change :: later →
        change.Replaces (character.after (before ++ .addAlias text :: earlier)) (normalize text) →
          ∃ given ∈ later, given.Gives (normalize text)) ∧
    ∀ name wanted, wanted ∈ (character.rename name).aliases ↔
      wanted ∈ character.aliases ∧ defaultAlias? character.name ≠ some wanted ∨
        defaultAlias? name = some wanted := by
  refine ⟨?_, fun name wanted => mem_aliases_rename_iff⟩
  have hfrom : ∀ later, character.after (before ++ .addAlias text :: later) =
      ((character.after before).addAlias text).after later := fun later => by
    rw [after_append, after_cons]
    rfl
  have hadded : normalize text ∈ ((character.after before).addAlias text).aliases :=
    (mem_aliases_addAlias_iff hword).2 (Or.inr rfl)
  have hmem := mem_aliases_after hword hkept ((character.after before).addAlias text)
  simp only [hfrom]
  rw [answersTo_iff, hmem]
  constructor
  · rintro (hname | ⟨-, hreplaced⟩)
    · -- the whole name is the alias, and so is its first word, which was given with it
      rintro earlier change later rfl hreplaces
      rw [after_append, after_cons] at hname
      cases change with
      | rename name =>
        obtain ⟨hold, hnew⟩ := hreplaces
        rcases exists_gives_of_name_after (defaultAlias_of_normalize_eq hold hname) with
          hstill | hgiven
        · have hnamed : (CharacterChange.apply
              (((character.after before).addAlias text).after earlier) (.rename name)).name =
                name := name_rename _ name
          rw [hnamed] at hstill
          exact absurd hstill hnew
        · exact hgiven
      | addAlias | removeAlias | resetAliases | changeSpecies | changeBackground => cases hreplaces
    · exact hreplaced
  · exact fun hreplaced => Or.inr ⟨Or.inl hadded, hreplaced⟩

/-- An alias that is lost with a name of its own first word, and given once more. -/
theorem sam_answered_again :
    let bilbo := create 1 "Bilbo Baggins" { name := "Human", shortName := "Hum", stats := {} }
      { name := "Scholar", shortName := "Sch" }
    let changes : List CharacterChange :=
      [.rename "Sam Gamgee", .rename "Frodo Baggins", .addAlias " SAM "]
    normalize "Sam" ≠ "" ∧ (∀ change ∈ changes, ¬ change.TakesBack (normalize "Sam")) ∧
      (bilbo.after ([.addAlias "Burglar"] ++ .addAlias "Sam" :: changes)).answersTo
        (normalize "Sam") = true ∧
      ∀ earlier change later, changes = earlier ++ change :: later →
        change.Replaces (bilbo.after ([.addAlias "Burglar"] ++ .addAlias "Sam" :: earlier))
            (normalize "Sam") →
          ∃ given ∈ later, given.Gives (normalize "Sam") := by
  intro bilbo changes
  have hword : normalize "Sam" ≠ "" := by decide +kernel
  have hkept : ∀ change ∈ changes, ¬ change.TakesBack (normalize "Sam") := by
    simp [changes, TakesBack]
  have hanswers : (bilbo.after ([.addAlias "Burglar"] ++ .addAlias "Sam" :: changes)).answersTo
      (normalize "Sam") = true := by
    decide +kernel
  exact ⟨hword, hkept, hanswers,
    (answersTo_added_iff bilbo [.addAlias "Burglar"] hword hkept).1.1 hanswers⟩

/-- An alias that a character was given, and that nobody has taken back, is lost with a name of its
own first word, whether the name was there before the alias or came later. -/
theorem sam_unanswered :
    let bilbo := create 1 "Bilbo Baggins" { name := "Human", shortName := "Hum", stats := {} }
      { name := "Scholar", shortName := "Sch" }
    (bilbo.after [.addAlias "Sam"]).answersTo (normalize "Sam") = true ∧
      (∀ change ∈ [CharacterChange.rename "Sam Gamgee", .rename "Frodo Baggins"],
        ¬ change.TakesBack (normalize "Sam")) ∧
      (bilbo.after [.addAlias "Sam", .rename "Sam Gamgee", .rename "Frodo Baggins"]).answersTo
        (normalize "Sam") = false ∧
      (bilbo.after [.addAlias "Bilbo", .rename "Frodo Baggins"]).answersTo
        (normalize "Bilbo") = false := by
  intro bilbo
  refine ⟨by decide +kernel, ?_, by decide +kernel, by decide +kernel⟩
  simp [TakesBack]

end Character

end Muster
