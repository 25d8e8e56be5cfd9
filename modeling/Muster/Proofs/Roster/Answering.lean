import Muster.Proofs.Text.Names
import Muster.Proofs.Roster.Members

/-!
# Who answers to a name

A character is given a name as it was typed, and later looked up by what is typed again. It answers
if the normal form of its name is what was typed, in normal form, or if one of its aliases is. Main
statement: `answersTo_own_name`. A character answers to the name it was given exactly if every word
of the name is restored from its display form (`Text.Restored`), or if by chance the name is an alias
that it had before and keeps. `odos_unanswered` shows that this is not always so.
-/

namespace Muster

open Muster.Text Muster.Unicode

/-- A name is found again in the normal form of its display form exactly if its words are restored. -/
theorem normalize_displayName_iff (s : String) :
    normalize (displayName s) = normalize s ↔ ∀ word ∈ words s.toList, Restored word := by
  rw [normalize, normalize, displayName, String.toList_ofList, String.ofList_inj,
    normal_display_eq_iff]

/-- If the first word of a display form is in normal form the name, then it is all of the name, and
restored. -/
theorem restored_of_defaultAlias {s : String}
    (h : defaultAlias? (displayName s) = some (normalize s)) :
    ∀ word ∈ words s.toList, Restored word := by
  rw [defaultAlias?, displayName, String.toList_ofList, words_display, List.head?_map,
    Option.map_map, Option.map_eq_some_iff] at h
  obtain ⟨first, hfirst, hnormal⟩ := h
  have hnormal : normal (capitalized first) = normal s.toList := String.ofList_injective hnormal
  obtain ⟨hne, hletters⟩ := of_mem_words (List.mem_of_mem_head? hfirst)
  obtain ⟨others, hwords⟩ := List.head?_eq_some_iff.1 hfirst
  have hcapitalized := isWhite_of_mem_capitalized hletters
  -- there is one word on the left, and so there is on the right
  have hlower : [lowerText (capitalized first)] = (words s.toList).map lowerText := by
    have hbegins : BeginsWith (capitalized first) (capitalized first) [] :=
      ⟨(List.append_nil _).symm, capitalized_ne_nil hne, hcapitalized, rfl⟩
    rw [← words_normal, ← hnormal, words_normal, hbegins.words_eq]
    rfl
  rw [hwords, List.map_cons, List.cons.injEq, eq_comm (a := []), List.map_eq_nil_iff] at hlower
  obtain ⟨hsame, rfl⟩ := hlower
  intro word hword
  rw [hwords, List.mem_singleton] at hword
  rw [hword]
  exact (lowerText_capitalized_iff hne).1 hsame

namespace Character

/-- The aliases that stay when the character gets another name. -/
def keptAliases (character : Character) : List String :=
  match defaultAlias? character.name with
  | some old => character.aliases.filter (· != old)
  | none => character.aliases

theorem name_rename (character : Character) (name : String) :
    (character.rename name).name = name := by
  rw [rename_eq]

/-- After an alias has been added, it is there, and so are those before. -/
theorem mem_aliases_addAlias {character : Character} {first wanted : String}
    (hnormal : normalize first = first) (hnonempty : first.isEmpty = false) :
    wanted ∈ (character.addAlias first).aliases ↔ wanted ∈ character.aliases ∨ first = wanted := by
  unfold addAlias
  simp only [hnormal, hnonempty, Bool.false_or, List.contains_iff_mem]
  split
  · next hmem =>
    constructor
    · exact Or.inl
    · rintro (h | rfl)
      · exact h
      · exact hmem
  · rw [List.mem_append, List.mem_singleton, eq_comm]

/-- What a character that gets a name goes by besides: the aliases it keeps, and the first word of
the name. -/
theorem mem_aliases_rename {character : Character} {name wanted : String} :
    wanted ∈ (character.rename name).aliases ↔
      wanted ∈ character.keptAliases ∨ defaultAlias? name = some wanted := by
  have hgiven : ∀ nameless : Character, nameless.aliases = character.keptAliases →
      (wanted ∈ (match defaultAlias? name with
        | some new => { nameless with name := name }.addAlias new
        | none => { nameless with name := name }).aliases ↔
      wanted ∈ character.keptAliases ∨ defaultAlias? name = some wanted) := by
    intro nameless hkept
    cases hnew : defaultAlias? name with
    | none => simp [hkept]
    | some new =>
      obtain ⟨hnormal, hnonempty⟩ := normalize_defaultAlias hnew
      rw [mem_aliases_addAlias hnormal hnonempty, hkept, Option.some.injEq]
  unfold rename
  cases hold : defaultAlias? character.name with
  | none =>
    refine hgiven character ?_
    rw [keptAliases, hold]
  | some old =>
    refine hgiven (character.removeAlias old) ?_
    show character.aliases.filter (· != normalize old) = _
    rw [(normalize_defaultAlias hold).1, keptAliases, hold]

/-- A character that gets the display form of a name answers to the name exactly if every word is
restored, or if the name is an alias that it keeps. -/
theorem answersTo_rename_displayName (character : Character) (s : String) :
    (character.rename (displayName s)).answersTo (normalize s) = true ↔
      (∀ word ∈ words s.toList, Restored word) ∨ normalize s ∈ character.keptAliases := by
  rw [answersTo_iff, name_rename, mem_aliases_rename, normalize_displayName_iff]
  constructor
  · rintro (hrestored | hkept | hfirst)
    · exact Or.inl hrestored
    · exact Or.inr hkept
    · exact Or.inl (restored_of_defaultAlias hfirst)
  · rintro (hrestored | hkept)
    · exact Or.inl hrestored
    · exact Or.inr (Or.inl hkept)

/-- Whether a character answers to the name it was given. One that is new in a party does exactly if
every word of the name is restored from its display form; one that gets another name does in this
case too, and otherwise only if the name is an alias that it keeps; and where the name comes from a
slot, so that it is in normal form already, only the first letter of each word matters. If a member
of a party answers to the name, then looking for it finds somebody who does. -/
theorem answersTo_own_name (s : String) :
    (∀ id species background, (create id (displayName s) species background).answersTo
      (normalize s) = true ↔ ∀ word ∈ words s.toList, Restored word) ∧
    (∀ character : Character, (character.rename (displayName s)).answersTo (normalize s) = true ↔
      (∀ word ∈ words s.toList, Restored word) ∨ normalize s ∈ character.keptAliases) ∧
    (∀ character : Character,
      (character.rename (displayName (normalize s))).answersTo (normalize s) = true ↔
        (∀ word ∈ words s.toList, ∀ c ∈ (lowerText word).head?, lowerEach (upperChar c) = [c]) ∨
          normalize s ∈ character.keptAliases) ∧
    ∀ party : Party, (∃ member ∈ party.members, member.answersTo (normalize s) = true) ↔
      ∃ found ∈ party.members, party.find? (normalize s) = some found ∧
        found.answersTo (normalize s) = true := by
  refine ⟨fun id species background => ?_, fun character => ?_, fun character => ?_,
    fun party => ?_⟩
  · have hnone : defaultAlias? "" = none := by simp [defaultAlias?]
    rw [create, answersTo_rename_displayName]
    -- who has no name has no aliases to keep
    simp [keptAliases, recomputeStats, hnone]
  · exact answersTo_rename_displayName character s
  · have hwords : words (normalize s).toList = (words s.toList).map lowerText := by
      rw [normalize, String.toList_ofList, words_normal]
    have hfirst : ∀ word ∈ words s.toList, (Restored (lowerText word) ↔
        ∀ c ∈ (lowerText word).head?, lowerEach (upperChar c) = [c]) := by
      intro word hword
      obtain ⟨hne, hletters⟩ := of_mem_words hword
      exact restored_iff_of_lowered (lowerText_of_word hne hletters).1
    rw [← forall₂_congr hfirst]
    have hslot := answersTo_rename_displayName character (normalize s)
    rw [normalize_normalize, hwords, List.forall_mem_map] at hslot
    exact hslot
  · constructor
    · rintro ⟨member, hmember, hanswers⟩
      have hsome : (party.find? (normalize s)).isSome = true :=
        List.find?_isSome.2 ⟨member, hmember, hanswers⟩
      obtain ⟨found, hfound⟩ := Option.isSome_iff_exists.1 hsome
      have hfind : party.members.find? (·.answersTo (normalize s)) = some found := hfound
      exact ⟨found, List.mem_of_find?_eq_some hfind, hfound, by simpa using List.find?_some hfind⟩
    · rintro ⟨found, hmember, _, hanswers⟩
      exact ⟨found, hmember, hanswers⟩

/-- A character that is named in capitals which end in a sigma does not answer to the same letters,
and one that is named with a first letter which is raised to two does not either, whether the name
comes from a prompt or from a slot. -/
theorem odos_unanswered :
    let human : Species := { name := "Human", shortName := "Hum", stats := {} }
    let scholar : Background := { name := "Scholar", shortName := "Sch" }
    (create 1 (displayName "ΟΔΟΣ") human scholar).answersTo (normalize "ΟΔΟΣ") = false ∧
      ((create 1 "Bob" human scholar).rename (displayName (normalize "ßeta"))).answersTo
        (normalize "ßeta") = false := by
  decide +kernel

end Character

end Muster
