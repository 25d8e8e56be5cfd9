import Muster.Proofs.Pattern.Compiled

/-!
# The phrasings of a template without slots

A group is committed: once its words have matched, it is not left out any more. For a template in
plain words this loses no phrasing, provided that a look at the next word decides whether a group is
meant. `Predictive` says so: no word that can come first in a group can also come next when the
group is left out. Such a template matches exactly the lines whose words are those of one of its
readings.
-/

namespace Muster.Template

open Muster.Text Muster.Unicode Muster.Pattern

namespace Piece

/-! ## First words -/

mutual

/-- The words with which a piece can begin. -/
def leadingWords : Piece → List (List Char)
  | .word letters => [letters]
  | .space => []
  | .group pieces _ => firstWords [] pieces
  | .slot _ _ => []

/-- The words with which some pieces can begin, followed by the given ones. -/
def firstWords (after : List (List Char)) : List Piece → List (List Char)
  | [] => after
  | .word letters :: _ => [letters]
  | .slot _ _ :: _ => []
  | piece :: rest => leadingWords piece ++ firstWords after rest

end

mutual

/-- Whether each group within a piece, which the given words can follow, begins differently from
what comes when it is left out. -/
def decided (after : List (List Char)) : Piece → Bool
  | .group pieces _ => (firstWords [] pieces).all (!after.contains ·) && committed after pieces
  | _ => true

/-- Whether each group within some pieces begins differently from what comes when it is left
out. -/
def committed (after : List (List Char)) : List Piece → Bool
  | [] => true
  | piece :: rest => decided (firstWords after rest) piece && committed after rest

end

/-- Whether some pieces begin with white space, if with anything. -/
def opensWithSpace : List Piece → Bool
  | [] => true
  | piece :: _ => piece.isSpace

mutual

/-- Whether white space stands between any two neighbours within a piece. -/
def spaced : Piece → Bool
  | .group pieces _ => spacedAll pieces
  | _ => true

/-- Whether white space stands between any two neighbours among some pieces and within them. -/
def spacedAll : List Piece → Bool
  | [] => true
  | piece :: rest => spaced piece && (piece.isSpace || opensWithSpace rest) && spacedAll rest

end

end Piece

/-! ## Plain words -/

/-- A word of letters and digits in lowercase. -/
structure Plain (word : List Char) : Prop where
  ne_nil : word ≠ []
  letters : ∀ c ∈ word, c.isAlphanum = true
  lowered : Lowered word

/-- The words of a text are those of a phrase, letter by letter and whatever their case. -/
def Spells (text : List Char) (phrase : List (List Char)) : Prop :=
  (words text).map caseless = phrase.map caseless

/-- A text at its end or at a word. -/
def Ready (text : List Char) : Prop := text = [] ∨ startsWord text = true

theorem Plain.isAlphanumeric_of_caseless_eq {word taken : List Char} (hword : Plain word)
    (h : caseless taken = caseless word) : ∀ c ∈ taken, isAlphanumeric c = true := by
  intro c hc
  obtain ⟨d, hd, heq⟩ := exists_of_caseless_eq h hc
  exact isAlphanumeric_of_lowerChar_eq (hword.letters d hd) heq

theorem Plain.endsAlphanumeric {word : List Char} (h : Plain word) :
    endsAlphanumeric word = true := by
  have hletters := h.isAlphanumeric_of_caseless_eq rfl
  cases hlast : word.getLast? with
  | none => exact absurd (List.getLast?_eq_none_iff.1 hlast) h.ne_nil
  | some c =>
    rw [Pattern.endsAlphanumeric, hlast]
    exact hletters c (List.mem_of_getLast? hlast)

theorem isWhite_of_isAlphanumeric {c : Char} (h : isAlphanumeric c = true) : isWhite c = false := by
  refine Bool.eq_false_iff.2 fun hc => ?_
  rw [isAlphanumeric_of_isWhite hc] at h
  cases h

/-- Letters and digits up to where none follows: there is one such beginning of a text. -/
theorem append_unique {taken rest word more : List Char} (h : taken ++ rest = word ++ more)
    (htaken : ∀ c ∈ taken, isAlphanumeric c = true) (hword : ∀ c ∈ word, isAlphanumeric c = true)
    (hrest : startsAlphanumeric rest = false) (hmore : startsAlphanumeric more = false) :
    taken = word := by
  -- if one is longer, then it goes on with a letter where the other one ends
  rcases List.append_eq_append_iff.1 h with ⟨extra, rfl, rfl⟩ | ⟨extra, rfl, rfl⟩
  · cases extra with
    | nil => rw [List.append_nil]
    | cons c cs =>
      rw [List.cons_append] at hrest
      rw [startsAlphanumeric, List.head?_cons, Option.any_some, hword c (by simp)] at hrest
      cases hrest
  · cases extra with
    | nil => rw [List.append_nil]
    | cons c cs =>
      rw [List.cons_append] at hmore
      rw [startsAlphanumeric, List.head?_cons, Option.any_some, htaken c (by simp)] at hmore
      cases hmore

/-! ## Spelling -/

theorem spells_nil_iff (text : List Char) : Spells text [] ↔ isBlank text = true := by
  rw [← words_eq_nil_iff]
  exact List.map_eq_nil_iff

theorem spells_trimStart_iff (text : List Char) (phrase : List (List Char)) :
    Spells (trimStart text) phrase ↔ Spells text phrase := by
  rw [Spells, Spells, words_trimStart]

/-- A text that begins with a word spells the word and what the rest spells. -/
theorem spells_of_beginsWith {text word rest : List Char} (h : BeginsWith text word rest)
    (first : List Char) (more : List (List Char)) :
    Spells text (first :: more) ↔ caseless word = caseless first ∧ Spells rest more := by
  rw [Spells, Spells, h.words_eq, List.map_cons, List.map_cons, List.cons.injEq]

/-- A text that spells some words, if it is at a word, begins with the first of them. -/
theorem exists_beginsWith_of_spells {text word : List Char} {more : List (List Char)}
    (hready : Ready text) (h : Spells text (word :: more)) :
    ∃ taken rest, BeginsWith text taken rest ∧ caseless taken = caseless word ∧
      Spells rest more := by
  rcases hready with rfl | hstarts
  · cases h
  · obtain ⟨taken, rest, hbegins⟩ := exists_beginsWith hstarts
    exact ⟨taken, rest, hbegins, (spells_of_beginsWith hbegins word more).1 h⟩

/-- A text spells a phrase if the first word can be taken off and what is left spells the others. -/
theorem spells_cons_iff {text word : List Char} {more : List (List Char)} (hready : Ready text)
    (hword : Plain word) (hmore : ∀ v ∈ more, Plain v) :
    Spells text (word :: more) ↔ ∃ rest, takeWord word text = some rest ∧ Spells rest more := by
  constructor
  · intro h
    obtain ⟨taken, rest, hbegins, htaken, hrest⟩ := exists_beginsWith_of_spells hready h
    refine ⟨rest, takeWord_eq_some_iff.2 ⟨taken, hbegins.eq_append, htaken, ?_⟩, hrest⟩
    rw [startsAlphanumeric_of_not_startsWord hbegins.ends]
    simp
  · rintro ⟨rest, htake, hrest⟩
    obtain ⟨taken, htext, htaken, hends⟩ := takeWord_eq_some_iff.1 htake
    have hletters := hword.isAlphanumeric_of_caseless_eq htaken
    -- no letter follows, and nothing else that a plain word could begin with
    have hbreak : startsWord rest = false := by
      refine Bool.eq_false_iff.2 fun hstarts => ?_
      obtain ⟨v, tail, hv⟩ := exists_beginsWith hstarts
      cases more with
      | nil =>
        rw [Spells, hv.words_eq] at hrest
        cases hrest
      | cons m ms =>
        have hvm := ((spells_of_beginsWith hv m ms).1 hrest).1
        have hvletters := (hmore m (by simp)).isAlphanumeric_of_caseless_eq hvm
        obtain ⟨c, cs, rfl⟩ := List.exists_cons_of_ne_nil hv.ne_nil
        refine hends ⟨hword.endsAlphanumeric, ?_⟩
        rw [hv.eq_append, List.cons_append]
        exact hvletters c (by simp)
    have hne : taken ≠ [] := by
      rintro rfl
      exact hword.ne_nil (List.map_eq_nil_iff.1 htaken.symm)
    have hbegins : BeginsWith text taken rest :=
      ⟨htext, hne, fun c hc => isWhite_of_isAlphanumeric (hletters c hc), hbreak⟩
    exact (spells_of_beginsWith hbegins word more).2 ⟨htaken, hrest⟩

/-- The plain word that can be taken off a text is the first one that the text spells. -/
theorem head?_of_takeWord {text word rest : List Char} {phrase : List (List Char)}
    (hword : Plain word) (hphrase : ∀ v ∈ phrase, Plain v) (htake : takeWord word text = some rest)
    (h : Spells text phrase) : phrase.head? = some word := by
  obtain ⟨taken, htext, htaken, hends⟩ := takeWord_eq_some_iff.1 htake
  have hletters := hword.isAlphanumeric_of_caseless_eq htaken
  have hrest : startsAlphanumeric rest = false :=
    Bool.eq_false_iff.2 fun hstarts => hends ⟨hword.endsAlphanumeric, hstarts⟩
  have hstarts : startsWord text = true := by
    cases taken with
    | nil => exact absurd (List.map_eq_nil_iff.1 htaken.symm) hword.ne_nil
    | cons c cs =>
      rw [htext, List.cons_append, startsWord_cons,
        isWhite_of_isAlphanumeric (hletters c (by simp))]
      rfl
  cases phrase with
  | nil =>
    obtain ⟨v, tail, hbegins⟩ := exists_beginsWith hstarts
    rw [Spells, hbegins.words_eq] at h
    cases h
  | cons first more =>
    have hfirst := hphrase first (by simp)
    obtain ⟨v, tail, hbegins, hv, _⟩ := exists_beginsWith_of_spells (Or.inr hstarts) h
    have heq : taken = v :=
      append_unique (htext.symm.trans hbegins.eq_append) hletters
        (hfirst.isAlphanumeric_of_caseless_eq hv) hrest
        (startsAlphanumeric_of_not_startsWord hbegins.ends)
    have hsame : word = first :=
      eq_of_caseless_eq hword.lowered hfirst.lowered (by rw [← htaken, heq, hv])
    rw [hsame, List.head?_cons]

/-! ## Committed matching -/

/-- What committed matching relies on, among pieces that the words `after` can follow. -/
structure Decisive (after : List (List Char)) (pieces : List Piece) : Prop where
  plain : ∀ w ∈ Piece.wordsOfAll pieces, Plain w
  slotless : Piece.slotsOfAll pieces = []
  spaced : Piece.spacedAll pieces = true
  committed : Piece.committed after pieces = true

section

variable {scope scope' : Scope} {outer : Follow} {parts : List Pattern} {text : List Char}
  {more after : List (List Char)} {piece : Piece} {pieces rest : List Piece}

theorem Decisive.tail (h : Decisive after (piece :: rest)) : Decisive after rest := by
  have hspaced := h.spaced
  have hcommitted := h.committed
  rw [Piece.spacedAll, Bool.and_eq_true] at hspaced
  rw [Piece.committed, Bool.and_eq_true] at hcommitted
  exact ⟨fun w hw => h.plain w (List.mem_append_right _ hw),
    (List.append_eq_nil_iff.1 h.slotless).2, hspaced.2, hcommitted.2⟩

/-- What follows anything but white space begins with white space. -/
theorem Decisive.opensWithSpace (h : Decisive after (piece :: rest)) (hpiece : piece.isSpace = false) :
    Piece.opensWithSpace rest = true := by
  have hspaced := h.spaced
  rw [Piece.spacedAll, Bool.and_eq_true, Bool.and_eq_true, hpiece, Bool.false_or] at hspaced
  exact hspaced.1.2

theorem Decisive.group {offset : Nat} (h : Decisive after (.group pieces offset :: rest)) :
    Decisive (Piece.firstWords after rest) pieces := by
  have hspaced := h.spaced
  have hcommitted := h.committed
  rw [Piece.spacedAll, Bool.and_eq_true, Bool.and_eq_true] at hspaced
  rw [Piece.committed, Bool.and_eq_true, Piece.decided, Bool.and_eq_true] at hcommitted
  exact ⟨fun w hw => h.plain w (List.mem_append_left _ hw),
    (List.append_eq_nil_iff.1 h.slotless).1, hspaced.1.1, hcommitted.1.2⟩

/-- What can come next when a group is left out cannot come first in it. -/
theorem Decisive.not_mem_firstWords {offset : Nat} (h : Decisive after (.group pieces offset :: rest))
    {v : List Char} (hv : v ∈ Piece.firstWords after rest) : v ∉ Piece.firstWords [] pieces := by
  intro hmem
  have hcommitted := h.committed
  rw [Piece.committed, Bool.and_eq_true, Piece.decided, Bool.and_eq_true] at hcommitted
  have hnot := List.all_eq_true.1 hcommitted.1.1 v hmem
  simp [hv] at hnot

/-- The words of a reading are plain, and those that follow it. -/
theorem Decisive.plain_of_mem (h : Decisive after pieces) (hmore : ∀ v ∈ more, Plain v)
    {reading : List Piece} (hreading : reading ∈ Piece.readingsOfAll pieces) :
    ∀ v ∈ Piece.wordsOfAll reading ++ more, Plain v := by
  intro v hv
  rcases List.mem_append.1 hv with hv | hv
  · exact h.plain v ((Piece.wordsOfAll_sublist hreading).mem hv)
  · exact hmore v hv

/-- The first word of a reading is among the first words. -/
theorem mem_firstWords (hslots : Piece.slotsOfAll pieces = [])
    (hafter : ∀ v, more.head? = some v → v ∈ after) {reading : List Piece}
    (hreading : reading ∈ Piece.readingsOfAll pieces) {v : List Char}
    (hv : (Piece.wordsOfAll reading ++ more).head? = some v) :
    v ∈ Piece.firstWords after pieces := by
  induction pieces using Piece.listInduction generalizing reading more after with
  | nil =>
    rw [Piece.readingsOfAll, List.mem_singleton] at hreading
    rw [hreading] at hv
    exact hafter v hv
  | word letters rest ih =>
    obtain ⟨tail, _, rfl⟩ := (Piece.mem_readingsOfAll_cons_of_leaf rfl).1 hreading
    have heq : letters = v := Option.some.inj hv
    rw [heq]
    exact List.mem_singleton_self v
  | space rest ih =>
    obtain ⟨tail, htail, rfl⟩ := (Piece.mem_readingsOfAll_cons_of_leaf rfl).1 hreading
    exact ih hslots hafter htail hv
  | slot kind offset rest ih => cases hslots
  | group pieces offset rest ihp ih =>
    obtain ⟨hpieces, hrest⟩ := List.append_eq_nil_iff.1 hslots
    show v ∈ Piece.firstWords [] pieces ++ Piece.firstWords after rest
    rcases Piece.mem_readingsOfAll_group.1 hreading with hleft | ⟨kept, hkept, tail, htail, rfl⟩
    · exact List.mem_append_right _ (ih hrest hafter hleft hv)
    · rw [Piece.wordsOfAll_append, List.append_assoc] at hv
      -- the first word is one of the group, unless the group is empty
      cases hwords : Piece.wordsOfAll kept with
      | nil =>
        rw [hwords, List.nil_append] at hv
        exact List.mem_append_right _ (ih hrest hafter htail hv)
      | cons w ws =>
        rw [hwords] at hv
        have hnone : ∀ u, ([] : List (List Char)).head? = some u → u ∈ [] := by
          intro u hu
          cases hu
        refine List.mem_append_left _ (ihp hpieces hnone hkept ?_)
        rw [hwords]
        exact hv

theorem matchEach_literal (word : List Char) (bindings : Bindings) :
    (matchEach scope (.literal word :: parts) text bindings).1 =
      (takeWord word text).bind fun rest => (matchEach scope parts rest bindings).1 := by
  rw [matchEach, matchText]
  cases takeWord word text <;> rfl

/-- Pieces that cannot begin with the next word of the text take no word off it. -/
theorem words_eq_of_unexpected (h : Decisive after pieces)
    (hparts : compilePieces scope outer pieces = .ok parts) (hmore : ∀ v ∈ more, Plain v)
    (htext : Spells text more) (hnext : ∀ v, more.head? = some v → v ∉ Piece.firstWords [] pieces)
    {left : List Char} {bindings filled : Bindings}
    (hmatch : matchEach scope' parts text bindings = (some left, filled)) :
    words left = words text := by
  induction pieces using Piece.listInduction
    generalizing after outer parts text left bindings filled with
  | nil =>
    cases hparts
    cases hmatch
    rfl
  | word letters rest ih =>
    obtain ⟨first, others, hfirst, _, rfl⟩ := compilePieces_cons_eq_ok hparts
    obtain ⟨middle, between, htake, _⟩ := matchEach_cons_eq_some hmatch
    have hletters := h.plain letters (List.mem_cons_self ..)
    rw [compilePiece, ofWord_of_lowered hletters.lowered] at hfirst
    cases hfirst
    have hword : takeWord letters text = some middle := congrArg Prod.fst htake
    have hhead := head?_of_takeWord hletters hmore hword htext
    exact absurd (List.mem_singleton_self letters) (hnext letters hhead)
  | space rest ih =>
    obtain ⟨first, others, hfirst, hothers, rfl⟩ := compilePieces_cons_eq_ok hparts
    obtain ⟨middle, between, htrim, hrest⟩ := matchEach_cons_eq_some hmatch
    cases hfirst
    cases htrim
    rw [ih h.tail hothers ((spells_trimStart_iff text more).2 htext) hnext hrest, words_trimStart]
  | slot kind offset rest ih => cases h.slotless
  | group pieces offset rest ihp ih =>
    obtain ⟨first, others, hfirst, hothers, rfl⟩ := compilePieces_cons_eq_ok hparts
    obtain ⟨inner, hinner, rfl⟩ := compilePiece_group_eq_ok hfirst
    obtain ⟨middle, between, hgroup, hrest⟩ := matchEach_cons_eq_some hmatch
    have hmiddle : words middle = words text := by
      rcases matchText_optional_eq hgroup with hkept | ⟨rfl, _⟩
      · exact ihp h.group hinner htext
          (fun v hv hmem => hnext v hv (List.mem_append_left _ hmem)) hkept
      · rfl
    have hspells : Spells middle more := by
      rw [Spells, hmiddle]
      exact htext
    rw [ih h.tail hothers hspells (fun v hv hmem => hnext v hv (List.mem_append_right _ hmem)) hrest,
      hmiddle]

/-! ## Readings of a text -/

/-- A text spells a reading of some pieces, and more words after it. -/
def SpellsReading (text : List Char) (pieces : List Piece) (more : List (List Char)) : Prop :=
  ∃ reading ∈ Piece.readingsOfAll pieces, Spells text (Piece.wordsOfAll reading ++ more)

theorem spellsReading_nil_iff : SpellsReading text [] more ↔ Spells text more := by
  simp [SpellsReading, Piece.readingsOfAll, Piece.wordsOfAll]

theorem spellsReading_word_iff {letters : List Char} (h : Decisive after (.word letters :: rest))
    (hready : Ready text) (hmore : ∀ v ∈ more, Plain v) :
    SpellsReading text (.word letters :: rest) more ↔
      ∃ middle, takeWord letters text = some middle ∧ SpellsReading middle rest more := by
  have hletters := h.plain letters (List.mem_cons_self ..)
  constructor
  · rintro ⟨reading, hreading, htext⟩
    obtain ⟨kept, hkept, rfl⟩ := (Piece.mem_readingsOfAll_cons_of_leaf rfl).1 hreading
    obtain ⟨middle, htake, hmiddle⟩ :=
      (spells_cons_iff hready hletters (h.tail.plain_of_mem hmore hkept)).1 htext
    exact ⟨middle, htake, kept, hkept, hmiddle⟩
  · rintro ⟨middle, htake, kept, hkept, hmiddle⟩
    refine ⟨.word letters :: kept,
      (Piece.mem_readingsOfAll_cons_of_leaf rfl).2 ⟨kept, hkept, rfl⟩, ?_⟩
    exact (spells_cons_iff hready hletters (h.tail.plain_of_mem hmore hkept)).2
      ⟨middle, htake, hmiddle⟩

theorem spellsReading_space_iff :
    SpellsReading text (.space :: rest) more ↔ SpellsReading (trimStart text) rest more := by
  constructor
  · rintro ⟨reading, hreading, htext⟩
    obtain ⟨kept, hkept, rfl⟩ := (Piece.mem_readingsOfAll_cons_of_leaf rfl).1 hreading
    exact ⟨kept, hkept, (spells_trimStart_iff _ _).2 htext⟩
  · rintro ⟨kept, hkept, htext⟩
    exact ⟨.space :: kept, (Piece.mem_readingsOfAll_cons_of_leaf rfl).2 ⟨kept, hkept, rfl⟩,
      (spells_trimStart_iff _ _).1 htext⟩

/-- With a group in front, a text spells a reading without it, or one of the group itself. -/
theorem spellsReading_group_iff {offset : Nat} :
    SpellsReading text (.group pieces offset :: rest) more ↔
      SpellsReading text rest more ∨
        ∃ tail ∈ Piece.readingsOfAll rest,
          SpellsReading text pieces (Piece.wordsOfAll tail ++ more) := by
  constructor
  · rintro ⟨reading, hreading, htext⟩
    rcases Piece.mem_readingsOfAll_group.1 hreading with htail | ⟨kept, hkept, tail, htail, rfl⟩
    · exact Or.inl ⟨reading, htail, htext⟩
    · rw [Piece.wordsOfAll_append, List.append_assoc] at htext
      exact Or.inr ⟨tail, htail, kept, hkept, htext⟩
  · rintro (⟨tail, htail, htext⟩ | ⟨tail, htail, kept, hkept, htext⟩)
    · exact ⟨tail, Piece.mem_readingsOfAll_group.2 (Or.inl htail), htext⟩
    · refine ⟨kept ++ tail,
        Piece.mem_readingsOfAll_group.2 (Or.inr ⟨kept, hkept, tail, htail, rfl⟩), ?_⟩
      rw [Piece.wordsOfAll_append, List.append_assoc]
      exact htext

/-- If no reading of a group fits, the group is left out. -/
theorem spellsReading_group_of_none {offset : Nat}
    (hgroup : ∀ tail ∈ Piece.readingsOfAll rest,
      ¬ SpellsReading text pieces (Piece.wordsOfAll tail ++ more)) :
    SpellsReading text (.group pieces offset :: rest) more ↔ SpellsReading text rest more := by
  rw [spellsReading_group_iff]
  constructor
  · rintro (htext | ⟨tail, htail, htext⟩)
    · exact htext
    · exact absurd htext (hgroup tail htail)
  · exact Or.inl

/-- If the readings of a group that fit are those that go on at `middle`, the group can be kept. Where
it could be left out, it must not have taken a word. -/
theorem spellsReading_group_of_some {offset : Nat} {middle : List Char}
    (hgroup : ∀ tail ∈ Piece.readingsOfAll rest,
      (SpellsReading text pieces (Piece.wordsOfAll tail ++ more) ↔
        Spells middle (Piece.wordsOfAll tail ++ more)))
    (hleft : ∀ tail ∈ Piece.readingsOfAll rest, Spells text (Piece.wordsOfAll tail ++ more) →
      words middle = words text) :
    SpellsReading text (.group pieces offset :: rest) more ↔ SpellsReading middle rest more := by
  rw [spellsReading_group_iff]
  constructor
  · rintro (⟨tail, htail, htext⟩ | ⟨tail, htail, htext⟩)
    · refine ⟨tail, htail, ?_⟩
      rw [Spells, hleft tail htail htext]
      exact htext
    · exact ⟨tail, htail, (hgroup tail htail).1 htext⟩
  · rintro ⟨tail, htail, htext⟩
    exact Or.inr ⟨tail, htail, (hgroup tail htail).2 htext⟩

/-- The parts of a template take off a text the words of some reading, and leave what the text goes
on with, if there is such a reading. -/
theorem spellsReading_iff (scope' : Scope) (h : Decisive after pieces)
    (hparts : compilePieces scope outer pieces = .ok parts)
    (hready : Piece.opensWithSpace pieces = true ∨ Ready text) (hmore : ∀ v ∈ more, Plain v)
    (hafter : ∀ v, more.head? = some v → v ∈ after) (bindings : Bindings) :
    SpellsReading text pieces more ↔
      ∃ left, (matchEach scope' parts text bindings).1 = some left ∧ Spells left more := by
  induction pieces using Piece.listInduction
    generalizing outer parts text more after bindings with
  | nil =>
    cases hparts
    rw [spellsReading_nil_iff]
    simp [matchEach]
  | word letters rest ih =>
    obtain ⟨first, others, hfirst, hothers, rfl⟩ := compilePieces_cons_eq_ok hparts
    rw [compilePiece, ofWord_of_lowered (h.plain letters (List.mem_cons_self ..)).lowered] at hfirst
    cases hfirst
    have hready : Ready text := hready.resolve_left (by simp [Piece.opensWithSpace, Piece.isSpace])
    rw [spellsReading_word_iff h hready hmore, matchEach_literal]
    cases takeWord letters text with
    | none => simp
    | some middle =>
      have hrest : SpellsReading middle rest more ↔ _ :=
        ih h.tail hothers (Or.inl (h.opensWithSpace rfl)) hmore hafter bindings
      simp [hrest]
  | space rest ih =>
    obtain ⟨first, others, hfirst, hothers, rfl⟩ := compilePieces_cons_eq_ok hparts
    cases hfirst
    have hgap : matchText scope' .gap text bindings = (some (trimStart text), bindings) := rfl
    rw [spellsReading_space_iff, matchEach_cons_of_some hgap]
    exact ih h.tail hothers (Or.inr (trimStart_eq_nil_or_startsWord text)) hmore hafter bindings
  | slot kind offset rest ih => cases h.slotless
  | group pieces offset rest ihp ih =>
    obtain ⟨first, others, hfirst, hothers, rfl⟩ := compilePieces_cons_eq_ok hparts
    obtain ⟨inner, hinner, rfl⟩ := compilePiece_group_eq_ok hfirst
    have hready : Ready text := hready.resolve_left (by simp [Piece.opensWithSpace, Piece.isSpace])
    have hopens := h.opensWithSpace rfl
    have hplain : ∀ tail ∈ Piece.readingsOfAll rest, ∀ v ∈ Piece.wordsOfAll tail ++ more, Plain v :=
      fun tail htail => h.tail.plain_of_mem hmore htail
    -- what can follow the group are the first words of what comes after it
    have hnext : ∀ tail ∈ Piece.readingsOfAll rest, ∀ v,
        (Piece.wordsOfAll tail ++ more).head? = some v → v ∈ Piece.firstWords after rest :=
      fun tail htail v hv => mem_firstWords h.tail.slotless hafter htail hv
    have hgroup : ∀ tail ∈ Piece.readingsOfAll rest,
        SpellsReading text pieces (Piece.wordsOfAll tail ++ more) ↔
          ∃ left, (matchEach scope' inner text bindings).1 = some left ∧
            Spells left (Piece.wordsOfAll tail ++ more) := by
      intro tail htail
      exact ihp h.group hinner (Or.inr hready) (hplain tail htail) (hnext tail htail) bindings
    cases hmatch : matchEach scope' inner text bindings with
    | mk result between =>
      rw [hmatch] at hgroup
      cases result with
      | none =>
        rw [matchEach_cons_of_some (matchText_optional_of_none hmatch),
          ← ih h.tail hothers (Or.inl hopens) hmore hafter bindings]
        refine spellsReading_group_of_none fun tail htail htext => ?_
        obtain ⟨left, hleft, _⟩ := (hgroup tail htail).1 htext
        cases hleft
      | some middle =>
        rw [matchEach_cons_of_some (matchText_optional_of_some hmatch),
          ← ih h.tail hothers (Or.inl hopens) hmore hafter between]
        refine spellsReading_group_of_some (fun tail htail => ?_) fun tail htail htext => ?_
        · rw [hgroup tail htail]
          simp
        · exact words_eq_of_unexpected h.group hinner (hplain tail htail) htext
            (fun v hv => h.not_mem_firstWords (hnext tail htail v hv)) hmatch

end

/-! ## Whole lines -/

/-- A template in plain words, where the next word decides whether a group is meant. -/
structure Predictive (pieces : List Piece) : Prop where
  /-- Words consist of ASCII letters and digits. -/
  plain : ∀ w ∈ Piece.wordsOfAll pieces, ∀ c ∈ w, c.isAlphanum = true
  slotless : Piece.slotsOfAll pieces = []
  /-- White space stands between any two neighbours. -/
  spaced : Piece.spacedAll pieces = true
  /-- What can come first in a group cannot come next when the group is left out. -/
  committed : Piece.committed [] pieces = true

instance (pieces : List Piece) : Decidable (Predictive pieces) :=
  decidable_of_iff
    ((Piece.wordsOfAll pieces).all (·.all Char.isAlphanum) = true ∧
      (Piece.slotsOfAll pieces).isEmpty = true ∧ Piece.spacedAll pieces = true ∧
      Piece.committed [] pieces = true)
    ⟨fun ⟨hplain, hslots, hspaced, hcommitted⟩ =>
      ⟨fun _ hw => List.all_eq_true.1 (List.all_eq_true.1 hplain _ hw), List.isEmpty_iff.1 hslots,
        hspaced, hcommitted⟩,
    fun h =>
      ⟨List.all_eq_true.2 fun _ hw => List.all_eq_true.2 (h.plain _ hw),
        List.isEmpty_iff.2 h.slotless, h.spaced, h.committed⟩⟩

theorem Predictive.decisive {template : String} {pieces : List Piece} (h : Predictive pieces)
    (hparse : parse template = .ok pieces) : Decisive [] pieces := by
  refine ⟨fun w hw => ?_, h.slotless, h.spaced, h.committed⟩
  obtain ⟨hne, hlowered⟩ := words_of_parse hparse hw
  exact ⟨hne, h.plain w hw, hlowered⟩

/-- A predictive template compiles, and it matches exactly the lines whose words are, letter by
letter and whatever their case, those of one of its readings. -/
theorem predictive_matches_readings {template : String} {pieces : List Piece}
    (hparse : parse template = .ok pieces) (h : Predictive pieces) (scope scope' : Scope)
    (line : String) :
    ∃ pattern, compile scope template = .ok pattern ∧
      ((pattern.matchLine scope' line).isSome = true ↔
        ∃ reading ∈ Piece.readingsOfAll pieces,
          (words line.toList).map caseless = (Piece.wordsOfAll reading).map caseless) := by
  obtain ⟨parts, hparts⟩ := exists_compilePieces h.slotless scope .lineEnd
  refine ⟨.sequence (.gap :: parts ++ [.gap, .lineEnd]), ?_, ?_⟩
  · rw [compile, hparse]
    show compileLine scope pieces = _
    rw [compileLine, hparts]
    rfl
  · have hnone : ∀ v ∈ ([] : List (List Char)), Plain v := fun v hv => absurd hv List.not_mem_nil
    have hhead : ∀ v, ([] : List (List Char)).head? = some v → v ∈ [] := fun v hv => by cases hv
    have hiff := spellsReading_iff scope' (h.decisive hparse) hparts
      (Or.inr (trimStart_eq_nil_or_startsWord line.toList)) hnone hhead .empty
    simp only [SpellsReading, List.append_nil, spells_trimStart_iff, spells_nil_iff] at hiff
    show _ ↔ ∃ reading ∈ Piece.readingsOfAll pieces, Spells line.toList (Piece.wordsOfAll reading)
    rw [hiff, Option.isSome_iff_exists]
    constructor
    · rintro ⟨bindings, hline⟩
      obtain ⟨left, hmatch, hblank⟩ := matchLine_eq_some_iff.1 hline
      exact ⟨left, by rw [hmatch], hblank⟩
    · rintro ⟨left, hmatch, hblank⟩
      refine ⟨(matchEach scope' parts (trimStart line.toList) .empty).2,
        matchLine_eq_some_iff.2 ⟨left, ?_, hblank⟩⟩
      rw [← hmatch]

/-- Two groups, one within the other, and a line in one of the three phrasings. -/
theorem market_matches_readings :
    ∃ pieces, parse "go [to [the]] market" = .ok pieces ∧ Predictive pieces ∧
      ∃ pattern, compile {} "go [to [the]] market" = .ok pattern ∧
        ((pattern.matchLine {} " GO to\tMarket ").isSome = true ↔
          ∃ reading ∈ Piece.readingsOfAll pieces,
            (words " GO to\tMarket ".toList).map caseless =
              (Piece.wordsOfAll reading).map caseless) := by
  have hcheck : (parse "go [to [the]] market").toOption.any (fun pieces => Predictive pieces) = true := by
    decide +kernel
  obtain ⟨pieces, hparse, hpredictive⟩ := exists_ok_of_any hcheck
  have hpredictive := of_decide_eq_true hpredictive
  exact ⟨pieces, hparse, hpredictive, predictive_matches_readings hparse hpredictive {} {} _⟩

end Muster.Template
