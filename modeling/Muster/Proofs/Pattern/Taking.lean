import Muster.Proofs.Text.Lowering
import Muster.Pattern.Basic

/-!
# What a pattern takes off a text

The two nodes that take something are described here once. A word is taken if the text begins with
its letters and does not go on in a letter or digit (`takeWord_eq_some_iff`). Where a slot ends is a
question about the words of the text only: `splitBefore` answers it for a list of words, and
`findStop_eq_some`, `findStop_eq_none` say that the text is cut in the same place.
-/

namespace Muster.Pattern

open Muster.Text Muster.Unicode

/-! ## Words -/

/-- Letters are taken off a text that begins with them, whatever their case. -/
theorem takeLetters_eq_some_iff {word text rest : List Char} :
    takeLetters word text = some rest ↔
      ∃ taken, text = taken ++ rest ∧ caseless taken = caseless word := by
  induction word generalizing text with
  | nil =>
    rw [takeLetters, Option.some.injEq]
    constructor
    · rintro rfl
      exact ⟨[], rfl, rfl⟩
    · rintro ⟨taken, rfl, htaken⟩
      have hnil : taken = [] := List.map_eq_nil_iff.1 htaken
      rw [hnil, List.nil_append]
  | cons letter letters ih =>
    cases text with
    | nil =>
      rw [takeLetters]
      constructor
      · intro h
        cases h
      · rintro ⟨taken, htext, htaken⟩
        rw [(List.nil_eq_append_iff.1 htext).1] at htaken
        cases htaken
    | cons c cs =>
      rw [takeLetters]
      constructor
      · intro h
        split at h
        · next hc =>
          obtain ⟨taken, rfl, htaken⟩ := ih.1 h
          exact ⟨c :: taken, rfl, by rw [caseless_cons, caseless_cons, hc, htaken]⟩
        · cases h
      · rintro ⟨taken, htext, htaken⟩
        cases taken with
        | nil => cases htaken
        | cons d taken =>
          rw [List.cons_append, List.cons.injEq] at htext
          rw [caseless_cons, caseless_cons, List.cons.injEq] at htaken
          rw [if_pos (htext.1 ▸ htaken.1)]
          exact ih.2 ⟨taken, htext.2, htaken.2⟩

/-- A word is taken off a text that begins with its letters, unless it ends in a letter or digit and
the text goes on in one. -/
theorem takeWord_eq_some_iff {word text rest : List Char} :
    takeWord word text = some rest ↔
      ∃ taken, text = taken ++ rest ∧ caseless taken = caseless word ∧
        ¬ (endsAlphanumeric word = true ∧ startsAlphanumeric rest = true) := by
  unfold takeWord
  constructor
  · intro h
    split at h
    · next left hleft =>
      split at h
      · cases h
      · next hends =>
        cases h
        obtain ⟨taken, htext, htaken⟩ := takeLetters_eq_some_iff.1 hleft
        exact ⟨taken, htext, htaken, by simpa using hends⟩
    · cases h
  · rintro ⟨taken, htext, htaken, hends⟩
    rw [takeLetters_eq_some_iff.2 ⟨taken, htext, htaken⟩]
    exact if_neg (by simpa using hends)

/-- No letter or digit follows where no word begins. -/
theorem startsAlphanumeric_of_not_startsWord {text : List Char} (h : startsWord text = false) :
    startsAlphanumeric text = false := by
  cases text with
  | nil => rfl
  | cons c cs =>
    rw [startsWord_cons, Bool.not_eq_false'] at h
    exact isAlphanumeric_of_isWhite h

theorem isBlank_of_startsAlphanumeric {text : List Char} (h : startsAlphanumeric text = true) :
    isBlank text = false := by
  cases text with
  | nil => cases h
  | cons c cs =>
    have hc : isWhite c = false := by
      refine Bool.eq_false_iff.2 fun hwhite => ?_
      exact Bool.false_ne_true ((isAlphanumeric_of_isWhite hwhite).symm.trans h)
    rw [isBlank_cons, hc, Bool.false_and]

/-! ## Where a slot ends -/

/-- Splits words before the first one that equals `stop` in lowercase, where the very first word
does not count unless `seen` says that one has been passed. -/
def splitBefore (stop : List Char) (seen : Bool) :
    List (List Char) → Option (List (List Char) × List (List Char))
  | [] => none
  | w :: ws =>
    if seen && lowerText w == stop then some ([], w :: ws)
    else (splitBefore stop true ws).map fun (before, after) => (w :: before, after)

/-- The words before the split, of which the first does not count, are not the stop word, and the
first one after it is. -/
theorem splitBefore_eq_some {stop : List Char} {seen : Bool} {ws before after : List (List Char)}
    (h : splitBefore stop seen ws = some (before, after)) :
    (∀ w ∈ if seen then before else before.tail, lowerText w ≠ stop) ∧
      (seen = false → before ≠ []) ∧ ∃ w more, after = w :: more ∧ lowerText w = stop := by
  induction ws generalizing seen before with
  | nil => cases h
  | cons w ws ih =>
    rw [splitBefore] at h
    split at h
    · next hw =>
      cases h
      rw [Bool.and_eq_true, beq_iff_eq] at hw
      refine ⟨?_, fun hseen => ?_, w, ws, rfl, hw.2⟩
      · cases seen <;> simp
      · rw [hseen] at hw
        cases hw.1
    · next hw =>
      obtain ⟨⟨others, rest⟩, hrest, heq⟩ := Option.map_eq_some_iff.1 h
      cases heq
      obtain ⟨hothers, _, hafter⟩ := ih hrest
      refine ⟨?_, fun _ => List.cons_ne_nil _ _, hafter⟩
      cases seen with
      | false => exact hothers
      | true =>
        intro v hv
        rcases List.mem_cons.1 hv with rfl | hv
        · simpa using hw
        · exact hothers v hv

/-- A split keeps all words. -/
theorem append_of_splitBefore {stop : List Char} {seen : Bool} {ws before after : List (List Char)}
    (h : splitBefore stop seen ws = some (before, after)) : ws = before ++ after := by
  induction ws generalizing seen before with
  | nil => cases h
  | cons w ws ih =>
    rw [splitBefore] at h
    split at h
    · cases h
      rfl
    · obtain ⟨⟨others, rest⟩, hrest, heq⟩ := Option.map_eq_some_iff.1 h
      cases heq
      rw [ih hrest, List.cons_append]

/-- Words that cannot be split do not have the stop word, where the first does not count. -/
theorem splitBefore_eq_none {stop : List Char} {seen : Bool} {ws : List (List Char)}
    (h : splitBefore stop seen ws = none) :
    ∀ w ∈ if seen then ws else ws.tail, lowerText w ≠ stop := by
  induction ws generalizing seen with
  | nil => cases seen <;> simp
  | cons w ws ih =>
    rw [splitBefore] at h
    split at h
    · cases h
    · next hw =>
      have hothers := ih (Option.map_eq_none_iff.1 h)
      cases seen with
      | false => exact hothers
      | true =>
        intro v hv
        rcases List.mem_cons.1 hv with rfl | hv
        · simpa using hw
        · exact hothers v hv

/-- Words that agree up to the case of ASCII letters are split in the same place. -/
theorem splitBefore_congr (stop : List Char) (seen : Bool) {ws vs : List (List Char)}
    (h : ws.map (·.map Char.toLower) = vs.map (·.map Char.toLower)) :
    (splitBefore stop seen ws).map (fun split =>
        (split.1.map (·.map Char.toLower), split.2.map (·.map Char.toLower))) =
      (splitBefore stop seen vs).map fun split =>
        (split.1.map (·.map Char.toLower), split.2.map (·.map Char.toLower)) := by
  induction ws generalizing seen vs with
  | nil =>
    rw [List.map_nil] at h
    rw [List.map_eq_nil_iff.1 h.symm]
  | cons w ws ih =>
    cases vs with
    | nil => cases h
    | cons v vs =>
      rw [List.map_cons, List.map_cons, List.cons.injEq] at h
      rw [splitBefore, splitBefore, lowerText_congr h.1]
      by_cases hstop : (seen && lowerText v == stop) = true
      · rw [if_pos hstop, if_pos hstop]
        simp [h.1, h.2]
      · rw [if_neg hstop, if_neg hstop]
        have hrest := ih true h.2
        cases hws : splitBefore stop true ws <;> cases hvs : splitBefore stop true vs <;>
          simp_all

/-! ## Looking for the stop word -/

theorem findStop_of_isWhite {c : Char} (hc : isWhite c = true) (stop cs : List Char) (seen : Bool) :
    findStop stop false seen (c :: cs) = findStop stop false seen cs := by
  rw [findStop, if_pos hc]

/-- Within a word nothing is found. -/
theorem findStop_append (stop : List Char) {word rest : List Char}
    (hword : ∀ c ∈ word, isWhite c = false) (hrest : startsWord rest = false) :
    findStop stop true true (word ++ rest) = findStop stop false true rest := by
  induction word with
  | nil =>
    cases rest with
    | nil => rfl
    | cons c cs =>
      rw [startsWord_cons, Bool.not_eq_false'] at hrest
      rw [List.nil_append, findStop, findStop, if_pos hrest, if_pos hrest]
  | cons c cs ih =>
    have hc : isWhite c = false := hword c (by simp)
    rw [List.cons_append, findStop, if_neg (by simp [hc]), if_pos rfl]
    exact ih fun d hd => hword d (by simp [hd])

/-- The word at which a text begins is the stop word, or is passed. -/
theorem findStop_of_beginsWith {text word rest : List Char} (h : BeginsWith text word rest)
    (stop : List Char) (seen : Bool) :
    findStop stop false seen text =
      if seen && lowerText word == stop then some text else findStop stop false true rest := by
  obtain ⟨rfl, hne, hletters, hends⟩ := h
  obtain ⟨c, cs, rfl⟩ := List.exists_cons_of_ne_nil hne
  have hc : isWhite c = false := hletters c (by simp)
  have hcs : ∀ d ∈ cs, isWhite d = false := fun d hd => hletters d (by simp [hd])
  have htake : ((c :: cs) ++ rest).takeWhile (!isWhite ·) = c :: cs := by
    rw [List.takeWhile_append_of_pos fun d hd => by simp [hletters d hd]]
    cases rest with
    | nil => simp
    | cons d ds =>
      rw [startsWord_cons] at hends
      rw [List.takeWhile_cons_of_neg (by simp [hends]), List.append_nil]
  rw [List.cons_append] at htake ⊢
  rw [findStop, if_neg (by simp [hc]), if_neg (by simp), htake, findStop_append stop hcs hends]

/-- A text is cut before the word that the split of its words puts first. The part before that word
is empty or ends in white space. -/
theorem findStop_eq_some {stop text rest : List Char} {seen : Bool}
    (h : findStop stop false seen text = some rest) :
    ∃ filling, text = filling ++ rest ∧ startsWord rest = true ∧
      splitBefore stop seen (words text) = some (words filling, words rest) ∧
      (filling = [] ∨ filling.getLast?.any isWhite = true) := by
  induction text using wordsInduction generalizing seen with
  | nil => cases h
  | white c cs hc ih =>
    rw [findStop_of_isWhite hc] at h
    obtain ⟨filling, hcs, hrest, hsplit, hlast⟩ := ih h
    refine ⟨c :: filling, by rw [hcs, List.cons_append], hrest, ?_, Or.inr ?_⟩
    · rw [words_cons_of_isWhite hc, words_cons_of_isWhite hc, hsplit]
    · rcases hlast with rfl | hlast
      · exact hc
      · cases filling with
        | nil => exact hc
        | cons d ds => rwa [List.getLast?_cons_cons]
  | word s w more hs ih =>
    rw [findStop_of_beginsWith hs] at h
    rw [hs.words_eq, splitBefore]
    split at h
    · next hstop =>
      cases h
      refine ⟨[], rfl, ?_, ?_, Or.inl rfl⟩
      · obtain ⟨c, cs, rfl⟩ := List.exists_cons_of_ne_nil hs.ne_nil
        rw [hs.eq_append, List.cons_append, startsWord_cons, hs.letters c (by simp)]
        rfl
      · rw [if_pos hstop, hs.words_eq]
        rfl
    · next hstop =>
      obtain ⟨filling, hmore, hrest, hsplit, hlast⟩ := ih h
      -- what is left begins with a word, so white space parts it from the word passed
      have hne : filling ≠ [] := by
        rintro rfl
        have hends := hs.ends
        rw [hmore, List.nil_append, hrest] at hends
        cases hends
      have hbegins : BeginsWith (w ++ filling) w filling := by
        refine ⟨rfl, hs.ne_nil, hs.letters, ?_⟩
        have hends := hs.ends
        obtain ⟨c, cs, rfl⟩ := List.exists_cons_of_ne_nil hne
        rwa [hmore] at hends
      refine ⟨w ++ filling, ?_, hrest, ?_, Or.inr ?_⟩
      · rw [hs.eq_append, hmore, List.append_assoc]
      · rw [if_neg hstop, hsplit, hbegins.words_eq]
        rfl
      · have hwhite := hlast.resolve_left hne
        cases hc : filling.getLast? with
        | none => exact absurd (List.getLast?_eq_none_iff.1 hc) hne
        | some c => rwa [List.getLast?_append, hc, Option.some_or, ← hc]

/-- Where nothing is found, the words cannot be split. -/
theorem findStop_eq_none {stop text : List Char} {seen : Bool}
    (h : findStop stop false seen text = none) : splitBefore stop seen (words text) = none := by
  induction text using wordsInduction generalizing seen with
  | nil => rfl
  | white c cs hc ih =>
    rw [words_cons_of_isWhite hc]
    exact ih (by rwa [findStop_of_isWhite hc] at h)
  | word s w more hs ih =>
    rw [findStop_of_beginsWith hs] at h
    rw [hs.words_eq, splitBefore]
    split at h
    · cases h
    · next hstop => rw [if_neg hstop, ih h, Option.map_none]

/-- A filling is passed on the way to a stop word that it does not have, if the next word is parted
from it. -/
theorem findStop_append_of_passed {stop filling : List Char} {seen : Bool}
    (hothers : ∀ w ∈ if seen then words filling else (words filling).tail, lowerText w ≠ stop)
    (hparted : filling = [] ∨ filling.getLast?.any isWhite = true) (rest : List Char) :
    findStop stop false seen (filling ++ rest) =
      findStop stop false (seen || !isBlank filling) rest := by
  induction filling using wordsInduction generalizing seen with
  | nil => rw [isBlank_nil, Bool.not_true, Bool.or_false, List.nil_append]
  | white c cs hc ih =>
    have hlater : cs = [] ∨ cs.getLast?.any isWhite = true := by
      cases cs with
      | nil => exact Or.inl rfl
      | cons d ds =>
        rw [List.getLast?_cons_cons] at hparted
        exact Or.inr (hparted.resolve_left (List.cons_ne_nil _ _))
    rw [words_cons_of_isWhite hc] at hothers
    rw [List.cons_append, findStop_of_isWhite hc, ih hothers hlater, isBlank_cons, hc, Bool.true_and]
  | word s w more hs ih =>
    have hwhite : s.getLast?.any isWhite = true := by
      refine hparted.resolve_left fun hnil => hs.ne_nil ?_
      have happend := hs.eq_append
      rw [hnil] at happend
      exact (List.append_eq_nil_iff.1 happend.symm).1
    -- the last letter is white, so the word is not all there is
    have hmore : more ≠ [] := by
      rintro rfl
      have happend := hs.eq_append
      rw [List.append_nil] at happend
      rw [happend, List.getLast?_eq_some_getLast hs.ne_nil] at hwhite
      have hletter := hs.letters _ (List.getLast_mem hs.ne_nil)
      exact Bool.false_ne_true (hletter.symm.trans hwhite)
    have hlater : more.getLast?.any isWhite = true := by
      obtain ⟨c, cs, rfl⟩ := List.exists_cons_of_ne_nil hmore
      rwa [hs.eq_append, List.getLast?_append, List.getLast?_cons, Option.some_or,
        ← List.getLast?_cons] at hwhite
    have hbegins : BeginsWith (s ++ rest) w (more ++ rest) := by
      refine ⟨by rw [hs.eq_append, List.append_assoc], hs.ne_nil, hs.letters, ?_⟩
      obtain ⟨c, cs, rfl⟩ := List.exists_cons_of_ne_nil hmore
      exact hs.ends
    have hfull : isBlank s = false := by
      refine Bool.eq_false_iff.2 fun hblank => ?_
      have hnone := (words_eq_nil_iff s).2 hblank
      rw [hs.words_eq] at hnone
      cases hnone
    rw [hs.words_eq] at hothers
    have hnext : ∀ v ∈ if true then words more else (words more).tail, lowerText v ≠ stop := by
      cases seen with
      | false => exact hothers
      | true => exact fun v hv => hothers v (List.mem_cons_of_mem _ hv)
    have hpassed : ¬ (seen && lowerText w == stop) = true := by
      cases seen with
      | false => exact Bool.false_ne_true
      | true => simpa using hothers w List.mem_cons_self
    rw [findStop_of_beginsWith hbegins, if_neg hpassed, ih hnext (Or.inr hlater), hfull, Bool.true_or,
      Bool.not_false, Bool.or_true]

/-! ## Slots -/

/-- A slot takes what stands before its end, unless that is blank. -/
theorem takeSlot_append {stop : Option (List Char)} {filling rest : List Char}
    (h : slotRest? stop (filling ++ rest) = some rest) :
    takeSlot stop (filling ++ rest) = if isBlank filling then none else some (filling, rest) := by
  have hfilling : (filling ++ rest).take ((filling ++ rest).length - rest.length) = filling := by
    rw [List.length_append, Nat.add_sub_cancel, List.take_left]
  unfold takeSlot
  simp only [h, hfilling]

/-- A slot without a stop word takes all there is. -/
theorem takeSlot_none (text : List Char) :
    takeSlot none text = if isBlank text then none else some (text, []) := by
  have hall : slotRest? none (text ++ []) = some [] := rfl
  have h := takeSlot_append hall
  rwa [List.append_nil] at h

/-- A slot with a stop word takes the text before the split of its words. -/
theorem takeSlot_some_eq_some {stop text filling rest : List Char}
    (h : takeSlot (some stop) text = some (filling, rest)) :
    text = filling ++ rest ∧ startsWord rest = true ∧
      splitBefore stop false (words text) = some (words filling, words rest) ∧
      filling.getLast?.any isWhite = true := by
  cases hstop : findStop stop false false text with
  | none =>
    have hnone : takeSlot (some stop) text = none := by
      unfold takeSlot slotRest?
      simp only [hstop]
    rw [hnone] at h
    cases h
  | some left =>
    obtain ⟨before, rfl, hrest, hsplit, hlast⟩ := findStop_eq_some hstop
    have hleft : slotRest? (some stop) (before ++ left) = some left := hstop
    rw [takeSlot_append hleft] at h
    split at h
    · cases h
    · next hblank =>
      cases h
      refine ⟨rfl, hrest, hsplit, hlast.resolve_left ?_⟩
      rintro rfl
      exact hblank rfl

/-- A slot takes nothing only if the words of the text cannot be split before its stop word. -/
theorem takeSlot_some_eq_none {stop text : List Char} (h : takeSlot (some stop) text = none) :
    splitBefore stop false (words text) = none := by
  cases hstop : findStop stop false false text with
  | none => exact findStop_eq_none hstop
  | some left =>
    obtain ⟨before, rfl, _, hsplit, _⟩ := findStop_eq_some hstop
    have hleft : slotRest? (some stop) (before ++ left) = some left := hstop
    rw [takeSlot_append hleft] at h
    split at h
    · next hblank =>
      -- the first word never counts, so there is one before the split
      exact absurd ((words_eq_nil_iff before).2 hblank) ((splitBefore_eq_some hsplit).2.1 rfl)
    · cases h

end Muster.Pattern
