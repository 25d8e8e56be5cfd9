import Muster.Pattern.Offsets
import Muster.Proofs.Pattern.Taking

/-!
# No cut misses a character

A matcher that goes along a line by byte positions (`Pattern.walk`) moves them in five ways: past
the letters of a word as they stand in the line, past white space, to the beginning of a stop word,
to the end of the line, or not at all; and it cuts the line at each of them. Main statement:
`walk_never_miscuts`. Every position that it comes to begins a character of the line or ends the
line, so that no cut fails, and what it finds is what `Pattern.matchText` finds.
-/

namespace Muster

open Muster.Text Muster.Unicode

namespace Text

/-! ## Cutting a text -/

theorem takeBytes?_append (s t : List Char) : takeBytes? (s ++ t) (byteLength s) = some s := by
  induction s with
  | nil => simp [takeBytes?]
  | cons c cs ih =>
    have hc : 0 < c.utf8Size := c.utf8Size_pos
    obtain ⟨n, hn⟩ : ∃ n, c.utf8Size + byteLength cs = n + 1 :=
      ⟨c.utf8Size + byteLength cs - 1, by omega⟩
    have hle : c.utf8Size ≤ n + 1 := by omega
    have hrest : n + 1 - c.utf8Size = byteLength cs := by omega
    simp [takeBytes?, hn, hle, hrest, ih]

theorem dropBytes?_eq_some_iff {s t : List Char} {n : Nat} :
    dropBytes? s n = some t ↔ ∃ before, s = before ++ t ∧ n = byteLength before := by
  constructor
  · intro h
    induction s generalizing n with
    | nil =>
      cases n with
      | zero => exact ⟨[], by simpa [dropBytes?] using h, rfl⟩
      | succ n => simp [dropBytes?] at h
    | cons c cs ih =>
      cases n with
      | zero => exact ⟨[], by simpa [dropBytes?] using h, rfl⟩
      | succ n =>
        rw [dropBytes?] at h
        split at h
        · next hle =>
          obtain ⟨before, hcs, hn⟩ := ih h
          refine ⟨c :: before, by rw [hcs, List.cons_append], ?_⟩
          simp only [byteLength_cons]
          omega
        · cases h
  · rintro ⟨before, rfl, rfl⟩
    exact dropBytes?_append before t

theorem takeBytes?_eq_some_iff {s t : List Char} {n : Nat} :
    takeBytes? s n = some t ↔ ∃ after, s = t ++ after ∧ n = byteLength t := by
  constructor
  · intro h
    induction s generalizing n t with
    | nil =>
      cases n with
      | zero =>
        have ht : [] = t := by simpa [takeBytes?] using h
        exact ⟨[], by simp [← ht], by simp [← ht]⟩
      | succ n => simp [takeBytes?] at h
    | cons c cs ih =>
      cases n with
      | zero =>
        have ht : [] = t := by simpa [takeBytes?] using h
        exact ⟨c :: cs, by simp [← ht], by simp [← ht]⟩
      | succ n =>
        rw [takeBytes?] at h
        split at h
        · next hle =>
          obtain ⟨more, hmore, rfl⟩ := Option.map_eq_some_iff.1 h
          obtain ⟨after, hcs, hn⟩ := ih hmore
          refine ⟨after, by rw [hcs, List.cons_append], ?_⟩
          simp only [byteLength_cons]
          omega
        · cases h
  · rintro ⟨after, rfl, rfl⟩
    exact takeBytes?_append t after

/-- A cut gives what stands between the two positions, each of which follows some whole
characters. -/
theorem slice?_eq_some_iff {text part : List Char} {first last : Nat} :
    slice? text first last = some part ↔ ∃ before after, text = before ++ part ++ after ∧
      first = byteLength before ∧ last = byteLength (before ++ part) := by
  unfold slice?
  constructor
  · intro h
    split at h
    · next hle =>
      obtain ⟨rest, hdrop, htake⟩ := Option.bind_eq_some_iff.1 h
      obtain ⟨before, htext, hfirst⟩ := dropBytes?_eq_some_iff.1 hdrop
      obtain ⟨after, hrest, hlast⟩ := takeBytes?_eq_some_iff.1 htake
      refine ⟨before, after, by rw [htext, hrest, List.append_assoc], hfirst, ?_⟩
      simp only [byteLength_append]
      omega
    · cases h
  · rintro ⟨before, after, rfl, rfl, rfl⟩
    have hle : byteLength before ≤ byteLength (before ++ part) := by simp
    have hlength : byteLength (before ++ part) - byteLength before = byteLength part := by simp
    rw [if_pos hle, List.append_assoc, dropBytes?_append, Option.bind_some, hlength,
      takeBytes?_append]

theorem sliceFrom?_append (before rest : List Char) :
    sliceFrom? (before ++ rest) (byteLength before) = some rest :=
  slice?_eq_some_iff.2 ⟨before, [], by simp, rfl, rfl⟩

theorem byteLength_toList (s : String) : byteLength s.toList = s.utf8ByteSize := by
  have hlist : ∀ cs : List Char, byteLength cs = (String.ofList cs).utf8ByteSize := by
    intro cs
    induction cs with
    | nil => rfl
    | cons c cs ih => simp [ih, String.ofList_cons]
  rw [hlist, String.ofList_toList]

/-- A byte position is valid in a text if it follows some whole characters. -/
theorem isValid_iff_exists_append {s : String} {n : Nat} :
    String.Pos.Raw.IsValid s ⟨n⟩ ↔ ∃ before rest, s.toList = before ++ rest ∧
      n = byteLength before := by
  rw [String.Pos.Raw.isValid_iff_exists_append]
  constructor
  · rintro ⟨before, rest, rfl, hn⟩
    refine ⟨before.toList, rest.toList, String.toList_append, ?_⟩
    rw [byteLength_toList]
    exact congrArg String.Pos.Raw.byteIdx hn
  · rintro ⟨before, rest, hs, rfl⟩
    refine ⟨String.ofList before, String.ofList rest, ?_, ?_⟩
    · rw [← String.ofList_append, ← hs, String.ofList_toList]
    · have hbefore := byteLength_toList (String.ofList before)
      rw [String.toList_ofList] at hbefore
      rw [hbefore]
      rfl

/-- A cut fails exactly when the positions are out of order or one of them is not valid. -/
theorem isSome_slice?_iff {s : String} {first last : Nat} :
    (slice? s.toList first last).isSome = true ↔ first ≤ last ∧
      String.Pos.Raw.IsValid s ⟨first⟩ ∧ String.Pos.Raw.IsValid s ⟨last⟩ := by
  rw [Option.isSome_iff_exists, isValid_iff_exists_append, isValid_iff_exists_append]
  constructor
  · rintro ⟨part, h⟩
    obtain ⟨before, after, htext, hfirst, hlast⟩ := slice?_eq_some_iff.1 h
    refine ⟨?_, ⟨before, part ++ after, by rw [htext, List.append_assoc], hfirst⟩,
      ⟨before ++ part, after, htext, hlast⟩⟩
    rw [hfirst, hlast, byteLength_append]
    omega
  · rintro ⟨hle, ⟨before, rest, hbefore, hfirst⟩, ⟨upto, after, hupto, hlast⟩⟩
    -- of two parts that the text begins with, the shorter one begins the longer one
    have heq : before ++ rest = upto ++ after := by rw [← hbefore, hupto]
    rcases List.append_eq_append_iff.1 heq with ⟨part, rfl, rfl⟩ | ⟨part, rfl, rfl⟩
    · exact ⟨part, slice?_eq_some_iff.2 ⟨before, after, hupto, hfirst, hlast⟩⟩
    · -- then the two positions are the same
      rw [byteLength_append] at hfirst
      have hpart : byteLength part = 0 := by omega
      have hnil : part = [] := by
        cases part with
        | nil => rfl
        | cons c cs =>
          have hc : 0 < c.utf8Size := c.utf8Size_pos
          rw [byteLength_cons] at hpart
          omega
      subst hnil
      refine ⟨[], slice?_eq_some_iff.2 ⟨upto, rest, hbefore, ?_, ?_⟩⟩
      · rw [hfirst, byteLength_nil, Nat.add_zero]
      · rw [hlast, List.append_nil]

/-- The word at which a text begins goes on up to the next white space. -/
theorem BeginsWith.takeWhile_eq {s word rest : List Char} (h : BeginsWith s word rest) :
    s.takeWhile (!isWhite ·) = word := by
  obtain ⟨rfl, _, hletters, hends⟩ := h
  rw [List.takeWhile_append_of_pos fun c hc => by simp [hletters c hc]]
  cases rest with
  | nil => simp
  | cons d ds =>
    have hd : isWhite d = true := by simpa using hends
    rw [List.takeWhile_cons_of_neg (by simp [hd]), List.append_nil]

/-- The first word of a text that begins with one. -/
theorem headD_words {c : Char} (hc : isWhite c = false) (cs : List Char) :
    (words (c :: cs)).headD [] = (c :: cs).takeWhile (!isWhite ·) := by
  have hstarts : startsWord (c :: cs) = true := by simp [hc]
  obtain ⟨word, rest, h⟩ := exists_beginsWith hstarts
  rw [h.words_eq, h.takeWhile_eq]
  rfl

end Text

namespace Pattern

/-! ## Words and slots -/

/-- Past the letters of a word, the position is as far from the end as the rest is long. -/
theorem lettersEnd_eq (position : Nat) (word text : List Char) :
    lettersEnd position word (positioned position text) =
      (takeLetters word text).map fun rest => position + byteLength text - byteLength rest := by
  induction word generalizing position text with
  | nil => simp [lettersEnd, takeLetters]
  | cons letter letters ih =>
    cases text with
    | nil => rfl
    | cons c cs =>
      rw [positioned, lettersEnd, takeLetters]
      by_cases hc : lowerChar c = lowerChar letter
      · rw [if_pos hc, if_pos hc, ih]
        simp only [byteLength_cons, Nat.add_assoc]
      · rw [if_neg hc, if_neg hc]
        rfl

theorem wordEnd_eq (word text : List Char) :
    wordEnd word text =
      some ((takeWord word text).map fun rest => byteLength text - byteLength rest) := by
  unfold wordEnd takeWord
  rw [lettersEnd_eq]
  cases htake : takeLetters word text with
  | none => rfl
  | some rest =>
    obtain ⟨taken, rfl, _⟩ := takeLetters_eq_some_iff.1 htake
    have hlast : 0 + byteLength (taken ++ rest) - byteLength rest = byteLength taken := by
      rw [byteLength_append]
      omega
    simp only [Option.map_some, hlast, sliceFrom?_append, Option.bind_eq_bind, Option.bind_some]
    by_cases hends : (endsAlphanumeric word && startsAlphanumeric rest) = true
    · rw [if_pos hends, if_pos hends]
      rfl
    · rw [if_neg hends, if_neg hends, Option.map_some, byteLength_append, Nat.add_sub_cancel]
      rfl

/-- What is left when the stop word has been found begins at its position. -/
theorem stopStart_eq (stop before rest : List Char) (inWord seen : Bool) :
    stopStart stop (before ++ rest) (!inWord) seen (positioned (byteLength before) rest) =
      some ((findStop stop inWord seen rest).map fun left =>
        byteLength (before ++ rest) - byteLength left) := by
  induction rest generalizing before inWord seen with
  | nil => rfl
  | cons c cs ih =>
    -- the characters after this one have their positions in the same text
    have hnext := ih (before ++ [c])
    simp only [List.append_assoc, List.singleton_append, byteLength_append, byteLength_cons,
      byteLength_nil, Nat.add_zero] at hnext
    have hlength : byteLength before + (c.utf8Size + byteLength cs) =
        byteLength (before ++ c :: cs) := by
      rw [byteLength_append, byteLength_cons]
    rw [hlength] at hnext
    rw [positioned, stopStart, findStop]
    by_cases hc : isWhite c = true
    · have hwhite := hnext false seen
      rw [Bool.not_false] at hwhite
      have hbegins : (!inWord && !isWhite c) = false := by rw [hc, Bool.not_true, Bool.and_false]
      rw [hbegins, if_neg Bool.false_ne_true, hc, if_pos rfl, hwhite]
    · rw [Bool.not_eq_true] at hc
      have hbegins : (!inWord && !isWhite c) = !inWord := by rw [hc, Bool.not_false, Bool.and_true]
      rw [hbegins, hc, if_neg Bool.false_ne_true]
      cases inWord with
      | true =>
        have hinside := hnext true seen
        rw [Bool.not_true] at hinside
        rw [Bool.not_true, if_neg Bool.false_ne_true, if_pos rfl, hinside]
      | false =>
        have hpassed := hnext true true
        rw [Bool.not_true] at hpassed
        rw [Bool.not_false, if_pos rfl, if_neg Bool.false_ne_true]
        cases seen with
        | false =>
          rw [if_neg Bool.false_ne_true, hpassed, Bool.false_and, if_neg Bool.false_ne_true]
        | true =>
          rw [if_pos rfl, sliceFrom?_append, Bool.true_and]
          simp only [Option.bind_eq_bind, Option.bind_some, headD_words hc]
          by_cases hstop : (lowerText ((c :: cs).takeWhile (!isWhite ·)) == stop) = true
          · rw [if_pos hstop, if_pos hstop, Option.map_some, byteLength_append,
              Nat.add_sub_cancel]
            rfl
          · rw [if_neg hstop, if_neg hstop, hpassed]

/-- A slot ends where what it leaves begins. -/
theorem slotEnd_eq (stop : Option (List Char)) (before text : List Char) :
    (takeSlot stop text = none ∧ slotEnd stop (before ++ text) (byteLength before) = some none) ∨
      ∃ filling rest, takeSlot stop text = some (filling, rest) ∧ text = filling ++ rest ∧
        slotEnd stop (before ++ text) (byteLength before) =
          some (some (byteLength (before ++ filling))) := by
  -- once it is known where the slot would end, it only matters whether the filling is blank
  have hlimit : ∀ filling rest : List Char, text = filling ++ rest →
      slotRest? stop text = some rest →
      slotLimit stop (before ++ text) (byteLength before) =
        some (some (byteLength (before ++ filling))) →
      (takeSlot stop text = none ∧
        slotEnd stop (before ++ text) (byteLength before) = some none) ∨
      ∃ filling rest, takeSlot stop text = some (filling, rest) ∧ text = filling ++ rest ∧
        slotEnd stop (before ++ text) (byteLength before) =
          some (some (byteLength (before ++ filling))) := by
    intro filling rest htext hrest hend
    have hslice : slice? (before ++ text) (byteLength before) (byteLength (before ++ filling)) =
        some filling :=
      slice?_eq_some_iff.2 ⟨before, rest, by rw [htext, List.append_assoc], rfl, rfl⟩
    have htake : takeSlot stop text = if isBlank filling then none else some (filling, rest) := by
      rw [htext] at hrest ⊢
      exact takeSlot_append hrest
    have hslot : slotEnd stop (before ++ text) (byteLength before) =
        some (if isBlank filling then none else some (byteLength (before ++ filling))) := by
      unfold slotEnd
      simp only [hend, hslice, Option.bind_eq_bind, Option.bind_some]
      rfl
    rw [htake, hslot]
    by_cases hblank : isBlank filling = true
    · exact Or.inl ⟨if_pos hblank, by rw [if_pos hblank]⟩
    · exact Or.inr ⟨filling, rest, if_neg hblank, htext, by rw [if_neg hblank]⟩
  cases stop with
  | none =>
    refine hlimit text [] (by simp) rfl ?_
    unfold slotLimit
    simp only [sliceFrom?_append, Option.bind_eq_bind, Option.bind_some]
    rfl
  | some word =>
    have hstart := stopStart_eq word [] text false false
    simp only [List.nil_append, byteLength_nil, Bool.not_false] at hstart
    cases hfind : findStop word false false text with
    | none =>
      refine Or.inl ⟨?_, ?_⟩
      · unfold takeSlot slotRest?
        simp only [hfind]
      · unfold slotEnd slotLimit
        simp only [sliceFrom?_append, hstart, hfind, Option.bind_eq_bind, Option.bind_some,
          Option.map_none]
        rfl
    | some rest =>
      obtain ⟨filling, htext, _⟩ := findStop_eq_some hfind
      refine hlimit filling rest htext hfind ?_
      have hlast : byteLength text - byteLength rest = byteLength filling := by
        rw [htext, byteLength_append, Nat.add_sub_cancel]
      unfold slotLimit
      simp only [sliceFrom?_append, hstart, hfind, Option.bind_eq_bind, Option.bind_some,
        Option.map_some, hlast, byteLength_append]
      rfl

/-! ## Going along a line -/

/-- What is found from a position of a line on, once by positions and once by what is left: either
both find nothing, or the new position is where what is left begins, and not before the old one. -/
inductive Tracks (line : List Char) (position : Nat) :
    Option (Option Nat × Bindings) → Option (List Char) × Bindings → Prop
  | hit {passed rest : List Char} {filled : Bindings} (line_eq : line = passed ++ rest)
      (not_before : position ≤ byteLength passed) :
      Tracks line position (some (some (byteLength passed), filled)) (some rest, filled)
  | miss {filled : Bindings} : Tracks line position (some (none, filled)) (none, filled)

/-- What is found from a later position on is found from an earlier one on. -/
theorem Tracks.of_le {line : List Char} {earlier later : Nat} (hle : earlier ≤ later)
    {walked : Option (Option Nat × Bindings)} {matched : Option (List Char) × Bindings}
    (h : Tracks line later walked matched) : Tracks line earlier walked matched := by
  cases h with
  | hit line_eq not_before => exact .hit line_eq (Nat.le_trans hle not_before)
  | miss => exact .miss

/-- A word is taken where it stands. -/
theorem tracks_word (scope : Scope) (before text word : List Char) (bindings : Bindings) :
    Tracks (before ++ text) (byteLength before)
      (walk scope (before ++ text) (.literal word) (byteLength before) bindings)
      (matchText scope (.literal word) text bindings) := by
  simp only [walk, matchText, sliceFrom?_append, wordEnd_eq, Option.bind_eq_bind, Option.bind_some]
  cases htake : takeWord word text with
  | none => exact .miss
  | some rest =>
    obtain ⟨taken, rfl, _⟩ := takeWord_eq_some_iff.1 htake
    have hlast : byteLength before + (byteLength (taken ++ rest) - byteLength rest) =
        byteLength (before ++ taken) := by
      simp only [byteLength_append]
      omega
    simp only [Option.map_some, hlast]
    exact .hit (List.append_assoc ..).symm (by simp)

/-- White space is skipped as far as it goes. -/
theorem tracks_gap (scope : Scope) (before text : List Char) (bindings : Bindings) :
    Tracks (before ++ text) (byteLength before)
      (walk scope (before ++ text) .gap (byteLength before) bindings)
      (matchText scope .gap text bindings) := by
  simp only [walk, matchText, sliceFrom?_append, Option.bind_eq_bind, Option.bind_some]
  rw [← byteLength_append]
  refine .hit ?_ (by simp)
  rw [List.append_assoc, trimStart, List.takeWhile_append_dropWhile]

/-- A slot takes what stands between its two positions. -/
theorem tracks_slot (scope : Scope) (before text : List Char) (kind : SlotKind)
    (stop : Option (List Char)) (bindings : Bindings) :
    Tracks (before ++ text) (byteLength before)
      (walk scope (before ++ text) (.slot kind stop) (byteLength before) bindings)
      (matchText scope (.slot kind stop) text bindings) := by
  rcases slotEnd_eq stop before text with ⟨htake, hend⟩ | ⟨filling, rest, htake, htext, hend⟩
  · simp only [walk, matchText, htake, hend, Option.bind_eq_bind, Option.bind_some]
    exact .miss
  · have hslice : slice? (before ++ text) (byteLength before) (byteLength (before ++ filling)) =
        some filling :=
      slice?_eq_some_iff.2 ⟨before, rest, by rw [htext, List.append_assoc], rfl, rfl⟩
    simp only [walk, matchText, htake, hend, hslice, Option.bind_eq_bind, Option.bind_some]
    exact .hit (by rw [htext, List.append_assoc]) (by simp)

mutual

theorem tracks_walk (scope : Scope) (pattern : Pattern) (before text : List Char)
    (bindings : Bindings) :
    Tracks (before ++ text) (byteLength before)
      (walk scope (before ++ text) pattern (byteLength before) bindings)
      (matchText scope pattern text bindings) := by
  cases pattern with
  | literal word => exact tracks_word scope before text word bindings
  | gap => exact tracks_gap scope before text bindings
  | sequence parts =>
    rw [walk, matchText]
    exact tracks_walkEach scope parts before text bindings
  | choice ways =>
    rw [walk, matchText]
    exact tracks_walkFirst scope ways before text bindings
  | optional part =>
    have hpart := tracks_walk scope part before text bindings
    rw [walk, matchText]
    generalize walk scope (before ++ text) part (byteLength before) bindings = walked,
      matchText scope part text bindings = matched at hpart ⊢
    cases hpart with
    | hit line_eq not_before => exact .hit line_eq not_before
    | miss => exact .hit rfl (Nat.le_refl _)
  | slot kind stop => exact tracks_slot scope before text kind stop bindings
  | lineEnd =>
    rw [walk, matchText]
    cases text with
    | nil =>
      rw [if_pos (by rw [List.append_nil]), List.isEmpty_nil, if_pos rfl]
      exact .hit rfl (Nat.le_refl _)
    | cons c cs =>
      have hc : 0 < c.utf8Size := c.utf8Size_pos
      have hinside : byteLength before ≠ byteLength (before ++ c :: cs) := by
        rw [byteLength_append, byteLength_cons]
        omega
      rw [if_neg hinside, List.isEmpty_cons, if_neg Bool.false_ne_true]
      exact .miss

theorem tracks_walkEach (scope : Scope) (parts : List Pattern) (before text : List Char)
    (bindings : Bindings) :
    Tracks (before ++ text) (byteLength before)
      (walkEach scope (before ++ text) parts (byteLength before) bindings)
      (matchEach scope parts text bindings) := by
  cases parts with
  | nil =>
    rw [walkEach, matchEach]
    exact .hit rfl (Nat.le_refl _)
  | cons part parts =>
    have hpart := tracks_walk scope part before text bindings
    rw [walkEach, matchEach]
    generalize walk scope (before ++ text) part (byteLength before) bindings = walked,
      matchText scope part text bindings = matched at hpart ⊢
    cases hpart with
    | @hit passed rest filled line_eq not_before =>
      have hparts := tracks_walkEach scope parts passed rest filled
      rw [← line_eq] at hparts
      exact hparts.of_le not_before
    | miss => exact .miss

theorem tracks_walkFirst (scope : Scope) (ways : List Pattern) (before text : List Char)
    (bindings : Bindings) :
    Tracks (before ++ text) (byteLength before)
      (walkFirst scope (before ++ text) ways (byteLength before) bindings)
      (matchFirst scope ways text bindings) := by
  cases ways with
  | nil =>
    rw [walkFirst, matchFirst]
    exact .miss
  | cons way ways =>
    have hway := tracks_walk scope way before text bindings
    rw [walkFirst, matchFirst]
    generalize walk scope (before ++ text) way (byteLength before) bindings = walked,
      matchText scope way text bindings = matched at hway ⊢
    cases hway with
    | hit line_eq not_before => exact .hit line_eq not_before
    | miss => exact tracks_walkFirst scope ways before text bindings

end

/-- From a valid position of a line on, a pattern is matched without an impossible cut, up to a
valid position that is not before the first one. -/
theorem walk_eq (scope : Scope) (pattern : Pattern) {line : String} {position : Nat}
    (hposition : String.Pos.Raw.IsValid line ⟨position⟩) (bindings : Bindings) :
    walk scope line.toList pattern position bindings =
        some (pattern.matchAt scope line position bindings) ∧
      ∀ last, (pattern.matchAt scope line position bindings).1 = some last →
        position ≤ last ∧ last ≤ line.utf8ByteSize ∧ String.Pos.Raw.IsValid line ⟨last⟩ := by
  obtain ⟨before, text, hline, rfl⟩ := isValid_iff_exists_append.1 hposition
  have htracks := tracks_walk scope pattern before text bindings
  have hlength : line.utf8ByteSize = byteLength (before ++ text) := by
    rw [← byteLength_toList, hline]
  unfold matchAt
  rw [hline, dropBytes?_append, hlength]
  simp only [isValid_iff_exists_append, hline]
  generalize walk scope (before ++ text) pattern (byteLength before) bindings = walked,
    matchText scope pattern text bindings = matched at htracks ⊢
  cases htracks with
  | @hit passed rest filled line_eq not_before =>
    have hlast : byteLength (before ++ text) - byteLength rest = byteLength passed := by
      rw [line_eq, byteLength_append, Nat.add_sub_cancel]
    simp only [Option.map_some, hlast, Option.some.injEq]
    refine ⟨trivial, ?_⟩
    rintro last rfl
    refine ⟨not_before, ?_, passed, rest, line_eq, rfl⟩
    rw [line_eq, byteLength_append]
    exact Nat.le_add_right _ _
  | miss => exact ⟨rfl, fun last h => by cases h⟩

/-- A whole line is matched without an impossible cut. -/
theorem walkLine_eq (scope : Scope) (pattern : Pattern) (line : String) :
    walkLine scope pattern line.toList = some (pattern.matchLine scope line) := by
  have htracks := tracks_walk scope pattern [] line.toList .empty
  rw [List.nil_append, byteLength_nil] at htracks
  unfold walkLine matchLine
  generalize walk scope line.toList pattern 0 .empty = walked,
    matchText scope pattern line.toList .empty = matched at htracks ⊢
  cases htracks with
  | @hit passed rest filled line_eq not_before =>
    simp only [Option.bind_eq_bind, Option.bind_some]
    cases rest with
    | nil =>
      rw [List.append_nil] at line_eq
      rw [if_pos (by rw [line_eq])]
      rfl
    | cons c cs =>
      have hc : 0 < c.utf8Size := c.utf8Size_pos
      have hinside : byteLength passed ≠ byteLength line.toList := by
        rw [line_eq, byteLength_append, byteLength_cons]
        omega
      rw [if_neg hinside]
      rfl
  | miss => rfl

end Pattern

namespace CommandSet

variable {H : Type}

theorem walkCommands_eq (scope : Scope) (line : String) (commands : List (Command H)) :
    walkCommands scope line.toList commands =
      some (commands.filterMap fun command =>
        (command.pattern.matchLine scope line).map fun bindings => (command, bindings)) := by
  induction commands with
  | nil => rfl
  | cons command commands ih =>
    simp only [walkCommands, Pattern.walkLine_eq, ih, Option.bind_eq_bind, Option.bind_some]
    cases hmatch : command.pattern.matchLine scope line with
    | none => simp [hmatch]
    | some bindings => simp [hmatch]

theorem walkDispatch_eq (set : CommandSet H) (scope : Scope) (line : String) :
    set.walkDispatch scope line.toList = some (set.dispatch scope line) := by
  have haccepting : walkCommands scope line.toList set.commands = some (set.accepting scope line) :=
    walkCommands_eq scope line set.commands
  rw [walkDispatch, dispatch, haccepting]
  rcases set.accepting scope line with _ | ⟨⟨command, bindings⟩, _ | ⟨other, others⟩⟩ <;> rfl

end CommandSet

namespace Pattern

/-- No cut misses a character: from every valid position of a line on, every pattern is matched by
cuts that are possible, and when it does match, it matches up to a valid position of the line that
is not before the first one. So a whole line is always matched, and a command always looked for,
without an impossible cut. -/
theorem walk_never_miscuts (scope : Scope) (line : String) :
    (∀ (pattern : Pattern) (position : Nat) (bindings : Bindings),
      String.Pos.Raw.IsValid line ⟨position⟩ →
        walk scope line.toList pattern position bindings =
            some (pattern.matchAt scope line position bindings) ∧
          ∀ last, (pattern.matchAt scope line position bindings).1 = some last →
            position ≤ last ∧ last ≤ line.utf8ByteSize ∧ String.Pos.Raw.IsValid line ⟨last⟩) ∧
      (∀ pattern : Pattern,
        walkLine scope pattern line.toList = some (pattern.matchLine scope line)) ∧
      ∀ (H : Type) (set : CommandSet H),
        set.walkDispatch scope line.toList = some (set.dispatch scope line) :=
  ⟨fun pattern _ bindings hposition => walk_eq scope pattern hposition bindings,
    fun pattern => walkLine_eq scope pattern line,
    fun _ set => set.walkDispatch_eq scope line⟩

/-- Capitals of two bytes are compared with small letters, from a position inside the line on. -/
theorem walk_never_miscuts_capitals :
    let line := "ñ Ωmega ΣΤΟ Été"
    let pattern := Pattern.sequence
      [.slot .name (some "στο".toList), .literal "στο".toList, .gap, .literal "été".toList, .lineEnd]
    String.Pos.Raw.IsValid line ⟨3⟩ ∧ (pattern.matchAt {} line 3 .empty).1 = some 22 ∧
      (walk {} line.toList pattern 3 .empty).map (·.1) = some (some 22) ∧
      3 ≤ 22 ∧ 22 ≤ line.utf8ByteSize ∧ String.Pos.Raw.IsValid line ⟨22⟩ := by
  intro line pattern
  have hvalid : String.Pos.Raw.IsValid line ⟨3⟩ :=
    isValid_iff_exists_append.2 ⟨"ñ ".toList, "Ωmega ΣΤΟ Été".toList, by decide +kernel,
      by decide +kernel⟩
  have hlast : (pattern.matchAt {} line 3 .empty).1 = some 22 := by decide +kernel
  obtain ⟨hwalk, hend⟩ := (walk_never_miscuts {} line).1 pattern 3 .empty hvalid
  exact ⟨hvalid, hlast, by rw [hwalk, Option.map_some, hlast], hend 22 hlast⟩

end Pattern

end Muster
