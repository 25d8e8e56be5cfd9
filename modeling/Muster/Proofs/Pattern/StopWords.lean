import Muster.Proofs.Pattern.SlotEnds
import Muster.Proofs.Text.Names

/-!
# Stop words and literals

The word after a slot is looked at twice. The slot looks for it and lowers each word of the line as
a text; then the literal takes it and compares it letter by letter. The two agree on words whose case
is stable (`CaseStable`): without a capital dotted `İ`, which becomes two characters, and without a
capital sigma in a place where it becomes a final one. Main statement: `slot_ends_at_literal_iff`. A
slot ends at the first word that its literal would take exactly if the case of the first word that
either of the two accepts is stable.
-/

namespace Muster

open Muster.Text Muster.Unicode Muster.Pattern

namespace Text

/-! ## Two ways to compare a word -/

/-- A word for which it makes no difference whether it is lowered as a text or letter by letter. -/
structure CaseStable (word : List Char) : Prop where
  /-- No letter becomes two when it is lowered. -/
  undotted : 'İ' ∉ word
  /-- No sigma becomes a final one. -/
  sigmas : NoFinalSigma [] word

instance (word : List Char) : Decidable (CaseStable word) :=
  decidable_of_iff ('İ' ∉ word ∧ lowerAfter [] word = lowerEach word)
    ⟨fun h => ⟨h.1, (lowerAfter_eq_lowerEach_iff [] word).1 h.2⟩,
      fun h => ⟨h.undotted, (lowerAfter_eq_lowerEach_iff [] word).2 h.sigmas⟩⟩

/-- There is only one character that becomes two when it is lowered. -/
theorem exists_lowerChar_eq_singleton {c : Char} (h : c ≠ 'İ') : ∃ d, lowerChar c = [d] := by
  rcases lowerChar_cases c with hc | ⟨hc, _⟩ | ⟨_, _, _, d, hd, _⟩
  · exact ⟨c, hc⟩
  · exact absurd (by rw [← Char.ofNat_toNat c, hc]) h
  · exact ⟨d, hd⟩

/-- Letter by letter a word is a lowered one if it has no dotted `İ` and is that word once its
letters are lowered. -/
theorem caseless_eq_iff {token word : List Char} (hword : Lowered word) :
    caseless token = caseless word ↔ 'İ' ∉ token ∧ lowerEach token = word := by
  induction token generalizing word with
  | nil => cases word <;> simp [caseless, lowerEach]
  | cons c cs ih =>
    by_cases hc : c = 'İ'
    · -- what the dotted letter becomes is longer than any letter of the word
      refine iff_of_false (fun h => ?_) fun h => h.1 (by simp [hc])
      obtain ⟨d, hd, heq⟩ := exists_of_caseless_eq h (c := c) (by simp)
      have hlength : (lowerChar 'İ').length = 1 := by rw [← hc, heq, hword d hd, List.length_singleton]
      exact absurd hlength (by decide)
    · obtain ⟨d, hd⟩ := exists_lowerChar_eq_singleton hc
      cases word with
      | nil => simp [caseless, lowerEach, hd]
      | cons e es =>
        have hes : Lowered es := fun x hx => hword x (by simp [hx])
        have hne : 'İ' ≠ c := fun h => hc h.symm
        have heach : lowerEach (c :: cs) = d :: lowerEach cs := by
          rw [lowerEach, List.flatMap_cons, hd]
          rfl
        rw [caseless_cons, caseless_cons, List.cons.injEq, ih hes, hword e (by simp), hd, heach,
          List.mem_cons, List.cons.injEq, List.cons.injEq]
        simp only [hne, false_or, and_true]
        exact and_left_comm

/-- Of a word that one of the two comparisons finds equal to a lowered word, the other one does so
exactly if the case of the word is stable. -/
theorem same_iff_caseStable {token word : List Char} (hword : Lowered word)
    (h : lowerText token = word ∨ caseless token = caseless word) :
    (lowerText token = word ∧ caseless token = caseless word) ↔ CaseStable token := by
  rw [caseless_eq_iff hword] at h ⊢
  constructor
  · rintro ⟨htext, hdotted, heach⟩
    exact ⟨hdotted, (lowerAfter_eq_lowerEach_iff [] token).1 (htext.trans heach.symm)⟩
  · rintro ⟨hdotted, hsigmas⟩
    have hsame : lowerText token = lowerEach token :=
      (lowerAfter_eq_lowerEach_iff [] token).2 hsigmas
    rcases h with htext | ⟨_, heach⟩
    · exact ⟨htext, hdotted, hsame ▸ htext⟩
    · exact ⟨hsame.trans heach, hdotted, heach⟩

end Text

namespace Pattern

/-! ## Where a slot ends -/

/-- A literal takes the whole of a word if it has the same letters. -/
theorem takeWord_eq_some_nil_iff {word token : List Char} :
    takeWord word token = some [] ↔ caseless token = caseless word := by
  rw [takeWord_eq_some_iff]
  constructor
  · rintro ⟨taken, htoken, htaken, _⟩
    rw [htoken, List.append_nil]
    exact htaken
  · intro h
    exact ⟨token, (List.append_nil token).symm, h, fun hends => Bool.false_ne_true hends.2⟩

/-- A literal that takes the whole of a word takes it off a text that begins with that word. -/
theorem takeWord_of_beginsWith {word text token more : List Char} (hbegins : BeginsWith text token more)
    (h : takeWord word token = some []) : takeWord word text = some more := by
  have hmore : startsAlphanumeric more = false := startsAlphanumeric_of_not_startsWord hbegins.ends
  refine takeWord_eq_some_iff.2 ⟨token, hbegins.eq_append, takeWord_eq_some_nil_iff.1 h, ?_⟩
  rw [hmore]
  exact fun hends => Bool.false_ne_true hends.2

/-- What a slot took off a text ends at the first word that is accepted, where the first word of the
text does not count; it took nothing if no such word is accepted. -/
def EndsAtFirst (accepts : List Char → Prop) (text : List Char) :
    Option (List Char × List Char) → Prop
  | none => ∀ word ∈ (words text).tail, ¬ accepts word
  | some (filling, rest) =>
    text = filling ++ rest ∧ ∃ first others word more,
      words filling = first :: others ∧ (∀ other ∈ others, ¬ accepts other) ∧
        BeginsWith rest word more ∧ accepts word ∧
        (words text).tail = others ++ word :: words more

/-- A slot ends at the first word that is its stop word in lowercase. -/
theorem endsAtFirst_lowerText (stop text : List Char) :
    EndsAtFirst (lowerText · = stop) text (takeSlot (some stop) text) := by
  cases h : takeSlot (some stop) text with
  | none => exact splitBefore_eq_none (takeSlot_some_eq_none h)
  | some taken =>
    obtain ⟨filling, rest⟩ := taken
    obtain ⟨htext, hstarts, hsplit, _⟩ := takeSlot_some_eq_some h
    obtain ⟨hothers, hne, word, later, hrest, hword⟩ := splitBefore_eq_some hsplit
    obtain ⟨first, others, hfilling⟩ := List.exists_cons_of_ne_nil (hne rfl)
    obtain ⟨begun, more, hbegins⟩ := exists_beginsWith hstarts
    have hwords := append_of_splitBefore hsplit
    rw [hbegins.words_eq, List.cons.injEq] at hrest
    rw [hfilling] at hothers
    refine ⟨htext, first, others, begun, more, hfilling, hothers, hbegins, ?_, ?_⟩
    · rw [hrest.1]
      exact hword
    · rw [hwords, hfilling, hbegins.words_eq]
      rfl

/-- Two ways to accept words lead to the same end of a slot exactly if they agree on the first word
that either of them accepts. -/
theorem endsAtFirst_iff {p q : List Char → Prop} [DecidablePred p] [DecidablePred q]
    {text : List Char} {taken : Option (List Char × List Char)} (h : EndsAtFirst p text taken) :
    EndsAtFirst q text taken ↔
      ∀ word, (words text).tail.find? (fun word => decide (p word ∨ q word)) = some word →
        p word ∧ q word := by
  cases taken with
  | none =>
    constructor
    · intro hq word hword
      have hmem := List.mem_of_find?_eq_some hword
      have heither : decide (p word ∨ q word) = true :=
        List.find?_some (p := fun word => decide (p word ∨ q word)) hword
      exact absurd (of_decide_eq_true heither)
        (not_or.2 ⟨h word hmem, hq word hmem⟩)
    · -- nothing is found, since neither accepts what the other does not
      intro hsame word hword hq
      have hfound : ((words text).tail.find? fun word => decide (p word ∨ q word)).isSome = true :=
        List.find?_isSome.2 ⟨word, hword, decide_eq_true (Or.inr hq)⟩
      obtain ⟨found, hfound⟩ := Option.isSome_iff_exists.1 hfound
      exact h found (List.mem_of_find?_eq_some hfound) (hsame found hfound).1
  | some taken =>
    obtain ⟨filling, rest⟩ := taken
    obtain ⟨htext, first, others, word, more, hfilling, hothers, hbegins, hword, htail⟩ := h
    have hfind : others.find? (fun word => decide (p word ∨ q word)) = none →
        (words text).tail.find? (fun word => decide (p word ∨ q word)) = some word := by
      intro hnone
      have hpos : decide (p word ∨ q word) = true := decide_eq_true (Or.inl hword)
      rw [htail, List.find?_append, hnone, Option.none_or, List.find?_cons, hpos]
    constructor
    · rintro ⟨_, first', others', word', more', hfilling', hothers', hbegins', hword', _⟩
      obtain ⟨_, rfl⟩ := List.cons.inj (hfilling.symm.trans hfilling')
      have hsame : word = word' :=
        (List.cons.inj (hbegins.words_eq.symm.trans hbegins'.words_eq)).1
      intro found hfound
      rw [hfind (List.find?_eq_none.2 fun other hother => by
        simp [hothers other hother, hothers' other hother])] at hfound
      obtain rfl := Option.some.inj hfound
      exact ⟨hword, hsame ▸ hword'⟩
    · intro hsame
      -- an earlier word that only `q` accepts would be the first one
      have hnone : others.find? (fun word => decide (p word ∨ q word)) = none := by
        cases hfirst : others.find? (fun word => decide (p word ∨ q word)) with
        | none => rfl
        | some other =>
          have hfound : (words text).tail.find? (fun word => decide (p word ∨ q word)) =
              some other := by
            rw [htail, List.find?_append, hfirst, Option.some_or]
          exact absurd (hsame other hfound).1 (hothers other (List.mem_of_find?_eq_some hfirst))
      refine ⟨htext, first, others, word, more, hfilling, fun other hother hq => ?_, hbegins,
        (hsame word (hfind hnone)).2, htail⟩
      exact List.find?_eq_none.1 hnone other hother (decide_eq_true (Or.inr hq))

end Pattern

namespace Template

/-! ## Slots and the literals after them -/

/-- Where a slot of a template ends, in any text in which it is tried. On every route through the
pattern the next step after the slot, white space apart, is the literal of its stop word. The slot
ends at the first word, its own first word apart, that is the stop word once it is lowered as a text.
That is the first word that the literal takes as a whole, and there is none if the slot takes nothing,
exactly if the case of the first word that the one or the other accepts is stable; then the literal
takes the word at which the slot has ended. -/
theorem slot_ends_at_literal_iff {scope : Scope} {template : String} {pattern : Pattern}
    (hcompile : compile scope template = .ok pattern) {kind : SlotKind} {stop : List Char}
    (hslot : (kind, some stop) ∈ pattern.slots) (text : List Char) :
    (∀ before after, before ++ .slot kind (some stop) :: after ∈ pattern.routes →
      nextStep? after = some (.word stop)) ∧
    EndsAtFirst (lowerText · = stop) text (takeSlot (some stop) text) ∧
    (EndsAtFirst (takeWord stop · = some []) text (takeSlot (some stop) text) ↔
      ∀ word, (words text).tail.find?
          (fun word => decide (lowerText word = stop ∨ takeWord stop word = some [])) = some word →
        CaseStable word) ∧
    (EndsAtFirst (takeWord stop · = some []) text (takeSlot (some stop) text) →
      ∀ filling rest, takeSlot (some stop) text = some (filling, rest) →
        ∃ more, takeWord stop rest = some more) := by
  have hlowered : Lowered stop := lowered_of_mem_slots hcompile hslot
  have hends := endsAtFirst_lowerText stop text
  refine ⟨fun before after hroute => (stopped_compile hcompile hroute).next, hends, ?_, ?_⟩
  · rw [endsAtFirst_iff hends]
    refine forall₂_congr fun word hword => ?_
    have heither := List.find?_some hword
    rw [decide_eq_true_iff, takeWord_eq_some_nil_iff] at heither
    rw [takeWord_eq_some_nil_iff]
    exact same_iff_caseStable hlowered heither
  · intro hliteral filling rest htake
    rw [htake] at hliteral
    obtain ⟨_, _, _, word, more, _, _, hbegins, hword, _⟩ := hliteral
    exact ⟨more, takeWord_of_beginsWith hbegins hword⟩

/-- A slot that ends where its literal begins, whatever the case of that word. -/
theorem call_ends_at_literal :
    ∃ pattern, compile {} "call \x7bname\x7d back" = .ok pattern ∧
      (.name, some "back".toList) ∈ pattern.slots ∧
      EndsAtFirst (takeWord "back".toList · = some []) "back and forth BACK now".toList
        (takeSlot (some "back".toList) "back and forth BACK now".toList) := by
  have hcheck : (compile {} "call \x7bname\x7d back").toOption.any (fun pattern =>
      decide ((.name, some "back".toList) ∈ pattern.slots)) = true := by
    decide +kernel
  obtain ⟨pattern, hpattern, hslot⟩ := exists_ok_of_any hcheck
  rw [decide_eq_true_iff] at hslot
  have hfind : (words "back and forth BACK now".toList).tail.find?
      (fun word => decide (lowerText word = "back".toList ∨
        takeWord "back".toList word = some [])) = some "BACK".toList := by
    decide +kernel
  have hstable : CaseStable "BACK".toList := by decide +kernel
  exact ⟨pattern, hpattern, hslot,
    (slot_ends_at_literal_iff hpattern hslot "back and forth BACK now".toList).2.2.1.2
      fun word hword => Option.some.inj (hfind.symm.trans hword) ▸ hstable⟩

/-- Two lines in the words of their templates that are lost. In the first the slot finds no end,
although the literal would take the last word; in the second the slot ends at a word that the
literal does not take. -/
theorem odos_lost :
    (∃ pattern, compile {} "call \x7bname\x7d ΟΔΟΣ" = .ok pattern ∧
      (.name, some "οδοσ".toList) ∈ pattern.slots ∧
      ¬ EndsAtFirst (takeWord "οδοσ".toList · = some []) "bob ΟΔΟΣ".toList
        (takeSlot (some "οδοσ".toList) "bob ΟΔΟΣ".toList) ∧
      pattern.matchLine {} "call bob ΟΔΟΣ" = none) ∧
    ∃ pattern, compile {} "call \x7bname\x7d İ" = .ok pattern ∧
      (.name, some ['i', '\u0307']) ∈ pattern.slots ∧
      takeSlot (some ['i', '\u0307']) "bob İ".toList = some ("bob ".toList, ['İ']) ∧
      takeWord ['i', '\u0307'] ['İ'] = none ∧
      pattern.matchLine {} "call bob İ" = none := by
  have hodos : (compile {} "call \x7bname\x7d ΟΔΟΣ").toOption.any (fun pattern =>
      decide ((.name, some "οδοσ".toList) ∈ pattern.slots) &&
        (pattern.matchLine {} "call bob ΟΔΟΣ").isNone) = true := by
    decide +kernel
  have hdotted : (compile {} "call \x7bname\x7d İ").toOption.any (fun pattern =>
      decide ((.name, some ['i', '\u0307']) ∈ pattern.slots) &&
        (pattern.matchLine {} "call bob İ").isNone) = true := by
    decide +kernel
  have hnone : takeSlot (some "οδοσ".toList) "bob ΟΔΟΣ".toList = none := by decide +kernel
  have hlast : "ΟΔΟΣ".toList ∈ (words "bob ΟΔΟΣ".toList).tail ∧
      takeWord "οδοσ".toList "ΟΔΟΣ".toList = some [] := by
    decide +kernel
  constructor
  · obtain ⟨pattern, hpattern, hcheck⟩ := exists_ok_of_any hodos
    rw [Bool.and_eq_true, decide_eq_true_iff, Option.isNone_iff_eq_none] at hcheck
    refine ⟨pattern, hpattern, hcheck.1, ?_, hcheck.2⟩
    rw [hnone]
    exact fun hends => hends "ΟΔΟΣ".toList hlast.1 hlast.2
  · obtain ⟨pattern, hpattern, hcheck⟩ := exists_ok_of_any hdotted
    rw [Bool.and_eq_true, decide_eq_true_iff, Option.isNone_iff_eq_none] at hcheck
    exact ⟨pattern, hpattern, hcheck.1, by decide +kernel, by decide +kernel, hcheck.2⟩

end Template

end Muster
