import Muster.Proofs.Pattern.Saying

/-!
# A line for a plan

A plan leaves words, spaces and slots in a row. The `sample` line for it has those words as they are,
single blanks, and one word in each slot. If nothing stands in the way of what is kept, and no group
that is left out is found in the sample line, the line is in the words of the plan (`inWords_sample`).
-/

namespace Muster.Template

open Muster.Text Muster.Unicode Muster.Pattern

/-! ## The sample line -/

/-- A line for a reading: its words as they are, single blanks, and `n` letters in each slot. -/
def sample (n : Nat) : List Piece → List Char
  | [] => []
  | .word letters :: rest => letters ++ sample n rest
  | .space :: rest => ' ' :: sample n rest
  | .slot _ _ :: rest => ' ' :: (List.replicate n 'x' ++ ' ' :: sample n rest)
  | .group _ _ :: rest => sample n rest

/-- What is left of the sample line where a reading begins. Leading white space may have been passed. -/
def place (n : Nat) (passed : Bool) (pieces : List Piece) : List Char :=
  if passed then trimStart (sample n pieces) else sample n pieces

/-- Whether no group that is left out is found in the sample line. -/
def spared (n : Nat) (passed : Bool) : List Item → Bool
  | [] => true
  | .leftOut pieces :: plan =>
    (Piece.leaveAll (Follow.of .lineEnd (reading plan)) pieces
      (place n passed (reading plan))).isNone && spared n passed plan
  | .kept (.word _) :: plan => spared n false plan
  | .kept _ :: plan => spared n true plan

/-- Where nothing is left out, nothing is found. -/
theorem spared_of_isKept (n : Nat) {plan : List Item} (h : ∀ item ∈ plan, item.isKept = true)
    (passed : Bool) : spared n passed plan = true := by
  induction plan generalizing passed with
  | nil => rfl
  | cons item plan ih =>
    obtain ⟨hitem, hplan⟩ := List.forall_mem_cons.1 h
    cases item with
    | leftOut pieces => cases hitem
    | kept piece => cases piece <;> exact ih hplan _

section

variable {n : Nat} {pieces : List Piece}

theorem isWhite_blank : isWhite ' ' = true := by decide

/-- White space that has not been passed is passed with the blank before it. -/
theorem exists_place (n : Nat) (pieces : List Piece) :
    ∃ gap, isBlank gap = true ∧ sample n pieces = gap ++ place n true pieces :=
  exists_append_trimStart _

/-- A sample line begins with the words at the beginning of the reading, and no word begins after
them. -/
theorem sample_eq_run_append (n : Nat) (pieces : List Piece) :
    ∃ rest, sample n pieces = run pieces ++ rest ∧ startsWord rest = false := by
  induction pieces using Piece.listInduction with
  | nil => exact ⟨[], rfl, rfl⟩
  | word letters rest ih =>
    obtain ⟨more, hsample, hmore⟩ := ih
    exact ⟨more, by rw [sample, hsample, run, List.append_assoc], hmore⟩
  | space rest ih => exact ⟨_, rfl, by rw [startsWord_cons, isWhite_blank, Bool.not_true]⟩
  | slot kind offset rest ih => exact ⟨_, rfl, by rw [startsWord_cons, isWhite_blank, Bool.not_true]⟩
  | group pieces offset rest ihp ih => exact ih

theorem startsAlphanumeric_sample (n : Nat) (pieces : List Piece) :
    startsAlphanumeric (sample n pieces) = startsAlphanumeric (run pieces) := by
  obtain ⟨rest, hsample, hrest⟩ := sample_eq_run_append n pieces
  rw [hsample]
  cases hrun : run pieces with
  | nil => exact startsAlphanumeric_of_not_startsWord hrest
  | cons c cs => rfl

theorem startsWord_sample (n : Nat) (pieces : List Piece) :
    startsWord (sample n pieces) = startsWord (run pieces) := by
  obtain ⟨rest, hsample, hrest⟩ := sample_eq_run_append n pieces
  rw [hsample]
  cases hrun : run pieces with
  | nil => exact hrest
  | cons c cs => rfl

/-- A word that stands upright stands in the sample line as it is. -/
theorem place_word {passed : Bool} {letters : List Char} (hne : letters ≠ [])
    (hupright : (passed && letters.head?.any isWhite) = false) :
    place n passed (.word letters :: pieces) = letters ++ sample n pieces := by
  cases passed with
  | false => rfl
  | true =>
    have hstarts : startsWord letters = true := by
      obtain ⟨c, cs, rfl⟩ := List.exists_cons_of_ne_nil hne
      have hc : isWhite c = false := hupright
      rw [startsWord_cons, hc, Bool.not_false]
    exact trimStart_of_startsWord (startsWord_append_left hstarts _)

/-- A space has its blank, if that has not been passed, and the white space after it. -/
theorem exists_place_space (n : Nat) (passed : Bool) (pieces : List Piece) :
    ∃ gap, isBlank gap = true ∧ place n passed (.space :: pieces) = gap ++ place n true pieces := by
  cases passed with
  | false =>
    obtain ⟨gap, hgap, hsample⟩ := exists_place n pieces
    refine ⟨' ' :: gap, ?_, ?_⟩
    · rw [isBlank_cons, isWhite_blank, hgap, Bool.and_self]
    · show ' ' :: sample n pieces = _
      rw [hsample, List.cons_append]
  | true => exact ⟨[], rfl, trimStart_cons_of_isWhite isWhite_blank _⟩

/-! ## Slots -/

/-- What stands in a slot is the first word there. -/
theorem beginsWith_replicate (hn : 0 < n) {s : List Char} (hs : startsWord s = false) :
    BeginsWith (List.replicate n 'x' ++ s) (List.replicate n 'x') s := by
  refine ⟨rfl, ?_, fun c hc => ?_, hs⟩
  · rw [Ne, List.replicate_eq_nil_iff]
    omega
  · rw [List.eq_of_mem_replicate hc]
    decide

/-- A slot has one word, with white space before it, unless that has been passed, and after it. -/
theorem exists_place_slot (hn : 0 < n) (passed : Bool) {kind : SlotKind} {offset : Nat} :
    ∃ lead gap, isBlank lead = true ∧ isBlank gap = true ∧
      place n passed (.slot kind offset :: pieces) =
        (lead ++ (List.replicate n 'x' ++ ' ' :: gap)) ++ place n true pieces := by
  obtain ⟨gap, hgap, hsample⟩ := exists_place n pieces
  cases passed with
  | false =>
    refine ⟨[' '], gap, by decide, hgap, ?_⟩
    show ' ' :: (List.replicate n 'x' ++ ' ' :: sample n pieces) = _
    rw [hsample]
    simp only [List.cons_append, List.nil_append, List.append_assoc]
  | true =>
    have hbegins : BeginsWith _ _ (' ' :: sample n pieces) := beginsWith_replicate hn rfl
    refine ⟨[], gap, rfl, hgap, ?_⟩
    show trimStart (' ' :: (List.replicate n 'x' ++ ' ' :: sample n pieces)) = _
    rw [trimStart_cons_of_isWhite isWhite_blank, trimStart_of_startsWord hbegins.startsWord, hsample]
    simp only [List.cons_append, List.nil_append, List.append_assoc]

/-- What a slot has is one word. -/
theorem words_filling (hn : 0 < n) {lead gap : List Char} (hlead : isBlank lead = true)
    (hgap : isBlank gap = true) :
    words (lead ++ (List.replicate n 'x' ++ ' ' :: gap)) = [List.replicate n 'x'] := by
  have hbegins : BeginsWith _ _ (' ' :: gap) := beginsWith_replicate hn rfl
  have hnone : words (' ' :: gap) = [] := by
    rw [words_eq_nil_iff, isBlank_cons, isWhite_blank, hgap, Bool.and_self]
  rw [words_append_of_isBlank hlead, hbegins.words_eq, hnone]

/-- The word that a slot stops at comes next in the sample line, and is a word by itself there. -/
theorem exists_beginsWith_place (n : Nat) {letters : List Char}
    (hfollow : Follow.of .lineEnd pieces = .word letters) (hparted : parted pieces = true)
    (hne : letters ≠ []) : ∃ more, BeginsWith (place n true pieces) letters more := by
  induction pieces using Piece.listInduction with
  | nil => cases hfollow
  | word word rest ih =>
    cases hfollow
    obtain ⟨hall, hends⟩ := Bool.and_eq_true_iff.1 hparted
    have hletters : ∀ c ∈ letters, isWhite c = false := by simpa using hall
    refine ⟨sample n rest, place_word hne ?_, hne, hletters, ?_⟩
    · obtain ⟨c, cs, rfl⟩ := List.exists_cons_of_ne_nil hne
      exact hletters c List.mem_cons_self
    · rw [startsWord_sample]
      simpa using hends
  | space rest ih =>
    have hplace : place n true (.space :: rest) = place n true rest :=
      trimStart_cons_of_isWhite isWhite_blank _
    rw [hplace]
    exact ih hfollow hparted
  | slot kind offset rest ih => cases hfollow
  | group inner offset rest ihp ih => cases hfollow

/-- If nothing comes next, the sample line has nothing but white space. -/
theorem place_eq_nil (n : Nat) (hfollow : Follow.of .lineEnd pieces = .lineEnd) :
    place n true pieces = [] := by
  induction pieces using Piece.listInduction with
  | nil => rfl
  | word word rest ih => cases hfollow
  | space rest ih =>
    have hplace : place n true (.space :: rest) = place n true rest :=
      trimStart_cons_of_isWhite isWhite_blank _
    rw [hplace]
    exact ih hfollow
  | slot kind offset rest ih => cases hfollow
  | group inner offset rest ihp ih => cases hfollow

/-- What comes after a slot that finds its end is settled. -/
theorem settled_of_parted (hparted : parted pieces = true) :
    (Follow.of .lineEnd pieces).settled = true := by
  induction pieces with
  | nil => rfl
  | cons piece rest ih =>
    cases piece with
    | space => exact ih hparted
    | word letters => rfl
    | slot kind offset => cases hparted
    | group inner offset => cases hparted

/-- The word in a slot ends where the slot should. -/
theorem endsAt_place (hn : 0 < n) (hparted : parted pieces = true)
    (hwords : ∀ w ∈ Piece.wordsOfAll pieces, w ≠ [] ∧ Lowered w) {lead gap : List Char}
    (hlead : isBlank lead = true) (hgap : isBlank gap = true) :
    EndsAt (lead ++ (List.replicate n 'x' ++ ' ' :: gap)) (place n true pieces)
      (Follow.of .lineEnd pieces) := by
  have hsettled := settled_of_parted hparted
  cases hfollow : Follow.of .lineEnd pieces with
  | lineEnd => exact place_eq_nil n hfollow
  | word letters =>
    obtain ⟨hne, hlowered⟩ := of_follow hwords (fun letters h => by cases h) hfollow
    obtain ⟨more, hbegins⟩ := exists_beginsWith_place n hfollow hparted hne
    refine ⟨?_, ⟨letters, more, hbegins, lowerText_of_lowered hlowered⟩,
      ⟨_, [], words_filling hn hlead hgap, fun w hw => absurd hw List.not_mem_nil⟩⟩
    -- the filling goes on in a blank, and ends in white space
    simp only [List.getLast?_append, List.getLast?_cons, Option.some_or]
    cases hlast : gap.getLast? with
    | none => exact isWhite_blank
    | some c => exact List.all_eq_true.1 hgap c (List.mem_of_getLast? hlast)
  | slot =>
    rw [hfollow] at hsettled
    cases hsettled
  | group =>
    rw [hfollow] at hsettled
    cases hsettled

end

/-! ## The sample line is in the words of the plan -/

/-- If nothing stands in the way of what a plan keeps, and no group that is left out is found in the
sample line, the sample line is in the words of the plan. -/
theorem inWords_sample {n : Nat} (hn : 0 < n) {plan : List Item}
    (hgroups : ∀ inner offset, .group inner offset ∉ reading plan)
    (hwords : ∀ w ∈ Piece.wordsOfAll (reading plan), w ≠ [] ∧ Lowered w)
    (hsmooth : smooth (reading plan) = true) (hending : ending (reading plan) = true) {passed : Bool}
    (hupright : upright passed (reading plan) = true) (hspared : spared n passed plan = true) :
    InWords plan (place n passed (reading plan)) := by
  induction plan generalizing passed with
  | nil => cases passed <;> exact InWords.nil rfl
  | cons item plan ih =>
    cases item with
    | leftOut pieces =>
      obtain ⟨hmissing, hlater⟩ := Bool.and_eq_true_iff.1 hspared
      exact InWords.leftOut (Option.isNone_iff_eq_none.1 hmissing)
        (ih hgroups hwords hsmooth hending hupright hlater)
    | kept piece =>
      have hlater : ∀ inner offset, .group inner offset ∉ reading plan :=
        fun inner offset h => hgroups inner offset (List.mem_cons_of_mem _ h)
      cases piece with
      | word letters =>
        obtain ⟨hword, hrestWords⟩ := Piece.forall_wordsOfAll_cons.1 hwords
        obtain ⟨hends, hrestSmooth⟩ := Bool.and_eq_true_iff.1 hsmooth
        obtain ⟨hstarts, hrestUpright⟩ := Bool.and_eq_true_iff.1 hupright
        rw [Bool.not_eq_true'] at hends hstarts
        have hplace : place n passed (reading (.kept (.word letters) :: plan)) =
            letters ++ place n false (reading plan) :=
          place_word (hword letters (List.mem_singleton_self _)).1 hstarts
        rw [hplace]
        refine InWords.word rfl ?_ (ih hlater hrestWords hrestSmooth hending hrestUpright hspared)
        show ¬ (_ ∧ startsAlphanumeric (sample n (reading plan)) = true)
        rw [startsAlphanumeric_sample]
        exact fun hclash => Bool.false_ne_true (hends.symm.trans (Bool.and_eq_true_iff.2 hclash))
      | space =>
        obtain ⟨gap, hgap, hplace⟩ := exists_place_space n passed (reading plan)
        show InWords _ (place n passed (.space :: reading plan))
        rw [hplace]
        exact InWords.space hgap (trimStart_trimStart _)
          (ih hlater hwords hsmooth hending hupright hspared)
      | slot kind offset =>
        obtain ⟨hparted, hrestEnding⟩ := Bool.and_eq_true_iff.1 hending
        have hrestWords : ∀ w ∈ Piece.wordsOfAll (reading plan), w ≠ [] ∧ Lowered w := hwords
        obtain ⟨lead, gap, hlead, hgap, hplace⟩ := exists_place_slot hn passed
        show InWords _ (place n passed (.slot kind offset :: reading plan))
        rw [hplace]
        refine InWords.slot ?_ (endsAt_place hn hparted hrestWords hlead hgap)
          (ih hlater hrestWords hsmooth hrestEnding hupright hspared)
        rw [← Bool.not_eq_true, ← words_eq_nil_iff, words_filling hn hlead hgap]
        exact List.cons_ne_nil _ _
      | group inner offset => exact absurd List.mem_cons_self (hgroups inner offset)

end Muster.Template
