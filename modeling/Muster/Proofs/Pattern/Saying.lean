import Muster.Proofs.Pattern.Plans
import Muster.Proofs.Pattern.Recognition

/-!
# Lines in the words of a plan

`InWords plan text` means that a text has, one after the other, what a plan leaves of a template: its
words in whatever case, white space where the template has some, and a filling in each slot. A group
that is left out must not be found where it is left out, since a group that is found is taken. Main
statement: a template matches exactly the lines in the words of its plans (`matchLine_isSome_iff`).
-/

namespace Muster.Template

open Muster.Text Muster.Unicode Muster.Pattern

/-! ## What pieces leave of a text -/

/-- What a slot leaves of a text, given what follows it. -/
def leaveSlot (follow : Follow) (text : List Char) : Option (List Char) :=
  match follow with
  | .lineEnd => (takeSlot none text).map (·.2)
  | .word stop => (takeSlot (some stop) text).map (·.2)
  | .slot => none
  | .group => none

namespace Piece

mutual

/-- What a piece leaves of a text if it is found there, given what follows the piece. -/
def leave (follow : Follow) : Piece → List Char → Option (List Char)
  | .word letters, text => takeWord letters text
  | .space, text => some (trimStart text)
  | .group pieces _, text => some ((leaveAll follow pieces text).getD text)
  | .slot _ _, text => leaveSlot follow text

/-- What some pieces leave of a text if they are found there one after the other, given what follows
the last of them. -/
def leaveAll (outer : Follow) : List Piece → List Char → Option (List Char)
  | [], text => some text
  | piece :: rest, text => (leave (Follow.of outer rest) piece text).bind (leaveAll outer rest)

end

end Piece

section

variable {scope : Scope} {outer outer' : Follow} {pieces : List Piece} {parts : List Pattern}
  {text rest : List Char}

/-- A slot takes a filling up to what follows it. -/
theorem leaveSlot_eq_some_iff {follow : Follow} :
    leaveSlot follow text = some rest ↔
      ∃ filling, text = filling ++ rest ∧ isBlank filling = false ∧ EndsAt filling rest follow := by
  cases follow with
  | lineEnd =>
    show (takeSlot none text).map (·.2) = some rest ↔ ∃ filling, _ ∧ _ ∧ rest = []
    rw [takeSlot_none]
    constructor
    · intro h
      split at h
      · cases h
      · next hblank =>
        cases h
        exact ⟨text, (List.append_nil text).symm, Bool.eq_false_iff.2 hblank, rfl⟩
    · rintro ⟨filling, htext, hblank, rfl⟩
      rw [List.append_nil] at htext
      rw [htext, hblank, if_neg Bool.false_ne_true]
      rfl
  | word stop =>
    show (takeSlot (some stop) text).map (·.2) = some rest ↔
      ∃ filling, _ ∧ _ ∧ StopsBefore stop filling rest
    constructor
    · intro h
      obtain ⟨⟨filling, left⟩, htake, rfl⟩ := Option.map_eq_some_iff.1 h
      obtain ⟨htext, hblank⟩ := isBlank_of_takeSlot htake
      exact ⟨filling, htext, hblank, stopsBefore_of_takeSlot htake⟩
    · rintro ⟨filling, rfl, _, hstops⟩
      rw [takeSlot_of_stopsBefore hstops]
      rfl
  | _ =>
    constructor
    · intro h
      cases h
    · rintro ⟨filling, _, _, hends⟩
      cases hends

/-- The parts of a template leave what its pieces leave. -/
theorem fst_recognizeEach (hlowered : ∀ w ∈ Piece.wordsOfAll pieces, Lowered w)
    (houter : ∀ letters, outer = .word letters → Lowered letters)
    (hparts : compilePieces scope outer pieces = .ok parts) (text : List Char) :
    (recognizeEach parts text).1 = Piece.leaveAll outer pieces text := by
  induction pieces using Piece.listInduction generalizing outer parts text with
  | nil =>
    cases hparts
    rfl
  | word letters tail ih =>
    obtain ⟨first, others, hfirst, hothers, rfl⟩ := compilePieces_cons_eq_ok hparts
    obtain ⟨hword, htail⟩ := Piece.forall_wordsOfAll_cons.1 hlowered
    rw [compilePiece, ofWord_of_lowered (hword letters (List.mem_singleton_self _))] at hfirst
    cases hfirst
    rw [fst_recognizeEach_cons, recognize, Piece.leaveAll, Piece.leave]
    exact Option.bind_congr fun left _ => ih htail houter hothers left
  | space tail ih =>
    obtain ⟨first, others, hfirst, hothers, rfl⟩ := compilePieces_cons_eq_ok hparts
    cases hfirst
    rw [fst_recognizeEach_cons, recognize, Piece.leaveAll, Piece.leave]
    exact ih hlowered houter hothers _
  | slot kind offset tail ih =>
    obtain ⟨first, others, hfirst, hothers, rfl⟩ := compilePieces_cons_eq_ok hparts
    have htail : ∀ w ∈ Piece.wordsOfAll tail, Lowered w := hlowered
    have hslot : (recognize first text).1 = leaveSlot (Follow.of outer tail) text := by
      rw [compilePiece] at hfirst
      rcases compileSlot_eq_ok hfirst with ⟨hend, rfl⟩ | ⟨letters, hword, rfl⟩
      · rw [hend]
        exact fst_recognize_slot kind none text
      · rw [hword, lowerText_of_lowered (of_follow htail houter hword)]
        exact fst_recognize_slot kind (some letters) text
    rw [fst_recognizeEach_cons, hslot, Piece.leaveAll, Piece.leave]
    exact Option.bind_congr fun left _ => ih htail houter hothers left
  | group inner offset tail ihp ih =>
    obtain ⟨first, others, hfirst, hothers, rfl⟩ := compilePieces_cons_eq_ok hparts
    obtain ⟨innerParts, hinner, rfl⟩ := compilePiece_group_eq_ok hfirst
    obtain ⟨hinnerLowered, htail⟩ := Piece.forall_wordsOfAll_cons.1 hlowered
    rw [fst_recognizeEach_cons, fst_recognize_optional, Piece.leaveAll, Piece.leave,
      ihp hinnerLowered (fun _ => of_follow htail houter) hinner]
    exact ih htail houter hothers _

/-- What comes first does not depend on what follows, where either is settled. -/
theorem follow_of_congr (h : outer.settled = true → outer' = outer) (pieces : List Piece)
    (hsettled : (Follow.of outer pieces).settled = true) :
    Follow.of outer' pieces = Follow.of outer pieces := by
  induction pieces with
  | nil => exact h hsettled
  | cons piece rest ih =>
    cases piece with
    | space => exact ih hsettled
    | _ => rfl

/-- What pieces leave depends on what follows them only where that is settled. -/
theorem leaveAll_congr (hparts : compilePieces scope outer pieces = .ok parts)
    (h : outer.settled = true → outer' = outer) (text : List Char) :
    Piece.leaveAll outer' pieces text = Piece.leaveAll outer pieces text := by
  induction pieces using Piece.listInduction generalizing outer outer' parts text with
  | nil => rfl
  | word letters tail ih =>
    obtain ⟨_, _, _, hothers, _⟩ := compilePieces_cons_eq_ok hparts
    exact Option.bind_congr fun left _ => ih hothers h left
  | space tail ih =>
    obtain ⟨_, _, _, hothers, _⟩ := compilePieces_cons_eq_ok hparts
    exact ih hothers h _
  | slot kind offset tail ih =>
    obtain ⟨_, _, hslot, hothers, _⟩ := compilePieces_cons_eq_ok hparts
    rw [Piece.leaveAll, Piece.leaveAll, Piece.leave, Piece.leave,
      follow_of_congr h tail (settled_of_compileSlot hslot)]
    exact Option.bind_congr fun left _ => ih hothers h left
  | group inner offset tail ihp ih =>
    obtain ⟨_, _, hfirst, hothers, _⟩ := compilePieces_cons_eq_ok hparts
    obtain ⟨_, hinner, _⟩ := compilePiece_group_eq_ok hfirst
    rw [Piece.leaveAll, Piece.leaveAll, Piece.leave, Piece.leave,
      ihp hinner (follow_of_congr h tail)]
    exact ih hothers h _

end

/-! ## Lines in the words of a plan -/

/-- A text has what a plan leaves, up to white space at the end. -/
inductive InWords : List Item → List Char → Prop
  | nil {trail : List Char} (htrail : isBlank trail = true) : InWords [] trail
  /-- A word stands there in whatever case, and not as the beginning of a longer one. -/
  | word {letters taken rest : List Char} {plan : List Item}
      (hsame : caseless taken = caseless letters)
      (hends : ¬ (endsAlphanumeric letters = true ∧ startsAlphanumeric rest = true))
      (hrest : InWords plan rest) : InWords (.kept (.word letters) :: plan) (taken ++ rest)
  /-- For a space there may be white space, which is then passed as a whole. -/
  | space {gap rest : List Char} {plan : List Item} (hgap : isBlank gap = true)
      (htrimmed : trimStart rest = rest) (hrest : InWords plan rest) :
      InWords (.kept .space :: plan) (gap ++ rest)
  /-- A filling ends before the word that follows the slot, or at the end. -/
  | slot {kind : SlotKind} {offset : Nat} {filling rest : List Char} {plan : List Item}
      (hfilling : isBlank filling = false)
      (hends : EndsAt filling rest (Follow.of .lineEnd (reading plan))) (hrest : InWords plan rest) :
      InWords (.kept (.slot kind offset) :: plan) (filling ++ rest)
  /-- A group that is left out is not found there. -/
  | leftOut {pieces : List Piece} {text : List Char} {plan : List Item}
      (hmissing : Piece.leaveAll (Follow.of .lineEnd (reading plan)) pieces text = none)
      (hrest : InWords plan text) : InWords (.leftOut pieces :: plan) text

section

variable {scope : Scope} {outer : Follow} {pieces : List Piece} {parts : List Pattern}
  {plan later : List Item} {text rest : List Char}

/-- What follows a slot in the template follows it in every plan, if it is settled. -/
theorem follow_plan (hplan : plan ∈ Piece.plansOfAll pieces)
    (hlater : outer.settled = true → Follow.of .lineEnd (reading later) = outer)
    (hsettled : (Follow.of outer pieces).settled = true) :
    Follow.of .lineEnd (reading (plan ++ later)) = Follow.of outer pieces := by
  rw [reading_append]
  exact follow_reading (reading_mem hplan) hlater hsettled

/-- Where the pieces of a template are found, the text is in the words of one of their plans. -/
theorem exists_plan (hparts : compilePieces scope outer pieces = .ok parts)
    (hfollow : outer.settled = true → Follow.of .lineEnd (reading later) = outer)
    (hleave : Piece.leaveAll outer pieces text = some rest) (hlater : InWords later rest) :
    ∃ plan ∈ Piece.plansOfAll pieces, InWords (plan ++ later) text := by
  induction pieces using Piece.listInduction generalizing outer parts later text rest with
  | nil =>
    cases hleave
    exact ⟨[], List.mem_singleton_self _, hlater⟩
  | word letters tail ih =>
    obtain ⟨_, _, _, hothers, _⟩ := compilePieces_cons_eq_ok hparts
    obtain ⟨middle, hword, hrest⟩ := Option.bind_eq_some_iff.1 hleave
    obtain ⟨more, hmore, hin⟩ := ih hothers hfollow hrest hlater
    obtain ⟨taken, rfl, hsame, hends⟩ := takeWord_eq_some_iff.1 hword
    exact ⟨_, (Piece.mem_plansOfAll_cons_of_leaf rfl).2 ⟨more, hmore, rfl⟩,
      InWords.word hsame hends hin⟩
  | space tail ih =>
    obtain ⟨_, _, _, hothers, _⟩ := compilePieces_cons_eq_ok hparts
    obtain ⟨more, hmore, hin⟩ := ih hothers hfollow hleave hlater
    obtain ⟨gap, hgap, htext⟩ := exists_append_trimStart text
    refine ⟨_, (Piece.mem_plansOfAll_cons_of_leaf rfl).2 ⟨more, hmore, rfl⟩, ?_⟩
    rw [htext]
    exact InWords.space hgap (trimStart_trimStart text) hin
  | slot kind offset tail ih =>
    obtain ⟨_, _, hslot, hothers, _⟩ := compilePieces_cons_eq_ok hparts
    obtain ⟨middle, hleaveSlot, hrest⟩ := Option.bind_eq_some_iff.1 hleave
    obtain ⟨more, hmore, hin⟩ := ih hothers hfollow hrest hlater
    obtain ⟨filling, rfl, hfilling, hends⟩ := leaveSlot_eq_some_iff.1 hleaveSlot
    rw [← follow_plan hmore hfollow (settled_of_compileSlot hslot)] at hends
    exact ⟨_, (Piece.mem_plansOfAll_cons_of_leaf rfl).2 ⟨more, hmore, rfl⟩,
      InWords.slot hfilling hends hin⟩
  | group inner offset tail ihp ih =>
    obtain ⟨_, _, hfirst, hothers, _⟩ := compilePieces_cons_eq_ok hparts
    obtain ⟨_, hinner, _⟩ := compilePiece_group_eq_ok hfirst
    have hrest : Piece.leaveAll outer tail
        ((Piece.leaveAll (Follow.of outer tail) inner text).getD text) = some rest := hleave
    obtain ⟨more, hmore, hin⟩ := ih hothers hfollow hrest hlater
    have hnext := follow_plan hmore hfollow
    cases hfound : Piece.leaveAll (Follow.of outer tail) inner text with
    | none =>
      rw [hfound] at hin
      rw [← leaveAll_congr hinner hnext] at hfound
      exact ⟨_, Piece.mem_plansOfAll_group.2 (Or.inl ⟨more, hmore, rfl⟩), InWords.leftOut hfound hin⟩
    | some middle =>
      rw [hfound] at hin
      obtain ⟨items, hitems, hall⟩ := ihp hinner hnext hfound hin
      refine ⟨_, Piece.mem_plansOfAll_group.2 (Or.inr ⟨items, hitems, more, hmore, rfl⟩), ?_⟩
      rwa [List.append_assoc]

/-- In a text in the words of a plan the pieces of the template are found. -/
theorem exists_leaveAll (hparts : compilePieces scope outer pieces = .ok parts)
    (hfollow : outer.settled = true → Follow.of .lineEnd (reading later) = outer)
    (hplan : plan ∈ Piece.plansOfAll pieces) (hin : InWords (plan ++ later) text) :
    ∃ rest, Piece.leaveAll outer pieces text = some rest ∧ InWords later rest := by
  induction pieces using Piece.listInduction generalizing outer parts plan later text with
  | nil =>
    rw [Piece.plansOfAll, List.mem_singleton] at hplan
    rw [hplan] at hin
    exact ⟨text, rfl, hin⟩
  | word letters tail ih =>
    obtain ⟨_, _, _, hothers, _⟩ := compilePieces_cons_eq_ok hparts
    obtain ⟨more, hmore, rfl⟩ := (Piece.mem_plansOfAll_cons_of_leaf rfl).1 hplan
    rw [List.cons_append] at hin
    cases hin with
    | word hsame hends hmoreIn =>
      obtain ⟨rest, hrest, hlater⟩ := ih hothers hfollow hmore hmoreIn
      refine ⟨rest, ?_, hlater⟩
      rw [Piece.leaveAll, Piece.leave, takeWord_eq_some_iff.2 ⟨_, rfl, hsame, hends⟩]
      exact hrest
  | space tail ih =>
    obtain ⟨_, _, _, hothers, _⟩ := compilePieces_cons_eq_ok hparts
    obtain ⟨more, hmore, rfl⟩ := (Piece.mem_plansOfAll_cons_of_leaf rfl).1 hplan
    rw [List.cons_append] at hin
    cases hin with
    | space hgap htrimmed hmoreIn =>
      obtain ⟨rest, hrest, hlater⟩ := ih hothers hfollow hmore hmoreIn
      refine ⟨rest, ?_, hlater⟩
      rw [Piece.leaveAll, Piece.leave, trimStart_append_of_isBlank hgap, htrimmed]
      exact hrest
  | slot kind offset tail ih =>
    obtain ⟨_, _, hslot, hothers, _⟩ := compilePieces_cons_eq_ok hparts
    obtain ⟨more, hmore, rfl⟩ := (Piece.mem_plansOfAll_cons_of_leaf rfl).1 hplan
    rw [List.cons_append] at hin
    cases hin with
    | slot hfilling hends hmoreIn =>
      obtain ⟨rest, hrest, hlater⟩ := ih hothers hfollow hmore hmoreIn
      rw [follow_plan hmore hfollow (settled_of_compileSlot hslot)] at hends
      refine ⟨rest, ?_, hlater⟩
      rw [Piece.leaveAll, Piece.leave, leaveSlot_eq_some_iff.2 ⟨_, rfl, hfilling, hends⟩]
      exact hrest
  | group inner offset tail ihp ih =>
    obtain ⟨_, _, hfirst, hothers, _⟩ := compilePieces_cons_eq_ok hparts
    obtain ⟨_, hinner, _⟩ := compilePiece_group_eq_ok hfirst
    rcases Piece.mem_plansOfAll_group.1 hplan with
      ⟨more, hmore, rfl⟩ | ⟨items, hitems, more, hmore, rfl⟩
    · rw [List.cons_append] at hin
      cases hin with
      | leftOut hmissing hmoreIn =>
        rw [leaveAll_congr hinner (follow_plan hmore hfollow)] at hmissing
        obtain ⟨rest, hrest, hlater⟩ := ih hothers hfollow hmore hmoreIn
        refine ⟨rest, ?_, hlater⟩
        rw [Piece.leaveAll, Piece.leave, hmissing]
        exact hrest
    · rw [List.append_assoc] at hin
      obtain ⟨middle, hmiddle, hmoreIn⟩ := ihp hinner (follow_plan hmore hfollow) hitems hin
      obtain ⟨rest, hrest, hlater⟩ := ih hothers hfollow hmore hmoreIn
      refine ⟨rest, ?_, hlater⟩
      rw [Piece.leaveAll, Piece.leave, hmiddle]
      exact hrest

end

/-- A template matches the lines in the words of its plans, and no others. -/
theorem matchLine_isSome_iff {scope : Scope} {template : String} {pieces : List Piece}
    {pattern : Pattern} (hparse : parse template = .ok pieces)
    (hcompile : compile scope template = .ok pattern) (live : Scope) (line : String) :
    (pattern.matchLine live line).isSome = true ↔
      ∃ plan ∈ Piece.plansOfAll pieces, InWords plan (trimStart line.toList) := by
  obtain ⟨read, parts, hread, hparts, rfl⟩ := compile_eq_ok hcompile
  obtain rfl := Except.ok.inj (hparse.symm.trans hread)
  have hlowered : ∀ w ∈ Piece.wordsOfAll pieces, Lowered w := fun w hw => (words_of_parse hparse hw).2
  have hleave : ∀ bindings, matchEach live parts (trimStart line.toList) bindings =
      (Piece.leaveAll .lineEnd pieces (trimStart line.toList),
        bindings.fill live (recognizeEach parts (trimStart line.toList)).2) := by
    intro bindings
    rw [matchEach_eq, fst_recognizeEach hlowered (fun letters h => by cases h) hparts]
  rw [Option.isSome_iff_exists]
  constructor
  · rintro ⟨bindings, hmatch⟩
    obtain ⟨rest, heach, hblank⟩ := matchLine_eq_some_iff.1 hmatch
    rw [hleave] at heach
    obtain ⟨plan, hplan, hin⟩ :=
      exists_plan hparts (fun _ => rfl) (Prod.mk.inj heach).1 (InWords.nil hblank)
    rw [List.append_nil] at hin
    exact ⟨plan, hplan, hin⟩
  · rintro ⟨plan, hplan, hin⟩
    rw [← List.append_nil plan] at hin
    obtain ⟨rest, hrest, hnil⟩ := exists_leaveAll hparts (fun _ => rfl) hplan hin
    cases hnil with
    | nil hblank => exact ⟨_, matchLine_eq_some_iff.2 ⟨rest, by rw [hleave, hrest], hblank⟩⟩

end Muster.Template
