import Muster.Proofs.Pattern.Segments
import Muster.Proofs.Template.NormalForm

/-!
# Plans for a template

To say a line in the words of a template is to keep some of its groups and to leave out the others. A
*plan* says which, and is `Sayable` if nothing stands in the way of the words and slots that remain: no
word runs into the next one, every slot finds its end, and no word begins with white space where that
has been passed already. Main statement: if no two words or groups stand side by side in a template, and
no word has white space in it, all groups can be kept (`exists_sayable`).
-/

namespace Muster.Template

open Muster.Text Muster.Unicode Muster.Pattern

/-! ## Keeping and leaving out -/

/-- What becomes of a piece: it is kept, or it is a group and left out. -/
inductive Item where
  | kept (piece : Piece)
  | leftOut (pieces : List Piece)

/-- The piece, if it is kept. -/
def Item.piece? : Item → Option Piece
  | .kept piece => some piece
  | .leftOut _ => none

/-- Whether the piece is kept. -/
def Item.isKept (item : Item) : Bool := item.piece?.isSome

namespace Piece

mutual

/-- The ways to keep some groups of a piece and to leave out the others. -/
def plans : Piece → List (List Item)
  | .word letters => [[.kept (.word letters)]]
  | .space => [[.kept .space]]
  | .group pieces _ => [.leftOut pieces] :: plansOfAll pieces
  | .slot kind offset => [[.kept (.slot kind offset)]]

/-- The ways to keep some groups of a list of pieces and to leave out the others. -/
def plansOfAll : List Piece → List (List Item)
  | [] => [[]]
  | piece :: rest => (plans piece).flatMap fun items => (plansOfAll rest).map (items ++ ·)

end

theorem mem_plansOfAll_cons {piece : Piece} {rest : List Piece} {plan : List Item} :
    plan ∈ plansOfAll (piece :: rest) ↔
      ∃ items ∈ plans piece, ∃ more ∈ plansOfAll rest, items ++ more = plan := by
  simp only [plansOfAll, List.mem_flatMap, List.mem_map]

/-- A piece that is no group is kept. -/
theorem mem_plansOfAll_cons_of_leaf {piece : Piece} (h : plans piece = [[.kept piece]])
    {rest : List Piece} {plan : List Item} :
    plan ∈ plansOfAll (piece :: rest) ↔ ∃ more ∈ plansOfAll rest, .kept piece :: more = plan := by
  rw [mem_plansOfAll_cons, h]
  simp

/-- A group is left out, or a plan for its pieces comes first. -/
theorem mem_plansOfAll_group {pieces rest : List Piece} {plan : List Item} {offset : Nat} :
    plan ∈ plansOfAll (.group pieces offset :: rest) ↔
      (∃ more ∈ plansOfAll rest, .leftOut pieces :: more = plan) ∨
        ∃ items ∈ plansOfAll pieces, ∃ more ∈ plansOfAll rest, items ++ more = plan := by
  rw [mem_plansOfAll_cons, plans]
  simp

end Piece

/-- The pieces that remain. -/
def reading (plan : List Item) : List Piece := plan.filterMap Item.piece?

theorem reading_append (plan more : List Item) :
    reading (plan ++ more) = reading plan ++ reading more := List.filterMap_append

/-- What remains is a reading of the pieces. -/
theorem reading_mem {pieces : List Piece} {plan : List Item} (h : plan ∈ Piece.plansOfAll pieces) :
    reading plan ∈ Piece.readingsOfAll pieces := by
  induction pieces using Piece.listInduction generalizing plan with
  | nil =>
    rw [Piece.plansOfAll, List.mem_singleton] at h
    rw [h]
    exact List.mem_singleton_self _
  | word letters rest ih =>
    obtain ⟨more, hmore, rfl⟩ := (Piece.mem_plansOfAll_cons_of_leaf rfl).1 h
    exact (Piece.mem_readingsOfAll_cons_of_leaf rfl).2 ⟨_, ih hmore, rfl⟩
  | space rest ih =>
    obtain ⟨more, hmore, rfl⟩ := (Piece.mem_plansOfAll_cons_of_leaf rfl).1 h
    exact (Piece.mem_readingsOfAll_cons_of_leaf rfl).2 ⟨_, ih hmore, rfl⟩
  | slot kind offset rest ih =>
    obtain ⟨more, hmore, rfl⟩ := (Piece.mem_plansOfAll_cons_of_leaf rfl).1 h
    exact (Piece.mem_readingsOfAll_cons_of_leaf rfl).2 ⟨_, ih hmore, rfl⟩
  | group pieces offset rest ihp ih =>
    rcases Piece.mem_plansOfAll_group.1 h with ⟨more, hmore, rfl⟩ | ⟨items, hitems, more, hmore, rfl⟩
    · have hrest := ih hmore
      exact Piece.mem_readingsOfAll_group.2 (Or.inl hrest)
    · rw [reading_append]
      exact Piece.mem_readingsOfAll_group.2 (Or.inr ⟨_, ihp hitems, _, ih hmore, rfl⟩)

/-! ## Plans that can be said -/

/-- The letters of the words that stand directly at the beginning of a reading, one after the
other. -/
def run : List Piece → List Char
  | .word letters :: rest => letters ++ run rest
  | .group _ _ :: rest => run rest
  | _ => []

/-- Whether no word that ends in a letter or digit stands directly before one that begins with one. -/
def smooth : List Piece → Bool
  | [] => true
  | .word letters :: rest =>
    !(endsAlphanumeric letters && startsAlphanumeric (run rest)) && smooth rest
  | _ :: rest => smooth rest

/-- Whether a word without white space comes next and is followed by some, or by the end; or nothing
comes. -/
def parted : List Piece → Bool
  | [] => true
  | .space :: rest => parted rest
  | .word letters :: rest => letters.all (!isWhite ·) && !startsWord (run rest)
  | _ => false

/-- Whether every slot is followed by a word that can be told from what comes after it, or by
nothing. -/
def ending : List Piece → Bool
  | [] => true
  | .slot _ _ :: rest => parted rest && ending rest
  | _ :: rest => ending rest

/-- Whether no word begins with white space where white space has been passed: at the beginning, if
`passed` says so, after a space and after a slot. -/
def upright (passed : Bool) : List Piece → Bool
  | [] => true
  | .word letters :: rest => !(passed && letters.head?.any isWhite) && upright false rest
  | .group _ _ :: rest => upright passed rest
  | _ :: rest => upright true rest

/-- Nothing stands in the way of the words and slots that a plan leaves. -/
structure Sayable (plan : List Item) : Prop where
  /-- No two words run into each other. -/
  smooth : smooth (reading plan) = true
  /-- Every slot finds its end. -/
  ending : ending (reading plan) = true
  /-- No word begins with white space that has been passed already. -/
  upright : upright true (reading plan) = true

instance (plan : List Item) : Decidable (Sayable plan) :=
  decidable_of_iff (Template.smooth (reading plan) = true ∧ Template.ending (reading plan) = true ∧
      Template.upright true (reading plan) = true)
    ⟨fun ⟨a, b, c⟩ => ⟨a, b, c⟩, fun ⟨a, b, c⟩ => ⟨a, b, c⟩⟩

/-- Words without white space stand upright anywhere. -/
theorem upright_of_words {pieces : List Piece}
    (h : ∀ w ∈ Piece.wordsOfAll pieces, ∀ c ∈ w, isWhite c = false) (passed : Bool) :
    upright passed pieces = true := by
  induction pieces using Piece.listInduction generalizing passed with
  | nil => rfl
  | word letters rest ih =>
    have hstarts : letters.head?.any isWhite = false := by
      cases letters with
      | nil => rfl
      | cons c cs => exact h (c :: cs) List.mem_cons_self c List.mem_cons_self
    rw [upright, hstarts, Bool.and_false, Bool.not_false, Bool.true_and]
    exact ih (fun w hw => h w (List.mem_cons_of_mem _ hw)) false
  | space rest ih => exact ih h true
  | slot kind offset rest ih => exact ih h true
  | group inner offset rest ihp ih => exact ih (fun w hw => h w (List.mem_append_right _ hw)) passed

/-! ## Pieces that stand apart -/

namespace Piece

/-- Whether a piece can put a word beside another one: it is a word or a group. -/
def isSolid : Piece → Bool
  | .word _ => true
  | .group _ _ => true
  | _ => false

mutual

/-- Whether no two words or groups stand side by side within a piece. -/
def separate : Piece → Bool
  | .group pieces _ => separateAll pieces
  | _ => true

/-- Whether no two words or groups stand side by side among some pieces and within them. -/
def separateAll : List Piece → Bool
  | [] => true
  | piece :: rest =>
    separate piece && !(piece.isSolid && rest.head?.any isSolid) && separateAll rest

end

end Piece

/-- In a template without groups no two words stand side by side. -/
theorem separateAll_of_parse {template : String} {pieces : List Piece}
    (hparse : parse template = .ok pieces)
    (hgroups : ∀ inner offset, .group inner offset ∉ pieces) : Piece.separateAll pieces = true := by
  have hchain := (normal_of_parse hparse).row.apart
  clear hparse
  induction pieces with
  | nil => rfl
  | cons piece rest ih =>
    obtain ⟨hnext, hrest⟩ := List.isChain_cons.1 hchain
    have hlater := ih (fun inner offset h => hgroups inner offset (List.mem_cons_of_mem _ h)) hrest
    have hsolid : ∀ other ∈ piece :: rest, other.isSolid = other.isWord := by
      intro other hother
      cases other with
      | group inner offset => exact absurd hother (hgroups inner offset)
      | _ => rfl
    have hpiece : Piece.separate piece = true := by
      cases piece with
      | group inner offset => exact absurd List.mem_cons_self (hgroups inner offset)
      | _ => rfl
    rw [Piece.separateAll, hpiece, hlater, hsolid piece List.mem_cons_self, Bool.true_and, Bool.and_true,
      Bool.not_eq_true', Bool.and_eq_false_imp]
    intro hword
    cases hhead : rest.head? with
    | none => rfl
    | some next =>
      have hmem : next ∈ piece :: rest := List.mem_cons_of_mem _ (List.mem_of_head? hhead)
      exact (hsolid next hmem).trans ((hnext next hhead).word hword)

/-- A word without white space can be said before whatever does not begin with a word, and stands by
itself there. -/
theorem smooth_word {rest : List Piece} (hsmooth : smooth rest = true) (hrun : run rest = [])
    {letters : List Char} (hletters : ∀ c ∈ letters, isWhite c = false) :
    smooth (.word letters :: rest) = true ∧ parted (.word letters :: rest) = true := by
  have hfirst : startsAlphanumeric (run rest) = false ∧ startsWord (run rest) = false := by
    rw [hrun]
    exact ⟨rfl, rfl⟩
  constructor
  · rw [smooth, hfirst.1, Bool.and_false, hsmooth]
    rfl
  · rw [parted, hfirst.2]
    simpa using hletters

/-- Where no two words or groups stand side by side, all groups can be kept. What comes later stands
apart, and a slot at the end finds its end there. -/
theorem exists_plan_append {scope : Scope} {outer : Follow} {pieces : List Piece}
    {parts : List Pattern} (hparts : compilePieces scope outer pieces = .ok parts)
    (hseparate : Piece.separateAll pieces = true)
    (hwords : ∀ w ∈ Piece.wordsOfAll pieces, ∀ c ∈ w, isWhite c = false) :
    ∃ plan ∈ Piece.plansOfAll pieces, (∀ item ∈ plan, item.isKept = true) ∧
      ∀ later, smooth later = true → ending later = true →
        (outer.settled = true → parted later = true) → run later = [] →
        smooth (reading plan ++ later) = true ∧ ending (reading plan ++ later) = true ∧
          ((Follow.of outer pieces).settled = true → parted (reading plan ++ later) = true) ∧
          (pieces.head?.any Piece.isSolid = false → run (reading plan ++ later) = []) := by
  induction pieces using Piece.listInduction generalizing outer parts with
  | nil =>
    exact ⟨[], List.mem_singleton_self _, fun item h => absurd h List.not_mem_nil,
      fun later hsmooth hending hparted hrun => ⟨hsmooth, hending, hparted, fun _ => hrun⟩⟩
  | word letters rest ih =>
    obtain ⟨_, _, _, hothers, _⟩ := compilePieces_cons_eq_ok hparts
    obtain ⟨hopens, hrest⟩ := Bool.and_eq_true_iff.1 hseparate
    obtain ⟨hword, hrestWords⟩ := Piece.forall_wordsOfAll_cons.1 hwords
    obtain ⟨more, hmore, hkept, hlater⟩ := ih hothers hrest hrestWords
    refine ⟨_, (Piece.mem_plansOfAll_cons_of_leaf rfl).2 ⟨more, hmore, rfl⟩,
      List.forall_mem_cons.2 ⟨rfl, hkept⟩, ?_⟩
    intro later hsmooth hending hparted hrun
    obtain ⟨htail, hends, _, hopen⟩ := hlater later hsmooth hending hparted hrun
    -- white space follows, or nothing
    have hnext : run (reading more ++ later) = [] :=
      hopen (by simpa [Piece.isSolid] using (Bool.and_eq_true_iff.1 hopens).2)
    obtain ⟨hall, hfirst⟩ := smooth_word htail hnext (hword letters (List.mem_singleton_self _))
    exact ⟨hall, hends, fun _ => hfirst, fun h => by cases h⟩
  | space rest ih =>
    obtain ⟨_, _, _, hothers, _⟩ := compilePieces_cons_eq_ok hparts
    obtain ⟨_, hrest⟩ := Bool.and_eq_true_iff.1 hseparate
    obtain ⟨more, hmore, hkept, hlater⟩ := ih hothers hrest hwords
    refine ⟨_, (Piece.mem_plansOfAll_cons_of_leaf rfl).2 ⟨more, hmore, rfl⟩,
      List.forall_mem_cons.2 ⟨rfl, hkept⟩, ?_⟩
    intro later hsmooth hending hparted hrun
    obtain ⟨htail, hends, hnext, _⟩ := hlater later hsmooth hending hparted hrun
    exact ⟨htail, hends, hnext, fun _ => rfl⟩
  | slot kind offset rest ih =>
    obtain ⟨_, _, hslot, hothers, _⟩ := compilePieces_cons_eq_ok hparts
    obtain ⟨_, hrest⟩ := Bool.and_eq_true_iff.1 hseparate
    obtain ⟨more, hmore, hkept, hlater⟩ := ih hothers hrest hwords
    refine ⟨_, (Piece.mem_plansOfAll_cons_of_leaf rfl).2 ⟨more, hmore, rfl⟩,
      List.forall_mem_cons.2 ⟨rfl, hkept⟩, ?_⟩
    intro later hsmooth hending hparted hrun
    obtain ⟨htail, hends, hnext, _⟩ := hlater later hsmooth hending hparted hrun
    have hfollow : (Follow.of outer rest).settled = true := settled_of_compileSlot hslot
    exact ⟨htail, Bool.and_eq_true_iff.2 ⟨hnext hfollow, hends⟩,
      fun hsettled => absurd hsettled Bool.false_ne_true, fun _ => rfl⟩
  | group inner offset rest ihp ih =>
    obtain ⟨_, _, hfirst, hothers, _⟩ := compilePieces_cons_eq_ok hparts
    obtain ⟨innerParts, hinnerParts, _⟩ := compilePiece_group_eq_ok hfirst
    obtain ⟨hinner, hrest⟩ := Bool.and_eq_true_iff.1 hseparate
    obtain ⟨hinnerSeparate, hopens⟩ := Bool.and_eq_true_iff.1 hinner
    obtain ⟨hinnerWords, hrestWords⟩ := Piece.forall_wordsOfAll_cons.1 hwords
    obtain ⟨items, hitems, hkeptItems, hinnerLater⟩ := ihp hinnerParts hinnerSeparate hinnerWords
    obtain ⟨more, hmore, hkept, hlater⟩ := ih hothers hrest hrestWords
    refine ⟨_, Piece.mem_plansOfAll_group.2 (Or.inr ⟨items, hitems, more, hmore, rfl⟩),
      List.forall_mem_append.2 ⟨hkeptItems, hkept⟩, ?_⟩
    intro later hsmooth hending hparted hrun
    obtain ⟨htail, hends, hnext, hopen⟩ := hlater later hsmooth hending hparted hrun
    have hrunNext : run (reading more ++ later) = [] :=
      hopen (by simpa [Piece.isSolid] using hopens)
    obtain ⟨hall, hallEnds, _, _⟩ := hinnerLater _ htail hends hnext hrunNext
    rw [reading_append, List.append_assoc]
    exact ⟨hall, hallEnds, fun hsettled => absurd hsettled Bool.false_ne_true,
      fun hsolid => absurd hsolid.symm Bool.false_ne_true⟩

/-- In a template all groups can be kept if no word of it has white space in it, and it has no groups or
no two words or groups side by side. -/
theorem exists_sayable {scope : Scope} {template : String} {pieces : List Piece} {pattern : Pattern}
    (hparse : parse template = .ok pieces) (hcompile : compile scope template = .ok pattern)
    (hgroups : (∀ inner offset, .group inner offset ∉ pieces) ∨ Piece.separateAll pieces = true)
    (hwords : ∀ w ∈ Piece.wordsOfAll pieces, ∀ c ∈ w, isWhite c = false) :
    ∃ plan ∈ Piece.plansOfAll pieces, Sayable plan ∧ ∀ item ∈ plan, item.isKept = true := by
  obtain ⟨read, parts, hread, hparts, rfl⟩ := compile_eq_ok hcompile
  obtain rfl := Except.ok.inj (hparse.symm.trans hread)
  obtain ⟨plan, hplan, hkept, hall⟩ :=
    exists_plan_append hparts (hgroups.elim (separateAll_of_parse hparse) id) hwords
  obtain ⟨hsmooth, hending, _, _⟩ := hall [] rfl rfl (fun _ => rfl) rfl
  rw [List.append_nil] at hsmooth hending
  refine ⟨plan, hplan, ⟨hsmooth, hending, upright_of_words (fun w hw => hwords w ?_) true⟩, hkept⟩
  exact (Piece.wordsOfAll_sublist (reading_mem hplan)).mem hw

end Muster.Template
