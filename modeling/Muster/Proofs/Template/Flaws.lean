import Mathlib.Data.Prod.Lex
import Muster.Proofs.Template.Tokens

/-!
# What is wrong with a template

The flaws of a template can be told from the tokens it is written in (`Flaw`). A token can be wrong
where it stands (`Wrong`), and so can the end of the template. Groups that are left open, a template
without content and kinds of slots that are named again come up only after the last token.

An outline tells what it takes to find them: the groups that are open, whether anything has been put
in the innermost one, and the slots so far (`Outline.Holds`). A token that is wrong cannot be added
to it, and any other token can be added, after which the outline tells the same things again.
-/

namespace Muster.Template

open Muster.Text Muster.Unicode

namespace Token

/-! ## Open groups -/

/-- The groups that are open after a token at an offset, innermost first, each given by the offset
of its bracket. -/
def openAfter (offset : Nat) (groups : List Nat) : Token → List Nat
  | .opening => offset :: groups
  | .closing => groups.tail
  | _ => groups

/-- The groups that are open after some tokens that begin at an offset. -/
def openFrom (offset : Nat) (groups : List Nat) : List Token → List Nat
  | [] => groups
  | token :: tokens =>
    openFrom (offset + byteLength token.text) (token.openAfter offset groups) tokens

/-- The groups that some tokens leave open. -/
def openGroups (tokens : List Token) : List Nat := openFrom 0 [] tokens

theorem openFrom_append (offset : Nat) (groups : List Nat) (tokens more : List Token) :
    openFrom offset groups (tokens ++ more) =
      openFrom (offset + width tokens) (openFrom offset groups tokens) more := by
  induction tokens generalizing offset groups with
  | nil => rfl
  | cons token tokens ih =>
    rw [List.cons_append, openFrom, ih, openFrom, width_cons, Nat.add_assoc]

theorem openGroups_concat (past : List Token) (token : Token) :
    openGroups (past ++ [token]) = token.openAfter (width past) (openGroups past) := by
  rw [openGroups, openFrom_append, Nat.zero_add]
  rfl

theorem openFrom_of_isBlank {blanks : List Token} (h : ∀ token ∈ blanks, token.isBlank = true)
    (offset : Nat) (groups : List Nat) : openFrom offset groups blanks = groups := by
  induction blanks generalizing offset with
  | nil => rfl
  | cons token blanks ih =>
    rw [List.forall_mem_cons] at h
    have hsame : token.openAfter offset groups = groups := by
      cases token with
      | blank c => rfl
      | _ => cases h.1
    rw [openFrom, hsame, ih h.2]

/-- A bracket with nothing but white space after it opens the innermost group. -/
theorem openGroups_of_isBlank (before : List Token) {blanks : List Token}
    (h : ∀ token ∈ blanks, token.isBlank = true) :
    openGroups (before ++ .opening :: blanks) = width before :: openGroups before := by
  rw [openGroups, openFrom_append, openFrom, openFrom_of_isBlank h, Nat.zero_add]
  rfl

/-- A group that is left open has its bracket at its offset. -/
theorem exists_opening_of_mem_openGroups {tokens : List Token} {start : Nat}
    (h : start ∈ openGroups tokens) :
    ∃ before after, tokens = before ++ .opening :: after ∧ start = width before := by
  induction tokens using List.reverseRecOn with
  | nil => cases h
  | append_singleton past token ih =>
    have hpast : start ∈ openGroups past →
        ∃ before after, past ++ [token] = before ++ .opening :: after ∧ start = width before := by
      intro hmem
      obtain ⟨before, after, rfl, hstart⟩ := ih hmem
      exact ⟨before, after ++ [token], by rw [List.append_assoc, List.cons_append], hstart⟩
    rw [openGroups_concat] at h
    cases token with
    | opening =>
      rcases List.mem_cons.1 h with rfl | hmem
      · exact ⟨past, [], rfl, rfl⟩
      · exact hpast hmem
    | closing => exact hpast (List.mem_of_mem_tail h)
    | _ => exact hpast h

/-! ## Content -/

/-- The last of some tokens that is not white space. -/
def lastSolid? (tokens : List Token) : Option Token := tokens.reverse.find? (!·.isBlank)

theorem lastSolid?_concat (past : List Token) (token : Token) :
    lastSolid? (past ++ [token]) = if token.isBlank then lastSolid? past else some token := by
  rw [lastSolid?, List.reverse_concat, List.find?_cons]
  cases token.isBlank <;> rfl

theorem lastSolid?_eq_none_iff {tokens : List Token} :
    lastSolid? tokens = none ↔ ∀ token ∈ tokens, token.isBlank = true := by
  simp [lastSolid?]

/-- Nothing but white space follows the last token that is none. -/
theorem exists_eq_append_of_lastSolid? {tokens : List Token} {token : Token}
    (h : lastSolid? tokens = some token) :
    ∃ before blanks, tokens = before ++ token :: blanks ∧
      ∀ blank ∈ blanks, blank.isBlank = true := by
  obtain ⟨_, blanks, before, htokens, hblanks⟩ := List.find?_eq_some_iff_append.1 h
  refine ⟨before.reverse, blanks.reverse, ?_, fun blank hblank => ?_⟩
  · rw [← List.reverse_reverse tokens, htokens, List.reverse_append, List.reverse_cons,
      List.append_assoc, List.singleton_append]
  · simpa using hblanks blank (List.mem_reverse.1 hblank)

theorem lastSolid?_of_isBlank (before : List Token) {token : Token} (htoken : token.isBlank = false)
    {blanks : List Token} (h : ∀ blank ∈ blanks, blank.isBlank = true) :
    lastSolid? (before ++ token :: blanks) = some token := by
  refine List.find?_eq_some_iff_append.2 ⟨by simp [htoken], blanks.reverse, before.reverse, ?_, ?_⟩
  · rw [List.reverse_append, List.reverse_cons, List.append_assoc, List.singleton_append]
  · exact fun blank hblank => by simp [h blank (List.mem_reverse.1 hblank)]

/-! ## Slots -/

/-- The slots that are named by some tokens that begin at an offset, with their offsets. -/
def slotsFrom (offset : Nat) : List Token → List (SlotKind × Nat)
  | [] => []
  | token :: tokens =>
    (token.kind?.map (·, offset)).toList ++ slotsFrom (offset + byteLength token.text) tokens

theorem slotsFrom_append (offset : Nat) (tokens more : List Token) :
    slotsFrom offset (tokens ++ more) =
      slotsFrom offset tokens ++ slotsFrom (offset + width tokens) more := by
  induction tokens generalizing offset with
  | nil => rfl
  | cons token tokens ih =>
    rw [List.cons_append, slotsFrom, ih, slotsFrom, width_cons, Nat.add_assoc, List.append_assoc]

theorem slotsFrom_concat (past : List Token) (token : Token) :
    slotsFrom 0 (past ++ [token]) =
      slotsFrom 0 past ++ (token.kind?.map (·, width past)).toList := by
  rw [slotsFrom_append, slotsFrom, slotsFrom, List.append_nil, Nat.zero_add]

theorem map_fst_slotsFrom (offset : Nat) (tokens : List Token) :
    (slotsFrom offset tokens).map (·.1) = tokens.filterMap kind? := by
  induction tokens generalizing offset with
  | nil => rfl
  | cons token tokens ih =>
    rw [slotsFrom, List.map_append, ih, List.filterMap_cons]
    cases token.kind? <;> rfl

end Token

open Token

/-! ## Flaws -/

/-- What is wrong with a token that comes after others. -/
inductive Wrong (past : List Token) : Token → Defect → Prop where
  /-- A closing bracket closes no group. -/
  | closing (hopen : openGroups past = []) :
    Wrong past .closing (.unexpectedClosing ']' (width past))
  /-- It closes a group that has only white space. -/
  | emptyGroup {before blanks : List Token} (hpast : past = before ++ .opening :: blanks)
    (hblanks : ∀ blank ∈ blanks, blank.isBlank = true) :
    Wrong past .closing (.emptyGroup (width before))
  /-- A closing brace closes nothing. -/
  | endBrace : Wrong past .endBrace (.unexpectedClosing '}' (width past))
  /-- There is nothing between braces but white space. -/
  | emptySlot {name : List Char} (hname : trim name = []) :
    Wrong past (.braces name) (.emptySlot (width past))
  /-- What is between braces names no kind of slot. -/
  | unknownSlot {name : List Char} (hname : trim name ≠ [])
    (hkind : (Token.braces name).kind? = none) :
    Wrong past (.braces name) (.unknownSlot (String.ofList (trim name)) (width past))

/-- A flaw of a template, and when it comes up: at a token or at the end of the template (`0`), or
later when the groups (`1`), the content (`2`) and the slots (`3`) of the whole template are looked
at, and then in the order in which this is done. -/
inductive Flaw (tokens : List Token) (ending : Ending) : ℕ ×ₗ ℕ → Defect → Prop where
  /-- A token is wrong after those before it. -/
  | token {past rest : List Token} {token : Token} {defect : Defect}
    (htokens : tokens = past ++ token :: rest) (hwrong : Wrong past token defect) :
    Flaw tokens ending (toLex (0, past.length)) defect
  /-- There is a backslash at the end. -/
  | trailingBackslash (hending : ending = .backslash) :
    Flaw tokens ending (toLex (0, tokens.length)) .trailingBackslash
  /-- The last brace is not closed. -/
  | unclosedBrace {name : List Char} (hending : ending = .openBrace name) :
    Flaw tokens ending (toLex (0, tokens.length)) (.unclosedBrace (width tokens))
  /-- A group is left open. The innermost one comes up first. -/
  | unclosedBracket {inner outer : List Nat} {start : Nat}
    (hopen : openGroups tokens = inner ++ start :: outer) :
    Flaw tokens ending (toLex (1, inner.length)) (.unclosedBracket start)
  /-- There is only white space. -/
  | empty (hblanks : ∀ token ∈ tokens, token.isBlank = true) (hending : ending = .complete) :
    Flaw tokens ending (toLex (2, 0)) .empty
  /-- A kind of slot is named that was named before. -/
  | repeatedSlot {past rest : List Token} {token : Token} {kind : SlotKind}
    (htokens : tokens = past ++ token :: rest) (hkind : token.kind? = some kind)
    (hpast : kind ∈ past.filterMap kind?) :
    Flaw tokens ending (toLex (3, past.length)) (.repeatedSlot kind (width past))

/-- The character that a defect speaks of, and its offset. -/
def Defect.site? : Defect → Option (Char × Nat)
  | .unclosedBracket offset | .emptyGroup offset => some ('[', offset)
  | .unexpectedClosing mark offset => some (mark, offset)
  | .unclosedBrace offset | .emptySlot offset | .unknownSlot _ offset => some ('{', offset)
  | .repeatedSlot _ offset | .adjacentSlots _ offset | .unboundedSlot _ offset => some ('{', offset)
  | .empty | .unavailableSlot _ | .trailingBackslash => none

namespace Outline

/-! ## What an outline tells of the tokens before it -/

/-- The pieces of an outline, in reading order. Those of the open groups are not told apart. -/
def pieces (outline : Outline) : List Piece :=
  (outline.inner ++ outline.enclosing.flatMap (·.2)).reverse

/-- An outline that some tokens lead to has the groups that they leave open, its innermost part is
empty if nothing but white space follows a bracket or the beginning, and it has the slots that are
named. -/
structure Holds (past : List Token) (outline : Outline) : Prop where
  groups : outline.enclosing.map (·.1) = openGroups past
  content : dropSpace outline.inner = [] ↔ ∀ token ∈ lastSolid? past, token = .opening
  slots : Piece.slotsOfAll outline.pieces = slotsFrom 0 past

theorem holds_empty : Holds [] {} where
  groups := rfl
  content := by simp [dropSpace, lastSolid?]
  slots := rfl

theorem dropSpace_addSpace (pieces : List Piece) :
    dropSpace (addSpace pieces) = dropSpace pieces := by
  match pieces with
  | [] => rfl
  | .space :: _ => rfl
  | .word _ :: _ => rfl
  | .group _ _ :: _ => rfl
  | .slot _ _ :: _ => rfl

theorem dropSpace_addLetters_ne_nil (chars : List Char) (pieces : List Piece) :
    dropSpace (addLetters chars pieces) ≠ [] := by
  unfold addLetters
  split <;> exact List.cons_ne_nil _ _

theorem slotsOfAll_reverse_cons (piece : Piece) (pieces : List Piece) :
    Piece.slotsOfAll (piece :: pieces).reverse =
      Piece.slotsOfAll pieces.reverse ++ Piece.slots piece := by
  rw [List.reverse_cons, Piece.slotsOfAll_append, Piece.slotsOfAll, Piece.slotsOfAll,
    List.append_nil]

theorem slotsOfAll_reverse_addSpace (pieces : List Piece) :
    Piece.slotsOfAll (addSpace pieces).reverse = Piece.slotsOfAll pieces.reverse := by
  unfold addSpace
  split
  · rfl
  · rfl
  · rw [slotsOfAll_reverse_cons, Piece.slots, List.append_nil]

theorem slotsOfAll_reverse_dropSpace (pieces : List Piece) :
    Piece.slotsOfAll (dropSpace pieces).reverse = Piece.slotsOfAll pieces.reverse := by
  unfold dropSpace
  split
  · rw [slotsOfAll_reverse_cons, Piece.slots, List.append_nil]
  · rfl

theorem slotsOfAll_reverse_addLetters (chars : List Char) (pieces : List Piece) :
    Piece.slotsOfAll (addLetters chars pieces).reverse = Piece.slotsOfAll pieces.reverse := by
  unfold addLetters
  split <;> simp only [slotsOfAll_reverse_cons, Piece.slots]
  rw [List.append_nil]

theorem slotsOfAll_pieces (outline : Outline) :
    Piece.slotsOfAll outline.pieces =
      Piece.slotsOfAll (outline.enclosing.flatMap (·.2)).reverse ++
        Piece.slotsOfAll outline.inner.reverse := by
  rw [pieces, List.reverse_append, Piece.slotsOfAll_append]

variable {past : List Token} {outline : Outline}

/-- What comes after a token that is not white space is told by that token. -/
theorem content_concat {pieces : List Piece} {token : Token} (hsolid : token.isBlank = false)
    (h : dropSpace pieces = [] ↔ token = .opening) :
    dropSpace pieces = [] ↔ ∀ last ∈ lastSolid? (past ++ [token]), last = .opening := by
  rw [lastSolid?_concat, hsolid, h]
  simp

/-- In the innermost group there is nothing exactly if there is a bracket with only white space
after it. -/
theorem Holds.dropSpace_eq_nil_iff (h : outline.Holds past) (hopen : openGroups past ≠ []) :
    dropSpace outline.inner = [] ↔ lastSolid? past = some .opening := by
  rw [h.content]
  constructor
  · intro hlast
    cases hsolid : lastSolid? past with
    | some token => rw [hlast token hsolid]
    | none =>
      -- white space alone opens no group
      exact absurd (openFrom_of_isBlank (lastSolid?_eq_none_iff.1 hsolid) 0 []) hopen
  · intro hsolid token htoken
    rw [hsolid] at htoken
    exact (Option.some.inj htoken).symm

/-- A token that is wrong cannot be added. -/
theorem Holds.add_eq_error {token : Token} {defect : Defect} (h : outline.Holds past)
    (hwrong : Wrong past token defect) :
    (token.mark (width past) >>= outline.add) = .error defect := by
  cases hwrong with
  | closing hopen =>
    have hgroups := h.groups
    rw [hopen, List.map_eq_nil_iff] at hgroups
    show outline.add (.closing (width past)) = _
    rw [Outline.add, hgroups]
  | @emptyGroup before blanks hpast hblanks =>
    have hopen : openGroups past = width before :: openGroups before := by
      rw [hpast, openGroups_of_isBlank before hblanks]
    have hinner : dropSpace outline.inner = [] := by
      rw [h.dropSpace_eq_nil_iff (by simp [hopen]), hpast]
      exact lastSolid?_of_isBlank before rfl hblanks
    have hgroups := h.groups
    rw [hopen, List.map_eq_cons_iff] at hgroups
    obtain ⟨⟨start, outer⟩, enclosing, henclosing, hstart, _⟩ := hgroups
    show outline.add (.closing (width past)) = _
    rw [Outline.add, henclosing]
    simp only [hinner]
    rw [← hstart]
  | endBrace => rfl
  | emptySlot hname =>
    rw [Token.mark, slotNamed]
    simp only [hname, List.isEmpty_nil, if_true]
    rfl
  | unknownSlot hname hkind =>
    rw [Token.kind?] at hkind
    have hfilled : (trim _).isEmpty = false := List.isEmpty_eq_false_iff.2 hname
    rw [Token.mark, slotNamed]
    simp only [hfilled, hkind]
    rfl

/-! One lemma for each kind of mark says that an outline goes on to tell what is to be told. -/

theorem Holds.letters (h : outline.Holds past) (chars : List Char) {token : Token}
    (hsolid : token.isBlank = false) (hopening : token ≠ .opening) (hkind : token.kind? = none)
    (hopen : token.openAfter (width past) (openGroups past) = openGroups past) :
    Holds (past ++ [token]) { outline with inner := addLetters chars outline.inner } where
  groups := by rw [openGroups_concat, hopen, ← h.groups]
  content := content_concat hsolid
    (iff_of_false (dropSpace_addLetters_ne_nil chars outline.inner) hopening)
  slots := by
    rw [slotsFrom_concat, hkind, ← h.slots, slotsOfAll_pieces, slotsOfAll_pieces,
      slotsOfAll_reverse_addLetters]
    exact (List.append_nil _).symm

theorem Holds.blank (h : outline.Holds past) (c : Char) :
    Holds (past ++ [.blank c]) { outline with inner := addSpace outline.inner } where
  groups := by
    rw [openGroups_concat]
    exact h.groups
  content := by
    rw [dropSpace_addSpace, lastSolid?_concat]
    exact h.content
  slots := by
    rw [slotsFrom_concat, ← h.slots, slotsOfAll_pieces, slotsOfAll_pieces,
      slotsOfAll_reverse_addSpace]
    exact (List.append_nil _).symm

theorem Holds.opening (h : outline.Holds past) :
    Holds (past ++ [.opening])
      { inner := [], enclosing := (width past, outline.inner) :: outline.enclosing } where
  groups := by rw [openGroups_concat, openAfter, ← h.groups, List.map_cons]
  content := content_concat rfl (iff_of_true rfl rfl)
  slots := by
    rw [slotsFrom_concat, ← h.slots, slotsOfAll_pieces, slotsOfAll_pieces, List.flatMap_cons,
      List.reverse_append, Piece.slotsOfAll_append]
    rfl

theorem Holds.closing (h : outline.Holds past) {start : Nat} {before : List Piece}
    {enclosing : List (Nat × List Piece)}
    (henclosing : outline.enclosing = (start, before) :: enclosing) :
    Holds (past ++ [.closing])
      { inner := .group (dropSpace outline.inner).reverse start :: before, enclosing } where
  groups := by
    rw [openGroups_concat, openAfter, ← h.groups, henclosing, List.map_cons, List.tail_cons]
  content := content_concat rfl (iff_of_false (List.cons_ne_nil _ _) nofun)
  slots := by
    rw [slotsFrom_concat, ← h.slots, slotsOfAll_pieces, slotsOfAll_pieces, henclosing,
      List.flatMap_cons, List.reverse_append, Piece.slotsOfAll_append, slotsOfAll_reverse_cons,
      Piece.slots, slotsOfAll_reverse_dropSpace, List.append_assoc, List.append_assoc]
    exact congrArg _ (congrArg _ (List.append_nil _).symm)

theorem Holds.slot (h : outline.Holds past) {name : List Char} {kind : SlotKind}
    (hkind : (Token.braces name).kind? = some kind) :
    Holds (past ++ [.braces name])
      { outline with inner := .slot kind (width past) :: outline.inner } where
  groups := by
    rw [openGroups_concat]
    exact h.groups
  content := content_concat rfl (iff_of_false (List.cons_ne_nil _ _) nofun)
  slots := by
    rw [slotsFrom_concat, hkind, ← h.slots, slotsOfAll_pieces, slotsOfAll_pieces,
      slotsOfAll_reverse_cons, List.append_assoc]
    rfl

/-- A token that is not wrong is added. -/
theorem Holds.add_eq_ok {token : Token} (h : outline.Holds past)
    (hfine : ∀ defect, ¬ Wrong past token defect) :
    ∃ next, (token.mark (width past) >>= outline.add) = .ok next ∧
      next.Holds (past ++ [token]) := by
  cases token with
  | letter c => exact ⟨_, rfl, h.letters (lowerChar c) rfl nofun rfl rfl⟩
  | escaped c => exact ⟨_, rfl, h.letters (lowerChar c) rfl nofun rfl rfl⟩
  | blank c => exact ⟨_, rfl, h.blank c⟩
  | opening => exact ⟨_, rfl, h.opening⟩
  | closing =>
    have hgroups := h.groups
    cases henclosing : outline.enclosing with
    | nil =>
      rw [henclosing] at hgroups
      exact absurd (.closing hgroups.symm) (hfine _)
    | cons group enclosing =>
      obtain ⟨start, before⟩ := group
      rw [henclosing] at hgroups
      have hopen : openGroups past ≠ [] := by
        rw [← hgroups]
        exact List.cons_ne_nil _ _
      have hfilled : dropSpace outline.inner ≠ [] := by
        rw [Ne, h.dropSpace_eq_nil_iff hopen]
        intro hlast
        obtain ⟨before, blanks, hpast, hblanks⟩ := exists_eq_append_of_lastSolid? hlast
        exact hfine _ (.emptyGroup hpast hblanks)
      refine ⟨_, ?_, h.closing henclosing⟩
      show outline.add (.closing (width past)) = _
      rw [Outline.add, henclosing]
      cases hinner : dropSpace outline.inner with
      | nil => exact absurd hinner hfilled
      | cons piece pieces => rfl
  | endBrace => exact absurd .endBrace (hfine _)
  | braces name =>
    have hname : trim name ≠ [] := fun hname => hfine _ (.emptySlot hname)
    cases hkind : (Token.braces name).kind? with
    | none => exact absurd (.unknownSlot hname hkind) (hfine _)
    | some kind =>
      have hnamed : slotNamed (width past) name = .ok kind := by
        rw [Token.kind?] at hkind
        rw [slotNamed]
        simp only [List.isEmpty_eq_false_iff.2 hname, hkind]
        rfl
      refine ⟨_, ?_, h.slot hkind⟩
      rw [Token.mark, hnamed]
      rfl

end Outline

/-! ## The end of a template -/

namespace Outline

variable {past : List Token} {outline : Outline}

theorem Holds.conclude_of_open (h : outline.Holds past) {start : Nat} {outer : List Nat}
    (hopen : openGroups past = start :: outer) :
    outline.conclude = .error (.unclosedBracket start) := by
  have hgroups := h.groups
  rw [hopen, List.map_eq_cons_iff] at hgroups
  obtain ⟨group, enclosing, henclosing, hstart, _⟩ := hgroups
  rw [conclude, finish, henclosing, ← hstart]
  rfl

theorem Holds.conclude_of_isBlank (h : outline.Holds past)
    (hblanks : ∀ token ∈ past, token.isBlank = true) : outline.conclude = .error .empty := by
  have hgroups := h.groups
  rw [openGroups, openFrom_of_isBlank hblanks, List.map_eq_nil_iff] at hgroups
  have hinner : dropSpace outline.inner = [] := by
    rw [h.content, lastSolid?_eq_none_iff.2 hblanks]
    exact nofun
  rw [conclude, finish, hgroups]
  simp only [hinner]
  rfl

/-- Where all groups are closed and there is content, only a slot can be at fault. -/
theorem Holds.conclude_of_content (h : outline.Holds past) (hopen : openGroups past = [])
    (hsolid : ∃ token ∈ past, token.isBlank = false) :
    ∃ pieces, outline.conclude =
      match repeatedSlot? [] (slotsFrom 0 past) with
      | some (kind, offset) => .error (.repeatedSlot kind offset)
      | none => .ok pieces := by
  have hgroups := h.groups
  rw [hopen, List.map_eq_nil_iff] at hgroups
  have hfilled : dropSpace outline.inner ≠ [] := by
    rw [Ne, h.content]
    intro hlast
    cases hfind : lastSolid? past with
    | none =>
      obtain ⟨token, htoken, hblank⟩ := hsolid
      rw [lastSolid?_eq_none_iff.1 hfind token htoken] at hblank
      cases hblank
    | some token =>
      -- a bracket with only white space after it would be open
      obtain ⟨before, blanks, hpast, hblanks⟩ := exists_eq_append_of_lastSolid? hfind
      rw [hpast, hlast token hfind, openGroups_of_isBlank before hblanks] at hopen
      cases hopen
  have hslots : Piece.slotsOfAll (dropSpace outline.inner).reverse = slotsFrom 0 past := by
    rw [slotsOfAll_reverse_dropSpace, ← h.slots, slotsOfAll_pieces, hgroups]
    rfl
  have hfinish : outline.finish = .ok (dropSpace outline.inner).reverse := by
    rw [finish, hgroups]
    cases hinner : dropSpace outline.inner with
    | nil => exact absurd hinner hfilled
    | cons piece pieces => rfl
  refine ⟨(dropSpace outline.inner).reverse, ?_⟩
  rw [conclude, hfinish, ← hslots]
  rfl

end Outline

end Muster.Template
