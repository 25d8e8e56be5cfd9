import Mathlib.Order.WellFounded
import Muster.Proofs.Pattern.Offsets
import Muster.Proofs.Template.Flaws

/-!
# The defect that is reported

A template can be read exactly if it has no flaw. Otherwise the defect that is reported is the flaw
that comes up first, and the character that it speaks of stands at its offset
(`parse_reports_first_flaw`).
-/

namespace Muster.Template

open Muster.Text Token

/-! ## Reading tokens that are not wrong -/

/-- None of some tokens is wrong after those before it. -/
def Fine (past tokens : List Token) : Prop :=
  ∀ before token after, tokens = before ++ token :: after →
    ∀ defect, ¬ Wrong (past ++ before) token defect

theorem Fine.tail {past tokens : List Token} {token : Token} (h : Fine past (token :: tokens)) :
    Fine (past ++ [token]) tokens := by
  intro before other after htokens
  rw [List.append_assoc, List.singleton_append]
  exact h (token :: before) other after (by rw [htokens, List.cons_append])

/-- Tokens that are not wrong are taken in one after the other. -/
theorem Outline.Holds.readFrom_textOf {past tokens : List Token} {outline : Outline}
    (h : outline.Holds past) (hproper : ∀ token ∈ tokens, token.IsProper)
    (hfine : Fine past tokens) (rest : List Char) :
    ∃ next : Outline, next.Holds (past ++ tokens) ∧
      readFrom outline (width past) (textOf tokens ++ rest) =
        readFrom next (width (past ++ tokens)) rest := by
  induction tokens generalizing past outline with
  | nil => exact ⟨outline, by rwa [List.append_nil], by rw [List.append_nil]; rfl⟩
  | cons token tokens ih =>
    rw [List.forall_mem_cons] at hproper
    have hfirst := hfine [] token tokens rfl
    rw [List.append_nil] at hfirst
    obtain ⟨next, hadd, hnext⟩ := h.add_eq_ok hfirst
    obtain ⟨last, hlast, hread⟩ := ih hnext hproper.2 hfine.tail
    refine ⟨last, by rwa [List.append_cons], ?_⟩
    rw [textOf_cons, List.append_assoc, readFrom_text hproper.1, hadd, List.append_cons, ← hread,
      width_append, width_singleton]
    rfl

/-- A template is read up to a token if none before it is wrong. -/
theorem WrittenAs.exists_readFrom {template : List Char} {tokens : List Token} {ending : Ending}
    (h : WrittenAs template tokens ending) {before rest : List Token}
    (htokens : tokens = before ++ rest) (hfine : Fine [] before) :
    ∃ outline : Outline, outline.Holds before ∧
      parseChars template = readFrom outline (width before) (textOf rest ++ ending.text) := by
  have hproper : ∀ token ∈ before, token.IsProper := fun token htoken =>
    h.tokens token (htokens ▸ List.mem_append_left rest htoken)
  obtain ⟨outline, houtline, hread⟩ :=
    Outline.holds_empty.readFrom_textOf hproper hfine (textOf rest ++ ending.text)
  refine ⟨outline, houtline, ?_⟩
  rw [List.nil_append] at hread
  rw [parseChars_eq_readFrom, h.text, htokens, textOf_append, List.append_assoc]
  exact hread

/-- No slot is reported if no token names a kind that was named before. -/
theorem repeatedSlot?_slotsFrom {tokens : List Token}
    (h : ∀ before token after kind, tokens = before ++ token :: after → token.kind? = some kind →
      kind ∉ before.filterMap kind?) : repeatedSlot? [] (slotsFrom 0 tokens) = none := by
  have hnodup : (tokens.filterMap kind?).Nodup := by
    induction tokens using List.reverseRecOn with
    | nil => exact List.nodup_nil
    | append_singleton past token ih =>
      have hpast := ih fun before other after kind hpast =>
        h before other (after ++ [token]) kind (by rw [hpast, List.append_assoc, List.cons_append])
      rw [List.filterMap_append, List.filterMap_cons, List.filterMap_nil]
      cases hkind : token.kind? with
      | none => rwa [List.append_nil]
      | some kind =>
        refine List.nodup_append.2
          ⟨hpast, List.pairwise_singleton _ kind, fun other hother last hlast => ?_⟩
        rintro rfl
        rw [List.mem_singleton.1 hlast] at hother
        exact h past token [] kind rfl hkind hother
  exact repeatedSlot?_eq_none (by rwa [map_fst_slotsFrom]) fun _ _ => List.not_mem_nil

/-- The slot reported is the first one whose kind has occurred. -/
theorem repeatedSlot?_append {seen : List SlotKind} {earlier : List (SlotKind × Nat)}
    (hearlier : repeatedSlot? seen earlier = none) {kind : SlotKind}
    (hkind : kind ∈ seen ∨ kind ∈ earlier.map (·.1)) (offset : Nat)
    (later : List (SlotKind × Nat)) :
    repeatedSlot? seen (earlier ++ (kind, offset) :: later) = some (kind, offset) := by
  induction earlier generalizing seen with
  | nil =>
    have hseen : kind ∈ seen := hkind.resolve_right List.not_mem_nil
    rw [List.nil_append, repeatedSlot?, if_pos hseen]
  | cons slot earlier ih =>
    obtain ⟨first, start⟩ := slot
    rw [repeatedSlot?] at hearlier
    rw [List.cons_append, repeatedSlot?]
    split at hearlier
    · cases hearlier
    · next hfirst =>
      rw [if_neg hfirst]
      refine ih hearlier ?_
      rcases hkind with hseen | hmem
      · exact Or.inl (List.mem_cons_of_mem first hseen)
      · rcases List.mem_cons.1 hmem with heq | hmem
        · exact Or.inl (List.mem_cons.2 (Or.inl heq))
        · exact Or.inr hmem

/-! ## The flaw that is reported -/

section

variable {template : List Char} {tokens : List Token} {ending : Ending} {moment : ℕ ×ₗ ℕ}

/-- The innermost of the groups that are left open comes up first of them. -/
theorem Flaw.innermost {start : Nat} {outer : List Nat}
    (hopen : openGroups tokens = start :: outer) :
    Flaw tokens ending (toLex (1, 0)) (.unclosedBracket start) :=
  Flaw.unclosedBracket (show openGroups tokens = [] ++ start :: outer from hopen)

section

variable (hfirst : ∀ other defect, Flaw tokens ending other defect → moment ≤ other)

include hfirst

/-- Before the first flaw comes up, no token is wrong. -/
theorem fine_of_first {before rest : List Token} (htokens : tokens = before ++ rest)
    (hlate : toLex (0, before.length) ≤ moment) : Fine [] before := by
  intro past token after hbefore defect hwrong
  have hsplit : tokens = past ++ token :: (after ++ rest) := by
    rw [htokens, hbefore, List.append_assoc, List.cons_append]
  have hle := hlate.trans (hfirst _ _ (.token hsplit hwrong))
  rw [Prod.Lex.toLex_le_toLex, hbefore, List.length_append, List.length_cons] at hle
  omega

/-- If the first flaw comes up behind the tokens, all of them are taken in. -/
theorem WrittenAs.exists_readFrom_of_late (h : WrittenAs template tokens ending)
    (hlate : toLex (0, tokens.length) ≤ moment) :
    ∃ outline : Outline, outline.Holds tokens ∧
      parseChars template = readFrom outline (width tokens) ending.text :=
  have htokens : tokens = tokens ++ [] := (List.append_nil tokens).symm
  h.exists_readFrom htokens (fine_of_first hfirst htokens hlate)

/-- If it comes up behind the end of the template, the outline of all tokens is not continued. -/
theorem WrittenAs.exists_conclude_of_late (h : WrittenAs template tokens ending)
    (hlate : toLex (1, 0) ≤ moment) :
    ∃ outline : Outline, outline.Holds tokens ∧ parseChars template = outline.conclude := by
  have hend : toLex (0, tokens.length) ≤ toLex (1, 0) :=
    Prod.Lex.toLex_le_toLex.2 (Or.inl Nat.zero_lt_one)
  obtain ⟨outline, houtline, hparse⟩ := h.exists_readFrom_of_late hfirst (hend.trans hlate)
  have hnot : ∀ defect, ¬ Flaw tokens ending (toLex (0, tokens.length)) defect := by
    intro defect hflaw
    have hle := hlate.trans (hfirst _ _ hflaw)
    rw [Prod.Lex.toLex_le_toLex] at hle
    omega
  cases ending with
  | complete => exact ⟨outline, houtline, by rw [hparse, Ending.text, readFrom_complete]⟩
  | backslash => exact absurd (.trailingBackslash rfl) (hnot _)
  | openBrace name => exact absurd (.unclosedBrace rfl) (hnot _)

/-- If it comes up behind the groups, none of them is left open. -/
theorem openGroups_of_late (hlate : toLex (2, 0) ≤ moment) : openGroups tokens = [] := by
  cases hopen : openGroups tokens with
  | nil => rfl
  | cons start outer =>
    have hle := hlate.trans (hfirst _ _ (.innermost hopen))
    rw [Prod.Lex.toLex_le_toLex] at hle
    omega

end

/-- The first flaw is reported. -/
theorem WrittenAs.parseChars_eq_error (h : WrittenAs template tokens ending) {defect : Defect}
    (hflaw : Flaw tokens ending moment defect)
    (hfirst : ∀ other defect, Flaw tokens ending other defect → moment ≤ other) :
    parseChars template = .error defect := by
  cases hflaw with
  | @token past rest token defect htokens hwrong =>
    obtain ⟨outline, houtline, hparse⟩ :=
      h.exists_readFrom htokens (fine_of_first hfirst htokens le_rfl)
    have htoken : token.IsProper := h.tokens token (by rw [htokens]; simp)
    rw [hparse, textOf_cons, List.append_assoc, readFrom_text htoken,
      houtline.add_eq_error hwrong]
    rfl
  | trailingBackslash hending =>
    obtain ⟨outline, _, hparse⟩ := h.exists_readFrom_of_late hfirst le_rfl
    rw [hparse, hending, Ending.text, readFrom_backslash]
  | unclosedBrace hending =>
    obtain ⟨outline, _, hparse⟩ := h.exists_readFrom_of_late hfirst le_rfl
    have hname := h.ending
    rw [hending] at hname
    rw [hparse, hending, Ending.text, readFrom_openBrace outline _ hname]
  | @unclosedBracket inner outer start hopen =>
    obtain ⟨outline, houtline, hparse⟩ := h.exists_conclude_of_late hfirst
      (Prod.Lex.toLex_le_toLex.2 (Or.inr ⟨rfl, Nat.zero_le _⟩))
    cases inner with
    | nil => rw [hparse, houtline.conclude_of_open hopen]
    | cons start' inner =>
      -- a group within it would come up first
      have hle := hfirst _ _ (.innermost hopen)
      rw [Prod.Lex.toLex_le_toLex, List.length_cons] at hle
      omega
  | empty hblanks hending =>
    obtain ⟨outline, houtline, hparse⟩ := h.exists_conclude_of_late hfirst
      (Prod.Lex.toLex_le_toLex.2 (Or.inl Nat.one_lt_two))
    rw [hparse, houtline.conclude_of_isBlank hblanks]
  | @repeatedSlot past rest token kind htokens hkind hpast =>
    have hlate : toLex (2, 0) ≤ toLex (3, past.length) :=
      Prod.Lex.toLex_le_toLex.2 (Or.inl (Nat.lt_succ_self 2))
    obtain ⟨outline, houtline, hparse⟩ := h.exists_conclude_of_late hfirst
      ((Prod.Lex.toLex_le_toLex.2 (Or.inl Nat.one_lt_two)).trans hlate)
    have hsolid : token.isBlank = false := by
      cases token with
      | braces name => rfl
      | _ => cases hkind
    obtain ⟨pieces, hpieces⟩ := houtline.conclude_of_content (openGroups_of_late hfirst hlate)
      ⟨token, by rw [htokens]; simp, hsolid⟩
    have hearlier : repeatedSlot? [] (slotsFrom 0 past) = none := by
      refine repeatedSlot?_slotsFrom fun before other after kind' hsplit hkind' hmem => ?_
      have htokens' : tokens = before ++ other :: (after ++ token :: rest) := by
        rw [htokens, hsplit, List.append_assoc, List.cons_append]
      have hle := hfirst _ _ (.repeatedSlot htokens' hkind' hmem)
      rw [Prod.Lex.toLex_le_toLex, hsplit, List.length_append, List.length_cons] at hle
      omega
    have hrepeated : repeatedSlot? [] (slotsFrom 0 tokens) = some (kind, width past) := by
      rw [htokens, slotsFrom_append, slotsFrom, hkind, Nat.zero_add]
      exact repeatedSlot?_append hearlier (Or.inr (by rwa [map_fst_slotsFrom])) _ _
    rw [hparse, hpieces, hrepeated]

/-- A template without a flaw can be read. -/
theorem WrittenAs.exists_parseChars_eq_ok (h : WrittenAs template tokens ending)
    (hnone : ∀ moment defect, ¬ Flaw tokens ending moment defect) :
    ∃ pieces, parseChars template = .ok pieces := by
  have hfine : Fine [] tokens := fun past token after htokens defect hwrong =>
    hnone _ _ (.token htokens hwrong)
  obtain ⟨outline, houtline, hparse⟩ := h.exists_readFrom (List.append_nil tokens).symm hfine
  cases ending with
  | backslash => exact absurd (.trailingBackslash rfl) (hnone _ _)
  | openBrace name => exact absurd (.unclosedBrace rfl) (hnone _ _)
  | complete =>
    have hopen : openGroups tokens = [] := by
      cases hopen : openGroups tokens with
      | nil => rfl
      | cons start outer =>
        exact absurd (.innermost hopen) (hnone _ _)
    have hsolid : ∃ token ∈ tokens, token.isBlank = false := by
      by_contra hblanks
      push Not at hblanks
      exact hnone _ _ (.empty (fun token htoken => by simpa using hblanks token htoken) rfl)
    obtain ⟨pieces, hpieces⟩ := houtline.conclude_of_content hopen hsolid
    refine ⟨pieces, ?_⟩
    rw [textOf_nil, List.nil_append, Ending.text, readFrom_complete] at hparse
    have hrepeat : repeatedSlot? [] (slotsFrom 0 tokens) = none :=
      repeatedSlot?_slotsFrom fun before token after kind htokens hkind hmem =>
        hnone _ _ (.repeatedSlot htokens hkind hmem)
    rw [hparse, hpieces, hrepeat]

end

/-! ## Where a defect is -/

section

variable {template : List Char} {tokens : List Token} {ending : Ending}

/-- The text of a token stands at the offset of the token. -/
theorem WrittenAs.exists_mark (h : WrittenAs template tokens ending) {past rest : List Token}
    {token : Token} (htokens : tokens = past ++ token :: rest) {mark : Char} {more : List Char}
    (hmark : token.text = mark :: more) :
    ∃ before after, template = before ++ mark :: after ∧ width past = byteLength before := by
  refine ⟨textOf past, more ++ textOf rest ++ ending.text, ?_, rfl⟩
  rw [h.text, htokens, textOf_append, textOf_cons, hmark]
  simp only [List.append_assoc, List.cons_append]

/-- The character that a flaw speaks of stands at its offset. -/
theorem Flaw.exists_mark (h : WrittenAs template tokens ending) {moment : ℕ ×ₗ ℕ} {defect : Defect}
    (hflaw : Flaw tokens ending moment defect) {mark : Char} {offset : Nat}
    (hsite : defect.site? = some (mark, offset)) :
    ∃ before after, template = before ++ mark :: after ∧ offset = byteLength before := by
  cases hflaw with
  | @token past rest token defect htokens hwrong =>
    cases hwrong with
    | closing _ => cases hsite; exact h.exists_mark htokens rfl
    | @emptyGroup before blanks hpast _ =>
      cases hsite
      have hgroup : tokens = before ++ .opening :: (blanks ++ .closing :: rest) := by
        rw [htokens, hpast, List.append_assoc, List.cons_append]
      exact h.exists_mark hgroup rfl
    | endBrace => cases hsite; exact h.exists_mark htokens rfl
    | emptySlot _ => cases hsite; exact h.exists_mark htokens rfl
    | unknownSlot _ _ => cases hsite; exact h.exists_mark htokens rfl
  | trailingBackslash _ => cases hsite
  | @unclosedBrace name hending =>
    cases hsite
    exact ⟨textOf tokens, name, by rw [h.text, hending]; rfl, rfl⟩
  | unclosedBracket hopen =>
    cases hsite
    have hmem : offset ∈ openGroups tokens := by rw [hopen]; simp
    obtain ⟨before, after, htokens, rfl⟩ := exists_opening_of_mem_openGroups hmem
    exact h.exists_mark htokens rfl
  | empty _ _ => cases hsite
  | @repeatedSlot past rest token kind htokens hkind _ =>
    cases hsite
    cases token with
    | braces name => exact h.exists_mark htokens rfl
    | _ => cases hkind

end

/-- Of the flaws of a template there is a first one. -/
theorem exists_first_flaw {tokens : List Token} {ending : Ending}
    (h : ∃ moment defect, Flaw tokens ending moment defect) :
    ∃ moment defect, Flaw tokens ending moment defect ∧
      ∀ other defect, Flaw tokens ending other defect → moment ≤ other := by
  obtain ⟨moment, ⟨defect, hflaw⟩, hfirst⟩ :=
    wellFounded_lt.has_min {moment | ∃ defect, Flaw tokens ending moment defect} h
  exact ⟨moment, defect, hflaw, fun other defect hother => not_lt.1 (hfirst other ⟨defect, hother⟩)⟩

/-- A template cannot be read exactly if it has a flaw. The defect reported is then the flaw that
comes up first, and the character that it speaks of stands in the template at its offset. -/
theorem parse_reports_first_flaw (template : String) :
    (∃ tokens ending, WrittenAs template.toList tokens ending) ∧
      (∀ tokens ending, WrittenAs template.toList tokens ending →
        ((∃ defect, parse template = .error defect) ↔
          ∃ moment defect, Flaw tokens ending moment defect) ∧
        ∀ defect, parse template = .error defect ↔
          ∃ moment, Flaw tokens ending moment defect ∧
            ∀ other defect, Flaw tokens ending other defect → moment ≤ other) ∧
      ∀ defect mark offset, parse template = .error defect → defect.site? = some (mark, offset) →
        String.Pos.Raw.IsValid template ⟨offset⟩ ∧ offset < template.utf8ByteSize ∧
          ∃ before after, template.toList = before ++ mark :: after ∧
            offset = byteLength before := by
  have hreported : ∀ tokens ending, WrittenAs template.toList tokens ending → ∀ defect,
      parse template = .error defect →
      ∃ moment, Flaw tokens ending moment defect ∧
        ∀ other defect, Flaw tokens ending other defect → moment ≤ other := by
    intro tokens ending h defect hdefect
    by_cases hsome : ∃ moment defect, Flaw tokens ending moment defect
    · obtain ⟨moment, first, hflaw, hfirst⟩ := exists_first_flaw hsome
      have heq := (h.parseChars_eq_error hflaw hfirst).symm.trans hdefect
      cases heq
      exact ⟨moment, hflaw, hfirst⟩
    · push Not at hsome
      obtain ⟨pieces, hpieces⟩ := h.exists_parseChars_eq_ok hsome
      cases hpieces.symm.trans hdefect
  obtain ⟨tokens, ending, hwritten⟩ := exists_writtenAs template.toList
  refine ⟨⟨tokens, ending, hwritten⟩, fun tokens ending h => ⟨⟨?_, ?_⟩, fun defect => ⟨?_, ?_⟩⟩, ?_⟩
  · rintro ⟨defect, hdefect⟩
    obtain ⟨moment, hflaw, _⟩ := hreported tokens ending h defect hdefect
    exact ⟨moment, defect, hflaw⟩
  · intro hsome
    obtain ⟨moment, defect, hflaw, hfirst⟩ := exists_first_flaw hsome
    exact ⟨defect, h.parseChars_eq_error hflaw hfirst⟩
  · exact hreported tokens ending h defect
  · rintro ⟨moment, hflaw, hfirst⟩
    exact h.parseChars_eq_error hflaw hfirst
  · intro defect mark offset hdefect hsite
    obtain ⟨moment, hflaw, _⟩ := hreported tokens ending hwritten defect hdefect
    obtain ⟨before, after, htemplate, hoffset⟩ := hflaw.exists_mark hwritten hsite
    refine ⟨isValid_iff_exists_append.2 ⟨before, mark :: after, htemplate, hoffset⟩, ?_,
      before, after, htemplate, hoffset⟩
    have hsize := mark.utf8Size_pos
    rw [← byteLength_toList, htemplate, hoffset, byteLength_append, byteLength_cons]
    omega

/-- An empty group and a kind that is named again: the group comes up first. -/
theorem empty_group_comes_first :
    let template := "é[ ] \x7bpc\x7d \x7bpc\x7d"
    let tokens : List Token := [.letter 'é', .opening, .blank ' ', .closing, .blank ' ',
      .braces ['p', 'c'], .blank ' ', .braces ['p', 'c']]
    WrittenAs template.toList tokens .complete ∧
      Flaw tokens .complete (toLex (3, 7)) (.repeatedSlot .member 11) ∧
      (∃ moment, Flaw tokens .complete moment (.emptyGroup 2) ∧
        ∀ other defect, Flaw tokens .complete other defect → moment ≤ other) ∧
      String.Pos.Raw.IsValid template ⟨2⟩ := by
  intro template tokens
  have hname : '}' ∉ ['p', 'c'] := by decide
  have hwritten : WrittenAs template.toList tokens .complete := by
    refine ⟨?_, ?_, trivial⟩
    · simp only [template]
      rfl
    · simp only [tokens, List.forall_mem_cons]
      exact ⟨rfl, trivial, rfl, trivial, rfl, hname, rfl, hname, nofun⟩
  have hrepeated : Flaw tokens .complete (toLex (3, 7)) (.repeatedSlot .member 11) :=
    have hpast : tokens = tokens.take 7 ++ .braces ['p', 'c'] :: [] := rfl
    .repeatedSlot hpast rfl (by simp only [tokens]; decide)
  have hparse : parse template = .error (.emptyGroup 2) := by
    simp only [template]
    rfl
  obtain ⟨_, hflaws, hsites⟩ := parse_reports_first_flaw template
  exact ⟨hwritten, hrepeated, ((hflaws tokens .complete hwritten).2 _).1 hparse,
    (hsites _ _ _ hparse rfl).1⟩

end Muster.Template
