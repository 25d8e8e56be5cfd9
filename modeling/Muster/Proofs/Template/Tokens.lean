import Muster.Proofs.Template.RoundTrip

/-!
# Templates as they are written

A template is written in tokens: letters, some of them after a backslash, white space, brackets and
braces. At its end there may be a backslash or an opening brace that makes no token (`WrittenAs`).
Every template is written in some tokens (`exists_writtenAs`), and to read it is to take its tokens
in one after the other (`readFrom_text`).
-/

namespace Muster.Template

open Muster.Text Muster.Unicode

/-- A part of a template as it is written. -/
inductive Token where
  /-- A character that stands for itself. -/
  | letter (c : Char)
  /-- A character after a backslash. -/
  | escaped (c : Char)
  /-- A white-space character. -/
  | blank (c : Char)
  | opening
  | closing
  /-- A closing brace by itself. -/
  | endBrace
  /-- Braces, and what stands between them. -/
  | braces (name : List Char)

namespace Token

/-- The text of a token. -/
def text : Token → List Char
  | .letter c => [c]
  | .escaped c => ['\\', c]
  | .blank c => [c]
  | .opening => ['[']
  | .closing => [']']
  | .endBrace => ['}']
  | .braces name => '{' :: name ++ ['}']

/-- The text of a token cannot be taken for that of another one. -/
def IsProper : Token → Prop
  | .letter c => needsEscape c = false
  | .blank c => isWhite c = true
  | .braces name => '}' ∉ name
  | _ => True

/-- Whether a token is white space. -/
def isBlank : Token → Bool
  | .blank _ => true
  | _ => false

/-- The kind of slot that is named between braces. White space around the name does not count. -/
def kind? : Token → Option SlotKind
  | .braces name => SlotKind.ofLabel? (String.ofList (trim name))
  | _ => none

/-- The text of some tokens. -/
def textOf (tokens : List Token) : List Char := tokens.flatMap text

/-- The bytes that the text of some tokens takes. -/
def width (tokens : List Token) : Nat := byteLength (textOf tokens)

@[simp] theorem textOf_nil : textOf [] = [] := rfl

@[simp] theorem textOf_cons (token : Token) (tokens : List Token) :
    textOf (token :: tokens) = token.text ++ textOf tokens :=
  List.flatMap_cons

@[simp] theorem textOf_append (tokens more : List Token) :
    textOf (tokens ++ more) = textOf tokens ++ textOf more :=
  List.flatMap_append

theorem width_append (tokens more : List Token) :
    width (tokens ++ more) = width tokens + width more := by
  rw [width, textOf_append, byteLength_append, width, width]

theorem width_cons (token : Token) (tokens : List Token) :
    width (token :: tokens) = byteLength token.text + width tokens := by
  rw [width, textOf_cons, byteLength_append, width]

theorem width_singleton (token : Token) : width [token] = byteLength token.text := by
  rw [width_cons, width, textOf_nil, byteLength_nil, Nat.add_zero]

end Token

/-- What stands at the end of a template and makes no token. -/
inductive Ending where
  | complete
  /-- A backslash. -/
  | backslash
  /-- An opening brace, and what follows it. -/
  | openBrace (name : List Char)

/-- The text of an ending. -/
def Ending.text : Ending → List Char
  | .complete => []
  | .backslash => ['\\']
  | .openBrace name => '{' :: name

/-- An ending cannot be taken for a token. -/
def Ending.IsProper : Ending → Prop
  | .openBrace name => '}' ∉ name
  | _ => True

/-- A template is written in some tokens, up to an ending. -/
structure WrittenAs (template : List Char) (tokens : List Token) (ending : Ending) : Prop where
  text : template = Token.textOf tokens ++ ending.text
  tokens : ∀ token ∈ tokens, token.IsProper
  ending : ending.IsProper

open Token

/-! ## Writing -/

theorem WrittenAs.cons {token : Token} (htoken : token.IsProper) {rest : List Char}
    {tokens : List Token} {ending : Ending} (h : WrittenAs rest tokens ending) :
    WrittenAs (token.text ++ rest) (token :: tokens) ending where
  text := by rw [h.text, textOf_cons, List.append_assoc]
  tokens := List.forall_mem_cons.2 ⟨htoken, h.tokens⟩
  ending := h.ending

/-- A template begins with a token, or is an ending. -/
theorem exists_token_or_ending (template : List Char) :
    (∃ token rest, token.IsProper ∧ template = Token.text token ++ rest) ∨
      ∃ ending, Ending.IsProper ending ∧ template = ending.text := by
  cases template with
  | nil => exact Or.inr ⟨.complete, trivial, rfl⟩
  | cons c cs =>
    by_cases hslash : c = '\\'
    · subst hslash
      cases cs with
      | nil => exact Or.inr ⟨.backslash, trivial, rfl⟩
      | cons d ds => exact Or.inl ⟨.escaped d, ds, trivial, rfl⟩
    by_cases hbrace : c = '{'
    · subst hbrace
      by_cases hend : '}' ∈ cs
      · -- the braces go up to the first closing one
        obtain ⟨name, rest, rfl, hname⟩ := List.eq_append_cons_of_mem hend
        refine Or.inl ⟨.braces name, rest, hname, ?_⟩
        rw [Token.text, List.cons_append, List.cons_append, List.append_assoc]
        rfl
      · exact Or.inr ⟨.openBrace cs, hend, rfl⟩
    by_cases hwhite : isWhite c = true
    · exact Or.inl ⟨.blank c, cs, hwhite, rfl⟩
    by_cases hopen : c = '['
    · exact Or.inl ⟨.opening, cs, trivial, by rw [hopen]; rfl⟩
    by_cases hclose : c = ']'
    · exact Or.inl ⟨.closing, cs, trivial, by rw [hclose]; rfl⟩
    by_cases hstray : c = '}'
    · exact Or.inl ⟨.endBrace, cs, trivial, by rw [hstray]; rfl⟩
    · refine Or.inl ⟨.letter c, cs, ?_, rfl⟩
      simp [IsProper, needsEscape, hslash, hbrace, hwhite, hopen, hclose, hstray]

theorem Token.length_text_pos (token : Token) : 0 < token.text.length := by
  cases token <;> simp [Token.text]

/-- Every template is written in some tokens. -/
theorem exists_writtenAs (template : List Char) :
    ∃ tokens ending, WrittenAs template tokens ending := by
  induction hlength : template.length using Nat.strongRecOn generalizing template with
  | ind n ih =>
    rcases exists_token_or_ending template with ⟨token, rest, htoken, rfl⟩ | ⟨ending, hending, rfl⟩
    · have hshorter : rest.length < n := by
        have hpos := token.length_text_pos
        rw [← hlength, List.length_append]
        omega
      obtain ⟨tokens, ending, hrest⟩ := ih rest.length hshorter rest rfl
      exact ⟨token :: tokens, ending, hrest.cons htoken⟩
    · exact ⟨[], ending, rfl, fun token h => absurd h List.not_mem_nil, hending⟩

/-! ## Scanning tokens -/

/-- The mark that a token at an offset is scanned to. -/
def Token.mark (offset : Nat) : Token → Except Defect Mark
  | .letter c => .ok (.letters (lowerChar c))
  | .escaped c => .ok (.letters (lowerChar c))
  | .blank _ => .ok .blank
  | .opening => .ok (.opening offset)
  | .closing => .ok (.closing offset)
  | .endBrace => .error (.unexpectedClosing '}' offset)
  | .braces name => (slotNamed offset name).map fun kind => .slot kind offset

/-- Between braces the name goes up to the closing one. -/
theorem scan_name (offset : Nat) {name : List Char} (hname : '}' ∉ name) (rest : List Char) :
    scan .plain offset ('{' :: (name ++ '}' :: rest)) =
      match slotNamed offset name with
      | .ok kind =>
        (scan .plain (offset + byteLength (Token.text (.braces name))) rest).map
          (.slot kind offset :: ·) id
      | .error defect => ([], some defect) := by
  have hletters : ∀ c ∈ name, c ≠ '}' := fun c hc hbrace => hname (hbrace ▸ hc)
  have hwidth : offset + byteLength (Token.text (.braces name)) =
      offset + 1 + byteLength name + 1 := by
    have hopen : '{'.utf8Size = 1 := rfl
    have hclose : '}'.utf8Size = 1 := rfl
    rw [Token.text, List.cons_append, byteLength_cons, byteLength_append, byteLength_cons,
      byteLength_nil, hopen, hclose]
    omega
  have hbrace : scan .plain offset ('{' :: (name ++ '}' :: rest)) =
      scan (.braces offset []) (offset + 1) (name ++ '}' :: rest) := rfl
  rw [hbrace, scan_braces offset _ [] _ rest hletters, List.nil_append, scan, hwidth]
  simp only [if_true]
  rfl

/-- A token is scanned to its mark, or the scan stops at it. -/
theorem scan_text {token : Token} (htoken : token.IsProper) (offset : Nat) (rest : List Char) :
    scan .plain offset (token.text ++ rest) =
      match token.mark offset with
      | .ok mark => (scan .plain (offset + byteLength token.text) rest).map (mark :: ·) id
      | .error defect => ([], some defect) := by
  cases token with
  | letter c =>
    have hescape : needsEscape c = false := htoken
    simp only [needsEscape, Bool.or_eq_false_iff, decide_eq_false_iff_not, List.mem_cons,
      List.not_mem_nil, or_false, not_or] at hescape
    obtain ⟨hwhite, hslash, hopen, hclose, hbrace, hend⟩ := hescape
    have hwhite : ¬ isWhite c = true := by simp [hwhite]
    simp only [Token.text, Token.mark, List.cons_append, List.nil_append, scan, if_neg hwhite,
      if_neg hslash, if_neg hopen, if_neg hclose, if_neg hbrace, if_neg hend, byteLength_cons,
      byteLength_nil, Nat.add_zero]
  | escaped c =>
    have hslash : '\\'.utf8Size = 1 := rfl
    simp only [Token.text, Token.mark, List.cons_append, List.nil_append, scan, if_true,
      byteLength_cons, byteLength_nil, hslash, Nat.add_zero, Nat.add_assoc]
  | blank c =>
    have hwhite : isWhite c = true := htoken
    have hslash : c ≠ '\\' := by
      rintro rfl
      exact absurd hwhite (by decide)
    simp only [Token.text, Token.mark, List.cons_append, List.nil_append, scan, if_neg hslash,
      if_pos hwhite, byteLength_cons, byteLength_nil, Nat.add_zero]
  | opening => rfl
  | closing => rfl
  | endBrace => rfl
  | braces name =>
    have hscan := scan_name offset htoken rest
    have htext : Token.text (.braces name) ++ rest = '{' :: (name ++ '}' :: rest) := by
      rw [Token.text, List.cons_append, List.cons_append, List.append_assoc]
      rfl
    rw [htext, hscan, Token.mark]
    cases slotNamed offset name <;> rfl

/-- The scan stops where braces are not closed. -/
theorem scan_openBrace (offset : Nat) {name : List Char} (hname : '}' ∉ name) :
    scan .plain offset ('{' :: name) = ([], some (.unclosedBrace offset)) := by
  have hbraces : ∀ (read : List Char) (next : Nat),
      scan (.braces offset read) next name = ([], some (.unclosedBrace offset)) := by
    induction name with
    | nil => exact fun _ _ => rfl
    | cons c cs ih =>
      rw [List.mem_cons, not_or] at hname
      intro read next
      rw [scan]
      simp only [if_neg (Ne.symm hname.1)]
      exact ih hname.2 _ _
  exact hbraces [] (offset + 1)

/-! ## Reading tokens -/

/-- The pieces of an outline that is not continued. -/
def Outline.conclude (outline : Outline) : Except Defect (List Piece) := do
  let pieces ← outline.finish
  match repeatedSlot? [] (Piece.slotsOfAll pieces) with
  | some (kind, offset) => throw (.repeatedSlot kind offset)
  | none => pure pieces

/-- Continues an outline by a text that begins at an offset. -/
def readFrom (outline : Outline) (offset : Nat) (text : List Char) :
    Except Defect (List Piece) := do
  let (marks, stop) := scan .plain offset text
  let outline ← marks.foldlM Outline.add outline
  match stop with
  | some defect => throw defect
  | none => outline.conclude

theorem parseChars_eq_readFrom (template : List Char) :
    parseChars template = readFrom {} 0 template := rfl

/-- To continue an outline by a token and more, the mark of the token is added first. -/
theorem readFrom_text {token : Token} (htoken : token.IsProper) (outline : Outline) (offset : Nat)
    (rest : List Char) :
    readFrom outline offset (token.text ++ rest) = (do
      let next ← token.mark offset >>= outline.add
      readFrom next (offset + byteLength token.text) rest) := by
  rw [readFrom, scan_text htoken]
  cases token.mark offset with
  | error defect => rfl
  | ok mark =>
    show ((mark :: (scan .plain (offset + byteLength token.text) rest).1).foldlM Outline.add outline
      >>= _) = _
    rw [List.foldlM_cons, bind_assoc]
    rfl

theorem readFrom_complete (outline : Outline) (offset : Nat) :
    readFrom outline offset [] = outline.conclude := rfl

theorem readFrom_backslash (outline : Outline) (offset : Nat) :
    readFrom outline offset ['\\'] = .error .trailingBackslash := rfl

theorem readFrom_openBrace (outline : Outline) (offset : Nat) {name : List Char}
    (hname : '}' ∉ name) :
    readFrom outline offset ('{' :: name) = .error (.unclosedBrace offset) := by
  rw [readFrom, scan_openBrace offset hname]
  rfl

end Muster.Template
