import Muster.Proofs.Pattern.Compiled

/-!
# What a match has found

When a line matches a template, it can be cut into segments, one for each piece of a reading of the
template, with white space before and after them (`LineCut`). `Segment.Fits` says what a segment must
be like, given what follows it. Every match comes with such a cut, and with exactly the bindings of
its slots.
-/

namespace Muster.Template

open Muster.Text Muster.Unicode Muster.Pattern

/-! ## Segments -/

/-- A piece of a reading, and the part of the line that it has taken. -/
structure Segment where
  piece : Piece
  text : List Char

/-- The pieces of some segments. -/
def piecesOf (segments : List Segment) : List Piece := segments.map (·.piece)

/-- The texts of some segments in a row. -/
def textsOf (segments : List Segment) : List Char := segments.flatMap (·.text)

/-- The filling of a slot ends at the first word that equals `stop` in lowercase, where the first
word of the filling itself does not count. -/
structure StopsBefore (stop filling rest : List Char) : Prop where
  /-- The next word is parted from the filling. -/
  parted : filling.getLast?.any isWhite = true
  /-- It is the stop word. -/
  stops : ∃ word more, BeginsWith rest word more ∧ lowerText word = stop
  /-- No other word of the filling is. -/
  earliest : ∃ first others, words filling = first :: others ∧ ∀ w ∈ others, lowerText w ≠ stop

/-- Where a slot may end, given what follows it among the pieces. -/
def EndsAt (filling rest : List Char) : Follow → Prop
  | .lineEnd => rest = []
  | .word stop => StopsBefore stop filling rest
  | .slot => False
  | .group => False

/-- A segment is what its piece stands for, before some other segments and a trailing text. -/
def Segment.Fits (segment : Segment) (later : List Segment) (trail : List Char) : Prop :=
  match segment.piece with
  | .word letters =>
    caseless segment.text = caseless letters ∧
      ¬ (endsAlphanumeric letters = true ∧ startsAlphanumeric (textsOf later ++ trail) = true)
  | .space => isBlank segment.text = true
  | .slot _ _ =>
    isBlank segment.text = false ∧
      EndsAt segment.text (textsOf later ++ trail) (Follow.of .lineEnd (piecesOf later))
  | .group _ _ => False

/-- Each segment is what its piece stands for. -/
def AllFit : List Segment → List Char → Prop
  | [], _ => True
  | segment :: later, trail => segment.Fits later trail ∧ AllFit later trail

/-- What the slots among some segments bind, later ones in place of earlier ones. -/
def bindSlots (scope : Scope) : List Segment → Bindings → Bindings
  | [], bindings => bindings
  | ⟨.slot kind _, text⟩ :: later, bindings =>
    bindSlots scope later
      (bindings.insert kind (scope.resolve kind (String.ofList (normal text))))
  | _ :: later, bindings => bindSlots scope later bindings

section

variable {scope scope' : Scope} {outer : Follow} {parts : List Pattern} {pieces : List Piece}
  {segments later : List Segment}

@[simp] theorem piecesOf_cons (segment : Segment) (later : List Segment) :
    piecesOf (segment :: later) = segment.piece :: piecesOf later := rfl

theorem piecesOf_append (segments later : List Segment) :
    piecesOf (segments ++ later) = piecesOf segments ++ piecesOf later := List.map_append

@[simp] theorem textsOf_cons (segment : Segment) (later : List Segment) :
    textsOf (segment :: later) = segment.text ++ textsOf later := List.flatMap_cons

theorem textsOf_append (segments later : List Segment) :
    textsOf (segments ++ later) = textsOf segments ++ textsOf later := List.flatMap_append

theorem bindSlots_append (scope : Scope) (segments later : List Segment) (bindings : Bindings) :
    bindSlots scope (segments ++ later) bindings =
      bindSlots scope later (bindSlots scope segments bindings) := by
  induction segments generalizing bindings with
  | nil => rfl
  | cons segment segments ih =>
    obtain ⟨piece, text⟩ := segment
    cases piece <;> exact ih _

/-! ## What follows -/

/-- What follows a slot is plain to see: a word, or nothing. -/
def Follow.settled : Follow → Bool
  | .lineEnd => true
  | .word _ => true
  | .slot => false
  | .group => false

/-- What follows a slot that is compiled is settled. -/
theorem settled_of_compileSlot {follow : Follow} {kind : SlotKind} {offset : Nat} {part : Pattern}
    (h : compileSlot scope follow kind offset = .ok part) : follow.settled = true := by
  rcases compileSlot_eq_ok h with ⟨rfl, _⟩ | ⟨letters, rfl, _⟩ <;> rfl

/-- What comes first in the remaining segments is what was expected there, if that is settled. -/
def Agrees (outer : Follow) (later : List Segment) : Prop :=
  outer.settled = true → Follow.of .lineEnd (piecesOf later) = outer

/-- What follows a slot in the template follows it in every reading, if it is settled. -/
theorem follow_reading {reading more : List Piece} (hreading : reading ∈ Piece.readingsOfAll pieces)
    (h : outer.settled = true → Follow.of .lineEnd more = outer) :
    (Follow.of outer pieces).settled = true →
      Follow.of .lineEnd (reading ++ more) = Follow.of outer pieces := by
  intro hsettled
  induction pieces using Piece.listInduction generalizing reading with
  | nil =>
    rw [Piece.readingsOfAll, List.mem_singleton] at hreading
    rw [hreading]
    exact h hsettled
  | word letters rest ih =>
    obtain ⟨others, _, rfl⟩ := (Piece.mem_readingsOfAll_cons_of_leaf rfl).1 hreading
    rfl
  | space rest ih =>
    obtain ⟨others, hothers, rfl⟩ := (Piece.mem_readingsOfAll_cons_of_leaf rfl).1 hreading
    have hrest := ih hothers hsettled
    exact hrest
  | slot kind offset rest ih => cases hsettled
  | group pieces offset rest ihp ih => cases hsettled

theorem agrees_append (hreading : piecesOf segments ∈ Piece.readingsOfAll pieces)
    (h : Agrees outer later) : Agrees (Follow.of outer pieces) (segments ++ later) := by
  intro hsettled
  rw [piecesOf_append]
  exact follow_reading hreading h hsettled

/-- What all words have in common, and one that follows them, the word that comes next has. -/
theorem of_follow {p : List Char → Prop} (hwords : ∀ w ∈ Piece.wordsOfAll pieces, p w)
    (houter : ∀ letters, outer = .word letters → p letters) {letters : List Char}
    (h : Follow.of outer pieces = .word letters) : p letters := by
  induction pieces using Piece.listInduction with
  | nil => exact houter letters h
  | word other rest ih =>
    cases h
    exact hwords letters (List.mem_cons_self ..)
  | space rest ih => exact ih hwords h
  | slot kind offset rest ih => cases h
  | group pieces offset rest ihp ih => cases h

/-! ## Slots -/

/-- The filling that a slot takes ends where the stop word begins. -/
theorem stopsBefore_of_takeSlot {stop text filling rest : List Char}
    (h : takeSlot (some stop) text = some (filling, rest)) : StopsBefore stop filling rest := by
  obtain ⟨_, hstarts, hsplit, hparted⟩ := takeSlot_some_eq_some h
  obtain ⟨hothers, hne, w, more, hafter, hw⟩ := splitBefore_eq_some hsplit
  refine ⟨hparted, ?_, ?_⟩
  · obtain ⟨word, tail, hbegins⟩ := exists_beginsWith hstarts
    rw [hbegins.words_eq, List.cons.injEq] at hafter
    exact ⟨word, tail, hbegins, by rw [hafter.1, hw]⟩
  · obtain ⟨first, others, hwords⟩ := List.exists_cons_of_ne_nil (hne rfl)
    rw [hwords] at hothers
    exact ⟨first, others, hwords, hothers⟩

/-- A slot takes a filling that ends before its stop word. -/
theorem takeSlot_of_stopsBefore {stop filling rest : List Char} (h : StopsBefore stop filling rest) :
    takeSlot (some stop) (filling ++ rest) = some (filling, rest) := by
  obtain ⟨first, others, hwords, hothers⟩ := h.earliest
  obtain ⟨word, more, hbegins, hstop⟩ := h.stops
  have hblank : ¬ isBlank filling = true := by
    rw [← words_eq_nil_iff, hwords]
    exact List.cons_ne_nil _ _
  have htail : ∀ w ∈ if false then words filling else (words filling).tail, lowerText w ≠ stop := by
    rw [hwords]
    exact hothers
  have hrest : slotRest? (some stop) (filling ++ rest) = some rest := by
    show findStop stop false false (filling ++ rest) = some rest
    rw [findStop_append_of_passed htail (Or.inr h.parted), Bool.eq_false_iff.2 hblank, Bool.false_or,
      Bool.not_false, findStop_of_beginsWith hbegins, hstop, beq_self_eq_true, Bool.and_self, if_pos rfl]
  rw [takeSlot_append hrest, if_neg hblank]

/-- A slot takes a filling that is not blank, and leaves what follows it. -/
theorem isBlank_of_takeSlot {stop : Option (List Char)} {text filling rest : List Char}
    (h : takeSlot stop text = some (filling, rest)) :
    text = filling ++ rest ∧ isBlank filling = false := by
  cases stop with
  | none =>
    rw [takeSlot_none] at h
    split at h
    · cases h
    · next hblank =>
      cases h
      exact ⟨(List.append_nil _).symm, Bool.eq_false_iff.2 hblank⟩
  | some stop =>
    obtain ⟨first, others, hwords, _⟩ := (stopsBefore_of_takeSlot h).earliest
    refine ⟨(takeSlot_some_eq_some h).1, Bool.eq_false_iff.2 fun hblank => ?_⟩
    rw [(words_eq_nil_iff filling).2 hblank] at hwords
    cases hwords

/-- A slot takes a filling up to what follows it, which is settled, and binds it. -/
theorem exists_filling {follow : Follow} {kind : SlotKind} {offset : Nat} {part : Pattern}
    {text rest : List Char} {bindings filled : Bindings}
    (hfollow : ∀ letters, follow = .word letters → Lowered letters)
    (hpart : compileSlot scope follow kind offset = .ok part)
    (hmatch : matchText scope' part text bindings = (some rest, filled)) :
    ∃ filling, text = filling ++ rest ∧ isBlank filling = false ∧ follow.settled = true ∧
      EndsAt filling rest follow ∧
      filled = bindings.insert kind (scope'.resolve kind (String.ofList (normal filling))) := by
  -- a slot binds what it takes, wherever that ends
  have hslot : ∀ stop, matchText scope' (.slot kind stop) text bindings = (some rest, filled) →
      ∃ filling, takeSlot stop text = some (filling, rest) ∧
        filled = bindings.insert kind (scope'.resolve kind (String.ofList (normal filling))) := by
    intro stop h
    rw [matchText] at h
    split at h
    · next filling left htake =>
      cases h
      exact ⟨filling, htake, rfl⟩
    · cases h
  rcases compileSlot_eq_ok hpart with ⟨rfl, rfl⟩ | ⟨letters, rfl, rfl⟩
  · obtain ⟨filling, htake, hfilled⟩ := hslot none hmatch
    obtain ⟨htext, hblank⟩ := isBlank_of_takeSlot htake
    refine ⟨filling, htext, hblank, rfl, ?_, hfilled⟩
    rw [takeSlot_none] at htake
    split at htake
    · cases htake
    · exact (Prod.mk.inj (Option.some.inj htake)).2.symm
  · obtain ⟨filling, htake, hfilled⟩ := hslot _ hmatch
    obtain ⟨htext, hblank⟩ := isBlank_of_takeSlot htake
    refine ⟨filling, htext, hblank, rfl, ?_, hfilled⟩
    rw [lowerText_of_lowered (hfollow letters rfl)] at htake
    exact stopsBefore_of_takeSlot htake

/-! ## The cut of a text -/

/-- A text up to `rest`, cut into the segments of a reading of some pieces, and what their slots
bind. The segments fit whatever segments the rest is cut into, if those begin as expected. -/
structure Cut (scope : Scope) (outer : Follow) (pieces : List Piece) (segments : List Segment)
    (text rest : List Char) (bindings filled : Bindings) : Prop where
  text_eq : text = textsOf segments ++ rest
  reading : piecesOf segments ∈ Piece.readingsOfAll pieces
  filled_eq : filled = bindSlots scope segments bindings
  fit : ∀ later trail, textsOf later ++ trail = rest → Agrees outer later → AllFit later trail →
    AllFit (segments ++ later) trail

section

variable {text middle rest : List Char} {bindings between filled : Bindings}

theorem Cut.nil (scope : Scope) (outer : Follow) (text : List Char) (bindings : Bindings) :
    Cut scope outer [] [] text text bindings bindings :=
  ⟨rfl, List.mem_singleton_self _, rfl, fun _ _ _ _ hlater => hlater⟩

/-- In front of a cut stands a segment that fits whatever the text after it is cut into. -/
theorem Cut.cons {piece : Piece} {taken : List Char}
    (h : Cut scope outer pieces segments middle rest between filled)
    (hleaf : Piece.readings piece = [[piece]])
    (hbetween : between = bindSlots scope [⟨piece, taken⟩] bindings)
    (hfit : ∀ later trail, textsOf later ++ trail = middle →
      Agrees (Follow.of outer pieces) later → Segment.Fits ⟨piece, taken⟩ later trail) :
    Cut scope outer (piece :: pieces) (⟨piece, taken⟩ :: segments) (taken ++ middle) rest
      bindings filled := by
  refine ⟨?_, ?_, ?_, ?_⟩
  · rw [textsOf_cons, List.append_assoc, ← h.text_eq]
  · exact (Piece.mem_readingsOfAll_cons_of_leaf hleaf).2 ⟨_, h.reading, rfl⟩
  · rw [h.filled_eq, hbetween, ← bindSlots_append]
    rfl
  · intro later trail hlater hagrees hall
    have hmiddle : textsOf (segments ++ later) ++ trail = middle := by
      rw [textsOf_append, List.append_assoc, hlater, ← h.text_eq]
    exact ⟨hfit _ trail hmiddle (agrees_append h.reading hagrees),
      h.fit later trail hlater hagrees hall⟩

/-- A group that is left out has no segments. -/
theorem Cut.leaveOut {inner : List Piece} (offset : Nat)
    (h : Cut scope outer pieces segments text rest bindings filled) :
    Cut scope outer (.group inner offset :: pieces) segments text rest bindings filled :=
  ⟨h.text_eq, Piece.mem_readingsOfAll_group.2 (Or.inl h.reading), h.filled_eq, h.fit⟩

/-- The segments of a group that is kept come first. A slot at its end ends where the pieces after
the group begin. -/
theorem Cut.keep {inner : List Piece} {kept : List Segment} (offset : Nat)
    (hkept : Cut scope (Follow.of outer pieces) inner kept text middle bindings between)
    (h : Cut scope outer pieces segments middle rest between filled) :
    Cut scope outer (.group inner offset :: pieces) (kept ++ segments) text rest bindings filled := by
  refine ⟨?_, ?_, ?_, ?_⟩
  · rw [textsOf_append, List.append_assoc, ← h.text_eq, ← hkept.text_eq]
  · rw [piecesOf_append]
    exact Piece.mem_readingsOfAll_group.2 (Or.inr ⟨_, hkept.reading, _, h.reading, rfl⟩)
  · rw [bindSlots_append, ← hkept.filled_eq, h.filled_eq]
  · intro later trail hlater hagrees hall
    have hmiddle : textsOf (segments ++ later) ++ trail = middle := by
      rw [textsOf_append, List.append_assoc, hlater, ← h.text_eq]
    rw [List.append_assoc]
    exact hkept.fit (segments ++ later) trail hmiddle (agrees_append h.reading hagrees)
      (h.fit later trail hlater hagrees hall)

end

/-- What the parts of a template take off a text can be cut into the segments of a reading. -/
theorem exists_cut (hlowered : ∀ w ∈ Piece.wordsOfAll pieces, Lowered w)
    (houter : ∀ letters, outer = .word letters → Lowered letters)
    (hparts : compilePieces scope outer pieces = .ok parts) {text rest : List Char}
    {bindings filled : Bindings}
    (hmatch : matchEach scope' parts text bindings = (some rest, filled)) :
    ∃ segments, Cut scope' outer pieces segments text rest bindings filled := by
  induction pieces using Piece.listInduction
    generalizing outer parts text rest bindings filled with
  | nil =>
    cases hparts
    cases hmatch
    exact ⟨[], Cut.nil ..⟩
  | word letters tail ih =>
    obtain ⟨first, others, hfirst, hothers, rfl⟩ := compilePieces_cons_eq_ok hparts
    obtain ⟨hword, htail⟩ := Piece.forall_wordsOfAll_cons.1 hlowered
    rw [compilePiece, ofWord_of_lowered (hword letters (List.mem_singleton_self _))] at hfirst
    cases hfirst
    obtain ⟨middle, between, htake, hrest⟩ := matchEach_cons_eq_some hmatch
    obtain ⟨hleft, hbetween⟩ := Prod.mk.inj htake
    obtain ⟨taken, rfl, htaken, hends⟩ := takeWord_eq_some_iff.1 hleft
    obtain ⟨segments, hcut⟩ := ih htail houter hothers hrest
    refine ⟨⟨.word letters, taken⟩ :: segments, hcut.cons rfl hbetween.symm ?_⟩
    intro later trail hlater _
    rw [← hlater] at hends
    exact ⟨htaken, hends⟩
  | space tail ih =>
    obtain ⟨first, others, hfirst, hothers, rfl⟩ := compilePieces_cons_eq_ok hparts
    cases hfirst
    obtain ⟨middle, between, hgap, hrest⟩ := matchEach_cons_eq_some hmatch
    cases hgap
    obtain ⟨pre, hpre, htext⟩ := exists_append_trimStart text
    obtain ⟨segments, hcut⟩ := ih hlowered houter hothers hrest
    refine ⟨⟨.space, pre⟩ :: segments, ?_⟩
    rw [htext]
    exact hcut.cons rfl rfl fun later trail _ _ => hpre
  | slot kind offset tail ih =>
    obtain ⟨first, others, hfirst, hothers, rfl⟩ := compilePieces_cons_eq_ok hparts
    obtain ⟨_, htail⟩ := Piece.forall_wordsOfAll_cons.1 hlowered
    obtain ⟨middle, between, hslot, hrest⟩ := matchEach_cons_eq_some hmatch
    obtain ⟨segments, hcut⟩ := ih htail houter hothers hrest
    obtain ⟨filling, rfl, hblank, hsettled, hends, hbetween⟩ :=
      exists_filling (fun _ => of_follow htail houter) hfirst hslot
    refine ⟨⟨.slot kind offset, filling⟩ :: segments, hcut.cons rfl hbetween ?_⟩
    intro later trail hlater hagrees
    rw [← hlater, ← hagrees hsettled] at hends
    exact ⟨hblank, hends⟩
  | group pieces offset tail ihp ih =>
    obtain ⟨first, others, hfirst, hothers, rfl⟩ := compilePieces_cons_eq_ok hparts
    obtain ⟨inner, hinner, rfl⟩ := compilePiece_group_eq_ok hfirst
    obtain ⟨hpieces, htail⟩ := Piece.forall_wordsOfAll_cons.1 hlowered
    obtain ⟨middle, between, hgroup, hrest⟩ := matchEach_cons_eq_some hmatch
    obtain ⟨segments, hcut⟩ := ih htail houter hothers hrest
    rcases matchText_optional_eq hgroup with hkept | ⟨rfl, rfl⟩
    · obtain ⟨kept, hkeptCut⟩ :=
        ihp hpieces (fun _ => of_follow htail houter) hinner hkept
      exact ⟨kept ++ segments, Cut.keep offset hkeptCut hcut⟩
    · exact ⟨segments, hcut.leaveOut offset⟩

/-! ## Bindings -/

/-- Segments without slots bind nothing. -/
theorem bindSlots_of_kinds_eq_nil (scope : Scope) (h : Piece.kinds (piecesOf segments) = [])
    (bindings : Bindings) : bindSlots scope segments bindings = bindings := by
  induction segments with
  | nil => rfl
  | cons segment later ih =>
    obtain ⟨piece, text⟩ := segment
    cases piece with
    | slot kind offset => cases h
    | _ => exact ih h

/-- A slot among the segments binds its filling, if no other slot has its kind. -/
theorem value?_bindSlots (scope : Scope) (hnodup : (Piece.kinds (piecesOf segments)).Nodup)
    (bindings : Bindings) (kind : SlotKind) (value : Option Referent) :
    (bindSlots scope segments bindings).value? kind = some value ↔
      (∃ offset text, ⟨.slot kind offset, text⟩ ∈ segments ∧
        value = scope.resolve kind (String.ofList (normal text))) ∨
      kind ∉ Piece.kinds (piecesOf segments) ∧ bindings.value? kind = some value := by
  induction segments generalizing bindings with
  | nil => simp [bindSlots, Piece.kinds, piecesOf]
  | cons segment later ih =>
    obtain ⟨piece, text⟩ := segment
    cases piece with
    | slot k offset =>
      obtain ⟨hk, hlater⟩ := List.nodup_cons.1 (show (k :: Piece.kinds (piecesOf later)).Nodup from hnodup)
      show (bindSlots scope later _).value? kind = some value ↔
        _ ∨ kind ∉ k :: Piece.kinds (piecesOf later) ∧ _
      rw [ih hlater, Bindings.value?_insert]
      constructor
      · rintro (⟨o, t, hmem, hvalue⟩ | ⟨hkind, hvalue⟩)
        · exact Or.inl ⟨o, t, List.mem_cons_of_mem _ hmem, hvalue⟩
        · by_cases heq : kind = k
          · rw [if_pos heq, Option.some.injEq] at hvalue
            exact Or.inl ⟨offset, text, by rw [heq]; exact List.mem_cons_self .., by rw [heq, hvalue]⟩
          · rw [if_neg heq] at hvalue
            exact Or.inr ⟨fun hmem => (List.mem_cons.1 hmem).elim heq hkind, hvalue⟩
      · rintro (⟨o, t, hmem, hvalue⟩ | ⟨hkind, hvalue⟩)
        · rcases List.mem_cons.1 hmem with heq | hmem
          · cases heq
            exact Or.inr ⟨hk, by rw [if_pos rfl, hvalue]⟩
          · exact Or.inl ⟨o, t, hmem, hvalue⟩
        · rw [List.mem_cons, not_or] at hkind
          exact Or.inr ⟨hkind.2, by rw [if_neg hkind.1, hvalue]⟩
    | _ =>
      -- what is no slot binds nothing
      rw [show (bindSlots scope (_ :: later) bindings) = bindSlots scope later bindings from rfl,
        ih hnodup]
      simp [Piece.kinds, piecesOf, Piece.kind?]

end

/-! ## Whole lines -/

/-- What a template takes off a line that it matches can be cut into the segments of a reading, up to
the white space at the end. -/
theorem exists_cut_of_match {scope scope' : Scope} {template line : String} {pieces : List Piece}
    {pattern : Pattern} {bindings : Bindings} (hparse : parse template = .ok pieces)
    (hcompile : compile scope template = .ok pattern)
    (hmatch : pattern.matchLine scope' line = some bindings) :
    ∃ segments trail, Cut scope' .lineEnd pieces segments (trimStart line.toList) trail .empty bindings ∧
      AllFit segments trail := by
  obtain ⟨read, parts, hread, hparts, rfl⟩ := compile_eq_ok hcompile
  obtain rfl := Except.ok.inj (hparse.symm.trans hread)
  obtain ⟨trail, heach, _⟩ := matchLine_eq_some_iff.1 hmatch
  have hlowered : ∀ w ∈ Piece.wordsOfAll pieces, Lowered w := fun w hw => (words_of_parse hparse hw).2
  obtain ⟨segments, hcut⟩ := exists_cut hlowered (fun letters h => by cases h) hparts heach
  have hfit := hcut.fit [] trail rfl (fun _ => rfl) trivial
  rw [List.append_nil] at hfit
  exact ⟨segments, trail, hcut, hfit⟩

/-- A line cut into white space, the segments of a reading of some pieces and white space again,
together with what the slots among the segments bind. -/
structure LineCut (scope : Scope) (pieces : List Piece) (line : String) (bindings : Bindings) where
  lead : List Char
  segments : List Segment
  trail : List Char
  line_eq : line.toList = lead ++ textsOf segments ++ trail
  lead_blank : isBlank lead = true
  trail_blank : isBlank trail = true
  /-- Each group is kept or left out. -/
  reading : piecesOf segments ∈ Piece.readingsOfAll pieces
  /-- Each segment is what its piece stands for. -/
  fit : AllFit segments trail
  /-- No kind of slot is kept twice. -/
  nodup : (Piece.kinds (piecesOf segments)).Nodup
  /-- Each slot that is kept is bound to what its filling refers to, and nothing else is bound. -/
  bound : ∀ kind value, bindings.value? kind = some value ↔
    ∃ offset text, ⟨.slot kind offset, text⟩ ∈ segments ∧
      value = scope.resolve kind (String.ofList (normal text))

/-- A line that matches a template can be cut into the segments of a reading. -/
theorem lineCut_of_match {scope scope' : Scope} {template line : String} {pattern : Pattern}
    {bindings : Bindings} (hcompile : compile scope template = .ok pattern)
    (hmatch : pattern.matchLine scope' line = some bindings) :
    ∃ pieces, parse template = .ok pieces ∧ Nonempty (LineCut scope' pieces line bindings) := by
  obtain ⟨pieces, parts, hparse, hparts, rfl⟩ := compile_eq_ok hcompile
  obtain ⟨trail, hmatch, htrail⟩ := matchLine_eq_some_iff.1 hmatch
  obtain ⟨lead, hlead, hline⟩ := exists_append_trimStart line.toList
  have hlowered : ∀ w ∈ Piece.wordsOfAll pieces, Lowered w := fun w hw => (words_of_parse hparse hw).2
  obtain ⟨segments, hcut⟩ := exists_cut hlowered (fun letters h => by cases h) hparts hmatch
  have hnodup : (Piece.kinds (piecesOf segments)).Nodup :=
    (Piece.kinds_sublist hcut.reading).nodup (nodup_slots_of_parse hparse)
  have hall : AllFit segments trail := by
    -- nothing follows the last segment but white space
    have := hcut.fit [] trail rfl (fun _ => rfl) trivial
    rwa [List.append_nil] at this
  refine ⟨pieces, hparse,
    ⟨⟨lead, segments, trail, ?_, hlead, htrail, hcut.reading, hall, hnodup, ?_⟩⟩⟩
  · rw [List.append_assoc, ← hcut.text_eq]
    exact hline
  · intro kind value
    rw [hcut.filled_eq, value?_bindSlots scope' hnodup]
    simp

/-- A slot in a group ends before a word outside it, and the next one at the end of the line. -/
theorem tell_lineCut :
    ∃ pattern bindings, compile {} "tell [\x7bname\x7d] about \x7btopic\x7d" = .ok pattern ∧
      pattern.matchLine {} "Tell Ann Lee  ABOUT the fuss about me" = some bindings ∧
      ∃ pieces, parse "tell [\x7bname\x7d] about \x7btopic\x7d" = .ok pieces ∧
        Nonempty (LineCut {} pieces "Tell Ann Lee  ABOUT the fuss about me" bindings) := by
  have hcheck : (compile {} "tell [\x7bname\x7d] about \x7btopic\x7d").toOption.any
      (fun pattern => (pattern.matchLine {} "Tell Ann Lee  ABOUT the fuss about me").isSome) =
        true := by
    decide +kernel
  obtain ⟨pattern, hcompile, hsome⟩ := exists_ok_of_any hcheck
  obtain ⟨bindings, hmatch⟩ := Option.isSome_iff_exists.1 hsome
  exact ⟨pattern, bindings, hcompile, hmatch, lineCut_of_match hcompile hmatch⟩

end Muster.Template
