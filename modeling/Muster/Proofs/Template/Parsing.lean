import Muster.Proofs.Steps
import Muster.Proofs.Template.Readings
import Muster.Template.Parser

/-!
# What a template that can be read holds

A template is read by a scan and by building an outline from the marks it finds. Whatever the marks
are, the words of the pieces have letters, all of them lowered, and no kind of slot occurs twice.
-/

namespace Muster.Template

open Muster.Text Muster.Unicode

/-! ## The two steps of reading -/

/-- A template that can be read has been scanned to its end, its marks make an outline, and the
pieces of the outline repeat no slot. -/
theorem parseChars_eq_ok {template : List Char} {pieces : List Piece}
    (h : parseChars template = .ok pieces) :
    ∃ outline, (scan .plain 0 template).1.foldlM Outline.add {} = .ok outline ∧
      outline.finish = .ok pieces ∧ repeatedSlot? [] (Piece.slotsOfAll pieces) = none := by
  unfold parseChars at h
  obtain ⟨outline, hfold, h⟩ := bind_eq_ok_iff.1 h
  refine ⟨outline, hfold, ?_⟩
  split at h
  · cases h
  · obtain ⟨found, hfinish, h⟩ := bind_eq_ok_iff.1 h
    split at h
    · cases h
    · next hrepeat =>
      cases h
      exact ⟨hfinish, hrepeat⟩

/-! ## Words -/

/-- Each mark for letters stands for one character of the template, lowered. -/
theorem letters_of_mem_scan {reading : Reading} {offset : Nat} {template : List Char}
    {chars : List Char} (h : .letters chars ∈ (scan reading offset template).1) :
    ∃ c, chars = lowerChar c := by
  induction template generalizing reading offset with
  | nil => cases reading <;> simp [scan] at h
  | cons c cs ih =>
    -- a mark is the first one, or it is found in what follows
    have hmark : ∀ {m : Mark} {next : Nat},
        .letters chars ∈ ((scan .plain next cs).map (m :: ·) id).1 →
        (∀ l, m = .letters l → l = lowerChar c) → ∃ c, chars = lowerChar c := by
      intro m next hmem hm
      rcases List.mem_cons.1 hmem with heq | hrest
      · exact ⟨c, hm chars heq.symm⟩
      · exact ih hrest
    cases reading with
    | escaped => exact hmark h (by simp)
    | braces start name =>
      simp only [scan] at h
      split at h
      · split at h
        · exact hmark h (by simp)
        · cases h
      · exact ih h
    | plain =>
      simp only [scan] at h
      split at h
      · exact ih h
      · split at h
        · exact hmark h (by simp)
        · split at h
          · exact hmark h (by simp)
          · split at h
            · exact hmark h (by simp)
            · split at h
              · exact ih h
              · split at h
                · cases h
                · exact hmark h (by simp)

namespace Outline

/-- Every word among the pieces read so far has a given property. -/
structure AllWords (p : List Char → Prop) (outline : Outline) : Prop where
  inner : ∀ w ∈ Piece.wordsOfAll outline.inner, p w
  enclosing : ∀ frame ∈ outline.enclosing, ∀ w ∈ Piece.wordsOfAll frame.2, p w

variable {p : List Char → Prop}

theorem mem_wordsOfAll_reverse {pieces : List Piece} {w : List Char} :
    w ∈ Piece.wordsOfAll pieces.reverse ↔ w ∈ Piece.wordsOfAll pieces := by
  simp only [Piece.wordsOfAll_eq_flatMap, List.mem_flatMap, List.mem_reverse]

theorem wordsOfAll_addSpace (pieces : List Piece) :
    Piece.wordsOfAll (addSpace pieces) = Piece.wordsOfAll pieces := by
  unfold addSpace
  split <;> rfl

theorem wordsOfAll_dropSpace (pieces : List Piece) :
    Piece.wordsOfAll (dropSpace pieces) = Piece.wordsOfAll pieces := by
  unfold dropSpace
  split <;> rfl

theorem forall_wordsOfAll_addLetters {chars : List Char} {pieces : List Piece} (hchars : p chars)
    (happend : ∀ w, p w → p (w ++ chars)) (h : ∀ w ∈ Piece.wordsOfAll pieces, p w) :
    ∀ w ∈ Piece.wordsOfAll (addLetters chars pieces), p w := by
  unfold addLetters
  intro w hw
  split at hw
  · next letters before =>
    rcases List.mem_cons.1 hw with rfl | hw
    · exact happend letters (h letters (List.mem_cons_self ..))
    · exact h w (List.mem_cons_of_mem _ hw)
  · rcases List.mem_cons.1 hw with rfl | hw
    · exact hchars
    · exact h w hw

/-- If letters can be put after a word, and can make one, every word keeps the property. -/
theorem AllWords.add {outline next : Outline} {mark : Mark} (h : outline.AllWords p)
    (hletters : ∀ chars, mark = .letters chars → p chars ∧ ∀ w, p w → p (w ++ chars))
    (hadd : outline.add mark = .ok next) : next.AllWords p := by
  cases mark with
  | letters chars =>
    cases hadd
    obtain ⟨hchars, happend⟩ := hletters chars rfl
    exact ⟨forall_wordsOfAll_addLetters hchars happend h.inner, h.enclosing⟩
  | blank =>
    cases hadd
    exact ⟨by rw [wordsOfAll_addSpace]; exact h.inner, h.enclosing⟩
  | opening offset =>
    cases hadd
    refine ⟨fun w hw => absurd hw List.not_mem_nil, fun frame hframe => ?_⟩
    rcases List.mem_cons.1 hframe with rfl | hframe
    · exact h.inner
    · exact h.enclosing frame hframe
  | closing offset =>
    simp only [Outline.add] at hadd
    split at hadd
    · cases hadd
    · next start before enclosing henclosing =>
      split at hadd
      · cases hadd
      · cases hadd
        have hbefore := h.enclosing (start, before) (by simp [henclosing])
        refine ⟨fun w hw => ?_, fun frame hframe => h.enclosing frame (by simp [henclosing, hframe])⟩
        -- a word of the group, or one before it
        rcases List.mem_append.1 hw with hw | hw
        · apply h.inner
          rw [← wordsOfAll_dropSpace]
          exact mem_wordsOfAll_reverse.1 hw
        · exact hbefore w hw
  | slot kind offset =>
    cases hadd
    exact ⟨h.inner, h.enclosing⟩

theorem AllWords.finish {outline : Outline} {pieces : List Piece} (h : outline.AllWords p)
    (hfinish : outline.finish = .ok pieces) : ∀ w ∈ Piece.wordsOfAll pieces, p w := by
  intro w hw
  unfold Outline.finish at hfinish
  split at hfinish
  · cases hfinish
  · split at hfinish
    · cases hfinish
    · cases hfinish
      apply h.inner
      rw [← wordsOfAll_dropSpace]
      exact mem_wordsOfAll_reverse.1 hw

end Outline

/-- The words of a template have letters, and these are lowered. -/
theorem words_of_parse {template : String} {pieces : List Piece} (h : parse template = .ok pieces)
    {w : List Char} (hw : w ∈ Piece.wordsOfAll pieces) : w ≠ [] ∧ Lowered w := by
  obtain ⟨outline, hfold, hfinish, _⟩ := parseChars_eq_ok h
  have hempty : Outline.AllWords (fun w => w ≠ [] ∧ Lowered w) {} :=
    ⟨fun w hw => absurd hw List.not_mem_nil, fun frame hframe => absurd hframe List.not_mem_nil⟩
  have houtline : outline.AllWords fun w => w ≠ [] ∧ Lowered w := by
    refine foldlM_preserves (fun before hbefore mark hmark next hnext => ?_) hempty hfold
    refine hbefore.add (fun chars hchars => ?_) hnext
    rw [hchars] at hmark
    obtain ⟨c, rfl⟩ := letters_of_mem_scan hmark
    have hlowered : Lowered (lowerChar c) := fun d hd => lowerChar_of_mem_lowerChar hd
    refine ⟨⟨lowerChar_ne_nil c, hlowered⟩, fun w hw => ⟨by simp [hw.1], fun d hd => ?_⟩⟩
    rcases List.mem_append.1 hd with hd | hd
    · exact hw.2 d hd
    · exact hlowered d hd
  exact houtline.finish hfinish w hw

/-! ## Slots -/

theorem nodup_of_repeatedSlot?_eq_none {seen : List SlotKind} {slots : List (SlotKind × Nat)}
    (h : repeatedSlot? seen slots = none) :
    (slots.map (·.1)).Nodup ∧ ∀ slot ∈ slots, slot.1 ∉ seen := by
  induction slots generalizing seen with
  | nil => exact ⟨List.nodup_nil, fun slot hslot => absurd hslot List.not_mem_nil⟩
  | cons slot slots ih =>
    obtain ⟨kind, offset⟩ := slot
    rw [repeatedSlot?] at h
    split at h
    · cases h
    · next hkind =>
      obtain ⟨hnodup, hseen⟩ := ih h
      constructor
      · refine List.nodup_cons.2 ⟨fun hmem => ?_, hnodup⟩
        obtain ⟨other, hother, heq⟩ := List.mem_map.1 hmem
        exact hseen other hother (by simp [heq])
      · intro other hother
        rcases List.mem_cons.1 hother with rfl | hother
        · exact hkind
        · exact fun hmem => hseen other hother (List.mem_cons_of_mem _ hmem)

/-- No kind of slot occurs twice in a template. -/
theorem nodup_slots_of_parse {template : String} {pieces : List Piece}
    (h : parse template = .ok pieces) : ((Piece.slotsOfAll pieces).map (·.1)).Nodup := by
  obtain ⟨_, _, _, hrepeat⟩ := parseChars_eq_ok h
  exact (nodup_of_repeatedSlot?_eq_none hrepeat).1

end Muster.Template
