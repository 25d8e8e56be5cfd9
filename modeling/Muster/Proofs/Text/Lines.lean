import Muster.Text.Words

/-!
# Lines

`lines` cuts a text at its line ends, and `unlines` writes lines one below the other. What is
written in this way can be read back (`lines_unlines`), provided that each of the lines is one
(`IsLine`); a line that has been cut out of a text and trimmed always is (`isLine_trim`).
-/

namespace Muster.Text

open Muster.Unicode

/-- The text is one line: there is no line feed in it, and no carriage return at its end, which
would become part of the line end. -/
structure IsLine (s : List Char) : Prop where
  no_feed : '\n' ∉ s
  no_return : s.getLast? ≠ some '\r'

/-- Lines one below the other, each with a line feed at its end. -/
def unlines (ls : List String) : String := String.join (ls.map (· ++ "\n"))

@[simp] theorem unlines_nil : unlines [] = "" := rfl

@[simp] theorem unlines_cons (l : String) (ls : List String) :
    unlines (l :: ls) = l ++ "\n" ++ unlines ls := by
  simp only [unlines, List.map_cons, String.join_cons]

@[simp] theorem unlines_append (ls ms : List String) :
    unlines (ls ++ ms) = unlines ls ++ unlines ms := by
  simp only [unlines, List.map_append, String.join_append]

/-! ## Cutting a text into lines -/

/-- A line at the beginning of a text is its first line. -/
theorem lines_append_feed {l : List Char} (h : IsLine l) (rest : List Char) :
    lines (l ++ '\n' :: rest) = l :: lines rest := by
  induction l with
  | nil => simp [lines]
  | cons c l ih =>
    obtain ⟨hfeed, hreturn⟩ := h
    rw [List.mem_cons, not_or] at hfeed
    have hl : IsLine l := by
      refine ⟨hfeed.2, fun hlast => hreturn ?_⟩
      rw [List.getLast?_cons, hlast, Option.getD_some]
    -- neither is the first character a line end nor do the first two make one
    have hfirst : c = '\n' → False := fun hc => hfeed.1 hc.symm
    have hpair : ∀ more, c = '\r' → l ++ '\n' :: rest = '\n' :: more → False := by
      intro more hc hmore
      cases l with
      | nil => exact hreturn (by rw [hc]; rfl)
      | cons d l =>
        rw [List.cons_append] at hmore
        cases hmore
        exact hfeed.2 List.mem_cons_self
    rw [List.cons_append, lines, ih hl]
    · exact hfirst
    · exact hpair

/-- Lines that have been written can be read back. -/
theorem lines_unlines {ls : List String} (h : ∀ l ∈ ls, IsLine l.toList) :
    (lines (unlines ls).toList).map String.ofList = ls := by
  induction ls with
  | nil => rfl
  | cons l ls ih =>
    have htext : (unlines (l :: ls)).toList = l.toList ++ '\n' :: (unlines ls).toList := by
      simp only [unlines_cons, String.toList_append, List.append_assoc]
      rfl
    rw [htext, lines_append_feed (h l List.mem_cons_self), List.map_cons, String.ofList_toList,
      ih fun m hm => h m (List.mem_cons_of_mem l hm)]

/-- As many lines as are written, so many line feeds are. -/
theorem count_unlines {ls : List String} (h : ∀ l ∈ ls, IsLine l.toList) :
    (unlines ls).toList.count '\n' = ls.length := by
  induction ls with
  | nil => rfl
  | cons l ls ih =>
    have hline : l.toList.count '\n' = 0 := List.count_eq_zero.2 (h l List.mem_cons_self).no_feed
    have hmore := ih fun m hm => h m (List.mem_cons_of_mem l hm)
    have hfeed : "\n".toList.count '\n' = 1 := rfl
    rw [unlines_cons, String.toList_append, String.toList_append, List.count_append,
      List.count_append, hline, hfeed, hmore, List.length_cons]
    omega

/-- There is no line feed in a line that has been cut out of a text. -/
theorem not_mem_of_mem_lines {s l : List Char} (hl : l ∈ lines s) : '\n' ∉ l := by
  fun_induction lines s generalizing l with
  | case1 => cases hl
  | case2 cs ih =>
    rcases List.mem_cons.1 hl with rfl | hl
    · exact List.not_mem_nil
    · exact ih hl
  | case3 cs ih =>
    rcases List.mem_cons.1 hl with rfl | hl
    · exact List.not_mem_nil
    · exact ih hl
  | case4 c cs hfeed _ _ _ =>
    rw [List.mem_singleton.1 hl, List.mem_singleton]
    exact fun hc => hfeed hc.symm
  | case5 c cs hfeed _ first others hlines ih =>
    rcases List.mem_cons.1 hl with rfl | hl
    · rw [List.mem_cons, not_or]
      exact ⟨fun hc => hfeed hc.symm, ih (by rw [hlines]; exact List.mem_cons_self)⟩
    · exact ih (by rw [hlines]; exact List.mem_cons_of_mem first hl)

/-! ## Margins -/

theorem mem_of_mem_trim {s : List Char} {c : Char} (h : c ∈ trim s) : c ∈ s := by
  unfold trim trimEnd trimStart at h
  rw [List.mem_reverse] at h
  have hstart := (List.dropWhile_sublist _).subset h
  rw [List.mem_reverse] at hstart
  exact (List.dropWhile_sublist _).subset hstart

/-- A text without trailing white space does not end with a carriage return. -/
theorem getLast?_trimEnd_ne (s : List Char) : (trimEnd s).getLast? ≠ some '\r' := by
  intro hlast
  unfold trimEnd at hlast
  rw [List.getLast?_reverse] at hlast
  have hfirst := List.head?_dropWhile_not isWhite s.reverse
  rw [hlast] at hfirst
  exact absurd hfirst (by decide)

theorem isLine_trim {s : List Char} (h : '\n' ∉ s) : IsLine (trim s) :=
  ⟨fun hfeed => h (mem_of_mem_trim hfeed), getLast?_trimEnd_ne _⟩

end Muster.Text
