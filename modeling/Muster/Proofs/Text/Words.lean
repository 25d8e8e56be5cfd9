import Muster.Text.Words

/-!
# How words lie in a text

`words` cuts a text into its maximal runs of characters that are not white space. What matters to
whoever reads a text from left to right is whether a word begins right here (`startsWord`), and if
so, which word that is and what follows it (`BeginsWith`). Everything about `words` follows from
two equations: white space in front does not count (`words_append_of_isBlank`), and a word in front
comes first (`BeginsWith.words_eq`). `wordsInduction` goes through a text in these steps.
-/

namespace Muster.Text

open Muster.Unicode

/-- Whether a text begins with a character that is not white space. -/
def startsWord (s : List Char) : Bool := s.head?.any (!isWhite ·)

/-- The text begins with the given word, which is followed by the given rest. -/
structure BeginsWith (s word rest : List Char) : Prop where
  eq_append : s = word ++ rest
  ne_nil : word ≠ []
  letters : ∀ c ∈ word, isWhite c = false
  ends : startsWord rest = false

@[simp] theorem startsWord_nil : startsWord [] = false := rfl

@[simp] theorem startsWord_cons (c : Char) (cs : List Char) :
    startsWord (c :: cs) = !isWhite c := rfl

@[simp] theorem words_nil : words [] = [] := rfl

/-! ## White space -/

@[simp] theorem isBlank_nil : isBlank [] = true := rfl

@[simp] theorem isBlank_cons (c : Char) (cs : List Char) :
    isBlank (c :: cs) = (isWhite c && isBlank cs) := rfl

theorem words_cons_of_isWhite {c : Char} (h : isWhite c = true) (cs : List Char) :
    words (c :: cs) = words cs := by
  conv => lhs; unfold words
  rw [if_pos h]

/-- White space in front of a text belongs to no word. -/
theorem words_append_of_isBlank {pre : List Char} (h : isBlank pre = true) (s : List Char) :
    words (pre ++ s) = words s := by
  induction pre with
  | nil => rfl
  | cons c pre ih =>
    rw [isBlank_cons, Bool.and_eq_true] at h
    rw [List.cons_append, words_cons_of_isWhite h.1, ih h.2]

/-- A text is white space up to where its first word begins. -/
theorem exists_append_trimStart (s : List Char) :
    ∃ pre, isBlank pre = true ∧ s = pre ++ trimStart s := by
  refine ⟨s.takeWhile isWhite, ?_, List.takeWhile_append_dropWhile.symm⟩
  exact List.all_takeWhile

theorem words_trimStart (s : List Char) : words (trimStart s) = words s := by
  obtain ⟨pre, hpre, hs⟩ := exists_append_trimStart s
  have h := words_append_of_isBlank hpre (trimStart s)
  rw [← hs] at h
  exact h.symm

/-- After its leading white space a text has a word, unless it is over. -/
theorem trimStart_eq_nil_or_startsWord (s : List Char) :
    trimStart s = [] ∨ startsWord (trimStart s) = true := by
  induction s with
  | nil => exact Or.inl rfl
  | cons c cs ih =>
    unfold trimStart at ih ⊢
    rw [List.dropWhile_cons]
    split
    · exact ih
    · next hc => exact Or.inr (by simp [hc])

theorem trimStart_cons_of_isWhite {c : Char} (hc : isWhite c = true) (cs : List Char) :
    trimStart (c :: cs) = trimStart cs := by
  rw [trimStart, List.dropWhile_cons_of_pos hc, trimStart]

theorem trimStart_append_of_isBlank {pre : List Char} (hpre : isBlank pre = true) (s : List Char) :
    trimStart (pre ++ s) = trimStart s := by
  induction pre with
  | nil => rfl
  | cons c cs ih =>
    rw [isBlank_cons, Bool.and_eq_true] at hpre
    rw [List.cons_append, trimStart_cons_of_isWhite hpre.1, ih hpre.2]

/-- Where a word begins, there is no leading white space. -/
theorem trimStart_of_startsWord {text : List Char} (h : startsWord text = true) :
    trimStart text = text := by
  cases text with
  | nil => rfl
  | cons c cs =>
    rw [startsWord_cons] at h
    rw [trimStart, List.dropWhile_cons_of_neg (by simpa using h)]

theorem trimStart_trimStart (text : List Char) : trimStart (trimStart text) = trimStart text := by
  rcases trimStart_eq_nil_or_startsWord text with hnil | hword
  · rw [hnil]
    rfl
  · exact trimStart_of_startsWord hword

theorem startsWord_append_left {s : List Char} (h : startsWord s = true) (t : List Char) :
    startsWord (s ++ t) = true := by
  cases s with
  | nil => cases h
  | cons c cs => exact h

/-! ## Words -/

theorem words_cons_of_not_startsWord {c : Char} (hc : isWhite c = false) {cs : List Char}
    (hcs : startsWord cs = false) : words (c :: cs) = [c] :: words cs := by
  conv => lhs; unfold words
  rw [if_neg (by simp [hc])]
  cases cs with
  | nil => rfl
  | cons d ds =>
    rw [startsWord_cons, Bool.not_eq_false'] at hcs
    cases hwords : words (d :: ds) with
    | nil => rfl
    | cons w ws => exact if_pos hcs

theorem words_cons_of_startsWord {c : Char} (hc : isWhite c = false) {cs w : List Char}
    {ws : List (List Char)} (hcs : startsWord cs = true) (hwords : words cs = w :: ws) :
    words (c :: cs) = (c :: w) :: ws := by
  conv => lhs; unfold words
  rw [if_neg (by simp [hc]), hwords]
  cases cs with
  | nil => cases hcs
  | cons d ds =>
    rw [startsWord_cons, Bool.not_eq_true'] at hcs
    exact if_neg (by simp [hcs])

/-- A text that begins with a word has that word first. -/
theorem BeginsWith.words_eq {s word rest : List Char} (h : BeginsWith s word rest) :
    words s = word :: words rest := by
  obtain ⟨rfl, hne, hletters, hends⟩ := h
  induction word with
  | nil => exact absurd rfl hne
  | cons c cs ih =>
    have hc : isWhite c = false := hletters c (by simp)
    cases cs with
    | nil => exact words_cons_of_not_startsWord hc hends
    | cons d ds =>
      have hds := ih (by simp) fun e he => hletters e (by simp [he])
      have hd : isWhite d = false := hletters d (by simp)
      exact words_cons_of_startsWord hc (by simp [hd]) hds

theorem BeginsWith.startsWord {s word rest : List Char} (h : BeginsWith s word rest) :
    startsWord s = true := by
  obtain ⟨c, cs, rfl⟩ := List.exists_cons_of_ne_nil h.ne_nil
  rw [h.eq_append, List.cons_append, startsWord_cons, h.letters c List.mem_cons_self, Bool.not_false]

/-- What is no shorter than the word at which a text begins, and has no white space, is that word. No
word begins after it. -/
theorem not_startsWord_of_beginsWith {taken rest word more : List Char}
    (h : BeginsWith (taken ++ rest) word more) (htaken : ∀ c ∈ taken, isWhite c = false)
    (hlength : word.length ≤ taken.length) : startsWord rest = false := by
  rcases List.append_eq_append_iff.1 h.eq_append with ⟨extra, rfl, rfl⟩ | ⟨extra, rfl, rfl⟩
  · have hnil : extra = [] := by
      rw [List.length_append] at hlength
      exact List.length_eq_zero_iff.1 (by omega)
    rw [hnil]
    exact h.ends
  · have hends := h.ends
    cases extra with
    | nil => exact hends
    | cons c cs =>
      rw [List.cons_append, startsWord_cons, htaken c (by simp)] at hends
      cases hends

/-- Where a word begins, there is a word. -/
theorem exists_beginsWith {s : List Char} (h : startsWord s = true) :
    ∃ word rest, BeginsWith s word rest := by
  refine ⟨s.takeWhile (!isWhite ·), s.dropWhile (!isWhite ·),
    List.takeWhile_append_dropWhile.symm, ?_, ?_, ?_⟩
  · cases s with
    | nil => cases h
    | cons c cs =>
      rw [List.takeWhile_cons_of_pos (p := (!isWhite ·)) h]
      simp
  · intro c hc
    have := List.all_eq_true.1 (List.all_takeWhile (p := (!isWhite ·)) (l := s)) c hc
    simpa using this
  · unfold startsWord
    cases hrest : (s.dropWhile (!isWhite ·)).head? with
    | none => rfl
    | some c =>
      have := List.head?_dropWhile_not (!isWhite ·) s
      rw [hrest] at this
      simpa using this

/-- To prove something of a text: it holds of the empty one, white space in front does not matter,
and it is passed on from what follows a word to the text that begins with that word. -/
theorem wordsInduction {motive : List Char → Prop} (nil : motive [])
    (white : ∀ c cs, isWhite c = true → motive cs → motive (c :: cs))
    (word : ∀ s w rest, BeginsWith s w rest → motive rest → motive s) (s : List Char) :
    motive s := by
  induction hlen : s.length using Nat.strongRecOn generalizing s with
  | ind n ih =>
    cases s with
    | nil => exact nil
    | cons c cs =>
      by_cases hc : isWhite c = true
      · exact white c cs hc (ih cs.length (by simp [← hlen]) cs rfl)
      · obtain ⟨w, rest, h⟩ := exists_beginsWith (s := c :: cs) (by simp [hc])
        -- a word has a character at least, so the rest is shorter
        have hshorter : rest.length < n := by
          have hpos := List.length_pos_iff.2 h.ne_nil
          rw [← hlen, h.eq_append, List.length_append]
          omega
        exact word _ w rest h (ih rest.length hshorter rest rfl)

/-- A text without words is white space. -/
theorem words_eq_nil_iff (s : List Char) : words s = [] ↔ isBlank s = true := by
  induction s using wordsInduction with
  | nil => simp
  | white c cs hc ih => rw [words_cons_of_isWhite hc, isBlank_cons, hc, Bool.true_and, ih]
  | word s w rest h _ =>
    rw [h.words_eq, h.eq_append]
    obtain ⟨c, cs, rfl⟩ := List.exists_cons_of_ne_nil h.ne_nil
    simp [h.letters c]

/-- The words of a text have letters, and no white space. -/
theorem of_mem_words {s w : List Char} (h : w ∈ words s) :
    w ≠ [] ∧ ∀ c ∈ w, isWhite c = false := by
  induction s using wordsInduction with
  | nil => cases h
  | white c cs hc ih => exact ih (by rwa [words_cons_of_isWhite hc] at h)
  | word s v rest hs ih =>
    rw [hs.words_eq, List.mem_cons] at h
    rcases h with rfl | h
    · exact ⟨hs.ne_nil, hs.letters⟩
    · exact ih h

/-- Words joined by blanks are found again. -/
theorem words_unwords {ws : List (List Char)}
    (h : ∀ w ∈ ws, w ≠ [] ∧ ∀ c ∈ w, isWhite c = false) : words (unwords ws) = ws := by
  induction ws with
  | nil => rfl
  | cons w ws ih =>
    obtain ⟨hne, hletters⟩ := h w (by simp)
    have hrest := ih fun v hv => h v (by simp [hv])
    cases ws with
    | nil =>
      have hbegins : BeginsWith w w [] := ⟨(List.append_nil w).symm, hne, hletters, rfl⟩
      exact hbegins.words_eq
    | cons v vs =>
      have hbegins : BeginsWith (w ++ ' ' :: unwords (v :: vs)) w (' ' :: unwords (v :: vs)) :=
        ⟨rfl, hne, hletters, rfl⟩
      show words (w ++ ' ' :: unwords (v :: vs)) = w :: v :: vs
      rw [hbegins.words_eq, words_cons_of_isWhite rfl, hrest]

end Muster.Text
