import Mathlib.Data.List.Basic
import Muster.Proofs.Text.Names

/-!
# Normal form as a canonical form

A text in normal form is told from others by two things. White space stands in it only as single
blanks between words (`SinglySpaced`), and its letters are lowered (`Lowered`): these are exactly the
texts that are their own normal form (`normal_eq_self_iff`). White space between two texts keeps
their words apart (`words_append_gap`), so that the normal form of the whole is put together from
those of the parts. Main statement: `normalize_canonical`.
-/

namespace Muster.Text

open Muster.Unicode

/-! ## Words on both sides of white space -/

/-- White space keeps the words before it from those after it. -/
theorem words_append_gap {c : Char} (hc : isWhite c = true) (s t : List Char) :
    words (s ++ c :: t) = words s ++ words t := by
  induction s using wordsInduction with
  | nil => exact words_cons_of_isWhite hc t
  | white d ds hd ih => rw [List.cons_append, words_cons_of_isWhite hd, words_cons_of_isWhite hd, ih]
  | word s w rest h ih =>
    -- the word ends where it did before
    have hends : startsWord (rest ++ c :: t) = false := by
      cases rest with
      | nil => simp [hc]
      | cons d ds => exact h.ends
    have hbegins : BeginsWith (s ++ c :: t) w (rest ++ c :: t) :=
      ⟨by rw [h.eq_append, List.append_assoc], h.ne_nil, h.letters, hends⟩
    rw [hbegins.words_eq, h.words_eq, ih, List.cons_append]

/-- What stands between two texts does not matter, as long as it is white space. -/
theorem words_append_of_gap {gap : List Char} (hne : gap ≠ []) (hgap : isBlank gap = true)
    (s t : List Char) : words (s ++ gap ++ t) = words s ++ words t := by
  obtain ⟨c, cs, rfl⟩ := List.exists_cons_of_ne_nil hne
  rw [isBlank_cons, Bool.and_eq_true] at hgap
  rw [List.append_assoc, List.cons_append, words_append_gap hgap.1, words_append_of_isBlank hgap.2]

/-- The words of a text are made of its letters. -/
theorem mem_of_mem_words {s w : List Char} (hw : w ∈ words s) {c : Char} (hc : c ∈ w) : c ∈ s := by
  induction s using wordsInduction with
  | nil => cases hw
  | white d ds hd ih =>
    rw [words_cons_of_isWhite hd] at hw
    exact List.mem_cons_of_mem d (ih hw)
  | word s v rest h ih =>
    rw [h.words_eq, List.mem_cons] at hw
    rw [h.eq_append, List.mem_append]
    rcases hw with rfl | hw
    · exact Or.inl hc
    · exact Or.inr (ih hw)

/-! ## Joined words -/

theorem unwords_cons (w : List Char) {ws : List (List Char)} (hws : ws ≠ []) :
    unwords (w :: ws) = w ++ ' ' :: unwords ws := by
  obtain ⟨v, vs, rfl⟩ := List.exists_cons_of_ne_nil hws
  rfl

theorem unwords_append {vs ws : List (List Char)} (hvs : vs ≠ []) (hws : ws ≠ []) :
    unwords (vs ++ ws) = unwords vs ++ ' ' :: unwords ws := by
  induction vs with
  | nil => exact absurd rfl hvs
  | cons v vs ih =>
    by_cases hnil : vs = []
    · rw [hnil]
      exact unwords_cons v hws
    · rw [List.cons_append, unwords_cons v (List.append_ne_nil_of_left_ne_nil hnil ws), ih hnil,
        unwords_cons v hnil, List.append_assoc, List.cons_append]

/-- Joined words are made of their letters and of blanks. -/
theorem of_mem_unwords {ws : List (List Char)} {c : Char} (h : c ∈ unwords ws) :
    c = ' ' ∨ ∃ w ∈ ws, c ∈ w := by
  induction ws with
  | nil => cases h
  | cons w ws ih =>
    by_cases hnil : ws = []
    · rw [hnil] at h
      exact Or.inr ⟨w, List.mem_cons_self, h⟩
    · rw [unwords_cons w hnil, List.mem_append, List.mem_cons] at h
      rcases h with hw | rfl | hrest
      · exact Or.inr ⟨w, List.mem_cons_self, hw⟩
      · exact Or.inl rfl
      · rcases ih hrest with hblank | ⟨v, hv, hmem⟩
        · exact Or.inl hblank
        · exact Or.inr ⟨v, List.mem_cons_of_mem w hv, hmem⟩

/-! ## Single blanks -/

/-- White space stands in a text only as single blanks between words. -/
structure SinglySpaced (s : List Char) : Prop where
  /-- There is none in front. -/
  starts : ∀ c ∈ s.head?, isWhite c = false
  /-- There is none at the end. -/
  ends : ∀ c ∈ s.getLast?, isWhite c = false
  /-- All other is a blank without white space next to it. -/
  gaps : ∀ before gap after, s = before ++ gap :: after → isWhite gap = true →
    gap = ' ' ∧ (∀ c ∈ before.getLast?, isWhite c = false) ∧ ∀ c ∈ after.head?, isWhite c = false

/-- A text goes on behind a blank up to its own end. -/
theorem getLast?_append_blank (s : List Char) {t : List Char} (ht : t ≠ []) :
    (s ++ ' ' :: t).getLast? = t.getLast? := by
  rw [List.getLast?_append_of_ne_nil s (List.cons_ne_nil _ _), List.getLast?_cons_of_ne_nil ht]

theorem singlySpaced_of_letters {w : List Char} (h : ∀ c ∈ w, isWhite c = false) :
    SinglySpaced w where
  starts c hc := h c (List.mem_of_mem_head? hc)
  ends c hc := h c (List.mem_of_getLast? hc)
  gaps before gap after hw hgap := by
    rw [h gap (by rw [hw]; exact List.mem_append_cons_self)] at hgap
    cases hgap

/-- One blank may be put between two texts. -/
theorem SinglySpaced.join {s t : List Char} (hs : SinglySpaced s) (ht : SinglySpaced t)
    (hsne : s ≠ []) (htne : t ≠ []) : SinglySpaced (s ++ ' ' :: t) where
  starts := by
    rw [List.head?_append_of_ne_nil s hsne]
    exact hs.starts
  ends := by
    rw [getLast?_append_blank s htne]
    exact ht.ends
  gaps before gap after heq hgap := by
    rcases List.append_eq_append_iff.1 heq with ⟨extra, rfl, hextra⟩ | ⟨extra, rfl, hextra⟩
    · cases extra with
      | nil =>
        -- this is the blank between them
        obtain ⟨rfl, rfl⟩ := List.cons.inj hextra
        rw [List.append_nil]
        exact ⟨rfl, hs.ends, ht.starts⟩
      | cons d extra =>
        -- it stands in the second text, and not in front of it
        obtain ⟨rfl, rfl⟩ := List.cons.inj hextra
        obtain ⟨hblank, hbefore, hafter⟩ := ht.gaps extra gap after rfl hgap
        refine ⟨hblank, ?_, hafter⟩
        cases extra with
        | nil =>
          rw [ht.starts gap rfl] at hgap
          cases hgap
        | cons e extra =>
          rw [getLast?_append_blank s (List.cons_ne_nil e extra)]
          exact hbefore
    · cases extra with
      | nil =>
        obtain ⟨rfl, rfl⟩ := List.cons.inj hextra
        rw [List.append_nil] at hs
        exact ⟨rfl, hs.ends, ht.starts⟩
      | cons d extra =>
        -- it stands in the first text, and not at its end
        obtain ⟨rfl, rfl⟩ := List.cons.inj hextra
        obtain ⟨hblank, hbefore, hafter⟩ := hs.gaps before gap extra rfl hgap
        refine ⟨hblank, hbefore, ?_⟩
        cases extra with
        | nil =>
          rw [hs.ends gap (by simp)] at hgap
          cases hgap
        | cons e extra => exact hafter

/-- What stands behind a blank. -/
theorem SinglySpaced.of_append {s t : List Char} (h : SinglySpaced (s ++ ' ' :: t)) :
    t ≠ [] ∧ SinglySpaced t := by
  have hne : t ≠ [] := by
    rintro rfl
    have hlast := h.ends ' ' (by simp)
    cases hlast
  refine ⟨hne, ⟨(h.gaps s ' ' t rfl rfl).2.2, fun c hc => h.ends c ?_,
    fun before gap after ht hgap => ?_⟩⟩
  · rw [getLast?_append_blank s hne]
    exact hc
  · obtain ⟨hblank, hbefore, hafter⟩ := h.gaps (s ++ ' ' :: before) gap after
      (by rw [ht, List.append_assoc, List.cons_append]) hgap
    refine ⟨hblank, fun c hc => hbefore c ?_, hafter⟩
    have hbeforene : before ≠ [] := by
      rintro rfl
      cases hc
    rw [getLast?_append_blank s hbeforene]
    exact hc

/-- Words that are joined are singly spaced. -/
theorem singlySpaced_unwords {ws : List (List Char)}
    (h : ∀ w ∈ ws, w ≠ [] ∧ ∀ c ∈ w, isWhite c = false) : SinglySpaced (unwords ws) := by
  induction ws with
  | nil =>
    have hnone : ∀ c ∈ ([] : List Char), isWhite c = false := fun c hc => by cases hc
    exact singlySpaced_of_letters hnone
  | cons w ws ih =>
    obtain ⟨⟨hne, hletters⟩, hws⟩ := List.forall_mem_cons.1 h
    by_cases hnil : ws = []
    · rw [hnil]
      exact singlySpaced_of_letters hletters
    · obtain ⟨v, vs, rfl⟩ := List.exists_cons_of_ne_nil hnil
      have hrestne : unwords (v :: vs) ≠ [] := by
        intro hempty
        have hwords := words_unwords hws
        rw [hempty] at hwords
        cases hwords
      exact (singlySpaced_of_letters hletters).join (ih hws) hne hrestne

/-- A singly spaced text begins with a word, and so it has nothing to be trimmed off. -/
theorem SinglySpaced.trimStart_eq {s : List Char} (h : SinglySpaced s) : trimStart s = s := by
  cases s with
  | nil => rfl
  | cons c cs =>
    exact trimStart_of_startsWord (by rw [startsWord_cons, h.starts c rfl, Bool.not_false])

/-- A text that is singly spaced from its first word on is its words, joined, from there on. -/
theorem unwords_words_eq_trimStart {s : List Char} (h : SinglySpaced (trimStart s)) :
    unwords (words s) = trimStart s := by
  induction s using wordsInduction with
  | nil => rfl
  | white c cs hc ih =>
    rw [trimStart_cons_of_isWhite hc] at h
    rw [words_cons_of_isWhite hc, trimStart_cons_of_isWhite hc, ih h]
  | word s w rest hs ih =>
    rw [trimStart_of_startsWord hs.startsWord] at h ⊢
    rw [hs.words_eq]
    cases rest with
    | nil => rw [hs.eq_append, List.append_nil, words_nil, unwords]
    | cons c cs =>
      -- behind the word stands a single blank, and a text of which the statement holds
      have hc : isWhite c = true := by simpa using hs.ends
      obtain rfl : c = ' ' := (h.gaps w c cs hs.eq_append hc).1
      rw [hs.eq_append] at h ⊢
      obtain ⟨hne, hcs⟩ := h.of_append
      have htrim : trimStart (' ' :: cs) = cs := by
        rw [trimStart_cons_of_isWhite hc, hcs.trimStart_eq]
      rw [htrim] at ih
      have hrest := ih hcs
      have hwords : words (' ' :: cs) ≠ [] := by
        intro hnil
        rw [hnil] at hrest
        exact hne hrest.symm
      rw [unwords_cons w hwords, hrest]

/-- A singly spaced text is its words, joined. -/
theorem SinglySpaced.unwords_words {s : List Char} (h : SinglySpaced s) :
    unwords (words s) = s := by
  have htrim := h.trimStart_eq
  rw [← htrim] at h
  rw [unwords_words_eq_trimStart h, htrim]

/-! ## Normal form -/

theorem singlySpaced_normal (s : List Char) : SinglySpaced (normal s) := by
  refine singlySpaced_unwords fun v hv => ?_
  obtain ⟨w, hw, rfl⟩ := List.mem_map.1 hv
  obtain ⟨hne, hletters⟩ := of_mem_words hw
  exact (lowerText_of_word hne hletters).2

theorem lowered_normal (s : List Char) : Lowered (normal s) := by
  intro c hc
  rcases of_mem_unwords hc with rfl | ⟨v, hv, hmem⟩
  · decide +kernel
  · obtain ⟨w, hw, rfl⟩ := List.mem_map.1 hv
    obtain ⟨hne, hletters⟩ := of_mem_words hw
    exact (lowerText_of_word hne hletters).1 c hmem

/-- The texts that are their own normal form. -/
theorem normal_eq_self_iff (s : List Char) : normal s = s ↔ SinglySpaced s ∧ Lowered s := by
  constructor
  · intro h
    rw [← h]
    exact ⟨singlySpaced_normal s, lowered_normal s⟩
  · rintro ⟨hspaced, hlowered⟩
    have hwords : (words s).map lowerText = words s := by
      calc (words s).map lowerText = (words s).map id := List.map_congr_left fun w hw =>
            lowerText_of_lowered fun c hc => hlowered c (mem_of_mem_words hw hc)
        _ = words s := List.map_id _
    rw [normal, hwords, hspaced.unwords_words]

theorem normal_eq_nil_iff (s : List Char) : normal s = [] ↔ words s = [] := by
  constructor
  · intro h
    have hwords := words_normal s
    rw [h, words_nil, eq_comm, List.map_eq_nil_iff] at hwords
    exact hwords
  · intro h
    rw [normal, h]
    rfl

/-- The normal form of two texts with white space between them. -/
theorem normal_append_of_gap {gap : List Char} (hne : gap ≠ []) (hgap : isBlank gap = true)
    (s t : List Char) : normal (s ++ gap ++ t) =
      if normal s = [] then normal t else if normal t = [] then normal s
      else normal s ++ ' ' :: normal t := by
  have hwords := words_append_of_gap hne hgap s t
  split
  · next hs =>
    rw [normal, hwords, (normal_eq_nil_iff s).1 hs, List.nil_append, normal]
  · next hs =>
    split
    · next ht =>
      rw [normal, hwords, (normal_eq_nil_iff t).1 ht, List.append_nil, normal]
    · next ht =>
      have hsne : (words s).map lowerText ≠ [] := fun h =>
        hs ((normal_eq_nil_iff s).2 (List.map_eq_nil_iff.1 h))
      have htne : (words t).map lowerText ≠ [] := fun h =>
        ht ((normal_eq_nil_iff t).2 (List.map_eq_nil_iff.1 h))
      rw [normal, hwords, List.map_append, unwords_append hsne htne, normal, normal]

end Muster.Text

namespace Muster

open Muster.Text Muster.Unicode

theorem normalize_eq_empty_iff (s : String) : normalize s = "" ↔ normal s.toList = [] := by
  rw [normalize, String.ofList_eq_empty_iff]

/-- Normal form is a canonical form: it is its own normal form, and the only texts of which this holds
are the singly spaced ones of lowered letters. It is empty exactly for a text of white space, its
words are those of the text in lowercase, and the normal form of two texts with white space between
them is that of the one, a blank, and that of the other, if neither is empty. -/
theorem normalize_canonical (s : String) :
    normalize (normalize s) = normalize s ∧
    (normalize s = s ↔ SinglySpaced s.toList ∧ Lowered s.toList) ∧
    SinglySpaced (normalize s).toList ∧
    (normalize s = "" ↔ ∀ c ∈ s.toList, isWhite c = true) ∧
    words (normalize s).toList = (words s.toList).map lowerText ∧
    ∀ gap t : String, gap ≠ "" → (∀ c ∈ gap.toList, isWhite c = true) →
      normalize (s ++ gap ++ t) =
        if normalize s = "" then normalize t
        else if normalize t = "" then normalize s
        else normalize s ++ " " ++ normalize t := by
  have hlist : (normalize s).toList = normal s.toList := by rw [normalize, String.toList_ofList]
  have hself : normalize s = s ↔ normal s.toList = s.toList := by
    rw [← hlist, String.toList_inj]
  have hempty : normalize s = "" ↔ ∀ c ∈ s.toList, isWhite c = true := by
    rw [normalize_eq_empty_iff, normal_eq_nil_iff, words_eq_nil_iff, isBlank, List.all_eq_true]
  refine ⟨normalize_normalize s, hself.trans (normal_eq_self_iff s.toList), ?_, hempty, ?_, ?_⟩
  · rw [hlist]
    exact singlySpaced_normal s.toList
  · rw [hlist]
    exact words_normal s.toList
  · intro gap t hne hgap
    have hparts := normal_append_of_gap (fun h => hne (String.toList_eq_nil_iff.1 h))
      (List.all_eq_true.2 hgap) s.toList t.toList
    simp only [normalize_eq_empty_iff]
    rw [normalize, String.toList_append, String.toList_append, hparts]
    split
    · rfl
    · split
      · rfl
      · rw [← List.singleton_append, ← List.append_assoc, String.ofList_append,
          String.ofList_append]
        rfl

/-- Two names with white space of several kinds between them. The first and the last sigma of the
second are different ones, and the dotted capital of the first becomes two letters. -/
theorem sophos_sisyphos_normalized :
    let gap := "\u2003\t"
    gap ≠ "" ∧ (∀ c ∈ gap.toList, isWhite c = true) ∧
      normalize (" İo ΣΟΦΟΣ" ++ gap ++ "\u3000ΣΙΣΥΦΟΣ ") = "i\u0307o σοφος σισυφος" := by
  intro gap
  have hne : gap ≠ "" := by decide +kernel
  have hgap : ∀ c ∈ gap.toList, isWhite c = true := List.all_eq_true.1 (by decide +kernel)
  refine ⟨hne, hgap, ?_⟩
  rw [(normalize_canonical " İo ΣΟΦΟΣ").2.2.2.2.2 gap "\u3000ΣΙΣΥΦΟΣ " hne hgap]
  decide +kernel

end Muster
