import Muster.Proofs.Text.Placeholders
import Muster.Roster.Character

/-!
# Values in a message

What a value brings into a message may be taken for a placeholder of a later key. At every stage a
message is filled in as if it had been at once exactly if no stage finds a placeholder that the
message itself does not have (`interpolate_atOnce_iff`). That is so if the values have no braces and
the braces of the message are not nested (`interpolate_of_flat`), and the order of the values does
not matter then. A name with braces may be replaced (`placeholder_name_replaced`).
-/

namespace Muster.Text

variable {values earlier : List (List Char × List Char)} {key value : List Char}

/-! ## Keys one after the other -/

theorem fillIn_concat (message : List Char) (earlier : List (List Char × List Char))
    (key value : List Char) :
    fillIn message (earlier ++ [(key, value)]) =
      fillAtOnce [(key, value)] (fillIn message earlier) := by
  rw [fillIn, List.foldl_append]
  exact replaceAll_eq_fillAtOnce _

/-- Filling in key by key gives at every stage what filling in at once gives, exactly if no stage
finds a placeholder that has come in with a value. -/
theorem fillIn_eq_fillAtOnce_iff (message : List Char) (h : Keyed values) :
    (∀ earlier later, values = earlier ++ later →
        fillIn message earlier = fillAtOnce earlier message) ↔
      ∀ earlier key value later, values = earlier ++ (key, value) :: later →
        value = placeholder key ∨
          occurrences (placeholder key) (fillAtOnce earlier message) =
            occurrences (placeholder key) message := by
  have hkeyed : ∀ {earlier key value later}, values = earlier ++ (key, value) :: later →
      Keyed (earlier ++ [(key, value)]) := by
    intro earlier key value later hvalues
    rw [hvalues, List.append_cons] at h
    exact h.of_append
  constructor
  · intro hstages earlier key value later hvalues
    rw [← fillAtOnce_fillAtOnce_iff (hkeyed hvalues),
      ← hstages earlier ((key, value) :: later) hvalues, ← fillIn_concat]
    exact hstages _ later (by rw [hvalues, List.append_cons])
  · intro hcome earlier
    induction earlier using List.reverseRecOn with
    | nil => exact fun later _ => (fillAtOnce_nil message).symm
    | append_singleton earlier entry ih =>
      obtain ⟨key, value⟩ := entry
      intro later hvalues
      rw [List.append_assoc, List.singleton_append] at hvalues
      rw [fillIn_concat, ih _ hvalues, fillAtOnce_fillAtOnce_iff (hkeyed hvalues)]
      exact hcome earlier key value later hvalues

/-! ## Braces that are not nested -/

/-- Between two opening braces there is a closing one. -/
def Flat (s : List Char) : Prop :=
  ∀ before inside after, s = before ++ '{' :: (inside ++ '{' :: after) → '}' ∈ inside

theorem Flat.of_append {s rest : List Char} (h : Flat (s ++ rest)) : Flat rest :=
  fun before inside after hrest => h (s ++ before) inside after (by rw [hrest, List.append_assoc])

/-- If braces are not nested, what is filled in behind a brace does not make it begin a
placeholder. -/
theorem not_starts_fillAtOnce (values : List (List Char × List Char)) (hkey : NoBraces key)
    {c : Char} {cs : List Char} (hplain : ¬ placeholder key <+: c :: cs) (hflat : Flat (c :: cs)) :
    ¬ placeholder key <+: c :: fillAtOnce values cs := by
  rintro ⟨more, hmore⟩
  rw [placeholder_append] at hmore
  obtain ⟨rfl, hfilled⟩ := List.cons.inj hmore
  -- up to the next closing brace there is no opening one
  have hopen : ∀ inside rest, cs = inside ++ rest → '}' ∉ inside → '{' ∉ inside := by
    intro inside rest hcs hclose hmem
    obtain ⟨before, after, rfl⟩ := List.append_of_mem hmem
    have hbefore := hflat [] before (after ++ rest) (by rw [hcs]; simp)
    exact hclose (List.mem_append_left _ hbefore)
  by_cases hclose : '}' ∈ cs
  · obtain ⟨inside, rest, hcs, hinside⟩ := List.eq_append_cons_of_mem hclose
    rw [hcs, fillAtOnce_append (hopen inside _ hcs hinside),
      fillAtOnce_cons fun _ _ => not_starts_of_ne (by decide) _] at hfilled
    -- so the key would stand there already
    have hsame : key = inside := by
      rw [← takeWhile_key hkey.2 more, hfilled, takeWhile_key hinside]
    exact hplain ⟨rest, by rw [placeholder_append, hsame, hcs]⟩
  · have hnone := hopen cs [] (List.append_nil cs).symm hclose
    rw [fillAtOnce_of_not_mem hnone] at hfilled
    exact hclose (by rw [← hfilled]; simp)

/-- In a text whose braces are not nested, no placeholder comes in with values without braces. -/
theorem occurrences_fillAtOnce_of_flat (h : Keyed (earlier ++ [(key, value)]))
    (hvalues : ∀ entry ∈ earlier, NoBraces entry.2) {s : List Char} (hflat : Flat s) :
    occurrences (placeholder key) (fillAtOnce earlier s) = occurrences (placeholder key) s := by
  have hkey : NoBraces key := h.noBraces (key, value) (by simp)
  induction s using parts_induction (earlier ++ [(key, value)]) with
  | nil => rfl
  | placeholder other shown rest hmem ih =>
    have hother : NoBraces other := h.noBraces _ hmem
    rw [occurrences_placeholder hkey hother, ← ih hflat.of_append]
    rcases List.mem_append.1 hmem with hearlier | hlast
    · rw [fillAtOnce_placeholder h.of_append hearlier,
        occurrences_append (hvalues _ hearlier).1, if_neg (h.not_mem _ hearlier), Nat.add_zero]
    · obtain ⟨rfl, rfl⟩ := Prod.mk.inj (List.mem_singleton.1 hlast)
      rw [fillAtOnce_other h.of_append hother h.not_mem, occurrences_placeholder hkey hother]
  | char c cs hnot ih =>
    have hearlier : ∀ entry ∈ earlier, ¬ placeholder entry.1 <+: c :: cs :=
      fun entry hentry => hnot entry (List.mem_append_left _ hentry)
    have hplain : ¬ placeholder key <+: c :: cs := hnot (key, value) (by simp)
    have hfilled := not_starts_fillAtOnce earlier hkey hplain hflat
    have htail : Flat ([c] ++ cs) := hflat
    rw [fillAtOnce_cons hearlier, occurrences_cons_of_not_starts hplain,
      occurrences_cons_of_not_starts hfilled, ih htail.of_append]

theorem fillIn_of_flat (h : Keyed values) (hvalues : ∀ entry ∈ values, NoBraces entry.2)
    {message : List Char} (hflat : Flat message) :
    fillIn message values = fillAtOnce values message := by
  refine (fillIn_eq_fillAtOnce_iff message h).2 ?_ values [] (List.append_nil values).symm
  intro earlier key value later hsplit
  have hkeyed : Keyed (earlier ++ [(key, value)] ++ later) := by
    rwa [← List.append_cons, ← hsplit]
  have hearlier : ∀ entry ∈ earlier, NoBraces entry.2 := fun entry hentry =>
    hvalues entry (by rw [hsplit]; exact List.mem_append_left _ hentry)
  exact Or.inr (occurrences_fillAtOnce_of_flat hkeyed.of_append hearlier hflat)

/-! ## The order of the values -/

theorem Keyed.perm {order : List (List Char × List Char)} (h : Keyed values)
    (hperm : order.Perm values) : Keyed order where
  nodup := (hperm.map _).nodup_iff.2 h.nodup
  noBraces entry hentry := h.noBraces entry (hperm.mem_iff.1 hentry)

/-- Filling in at once does not look at the order of the values. -/
theorem fillAtOnce_perm {order : List (List Char × List Char)} (h : Keyed values)
    (hperm : order.Perm values) (message : List Char) :
    fillAtOnce order message = fillAtOnce values message := by
  induction message using parts_induction values with
  | nil => rfl
  | placeholder key value rest hmem ih =>
    rw [fillAtOnce_placeholder (h.perm hperm) (hperm.mem_iff.2 hmem),
      fillAtOnce_placeholder h hmem, ih]
  | char c cs hnot ih =>
    rw [fillAtOnce_cons fun entry hentry => hnot entry (hperm.mem_iff.1 hentry),
      fillAtOnce_cons hnot, ih]

end Muster.Text

namespace Muster

open Muster.Text

/-- The characters of keys and values. -/
def entriesOf (values : List (String × String)) : List (List Char × List Char) :=
  values.map fun (key, value) => (key.toList, value.toList)

/-- A message with the placeholders of the given keys replaced by their values, all at once. -/
def interpolateAtOnce (message : String) (values : List (String × String)) : String :=
  String.ofList (fillAtOnce (entriesOf values) message.toList)

theorem interpolate_eq_atOnce_iff {message : String} {values : List (String × String)} :
    interpolate message values = interpolateAtOnce message values ↔
      fillIn message.toList (entriesOf values) = fillAtOnce (entriesOf values) message.toList :=
  String.ofList_inj

theorem entriesOf_append (earlier later : List (String × String)) :
    entriesOf (earlier ++ later) = entriesOf earlier ++ entriesOf later :=
  List.map_append

theorem keyed_entriesOf {values : List (String × String)} (hnodup : (values.map (·.1)).Nodup)
    (hkeys : ∀ entry ∈ values, NoBraces entry.1.toList) : Keyed (entriesOf values) where
  nodup := by
    have hmap : (entriesOf values).map (·.1) = (values.map (·.1)).map String.toList := by
      rw [entriesOf, List.map_map, List.map_map]
      rfl
    rw [hmap]
    exact hnodup.map fun _ _ h => String.toList_inj.1 h
  noBraces entry hentry := by
    obtain ⟨pair, hpair, rfl⟩ := List.mem_map.1 hentry
    exact hkeys pair hpair

/-- For distinct keys without braces, a message is filled in at every stage as if it had been at
once, exactly if no stage finds a placeholder that has come in with a value. The order of the values
does not matter for what is filled in at once. -/
theorem interpolate_atOnce_iff (message : String) {values : List (String × String)}
    (hnodup : (values.map (·.1)).Nodup) (hkeys : ∀ entry ∈ values, NoBraces entry.1.toList) :
    ((∀ earlier later, values = earlier ++ later →
        interpolate message earlier = interpolateAtOnce message earlier) ↔
      ∀ earlier key value later, values = earlier ++ (key, value) :: later →
        value.toList = placeholder key.toList ∨
          occurrences (placeholder key.toList) (interpolateAtOnce message earlier).toList =
            occurrences (placeholder key.toList) message.toList) ∧
      ∀ order : List (String × String), order.Perm values →
        interpolateAtOnce message order = interpolateAtOnce message values := by
  have hkeyed := keyed_entriesOf hnodup hkeys
  constructor
  · have hstages := fillIn_eq_fillAtOnce_iff message.toList hkeyed
    constructor
    · intro h earlier key value later hvalues
      rw [interpolateAtOnce, String.toList_ofList]
      refine hstages.1 ?_ (entriesOf earlier) key.toList value.toList (entriesOf later) ?_
      · intro begun rest hsplit
        obtain ⟨first, last, hfirst, rfl, rfl⟩ := List.map_eq_append_iff.1 hsplit
        exact interpolate_eq_atOnce_iff.1 (h first last hfirst)
      · rw [hvalues, entriesOf_append]
        rfl
    · intro h earlier later hvalues
      refine interpolate_eq_atOnce_iff.2 (hstages.2 ?_ (entriesOf earlier) (entriesOf later) ?_)
      · intro begun key value rest hsplit
        obtain ⟨first, tail, hfirst, rfl, htail⟩ := List.map_eq_append_iff.1 hsplit
        obtain ⟨⟨label, shown⟩, last, rfl, hentry, rfl⟩ := List.map_eq_cons_iff.1 htail
        obtain ⟨rfl, rfl⟩ := Prod.mk.inj hentry
        have hcome := h first label shown last hfirst
        rwa [interpolateAtOnce, String.toList_ofList] at hcome
      · rw [hvalues, entriesOf_append]
  · intro order hperm
    exact congrArg String.ofList (fillAtOnce_perm hkeyed (hperm.map _) message.toList)

/-- A name without braces is shown as it is. -/
theorem bob_shown :
    interpolate "\x7bname\x7d, \x7bspecies\x7d" [("name", "Bob"), ("species", "Hum")] =
      interpolateAtOnce "\x7bname\x7d, \x7bspecies\x7d" [("name", "Bob"), ("species", "Hum")] := by
  refine (interpolate_atOnce_iff _ (by decide) (by decide)).1.2 ?_ _ [] (List.append_nil _).symm
  intro earlier key value later hsplit
  rcases earlier with _ | ⟨first, _ | ⟨second, rest⟩⟩
  · cases hsplit
    exact Or.inr (by decide)
  · cases hsplit
    exact Or.inr (by decide)
  · simp at hsplit

/-- A name that is the placeholder of another key is not shown as it is, and what is shown depends
on the order of the values. Values without braces can make a placeholder, too, with braces of the
message around them. -/
theorem placeholder_name_replaced :
    let values := [("name", "\x7bspecies\x7d"), ("species", "Hum"), ("bg", "Sch")]
    let message := "\x7bname\x7d, \x7bspecies\x7d \x7bbg\x7d"
    let nested := "\x7b\x7ba\x7d\x7d"
    (values.map (·.1)).Nodup ∧ (∀ entry ∈ values, NoBraces entry.1.toList) ∧
      interpolateAtOnce message values = "\x7bspecies\x7d, Hum Sch" ∧
      interpolate message values = "Hum, Hum Sch" ∧
      interpolate message values.reverse = "\x7bspecies\x7d, Hum Sch" ∧
      interpolateAtOnce nested [("a", "b"), ("b", "c")] = "\x7bb\x7d" ∧
      interpolate nested [("a", "b"), ("b", "c")] = "c" := by
  decide

/-- Values without braces are shown as they are in a message whose braces are not nested. -/
theorem interpolate_of_flat {message : String} {values : List (String × String)}
    (hnodup : (values.map (·.1)).Nodup) (hkeys : ∀ entry ∈ values, NoBraces entry.1.toList)
    (hvalues : ∀ entry ∈ values, NoBraces entry.2.toList) (hflat : Flat message.toList) :
    interpolate message values = interpolateAtOnce message values := by
  refine interpolate_eq_atOnce_iff.2 (fillIn_of_flat (keyed_entriesOf hnodup hkeys) ?_ hflat)
  intro entry hentry
  obtain ⟨pair, hpair, rfl⟩ := List.mem_map.1 hentry
  exact hvalues pair hpair

/-- A description shows a name without braces as it is. -/
theorem Character.describe_of_noBraces (character : Character) {message : String}
    (hflat : Flat message.toList) (hname : NoBraces character.name.toList)
    (hspecies : NoBraces character.species.shortName.toList)
    (hbackground : NoBraces character.background.shortName.toList) :
    character.describe message =
      interpolateAtOnce message
        [("name", character.name), ("species", character.species.shortName),
          ("bg", character.background.shortName)] := by
  refine interpolate_of_flat (by simp) ?_ ?_ hflat
  · have hkeys : ∀ key ∈ ["name", "species", "bg"], NoBraces key.toList := by decide
    exact fun entry hentry => hkeys entry.1 (List.mem_map_of_mem (f := Prod.fst) hentry)
  · rw [List.forall_mem_cons, List.forall_mem_cons, List.forall_mem_singleton]
    exact ⟨hname, hspecies, hbackground⟩

end Muster
