/-!
# Dictionaries

Values under text keys, listed in the order of the keys. Texts are ordered character by character,
by code point.
-/

namespace Muster

/-- Values under distinct keys, in ascending order of the keys. -/
structure Dictionary (α : Type) where
  entries : List (String × α) := []
  deriving Repr

namespace Dictionary

variable {α β : Type}

/-- The dictionary without entries. -/
def empty : Dictionary α := {}

instance : Inhabited (Dictionary α) := ⟨empty⟩

/-- Puts an entry in its place among entries in ascending order, or replaces the one there. -/
def place (key : String) (value : α) : List (String × α) → List (String × α)
  | [] => [(key, value)]
  | (k, v) :: rest =>
    if key = k then (key, value) :: rest
    else if key < k then (key, value) :: (k, v) :: rest
    else (k, v) :: place key value rest

/-- Enters a value under a key, in place of the one that was there. -/
def insert (dictionary : Dictionary α) (key : String) (value : α) : Dictionary α :=
  ⟨place key value dictionary.entries⟩

/-- The value under a key. -/
def get? (dictionary : Dictionary α) (key : String) : Option α := dictionary.entries.lookup key

/-- The keys in ascending order. -/
def keys (dictionary : Dictionary α) : List String := dictionary.entries.map (·.1)

/-- The dictionary of some entries; of two entries for one key the later one holds. -/
def ofList (entries : List (String × α)) : Dictionary α :=
  entries.foldl (fun dictionary (key, value) => dictionary.insert key value) empty

/-- Applies a function to every value. -/
def map (f : α → β) (dictionary : Dictionary α) : Dictionary β :=
  ⟨dictionary.entries.map fun (key, value) => (key, f value)⟩

/-- Looking up in a list whose first entry is known. -/
theorem lookup_cons_eq (wanted key : String) (value : α) (rest : List (String × α)) :
    ((key, value) :: rest).lookup wanted =
      if wanted = key then some value else rest.lookup wanted := by
  by_cases h : wanted = key
  · simp [h]
  · have hne : (wanted == key) = false := by simp [h]
    rw [List.lookup_cons, hne, if_neg h]

/-- Placing an entry changes what is found under its key and nothing else. -/
theorem lookup_place (wanted key : String) (value : α) (entries : List (String × α)) :
    (place key value entries).lookup wanted =
      if wanted = key then some value else entries.lookup wanted := by
  induction entries with
  | nil => simp [place, lookup_cons_eq]
  | cons entry rest ih =>
    obtain ⟨k, v⟩ := entry
    unfold place
    split
    · -- the entry is replaced
      next hk =>
      subst hk
      by_cases h : wanted = key <;> simp [lookup_cons_eq, h]
    · next hk =>
      split
      · -- the entry goes in front
        simp [lookup_cons_eq]
      · -- the entry goes further back, past a key that is another one
        by_cases h : wanted = key
        · subst h
          simp [lookup_cons_eq, hk, ih]
        · simp [lookup_cons_eq, h, ih]

/-- Looking up after an insertion finds the new value under its key and nothing else changed. -/
theorem get?_insert (dictionary : Dictionary α) (key wanted : String) (value : α) :
    (dictionary.insert key value).get? wanted =
      if wanted = key then some value else dictionary.get? wanted :=
  lookup_place wanted key value dictionary.entries

end Dictionary

end Muster
