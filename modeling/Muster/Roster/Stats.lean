/-!
# Statistics

The six statistics of a character and tables of their values. A table that mentions only some of
them holds zero for the others. The values are numbers of 32 bits with a sign, and so is their sum: one
that is out of range wraps around.
-/

namespace Muster

/-- A statistic of a character: strength, dexterity, intelligence, spirit, charisma or luck. -/
inductive Stat where
  | str | dex | int | spi | cha | luc
  deriving DecidableEq, Repr

namespace Stat

/-- All statistics in the order in which they are shown. -/
def all : List Stat := [.str, .dex, .int, .spi, .cha, .luc]

/-- The label of a statistic. -/
def label : Stat → String
  | .str => "str"
  | .dex => "dex"
  | .int => "int"
  | .spi => "spi"
  | .cha => "cha"
  | .luc => "luc"

/-- The statistic with a given label. -/
def ofLabel? (label : String) : Option Stat := all.find? (·.label == label)

/-- Every statistic is listed. -/
theorem mem_all (s : Stat) : s ∈ all := by cases s <;> decide

/-- A label names its own statistic. -/
theorem ofLabel?_label (s : Stat) : ofLabel? s.label = some s := by cases s <;> decide

end Stat

/-- A value for each statistic. -/
structure Stats where
  str : Int := 0
  dex : Int := 0
  int : Int := 0
  spi : Int := 0
  cha : Int := 0
  luc : Int := 0
  deriving DecidableEq, Repr, Inhabited

namespace Stats

/-- The value of one statistic. -/
def get (stats : Stats) : Stat → Int
  | .str => stats.str
  | .dex => stats.dex
  | .int => stats.int
  | .spi => stats.spi
  | .cha => stats.cha
  | .luc => stats.luc

/-- A table with the value of one statistic replaced. -/
def set (stats : Stats) (stat : Stat) (value : Int) : Stats :=
  match stat with
  | .str => { stats with str := value }
  | .dex => { stats with dex := value }
  | .int => { stats with int := value }
  | .spi => { stats with spi := value }
  | .cha => { stats with cha := value }
  | .luc => { stats with luc := value }

/-- The table of a list of entries; of two entries for one statistic the later one holds. -/
def ofEntries (entries : List (Stat × Int)) : Stats :=
  entries.foldl (fun stats (stat, value) => stats.set stat value) {}

/-- The number of 32 bits that a sum comes to. -/
def wrap (sum : Int) : Int := (Int32.ofInt sum).toInt

/-- The sum of a table and a table of modifiers. -/
def apply (base modifiers : Stats) : Stats where
  str := wrap (base.str + modifiers.str)
  dex := wrap (base.dex + modifiers.dex)
  int := wrap (base.int + modifiers.int)
  spi := wrap (base.spi + modifiers.spi)
  cha := wrap (base.cha + modifiers.cha)
  luc := wrap (base.luc + modifiers.luc)

/-- Labels and values in order, on one line. -/
def describe (stats : Stats) : String :=
  String.intercalate " " (Stat.all.map fun stat => stat.label ++ " " ++ toString (stats.get stat))

/-- Setting one statistic leaves the others alone. -/
theorem get_set (stats : Stats) (s t : Stat) (value : Int) :
    (stats.set s value).get t = if t = s then value else stats.get t := by
  cases s <;> cases t <;> simp [set, get]

/-- Modifiers are added statistic by statistic. -/
theorem get_apply (base modifiers : Stats) (s : Stat) :
    (base.apply modifiers).get s = wrap (base.get s + modifiers.get s) := by
  cases s <;> rfl

/-! ## Sums in range -/

/-- The sum is in the range of 32 bits with a sign. -/
def InRange (sum : Int) : Prop := -2147483648 ≤ sum ∧ sum ≤ 2147483647

instance (sum : Int) : Decidable (InRange sum) :=
  inferInstanceAs (Decidable (-2147483648 ≤ sum ∧ sum ≤ 2147483647))

/-- A sum in range comes to itself. -/
theorem wrap_of_inRange {sum : Int} (h : InRange sum) : wrap sum = sum :=
  Int32.toInt_ofInt_of_le h.1 (Int.lt_add_one_of_le h.2)

/-- Each sum of a table and a table of modifiers is in range. -/
def Fits (base modifiers : Stats) : Prop := ∀ s, InRange (base.get s + modifiers.get s)

instance (base modifiers : Stats) : Decidable (Fits base modifiers) :=
  decidable_of_iff (∀ s ∈ Stat.all, InRange (base.get s + modifiers.get s))
    ⟨fun h s => h s s.mem_all, fun h s _ => h s⟩

/-- Where the sums are in range, nothing is lost. -/
theorem get_apply_of_fits {base modifiers : Stats} (h : Fits base modifiers) (s : Stat) :
    (base.apply modifiers).get s = base.get s + modifiers.get s := by
  rw [get_apply, wrap_of_inRange (h s)]

end Stats

end Muster
