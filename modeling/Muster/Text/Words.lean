import Muster.Unicode.WhiteSpace

/-!
# Words, lines and margins

A text is handled as the list of its characters. This file cuts it at white space (`words`), at
line ends (`lines`) and at its margins (`trimStart`, `trimEnd`, `trim`), and measures it in the
bytes of its UTF-8 form, the unit in which offsets into a template or a line are given.
-/

namespace Muster.Text

open Muster.Unicode

/-- The maximal runs of characters that are not white space, in order. -/
def words : List Char → List (List Char)
  | [] => []
  | c :: cs =>
    if isWhite c then words cs
    else
      match cs, words cs with
      -- the next word begins right here or after white space
      | d :: _, w :: ws => if isWhite d then [c] :: w :: ws else (c :: w) :: ws
      | _, ws => [c] :: ws

/-- Words joined by single blanks. -/
def unwords : List (List Char) → List Char
  | [] => []
  | [w] => w
  | w :: ws => w ++ ' ' :: unwords ws

/-- A text without its leading white space. -/
def trimStart (s : List Char) : List Char := s.dropWhile isWhite

/-- A text without its trailing white space. -/
def trimEnd (s : List Char) : List Char := (s.reverse.dropWhile isWhite).reverse

/-- A text without white space at either end. -/
def trim (s : List Char) : List Char := trimEnd (trimStart s)

/-- Whether a text holds nothing but white space. -/
def isBlank (s : List Char) : Bool := s.all isWhite

/-- The lines of a text. A line feed ends a line and takes a carriage return right before it along;
a text that ends with a line feed has no further, empty line. -/
def lines : List Char → List (List Char)
  | [] => []
  | '\n' :: cs => [] :: lines cs
  | '\r' :: '\n' :: cs => [] :: lines cs
  | c :: cs =>
    match lines cs with
    | [] => [[c]]
    | l :: ls => (c :: l) :: ls

/-- The length of a text in the bytes of its UTF-8 form. -/
def byteLength : List Char → Nat
  | [] => 0
  | c :: cs => c.utf8Size + byteLength cs

/-- What is left of a text after its first `n` bytes, if they end at a character. -/
def dropBytes? : List Char → Nat → Option (List Char)
  | s, 0 => some s
  | [], _ + 1 => none
  | c :: cs, n + 1 => if c.utf8Size ≤ n + 1 then dropBytes? cs (n + 1 - c.utf8Size) else none

@[simp] theorem byteLength_nil : byteLength [] = 0 := rfl

@[simp] theorem byteLength_cons (c : Char) (cs : List Char) :
    byteLength (c :: cs) = c.utf8Size + byteLength cs := rfl

@[simp] theorem byteLength_append (s t : List Char) :
    byteLength (s ++ t) = byteLength s + byteLength t := by
  induction s with
  | nil => simp
  | cons c cs ih => simp [ih]; omega

/-- Dropping the bytes of a leading part leaves the rest. -/
theorem dropBytes?_append (s t : List Char) : dropBytes? (s ++ t) (byteLength s) = some t := by
  induction s with
  | nil => simp [dropBytes?]
  | cons c cs ih =>
    -- every character has a byte at least, so the count is a successor and `dropBytes?` unfolds
    have hc : 0 < c.utf8Size := c.utf8Size_pos
    obtain ⟨n, hn⟩ : ∃ n, c.utf8Size + byteLength cs = n + 1 :=
      ⟨c.utf8Size + byteLength cs - 1, by omega⟩
    have hle : c.utf8Size ≤ n + 1 := by omega
    have hrest : n + 1 - c.utf8Size = byteLength cs := by omega
    simp [dropBytes?, hn, hle, hrest, ih]

end Muster.Text
