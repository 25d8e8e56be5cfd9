import Muster.Text.Words

/-!
# Messages with placeholders

A message of the game may hold placeholders such as `{name}`. Filling it in replaces them one key
after the other, each time in the whole text so far; a placeholder without a value stays.
-/

namespace Muster.Text

/-- Replaces each occurrence of `pattern`, found from left to right without overlap, by `value`.
The first `skip` characters belong to the occurrence found last and are dropped. -/
def replaceFrom (pattern value : List Char) (skip : Nat) : List Char → List Char
  | [] => []
  | c :: cs =>
    match skip with
    | skip + 1 => replaceFrom pattern value skip cs
    | 0 =>
      if pattern.isPrefixOf (c :: cs) then
        value ++ replaceFrom pattern value (pattern.length - 1) cs
      else c :: replaceFrom pattern value 0 cs

/-- Replaces each occurrence of a text that is not empty. -/
def replaceAll (pattern value s : List Char) : List Char := replaceFrom pattern value 0 s

/-- The placeholder for a key: the key in braces. -/
def placeholder (key : List Char) : List Char := '{' :: key ++ ['}']

/-- Fills in a message, key by key. -/
def fillIn (message : List Char) (values : List (List Char × List Char)) : List Char :=
  values.foldl (fun text (key, value) => replaceAll (placeholder key) value text) message

end Muster.Text

namespace Muster

/-- A message with the placeholders of the given keys replaced by their values, in order. -/
def interpolate (message : String) (values : List (String × String)) : String :=
  String.ofList (Text.fillIn message.toList (values.map fun (k, v) => (k.toList, v.toList)))

end Muster
