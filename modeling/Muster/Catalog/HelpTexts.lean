import Muster.Catalog.Dictionary
import Muster.Text.Normal

/-!
# The help catalog

An index text, and a text for each topic. Topics are looked up in normal form, in ascending order
of their names.
-/

namespace Muster

/-- The help texts of the game. -/
structure HelpTexts where
  index : String := ""
  topics : Dictionary String := {}
  deriving Repr

namespace HelpTexts

/-- The text of the first topic whose name has the same normal form. -/
def topic? (help : HelpTexts) (wanted : String) : Option String :=
  (help.topics.entries.find? fun (name, _) => normalize name == normalize wanted).map (·.2)

/-- The names of the topics in ascending order. -/
def topicNames (help : HelpTexts) : List String := help.topics.keys

end HelpTexts

end Muster
