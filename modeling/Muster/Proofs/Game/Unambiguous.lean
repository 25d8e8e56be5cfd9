import Muster.Proofs.Command.Overlap
import Muster.Proofs.Game.Stages
import Muster.Data.Builtin

/-!
# The commands of the game do not overlap

With the data that the game brings along, no line is ambiguous in any of its stages or as the answer
to a question. The first words of many templates are the same or begin alike, such as `bg` and
`bgs`, but every two commands come apart at some word or at the end of the line.
-/

namespace Muster.Game

variable {H : Type}

/-- The commands with which a question is answered by yes, no or abort. -/
def yesNoAbortCommands (data : GameData) : Except Failure (CommandSet Verdict) :=
  ({ stage := StageName.common } : CommandSet Verdict).registerAll (data.scope none) data.control
    StageName.common [("yes", .yes), ("no", .no), ("abort", .abort)]

/-- There are such commands, and no line is ambiguous among them. -/
def NeverAmbiguous (commands : Except Failure (CommandSet H)) : Prop :=
  ∃ set, commands = .ok set ∧
    ∀ (scope : Scope) (line : String) (names : List String),
      set.dispatch scope line ≠ .ambiguous names

theorem neverAmbiguous_of_separate {commands : Except Failure (CommandSet H)}
    (h : commands.toOption.any (fun set => decide set.Separate) = true) :
    NeverAmbiguous commands := by
  obtain ⟨set, hset, hseparate⟩ := exists_ok_of_any h
  exact ⟨set, hset, CommandSet.dispatch_ne_ambiguous (of_decide_eq_true hseparate)⟩

/-- No line is ambiguous in the game as it comes, whatever it is and whoever is in the party. -/
theorem builtin_neverAmbiguous :
    NeverAmbiguous (MainMenu.commands GameData.builtin) ∧
      NeverAmbiguous (PartyCreation.commands GameData.builtin) ∧
      NeverAmbiguous (CharacterCreation.commands GameData.builtin) ∧
      NeverAmbiguous (HelpBrowser.commands GameData.builtin) ∧
      NeverAmbiguous (yesNoCommands GameData.builtin) ∧
      NeverAmbiguous (yesNoAbortCommands GameData.builtin) := by
  refine ⟨?menu, ?party, ?character, ?help, ?yesNo, ?yesNoAbort⟩
  case menu => exact neverAmbiguous_of_separate (by decide +kernel)
  case party => exact neverAmbiguous_of_separate (by decide +kernel)
  case character => exact neverAmbiguous_of_separate (by decide +kernel)
  case help => exact neverAmbiguous_of_separate (by decide +kernel)
  case yesNo => exact neverAmbiguous_of_separate (by decide +kernel)
  case yesNoAbort => exact neverAmbiguous_of_separate (by decide +kernel)

end Muster.Game
