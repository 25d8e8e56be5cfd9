import Muster.Console
import Muster.Proofs.Text.Lines

/-!
# What has happened at the console

The log of a console tells what has been written and where a line was read. `writtenIn` joins what
is written in the course of some events, `stretches` gives it for the time before each reading of a
line and after the last one, and `promptsIn` gives the prompts at which lines were read.
-/

namespace Muster

/-- Whether a line is read. -/
def ConsoleEvent.isRead : ConsoleEvent → Bool
  | .wrote _ => false
  | .read _ _ _ => true

/-- The prompt at which a line is read. -/
def ConsoleEvent.prompt? : ConsoleEvent → Option String
  | .wrote _ => none
  | .read prompt _ _ => some prompt

namespace Console

/-- The console after some more has happened at it. -/
def record (console : Console) (events : List ConsoleEvent) : Console :=
  { console with log := console.log ++ events }

theorem record_nil (console : Console) : console.record [] = console := by
  unfold record
  rw [List.append_nil]

theorem record_record (console : Console) (events later : List ConsoleEvent) :
    (console.record events).record later = console.record (events ++ later) := by
  unfold record
  rw [List.append_assoc]

/-- What happens when lines are written. -/
def lineEvents (lines : List String) : List ConsoleEvent :=
  lines.flatMap fun line => (if line.isEmpty then [] else [.wrote line]) ++ [.wrote "\n"]

theorem lineEvents_append (lines more : List String) :
    lineEvents (lines ++ more) = lineEvents lines ++ lineEvents more := List.flatMap_append

theorem isRead_of_mem_lineEvents {lines : List String} {event : ConsoleEvent}
    (h : event ∈ lineEvents lines) : event.isRead = false := by
  obtain ⟨line, _, hevent⟩ := List.mem_flatMap.1 h
  rcases List.mem_append.1 hevent with htext | hend
  · split at htext
    · cases htext
    · rw [List.mem_singleton.1 htext]
      rfl
  · rw [List.mem_singleton.1 hend]
    rfl

/-! ## What is written -/

/-- What is written in the course of some events. -/
def writtenIn (events : List ConsoleEvent) : String := ({ log := events } : Console).written

theorem writtenIn_nil : writtenIn [] = "" := rfl

theorem writtenIn_append (events later : List ConsoleEvent) :
    writtenIn (events ++ later) = writtenIn events ++ writtenIn later := by
  simp only [writtenIn, written, List.filterMap_append, String.join_append]

theorem written_record (console : Console) (events : List ConsoleEvent) :
    (console.record events).written = console.written ++ writtenIn events :=
  writtenIn_append console.log events

theorem writtenIn_read (prompt : String) (reply : Reply) (left : Nat)
    (events : List ConsoleEvent) :
    writtenIn (.read prompt reply left :: events) = writtenIn events := rfl

theorem writtenIn_lineEvents (lines : List String) :
    writtenIn (lineEvents lines) = Text.unlines lines := by
  induction lines with
  | nil => rfl
  | cons line lines ih =>
    have hline : writtenIn (lineEvents [line]) = line ++ "\n" := by
      unfold lineEvents
      rw [List.flatMap_singleton]
      by_cases hempty : line = ""
      · rw [hempty]
        rfl
      · have hisEmpty : line.isEmpty = false := by simpa using hempty
        rw [hisEmpty]
        simp [writtenIn, written]
    rw [← List.singleton_append, lineEvents_append, writtenIn_append, hline, ih,
      List.singleton_append, Text.unlines_cons]

/-! ## Where lines are read -/

/-- What is written before each reading of a line, and after the last one. -/
def stretches (events : List ConsoleEvent) : List String :=
  (events.splitOnP ConsoleEvent.isRead).map writtenIn

/-- The prompts at which lines are read. -/
def promptsIn (events : List ConsoleEvent) : List String :=
  events.filterMap ConsoleEvent.prompt?

theorem stretches_lineEvents (lines : List String) :
    stretches (lineEvents lines) = [Text.unlines lines] := by
  unfold stretches
  rw [List.splitOnP_eq_singleton fun _ => isRead_of_mem_lineEvents, List.map_singleton,
    writtenIn_lineEvents]

/-- What is written first comes before the first reading of a line. -/
theorem stretches_lineEvents_read (lines : List String) (prompt : String) (reply : Reply)
    (left : Nat) (events : List ConsoleEvent) :
    stretches (lineEvents lines ++ .read prompt reply left :: events) =
      Text.unlines lines :: stretches events := by
  have hwrites : ∀ event ∈ lineEvents lines, event.isRead = false :=
    fun _ => isRead_of_mem_lineEvents
  have hsplit := List.splitOnP_append_cons_of_forall_mem hwrites (.read prompt reply left) rfl events
  unfold stretches
  rw [hsplit, List.map_cons, writtenIn_lineEvents]

theorem promptsIn_append (events later : List ConsoleEvent) :
    promptsIn (events ++ later) = promptsIn events ++ promptsIn later := List.filterMap_append

theorem promptsIn_lineEvents (lines : List String) : promptsIn (lineEvents lines) = [] := by
  refine List.filterMap_eq_nil_iff.2 fun event hevent => ?_
  have hread := isRead_of_mem_lineEvents hevent
  cases event with
  | wrote text => rfl
  | read prompt reply left => cases hread

end Console

end Muster
