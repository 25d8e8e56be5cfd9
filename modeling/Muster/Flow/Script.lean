import Muster.Flow.Network
import Muster.Catalog.Dictionary

/-!
# Scripted flows

Flows whose entry points are written as lists of steps. Each performer of a flow has a counter and
remembers the value of the last call; all performers share a log and a stock of entries, and a flow
that is entered when the stock is used up fails. So every run of scripted flows ends, and `Cast.call`
gives its outcome without a limit.
-/

namespace Muster.Flow

/-- Where a step takes a value from. -/
inductive Source where
  | given (value : Option Value)
  /-- The argument of the entry point. -/
  | argument
  | counter
  /-- The value of the last call. -/
  | lastValue
  deriving Repr

/-- A step of a scripted entry point. -/
inductive Step where
  | log (text : String)
  | logArg
  | logCounter
  | logLast
  | add (amount : Int)
  /-- Adds the argument if it is a number. -/
  | addArg
  /-- Adds the value of the last call if it is a number, else takes one away. -/
  | addLast
  /-- Calls a flow; its failures are passed on. -/
  | call (flow entry : String) (arg : Source)
  /-- Calls a flow; a failure is logged. -/
  | attempt (flow entry : String) (arg : Source)
  /-- Enters the flow again while the counter is below a bound. -/
  | againIfBelow (bound : Int)
  | change (flow entry : String) (arg : Source)
  | finish (value : Source)
  | fail (cause : Cause)
  deriving Repr

/-- An entry point of a scripted flow. -/
structure ScriptEntry where
  takesArg : Bool
  steps : List Step
  deriving Repr

/-- The scripted flows: for each name its entry points in order. -/
abbrev Cast := Dictionary (List (String × ScriptEntry))

/-- An instance of a scripted flow. -/
structure Performer where
  flow : String
  counter : Int := 0
  last : Option Value := none
  deriving Repr

/-- What all performers share. -/
structure Board where
  log : List String := []
  /-- How many more flows may be entered. -/
  entriesLeft : Nat
  deriving Repr

namespace Board

/-- Writes a line into the log. -/
def write (board : Board) (line : String) : Board := { board with log := board.log ++ [line] }

end Board

/-- How an optional value is logged. -/
def shownValue? : Option Value → String
  | none => "none"
  | some value => value.shown

/-- The value that a source stands for. -/
def Source.value? (source : Source) (performer : Performer) (arg : Option Value) : Option Value :=
  match source with
  | .given value => value
  | .argument => arg
  | .counter => some (.int performer.counter)
  | .lastValue => performer.last

/-- The line logged for a failure that is not passed on. -/
def caughtLine (failure : Failure) : String :=
  "caught " ++ failure.message ++ " in " ++ String.intercalate " < " failure.frames

/-- What the steps of an entry point do. A performer that has no more steps ends its flow. -/
def perform (arg : Option Value) (performer : Performer) (board : Board) :
    List Step → Routine Performer Board
  | [] => .done performer board (.ok (.finish none))
  | .log text :: steps => perform arg performer (board.write text) steps
  | .logArg :: steps => perform arg performer (board.write ("arg=" ++ shownValue? arg)) steps
  | .logCounter :: steps =>
    perform arg performer (board.write ("n=" ++ toString performer.counter)) steps
  | .logLast :: steps =>
    perform arg performer (board.write ("last=" ++ shownValue? performer.last)) steps
  | .add amount :: steps =>
    perform arg { performer with counter := performer.counter + amount } board steps
  | .addArg :: steps =>
    let amount := (arg.bind Value.int?).getD 0
    perform arg { performer with counter := performer.counter + amount } board steps
  | .addLast :: steps =>
    let amount := (performer.last.bind Value.int?).getD (-1)
    perform arg { performer with counter := performer.counter + amount } board steps
  | .call flow entry source :: steps =>
    .call { flow } entry (source.value? performer arg) board fun board outcome =>
      match outcome with
      | .ok value => perform arg { performer with last := value } board steps
      | .error failure => .done performer board (.error failure)
  | .attempt flow entry source :: steps =>
    .call { flow } entry (source.value? performer arg) board fun board outcome =>
      match outcome with
      | .ok value => perform arg { performer with last := value } board steps
      | .error failure => perform arg performer (board.write (caughtLine failure)) steps
  | .againIfBelow bound :: steps =>
    if performer.counter < bound then .done performer board (.ok .again)
    else perform arg performer board steps
  | .change flow entry source :: _ =>
    .done performer board (.ok (.change { flow } entry (source.value? performer arg)))
  | .finish source :: _ => .done performer board (.ok (.finish (source.value? performer arg)))
  | .fail cause :: _ => .done performer board (.error { cause })

namespace Cast

/-- The entry points of a flow of the cast. -/
def table (cast : Cast) (flow : String) : EntryTable (Performer → Board → Routine Performer Board) where
  flow := flow
  entries := ((cast.get? flow).getD []).map fun (name, entry) =>
    (name,
      if entry.takesArg then
        .unary fun value performer board => perform (some value) performer board entry.steps
      else .nullary fun performer board => perform none performer board entry.steps)

/-- Entering a performer's flow uses up one entry of the stock. -/
def enter (cast : Cast) (performer : Performer) (entry : String) (arg : Option Value)
    (board : Board) : Routine Performer Board :=
  match board.entriesLeft with
  | 0 => .done performer board (Muster.fail (.internal "out of fuel"))
  | left + 1 =>
    (cast.table performer.flow).enter performer entry arg { board with entriesLeft := left }

/-- The cast as a network of flows. -/
def network (cast : Cast) : Network Performer Board where
  name := Performer.flow
  enter := cast.enter

/-- The steps of all entry points of the cast. -/
def allSteps (cast : Cast) : List Step :=
  cast.entries.flatMap fun (_, entries) => entries.flatMap fun (_, entry) => entry.steps

/-! ## Every run ends -/

/-- Steps come to an end when the calls that they make do, and put no entries back. Each step makes
one call at most. -/
private theorem perform_ends {call : Performer → String → Option Value → Board → Option (Outcome Board)}
    (bound : Nat)
    (hcall : ∀ performer entry arg (board : Board), board.entriesLeft ≤ bound →
      ∃ left outcome, call performer entry arg board = some (left, outcome) ∧
        left.entriesLeft ≤ board.entriesLeft)
    (steps : List Step) (arg : Option Value) (performer : Performer) (board : Board)
    (hboard : board.entriesLeft ≤ bound) {limit : Nat} (hlimit : steps.length < limit) :
    ∃ p left result, (perform arg performer board steps).perform call limit = some (p, left, result) ∧
      left.entriesLeft ≤ board.entriesLeft := by
  have hpos : 0 < limit := by omega
  induction steps generalizing performer board limit with
  | nil => exact ⟨_, _, _, Routine.perform_done call hpos _ _ _, Nat.le_refl _⟩
  | cons step steps ih =>
    have hmore : steps.length < limit := Nat.lt_of_succ_lt hlimit
    cases step with
    | log _ => exact ih performer (board.write _) hboard hmore hpos
    | logArg => exact ih performer (board.write _) hboard hmore hpos
    | logCounter => exact ih performer (board.write _) hboard hmore hpos
    | logLast => exact ih performer (board.write _) hboard hmore hpos
    | add _ => exact ih _ _ hboard hmore hpos
    | addArg => exact ih _ _ hboard hmore hpos
    | addLast => exact ih _ _ hboard hmore hpos
    | againIfBelow bound =>
      unfold perform
      split
      · exact ⟨_, _, _, Routine.perform_done call hpos _ _ _, Nat.le_refl _⟩
      · exact ih _ _ hboard hmore hpos
    | change _ _ _ => exact ⟨_, _, _, Routine.perform_done call hpos _ _ _, Nat.le_refl _⟩
    | finish _ => exact ⟨_, _, _, Routine.perform_done call hpos _ _ _, Nat.le_refl _⟩
    | fail _ => exact ⟨_, _, _, Routine.perform_done call hpos _ _ _, Nat.le_refl _⟩
    | call flow entry source =>
      obtain ⟨limit, rfl⟩ := Nat.exists_eq_add_one.2 hpos
      have hrest : steps.length < limit := Nat.lt_of_succ_lt_succ hlimit
      obtain ⟨left, outcome, hsub, hleft⟩ :=
        hcall { flow } entry (source.value? performer arg) board hboard
      unfold perform
      rw [Routine.perform_call, hsub]
      cases outcome with
      | ok value =>
        obtain ⟨p, final, result, hrun, hfinal⟩ :=
          ih { performer with last := value } left (by omega) hrest (by omega)
        exact ⟨p, final, result, hrun, by omega⟩
      -- a failure ends the steps
      | error failure =>
        exact ⟨_, _, _, Routine.perform_done call (by omega) _ _ _, hleft⟩
    | attempt flow entry source =>
      obtain ⟨limit, rfl⟩ := Nat.exists_eq_add_one.2 hpos
      have hrest : steps.length < limit := Nat.lt_of_succ_lt_succ hlimit
      obtain ⟨left, outcome, hsub, hleft⟩ :=
        hcall { flow } entry (source.value? performer arg) board hboard
      unfold perform
      rw [Routine.perform_call, hsub]
      cases outcome with
      | ok value =>
        obtain ⟨p, final, result, hrun, hfinal⟩ :=
          ih { performer with last := value } left (by omega) hrest (by omega)
        exact ⟨p, final, result, hrun, by omega⟩
      -- a failure is logged, and the steps go on
      | error failure =>
        obtain ⟨p, final, result, hrun, hfinal⟩ :=
          ih performer (left.write (caughtLine failure)) (by simp [Board.write]; omega) hrest
            (by omega)
        exact ⟨p, final, result, hrun, by simp [Board.write] at hfinal; omega⟩

/-- No entry point has more steps than the cast. -/
private theorem length_le_allSteps {cast : Cast} {flow name : String} {entry : ScriptEntry}
    (h : (name, entry) ∈ (cast.get? flow).getD []) : entry.steps.length ≤ cast.allSteps.length := by
  cases hget : cast.get? flow with
  | none =>
    rw [hget] at h
    cases h
  | some entries =>
    rw [hget] at h
    obtain ⟨before, after, hcast, _⟩ := List.lookup_eq_some_iff.1 hget
    obtain ⟨earlier, later, rfl⟩ := List.append_of_mem h
    simp only [allSteps, hcast, List.flatMap_append, List.flatMap_cons, List.length_append]
    omega

/-- What an entry point of the cast does is to perform some steps. -/
private theorem invoke_eq_perform {cast : Cast} {flow entry : String} {arg : Option Value}
    {body : Performer → Board → Routine Performer Board}
    (h : (cast.table flow).invoke entry arg = .ok body) :
    ∃ steps, body = (fun performer board => perform arg performer board steps) ∧
      steps.length ≤ cast.allSteps.length := by
  rcases EntryTable.mem_of_invoke h with ⟨rfl, hmem⟩ | ⟨f, value, rfl, hmem, rfl⟩
  all_goals
    obtain ⟨⟨_, found⟩, hentry, hfound⟩ := List.mem_map.1 hmem
    simp only [Prod.mk.injEq] at hfound
    refine ⟨found.steps, ?_, length_le_allSteps hentry⟩
    split at hfound <;> simp_all
  rw [← hfound.2]

/-- A limit above the number of entries left and of all steps is high enough. -/
theorem call_ends (cast : Cast) (limit : Nat) (performer : Performer) (entry : String)
    (arg : Option Value) (board : Board) (h : board.entriesLeft + cast.allSteps.length < limit) :
    ∃ left outcome, cast.network.call limit performer entry arg board = some (left, outcome) ∧
      left.entriesLeft ≤ board.entriesLeft := by
  induction limit generalizing performer entry arg board with
  | zero => omega
  | succ limit ih =>
    -- Entering uses up an entry, so that the limit is high enough for all that follows.
    have henter : board.entriesLeft = 0 ∨
        ∃ p left result, (cast.network.enter performer entry arg board).perform
            (cast.network.call limit) (limit + 1) = some (p, left, result) ∧
          left.entriesLeft < board.entriesLeft := by
      match hleft : board.entriesLeft with
      | 0 => exact Or.inl rfl
      | left + 1 =>
        refine Or.inr ?_
        simp only [network, enter, EntryTable.enter, hleft]
        split
        · next body hinvoke =>
          obtain ⟨steps, rfl, hsteps⟩ := invoke_eq_perform hinvoke
          obtain ⟨p, final, result, hrun, hfinal⟩ :=
            perform_ends left (fun p e a b hb => ih p e a b (by omega)) steps arg
              performer { board with entriesLeft := left } (by simp)
              (show steps.length < limit + 1 by omega)
          exact ⟨p, final, result, hrun, by simp at hfinal; omega⟩
        · exact ⟨_, _, _, rfl, by simp⟩
    unfold Network.call
    rcases henter with hzero | ⟨p, left, result, hrun, hleft⟩
    · -- the stock is used up: the flow fails at once
      have hout : (cast.network.enter performer entry arg board).perform
          (cast.network.call limit) (limit + 1) =
            some (performer, board, Muster.fail (.internal "out of fuel")) := by
        simp only [network, enter, hzero]
        exact Routine.perform_done _ (Nat.succ_pos limit) _ _ _
      rw [hout]
      exact ⟨_, _, rfl, Nat.le_refl _⟩
    · -- whatever the signal asks for, fewer entries are left for it
      rw [hrun]
      rcases result with failure | signal
      · exact ⟨_, _, rfl, Nat.le_of_lt hleft⟩
      · cases signal with
        | again =>
          obtain ⟨final, outcome, hcall, hfinal⟩ := ih p entry arg left (by omega)
          exact ⟨final, outcome, hcall, by omega⟩
        | change next nextEntry nextArg =>
          obtain ⟨final, outcome, hcall, hfinal⟩ := ih next nextEntry nextArg left (by omega)
          exact ⟨final, outcome, hcall, by omega⟩
        | finish value => exact ⟨_, _, rfl, Nat.le_of_lt hleft⟩

/-- Runs a performer from an entry point until its flow ends. -/
def call (cast : Cast) (performer : Performer) (entry : String) (arg : Option Value)
    (board : Board) : Outcome Board :=
  (cast.network.call (board.entriesLeft + cast.allSteps.length + 1) performer entry arg board).get (by
    obtain ⟨_, _, h, _⟩ := cast.call_ends (board.entriesLeft + cast.allSteps.length + 1) performer entry
      arg board (Nat.lt_succ_self _)
    simp [h])

/-- Runs a performer that nobody called. -/
def run (cast : Cast) (performer : Performer) (entry : String) (board : Board) :
    Board × Except Failure Unit :=
  let (left, outcome) := cast.call performer entry none board
  (left, outcome >>= outermost performer.flow)

end Cast

end Muster.Flow
