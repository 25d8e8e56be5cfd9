import Muster.Game.MainMenu
import Muster.Game.PartyCreation

/-!
# Stages in turn

A game starts up, shows the main menu, and from there goes to party creation and back until the
player quits. Each of these stages hands over to the next one, so that at any time only one of them
is being run; help and character creation are called by it. A stage is left for another one only
after a line has been read, except for the start, so that the lines bound the number of stages.
-/

namespace Muster.Game

open Muster.Flow Play

/-- The stages that take turns, with their commands. -/
inductive Stage where
  | startup
  | mainMenu (set : CommandSet MainMenu.Action)
  | partyCreation (set : CommandSet PartyCreation.Action)

namespace Stage

/-- What a stage is called in traces of failures. -/
def name : Stage → String
  | .startup => StageName.startup
  | .mainMenu _ => StageName.mainMenu
  | .partyCreation _ => StageName.partyCreation

/-- Hands over to the main menu. -/
def toMainMenu (entry : String) : Play (Signal Stage) := do
  let set ← ofExcept (MainMenu.commands (← data))
  return .change (.mainMenu set) entry none

/-- Hands over to party creation. -/
def toPartyCreation : Play (Signal Stage) := do
  let set ← ofExcept (PartyCreation.commands (← data))
  return .change (.partyCreation set) "from main menu" none

/-- Makes sure that the game can be played, and shows the main menu. -/
def startUp : Play (Signal Stage) := do
  ofExcept (← data).ensurePlayable
  toMainMenu "start"

/-- The entry points of the start. -/
def startupEntries : EntryTable (Play (Signal Stage)) where
  flow := StageName.startup
  entries := [("start", .nullary startUp)]

/-- Enters a stage, up to the signal for what comes next. -/
def enter (stage : Stage) (entry : String) (arg : Option Value) : Play (Signal Stage) := do
  setStage stage.name
  match stage with
  | .startup => enterAt startupEntries entry arg
  | .mainMenu set =>
    match ← enterAt (MainMenu.entries set) entry arg with
    | .quit => return .finish none
    | .newParty => toPartyCreation
  | .partyCreation set =>
    match ← enterAt (PartyCreation.entries set) entry arg with
    | .quit => return .finish none
    | .toMainMenu => toMainMenu "from party creation"

/-! ## Following the signals -/

/-- A bound on the number of stages that can follow. The start hands over without a question. -/
def turnsLeft (stage : Stage) (session : Session) : Nat :=
  match stage with
  | .startup => 2 * session.unread + 1
  | _ => 2 * session.unread

theorem turnsLeft_le (stage : Stage) (session : Session) :
    stage.turnsLeft session ≤ 2 * session.unread + 1 := by
  cases stage <;> simp [turnsLeft]

theorem le_turnsLeft (stage : Stage) (session : Session) :
    2 * session.unread ≤ stage.turnsLeft session := by
  cases stage <;> simp [turnsLeft]

theorem reads_enterAt {α : Type} {table : EntryTable (Play α)} {entry : String}
    {arg : Option Value} (h : ∀ body, table.invoke entry arg = .ok body → Reads body) :
    Reads (enterAt table entry arg) := by
  intro data session a next hrun
  unfold enterAt at hrun
  cases hbody : table.invoke entry arg with
  | ok body =>
    rw [hbody] at hrun
    exact h body hbody data session a next hrun
  | error failure =>
    rw [hbody] at hrun
    cases hrun

/-- The main menu is left after a line has been read. -/
theorem reads_mainMenu (set : CommandSet MainMenu.Action) (entry : String) (arg : Option Value) :
    Reads (enterAt (MainMenu.entries set) entry arg) := by
  have hattend : Reads (MainMenu.attend set) := reads_commandLoop _ _ _ _ _ _
  refine reads_enterAt fun body h => ?_
  rcases EntryTable.mem_of_invoke h with ⟨_, hmem⟩ | ⟨_, _, _, hmem, _⟩
  -- both entry points say something and then attend to the menu
  · simp only [MainMenu.entries, List.mem_cons, Prod.mk.injEq, EntryPoint.nullary.injEq,
      List.not_mem_nil, or_false] at hmem
    rcases hmem with ⟨_, rfl⟩ | ⟨_, rfl⟩ <;> exact Reads.of_bind _ fun _ => hattend
  · simp [MainMenu.entries] at hmem

/-- Party creation is left after a line has been read. -/
theorem reads_partyCreation (set : CommandSet PartyCreation.Action) (entry : String)
    (arg : Option Value) : Reads (enterAt (PartyCreation.entries set) entry arg) := by
  refine reads_enterAt fun body h => ?_
  rcases EntryTable.mem_of_invoke h with ⟨_, hmem⟩ | ⟨_, _, _, hmem, _⟩
  · simp only [PartyCreation.entries, List.mem_cons, Prod.mk.injEq, EntryPoint.nullary.injEq,
      List.not_mem_nil, or_false] at hmem
    obtain ⟨_, rfl⟩ := hmem
    -- the greeting, the name and the announcement come before the commands
    refine Reads.of_bind _ fun _ => Reads.of_bind _ fun _ => Reads.of_bind _ fun _ =>
      Reads.of_bind _ fun _ => reads_commandLoop _ _ _ _ _ _
  · simp [PartyCreation.entries] at hmem

/-- Every stage but the start is left after a line has been read. -/
theorem reads_enter (stage : Stage) (entry : String) (arg : Option Value)
    (h : stage ≠ .startup) : Reads (stage.enter entry arg) := by
  refine Reads.of_bind _ fun _ => ?_
  cases stage with
  | startup => exact absurd rfl h
  | mainMenu set => exact Reads.bind (reads_mainMenu set entry arg) _
  | partyCreation set => exact Reads.bind (reads_partyCreation set entry arg) _

/-- The start hands over to the main menu. -/
theorem startup_changes {entry : String} {arg : Option Value} {data : GameData}
    {session last : Session} {signal : Signal Stage}
    (h : (enter .startup entry arg).run data session = .ok signal last) :
    ∃ set, signal = .change (.mainMenu set) "start" none := by
  -- each step on the way may fail, and then there is no signal
  change (enterAt startupEntries entry arg).run data _ = _ at h
  unfold enterAt at h
  cases hbody : startupEntries.invoke entry arg with
  | error failure =>
    rw [hbody] at h
    cases h
  | ok body =>
    rw [hbody] at h
    rcases EntryTable.mem_of_invoke hbody with ⟨_, hmem⟩ | ⟨_, _, _, hmem, _⟩
    · simp only [startupEntries, List.mem_singleton, Prod.mk.injEq, EntryPoint.nullary.injEq] at hmem
      obtain ⟨_, rfl⟩ := hmem
      change (ofExcept data.ensurePlayable >>= fun _ => toMainMenu "start").run data _ = _ at h
      cases hplayable : data.ensurePlayable with
      | error failure =>
        rw [hplayable] at h
        cases h
      | ok _ =>
        rw [hplayable] at h
        change (ofExcept (MainMenu.commands data) >>= _).run data _ = _ at h
        cases hcommands : MainMenu.commands data with
        | error failure =>
          rw [hcommands] at h
          cases h
        | ok set =>
          rw [hcommands] at h
          cases h
          exact ⟨set, rfl⟩
    · simp [startupEntries] at hmem

/-- Fewer stages can follow the next one than this one. -/
theorem turnsLeft_change {stage next : Stage} {entry nextEntry : String}
    {arg nextArg : Option Value} {data : GameData} {session last : Session}
    (h : (stage.enter entry arg).run data session = .ok (.change next nextEntry nextArg) last) :
    next.turnsLeft last < stage.turnsLeft session := by
  by_cases hstage : stage = .startup
  · -- the start has one turn more than the main menu, with the same answers
    subst hstage
    have hle := (enter .startup entry arg).unread_le data session
    rw [h] at hle
    obtain ⟨set, hset⟩ := startup_changes h
    cases hset
    simp only [Outcome.session, turnsLeft] at hle ⊢
    omega
  · -- an answer that has been taken is worth two turns
    have hlt := reads_enter stage entry arg hstage data session _ last h
    have hnext := next.turnsLeft_le last
    have hbefore := stage.le_turnsLeft session
    omega

/-- Fewer stages can follow when a stage is entered again. -/
theorem turnsLeft_again {stage : Stage} {entry : String} {arg : Option Value} {data : GameData}
    {session last : Session} (h : (stage.enter entry arg).run data session = .ok .again last) :
    stage.turnsLeft last < stage.turnsLeft session := by
  by_cases hstage : stage = .startup
  · subst hstage
    obtain ⟨set, hset⟩ := startup_changes h
    cases hset
  · have hlt := reads_enter stage entry arg hstage data session _ last h
    have hagain := stage.turnsLeft_le last
    have hbefore := stage.le_turnsLeft session
    omega

/-- Runs a stage and those that follow it, given a bound on their number. -/
def callFrom (data : GameData) :
    (bound : Nat) → (stage : Stage) → String → Option Value → (session : Session) →
      stage.turnsLeft session < bound → Outcome (Option Value)
  | 0, _, _, _, _, h => absurd h (Nat.not_lt_zero _)
  | bound + 1, stage, entry, arg, session, h =>
    match hrun : (stage.enter entry arg).run data session with
    | .error failure last => .error (failure.inFrame (frame stage.name entry)) last
    | .ok (.finish value) last => .ok value last
    | .ok .again last =>
      callFrom data bound stage entry arg last (by have := turnsLeft_again hrun; omega)
    | .ok (.change next nextEntry nextArg) last =>
      callFrom data bound next nextEntry nextArg last (by have := turnsLeft_change hrun; omega)

theorem callFrom_unread_le (data : GameData) (bound : Nat) (stage : Stage) (entry : String)
    (arg : Option Value) (session : Session) (h : stage.turnsLeft session < bound) :
    (callFrom data bound stage entry arg session h).session.unread ≤ session.unread := by
  induction bound generalizing stage entry arg session with
  | zero => omega
  | succ bound ih =>
    have hle := (stage.enter entry arg).unread_le data session
    unfold callFrom
    split
    · next hrun => rw [hrun] at hle; exact hle
    · next hrun => rw [hrun] at hle; exact hle
    · next hrun => rw [hrun] at hle; exact Nat.le_trans (ih _ _ _ _ _) hle
    · next hrun => rw [hrun] at hle; exact Nat.le_trans (ih _ _ _ _ _) hle

/-- Runs a stage from an entry point, and those that follow it, until the game ends. A failure
carries a frame for the stage and the entry point that were being run. -/
def call (stage : Stage) (entry : String) (arg : Option Value) : Play (Option Value) where
  run data session := callFrom data _ stage entry arg session (Nat.lt_succ_self _)
  unread_le data session := callFrom_unread_le data _ stage entry arg session _

end Stage

/-- Plays the game. -/
def play : Play Unit := do
  let value ← Stage.startup.call "start" none
  ofExcept (outermost StageName.startup value)

/-- Compiles the commands of all stages. -/
def checkCommands (data : GameData) : Except Failure Unit := do
  let _ ← MainMenu.commands data
  let _ ← PartyCreation.commands data
  let _ ← CharacterCreation.commands data
  let _ ← HelpBrowser.commands data

end Muster.Game
