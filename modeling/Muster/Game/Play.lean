import Muster.Console
import Muster.Data.GameData
import Muster.Roster.Addition

/-!
# Playing

What a part of the game does is a `Play`: given the game data, it changes the state of the session
and gives a value or fails, leaving a state either way. A `Play` carries the proof that it puts no
answers back, and `Play.converse`, which asks again and again, ends because each question takes an
answer.
-/

namespace Muster

/-- How things stood when the player was asked something. -/
structure Moment where
  /-- The stage that was being run, apart from those that it had called. -/
  stage : String
  party : Option Party
  /-- What had been added up so far. -/
  additions : List Addition := []
  deriving DecidableEq, Repr

/-- The state of a session. -/
structure Session where
  console : Console
  /-- The party of the game, once there is one. -/
  party : Option Party := none
  /-- The stage being run, apart from those that it has called. -/
  stage : String := ""
  /-- The moments of all questions so far. -/
  moments : List Moment := []
  /-- What has been added up so far. -/
  additions : List Addition := []
  deriving Repr

namespace Session

/-- How many answers are left. -/
def unread (session : Session) : Nat := session.console.unread

/-- A session with the given console at its beginning. The prompt between pages is taken from the
messages, if they have one. -/
def start (data : GameData) (console : Console) : Session :=
  match data.messages.get StageName.console "continue" with
  | .ok prompt => { console := { console with continuePrompt := prompt } }
  | .error _ => { console }

end Session

/-- What a run gives: a value or a failure, and the session as it is left. -/
abbrev Outcome (α : Type) := EStateM.Result Failure Session α

/-- The session as it is left. -/
def Outcome.session {α : Type} : Outcome α → Session
  | .ok _ session => session
  | .error _ session => session

/-- How the program is built. -/
inductive Build where
  | release
  | development
  deriving DecidableEq, Repr

/-- What a build of the program makes of a run. In a build for development the program stops at the
first sum that does not fit, and the run has no outcome. -/
def Outcome.inBuild {α : Type} (build : Build) (outcome : Outcome α) : Option (Outcome α) :=
  match build with
  | .release => some outcome
  | .development =>
    if ∀ addition ∈ outcome.session.additions, addition.Fits then some outcome else none

/-- What a part of the game does. -/
structure Play (α : Type) where
  run : GameData → Session → Outcome α
  unread_le : ∀ data session, (run data session).session.unread ≤ session.unread

namespace Play

variable {α β σ : Type}

/-- Gives a value and changes nothing. -/
protected def pure (a : α) : Play α where
  run _ session := .ok a session
  unread_le _ _ := Nat.le_refl _

/-- Goes on with the value of a first part, unless that fails. -/
protected def bind (x : Play α) (f : α → Play β) : Play β where
  run data session :=
    match x.run data session with
    | .ok a next => (f a).run data next
    | .error failure next => .error failure next
  unread_le data session := by
    have h := x.unread_le data session
    split
    · next a next hrun =>
      rw [hrun] at h
      exact Nat.le_trans ((f a).unread_le data next) h
    · next failure next hrun =>
      rw [hrun] at h
      exact h

instance : Monad Play where
  pure := Play.pure
  bind := Play.bind

@[ext] theorem ext {x y : Play α} (h : ∀ data session, x.run data session = y.run data session) :
    x = y := by
  cases x
  cases y
  simp only [Play.mk.injEq]
  exact funext fun data => funext fun session => h data session

@[simp] theorem run_pure (a : α) (data : GameData) (session : Session) :
    (pure a : Play α).run data session = .ok a session := rfl

theorem run_bind (x : Play α) (f : α → Play β) (data : GameData) (session : Session) :
    (x >>= f).run data session =
      match x.run data session with
      | .ok a next => (f a).run data next
      | .error failure next => .error failure next := rfl

private theorem id_map' {α : Type} (x : Play α) : id <$> x = x := by
  ext data session
  show (match x.run data session with
    | .ok a next => (pure (id a) : Play α).run data next
    | .error failure next => .error failure next) = _
  cases x.run data session <;> rfl

private theorem bind_assoc' {α β γ : Type} (x : Play α) (f : α → Play β) (g : β → Play γ) :
    x >>= f >>= g = x >>= fun a => f a >>= g := by
  ext data session
  simp only [run_bind]
  cases x.run data session <;> rfl

instance : LawfulMonad Play := LawfulMonad.mk' Play id_map' (fun _ _ => rfl) bind_assoc'

/-- Fails. -/
def throw (failure : Failure) : Play α where
  run _ session := .error failure session
  unread_le _ _ := Nat.le_refl _

/-- Gives the value of a computation that may fail. -/
def ofExcept : Except Failure α → Play α
  | .ok a => pure a
  | .error failure => throw failure

/-- The game data. -/
def data : Play GameData where
  run data session := .ok data session
  unread_le _ _ := Nat.le_refl _

/-- The party of the game. -/
def party : Play (Option Party) where
  run _ session := .ok session.party session
  unread_le _ _ := Nat.le_refl _

/-- Replaces the party of the game. -/
def setParty (party : Option Party) : Play Unit where
  run _ session := .ok () { session with party }
  unread_le _ _ := Nat.le_refl _

/-- Does something at the console. -/
def atConsole (action : Console.Action α) (spares : Console.Spares action) : Play α where
  run _ session :=
    match action session.console with
    | .ok a console => .ok a { session with console }
    | .error failure console => .error failure { session with console }
  unread_le _ session := by
    have h := spares session.console
    unfold Console.after at h
    split <;> simp_all [Outcome.session, Session.unread]

/-- Records which stage is being run. -/
def setStage (stage : String) : Play Unit where
  run _ session := .ok () { session with stage }
  unread_le _ _ := Nat.le_refl _

/-- Records how things stand. -/
def witness : Play Unit where
  run _ session :=
    .ok () { session with
      moments := session.moments ++
        [{ stage := session.stage, party := session.party, additions := session.additions }] }
  unread_le _ _ := Nat.le_refl _

/-- Records what is added up. -/
def tally (additions : List Addition) : Play Unit where
  run _ session := .ok () { session with additions := session.additions ++ additions }
  unread_le _ _ := Nat.le_refl _

/-- Adds a frame to the trace of a failure. -/
def inFrame (frame : String) (x : Play α) : Play α where
  run data session :=
    match x.run data session with
    | .ok a next => .ok a next
    | .error failure next => .error (failure.inFrame frame) next
  unread_le data session := by
    have h := x.unread_le data session
    split <;> simp_all [Outcome.session]

/-! ## Talking to the player -/

/-- Queues a text. -/
def say (text : String) : Play Unit :=
  atConsole (modify (·.say text)) fun _ => Nat.le_refl _

/-- Writes what is queued. -/
def flush : Play Unit := atConsole Console.flush Console.spares_flush

/-- Asks the player for a line. -/
def ask (prompt : String) : Play String := do
  witness
  atConsole (Console.ask prompt) (Console.spares_ask prompt)

/-- A message of a stage. -/
def text (stage key : String) : Play String := do
  ofExcept ((← data).messages.get stage key)

/-- Says a message. -/
def sayMessage (stage key : String) : Play Unit := do
  say (← text stage key)

/-- Says a message with its placeholders filled in. -/
def sayFormat (stage key : String) (values : List (String × String)) : Play Unit := do
  say (← ofExcept ((← data).messages.format stage key values))

/-- Says an item of a list, after the mark that items have. -/
def sayItem (item : String) : Play Unit := do
  let leader ← text StageName.common "list leader"
  say (leader ++ item)

/-- Asks the player with a message as the prompt. -/
def askMessage (stage key : String) : Play String := do
  ask (← text stage key)

/-! ## Conversations -/

/-- When the play succeeds, it has taken an answer. -/
def Reads (x : Play α) : Prop :=
  ∀ data session a next, x.run data session = .ok a next → next.unread < session.unread

theorem Reads.bind {x : Play α} (hx : Reads x) (f : α → Play β) : Reads (x >>= f) := by
  intro data session b last h
  rw [run_bind] at h
  split at h
  · next a next hrun =>
    have hle := (f a).unread_le data next
    rw [h] at hle
    exact Nat.lt_of_le_of_lt hle (hx data session a next hrun)
  · cases h

theorem Reads.of_bind (x : Play α) {f : α → Play β} (hf : ∀ a, Reads (f a)) :
    Reads (x >>= f) := by
  intro data session b last h
  rw [run_bind] at h
  have hle := x.unread_le data session
  split at h
  · next a next hrun =>
    rw [hrun] at hle
    exact Nat.lt_of_lt_of_le (hf a data next b last h) hle
  · cases h

/-- Every question that is answered takes an answer. -/
theorem reads_ask (prompt : String) : Reads (ask prompt) := by
  refine Reads.of_bind _ fun _ => ?_
  intro data session line next h
  simp only [atConsole] at h
  split at h
  · next a console hrun =>
    have hlt := Console.consumes_ask prompt session.console a console hrun
    cases h
    exact hlt
  · cases h

/-- Whether a conversation goes on, in some state, or is left with a value. -/
inductive Turn (σ α : Type) where
  | again (state : σ)
  | leave (value : α)

/-- Asks and responds until the response leaves the conversation. Each question takes an answer, so
that a bound on the answers left bounds the number of questions. -/
def converseFrom (question : Play String) (hquestion : Reads question)
    (respond : σ → String → Play (Turn σ α)) (data : GameData) :
    (bound : Nat) → σ → (session : Session) → session.unread < bound → Outcome α
  | 0, _, _, h => absurd h (Nat.not_lt_zero _)
  | bound + 1, state, session, h =>
    match hline : question.run data session with
    | .error failure next => .error failure next
    | .ok line next =>
      -- the question has taken an answer and the response puts none back
      match hturn : (respond state line).run data next with
      | .error failure last => .error failure last
      | .ok (.leave value) last => .ok value last
      | .ok (.again following) last =>
        converseFrom question hquestion respond data bound following last (by
          have hread := hquestion data session line next hline
          have hle := (respond state line).unread_le data next
          rw [hturn] at hle
          simp only [Outcome.session] at hle
          omega)

theorem converseFrom_unread_le (question : Play String) (hquestion : Reads question)
    (respond : σ → String → Play (Turn σ α)) (data : GameData) (bound : Nat) (state : σ)
    (session : Session) (h : session.unread < bound) :
    (converseFrom question hquestion respond data bound state session h).session.unread ≤
        session.unread ∧
      ∀ a next, converseFrom question hquestion respond data bound state session h = .ok a next →
        next.unread < session.unread := by
  induction bound generalizing state session with
  | zero => omega
  | succ bound ih =>
    have hle := question.unread_le data session
    unfold converseFrom
    split
    · next failure next hline =>
      rw [hline] at hle
      exact ⟨hle, by simp⟩
    · next line next hline =>
      have hread := hquestion data session line next hline
      have hrespond := (respond state line).unread_le data next
      split
      · next failure last hturn =>
        rw [hturn] at hrespond
        simp only [Outcome.session] at hrespond ⊢
        exact ⟨by omega, by simp⟩
      · next value last hturn =>
        rw [hturn] at hrespond
        simp only [Outcome.session] at hrespond ⊢
        refine ⟨by omega, fun a final hfinal => ?_⟩
        cases hfinal
        omega
      · -- the rest of the conversation starts with fewer answers
        next again last hturn =>
        rw [hturn] at hrespond
        simp only [Outcome.session] at hrespond
        obtain ⟨hall, hok⟩ := ih again last (by omega)
        refine ⟨by omega, fun a final hfinal => ?_⟩
        have := hok a final hfinal
        omega

/-- Asks and responds until the response leaves the conversation. -/
def converse (question : Play String) (hquestion : Reads question)
    (respond : σ → String → Play (Turn σ α)) (state : σ) : Play α where
  run data session :=
    converseFrom question hquestion respond data (session.unread + 1) state session
      (Nat.lt_succ_self _)
  unread_le data session :=
    (converseFrom_unread_le question hquestion respond data _ state session _).1

/-- A conversation that is left has taken an answer. -/
theorem reads_converse (question : Play String) (hquestion : Reads question)
    (respond : σ → String → Play (Turn σ α)) (state : σ) :
    Reads (converse question hquestion respond state) := fun data session a next h =>
  (converseFrom_unread_le question hquestion respond data _ state session _).2 a next h

/-- Asking with a message as the prompt takes an answer. -/
theorem reads_askMessage (stage key : String) : Reads (askMessage stage key) :=
  Reads.of_bind _ fun prompt => reads_ask prompt

end Play

end Muster
