import Muster.Failure
import Muster.Text.Words

/-!
# The console

What the game says is queued and written when the player is asked something. Long output stops
after every page until the player has answered a prompt. The player's answers are given in advance;
everything written and every answer taken is logged in order.

An action on the console may fail, and leaves the console in some state either way. No action puts
answers back: `Spares` says so of an action, and `Consumes` says that an action which succeeds has
taken an answer.
-/

namespace Muster

/-- What the player does when a line is to be read. -/
inductive Answer where
  | line (text : String)
  /-- The line is given up. -/
  | interrupted
  /-- The line cannot be read. -/
  | failed (detail : String)
  /-- There is no line for now, though there may be one later. -/
  | ended
  deriving DecidableEq, Repr

/-- What came of reading a line. -/
inductive Reply where
  | line (text : String)
  | interrupted
  /-- There are no more answers. -/
  | ended
  | failed
  deriving DecidableEq, Repr

/-- Something that happened at the console. -/
inductive ConsoleEvent where
  | wrote (text : String)
  /-- A line was read at a prompt, and so many lines can still be read. -/
  | read (prompt : String) (reply : Reply) (linesLeft : Nat)
  deriving DecidableEq, Repr

/-- How many lines are written before the output stops, by default. -/
def defaultPageLines : Nat := 20

theorem defaultPageLines_pos : 0 < defaultPageLines := by decide

/-- The state of the console. -/
structure Console where
  /-- What the player will do, in order. -/
  answers : List Answer := []
  /-- The lines that wait to be written. -/
  pending : List String := []
  /-- How many lines are written before the output stops; it never stops if nothing is given. -/
  pageLines : Option { n : Nat // 0 < n } := some ⟨defaultPageLines, defaultPageLines_pos⟩
  /-- What is shown when the output stops. -/
  continuePrompt : String := "-- more --"
  /-- Whether prompts and the lines read at them are written, too. -/
  echo : Bool := false
  /-- The lines that can be called up again. -/
  history : List String := []
  /-- How many line ends the output still takes, if there is a limit. -/
  capacity : Option Nat := none
  log : List ConsoleEvent := []
  deriving Repr

namespace Console

/-- The page length for a number of lines; there are no pages of zero lines. -/
def pageLinesOf (lines : Option Nat) : Option { n : Nat // 0 < n } :=
  match lines with
  | some (n + 1) => some ⟨n + 1, Nat.succ_pos n⟩
  | _ => none

/-- How many answers are left. -/
def unread (console : Console) : Nat := console.answers.length

/-- How many of some answers are lines. -/
def countLines (answers : List Answer) : Nat :=
  answers.countP fun answer => match answer with
    | .line _ => true
    | _ => false

/-- Queues a text. It is cut into lines, and each line is trimmed. -/
def say (console : Console) (text : String) : Console :=
  -- line ends at the end of the text make no empty lines
  let lines := (Text.lines (Text.trimEnd text.toList)).map fun line => String.ofList (Text.trim line)
  { console with pending := console.pending ++ lines }

/-- Queues several texts. -/
def sayAll (console : Console) (texts : List String) : Console := texts.foldl say console

/-- Something done at the console. -/
abbrev Action := EStateM Failure Console

/-- The console after an action, whether it succeeded or not. -/
def after {α : Type} : EStateM.Result Failure Console α → Console
  | .ok _ console => console
  | .error _ console => console

/-- Writes a text, unless the output takes no more. -/
def write (text : String) : Action Unit := fun console =>
  if text.isEmpty then .ok () console
  else if console.capacity = some 0 then .error { cause := .io "disk full" } console
  else
    .ok () { console with
      capacity := console.capacity.map (· - text.toList.count '\n')
      log := console.log ++ [.wrote text] }

/-- Writes a line. -/
def writeLine (line : String) : Action Unit := do
  write line
  write "\n"

/-- Takes the next answer. An interruption counts as an empty line. -/
def takeAnswer (prompt : String) : Action String := fun console =>
  let logged (reply : Reply) (left : List Answer) : Console :=
    { console with answers := left, log := console.log ++ [.read prompt reply (countLines left)] }
  match console.answers with
  | [] => .error { cause := .inputClosed } (logged .ended [])
  | .failed detail :: left => .error { cause := .internal detail } (logged .failed left)
  | .interrupted :: left => .ok "" (logged .interrupted left)
  | .line text :: left => .ok text (logged (.line text) left)
  | .ended :: left => .error { cause := .inputClosed } (logged .ended left)

/-- Writes what was read at a prompt, if the console does so. -/
def echoLine (prompt line : String) : Action Unit := do
  if (← get).echo then
    write prompt
    write line
    write "\n"

/-- Reads a line at a prompt. -/
def read (prompt : String) : Action String := do
  let line ← takeAnswer prompt
  echoLine prompt line
  return line

/-- Whether so many lines fill their pages. -/
def fillsPage (console : Console) (written : Nat) : Bool :=
  match console.pageLines with
  | some lines => written % lines.val = 0
  | none => false

/-- Stops after a page, if more lines follow. -/
def pageBreak (written total : Nat) : Action Unit := do
  let console ← get
  if console.fillsPage written && written < total then
    let _ ← read console.continuePrompt

/-- Writes lines, some of all those to be written having been written before. -/
def writeLines (written total : Nat) : List String → Action Unit
  | [] => pure ()
  | line :: more => do
    writeLine line
    pageBreak (written + 1) total
    writeLines (written + 1) total more

/-- Takes the queued lines off the queue. -/
def takePending : Action (List String) :=
  modifyGet fun console => (console.pending, { console with pending := [] })

/-- Writes the queued lines. -/
def flush : Action Unit := do
  let lines ← takePending
  writeLines 0 lines.length lines

/-- Remembers a line that is not blank. -/
def remember (line : String) : Action Unit :=
  modify fun console =>
    if Text.isBlank line.toList then console else { console with history := console.history ++ [line] }

/-- A prompt as it is shown: without trailing white space but with a blank after it. -/
def promptText (prompt : String) : String := String.ofList (Text.trimEnd prompt.toList ++ [' '])

/-- Writes the queued lines and reads a line at a prompt. -/
def ask (prompt : String) : Action String := do
  flush
  let line ← read (promptText prompt)
  remember line
  return line

/-- Everything that has been written. -/
def written (console : Console) : String :=
  String.join <| console.log.filterMap fun event => match event with
    | .wrote text => some text
    | .read _ _ _ => none

/-- The prompt at which a line was read last. -/
def lastPrompt? (console : Console) : Option String :=
  console.log.reverse.findSome? fun event => match event with
    | .wrote _ => none
    | .read prompt _ _ => some prompt

/-! ## Answers are not put back -/

/-- The action leaves no more answers than there were. -/
def Spares {α : Type} (action : Action α) : Prop :=
  ∀ console, (after (action console)).unread ≤ console.unread

/-- When the action succeeds, it has taken an answer. -/
def Consumes {α : Type} (action : Action α) : Prop :=
  ∀ console a left, action console = .ok a left → left.unread < console.unread

theorem spares_pure {α : Type} (a : α) : Spares (pure a) := fun _ => Nat.le_refl _

theorem Spares.bind {α β : Type} {x : Action α} {f : α → Action β} (hx : Spares x)
    (hf : ∀ a, Spares (f a)) : Spares (x >>= f) := by
  intro console
  have h := hx console
  -- the second action runs only when the first one succeeds
  show (after (EStateM.bind x f console)).unread ≤ _
  unfold EStateM.bind
  cases hrun : x console with
  | ok a next =>
    rw [hrun] at h
    exact Nat.le_trans (hf a next) h
  | error failure next =>
    rw [hrun] at h
    exact h

theorem Consumes.bind {α β : Type} {x : Action α} {f : α → Action β} (hx : Consumes x)
    (hf : ∀ a, Spares (f a)) : Consumes (x >>= f) := by
  intro console b left h
  change EStateM.bind x f console = _ at h
  unfold EStateM.bind at h
  cases hrun : x console with
  | ok a next =>
    rw [hrun] at h
    -- the first action has taken an answer and the second one puts none back
    have hnext := hf a next
    rw [show f a next = .ok b left from h] at hnext
    exact Nat.lt_of_le_of_lt hnext (hx console a next hrun)
  | error failure next =>
    rw [hrun] at h
    cases h

theorem Spares.bind_consumes {α β : Type} {x : Action α} {f : α → Action β} (hx : Spares x)
    (hf : ∀ a, Consumes (f a)) : Consumes (x >>= f) := by
  intro console b left h
  change EStateM.bind x f console = _ at h
  unfold EStateM.bind at h
  have hle := hx console
  cases hrun : x console with
  | ok a next =>
    rw [hrun] at h hle
    exact Nat.lt_of_lt_of_le (hf a next b left h) hle
  | error failure next =>
    rw [hrun] at h
    cases h

theorem spares_write (text : String) : Spares (write text) := by
  intro console
  unfold write
  split
  · exact Nat.le_refl _
  · split <;> exact Nat.le_refl _

theorem spares_takeAnswer (prompt : String) : Spares (takeAnswer prompt) := by
  intro console
  unfold takeAnswer
  split <;> next hanswers => simp [after, unread, hanswers]

theorem consumes_takeAnswer (prompt : String) : Consumes (takeAnswer prompt) := by
  intro console line left h
  unfold takeAnswer at h
  split at h
  -- where the answers end and at a failed one the action does not succeed
  · cases h
  · cases h
  · next hanswers =>
    cases h
    simp [unread, hanswers]
  · next hanswers =>
    cases h
    simp [unread, hanswers]
  · cases h

theorem spares_echoLine (prompt line : String) : Spares (echoLine prompt line) := by
  refine Spares.bind (fun _ => Nat.le_refl _) fun console => ?_
  split
  · exact (spares_write _).bind fun _ => (spares_write _).bind fun _ => spares_write _
  · exact spares_pure _

theorem spares_read (prompt : String) : Spares (read prompt) :=
  (spares_takeAnswer prompt).bind fun line =>
    (spares_echoLine prompt line).bind fun _ => spares_pure line

theorem consumes_read (prompt : String) : Consumes (read prompt) :=
  (consumes_takeAnswer prompt).bind fun line =>
    (spares_echoLine prompt line).bind fun _ => spares_pure line

theorem spares_pageBreak (written total : Nat) : Spares (pageBreak written total) := by
  refine Spares.bind (fun _ => Nat.le_refl _) fun console => ?_
  split
  · exact (spares_read _).bind fun _ => spares_pure _
  · exact spares_pure _

theorem spares_writeLines (written total : Nat) (lines : List String) :
    Spares (writeLines written total lines) := by
  induction lines generalizing written with
  | nil => exact spares_pure _
  | cons line more ih =>
    exact ((spares_write _).bind fun _ => spares_write _).bind fun _ =>
      (spares_pageBreak _ _).bind fun _ => ih _

theorem spares_flush : Spares flush :=
  Spares.bind (fun _ => Nat.le_refl _) fun lines => spares_writeLines 0 lines.length lines

theorem spares_remember (line : String) : Spares (remember line) := by
  intro console
  show unread (if Text.isBlank line.toList then console else _) ≤ _
  split <;> exact Nat.le_refl _

theorem spares_ask (prompt : String) : Spares (ask prompt) :=
  spares_flush.bind fun _ => (spares_read _).bind fun line =>
    (spares_remember line).bind fun _ => spares_pure line

/-- Every question that is answered takes an answer. -/
theorem consumes_ask (prompt : String) : Consumes (ask prompt) :=
  spares_flush.bind_consumes fun _ => (consumes_read _).bind fun line =>
    (spares_remember line).bind fun _ => spares_pure line

end Console

end Muster
