import Muster.Proofs.Console.Pages

/-!
# Requests to the console

A console serves one request after the other, and goes on when one of them fails. `serve` gives all
that has been served, each with the console before and after it. What a request does is said once:
texts are queued (`serve_of_not_writes`), and the queue is written (`serve_of_writes`), by `flush` as
by `ask`. Where the queue could be written, `serve_flush_of_run` and `serve_ask_of_run` say how the
console is left.
-/

namespace Muster.Console

/-- The lines that a text is cut into when it is queued. -/
def linesOf (text : String) : List String :=
  (Text.lines (Text.trimEnd text.toList)).map fun line => String.ofList (Text.trim line)

theorem sayAll_eq (console : Console) (texts : List String) :
    console.sayAll texts =
      { console with pending := console.pending ++ texts.flatMap linesOf } := by
  induction texts generalizing console with
  | nil =>
    rw [List.flatMap_nil, List.append_nil]
    rfl
  | cons text texts ih =>
    rw [List.flatMap_cons, ← List.append_assoc]
    exact ih (console.say text)

/-- What is queued is one line each. -/
theorem isLine_of_mem_linesOf {text line : String} (h : line ∈ linesOf text) :
    Text.IsLine line.toList := by
  obtain ⟨cut, hcut, rfl⟩ := List.mem_map.1 h
  rw [String.toList_ofList]
  exact Text.isLine_trim (Text.not_mem_of_mem_lines hcut)

/-- What a console is asked to do. -/
inductive Request where
  | say (text : String)
  | sayAll (texts : List String)
  | flush
  | ask (prompt : String)
  deriving Repr

namespace Request

/-- Does what is asked for. A question gives the line that has been read. -/
def action : Request → Action (Option String)
  | .say text => do
    modify (·.say text)
    return none
  | .sayAll texts => do
    modify (·.sayAll texts)
    return none
  | .flush => do
    Console.flush
    return none
  | .ask prompt => do
    return some (← Console.ask prompt)

/-- The lines that are queued. -/
def lines : Request → List String
  | .say text => linesOf text
  | .sayAll texts => texts.flatMap linesOf
  | .flush => []
  | .ask _ => []

/-- Whether the queue is written. -/
def writes : Request → Bool
  | .say _ => false
  | .sayAll _ => false
  | .flush => true
  | .ask _ => true

/-- The prompt of the question, if there is one. -/
def question : Request → List String
  | .ask prompt => [promptText prompt]
  | _ => []

/-- What writes the queue adds nothing to it. -/
theorem lines_of_writes {request : Request} (h : request.writes = true) : request.lines = [] := by
  cases request with
  | say text => cases h
  | sayAll texts => cases h
  | flush => rfl
  | ask prompt => rfl

theorem isLine_of_mem_lines {request : Request} {line : String} (h : line ∈ request.lines) :
    Text.IsLine line.toList := by
  cases request with
  | say text => exact isLine_of_mem_linesOf h
  | sayAll texts =>
    obtain ⟨text, _, hline⟩ := List.mem_flatMap.1 h
    exact isLine_of_mem_linesOf hline
  | flush => cases h
  | ask prompt => cases h

end Request

/-- A request that has been served. -/
structure Served where
  request : Request
  before : Console
  result : Except Failure (Option String)
  after : Console

/-- Serves a request. -/
def Request.serve (request : Request) (console : Console) : Served :=
  match request.action.run console with
  | .ok reply after => { request, before := console, result := .ok reply, after }
  | .error failure after => { request, before := console, result := .error failure, after }

@[simp] theorem Request.request_serve (request : Request) (console : Console) :
    (request.serve console).request = request := by
  unfold Request.serve
  split <;> rfl

@[simp] theorem Request.before_serve (request : Request) (console : Console) :
    (request.serve console).before = console := by
  unfold Request.serve
  split <;> rfl

/-- Serves requests, one after the other. -/
def serve : Console → List Request → List Served
  | _, [] => []
  | console, request :: requests =>
    request.serve console :: serve (request.serve console).after requests

/-- The console when it has served some requests. -/
def afterServing (console : Console) (requests : List Request) : Console :=
  requests.foldl (fun console request => (request.serve console).after) console

/-! ## What a request does -/

/-- A text is queued, and nothing is written. -/
theorem serve_of_not_writes {request : Request} (h : request.writes = false) (console : Console) :
    request.serve console =
      { request, before := console, result := .ok none,
        after := { console with pending := console.pending ++ request.lines } } := by
  cases request with
  | say text => rfl
  | sayAll texts =>
    rw [show (Request.sayAll texts).lines = texts.flatMap linesOf from rfl, ← sayAll_eq]
    rfl
  | flush => cases h
  | ask prompt => cases h

/-- The queue has been written, or so much of it as could be: how the console is left, whatever the
answers are. -/
structure Flushed (console : Console) (result : Except Failure Unit) (after : Console) : Prop where
  plain : after.Plain
  pageLines : after.pageLines = console.pageLines
  continuePrompt : after.continuePrompt = console.continuePrompt
  pending : after.pending = []
  answered : stops console.pageLines console.pending.length ≤ arrivals console.answers →
    result = .ok () ∧ after.written = console.written ++ Text.unlines console.pending
  cutOff : arrivals console.answers < stops console.pageLines console.pending.length →
    result = .error { cause := missing console.answers } ∧
      ∃ page, console.pageLines = some page ∧
        after.written = console.written ++
          Text.unlines (console.pending.take ((arrivals console.answers + 1) * page))

theorem run_flush {console : Console} (hplain : console.Plain) :
    ∃ result after, flush.run console = leaving after result ∧ Flushed console result after := by
  cases hpage : console.pageLines with
  | none =>
    refine ⟨.ok (), _, run_flush_unpaged hplain hpage, ⟨hplain.capacity, hplain.echo⟩, rfl, rfl, rfl,
      fun _ => ⟨rfl, ?_⟩, fun hcut => ?_⟩
    · rw [written_record, writtenIn_lineEvents]
      rfl
    · rw [hpage] at hcut
      exact absurd hcut (Nat.not_lt_zero _)
  | some page =>
    obtain ⟨events, left, result, hpages, hrun⟩ := run_flush_paged hplain hpage
    obtain ⟨hanswered, hcut⟩ := hpages.written
    refine ⟨result, _, hrun, ⟨hplain.capacity, hplain.echo⟩, rfl, rfl, rfl, ?_, ?_⟩
    · rw [hpage]
      intro hstops
      obtain ⟨hresult, hwritten⟩ := hanswered hstops
      rw [written_record, hwritten]
      exact ⟨hresult, rfl⟩
    · rw [hpage]
      intro hstops
      obtain ⟨hresult, hwritten⟩ := hcut hstops
      refine ⟨hresult, page, rfl, ?_⟩
      rw [written_record, hwritten]
      rfl

/-- The console with a line in its history, unless the line is blank. -/
def remembering (console : Console) (line : String) : Console :=
  { console with
    history := console.history ++ if Text.isBlank line.toList then [] else [line] }

theorem run_remember (console : Console) (line : String) :
    (remember line).run console = .ok () (console.remembering line) := by
  unfold remember remembering
  rw [EStateM.run_modify]
  split
  · rw [List.append_nil]
  · rfl

/-- A question is asked when the queue has been written, and not if that fails. -/
theorem run_ask_of_error {console next : Console} {failure : Failure}
    (hflush : flush.run console = .error failure next) (prompt : String) :
    (ask prompt).run console = .error failure next := by
  unfold ask
  rw [EStateM.run_bind, hflush]

theorem run_ask {console next : Console} (hflush : flush.run console = .ok () next)
    (hplain : next.Plain) (prompt : String) :
    (ask prompt).run console =
      match (takeAnswer (promptText prompt)).run next with
      | .ok line heard => .ok line (heard.remembering line)
      | .error failure heard => .error failure heard := by
  unfold ask
  rw [EStateM.run_bind, hflush]
  simp only [EStateM.run_bind, run_read hplain]
  cases (takeAnswer (promptText prompt)).run next with
  | ok line heard => simp only [run_remember, EStateM.run_pure]
  | error failure heard => rfl

/-- The queue could be written. -/
theorem serve_flush_of_run {console next : Console} (h : flush.run console = .ok () next) :
    Request.flush.serve console =
      { request := .flush, before := console, result := .ok none, after := next } := by
  unfold Request.serve
  simp only [Request.action, EStateM.run_bind, h, EStateM.run_pure]

/-- The queue could be written, and then a line arrives. -/
theorem serve_ask_of_run {console next : Console} (h : flush.run console = .ok () next)
    (hplain : next.Plain) {answer : Answer} {left : List Answer}
    (hanswers : next.answers = answer :: left) (harrives : answer.arrives = true) (prompt : String) :
    (Request.ask prompt).serve console =
      { request := .ask prompt, before := console, result := .ok (some answer.text),
        after := ({ next with answers := left }.record
          [.read (promptText prompt) answer.reply (countLines left)]).remembering answer.text } := by
  unfold Request.serve
  simp only [Request.action, EStateM.run_bind, run_ask h hplain,
    run_takeAnswer hanswers harrives, EStateM.run_pure]

/-- Reading a line takes an answer and writes nothing, whether a line arrives or not. -/
theorem run_takeAnswer_cases (prompt : String) (console : Console) :
    ∃ left reply count,
      (∃ line, (takeAnswer prompt).run console =
        .ok line ({ console with answers := left }.record [.read prompt reply count])) ∨
      ∃ failure, (takeAnswer prompt).run console =
        .error failure ({ console with answers := left }.record [.read prompt reply count]) := by
  cases hanswers : console.answers with
  | nil => exact ⟨[], .ended, 0, Or.inr ⟨_, run_takeAnswer_ended hanswers prompt⟩⟩
  | cons answer left =>
    cases harrives : answer.arrives with
    | true => exact ⟨left, _, _, Or.inl ⟨_, run_takeAnswer hanswers harrives prompt⟩⟩
    | false => exact ⟨left, _, _, Or.inr ⟨_, run_takeAnswer_missing hanswers harrives prompt⟩⟩

/-- A line that is read afterwards does not matter. -/
theorem Flushed.heard {console after : Console} {result : Except Failure Unit}
    (h : Flushed console result after) (left : List Answer) (history : List String)
    (prompt : String) (reply : Reply) (count : Nat) :
    Flushed console result
      ({ after with answers := left, history }.record [.read prompt reply count]) := by
  have hwritten : ({ after with answers := left, history }.record
      [.read prompt reply count]).written = after.written := by
    rw [written_record, writtenIn_read, writtenIn_nil, String.append_empty]
    rfl
  refine ⟨⟨h.plain.capacity, h.plain.echo⟩, h.pageLines, h.continuePrompt, h.pending, ?_, ?_⟩
  · rw [hwritten]
    exact h.answered
  · rw [hwritten]
    exact h.cutOff

/-- The queue is written, by a question as well. If that fails, so does the request. -/
theorem serve_of_writes {request : Request} (h : request.writes = true) {console : Console}
    (hplain : console.Plain) :
    ∃ result, Flushed console result (request.serve console).after ∧
      ∀ failure, result = .error failure → (request.serve console).result = .error failure := by
  obtain ⟨result, after, hrun, hflushed⟩ := run_flush hplain
  refine ⟨result, ?_⟩
  cases request with
  | say text => cases h
  | sayAll texts => cases h
  | flush =>
    unfold Request.serve
    simp only [Request.action, EStateM.run_bind, hrun]
    cases result with
    | ok reply => exact ⟨hflushed, fun failure hfailure => by cases hfailure⟩
    | error failure => exact ⟨hflushed, fun other hother => by cases hother; rfl⟩
  | ask prompt =>
    unfold Request.serve
    simp only [Request.action, EStateM.run_bind]
    cases result with
    | error failure =>
      rw [run_ask_of_error hrun]
      exact ⟨hflushed, fun other hother => by cases hother; rfl⟩
    | ok reply =>
      rw [run_ask hrun hflushed.plain]
      obtain ⟨left, reply, count, ⟨line, htaken⟩ | ⟨failure, htaken⟩⟩ :=
        run_takeAnswer_cases (promptText prompt) after
      · rw [htaken]
        exact ⟨hflushed.heard left _ _ reply count,
          fun failure hfailure => by cases hfailure⟩
      · rw [htaken]
        exact ⟨hflushed.heard left _ _ reply count,
          fun failure hfailure => by cases hfailure⟩

end Muster.Console
