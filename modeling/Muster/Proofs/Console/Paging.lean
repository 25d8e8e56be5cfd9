import Muster.Proofs.Console.Requests

/-!
# Pages make no difference

Two consoles are asked for the same things: one stops after every page and gets one more answer for
each of these stops (`WithPauses`), the other one never stops. `paging_is_transparent` says that they
write the same, answer the same, remember the same and have the same lines in their queues, and where
the first one stops. Both runs are instances of one lemma about a request whose page breaks are
answered (`serve_answered`): the two consoles stay `Aligned` from one request to the next.
-/

namespace Muster.Console

open Text

/-! ## Where the output stops -/

/-- A queue is written in full pages and a last one: between any two of them a line is read at the
prompt, and after the last one no line is. -/
structure TurnsPages (page : Option { n : Nat // 0 < n }) (prompt : String) (queue : List String)
    (events : List ConsoleEvent) (full : List (List String)) (last : List String) : Prop where
  pages_eq : full.flatten ++ last = queue
  last_ne_nil : queue ≠ [] → last ≠ []
  full_length : full.length = stops page queue.length
  stretches_eq : stretches events = (full ++ [last]).map unlines
  prompts_eq : promptsIn events = List.replicate full.length prompt
  line_ends : ∀ size ∈ page, (∀ shown ∈ full, (unlines shown).toList.count '\n' = size) ∧
    (unlines last).toList.count '\n' ≤ size

/-- Without pages there is one stretch of output. -/
theorem turnsPages_none (prompt : String) (queue : List String) :
    TurnsPages none prompt queue (lineEvents queue) [] queue where
  pages_eq := rfl
  last_ne_nil := id
  full_length := rfl
  stretches_eq := stretches_lineEvents queue
  prompts_eq := promptsIn_lineEvents queue
  line_ends := by simp

theorem Paginated.turnsPages {page : { n : Nat // 0 < n }} {prompt : String} {queue : List String}
    {events : List ConsoleEvent} {full : List (List String)} {last : List String}
    (h : Paginated page queue full last) (hqueue : ∀ line ∈ queue, IsLine line.toList)
    (hlength : full.length = stops (some page) queue.length)
    (hstretches : stretches events = (full ++ [last]).map unlines)
    (hprompts : promptsIn events = List.replicate full.length prompt) :
    TurnsPages (some page) prompt queue events full last := by
  refine ⟨h.lines_eq, h.last_ne_nil, hlength, hstretches, hprompts, ?_⟩
  rintro size ⟨⟩
  have hlines := h.lines_eq
  constructor
  · intro shown hshown
    rw [count_unlines, h.full_length shown hshown]
    refine fun line hline => hqueue line ?_
    rw [← hlines]
    exact List.mem_append_left _ (List.mem_flatten.2 ⟨shown, hshown, hline⟩)
  · rw [count_unlines]
    · exact h.last_length
    · refine fun line hline => hqueue line ?_
      rw [← hlines]
      exact List.mem_append_right _ hline

/-- As many lines can be read as there are answers before the first one that is none. -/
theorem length_le_arrivals {pauses : List Answer} (h : ∀ answer ∈ pauses, answer.arrives = true)
    (left : List Answer) : pauses.length ≤ arrivals (pauses ++ left) := by
  unfold arrivals
  rw [List.takeWhile_append_of_pos h, List.length_append]
  exact Nat.le_add_right _ _

/-- When each page break is answered, the queue is written. -/
theorem run_flush_answered {console : Console} (hplain : console.Plain)
    (hlines : ∀ line ∈ console.pending, IsLine line.toList) {pauses left : List Answer}
    (hanswers : console.answers = pauses ++ left)
    (harrive : ∀ answer ∈ pauses, answer.arrives = true)
    (hcount : pauses.length = stops console.pageLines console.pending.length) :
    ∃ events full last,
      flush.run console = .ok () ({ console with pending := [], answers := left }.record events) ∧
        writtenIn events = unlines console.pending ∧
        TurnsPages console.pageLines console.continuePrompt console.pending events full last := by
  rcases Option.eq_none_or_eq_some console.pageLines with hpage | ⟨page, hpage⟩
  · rw [hpage] at hcount
    have hleft : left = console.answers := by
      rw [hanswers, List.length_eq_zero_iff.1 hcount, List.nil_append]
    refine ⟨lineEvents console.pending, [], console.pending, ?_, writtenIn_lineEvents _, ?_⟩
    · rw [run_flush_unpaged hplain hpage, hleft]
    · rw [hpage]
      exact turnsPages_none _ _
  · rw [hpage] at hcount
    obtain ⟨events, left', result, hpages, hrun⟩ := run_flush_paged hplain hpage
    rw [hanswers] at hpages
    obtain ⟨rfl, rfl, full, last, hpaginated, hfull, hstretches, hprompts⟩ :=
      hpages.of_arrives harrive hcount
    have hwritten := (hpages.written.1 (hcount ▸ length_le_arrivals harrive _)).2
    refine ⟨events, full, last, hrun, hwritten, ?_⟩
    rw [hpage]
    exact hpaginated.turnsPages hlines (hfull.trans hcount) hstretches hprompts

/-! ## One request -/

/-- What a request that writes the queue takes of the answers afterwards, what it gives back and
what is remembered. -/
inductive Request.Hears : Request → List Answer → Option String → List String → Prop where
  | flush : Request.Hears .flush [] none []
  | ask (prompt : String) {answer : Answer} (h : answer.arrives = true) :
    Request.Hears (.ask prompt) [answer] (some answer.text)
      (if Text.isBlank answer.text.toList then [] else [answer.text])

/-- The queue has been written, and perhaps a line has been read. -/
structure Wrote (console after : Console) (left : List Answer) (heard : List String) : Prop where
  plain : after.Plain
  pageLines : after.pageLines = console.pageLines
  continuePrompt : after.continuePrompt = console.continuePrompt
  answers : after.answers = left
  pending : after.pending = []
  history : after.history = console.history ++ heard
  written : after.written = console.written ++ unlines console.pending

/-- The queue has been written in pages, and then the question of the request was asked. -/
def Served.InPages (served : Served) : Prop :=
  ∃ events asked full last,
    served.after.log = served.before.log ++ events ++ asked ∧
      TurnsPages served.before.pageLines served.before.continuePrompt served.before.pending events
        full last ∧
      promptsIn asked = served.request.question ∧ writtenIn asked = ""

/-- A request whose page breaks and whose question are answered. -/
theorem serve_answered {request : Request} {own : List Answer} {reply : Option String}
    {heard : List String} (hhears : request.Hears own reply heard) {console : Console}
    (hplain : console.Plain) (hlines : ∀ line ∈ console.pending, IsLine line.toList)
    {pauses left : List Answer} (hanswers : console.answers = pauses ++ (own ++ left))
    (harrive : ∀ answer ∈ pauses, answer.arrives = true)
    (hcount : pauses.length = stops console.pageLines console.pending.length) :
    (request.serve console).result = .ok reply ∧
      Wrote console (request.serve console).after left heard ∧ (request.serve console).InPages := by
  obtain ⟨events, full, last, hrun, hwritten, hpages⟩ :=
    run_flush_answered hplain hlines hanswers harrive hcount
  have hstart : ({ console with pending := [], answers := own ++ left }.record events).written =
      console.written ++ unlines console.pending := by
    rw [written_record, hwritten]
    rfl
  cases hhears with
  | flush =>
    rw [serve_flush_of_run hrun]
    refine ⟨rfl, ⟨⟨hplain.capacity, hplain.echo⟩, rfl, rfl, rfl, rfl, ?_, hstart⟩, ?_⟩
    · exact (List.append_nil console.history).symm
    · exact ⟨events, [], full, last, (List.append_nil _).symm, hpages, rfl, rfl⟩
  | @ask prompt answer harrives =>
    rw [serve_ask_of_run hrun ⟨hplain.capacity, hplain.echo⟩ rfl harrives]
    refine ⟨rfl, ⟨⟨hplain.capacity, hplain.echo⟩, rfl, rfl, rfl, rfl, rfl, ?_⟩, ?_⟩
    · -- the line that is read adds nothing to what is written
      refine (written_record _ _).trans ?_
      rw [writtenIn_read, writtenIn_nil, String.append_empty]
      exact hstart
    · exact ⟨events, _, full, last, rfl, hpages, rfl, rfl⟩

/-! ## Two runs -/

/-- The answers of a run without pages and of the same run with pages: one more for each page break,
a line or an interruption, before those that the request takes itself. So many lines are queued. -/
inductive WithPauses (page : Option { n : Nat // 0 < n }) :
    Nat → List Request → List Answer → List Answer → Prop where
  | nil {queued : Nat} {answers : List Answer} : WithPauses page queued [] answers answers
  | queue {queued : Nat} {request : Request} {requests : List Request} {answers padded : List Answer}
    (h : request.writes = false)
    (hrest : WithPauses page (queued + request.lines.length) requests answers padded) :
    WithPauses page queued (request :: requests) answers padded
  | write {queued : Nat} {request : Request} {requests : List Request}
    {own pauses answers padded : List Answer} {reply : Option String} {heard : List String}
    (hhears : request.Hears own reply heard) (harrive : ∀ answer ∈ pauses, answer.arrives = true)
    (hcount : pauses.length = stops page queued) (hrest : WithPauses page 0 requests answers padded) :
    WithPauses page queued (request :: requests) (own ++ answers) (pauses ++ (own ++ padded))

/-- Two consoles of which one can see no difference but in the answers that are left. -/
structure Aligned (paged unpaged : Console) : Prop where
  plain_paged : paged.Plain
  plain_unpaged : unpaged.Plain
  pageLines : unpaged.pageLines = none
  pending : paged.pending = unpaged.pending
  history : paged.history = unpaged.history
  written : paged.written = unpaged.written
  isLine : ∀ line ∈ paged.pending, IsLine line.toList

/-- The same has come of a request in two runs. -/
structure Served.Agrees (paged unpaged : Served) : Prop where
  request : paged.request = unpaged.request
  result : paged.result = unpaged.result
  written : paged.after.written = unpaged.after.written
  pending : paged.after.pending = unpaged.after.pending
  history : paged.after.history = unpaged.after.history

theorem Aligned.agrees {paged unpaged : Served} (h : Aligned paged.after unpaged.after)
    (hrequest : paged.request = unpaged.request) (hresult : paged.result = unpaged.result) :
    paged.Agrees unpaged := ⟨hrequest, hresult, h.written, h.pending, h.history⟩

/-- A request has not failed. If the queue had to be written, it is empty now, and the output has
stopped where it should. -/
structure Served.Smooth (served : Served) : Prop where
  isOk : served.result.isOk = true
  pending : served.request.writes = true → served.after.pending = []
  inPages : served.request.writes = true → served.InPages

/-- Queueing lines keeps two consoles aligned. -/
theorem Aligned.queue {paged unpaged : Console} (h : Aligned paged unpaged) {request : Request}
    (hwrites : request.writes = false) :
    Aligned (request.serve paged).after (request.serve unpaged).after ∧
      (request.serve paged).result = (request.serve unpaged).result ∧
      (request.serve paged).Smooth := by
  rw [serve_of_not_writes hwrites, serve_of_not_writes hwrites]
  refine ⟨⟨⟨h.plain_paged.capacity, h.plain_paged.echo⟩,
    ⟨h.plain_unpaged.capacity, h.plain_unpaged.echo⟩, h.pageLines, ?_, h.history, h.written, ?_⟩,
    rfl, ⟨rfl, ?_, ?_⟩⟩
  · show paged.pending ++ _ = unpaged.pending ++ _
    rw [h.pending]
  · exact fun line hline =>
      (List.mem_append.1 hline).elim (h.isLine line) Request.isLine_of_mem_lines
  · simp [hwrites]
  · simp [hwrites]

/-- So does writing the queue. -/
theorem Aligned.write {paged unpaged : Console} (h : Aligned paged unpaged) {request : Request}
    {own pauses answers padded : List Answer} {reply : Option String} {heard : List String}
    (hhears : request.Hears own reply heard) (harrive : ∀ answer ∈ pauses, answer.arrives = true)
    (hcount : pauses.length = stops paged.pageLines paged.pending.length)
    (hpaged : paged.answers = pauses ++ (own ++ padded)) (hunpaged : unpaged.answers = own ++ answers) :
    Aligned (request.serve paged).after (request.serve unpaged).after ∧
      (request.serve paged).result = (request.serve unpaged).result ∧
      (request.serve paged).Smooth ∧
      Wrote paged (request.serve paged).after padded heard ∧
      Wrote unpaged (request.serve unpaged).after answers heard := by
  -- without pages the output does not stop
  have hnone : ([] : List Answer).length = stops unpaged.pageLines unpaged.pending.length := by
    rw [h.pageLines]
    rfl
  obtain ⟨hresult, hwrote, hpages⟩ :=
    serve_answered hhears h.plain_paged h.isLine hpaged harrive hcount
  obtain ⟨hresult', hwrote', -⟩ :=
    serve_answered hhears h.plain_unpaged (h.pending ▸ h.isLine) hunpaged (by simp) hnone
  refine ⟨⟨hwrote.plain, hwrote'.plain, hwrote'.pageLines.trans h.pageLines, ?_, ?_, ?_, ?_⟩, ?_, ?_,
    hwrote, hwrote'⟩
  · rw [hwrote.pending, hwrote'.pending]
  · rw [hwrote.history, hwrote'.history, h.history]
  · rw [hwrote.written, hwrote'.written, h.written, h.pending]
  · rw [hwrote.pending]
    simp
  · rw [hresult, hresult']
  · refine ⟨?_, ?_, fun _ => hpages⟩
    · rw [hresult]
      rfl
    · exact fun _ => hwrote.pending

/-- Two aligned consoles agree on whatever they are asked for. -/
theorem Aligned.serve {page : Option { n : Nat // 0 < n }} {prompt : String} {queued : Nat}
    {requests : List Request} {answers padded : List Answer}
    (hpauses : WithPauses page queued requests answers padded) {paged unpaged : Console}
    (h : Aligned paged unpaged) (hpage : paged.pageLines = page)
    (hprompt : paged.continuePrompt = prompt) (hqueued : paged.pending.length = queued)
    (hpaged : paged.answers = padded) (hunpaged : unpaged.answers = answers) :
    List.Forall₂ Served.Agrees (paged.serve requests) (unpaged.serve requests) ∧
      ∀ served ∈ paged.serve requests, served.Smooth ∧ served.before.pageLines = page ∧
        served.before.continuePrompt = prompt := by
  induction hpauses generalizing paged unpaged with
  | nil => exact ⟨List.Forall₂.nil, by simp [Console.serve]⟩
  | @queue queued request requests answers padded hwrites _ ih =>
    obtain ⟨hnext, hresult, hsmooth⟩ := h.queue hwrites
    have hafter := congrArg Served.after (serve_of_not_writes hwrites paged)
    have hafter' := congrArg Served.after (serve_of_not_writes hwrites unpaged)
    obtain ⟨hagree, hrest⟩ := ih hnext (by rw [hafter]; exact hpage) (by rw [hafter]; exact hprompt)
      (by rw [hafter, ← hqueued]; exact List.length_append) (by rw [hafter]; exact hpaged)
      (by rw [hafter']; exact hunpaged)
    refine ⟨List.Forall₂.cons (hnext.agrees (by simp) hresult) hagree, ?_⟩
    exact List.forall_mem_cons.2 ⟨⟨hsmooth, by simpa using hpage, by simpa using hprompt⟩, hrest⟩
  | @write queued request requests own pauses answers padded reply heard hhears harrive hcount _ ih =>
    subst hpage hqueued
    obtain ⟨hnext, hresult, hsmooth, hwrote, hwrote'⟩ := h.write hhears harrive hcount hpaged hunpaged
    obtain ⟨hagree, hrest⟩ := ih hnext hwrote.pageLines (hwrote.continuePrompt.trans hprompt)
      (by rw [hwrote.pending]; rfl) hwrote.answers hwrote'.answers
    refine ⟨List.Forall₂.cons (hnext.agrees (by simp) hresult) hagree, ?_⟩
    exact List.forall_mem_cons.2 ⟨⟨hsmooth, by simp, by simpa using hprompt⟩, hrest⟩

/-- With page breaks that are all answered, whatever the size of the pages, what is written, answered,
remembered and queued is the same as without pages. Every request is served, and the queue is empty
when it has been written. The output stops between the pages, and only there. There are no pages of
zero lines. -/
theorem paging_is_transparent (setting : Option Nat) (continuePrompt : String)
    {requests : List Request} {answers padded : List Answer}
    (h : WithPauses (pageLinesOf setting) 0 requests answers padded) :
    let unpaged : Console := { answers, continuePrompt, pageLines := none }
    let paged : Console := { answers := padded, continuePrompt, pageLines := pageLinesOf setting }
    List.Forall₂ Served.Agrees (paged.serve requests) (unpaged.serve requests) ∧
      (∀ served ∈ paged.serve requests, served.Smooth ∧
        served.before.pageLines = pageLinesOf setting ∧
        served.before.continuePrompt = continuePrompt) ∧
      (pageLinesOf setting).map Subtype.val = setting.filter (0 < ·) := by
  intro unpaged paged
  have hstart : Aligned paged unpaged :=
    ⟨⟨rfl, rfl⟩, ⟨rfl, rfl⟩, rfl, rfl, rfl, rfl, by simp [paged]⟩
  obtain ⟨hagree, hsmooth⟩ := Aligned.serve h hstart rfl rfl rfl rfl rfl
  refine ⟨hagree, hsmooth, ?_⟩
  match setting with
  | none => rfl
  | some 0 => rfl
  | some (size + 1) => rfl

/-- Three lines on pages of two: the output stops once before the question, and not at all when a
fourth line is written afterwards. -/
theorem hello_in_pages :
    let requests : List Request := [.say "one\ntwo\nthree", .ask ">", .say "four", .flush]
    let unpaged : Console := { answers := [.line "hello"], pageLines := none }
    let paged : Console :=
      { answers := [.interrupted, .line "hello"], pageLines := pageLinesOf (some 2) }
    List.Forall₂ Served.Agrees (paged.serve requests) (unpaged.serve requests) ∧
      (∀ served ∈ paged.serve requests, served.Smooth) ∧
      (paged.afterServing requests).written = "one\ntwo\nthree\nfour\n" ∧
      promptsIn (paged.afterServing requests).log = ["-- more --", "> "] := by
  have hthree : (Request.say "one\ntwo\nthree").lines = ["one", "two", "three"] := by
    decide +kernel
  have hfour : (Request.say "four").lines = ["four"] := by decide +kernel
  have hflush : WithPauses (pageLinesOf (some 2)) 1 [.flush] [] [] :=
    @WithPauses.write _ 1 .flush [] [] [] [] [] none [] .flush (by simp) (by decide) .nil
  have hsay : WithPauses (pageLinesOf (some 2)) 0 [.say "four", .flush] [] [] :=
    .queue rfl (by rw [hfour]; exact hflush)
  have hask : WithPauses (pageLinesOf (some 2)) 3 [.ask ">", .say "four", .flush] [.line "hello"]
      [.interrupted, .line "hello"] :=
    @WithPauses.write _ 3 (.ask ">") _ [.line "hello"] [.interrupted] [] [] _ _ (.ask ">" rfl)
      (by decide) (by decide) hsay
  obtain ⟨hagree, hsmooth, -⟩ := paging_is_transparent (some 2) "-- more --"
    (.queue rfl (by rw [hthree]; exact hask))
  exact ⟨hagree, fun served hserved => (hsmooth served hserved).1, by decide +kernel,
    by decide +kernel⟩

end Muster.Console
