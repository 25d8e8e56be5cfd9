import Muster.Proofs.Console.Requests

/-!
# What becomes of the queued lines

Lines are queued, and they are written in the order in which they were queued. Whether all of them
are depends on the page breaks: the queue is taken as a whole before its first line is written, and
when no answer arrives at a page break, the pages that were to follow are given up
(`beyondAnswers`). `account` balances this for one request, whatever the answers are, and
`written_queued_or_lost` for a whole run: no line is written twice or out of order, and none is lost
but those.
-/

namespace Muster.Console

open Text

/-- The lines written so far. -/
def shown (console : Console) : List String := (lines console.written.toList).map String.ofList

/-- The queued lines that come after the first page break that will not be answered. -/
def beyondAnswers (console : Console) : List String :=
  match console.pageLines with
  | some page => console.pending.drop ((arrivals console.answers + 1) * page)
  | none => []

/-- The lines that are neither written nor queued any more. -/
def Served.lost (served : Served) : List String :=
  if served.request.writes then served.before.beyondAnswers else []

/-- Only whole lines have been written, and only lines are queued. -/
structure InLines (console : Console) : Prop where
  plain : console.Plain
  written_eq : console.written = unlines console.shown
  isLine_shown : ∀ line ∈ console.shown, IsLine line.toList
  isLine_pending : ∀ line ∈ console.pending, IsLine line.toList

/-- What has been written in lines can be told apart again. -/
theorem shown_of_written_eq {console : Console} {texts : List String}
    (hwritten : console.written = unlines texts) (h : ∀ line ∈ texts, IsLine line.toList) :
    console.shown = texts := by
  unfold shown
  rw [hwritten, lines_unlines h]

/-- The console is in lines when such lines have been written. -/
theorem InLines.of_written_eq {console : Console} {texts : List String} (hplain : console.Plain)
    (hwritten : console.written = unlines texts) (h : ∀ line ∈ texts, IsLine line.toList)
    (hpending : ∀ line ∈ console.pending, IsLine line.toList) : console.InLines := by
  have hshown := shown_of_written_eq hwritten h
  refine ⟨hplain, by rw [hshown, hwritten], ?_, hpending⟩
  rw [hshown]
  exact h

/-! ## One request -/

/-- The output does not stop more often than it is answered if the lines fit on the pages. -/
theorem stops_le_iff {page : { n : Nat // 0 < n }} {count answered : Nat} :
    stops (some page) count ≤ answered ↔ count ≤ (answered + 1) * page := by
  show count ⌈/⌉ page.val - 1 ≤ answered ↔ _
  rw [Nat.sub_le_iff_le_add, ceilDiv_le_iff_le_mul page.property, Nat.mul_comm]

/-- A line is lost when a page break is not answered. -/
theorem beyondAnswers_eq_nil_iff {console : Console} :
    console.beyondAnswers = [] ↔
      stops console.pageLines console.pending.length ≤ arrivals console.answers := by
  unfold beyondAnswers
  cases console.pageLines with
  | none => simp [stops]
  | some page => rw [stops_le_iff, List.drop_eq_nil_iff]

/-- The queue has been written up to the lines that are lost. -/
theorem Flushed.written_eq {console after : Console} {result : Except Failure Unit}
    (h : Flushed console result after) :
    ∃ texts, texts ++ console.beyondAnswers = console.pending ∧
      after.written = console.written ++ unlines texts ∧
      (console.beyondAnswers ≠ [] → result = .error { cause := missing console.answers }) := by
  rcases Nat.lt_or_ge (arrivals console.answers) (stops console.pageLines console.pending.length)
    with hcut | hanswered
  · obtain ⟨hresult, page, hpage, hwritten⟩ := h.cutOff hcut
    refine ⟨_, ?_, hwritten, fun _ => hresult⟩
    unfold beyondAnswers
    rw [hpage]
    exact List.take_append_drop _ _
  · have hnone := beyondAnswers_eq_nil_iff.2 hanswered
    refine ⟨console.pending, ?_, (h.answered hanswered).2, fun hlost => absurd hnone hlost⟩
    rw [hnone, List.append_nil]

/-- Each line that was queued has been written, is queued still or is lost. Lines are lost when the
queue is to be written and there are not enough answers for its page breaks. -/
structure Served.Balanced (served : Served) : Prop where
  lines_eq : served.before.shown ++ served.before.pending ++ served.request.lines =
    served.after.shown ++ served.lost ++ served.after.pending
  lost_iff : served.lost ≠ [] ↔ served.request.writes = true ∧
    arrivals served.before.answers < stops served.before.pageLines served.before.pending.length
  of_lost : served.lost ≠ [] →
    served.result = .error { cause := missing served.before.answers } ∧ served.after.pending = []

/-- The lines that a request writes, queues and loses. -/
theorem account (request : Request) {console : Console} (h : console.InLines) :
    (request.serve console).Balanced ∧ (request.serve console).after.InLines := by
  cases hwrites : request.writes with
  | false =>
    rw [serve_of_not_writes hwrites]
    refine ⟨⟨?_, ?_, ?_⟩, ?_⟩
    · simp only [Served.lost, hwrites, Bool.false_eq_true, if_false, List.append_nil,
        List.append_assoc]
      rfl
    · simp [Served.lost, hwrites]
    · simp [Served.lost, hwrites]
    · refine InLines.of_written_eq ⟨h.plain.capacity, h.plain.echo⟩ h.written_eq h.isLine_shown ?_
      exact fun line hline =>
        (List.mem_append.1 hline).elim (h.isLine_pending line) Request.isLine_of_mem_lines
  | true =>
    obtain ⟨result, hflushed, hresult⟩ := serve_of_writes hwrites h.plain
    obtain ⟨texts, htexts, hwritten, hlost⟩ := hflushed.written_eq
    have hqueued : ∀ line ∈ texts, IsLine line.toList := fun line hline =>
      h.isLine_pending line (htexts ▸ List.mem_append_left _ hline)
    have hall : ∀ line ∈ console.shown ++ texts, IsLine line.toList := fun line hline =>
      (List.mem_append.1 hline).elim (h.isLine_shown line) (hqueued line)
    rw [h.written_eq, ← unlines_append] at hwritten
    have hshown := shown_of_written_eq hwritten hall
    refine ⟨⟨?_, ?_, ?_⟩, ?_⟩
    · simp only [Request.before_serve, Request.request_serve, Request.lines_of_writes hwrites,
        Served.lost, hwrites, if_true, hshown, hflushed.pending, List.append_nil, List.append_assoc,
        htexts]
    · simp only [Served.lost, Request.request_serve, Request.before_serve, hwrites, if_true,
        true_and, ne_eq, beyondAnswers_eq_nil_iff, Nat.not_le]
    · simp only [Served.lost, Request.request_serve, Request.before_serve, hwrites, if_true]
      exact fun hne => ⟨hresult _ (hlost hne), hflushed.pending⟩
    · refine InLines.of_written_eq hflushed.plain hwritten hall ?_
      rw [hflushed.pending]
      simp

/-! ## A whole run -/

theorem InLines.afterServing {console : Console} (h : console.InLines) (requests : List Request) :
    (console.afterServing requests).InLines ∧ ∀ served ∈ console.serve requests, served.Balanced := by
  induction requests generalizing console with
  | nil => exact ⟨h, by simp [serve]⟩
  | cons request requests ih =>
    obtain ⟨hbalanced, hnext⟩ := account request h
    obtain ⟨hlast, hmore⟩ := ih hnext
    exact ⟨hlast, List.forall_mem_cons.2 ⟨hbalanced, hmore⟩⟩

/-- What is written and queued in the end has been queued in this order. -/
theorem afterServing_sublist {console : Console} (h : console.InLines) (requests : List Request) :
    ((console.afterServing requests).shown ++ (console.afterServing requests).pending).Sublist
      (console.shown ++ console.pending ++ requests.flatMap Request.lines) := by
  induction requests generalizing console with
  | nil =>
    rw [List.flatMap_nil, List.append_nil]
    exact List.Sublist.refl _
  | cons request requests ih =>
    obtain ⟨hbalanced, hnext⟩ := account request h
    have hlines := hbalanced.lines_eq
    rw [Request.before_serve, Request.request_serve] at hlines
    rw [List.flatMap_cons, ← List.append_assoc, hlines]
    refine (ih hnext).trans ?_
    exact ((List.sublist_append_left _ _).append (List.Sublist.refl _)).append (List.Sublist.refl _)

/-- The lines that are neither written nor queued in the end are those that have been lost. -/
theorem length_afterServing {console : Console} (h : console.InLines) (requests : List Request) :
    ((console.afterServing requests).shown ++ (console.afterServing requests).pending).length +
        ((console.serve requests).flatMap Served.lost).length =
      (console.shown ++ console.pending ++ requests.flatMap Request.lines).length := by
  induction requests generalizing console with
  | nil =>
    rw [List.flatMap_nil, List.append_nil]
    rfl
  | cons request requests ih =>
    obtain ⟨hbalanced, hnext⟩ := account request h
    have hlines := congrArg List.length hbalanced.lines_eq
    have hmore := ih hnext
    rw [Request.before_serve, Request.request_serve] at hlines
    simp only [List.length_append] at hlines hmore ⊢
    simp only [afterServing, List.foldl_cons, serve, List.flatMap_cons,
      List.length_append] at hmore ⊢
    omega

/-- A console at which nothing has happened. -/
theorem inLines_start (answers : List Answer) (continuePrompt : String)
    (pageLines : Option { n : Nat // 0 < n }) :
    ({ answers, continuePrompt, pageLines } : Console).InLines :=
  @InLines.of_written_eq _ [] ⟨rfl, rfl⟩ rfl (by simp) (by simp)

/-- Whatever is asked of a console and however it is answered, only whole lines are written, each of
them once and in the order in which they were queued, and a line that is neither written nor queued
has been lost at a page break that was not answered. Nothing is missing unless a request lost it. -/
theorem written_queued_or_lost (setting : Option Nat) (continuePrompt : String)
    (answers : List Answer) (requests : List Request) :
    let start : Console := { answers, continuePrompt, pageLines := pageLinesOf setting }
    let now := start.afterServing requests
    now.written = unlines now.shown ∧
      (∀ served ∈ start.serve requests, served.Balanced) ∧
      (now.shown ++ now.pending).Sublist (requests.flatMap Request.lines) ∧
      (now.shown ++ now.pending = requests.flatMap Request.lines ↔
        ∀ served ∈ start.serve requests, served.lost = []) := by
  intro start now
  have hstart : start.InLines := inLines_start answers continuePrompt (pageLinesOf setting)
  obtain ⟨hnow, hbalanced⟩ := hstart.afterServing requests
  have hsublist : (now.shown ++ now.pending).Sublist (requests.flatMap Request.lines) :=
    afterServing_sublist hstart requests
  have hlength : (now.shown ++ now.pending).length +
      ((start.serve requests).flatMap Served.lost).length =
        (requests.flatMap Request.lines).length := length_afterServing hstart requests
  refine ⟨hnow.written_eq, hbalanced, hsublist, fun heq => ?_, fun hnone => ?_⟩
  · rw [heq] at hlength
    exact List.flatMap_eq_nil_iff.1 (List.length_eq_zero_iff.1 (by omega))
  · rw [List.flatMap_eq_nil_iff.2 hnone, List.length_nil] at hlength
    exact hsublist.eq_of_length hlength

/-- With a page of one line and nobody to answer, the second of two lines is neither written nor
queued once the queue has been written, and writing it again does not bring the line back. -/
theorem unanswered_page_is_lost :
    let start : Console := { pageLines := pageLinesOf (some 1) }
    let requests : List Request := [.say "one\ntwo", .flush, .flush]
    requests.flatMap Request.lines = ["one", "two"] ∧
      (start.serve requests).map (fun served => served.after.shown ++ served.after.pending) =
        [["one", "two"], ["one"], ["one"]] ∧
      (start.serve requests).map (fun served => served.result.isOk) = [true, false, true] := by
  decide +kernel

end Muster.Console
