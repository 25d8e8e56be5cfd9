import Mathlib.Algebra.Order.Floor.Div
import Muster.Proofs.Console.Output

/-!
# Writing in pages

What the console does when the queue is written, told page by page (`WritesPages`): a page that is
followed by more lines is written, and an answer is awaited before the next one. If none arrives,
the lines that would have followed are not written. `run_flush_paged` says that the queue is written
in this way, and `run_flush_unpaged` that without pages all of it is written at once. What is seen
of it is said by `WritesPages.of_arrives`, where every page break is answered, and by
`WritesPages.written`, whatever the answers are.

The console is `Plain` here: the output takes everything, and nothing is written for the lines that
are read.
-/

namespace Muster

/-- Whether a line can be read: an interruption gives an empty one. -/
def Answer.arrives : Answer → Bool
  | .line _ => true
  | .interrupted => true
  | .failed _ => false
  | .ended => false

/-- The line that is read. -/
def Answer.text : Answer → String
  | .line text => text
  | _ => ""

/-- What comes of reading a line when this is the answer. -/
def Answer.reply : Answer → Reply
  | .line text => .line text
  | .interrupted => .interrupted
  | .failed _ => .failed
  | .ended => .ended

/-- Why no line can be read. -/
def Answer.cause : Answer → Cause
  | .failed detail => .internal detail
  | _ => .inputClosed

namespace Console

/-- The output takes everything, and only queued lines are written. -/
structure Plain (console : Console) : Prop where
  capacity : console.capacity = none
  echo : console.echo = false

theorem Plain.record {console : Console} (h : console.Plain) (events : List ConsoleEvent) :
    (console.record events).Plain := ⟨h.capacity, h.echo⟩

/-! ## Single lines -/

theorem run_write {console : Console} (h : console.Plain) (text : String) :
    (write text).run console =
      .ok () (console.record (if text.isEmpty then [] else [.wrote text])) := by
  unfold write EStateM.run
  split
  · rw [record_nil]
  · simp [record, h.capacity]

theorem run_writeLine {console : Console} (h : console.Plain) (line : String) :
    (writeLine line).run console = .ok () (console.record (lineEvents [line])) := by
  unfold writeLine
  rw [EStateM.run_bind, run_write h]
  show (write "\n").run _ = _
  rw [run_write (h.record _), record_record]
  simp [lineEvents]

theorem run_echoLine {console : Console} (h : console.echo = false) (prompt line : String) :
    (echoLine prompt line).run console = .ok () console := by
  unfold echoLine
  simp [h]

/-- Nothing is written for a line that is read. -/
theorem run_read {console : Console} (h : console.Plain) (prompt : String) :
    (read prompt).run console = (takeAnswer prompt).run console := by
  have htaken : ∀ line next, (takeAnswer prompt).run console = .ok line next →
      next.echo = false := by
    intro line next hrun
    unfold EStateM.run takeAnswer at hrun
    split at hrun <;> cases hrun
    · exact h.echo
    · exact h.echo
  unfold read
  rw [EStateM.run_bind]
  cases hrun : (takeAnswer prompt).run console with
  | error failure next => rfl
  | ok line next =>
    simp only [EStateM.run_bind, run_echoLine (htaken line next hrun), EStateM.run_pure]

/-- A line that arrives is taken off the answers. -/
theorem run_takeAnswer {console : Console} {answer : Answer} {left : List Answer}
    (hanswers : console.answers = answer :: left) (harrives : answer.arrives = true)
    (prompt : String) :
    (takeAnswer prompt).run console =
      .ok answer.text ({ console with answers := left }.record
        [.read prompt answer.reply (countLines left)]) := by
  unfold EStateM.run takeAnswer
  rw [hanswers]
  cases answer with
  | line text => rfl
  | interrupted => rfl
  | failed detail => cases harrives
  | ended => cases harrives

theorem run_takeAnswer_ended {console : Console} (hanswers : console.answers = [])
    (prompt : String) :
    (takeAnswer prompt).run console =
      .error { cause := .inputClosed }
        ({ console with answers := [] }.record [.read prompt .ended 0]) := by
  unfold EStateM.run takeAnswer
  rw [hanswers]
  rfl

theorem run_takeAnswer_missing {console : Console} {answer : Answer} {left : List Answer}
    (hanswers : console.answers = answer :: left) (hmissing : answer.arrives = false)
    (prompt : String) :
    (takeAnswer prompt).run console =
      .error { cause := answer.cause } ({ console with answers := left }.record
        [.read prompt answer.reply (countLines left)]) := by
  unfold EStateM.run takeAnswer
  rw [hanswers]
  cases answer with
  | failed detail => rfl
  | ended => rfl
  | line text => cases hmissing
  | interrupted => cases hmissing

/-! ## Pages -/

/-- Where the output does not stop, nothing happens. -/
theorem run_pageBreak {console : Console} {written total : Nat}
    (h : console.fillsPage written = false ∨ total ≤ written) :
    (pageBreak written total).run console = .ok () console := by
  unfold pageBreak
  rw [EStateM.run_bind, EStateM.run_get]
  rcases h with h | h
  · simp [h]
  · simp [Nat.not_lt.2 h]

/-- The output stops after a page that is followed by more lines. -/
theorem run_pageBreak_of_fills {console : Console} (hplain : console.Plain) {written total : Nat}
    (hfills : console.fillsPage written = true) (hmore : written < total) :
    (pageBreak written total).run console =
      match (takeAnswer console.continuePrompt).run console with
      | .ok _ next => .ok () next
      | .error failure next => .error failure next := by
  unfold pageBreak
  rw [EStateM.run_bind, EStateM.run_get]
  simp only [hfills, hmore, decide_true, Bool.and_self, if_true, EStateM.run_bind,
    run_read hplain]
  cases (takeAnswer console.continuePrompt).run console with
  | ok answer next => rfl
  | error failure next => rfl

theorem run_writeLines_append (written total : Nat) (lines more : List String)
    (console : Console) :
    (writeLines written total (lines ++ more)).run console =
      match (writeLines written total lines).run console with
      | .ok _ next => (writeLines (written + lines.length) total more).run next
      | .error failure next => .error failure next := by
  have happend : writeLines written total (lines ++ more) =
      writeLines written total lines >>= fun _ =>
        writeLines (written + lines.length) total more := by
    induction lines generalizing written with
    | nil => rfl
    | cons line lines ih =>
      have hlength : written + (line :: lines).length = written + 1 + lines.length := by
        rw [List.length_cons]
        omega
      simp only [List.cons_append, writeLines, ih, hlength, bind_assoc]
  rw [happend, EStateM.run_bind]
  cases (writeLines written total lines).run console with
  | ok _ next => rfl
  | error failure next => rfl

/-- Lines among which the output does not stop are written one after the other. -/
theorem run_writeLines {console : Console} (hplain : console.Plain) {written total : Nat}
    {lines : List String}
    (h : ∀ count, 0 < count → count ≤ lines.length →
      console.fillsPage (written + count) = false ∨ total ≤ written + count) :
    (writeLines written total lines).run console =
      .ok () (console.record (lineEvents lines)) := by
  induction lines generalizing written console with
  | nil =>
    rw [show lineEvents [] = [] from rfl, record_nil]
    rfl
  | cons line lines ih =>
    have hfirst : (pageBreak (written + 1) total).run (console.record (lineEvents [line])) =
        .ok () (console.record (lineEvents [line])) :=
      run_pageBreak (h 1 (by omega) (by simp))
    have hrest : (writeLines (written + 1) total lines).run (console.record (lineEvents [line])) =
        .ok () ((console.record (lineEvents [line])).record (lineEvents lines)) := by
      refine ih (hplain.record _) fun count hpos hle => ?_
      have hcount := h (count + 1) (by omega) (by rw [List.length_cons]; omega)
      rwa [Nat.add_comm count 1, ← Nat.add_assoc] at hcount
    simp only [writeLines, EStateM.run_bind, run_writeLine hplain, hfirst, hrest, record_record]
    rw [← lineEvents_append, List.singleton_append]

/-- How lines are written in pages, given the answers that are left: what happens, which answers are
left then, and whether all lines are written. -/
inductive WritesPages (page : Nat) (prompt : String) :
    List Answer → List String → List ConsoleEvent → List Answer → Except Failure Unit → Prop where
  /-- The lines fit on a page. -/
  | last {answers : List Answer} {lines : List String} (h : lines.length ≤ page) :
    WritesPages page prompt answers lines (lineEvents lines) answers (.ok ())
  /-- A page is written, and after an answer the other ones. -/
  | turn {answer : Answer} {answers left : List Answer} {lines : List String}
    {events : List ConsoleEvent} {result : Except Failure Unit} (h : page < lines.length)
    (harrives : answer.arrives = true)
    (hrest : WritesPages page prompt answers (lines.drop page) events left result) :
    WritesPages page prompt (answer :: answers) lines
      (lineEvents (lines.take page) ++
        .read prompt answer.reply (countLines answers) :: events) left result
  /-- There are no more answers after a page. -/
  | ended {lines : List String} (h : page < lines.length) :
    WritesPages page prompt [] lines (lineEvents (lines.take page) ++ [.read prompt .ended 0]) []
      (.error { cause := .inputClosed })
  /-- No line can be read after a page. -/
  | unanswered {answer : Answer} {left : List Answer} {lines : List String}
    (h : page < lines.length) (hmissing : answer.arrives = false) :
    WritesPages page prompt (answer :: left) lines
      (lineEvents (lines.take page) ++ [.read prompt answer.reply (countLines left)]) left
      (.error { cause := answer.cause })

/-- The result of an action, and the console as it is left. -/
def leaving (console : Console) : Except Failure Unit → EStateM.Result Failure Console Unit
  | .ok () => .ok () console
  | .error failure => .error failure console

/-- Within a page the output does not stop. -/
theorem fillsPage_eq_false {console : Console} {page : { n : Nat // 0 < n }}
    (hpage : console.pageLines = some page) {written count : Nat} (hwritten : written % page = 0)
    (hpos : 0 < count) (hlt : count < page) : console.fillsPage (written + count) = false := by
  have hmod : (written + count) % page = count := by
    rw [Nat.add_mod, hwritten, Nat.zero_add, Nat.mod_mod, Nat.mod_eq_of_lt hlt]
  simp only [fillsPage, hpage, hmod, decide_eq_false_iff_not]
  omega

/-- The first page of some lines has a last line. -/
theorem exists_page {page : Nat} (hpos : 0 < page) {lines : List String} (h : page ≤ lines.length) :
    ∃ first line, lines.take page = first ++ [line] ∧ first.length + 1 = page ∧
      lines = first ++ line :: lines.drop page := by
  rcases List.eq_nil_or_concat (lines.take page) with hnil | ⟨first, line, hfront⟩
  · have hlength := congrArg List.length hnil
    rw [List.length_take, List.length_nil] at hlength
    omega
  · rw [List.concat_eq_append] at hfront
    have hlength := congrArg List.length hfront
    rw [List.length_take, List.length_append, List.length_singleton] at hlength
    refine ⟨first, line, hfront, by omega, ?_⟩
    rw [List.append_cons, ← hfront, List.take_append_drop]

/-- A page that is followed by more lines is written, and then an answer is taken. -/
theorem run_writeLines_of_lt {console : Console} (hplain : console.Plain)
    {page : { n : Nat // 0 < n }} (hpage : console.pageLines = some page) {written total : Nat}
    (hwritten : written % page = 0) {lines : List String} (hlines : page < lines.length)
    (htotal : written + lines.length = total) :
    (writeLines written total lines).run console =
      match (takeAnswer console.continuePrompt).run
        (console.record (lineEvents (lines.take page))) with
      | .ok _ next => (writeLines (written + page) total (lines.drop page)).run next
      | .error failure next => .error failure next := by
  -- the output stops after the last line of the page, and not before
  obtain ⟨first, line, hfront, hfirst, hsplit⟩ := exists_page page.property (Nat.le_of_lt hlines)
  have hlast : written + first.length + 1 = written + page := by omega
  have hwritefirst : (writeLines written total first).run console =
      .ok () (console.record (lineEvents first)) :=
    run_writeLines hplain fun count hcount hle =>
      Or.inl (fillsPage_eq_false hpage hwritten hcount (by omega))
  have hfills : console.fillsPage (written + page) = true := by
    simp [fillsPage, hpage, hwritten]
  have hbreak : (pageBreak (written + page) total).run
      (console.record (lineEvents (lines.take page))) =
      match (takeAnswer console.continuePrompt).run
        (console.record (lineEvents (lines.take page))) with
      | .ok _ next => .ok () next
      | .error failure next => .error failure next :=
    run_pageBreak_of_fills (hplain.record _) hfills (by omega)
  have hline : (writeLine line).run (console.record (lineEvents first)) =
      .ok () (console.record (lineEvents (lines.take page))) := by
    rw [run_writeLine (hplain.record _), record_record, hfront, lineEvents_append]
  conv => lhs; rw [hsplit]
  rw [run_writeLines_append, hwritefirst]
  simp only [writeLines, EStateM.run_bind, hline, hlast, hbreak]
  cases (takeAnswer console.continuePrompt).run (console.record (lineEvents (lines.take page))) with
  | ok answer next => rfl
  | error failure next => rfl

/-- Lines that fit on a page are written one after the other. -/
theorem run_writeLines_of_le {console : Console} (hplain : console.Plain)
    {page : { n : Nat // 0 < n }} (hpage : console.pageLines = some page) {written total : Nat}
    (hwritten : written % page = 0) {lines : List String} (hlines : lines.length ≤ page)
    (htotal : written + lines.length = total) :
    (writeLines written total lines).run console =
      .ok () (console.record (lineEvents lines)) := by
  refine run_writeLines hplain fun count hcount hle => ?_
  by_cases hlast : count = lines.length
  · exact Or.inr (by omega)
  · exact Or.inl (fillsPage_eq_false hpage hwritten hcount (by omega))

/-- The lines from the beginning of a page on are written in pages. -/
theorem run_writeLines_paged {console : Console} (hplain : console.Plain)
    {page : { n : Nat // 0 < n }} (hpage : console.pageLines = some page) {written total : Nat}
    (hwritten : written % page = 0) {lines : List String}
    (htotal : written + lines.length = total) :
    ∃ events left result,
      WritesPages page console.continuePrompt console.answers lines events left result ∧
        (writeLines written total lines).run console =
          leaving ({ console with answers := left }.record events) result := by
  -- every answer that is taken leads on to a page, so the induction is on the answers
  induction hanswers : console.answers generalizing console written lines with
  | nil =>
    by_cases hlines : lines.length ≤ page
    · have hrun := run_writeLines_of_le hplain hpage hwritten hlines htotal
      exact ⟨_, _, _, .last hlines, by rw [hrun, ← hanswers]; rfl⟩
    · have hmore := Nat.lt_of_not_le hlines
      refine ⟨_, _, _, .ended hmore, ?_⟩
      rw [run_writeLines_of_lt hplain hpage hwritten hmore htotal,
        @run_takeAnswer_ended (console.record _) hanswers]
      simp only [leaving, record, List.append_assoc]
  | cons answer answers ih =>
    by_cases hlines : lines.length ≤ page
    · have hrun := run_writeLines_of_le hplain hpage hwritten hlines htotal
      exact ⟨_, _, _, .last hlines, by rw [hrun, ← hanswers]; rfl⟩
    · have hmore := Nat.lt_of_not_le hlines
      rw [run_writeLines_of_lt hplain hpage hwritten hmore htotal]
      cases harrives : answer.arrives with
      | false =>
        refine ⟨_, _, _, .unanswered hmore harrives, ?_⟩
        rw [@run_takeAnswer_missing (console.record _) answer answers hanswers harrives]
        simp only [leaving, record, List.append_assoc]
      | true =>
        have hdrop : written + page + (lines.drop page).length = total := by
          rw [List.length_drop]
          omega
        have hnext : (written + page) % page = 0 := by rw [Nat.add_mod_right, hwritten]
        obtain ⟨events, left, result, hrest, hrun⟩ :=
          @ih ({ console.record (lineEvents (lines.take page)) with answers }.record
            [.read console.continuePrompt answer.reply (countLines answers)])
            ⟨hplain.capacity, hplain.echo⟩ hpage _ hnext _ hdrop rfl
        refine ⟨_, _, _, .turn hmore harrives hrest, ?_⟩
        rw [@run_takeAnswer (console.record _) answer answers hanswers harrives]
        refine hrun.trans ?_
        simp only [record, List.append_assoc, List.singleton_append]

/-! ## The queue -/

/-- The queue is written in pages. -/
theorem run_flush_paged {console : Console} (hplain : console.Plain) {page : { n : Nat // 0 < n }}
    (hpage : console.pageLines = some page) :
    ∃ events left result,
      WritesPages page console.continuePrompt console.answers console.pending events left result ∧
        flush.run console =
          leaving ({ console with pending := [], answers := left }.record events) result :=
  @run_writeLines_paged { console with pending := [] }
    ⟨hplain.capacity, hplain.echo⟩ page hpage 0 _ (Nat.zero_mod page) console.pending
    (Nat.zero_add console.pending.length)

/-- Without pages all of the queue is written at once. -/
theorem run_flush_unpaged {console : Console} (hplain : console.Plain)
    (hpage : console.pageLines = none) :
    flush.run console =
      .ok () ({ console with pending := [] }.record (lineEvents console.pending)) := by
  have hfills : ∀ written, ({ console with pending := [] } : Console).fillsPage written = false := by
    intro written
    simp [fillsPage, hpage]
  have hempty : ({ console with pending := [] } : Console).Plain := ⟨hplain.capacity, hplain.echo⟩
  exact run_writeLines hempty fun count _ _ => Or.inl (hfills _)

/-! ## What is seen of it -/

/-- How often the output stops when so many lines are written: between any two pages. -/
def stops (page : Option { n : Nat // 0 < n }) (count : Nat) : Nat :=
  match page with
  | some page => count ⌈/⌉ page.val - 1
  | none => 0

theorem stops_of_le {page : { n : Nat // 0 < n }} {count : Nat} (h : count ≤ page) :
    stops (some page) count = 0 := by
  have hone : count ⌈/⌉ page.val ≤ 1 := by
    rw [ceilDiv_le_iff_le_mul page.property]
    omega
  show count ⌈/⌉ page.val - 1 = 0
  omega

theorem stops_of_lt {page : { n : Nat // 0 < n }} {count : Nat} (h : page < count) :
    stops (some page) count = stops (some page) (count - page) + 1 := by
  have hpos := page.property
  have hmore : count ⌈/⌉ page.val = (count - page) ⌈/⌉ page.val + 1 := by
    rw [Nat.ceilDiv_eq_add_pred_div, Nat.ceilDiv_eq_add_pred_div, ← Nat.add_div_right _ hpos]
    congr 1
    omega
  have hrest : 0 < (count - page) ⌈/⌉ page.val := by
    rw [Nat.ceilDiv_eq_add_pred_div]
    exact Nat.div_pos (by omega) hpos
  show count ⌈/⌉ page.val - 1 = (count - page) ⌈/⌉ page.val - 1 + 1
  omega

/-- The lines are those of some full pages and a last one, which is not empty unless there are no
lines. -/
structure Paginated (page : Nat) (lines : List String) (full : List (List String))
    (last : List String) : Prop where
  lines_eq : full.flatten ++ last = lines
  full_length : ∀ shown ∈ full, shown.length = page
  last_length : last.length ≤ page
  last_ne_nil : lines ≠ [] → last ≠ []

/-- When every page break is answered, all lines are written, each page in a stretch of its own. -/
theorem WritesPages.of_arrives {page : { n : Nat // 0 < n }} {prompt : String}
    {pauses left left' : List Answer} {lines : List String} {events : List ConsoleEvent}
    {result : Except Failure Unit}
    (h : WritesPages page prompt (pauses ++ left) lines events left' result)
    (harrive : ∀ answer ∈ pauses, answer.arrives = true)
    (hcount : pauses.length = stops (some page) lines.length) :
    left' = left ∧ result = .ok () ∧
      ∃ full last, Paginated page lines full last ∧ full.length = pauses.length ∧
        stretches events = (full ++ [last]).map Text.unlines ∧
        promptsIn events = List.replicate full.length prompt := by
  induction pauses generalizing lines events with
  | nil =>
    have hlast : lines.length ≤ page := by
      by_contra hmore
      rw [stops_of_lt (Nat.lt_of_not_le hmore)] at hcount
      cases hcount
    cases h with
    | last _ =>
      have hpages : Paginated page lines [] lines := ⟨rfl, by simp, hlast, id⟩
      exact ⟨rfl, rfl, [], lines, hpages, rfl, stretches_lineEvents lines, promptsIn_lineEvents lines⟩
    | turn hmore _ _ => omega
    | ended hmore => omega
    | unanswered hmore _ => omega
  | cons answer pauses ih =>
    have hmore : page < lines.length := by
      by_contra hlast
      rw [stops_of_le (Nat.le_of_not_lt hlast)] at hcount
      cases hcount
    cases h with
    | last hlast => omega
    | unanswered _ hmissing =>
      rw [harrive _ List.mem_cons_self] at hmissing
      cases hmissing
    | @turn _ _ _ _ events _ _ _ hrest =>
      have hpauses : pauses.length = stops (some page) (lines.drop page).length := by
        rw [stops_of_lt hmore, List.length_cons] at hcount
        rw [List.length_drop]
        omega
      obtain ⟨hleft, hresult, full, last, hpages, hlength, hstretches, hprompts⟩ :=
        ih hrest (fun other hother => harrive other (List.mem_cons_of_mem answer hother)) hpauses
      refine ⟨hleft, hresult, lines.take page :: full, last, ?_, ?_, ?_, ?_⟩
      · refine ⟨?_, ?_, hpages.last_length, fun _ => hpages.last_ne_nil ?_⟩
        · rw [List.flatten_cons, List.append_assoc, hpages.lines_eq, List.take_append_drop]
        · rw [List.forall_mem_cons, List.length_take]
          exact ⟨by omega, hpages.full_length⟩
        · exact List.ne_nil_of_length_pos (by rw [List.length_drop]; omega)
      · rw [List.length_cons, List.length_cons, hlength]
      · rw [stretches_lineEvents_read, hstretches]
        rfl
      · rw [promptsIn_append, promptsIn_lineEvents, List.length_cons, List.replicate_succ,
          ← hprompts]
        rfl

/-- How many lines can be read before the first answer that is none. -/
def arrivals (answers : List Answer) : Nat := (answers.takeWhile Answer.arrives).length

/-- Why no line can be read at the first answer that is none. -/
def missing (answers : List Answer) : Cause :=
  match answers.dropWhile Answer.arrives with
  | answer :: _ => answer.cause
  | [] => .inputClosed

/-- All lines are written if every page break is answered, and otherwise those up to the first page
break that is not. -/
theorem WritesPages.written {page : { n : Nat // 0 < n }} {prompt : String}
    {answers left : List Answer} {lines : List String} {events : List ConsoleEvent}
    {result : Except Failure Unit} (h : WritesPages page prompt answers lines events left result) :
    (stops (some page) lines.length ≤ arrivals answers →
      result = .ok () ∧ writtenIn events = Text.unlines lines) ∧
    (arrivals answers < stops (some page) lines.length →
      result = .error { cause := missing answers } ∧
        writtenIn events = Text.unlines (lines.take ((arrivals answers + 1) * page))) := by
  induction h with
  | @last answers lines hlines =>
    rw [stops_of_le hlines]
    exact ⟨fun _ => ⟨rfl, writtenIn_lineEvents lines⟩, fun hstops => absurd hstops (Nat.not_lt_zero _)⟩
  | @turn answer answers left lines events result hmore harrives _ ih =>
    have harrivals : arrivals (answer :: answers) = arrivals answers + 1 := by
      simp [arrivals, harrives]
    have hmissing : missing (answer :: answers) = missing answers := by
      simp [missing, harrives]
    have hevents : writtenIn (lineEvents (lines.take page) ++
        .read prompt answer.reply (countLines answers) :: events) =
          Text.unlines (lines.take page) ++ writtenIn events := by
      rw [writtenIn_append, writtenIn_lineEvents, writtenIn_read]
    rw [List.length_drop] at ih
    rw [stops_of_lt hmore, harrivals, hmissing, hevents]
    constructor
    · intro hstops
      obtain ⟨hresult, hwritten⟩ := ih.1 (by omega)
      rw [hwritten, ← Text.unlines_append, List.take_append_drop]
      exact ⟨hresult, rfl⟩
    · intro hstops
      obtain ⟨hresult, hwritten⟩ := ih.2 (by omega)
      have htake : (arrivals answers + 1 + 1) * page.val =
          page.val + (arrivals answers + 1) * page.val := by
        rw [Nat.succ_mul (arrivals answers + 1), Nat.add_comm]
      rw [hwritten, ← Text.unlines_append, htake, List.take_add]
      exact ⟨hresult, rfl⟩
  | @ended lines hmore =>
    rw [stops_of_lt hmore]
    refine ⟨fun hstops => absurd hstops (Nat.not_succ_le_zero _), fun _ => ⟨rfl, ?_⟩⟩
    rw [writtenIn_append, writtenIn_lineEvents, writtenIn_read, writtenIn_nil]
    simp [arrivals]
  | @unanswered answer left lines hmore hmissing =>
    have hfirst : missing (answer :: left) = answer.cause := by simp [missing, hmissing]
    rw [stops_of_lt hmore, hfirst]
    refine ⟨fun hstops => absurd hstops ?_, fun _ => ⟨rfl, ?_⟩⟩
    · simp [arrivals, hmissing]
    · rw [writtenIn_append, writtenIn_lineEvents, writtenIn_read, writtenIn_nil]
      simp [arrivals, hmissing]

end Console

end Muster
