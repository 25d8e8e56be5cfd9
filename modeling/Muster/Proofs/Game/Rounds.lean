import Muster.Proofs.Game.Contract

/-!
# Rounds of a conversation

A conversation is a sequence of rounds, in each of which a question is answered and the answer is
responded to (`Play.Unfolds`). This relation does not bound the number of rounds. Main statements:
every conversation unfolds in no more rounds than there are answers (`converse_unfolds`); and what
one round passes on to the next holds in all of them (`Unfolds.forall_rounds`).
-/

namespace Muster.Play

variable {α σ : Type}

/-- A question that is answered, and the response. -/
structure Round (σ α : Type) where
  state : σ
  /-- The session before the question. -/
  asked : Session
  line : String
  /-- The session when the line has been read. -/
  heard : Session
  /-- What comes of the response. -/
  outcome : Outcome (Turn σ α)

section

variable (question : Play String) (respond : σ → String → Play (Turn σ α)) (data : GameData)

/-- The round happens when the question is asked. -/
structure Round.Happens (round : Round σ α) : Prop where
  question : question.run data round.asked = .ok round.line round.heard
  response : (respond round.state round.line).run data round.heard = round.outcome

/-- A conversation goes through rounds until the question or the response fails, or the response
leaves it. -/
inductive Unfolds : σ → Session → List (Round σ α) → Outcome α → Prop
  | unanswered {state : σ} {session last : Session} {failure : Failure}
    (h : question.run data session = .error failure last) :
    Unfolds state session [] (.error failure last)
  | failed {round : Round σ α} {failure : Failure} {last : Session}
    (h : round.Happens question respond data) (houtcome : round.outcome = .error failure last) :
    Unfolds round.state round.asked [round] (.error failure last)
  | left {round : Round σ α} {value : α} {last : Session}
    (h : round.Happens question respond data) (houtcome : round.outcome = .ok (.leave value) last) :
    Unfolds round.state round.asked [round] (.ok value last)
  | again {round : Round σ α} {following : σ} {next : Session} {rounds : List (Round σ α)}
    {outcome : Outcome α} (h : round.Happens question respond data)
    (houtcome : round.outcome = .ok (.again following) next)
    (hrest : Unfolds following next rounds outcome) :
    Unfolds round.state round.asked (round :: rounds) outcome

end

variable {question : Play String} {respond : σ → String → Play (Turn σ α)} {data : GameData}

/-- A conversation unfolds in as many rounds as there are answers, or fewer: each of them takes
one. -/
theorem converse_unfolds (hquestion : Reads question) (state : σ) (session : Session) :
    ∃ rounds : List (Round σ α), rounds.length ≤ session.unread ∧
      Unfolds question respond data state session rounds
        ((converse question hquestion respond state).run data session) := by
  have hfrom : ∀ bound state session hbound, ∃ rounds : List (Round σ α),
      rounds.length ≤ session.unread ∧ Unfolds question respond data state session rounds
        (converseFrom question hquestion respond data bound state session hbound) := by
    intro bound
    induction bound with
    | zero => intro state session hbound; omega
    | succ bound ih =>
      intro state session hbound
      unfold converseFrom
      split
      · next failure next hline => exact ⟨[], Nat.zero_le _, .unanswered hline⟩
      · next line heard hline =>
        have hread := hquestion data session line heard hline
        have hone : 1 ≤ session.unread := by omega
        have hround := (respond state line).unread_le data heard
        split
        · next failure last hturn =>
          have hhappens : Round.Happens question respond data
              ⟨state, session, line, heard, .error failure last⟩ := ⟨hline, hturn⟩
          exact ⟨[_], hone, .failed hhappens rfl⟩
        · next value last hturn =>
          have hhappens : Round.Happens question respond data
              ⟨state, session, line, heard, .ok (.leave value) last⟩ := ⟨hline, hturn⟩
          exact ⟨[_], hone, .left hhappens rfl⟩
        · next following last hturn =>
          have hhappens : Round.Happens question respond data
              ⟨state, session, line, heard, .ok (.again following) last⟩ := ⟨hline, hturn⟩
          rw [hturn] at hround
          have hleft : last.unread ≤ heard.unread := hround
          obtain ⟨rounds, hlength, hrounds⟩ := ih following last (by omega)
          refine ⟨_ :: rounds, ?_, .again hhappens rfl hrounds⟩
          rw [List.length_cons]
          omega
  exact hfrom _ state session _

/-- What every round passes on to the next, and what follows from it for a round, holds of all
rounds: by induction on how the conversation unfolds. -/
theorem Unfolds.forall_rounds (inv : Session → Prop) {p : Round σ α → Prop}
    (hround : ∀ round : Round σ α, round.Happens question respond data → inv round.asked →
      p round ∧ ∀ following next, round.outcome = .ok (.again following) next → inv next)
    {state : σ} {session : Session} {rounds : List (Round σ α)} {outcome : Outcome α}
    (h : Unfolds question respond data state session rounds outcome) (hinv : inv session) :
    ∀ round ∈ rounds, p round := by
  induction h with
  | unanswered _ =>
    intro round hmem
    cases hmem
  | failed h _ =>
    intro round hmem
    rw [List.mem_singleton] at hmem
    rw [hmem]
    exact (hround _ h hinv).1
  | left h _ =>
    intro round hmem
    rw [List.mem_singleton] at hmem
    rw [hmem]
    exact (hround _ h hinv).1
  | again h houtcome _ ih =>
    obtain ⟨hp, hnext⟩ := hround _ h hinv
    intro round hmem
    rcases List.mem_cons.1 hmem with rfl | hmem
    · exact hp
    · exact ih (hnext _ _ houtcome) round hmem

/-- A conversation ends as its last round does, or with a question that is not answered. -/
theorem Unfolds.last_round (rel : Session → Session → Prop) (hrefl : ∀ session, rel session session)
    (hquestion : ∀ session failure last, question.run data session = .error failure last →
      rel session last)
    {state : σ} {session : Session} {rounds : List (Round σ α)} {outcome : Outcome α}
    (h : Unfolds question respond data state session rounds outcome) :
    rel (rounds.getLast?.elim session (·.outcome.session)) outcome.session := by
  induction h with
  | unanswered h => exact hquestion _ _ _ h
  | failed _ houtcome =>
    rw [List.getLast?_singleton, Option.elim_some, houtcome]
    exact hrefl _
  | left _ houtcome =>
    rw [List.getLast?_singleton, Option.elim_some, houtcome]
    exact hrefl _
  | @again round _ _ rounds _ _ houtcome _ ih =>
    cases rounds with
    | nil =>
      rw [List.getLast?_singleton, Option.elim_some, houtcome]
      exact ih
    | cons other rounds =>
      rw [List.getLast?_cons_cons]
      exact ih

/-- A conversation that is left is left in its last round. -/
theorem Unfolds.exists_left {state : σ} {session : Session} {rounds : List (Round σ α)} {value : α}
    {last : Session} (h : Unfolds question respond data state session rounds (.ok value last)) :
    ∃ earlier round, rounds = earlier ++ [round] ∧ round.Happens question respond data ∧
      round.outcome = .ok (.leave value) last := by
  generalize hended : (EStateM.Result.ok value last : Outcome α) = outcome at h
  induction h with
  | unanswered _ => cases hended
  | failed _ _ => cases hended
  | @left round _ _ h houtcome =>
    cases hended
    exact ⟨[], round, rfl, h, houtcome⟩
  | @again first _ _ _ _ _ _ _ ih =>
    obtain ⟨earlier, round, hrounds, h, houtcome⟩ := ih hended
    exact ⟨first :: earlier, round, by rw [hrounds, List.cons_append], h, houtcome⟩

end Muster.Play
