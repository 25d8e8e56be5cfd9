import Muster.Proofs.Game.Stages

/-!
# The stages that a game visits

A game enters one stage after the other; each of them hands over to the next until one of them ends
the game or fails (`Visits`). This relation does not bound the number of stages. Main statements:
every game goes through visits (`exists_visits`), and what each visit passes on to the next, given
the visits before, holds of all of them (`Visits.forall_visits`).
-/

namespace Muster.Game

open Muster.Flow Play

variable {data : GameData}

/-- A stage that is entered, and what comes of it. -/
structure Visit where
  stage : Stage
  entry : String
  arg : Option Value
  /-- The session when the stage is entered. -/
  entered : Session
  outcome : Outcome (Signal Stage)

/-- The visit happens when the stage is entered. -/
def Visit.Happens (data : GameData) (visit : Visit) : Prop :=
  (visit.stage.enter visit.entry visit.arg).run data visit.entered = visit.outcome

/-- A game goes from visit to visit until one of them fails or ends the game. -/
inductive Visits (data : GameData) :
    Stage → String → Option Value → Session → List Visit → Outcome (Option Value) → Prop
  | failed {visit : Visit} {failure : Failure} {last : Session} (h : visit.Happens data)
    (houtcome : visit.outcome = .error failure last) :
    Visits data visit.stage visit.entry visit.arg visit.entered [visit]
      (.error (failure.inFrame (frame visit.stage.name visit.entry)) last)
  | finished {visit : Visit} {value : Option Value} {last : Session} (h : visit.Happens data)
    (houtcome : visit.outcome = .ok (.finish value) last) :
    Visits data visit.stage visit.entry visit.arg visit.entered [visit] (.ok value last)
  | again {visit : Visit} {last : Session} {visits : List Visit} {outcome : Outcome (Option Value)}
    (h : visit.Happens data) (houtcome : visit.outcome = .ok .again last)
    (hrest : Visits data visit.stage visit.entry visit.arg last visits outcome) :
    Visits data visit.stage visit.entry visit.arg visit.entered (visit :: visits) outcome
  | change {visit : Visit} {next : Stage} {nextEntry : String} {nextArg : Option Value}
    {last : Session} {visits : List Visit} {outcome : Outcome (Option Value)}
    (h : visit.Happens data) (houtcome : visit.outcome = .ok (.change next nextEntry nextArg) last)
    (hrest : Visits data next nextEntry nextArg last visits outcome) :
    Visits data visit.stage visit.entry visit.arg visit.entered (visit :: visits) outcome

/-- A stage that is run goes through visits, together with those that follow it. -/
theorem exists_visits (data : GameData) (bound : Nat) (stage : Stage) (entry : String)
    (arg : Option Value) (session : Session) (h : stage.turnsLeft session < bound) :
    ∃ visits, Visits data stage entry arg session visits
      (Stage.callFrom data bound stage entry arg session h) := by
  induction bound generalizing stage entry arg session with
  | zero => omega
  | succ bound ih =>
    have hvisit : Visit.Happens data
        ⟨stage, entry, arg, session, (stage.enter entry arg).run data session⟩ := rfl
    unfold Stage.callFrom
    split
    · next failure last hrun => exact ⟨_, .failed hvisit hrun⟩
    · next value last hrun => exact ⟨_, .finished hvisit hrun⟩
    · next last hrun =>
      obtain ⟨visits, hvisits⟩ := ih stage entry arg last _
      exact ⟨_, .again hvisit hrun hvisits⟩
    · next next nextEntry nextArg last hrun =>
      obtain ⟨visits, hvisits⟩ := ih next nextEntry nextArg last _
      exact ⟨_, .change hvisit hrun hvisits⟩

/-- A session begins without a party, and nothing has been asked yet. -/
theorem start_fresh (data : GameData) (console : Console) :
    (Session.start data console).party = none ∧ (Session.start data console).moments = [] := by
  unfold Session.start
  split
  · exact ⟨rfl, rfl⟩
  · exact ⟨rfl, rfl⟩

/-- Whoever plays the game goes through visits, from the start on, and the game is over as the last
of them leaves it. -/
theorem exists_visits_play (data : GameData) (session : Session) :
    ∃ visits outcome, Visits data .startup "start" none session visits outcome ∧
      (play.run data session).session = outcome.session := by
  obtain ⟨visits, hvisits⟩ := exists_visits data _ .startup "start" none session (Nat.lt_succ_self _)
  refine ⟨visits, _, hvisits, ?_⟩
  show (Play.run (Stage.startup.call "start" none >>= fun value =>
    ofExcept (outermost StageName.startup value)) data session).session =
      ((Stage.startup.call "start" none).run data session).session
  rw [run_bind]
  cases (Stage.startup.call "start" none).run data session with
  | error failure last => rfl
  | ok value last => cases value <;> rfl

/-- Stages are entered where they may be. -/
theorem Visit.Happens.leads {visit : Visit} (h : visit.Happens data)
    (hawaits : Awaits visit.stage visit.entry visit.arg) {signal : Signal Stage} {last : Session}
    (houtcome : visit.outcome = .ok signal last) : Leads signal := by
  rw [Visit.Happens, houtcome] at h
  exact leads_enter hawaits _ _ _ h

/-- What every visit passes on to the next, given the visits before, and what follows from it for a
visit, holds of all visits: by induction on how the game goes on. -/
theorem Visits.forall_visits (inv : List Visit → Stage → Session → Prop)
    (p : List Visit → Visit → Prop)
    (hvisit : ∀ (before : List Visit) (visit : Visit), visit.Happens data →
      Awaits visit.stage visit.entry visit.arg →
      inv before visit.stage visit.entered →
      p before visit ∧ ∀ next entry arg last, visit.outcome = .ok (.change next entry arg) last →
        inv (before ++ [visit]) next last)
    {stage : Stage} {entry : String} {arg : Option Value} {session : Session} {visits : List Visit}
    {outcome : Outcome (Option Value)} (h : Visits data stage entry arg session visits outcome)
    (hawaits : Awaits stage entry arg) (earlier : List Visit)
    (hinv : inv earlier stage session) :
    ∀ before visit after, visits = before ++ visit :: after → p (earlier ++ before) visit := by
  -- a visit is the first one, or comes after it
  have hcons : ∀ {first : Visit} {others earlier : List Visit}, p earlier first →
      (∀ before visit after, others = before ++ visit :: after →
        p (earlier ++ [first] ++ before) visit) →
      ∀ before visit after, first :: others = before ++ visit :: after →
        p (earlier ++ before) visit := by
    intro first others earlier hfirst hothers before visit after heq
    cases before with
    | nil =>
      obtain ⟨rfl, _⟩ := List.cons.inj heq
      rw [List.append_nil]
      exact hfirst
    | cons _ before =>
      obtain ⟨rfl, hrest⟩ := List.cons.inj heq
      have hp := hothers before visit after hrest
      rw [List.append_assoc] at hp
      exact hp
  have hnone : ∀ {earlier : List Visit} (before : List Visit) (visit : Visit) (after : List Visit),
      [] = before ++ visit :: after → p (earlier ++ before) visit := by
    intro earlier before visit after heq
    cases before <;> cases heq
  induction h generalizing earlier with
  | failed h _ => exact hcons (hvisit _ _ h hawaits hinv).1 hnone
  | finished h _ => exact hcons (hvisit _ _ h hawaits hinv).1 hnone
  | again h houtcome _ _ => exact (h.leads hawaits houtcome).elim
  | change h houtcome _ ih =>
    obtain ⟨hp, hnext⟩ := hvisit _ _ h hawaits hinv
    exact hcons hp (ih (h.leads hawaits houtcome) _ (hnext _ _ _ _ houtcome))

/-- A game is over as its last visit leaves it. -/
theorem Visits.exists_last {stage : Stage} {entry : String} {arg : Option Value} {session : Session}
    {visits : List Visit} {outcome : Outcome (Option Value)}
    (h : Visits data stage entry arg session visits outcome) :
    ∃ before visit, visits = before ++ [visit] ∧ outcome.session = visit.outcome.session := by
  induction h with
  | @failed visit _ _ _ houtcome => exact ⟨[], visit, rfl, by rw [houtcome]; rfl⟩
  | @finished visit _ _ _ houtcome => exact ⟨[], visit, rfl, by rw [houtcome]; rfl⟩
  | @again first _ _ _ _ _ _ ih =>
    obtain ⟨before, visit, rfl, hlast⟩ := ih
    exact ⟨first :: before, visit, rfl, hlast⟩
  | @change first _ _ _ _ _ _ _ _ _ ih =>
    obtain ⟨before, visit, rfl, hlast⟩ := ih
    exact ⟨first :: before, visit, rfl, hlast⟩

end Muster.Game
