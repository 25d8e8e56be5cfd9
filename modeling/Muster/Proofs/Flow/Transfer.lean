import Mathlib.Logic.Relation
import Muster.Flow.Script
import Muster.Proofs.Flow.Outcomes

/-!
# Handing over is a tail call

A flow that asks to be entered again, or that hands over to another flow, is done with: what becomes
of the call is what becomes of a call of the flow that is entered next. `transfers_are_tail_calls`
says so for chains of any length, and `Ends.exists_last` that a call which ends does so by the last
flow of its chain alone.
-/

namespace Muster.Flow

namespace Network

variable {φ C : Type} {net : Network φ C} {start next target : Entering φ C} {outcome : Outcome C}

/-- What is entered after a flow within the same call. -/
inductive Step (net : Network φ C) (start : Entering φ C) : Entering φ C → Prop where
  /-- The same flow is entered again, at the same point and with the same argument. -/
  | again {calls : List (Entering φ C × Outcome C)} {flow : φ} {context : C}
    (h : net.HandsBack net.Ends start calls (flow, context, .ok .again)) :
    Step net start { start with flow, context }
  /-- Another flow takes its place. -/
  | change {calls : List (Entering φ C × Outcome C)} {left flow : φ} {context : C} {entry : String}
    {arg : Option Value}
    (h : net.HandsBack net.Ends start calls (left, context, .ok (.change flow entry arg))) :
    Step net start { flow, entry, arg, context }

/-- What is entered in the course of a call, other than within the calls that entry points make. -/
def Transfers (net : Network φ C) : Entering φ C → Entering φ C → Prop :=
  Relation.ReflTransGen net.Step

/-- The flow that has been entered ends the call: the outcome is its value, or its failure with a
frame that names it. -/
inductive Settles (net : Network φ C) (last : Entering φ C) : Outcome C → Prop where
  | finish {calls : List (Entering φ C × Outcome C)} {flow : φ} {context : C} {value : Option Value}
    (h : net.HandsBack net.Ends last calls (flow, context, .ok (.finish value))) :
    Settles net last (context, .ok value)
  | fail {calls : List (Entering φ C × Outcome C)} {flow : φ} {context : C} {failure : Failure}
    (h : net.HandsBack net.Ends last calls (flow, context, .error failure)) :
    Settles net last (context, .error (failure.inFrame (frame (net.name flow) last.entry)))

theorem step_iff_sequel :
    net.Step start next ↔
      ∃ calls back, net.HandsBack net.Ends start calls back ∧ net.sequel start back = .enter next := by
  constructor
  · intro h
    cases h with
    | again h => exact ⟨_, _, h, rfl⟩
    | change h => exact ⟨_, _, h, rfl⟩
  · rintro ⟨calls, ⟨left, context, failure | signal⟩, hback, hsequel⟩
    · cases hsequel
    · cases signal with
      | again =>
        cases hsequel
        exact .again hback
      | change flow entry arg =>
        cases hsequel
        exact .change hback
      | finish value => cases hsequel

theorem settles_iff_sequel :
    net.Settles start outcome ↔
      ∃ calls back, net.HandsBack net.Ends start calls back ∧
        net.sequel start back = .leave outcome := by
  constructor
  · intro h
    cases h with
    | finish h => exact ⟨_, _, h, rfl⟩
    | fail h => exact ⟨_, _, h, rfl⟩
  · rintro ⟨calls, ⟨left, context, failure | signal⟩, hback, hsequel⟩
    · cases hsequel
      exact .fail hback
    · cases signal with
      | again => cases hsequel
      | change flow entry arg => cases hsequel
      | finish value =>
        cases hsequel
        exact .finish hback

theorem Settles.ends (h : net.Settles start outcome) : net.Ends start outcome := by
  obtain ⟨calls, back, hback, hsequel⟩ := settles_iff_sequel.1 h
  exact ends_iff.2 ⟨calls, back, hback, Or.inl hsequel⟩

/-- A call turns out as the call of what is entered next does. -/
theorem ends_iff_of_step (h : net.Step start next) :
    net.Ends start outcome ↔ net.Ends next outcome := by
  obtain ⟨calls, back, hback, hsequel⟩ := step_iff_sequel.1 h
  rw [ends_iff]
  constructor
  · rintro ⟨calls', back', hback', hsequel'⟩
    obtain ⟨-, rfl⟩ := handsBack_unique hback hback'
    rw [hsequel] at hsequel'
    rcases hsequel' with hleave | ⟨other, henter, hends⟩
    · cases hleave
    · cases henter
      exact hends
  · exact fun hends => ⟨calls, back, hback, Or.inr ⟨next, hsequel, hends⟩⟩

theorem ends_iff_of_transfers (h : net.Transfers start target) :
    net.Ends start outcome ↔ net.Ends target outcome := by
  induction h with
  | refl => exact Iff.rfl
  | tail _ hstep ih => exact ih.trans (ends_iff_of_step hstep)

/-- A call that ends does so by the last flow that is entered. -/
theorem Ends.exists_last (h : net.Ends start outcome) :
    ∃ last, net.Transfers start last ∧ net.Settles last outcome := by
  obtain ⟨limit, h⟩ := h
  induction limit generalizing start with
  | zero => cases h
  | succ limit ih =>
    obtain ⟨calls, back, hwithin, -, hsequel⟩ := endsWithin_succ_iff.1 h
    have hback := hwithin.of_within
    rcases hsequel with hsequel | ⟨next, hsequel, hnext⟩
    · exact ⟨start, .refl, settles_iff_sequel.2 ⟨calls, back, hback, hsequel⟩⟩
    · obtain ⟨last, hchain, hsettles⟩ := ih hnext
      exact ⟨last, .head (step_iff_sequel.2 ⟨calls, back, hback, hsequel⟩) hchain, hsettles⟩

/-- A run that nobody called succeeds when its flow ends without a value. -/
theorem run_ok_iff {flow : φ} {entry : String} {context left : C} :
    (∃ limit, net.run limit flow entry context = some (left, .ok ())) ↔
      net.Ends { flow, entry, arg := none, context } (left, .ok none) := by
  refine exists_congr fun limit => ?_
  unfold run EndsWithin
  cases net.call limit flow entry none context with
  | none => simp
  | some outcome =>
    obtain ⟨last, failure | value⟩ := outcome
    · simp [Except.bind, bind]
    · cases value with
      | none => simp [outermost, bind, Except.bind]
      | some value => simp [outermost, bind, Except.bind, fail]

/-- Wherever a chain of flows that are entered again and flows that hand over to each other has led,
the call turns out as a call from there does: both run forever, or both have the same outcome and no
other one. It is settled by a flow that comes later in the chain, and a run that nobody called
succeeds exactly when that outcome is an end without a value. -/
theorem transfers_are_tail_calls (net : Network φ C) {start target : Entering φ C}
    (h : net.Transfers start target) :
    (net.RunsForever start ∧ net.RunsForever target ∨
        ∃ outcome, (∀ other, net.Ends start other ↔ other = outcome) ∧
          ∀ other, net.Ends target other ↔ other = outcome) ∧
      (∀ outcome, net.Ends start outcome →
        ∃ last, net.Transfers target last ∧ net.Settles last outcome) ∧
      (start.arg = none → ∀ left,
        (∃ limit, net.run limit start.flow start.entry start.context = some (left, .ok ())) ↔
          net.Ends target (left, .ok none)) := by
  have hsame : ∀ outcome, net.Ends start outcome ↔ net.Ends target outcome :=
    fun outcome => ends_iff_of_transfers h
  refine ⟨?_, fun outcome hends => ((hsame outcome).1 hends).exists_last, fun harg left => ?_⟩
  · by_cases hends : ∃ outcome, net.Ends start outcome
    · obtain ⟨outcome, hstart⟩ := hends
      have hall : ∀ other, net.Ends start other ↔ other = outcome := by
        refine fun other => ⟨fun hother => hother.unique hstart, ?_⟩
        rintro rfl
        exact hstart
      exact Or.inr ⟨outcome, hall, fun other => (hsame other).symm.trans (hall other)⟩
    · have hnone : ∀ outcome, ¬ net.Ends start outcome := not_exists.1 hends
      refine Or.inl ⟨runsForever_iff.2 hnone, runsForever_iff.2 fun outcome hother => ?_⟩
      exact hnone outcome ((hsame outcome).2 hother)
  · rw [run_ok_iff, ← harg]
    exact hsame _

end Network

/-- A runner who runs two legs and hands over to another one. -/
def relay : Cast where
  entries := [
    ("first", [("run", {
      takesArg := false
      steps := [.add 1, .againIfBelow 2, .change "second" "run" .counter] })]),
    ("second", [("run", { takesArg := true, steps := [.logArg, .finish (.given none)] })])]

/-- The second runner's run is all that matters to whoever has sent the first one. -/
theorem relay_is_tail_call :
    let start : Entering Performer Board := ⟨{ flow := "first" }, "run", none, { entriesLeft := 9 }⟩
    let target : Entering Performer Board :=
      ⟨{ flow := "second" }, "run", some (.int 2), { entriesLeft := 7 }⟩
    relay.network.Transfers start target ∧
      (∃ outcome, (∀ other, relay.network.Ends start other ↔ other = outcome) ∧
        ∀ other, relay.network.Ends target other ↔ other = outcome) ∧
      ∃ limit, relay.network.run limit start.flow start.entry start.context =
        some ({ log := ["arg=2"], entriesLeft := 6 }, .ok ()) := by
  intro start target
  have hagain : relay.network.Step start
      ⟨{ flow := "first", counter := 1 }, "run", none, { entriesLeft := 8 }⟩ :=
    .again (.done rfl)
  have hchange : relay.network.Step
      ⟨{ flow := "first", counter := 1 }, "run", none, { entriesLeft := 8 }⟩ target :=
    .change (.done rfl)
  have hchain : relay.network.Transfers start target :=
    Relation.ReflTransGen.head hagain (.single hchange)
  have htarget : relay.network.Ends target ({ log := ["arg=2"], entriesLeft := 6 }, .ok none) :=
    ⟨1, rfl⟩
  obtain ⟨hforever | hsame, -, hrun⟩ := relay.network.transfers_are_tail_calls hchain
  · exact absurd htarget (Network.runsForever_iff.1 hforever.2 _)
  · exact ⟨hchain, hsame, (hrun rfl _).2 htarget⟩

end Muster.Flow
