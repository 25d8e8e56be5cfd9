import Muster.Proofs.Flow.Transfer

/-!
# Frames mirror calls

When a call fails, its failure has been raised somewhere: by the flow that the call has come to, or
within a call which that flow has made and whose failure it passes on (`FailsAt`). The frames of the
failure are those with which it was raised and one more for each of these calls, innermost first. Each
of them names the flow and the entry point that the call had come to by then, and not those that it
was started with.
-/

namespace Muster

namespace Failure

/-- Where the failure comes from, if it says so. -/
def source? (failure : Failure) : Option String := (failure.trace.getD {}).source

/-- Records frames, each of them outside those before it. -/
def inFrames (failure : Failure) (frames : List String) : Failure := frames.foldl inFrame failure

variable (failure : Failure) (frames : List String)

theorem inFrames_append_singleton (frame : String) :
    failure.inFrames (frames ++ [frame]) = (failure.inFrames frames).inFrame frame :=
  List.foldl_append

theorem cause_inFrames : (failure.inFrames frames).cause = failure.cause := by
  induction frames generalizing failure with
  | nil => rfl
  | cons frame frames ih => exact ih (failure.inFrame frame)

theorem source?_inFrames : (failure.inFrames frames).source? = failure.source? := by
  induction frames generalizing failure with
  | nil => rfl
  | cons frame frames ih => exact ih (failure.inFrame frame)

theorem frames_inFrames : (failure.inFrames frames).frames = failure.frames ++ frames := by
  induction frames generalizing failure with
  | nil => exact (List.append_nil failure.frames).symm
  | cons frame frames ih =>
    refine (ih (failure.inFrame frame)).trans ?_
    rw [frames_inFrame, List.append_assoc, List.singleton_append]

end Failure

namespace Flow

namespace Network

variable {φ C : Type} {net : Network φ C} {start next : Entering φ C} {origin failure : Failure}
  {stack : List (φ × String)} {left : C}

/-- The frame of a flow and an entry point. -/
def frameOf (net : Network φ C) (active : φ × String) : String :=
  frame (net.name active.1) active.2

/-- A call fails with a failure that was raised within it. The stack has the flows and entry points
which the calls that were in progress had come to, innermost first. -/
inductive FailsAt (net : Network φ C) : Entering φ C → Failure → List (φ × String) → Prop where
  /-- The flow that the call has come to fails, and not with the failure of a call it has made. -/
  | raised {start last : Entering φ C} {calls : List (Entering φ C × Outcome C)} {flow : φ}
    {context : C} {failure : Failure} (hchain : net.Transfers start last)
    (hback : net.HandsBack net.Ends last calls (flow, context, .error failure))
    (hown : ∀ call ∈ calls, call.2.2 ≠ .error failure) :
    FailsAt net start failure [(flow, last.entry)]
  /-- The flow that the call has come to passes on the failure of a call that it has made. -/
  | passed {start last inner : Entering φ C} {calls : List (Entering φ C × Outcome C)} {flow : φ}
    {context left : C} {failure origin : Failure} {stack : List (φ × String)}
    (hchain : net.Transfers start last)
    (hback : net.HandsBack net.Ends last calls (flow, context, .error failure))
    (hmem : (inner, (left, .error failure)) ∈ calls) (hinner : FailsAt net inner origin stack) :
    FailsAt net start origin (stack ++ [(flow, last.entry)])

theorem FailsAt.of_step (hstep : net.Step start next) (h : net.FailsAt next origin stack) :
    net.FailsAt start origin stack := by
  cases h with
  | raised hchain hback hown => exact .raised (.head hstep hchain) hback hown
  | passed hchain hback hmem hinner => exact .passed (.head hstep hchain) hback hmem hinner

/-- A failure that leaves a call has been raised within it, and has a frame for each call that was in
progress. -/
theorem Ends.exists_failsAt (h : net.Ends start (left, .error failure)) :
    ∃ origin stack, net.FailsAt start origin stack ∧
      failure = origin.inFrames (stack.map net.frameOf) := by
  obtain ⟨limit, h⟩ := h
  -- the calls that are made, and what is entered next, end within a lower limit
  induction limit generalizing start left failure with
  | zero => cases h
  | succ limit ih =>
    obtain ⟨calls, back, hwithin, -, hsequel⟩ := endsWithin_succ_iff.1 h
    have hback := hwithin.of_within
    rcases hsequel with hsequel | ⟨next, hsequel, hnext⟩
    · obtain ⟨flow, context, own | signal⟩ := back
      · cases hsequel
        by_cases hpassed : ∃ call ∈ calls, call.2.2 = .error own
        · obtain ⟨⟨inner, last, -⟩, hmem, rfl⟩ := hpassed
          obtain ⟨origin, stack, hinner, hown⟩ := ih (hwithin.ends_of_mem hmem)
          refine ⟨origin, stack ++ [(flow, start.entry)], .passed .refl hback hmem hinner, ?_⟩
          rw [List.map_append, List.map_singleton, Failure.inFrames_append_singleton, ← hown]
          rfl
        · refine ⟨own, [(flow, start.entry)], .raised .refl hback fun call hcall heq => ?_, rfl⟩
          exact hpassed ⟨call, hcall, heq⟩
      · cases signal <;> cases hsequel
    · obtain ⟨origin, stack, hnext, hframes⟩ := ih hnext
      exact ⟨origin, stack, hnext.of_step (step_iff_sequel.2 ⟨calls, back, hback, hsequel⟩), hframes⟩

/-- The calls that were in progress all fail, and with these frames. -/
theorem FailsAt.ends (h : net.FailsAt start origin stack) :
    ∃ left, net.Ends start (left, .error (origin.inFrames (stack.map net.frameOf))) := by
  induction h with
  | @raised start last calls flow context failure hchain hback hown =>
    exact ⟨context, (ends_iff_of_transfers hchain).2 (Settles.fail hback).ends⟩
  | @passed start last inner calls flow context left failure origin stack hchain hback hmem _ ih =>
    obtain ⟨left', hinner⟩ := ih
    have heq := (Routine.HandsBack.ends_of_mem hback hmem).unique hinner
    cases heq
    rw [List.map_append, List.map_singleton, Failure.inFrames_append_singleton]
    exact ⟨context, (ends_iff_of_transfers hchain).2 (Settles.fail hback).ends⟩

end Network

/-! ## Entry points that do not fit -/

namespace EntryTable

/-- Why an entry point cannot be entered with an argument, or without one. -/
inductive Misfits {R : Type} (table : EntryTable R) (entry : String) (arg : Option Value) :
    Cause → Prop where
  | unknown (h : table.get? entry = none) : Misfits table entry arg (.unknownEntry table.flow entry)
  | arity {point : EntryPoint R} (h : table.get? entry = some point)
    (hcount : point.arity ≠ arg.toList.length) :
    Misfits table entry arg (.entryArity table.flow entry point.arity arg.toList.length)

theorem invoke_of_misfits {R : Type} {table : EntryTable R} {entry : String} {arg : Option Value}
    {cause : Cause} (h : table.Misfits entry arg cause) :
    table.invoke entry arg = .error { cause } := by
  unfold invoke
  cases h with
  | unknown h =>
    rw [h]
    rfl
  | @arity point h hcount =>
    rw [h]
    cases point with
    | nullary body =>
      cases arg with
      | none => exact absurd rfl hcount
      | some value => rfl
    | unary body =>
      cases arg with
      | none => rfl
      | some value => exact absurd rfl hcount

end EntryTable

namespace Network

variable {φ C : Type}

/-- Every failure that leaves a call has the cause and the source with which it was raised, and one
frame more for each call that was in progress then, innermost first, for the flow and entry point
that this call had come to. An entry point that does not exist or does not fit is reported in the
same way: nothing is called, and flow and context are as they were. -/
theorem failures_mirror_calls (net : Network φ C) :
    (∀ start left failure, net.Ends start (left, .error failure) →
      ∃ origin stack, net.FailsAt start origin stack ∧ failure.cause = origin.cause ∧
        failure.source? = origin.source? ∧
        failure.frames = origin.frames ++ stack.map net.frameOf) ∧
      ∀ start last (table : EntryTable (φ → C → Routine φ C)) cause, net.Transfers start last →
        net.enter last.flow last.entry last.arg last.context =
          table.enter last.flow last.entry last.arg last.context →
        table.Misfits last.entry last.arg cause →
        (∀ calls back, net.HandsBack net.Ends last calls back ↔
            calls = [] ∧ back = (last.flow, last.context, .error { cause })) ∧
          net.FailsAt start { cause } [(last.flow, last.entry)] ∧
          net.Ends start (last.context,
            .error (({ cause } : Failure).inFrame (net.frameOf (last.flow, last.entry)))) := by
  constructor
  · intro start left failure hends
    obtain ⟨origin, stack, hfails, rfl⟩ := hends.exists_failsAt
    exact ⟨origin, stack, hfails, Failure.cause_inFrames _ _, Failure.source?_inFrames _ _,
      Failure.frames_inFrames _ _⟩
  · intro start last table cause hchain henter hmisfits
    have hdone : net.enter last.flow last.entry last.arg last.context =
        .done last.flow last.context (.error { cause }) := by
      rw [henter, EntryTable.enter, EntryTable.invoke_of_misfits hmisfits]
    have hback : net.HandsBack net.Ends last [] (last.flow, last.context, .error { cause }) := by
      unfold HandsBack
      rw [hdone]
      exact .done rfl
    refine ⟨fun calls back => ⟨fun hother => handsBack_unique hother hback, ?_⟩,
      .raised hchain hback (by simp), (ends_iff_of_transfers hchain).2 (Settles.fail hback).ends⟩
    rintro ⟨rfl, rfl⟩
    exact hback

end Network

/-- Calls a flow and hands back what comes of it. -/
private def passing (flow : String) (entry : String) (arg : Option Value) (self : String)
    (days : Nat) : Routine String Nat :=
  .call flow entry arg days fun days outcome => .done self days (outcome.map .finish)

/-- A company sends out a party, which lets a guide lead, and the guide goes for the peak. The days
are counted. -/
def stations (flow : String) : EntryTable (String → Nat → Routine String Nat) where
  flow := flow
  entries := match flow with
    | "company" => [("start", .nullary (passing "party" "set out" none))]
    | "party" => [("set out",
        .nullary fun self days => .done self (days + 1) (.ok (.change "guide" "climb" none)))]
    | "guide" => [("climb", .nullary (passing "peak" "summit" (some (.int 1))))]
    | "peak" => [("summit", .nullary fun self days => .done self days (.ok (.finish none)))]
    | _ => []

/-- The network of the stations; each of them is called by its name. -/
def expedition : Network String Nat where
  name flow := flow
  enter flow := (stations flow).enter flow

/-- The peak takes no argument. The guide is named in the failure, and not the party. -/
theorem expedition_frames :
    let start : Entering String Nat := ⟨"company", "start", none, 0⟩
    let peak : Entering String Nat := ⟨"peak", "summit", some (.int 1), 1⟩
    let failure : Failure := {
      cause := .entryArity "peak" "summit" 0 1
      trace := some { frames := ["peak/summit", "guide/climb", "company/start"] } }
    expedition.Ends start (1, .error failure) ∧
      (∃ origin stack, expedition.FailsAt start origin stack ∧ failure.cause = origin.cause ∧
        failure.frames = origin.frames ++ stack.map expedition.frameOf) ∧
      expedition.FailsAt peak { cause := failure.cause } [("peak", "summit")] := by
  intro start peak failure
  have hends : expedition.Ends start (1, .error failure) := ⟨4, rfl⟩
  have hsummit : (stations "peak").get? "summit" =
      some (.nullary fun self days => .done self days (.ok (.finish none))) := rfl
  have hmisfits : (stations "peak").Misfits "summit" (some (.int 1)) failure.cause :=
    .arity hsummit Nat.zero_ne_one
  obtain ⟨hframes, hentry⟩ := expedition.failures_mirror_calls
  obtain ⟨origin, stack, hfails, hcause, -, hstack⟩ := hframes start 1 failure hends
  obtain ⟨-, hpeak, -⟩ := hentry peak peak (stations "peak") failure.cause .refl rfl hmisfits
  exact ⟨hends, ⟨origin, stack, hfails, hcause, hstack⟩, hpeak⟩

end Flow

end Muster
