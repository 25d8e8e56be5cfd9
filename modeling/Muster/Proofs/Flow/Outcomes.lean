import Muster.Flow.Network

/-!
# How calls turn out

Here a call is looked at without its limit. What an entry point hands back depends on how the calls
that it makes turn out (`Routine.HandsBack`), and what it hands back says whether a flow is entered
next or the call is left (`Network.sequel`). A call ends in some way when it does within some limit
(`Ends`). A higher limit does not change that (`EndsWithin.mono`), so a call ends in one way at most
(`Ends.unique`).
-/

namespace Muster.Flow

variable {φ C : Type}

/-- A flow that is about to be entered. -/
structure Entering (φ C : Type) where
  flow : φ
  entry : String
  arg : Option Value
  context : C

/-- What an entry point hands back: the flow in its new state, the context, and a signal or a
failure. -/
abbrev Handed (φ C : Type) := φ × C × Except Failure (Signal φ)

/-! ## Routines -/

namespace Routine

/-- The calls that a routine makes and what it hands back in the end, given how calls turn out. -/
inductive HandsBack (ends : Entering φ C → Outcome C → Prop) :
    Routine φ C → List (Entering φ C × Outcome C) → Handed φ C → Prop where
  | done {routine : Routine φ C} {flow : φ} {context : C} {result : Except Failure (Signal φ)}
    (h : routine.next [] = some (.done flow context result)) :
    HandsBack ends routine [] (flow, context, result)
  | call {routine : Routine φ C} {inner : Entering φ C} {outcome : Outcome C}
    {calls : List (Entering φ C × Outcome C)} {back : Handed φ C}
    (h : routine.next [] = some (.call inner.flow inner.entry inner.arg inner.context))
    (hends : ends inner outcome) (hlater : HandsBack ends (routine.after outcome) calls back) :
    HandsBack ends routine ((inner, outcome) :: calls) back

variable {ends ends' : Entering φ C → Outcome C → Prop} {routine : Routine φ C}
  {calls calls' : List (Entering φ C × Outcome C)} {back back' : Handed φ C}

/-- A routine is carried out within a limit when it makes fewer calls. -/
theorem perform_eq_some_iff {call : φ → String → Option Value → C → Option (Outcome C)}
    {limit : Nat} :
    routine.perform call limit = some back ↔
      ∃ calls, HandsBack
        (fun inner outcome => call inner.flow inner.entry inner.arg inner.context = some outcome)
        routine calls back ∧ calls.length < limit := by
  induction limit generalizing routine with
  | zero => simp [perform]
  | succ limit ih =>
    unfold perform
    constructor
    · intro h
      split at h
      · cases h
      · next flow context result hnext =>
        cases h
        exact ⟨[], .done hnext, Nat.succ_pos limit⟩
      · next flow entry arg context hnext =>
        split at h
        · cases h
        · next outcome hcall =>
          obtain ⟨calls, hback, hlength⟩ := ih.1 h
          exact ⟨_, @HandsBack.call _ _ _ _ ⟨flow, entry, arg, context⟩ _ _ _ hnext hcall hback,
            Nat.succ_lt_succ hlength⟩
    · rintro ⟨calls, hback, hlength⟩
      cases hback with
      | done hnext => rw [hnext]
      | call hnext hcall hlater =>
        simp only [hnext, hcall]
        exact ih.2 ⟨_, hlater, Nat.lt_of_succ_lt_succ hlength⟩

theorem HandsBack.mono (h : HandsBack ends routine calls back)
    (hends : ∀ inner outcome, (inner, outcome) ∈ calls → ends inner outcome → ends' inner outcome) :
    HandsBack ends' routine calls back := by
  induction h with
  | done hnext => exact .done hnext
  | call hnext hcall _ ih =>
    refine .call hnext (hends _ _ List.mem_cons_self hcall) (ih fun inner outcome hmem => ?_)
    exact hends inner outcome (List.mem_cons_of_mem _ hmem)

theorem HandsBack.ends_of_mem (h : HandsBack ends routine calls back) {inner : Entering φ C}
    {outcome : Outcome C} (hmem : (inner, outcome) ∈ calls) : ends inner outcome := by
  induction h with
  | done _ => cases hmem
  | call _ hends _ ih =>
    rcases List.mem_cons.1 hmem with heq | hmem
    · cases heq
      exact hends
    · exact ih hmem

/-- If calls turn out in one way only, then so does a routine. -/
theorem HandsBack.unique
    (hends : ∀ inner outcome outcome', ends inner outcome → ends inner outcome' → outcome = outcome')
    (h : HandsBack ends routine calls back) (h' : HandsBack ends routine calls' back') :
    calls = calls' ∧ back = back' := by
  induction h generalizing calls' with
  | done hnext =>
    cases h' with
    | done hnext' =>
      rw [hnext] at hnext'
      cases hnext'
      exact ⟨rfl, rfl⟩
    | call hnext' _ _ =>
      rw [hnext] at hnext'
      cases hnext'
  | @call routine inner outcome calls back hnext hcall _ ih =>
    cases h' with
    | done hnext' =>
      rw [hnext] at hnext'
      cases hnext'
    | @call _ inner' outcome' _ _ hnext' hcall' hlater' =>
      have hinner : inner = inner' := by
        rw [hnext] at hnext'
        cases inner
        cases inner'
        cases hnext'
        rfl
      subst hinner
      have houtcome := hends inner outcome outcome' hcall hcall'
      subst houtcome
      obtain ⟨rfl, rfl⟩ := ih hlater'
      exact ⟨rfl, rfl⟩

end Routine

/-! ## Calls -/

/-- What becomes of a call when an entry point has handed something back. -/
inductive Sequel (φ C : Type) where
  /-- A flow is entered next. -/
  | enter (next : Entering φ C)
  /-- The call is left. -/
  | leave (outcome : Outcome C)

namespace Network

variable {net : Network φ C} {start next : Entering φ C} {outcome outcome' : Outcome C}
  {limit limit' : Nat}

/-- The signals are followed. A failure leaves the call with a frame of the flow that failed. -/
def sequel (net : Network φ C) (start : Entering φ C) : Handed φ C → Sequel φ C
  | (left, context, .error failure) =>
    .leave (context, .error (failure.inFrame (frame (net.name left) start.entry)))
  | (left, context, .ok .again) => .enter { start with flow := left, context }
  | (_, context, .ok (.change flow entry arg)) => .enter { flow, entry, arg, context }
  | (_, context, .ok (.finish value)) => .leave (context, .ok value)

/-- The call has this outcome within the limit. -/
def EndsWithin (net : Network φ C) (limit : Nat) (start : Entering φ C) (outcome : Outcome C) :
    Prop :=
  net.call limit start.flow start.entry start.arg start.context = some outcome

/-- The call has this outcome. -/
def Ends (net : Network φ C) (start : Entering φ C) (outcome : Outcome C) : Prop :=
  ∃ limit, net.EndsWithin limit start outcome

/-- The call has no outcome, whatever the limit is. -/
def RunsForever (net : Network φ C) (start : Entering φ C) : Prop :=
  ∀ limit, net.call limit start.flow start.entry start.arg start.context = none

/-- The calls that are made when a flow has been entered and what is handed back in the end, given
how calls turn out. -/
def HandsBack (net : Network φ C) (ends : Entering φ C → Outcome C → Prop) (start : Entering φ C)
    (calls : List (Entering φ C × Outcome C)) (back : Handed φ C) : Prop :=
  (net.enter start.flow start.entry start.arg start.context).HandsBack ends calls back

theorem call_succ (net : Network φ C) (limit : Nat) (start : Entering φ C) :
    net.call (limit + 1) start.flow start.entry start.arg start.context =
      match (net.enter start.flow start.entry start.arg start.context).perform (net.call limit)
        (limit + 1) with
      | none => none
      | some back =>
        match net.sequel start back with
        | .leave outcome => some outcome
        | .enter next => net.call limit next.flow next.entry next.arg next.context := by
  rw [Network.call]
  cases (net.enter start.flow start.entry start.arg start.context).perform (net.call limit)
    (limit + 1) with
  | none => rfl
  | some back =>
    obtain ⟨left, context, failure | signal⟩ := back
    · rfl
    · cases signal with
      | again => rfl
      | change flow entry arg => rfl
      | finish value => rfl

/-- A call ends when an entry point has handed something back and what is entered next ends, if
there is anything. -/
theorem endsWithin_succ_iff :
    net.EndsWithin (limit + 1) start outcome ↔
      ∃ calls back, net.HandsBack (net.EndsWithin limit) start calls back ∧ calls.length ≤ limit ∧
        (net.sequel start back = .leave outcome ∨
          ∃ next, net.sequel start back = .enter next ∧ net.EndsWithin limit next outcome) := by
  unfold EndsWithin
  rw [call_succ]
  constructor
  · intro h
    split at h
    · cases h
    · next back hperform =>
      obtain ⟨calls, hback, hlength⟩ := Routine.perform_eq_some_iff.1 hperform
      refine ⟨calls, back, hback, Nat.le_of_lt_succ hlength, ?_⟩
      cases hsequel : net.sequel start back with
      | leave left =>
        rw [hsequel] at h
        cases h
        exact Or.inl rfl
      | enter next =>
        rw [hsequel] at h
        exact Or.inr ⟨next, rfl, h⟩
  · rintro ⟨calls, back, hback, hlength, hsequel⟩
    have hperform := Routine.perform_eq_some_iff.2 ⟨calls, hback, Nat.lt_succ_of_le hlength⟩
    rw [hperform]
    rcases hsequel with hsequel | ⟨next, hsequel, hnext⟩
    · simp only [hsequel]
    · simp only [hsequel]
      exact hnext

/-- A higher limit does not change an outcome. -/
theorem EndsWithin.mono (h : net.EndsWithin limit start outcome) (hlimit : limit ≤ limit') :
    net.EndsWithin limit' start outcome := by
  induction limit generalizing start outcome limit' with
  | zero => cases h
  | succ limit ih =>
    obtain ⟨limit', rfl⟩ := Nat.exists_eq_add_one.2 (Nat.lt_of_lt_of_le (Nat.succ_pos limit) hlimit)
    have hle := Nat.le_of_succ_le_succ hlimit
    obtain ⟨calls, back, hback, hlength, hsequel⟩ := endsWithin_succ_iff.1 h
    refine endsWithin_succ_iff.2 ⟨calls, back, hback.mono fun _ _ _ hends => ih hends hle,
      Nat.le_trans hlength hle, ?_⟩
    rcases hsequel with hsequel | ⟨next, hsequel, hnext⟩
    · exact Or.inl hsequel
    · exact Or.inr ⟨next, hsequel, ih hnext hle⟩

/-- A call ends in one way only. -/
theorem Ends.unique (h : net.Ends start outcome) (h' : net.Ends start outcome') :
    outcome = outcome' := by
  obtain ⟨limit, h⟩ := h
  obtain ⟨limit', h'⟩ := h'
  have hmax := h.mono (Nat.le_max_left limit limit')
  have hmax' := h'.mono (Nat.le_max_right limit limit')
  unfold EndsWithin at hmax hmax'
  rw [hmax] at hmax'
  cases hmax'
  rfl

/-- A call ends or runs forever. -/
theorem runsForever_iff : net.RunsForever start ↔ ∀ outcome, ¬ net.Ends start outcome := by
  unfold RunsForever Ends EndsWithin
  constructor
  · rintro h outcome ⟨limit, hcall⟩
    rw [h limit] at hcall
    cases hcall
  · intro h limit
    rw [Option.eq_none_iff_forall_ne_some]
    exact fun outcome hcall => h outcome ⟨limit, hcall⟩

theorem HandsBack.of_within {calls : List (Entering φ C × Outcome C)} {back : Handed φ C}
    (h : net.HandsBack (net.EndsWithin limit) start calls back) :
    net.HandsBack net.Ends start calls back :=
  Routine.HandsBack.mono h fun _ _ _ hends => ⟨limit, hends⟩

/-- The calls that have been made all end within one limit. -/
theorem exists_limit {routine : Routine φ C} {calls : List (Entering φ C × Outcome C)}
    {back : Handed φ C} (h : routine.HandsBack net.Ends calls back) :
    ∃ limit, routine.HandsBack (net.EndsWithin limit) calls back := by
  induction h with
  | done hnext => exact ⟨0, .done hnext⟩
  | call hnext hends _ ih =>
    obtain ⟨limit, hcall⟩ := hends
    obtain ⟨limit', hlater⟩ := ih
    exact ⟨max limit limit', .call hnext (hcall.mono (Nat.le_max_left _ _))
      (hlater.mono fun _ _ _ hends => hends.mono (Nat.le_max_right _ _))⟩

/-- A call ends when an entry point has handed something back and what is entered next ends, if
there is anything. Limits do not matter. -/
theorem ends_iff :
    net.Ends start outcome ↔
      ∃ calls back, net.HandsBack net.Ends start calls back ∧
        (net.sequel start back = .leave outcome ∨
          ∃ next, net.sequel start back = .enter next ∧ net.Ends next outcome) := by
  constructor
  · rintro ⟨limit, h⟩
    cases limit with
    | zero => cases h
    | succ limit =>
      obtain ⟨calls, back, hback, -, hsequel⟩ := endsWithin_succ_iff.1 h
      refine ⟨calls, back, hback.of_within, ?_⟩
      exact hsequel.imp_right fun ⟨next, hsequel, hnext⟩ => ⟨next, hsequel, limit, hnext⟩
  · rintro ⟨calls, back, hback, hsequel⟩
    obtain ⟨limit, hwithin⟩ := exists_limit hback
    -- the limit must do for the calls, for their number and for what is entered next
    rcases hsequel with hsequel | ⟨next, hsequel, later, hnext⟩
    · have hle := Nat.le_max_left limit calls.length
      exact ⟨max limit calls.length + 1, endsWithin_succ_iff.2 ⟨calls, back,
        hwithin.mono fun _ _ _ hends => hends.mono hle, Nat.le_max_right _ _, Or.inl hsequel⟩⟩
    · have hle : limit ≤ max (max limit calls.length) later := by omega
      have hnext' := hnext.mono (Nat.le_max_right (max limit calls.length) later)
      exact ⟨max (max limit calls.length) later + 1, endsWithin_succ_iff.2 ⟨calls, back,
        hwithin.mono fun _ _ _ hends => hends.mono hle, by omega, Or.inr ⟨next, hsequel, hnext'⟩⟩⟩

/-- What has been handed back is determined. -/
theorem handsBack_unique {calls calls' : List (Entering φ C × Outcome C)} {back back' : Handed φ C}
    (h : net.HandsBack net.Ends start calls back) (h' : net.HandsBack net.Ends start calls' back') :
    calls = calls' ∧ back = back' :=
  Routine.HandsBack.unique (fun _ _ _ hends hends' => hends.unique hends') h h'

end Network

end Muster.Flow
