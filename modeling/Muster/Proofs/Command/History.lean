import Muster.Proofs.Command.Meaning
import Muster.Proofs.Command.Registration

/-!
# Registering commands one by one

A set of commands is built by calls that may each be refused: because there are no templates, because
the name is taken, or because one of the templates does not compile. A call that is refused leaves no
trace, so the set holds the commands of the other calls, in their order (`registerEach_commands`).
Calls with different names do not get into each other's way: what becomes of each does not depend on
the others (`commands_of_nodup`), and so not on their order. The main statement `registry_law` puts
this together with what a line means to the set.
-/

namespace Muster

variable {H : Type}

/-- A call to register a command: with templates of its own, or with those that a control catalog
lists for it under some stage. -/
inductive Registration (H : Type) where
  | own (name : String) (templates : List String) (handler : H)
  | listed (control : Control) (stage name : String) (handler : H)

namespace Registration

/-- The name under which the command is to be registered. -/
def name : Registration H → String
  | .own name _ _ => name
  | .listed _ _ name _ => name

/-- Makes the call. -/
def perform (scope : Scope) : Registration H → EStateM Failure (CommandSet H) Unit
  | .own name templates handler => CommandSet.enroll scope name templates handler
  | .listed control stage name handler => CommandSet.enrollFrom scope control stage name handler

/-- The command that the call is to register, if it has templates and all of them compile. -/
def command? (scope : Scope) : Registration H → Option (Command H)
  | .own name templates handler => Command.ofTemplates? scope name templates handler
  | .listed control stage name handler =>
    (control.templates stage name).toOption.bind fun templates =>
      Command.ofTemplates? scope name templates handler

/-- The set that the call leaves, and why the call was refused, if it was. -/
def attempt (scope : Scope) (set : CommandSet H) (call : Registration H) :
    CommandSet H × Option Failure :=
  match call.perform scope set with
  | .ok _ next => (next, none)
  | .error failure left => (left, some failure)

theorem name_of_command? {scope : Scope} {call : Registration H} {command : Command H}
    (h : call.command? scope = some command) : command.name = call.name := by
  cases call with
  | own name templates handler => exact Command.name_ofTemplates? h
  | listed control stage name handler =>
    obtain ⟨templates, _, hcommand⟩ := Option.bind_eq_some_iff.1 h
    exact Command.name_ofTemplates? hcommand

/-- Without templates that compile, or with a name that is taken, a command cannot be registered. -/
theorem not_registrable {command? : Option (Command H)} {taken : Prop}
    (h : command? = none ∨ taken) : ¬ (command?.isSome = true ∧ ¬ taken) := by
  rintro ⟨hsome, hfree⟩
  rcases h with hnone | htaken
  · rw [hnone] at hsome
    cases hsome
  · exact hfree htaken

/-- A call adds its command, or is refused and leaves the set as it was. -/
theorem attempt_cases (scope : Scope) (set : CommandSet H) (call : Registration H) :
    (∃ command, call.command? scope = some command ∧ call.name ∉ set.names ∧
      call.attempt scope set = (set.push command, none)) ∨
    (¬ ((call.command? scope).isSome = true ∧ call.name ∉ set.names) ∧
      ∃ failure, call.attempt scope set = (set, some failure)) := by
  unfold attempt
  cases call with
  | own name templates handler =>
    have hcases := CommandSet.enrollAs_cases scope set.stage name templates handler set
    rcases hcases with ⟨command, hcommand, hname, hrun⟩ | ⟨failure, hrun, hcause⟩
    · rw [show perform scope (.own name templates handler) set = _ from hrun]
      exact Or.inl ⟨command, hcommand, hname, rfl⟩
    · rw [show perform scope (.own name templates handler) set = _ from hrun]
      exact Or.inr ⟨not_registrable (hcause.imp And.right And.left), failure, rfl⟩
  | listed control stage name handler =>
    have hcases := CommandSet.enrollFrom_cases scope control stage name handler set
    rcases hcases with ⟨templates, command, htemplates, hcommand, hname, hrun⟩ |
      ⟨failure, hrun, hcause⟩
    · rw [show perform scope (.listed control stage name handler) set = _ from hrun]
      refine Or.inl ⟨command, ?_, hname, rfl⟩
      rw [command?, htemplates]
      exact hcommand
    · rw [show perform scope (.listed control stage name handler) set = _ from hrun]
      exact Or.inr ⟨not_registrable (hcause.imp And.right And.left), failure, rfl⟩

end Registration

open Registration

/-! ## Calls in a row -/

/-- The set after some calls, and what each of them was answered. -/
def registerEach (scope : Scope) :
    CommandSet H → List (Registration H) → CommandSet H × List (Option Failure)
  | set, [] => (set, [])
  | set, call :: calls =>
    let tried := call.attempt scope set
    (registerEach scope tried.1 calls).map id (tried.2 :: ·)

/-- The calls that were not refused. -/
def acceptedOf (calls : List (Registration H)) (answers : List (Option Failure)) :
    List (Registration H) :=
  ((calls.zip answers).filter (·.2.isNone)).map (·.1)

section

variable {scope : Scope} {set : CommandSet H} {call : Registration H}
  {calls before others : List (Registration H)}

theorem registerEach_append (set : CommandSet H) (before calls : List (Registration H)) :
    registerEach scope set (before ++ calls) =
      (registerEach scope (registerEach scope set before).1 calls).map id
        ((registerEach scope set before).2 ++ ·) := by
  induction before generalizing set with
  | nil => rfl
  | cons call before ih =>
    show Prod.map _ _ (registerEach scope _ (before ++ calls)) = _
    rw [ih]
    rfl

theorem length_answers (scope : Scope) (set : CommandSet H) (calls : List (Registration H)) :
    (registerEach scope set calls).2.length = calls.length := by
  induction calls generalizing set with
  | nil => rfl
  | cons call calls ih => exact congrArg (· + 1) (ih _)

/-- The answer to a call is that of the set at its time. -/
theorem getElem?_answers (set : CommandSet H) (before : List (Registration H))
    (call : Registration H) (calls : List (Registration H)) :
    (registerEach scope set (before ++ call :: calls)).2[before.length]? =
      some (call.attempt scope (registerEach scope set before).1).2 := by
  have hlength := length_answers scope set before
  rw [registerEach_append]
  show ((registerEach scope set before).2 ++ _ :: _)[before.length]? = _
  rw [List.getElem?_append_right (by omega), hlength, Nat.sub_self]
  rfl

/-- The commands are those of the calls that were not refused, in the order of the calls. -/
theorem registerEach_commands (set : CommandSet H) (calls : List (Registration H)) :
    (registerEach scope set calls).1.commands.map some =
      set.commands.map some ++
        (acceptedOf calls (registerEach scope set calls).2).map (·.command? scope) := by
  induction calls generalizing set with
  | nil => exact (List.append_nil _).symm
  | cons call calls ih =>
    have hrest := ih (call.attempt scope set).1
    show (registerEach scope (call.attempt scope set).1 calls).1.commands.map some = _ ++
      (acceptedOf (call :: calls) ((call.attempt scope set).2 :: _)).map _
    rw [hrest]
    rcases attempt_cases scope set call with
      ⟨command, hcommand, _, hattempt⟩ | ⟨_, failure, hattempt⟩
    · rw [hattempt]
      simp [acceptedOf, hcommand]
    · rw [hattempt]
      simp [acceptedOf]

/-- Names stay distinct. -/
theorem nodup_registerEach (h : set.names.Nodup) (calls : List (Registration H)) :
    (registerEach scope set calls).1.names.Nodup := by
  induction calls generalizing set with
  | nil => exact h
  | cons call calls ih =>
    refine ih ?_
    rcases attempt_cases scope set call with ⟨command, hcommand, hname, hattempt⟩ | ⟨_, _, hattempt⟩
    · rw [hattempt, CommandSet.names_push, name_of_command? hcommand, List.nodup_append]
      refine ⟨h, by simp, ?_⟩
      intro taken htaken new hnew heq
      rw [List.mem_singleton] at hnew
      rw [heq, hnew] at htaken
      exact hname htaken
    · rw [hattempt]
      exact h

/-- If no name is taken, what becomes of a call is up to its templates. -/
theorem commands_of_nodup (hfree : ∀ call ∈ calls, call.name ∉ set.names)
    (hnodup : (calls.map Registration.name).Nodup) :
    (registerEach scope set calls).1.commands =
      set.commands ++ calls.filterMap (·.command? scope) := by
  induction calls generalizing set with
  | nil => exact (List.append_nil _).symm
  | cons call calls ih =>
    rw [List.map_cons, List.nodup_cons] at hnodup
    obtain ⟨hname, hnodup⟩ := hnodup
    have hcall := hfree call List.mem_cons_self
    have hlater : ∀ later ∈ calls, later.name ∉ set.names := fun later hmem =>
      hfree later (List.mem_cons_of_mem _ hmem)
    show (registerEach scope (call.attempt scope set).1 calls).1.commands = _
    rcases attempt_cases scope set call with ⟨command, hcommand, _, hattempt⟩ | ⟨hrefused, _, hattempt⟩
    · rw [hattempt, ih ?_ hnodup]
      · simp [hcommand]
      · -- the name just taken is none of those to come
        intro later hmem hlate
        rw [CommandSet.names_push, List.mem_append, List.mem_singleton,
          name_of_command? hcommand] at hlate
        rcases hlate with hlate | hlate
        · exact hlater later hmem hlate
        · exact hname (List.mem_map.2 ⟨later, hmem, hlate⟩)
    · have hnone : call.command? scope = none := by
        cases hcommand : call.command? scope with
        | none => rfl
        | some command => exact absurd ⟨by rw [hcommand]; rfl, hcall⟩ hrefused
      rw [hattempt, ih hlater hnodup]
      simp [hnone]

end

/-! ## The law of registration -/

/-- What a new set of commands is after some calls, and what they were answered. -/
structure Recorded (scope : Scope) (stage : String) (calls : List (Registration H)) : Prop where
  /-- Every call is answered. -/
  answered : (registerEach scope { stage } calls).2.length = calls.length
  /-- A call is accepted if it has templates that compile and its name is not taken. -/
  accepted : ∀ before call after, calls = before ++ call :: after →
    ((registerEach scope { stage } calls).2[before.length]? = some none ↔
      (call.command? scope).isSome = true ∧
        call.name ∉ (registerEach scope { stage } before).1.names)
  /-- A call that is refused leaves the set as it was. -/
  refused : ∀ before call after failure, calls = before ++ call :: after →
    (registerEach scope { stage } calls).2[before.length]? = some (some failure) →
      (registerEach scope { stage } (before ++ [call])).1 = (registerEach scope { stage } before).1
  /-- The commands are those of the calls that were accepted, in the order of the calls. -/
  commands : (registerEach scope { stage } calls).1.commands.map some =
    (acceptedOf calls (registerEach scope { stage } calls).2).map (·.command? scope)
  /-- Their names are distinct. -/
  distinct : (registerEach scope { stage } calls).1.names.Nodup

theorem recorded (scope : Scope) (stage : String) (calls : List (Registration H)) :
    Recorded scope stage calls where
  answered := length_answers scope _ calls
  accepted before call after hcalls := by
    rw [hcalls, getElem?_answers, Option.some.injEq]
    rcases attempt_cases scope (registerEach scope { stage } before).1 call with
      ⟨command, hcommand, hname, hattempt⟩ | ⟨hrefused, failure, hattempt⟩
    · simp [hattempt, hcommand, hname]
    · rw [hattempt]
      constructor
      · intro h
        cases h
      · intro h
        exact absurd h hrefused
  refused before call after failure hcalls hanswer := by
    rw [hcalls, getElem?_answers, Option.some.injEq] at hanswer
    rw [registerEach_append]
    show (call.attempt scope (registerEach scope { stage } before).1).1 = _
    rcases attempt_cases scope (registerEach scope { stage } before).1 call with
      ⟨command, _, _, hattempt⟩ | ⟨_, _, hattempt⟩
    · rw [hattempt] at hanswer
      cases hanswer
    · rw [hattempt]
  commands := registerEach_commands _ calls
  distinct := nodup_registerEach (show ({ stage } : CommandSet H).names.Nodup from List.nodup_nil) calls

/-- A set of commands holds those of the calls that were accepted, in their order and under distinct
names, and refused calls leave no trace. A line is meant for the only command that accepts it, and is
ambiguous among all that do if there are several. For calls with distinct names their order matters
only for the order of ambiguous names. -/
theorem registry_law (scope : Scope) (stage : String) (calls : List (Registration H)) :
    Recorded scope stage calls ∧
    (∀ (scope' : Scope) (line : String) (answer : Dispatch H),
      (registerEach scope { stage } calls).1.dispatch scope' line = answer ↔
        Meant scope' line (registerEach scope { stage } calls).1.commands answer) ∧
    ∀ others, calls.Perm others → (calls.map Registration.name).Nodup →
      ∀ (scope' : Scope) (line : String),
        Dispatch.Rel List.Perm Eq ((registerEach scope { stage } calls).1.dispatch scope' line)
          ((registerEach scope { stage } others).1.dispatch scope' line) := by
  refine ⟨recorded scope stage calls, fun scope' line answer =>
    CommandSet.dispatch_eq_iff _ scope' line answer, ?_⟩
  intro others hperm hnodup scope' line
  have hfree : ∀ chosen : List (Registration H), ∀ call ∈ chosen,
      call.name ∉ ({ stage } : CommandSet H).names := fun _ _ _ => List.not_mem_nil
  have hothers : (others.map Registration.name).Nodup := (hperm.map _).nodup_iff.1 hnodup
  refine CommandSet.dispatch_perm ?_ scope' line
  rw [commands_of_nodup (hfree calls) hnodup, commands_of_nodup (hfree others) hothers]
  exact hperm.filterMap _

/-- Two commands that overlap, one that does not compile and one whose name is taken, registered in
two orders. -/
theorem overlap_registry_law :
    let look : Registration Nat := .own "look" ["look [around]"] 1
    let broken : Registration Nat := .own "broken" ["look", "exit ["] 2
    let examine : Registration Nat := .listed
      (({} : Control).insertCommand "test" "examine" ["look", "examine \x7bname\x7d"]) "test" "examine" 3
    [look, broken, examine].Perm [examine, look, broken] ∧
      ([look, broken, examine].map Registration.name).Nodup ∧
      Dispatch.Rel List.Perm Eq
        ((registerEach {} { stage := "test" } [look, broken, examine]).1.dispatch {} " LOOK ")
        ((registerEach {} { stage := "test" } [examine, look, broken]).1.dispatch {} " LOOK ") := by
  intro look broken examine
  have hperm : [look, broken, examine].Perm [examine, look, broken] :=
    show ([look, broken] ++ [examine]).Perm ([examine] ++ [look, broken]) from List.perm_append_comm
  have hnodup : ([look, broken, examine].map Registration.name).Nodup := by decide
  exact ⟨hperm, hnodup, (registry_law {} "test" [look, broken, examine]).2.2 _ hperm hnodup {} _⟩

end Muster
