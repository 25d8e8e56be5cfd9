import Muster.Proofs.Steps
import Muster.Command.Registry

/-!
# Registering commands

What becomes of a set of commands when one more is to be registered: it is added, or the set is left
as it is, because of the templates or because the name is taken (`enrollAs_cases`). Of several
commands, too, one cannot be registered for these reasons only (`cause_of_registerAll`).
-/

namespace Muster

/-- The templates of a command are missing, or one of them does not compile. -/
def Cause.isTemplates : Cause → Bool
  | .invalidTemplate _ _ _ _ => true
  | .missingControl _ _ => true
  | _ => false

variable {H : Type}

/-- The command with some templates, if there are any and all of them compile. -/
def Command.ofTemplates? (scope : Scope) (name : String) (templates : List String) (handler : H) :
    Option (Command H) :=
  if templates.isEmpty then none
  else (Template.compileAll scope templates).toOption.map fun pattern => { name, pattern, handler }

theorem Command.name_ofTemplates? {scope : Scope} {name : String} {templates : List String}
    {handler : H} {command : Command H}
    (h : ofTemplates? scope name templates handler = some command) : command.name = name := by
  unfold ofTemplates? at h
  split at h
  · cases h
  · obtain ⟨pattern, _, rfl⟩ := Option.map_eq_some_iff.1 h
    rfl

namespace CommandSet

/-- The set with one more command. -/
def push (set : CommandSet H) (command : Command H) : CommandSet H :=
  { set with commands := set.commands ++ [command] }

@[simp] theorem commands_push (set : CommandSet H) (command : Command H) :
    (set.push command).commands = set.commands ++ [command] := rfl

@[simp] theorem names_push (set : CommandSet H) (command : Command H) :
    (set.push command).names = set.names ++ [command.name] := List.map_append

variable {set next : CommandSet H} {scope : Scope} {control : Control} {stage : String}
  {failure : Failure}

theorem any_name_iff {name : String} :
    set.commands.any (·.name == name) = true ↔ name ∈ set.names := by
  simp [names, List.any_eq_true]

/-- A command is registered if it has templates that compile and its name is not taken. Otherwise the
set is left as it is. -/
theorem enrollAs_cases (scope : Scope) (source name : String) (templates : List String) (handler : H)
    (set : CommandSet H) :
    (∃ command, Command.ofTemplates? scope name templates handler = some command ∧
      name ∉ set.names ∧
      enrollAs scope source name templates handler set = .ok () (set.push command)) ∨
    ∃ failure, enrollAs scope source name templates handler set = .error failure set ∧
      (failure.cause.isTemplates = true ∧
          Command.ofTemplates? scope name templates handler = none ∨
        name ∈ set.names ∧ failure.cause = .duplicateCommand set.stage name) := by
  unfold enrollAs Command.ofTemplates?
  change (∃ command, _ ∧ _ ∧ (if templates.isEmpty = true then throw _
      else if set.commands.any (·.name == name) = true then throw _ else _ :
      EStateM Failure (CommandSet H) Unit) set = _) ∨
    ∃ failure, (if templates.isEmpty = true then throw _
      else if set.commands.any (·.name == name) = true then throw _ else _ :
      EStateM Failure (CommandSet H) Unit) set = _ ∧ _
  split
  · exact Or.inr ⟨_, rfl, Or.inl ⟨rfl, rfl⟩⟩
  · split
    · next htaken => exact Or.inr ⟨_, rfl, Or.inr ⟨any_name_iff.1 htaken, rfl⟩⟩
    · next hfree =>
      cases Template.compileAll scope templates with
      | error invalid => exact Or.inr ⟨_, rfl, Or.inl ⟨rfl, rfl⟩⟩
      | ok pattern =>
        exact Or.inl ⟨{ name, pattern, handler }, rfl, fun hname => hfree (any_name_iff.2 hname), rfl⟩

/-- So it is with the templates that a catalog lists. -/
theorem enrollFrom_cases (scope : Scope) (control : Control) (stage name : String) (handler : H)
    (set : CommandSet H) :
    (∃ templates command, control.templates stage name = .ok templates ∧
      Command.ofTemplates? scope name templates handler = some command ∧ name ∉ set.names ∧
      enrollFrom scope control stage name handler set = .ok () (set.push command)) ∨
    ∃ failure, enrollFrom scope control stage name handler set = .error failure set ∧
      (failure.cause.isTemplates = true ∧
          ((control.templates stage name).toOption.bind fun templates =>
            Command.ofTemplates? scope name templates handler) = none ∨
        name ∈ set.names ∧ failure.cause = .duplicateCommand set.stage name) := by
  unfold enrollFrom
  cases htemplates : control.templates stage name with
  | error failure =>
    refine Or.inr ⟨failure, rfl, Or.inl ⟨?_, rfl⟩⟩
    unfold Control.templates at htemplates
    split at htemplates
    · cases htemplates
    · cases htemplates
      rfl
  | ok templates =>
    rcases enrollAs_cases scope stage name templates handler set with
      ⟨command, hcommand, hname, hrun⟩ | ⟨failure, hrun, hcause⟩
    · exact Or.inl ⟨templates, command, rfl, hcommand, hname, hrun⟩
    · exact Or.inr ⟨failure, hrun, hcause⟩

theorem names_registerFrom {command : String} {handler : H}
    (h : set.registerFrom scope control stage command handler = .ok next) :
    next.names = set.names ++ [command] := by
  unfold registerFrom after at h
  rcases enrollFrom_cases scope control stage command handler set with
    ⟨templates, added, _, hadded, _, hrun⟩ | ⟨failure, hrun, _⟩
  · rw [hrun] at h
    cases h
    rw [names_push, Command.name_ofTemplates? hadded]
  · rw [hrun] at h
    cases h

theorem cause_of_registerFrom {command : String} {handler : H}
    (h : set.registerFrom scope control stage command handler = .error failure) :
    failure.cause.isTemplates = true ∨
      (command ∈ set.names ∧ failure.cause = .duplicateCommand set.stage command) := by
  unfold registerFrom after at h
  rcases enrollFrom_cases scope control stage command handler set with
    ⟨_, _, _, _, _, hrun⟩ | ⟨other, hrun, hcause⟩
  · rw [hrun] at h
    cases h
  · rw [hrun] at h
    cases h
    exact hcause.imp_left And.left

variable {handlers : List (String × H)}

theorem names_registerAll (h : set.registerAll scope control stage handlers = .ok next) :
    next.names = set.names ++ handlers.map (·.1) := by
  induction handlers generalizing set with
  | nil =>
    cases h
    exact (List.append_nil _).symm
  | cons entry handlers ih =>
    unfold registerAll at h
    rw [List.foldlM_cons, bind_eq_ok_iff] at h
    obtain ⟨first, hfirst, hrest⟩ := h
    rw [ih hrest, names_registerFrom hfirst, List.append_assoc]
    rfl

/-- Of several commands one cannot be registered because of its templates, or because a name stands
twice. -/
theorem cause_of_registerAll (h : set.registerAll scope control stage handlers = .error failure) :
    failure.cause.isTemplates = true ∨
      (¬(set.names ++ handlers.map (·.1)).Nodup ∧
        ∃ owner command, failure.cause = .duplicateCommand owner command) := by
  induction handlers generalizing set with
  | nil => cases h
  | cons entry handlers ih =>
    have happend : set.names ++ (entry :: handlers).map (·.1) =
        set.names ++ [entry.1] ++ handlers.map (·.1) := by
      rw [List.append_assoc]
      rfl
    rw [happend]
    unfold registerAll at h
    rw [List.foldlM_cons, bind_eq_error_iff] at h
    rcases h with hfirst | ⟨first, hfirst, hrest⟩
    · rcases cause_of_registerFrom hfirst with htemplates | ⟨htaken, hcause⟩
      · exact Or.inl htemplates
      · refine Or.inr ⟨fun hnodup => ?_, _, _, hcause⟩
        have hapart := (List.nodup_append.1 (List.nodup_append.1 hnodup).1).2.2
        exact hapart entry.1 htaken entry.1 (List.mem_singleton_self _) rfl
    · rw [← names_registerFrom hfirst]
      exact ih hrest

end CommandSet

end Muster
