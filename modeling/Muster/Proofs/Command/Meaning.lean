import Muster.Proofs.Pattern.Recognition
import Muster.Command.Registry

/-!
# What a line means to a set of commands

All commands are tried on a line and none goes before another. `Meant` says what a line means in
terms of the commands that accept it: nothing if there is none, that command if there is one, and
all their names otherwise. Main statements: dispatch finds out exactly that (`dispatch_eq_iff`); the
order of the commands matters for nothing but the order of ambiguous names (`dispatch_perm`); and
which commands accept a line does not depend on what slots can refer to (`accepting_eq`).
-/

namespace Muster

variable {H : Type}

/-- Two meanings of a line agree, given what it is for names and for bindings to agree. -/
inductive Dispatch.Rel (names : List String → List String → Prop)
    (bindings : Bindings → Bindings → Prop) : Dispatch H → Dispatch H → Prop where
  | unrecognized : Rel names bindings .unrecognized .unrecognized
  | ambiguous {some others : List String} :
    names some others → Rel names bindings (.ambiguous some) (.ambiguous others)
  | matched (name : String) (handler : H) {filled other : Bindings} :
    bindings filled other →
      Rel names bindings (.matched name handler filled) (.matched name handler other)

namespace Command

/-- Whether a command's own pattern accepts a line. -/
def accepts (command : Command H) (scope : Scope) (line : String) : Bool :=
  (command.pattern.matchLine scope line).isSome

end Command

/-- What a line means to some commands. -/
inductive Meant (scope : Scope) (line : String) (commands : List (Command H)) :
    Dispatch H → Prop where
  /-- No command accepts the line. -/
  | nothing : (∀ command ∈ commands, command.accepts scope line = false) →
    Meant scope line commands .unrecognized
  /-- One command accepts the line, and no other one does. -/
  | one {before after : List (Command H)} {command : Command H} {bindings : Bindings} :
    commands = before ++ command :: after →
      command.pattern.matchLine scope line = some bindings →
      (∀ other ∈ before ++ after, other.accepts scope line = false) →
      Meant scope line commands (.matched command.name command.handler bindings)
  /-- Two commands accept the line, and maybe more. -/
  | several {first second : Command H} : [first, second].Sublist commands →
    first.accepts scope line = true → second.accepts scope line = true →
    Meant scope line commands
      (.ambiguous ((commands.filter (·.accepts scope line)).map (·.name)))

namespace CommandSet

variable {set other : CommandSet H} {scope : Scope} {line : String}

/-! ## The commands that accept a line -/

theorem map_accepting (set : CommandSet H) (scope : Scope) (line : String) :
    (set.accepting scope line).map (·.1) = set.commands.filter (·.accepts scope line) := by
  unfold accepting
  induction set.commands with
  | nil => rfl
  | cons command commands ih =>
    rw [List.filterMap_cons, List.filter_cons, Command.accepts]
    cases command.pattern.matchLine scope line with
    | none => exact ih
    | some bindings => exact congrArg (command :: ·) ih

theorem accepting_eq_nil (h : ∀ command ∈ set.commands, command.accepts scope line = false) :
    set.accepting scope line = [] := by
  rw [← List.map_eq_nil_iff, map_accepting, List.filter_eq_nil_iff]
  intro command hcommand
  simp [h command hcommand]

theorem matchLine_of_not_accepts {command : Command H} (h : command.accepts scope line = false) :
    command.pattern.matchLine scope line = none := by
  rwa [Command.accepts, Option.isSome_eq_false_iff, Option.isNone_iff_eq_none] at h

/-- The first command that accepts a line, with those before it that do not. -/
theorem accepting_eq_cons {command : Command H} {bindings : Bindings}
    {rest : List (Command H × Bindings)}
    (h : set.accepting scope line = (command, bindings) :: rest) :
    ∃ before after, set.commands = before ++ command :: after ∧
      (∀ other ∈ before, other.accepts scope line = false) ∧
      command.pattern.matchLine scope line = some bindings ∧
      ({ set with commands := after } : CommandSet H).accepting scope line = rest := by
  obtain ⟨before, found, after, hcommands, hbefore, hfound, hafter⟩ :=
    List.filterMap_eq_cons_iff.1 h
  obtain ⟨filled, hmatch, heq⟩ := Option.map_eq_some_iff.1 hfound
  cases heq
  refine ⟨before, after, hcommands, fun other hother => ?_, hmatch, hafter⟩
  have hnone := hbefore other hother
  rw [Option.map_eq_none_iff] at hnone
  rw [Command.accepts, hnone]
  rfl

/-! ## The meaning of a line -/

theorem dispatch_of_nil (h : set.accepting scope line = []) :
    set.dispatch scope line = .unrecognized := by
  unfold dispatch
  rw [h]

theorem dispatch_of_one {command : Command H} {bindings : Bindings}
    (h : set.accepting scope line = [(command, bindings)]) :
    set.dispatch scope line = .matched command.name command.handler bindings := by
  unfold dispatch
  rw [h]

theorem dispatch_of_several (h : 2 ≤ (set.accepting scope line).length) :
    set.dispatch scope line = .ambiguous ((set.accepting scope line).map (·.1.name)) := by
  unfold dispatch
  split
  · next hnil =>
    rw [hnil] at h
    simp at h
  · next hone =>
    rw [hone] at h
    simp at h
  · rfl

/-- The commands that accept a line, among all of them. -/
theorem sublist_of_accepting {accepting : List (Command H × Bindings)}
    (h : set.accepting scope line = accepting) :
    (accepting.map (·.1)).Sublist set.commands ∧
      ∀ command ∈ accepting.map (·.1), command.accepts scope line = true := by
  rw [← h, map_accepting]
  exact ⟨List.filter_sublist, fun command hcommand => (List.mem_filter.1 hcommand).2⟩

theorem not_accepts_of_accepting_eq_nil (h : set.accepting scope line = []) :
    ∀ command ∈ set.commands, command.accepts scope line = false := by
  have hfilter := map_accepting set scope line
  rw [h] at hfilter
  intro command hcommand
  exact Bool.eq_false_iff.2 (List.filter_eq_nil_iff.1 hfilter.symm command hcommand)

theorem meant_dispatch (set : CommandSet H) (scope : Scope) (line : String) :
    Meant scope line set.commands (set.dispatch scope line) := by
  rcases haccepting : set.accepting scope line with
    _ | ⟨⟨command, bindings⟩, _ | ⟨⟨next, filled⟩, rest⟩⟩
  · rw [dispatch_of_nil haccepting]
    exact .nothing (not_accepts_of_accepting_eq_nil haccepting)
  · rw [dispatch_of_one haccepting]
    obtain ⟨before, after, hcommands, hbefore, hmatch, hrest⟩ := accepting_eq_cons haccepting
    refine .one hcommands hmatch fun other hother => ?_
    rcases List.mem_append.1 hother with hother | hother
    · exact hbefore other hother
    · exact not_accepts_of_accepting_eq_nil hrest other hother
  · have htwo : 2 ≤ (set.accepting scope line).length := by simp [haccepting]
    obtain ⟨hsublist, haccepts⟩ := sublist_of_accepting haccepting
    have hfirst : [command, next].Sublist ((⟨command, bindings⟩ :: ⟨next, filled⟩ :: rest).map
        (fun found : Command H × Bindings => found.1)) := by simp
    have hambiguous := Meant.several (hfirst.trans hsublist) (haccepts command (by simp))
      (haccepts next (by simp))
    rw [← map_accepting, List.map_map] at hambiguous
    rw [dispatch_of_several htwo]
    exact hambiguous

/-- A line has one meaning. -/
theorem dispatch_of_meant {answer : Dispatch H} (h : Meant scope line set.commands answer) :
    set.dispatch scope line = answer := by
  cases h with
  | nothing hnone => exact dispatch_of_nil (accepting_eq_nil hnone)
  | @one before after command bindings hcommands hmatch hothers =>
    have hside : ∀ part : List (Command H), (∀ other ∈ part, other ∈ before ++ after) →
        part.filterMap (fun other => (other.pattern.matchLine scope line).map (other, ·)) = [] := by
      intro part hpart
      rw [List.filterMap_eq_nil_iff]
      intro other hother
      rw [matchLine_of_not_accepts (hothers other (hpart other hother))]
      rfl
    refine dispatch_of_one ?_
    unfold accepting
    rw [hcommands, List.filterMap_append, List.filterMap_cons, hmatch,
      hside before fun other => List.mem_append_left _,
      hside after fun other => List.mem_append_right _]
    rfl
  | @several first second hsublist hfirst hsecond =>
    have hfilter := hsublist.filter (·.accepts scope line)
    simp only [List.filter_cons, hfirst, hsecond, if_true, List.filter_nil] at hfilter
    rw [← map_accepting] at hfilter ⊢
    have htwo := hfilter.length_le
    rw [List.length_map] at htwo
    rw [dispatch_of_several htwo, List.map_map]
    rfl

/-- Dispatch finds out what a line means. -/
theorem dispatch_eq_iff (set : CommandSet H) (scope : Scope) (line : String) (answer : Dispatch H) :
    set.dispatch scope line = answer ↔ Meant scope line set.commands answer := by
  constructor
  · rintro rfl
    exact meant_dispatch set scope line
  · exact dispatch_of_meant

/-- The same commands in another order give a line the same meaning, but for the order of names. -/
theorem dispatch_perm (h : set.commands.Perm other.commands) (scope : Scope) (line : String) :
    Dispatch.Rel List.Perm Eq (set.dispatch scope line) (other.dispatch scope line) := by
  have haccepting : (set.accepting scope line).Perm (other.accepting scope line) := h.filterMap _
  have hlength := haccepting.length_eq
  rcases hset : set.accepting scope line with _ | ⟨first, _ | ⟨second, rest⟩⟩
  · rw [hset] at haccepting
    rw [dispatch_of_nil hset, dispatch_of_nil (List.nil_perm.1 haccepting)]
    exact .unrecognized
  · rw [hset] at haccepting
    rw [dispatch_of_one hset, dispatch_of_one (List.singleton_perm.1 haccepting).symm]
    exact .matched _ _ rfl
  · have htwo : 2 ≤ (set.accepting scope line).length := by simp [hset]
    rw [dispatch_of_several htwo, dispatch_of_several (hlength ▸ htwo)]
    exact .ambiguous (haccepting.map _)

/-! ## Lines without a scope -/

/-- The commands that recognize a line, each with what its slots have taken. -/
def recognizing (set : CommandSet H) (line : String) : List (Command H × List Filling) :=
  set.commands.filterMap fun command =>
    (command.pattern.recognizeLine line).map fun fillings => (command, fillings)

/-- The commands that accept a line are those that recognize it. -/
theorem accepting_eq (set : CommandSet H) (scope : Scope) (line : String) :
    set.accepting scope line =
      (set.recognizing line).map fun (command, fillings) =>
        (command, Bindings.empty.fill scope fillings) := by
  unfold accepting recognizing
  rw [List.map_filterMap]
  congr 1
  funext command
  rw [Pattern.matchLine_eq, Option.map_map, Option.map_map]
  rfl

end CommandSet

end Muster
