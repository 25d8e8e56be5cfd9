import Muster.Proofs.Pattern.Compiled

/-!
# The templates of a command, one by one

A command compiles exactly if each of its templates does, and otherwise its first template that does
not is to blame. It matches a line as the first of its templates does that matches the line alone,
those that begin with a slot coming last (`inTrialOrder`). So no template keeps another one from
being seen, and the order in which they are listed does not matter for which lines are accepted.
Main statement: `compileAll_alternatives`.
-/

namespace Muster.Template

open Muster.Pattern

variable {scope : Scope}

/-! ## A template alone -/

/-- Whether a template begins with a slot, white space apart. -/
def beginsWithSlot (template : String) : Bool :=
  match parse template with
  | .ok pieces => Piece.startsWithSlot pieces
  | .error _ => false

/-- What a template by itself matches a line with, given what slots can refer to by then. -/
def matchAlone (scope live : Scope) (line template : String) : Option Bindings :=
  (compile scope template).toOption.bind (matchLine live · line)

theorem compile_eq_bind (scope : Scope) (template : String) :
    compile scope template = parse template >>= compileLine scope := rfl

theorem matchAlone_of_ok {template : String} {pattern : Pattern}
    (h : compile scope template = .ok pattern) (live : Scope) (line : String) :
    matchAlone scope live line template = matchLine live pattern line := by
  rw [matchAlone, h]
  rfl

/-- A template is compiled as if it were alone, and put where it belongs by what it begins with. -/
theorem compileRanked_eq_ok_iff {template : String} {ranked : Bool × Pattern} :
    compileRanked scope template = .ok ranked ↔
      compile scope template = .ok ranked.2 ∧ ranked.1 = beginsWithSlot template := by
  unfold compileRanked beginsWithSlot
  rw [compile_eq_bind]
  cases parse template with
  | error defect =>
    constructor
    · intro h
      cases h
    · rintro ⟨h, _⟩
      cases h
  | ok pieces =>
    have hline : (Except.ok pieces >>= compileLine scope) = compileLine scope pieces := rfl
    simp only [hline]
    cases compileLine scope pieces with
    | error defect => simp
    | ok pattern => simp [Prod.ext_iff, and_comm, eq_comm]

/-- A template that does not compile is reported with its own defect. -/
theorem compileRanked_eq_error_iff {template : String} {invalid : Invalid} :
    compileRanked scope template = .error invalid ↔
      invalid.template = template ∧ compile scope template = .error invalid.defect := by
  obtain ⟨culprit, defect⟩ := invalid
  unfold compileRanked
  rw [compile_eq_bind]
  cases parse template with
  | error found =>
    show (Except.error (Invalid.mk template found) : Except Invalid (Bool × Pattern)) =
        .error ⟨culprit, defect⟩ ↔
      culprit = template ∧ (Except.error found : Except Defect Pattern) = .error defect
    simp [eq_comm]
  | ok pieces =>
    have hline : (Except.ok pieces >>= compileLine scope) = compileLine scope pieces := rfl
    simp only [hline]
    cases compileLine scope pieces with
    | error found => simp [eq_comm]
    | ok pattern => simp

/-- What a template by itself matches, it matches up to the end of the line. -/
theorem whole_of_compile {template : String} {pattern : Pattern}
    (h : compile scope template = .ok pattern) (live : Scope) (text : List Char)
    (bindings : Bindings) :
    (matchText live pattern text bindings).1 = none ∨
      (matchText live pattern text bindings).1 = some [] := by
  rw [compile_eq_bind] at h
  obtain ⟨pieces, _, hline⟩ := bind_eq_ok_iff.1 h
  exact whole_of_compileLine hline live text bindings

/-! ## All templates -/

/-- The templates of a command in the order in which they are tried. -/
def inTrialOrder (templates : List String) : List String :=
  templates.filter (!beginsWithSlot ·) ++ templates.filter beginsWithSlot

theorem mem_inTrialOrder {template : String} {templates : List String} :
    template ∈ inTrialOrder templates ↔ template ∈ templates := by
  rw [inTrialOrder, List.mem_append, List.mem_filter, List.mem_filter]
  cases beginsWithSlot template <;> simp

/-- Matching with the templates of one kind, one after the other, is matching with each of them
alone. -/
theorem findSome?_of_mapM {templates : List String} {ranked : List (Bool × Pattern)}
    (h : templates.mapM (compileRanked scope) = .ok ranked) (keep : Bool → Bool) (live : Scope)
    (line : String) :
    ((ranked.filter (keep ·.1)).map (·.2)).findSome? (matchLine live · line) =
      (templates.filter (keep <| beginsWithSlot ·)).findSome? (matchAlone scope live line) := by
  replace h := mapM_eq_ok_iff.1 h
  induction h with
  | nil => rfl
  | @cons template one templates ranked hone _ ih =>
    obtain ⟨hcompile, hslot⟩ := compileRanked_eq_ok_iff.1 hone
    rw [List.filter_cons, List.filter_cons, hslot]
    by_cases hkeep : keep (beginsWithSlot template) = true
    · rw [if_pos hkeep, if_pos hkeep, List.map_cons, List.findSome?_cons, List.findSome?_cons, ih,
        matchAlone_of_ok hcompile]
    · rw [if_neg hkeep, if_neg hkeep, ih]

/-- The parts of a command are the patterns of its templates, in the order in which they are
tried. -/
theorem compileAll_eq_ok_iff {templates : List String} {pattern : Pattern} :
    compileAll scope templates = .ok pattern ↔
      ∃ ranked, templates.mapM (compileRanked scope) = .ok ranked ∧
        pattern = .choice ((ranked.filter (!·.1) ++ ranked.filter (·.1)).map (·.2)) := by
  unfold compileAll
  rw [bind_eq_ok_iff]
  constructor
  · rintro ⟨ranked, hranked, h⟩
    rw [List.partition_eq_filter_filter] at h
    cases h
    exact ⟨ranked, hranked, rfl⟩
  · rintro ⟨ranked, hranked, rfl⟩
    refine ⟨ranked, hranked, ?_⟩
    rw [List.partition_eq_filter_filter]
    rfl

/-- A template that compiles alone is compiled with the others. -/
theorem exists_compileRanked_iff {template : String} :
    (∃ ranked, compileRanked scope template = .ok ranked) ↔
      ∃ pattern, compile scope template = .ok pattern := by
  constructor
  · rintro ⟨ranked, h⟩
    exact ⟨ranked.2, (compileRanked_eq_ok_iff.1 h).1⟩
  · rintro ⟨pattern, h⟩
    exact ⟨(beginsWithSlot template, pattern), compileRanked_eq_ok_iff.2 ⟨h, rfl⟩⟩

/-- A command compiles if each of its templates does. -/
theorem exists_compileAll_iff {templates : List String} :
    (∃ pattern, compileAll scope templates = .ok pattern) ↔
      ∀ template ∈ templates, ∃ pattern, compile scope template = .ok pattern := by
  have hmapM : (∃ pattern, compileAll scope templates = .ok pattern) ↔
      ∃ ranked, templates.mapM (compileRanked scope) = .ok ranked := by
    constructor
    · rintro ⟨pattern, h⟩
      obtain ⟨ranked, hranked, _⟩ := compileAll_eq_ok_iff.1 h
      exact ⟨ranked, hranked⟩
    · rintro ⟨ranked, hranked⟩
      exact ⟨_, compileAll_eq_ok_iff.2 ⟨ranked, hranked, rfl⟩⟩
  rw [hmapM, exists_mapM_iff]
  simp only [exists_compileRanked_iff]

/-- A command that does not compile reports the first of its templates that does not. -/
theorem compileAll_eq_error_iff {templates : List String} {invalid : Invalid} :
    compileAll scope templates = .error invalid ↔
      ∃ before after, templates = before ++ invalid.template :: after ∧
        (∀ template ∈ before, ∃ pattern, compile scope template = .ok pattern) ∧
        compile scope invalid.template = .error invalid.defect := by
  have hmapM : compileAll scope templates = .error invalid ↔
      templates.mapM (compileRanked scope) = .error invalid := by
    unfold compileAll
    rw [bind_eq_error_iff]
    constructor
    · rintro (h | ⟨_, _, h⟩)
      · exact h
      · cases h
    · exact Or.inl
  rw [hmapM, mapM_eq_error_iff]
  simp only [exists_compileRanked_iff]
  constructor
  · rintro ⟨before, template, after, htemplates, hbefore, hinvalid⟩
    obtain ⟨rfl, hdefect⟩ := compileRanked_eq_error_iff.1 hinvalid
    exact ⟨before, after, htemplates, hbefore, hdefect⟩
  · rintro ⟨before, after, htemplates, hbefore, hdefect⟩
    exact ⟨before, invalid.template, after, htemplates, hbefore,
      compileRanked_eq_error_iff.2 ⟨rfl, hdefect⟩⟩

/-- A command matches a line as the first of its templates does that matches it alone. -/
theorem matchLine_compileAll {templates : List String} {pattern : Pattern}
    (h : compileAll scope templates = .ok pattern) (live : Scope) (line : String) :
    pattern.matchLine live line =
      (inTrialOrder templates).findSome? (matchAlone scope live line) := by
  obtain ⟨ranked, hranked, rfl⟩ := compileAll_eq_ok_iff.1 h
  have hwhole : ∀ way ∈ (ranked.filter (!·.1) ++ ranked.filter (·.1)).map (·.2), ∀ text bindings,
      (matchText live way text bindings).1 = none ∨
        (matchText live way text bindings).1 = some [] := by
    intro way hway text bindings
    obtain ⟨one, hone, rfl⟩ := List.mem_map.1 hway
    have hmem : one ∈ ranked := by
      rcases List.mem_append.1 hone with hone | hone
      · exact List.mem_of_mem_filter hone
      · exact List.mem_of_mem_filter hone
    obtain ⟨template, _, hcompiled⟩ := mem_of_mapM hranked hmem
    exact whole_of_compile (compileRanked_eq_ok_iff.1 hcompiled).1 live text bindings
  rw [matchLine_choice hwhole, List.map_append, List.findSome?_append, inTrialOrder,
    List.findSome?_append, findSome?_of_mapM hranked (!·), findSome?_of_mapM hranked (·)]

/-- A command with one template matches as the template alone does. -/
theorem exists_compileAll_singleton {template : String} {alone : Pattern}
    (h : compile scope template = .ok alone) :
    ∃ pattern, compileAll scope [template] = .ok pattern ∧
      ∀ live line, pattern.matchLine live line = alone.matchLine live line := by
  have hall : ∀ other ∈ [template], ∃ pattern, compile scope other = .ok pattern := by
    intro other hother
    rw [List.mem_singleton.1 hother]
    exact ⟨alone, h⟩
  obtain ⟨pattern, hpattern⟩ := exists_compileAll_iff.2 hall
  refine ⟨pattern, hpattern, fun live line => ?_⟩
  have horder : inTrialOrder [template] = [template] := by
    rw [inTrialOrder, List.filter_singleton, List.filter_singleton]
    cases beginsWithSlot template <;> rfl
  rw [matchLine_compileAll hpattern, horder, List.findSome?_cons, List.findSome?_nil,
    matchAlone_of_ok h]
  cases alone.matchLine live line <;> rfl

/-- A command accepts the lines that its templates accept. -/
theorem isSome_matchLine_compileAll {templates : List String} {pattern : Pattern}
    (h : compileAll scope templates = .ok pattern) (live : Scope) (line : String) :
    (pattern.matchLine live line).isSome = true ↔ ∃ template ∈ templates, ∃ alone,
      compile scope template = .ok alone ∧ (alone.matchLine live line).isSome = true := by
  rw [matchLine_compileAll h, List.isSome_findSome?, List.any_eq_true]
  constructor
  · rintro ⟨template, htemplate, hmatch⟩
    have hmem := mem_inTrialOrder.1 htemplate
    obtain ⟨alone, halone⟩ := exists_compileAll_iff.1 ⟨pattern, h⟩ template hmem
    rw [matchAlone_of_ok halone] at hmatch
    exact ⟨template, hmem, alone, halone, hmatch⟩
  · rintro ⟨template, htemplate, alone, halone, hmatch⟩
    refine ⟨template, mem_inTrialOrder.2 htemplate, ?_⟩
    rw [matchAlone_of_ok halone]
    exact hmatch

/-- The templates of a command do not block each other. The command compiles exactly if each of them
does alone, and otherwise reports the first one that does not, with its own defect. It matches a
line as the first of them does that matches it alone, those that begin with a slot coming last. So
it accepts the lines that they accept, in whatever order they are listed. -/
theorem compileAll_alternatives (scope : Scope) (templates : List String) :
    ((∃ pattern, compileAll scope templates = .ok pattern) ↔
      ∀ template ∈ templates, ∃ pattern, compile scope template = .ok pattern) ∧
    (∀ invalid, compileAll scope templates = .error invalid ↔
      ∃ before after, templates = before ++ invalid.template :: after ∧
        (∀ template ∈ before, ∃ pattern, compile scope template = .ok pattern) ∧
        compile scope invalid.template = .error invalid.defect) ∧
    ∀ pattern, compileAll scope templates = .ok pattern →
      (∀ live line, pattern.matchLine live line =
        (inTrialOrder templates).findSome? (matchAlone scope live line)) ∧
      (∀ live line, (pattern.matchLine live line).isSome = true ↔
        ∃ template ∈ templates, ∃ alone, compile scope template = .ok alone ∧
          (alone.matchLine live line).isSome = true) ∧
      ∀ others : List String, others.Perm templates → ∃ other,
        compileAll scope others = .ok other ∧ ∀ live line,
          (other.matchLine live line).isSome = (pattern.matchLine live line).isSome := by
  refine ⟨exists_compileAll_iff, fun invalid => compileAll_eq_error_iff, fun pattern h => ?_⟩
  refine ⟨matchLine_compileAll h, isSome_matchLine_compileAll h, fun others hperm => ?_⟩
  have hall := exists_compileAll_iff.1 ⟨pattern, h⟩
  obtain ⟨other, hother⟩ := exists_compileAll_iff.2 fun template htemplate =>
    hall template (hperm.mem_iff.1 htemplate)
  refine ⟨other, hother, fun live line => ?_⟩
  rw [Bool.eq_iff_iff, isSome_matchLine_compileAll hother, isSome_matchLine_compileAll h]
  simp only [hperm.mem_iff]

/-- A template that takes anything is listed first, and keeps no other one from being seen. -/
theorem topics_alternatives :
    ∃ pattern, compileAll {} ["\x7btopic\x7d", "list [the] topics"] = .ok pattern ∧
      pattern.matchLine {} "list topics" = matchAlone {} {} "list topics" "list [the] topics" ∧
      ((pattern.matchLine {} "List the topics").map (·.contains .topic)) = some false ∧
      ((pattern.matchLine {} "list of topics").map (·.text? .topic)) = some (some "list of topics") := by
  have hcheck : (compileAll {} ["\x7btopic\x7d", "list [the] topics"]).toOption.any (fun pattern =>
      (pattern.matchLine {} "List the topics").map (·.contains .topic) == some false &&
        (pattern.matchLine {} "list of topics").map (·.text? .topic) ==
          some (some "list of topics")) = true := by
    decide +kernel
  obtain ⟨pattern, hpattern, hlines⟩ := exists_ok_of_any hcheck
  rw [Bool.and_eq_true, beq_iff_eq, beq_iff_eq] at hlines
  obtain ⟨hmatch, _, _⟩ :=
    (compileAll_alternatives {} ["\x7btopic\x7d", "list [the] topics"]).2.2 pattern hpattern
  refine ⟨pattern, hpattern, ?_, hlines.1, hlines.2⟩
  rw [hmatch]
  have horder : inTrialOrder ["\x7btopic\x7d", "list [the] topics"] =
      ["list [the] topics", "\x7btopic\x7d"] := by
    decide +kernel
  have hsome : (matchAlone {} {} "list topics" "list [the] topics").isSome = true := by
    decide +kernel
  obtain ⟨bindings, hbindings⟩ := Option.isSome_iff_exists.1 hsome
  rw [horder, List.findSome?_cons, hbindings]

end Muster.Template
