import Muster.Proofs.Command.Meaning
import Muster.Proofs.Pattern.Compiled
import Muster.Proofs.Pattern.Routes

/-!
# Commands that share no line

A line is ambiguous if the patterns of two commands match it. That there is no such line can often
be told from the routes through the patterns: two routes have the same words up to a place where they
are `apart`, because no text begins with the next words of both, or because one goes on where the
other wants the line to end. The check looks at templates only, and holds for lines of any length.
Main statements: no line is recognized by two patterns that pass it (`recognizeLine_of_disjoint`),
and none is ambiguous among commands that do, two by two (`CommandSet.dispatch_ne_ambiguous`).
-/

namespace Muster

open Muster.Text Muster.Unicode Muster.Pattern

/-! ## Words that exclude each other -/

namespace Pattern

/-- If the longer word begins with the word, it goes on in a letter or digit where the word must not
be followed by one. -/
def stopsShort (word longer : List Char) : Bool :=
  endsAlphanumeric word && (longer.drop word.length).head?.any Char.isAlphanum

/-- No text begins with both words: neither of them begins with the other one, or else the shorter one
stops short of the longer. -/
def clash (first second : List Char) : Bool :=
  (!(caseless first).isPrefixOf (caseless second) || stopsShort first second) &&
    (!(caseless second).isPrefixOf (caseless first) || stopsShort second first)

/-- A word that can be taken off a text with a longer word does not stop short of it. -/
theorem not_stopsShort {word longer taken extra rest : List Char}
    (hword : caseless taken = caseless word) (hlonger : caseless (taken ++ extra) = caseless longer)
    (hends : ¬ (endsAlphanumeric word = true ∧ startsAlphanumeric (extra ++ rest) = true)) :
    stopsShort word longer = false := by
  rw [Bool.eq_false_iff]
  intro hstops
  rw [stopsShort, Bool.and_eq_true] at hstops
  have hlength : taken.length = word.length := by
    have h := congrArg List.length hword
    rwa [caseless, caseless, List.length_map, List.length_map] at h
  have hextra : caseless extra = caseless (longer.drop word.length) := by
    have h := congrArg (List.drop word.length) hlonger
    rwa [caseless, caseless, ← List.map_drop, ← List.map_drop, ← hlength, List.drop_left,
      hlength] at h
  cases hdrop : longer.drop word.length with
  | nil =>
    rw [hdrop] at hstops
    cases hstops.2
  | cons letter letters =>
    rw [hdrop] at hstops hextra
    cases extra with
    | nil => cases hextra
    | cons c cs =>
      rw [caseless_cons, caseless_cons, List.cons.injEq] at hextra
      have hc : isAlphanumeric c = true := isAlphanumeric_of_lowerChar_eq hstops.2 hextra.1
      exact hends ⟨hstops.1, hc⟩

/-- Words that can both be taken off a text do not clash. -/
theorem not_clash {first second text rest more : List Char} (hfirst : takeWord first text = some rest)
    (hsecond : takeWord second text = some more) : clash first second = false := by
  obtain ⟨taken, htext, htaken, hends⟩ := takeWord_eq_some_iff.1 hfirst
  obtain ⟨taken', htext', htaken', hends'⟩ := takeWord_eq_some_iff.1 hsecond
  -- one of the words begins with the other one
  rcases List.append_eq_append_iff.1 (htext.symm.trans htext') with
    ⟨extra, hextra, hrest⟩ | ⟨extra, hextra, hmore⟩
  · have hlonger : caseless (taken ++ extra) = caseless second := by rw [← hextra, htaken']
    have hstarts : (caseless first).isPrefixOf (caseless second) = true := by
      apply List.isPrefixOf_iff_prefix.2
      rw [← hlonger, ← htaken]
      exact ⟨caseless extra, List.map_append.symm⟩
    rw [hrest] at hends
    rw [clash, not_stopsShort htaken hlonger hends, hstarts]
    rfl
  · have hlonger : caseless (taken' ++ extra) = caseless first := by rw [← hextra, htaken]
    have hstarts : (caseless second).isPrefixOf (caseless first) = true := by
      apply List.isPrefixOf_iff_prefix.2
      rw [← hlonger, ← htaken']
      exact ⟨caseless extra, List.map_append.symm⟩
    rw [hmore] at hends'
    rw [clash, not_stopsShort htaken' hlonger hends', hstarts]
    simp

end Pattern

/-! ## White space in front -/

theorem isBlank_congr_trimStart {text other : List Char} (h : trimStart text = trimStart other) :
    isBlank text = isBlank other := by
  rw [Bool.eq_iff_iff, ← trimStart_eq_nil_iff, ← trimStart_eq_nil_iff, h]

/-- A text off which a word is taken begins where the word does. -/
theorem startsWord_of_takeWord {word text rest : List Char} (hword : startsWord word = true)
    (h : takeWord word text = some rest) : startsWord text = true := by
  obtain ⟨taken, rfl, htaken, _⟩ := takeWord_eq_some_iff.1 h
  cases word with
  | nil => cases hword
  | cons letter letters =>
    cases taken with
    | nil => cases htaken
    | cons c cs =>
      rw [caseless_cons, caseless_cons, List.cons.injEq] at htaken
      rw [startsWord_cons] at hword
      rw [List.cons_append, startsWord_cons, isWhite_eq_of_lowerChar_eq htaken.1]
      exact hword

/-! ## Routes that exclude each other -/

namespace Step

/-- There must be something left for the step to take. -/
def goesOn : Step → Bool
  | .word letters => startsWord letters
  | .gap => false
  | .slot _ _ => true
  | .lineEnd => false

/-- The two steps cannot be taken in the same place, white space apart. -/
def excludes : Step → Step → Bool
  | .lineEnd, other => other.goesOn
  | step, .lineEnd => step.goesOn
  | .word first, .word second => startsWord first && startsWord second && clash first second
  | _, _ => false

/-- The two steps take the same word. -/
def agrees : Step → Step → Bool
  | .word first, .word second => startsWord first && first == second
  | _, _ => false

/-- The step takes something other than white space, or ends the line. -/
def isLandmark : Step → Bool
  | .gap => false
  | _ => true

end Step

/-- A route without the white space. -/
def landmarks (route : List Step) : List Step := route.filter (·.isLandmark)

/-- The two routes agree in their words up to a place where they exclude each other. -/
def apart : List Step → List Step → Bool
  | step :: route, other :: others =>
    step.excludes other || (step.agrees other && apart route others)
  | _, _ => false

section

variable {step other : Step} {route others : List Step} {text text' rest rest' : List Char}
  {fillings fillings' : List Filling}

/-- A route leads to its first landmark past white space only. -/
theorem Leads.land {marks : List Step} (h : Leads route text fillings rest)
    (hmarks : landmarks route = step :: marks) :
    ∃ later start, landmarks later = marks ∧ trimStart start = trimStart text ∧
      Leads (step :: later) start fillings rest := by
  induction h with
  | arrived text => cases hmarks
  | @word letters text middle rest route fillings htake hrest _ =>
    obtain ⟨rfl, rfl⟩ := List.cons.inj hmarks
    exact ⟨route, text, rfl, rfl, .word htake hrest⟩
  | @gap text rest route fillings _ ih =>
    obtain ⟨later, start, hlater, hstart, hleads⟩ := ih hmarks
    exact ⟨later, start, hlater, hstart.trans (trimStart_trimStart text), hleads⟩
  | @slot kind stop text filling middle rest route fillings htake hrest _ =>
    obtain ⟨rfl, rfl⟩ := List.cons.inj hmarks
    exact ⟨route, text, rfl, rfl, .slot htake hrest⟩
  | @lineEnd rest route fillings hrest _ =>
    obtain ⟨rfl, rfl⟩ := List.cons.inj hmarks
    exact ⟨route, [], rfl, rfl, .lineEnd hrest⟩

/-- A step that goes on does not end the line. -/
theorem Leads.not_blank (h : Leads (step :: route) text fillings rest) (hstep : step.goesOn = true) :
    isBlank text = false := by
  cases h with
  | word htake _ =>
    have hstarts := startsWord_of_takeWord hstep htake
    rw [Bool.eq_false_iff, ne_eq, ← trimStart_eq_nil_iff, trimStart_of_startsWord hstarts]
    rintro rfl
    cases hstarts
  | gap _ => cases hstep
  | @slot kind stop text filling middle rest route fillings htake _ =>
    obtain ⟨rfl, hblank⟩ := Template.isBlank_of_takeSlot htake
    rw [isBlank, List.all_append, Bool.and_eq_false_iff]
    exact Or.inl hblank
  | lineEnd _ => cases hstep

theorem Leads.nil_of_lineEnd (h : Leads (.lineEnd :: route) text fillings rest) : text = [] := by
  cases h with
  | lineEnd _ => rfl

/-- Where the line ends, no step goes on. -/
theorem not_goesOn_of_lineEnd (h : Leads (.lineEnd :: route) text fillings rest)
    (hother : Leads (other :: others) text' fillings' rest')
    (htext : trimStart text = trimStart text') : other.goesOn = false := by
  rw [Bool.eq_false_iff]
  intro hgoes
  have hblank := hother.not_blank hgoes
  rw [← isBlank_congr_trimStart htext, h.nil_of_lineEnd] at hblank
  cases hblank

/-- A word is taken off the text that is left without its white space. -/
theorem Leads.of_word {letters : List Char} (h : Leads (.word letters :: route) text fillings rest)
    (hletters : startsWord letters = true) :
    trimStart text = text ∧ ∃ middle, takeWord letters text = some middle ∧
      Leads route middle fillings rest := by
  cases h with
  | @word _ _ middle _ _ _ htake hrest =>
    exact ⟨trimStart_of_startsWord (startsWord_of_takeWord hletters htake), middle, htake, hrest⟩

/-- Steps that are taken in the same place do not exclude each other. -/
theorem not_excludes (h : Leads (step :: route) text fillings rest)
    (hother : Leads (other :: others) text' fillings' rest')
    (htext : trimStart text = trimStart text') : step.excludes other = false := by
  cases step with
  | lineEnd => exact not_goesOn_of_lineEnd h hother htext
  | gap =>
    cases other with
    | word | gap | slot | lineEnd => rfl
  | slot kind stop =>
    cases other with
    | lineEnd => exact not_goesOn_of_lineEnd hother h htext.symm
    | word | gap | slot => rfl
  | word first =>
    cases other with
    | lineEnd => exact not_goesOn_of_lineEnd hother h htext.symm
    | gap | slot => rfl
    | word second =>
      show (startsWord first && startsWord second && clash first second) = false
      by_cases hstarts : startsWord first = true ∧ startsWord second = true
      · obtain ⟨hfirst, _, htake, _⟩ := h.of_word hstarts.1
        obtain ⟨hsecond, _, htake', _⟩ := hother.of_word hstarts.2
        have heq : text = text' := by rw [← hfirst, ← hsecond, htext]
        rw [heq] at htake
        rw [not_clash htake htake', Bool.and_false]
      · rw [← Bool.and_eq_true, Bool.not_eq_true] at hstarts
        rw [hstarts, Bool.false_and]

/-- Routes that are apart do not lead from the same text to its end. -/
theorem not_apart {marks marks' : List Step} (h : Leads route text fillings rest)
    (hother : Leads others text' fillings' rest') (hmarks : landmarks route = marks)
    (hmarks' : landmarks others = marks') (htext : trimStart text = trimStart text') :
    apart marks marks' = false := by
  induction marks generalizing route text fillings others text' fillings' marks' with
  | nil => rfl
  | cons step marks ih =>
    cases marks' with
    | nil => rfl
    | cons other marks' =>
      -- both routes come to their next landmarks in the same place, white space apart
      obtain ⟨later, start, hlater, hstart, hleads⟩ := h.land hmarks
      obtain ⟨later', start', hlater', hstart', hleads'⟩ := hother.land hmarks'
      have hsame : trimStart start = trimStart start' := by rw [hstart, hstart', htext]
      rw [apart, not_excludes hleads hleads' hsame, Bool.false_or]
      cases hagrees : step.agrees other with
      | false => rfl
      | true =>
        rw [Bool.true_and]
        cases step with
        | gap | slot | lineEnd => cases hagrees
        | word first =>
          cases other with
          | gap | slot | lineEnd => cases hagrees
          | word second =>
            obtain ⟨hstarts, heq⟩ := Bool.and_eq_true_iff.1 hagrees
            rw [beq_iff_eq] at heq
            subst heq
            -- the same word is taken off the same text, which leaves the same
            obtain ⟨htrim, middle, htake, hrest⟩ := hleads.of_word hstarts
            obtain ⟨htrim', middle', htake', hrest'⟩ := hleads'.of_word hstarts
            have hstart : start = start' := by rw [← htrim, ← htrim', hsame]
            rw [hstart, htake', Option.some.injEq] at htake
            exact ih hrest hrest' hlater hlater' (by rw [htake])

end

/-! ## Patterns and commands -/

namespace Pattern

/-- Every route through one of the patterns is apart from every route through the other. -/
def disjoint (pattern other : Pattern) : Bool :=
  (routes pattern).all fun route =>
    (routes other).all fun others => apart (landmarks route) (landmarks others)

/-- A line that a pattern recognizes is not recognized by another one that is disjoint from it. -/
theorem recognizeLine_of_disjoint {pattern other : Pattern} (h : pattern.disjoint other = true)
    {line : String} {fillings : List Filling}
    (hline : recognizeLine pattern line = some fillings) : recognizeLine other line = none := by
  cases hother : recognizeLine other line with
  | none => rfl
  | some fillings' =>
    obtain ⟨route, hroute, hleads⟩ := exists_route_of_line hline
    obtain ⟨others, hothers, hleads'⟩ := exists_route_of_line hother
    have hapart : apart (landmarks route) (landmarks others) = true :=
      List.all_eq_true.1 (List.all_eq_true.1 h route hroute) others hothers
    rw [not_apart hleads hleads' rfl rfl rfl] at hapart
    cases hapart

/-- A slot is not left empty, and a word does not end within a longer one; but a group may be left
out. -/
example :
    let checked (template other : String) : Option Bool := do
      let pattern ← (Template.compile {} template).toOption
      let second ← (Template.compile {} other).toOption
      return pattern.disjoint second
    checked "bg \x7bbg\x7d" "bg" = some true ∧ checked "bg \x7bbg\x7d" "bgs" = some true ∧
      checked "help [\x7btopic\x7d]" "help" = some false := by
  decide +kernel

end Pattern

namespace CommandSet

variable {H : Type} {set : CommandSet H}

/-- The patterns of any two commands are disjoint. -/
def Separate (set : CommandSet H) : Prop :=
  set.commands.Pairwise fun command other => command.pattern.disjoint other.pattern = true

instance (set : CommandSet H) : Decidable set.Separate :=
  inferInstanceAs (Decidable (List.Pairwise _ _))

/-- Among separate commands no line is ambiguous, whatever slots refer to. -/
theorem dispatch_ne_ambiguous (h : set.Separate) (scope : Scope) (line : String)
    (names : List String) : set.dispatch scope line ≠ .ambiguous names := by
  intro hdispatch
  have hmeant := meant_dispatch set scope line
  rw [hdispatch] at hmeant
  cases hmeant with
  | @several first second hsublist hfirst hsecond =>
    have hdisjoint : first.pattern.disjoint second.pattern = true := by
      have hpair := h.sublist hsublist
      rw [List.pairwise_cons] at hpair
      exact hpair.1 second (List.mem_singleton_self _)
    rw [Command.accepts, Pattern.matchLine_eq, Option.isSome_map] at hfirst hsecond
    obtain ⟨fillings, hrecognize⟩ := Option.isSome_iff_exists.1 hfirst
    rw [Pattern.recognizeLine_of_disjoint hdisjoint hrecognize] at hsecond
    cases hsecond

end CommandSet

end Muster
