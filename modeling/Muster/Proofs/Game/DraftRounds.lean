import Muster.Proofs.Game.Drafts
import Muster.Proofs.Game.Rounds

/-!
# Drafts round by round

Whoever makes a character types one line after the other. What a line comes to depends only on the
command that it is meant for and on the draft (`turn`): it ends the stage, or it goes on with a draft
that has taken over what the line sets, if it sets anything. Main statements: `gives_respond` for one
round, and `drafted_of_unfolds` for all of them. The draft holds the last value that was accepted for
each field, and the stage ends with the first line that gives the draft up or completes it.
-/

namespace Muster.Game

open Muster.Flow Play

namespace CharacterCreation

variable {data : GameData}

/-! ## What a draft takes over -/

/-- The name that a command gives, unless the name is blank. -/
def givenName? : Action × Bindings → Option String
  | (.rename, bindings) =>
    let name := displayName ((bindings.text? .name).getD "")
    if name.isEmpty then none else some name
  | _ => none

/-- The species that a command chooses, if it is known. -/
def chosenSpecies? : Action × Bindings → Option Species
  | (.setSpecies, bindings) => bindings.species?
  | _ => none

/-- The background that a command chooses, if it is known. -/
def chosenBackground? : Action × Bindings → Option Background
  | (.setBackground, bindings) => bindings.background?
  | _ => none

/-- The draft with what a command sets. -/
def Draft.take (draft : Draft) (found : Action × Bindings) : Draft where
  name := (givenName? found).getD draft.name
  species := (chosenSpecies? found).or draft.species
  background := (chosenBackground? found).or draft.background

section

variable (set : CommandSet Action) (data : GameData)

/-- The name that a line gives, if it gives one. -/
def nameIn (line : String) : Option String := (meaning set (data.scope none) line).bind givenName?

/-- The species that a line chooses, if it chooses one. -/
def speciesIn (line : String) : Option Species :=
  (meaning set (data.scope none) line).bind chosenSpecies?

/-- The background that a line chooses, if it chooses one. -/
def backgroundIn (line : String) : Option Background :=
  (meaning set (data.scope none) line).bind chosenBackground?

/-- The draft after some lines. Of each field it holds the last value that was accepted, or what it
held before if none was. -/
def Draft.after (draft : Draft) (lines : List String) : Draft where
  name := (lines.filterMap (nameIn set data)).getLast?.getD draft.name
  species := (lines.filterMap (speciesIn set data)).getLast?.or draft.species
  background := (lines.filterMap (backgroundIn set data)).getLast?.or draft.background

/-- The draft as a character needs it, once a species and a background have been chosen. -/
def Draft.finished? (draft : Draft) : Option Finished :=
  match draft.species, draft.background with
  | some species, some background => some { name := draft.name, species, background }
  | _, _ => none

/-- The line ends the stage, with a character or without: it gives the draft up, or it is done with
the draft and this has all that a character needs. -/
def Ends (draft : Draft) (line : String) : Option Finished → Prop
  | none => ∃ bindings, meaning set (data.scope none) line = some (.abort, bindings)
  | some finished =>
    (∃ bindings, meaning set (data.scope none) line = some (.done, bindings)) ∧
      draft.finished? = some finished

/-- What comes of a line. -/
def turn (draft : Draft) (line : String) : Turn Draft (Option Finished) :=
  match meaning set (data.scope none) line with
  | some (.abort, _) => .leave none
  | some (.done, _) =>
    match draft.finished? with
    | some finished => .leave (some finished)
    | none => .again draft
  | _ => .again (draft.after set data [line])

end

section

variable {set : CommandSet Action} {draft : Draft} {line : String}

/-- A line sets what its command sets. -/
theorem after_singleton (draft : Draft) (line : String) :
    draft.after set data [line] = ((meaning set (data.scope none) line).map draft.take).getD draft := by
  unfold Draft.after
  simp only [List.filterMap_cons, List.filterMap_nil, nameIn, speciesIn, backgroundIn]
  cases meaning set (data.scope none) line with
  | none => rfl
  | some found =>
    show _ = draft.take found
    unfold Draft.take
    simp only [Option.bind_some]
    congr 1
    · cases givenName? found <;> rfl
    · cases chosenSpecies? found <;> rfl
    · cases chosenBackground? found <;> rfl

/-- Later lines add to what earlier ones have set. -/
theorem after_append (draft : Draft) (lines more : List String) :
    draft.after set data (lines ++ more) = (draft.after set data lines).after set data more := by
  unfold Draft.after
  simp only [List.filterMap_append, List.getLast?_append, Option.or_assoc]
  congr 1
  cases (more.filterMap (nameIn set data)).getLast? <;> rfl

/-- When the stage goes on, it does so with what the line has set. -/
theorem eq_after_of_turn {next : Draft} (h : turn set data draft line = .again next) :
    next = draft.after set data [line] := by
  unfold turn at h
  split at h
  · cases h
  · next bindings hmeaning =>
    split at h
    · cases h
    · rw [after_singleton, hmeaning]
      exact (Turn.again.inj h).symm
  · exact (Turn.again.inj h).symm

/-- The stage is left by a line that ends it. -/
theorem turn_eq_leave_iff {value : Option Finished} :
    turn set data draft line = .leave value ↔ Ends set data draft line value := by
  constructor
  · intro h
    unfold turn at h
    split at h
    · next bindings hmeaning =>
      cases h
      exact ⟨bindings, hmeaning⟩
    · next bindings hmeaning =>
      split at h
      · next finished hfinished =>
        cases h
        exact ⟨⟨bindings, hmeaning⟩, hfinished⟩
      · cases h
    · cases h
  · intro h
    unfold turn
    cases value with
    | none =>
      obtain ⟨bindings, hmeaning⟩ := h
      rw [hmeaning]
    | some finished =>
      obtain ⟨⟨bindings, hmeaning⟩, hfinished⟩ := h
      rw [hmeaning]
      simp only [hfinished]

/-! ## One round -/

/-- Does what a line has been found to mean. -/
def follow (draft : Draft) : Option (Action × Bindings) → Play (Turn Draft (Option Finished))
  | none => pure (.again draft)
  | some (action, bindings) => act draft action bindings

/-- What character creation makes of a line. -/
def respond (set : CommandSet Action) (draft : Draft) (line : String) :
    Play (Turn Draft (Option Finished)) :=
  partylessScope >>= fun scope => understand set scope line >>= follow draft

theorem finishDraft_eq_converse (set : CommandSet Action) (draft : Draft) :
    finishDraft set draft = converse (askMessage StageName.characterCreation "prompt")
      (reads_askMessage StageName.characterCreation "prompt") (respond set) draft :=
  commandLoop_eq_converse follow (fun _ => rfl) (fun _ _ _ => rfl) draft

/-- An action succeeds with what comes of the line that is meant for it. -/
theorem gives_act_turn {action : Action} {bindings : Bindings}
    (hmeaning : meaning set (data.scope none) line = some (action, bindings)) :
    Gives data (· = turn set data draft line) (act draft action bindings) := by
  have hafter : draft.after set data [line] = draft.take (action, bindings) := by
    rw [after_singleton, hmeaning]
    rfl
  unfold turn
  rw [hmeaning]
  cases action with
  | help | overview =>
    rw [hafter]
    exact Gives.of_bind fun _ => gives_pure rfl
  | listSpecies | listBackgrounds =>
    rw [hafter]
    exact Gives.of_bind fun _ => Gives.of_bind fun _ => Gives.of_bind fun _ => gives_pure rfl
  | abort => exact Gives.of_bind fun _ => gives_pure rfl
  | setSpecies =>
    have htaken : draft.take (.setSpecies, bindings) =
        { draft with species := bindings.species?.or draft.species } := rfl
    rw [hafter, htaken]
    simp only [act]
    split
    · next species hfilled =>
      rw [hfilled]
      exact Gives.of_bind fun _ => gives_pure rfl
    · next hunresolved =>
      rw [hunresolved]
      exact Gives.of_bind fun _ => gives_pure rfl
  | setBackground =>
    have htaken : draft.take (.setBackground, bindings) =
        { draft with background := bindings.background?.or draft.background } := rfl
    rw [hafter, htaken]
    simp only [act]
    split
    · next background hfilled =>
      rw [hfilled]
      exact Gives.of_bind fun _ => gives_pure rfl
    · next hunresolved =>
      rw [hunresolved]
      exact Gives.of_bind fun _ => gives_pure rfl
  | rename =>
    have htaken : draft.take (.rename, bindings) =
        { draft with name := (givenName? (.rename, bindings)).getD draft.name } := rfl
    rw [hafter, htaken, givenName?]
    simp only [act]
    split
    · exact gives_pure rfl
    · exact Gives.of_bind fun _ => gives_pure rfl
  | done =>
    simp only [act]
    cases hchosen : draft.species with
    | none =>
      have hunfinished : draft.finished? = none := by simp [Draft.finished?, hchosen]
      rw [hunfinished]
      exact Gives.of_bind fun _ => gives_pure rfl
    | some species =>
      cases hbg : draft.background with
      | none =>
        have hunfinished : draft.finished? = none := by simp [Draft.finished?, hchosen, hbg]
        rw [hunfinished]
        exact Gives.of_bind fun _ => gives_pure rfl
      | some background =>
        have hfinished : draft.finished? = some ⟨draft.name, species, background⟩ := by
          simp [Draft.finished?, hchosen, hbg]
        rw [hfinished]
        exact gives_pure rfl

/-- A response that succeeds is what comes of the line. -/
theorem gives_respond (set : CommandSet Action) (draft : Draft) (line : String) :
    Gives data (· = turn set data draft line) (respond set draft line) := by
  refine gives_partylessScope.bind fun scope hscope => ?_
  rw [hscope]
  have hcases : (_ ∧ Gives data _ _) ∨ _ := understand_meaning set (data.scope none) line
  rcases hcases with ⟨hmeaning, hnone⟩ | ⟨⟨action, bindings⟩, hmeaning, hunderstood⟩
  · refine hnone.bind fun meant hmeant => ?_
    rw [hmeant]
    refine gives_pure ?_
    unfold turn
    rw [after_singleton, hmeaning]
    rfl
  · rw [hunderstood]
    exact gives_act_turn hmeaning

/-- A draft that is complete is not refused. -/
theorem run_respond_of_ends {finished : Finished} (h : Ends set data draft line (some finished))
    (session : Session) :
    (respond set draft line).run data session = .ok (.leave (some finished)) session := by
  obtain ⟨⟨bindings, hmeaning⟩, hfinished⟩ := h
  have hcases : (_ ∧ Gives data _ _) ∨ _ := understand_meaning set (data.scope none) line
  rcases hcases with ⟨hnone, _⟩ | ⟨found, hfound, hunderstood⟩
  · rw [hmeaning] at hnone
    cases hnone
  · rw [hmeaning] at hfound
    cases hfound
    have hrun : (respond set draft line).run data session =
        (understand set (data.scope none) line >>= follow draft).run data session := rfl
    rw [hrun, hunderstood]
    show (act draft .done bindings).run data session = _
    unfold Draft.finished? at hfinished
    split at hfinished
    · next species background hspecies hbackground =>
      cases hfinished
      unfold act
      simp only [hspecies, hbackground]
      rfl
    · cases hfinished

/-! ## All rounds -/

/-- How a draft fares to which some lines are typed, given what comes of them in the end. -/
structure Drafted (set : CommandSet Action) (data : GameData) (draft : Draft) (lines : List String)
    (outcome : Outcome (Option Finished)) : Prop where
  /-- No line but the last one ends the stage. -/
  earlier : ∀ before line after, lines = before ++ line :: after → after ≠ [] →
    ∀ value, ¬ Ends set data (draft.after set data before) line value
  /-- A stage that is left has been ended by the last line. -/
  left : ∀ value last, outcome = .ok value last →
    ∃ before line, lines = before ++ [line] ∧ Ends set data (draft.after set data before) line value
  /-- In a stage that fails, the last line has not completed the draft either. -/
  failed : ∀ failure last, outcome = .error failure last → ∀ before line, lines = before ++ [line] →
    ∀ finished, ¬ Ends set data (draft.after set data before) line (some finished)

/-- Nothing has been typed when the first question is not answered. -/
theorem drafted_nil (draft : Draft) (failure : Failure) (last : Session) :
    Drafted set data draft [] (.error failure last) := by
  refine ⟨fun before line after hlines => ?_, fun value last h => ?_,
    fun _ _ _ before line hlines => ?_⟩
  · simp at hlines
  · cases h
  · simp at hlines

/-- The line that is typed last ends the stage, or the stage fails without the draft being
complete. -/
theorem drafted_singleton {outcome : Outcome (Option Finished)}
    (hleft : ∀ value last, outcome = .ok value last → Ends set data draft line value)
    (hfailed : ∀ failure last, outcome = .error failure last →
      ∀ finished, ¬ Ends set data draft line (some finished)) :
    Drafted set data draft [line] outcome := by
  have hsplit : ∀ {before other after}, [line] = before ++ other :: after →
      before = [] ∧ line = other ∧ after = [] := by
    intro before other after hlines
    cases before with
    | nil =>
      obtain ⟨hline, hafter⟩ := List.cons.inj hlines
      exact ⟨rfl, hline, hafter.symm⟩
    | cons first before => simp at hlines
  refine ⟨fun before other after hlines hafter => ?_, fun value last h => ?_,
    fun failure last h before other hlines => ?_⟩
  · exact absurd (hsplit hlines).2.2 hafter
  · exact ⟨[], line, rfl, hleft value last h⟩
  · obtain ⟨rfl, rfl, _⟩ := hsplit hlines
    exact hfailed failure last h

/-- A line that does not end the stage comes before the others, which find the draft with what it
has set. -/
theorem Drafted.cons {lines : List String} {outcome : Outcome (Option Finished)}
    (hline : ∀ value, ¬ Ends set data draft line value)
    (h : Drafted set data (draft.after set data [line]) lines outcome) :
    Drafted set data draft (line :: lines) outcome := by
  have hafter : ∀ before, (draft.after set data [line]).after set data before =
      draft.after set data (line :: before) := fun before => (after_append draft [line] before).symm
  refine ⟨fun before other after hlines hne => ?_, fun value last houtcome => ?_,
    fun failure last houtcome before other hlines => ?_⟩
  · cases before with
    | nil =>
      rw [← (List.cons.inj hlines).1]
      exact hline
    | cons first before =>
      obtain ⟨rfl, hrest⟩ := List.cons.inj hlines
      have hearlier := h.earlier before other after hrest hne
      rw [hafter] at hearlier
      exact hearlier
  · obtain ⟨before, other, hlines, hends⟩ := h.left value last houtcome
    rw [hafter] at hends
    exact ⟨line :: before, other, by rw [hlines, List.cons_append], hends⟩
  · cases before with
    | nil =>
      rw [← (List.cons.inj hlines).1]
      exact fun finished => hline (some finished)
    | cons first before =>
      obtain ⟨rfl, hrest⟩ := List.cons.inj hlines
      have hfailed := h.failed failure last houtcome before other hrest
      rw [hafter] at hfailed
      exact hfailed

/-- What all rounds come to: by induction on how the conversation unfolds, where each round passes on
a draft that has taken over what its line sets. -/
theorem drafted_of_unfolds {session : Session} {rounds : List (Round Draft (Option Finished))}
    {outcome : Outcome (Option Finished)}
    (h : Unfolds (askMessage StageName.characterCreation "prompt") (respond set) data draft session
      rounds outcome) :
    Drafted set data draft (rounds.map (·.line)) outcome := by
  induction h with
  | unanswered _ => exact drafted_nil _ _ _
  | @failed round failure last h houtcome =>
    have hresponse := h.response
    rw [houtcome] at hresponse
    refine drafted_singleton (fun value last hvalue => ?_) fun _ _ _ finished hends => ?_
    · cases hvalue
    · rw [run_respond_of_ends hends] at hresponse
      cases hresponse
  | @left round value last h houtcome =>
    have hresponse := h.response
    rw [houtcome] at hresponse
    have hturn := gives_respond _ _ _ _ _ _ hresponse
    refine drafted_singleton (fun other last hvalue => ?_) fun failure last hfailure => ?_
    · cases hvalue
      exact turn_eq_leave_iff.1 hturn.symm
    · cases hfailure
  | @again round following next rounds outcome h houtcome _ ih =>
    have hresponse := h.response
    rw [houtcome] at hresponse
    have hturn : Turn.again following = turn set data round.state round.line :=
      gives_respond _ _ _ _ _ _ hresponse
    rw [eq_after_of_turn hturn.symm] at ih
    refine ih.cons fun value hends => ?_
    rw [turn_eq_leave_iff.2 hends] at hturn
    cases hturn

end

end CharacterCreation

end Muster.Game
