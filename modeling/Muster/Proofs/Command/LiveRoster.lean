import Muster.Proofs.Command.TwoScopes
import Muster.Proofs.Pattern.Fillings
import Muster.Proofs.Roster.Changes

/-!
# Commands over a party that changes

The commands of a stage are registered once and stay in use while members join, change and leave.
Each line means to them what it would mean to commands registered at that moment. A slot for a
member holds the first member who goes by the text in it at that moment, and no longer one who has
left: as long as there are numbers of 32 bits for those who join, nobody gets the number of that
member. The main statement is `live_roster`.
-/

namespace Muster

variable {H : Type}

/-- The scope with a party. -/
def Scope.withParty (scope : Scope) (party : Party) : Scope := { scope with party := some party }

/-- What happens while commands are in use: the party changes, or the player types a line. -/
inductive RosterEvent where
  | roster (change : RosterChange)
  | line (text : String)

/-- The party after an event. -/
def RosterEvent.apply (party : Party) : RosterEvent → Party
  | .roster change => change.apply party
  | .line _ => party

/-- How many members join by an event. -/
def RosterEvent.joins : RosterEvent → Nat
  | .roster change => change.joins
  | .line _ => 0

/-- How many members join by some events. -/
def joinsOf : List RosterEvent → Nat
  | [] => 0
  | event :: events => event.joins + joinsOf events

theorem joinsOf_append (events later : List RosterEvent) :
    joinsOf (events ++ later) = joinsOf events + joinsOf later := by
  induction events with
  | nil => rw [List.nil_append, joinsOf, Nat.zero_add]
  | cons event events ih => rw [List.cons_append, joinsOf, joinsOf, ih, Nat.add_assoc]

/-- What the lines among some events mean, given the commands that are in use for each party. -/
def meanings (scope : Scope) (commands : Party → CommandSet H) :
    Party → List RosterEvent → List (Dispatch H)
  | _, [] => []
  | party, .roster change :: events => meanings scope commands (change.apply party) events
  | party, .line text :: events =>
    (commands party).dispatch (scope.withParty party) text :: meanings scope commands party events

/-! ## The party after some events -/

namespace Party

/-- The party after some events. -/
def after (party : Party) (events : List RosterEvent) : Party :=
  events.foldl RosterEvent.apply party

variable {party : Party}

theorem after_append (party : Party) (events later : List RosterEvent) :
    party.after (events ++ later) = (party.after events).after later :=
  List.foldl_append

/-- What every change preserves holds after any events, as long as the numbers suffice for those who
join. -/
theorem after_preserves {inv : Party → Prop}
    (hstep : ∀ (party : Party) (change : RosterChange), inv party →
      party.freshId + change.joins < UInt32.size → inv (change.apply party))
    (h : inv party) {events : List RosterEvent}
    (hleft : party.freshId + joinsOf events < UInt32.size) :
    inv (party.after events) ∧ (party.after events).freshId = party.freshId + joinsOf events := by
  induction events generalizing party with
  | nil => exact ⟨h, rfl⟩
  | cons event events ih =>
    have hjoins : joinsOf (event :: events) = event.joins + joinsOf events := rfl
    rw [hjoins] at hleft ⊢
    cases event with
    | roster change =>
      have hfirst : party.freshId + change.joins < UInt32.size := by
        have hchange : (RosterEvent.roster change).joins = change.joins := rfl
        omega
      have hfresh := freshId_change hfirst
      obtain ⟨hlast, hcount⟩ := ih (hstep party change h hfirst) (by rwa [hfresh, Nat.add_assoc])
      exact ⟨hlast, by rw [hfresh, Nat.add_assoc] at hcount; exact hcount⟩
    | line text =>
      have hnobody : (RosterEvent.line text).joins = 0 := rfl
      rw [hnobody, Nat.zero_add] at hleft ⊢
      exact ih h hleft

theorem Numbered.after (h : party.Numbered) {events : List RosterEvent}
    (hleft : party.freshId + joinsOf events < UInt32.size) :
    (party.after events).Numbered ∧
      (party.after events).freshId = party.freshId + joinsOf events :=
  after_preserves (fun _ _ hparty hfirst => hparty.apply hfirst) h hleft

theorem Past.after {id : Nat} (h : party.Past id) {events : List RosterEvent}
    (hleft : party.freshId + joinsOf events < UInt32.size) : (party.after events).Past id := by
  have hstep : ∀ (party : Party) (change : RosterChange), party.Past id →
      party.freshId + change.joins < UInt32.size → (change.apply party).Past id :=
    fun _ _ hparty hfirst => hparty.apply hfirst
  exact (after_preserves hstep h hleft).1

end Party

/-! ## Slots for members -/

/-- What a text in normal form refers to as the text of a slot for a member: the first member whose
name in normal form it is, or who has it as an alias. -/
inductive Refers (members : List Character) (wanted : String) : Option Referent → Prop where
  | first {before after : List Character} {member : Character} :
    members = before ++ member :: after →
      (normalize member.name = wanted ∨ wanted ∈ member.aliases) →
      (∀ other ∈ before, normalize other.name ≠ wanted ∧ wanted ∉ other.aliases) →
      Refers members wanted (some (.member member.id))
  | nobody : (∀ member ∈ members, normalize member.name ≠ wanted ∧ wanted ∉ member.aliases) →
      Refers members wanted none

/-- Texts are looked up among the members at that moment. -/
theorem Scope.resolve_member_eq_iff (scope : Scope) (party : Party) (wanted : String)
    (value : Option Referent) :
    (scope.withParty party).resolve .member wanted = value ↔
      Refers party.members wanted value := by
  show (party.find? wanted).map (fun member => Referent.member member.id) = value ↔ _
  constructor
  · rintro rfl
    cases hfind : party.find? wanted with
    | none =>
      refine .nobody fun member hmember => Character.not_answersTo_iff.1 ?_
      exact Bool.eq_false_iff.2 (List.find?_eq_none.1 hfind member hmember)
    | some member =>
      obtain ⟨hanswers, before, after, hmembers, hbefore⟩ := List.find?_eq_some_iff_append.1 hfind
      refine .first hmembers (Character.answersTo_iff.1 hanswers) fun other hother => ?_
      apply Character.not_answersTo_iff.1
      simpa using hbefore other hother
  · intro hrefers
    cases hrefers with
    | @first before after member hmembers hanswers hbefore =>
      have hfind : party.find? wanted = some member := by
        refine List.find?_eq_some_iff_append.2
          ⟨Character.answersTo_iff.2 hanswers, before, after, hmembers, ?_⟩
        intro other hother
        rw [Character.not_answersTo_iff.2 (hbefore other hother)]
        rfl
      rw [hfind]
      rfl
    | nobody hnone =>
      have hfind : party.find? wanted = none := by
        apply List.find?_eq_none.2
        intro member hmember
        rw [Character.not_answersTo_iff.2 (hnone member hmember)]
        exact Bool.false_ne_true
      rw [hfind]
      rfl

/-- A number that has passed is none that a slot can hold. -/
theorem not_refers_of_past {party : Party} {id : Nat} (h : party.Past id) (wanted : String) :
    ¬ Refers party.members wanted (some (.member id)) := by
  intro hrefers
  cases hrefers with
  | @first before after member hmembers _ _ =>
    have hmem : member ∈ party.members := by simp [hmembers]
    exact h.absent (List.mem_map_of_mem hmem)

/-! ## Commands in use -/

/-- Commands stay in use while the party changes. Each line means to them what it would mean to
commands registered at that moment. If it fills a slot for a member, the slot holds the first of the
current members who goes by the text in it, and nobody exactly if none of them does. A member who has
left is held by no slot any more, as long as there are numbers of 32 bits for all who join: for fewer
than `2 ^ 32 - 1` members of a new party. -/
theorem live_roster (scope : Scope) (stage : String) (calls : List (Registration H))
    (title : String) (nextId : Nat) (earlier : List RosterEvent) :
    let start : Party := { name := title, nextId }
    let registered (party : Party) : CommandSet H :=
      (registerEach (scope.withParty party) { stage } calls).1
    let kept := registered (start.after earlier)
    (∀ events, meanings scope (fun _ => kept) (start.after earlier) events =
      meanings scope registered (start.after earlier) events) ∧
    ∀ events line name handler bindings,
      let now := start.after (earlier ++ events)
      kept.dispatch (scope.withParty now) line = .matched name handler bindings →
        (∀ value, bindings.value? .member = some value →
          ∃ command ∈ kept.commands, command.name = name ∧ command.handler = handler ∧
            ∃ filling, command.pattern.Captures line .member filling ∧
              ∀ other, value = other ↔ Refers now.members filling.wanted other) ∧
        (start.freshId + joinsOf (earlier ++ events) < UInt32.size →
          ∀ before id later, events = before ++ .roster (.remove id) :: later →
            id ∈ (start.after (earlier ++ before)).numbers →
              bindings.value? .member ≠ some (some (.member id))) := by
  intro start registered kept
  -- what can be registered does not depend on who is in the party
  have hregistered : ∀ party, registered party = kept := by
    intro party
    have hoffers : (scope.withParty party).offers =
        (scope.withParty (start.after earlier)).offers := Scope.offers_congr rfl
    show (registerEach (scope.withParty party) { stage } calls).1 =
      (registerEach (scope.withParty (start.after earlier)) { stage } calls).1
    rw [registerEach_congr hoffers]
  constructor
  · intro events
    rw [show registered = fun _ => kept from funext hregistered]
  · intro events line name handler bindings now hdispatch
    obtain ⟨command, hcommand, hname, hhandler, hmatch⟩ :=
      CommandSet.dispatch_eq_matched hdispatch
    have hslot : ∀ value, bindings.value? .member = some value → ∃ filling,
        command.pattern.Captures line .member filling ∧
          ∀ other, value = other ↔ Refers now.members filling.wanted other := by
      intro value hvalue
      obtain ⟨filling, hcaptures, rfl⟩ := Pattern.exists_captures hmatch hvalue
      exact ⟨filling, hcaptures, fun other => Scope.resolve_member_eq_iff scope now _ other⟩
    constructor
    · intro value hvalue
      obtain ⟨filling, hcaptures, hrefers⟩ := hslot value hvalue
      exact ⟨command, hcommand, hname, hhandler, filling, hcaptures, hrefers⟩
    · intro hleft before id later hevents hid hvalue
      have hstart : start.Numbered := Party.numbered_of_members_eq_nil rfl
      have hjoins : joinsOf (earlier ++ events) = joinsOf (earlier ++ before) + joinsOf later := by
        have hremove : joinsOf (.roster (.remove id) :: later) = joinsOf later := Nat.zero_add _
        rw [hevents, ← List.append_assoc, joinsOf_append, hremove]
      rw [hjoins] at hleft
      obtain ⟨hnumbered, hcount⟩ := hstart.after
        (show start.freshId + joinsOf (earlier ++ before) < UInt32.size by omega)
      -- once the member has left, its number has passed, and stays so
      have hpast : now.Past id := by
        have hremoved : ((start.after (earlier ++ before)).remove id).freshId =
            start.freshId + joinsOf (earlier ++ before) := hcount
        have hgone : (((start.after (earlier ++ before)).remove id).after later).Past id :=
          (hnumbered.past_remove hid).after (by rwa [hremoved, Nat.add_assoc])
        have hnow : now = ((start.after (earlier ++ before)).remove id).after later := by
          show start.after (earlier ++ events) = _
          rw [hevents, ← List.append_assoc, Party.after_append]
          rfl
        rwa [hnow]
      obtain ⟨filling, _, hrefers⟩ := hslot _ hvalue
      exact not_refers_of_past hpast _ ((hrefers _).1 rfl)

/-- After Ann has left, her name refers to the Ann who has joined since. -/
theorem ann_live_roster :
    let start : Party := { name := "Wolves", nextId := 1 }
    let elf : Species := ⟨⟨"Wood Elf", "Elf"⟩, {}⟩
    let thief : Background := ⟨⟨"Thief", "Thf"⟩, {}⟩
    let calls : List (Registration Nat) := [.own "greet" ["greet \x7bpc\x7d"] 1]
    let kept := (registerEach (Scope.withParty {} start) { stage := "test" } calls).1
    let joins : RosterEvent := .roster (.add "Ann Lee" elf thief)
    let events : List RosterEvent := [joins, .line "greet ann", joins] ++ .roster (.remove 1) :: []
    1 ∈ (start.after [joins, .line "greet ann", joins]).numbers ∧
      start.freshId + joinsOf ([] ++ events) < UInt32.size ∧
      ∃ bindings, kept.dispatch (Scope.withParty {} (start.after events)) "Greet  ANN" =
          .matched "greet" 1 bindings ∧
        bindings.value? .member = some (some (.member 2)) ∧
        bindings.value? .member ≠ some (some (.member 1)) := by
  intro start elf thief calls kept joins events
  have hjoined : 1 ∈ (start.after [joins, .line "greet ann", joins]).numbers := by decide +kernel
  have hcheck : (match kept.dispatch (Scope.withParty {} (start.after events)) "Greet  ANN" with
      | .matched name handler bindings =>
        name == "greet" && handler == 1 && bindings.value? .member == some (some (.member 2))
      | .unrecognized => false
      | .ambiguous _ => false) = true := by
    decide +kernel
  split at hcheck
  · next name handler bindings hdispatch =>
    simp only [Bool.and_eq_true, beq_iff_eq] at hcheck
    obtain ⟨⟨rfl, rfl⟩, hvalue⟩ := hcheck
    have hlive := (live_roster {} "test" calls "Wolves" 1 []).2 events "Greet  ANN" "greet" 1
      bindings hdispatch
    have hleft : start.freshId + joinsOf ([] ++ events) < UInt32.size := by decide
    exact ⟨hjoined, hleft, bindings, hdispatch, hvalue, hlive.2 hleft _ 1 [] rfl hjoined⟩
  · cases hcheck
  · cases hcheck

end Muster
