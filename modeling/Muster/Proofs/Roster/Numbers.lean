import Mathlib.Algebra.Group.Nat.Defs
import Mathlib.Data.List.Nodup
import Muster.Proofs.Roster.Aliases

/-!
# The numbers of the members

A party takes requests one after the other: members join, leave, change and are looked up, and the
party gets another name. Those who join are given the numbers from one on, in order
(`issued_eq_range'`). A number that has been given stands for the member who got it, with all that
has become of that member since, until the member leaves, and then for nobody
(`Numbered.get?_afterRequests`). All this holds as long as the numbers suffice (`Suffices`). Main
statement: `numbers_stable`.
-/

namespace Muster

namespace Party

/-- A request to a party. -/
inductive Request where
  /-- A member joins, leaves or changes. -/
  | roster (change : RosterChange)
  /-- The party gets another name. -/
  | rename (name : String)
  /-- The member of a number is looked up. -/
  | get (id : Nat)
  /-- Somebody who answers to a text is looked up. -/
  | find (wanted : String)

namespace Request

/-- The party after a request. -/
def apply (party : Party) : Request → Party
  | .roster change => change.apply party
  | .rename name => party.rename name
  | .get _ | .find _ => party

/-- The numbers that a request gives: one if somebody joins, and otherwise none. -/
def issues (party : Party) : Request → List Nat
  | .roster (.add _ _ _) => [party.freshId]
  | _ => []

/-- What a request changes about the member of a number. -/
def edits (id : Nat) : Request → List CharacterChange
  | .roster (.member other change) => if other = id then [change] else []
  | _ => []

end Request

/-- The party after some requests. -/
def afterRequests (party : Party) (requests : List Request) : Party :=
  requests.foldl Request.apply party

/-- The numbers that some requests give, in order. -/
def issued : Party → List Request → List Nat
  | _, [] => []
  | party, request :: later => request.issues party ++ issued (request.apply party) later

theorem afterRequests_append (party : Party) (requests later : List Request) :
    party.afterRequests (requests ++ later) = (party.afterRequests requests).afterRequests later :=
  List.foldl_append

theorem afterRequests_cons (party : Party) (request : Request) (later : List Request) :
    party.afterRequests (request :: later) = (request.apply party).afterRequests later :=
  rfl

theorem issued_append (party : Party) (requests later : List Request) :
    party.issued (requests ++ later) =
      party.issued requests ++ (party.afterRequests requests).issued later := by
  induction requests generalizing party with
  | nil => rfl
  | cons request requests ih =>
    rw [List.cons_append, issued, ih, issued, List.append_assoc]
    rfl

variable {party : Party} {request : Request} {requests later : List Request}

/-! ## The numbers that are given -/

/-- The number for the next member goes up by one with each that is given. -/
theorem freshId_apply (h : party.freshId + (request.issues party).length < UInt32.size) :
    (request.apply party).freshId = party.freshId + (request.issues party).length := by
  cases request with
  | roster change =>
    cases change with
    | add name species background => exact freshId_add h name species background
    | remove | member => rfl
  | rename | get | find => rfl

/-- There is a number of 32 bits for everybody who joins by some requests, and for one more. -/
def Suffices (party : Party) (requests : List Request) : Prop :=
  party.freshId + (party.issued requests).length < UInt32.size

/-- The numbers suffice for a request, and then for those after it. -/
theorem Suffices.cons (h : party.Suffices (request :: later)) :
    party.freshId + (request.issues party).length < UInt32.size ∧
      (request.apply party).Suffices later := by
  rw [Suffices, issued, List.length_append] at h
  have hfirst : party.freshId + (request.issues party).length < UInt32.size := by omega
  refine ⟨hfirst, ?_⟩
  rw [Suffices, freshId_apply hfirst]
  omega

theorem freshId_afterRequests (h : party.Suffices requests) :
    (party.afterRequests requests).freshId =
      party.freshId + (party.issued requests).length := by
  induction requests generalizing party with
  | nil => rfl
  | cons request later ih =>
    obtain ⟨hfirst, hlater⟩ := h.cons
    rw [afterRequests_cons, ih hlater, freshId_apply hfirst, issued, List.length_append,
      Nat.add_assoc]

theorem Suffices.append (h : party.Suffices (requests ++ later)) :
    party.Suffices requests ∧ (party.afterRequests requests).Suffices later := by
  rw [Suffices, issued_append, List.length_append] at h
  have hfirst : party.Suffices requests := by
    rw [Suffices]
    omega
  refine ⟨hfirst, ?_⟩
  rw [Suffices, freshId_afterRequests hfirst]
  omega

theorem Numbered.apply_request (h : party.Numbered)
    (hleft : party.freshId + (request.issues party).length < UInt32.size) :
    (request.apply party).Numbered := by
  cases request with
  | roster change =>
    have hjoins : change.joins = (Request.issues party (.roster change)).length := by
      cases change <;> rfl
    rw [← hjoins] at hleft
    exact h.apply hleft
  | rename name => exact ⟨h.ascending, h.fresh⟩
  | get | find => exact h

theorem Numbered.afterRequests (h : party.Numbered) (hleft : party.Suffices requests) :
    (party.afterRequests requests).Numbered := by
  induction requests generalizing party with
  | nil => exact h
  | cons request later ih =>
    obtain ⟨hfirst, hlater⟩ := hleft.cons
    exact ih (h.apply_request hfirst) hlater

theorem issues_eq_range' (party : Party) (request : Request) :
    request.issues party = List.range' party.freshId (request.issues party).length := by
  cases request with
  | roster change =>
    cases change with
    | add | remove | member => rfl
  | rename | get | find => rfl

/-- The numbers that are given follow one another. -/
theorem issued_eq_range' (h : party.Suffices requests) :
    party.issued requests = List.range' party.freshId (party.issued requests).length := by
  induction requests generalizing party with
  | nil => rfl
  | cons request later ih =>
    obtain ⟨hfirst, hlater⟩ := h.cons
    calc party.issued (request :: later)
        = List.range' party.freshId (request.issues party).length ++
            List.range' (request.apply party).freshId
              ((request.apply party).issued later).length := by
          rw [← ih hlater, ← issues_eq_range', issued]
      _ = List.range' party.freshId (party.issued (request :: later)).length := by
          rw [freshId_apply hfirst, List.range'_append_1, issued, List.length_append]

/-- A number that is given is the one that was next when somebody joined. -/
theorem exists_add_of_mem_issued {id : Nat} (h : id ∈ party.issued requests) :
    ∃ earlier name species background later,
      requests = earlier ++ .roster (.add name species background) :: later ∧
        (party.afterRequests earlier).freshId = id := by
  induction requests generalizing party with
  | nil => cases h
  | cons request later ih =>
    rw [issued, List.mem_append] at h
    rcases h with hfirst | hlater
    · cases request with
      | roster change =>
        cases change with
        | add name species background =>
          exact ⟨[], name, species, background, later, rfl, (List.mem_singleton.1 hfirst).symm⟩
        | remove | member => cases hfirst
      | rename | get | find => cases hfirst
    · obtain ⟨earlier, name, species, background, rest, rfl, hid⟩ := ih hlater
      exact ⟨request :: earlier, name, species, background, rest, rfl, hid⟩

/-- Members have the numbers of members before, or numbers that were given. -/
theorem mem_numbers_apply {id : Nat} (h : id ∈ (request.apply party).numbers) :
    id ∈ party.numbers ∨ id ∈ request.issues party := by
  cases request with
  | roster change =>
    cases change with
    | add name species background =>
      have hid : id ∈ (party.add name species background).numbers := h
      rw [numbers_add, List.mem_append] at hid
      exact hid
    | remove other =>
      have hid : id ∈ (party.remove other).numbers := h
      rw [numbers_remove] at hid
      exact Or.inl (List.mem_of_mem_erase hid)
    | member other change =>
      have hid : id ∈ (party.update other fun member => change.apply member).numbers := h
      rw [numbers_update] at hid
      exact Or.inl hid
  | rename | get | find => exact Or.inl h

theorem mem_numbers_afterRequests {id : Nat}
    (h : id ∈ (party.afterRequests requests).numbers) :
    id ∈ party.numbers ∨ id ∈ party.issued requests := by
  induction requests generalizing party with
  | nil => exact Or.inl h
  | cons request later ih =>
    rw [issued, List.mem_append]
    rcases ih h with happly | hlater
    · rcases mem_numbers_apply happly with hold | hgiven
      · exact Or.inl hold
      · exact Or.inr (Or.inl hgiven)
    · exact Or.inr (Or.inr hlater)

/-! ## Looking up a number -/

theorem mem_numbers_of_get? {id : Nat} {member : Character} (h : party.get? id = some member) :
    id ∈ party.numbers := by
  have hid : member.id = id := (get?_eq_some h).1
  exact List.mem_map.2 ⟨member, List.mem_of_find?_eq_some h, hid⟩

/-- The member of a number is the only one who has it. -/
theorem Numbered.get?_eq_some_iff (h : party.Numbered) {id : Nat} {member : Character} :
    party.get? id = some member ↔ member ∈ party.members ∧ member.id = id := by
  constructor
  · intro hget
    exact ⟨List.mem_of_find?_eq_some hget, (get?_eq_some hget).1⟩
  · rintro ⟨hmem, hid⟩
    have hsome : (party.get? id).isSome = true :=
      List.find?_isSome.2 ⟨member, hmem, by rw [hid, beq_self_eq_true]⟩
    obtain ⟨found, hfound⟩ := Option.isSome_iff_exists.1 hsome
    have hsame : found = member := List.inj_on_of_nodup_map h.nodup
      (List.mem_of_find?_eq_some hfound) hmem ((get?_eq_some hfound).1.trans hid.symm)
    rw [hfound, hsame]

/-- Who joins is found by the number that was next. -/
theorem Numbered.get?_add_self (h : party.Numbered) (name : String) (species : Species)
    (background : Background) : (party.add name species background).get? party.freshId =
      some (Character.create party.freshId name species background) := by
  -- nobody before has that number
  have hnone : party.members.find? (·.id == party.freshId) = none := by
    refine List.find?_eq_none.2 fun member hmember => ?_
    have hlt := h.fresh member.id (List.mem_map_of_mem hmember)
    simp only [beq_iff_eq]
    omega
  have hjoined : ((Character.create party.freshId name species background).id == party.freshId) =
      true := by
    rw [Character.id_create, beq_self_eq_true]
  show List.find? _ (party.members ++ [_]) = _
  rw [List.find?_append, hnone, List.find?_singleton, hjoined]
  rfl

theorem get?_add_of_lt {id : Nat} (h : id < party.freshId) (name : String) (species : Species)
    (background : Background) :
    (party.add name species background).get? id = party.get? id := by
  have hjoined : ((Character.create party.freshId name species background).id == id) = false := by
    rw [Character.id_create, beq_eq_false_iff_ne]
    omega
  show List.find? _ (party.members ++ [_]) = _
  rw [List.find?_append, List.find?_singleton, hjoined]
  exact Option.or_none

theorem Numbered.get?_remove_self (h : party.Numbered) (id : Nat) :
    (party.remove id).get? id = none := by
  cases hget : (party.remove id).get? id with
  | none => rfl
  | some member =>
    have hmem := mem_numbers_of_get? hget
    rw [numbers_remove] at hmem
    exact absurd hmem h.nodup.not_mem_erase

theorem Numbered.get?_remove_of_ne (h : party.Numbered) {id other : Nat} (hne : other ≠ id) :
    (party.remove other).get? id = party.get? id := by
  have hremoved := h.remove other
  -- who has another number is left where it was
  have hmem : ∀ member : Character, member.id = id →
      (member ∈ (party.remove other).members ↔ member ∈ party.members) := by
    intro member hid
    exact List.mem_eraseP_of_neg (by simp [hid, Ne.symm hne])
  apply Option.ext
  intro member
  rw [hremoved.get?_eq_some_iff, h.get?_eq_some_iff]
  constructor
  · exact fun ⟨hleft, hid⟩ => ⟨(hmem member hid).1 hleft, hid⟩
  · exact fun ⟨hold, hid⟩ => ⟨(hmem member hid).2 hold, hid⟩

/-- A change to the member of a number is seen when this number is looked up, and no other. -/
theorem get?_update (party : Party) (other id : Nat) (change : CharacterChange) :
    (party.update other fun member => change.apply member).get? id =
      if other = id then (party.get? id).map fun member => change.apply member
      else party.get? id := by
  show List.find? _ (updateFirst other _ party.members) = _
  unfold get?
  induction party.members with
  | nil => simp [updateFirst]
  | cons c cs ih =>
    rw [updateFirst]
    by_cases hother : c.id = other
    · -- the change is made here, and the number stays
      rw [if_pos (beq_iff_eq.2 hother), List.find?_cons, List.find?_cons,
        CharacterChange.id_apply, hother]
      by_cases hid : other = id
      · rw [if_pos hid, beq_iff_eq.2 hid]
        rfl
      · rw [if_neg hid, beq_false_of_ne hid]
    · rw [if_neg (by simpa using hother), List.find?_cons, List.find?_cons, ih]
      by_cases hid : c.id = id
      · have hne : other ≠ id := fun h => hother (hid.trans h.symm)
        rw [if_neg hne, if_neg hne]
      · rw [beq_false_of_ne hid]

/-- What a request makes of the member of a number that has been given: a member who does not leave
is changed as the request says. -/
theorem Numbered.get?_apply (h : party.Numbered) {id : Nat} (hid : id < party.freshId)
    (request : Request) {member : Character} :
    (request.apply party).get? id = some member ↔
      request ≠ .roster (.remove id) ∧
        ∃ old, party.get? id = some old ∧ member = old.after (request.edits id) := by
  -- most requests leave the member alone
  have hkept : (request.apply party).get? id = party.get? id →
      request ≠ .roster (.remove id) → request.edits id = [] →
      ((request.apply party).get? id = some member ↔ request ≠ .roster (.remove id) ∧
        ∃ old, party.get? id = some old ∧ member = old.after (request.edits id)) := by
    intro hget hne hedits
    rw [hget, hedits]
    constructor
    · exact fun hfound => ⟨hne, member, hfound, rfl⟩
    · rintro ⟨-, old, hold, rfl⟩
      exact hold
  cases request with
  | roster change =>
    cases change with
    | add name species background =>
      exact hkept (get?_add_of_lt hid name species background) (by simp) rfl
    | remove other =>
      by_cases hother : other = id
      · subst hother
        have hgone : (Request.apply party (.roster (.remove other))).get? other = none :=
          h.get?_remove_self other
        simp [hgone]
      · exact hkept (h.get?_remove_of_ne hother) (by simp [hother]) rfl
    | member other change =>
      have hupdate : (Request.apply party (.roster (.member other change))).get? id = _ :=
        get?_update party other id change
      by_cases hother : other = id
      · rw [hupdate, if_pos hother, Option.map_eq_some_iff, Request.edits, if_pos hother]
        constructor
        · rintro ⟨old, hold, rfl⟩
          exact ⟨by simp, old, hold, rfl⟩
        · rintro ⟨-, old, hold, rfl⟩
          exact ⟨old, hold, rfl⟩
      · rw [if_neg hother] at hupdate
        exact hkept hupdate (by simp) (if_neg hother)
  | rename | get | find => exact hkept rfl (by simp) rfl

/-- What becomes of the member of a number that has been given: unless it leaves, it is found by its
number, with all changes that were made to it. -/
theorem Numbered.get?_afterRequests (h : party.Numbered) {id : Nat} (hid : id < party.freshId)
    (hleft : party.Suffices requests) {member : Character} :
    (party.afterRequests requests).get? id = some member ↔
      .roster (.remove id) ∉ requests ∧
        ∃ old, party.get? id = some old ∧ member = old.after (requests.flatMap (·.edits id)) := by
  induction requests generalizing party with
  | nil =>
    constructor
    · exact fun hget => ⟨List.not_mem_nil, member, hget, rfl⟩
    · rintro ⟨-, old, hold, rfl⟩
      exact hold
  | cons request later ih =>
    obtain ⟨hfirst, hlater⟩ := hleft.cons
    have hpassed : id < (request.apply party).freshId := by
      rw [freshId_apply hfirst]
      omega
    rw [afterRequests_cons, ih (h.apply_request hfirst) hpassed hlater, List.mem_cons, not_or,
      List.flatMap_cons]
    constructor
    · rintro ⟨hlater, changed, hchanged, rfl⟩
      obtain ⟨hne, old, hold, rfl⟩ := (h.get?_apply hid request).1 hchanged
      exact ⟨⟨hne.symm, hlater⟩, old, hold, (Character.after_append _ _ _).symm⟩
    · rintro ⟨⟨hne, hlater⟩, old, hold, rfl⟩
      exact ⟨hlater, old.after (request.edits id),
        (h.get?_apply hid request).2 ⟨fun hsame => hne hsame.symm, old, hold, rfl⟩,
        Character.after_append _ _ _⟩

/-- Who has joined is found by the number that was next then. -/
theorem Numbered.get?_of_added (h : party.Numbered) {name : String} {species : Species}
    {background : Background}
    (hleft : party.Suffices (.roster (.add name species background) :: later)) {member : Character} :
    ((party.add name species background).afterRequests later).get? party.freshId = some member ↔
      .roster (.remove party.freshId) ∉ later ∧
        member = (Character.create party.freshId name species background).after
          (later.flatMap (·.edits party.freshId)) := by
  obtain ⟨hfirst, hlater⟩ := hleft.cons
  have hadded : (party.add name species background).Numbered := h.apply_request hfirst
  have hpassed : party.freshId < (party.add name species background).freshId := by
    have hfresh : (party.add name species background).freshId = party.freshId + 1 :=
      freshId_apply hfirst
    omega
  rw [hadded.get?_afterRequests hpassed hlater, h.get?_add_self]
  simp

/-- In a party that nobody was in from the beginning, a number is found exactly if it was given to
somebody who has not left since. -/
theorem get?_afterRequests_iff (h : party.members = []) (hleft : party.Suffices requests) {id : Nat}
    {member : Character} : (party.afterRequests requests).get? id = some member ↔
      ∃ earlier name species background later,
        requests = earlier ++ .roster (.add name species background) :: later ∧
        (party.afterRequests earlier).freshId = id ∧ .roster (.remove id) ∉ later ∧
        member = (Character.create id name species background).after
          (later.flatMap (·.edits id)) := by
  have hnumbered := numbered_of_members_eq_nil h
  -- the run goes on from where the member joins
  have hcut : ∀ earlier name species background later,
      party.afterRequests (earlier ++ .roster (.add name species background) :: later) =
        ((party.afterRequests earlier).add name species background).afterRequests later :=
    fun earlier _ _ _ _ => afterRequests_append party earlier _
  constructor
  · intro hget
    rcases mem_numbers_afterRequests (mem_numbers_of_get? hget) with hold | hissued
    · rw [numbers, h] at hold
      cases hold
    · obtain ⟨earlier, name, species, background, later, rfl, rfl⟩ :=
        exists_add_of_mem_issued hissued
      rw [hcut] at hget
      obtain ⟨hearlier, hrest⟩ := hleft.append
      obtain ⟨hstays, hmember⟩ := ((hnumbered.afterRequests hearlier).get?_of_added hrest).1 hget
      exact ⟨earlier, name, species, background, later, rfl, rfl, hstays, hmember⟩
  · rintro ⟨earlier, name, species, background, later, rfl, rfl, hstays, hmember⟩
    rw [hcut]
    obtain ⟨hearlier, hrest⟩ := hleft.append
    exact ((hnumbered.afterRequests hearlier).get?_of_added hrest).2 ⟨hstays, hmember⟩

/-! ## Members who leave -/

/-- Who leaves is taken out, and nobody else. -/
theorem Numbered.remove_eq_of_get? (h : party.Numbered) {id : Nat} {member : Character}
    (hget : party.get? id = some member) :
    ∃ before after, party.members = before ++ member :: after ∧
      (∀ other ∈ before ++ after, other.id ≠ id) ∧
      party.remove id = { party with members := before ++ after } := by
  obtain ⟨hid, before, after, hmembers, hbefore⟩ := get?_eq_some hget
  have hleft := members_remove hmembers hid hbefore
  have hgone := h.get?_remove_self id
  refine ⟨before, after, hmembers, fun other hother => ?_, by rw [← hleft]; rfl⟩
  have hnone : (party.remove id).members.find? (·.id == id) = none := hgone
  rw [hleft, List.find?_eq_none] at hnone
  simpa using hnone other hother

theorem remove_eq_self {id : Nat} (hget : party.get? id = none) : party.remove id = party := by
  have hsame : party.members.eraseP (·.id == id) = party.members :=
    List.eraseP_of_forall_not (List.find?_eq_none.1 hget)
  show { party with members := party.members.eraseP (·.id == id) } = party
  rw [hsame]

/-! ## Numbers over a whole history -/

/-- A new party takes any requests by which fewer than `2 ^ 32 - 1` members join. The numbers that it
gives ascend from one on, and they and the number for the next member have 32 bits. A number is found
exactly if it was given to somebody who has not left since, and stands for that member with all that
has been changed about it. A member who leaves is taken out from among the others, who stay in order,
and to remove a number that nobody has changes nothing. The members stand in the order of their
numbers. -/
theorem numbers_stable {start : Party} (hstart : start = {} ∨ ∃ title, start = named title)
    (requests : List Request) (hfew : (start.issued requests).length < 2 ^ 32 - 1) :
    let now := start.afterRequests requests
    let given := start.issued requests
    (∀ id ∈ given, 1 ≤ id ∧ id < 2 ^ 32) ∧ given.Pairwise (· < ·) ∧ now.nextId < 2 ^ 32 ∧
    (∀ id member, now.get? id = some member ↔
      ∃ earlier name species background later,
        requests = earlier ++ .roster (.add name species background) :: later ∧
        (start.afterRequests earlier).freshId = id ∧ .roster (.remove id) ∉ later ∧
        member = (Character.create id name species background).after
          (later.flatMap (·.edits id))) ∧
    (∀ id member, now.get? id = some member →
      ∃ before after, now.members = before ++ member :: after ∧
        (∀ other ∈ before ++ after, other.id ≠ id) ∧
        now.remove id = { now with members := before ++ after }) ∧
    (∀ id, now.get? id = none → now.remove id = now) ∧
    now.members.Pairwise (·.id < ·.id) := by
  intro now given
  have hsize : UInt32.size = 4294967296 := rfl
  have hfirst : start.freshId = 1 ∧ start.members = [] := by
    rcases hstart with rfl | ⟨title, rfl⟩ <;> exact ⟨rfl, rfl⟩
  have hleft : start.Suffices requests := by
    rw [Suffices, hfirst.1]
    omega
  have hgiven : given = List.range' 1 given.length := by
    have hrange := issued_eq_range' hleft
    rwa [hfirst.1] at hrange
  have hfresh : now.freshId = 1 + given.length := by
    rw [← hfirst.1]
    exact freshId_afterRequests hleft
  have hbounds : ∀ id ∈ given, 1 ≤ id ∧ id < 1 + given.length := by
    intro id hid
    rw [hgiven, List.mem_range'_1] at hid
    exact hid
  have hshort : given.length < 2 ^ 32 - 1 := hfew
  have hnumbered : start.Numbered := numbered_of_members_eq_nil hfirst.2
  have hnow : now.Numbered := hnumbered.afterRequests hleft
  refine ⟨fun id hid => ?_, ?_, ?_, fun id member => get?_afterRequests_iff hfirst.2 hleft,
    fun id member => hnow.remove_eq_of_get?, fun id => remove_eq_self,
    List.pairwise_map.1 hnow.ascending⟩
  · obtain ⟨hpositive, hlt⟩ := hbounds id hid
    exact ⟨hpositive, by omega⟩
  · rw [hgiven]
    exact List.pairwise_lt_range'
  · have hle : now.nextId ≤ now.freshId := Nat.le_max_left _ _
    omega

/-- Who joins after the newest member has left gets a number of their own. -/
theorem bea_numbers_stable :
    let human : Species := { name := "Human", shortName := "Hum", stats := {} }
    let scholar : Background := { name := "Scholar", shortName := "Sch" }
    let start : Party := {}
    let later : List Request := [.roster (.remove 2), .roster (.member 1 (.addAlias "Wolf")),
      .find "wolf", .roster (.add "Bea" human scholar), .rename "Wolves"]
    let requests : List Request := .roster (.add "Ann" human scholar) ::
      .roster (.add "Bob" human scholar) :: later
    let now := start.afterRequests requests
    let ann := (Character.create 1 "Ann" human scholar).after [.addAlias "Wolf"]
    start = {} ∧ start.issued requests = [1, 2, 3] ∧
      (start.issued requests).length < 2 ^ 32 - 1 ∧ now.nextId < 2 ^ 32 ∧
      now.get? 1 = some ann ∧ now.get? 2 = none ∧ now.remove 2 = now ∧
      ∃ before after, now.members = before ++ ann :: after ∧
        (∀ other ∈ before ++ after, other.id ≠ 1) ∧
        now.remove 1 = { now with members := before ++ after } := by
  intro human scholar start later requests now ann
  have hissued : start.issued requests = [1, 2, 3] := by decide +kernel
  have hfew : (start.issued requests).length < 2 ^ 32 - 1 := by
    rw [hissued]
    decide
  have hgone : now.get? 2 = none := by decide +kernel
  obtain ⟨_, _, hnext, hlookup, hleave, hremove, _⟩ :=
    numbers_stable (Or.inl rfl : start = {} ∨ _) requests hfew
  have hann : now.get? 1 = some ann := by
    refine (hlookup 1 ann).2 ⟨[], "Ann", human, scholar, _, rfl, rfl, ?_, rfl⟩
    simp [later]
  exact ⟨rfl, hissued, hfew, hnext, hann, hgone, hremove 2 hgone, hleave 1 ann hann⟩

end Party

end Muster
