import Muster.Proofs.Text.Lowering
import Muster.Roster.Party

/-!
# Members of a party

What becomes of the members when one of them joins, changes or leaves. Main statements: the member
of a number stands between others, which stay where they are (`Party.get?_eq_some`,
`Party.members_update`, `Party.members_remove`); and a party stays `Party.Sound`, with ascending
numbers and with members as the game offers them, whatever becomes of them.
-/

namespace Muster

/-! ## Names and aliases -/

/-- The first word of a name, in normal form, is not empty and is its own normal form. -/
theorem normalize_defaultAlias {name first : String} (h : defaultAlias? name = some first) :
    normalize first = first ∧ first.isEmpty = false := by
  rw [defaultAlias?, Option.map_eq_some_iff] at h
  obtain ⟨word, hword, rfl⟩ := h
  obtain ⟨hne, hletters⟩ := Text.of_mem_words (List.mem_of_mem_head? hword)
  have hbegins : Text.BeginsWith word word [] := ⟨(List.append_nil word).symm, hne, hletters, rfl⟩
  refine ⟨?_, ?_⟩
  · rw [normalize, String.toList_ofList, Text.normal_normal]
  · have hwords : Text.words (Text.normal word) = [Text.lowerText word] := by
      rw [Text.words_normal, hbegins.words_eq]
      rfl
    rw [Bool.eq_false_iff]
    intro hempty
    have hnil : Text.normal word = [] := by
      rw [String.isEmpty_iff, String.ofList_eq_empty_iff] at hempty
      exact hempty
    rw [hnil] at hwords
    cases hwords

namespace Character

theorem answersTo_iff {member : Character} {wanted : String} :
    member.answersTo wanted = true ↔ normalize member.name = wanted ∨ wanted ∈ member.aliases := by
  simp [answersTo]

theorem not_answersTo_iff {member : Character} {wanted : String} :
    member.answersTo wanted = false ↔ normalize member.name ≠ wanted ∧ wanted ∉ member.aliases := by
  rw [← not_or, ← answersTo_iff, Bool.not_eq_true]

/-- An alias that is added changes the aliases and nothing else. -/
theorem addAlias_eq (character : Character) (text : String) :
    character.addAlias text =
      { character with aliases := (character.addAlias text).aliases } := by
  unfold addAlias
  simp only
  split <;> rfl

/-- A new name changes the aliases and nothing else. -/
theorem rename_eq (character : Character) (name : String) :
    character.rename name =
      { character with name, aliases := (character.rename name).aliases } := by
  unfold rename
  cases defaultAlias? character.name with
  | none =>
    cases defaultAlias? name with
    | none => rfl
    | some new => exact addAlias_eq { character with name } new
  | some old =>
    cases defaultAlias? name with
    | none => rfl
    | some new => exact addAlias_eq { character.removeAlias old with name } new

/-- The first word of the name is the only alias, if there is one. -/
def HasDefaultAlias (character : Character) : Prop :=
  character.aliases = (defaultAlias? character.name).toList

theorem aliases_addAlias {character : Character} {first : String} (hnone : character.aliases = [])
    (hnormal : normalize first = first) (hnonempty : first.isEmpty = false) :
    (character.addAlias first).aliases = [first] := by
  have hnew : (first.isEmpty || character.aliases.contains first) = false := by
    rw [hnonempty, hnone]
    rfl
  unfold addAlias
  simp only [hnormal]
  rw [hnew, if_neg Bool.false_ne_true, hnone]
  rfl

/-- The default alias of the new name takes the place of the old one. -/
theorem hasDefaultAlias_rename {character : Character} (h : character.HasDefaultAlias)
    (name : String) : (character.rename name).HasDefaultAlias := by
  have hname : (character.rename name).name = name := by rw [rename_eq]
  have hgiven : ∀ nameless : Character, nameless.aliases = [] → ∀ new,
      defaultAlias? name = some new → ({ nameless with name }.addAlias new).aliases = [new] := by
    intro nameless hnone new hnew
    obtain ⟨hnormal, hnonempty⟩ := normalize_defaultAlias hnew
    have hrenamed : { nameless with name }.aliases = [] := hnone
    exact aliases_addAlias hrenamed hnormal hnonempty
  unfold HasDefaultAlias at h ⊢
  rw [hname]
  unfold rename
  cases hold : defaultAlias? character.name with
  | none =>
    rw [hold] at h
    cases hnew : defaultAlias? name with
    | none => exact h
    | some new => exact hgiven character h new hnew
  | some old =>
    rw [hold] at h
    -- without the alias of the old name there is none
    have hnone : (character.removeAlias old).aliases = [] := by
      show character.aliases.filter (· != normalize old) = []
      rw [h, (normalize_defaultAlias hold).1]
      simp
    cases hnew : defaultAlias? name with
    | none => exact hnone
    | some new => exact hgiven (character.removeAlias old) hnone new hnew

/-- A character as the game offers it: of a species and a background that the data list, with the
statistics that follow from them, and with the default alias of its name. -/
structure Sound (species : List Species) (backgrounds : List Background) (character : Character) :
    Prop where
  species_mem : character.species ∈ species
  background_mem : character.background ∈ backgrounds
  stats_get : ∀ stat, character.stats.get stat =
    character.species.stats.get stat + character.background.modifiers.get stat
  aliases : character.HasDefaultAlias

variable {species : List Species} {backgrounds : List Background} {character : Character}

theorem Sound.rename (h : character.Sound species backgrounds) (name : String) :
    (character.rename name).Sound species backgrounds := by
  have haliases := hasDefaultAlias_rename h.aliases name
  rw [rename_eq] at haliases ⊢
  exact ⟨h.species_mem, h.background_mem, h.stats_get, haliases⟩

/-- Statistics that are worked out anew are those of the species and the background, if these have sums
in range. -/
theorem sound_recomputeStats (hspecies : character.species ∈ species)
    (hbackground : character.background ∈ backgrounds)
    (hfits : character.species.stats.Fits character.background.modifiers)
    (haliases : character.HasDefaultAlias) :
    character.recomputeStats.Sound species backgrounds :=
  ⟨hspecies, hbackground, Stats.get_apply_of_fits hfits, haliases⟩

theorem sound_create (id : Nat) (name : String) {s : Species} {b : Background} (hs : s ∈ species)
    (hb : b ∈ backgrounds) (hfits : s.stats.Fits b.modifiers) :
    (create id name s b).Sound species backgrounds := by
  have hnone : defaultAlias? "" = none := by simp [defaultAlias?]
  have hunnamed : ({ id, name := "", aliases := [], species := s, background := b, stats := {} } :
      Character).HasDefaultAlias := by
    rw [HasDefaultAlias, hnone]
    rfl
  exact (sound_recomputeStats hs hb hfits hunnamed).rename name

/-- What a finished draft makes of a member. -/
theorem Sound.change (h : character.Sound species backgrounds) (name : String) {s : Species}
    {b : Background} (hs : s ∈ species) (hb : b ∈ backgrounds) (hfits : s.stats.Fits b.modifiers) :
    (((character.rename name).changeSpecies s).changeBackground b).Sound species backgrounds :=
  sound_recomputeStats hs hb hfits (h.rename name).aliases

theorem id_rename (character : Character) (name : String) :
    (character.rename name).id = character.id := by
  rw [rename_eq]

theorem id_create (id : Nat) (name : String) (s : Species) (b : Background) :
    (create id name s b).id = id := by
  rw [create, id_rename]
  rfl

end Character

namespace Party

/-! ## The member of a number -/

/-- The member of a number is the first one that has it. -/
theorem get?_eq_some {party : Party} {id : Nat} {member : Character}
    (h : party.get? id = some member) :
    member.id = id ∧ ∃ before after, party.members = before ++ member :: after ∧
      ∀ other ∈ before, other.id ≠ id := by
  obtain ⟨hid, before, after, hmembers, hbefore⟩ := List.find?_eq_some_iff_append.1 h
  refine ⟨beq_iff_eq.1 hid, before, after, hmembers, fun other hother => ?_⟩
  have hne := hbefore other hother
  simpa using hne

theorem updateFirst_append {id : Nat} (change : Character → Character) {member : Character}
    {before : List Character} (after : List Character) (hid : member.id = id)
    (hbefore : ∀ other ∈ before, other.id ≠ id) :
    updateFirst id change (before ++ member :: after) = before ++ change member :: after := by
  induction before with
  | nil =>
    rw [List.nil_append, updateFirst, hid, if_pos (beq_self_eq_true id)]
    rfl
  | cons other before ih =>
    have hother : (other.id == id) = false := by
      rw [beq_eq_false_iff_ne]
      exact hbefore other (by simp)
    rw [List.cons_append, updateFirst, if_neg (by simp [hother]),
      ih fun c hc => hbefore c (by simp [hc])]
    rfl

theorem map_id_updateFirst (id : Nat) {change : Character → Character}
    (hid : ∀ member, (change member).id = member.id) (members : List Character) :
    (updateFirst id change members).map (·.id) = members.map (·.id) := by
  induction members with
  | nil => rfl
  | cons c cs ih =>
    rw [updateFirst]
    split
    · rw [List.map_cons, List.map_cons, hid]
    · rw [List.map_cons, List.map_cons, ih]

/-- Who is there after a change was there before, or is what it has made of one of them. -/
theorem mem_updateFirst {id : Nat} {change : Character → Character} {members : List Character}
    {member : Character} (h : member ∈ updateFirst id change members) :
    member ∈ members ∨ ∃ old ∈ members, member = change old := by
  induction members with
  | nil => cases h
  | cons c cs ih =>
    rw [updateFirst] at h
    split at h
    · rcases List.mem_cons.1 h with rfl | h
      · exact Or.inr ⟨c, by simp, rfl⟩
      · exact Or.inl (by simp [h])
    · rcases List.mem_cons.1 h with rfl | h
      · exact Or.inl (by simp)
      · rcases ih h with hold | ⟨old, hold, hchanged⟩
        · exact Or.inl (by simp [hold])
        · exact Or.inr ⟨old, by simp [hold], hchanged⟩

/-- A change to the member of a number leaves the others where they are. -/
theorem members_update {party : Party} {id : Nat} (change : Character → Character)
    {member : Character} {before after : List Character}
    (hmembers : party.members = before ++ member :: after) (hid : member.id = id)
    (hbefore : ∀ other ∈ before, other.id ≠ id) :
    (party.update id change).members = before ++ change member :: after := by
  rw [update, hmembers, updateFirst_append change after hid hbefore]

/-- Without the member of a number, the others are left in order. -/
theorem members_remove {party : Party} {id : Nat} {member : Character}
    {before after : List Character} (hmembers : party.members = before ++ member :: after)
    (hid : member.id = id) (hbefore : ∀ other ∈ before, other.id ≠ id) :
    (party.remove id).members = before ++ after := by
  show party.members.eraseP (·.id == id) = before ++ after
  rw [hmembers, List.eraseP_append_right, List.eraseP_cons_of_pos]
  · simp [hid]
  · intro other hother
    simpa using hbefore other hother

/-! ## Numbers for members -/

/-- The number for the member after one who joins is greater by one, as long as it has 32 bits. -/
theorem freshId_add {party : Party} (h : party.freshId + 1 < UInt32.size) (name : String)
    (species : Species) (background : Background) :
    (party.add name species background).freshId = party.freshId + 1 := by
  show max (UInt32.ofNat (party.freshId + 1)).toNat 1 = party.freshId + 1
  rw [UInt32.toNat_ofNat_of_lt' h, Nat.max_eq_left (Nat.le_add_left 1 party.freshId)]

/-! ## Sound parties -/

/-- The members are as the game offers them, and their numbers ascend from one up to the number
for the next. -/
structure Sound (species : List Species) (backgrounds : List Background) (party : Party) :
    Prop where
  members : ∀ member ∈ party.members, member.Sound species backgrounds
  ascending : party.members.Pairwise (·.id < ·.id)
  positive : ∀ member ∈ party.members, 1 ≤ member.id
  fresh : ∀ member ∈ party.members, member.id < party.freshId

variable {species : List Species} {backgrounds : List Background} {party : Party}

theorem sound_named (name : String) : (named name).Sound species backgrounds where
  members _ h := by cases h
  ascending := List.Pairwise.nil
  positive _ h := by cases h
  fresh _ h := by cases h

theorem Sound.rename (h : party.Sound species backgrounds) (name : String) :
    (party.rename name).Sound species backgrounds :=
  ⟨h.members, h.ascending, h.positive, h.fresh⟩

theorem Sound.remove (h : party.Sound species backgrounds) (id : Nat) :
    (party.remove id).Sound species backgrounds := by
  have hsublist : (party.remove id).members.Sublist party.members := List.eraseP_sublist
  exact {
    members := fun member hmem => h.members member (hsublist.mem hmem)
    ascending := h.ascending.sublist hsublist
    positive := fun member hmem => h.positive member (hsublist.mem hmem)
    fresh := fun member hmem => h.fresh member (hsublist.mem hmem) }

/-- A member who joins gets statistics in range, and a number that is not the last one. -/
theorem Sound.add (h : party.Sound species backgrounds) (name : String) {s : Species}
    {b : Background} (hs : s ∈ species) (hb : b ∈ backgrounds) (hfits : s.stats.Fits b.modifiers)
    (hnumber : party.freshId + 1 < UInt32.size) :
    (party.add name s b).Sound species backgrounds := by
  have hid := Character.id_create party.freshId name s b
  have hfresh : 1 ≤ party.freshId := Nat.le_max_right _ _
  have hnext : party.freshId < (party.add name s b).freshId := by
    rw [freshId_add hnumber]
    exact Nat.lt_succ_self _
  -- a member is one of the old ones, or the one that has joined
  have hmem : ∀ member ∈ (party.add name s b).members, member ∈ party.members ∨
      member = Character.create party.freshId name s b := by
    intro member hmember
    rw [show (party.add name s b).members = party.members ++ [_] from rfl, List.mem_append,
      List.mem_singleton] at hmember
    exact hmember
  refine ⟨fun member hmember => ?_, ?_, fun member hmember => ?_, fun member hmember => ?_⟩
  · rcases hmem member hmember with hold | rfl
    · exact h.members member hold
    · exact Character.sound_create _ name hs hb hfits
  · show List.Pairwise (fun a b : Character => a.id < b.id) (party.members ++ [_])
    rw [List.pairwise_append]
    refine ⟨h.ascending, List.pairwise_singleton _ _, fun member hold joined hjoined => ?_⟩
    rw [List.mem_singleton] at hjoined
    rw [hjoined, hid]
    exact h.fresh member hold
  · rcases hmem member hmember with hold | rfl
    · exact h.positive member hold
    · rw [hid]
      exact hfresh
  · rcases hmem member hmember with hold | rfl
    · exact Nat.lt_trans (h.fresh member hold) hnext
    · rw [hid]
      exact hnext

/-- A change to a member that leaves it as the game offers it, with its number. -/
theorem Sound.update (h : party.Sound species backgrounds) (id : Nat)
    {change : Character → Character} (hid : ∀ member, (change member).id = member.id)
    (hchange : ∀ member ∈ party.members, (change member).Sound species backgrounds) :
    (party.update id change).Sound species backgrounds := by
  -- the numbers are those of the members before
  have hids : ∀ member ∈ (party.update id change).members, ∃ old ∈ party.members,
      old.id = member.id := by
    intro member hmember
    rcases mem_updateFirst hmember with hold | ⟨old, hold, rfl⟩
    · exact ⟨member, hold, rfl⟩
    · exact ⟨old, hold, (hid old).symm⟩
  refine ⟨fun member hmember => ?_, ?_, fun member hmember => ?_, fun member hmember => ?_⟩
  · rcases mem_updateFirst hmember with hold | ⟨old, hold, rfl⟩
    · exact h.members member hold
    · exact hchange old hold
  · have hascending : (party.members.map (·.id)).Pairwise (· < ·) :=
      List.pairwise_map.2 h.ascending
    rw [← map_id_updateFirst id hid] at hascending
    exact List.pairwise_map.1 hascending
  · obtain ⟨old, hold, heq⟩ := hids member hmember
    rw [← heq]
    exact h.positive old hold
  · obtain ⟨old, hold, heq⟩ := hids member hmember
    rw [← heq]
    exact h.fresh old hold

end Party

end Muster
