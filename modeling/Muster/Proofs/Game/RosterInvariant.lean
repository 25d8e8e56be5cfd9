import Muster.Proofs.Game.Stages
import Muster.Proofs.Roster.Members
import Muster.Data.Builtin

/-!
# The party in the course of a game

What a party begins with, and what each command does to it, keeps it sound as long as all sums fit
into 32 bits: the numbers of its members ascend, and its members are as the game offers them
(`lasts_sound`). And the sums fit as long as those of the data do and not too many members join,
since nothing else is added up than what the data list and the numbers of those who join
(`lasts_counted`, `Addition.Planned.fits`). So the party is sound whenever the player is asked
something, and when the game is over (`party_sound`).
-/

namespace Muster

theorem Addition.joined_append (additions more : List Addition) :
    joined (additions ++ more) = joined additions + joined more := List.countP_append

/-- Statistics and modifiers that the data list, or the number of a member, where so many members
have joined. -/
def Addition.Planned (data : GameData) (count : Nat) : Addition → Prop
  | .stats base modifiers => ∃ species ∈ data.species, ∃ background ∈ data.backgrounds,
    base = species.stats ∧ modifiers = background.modifiers
  | .number id => id ≤ count

theorem Addition.Planned.mono {data : GameData} {addition : Addition} {count more : Nat}
    (h : addition.Planned data count) (hle : count ≤ more) : addition.Planned data more := by
  cases addition with
  | stats base modifiers => exact h
  | number id => exact Nat.le_trans h hle

/-- The sums of the data fit, and those of the numbers do until there are too many. -/
theorem Addition.Planned.fits {data : GameData} {addition : Addition} {count : Nat}
    (h : addition.Planned data count) (hfits : data.SumsFit) (hcount : count + 1 < UInt32.size) :
    addition.Fits := by
  cases addition with
  | stats base modifiers =>
    obtain ⟨species, hspecies, background, hbackground, rfl, rfl⟩ := h
    exact hfits species hspecies background hbackground
  | number id =>
    have hid : id ≤ count := h
    exact Nat.lt_of_le_of_lt (Nat.succ_le_succ hid) hcount

end Muster

namespace Muster.Game

open Play

variable {data : GameData}

/-! ## What holds at all times -/

section

variable {good : List Addition → Prop} {fits : List Addition → Party → Prop}

/-- What has been added up is good and the party goes with it, now and at all moments. -/
def always (good : List Addition → Prop) (fits : List Addition → Party → Prop) :
    Contract Session :=
  about fun party moments additions => (good additions ∧ ∀ kept ∈ party, fits additions kept) ∧
    ∀ moment ∈ moments, good moment.additions ∧ ∀ kept ∈ moment.party, fits moment.additions kept

theorem suits_always (hlasts : Lasts data fits)
    (hgrow : ∀ additions more party, good additions → fits additions party →
      (∀ addition ∈ more, CharacterCreation.Expected data party addition) →
      good (additions ++ more)) :
    Suits data (always good fits) fits where
  toHosts := hosts_about fun party moments additions stage h => by
    refine ⟨h.1, fun moment hmoment => ?_⟩
    rw [List.mem_append, List.mem_singleton] at hmoment
    rcases hmoment with hmoment | rfl
    · exact h.2 moment hmoment
    · exact h.1
  lasts := hlasts
  fits_party _ h := h.1.2
  setParty _ _ h hkept := ⟨⟨h.1.1, hkept⟩, h.2⟩
  tally session party additions h hfits hexpected := by
    refine ⟨⟨hgrow session.additions additions party h.1.1 hfits hexpected, fun kept hkept => ?_⟩, h.2⟩
    exact hlasts.grow session.additions additions kept (h.1.2 kept hkept)
  setStage _ _ h := h
  playable _ _ _ h := h
  mainMenu _ _ _ h := h
  partyCreation _ _ _ h := h
  characterCreation _ _ _ h := h

/-- What lasts holds whenever the player is asked something, and when the game is over. -/
theorem always_play (good : List Addition → Prop) (hlasts : Lasts data fits)
    (hgrow : ∀ additions more party, good additions → fits additions party →
      (∀ addition ∈ more, CharacterCreation.Expected data party addition) →
      good (additions ++ more)) (hnone : good []) (console : Console) :
    let last := (play.run data (Session.start data console)).session
    (good last.additions ∧ ∀ party ∈ last.party, fits last.additions party) ∧
      ∀ moment ∈ last.moments, good moment.additions ∧
        ∀ party ∈ moment.party, fits moment.additions party := by
  intro last
  have hstart : (Session.start data console).party = none ∧
      (Session.start data console).moments = [] ∧
      (Session.start data console).additions = [] := by
    unfold Session.start
    split <;> exact ⟨rfl, rfl, rfl⟩
  obtain ⟨hparty, hmoments, hadditions⟩ := hstart
  refine of_admits_about (obeys_play (suits_always hlasts hgrow) _ ⟨⟨?_, ?_⟩, ?_⟩)
  · rw [hadditions]
    exact hnone
  · rw [hparty]
    exact fun kept hkept => absurd hkept (Option.not_mem_none kept)
  · rw [hmoments]
    exact fun moment hmoment => absurd hmoment List.not_mem_nil

end

/-! ## What is added up -/

/-- What is known of a party whose members are of species that the game offers is what it offers. -/
theorem mem_of_knownSpecies {party : Party}
    (h : ∀ member ∈ party.members, member.species ∈ data.species) {species : Species}
    (hknown : CharacterCreation.KnownSpecies data party species) : species ∈ data.species := by
  rcases hknown with hoffered | ⟨member, hmember, rfl⟩
  · exact hoffered
  · exact h member hmember

theorem mem_of_knownBackground {party : Party}
    (h : ∀ member ∈ party.members, member.background ∈ data.backgrounds) {background : Background}
    (hknown : CharacterCreation.KnownBackground data party background) :
    background ∈ data.backgrounds := by
  rcases hknown with hoffered | ⟨member, hmember, rfl⟩
  · exact hoffered
  · exact h member hmember

/-- The next number is not greater than the number of those who have joined, and one, and the members
are of species and backgrounds that the game offers. -/
structure Counted (data : GameData) (additions : List Addition) (party : Party) : Prop where
  fresh : party.freshId ≤ Addition.joined additions + 1
  species : ∀ member ∈ party.members, member.species ∈ data.species
  background : ∀ member ∈ party.members, member.background ∈ data.backgrounds

/-- Wrapping around never makes the next number greater. -/
theorem freshId_add_le (party : Party) (name : String) (species : Species)
    (background : Background) :
    (party.add name species background).freshId ≤ party.freshId + 1 := by
  show max (UInt32.ofNat (party.freshId + 1)).toNat 1 ≤ party.freshId + 1
  rw [UInt32.toNat_ofNat']
  exact Nat.max_le.2 ⟨Nat.mod_le _ _, Nat.le_add_left 1 party.freshId⟩

theorem Counted.update {additions : List Addition} {party : Party}
    (h : Counted data additions party) (id : Nat) {change : Character → Character}
    (hspecies : ∀ member ∈ party.members, (change member).species ∈ data.species)
    (hbackground : ∀ member ∈ party.members, (change member).background ∈ data.backgrounds) :
    Counted data additions (party.update id change) := by
  refine ⟨h.fresh, fun member hmember => ?_, fun member hmember => ?_⟩
  · rcases Party.mem_updateFirst hmember with hold | ⟨old, hold, rfl⟩
    · exact h.species member hold
    · exact hspecies old hold
  · rcases Party.mem_updateFirst hmember with hold | ⟨old, hold, rfl⟩
    · exact h.background member hold
    · exact hbackground old hold

theorem counted_save {additions : List Addition} {party : Party} (h : Counted data additions party)
    (editing : Option Nat) {finished : CharacterCreation.Finished}
    (hknown : finished.Known data party) :
    Counted data (additions ++ CharacterCreation.additions party editing finished)
      (CharacterCreation.save party editing finished).1 := by
  have hspecies := mem_of_knownSpecies h.species hknown.species
  have hbackground := mem_of_knownBackground h.background hknown.background
  unfold CharacterCreation.save CharacterCreation.additions
  split
  · -- nobody joins when a member is changed
    refine Counted.update ⟨?_, h.species, h.background⟩ _ (fun _ _ => hspecies)
      fun _ _ => hbackground
    rw [Addition.joined_append]
    exact h.fresh
  · have hfresh := freshId_add_le party finished.name finished.species finished.background
    have hjoined := h.fresh
    have hmem : ∀ member ∈ (party.add finished.name finished.species finished.background).members,
        member ∈ party.members ∨ member = Character.create party.freshId finished.name
          finished.species finished.background := fun member hmember =>
      (List.mem_append.1 hmember).imp_right List.mem_singleton.1
    refine ⟨?_, fun member hmember => ?_, fun member hmember => ?_⟩
    · rw [Addition.joined_append]
      have hone : Addition.joined [.number party.freshId,
          .stats finished.species.stats finished.background.modifiers] = 1 := rfl
      show (party.add finished.name finished.species finished.background).freshId ≤ _
      omega
    · rcases hmem member hmember with hold | rfl
      · exact h.species member hold
      · rw [Character.create, Character.rename_eq]
        exact hspecies
    · rcases hmem member hmember with hold | rfl
      · exact h.background member hold
      · rw [Character.create, Character.rename_eq]
        exact hbackground

/-- Whatever the game does to a party, its numbers stay counted. -/
theorem lasts_counted (data : GameData) : Lasts data (Counted data) where
  grow additions more party h := by
    refine ⟨Nat.le_trans h.fresh ?_, h.species, h.background⟩
    rw [Addition.joined_append]
    omega
  named _ _ := ⟨Nat.le_add_left 1 _, fun _ h => absurd h List.not_mem_nil,
    fun _ h => absurd h List.not_mem_nil⟩
  rename _ _ _ h := ⟨h.fresh, h.species, h.background⟩
  renameMember _ _ id name h := by
    refine Counted.update h id (fun member hmember => ?_) fun member hmember => ?_
    · rw [Character.rename_eq]
      exact h.species member hmember
    · rw [Character.rename_eq]
      exact h.background member hmember
  remove _ party id h := by
    have hsublist : (party.remove id).members.Sublist party.members := List.eraseP_sublist
    exact ⟨h.fresh, fun member hmem => h.species member (hsublist.mem hmem),
      fun member hmem => h.background member (hsublist.mem hmem)⟩
  save _ _ editing _ h hknown := counted_save h editing hknown

/-- What is expected for a counted party is planned. -/
theorem planned_append {additions more : List Addition} {party : Party}
    (h : ∀ addition ∈ additions, addition.Planned data (Addition.joined additions))
    (hcounted : Counted data additions party)
    (hmore : ∀ addition ∈ more, CharacterCreation.Expected data party addition) :
    ∀ addition ∈ additions ++ more, addition.Planned data (Addition.joined (additions ++ more)) := by
  intro addition haddition
  rw [Addition.joined_append]
  rcases List.mem_append.1 haddition with hold | hnew
  · exact (h addition hold).mono (Nat.le_add_right _ _)
  · cases hmore addition hnew with
    | stats hspecies hbackground =>
      exact ⟨_, mem_of_knownSpecies hcounted.species hspecies, _,
        mem_of_knownBackground hcounted.background hbackground, rfl, rfl⟩
    | number =>
      -- the number is counted itself
      have hcount : 1 ≤ Addition.joined more := List.countP_pos_iff.2 ⟨_, hnew, rfl⟩
      have hfresh := hcounted.fresh
      show party.freshId ≤ _
      omega

/-! ## Sound parties -/

/-- A party of characters that the game offers. -/
def OffersParty (data : GameData) (party : Party) : Prop :=
  party.Sound data.species data.backgrounds

theorem sound_save {party : Party} (h : OffersParty data party) (editing : Option Nat)
    {finished : CharacterCreation.Finished} (hknown : finished.Known data party)
    (hfits : ∀ addition ∈ CharacterCreation.additions party editing finished, addition.Fits) :
    OffersParty data (CharacterCreation.save party editing finished).1 := by
  have hspecies := mem_of_knownSpecies (fun member hmem => (h.members member hmem).species_mem)
    hknown.species
  have hbackground := mem_of_knownBackground
    (fun member hmem => (h.members member hmem).background_mem) hknown.background
  unfold CharacterCreation.additions at hfits
  unfold CharacterCreation.save
  split
  · next member hmember =>
    simp only [hmember, List.forall_mem_cons] at hfits
    refine Party.Sound.update h member.id (fun character => ?_) fun character hmem => ?_
    · exact Character.id_rename character finished.name
    · exact (h.members character hmem).change finished.name hspecies hbackground hfits.2.1
  · next hnone =>
    simp only [hnone, List.forall_mem_cons] at hfits
    exact Party.Sound.add h finished.name hspecies hbackground hfits.2.1 hfits.1

/-- Whatever the game does to a party, it stays sound as long as all sums fit. -/
theorem lasts_sound (data : GameData) :
    Lasts data fun additions party => (∀ addition ∈ additions, addition.Fits) →
      OffersParty data party where
  grow _ _ _ h hfits := h fun addition haddition => hfits addition (List.mem_append_left _ haddition)
  named _ name _ := Party.sound_named name
  rename _ _ name h hfits := Party.Sound.rename (h hfits) name
  renameMember _ _ id name h hfits :=
    Party.Sound.update (h hfits) id (fun character => Character.id_rename character name)
      fun character hmember => ((h hfits).members character hmember).rename name
  remove _ _ id h hfits := Party.Sound.remove (h hfits) id
  save _ _ editing _ h hknown hfits :=
    sound_save (h fun addition haddition => hfits addition (List.mem_append_left _ haddition))
      editing hknown fun addition haddition => hfits addition (List.mem_append_right _ haddition)

/-- Nothing is added up in a game but what is planned. -/
theorem planned_play (data : GameData) (console : Console) :
    let last := (play.run data (Session.start data console)).session
    (∀ addition ∈ last.additions, addition.Planned data (Addition.joined last.additions)) ∧
      ∀ moment ∈ last.moments, ∀ addition ∈ moment.additions,
        addition.Planned data (Addition.joined moment.additions) := by
  intro last
  obtain ⟨⟨hlast, -⟩, hmoments⟩ := always_play
    (fun additions => ∀ addition ∈ additions, addition.Planned data (Addition.joined additions))
    (lasts_counted data) (fun _ _ _ => planned_append) (fun _ h => absurd h List.not_mem_nil) console
  exact ⟨hlast, fun moment hmoment => (hmoments moment hmoment).1⟩

/-- Whenever the player is asked something, and when the game is over, the numbers of the members
ascend from one up to the number for the next, and each member is of a species and a background
that the data list, with the statistics that follow from them and with the first word of its name,
in normal form, as its only alias. So it is where the sums of the data fit and fewer than
`2 ^ 32 - 1` members have joined, and in a build for development, which stops at a sum that does not
fit, however many have. -/
theorem party_sound (data : GameData) (hfits : data.SumsFit) (console : Console) :
    let last := (play.run data (Session.start data console)).session
    let reached (additions : List Addition) : Prop :=
      Addition.joined additions < UInt32.size - 1 ∨ ∀ addition ∈ additions, addition.Fits
    (reached last.additions → ∀ party ∈ last.party, OffersParty data party) ∧
      ∀ moment ∈ last.moments, reached moment.additions →
        ∀ party ∈ moment.party, OffersParty data party := by
  intro last reached
  obtain ⟨⟨-, hlast⟩, hmoments⟩ := always_play (fun _ => True) (lasts_sound data)
    (fun _ _ _ _ _ _ => trivial) trivial console
  obtain ⟨hplanned, hplannedThen⟩ := planned_play data console
  have hall : ∀ additions, (∀ addition ∈ additions,
      addition.Planned data (Addition.joined additions)) → reached additions →
      ∀ addition ∈ additions, addition.Fits := by
    intro additions hadditions hreached
    rcases hreached with hfew | hevery
    · exact fun addition h => (hadditions addition h).fits hfits (by omega)
    · exact hevery
  exact ⟨fun hreached party hparty => hlast party hparty (hall _ hplanned hreached),
    fun moment hmoment hreached party hparty =>
      (hmoments moment hmoment).2 party hparty (hall _ (hplannedThen moment hmoment) hreached)⟩

/-- The sums of the built-in data fit. -/
theorem sumsFit_builtin : GameData.builtin.SumsFit := by decide +kernel

/-- A script for the built-in game with which Bob joins. -/
def bobConsole : Console where
  answers := ["new party", "Band", "add", "Bob", "species human", "background scholar", "done",
    "done"].map .line

/-- When the script is at its end one has joined, and the party is sound. -/
theorem bobConsole_party_sound :
    let last := (play.run GameData.builtin (Session.start GameData.builtin bobConsole)).session
    GameData.builtin.SumsFit ∧ Addition.joined last.additions = 1 ∧ last.party ≠ none ∧
      ∀ party ∈ last.party, OffersParty GameData.builtin party := by
  intro last
  have hrun : (last.party.isSome && Addition.joined last.additions == 1) = true := by
    decide +kernel
  obtain ⟨hparty, hjoined⟩ := Bool.and_eq_true_iff.1 hrun
  have hone : Addition.joined last.additions = 1 := beq_iff_eq.1 hjoined
  have hfew : Addition.joined last.additions < UInt32.size - 1 := by
    rw [hone]
    decide
  exact ⟨sumsFit_builtin, hone, Option.isSome_iff_ne_none.1 hparty,
    (party_sound GameData.builtin sumsFit_builtin bobConsole).1 (Or.inl hfew)⟩

end Muster.Game
