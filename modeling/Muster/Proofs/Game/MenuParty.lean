import Muster.Proofs.Game.PartyVisits

/-!
# The party at the main menu

Nothing happens to the party while the main menu is visited (`steady_menu`), and the menu is entered
from the start, where there is no party yet, or when party creation has been left by a command. So
the main menu never holds an unfinished party. Main statement: `menu_never_unfinished`.
-/

namespace Muster.Game

open Muster.Flow Play PartyCreation

variable {data : GameData}

/-- The visit is one of the main menu. -/
def Visit.AtMenu (visit : Visit) : Prop := ∃ set, visit.stage = .mainMenu set

/-- From entry to end the party was the one that the stage was entered with. -/
def Visit.Steady (visit : Visit) : Prop :=
  visit.outcome.session.party = visit.entered.party ∧
    Shown visit.entered.party visit.entered.moments visit.outcome.session.moments

/-- A stage that has room for all that is said and asked, but leaves the party alone. -/
theorem Visit.Happens.steady {visit : Visit} (h : visit.Happens data)
    (hobeys : Obeys data (steady visit.entered) (visit.stage.enter visit.entry visit.arg)) :
    visit.Steady := by
  have hadmits := hobeys visit.entered (keeps_steady visit.entered)
  rw [h] at hadmits
  exact of_admits_about hadmits

/-- The start leaves the party alone. -/
theorem steady_startup {visit : Visit} (h : visit.Happens data) (hstage : visit.stage = .startup)
    (hentry : visit.entry = "start") (harg : visit.arg = none) : visit.Steady := by
  refine h.steady ?_
  rw [hstage, hentry, harg]
  have hsetStage : Obeys data (steady visit.entered) (setStage Stage.startup.name) := fun _ h => h
  refine hsetStage.bind fun _ => obeys_enterAt rfl ?_
  refine obeys_data_bind ((obeys_ofExcept_steady _).bind fun _ => ?_)
  exact obeys_data_bind ((obeys_ofExcept_steady _).bind fun _ => obeys_pure _)

/-- What is entered at the main menu: both ways something is said, and then commands are read. -/
theorem obeys_menu {visit : Visit} {set : CommandSet MainMenu.Action}
    (hawaits : Awaits visit.stage visit.entry visit.arg) (hstage : visit.stage = .mainMenu set) :
    Obeys data (steady visit.entered) (enterAt (MainMenu.entries set) visit.entry visit.arg) := by
  have hhosts : Hosts data (steady visit.entered) := hosts_steady visit.entered
  rw [hstage] at hawaits
  generalize visit.entry = entry, visit.arg = arg at hawaits ⊢
  cases hawaits with
  | menu => exact obeys_enterAt rfl ((obeys_sayMessage hhosts.toSpeaks (.menu (by decide))).bind
      fun _ => obeys_attend hhosts set)
  | back => exact obeys_enterAt rfl ((obeys_sayReady hhosts.toSpeaks).bind
      fun _ => obeys_attend hhosts set)

/-- The main menu leaves the party alone. -/
theorem steady_menu {visit : Visit} (h : visit.Happens data)
    (hawaits : Awaits visit.stage visit.entry visit.arg) (hmenu : visit.AtMenu) :
    visit.Steady := by
  obtain ⟨set, hstage⟩ := hmenu
  have henter : Obeys data (steady visit.entered)
      (enterAt (MainMenu.entries set) visit.entry visit.arg) := obeys_menu hawaits hstage
  have hsetStage : Obeys data (steady visit.entered) (setStage StageName.mainMenu) := fun _ h => h
  refine h.steady ?_
  rw [hstage]
  refine hsetStage.bind fun _ => henter.bind fun departure => ?_
  cases departure with
  | quit => exact obeys_pure _
  | newParty => exact obeys_data_bind ((obeys_ofExcept_steady _).bind fun _ => obeys_pure _)

/-- After the main menu comes party creation, with its commands. -/
theorem partyCreation_of_menu {visit : Visit} (h : visit.Happens data) (hmenu : visit.AtMenu)
    {next : Stage} {entry : String} {arg : Option Value} {last : Session}
    (houtcome : visit.outcome = .ok (.change next entry arg) last) :
    ∃ set, next = .partyCreation set ∧ commands data = .ok set := by
  obtain ⟨set, hstage⟩ := hmenu
  rw [Visit.Happens, hstage, houtcome] at h
  obtain ⟨_, _, _, h⟩ := exists_of_run_bind h
  obtain ⟨departure, _, _, h⟩ := exists_of_run_bind h
  cases departure with
  | quit => cases h
  | newParty =>
    obtain ⟨_, _, hdata, h⟩ := exists_of_run_bind h
    cases hdata
    obtain ⟨set, _, hset, h⟩ := exists_of_run_bind h
    cases h
    exact ⟨set, rfl, (of_run_ofExcept hset).1⟩

/-! ## From visit to visit -/

/-- With what party a stage is entered after some visits. The start is entered without one. The main
menu is entered with the party that the visit before has left: that was party creation, left by a
command, or there is no party. -/
def Arrives (data : GameData) (before : List Visit) (stage : Stage) (session : Session) : Prop :=
  match stage with
  | .startup => session.party = none
  | .mainMenu _ =>
    (session.party = none ∧ ∀ previous ∈ before.getLast?, ∀ action, ¬ previous.LeftBy data action) ∨
      ∃ previous ∈ before.getLast?, session = previous.outcome.session ∧
        ∃ action, previous.LeftBy data action
  | .partyCreation _ => True

/-- Each visit passes on to the next with what party it is entered. -/
theorem arrives_next {before : List Visit} {visit : Visit} (h : visit.Happens data)
    (hawaits : Awaits visit.stage visit.entry visit.arg)
    (harrives : Arrives data before visit.stage visit.entered) {next : Stage} {entry : String}
    {arg : Option Value} {last : Session}
    (houtcome : visit.outcome = .ok (.change next entry arg) last) :
    Arrives data (before ++ [visit]) next last := by
  obtain ⟨stage, visitEntry, visitArg, entered, outcome⟩ := visit
  simp only at hawaits harrives houtcome
  cases hawaits with
  | start =>
    obtain ⟨set, hset⟩ := Stage.startup_changes (h.trans houtcome)
    cases hset
    have hparty : outcome.session.party = entered.party := (steady_startup h rfl rfl rfl).1
    have hnone : entered.party = none := harrives
    rw [houtcome, hnone] at hparty
    refine Or.inl ⟨hparty, fun previous hprevious action hleft => ?_⟩
    rw [List.getLast?_concat, Option.mem_some_iff] at hprevious
    obtain ⟨_, _, _, _, _, _, hstage, _⟩ := hleft
    rw [← hprevious] at hstage
    cases hstage
  | menu set =>
    obtain ⟨_, rfl, _⟩ := partyCreation_of_menu h ⟨set, rfl⟩ houtcome
    trivial
  | back set =>
    obtain ⟨_, rfl, _⟩ := partyCreation_of_menu h ⟨set, rfl⟩ houtcome
    trivial
  | party set =>
    obtain ⟨⟨menu, rfl⟩, hleft⟩ := h.exists_leftBy rfl rfl rfl houtcome
    refine Or.inr ⟨_, by rw [List.getLast?_concat]; rfl, ?_, hleft⟩
    rw [houtcome]
    rfl

/-- There is a party at the main menu exactly if the visit before was party creation, which was left
when the party was done; and then it has a member. -/
theorem arrives_menu {before : List Visit} {set : CommandSet MainMenu.Action} {session : Session}
    (h : Arrives data before (.mainMenu set) session) :
    (session.party ≠ none ↔ ∃ previous ∈ before.getLast?, previous.LeftBy data .done) ∧
      ∀ party ∈ session.party, party.members ≠ [] := by
  rcases h with ⟨hnone, hnever⟩ | ⟨previous, hprevious, hsession, action, hleft⟩
  · refine ⟨⟨fun hparty => absurd hnone hparty, ?_⟩, fun party hparty => ?_⟩
    · rintro ⟨previous, hprevious, hdone⟩
      exact absurd hdone (hnever previous hprevious .done)
    · rw [hnone] at hparty
      cases hparty
  · rcases hleft.cases with ⟨_, hparty⟩ | ⟨rfl, party, hparty, hmembers⟩
    · rw [← hsession] at hparty
      refine ⟨⟨fun hsome => absurd hparty hsome, ?_⟩, fun party hsome => ?_⟩
      · rintro ⟨other, hother, hdone⟩
        -- the visit before is the same, and has left no party
        rw [Option.mem_unique hother hprevious] at hdone
        rcases hdone.cases with ⟨habort, _⟩ | ⟨_, party, hsome, _⟩
        · cases habort
        · rw [← hsession, hparty] at hsome
          cases hsome
      · rw [hparty] at hsome
        cases hsome
    · rw [← hsession] at hparty
      refine ⟨⟨fun _ => ⟨previous, hprevious, hleft⟩, fun _ => ?_⟩, fun found hfound => ?_⟩
      · rw [hparty]
        exact Option.some_ne_none party
      · rw [hparty, Option.mem_some_iff] at hfound
        rw [← hfound]
        exact hmembers

/-- Right after a visit that was aborted there is none that was left otherwise. -/
theorem not_leftBy_done {visit : Visit} (h : visit.LeftBy data .abort) :
    ¬ visit.LeftBy data .done := by
  intro hdone
  rcases h.cases with ⟨_, hnone⟩ | ⟨hsame, _⟩
  · rcases hdone.cases with ⟨hsame, _⟩ | ⟨_, party, hparty, _⟩
    · cases hsame
    · rw [hnone] at hparty
      cases hparty
  · cases hsame

/-- The main menu never holds an unfinished party. In every game, while the main menu is visited,
help included, the party is the one that the visit begins with; if there is one, it has a member,
and there is one exactly if the visit before was party creation, left when the party was done. So
there is no party at the main menu until one has been done, nor after one has been aborted, until
another one has been done. -/
theorem menu_never_unfinished (data : GameData) (console : Console) :
    ∃ visits outcome,
      Visits data .startup "start" none (Session.start data console) visits outcome ∧
      (play.run data (Session.start data console)).session = outcome.session ∧
      ∀ before visit after, visits = before ++ visit :: after → visit.AtMenu →
        visit.Steady ∧ (∀ party ∈ visit.entered.party, party.members ≠ []) ∧
        (visit.entered.party ≠ none ↔
          ∃ previous ∈ before.getLast?, previous.LeftBy data .done) ∧
        ((∀ earlier ∈ before, ¬ earlier.LeftBy data .done) → visit.entered.party = none) ∧
        ∀ first aborted between, before = first ++ aborted :: between →
          aborted.LeftBy data .abort → (∀ later ∈ between, ¬ later.LeftBy data .done) →
            visit.entered.party = none := by
  obtain ⟨visits, outcome, hvisits, hlast⟩ := exists_visits_play data (Session.start data console)
  refine ⟨visits, outcome, hvisits, hlast, ?_⟩
  have hstart : Arrives data [] .startup (Session.start data console) :=
    (start_fresh data console).1
  have hall := hvisits.forall_visits (Arrives data)
    (fun before visit => visit.AtMenu →
      visit.Steady ∧ Arrives data before visit.stage visit.entered)
    (fun before visit h hawaits harrives => ⟨fun hmenu => ⟨steady_menu h hawaits hmenu, harrives⟩,
      fun _ _ _ _ houtcome => arrives_next h hawaits harrives houtcome⟩)
    .start [] hstart
  intro before visit after hsplit hmenu
  obtain ⟨hsteady, harrives⟩ := hall before visit after hsplit hmenu
  obtain ⟨set, hstage⟩ := hmenu
  rw [hstage, List.nil_append] at harrives
  obtain ⟨hdone, hmembers⟩ := arrives_menu harrives
  have hnever : (∀ previous ∈ before.getLast?, ¬ previous.LeftBy data .done) →
      visit.entered.party = none := by
    intro hnot
    by_cases hparty : visit.entered.party = none
    · exact hparty
    · obtain ⟨previous, hprevious, hleft⟩ := hdone.1 hparty
      exact absurd hleft (hnot previous hprevious)
  refine ⟨hsteady, hmembers, hdone, fun hnot => hnever fun previous hprevious =>
    hnot previous (List.mem_of_mem_getLast? hprevious), ?_⟩
  intro first aborted between hbefore haborted hlater
  -- the last visit is the one that was aborted, or comes after it
  refine hnever fun previous hprevious => ?_
  have hbetween : before = first ++ [aborted] ++ between := by
    rw [hbefore, List.append_assoc]
    rfl
  rw [hbetween, List.getLast?_append] at hprevious
  cases hend : between.getLast? with
  | none =>
    rw [hend, Option.none_or, List.getLast?_concat, Option.mem_some_iff] at hprevious
    rw [← hprevious]
    exact not_leftBy_done haborted
  | some later =>
    rw [hend, Option.some_or, Option.mem_some_iff] at hprevious
    rw [← hprevious]
    exact hlater later (List.mem_of_getLast? hend)

/-- A party without members cannot be done, and when it is given up there is none. -/
example :
    let lines := ["new party", "Band", "done", "abort"]
    let session := Session.start GameData.builtin { answers := lines.map .line }
    ((play.run GameData.builtin session).session.moments.map fun moment =>
        (moment.stage, moment.party.map (·.name))) =
      [(StageName.mainMenu, none), (StageName.partyCreation, none),
        (StageName.partyCreation, some "Band"), (StageName.partyCreation, some "Band"),
        (StageName.mainMenu, none)] := by
  decide +kernel

end Muster.Game
