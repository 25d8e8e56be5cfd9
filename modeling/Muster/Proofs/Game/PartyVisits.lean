import Muster.Proofs.Game.PartyAccounts
import Muster.Proofs.Game.Visits
import Muster.Proofs.Text.Names

/-!
# Visits of party creation

Party creation first introduces a new party, which has nothing but a name, and then reads commands
in rounds until it is left (`Assembles`). It is left for the main menu by one of two commands, and
that in the round of its last line: by `abort`, and then there is no party; or by `done`, and then
the party is the one that has been assembled, and has a member. Main statements: `exists_leftBy`, and
`Visit.LeftBy.cases`.
-/

namespace Muster.Game

open Muster.Flow Play

variable {data : GameData}

/-- A part in a row that succeeds has succeeded, and so has what comes after it. -/
theorem exists_of_run_bind {α β : Type} {x : Play α} {f : α → Play β} {session last : Session}
    {b : β} (h : (x >>= f).run data session = .ok b last) :
    ∃ a next, x.run data session = .ok a next ∧ (f a).run data next = .ok b last := by
  rw [run_bind] at h
  split at h
  · next a next hrun => exact ⟨a, next, hrun, h⟩
  · cases h

/-- A name is the display form of a line that is not blank. -/
theorem gives_askName_line (stage prompt : String) :
    Gives data (fun name =>
      ∃ line : String, Text.isBlank line.toList = false ∧ name = displayName line)
      (askName stage prompt) := by
  have hrespond : ∀ state : Unit, True → ∀ line, Gives data
      (Turn.Meets (fun _ : Unit => True) fun name =>
        ∃ line : String, Text.isBlank line.toList = false ∧ name = displayName line)
      (if (displayName line).isEmpty then pure (.again ()) else pure (.leave (displayName line))) := by
    intro _ _ line
    split
    · exact gives_pure trivial
    · next hempty =>
      rw [isEmpty_displayName, Bool.not_eq_true] at hempty
      exact gives_pure ⟨line, hempty, rfl⟩
  exact gives_converse hrespond trivial

/-- What the player is asked to name is not blank. -/
theorem gives_askName (stage prompt : String) :
    Gives data (fun name => Text.isBlank name.toList = false) (askName stage prompt) := by
  intro session name next hrun
  obtain ⟨line, hline, rfl⟩ := gives_askName_line stage prompt session name next hrun
  rw [isBlank_displayName]
  exact hline

namespace PartyCreation

/-! ## A new party -/

/-- Names a new party, which takes the place of the one before. -/
def introduce : Play Unit := do
  sayMessage StageName.partyCreation "greeting"
  let name ← askName StageName.partyCreation "name prompt"
  setParty (some (Party.named name))
  sayFormat StageName.partyCreation "name is" [("party_name", name)]

theorem start_eq (set : CommandSet Action) : start set = introduce >>= fun _ => assemble set := by
  simp only [start, introduce, bind_assoc]

/-- A new party has a name, and nothing else. -/
theorem party_introduced {session begun : Session}
    (h : introduce.run data session = .ok () begun) :
    ∃ name : String, Text.isBlank name.toList = false ∧ begun.party = some (Party.named name) := by
  obtain ⟨_, greeted, _, h⟩ := exists_of_run_bind h
  obtain ⟨name, asked, hname, h⟩ := exists_of_run_bind h
  refine ⟨name, gives_askName _ _ _ _ _ hname, ?_⟩
  obtain ⟨_, named, hset, h⟩ := exists_of_run_bind h
  cases hset
  have hobeys : Obeys data (quiet { asked with party := some (Party.named name) })
      (sayFormat StageName.partyCreation "name is" [("party_name", name)]) :=
    obeys_sayFormat (speaks_quiet _) (.party (by decide)) _
  have hsaid := hobeys _ ⟨rfl, rfl⟩
  rw [h] at hsaid
  exact hsaid.1

/-! ## Leaving -/

/-- The stage is left by the command that a line is meant for. -/
theorem respond_leave {set : CommandSet Action} {party : Party} {state : Unit} {line : String}
    {heard last : Session} {departure : Departure} (hparty : heard.party = some party)
    (h : (respond set state line).run data heard = .ok (.leave departure) last) :
    ∃ action bindings, Means set (data.scope (some party)) line action bindings ∧
      (act () action bindings).run data heard = .ok (.leave departure) last := by
  obtain ⟨scope, next, hrun, h⟩ := exists_of_run_bind h
  rw [run_rosterScope hparty] at hrun
  cases hrun
  have hcases : Gives data (· = none) (understand set (data.scope (some party)) line) ∨ _ :=
    understand_cases set (data.scope (some party)) line
  rcases hcases with hnone | ⟨action, bindings, hmeans, hunderstood⟩
  · obtain ⟨meant, next, hmeant, h⟩ := exists_of_run_bind h
    rw [hnone _ _ _ hmeant] at h
    cases h
  · rw [hunderstood] at h
    exact ⟨action, bindings, hmeans, h⟩

/-- A line is meant for one command at most. -/
theorem Means.action_eq {set : CommandSet Action} {scope : Scope} {line : String}
    {action other : Action} {bindings filled : Bindings} (h : Means set scope line action bindings)
    (hother : Means set scope line other filled) : action = other := by
  obtain ⟨name, hdispatch⟩ := h.dispatch
  obtain ⟨_, hmatched⟩ := hother.dispatch
  rw [hdispatch] at hmatched
  cases hmatched
  rfl

/-- The turn does not lead to the main menu. -/
def Stays (turn : Turn Unit Departure) : Prop := turn ≠ .leave .toMainMenu

theorem gives_again : Gives data Stays (pure (.again ())) := gives_pure fun h => by cases h

/-- Only a party with a member is done. -/
theorem of_run_done {heard last : Session}
    (h : done.run data heard = .ok (.leave .toMainMenu) last) :
    ∃ party, last.party = some party ∧ party.members ≠ [] := by
  have hroster : roster.run data heard = .ok (heard.party.getD (Party.named "")) heard := rfl
  have hobeys : Obeys data (quiet heard) done := obeys_done (speaks_quiet heard)
  have hlast := hobeys heard ⟨rfl, rfl⟩
  rw [h] at hlast
  obtain ⟨party, next, hrun, h⟩ := exists_of_run_bind h
  rw [hroster] at hrun
  cases hrun
  split at h
  · -- without members the party is not done
    have hstays : Gives data Stays (sayMessage StageName.partyCreation "cannot finish" >>= fun _ =>
        pure (.again ())) := Gives.of_bind fun _ => gives_again
    exact absurd rfl (hstays _ _ _ h)
  · next hmembers =>
    rw [Party.isEmpty, List.isEmpty_iff] at hmembers
    cases hparty : heard.party with
    | none =>
      rw [hparty] at hmembers
      exact absurd rfl hmembers
    | some party =>
      rw [hparty, Option.getD_some] at hmembers
      exact ⟨party, by rw [← hparty]; exact hlast.1, hmembers⟩

/-- Whatever is done with a member, the stage is not left. -/
theorem gives_withNamed (bindings : Bindings) (body : Character → Play Unit) :
    Gives data Stays (withNamed bindings body) := by
  refine Gives.of_bind fun named => ?_
  cases named with
  | none => exact gives_again
  | some member => exact Gives.of_bind fun _ => gives_again

/-- The stage is left for the main menu by giving the party up, or by being done with it. -/
theorem act_leave {action : Action} {bindings : Bindings} {heard last : Session}
    (h : (act () action bindings).run data heard = .ok (.leave .toMainMenu) last) :
    (action = .abort ∧ last.party = none) ∨
      (action = .done ∧ ∃ party, last.party = some party ∧ party.members ≠ []) := by
  have hstays : Gives data Stays (act () action bindings) → False := fun hgives =>
    hgives _ _ _ h rfl
  cases action with
  | abort =>
    obtain ⟨_, _, _, h⟩ := exists_of_run_bind h
    cases h
    exact Or.inl ⟨rfl, rfl⟩
  | done => exact Or.inr ⟨rfl, of_run_done h⟩
  | quit => exact (hstays (Gives.of_bind fun _ => gives_pure fun h => by cases h)).elim
  | help => exact (hstays (Gives.of_bind fun _ => gives_again)).elim
  | add => exact (hstays (Gives.of_bind fun _ => gives_again)).elim
  | edit => exact (hstays (gives_withNamed _ _)).elim
  | delete => exact (hstays (gives_withNamed _ _)).elim
  | renameCharacter => exact (hstays (gives_withNamed _ _)).elim
  | renameParty => exact (hstays (Gives.of_bind fun _ => gives_again)).elim
  | list => exact (hstays (Gives.of_bind fun _ => gives_again)).elim

/-- Who gives the party up leaves the stage. -/
theorem Accounts.party_ne_none {set : CommandSet Action} {party : Party}
    {round : Round Unit Departure} (h : Accounts data set party round) {following : Unit}
    {next : Session} (houtcome : round.outcome = .ok (.again following) next) :
    next.party ≠ none := by
  have hlast := h.outcome
  rw [houtcome] at hlast
  rcases hlast with hsame | ⟨_, _, _, _, hleft⟩ | ⟨_, _, changed, _, _, hchanged⟩
  · exact fun hnone => Option.some_ne_none party (hsame.symm.trans hnone)
  · cases hleft
  · exact fun hnone => Option.some_ne_none changed (hchanged.symm.trans hnone)

/-- From the moment the party has its name, every round of party creation accounts for it. -/
theorem exists_accounts {set : CommandSet Action} {state : Unit} {session : Session}
    {rounds : List (Round Unit Departure)} {outcome : Outcome Departure}
    (h : Unfolds (askMessage StageName.partyCreation "what next") (respond set) data state session
      rounds outcome) (hparty : session.party ≠ none) :
    ∀ round ∈ rounds, ∃ party, Accounts data set party round := by
  refine h.forall_rounds (·.party ≠ none) (fun round hround hasked => ?_) hparty
  obtain ⟨party, hbefore⟩ := Option.ne_none_iff_exists'.1 hasked
  have haccounts := accounts_of_happens hround hbefore
  exact ⟨⟨party, haccounts⟩, fun _ _ hnext => haccounts.party_ne_none hnext⟩

end PartyCreation

/-! ## Visits -/

open PartyCreation

/-- How a visit of party creation goes on when the new party has been introduced: in rounds, the
outcome of which says what comes next. -/
structure Assembles (data : GameData) (set : CommandSet Action) (visit : Visit) (begun : Session)
    (rounds : List (Round Unit Departure)) (outcome : Outcome Departure) : Prop where
  introduced : introduce.run data { visit.entered with stage := StageName.partyCreation } =
    .ok () begun
  unfolds : Unfolds (askMessage StageName.partyCreation "what next") (respond set) data () begun
    rounds outcome
  left : visit.outcome.session = outcome.session
  change : ∀ next entry arg last, visit.outcome = .ok (.change next entry arg) last →
    outcome = .ok .toMainMenu last ∧ ∃ menu, next = .mainMenu menu

/-- The main menu is entered without a word. -/
theorem run_toMainMenu (data : GameData) (entry : String) (session : Session) :
    (∃ failure, (Stage.toMainMenu entry).run data session = .error failure session) ∨
      ∃ set, (Stage.toMainMenu entry).run data session =
        .ok (.change (.mainMenu set) entry none) session := by
  have hrun : (Stage.toMainMenu entry).run data session =
      (ofExcept (MainMenu.commands data) >>= fun set =>
        pure (.change (.mainMenu set) entry none)).run data session := rfl
  rw [hrun]
  cases MainMenu.commands data with
  | error failure => exact Or.inl ⟨failure, rfl⟩
  | ok set => exact Or.inr ⟨set, rfl⟩

/-- Party creation fails as its start does, and otherwise ends the game or enters the main menu. -/
theorem run_enter_partyCreation {set : CommandSet Action} {session : Session}
    {outcome : Outcome Departure}
    (hstart : (start set).run data { session with stage := StageName.partyCreation } = outcome) :
    let visited := (Stage.enter (.partyCreation set) "from main menu" none).run data session
    (∀ failure last, outcome = .error failure last → visited = .error failure last) ∧
      (∀ last, outcome = .ok .quit last → visited = .ok (.finish none) last) ∧
      ∀ last, outcome = .ok .toMainMenu last →
        visited = (Stage.toMainMenu "from party creation").run data last := by
  intro visited
  refine ⟨fun failure last h => ?_, fun last h => ?_, fun last h => ?_⟩
  · show (start set >>= _).run data { session with stage := StageName.partyCreation } = _
    rw [run_bind, hstart, h]
  · show (start set >>= _).run data { session with stage := StageName.partyCreation } = _
    rw [run_bind, hstart, h]
    rfl
  · show (start set >>= _).run data { session with stage := StageName.partyCreation } = _
    rw [run_bind, hstart, h]

/-- Party creation introduces a new party and assembles it, unless the introduction fails. -/
theorem Visit.Happens.assembles {visit : Visit} (h : visit.Happens data)
    {set : CommandSet Action} (hstage : visit.stage = .partyCreation set)
    (hentry : visit.entry = "from main menu") (harg : visit.arg = none) :
    (∃ failure last, introduce.run data { visit.entered with stage := StageName.partyCreation } =
        .error failure last ∧ visit.outcome = .error failure last) ∨
      ∃ begun rounds outcome, Assembles data set visit begun rounds outcome := by
  rw [Visit.Happens, hstage, hentry, harg] at h
  cases hintroduce : introduce.run data
      { visit.entered with stage := StageName.partyCreation } with
  | error failure last =>
    have hstart : (start set).run data { visit.entered with stage := StageName.partyCreation } =
        .error failure last := by
      rw [start_eq, run_bind, hintroduce]
    exact Or.inl ⟨failure, last, rfl, h.symm.trans
      ((run_enter_partyCreation hstart).1 failure last rfl)⟩
  | ok _ begun =>
    have hstart : (start set).run data { visit.entered with stage := StageName.partyCreation } =
        (assemble set).run data begun := by
      rw [start_eq, run_bind, hintroduce]
    obtain ⟨hfailed, hquit, htoMenu⟩ := run_enter_partyCreation hstart
    rw [h] at hfailed hquit htoMenu
    obtain ⟨rounds, _, hunfolds⟩ := converse_unfolds
      (reads_askMessage StageName.partyCreation "what next") () begun
    rw [← assemble_eq_converse] at hunfolds
    -- what comes next depends on why the rounds have ended
    have hends : visit.outcome.session = ((assemble set).run data begun).session ∧
        ∀ next entry arg last, visit.outcome = .ok (.change next entry arg) last →
          (assemble set).run data begun = .ok .toMainMenu last ∧ ∃ menu, next = .mainMenu menu := by
      cases hassemble : (assemble set).run data begun with
      | error failure last =>
        rw [hfailed failure last hassemble]
        exact ⟨rfl, fun _ _ _ _ h => by cases h⟩
      | ok departure last =>
        cases departure with
        | quit =>
          rw [hquit last hassemble]
          exact ⟨rfl, fun _ _ _ _ h => by cases h⟩
        | toMainMenu =>
          rw [htoMenu last hassemble]
          rcases run_toMainMenu data "from party creation" last with
            ⟨failure, hmenu⟩ | ⟨menu, hmenu⟩
          · rw [hmenu]
            exact ⟨rfl, fun _ _ _ _ h => by cases h⟩
          · rw [hmenu]
            refine ⟨rfl, fun _ _ _ _ h => ?_⟩
            cases h
            exact ⟨rfl, menu, rfl⟩
    exact Or.inr ⟨begun, rounds, _, hintroduce, hunfolds, hends.1, hends.2⟩

/-- The visit is one of party creation, which is left for the main menu when a line is read that is
meant for the command. -/
def Visit.LeftBy (data : GameData) (visit : Visit) (action : Action) : Prop :=
  ∃ set begun earlier round last bindings, visit.stage = .partyCreation set ∧
    Assembles data set visit begun (earlier ++ [round]) (.ok .toMainMenu last) ∧
    Means set (data.scope round.heard.party) round.line action bindings

/-- When the new party has been introduced, there is one. -/
theorem Assembles.party_ne_none {set : CommandSet Action} {visit : Visit} {begun : Session}
    {rounds : List (Round Unit Departure)} {outcome : Outcome Departure}
    (h : Assembles data set visit begun rounds outcome) : begun.party ≠ none := by
  obtain ⟨name, _, hbegun⟩ := party_introduced h.introduced
  rw [hbegun]
  exact Option.some_ne_none _

/-- There is a party when a line is read in party creation, and what leaves the stage then is the
command that the line is meant for. -/
theorem Assembles.last_round {set : CommandSet Action} {visit : Visit} {begun : Session}
    {rounds : List (Round Unit Departure)} {departure : Departure} {last : Session}
    (h : Assembles data set visit begun rounds (.ok departure last)) :
    ∃ earlier round action bindings, rounds = earlier ++ [round] ∧
      Means set (data.scope round.heard.party) round.line action bindings ∧
      (act () action bindings).run data round.heard = .ok (.leave departure) last := by
  obtain ⟨earlier, round, rfl, hround, houtcome⟩ := h.unfolds.exists_left
  obtain ⟨party, haccounts⟩ := exists_accounts h.unfolds h.party_ne_none round (by simp)
  have hresponse := hround.response
  rw [houtcome] at hresponse
  obtain ⟨action, bindings, hmeans, hact⟩ := respond_leave haccounts.heard hresponse
  refine ⟨earlier, round, action, bindings, rfl, ?_, hact⟩
  rw [haccounts.heard]
  exact hmeans

/-- Party creation that has been left for the main menu has been aborted, and there is no party; or
it is done, and the party has a member. -/
theorem Visit.LeftBy.cases {visit : Visit} {action : Action} (h : visit.LeftBy data action) :
    (action = .abort ∧ visit.outcome.session.party = none) ∨
      (action = .done ∧ ∃ party, visit.outcome.session.party = some party ∧
        party.members ≠ []) := by
  obtain ⟨set, begun, earlier, round, last, bindings, _, hassembles, hmeans⟩ := h
  obtain ⟨others, same, found, filled, hrounds, hfound, hact⟩ := hassembles.last_round
  obtain ⟨_, hsame⟩ := List.append_inj' hrounds rfl
  cases hsame
  rw [hassembles.left, hmeans.action_eq hfound]
  exact act_leave hact

/-- When the main menu follows on party creation, party creation has been left by a command. -/
theorem Visit.Happens.exists_leftBy {visit : Visit} (h : visit.Happens data)
    {set : CommandSet Action} (hstage : visit.stage = .partyCreation set)
    (hentry : visit.entry = "from main menu") (harg : visit.arg = none) {next : Stage}
    {entry : String} {arg : Option Value} {last : Session}
    (houtcome : visit.outcome = .ok (.change next entry arg) last) :
    (∃ menu, next = .mainMenu menu) ∧ ∃ action, visit.LeftBy data action := by
  rcases h.assembles hstage hentry harg with ⟨_, _, _, hfailed⟩ | ⟨begun, rounds, outcome, hassembles⟩
  · rw [hfailed] at houtcome
    cases houtcome
  · obtain ⟨rfl, hmenu⟩ := hassembles.change _ _ _ _ houtcome
    obtain ⟨earlier, round, action, bindings, rfl, hmeans, _⟩ := hassembles.last_round
    exact ⟨hmenu, action, set, begun, earlier, round, last, bindings, hstage, hassembles, hmeans⟩

end Muster.Game
