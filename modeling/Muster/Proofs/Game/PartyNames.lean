import Muster.Proofs.Game.MenuParty
import Muster.Proofs.Roster.Answering

/-!
# Names that are not blank

A party and its members are named at prompts, which are repeated until there is a name, and by three
commands that give another name. The one that changes a draft ignores a line that does not say the
name. The two that rename a party or a member do not: such a line makes the name empty
(`party_renameParty`, `party_renameCharacter`). Main statement: `names_not_blank`. All names are
there at all times as long as every line that is meant for one of these two commands does say a name
(`SaysNames`), which depends on the data; the built-in data see to it (`builtin_saysNames`), and
others that pass the check do not (`check_misses_nameless`).
-/

namespace Muster

open Muster.Text

/-- The party and its members have names, which are not blank. -/
structure Party.HasNames (party : Party) : Prop where
  name : isBlank party.name.toList = false
  members : ∀ member ∈ party.members, isBlank member.name.toList = false

/-- What a slot for a name holds is not blank. -/
theorem Bindings.FilledFrom.exists_text {scope : Scope} {bindings : Bindings}
    (h : bindings.FilledFrom scope) (hcontains : bindings.contains .name = true) :
    ∃ name : String, bindings.text? .name = some name ∧ isBlank name.toList = false := by
  obtain ⟨value, hvalue⟩ := Option.isSome_iff_exists.1 hcontains
  obtain ⟨filling, hfilling, rfl⟩ := h .name value hvalue
  refine ⟨String.ofList (normal filling), ?_, ?_⟩
  · rw [text?, get?, hvalue]
    rfl
  · rw [String.toList_ofList, isBlank_normal, hfilling]

namespace Game

open Muster.Flow Play PartyCreation

variable {data : GameData}

/-! ## What keeps the names -/

theorem hasNames_named {name : String} (h : isBlank name.toList = false) :
    (Party.named name).HasNames :=
  ⟨h, fun _ hmember => by cases hmember⟩

/-- A finished draft that has a name brings it into the party. -/
theorem hasNames_save {party : Party} (h : party.HasNames) (editing : Option Nat)
    {finished : CharacterCreation.Finished} (hname : isBlank finished.name.toList = false) :
    (CharacterCreation.save party editing finished).1.HasNames := by
  unfold CharacterCreation.save
  split
  · next member _ =>
    refine ⟨h.name, fun character hcharacter => ?_⟩
    rcases Party.mem_updateFirst hcharacter with hold | ⟨old, _, rfl⟩
    · exact h.members character hold
    · show isBlank (old.rename finished.name).name.toList = false
      rw [Character.name_rename]
      exact hname
  · refine ⟨h.name, fun character hcharacter => ?_⟩
    have hmembers : character ∈ party.members ++ [Character.create party.freshId finished.name
        finished.species finished.background] := hcharacter
    rw [List.mem_append, List.mem_singleton] at hmembers
    rcases hmembers with hold | rfl
    · exact h.members character hold
    · rw [Character.create, Character.name_rename]
      exact hname

/-- The draft has a name, which is not blank. -/
def DraftNamed (draft : CharacterCreation.Draft) : Prop := isBlank draft.name.toList = false

/-- If the draft has been finished, it has a name. -/
def FinishedNamed (finished : Option CharacterCreation.Finished) : Prop :=
  ∀ found ∈ finished, isBlank found.name.toList = false

/-- Every action leaves a draft with a name: the one that gives it another name ignores a line that
does not say it. -/
theorem named_act {draft : CharacterCreation.Draft} (h : DraftNamed draft)
    (action : CharacterCreation.Action) (bindings : Bindings) :
    Gives data (Turn.Meets DraftNamed FinishedNamed)
      (CharacterCreation.act draft action bindings) := by
  -- what only says something goes on with the same draft
  have hagain : Gives data (Turn.Meets DraftNamed FinishedNamed) (pure (.again draft)) :=
    gives_pure h
  cases action with
  | help => exact Gives.of_bind fun _ => hagain
  | overview => exact Gives.of_bind fun _ => hagain
  | listSpecies => exact Gives.of_bind fun _ => Gives.of_bind fun _ => Gives.of_bind fun _ => hagain
  | listBackgrounds =>
    exact Gives.of_bind fun _ => Gives.of_bind fun _ => Gives.of_bind fun _ => hagain
  | abort =>
    exact Gives.of_bind fun _ => gives_pure fun found hfound =>
      absurd hfound (Option.not_mem_none found)
  | setSpecies =>
    simp only [CharacterCreation.act]
    split
    · exact Gives.of_bind fun _ => gives_pure h
    · exact Gives.of_bind fun _ => hagain
  | setBackground =>
    simp only [CharacterCreation.act]
    split
    · exact Gives.of_bind fun _ => gives_pure h
    · exact Gives.of_bind fun _ => hagain
  | rename =>
    simp only [CharacterCreation.act]
    split
    · exact hagain
    · next hempty =>
      rw [isEmpty_displayName, Bool.not_eq_true, ← isBlank_displayName] at hempty
      exact Gives.of_bind fun _ => gives_pure hempty
  | done =>
    simp only [CharacterCreation.act]
    split
    · exact Gives.of_bind fun _ => hagain
    · exact Gives.of_bind fun _ => hagain
    · refine gives_pure fun found hfound => ?_
      rw [Option.mem_some_iff] at hfound
      rw [← hfound]
      exact h

/-- A draft with a name is finished with one, or given up. -/
theorem named_finishDraft (set : CommandSet CharacterCreation.Action)
    {draft : CharacterCreation.Draft} (h : DraftNamed draft) :
    Gives data FinishedNamed (CharacterCreation.finishDraft set draft) :=
  gives_commandLoop gives_partylessScope
    (fun _ hstate _ _ action bindings _ => named_act hstate action bindings) h

/-- The party with what a draft has become. -/
theorem hasNames_conclude {party : Party} (h : party.HasNames) (editing : Option Nat)
    {finished : Option CharacterCreation.Finished} (hnamed : FinishedNamed finished) :
    (CharacterCreation.conclude party editing finished).1.HasNames := by
  cases finished with
  | none => exact h
  | some found => exact hasNames_save h editing (hnamed found rfl)

theorem hasNames_settle {party : Party} (h : party.HasNames) (editing : Option Nat)
    {finished : Option CharacterCreation.Finished} (hnamed : FinishedNamed finished) :
    Gives data (fun result => result.1.HasNames)
      (CharacterCreation.settle party editing finished) :=
  Gives.of_bind fun _ => gives_pure (hasNames_conclude h editing hnamed)

/-- A new character has a name. -/
theorem hasNames_call_new (set : CommandSet CharacterCreation.Action) {party : Party}
    (h : party.HasNames) :
    Gives data (fun result => result.1.HasNames) (CharacterCreation.call set party "new" none) := by
  have hdraft : Gives data FinishedNamed (CharacterCreation.draftNew set) :=
    Gives.of_bind fun _ => (gives_askName _ _).bind fun _ hname => named_finishDraft set hname
  exact gives_callAt rfl (hdraft.bind fun _ => hasNames_settle h none)

/-- A member that is changed keeps its name, or gets another one. -/
theorem hasNames_call_edit (set : CommandSet CharacterCreation.Action) {party : Party} (id : Nat)
    (h : party.HasNames) :
    Gives data (fun result => result.1.HasNames)
      (CharacterCreation.call set party "edit" (some (.int id))) := by
  refine gives_callAt rfl ?_
  unfold CharacterCreation.edit
  simp only [CharacterCreation.memberOf?_natCast]
  split
  · exact Gives.of_bind fun _ => gives_pure h
  · next member hget =>
    have hdraft : DraftNamed { name := member.name, species := some member.species
                               background := some member.background } :=
      h.members member (List.mem_of_find?_eq_some hget)
    exact Gives.bind (Gives.of_bind fun _ => named_finishDraft set hdraft) fun _ =>
      hasNames_settle h (some member.id)

/-! ## What changes the names -/

/-- The command gives the party or a member another name. -/
def Renames (action : Action) : Prop := action = .renameCharacter ∨ action = .renameParty

instance (action : Action) : Decidable (Renames action) :=
  inferInstanceAs (Decidable (action = .renameCharacter ∨ action = .renameParty))

/-- Every line that is meant for giving the party or a member another name says the name. -/
def SaysNames (data : GameData) : Prop :=
  ∀ set, commands data = .ok set → ∀ party line action bindings,
    Means set (data.scope (some party)) line action bindings → Renames action →
      bindings.contains .name = true

/-- What a slot for a name is filled with is a name that is not blank. -/
theorem isBlank_givenName {scope : Scope} {bindings : Bindings} (h : bindings.FilledFrom scope)
    (hcontains : bindings.contains .name = true) : isBlank (givenName bindings).toList = false := by
  obtain ⟨name, htext, hname⟩ := h.exists_text hcontains
  rw [givenName, htext, isBlank_displayName]
  exact hname

/-- Without the slot, the name is empty. -/
theorem givenName_eq_empty {bindings : Bindings} (h : bindings.contains .name = false) :
    givenName bindings = "" := by
  cases hvalue : bindings.value? .name with
  | none =>
    have htext : bindings.text? .name = none := by
      rw [Bindings.text?, Bindings.get?, hvalue]
      rfl
    rw [givenName, htext]
    decide
  | some value =>
    rw [Bindings.contains, hvalue] at h
    cases h

/-- Every change keeps the names, if one that gives another name does say the name. -/
theorem hasNames_change {heard : Session} {party next : Party} {bindings : Bindings}
    {action : Action} (h : Change data heard party bindings action next) (hparty : party.HasNames)
    (hname : Renames action → isBlank (givenName bindings).toList = false) : next.HasNames := by
  cases h with
  | join _ hcall => exact hasNames_call_new _ hparty _ _ _ hcall
  | edit _ _ hcall => exact hasNames_call_edit _ _ hparty _ _ _ hcall
  | delete _ hmembers _ _ _ =>
    refine ⟨hparty.name, fun member hmember => hparty.members member ?_⟩
    rw [hmembers]
    rcases List.mem_append.1 hmember with hbefore | hafter
    · exact List.mem_append_left _ hbefore
    · exact List.mem_append_right _ (List.mem_cons_of_mem _ hafter)
  | renameCharacter _ hmembers _ =>
    refine ⟨hparty.name, fun member hmember => ?_⟩
    rcases List.mem_append.1 hmember with hbefore | hrest
    · refine hparty.members member ?_
      rw [hmembers]
      exact List.mem_append_left _ hbefore
    · rcases List.mem_cons.1 hrest with rfl | hafter
      · exact hname (Or.inl rfl)
      · refine hparty.members member ?_
        rw [hmembers]
        exact List.mem_append_right _ (List.mem_cons_of_mem _ hafter)
  | renameParty => exact ⟨hname (Or.inr rfl), hparty.members⟩

/-! ## From round to round and from visit to visit -/

/-- The party has its names, and has had them at all moments. -/
def named : Contract Session :=
  about fun party moments _ => (∀ kept ∈ party, kept.HasNames) ∧
    ∀ moment ∈ moments, ∀ kept ∈ moment.party, kept.HasNames

/-- At moments that show a party with names it has them. -/
theorem named_of_shown {session last : Session} (h : named.keeps session)
    {party : Option Party} (hparty : ∀ kept ∈ party, kept.HasNames)
    (hshown : Shown party session.moments last.moments)
    (hlast : ∀ kept ∈ last.party, kept.HasNames) : named.keeps last := by
  refine ⟨hlast, fun moment hmoment => ?_⟩
  obtain ⟨more, hmore, hall⟩ := hshown
  rw [hmore, List.mem_append] at hmoment
  rcases hmoment with hearlier | hsince
  · exact h.2 moment hearlier
  · rw [hall moment hsince]
    exact hparty

theorem hosts_named : Hosts data named :=
  hosts_about fun party moments additions stage h => by
    refine ⟨h.1, fun moment hmoment => ?_⟩
    rw [List.mem_append, List.mem_singleton] at hmoment
    rcases hmoment with hmoment | rfl
    · exact h.2 moment hmoment
    · exact h.1

/-- A new party has a name from the beginning. -/
theorem obeys_introduce : Obeys data named introduce := by
  have hhosts : Hosts data named := hosts_named
  refine (obeys_sayMessage hhosts.toSpeaks (.party (by decide))).bind fun _ => ?_
  refine (obeys_askName hhosts (.party (by decide))).bind_yields (gives_askName _ _).yields
    fun name hname => ?_
  have hset : Obeys data named (setParty (some (Party.named name))) := by
    refine fun session h => ⟨fun kept hkept => ?_, h.2⟩
    have hsame : Party.named name = kept := by simpa using hkept
    rw [← hsame]
    exact hasNames_named hname
  exact hset.bind fun _ => obeys_sayFormat hhosts.toSpeaks (.party (by decide)) _

/-- What a round accounts for keeps the names. -/
theorem named_round (hnames : SaysNames data) {set : CommandSet Action}
    (hset : commands data = .ok set) {party : Party} {round : Round Unit Departure}
    (haccounts : Accounts data set party round) (h : named.keeps round.asked) :
    named.keeps round.outcome.session := by
  have hparty : party.HasNames := h.1 party haccounts.asked
  have hbefore : ∀ kept ∈ some party, kept.HasNames := by
    intro kept hkept
    rw [Option.mem_some_iff] at hkept
    exact hkept ▸ hparty
  refine named_of_shown h hbefore haccounts.shown fun kept hkept => ?_
  rcases haccounts.outcome with hsame | ⟨_, _, _, _, hleft⟩ |
    ⟨action, bindings, next, hmeans, hchange, hnext⟩
  · rw [hsame] at hkept
    exact hbefore kept hkept
  · rw [hleft] at hkept
    cases hkept
  · rw [hnext, Option.mem_some_iff] at hkept
    obtain ⟨_, hdispatch⟩ := hmeans.dispatch
    rw [← hkept]
    exact hasNames_change hchange hparty fun hrenames =>
      isBlank_givenName (CommandSet.filledFrom_dispatch hdispatch)
        (hnames set hset party _ _ _ hmeans hrenames)

/-- Round by round the names are kept. -/
theorem named_rounds (hnames : SaysNames data) {set : CommandSet Action}
    (hset : commands data = .ok set) {begun : Session} {rounds : List (Round Unit Departure)}
    {outcome : Outcome Departure}
    (h : Unfolds (askMessage StageName.partyCreation "what next") (respond set) data () begun rounds
      outcome) (hparty : begun.party ≠ none) (hkeeps : named.keeps begun) :
    named.keeps outcome.session := by
  have hall : ∀ round ∈ rounds, named.keeps round.outcome.session := by
    refine h.forall_rounds (fun session => session.party ≠ none ∧ named.keeps session)
      (fun round hround hasked => ?_) ⟨hparty, hkeeps⟩
    obtain ⟨party, hbefore⟩ := Option.ne_none_iff_exists'.1 hasked.1
    have haccounts := accounts_of_happens hround hbefore
    have hlast := named_round hnames hset haccounts hasked.2
    refine ⟨hlast, fun following next hnext => ⟨haccounts.party_ne_none hnext, ?_⟩⟩
    rw [hnext] at hlast
    exact hlast
  refine h.last_round (fun earlier later => named.keeps earlier → named.keeps later)
    (fun _ => id) (fun asked failure last hquestion hasked => ?_) ?_
  · have hobeys : Obeys data named (askMessage StageName.partyCreation "what next") :=
      obeys_askMessage hosts_named (.party (by decide))
    have hadmits := hobeys asked hasked
    rw [hquestion] at hadmits
    exact hadmits
  · cases hlast : rounds.getLast? with
    | none => exact hkeeps
    | some round => exact hall round (List.mem_of_getLast? hlast)

/-- A stage that leaves the party alone keeps the names. -/
theorem Visit.Steady.named {visit : Visit} (h : visit.Steady) (hkeeps : named.keeps visit.entered) :
    named.keeps visit.outcome.session :=
  named_of_shown hkeeps hkeeps.1 h.2 (by rw [h.1]; exact hkeeps.1)

/-- Visit by visit the names are kept. -/
theorem named_visit (hnames : SaysNames data) {visit : Visit} (h : visit.Happens data)
    (hawaits : Awaits visit.stage visit.entry visit.arg)
    (hset : ∀ set, visit.stage = .partyCreation set → commands data = .ok set)
    (hkeeps : named.keeps visit.entered) : named.keeps visit.outcome.session := by
  obtain ⟨stage, entry, arg, entered, outcome⟩ := visit
  simp only at hawaits hset
  cases hawaits with
  | start => exact (steady_startup h rfl rfl rfl).named hkeeps
  | menu set => exact (steady_menu h (.menu set) ⟨set, rfl⟩).named hkeeps
  | back set => exact (steady_menu h (.back set) ⟨set, rfl⟩).named hkeeps
  | party set =>
    have hobeys : Obeys data named introduce := obeys_introduce
    have hadmits := hobeys { entered with stage := StageName.partyCreation } hkeeps
    rcases h.assembles rfl rfl rfl with
      ⟨failure, last, hintroduce, houtcome⟩ | ⟨begun, rounds, ended, hassembles⟩
    · rw [show introduce.run data { entered with stage := StageName.partyCreation } =
        .error failure last from hintroduce] at hadmits
      rw [houtcome]
      exact hadmits
    · rw [show introduce.run data { entered with stage := StageName.partyCreation } =
        .ok () begun from hassembles.introduced] at hadmits
      rw [hassembles.left]
      exact named_rounds hnames (hset set rfl) hassembles.unfolds hassembles.party_ne_none hadmits

/-- Party creation is entered with its commands. -/
theorem commands_of_change {visit : Visit} (h : visit.Happens data)
    (hawaits : Awaits visit.stage visit.entry visit.arg) {next : Stage} {entry : String}
    {arg : Option Value} {last : Session}
    (houtcome : visit.outcome = .ok (.change next entry arg) last) {set : CommandSet Action}
    (hnext : next = .partyCreation set) : commands data = .ok set := by
  obtain ⟨stage, visitEntry, visitArg, entered, outcome⟩ := visit
  simp only at hawaits houtcome
  have hmenu : (∃ menu, next = .mainMenu menu) → commands data = .ok set := by
    rintro ⟨menu, hmenu⟩
    rw [hnext] at hmenu
    cases hmenu
  have hparty : (∃ other, next = .partyCreation other ∧ commands data = .ok other) →
      commands data = .ok set := by
    rintro ⟨other, hother, hcommands⟩
    rw [hnext] at hother
    cases hother
    exact hcommands
  cases hawaits with
  | start =>
    obtain ⟨menu, hchange⟩ := Stage.startup_changes (h.trans houtcome)
    cases hchange
    exact hmenu ⟨menu, rfl⟩
  | menu set => exact hparty (partyCreation_of_menu h ⟨set, rfl⟩ houtcome)
  | back set => exact hparty (partyCreation_of_menu h ⟨set, rfl⟩ houtcome)
  | party set => exact hmenu (h.exists_leftBy rfl rfl rfl houtcome).1

/-- The names are there at all times if every line that gives another name says it. -/
theorem named_play (hnames : SaysNames data) (console : Console) :
    named.keeps (play.run data (Session.start data console)).session := by
  obtain ⟨visits, outcome, hvisits, hlast⟩ := exists_visits_play data (Session.start data console)
  obtain ⟨hparty, hmoments⟩ := start_fresh data console
  have hstart : named.keeps (Session.start data console) := by
    refine ⟨fun kept hkept => ?_, fun moment hmoment => ?_⟩
    · rw [hparty] at hkept
      cases hkept
    · rw [hmoments] at hmoment
      cases hmoment
  have hall := hvisits.forall_visits
    (fun _ stage session => named.keeps session ∧
      ∀ set, stage = .partyCreation set → commands data = .ok set)
    (fun _ visit => named.keeps visit.outcome.session)
    (fun before visit h hawaits hinv => by
      have hkeeps := named_visit hnames h hawaits hinv.2 hinv.1
      refine ⟨hkeeps, fun next entry arg last houtcome =>
        ⟨?_, fun set => commands_of_change h hawaits houtcome⟩⟩
      rw [houtcome] at hkeeps
      exact hkeeps)
    .start [] ⟨hstart, fun set hset => by cases hset⟩
  obtain ⟨before, visit, hsplit, houtcome⟩ := hvisits.exists_last
  rw [hlast, houtcome]
  exact hall before visit [] hsplit

/-! ## Lines that do not say the name -/

/-- The names of the party and its members. If every line that is meant for giving the party or a
member another name says the name, then whenever the player is asked something, and when the game is
over, the party has its names, from the moment that there is one. But a line that is meant for this
and does not say the name leaves the party, or the member, with an empty name. -/
theorem names_not_blank (data : GameData) :
    (SaysNames data → ∀ console : Console,
      let last := (play.run data (Session.start data console)).session
      (∀ party ∈ last.party, party.HasNames) ∧
        ∀ moment ∈ last.moments, ∀ party ∈ moment.party, party.HasNames) ∧
    ∀ (set : CommandSet Action) (party : Party) (heard : Session) (line : String)
      (bindings : Bindings), heard.party = some party → bindings.contains .name = false →
        (Means set (data.scope (some party)) line .renameParty bindings →
          ((respond set () line).run data heard).session.party = some (party.rename "")) ∧
        ∀ member, Means set (data.scope (some party)) line .renameCharacter bindings →
          Names party bindings member →
            ((respond set () line).run data heard).session.party =
              some (party.update member.id (·.rename "")) := by
  refine ⟨fun hnames console => named_play hnames console, ?_⟩
  intro set party heard line bindings hparty hcontains
  have hempty : givenName bindings = "" := givenName_eq_empty hcontains
  refine ⟨fun hmeans => ?_, fun member hmeans hnames => ?_⟩
  · rw [run_respond hparty hmeans, party_renameParty hparty, hempty]
  · rw [run_respond hparty hmeans, party_renameCharacter hparty hnames, hempty]

/-- A slot for the name that lies on every route through the patterns of the two commands sees to it
that the name is said. -/
theorem saysNames_of_routes
    (h : ∀ set, commands data = .ok set → ∀ command ∈ set.commands, Renames command.handler →
      ∀ route ∈ command.pattern.routes, ∃ step ∈ route, step.fills .name = true) :
    SaysNames data := by
  intro set hset party line action bindings hmeans hrenames
  obtain ⟨_, hdispatch⟩ := hmeans.dispatch
  obtain ⟨command, hcommand, _, rfl, hmatch⟩ := CommandSet.dispatch_eq_matched hdispatch
  exact Pattern.contains_of_routes (h set hset command hcommand hrenames) hmatch

/-- Whoever plays the game as it comes says the name. -/
theorem builtin_saysNames : SaysNames GameData.builtin := by
  have hroutes : (commands GameData.builtin).toOption.all (fun set => set.commands.all fun command =>
      !decide (Renames command.handler) ||
        command.pattern.routes.all (·.any (Step.fills .name))) = true := by
    decide +kernel
  refine saysNames_of_routes fun set hset command hcommand hrenames route hroute => ?_
  rw [hset] at hroutes
  have hcommand := List.all_eq_true.1 hroutes command hcommand
  rw [decide_eq_true hrenames, Bool.not_true, Bool.false_or] at hcommand
  exact List.any_eq_true.1 (List.all_eq_true.1 hcommand route hroute)

/-- What is typed to give a party another name. -/
def renamingConsole : Console where
  answers := ["new party", "Band", "name the party the crew"].map .line

/-- The names are there in a game with the data that come along. -/
theorem builtin_names_not_blank :
    let last := (play.run GameData.builtin (Session.start GameData.builtin renamingConsole)).session
    SaysNames GameData.builtin ∧ last.party.map (·.name) = some "The Crew" ∧
      ∀ party ∈ last.party, party.HasNames :=
  ⟨builtin_saysNames, by decide +kernel,
    ((names_not_blank GameData.builtin).1 builtin_saysNames renamingConsole).1⟩

/-- The data of the game with a template for renaming the party in which the name is left out at
will. -/
def dataWithoutName : GameData :=
  { GameData.builtin with
    control := GameData.builtin.control.insertCommand StageName.partyCreation "rename party"
      ["name [the] party [\x7bname\x7d]"] }

/-- Data that pass the check can leave a party without a name. -/
theorem check_misses_nameless :
    (checkCommands dataWithoutName).isOk = true ∧
      (play.run dataWithoutName (Session.start dataWithoutName {
        answers := ["new party", "Band", "name party"].map .line })).session.party.map (·.name) =
          some "" := by
  decide +kernel

end Game

end Muster
