import Muster.Game.Play

/-!
# Contracts

A contract names a property of the state that is kept, and the causes for which a run may fail,
together with how it then leaves the state. An action at the console or a part of the game obeys it
if from every state with the property it ends in such a state, or fails as the contract allows. What
is put together from obedient parts is obedient, a conversation included, however long it goes on.
-/

namespace Muster

/-- What is kept, and what may go wrong. -/
structure Contract (σ : Type) where
  keeps : σ → Prop
  /-- For a cause the run may fail, and then leave a state. -/
  allows : Cause → σ → Prop

/-- For the cause a run may fail wherever it is, leaving the state as it is. -/
def Contract.Tolerates {σ : Type} (contract : Contract σ) (cause : Cause) : Prop :=
  ∀ state, contract.keeps state → contract.allows cause state

/-- The outcome of a run is within the contract. -/
def Contract.Admits {σ α : Type} (contract : Contract σ) : EStateM.Result Failure σ α → Prop
  | .ok _ state => contract.keeps state
  | .error failure state => contract.allows failure.cause state

/-- What both of two contracts keep and allow. -/
def Contract.both {σ : Type} (first second : Contract σ) : Contract σ where
  keeps state := first.keeps state ∧ second.keeps state
  allows cause state := first.allows cause state ∧ second.allows cause state

theorem Contract.admits_both {σ α : Type} {first second : Contract σ}
    {outcome : EStateM.Result Failure σ α} :
    (first.both second).Admits outcome ↔ first.Admits outcome ∧ second.Admits outcome := by
  cases outcome <;> exact Iff.rfl

namespace Console

variable {α β : Type} {contract : Contract Console}

/-- From every console within the contract the action stays within it. -/
def Obeys (contract : Contract Console) (action : Action α) : Prop :=
  ∀ console, contract.keeps console → contract.Admits (action console)

theorem obeys_pure (a : α) : Obeys contract (pure a) := fun _ h => h

theorem Obeys.bind {x : Action α} {f : α → Action β} (hx : Obeys contract x)
    (hf : ∀ a, Obeys contract (f a)) : Obeys contract (x >>= f) := by
  intro console h
  have hrun := hx console h
  show contract.Admits (EStateM.bind x f console)
  unfold EStateM.bind
  cases hx : x console with
  | ok a next =>
    rw [hx] at hrun
    exact hf a next hrun
  | error failure next =>
    rw [hx] at hrun
    exact hrun

/-- What the console does when a line is asked for, apart from writing and taking an answer, changes
only its queue and its history. -/
structure Allows (contract : Contract Console) : Prop where
  write : ∀ text, Obeys contract (write text)
  takeAnswer : ∀ prompt, Obeys contract (takeAnswer prompt)
  pending : ∀ console pending, contract.keeps console → contract.keeps { console with pending }
  history : ∀ console history, contract.keeps console → contract.keeps { console with history }

section

variable (h : Allows contract)

include h

theorem obeys_echoLine (prompt line : String) : Obeys contract (echoLine prompt line) := by
  refine Obeys.bind (fun _ hconsole => hconsole) fun console => ?_
  split
  · exact (h.write _).bind fun _ => (h.write _).bind fun _ => h.write _
  · exact obeys_pure _

theorem obeys_read (prompt : String) : Obeys contract (read prompt) :=
  (h.takeAnswer prompt).bind fun line => (obeys_echoLine h prompt line).bind fun _ => obeys_pure line

theorem obeys_pageBreak (written total : Nat) : Obeys contract (pageBreak written total) := by
  refine Obeys.bind (fun _ hconsole => hconsole) fun console => ?_
  split
  · exact (obeys_read h _).bind fun _ => obeys_pure _
  · exact obeys_pure _

theorem obeys_writeLines (written total : Nat) (lines : List String) :
    Obeys contract (writeLines written total lines) := by
  induction lines generalizing written with
  | nil => exact obeys_pure _
  | cons line more ih =>
    exact ((h.write _).bind fun _ => h.write _).bind fun _ =>
      (obeys_pageBreak h _ _).bind fun _ => ih _

theorem obeys_flush : Obeys contract flush :=
  Obeys.bind (fun console hconsole => h.pending console [] hconsole) fun lines =>
    obeys_writeLines h 0 lines.length lines

theorem obeys_remember (line : String) : Obeys contract (remember line) := by
  intro console hconsole
  show contract.keeps (if Text.isBlank line.toList then console else _)
  split
  · exact hconsole
  · exact h.history console _ hconsole

/-- Asking stays within the contract. -/
theorem obeys_ask (prompt : String) : Obeys contract (ask prompt) :=
  (obeys_flush h).bind fun _ => (obeys_read h _).bind fun line =>
    (obeys_remember h line).bind fun _ => obeys_pure line

end

end Console

namespace Play

variable {α β σ : Type} {data : GameData} {contract : Contract Session}

/-- From every session within the contract the play stays within it. -/
def Obeys (data : GameData) (contract : Contract Session) (x : Play α) : Prop :=
  ∀ session, contract.keeps session → contract.Admits (x.run data session)

theorem Obeys.both {other : Contract Session} {x : Play α} (h : Obeys data contract x)
    (hother : Obeys data other x) : Obeys data (contract.both other) x := fun session hsession =>
  Contract.admits_both.2 ⟨h session hsession.1, hother session hsession.2⟩

/-! ## Parts in a row -/

theorem obeys_pure (a : α) : Obeys data contract (pure a) := fun _ h => h

/-- What comes after a part need only be obedient for the value that the part gives, and from the
session that it leaves. -/
theorem admits_bind {x : Play α} {f : α → Play β} {session : Session}
    (hx : contract.Admits (x.run data session))
    (hf : ∀ a next, x.run data session = .ok a next → contract.keeps next →
      contract.Admits ((f a).run data next)) : contract.Admits ((x >>= f).run data session) := by
  rw [run_bind]
  cases hrun : x.run data session with
  | ok a next =>
    rw [hrun] at hx
    exact hf a next hrun hx
  | error failure next =>
    rw [hrun] at hx
    exact hx

/-- Within the contract, whenever the play succeeds, its value has the property together with the
session that is left. -/
def Yields (data : GameData) (contract : Contract Session) (p : α → Session → Prop)
    (x : Play α) : Prop :=
  ∀ session, contract.keeps session → ∀ a next, x.run data session = .ok a next → p a next

/-- What comes after a part need only be obedient for the values that the part yields. -/
theorem Obeys.bind_yields {p : α → Prop} {x : Play α} {f : α → Play β} (hx : Obeys data contract x)
    (hyields : Yields data contract (fun a _ => p a) x)
    (hf : ∀ a, p a → Obeys data contract (f a)) : Obeys data contract (x >>= f) := fun session h =>
  admits_bind (hx session h) fun a next hrun hnext =>
    hf a (hyields session h a next hrun) next hnext

theorem Obeys.bind {x : Play α} {f : α → Play β} (hx : Obeys data contract x)
    (hf : ∀ a, Obeys data contract (f a)) : Obeys data contract (x >>= f) :=
  fun session h => admits_bind (hx session h) fun a next _ hnext => hf a next hnext

theorem yields_pure {p : α → Session → Prop} {a : α}
    (h : ∀ session, contract.keeps session → p a session) :
    Yields data contract p (pure a) := by
  intro session hsession b next hrun
  cases hrun
  exact h session hsession

theorem Yields.bind {p : α → Prop} {q : β → Session → Prop} {x : Play α} {f : α → Play β}
    (hx : Obeys data contract x) (hyields : Yields data contract (fun a _ => p a) x)
    (hf : ∀ a, p a → Yields data contract q (f a)) : Yields data contract q (x >>= f) := by
  intro session h b last hlast
  have hkept := hx session h
  rw [run_bind] at hlast
  split at hlast
  · next a next hrun =>
    rw [hrun] at hkept
    exact hf a (hyields session h a next hrun) next hkept b last hlast
  · cases hlast

theorem Yields.of_bind {p : β → Session → Prop} {x : Play α} {f : α → Play β}
    (hx : Obeys data contract x) (hf : ∀ a, Yields data contract p (f a)) :
    Yields data contract p (x >>= f) :=
  Yields.bind (p := fun _ => True) hx (fun _ _ _ _ _ => trivial) fun a _ => hf a

theorem Yields.inFrame {p : α → Session → Prop} {x : Play α} (hx : Yields data contract p x)
    (frame : String) : Yields data contract p (inFrame frame x) := by
  intro session h a next hnext
  unfold Play.inFrame at hnext
  cases hrun : x.run data session with
  | ok b last =>
    simp only [hrun] at hnext
    cases hnext
    exact hx session h a next hrun
  | error failure last =>
    simp only [hrun] at hnext
    cases hnext

/-- What is done with the game data need only be right for the data of this game. -/
theorem obeys_data_bind {f : GameData → Play β} (hf : Obeys data contract (f data)) :
    Obeys data contract (Play.data >>= f) := hf

theorem obeys_party : Obeys data contract party := fun _ h => h

theorem obeys_ofExcept {x : Except Failure α}
    (h : ∀ failure, x = .error failure → contract.Tolerates failure.cause) :
    Obeys data contract (ofExcept x) := by
  intro session hsession
  cases x with
  | ok a => exact hsession
  | error failure => exact h failure rfl session hsession

theorem Obeys.inFrame {x : Play α} (hx : Obeys data contract x) (frame : String) :
    Obeys data contract (inFrame frame x) := by
  intro session h
  have hrun := hx session h
  unfold Play.inFrame
  cases hx : x.run data session with
  | ok a next =>
    rw [hx] at hrun
    simp only [hx]
    exact hrun
  | error failure next =>
    rw [hx] at hrun
    simp only [hx]
    exact hrun

theorem obeys_forM {items : List α} {f : α → Play PUnit} (hf : ∀ a, Obeys data contract (f a)) :
    Obeys data contract (items.forM f) := by
  induction items with
  | nil => exact obeys_pure _
  | cons a items ih => exact (hf a).bind fun _ => ih

/-! ## Values -/

/-- Whenever the play succeeds, its value has the property. -/
def Gives (data : GameData) (p : α → Prop) (x : Play α) : Prop :=
  ∀ session a next, x.run data session = .ok a next → p a

theorem gives_pure {p : α → Prop} {a : α} (h : p a) : Gives data p (pure a) := by
  intro session b next hrun
  cases hrun
  exact h

/-- The value of a part may depend on what is known of the value of the part before. -/
theorem Gives.bind {p : α → Prop} {q : β → Prop} {x : Play α} {f : α → Play β}
    (hx : Gives data p x) (hf : ∀ a, p a → Gives data q (f a)) : Gives data q (x >>= f) := by
  intro session b last h
  rw [run_bind] at h
  split at h
  · next a next hrun => exact hf a (hx session a next hrun) next b last h
  · cases h

theorem Gives.of_bind {p : β → Prop} {x : Play α} {f : α → Play β}
    (hf : ∀ a, Gives data p (f a)) : Gives data p (x >>= f) :=
  Gives.bind (p := fun _ => True) (fun _ _ _ _ => trivial) fun a _ => hf a

theorem gives_data_bind {p : β → Prop} {f : GameData → Play β} (hf : Gives data p (f data)) :
    Gives data p (Play.data >>= f) := hf

theorem Gives.inFrame {p : α → Prop} {x : Play α} (hx : Gives data p x) (frame : String) :
    Gives data p (inFrame frame x) := by
  intro session a next h
  unfold Play.inFrame at h
  cases hrun : x.run data session with
  | ok b last =>
    simp only [hrun] at h
    cases h
    exact hx session a next hrun
  | error failure last =>
    simp only [hrun] at h
    cases h

theorem Gives.yields {p : α → Prop} {x : Play α} (h : Gives data p x) :
    Yields data contract (fun a _ => p a) x :=
  fun session _ => h session

/-! ## Conversations -/

/-- The state in which a conversation goes on has one property, and what it is left with another. -/
def Turn.Meets (inv : σ → Prop) (p : α → Prop) : Turn σ α → Prop
  | .again state => inv state
  | .leave value => p value

/-- A conversation is obedient if the question is and all responses are in the states that they lead
to: by induction on the bound. -/
theorem obeys_converseFrom {question : Play String} {hquestion : Reads question}
    {respond : σ → String → Play (Turn σ α)} {inv : σ → Prop} {p : α → Prop}
    (hask : Obeys data contract question)
    (hrespond : ∀ state, inv state → ∀ line, Obeys data contract (respond state line))
    (hinv : ∀ state, inv state → ∀ line, Gives data (Turn.Meets inv p) (respond state line))
    (bound : Nat) {state : σ} (hstate : inv state) (session : Session)
    (hbound : session.unread < bound) (h : contract.keeps session) :
    contract.Admits
      (converseFrom question hquestion respond data bound state session hbound) := by
  induction bound generalizing state session with
  | zero => omega
  | succ bound ih =>
    have hasked := hask session h
    unfold converseFrom
    split
    · next failure next hline =>
      rw [hline] at hasked
      exact hasked
    · next line next hline =>
      rw [hline] at hasked
      have hresponded := hrespond state hstate line next hasked
      split
      · next failure last hturn =>
        rw [hturn] at hresponded
        exact hresponded
      · next value last hturn =>
        rw [hturn] at hresponded
        exact hresponded
      · next following last hturn =>
        rw [hturn] at hresponded
        exact ih (hinv state hstate line next _ _ hturn) last _ hresponded

theorem obeys_converse_of {question : Play String} {hquestion : Reads question}
    {respond : σ → String → Play (Turn σ α)} {inv : σ → Prop} {p : α → Prop}
    (hask : Obeys data contract question)
    (hrespond : ∀ state, inv state → ∀ line, Obeys data contract (respond state line))
    (hinv : ∀ state, inv state → ∀ line, Gives data (Turn.Meets inv p) (respond state line))
    {state : σ} (hstate : inv state) :
    Obeys data contract (converse question hquestion respond state) := fun session h =>
  obeys_converseFrom hask hrespond hinv _ hstate session _ h

theorem Turn.meets_true (turn : Turn σ α) : turn.Meets (fun _ => True) (fun _ => True) := by
  cases turn <;> exact trivial

theorem obeys_converse {question : Play String} {hquestion : Reads question}
    {respond : σ → String → Play (Turn σ α)} (hask : Obeys data contract question)
    (hrespond : ∀ state line, Obeys data contract (respond state line)) (state : σ) :
    Obeys data contract (converse question hquestion respond state) :=
  obeys_converse_of hask (fun state _ => hrespond state) (fun _ _ _ _ turn _ _ => turn.meets_true)
    trivial

/-- What all responses keep of the state of a conversation holds when it is left. -/
theorem gives_converse {question : Play String} {hquestion : Reads question}
    {respond : σ → String → Play (Turn σ α)} {inv : σ → Prop} {p : α → Prop}
    (hrespond : ∀ state, inv state → ∀ line, Gives data (Turn.Meets inv p) (respond state line))
    {state : σ} (hstate : inv state) :
    Gives data p (converse question hquestion respond state) := by
  intro session a next h
  have hfrom : ∀ bound state session hbound, inv state →
      converseFrom question hquestion respond data bound state session hbound = .ok a next → p a := by
    intro bound
    induction bound with
    | zero => intro state session hbound; omega
    | succ bound ih =>
      intro state session hbound hinv hrun
      unfold converseFrom at hrun
      split at hrun
      · cases hrun
      · next line heard _ =>
        split at hrun
        · cases hrun
        · next value last hturn =>
          cases hrun
          exact hrespond state hinv line heard _ _ hturn
        · next following last hturn =>
          exact ih following last _ (hrespond state hinv line heard _ _ hturn) hrun
  exact hfrom _ state session _ hstate h

/-! ## At the console -/

/-- What is done at the console is done to the console of the session. -/
theorem obeys_atConsole {within : Contract Console} {action : Console.Action α}
    {spares : Console.Spares action} (haction : Console.Obeys within action)
    (hkeeps : ∀ session, contract.keeps session → within.keeps session.console)
    (hback : ∀ session console, contract.keeps session → within.keeps console →
      contract.keeps { session with console })
    (hallows : ∀ session console cause, contract.keeps session → within.allows cause console →
      contract.allows cause { session with console }) :
    Obeys data contract (atConsole action spares) := by
  intro session h
  have hrun := haction session.console (hkeeps session h)
  unfold atConsole
  cases haction : action session.console with
  | ok a console =>
    rw [haction] at hrun
    simp only [haction]
    exact hback session console h hrun
  | error failure console =>
    rw [haction] at hrun
    simp only [haction]
    exact hallows session console failure.cause h hrun

end Play

end Muster
