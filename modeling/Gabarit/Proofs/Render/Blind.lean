import Gabarit.Proofs.Render.Lasting
import Gabarit.Proofs.Render.Meaning

/-!
# Computations that do not see all of the state

* `Blind`: from states that look alike, a computation has the same outcome, in states that look alike;
* `Blind.bind`, `Blind.get_bind`, `Blind.ite`: one lemma for each way of composing;
* `Action.Blind`: an action that does not depend on what is left of the one-shot iterators;
* `Action.blind_iff`: its outcome, and its value, are the same for all of them;
* **`Action.blind_collect`**: taking items from a lasting source is such an action;
* **`Renderer.blind_run`**: a run does not see what no node of it sees.
-/

namespace Gabarit

/-- The value or the failure of a computation, without the state it ends in. -/
def outcome {ε σ α : Type} : EStateM.Result ε σ α → Except ε α
  | .ok a _ => .ok a
  | .error e _ => .error e

/-! ## Any state -/

section Blind

variable {σ τ α β : Type} {view : σ → τ} {fit : τ → Prop} {P : α → Prop} {Q : β → Prop}

/-- Two results with the same value or the same failure, in states that look alike. -/
inductive EndsAlike (view : σ → τ) (fit : τ → Prop) (P : α → Prop) :
    EStateM.Result Failure σ α → EStateM.Result Failure σ α → Prop
  | ok {a : α} {s s' : σ} : view s = view s' → fit (view s) → P a → EndsAlike view fit P (.ok a s) (.ok a s')
  | error {f : Failure} {s s' : σ} : view s = view s' → EndsAlike view fit P (.error f s) (.error f s')

theorem EndsAlike.outcome_eq {a b : EStateM.Result Failure σ α} (h : EndsAlike view fit P a b) :
    outcome a = outcome b := by
  cases h <;> rfl

/-- From states that look alike and fit, a computation ends alike, in states that fit, and its value has a
property. -/
def Blind (view : σ → τ) (fit : τ → Prop) (x : EStateM Failure σ α) (P : α → Prop) : Prop :=
  ∀ s s', view s = view s' → fit (view s) → EndsAlike view fit P (x s) (x s')

namespace Blind

theorem pure {a : α} (h : P a) : Blind view fit (Pure.pure a) P := fun _ _ hs hfit => .ok hs hfit h

theorem throw (f : Failure) : Blind view fit (MonadExcept.throw f : EStateM Failure σ α) P :=
  fun _ _ hs _ => .error hs

theorem modify {f : σ → σ} (hview : ∀ s s', view s = view s' → view (f s) = view (f s'))
    (hfit : ∀ s, fit (view s) → fit (view (f s))) :
    Blind view fit (modify f : EStateM Failure σ Unit) fun _ => True :=
  fun s s' hs h => .ok (hview s s' hs) (hfit s h) trivial

theorem bind {x : EStateM Failure σ α} {f : α → EStateM Failure σ β} (hx : Blind view fit x P)
    (hf : ∀ a, P a → Blind view fit (f a) Q) : Blind view fit (x >>= f) Q := by
  intro s s' hs hfit
  rw [EStateM.bind_apply, EStateM.bind_apply]
  have h := hx s s' hs hfit
  generalize x s = a at h
  generalize x s' = b at h
  cases h with
  | ok hs hfit hP => exact hf _ hP _ _ hs hfit
  | error hs => exact .error hs

/-- A computation that reads what states that look alike have in common. -/
theorem get_bind {f : σ → EStateM Failure σ β} (hview : ∀ s s', view s = view s' → f s = f s')
    (h : ∀ s, fit (view s) → Blind view fit (f s) Q) : Blind view fit (get >>= f) Q := by
  intro s s' hs hfit
  rw [EStateM.bind_apply, EStateM.bind_apply, EStateM.get_apply, EStateM.get_apply]
  dsimp only
  rw [← hview s s' hs]
  exact h s hfit s s' hs hfit

theorem ite {c : Prop} [Decidable c] {x y : EStateM Failure σ α} (hx : Blind view fit x P)
    (hy : Blind view fit y P) : Blind view fit (if c then x else y) P := by
  split_ifs
  · exact hx
  · exact hy

theorem mono {x : EStateM Failure σ α} {P' : α → Prop} (h : Blind view fit x P) (hP : ∀ a, P a → P' a) :
    Blind view fit x P' := by
  rw [← bind_pure x]
  exact h.bind fun a ha => .pure (hP a ha)

end Blind

end Blind

/-! ## Actions -/

/-- The action has the same outcome whatever is left of the one-shot iterators. -/
abbrev Action.Blind {α : Type} (x : Action α) (P : α → Prop) : Prop :=
  Gabarit.Blind (fun _ => ()) (fun _ => True) x P

namespace Action

variable {α : Type}

theorem blind_iff {x : Action α} {P : α → Prop} : x.Blind P ↔
    (∀ c c', outcome (x c) = outcome (x c')) ∧ ∀ c a, outcome (x c) = .ok a → P a := by
  constructor
  · refine fun h => ⟨fun c c' => (h c c' rfl trivial).outcome_eq, fun c a ha => ?_⟩
    have hself := h c c rfl trivial
    generalize x c = result at hself ha
    cases hself with
    | ok _ _ hP =>
      cases ha
      exact hP
    | error _ => cases ha
  · rintro ⟨hsame, hP⟩ c c' - -
    have hP := hP c
    specialize hsame c c'
    generalize x c = a at hsame hP
    generalize x c' = b at hsame
    cases a <;> cases b <;> cases hsame
    · exact .ok rfl trivial (hP _ rfl)
    · exact .error rfl

theorem blind_ofExcept (r : Except Fault α) : (Action.ofExcept r).Blind fun a => r = .ok a := by
  cases r with
  | ok a => exact .pure rfl
  | error f => exact .throw _

theorem blind_ofResult (r : Except Failure α) : (Action.ofResult r).Blind fun a => r = .ok a := by
  cases r with
  | ok a => exact .pure rfl
  | error f => exact .throw f

theorem Blind.mapFailure {x : Action α} {P : α → Prop} (h : x.Blind P) (tell : Failure → Failure) :
    (x.mapFailure tell).Blind P := by
  intro c c' hc hfit
  unfold Action.mapFailure
  have h := h c c' hc hfit
  generalize x c = a at h
  generalize x c' = b at h
  cases h with
  | ok _ _ hP => exact .ok rfl trivial hP
  | error _ => exact .error rfl

theorem blind_collect (convert : Value → Except Fault α) (fuel : ℕ) {source : Source} (h : source.Lasting) :
    (Action.collect convert fuel source).Blind fun _ => True := by
  induction fuel generalizing source with
  | zero => exact .pure trivial
  | succ fuel ih =>
    have hitem (x : Value) {rest : Source} (hrest : rest.Lasting) :
        Action.Blind (do
          let a ← Action.ofExcept (convert x)
          return a :: (← Action.collect convert fuel rest)) fun _ => True :=
      (blind_ofExcept _).bind fun a _ => (ih hrest).bind fun as _ => .pure trivial
    intro c c' _ _
    rw [Action.collect, EStateM.bind_apply, EStateM.bind_apply, EStateM.get_apply, EStateM.get_apply]
    dsimp only
    obtain ⟨f, hnext⟩ | hnext | ⟨x, rest, -, hrest, hnext⟩ := h.next
    · rw [hnext, hnext]
      exact .error rfl
    · rw [hnext, hnext]
      exact .ok rfl trivial trivial
    · rw [hnext, hnext]
      exact hitem x hrest c c' rfl trivial

end Action

/-! ## Runs -/

section Runs

variable {τ : Type} {view : Machine → τ} {fit : τ → Prop}

theorem Render.blind_ofExcept {α : Type} (r : Except Failure α) :
    Gabarit.Blind view fit (Render.ofExcept r) fun a => r = .ok a := by
  cases r with
  | ok a => exact .pure rfl
  | error f => exact .throw f

namespace Renderer

/-- A loop over items of a kind does not see what taking and binding an item and the body do not see. -/
theorem blind_each {P : Items → Prop} {body : Render Unit} (hbody : Blind view fit body fun _ => True)
    (hround : ∀ items, P items → Blind view fit items.next fun next => ∀ index value rest,
      next = some (index, value, rest) →
        Blind view fit (Render.bindItem index value) (fun _ => True) ∧ P rest)
    (fuel : ℕ) {items : Items} (h : P items) : Blind view fit (each body fuel items) fun _ => True := by
  induction fuel generalizing items with
  | zero => exact (hround items h).bind fun next _ => .ite (.throw _) (.pure trivial)
  | succ fuel ih =>
    refine (hround items h).bind fun next hnext => ?_
    cases next with
    | none => exact .pure trivial
    | some next =>
      obtain ⟨index, value, rest⟩ := next
      obtain ⟨hbind, hrest⟩ := hnext index value rest rfl
      exact hbind.bind fun _ _ => hbody.bind fun _ _ => ih hrest

/-- **A run does not see what no node of it sees.** -/
theorem blind_run {r : Renderer} {nodes : Array Node}
    (emit : ∀ s, Blind view fit (Render.emit s) fun _ => True)
    (echo : ∀ pc path filters escape, nodeAt? nodes pc = some (.echo path filters escape) →
      Blind view fit (r.echo path filters escape) fun _ => True)
    (test : ∀ pc path close compares operand, nodeAt? nodes pc = some (.cond path close compares operand) →
      Blind view fit (test path compares operand) fun _ => True)
    (loop : ∀ pc path close body, nodeAt? nodes pc = some (.loop path close) →
      Blind view fit body (fun _ => True) → Blind view fit (loop path body) fun _ => True)
    (fuel : ℕ) (pc stop : Int) : Blind view fit (r.run nodes fuel pc stop) fun _ => True := by
  induction fuel generalizing pc stop with
  | zero => exact .throw _
  | succ fuel ih =>
    rw [run]
    refine .ite ?_ (.pure trivial)
    cases hnode : nodeAt? nodes pc with
    | none => exact .throw _
    | some node =>
      cases node with
      | text s => exact (emit (.text s)).bind fun _ _ => ih _ _
      | echo path filters escaped =>
        refine (echo pc path filters escaped hnode).bind fun text _ => ?_
        exact (emit text).bind fun _ _ => ih _ _
      | cond path close compares operand =>
        refine (test pc path close compares operand hnode).bind fun holds _ => ?_
        cases holds with
        | true => exact (ih _ _).bind fun _ _ => ih _ _
        | false => exact ih _ _
      | loop path close => exact (loop pc path close _ hnode (ih _ _)).bind fun _ _ => ih _ _
      | close opener => exact ih _ _

end Renderer

end Runs

end Gabarit
