import Mathlib.Data.List.Forall2
import Mathlib.Tactic.Common

/-!
# Results of computations

How the result of a sequence comes about from those of its steps.

* `bind_eq_ok`, `map_eq_ok`, `mapError_eq_ok`: when a sequence of computations that can fail succeeds;
* `mapM_eq_ok_iff`: when a computation succeeds on all members of a list;
* `EndsWith`: what a computation gives and what it fails with, with one lemma for each way of composing;
* `EStateM.bind_apply`, `EStateM.tryCatch_apply`: computations with a state, from a state;
* `stateAfter`, `stateAfter_bind`, `stateAfter_mapM`: what holds of the state after them.
-/

namespace Gabarit

variable {ε ε' α β σ : Type}

theorem bind_eq_ok {x : Except ε α} {f : α → Except ε β} {b : β} :
    x >>= f = .ok b ↔ ∃ a, x = .ok a ∧ f a = .ok b := by
  cases x <;> simp [bind, Except.bind]

theorem map_eq_ok {x : Except ε α} {f : α → β} {b : β} :
    x.map f = .ok b ↔ ∃ a, x = .ok a ∧ f a = b := by
  cases x <;> simp [Except.map]

theorem mapError_eq_ok {x : Except ε α} {f : ε → ε'} {a : α} :
    x.mapError f = .ok a ↔ x = .ok a := by
  cases x with
  | ok b => simp [Except.mapError]
  | error e => simp [Except.mapError]

/-- A computation succeeds on all members of a list exactly if it does on each. -/
theorem mapM_eq_ok_iff {f : α → Except ε β} {as : List α} {bs : List β} :
    as.mapM f = .ok bs ↔ List.Forall₂ (fun a b => f a = .ok b) as bs := by
  induction as generalizing bs with
  | nil => simp [pure, Except.pure, eq_comm]
  | cons a as ih =>
    rw [List.mapM_cons, List.forall₂_cons_left_iff]
    simp only [bind_eq_ok, ih, pure, Except.pure, Except.ok.injEq]
    constructor
    · rintro ⟨b, hb, bs', hbs, rfl⟩
      exact ⟨b, bs', hb, hbs, rfl⟩
    · rintro ⟨b, bs', hb, hbs, rfl⟩
      exact ⟨b, hb, bs', hbs, rfl⟩

/-- A computation gives what has one property, or fails with what has another one. -/
inductive EndsWith (P : ε → Prop) (Q : α → Prop) : Except ε α → Prop
  | ok {a : α} : Q a → EndsWith P Q (.ok a)
  | error {f : ε} : P f → EndsWith P Q (.error f)

namespace EndsWith

variable {P : ε → Prop} {Q : α → Prop} {R : β → Prop} {x : Except ε α}

theorem ok_of (h : EndsWith P Q x) {a : α} (hx : x = .ok a) : Q a := by
  subst hx
  cases h
  assumption

theorem error_of (h : EndsWith P Q x) {f : ε} (hx : x = .error f) : P f := by
  subst hx
  cases h
  assumption

theorem bind (h : EndsWith P Q x) {f : α → Except ε β} (hf : ∀ a, Q a → EndsWith P R (f a)) :
    EndsWith P R (x >>= f) := by
  cases h with
  | ok ha => exact hf _ ha
  | error hg => exact .error hg

theorem map (h : EndsWith P Q x) {f : α → β} (hf : ∀ a, Q a → R (f a)) : EndsWith P R (x.map f) := by
  cases h with
  | ok ha => exact .ok (hf _ ha)
  | error hg => exact .error hg

theorem mono (h : EndsWith P Q x) {P' : ε → Prop} {Q' : α → Prop} (hP : ∀ e, P e → P' e)
    (hQ : ∀ a, Q a → Q' a) : EndsWith P' Q' x := by
  cases h with
  | ok ha => exact .ok (hQ _ ha)
  | error hg => exact .error (hP _ hg)

theorem self (h : EndsWith P Q x) :
    EndsWith (fun f => P f ∧ x = .error f) (fun a => Q a ∧ x = .ok a) x := by
  cases h with
  | ok ha => exact .ok ⟨ha, rfl⟩
  | error hf => exact .error ⟨hf, rfl⟩

theorem mapM {f : α → Except ε β} {as : List α} (h : ∀ a ∈ as, EndsWith P (fun _ => True) (f a)) :
    EndsWith P (fun _ => True) (as.mapM f) := by
  induction as with
  | nil => exact .ok trivial
  | cons a as ih =>
    obtain ⟨ha, has⟩ := List.forall_mem_cons.mp h
    rw [List.mapM_cons]
    exact ha.bind fun b _ => (ih has).bind fun bs _ => .ok trivial

theorem ite {c : Prop} [Decidable c] {y : Except ε α} (hx : EndsWith P Q x) (hy : EndsWith P Q y) :
    EndsWith P Q (if c then x else y) := by
  split_ifs
  · exact hx
  · exact hy

end EndsWith

/-! ## Computations with a state -/

theorem EStateM.bind_apply (x : EStateM ε σ α) (f : α → EStateM ε σ β) (s : σ) :
    (x >>= f) s = match x s with
      | .ok a s => f a s
      | .error e s => .error e s := by
  change EStateM.bind x f s = _
  unfold EStateM.bind
  cases x s <;> rfl

theorem EStateM.get_apply (s : σ) : (get : EStateM ε σ σ) s = .ok s s := rfl

/-- The state after a computation, which may have failed. -/
def stateAfter : EStateM.Result ε σ α → σ
  | .ok _ s => s
  | .error _ s => s

/-- The value of a computation that did not fail. -/
def valueOf : EStateM.Result ε σ α → Option α
  | .ok a _ => some a
  | .error _ _ => none

/-- What a computation failed with. -/
def failureOf : EStateM.Result ε σ α → Option ε
  | .ok _ _ => none
  | .error e _ => some e

theorem exists_of_valueOf {r : EStateM.Result ε σ α} {a : α} (h : valueOf r = some a) :
    ∃ s, r = .ok a s := by
  cases r with
  | ok b s =>
    cases h
    exact ⟨s, rfl⟩
  | error e s => cases h

theorem EStateM.bind_eq_ok {x : EStateM ε σ α} {f : α → EStateM ε σ β} {s s' : σ} {b : β} :
    (x >>= f) s = .ok b s' ↔ ∃ a s₁, x s = .ok a s₁ ∧ f a s₁ = .ok b s' := by
  rw [EStateM.bind_apply]
  cases x s <;> simp

theorem EStateM.map_apply (g : α → β) (x : EStateM ε σ α) (s : σ) :
    (g <$> x) s = match x s with
      | .ok a s => .ok (g a) s
      | .error e s => .error e s := by
  change EStateM.map g x s = _
  unfold EStateM.map
  cases x s <;> rfl

theorem EStateM.map_eq_error {g : α → β} {x : EStateM ε σ α} {s s' : σ} {e : ε} :
    (g <$> x) s = .error e s' ↔ x s = .error e s' := by
  rw [EStateM.map_apply]
  cases x s <;> simp

@[simp] theorem stateAfter_map (g : α → β) (x : EStateM ε σ α) (s : σ) :
    stateAfter ((g <$> x) s) = stateAfter (x s) := by
  rw [EStateM.map_apply]
  cases x s <;> rfl

/-- What holds of the state after each of two computations holds after both. -/
theorem stateAfter_bind {P : σ → Prop} {x : EStateM ε σ α} {f : α → EStateM ε σ β} {s : σ}
    (hx : P (stateAfter (x s))) (hf : ∀ a s', x s = .ok a s' → P s' → P (stateAfter (f a s'))) :
    P (stateAfter ((x >>= f) s)) := by
  rw [EStateM.bind_apply]
  cases h : x s with
  | ok a s' =>
    rw [h] at hx
    exact hf a s' h hx
  | error e s' =>
    rw [h] at hx
    exact hx

/-- What each computation of a list keeps is kept by all of them. -/
theorem stateAfter_mapM {P : σ → Prop} {f : α → EStateM ε σ β} {as : List α} {s : σ} (hs : P s)
    (hf : ∀ a ∈ as, ∀ s, P s → P (stateAfter (f a s))) : P (stateAfter (as.mapM f s)) := by
  induction as generalizing s with
  | nil => exact hs
  | cons a as ih =>
    rw [List.mapM_cons]
    refine stateAfter_bind (hf a List.mem_cons_self s hs) fun b s₁ _ hs₁ => ?_
    refine stateAfter_bind ?_ fun bs s₂ _ hs₂ => hs₂
    exact ih hs₁ fun a' ha' => hf a' (List.mem_cons_of_mem a ha')

/-- What was changed before a failure stays. -/
theorem EStateM.tryCatch_apply (x : EStateM ε σ α) (handle : ε → EStateM ε σ α) (s : σ) :
    (tryCatch x handle) s = match x s with
      | .ok a s => .ok a s
      | .error e s => handle e s := by
  change EStateM.tryCatch x handle s = _
  unfold EStateM.tryCatch
  cases x s <;> rfl

end Gabarit
