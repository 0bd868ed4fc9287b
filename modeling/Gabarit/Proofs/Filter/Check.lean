import Gabarit.Filter.Registry
import Gabarit.Proofs.Outcome

/-!
# Checked filter calls

What a registry finds out about filter calls before they are performed.

* `insertAt_eq_ok`, `insertAt_eq_error`: the piped value stands in its slot, unless there is no such index;
* `FilterCall.HasSlot`: there is such an index, whatever is piped;
* `Registry.check_eq`: a check reads the name, the slot and the number of the arguments;
* `Registry.check_eq_ok`, `Registry.check_eq_error`: what an accepted call fits, and how one is refused;
* `Registry.checkAll`: checks calls in order, up to the first one that is refused.
-/

namespace Gabarit

/-! ## Slots -/

section Slots

variable {α : Type} {slot : Int} {x : α} {xs ys before : List α}

theorem isSlot_of_le {n : ℕ} (hlow : 0 ≤ slot) (hhigh : slot ≤ n) : isSlot slot n = true := by
  have hlimit : -(lengthLimit : Int) ≤ slot := by omega
  simp [isSlot, hlimit, hhigh]

theorem insertAt_eq_ok (h : insertAt slot x xs = .ok ys) :
    isSlot slot xs.length = true ∧ ∃ before after, xs = before ++ after ∧ ys = before ++ x :: after := by
  by_cases hslot : isSlot slot xs.length = true
  · rw [insertAt, if_pos hslot] at h
    cases h
    exact ⟨hslot, _, _, (List.take_append_drop _ xs).symm, rfl⟩
  · rw [insertAt, if_neg hslot] at h
    cases h

theorem insertAt_eq_error {f : Fault} (h : insertAt slot x xs = .error f) :
    isSlot slot xs.length = false ∧ f = .lengthRange := by
  by_cases hslot : isSlot slot xs.length = true
  · rw [insertAt, if_pos hslot] at h
    cases h
  · rw [insertAt, if_neg hslot] at h
    cases h
    exact ⟨by simpa using hslot, rfl⟩

theorem insertAt_append (hslot : slot = before.length) (x : α) (after : List α) :
    insertAt slot x (before ++ after) = .ok (before ++ x :: after) := by
  subst hslot
  have hnat : ¬(before.length : Int) < 0 := by omega
  have hin : isSlot before.length (before ++ after).length = true :=
    isSlot_of_le (by omega) (by rw [List.length_append]; omega)
  rw [insertAt, if_pos hin, if_neg hnat, Int.toNat_natCast]
  dsimp only
  rw [List.take_left, List.drop_left]

theorem insertAt_length (h : insertAt slot x xs = .ok ys) : ys.length = xs.length + 1 := by
  obtain ⟨-, before, after, rfl, rfl⟩ := insertAt_eq_ok h
  rw [List.length_append, List.length_cons, List.length_append, Nat.add_assoc]

end Slots

/-- The piped value has a place among the arguments. -/
def FilterCall.HasSlot (c : FilterCall) : Prop := isSlot c.slot c.args.length = true

/-- It has one between arguments. -/
theorem FilterCall.hasSlot_of_args {c : FilterCall} {before after : List Scalar} (hargs : c.args = before ++ after)
    (hslot : c.slot = before.length) : c.HasSlot := by
  refine isSlot_of_le (by omega) ?_
  rw [hargs, List.length_append]
  omega

/-! ## Checks -/

namespace Registry

variable {r : Registry} {c : FilterCall} {cs : List FilterCall} {f : Failure}

theorem check_eq (r : Registry) (c : FilterCall) : r.check c = (r.get c.name).bind fun f =>
    match f.signature with
    | none => .ok ()
    | some s =>
      if isSlot c.slot c.args.length then
        (s.bind (c.args.length + 1)).mapError fun cause => .tag c.name (.badArguments cause)
      else .error (.fault .lengthRange) := by
  refine congrArg (r.get c.name).bind (funext fun f => ?_)
  cases f.signature with
  | none => rfl
  | some s =>
    dsimp only
    cases hargs : insertAt c.slot Value.none (c.args.map Scalar.toValue) with
    | error g =>
      obtain ⟨hslot, rfl⟩ := insertAt_eq_error hargs
      rw [List.length_map] at hslot
      rw [hslot]
      rfl
    | ok args =>
      have hslot := (insertAt_eq_ok hargs).1
      have hlength := insertAt_length hargs
      rw [List.length_map] at hslot hlength
      rw [if_pos hslot, ← hlength]
      dsimp only [Except.mapError, bind, Except.bind]
      cases s.bind args.length <;> rfl

/-- The call asks for as many arguments as it has literals, and one more. -/
theorem check_eq_ok (h : r.check c = .ok ()) : ∃ f, r.find? c.name = some f ∧
    ∀ s, f.signature = some s → c.HasSlot ∧ s.bind (c.args.length + 1) = .ok () := by
  rw [check_eq] at h
  obtain ⟨f, hget, h⟩ := bind_eq_ok.mp h
  have hfind : r.find? c.name = some f := by
    rw [get] at hget
    split at hget <;> cases hget
    assumption
  refine ⟨f, hfind, fun s hs => ?_⟩
  rw [hs] at h
  dsimp only at h
  split_ifs at h with hslot
  exact ⟨hslot, mapError_eq_ok.mp h⟩

/-- What is refused is a call by its name, or one without a slot. -/
theorem check_eq_error (h : r.check c = .error f) :
    (∃ cause, f = .tag c.name cause) ∨ ¬c.HasSlot ∧ f = .fault .lengthRange := by
  rw [check_eq, get] at h
  cases hfind : r.find? c.name with
  | none =>
    rw [hfind] at h
    cases h
    exact .inl ⟨_, rfl⟩
  | some filter =>
    rw [hfind] at h
    dsimp only [Except.bind] at h
    split at h
    · cases h
    · split_ifs at h with hslot
      · rename_i s _
        cases hbind : s.bind (c.args.length + 1) with
        | ok _ =>
          rw [hbind] at h
          cases h
        | error cause =>
          rw [hbind] at h
          cases h
          exact .inl ⟨_, rfl⟩
      · cases h
        exact .inr ⟨hslot, rfl⟩

/-- Checks calls in order, up to the first one that is refused. -/
def checkAll (r : Registry) (cs : List FilterCall) : Except Failure Unit := cs.forM r.check

theorem checkAll_nil (r : Registry) : r.checkAll [] = .ok () := rfl

theorem checkAll_cons (r : Registry) (c : FilterCall) (cs : List FilterCall) :
    r.checkAll (c :: cs) = (r.check c).bind fun _ => r.checkAll cs := rfl

theorem checkAll_append (r : Registry) (as bs : List FilterCall) :
    r.checkAll (as ++ bs) = (r.checkAll as).bind fun _ => r.checkAll bs :=
  List.forM_append

theorem checkAll_eq_ok : r.checkAll cs = .ok () ↔ ∀ c ∈ cs, r.check c = .ok () := by
  induction cs with
  | nil => simp [checkAll_nil]
  | cons c cs ih =>
    rw [checkAll_cons, List.forall_mem_cons, ← ih]
    cases r.check c <;> simp [Except.bind]

theorem checkAll_eq_error (h : r.checkAll cs = .error f) :
    (∃ token cause, f = .tag token cause) ∨ (∃ c ∈ cs, ¬c.HasSlot) ∧ f = .fault .lengthRange := by
  induction cs with
  | nil => cases h
  | cons c cs ih =>
    rw [checkAll_cons] at h
    cases hc : r.check c with
    | ok _ =>
      rw [hc] at h
      obtain htag | ⟨⟨c', hc', hslot⟩, hf⟩ := ih h
      · exact .inl htag
      · exact .inr ⟨⟨c', List.mem_cons_of_mem c hc', hslot⟩, hf⟩
    | error f' =>
      rw [hc] at h
      cases h
      obtain ⟨cause, rfl⟩ | ⟨hslot, rfl⟩ := check_eq_error hc
      · exact .inl ⟨c.name, cause, rfl⟩
      · exact .inr ⟨⟨c, List.mem_cons_self, hslot⟩, rfl⟩

end Registry

end Gabarit
