import Mathlib.Data.List.Basic
import Mathlib.Data.Nat.Notation
import Gabarit.Render.Context

/-!
# Lexical scoping

What the names of a context mean after any sequence of opening scopes, binding names in the newest
one and closing it.

* `Context.Step`, `Context.after`: the operations on scopes, and the context after some of them;
* `Context.Opens`: sequences that close no more scopes than they open, with the number left open;
* `Context.bindingBefore`: the newest binding of a name in an open scope, read off the history;
* `Context.Within`: sequences that leave the scopes which were open before them alone;
* `Context.after_bracketed`: what is done between opening a scope and closing it leaves no trace;
* `Context.exists_matching`: every closing of a scope has its opening;
* **`Context.lexically_scoped`**: names are looked up through the open scopes, the newest first, and
  then in the data, whichever way they are asked for; closing a scope brings back what was before it.
-/

namespace Gabarit

namespace Scope

@[simp] theorem lookup_set_self (name : String) (v : Value) (scope : Scope) :
    (scope.set name v).lookup name = some v := by
  induction scope with
  | nil => simp [set]
  | cons entry rest ih =>
    obtain ⟨n, w⟩ := entry
    rw [set]
    split_ifs with h
    · simp [h]
    · rw [List.lookup_cons, beq_false_of_ne (Ne.symm h), ih]

theorem lookup_set_of_ne {name other : String} (h : other ≠ name) (v : Value) (scope : Scope) :
    (scope.set name v).lookup other = scope.lookup other := by
  induction scope with
  | nil => simp [set, List.lookup_cons, beq_false_of_ne h]
  | cons entry rest ih =>
    obtain ⟨n, w⟩ := entry
    rw [set]
    split_ifs with hn
    · rw [List.lookup_cons, List.lookup_cons, hn, beq_false_of_ne h]
    · rw [List.lookup_cons, List.lookup_cons, ih]

end Scope

namespace Context

/-- An operation on the scopes of a context. -/
inductive Step where
  | push
  | bind (name : String) (v : Value)
  | pop

/-- The context after an operation. -/
def step (c : Context) : Step → Context
  | .push => c.push
  | .bind name v => c.bind name v
  | .pop => c.pop

/-- The context after a sequence of operations. -/
def after (c : Context) (steps : List Step) : Context := steps.foldl step c

/-- From a context without scopes, the operations only bind and close where a scope is open, and
leave so many open. -/
inductive Opens : List Step → ℕ → Prop
  | start : Opens [] 0
  | push {steps : List Step} {n : ℕ} : Opens steps n → Opens (steps ++ [.push]) (n + 1)
  | bind {steps : List Step} {n : ℕ} (name : String) (v : Value) :
      Opens steps (n + 1) → Opens (steps ++ [.bind name v]) (n + 1)
  | pop {steps : List Step} {n : ℕ} : Opens steps (n + 1) → Opens (steps ++ [.pop]) n

/-- The newest binding of a name in a scope that is still open, from the operations done so far,
the last one first. So many scopes have been met that are closed by now. -/
def bindingBefore (name : String) : ℕ → List Step → Option Value
  | _, [] => none
  | closed, .pop :: earlier => bindingBefore name (closed + 1) earlier
  | 0, .push :: earlier => bindingBefore name 0 earlier
  | closed + 1, .push :: earlier => bindingBefore name closed earlier
  | 0, .bind n v :: earlier => if n = name then some v else bindingBefore name 0 earlier
  | closed + 1, .bind _ _ :: earlier => bindingBefore name (closed + 1) earlier

/-- The operations close each scope that they open and no other. -/
inductive Within : List Step → Prop
  | nil : Within []
  | bind (name : String) (v : Value) {rest : List Step} : Within rest → Within (.bind name v :: rest)
  | scope {inner rest : List Step} :
      Within inner → Within rest → Within (.push :: (inner ++ .pop :: rest))

variable {c : Context} {steps before inside : List Step} {n : ℕ}

@[simp] theorem after_nil (c : Context) : c.after [] = c := rfl

@[simp] theorem after_cons (c : Context) (s : Step) (steps : List Step) :
    c.after (s :: steps) = (c.step s).after steps := rfl

@[simp] theorem after_append (c : Context) (steps more : List Step) :
    c.after (steps ++ more) = (c.after steps).after more :=
  List.foldl_append

/-- A context looks names up in the value that it was made of, unless that answers to keys which it does
not hold; only nothing has a type to show, which the empty mapping in its place has not. -/
theorem kept_lookup {data : Value} {name : String}
    (hplain : ∀ entries fallback, data ≠ .defaulting entries fallback)
    (h : data ≠ .none ∨ ¬ ['_', '_'] <+: name.toList) :
    (kept data).lookup (.name name) = data.lookup (.name name) := by
  cases data with
  | none =>
    have hclass : name ≠ "__class__" := by
      rintro rfl
      exact h.elim (· rfl) (· ⟨"class__".toList, rfl⟩)
    have hnone : Value.none.lookup (.name name) = none := by
      simp [Value.lookup, Value.named?, Value.attribute?, Value.attributes, hclass]
    rw [hnone]
    rfl
  | defaulting entries fallback => exact absurd rfl (hplain entries fallback)
  | _ => rfl

theorem bind_scopes {scope : Scope} {rest : List Scope} (h : c.scopes = scope :: rest) (name : String)
    (v : Value) : c.bind name v = ⟨c.data, scope.set name v :: rest⟩ := by
  unfold Context.bind
  rw [h]

@[simp] theorem step_data (c : Context) (s : Step) : (c.step s).data = c.data := by
  cases s with
  | bind name v =>
    cases h : c.scopes with
    | nil => simp only [step, Context.bind, h]
    | cons scope rest => rw [step, bind_scopes h]
  | _ => rfl

@[simp] theorem after_data (c : Context) (steps : List Step) : (c.after steps).data = c.data := by
  induction steps generalizing c with
  | nil => rfl
  | cons s steps ih => rw [after_cons, ih, step_data]

theorem attribute?_eq {name : String} (h : ¬ ['_', '_'] <+: name.toList) : c.attribute? name = c.get? name := by
  rw [attribute?, if_neg (by rwa [List.isPrefixOf_iff_prefix])]

theorem resolve_single (c : Context) (expr name : String) :
    c.resolve ⟨expr, [.name name]⟩ =
      (c.get? name).elim (.error (.error (.undefined expr (.name name)))) .ok := by
  simp only [resolve, first?, PathPart.asName]
  cases c.get? name <;> rfl

/-! ## The open scopes and the history -/

theorem depth_after (hc : c.scopes = []) (h : Opens steps n) : (c.after steps).depth = n := by
  induction h with
  | start => rw [after_nil, depth, hc, List.length_nil]
  | push _ ih => rw [after_append, ← ih]; rfl
  | bind name v _ ih =>
    obtain ⟨scope, rest, hscopes⟩ := List.exists_cons_of_length_eq_add_one ih
    rw [after_append, after_cons, after_nil, step, bind_scopes hscopes, ← ih, depth, depth, hscopes]
    rfl
  | pop _ ih =>
    rw [after_append, after_cons, after_nil, depth, step, pop, List.length_tail]
    exact congrArg (· - 1) ih

/-- The scopes that are left when some of the newest are closed bind a name to what the history says
of it. -/
theorem findSome?_drop_scopes (hc : c.scopes = []) (h : Opens steps n) (name : String) (k : ℕ) :
    ((c.after steps).scopes.drop k).findSome? (List.lookup name) = bindingBefore name k steps.reverse := by
  induction h generalizing k with
  | start => rw [after_nil, hc, List.drop_nil, List.reverse_nil, bindingBefore, List.findSome?_nil]
  | @push steps _ _ ih =>
    rw [after_append, after_cons, after_nil, step, push, List.reverse_append]
    cases k with
    | zero => exact ih 0
    | succ k => exact ih k
  | @bind steps _ other v h ih =>
    obtain ⟨scope, rest, hscopes⟩ := List.exists_cons_of_length_eq_add_one (depth_after hc h)
    rw [after_append, after_cons, after_nil, step, bind_scopes hscopes, List.reverse_append]
    rw [hscopes] at ih
    cases k with
    | zero =>
      simp only [List.reverse_singleton, List.singleton_append, bindingBefore, List.drop_zero,
        List.findSome?_cons]
      split_ifs with hname
      · rw [hname, Scope.lookup_set_self]
      · rw [Scope.lookup_set_of_ne (Ne.symm hname), ← ih 0, List.drop_zero, List.findSome?_cons]
    | succ k => exact ih (k + 1)
  | @pop steps _ _ ih =>
    rw [after_append, after_cons, after_nil, step, pop, List.drop_tail, List.reverse_append]
    exact ih (k + 1)

theorem get?_after (hc : c.scopes = []) (h : Opens steps n) (name : String) :
    (c.after steps).get? name =
      (bindingBefore name 0 steps.reverse).or (c.data.lookup (.name name)) := by
  rw [get?, after_data, ← findSome?_drop_scopes hc h name 0, List.drop_zero]

/-! ## What a scope leaves -/

theorem Within.append {more : List Step} (h : Within inside) (hmore : Within more) : Within (inside ++ more) := by
  induction h with
  | nil => exact hmore
  | bind name v _ ih => exact ih.bind name v
  | scope hinner _ _ ih =>
    rw [List.cons_append, List.append_assoc, List.cons_append]
    exact .scope hinner ih

theorem after_within (h : Within inside) (data : Value) (scope : Scope) (outer : List Scope) :
    ∃ scope' : Scope, (⟨data, scope :: outer⟩ : Context).after inside = ⟨data, scope' :: outer⟩ := by
  induction h generalizing scope outer with
  | nil => exact ⟨scope, rfl⟩
  | bind name v _ ih => exact ih (scope.set name v) outer
  | scope _ _ ihinner ihrest =>
    obtain ⟨inner', hinner⟩ := ihinner [] (scope :: outer)
    obtain ⟨scope', hrest⟩ := ihrest scope outer
    refine ⟨scope', ?_⟩
    rw [after_cons, after_append, step, push, hinner]
    exact hrest

theorem after_bracketed (c : Context) (h : Within inside) : c.after (.push :: (inside ++ [.pop])) = c := by
  obtain ⟨scope, hinside⟩ := after_within h c.data [] c.scopes
  rw [after_cons, after_append, step, push, hinside]
  rfl

/-- While more scopes are open than some number, one of them was opened when so many were open,
and is the newest but for those that came after it. -/
theorem exists_matching (h : Opens steps (n + 1)) :
    ∃ before inside, steps = before ++ .push :: inside ∧ Opens before n ∧ Within inside := by
  induction hlength : steps.length using Nat.strongRecOn generalizing steps n with
  | ind length ih =>
    cases h with
    | push h => exact ⟨_, [], rfl, h, .nil⟩
    | @bind steps _ name v h =>
      obtain ⟨before, inside, rfl, hbefore, hinside⟩ := ih steps.length (by simp [← hlength]) h rfl
      refine ⟨before, inside ++ [.bind name v], ?_, hbefore, hinside.append (.bind name v .nil)⟩
      rw [List.append_assoc, List.cons_append]
    | @pop steps _ h =>
      -- the scope that was closed last, and the one that was the newest when it was opened
      obtain ⟨middle, inner, rfl, hmiddle, hinner⟩ := ih steps.length (by simp [← hlength]) h rfl
      obtain ⟨before, inside, rfl, hbefore, hinside⟩ :=
        ih middle.length (by simp [← hlength]) hmiddle rfl
      refine ⟨before, inside ++ .push :: (inner ++ [.pop]), ?_, hbefore, hinside.append (.scope hinner .nil)⟩
      simp only [List.append_assoc, List.cons_append]

/-- **Contexts are lexically scoped environments.** After opening, binding and closing scopes in any
order that the number of open scopes permits, a name means the newest binding of it in an open scope,
else what it selects in what the context keeps of the data. The three ways to ask for a name agree, but for
the names of two underscores. What a scope changed is gone when it is closed, and a context that is made
from another one has the data alone. -/
theorem lexically_scoped (data : Value) (h : Opens steps n) :
    let start := ofData data
    let c := start.after steps
    ((∀ entries fallback, data ≠ .defaulting entries fallback) → ∀ name,
      data ≠ .none ∨ ¬ ['_', '_'] <+: name.toList →
      (kept data).lookup (.name name) = data.lookup (.name name)) ∧
    (∀ expr name, c.resolve ⟨expr, [.name name]⟩ =
      ((bindingBefore name 0 steps.reverse).or ((kept data).lookup (.name name))).elim
        (.error (.error (.undefined expr (.name name)))) .ok) ∧
    (∀ expr name, ¬ ['_', '_'] <+: name.toList →
      (c.get? name).isSome = (c.attribute? name).isSome ∧
      c.resolve ⟨expr, [.name name]⟩ =
        (c.attribute? name).elim (.error (.error (.undefined expr (.name name)))) .ok) ∧
    (∀ earlier, steps = earlier ++ [.pop] →
      (∃ before inside, earlier = before ++ .push :: inside ∧ Within inside) ∧
      ∀ before inside, earlier = before ++ .push :: inside → Within inside → c = start.after before) ∧
    c.rewrapped = start ∧ c.depth = n := by
  intro start c
  have hstart : start.scopes = [] := rfl
  refine ⟨fun hplain name hname => ?_, fun expr name => ?_, fun expr name hname => ⟨?_, ?_⟩,
    fun earlier hearlier => ⟨?_, fun before inside hbefore hinside => ?_⟩, ?_, depth_after hstart h⟩
  · exact kept_lookup hplain hname
  · rw [resolve_single, get?_after hstart h]
    rfl
  · rw [attribute?_eq hname]
  · rw [attribute?_eq hname, resolve_single]
  · subst hearlier
    generalize hlast : earlier ++ [.pop] = steps at h
    cases h with
    | pop h =>
      obtain ⟨before, inside, hsplit, -, hinside⟩ := exists_matching h
      obtain ⟨rfl, -⟩ := List.append_inj' hlast rfl
      exact ⟨before, inside, hsplit, hinside⟩
    | _ => simp at hlast
  · have hsteps : steps = before ++ .push :: (inside ++ [.pop]) := by
      rw [hearlier, hbefore, List.append_assoc, List.cons_append]
    rw [show c = start.after steps from rfl, hsteps, after_append, after_bracketed _ hinside]
  · rw [rewrapped, after_data]
    rfl

/-- An inner loop that binds a name again hides the outer binding and the data until it ends. -/
theorem lexically_scoped_rebound :
    let data : Value := .dict [(.str "x", .int 0), (.str "y", .int 3)]
    let before : List Step := [.push, .bind "x" (.int 1)]
    let steps : List Step := before ++ [.push, .bind "x" (.int 2), .bind "y" (.int 4), .pop]
    Opens steps 1 ∧ ((ofData data).after steps).resolve ⟨"x", [.name "x"]⟩ = .ok (.int 1) ∧
      ((ofData data).after steps).resolve ⟨"y", [.name "y"]⟩ = .ok (.int 3) ∧
      (ofData data).after steps = (ofData data).after before := by
  intro data before steps
  have hopens : Opens steps 1 := .pop (.bind _ _ (.bind _ _ (.push (.bind _ _ (.push .start)))))
  obtain ⟨-, hresolve, -, hpop, -⟩ := lexically_scoped data hopens
  exact ⟨hopens, hresolve "x" "x", hresolve "y" "y",
    (hpop _ rfl).2 before [.bind "x" (.int 2), .bind "y" (.int 4)] rfl (.bind _ _ (.bind _ _ .nil))⟩

/-- Nothing at all has a type, but the empty mapping that stands for it has no such key; and a mapping that
has a value for each key is kept without the values of the keys which it does not hold. -/
theorem exists_resolve_ne_lookup :
    (∃ path : FieldPath, FieldPath.parse "__class__" = .ok path ∧ path.parts = [.name "__class__"] ∧
      Value.none.lookup (.name "__class__") = some (.type "NoneType") ∧
      (ofData .none).resolve path = .error (.error (.undefined "__class__" (.name "__class__")))) ∧
    ∃ path : FieldPath, FieldPath.parse "x" = .ok path ∧ path.parts = [.name "x"] ∧
      let counts : Value := .defaulting [(.str "a", .int 1)] (.int 0)
      counts.lookup (.name "x") = some (.int 0) ∧
      (ofData counts).resolve path = .error (.error (.undefined "x" (.name "x"))) :=
  ⟨⟨⟨"__class__", [.name "__class__"]⟩, by decide +kernel, rfl, rfl, rfl⟩,
    ⟨⟨"x", [.name "x"]⟩, by decide +kernel, rfl, rfl, rfl⟩⟩

end Context

end Gabarit
