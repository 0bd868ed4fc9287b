import Gabarit.Proofs.Block.Nesting
import Gabarit.Proofs.Block.Reading

/-!
# Effects of renderings

What a rendering does to the one-shot iterators, and what it fails with, is proved of its parts once, for
any relation that taking an item keeps and any property of failures.

* `Taking`: what may become of the iterators; `Taking.only`: items are taken and none are put back;
* `Obeys`: a computation changes the iterators and fails as it may, with one lemma for each way of composing;
* `Registry.standard_obeys`: the standard filters fail with faults, and only take items;
* `InRange`: a run over blocks that pair up, with fuel enough;
* `Renderer.Promises`, `Renderer.Admits`: what the rest of the failures are;
* **`Renderer.run_obeys`**: a run obeys what its filters obey.
-/

namespace Gabarit

/-- What may become of the one-shot iterators: nothing may, and an item may be taken. -/
structure Taking where
  leaves : Cursors → Cursors → Prop
  refl : ∀ c, leaves c c
  trans : ∀ {a b c}, leaves a b → leaves b c → leaves a c
  take : ∀ {source : Source} {c c' : Cursors} {x : Value} {rest : Source},
    source.next c = .ok (some (x, rest, c')) → leaves c c'

namespace Taking

/-- Anything. -/
def any : Taking where
  leaves _ _ := True
  refl _ := trivial
  trans _ _ := trivial
  take _ := trivial

/-- What is left of an iterator after items were taken and none put back. -/
def only : Taking where
  leaves a b := ∀ id : ℕ, (b[id]?.getD []) <:+ (a[id]?.getD [])
  refl _ _ := List.suffix_rfl
  trans hab hbc id := (hbc id).trans (hab id)
  take {source a b x rest} h id := by
    cases source with
    | items xs =>
      cases xs <;> cases h
      exact List.suffix_rfl
    | numbers start step count =>
      cases count <;> cases h
      exact List.suffix_rfl
    | broken f => cases h
    | cursor k =>
      cases hk : a[k]?.getD [] with
      | nil => simp [Source.next, hk] at h
      | cons y ys =>
        simp only [Source.next, hk] at h
        cases h
        by_cases hid : k = id
        · subst hid
          have hlt : k < a.length := by
            by_contra hge
            rw [List.getElem?_eq_none (by omega)] at hk
            cases hk
          rw [List.getElem?_set_self hlt, hk]
          exact List.suffix_cons _ ys
        · rw [List.getElem?_set_ne hid]

theorem only_length_le {a b : Cursors} (h : only.leaves a b) (id : ℕ) :
    (b[id]?.getD []).length ≤ (a[id]?.getD []).length := (h id).length_le

end Taking

/-- From a state, a computation changes the iterators in it as they may be changed, and whatever it fails
with has a property. -/
def Obeys {σ α : Type} (T : Taking) (P : Failure → Prop) (view : σ → Cursors) (x : EStateM Failure σ α)
    (s : σ) : Prop :=
  T.leaves (view s) (view (stateAfter (x s))) ∧ ∀ f ∈ failureOf (x s), P f

namespace Obeys

variable {σ α β : Type} {T : Taking} {P Q : Failure → Prop} {view : σ → Cursors} {s : σ}

theorem pure (a : α) : Obeys T P view (Pure.pure a) s := ⟨T.refl _, nofun⟩

theorem throw {f : Failure} (h : P f) : Obeys T P view (MonadExcept.throw f : EStateM Failure σ α) s := by
  refine ⟨T.refl _, ?_⟩
  rintro _ ⟨⟩
  exact h

theorem modify {f : σ → σ} (h : T.leaves (view s) (view (f s))) :
    Obeys T P view (modify f : EStateM Failure σ Unit) s := ⟨h, nofun⟩

theorem bind {x : EStateM Failure σ α} {f : α → EStateM Failure σ β} (hx : Obeys T P view x s)
    (hf : ∀ a s', x s = .ok a s' → Obeys T P view (f a) s') : Obeys T P view (x >>= f) s := by
  unfold Obeys at hx ⊢
  rw [EStateM.bind_apply]
  cases hxs : x s with
  | ok a s' =>
    rw [hxs] at hx
    obtain ⟨hleaves, hfails⟩ := hf a s' hxs
    exact ⟨T.trans hx.1 hleaves, hfails⟩
  | error g s' =>
    rw [hxs] at hx
    exact hx

theorem get_bind {f : σ → EStateM Failure σ β} (h : Obeys T P view (f s) s) :
    Obeys T P view (get >>= f) s := h

theorem ite {c : Prop} [Decidable c] {x y : EStateM Failure σ α} (hx : Obeys T P view x s)
    (hy : Obeys T P view y s) : Obeys T P view (if c then x else y) s := by
  split_ifs
  · exact hx
  · exact hy

theorem mono {x : EStateM Failure σ α} (h : Obeys T P view x s) (hPQ : ∀ f, P f → Q f) :
    Obeys T Q view x s :=
  ⟨h.1, fun f hf => hPQ f (h.2 f hf)⟩

end Obeys

/-! ## The standard filters -/

/-- The failure is not one of the engine's errors. -/
def Failure.IsFault (f : Failure) : Prop := ∃ g, f = .fault g

namespace Action

variable {α : Type} {T : Taking} {s : Cursors}

theorem ofExcept_obeys (r : Except Fault α) : Obeys T Failure.IsFault id (Action.ofExcept r) s := by
  cases r with
  | ok a => exact .pure a
  | error f => exact .throw ⟨f, rfl⟩

theorem collect_obeys (convert : Value → Except Fault α) (fuel : ℕ) (source : Source) (s : Cursors) :
    Obeys T Failure.IsFault id (Action.collect convert fuel source) s := by
  induction fuel generalizing source s with
  | zero => exact .pure []
  | succ fuel ih =>
    refine .get_bind ?_
    cases hnext : source.next s with
    | error f => exact .throw ⟨f, rfl⟩
    | ok next =>
      refine .bind (.pure next) fun next s' hs' => ?_
      cases hs'
      cases next with
      | none => exact .pure []
      | some next =>
        obtain ⟨x, rest, cursors⟩ := next
        have hset : Obeys T Failure.IsFault id (set cursors : Action PUnit) s := ⟨T.take hnext, nofun⟩
        refine .bind hset fun _ _ _ => .bind (ofExcept_obeys _) fun a _ _ => ?_
        exact .bind (ih rest _) fun as _ _ => .pure _

end Action

namespace Filter

/-- Whatever it is given, the filter only takes items, and fails with a fault if it does. -/
def Obedient (f : Filter) : Prop :=
  ∀ (T : Taking) args s, Obeys T Failure.IsFault id (f.apply args) s

theorem ofValue_obedient (function : String) (f : Value → Except Fault Value) :
    (ofValue function f).Obedient := by
  intro T args s
  dsimp only [ofValue]
  split
  · exact Action.ofExcept_obeys _
  · exact .pure _

theorem ofPair_obedient (function parameter : String) {f : Value → Value → Action Value}
    (h : ∀ T a v s, Obeys T Failure.IsFault id (f a v) s) : (ofPair function parameter f).Obedient := by
  intro T args s
  dsimp only [ofPair]
  split
  · exact h T _ _ s
  · exact .pure _

theorem join_obeys (T : Taking) (separator value : Value) (s : Cursors) :
    Obeys T Failure.IsFault id (join separator value) s := by
  unfold join
  dsimp only
  refine .ite (.bind (Action.ofExcept_obeys _) fun source _ _ => ?_) (.throw ⟨_, rfl⟩)
  split
  · exact .throw ⟨_, rfl⟩
  · refine .get_bind (.bind (Action.collect_obeys _ _ _ _) fun texts _ _ => ?_)
    split
    · exact .pure _
    · exact .pure _
    · exact .ite (.throw ⟨_, rfl⟩) (.pure _)

theorem truncate_obeys (T : Taking) (limit value : Value) (s : Cursors) :
    Obeys T Failure.IsFault id (truncate limit value) s := by
  refine .bind (Action.ofExcept_obeys _) fun text _ _ => ?_
  refine .bind (Action.ofExcept_obeys _) fun fits _ _ => .ite (.pure _) ?_
  split
  · exact .pure _
  · exact .ite (.pure _) (.throw ⟨_, rfl⟩)
  · exact .throw ⟨_, rfl⟩

theorem date_obeys (T : Taking) (pattern value : Value) (s : Cursors) :
    Obeys T Failure.IsFault id (date pattern value) s := by
  refine .bind (Action.ofExcept_obeys _) fun t _ _ => ?_
  split
  · exact .pure _
  · exact .throw ⟨_, rfl⟩
  · exact .throw ⟨_, rfl⟩

end Filter

/-- The filters change the iterators as they may, and their failures have a property. -/
def Registry.Obeys (T : Taking) (P : Failure → Prop) (r : Registry) : Prop :=
  ∀ name f, r.find? name = some f → ∀ args s, Gabarit.Obeys T P id (f.apply args) s

/-- **The standard filters only take items from iterators, and fail with faults alone.** -/
theorem Registry.standard_obeys (T : Taking) : Registry.standard.Obeys T Failure.IsFault := by
  have hall : ∀ x ∈ Registry.standard.filters, x.2.Obedient := by
    simp only [Registry.standard, Filter.all, List.forall_mem_cons]
    refine ⟨?_, ?_, ?_, ?_, ?_, ?_, ?_, ?_, ?_, ?_, ?_, ?_, ?_, ?_, ?_, List.forall_mem_nil _⟩
    case refine_12 => exact Filter.ofPair_obedient _ _ Filter.join_obeys
    case refine_13 => exact Filter.ofPair_obedient _ _ fun _ _ _ _ => .pure _
    case refine_14 => exact Filter.ofPair_obedient _ _ Filter.truncate_obeys
    case refine_15 => exact Filter.ofPair_obedient _ _ Filter.date_obeys
    all_goals exact Filter.ofValue_obedient _ _
  intro name f hfind
  obtain ⟨before, after, hfilters, -⟩ := List.lookup_eq_some_iff.mp hfind
  exact hall (name, f) (hfilters ▸ List.mem_append_right _ List.mem_cons_self) T

/-! ## Runs over blocks that pair up -/

theorem nodeAt?_natCast (nodes : Array Node) (i : ℕ) : nodeAt? nodes i = nodes[i]? := by
  have hplace : Value.place? nodes.size i = if i < nodes.size then some i else none := by
    have hnat : ¬(i : Int) < 0 := by omega
    simp [Value.place?, if_neg hnat]
  rw [nodeAt?, hplace]
  split_ifs with hlt
  · rw [Option.bind_some]
  · rw [Option.bind_none, Array.getElem?_eq_none (by omega)]

/-- A run from `pc` up to `stop` over blocks that pair up. There is fuel for all nodes from `pc` on, and for
one step more. -/
structure InRange (nodes : Array Node) (fuel : ℕ) (pc stop : Int) : Prop where
  paired : Paired nodes
  low : 0 ≤ pc
  inside : pc ≤ nodes.size
  high : stop ≤ nodes.size
  fueled : nodes.size < pc + fuel

namespace InRange

variable {nodes : Array Node} {fuel : ℕ} {pc stop target : Int} {node : Node}

/-- All nodes. -/
theorem whole (h : Paired nodes) (hfuel : nodes.size < fuel) : InRange nodes fuel 0 nodes.size where
  paired := h
  low := by omega
  inside := by omega
  high := by omega
  fueled := by omega

/-- The fuel does not run out. -/
theorem not_starved (h : InRange nodes 0 pc stop) : False := by
  have hfueled := h.fueled
  have hinside := h.inside
  omega

theorem exists_node (h : InRange nodes fuel pc stop) (hlt : pc < stop) :
    ∃ node, nodeAt? nodes pc = some node := by
  obtain ⟨i, rfl⟩ := Int.eq_ofNat_of_zero_le h.low
  have hhigh := h.high
  exact ⟨nodes[i], by rw [nodeAt?_natCast, Array.getElem?_eq_getElem (by omega)]⟩

/-- The run goes on with the next node. -/
theorem next (h : InRange nodes (fuel + 1) pc stop) (hlt : pc < stop) : InRange nodes fuel (pc + 1) stop := by
  obtain ⟨hpaired, hlow, hinside, hhigh, hfueled⟩ := h
  exact ⟨hpaired, by omega, by omega, hhigh, by omega⟩

/-- A block is closed further on. -/
theorem lt_target (h : InRange nodes fuel pc stop) (hnode : nodeAt? nodes pc = some node)
    (hclose : node.close? = some target) : pc < target ∧ target < nodes.size := by
  obtain ⟨i, rfl⟩ := Int.eq_ofNat_of_zero_le h.low
  rw [nodeAt?_natCast] at hnode
  obtain ⟨j, rfl, hij, hclosing⟩ := h.paired.opens hnode hclose
  have hj := (Array.getElem?_eq_some_iff.mp hclosing).1
  omega

/-- The body of a block. -/
theorem body (h : InRange nodes (fuel + 1) pc stop) (hnode : nodeAt? nodes pc = some node)
    (hclose : node.close? = some target) : InRange nodes fuel (pc + 1) target := by
  have htarget := h.lt_target hnode hclose
  obtain ⟨hpaired, hlow, hinside, hhigh, hfueled⟩ := h
  exact ⟨hpaired, by omega, by omega, by omega, by omega⟩

/-- The run goes on behind a block. -/
theorem rest (h : InRange nodes (fuel + 1) pc stop) (hnode : nodeAt? nodes pc = some node)
    (hclose : node.close? = some target) : InRange nodes fuel (target + 1) stop := by
  have htarget := h.lt_target hnode hclose
  obtain ⟨hpaired, hlow, hinside, hhigh, hfueled⟩ := h
  exact ⟨hpaired, by omega, by omega, by omega, by omega⟩

end InRange

/-! ## Parts of a run -/

theorem Signature.isOpen_of_call {s : Signature} {n : ℕ} {f : Fault} (h : s.call n = .error f) :
    f.isOpen = false := by
  unfold call at h
  dsimp only at h
  split_ifs at h <;> cases h <;> rfl

/-- The failures of a rendering, those apart that a program without these faults does not have. -/
structure Renderer.Promises (r : Renderer) (T : Taking) (P : Failure → Prop) : Prop where
  undefined : ∀ expr part, P (.error (.undefined expr part))
  notIterable : ∀ expr type, P (.error (.notIterable expr type))
  /-- The first item of a value cannot be taken. -/
  item : ∀ (v : Value) (f : Fault), v.source = .ok (.broken f) → P (.fault f)
  /-- A loop goes on and on. -/
  endless : P (.fault .endless)
  text : ∀ v f, r.toText v = .error f → P (.fault f)
  /-- A filter is called with too many arguments or too few. -/
  shape : ∀ name f, P (.error (.filter name f))
  filters : ∀ name f, r.filters.find? name = some f → ∀ args s,
    Obeys T (fun g => P (Render.filterFailure name g)) id (f.apply args) s

/-- A node has a path and filters that are there, or may fail without them. -/
structure Renderer.Admits (r : Renderer) (P : Failure → Prop) (node : Node) : Prop where
  path : ∀ path ∈ node.paths, path.parts = [] → P (.fault .emptyPath)
  filters : ∀ c ∈ Engine.callsOf node, r.filters.find? c.name = none → P (.tag c.name .unknownFilter)
  slots : ∀ c ∈ Engine.callsOf node, ¬c.HasSlot → P (.fault .lengthRange)

section Parts

variable {T : Taking} {P : Failure → Prop} {r : Renderer} {m : Machine}

namespace Render

variable {α : Type}

theorem ofExcept_obeys {x : Except Failure α} (h : ∀ f, x = .error f → P f) :
    Obeys T P Machine.cursors (Render.ofExcept x) m := by
  cases x with
  | ok a => exact .pure a
  | error f => exact .throw (h f rfl)

theorem ofAction_obeys (name : String) {action : Action α}
    (h : Obeys T (fun g => P (filterFailure name g)) id action m.cursors) :
    Obeys T P Machine.cursors (Render.ofAction name action) m := by
  unfold Obeys at h ⊢
  unfold ofAction
  cases haction : action m.cursors with
  | ok a cursors =>
    rw [haction] at h
    exact ⟨h.1, nofun⟩
  | error g cursors =>
    rw [haction] at h
    refine ⟨h.1, ?_⟩
    rintro _ ⟨⟩
    exact h.2 g rfl

theorem inScope_obeys {body : Render α}
    (h : Obeys T P Machine.cursors body { m with context := m.context.push }) :
    Obeys T P Machine.cursors (Render.inScope body) m := by
  unfold Obeys at h ⊢
  unfold inScope
  generalize body { m with context := m.context.push } = result at h
  cases result <;> exact h

theorem emit_obeys (s : Rendered) : Obeys T P Machine.cursors (Render.emit s) m := .modify (T.refl _)

theorem bindItem_obeys (index value : Value) : Obeys T P Machine.cursors (bindItem index value) m :=
  .modify (T.refl _)

end Render

theorem Context.follow_eq_error {expr : String} {parts : List PathPart} {v : Value} {f : Failure}
    (h : Context.follow expr v parts = .error f) : ∃ part, f = .error (.undefined expr part) := by
  induction parts generalizing v with
  | nil => cases h
  | cons part rest ih =>
    rw [Context.follow] at h
    split at h
    · exact ih h
    · cases h
      exact ⟨part, rfl⟩

namespace Renderer.Promises

theorem resolve (h : r.Promises T P) {path : FieldPath} (hpath : path.parts = [] → P (.fault .emptyPath)) :
    Obeys T P Machine.cursors (Render.resolve path) m := by
  refine .get_bind (Render.ofExcept_obeys fun f hf => ?_)
  unfold Context.resolve at hf
  split at hf
  · rename_i hparts
    cases hf
    exact hpath hparts
  · split at hf
    · obtain ⟨part, rfl⟩ := Context.follow_eq_error hf
      exact h.undefined _ _
    · cases hf
      exact h.undefined _ _

end Renderer.Promises

/-- If the first of the items cannot be read, it fails as it may. -/
def Items.Sound (P : Failure → Prop) (items : Items) : Prop :=
  ∀ index f, items = .numbered index (.broken f) → P (.fault f)

theorem Items.next_obeys {items : Items} (h : items.Sound P) : Obeys T P Machine.cursors items.next m := by
  cases items with
  | entries es =>
    cases es with
    | nil => exact .pure _
    | cons e es => exact .pure _
  | numbered index source =>
    refine .get_bind ?_
    cases hnext : source.next m.cursors with
    | error f =>
      have hbroken : source = .broken f := by
        cases source with
        | items xs => cases xs <;> cases hnext
        | numbers start step count => cases count <;> cases hnext
        | cursor id =>
          rw [Source.next] at hnext
          split at hnext <;> cases hnext
        | broken g =>
          cases hnext
          rfl
      exact .throw (h index f (hbroken ▸ rfl))
    | ok next =>
      cases next with
      | none => exact .pure _
      | some next =>
        obtain ⟨v, rest, cursors⟩ := next
        exact .bind (.modify (T.take hnext)) fun _ _ _ => .pure _

theorem Items.sound_rest {items rest : Items} {index value : Value} {m' : Machine}
    (h : items.next m = .ok (some (index, value, rest)) m') : rest.Sound P := by
  rintro k f rfl
  cases items with
  | entries es => cases es <;> cases h
  | numbered k source =>
    obtain ⟨_, _, hget, h⟩ := EStateM.bind_eq_ok.mp h
    cases hget
    cases source with
    | items xs => cases xs <;> cases h
    | numbers start step count => cases count <;> cases h
    | cursor id =>
      rw [Source.next] at h
      cases hid : m.cursors[id]?.getD [] <;> rw [hid] at h <;> cases h
    | broken g => cases h

namespace Renderer.Promises

theorem ofValue (h : r.Promises T P) {expr : String} {v : Value} {f : Failure}
    (hf : Items.ofValue expr v = .error f) : P f := by
  unfold Items.ofValue at hf
  split at hf
  · cases hf
  · cases hf
  · cases hf
    exact h.notIterable _ _
  · cases hf
    exact h.notIterable _ _
  · cases hf
    exact h.notIterable _ _
  · split at hf <;> cases hf
    exact h.notIterable _ _

theorem sound (h : r.Promises T P) {expr : String} {v : Value} {items : Items}
    (hitems : Items.ofValue expr v = .ok items) : items.Sound P := by
  rintro index f rfl
  unfold Items.ofValue at hitems
  dsimp only at hitems
  split at hitems <;> try cases hitems
  split at hitems <;> cases hitems
  rename_i hsource
  exact h.item v f hsource

end Renderer.Promises

namespace Renderer

theorem each_obeys (hendless : P (.fault .endless)) {body : Render Unit}
    (hb : ∀ m, Obeys T P Machine.cursors body m) (fuel : ℕ) {items : Items} (h : items.Sound P) (m : Machine) :
    Obeys T P Machine.cursors (each body fuel items) m := by
  induction fuel generalizing items m with
  | zero => exact .bind (Items.next_obeys h) fun next _ _ => .ite (.throw hendless) (.pure ())
  | succ fuel ih =>
    refine .bind (Items.next_obeys h) fun next m' hnext => ?_
    cases next with
    | none => exact .pure ()
    | some next =>
      obtain ⟨index, value, rest⟩ := next
      refine .bind (Render.bindItem_obeys index value) fun _ m₁ _ => .bind (hb m₁) fun _ m₂ _ => ?_
      exact ih (Items.sound_rest hnext) m₂

namespace Promises

theorem loop (h : r.Promises T P) {path : FieldPath} (hpath : path.parts = [] → P (.fault .emptyPath))
    {body : Render Unit} (hb : ∀ m, Obeys T P Machine.cursors body m) :
    Obeys T P Machine.cursors (Renderer.loop path body) m := by
  refine .bind (h.resolve hpath) fun v m₁ _ => ?_
  refine .bind (Render.ofExcept_obeys fun f hf => h.ofValue hf) fun items m₂ hitems => ?_
  have hsound : items.Sound P := by
    cases hv : Items.ofValue path.expr v with
    | error f =>
      rw [hv] at hitems
      cases hitems
    | ok items' =>
      rw [hv] at hitems
      cases hitems
      exact h.sound hv
  exact Render.inScope_obeys (.get_bind (each_obeys h.endless hb _ hsound _))

theorem pipe (h : r.Promises T P) {calls : List FilterCall}
    (hcalls : ∀ c ∈ calls, r.filters.find? c.name = none → P (.tag c.name .unknownFilter))
    (hslots : ∀ c ∈ calls, ¬c.HasSlot → P (.fault .lengthRange)) (v : Value) (m : Machine) :
    Obeys T P Machine.cursors (r.pipe calls v) m := by
  induction calls generalizing v m with
  | nil => exact .pure v
  | cons call calls ih =>
    obtain ⟨hcall, hcalls⟩ := List.forall_mem_cons.mp hcalls
    obtain ⟨hslot, hslots⟩ := List.forall_mem_cons.mp hslots
    rw [Renderer.pipe, Registry.get]
    cases hfind : r.filters.find? call.name with
    | none => exact .throw (hcall hfind)
    | some f =>
      refine .bind (.pure f) fun _ m₁ hm₁ => ?_
      cases hm₁
      refine .bind (Render.ofExcept_obeys fun g hg => ?_) fun args m₂ _ => ?_
      · cases hinsert : insertAt call.slot v (call.args.map Scalar.toValue) with
        | ok args =>
          rw [hinsert] at hg
          cases hg
        | error g' =>
          rw [hinsert] at hg
          cases hg
          obtain ⟨hout, rfl⟩ := insertAt_eq_error hinsert
          rw [List.length_map] at hout
          refine hslot ?_
          rw [FilterCall.HasSlot, hout]
          exact Bool.false_ne_true
      refine .bind (Render.ofAction_obeys call.name ?_) fun w m₃ _ => ih hcalls hslots w m₃
      unfold Filter.call
      split
      · exact h.filters _ f hfind _ _
      · rename_i s _
        refine .bind ?_ fun _ s' _ => h.filters _ f hfind _ s'
        cases hshape : s.call args.length with
        | ok _ => exact .pure ()
        | error g =>
          refine .throw ?_
          rw [Render.filterFailure, Signature.isOpen_of_call hshape]
          exact h.shape _ _

theorem echo (h : r.Promises T P) {path : FieldPath} (hpath : path.parts = [] → P (.fault .emptyPath))
    {calls : List FilterCall}
    (hcalls : ∀ c ∈ calls, r.filters.find? c.name = none → P (.tag c.name .unknownFilter))
    (hslots : ∀ c ∈ calls, ¬c.HasSlot → P (.fault .lengthRange)) (escaped : Bool) :
    Obeys T P Machine.cursors (r.echo path calls escaped) m := by
  refine .bind (h.resolve hpath) fun v m₁ _ => .bind (h.pipe hcalls hslots v m₁) fun w m₂ _ => ?_
  refine .bind (Render.ofExcept_obeys fun f hf => ?_) fun text _ _ => .pure _
  cases htext : r.toText w with
  | ok s =>
    rw [htext] at hf
    cases hf
  | error g =>
    rw [htext] at hf
    cases hf
    exact h.text w g htext

theorem test (h : r.Promises T P) {path : FieldPath} (hpath : path.parts = [] → P (.fault .emptyPath))
    (compares : Bool) (operand : Scalar) :
    Obeys T P Machine.cursors (Renderer.test path compares operand) m :=
  .bind (h.resolve hpath) fun _ _ _ => .pure _

end Promises

end Renderer

end Parts

/-! ## Runs -/

theorem mem_of_nodeAt? {nodes : Array Node} {pc : Int} {node : Node} (h : nodeAt? nodes pc = some node) :
    node ∈ nodes := by
  obtain ⟨place, -, hplace⟩ := Option.bind_eq_some_iff.mp h
  exact Array.mem_of_getElem? hplace

/-- **A run changes the iterators and fails as its filters, paths and texts may.** Over blocks that pair up
it neither runs out of fuel nor leaves the nodes. -/
theorem Renderer.run_obeys {T : Taking} {P : Failure → Prop} {r : Renderer} {nodes : Array Node}
    (h : r.Promises T P) (hnodes : ∀ node ∈ nodes, r.Admits P node) {fuel : ℕ} {pc stop : Int}
    (hrange : InRange nodes fuel pc stop ∨ P (.fault .tooDeep) ∧ P (.fault .indexRange)) (m : Machine) :
    Obeys T P Machine.cursors (r.run nodes fuel pc stop) m := by
  induction fuel generalizing pc stop m with
  | zero =>
    obtain hin | ⟨hdeep, -⟩ := hrange
    · exact hin.not_starved.elim
    · exact .throw hdeep
  | succ fuel ih =>
    rw [run]
    split_ifs with hlt
    · have hnext : InRange nodes fuel (pc + 1) stop ∨ P (.fault .tooDeep) ∧ P (.fault .indexRange) :=
        hrange.imp_left (·.next hlt)
      cases hnode : nodeAt? nodes pc with
      | none =>
        obtain hin | ⟨-, hrange⟩ := hrange
        · obtain ⟨node, hsome⟩ := hin.exists_node hlt
          rw [hsome] at hnode
          cases hnode
        · exact .throw hrange
      | some node =>
        have hadmits := hnodes node (mem_of_nodeAt? hnode)
        cases node with
        | text s => exact .bind (Render.emit_obeys (.text s)) fun _ m₁ _ => ih hnext m₁
        | echo path filters escaped =>
          have hpath := hadmits.path path List.mem_cons_self
          refine .bind (h.echo hpath hadmits.filters hadmits.slots escaped) fun text m₁ _ => ?_
          exact .bind (Render.emit_obeys text) fun _ m₂ _ => ih hnext m₂
        | cond path close compares operand =>
          have hpath := hadmits.path path List.mem_cons_self
          have hbody := hrange.imp_left (·.body hnode rfl)
          have hrest := hrange.imp_left (·.rest hnode rfl)
          refine .bind (h.test hpath compares operand) fun holds m₁ _ => ?_
          cases holds with
          | true => exact .bind (ih hbody m₁) fun _ m₂ _ => ih hrest m₂
          | false => exact ih hrest m₁
        | loop path close =>
          have hpath := hadmits.path path List.mem_cons_self
          have hbody := hrange.imp_left (·.body hnode rfl)
          have hrest := hrange.imp_left (·.rest hnode rfl)
          exact .bind (h.loop hpath (ih hbody)) fun _ m₁ _ => ih hrest m₁
        | close opener => exact ih hnext m
    · exact .pure ()

end Gabarit
