import Gabarit.Proofs.Block.Draft
import Gabarit.Proofs.Render.Meaning
import Gabarit.Render.Run

/-!
# Programs write what their trees mean

* `Agrees`: a run writes the text of an action, or fails like it;
* `Agrees.andThen`: one run after another;
* `gives_echo`, `gives_test`, `agrees_each_known`, `agrees_each_cursor`: the parts of a run;
* `agrees_run`, `Renderer.execute_link`: a run over the linked nodes of a tree;
* **`execute_eq_result`**: a compiled program has the result of the tree that its source is read as.
-/

namespace Gabarit

/-- The run of a program ends like an action: it has written the text after what was written before, or
has failed likewise, and the iterators are left alike. It ends in a context of the given kind. -/
inductive Agrees (P : Context → Prop) (before : List Rendered) :
    EStateM.Result Failure Cursors Rendered → EStateM.Result Failure Machine Unit → Prop
  | ok {s : Rendered} {m : Machine} : P m.context →
    Rendered.join m.written.reverse = Rendered.join before.reverse ++ s →
    Agrees P before (.ok s m.cursors) (.ok () m)
  | error {f : Failure} {m : Machine} : P m.context → Agrees P before (.error f m.cursors) (.error f m)

namespace Agrees

variable {P Q : Context → Prop} {before : List Rendered}

theorem andThen {a b : Action Rendered} {x y : Render Unit} {m : Machine} {cursors : Cursors}
    (hx : Agrees P m.written (a cursors) (x m)) (hPQ : ∀ c, P c → Q c)
    (hy : ∀ m', P m'.context → Agrees Q m'.written (b m'.cursors) (y m')) :
    Agrees Q m.written (a.andThen b cursors) ((x >>= fun _ => y) m) := by
  rw [Action.andThen, EStateM.bind_apply, EStateM.bind_apply]
  generalize a cursors = ra at hx
  generalize x m = rx at hx
  cases hx with
  | error hc => exact .error (hPQ _ hc)
  | @ok s m' hc hs =>
    have h := hy m' hc
    dsimp only
    rw [EStateM.bind_apply]
    generalize b m'.cursors = rb at h
    generalize y m' = ry at h
    cases h with
    | error hc' => exact .error hc'
    | ok hc' hs' => exact .ok hc' (by rw [hs', hs, Rendered.append_assoc])

end Agrees

/-! ## Interpolations and conditions -/

namespace Render

/-- A part of a run that gives a value agrees with an action: it leaves all but the iterators alone. -/
def Gives {α : Type} (a : Action α) (x : Render α) (m : Machine) : Prop :=
  x m = match a m.cursors with
    | .ok v cursors => .ok v { m with cursors }
    | .error f cursors => .error f { m with cursors }

namespace Gives

variable {α β : Type}

theorem ofExcept (r : Except Failure α) (m : Machine) :
    Gives (Action.ofResult r) (Render.ofExcept r) m := by
  cases r <;> rfl

theorem bind {a : Action α} {x : Render α} {m : Machine} {f : α → Action β} {g : α → Render β}
    (h : Gives a x m) (hf : ∀ v cursors, Gives (f v) (g v) { m with cursors }) :
    Gives (a >>= f) (x >>= g) m := by
  rw [Gives, EStateM.bind_apply, EStateM.bind_apply, h]
  cases a m.cursors with
  | ok v cursors => exact hf v cursors
  | error e cursors => rfl

theorem ofAction (name : String) (action : Action α) (m : Machine) :
    Gives (action.mapFailure (filterFailure name)) (Render.ofAction name action) m := by
  unfold Gives Render.ofAction Action.mapFailure
  cases action m.cursors <;> rfl

theorem pure (v : α) (m : Machine) : Gives (pure v) (pure v) m := rfl

theorem resolve (path : FieldPath) (m : Machine) :
    Gives (Action.ofResult (m.context.resolve path)) (Render.resolve path) m := by
  rw [Gives, Render.resolve, EStateM.bind_apply]
  exact ofExcept (m.context.resolve path) m

end Gives

end Render

open Render

theorem gives_pipe (r : Renderer) (calls : List FilterCall) (v : Value) (m : Machine) :
    Gives (calls.foldlM r.filtered v) (r.pipe calls v) m := by
  induction calls generalizing v m with
  | nil => exact .pure v m
  | cons call calls ih =>
    rw [List.foldlM_cons, Renderer.pipe, Renderer.filtered, bind_assoc]
    refine .bind (.ofExcept _ m) fun f cursors => ?_
    rw [bind_assoc]
    refine .bind (.ofExcept _ _) fun args cursors => ?_
    exact .bind (.ofAction call.name _ _) fun w cursors => ih w _

theorem gives_echo (r : Renderer) (path : FieldPath) (calls : List FilterCall) (escape : Bool)
    (m : Machine) :
    Gives (r.interpolation path calls escape m.context) (r.echo path calls escape) m := by
  refine .bind (.resolve path m) fun v cursors => ?_
  refine .bind (gives_pipe r calls v _) fun w cursors => ?_
  refine .bind (.ofExcept _ _) fun s cursors => .pure _ _

theorem gives_test (path : FieldPath) (compares : Bool) (operand : Scalar) (m : Machine) :
    Gives (Renderer.holds path compares operand m.context) (Renderer.test path compares operand) m :=
  .bind (.resolve path m) fun _ _ => .pure _ _

/-- A run that goes on with what a part of it gives. -/
theorem Agrees.bind {α : Type} {P : Context → Prop} {a : Action α} {x : Render α} {m : Machine}
    {f : α → Action Rendered} {g : α → Render Unit} (h : Gives a x m) (hc : P m.context)
    (hf : ∀ v cursors, Agrees P m.written (f v cursors) (g v { m with cursors })) :
    Agrees P m.written ((a >>= f) m.cursors) ((x >>= g) m) := by
  rw [EStateM.bind_apply, EStateM.bind_apply, h]
  cases a m.cursors with
  | error e cursors => exact .error (m := { m with cursors }) hc
  | ok v cursors => exact hf v cursors

theorem Agrees.emit (s : Rendered) (m : Machine) :
    Agrees (· = m.context) m.written (.ok s m.cursors) (Render.emit s m) := by
  refine .ok (m := { m with written := s :: m.written }) rfl ?_
  rw [List.reverse_cons, Rendered.join_append, Rendered.join_singleton]

/-! ## Loops -/

/-- Taking the items gives the members, one after the other. -/
def Items.Yields : Items → List (Value × Value) → Prop
  | items, [] => ∀ m, items.next m = .ok none m
  | items, (index, value) :: ms =>
    ∃ rest, (∀ m, items.next m = .ok (some (index, value, rest)) m) ∧ Yields rest ms

namespace Items

theorem yields_entries (es : List (Value × Value)) : (entries es).Yields es := by
  induction es with
  | nil => exact fun _ => rfl
  | cons e es ih => exact ⟨.entries es, fun _ => rfl, ih⟩

theorem yields_items (xs : List Value) (index : ℕ) :
    (Items.numbered index (.items xs)).Yields ((xs.zipIdx index).map fun (x, i) => (.int i, x)) := by
  induction xs generalizing index with
  | nil => exact fun _ => rfl
  | cons x xs ih => exact ⟨.numbered (index + 1) (.items xs), fun _ => rfl, ih (index + 1)⟩

theorem yields_numbers (start step : Int) (count index : ℕ) :
    (Items.numbered index (.numbers start step count)).Yields
      ((((List.range count).map fun i : ℕ => Value.int (start + i * step)).zipIdx index).map
        fun (x, i) => (.int i, x)) := by
  induction count generalizing start index with
  | zero => exact fun _ => rfl
  | succ count ih =>
    have hstep (i : ℕ) : start + (i + 1 : ℕ) * step = start + step + i * step := by
      rw [Int.natCast_add, Int.add_mul]
      omega
    rw [List.range_succ_eq_map, List.map_cons, List.zipIdx_cons, List.map_cons, List.map_map]
    refine ⟨.numbered (index + 1) (.numbers (start + step) step count), fun _ => ?_, ?_⟩
    · rw [Int.natCast_zero, Int.zero_mul, Int.add_zero]
      rfl
    · simpa only [Function.comp_def, Nat.succ_eq_add_one, hstep] using ih (start + step) (index + 1)

end Items

/-- What a loop takes its items from is what its value is said to hold. -/
inductive Describes : Except Failure Items → Except Failure Members → Prop
  | known {items : Items} {ms : List (Value × Value)} : items.Yields ms →
    (∀ cursors, items.bound cursors = ms.length) → Describes (.ok items) (.ok (.known ms))
  | cursor (id : ℕ) : Describes (.ok (.numbered 0 (.cursor id))) (.ok (.cursor id))
  | broken (f : Fault) : Describes (.ok (.numbered 0 (.broken f))) (.error (.fault f))
  | refused (f : Failure) : Describes (.error f) (.error f)

theorem describes_members (expr : String) (v : Value) :
    Describes (Items.ofValue expr v) (v.members expr) := by
  have hitems (xs : List Value) :
      Describes (.ok (.numbered 0 (.items xs))) (.ok (.known (numbered xs))) :=
    .known (Items.yields_items xs 0) fun _ => by simp [numbered, Items.bound, Source.bound]
  cases v with
  | list xs => exact hitems xs
  | tuple xs => exact hitems xs
  | set xs => exact hitems xs
  | bytearray bs => exact hitems _
  | dict es | defaulting es fallback => exact .known (Items.yields_entries es) fun _ => rfl
  | range start stop step =>
    refine .known (Items.yields_numbers start step _ 0) fun _ => ?_
    simp [numbered, Items.bound, Source.bound]
  | cursor id => exact .cursor id
  | keyed entries => exact .broken _
  | _ => exact .refused _

/-- The context is that around a loop under the scope of the loop, in which nothing or an item is
bound. -/
def Context.Inner (c d : Context) : Prop :=
  d = c.push ∨ ∃ index value, d = c.within index value

namespace Context.Inner

variable {c d : Context}

theorem bind (h : Inner c d) (index value : Value) :
    (d.bind loopIndex index).bind loopValue value = c.within index value := by
  obtain rfl | ⟨i, v, rfl⟩ := h
  · simp [Context.bind, push, within, Scope.set, loopIndex, loopValue]
  · simp [Context.bind, within, Scope.set, loopIndex, loopValue]

theorem pop (h : Inner c d) : d.pop = c := by
  obtain rfl | ⟨i, v, rfl⟩ := h <;> rfl

end Context.Inner

variable {c : Context} {body : Render Unit} {text : Value → Value → Action Rendered}

/-- The body of a loop agrees with a text for every item. -/
def BodyAgrees (c : Context) (body : Render Unit) (text : Value → Value → Action Rendered) : Prop :=
  ∀ index value (m : Machine), m.context = c.within index value →
    Agrees (· = c.within index value) m.written (text index value m.cursors) (body m)

/-- One round of a loop, from taking the item on. -/
theorem Agrees.round (hb : BodyAgrees c body text) {more : Action Rendered} {again : Render Unit}
    (hm : ∀ m', c.Inner m'.context → Agrees c.Inner m'.written (more m'.cursors) (again m'))
    {m : Machine} (hc : c.Inner m.context) (index value : Value) :
    Agrees c.Inner m.written ((text index value).andThen more m.cursors)
      ((do bindItem index value; body; again : Render Unit) m) := by
  have hin {d : Context} (hd : d = c.within index value) : c.Inner d := .inr ⟨index, value, hd⟩
  let m' : Machine :=
    { m with context := (m.context.bind loopIndex index).bind loopValue value }
  change Agrees c.Inner m'.written _ ((body >>= fun _ => again) m')
  exact Agrees.andThen (hb index value m' (hc.bind index value)) (fun _ => hin)
    fun m' hm' => hm m' (hin hm')

theorem agrees_each_known (hb : BodyAgrees c body text) {items : Items} {ms : List (Value × Value)}
    (h : items.Yields ms) {m : Machine} (hc : c.Inner m.context) :
    Agrees c.Inner m.written (Action.forMembers text ms m.cursors)
      (Renderer.each body ms.length items m) := by
  induction ms generalizing items m with
  | nil =>
    have hn : items.next m = .ok none m := h m
    rw [List.length_nil, Renderer.each, EStateM.bind_apply, hn]
    exact .ok hc (by simp)
  | cons member ms ih =>
    obtain ⟨index, value⟩ := member
    obtain ⟨rest, hn, hy⟩ := h
    rw [List.length_cons, Renderer.each, EStateM.bind_apply, hn m]
    exact Agrees.round hb (fun m' hm' => ih hy hm') hc index value

theorem agrees_each_cursor (hb : BodyAgrees c body text) (id count index : ℕ) {m : Machine}
    (hc : c.Inner m.context) :
    Agrees c.Inner m.written (Action.forTaken text id count index m.cursors)
      (Renderer.each body count (.numbered index (.cursor id)) m) := by
  induction count generalizing index m with
  | zero =>
    rw [Renderer.each, Action.forTaken, EStateM.bind_apply, EStateM.bind_apply, EStateM.get_apply, Items.next,
      EStateM.bind_apply, EStateM.get_apply]
    cases hx : m.cursors[id]?.getD [] with
    | nil =>
      simp only [Source.next, hx]
      exact .ok hc (by simp)
    | cons x xs =>
      simp only [Source.next, hx]
      exact .error (m := { m with cursors := m.cursors.set id xs }) hc
  | succ count ih =>
    cases hx : m.cursors[id]?.getD [] with
    | nil =>
      have hn : (Items.numbered index (.cursor id)).next m = .ok none m := by
        simp only [Items.next, EStateM.bind_apply, EStateM.get_apply, Source.next, hx]
        rfl
      have ht : Action.forTaken text id (count + 1) index m.cursors = .ok (.text "") m.cursors := by
        simp only [Action.forTaken, EStateM.bind_apply, EStateM.get_apply, hx]
        rfl
      rw [Renderer.each, EStateM.bind_apply, hn, ht]
      exact .ok hc (by simp)
    | cons x xs =>
      have hn : (Items.numbered index (.cursor id)).next m =
          .ok (some (.int index, x, .numbered (index + 1) (.cursor id)))
            { m with cursors := m.cursors.set id xs } := by
        simp only [Items.next, EStateM.bind_apply, EStateM.get_apply, Source.next, hx]
        rfl
      have ht : Action.forTaken text id (count + 1) index m.cursors =
          (text (.int index) x).andThen (Action.forTaken text id count (index + 1))
            (m.cursors.set id xs) := by
        simp only [Action.forTaken, EStateM.bind_apply, EStateM.get_apply, hx]
        rfl
      rw [Renderer.each, EStateM.bind_apply, hn, ht]
      exact Agrees.round hb (m := { m with cursors := m.cursors.set id xs })
        (fun m' hm' => ih (index + 1) hm') hc (.int index) x

theorem Agrees.inScope {a : EStateM.Result Failure Cursors Rendered} {x : Render Unit} {m : Machine}
    (h : Agrees m.context.Inner m.written a (x { m with context := m.context.push })) :
    Agrees (· = m.context) m.written a (Render.inScope x m) := by
  unfold Render.inScope
  generalize x { m with context := m.context.push } = b at h
  cases h with
  | @ok s m' hc hs => exact .ok (m := closeScope m') hc.pop hs
  | @error f m' hc => exact .error (m := closeScope m') hc.pop

theorem agrees_loop (path : FieldPath) {m : Machine} (hb : BodyAgrees m.context body text) :
    Agrees (· = m.context) m.written (Action.forItems path m.context text m.cursors)
      (Renderer.loop path body m) := by
  refine .bind (.resolve path m) rfl fun v cursors => ?_
  have hd := describes_members path.expr v
  generalize Items.ofValue path.expr v = items at hd
  generalize v.members path.expr = members at hd
  have hpush : m.context.Inner m.context.push := .inl rfl
  let m' : Machine := { m with cursors }
  cases hd with
  | refused f => exact .error (m := m') rfl
  | broken f =>
    refine Agrees.inScope (a := .error (.fault f) cursors) (m := m')
      (x := do Renderer.each body 1 (.numbered 0 (.broken f))) ?_
    exact .error (m := { m' with context := m.context.push }) hpush
  | @known items ms hy hlen =>
    refine Agrees.inScope (m := m') ?_
    have h := agrees_each_known hb hy (m := { m' with context := m.context.push }) hpush
    rw [← hlen cursors] at h
    exact h
  | cursor id =>
    refine Agrees.inScope (m := m') ?_
    exact agrees_each_cursor hb id _ 0 (m := { m' with context := m.context.push }) hpush

/-! ## Runs -/

theorem nodeAt?_length {nodes : Array Node} {before after : List Node} {node : Node}
    (h : nodes.toList = before ++ node :: after) : nodeAt? nodes before.length = some node := by
  have hlt : before.length < nodes.size := by simp [← Array.length_toList, h]
  have hget : nodes[before.length]? = some node := by
    rw [← Array.getElem?_toList, h, List.getElem?_append_right le_rfl]
    simp
  have hplace : Value.place? nodes.size before.length = some before.length := by
    simp only [Value.place?, if_neg (show ¬(before.length : Int) < 0 by omega)]
    rw [if_pos (by omega), Int.toNat_natCast]
  rw [nodeAt?, hplace, Option.bind_some, hget]

theorem bind_ite_pure_bind (test : Render Bool) (x y : Render Unit) :
    ((test >>= fun holds => if holds then x else pure ()) >>= fun _ => y) =
      test >>= fun holds => if holds then x >>= fun _ => y else y := by
  rw [bind_assoc]
  congr 1
  funext holds
  cases holds <;> simp

/-- **A run over the linked nodes of a tree writes the text of the tree.** -/
theorem agrees_run (r : Renderer) (t : Tree) {nodes : Array Node} (before : List Node)
    {after : List Node} {start fuel : ℕ} {pc stop : Int} (hn : nodes.toList = before ++ (t.link start ++ after))
    (hs : before.length = start) (hpc : pc = start) (hstop : stop = start + t.size)
    (hf : t.size < fuel) (m : Machine) :
    Agrees (· = m.context) m.written (t.write r m.context m.cursors)
      (r.run nodes fuel pc stop m) := by
  induction t generalizing before after start fuel pc stop m with
  | done =>
    obtain _ | fuel := fuel
    · omega
    rw [Renderer.run, if_neg (by simp [hpc, hstop, Tree.size])]
    exact .ok rfl (by simp)
  | text s rest ih =>
    obtain _ | fuel := fuel
    · omega
    rw [Tree.size] at hstop hf
    rw [Tree.link] at hn
    rw [Renderer.run, if_pos (by omega), hpc, ← hs, nodeAt?_length hn]
    refine (Agrees.emit (.text s) m).andThen (fun _ h => h) fun m' hm' => ?_
    rw [← hm']
    exact ih (before ++ [.text s]) (by simpa using hn) (by simp [hs]) (by omega)
      (by omega) (by omega) m'
  | echo path calls escape rest ih =>
    obtain _ | fuel := fuel
    · omega
    rw [Tree.size] at hstop hf
    rw [Tree.link] at hn
    rw [Renderer.run, if_pos (by omega), hpc, ← hs, nodeAt?_length hn]
    dsimp only
    rw [← bind_assoc]
    refine Agrees.andThen (P := (· = m.context)) ?_ (fun _ h => h) fun m' hm' => ?_
    · rw [← bind_pure (r.interpolation path calls escape m.context)]
      exact .bind (gives_echo r path calls escape m) rfl fun s cursors =>
        .emit s { m with cursors }
    rw [← hm']
    exact ih (before ++ [.echo path calls escape]) (by simpa using hn) (by simp [hs])
      (by omega) (by omega) (by omega) m'
  | block header body rest ihb ihr =>
    obtain _ | fuel := fuel
    · omega
    subst hs
    rw [Tree.size] at hstop hf
    rw [Tree.link] at hn
    have hbody (m : Machine) : Agrees (· = m.context) m.written (body.write r m.context m.cursors)
        (r.run nodes fuel (before.length + 1) (before.length + 1 + body.size : ℕ) m) :=
      ihb (before ++ [header.node (before.length + 1 + body.size : ℕ)]) (by simpa using hn)
        (by simp) (by omega) (by omega) (by omega) m
    have hrest (m : Machine) : Agrees (· = m.context) m.written (rest.write r m.context m.cursors)
        (r.run nodes fuel ((before.length + 1 + body.size : ℕ) + 1) stop m) :=
      ihr (before ++ header.node (before.length + 1 + body.size : ℕ) ::
          (body.link (before.length + 1) ++ [.close before.length]))
        (by simpa using hn) (by simp; omega) (by omega) (by omega) (by omega) m
    rw [Renderer.run, if_pos (by omega), hpc, nodeAt?_length hn]
    cases header with
    | loop path =>
      refine (agrees_loop path fun index value m' hm' => ?_).andThen (fun _ h => h) fun m' hm' => ?_
      · rw [← hm']
        exact hbody m'
      · rw [← hm']
        exact hrest m'
    | cond path compares operand =>
      dsimp only [Header.node]
      rw [← bind_ite_pure_bind]
      refine Agrees.andThen (P := (· = m.context)) (.bind (gives_test path compares operand m) rfl
        fun holds cursors => ?_) (fun _ h => h) fun m' hm' => ?_
      · cases holds with
        | true => exact hbody { m with cursors }
        | false => exact .ok (m := { m with cursors }) rfl (by simp)
      · rw [← hm']
        exact hrest m'

theorem Renderer.execute_link (r : Renderer) (t : Tree) (c : Context) (cursors : Cursors) :
    r.execute ⟨(t.link 0).toArray, layoutVersion⟩ c cursors = t.result r c cursors := by
  have hn : (t.link 0).toArray.toList = [] ++ (t.link 0 ++ []) := by simp
  have hstop : ((t.link 0).toArray.size : Int) = (0 : ℕ) + t.size := by simp
  have hf : t.size < fuelFor ⟨(t.link 0).toArray, layoutVersion⟩ := by
    simp [fuelFor]
  have hrun : Agrees (· = c) [] (t.write r c cursors)
      (r.runProgram ⟨(t.link 0).toArray, layoutVersion⟩ { context := c, cursors }) :=
    agrees_run r t [] hn rfl rfl hstop hf { context := c, cursors }
  rw [execute, Tree.result]
  generalize t.write r c cursors = a at hrun
  generalize r.runProgram _ _ = b at hrun
  cases hrun with
  | ok hc hs =>
    subst hc
    simp [hs]
  | error hc =>
    subst hc
    rfl

/-- **Executing what a source compiles to has the result of the one tree that the source is read as, with
any filters, charset, quotes and data: the same text or the same failure, and the context and the
iterators are left alike.** -/
theorem execute_eq_result {filters : Registry} {source : String} {name : Option String} {p : Program}
    (h : compile filters source name = .ok p) :
    ∃ t : Tree, ReadAs filters source t.tags ∧ (∀ u : Tree, ReadAs filters source u.tags → u = t) ∧
      ∀ (r : Renderer) (c : Context) (cursors : Cursors),
        r.execute p c cursors = t.result r c cursors := by
  obtain ⟨t, ht, rfl⟩ := compile_eq_ok_iff.mp h
  exact ⟨t, ht, fun u hu => Tree.tags_injective (hu.unique ht), fun r c cursors => r.execute_link t c cursors⟩

/-- The program of a loop over one field has the result of its tree. -/
theorem execute_eq_result_loop :
    ∃ p, compile .empty
        "\x7b% foreach xs %\x7d\x7b\x7b loop_value \x7d\x7d, \x7b% end %\x7d" = .ok p ∧
      ∃ t : Tree, ∀ (r : Renderer) (c : Context) (cursors : Cursors),
        r.execute p c cursors = t.result r c cursors := by
  have h : compile .empty
      "\x7b% foreach xs %\x7d\x7b\x7b loop_value \x7d\x7d, \x7b% end %\x7d" =
      .ok ⟨#[.loop ⟨"xs", [.name "xs"]⟩ 3, .echo ⟨"loop_value", [.name "loop_value"]⟩ [] true,
        .text ", ", .close 0], 1⟩ := rfl
  obtain ⟨t, -, -, ht⟩ := execute_eq_result h
  exact ⟨_, h, t, ht⟩

end Gabarit
