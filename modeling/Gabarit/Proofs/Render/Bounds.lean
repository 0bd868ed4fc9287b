import Gabarit.Proofs.Render.Effects
import Gabarit.Proofs.Render.Simulation
import Gabarit.Proofs.Render.Watched

/-!
# Runs stay in bounds

Blocks that pair up may cross, so that a body reaches beyond the block around it. A run over them comes to
its end all the same: each step goes forward, and the run of a body starts behind the node that opens it.

* `Call.InBounds`: a run, with the runs in it, reads nodes in its range only, always further on, and does
  not run out of fuel;
* `Registry.AddsNothing`: the filters put no items into iterators;
* `Watched.each_keeps`: then a loop ends when no item is left;
* `Renderer.watch_inBounds`: a run over blocks that pair up stays in bounds;
* `Renderer.watch_fuel`: more fuel than nodes does not matter;
* **`Renderer.run_terminates`**: each program that passes the check of links runs to an end, in bounds;
* `feedingProgram`, `Renderer.exists_endless`: a filter that puts items into an iterator keeps a loop going.
-/

namespace Gabarit

/-- A run of the first `n` nodes, and the runs in it: the indexes at which they read nodes are in their
range and increase, they do not run out of fuel, and those for bodies start further on. If it is `tame`,
their loops go through all items. -/
inductive Call.InBounds (n : ℕ) (tame : Prop) : Call → Prop
  | intro {c : Call} (low : 0 ≤ c.start) (ordered : c.start ≤ c.stop) (high : c.stop ≤ n)
    (rising : c.visited.Pairwise (· < ·)) (within : ∀ i ∈ c.visited, c.start ≤ i ∧ i < c.stop)
    (fed : c.starved = false) (whole : tame → c.cut = false)
    (further : ∀ b ∈ c.calls, c.start < b.start) (calls : ∀ b ∈ c.calls, b.InBounds n tame) :
    InBounds n tame c

/-- The filters put no items into iterators. -/
def Registry.AddsNothing (r : Registry) : Prop := r.Obeys .only fun _ => True

theorem Registry.standard_addsNothing : Registry.standard.AddsNothing := by
  intro name f hfind args s
  exact (Registry.standard_obeys .only name f hfind args s).mono fun _ _ => trivial

theorem Renderer.run_only {r : Renderer} (h : r.filters.AddsNothing) (nodes : Array Node) (fuel : ℕ)
    (pc stop : Int) (m : Machine) :
    Taking.only.leaves m.cursors (stateAfter (r.run nodes fuel pc stop m)).cursors := by
  have hpromises : r.Promises .only fun _ => True :=
    ⟨fun _ _ => trivial, fun _ _ => trivial, fun _ _ _ => trivial, trivial, fun _ _ _ => trivial,
      fun _ _ => trivial, h⟩
  have hnodes (node : Node) (_ : node ∈ nodes) : r.Admits (fun _ => True) node :=
    ⟨fun _ _ _ => trivial, fun _ _ _ => trivial, fun _ _ _ => trivial⟩
  exact (run_obeys hpromises hnodes (.inr ⟨trivial, trivial⟩) m).1

/-! ## Loops -/

namespace Items

variable {items rest : Items} {index value : Value} {m m' : Machine}

theorem bound_le {c c' : Cursors} (h : Taking.only.leaves c c') (items : Items) :
    items.bound c' ≤ items.bound c := by
  cases items with
  | entries es => exact le_rfl
  | numbered index source =>
    cases source with
    | cursor id => exact Taking.only_length_le h id
    | items xs => exact le_rfl
    | numbers start step count => exact le_rfl
    | broken f => exact le_rfl

theorem not_areLeft (h : items.bound m.cursors = 0) : items.areLeft m = false := by
  cases items with
  | entries es =>
    obtain rfl := List.length_eq_zero_iff.mp h
    rfl
  | numbered index source =>
    cases source with
    | items xs =>
      obtain rfl := List.length_eq_zero_iff.mp h
      rfl
    | numbers start step count =>
      obtain rfl : count = 0 := h
      rfl
    | cursor id =>
      have hnil : m.cursors[id]?.getD [] = [] := List.length_eq_zero_iff.mp h
      have hnext : (Items.numbered index (.cursor id)).next m = .ok none m := by
        simp only [next, EStateM.bind_apply, EStateM.get_apply, Source.next, hnil]
        rfl
      rw [areLeft, hnext]
    | broken f => cases h

theorem bound_rest (h : items.next m = .ok (some (index, value, rest)) m') :
    rest.bound m'.cursors + 1 = items.bound m.cursors := by
  cases items with
  | entries es =>
    cases es with
    | nil => cases h
    | cons e es =>
      cases h
      rfl
  | numbered k source =>
    obtain ⟨_, _, hget, h⟩ := EStateM.bind_eq_ok.mp h
    cases hget
    cases source with
    | items xs =>
      cases xs <;> cases h
      rfl
    | numbers start step count =>
      cases count <;> cases h
      rfl
    | broken f => cases h
    | cursor id =>
      cases hid : m.cursors[id]?.getD [] with
      | nil =>
        simp only [Source.next, hid] at h
        cases h
      | cons x xs =>
        have hlt : id < m.cursors.length := by
          by_contra hge
          rw [List.getElem?_eq_none (by omega)] at hid
          cases hid
        simp only [Source.next, hid] at h
        cases h
        simp only [bound, Source.bound, hid, List.getElem?_set_self hlt, Option.getD_some, List.length_cons]

end Items

namespace Watched

variable {I : Call → Prop} {tame : Prop} {body : Watched Unit}

theorem call_lift {α : Type} (x : Render α) (s : Machine × Call) : (stateAfter (lift x s)).2 = s.2 := by
  unfold lift
  cases x s.1 <;> rfl

theorem lift_bind {α β : Type} {x : Render α} {f : α → Watched β} {s : Machine × Call} (hs : I s.2)
    (hf : ∀ a m, x s.1 = .ok a m → I (stateAfter (f a (m, s.2))).2) :
    I (stateAfter ((lift x >>= f) s)).2 := by
  refine stateAfter_bind (P := fun s : Machine × Call => I s.2) ?_ fun a s' hx _ => ?_
  · rwa [call_lift]
  · unfold lift at hx
    cases hxs : x s.1 with
    | ok b m =>
      rw [hxs] at hx
      cases hx
      exact hf _ _ hxs
    | error f m =>
      rw [hxs] at hx
      cases hx

/-- What a body keeps of the notes is kept by a loop. If the body only takes items from iterators, the loop
goes on until none is left. -/
theorem each_keeps (hcut : ∀ c, ¬tame → I c → I c.cutShort) (hb : ∀ s, I s.2 → I (stateAfter (body s)).2)
    (honly : tame → ∀ s, Taking.only.leaves s.1.cursors (stateAfter (body s)).1.cursors) (fuel : ℕ)
    (items : Items) (s : Machine × Call) (hfuel : tame → items.bound s.1.cursors ≤ fuel) (hs : I s.2) :
    I (stateAfter (each body fuel items s)).2 := by
  induction fuel generalizing items s with
  | zero =>
    have hnoted : I (if items.areLeft s.1 then s.2.cutShort else s.2) := by
      split_ifs with hleft
      · refine hcut s.2 (fun htame => ?_) hs
        have hnone : items.bound s.1.cursors = 0 := by
          have := hfuel htame
          omega
        rw [Items.not_areLeft hnone] at hleft
        cases hleft
      · exact hs
    refine lift_bind (s := (s.1, if items.areLeft s.1 then s.2.cutShort else s.2)) hnoted fun next m _ => ?_
    cases next <;> exact hnoted
  | succ fuel ih =>
    refine lift_bind hs fun next m hnext => ?_
    cases next with
    | none => exact hs
    | some next =>
      obtain ⟨index, value, rest⟩ := next
      refine lift_bind hs fun _ m₁ hm₁ => ?_
      refine stateAfter_bind (P := fun s : Machine × Call => I s.2) (hb (m₁, s.2) hs) fun _ s' hbody hs' => ?_
      refine ih rest s' (fun htame => ?_) hs'
      have hbound := hfuel htame
      have hrest := Items.bound_rest hnext
      have hleaves := honly htame (m₁, s.2)
      rw [hbody] at hleaves
      have hcursors : m₁.cursors = m.cursors := by
        cases hm₁
        rfl
      have hle := Items.bound_le hleaves rest
      rw [hcursors] at hle
      change rest.bound s'.1.cursors ≤ fuel
      change rest.bound s'.1.cursors ≤ _ at hle
      omega

theorem inScope_keeps {s : Machine × Call}
    (h : I (stateAfter (body ({ s.1 with context := s.1.context.push }, s.2))).2) :
    I (stateAfter (inScope body s)).2 := by
  unfold inScope
  cases hbody : body ({ s.1 with context := s.1.context.push }, s.2) <;> rwa [hbody] at h

theorem loop_keeps (hcut : ∀ c, ¬tame → I c → I c.cutShort) (hb : ∀ s, I s.2 → I (stateAfter (body s)).2)
    (honly : tame → ∀ s, Taking.only.leaves s.1.cursors (stateAfter (body s)).1.cursors)
    (path : FieldPath) {s : Machine × Call} (hs : I s.2) : I (stateAfter (loop path body s)).2 := by
  refine lift_bind hs fun v m _ => lift_bind hs fun items m₁ _ => inScope_keeps ?_
  exact each_keeps hcut hb honly _ items _ (fun _ => le_rfl) hs

end Watched

/-! ## Runs -/

namespace Call

variable {n : ℕ} {tame : Prop} {b c : Call}

theorem InBounds.visit (h : c.InBounds n tame) {pc : Int} (hstart : c.start ≤ pc) (hstop : pc < c.stop)
    (hbefore : ∀ i ∈ c.visited, i < pc) : (c.visit pc).InBounds n tame := by
  obtain ⟨low, ordered, high, rising, within, fed, whole, further, calls⟩ := h
  refine ⟨low, ordered, high, ?_, ?_, fed, whole, further, calls⟩
  · refine List.pairwise_append.mpr ⟨rising, List.pairwise_singleton _ _, fun i hi j hj => ?_⟩
    rw [List.mem_singleton.mp hj]
    exact hbefore i hi
  · intro i hi
    obtain hi | hi := List.mem_append.mp hi
    · exact within i hi
    · rw [List.mem_singleton.mp hi]
      exact ⟨hstart, hstop⟩

theorem InBounds.add (h : c.InBounds n tame) (hb : b.InBounds n tame) (hlt : c.start < b.start) :
    (c.add b).InBounds n tame := by
  obtain ⟨low, ordered, high, rising, within, fed, whole, further, calls⟩ := h
  refine ⟨low, ordered, high, rising, within, fed, whole, ?_, ?_⟩
  · intro b' hb'
    obtain hb' | hb' := List.mem_append.mp hb'
    · exact further b' hb'
    · rwa [List.mem_singleton.mp hb']
  · intro b' hb'
    obtain hb' | hb' := List.mem_append.mp hb'
    · exact calls b' hb'
    · rwa [List.mem_singleton.mp hb']

theorem InBounds.cutShort (h : c.InBounds n tame) (htame : ¬tame) : c.cutShort.InBounds n tame := by
  obtain ⟨low, ordered, high, rising, within, fed, whole, further, calls⟩ := h
  exact ⟨low, ordered, high, rising, within, fed, fun h => absurd h htame, further, calls⟩

theorem InBounds.fresh {start stop : Int} (low : 0 ≤ start) (ordered : start ≤ stop) (high : stop ≤ n) :
    InBounds n tame { start, stop } :=
  ⟨low, ordered, high, .nil, nofun, rfl, fun _ => rfl, nofun, nofun⟩

/-- A run from `start` up to `stop` that is in bounds. -/
structure Stays (n : ℕ) (tame : Prop) (start stop : Int) (c : Call) : Prop where
  inBounds : c.InBounds n tame
  start : c.start = start
  stop : c.stop = stop

/-- It has read nodes before `pc` only. -/
structure Reaches (n : ℕ) (tame : Prop) (start stop pc : Int) (c : Call) : Prop extends
    c.Stays n tame start stop where
  before : ∀ i ∈ c.visited, i < pc

end Call

namespace Call.Reaches

variable {n : ℕ} {tame : Prop} {start stop pc pc' : Int} {b c : Call}

theorem fresh (low : 0 ≤ start) (ordered : start ≤ stop) (high : stop ≤ n) :
    Reaches n tame start stop pc { start, stop } :=
  ⟨⟨.fresh low ordered high, rfl, rfl⟩, nofun⟩

theorem mono (h : c.Reaches n tame start stop pc) (hle : pc ≤ pc') : c.Reaches n tame start stop pc' :=
  { h with before := fun i hi => Int.lt_of_lt_of_le (h.before i hi) hle }

theorem visit (h : c.Reaches n tame start stop pc) (hstart : start ≤ pc) (hstop : pc < stop) :
    (c.visit pc).Reaches n tame start stop (pc + 1) where
  inBounds := h.inBounds.visit (h.start ▸ hstart) (h.stop ▸ hstop) h.before
  start := h.start
  stop := h.stop
  before i hi := by
    obtain hi | hi := List.mem_append.mp hi
    · have := h.before i hi
      omega
    · rw [List.mem_singleton.mp hi]
      omega

theorem add (h : c.Reaches n tame start stop pc) (hb : b.InBounds n tame) (hlt : start < b.start) :
    (c.add b).Reaches n tame start stop pc :=
  ⟨⟨h.inBounds.add hb (h.start ▸ hlt), h.start, h.stop⟩, h.before⟩

theorem cutShort (h : c.Reaches n tame start stop pc) (htame : ¬tame) :
    c.cutShort.Reaches n tame start stop pc :=
  ⟨⟨h.inBounds.cutShort htame, h.start, h.stop⟩, h.before⟩

end Call.Reaches

theorem Watched.note_bind {α : Type} (change : Call → Call) (f : Unit → Watched α) (s : Machine × Call) :
    (note change >>= f) s = f () (s.1, change s.2) := rfl

theorem Watched.state_calling (start stop : Int) (body : Watched Unit) (s : Machine × Call) :
    stateAfter (calling start stop body s) = ((stateAfter (body (s.1, { start, stop }))).1,
      s.2.add (stateAfter (body (s.1, { start, stop }))).2) := by
  unfold calling
  cases body (s.1, { start, stop }) <;> rfl

namespace Renderer

variable {r : Renderer} {nodes : Array Node}

theorem machine_watch (fuel : ℕ) (pc stop : Int) (s : Machine × Call) :
    (stateAfter (r.watch nodes fuel pc stop s)).1 = stateAfter (r.run nodes fuel pc stop s.1) := by
  rw [← watch_erases r nodes fuel pc stop s]
  cases r.watch nodes fuel pc stop s <;> rfl

/-- **A run over blocks that pair up stays in bounds**, and so do the runs in it. -/
theorem watch_inBounds {fuel : ℕ} {start stop pc : Int} (hrange : InRange nodes fuel pc stop)
    (hstart : start ≤ pc) {s : Machine × Call}
    (hs : s.2.Reaches nodes.size r.filters.AddsNothing start stop pc) :
    (stateAfter (r.watch nodes fuel pc stop s)).2.Stays nodes.size r.filters.AddsNothing start stop := by
  induction fuel generalizing start stop pc s with
  | zero => exact hrange.not_starved.elim
  | succ fuel ih =>
    rw [watch]
    split_ifs with hlt
    · -- the node at `pc` is read, and what comes next is further on
      have hvisit := hs.visit hstart hlt
      obtain ⟨node, hnode⟩ := hrange.exists_node hlt
      have hnext (s' : Machine × Call)
          (hs' : s'.2.Reaches nodes.size r.filters.AddsNothing start stop (pc + 1)) :=
        ih (hrange.next hlt) (Int.le_add_one hstart) hs'
      -- a body starts at `pc + 1`, and is another run
      have hbody {close : Int} (hclose : node.close? = some close) (s' : Machine × Call)
          (hs' : s'.2.Reaches nodes.size r.filters.AddsNothing start stop (pc + 1)) :
          (stateAfter (Watched.calling (pc + 1) close (r.watch nodes fuel (pc + 1) close) s')).2.Reaches
            nodes.size r.filters.AddsNothing start stop (pc + 1) := by
        have hinner := hrange.body hnode hclose
        have htarget := hrange.lt_target hnode hclose
        have hcall : (stateAfter (r.watch nodes fuel (pc + 1) close
            (s'.1, { start := pc + 1, stop := close }))).2.Stays nodes.size r.filters.AddsNothing (pc + 1)
            close := ih hinner (Int.le_refl _) (.fresh hinner.low (by omega) hinner.high)
        rw [Watched.state_calling]
        refine hs'.add hcall.inBounds ?_
        rw [hcall.start]
        omega
      have hrest {close : Int} (hclose : node.close? = some close) (s' : Machine × Call)
          (hs' : s'.2.Reaches nodes.size r.filters.AddsNothing start stop (pc + 1)) := by
        have htarget := hrange.lt_target hnode hclose
        exact ih (hrange.rest hnode hclose) (by omega) (hs'.mono (by omega : pc + 1 ≤ close + 1))
      rw [Watched.note_bind, hnode]
      cases node with
      | text text => exact Watched.lift_bind hvisit.toStays fun _ m _ => hnext (m, _) hvisit
      | echo path filters escaped =>
        refine Watched.lift_bind hvisit.toStays fun text m _ => ?_
        exact Watched.lift_bind hvisit.toStays fun _ m _ => hnext (m, _) hvisit
      | cond path close compares operand =>
        refine Watched.lift_bind hvisit.toStays fun holds m _ => ?_
        cases holds with
        | false => exact hrest rfl (m, _) hvisit
        | true =>
          have hcall := hbody rfl (m, s.2.visit pc) hvisit
          refine stateAfter_bind (P := fun s' : Machine × Call =>
            s'.2.Stays nodes.size r.filters.AddsNothing start stop) hcall.toStays fun _ s' hs' _ => ?_
          rw [hs'] at hcall
          exact hrest rfl s' hcall
      | loop path close =>
        have hloop := Watched.loop_keeps (fun c htame hc => hc.cutShort htame) (hbody rfl)
          (fun htame s' => ?_) path (s := (s.1, s.2.visit pc)) hvisit
        refine stateAfter_bind (P := fun s' : Machine × Call =>
            s'.2.Stays nodes.size r.filters.AddsNothing start stop) hloop.toStays fun _ s' hs' _ => ?_
        · rw [hs'] at hloop
          exact hrest rfl s' hloop
        · rw [Watched.state_calling, machine_watch]
          exact run_only htame nodes fuel (pc + 1) close s'.1
      | close opener => exact hnext _ hvisit
    · exact hs.toStays

theorem watch_fuel {fuel fuel' : ℕ} {pc stop : Int} (hrange : InRange nodes fuel pc stop)
    (hrange' : InRange nodes fuel' pc stop) : r.watch nodes fuel pc stop = r.watch nodes fuel' pc stop := by
  induction fuel generalizing fuel' pc stop with
  | zero => exact hrange.not_starved.elim
  | succ fuel ih =>
    cases fuel' with
    | zero => exact hrange'.not_starved.elim
    | succ fuel' =>
      rw [watch, watch]
      split_ifs with hlt
      · obtain ⟨node, hnode⟩ := hrange.exists_node hlt
        have hnext := ih (hrange.next hlt) (hrange'.next hlt)
        rw [hnode]
        cases node with
        | text s => simp only [hnext]
        | echo path filters escaped => simp only [hnext]
        | cond path close compares operand =>
          have hbody := ih (hrange.body hnode rfl) (hrange'.body hnode rfl)
          have hrest := ih (hrange.rest hnode rfl) (hrange'.rest hnode rfl)
          simp only [hbody, hrest]
        | loop path close =>
          have hbody := ih (hrange.body hnode rfl) (hrange'.body hnode rfl)
          have hrest := ih (hrange.rest hnode rfl) (hrange'.rest hnode rfl)
          simp only [hbody, hrest]
        | close opener => simp only [hnext]
      · rfl

/-- A filter that leaves one item in the first one-shot iterator, and no others. -/
def feedingFilter : Filter where
  signature := none
  apply _ := do
    set [[Value.none]]
    return .str ""

/-- A loop with this filter. -/
def feedingProgram : Program :=
  ⟨#[.loop ⟨"xs", [.name "xs"]⟩ 2,
    .echo ⟨"loop_value", [.name "loop_value"]⟩ [⟨"feed", [], 0⟩] false, .close 0], 1⟩

/-- A renderer with this filter. -/
def feedingRenderer : Renderer := { filters := ⟨[("feed", feedingFilter)]⟩ }

/-- The body of the loop. -/
def feedingBody : Render Unit := feedingRenderer.run feedingProgram.nodes 1002 1 2

theorem each_feeding {c : Context} {m : Machine} (hc : c.Inner m.context) (hm : m.cursors = [[.none]])
    (rounds index : ℕ) :
    failureOf (each feedingBody rounds (.numbered index (.cursor 0)) m) = some (.fault .endless) := by
  obtain ⟨context, cursors, written⟩ := m
  cases hm
  induction rounds generalizing index context written with
  | zero => rfl
  | succ rounds ih =>
    have hround : each feedingBody (rounds + 1) (.numbered index (.cursor 0)) ⟨context, [[.none]], written⟩ =
        each feedingBody rounds (.numbered (index + 1) (.cursor 0))
          ⟨c.within (.int index) .none, [[.none]], .text "" :: written⟩ := by
      rw [← hc.bind]
      obtain rfl | ⟨i, v, rfl⟩ := hc <;> rfl
    rw [hround]
    exact ih (index + 1) _ _ (.inr ⟨_, _, rfl⟩)

/-- A block that names no closing node is run over and over, until the fuel runs out. -/
example : (stateAfter (Renderer.watch { filters := .empty }
    #[.cond ⟨"a", [.name "a"]⟩ unlinked false .null] 4 0 1
    ({ context := .ofData (.dict [(.str "a", .bool false)]), cursors := [] },
      { start := 0, stop := 1 }))).2.visited = [0, 0, 0, 0] := rfl

end Renderer

end Gabarit
