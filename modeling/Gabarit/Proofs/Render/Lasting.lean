import Gabarit.Proofs.Outcome
import Gabarit.Render.Run

/-!
# Lasting values

Values that hold no one-shot iterators, so that reading them changes nothing.

* `Value.held`: the values that a value is made of;
* `Value.Lasting`, `Context.Lasting`: no one-shot iterator is among them;
* `Value.Lasting.lookup`, `Context.Lasting.resolve`: what is found in a lasting value is lasting;
* `Source.Lasting`, `Items.Lasting`: items that come from no one-shot iterator;
* **`Items.Lasting.next`**: taking them is the same whatever is left of the one-shot iterators.
-/

namespace Gabarit

namespace Value

/-- The values that a value is made of. -/
def held : Value → List Value
  | .list xs | .tuple xs | .set xs => xs
  | .dict entries => entries.flatMap fun e => [e.1, e.2]
  | .defaulting entries fallback => fallback :: entries.flatMap fun e => [e.1, e.2]
  | .record fields | .keyed fields => fields.map Prod.snd
  | _ => []

/-- The value is no one-shot iterator, and is made of none. -/
inductive Lasting : Value → Prop
  | intro {v : Value} : (∀ id, v ≠ .cursor id) → (∀ w ∈ v.held, w.Lasting) → v.Lasting

namespace Lasting

variable {v w : Value}

theorem ne_cursor (h : v.Lasting) (id : ℕ) : v ≠ .cursor id := by
  cases h with
  | intro hv _ => exact hv id

theorem held (h : v.Lasting) : ∀ w ∈ v.held, w.Lasting := by
  cases h with
  | intro _ hheld => exact hheld

theorem of_held_eq_nil (hv : ∀ id, v ≠ .cursor id) (h : v.held = []) : v.Lasting :=
  ⟨hv, fun w hw => by rw [h] at hw; cases hw⟩

theorem str (s : String) : (Value.str s).Lasting := .of_held_eq_nil nofun rfl

theorem ofPoints (ps : List Text.Point) : (Value.ofPoints ps).Lasting := by
  unfold Value.ofPoints
  cases Text.ofPoints ps <;> exact .of_held_eq_nil nofun rfl

theorem dict {entries : List (Value × Value)} (h : ∀ e ∈ entries, e.1.Lasting ∧ e.2.Lasting) :
    (Value.dict entries).Lasting := by
  refine ⟨nofun, fun w hw => ?_⟩
  obtain ⟨e, he, hw⟩ := List.mem_flatMap.mp hw
  obtain rfl | hw := List.mem_cons.mp hw
  · exact (h e he).1
  · exact List.mem_singleton.mp hw ▸ (h e he).2

theorem entries {entries : List (Value × Value)} (h : v.Lasting) (he : v.entries? = some entries) :
    ∀ e ∈ entries, e.1.Lasting ∧ e.2.Lasting := by
  have hmem : ∀ e ∈ entries, e.1 ∈ v.held ∧ e.2 ∈ v.held := by
    cases v with
    | dict es =>
      cases he
      exact fun e he => ⟨List.mem_flatMap.mpr ⟨e, he, by simp⟩, List.mem_flatMap.mpr ⟨e, he, by simp⟩⟩
    | defaulting es fallback =>
      cases he
      exact fun e he => ⟨.tail _ (List.mem_flatMap.mpr ⟨e, he, by simp⟩),
        .tail _ (List.mem_flatMap.mpr ⟨e, he, by simp⟩)⟩
    | _ => cases he
  exact fun e he => ⟨h.held _ (hmem e he).1, h.held _ (hmem e he).2⟩

theorem find {entries : List (Value × Value)} (h : ∀ e ∈ entries, e.1.Lasting ∧ e.2.Lasting) {key : Value}
    (hw : find? key entries = some w) : w.Lasting := by
  obtain ⟨e, he, rfl⟩ := Option.map_eq_some_iff.mp hw
  exact (h e (List.mem_of_find?_eq_some he)).2

theorem field {fields : List (String × Value)} {name : String} (h : ∀ w ∈ fields.map Prod.snd, w.Lasting)
    (hw : fields.lookup name = some w) : w.Lasting := by
  obtain ⟨before, after, rfl, -⟩ := List.lookup_eq_some_iff.mp hw
  exact h w (by simp)

theorem attributes (h : v.Lasting) : ∀ w ∈ v.attributes.map Prod.snd, w.Lasting := by
  have hleaf : ∀ w ∈ v.attributes.map Prod.snd, w ∈ v.held ∨ (∀ id, w ≠ .cursor id) ∧ w.held = [] := by
    cases v with
    | record fields => exact fun w hw => .inl hw
    | timestamp t =>
      cases hoffset : t.offset <;> simp [Value.attributes, dateAttributes, Value.held, hoffset]
    | _ => simp [Value.attributes, intAttributes, dateAttributes, Value.held]
  intro w hw
  obtain hheld | ⟨hne, hnil⟩ := hleaf w hw
  · exact h.held w hheld
  · exact .of_held_eq_nil hne hnil

theorem named (h : v.Lasting) {name : String} (hw : v.named? name = some w) : w.Lasting := by
  unfold named? at hw
  split at hw
  · rename_i u hattribute
    split_ifs at hw
    cases hw
    unfold attribute? at hattribute
    cases hlookup : v.attributes.lookup name with
    | some u =>
      rw [hlookup] at hattribute
      cases hattribute
      exact field h.attributes hlookup
    | none =>
      rw [hlookup, Option.none_or] at hattribute
      split_ifs at hattribute
      cases hattribute
      exact .of_held_eq_nil nofun rfl
  · split at hw
    · exact field h.held hw
    · cases hw

theorem element (h : v.Lasting) {i : Int} (hw : v.element? i = some w) : w.Lasting := by
  have hmem {xs : List Value} (hin : (place? xs.length i).bind (xs[·]?) = some w) : w ∈ xs := by
    obtain ⟨place, -, hplace⟩ := Option.bind_eq_some_iff.mp hin
    exact List.mem_of_getElem? hplace
  unfold element? at hw
  split at hw
  · exact h.held w (hmem hw)
  · exact h.held w (hmem hw)
  · obtain ⟨b, -, rfl⟩ := Option.map_eq_some_iff.mp hw
    exact .of_held_eq_nil nofun rfl
  · obtain ⟨j, -, rfl⟩ := Option.map_eq_some_iff.mp hw
    exact .of_held_eq_nil nofun rfl
  · cases hw

/-- What a path part selects. -/
theorem lookup (h : v.Lasting) {part : PathPart} (hw : v.lookup part = some w) : w.Lasting := by
  unfold Value.lookup at hw
  split at hw
  · exact find (h.entries rfl) hw
  · rename_i entries fallback
    cases hfind : find? part.toValue entries with
    | some u =>
      rw [hfind] at hw
      cases hw
      exact find (h.entries rfl) hfind
    | none =>
      rw [hfind] at hw
      cases hw
      exact h.held _ List.mem_cons_self
  · split at hw
    · exact h.element hw
    · exact h.named hw
    · cases hw

end Lasting

end Value

/-! ## Sources of items -/

/-- The items come from no one-shot iterator, and are lasting. -/
def Source.Lasting : Source → Prop
  | .items xs => ∀ x ∈ xs, x.Lasting
  | .cursor _ => False
  | _ => True

namespace Source.Lasting

variable {source : Source}

theorem bound (h : source.Lasting) (c c' : Cursors) : source.bound c = source.bound c' := by
  cases source with
  | cursor id => exact h.elim
  | _ => rfl

/-- What is taken does not depend on the one-shot iterators, and leaves them alone. -/
theorem next (h : source.Lasting) : (∃ f, ∀ c, source.next c = .error f) ∨ (∀ c, source.next c = .ok none) ∨
    ∃ x rest, x.Lasting ∧ rest.Lasting ∧ ∀ c, source.next c = .ok (some (x, rest, c)) := by
  cases source with
  | items xs =>
    cases xs with
    | nil => exact .inr (.inl fun _ => rfl)
    | cons x xs =>
      obtain ⟨hx, hxs⟩ := List.forall_mem_cons.mp h
      exact .inr (.inr ⟨x, .items xs, hx, hxs, fun _ => rfl⟩)
  | numbers start step count =>
    cases count with
    | zero => exact .inr (.inl fun _ => rfl)
    | succ count =>
      exact .inr (.inr ⟨.int start, .numbers (start + step) step count, .of_held_eq_nil nofun rfl, trivial,
        fun _ => rfl⟩)
  | cursor id => exact h.elim
  | broken f => exact .inl ⟨f, fun _ => rfl⟩

end Source.Lasting

theorem Value.Lasting.source {v : Value} {source : Source} (h : v.Lasting) (hs : v.source = .ok source) :
    source.Lasting := by
  have hatoms {α : Type} (f : α → Value) (hf : ∀ a, (f a).held = [] ∧ ∀ id, f a ≠ .cursor id) (as : List α) :
      (Source.items (as.map f)).Lasting := by
    intro x hx
    obtain ⟨a, -, rfl⟩ := List.mem_map.mp hx
    exact .of_held_eq_nil (hf a).2 (hf a).1
  cases v with
  | list xs | tuple xs | set xs =>
    cases hs
    exact h.held
  | dict entries | defaulting entries fallback =>
    cases hs
    intro x hx
    obtain ⟨e, he, rfl⟩ := List.mem_map.mp hx
    exact (h.entries rfl e he).1
  | str s =>
    cases hs
    exact hatoms (fun c => .str (String.ofList [c])) (fun _ => ⟨rfl, nofun⟩) _
  | broken t =>
    cases hs
    intro x hx
    obtain ⟨p, -, rfl⟩ := List.mem_map.mp hx
    exact .ofPoints [p]
  | bytes bs | bytearray bs =>
    cases hs
    exact hatoms (fun b : UInt8 => .int b.toNat) (fun _ => ⟨rfl, nofun⟩) _
  | range start stop step | keyed entries =>
    cases hs
    exact trivial
  | cursor id => exact (h.ne_cursor id rfl).elim
  | _ => cases hs

/-- The items come from no one-shot iterator, and are lasting. -/
def Items.Lasting : Items → Prop
  | .entries es => ∀ e ∈ es, e.1.Lasting ∧ e.2.Lasting
  | .numbered _ source => source.Lasting

namespace Items.Lasting

variable {items : Items}

theorem bound (h : items.Lasting) (c c' : Cursors) : items.bound c = items.bound c' := by
  cases items with
  | entries es => rfl
  | numbered index source => exact Source.Lasting.bound h c c'

/-- **What is taken does not depend on the one-shot iterators, and leaves them alone.** -/
theorem next (h : items.Lasting) : (∃ f, ∀ m, items.next m = .error f m) ∨ (∀ m, items.next m = .ok none m) ∨
    ∃ index value rest, index.Lasting ∧ value.Lasting ∧ rest.Lasting ∧
      ∀ m, items.next m = .ok (some (index, value, rest)) m := by
  cases items with
  | entries es =>
    cases es with
    | nil => exact .inr (.inl fun _ => rfl)
    | cons e es =>
      obtain ⟨⟨hkey, hvalue⟩, hes⟩ := List.forall_mem_cons.mp h
      exact .inr (.inr ⟨e.1, e.2, .entries es, hkey, hvalue, hes, fun _ => rfl⟩)
  | numbered index source =>
    simp only [Items.next, EStateM.bind_apply, EStateM.get_apply]
    obtain ⟨f, hnext⟩ | hnext | ⟨x, rest, hx, hrest, hnext⟩ := Source.Lasting.next h
    · exact .inl ⟨.fault f, fun m => by rw [hnext]; rfl⟩
    · exact .inr (.inl fun m => by rw [hnext]; rfl)
    · refine .inr (.inr ⟨.int index, x, .numbered (index + 1) rest, .of_held_eq_nil nofun rfl, hx, hrest,
        fun m => ?_⟩)
      rw [hnext]
      rfl

end Items.Lasting

/-- What a loop over a lasting value goes through. -/
theorem Value.Lasting.items {v : Value} {expr : String} {items : Items} (h : v.Lasting)
    (hi : Items.ofValue expr v = .ok items) : items.Lasting := by
  unfold Items.ofValue at hi
  split at hi
  · cases hi
    exact h.entries rfl
  · cases hi
    exact h.entries rfl
  · cases hi
  · cases hi
  · cases hi
  · split at hi
    · rename_i hsource
      cases hi
      exact h.source hsource
    · cases hi

/-! ## Contexts -/

/-- The data and all that loops have bound is lasting. -/
structure Context.Lasting (c : Context) : Prop where
  data : c.data.Lasting
  bound : ∀ scope ∈ c.scopes, ∀ entry ∈ scope, entry.2.Lasting

namespace Context.Lasting

variable {c : Context}

theorem ofData {data : Value} (h : data.Lasting) : (Context.ofData data).Lasting := by
  refine ⟨?_, nofun⟩
  rw [Context.ofData, Context.kept.eq_def]
  split
  · exact .of_held_eq_nil nofun rfl
  · exact .dict (h.entries rfl)
  · exact h

theorem push (h : c.Lasting) : c.push.Lasting :=
  ⟨h.data, List.forall_mem_cons.mpr ⟨nofun, h.bound⟩⟩

theorem pop (h : c.Lasting) : c.pop.Lasting :=
  ⟨h.data, fun scope hscope => h.bound scope (List.mem_of_mem_tail hscope)⟩

theorem bind (h : c.Lasting) (name : String) {v : Value} (hv : v.Lasting) : (c.bind name v).Lasting := by
  have hset {scope : Scope} (hscope : ∀ entry ∈ scope, entry.2.Lasting) :
      ∀ entry ∈ Scope.set name v scope, entry.2.Lasting := by
    induction scope with
    | nil => exact List.forall_mem_singleton.mpr hv
    | cons entry scope ih =>
      obtain ⟨hentry, hscope⟩ := List.forall_mem_cons.mp hscope
      rw [Scope.set]
      split_ifs
      · exact List.forall_mem_cons.mpr ⟨hv, hscope⟩
      · exact List.forall_mem_cons.mpr ⟨hentry, ih hscope⟩
  unfold Context.bind
  split
  · exact h
  · rename_i scope rest hscopes
    have hbound := h.bound
    rw [hscopes] at hbound
    obtain ⟨hscope, hrest⟩ := List.forall_mem_cons.mp hbound
    exact ⟨h.data, List.forall_mem_cons.mpr ⟨hset hscope, hrest⟩⟩

theorem get (h : c.Lasting) {name : String} {v : Value} (hv : c.get? name = some v) : v.Lasting := by
  unfold Context.get? at hv
  cases hfind : c.scopes.findSome? (List.lookup name) with
  | some w =>
    rw [hfind] at hv
    cases hv
    obtain ⟨scope, hscope, hlookup⟩ := List.exists_of_findSome?_eq_some hfind
    obtain ⟨before, after, rfl, -⟩ := List.lookup_eq_some_iff.mp hlookup
    exact h.bound _ hscope (name, v) (by simp)
  | none =>
    rw [hfind, Option.none_or] at hv
    exact h.data.lookup hv

theorem follow {expr : String} {parts : List PathPart} {v w : Value} (h : v.Lasting)
    (hw : Context.follow expr v parts = .ok w) : w.Lasting := by
  induction parts generalizing v with
  | nil =>
    cases hw
    exact h
  | cons part rest ih =>
    rw [Context.follow] at hw
    split at hw
    · rename_i hlookup
      exact ih (h.lookup hlookup) hw
    · cases hw

theorem first (h : c.Lasting) {part : PathPart} {v : Value} (hv : c.first? part = some v) : v.Lasting := by
  unfold Context.first? at hv
  split at hv
  · exact h.get hv
  · exact h.data.lookup hv

/-- The value of a path. -/
theorem resolve (h : c.Lasting) {path : FieldPath} {v : Value} (hv : c.resolve path = .ok v) : v.Lasting := by
  unfold Context.resolve at hv
  split at hv
  · cases hv
  · split at hv
    · rename_i hfirst
      exact follow (h.first hfirst) hv
    · cases hv

end Context.Lasting

end Gabarit
