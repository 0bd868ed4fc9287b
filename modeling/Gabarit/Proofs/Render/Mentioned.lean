import Gabarit.Proofs.Render.Blind
import Gabarit.Proofs.Render.Effects

/-!
# Names that a program mentions

A rendering looks up only the names that the paths of its program start with.

* `Node.heads`, `Program.heads`: these names;
* `Machine.glimpse`: what a run sees that looks up only some names in the data;
* `Renderer.run_looksUp`: a run sees no more than the names that its nodes mention;
* `Renderer.execute_heads`: contexts that agree on these names give the same text or the same failure;
* **`render_heads`**: and so do mappings.
-/

namespace Gabarit

/-- The names that the paths of a node start with. -/
def Node.heads (node : Node) : List PathPart :=
  node.paths.filterMap fun path => path.parts.head?.map PathPart.asName

/-- The names that the paths of a program start with. -/
def Program.heads (p : Program) : List PathPart := p.nodes.toList.flatMap Node.heads

theorem Program.mem_heads {p : Program} {node : Node} (hnode : node ∈ p.nodes) {path : FieldPath}
    (hpath : path ∈ node.paths) {head : PathPart} (hhead : path.parts.head? = some head) :
    head.asName ∈ p.heads := by
  refine List.mem_flatMap.mpr ⟨node, Array.mem_toList_iff.mpr hnode, ?_⟩
  exact List.mem_filterMap.mpr ⟨path, hpath, by rw [hhead, Option.map_some]⟩

/-- The state of a run as far as it shows in the values of some names: the rest of the data is hidden. -/
structure Glimpse (names : List PathPart) where
  values : { name // name ∈ names } → Option Value
  scopes : List Scope
  cursors : Cursors
  written : List Rendered

/-- What a run sees that looks up only these names in the data. -/
def Machine.glimpse (names : List PathPart) (m : Machine) : Glimpse names where
  values name := m.context.data.lookup name
  scopes := m.context.scopes
  cursors := m.cursors
  written := m.written

theorem Machine.glimpse_eq_iff {names : List PathPart} {m m' : Machine} :
    m.glimpse names = m'.glimpse names ↔
      (∀ name ∈ names, m.context.data.lookup name = m'.context.data.lookup name) ∧
        m.context.scopes = m'.context.scopes ∧ m.cursors = m'.cursors ∧ m.written = m'.written := by
  rw [glimpse, glimpse, Glimpse.mk.injEq, funext_iff, Subtype.forall]

/-- From states that differ in other names of the data only, a part of a run ends alike. -/
abbrev Render.LooksUp {α : Type} (names : List PathPart) (x : Render α) : Prop :=
  Gabarit.Blind (Machine.glimpse names) (fun _ => True) x fun _ => True

variable {names : List PathPart}

/-! ## Parts of a run -/

theorem Context.resolve_congr {c c' : Context} {path : FieldPath} (hscopes : c.scopes = c'.scopes)
    (h : ∀ head ∈ path.parts.head?, c.data.lookup head.asName = c'.data.lookup head.asName) :
    c.resolve path = c'.resolve path := by
  unfold resolve
  cases hparts : path.parts with
  | nil => rfl
  | cons head rest =>
    rw [hparts] at h
    have hfirst : c.first? head = c'.first? head := by
      have hdata := h head rfl
      unfold first? get?
      cases hname : head.asName <;> rw [hname] at hdata <;> simp only [hscopes, hdata]
    dsimp only
    rw [hfirst]

namespace Render

theorem resolve_looksUp {path : FieldPath} (h : ∀ head ∈ path.parts.head?, head.asName ∈ names) :
    LooksUp names (Render.resolve path) := by
  refine .get_bind (fun m m' hm => ?_) fun m _ => (blind_ofExcept _).mono fun _ _ => trivial
  obtain ⟨hvalues, hscopes, -⟩ := Machine.glimpse_eq_iff.mp hm
  rw [Context.resolve_congr hscopes fun head hhead => hvalues _ (h head hhead)]

theorem emit_looksUp (s : Rendered) : LooksUp names (Render.emit s) := by
  refine .modify (fun m m' hm => ?_) fun _ _ => trivial
  obtain ⟨hvalues, hscopes, hcursors, hwritten⟩ := Machine.glimpse_eq_iff.mp hm
  exact Machine.glimpse_eq_iff.mpr ⟨hvalues, hscopes, hcursors, congrArg (s :: ·) hwritten⟩

theorem ofAction_looksUp {α : Type} (name : String) (action : Action α) :
    LooksUp names (Render.ofAction name action) := by
  intro m m' hm _
  obtain ⟨hvalues, hscopes, hcursors, hwritten⟩ := Machine.glimpse_eq_iff.mp hm
  unfold Render.ofAction
  rw [hcursors]
  cases action m'.cursors with
  | ok a cursors => exact .ok (Machine.glimpse_eq_iff.mpr ⟨hvalues, hscopes, rfl, hwritten⟩) trivial trivial
  | error f cursors => exact .error (Machine.glimpse_eq_iff.mpr ⟨hvalues, hscopes, rfl, hwritten⟩)

theorem bindItem_looksUp (index value : Value) : LooksUp names (Render.bindItem index value) := by
  have hdata (name : String) (v : Value) (c : Context) : (c.bind name v).data = c.data := by
    unfold Context.bind
    split <;> rfl
  have hbind (name : String) (v : Value) {c c' : Context} (h : c.scopes = c'.scopes) :
      (c.bind name v).scopes = (c'.bind name v).scopes := by
    obtain ⟨data, scopes⟩ := c
    obtain ⟨data', _⟩ := c'
    obtain rfl := h
    cases scopes <;> rfl
  refine .modify (fun m m' hm => ?_) fun _ _ => trivial
  obtain ⟨hvalues, hscopes, hcursors, hwritten⟩ := Machine.glimpse_eq_iff.mp hm
  refine Machine.glimpse_eq_iff.mpr ⟨?_, hbind _ _ (hbind _ _ hscopes), hcursors, hwritten⟩
  simpa only [hdata] using hvalues

theorem inScope_looksUp {α : Type} {body : Render α} (h : LooksUp names body) : LooksUp names (inScope body) := by
  intro m m' hm _
  obtain ⟨hvalues, hscopes, hcursors, hwritten⟩ := Machine.glimpse_eq_iff.mp hm
  have hbody := h { m with context := m.context.push } { m' with context := m'.context.push }
    (Machine.glimpse_eq_iff.mpr ⟨hvalues, congrArg ([] :: ·) hscopes, hcursors, hwritten⟩) trivial
  have hclose {m m' : Machine} (hm : m.glimpse names = m'.glimpse names) :
      (closeScope m).glimpse names = (closeScope m').glimpse names := by
    obtain ⟨hvalues, hscopes, hcursors, hwritten⟩ := Machine.glimpse_eq_iff.mp hm
    exact Machine.glimpse_eq_iff.mpr ⟨hvalues, congrArg List.tail hscopes, hcursors, hwritten⟩
  unfold inScope
  generalize body { m with context := m.context.push } = result at hbody
  generalize body { m' with context := m'.context.push } = result' at hbody
  cases hbody with
  | ok hm _ _ => exact .ok (hclose hm) trivial trivial
  | error hm => exact .error (hclose hm)

end Render

theorem Items.next_looksUp (items : Items) : Render.LooksUp names items.next := by
  have hset (cursors : Cursors) (m m' : Machine) (hm : m.glimpse names = m'.glimpse names) :
      Machine.glimpse names { m with cursors } = Machine.glimpse names { m' with cursors } := by
    obtain ⟨hvalues, hscopes, -, hwritten⟩ := Machine.glimpse_eq_iff.mp hm
    exact Machine.glimpse_eq_iff.mpr ⟨hvalues, hscopes, rfl, hwritten⟩
  cases items with
  | entries es => cases es <;> exact .pure trivial
  | numbered index source =>
    refine .get_bind (fun m m' hm => ?_) fun m _ => ?_
    · rw [(Machine.glimpse_eq_iff.mp hm).2.2.1]
    cases source.next m.cursors with
    | error f => exact .throw _
    | ok next =>
      cases next with
      | none => exact .pure trivial
      | some next =>
        obtain ⟨v, rest, cursors⟩ := next
        exact (Blind.modify (hset cursors) fun _ _ => trivial).bind fun _ _ => .pure trivial

namespace Renderer

theorem pipe_looksUp (r : Renderer) (calls : List FilterCall) (v : Value) :
    Render.LooksUp names (r.pipe calls v) := by
  induction calls generalizing v with
  | nil => exact .pure trivial
  | cons call calls ih =>
    refine (Render.blind_ofExcept _).bind fun f _ => (Render.blind_ofExcept _).bind fun args _ => ?_
    exact (Render.ofAction_looksUp _ _).bind fun w _ => ih w

theorem echo_looksUp (r : Renderer) {path : FieldPath}
    (h : ∀ head ∈ path.parts.head?, head.asName ∈ names) (calls : List FilterCall) (escape : Bool) :
    Render.LooksUp names (r.echo path calls escape) := by
  refine (Render.resolve_looksUp h).bind fun v _ => (pipe_looksUp r calls v).bind fun w _ => ?_
  exact (Render.blind_ofExcept _).bind fun s _ => .pure trivial

theorem test_looksUp {path : FieldPath} (h : ∀ head ∈ path.parts.head?, head.asName ∈ names)
    (compares : Bool) (operand : Scalar) : Render.LooksUp names (test path compares operand) :=
  (Render.resolve_looksUp h).bind fun _ _ => .pure trivial

theorem loop_looksUp {path : FieldPath} (h : ∀ head ∈ path.parts.head?, head.asName ∈ names)
    {body : Render Unit} (hbody : Render.LooksUp names body) : Render.LooksUp names (loop path body) := by
  refine (Render.resolve_looksUp h).bind fun v _ => ?_
  refine (Render.blind_ofExcept _).bind fun items _ => Render.inScope_looksUp ?_
  refine .get_bind (fun m m' hm => ?_) fun m _ => ?_
  · rw [(Machine.glimpse_eq_iff.mp hm).2.2.1]
  refine blind_each (P := fun _ => True) hbody (fun items _ => ?_) _ trivial
  refine (Items.next_looksUp items).mono fun next _ index value rest _ => ?_
  exact ⟨Render.bindItem_looksUp index value, trivial⟩

/-! ## Runs -/

/-- **A run looks up only the names that its nodes mention.** -/
theorem run_looksUp (r : Renderer) (p : Program) (fuel : ℕ) (pc stop : Int) :
    Render.LooksUp p.heads (r.run p.nodes fuel pc stop) := by
  have hhead {pc : Int} {node : Node} (hnode : nodeAt? p.nodes pc = some node) {path : FieldPath}
      (hpath : path ∈ node.paths) : ∀ head ∈ path.parts.head?, head.asName ∈ p.heads :=
    fun head hhead => Program.mem_heads (mem_of_nodeAt? hnode) hpath hhead
  refine blind_run Render.emit_looksUp ?echo ?test ?loop fuel pc stop
  case echo =>
    intro pc path calls escape hnode
    exact r.echo_looksUp (hhead hnode List.mem_cons_self) calls escape
  case test =>
    intro pc path close compares operand hnode
    exact test_looksUp (hhead hnode List.mem_cons_self) compares operand
  case loop =>
    intro pc path close body hnode hbody
    exact loop_looksUp (hhead hnode List.mem_cons_self) hbody

/-- **Contexts that agree on the names that a program mentions give the same text or the same failure**, and
the iterators are left alike. -/
theorem execute_heads (r : Renderer) (p : Program) (c c' : Context) (hscopes : c.scopes = c'.scopes)
    (h : ∀ name ∈ p.heads, c.data.lookup name = c'.data.lookup name) (cursors : Cursors) :
    (r.execute p c cursors).1 = (r.execute p c' cursors).1 ∧
      (r.execute p c cursors).2.2 = (r.execute p c' cursors).2.2 := by
  have hrun := r.run_looksUp p (fuelFor p) 0 p.nodes.size { context := c, cursors } { context := c', cursors }
    (Machine.glimpse_eq_iff.mpr ⟨h, hscopes, rfl, rfl⟩) trivial
  unfold execute runProgram
  generalize r.run p.nodes (fuelFor p) 0 p.nodes.size { context := c, cursors } = result at hrun
  generalize r.run p.nodes (fuelFor p) 0 p.nodes.size { context := c', cursors } = result' at hrun
  cases hrun with
  | ok hm _ _ =>
    obtain ⟨-, -, hcursors, hwritten⟩ := Machine.glimpse_eq_iff.mp hm
    dsimp only
    rw [hwritten, hcursors]
    exact ⟨rfl, rfl⟩
  | error hm => exact ⟨rfl, (Machine.glimpse_eq_iff.mp hm).2.2.1⟩

end Renderer

/-- **A rendering reads only the names that its program mentions.** Mappings in which each of these has the
same value, or is missing, give the same text or the same failure, whatever else they hold, and whatever
the loops, the conditions and the filters of the program are. -/
theorem render_heads (r : Renderer) (p : Program) {es es' : List (Value × Value)}
    (h : ∀ name ∈ p.heads, (Value.dict es).lookup name = (Value.dict es').lookup name)
    (cursors : Cursors) : r.render p (.dict es) cursors = r.render p (.dict es') cursors :=
  (r.execute_heads p (.ofData (.dict es)) (.ofData (.dict es')) rfl h cursors).1

/-- A loop that binds a name over one of the data: the names that only one of the mappings has are not read. -/
theorem render_heads_loop :
    let r : Renderer := { filters := .standard }
    let p : Program := ⟨#[.loop ⟨"xs", [.name "xs"]⟩ 3,
      .echo ⟨"loop_value", [.name "loop_value"]⟩ [⟨"upper", [], 0⟩] false,
      .echo ⟨"y.z", [.name "y", .name "z"]⟩ [] true, .close 0], 1⟩
    compile .standard ("\x7b% foreach xs %\x7d\x7b\x7b loop_value|upper \x7d\x7d" ++
        "\x7b\x7b y.z \x7d\x7d\x7b% end %\x7d") = .ok p ∧
      p.heads = [.name "xs", .name "loop_value", .name "y"] ∧
      r.render p (.dict [(.str "xs", .list [.str "a"]), (.str "z", .int 1), (.int 2, .none)]) [] =
        r.render p (.dict [(.str "loop_index", .str "b"), (.str "xs", .list [.str "a"])]) [] := by
  intro r p
  have hheads : p.heads = [.name "xs", .name "loop_value", .name "y"] := rfl
  refine ⟨by decide +kernel, hheads, render_heads r p ?_ []⟩
  rw [hheads]
  exact List.forall_mem_cons.mpr ⟨rfl, List.forall_mem_cons.mpr ⟨rfl, List.forall_mem_singleton.mpr rfl⟩⟩

end Gabarit
