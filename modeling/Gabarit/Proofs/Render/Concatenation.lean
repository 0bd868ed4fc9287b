import Gabarit.Proofs.Render.Shared
import Gabarit.Proofs.Segment.Lines

/-!
# Templates one below the other

A template that starts on a line of its own can be rendered on its own.

* `Tree.append`, `Tree.prependText`: trees one after the other, and a tree after some more text;
* `Tree.write_append`, `Tree.write_prependText`: what they write;
* `forall₂_prependText`: reading segments after some more text;
* `Renderer.executeBoth`: a program after another one;
* **`compile_append_line`**: lines and a template below them compile to a program that writes what the two
  write.
-/

namespace Gabarit

/-! ## Texts one after the other -/

namespace Action

theorem andThen_assoc (a b c : Action Rendered) : (a.andThen b).andThen c = a.andThen (b.andThen c) := by
  simp only [andThen, bind_assoc, pure_bind, Rendered.append_assoc]

theorem pure_andThen_pure (s t : Rendered) : andThen (pure s) (pure t) = pure (s ++ t) := rfl

theorem empty_andThen (a : Action Rendered) : andThen (pure (.text "")) a = a := by
  simp only [andThen, pure_bind, Rendered.empty_append, bind_pure]

theorem andThen_empty (a : Action Rendered) : a.andThen (pure (.text "")) = a := by
  simp only [andThen, pure_bind, Rendered.append_empty, bind_pure]

end Action

namespace Tree

/-- A tree after another one. -/
def append : Tree → Tree → Tree
  | done, u => u
  | text s rest, u => text s (rest.append u)
  | echo path filters escape rest, u => echo path filters escape (rest.append u)
  | block header body rest, u => block header body (rest.append u)

/-- A tree after some more text: it runs on into the text that the tree starts with. -/
def prependText (s : String) : Tree → Tree
  | text t rest => text (s ++ t) rest
  | t => text s t

theorem tags_append (t u : Tree) : (t.append u).tags = t.tags ++ u.tags := by
  induction t with
  | done => rfl
  | text s rest ih => rw [append, tags, ih, tags, List.cons_append]
  | echo path filters escape rest ih => rw [append, tags, ih, tags, List.cons_append]
  | block header body rest _ ih => simp only [append, tags, ih, List.cons_append, List.append_assoc]

theorem write_append (r : Renderer) (t u : Tree) (c : Context) :
    (t.append u).write r c = (t.write r c).andThen (u.write r c) := by
  induction t with
  | done => exact (Action.empty_andThen _).symm
  | text s rest ih => rw [append, write, ih, write, Action.andThen_assoc]
  | echo path filters escape rest ih => rw [append, write, ih, write, Action.andThen_assoc]
  | block header body rest _ ih =>
    cases header with
    | loop path => rw [append, write, ih, write, Action.andThen_assoc]
    | cond path compares operand => rw [append, write, ih, write, Action.andThen_assoc]

theorem write_prependText (r : Renderer) (s : String) (t : Tree) (c : Context) :
    (t.prependText s).write r c = Action.andThen (pure (.text s)) (t.write r c) := by
  cases t with
  | text u rest =>
    rw [prependText, write, write, ← Action.andThen_assoc, Action.pure_andThen_pure, Rendered.text_append]
  | done => rfl
  | echo path filters escape rest => rfl
  | block header body rest => rfl

end Tree

/-! ## Reading -/

theorem forall₂_prependText {filters : Registry} {ss : List Segment} {t : Tree}
    (h : List.Forall₂ (fun s tag => Tag.ofSegment filters s = .ok tag) ss t.tags) (text : List Char) :
    List.Forall₂ (fun s tag => Tag.ofSegment filters s = .ok tag) (Segment.prependText text ss)
      (t.prependText (String.ofList text)).tags := by
  have htext : Tag.ofSegment filters (.text text) = .ok (.plain (.text (String.ofList text))) := rfl
  cases t with
  | done =>
    cases h
    exact .cons htext .nil
  | text u rest =>
    obtain ⟨s, ss, hs, hss, rfl⟩ := List.forall₂_cons_right_iff.mp h
    cases s with
    | text cs =>
      cases hs
      refine .cons ?_ hss
      rw [← String.ofList_append]
      rfl
    | echo written payload =>
      obtain ⟨_, _, _, hecho⟩ := Tag.ofEcho_eq_ok hs
      cases hecho
    | block written payload =>
      obtain ⟨-, ⟨⟩⟩ | ⟨-, _, ⟨⟩⟩ | ⟨-, _, _, _, ⟨⟩⟩ := Tag.ofBlock_eq_ok hs
  | echo path filters escape rest =>
    obtain ⟨s, ss, hs, hss, rfl⟩ := List.forall₂_cons_right_iff.mp h
    rw [Segment.prependText_cons]
    · exact .cons htext (.cons hs hss)
    · rintro ⟨cs, rfl⟩
      cases hs
  | block header body rest =>
    obtain ⟨s, ss, hs, hss, rfl⟩ := List.forall₂_cons_right_iff.mp h
    rw [Segment.prependText_cons]
    · exact .cons htext (.cons hs hss)
    · rintro ⟨cs, rfl⟩
      cases hs

theorem exists_tree_append_text {filters : Registry} {ss : List Segment} {text : List Char} {t : Tree}
    (h : List.Forall₂ (fun s tag => Tag.ofSegment filters s = .ok tag) (ss ++ [.text text]) t.tags) :
    ∃ u : Tree, List.Forall₂ (fun s tag => Tag.ofSegment filters s = .ok tag) ss u.tags ∧
      t = u.append (.text (String.ofList text) .done) := by
  have htake := (List.forall₂_take_append _ _ _ h.flip).flip
  have hdrop := (List.forall₂_drop_append _ _ _ h.flip).flip
  have htags := List.take_append_drop ss.length t.tags
  generalize t.tags.take ss.length = ts at htake htags
  generalize t.tags.drop ss.length = us at hdrop htags
  obtain ⟨tag, us, htag, hus, rfl⟩ := List.forall₂_cons_left_iff.mp hdrop
  cases hus
  cases htag
  have hunlinked : ∀ tag ∈ ts, tag.Unlinked :=
    Reads.unlinked (List.forall₂_map_left_iff.mpr htake : Reads filters (ss.map (Prod.mk 0)) ts)
  have hbalanced : Balanced ts := by
    have hall := htags ▸ t.balanced_tags
    exact ⟨fun p hp => hall.covered p (hp.trans (List.prefix_append ..)), by simpa using hall.settled⟩
  obtain ⟨u, rfl⟩ := hbalanced.exists_tree hunlinked
  refine ⟨u, htake, Tree.tags_injective ?_⟩
  rw [Tree.tags_append, ← htags]
  rfl

/-! ## Rendering -/

/-- A program, and then another one in the context and with the iterators that the first one leaves, unless
it fails. -/
def Renderer.executeBoth (r : Renderer) (p q : Program) (c : Context) (cursors : Cursors) :
    Except Failure Rendered × Context × Cursors :=
  match r.execute p c cursors with
  | (.ok s, c, cursors) =>
    let (result, c, cursors) := r.execute q c cursors
    (result.map (s ++ ·), c, cursors)
  | failed => failed

theorem Renderer.executeBoth_steady {r : Renderer} (h : r.Steady) (p q : Program) {c : Context}
    (hc : c.Lasting) (cursors : Cursors) : (r.executeBoth p q c cursors).1 = do
      let s ← (r.execute p c cursors).1
      let t ← (r.execute q c cursors).1
      return s ++ t := by
  have hcontext := r.execute_context p c cursors
  rw [executeBoth]
  generalize r.execute p c cursors = first at hcontext
  obtain ⟨_ | s, _, cursors'⟩ := first
  · rfl
  · obtain rfl := hcontext
    have hsecond := r.execute_steady h q hc cursors' cursors
    dsimp only
    rw [hsecond]
    cases (r.execute q _ cursors).1 <;> rfl

/-- The program of a tree. -/
def Tree.program (t : Tree) : Program := ⟨(t.link 0).toArray, layoutVersion⟩

theorem Renderer.execute_append_text (r : Renderer) (t u : Tree) (s : String) (c : Context)
    (cursors : Cursors) : r.execute (t.append (u.prependText s)).program c cursors =
      r.executeBoth (t.append (.text s .done)).program u.program c cursors := by
  have hwrite : (t.append (u.prependText s)).write r c =
      ((t.append (.text s .done)).write r c).andThen (u.write r c) := by
    rw [Tree.write_append, Tree.write_append, Tree.write_prependText, Tree.write, Tree.write,
      Action.andThen_empty, Action.andThen_assoc]
  have hprogram (t : Tree) (c : Context) (cursors : Cursors) :
      r.execute t.program c cursors = t.result r c cursors := r.execute_link t c cursors
  rw [hprogram, executeBoth, hprogram, Tree.result, hwrite, Action.andThen, EStateM.bind_apply, Tree.result]
  cases (t.append (.text s .done)).write r c cursors with
  | error f cursors => rfl
  | ok s cursors =>
    dsimp only
    rw [hprogram, EStateM.bind_apply, Tree.result]
    cases u.write r c cursors <;> rfl

/-- **A template below some lines.** If the lines and the template compile, then both compile together, to a
program that goes like the one after the other. If nothing is a one-shot iterator and the filters are
steady, it writes what the two programs write each on its own, or fails like the first of them that
fails. -/
theorem compile_append_line {filters : Registry} {lines below : String} {name name' : Option String}
    {p q : Program} (hp : compile filters (lines ++ "\n") name = .ok p)
    (hq : compile filters below name' = .ok q) (name'' : Option String) :
    ∃ both, compile filters (lines ++ "\n" ++ below) name'' = .ok both ∧
      (∀ (r : Renderer) (c : Context) (cursors : Cursors),
        r.execute both c cursors = r.executeBoth p q c cursors) ∧
      ∀ (r : Renderer) (data : Value) (cursors : Cursors), r.Steady → data.Lasting →
        r.render both data cursors = do
          let s ← r.render p data cursors
          let t ← r.render q data cursors
          return s ++ t := by
  obtain ⟨ss, text, hsegments⟩ := segments_line lines.toList
  obtain ⟨t, ht, rfl⟩ := compile_eq_ok_iff.mp hp
  obtain ⟨u, hu, rfl⟩ := compile_eq_ok_iff.mp hq
  have hlines : segments (lines ++ "\n").toList = ss ++ [.text (text ++ ['\n'])] := by
    rw [String.toList_append]
    exact hsegments []
  have hboth : segments (lines ++ "\n" ++ below).toList =
      ss ++ Segment.prependText (text ++ ['\n']) (segments below.toList) := by
    rw [String.toList_append, String.toList_append, List.append_assoc]
    exact hsegments below.toList
  rw [ReadAs, hlines] at ht
  obtain ⟨t, hts, rfl⟩ := exists_tree_append_text ht
  have hread : ReadAs filters (lines ++ "\n" ++ below)
      (t.append (u.prependText (String.ofList (text ++ ['\n'])))).tags := by
    rw [ReadAs, hboth, Tree.tags_append]
    exact List.rel_append hts (forall₂_prependText hu _)
  have hexecute (r : Renderer) := r.execute_append_text t u (String.ofList (text ++ ['\n']))
  refine ⟨_, compile_eq_ok_iff.mpr ⟨_, hread, rfl⟩, hexecute, fun r data cursors hr hdata => ?_⟩
  exact (congrArg Prod.fst (hexecute r (.ofData data) cursors)).trans
    (Renderer.executeBoth_steady hr _ _ (.ofData hdata) cursors)

/-- Two templates, the texts between whose tags run together. -/
theorem compile_append_line_fields : ∃ both,
    compile .standard ("\x7b\x7b a \x7d\x7d-" ++ "\n" ++ "+\x7b\x7b b \x7d\x7d") none = .ok both ∧
      ({ filters := .standard } : Renderer).render both
        (.dict [(.str "a", .str "x"), (.str "b", .str "y")]) [] = .ok (.text "x-\n+y") := by
  have hdata : (Value.dict [(.str "a", .str "x"), (.str "b", .str "y")]).Lasting :=
    .dict (List.forall_mem_cons.mpr ⟨⟨.str _, .str _⟩, List.forall_mem_singleton.mpr ⟨.str _, .str _⟩⟩)
  have hlines : compile .standard ("\x7b\x7b a \x7d\x7d-" ++ "\n") none =
      .ok ⟨#[.echo ⟨"a", [.name "a"]⟩ [] true, .text "-\n"], 1⟩ := rfl
  have hbelow : compile .standard "+\x7b\x7b b \x7d\x7d" none =
      .ok ⟨#[.text "+", .echo ⟨"b", [.name "b"]⟩ [] true], 1⟩ := rfl
  obtain ⟨both, hboth, -, hrender⟩ := compile_append_line hlines hbelow none
  refine ⟨both, hboth, (hrender _ _ [] ?_ hdata).trans rfl⟩
  exact Renderer.steady_of_filters Registry.standard_steady

/-- With a filter that keeps a state, the second of two templates does not write what it writes on its own. -/
theorem exists_append_line_ne :
    let data : Value := .dict [(.str "x", .none)]
    let line : Program := ⟨#[.echo ⟨"x", [.name "x"]⟩ [⟨"take", [], 0⟩] false, .text "\n"], 1⟩
    ∃ both, compile takingRenderer.filters ("\x7b\x7b x|take \x7d\x7d" ++ "\n") none = .ok line ∧
      compile takingRenderer.filters "\x7b\x7b x|take \x7d\x7d" none = .ok takingProgram ∧
      compile takingRenderer.filters ("\x7b\x7b x|take \x7d\x7d" ++ "\n" ++ "\x7b\x7b x|take \x7d\x7d") none =
        .ok both ∧
      data.Lasting ∧ takingRenderer.render both data [[.int 1]] = .ok (.text "1\n") ∧
      takingRenderer.render line data [[.int 1]] = .ok (.text "1\n") ∧
      takingRenderer.render takingProgram data [[.int 1]] = .ok (.text "1") := by
  intro data line
  have hdata : data.Lasting := .dict (List.forall_mem_singleton.mpr ⟨.str _, .of_held_eq_nil nofun rfl⟩)
  refine ⟨⟨#[.echo ⟨"x", [.name "x"]⟩ [⟨"take", [], 0⟩] false, .text "\n",
    .echo ⟨"x", [.name "x"]⟩ [⟨"take", [], 0⟩] false], 1⟩, ?_, ?_, ?_, hdata, ?_, ?_, ?_⟩ <;> decide +kernel

end Gabarit
