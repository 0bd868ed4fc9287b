import Gabarit.Proofs.Block.Tree
import Gabarit.Proofs.Outcome
import Gabarit.Proofs.Segment.Tiling

/-!
# Compiling and trees

What a compilation does to the nodes and to the open blocks, seen from the tree of the template.

* `ReadAs`: the tags that the segments of a source are read as;
* `draftSegments_tree`: the segments of a tree add its linked nodes and leave the open blocks alone;
* `settles_of_draftSegments`: segments that leave no block open settle the open ones;
* **`compile_eq_ok_iff`**: the program of a source is the linked tree that its segments are read as.
-/

namespace Gabarit

/-- Each segment of the source is read as the tag at its place. -/
def ReadAs (filters : Registry) (source : String) (ts : List Tag) : Prop :=
  List.Forall₂ (fun s t => Tag.ofSegment filters s = .ok t) (segments source.toList) ts

/-! ## Reading a segment -/

namespace Tag

theorem ofEcho_eq_ok {filters : Registry} {payload : List Char} {t : Tag}
    (h : ofEcho filters payload = .ok t) :
    ∃ path calls escape, t = .plain (.echo path calls escape) := by
  obtain ⟨path, -, h⟩ := bind_eq_ok.mp h
  split at h
  · cases h; exact ⟨path, _, _, rfl⟩
  split at h
  · cases h; exact ⟨path, _, _, rfl⟩
  · obtain ⟨calls, -, h⟩ := bind_eq_ok.mp h
    cases h; exact ⟨path, _, _, rfl⟩

/-- The keyword of a block tag. -/
def keyword (payload : List Char) : String := String.ofList (splitKeyword (Text.trim payload)).1

theorem ofBlock_eq_ok {payload : List Char} {t : Tag} (h : ofBlock payload = .ok t) :
    (keyword payload = "end" ∧ t = .ending) ∨
    (keyword payload = "foreach" ∧ ∃ path, t = .opening (.loop path unlinked)) ∨
    (keyword payload = "if" ∧ ∃ path compares operand,
      t = .opening (.cond path unlinked compares operand)) := by
  unfold ofBlock at h
  dsimp only at h
  split at h
  · rename_i hend
    cases h
    have htrim : Text.trim payload = "end".toList := by rw [← hend, String.toList_ofList]
    exact .inl ⟨by rw [keyword, htrim]; decide, rfl⟩
  split at h
  · cases h
  rename_i hword
  split at h
  · cases h
  split at h
  · rename_i hloop
    obtain ⟨path, -, h⟩ := bind_eq_ok.mp h
    cases h
    exact .inr (.inl ⟨hloop, path, rfl⟩)
  · rename_i hloop
    obtain ⟨c, -, h⟩ := bind_eq_ok.mp h
    cases h
    exact .inr (.inr ⟨by_contra fun hn => hword ⟨hloop, hn⟩, c.path, c.compares, c.operand, rfl⟩)

theorem unlinked_of_ofSegment {filters : Registry} {s : Segment} {t : Tag}
    (h : ofSegment filters s = .ok t) : t.Unlinked := by
  cases s with
  | text cs => cases h; exact .text _
  | echo written payload =>
    obtain ⟨path, calls, escape, rfl⟩ := ofEcho_eq_ok h
    exact .echo path calls escape
  | block written payload =>
    obtain ⟨-, rfl⟩ | ⟨-, path, rfl⟩ | ⟨-, path, compares, operand, rfl⟩ := ofBlock_eq_ok h
    · exact .ending
    · exact .opening (.loop path)
    · exact .opening (.cond path compares operand)

end Tag

/-- The tag at the place of each segment is what that is read as. -/
abbrev Reads (filters : Registry) : List (Nat × Segment) → List Tag → Prop :=
  List.Forall₂ fun s t => Tag.ofSegment filters s.2 = .ok t

theorem readAs_iff_reads {filters : Registry} {source : String} {ts : List Tag} :
    ReadAs filters source ts ↔ Reads filters (placedSegments source.toList) ts := by
  have h := List.forall₂_map_left_iff (R := fun s t => Tag.ofSegment filters s = .ok t)
    (f := Prod.snd) (l := placedSegments source.toList) (u := ts)
  rwa [map_snd_placedSegments] at h

theorem Reads.unlinked {filters : Registry} {ss : List (ℕ × Segment)} {ts : List Tag}
    (h : Reads filters ss ts) : ∀ t ∈ ts, t.Unlinked := by
  induction h with
  | nil => simp
  | cons hs _ ih =>
    rintro t (_ | ⟨_, ht⟩)
    · exact Tag.unlinked_of_ofSegment hs
    · exact ih t ht

theorem ReadAs.unlinked {filters : Registry} {source : String} {ts : List Tag}
    (h : ReadAs filters source ts) :
    ∀ t ∈ ts, t.Unlinked :=
  (readAs_iff_reads.mp h).unlinked

/-- Segments are read as one row of tags at most. -/
theorem Reads.unique {filters : Registry} {ss : List (ℕ × Segment)} {ts us : List Tag}
    (h : Reads filters ss ts) (h' : Reads filters ss us) : ts = us :=
  List.right_unique_forall₂' (fun _ _ _ e e' => Except.ok.inj (e.symm.trans e')) h h'

theorem ReadAs.unique {filters : Registry} {source : String} {ts us : List Tag}
    (h : ReadAs filters source ts) (h' : ReadAs filters source us) : ts = us :=
  (readAs_iff_reads.mp h).unique (readAs_iff_reads.mp h')

/-! ## Adding the segments of a tree -/

namespace Draft

/-- The draft with more nodes and the same open blocks. -/
def extend (d : Draft) (ns : List Node) : Draft := { d with nodes := d.nodes ++ ns.toArray }

/-- The draft after an opening tag at `place`. -/
def enter (d : Draft) (place : ℕ) (node : Node) : Draft :=
  ⟨d.nodes.push node, (d.nodes.size, place) :: d.opened⟩

@[simp] theorem size_extend (d : Draft) (ns : List Node) :
    (d.extend ns).nodes.size = d.nodes.size + ns.length := by
  simp [extend]

@[simp] theorem size_enter (d : Draft) (place : ℕ) (node : Node) :
    (d.enter place node).nodes.size = d.nodes.size + 1 := by
  simp [enter]

@[simp] theorem extend_nil (d : Draft) : d.extend [] = d := by
  simp [extend]

@[simp] theorem extend_extend (d : Draft) (ns ms : List Node) :
    (d.extend ns).extend ms = d.extend (ns ++ ms) := by
  simp [extend]

theorem add_plain (d : Draft) (place : ℕ) (node : Node) :
    d.add place (.plain node) = .ok (d.extend [node]) := by
  simp [add, extend]

theorem add_opening (d : Draft) (place : ℕ) (node : Node) :
    d.add place (.opening node) = .ok (d.enter place node) := rfl

/-- Ending a block links its opening node, wherever the nodes in between come from. -/
theorem add_ending (d : Draft) (place opener : ℕ) (node : Node) (ns : List Node) :
    ((d.enter opener node).extend ns).add place .ending =
      .ok (d.extend (node.withClose (d.nodes.size + 1 + ns.length : ℕ) ::
        (ns ++ [.close d.nodes.size]))) := by
  have hmodify (l : List Node) (f : Node → Node) (ms : List Node) :
      (l ++ node :: ms).modify l.length f = l ++ f node :: ms := by
    induction l with
    | nil => simp
    | cons m l ih => simp [ih]
  have hsize : (d.nodes.push node ++ ns.toArray).size = d.nodes.size + 1 + ns.length := by
    simp
    omega
  simp only [add, extend, enter, hsize, Except.ok.injEq, Draft.mk.injEq, and_true]
  apply Array.ext'
  simp only [Array.toList_push, Array.toList_modify, Array.toList_append, List.append_assoc,
    List.cons_append, List.nil_append, ← Array.length_toList, hmodify]

end Draft

variable {filters : Registry} {source : List Char} {name : Option String}

theorem draftSegments_cons {d : Draft} {s : ℕ × Segment} {tag : Tag}
    (h : Tag.ofSegment filters s.2 = .ok tag) (ss : List (ℕ × Segment)) :
    draftSegments filters source name d (s :: ss) =
      match d.add s.1 tag with
      | .ok d => draftSegments filters source name d ss
      | .error f => .error (f.locate (lineAt source s.1) name) := by
  rw [draftSegments, h]
  rfl

/-- **The segments of a tree add its linked nodes and leave the open blocks alone.** -/
theorem draftSegments_tree (t : Tree) {ss more : List (ℕ × Segment)} (d : Draft)
    (h : Reads filters ss t.tags) :
    draftSegments filters source name d (ss ++ more) =
      draftSegments filters source name (d.extend (t.link d.nodes.size)) more := by
  induction t generalizing ss more d with
  | done =>
    obtain rfl := List.forall₂_nil_right_iff.mp h
    simp [Tree.link]
  | text s rest ih =>
    obtain ⟨seg, ss, hs, hr, rfl⟩ := List.forall₂_cons_right_iff.mp h
    rw [List.cons_append, draftSegments_cons hs, Draft.add_plain]
    dsimp only
    rw [ih _ hr]
    simp [Tree.link]
  | echo path calls escape rest ih =>
    obtain ⟨seg, ss, hs, hr, rfl⟩ := List.forall₂_cons_right_iff.mp h
    rw [List.cons_append, draftSegments_cons hs, Draft.add_plain]
    dsimp only
    rw [ih _ hr]
    simp [Tree.link]
  | block header body rest ihb ihr =>
    obtain ⟨seg, ss, hs, hr, rfl⟩ := List.forall₂_cons_right_iff.mp h
    have hb := List.forall₂_take_append _ _ _ hr
    have hd := List.forall₂_drop_append _ _ _ hr
    rw [← List.take_append_drop body.tags.length ss]
    generalize ss.take body.tags.length = bs at hb
    generalize ss.drop body.tags.length = es at hd
    obtain ⟨seg', es, he, hr, rfl⟩ := List.forall₂_cons_right_iff.mp hd
    rw [List.cons_append, draftSegments_cons hs, Draft.add_opening]
    dsimp only
    rw [List.append_assoc, ihb _ hb, List.cons_append, draftSegments_cons he, Draft.add_ending]
    dsimp only
    rw [ihr _ hr]
    have hstart : d.nodes.size + (body.size + 1 + 1) = d.nodes.size + body.size + 2 := by omega
    simp [Tree.link, hstart]

theorem settles_of_draftSegments {d d' : Draft} {ss : List (ℕ × Segment)}
    (h : draftSegments filters source name d ss = .ok d') (ho : d'.opened = []) :
    ∃ ts, Reads filters ss ts ∧ Settles d.opened.length ts := by
  induction ss generalizing d with
  | nil =>
    obtain rfl := Except.ok.inj h
    exact ⟨[], .nil, by simp [ho, settles_nil]⟩
  | cons s ss ih =>
    cases ht : Tag.ofSegment filters s.2 with
    | error f => simp [draftSegments, ht, Except.bind] at h
    | ok tag =>
      rw [draftSegments_cons ht] at h
      cases ha : d.add s.1 tag with
      | error f => simp [ha] at h
      | ok e =>
        rw [ha] at h
        obtain ⟨ts, hr, hs⟩ := ih h
        refine ⟨tag :: ts, .cons ht hr, ?_⟩
        cases tag with
        | plain node => cases ha; exact settles_plain.mpr hs
        | opening node => cases ha; exact settles_opening.mpr hs
        | ending =>
          simp only [Draft.add] at ha
          split at ha
          · cases ha
          · cases ha
            rename_i hd
            rw [settles_ending, hd]
            exact ⟨by simp, hs⟩

/-! ## Compiling -/

theorem compile_eq_ok {filters : Registry} {source : String} {name : Option String} {p : Program} :
    compile filters source name = .ok p ↔
      ∃ d : Draft, draftSegments filters source.toList name {}
        (placedSegments source.toList) = .ok d ∧ d.opened = [] ∧
          p = ⟨d.nodes, layoutVersion⟩ := by
  unfold compile
  rw [bind_eq_ok]
  refine exists_congr fun d => and_congr_right fun _ => ?_
  cases d.opened with
  | nil => simp [pure, Except.pure, eq_comm]
  | cons b bs => simp [throw, throwThe, MonadExceptOf.throw]

/-- **The program of a source is the linked tree that its segments are read as.** -/
theorem compile_eq_ok_iff {filters : Registry} {source : String} {name : Option String}
    {p : Program} :
    compile filters source name = .ok p ↔
      ∃ t : Tree, ReadAs filters source t.tags ∧ p = ⟨(t.link 0).toArray, layoutVersion⟩ := by
  have hlink {t : Tree} (h : ReadAs filters source t.tags) :
      draftSegments filters source.toList name {} (placedSegments source.toList) =
        .ok (Draft.extend {} (t.link 0)) := by
    rw [← List.append_nil (placedSegments _), draftSegments_tree t {} (readAs_iff_reads.mp h)]
    rfl
  rw [compile_eq_ok]
  constructor
  · rintro ⟨d, hd, ho, rfl⟩
    obtain ⟨ts, hr, hs⟩ := settles_of_draftSegments hd ho
    obtain ⟨t, rfl⟩ := (balanced_iff_settles.mpr hs).exists_tree hr.unlinked
    rw [hlink (readAs_iff_reads.mpr hr)] at hd
    cases hd
    exact ⟨t, readAs_iff_reads.mpr hr, by simp [Draft.extend]⟩
  · rintro ⟨t, ht, rfl⟩
    exact ⟨_, hlink ht, rfl, by simp [Draft.extend]⟩

end Gabarit
