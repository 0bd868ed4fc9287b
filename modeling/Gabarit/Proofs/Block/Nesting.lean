import Gabarit.Proofs.Block.Link

/-!
# Nesting of blocks

The check of links looks at one block at a time. Blocks that pass it pair up, but two of them may cross:
each opens before the other one is closed, and none is inside the other.

* `Paired`: opening and closing nodes name each other; `problem?_eq_none_iff`: this is what is checked;
* `Paired.nested_disjoint_or_crossing`: how two blocks lie;
* `Program.Nested`: no two blocks cross;
* `Closed`: a range of nodes that no block leaves; `Closed.exists_tree`: without crossings it is a tree;
* **`Paired.nested_iff_exists_tree`**: blocks are nested exactly if the nodes are those of a tree.
-/

namespace Gabarit

/-- Opening and closing nodes name each other, and the opening node of a block is the first one. -/
structure Paired (nodes : Array Node) : Prop where
  opens : ∀ {i : ℕ} {node : Node} {target : Int}, nodes[i]? = some node → node.close? = some target →
    ∃ j : ℕ, target = j ∧ i < j ∧ nodes[j]? = some (.close i)
  closes : ∀ {j : ℕ} {opener : Int}, nodes[j]? = some (.close opener) →
    ∃ i : ℕ, opener = i ∧ i < j ∧ ∃ node, nodes[i]? = some node ∧ node.close? = some (j : Int)

variable {nodes : Array Node} {p : Program} {i j e f : ℕ}

/-! ## What the check of links finds -/

theorem Node.exists_header {node : Node} {target : Int} (h : node.close? = some target) :
    ∃ header : Header, node = header.node target := by
  cases node with
  | loop path close =>
    cases h
    exact ⟨.loop path, rfl⟩
  | cond path close compares operand =>
    cases h
    exact ⟨.cond path compares operand, rfl⟩
  | _ => cases h

theorem Node.problem?_opening {node : Node} {target : Int} (hnode : node.close? = some target) :
    node.problem? nodes i = none ↔ ∃ j : ℕ, target = j ∧ i < j ∧ nodes[j]? = some (.close i) := by
  unfold Node.problem?
  rw [hnode]
  dsimp only
  constructor
  · intro h
    split_ifs at h with hrange
    obtain ⟨hlow, hhigh⟩ := hrange
    obtain ⟨j, rfl⟩ := Int.eq_ofNat_of_zero_le (show 0 ≤ target by omega)
    rw [Int.toNat_natCast] at h
    refine ⟨j, rfl, by omega, ?_⟩
    split at h
    · rename_i opener hclose
      split_ifs at h with hopener
      rw [hclose, hopener]
    · cases h
  · rintro ⟨j, rfl, hij, hclose⟩
    have hsize : j < nodes.size := (Array.getElem?_eq_some_iff.mp hclose).1
    rw [if_neg (by omega), Int.toNat_natCast, hclose]
    simp

theorem Node.problem?_closing {opener : Int} : (Node.close opener).problem? nodes j = none ↔
    ∃ i : ℕ, opener = i ∧ i < j ∧ ∃ node, nodes[i]? = some node ∧ node.close? = some (j : Int) := by
  have hnone : (Node.close opener).close? = none := rfl
  unfold Node.problem?
  rw [hnone]
  dsimp only
  constructor
  · intro h
    split_ifs at h with hrange
    obtain ⟨hlow, hhigh⟩ := hrange
    obtain ⟨i, rfl⟩ := Int.eq_ofNat_of_zero_le hlow
    rw [Int.toNat_natCast] at h
    refine ⟨i, rfl, by omega, ?_⟩
    split at h
    · rename_i target htarget
      split_ifs at h with hj
      obtain ⟨node, hnode, hclose⟩ := Option.bind_eq_some_iff.mp htarget
      exact ⟨node, hnode, by rw [hclose, hj]⟩
    · cases h
  · rintro ⟨i, rfl, hij, node, hnode, hclose⟩
    rw [if_neg (by omega), Int.toNat_natCast, hnode, Option.bind_some, hclose]
    simp

/-- **The check of links finds no problem exactly if opening and closing nodes name each other.** -/
theorem problem?_eq_none_iff : p.problem? = none ↔ Paired p.nodes := by
  have hcheck : p.problem? = none ↔
      ∀ (i : ℕ) (node : Node), p.nodes[i]? = some node → node.problem? p.nodes i = none := by
    rw [Program.problem?, List.findSome?_eq_none_iff, Prod.forall]
    simp only [List.mem_zipIdx_iff_getElem?, Array.getElem?_toList]
    exact ⟨fun h i node => h node i, fun h node i => h i node⟩
  rw [hcheck]
  constructor
  · intro h
    exact ⟨fun hnode hclose => (Node.problem?_opening hclose).mp (h _ _ hnode),
      fun hclose => Node.problem?_closing.mp (h _ _ hclose)⟩
  · intro h i node hnode
    cases hclose : node.close? with
    | some target => exact (Node.problem?_opening hclose).mpr (h.opens hnode hclose)
    | none =>
      cases node with
      | text s => rfl
      | echo path filters escape => rfl
      | loop path target => cases hclose
      | cond path target compares operand => cases hclose
      | close opener => exact Node.problem?_closing.mpr (h.closes hnode)

/-! ## Two blocks -/

theorem Program.Block.right_unique (h : p.Block i e) (h' : p.Block i f) : e = f := by
  obtain ⟨node, hnode, hclose⟩ := h
  obtain ⟨node', hnode', hclose'⟩ := h'
  rw [hnode] at hnode'
  cases hnode'
  rw [hclose] at hclose'
  exact Int.ofNat.inj (Option.some.inj hclose')

namespace Paired

theorem block (h : Paired p.nodes) (hb : p.Block i e) : i < e ∧ p.nodes[e]? = some (.close i) := by
  obtain ⟨node, hnode, hclose⟩ := hb
  obtain ⟨j, hj, hij, hclosing⟩ := h.opens hnode hclose
  obtain rfl : e = j := Int.ofNat.inj hj
  exact ⟨hij, hclosing⟩

theorem block_left_unique (h : Paired p.nodes) (hb : p.Block i e) (hb' : p.Block j e) : i = j := by
  have hi := (h.block hb).2
  rw [(h.block hb').2] at hi
  cases hi
  rfl

theorem not_both (h : Paired p.nodes) (hb : p.Block i e) (hb' : p.Block e f) : False := by
  obtain ⟨node, hnode, hclose⟩ := hb'
  rw [(h.block hb).2] at hnode
  cases hnode
  cases hclose

/-- Of two blocks, one ends before the other opens, or is inside the other, or they cross. -/
theorem nested_disjoint_or_crossing (h : Paired p.nodes) (hb : p.Block i e) (hb' : p.Block j f)
    (hij : i < j) : e < j ∨ f < e ∨ j < e ∧ e < f := by
  have hej : e ≠ j := by
    rintro rfl
    exact h.not_both hb hb'
  have hef : e ≠ f := by
    rintro rfl
    exact hij.ne (h.block_left_unique hb hb')
  omega

end Paired

/-! ## Nested blocks -/

/-- Any two blocks are nested, or one ends before the other opens. -/
def Program.Nested (p : Program) : Prop :=
  ∀ i e j f, p.Block i e → p.Block j f → i < j → e < j ∨ f < e

/-- A condition and a loop in it, which is closed behind the condition. -/
def crossingProgram : Program where
  nodes := #[.cond ⟨"a", [.name "a"]⟩ 2 false .null, .loop ⟨"b", [.name "b"]⟩ 4, .close 0, .text "t", .close 1]
  version := layoutVersion

theorem not_nested_crossing : ¬crossingProgram.Nested := by
  intro h
  have houter : crossingProgram.Block 0 2 := ⟨_, rfl, rfl⟩
  have hinner : crossingProgram.Block 1 4 := ⟨_, rfl, rfl⟩
  have hlie := h 0 2 1 4 houter hinner (by decide)
  omega

/-- No block leaves the nodes from `a` on that are before `b`. -/
structure Closed (p : Program) (a b : ℕ) : Prop where
  opens : ∀ {i e}, p.Block i e → a ≤ i → i < b → e < b
  closes : ∀ {i e}, p.Block i e → a ≤ e → e < b → a ≤ i

namespace Closed

variable {a b : ℕ}

theorem whole (h : Paired p.nodes) : Closed p 0 p.nodes.size where
  opens hb _ _ := (Array.getElem?_eq_some_iff.mp (h.block hb).2).1
  closes _ _ _ := Nat.zero_le _

theorem tail (hc : Closed p a b) (hnode : ∀ e, ¬p.Block a e) : Closed p (a + 1) b where
  opens hb hi hib := hc.opens hb (by omega) hib
  closes {i e} hb he heb := by
    have hi := hc.closes hb (by omega) heb
    have hne : i ≠ a := by
      rintro rfl
      exact hnode e hb
    omega

theorem body (h : Paired p.nodes) (hn : p.Nested) (hb : p.Block a e) : Closed p (a + 1) e where
  opens {i f} hb' hi hie := by
    have hlie := hn a e i f hb hb' (by omega)
    omega
  closes {i f} hb' hf hfe := by
    have hif := (h.block hb').1
    by_contra hlt
    have hne : i ≠ a := by
      rintro rfl
      exact hfe.ne (hb'.right_unique hb)
    have hlie := hn i f a e hb' hb (by omega)
    omega

theorem rest (h : Paired p.nodes) (hn : p.Nested) (hc : Closed p a b) (hb : p.Block a e) :
    Closed p (e + 1) b where
  opens hb' hi hib := by
    have hae := (h.block hb).1
    exact hc.opens hb' (by omega) hib
  closes {i f} hb' hf hfb := by
    have hae := (h.block hb).1
    have hai := hc.closes hb' (by omega) hfb
    by_contra hlt
    have hne : i ≠ e := by
      rintro rfl
      exact h.not_both hb hb'
    have hne' : i ≠ a := by
      rintro rfl
      have := hb'.right_unique hb
      omega
    have hlie := hn a e i f hb hb' (by omega)
    omega

end Closed

/-- The nodes from `a` on, `n` of them. -/
def Program.slice (p : Program) (a n : ℕ) : List Node := (p.nodes.toList.drop a).take n

theorem Program.slice_succ {a : ℕ} {node : Node} (h : p.nodes[a]? = some node) (n : ℕ) :
    p.slice a (n + 1) = node :: p.slice (a + 1) n := by
  obtain ⟨ha, hnode⟩ := Array.getElem?_eq_some_iff.mp h
  have hlen : a < p.nodes.toList.length := by simpa using ha
  rw [slice, slice, List.drop_eq_getElem_cons hlen, List.take_succ_cons, Array.getElem_toList, hnode]

theorem Program.slice_add (a m n : ℕ) : p.slice a (m + n) = p.slice a m ++ p.slice (a + m) n := by
  rw [slice, slice, slice, List.take_add, List.drop_drop]

theorem Program.length_slice {a n : ℕ} (h : a + n ≤ p.nodes.size) : (p.slice a n).length = n := by
  simp [slice]
  omega

/-- A range that no block leaves holds the nodes of a tree, if blocks are nested. -/
theorem Closed.exists_tree (h : Paired p.nodes) (hn : p.Nested) (n a : ℕ) (hsize : a + n ≤ p.nodes.size)
    (hc : Closed p a (a + n)) : ∃ t : Tree, p.slice a n = t.link a := by
  induction n using Nat.strong_induction_on generalizing a with
  | _ n ih =>
    obtain _ | n := n
    · exact ⟨.done, by simp [Program.slice, Tree.link]⟩
    have hlt : a < p.nodes.size := by omega
    obtain ⟨node, hnode⟩ : ∃ node, p.nodes[a]? = some node := ⟨_, Array.getElem?_eq_getElem hlt⟩
    have hplain (hclose : node.close? = none) : ∃ t : Tree, p.slice (a + 1) n = t.link (a + 1) := by
      refine ih n (by omega) (a + 1) (by omega) ?_
      rw [show a + 1 + n = a + (n + 1) by omega]
      refine hc.tail fun e => ?_
      rintro ⟨node', hnode', hclose'⟩
      rw [hnode] at hnode'
      cases hnode'
      rw [hclose] at hclose'
      cases hclose'
    cases hclose : node.close? with
    | some target =>
      obtain ⟨header, rfl⟩ := Node.exists_header hclose
      obtain ⟨e, rfl, hae, hclosing⟩ := h.opens hnode hclose
      have hb : p.Block a e := ⟨_, hnode, hclose⟩
      have heb := hc.opens hb le_rfl (by omega)
      -- the body has `m` nodes and the rest of the range has `k`
      obtain ⟨m, rfl⟩ : ∃ m, e = a + 1 + m := ⟨e - (a + 1), by omega⟩
      obtain ⟨k, rfl⟩ : ∃ k, n = m + (k + 1) := ⟨n - m - 1, by omega⟩
      obtain ⟨body, hbody⟩ := ih m (by omega) (a + 1) (by omega) (Closed.body h hn hb)
      have hrange : a + (m + (k + 1) + 1) = a + 1 + m + 1 + k := by omega
      obtain ⟨rest, hrest⟩ := ih k (by omega) (a + 1 + m + 1) (by omega) (hrange ▸ hc.rest h hn hb)
      have hm : body.size = m := by
        rw [← Tree.length_link body (a + 1), ← hbody]
        exact Program.length_slice (by omega)
      refine ⟨.block header body rest, ?_⟩
      rw [Program.slice_succ hnode, Program.slice_add, hbody, Program.slice_succ hclosing, hrest, Tree.link,
        hm]
      rw [show a + m + 2 = a + 1 + m + 1 by omega]
    | none =>
      cases node with
      | text s =>
        obtain ⟨t, ht⟩ := hplain hclose
        exact ⟨.text s t, by rw [Program.slice_succ hnode, ht, Tree.link]⟩
      | echo path filters escape =>
        obtain ⟨t, ht⟩ := hplain hclose
        exact ⟨.echo path filters escape t, by rw [Program.slice_succ hnode, ht, Tree.link]⟩
      | loop path target => cases hclose
      | cond path target compares operand => cases hclose
      | close opener =>
        obtain ⟨i, -, hi, hopening⟩ := h.closes hnode
        have hai := hc.closes hopening le_rfl (by omega)
        omega

theorem Tree.unlinked_tags (t : Tree) : ∀ tag ∈ t.tags, tag.Unlinked := by
  induction t with
  | done => simp [tags]
  | text s rest ih =>
    rw [tags, List.forall_mem_cons]
    exact ⟨.text s, ih⟩
  | echo path filters escape rest ih =>
    rw [tags, List.forall_mem_cons]
    exact ⟨.echo path filters escape, ih⟩
  | block header body rest ihb ihr =>
    rw [tags, List.forall_mem_cons, List.forall_mem_append, List.forall_mem_cons]
    exact ⟨.opening header, ihb, .ending, ihr⟩

theorem nested_of_tree {t : Tree} (h : p.nodes.toList = t.link 0) : p.Nested := by
  intro i e j f hb hb' hij
  have hl : Linked 0 t.tags p.nodes.toList := h ▸ linked_tree t 0
  obtain ⟨node, hnode, hclose⟩ := hb
  obtain ⟨node', hnode', hclose'⟩ := hb'
  obtain ⟨k, hk, hmatching, -⟩ := hl.closed t.unlinked_tags hnode hclose
  obtain ⟨k', hk', hmatching', -⟩ := hl.closed t.unlinked_tags hnode' hclose'
  have hlie := hmatching.nested_or_disjoint hmatching' hij
  omega

/-- **Blocks that pair up are nested exactly if the nodes are those of a tree.** -/
theorem Paired.nested_iff_exists_tree (h : Paired p.nodes) :
    p.Nested ↔ ∃ t : Tree, p.nodes.toList = t.link 0 := by
  constructor
  · intro hn
    have hwhole : Closed p 0 (0 + p.nodes.size) := (Nat.zero_add p.nodes.size).symm ▸ Closed.whole h
    obtain ⟨t, ht⟩ := Closed.exists_tree h hn p.nodes.size 0 (by omega) hwhole
    refine ⟨t, ?_⟩
    rw [← ht, Program.slice, List.drop_zero, List.take_of_length_le (by simp)]
  · rintro ⟨t, ht⟩
    exact nested_of_tree ht

end Gabarit
