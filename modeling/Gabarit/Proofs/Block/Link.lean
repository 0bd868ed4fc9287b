import Gabarit.Proofs.Block.Draft

/-!
# Links of blocks

* `Linked`: nodes that are those of some tags, with the indexes of the tags that match;
* `linked_tree`: the nodes of a tree are linked like its tags;
* `Linked.problem?_eq_none`: linked nodes pass the check of links;
* `Segment.Fits`: the node is of the kind of the segment;
* `Program.Block`: the blocks of a program;
* **`compile_isOk_iff_balanced`**: what compiles is what reads tag by tag and is balanced, and its nodes
  are linked as the tags match.
-/

namespace Gabarit

/-- The nodes, the first of which stands at `start`, are those of the tags, and opening and closing nodes
hold the indexes of each other where their tags match. -/
structure Linked (start : ℕ) (ts : List Tag) (ns : List Node) : Prop where
  length : ns.length = ts.length
  plain : ∀ (i : ℕ) (node : Node), ts[i]? = some (.plain node) → ns[i]? = some node
  opening : ∀ (i : ℕ) (node : Node), ts[i]? = some (.opening node) → ∃ j, Matching ts i j ∧
    ns[i]? = some (node.withClose (start + j : ℕ)) ∧ ns[j]? = some (.close (start + i : ℕ))
  ending : ∀ j : ℕ, ts[j]? = some .ending → ∃ i, Matching ts i j ∧
    ns[j]? = some (.close (start + i : ℕ))

namespace Linked

theorem nil (start : ℕ) : Linked start [] [] :=
  ⟨rfl, by simp, by simp, by simp⟩

theorem singleton (start : ℕ) (node : Node) : Linked start [.plain node] [node] := by
  refine ⟨rfl, fun i n h => ?_, fun i n h => ?_, fun i h => ?_⟩
  · cases i <;> simp_all
  · cases i <;> simp_all
  · cases i <;> simp_all

theorem append {start : ℕ} {ts us : List Tag} {ns ms : List Node} (h : Linked start ts ns)
    (h' : Linked (start + ts.length) us ms) : Linked start (ts ++ us) (ns ++ ms) := by
  have hlen := h.length
  refine ⟨by simp [hlen, h'.length], fun i node hi => ?_, fun i node hi => ?_, fun j hj => ?_⟩
  · rcases lt_or_ge i ts.length with hlt | hge
    · rw [List.getElem?_append_left hlt] at hi
      rw [List.getElem?_append_left (by omega), h.plain i node hi]
    · rw [List.getElem?_append_right hge] at hi
      rw [List.getElem?_append_right (by omega), hlen, h'.plain _ node hi]
  · rcases lt_or_ge i ts.length with hlt | hge
    · rw [List.getElem?_append_left hlt] at hi
      obtain ⟨j, hm, hi, hj⟩ := h.opening i node hi
      have hj' := hm.lt_length
      refine ⟨j, by simpa using hm.append [] us, ?_, ?_⟩
      · rw [List.getElem?_append_left (by omega), hi]
      · rw [List.getElem?_append_left (by omega), hj]
    · rw [List.getElem?_append_right hge] at hi
      obtain ⟨j, hm, hi, hj⟩ := h'.opening _ node hi
      refine ⟨ts.length + j, ?_, ?_, ?_⟩
      · have := hm.append ts []
        rwa [List.append_nil, Nat.add_sub_cancel' hge] at this
      · rw [List.getElem?_append_right (by omega), hlen, hi, Nat.add_assoc]
      · rw [List.getElem?_append_right (by omega), hlen, Nat.add_sub_cancel_left, hj,
          Nat.add_assoc, Nat.add_sub_cancel' hge]
  · rcases lt_or_ge j ts.length with hlt | hge
    · rw [List.getElem?_append_left hlt] at hj
      obtain ⟨i, hm, hj⟩ := h.ending j hj
      refine ⟨i, by simpa using hm.append [] us, ?_⟩
      rw [List.getElem?_append_left (by omega), hj]
    · rw [List.getElem?_append_right hge] at hj
      obtain ⟨i, hm, hj⟩ := h'.ending _ hj
      refine ⟨ts.length + i, ?_, ?_⟩
      · have := hm.append ts []
        rwa [List.append_nil, Nat.add_sub_cancel' hge] at this
      · rw [List.getElem?_append_right (by omega), hlen, hj, Nat.add_assoc]

theorem block {start : ℕ} {ts : List Tag} {ns : List Node} (node : Node) (hb : Balanced ts)
    (h : Linked (start + 1) ts ns) :
    Linked start (.opening node :: (ts ++ [.ending]))
      (node.withClose (start + 1 + ts.length : ℕ) :: (ns ++ [.close start])) := by
  have hlen := h.length
  have hm : Matching (.opening node :: (ts ++ [.ending])) 0 (ts.length + 1) :=
    ⟨[], node, ts, [], rfl, hb, rfl, by simp [Nat.add_comm]⟩
  have hin {i j : ℕ} (hij : Matching ts i j) :
      Matching (.opening node :: (ts ++ [.ending])) (i + 1) (j + 1) := by
    simpa [Nat.add_comm 1] using hij.append [.opening node] [.ending]
  refine ⟨by simp [hlen], fun i n hi => ?_, fun i n hi => ?_, fun j hj => ?_⟩
  · obtain _ | i := i
    · simp at hi
    rw [List.getElem?_cons_succ] at hi ⊢
    rcases lt_or_ge i ts.length with hlt | hge
    · rw [List.getElem?_append_left hlt] at hi
      rw [List.getElem?_append_left (by omega), h.plain i n hi]
    · rw [List.getElem?_append_right hge] at hi
      cases hd : i - ts.length <;> simp [hd] at hi
  · obtain _ | i := i
    · obtain rfl : node = n := by simpa using hi
      refine ⟨ts.length + 1, hm, ?_, ?_⟩
      · simp [Nat.add_assoc, Nat.add_comm 1]
      · simp [← hlen]
    rw [List.getElem?_cons_succ] at hi ⊢
    rcases lt_or_ge i ts.length with hlt | hge
    · rw [List.getElem?_append_left hlt] at hi
      obtain ⟨j, hij, hi, hj⟩ := h.opening i n hi
      have hjlt := hij.lt_length
      refine ⟨j + 1, hin hij, ?_, ?_⟩
      · rw [List.getElem?_append_left (by omega), hi, Nat.add_assoc, Nat.add_comm 1]
      · rw [List.getElem?_cons_succ, List.getElem?_append_left (by omega), hj, Nat.add_assoc,
          Nat.add_comm 1]
    · rw [List.getElem?_append_right hge] at hi
      cases hd : i - ts.length <;> simp [hd] at hi
  · obtain _ | j := j
    · simp at hj
    rw [List.getElem?_cons_succ] at hj ⊢
    rcases lt_or_ge j ts.length with hlt | hge
    · rw [List.getElem?_append_left hlt] at hj
      obtain ⟨i, hij, hj⟩ := h.ending j hj
      refine ⟨i + 1, hin hij, ?_⟩
      rw [List.getElem?_append_left (by omega), hj, Nat.add_assoc, Nat.add_comm 1]
    · rw [List.getElem?_append_right hge] at hj
      obtain rfl : j = ts.length := by
        have := List.getElem?_eq_some_iff.mp hj
        simp at this
        omega
      refine ⟨0, hm, ?_⟩
      rw [List.getElem?_append_right (by omega)]
      simp [hlen]

end Linked

theorem linked_tree (t : Tree) (start : ℕ) : Linked start t.tags (t.link start) := by
  induction t generalizing start with
  | done => exact .nil start
  | text s rest ih => exact (Linked.singleton start (.text s)).append (ih (start + 1))
  | echo path filters escape rest ih =>
    exact (Linked.singleton start (.echo path filters escape)).append (ih (start + 1))
  | block header body rest ihb ihr =>
    have hb := Linked.block (header.node unlinked) body.balanced_tags (ihb (start + 1))
    have hstart : start + (body.size + 2) = start + body.size + 2 := by omega
    have h := hb.append (by simpa [hstart] using ihr (start + body.size + 2))
    simpa [Tree.tags, Tree.link] using h

/-! ## The check of links -/

variable {ts : List Tag} {nodes : Array Node}

theorem Linked.closed (h : Linked 0 ts nodes.toList) (hu : ∀ t ∈ ts, t.Unlinked) {i : ℕ} {node : Node}
    {target : Int} (hn : nodes[i]? = some node) (ht : node.close? = some target) :
    ∃ j : ℕ, target = j ∧ Matching ts i j ∧ nodes[j]? = some (.close i) := by
  rw [← Array.getElem?_toList] at hn
  have hi : i < ts.length := h.length ▸ (List.getElem?_eq_some_iff.mp hn).1
  have hi' := List.getElem?_eq_getElem hi
  have hmem := hu _ (List.getElem_mem hi)
  generalize ts[i] = tag at hi' hmem
  cases hmem with
  | text s => cases (h.plain i _ hi').symm.trans hn; simp [Node.close?] at ht
  | echo path filters escape => cases (h.plain i _ hi').symm.trans hn; simp [Node.close?] at ht
  | opening header =>
    obtain ⟨j, hm, hopen, hclose⟩ := h.opening i _ hi'
    cases hopen.symm.trans hn
    refine ⟨j, ?_, hm, ?_⟩
    · simpa using ht.symm
    · simpa using hclose
  | ending =>
    obtain ⟨j, -, hclose⟩ := h.ending i hi'
    cases hclose.symm.trans hn
    simp [Node.close?] at ht

/-- A closing node names the node of the opening tag that it matches, which names it. -/
theorem Linked.opened (h : Linked 0 ts nodes.toList) (hu : ∀ t ∈ ts, t.Unlinked) {j : ℕ}
    {opener : Int} (hn : nodes[j]? = some (.close opener)) :
    ∃ i : ℕ, opener = i ∧ Matching ts i j ∧ ∃ node, nodes[i]? = some node ∧
      node.close? = some (j : Int) := by
  rw [← Array.getElem?_toList] at hn
  have hj : j < ts.length := h.length ▸ (List.getElem?_eq_some_iff.mp hn).1
  have hj' := List.getElem?_eq_getElem hj
  have hmem := hu _ (List.getElem_mem hj)
  generalize ts[j] = tag at hj' hmem
  cases hmem with
  | text s => simp [h.plain j _ hj'] at hn
  | echo path filters escape => simp [h.plain j _ hj'] at hn
  | opening header =>
    obtain ⟨k, -, hopen, -⟩ := h.opening j _ hj'
    cases header <;> simp [hopen, Header.node, Node.withClose] at hn
  | ending =>
    obtain ⟨i, hm, hclose⟩ := h.ending j hj'
    obtain ⟨node, hopening⟩ := hm.exists_opening
    obtain ⟨k, hk, hopen, -⟩ := h.opening i node hopening
    obtain rfl := hm.right_unique hk
    cases hclose.symm.trans hn
    refine ⟨i, by simp, hm, _, by simpa using hopen, ?_⟩
    obtain ⟨header, rfl⟩ := Tag.Unlinked.exists_header (hu _ (List.mem_of_getElem? hopening))
    simp

theorem Linked.problem?_eq_none {version : Int} (h : Linked 0 ts nodes.toList) (hu : ∀ t ∈ ts, t.Unlinked) :
    Program.problem? ⟨nodes, version⟩ = none := by
  simp only [Program.problem?, List.findSome?_eq_none_iff]
  rintro ⟨node, i⟩ hmem
  have hn : nodes[i]? = some node := by
    rw [← Array.getElem?_toList]
    exact List.mem_zipIdx_iff_getElem?.mp hmem
  cases hc : node.close? with
  | some target =>
    obtain ⟨j, rfl, hm, hj⟩ := h.closed hu hn hc
    have hlt := hm.lt
    have hsize : j < nodes.size := (Array.getElem?_eq_some_iff.mp hj).1
    simp only [Node.problem?, hc, Int.toNat_natCast, hj]
    simp [hlt, hsize]
  | none =>
    cases node with
    | close opener =>
      obtain ⟨k, rfl, hm, node, hk, ht⟩ := h.opened hu hn
      have hlt := hm.lt
      rw [Node.problem?, hc]
      simp [hlt, hk, ht]
    | text s => simp [Node.problem?, Node.close?]
    | echo path filters escape => simp [Node.problem?, Node.close?]
    | loop path target => simp [Node.close?] at hc
    | cond path target compares operand => simp [Node.close?] at hc

/-! ## Kinds of nodes -/

/-- The node is of the kind that the segment asks for. -/
inductive Segment.Fits : Segment → Node → Prop
  | text (cs : List Char) : Fits (.text cs) (.text (String.ofList cs))
  | echo (written payload : List Char) (path : FieldPath) (filters : List FilterCall) (escape : Bool) :
    Fits (.echo written payload) (.echo path filters escape)
  | loop (written payload : List Char) (path : FieldPath) (target : Int) :
    Tag.keyword payload = "foreach" → Fits (.block written payload) (.loop path target)
  | cond (written payload : List Char) (path : FieldPath) (target : Int) (compares : Bool)
    (operand : Scalar) :
    Tag.keyword payload = "if" → Fits (.block written payload) (.cond path target compares operand)
  | close (written payload : List Char) (opener : Int) :
    Tag.keyword payload = "end" → Fits (.block written payload) (.close opener)

theorem Linked.fits {filters : Registry} {source : String} (h : Linked 0 ts nodes.toList)
    (hr : ReadAs filters source ts) :
    List.Forall₂ Segment.Fits (segments source.toList) nodes.toList := by
  rw [List.forall₂_iff_get]
  refine ⟨hr.length_eq.trans h.length.symm, fun i hs hn => ?_⟩
  have ht : i < ts.length := h.length ▸ hn
  have hread := List.forall₂_iff_get.mp hr |>.2 i hs ht
  have hi := List.getElem?_eq_getElem ht
  have hget := List.getElem?_eq_getElem hn
  simp only [List.get_eq_getElem] at hread ⊢
  generalize (segments source.toList)[i] = s at hread
  generalize ts[i] = tag at hread hi
  generalize nodes.toList[i] = node at hget
  cases s with
  | text cs =>
    cases hread
    cases (h.plain i _ hi).symm.trans hget
    exact .text cs
  | echo written payload =>
    obtain ⟨path, calls, escape, rfl⟩ := Tag.ofEcho_eq_ok hread
    cases (h.plain i _ hi).symm.trans hget
    exact .echo written payload path calls escape
  | block written payload =>
    obtain ⟨hk, rfl⟩ | ⟨hk, path, rfl⟩ | ⟨hk, path, compares, operand, rfl⟩ :=
      Tag.ofBlock_eq_ok hread
    · obtain ⟨k, -, hclose⟩ := h.ending i hi
      cases hclose.symm.trans hget
      exact .close written payload _ hk
    · obtain ⟨k, -, hopen, -⟩ := h.opening i _ hi
      cases hopen.symm.trans hget
      exact .loop written payload path _ hk
    · obtain ⟨k, -, hopen, -⟩ := h.opening i _ hi
      cases hopen.symm.trans hget
      exact .cond written payload path _ compares operand hk

/-! ## Programs -/

/-- The node at `i` opens a block of the program that the node at `j` closes. -/
def Program.Block (p : Program) (i j : ℕ) : Prop :=
  ∃ node, p.nodes[i]? = some node ∧ node.close? = some (j : Int)

/-- **What compiles is what reads segment by segment as balanced tags. The program has a node of its
kind for each segment, its blocks are those that the tags match, nested or disjoint, and its links pass
the check.** -/
theorem compile_isOk_iff_balanced (filters : Registry) (source : String) (name : Option String) :
    ((∃ p, compile filters source name = .ok p) ↔ ∃ ts, ReadAs filters source ts ∧ Balanced ts) ∧
    ∀ p ts, compile filters source name = .ok p → ReadAs filters source ts →
      List.Forall₂ Segment.Fits (segments source.toList) p.nodes.toList ∧
      Linked 0 ts p.nodes.toList ∧
      (∀ (i : ℕ) (node : Node) (target : Int), p.nodes[i]? = some node → node.close? = some target →
        ∃ j : ℕ, target = j ∧ i < j ∧ Matching ts i j ∧ p.nodes[j]? = some (.close i)) ∧
      (∀ (j : ℕ) (opener : Int), p.nodes[j]? = some (.close opener) →
        ∃ i : ℕ, opener = i ∧ Matching ts i j ∧ p.Block i j) ∧
      (∀ i j i' j', p.Block i j → p.Block i' j' → i < i' → j < i' ∨ j' < j) ∧
      p.problem? = none := by
  refine ⟨⟨?_, ?_⟩, ?_⟩
  · rintro ⟨p, hp⟩
    obtain ⟨t, ht, -⟩ := compile_eq_ok_iff.mp hp
    exact ⟨t.tags, ht, t.balanced_tags⟩
  · rintro ⟨ts, hr, hb⟩
    obtain ⟨t, rfl⟩ := hb.exists_tree hr.unlinked
    exact ⟨_, compile_eq_ok_iff.mpr ⟨t, hr, rfl⟩⟩
  · intro p ts hp hr
    obtain ⟨t, ht, rfl⟩ := compile_eq_ok_iff.mp hp
    obtain rfl := hr.unique ht
    have hl : Linked 0 t.tags (t.link 0).toArray.toList := linked_tree t 0
    have hu := hr.unlinked
    refine ⟨hl.fits hr, hl, fun i node target hn hc => ?_, fun j opener hn => ?_,
      fun i j i' j' hb hb' hi => ?_, hl.problem?_eq_none hu⟩
    · obtain ⟨j, htarget, hm, hj⟩ := hl.closed hu hn hc
      exact ⟨j, htarget, hm.lt, hm, hj⟩
    · exact hl.opened hu hn
    · obtain ⟨node, hn, hc⟩ := hb
      obtain ⟨node', hn', hc'⟩ := hb'
      obtain ⟨k, hk, hm, -⟩ := hl.closed hu hn hc
      obtain ⟨k', hk', hm', -⟩ := hl.closed hu hn' hc'
      have := hm.nested_or_disjoint hm' hi
      omega

end Gabarit
