import Gabarit.Proofs.Block.Balance

/-!
# Trees of blocks

A template as nested blocks, its tags from left to right, and its nodes with their links.

* `Header`, `Tree`: what opens a block, and a row of texts, interpolations and blocks;
* `Tree.tags`: the tags of a tree; `tags_injective`: they determine it;
* `Tree.link`: the linked nodes of a tree;
* **`Balanced.exists_tree`**: balanced tags are those of a tree.
-/

namespace Gabarit

/-- What opens a block. -/
inductive Header where
  | loop (path : FieldPath)
  | cond (path : FieldPath) (compares : Bool) (operand : Scalar)

namespace Header

/-- The opening node of a block that the node at `target` closes. -/
def node (target : Int) : Header → Node
  | .loop path => .loop path target
  | .cond path compares operand => .cond path target compares operand

@[simp] theorem withClose_node (h : Header) (a b : Int) : (h.node a).withClose b = h.node b := by
  cases h <;> rfl

@[simp] theorem close?_node (h : Header) (a : Int) : (h.node a).close? = some a := by
  cases h <;> rfl

theorem node_injective (a : Int) : Function.Injective (node a) := by
  intro h h' e
  cases h <;> cases h' <;> simp_all [node]

end Header

/-- A row of texts, interpolations and blocks, each with the row after it. -/
inductive Tree where
  | done
  | text (s : String) (rest : Tree)
  | echo (path : FieldPath) (filters : List FilterCall) (escape : Bool) (rest : Tree)
  | block (header : Header) (body rest : Tree)

namespace Tree

/-- The tags of a tree from left to right. -/
def tags : Tree → List Tag
  | done => []
  | text s rest => .plain (.text s) :: rest.tags
  | echo path filters escape rest => .plain (.echo path filters escape) :: rest.tags
  | block header body rest => .opening (header.node unlinked) :: (body.tags ++ .ending :: rest.tags)

/-- The number of nodes of a tree. -/
def size : Tree → ℕ
  | done => 0
  | text _ rest | echo _ _ _ rest => rest.size + 1
  | block _ body rest => body.size + rest.size + 2

/-- The nodes of a tree whose first one stands at `start`. -/
def link : ℕ → Tree → List Node
  | _, done => []
  | start, text s rest => .text s :: rest.link (start + 1)
  | start, echo path filters escape rest => .echo path filters escape :: rest.link (start + 1)
  | start, block header body rest =>
    header.node (start + 1 + body.size : ℕ) ::
      (body.link (start + 1) ++ .close start :: rest.link (start + body.size + 2))

@[simp] theorem length_tags (t : Tree) : t.tags.length = t.size := by
  induction t with
  | done => rfl
  | text s rest ih => simp [tags, size, ih]
  | echo path filters escape rest ih => simp [tags, size, ih]
  | block header body rest ihb ihr =>
    simp only [tags, size, List.length_cons, List.length_append, ihb, ihr]
    omega

@[simp] theorem length_link (t : Tree) (start : ℕ) : (t.link start).length = t.size := by
  induction t generalizing start with
  | done => rfl
  | text s rest ih => simp [link, size, ih]
  | echo path filters escape rest ih => simp [link, size, ih]
  | block header body rest ihb ihr =>
    simp only [link, size, List.length_cons, List.length_append, ihb, ihr]
    omega

theorem settles_tags_append (t : Tree) {k : ℕ} {ts : List Tag} :
    Settles k (t.tags ++ ts) ↔ Settles k ts := by
  induction t generalizing k ts with
  | done => rfl
  | text s rest ih => rw [tags, List.cons_append, settles_plain, ih]
  | echo path filters escape rest ih => rw [tags, List.cons_append, settles_plain, ih]
  | block header body rest ihb ihr =>
    rw [tags, List.cons_append, settles_opening, List.append_assoc, ihb, List.cons_append,
      settles_ending, ihr]
    simp

theorem balanced_tags (t : Tree) : Balanced t.tags := by
  rw [balanced_iff_settles, ← List.append_nil t.tags, settles_tags_append, settles_nil]

theorem tags_append_ending_inj {t u : Tree} {ts us : List Tag}
    (h : t.tags ++ .ending :: ts = u.tags ++ .ending :: us) : t = u ∧ ts = us := by
  induction t generalizing u ts us with
  | done => cases u <;> simp_all [tags]
  | text s rest ih =>
    cases u with
    | text s' rest' =>
      simp only [tags, List.cons_append, List.cons.injEq, Tag.plain.injEq, Node.text.injEq] at h
      obtain ⟨rfl, h⟩ := h
      exact (ih h).imp (by rintro rfl; rfl) id
    | _ => simp [tags] at h
  | echo path filters escape rest ih =>
    cases u with
    | echo path' filters' escape' rest' =>
      simp only [tags, List.cons_append, List.cons.injEq, Tag.plain.injEq, Node.echo.injEq] at h
      obtain ⟨⟨rfl, rfl, rfl⟩, h⟩ := h
      exact (ih h).imp (by rintro rfl; rfl) id
    | _ => simp [tags] at h
  | block header body rest ihb ihr =>
    cases u with
    | block header' body' rest' =>
      simp only [tags, List.cons_append, List.cons.injEq, Tag.opening.injEq,
        List.append_assoc] at h
      obtain ⟨hh, h⟩ := h
      obtain ⟨rfl, hr⟩ := ihb h
      obtain ⟨rfl, rfl⟩ := ihr hr
      exact ⟨by rw [Header.node_injective unlinked hh], rfl⟩
    | _ => simp [tags] at h

/-- **The tags of a tree determine it.** -/
theorem tags_injective : Function.Injective tags := by
  intro t u h
  have he : t.tags ++ [.ending] = u.tags ++ [.ending] := by rw [h]
  exact (tags_append_ending_inj he).1

end Tree

/-- The tag is one that a segment can be read as: its node is not linked yet. -/
inductive Tag.Unlinked : Tag → Prop
  | text (s : String) : Unlinked (.plain (.text s))
  | echo (path : FieldPath) (filters : List FilterCall) (escape : Bool) :
    Unlinked (.plain (.echo path filters escape))
  | opening (header : Header) : Unlinked (.opening (header.node unlinked))
  | ending : Unlinked .ending

theorem Tag.Unlinked.exists_header {node : Node} (h : (Tag.opening node).Unlinked) :
    ∃ header : Header, node = header.node unlinked := by
  cases h with
  | opening header => exact ⟨header, rfl⟩

theorem Settles.exists_tree (n : ℕ) {k : ℕ} {ts : List Tag} (hn : ts.length ≤ n)
    (hu : ∀ t ∈ ts, t.Unlinked) (h : Settles k ts) :
    ∃ (t : Tree) (rest : List Tag), ts = t.tags ++ rest ∧ ∀ tag ∈ rest.head?, tag = .ending := by
  induction n generalizing k ts with
  | zero =>
    obtain rfl := List.eq_nil_of_length_eq_zero (Nat.le_zero.mp hn)
    exact ⟨.done, [], rfl, by simp⟩
  | succ n ih =>
    obtain _ | ⟨tag, ts⟩ := ts
    · exact ⟨.done, [], rfl, by simp⟩
    have hlen : ts.length ≤ n := by simpa using hn
    have hts : ∀ t ∈ ts, t.Unlinked := fun t ht => hu t (List.mem_cons_of_mem _ ht)
    cases hu tag List.mem_cons_self with
    | text s =>
      obtain ⟨t, rest, rfl, hr⟩ := ih hlen hts (settles_plain.mp h)
      exact ⟨.text s t, rest, rfl, hr⟩
    | echo path filters escape =>
      obtain ⟨t, rest, rfl, hr⟩ := ih hlen hts (settles_plain.mp h)
      exact ⟨.echo path filters escape t, rest, rfl, hr⟩
    | opening header =>
      have hs := settles_opening.mp h
      obtain ⟨body, rest, rfl, hr⟩ := ih hlen hts hs
      rw [body.settles_tags_append] at hs
      -- the body is followed by the ending of this block, since that is still to come
      obtain _ | ⟨tag, rest⟩ := rest
      · exact absurd (settles_nil.mp hs) k.succ_ne_zero
      obtain rfl : tag = .ending := hr tag rfl
      have hlen' : rest.length ≤ n := by simp at hlen; omega
      obtain ⟨t, after, rfl, ha⟩ := ih hlen' (fun t ht => hts t (by simp [ht]))
        (settles_ending.mp hs).2
      exact ⟨.block header body t, after, by simp [Tree.tags], ha⟩
    | ending => exact ⟨.done, .ending :: ts, rfl, by simp⟩

/-- **Balanced tags are those of a tree.** -/
theorem Balanced.exists_tree {ts : List Tag} (hu : ∀ t ∈ ts, t.Unlinked) (h : Balanced ts) :
    ∃ t : Tree, ts = t.tags := by
  have hs := balanced_iff_settles.mp h
  obtain ⟨t, rest, rfl, hr⟩ := hs.exists_tree ts.length le_rfl hu
  obtain _ | ⟨tag, rest⟩ := rest
  · exact ⟨t, List.append_nil _⟩
  · obtain rfl : tag = .ending := hr tag rfl
    rw [t.settles_tags_append, settles_ending] at hs
    exact absurd hs.1 (lt_irrefl 0)

end Gabarit
