import Gabarit.Template.Compile
import Mathlib.Data.List.Infix
import Mathlib.Tactic.Common

/-!
# Balanced tags

* `openings`, `endings`: how many blocks a list of tags opens and ends;
* `Balanced`: no prefix ends more blocks than it opens, and as many are ended as are opened;
* `Settles`: the same below blocks that are open already, and how it unfolds tag by tag;
* `Matching`: the tag that ends the block of an opening tag;
* **`Matching.nested_or_disjoint`**: two blocks are nested, or one ends before the other opens.
-/

namespace Gabarit

namespace Tag

/-- How many blocks the tag opens. -/
def opens : Tag → ℕ
  | .opening _ => 1
  | _ => 0

/-- How many blocks the tag ends. -/
def ends : Tag → ℕ
  | .ending => 1
  | _ => 0

@[simp] theorem opens_plain (node : Node) : (plain node).opens = 0 := rfl
@[simp] theorem opens_opening (node : Node) : (opening node).opens = 1 := rfl
@[simp] theorem opens_ending : ending.opens = 0 := rfl
@[simp] theorem ends_plain (node : Node) : (plain node).ends = 0 := rfl
@[simp] theorem ends_opening (node : Node) : (opening node).ends = 0 := rfl
@[simp] theorem ends_ending : ending.ends = 1 := rfl

end Tag

/-- How many blocks the tags open. -/
def openings : List Tag → ℕ
  | [] => 0
  | t :: ts => t.opens + openings ts

/-- How many blocks the tags end. -/
def endings : List Tag → ℕ
  | [] => 0
  | t :: ts => t.ends + endings ts

@[simp] theorem openings_nil : openings [] = 0 := rfl
@[simp] theorem endings_nil : endings [] = 0 := rfl

@[simp] theorem openings_cons (t : Tag) (ts : List Tag) :
    openings (t :: ts) = t.opens + openings ts := rfl

@[simp] theorem endings_cons (t : Tag) (ts : List Tag) :
    endings (t :: ts) = t.ends + endings ts := rfl

@[simp] theorem openings_append (ts us : List Tag) :
    openings (ts ++ us) = openings ts + openings us := by
  induction ts with
  | nil => simp
  | cons t ts ih => rw [List.cons_append, openings_cons, openings_cons, ih, Nat.add_assoc]

@[simp] theorem endings_append (ts us : List Tag) :
    endings (ts ++ us) = endings ts + endings us := by
  induction ts with
  | nil => simp
  | cons t ts ih => rw [List.cons_append, endings_cons, endings_cons, ih, Nat.add_assoc]

/-- No prefix ends more blocks than it opens, and as many blocks are ended as are opened. -/
structure Balanced (ts : List Tag) : Prop where
  covered : ∀ p, p <+: ts → endings p ≤ openings p
  settled : endings ts = openings ts

/-- The tags end the blocks that they open and the `k` innermost ones around them, and no others. -/
structure Settles (k : ℕ) (ts : List Tag) : Prop where
  covered : ∀ p, p <+: ts → endings p ≤ k + openings p
  settled : endings ts = k + openings ts

/-- The tag at `j` ends the block that the tag at `i` opens: the tags between them are balanced. -/
def Matching (ts : List Tag) (i j : ℕ) : Prop :=
  ∃ before node inside after, ts = before ++ .opening node :: (inside ++ .ending :: after) ∧
    Balanced inside ∧ i = before.length ∧ j = before.length + 1 + inside.length

/-! ## Tag by tag -/

theorem balanced_iff_settles {ts : List Tag} : Balanced ts ↔ Settles 0 ts := by
  constructor
  · exact fun h => ⟨fun p hp => by simpa using h.covered p hp, by simpa using h.settled⟩
  · exact fun h => ⟨fun p hp => by simpa using h.covered p hp, by simpa using h.settled⟩

theorem settles_nil {k : ℕ} : Settles k [] ↔ k = 0 := by
  constructor
  · intro h
    have := h.settled
    simp at this
    exact this.symm
  · rintro rfl
    exact ⟨fun p hp => by simp [List.prefix_nil.mp hp], rfl⟩

theorem settles_cons {k : ℕ} {t : Tag} {ts : List Tag} :
    Settles k (t :: ts) ↔ t.ends ≤ k + t.opens ∧ Settles (k + t.opens - t.ends) ts := by
  constructor
  · intro h
    have ht : t.ends ≤ k + t.opens := by simpa using h.covered [t] (by simp)
    refine ⟨ht, fun p hp => ?_, ?_⟩
    · have := h.covered (t :: p) (by simpa using hp)
      simp only [openings_cons, endings_cons] at this
      omega
    · have := h.settled
      simp only [openings_cons, endings_cons] at this
      omega
  · rintro ⟨ht, h⟩
    refine ⟨fun p hp => ?_, ?_⟩
    · rcases List.prefix_cons_iff.mp hp with rfl | ⟨q, rfl, hq⟩
      · simp
      · have := h.covered q hq
        simp only [openings_cons, endings_cons]
        omega
    · have := h.settled
      simp only [openings_cons, endings_cons]
      omega

theorem settles_plain {k : ℕ} {node : Node} {ts : List Tag} :
    Settles k (.plain node :: ts) ↔ Settles k ts := by
  simp [settles_cons]

theorem settles_opening {k : ℕ} {node : Node} {ts : List Tag} :
    Settles k (.opening node :: ts) ↔ Settles (k + 1) ts := by
  simp [settles_cons]

theorem settles_ending {k : ℕ} {ts : List Tag} :
    Settles k (.ending :: ts) ↔ 0 < k ∧ Settles (k - 1) ts := by
  simp [settles_cons, Nat.one_le_iff_ne_zero, Nat.pos_iff_ne_zero]

/-- What is settled first leaves the rest of the blocks for what follows. -/
theorem Settles.append_iff {k l : ℕ} {ts us : List Tag} (h : Settles k ts) :
    Settles (k + l) (ts ++ us) ↔ Settles l us := by
  induction ts generalizing k with
  | nil =>
    obtain rfl := settles_nil.mp h
    rw [Nat.zero_add, List.nil_append]
  | cons t ts ih =>
    obtain ⟨ht, h⟩ := settles_cons.mp h
    have hrest : k + l + t.opens - t.ends = k + t.opens - t.ends + l := by omega
    rw [List.cons_append, settles_cons, hrest, ih h]
    exact and_iff_right (by omega)

/-! ## Matching tags -/

theorem Matching.lt {ts : List Tag} {i j : ℕ} (h : Matching ts i j) : i < j := by
  obtain ⟨before, node, inside, after, -, -, rfl, rfl⟩ := h
  omega

theorem Matching.lt_length {ts : List Tag} {i j : ℕ} (h : Matching ts i j) : j < ts.length := by
  obtain ⟨before, node, inside, after, rfl, -, -, rfl⟩ := h
  simp only [List.length_append, List.length_cons]
  omega

theorem Matching.exists_opening {ts : List Tag} {i j : ℕ} (h : Matching ts i j) :
    ∃ node, ts[i]? = some (.opening node) := by
  obtain ⟨before, node, inside, after, rfl, -, rfl, -⟩ := h
  exact ⟨node, by simp⟩

/-- A block is where it was when tags are added around it. -/
theorem Matching.append {ts : List Tag} {i j : ℕ} (h : Matching ts i j) (us vs : List Tag) :
    Matching (us ++ ts ++ vs) (us.length + i) (us.length + j) := by
  obtain ⟨before, node, inside, after, rfl, hb, rfl, rfl⟩ := h
  refine ⟨us ++ before, node, inside, after ++ vs, by simp, hb, by simp, ?_⟩
  simp only [List.length_append]
  omega

/-- Balanced tags up to an ending are not followed by another ending within balanced tags. -/
theorem Balanced.append_ending_inj {ts us ts' us' : List Tag} (h : Balanced ts) (h' : Balanced us)
    (he : ts ++ .ending :: ts' = us ++ .ending :: us') : ts = us := by
  have hnot {as bs cs ds : List Tag} (ha : Balanced as) (hb : Balanced bs)
      (hbs : bs = as ++ cs) (hc : Tag.ending :: ds <+: cs) : False := by
    have h1 := ha.settled
    have h2 := hb.covered (as ++ [.ending]) (by
      rw [hbs, List.prefix_append_right_inj]
      exact (List.prefix_append [Tag.ending] ds).trans hc)
    simp only [openings_append, endings_append, openings_cons, endings_cons, openings_nil,
      endings_nil, Tag.opens_ending, Tag.ends_ending] at h2
    omega
  obtain ⟨c, hc, hr⟩ | ⟨c, hc, hr⟩ := List.append_eq_append_iff.mp he
  · obtain _ | ⟨t, c⟩ := c
    · simp [hc]
    · obtain ⟨rfl, -⟩ := List.cons.inj hr
      exact (hnot h h' hc (List.prefix_refl _)).elim
  · obtain _ | ⟨t, c⟩ := c
    · simp [hc]
    · obtain ⟨rfl, -⟩ := List.cons.inj hr
      exact (hnot h' h hc (List.prefix_refl _)).elim

/-- The ending that matches an opening tag is determined. -/
theorem Matching.right_unique {ts : List Tag} {i j k : ℕ} (h : Matching ts i j)
    (h' : Matching ts i k) : j = k := by
  obtain ⟨before, node, inside, after, rfl, hb, rfl, rfl⟩ := h
  obtain ⟨before', node', inside', after', he, hb', hi, rfl⟩ := h'
  obtain ⟨rfl, hc⟩ := List.append_inj he hi
  obtain rfl := hb.append_ending_inj hb' (List.cons.inj hc).2
  rfl

/-- **Two blocks are nested, or one ends before the other opens.** -/
theorem Matching.nested_or_disjoint {ts : List Tag} {i j i' j' : ℕ} (h : Matching ts i j)
    (h' : Matching ts i' j') (hi : i < i') : j < i' ∨ j' < j := by
  obtain ⟨before, node, inside, after, rfl, hb, rfl, rfl⟩ := h
  obtain ⟨before', node', inside', after', he, hb', rfl, rfl⟩ := h'
  by_contra hn
  -- otherwise the second block opens inside the first one, and the rest of that lies in the second
  obtain ⟨a, rfl⟩ : ∃ a, before' = before ++ .opening node :: a := by
    obtain ⟨c, rfl, hc⟩ | ⟨c, rfl, -⟩ := List.append_eq_append_iff.mp he
    · obtain _ | ⟨t, a⟩ := c
      · simp at hi
      · simp only [List.cons_append, List.cons.injEq] at hc
        exact ⟨a, by rw [hc.1]⟩
    · simp only [List.length_append] at hi
      omega
  simp only [List.append_assoc, List.cons_append, List.append_cancel_left_eq, List.cons.injEq,
    true_and] at he
  simp only [List.length_append, List.length_cons] at hn
  obtain ⟨b, rfl, hc⟩ : ∃ b, inside = a ++ .opening node' :: b ∧
      b ++ .ending :: after = inside' ++ .ending :: after' := by
    obtain ⟨c, rfl, hc⟩ | ⟨c, rfl, hc⟩ := List.append_eq_append_iff.mp he
    · obtain _ | ⟨t, c⟩ := c
      · simp at hc
      · simp only [List.length_append, List.length_cons] at hn
        omega
    · obtain _ | ⟨t, b⟩ := c
      · simp at hc
      · simp only [List.cons_append, List.cons.injEq] at hc
        exact ⟨b, by rw [hc.1], hc.2.symm⟩
  have hp : b <+: inside' := by
    refine List.prefix_of_prefix_length_le (hc ▸ List.prefix_append b _) (List.prefix_append _ _) ?_
    simp only [List.length_append, List.length_cons] at hn
    omega
  have h1 := hb.settled
  have h2 := hb.covered a (List.prefix_append a _)
  have h3 := hb'.covered b hp
  simp only [openings_append, endings_append, openings_cons, endings_cons, Tag.opens_opening,
    Tag.ends_opening] at h1
  omega

end Gabarit
