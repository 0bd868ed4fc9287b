import Gabarit.Proofs.Block.Balance

/-!
# Blocks that are left open

* `Unclosed`: a tag that opens a block which no tag ends; `unclosed_iff`: what follows it ends only blocks that
  it opens itself;
* `Leaves`: the openers that tags leave open, the innermost first, with one lemma for each tag that is added;
* **`Leaves.mem_iff`**: these are the unclosed tags.
-/

namespace Gabarit

/-- The tag at `i` opens a block that no tag ends. -/
def Unclosed (ts : List Tag) (i : ℕ) : Prop :=
  (∃ node, ts[i]? = some (.opening node)) ∧ ∀ j, ¬Matching ts i j

/-- No prefix ends more blocks than it opens. -/
def Covered (ts : List Tag) : Prop := ∀ p, p <+: ts → endings p ≤ openings p

/-- The openers that the tags leave open, the innermost first: the tags are balanced before the first one,
between two of them and after the last one. -/
inductive Leaves : List Tag → List ℕ → Prop
  | none {ts : List Tag} : Balanced ts → Leaves ts []
  | opener {ts inside : List Tag} {st : List ℕ} (node : Node) : Leaves ts st → Balanced inside →
    Leaves (ts ++ .opening node :: inside) (ts.length :: st)

variable {ts us inside : List Tag} {st : List ℕ} {i : ℕ}

/-- A list around one of its elements. -/
theorem exists_split {α : Type} {l : List α} {k : ℕ} {a : α} (h : l[k]? = some a) :
    ∃ before after, l = before ++ a :: after ∧ k = before.length := by
  obtain ⟨hk, rfl⟩ := List.getElem?_eq_some_iff.mp h
  refine ⟨l.take k, l.drop (k + 1), ?_, (List.length_take_of_le hk.le).symm⟩
  rw [List.getElem_cons_drop, List.take_append_drop]

/-! ## Unclosed tags -/

namespace Covered

theorem append (h : Covered ts) (h' : Covered us) : Covered (ts ++ us) := by
  rintro p ⟨q, hq⟩
  obtain ⟨c, rfl, -⟩ | ⟨c, rfl, rfl⟩ := List.append_eq_append_iff.mp hq
  · exact h p (List.prefix_append p c)
  · have hts := h ts (List.prefix_refl ts)
    have hc := h' c (List.prefix_append c q)
    rw [openings_append, endings_append]
    omega

theorem opening (h : Covered ts) (node : Node) : Covered (.opening node :: ts) := by
  intro p hp
  obtain rfl | ⟨q, rfl, hq⟩ := List.prefix_cons_iff.mp hp
  · exact le_rfl
  · have := h q hq
    simp only [openings_cons, endings_cons, Tag.opens_opening, Tag.ends_opening]
    omega

theorem not_ending (h : Covered (ts ++ .ending :: us)) : ¬Balanced ts := by
  intro hts
  have hle := h (ts ++ [.ending]) (by simp)
  have hsettled := hts.settled
  simp only [openings_append, endings_append, openings_cons, endings_cons, openings_nil, endings_nil,
    Tag.opens_ending, Tag.ends_ending] at hle
  omega

theorem not_opening {node : Node} (h : Covered us) : ¬Balanced (ts ++ .opening node :: us) := by
  intro hb
  have hts := hb.covered ts (List.prefix_append ..)
  have hus := h us (List.prefix_refl us)
  have hsettled := hb.settled
  simp only [openings_append, endings_append, openings_cons, endings_cons, Tag.opens_opening,
    Tag.ends_opening] at hsettled
  omega

end Covered

theorem exists_ending {k : ℕ} (h : k + openings ts < endings ts) :
    ∃ inside rest, ts = inside ++ .ending :: rest ∧ Settles k inside := by
  induction ts generalizing k with
  | nil => exact absurd h (Nat.not_lt_zero _)
  | cons t ts ih =>
    simp only [openings_cons, endings_cons] at h
    cases t with
    | plain node =>
      have hlt : k + openings ts < endings ts := by simpa using h
      obtain ⟨inside, rest, rfl, hs⟩ := ih hlt
      exact ⟨.plain node :: inside, rest, rfl, settles_plain.mpr hs⟩
    | opening node =>
      simp only [Tag.opens_opening, Tag.ends_opening] at h
      have hlt : k + 1 + openings ts < endings ts := by omega
      obtain ⟨inside, rest, rfl, hs⟩ := ih hlt
      exact ⟨.opening node :: inside, rest, rfl, settles_opening.mpr hs⟩
    | ending =>
      simp only [Tag.opens_ending, Tag.ends_ending] at h
      cases k with
      | zero => exact ⟨[], ts, rfl, settles_nil.mpr rfl⟩
      | succ k =>
        have hlt : k + openings ts < endings ts := by omega
        obtain ⟨inside, rest, rfl, hs⟩ := ih hlt
        exact ⟨.ending :: inside, rest, rfl, settles_ending.mpr ⟨k.succ_pos, hs⟩⟩

theorem unclosed_iff : Unclosed ts i ↔
    ∃ before node after, ts = before ++ .opening node :: after ∧ i = before.length ∧ Covered after := by
  constructor
  · rintro ⟨⟨node, hnode⟩, hopen⟩
    obtain ⟨before, after, rfl, rfl⟩ := exists_split hnode
    refine ⟨before, node, after, rfl, rfl, fun p hp => ?_⟩
    by_contra hmore
    obtain ⟨rest, rfl⟩ := hp
    have hlt : 0 + openings p < endings p := by omega
    obtain ⟨inside, after, rfl, hs⟩ := exists_ending hlt
    exact hopen _ ⟨before, node, inside, after ++ rest, by simp, balanced_iff_settles.mpr hs, rfl, rfl⟩
  · rintro ⟨before, node, after, rfl, rfl, hc⟩
    refine ⟨⟨node, by simp⟩, fun j => ?_⟩
    rintro ⟨before', node', inside, after', he, hb, hlen, -⟩
    obtain ⟨-, he⟩ := List.append_inj he hlen
    obtain ⟨-, rfl⟩ := List.cons.inj he
    exact hc.not_ending hb

theorem Unclosed.lt_length (h : Unclosed ts i) : i < ts.length := by
  obtain ⟨before, node, after, rfl, rfl, -⟩ := unclosed_iff.mp h
  simp

/-! ## Adding tags -/

theorem Balanced.append (h : Balanced ts) (h' : Balanced us) : Balanced (ts ++ us) := by
  rw [balanced_iff_settles] at h h' ⊢
  exact h.append_iff.mpr h'

theorem balanced_nil : Balanced [] := balanced_iff_settles.mpr (settles_nil.mpr rfl)

theorem balanced_plain (node : Node) : Balanced [.plain node] := by
  rw [balanced_iff_settles, settles_plain, settles_nil]

theorem Balanced.block (h : Balanced inside) (node : Node) :
    Balanced (.opening node :: (inside ++ [.ending])) := by
  rw [balanced_iff_settles] at h ⊢
  rw [settles_opening, h.append_iff, settles_ending, settles_nil]
  exact ⟨Nat.one_pos, rfl⟩

namespace Leaves

theorem append (h : Leaves ts st) (hus : Balanced us) : Leaves (ts ++ us) st := by
  cases h with
  | none hts => exact .none (hts.append hus)
  | opener node h hin =>
    rw [List.append_assoc, List.cons_append]
    exact .opener node h (hin.append hus)

theorem plain (h : Leaves ts st) (node : Node) : Leaves (ts ++ [.plain node]) st :=
  h.append (balanced_plain node)

theorem opening (h : Leaves ts st) (node : Node) : Leaves (ts ++ [.opening node]) (ts.length :: st) :=
  .opener node h balanced_nil

theorem ending (h : Leaves ts (i :: st)) : Leaves (ts ++ [.ending]) st := by
  cases h with
  | opener node h hin =>
    rw [List.append_assoc, List.cons_append]
    exact h.append (hin.block node)

/-- **The openers that are left open are the unclosed tags.** -/
theorem mem_iff (h : Leaves ts st) : i ∈ st ↔ Unclosed ts i := by
  rw [unclosed_iff]
  constructor
  · intro hi
    induction h with
    | none => cases hi
    | @opener ts inside st node h hin ih =>
      obtain rfl | hi := List.mem_cons.mp hi
      · exact ⟨ts, node, inside, rfl, rfl, hin.covered⟩
      · obtain ⟨before, node', after, rfl, rfl, hc⟩ := ih hi
        have hinside : Covered inside := hin.covered
        exact ⟨before, node', after ++ .opening node :: inside, by simp, rfl,
          hc.append (hinside.opening node)⟩
  · rintro ⟨before, node', after, he, rfl, hc⟩
    induction h generalizing after with
    | none hts =>
      subst he
      exact absurd hts hc.not_opening
    | @opener ts inside st node h hin ih =>
      rw [List.mem_cons]
      -- the unclosed tag is that opener, or one before it, but none of the balanced tags after it
      obtain ⟨c, rfl, hr⟩ | ⟨c, rfl, hr⟩ := List.append_eq_append_iff.mp he
      · obtain _ | ⟨t, c⟩ := c
        · exact .inl (by simp)
        · obtain ⟨-, rfl⟩ := List.cons.inj hr
          exact absurd hin hc.not_opening
      · obtain _ | ⟨t, c⟩ := c
        · exact .inl (by simp)
        · obtain ⟨rfl, rfl⟩ := List.cons.inj hr
          exact .inr (ih c rfl fun p hp => hc p (hp.trans (List.prefix_append ..)))

/-- The first opener is the innermost one. -/
theorem le_head (h : Leaves ts (i :: st)) {j : ℕ} (hj : Unclosed ts j) : j ≤ i := by
  have hmem := h.mem_iff.mpr hj
  cases h with
  | opener node h hin =>
    obtain rfl | hmem := List.mem_cons.mp hmem
    · exact le_rfl
    · exact (h.mem_iff.mp hmem).lt_length.le

end Leaves

end Gabarit
