import Gabarit.Proofs.Yaml.Token
import Gabarit.Yaml.Document

/-!
# Reading nodes

A document is read from its tokens in as many steps as it has tokens, up to a factor. So it nests too deeply
only if many tokens open a collection, or if a node holds itself.

* `Token.opens`, `Deep`: so many tokens open a collection that nodes can nest too deeply;
* `Reader.Goes`: what a reader leaves, and what it fails with, with a lemma for each reader;
* `Sound`: this holds of the functions that read nodes, with enough steps;
* **`readDocument_fault`**: the faults of reading a document.
-/

namespace Gabarit.Yaml

/-- The token opens a collection or a part of it. -/
def Token.opens : Token → Bool
  | .blockSequence | .blockMapping | .flowSequence | .flowMapping | .blockEntry | .key => true
  | _ => false

/-- Under some collections, so many tokens open more that they can nest too deeply; or a token stands for a
node, which can be the one that it is in. -/
def Deep (depth : ℕ) (ts : List Token) : Prop :=
  depthLimit ≤ depth + ts.countP Token.opens ∨ ∃ name, .alias name ∈ ts

variable {depth : ℕ} {ts ts' : List Token} {s s' : Reading} {f : Fault} {α β : Type}

theorem Deep.mono (h : Deep depth ts') (hts : ts' <:+ ts) : Deep depth ts :=
  h.imp (fun hlimit => Nat.le_trans hlimit (Nat.add_le_add_left hts.sublist.countP_le depth))
    fun ⟨name, hname⟩ => ⟨name, hts.subset hname⟩

theorem Deep.of_opens {t : Token} (h : Deep (depth + 1) ts) (ht : t.opens = true) : Deep depth (t :: ts) := by
  refine h.imp (fun hlimit => ?_) fun ⟨name, hname⟩ => ⟨name, List.mem_cons_of_mem t hname⟩
  rw [List.countP_cons_of_pos ht]
  omega

/-! ## Readers -/

/-- What is left is the end of what was there, and the fault after it stays. -/
structure Reading.Leaves (s s' : Reading) : Prop where
  tokens : s'.tokens <:+ s.tokens
  fault : s'.fault = s.fault

theorem Reading.Leaves.refl (s : Reading) : s.Leaves s := ⟨List.suffix_refl _, rfl⟩

theorem Reading.Leaves.of_eq (htokens : s'.tokens = s.tokens) (hfault : s'.fault = s.fault) : s.Leaves s' :=
  ⟨htokens ▸ List.suffix_refl _, hfault⟩

theorem Reading.Leaves.trans {s'' : Reading} (h : s.Leaves s') (h' : s'.Leaves s'') : s.Leaves s'' :=
  ⟨List.IsSuffix.trans h'.tokens h.tokens, h'.fault.trans h.fault⟩

/-- What reading nodes fails with: the document is malformed, its characters are, or it is too deep. -/
inductive Reading.Fails (depth : ℕ) (s : Reading) : Fault → Prop
  | malformed {f : Fault} : f.isMalformed = true → Fails depth s f
  | fault {f : Fault} : s.fault = some f → Fails depth s f
  | deep : Deep depth s.tokens → Fails depth s .tooDeep

namespace Reader

/-- The reader goes on from a state, or fails with a fault of a kind that has those of the state. -/
def Goes (P : Fault → Prop) (s : Reading) (x : Reader α) (Q : α → Reading → Prop) : Prop :=
  (∀ f, f.isMalformed = true ∨ s.fault = some f → P f) →
    EndsWith P (fun q : α × Reading => s.Leaves q.2 ∧ Q q.1 q.2) (x s)

namespace Goes

variable {P : Fault → Prop} {Q : α → Reading → Prop} {R : β → Reading → Prop} {x : Reader α}

theorem pure {a : α} (h : Q a s) : Goes P s (Pure.pure a) Q := fun _ => .ok ⟨.refl s, h⟩

theorem bind (hx : Goes P s x Q) {g : α → Reader β}
    (hg : ∀ a s', s.Leaves s' → Q a s' → Goes P s' (g a) R) : Goes P s (x >>= g) R := by
  intro hP
  change EndsWith P _ (x s >>= fun q => g q.1 q.2)
  refine (hx hP).bind fun ⟨a, s'⟩ ⟨hleaves, ha⟩ => ?_
  refine (hg a s' hleaves ha fun f hf => hP f ?_).mono (fun _ => id) fun q hq => ⟨hleaves.trans hq.1, hq.2⟩
  rw [hleaves.fault] at hf
  exact hf

theorem pure_bind {a : α} {g : α → Reader β} (h : Goes P s (g a) R) : Goes P s (Pure.pure a >>= g) R := h

theorem map (hx : Goes P s x Q) {g : α → β} : Goes P s (g <$> x) fun _ _ => True := by
  intro hP
  change EndsWith P _ (x s >>= fun q => Pure.pure (g q.1, q.2))
  exact (hx hP).bind fun q hq => .ok ⟨hq.1, trivial⟩

theorem throw (h : P f) : Goes P s (MonadExcept.throw f : Reader α) Q := fun _ => .error h

theorem malformed (h : f.isMalformed = true) : Goes P s (MonadExcept.throw f : Reader α) Q :=
  fun hP => .error (hP f (.inl h))

theorem throw_bind (h : P f) {g : α → Reader β} : Goes P s (MonadExcept.throw f >>= g) R := fun _ => .error h

theorem malformed_bind (h : f.isMalformed = true) {g : α → Reader β} :
    Goes P s (MonadExcept.throw f >>= g) R := fun hP => .error (hP f (.inl h))

theorem ite {c : Prop} [Decidable c] {y : Reader α} (hx : Goes P s x Q) (hy : Goes P s y Q) :
    Goes P s (if c then x else y) Q := by
  split_ifs
  · exact hx
  · exact hy

theorem mono (hx : Goes P s x Q) {Q' : α → Reading → Prop} (h : ∀ a s', Q a s' → Q' a s') : Goes P s x Q' :=
  fun hP => (hx hP).mono (fun _ => id) fun _ hq => ⟨hq.1, h _ _ hq.2⟩

theorem get : Goes P s MonadState.get fun a s' => a = s ∧ s' = s := fun _ => .ok ⟨.refl s, rfl, rfl⟩

theorem modify {g : Reading → Reading} (h : s.Leaves (g s)) :
    Goes P s (modify g : Reader Unit) fun _ s' => s' = g s := fun _ => .ok ⟨h, rfl⟩

end Goes

variable {P : Fault → Prop} {x : Reader α} {y : Reader Node} {t : Token}

/-- Nothing is known but what is left. -/
abbrev GoesOn (P : Fault → Prop) (s : Reading) (x : Reader α) : Prop := Goes P s x fun _ _ => True

theorem peek_goes : Goes P s peek fun t s' => s' = s ∧ ∃ rest, s.tokens = t :: rest := by
  refine Goes.get.bind fun a s' _ ⟨ha, hs⟩ => ?_
  rw [ha, hs]
  split
  · rename_i t rest htokens
    exact .pure ⟨rfl, rest, htokens⟩
  · intro hP
    refine .error (hP _ ?_)
    cases hfault : s.fault with
    | none => exact .inl rfl
    | some f => exact .inr rfl

theorem advance_goes : Goes P s advance fun _ s' => s'.tokens = s.tokens.tail :=
  (Goes.modify ⟨List.tail_suffix _, rfl⟩).mono fun _ _ h => h ▸ rfl

theorem accept_goes : Goes P s (accept t) fun b s' => if b then s.tokens = t :: s'.tokens else s' = s := by
  refine peek_goes.bind fun u s' _ ⟨hs', rest, htokens⟩ => ?_
  subst hs'
  split_ifs with hu
  · refine advance_goes.bind fun _ s'' _ htail => .pure ?_
    rw [htokens] at htail
    rw [htokens, htail, eq_of_beq hu]
    rfl
  · exact .pure rfl

theorem expect_goes : Goes P s (expect t) fun _ s' => s.tokens = t :: s'.tokens := by
  refine accept_goes.bind fun b s' _ hb => ?_
  cases b with
  | true => exact .pure hb
  | false => exact .malformed rfl

theorem orEmpty_goes {ends : List Token} (hy : GoesOn P s y) : GoesOn P s (orEmpty ends y) := by
  refine peek_goes.bind fun t s' _ ⟨hs', _⟩ => ?_
  subst hs'
  exact .ite (.pure trivial) hy

theorem afterColon_goes {ends : List Token} (hy : ∀ s', s.Leaves s' → GoesOn P s' y) :
    GoesOn P s (afterColon ends y) := by
  refine accept_goes.bind fun b s' hleaves _ => ?_
  exact .ite (orEmpty_goes (hy s' hleaves)) (.pure trivial)

theorem takeAnchor_goes : GoesOn P s takeAnchor := by
  refine peek_goes.bind fun t s' _ _ => ?_
  split
  · exact advance_goes.bind fun _ _ _ _ => .pure trivial
  · exact .pure trivial

theorem takeTag_goes : GoesOn P s takeTag := by
  refine peek_goes.bind fun t s' _ _ => ?_
  split
  · exact advance_goes.bind fun _ _ _ _ => .pure trivial
  · exact .pure trivial

theorem fullName_goes (tag : Option String × String) : GoesOn P s (fullName tag) := by
  obtain ⟨_ | handle, suffix⟩ := tag
  · exact .pure trivial
  · refine Goes.get.bind fun _ _ _ _ => ?_
    split
    · exact .pure trivial
    · exact .malformed rfl

theorem properties_goes : GoesOn P s properties := by
  refine takeAnchor_goes.bind fun first s₁ _ _ => takeTag_goes.bind fun tag s₂ _ _ => ?_
  have hend (anchor : Option String) {s : Reading} :
      GoesOn P s (do return (anchor, ← tag.mapM fullName) : Reader (Option String × Option String)) := by
    cases tag with
    | none => exact .pure trivial
    | some tag => exact (fullName_goes tag).map.bind fun _ _ _ _ => .pure trivial
  exact .ite (takeAnchor_goes.bind fun anchor _ _ _ => hend anchor) (hend first)

theorem anchored_goes {anchor : Option String}
    (hy : ∀ s', s'.tokens = s.tokens → s'.fault = s.fault → GoesOn P s' y) : GoesOn P s (anchored anchor y) := by
  unfold anchored
  cases anchor with
  | none => exact hy s rfl rfl
  | some name =>
    refine Goes.get.bind fun _ s' _ ⟨_, hs'⟩ => ?_
    subst hs'
    refine .ite (.malformed_bind rfl) ?_
    refine (Goes.modify ⟨List.suffix_refl _, rfl⟩).bind fun _ s₁ _ hs₁ => ?_
    refine (hy s₁ (hs₁ ▸ rfl) (hs₁ ▸ rfl)).bind fun node _ _ _ => ?_
    exact (Goes.modify ⟨List.suffix_refl _, rfl⟩).bind fun _ _ _ _ => .pure trivial

theorem aliased_goes {name : String} (h : P .tooDeep) : GoesOn P s (aliased name) := by
  refine Goes.get.bind fun _ _ _ _ => ?_
  split
  · exact .pure trivial
  · exact .throw h
  · exact .malformed rfl

/-- All but the first of some parts stand after a token. -/
theorem separated_goes {first : Bool} {k : Unit → Reader α} (h : ∀ s', s.Leaves s' →
    s'.tokens.length + (if first then 0 else 1) ≤ s.tokens.length → GoesOn P s' (k ())) :
    GoesOn P s (if (!first) = true then expect t >>= fun u => k u else k ()) := by
  cases first with
  | true => exact h s (.refl s) (Nat.le_refl _)
  | false =>
    refine expect_goes.bind fun _ s' hleaves htokens => h s' hleaves ?_
    rw [htokens]
    exact Nat.le_refl _

/-- A reader that is used further on fails with nothing else, if its tokens are no deeper. -/
theorem GoesOn.inner {depth' : ℕ} (h : GoesOn (s'.Fails depth') s' x) (hs : s.Leaves s')
    (hdeep : Deep depth' s'.tokens → Deep depth s.tokens) : GoesOn (s.Fails depth) s' x := by
  intro _
  refine (h fun f hf => hf.elim .malformed .fault).mono (fun f hf => ?_) fun _ => id
  cases hf with
  | malformed hf => exact .malformed hf
  | fault hf => exact .fault (hs.fault ▸ hf)
  | deep hf => exact .deep (hdeep hf)

theorem GoesOn.after (h : GoesOn (s'.Fails depth) s' x) (hs : s.Leaves s') : GoesOn (s.Fails depth) s' x :=
  h.inner hs fun hdeep => hdeep.mono hs.tokens

end Reader

open Reader

/-! ## Nodes -/

section

variable {items : Reader α} {g : α → Node} {anchor : Option String} {t : Token} {rest : List Token}

/-- A collection is read if it does not stand under too many others. -/
theorem collection_goes (hitems : ∀ s'', s''.tokens = s'.tokens → s''.fault = s'.fault →
    GoesOn (s.Fails depth) s'' items) :
    GoesOn (s.Fails depth) s' (anchored anchor do
      if depth ≥ depthLimit then throw .tooDeep
      return g (← items)) := by
  refine anchored_goes fun s'' htokens hfault => ?_
  dsimp only
  split_ifs with hlimit
  · exact .throw_bind (.deep (.inl (Nat.le_trans hlimit (Nat.le_add_right _ _))))
  · exact (hitems s'' htokens hfault).bind fun _ _ _ _ => .pure trivial

/-- A collection that a token opens is read under one collection more. -/
theorem opened_goes (hs : s.Leaves s') (htokens : s'.tokens = t :: rest) (ht : t.opens = true)
    (hitems : ∀ s'', s''.tokens = rest → GoesOn (s''.Fails (depth + 1)) s'' items) :
    GoesOn (s.Fails depth) s' (do
      advance
      anchored anchor do
        if depth ≥ depthLimit then throw .tooDeep
        return g (← items)) := by
  refine advance_goes.bind fun _ s₁ h₁ hrest => ?_
  refine collection_goes fun s₂ htokens₂ hfault₂ => ?_
  have hleaves : s.Leaves s₂ := (hs.trans h₁).trans (.of_eq htokens₂ hfault₂)
  have hs₂ : s₂.tokens = rest := by rw [htokens₂, hrest, htokens, List.tail_cons]
  refine (hitems s₂ hs₂).inner hleaves fun hdeep => ?_
  rw [hs₂] at hdeep
  exact (htokens ▸ hdeep.of_opens ht).mono hs.tokens

/-- A part of a collection between brackets or braces is read if the collection does not end before it. -/
theorem flowPart_goes {first : Bool} {close : Token} {fuel : ℕ} {done : α} {k : Bool → Reader α}
    (h : 2 * s.tokens.length + (if first then 3 else 1) ≤ fuel + 1)
    (hpart : ∀ b s₁ s₂, s.Leaves s₁ → s₁.Leaves s₂ → 2 * s₂.tokens.length + 2 ≤ fuel →
      (if b then s₁.tokens = .key :: s₂.tokens else s₂ = s₁) → GoesOn (s.Fails depth) s₂ (k b)) :
    GoesOn (s.Fails depth) s (do
      if ← accept close then return done
      if !first then expect .flowEntry
      if ← accept close then return done
      k (← accept .key)) := by
  refine accept_goes.bind fun _ s₁ h₁ _ => .ite (.pure trivial) (separated_goes fun s₂ h₂ hless => ?_)
  have hroom : 2 * s₂.tokens.length + 2 ≤ fuel := by
    have := h₁.tokens.length_le
    split_ifs at h hless <;> omega
  refine accept_goes.bind fun _ s₃ h₃ _ => .ite (.pure trivial) ?_
  refine accept_goes.bind fun b s₄ h₄ hb => hpart b s₃ s₄ (h₁.trans (h₂.trans h₃)) h₄ ?_ hb
  have hless₃ := h₃.tokens.length_le
  have hless₄ := h₄.tokens.length_le
  omega

end

/-- With enough steps, the functions that read nodes go on or fail with the faults of the state. -/
structure Sound (fuel : ℕ) : Prop where
  node {block indentless : Bool} {depth : ℕ} {s : Reading} : 2 * s.tokens.length + 2 ≤ fuel →
    GoesOn (s.Fails depth) s (readNode block indentless depth fuel)
  blockItems {depth : ℕ} {s : Reading} : 2 * s.tokens.length + 1 ≤ fuel →
    GoesOn (s.Fails depth) s (readBlockItems depth fuel)
  looseItems {depth : ℕ} {s : Reading} : 2 * s.tokens.length + 1 ≤ fuel →
    GoesOn (s.Fails depth) s (readLooseItems (depth + 1) fuel)
  blockEntries {depth : ℕ} {s : Reading} : 2 * s.tokens.length + 1 ≤ fuel →
    GoesOn (s.Fails depth) s (readBlockEntries depth fuel)
  flowItems {first : Bool} {depth : ℕ} {s : Reading} : 2 * s.tokens.length + (if first then 3 else 1) ≤ fuel →
    GoesOn (s.Fails depth) s (readFlowItems first depth fuel)
  flowEntries {first : Bool} {depth : ℕ} {s : Reading} : 2 * s.tokens.length + (if first then 3 else 1) ≤ fuel →
    GoesOn (s.Fails depth) s (readFlowEntries first depth fuel)

namespace Sound

variable {fuel : ℕ}

theorem zero : Sound 0 where
  node h := by omega
  blockItems h := by omega
  looseItems h := by omega
  blockEntries h := by omega
  flowItems h := by split_ifs at h <;> omega
  flowEntries h := by split_ifs at h <;> omega

theorem readNode_succ (sound : Sound fuel) {block indentless : Bool}
    (h : 2 * s.tokens.length + 2 ≤ fuel + 1) :
    GoesOn (s.Fails depth) s (readNode block indentless depth (fuel + 1)) := by
  rw [readNode]
  refine peek_goes.bind fun t s₀ _ ⟨hs₀, rest, htokens⟩ => ?_
  subst hs₀
  split
  · rename_i name _
    refine advance_goes.bind fun _ _ _ _ => aliased_goes (.deep (.inr ⟨name, ?_⟩))
    rw [htokens]
    exact List.mem_cons_self
  refine properties_goes.bind fun ⟨anchor, tag⟩ s₁ h₁ _ => ?_
  have hless₁ := h₁.tokens.length_le
  dsimp only
  have hmissing {s₂ : Reading} : GoesOn (s₀.Fails depth) s₂ (if (anchor.isSome || tag.isSome) = true then
      anchored anchor (pure (Node.scalar (scalarTag true tag []) [])) else throw Fault.badStructure) :=
    .ite (anchored_goes fun _ _ _ => .pure trivial) (.malformed rfl)
  refine peek_goes.bind fun t s₂ _ ⟨hs₂, rest, htokens⟩ => ?_
  rw [hs₂]
  have hless : s₁.tokens.length = rest.length + 1 := congrArg List.length htokens
  split
  · exact advance_goes.bind fun _ _ _ _ => anchored_goes fun _ _ _ => .pure trivial
  · refine opened_goes h₁ htokens rfl fun s' hs' => sound.flowItems ?_
    simp only [hs', if_true]
    omega
  · refine opened_goes h₁ htokens rfl fun s' hs' => sound.flowEntries ?_
    simp only [hs', if_true]
    omega
  · refine .ite (collection_goes fun s' hs' hfault => ?_) hmissing
    refine (sound.looseItems ?_).after (h₁.trans (.of_eq hs' hfault))
    rw [hs']
    omega
  · refine .ite (opened_goes h₁ htokens rfl fun s' hs' => sound.blockItems ?_) hmissing
    rw [hs']
    omega
  · refine .ite (opened_goes h₁ htokens rfl fun s' hs' => sound.blockEntries ?_) hmissing
    rw [hs']
    omega
  · exact hmissing

theorem readBlockItems_succ (sound : Sound fuel) (h : 2 * s.tokens.length + 1 ≤ fuel + 1) :
    GoesOn (s.Fails depth) s (readBlockItems depth (fuel + 1)) := by
  rw [readBlockItems]
  refine accept_goes.bind fun b s₁ h₁ hb => ?_
  cases b with
  | true =>
    have hlength : s.tokens.length = s₁.tokens.length + 1 := congrArg List.length hb
    refine (orEmpty_goes ((sound.node (by omega)).after h₁)).bind fun item s₂ h₂ _ => ?_
    have hless := h₂.tokens.length_le
    exact ((sound.blockItems (by omega)).after (h₁.trans h₂)).bind fun _ _ _ _ => .pure trivial
  | false => exact expect_goes.bind fun _ _ _ _ => .pure trivial

theorem readLooseItems_succ (sound : Sound fuel) (h : 2 * s.tokens.length + 1 ≤ fuel + 1) :
    GoesOn (s.Fails depth) s (readLooseItems (depth + 1) (fuel + 1)) := by
  rw [readLooseItems]
  refine accept_goes.bind fun b s₁ h₁ hb => ?_
  cases b with
  | true =>
    have hb : s.tokens = .blockEntry :: s₁.tokens := hb
    have hlength : s.tokens.length = s₁.tokens.length + 1 := congrArg List.length hb
    have hnode : GoesOn (s.Fails depth) s₁ (readNode true false (depth + 1) fuel) :=
      (sound.node (by omega)).inner h₁ fun hdeep => hb ▸ hdeep.of_opens rfl
    refine (orEmpty_goes hnode).bind fun item s₂ h₂ _ => ?_
    have hless := h₂.tokens.length_le
    exact ((sound.looseItems (by omega)).after (h₁.trans h₂)).bind fun _ _ _ _ => .pure trivial
  | false => exact .pure trivial

theorem readBlockEntries_succ (sound : Sound fuel) (h : 2 * s.tokens.length + 1 ≤ fuel + 1) :
    GoesOn (s.Fails depth) s (readBlockEntries depth (fuel + 1)) := by
  rw [readBlockEntries]
  refine accept_goes.bind fun b s₁ h₁ hb => ?_
  cases b with
  | true =>
    have hlength : s.tokens.length = s₁.tokens.length + 1 := congrArg List.length hb
    refine (orEmpty_goes ((sound.node (by omega)).after h₁)).bind fun key s₂ h₂ _ => ?_
    have hless := h₂.tokens.length_le
    refine (afterColon_goes fun s' h' => ?_).bind fun value s₃ h₃ _ => ?_
    · have hless' := h'.tokens.length_le
      exact (sound.node (by omega)).after (h₁.trans (h₂.trans h'))
    · have hless' := h₃.tokens.length_le
      exact ((sound.blockEntries (by omega)).after (h₁.trans (h₂.trans h₃))).bind fun _ _ _ _ => .pure trivial
  | false => exact expect_goes.bind fun _ _ _ _ => .pure trivial

theorem readFlowItems_succ (sound : Sound fuel) {first : Bool}
    (h : 2 * s.tokens.length + (if first then 3 else 1) ≤ fuel + 1) :
    GoesOn (s.Fails depth) s (readFlowItems first depth (fuel + 1)) := by
  rw [readFlowItems]
  refine flowPart_goes h fun b s₁ s₂ h₁ h₂ hroom hb => ?_
  have hrest {s₃ : Reading} (h₃ : s₂.Leaves s₃) (item : Node) : GoesOn (s.Fails depth) s₃
      (do return item :: (← readFlowItems false depth fuel) : Reader (List Node)) := by
    have hless := h₃.tokens.length_le
    refine ((sound.flowItems ?_).after (h₁.trans (h₂.trans h₃))).bind fun _ _ _ _ => .pure trivial
    simp only [Bool.false_eq_true, if_false]
    omega
  cases b with
  | true =>
    have hb : s₁.tokens = .key :: s₂.tokens := hb
    -- the entry is one collection more
    have hnode {s₃ : Reading} (h₃ : s₂.Leaves s₃) :
        GoesOn (s.Fails depth) s₃ (readNode false false (depth + 1) fuel) := by
      have hless := h₃.tokens.length_le
      refine (sound.node (by omega)).inner (h₁.trans (h₂.trans h₃)) fun hdeep => ?_
      have hopens := (hdeep.mono h₃.tokens).of_opens (show Token.key.opens = true from rfl)
      rw [← hb] at hopens
      exact hopens.mono h₁.tokens
    refine (orEmpty_goes (hnode (.refl s₂))).bind fun key s₃ h₃ _ => ?_
    refine (afterColon_goes fun s' h' => hnode (h₃.trans h')).bind fun value s₄ h₄ _ => ?_
    exact .pure_bind (hrest (h₃.trans h₄) _)
  | false =>
    exact ((sound.node hroom).after (h₁.trans h₂)).bind fun item s₃ h₃ _ => hrest h₃ item

theorem readFlowEntries_succ (sound : Sound fuel) {first : Bool}
    (h : 2 * s.tokens.length + (if first then 3 else 1) ≤ fuel + 1) :
    GoesOn (s.Fails depth) s (readFlowEntries first depth (fuel + 1)) := by
  rw [readFlowEntries]
  refine flowPart_goes h fun b s₁ s₂ h₁ h₂ hroom _ => ?_
  have hnode {s₃ : Reading} (h₃ : s₂.Leaves s₃) : GoesOn (s.Fails depth) s₃ (readNode false false depth fuel) := by
    have hless := h₃.tokens.length_le
    exact (sound.node (by omega)).after (h₁.trans (h₂.trans h₃))
  have hrest {s₃ : Reading} (h₃ : s₂.Leaves s₃) (entry : Node × Node) : GoesOn (s.Fails depth) s₃
      (do return entry :: (← readFlowEntries false depth fuel) : Reader (List (Node × Node))) := by
    have hless := h₃.tokens.length_le
    refine ((sound.flowEntries ?_).after (h₁.trans (h₂.trans h₃))).bind fun _ _ _ _ => .pure trivial
    simp only [Bool.false_eq_true, if_false]
    omega
  refine .ite ?_ ?_
  · refine (orEmpty_goes (hnode (.refl s₂))).bind fun key s₃ h₃ _ => ?_
    refine (afterColon_goes fun s' h' => hnode (h₃.trans h')).bind fun value s₄ h₄ _ => ?_
    exact .pure_bind (hrest (h₃.trans h₄) _)
  · exact (hnode (.refl s₂)).bind fun key s₃ h₃ _ => .pure_bind (hrest h₃ _)

end Sound

theorem sound (fuel : ℕ) : Sound fuel := by
  induction fuel with
  | zero => exact .zero
  | succ fuel ih =>
    exact ⟨ih.readNode_succ, ih.readBlockItems_succ, ih.readLooseItems_succ, ih.readBlockEntries_succ,
      ih.readFlowItems_succ, ih.readFlowEntries_succ⟩

/-! ## Documents -/

theorem readDirectives_goes {versioned : Bool} {handles : List (String × String)} {fuel : ℕ}
    (h : s.tokens.length + 1 ≤ fuel) : GoesOn (s.Fails 0) s (readDirectives versioned handles fuel) := by
  induction fuel generalizing versioned handles s with
  | zero => omega
  | succ fuel ih =>
    have hagain {s₁ : Reading} (h₁ : s.Leaves s₁) (hless : s₁.tokens.length + 1 ≤ s.tokens.length)
        (versioned : Bool) (handles : List (String × String)) :
        GoesOn (s.Fails 0) s₁ (readDirectives versioned handles fuel) :=
      GoesOn.after (ih (by omega)) h₁
    rw [readDirectives]
    refine peek_goes.bind fun t s₁ _ ⟨hs₁, rest, htokens⟩ => ?_
    rw [hs₁]
    have hadvance (versioned : Bool) (handles : List (String × String)) :
        GoesOn (s.Fails 0) s (do
          advance
          readDirectives versioned handles fuel) := by
      refine advance_goes.bind fun _ s₂ h₂ hrest => hagain h₂ ?_ _ _
      rw [hrest, htokens]
      exact Nat.le_refl _
    split
    · exact .ite (.malformed_bind rfl) (hadvance _ _)
    · exact .ite (.malformed_bind rfl) (hadvance _ _)
    · exact hadvance _ _
    · exact (Goes.modify (.of_eq rfl rfl)).mono fun _ _ _ => trivial

theorem skipDocumentEnds_goes {fuel : ℕ} (h : s.tokens.length + 1 ≤ fuel) :
    GoesOn (s.Fails 0) s (skipDocumentEnds fuel) := by
  induction fuel generalizing s with
  | zero => omega
  | succ fuel ih =>
    rw [skipDocumentEnds]
    refine accept_goes.bind fun b s₁ h₁ hb => ?_
    cases b with
    | true =>
      have hlength : s.tokens.length = s₁.tokens.length + 1 := congrArg List.length hb
      exact GoesOn.after (ih (by omega)) h₁
    | false => exact .pure trivial

theorem nextDocument_goes {fuel : ℕ} (h : s.tokens.length + 1 ≤ fuel) :
    GoesOn (s.Fails 0) s (nextDocument fuel) := by
  refine (skipDocumentEnds_goes h).bind fun _ s₁ h₁ _ => peek_goes.bind fun t s₂ _ ⟨hs₂, _⟩ => ?_
  rw [hs₂]
  have hless := h₁.tokens.length_le
  refine .ite (.pure trivial) ?_
  refine (GoesOn.after (readDirectives_goes (by omega)) h₁).bind fun _ _ _ _ => ?_
  exact expect_goes.bind fun _ _ _ _ => .pure trivial

theorem firstDocument_goes {fuel : ℕ} (h : 2 * s.tokens.length + 2 ≤ fuel) :
    GoesOn (s.Fails 0) s (firstDocument fuel) := by
  refine peek_goes.bind fun t s₁ _ ⟨hs₁, _⟩ => ?_
  rw [hs₁]
  refine .ite (((sound fuel).node h).bind fun _ _ _ _ => .pure trivial) ?_
  refine (nextDocument_goes (by omega)).bind fun there s₂ h₂ _ => .ite (.pure trivial) ?_
  refine peek_goes.bind fun u s₃ h₃ _ => .ite (.pure trivial) ?_
  have hless := (h₂.trans h₃).tokens.length_le
  exact (GoesOn.after ((sound fuel).node (by omega)) (h₂.trans h₃)).bind fun _ _ _ _ => .pure trivial

theorem readStream_goes {fuel : ℕ} (h : 2 * s.tokens.length + 2 ≤ fuel) :
    GoesOn (s.Fails 0) s (readStream fuel) := by
  refine (firstDocument_goes h).bind fun node s₁ h₁ _ => ?_
  have hless := h₁.tokens.length_le
  refine (GoesOn.after (nextDocument_goes (by omega)) h₁).bind fun more _ _ _ => ?_
  exact .ite (.malformed_bind rfl) (.pure trivial)

theorem run'_eq_error {x : Reader α} (h : x.run' s = .error f) : x s = .error f := by
  change Except.map Prod.fst (x s) = .error f at h
  cases hx : x s with
  | error g =>
    rw [hx] at h
    cases h
    rfl
  | ok q =>
    rw [hx] at h
    cases h

/-- **The faults of reading a document**: it is malformed, or holds a code that has no character, or so
many of its tokens open a collection that it nests too deeply, or one stands for a node that can be the one
that it is in. -/
theorem readDocument_fault {cs : List Char} {f : Fault} (h : readDocument cs = .error f) :
    f.isMalformed = true ∨ BadCode cs f ∨ f = .tooDeep ∧ Deep 0 (tokens cs).1 := by
  obtain ⟨ts, fault, htokens⟩ : ∃ ts fault, tokens cs = (ts, fault) := ⟨_, _, rfl⟩
  rw [readDocument, htokens] at h
  have hroom : 2 * ts.length + 2 ≤ 4 * ts.length + 16 := by omega
  have hends := readStream_goes (s := { tokens := ts, fault, handles := usualHandles }) hroom fun f hf =>
    hf.elim .malformed .fault
  rw [htokens]
  cases hends.error_of (run'_eq_error h) with
  | malformed hf => exact .inl hf
  | fault hf =>
    have hfault : (tokens cs).2 = some f := htokens ▸ hf
    obtain rfl | hcode := tokens_fault hfault
    · exact .inl rfl
    · exact .inr (.inl hcode)
  | deep hf => exact .inr (.inr ⟨rfl, hf⟩)

end Gabarit.Yaml
