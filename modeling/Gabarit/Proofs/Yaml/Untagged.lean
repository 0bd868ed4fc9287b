import Gabarit.Proofs.Yaml.Plain
import Gabarit.Yaml.Load

/-!
# Documents without tags

Without tags, the type of a text is that of its form, if it is plain, and else it is a string.

* `Token.Untagged`, `Node.Implied`: tokens without tags, and the nodes that they write;
* `Reader.Keeps`: what a reader gives when there are no tags, with a lemma for each reader;
* `Implying`: this holds of the functions that read nodes;
* **`readDocument_implied`**, `mergeAll_implied`: such documents, also with their mappings merged.
-/

namespace Gabarit.Yaml

/-- A tidy token that is no tag. -/
structure Token.Untagged (t : Token) : Prop where
  tidy : t.Tidy
  ne_tag : ∀ handle suffix, t ≠ .tag handle suffix

/-- A node without tags. -/
inductive Node.Implied : Node → Prop
  | plain {text : List Text.Point} : text.getLast? ≠ some (.char '\n') →
      Implied (.scalar (Tag.ofForm text) text)
  | quoted {text : List Text.Point} : Implied (.scalar .str text)
  | valueless : Implied (.scalar .other [])
  | sequence {items : List Node} : (∀ node ∈ items, Implied node) → Implied (.sequence .seq items)
  | mapping {entries : List (Node × Node)} : (∀ p ∈ entries, Implied p.1) → (∀ p ∈ entries, Implied p.2) →
      Implied (.mapping .map entries)

theorem Node.Implied.empty : Node.empty.Implied :=
  @Node.Implied.plain [] (by decide)

theorem implied_mapping_iff {entries : List (Node × Node)} :
    (Node.mapping .map entries).Implied ↔ ∀ p ∈ entries, p.1.Implied ∧ p.2.Implied := by
  constructor
  · intro h p hp
    cases h with
    | mapping hkeys hvalues => exact ⟨hkeys p hp, hvalues p hp⟩
  · exact fun h => .mapping (fun p hp => (h p hp).1) fun p hp => (h p hp).2

/-- What is left holds no tags, and the nodes of anchors were written without. -/
structure Reading.Untagged (s : Reading) : Prop where
  tokens : ∀ t ∈ s.tokens, t.Untagged
  anchors : ∀ name node, (name, some node) ∈ s.anchors → node.Implied

namespace Reader

variable {α β : Type}

/-- The reader gives what has a property, as long as there are no tags. -/
def Keeps (x : Reader α) (Q : α → Prop) : Prop :=
  ∀ s : Reading, s.Untagged → EndsWith (fun _ => True) (fun q : α × Reading => Q q.1 ∧ q.2.Untagged) (x s)

/-- The reader gives anything. -/
abbrev KeepsOn (x : Reader α) : Prop := Keeps x fun _ => True

namespace Keeps

variable {Q : α → Prop} {R : β → Prop} {x y : Reader α} {f : Fault}

theorem pure {a : α} (h : Q a) : Keeps (Pure.pure a) Q := fun _ hs => .ok ⟨h, hs⟩

theorem bind (hx : Keeps x Q) {g : α → Reader β} (hg : ∀ a, Q a → Keeps (g a) R) : Keeps (x >>= g) R := by
  intro s hs
  change EndsWith _ _ (x s >>= fun q => g q.1 q.2)
  exact (hx s hs).bind fun q hq => hg q.1 hq.1 q.2 hq.2

theorem throw : Keeps (MonadExcept.throw f : Reader α) Q := fun _ _ => .error trivial

theorem throw_bind {g : α → Reader β} : Keeps (MonadExcept.throw f >>= g) R := fun _ _ => .error trivial

theorem ite {c : Prop} [Decidable c] (hx : Keeps x Q) (hy : Keeps y Q) : Keeps (if c then x else y) Q := by
  split_ifs
  · exact hx
  · exact hy

theorem get : Keeps (MonadState.get : Reader Reading) Reading.Untagged := fun _ hs => .ok ⟨hs, hs⟩

theorem modify {g : Reading → Reading} (h : ∀ s : Reading, s.Untagged → (g s).Untagged) :
    KeepsOn (modify g : Reader Unit) := fun s hs => .ok ⟨trivial, h s hs⟩

end Keeps

variable {x : Reader Node} {t : Token}

theorem peek_keeps : Keeps peek Token.Untagged := by
  refine Keeps.get.bind fun s hs => ?_
  split
  · rename_i t rest htokens
    exact .pure (hs.tokens t (htokens ▸ List.mem_cons_self))
  · exact .throw

theorem advance_keeps : KeepsOn advance :=
  .modify fun _ hs => ⟨fun t ht => hs.tokens t (List.mem_of_mem_tail ht), hs.anchors⟩

theorem accept_keeps : KeepsOn (accept t) :=
  peek_keeps.bind fun _ _ => .ite (advance_keeps.bind fun _ _ => .pure trivial) (.pure trivial)

theorem expect_keeps : KeepsOn (expect t) :=
  accept_keeps.bind fun _ _ => .ite .throw (.pure trivial)

/-- All but the first of some parts stand after a token. -/
theorem separated_keeps {first : Bool} {k : Unit → Reader α} {Q : α → Prop} (h : Keeps (k ()) Q) :
    Keeps (if (!first) = true then expect t >>= fun u => k u else k ()) Q :=
  .ite (expect_keeps.bind fun _ _ => h) h

theorem orEmpty_keeps {ends : List Token} (hx : Keeps x Node.Implied) : Keeps (orEmpty ends x) Node.Implied :=
  peek_keeps.bind fun _ _ => .ite (.pure .empty) hx

theorem afterColon_keeps {ends : List Token} (hx : Keeps x Node.Implied) :
    Keeps (afterColon ends x) Node.Implied :=
  accept_keeps.bind fun _ _ => .ite (orEmpty_keeps hx) (.pure .empty)

theorem takeAnchor_keeps : KeepsOn takeAnchor := by
  refine peek_keeps.bind fun t _ => ?_
  split
  · exact advance_keeps.bind fun _ _ => .pure trivial
  · exact .pure trivial

theorem takeTag_keeps : Keeps takeTag (· = none) := by
  refine peek_keeps.bind fun t ht => ?_
  split
  · exact absurd rfl (ht.ne_tag _ _)
  · exact .pure rfl

theorem properties_keeps : Keeps properties fun p => p.2 = none := by
  refine takeAnchor_keeps.bind fun first _ => takeTag_keeps.bind fun tag htag => ?_
  subst htag
  exact .ite (takeAnchor_keeps.bind fun _ _ => .pure rfl) (.pure rfl)

theorem addAnchor_keeps (name : String) (node? : Option Node) (h : ∀ node, node? = some node → node.Implied) :
    KeepsOn (modify fun s => { s with anchors := (name, node?) :: s.anchors } : Reader Unit) := by
  refine .modify fun s hs => ⟨hs.tokens, fun other node hmem => ?_⟩
  obtain heq | hmem := List.mem_cons.mp hmem
  · exact h node (Prod.mk.inj heq).2.symm
  · exact hs.anchors other node hmem

theorem anchored_keeps {anchor : Option String} (hx : Keeps x Node.Implied) :
    Keeps (anchored anchor x) Node.Implied := by
  unfold anchored
  cases anchor with
  | none => exact hx
  | some name =>
    refine Keeps.get.bind fun s _ => .ite .throw_bind ?_
    refine (addAnchor_keeps name none fun _ h => nomatch h).bind fun _ _ => hx.bind fun node hnode => ?_
    exact (addAnchor_keeps name (some node) fun _ h => Option.some.inj h ▸ hnode).bind fun _ _ => .pure hnode

theorem aliased_keeps (name : String) : Keeps (aliased name) Node.Implied := by
  refine Keeps.get.bind fun s hs => ?_
  split
  · rename_i node hlookup
    obtain ⟨before, after, hanchors, -⟩ := List.lookup_eq_some_iff.mp hlookup
    exact .pure (hs.anchors name node (hanchors ▸ List.mem_append_cons_self))
  · exact .throw
  · exact .throw

end Reader

open Reader

/-! ## Nodes -/

/-- Without tags, the functions that read nodes give nodes without tags. -/
structure Implying (fuel : ℕ) : Prop where
  node {block indentless : Bool} {depth : ℕ} : Keeps (readNode block indentless depth fuel) Node.Implied
  blockItems {depth : ℕ} : Keeps (readBlockItems depth fuel) fun items => ∀ node ∈ items, node.Implied
  looseItems {depth : ℕ} : Keeps (readLooseItems depth fuel) fun items => ∀ node ∈ items, node.Implied
  blockEntries {depth : ℕ} :
    Keeps (readBlockEntries depth fuel) fun entries => (Node.mapping .map entries).Implied
  flowItems {first : Bool} {depth : ℕ} :
    Keeps (readFlowItems first depth fuel) fun items => ∀ node ∈ items, node.Implied
  flowEntries {first : Bool} {depth : ℕ} :
    Keeps (readFlowEntries first depth fuel) fun entries => (Node.mapping .map entries).Implied

namespace Implying

variable {fuel depth : ℕ} {first block indentless : Bool}

theorem zero : Implying 0 where
  node := .throw
  blockItems := .throw
  looseItems := .throw
  blockEntries := .throw
  flowItems := .throw
  flowEntries := .throw

theorem readNode_succ (ih : Implying fuel) :
    Keeps (readNode block indentless depth (fuel + 1)) Node.Implied := by
  rw [readNode]
  refine peek_keeps.bind fun t _ => ?_
  split
  · exact advance_keeps.bind fun _ _ => aliased_keeps _
  refine properties_keeps.bind fun ⟨anchor, tag⟩ htag => ?_
  dsimp only at htag ⊢
  subst htag
  have hmissing : Keeps (if (anchor.isSome || (none : Option String).isSome) = true then
      anchored anchor (pure (Node.scalar (scalarTag true none []) [])) else throw Fault.badStructure)
      Node.Implied :=
    .ite (anchored_keeps (.pure .empty)) .throw
  have hsequence {items : Reader (List Node)} (h : Keeps items fun items => ∀ node ∈ items, node.Implied) :
      Keeps (anchored anchor do
        if depth ≥ depthLimit then throw .tooDeep
        return .sequence (collectionTag .seq none) (← items)) Node.Implied :=
    anchored_keeps (.ite .throw_bind (h.bind fun _ hitems => .pure (.sequence hitems)))
  have hmapping {entries : Reader (List (Node × Node))}
      (h : Keeps entries fun entries => (Node.mapping .map entries).Implied) :
      Keeps (anchored anchor do
        if depth ≥ depthLimit then throw .tooDeep
        return .mapping (collectionTag .map none) (← entries)) Node.Implied :=
    anchored_keeps (.ite .throw_bind (h.bind fun _ hentries => .pure hentries))
  refine peek_keeps.bind fun t ht => ?_
  split
  · rename_i plain text
    refine advance_keeps.bind fun _ _ => anchored_keeps (.pure ?_)
    cases plain with
    | true => exact .plain ht.tidy
    | false => exact .quoted
  · exact advance_keeps.bind fun _ _ => hsequence ih.flowItems
  · exact advance_keeps.bind fun _ _ => hmapping ih.flowEntries
  · exact .ite (hsequence ih.looseItems) hmissing
  · exact .ite (advance_keeps.bind fun _ _ => hsequence ih.blockItems) hmissing
  · exact .ite (advance_keeps.bind fun _ _ => hmapping ih.blockEntries) hmissing
  · exact hmissing

/-- Adding an item to others. -/
theorem cons_keeps {item : Node} {items : Reader (List Node)} (hitem : item.Implied)
    (h : Keeps items fun items => ∀ node ∈ items, node.Implied) :
    Keeps (do return item :: (← items) : Reader (List Node)) fun items => ∀ node ∈ items, node.Implied :=
  h.bind fun _ hitems => .pure (List.forall_mem_cons.mpr ⟨hitem, hitems⟩)

/-- Adding an entry to others. -/
theorem entry_keeps {key value : Node} {entries : Reader (List (Node × Node))} (hkey : key.Implied)
    (hvalue : value.Implied) (h : Keeps entries fun entries => (Node.mapping .map entries).Implied) :
    Keeps (do return (key, value) :: (← entries) : Reader (List (Node × Node)))
      fun entries => (Node.mapping .map entries).Implied :=
  h.bind fun _ hentries => .pure <| implied_mapping_iff.mpr <|
    List.forall_mem_cons.mpr ⟨⟨hkey, hvalue⟩, implied_mapping_iff.mp hentries⟩

theorem readBlockItems_succ (ih : Implying fuel) :
    Keeps (readBlockItems depth (fuel + 1)) fun items => ∀ node ∈ items, node.Implied := by
  rw [readBlockItems]
  refine accept_keeps.bind fun _ _ => .ite ?_ (expect_keeps.bind fun _ _ => .pure ?_)
  · exact (orEmpty_keeps ih.node).bind fun item hitem => cons_keeps hitem ih.blockItems
  · exact fun _ h => nomatch h

theorem readLooseItems_succ (ih : Implying fuel) :
    Keeps (readLooseItems depth (fuel + 1)) fun items => ∀ node ∈ items, node.Implied := by
  rw [readLooseItems]
  refine accept_keeps.bind fun _ _ => .ite ?_ (.pure ?_)
  · exact (orEmpty_keeps ih.node).bind fun item hitem => cons_keeps hitem ih.looseItems
  · exact fun _ h => nomatch h

theorem readBlockEntries_succ (ih : Implying fuel) :
    Keeps (readBlockEntries depth (fuel + 1)) fun entries => (Node.mapping .map entries).Implied := by
  rw [readBlockEntries]
  refine accept_keeps.bind fun _ _ => .ite ?_ (expect_keeps.bind fun _ _ => .pure ?_)
  · refine (orEmpty_keeps ih.node).bind fun key hkey => (afterColon_keeps ih.node).bind fun value hvalue => ?_
    exact entry_keeps hkey hvalue ih.blockEntries
  · exact implied_mapping_iff.mpr fun _ h => nomatch h

theorem readFlowItems_succ (ih : Implying fuel) :
    Keeps (readFlowItems first depth (fuel + 1)) fun items => ∀ node ∈ items, node.Implied := by
  have hnil : ∀ node ∈ ([] : List Node), node.Implied := fun _ h => nomatch h
  rw [readFlowItems]
  refine accept_keeps.bind fun _ _ => .ite (.pure hnil) (separated_keeps ?_)
  refine accept_keeps.bind fun _ _ => .ite (.pure hnil) (accept_keeps.bind fun _ _ => .ite ?_ ?_)
  · refine (orEmpty_keeps ih.node).bind fun key hkey => (afterColon_keeps ih.node).bind fun value hvalue => ?_
    exact cons_keeps (implied_mapping_iff.mpr (List.forall_mem_singleton.mpr ⟨hkey, hvalue⟩)) ih.flowItems
  · exact ih.node.bind fun item hitem => cons_keeps hitem ih.flowItems

theorem readFlowEntries_succ (ih : Implying fuel) :
    Keeps (readFlowEntries first depth (fuel + 1)) fun entries => (Node.mapping .map entries).Implied := by
  have hnil : (Node.mapping .map []).Implied := implied_mapping_iff.mpr fun _ h => nomatch h
  rw [readFlowEntries]
  refine accept_keeps.bind fun _ _ => .ite (.pure hnil) (separated_keeps ?_)
  refine accept_keeps.bind fun _ _ => .ite (.pure hnil) (accept_keeps.bind fun _ _ => .ite ?_ ?_)
  · refine (orEmpty_keeps ih.node).bind fun key hkey => (afterColon_keeps ih.node).bind fun value hvalue => ?_
    exact entry_keeps hkey hvalue ih.flowEntries
  · exact ih.node.bind fun key hkey => entry_keeps hkey .empty ih.flowEntries

end Implying

theorem implying (fuel : ℕ) : Implying fuel := by
  induction fuel with
  | zero => exact .zero
  | succ fuel ih =>
    exact ⟨ih.readNode_succ, ih.readBlockItems_succ, ih.readLooseItems_succ, ih.readBlockEntries_succ,
      ih.readFlowItems_succ, ih.readFlowEntries_succ⟩

/-! ## Documents -/

theorem readDirectives_keeps {versioned : Bool} {handles : List (String × String)} {fuel : ℕ} :
    KeepsOn (readDirectives versioned handles fuel) := by
  induction fuel generalizing versioned handles with
  | zero => exact .throw
  | succ fuel ih =>
    rw [readDirectives]
    refine peek_keeps.bind fun t _ => ?_
    split
    · exact .ite .throw_bind (advance_keeps.bind fun _ _ => ih)
    · exact .ite .throw_bind (advance_keeps.bind fun _ _ => ih)
    · exact advance_keeps.bind fun _ _ => ih
    · exact .modify fun _ hs => ⟨hs.tokens, hs.anchors⟩

theorem skipDocumentEnds_keeps {fuel : ℕ} : KeepsOn (skipDocumentEnds fuel) := by
  induction fuel with
  | zero => exact .throw
  | succ fuel ih =>
    rw [skipDocumentEnds]
    exact accept_keeps.bind fun _ _ => .ite ih (.pure trivial)

theorem nextDocument_keeps (fuel : ℕ) : KeepsOn (nextDocument fuel) := by
  refine skipDocumentEnds_keeps.bind fun _ _ => peek_keeps.bind fun _ _ => .ite (.pure trivial) ?_
  exact readDirectives_keeps.bind fun _ _ => expect_keeps.bind fun _ _ => .pure trivial

theorem firstDocument_keeps (fuel : ℕ) :
    Keeps (firstDocument fuel) fun node? => ∀ node ∈ node?, node.Implied := by
  have hsome {node : Node} (h : node.Implied) : ∀ node' ∈ some node, node'.Implied := by
    rintro _ ⟨⟩
    exact h
  have hread {depth : ℕ} : Keeps (do return some (← readNode true false depth fuel) : Reader (Option Node))
      fun node? => ∀ node ∈ node?, node.Implied :=
    (implying fuel).node.bind fun _ hnode => .pure (hsome hnode)
  refine peek_keeps.bind fun _ _ => .ite hread ?_
  refine (nextDocument_keeps fuel).bind fun _ _ => .ite (.pure fun _ h => nomatch h) ?_
  exact peek_keeps.bind fun _ _ => .ite (.pure (hsome .empty)) hread

theorem readStream_keeps (fuel : ℕ) : Keeps (readStream fuel) fun node? => ∀ node ∈ node?, node.Implied :=
  (firstDocument_keeps fuel).bind fun _ hnode => (nextDocument_keeps fuel).bind fun _ _ =>
    .ite .throw_bind (.pure hnode)

/-- **A document without tags is a node without tags.** -/
theorem readDocument_implied {cs : List Char} {node : Node} (htags : ∀ t ∈ (tokens cs).1, t.Untagged)
    (h : readDocument cs = .ok (some node)) : node.Implied := by
  obtain ⟨ts, fault, htokens⟩ : ∃ ts fault, tokens cs = (ts, fault) := ⟨_, _, rfl⟩
  rw [readDocument, htokens] at h
  rw [htokens] at htags
  obtain ⟨⟨_, s⟩, hread, rfl⟩ := map_eq_ok.mp h
  have hstart : Reading.Untagged { tokens := ts, fault, handles := usualHandles } :=
    ⟨htags, fun _ _ h => nomatch h⟩
  have hends := readStream_keeps (4 * ts.length + 16) _ hstart
  exact (hends.ok_of hread).1 node rfl

/-! ## Merging mappings -/

/-- What a computation gives for the members of a list. -/
theorem mem_mapM_some {α β : Type} {f : α → Option β} {as : List α} {bs : List β} (h : as.mapM f = some bs) :
    ∀ b ∈ bs, ∃ a ∈ as, f a = some b := by
  induction as generalizing bs with
  | nil =>
    cases h
    exact fun _ h => nomatch h
  | cons a as ih =>
    rw [List.mapM_cons] at h
    obtain ⟨b, hb, h⟩ := Option.bind_eq_some_iff.mp h
    obtain ⟨bs', hbs, h⟩ := Option.bind_eq_some_iff.mp h
    cases h
    refine List.forall_mem_cons.mpr ⟨⟨a, List.mem_cons_self, hb⟩, fun b' hb' => ?_⟩
    obtain ⟨a', ha', hf⟩ := ih hbs b' hb'
    exact ⟨a', List.mem_cons_of_mem a ha', hf⟩

theorem entries_implied {node : Node} {entries : List (Node × Node)} (h : node.Implied)
    (hentries : node.entries? = some entries) : ∀ p ∈ entries, p.1.Implied ∧ p.2.Implied := by
  cases h with
  | mapping hkeys hvalues =>
    cases hentries
    exact fun p hp => ⟨hkeys p hp, hvalues p hp⟩
  | _ => cases hentries

theorem mergedEntries_implied {node : Node} {entries : List (Node × Node)} (h : node.Implied)
    (hentries : node.mergedEntries? = some entries) : ∀ p ∈ entries, p.1.Implied ∧ p.2.Implied := by
  cases h with
  | plain | quoted | valueless => cases hentries
  | mapping hkeys hvalues => exact entries_implied (.mapping hkeys hvalues) hentries
  | sequence hitems =>
    obtain ⟨parts, hparts, rfl⟩ := Option.map_eq_some_iff.mp hentries
    intro p hp
    obtain ⟨part, hpart, hp⟩ := List.mem_flatten.mp hp
    obtain ⟨item, hitem, heq⟩ := mem_mapM_some hparts part (List.mem_reverse.mp hpart)
    exact entries_implied (hitems item hitem) heq p hp

theorem mergeEntries_implied {entries : List (Node × Node)} (h : ∀ p ∈ entries, p.1.Implied ∧ p.2.Implied) :
    ∀ p ∈ mergeEntries entries, p.1.Implied ∧ p.2.Implied := by
  unfold mergeEntries
  rw [List.partition_eq_filter_filter]
  dsimp only
  split
  · rename_i parts hparts
    refine List.forall_mem_append.mpr ⟨fun p hp => ?_, fun p hp => h p (List.mem_of_mem_filter hp)⟩
    obtain ⟨part, hpart, hp⟩ := List.mem_flatten.mp hp
    obtain ⟨q, hq, heq⟩ := mem_mapM_some hparts part hpart
    exact mergedEntries_implied (h q (List.mem_of_mem_filter hq)).2 heq p hp
  · exact List.forall_mem_singleton.mpr ⟨.valueless, .empty⟩

mutual

/-- Merging mappings adds no tags. -/
theorem mergeAll_implied : ∀ {node : Node}, node.Implied → node.mergeAll.Implied
  | .scalar _ _, h => h
  | .sequence _ items, h => by
    cases h with
    | sequence hitems => exact .sequence (mergeItems_implied _ hitems)
  | .mapping _ entries, h => by
    cases h with
    | mapping hkeys hvalues =>
      have hparts := mergeParts_implied fun p hp => ⟨hkeys p hp, hvalues p hp⟩
      exact implied_mapping_iff.mpr (mergeEntries_implied hparts)

theorem mergeItems_implied (paired : Bool) : ∀ {items : List Node}, (∀ node ∈ items, node.Implied) →
    ∀ node ∈ mergeItems paired items, node.Implied
  | [], _ => fun _ h => nomatch h
  | .scalar _ _ :: rest, h => by
    obtain ⟨hitem, hrest⟩ := List.forall_mem_cons.mp h
    exact List.forall_mem_cons.mpr ⟨hitem, mergeItems_implied paired hrest⟩
  | .sequence _ items :: rest, h => by
    obtain ⟨hitem, hrest⟩ := List.forall_mem_cons.mp h
    cases hitem with
    | sequence hitems =>
      refine List.forall_mem_cons.mpr ⟨.sequence ?_, mergeItems_implied paired hrest⟩
      exact mergeItems_implied _ hitems
  | .mapping _ entries :: rest, h => by
    obtain ⟨hitem, hrest⟩ := List.forall_mem_cons.mp h
    cases hitem with
    | mapping hkeys hvalues =>
      have hparts := mergeParts_implied fun p hp => ⟨hkeys p hp, hvalues p hp⟩
      refine List.forall_mem_cons.mpr ⟨implied_mapping_iff.mpr ?_, mergeItems_implied paired hrest⟩
      split_ifs
      · exact hparts
      · exact mergeEntries_implied hparts

theorem mergeParts_implied : ∀ {entries : List (Node × Node)}, (∀ p ∈ entries, p.1.Implied ∧ p.2.Implied) →
    ∀ p ∈ mergeParts entries, p.1.Implied ∧ p.2.Implied
  | [], _ => fun _ h => nomatch h
  | (k, v) :: rest, h => by
    obtain ⟨hentry, hrest⟩ := List.forall_mem_cons.mp h
    exact List.forall_mem_cons.mpr
      ⟨⟨mergeAll_implied hentry.1, mergeAll_implied hentry.2⟩, mergeParts_implied hrest⟩

end

end Gabarit.Yaml
