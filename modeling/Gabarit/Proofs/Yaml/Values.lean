import Gabarit.Proofs.Text.Quoted
import Gabarit.Proofs.Yaml.Implicit
import Gabarit.Proofs.Yaml.Nesting
import Gabarit.Proofs.Yaml.Untagged

/-!
# Faults of values

A document that could be read can still hold texts that are no values of their types.

* `Node.Holds`: a text in a node, with its type;
* `build_faults`: the faults of a node are those of its texts, or it is malformed;
* `Node.Implied.holds`: the types of texts without tags;
* `Unvalued`, **`load_fault`**: where the faults of a document come from.
-/

namespace Gabarit.Yaml

/-- The text stands somewhere in the node and has the type. A mapping with the type of a text stands for
its default value. -/
inductive Node.Holds (tag : Tag) (text : List Text.Point) : Node → Prop
  | scalar : Holds tag text (.scalar tag text)
  | default {entries : List (Node × Node)} : defaultText? entries = some text →
      Holds tag text (.mapping tag entries)
  | item {t : Tag} {items : List Node} {node : Node} : node ∈ items → Holds tag text node →
      Holds tag text (.sequence t items)
  | key {t : Tag} {entries : List (Node × Node)} {k v : Node} : (k, v) ∈ entries → Holds tag text k →
      Holds tag text (.mapping t entries)
  | value {t : Tag} {entries : List (Node × Node)} {k v : Node} : (k, v) ∈ entries → Holds tag text v →
      Holds tag text (.mapping t entries)

/-- A fault in a node: of a text that is no value of its type, or of the node as such. -/
def Node.Lacks (node : Node) (f : Fault) : Prop :=
  f = .badNode ∨ ∃ tag text, node.Holds tag text ∧ scalarValue tag text = .error f

theorem Node.Lacks.mono {node outer : Node} {f : Fault} (h : node.Lacks f)
    (hholds : ∀ {tag text}, node.Holds tag text → outer.Holds tag text) : outer.Lacks f :=
  h.imp_right fun ⟨tag, text, hnode, hvalue⟩ => ⟨tag, text, hholds hnode, hvalue⟩

theorem Node.lacks_badNode (node : Node) (n : ℕ) : ∀ p ∈ [(n, Fault.badNode)], node.Lacks p.2 := by
  rintro p (_ | ⟨_, ⟨⟩⟩)
  exact .inl rfl

theorem buildScalar_faults {node : Node} {tag : Tag} {text : Option (List Text.Point)}
    (hnode : ∀ x, text = some x → node.Holds tag x) : ∀ p ∈ (buildScalar tag text).2, node.Lacks p.2 := by
  unfold buildScalar
  split
  · exact node.lacks_badNode 0
  · rename_i x
    split
    · rintro p ⟨⟩
    · rename_i f hvalue
      rintro p (_ | ⟨_, ⟨⟩⟩)
      exact .inr ⟨tag, x, hnode x rfl, hvalue⟩

theorem lacks_deeper {node : Node} {fs : Faults} (h : ∀ p ∈ fs, node.Lacks p.2) :
    ∀ p ∈ fs.deeper, node.Lacks p.2 := by
  intro p hp
  obtain ⟨q, hq, rfl⟩ := List.mem_map.mp hp
  exact h q hq

mutual

/-- The faults of a node are those of its texts, or it is malformed. -/
theorem build_faults : ∀ node : Node, ∀ p ∈ node.build.2, node.Lacks p.2
  | .scalar tag text => by
    rw [Node.build]
    split_ifs
    · exact Node.lacks_badNode _ 1
    · exact buildScalar_faults fun x hx => Option.some.inj hx ▸ .scalar
  | .sequence tag items => by
    have hmember {fs : Faults} (h : ∀ p ∈ fs, ∃ node ∈ items, node.Lacks p.2) :
        ∀ p ∈ fs, (Node.sequence tag items).Lacks p.2 := by
      intro p hp
      obtain ⟨node, hnode, hlacks⟩ := h p hp
      exact hlacks.mono (.item hnode)
    rw [Node.build.eq_def]
    dsimp only
    split
    · exact lacks_deeper (hmember (buildItems_faults items))
    · exact lacks_deeper (hmember (buildPairs_faults items))
    · exact lacks_deeper (hmember (buildPairs_faults items))
    · exact Node.lacks_badNode _ _
  | .mapping tag entries => by
    have hmember : ∀ p ∈ (buildEntries entries).2, (Node.mapping tag entries).Lacks p.2 := by
      intro p hp
      obtain ⟨k, v, hentry, hlacks | hlacks⟩ := buildEntries_faults entries p hp
      · exact hlacks.mono (.key hentry)
      · exact hlacks.mono (.value hentry)
    rw [Node.build.eq_def]
    dsimp only
    split
    · exact lacks_deeper hmember
    · exact lacks_deeper hmember
    · split_ifs
      · exact Node.lacks_badNode _ 1
      · exact buildScalar_faults fun x hx => .default hx

theorem buildItems_faults : ∀ items : List Node, ∀ p ∈ (buildItems items).2, ∃ node ∈ items, node.Lacks p.2
  | [] => by
    rintro p ⟨⟩
  | item :: rest => by
    intro p hp
    rw [buildItems] at hp
    obtain hp | hp := List.mem_append.mp hp
    · exact ⟨item, List.mem_cons_self, build_faults item p hp⟩
    · obtain ⟨node, hnode, h⟩ := buildItems_faults rest p hp
      exact ⟨node, List.mem_cons_of_mem _ hnode, h⟩

theorem buildPairs_faults : ∀ items : List Node, ∀ p ∈ (buildPairs items).2, ∃ node ∈ items, node.Lacks p.2
  | [] => by
    rintro p ⟨⟩
  | .mapping tag [(key, value)] :: rest => by
    intro p hp
    rw [buildPairs] at hp
    obtain hp | hp := List.mem_append.mp hp
    · refine ⟨_, List.mem_cons_self, ?_⟩
      obtain hp | hp := List.mem_append.mp hp
      · exact (build_faults key p hp).mono (.key List.mem_cons_self)
      · exact (build_faults value p hp).mono (.value List.mem_cons_self)
    · obtain ⟨node, hnode, h⟩ := buildPairs_faults rest p hp
      exact ⟨node, List.mem_cons_of_mem _ hnode, h⟩
  | .scalar _ _ :: _ | .sequence _ _ :: _ | .mapping _ [] :: _ | .mapping _ (_ :: _ :: _) :: _ =>
    fun p hp => ⟨_, List.mem_cons_self, Node.lacks_badNode _ 0 p hp⟩

theorem buildEntries_faults : ∀ entries : List (Node × Node), ∀ p ∈ (buildEntries entries).2,
    ∃ k v, (k, v) ∈ entries ∧ (k.Lacks p.2 ∨ v.Lacks p.2)
  | [] => by
    rintro p ⟨⟩
  | (key, value) :: rest => by
    intro p hp
    rw [buildEntries.eq_def] at hp
    dsimp only at hp
    obtain hp | hp := List.mem_append.mp hp
    · refine ⟨key, value, List.mem_cons_self, ?_⟩
      obtain hp | hp := List.mem_append.mp hp
      · left
        obtain hp | hp := List.mem_append.mp hp
        · split at hp
          · cases hp
          · exact build_faults key p hp
        · split_ifs at hp
          · exact Node.lacks_badNode _ 0 p hp
          · cases hp
      · exact .inr (build_faults value p hp)
    · obtain ⟨k, v, hentry, h⟩ := buildEntries_faults rest p hp
      exact ⟨k, v, List.mem_cons_of_mem _ hentry, h⟩

end

/-! ## Types -/

theorem Node.Implied.holds {node : Node} {tag : Tag} {text : List Text.Point} (h : node.Implied)
    (hholds : node.Holds tag text) :
    tag = .str ∨ tag = .other ∨ tag = .map ∨ tag = Tag.ofForm text ∧ text.getLast? ≠ some (.char '\n') := by
  induction hholds with
  | scalar =>
    cases h with
    | plain hline => exact .inr (.inr (.inr ⟨rfl, hline⟩))
    | quoted => exact .inl rfl
    | valueless => exact .inr (.inl rfl)
  | default =>
    cases h
    exact .inr (.inr (.inl rfl))
  | item hitem _ ih =>
    cases h with
    | sequence hitems => exact ih (hitems _ hitem)
  | key hentry _ ih =>
    cases h with
    | mapping hkeys _ => exact ih (hkeys _ hentry)
  | value hentry _ ih =>
    cases h with
    | mapping _ hvalues => exact ih (hvalues _ hentry)

/-! ## Documents -/

theorem first?_mem {fs : Faults} {p : ℕ × Fault} (h : fs.first? = some p) : p ∈ fs := by
  induction fs generalizing p with
  | nil => cases h
  | cons q fs ih =>
    rw [Faults.first?] at h
    split at h
    · rename_i g hg
      split_ifs at h
      · cases h
        exact List.mem_cons_of_mem _ (ih hg)
      · cases h
        exact List.mem_cons_self
    · cases h
      exact List.mem_cons_self

/-- Why a document that is not malformed has no value: it nests too deeply, it holds a character code that
is none, or it could be read and holds a text that is no value of its type. Without tags such a text
is one of the few exceptions. -/
inductive Unvalued (cs : List Char) : Fault → Prop
  | deep : Deep 0 (tokens cs).1 → Unvalued cs .tooDeep
  | code {f : Fault} : BadCode cs f → Unvalued cs f
  | tagged {handle : Option String} {suffix : String} {node : Node} {tag : Tag} {text : List Text.Point}
      {f : Fault} : .tag handle suffix ∈ (tokens cs).1 → readDocument cs = .ok (some node) →
      node.mergeAll.Holds tag text → tag = .bool ∨ tag = .int ∨ tag = .float ∨ tag = .timestamp →
      scalarValue tag text = .error f → Unvalued cs f
  | plain {node : Node} {text : List Char} : readDocument cs = .ok (some node) →
      node.mergeAll.Holds (Tag.ofPlain text) (text.map .char) → Exceptional text →
      formValue (Tag.ofPlain text) text = .error .badNumber → Unvalued cs .badNumber

theorem Unvalued.not_malformed {cs : List Char} {f : Fault} (h : Unvalued cs f) : f.isMalformed = false := by
  cases h with
  | deep | plain => rfl
  | tagged _ _ _ htag hvalue => exact (scalarValue_fault hvalue).mpr htag
  | code hcode =>
    obtain ⟨_, _, digits, _, _, _, hcode⟩ := hcode
    unfold pointOfCode at hcode
    split_ifs at hcode
    · cases hcode
      rfl
    · split at hcode
      · cases hcode
      · cases hcode
        rfl

theorem unvalued_text {cs : List Char} {node : Node} {tag : Tag} {text : List Text.Point} {f : Fault}
    (hread : readDocument cs = .ok (some node)) (hholds : node.mergeAll.Holds tag text)
    (hvalue : scalarValue tag text = .error f) (hf : f.isMalformed = false) : Unvalued cs f := by
  have htypes := (scalarValue_fault hvalue).mp hf
  by_cases htags : ∃ handle suffix, .tag handle suffix ∈ (tokens cs).1
  · obtain ⟨handle, suffix, htag⟩ := htags
    exact .tagged htag hread hholds htypes hvalue
  have huntagged : ∀ t ∈ (tokens cs).1, t.Untagged := fun t ht =>
    ⟨tokens_tidy cs t ht, fun handle suffix heq => htags ⟨handle, suffix, heq ▸ ht⟩⟩
  have himplied := mergeAll_implied (readDocument_implied huntagged hread)
  obtain rfl | rfl | rfl | ⟨rfl, hline⟩ := himplied.holds hholds
  · simp at htypes
  · simp at htypes
  · simp at htypes
  · unfold Tag.ofForm at htypes hholds hvalue
    cases hchars : Text.chars? text with
    | none => simp [hchars] at htypes
    | some cs =>
      obtain rfl := Text.chars?_eq_some.mp hchars
      simp only [hchars] at htypes hholds hvalue
      have hform : scalarValue (Tag.ofPlain cs) (cs.map .char) = formValue (Tag.ofPlain cs) cs := by
        unfold scalarValue
        obtain h | h | h | h := htypes <;> simp only [h, hchars]
      rw [hform] at hvalue
      rw [List.getLast?_map] at hline
      obtain ⟨rfl, hexceptional⟩ := ofPlain_fault (by simpa using hline) hvalue hf
      exact .plain hread hholds hexceptional hvalue

/-- **Where the faults of a document come from**, if it is not malformed. -/
theorem load_fault {s : String} {f : Fault} (h : load s = .error f) :
    f.isMalformed = false ↔ Unvalued s.toList f := by
  refine ⟨fun hf => ?_, Unvalued.not_malformed⟩
  unfold load at h
  dsimp only at h
  split_ifs at h with hallowed
  · cases h
    cases hf
  cases hread : readDocument s.toList with
  | error g =>
    rw [hread] at h
    cases h
    obtain hmalformed | hcode | ⟨rfl, hdeep⟩ := readDocument_fault hread
    · rw [hmalformed] at hf
      cases hf
    · exact .code hcode
    · exact .deep hdeep
  | ok node? =>
    rw [hread] at h
    cases node? with
    | none => cases h
    | some node =>
      simp only [bind, Except.bind] at h
      split at h
      · rename_i depth g hfirst
        cases h
        obtain hbad | ⟨tag, text, hholds, hvalue⟩ := build_faults _ _ (first?_mem hfirst)
        · rw [show f = .badNode from hbad] at hf
          cases hf
        · exact unvalued_text hread hholds hvalue hf
      · cases h

end Gabarit.Yaml
