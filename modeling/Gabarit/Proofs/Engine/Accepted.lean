import Gabarit.Proofs.Block.Nesting
import Gabarit.Proofs.Engine.Steps

/-!
# Blocks of accepted artifacts

* `nested_of_compile`, `Program.nested_stored`: the blocks of a template, and those of its artifact;
* `Loads.paired`: the blocks of an artifact that is accepted pair up;
* **`blocks_of_loadArtifact`**: they are nested, disjoint or crossing, and nested exactly if the artifact
  holds a tree, as each artifact of a template does;
* `loadArtifact_crossing`: an artifact with crossing blocks is accepted.
-/

namespace Gabarit

variable {d : Disk} {cache : Path} {p : Program} {bytes : List UInt8}

theorem nested_of_compile {filters : Registry} {source : String} {name : Option String}
    (h : compile filters source name = .ok p) : p.Nested := by
  obtain ⟨t, -, rfl⟩ := compile_eq_ok_iff.mp h
  have hnodes : (t.link 0).toArray.toList = t.link 0 := by simp
  exact nested_of_tree hnodes

theorem Program.block_stored {i j : ℕ} : p.stored.Block i j ↔ p.Block i j := by
  have hnode : p.stored.nodes[i]? = p.nodes[i]?.map Node.stored := by
    rw [stored, Array.getElem?_map]
  unfold Block
  rw [hnode]
  constructor
  · rintro ⟨node, hget, hclose⟩
    obtain ⟨kept, hkept, rfl⟩ := Option.map_eq_some_iff.mp hget
    exact ⟨kept, hkept, by rw [← hclose, Node.close?_stored]⟩
  · rintro ⟨node, hget, hclose⟩
    exact ⟨node.stored, by rw [hget, Option.map_some], by rw [Node.close?_stored, hclose]⟩

theorem Program.nested_stored : p.stored.Nested ↔ p.Nested := by
  unfold Nested
  simp only [block_stored]

theorem Loads.paired (h : Loads bytes p) : Paired p.nodes := problem?_eq_none_iff.mp h.2.2

theorem Loads.nested {filters : Registry} {source content : String} {name : Option String} {q : Program}
    (h : Loads (Utf8.encode content.toList) p) (hq : compile filters source name = .ok q)
    (hcontent : q.encode = .ok content) : p.Nested := by
  obtain rfl := eq_stored_of_loads hcontent h
  exact Program.nested_stored.mpr (nested_of_compile hq)

/-- **The blocks of an artifact that is accepted pair up.** Each opening node names a closing node behind it
that names it, and each closing node ends one block. Of two blocks one ends before the other opens, or is
inside the other, or they cross; none cross exactly if the nodes are those of a tree, in which the body of
each block is a tree of its own. The artifact of a template is one of these. -/
theorem blocks_of_loadArtifact (h : loadArtifact d cache = .ok p) :
    (∀ (i : ℕ) (node : Node) (target : Int), p.nodes[i]? = some node → node.close? = some target →
      ∃ e : ℕ, target = e ∧ i < e ∧ p.nodes[e]? = some (.close i)) ∧
    (∀ (e : ℕ) (opener : Int), p.nodes[e]? = some (.close opener) →
      ∃ i : ℕ, opener = i ∧ p.Block i e ∧ ∀ j, p.Block j e → j = i) ∧
    (∀ i e j f, p.Block i e → p.Block j f → i < j → e < j ∨ f < e ∨ j < e ∧ e < f) ∧
    (p.Nested ↔ ∃ t : Tree, p.nodes.toList = t.link 0) ∧
    ∀ (filters : Registry) (source content : String) (name : Option String) (q : Program),
      compile filters source name = .ok q → q.encode = .ok content →
      d.read cache = .ok (Utf8.encode content.toList) → p.Nested := by
  obtain ⟨bytes, hread, hloads⟩ := loadArtifact_eq_ok.mp h
  have hpaired := hloads.paired
  refine ⟨fun i node target hnode hclose => hpaired.opens hnode hclose, fun e opener hclosing => ?_,
    fun i e j f hb hb' hij => hpaired.nested_disjoint_or_crossing hb hb' hij,
    hpaired.nested_iff_exists_tree, ?_⟩
  · obtain ⟨i, hi, -, hopening⟩ := hpaired.closes hclosing
    exact ⟨i, hi, hopening, fun j hb => hpaired.block_left_unique hb hopening⟩
  · intro filters source content name q hq hcontent hread'
    rw [hread] at hread'
    cases hread'
    exact hloads.nested hq hcontent

/-! ## An artifact with crossing blocks -/

/-- The artifact of a program with crossing blocks. -/
def crossingArtifact : String :=
  "\x7b\"nodes\":[\x7b\"kind\":\"if\",\"path\":\x7b\"expr\":\"a\",\"parts\":[\"a\"]\x7d,\"end\":2\x7d," ++
    "\x7b\"kind\":\"foreach\",\"path\":\x7b\"expr\":\"b\",\"parts\":[\"b\"]\x7d,\"end\":4\x7d," ++
    "\x7b\"kind\":\"end\",\"start\":0\x7d,\x7b\"kind\":\"text\",\"text\":\"t\"\x7d," ++
    "\x7b\"kind\":\"end\",\"start\":1\x7d],\"version\":1\x7d"

/-- A disk with this artifact alone. -/
def crossingDisk : Disk := ⟨[(["x.json"], .file (Utf8.encode crossingArtifact.toList) 0)], [], 0⟩

theorem loadArtifact_crossing : loadArtifact crossingDisk (.ofText "x.json") = .ok crossingProgram := by
  decide +kernel

/-- The blocks of the artifact pair up, but they are those of no tree. -/
theorem blocks_of_loadArtifact_crossing :
    loadArtifact crossingDisk (.ofText "x.json") = .ok crossingProgram ∧
      ¬∃ t : Tree, crossingProgram.nodes.toList = t.link 0 := by
  refine ⟨loadArtifact_crossing, fun htree => not_nested_crossing ?_⟩
  exact (blocks_of_loadArtifact loadArtifact_crossing).2.2.2.1.mpr htree

/-- An artifact is accepted in which two blocks are neither nested nor disjoint. -/
theorem exists_loadArtifact_not_nested :
    ∃ (d : Disk) (cache : Path) (p : Program) (i e j f : ℕ), loadArtifact d cache = .ok p ∧
      p.Block i e ∧ p.Block j f ∧ i < j ∧ ¬(e < j ∨ f < e) := by
  refine ⟨crossingDisk, .ofText "x.json", crossingProgram, 0, 2, 1, 4, loadArtifact_crossing, ?_⟩
  refine ⟨⟨_, rfl, rfl⟩, ⟨_, rfl, rfl⟩, ?_, ?_⟩ <;> omega

end Gabarit
