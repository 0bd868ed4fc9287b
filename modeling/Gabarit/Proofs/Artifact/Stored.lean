import Gabarit.Proofs.Artifact.RoundTrip

/-!
# What artifacts keep

Only numbers that are not finite are lost, and a program with an integer that is written too long cannot
be read again.

* `Program.stored`, `Program.Finite`: the program with null for such numbers, and that it has none;
* `Program.stored_eq_self`: the stored program is the program itself exactly if its numbers are finite;
* `Program.scalars`, `Short`, `Scalar.Fits`: the literals and indexes of a program, and those that are read
  again;
* `exists_encode_iff`: a program is written exactly if each of its literals and indexes is;
* **`Program.decode_encode_short`**: the artifact of a program is read as the stored program, or refused;
* `Program.encode_stored`: the stored program has the same artifact.
-/

namespace Gabarit

open Text

/-! ## Stored programs -/

/-- A literal as it is stored: a number that is not finite has no form. -/
def Scalar.stored : Scalar → Scalar
  | .float x => if x.isFinite then .float x else .null
  | v => v

/-- A filter call as it is stored. -/
def FilterCall.stored (c : FilterCall) : FilterCall := { c with args := c.args.map Scalar.stored }

/-- A node as it is stored. -/
def Node.stored : Node → Node
  | .echo path filters escape => .echo path (filters.map FilterCall.stored) escape
  | .cond path target compares operand => .cond path target compares operand.stored
  | node => node

/-- A program as it is stored. -/
def Program.stored (p : Program) : Program := { p with nodes := p.nodes.map Node.stored }

/-- A literal that is no number beyond the finite ones. -/
def Scalar.Finite : Scalar → Prop
  | .float x => x.isFinite = true
  | _ => True

/-- The literals of a node. -/
def Node.literals : Node → List Scalar
  | .echo _ filters _ => filters.flatMap FilterCall.args
  | .cond _ _ _ operand => [operand]
  | _ => []

/-- All numbers in a program are finite. -/
def Program.Finite (p : Program) : Prop := ∀ node ∈ p.nodes, ∀ v ∈ node.literals, v.Finite

/-- A map leaves a list as it is exactly if it leaves each member as it is. -/
theorem map_eq_self {α : Type} {f : α → α} {as : List α} : as.map f = as ↔ ∀ a ∈ as, f a = a := by
  conv_lhs => rhs; rw [← List.map_id as]
  exact List.map_inj_left

theorem Scalar.stored_eq_self {v : Scalar} : v.stored = v ↔ v.Finite := by
  cases v with
  | float x =>
    rw [Scalar.stored, Scalar.Finite]
    split_ifs with hx <;> simp [hx]
  | _ => exact iff_of_true rfl trivial

theorem FilterCall.stored_eq_self {c : FilterCall} : c.stored = c ↔ ∀ v ∈ c.args, v.Finite := by
  rw [FilterCall.stored, FilterCall.mk.injEq, and_iff_right rfl, and_iff_left rfl, map_eq_self]
  simp only [Scalar.stored_eq_self]

theorem Node.stored_eq_self {node : Node} : node.stored = node ↔ ∀ v ∈ node.literals, v.Finite := by
  cases node with
  | echo path filters escape =>
    rw [Node.stored, Node.echo.injEq, and_iff_right rfl, and_iff_left rfl, map_eq_self, Node.literals,
      List.forall_mem_flatMap]
    simp only [FilterCall.stored_eq_self]
  | cond path target compares operand =>
    rw [Node.stored, Node.literals, List.forall_mem_singleton, ← Scalar.stored_eq_self]
    simp only [Node.cond.injEq, true_and]
  | _ => exact iff_of_true rfl (by simp [Node.literals])

theorem Program.stored_eq_self {p : Program} : p.stored = p ↔ p.Finite := by
  obtain ⟨nodes, version⟩ := p
  rw [Program.stored, Program.mk.injEq, and_iff_left rfl, ← Array.toList_inj, Array.toList_map,
    map_eq_self]
  simp only [Node.stored_eq_self, Program.Finite, Array.mem_toList_iff]

/-! ## Literals and indexes -/

/-- A part of a path as a literal. -/
def PathPart.scalar : PathPart → Scalar
  | .name s => .text s
  | .index n => .int n
  | .broken t => .broken t

/-- The parts of a path as literals. -/
def FieldPath.scalars (p : FieldPath) : List Scalar := p.parts.map PathPart.scalar

/-- The arguments of a filter call, and the place of the piped value. -/
def FilterCall.scalars (c : FilterCall) : List Scalar := c.args ++ [.int c.slot]

/-- The literals and indexes of a node. -/
def Node.scalars : Node → List Scalar
  | .text _ => []
  | .echo path filters _ => path.scalars ++ filters.flatMap FilterCall.scalars
  | .loop path target => path.scalars ++ [.int target]
  | .cond path target _ operand => path.scalars ++ ([.int target] ++ [operand])
  | .close opener => [.int opener]

/-- The literals and indexes of a program. -/
def Program.scalars (p : Program) : List Scalar := p.nodes.toList.flatMap Node.scalars ++ [.int p.version]

/-- The integer that a literal is. -/
def Scalar.int? : Scalar → Option Int
  | .int n => some n
  | _ => none

/-- The integers of a program. -/
def Program.integers (p : Program) : List Int := p.scalars.filterMap Scalar.int?

/-- No text in a program holds a surrogate. -/
def Program.Whole (p : Program) : Prop := ∀ t, .broken t ∉ p.scalars

namespace Artifact

/-- An integer that can be read again: its sign and its digits are not too many. -/
def Short (n : Int) : Prop := (Text.intNumeral n).length ≤ integerWidth

instance (n : Int) : Decidable (Short n) := inferInstanceAs (Decidable (_ ≤ _))

end Artifact

/-- A literal that can be read again. -/
def Scalar.Fits : Scalar → Prop
  | .int n => Artifact.Short n
  | .broken _ => False
  | _ => True

instance (v : Scalar) : Decidable v.Fits := by
  cases v <;> unfold Scalar.Fits <;> infer_instance

theorem Program.forall_fits {p : Program} :
    (∀ v ∈ p.scalars, v.Fits) ↔ (∀ n ∈ p.integers, Artifact.Short n) ∧ p.Whole := by
  simp only [Program.integers, List.mem_filterMap]
  constructor
  · refine fun h => ⟨?_, fun t ht => h _ ht⟩
    rintro n ⟨v, hv, hn⟩
    cases v with
    | int m =>
      cases hn
      exact h _ hv
    | _ => cases hn
  · rintro ⟨hshort, hwhole⟩ v hv
    cases v with
    | int n => exact hshort n ⟨_, hv, rfl⟩
    | broken t => exact hwhole t hv
    | _ => trivial

namespace Artifact

/-- The sign counts: the numbers on the negative side are one digit shorter. -/
theorem short_iff {n : Int} : Short n ↔
    (numeralChars n.natAbs).length + (if n < 0 then 1 else 0) ≤ integerWidth := by
  rw [Short, ← width_intNumeralOf, Numeral.width, Nat.add_comm]
  simp [intNumeralOf]

/-! ## What is kept is what is stored -/

/-- What is kept is a value if all literals in it can be read again, and nothing otherwise. -/
def Keeps {α : Type} (vs : List Scalar) (kept : Except ArtifactFault α) (a : α) : Prop :=
  kept = if ∀ v ∈ vs, v.Fits then .ok a else .error .wrongShape

section Keeps

variable {α β : Type} {vs ws : List Scalar}

theorem Keeps.ok (a : α) : Keeps [] (.ok a) a :=
  (if_pos (by simp)).symm

theorem Keeps.bind {kept : Except ArtifactFault α} {a : α} (h : Keeps vs kept a)
    {f : α → Except ArtifactFault β} {b : β} (hf : Keeps ws (f a) b) :
    Keeps (vs ++ ws) (kept >>= f) b := by
  rw [Keeps, h]
  by_cases hvs : ∀ v ∈ vs, v.Fits
  · rw [if_pos hvs]
    refine Eq.trans hf (if_congr ?_ rfl rfl)
    rw [List.forall_mem_append, and_iff_right hvs]
  · rw [if_neg hvs, if_neg fun h => hvs (List.forall_mem_append.mp h).1]
    rfl

theorem Keeps.map {kept : Except ArtifactFault α} {a : α} (h : Keeps vs kept a) (f : α → β) :
    Keeps vs (kept.map f) (f a) := by
  rw [Keeps, h]
  split_ifs <;> rfl

theorem Keeps.mapM {keep : α → Except ArtifactFault β} {f : α → β} {scalars : α → List Scalar}
    (h : ∀ a, Keeps (scalars a) (keep a) (f a)) (as : List α) :
    Keeps (as.flatMap scalars) (as.mapM keep) (as.map f) := by
  induction as with
  | nil => exact .ok []
  | cons a as ih =>
    rw [mapM_cons_eq, List.flatMap_cons]
    exact (h a).bind (ih.map (f a :: ·))

end Keeps

theorem keepInt_keeps (n : Int) : Keeps [.int n] (keepInt n) n := by
  have hshort : (∀ v ∈ [Scalar.int n], v.Fits) ↔ ¬integerWidth < (intNumeral n).length := by
    rw [List.forall_mem_singleton, Scalar.Fits, Short, not_lt]
  rw [Keeps, keepInt, ← ite_not]
  exact if_congr hshort.symm rfl rfl

theorem keepScalar_keeps (v : Scalar) : Keeps [v] (keepScalar v) v.stored := by
  cases v with
  | int n => exact (keepInt_keeps n).map Scalar.int
  | broken t => exact (if_neg fun h => h _ List.mem_cons_self).symm
  | _ => exact (if_pos fun _ h => List.mem_singleton.mp h ▸ trivial).symm

theorem keepPath_keeps (p : FieldPath) : Keeps p.scalars (keepPath p) p := by
  have hpart (part : PathPart) : Keeps [part.scalar] (keepPart part) part := by
    cases part with
    | name s => exact (if_pos fun _ h => List.mem_singleton.mp h ▸ trivial).symm
    | index n => exact (keepInt_keeps n).map PathPart.index
    | broken t => exact (if_neg fun h => h _ List.mem_cons_self).symm
  have hparts := Keeps.mapM hpart p.parts
  rw [List.map_id', ← List.map_eq_flatMap] at hparts
  exact hparts.map (FieldPath.mk p.expr)

theorem keepCall_keeps (c : FilterCall) : Keeps c.scalars (keepCall c) c.stored := by
  have hargs := Keeps.mapM keepScalar_keeps c.args
  rw [← List.map_eq_flatMap, List.map_id'] at hargs
  exact hargs.bind ((keepInt_keeps c.slot).map _)

theorem keepNode_keeps (node : Node) : Keeps node.scalars (keepNode node) node.stored := by
  cases node with
  | text s => exact .ok _
  | echo path filters escape =>
    exact (keepPath_keeps path).bind ((Keeps.mapM keepCall_keeps filters).map _)
  | loop path target => exact (keepPath_keeps path).bind ((keepInt_keeps target).map _)
  | cond path target compares operand =>
    exact (keepPath_keeps path).bind ((keepInt_keeps target).bind ((keepScalar_keeps operand).map _))
  | close opener => exact (keepInt_keeps opener).map Node.close

theorem keepProgram_keeps (p : Program) : Keeps p.scalars (keepProgram p) p.stored := by
  have hstored : p.stored = ⟨(p.nodes.toList.map Node.stored).toArray, p.version⟩ := by
    rw [Program.stored, ← Array.toList_map]
  rw [hstored]
  exact (Keeps.mapM keepNode_keeps p.nodes.toList).bind ((keepInt_keeps p.version).map _)

/-! ## What can be written -/

/-- Something is written exactly if each of its literals is. -/
def Encodes {α : Type} (vs : List Scalar) (written : Except Fault α) : Prop :=
  (∃ a, written = .ok a) ↔ ∀ v ∈ vs, ∃ cs, writeScalar v = .ok cs

section Encodes

variable {α β : Type} {vs ws : List Scalar} {written : Except Fault α}

theorem Encodes.ok (a : α) : Encodes [] (.ok a) :=
  iff_of_true ⟨a, rfl⟩ (List.forall_mem_nil _)

theorem Encodes.bind (h : Encodes vs written) {f : α → Except Fault β} (hf : ∀ a, Encodes ws (f a)) :
    Encodes (vs ++ ws) (written >>= f) := by
  unfold Encodes at h ⊢
  rw [List.forall_mem_append, ← h]
  constructor
  · rintro ⟨b, hb⟩
    obtain ⟨a, ha, hb⟩ := bind_eq_ok.mp hb
    exact ⟨⟨a, ha⟩, (hf a).mp ⟨b, hb⟩⟩
  · rintro ⟨⟨a, ha⟩, hws⟩
    obtain ⟨b, hb⟩ := (hf a).mpr hws
    exact ⟨b, bind_eq_ok.mpr ⟨a, ha, hb⟩⟩

theorem Encodes.bind_pure (h : Encodes vs written) (f : α → β) :
    Encodes vs (written >>= fun a => pure (f a)) := by
  have hbind := h.bind fun a => Encodes.ok (f a)
  rwa [List.append_nil] at hbind

theorem Encodes.mapM {write : α → Except Fault β} {scalars : α → List Scalar}
    (h : ∀ a, Encodes (scalars a) (write a)) (as : List α) :
    Encodes (as.flatMap scalars) (as.mapM write) := by
  induction as with
  | nil => exact .ok []
  | cons a as ih =>
    rw [List.mapM_cons, List.flatMap_cons]
    exact (h a).bind fun b => ih.bind_pure (b :: ·)

end Encodes

theorem writeScalar_encodes (v : Scalar) : Encodes [v] (writeScalar v) := by
  rw [Encodes, List.forall_mem_singleton]

theorem writeInt_encodes (n : Int) : Encodes [.int n] (writeInt n) := writeScalar_encodes (.int n)

theorem writePath_encodes (p : FieldPath) : Encodes p.scalars (writePath p) := by
  have hpart (part : PathPart) : Encodes [part.scalar] (writePart part) := by
    cases part <;> exact writeScalar_encodes _
  have hparts := Encodes.mapM hpart p.parts
  rw [← List.map_eq_flatMap] at hparts
  exact hparts.bind_pure _

theorem writeCall_encodes (c : FilterCall) : Encodes c.scalars (writeCall c) := by
  have hargs := Encodes.mapM writeScalar_encodes c.args
  rw [← List.map_eq_flatMap, List.map_id'] at hargs
  exact hargs.bind fun _ => (writeInt_encodes c.slot).bind_pure _

theorem writeNode_encodes (node : Node) : Encodes node.scalars (writeNode node) := by
  suffices hfields : Encodes node.scalars (nodeFields node) from hfields.bind_pure _
  cases node with
  | text s => exact .ok _
  | echo path filters escape =>
    exact (writePath_encodes path).bind fun _ => (Encodes.mapM writeCall_encodes filters).bind_pure _
  | loop path target => exact (writePath_encodes path).bind fun _ => (writeInt_encodes target).bind_pure _
  | cond path target compares operand =>
    exact (writePath_encodes path).bind fun _ =>
      (writeInt_encodes target).bind fun _ => (writeScalar_encodes operand).bind_pure _
  | close opener => exact (writeInt_encodes opener).bind_pure _

end Artifact

open Artifact

/-- **A program is written exactly if each of its literals and indexes is.** -/
theorem Program.exists_encode_iff {p : Program} :
    (∃ content, p.encode = .ok content) ↔ ∀ v ∈ p.scalars, ∃ cs, writeScalar v = .ok cs := by
  have hprogram : Encodes p.scalars (writeProgram p) :=
    (Encodes.mapM writeNode_encodes p.nodes.toList).bind fun _ => (writeInt_encodes p.version).bind_pure _
  refine Iff.trans ?_ hprogram
  rw [Program.encode]
  cases writeProgram p <;> simp [Except.map]

theorem Program.whole_of_encode {p : Program} {text : String} (h : p.encode = .ok text) : p.Whole := by
  intro t ht
  obtain ⟨cs, hcs⟩ := Program.exists_encode_iff.mp ⟨text, h⟩ _ ht
  cases hcs

/-- **The artifact of a program is read as the stored program** if all its integers are short, and refused
otherwise. -/
theorem Program.decode_encode_short {p : Program} {text : String} (h : p.encode = .ok text) :
    Program.decode (Utf8.encode text.toList) =
      if ∀ n ∈ p.integers, Short n then .ok p.stored else .error .wrongShape := by
  rw [Program.decode_encode h, keepProgram_keeps p]
  exact if_congr (Program.forall_fits.trans (and_iff_left (Program.whole_of_encode h))) rfl rfl

/-- The artifact of a program is read as the stored program, or refused for an integer that is too
long. -/
theorem Program.decode_encode_keeps {p : Program} {text : String} (h : p.encode = .ok text) :
    Program.decode (Utf8.encode text.toList) = .error .wrongShape ∨
      Program.decode (Utf8.encode text.toList) = .ok p.stored := by
  rw [Program.decode_encode_short h]
  split_ifs
  · exact .inr rfl
  · exact .inl rfl

/-! ## Artifacts of stored programs -/

namespace Artifact

theorem writeScalar_stored (v : Scalar) : writeScalar v.stored = writeScalar v := by
  cases v with
  | float x =>
    rw [Scalar.stored]
    split_ifs with hx
    · rfl
    · rw [writeScalar, writeScalar, writeFloat, if_neg hx]
  | _ => rfl

theorem writeCall_stored (c : FilterCall) : writeCall c.stored = writeCall c := by
  have hargs : c.stored.args.mapM writeScalar = c.args.mapM writeScalar := by
    rw [FilterCall.stored, List.mapM_map]
    exact congrArg (c.args.mapM ·) (funext writeScalar_stored)
  rw [writeCall, hargs]
  rfl

theorem writeNode_stored (node : Node) : writeNode node.stored = writeNode node := by
  cases node with
  | echo path filters escape =>
    have hfilters : (filters.map FilterCall.stored).mapM writeCall = filters.mapM writeCall := by
      rw [List.mapM_map]
      exact congrArg (filters.mapM ·) (funext writeCall_stored)
    rw [Node.stored, writeNode, writeNode, nodeFields, nodeFields, hfilters]
    rfl
  | cond path target compares operand =>
    rw [Node.stored, writeNode, writeNode, nodeFields, nodeFields, writeScalar_stored]
    rfl
  | _ => rfl

end Artifact

theorem Program.encode_stored (p : Program) : p.stored.encode = p.encode := by
  have hnodes : p.stored.nodes.toList.mapM writeNode = p.nodes.toList.mapM writeNode := by
    rw [Program.stored, Array.toList_map, List.mapM_map]
    exact congrArg (p.nodes.toList.mapM ·) (funext writeNode_stored)
  rw [Program.encode, Program.encode, writeProgram, writeProgram, hnodes]
  rfl

/-! ## Blocks of stored programs -/

theorem Node.close?_stored (node : Node) : node.stored.close? = node.close? := by
  cases node <;> rfl

theorem Node.problem?_stored (nodes : Array Node) (index : ℕ) (node : Node) :
    node.stored.problem? (nodes.map Node.stored) index = node.problem? nodes index := by
  have hopens (i : ℕ) : (nodes.map Node.stored)[i]?.bind close? = nodes[i]?.bind close? := by
    rw [Array.getElem?_map]
    cases nodes[i]? with
    | none => rfl
    | some other => exact other.close?_stored
  unfold problem?
  rw [close?_stored]
  cases node.close? with
  | some target =>
    dsimp only
    rw [Array.size_map, Array.getElem?_map]
    cases nodes[target.toNat]? with
    | none => rfl
    | some other => cases other <;> rfl
  | none =>
    cases node with
    | close opener => simp only [Node.stored, hopens]
    | _ => rfl

/-- The blocks of the stored program pair up like those of the program itself. -/
theorem Program.problem?_stored (p : Program) : p.stored.problem? = p.problem? := by
  rw [problem?, problem?, stored, Array.toList_map, List.zipIdx_map, List.findSome?_map]
  exact congrArg (p.nodes.toList.zipIdx.findSome? ·) (funext fun x => Node.problem?_stored _ _ _)

end Gabarit
