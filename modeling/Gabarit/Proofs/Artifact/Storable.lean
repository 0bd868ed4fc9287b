import Gabarit.Proofs.Artifact.Stored

/-!
# Programs that artifacts can hold

* `Program.Storable`: the integers of a program are short, its numbers finite and its texts without
  surrogates;
* `Scalar.Fits.exists_write`: what can be read again can be written;
* `Yields`: whatever a reader gives has a property;
* `Program.keep_of_decode`: whatever is read from an artifact is kept by one;
* **`Program.storable_iff_decode_encode`**: the programs that are read again as they are.
-/

namespace Gabarit

open Text Artifact

/-- A program without integers that are too long, without numbers that are not finite and without
surrogates. -/
structure Program.Storable (p : Program) : Prop where
  short : ∀ n ∈ p.integers, Short n
  whole : p.Whole
  finite : p.Finite

theorem Program.storable_iff_keep {p : Program} : p.Storable ↔ keepProgram p = .ok p := by
  have hkeep : keepProgram p = if ∀ v ∈ p.scalars, v.Fits then .ok p.stored else .error .wrongShape :=
    keepProgram_keeps p
  constructor
  · rintro ⟨hshort, hwhole, hfinite⟩
    rw [hkeep, if_pos (Program.forall_fits.mpr ⟨hshort, hwhole⟩), Program.stored_eq_self.mpr hfinite]
  · intro h
    rw [hkeep] at h
    split_ifs at h with hfits
    obtain ⟨hshort, hwhole⟩ := Program.forall_fits.mp hfits
    exact ⟨hshort, hwhole, Program.stored_eq_self.mp (Except.ok.inj h)⟩

/-! ## Writing -/

namespace Artifact

theorem short_iff_bounds {n : Int} :
    Short n ↔ n.natAbs < 10 ^ (integerWidth - if n < 0 then 1 else 0) := by
  have hwidth : 1 < integerWidth := by decide
  rw [short_iff, ← length_numeralChars_le (by split_ifs <;> omega)]
  split_ifs <;> omega

theorem exists_writeInt {n : Int} (h : n.natAbs < 10 ^ integerWidth) : ∃ cs, writeInt n = .ok cs := by
  have hwidth : digitLimit = integerWidth := rfl
  have hlimit : exceedsDigitLimit n = false := by
    rw [exceedsDigitLimit, decide_eq_false_iff_not, Nat.not_le, Nat.pow_eq, hwidth]
    generalize integerWidth = width at h ⊢
    exact h
  rw [writeInt, hlimit]
  exact ⟨_, rfl⟩

end Artifact

theorem Scalar.Fits.exists_write {v : Scalar} (h : v.Fits) : ∃ cs, writeScalar v = .ok cs := by
  cases v with
  | int n =>
    exact exists_writeInt ((short_iff_bounds.mp h).trans_le (pow_le_pow_right₀ (by decide) (Nat.sub_le _ _)))
  | broken t => exact h.elim
  | _ => exact ⟨_, rfl⟩

theorem Program.Storable.exists_encode {p : Program} (h : p.Storable) : ∃ content, p.encode = .ok content :=
  Program.exists_encode_iff.mpr fun v hv => (Program.forall_fits.mpr ⟨h.short, h.whole⟩ v hv).exists_write

/-! ## Reading -/

namespace Artifact

/-- Whatever a reader gives has a property. -/
def Yields {α : Type} (read : Input → Except ArtifactFault (α × Input)) (P : α → Prop) : Prop :=
  ∀ input a rest, read input = .ok (a, rest) → P a

section Yields

variable {α σ : Type} {P : α → Prop} {I : σ → Prop}

/-- What is made of the values that are read. -/
theorem Yields.map {read : Input → Except ArtifactFault (α × Input)} (h : Yields read P)
    {g : α × Input → σ × Input} (hg : ∀ a rest, P a → I (g (a, rest)).1) :
    Yields (fun input => (read input).map g) I := by
  intro input s rest hread
  obtain ⟨⟨a, after⟩, hread, heq⟩ := map_eq_ok.mp hread
  have hs := hg a after (h input a after hread)
  rwa [heq] at hs

theorem Yields.any {read : Input → Except ArtifactFault (α × Input)} : Yields read fun _ => True :=
  fun _ _ _ _ => trivial

theorem Yields.ite {c : Prop} [Decidable c] {read read' : Input → Except ArtifactFault (α × Input)}
    (h : Yields read P) (h' : Yields read' P) : Yields (fun input => if c then read input else read' input) P := by
  intro input a rest hread
  dsimp only at hread
  split at hread
  · exact h input a rest hread
  · exact h' input a rest hread

theorem readArray_yields {item : Input → Except ArtifactFault (α × Input)} (h : Yields item P) (fuel : ℕ)
    (first : Bool) : Yields (readArray item fuel first) fun as => ∀ a ∈ as, P a := by
  induction fuel generalizing first with
  | zero =>
    intro input as rest hread
    cases hread
  | succ fuel ih =>
    intro input as rest hread
    obtain ⟨⟨more, input⟩, -, hread⟩ := bind_eq_ok.mp hread
    cases more with
    | false =>
      cases hread
      exact List.forall_mem_nil P
    | true =>
      obtain ⟨⟨a, input⟩, hitem, hread⟩ := bind_eq_ok.mp hread
      obtain ⟨⟨as, input⟩, hrest, hread⟩ := bind_eq_ok.mp hread
      cases hread
      exact List.forall_mem_cons.mpr ⟨h _ a _ hitem, ih false _ as _ hrest⟩

theorem readList_yields {item : Input → Except ArtifactFault (α × Input)} (h : Yields item P) (fuel : ℕ) :
    Yields (readList item fuel) fun as => ∀ a ∈ as, P a := by
  intro input as rest hread
  obtain ⟨⟨head, after⟩, -, hread⟩ := bind_eq_ok.mp hread
  cases head with
  | array => exact readArray_yields h fuel true after as rest hread
  | _ => cases hread

/-- What fields keep holds after an object of them. -/
theorem readObject_yields {field : Input → σ → Input → Except ArtifactFault (σ × Input)}
    (h : ∀ key state, I state → Yields (field key state) I) (fuel : ℕ) (first : Bool) {state : σ}
    (hstate : I state) : Yields (readObject field fuel first state) I := by
  induction fuel generalizing first state with
  | zero =>
    intro input s rest hread
    cases hread
  | succ fuel ih =>
    intro input s rest hread
    obtain ⟨⟨more, input⟩, -, hread⟩ := bind_eq_ok.mp hread
    cases more with
    | false =>
      cases hread
      exact hstate
    | true =>
      obtain ⟨⟨key, input⟩, -, hread⟩ := bind_eq_ok.mp hread
      obtain ⟨⟨next, input⟩, hfield, hread⟩ := bind_eq_ok.mp hread
      exact ih false (h key state hstate _ next _ hfield) _ s _ hread

theorem readRecord_yields {field : Input → σ → Input → Except ArtifactFault (σ × Input)}
    (h : ∀ key state, I state → Yields (field key state) I) (fuel : ℕ) {start : σ} (hstart : I start) :
    Yields (readRecord field start fuel) I := by
  intro input s rest hread
  obtain ⟨⟨head, after⟩, -, hread⟩ := bind_eq_ok.mp hread
  cases head with
  | object => exact readObject_yields h fuel true hstart after s rest hread
  | _ => cases hread

end Yields

theorem mapM_eq_self {α : Type} {keep : α → Except ArtifactFault α} {as : List α} :
    as.mapM keep = .ok as ↔ ∀ a ∈ as, keep a = .ok a := by
  rw [mapM_eq_ok_iff]
  exact List.forall₂_same

theorem keepInt_eq_ok {n : Int} : keepInt n = .ok n ↔ Short n := by
  rw [keepInt, Short, ← not_lt]
  split_ifs with h <;> simp [h]

theorem short_of_width {n : Numeral} (h : n.width ≤ integerWidth) :
    Short (if n.negative then -(numeralValue n.whole : Int) else numeralValue n.whole) := by
  have hlt := numeralValue_lt n.whole
  have hwidth : 1 < integerWidth := by decide
  rw [short_iff_bounds]
  rw [Numeral.width] at h
  refine Nat.lt_of_lt_of_le (m := 10 ^ n.whole.length) ?_ (Nat.pow_le_pow_right (by decide) ?_)
  · split_ifs <;> simpa using hlt
  · split_ifs at h ⊢ <;> omega

theorem keepScalar_of_numberOf {n : Numeral} {v : Scalar} (h : numberOf n = .ok v) :
    keepScalar v = .ok v := by
  rw [numberOf] at h
  split at h
  · split at h
    · cases h
    · rename_i hwidth
      cases h
      rw [keepScalar, keepInt_eq_ok.mpr (short_of_width (not_lt.mp hwidth))]
      rfl
  · dsimp only at h
    split at h
    · rename_i hfinite
      cases h
      rw [keepScalar, if_pos hfinite]
    · cases h

theorem readInt_yields : Yields readInt fun n => keepInt n = .ok n := by
  intro input n rest hread
  obtain ⟨⟨head, after⟩, -, hread⟩ := bind_eq_ok.mp hread
  cases head with
  | number m =>
    obtain ⟨v, hv, hread⟩ := bind_eq_ok.mp hread
    cases v with
    | int k =>
      cases hread
      obtain ⟨k, hk, heq⟩ := map_eq_ok.mp (keepScalar_of_numberOf hv)
      cases heq
      exact hk
    | _ => cases hread
  | _ => cases hread

theorem readScalar_yields : Yields readScalar fun v => keepScalar v = .ok v := by
  intro input v rest hread
  obtain ⟨⟨head, after⟩, -, hread⟩ := bind_eq_ok.mp hread
  cases head with
  | number m =>
    obtain ⟨w, hw, hread⟩ := bind_eq_ok.mp hread
    cases hread
    exact keepScalar_of_numberOf hw
  | text s =>
    obtain ⟨t, -, hread⟩ := bind_eq_ok.mp hread
    cases hread
    rfl
  | null | bool b =>
    cases hread
    rfl
  | array | object => cases hread

theorem readPart_yields : Yields readPart fun part => keepPart part = .ok part := by
  intro input part rest hread
  obtain ⟨⟨v, after⟩, hv, hread⟩ := bind_eq_ok.mp hread
  cases v with
  | text s =>
    cases hread
    rfl
  | int n =>
    cases hread
    obtain ⟨k, hk, heq⟩ := map_eq_ok.mp (readScalar_yields input _ _ hv)
    cases heq
    rw [keepPart, hk]
    rfl
  | _ => cases hread

/-! ## Records -/

/-- The parts that have been read of a path are kept. -/
def PathDraft.Kept (d : PathDraft) : Prop := ∀ parts ∈ d.parts, parts.mapM keepPart = .ok parts

theorem pathField_yields (fuel : ℕ) (key : Input) (d : PathDraft) (h : d.Kept) :
    Yields (pathField fuel key d) PathDraft.Kept := by
  unfold pathField
  refine .ite ?expr (.ite ?parts ?unknown)
  case expr => exact Yields.any.map fun _ _ _ => h
  case parts =>
    refine (readList_yields readPart_yields fuel).map fun parts _ hparts => ?_
    rintro _ ⟨⟩
    exact mapM_eq_self.mpr hparts
  case unknown => exact Yields.any.map fun _ _ _ => h

theorem readPath_yields (fuel : ℕ) : Yields (readPath fuel) fun p => keepPath p = .ok p := by
  intro input p rest hread
  obtain ⟨⟨d, after⟩, hd, hread⟩ := bind_eq_ok.mp hread
  have hstart : PathDraft.Kept {} := by
    rintro _ ⟨⟩
  have hkept : d.Kept := readRecord_yields (pathField_yields fuel) fuel hstart input d after hd
  dsimp only at hread
  split at hread
  · rename_i expr parts hexpr hparts
    cases hread
    rw [keepPath, hkept parts hparts]
    rfl
  · cases hread

/-- The arguments and the slot that have been read of a call are kept. -/
structure CallDraft.Kept (d : CallDraft) : Prop where
  args : d.args.mapM keepScalar = .ok d.args
  slot : keepInt d.slot = .ok d.slot

theorem callField_yields (fuel : ℕ) (key : Input) (d : CallDraft) (h : d.Kept) :
    Yields (callField fuel key d) CallDraft.Kept := by
  unfold callField
  refine .ite ?name (.ite ?args (.ite ?slot ?unknown))
  case name => exact Yields.any.map fun _ _ _ => { h with }
  case args =>
    exact (readList_yields readScalar_yields fuel).map fun args _ hargs =>
      { h with args := mapM_eq_self.mpr hargs }
  case slot => exact readInt_yields.map fun slot _ hslot => { h with slot := hslot }
  case unknown => exact Yields.any.map fun _ _ _ => h

theorem readCall_yields (fuel : ℕ) : Yields (readCall fuel) fun c => keepCall c = .ok c := by
  intro input c rest hread
  obtain ⟨⟨d, after⟩, hd, hread⟩ := bind_eq_ok.mp hread
  have hkept : d.Kept :=
    readRecord_yields (callField_yields fuel) fuel ⟨rfl, rfl⟩ input d after hd
  dsimp only at hread
  split at hread
  · cases hread
    rw [keepCall, hkept.args, hkept.slot]
    rfl
  · cases hread

/-- What has been read of a node is kept. -/
structure NodeDraft.Kept (d : NodeDraft) : Prop where
  path : ∀ p ∈ d.path, keepPath p = .ok p
  filters : d.filters.mapM keepCall = .ok d.filters
  target : ∀ n ∈ d.target, keepInt n = .ok n
  operand : keepScalar d.operand = .ok d.operand
  opener : ∀ n ∈ d.opener, keepInt n = .ok n

theorem nodeField_yields (fuel : ℕ) (kind : Kind) (key : Input) (d : NodeDraft) (h : d.Kept) :
    Yields (nodeField fuel kind key d) NodeDraft.Kept := by
  unfold nodeField
  refine .ite ?kind (.ite ?text (.ite ?path (.ite ?filters (.ite ?escape (.ite ?target (.ite ?op
    (.ite ?operand (.ite ?opener ?unknown))))))))
  case kind =>
    intro input d' rest hread
    obtain ⟨⟨again, after⟩, -, hread⟩ := bind_eq_ok.mp hread
    dsimp only at hread
    split at hread
    · cases hread
      exact h
    · cases hread
  case path =>
    refine (readPath_yields fuel).map fun p _ hp => { h with path := ?_ }
    rintro _ ⟨⟩
    exact hp
  case filters =>
    exact (readList_yields (readCall_yields fuel) fuel).map fun calls _ hcalls =>
      { h with filters := mapM_eq_self.mpr hcalls }
  case target =>
    refine readInt_yields.map fun n _ hn => { h with target := ?_ }
    rintro _ ⟨⟩
    exact hn
  case operand => exact readScalar_yields.map fun v _ hv => { h with operand := hv }
  case opener =>
    refine readInt_yields.map fun n _ hn => { h with opener := ?_ }
    rintro _ ⟨⟩
    exact hn
  case text | escape | op => exact Yields.any.map fun _ _ _ => { h with }
  case unknown => exact Yields.any.map fun _ _ _ => h

theorem NodeDraft.Kept.node {d : NodeDraft} (h : d.Kept) {kind : Kind} {node : Node}
    (hnode : d.node? kind = some node) : keepNode node = .ok node := by
  cases kind with
  | text =>
    obtain ⟨s, -, rfl⟩ := Option.map_eq_some_iff.mp hnode
    rfl
  | echo =>
    obtain ⟨p, hp, rfl⟩ := Option.map_eq_some_iff.mp hnode
    rw [keepNode, h.path p hp, h.filters]
    rfl
  | loop =>
    rw [NodeDraft.node?] at hnode
    split at hnode
    · rename_i p n hp hn
      cases hnode
      rw [keepNode, h.path p hp, h.target n hn]
      rfl
    · cases hnode
  | cond =>
    rw [NodeDraft.node?] at hnode
    split at hnode
    · rename_i p n hp hn
      cases hnode
      rw [keepNode, h.path p hp, h.target n hn, h.operand]
      rfl
    · cases hnode
  | close =>
    obtain ⟨n, hn, rfl⟩ := Option.map_eq_some_iff.mp hnode
    rw [keepNode, h.opener n hn]
    rfl

theorem readNode_yields (fuel : ℕ) : Yields (readNode fuel) fun node => keepNode node = .ok node := by
  intro input node rest hread
  obtain ⟨⟨head, input⟩, -, hread⟩ := bind_eq_ok.mp hread
  cases head with
  | object =>
    obtain ⟨⟨kind, after⟩, -, hread⟩ := bind_eq_ok.mp hread
    have hstart : NodeDraft.Kept {} := ⟨nofun, rfl, nofun, rfl, nofun⟩
    -- the fields start behind the kind, if that came first
    cases after
    all_goals
      obtain ⟨⟨d, rest'⟩, hd, hread⟩ := bind_eq_ok.mp hread
      have hkept : d.Kept := readObject_yields (nodeField_yields fuel kind) fuel _ hstart _ d _ hd
      dsimp only at hread
      split at hread
      · rename_i hnode
        cases hread
        exact hkept.node hnode
      · cases hread
  | _ => cases hread

/-- What has been read of a program is kept. -/
structure ProgramDraft.Kept (d : ProgramDraft) : Prop where
  nodes : ∀ nodes ∈ d.nodes, nodes.mapM keepNode = .ok nodes
  version : keepInt d.version = .ok d.version

theorem programField_yields (fuel : ℕ) (key : Input) (d : ProgramDraft) (h : d.Kept) :
    Yields (programField fuel key d) ProgramDraft.Kept := by
  unfold programField
  refine .ite ?nodes (.ite ?version ?unknown)
  case nodes =>
    refine (readList_yields (readNode_yields fuel) fuel).map fun nodes _ hnodes => { h with nodes := ?_ }
    rintro _ ⟨⟩
    exact mapM_eq_self.mpr hnodes
  case version => exact readInt_yields.map fun n _ hn => { h with version := hn }
  case unknown => exact Yields.any.map fun _ _ _ => h

end Artifact

/-- Whatever is read from an artifact is kept as it is by one. -/
theorem Program.keep_of_decode {bytes : List UInt8} {p : Program} (h : Program.decode bytes = .ok p) :
    keepProgram p = .ok p := by
  rw [Program.decode, readProgram] at h
  obtain ⟨⟨d, rest⟩, hd, h⟩ := bind_eq_ok.mp h
  have hstart : ProgramDraft.Kept {} := ⟨by rintro _ ⟨⟩, rfl⟩
  have hkept : d.Kept := readRecord_yields (programField_yields _) _ hstart _ d rest hd
  dsimp only at h
  split at h
  · cases h
  · rename_i nodes hnodes
    split_ifs at h
    cases h
    rw [keepProgram, List.toList_toArray, hkept.nodes nodes hnodes, hkept.version]
    rfl

/-- **A program is read again as it is from its artifact** exactly if it is storable; and all that is ever
read from an artifact is: writing it again is a normal form. -/
theorem Program.storable_iff_decode_encode :
    (∀ p : Program, p.Storable ↔
      ∃ content, p.encode = .ok content ∧ Program.decode (Utf8.encode content.toList) = .ok p) ∧
    ∀ bytes p, Program.decode bytes = .ok p →
      ∃ content, p.encode = .ok content ∧ Program.decode (Utf8.encode content.toList) = .ok p := by
  have hback (p : Program) (h : p.Storable) :
      ∃ content, p.encode = .ok content ∧ Program.decode (Utf8.encode content.toList) = .ok p := by
    obtain ⟨content, hcontent⟩ := h.exists_encode
    exact ⟨content, hcontent, by rw [Program.decode_encode hcontent, Program.storable_iff_keep.mp h]⟩
  have hread (bytes : List UInt8) (p : Program) (h : Program.decode bytes = .ok p) : p.Storable :=
    Program.storable_iff_keep.mpr (Program.keep_of_decode h)
  refine ⟨fun p => ⟨hback p, ?_⟩, fun bytes p h => hback p (hread bytes p h)⟩
  rintro ⟨content, -, hdecode⟩
  exact hread _ p hdecode

/-- An artifact with fields in another order, a field that is not known, a blank and an escape. -/
def scrambledArtifact : List UInt8 :=
  Utf8.encode
    "\x7b \"version\":2,\"by\":[-0.0],\"nodes\":[\x7b\"text\":\"\\u00e9\",\"kind\":\"text\"\x7d]\x7d".toList

theorem Program.storable_iff_decode_encode_scrambled :
    Program.decode scrambledArtifact = .ok ⟨#[.text "é"], 2⟩ ∧
      ∃ content, Program.encode ⟨#[.text "é"], 2⟩ = .ok content ∧
        Program.decode (Utf8.encode content.toList) = .ok ⟨#[.text "é"], 2⟩ := by
  have hdecode : Program.decode scrambledArtifact = .ok ⟨#[.text "é"], 2⟩ := by decide +kernel
  exact ⟨hdecode, Program.storable_iff_decode_encode.2 scrambledArtifact _ hdecode⟩

/-! ## The longest integers -/

namespace Artifact

/-- The greatest negative number with as many digits as an integer may have characters. -/
def overlong : Int := -10 ^ (integerWidth - 1)

theorem natAbs_overlong : overlong.natAbs = 10 ^ (integerWidth - 1) := by
  have hten : Int.natAbs 10 = 10 := rfl
  rw [overlong, Int.natAbs_neg, Int.natAbs_pow, hten]

theorem overlong_neg : overlong < 0 := by
  rw [overlong, neg_lt_zero]
  exact pow_pos (by decide) _

/-- Its digits alone are not too many. -/
theorem length_overlong : (numeralChars overlong.natAbs).length = integerWidth := by
  have hwidth : 1 < integerWidth := by decide
  rw [natAbs_overlong]
  generalize integerWidth = width at hwidth ⊢
  refine Nat.le_antisymm ((length_numeralChars_le (by omega)).mpr ?_) (Nat.le_of_not_lt fun hlt => ?_)
  · exact Nat.pow_lt_pow_right (by decide) (by omega)
  · exact absurd ((length_numeralChars_le (by omega)).mp (Nat.le_sub_one_of_lt hlt)) (lt_irrefl _)

theorem not_short_overlong : ¬Short overlong := by
  rw [short_iff, length_overlong, if_pos overlong_neg]
  exact Nat.not_succ_le_self _

theorem exists_writeInt_overlong : ∃ cs, writeInt overlong = .ok cs := by
  refine exists_writeInt ?_
  have hlength := length_overlong
  generalize overlong = n at hlength ⊢
  rw [← length_numeralChars_le (by decide), hlength]

/-- A program with such a number is written, and refused when it is read. -/
theorem encode_overlong {p : Program} (h : p.integers = [overlong, layoutVersion]) (hwhole : p.Whole) :
    ∃ content, p.encode = .ok content ∧
      Program.decode (Utf8.encode content.toList) = .error .wrongShape := by
  have hversion : (Scalar.int layoutVersion).Fits := show Short layoutVersion by decide
  obtain ⟨content, hcontent⟩ : ∃ content, p.encode = .ok content := by
    refine Program.exists_encode_iff.mpr fun v hv => ?_
    cases v with
    | int n =>
      have hn : n ∈ p.integers := List.mem_filterMap.mpr ⟨_, hv, rfl⟩
      rw [h, List.mem_cons, List.mem_singleton] at hn
      obtain hn | hn := hn
      · rw [hn, writeScalar]
        exact exists_writeInt_overlong
      · rw [hn]
        exact hversion.exists_write
    | broken t => exact absurd hv (hwhole t)
    | _ => exact ⟨_, rfl⟩
  refine ⟨content, hcontent, ?_⟩
  rw [Program.decode_encode_short hcontent, if_neg]
  rw [h, List.forall_mem_cons]
  exact fun h => not_short_overlong h.1

end Artifact

/-- A closing node with such a number. -/
def overlongClose : Program := ⟨#[.close overlong], layoutVersion⟩

/-- Its numeral has no more than 4300 digits, but 4301 characters: it is written, and not read again. -/
theorem Program.decode_encode_overlongClose :
    (∀ n ∈ overlongClose.integers, (numeralChars n.natAbs).length ≤ 4300) ∧ overlongClose.Whole ∧
      overlongClose.Finite ∧ ∃ content, overlongClose.encode = .ok content ∧
        Program.decode (Utf8.encode content.toList) = .error .wrongShape := by
  have hintegers : overlongClose.integers = [overlong, layoutVersion] := rfl
  have hwhole : overlongClose.Whole := by
    simp [Program.Whole, Program.scalars, Node.scalars, overlongClose]
  refine ⟨?_, hwhole, ?_, encode_overlong hintegers hwhole⟩
  · rw [hintegers, List.forall_mem_cons, List.forall_mem_singleton, length_overlong]
    exact ⟨le_rfl, by decide⟩
  · intro node hnode v hv
    obtain rfl := Array.mem_singleton.mp hnode
    cases hv

end Gabarit
