import Gabarit.Artifact.Reader
import Gabarit.Proofs.Outcome

/-!
# What is behind the faults of reading an artifact

Whatever the input is, each reader goes on in it or tells a fault. Two kinds of faults are not turned into
errors of the engine: a text of bytes that are no characters, and values that nest too deeply. They are
only told of inputs that hold such bytes, or many brackets.

* `brackets`: how many arrays and objects an input opens;
* `Founded`: what of an input is behind a fault;
* `Proceeds`: a reader goes on in its input, and its faults are founded there; with one lemma for each way of
  composing, and one for each reader;
* `skipValue_proceeds`: a value that nests too deeply has as many brackets;
* **`Program.founded_of_decode`**: what is behind the faults of decoding.
-/

namespace Gabarit

open Artifact

namespace Artifact

/-- The character opens an array or an object. -/
def isOpening (s : Option Char) : Bool := s == some '[' || s == some '\x7b'

/-- How many brackets the input opens. -/
def brackets (input : Input) : ℕ := input.countP isOpening

/-- What is behind a fault: behind a bad text, bytes that are no characters; behind too deep a nesting, as
many brackets as the depth that is allowed. -/
def Founded (depth : ℕ) (input : Input) : ArtifactFault → Prop
  | .badText => none ∈ input
  | .tooDeep => depth ≤ brackets input
  | .notJson | .wrongShape => True

/-- The reader goes on in the input, or tells a fault that is founded there. -/
def Proceeds {α : Type} (depth : ℕ) (input : Input) (x : Except ArtifactFault (α × Input)) : Prop :=
  EndsWith (Founded depth input) (fun r => r.2 <:+ input) x

variable {α β σ : Type} {depth : ℕ} {input rest : Input}

theorem brackets_le (h : rest <:+ input) : brackets rest ≤ brackets input := h.sublist.countP_le

theorem Founded.mono {f : ArtifactFault} (h : Founded depth rest f) (hrest : rest <:+ input) :
    Founded depth input f := by
  cases f with
  | badText => exact hrest.subset h
  | tooDeep => exact Nat.le_trans h (brackets_le hrest)
  | notJson | wrongShape => trivial

/-- A fault behind an opening bracket is one of a deeper value. -/
theorem Founded.deeper {f : ArtifactFault} (h : Founded depth rest f) (hrest : rest <:+ input)
    (hbrackets : brackets rest < brackets input) : Founded (depth + 1) input f := by
  cases f with
  | badText => exact hrest.subset h
  | tooDeep => exact Nat.le_trans (Nat.succ_le_succ h) hbrackets
  | notJson | wrongShape => trivial

namespace Proceeds

variable {x : Except ArtifactFault (α × Input)}

theorem mono (h : Proceeds depth rest x) (hrest : rest <:+ input) : Proceeds depth input x :=
  EndsWith.mono h (fun _ hf => hf.mono hrest) fun _ hr => hr.trans hrest

theorem ite {c : Prop} [Decidable c] {y : Except ArtifactFault (α × Input)} (hx : Proceeds depth input x)
    (hy : Proceeds depth input y) : Proceeds depth input (if c then x else y) :=
  EndsWith.ite hx hy

/-- One reader after the other. -/
theorem bind {f : α × Input → Except ArtifactFault (β × Input)} (h : Proceeds depth input x)
    (hf : ∀ a rest, Proceeds depth rest (f (a, rest))) : Proceeds depth input (x >>= f) :=
  EndsWith.bind h fun r hr => mono (hf r.1 r.2) hr

/-- What is made of the value that is read. -/
theorem map {g : α × Input → β × Input} (h : Proceeds depth input x) (hg : ∀ r, (g r).2 = r.2) :
    Proceeds depth input (x.map g) :=
  EndsWith.map h fun r hr => (hg r).symm ▸ hr

theorem ok (a : α) (h : rest <:+ input) : Proceeds depth input (.ok (a, rest)) := EndsWith.ok h

theorem notJson : Proceeds depth input (.error .notJson : Except ArtifactFault (α × Input)) :=
  EndsWith.error trivial

theorem wrongShape : Proceeds depth input (.error .wrongShape : Except ArtifactFault (α × Input)) :=
  EndsWith.error trivial

end Proceeds

/-! ## Texts and numerals -/

theorem skipSpace_suffix (input : Input) : skipSpace input <:+ input := List.dropWhile_suffix _

theorem readUnit_suffix {n : ℕ} (h : readUnit input = some (n, rest)) : rest <:+ input := by
  unfold readUnit at h
  split at h
  · split at h
    · cases h
      exact List.suffix_append [_, _, _, _] _
    · cases h
  · cases h

theorem readCoded_suffix {c : Char} (h : readCoded input = some (c, rest)) : rest <:+ input := by
  unfold readCoded at h
  split at h
  · cases h
  · rename_i n first hfirst
    have hsuffix := readUnit_suffix hfirst
    split_ifs at h with hlow hhigh
    · split at h
      · rename_i second
        split at h
        · rename_i m after hsecond
          split_ifs at h
          simp only [Option.some.injEq, Prod.mk.injEq] at h
          obtain ⟨-, rfl⟩ := h
          exact (readUnit_suffix hsecond).trans ((List.suffix_append [_, _] _).trans hsuffix)
        · cases h
      · cases h
    · simp only [Option.some.injEq, Prod.mk.injEq] at h
      obtain ⟨-, rfl⟩ := h
      exact hsuffix

/-- A text has no byte that is no character, if the input has none. -/
theorem readString_ends (fuel : ℕ) (input : Input) :
    EndsWith (fun f => f = .notJson) (fun r => (none ∈ r.1 → none ∈ input) ∧ r.2 <:+ input)
      (readString fuel input) := by
  induction fuel generalizing input with
  | zero => exact .error rfl
  | succ fuel ih =>
    cases input with
    | nil => exact .error rfl
    | cons s rest =>
      have hbehind {after : Input} (h : after <:+ rest) : after <:+ s :: rest :=
        h.trans (List.suffix_cons s rest)
      unfold readString
      dsimp -zeta only
      refine .ite (.ok ⟨nofun, hbehind (List.suffix_refl rest)⟩) (.ite ?escaped
        (.ite (.error rfl) ?plain))
      case escaped =>
        extract_lets escaped
        have hescaped {c : Char} {after : Input} (h : escaped = some (c, after)) : after <:+ rest := by
          dsimp only [escaped] at h
          split at h
          · exact (readCoded_suffix h).trans (List.suffix_cons ..)
          · obtain ⟨c, -, heq⟩ := Option.map_eq_some_iff.mp h
            cases heq
            exact List.suffix_cons ..
          · cases h
        clear_value escaped
        cases h : escaped with
        | none => exact .error rfl
        | some e =>
          obtain ⟨c, after⟩ := e
          refine (ih after).map fun r hr => ⟨fun hmem => ?_, hbehind (hr.2.trans (hescaped h))⟩
          obtain hmem | hmem := List.mem_cons.mp hmem
          · cases hmem
          · exact (hbehind (hescaped h)).subset (hr.1 hmem)
      case plain =>
        refine (ih rest).map fun r hr => ⟨fun hmem => ?_, hbehind hr.2⟩
        obtain hmem | hmem := List.mem_cons.mp hmem
        · exact hmem ▸ List.mem_cons_self
        · exact List.mem_cons_of_mem s (hr.1 hmem)

theorem readString_proceeds (fuel : ℕ) (input : Input) : Proceeds depth input (readString fuel input) :=
  (readString_ends fuel input).mono (by rintro _ rfl; trivial) fun _ hr => hr.2

theorem takeDigits_suffix (input : Input) : (takeDigits input).2 <:+ input := by
  induction input with
  | nil => exact List.suffix_refl _
  | cons s rest ih =>
    cases s with
    | none => exact List.suffix_refl _
    | some c =>
      rw [takeDigits]
      split_ifs
      · exact ih.trans (List.suffix_cons ..)
      · exact List.suffix_refl _

theorem readMinus_suffix (input : Input) : (readMinus input).2 <:+ input := by
  unfold readMinus
  split
  · exact List.suffix_cons ..
  · exact List.suffix_refl _

theorem readSign_suffix (input : Input) : (readSign input).2 <:+ input := by
  unfold readSign
  split
  · exact List.suffix_cons ..
  · exact readMinus_suffix input

theorem readDigits_proceeds (input : Input) : Proceeds depth input (readDigits input) := by
  have hsuffix := takeDigits_suffix input
  unfold readDigits
  split
  · exact .notJson
  · rename_i htake
    rw [htake] at hsuffix
    exact .ok _ hsuffix

theorem readFraction_proceeds (input : Input) : Proceeds depth input (readFraction input) := by
  unfold readFraction
  split
  · exact .mono (.map (readDigits_proceeds _) fun _ => rfl) (List.suffix_cons ..)
  · exact .ok _ (List.suffix_refl _)

theorem readExponent_proceeds (input : Input) : Proceeds depth input (readExponent input) := by
  have hexponent (rest : Input) : Proceeds depth rest
      ((readDigits (readSign rest).2).map fun r => (some ((readSign rest).1, r.1), r.2)) :=
    .mono (.map (readDigits_proceeds _) fun _ => rfl) (readSign_suffix rest)
  unfold readExponent
  split
  · exact (hexponent _).mono (List.suffix_cons ..)
  · exact (hexponent _).mono (List.suffix_cons ..)
  · exact .ok _ (List.suffix_refl _)

theorem readNumeral_proceeds (input : Input) : Proceeds depth input (readNumeral input) := by
  refine .mono (.bind (readDigits_proceeds _) fun whole rest => .ite .notJson ?_) (readMinus_suffix input)
  refine .bind (readFraction_proceeds rest) fun frac rest => ?_
  exact .bind (readExponent_proceeds rest) fun exponent rest => .ok _ (List.suffix_refl rest)

/-! ## Heads -/

/-- The head opens a compound value. -/
def Head.opens : Head → Bool
  | .array | .object => true
  | _ => false

/-- What is known of a head and the input after it. -/
structure HeadOf (input : Input) (head : Head) (rest : Input) : Prop where
  suffix : rest <:+ input
  text : ∀ s, head = .text s → none ∈ s → none ∈ input
  bracket : head.opens = true → brackets rest < brackets input

theorem HeadOf.mono {head : Head} {after : Input} (h : HeadOf rest head after) (hrest : rest <:+ input) :
    HeadOf input head after where
  suffix := h.suffix.trans hrest
  text := fun s hs hmem => hrest.subset (h.text s hs hmem)
  bracket := fun hhead => Nat.lt_of_lt_of_le (h.bracket hhead) (brackets_le hrest)

/-- A bracket opens a compound value. -/
theorem HeadOf.opening {s : Option Char} (hs : isOpening s = true) {head : Head}
    (hhead : ∀ t, head ≠ .text t) (rest : Input) : HeadOf (s :: rest) head rest where
  suffix := List.suffix_cons ..
  text := fun t ht => absurd ht (hhead t)
  bracket := fun _ => by
    rw [brackets, brackets, List.countP_cons_of_pos hs]
    exact Nat.lt_succ_self _

/-- A head that is neither a text nor a bracket. -/
theorem HeadOf.plain {head : Head} (hrest : rest <:+ input) (htext : ∀ s, head ≠ .text s)
    (hopens : head.opens = false) : HeadOf input head rest where
  suffix := hrest
  text := fun s hs => absurd hs (htext s)
  bracket := fun h => absurd (hopens.symm.trans h) (by decide)

theorem readWord_ends {word : String} {head : Head} (htext : ∀ s, head ≠ .text s)
    (hopens : head.opens = false) (s : Option Char) (input : Input) :
    EndsWith (Founded depth (s :: input)) (fun r => HeadOf (s :: input) r.1 r.2) (readWord word head input) :=
  .ite (.ok (.plain ((List.drop_suffix _ _).trans (List.suffix_cons ..)) htext hopens)) (.error trivial)

theorem readHead_ends (depth : ℕ) (input : Input) :
    EndsWith (Founded depth input) (fun r => HeadOf input r.1 r.2) (readHead input) := by
  have hspace := skipSpace_suffix input
  unfold readHead
  generalize skipSpace input = behind at hspace ⊢
  refine EndsWith.mono (P := Founded depth behind) (Q := fun r => HeadOf behind r.1 r.2) ?_
    (fun _ hf => hf.mono hspace) fun _ hr => hr.mono hspace
  split
  · rename_i rest
    refine EndsWith.map ((readString_ends _ rest).mono (by rintro _ rfl; trivial) fun _ hr => hr)
      fun r hr => ?_
    refine ⟨hr.2.trans (List.suffix_cons ..), ?_, nofun⟩
    rintro _ ⟨⟩ hmem
    exact List.mem_cons_of_mem _ (hr.1 hmem)
  · exact .ok (.opening rfl (by nofun) _)
  · exact .ok (.opening rfl (by nofun) _)
  · exact readWord_ends (by nofun) rfl _ _
  · exact readWord_ends (by nofun) rfl _ _
  · exact readWord_ends (by nofun) rfl _ _
  · refine .ite (EndsWith.map (readNumeral_proceeds _) fun r hr => ?_) (.error trivial)
    exact .plain hr (by nofun) rfl
  · exact .error trivial

/-- A value is read on from its head. -/
theorem Proceeds.head {f : Head × Input → Except ArtifactFault (α × Input)}
    (hf : ∀ head rest, HeadOf input head rest → Proceeds depth input (f (head, rest))) :
    Proceeds depth input (readHead input >>= f) :=
  EndsWith.bind (readHead_ends depth input) fun r hr => hf r.1 r.2 hr

/-! ## Compound values -/

theorem nextMember_proceeds (close : Char) (first : Bool) (input : Input) :
    Proceeds depth input (nextMember close first input) := by
  have hspace := skipSpace_suffix input
  unfold nextMember
  generalize skipSpace input = behind at hspace ⊢
  refine Proceeds.mono ?_ hspace
  split
  · rename_i c rest
    refine .ite (.ok _ (List.suffix_cons ..)) (.ite (.ok _ (List.suffix_refl _)) (.ite ?_ .notJson))
    have hrest := skipSpace_suffix rest
    generalize skipSpace rest = after at hrest ⊢
    refine .mono ?_ (List.suffix_cons ..)
    split
    · exact .ite .notJson (.ok _ hrest)
    · exact .ok _ hrest
  · exact .notJson

theorem readArray_proceeds {item : Input → Except ArtifactFault (α × Input)}
    (hitem : ∀ input, Proceeds depth input (item input)) (fuel : ℕ) (first : Bool) (input : Input) :
    Proceeds depth input (readArray item fuel first input) := by
  induction fuel generalizing first input with
  | zero => exact .notJson
  | succ fuel ih =>
    refine .bind (nextMember_proceeds _ _ _) fun more rest => .ite ?_ (.ok _ (List.suffix_refl _))
    exact .bind (hitem _) fun a rest => .bind (ih _ _) fun as rest => .ok _ (List.suffix_refl _)

theorem readKey_proceeds (input : Input) : Proceeds depth input (readKey input) := by
  unfold readKey
  split
  · refine .mono (.bind (readString_proceeds _ _) fun key rest => ?_) (List.suffix_cons ..)
    have hspace := skipSpace_suffix rest
    dsimp only
    generalize skipSpace rest = behind at hspace ⊢
    refine .mono ?_ hspace
    split
    · exact .ok _ (List.suffix_cons ..)
    · exact .notJson
  · exact .notJson

theorem readObject_proceeds {field : Input → σ → Input → Except ArtifactFault (σ × Input)}
    (hfield : ∀ key state input, Proceeds depth input (field key state input)) (fuel : ℕ) (first : Bool)
    (state : σ) (input : Input) : Proceeds depth input (readObject field fuel first state input) := by
  induction fuel generalizing first state input with
  | zero => exact .notJson
  | succ fuel ih =>
    refine .bind (nextMember_proceeds _ _ _) fun more rest => .ite ?_ (.ok _ (List.suffix_refl _))
    exact .bind (readKey_proceeds _) fun key rest => .bind (hfield _ _ _) fun state rest => ih _ _ _

/-- **A value that nests too deeply opens as many brackets as it may nest deep.** -/
theorem skipValue_proceeds (fuel depth : ℕ) (input : Input) :
    Proceeds depth input (skipValue fuel depth input) := by
  induction depth generalizing input with
  | zero => exact EndsWith.error (Nat.zero_le _)
  | succ depth ih =>
    refine .head fun head rest hhead => ?_
    have hdeeper {x : Except ArtifactFault (Unit × Input)} (hopens : head.opens = true)
        (h : Proceeds depth rest x) : Proceeds (depth + 1) input x :=
      EndsWith.mono h (fun _ hf => hf.deeper hhead.suffix (hhead.bracket hopens)) fun _ hr =>
        hr.trans hhead.suffix
    cases head with
    | array => exact hdeeper rfl (.map (readArray_proceeds ih _ _ _) fun _ => rfl)
    | object => exact hdeeper rfl (readObject_proceeds (fun _ _ => ih) _ _ _ _)
    | _ => exact .ok _ hhead.suffix

theorem readList_proceeds {item : Input → Except ArtifactFault (α × Input)}
    (hitem : ∀ input, Proceeds depth input (item input)) (fuel : ℕ) (input : Input) :
    Proceeds depth input (readList item fuel input) := by
  refine .head fun head rest hhead => ?_
  cases head with
  | array => exact .mono (readArray_proceeds hitem _ _ _) hhead.suffix
  | _ => exact .wrongShape

theorem readRecord_proceeds {field : Input → σ → Input → Except ArtifactFault (σ × Input)}
    (hfield : ∀ key state input, Proceeds depth input (field key state input)) (start : σ) (fuel : ℕ)
    (input : Input) : Proceeds depth input (readRecord field start fuel input) := by
  refine .head fun head rest hhead => ?_
  cases head with
  | object => exact .mono (readObject_proceeds hfield _ _ _ _) hhead.suffix
  | _ => exact .wrongShape

/-! ## Scalars -/

theorem mem_of_textOf {s : Input} {f : ArtifactFault} (h : textOf s = .error f) :
    f = .badText ∧ none ∈ s := by
  unfold textOf at h
  split at h
  · cases h
  · rename_i hnone
    cases h
    refine ⟨rfl, ?_⟩
    induction s with
    | nil => cases hnone
    | cons c s ih =>
      cases c with
      | none => exact List.mem_cons_self
      | some c =>
        rw [List.mapM_cons] at hnone
        cases hs : s.mapM id with
        | none => exact List.mem_cons_of_mem _ (ih hs)
        | some cs =>
          rw [hs] at hnone
          cases hnone

theorem HeadOf.proceeds_textOf {s : Input} (h : HeadOf input (.text s) rest) (make : String → α) :
    Proceeds depth input (do return (make (← textOf s), rest)) := by
  cases htext : textOf s with
  | ok t => exact .ok _ h.suffix
  | error f =>
    obtain ⟨rfl, hmem⟩ := mem_of_textOf htext
    exact EndsWith.error (h.text s rfl hmem)

theorem numberOf_ends (n : Numeral) :
    EndsWith (fun f => f = .wrongShape) (fun _ => True) (numberOf n) := by
  unfold numberOf
  exact .ite (.ite (.error rfl) (.ok trivial)) (.ite (.ok trivial) (.error rfl))

theorem Proceeds.number {n : Numeral} {f : Scalar → Except ArtifactFault (α × Input)}
    (hf : ∀ v, Proceeds depth input (f v)) : Proceeds depth input (numberOf n >>= f) :=
  EndsWith.bind ((numberOf_ends n).mono (by rintro _ rfl; trivial) fun _ h => h) fun v _ => hf v

theorem readText_proceeds (input : Input) : Proceeds depth input (readText input) := by
  refine .head fun head rest hhead => ?_
  cases head with
  | text s => exact hhead.proceeds_textOf id
  | _ => exact .wrongShape

theorem readInt_proceeds (input : Input) : Proceeds depth input (readInt input) := by
  refine .head fun head rest hhead => ?_
  cases head with
  | number n =>
    refine .number fun v => ?_
    cases v with
    | int k => exact .ok _ hhead.suffix
    | _ => exact .wrongShape
  | _ => exact .wrongShape

theorem readBool_proceeds (input : Input) : Proceeds depth input (readBool input) := by
  refine .head fun head rest hhead => ?_
  cases head with
  | bool b => exact .ok _ hhead.suffix
  | _ => exact .wrongShape

theorem readScalar_proceeds (input : Input) : Proceeds depth input (readScalar input) := by
  refine .head fun head rest hhead => ?_
  cases head with
  | null | bool b => exact .ok _ hhead.suffix
  | number n => exact .number fun v => .ok _ hhead.suffix
  | text s => exact hhead.proceeds_textOf Scalar.text
  | array | object => exact .wrongShape

theorem readPart_proceeds (input : Input) : Proceeds depth input (readPart input) := by
  refine .bind (readScalar_proceeds input) fun v rest => ?_
  cases v with
  | text s | int n => exact .ok _ (List.suffix_refl _)
  | _ => exact .wrongShape

theorem readOperator_proceeds (input : Input) : Proceeds depth input (readOperator input) := by
  refine .head fun head rest hhead => ?_
  cases head with
  | null => exact .ok _ hhead.suffix
  | text s => exact .ite (.ok _ hhead.suffix) .wrongShape
  | _ => exact .wrongShape

/-! ## Records

The fields of a record are read up to the depth that values may have which are passed over.
-/

theorem skipField_proceeds (fuel : ℕ) (d : σ) (input : Input) :
    Proceeds nestingLimit input ((skipValue fuel nestingLimit input).map fun (_, rest) => (d, rest)) :=
  .map (skipValue_proceeds _ _ _) fun _ => rfl

theorem pathField_proceeds (fuel : ℕ) (key : Input) (d : PathDraft) (input : Input) :
    Proceeds nestingLimit input (pathField fuel key d input) := by
  refine .ite ?expr (.ite ?parts (skipField_proceeds _ _ _))
  case expr => exact .map (readText_proceeds _) fun _ => rfl
  case parts => exact .map (readList_proceeds readPart_proceeds _ _) fun _ => rfl

theorem readPath_proceeds (fuel : ℕ) (input : Input) :
    Proceeds nestingLimit input (readPath fuel input) := by
  refine .bind (readRecord_proceeds (pathField_proceeds fuel) _ _ _) fun d rest => ?_
  dsimp only
  split
  · exact .ok _ (List.suffix_refl _)
  · exact .wrongShape

theorem callField_proceeds (fuel : ℕ) (key : Input) (d : CallDraft) (input : Input) :
    Proceeds nestingLimit input (callField fuel key d input) := by
  refine .ite ?name (.ite ?args (.ite ?slot (skipField_proceeds _ _ _)))
  case name => exact .map (readText_proceeds _) fun _ => rfl
  case args => exact .map (readList_proceeds readScalar_proceeds _ _) fun _ => rfl
  case slot => exact .map (readInt_proceeds _) fun _ => rfl

theorem readCall_proceeds (fuel : ℕ) (input : Input) :
    Proceeds nestingLimit input (readCall fuel input) := by
  refine .bind (readRecord_proceeds (callField_proceeds fuel) _ _ _) fun d rest => ?_
  dsimp only
  split
  · exact .ok _ (List.suffix_refl _)
  · exact .wrongShape

theorem readKind_proceeds (input : Input) : Proceeds depth input (readKind input) := by
  have hspace := skipSpace_suffix input
  unfold readKind
  generalize skipSpace input = behind at hspace ⊢
  refine Proceeds.mono ?_ hspace
  split
  · refine .mono (.bind (readString_proceeds _ _) fun name rest => ?_) (List.suffix_cons ..)
    dsimp only
    split
    · exact .ok _ (List.suffix_refl _)
    · exact .wrongShape
  · exact .notJson
  · exact .wrongShape

theorem nodeField_proceeds (fuel : ℕ) (kind : Kind) (key : Input) (d : NodeDraft) (input : Input) :
    Proceeds nestingLimit input (nodeField fuel kind key d input) := by
  refine .ite ?kind (.ite ?text (.ite ?path (.ite ?filters (.ite ?escape (.ite ?target (.ite ?op
    (.ite ?operand (.ite ?opener (skipField_proceeds _ _ _)))))))))
  case kind =>
    refine .bind (readKind_proceeds _) fun again rest => ?_
    exact .ite (.ok _ (List.suffix_refl _)) .wrongShape
  case text => exact .map (readText_proceeds _) fun _ => rfl
  case path => exact .map (readPath_proceeds _ _) fun _ => rfl
  case filters => exact .map (readList_proceeds (readCall_proceeds _) _ _) fun _ => rfl
  case escape => exact .map (readBool_proceeds _) fun _ => rfl
  case target | opener => exact .map (readInt_proceeds _) fun _ => rfl
  case op => exact .map (readOperator_proceeds _) fun _ => rfl
  case operand => exact .map (readScalar_proceeds _) fun _ => rfl

/-- A kind is found in the input, and what is behind it, if that is told. -/
def FindsKind (input : Input) (x : Except ArtifactFault (Kind × Option Input)) : Prop :=
  EndsWith (Founded nestingLimit input) (fun r => ∀ after ∈ r.2, after <:+ input) x

/-- A kind is found behind what is read first. -/
theorem Proceeds.findsKind {x : Except ArtifactFault (α × Input)}
    {f : α × Input → Except ArtifactFault (Kind × Option Input)} (h : Proceeds nestingLimit input x)
    (hf : ∀ a rest, FindsKind rest (f (a, rest))) : FindsKind input (x >>= f) :=
  EndsWith.bind h fun r hr => (hf r.1 r.2).mono (fun _ hg => hg.mono hr) fun _ hafter after hmem =>
    (hafter after hmem).trans hr

theorem findKind_finds (fuel n : ℕ) (first : Bool) (input : Input) :
    FindsKind input (findKind fuel n first input) := by
  induction n generalizing first input with
  | zero => exact EndsWith.error trivial
  | succ n ih =>
    refine (nextMember_proceeds _ _ _).findsKind fun more rest => EndsWith.ite ?_ (.error trivial)
    refine (readKey_proceeds rest).findsKind fun key rest => EndsWith.ite ?_ ?_
    · refine (readKind_proceeds rest).findsKind fun kind rest => EndsWith.ok ?_
      cases first with
      | true =>
        rintro _ ⟨⟩
        exact List.suffix_refl rest
      | false => exact nofun
    · exact (skipValue_proceeds _ _ rest).findsKind fun _ rest => ih false rest

/-- The fields of a node, and then the node that they make. -/
theorem nodeFields_proceed (fuel : ℕ) (kind : Kind) (first : Bool) (rest : Input) :
    Proceeds nestingLimit rest (do
      let (d, rest) ← readObject (nodeField fuel kind) fuel first {} rest
      match d.node? kind with
      | some node => return (node, rest)
      | none => throw .wrongShape) := by
  refine .bind (readObject_proceeds (nodeField_proceeds fuel kind) _ _ _ _) fun d rest => ?_
  dsimp only
  split
  · exact .ok _ (List.suffix_refl _)
  · exact .wrongShape

theorem readNode_proceeds (fuel : ℕ) (input : Input) :
    Proceeds nestingLimit input (readNode fuel input) := by
  refine .head fun head rest hhead => ?_
  cases head with
  | object =>
    refine .mono (EndsWith.bind (findKind_finds fuel fuel true rest) fun r hr => ?_) hhead.suffix
    obtain ⟨kind, after⟩ := r
    -- the fields start behind the kind, if that came first
    cases after with
    | some after => exact (nodeFields_proceed fuel kind false after).mono (hr after rfl)
    | none => exact nodeFields_proceed fuel kind true rest
  | _ => exact .wrongShape

theorem programField_proceeds (fuel : ℕ) (key : Input) (d : ProgramDraft) (input : Input) :
    Proceeds nestingLimit input (programField fuel key d input) := by
  refine .ite ?nodes (.ite ?version (skipField_proceeds _ _ _))
  case nodes => exact .map (readList_proceeds (readNode_proceeds _) _ _) fun _ => rfl
  case version => exact .map (readInt_proceeds _) fun _ => rfl

theorem readProgram_ends (input : Input) :
    EndsWith (Founded nestingLimit input) (fun _ => True) (readProgram input) := by
  refine EndsWith.bind (readRecord_proceeds (programField_proceeds _) _ _ _) fun r _ => ?_
  dsimp only
  split
  · exact .error trivial
  · exact .ite (.ok trivial) (.error trivial)

end Artifact

/-- **What is behind the faults of decoding**: a text is only bad if there are bytes that are no characters,
and values only nest too deeply if as many brackets are opened as the depth that is allowed. -/
theorem Program.founded_of_decode {bytes : List UInt8} {f : ArtifactFault}
    (h : Program.decode bytes = .error f) : Founded nestingLimit (Utf8.symbols bytes) f :=
  (readProgram_ends _).error_of h

end Gabarit
