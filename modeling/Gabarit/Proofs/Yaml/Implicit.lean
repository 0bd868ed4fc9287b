import Gabarit.Proofs.Yaml.Float
import Gabarit.Yaml.Load

/-!
# Values of plain texts

A plain text that has the form of a type is a value of it, with few exceptions.

* `intOfText_fault`, `floatOfText_fault`, `timestampOfText_ends`: what is wrong with texts of any form;
* `formValue_fault`, `scalarValue_fault`: the types whose texts can be no values;
* `Exceptional`, **`ofPlain_fault`**: the plain texts that have no value.
-/

namespace Gabarit.Yaml

open Text

variable {text : List Char} {f : Fault} {P : Fault → Prop}

/-! ## Faults of texts -/

theorem splitSign_ends (text : List Char) : EndsWith (· = .emptyNumber) (fun _ => True) (splitSign text) := by
  unfold splitSign
  split
  · exact .error rfl
  all_goals exact .ok trivial

theorem numberIn_fault (base : ℕ) (cs : List Char) :
    EndsWith (· = .badNumber) (fun _ => True) (numberIn base cs) := by
  unfold numberIn
  dsimp only
  split
  · exact .error rfl
  · exact .ite (.error rfl) (.ok trivial)

theorem intEnds_any (hempty : P .emptyNumber) (hbad : P .badNumber) (cs : List Char) : IntEnds P cs := by
  have hnumber (base : ℕ) (ds : List Char) : EndsWith P (fun _ => True) (numberIn base ds) :=
    (numberIn_fault base ds).mono (fun _ hf => hf ▸ hbad) fun _ => id
  obtain _ | ⟨d, ds⟩ := cs
  · exact .empty hempty
  by_cases hzero : d = '0'
  · subst hzero
    obtain _ | ⟨c, ds⟩ := ds
    · exact .zero
    by_cases hb : c = 'b'
    · exact hb ▸ .binary (hnumber 2 ds)
    by_cases hx : c = 'x'
    · exact hx ▸ .hexadecimal (hnumber 16 ds)
    exact .octal hb hx (hnumber 8 _)
  · exact .decimal hzero fun x _ => hnumber 10 x

theorem intOfText_fault (text : List Char) :
    EndsWith (fun f => f.isMalformed = false) (fun _ => True) (intOfText text) :=
  intOfText_ends ((splitSign_ends text).mono (fun _ hf => hf ▸ rfl) fun q _ =>
    intEnds_any (P := fun f => f.isMalformed = false) rfl rfl q.2)

theorem floatOfText_fault (text : List Char) :
    EndsWith (fun f => f.isMalformed = false) (fun _ => True) (floatOfText text) :=
  floatOfText_ends ((splitSign_ends _).mono (fun _ hf => hf ▸ rfl) fun _ _ => .inr (.inr fun _ _ => .inl rfl))

/-! ## Types -/

theorem isTruthForm_isSome {s : String} (h : isTruthForm s = true) :
    (truthWords.lookup (lower s)).isSome = true := by
  have hwords : ∀ p ∈ truthWords, ∀ s ∈ [p.1, p.1.capitalize, upper p.1],
      (truthWords.lookup (lower s)).isSome = true := by
    decide +kernel
  obtain ⟨p, hp, hs⟩ := List.any_eq_true.mp h
  refine hwords p hp s ?_
  simpa [or_assoc] using hs

/-- What is wrong with a timestamp: its form, or that there is no such day or time. -/
def NoTimestamp (text : List Char) (f : Fault) : Prop :=
  f = .badNumber ∨ f = .notTimestamp ∧ isTimestampForm (dropLineEnd text) = false

theorem timestampOfText_ends (text : List Char) :
    EndsWith (NoTimestamp text) (fun _ => True) (timestampOfText text) := by
  unfold timestampOfText
  split
  · rename_i t ht
    refine .ite (.error (.inl rfl)) ?_
    split
    · exact .ok trivial
    · exact .ite (.error (.inl rfl)) (.ok trivial)
  · rename_i hnone
    refine .error (.inr ⟨rfl, ?_⟩)
    unfold isTimestampForm
    split
    · rename_i heq
      exact absurd heq (hnone _)
    · rfl

theorem base64From_ends (cs : List Char) : ∀ place carry pads,
    EndsWith (· = Fault.badNode) (fun _ => True) (base64From place carry pads cs) := by
  induction cs with
  | nil => exact fun _ _ _ => .ite (.ok trivial) (.error rfl)
  | cons c cs ih =>
    intro place carry pads
    rw [base64From]
    refine .ite (.ite (.ok trivial) (ih _ _ _)) ?_
    split
    · exact ih _ _ _
    · exact .ite (ih _ _ _) ((ih _ _ _).map fun _ _ => trivial)

theorem bytesOfText_ends (text : List Char) :
    EndsWith (· = Fault.badNode) (fun _ => True) (bytesOfText text) :=
  .ite (base64From_ends text 0 0 0) (.error rfl)

/-- A text of one of these types can be no value of it; other texts are values, or make the document a
malformed one. -/
theorem formValue_fault {tag : Tag} (h : formValue tag text = .error f) :
    f.isMalformed = false ↔ tag = .bool ∨ tag = .int ∨ tag = .float ∨ tag = .timestamp := by
  cases tag with
  | bool =>
    rw [formValue] at h
    split at h
    · cases h
    · cases h
      simp [Fault.isMalformed]
  | int =>
    have hfault : EndsWith (fun f => f.isMalformed = false) (fun _ => True) (formValue .int text) :=
      (intOfText_fault text).map fun _ _ => trivial
    simp [hfault.error_of h]
  | float =>
    have hfault : EndsWith (fun f => f.isMalformed = false) (fun _ => True) (formValue .float text) :=
      (floatOfText_fault text).map fun _ _ => trivial
    simp [hfault.error_of h]
  | timestamp =>
    have hfault : EndsWith (NoTimestamp text) (fun _ => True) (formValue .timestamp text) :=
      (timestampOfText_ends text).map fun _ _ => trivial
    obtain rfl | ⟨rfl, -⟩ := hfault.error_of h <;> simp [Fault.isMalformed]
  | binary =>
    have hfault : EndsWith (· = Fault.badNode) (fun _ => True) (formValue .binary text) :=
      (bytesOfText_ends text).map fun _ _ => trivial
    simp [hfault.error_of h, Fault.isMalformed]
  | null | str | omap | pairs | set | seq | map | merge | value | other =>
    cases h
    simp [Fault.isMalformed]

theorem scalarValue_fault {tag : Tag} {ps : List Point} (h : scalarValue tag ps = .error f) :
    f.isMalformed = false ↔ tag = .bool ∨ tag = .int ∨ tag = .float ∨ tag = .timestamp := by
  unfold scalarValue at h
  split at h
  · cases h
  · cases h
  · split at h
    · exact formValue_fault h
    · cases h
      cases tag <;> simp [formFault, Fault.isMalformed]

theorem ofPlain_form (hline : text.getLast? ≠ some '\n') :
    (Tag.ofPlain text = .bool → isTruthForm (String.ofList text) = true) ∧
    (Tag.ofPlain text = .int → isIntForm text = true) ∧
    (Tag.ofPlain text = .float → isFloatForm text = true) ∧
    (Tag.ofPlain text = .timestamp → isTimestampForm text = true) := by
  have hdrop : dropLineEnd text = text := if_neg hline
  refine ⟨fun h => ?_, fun h => ?_, fun h => ?_, fun h => ?_⟩ <;>
    · unfold Tag.ofPlain at h
      dsimp only at h
      rw [hdrop] at h
      split_ifs at h
      assumption

/-- The plain texts that can be no values of the type of their form: some integers, and dates and times
that do not exist. -/
inductive Exceptional (text : List Char) : Prop
  | integer : Tag.ofPlain text = .int → NoInteger text → Exceptional text
  | timestamp : Tag.ofPlain text = .timestamp → Exceptional text

/-- **A plain text has a value**, unless it is an exception. -/
theorem ofPlain_fault (hline : text.getLast? ≠ some '\n') (h : formValue (Tag.ofPlain text) text = .error f)
    (hf : f.isMalformed = false) : f = .badNumber ∧ Exceptional text := by
  obtain ⟨hbool, hint, hfloat, htimestamp⟩ := ofPlain_form hline
  obtain htag | htag | htag | htag := (formValue_fault h).mp hf <;> rw [htag, formValue] at h
  · have hsome := isTruthForm_isSome (hbool htag)
    split at h
    · cases h
    · rename_i hnone
      rw [hnone] at hsome
      cases hsome
  · have hends := intOfText_form (hint htag)
    obtain ⟨hbad, hnone⟩ := (hends.map (R := fun _ => True) fun _ _ => trivial).error_of h
    exact ⟨hbad, .integer htag hnone⟩
  · have hends := floatOfText_form (hfloat htag)
    exact ((hends.map (R := fun _ => True) fun _ _ => trivial).error_of h).elim
  · have hends : EndsWith (NoTimestamp text) (fun _ => True) (.error f) :=
      h ▸ (timestampOfText_ends text).map fun _ _ => trivial
    obtain hbad | ⟨-, hnot⟩ := hends.error_of rfl
    · exact ⟨hbad, .timestamp htag⟩
    · rw [dropLineEnd, if_neg hline, htimestamp htag] at hnot
      cases hnot

end Gabarit.Yaml
