import Gabarit.Proofs.Artifact.Storable
import Gabarit.Proofs.Block.Single
import Gabarit.Proofs.Block.Written
import Gabarit.Proofs.Engine.Steps

/-!
# One program for all registries

A template has the same program with every registry that has a program for it. So an engine that finds
the program of another engine in an artifact only has to check its filter calls.

* `checkCalls_stored`: artifacts keep what is checked;
* **`compile_iff_checkCalls`**: an engine accepts the calls of a program exactly if it compiles the
  template, and the first refused call is what the compilation fails at;
* `overlongTemplate`: a template with a program that cannot be read from its artifact.
-/

namespace Gabarit

open Text Artifact

theorem Registry.checkAll_stored (r : Registry) (cs : List FilterCall) :
    r.checkAll (cs.map FilterCall.stored) = r.checkAll cs := by
  induction cs with
  | nil => rfl
  | cons c cs ih => rw [List.map_cons, checkAll_cons, checkAll_cons, check_stored, ih]

theorem checkCalls_stored (e : Engine) (p : Program) : e.checkCalls p.stored = e.checkCalls p := by
  rw [checkCalls_eq, checkCalls_eq, Program.calls_stored, Registry.checkAll_stored]

theorem checkCalls_decode {p q : Program} {content : String} (hcontent : p.encode = .ok content)
    (hq : Program.decode (Utf8.encode content.toList) = .ok q) (e : Engine) :
    e.checkCalls q = e.checkCalls p := by
  rw [Program.decode_encode_short hcontent] at hq
  split_ifs at hq
  cases hq
  exact checkCalls_stored e p

/-- **An engine compiles a template exactly if it accepts the filter calls of its program**, and then to
the same program; otherwise it fails at the first refused call. The program in an artifact tells the
same, if it can be read: if none of its integers is too long. -/
theorem compile_iff_checkCalls {filters : Registry} {source : String} {name : Option String} {p : Program}
    (h : compile filters source name = .ok p) (e : Engine) (name' : Option String) :
    ((∃ q, compile e.filters source name' = .ok q) ↔ e.checkCalls p = .ok ()) ∧
    (∀ q, compile e.filters source name' = .ok q → q = p) ∧
    (∀ f, e.checkCalls p = .error f → ∃ token cause line, f = .tag token cause ∧
      compile e.filters source name' = .error (.error (.compile ⟨cause, token, some line, name'⟩))) ∧
    ∀ content, p.encode = .ok content →
      ((∃ q, Program.decode (Utf8.encode content.toList) = .ok q) ↔ ∀ n ∈ p.integers, Short n) ∧
      ∀ q, Program.decode (Utf8.encode content.toList) = .ok q → e.checkCalls q = e.checkCalls p := by
  obtain ⟨line, hline⟩ := compile_eq_checkAll h e.filters name'
  rw [← checkCalls_eq] at hline
  have hartifact (content : String) (hcontent : p.encode = .ok content) :
      (∃ q, Program.decode (Utf8.encode content.toList) = .ok q) ↔ ∀ n ∈ p.integers, Short n := by
    rw [Program.decode_encode_short hcontent]
    split_ifs with hshort
    · exact iff_of_true ⟨p.stored, rfl⟩ hshort
    · exact iff_of_false nofun hshort
  refine ⟨?_, ?_, ?_, fun content hcontent =>
    ⟨hartifact content hcontent, fun q hq => checkCalls_decode hcontent hq e⟩⟩
  · rw [hline]
    cases e.checkCalls p with
    | ok _ => exact iff_of_true ⟨p, rfl⟩ rfl
    | error f => exact iff_of_false nofun nofun
  · intro q hq
    rw [hline, mapError_eq_ok] at hq
    obtain ⟨_, -, rfl⟩ := map_eq_ok.mp hq
    rfl
  · intro f hf
    obtain ⟨token, cause, rfl⟩ := (Registry.checkAll_eq_error ((checkCalls_eq e p).symm.trans hf)).resolve_right
      fun ⟨⟨c, hc, hslot⟩, _⟩ => hslot (compile_hasSlot h c hc)
    refine ⟨token, cause, line, rfl, ?_⟩
    rw [hline, hf]
    cases name' <;> rfl

/-- The program of `{{ x | upper }}`. -/
def upperProgram : Program := ⟨#[.echo ⟨"x", [.name "x"]⟩ [⟨"upper", [], 0⟩] false], layoutVersion⟩

/-- An engine without filters fails at the one of this template. -/
theorem compile_iff_checkCalls_upper :
    compile .standard "{{ x | upper }}" = .ok upperProgram ∧
      Engine.checkCalls { filters := .empty } upperProgram = .error (.tag "upper" .unknownFilter) ∧
      ∃ token cause line, .tag "upper" .unknownFilter = Failure.tag token cause ∧
        compile .empty "{{ x | upper }}" = .error (.error (.compile ⟨cause, token, some line, none⟩)) := by
  have hcompile : compile .standard "{{ x | upper }}" = .ok upperProgram := by decide +kernel
  have hcheck : Engine.checkCalls { filters := .empty } upperProgram =
      .error (.tag "upper" .unknownFilter) := rfl
  exact ⟨hcompile, hcheck,
    (compile_iff_checkCalls hcompile { filters := .empty } none).2.2.1 _ hcheck⟩

/-! ## A program that is not read again -/

/-- The path to the item at the longest negative index. -/
def overlongPath : FieldPath :=
  ⟨String.ofList (FieldPath.indexChars (numeralChars overlong.natAbs)), [.name "x", .index overlong]⟩

/-- The template that writes this item. -/
def overlongTemplate : String :=
  String.ofList (single (FieldPath.indexChars (numeralChars overlong.natAbs)))

/-- The program of this template. -/
def overlongProgram : Program := ⟨#[.echo overlongPath [] true], layoutVersion⟩

theorem compile_overlongTemplate (filters : Registry) (name : Option String) :
    compile filters overlongTemplate name = .ok overlongProgram := by
  have hdigits := digits_numeralChars overlong.natAbs
  have hpath := FieldPath.parse_index hdigits (numeralChars_ne_nil _) length_overlong.le
  rw [numeralValue_numeralChars, Int.ofNat_natAbs_of_nonpos overlong_neg.le, neg_neg] at hpath
  have hbody := FieldPath.trim_indexChars (numeralChars overlong.natAbs)
  exact compile_single (FieldPath.plain_indexChars hdigits) (FieldPath.dropSpaces_indexChars _)
    (hbody.symm ▸ hpath) filters name

theorem whole_overlongProgram : overlongProgram.Whole := by
  simp [Program.Whole, Program.scalars, Node.scalars, overlongProgram, overlongPath, FieldPath.scalars,
    PathPart.scalar]

theorem not_mem_overlongTemplate : '\r' ∉ overlongTemplate.toList := by
  rw [overlongTemplate, String.toList_ofList]
  exact not_mem_single (FieldPath.plain_indexChars (digits_numeralChars _))

/-- Every engine compiles this template and can write its program, but no program is read from that. -/
theorem compile_not_iff_checkCalls_decode :
    compile .standard overlongTemplate = .ok overlongProgram ∧
      ∃ content, overlongProgram.encode = .ok content ∧
        ∀ q, Program.decode (Utf8.encode content.toList) ≠ .ok q := by
  obtain ⟨content, hcontent, hdecode⟩ := encode_overlong (p := overlongProgram) rfl whole_overlongProgram
  refine ⟨compile_overlongTemplate .standard none, content, hcontent, fun q => ?_⟩
  rw [hdecode]
  exact nofun

end Gabarit
