import Gabarit.Proofs.Block.Draft
import Gabarit.Proofs.Number.Digits
import Gabarit.Proofs.Segment.Lines
import Gabarit.Proofs.Template.Stages

/-!
# Templates of a single interpolation

* `segments_single`: such a template is one segment;
* **`compile_echo`**: its program is the node of the interpolation;
* `Plain`: the characters between the braces neither end a line, nor close a tag, nor divide a pipeline;
* `pipeStages_plain`, `compile_single`: such a pipeline is one stage, and writes one field;
* `parse_index`: a path with one index.
-/

namespace Gabarit

open Text

/-- The template with an interpolation of these characters. -/
def single (body : List Char) : List Char := '\x7b' :: '\x7b' :: (body ++ ['\x7d', '\x7d'])

variable {body : List Char}

theorem Segment.closes_echo (hline : '\n' ∉ body) (h : ¬['\x7d', '\x7d'] <:+: body ++ ['\x7d']) :
    Closes echoDelimiters body where
  line := hline
  closing := by
    intro before after heq
    induction after using List.reverseRecOn with
    | nil => rfl
    | append_singleton after c =>
      -- otherwise they would stand before the last brace
      have hsplit : body ++ ['\x7d'] ++ ['\x7d'] = before ++ (['\x7d', '\x7d'] ++ after) ++ [c] := by
        simpa [echoDelimiters] using heq
      have hinit := (List.append_inj' hsplit rfl).1
      exact absurd ⟨before, after, by rw [hinit, List.append_assoc]⟩ h

theorem segments_single (h : Segment.Closes Segment.echoDelimiters body) :
    segments (single body) = [.echo (single body) (Segment.dropSpaces body)] := by
  have hread := Segment.readTag?_writtenTag h []
  rw [List.append_nil] at hread
  have hwritten : single body = Segment.writtenTag Segment.echoDelimiters body := rfl
  rw [segments, Segment.split_eq_scan, hwritten, Segment.scan_tag hread]
  rfl

/-- **The program of a single interpolation is its node.** -/
theorem compile_echo (hcloses : Segment.Closes Segment.echoDelimiters body) {filters : Registry} {path : FieldPath}
    {calls : List FilterCall} {escape : Bool}
    (h : Tag.ofEcho filters (Segment.dropSpaces body) = .ok (.plain (.echo path calls escape)))
    (name : Option String) :
    compile filters (String.ofList (single body)) name = .ok ⟨#[.echo path calls escape], layoutVersion⟩ := by
  have hread : ReadAs filters (String.ofList (single body)) [.plain (.echo path calls escape)] := by
    rw [ReadAs, String.toList_ofList, segments_single hcloses]
    exact .cons h .nil
  exact compile_eq_ok_iff.mpr ⟨.echo path calls escape .done, hread, rfl⟩

/-! ## Plain bodies -/

/-- The characters neither end a line, nor close a tag, nor divide a pipeline. -/
def Plain (cs : List Char) : Prop := ∀ c ∈ cs, c ∉ ['\r', '\n', '\x7d', '|', '\'', '"']

theorem not_mem_single (h : Plain body) : '\r' ∉ single body := by
  have hbody : '\r' ∉ body := fun hmem => h _ hmem List.mem_cons_self
  simpa [single] using hbody

theorem Plain.closes (h : Plain body) : Segment.Closes Segment.echoDelimiters body := by
  refine Segment.closes_echo (fun hmem => absurd (h _ hmem) (by decide)) fun hclose => ?_
  have hbody : '\x7d' ∉ body := fun hmem => absurd (h _ hmem) (by decide)
  have hcount := hclose.sublist.count_le '\x7d'
  rw [List.count_append, List.count_eq_zero_of_not_mem hbody] at hcount
  exact absurd hcount (by decide)

theorem pipeStages_plain {cs : List Char} (h : Plain cs) : pipeStages cs = [trim cs] := by
  refine pipeStagesFrom_last (undivided_of_neutral fun c hc => ?_) []
  have hplain := h c hc
  refine ⟨?_, ?_⟩
  · rintro (rfl | rfl) <;> exact absurd hplain (by decide)
  · rintro rfl
    exact absurd hplain (by decide)

/-- A template of a single path writes one field. -/
theorem compile_single (hplain : Plain body) (hspaces : Segment.dropSpaces body = body)
    {path : FieldPath} (hpath : FieldPath.parse (String.ofList (trim body)) = .ok path)
    (filters : Registry) (name : Option String) :
    compile filters (String.ofList (single body)) name =
      .ok ⟨#[.echo path [] true], layoutVersion⟩ := by
  refine compile_echo hplain.closes ?_ name
  rw [hspaces, Tag.ofEcho, pipeStages_plain hplain]
  simp only [List.headD_cons, hpath, bind, Except.bind, List.tail_cons]
  rfl

/-! ## Indexes -/

namespace FieldPath

/-- The path to a negative index of a field. -/
def indexChars (ds : List Char) : List Char := 'x' :: '[' :: '-' :: (ds ++ [']'])

theorem plain_indexChars {ds : List Char} (h : Digits ds) : Plain (indexChars ds) := by
  have hdigits : Plain ds := by
    intro c hc
    have hdigit := h c hc
    simp only [List.mem_cons, List.not_mem_nil, or_false, not_or]
    refine ⟨?_, ?_, ?_, ?_, ?_, ?_⟩ <;> (rintro rfl; revert hdigit; decide)
  simp only [Plain, indexChars, List.forall_mem_cons, List.forall_mem_append]
  exact ⟨by decide, by decide, by decide, hdigits, by decide, List.forall_mem_nil _⟩

theorem readIndex_digits {ds : List Char} (h : Digits ds) (hne : ds ≠ []) (rest : List Char) :
    readIndex ('-' :: (ds ++ ']' :: rest)) = some (true, ds, rest) := by
  have hdigits (c : Char) (hc : c ∈ ds) : isDigit c = true := by
    rw [isDigit, digitValue?_of_isDigit (h c hc)]
    rfl
  have htake : (ds ++ ']' :: rest).takeWhile isDigit = ds := by
    rw [List.takeWhile_append_of_pos hdigits, List.takeWhile_cons_of_neg (by decide), List.append_nil]
  have hdrop : (ds ++ ']' :: rest).dropWhile isDigit = ']' :: rest := by
    rw [List.dropWhile_append_of_pos hdigits, List.dropWhile_cons_of_neg (by decide)]
  obtain ⟨d, ds, rfl⟩ := List.exists_cons_of_ne_nil hne
  simp only [readIndex, htake, hdrop]

theorem trim_indexChars (ds : List Char) : trim (indexChars ds) = indexChars ds := by
  rw [trim, trimStart, indexChars, List.dropWhile_cons_of_neg (by decide), trimEnd]
  simp only [List.reverse_cons, List.reverse_append, List.reverse_nil, List.nil_append,
    List.cons_append]
  rw [List.dropWhile_cons_of_neg (by decide)]
  simp

theorem dropSpaces_indexChars (ds : List Char) : Segment.dropSpaces (indexChars ds) = indexChars ds := by
  have hlast : (indexChars ds).getLast? = some ']' := by
    simp [indexChars, List.getLast?_cons]
  unfold Segment.dropSpaces
  split
  · rename_i hspace
    cases hspace
  · dsimp only
    rw [hlast]
    rfl

theorem parse_index {ds : List Char} (h : Digits ds) (hne : ds ≠ []) (hlen : ds.length ≤ digitLimit) :
    parse (String.ofList (indexChars ds)) =
      .ok ⟨String.ofList (indexChars ds), [.name "x", .index (-(numeralValue ds : Int))]⟩ := by
  have hparts : readParts (String.ofList (indexChars ds)) ((indexChars ds).length + 1)
      ('[' :: '-' :: (ds ++ [']'])) = .ok [.index (-(numeralValue ds : Int))] := by
    rw [readParts, if_neg (by simp), if_pos rfl, readIndex_digits h hne]
    simp only [indexPart, if_neg (not_lt.mpr hlen), if_true, bind, Except.bind]
    rfl
  have hname : (indexChars ds).takeWhile isAsciiContinue = ['x'] ∧
      (indexChars ds).dropWhile isAsciiContinue = '[' :: '-' :: (ds ++ [']']) := by
    constructor <;> rfl
  unfold parse
  simp only [String.toList_ofList, trim_indexChars, hname.1, hname.2, hparts]
  rfl

end FieldPath

end Gabarit
