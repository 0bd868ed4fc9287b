import Gabarit.Filter.Standard
import Gabarit.Proofs.Block.Single
import Gabarit.Proofs.Block.Written
import Gabarit.Proofs.Template.Condition
import Gabarit.Proofs.Template.Path
import Gabarit.Proofs.Template.Undivided

/-!
# Pipelines

* `FieldPath.undivided`, `FilterCall.undivided`: paths are not divided, and filter calls are not, unless a quoted
  text holds its own quote or a comment holds a quote or a bar;
* `Tag.ofEcho_pipeline`: the stages of a pipeline are read one by one;
* **`compile_pipeline`**: the program of a pipeline.
-/

namespace Gabarit

open Text Expression

variable {cs : List Char}

/-! ## Paths -/

namespace FieldPath

theorem calm_name {n : List Char} (h : AsciiName n) : ∀ c ∈ n, Calm c :=
  fun c hc => calm_of (by decide) (h.isAsciiContinue c hc)

theorem Steps.undivided {parts : List PathPart} (h : Steps cs parts) : Undivided cs := by
  have hskip {as rest : List Char} (has : ∀ c ∈ as, Calm c) (hrest : Undivided rest) : Undivided (as ++ rest) :=
    Passes.undivided ⟨as, rfl, has⟩ hrest
  have hmark {c : Char} {rest : List Char} (hc : Calm c) (hrest : Undivided rest) : Undivided (c :: rest) :=
    hskip (List.forall_mem_singleton.mpr hc) hrest
  induction h with
  | done => rfl
  | name hname _ ih => exact hmark (by decide) (hskip (calm_name hname) ih)
  | @index ds rest parts negative _ hds _ _ ih =>
    have hsign : ∀ c ∈ Artifact.Numeral.signChars negative, Calm c := by cases negative <;> decide
    have hdigits : ∀ c ∈ ds, Calm c := fun c hc => calm_of (by decide) (hds c hc)
    exact hmark (by decide) (hskip hsign (hskip hdigits (hmark (by decide) ih)))
  | key hq hbody _ _ ih => exact hmark (by decide) ((quoteAfter_quoted hq hbody _).trans (hmark (by decide) ih))

/-- **A path is no more than one stage.** -/
theorem undivided {s : String} {path : FieldPath} (h : parse s = .ok path) : Undivided s.toList := by
  obtain ⟨n, rest, steps, hsplit, hname, hsteps, -⟩ := (parse_eq_ok.mp h).2
  refine undivided_of_trim ?_
  rw [hsplit]
  exact Passes.undivided ⟨n, rfl, calm_name hname⟩ hsteps.undivided

end FieldPath

/-! ## Filter calls -/

namespace FilterCall

theorem parse_congr {s s' : String} (h : trim s.toList = trim s'.toList) : parse s = parse s' := by
  unfold parse
  rw [h]

/-- The characters that a stage is read from. -/
def source (s : String) : List Char := unifyLines (namePlaceholders (trim s.toList))

theorem isSimple_of_argument {segment : String} {e : Expr} {v : Scalar} (h : argument segment e = .ok v) :
    e.isSimple = true := by
  cases e
  case name s => rfl
  all_goals
    unfold argument at h
    dsimp only at h
    split at h
    · exact isSimple_of_evaluate ‹_›
    · cases h
    · cases h
    · cases h

theorem areSimple_of_literals {segment : String} {es : List Expr} {vs : List Scalar}
    (h : Literals segment es vs) : areSimple es = true := by
  induction es generalizing vs with
  | nil => rfl
  | cons e es ih =>
    rw [areSimple, Bool.and_eq_true_iff]
    unfold Literals at h
    cases he : isPlaceholder e with
    | true =>
      rw [List.filter_cons_of_neg (by simp [he])] at h
      refine ⟨?_, ih h⟩
      cases e with
      | name s => rfl
      | _ => cases he
    | false =>
      rw [List.filter_cons_of_pos (by simp [he])] at h
      cases h with
      | cons harg h => exact ⟨isSimple_of_argument harg, ih h⟩

theorem exists_simple {s : String} {c : FilterCall} (h : parse s = .ok c) :
    ∃ e, expression? s.toList = some e ∧ e.isSimple = true := by
  obtain ⟨before, after, hwritten, -, -⟩ := parse_written h
  cases hwritten with
  | bare hparse => exact ⟨_, hparse, rfl⟩
  | last hparse _ hes => exact ⟨_, hparse, isSimple_call.mpr ⟨rfl, rfl, areSimple_of_literals hes⟩⟩
  | placed hparse _ hbefore hafter =>
    refine ⟨_, hparse, isSimple_call.mpr ⟨rfl, rfl, ?_⟩⟩
    rw [areSimple_append, areSimple_of_literals hbefore, areSimple, areSimple_of_literals hafter]
    rfl

/-- **A filter call is no more than one stage,** if it is plainly quoted. -/
theorem undivided {s : String} {c : FilterCall} (h : parse s = .ok c) (hplain : PlainlyQuoted (source s)) :
    Undivided s.toList := by
  obtain ⟨e, hparse, he⟩ := exists_simple h
  refine undivided_of_trim ?_
  rw [Undivided, ← quoteAfter_namePlaceholders isQuote_none]
  exact undivided_of_parse hparse he hplain

end FilterCall

/-! ## Pipelines -/

/-- The text of a pipeline: a path and its stages, with bars between them. -/
def pipelineText (path : String) (stages : List String) : String := "|".intercalate (path :: stages)

/-- The template of a pipeline. -/
def pipelineTemplate (path : String) (stages : List String) : String :=
  "\x7b\x7b " ++ pipelineText path stages ++ " \x7d\x7d"

/-- The stages are filter calls that are read on their own, and that the registry accepts. -/
def Accepts (filters : Registry) (stages : List String) (calls : List FilterCall) : Prop :=
  List.Forall₂ (fun s c => FilterCall.parse s = .ok c ∧ filters.check c = .ok ()) stages calls

variable {filters : Registry} {p : String} {path : FieldPath} {stages : List String} {calls : List FilterCall}

theorem Tag.stages_of_accepts (h : Accepts filters stages calls) :
    Tag.stages filters (stages.map fun s => trim s.toList) = .ok calls := by
  induction h with
  | nil => rfl
  | @cons s c stages calls hs _ ih =>
    have hparse : FilterCall.parse (String.ofList (trim s.toList)) = .ok c := by
      rw [← hs.1]
      exact FilterCall.parse_congr (by rw [String.toList_ofList, trim_trim])
    rw [List.map_cons, Tag.stages, hparse]
    simp only [bind, Except.bind, hs.2, ih]
    rfl

/-- **The stages of a pipeline are read one by one.** -/
theorem Tag.ofEcho_pipeline {first : String} (hpath : FieldPath.parse p = .ok path)
    (hstages : Accepts filters (first :: stages) calls) (hfirst : strip first ≠ "none")
    (hundivided : ∀ s ∈ first :: stages, Undivided s.toList) :
    Tag.ofEcho filters (pipelineText p (first :: stages)).toList = .ok (.plain (.echo path calls false)) := by
  have htext : (pipelineText p (first :: stages)).toList =
      ['|'].intercalate ((p :: first :: stages).map String.toList) := by
    rw [pipelineText, String.toList_intercalate]
    rfl
  have hpieces : pipeStages (pipelineText p (first :: stages)).toList =
      (p :: first :: stages).map fun s => trim s.toList := by
    rw [htext, List.map_cons, pipeStages_intercalate, ← List.map_cons, List.map_map]
    · rfl
    · rw [← List.map_cons, List.forall_mem_map]
      exact List.forall_mem_cons.mpr ⟨FieldPath.undivided hpath, hundivided⟩
  have hparse : FieldPath.parse (String.ofList (trim p.toList)) = .ok path := by
    rw [← hpath]
    exact FieldPath.parse_congr (by rw [String.toList_ofList, trim_trim])
  have hbypass : trim first.toList ≠ Tag.bypass := by
    intro h
    exact hfirst (by rw [strip, h, Tag.bypass, String.ofList_toList])
  have hcalls := Tag.stages_of_accepts hstages
  rw [List.map_cons] at hcalls
  unfold Tag.ofEcho
  rw [hpieces]
  simp only [List.map_cons, List.headD_cons, List.tail_cons, hparse, bind, Except.bind, if_neg hbypass, hcalls]
  rfl

/-! ## Templates -/

theorem infix_append_cons {α : Type} {c : α} {as bs ps : List α} (hc : c ∉ ps) (h : ps <:+: as ++ c :: bs) :
    ps <:+: as ∨ ps <:+: bs := by
  have hnil {ds : List α} (hds : ∀ d ∈ ds, d ∈ ps) (hstart : ds <+: c :: bs) : ds = [] := by
    obtain _ | ⟨d, ds⟩ := ds
    · rfl
    · obtain ⟨rfl, -⟩ := List.cons_prefix_cons.mp hstart
      exact absurd (hds d List.mem_cons_self) hc
  obtain h | h | ⟨ds, ds', rfl, hsuffix, hstart⟩ := List.infix_append_iff.mp h
  · exact .inl h
  · obtain h | h := List.infix_cons_iff.mp h
    · rw [hnil (fun _ hd => hd) h]
      exact .inl List.nil_infix
    · exact .inr h
  · rw [hnil (fun _ hd => List.mem_append_right _ hd) hstart, List.append_nil]
    exact .inl hsuffix.isInfix

theorem not_infix_spaced (h : ¬['\x7d', '\x7d'] <:+: cs) :
    ¬['\x7d', '\x7d'] <:+: ' ' :: (cs ++ [' ']) ++ ['\x7d'] := by
  have hsplit : ' ' :: (cs ++ [' ']) ++ ['\x7d'] = [] ++ ' ' :: (cs ++ ' ' :: ['\x7d']) := by simp
  rw [hsplit]
  intro hclose
  obtain hclose | hclose := infix_append_cons (by decide) hclose
  · exact absurd hclose (by decide)
  · obtain hclose | hclose := infix_append_cons (by decide) hclose
    · exact h hclose
    · exact absurd hclose (by decide)

theorem dropSpaces_spaced (cs : List Char) : Segment.dropSpaces (' ' :: (cs ++ [' '])) = cs := by
  unfold Segment.dropSpaces
  simp

/-- **A pipeline whose stages are accepted one by one is one node with their calls in order,** if no quoted text of
a stage holds its own quote, and no comment a quote or a bar. -/
theorem compile_pipeline {first : String} (hpath : FieldPath.parse p = .ok path)
    (hstages : Accepts filters (first :: stages) calls) (hfirst : strip first ≠ "none")
    (hplain : ∀ s ∈ first :: stages, PlainlyQuoted (FilterCall.source s))
    (hline : '\n' ∉ (pipelineText p (first :: stages)).toList)
    (hclose : ¬['\x7d', '\x7d'] <:+: (pipelineText p (first :: stages)).toList) (name : Option String) :
    compile filters (pipelineTemplate p (first :: stages)) name =
      .ok ⟨#[.echo path calls false], layoutVersion⟩ := by
  have hparse : ∀ s ∈ first :: stages, ∃ c, FilterCall.parse s = .ok c :=
    forall_of_forall₂ hstages fun _ c h => ⟨c, h.1⟩
  have hundivided : ∀ s ∈ first :: stages, Undivided s.toList := by
    intro s hs
    obtain ⟨c, hc⟩ := hparse s hs
    exact FilterCall.undivided hc (hplain s hs)
  have htemplate : pipelineTemplate p (first :: stages) =
      String.ofList (single (' ' :: ((pipelineText p (first :: stages)).toList ++ [' ']))) := by
    rw [← String.toList_inj, String.toList_ofList, pipelineTemplate, single]
    simp
  rw [htemplate]
  refine compile_echo (Segment.closes_echo ?_ (not_infix_spaced hclose)) ?_ name
  · simpa using hline
  · rw [dropSpaces_spaced]
    exact Tag.ofEcho_pipeline hpath hstages hfirst hundivided

/-- A bar and the other quote, in a key and in an argument. -/
theorem compile_pipeline_quoted :
    compile Registry.standard "\x7b\x7b x['a|\"b']|default(\"it's|off\")|upper \x7d\x7d" none =
      .ok ⟨#[.echo ⟨"x['a|\"b']", [.name "x", .name "a|\"b"]⟩
        [⟨"default", [.text "it's|off"], 1⟩, ⟨"upper", [], 0⟩] false], layoutVersion⟩ := by
  have htemplate : pipelineTemplate "x['a|\"b']" ["default(\"it's|off\")", "upper"] =
      "\x7b\x7b x['a|\"b']|default(\"it's|off\")|upper \x7d\x7d" := by decide +kernel
  have hstages : Accepts Registry.standard ["default(\"it's|off\")", "upper"]
      [⟨"default", [.text "it's|off"], 1⟩, ⟨"upper", [], 0⟩] :=
    .cons ⟨by decide +kernel, by decide +kernel⟩ (.cons ⟨by decide +kernel, by decide +kernel⟩ .nil)
  have hdefault : FilterCall.source "default(\"it's|off\")" = "default(".toList ++ '"' :: "it's|off\")".toList := by
    decide +kernel
  have hupper : FilterCall.source "upper" = "upper".toList ++ [] := by decide +kernel
  have hplain : ∀ s ∈ ["default(\"it's|off\")", "upper"], PlainlyQuoted (FilterCall.source s) := by
    rw [List.forall_mem_cons, List.forall_mem_singleton, hdefault, hupper]
    have hbody : quotedBody '"' "it's|off\")".toList = some ("it's|off".toList, [')']) := by decide +kernel
    have hclose : PlainlyQuoted [')'] := .char (by unfold IsQuote; decide) (by decide) .nil
    exact ⟨plainlyQuoted_append (by decide) (.quoted (.inr rfl) hbody (by decide) hclose),
      plainlyQuoted_append (by decide) .nil⟩
  rw [← htemplate]
  exact compile_pipeline (by decide +kernel) hstages (by decide +kernel) hplain (by decide +kernel)
    (by decide +kernel) none

/-- **Accepted stages are misdivided where a text holds its own quote, or a comment holds a quote:** a bar after
an escaped quote divides its stage, and a quote in a comment swallows the next stage. -/
theorem exists_misdivided :
    FieldPath.parse "x" = .ok ⟨"x", [.name "x"]⟩ ∧
    (∃ (stage : String) (c : FilterCall) (cause : Failure), Accepts Registry.standard [stage] [c] ∧
      strip stage ≠ "none" ∧ '\n' ∉ (pipelineText "x" [stage]).toList ∧
      ¬['\x7d', '\x7d'] <:+: (pipelineText "x" [stage]).toList ∧
      compile Registry.standard (pipelineTemplate "x" [stage]) = .error cause) ∧
    ∃ (stage next : String) (c d : FilterCall), Accepts Registry.standard [stage, next] [c, d] ∧
      strip stage ≠ "none" ∧ '\n' ∉ (pipelineText "x" [stage, next]).toList ∧
      ¬['\x7d', '\x7d'] <:+: (pipelineText "x" [stage, next]).toList ∧
      compile Registry.standard (pipelineTemplate "x" [stage, next]) =
        .ok ⟨#[.echo ⟨"x", [.name "x"]⟩ [c] false], layoutVersion⟩ := by
  have hescaped : Accepts Registry.standard ["default('\\'|')"] [⟨"default", [.text "'|"], 1⟩] :=
    .cons ⟨by decide +kernel, by decide +kernel⟩ .nil
  have hcomment : Accepts Registry.standard ["upper # it's", "lower"] [⟨"upper", [], 0⟩, ⟨"lower", [], 0⟩] :=
    .cons ⟨by decide +kernel, by decide +kernel⟩ (.cons ⟨by decide +kernel, by decide +kernel⟩ .nil)
  have hrefused : compile Registry.standard (pipelineTemplate "x" ["default('\\'|')"]) =
      .error (.error (.compile ⟨.invalidFilter, "default('\\'", some 1, none⟩)) := by decide +kernel
  have hswallowed : compile Registry.standard (pipelineTemplate "x" ["upper # it's", "lower"]) =
      .ok ⟨#[.echo ⟨"x", [.name "x"]⟩ [⟨"upper", [], 0⟩] false], layoutVersion⟩ := by decide +kernel
  exact ⟨by decide +kernel,
    ⟨_, _, _, hescaped, by decide +kernel, by decide +kernel, by decide +kernel, hrefused⟩,
    ⟨_, _, _, _, hcomment, by decide +kernel, by decide +kernel, by decide +kernel, hswallowed⟩⟩

end Gabarit
