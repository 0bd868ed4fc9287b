import Gabarit.Engine.Basic
import Gabarit.Proofs.Block.Draft
import Gabarit.Proofs.Filter.Check

/-!
# Filter calls of programs

A registry is asked about the filter calls of a template, from the first to the last, and about nothing
else.

* `Program.calls`: the filter calls of a program;
* `checkCalls_eq`: what an engine checks of a program;
* **`compile_eq_checkAll`**: what a template with a program compiles to with another registry;
* `compile_checks`, `compile_of_checks`: it has the same program with all registries that accept the calls
  of the program, and none with the others.
-/

namespace Gabarit

open Engine

/-! ## Checking calls -/

/-- The filter calls of a program. -/
def Program.calls (p : Program) : List FilterCall := p.nodes.toList.flatMap callsOf

theorem checkCalls_eq (e : Engine) (p : Program) : e.checkCalls p = e.filters.checkAll p.calls := by
  rw [checkCalls, Program.calls]
  induction p.nodes.toList with
  | nil => rfl
  | cons node nodes ih =>
    rw [List.flatMap_cons, Registry.checkAll_append, ← ih]
    rfl

theorem checkCalls_eq_ok {e : Engine} {p : Program} :
    e.checkCalls p = .ok () ↔ ∀ c ∈ p.calls, e.filters.check c = .ok () := by
  rw [checkCalls_eq, Registry.checkAll_eq_ok]

/-! ## Reading with another registry -/

namespace Tag

/-- The filter calls of a tag. -/
def calls : Tag → List FilterCall
  | .plain node => callsOf node
  | _ => []

variable {filters : Registry} (filters' : Registry)

theorem stages_eq_checkAll {ss : List (List Char)} {cs : List FilterCall} (h : stages filters ss = .ok cs) :
    stages filters' ss = (filters'.checkAll cs).map fun _ => cs := by
  induction ss generalizing cs with
  | nil =>
    cases h
    rfl
  | cons s ss ih =>
    obtain ⟨c, hc, h⟩ := bind_eq_ok.mp h
    obtain ⟨⟨⟩, -, h⟩ := bind_eq_ok.mp h
    obtain ⟨cs, hcs, h⟩ := bind_eq_ok.mp h
    cases h
    simp only [stages, hc, ih hcs, Registry.checkAll_cons, bind, Except.bind]
    cases filters'.check c with
    | error f => rfl
    | ok _ =>
      dsimp only
      cases filters'.checkAll cs <;> rfl

theorem ofSegment_eq_checkAll {s : Segment} {t : Tag} (h : ofSegment filters s = .ok t) :
    ofSegment filters' s = (filters'.checkAll t.calls).map fun _ => t := by
  cases s with
  | text cs =>
    cases h
    rfl
  | block written payload =>
    rw [ofSegment] at h ⊢
    obtain ⟨-, rfl⟩ | ⟨-, path, rfl⟩ | ⟨-, path, compares, operand, rfl⟩ := ofBlock_eq_ok h <;> exact h
  | echo written payload =>
    rw [ofSegment, ofEcho] at h ⊢
    obtain ⟨path, hpath, h⟩ := bind_eq_ok.mp h
    simp only [hpath, bind, Except.bind] at h ⊢
    split at h
    · cases h
      rfl
    · split_ifs at h ⊢
      · cases h
        rfl
      · cases hstages : stages filters _ with
        | error f =>
          rw [hstages] at h
          cases h
        | ok cs =>
          rw [hstages] at h
          cases h
          rw [stages_eq_checkAll filters' hstages]
          dsimp only [calls, callsOf]
          cases filters'.checkAll cs <;> rfl

end Tag

variable {filters filters' : Registry} {source : String} {name name' : Option String} {p : Program}

/-- Segments that are read as tags make the same draft with another registry, if the calls of the tags are
accepted in order. -/
theorem draftSegments_eq_checkAll {text : List Char} {d d' : Draft} {ss : List (ℕ × Segment)}
    {ts : List Tag} (hread : Reads filters ss ts) (h : draftSegments filters text name d ss = .ok d')
    (filters' : Registry) (name' : Option String) : ∃ line, draftSegments filters' text name' d ss =
      ((filters'.checkAll (ts.flatMap Tag.calls)).map fun _ => d').mapError
        (Failure.locate line name') := by
  induction hread generalizing d with
  | nil =>
    cases h
    exact ⟨0, rfl⟩
  | @cons s t ss ts hs hss ih =>
    rw [draftSegments_cons hs] at h
    cases hadd : d.add s.1 t with
    | error f => simp [hadd] at h
    | ok e =>
      rw [hadd] at h
      obtain ⟨line, ih⟩ := ih h
      rw [List.flatMap_cons, Registry.checkAll_append, draftSegments,
        Tag.ofSegment_eq_checkAll filters' hs]
      cases filters'.checkAll t.calls with
      | error f => exact ⟨lineAt text s.1, rfl⟩
      | ok _ => exact ⟨line, by simpa only [Except.map, Except.bind, hadd] using ih⟩

/-! ## Compiling with another registry -/

theorem Tree.calls_link (t : Tree) (start : ℕ) :
    (t.link start).flatMap callsOf = t.tags.flatMap Tag.calls := by
  induction t generalizing start with
  | done => rfl
  | text s rest ih => exact ih (start + 1)
  | echo path filters escape rest ih =>
    rw [link, tags, List.flatMap_cons, List.flatMap_cons, ih]
    rfl
  | block header body rest ihb ihr =>
    rw [link, tags, List.flatMap_cons, List.flatMap_cons, List.flatMap_append, List.flatMap_append,
      List.flatMap_cons, List.flatMap_cons, ihb, ihr]
    cases header <;> rfl

theorem Program.calls_tree (t : Tree) (version : Int) :
    Program.calls ⟨(t.link 0).toArray, version⟩ = t.tags.flatMap Tag.calls :=
  t.calls_link 0

/-- **With another registry, a template has the same program or fails at the first call of the program
that is refused.** -/
theorem compile_eq_checkAll (h : compile filters source name = .ok p) (filters' : Registry)
    (name' : Option String) : ∃ line, compile filters' source name' =
      ((filters'.checkAll p.calls).map fun _ => p).mapError (Failure.locate line name') := by
  obtain ⟨t, hread, hp⟩ := compile_eq_ok_iff.mp h
  obtain ⟨d, hd, hopened, rfl⟩ := compile_eq_ok.mp h
  obtain ⟨line, hline⟩ := draftSegments_eq_checkAll (readAs_iff_reads.mp hread) hd filters' name'
  refine ⟨line, ?_⟩
  rw [hp, Program.calls_tree, ← hp, compile]
  dsimp only
  rw [hline]
  cases filters'.checkAll (t.tags.flatMap Tag.calls) with
  | error f => rfl
  | ok _ =>
    simp only [Except.map, Except.mapError, bind, Except.bind, hopened]
    rfl

theorem compile_checks (h : compile filters source name = .ok p) :
    ∀ c ∈ p.calls, filters.check c = .ok () := by
  obtain ⟨line, hline⟩ := compile_eq_checkAll h filters name
  rw [h, eq_comm, mapError_eq_ok] at hline
  obtain ⟨⟨⟩, hcalls, -⟩ := map_eq_ok.mp hline
  exact Registry.checkAll_eq_ok.mp hcalls

theorem compile_of_checks (h : compile filters source name = .ok p)
    (hc : ∀ c ∈ p.calls, filters'.check c = .ok ()) : compile filters' source name' = .ok p := by
  obtain ⟨line, hline⟩ := compile_eq_checkAll h filters' name'
  rw [hline, Registry.checkAll_eq_ok.mpr hc]
  rfl

end Gabarit
