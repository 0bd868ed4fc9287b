import Gabarit.Proofs.Block.Written

/-!
# Failures of reading tags

Not all that can be wrong with a tag is told as an error of the template: some faults of reading literals
are not caught.

* `Failure.OfReading`: the failures with which reading a path, a condition or a filter call ends;
* **`Tag.ofSegment_ends`**: a segment is read as a tag whose paths have parts, or fails by an error of the
  template or such a fault;
* `compile_paths`: the paths of a program have parts.
-/

namespace Gabarit

/-- A failure with which reading a path, a condition or a filter call ends. -/
inductive Failure.OfReading : Failure → Prop
  | path {s : String} {f : Failure} : FieldPath.parse s = .error f → OfReading f
  | condition {s : String} {f : Failure} : Condition.parse s = .error f → OfReading f
  | call {s : String} {f : Failure} : FilterCall.parse s = .error f → OfReading f

/-- An error of the template whose place is not known yet, or a fault that is let through. -/
def Failure.Unplaced (f : Failure) : Prop := (∃ token cause, f = .tag token cause) ∨ ∃ g, f = .fault g

/-- A failure of a tag that is wrong in itself: an error of the template, whose place is not known yet, or one
that a reader lets through. -/
inductive Failure.OfTag : Failure → Prop
  | tag (token : String) (cause : TagError) : OfTag (.tag token cause)
  | fault {g : Fault} : OfReading (.fault g) → OfTag (.fault g)

theorem Failure.OfReading.ofTag {f : Failure} (h : f.OfReading) (hf : f.Unplaced) : f.OfTag := by
  obtain ⟨token, cause, rfl⟩ | ⟨g, rfl⟩ := hf
  · exact .tag token cause
  · exact .fault h

theorem EndsWith.tag {α : Type} {Q : α → Prop} (token : String) (cause : TagError) :
    EndsWith Failure.Unplaced Q (.error (.tag token cause)) := .error (.inl ⟨token, cause, rfl⟩)

theorem EndsWith.fault {α : Type} {Q : α → Prop} (g : Fault) :
    EndsWith Failure.Unplaced Q (.error (.fault g)) := .error (.inr ⟨g, rfl⟩)

/-! ## Paths -/

namespace FieldPath

theorem indexPart_ends (neg : Bool) (ds : List Char) :
    EndsWith Failure.Unplaced (fun _ => True) (indexPart neg ds) :=
  .ite (.fault _) (.ok trivial)

theorem keyPart_ends (q : Char) (body : List Char) :
    EndsWith Failure.Unplaced (fun _ => True) (keyPart q body) := by
  refine .ite (.fault _) ?_
  split
  · exact .ok trivial
  · exact .fault _

theorem readParts_ends (expr : String) (fuel : ℕ) (cs : List Char) :
    EndsWith Failure.Unplaced (fun _ => True) (readParts expr fuel cs) := by
  induction fuel generalizing cs with
  | zero => exact .tag _ _
  | succ fuel ih =>
    cases cs with
    | nil => exact .ok trivial
    | cons c rest =>
      have hrest (part : PathPart) (after : List Char) :
          EndsWith Failure.Unplaced (fun _ => True) ((readParts expr fuel after).map (part :: ·)) :=
        (ih after).map fun _ _ => trivial
      rw [readParts]
      refine .ite (hrest _ _) (.ite ?_ (.tag _ _))
      split
      · exact (indexPart_ends _ _).bind fun part _ => hrest part _
      · exact (keyPart_ends _ _).bind fun part _ => hrest part _
      · exact .tag _ _

/-- A path that is read has parts. -/
theorem parse_ends (s : String) : EndsWith Failure.Unplaced (fun path => path.parts ≠ []) (parse s) := by
  unfold parse
  dsimp only
  split
  · exact .ite ((readParts_ends _ _ _).bind fun _ _ => .ok (List.cons_ne_nil _ _)) (.tag _ _)
  · exact .tag _ _

end FieldPath

/-! ## Literals and filter calls -/

theorem Scalar.parse_ends (s : String) : EndsWith Failure.Unplaced (fun _ => True) (Scalar.parse s) := by
  unfold Scalar.parse
  dsimp only
  split
  · exact .ok trivial
  · refine .ite (.tag _ _) ?_
    split
    · exact .tag _ _
    · split
      · exact .ok trivial
      · exact .tag _ _
      · exact .tag _ _
      · exact .fault _

theorem Condition.parse_ends (s : String) :
    EndsWith Failure.Unplaced (fun c => c.path.parts ≠ []) (Condition.parse s) := by
  unfold Condition.parse
  split
  · exact (FieldPath.parse_ends s).bind fun path hpath => .ok hpath
  · refine .ite (.tag _ _) ?_
    exact (FieldPath.parse_ends _).bind fun path hpath => (Scalar.parse_ends _).bind fun _ _ => .ok hpath

namespace FilterCall

theorem argument_ends (segment : String) (e : Expression.Expr) :
    EndsWith Failure.Unplaced (fun _ => True) (argument segment e) := by
  unfold argument
  extract_lets evaluated
  have hevaluated : EndsWith Failure.Unplaced (fun _ => True) evaluated := by
    dsimp only [evaluated]
    split
    · exact .ok trivial
    · exact .tag _ _
    · exact .tag _ _
    · exact .fault _
  split
  · rename_i s
    cases hkeyword : keywordLiteral? s with
    | some v => exact .ok trivial
    | none => exact hevaluated
  · exact hevaluated

theorem arguments_ends (segment : String) (es : List Expression.Expr) (args : List Scalar)
    (slot : Option ℕ) : EndsWith Failure.Unplaced (fun _ => True) (arguments segment args slot es) := by
  induction es generalizing args slot with
  | nil => exact .ok trivial
  | cons e es ih =>
    unfold arguments
    split
    · exact .ite (ih _ _) ((argument_ends _ _).bind fun _ _ => ih _ _)
    · exact (argument_ends _ _).bind fun _ _ => ih _ _

theorem ofExpr_ends (segment : String) (placeholders : ℕ) (e : Expression.Expr) :
    EndsWith Failure.Unplaced (fun _ => True) (ofExpr segment placeholders e) := by
  unfold ofExpr
  split
  · exact .ite (.tag _ _) (.ok trivial)
  · refine .ite (.tag _ _) ((arguments_ends _ _ _ _).bind fun found _ => ?_)
    exact .ite (.tag _ _) (.ok trivial)
  · exact .tag _ _

theorem parse_ends (s : String) : EndsWith Failure.Unplaced (fun _ => True) (FilterCall.parse s) := by
  unfold FilterCall.parse
  dsimp only
  refine .ite (.tag _ _) (.ite (.fault _) ?_)
  split
  · exact .tag _ _
  · exact ofExpr_ends _ _ _

end FilterCall

/-! ## Tags -/

/-- The paths of a node. -/
def Node.paths : Node → List FieldPath
  | .echo path _ _ | .loop path _ | .cond path .. => [path]
  | _ => []

namespace Tag

/-- The paths of a tag. -/
def paths : Tag → List FieldPath
  | .plain node | .opening node => node.paths
  | .ending => []

/-- Reading a path gives one with parts. -/
theorem path_ends (s : String) : EndsWith Failure.OfTag (fun path => path.parts ≠ []) (FieldPath.parse s) :=
  (FieldPath.parse_ends s).self.mono (fun _ hf => (Failure.OfReading.path hf.2).ofTag hf.1) fun _ h => h.1

theorem condition_ends (s : String) :
    EndsWith Failure.OfTag (fun c => c.path.parts ≠ []) (Condition.parse s) :=
  (Condition.parse_ends s).self.mono (fun _ hf => (Failure.OfReading.condition hf.2).ofTag hf.1) fun _ h => h.1

theorem call_ends (s : String) : EndsWith Failure.OfTag FilterCall.HasSlot (FilterCall.parse s) :=
  (FilterCall.parse_ends s).self.mono (fun _ hf => (Failure.OfReading.call hf.2).ofTag hf.1) fun _ h =>
    FilterCall.hasSlot_of_parse h.2

theorem check_ends (r : Registry) {c : FilterCall} (h : c.HasSlot) :
    EndsWith Failure.OfTag (fun _ => True) (r.check c) := by
  cases hc : r.check c with
  | ok _ => exact .ok trivial
  | error f =>
    obtain ⟨cause, rfl⟩ | ⟨hslot, -⟩ := Registry.check_eq_error hc
    · exact .error (.tag _ _)
    · exact absurd h hslot

theorem stages_ends (r : Registry) (ss : List (List Char)) :
    EndsWith Failure.OfTag (fun _ => True) (stages r ss) := by
  induction ss with
  | nil => exact .ok trivial
  | cons s ss ih =>
    refine (call_ends _).bind fun call hslot => (check_ends r hslot).bind fun _ _ => ?_
    exact ih.bind fun _ _ => .ok trivial

/-- **A segment is read as a tag whose paths have parts, or fails by an error of the template or a fault of
reading.** -/
theorem ofSegment_ends (r : Registry) (s : Segment) :
    EndsWith Failure.OfTag (fun t => ∀ path ∈ t.paths, path.parts ≠ []) (ofSegment r s) := by
  have hpath {path : FieldPath} (h : path.parts ≠ []) : ∀ p ∈ [path], p.parts ≠ [] :=
    List.forall_mem_singleton.mpr h
  cases s with
  | text cs => exact .ok (List.forall_mem_nil _)
  | echo written payload =>
    refine (path_ends _).bind fun path h => ?_
    split
    · exact .ok (hpath h)
    · exact .ite (.ok (hpath h)) ((stages_ends _ _).bind fun _ _ => .ok (hpath h))
  | block written payload =>
    rw [ofSegment, ofBlock]
    dsimp only
    refine .ite (.ok (List.forall_mem_nil _)) (.ite (.error (.tag _ _)) (.ite (.error (.tag _ _)) ?_))
    refine .ite ((path_ends _).bind fun path h => .ok (hpath h)) ?_
    exact (condition_ends _).bind fun c h => .ok (hpath h)

end Tag

/-! ## Compiling -/

variable {filters : Registry} {source : String} {name : Option String}

theorem ReadAs.exists_segment {ts : List Tag} (h : ReadAs filters source ts) {t : Tag} (ht : t ∈ ts) :
    ∃ s, Tag.ofSegment filters s = .ok t := by
  unfold ReadAs at h
  generalize segments source.toList = ss at h
  induction h with
  | nil => cases ht
  | @cons s _ _ _ hs _ ih =>
    obtain rfl | ht := List.mem_cons.mp ht
    · exact ⟨s, hs⟩
    · exact ih ht

theorem Tree.paths_link (t : Tree) (start : ℕ) :
    (t.link start).flatMap Node.paths = t.tags.flatMap Tag.paths := by
  induction t generalizing start with
  | done => rfl
  | text s rest ih => exact ih (start + 1)
  | echo path filters escape rest ih =>
    rw [link, tags, List.flatMap_cons, List.flatMap_cons, ih]
    rfl
  | block header body rest ihb ihr =>
    rw [link, tags, List.flatMap_cons, List.flatMap_cons, List.flatMap_append, List.flatMap_append,
      List.flatMap_cons, List.flatMap_cons, ihb, ihr]
    cases header <;> rfl

/-- The paths of a compiled template have parts. -/
theorem compile_paths {p : Program} (h : compile filters source name = .ok p) {node : Node}
    (hnode : node ∈ p.nodes) {path : FieldPath} (hpath : path ∈ node.paths) : path.parts ≠ [] := by
  obtain ⟨t, hread, rfl⟩ := compile_eq_ok_iff.mp h
  have hmem : path ∈ t.tags.flatMap Tag.paths := by
    rw [← t.paths_link 0]
    exact List.mem_flatMap.mpr ⟨node, by simpa using hnode, hpath⟩
  obtain ⟨tag, htag, hpath⟩ := List.mem_flatMap.mp hmem
  obtain ⟨s, hs⟩ := hread.exists_segment htag
  exact (Tag.ofSegment_ends filters s).ok_of hs path hpath

end Gabarit
