import Gabarit.Proofs.Block.Calls

/-!
# How filter calls are written

* `FilterCall.Written`: a stage as a filter with the literals before the piped value and after it;
* `FilterCall.arguments_eq_ok`: the arguments are the literals around the last placeholder;
* `FilterCall.parse_written`: the call that a stage is read as;
* `filterStages`: the stages of the pipelines of a source;
* **`compile_written`**: the filter calls of a program are written in its source.
-/

namespace Gabarit

namespace FilterCall

open Expression

/-- The expression stands for the piped value. -/
def isPlaceholder : Expr → Bool
  | .name s => s = placeholderName
  | _ => false

/-- The values are those of the expressions, in order, without those that stand for the piped value. -/
def Literals (segment : String) (es : List Expr) (args : List Scalar) : Prop :=
  List.Forall₂ (fun e v => argument segment e = .ok v) (es.filter (!isPlaceholder ·)) args

/-- The expression that a stage is read as. -/
def expression? (stage : List Char) : Option Expr := Expression.parse (namePlaceholders (Text.trim stage))

/-- The stage is a filter with literals before the piped value and after it. The piped value is what comes
last, unless an argument stands for it. -/
inductive Written (stage : List Char) : String → List Scalar → List Scalar → Prop
  | bare {name : String} : expression? stage = some (.name name) → Written stage name [] []
  | last {name : String} {es : List Expr} {before : List Scalar} :
    expression? stage = some (.call (.name name) es false) → (∀ e ∈ es, isPlaceholder e = false) →
    Literals (String.ofList (Text.trim stage)) es before → Written stage name before []
  | placed {name : String} {es es' : List Expr} {before after : List Scalar} :
    expression? stage = some (.call (.name name) (es ++ .name placeholderName :: es') false) →
    (∀ e ∈ es', isPlaceholder e = false) → Literals (String.ofList (Text.trim stage)) es before →
    Literals (String.ofList (Text.trim stage)) es' after → Written stage name before after

/-- The literals among some expressions, and how many of them stand before the last expression that stands
for the piped value, if there is one. -/
inductive Arranged (segment : String) : List Expr → List Scalar → Option ℕ → Prop
  | unplaced {es : List Expr} {vs : List Scalar} : (∀ e ∈ es, isPlaceholder e = false) →
    Literals segment es vs → Arranged segment es vs none
  | placed {es es' : List Expr} {before after : List Scalar} : (∀ e ∈ es', isPlaceholder e = false) →
    Literals segment es before → Literals segment es' after →
    Arranged segment (es ++ .name placeholderName :: es') (before ++ after) (some before.length)

variable {segment : String} {es : List Expr} {vs args args' : List Scalar} {slot slot' : Option ℕ}

theorem Literals.placeholder (h : Literals segment es vs) :
    Literals segment (.name placeholderName :: es) vs := by
  unfold Literals
  rw [List.filter_cons_of_neg (by simp [isPlaceholder])]
  exact h

theorem Literals.cons {e : Expr} {v : Scalar} (he : isPlaceholder e = false)
    (hv : argument segment e = .ok v) (h : Literals segment es vs) : Literals segment (e :: es) (v :: vs) := by
  unfold Literals
  rw [List.filter_cons_of_pos (by simp [he])]
  exact .cons hv h

theorem Arranged.placeholder (h : Arranged segment es vs slot) :
    Arranged segment (.name placeholderName :: es) vs (slot.or (some 0)) := by
  cases h with
  | unplaced hnone hvs =>
    have hnil : Literals segment [] [] := .nil
    exact .placed hnone hnil hvs
  | placed hnone hbefore hafter => exact .placed hnone hbefore.placeholder hafter

theorem Arranged.cons {e : Expr} {v : Scalar} (he : isPlaceholder e = false)
    (hv : argument segment e = .ok v) (h : Arranged segment es vs slot) :
    Arranged segment (e :: es) (v :: vs) (slot.map (· + 1)) := by
  cases h with
  | unplaced hnone hvs => exact .unplaced (List.forall_mem_cons.mpr ⟨he, hnone⟩) (hvs.cons he hv)
  | placed hnone hbefore hafter => exact .placed hnone (hbefore.cons he hv) hafter

/-- The arguments of a call are the literals among the expressions, and the slot is where the last one is
that stands for the piped value. -/
theorem arguments_eq_ok (h : arguments segment args slot es = .ok (args', slot')) :
    ∃ vs place, Arranged segment es vs place ∧ args' = args ++ vs ∧
      slot' = (place.map (args.length + ·)).or slot := by
  induction es generalizing args slot with
  | nil =>
    cases h
    exact ⟨[], none, .unplaced nofun .nil, (List.append_nil _).symm, rfl⟩
  | cons e es ih =>
    -- an argument that does not stand for the piped value
    have hliteral (he : isPlaceholder e = false)
        (h : (do arguments segment (args ++ [← argument segment e]) slot es) = .ok (args', slot')) :
        ∃ vs place, Arranged segment (e :: es) vs place ∧ args' = args ++ vs ∧
          slot' = (place.map (args.length + ·)).or slot := by
      obtain ⟨v, hv, h⟩ := bind_eq_ok.mp h
      obtain ⟨vs, place, harranged, rfl, rfl⟩ := ih h
      refine ⟨v :: vs, place.map (· + 1), harranged.cons he hv, by simp, ?_⟩
      rw [Option.map_map, List.length_append, List.length_singleton]
      congr 2
      funext n
      simp only [Function.comp_apply]
      omega
    unfold arguments at h
    split at h
    · rename_i s
      split_ifs at h with hs
      · subst hs
        obtain ⟨vs, place, harranged, rfl, rfl⟩ := ih h
        refine ⟨vs, place.or (some 0), harranged.placeholder, rfl, ?_⟩
        cases place <;> rfl
      · exact hliteral (by simp [isPlaceholder, hs]) h
    · rename_i hname
      refine hliteral ?_ h
      cases e with
      | name s => exact absurd rfl (hname s)
      | _ => rfl

/-- **The call that a stage is read as.** -/
theorem parse_written {s : String} {c : FilterCall} (h : FilterCall.parse s = .ok c) :
    ∃ before after, Written s.toList c.name before after ∧ c.args = before ++ after ∧
      c.slot = before.length := by
  unfold FilterCall.parse at h
  dsimp only at h
  split_ifs at h
  split at h
  · cases h
  · rename_i e hparse
    have hexpression : expression? s.toList = some e := hparse
    unfold ofExpr at h
    split at h
    · rename_i name
      split_ifs at h
      cases h
      exact ⟨[], [], .bare hexpression, rfl, rfl⟩
    · rename_i name es
      split_ifs at h
      obtain ⟨⟨args, slot⟩, hargs, h⟩ := bind_eq_ok.mp h
      dsimp only at h
      split_ifs at h
      cases h
      obtain ⟨vs, place, harranged, rfl, rfl⟩ := arguments_eq_ok hargs
      cases harranged with
      | unplaced hnone hvs => exact ⟨_, [], .last hexpression hnone hvs, by simp, by simp⟩
      | placed hnone hbefore hafter =>
        exact ⟨_, _, .placed hexpression hnone hbefore hafter, by simp, by simp⟩
    · cases h

theorem hasSlot_of_parse {s : String} {c : FilterCall} (h : FilterCall.parse s = .ok c) : c.HasSlot := by
  obtain ⟨before, after, -, hargs, hslot⟩ := parse_written h
  exact hasSlot_of_args hargs hslot

end FilterCall

/-! ## Sources -/

/-- The stages of the pipelines of a source, without the fields that they start with. -/
def filterStages (source : String) : List (List Char) :=
  (segments source.toList).flatMap fun s => match s with
    | .echo _ payload => (pipeStages payload).tail
    | _ => []

namespace Tag

variable {filters : Registry}

theorem stages_eq_ok {ss : List (List Char)} {cs : List FilterCall} (h : stages filters ss = .ok cs) :
    ∀ c ∈ cs, ∃ s ∈ ss, FilterCall.parse (String.ofList s) = .ok c := by
  induction ss generalizing cs with
  | nil =>
    cases h
    exact nofun
  | cons s ss ih =>
    obtain ⟨c, hc, h⟩ := bind_eq_ok.mp h
    obtain ⟨_, -, h⟩ := bind_eq_ok.mp h
    obtain ⟨cs, hcs, h⟩ := bind_eq_ok.mp h
    cases h
    refine List.forall_mem_cons.mpr ⟨⟨s, List.mem_cons_self, hc⟩, fun c' hc' => ?_⟩
    obtain ⟨s', hs', hparse⟩ := ih hcs c' hc'
    exact ⟨s', List.mem_cons_of_mem s hs', hparse⟩

theorem calls_ofSegment {s : Segment} {t : Tag} (h : ofSegment filters s = .ok t) :
    ∀ c ∈ t.calls, ∃ written payload, s = .echo written payload ∧
      ∃ stage ∈ (pipeStages payload).tail, FilterCall.parse (String.ofList stage) = .ok c := by
  intro c hc
  cases s with
  | text cs =>
    cases h
    cases hc
  | block written payload =>
    obtain ⟨-, rfl⟩ | ⟨-, path, rfl⟩ | ⟨-, path, compares, operand, rfl⟩ := ofBlock_eq_ok h <;> cases hc
  | echo written payload =>
    refine ⟨written, payload, rfl, ?_⟩
    obtain ⟨path, -, h⟩ := bind_eq_ok.mp h
    split at h
    · cases h
      cases hc
    · rename_i first rest hpieces
      split_ifs at h
      · cases h
        cases hc
      · obtain ⟨calls, hcalls, h⟩ := bind_eq_ok.mp h
        cases h
        rw [hpieces]
        exact stages_eq_ok hcalls c hc

end Tag

theorem ReadAs.exists_mem_segments {filters : Registry} {source : String} {ts : List Tag}
    (h : ReadAs filters source ts) {t : Tag} (ht : t ∈ ts) :
    ∃ s ∈ segments source.toList, Tag.ofSegment filters s = .ok t := by
  obtain ⟨hlen, hread⟩ := List.forall₂_iff_get.mp h
  obtain ⟨i, rfl⟩ := List.get_of_mem ht
  have hi : i < (segments source.toList).length := hlen.symm ▸ i.isLt
  exact ⟨_, List.get_mem _ ⟨i, hi⟩, hread i hi i.isLt⟩

/-- **The filter calls of a program are written in its source.** -/
theorem compile_written {filters : Registry} {source : String} {name : Option String} {p : Program}
    (h : compile filters source name = .ok p) : ∀ c ∈ p.calls, ∃ stage ∈ filterStages source,
      ∃ before after, FilterCall.Written stage c.name before after ∧ c.args = before ++ after ∧
        c.slot = before.length := by
  intro c hc
  obtain ⟨t, hread, rfl⟩ := compile_eq_ok_iff.mp h
  rw [Program.calls_tree] at hc
  obtain ⟨tag, htag, hc⟩ := List.mem_flatMap.mp hc
  obtain ⟨s, hs, hsegment⟩ := hread.exists_mem_segments htag
  obtain ⟨written, payload, rfl, stage, hstage, hparse⟩ := Tag.calls_ofSegment hsegment c hc
  obtain ⟨before, after, hwritten, hargs, hslot⟩ := FilterCall.parse_written hparse
  rw [String.toList_ofList] at hwritten
  exact ⟨stage, List.mem_flatMap.mpr ⟨_, hs, hstage⟩, before, after, hwritten, hargs, hslot⟩

theorem compile_hasSlot {filters : Registry} {source : String} {name : Option String} {p : Program}
    (h : compile filters source name = .ok p) : ∀ c ∈ p.calls, c.HasSlot := by
  intro c hc
  obtain ⟨stage, -, before, after, -, hargs, hslot⟩ := compile_written h c hc
  exact FilterCall.hasSlot_of_args hargs hslot

end Gabarit
