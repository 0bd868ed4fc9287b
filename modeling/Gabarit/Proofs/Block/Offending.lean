import Gabarit.Proofs.Block.Reading
import Gabarit.Proofs.Block.Unclosed
import Gabarit.Proofs.Segment.Tiling

/-!
# How compiling fails

* `Offends`: a segment that cannot be read, or ends a block where none is open;
* `Inoffensive`: segments of which none offends;
* `Draft.Follows`: a draft that has read some segments and knows which of their blocks are open;
* `draftSegments_ends`: reading segments goes on up to the first one that offends;
* `compile_fails`: compiling fails at the first segment that offends, or for the innermost block that is left
  open; `compile_eq_error`: by an error with its line, or by a fault of reading;
* **`compile_error_points`**: an error points at the tag it is about.
-/

namespace Gabarit

/-- After the segments before it, the segment cannot be read, or ends a block where none is open. -/
inductive Offends (filters : Registry) (before : List (ℕ × Segment)) (s : Segment) : Failure → Prop
  | unread {f : Failure} : Tag.ofSegment filters s = .error f → Offends filters before s f
  | unopened {ts : List Tag} : Tag.ofSegment filters s = .ok .ending → Reads filters before ts →
    (∀ i, ¬Unclosed ts i) → Offends filters before s (.tag "end" .unexpectedEnd)

/-- No segment offends. -/
def Inoffensive (filters : Registry) (ss : List (ℕ × Segment)) : Prop :=
  ∀ before s after, ss = before ++ s :: after → ∀ f, ¬Offends filters before s.2 f

/-- The delimiter that a tag starts with. -/
def Segment.delimiter? : Segment → Option (List Char)
  | .text _ => none
  | .echo .. => some [echoDelimiters.first, echoDelimiters.second]
  | .block .. => some [blockDelimiters.first, blockDelimiters.second]

/-- The draft holds a node for each segment, and the blocks that these leave open with the places of their
tags. None of the segments offends. -/
structure Draft.Follows (filters : Registry) (ss : List (ℕ × Segment)) (ts : List Tag) (d : Draft) :
    Prop where
  reads : Reads filters ss ts
  inoffensive : Inoffensive filters ss
  size : d.nodes.size = ts.length
  leaves : Leaves ts (d.opened.map Prod.fst)
  places : ∀ b ∈ d.opened, ∃ s, ss[b.1]? = some (b.2, s)

variable {filters : Registry} {source : String} {name : Option String} {f : Failure} {ss : List (ℕ × Segment)}
  {ts : List Tag} {d : Draft} {s : ℕ × Segment} {t : Tag}

theorem Reads.concat (h : Reads filters ss ts) (ht : Tag.ofSegment filters s.2 = .ok t) :
    Reads filters (ss ++ [s]) (ts ++ [t]) :=
  List.rel_append h (.cons ht .nil)

theorem Inoffensive.concat (h : Inoffensive filters ss) (hs : ∀ f, ¬Offends filters ss s.2 f) :
    Inoffensive filters (ss ++ [s]) := by
  intro before s' after he
  obtain rfl | ⟨after, last, rfl⟩ := after.eq_nil_or_concat'
  · obtain ⟨rfl, hlast⟩ := List.append_inj' he rfl
    cases hlast
    exact hs
  · rw [← List.cons_append, ← List.append_assoc] at he
    exact h before s' after (List.append_inj' he rfl).1

namespace Draft

theorem add_eq_error {place : ℕ} (h : d.add place t = .error f) : f = .tag "end" .unexpectedEnd := by
  cases t with
  | plain node => cases h
  | opening node => cases h
  | ending =>
    rw [add] at h
    split at h
    · cases h
      rfl
    · cases h

theorem follows_nil (filters : Registry) : Follows filters [] [] {} where
  reads := .nil
  inoffensive := fun _ _ _ he => absurd he (by simp)
  size := rfl
  leaves := .none balanced_nil
  places := nofun

theorem Follows.not_offends {d' : Draft} (h : Follows filters ss ts d)
    (ht : Tag.ofSegment filters s.2 = .ok t) (hadd : d.add s.1 t = .ok d') (f : Failure) :
    ¬Offends filters ss s.2 f := by
  intro hf
  cases hf with
  | unread hread =>
    rw [ht] at hread
    cases hread
  | unopened hending hreads hnone =>
    rw [ht] at hending
    cases hending
    obtain rfl := h.reads.unique hreads
    cases hopened : d.opened with
    | nil =>
      rw [add, hopened] at hadd
      cases hadd
    | cons b rest => exact hnone b.1 (h.leaves.mem_iff.mp (by simp [hopened]))

theorem Follows.add {d' : Draft} (h : Follows filters ss ts d) (ht : Tag.ofSegment filters s.2 = .ok t)
    (hadd : d.add s.1 t = .ok d') : Follows filters (ss ++ [s]) (ts ++ [t]) d' := by
  have hreads := h.reads.concat ht
  have hinoffensive := h.inoffensive.concat (h.not_offends ht hadd)
  have hplaces (b : ℕ × ℕ) (hb : b ∈ d.opened) : ∃ s', (ss ++ [s])[b.1]? = some (b.2, s') := by
    obtain ⟨s', hs'⟩ := h.places b hb
    exact ⟨s', (List.getElem?_append_left (List.getElem?_eq_some_iff.mp hs').1).trans hs'⟩
  cases t with
  | plain node =>
    cases hadd
    exact ⟨hreads, hinoffensive, by simp [h.size], h.leaves.plain node, hplaces⟩
  | opening node =>
    cases hadd
    refine ⟨hreads, hinoffensive, by simp [h.size], ?_, List.forall_mem_cons.mpr ⟨⟨s.2, ?_⟩, hplaces⟩⟩
    · rw [List.map_cons, h.size]
      exact h.leaves.opening node
    · rw [h.size, ← List.Forall₂.length_eq h.reads, List.getElem?_concat_length]
  | ending =>
    rw [Draft.add] at hadd
    split at hadd
    · cases hadd
    · rename_i opener place rest hopened
      cases hadd
      have hleaves := h.leaves
      rw [hopened, List.map_cons] at hleaves
      refine ⟨hreads, hinoffensive, by simp [h.size], hleaves.ending, fun b hb => hplaces b ?_⟩
      rw [hopened]
      exact List.mem_cons_of_mem _ hb

theorem Follows.offends (h : Follows filters ss ts d)
    (ht : Tag.ofSegment filters s.2 = .ok t) (hadd : d.add s.1 t = .error f) :
    Offends filters ss s.2 f := by
  obtain rfl := add_eq_error hadd
  cases t with
  | plain node => cases hadd
  | opening node => cases hadd
  | ending =>
    refine .unopened ht h.reads fun i hi => ?_
    have hmem := h.leaves.mem_iff.mpr hi
    rw [Draft.add] at hadd
    split at hadd
    · rename_i hopened
      simp [hopened] at hmem
    · cases hadd

end Draft

/-- The failure is that of the first segment that offends, told with its line. -/
def FailsFirst (filters : Registry) (text : List Char) (name : Option String) (ss : List (ℕ × Segment))
    (f : Failure) : Prop :=
  ∃ before place s after g, ss = before ++ (place, s) :: after ∧ Inoffensive filters before ∧
    Offends filters before s g ∧ f = g.locate (lineAt text place) name

/-- **Reading segments follows them to the end, or fails at the first one that offends.** -/
theorem draftSegments_ends (text : List Char) (name : Option String) (more : List (ℕ × Segment))
    (h : d.Follows filters ss ts) :
    EndsWith (FailsFirst filters text name (ss ++ more))
      (fun d' => ∃ us, d'.Follows filters (ss ++ more) us) (draftSegments filters text name d more) := by
  induction more generalizing ss ts d with
  | nil =>
    rw [List.append_nil]
    exact .ok ⟨ts, h⟩
  | cons s more ih =>
    have hfails {g : Failure} (hg : Offends filters ss s.2 g) :
        FailsFirst filters text name (ss ++ s :: more) (g.locate (lineAt text s.1) name) :=
      ⟨ss, s.1, s.2, more, g, rfl, h.inoffensive, hg, rfl⟩
    cases ht : Tag.ofSegment filters s.2 with
    | error g =>
      rw [draftSegments, ht]
      exact .error (hfails (.unread ht))
    | ok t =>
      rw [draftSegments_cons ht]
      cases hadd : d.add s.1 t with
      | error g => exact .error (hfails (h.offends ht hadd))
      | ok d' =>
        have hrest := ih (h.add ht hadd)
        rwa [List.append_assoc, List.singleton_append] at hrest

/-! ## Compiling -/

/-- **Compiling fails at the first segment that offends, or for the innermost block that is left open.** -/
theorem compile_fails (h : compile filters source name = .error f) :
    FailsFirst filters source.toList name (placedSegments source.toList) f ∨
    ∃ ts d opener place rest token,
      Draft.Follows filters (placedSegments source.toList) ts d ∧
      d.opened = (opener, place) :: rest ∧
      f = .error (.compile ⟨.unclosedBlock, token, some (lineAt source.toList place), name⟩) := by
  have hends := draftSegments_ends source.toList name (placedSegments source.toList)
    (Draft.follows_nil filters)
  rw [List.nil_append] at hends
  unfold compile at h
  dsimp only at h
  cases hd : draftSegments filters source.toList name {} (placedSegments source.toList) with
  | error g =>
    rw [hd] at h
    cases h
    exact .inl (hends.error_of hd)
  | ok d =>
    obtain ⟨ts, hfollows⟩ := hends.ok_of hd
    rw [hd] at h
    dsimp only [bind, Except.bind] at h
    split at h
    · cases h
    · rename_i opener place rest hopened
      cases h
      exact .inr ⟨ts, d, opener, place, rest, _, hfollows, hopened, rfl⟩

theorem Offends.ofTag {before : List (ℕ × Segment)} {s : Segment}
    (h : Offends filters before s f) : f.OfTag := by
  cases h with
  | unread hread => exact (Tag.ofSegment_ends filters s).error_of hread
  | unopened => exact .tag _ _

/-- The failure is an error in a template, with its line. -/
def Failure.Located (f : Failure) : Prop := ∃ (c : CompileError) (line : ℕ), f = .error (.compile c) ∧
  c.line = some line

/-- **Compiling fails by an error of the template with its line, or by a fault that reading one of its tags
lets through.** -/
theorem compile_eq_error (h : compile filters source name = .error f) :
    f.Located ∨ ∃ g : Fault, f = .fault g ∧ f.OfReading ∧
      ∃ s ∈ segments source.toList, Tag.ofSegment filters s = .error (.fault g) := by
  obtain ⟨before, place, s, after, g, he, -, hoffends, rfl⟩ | ⟨_, _, _, _, _, _, -, -, rfl⟩ := compile_fails h
  · have hs : s ∈ segments source.toList := by
      rw [← map_snd_placedSegments source.toList, he]
      simp
    cases hoffends with
    | unopened => exact .inl ⟨_, _, rfl, rfl⟩
    | unread hread =>
      cases (Tag.ofSegment_ends filters s).error_of hread with
      | tag token cause => exact .inl ⟨_, _, rfl, rfl⟩
      | fault hg => exact .inr ⟨_, rfl, hg, s, hs, hread⟩
  · exact .inl ⟨_, _, rfl, rfl⟩

theorem Offends.delimiter {before : List (ℕ × Segment)} {s : Segment}
    (h : Offends filters before s f) : ∃ d, s.delimiter? = some d := by
  cases s with
  | text cs => cases h with
    | unread hread => cases hread
    | unopened hending => cases hending
  | echo written payload => exact ⟨_, rfl⟩
  | block written payload => exact ⟨_, rfl⟩

theorem Segment.Proper.starts_with_delimiter {s : Segment} (h : s.Proper) {d : List Char}
    (hd : s.delimiter? = some d) : d <+: s.source := by
  cases s with
  | text cs => cases hd
  | echo written payload =>
    obtain ⟨body, rfl, -⟩ := h.between
    cases hd
    exact ⟨_, (List.append_assoc ..).symm⟩
  | block written payload =>
    obtain ⟨body, rfl, -⟩ := h.between
    cases hd
    exact ⟨_, (List.append_assoc ..).symm⟩

theorem starts_with_delimiter_at {text : List Char} {k place : ℕ} {s : Segment} {d : List Char}
    (hk : (placedSegments text)[k]? = some (place, s)) (hd : s.delimiter? = some d) :
    d <+: text.drop place := by
  obtain ⟨htiles, -, hproper, -⟩ := segments_tile text
  refine ((hproper _ (List.mem_of_getElem? hk)).starts_with_delimiter hd).trans ?_
  rw [(htiles.covers k place s hk).2]
  exact (List.take_prefix ..).drop place

theorem Unclosed.delimiter {k : ℕ} (h : Unclosed ts k) (hreads : Reads filters ss ts)
    (hk : ss[k]? = some s) : ∃ d, s.2.delimiter? = some d := by
  obtain ⟨⟨node, hnode⟩, -⟩ := h
  obtain ⟨hks, rfl⟩ := List.getElem?_eq_some_iff.mp hk
  obtain ⟨hkt, hnode⟩ := List.getElem?_eq_some_iff.mp hnode
  have hread : Tag.ofSegment filters ss[k].2 = .ok ts[k] := hreads.get hks hkt
  rw [hnode] at hread
  cases hs : ss[k].2 with
  | text cs =>
    rw [hs] at hread
    cases hread
  | echo written payload => exact ⟨_, rfl⟩
  | block written payload => exact ⟨_, rfl⟩

theorem Draft.Follows.innermost (h : d.Follows filters ss ts) {opener place : ℕ} {rest : List (ℕ × ℕ)}
    (hopened : d.opened = (opener, place) :: rest) :
    ∃ s, ss[opener]? = some (place, s) ∧ (∃ delim, s.delimiter? = some delim) ∧ Unclosed ts opener ∧
      ∀ i, Unclosed ts i → i ≤ opener := by
  have hleaves := h.leaves
  rw [hopened, List.map_cons] at hleaves
  have hunclosed : Unclosed ts opener := hleaves.mem_iff.mp List.mem_cons_self
  obtain ⟨s, hs⟩ := h.places (opener, place) (by simp [hopened])
  exact ⟨s, hs, hunclosed.delimiter h.reads hs, hunclosed, fun _ => hleaves.le_head⟩

/-- **A compile error points at the tag it is about.** It names the template, and its line is one more than
the line feeds before the opening delimiter of a tag. That is the first tag that cannot be read or ends a
block where none is open, interpolations and block tags counted together; if there is none, it is the tag of
the innermost block that is still open at the end of the source. -/
theorem compile_error_points {e : CompileError}
    (h : compile filters source name = .error (.error (.compile e))) :
    e.template = name ∧ ∃ before place s after,
      placedSegments source.toList = before ++ (place, s) :: after ∧
      e.line = some (1 + (source.toList.take place).count '\n') ∧
      (∃ d, s.delimiter? = some d ∧ d <+: source.toList.drop place) ∧
      ((Inoffensive filters before ∧ Offends filters before s (.tag e.token e.cause)) ∨
        (Inoffensive filters (placedSegments source.toList) ∧
          e.cause = .unclosedBlock ∧ e.cause.kind = .unbalancedBlock ∧
          ∃ ts, ReadAs filters source ts ∧ Unclosed ts before.length ∧
            ∀ i, Unclosed ts i → i ≤ before.length)) := by
  have hplace {before after : List (ℕ × Segment)} {place : ℕ} {s : Segment}
      (he : placedSegments source.toList = before ++ (place, s) :: after) :
      (placedSegments source.toList)[before.length]? = some (place, s) := by
    rw [he, List.getElem?_append_right le_rfl, Nat.sub_self, List.getElem?_cons_zero]
  obtain ⟨before, place, s, after, g, he, hbefore, hoffends, hlocate⟩ |
    ⟨ts, d, opener, place, rest, token, hfollows, hopened, hunclosed⟩ := compile_fails h
  · cases hoffends.ofTag with
    | fault => cases hlocate
    | tag token cause =>
      cases hlocate
      obtain ⟨delim, hdelim⟩ := hoffends.delimiter
      exact ⟨rfl, before, place, s, after, he, congrArg some (Nat.add_comm ..),
        ⟨delim, hdelim, starts_with_delimiter_at (hplace he) hdelim⟩, .inl ⟨hbefore, hoffends⟩⟩
  · cases hunclosed
    obtain ⟨s, hs, ⟨delim, hdelim⟩, hunclosed, hinnermost⟩ := hfollows.innermost hopened
    have hprefix := starts_with_delimiter_at hs hdelim
    obtain ⟨before, after, he, rfl⟩ := exists_split hs
    exact ⟨rfl, before, place, s, after, he, congrArg some (Nat.add_comm ..), ⟨delim, hdelim, hprefix⟩,
      .inr ⟨hfollows.inoffensive, rfl, rfl, ts, readAs_iff_reads.mpr hfollows.reads, hunclosed,
        hinnermost⟩⟩

/-- A filter that is unknown, before an ending that ends no block and a block that is left open. -/
theorem compile_error_points_filter :
    let source := "\x7b% foreach xs %\x7d\n\x7b\x7b a \x7d\x7d \x7b\x7b b|nope \x7d\x7d\x7b% end %\x7d\n" ++
      "\x7b% end %\x7d\x7b% if a %\x7d"
    let e : CompileError := ⟨.unknownFilter, "nope", some 2, some "page"⟩
    compile .standard source (some "page") = .error (.error (.compile e)) ∧
      ∃ before place s after,
        placedSegments source.toList = before ++ (place, s) :: after ∧
        e.line = some (1 + (source.toList.take place).count '\n') ∧
        Inoffensive .standard before ∧ Offends .standard before s (.tag "nope" .unknownFilter) := by
  intro source e
  have hcompile : compile .standard source (some "page") = .error (.error (.compile e)) := by decide +kernel
  obtain ⟨-, before, place, s, after, he, hline, -, ⟨hbefore, hoffends⟩ | ⟨-, hcause, -⟩⟩ :=
    compile_error_points hcompile
  · exact ⟨hcompile, before, place, s, after, he, hline, hbefore, hoffends⟩
  · exact absurd hcause (by decide)

/-- A block that is left open inside of another one. -/
example : compile .standard "\x7b% if a %\x7d\n\x7b% if b %\x7d\x7b% end %\x7d\n\x7b% foreach xs %\x7d" =
    .error (.error (.compile ⟨.unclosedBlock, "foreach xs", some 3, none⟩)) := by decide +kernel

end Gabarit
