import Gabarit.Proofs.Yaml.Token

/-!
# Plain texts of documents

* `readPlain_last`: a plain text ends with a character of a word;
* `Token.Tidy`, **`tokens_tidy`**: so do the plain texts among the tokens of a document.
-/

namespace Gabarit.Yaml

theorem mem_plainWord {flow : Bool} {cs : List Char} {c : Char} (h : c ∈ plainWord flow cs) :
    isGap c = false := by
  induction cs with
  | nil => cases h
  | cons d cs ih =>
    rw [plainWord] at h
    split_ifs at h with hstop
    · cases h
    · obtain rfl | hc := List.mem_cons.mp h
      · simp only [Bool.or_eq_true, not_or] at hstop
        exact Bool.eq_false_iff.mpr hstop.1.1
      · exact ih hc

theorem plainFrom_last {flow : Bool} {indent : ℤ} {fuel : ℕ} {found spaces : List Char} {broken : Bool}
    {p : Position} (hfound : found.getLast? ≠ some '\n') :
    (plainFrom flow indent fuel found spaces broken p).1.getLast? ≠ some '\n' := by
  induction fuel generalizing found spaces broken p with
  | zero => exact hfound
  | succ fuel ih =>
    rw [plainFrom]
    split_ifs with hhash
    · exact hfound
    dsimp only
    split_ifs with hword hend
    · exact hfound
    all_goals
      have hlast : (found ++ spaces ++ plainWord flow p.rest).getLast? ≠ some '\n' := by
        rw [List.isEmpty_iff] at hword
        rw [List.getLast?_append_of_ne_nil _ hword]
        intro hline
        cases mem_plainWord (List.mem_of_getLast? hline)
    · exact hlast
    · exact ih hlast

/-- A plain text does not end with a line end. -/
theorem readPlain_last (flow : Bool) (indent : ℤ) (p : Position) :
    ((readPlain flow indent p).1.map Text.Point.char).getLast? ≠ some (.char '\n') := by
  have hlast : (readPlain flow indent p).1.getLast? ≠ some '\n' := plainFrom_last (by decide)
  rw [List.getLast?_map]
  simpa using hlast

/-- A plain text does not end with a line end. -/
def Token.Tidy : Token → Prop
  | .scalar true text => text.getLast? ≠ some (.char '\n')
  | _ => True

namespace Scan

/-- The tokens are those of another state, and others that are tidy. -/
def Adds (s s' : Scan) : Prop := ∀ t ∈ s'.tokens, t ∈ s.tokens ∨ t.Tidy

variable {s s' s'' : Scan} {t : Token}

theorem Adds.refl (s : Scan) : s.Adds s := fun _ => .inl

theorem Adds.trans (h : s.Adds s') (h' : s'.Adds s'') : s.Adds s'' :=
  fun _ ht => (h' _ ht).elim (h _) .inr

theorem Adds.of_eq (h : s'.tokens = s.tokens) : s.Adds s' := fun _ ht => .inl (h ▸ ht)

theorem push_adds (s : Scan) (ht : t.Tidy) : s.Adds (s.push t) :=
  fun _ hu => (List.mem_cons.mp hu).elim (fun h => .inr (h ▸ ht)) .inl

theorem insertToken_adds (s : Scan) (number : ℕ) (ht : t.Tidy) : s.Adds (s.insertToken number t) := by
  intro u hu
  obtain hu | hu := List.mem_append.mp hu
  · exact .inl (List.mem_of_mem_take hu)
  · obtain rfl | hu := List.mem_cons.mp hu
    · exact .inr ht
    · exact .inl (List.mem_of_mem_drop hu)

theorem close_adds (column : ℤ) (outer : List ℤ) (s : Scan) : s.Adds (unwind.close column outer s) := by
  induction outer generalizing s with
  | nil => exact .refl s
  | cons c outer ih =>
    rw [unwind.close]
    split_ifs
    · exact (push_adds (t := .blockEnd) _ trivial).trans (ih _)
    · exact .refl s

theorem unwind_adds (column : ℤ) (s : Scan) : s.Adds (s.unwind column) := by
  unfold unwind
  split_ifs
  · exact close_adds _ _ _
  · exact .refl s

theorem openBlock_adds (s : Scan) (column : ℤ) (number : ℕ) (ht : t.Tidy) :
    s.Adds (s.openBlock column number t) := by
  unfold openBlock
  split_ifs
  · exact insertToken_adds s number ht
  · exact .refl s

theorem ite_openBlock_adds (s : Scan) (c : Prop) [Decidable c] (column : ℤ) (number : ℕ) (ht : t.Tidy) :
    s.Adds (if c then s.openBlock column number t else s) := by
  split_ifs
  · exact openBlock_adds s column number ht
  · exact .refl s

theorem skipBlanks_adds (fuel : ℕ) (s : Scan) : s.Adds (s.skipBlanks fuel) := by
  induction fuel generalizing s with
  | zero => exact .refl s
  | succ fuel ih =>
    rw [skipBlanks]
    split_ifs
    · exact (Adds.of_eq rfl).trans (ih _)
    · exact .of_eq rfl

/-- A step of reading adds tidy tokens. -/
abbrev Adding (s : Scan) (x : Except Fault Scan) : Prop := EndsWith (fun _ => True) s.Adds x

theorem Adding.bind {x : Except Fault Scan} (h : Adding s x) {g : Scan → Except Fault Scan}
    (hg : ∀ s', Adding s' (g s')) : Adding s (x >>= g) :=
  EndsWith.bind h fun s' hs' => (hg s').mono (fun _ => id) fun _ => hs'.trans

theorem dropStale_adds (s : Scan) : Adding s s.dropStale := .ite (.error trivial) (.ok (.of_eq rfl))

theorem dropKey_adds (s : Scan) : Adding s s.dropKey := by
  unfold dropKey
  split
  · exact .ite (.error trivial) (.ok (.of_eq rfl))
  · exact .ok (.refl s)

theorem saveKey_adds (s : Scan) : Adding s s.saveKey :=
  .ite ((dropKey_adds s).bind fun _ => .ok (.of_eq rfl)) (.ok (.refl s))

theorem Adding.after {x : Except Fault Scan} (hx : Adding s' x) (h : s.Adds s') : Adding s x :=
  hx.mono (fun _ => id) fun _ => h.trans

theorem fetchEnd_adds (s : Scan) : Adding s s.fetchEnd := by
  refine Adding.after ((dropKey_adds _).bind fun s' => .ok ?_) (unwind_adds (-1) s)
  exact push_adds (t := .streamEnd) s' trivial

theorem fetchDivider_adds (s : Scan) (ht : t.Tidy) : Adding s (s.fetchDivider t) := by
  refine Adding.after ((dropKey_adds _).bind fun s' => .ok ?_) (unwind_adds (-1) s)
  exact push_adds s' ht

theorem ends_any {α : Type} (x : Except Fault α) : EndsWith (fun _ => True) (fun _ => True) x := by
  cases x
  · exact .error trivial
  · exact .ok trivial

theorem readDirective_tidy (p : Position) :
    EndsWith (fun _ => True) (fun q : Token × Position => q.1.Tidy) (readDirective p) := by
  unfold readDirective
  refine .ite (.error trivial) (EndsWith.bind (Q := fun q : Token × Position => q.1.Tidy) ?_ ?_)
  rotate_left
  · exact fun q hq => (ends_any _).bind fun r _ => .ok hq
  refine .ite ?_ (.ite ?_ (.ok trivial))
  · refine (ends_any _).bind fun major _ => .ite (.error trivial) ?_
    exact (ends_any _).bind fun minor _ => .ite (.error trivial) (.ok trivial)
  · refine (ends_any _).bind fun handle _ => .ite (.error trivial) ?_
    exact (ends_any _).bind fun start _ => .ite (.error trivial) (.ok trivial)

theorem fetchDirective_adds (s : Scan) : Adding s s.fetchDirective := by
  refine ((dropKey_adds _).bind fun s' => ?_).after (unwind_adds _ s)
  exact (readDirective_tidy _).bind fun q hq => .ok (push_adds s' hq)

theorem fetchOpening_adds (s : Scan) (ht : t.Tidy) : Adding s (s.fetchOpening t) :=
  (saveKey_adds s).bind fun s' => .ok (push_adds s' ht)

theorem fetchClosing_adds (s : Scan) (ht : t.Tidy) : Adding s (s.fetchClosing t) :=
  (dropKey_adds s).bind fun s' => .ok (push_adds s' ht)

theorem fetchComma_adds (s : Scan) : Adding s s.fetchComma :=
  (dropKey_adds s).bind fun s' => .ok (push_adds (t := .flowEntry) s' trivial)

theorem fetchEntry_adds (s : Scan) : Adding s s.fetchEntry := by
  refine .ite (.error trivial) (((dropKey_adds _).bind fun s' => ?_).after
    (ite_openBlock_adds (t := .blockSequence) s _ _ _ trivial))
  exact .ok (push_adds (t := .blockEntry) s' trivial)

theorem fetchKey_adds (s : Scan) : Adding s s.fetchKey := by
  refine .ite (.error trivial) (((dropKey_adds _).bind fun s' => ?_).after
    (ite_openBlock_adds (t := .blockMapping) s _ _ _ trivial))
  exact .ok (push_adds (t := .key) s' trivial)

theorem fetchValue_adds (s : Scan) : Adding s s.fetchValue := by
  unfold fetchValue
  split
  · rename_i k _
    refine .ok ?_
    refine Adds.trans ?_ (push_adds (t := .value) _ trivial)
    refine Adds.trans ?_ (ite_openBlock_adds (t := .blockMapping) _ _ _ _ trivial)
    exact Adds.trans (.of_eq rfl) (insertToken_adds (t := .key) _ k.number trivial)
  · refine .ite (.error trivial) (.ok ?_)
    refine Adds.trans ?_ (push_adds (t := .value) _ trivial)
    exact ite_openBlock_adds (t := .blockMapping) s _ _ _ trivial

theorem fetchAnchor_adds (s : Scan) {token : String → Token} (ht : ∀ name, (token name).Tidy) :
    Adding s (s.fetchAnchor token) := by
  refine (saveKey_adds s).bind fun s' => ?_
  exact (ends_any _).bind fun q _ => .ok (push_adds s' (ht q.1))

theorem readTag_tidy (p : Position) :
    EndsWith (fun _ => True) (fun q : Token × Position => q.1.Tidy) (readTag p) := by
  unfold readTag
  refine EndsWith.bind (Q := fun q : Token × Position => q.1.Tidy) ?_ fun q hq =>
    .ite (.ok hq) (.error trivial)
  refine .ite ?_ (.ite (.ok trivial) (.ite ?_ ?_))
  · exact (ends_any _).bind fun text _ => .ite (.error trivial) (.ok trivial)
  · exact (ends_any _).bind fun handle _ => (ends_any _).bind fun text _ => .ok trivial
  · exact (ends_any _).bind fun text _ => .ok trivial

theorem fetchTag_adds (s : Scan) : Adding s s.fetchTag :=
  (saveKey_adds s).bind fun s' => (readTag_tidy _).bind fun _ hq => .ok (push_adds s' hq)

theorem fetchBlock_adds (s : Scan) (folded : Bool) : Adding s (s.fetchBlock folded) := by
  refine (dropKey_adds s).bind fun s' => ?_
  exact (ends_any _).bind fun q _ => .ok (push_adds (t := .scalar false (q.1.map .char)) s' trivial)

theorem fetchQuoted_adds (s : Scan) (double : Bool) : Adding s (s.fetchQuoted double) := by
  refine (saveKey_adds s).bind fun s' => ?_
  exact (ends_any _).bind fun q _ => .ok (push_adds (t := .scalar false q.1) s' trivial)

theorem fetchPlain_adds (s : Scan) : Adding s s.fetchPlain :=
  (saveKey_adds s).bind fun s' => .ok (push_adds s' (readPlain_last _ _ _))

theorem fetch_adds (s : Scan) : Adding s s.fetch := by
  have hmark : s.Adds
      (if s.pos.index = 0 ∧ s.pos.head = '\uFEFF' then { s with pos := s.pos.next } else s) := by
    split_ifs
    · exact .of_eq rfl
    · exact .refl s
  unfold fetch
  refine Adding.after ((dropStale_adds _).bind fun s₁ => Adding.after ?_ (unwind_adds s₁.column s₁))
    (hmark.trans (skipBlanks_adds _ _))
  generalize s₁.unwind s₁.column = s₂
  refine .ite (fetchEnd_adds _) (.ite (fetchDirective_adds _) ?_)
  refine .ite (fetchDivider_adds (t := .documentStart) _ trivial) ?_
  refine .ite (fetchDivider_adds (t := .documentEnd) _ trivial) ?_
  refine .ite (fetchOpening_adds (t := .flowSequence) _ trivial) ?_
  refine .ite (fetchOpening_adds (t := .flowMapping) _ trivial) ?_
  refine .ite (fetchClosing_adds (t := .flowSequenceEnd) _ trivial) ?_
  refine .ite (fetchClosing_adds (t := .flowMappingEnd) _ trivial) ?_
  refine .ite (fetchComma_adds _) (.ite (fetchEntry_adds _) ?_)
  refine .ite (fetchKey_adds _) (.ite (fetchValue_adds _) ?_)
  refine .ite (fetchAnchor_adds _ fun _ => trivial) (.ite (fetchAnchor_adds _ fun _ => trivial) ?_)
  refine .ite (fetchTag_adds _) (.ite (fetchBlock_adds _ _) (.ite (fetchBlock_adds _ _) ?_))
  refine .ite (fetchQuoted_adds _ _) (.ite (fetchQuoted_adds _ _) ?_)
  exact .ite (fetchPlain_adds _) (.error trivial)

theorem run_tidy {fuel ready : ℕ} (hs : ∀ t ∈ s.tokens, t.Tidy) : ∀ t ∈ (run fuel ready s).1, t.Tidy := by
  have hadds {s s' : Scan} (h : s.Adds s') (hs : ∀ t ∈ s.tokens, t.Tidy) : ∀ t ∈ s'.tokens, t.Tidy :=
    fun t ht => (h t ht).elim (hs t) id
  have hready (n : ℕ) {ts : List Token} (hts : ∀ t ∈ ts, t.Tidy) : ∀ t ∈ ts.reverse.take n, t.Tidy :=
    fun t ht => hts t (List.mem_reverse.mp (List.mem_of_mem_take ht))
  induction fuel generalizing ready s with
  | zero => exact fun t ht => hs t (List.mem_reverse.mp ht)
  | succ fuel ih =>
    rw [run_succ]
    split
    · exact fun t ht => hs t (List.mem_reverse.mp ht)
    split
    · exact hready _ hs
    rename_i s₁ hstale
    have hs₁ := hadds ((dropStale_adds s).ok_of hstale) hs
    split
    · exact hready _ hs₁
    rename_i after hfetch
    exact ih (hadds ((fetch_adds s₁).ok_of hfetch) hs₁)

end Scan

/-- **The plain texts of a document do not end with a line end.** -/
theorem tokens_tidy (cs : List Char) : ∀ t ∈ (tokens cs).1, t.Tidy :=
  Scan.run_tidy (by rintro t ⟨⟩)

end Gabarit.Yaml
