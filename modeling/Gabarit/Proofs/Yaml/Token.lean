import Gabarit.Proofs.Yaml.Scalar

/-!
# Reading tokens

Each token is read from characters, so that the tokens of a document come to an end.

* `readTag_ends`, `readDirective_ends`, `readAnchor_ends`: the tokens that are not texts;
* `fetch_ends`: a token leaves fewer characters, unless it is the last one;
* **`tokens_fault`**: the fault that ends the tokens of a document.
-/

namespace Gabarit.Yaml

namespace Scan

open Position

variable {p : Position}

/-! ## The state of reading -/

theorem dropStale_ends (s : Scan) :
    EndsWith (· = Fault.badToken) (fun s' : Scan => s'.pos = s.pos) s.dropStale :=
  .ite (.error rfl) (.ok rfl)

theorem dropKey_ends (s : Scan) :
    EndsWith (· = Fault.badToken) (fun s' : Scan => s'.pos = s.pos ∧ s'.flow = s.flow) s.dropKey := by
  unfold dropKey
  split
  · exact .ite (.error rfl) (.ok ⟨rfl, rfl⟩)
  · exact .ok ⟨rfl, rfl⟩

theorem saveKey_ends (s : Scan) :
    EndsWith (· = Fault.badToken) (fun s' : Scan => s'.pos = s.pos ∧ s'.flow = s.flow) s.saveKey := by
  refine .ite ?_ (.ok ⟨rfl, rfl⟩)
  exact (dropKey_ends s).bind fun s' h => .ok h

theorem close_pos (column : ℤ) (outer : List ℤ) (s : Scan) : (unwind.close column outer s).pos = s.pos := by
  induction outer generalizing s with
  | nil => rfl
  | cons c outer ih =>
    rw [unwind.close]
    split_ifs
    · exact ih _
    · rfl

theorem unwind_pos (column : ℤ) (s : Scan) : (s.unwind column).pos = s.pos := by
  unfold unwind
  split_ifs
  · exact close_pos _ _ _
  · rfl

theorem openBlock_pos (s : Scan) (column : ℤ) (number : ℕ) (t : Token) :
    (s.openBlock column number t).pos = s.pos := by
  unfold openBlock
  split_ifs <;> rfl

theorem skipBlanks_follows (fuel : ℕ) (s : Scan) : (s.skipBlanks fuel).pos.Follows s.pos := by
  induction fuel generalizing s with
  | zero => exact .refl _
  | succ fuel ih =>
    have hblank : s.pos.skipSpaces.skipComment.Follows s.pos :=
      (skipComment_follows _).trans (skipWhile_follows _ s.pos)
    rw [skipBlanks]
    split_ifs
    · exact (ih _).trans ((takeBreak_follows _).trans hblank)
    · exact hblank

/-! ## Directives, anchors and tags -/

theorem readEscapes_ends (fuel : ℕ) (p : Position) :
    EndsWith (· = Fault.badToken) (fun q : List UInt8 × Position => q.2.Follows p) (readEscapes fuel p) := by
  induction fuel generalizing p with
  | zero => exact .ok (.refl p)
  | succ fuel ih =>
    rw [readEscapes]
    refine .ite ?_ (.ok (.refl p))
    split
    · exact (ih _).bind fun q hq => .ok (hq.trans (skip_follows 3 p))
    · exact .error rfl

theorem readTagChars_ends (fuel : ℕ) (p : Position) :
    EndsWith (· = Fault.badToken) (fun q : Piece => q.2.Follows p) (readTagChars fuel p) := by
  induction fuel generalizing p with
  | zero => exact .ok (.refl p)
  | succ fuel ih =>
    rw [readTagChars]
    refine .ite ?_ (.ite ?_ (.ok (.refl p)))
    · refine (readEscapes_ends _ p).bind fun ⟨bs, q⟩ hq => ?_
      dsimp only
      split
      · exact .error rfl
      · exact (ih _).bind fun r hr => .ok (hr.trans hq)
    · exact (ih _).bind fun r hr => .ok (hr.trans (next_follows p))

theorem readTagText_ends (p : Position) :
    EndsWith (· = Fault.badToken) (fun q : String × Position => q.2.Follows p) (readTagText p) :=
  .ite ((readTagChars_ends _ p).bind fun _ hq => .ok hq) (.error rfl)

theorem readHandle_ends (p : Position) :
    EndsWith (· = Fault.badToken) (fun q : String × Position => q.2.Follows p.next) (readHandle p) := by
  refine .ite (.ite (.ok (.refl _)) (.ite (.ok ?_) (.error rfl))) (.error rfl)
  exact (next_follows _).trans (span_follows _ _)

theorem readVersionNumber_ends (p : Position) :
    EndsWith (· = Fault.badToken) (fun q : ℕ × Position => q.2.Follows p) (readVersionNumber p) := by
  have hspan := span_follows Char.isDigit p
  unfold readVersionNumber
  split
  · exact .error rfl
  · rename_i heq
    rw [heq] at hspan
    exact .ok hspan

theorem readDirective_ends (p : Position) :
    EndsWith (· = Fault.badToken) (fun q : Token × Position => q.2.Follows p) (readDirective p) := by
  have hspan := span_follows isWordChar p
  have hspaces (q : Position) : q.skipSpaces.Follows q := skipWhile_follows _ q
  unfold readDirective
  refine .ite (.error rfl) (EndsWith.bind (Q := fun q : Token × Position => q.2.Follows p) ?_ ?_)
  rotate_left
  · exact fun q hq => (skipLine_ends q.2).bind fun r hr => .ok (hr.trans hq)
  refine .ite ?_ (.ite ?_ (.ok ((skipWhile_follows _ _).trans hspan)))
  · refine (readVersionNumber_ends _).bind fun major hmajor => .ite (.error rfl) ?_
    refine (readVersionNumber_ends _).bind fun minor hminor => .ite (.error rfl) (.ok ?_)
    exact hminor.trans ((next_follows _).trans (hmajor.trans ((hspaces _).trans hspan)))
  · refine (readHandle_ends _).bind fun handle hhandle => .ite (.error rfl) ?_
    refine (readTagText_ends _).bind fun start hstart => .ite (.error rfl) (.ok ?_)
    exact hstart.trans ((hspaces _).trans (hhandle.trans ((next_follows _).trans ((hspaces _).trans hspan))))

theorem readAnchor_ends (p : Position) :
    EndsWith (· = Fault.badToken) (fun q : String × Position => q.2.Follows p) (readAnchor p) :=
  .ite (.error rfl) (.ite (.ok (span_follows _ p)) (.error rfl))

theorem readTag_ends (p : Position) :
    EndsWith (· = Fault.badToken) (fun q : Token × Position => q.2.Follows p.next) (readTag p) := by
  unfold readTag
  refine EndsWith.bind (Q := fun q : Token × Position => q.2.Follows p.next) ?_ ?_
  rotate_left
  · exact fun q hq => .ite (.ok hq) (.error rfl)
  refine .ite ?_ (.ite (.ok (.refl _)) (.ite ?_ ?_))
  · refine (readTagText_ends _).bind fun text htext => .ite (.error rfl) (.ok ?_)
    exact (next_follows _).trans (htext.trans (skip_succ_follows 1 p))
  · refine (readHandle_ends p).bind fun handle hhandle => (readTagText_ends _).bind fun text htext => .ok ?_
    exact htext.trans hhandle
  · exact (readTagText_ends _).bind fun text htext => .ok htext

/-! ## Tokens -/

variable {s : Scan}

/-- Reading a token goes on behind the next character. -/
def Advances (s : Scan) (x : Except Fault Scan) : Prop :=
  EndsWith (Unread s.pos.rest) (fun s' : Scan => s'.pos.Follows s.pos.next) x

theorem Advances.of_badToken {x : Except Fault Scan}
    (h : EndsWith (· = Fault.badToken) (fun s' : Scan => s'.pos.Follows s.pos.next) x) : Advances s x :=
  h.mono (fun _ hf => .inl hf) fun _ => id

theorem fetchDivider_advances (s : Scan) (t : Token) : Advances s (s.fetchDivider t) := by
  refine .of_badToken ((dropKey_ends _).bind fun s' h => .ok ?_)
  rw [unwind_pos] at h
  exact h.1 ▸ skip_succ_follows 2 _

theorem fetchDirective_advances (s : Scan) : Advances s s.fetchDirective := by
  refine .of_badToken ((dropKey_ends _).bind fun s' h => (readDirective_ends _).bind fun q hq => .ok ?_)
  rw [unwind_pos] at h
  exact h.1 ▸ hq

theorem fetchOpening_advances (s : Scan) (t : Token) : Advances s (s.fetchOpening t) :=
  .of_badToken ((saveKey_ends s).bind fun _ h => .ok (h.1 ▸ skip_succ_follows 0 _))

theorem fetchClosing_advances (s : Scan) (t : Token) : Advances s (s.fetchClosing t) :=
  .of_badToken ((dropKey_ends s).bind fun _ h => .ok (h.1 ▸ skip_succ_follows 0 _))

theorem fetchComma_advances (s : Scan) : Advances s s.fetchComma :=
  .of_badToken ((dropKey_ends s).bind fun _ h => .ok (h.1 ▸ skip_succ_follows 0 _))

/-- A block may be opened before a token is read. -/
theorem pos_ite_openBlock (s : Scan) (c : Prop) [Decidable c] (column : ℤ) (number : ℕ) (t : Token) :
    (if c then s.openBlock column number t else s).pos = s.pos := by
  split_ifs
  · exact openBlock_pos s column number t
  · rfl

theorem fetchEntry_advances (s : Scan) : Advances s s.fetchEntry := by
  refine .of_badToken (.ite (.error rfl) ((dropKey_ends _).bind fun s' h => .ok ?_))
  rw [pos_ite_openBlock] at h
  exact h.1 ▸ skip_succ_follows 0 _

theorem fetchKey_advances (s : Scan) : Advances s s.fetchKey := by
  refine .of_badToken (.ite (.error rfl) ((dropKey_ends _).bind fun s' h => .ok ?_))
  rw [pos_ite_openBlock] at h
  exact h.1 ▸ skip_succ_follows 0 _

theorem fetchValue_advances (s : Scan) : Advances s s.fetchValue := by
  apply Advances.of_badToken
  unfold fetchValue
  split
  · refine .ok ?_
    change (Position.skip 1 (Scan.pos (ite _ _ _))).Follows s.pos.next
    rw [pos_ite_openBlock]
    exact skip_succ_follows 0 s.pos
  · refine .ite (.error rfl) (.ok ?_)
    change (Position.skip 1 (Scan.pos (ite _ _ _))).Follows s.pos.next
    rw [pos_ite_openBlock]
    exact skip_succ_follows 0 s.pos

theorem fetchAnchor_advances (s : Scan) (token : String → Token) : Advances s (s.fetchAnchor token) :=
  .of_badToken ((saveKey_ends s).bind fun _ h => (readAnchor_ends _).bind fun _ hq => .ok (h.1 ▸ hq))

theorem fetchTag_advances (s : Scan) : Advances s s.fetchTag :=
  .of_badToken ((saveKey_ends s).bind fun _ h => (readTag_ends _).bind fun _ hq => .ok (h.1 ▸ hq))

theorem fetchBlock_advances (s : Scan) (folded : Bool) : Advances s (s.fetchBlock folded) :=
  .of_badToken ((dropKey_ends s).bind fun _ h => (readBlock_ends _ _ _).bind fun _ hq => .ok (h.1 ▸ hq))

theorem fetchQuoted_advances (s : Scan) (double : Bool) : Advances s (s.fetchQuoted double) := by
  refine ((saveKey_ends s).mono (fun _ hf => .inl hf) fun _ => id).bind fun s' h => ?_
  rw [h.1]
  exact ((readQuoted_ends double s.pos.next).mono (fun _ hf => hf.mono (next_follows _)) fun _ => id).bind
    fun _ hq => .ok hq

/-- What can start a plain text is a character of it. -/
theorem plainWord_ne_nil (h : s.startsPlain p.head (p.peek 1) = true) :
    p.head ≠ '#' ∧ plainWord (s.flow != 0) p.rest ≠ [] := by
  simp only [startsPlain, Bool.or_eq_true, Bool.and_eq_true, Bool.not_eq_true', Bool.or_eq_false_iff,
    beq_iff_eq] at h
  have hstop (hgap : isGap p.head = false) (hcolon : p.head = ':' → isGap (p.peek 1) = false ∧ s.flow = 0)
      (hflow : s.flow ≠ 0 → isFlowMark p.head = false ∧ p.head ≠ '?') : plainWord (s.flow != 0) p.rest ≠ [] := by
    have hnul : p.head ≠ '\x00' := by
      intro hnul
      rw [hnul] at hgap
      cases hgap
    have hnext : p.peek 1 = p.next.rest.headD '\x00' := by
      rw [peek, rest_eq_cons hnul]
      cases p.next.rest <;> rfl
    rw [rest_eq_cons hnul, plainWord, ← hnext, if_neg]
    · exact List.cons_ne_nil _ _
    · simp only [hgap, Bool.false_or, Bool.or_eq_true, Bool.and_eq_true, beq_iff_eq, bne_iff_ne, not_or, not_and]
      refine ⟨fun hhead => ?_, fun hopen => ?_⟩
      · obtain ⟨hpeek, hclosed⟩ := hcolon hhead
        simp [hpeek, hclosed]
      · simp [hflow hopen]
  obtain ⟨hgap, hmark⟩ | ⟨hgap, hsign⟩ := h
  · have hne {d : Char} (hd : d ∈ "-?:,[]\x7b\x7d#&*!|>'\"%@`".toList) : p.head ≠ d := by
      rintro rfl
      rw [List.contains_iff_mem.mpr hd] at hmark
      cases hmark
    refine ⟨hne (by decide), hstop hgap (fun h => absurd h (hne (by decide))) fun _ => ⟨?_, hne (by decide)⟩⟩
    simp only [isFlowMark, Bool.or_eq_false_iff, beq_eq_false_iff_ne]
    exact ⟨⟨⟨⟨hne (by decide), hne (by decide)⟩, hne (by decide)⟩, hne (by decide)⟩, hne (by decide)⟩
  · obtain hminus | ⟨hflow, hquestion | hcolon⟩ := hsign
    · rw [hminus] at hstop ⊢
      exact ⟨by decide, hstop rfl (fun h => absurd h (by decide)) fun _ => ⟨rfl, by decide⟩⟩
    · rw [hquestion] at hstop ⊢
      exact ⟨by decide, hstop rfl (fun h => absurd h (by decide)) fun h => absurd hflow h⟩
    · rw [hcolon] at hstop ⊢
      exact ⟨by decide, hstop rfl (fun _ => ⟨hgap, hflow⟩) fun h => absurd hflow h⟩

theorem fetchPlain_advances (h : s.startsPlain s.pos.head (s.pos.peek 1) = true) : Advances s s.fetchPlain := by
  obtain ⟨hhash, hword⟩ := plainWord_ne_nil h
  refine .of_badToken ((saveKey_ends s).bind fun s' hs' => .ok ?_)
  dsimp only
  rw [hs'.1, hs'.2]
  exact readPlain_follows _ hhash hword

theorem fetchEnd_ends (s : Scan) :
    EndsWith (· = Fault.badToken) (fun s' : Scan => s'.pos = s.pos ∧ s'.done = true) s.fetchEnd := by
  refine (dropKey_ends _).bind fun s' h => .ok ⟨?_, rfl⟩
  rw [unwind_pos] at h
  exact h.1

/-- A token leaves fewer characters, unless it is the last one. -/
theorem fetch_ends (s : Scan) : EndsWith (Unread s.pos.rest) (fun s' : Scan => s'.pos.Follows s.pos ∧
    (s'.done = true ∨ s'.pos.rest.length < s.pos.rest.length)) s.fetch := by
  have hmark : (if s.pos.index = 0 ∧ s.pos.head = '\uFEFF' then { s with pos := s.pos.next } else s).pos.Follows
      s.pos := by
    split_ifs
    · exact next_follows s.pos
    · exact .refl _
  unfold fetch
  refine ((dropStale_ends _).mono (fun _ hf => .inl hf) fun _ => id).bind fun s₁ hs₁ => ?_
  have hpos : (s₁.unwind s₁.column).pos.Follows s.pos := by
    rw [unwind_pos, hs₁]
    exact (skipBlanks_follows _ _).trans hmark
  generalize s₁.unwind s₁.column = s₂ at hpos
  by_cases hnul : s₂.pos.head = '\x00'
  · rw [if_pos (by rw [hnul]; rfl)]
    refine ((fetchEnd_ends s₂).mono (fun _ hf => .inl hf) fun s' hs' => ⟨?_, .inl hs'.2⟩)
    rw [hs'.1]
    exact hpos
  rw [if_neg (by simpa using hnul)]
  have hadv {x : Except Fault Scan} (h : Advances s₂ x) : EndsWith (Unread s.pos.rest)
      (fun s' : Scan => s'.pos.Follows s.pos ∧ (s'.done = true ∨ s'.pos.rest.length < s.pos.rest.length)) x := by
    refine h.mono (fun _ hf => hf.mono hpos) fun s' hs' => ⟨hs'.trans ((next_follows _).trans hpos), .inr ?_⟩
    exact Nat.lt_of_le_of_lt hs'.length_le (Nat.lt_of_lt_of_le (next_lt hnul) hpos.length_le)
  refine .ite (hadv (fetchDirective_advances _)) (.ite (hadv (fetchDivider_advances _ _)) ?_)
  refine .ite (hadv (fetchDivider_advances _ _)) (.ite (hadv (fetchOpening_advances _ _)) ?_)
  refine .ite (hadv (fetchOpening_advances _ _)) (.ite (hadv (fetchClosing_advances _ _)) ?_)
  refine .ite (hadv (fetchClosing_advances _ _)) (.ite (hadv (fetchComma_advances _)) ?_)
  refine .ite (hadv (fetchEntry_advances _)) (.ite (hadv (fetchKey_advances _)) ?_)
  refine .ite (hadv (fetchValue_advances _)) (.ite (hadv (fetchAnchor_advances _ _)) ?_)
  refine .ite (hadv (fetchAnchor_advances _ _)) (.ite (hadv (fetchTag_advances _)) ?_)
  refine .ite (hadv (fetchBlock_advances _ _)) (.ite (hadv (fetchBlock_advances _ _)) ?_)
  refine .ite (hadv (fetchQuoted_advances _ _)) (.ite (hadv (fetchQuoted_advances _ _)) ?_)
  split_ifs with hplain
  · exact hadv (fetchPlain_advances hplain)
  · exact .error (.inl rfl)

theorem run_succ (fuel ready : ℕ) (s : Scan) : run (fuel + 1) ready s =
    if s.done then (s.tokens.reverse, none)
    else match s.dropStale with
      | .error f => (s.tokens.reverse.take ready, some f)
      | .ok s => match s.fetch with
        | .error f => (s.tokens.reverse.take s.ready, some f)
        | .ok after => run fuel s.ready after := by
  rfl

/-- Reading on ends: the number of steps is that of the characters. -/
theorem run_fault {cs : List Char} {fuel ready : ℕ} {f : Fault} (hs : s.pos.rest <:+ cs)
    (hfuel : s.done = true ∧ 1 ≤ fuel ∨ s.pos.rest.length + 2 ≤ fuel) (h : (run fuel ready s).2 = some f) :
    Unread cs f := by
  induction fuel generalizing ready s with
  | zero => omega
  | succ fuel ih =>
    rw [run_succ] at h
    by_cases hdone : s.done = true
    · rw [if_pos hdone] at h
      cases h
    rw [if_neg hdone] at h
    cases hstale : s.dropStale with
    | error g =>
      rw [hstale] at h
      cases h
      exact .inl ((dropStale_ends s).error_of hstale)
    | ok s₁ =>
      have hends := fetch_ends s₁
      rw [(dropStale_ends s).ok_of hstale] at hends
      rw [hstale] at h
      dsimp only at h
      cases hfetch : s₁.fetch with
      | error g =>
        rw [hfetch] at h
        cases h
        exact (hends.error_of hfetch).mono hs
      | ok after =>
        rw [hfetch] at h
        obtain ⟨hafter, hless⟩ := hends.ok_of hfetch
        refine ih (List.IsSuffix.trans hafter hs) ?_ h
        have hmore : s.pos.rest.length + 2 ≤ fuel + 1 := hfuel.resolve_left fun hend => hdone hend.1
        obtain hlast | hless := hless
        · exact .inl ⟨hlast, by omega⟩
        · exact .inr (by omega)

end Scan

/-- The tokens of a document end, or a fault of its characters ends them. -/
theorem tokens_fault {cs : List Char} {f : Fault} (h : (tokens cs).2 = some f) : Unread cs f :=
  Scan.run_fault (List.suffix_refl _) (.inr (Nat.le_refl _)) h

end Gabarit.Yaml
