import Gabarit.Proofs.Yaml.Position
import Mathlib.Data.Int.Notation

/-!
# Reading scalars

Reading a text leaves a position behind it. It fails only if the characters are no token, or if a code in a
quoted text has no character.

* `readPlain_follows`, `readPlain_lt`: a plain text, which has a character;
* **`readQuoted_ends`**: a quoted text;
* `readBlock_ends`: a block.
-/

namespace Gabarit.Yaml

open Position

variable {p : Position}

/-! ## Plain texts -/

theorem plainBreaks_follows (fuel : ℕ) (found : List Char) (p : Position) :
    (plainBreaks fuel found p).2.Follows p := by
  induction fuel generalizing found p with
  | zero => exact .refl p
  | succ fuel ih =>
    rw [plainBreaks]
    dsimp only
    split_ifs
    · exact (ih _ _).trans (next_follows p)
    · exact takeBreak_follows p
    · exact (ih _ _).trans (takeBreak_follows p)
    · exact .refl p

theorem plainSpaces_follows (p : Position) : (plainSpaces p).2.2.Follows p := by
  have hspan := span_follows (· == ' ') p
  have htake := (takeBreak_follows (p.span (· == ' ')).2).trans hspan
  unfold plainSpaces
  dsimp only
  split_ifs
  · exact htake
  · have hbreaks := plainBreaks_follows ((p.span (· == ' ')).2.takeBreak.2.rest.length + 1) []
      (p.span (· == ' ')).2.takeBreak.2
    split
    · rename_i heq
      rw [heq] at hbreaks
      exact hbreaks.trans htake
    · rename_i heq
      rw [heq] at hbreaks
      exact hbreaks.trans htake
  · exact hspan

theorem plainFrom_follows (flow : Bool) (indent : ℤ) (fuel : ℕ) (found spaces : List Char) (broken : Bool)
    (p : Position) : (plainFrom flow indent fuel found spaces broken p).2.2.Follows p := by
  induction fuel generalizing found spaces broken p with
  | zero => exact .refl p
  | succ fuel ih =>
    have hspaces := (plainSpaces_follows (p.skip (plainWord flow p.rest).length)).trans (skip_follows _ p)
    rw [plainFrom]
    dsimp only
    split_ifs
    · exact .refl p
    · exact .refl p
    · exact hspaces
    · exact (ih _ _ _ _).trans hspaces

/-- A plain text with a first character ends behind this. -/
theorem readPlain_follows {flow : Bool} (indent : ℤ) (hhash : p.head ≠ '#') (hword : plainWord flow p.rest ≠ []) :
    (readPlain flow indent p).2.2.Follows p.next := by
  have hskip : (p.skip (plainWord flow p.rest).length).Follows p.next := by
    obtain ⟨n, hn⟩ := Nat.exists_eq_add_one_of_ne_zero (mt List.length_eq_zero_iff.mp hword)
    rw [hn]
    exact skip_succ_follows n p
  have hspaces := (plainSpaces_follows _).trans hskip
  rw [readPlain, plainFrom, if_neg (by simpa using hhash)]
  dsimp only
  rw [if_neg (by simpa using hword)]
  split_ifs
  · exact hspaces
  · exact (plainFrom_follows _ _ _ _ _ _ _).trans hspaces

/-! ## Quoted texts -/

theorem quotedBreaks_ends (fuel : ℕ) (found : List Char) (p : Position) :
    EndsWith (· = Fault.badToken) (fun q : Piece => q.2.Follows p) (quotedBreaks fuel found p) := by
  induction fuel generalizing found p with
  | zero => exact .ok (.refl p)
  | succ fuel ih =>
    have hblank := skipWhile_follows (fun c => c == ' ' || c == '\t') p
    have htake := (takeBreak_follows (p.skipWhile fun c => c == ' ' || c == '\t')).trans hblank
    rw [quotedBreaks]
    exact .ite (.error rfl) (.ite ((ih _ _).mono (fun _ => id) fun _ h => h.trans htake) (.ok hblank))

theorem quotedSpaces_ends (p : Position) :
    EndsWith (· = Fault.badToken) (fun q : Piece => q.2.Follows p) (quotedSpaces p) := by
  have hspan := span_follows (fun c => c == ' ' || c == '\t') p
  have htake := (takeBreak_follows (p.span fun c => c == ' ' || c == '\t').2).trans hspan
  unfold quotedSpaces
  refine .ite (.error rfl) (.ite ?_ (.ok hspan))
  exact (quotedBreaks_ends _ _ _).bind fun _ h => .ok (h.trans htake)

/-- A fault of an escape: its characters are no escape, or its code is none. -/
def BadEscape (cs : List Char) (f : Fault) : Prop :=
  f = .badToken ∨ ∃ mark digits after, cs = mark :: digits ++ after ∧
    codeEscape? mark = some digits.length ∧ pointOfCode (Text.hexValue digits) = .error f

theorem BadEscape.unread {cs : List Char} {f : Fault} (h : BadEscape cs f) : Unread ('\\' :: cs) f := by
  obtain rfl | ⟨mark, digits, after, rfl, hmark, hcode⟩ := h
  · exact .inl rfl
  · exact .inr ⟨[], mark, digits, after, rfl, hmark, hcode⟩

theorem readEscape_ends (p : Position) :
    EndsWith (BadEscape p.rest) (fun q : QuotedPiece => q.2.Follows p) (readEscape p) := by
  unfold readEscape
  dsimp only
  split
  · exact .ok (next_follows p)
  · rename_i count _ hcount
    split_ifs with hdigits
    · have hskip := skip_follows (count + 1) p
      cases hcode : pointOfCode (Text.hexValue (p.next.rest.take count)) with
      | ok c => exact .ok hskip
      | error f =>
        refine .error (.inr ⟨p.head, p.next.rest.take count, p.next.rest.drop count, ?_, ?_, hcode⟩)
        · rw [List.cons_append, List.take_append_drop]
          apply rest_eq_cons
          intro hnul
          rw [hnul] at hcount
          cases hcount
        · rw [hdigits.1]
          exact hcount
    · exact .error (.inl rfl)
  · refine .ite ?_ (.error (.inl rfl))
    refine ((quotedBreaks_ends _ _ _).mono (fun _ h => .inl h) fun _ => id).bind fun q hq => .ok ?_
    exact Follows.trans hq (takeBreak_follows p)

theorem quotedFrom_ends (double : Bool) (fuel : ℕ) (found : List Text.Point) (p : Position) :
    EndsWith (Unread p.rest) (fun q : QuotedPiece => q.2.Follows p) (quotedFrom double fuel found p) := by
  induction fuel generalizing found p with
  | zero => exact .error (.inl rfl)
  | succ fuel ih =>
    have hagain {q : Position} (h : q.Follows p) (found : List Text.Point) :
        EndsWith (Unread p.rest) (fun q : QuotedPiece => q.2.Follows p) (quotedFrom double fuel found q) :=
      (ih found q).mono (fun _ hf => hf.mono h) fun _ hq => hq.trans h
    have hnext := next_follows p
    rw [quotedFrom]
    dsimp only
    split_ifs with hquote htwo hend hescape hgap
    · exact hagain (skip_follows 2 p) _
    · exact .ok hnext
    · exact .ok hnext
    · obtain ⟨hslash, -⟩ : p.head = '\\' ∧ double = true := by simpa using hescape
      have hrest : p.rest = '\\' :: p.next.rest := by
        rw [← hslash]
        apply rest_eq_cons
        rw [hslash]
        decide
      refine ((readEscape_ends p.next).mono (fun f hf => ?_) fun _ h => h.trans hnext).bind fun q hq => hagain hq _
      rw [hrest]
      exact hf.unread
    · exact ((quotedSpaces_ends p).mono (fun _ h => .inl h) fun _ => id).bind fun q hq => hagain hq _
    · exact hagain hnext _

theorem readQuoted_ends (double : Bool) (p : Position) :
    EndsWith (Unread p.rest) (fun q : QuotedPiece => q.2.Follows p) (readQuoted double p) :=
  quotedFrom_ends double _ _ p

/-! ## Blocks -/

theorem readIncrement_ends (p : Position) :
    EndsWith (· = Fault.badToken) (fun q : Option ℕ × Position => q.2.Follows p) (readIncrement p) :=
  .ite (.ite (.error rfl) (.ok (next_follows p))) (.ok (.refl p))

theorem readBlockSigns_ends (p : Position) :
    EndsWith (· = Fault.badToken) (fun q : Chomping × Option ℕ × Position => q.2.2.Follows p)
      (readBlockSigns p) := by
  have hend (c : Chomping) (n : Option ℕ) {q : Position} (h : q.Follows p) :
      EndsWith (· = Fault.badToken) (fun q : Chomping × Option ℕ × Position => q.2.2.Follows p)
        (if isEnd q.head || q.head == ' ' then pure (c, n, q) else throw Fault.badToken) :=
    .ite (.ok h) (.error rfl)
  unfold readBlockSigns
  split
  · exact (readIncrement_ends p.next).bind fun q hq => hend _ _ (hq.trans (next_follows p))
  · refine (readIncrement_ends p).bind fun q hq => ?_
    split
    · exact hend _ _ hq
    · split
      · exact hend _ _ ((next_follows _).trans hq)
      · exact hend _ _ hq

theorem skipLine_ends (p : Position) :
    EndsWith (· = Fault.badToken) (fun q : Position => q.Follows p) (skipLine p) := by
  have hblank : p.skipSpaces.skipComment.Follows p :=
    (skipComment_follows _).trans (skipWhile_follows _ p)
  exact .ite (.ok ((takeBreak_follows _).trans hblank)) (.error rfl)

theorem leadingLines_follows (fuel : ℕ) (found : List Char) (widest : ℕ) (p : Position) :
    (leadingLines fuel found widest p).2.2.Follows p := by
  induction fuel generalizing found widest p with
  | zero => exact .refl p
  | succ fuel ih =>
    rw [leadingLines]
    split_ifs
    · exact (ih _ _ _).trans (next_follows p)
    · exact (ih _ _ _).trans (takeBreak_follows p)
    · exact .refl p

theorem skipIndent_follows (indent fuel : ℕ) (p : Position) : (skipIndent indent fuel p).Follows p := by
  induction fuel generalizing p with
  | zero => exact .refl p
  | succ fuel ih =>
    rw [skipIndent]
    split_ifs
    · exact (ih _).trans (next_follows p)
    · exact .refl p

theorem emptyLines_follows (indent fuel : ℕ) (found : List Char) (p : Position) :
    (emptyLines indent fuel found p).2.Follows p := by
  induction fuel generalizing found p with
  | zero => exact .refl p
  | succ fuel ih =>
    have hindent := skipIndent_follows indent (p.rest.length + 1) p
    rw [emptyLines]
    dsimp only
    split_ifs
    · exact (ih _ _).trans ((takeBreak_follows _).trans hindent)
    · exact hindent

theorem blockLines_follows (folded : Bool) (indent fuel : ℕ) (found breaks : List Char) (p : Position) :
    (blockLines folded indent fuel found breaks p).2.2.2.Follows p := by
  induction fuel generalizing found breaks p with
  | zero => exact .refl p
  | succ fuel ih =>
    have hspan := span_follows (!isEnd ·) p
    have htake := (takeBreak_follows (p.span (!isEnd ·)).2).trans hspan
    have hempty := (emptyLines_follows indent ((p.span (!isEnd ·)).2.takeBreak.2.rest.length + 1) [] _).trans htake
    rw [blockLines]
    dsimp only
    split_ifs <;> first | exact (ih _ _ _).trans hempty | exact hempty

theorem readBlock_ends (folded : Bool) (outer : ℤ) (p : Position) :
    EndsWith (· = Fault.badToken) (fun q : Piece => q.2.Follows p) (readBlock folded outer p) := by
  unfold readBlock
  refine (readBlockSigns_ends p).bind fun ⟨chomping, increment, p₁⟩ h₁ => ?_
  refine (skipLine_ends p₁).bind fun p₂ h₂ => ?_
  have hpure {q : Piece} (hq : q.2.Follows p₂) :
      EndsWith (· = Fault.badToken) (fun q : Piece => q.2.Follows p) (pure q : Except Fault Piece) :=
    .ok (hq.trans (h₂.trans h₁))
  cases increment with
  | none =>
    have hlines := leadingLines_follows (p₂.rest.length + 1) [] 0 p₂
    dsimp only
    refine hpure ?_
    dsimp only
    split_ifs
    · exact (blockLines_follows _ _ _ _ _ _).trans hlines
    · exact hlines
  | some n =>
    have hlines := emptyLines_follows ((max (outer + 1) 1).toNat + n - 1) (p₂.rest.length + 1) [] p₂
    dsimp only
    refine hpure ?_
    dsimp only
    split_ifs
    · exact (blockLines_follows _ _ _ _ _ _).trans hlines
    · exact hlines

end Gabarit.Yaml
