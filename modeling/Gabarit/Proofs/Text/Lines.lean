import Gabarit.Text.Basic
import Mathlib.Tactic.Common

/-!
# Unified line ends

* `mem_of_mem_unifyLines`, `unifyLines_eq_self`: nothing but line ends is changed;
* `unifyLines_append`: a text without a line feed at its start is unified by itself;
* **`exists_of_unifyLines_append`**: each part of a unified text is a part of the text, unified.
-/

namespace Gabarit.Text

variable {as bs cs : List Char}

theorem mem_of_mem_unifyLines {c : Char} (h : c ∈ unifyLines cs) : c = '\n' ∨ c ∈ cs := by
  induction cs using unifyLines.induct with
  | case1 rest ih =>
    rw [unifyLines, List.mem_cons] at h
    obtain rfl | h := h
    · exact .inl rfl
    · exact (ih h).imp_right fun h => List.mem_cons_of_mem _ (List.mem_cons_of_mem _ h)
  | case2 rest hline ih =>
    rw [unifyLines.eq_2 _ hline, List.mem_cons] at h
    obtain rfl | h := h
    · exact .inl rfl
    · exact (ih h).imp_right (List.mem_cons_of_mem _)
  | case3 d rest hline hreturn ih =>
    rw [unifyLines.eq_3 _ _ hline hreturn, List.mem_cons] at h
    obtain rfl | h := h
    · exact .inr List.mem_cons_self
    · exact (ih h).imp_right (List.mem_cons_of_mem _)
  | case4 => exact .inr h

theorem unifyLines_of_not_mem (h : '\n' ∉ unifyLines cs) : unifyLines cs = cs := by
  induction cs using unifyLines.induct with
  | case1 rest => exact absurd List.mem_cons_self h
  | case2 rest hline =>
    rw [unifyLines.eq_2 _ hline] at h
    exact absurd List.mem_cons_self h
  | case3 c rest hline hreturn ih =>
    rw [unifyLines.eq_3 _ _ hline hreturn] at h ⊢
    rw [ih fun hmem => h (List.mem_cons_of_mem c hmem)]
  | case4 => rfl

theorem length_unifyLines_le (cs : List Char) : (unifyLines cs).length ≤ cs.length := by
  induction cs using unifyLines.induct with
  | case1 rest ih =>
    rw [unifyLines, List.length_cons, List.length_cons, List.length_cons]
    omega
  | case2 rest hline ih =>
    rw [unifyLines.eq_2 _ hline, List.length_cons, List.length_cons]
    omega
  | case3 c rest hline hreturn ih =>
    rw [unifyLines.eq_3 _ _ hline hreturn, List.length_cons, List.length_cons]
    omega
  | case4 => exact Nat.le_refl _

theorem unifyLines_append (h : '\n' ∉ bs.head?) (as : List Char) :
    unifyLines (as ++ bs) = unifyLines as ++ unifyLines bs := by
  induction as using unifyLines.induct with
  | case1 rest ih => rw [List.cons_append, List.cons_append, unifyLines, ih, unifyLines, List.cons_append]
  | case2 rest hline ih =>
    have hline' : ∀ r, rest ++ bs = '\n' :: r → False := by
      intro r hr
      obtain _ | ⟨c, rest⟩ := rest
      · rw [List.nil_append] at hr
        exact h (by rw [hr]; rfl)
      · exact hline rest (by rw [(List.cons.inj hr).1])
    rw [List.cons_append, unifyLines.eq_2 _ hline', unifyLines.eq_2 _ hline, ih, List.cons_append]
  | case3 c rest hline hreturn ih =>
    rw [List.cons_append, unifyLines.eq_3 _ _ (fun _ hc _ => hreturn hc) hreturn,
      unifyLines.eq_3 _ _ hline hreturn, ih, List.cons_append]
  | case4 => rfl

theorem unifyLines_append_of_not_mem (h : '\r' ∉ as) (bs : List Char) :
    unifyLines (as ++ bs) = as ++ unifyLines bs := by
  induction as with
  | nil => rfl
  | cons a as ih =>
    rw [List.mem_cons, not_or] at h
    obtain ⟨ha, has⟩ := h
    rw [List.cons_append, unifyLines.eq_3 _ _ (fun _ hreturn _ => ha hreturn.symm) (fun hreturn => ha hreturn.symm),
      ih has, List.cons_append]

theorem unifyLines_eq_self (h : '\r' ∉ cs) : unifyLines cs = cs := by
  have hself := unifyLines_append_of_not_mem h []
  rw [List.append_nil] at hself
  exact hself.trans (List.append_nil cs)

/-- **Each part of a unified text is a part of the text, unified.** -/
theorem exists_of_unifyLines_append (h : unifyLines cs = as ++ bs) :
    ∃ as' bs', cs = as' ++ bs' ∧ unifyLines as' = as ∧ unifyLines bs' = bs := by
  induction cs using unifyLines.induct generalizing as with
  | case1 rest ih =>
    obtain _ | ⟨a, as⟩ := as
    · exact ⟨[], _, rfl, rfl, h⟩
    · rw [unifyLines] at h
      obtain ⟨rfl, hrest⟩ := List.cons.inj h
      obtain ⟨as', bs', rfl, rfl, rfl⟩ := ih hrest
      exact ⟨'\r' :: '\n' :: as', bs', rfl, rfl, rfl⟩
  | case2 rest hline ih =>
    obtain _ | ⟨a, as⟩ := as
    · exact ⟨[], _, rfl, rfl, h⟩
    · rw [unifyLines.eq_2 _ hline] at h
      obtain ⟨rfl, hrest⟩ := List.cons.inj h
      obtain ⟨as', bs', rfl, rfl, rfl⟩ := ih hrest
      refine ⟨'\r' :: as', bs', rfl, unifyLines.eq_2 _ fun r hr => ?_, rfl⟩
      exact hline (r ++ bs') (by rw [hr]; rfl)
  | case3 c rest hline hreturn ih =>
    obtain _ | ⟨a, as⟩ := as
    · exact ⟨[], _, rfl, rfl, h⟩
    · rw [unifyLines.eq_3 _ _ hline hreturn] at h
      obtain ⟨rfl, hrest⟩ := List.cons.inj h
      obtain ⟨as', bs', rfl, rfl, rfl⟩ := ih hrest
      exact ⟨c :: as', bs', rfl, unifyLines.eq_3 _ _ (fun _ hc _ => hreturn hc) hreturn, rfl⟩
  | case4 =>
    obtain ⟨rfl, rfl⟩ := List.append_eq_nil_iff.mp h.symm
    exact ⟨[], [], rfl, rfl, rfl⟩

end Gabarit.Text
