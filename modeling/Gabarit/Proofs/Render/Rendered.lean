import Gabarit.Proofs.Text.Markup
import Gabarit.Proofs.Text.Quoted

/-!
# Rendered texts

A rendered text is known by its code points, whether there are surrogates among them or not.

* `Rendered.points_ofPoints`, `Rendered.ofPoints_points`: texts and code points are one to one;
* `Rendered.append`: a text after another one, with the laws of lists;
* `Rendered.join_append`, `Rendered.join_text`: pieces joined, and those without surrogates;
* `Renderer.points_escapeRendered`: escaping goes point by point.
-/

namespace Gabarit

namespace Rendered

@[simp] theorem points_ofPoints (ps : List Text.Point) : (ofPoints ps).points = ps := by
  conv_rhs => rw [← Text.points_ofPoints ps]
  rw [ofPoints]
  cases Text.ofPoints ps <;> rfl

@[simp] theorem ofPoints_points (w : Rendered) : ofPoints w.points = w := by
  cases w with
  | text s => rw [ofPoints, points, Text.ofPoints_points, Sum.elim_inl]
  | broken t => rw [ofPoints, points, Text.ofPoints_broken, Sum.elim_inr]

/-- A text after another one. -/
def append (v w : Rendered) : Rendered := ofPoints (v.points ++ w.points)

instance : Append Rendered := ⟨append⟩

theorem append_def (v w : Rendered) : v ++ w = ofPoints (v.points ++ w.points) := rfl

@[simp] theorem points_append (v w : Rendered) : (v ++ w).points = v.points ++ w.points := points_ofPoints _

theorem append_assoc (u v w : Rendered) : u ++ v ++ w = u ++ (v ++ w) := by
  rw [append_def (u ++ v), append_def u (v ++ w), points_append, points_append, List.append_assoc]

@[simp] theorem empty_append (w : Rendered) : text "" ++ w = w := ofPoints_points w

@[simp] theorem append_empty (w : Rendered) : w ++ text "" = w := by
  rw [append_def]
  exact (congrArg ofPoints (List.append_nil _)).trans (ofPoints_points w)

theorem text_append (s t : String) : text s ++ text t = text (s ++ t) := by
  have hpoints : (text (s ++ t)).points = (text s).points ++ (text t).points := by
    simp only [points, Text.points, String.toList_append, List.map_append]
  rw [append_def, ← hpoints, ofPoints_points]

theorem join_append (vs ws : List Rendered) : join (vs ++ ws) = join vs ++ join ws := by
  rw [join, List.flatMap_append, append_def, join, join, points_ofPoints, points_ofPoints]

@[simp] theorem join_nil : join [] = text "" := rfl

theorem join_singleton (w : Rendered) : join [w] = w := by
  rw [join, List.flatMap_singleton, ofPoints_points]

/-- Pieces without surrogates are joined as texts are. -/
theorem join_text (ss : List String) : join (ss.map text) = text (String.join ss) := by
  induction ss with
  | nil => rfl
  | cons s ss ih =>
    rw [List.map_cons, ← List.singleton_append, join_append, join_singleton, ih, text_append,
      ← List.singleton_append, String.join_append]
    simp

end Rendered

theorem Renderer.escape_singleton (r : Renderer) (c : Char) :
    r.escape (String.singleton c) = String.ofList (Text.encodeMarkupChar r.quotes c) := by
  rw [Renderer.escape, Text.restoreQuotes_escapeMarkup]
  simp

/-- **Escaping goes point by point**, and leaves surrogates as they are. -/
theorem Renderer.points_escapeRendered (r : Renderer) (w : Rendered) :
    (r.escapeRendered w).points = w.points.flatMap r.escapePoint := by
  cases w with
  | broken t => exact Rendered.points_ofPoints _
  | text s =>
    have hpoint (c : Char) : r.escapePoint (.char c) = (Text.encodeMarkupChar r.quotes c).map .char := by
      rw [escapePoint, escape_singleton, Text.points, String.toList_ofList]
    rw [escapeRendered, Rendered.points, Text.points, Renderer.escape, String.toList_ofList,
      Text.restoreQuotes_escapeMarkup, List.map_flatMap, Rendered.points, Text.points, List.flatMap_map]
    exact congrArg (s.toList.flatMap ·) (funext fun c => (hpoint c).symm)

end Gabarit
