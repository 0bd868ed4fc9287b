import Gabarit.Template.Segment
import Mathlib.Data.List.Infix
import Mathlib.Tactic.Common

/-!
# Scanning for tags

* `segments`, `Segment.located`: the segments of a template by themselves, and their places;
* `Segment.Closes`: the body of a tag stands on one line, and the closing delimiter comes at its end first;
* `readTag?_eq_some`, `readTag?_eq_none`: what is read at the start of a text is a tag, if there is one;
* `scan`: splitting a text from some place on, without fuel, with one equation a case;
* **`scan_induction`**: properties of a scan, tag by tag and character by character.
-/

namespace Gabarit

namespace Segment

/-! ## Segments without their places -/

/-- The text segment of characters read backwards, if there are any. -/
def ofBackwards (before : List Char) : List Segment :=
  if before.isEmpty then [] else [.text before.reverse]

/-- Splits a text at its tags of one kind; `before` is the text since the last tag, read backwards, and
the fuel is more than the number of characters. -/
def splitFrom (d : Delimiters) (tag : List Char → List Char → Segment) :
    Nat → List Char → List Char → List Segment
  | 0, _, _ => []
  | _, before, [] => ofBackwards before
  | fuel + 1, before, c :: rest =>
    match readTag? d (c :: rest) with
    | some (body, after) =>
      ofBackwards before ++ tag (writtenTag d body) (dropSpaces body) :: splitFrom d tag fuel [] after
    | none => splitFrom d tag fuel (c :: before) rest

/-- Splits a text at its tags of one kind. -/
def split (d : Delimiters) (tag : List Char → List Char → Segment) (cs : List Char) : List Segment :=
  splitFrom d tag (cs.length + 1) [] cs

/-- Splits a text segment at its block tags. -/
def blockSegments : Segment → List Segment
  | .text cs => split blockDelimiters .block cs
  | s => [s]

/-- The segments with their places, of which the first is given. -/
def located (start : Nat) : List Segment → List Placed
  | [] => []
  | s :: rest => (start, s) :: located (start + s.source.length) rest

end Segment

/-- The segments of a template. -/
def segments (source : List Char) : List Segment :=
  (Segment.split Segment.echoDelimiters .echo source).flatMap Segment.blockSegments

namespace Segment

/-! ## Tags -/

/-- No delimiter holds a line feed. -/
structure Delimiters.OneLine (d : Delimiters) : Prop where
  first : d.first ≠ '\n'
  second : d.second ≠ '\n'
  beforeLast : d.beforeLast ≠ '\n'
  last : d.last ≠ '\n'

theorem oneLine_echo : echoDelimiters.OneLine := ⟨by decide, by decide, by decide, by decide⟩

theorem oneLine_block : blockDelimiters.OneLine := ⟨by decide, by decide, by decide, by decide⟩

/-- The characters between the delimiters of a tag: they end no line, and the closing delimiter after
them is the first one. -/
structure Closes (d : Delimiters) (body : List Char) : Prop where
  line : '\n' ∉ body
  closing : ∀ before after,
    body ++ [d.beforeLast, d.last] = before ++ d.beforeLast :: d.last :: after → after = []

variable {d : Delimiters} {cs body after : List Char}

theorem newline_notMem_writtenTag (hd : d.OneLine) (h : '\n' ∉ body) : '\n' ∉ writtenTag d body := by
  simp only [writtenTag, List.mem_cons, List.mem_append, List.not_mem_nil, or_false, not_or]
  exact ⟨hd.first.symm, hd.second.symm, h, hd.beforeLast.symm, hd.last.symm⟩

/-- A text is the body of one tag at most. -/
theorem Closes.unique {body' after' : List Char} (h : Closes d body) (h' : Closes d body')
    (heq : body ++ d.beforeLast :: d.last :: after = body' ++ d.beforeLast :: d.last :: after') :
    body = body' := by
  -- otherwise the shorter one would be followed by a closing delimiter in the longer one
  have hshorter {body body' after after' c : List Char} (h' : Closes d body') (hbody : body' = body ++ c)
      (hafter : d.beforeLast :: d.last :: after = c ++ d.beforeLast :: d.last :: after') : c = [] := by
    obtain _ | ⟨p, c⟩ := c
    · rfl
    obtain ⟨x, hx⟩ : ∃ x, p :: c ++ [d.beforeLast, d.last] = d.beforeLast :: d.last :: x := by
      obtain _ | ⟨q, c⟩ := c
      · simp only [List.cons_append, List.nil_append, List.cons.injEq] at hafter
        exact ⟨[d.last], by simp [← hafter.1, ← hafter.2.1]⟩
      · simp only [List.cons_append, List.cons.injEq] at hafter
        exact ⟨c ++ [d.beforeLast, d.last], by simp [← hafter.1, ← hafter.2.1]⟩
    have hnil := h'.closing body x (by rw [hbody, List.append_assoc, hx])
    have hlen := congrArg List.length hx
    simp only [hnil, List.length_append, List.length_cons, List.length_nil] at hlen
    omega
  obtain ⟨c, hbody, hafter⟩ | ⟨c, hbody, hafter⟩ := List.append_eq_append_iff.mp heq
  · rw [hbody, hshorter h' hbody hafter, List.append_nil]
  · rw [hbody, hshorter h hbody hafter, List.append_nil]

/-! ## The end of a tag -/

theorem closeTag?_eq_some (h : closeTag? d cs = some (body, after)) :
    cs = body ++ d.beforeLast :: d.last :: after ∧ Closes d body := by
  induction cs generalizing body with
  | nil => cases h
  | cons a cs ih =>
    obtain _ | ⟨b, rest⟩ := cs
    · cases h
    rw [closeTag?] at h
    split_ifs at h with hclose hline
    · obtain ⟨rfl, rfl⟩ := hclose
      cases h
      refine ⟨rfl, nofun, fun before after h => ?_⟩
      have hlen := congrArg List.length h
      simp only [List.nil_append, List.length_append, List.length_cons, List.length_nil] at hlen
      exact List.eq_nil_of_length_eq_zero (by omega)
    · obtain ⟨⟨inner, after'⟩, hinner, hpair⟩ := Option.map_eq_some_iff.mp h
      cases hpair
      obtain ⟨hrest, hin⟩ := ih hinner
      refine ⟨by rw [hrest, List.cons_append], ?_, fun before after h => ?_⟩
      · rw [List.mem_cons, not_or]
        exact ⟨fun h => hline h.symm, hin.line⟩
      · obtain _ | ⟨p, before⟩ := before
        · -- the closing delimiter would stand at `a` and `b`
          rw [List.cons_append, List.nil_append, List.cons.injEq] at h
          have hb : b = d.last := by
            cases inner with
            | nil =>
              rw [List.nil_append, List.cons.injEq] at h hrest
              rw [hrest.1, h.2.1]
            | cons p inner =>
              rw [List.cons_append, List.cons.injEq] at h hrest
              rw [hrest.1, h.2.1]
          exact absurd ⟨h.1, hb⟩ hclose
        · rw [List.cons_append, List.cons_append, List.cons.injEq] at h
          exact hin.closing before after h.2

theorem closeTag?_eq_none (h : closeTag? d cs = none)
    (hcs : cs = body ++ d.beforeLast :: d.last :: after) : '\n' ∈ body := by
  induction cs generalizing body with
  | nil => simp at hcs
  | cons a cs ih =>
    obtain _ | ⟨b, rest⟩ := cs
    · have hlen := congrArg List.length hcs
      simp only [List.length_append, List.length_cons, List.length_nil] at hlen
      omega
    rw [closeTag?] at h
    obtain _ | ⟨p, body⟩ := body
    · rw [List.nil_append, List.cons.injEq, List.cons.injEq] at hcs
      rw [if_pos ⟨hcs.1, hcs.2.1⟩] at h
      cases h
    · rw [List.cons_append, List.cons.injEq] at hcs
      obtain ⟨rfl, hcs⟩ := hcs
      split_ifs at h with hclose hline
      · exact hline ▸ List.mem_cons_self
      · exact List.mem_cons_of_mem _ (ih (Option.map_eq_none_iff.mp h) hcs)

/-! ## Tags -/

theorem readTag?_eq_some (h : readTag? d cs = some (body, after)) :
    cs = writtenTag d body ++ after ∧ Closes d body := by
  obtain _ | ⟨a, _ | ⟨b, rest⟩⟩ := cs
  · cases h
  · cases h
  · rw [readTag?] at h
    split_ifs at h with hopen
    obtain ⟨rfl, hcloses⟩ := closeTag?_eq_some h
    exact ⟨by simp [writtenTag, hopen.1, hopen.2], hcloses⟩

theorem readTag?_eq_none (h : readTag? d cs = none)
    (hcs : cs = writtenTag d body ++ after) : '\n' ∈ body := by
  have hclose : closeTag? d (body ++ d.beforeLast :: d.last :: after) = none := by
    simpa [hcs, writtenTag, readTag?] using h
  exact closeTag?_eq_none hclose rfl

theorem length_readTag? (h : readTag? d cs = some (body, after)) : after.length < cs.length := by
  obtain ⟨rfl, -⟩ := readTag?_eq_some h
  simp only [writtenTag, List.length_append, List.length_cons]
  omega

/-! ## Scanning -/

variable {tag : List Char → List Char → Segment} {before : List Char}

/-- More fuel than characters does not matter. -/
theorem splitFrom_fuel {fuel fuel' : ℕ} (h : cs.length < fuel) (h' : cs.length < fuel') :
    splitFrom d tag fuel before cs = splitFrom d tag fuel' before cs := by
  induction fuel generalizing fuel' before cs with
  | zero => omega
  | succ fuel ih =>
    obtain _ | fuel' := fuel'
    · omega
    obtain _ | ⟨c, rest⟩ := cs
    · rfl
    rw [List.length_cons] at h h'
    rw [splitFrom, splitFrom]
    cases hread : readTag? d (c :: rest) with
    | none => exact ih (by omega) (by omega)
    | some read =>
      obtain ⟨body, after⟩ := read
      have hlen := length_readTag? hread
      rw [List.length_cons] at hlen
      dsimp only
      have hfuel : after.length < fuel := by omega
      have hfuel' : after.length < fuel' := by omega
      rw [ih hfuel hfuel']

variable (d tag) in
/-- Splits a text at its tags of one kind, after text that is read backwards. -/
def scan (before cs : List Char) : List Segment := splitFrom d tag (cs.length + 1) before cs

theorem split_eq_scan (cs : List Char) : split d tag cs = scan d tag [] cs := rfl

theorem scan_nil (before : List Char) : scan d tag before [] = ofBackwards before := rfl

theorem scan_tag (h : readTag? d cs = some (body, after)) : scan d tag before cs =
    ofBackwards before ++ tag (writtenTag d body) (dropSpaces body) :: scan d tag [] after := by
  have hlen := length_readTag? h
  obtain _ | ⟨c, rest⟩ := cs
  · cases h
  rw [scan, splitFrom, h]
  dsimp only
  rw [scan, splitFrom_fuel hlen (Nat.lt_succ_self _)]

theorem scan_char {c : Char} {rest : List Char} (h : readTag? d (c :: rest) = none) :
    scan d tag before (c :: rest) = scan d tag (c :: before) rest := by
  rw [scan, splitFrom, h]
  rfl

/-- **What holds of scans at the end of a text, after a tag and after another character holds of all.** -/
theorem scan_induction (d : Delimiters) {motive : List Char → List Char → Prop}
    (nil : ∀ before, motive before [])
    (tag : ∀ before cs body after, readTag? d cs = some (body, after) → motive [] after → motive before cs)
    (char : ∀ before c rest, readTag? d (c :: rest) = none → motive (c :: before) rest →
      motive before (c :: rest))
    (before cs : List Char) : motive before cs := by
  induction hlen : cs.length using Nat.strong_induction_on generalizing before cs with
  | _ n ih =>
    obtain _ | ⟨c, rest⟩ := cs
    · exact nil before
    cases hread : readTag? d (c :: rest) with
    | none => exact char before c rest hread (ih rest.length (by simp [← hlen]) _ _ rfl)
    | some read =>
      obtain ⟨body, after⟩ := read
      have hless := length_readTag? hread
      exact tag before _ body after hread (ih after.length (hlen ▸ hless) _ _ rfl)

end Segment

end Gabarit
