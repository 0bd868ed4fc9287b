import Gabarit.Proofs.Segment.Tiling

/-!
# Segments line by line

No tag goes across the end of a line, so that lines are taken apart one by one. Only the text at the end of
a line runs on into the next one.

* `readTag?_writtenTag`: a tag is read as it is written, whatever follows;
* `readTag?_line`: what is read in a line does not depend on the lines after it;
* `prependText`: segments after some more text;
* `split_line`: splitting a line and what follows it;
* **`segments_line`**: the segments of a line and of what follows it.
-/

namespace Gabarit

namespace Segment

variable {d : Delimiters} {tag : List Char → List Char → Segment} {body : List Char}

/-! ## Tags of a line -/

theorem closeTag?_closes (h : Closes d body) (after : List Char) :
    closeTag? d (body ++ d.beforeLast :: d.last :: after) = some (body, after) := by
  cases hclose : closeTag? d (body ++ d.beforeLast :: d.last :: after) with
  | none => exact absurd (closeTag?_eq_none hclose rfl) h.line
  | some read =>
    obtain ⟨body', after'⟩ := read
    obtain ⟨heq, h'⟩ := closeTag?_eq_some hclose
    obtain rfl := h.unique h' heq
    simpa using heq.symm

theorem readTag?_writtenTag (h : Closes d body) (after : List Char) :
    readTag? d (writtenTag d body ++ after) = some (body, after) := by
  simpa [writtenTag, readTag?] using closeTag?_closes h after

theorem readTag?_line (hd : d.OneLine) (line more : List Char) : readTag? d (line ++ '\n' :: more) =
    (readTag? d line).map fun (body, after) => (body, after ++ '\n' :: more) := by
  cases hline : readTag? d line with
  | some read =>
    obtain ⟨body, after⟩ := read
    obtain ⟨rfl, hcloses⟩ := readTag?_eq_some hline
    rw [List.append_assoc, readTag?_writtenTag hcloses]
    rfl
  | none =>
    cases hread : readTag? d (line ++ '\n' :: more) with
    | none => rfl
    | some read =>
      obtain ⟨body, after⟩ := read
      obtain ⟨heq, hcloses⟩ := readTag?_eq_some hread
      -- a tag holds no line feed, so that it would be one of the line
      obtain ⟨rest, rfl⟩ : ∃ rest, line = writtenTag d body ++ rest := by
        obtain ⟨c, hwritten, hmore⟩ | ⟨c, hc, -⟩ := List.append_eq_append_iff.mp heq
        · obtain _ | ⟨p, c⟩ := c
          · exact ⟨[], by simp [hwritten]⟩
          · obtain ⟨rfl, -⟩ := List.cons.inj hmore
            have hmem : '\n' ∈ writtenTag d body := by simp [hwritten]
            exact absurd hmem (newline_notMem_writtenTag hd hcloses.line)
        · exact ⟨c, hc⟩
      rw [readTag?_writtenTag hcloses] at hline
      cases hline

/-! ## Text before segments -/

/-- The segments after some more text: it runs on into the text that they start with. -/
def prependText (t : List Char) : List Segment → List Segment
  | .text u :: ss => .text (t ++ u) :: ss
  | ss => .text t :: ss

theorem prependText_cons {s : Segment} (hs : ¬s.IsText) (t : List Char) (ss : List Segment) :
    prependText t (s :: ss) = .text t :: s :: ss := by
  cases s with
  | text u => exact absurd ⟨u, rfl⟩ hs
  | echo written payload => rfl
  | block written payload => rfl

theorem prependText_append (t : List Char) {ss : List Segment} (hss : ss ≠ []) (more : List Segment) :
    prependText t (ss ++ more) = prependText t ss ++ more := by
  cases ss with
  | nil => exact absurd rfl hss
  | cons s ss => cases s <;> rfl

theorem scan_append (ht : Tagging tag) {text : List Char} (htext : text ≠ []) (before cs : List Char) :
    scan d tag (before ++ text) cs = prependText text.reverse (scan d tag before cs) := by
  have hempty : ofBackwards text = [.text text.reverse] := by simp [ofBackwards, htext]
  induction before, cs using scan_induction d with
  | nil before =>
    cases before with
    | nil => exact hempty
    | cons c before => simp [scan_nil, ofBackwards, prependText]
  | tag before cs body after hread ih =>
    rw [scan_tag hread, scan_tag hread]
    cases before with
    | nil =>
      rw [List.nil_append, hempty]
      exact (prependText_cons (ht.isTag _ _) _ _).symm
    | cons c before => simp [ofBackwards, prependText]
  | char before c rest hread ih =>
    rw [scan_char hread, scan_char hread]
    exact ih

/-! ## Lines -/

theorem scan_line (hd : d.OneLine) (before line : List Char) : ∃ ss text, ∀ more,
    scan d tag before (line ++ '\n' :: more) = ss ++ scan d tag ('\n' :: text) more := by
  induction before, line using scan_induction d with
  | nil before =>
    refine ⟨[], before, fun more => scan_char ?_⟩
    exact (readTag?_line hd [] more).trans rfl
  | tag before line body after hread ih =>
    obtain ⟨ss, text, hscan⟩ := ih
    refine ⟨ofBackwards before ++ tag (writtenTag d body) (dropSpaces body) :: ss, text, fun more => ?_⟩
    have hread' : readTag? d (line ++ '\n' :: more) = some (body, after ++ '\n' :: more) := by
      rw [readTag?_line hd, hread]
      rfl
    rw [scan_tag hread', hscan, List.append_assoc, List.cons_append]
  | char before c rest hread ih =>
    obtain ⟨ss, text, hscan⟩ := ih
    refine ⟨ss, text, fun more => ?_⟩
    have hread' : readTag? d (c :: (rest ++ '\n' :: more)) = none := by
      rw [← List.cons_append, readTag?_line hd, hread]
      rfl
    rw [List.cons_append, scan_char hread', hscan]

/-- Splitting a line and what follows it. -/
theorem split_line (hd : d.OneLine) (ht : Tagging tag) (line : List Char) : ∃ ss text, ∀ more,
    split d tag (line ++ '\n' :: more) = ss ++ prependText (text ++ ['\n']) (split d tag more) := by
  obtain ⟨ss, text, hscan⟩ : ∃ ss text, ∀ more,
      scan d tag [] (line ++ '\n' :: more) = ss ++ scan d tag ('\n' :: text) more := scan_line hd [] line
  refine ⟨ss, text.reverse, fun more => ?_⟩
  have hmore := scan_append (d := d) ht (List.cons_ne_nil '\n' text) [] more
  rw [List.nil_append, List.reverse_cons] at hmore
  rw [split_eq_scan, split_eq_scan, hscan, hmore]

end Segment

open Segment

/-- **The segments of a line and of what follows it.** Those of the line do not depend on what follows; its
last text runs on into the next line. -/
theorem segments_line (line : List Char) : ∃ ss text, ∀ more,
    segments (line ++ '\n' :: more) = ss ++ prependText (text ++ ['\n']) (segments more) := by
  obtain ⟨outer, last, houter⟩ := split_line oneLine_echo tagging_echo line
  obtain ⟨inner, text, hinner⟩ := split_line oneLine_block tagging_block last
  refine ⟨outer.flatMap blockSegments ++ inner, text, fun more => ?_⟩
  rw [segments, houter, List.flatMap_append, List.append_assoc]
  congr 1
  have hlast : split blockDelimiters .block (last ++ ['\n']) = inner ++ [.text (text ++ ['\n'])] := hinner []
  have hsplits := splits_split echoDelimiters .echo more
  rw [segments]
  generalize split echoDelimiters .echo more = ss at hsplits
  obtain _ | ⟨s, ss⟩ := ss
  · exact (List.flatMap_singleton ..).trans hlast
  cases s with
  | text u =>
    have hu : split blockDelimiters .block u ≠ [] := by
      intro hnil
      have hjoined := (splits_split blockDelimiters .block u).joined tagging_block
      rw [hnil] at hjoined
      obtain ⟨_, ⟨⟩, hne, -⟩ | ⟨_, ⟨⟩, -⟩ := hsplits.mem List.mem_cons_self
      exact hne hjoined.symm
    have hline : last ++ ['\n'] ++ u = last ++ '\n' :: u := by simp
    rw [prependText, List.flatMap_cons, List.flatMap_cons, blockSegments, blockSegments, hline, hinner,
      List.append_assoc, prependText_append _ hu]
  | echo written payload => exact (congrArg (· ++ _) hlast).trans (List.append_assoc ..)
  | block written payload => exact (congrArg (· ++ _) hlast).trans (List.append_assoc ..)

end Gabarit
