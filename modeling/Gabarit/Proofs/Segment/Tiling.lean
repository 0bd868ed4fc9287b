import Gabarit.Proofs.Segment.Scan
import Mathlib.Data.List.Chain

/-!
# Segments tile the source

* `Segment.HasTag`: a text holds a complete tag of a kind;
* `Segment.Splits`: a text as tags of one kind and the texts between them; `splits_split`;
* `Segment.Proper`: the shape of a segment on its own;
* `Segment.Tiles`: segments with their places cover a text without gaps and overlaps;
* **`segments_tile`**: nothing of a template is lost when it is taken apart.
-/

namespace Gabarit.Segment

/-- The text holds an opening delimiter that is followed by a closing one on the same line. -/
def HasTag (d : Delimiters) (cs : List Char) : Prop :=
  ∃ before body after, cs = before ++ (writtenTag d body ++ after) ∧ '\n' ∉ body

theorem HasTag.of_infix {d : Delimiters} {cs ds : List Char} (h : HasTag d cs) (hin : cs <:+: ds) :
    HasTag d ds := by
  obtain ⟨before, body, after, rfl, hline⟩ := h
  obtain ⟨s, t, rfl⟩ := hin
  exact ⟨s ++ before, body, after ++ t, by simp, hline⟩

/-! ## One kind of tags -/

/-- A text as at most one segment. -/
def ofText (t : List Char) : List Segment := if t.isEmpty then [] else [.text t]

/-- The text is made of the segments: tags of one kind, and between them texts that hold no such tag. -/
inductive Splits (d : Delimiters) (tag : List Char → List Char → Segment) :
    List Char → List Segment → Prop
  | last {t : List Char} : ¬HasTag d t → Splits d tag t (ofText t)
  | tag {t body rest : List Char} {ss : List Segment} : ¬HasTag d t → Closes d body →
    Splits d tag rest ss →
    Splits d tag (t ++ (writtenTag d body ++ rest))
      (ofText t ++ tag (writtenTag d body) (dropSpaces body) :: ss)

/-- No tag of the text starts among the characters that were read before it. -/
def Unopened (d : Delimiters) (before cs : List Char) : Prop :=
  ∀ pre body after, before.reverse ++ cs = pre ++ (writtenTag d body ++ after) → '\n' ∉ body →
    before.length ≤ pre.length

variable {d : Delimiters} {tag : List Char → List Char → Segment} {before cs rest body : List Char}

theorem Unopened.not_hasTag (h : Unopened d before cs) : ¬HasTag d before.reverse := by
  rintro ⟨pre, body, after, hbefore, hline⟩
  have hle := h pre body (after ++ cs) (by simp [hbefore]) hline
  have hlen := congrArg List.length hbefore
  simp only [writtenTag, List.length_append, List.length_cons, List.length_reverse] at hlen
  omega

theorem Unopened.char {c : Char} (h : Unopened d before (c :: rest))
    (hread : readTag? d (c :: rest) = none) : Unopened d (c :: before) rest := by
  intro pre body after heq hline
  rw [List.reverse_cons, List.append_assoc, List.singleton_append] at heq
  have hle := h pre body after heq hline
  rw [List.length_cons, Nat.succ_le_iff]
  refine lt_of_le_of_ne hle fun hlen => ?_
  obtain ⟨-, hcs⟩ := List.append_inj heq (by rw [List.length_reverse, hlen])
  exact hline (readTag?_eq_none hread hcs)

theorem splits_scan (d : Delimiters) (tag : List Char → List Char → Segment) (before cs : List Char) :
    Unopened d before cs → Splits d tag (before.reverse ++ cs) (scan d tag before cs) := by
  have hbackwards (before : List Char) : ofBackwards before = ofText before.reverse := by
    simp [ofBackwards, ofText]
  induction before, cs using scan_induction d with
  | nil before =>
    intro h
    rw [scan_nil, hbackwards, List.append_nil]
    exact .last h.not_hasTag
  | tag before cs body after hread ih =>
    intro h
    obtain ⟨rfl, hcloses⟩ := readTag?_eq_some hread
    rw [scan_tag hread, hbackwards]
    exact .tag h.not_hasTag hcloses (ih fun _ _ _ _ _ => Nat.zero_le _)
  | char before c rest hread ih =>
    intro h
    have hrest := ih (h.char hread)
    rwa [scan_char hread, ← List.singleton_append, ← List.append_assoc, ← List.reverse_cons]

/-- **Splitting gives the tags of a text and the texts between them.** -/
theorem splits_split (d : Delimiters) (tag : List Char → List Char → Segment) (cs : List Char) :
    Splits d tag cs (split d tag cs) :=
  splits_scan d tag [] cs fun _ _ _ _ _ => Nat.zero_le _

/-- A segment of text. -/
def IsText (s : Segment) : Prop := ∃ t, s = .text t

/-- Two segments that may follow each other: not two of text. -/
def Apart (a b : Segment) : Prop := ¬(a.IsText ∧ b.IsText)

/-- The segments of a kind of tags: each covers the tag it is made of, and is no text. -/
structure Tagging (tag : List Char → List Char → Segment) : Prop where
  source : ∀ written payload, (tag written payload).source = written
  isTag : ∀ written payload, ¬(tag written payload).IsText

theorem tagging_echo : Tagging .echo := ⟨fun _ _ => rfl, fun _ _ => by rintro ⟨t, ⟨⟩⟩⟩

theorem tagging_block : Tagging .block := ⟨fun _ _ => rfl, fun _ _ => by rintro ⟨t, ⟨⟩⟩⟩

theorem flatMap_ofText (t : List Char) : (ofText t).flatMap source = t := by
  cases t <;> simp [ofText, source]

namespace Splits

variable {ss : List Segment}

theorem joined (ht : Tagging tag) (h : Splits d tag cs ss) : ss.flatMap source = cs := by
  induction h with
  | last _ => exact flatMap_ofText _
  | tag _ _ _ ih => rw [List.flatMap_append, flatMap_ofText, List.flatMap_cons, ht.source, ih]

theorem mem (h : Splits d tag cs ss) {s : Segment} (hs : s ∈ ss) :
    (∃ t, s = .text t ∧ t ≠ [] ∧ ¬HasTag d t) ∨
      ∃ body, s = tag (writtenTag d body) (dropSpaces body) ∧ Closes d body := by
  have htext {t : List Char} (hno : ¬HasTag d t) (hs : s ∈ ofText t) :
      ∃ t, s = .text t ∧ t ≠ [] ∧ ¬HasTag d t := by
    cases t with
    | nil => cases hs
    | cons c t => exact ⟨c :: t, List.mem_singleton.mp hs, List.cons_ne_nil _ _, hno⟩
  induction h with
  | last hno => exact .inl (htext hno hs)
  | tag hno hcloses _ ih =>
    obtain hs | hs := List.mem_append.mp hs
    · exact .inl (htext hno hs)
    · obtain rfl | hs := List.mem_cons.mp hs
      · exact .inr ⟨_, rfl, hcloses⟩
      · exact ih hs

theorem apart (ht : Tagging tag) (h : Splits d tag cs ss) : ss.IsChain Apart := by
  induction h with
  | @last t _ => cases t <;> simp [ofText]
  | @tag t body rest ss _ _ _ ih =>
    have htag : (tag (writtenTag d body) (dropSpaces body) :: ss).IsChain Apart :=
      ih.cons fun s _ h => ht.isTag _ _ h.1
    cases t with
    | nil => exact htag
    | cons c t => exact htag.cons_cons fun h => ht.isTag _ _ h.2

end Splits

/-! ## Both kinds of tags -/

/-- What is left of the body of a tag without the space at its start, if there is one, and then without the
one at its end, if there is one. -/
def Trimmed (body payload : List Char) : Prop :=
  ∃ left right, body = left ++ (payload ++ right) ∧
    (left = [' '] ∨ left = [] ∧ body.head? ≠ some ' ') ∧
    (right = [' '] ∨ right = [] ∧ payload.getLast? ≠ some ' ')

theorem trimmed_dropSpaces (body : List Char) : Trimmed body (dropSpaces body) := by
  obtain ⟨left, inner, hbody, hleft, hdrop⟩ : ∃ left inner, body = left ++ inner ∧
      (left = [' '] ∨ left = [] ∧ body.head? ≠ some ' ') ∧
      dropSpaces body = if inner.getLast? = some ' ' then inner.dropLast else inner := by
    unfold dropSpaces
    split
    · refine ⟨[' '], _, rfl, .inl rfl, ?_⟩
      split <;> simp_all only
    · rename_i hhead
      refine ⟨[], body, rfl, .inr ⟨rfl, fun h => ?_⟩, ?_⟩
      · obtain ⟨rest, rfl⟩ := List.head?_eq_some_iff.mp h
        exact hhead rest rfl
      · split <;> simp_all only
  rw [hdrop]
  split_ifs with hlast
  · have hinner := List.dropLast_append_getLast? ' ' hlast
    exact ⟨left, [' '], by rw [hinner, hbody], hleft, .inl rfl⟩
  · exact ⟨left, [], by rw [List.append_nil, hbody], hleft, .inr ⟨rfl, hlast⟩⟩

/-- A tag as it is written: on one line, from the opening delimiter to the first closing one after it. The
payload is what lies between them, trimmed. -/
structure TagOf (d : Delimiters) (written payload : List Char) : Prop where
  line : '\n' ∉ written
  between : ∃ body, written = [d.first, d.second] ++ body ++ [d.beforeLast, d.last] ∧
    (∀ before after, body ++ [d.beforeLast, d.last] = before ++ d.beforeLast :: d.last :: after →
      after = []) ∧
    Trimmed body payload

theorem tagOf_writtenTag (hd : d.OneLine) (h : Closes d body) :
    TagOf d (writtenTag d body) (dropSpaces body) where
  line := newline_notMem_writtenTag hd h.line
  between := ⟨body, rfl, h.closing, trimmed_dropSpaces body⟩

/-- The shape of a segment on its own: texts are not empty and hold no complete tag. -/
def Proper : Segment → Prop
  | .text t => t ≠ [] ∧ ¬HasTag echoDelimiters t ∧ ¬HasTag blockDelimiters t
  | .echo written payload => TagOf echoDelimiters written payload
  | .block written payload => TagOf blockDelimiters written payload

theorem Proper.source_ne_nil {s : Segment} (h : s.Proper) : s.source ≠ [] := by
  cases s with
  | text t => exact h.1
  | echo written payload =>
    obtain ⟨body, hwritten, -⟩ := h.between
    simp [source, hwritten]
  | block written payload =>
    obtain ⟨body, hwritten, -⟩ := h.between
    simp [source, hwritten]

theorem flatMap_blockSegments (s : Segment) : s.blockSegments.flatMap source = s.source := by
  cases s with
  | text t => exact (splits_split blockDelimiters .block t).joined tagging_block
  | echo written payload => exact List.flatMap_singleton _ _
  | block written payload => exact List.flatMap_singleton _ _

/-- Taking a text apart at its block tags leaves texts apart. -/
theorem apart_flatMap_blockSegments {ss : List Segment} (h : ss.IsChain Apart) :
    (ss.flatMap blockSegments).IsChain Apart := by
  have hone (s : Segment) : s.blockSegments.IsChain Apart := by
    cases s with
    | text t => exact (splits_split blockDelimiters .block t).apart tagging_block
    | echo written payload => exact .singleton _
    | block written payload => exact .singleton _
  have htag {s : Segment} (hs : ¬s.IsText) : s.blockSegments = [s] := by
    cases s with
    | text t => exact absurd ⟨t, rfl⟩ hs
    | echo written payload => rfl
    | block written payload => rfl
  induction ss with
  | nil => exact .nil
  | cons s ss ih =>
    have hrest := ih h.tail
    rw [List.flatMap_cons]
    obtain _ | ⟨s', ss⟩ := ss
    · simpa using hone s
    -- one of two neighbours is a tag, which stays as it is
    by_cases hs : s.IsText
    · have hs' : ¬s'.IsText := fun h' => (List.isChain_cons_cons.mp h).1 ⟨hs, h'⟩
      rw [List.flatMap_cons, htag hs', List.singleton_append] at hrest ⊢
      refine (hone s).append hrest fun a _ b hb => ?_
      cases hb
      exact fun h => hs' h.2
    · rw [htag hs, List.singleton_append]
      exact hrest.cons fun b _ h => hs h.1

end Segment

open Segment

/-! ## Segments -/

theorem joined_segments (source : List Char) : (segments source).flatMap Segment.source = source := by
  rw [segments, List.flatMap_assoc]
  simp only [flatMap_blockSegments]
  exact (splits_split echoDelimiters .echo source).joined tagging_echo

theorem proper_segments {source : List Char} {s : Segment} (hs : s ∈ segments source) : s.Proper := by
  obtain ⟨outer, houter, hs⟩ := List.mem_flatMap.mp hs
  obtain ⟨t, rfl, -, hno⟩ | ⟨body, rfl, hcloses⟩ := (splits_split echoDelimiters .echo source).mem houter
  · have hsplits := splits_split blockDelimiters .block t
    obtain ⟨u, rfl, hne, hno'⟩ | ⟨body, rfl, hcloses⟩ := hsplits.mem hs
    · -- an interpolation in a piece of the text would be one in the text
      have hin : u <:+: t := by
        rw [← hsplits.joined tagging_block, List.flatMap_def]
        exact List.infix_of_mem_flatten (List.mem_map_of_mem hs)
      exact ⟨hne, fun h => hno (h.of_infix hin), hno'⟩
    · exact tagOf_writtenTag oneLine_block hcloses
  · obtain rfl := List.mem_singleton.mp hs
    exact tagOf_writtenTag oneLine_echo hcloses

theorem apart_segments (source : List Char) : (segments source).IsChain Apart :=
  apart_flatMap_blockSegments ((splits_split echoDelimiters .echo source).apart tagging_echo)

namespace Segment

/-- The segments with their places cover the text from its start to its end: each one up to where the next
one starts. -/
structure Tiles (source : List Char) (ss : List (ℕ × Segment)) : Prop where
  start : ∀ s ∈ ss.head?, s.1 = 0
  rising : ss.Pairwise fun s t => s.1 < t.1
  covers : ∀ (k place : ℕ) (s : Segment), ss[k]? = some (place, s) → place < source.length ∧
    s.source = (source.take ((ss[k + 1]?.map Prod.fst).getD source.length)).drop place
  joined : ss.flatMap (·.2.source) = source

/-! ## Places -/

theorem located_append (start : ℕ) (ss ts : List Segment) :
    located start (ss ++ ts) = located start ss ++ located (start + (ss.flatMap source).length) ts := by
  induction ss generalizing start with
  | nil => rfl
  | cons s ss ih =>
    rw [List.cons_append, located, located, ih, List.flatMap_cons, List.length_append, Nat.add_assoc,
      List.cons_append]

theorem placedText_eq (place : ℕ) (before : List Char) :
    placedText place before = located place (ofBackwards before) := by
  unfold placedText ofBackwards
  split_ifs <;> rfl

theorem length_ofBackwards (before : List Char) :
    ((ofBackwards before).flatMap source).length = before.length := by
  unfold ofBackwards
  split_ifs with h
  · rw [List.isEmpty_iff.mp h]
    rfl
  · simp [source]

/-- The places that are carried through a split are those of its segments. -/
theorem placedFrom_eq (htag : ∀ written payload, (tag written payload).source = written) (fuel place : ℕ)
    (before cs : List Char) :
    placedFrom d tag fuel place before cs = located place (splitFrom d tag fuel before cs) := by
  induction fuel generalizing place before cs with
  | zero => rfl
  | succ fuel ih =>
    obtain _ | ⟨c, rest⟩ := cs
    · exact placedText_eq place before
    · rw [placedFrom, splitFrom]
      cases readTag? d (c :: rest) with
      | none => exact ih place (c :: before) rest
      | some r =>
        obtain ⟨body, after⟩ := r
        dsimp only
        rw [located_append, length_ofBackwards, located, htag, placedText_eq, ih]

theorem placed_eq (htag : ∀ written payload, (tag written payload).source = written) (place : ℕ)
    (cs : List Char) : placed d tag place cs = located place (split d tag cs) :=
  placedFrom_eq htag _ place [] cs

theorem flatMap_placedBlocks (start : ℕ) (ss : List Segment) :
    (located start ss).flatMap placedBlocks = located start (ss.flatMap blockSegments) := by
  induction ss generalizing start with
  | nil => rfl
  | cons s ss ih =>
    have hblocks : placedBlocks (start, s) = located start (blockSegments s) := by
      cases s with
      | text cs => exact placed_eq (fun _ _ => rfl) start cs
      | _ => rfl
    rw [located, List.flatMap_cons, List.flatMap_cons, located_append, ih, hblocks, flatMap_blockSegments]

end Segment

/-- **The places that are carried along are those that the segments have one after another.** -/
theorem placedSegments_eq (source : List Char) : placedSegments source = located 0 (segments source) := by
  rw [placedSegments, placed_eq fun _ _ => rfl, flatMap_placedBlocks]
  rfl

theorem map_snd_placedSegments (source : List Char) : (placedSegments source).map Prod.snd = segments source := by
  have hsnd (start : ℕ) (ss : List Segment) : (located start ss).map Prod.snd = ss := by
    induction ss generalizing start with
    | nil => rfl
    | cons s ss ih => simp [located, ih]
  rw [placedSegments_eq, hsnd]

namespace Segment

theorem place_le_of_mem_located {start : ℕ} {ss : List Segment} {s : ℕ × Segment}
    (h : s ∈ located start ss) : start ≤ s.1 := by
  induction ss generalizing start with
  | nil => cases h
  | cons t ss ih =>
    obtain rfl | h := List.mem_cons.mp h
    · exact le_rfl
    · have := ih h
      omega

theorem flatMap_located (start : ℕ) (ss : List Segment) :
    (located start ss).flatMap (·.2.source) = ss.flatMap source := by
  induction ss generalizing start with
  | nil => rfl
  | cons s ss ih => rw [located, List.flatMap_cons, List.flatMap_cons, ih]

theorem rising_located (start : ℕ) {ss : List Segment} (h : ∀ s ∈ ss, s.source ≠ []) :
    (located start ss).Pairwise fun s t => s.1 < t.1 := by
  induction ss generalizing start with
  | nil => exact .nil
  | cons s ss ih =>
    obtain ⟨hs, hss⟩ := List.forall_mem_cons.mp h
    refine .cons (fun t ht => ?_) (ih _ hss)
    have hle := place_le_of_mem_located ht
    have hpos := List.length_pos_iff.mpr hs
    dsimp only
    omega

/-- Segments behind some text cover their parts of the whole. -/
theorem covers_located (before : List Char) {ss : List Segment} (h : ∀ s ∈ ss, s.source ≠ [])
    {k place : ℕ} {s : Segment} (hk : (located before.length ss)[k]? = some (place, s)) :
    let whole := before ++ ss.flatMap source
    place < whole.length ∧ s.source =
      (whole.take (((located before.length ss)[k + 1]?.map Prod.fst).getD whole.length)).drop place := by
  induction ss generalizing before k with
  | nil => cases hk
  | cons t ss ih =>
    obtain ⟨ht, hss⟩ := List.forall_mem_cons.mp h
    have hpos := List.length_pos_iff.mpr ht
    have hbehind : before.length + t.source.length = (before ++ t.source).length := List.length_append.symm
    rw [located, hbehind] at hk ⊢
    rw [List.flatMap_cons, ← List.append_assoc]
    cases k with
    | zero =>
      obtain ⟨rfl, rfl⟩ := Prod.mk.inj (Option.some.inj hk)
      have hnext : ((located (before ++ t.source).length ss)[0]?.map Prod.fst).getD
          (before ++ t.source ++ ss.flatMap source).length = (before ++ t.source).length := by
        cases ss with
        | nil => simp [located]
        | cons u ss => simp [located]
      dsimp only
      rw [List.getElem?_cons_succ, hnext, List.take_left, List.drop_left]
      refine ⟨?_, rfl⟩
      rw [List.length_append, List.length_append]
      omega
    | succ k =>
      exact ih (before ++ t.source) hss hk

end Segment

/-- **The segments of a template tile it**, and there are none of the empty one. Texts hold no complete tag
and do not stand next to each other; a tag stands on one line, up to the first closing delimiter, and its
payload is what lies between the delimiters without a space at either end. -/
theorem segments_tile (source : List Char) :
    Tiles source (placedSegments source) ∧ (placedSegments source = [] ↔ source = []) ∧
      (∀ s ∈ placedSegments source, s.2.Proper) ∧ ((placedSegments source).map Prod.snd).IsChain Apart := by
  have hjoined := joined_segments source
  have hne : ∀ s ∈ segments source, s.source ≠ [] := fun s hs => (proper_segments hs).source_ne_nil
  have htiles : Tiles source (located 0 (segments source)) := by
    refine ⟨?_, rising_located 0 hne, fun k place s hk => ?_, ?_⟩
    · cases segments source with
      | nil => exact nofun
      | cons s ss =>
        rintro _ ⟨⟩
        rfl
    · have hcovers := covers_located [] hne hk
      rwa [hjoined] at hcovers
    · rw [flatMap_located, hjoined]
  rw [← placedSegments_eq] at htiles
  refine ⟨htiles, ⟨fun h => ?_, ?_⟩, fun s hs => ?_, ?_⟩
  · rw [← htiles.joined, h]
    rfl
  · rintro rfl
    rfl
  · have hmem : s.2 ∈ segments source := by
      rw [← map_snd_placedSegments]
      exact List.mem_map_of_mem hs
    exact proper_segments hmem
  · rw [map_snd_placedSegments]
    exact apart_segments source

/-- Braces that belong to no tag stay text, also next to tags. -/
example : segments "\x7b\x7b\x7bx\x7d\x7d\x7d\n\x7b%\x7b\x7by".toList =
    [.echo "\x7b\x7b\x7bx\x7d\x7d".toList "\x7bx".toList, .text "\x7d\n\x7b%\x7b\x7by".toList] := rfl

end Gabarit
