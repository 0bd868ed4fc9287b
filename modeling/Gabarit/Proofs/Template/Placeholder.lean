import Gabarit.Proofs.Expression.Renaming
import Gabarit.Proofs.Template.FilterCall
import Gabarit.Proofs.Template.Pipeline

/-!
# What filter calls mean

A stage is parsed with a name in the place of its placeholder, and what the author writes can hold that name.

* `Meant`: the call that a stage says;
* `Unmistaken`: the name of the placeholder is the author's nowhere;
* `Unmistaken.exists_lex`, `Unmistaken.not_twice`, `Unmistaken.placed`: then the one argument with that name is
  the placeholder, whatever stands in its place;
* `meant_of_parse`, `parse_of_meant`: what is read is what is said;
* `arguments_refused`, `parse_refused`: a bare name is no argument;
* **`parse_meant`**: both of any stage; **`exists_mistaken`**: not without these conditions.
-/

namespace Gabarit.FilterCall

open Text Expression

variable {as bs cs pre pre' post post' n : List Char} {us ms vs : List Token} {f x : String} {es es' : List Expr}

/-! ## Texts with placeholders -/

theorem placeholders_append (pre post : List Char) :
    namePlaceholders (pre ++ '%' :: 's' :: post) =
        namePlaceholders pre ++ (placeholderName.toList ++ namePlaceholders post) ∧
      countPlaceholders (pre ++ '%' :: 's' :: post) = countPlaceholders pre + countPlaceholders post + 1 := by
  induction pre using namePlaceholders.induct with
  | case1 rest ih =>
    simp only [List.cons_append, namePlaceholders, countPlaceholders, ih.1, ih.2, List.append_assoc, true_and]
    omega
  | case2 c rest hmark ih =>
    have hmark' : ∀ r, c = '%' → rest ++ '%' :: 's' :: post = 's' :: r → False := by
      intro r hc hr
      obtain _ | ⟨d, rest⟩ := rest
      · cases hr
      · obtain ⟨rfl, -⟩ := List.cons.inj hr
        exact hmark rest hc rfl
    obtain ⟨hname, hcount⟩ := namePlaceholders_cons hmark'
    obtain ⟨hname', hcount'⟩ := namePlaceholders_cons hmark
    rw [List.cons_append, hname, hcount, hname', hcount', ih.1, ih.2]
    exact ⟨rfl, rfl⟩
  | case3 => exact ⟨rfl, by rw [List.nil_append, countPlaceholders, countPlaceholders, Nat.zero_add]⟩

theorem namePlaceholders_eq_self (h : countPlaceholders cs = 0) : namePlaceholders cs = cs := by
  induction cs using namePlaceholders.induct with
  | case1 rest ih => cases h
  | case2 c rest hmark ih =>
    obtain ⟨hname, hcount⟩ := namePlaceholders_cons hmark
    rw [hname, ih (hcount ▸ h)]
  | case3 => rfl

theorem countPlaceholders_of_cons {c : Char} (h : countPlaceholders (c :: cs) = 0) : countPlaceholders cs = 0 := by
  rw [countPlaceholders.eq_def] at h
  split at h
  · cases h
  · rename_i hcons
    cases hcons
    exact h
  · contradiction

theorem countPlaceholders_ne_zero {c : Char} (h : c :: pre ++ '%' :: 's' :: post' = '%' :: 's' :: post) :
    countPlaceholders (c :: pre) ≠ 0 := by
  obtain ⟨rfl, htail⟩ := List.cons.inj h
  obtain _ | ⟨d, pre⟩ := pre
  · cases htail
  · cases htail
    exact Nat.succ_ne_zero _

theorem placeholder_unique (h : pre ++ '%' :: 's' :: post = pre' ++ '%' :: 's' :: post')
    (hpre : countPlaceholders pre = 0) (hpre' : countPlaceholders pre' = 0) : pre = pre' ∧ post = post' := by
  induction pre generalizing pre' with
  | nil =>
    obtain _ | ⟨c, pre'⟩ := pre'
    · cases h
      exact ⟨rfl, rfl⟩
    · exact absurd hpre' (countPlaceholders_ne_zero h.symm)
  | cons c pre ih =>
    obtain _ | ⟨d, pre'⟩ := pre'
    · exact absurd hpre (countPlaceholders_ne_zero h)
    · obtain ⟨rfl, htail⟩ := List.cons.inj h
      obtain ⟨rfl, rfl⟩ := ih htail (countPlaceholders_of_cons hpre) (countPlaceholders_of_cons hpre')
      exact ⟨rfl, rfl⟩

theorem mem_of_mem_namePlaceholders {c : Char} (h : c ∈ namePlaceholders cs) :
    c ∈ placeholderName.toList ∨ c ∈ cs := by
  induction cs using namePlaceholders.induct with
  | case1 rest ih =>
    rw [namePlaceholders, List.mem_append] at h
    obtain h | h := h
    · exact .inl h
    · exact (ih h).imp_right fun h => List.mem_cons_of_mem _ (List.mem_cons_of_mem _ h)
  | case2 d rest hmark ih =>
    rw [(namePlaceholders_cons hmark).1] at h
    obtain rfl | h := List.mem_cons.mp h
    · exact .inr List.mem_cons_self
    · exact (ih h).imp_right (List.mem_cons_of_mem _)
  | case3 => cases h

theorem mem_namePlaceholders_of_mem {c : Char} (hc : c ∉ ['%', 's']) (h : c ∈ cs) : c ∈ namePlaceholders cs := by
  induction cs using namePlaceholders.induct with
  | case1 rest ih =>
    obtain rfl | h := List.mem_cons.mp h
    · exact absurd List.mem_cons_self hc
    · obtain rfl | h := List.mem_cons.mp h
      · exact absurd (List.mem_cons_of_mem _ List.mem_cons_self) hc
      · exact List.mem_append_right _ (ih h)
  | case2 d rest hmark ih =>
    rw [(namePlaceholders_cons hmark).1]
    obtain rfl | h := List.mem_cons.mp h
    · exact List.mem_cons_self
    · exact List.mem_cons_of_mem _ (ih h)
  | case3 => cases h

theorem exists_placeholder (h : countPlaceholders cs ≠ 0) : ∃ pre post, cs = pre ++ '%' :: 's' :: post := by
  induction cs using namePlaceholders.induct with
  | case1 rest ih => exact ⟨[], rest, rfl⟩
  | case2 c rest hmark ih =>
    rw [(namePlaceholders_cons hmark).2] at h
    obtain ⟨pre, post, rfl⟩ := ih h
    exact ⟨c :: pre, post, rfl⟩
  | case3 => exact absurd rfl h

theorem count_eq_one_iff {α : Type} [DecidableEq α] {a : α} {as bs : List α} :
    (as ++ a :: bs).count a = 1 ↔ a ∉ as ∧ a ∉ bs := by
  rw [List.count_append, List.count_cons_self, ← List.count_eq_zero, ← List.count_eq_zero]
  omega

/-! ## What calls mean -/

/-- A name that can stand in the place of a placeholder. -/
def StandsIn (n : List Char) : Prop := AsciiName n ∧ String.ofList n ∉ keywords ∧ quoteMarks? n = none

/-- The name in the place of that of the placeholder. -/
def standIn (n : List Char) (s : String) : String := if s = placeholderName then String.ofList n else s

theorem standIn_self (n : List Char) : standIn n placeholderName = String.ofList n := if_pos rfl

theorem standIn_of_mem {names : List String} (h : placeholderName ∉ names) : ∀ s ∈ names, standIn n s = s := by
  rintro s hs
  refine if_neg ?_
  rintro rfl
  exact h hs

theorem renameTokens_standIn (hus : placeholderName ∉ nameTokens us) (hvs : placeholderName ∉ nameTokens vs) :
    renameTokens (standIn n) (us ++ .name placeholderName :: vs) = us ++ .name (String.ofList n) :: vs := by
  rw [renameTokens, List.map_append, List.map_cons, ← renameTokens, ← renameTokens,
    renameTokens_eq_self fun s hs => standIn_of_mem hus s (mem_nameTokens.mpr hs),
    renameTokens_eq_self fun s hs => standIn_of_mem hvs s (mem_nameTokens.mpr hs), Token.rename, standIn_self]

theorem isPlaceholder_of_names (h : placeholderName ∉ namesAll es) : ∀ e ∈ es, isPlaceholder e = false := by
  intro e he
  rw [Bool.eq_false_iff]
  intro hplaceholder
  refine h (mem_namesAll.mpr ⟨e, he, ?_⟩)
  cases e with
  | name s =>
    rw [← of_decide_eq_true hplaceholder]
    exact List.mem_cons_self
  | _ => cases hplaceholder

/-- The argument is a literal, or one of the words that are. -/
def Means (e : Expr) (v : Scalar) : Prop :=
  (∃ s, e = .name s ∧ keywordLiteral? s = some v) ∨ e.evaluate = .ok (.scalar v)

/-- The call that the text of a stage says. In a call with a placeholder the same literals stand around any
name in its place. -/
inductive Meant (cs : List Char) : FilterCall → Prop
  | bare {f : String} : f ≠ placeholderName → Expression.parse (namePlaceholders cs) = some (.name f) →
    Meant cs ⟨f, [], 0⟩
  | last {f : String} {es : List Expr} {args : List Scalar} : countPlaceholders cs = 0 →
    Expression.parse cs = some (.call (.name f) es false) → List.Forall₂ Means es args →
    Meant cs ⟨f, args, args.length⟩
  | placed {f : String} {pre post : List Char} {es es' : List Expr} {before after : List Scalar} :
    cs = pre ++ '%' :: 's' :: post → countPlaceholders pre = 0 → countPlaceholders post = 0 →
    (∀ n, StandsIn n → Expression.parse (pre ++ (n ++ post)) =
      some (.call (.name f) (es ++ .name (String.ofList n) :: es') false)) →
    List.Forall₂ Means es before → List.Forall₂ Means es' after → Meant cs ⟨f, before ++ after, before.length⟩

/-- A name between the two texts is a token of its own. -/
def IsToken (as bs : List Char) : Prop :=
  ∃ us vs, ∀ n, StandsIn n → lex (as ++ (n ++ bs)) = some (us ++ .name (String.ofList n) :: vs)

/-- The name of the placeholder is a token in no other place than that of a placeholder. Another spelling of the
name, in letters that are normalized to its own, stands nowhere at all. -/
def Unmistaken (cs : List Char) : Prop :=
  ∀ as w bs, namePlaceholders cs = as ++ (w ++ bs) → wordToken? w = some (.name placeholderName) →
    (w = placeholderName.toList → IsToken as bs) →
    ∃ pre post, cs = pre ++ '%' :: 's' :: post ∧ as = namePlaceholders pre ∧ bs = namePlaceholders post

namespace Unmistaken

theorem exists_lex (h : Unmistaken cs) (hcount : countPlaceholders cs ≤ 1)
    (hlex : lex (namePlaceholders cs) = some (us ++ .name placeholderName :: vs)) :
    ∃ pre post, cs = pre ++ '%' :: 's' :: post ∧ countPlaceholders pre = 0 ∧ countPlaceholders post = 0 ∧
      ∀ n, StandsIn n → lex (pre ++ (n ++ post)) = some (us ++ .name (String.ofList n) :: vs) := by
  obtain ⟨as, w, bs, hsplit, hw, hplace⟩ := exists_place_lex hlex
  have hnamed (hw : w = placeholderName.toList) (n : List Char) (hn : StandsIn n) :
      lex (as ++ (n ++ bs)) = some (us ++ .name (String.ofList n) :: vs) :=
    hplace (by rw [hw]; rfl) n _ hn.1 hn.2.2 (wordToken?_name hn.1 hn.2.1)
  obtain ⟨pre, post, rfl, rfl, rfl⟩ := h as w bs hsplit hw fun hw => ⟨us, vs, hnamed hw⟩
  obtain ⟨hname, hcounts⟩ := placeholders_append pre post
  have hw : w = placeholderName.toList :=
    (List.append_cancel_right (List.append_cancel_left (hname.symm.trans hsplit))).symm
  have hpre : countPlaceholders pre = 0 := by omega
  have hpost : countPlaceholders post = 0 := by omega
  rw [namePlaceholders_eq_self hpre, namePlaceholders_eq_self hpost] at hnamed
  exact ⟨pre, post, rfl, hpre, hpost, hnamed hw⟩

theorem not_twice (h : Unmistaken cs) (hcount : countPlaceholders cs ≤ 1) :
    lex (namePlaceholders cs) ≠ some (us ++ .name placeholderName :: (ms ++ .name placeholderName :: vs)) := by
  intro hlex
  obtain ⟨pre, post, rfl, hpre, -, hfirst⟩ := h.exists_lex hcount hlex
  have hsplit : us ++ .name placeholderName :: (ms ++ .name placeholderName :: vs) =
      (us ++ .name placeholderName :: ms) ++ .name placeholderName :: vs := by simp
  rw [hsplit] at hlex
  obtain ⟨pre', post', hsame, hpre', -, hsecond⟩ := h.exists_lex hcount hlex
  obtain ⟨rfl, rfl⟩ := placeholder_unique hsame hpre hpre'
  -- another name in the one place would be in both places
  have hx : StandsIn ['x'] := ⟨by decide, by decide, rfl⟩
  have hboth := Option.some.inj ((hfirst _ hx).symm.trans (hsecond _ hx))
  rw [List.append_assoc] at hboth
  have hname := (List.cons.inj (List.append_cancel_left hboth)).1
  exact absurd hname (by decide)

theorem not_mem_of_lex (h : Unmistaken cs) (hcount : countPlaceholders cs ≤ 1)
    (hlex : lex (namePlaceholders cs) = some (us ++ .name placeholderName :: vs)) :
    placeholderName ∉ nameTokens us ∧ placeholderName ∉ nameTokens vs := by
  rw [mem_nameTokens, mem_nameTokens]
  constructor <;> intro hmem <;> obtain ⟨ks, ls, rfl⟩ := List.append_of_mem hmem
  · rw [List.append_assoc] at hlex
    exact h.not_twice hcount hlex
  · exact h.not_twice hcount hlex

theorem not_mem_names (h : Unmistaken cs) (hcount : countPlaceholders cs = 0) {e : Expr}
    (hparse : Expression.parse cs = some e) (he : e.isSimple = true) : placeholderName ∉ e.names := by
  intro hmem
  obtain ⟨ts, hlex, -⟩ := exists_lex_of_parse hparse he
  rw [← names_of_parse hparse he hlex, mem_nameTokens] at hmem
  obtain ⟨us, vs, rfl⟩ := List.append_of_mem hmem
  rw [← namePlaceholders_eq_self hcount] at hlex
  obtain ⟨pre, post, rfl, -⟩ := h.exists_lex (by omega) hlex
  rw [(placeholders_append pre post).2] at hcount
  cases hcount

/-- **The argument with the name of the placeholder is the placeholder:** nothing else in the call has that name, and
any name in its place is that argument. -/
theorem placed (h : Unmistaken cs) (hcount : countPlaceholders cs ≤ 1)
    (hparse : Expression.parse (namePlaceholders cs) =
      some (.call (.name f) (es ++ .name placeholderName :: es') false))
    (hes : areSimple (es ++ .name placeholderName :: es') = true) :
    f ≠ placeholderName ∧ (∀ e ∈ es, isPlaceholder e = false) ∧ ∃ pre post, cs = pre ++ '%' :: 's' :: post ∧
      countPlaceholders pre = 0 ∧ countPlaceholders post = 0 ∧
      ∀ n, StandsIn n → Expression.parse (pre ++ (n ++ post)) =
        some (.call (.name f) (es ++ .name (String.ofList n) :: es') false) := by
  have hsimple : (Expr.call (.name f) (es ++ .name placeholderName :: es') false).isSimple = true :=
    isSimple_call.mpr ⟨rfl, rfl, hes⟩
  obtain ⟨ts, hlex, -⟩ := exists_lex_of_parse hparse hsimple
  have hnames : nameTokens ts = (f :: namesAll es) ++ placeholderName :: namesAll es' := by
    rw [names_of_parse hparse hsimple hlex, Expr.names, namesAll_append]
    rfl
  have hmem : .name placeholderName ∈ ts := by
    rw [← mem_nameTokens, hnames]
    exact List.mem_append_right _ List.mem_cons_self
  obtain ⟨us, vs, rfl⟩ := List.append_of_mem hmem
  -- the name is once among the tokens, and so it is among the names of the call
  have hthere := h.not_mem_of_lex hcount hlex
  have hothers : placeholderName ∉ f :: namesAll es ∧ placeholderName ∉ namesAll es' := by
    rw [← count_eq_one_iff, ← hnames, nameTokens_append]
    exact count_eq_one_iff.mpr hthere
  obtain ⟨pre, post, rfl, hpre, hpost, hplace⟩ := h.exists_lex hcount hlex
  refine ⟨fun h => hothers.1 (h ▸ List.mem_cons_self),
    isPlaceholder_of_names fun h => hothers.1 (List.mem_cons_of_mem _ h), pre, post, rfl, hpre, hpost, fun n hn => ?_⟩
  have hlex' := (hplace n hn).trans (congrArg some (renameTokens_standIn hthere.1 hthere.2).symm)
  have hparse' := parse_rename hparse hsimple hlex hlex'
  obtain ⟨hf, hbefore⟩ := List.forall_mem_cons.mp (standIn_of_mem (n := n) hothers.1)
  rw [Expr.rename, Expr.rename, hf, renameAll_append, renameAll_eq_self hbefore, renameAll, Expr.rename,
    standIn_self, renameAll_eq_self (standIn_of_mem hothers.2)] at hparse'
  exact hparse'

end Unmistaken

theorem placeholderName_unique (h : pre ++ (placeholderName.toList ++ post) = as ++ (placeholderName.toList ++ bs))
    (hpre : '_' ∉ pre) (hpost : '_' ∉ post) : as = pre ∧ bs = post := by
  have hne : placeholderName.toList ≠ [] := by decide
  obtain ⟨ms, rfl, hrest⟩ | ⟨ms, rfl, hrest⟩ := List.append_eq_append_iff.mp h
  · obtain rfl | hms := eq_or_ne ms []
    · rw [List.nil_append] at hrest
      exact ⟨List.append_nil pre, (List.append_cancel_left hrest).symm⟩
    · -- the other name ends after the first one
      rw [← List.append_assoc] at hrest
      have hpos := List.length_pos_iff.mpr hms
      obtain ⟨ks, hks, rfl⟩ | ⟨ks, hks, -⟩ := List.append_eq_append_iff.mp hrest
      · have hlen := congrArg List.length hks
        have hlast := congrArg List.getLast? hks
        rw [List.length_append, List.length_append] at hlen
        have hne' : ks ≠ [] := List.length_pos_iff.mp (by omega)
        rw [List.getLast?_append_of_ne_nil _ hne, List.getLast?_append_of_ne_nil _ hne'] at hlast
        exact absurd (List.mem_append_left bs (List.mem_of_getLast? hlast.symm)) hpost
      · have hlen := congrArg List.length hks
        rw [List.length_append, List.length_append] at hlen
        omega
  · obtain _ | ⟨c, ms⟩ := ms
    · rw [List.nil_append] at hrest
      exact ⟨(List.append_nil as).symm, List.append_cancel_left hrest⟩
    · -- the other name starts before the first one
      have hc := (List.cons.inj hrest).1
      subst hc
      exact absurd (List.mem_append_right as List.mem_cons_self) hpre

theorem unmistaken_of_ascii (hascii : ∀ c ∈ cs, c.toNat < 128) (hscore : '_' ∉ cs)
    (hcount : countPlaceholders cs ≤ 1) : Unmistaken cs := by
  intro as w bs hsplit hw _
  have hword : ∀ c ∈ w, c.toNat < 128 := by
    intro c hc
    have hmem : c ∈ namePlaceholders cs := by
      rw [hsplit]
      exact List.mem_append_right _ (List.mem_append_left _ hc)
    obtain hname | hmem := mem_of_mem_namePlaceholders hmem
    · have hall : ∀ c ∈ placeholderName.toList, c.toNat < 128 := by decide
      exact hall c hname
    · exact hascii c hmem
  have hname : w = placeholderName.toList := by
    unfold wordToken? at hw
    dsimp only at hw
    split_ifs at hw
    · cases hw
    · rw [normalize_of_ascii hword] at hw
      rw [← Token.name.inj (Option.some.inj hw), String.toList_ofList]
  subst hname
  have hplaceholder : countPlaceholders cs ≠ 0 := by
    intro hnone
    rw [namePlaceholders_eq_self hnone] at hsplit
    rw [hsplit] at hscore
    exact hscore (List.mem_append_right _ (List.mem_append_left _ (by decide)))
  obtain ⟨pre, post, rfl⟩ := exists_placeholder hplaceholder
  obtain ⟨hname, hcounts⟩ := placeholders_append pre post
  have hpre : countPlaceholders pre = 0 := by omega
  have hpost : countPlaceholders post = 0 := by omega
  rw [hname, namePlaceholders_eq_self hpre, namePlaceholders_eq_self hpost] at hsplit
  simp only [List.mem_append, List.mem_cons, not_or] at hscore
  obtain ⟨rfl, rfl⟩ := placeholderName_unique hsplit hscore.1 hscore.2.2.2
  exact ⟨_, _, rfl, (namePlaceholders_eq_self hpre).symm, (namePlaceholders_eq_self hpost).symm⟩

/-! ## Calls that are read -/

variable {s segment : String} {call : FilterCall} {args : List Scalar}

theorem argument_means (segment : String) (e : Expr) :
    EndsWith (fun cause => cause = .tag segment .argumentNotLiteral ∨
      ∃ f, f ≠ .notLiteral ∧ e.evaluate = .error f ∧ cause = .fault f.toFault) (Means e) (argument segment e) := by
  rw [argument.eq_def]
  dsimp only
  split
  · rename_i s
    cases hs : keywordLiteral? s with
    | none => exact .error (.inl rfl)
    | some v => exact .ok (.inl ⟨s, rfl, hs⟩)
  · split
    · exact .ok (.inr ‹_›)
    · exact .error (.inl rfl)
    · exact .error (.inl rfl)
    · rename_i f hf hfault
      exact .error (.inr ⟨f, hf, hfault, rfl⟩)

theorem means_of_literals (hes : ∀ e ∈ es, isPlaceholder e = false) (h : Literals segment es args) :
    List.Forall₂ Means es args := by
  have hall : es.filter (!isPlaceholder ·) = es := List.filter_eq_self.mpr fun e he => by rw [hes e he]; rfl
  rw [Literals, hall] at h
  exact h.imp fun _ _ => (argument_means segment _).ok_of

theorem parse_eq_ok : parse s = .ok call ↔ '\x00' ∉ trim s.toList ∧ countPlaceholders (trim s.toList) ≤ 1 ∧
    ∃ e, expression? s.toList = some e ∧
      ofExpr (String.ofList (trim s.toList)) (countPlaceholders (trim s.toList)) e = .ok call := by
  have hnul : (namePlaceholders (trim s.toList)).contains '\x00' = true ↔ '\x00' ∈ trim s.toList := by
    rw [List.contains_iff_mem]
    exact ⟨fun h => (mem_of_mem_namePlaceholders h).resolve_left (by decide),
      mem_namePlaceholders_of_mem (by decide)⟩
  unfold parse expression?
  dsimp only
  split_ifs with hmany hmem
  · simp [Nat.not_le_of_lt hmany]
  · simp [hnul.mp hmem]
  · rw [hnul] at hmem
    cases Expression.parse (namePlaceholders (trim s.toList)) with
    | none => simp
    | some e => simp [hmem, Nat.le_of_not_lt hmany]

/-- **A call that is read is the one that its text says.** -/
theorem meant_of_parse (hun : Unmistaken (trim s.toList)) (h : parse s = .ok call) :
    Meant (trim s.toList) call := by
  obtain ⟨-, hcount, e, hexpression, h⟩ := parse_eq_ok.mp h
  rw [expression?] at hexpression
  unfold ofExpr at h
  split at h
  · split_ifs at h with hf
    cases h
    exact .bare hf hexpression
  · split_ifs at h with hf
    obtain ⟨⟨args, slot⟩, hargs, h⟩ := bind_eq_ok.mp h
    dsimp only at h
    split_ifs at h with hquoted
    cases h
    obtain ⟨vs, place, harranged, rfl, rfl⟩ := arguments_eq_ok hargs
    cases harranged with
    | unplaced hes hvs =>
      have hnone : countPlaceholders (trim s.toList) = 0 := by
        by_contra hplaced
        exact hquoted ⟨hplaced, rfl⟩
      rw [namePlaceholders_eq_self hnone] at hexpression
      exact .last hnone hexpression (means_of_literals hes hvs)
    | @placed es es' before after hes' hbefore hafter =>
      have hsimple : areSimple (es ++ .name placeholderName :: es') = true := by
        rw [areSimple_append, areSimple_of_literals hbefore, areSimple, areSimple_of_literals hafter]
        rfl
      obtain ⟨-, hes, pre, post, hcs, hpre, hpost, hplace⟩ := hun.placed hcount hexpression hsimple
      have hcall := Meant.placed hcs hpre hpost hplace (means_of_literals hes hbefore) (means_of_literals hes' hafter)
      simpa using hcall
  · cases h

/-! ## Names in calls -/

theorem areSimple_of_means (h : List.Forall₂ Means es args) : areSimple es = true := by
  induction h with
  | nil => rfl
  | cons he _ ih =>
    rw [areSimple, Bool.and_eq_true_iff]
    obtain ⟨s, rfl, -⟩ | he := he
    · exact ⟨rfl, ih⟩
    · exact ⟨isSimple_of_evaluate he, ih⟩

theorem areSimple_placed {before after : List Scalar} (hbefore : List.Forall₂ Means es before)
    (hafter : List.Forall₂ Means es' after) (x : String) : areSimple (es ++ .name x :: es') = true := by
  rw [areSimple_append, areSimple_of_means hbefore, areSimple, areSimple_of_means hafter]
  rfl

theorem Meant.nameTokens_length {ts : List Token} (h : Meant cs ⟨f, [], 0⟩) (hcount : countPlaceholders cs = 0)
    (hlex : lex cs = some ts) : (nameTokens ts).length = 1 := by
  generalize hcall : (⟨f, [], 0⟩ : FilterCall) = call at h
  cases h with
  | bare _ hparse =>
    rw [namePlaceholders_eq_self hcount] at hparse
    rw [names_of_parse hparse rfl hlex]
    rfl
  | last _ hparse hes =>
    obtain ⟨-, rfl, -⟩ := FilterCall.mk.inj hcall
    cases hes
    rw [names_of_parse hparse rfl hlex]
    rfl
  | placed hcs =>
    rw [hcs, (placeholders_append _ _).2] at hcount
    cases hcount

theorem Meant.mem_nameTokens {ts : List Token} (h : Meant (pre ++ '%' :: 's' :: post) call)
    (hargs : call.args ≠ []) (hpre : countPlaceholders pre = 0) (hn : StandsIn n)
    (hlex : lex (pre ++ (n ++ post)) = some ts) : String.ofList n ∈ nameTokens ts := by
  generalize hcs : pre ++ '%' :: 's' :: post = cs at h
  cases h with
  | bare => exact absurd rfl hargs
  | last hcount =>
    rw [← hcs, (placeholders_append _ _).2] at hcount
    cases hcount
  | @placed _ _ _ es es' _ _ hcs' hpre' _ hplace hbefore hafter =>
    obtain ⟨rfl, rfl⟩ := placeholder_unique (hcs.trans hcs') hpre hpre'
    have hes := areSimple_placed hbefore hafter (String.ofList n)
    rw [names_of_parse (hplace n hn) (isSimple_call.mpr ⟨rfl, rfl, hes⟩) hlex, Expr.names, namesAll_append, namesAll]
    exact List.mem_append_right _ (List.mem_append_right _ (List.mem_append_left _ List.mem_cons_self))

/-! ## Calls that are meant -/

theorem argument_of_means {e : Expr} {v : Scalar} (h : Means e v) : argument segment e = .ok v := by
  obtain ⟨s, rfl, hs⟩ | h := h
  · rw [argument, hs]
    rfl
  · cases e with
    | name => cases h
    | _ => simp only [argument, h]

theorem arguments_append (h : List.Forall₂ Means es args) (segment : String) (done : List Scalar) (slot : Option ℕ)
    (rest : List Expr) :
    arguments segment done slot (es ++ rest) = arguments segment (done ++ args) slot rest := by
  induction h generalizing done with
  | nil => rw [List.nil_append, List.append_nil]
  | @cons e v es args he _ ih =>
    have hne : e ≠ .name placeholderName := by
      rintro rfl
      obtain ⟨s, hname, hs⟩ | he := he
      · cases hname
        cases hs
      · cases he
    rw [List.cons_append, arguments_cons_of_ok (argument_of_means he) hne, ih, List.append_assoc,
      List.singleton_append]

/-- **The call that a text says is read.** -/
theorem parse_of_meant (hun : Unmistaken (trim s.toList)) (hnul : '\x00' ∉ trim s.toList)
    (hcount : countPlaceholders (trim s.toList) ≤ 1) (h : Meant (trim s.toList) call) : parse s = .ok call := by
  rw [parse_eq_ok]
  refine ⟨hnul, hcount, ?_⟩
  cases h with
  | bare hf hparse => exact ⟨_, hparse, if_neg hf⟩
  | @last f es args hnone hparse hes =>
    have hsimple : (Expr.call (.name f) es false).isSimple = true :=
      isSimple_call.mpr ⟨rfl, rfl, areSimple_of_means hes⟩
    have hf : f ≠ placeholderName := fun h =>
      hun.not_mem_names hnone hparse hsimple (List.mem_append_left _ (List.mem_singleton.mpr h.symm))
    have hargs := arguments_append hes (String.ofList (trim s.toList)) [] none []
    rw [List.append_nil, List.nil_append, arguments] at hargs
    refine ⟨.call (.name f) es false, ?_, ?_⟩
    · rw [expression?, namePlaceholders_eq_self hnone]
      exact hparse
    · rw [ofExpr, if_neg hf, hargs, hnone]
      rfl
  | @placed f pre post es es' before after hcs hpre hpost hplace hbefore hafter =>
    have hparse : expression? s.toList = some (.call (.name f) (es ++ .name placeholderName :: es') false) := by
      have hnamed := hplace placeholderName.toList ⟨by decide, by decide, rfl⟩
      rw [String.ofList_toList] at hnamed
      rw [expression?, hcs, (placeholders_append pre post).1, namePlaceholders_eq_self hpre,
        namePlaceholders_eq_self hpost]
      exact hnamed
    have hf := (hun.placed hcount hparse (areSimple_placed hbefore hafter _)).1
    have hargs : arguments (String.ofList (trim s.toList)) [] none (es ++ .name placeholderName :: es') =
        .ok (before ++ after, some before.length) := by
      have hrest := arguments_append hafter (String.ofList (trim s.toList)) before (some before.length) []
      rw [List.append_nil, arguments] at hrest
      rw [arguments_append hbefore, List.nil_append, arguments, if_pos rfl, hrest]
    refine ⟨_, hparse, ?_⟩
    rw [ofExpr, if_neg hf, hargs]
    simp [bind, Except.bind, pure, Except.pure]

/-! ## Bare names -/

/-- How a call with a bare name `x` among its arguments is refused: as a tag, unless its source cannot be read, or
an argument before the name fails with a fault of its own. -/
inductive Refusal (cs : List Char) (es : List Expr) (x : String) : Failure → Prop
  | malformed {reason : TagError} : Refusal cs es x (.tag (String.ofList cs) reason)
  | nul : '\x00' ∈ cs → Refusal cs es x (.fault .nulInSource)
  | fault {before after : List Expr} {e : Expr} {f : LiteralFault} : es = before ++ e :: after → .name x ∈ after →
    e.evaluate = .error f → f ≠ .notLiteral → Refusal cs es x (.fault f.toFault)

theorem Refusal.cons {cause : Failure} (h : Refusal cs es x cause) (e : Expr) : Refusal cs (e :: es) x cause := by
  cases h with
  | malformed => exact .malformed
  | nul hmem => exact .nul hmem
  | @fault before after e' _ hes hmem hf hne =>
    have hcons : e :: es = e :: before ++ e' :: after := congrArg (e :: ·) hes
    exact .fault hcons hmem hf hne

/-- **A bare name is no argument,** whatever the arguments before it. -/
theorem arguments_refused (hx : keywordLiteral? x = none) (hne : x ≠ placeholderName) (hmem : .name x ∈ es)
    (args : List Scalar) (slot : Option ℕ) :
    EndsWith (Refusal cs es x) (fun _ => False) (arguments (String.ofList cs) args slot es) := by
  induction es generalizing args slot with
  | nil => cases hmem
  | cons e es ih =>
    have hliteral : EndsWith (Refusal cs (e :: es) x) (fun _ => False)
        (do arguments (String.ofList cs) (args ++ [← argument (String.ofList cs) e]) slot es) := by
      obtain rfl | hmem := List.mem_cons.mp hmem
      · rw [argument, hx]
        exact .error .malformed
      · refine ((argument_means _ e).mono ?_ fun _ hv => hv).bind fun v _ => ?_
        · rintro cause (rfl | ⟨f, hf, hfault, rfl⟩)
          · exact .malformed
          · exact .fault (List.nil_append _).symm hmem hfault hf
        · exact (ih hmem _ _).mono (fun _ hcause => hcause.cons e) fun _ => id
    rw [arguments.eq_def]
    dsimp only
    split
    · split_ifs with hs
      · obtain h | hmem := List.mem_cons.mp hmem
        · cases h
          exact absurd hs hne
        · exact (ih hmem _ _).mono (fun _ hcause => hcause.cons _) fun _ => id
      · exact hliteral
    · exact hliteral

/-- **A stage with a bare name among its arguments is refused.** -/
theorem parse_refused {g : Expr} {named : Bool} (hexpression : expression? s.toList = some (.call g es named))
    (hx : keywordLiteral? x = none) (hne : x ≠ placeholderName) (hmem : .name x ∈ es) :
    EndsWith (Refusal (trim s.toList) es x) (fun _ => False) (parse s) := by
  rw [expression?] at hexpression
  unfold parse
  dsimp only
  split_ifs with hmany hnul
  · exact .error .malformed
  · obtain hname | hnul := mem_of_mem_namePlaceholders (List.contains_iff_mem.mp hnul)
    · exact absurd hname (by decide)
    · exact .error (.nul hnul)
  · rw [hexpression]
    unfold ofExpr
    dsimp only
    split
    · cases ‹Expr.call g es named = _›
    · cases ‹Expr.call g es named = _›
      split_ifs
      · exact .error .malformed
      · exact (arguments_refused hx hne hmem _ _).bind fun _ => False.elim
    · exact .error .malformed

/-- **A stage is read as the call that it says, and a bare name is refused,** if the author does not write the name
of the placeholder. -/
theorem parse_meant (s : String) :
    (∀ call, parse s = .ok call → countPlaceholders (trim s.toList) ≤ 1) ∧
    (Unmistaken (trim s.toList) → ∀ call, parse s = .ok call ↔
      '\x00' ∉ trim s.toList ∧ countPlaceholders (trim s.toList) ≤ 1 ∧ Meant (trim s.toList) call) ∧
    ∀ g es named x, expression? s.toList = some (.call g es named) → .name x ∈ es → keywordLiteral? x = none →
      x ≠ placeholderName → ∃ cause, parse s = .error cause ∧ Refusal (trim s.toList) es x cause := by
  refine ⟨fun call h => (parse_eq_ok.mp h).2.1, fun hun call => ⟨fun h => ?_, fun ⟨hnul, hcount, h⟩ => ?_⟩,
    fun g es named x hexpression hmem hx hne => ?_⟩
  · obtain ⟨hnul, hcount, -⟩ := parse_eq_ok.mp h
    exact ⟨hnul, hcount, meant_of_parse hun h⟩
  · exact parse_of_meant hun hnul hcount h
  · have hends := parse_refused hexpression hx hne hmem
    cases hparse : parse s with
    | ok call => exact (hends.ok_of hparse).elim
    | error cause => exact ⟨cause, rfl, hends.error_of hparse⟩

theorem parse_meant_date :
    parse "date('%B %d', %s)" = .ok ⟨"date", [.text "%B %d"], 1⟩ ∧
    Meant "date('%B %d', %s)".toList ⟨"date", [.text "%B %d"], 1⟩ ∧
    ∃ cause, parse "upper(x)" = .error cause ∧ Refusal "upper(x)".toList [.name "x"] "x" cause := by
  have hdate : parse "date('%B %d', %s)" = .ok ⟨"date", [.text "%B %d"], 1⟩ := by decide +kernel
  have htrim : trim "date('%B %d', %s)".toList = "date('%B %d', %s)".toList := by decide +kernel
  have hascii : ∀ c ∈ trim "date('%B %d', %s)".toList, c.toNat < 128 := by decide +kernel
  have hun : Unmistaken (trim "date('%B %d', %s)".toList) :=
    unmistaken_of_ascii hascii (by decide +kernel) (by decide +kernel)
  have hmeant := (((parse_meant "date('%B %d', %s)").2.1 hun _).mp hdate).2.2
  have hupper : trim "upper(x)".toList = "upper(x)".toList := by decide +kernel
  have hcall : namePlaceholders (trim "upper(x)".toList) = callChars "upper".toList ["x".toList] := by decide +kernel
  have hspells : List.Forall₂ Spells ["x".toList] [.name "x"] :=
    .cons (spells_word (by decide) (wordToken?_name (by decide) (by decide)) rfl) .nil
  have hexpression : expression? "upper(x)".toList = some (.call (.name "upper") [.name "x"] false) := by
    rw [expression?, hcall]
    exact parse_callChars (by decide) (by decide) hspells
  have hrefused := (parse_meant "upper(x)").2.2 _ _ _ "x" hexpression List.mem_cons_self (by decide) (by decide)
  rw [htrim] at hmeant
  rw [hupper] at hrefused
  exact ⟨hdate, hmeant, hrefused⟩

/-- **The name of the placeholder is taken for one where the author writes it,** alone or beside a placeholder in
quotes, and an argument that cannot be evaluated hides the bare name after it. -/
theorem exists_mistaken :
    (parse "default(__stencil_value__)" = .ok ⟨"default", [], 0⟩ ∧
      ¬Meant "default(__stencil_value__)".toList ⟨"default", [], 0⟩) ∧
    (parse "wrap('%s', __stencil_value__, 'b')" = .ok ⟨"wrap", [.text "__stencil_value__", .text "b"], 1⟩ ∧
      ¬Meant "wrap('%s', __stencil_value__, 'b')".toList ⟨"wrap", [.text "__stencil_value__", .text "b"], 1⟩) ∧
    parse "default({[]: 1}, x)" = .error (.fault (.unhashable "list")) := by
  have hplain : lex "default(__stencil_value__)".toList =
      some [.name "default", .op "(", .name "__stencil_value__", .op ")"] := by decide +kernel
  have hplaced : lex ("wrap('".toList ++ (['x'] ++ "', __stencil_value__, 'b')".toList)) = some [.name "wrap", .op "(",
      .text [.char 'x'], .op ",", .name "__stencil_value__", .op ",", .text [.char 'b'], .op ")"] := by decide +kernel
  refine ⟨⟨by decide +kernel, fun h => ?_⟩, ⟨by decide +kernel, fun h => ?_⟩, by decide +kernel⟩
  · exact absurd (h.nameTokens_length (by decide +kernel) hplain) (by decide)
  · have hcs : "wrap('%s', __stencil_value__, 'b')".toList =
        "wrap('".toList ++ '%' :: 's' :: "', __stencil_value__, 'b')".toList := by decide +kernel
    rw [hcs] at h
    exact absurd (h.mem_nameTokens (by decide) (by decide +kernel) ⟨by decide, by decide, rfl⟩ hplaced) (by decide)

end Gabarit.FilterCall
