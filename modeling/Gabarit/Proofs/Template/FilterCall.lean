import Gabarit.Proofs.Expression.Written
import Gabarit.Proofs.Outcome
import Gabarit.Proofs.Text.Blank
import Gabarit.Template.FilterCall

/-!
# Written filter calls

* `Renames`, `renames_escaped`, `renames_callChars`: naming the placeholder of a call leaves its literals
  alone;
* `arguments_insertIdx`: the slot is the place of the placeholder;
* `callText`: the text of a call;
* **`parse_callText`**: a written call is read back.
-/

namespace Gabarit.FilterCall

open Text Expression

variable {as bs cs : List Char} {m n : ℕ}

/-! ## Placeholders -/

/-- Naming the placeholders of a piece gives another piece, whatever follows; there are `n` of them. -/
def Renames (n : ℕ) (as bs : List Char) : Prop :=
  ∀ rest, namePlaceholders (as ++ rest) = bs ++ namePlaceholders rest ∧
    countPlaceholders (as ++ rest) = n + countPlaceholders rest

theorem Renames.append {as' bs' : List Char} (h : Renames m as bs) (h' : Renames n as' bs') :
    Renames (m + n) (as ++ as') (bs ++ bs') := by
  intro rest
  rw [List.append_assoc, (h _).1, (h _).2, (h' _).1, (h' _).2, List.append_assoc, Nat.add_assoc]
  exact ⟨rfl, rfl⟩

theorem namePlaceholders_cons {c : Char} (h : ∀ r, c = '%' → cs = 's' :: r → False) :
    namePlaceholders (c :: cs) = c :: namePlaceholders cs ∧ countPlaceholders (c :: cs) = countPlaceholders cs :=
  ⟨namePlaceholders.eq_2 _ _ h, countPlaceholders.eq_2 _ _ h⟩

theorem renames_of_not_mem (h : '%' ∉ as) : Renames 0 as as := by
  intro rest
  induction as with
  | nil => exact ⟨rfl, (Nat.zero_add _).symm⟩
  | cons c as ih =>
    rw [List.mem_cons, not_or] at h
    have hmark : ∀ r, c = '%' → as ++ rest = 's' :: r → False := fun _ hc _ => h.1 hc.symm
    obtain ⟨hname, hcount⟩ := namePlaceholders_cons hmark
    rw [List.cons_append, hname, hcount, (ih h.2).1, (ih h.2).2]
    exact ⟨rfl, rfl⟩

theorem renames_placeholder : Renames 1 ['%', 's'] placeholderName.toList := by
  intro rest
  exact ⟨rfl, Nat.add_comm _ _⟩

/-- **Escapes neither make placeholders nor hide them.** -/
theorem renames_escaped {q : Char} (hq : IsQuote q) {ps : List Point} (h : ¬[.char '%', .char 's'] <:+: ps)
    {rest : List Char} (hrest : 's' ∉ rest.head?) :
    namePlaceholders (escaped q ps ++ rest) = escaped q ps ++ namePlaceholders rest ∧
      countPlaceholders (escaped q ps ++ rest) = countPlaceholders rest := by
  induction ps with
  | nil => exact ⟨rfl, rfl⟩
  | cons p ps ih =>
    have htail := ih fun hmem => h (hmem.trans (List.suffix_cons p ps).isInfix)
    rw [escaped, List.flatMap_cons, ← escaped, List.append_assoc]
    by_cases hp : p = .char '%'
    · subst hp
      have hplain : escapePoint q (.char '%') = ['%'] := by obtain rfl | rfl := hq <;> decide
      have hnext : ∀ r, escaped q ps ++ rest = 's' :: r → False := by
        intro r hr
        obtain _ | ⟨p', ps⟩ := ps
        · rw [escaped, List.flatMap_nil, List.nil_append] at hr
          rw [hr] at hrest
          exact hrest rfl
        · have hp' : p' ≠ .char 's' := by
            rintro rfl
            exact h (List.IsPrefix.isInfix ⟨ps, rfl⟩)
          rw [escaped, List.flatMap_cons] at hr
          obtain ⟨c, rfl, -, hc⟩ | ⟨c, -, -, hc⟩ | ⟨letter, ds, hc, -, -⟩ := escapePoint_cases q p' <;>
            rw [hc] at hr <;> cases hr
          exact hp' rfl
      rw [hplain, List.singleton_append]
      obtain ⟨hname, hcount⟩ := namePlaceholders_cons (c := '%') fun r _ => hnext r
      rw [hname, hcount, htail.1, htail.2]
      exact ⟨rfl, rfl⟩
    · have hother : '%' ∉ escapePoint q p := fun hmem => hp (eq_of_mem_escapePoint hmem (by decide))
      obtain ⟨hname, hcount⟩ := renames_of_not_mem hother (escaped q ps ++ rest)
      rw [hname, hcount, htail.1, htail.2, Nat.zero_add, List.append_assoc]
      exact ⟨rfl, rfl⟩

theorem renames_written {v : Scalar} {t : List Char} {e : Expr} (h : Writes v t e)
    (hmark : ∀ ps, v = .ofPoints ps → ¬[.char '%', .char 's'] <:+: ps) : Renames 0 t t := by
  obtain hpercent | ⟨ps, q, rfl, hq, rfl⟩ := h.percent
  · exact renames_of_not_mem hpercent
  · have hq' : '%' ∉ [q] ∧ 's' ≠ q := by obtain rfl | rfl := hq <;> decide
    intro rest
    obtain ⟨hopen, hopens⟩ := renames_of_not_mem hq'.1 (escaped q ps ++ ([q] ++ rest))
    obtain ⟨hclose, hcloses⟩ := renames_of_not_mem hq'.1 rest
    have hquote : 's' ∉ ([q] ++ rest).head? := fun hmem => hq'.2 (Option.some.inj hmem).symm
    obtain ⟨hbody, hbodies⟩ := renames_escaped hq (hmark ps rfl) hquote
    have hsplit : q :: (escaped q ps ++ [q]) ++ rest = [q] ++ (escaped q ps ++ ([q] ++ rest)) := by
      simp
    rw [hsplit, hopen, hopens, hbody, hbodies, hclose, hcloses]
    simp

/-- Naming the placeholders of pieces gives other pieces; there are `n` of them. -/
inductive RenamesAll : ℕ → List (List Char) → List (List Char) → Prop
  | nil : RenamesAll 0 [] []
  | cons {m n : ℕ} {as bs : List Char} {ass bss : List (List Char)} :
    Renames m as bs → RenamesAll n ass bss → RenamesAll (m + n) (as :: ass) (bs :: bss)

theorem RenamesAll.closedChars {ass bss : List (List Char)} (h : RenamesAll n ass bss) :
    Renames n (closedChars ass) (closedChars bss) := by
  have hclose : Renames 0 [')'] [')'] := renames_of_not_mem (by decide)
  have hcomma : Renames 0 [',', ' '] [',', ' '] := renames_of_not_mem (by decide)
  induction h with
  | nil => exact hclose
  | @cons m n as bs ass bss has hass ih =>
    cases hass with
    | nil => exact has.append hclose
    | cons hbs hass =>
      have := has.append (hcomma.append ih)
      rw [Nat.zero_add] at this
      exact this

theorem renamesAll_self {ts : List (List Char)} (h : ∀ t ∈ ts, Renames 0 t t) : RenamesAll 0 ts ts := by
  induction ts with
  | nil => exact .nil
  | cons t ts ih =>
    rw [List.forall_mem_cons] at h
    exact .cons h.1 (ih h.2)

theorem renamesAll_insertIdx {ts : List (List Char)} (h : ∀ t ∈ ts, Renames 0 t t) {k : ℕ} (hk : k ≤ ts.length) :
    RenamesAll 1 (ts.insertIdx k ['%', 's']) (ts.insertIdx k placeholderName.toList) := by
  induction k generalizing ts with
  | zero =>
    rw [List.insertIdx_zero, List.insertIdx_zero]
    exact .cons renames_placeholder (renamesAll_self h)
  | succ k ih =>
    obtain _ | ⟨t, ts⟩ := ts
    · exact absurd hk (Nat.not_succ_le_zero _)
    · rw [List.forall_mem_cons] at h
      rw [List.insertIdx_succ_cons, List.insertIdx_succ_cons]
      exact .cons (m := 0) (n := 1) h.1 (ih h.2 (Nat.le_of_succ_le_succ hk))

theorem renames_callChars {f : List Char} (hname : AsciiName f) {ass bss : List (List Char)}
    (h : RenamesAll n ass bss) :
    namePlaceholders (callChars f ass) = callChars f bss ∧ countPlaceholders (callChars f ass) = n := by
  have hopen : '%' ∉ f ++ ['('] := by
    have hf : '%' ∉ f := hname.not_mem (by decide)
    simp [hf]
  obtain ⟨hnames, hcount⟩ := ((renames_of_not_mem hopen).append h.closedChars) []
  have hcall (ts : List (List Char)) : callChars f ts = f ++ ['('] ++ closedChars ts ++ [] := by
    simp [callChars]
  rw [hcall, hcall, hnames, hcount]
  exact ⟨rfl, Nat.zero_add n⟩

/-! ## Arguments -/

variable {segment : String} {args done : List Scalar} {es : List Expr}

/-- The expression stands for the scalar, and is no name. -/
def Stands (v : Scalar) (e : Expr) : Prop := e.evaluate = .ok (.scalar v) ∧ ∀ s, e ≠ .name s

theorem arguments_cons_of_ok {v : Scalar} {e : Expr} (h : argument segment e = .ok v)
    (hne : e ≠ .name placeholderName) (done : List Scalar) (slot : Option ℕ) (es : List Expr) :
    arguments segment done slot (e :: es) = arguments segment (done ++ [v]) slot es := by
  rw [arguments.eq_def]
  dsimp only
  split
  · rw [if_neg, h]
    · rfl
    · rintro rfl
      exact hne rfl
  · rw [h]
    rfl

theorem arguments_cons {v : Scalar} {e : Expr} (h : Stands v e) (segment : String) (done : List Scalar)
    (slot : Option ℕ) (es : List Expr) :
    arguments segment done slot (e :: es) = arguments segment (done ++ [v]) slot es := by
  obtain ⟨heval, hname⟩ := h
  refine arguments_cons_of_ok ?_ (hname _) done slot es
  cases e
  case name s => exact absurd rfl (hname s)
  all_goals simp only [argument, heval]

theorem arguments_plain (h : List.Forall₂ Stands args es) (segment : String) (done : List Scalar)
    (slot : Option ℕ) : arguments segment done slot es = .ok (done ++ args, slot) := by
  induction h generalizing done with
  | nil => rw [arguments, List.append_nil]
  | cons he _ ih => rw [arguments_cons he, ih, List.append_assoc, List.singleton_append]

/-- **The slot is the place of the placeholder among the arguments.** -/
theorem arguments_insertIdx (h : List.Forall₂ Stands args es) {k : ℕ} (hk : k ≤ args.length)
    (segment : String) (done : List Scalar) :
    arguments segment done none (es.insertIdx k (.name placeholderName)) =
      .ok (done ++ args, some (done.length + k)) := by
  induction k generalizing args es done with
  | zero => rw [List.insertIdx_zero, arguments, if_pos rfl, arguments_plain h, Nat.add_zero]
  | succ k ih =>
    cases h with
    | nil => exact absurd hk (Nat.not_succ_le_zero _)
    | @cons v e args es he hes =>
      rw [List.insertIdx_succ_cons, arguments_cons he, ih hes (Nat.le_of_succ_le_succ hk), List.append_assoc,
        List.singleton_append, List.length_append, List.length_singleton, Nat.add_assoc, Nat.add_comm 1 k]

/-! ## Calls -/

variable {name : String} {texts : List String}

/-- The text of a call. -/
def callText (name : String) (pieces : List String) : String :=
  name ++ "(" ++ ", ".intercalate pieces ++ ")"

theorem toList_callText (name : String) (pieces : List String) :
    (callText name pieces).toList = callChars name.toList (pieces.map String.toList) := by
  simp [callText, callChars, closedChars_eq, String.toList_intercalate]

theorem bounded_callChars {f : List Char} (hname : AsciiName f) (ts : List (List Char)) :
    Bounded (callChars f ts) := by
  obtain ⟨c, ds, rfl, hc⟩ := hname.exists_cons
  refine ⟨?_, ?_⟩
  · rintro _ ⟨⟩
    exact isBlank_of_isAsciiContinue (isAsciiContinue_of_start hc)
  · rw [callChars, closedChars_eq, ← List.cons_append, ← List.append_assoc, List.getLast?_concat]
    rintro _ ⟨⟩
    decide

theorem parse_of_renames (hname : AsciiName name.toList) (hkeyword : name ∉ keywords)
    {pieces : List String} {ts : List (List Char)} (hn : n ≤ 1)
    (h : RenamesAll n (pieces.map String.toList) ts) (hspells : List.Forall₂ Spells ts es) :
    parse (callText name pieces) = ofExpr (callText name pieces) n (.call (.name name) es false) := by
  obtain ⟨hnames, hcount⟩ := renames_callChars hname h
  have hnul : (callChars name.toList ts).contains '\x00' = false := by
    have hmem := not_mem_callChars hname (by decide) (forall_of_forall₂ hspells fun _ _ ht => ht.noNul)
    simpa using hmem
  have hparse := parse_callChars hname (by rwa [String.ofList_toList]) hspells
  have htrim : trim (callText name pieces).toList = callChars name.toList (pieces.map String.toList) := by
    rw [toList_callText, trim_eq_self (bounded_callChars hname _)]
  have hsegment : String.ofList (trim (callText name pieces).toList) = callText name pieces := by
    rw [htrim, ← toList_callText, String.ofList_toList]
  rw [String.ofList_toList] at hparse
  unfold parse
  dsimp only
  rw [hsegment, htrim, hnames, hcount, if_neg (by omega), hnul, hparse]
  rfl

theorem parse_bare (hname : AsciiName name.toList) (hkeyword : name ∉ keywords)
    (hplaceholder : name ≠ placeholderName) : parse name = .ok ⟨name, [], 0⟩ := by
  have hblank : ∀ c ∈ name.toList, isBlank c = false := fun c hc =>
    isBlank_of_isAsciiContinue (hname.isAsciiContinue c hc)
  have htrim : trim name.toList = name.toList :=
    trim_eq_self ⟨fun c hc => hblank c (List.mem_of_mem_head? hc), fun c hc => hblank c (List.mem_of_mem_getLast? hc)⟩
  obtain ⟨hnames, hcount⟩ := renames_of_not_mem (hname.not_mem (c := '%') (by decide)) []
  rw [List.append_nil] at hnames hcount
  have hnul : name.toList.contains '\x00' = false := by
    have hmem : '\x00' ∉ name.toList := hname.not_mem (by decide)
    simpa using hmem
  have hparse := parse_name hname (by rwa [String.ofList_toList])
  rw [String.ofList_toList] at hparse
  unfold parse
  dsimp only
  rw [htrim, hcount, hnames, namePlaceholders, List.append_nil, countPlaceholders, if_neg (by decide), hnul, hparse]
  simp only [Bool.false_eq_true, if_false]
  rw [ofExpr, if_neg hplaceholder]

theorem exists_expressions (hwritten : List.Forall₂ (fun v t => v.toValue.written = .ok t) args texts)
    (hfinite : ∀ x, Scalar.float x ∈ args → x.isFinite = true)
    (hmark : ∀ ps, Scalar.ofPoints ps ∈ args → ¬[.char '%', .char 's'] <:+: ps) :
    ∃ es, List.Forall₂ Stands args es ∧ List.Forall₂ Spells (texts.map String.toList) es ∧
      ∀ t ∈ texts.map String.toList, Renames 0 t t := by
  induction hwritten with
  | nil => exact ⟨[], .nil, .nil, List.forall_mem_nil _⟩
  | @cons v t args texts ht _ ih =>
    obtain ⟨e, he⟩ := exists_writes ht fun x hx => hfinite x (hx ▸ List.mem_cons_self)
    obtain ⟨es, hstands, hspells, hrenames⟩ := ih (fun x hx => hfinite x (List.mem_cons_of_mem _ hx))
      (fun ps hps => hmark ps (List.mem_cons_of_mem _ hps))
    refine ⟨e :: es, .cons ⟨he.value, he.literal⟩ hstands, .cons he.spells hspells, ?_⟩
    rw [List.map_cons, List.forall_mem_cons]
    exact ⟨renames_written he fun ps hps => hmark ps (hps ▸ List.mem_cons_self), hrenames⟩

theorem spells_placeholder : Spells placeholderName.toList (.name placeholderName) :=
  spells_word (by decide) (wordToken?_name (by decide) (by decide)) rfl

theorem forall₂_insertIdx {α β : Type} {R : α → β → Prop} {as : List α} {bs : List β} {a : α} {b : β}
    (h : List.Forall₂ R as bs) (hab : R a b) {k : ℕ} (hk : k ≤ as.length) :
    List.Forall₂ R (as.insertIdx k a) (bs.insertIdx k b) := by
  induction k generalizing as bs with
  | zero =>
    rw [List.insertIdx_zero, List.insertIdx_zero]
    exact .cons hab h
  | succ k ih =>
    cases h with
    | nil => exact absurd hk (Nat.not_succ_le_zero _)
    | cons hcons h =>
      rw [List.insertIdx_succ_cons, List.insertIdx_succ_cons]
      exact .cons hcons (ih h (Nat.le_of_succ_le_succ hk))

/-- **A filter call is read back as it is written, with the piped value in the place of the placeholder.** -/
theorem parse_callText (hname : AsciiName name.toList) (hkeyword : name ∉ keywords)
    (hplaceholder : name ≠ placeholderName)
    (hwritten : List.Forall₂ (fun v t => v.toValue.written = .ok t) args texts)
    (hfinite : ∀ x, Scalar.float x ∈ args → x.isFinite = true)
    (hmark : ∀ ps, Scalar.ofPoints ps ∈ args → ¬[.char '%', .char 's'] <:+: ps) :
    (∀ k ≤ args.length, parse (callText name (texts.insertIdx k "%s")) = .ok ⟨name, args, k⟩) ∧
    parse (callText name texts) = .ok ⟨name, args, args.length⟩ ∧
    parse name = .ok ⟨name, [], 0⟩ ∧ parse (callText name []) = .ok ⟨name, [], 0⟩ := by
  obtain ⟨es, hstands, hspells, hrenames⟩ := exists_expressions hwritten hfinite hmark
  refine ⟨fun k hk => ?_, ?_, parse_bare hname hkeyword hplaceholder, ?_⟩
  · have hlen : k ≤ (texts.map String.toList).length := by
      rwa [List.length_map, ← hwritten.length_eq]
    have hall := renamesAll_insertIdx hrenames hlen
    have hslot := forall₂_insertIdx hspells spells_placeholder hlen
    have hmap : (texts.insertIdx k "%s").map String.toList = (texts.map String.toList).insertIdx k ['%', 's'] :=
      List.map_insertIdx _ _ _ _
    rw [parse_of_renames hname hkeyword le_rfl (hmap ▸ hall) hslot, ofExpr, if_neg hplaceholder,
      arguments_insertIdx hstands hk]
    simp [bind, Except.bind, pure, Except.pure]
  · rw [parse_of_renames hname hkeyword (Nat.zero_le 1) (renamesAll_self hrenames) hspells, ofExpr,
      if_neg hplaceholder, arguments_plain hstands]
    rfl
  · have hnil : RenamesAll 0 (([] : List String).map String.toList) [] := .nil
    rw [parse_of_renames hname hkeyword (Nat.zero_le 1) hnil .nil, ofExpr, if_neg hplaceholder]
    rfl

/-- A call with a text that needs double quotes, a negative integer, a number with an exponent and a word. -/
theorem parse_callText_wrap :
    parse "wrap(\"it's 5%, | or (6)\", %s, -3, 1.5e-07, True)" =
      .ok ⟨"wrap", [.text "it's 5%, | or (6)", .int (-3), .float ⟨0x3e8421f5f40d8376⟩, .bool true], 1⟩ := by
  have htext : (Scalar.text "it's 5%, | or (6)").toValue.written = .ok "\"it's 5%, | or (6)\"" := by decide +kernel
  have hint : (Scalar.int (-3)).toValue.written = .ok "-3" := by
    rw [Scalar.toValue, Value.written]
    exact Value.intText_eq_ok.mpr ⟨by decide, by decide⟩
  have hfloat : (Scalar.float ⟨0x3e8421f5f40d8376⟩).toValue.written = .ok "1.5e-07" := by decide +kernel
  have hbool : (Scalar.bool true).toValue.written = .ok "True" := by decide +kernel
  have hname : AsciiName "wrap".toList := by decide
  have hfinite : ∀ x, Scalar.float x ∈ [Scalar.text "it's 5%, | or (6)", .int (-3), .float ⟨0x3e8421f5f40d8376⟩,
      .bool true] → x.isFinite = true := by
    intro x hx
    simp only [List.mem_cons, Scalar.float.injEq, List.not_mem_nil, reduceCtorEq, or_false, false_or] at hx
    subst hx
    decide
  have hmark : ∀ ps, Scalar.ofPoints ps ∈ [Scalar.text "it's 5%, | or (6)", .int (-3), .float ⟨0x3e8421f5f40d8376⟩,
      .bool true] → ¬[.char '%', .char 's'] <:+: ps := by
    intro ps hps
    obtain ⟨t, rfl⟩ : ∃ t, ps = points t := ⟨ofPoints ps, (points_ofPoints ps).symm⟩
    rw [Scalar.ofPoints, ofPoints_points] at hps
    cases t with
    | inl s =>
      simp only [Sum.elim_inl, List.mem_cons, Scalar.text.injEq, List.not_mem_nil, reduceCtorEq, or_false] at hps
      subst hps
      decide
    | inr t => simp at hps
  have hcall := (parse_callText hname (by decide) (by decide)
    (.cons htext (.cons hint (.cons hfloat (.cons hbool .nil)))) hfinite hmark).1 1 (by decide)
  exact hcall

end Gabarit.FilterCall
