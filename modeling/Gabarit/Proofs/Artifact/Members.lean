import Gabarit.Proofs.Artifact.Numeral
import Mathlib.Tactic.IntervalCases

/-!
# Texts and members in artifacts

* `readString_written`: a text between quotes is read as it is;
* `Recovers`: what is written for a value is read as what is kept of the value;
* **`recovers_list`**: arrays of members that are recovered;
* `Updates`, **`recovers_record`**: objects of fields that are read one after the other.
-/

namespace Gabarit.Artifact

/-! ## Texts -/

theorem readUnit_hexPadded {n : ℕ} (hn : n < 32) (rest : Input) :
    readUnit ((Text.hexPadded 4 n).map some ++ rest) = some (n, rest) := by
  interval_cases n <;> rfl

/-- An escape of one letter is read as its character. -/
theorem readString_letter {e c : Char} (he : letterEscape? e = some c) (hu : e ≠ 'u') (fuel : ℕ)
    (rest : Input) : readString (fuel + 1) (some '\\' :: some e :: rest) =
      (readString fuel rest).map fun (cs, after) => (some c :: cs, after) := by
  rw [readString, if_neg (by decide), if_pos rfl]
  · simp only [he, Option.map_some]
  · exact fun h => hu h

theorem readString_plain {c : Char} (hquote : c ≠ '"') (hslash : c ≠ '\\') (hc : ¬c.toNat < 32)
    (fuel : ℕ) (rest : Input) : readString (fuel + 1) (some c :: rest) =
      (readString fuel rest).map fun (cs, after) => (some c :: cs, after) := by
  conv_lhs => unfold readString
  simp only [Option.some.injEq, hquote, hslash, hc, if_false, Option.map_some, decide_false,
    Option.getD_some, Bool.false_eq_true]

theorem readString_writeChar (c : Char) (fuel : ℕ) (rest : Input) :
    readString (fuel + 1) ((writeChar c).map some ++ rest) =
      (readString fuel rest).map fun (cs, after) => (some c :: cs, after) := by
  unfold writeChar
  split_ifs with h1 h2 h3 h4 h5 h6 h7
  · obtain rfl | rfl := h1
    · exact readString_letter rfl (by decide) fuel rest
    · exact readString_letter rfl (by decide) fuel rest
  · subst h2
    exact readString_letter rfl (by decide) fuel rest
  · subst h3
    exact readString_letter rfl (by decide) fuel rest
  · subst h4
    exact readString_letter rfl (by decide) fuel rest
  · subst h5
    exact readString_letter rfl (by decide) fuel rest
  · subst h6
    exact readString_letter rfl (by decide) fuel rest
  · have hcoded : readCoded ((Text.hexPadded 4 c.toNat).map some ++ rest) = some (c, rest) := by
      rw [readCoded, readUnit_hexPadded h7]
      dsimp only
      rw [if_neg (by omega), if_neg (by omega), Char.ofNat_toNat]
    rw [List.map_cons, List.map_cons, List.cons_append, List.cons_append, readString,
      if_neg (by decide), if_pos rfl]
    simp only [hcoded]
  · rw [not_or] at h1
    exact readString_plain h1.1 h1.2 h7 fuel rest

theorem readString_written (cs : List Char) {fuel : ℕ} (hf : cs.length < fuel) (rest : Input) :
    readString fuel ((cs.flatMap writeChar).map some ++ some '"' :: rest) = .ok (cs.map some, rest) := by
  induction cs generalizing fuel with
  | nil =>
    obtain _ | fuel := fuel
    · exact absurd hf (Nat.not_lt_zero _)
    · rfl
  | cons c cs ih =>
    obtain _ | fuel := fuel
    · exact absurd hf (Nat.not_lt_zero _)
    · rw [List.flatMap_cons, List.map_append, List.append_assoc, readString_writeChar,
        ih (Nat.lt_of_succ_lt_succ hf)]
      rfl

theorem length_le_flatMap_writeChar (cs : List Char) : cs.length ≤ (cs.flatMap writeChar).length := by
  induction cs with
  | nil => exact le_rfl
  | cons c cs ih =>
    have hc : 0 < (writeChar c).length := by
      unfold writeChar
      split_ifs <;> exact Nat.succ_pos _
    rw [List.flatMap_cons, List.length_append, List.length_cons]
    omega

/-- A text after its opening quote, with what follows it. -/
theorem readString_writeText (s : String) (rest : Input) :
    ∃ body, (writeText s).map some ++ rest = some '"' :: body ∧
      readString (body.length + 1) body = .ok (s.toList.map some, rest) := by
  refine ⟨(s.toList.flatMap writeChar).map some ++ some '"' :: rest, ?_, ?_⟩
  · simp [writeText]
  · refine readString_written _ ?_ _
    have := length_le_flatMap_writeChar s.toList
    simp only [List.length_append, List.length_map]
    omega

theorem textOf_map (s : String) : textOf (s.toList.map some) = .ok s := by
  have h : (s.toList.map some).mapM id = some s.toList := by
    induction s.toList with
    | nil => rfl
    | cons c cs ih => simp [List.mapM_cons, ih]
  rw [textOf, h]
  exact congrArg _ (String.ofList_toList)

theorem isName_map (a b : String) : isName a (b.toList.map some) = decide (b = a) := by
  rw [isName, Bool.eq_iff_iff, beq_iff_eq, decide_eq_true_iff,
    (List.map_injective_iff.mpr (Option.some_injective _)).eq_iff, String.toList_inj]

/-! ## Members -/

/-- A member starts neither with a blank nor with a bracket that closes. -/
def Opens (m : List Char) : Prop :=
  ∃ c cs, m = c :: cs ∧ isSpace (some c) = false ∧ c ≠ ']' ∧ c ≠ '\x7d'

theorem opens_cons {c : Char} {cs : List Char} (h : isSpace (some c) = false) (hc : c ≠ ']')
    (hc' : c ≠ '\x7d') : Opens (c :: cs) :=
  ⟨c, cs, rfl, h, hc, hc'⟩

theorem opens_writeText (s : String) : Opens (writeText s) :=
  opens_cons rfl (by decide) (by decide)

theorem opens_writeField (name : String) (value : List Char) : Opens (writeField name value) :=
  opens_cons rfl (by decide) (by decide)

theorem skipSpace_cons {s : Option Char} {rest : Input} (h : isSpace s = false) :
    skipSpace (s :: rest) = s :: rest := by
  rw [skipSpace, List.dropWhile_cons_of_neg (by simp [h])]

section Brackets

variable {close : Char} (hclose : close = ']' ∨ close = '\x7d')
include hclose

theorem nextMember_close (first : Bool) (rest : Input) :
    nextMember close first (some close :: rest) = .ok (false, rest) := by
  rw [nextMember, skipSpace_cons (by obtain rfl | rfl := hclose <;> rfl)]
  exact if_pos rfl

theorem nextMember_first {m : List Char} (h : Opens m) (rest : Input) :
    nextMember close true (m.map some ++ rest) = .ok (true, m.map some ++ rest) := by
  obtain ⟨c, cs, rfl, hspace, hc, hc'⟩ := h
  have hne : c ≠ close := by
    obtain rfl | rfl := hclose
    · exact hc
    · exact hc'
  rw [List.map_cons, List.cons_append, nextMember, skipSpace_cons hspace]
  simp only [if_neg hne, if_true]

theorem nextMember_comma {m : List Char} (h : Opens m) (rest : Input) :
    nextMember close false (some ',' :: (m.map some ++ rest)) = .ok (true, m.map some ++ rest) := by
  obtain ⟨c, cs, rfl, hspace, hc, hc'⟩ := h
  have hne : c ≠ close := by
    obtain rfl | rfl := hclose
    · exact hc
    · exact hc'
  have hcomma : ',' ≠ close := by
    obtain rfl | rfl := hclose <;> decide
  rw [nextMember, skipSpace_cons rfl]
  simp only [if_neg hcomma, Bool.false_eq_true, if_false, if_true, List.map_cons, List.cons_append,
    skipSpace_cons hspace, if_neg hne]

end Brackets

/-- Members after the first one, each with its comma. -/
def laterMembers (ms : List (List Char)) : List Char := ms.flatMap (',' :: ·)

theorem writeMembers_cons (m : List Char) (ms : List (List Char)) :
    writeMembers (m :: ms) = m ++ laterMembers ms := by
  induction ms generalizing m with
  | nil => simp [writeMembers, laterMembers]
  | cons n ms ih => rw [writeMembers, ih] <;> simp [laterMembers]

theorem length_le_laterMembers (ms : List (List Char)) : ms.length ≤ (laterMembers ms).length := by
  induction ms with
  | nil => exact le_rfl
  | cons m ms ih =>
    rw [laterMembers, List.flatMap_cons, ← laterMembers]
    simp only [List.length_append, List.length_cons]
    omega

theorem length_le_writeMembers (ms : List (List Char)) :
    ms.length ≤ (writeMembers ms).length + 1 := by
  cases ms with
  | nil => exact Nat.zero_le _
  | cons m ms =>
    have := length_le_laterMembers ms
    rw [writeMembers_cons, List.length_append, List.length_cons]
    omega

theorem length_le_of_mem {m : List Char} {ms : List (List Char)} (h : m ∈ ms) :
    m.length ≤ (writeMembers ms).length := by
  induction ms with
  | nil => cases h
  | cons n ms ih =>
    rw [writeMembers_cons, List.length_append]
    obtain rfl | h := List.mem_cons.mp h
    · omega
    · have hlater : (writeMembers ms).length ≤ (laterMembers ms).length := by
        cases ms with
        | nil => exact le_rfl
        | cons k ms =>
          rw [writeMembers_cons, laterMembers, laterMembers, List.flatMap_cons]
          simp only [List.length_append, List.length_cons]
          omega
      have := ih h
      omega

theorem ends_laterMembers (ms : List (List Char)) {close : Char} (hclose : close = ']' ∨ close = '\x7d')
    (rest : Input) : Ends ((laterMembers ms).map some ++ some close :: rest) := by
  cases ms with
  | nil =>
    rintro s ⟨⟩
    obtain rfl | rfl := hclose
    · exact .inr (.inl rfl)
    · exact .inr (.inr rfl)
  | cons m ms =>
    rintro s ⟨⟩
    exact .inl rfl

/-! ## Arrays -/

variable {α β σ : Type}

/-- What is written for a value opens like a member, and is read as what is kept of the value. -/
structure Recovers (read : Input → Except ArtifactFault (α × Input)) (written : List Char)
    (kept : Except ArtifactFault α) : Prop where
  opens : Opens written
  read : ∀ rest, Ends rest → read (written.map some ++ rest) = kept.map (·, rest)

/-- Members are kept one after the other. -/
theorem mapM_cons_eq (keep : β → Except ArtifactFault α) (b : β) (bs : List β) :
    (b :: bs).mapM keep = (keep b).bind fun a => (bs.mapM keep).map (a :: ·) := by
  rw [List.mapM_cons]
  rfl

section Array

variable {item : Input → Except ArtifactFault (α × Input)} {write : β → Except Fault (List Char)}
  {keep : β → Except ArtifactFault α}

theorem readArray_later {bs : List β} {ms : List (List Char)} (hms : bs.mapM write = .ok ms)
    (h : ∀ b, ∀ m ∈ ms, write b = .ok m → Recovers item m (keep b)) {fuel : ℕ}
    (hf : ms.length < fuel) (rest : Input) :
    readArray item fuel false ((laterMembers ms).map some ++ some ']' :: rest) =
      (bs.mapM keep).map (·, rest) := by
  rw [mapM_eq_ok_iff] at hms
  induction hms generalizing fuel with
  | nil =>
    obtain ⟨fuel, rfl⟩ := Nat.exists_eq_succ_of_ne_zero (Nat.ne_of_gt hf)
    simp only [readArray, laterMembers, List.flatMap_nil, List.map_nil, List.nil_append,
      nextMember_close (.inl rfl), bind, Except.bind, Bool.false_eq_true, if_false]
    rfl
  | @cons b m bs ms hm hms ih =>
    obtain ⟨fuel, rfl⟩ := Nat.exists_eq_succ_of_ne_zero (Nat.ne_of_gt (Nat.zero_lt_of_lt hf))
    have hb := h b m List.mem_cons_self hm
    have hread := hb.read _ (ends_laterMembers ms (.inl rfl) rest)
    have hrest := ih (fun b m hm => h b m (List.mem_cons_of_mem _ hm)) (Nat.lt_of_succ_lt_succ hf)
    rw [mapM_cons_eq, laterMembers, List.flatMap_cons, ← laterMembers, List.cons_append, List.map_cons,
      List.map_append, List.cons_append, List.append_assoc, readArray,
      nextMember_comma (.inl rfl) hb.opens]
    simp only [bind, Except.bind, if_true, hread]
    cases keep b with
    | error e => rfl
    | ok a =>
      simp only [Except.map, hrest]
      cases bs.mapM keep <;> rfl

/-- **An array of members that are recovered is recovered.** -/
theorem recovers_list {bs : List β} {ms : List (List Char)} (hms : bs.mapM write = .ok ms) {fuel : ℕ}
    (h : ∀ b m, write b = .ok m → m.length < fuel → Recovers item m (keep b))
    (hf : (writeArray ms).length ≤ fuel) :
    Recovers (readList item fuel) (writeArray ms) (bs.mapM keep) := by
  have hitem : ∀ b, ∀ m ∈ ms, write b = .ok m → Recovers item m (keep b) := by
    intro b m hm hw
    have := length_le_of_mem hm
    simp only [writeArray, List.length_cons, List.length_append] at hf
    exact h b m hw (by omega)
  have hlen : ms.length < fuel := by
    have := length_le_writeMembers ms
    simp only [writeArray, List.length_cons, List.length_append] at hf
    omega
  refine ⟨opens_cons rfl (by decide) (by decide), fun rest _ => ?_⟩
  have hhead (rest : Input) : readHead (some '[' :: rest) = .ok (.array, rest) := rfl
  rw [writeArray, List.map_cons, List.cons_append, List.map_append, List.map_singleton,
    List.append_assoc, List.singleton_append, readList, hhead]
  simp only [bind, Except.bind]
  obtain ⟨fuel, rfl⟩ := Nat.exists_eq_succ_of_ne_zero (Nat.ne_of_gt (Nat.zero_lt_of_lt hlen))
  cases mapM_eq_ok_iff.mp hms with
  | nil =>
    rw [writeMembers, List.map_nil, List.nil_append, readArray, nextMember_close (.inl rfl)]
    rfl
  | @cons b m bs ms hm htail =>
    have hb := hitem b m List.mem_cons_self hm
    have hread := hb.read _ (ends_laterMembers ms (.inl rfl) rest)
    have hrest := readArray_later (mapM_eq_ok_iff.mpr htail)
      (fun b m hm => hitem b m (List.mem_cons_of_mem _ hm)) (Nat.lt_of_succ_lt_succ hlen) rest
    rw [writeMembers_cons, List.map_append, List.append_assoc, mapM_cons_eq, readArray,
      nextMember_first (.inl rfl) hb.opens]
    simp only [bind, Except.bind, if_true, hread]
    cases keep b with
    | error e => rfl
    | ok a =>
      simp only [Except.map, hrest]
      cases bs.mapM keep <;> rfl

end Array

/-! ## Objects -/

/-- A field as it is written is read, and changes what is known by `effect`. -/
def Updates (field : Input → σ → Input → Except ArtifactFault (σ × Input)) (written : List Char)
    (effect : σ → Except ArtifactFault σ) : Prop :=
  ∃ name value, written = writeField name value ∧ ∀ state rest, Ends rest →
    field (name.toList.map some) state (value.map some ++ rest) = (effect state).map (·, rest)

/-- What is known after the effects of fields, one after the other. -/
def afterFields (effects : List (σ → Except ArtifactFault σ)) (state : σ) : Except ArtifactFault σ :=
  effects.foldlM (fun state effect => effect state) state

section Object

variable {field : Input → σ → Input → Except ArtifactFault (σ × Input)}

theorem Updates.opens {m : List Char} {effect : σ → Except ArtifactFault σ} (h : Updates field m effect) :
    Opens m := by
  obtain ⟨name, value, rfl, -⟩ := h
  exact opens_writeField name value

/-- The key of a field and its colon are passed. -/
theorem readKey_writeField (name : String) (value : List Char) (rest : Input) :
    readKey ((writeField name value).map some ++ rest) =
      .ok (name.toList.map some, value.map some ++ rest) := by
  obtain ⟨body, hbody, hread⟩ := readString_writeText name (some ':' :: (value.map some ++ rest))
  rw [writeField, List.map_append, List.append_assoc, List.map_cons, List.cons_append, hbody, readKey]
  simp only [hread, bind, Except.bind, skipSpace_cons (show isSpace (some ':') = false from rfl)]
  rfl

theorem readObject_later {ms : List (List Char)} {effects : List (σ → Except ArtifactFault σ)}
    (h : List.Forall₂ (Updates field) ms effects) {fuel : ℕ} (hf : ms.length < fuel) (state : σ)
    (rest : Input) :
    readObject field fuel false state ((laterMembers ms).map some ++ some '\x7d' :: rest) =
      (afterFields effects state).map (·, rest) := by
  induction h generalizing fuel state with
  | nil =>
    obtain ⟨fuel, rfl⟩ := Nat.exists_eq_succ_of_ne_zero (Nat.ne_of_gt hf)
    simp only [readObject, laterMembers, List.flatMap_nil, List.map_nil, List.nil_append,
      nextMember_close (.inr rfl), bind, Except.bind, Bool.false_eq_true, if_false]
    rfl
  | @cons m effect ms effects hm hms ih =>
    obtain ⟨fuel, rfl⟩ := Nat.exists_eq_succ_of_ne_zero (Nat.ne_of_gt (Nat.zero_lt_of_lt hf))
    obtain ⟨name, value, rfl, hread⟩ := hm
    rw [laterMembers, List.flatMap_cons, ← laterMembers, List.cons_append, List.map_cons,
      List.map_append, List.cons_append, List.append_assoc, readObject,
      nextMember_comma (.inr rfl) (opens_writeField name value)]
    simp only [bind, Except.bind, if_true, readKey_writeField,
      hread state _ (ends_laterMembers ms (.inr rfl) rest), afterFields, List.foldlM_cons]
    cases effect state with
    | error e => rfl
    | ok state => exact ih (Nat.lt_of_succ_lt_succ hf) state

theorem readObject_first {ms : List (List Char)} {effects : List (σ → Except ArtifactFault σ)}
    (h : List.Forall₂ (Updates field) ms effects) {fuel : ℕ} (hf : ms.length < fuel) (state : σ)
    (rest : Input) :
    readObject field fuel true state ((writeMembers ms).map some ++ some '\x7d' :: rest) =
      (afterFields effects state).map (·, rest) := by
  obtain ⟨fuel, rfl⟩ := Nat.exists_eq_succ_of_ne_zero (Nat.ne_of_gt (Nat.zero_lt_of_lt hf))
  cases h with
  | nil =>
    rw [writeMembers, List.map_nil, List.nil_append, readObject, nextMember_close (.inr rfl)]
    rfl
  | @cons m effect ms effects hm hms =>
    obtain ⟨name, value, rfl, hread⟩ := hm
    rw [writeMembers_cons, List.map_append, List.append_assoc, readObject,
      nextMember_first (.inr rfl) (opens_writeField name value)]
    simp only [bind, Except.bind, if_true, readKey_writeField,
      hread state _ (ends_laterMembers ms (.inr rfl) rest), afterFields, List.foldlM_cons]
    cases effect state with
    | error e => rfl
    | ok state => exact readObject_later hms (Nat.lt_of_succ_lt_succ hf) state rest

/-- **An object of fields that are read one after the other is recovered.** -/
theorem recovers_record {ms : List (List Char)} {effects : List (σ → Except ArtifactFault σ)}
    (h : List.Forall₂ (Updates field) ms effects) {fuel : ℕ} (hf : (writeObject ms).length ≤ fuel)
    (start : σ) :
    Recovers (readRecord field start fuel) (writeObject ms) (afterFields effects start) := by
  have hlen : ms.length < fuel := by
    have := length_le_writeMembers ms
    simp only [writeObject, List.length_cons, List.length_append] at hf
    omega
  refine ⟨opens_cons rfl (by decide) (by decide), fun rest _ => ?_⟩
  have hhead (rest : Input) : readHead (some '\x7b' :: rest) = .ok (.object, rest) := rfl
  rw [writeObject, List.map_cons, List.cons_append, List.map_append, List.map_singleton,
    List.append_assoc, List.singleton_append, readRecord, hhead]
  exact readObject_first h hlen start rest

end Object

end Gabarit.Artifact
