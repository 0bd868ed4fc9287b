import Gabarit.Charset.Basic
import Gabarit.Proofs.Text.Lines

/-!
# Reading what is written in UTF-8

* `step_encodeChar`: the bytes of a character are read as that character;
* **`symbols_encode`**: the bytes of a text are read as its characters, without stray bytes;
* `decode_encode`, `decodeFile_encode`: and so is a file with these bytes, if its lines end in line feeds.
-/

namespace Gabarit.Utf8

theorem continueChar_zero (low high value read : ℕ) (rest : List UInt8) :
    continueChar 0 low high value read rest = .char (Char.ofNat value) rest := rfl

/-- A byte of continuation gives six bits more. -/
theorem continueChar_succ {low high k : ℕ} (count value read : ℕ) (rest : List UInt8) (hk : k < 64)
    (hlow : low ≤ 0x80 + k) (hhigh : 0x80 + k ≤ high) :
    continueChar (count + 1) low high value read (.ofNat (0x80 + k) :: rest) =
      continueChar count 0x80 0xBF (value * 64 + k) (read + 1) rest := by
  have hb : (UInt8.ofNat (0x80 + k)).toNat = 0x80 + k := by
    rw [UInt8.toNat_ofNat']
    omega
  simp only [continueChar, hb]
  rw [if_pos ⟨hlow, hhigh⟩, Nat.add_sub_cancel_left]

theorem step_of_shape {b low high count : ℕ} {rest : List UInt8} (hb : 0x80 ≤ b) (hb' : b < 256)
    (h : shape? b = some (low, high, count)) :
    step (.ofNat b) rest = continueChar count low high (leadBits count b) 1 rest := by
  have hn : (UInt8.ofNat b).toNat = b := by
    rw [UInt8.toNat_ofNat']
    omega
  simp only [step, hn, h]
  rw [if_neg (by omega)]

theorem shape?_two {b : ℕ} (h : 0xC2 ≤ b) (h' : b ≤ 0xDF) : shape? b = some (0x80, 0xBF, 1) := by
  rw [shape?, if_pos ⟨h, h'⟩]

theorem shape?_three {b : ℕ} (h : 0xE0 ≤ b) (h' : b ≤ 0xEF) :
    shape? b = some (if b = 0xE0 then 0xA0 else 0x80, if b = 0xED then 0x9F else 0xBF, 2) := by
  rw [shape?, if_neg (by omega)]
  split_ifs <;> first | rfl | omega

theorem shape?_four {b : ℕ} (h : 0xF0 ≤ b) (h' : b ≤ 0xF4) :
    shape? b = some (if b = 0xF0 then 0x90 else 0x80, if b = 0xF4 then 0x8F else 0xBF, 3) := by
  rw [shape?, if_neg (by omega), if_neg (by omega), if_neg (by omega), if_neg (by omega)]
  split_ifs <;> first | rfl | omega

theorem step_encodeChar (c : Char) (rest : List UInt8) :
    ∃ b bs, encodeChar c = b :: bs ∧ step b (bs ++ rest) = .char c rest := by
  have hvalid := c.valid
  simp only [UInt32.isValidChar, Nat.isValidChar] at hvalid
  change c.toNat < 0xD800 ∨ 0xDFFF < c.toNat ∧ c.toNat < 0x110000 at hvalid
  have hc : Char.ofNat c.toNat = c := Char.ofNat_toNat c
  simp only [encodeChar]
  generalize c.toNat = n at hvalid hc
  split_ifs with h1 h2 h3
  · refine ⟨_, _, rfl, ?_⟩
    have hn : (UInt8.ofNat n).toNat = n := by
      rw [UInt8.toNat_ofNat']
      omega
    simp only [step, hn, if_pos h1, hc, List.nil_append]
  · refine ⟨_, _, rfl, ?_⟩
    rw [step_of_shape (by omega) (by omega) (shape?_two (by omega) (by omega)), List.cons_append,
      continueChar_succ _ _ _ _ (by omega) (by omega) (by omega), continueChar_zero]
    have hvalue : leadBits 1 (0xC0 + n / 64) * 64 + n / 1 % 64 = n := by
      simp only [leadBits, if_pos]
      omega
    rw [hvalue, hc, List.nil_append]
  · refine ⟨_, _, rfl, ?_⟩
    rw [step_of_shape (by omega) (by omega) (shape?_three (by omega) (by omega)), List.cons_append,
      continueChar_succ _ _ _ _ (by omega) (by split_ifs <;> omega) (by split_ifs <;> omega),
      List.cons_append, continueChar_succ _ _ _ _ (by omega) (by omega) (by omega),
      continueChar_zero]
    have hvalue : (leadBits 2 (0xE0 + n / 4096) * 64 + n / 64 % 64) * 64 + n / 1 % 64 = n := by
      have hlead : leadBits 2 (0xE0 + n / 4096) = n / 4096 := by simp [leadBits]
      omega
    rw [hvalue, hc, List.nil_append]
  · refine ⟨_, _, rfl, ?_⟩
    rw [step_of_shape (by omega) (by omega) (shape?_four (by omega) (by omega)), List.cons_append,
      continueChar_succ _ _ _ _ (by omega) (by split_ifs <;> omega) (by split_ifs <;> omega),
      List.cons_append, continueChar_succ _ _ _ _ (by omega) (by omega) (by omega),
      List.cons_append, continueChar_succ _ _ _ _ (by omega) (by omega) (by omega),
      continueChar_zero]
    have hvalue : ((leadBits 3 (0xF0 + n / 262144) * 64 + n / 4096 % 64) * 64 + n / 64 % 64) * 64 +
        n / 1 % 64 = n := by
      have hlead : leadBits 3 (0xF0 + n / 262144) = n / 262144 := by simp [leadBits]
      omega
    rw [hvalue, hc, List.nil_append]

theorem step_encode (c : Char) (cs : List Char) :
    ∃ b rest, encode (c :: cs) = b :: rest ∧ step b rest = .char c (encode cs) := by
  obtain ⟨b, bs, hb, hstep⟩ := step_encodeChar c (encode cs)
  refine ⟨b, bs ++ encode cs, ?_, hstep⟩
  rw [encode, List.flatMap_cons, hb, List.cons_append]
  rfl

theorem length_encode_lt (c : Char) (cs : List Char) : (encode cs).length < (encode (c :: cs)).length := by
  obtain ⟨b, bs, hb, -⟩ := step_encodeChar c []
  rw [encode, encode, List.flatMap_cons, hb, List.length_append, List.length_cons]
  omega

theorem symbolsFrom_encode (cs : List Char) {fuel : ℕ} (hf : (encode cs).length < fuel) :
    symbolsFrom fuel (encode cs) = cs.map some := by
  induction cs generalizing fuel with
  | nil =>
    obtain _ | fuel := fuel
    · omega
    · rfl
  | cons c cs ih =>
    have hlength := length_encode_lt c cs
    obtain ⟨b, rest, hb, hstep⟩ := step_encode c cs
    rw [hb] at hf hlength ⊢
    obtain _ | fuel := fuel
    · omega
    rw [symbolsFrom, hstep]
    exact congrArg (some c :: ·) (ih (by omega))

/-- **The bytes of a text are read as its characters.** -/
theorem symbols_encode (cs : List Char) : symbols (encode cs) = cs.map some :=
  symbolsFrom_encode cs (Nat.lt_succ_self _)

theorem decodeFrom_encode (cs : List Char) {fuel : ℕ} (hf : (encode cs).length < fuel) (place : ℕ) :
    decodeFrom fuel place (encode cs) = .ok cs := by
  induction cs generalizing fuel place with
  | nil =>
    obtain _ | fuel := fuel
    · omega
    · rfl
  | cons c cs ih =>
    have hlength := length_encode_lt c cs
    obtain ⟨b, rest, hb, hstep⟩ := step_encode c cs
    rw [hb] at hf hlength ⊢
    obtain _ | fuel := fuel
    · omega
    rw [decodeFrom, hstep]
    dsimp only
    rw [ih (by omega)]
    rfl

theorem decode_encode (cs : List Char) : decode (encode cs) = .ok cs :=
  decodeFrom_encode cs (Nat.lt_succ_self _) 0

end Gabarit.Utf8

namespace Gabarit

/-- A file in UTF-8 is read as the text with its bytes. -/
theorem Charset.decodeFile_encode {cs : List Char} (h : '\r' ∉ cs) :
    (Charset.utf8 false).decodeFile (Utf8.encode cs) = .ok cs := by
  rw [decodeFile, if_neg (by simp), decode, decodeUtf8, Utf8.decode_encode]
  simp only [Except.mapError, bind, Except.bind, markLength, Text.unifyLines_eq_self h]
  rfl

end Gabarit
