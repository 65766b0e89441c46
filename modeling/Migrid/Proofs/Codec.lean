import Migrid.Python.Codec
import Migrid.Proofs.Numbers

namespace Migrid.Proofs.Codec
open Migrid Migrid.Proofs.Numbers

theorem toUInt8_toNat (n : Nat) : n.toUInt8.toNat = n % 256 := by
  simp [Nat.toUInt8, UInt8.ofNat, UInt8.toNat]

theorem byte_of_toNat {x : Nat} {a : UInt8} (h : x % 256 = a.toNat) : x.toUInt8 = a := by
  rw [byte_eq_iff, toUInt8_toNat, h]

/-! ### base64 -/

/-- The 64 characters of the alphabet: a2b_base64 reads each back as its value, and none
is the pad, a skipped character, or a dollar. -/
theorem b64Char_facts : ∀ v < 64,
    a2bTable (b64Char v) = some v ∧ b64Char v ≠ base64Pad ∧
      ¬(0x7f < b64Char v ∨ b64Char v = 13 ∨ b64Char v = 10 ∨ b64Char v = 32) ∧
      b64Char v ≠ 36 := by
  decide

/-- One character of the alphabet shifted into the decoder's state. -/
theorem a2b_char (hv : v < 64) :
    a2bBase64 (b64Char v :: rest) quadPos leftchar leftbits out =
      if 8 ≤ leftbits + 6 then
        a2bBase64 rest ((quadPos + 1) % 4) ((leftchar * 64 + v) % 2 ^ (leftbits + 6 - 8))
          (leftbits + 6 - 8) (out ++ [((leftchar * 64 + v) / 2 ^ (leftbits + 6 - 8) % 256).toUInt8])
      else a2bBase64 rest ((quadPos + 1) % 4) (leftchar * 64 + v) (leftbits + 6) out := by
  obtain ⟨h1, h2, h3, -⟩ := b64Char_facts v hv
  rw [a2bBase64, if_neg h3, if_neg h2, h1]

/-- A full quad decodes to its three bytes and leaves the state as it found it. -/
theorem a2b_quad (a b c : UInt8) (rest out : Bytes) :
    a2bBase64 (b64encode (a :: b :: c :: rest)) 0 0 0 out =
      a2bBase64 (b64encode rest) 0 0 0 (out ++ [a, b, c]) := by
  have ha := UInt8.toNat_lt_size a
  have hb := UInt8.toNat_lt_size b
  have hc := UInt8.toNat_lt_size c
  simp only [UInt8.size] at ha hb hc
  simp only [b64encode, List.cons_append, List.nil_append]
  rw [a2b_char (by omega), if_neg (by omega), a2b_char (by omega), if_pos (by omega),
    a2b_char (by omega), if_pos (by omega), a2b_char (by omega), if_pos (by omega)]
  simp only [Nat.reduceAdd, Nat.reduceSub, Nat.reducePow, Nat.reduceMod, Nat.mod_one,
    Nat.div_one, List.append_assoc, List.cons_append, List.nil_append]
  congr 1
  simp only [List.append_cancel_left_eq, List.cons.injEq, and_true]
  refine ⟨byte_of_toNat ?_, byte_of_toNat ?_, byte_of_toNat ?_⟩ <;> omega

/-- A pad at the third or fourth place of a quad, followed by a pad in the third place,
ends the input with what was written so far. -/
theorem a2b_pad (hq : 2 ≤ quadPos)
    (hv : quadPos = 2 → findValid (base64Pad :: rest) 1 = some base64Pad) :
    a2bBase64 (base64Pad :: rest) quadPos leftchar leftbits out = .ok out := by
  have hc : ¬(0x7f < base64Pad ∨ base64Pad = 13 ∨ base64Pad = 10 ∨ base64Pad = 32) := by decide
  rw [a2bBase64, if_neg hc, if_pos rfl, if_neg]
  rintro (h | ⟨h, hf⟩)
  · omega
  · exact hf (hv h)

/-- Two bytes padded with one '='. -/
theorem a2b_pair (a b : UInt8) (out : Bytes) :
    a2bBase64 (b64encode [a, b]) 0 0 0 out = .ok (out ++ [a, b]) := by
  have ha := UInt8.toNat_lt_size a
  have hb := UInt8.toNat_lt_size b
  simp only [UInt8.size] at ha hb
  simp only [b64encode]
  rw [a2b_char (by omega), if_neg (by omega), a2b_char (by omega), if_pos (by omega),
    a2b_char (by omega), if_pos (by omega), a2b_pad (by norm_num) (by norm_num)]
  simp only [Nat.reduceAdd, Nat.reduceSub, Nat.reducePow, Nat.reduceMod, List.append_assoc,
    List.cons_append, List.nil_append]
  congr 2
  simp only [List.cons.injEq, and_true]
  refine ⟨byte_of_toNat ?_, byte_of_toNat ?_⟩ <;> omega

/-- One byte padded with '=='. -/
theorem a2b_single (a : UInt8) (out : Bytes) :
    a2bBase64 (b64encode [a]) 0 0 0 out = .ok (out ++ [a]) := by
  have ha := UInt8.toNat_lt_size a
  simp only [UInt8.size] at ha
  simp only [b64encode]
  rw [a2b_char (by omega), if_neg (by omega), a2b_char (by omega), if_pos (by omega),
    a2b_pad (by norm_num) (fun _ => by decide)]
  simp only [Nat.reduceAdd, Nat.reduceSub, Nat.reducePow, Nat.reduceMod]
  congr 1
  simp only [List.append_cancel_left_eq, List.cons.injEq, and_true]
  exact byte_of_toNat (by omega)

theorem a2b_b64encode : ∀ x out : Bytes, a2bBase64 (b64encode x) 0 0 0 out = .ok (out ++ x)
  | a :: b :: c :: rest, out => by rw [a2b_quad, a2b_b64encode rest]; simp
  | [a, b], out => a2b_pair a b out
  | [a], out => a2b_single a out
  | [], out => by simp [b64encode, a2bBase64]

/-- b64decode undoes b64encode on every byte string. -/
theorem b64decode_b64encode (x : Bytes) : b64decode (b64encode x) = .ok x := by
  simpa using a2b_b64encode x []

/-- No dollar in base64 output, so it never adds a field to a '$'-separated record. -/
theorem b64encode_ne_dollar : ∀ x : Bytes, ∀ c ∈ b64encode x, c ≠ 36
  | a :: b :: c :: rest => by
    have ha := UInt8.toNat_lt_size a
    have hb := UInt8.toNat_lt_size b
    have hc := UInt8.toNat_lt_size c
    simp only [UInt8.size] at ha hb hc
    simp only [b64encode, List.cons_append, List.nil_append, List.forall_mem_cons]
    refine ⟨?_, ?_, ?_, ?_, b64encode_ne_dollar rest⟩ <;>
      exact (b64Char_facts _ (by omega)).2.2.2
  | [a, b] => by
    have ha := UInt8.toNat_lt_size a
    have hb := UInt8.toNat_lt_size b
    simp only [UInt8.size] at ha hb
    simp only [b64encode, List.forall_mem_cons, List.not_mem_nil, false_implies,
      implies_true, and_true]
    refine ⟨?_, ?_, ?_, by decide⟩ <;> exact (b64Char_facts _ (by omega)).2.2.2
  | [a] => by
    have ha := UInt8.toNat_lt_size a
    simp only [UInt8.size] at ha
    simp only [b64encode, List.forall_mem_cons, List.not_mem_nil, false_implies,
      implies_true, and_true]
    refine ⟨?_, ?_, by decide, by decide⟩ <;> exact (b64Char_facts _ (by omega)).2.2.2
  | [] => by simp [b64encode]

/-! ### base16 -/

/-- The hex digits b16encode writes, the high half of each byte first. -/
def hexDigitsOf (s : Bytes) : List Nat := s.flatMap fun c => [c.toNat / 16, c.toNat % 16]

/-- The big-endian value of a byte string. -/
def bytesValue (s : Bytes) : Nat := digitsValue 256 (s.map UInt8.toNat)

/-- A character b16decode accepts: 0 to 9 or A to F. -/
def hexUpper (c : UInt8) : Bool := (48 ≤ c && c ≤ 57) || (65 ≤ c && c ≤ 70)

@[simp] theorem hexDigitsOf_cons (c : UInt8) (s : Bytes) :
    hexDigitsOf (c :: s) = c.toNat / 16 :: c.toNat % 16 :: hexDigitsOf s := rfl

@[simp] theorem b16encode_cons (c : UInt8) (s : Bytes) :
    b16encode (c :: s) = digitChar (c.toNat / 16) :: digitChar (c.toNat % 16) :: b16encode s :=
  rfl

theorem b16encode_eq (s : Bytes) : b16encode s = (hexDigitsOf s).map digitChar := by
  induction s with
  | nil => rfl
  | cons c s ih => simp [ih]

theorem hexDigitsOf_lt (s : Bytes) : ∀ d ∈ hexDigitsOf s, d < 16 := by
  induction s with
  | nil => simp [hexDigitsOf]
  | cons c s ih =>
    have := UInt8.toNat_lt_size c
    simp only [hexDigitsOf_cons, List.forall_mem_cons]
    exact ⟨by simp only [UInt8.size] at this; omega, Nat.mod_lt _ (by omega), ih⟩

theorem hexDigitsOf_value (s : Bytes) : digitsValue 16 (hexDigitsOf s) = bytesValue s := by
  have key : ∀ acc, (hexDigitsOf s).foldl (fun n d => n * 16 + d) acc =
      (s.map UInt8.toNat).foldl (fun n d => n * 256 + d) acc := by
    induction s with
    | nil => intro acc; rfl
    | cons c s ih =>
      intro acc
      simp only [hexDigitsOf_cons, List.map_cons, List.foldl_cons, ← ih]
      congr 1
      omega
  exact key 0

/-- int(b16encode(s), 16) is the big-endian value of s, when s is not empty. -/
theorem pyInt_b16encode (hs : s ≠ []) : pyInt 16 (b16encode s) = some (bytesValue s) := by
  have hlt := hexDigitsOf_lt s
  have hcs : ∀ c ∈ (hexDigitsOf s).map digitChar, digitValue c < 16 := by
    simp only [List.mem_map, forall_exists_index, and_imp]
    rintro _ d hd rfl
    rw [digitValue_digitChar (hlt d hd)]
    exact hlt d hd
  have hne : (hexDigitsOf s).map digitChar ≠ [] := by
    obtain ⟨c, t, rfl⟩ := List.exists_cons_of_ne_nil hs
    simp
  rw [b16encode_eq, pyInt_digits (by norm_num) hcs hne (dropHexPrefix_of (digitChar_not_x hlt)),
    map_digitValue_digitChar hlt, hexDigitsOf_value]

theorem unhexlify_b16encode (s : Bytes) : unhexlify (b16encode s) = s := by
  induction s with
  | nil => rfl
  | cons c s ih =>
    have := UInt8.toNat_lt_size c
    simp only [UInt8.size] at this
    have hc : (c.toNat / 16 * 16 + c.toNat % 16).toUInt8 = c := byte_of_toNat (by omega)
    rw [b16encode_cons, unhexlify, digitValue_digitChar (by omega),
      digitValue_digitChar (Nat.mod_lt _ (by omega)), ih, hc]

theorem b16encode_hexUpper (s : Bytes) : ∀ c ∈ b16encode s, hexUpper c = true := by
  rw [b16encode_eq]
  simp only [List.mem_map, forall_exists_index, and_imp]
  rintro _ d hd rfl
  exact (digitChar_facts ⟨d, hexDigitsOf_lt s d hd⟩).2.2.2

theorem length_b16encode (s : Bytes) : (b16encode s).length = 2 * s.length := by
  induction s with
  | nil => rfl
  | cons c s ih => simp only [b16encode_cons, List.length_cons, ih]; omega

theorem b16decode_b16encode (s : Bytes) : b16decode (b16encode s) = .ok s := by
  have hany : ¬((b16encode s).any fun c => !hexUpper c) = true := by
    intro h
    obtain ⟨c, hc, h'⟩ := List.any_eq_true.mp h
    simp [b16encode_hexUpper s c hc] at h'
  simp only [hexUpper] at hany
  unfold b16decode
  rw [if_neg hany, if_neg (by rw [length_b16encode]; omega), unhexlify_b16encode]

theorem hexUpper_digit (h : hexUpper c = true) : digitValue c < 16 ∧ digitChar (digitValue c) = c := by
  simp only [hexUpper, Bool.or_eq_true, Bool.and_eq_true, decide_eq_true_eq, byte_le_iff,
    UInt8.reduceToNat] at h
  rcases h with ⟨h1, h2⟩ | ⟨h1, h2⟩
  · -- a decimal digit
    have hv : digitValue c = c.toNat - 48 := if_pos ⟨h1, h2⟩
    rw [hv, digitChar, if_pos (by omega)]
    exact ⟨by omega, byte_of_toNat (by omega)⟩
  · -- one of A to F
    have hv : digitValue c = c.toNat - 55 := by
      simp only [digitValue, byte_le_iff, UInt8.reduceToNat]
      rw [if_neg (by omega), if_neg (by omega), if_pos (by omega)]
    rw [hv, digitChar, if_neg (by omega)]
    exact ⟨by omega, byte_of_toNat (by omega)⟩

theorem b16encode_unhexlify :
    ∀ t : Bytes, (∀ c ∈ t, hexUpper c = true) → t.length % 2 = 0 → b16encode (unhexlify t) = t
  | d1 :: d2 :: rest, h, hl => by
    obtain ⟨h1, e1⟩ := hexUpper_digit (h d1 (by simp))
    obtain ⟨h2, e2⟩ := hexUpper_digit (h d2 (by simp))
    have hv : (digitValue d1 * 16 + digitValue d2).toUInt8.toNat = digitValue d1 * 16 + digitValue d2 := by
      rw [toUInt8_toNat]; omega
    rw [unhexlify, b16encode_cons, hv,
      b16encode_unhexlify rest (fun c hc => h c (by simp [hc])) (by simp at hl; omega)]
    rw [show (digitValue d1 * 16 + digitValue d2) / 16 = digitValue d1 by omega,
      show (digitValue d1 * 16 + digitValue d2) % 16 = digitValue d2 by omega, e1, e2]
  | [_], _, hl => by simp at hl
  | [], _, _ => rfl

/-- What b16decode accepts is exactly what b16encode writes. -/
theorem b16decode_eq_ok : b16decode t = .ok s ↔ t = b16encode s := by
  constructor
  · intro h
    unfold b16decode at h
    split at h
    · cases h
    · rename_i hany
      split at h
      · cases h
      · rename_i hodd
        cases h
        refine (b16encode_unhexlify t ?_ (by omega)).symm
        intro c hc
        by_contra hc'
        refine hany (List.any_eq_true.mpr ⟨c, hc, ?_⟩)
        show (!hexUpper c) = true
        simpa using hc'
  · rintro rfl
    exact b16decode_b16encode s

end Migrid.Proofs.Codec
