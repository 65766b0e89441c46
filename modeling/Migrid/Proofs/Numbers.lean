import Migrid.Python.Text

namespace Migrid.Proofs.Numbers
open Migrid

/-! ### Digit lists -/

theorem digitsValue_append (b : Nat) (ds : List Nat) (d : Nat) :
    digitsValue b (ds ++ [d]) = digitsValue b ds * b + d := by
  simp [digitsValue, List.foldl_append]

theorem digitsValue_reverse (b : Nat) (L : List Nat) :
    digitsValue b L.reverse = Nat.ofDigits b L := by
  induction L with
  | nil => rfl
  | cons d L ih => rw [List.reverse_cons, digitsValue_append, ih, Nat.ofDigits_cons,
      Nat.mul_comm, Nat.add_comm]

theorem digitsFuel_eq (hb : 2 ≤ b) : ∀ fuel n, n < fuel →
    digitsFuel b fuel n = if n = 0 then [0] else (Nat.digits b n).reverse
  | 0, n, h => absurd h (Nat.not_lt_zero n)
  | fuel + 1, n, h => by
    unfold digitsFuel
    split
    · rename_i hn
      rcases Nat.eq_zero_or_pos n with rfl | hpos
      · rfl
      · simp [Nat.digits_of_lt b n hpos.ne' hn, hpos.ne']
    · rename_i hn
      have hlt : n / b < n := Nat.div_lt_self (by omega) (by omega)
      have hq : n / b ≠ 0 := (Nat.div_pos (by omega) (by omega)).ne'
      rw [digitsFuel_eq hb fuel (n / b) (by omega), if_neg hq, if_neg (show n ≠ 0 by omega),
        @Nat.digits_def' b (by omega) n (by omega), List.reverse_cons]

/-- What Python prints is the reversed digit list of Nat.digits, and 0 for zero. -/
theorem bigDigits_eq (hb : 2 ≤ b) (n : Nat) :
    bigDigits b n = if n = 0 then [0] else (Nat.digits b n).reverse :=
  digitsFuel_eq hb (n + 1) n (Nat.lt_succ_self n)

theorem bigDigits_value (hb : 2 ≤ b) (n : Nat) : digitsValue b (bigDigits b n) = n := by
  rw [bigDigits_eq hb]
  split
  · subst_vars; simp [digitsValue]
  · rw [digitsValue_reverse, Nat.ofDigits_digits]

theorem bigDigits_lt (hb : 2 ≤ b) (n : Nat) : ∀ d ∈ bigDigits b n, d < b := by
  rw [bigDigits_eq hb]
  split
  · simp only [List.mem_singleton]; omega
  · exact fun d hd => Nat.digits_lt_base (by omega) (List.mem_reverse.mp hd)

theorem bigDigits_ne_nil (b n : Nat) : bigDigits b n ≠ [] := by
  unfold bigDigits digitsFuel
  split <;> simp

/-- A printed number starts with a zero only when it is zero. -/
theorem bigDigits_head_zero (hb : 2 ≤ b) (h : bigDigits b n = 0 :: ds) : ds = [] := by
  rw [bigDigits_eq hb] at h
  split at h
  · exact (List.cons.inj h).2.symm
  · rename_i hn
    have hl := Nat.getLast_digit_ne_zero b hn
    have he : (Nat.digits b n).getLast? = some 0 := by
      rw [← List.head?_reverse, h]; rfl
    rw [List.getLast?_eq_getLast _ (Nat.digits_ne_nil_iff_ne_zero.mpr hn)] at he
    exact absurd (Option.some.inj he) hl

/-- A digit list without a leading zero is exactly what Python prints for its value. -/
theorem bigDigits_digitsValue (hb : 2 ≤ b) (hd : 0 < d) (hl : ∀ x ∈ d :: ds, x < b) :
    bigDigits b (digitsValue b (d :: ds)) = d :: ds := by
  have hL : Nat.digits b (Nat.ofDigits b (d :: ds).reverse) = (d :: ds).reverse :=
    Nat.digits_ofDigits b (by omega) _ (fun x hx => hl x (List.mem_reverse.mp hx))
      (fun _ => by simp; omega)
  have hne : Nat.ofDigits b (d :: ds).reverse ≠ 0 := by
    intro h0
    rw [h0, Nat.digits_zero] at hL
    simp at hL
  rw [← digitsValue_reverse, List.reverse_reverse] at hL hne
  rw [bigDigits_eq hb, if_neg hne, hL, List.reverse_reverse]

/-! ### Characters of digits -/

theorem digitValue_lt (h : digitValue c < 37) :
    (48 ≤ c.toNat ∧ c.toNat ≤ 57) ∨ (97 ≤ c.toNat ∧ c.toNat ≤ 122) ∨
      (65 ≤ c.toNat ∧ c.toNat ≤ 90) := by
  unfold digitValue at h
  simp only [byte_le_iff, UInt8.reduceToNat] at h
  split_ifs at h <;> omega

theorem digit_not_space (hb : b ≤ 36) (h : digitValue c < b) : isSpace c = false := by
  have := digitValue_lt (show digitValue c < 37 by omega)
  rw [Bool.eq_false_iff, ne_eq, isSpace_iff]
  omega

theorem takeSign_digit (hb : b ≤ 36) (h : digitValue c < b) : takeSign (c :: t) = (false, c :: t) := by
  have := digitValue_lt (show digitValue c < 37 by omega)
  have h43 : c ≠ 43 := by rw [ne_eq, byte_eq_iff]; simp only [UInt8.reduceToNat]; omega
  have h45 : c ≠ 45 := by rw [ne_eq, byte_eq_iff]; simp only [UInt8.reduceToNat]; omega
  unfold takeSign
  split <;> simp_all

/-- The sixteen digit characters: their value, that none is an x, and that each is one
of the characters b16decode accepts. -/
theorem digitChar_facts : ∀ i : Fin 16,
    digitValue (digitChar i) = i ∧ digitChar i ≠ 120 ∧ digitChar i ≠ 88 ∧
      ((48 ≤ digitChar i && digitChar i ≤ 57) || (65 ≤ digitChar i && digitChar i ≤ 70)) = true := by
  decide

theorem digitValue_digitChar (h : d < 16) : digitValue (digitChar d) = d :=
  (digitChar_facts ⟨d, h⟩).1

theorem dropHexPrefix_of (hx : ∀ c ∈ cs, c ≠ 120 ∧ c ≠ 88) : dropHexPrefix b cs = cs := by
  unfold dropHexPrefix
  split
  · rename_i x t
    have := hx x (by simp)
    simp_all
  · rfl

/-! ### int() of digit strings -/

theorem unsignedValue_digits (hb : b ≤ 36) (hcs : ∀ c ∈ cs, digitValue c < b) (hne : cs ≠ [])
    (hpre : dropHexPrefix b cs = cs) :
    unsignedValue b cs = some (digitsValue b (cs.map digitValue)) := by
  obtain ⟨c, t, rfl⟩ := List.exists_cons_of_ne_nil hne
  have hsp : (c :: t).dropWhile isSpace = c :: t := by
    simp [List.dropWhile_cons, digit_not_space hb (hcs c (List.mem_cons_self c t))]
  have htake : (c :: t).takeWhile (fun c => decide (digitValue c < b)) = c :: t :=
    List.takeWhile_eq_self_iff.mpr (by simpa using hcs)
  have hdrop : (c :: t).dropWhile (fun c => decide (digitValue c < b)) = [] :=
    List.dropWhile_eq_nil_iff.mpr (by simpa using hcs)
  simp [unsignedValue, hsp, hpre, htake, hdrop]

/-- A run of digits below the base, not behind 0x, reads back as its value. -/
theorem pyInt_digits (hb : b ≤ 36) (hcs : ∀ c ∈ cs, digitValue c < b) (hne : cs ≠ [])
    (hpre : dropHexPrefix b cs = cs) :
    pyInt b cs = some (digitsValue b (cs.map digitValue)) := by
  obtain ⟨c, t, rfl⟩ := List.exists_cons_of_ne_nil hne
  have hc := hcs c (List.mem_cons_self c t)
  simp [pyInt, List.dropWhile_cons, digit_not_space hb hc, takeSign_digit hb hc,
    unsignedValue_digits hb hcs hne hpre]

/-- The same run behind a minus sign reads back as the negated value. -/
theorem pyInt_neg_digits (hb : b ≤ 36) (hcs : ∀ c ∈ cs, digitValue c < b) (hne : cs ≠ [])
    (hpre : dropHexPrefix b cs = cs) :
    pyInt b (str "-" ++ cs) = some (-(digitsValue b (cs.map digitValue) : Int)) := by
  have hsign : takeSign ((str "-" ++ cs).dropWhile isSpace) = (true, cs) := rfl
  simp [pyInt, hsign, unsignedValue_digits hb hcs hne hpre]

theorem map_digitValue_digitChar {ds : List Nat} (h : ∀ d ∈ ds, d < 16) :
    (ds.map digitChar).map digitValue = ds := by
  rw [List.map_map]
  conv_rhs => rw [← List.map_id ds]
  exact List.map_congr_left fun d hd => digitValue_digitChar (h d hd)

theorem digitChar_not_x {ds : List Nat} (h : ∀ d ∈ ds, d < 16) : ∀ c ∈ ds.map digitChar, c ≠ 120 ∧ c ≠ 88 := by
  simp only [List.mem_map, forall_exists_index, and_imp]
  rintro _ d hd rfl
  exact ⟨(digitChar_facts ⟨d, h d hd⟩).2.1, (digitChar_facts ⟨d, h d hd⟩).2.2.1⟩

/-- int() reads back every int that str() or '%X' printed. -/
theorem pyInt_render (hb2 : 2 ≤ b) (hb : b ≤ 16) (n : Int) : pyInt b (render b n) = some n := by
  have hlt := bigDigits_lt hb2 n.natAbs
  have hlt16 : ∀ d ∈ bigDigits b n.natAbs, d < 16 := fun d hd => by have := hlt d hd; omega
  have hcs : ∀ c ∈ (bigDigits b n.natAbs).map digitChar, digitValue c < b := by
    simp only [List.mem_map, forall_exists_index, and_imp]
    rintro _ d hd rfl
    rw [digitValue_digitChar (hlt16 d hd)]
    exact hlt d hd
  have hne : (bigDigits b n.natAbs).map digitChar ≠ [] := by simp [bigDigits_ne_nil]
  have hpre := dropHexPrefix_of (b := b) (digitChar_not_x hlt16)
  have hval := bigDigits_value hb2 n.natAbs
  rw [← map_digitValue_digitChar hlt16] at hval
  unfold render
  split
  · rw [pyInt_neg_digits (by omega) hcs hne hpre, hval]
    congr 1; omega
  · rw [List.nil_append, pyInt_digits (by omega) hcs hne hpre, hval]
    exact congrArg some (Int.natAbs_of_nonneg (by omega))

/-! ### What int() accepts -/

/-- The characters int() may meet in a literal it accepts. -/
def intChar (base : Nat) (c : UInt8) : Bool :=
  isSpace c || c == 43 || c == 45 || c == 48 || c == 120 || c == 88 || decide (digitValue c < base)

theorem mem_dropHexPrefix (base : Nat) (hc : c ∈ s) : c ∈ dropHexPrefix base s ∨ c = 48 ∨ c = 120 ∨ c = 88 := by
  unfold dropHexPrefix
  split
  · split_ifs with hx
    · simp only [List.mem_cons] at hc
      rcases hc with rfl | rfl | hc
      · exact .inr (.inl rfl)
      · rcases hx with rfl | rfl <;> simp
      · exact .inl hc
    · exact .inl hc
  · exact .inl hc

theorem mem_takeSign (hc : c ∈ s) : c ∈ (takeSign s).2 ∨ c = 43 ∨ c = 45 := by
  unfold takeSign
  split <;> simp only [List.mem_cons] at hc ⊢ <;> tauto

theorem unsignedValue_chars (h : unsignedValue base s = some n) : ∀ c ∈ s, intChar base c = true := by
  intro c hc
  unfold unsignedValue at h
  dsimp only at h
  split_ifs at h with hbad
  have htail := (Bool.or_eq_false_iff.mp (Bool.eq_false_iff.mpr hbad)).2
  rw [Bool.not_eq_false', List.all_eq_true] at htail
  rw [← List.takeWhile_append_dropWhile isSpace s, List.mem_append] at hc
  rcases hc with hc | hc
  · simp [intChar, List.mem_takeWhile_imp hc]
  rcases mem_dropHexPrefix base hc with hc | hc | hc | hc
  · rw [← List.takeWhile_append_dropWhile (fun c => decide (digitValue c < base)) (dropHexPrefix _ _), List.mem_append] at hc
    rcases hc with hc | hc
    · simp [intChar, by simpa using List.mem_takeWhile_imp hc]
    · simp [intChar, htail c hc]
  all_goals simp [intChar, hc]

/-- Every character of a literal int() accepts is a blank, a sign, a digit below the base,
or part of a 0x prefix. -/
theorem pyInt_chars (h : pyInt base s = some n) : ∀ c ∈ s, intChar base c = true := by
  intro c hc
  unfold pyInt at h
  rcases hts : takeSign (s.dropWhile isSpace) with ⟨negative, rest⟩
  rw [hts] at h
  obtain ⟨m, hm⟩ : ∃ m, unsignedValue base rest = some m := by
    cases hu : unsignedValue base rest
    · simp [hu] at h
    · exact ⟨_, rfl⟩
  rw [← List.takeWhile_append_dropWhile isSpace s, List.mem_append] at hc
  rcases hc with hc | hc
  · simp [intChar, List.mem_takeWhile_imp hc]
  rcases mem_takeSign hc with hc | rfl | rfl
  · rw [hts] at hc
    exact unsignedValue_chars hm c hc
  all_goals rfl

theorem pyInt_ten_dollar (h : pyInt 10 s = some n) : 36 ∉ s :=
  fun hc => absurd (pyInt_chars h 36 hc) (by decide)

theorem pyIntE_ok : pyIntE b s = .ok n ↔ pyInt b s = some n := by
  unfold pyIntE
  split <;> simp_all

/-- A literal int() reads holds no colon. -/
theorem pyInt_ten_colon (h : pyInt 10 s = some n) : 58 ∉ s :=
  fun hc => absurd (pyInt_chars h 58 hc) (by decide)

end Migrid.Proofs.Numbers
