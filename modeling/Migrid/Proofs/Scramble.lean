import Migrid.Proofs.Hash

namespace Migrid.Proofs.Scramble
open Migrid Migrid.Proofs.Numbers Migrid.Proofs.Codec Migrid.Proofs.Cache Migrid.Proofs.Hash

/-! ### XOR of two hex ints -/

theorem xor_cancel (a b : Int) : Int.xor a (Int.xor a b) = b := by
  cases a <;> cases b <;> simp [Int.xor, Nat.xor_cancel_left]

theorem xor_injective (a : Int) : Function.Injective (Int.xor a) := fun b c h => by
  rw [← xor_cancel a b, h, xor_cancel]

theorem xorHex_of (ha : pyInt 16 a = some x) (hb : pyInt 16 b = some y) :
    xorHex a b = .ok (Int.xor x y) := by
  simp [xorHex, pyIntE, ha, hb]
  rfl

theorem pyInt_formatX (n : Int) : pyInt 16 (formatX n) = some n :=
  pyInt_render (by norm_num) le_rfl n

theorem formatX_injective : Function.Injective formatX := fun a b h =>
  Option.some.inj ((pyInt_formatX a).symm.trans (h ▸ pyInt_formatX b))

theorem formatX_natCast (n : Nat) : formatX n = (bigDigits 16 n).map digitChar := by
  simp [formatX, render]

theorem map_digitChar_inj {L M : List Nat} (hL : ∀ d ∈ L, d < 16) (hM : ∀ d ∈ M, d < 16) :
    L.map digitChar = M.map digitChar ↔ L = M := by
  refine ⟨fun h => ?_, congrArg _⟩
  rw [← map_digitValue_digitChar hL, h, map_digitValue_digitChar hM]

/-- '{0:X}' of the value of x writes b16encode(x) back exactly when no leading zero digit is
lost: x is not empty and its first byte is at least 0x10. -/
theorem formatX_bytesValue (x : Bytes) :
    formatX (bytesValue x) = b16encode x ↔ 16 ≤ (x.headD 0).toNat := by
  rw [formatX_natCast, b16encode_eq, map_digitChar_inj (bigDigits_lt (by norm_num) _)
    (hexDigitsOf_lt x), ← hexDigitsOf_value]
  cases x with
  | nil => simpa using bigDigits_ne_nil 16 _
  | cons c s =>
    have hlt := hexDigitsOf_lt (c :: s)
    rw [hexDigitsOf_cons] at hlt ⊢
    simp only [List.headD_cons]
    constructor
    · intro h
      by_contra hc
      rw [show c.toNat / 16 = 0 by omega] at h
      cases bigDigits_head_zero (by norm_num) h
    · intro hc
      exact bigDigits_digitsValue (by norm_num) (by omega) hlt

/-! ### Values of byte strings -/

theorem bytesValue_zero_cons (s : Bytes) : bytesValue (0 :: s) = bytesValue s := by
  simp [bytesValue, digitsValue]

theorem bytesValue_dropWhile (s : Bytes) : bytesValue (s.dropWhile (· == 0)) = bytesValue s := by
  induction s with
  | nil => rfl
  | cons c s ih =>
    by_cases hc : c = 0
    · subst hc
      rw [List.dropWhile_cons_of_pos (by decide), ih, bytesValue_zero_cons]
    · rw [List.dropWhile_cons_of_neg (by simpa using hc)]

theorem bigDigits_bytesValue (hd : d ≠ 0) (ds : Bytes) :
    bigDigits 256 (bytesValue (d :: ds)) = (d :: ds).map UInt8.toNat := by
  refine bigDigits_digitsValue (by norm_num) ?_ fun x hx => ?_
  · exact Nat.pos_of_ne_zero fun h => hd (byte_eq_iff.mpr h)
  · rw [← List.map_cons] at hx
    obtain ⟨c, -, rfl⟩ := List.mem_map.mp hx
    exact UInt8.toNat_lt_size c

theorem bytesValue_ne_zero (hd : d ≠ 0) (ds : Bytes) : bytesValue (d :: ds) ≠ 0 := by
  intro h0
  have := bigDigits_bytesValue hd ds
  rw [h0] at this
  exact hd (byte_eq_iff.mpr (List.cons.inj this).1.symm)

/-- Without leading NULs, the value of a byte string determines it. -/
theorem bytesValue_inj (hp : ∀ c ∈ p.head?, c ≠ 0) (hq : ∀ c ∈ q.head?, c ≠ 0)
    (h : bytesValue p = bytesValue q) : p = q := by
  cases p with
  | nil =>
    cases q with
    | nil => rfl
    | cons e es => exact absurd h.symm (bytesValue_ne_zero (hq e rfl) es)
  | cons d ds =>
    cases q with
    | nil => exact absurd h (bytesValue_ne_zero (hp d rfl) ds)
    | cons e es =>
      have := bigDigits_bytesValue (hp d rfl) ds
      rw [h, bigDigits_bytesValue (hq e rfl)] at this
      exact (List.map_injective_iff.mpr fun a b => UInt8.toNat.inj).eq_iff.mp this.symm

theorem head_dropWhile_ne (s : Bytes) : ∀ c ∈ (s.dropWhile (· == 0)).head?, c ≠ 0 := by
  intro c hc
  have := List.head?_dropWhile_not (· == 0) s
  rw [Option.mem_def.mp hc] at this
  simpa using this

/-- Two byte strings have the same value exactly when they agree after their leading NULs. -/
theorem bytesValue_eq_iff : bytesValue p = bytesValue q ↔ p.dropWhile (· == 0) = q.dropWhile (· == 0) := by
  refine ⟨fun h => bytesValue_inj (head_dropWhile_ne p) (head_dropWhile_ne q) ?_, fun h => ?_⟩
  · rw [bytesValue_dropWhile, bytesValue_dropWhile, h]
  · rw [← bytesValue_dropWhile p, h, bytesValue_dropWhile]

/-! ### The digest scrambler -/

section
variable {salt : Bytes} {S : Int}

theorem scrambleDigest_ok (hs : pyInt 16 salt = some S) (hx : x ≠ []) :
    scrambleDigest salt x = .ok (formatX (Int.xor S (bytesValue x))) := by
  simp only [scrambleDigest, xorHex_of hs (pyInt_b16encode hx)]
  rfl

/-- int('', 16) fails, so nothing scrambles the empty string. -/
theorem scrambleDigest_nil (salt : Bytes) : ∃ e, scrambleDigest salt [] = .error e := by
  have hnil : pyInt 16 (b16encode []) = none := rfl
  cases hs : pyInt 16 salt <;> exact ⟨_, by simp only [scrambleDigest, xorHex, pyIntE, hs, hnil]; rfl⟩

theorem unscrambleDigest_formatX (hs : pyInt 16 salt = some S) (n : Int) :
    unscrambleDigest salt (formatX n) = b16decode (formatX (Int.xor S n)) := by
  simp only [unscrambleDigest, xorHex_of hs (pyInt_formatX n)]
  rfl

theorem digest_round_trip (hs : pyInt 16 salt = some S) (x : Bytes) :
    (scrambleDigest salt x >>= unscrambleDigest salt) = .ok x ↔ 16 ≤ (x.headD 0).toNat := by
  by_cases hx : x = []
  · obtain ⟨e, he⟩ := scrambleDigest_nil salt
    subst hx
    rw [he]
    simp only [List.headD_nil]
    exact ⟨fun h => Except.noConfusion h, fun h => absurd h (by decide)⟩
  · rw [scrambleDigest_ok hs hx]
    show unscrambleDigest salt _ = _ ↔ _
    rw [unscrambleDigest_formatX hs, xor_cancel, b16decode_eq_ok, formatX_bytesValue]

theorem scrambleDigest_eq_iff (hs : pyInt 16 salt = some S) (hp : p ≠ []) (hq : q ≠ []) :
    scrambleDigest salt p = scrambleDigest salt q ↔ p.dropWhile (· == 0) = q.dropWhile (· == 0) := by
  rw [scrambleDigest_ok hs hp, scrambleDigest_ok hs hq, Except.ok.injEq, formatX_injective.eq_iff,
    (xor_injective S).eq_iff, Nat.cast_inj, bytesValue_eq_iff]

end

/-! ### The password scrambler -/

theorem scramblePassword_of_ne (hs : salt ≠ []) (x : Bytes) :
    scramblePassword salt x = scrambleDigest salt x := by
  simp [scramblePassword, scrambleDigest, hs]

theorem unscramblePassword_of_ne (hs : salt ≠ []) (y : Bytes) :
    unscramblePassword salt y = unscrambleDigest salt y := by
  simp [unscramblePassword, unscrambleDigest, hs]

theorem makeScramble_nil_eq_iff : makeScramble p [] = makeScramble q [] ↔ p = q := by
  refine ⟨fun h => ?_, congrArg _⟩
  have hb : b64encode p = b64encode q := Except.ok.inj h
  exact Except.ok.inj ((b64decode_b64encode p).symm.trans (hb ▸ b64decode_b64encode q))

theorem checkScramble_miss
    (hmiss : cacheHit scrambleCache password (some scrambled) = false)
    (hpolicy : strictPolicy = true →
      assurePasswordStrength cracklib configuration password allowLegacy = .ok true) :
    (checkScramble cracklib configuration password (some scrambled) salt scrambleCache strictPolicy
      allowLegacy).1 = .ok true ↔ makeScramble password salt = .ok scrambled := by
  rw [checkScramble, cachedCheck_miss hmiss (by rw [Bool.and_comm]; exact gate_open hpolicy)]
  cases makeScramble password salt <;> simp [Functor.map, Except.map]

/-- Base64 round-trips every password. A hex salt round-trips exactly the strings that are
not empty and do not start below 0x10, for passwords and digests alike, and identifies
passwords only up to leading NULs; check_scramble accepts exactly the passwords that
scramble to the stored value. -/
theorem scramble_unscramble :
    (∀ x, (scramblePassword [] x >>= unscramblePassword []) = .ok x) ∧
    (∀ salt S x, salt ≠ [] → pyInt 16 salt = some S →
      ((scramblePassword salt x >>= unscramblePassword salt) = .ok x ↔
        16 ≤ (x.headD 0).toNat)) ∧
    (∀ salt S x, pyInt 16 salt = some S →
      ((scrambleDigest salt x >>= unscrambleDigest salt) = .ok x ↔ 16 ≤ (x.headD 0).toNat)) ∧
    (∀ p q, makeScramble p [] = makeScramble q [] ↔ p = q) ∧
    (∀ salt S p q, salt ≠ [] → pyInt 16 salt = some S → p ≠ [] → q ≠ [] →
      (makeScramble p salt = makeScramble q salt ↔
        p.dropWhile (· == 0) = q.dropWhile (· == 0))) ∧
    (∀ cracklib configuration p q salt scrambled scrambleCache strictPolicy allowLegacy,
      makeScramble p salt = .ok scrambled →
      cacheHit scrambleCache q (some scrambled) = false →
      (strictPolicy = true →
        assurePasswordStrength cracklib configuration q allowLegacy = .ok true) →
      ((checkScramble cracklib configuration q (some scrambled) salt scrambleCache strictPolicy
        allowLegacy).1 = .ok true ↔ makeScramble q salt = makeScramble p salt)) := by
  refine ⟨fun x => b64decode_b64encode x, fun salt S x hne hs => ?_, fun _ _ x hs =>
    digest_round_trip hs x, fun _ _ => makeScramble_nil_eq_iff, fun salt S p q hne hs hp hq => ?_,
    fun _ _ _ q salt _ _ _ _ hp hmiss hpolicy => by rw [checkScramble_miss hmiss hpolicy, hp]⟩
  · have hfun : unscramblePassword salt = unscrambleDigest salt :=
      funext (unscramblePassword_of_ne hne)
    rw [scramblePassword_of_ne hne, hfun, digest_round_trip hs]
  · simp only [makeScramble, scramblePassword_of_ne hne]
    exact scrambleDigest_eq_iff hs hp hq

theorem scramble_unscramble_ff :
    (scramblePassword (str "ff") (str "A") >>= unscramblePassword (str "ff")) = .ok (str "A") ∧
      (scrambleDigest (str "ff") (str "A") >>= unscrambleDigest (str "ff")) = .ok (str "A") ∧
      (makeScramble (str "Ab") (str "ff") = makeScramble (str "Ab") (str "ff")) ∧
      ((checkScramble none ⟨policyNone, [], false, []⟩ (str "A") (some (str "BE")) (str "ff") none
        false false).1 = .ok true) :=
  ⟨(scramble_unscramble.2.1 _ 255 _ (by decide) (by decide)).mpr (by decide),
    (scramble_unscramble.2.2.1 _ 255 _ (by decide)).mpr (by decide),
    (scramble_unscramble.2.2.2.2.1 _ 255 _ _ (by decide) (by decide) (by decide) (by decide)).mpr rfl,
    (scramble_unscramble.2.2.2.2.2 none _ (str "A") (str "A") _ _ none false false (by decide) rfl
      (fun h => absurd h Bool.false_ne_true)).mpr rfl⟩

/-- A password whose first byte is below 0x10 scrambles to an even run of hex digits that
unscrambling reads back with an odd number of them, and raises; a leading NUL is lost, so two
passwords scramble alike. -/
theorem scramble_leading_zero :
    scramblePassword (str "ff") [1] = .ok (str "FE") ∧
      unscramblePassword (str "ff") (str "FE") = .error (.typeError "Odd-length string") ∧
      makeScramble [0, 65] (str "ff") = makeScramble [65] (str "ff") := by
  decide

/-! ### make_digest and check_digest -/

theorem pyJoin_creds (realm username password : Bytes) :
    pyJoin (str ":") [realm, username, password] = realm ++ [58] ++ (username ++ [58] ++ password) := by
  simp [pyJoin, List.intercalate]
  rfl

theorem creds_ne_nil : pyJoin (str ":") [realm, username, password] ≠ [] := by
  simp [pyJoin_creds]

/-- The separator after the realm is not a NUL, so leading NULs come only from the realm. -/
theorem dropWhile_creds (realm username password : Bytes) :
    (pyJoin (str ":") [realm, username, password]).dropWhile (· == 0) =
      (realm ++ [58]).dropWhile (· == 0) ++ (username ++ [58] ++ password) := by
  have hne : ((realm ++ [58]).dropWhile (· == 0)).isEmpty = false := by
    rw [Bool.eq_false_iff, ne_eq, List.isEmpty_iff, List.dropWhile_eq_nil_iff]
    intro h
    exact absurd (h 58 (by simp)) (by decide)
  rw [pyJoin_creds, List.dropWhile_append, hne, if_neg Bool.false_ne_true]

theorem makeDigest_ok (hs : pyInt 16 salt = some S) (realm username password : Bytes) :
    makeDigest realm username password salt =
      .ok (str "DIGEST$custom$CONFSALT$" ++
        formatX (Int.xor S (bytesValue (pyJoin (str ":") [realm, username, password])))) := by
  simp only [makeDigest, scrambleDigest_ok hs creds_ne_nil]
  rfl

/-- For a fixed realm and username, make_digest determines the password. -/
theorem makeDigest_eq_iff (hs : pyInt 16 salt = some S) (realm username p q : Bytes) :
    makeDigest realm username q salt = makeDigest realm username p salt ↔ q = p := by
  rw [makeDigest_ok hs, makeDigest_ok hs, Except.ok.injEq, List.append_cancel_left_eq,
    formatX_injective.eq_iff, (xor_injective S).eq_iff, Nat.cast_inj, bytesValue_eq_iff,
    dropWhile_creds, dropWhile_creds, List.append_cancel_left_eq, List.append_cancel_left_eq]

theorem checkDigest_miss
    (hmiss : cacheHit digestCache (hashlib.md5 (pyJoin (str ":") [realm, username, password]))
      digest = false)
    (hpolicy : strictPolicy = true →
      assurePasswordStrength cracklib configuration password allowLegacy = .ok true) :
    (checkDigest hashlib cracklib configuration realm username password digest salt digestCache
      strictPolicy allowLegacy).1 =
      (fun made => some made == digest) <$> makeDigest realm username password salt :=
  cachedCheck_miss hmiss (by rw [Bool.and_comm]; exact gate_open hpolicy)

/-- Under a hex salt make_digest succeeds, and check_digest accepts the digest for exactly
the password it was made from. -/
theorem checkDigest_makeDigest :
    ∀ (hashlib : Hashlib) cracklib configuration (realm username p q salt : Bytes) (S : Int)
        digestCache strictPolicy allowLegacy,
      pyInt 16 salt = some S →
      ∃ d, makeDigest realm username p salt = .ok d ∧
        (cacheHit digestCache (hashlib.md5 (pyJoin (str ":") [realm, username, q])) (some d) =
            false →
          (strictPolicy = true →
            assurePasswordStrength cracklib configuration q allowLegacy = .ok true) →
          (checkDigest hashlib cracklib configuration realm username q (some d) salt digestCache
            strictPolicy allowLegacy).1 = .ok (decide (q = p))) := by
  intro _ _ _ realm username p q salt S _ _ _ hs
  refine ⟨_, makeDigest_ok hs realm username p, fun hmiss hpolicy => ?_⟩
  have hqp := makeDigest_eq_iff hs realm username p q
  rw [makeDigest_ok hs, makeDigest_ok hs, Except.ok.injEq] at hqp
  rw [checkDigest_miss hmiss hpolicy, makeDigest_ok hs]
  show Except.ok _ = _
  rw [Except.ok.injEq, Bool.eq_iff_iff, beq_iff_eq, Option.some.injEq, decide_eq_true_iff, hqp]

theorem checkDigest_makeDigest_ff :
    makeDigest (str "r") (str "u") (str "pw") (str "ff") =
        .ok (str "DIGEST$custom$CONFSALT$" ++ formatX (Int.xor 255 (bytesValue (str "r:u:pw")))) ∧
      (checkDigest sampleHashlib none ⟨policyNone, [], false, []⟩ (str "r") (str "u") (str "pw")
        (some (str "DIGEST$custom$CONFSALT$" ++ formatX (Int.xor 255 (bytesValue (str "r:u:pw")))))
        (str "ff") none false false).1 = .ok true := by
  obtain ⟨d, hd, hcheck⟩ := checkDigest_makeDigest sampleHashlib none ⟨policyNone, [], false, []⟩
    (str "r") (str "u") (str "pw") (str "pw") (str "ff") 255 none false false (by decide)
  have hd' : d = str "DIGEST$custom$CONFSALT$" ++ formatX (Int.xor 255 (bytesValue (str "r:u:pw"))) :=
    Except.ok.inj (hd.symm.trans (by decide))
  subst hd'
  exact ⟨hd, (hcheck rfl (fun h => absurd h Bool.false_ne_true)).trans (by decide)⟩

end Migrid.Proofs.Scramble
