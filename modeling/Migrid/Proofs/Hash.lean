import Migrid.Proofs.Cache
import Migrid.Proofs.Codec
import Mathlib.Data.Nat.Bitwise

namespace Migrid.Proofs.Hash
open Migrid Migrid.Proofs.Numbers Migrid.Proofs.Codec Migrid.Proofs.Cache

/-! ### The constant-time comparison -/

theorem lor_eq_zero {a b : Nat} : a ||| b = 0 ↔ a = 0 ∧ b = 0 := by
  refine ⟨fun h => ?_, fun ⟨ha, hb⟩ => by simp [ha, hb]⟩
  have hbit : ∀ i, a.testBit i = false ∧ b.testBit i = false := fun i => by
    simpa [Nat.testBit_or] using congrArg (Nat.testBit · i) h
  exact ⟨Nat.eq_of_testBit_eq fun i => by simp [(hbit i).1],
    Nat.eq_of_testBit_eq fun i => by simp [(hbit i).2]⟩

theorem foldl_lor_eq_zero (f : α → Nat) (l : List α) (acc : Nat) :
    l.foldl (fun diff p => diff ||| f p) acc = 0 ↔ acc = 0 ∧ ∀ p ∈ l, f p = 0 := by
  induction l generalizing acc with
  | nil => simp
  | cons p l ih => simp [ih, lor_eq_zero, and_assoc]

theorem zip_toNat_eq {a b : Bytes} (hab : a.length = b.length) :
    (∀ x y, (x, y) ∈ a.zip b → x.toNat = y.toNat) ↔ a = b := by
  induction a generalizing b with
  | nil => cases b <;> simp_all
  | cons x a ih =>
    cases b with
    | nil => simp at hab
    | cons y b =>
      simp only [List.zip_cons_cons, List.mem_cons, Prod.mk.injEq, List.cons.injEq, ← byte_eq_iff,
        ← ih (Nat.succ.inj hab)]
      constructor
      · intro h; exact ⟨h x y (.inl ⟨rfl, rfl⟩), fun u v huv => h u v (.inr huv)⟩
      · rintro ⟨rfl, h⟩ u v (⟨rfl, rfl⟩ | huv)
        · rfl
        · exact h u v huv

/-- diff stays 0 exactly when the two keys agree. -/
theorem diffBytes_eq_zero (hab : a.length = b.length) : diffBytes a b = 0 ↔ a = b :=
  (foldl_lor_eq_zero (fun p : UInt8 × UInt8 => p.1.toNat ^^^ p.2.toNat) _ 0).trans
    (by simp [zip_toNat_eq hab])

/-! ### The stored record -/

theorem pySplit_record (hh : 36 ∉ h) (hc : 36 ∉ c) (hs : 36 ∉ s) (hk : 36 ∉ k) :
    pySplit 36 (str "PBKDF2$" ++ h ++ str "$" ++ c ++ str "$" ++ s ++ str "$" ++ k) =
      [str "PBKDF2", h, c, s, k] := by
  have hjoin : str "PBKDF2$" ++ h ++ str "$" ++ c ++ str "$" ++ s ++ str "$" ++ k =
      [36].intercalate [str "PBKDF2", h, c, s, k] := by
    simp [List.intercalate]
    rfl
  have htag : (36 : UInt8) ∉ str "PBKDF2" := by decide
  rw [pySplit, hjoin]
  exact List.splitOn_intercalate _ 36 (by simp [*]) (by simp)

/-- A record of five fields under the PBKDF2 tag: check_hash re-derives the key with the
hash function, cost and salt the record carries, and compares it with the stored key. -/
theorem hashMatch_record (hsplit : pySplit 36 stored = [str "PBKDF2", h, c, s, k])
    (hk : b64decode k = .ok key) (hc : pyInt 10 c = some n) (hh : hashlib.has h = true) :
    hashMatch hashlib pbkdf2 password (some stored) =
      .ok (decide (pbkdf2.bin password s n key.length h = key)) := by
  have hlen := pbkdf2.length_bin password s n key.length h
  simp only [hashMatch, hsplit, hk, pyIntE, hc, hh, hlen, ne_eq, not_true_eq_false, if_false,
    Bool.not_true, Bool.false_eq_true]
  congr 1
  rw [Bool.eq_iff_iff, beq_iff_eq, diffBytes_eq_zero hlen.symm, decide_eq_true_iff, eq_comm]

/-! ### check_hash -/

theorem checkHash_miss (hmiss : cacheHit hashCache (hashlib.md5 password) hashed = false)
    (hpolicy : strictPolicy = true →
      assurePasswordStrength cracklib configuration password allowLegacy = .ok true) :
    (checkHash hashlib pbkdf2 cracklib configuration password hashed hashCache strictPolicy
      allowLegacy).1 = hashMatch hashlib pbkdf2 password hashed :=
  cachedCheck_miss hmiss (gate_open hpolicy)

theorem checkHash_record (hh : 36 ∉ h) (hs : 36 ∉ s) (hc : pyInt 10 c = some n)
    (hhas : hashlib.has h = true)
    (hmiss : cacheHit hashCache (hashlib.md5 password)
      (some (str "PBKDF2$" ++ h ++ str "$" ++ c ++ str "$" ++ s ++ str "$" ++ b64encode key)) = false)
    (hpolicy : strictPolicy = true →
      assurePasswordStrength cracklib configuration password allowLegacy = .ok true) :
    (checkHash hashlib pbkdf2 cracklib configuration password
      (some (str "PBKDF2$" ++ h ++ str "$" ++ c ++ str "$" ++ s ++ str "$" ++ b64encode key))
      hashCache strictPolicy allowLegacy).1 =
      .ok (decide (pbkdf2.bin password s n key.length h = key)) := by
  rw [checkHash_miss hmiss hpolicy]
  exact hashMatch_record
    (pySplit_record hh (pyInt_ten_dollar hc) hs fun hm => b64encode_ne_dollar key 36 hm rfl)
    (b64decode_b64encode key) hc hhas

theorem makeHash_eq (pbkdf2 : Pbkdf2) (password urandom : Bytes) :
    makeHash pbkdf2 password urandom =
      str "PBKDF2$" ++ hashFunction ++ str "$" ++ pyStr costFactor ++ str "$" ++
        b64encode urandom ++ str "$" ++
        b64encode (pbkdf2.bin password (b64encode urandom) costFactor keyLength hashFunction) :=
  rfl

/-- check_hash re-derives with the parameters its record carries, not the current ones, and
accepts exactly when the derived key is the stored one. make_hash stores the key pbkdf2_bin
derives from the password and the base64 salt, so check_hash accepts every password against the
hash make_hash made of it. -/
theorem checkHash_pbkdf2 :
    (∀ (hashlib : Hashlib) (pbkdf2 : Pbkdf2) cracklib configuration password (h c s key : Bytes)
        (n : Int) hashCache strictPolicy allowLegacy,
      36 ∉ h → 36 ∉ s → pyInt 10 c = some n → hashlib.has h = true →
      cacheHit hashCache (hashlib.md5 password)
        (some (str "PBKDF2$" ++ h ++ str "$" ++ c ++ str "$" ++ s ++ str "$" ++ b64encode key)) =
          false →
      (strictPolicy = true →
        assurePasswordStrength cracklib configuration password allowLegacy = .ok true) →
      (checkHash hashlib pbkdf2 cracklib configuration password
        (some (str "PBKDF2$" ++ h ++ str "$" ++ c ++ str "$" ++ s ++ str "$" ++ b64encode key))
        hashCache strictPolicy allowLegacy).1 =
        .ok (decide (pbkdf2.bin password s n key.length h = key))) ∧
    (∀ (hashlib : Hashlib) (pbkdf2 : Pbkdf2) cracklib configuration password urandom hashCache
        strictPolicy allowLegacy,
      makeHash pbkdf2 password urandom =
          str "PBKDF2$" ++ hashFunction ++ str "$" ++ pyStr costFactor ++ str "$" ++
            b64encode urandom ++ str "$" ++
            b64encode (pbkdf2.bin password (b64encode urandom) costFactor keyLength hashFunction) ∧
        (cacheHit hashCache (hashlib.md5 password) (some (makeHash pbkdf2 password urandom)) = false →
          (strictPolicy = true →
            assurePasswordStrength cracklib configuration password allowLegacy = .ok true) →
          (checkHash hashlib pbkdf2 cracklib configuration password
            (some (makeHash pbkdf2 password urandom)) hashCache strictPolicy allowLegacy).1 = .ok true)) := by
  refine ⟨fun _ _ _ _ _ _ _ _ _ _ _ _ _ hh hs hc hhas hmiss hpolicy =>
    checkHash_record hh hs hc hhas hmiss hpolicy, fun hashlib pbkdf2 _ _ password urandom _ _ _ =>
    ⟨makeHash_eq pbkdf2 password urandom, fun hmiss hpolicy => ?_⟩⟩
  rw [makeHash_eq] at hmiss ⊢
  rw [checkHash_record (by decide) (fun hm => b64encode_ne_dollar urandom 36 hm rfl)
    (show pyInt 10 (pyStr costFactor) = some costFactor from
      pyInt_render (by norm_num) (by norm_num) _) hashlib.has_hashFunction hmiss hpolicy,
    pbkdf2.length_bin]
  simp

/-- A hashlib that knows every name, with md5 and sha256 the identity. -/
def sampleHashlib : Hashlib := ⟨id, id, fun _ => true, rfl⟩

/-- A pbkdf2_bin that derives keylen zero bytes. -/
def samplePbkdf2 : Pbkdf2 :=
  ⟨fun _ _ _ keylen _ => List.replicate keylen 0, fun _ _ _ _ _ => List.length_replicate _ _⟩

theorem checkHash_pbkdf2_sample :
    (checkHash sampleHashlib samplePbkdf2 none ⟨policyNone, [], false, []⟩ (str "pw")
      (some (str "PBKDF2$" ++ str "sha256" ++ str "$" ++ str "10" ++ str "$" ++ str "salt" ++
        str "$" ++ b64encode [0, 0])) none false false).1 =
      .ok (decide (samplePbkdf2.bin (str "pw") (str "salt") 10 2 (str "sha256") = [0, 0])) ∧
    (checkHash sampleHashlib samplePbkdf2 none ⟨policyNone, [], false, []⟩ (str "pw")
      (some (makeHash samplePbkdf2 (str "pw") (str "0123456789ab"))) none true false).1 =
      .ok true :=
  ⟨checkHash_pbkdf2.1 _ _ _ _ _ _ _ _ _ 10 _ _ _ (by decide) (by decide) (by decide) rfl rfl
    (fun h => absurd h Bool.false_ne_true),
   (checkHash_pbkdf2.2 _ _ _ _ _ _ _ _ _).2 rfl (fun _ => by decide)⟩

/-- check_hash accepts a password against its own make_hash record, whatever the cache holds,
once the policy gate lets it through. -/
theorem checkHash_makeHash {strictPolicy allowLegacy : Bool}
    (hpolicy : strictPolicy = true →
      assurePasswordStrength cracklib configuration password allowLegacy = .ok true)
    (hashlib : Hashlib) (pbkdf2 : Pbkdf2) (urandom : Bytes) (hashCache : Option Cache) :
    (checkHash hashlib pbkdf2 cracklib configuration password (some (makeHash pbkdf2 password urandom))
      hashCache strictPolicy allowLegacy).1 = .ok true := by
  cases hhit : cacheHit hashCache (hashlib.md5 password) (some (makeHash pbkdf2 password urandom))
  · rw [makeHash_eq] at hhit ⊢
    rw [checkHash_record (by decide) (fun hm => b64encode_ne_dollar urandom 36 hm rfl)
      (show pyInt 10 (pyStr costFactor) = some costFactor from
        pyInt_render (by norm_num) (by norm_num) _) hashlib.has_hashFunction hhit hpolicy,
      pbkdf2.length_bin]
    simp
  · simp only [checkHash, cachedCheck, hhit, if_true]

/-! ### Records with an empty key -/

/-- A record whose key decodes to nothing: check_hash derives zero bytes, the comparison
loop runs zero times, and any password is accepted. -/
theorem checkHash_empty_key :
    ∀ (hashlib : Hashlib) (pbkdf2 : Pbkdf2) cracklib configuration password
        (stored h c s k : Bytes) (n : Int) hashCache strictPolicy allowLegacy,
      pySplit 36 stored = [str "PBKDF2", h, c, s, k] → b64decode k = .ok [] →
      pyInt 10 c = some n → hashlib.has h = true →
      cacheHit hashCache (hashlib.md5 password) (some stored) = false →
      (strictPolicy = true →
        assurePasswordStrength cracklib configuration password allowLegacy = .ok true) →
      (checkHash hashlib pbkdf2 cracklib configuration password (some stored) hashCache
        strictPolicy allowLegacy).1 = .ok true := by
  intro hashlib pbkdf2 _ _ password _ h _ s _ n _ _ _ hsplit hk hc hhas hmiss hpolicy
  rw [checkHash_miss hmiss hpolicy, hashMatch_record hsplit hk hc hhas]
  simpa using pbkdf2.length_bin password s n 0 h

theorem checkHash_empty_key_sample :
    (checkHash sampleHashlib samplePbkdf2 none ⟨policyNone, [], false, []⟩ (str "pw")
      (some (str "PBKDF2$sha256$10000$c2FsdA==$")) none true false).1 = .ok true :=
  checkHash_empty_key _ _ _ _ _ _ (str "sha256") (str "10000") (str "c2FsdA==") [] 10000 _ _ _
    (by decide) (by decide) (by decide) rfl rfl
    (fun _ => by decide)

/-- A record cut after the salt authenticates a password it was never made from. -/
theorem checkHash_truncated_record :
    (checkHash sampleHashlib samplePbkdf2 none ⟨policyNone, [], false, []⟩ (str "anything")
      (some (str "PBKDF2$sha256$10000$c2FsdA==$")) none false false).1 = .ok true := by
  decide

/-! ### Stored strings check_hash cannot parse -/

/-- The stored strings lines 130 to 134 of check_hash parse: five '$'-fields under the PBKDF2
tag, a hash function name hashlib has, a cost int() reads, a salt, and a key b64decode
reads. -/
def Parses (hashlib : Hashlib) (stored : Bytes) : Prop :=
  ∃ h c s k key n, pySplit 36 stored = [str "PBKDF2", h, c, s, k] ∧ hashlib.has h = true ∧
    pyInt 10 c = some n ∧ b64decode k = .ok key

/-- The parse and the comparison raise exactly on the strings they cannot parse. -/
theorem hashMatch_raises_iff (hashlib : Hashlib) (pbkdf2 : Pbkdf2) (password stored : Bytes) :
    raises (hashMatch hashlib pbkdf2 password (some stored)) = true ↔ ¬ Parses hashlib stored := by
  constructor
  · rintro hr ⟨h, c, s, k, key, n, hsplit, hh, hc, hk⟩
    rw [hashMatch_record hsplit hk hc hh] at hr
    cases hr
  · intro hn
    simp only [hashMatch]
    split
    · next algorithm hashFunction costFactor salt hashA hsplit =>
      by_cases ha : algorithm = str "PBKDF2"
      · subst ha
        rw [if_neg (not_not.mpr rfl)]
        cases hk : b64decode hashA with
        | error e => rfl
        | ok key =>
          cases hc : pyIntE 10 costFactor with
          | error e => rfl
          | ok n =>
            by_cases hh : hashlib.has hashFunction = true
            · exact absurd ⟨_, _, _, _, key, n, hsplit, hh, pyIntE_ok.mp hc, hk⟩ hn
            · simp [hh]
      · rw [if_pos ha]; rfl
    · rfl

/-- Without a cache hit, check_hash answers False when strict_policy is set and the policy
refuses the password. Otherwise it returns the comparison for a record it parses, and it
raises exactly on the stored strings it cannot parse. -/
theorem checkHash_no_hit :
    ∀ (hashlib : Hashlib) (pbkdf2 : Pbkdf2) cracklib configuration password (stored : Bytes)
        hashCache strictPolicy allowLegacy,
      cacheHit hashCache (hashlib.md5 password) (some stored) = false →
      ((strictPolicy && raises (assurePasswordStrength cracklib configuration password
          allowLegacy)) = true →
        (checkHash hashlib pbkdf2 cracklib configuration password (some stored) hashCache
          strictPolicy allowLegacy).1 = .ok false) ∧
      ((strictPolicy && raises (assurePasswordStrength cracklib configuration password
          allowLegacy)) = false →
        (∀ h c s k key n, pySplit 36 stored = [str "PBKDF2", h, c, s, k] →
          hashlib.has h = true → pyInt 10 c = some n → b64decode k = .ok key →
          (checkHash hashlib pbkdf2 cracklib configuration password (some stored) hashCache
            strictPolicy allowLegacy).1 = .ok (decide (pbkdf2.bin password s n key.length h = key))) ∧
        (raises (checkHash hashlib pbkdf2 cracklib configuration password (some stored) hashCache
            strictPolicy allowLegacy).1 = true ↔ ¬ Parses hashlib stored)) := by
  intro hashlib pbkdf2 cracklib configuration password stored hashCache strictPolicy allowLegacy hmiss
  have hcheck := cachedCheck_fst hashCache (hashlib.md5 password) (some stored)
    (strictPolicy && raises (assurePasswordStrength cracklib configuration password allowLegacy))
    (hashMatch hashlib pbkdf2 password (some stored))
  rw [hmiss, if_neg Bool.false_ne_true, cachedCheck_none] at hcheck
  refine ⟨fun hrej => by rw [checkHash, hcheck, if_pos hrej], fun hrej => ?_⟩
  rw [checkHash, hcheck, if_neg (by rw [hrej]; exact Bool.false_ne_true)]
  exact ⟨fun h c s k key n hsplit hh hc hk => hashMatch_record hsplit hk hc hh,
    hashMatch_raises_iff hashlib pbkdf2 password stored⟩

theorem checkHash_no_hit_abc :
    raises (checkHash sampleHashlib samplePbkdf2 none ⟨policyNone, [], false, []⟩ (str "pw")
        (some (str "abc")) none false false).1 = true ∧ ¬ Parses sampleHashlib (str "abc") :=
  have h := (checkHash_no_hit sampleHashlib samplePbkdf2 none ⟨policyNone, [], false, []⟩
    (str "pw") (str "abc") none false false rfl).2 rfl
  ⟨by decide, h.2.mp (by decide)⟩

/-- A stored string that does not split into five fields raises from the tuple unpacking,
and a record that puts the cost before the hash name raises from int(). -/
theorem checkHash_raises_malformed :
    (checkHash sampleHashlib samplePbkdf2 none ⟨policyNone, [], false, []⟩ (str "pw")
        (some (str "abc")) none true false).1 = .error (.valueError "need more than 1 value to unpack") ∧
      raises (checkHash sampleHashlib samplePbkdf2 none ⟨policyNone, [], false, []⟩ (str "pw")
        (some (str "PBKDF2$10000$sha256$c2FsdA==$AAA=")) none true false).1 = true := by
  decide

end Migrid.Proofs.Hash
