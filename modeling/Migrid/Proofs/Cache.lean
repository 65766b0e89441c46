import Migrid.Pwhash.Check

namespace Migrid.Proofs.Cache
open Migrid

/-! ### One call -/

/-- With no cache, the policy gate or the recomputation answers. -/
theorem cachedCheck_none (fp : Bytes) (stored : Option Bytes) (rejected : Bool)
    (recompute : Except PyError Bool) :
    (cachedCheck none fp stored rejected recompute).1 =
      if rejected then .ok false else recompute := by
  simp only [cachedCheck, cacheHit_none, Bool.false_eq_true, if_false]
  split_ifs
  · rfl
  · split <;> rfl

/-- A cache only adds the hit: without one, the call answers as with no cache. -/
theorem cachedCheck_fst (cache : Option Cache) (fp : Bytes) (stored : Option Bytes)
    (rejected : Bool) (recompute : Except PyError Bool) :
    (cachedCheck cache fp stored rejected recompute).1 =
      if cacheHit cache fp stored then .ok true
      else (cachedCheck none fp stored rejected recompute).1 := by
  rw [cachedCheck_none]
  unfold cachedCheck
  split_ifs
  · rfl
  · rfl
  · split <;> rfl

theorem cachedCheck_miss (hmiss : cacheHit cache fp stored = false) (hrej : rejected = false) :
    (cachedCheck cache fp stored rejected recompute).1 = recompute := by
  rw [cachedCheck_fst, hmiss, cachedCheck_none, hrej]
  rfl

/-- The policy gate stays open when the policy passes or is not enforced. -/
theorem gate_open {x : Except PyError Bool} (h : strictPolicy = true → x = .ok true) :
    (strictPolicy && raises x) = false := by
  cases strictPolicy
  · rfl
  · rw [h rfl]; rfl

/-- Everything a call can do to the cache: leave it, or record its stored value under its
fingerprint after a miss, an open gate and a confirmed match. -/
theorem cachedCheck_snd (cache : Option Cache) (fp : Bytes) (stored : Option Bytes)
    (rejected : Bool) (recompute : Except PyError Bool) :
    (cachedCheck cache fp stored rejected recompute).2 = cache ∨
      (cacheHit cache fp stored = false ∧ rejected = false ∧ recompute = .ok true ∧
        (cachedCheck cache fp stored rejected recompute).2 = cacheRecord cache fp stored) := by
  unfold cachedCheck
  split_ifs with hhit hrej
  · exact .inl rfl
  · exact .inl rfl
  · rcases recompute with _ | (_ | _)
    · exact .inl rfl
    · exact .inl rfl
    · exact .inr ⟨by simpa using hhit, by simpa using hrej, rfl, rfl⟩

/-- A call answers True only on a hit, or through an open gate and a confirmed match. -/
theorem cachedCheck_true (h : (cachedCheck cache fp stored rejected recompute).1 = .ok true) :
    cacheHit cache fp stored = true ∨ (rejected = false ∧ recompute = .ok true) := by
  rw [cachedCheck_fst, cachedCheck_none] at h
  split_ifs at h with hhit hrej
  · exact .inl hhit
  · cases h
  · exact .inr ⟨by simpa using hrej, h⟩

/-- A password the high policy refuses, checked once with strict_policy off, then passes a
strict check from the cache the first call filled. -/
theorem strict_check_after_lenient :
    (runLookups (([⟨str "a", some (str "YQ=="), [], false, false⟩,
        ⟨str "a", some (str "YQ=="), [], true, false⟩] : List ScrambleCall).map
        (ScrambleCall.lookup none ⟨policyHigh, [], false, []⟩)) (some ∅)).1 =
        [.ok true, .ok true] ∧
      raises (assurePasswordStrength none ⟨policyHigh, [], false, []⟩ (str "a") false) = true := by
  decide

/-- With a stored string, a cache hit is exactly an entry for that string: the call answers
True when the call with no cache does, or when the cache maps its fingerprint to the string. -/
theorem cachedCheck_refines (c : Cache) (fp s : Bytes) (rejected : Bool)
    (recompute : Except PyError Bool) :
    (cachedCheck (some c) fp (some s) rejected recompute).1 = .ok true ↔
      (cachedCheck none fp (some s) rejected recompute).1 = .ok true ∨
        c.lookup fp = some (some s) := by
  have hhit : cacheHit (some c) fp (some s) = true ↔ c.lookup fp = some (some s) := by
    rcases hl : c.lookup fp with _ | _ | v <;> simp [cacheHit, Cache.get, hl]
  rw [cachedCheck_fst]
  split_ifs with h
  · simp [hhit.mp h]
  · simp [hhit.not.mp h]

/-- A stored None meets the None that get returns for an absent key: an empty cache grants
the call that fails without it. -/
theorem cached_none_grants :
    (checkScramble none ⟨policyNone, [], false, []⟩ (str "pw") none [] (some ∅) true false).1 =
        .ok true ∧
      (checkScramble none ⟨policyNone, [], false, []⟩ (str "pw") none [] none true false).1 =
        .ok false ∧
      (∅ : Cache).lookup (str "pw") = none := by
  decide

/-! ### Runs -/

theorem runLookups_append (qs : List Lookup) (q : Lookup) (cache : Option Cache) :
    (runLookups (qs ++ [q]) cache).2 = (q.check (runLookups qs cache).2).2 := by
  induction qs generalizing cache with
  | nil => rfl
  | cons q' qs ih => exact ih _

section
variable {pre qs : List Lookup} {cache : Option Cache} {q : Lookup}

/-- Every entry of the cache was recorded by one of the calls qs, for the fingerprint that
call presented, with that call's stored value, after its full recomputation matched. -/
def Confirmed (qs : List Lookup) (cache : Option Cache) : Prop :=
  ∀ c, cache = some c → ∀ fp v, c.lookup fp = some v →
    ∃ q ∈ qs, q.fp = fp ∧ q.stored = v ∧ q.recompute = .ok true

theorem confirmed_empty : Confirmed [] (some ∅) := by
  rintro c ⟨⟩ fp v h
  simp at h

theorem Confirmed.mono (h : Confirmed qs cache) (hsub : qs ⊆ qs') : Confirmed qs' cache :=
  fun c hc fp v hv => (h c hc fp v hv).imp fun _ ⟨hq, rest⟩ => ⟨hsub hq, rest⟩

theorem Confirmed.check (h : Confirmed qs cache) (q : Lookup) :
    Confirmed (qs ++ [q]) (q.check cache).2 := by
  have hmono := h.mono (List.subset_append_left qs [q])
  rcases cachedCheck_snd cache q.fp q.stored q.rejected q.recompute with hsame | ⟨-, -, hok, hrec⟩
  · rwa [Lookup.check, hsame]
  · rw [Lookup.check, hrec]
    cases cache with
    | none => rintro c ⟨⟩
    | some c =>
      rintro _ ⟨⟩ fp v hv
      by_cases hfp : q.fp = fp
      · subst hfp
        rw [AList.lookup_insert] at hv
        exact ⟨q, by simp, rfl, Option.some.inj hv, hok⟩
      · rw [AList.lookup_insert_ne (Ne.symm hfp)] at hv
        exact hmono c rfl fp v hv

/-- Whatever calls came before, the cache only holds what they confirmed. -/
theorem Confirmed.run (h : Confirmed pre cache) (qs : List Lookup) :
    Confirmed (pre ++ qs) (runLookups qs cache).2 := by
  induction qs generalizing pre cache with
  | nil => simpa using h
  | cons q qs ih => simpa using ih (h.check q)

/-- A call with a stored string answers True only after its own recomputation matched, or
on an entry an earlier call confirmed for its fingerprint and that string. -/
theorem Confirmed.true (h : Confirmed pre cache) (hs : q.stored = some s)
    (htrue : (q.check cache).1 = .ok true) :
    q.recompute = .ok true ∨
      ∃ q' ∈ pre, q'.fp = q.fp ∧ q'.stored = some s ∧ q'.recompute = .ok true := by
  rcases cachedCheck_true htrue with hhit | ⟨-, hok⟩
  · right
    cases cache with
    | none => cases hhit
    | some c =>
      have hget : c.get q.fp = some s := by simpa [cacheHit, hs] using hhit
      exact h c rfl q.fp (some s) (Option.join_eq_some.mp hget)
  · exact .inl hok

/-- What a run of calls sharing one cache dict that starts empty guarantees: every entry
was confirmed by one of its calls, and a call with a stored string answers True only after
its own recomputation matched or on an entry an earlier call confirmed. -/
def Provenance (calls : List Lookup) : Prop :=
  Confirmed calls (runLookups calls (some ∅)).2 ∧
    ∀ pre q post s, calls = pre ++ q :: post → q.stored = some s →
      (q.check (runLookups pre (some ∅)).2).1 = .ok true →
      q.recompute = .ok true ∨
        ∃ q' ∈ pre, q'.fp = q.fp ∧ q'.stored = some s ∧ q'.recompute = .ok true

theorem provenance_run (calls : List Lookup) : Provenance calls :=
  ⟨by simpa using confirmed_empty.run calls, fun pre _ _ _ _ hs htrue =>
    (by simpa using confirmed_empty.run pre : Confirmed pre _).true hs htrue⟩

end

/-- check_hash, check_digest and check_scramble each write an entry only for the credential
they were given and only after its full recomputation matched. -/
theorem cache_provenance :
    (∀ hashlib pbkdf2 cracklib configuration (calls : List HashCall),
      Provenance (calls.map (HashCall.lookup hashlib pbkdf2 cracklib configuration))) ∧
    (∀ hashlib cracklib configuration (calls : List DigestCall),
      Provenance (calls.map (DigestCall.lookup hashlib cracklib configuration))) ∧
    (∀ cracklib configuration (calls : List ScrambleCall),
      Provenance (calls.map (ScrambleCall.lookup cracklib configuration))) :=
  ⟨fun _ _ _ _ _ => provenance_run _, fun _ _ _ _ => provenance_run _,
    fun _ _ _ => provenance_run _⟩

/-! ### The cache as a memo -/

/-- Whether a call answers True with no cache: its gate is open and its recomputation matched. -/
def confirms (q : Lookup) : Bool := (q.check none).1 == .ok true

/-- The abstract cache after some calls: for each fingerprint, the stored value of the last
call that confirmed it, None when none did. -/
def memo (calls : List Lookup) (fp : Bytes) : Option Bytes :=
  ((calls.filter fun q => confirms q && q.fp == fp).getLast?).bind Lookup.stored

/-- The abstract run: a call answers True when the memo of the calls before it holds its
stored value, and otherwise as it would with no cache. -/
def memoRun (pre : List Lookup) : List Lookup → List (Except PyError Bool)
  | [] => []
  | q :: qs => (if memo pre q.fp = q.stored then .ok true else (q.check none).1) ::
      memoRun (pre ++ [q]) qs

theorem memo_append_singleton (pre : List Lookup) (q : Lookup) (fp : Bytes) :
    memo (pre ++ [q]) fp = if confirms q && q.fp == fp then q.stored else memo pre fp := by
  unfold memo
  split_ifs with h <;> simp [List.filter_append, h]

theorem get_insert (c : Cache) (fp fp' : Bytes) (v : Option Bytes) :
    Cache.get (c.insert fp v) fp' = if fp = fp' then v else c.get fp' := by
  split_ifs with h
  · rw [h, Cache.get, AList.lookup_insert]
    rfl
  · rw [Cache.get, AList.lookup_insert_ne (Ne.symm h), Cache.get]

/-- After a miss, a call records its entry exactly when it answers True on its own. -/
theorem cachedCheck_snd_miss (hmiss : cacheHit cache fp stored = false) :
    (cachedCheck cache fp stored rejected recompute).2 =
      if (cachedCheck none fp stored rejected recompute).1 = .ok true
      then cacheRecord cache fp stored else cache := by
  rw [cachedCheck_none]
  unfold cachedCheck
  rw [hmiss, if_neg Bool.false_ne_true]
  cases rejected
  · rcases recompute with _ | (_ | _) <;> rfl
  · rfl

section
variable {pre : List Lookup} {cache : Option Cache}

/-- The cache is a dict whose lookups are the memo of the calls pre. -/
def MemoOf (pre : List Lookup) (cache : Option Cache) : Prop :=
  ∃ c, cache = some c ∧ ∀ fp, c.get fp = memo pre fp

theorem memoOf_empty : MemoOf [] (some ∅) := ⟨∅, rfl, fun _ => rfl⟩

/-- One call on a memo cache: it answers as the abstract run does, and the cache it leaves
is the memo of the calls with it. -/
theorem MemoOf.check (h : MemoOf pre cache) (q : Lookup) :
    (q.check cache).1 = (if memo pre q.fp = q.stored then .ok true else (q.check none).1) ∧
      MemoOf (pre ++ [q]) (q.check cache).2 := by
  obtain ⟨c, rfl, hc⟩ := h
  by_cases hm : memo pre q.fp = q.stored
  · have hhit : cacheHit (some c) q.fp q.stored = true := by simp [cacheHit, hc, hm]
    rw [Lookup.check, cachedCheck.eq_def, if_pos hhit, if_pos hm]
    refine ⟨rfl, c, rfl, fun fp => ?_⟩
    rw [memo_append_singleton]
    split_ifs with hq
    · simp only [Bool.and_eq_true, beq_iff_eq] at hq
      rw [← hq.2, hc, hm]
    · exact hc fp
  · have hmiss : cacheHit (some c) q.fp q.stored = false := by simp [cacheHit, hc, hm]
    rw [if_neg hm]
    refine ⟨by rw [Lookup.check, cachedCheck_fst, hmiss]; rfl, ?_⟩
    rw [Lookup.check, cachedCheck_snd_miss hmiss]
    split_ifs with hok
    · have hconf : confirms q = true := beq_iff_eq.mpr hok
      refine ⟨_, rfl, fun fp => ?_⟩
      rw [get_insert, memo_append_singleton, hconf]
      by_cases hfp : q.fp = fp <;> simp [hfp, hc]
    · have hconf : confirms q = false := by simpa [confirms] using hok
      refine ⟨c, rfl, fun fp => ?_⟩
      rw [memo_append_singleton, hconf, Bool.false_and, if_neg Bool.false_ne_true, hc]

/-- A run on a memo cache answers as the abstract run and leaves the memo of all calls. -/
theorem MemoOf.run (h : MemoOf pre cache) (qs : List Lookup) :
    (runLookups qs cache).1 = memoRun pre qs ∧ MemoOf (pre ++ qs) (runLookups qs cache).2 := by
  induction qs generalizing pre cache with
  | nil => exact ⟨rfl, by simpa using h⟩
  | cons q qs ih =>
    obtain ⟨hans, hstep⟩ := h.check q
    obtain ⟨hrest, hmemo⟩ := ih hstep
    exact ⟨by rw [runLookups, memoRun, ← hans, ← hrest], by simpa using hmemo⟩

end

/-- A run of calls sharing one cache dict that starts empty computes the memo. -/
def Memoizes (calls : List Lookup) : Prop :=
  (runLookups calls (some ∅)).1 = memoRun [] calls ∧
    ∃ c, (runLookups calls (some ∅)).2 = some c ∧ ∀ fp, c.get fp = memo calls fp

theorem memoizes_run (calls : List Lookup) : Memoizes calls :=
  let ⟨hans, hmemo⟩ := memoOf_empty.run calls
  ⟨hans, by simpa using hmemo⟩

/-- Each of check_hash, check_digest and check_scramble, called in turn on one cache dict
that starts empty, answers True when the last earlier call that confirmed its fingerprint
stored the same value (None matching a fingerprint no call confirmed), and otherwise as it
would with no cache; the dict then maps each fingerprint to the value of the last call that
confirmed it. -/
theorem cache_memo :
    (∀ hashlib pbkdf2 cracklib configuration (calls : List HashCall),
      Memoizes (calls.map (HashCall.lookup hashlib pbkdf2 cracklib configuration))) ∧
    (∀ hashlib cracklib configuration (calls : List DigestCall),
      Memoizes (calls.map (DigestCall.lookup hashlib cracklib configuration))) ∧
    (∀ cracklib configuration (calls : List ScrambleCall),
      Memoizes (calls.map (ScrambleCall.lookup cracklib configuration))) :=
  ⟨fun _ _ _ _ _ => memoizes_run _, fun _ _ _ _ => memoizes_run _, fun _ _ _ => memoizes_run _⟩

end Migrid.Proofs.Cache
