import Migrid.Pwhash.Policy
import Migrid.Pwhash.Codecs
import Mathlib.Data.List.AList

namespace Migrid

/-! ### The verification caches -/

/-- A cache dict a caller passes in: fingerprints to the stored value they last matched. -/
abbrev Cache := AList fun _ : Bytes => Option Bytes

/-- cache.get(fp, None), where an absent key and a None value read the same. -/
def Cache.get (cache : Cache) (fp : Bytes) : Option Bytes := (cache.lookup fp).join

/-- The lookup of all three checks: a dict whose value under fp equals the stored value. -/
def cacheHit : Option Cache → Bytes → Option Bytes → Bool
  | some cache, fp, stored => cache.get fp == stored
  | none, _, _ => false

@[simp] theorem cacheHit_none (fp : Bytes) (stored : Option Bytes) :
    cacheHit none fp stored = false := rfl

/-- The write after a confirmed match, when the argument is a dict. -/
def cacheRecord : Option Cache → Bytes → Option Bytes → Option Cache
  | some cache, fp, stored => some (cache.insert fp stored)
  | none, _, _ => none

/-- What check_hash, check_digest and check_scramble share: the cache lookup, the policy
gate, the full recomputation, and the write of a confirmed match. -/
def cachedCheck (cache : Option Cache) (fp : Bytes) (stored : Option Bytes) (rejected : Bool)
    (recompute : Except PyError Bool) : Except PyError Bool × Option Cache :=
  if cacheHit cache fp stored then (.ok true, cache)
  else if rejected then (.ok false, cache)
  else
    match recompute with
    | .error exc => (.error exc, cache)
    | .ok match_ => (.ok match_, if match_ then cacheRecord cache fp stored else cache)

/-- check_hash. The policy is consulted only under strict_policy; service and username
only reach the log. -/
def checkHash (hashlib : Hashlib) (pbkdf2 : Pbkdf2) (cracklib : Option Cracklib)
    (configuration : Configuration) (password : Bytes) (hashed : Option Bytes)
    (hashCache : Option Cache) (strictPolicy allowLegacy : Bool) :
    Except PyError Bool × Option Cache :=
  cachedCheck hashCache (hashlib.md5 password) hashed
    (strictPolicy && raises (assurePasswordStrength cracklib configuration password allowLegacy))
    (hashMatch hashlib pbkdf2 password hashed)

/-- check_digest. The policy runs on every call and rejects only under strict_policy. -/
def checkDigest (hashlib : Hashlib) (cracklib : Option Cracklib) (configuration : Configuration)
    (realm username password : Bytes) (digest : Option Bytes) (salt : Bytes)
    (digestCache : Option Cache) (strictPolicy allowLegacy : Bool) :
    Except PyError Bool × Option Cache :=
  let mergedCreds := pyJoin (str ":") [realm, username, password]
  cachedCheck digestCache (hashlib.md5 mergedCreds) digest
    (raises (assurePasswordStrength cracklib configuration password allowLegacy) && strictPolicy)
    ((fun made => some made == digest) <$> makeDigest realm username password salt)

/-- check_scramble, keyed by the password itself. -/
def checkScramble (cracklib : Option Cracklib) (configuration : Configuration)
    (password : Bytes) (scrambled : Option Bytes) (salt : Bytes) (scrambleCache : Option Cache)
    (strictPolicy allowLegacy : Bool) : Except PyError Bool × Option Cache :=
  cachedCheck scrambleCache password scrambled
    (raises (assurePasswordStrength cracklib configuration password allowLegacy) && strictPolicy)
    ((fun made => some made == scrambled) <$> makeScramble password salt)

/-! ### Runs of calls sharing one cache -/

/-- One call as the cache sees it: the fingerprint, the stored value, whether the policy
gate rejects it, and the full recomputation. -/
structure Lookup where
  fp : Bytes
  stored : Option Bytes
  rejected : Bool
  recompute : Except PyError Bool

/-- A call on the cache it is given. -/
def Lookup.check (q : Lookup) (cache : Option Cache) : Except PyError Bool × Option Cache :=
  cachedCheck cache q.fp q.stored q.rejected q.recompute

/-- Calls that share one cache argument, in order: their results and the final cache. -/
def runLookups : List Lookup → Option Cache → List (Except PyError Bool) × Option Cache
  | [], cache => ([], cache)
  | q :: qs, cache =>
    let rest := runLookups qs (q.check cache).2
    ((q.check cache).1 :: rest.1, rest.2)

/-- The arguments of a check_hash call that vary from call to call. -/
structure HashCall where
  password : Bytes
  hashed : Option Bytes
  strictPolicy : Bool
  allowLegacy : Bool

/-- The arguments of a check_digest call that vary from call to call. -/
structure DigestCall where
  realm : Bytes
  username : Bytes
  password : Bytes
  digest : Option Bytes
  salt : Bytes
  strictPolicy : Bool
  allowLegacy : Bool

/-- The arguments of a check_scramble call that vary from call to call. -/
structure ScrambleCall where
  password : Bytes
  scrambled : Option Bytes
  salt : Bytes
  strictPolicy : Bool
  allowLegacy : Bool

/-- A check_hash call as the cache sees it. -/
def HashCall.lookup (hashlib : Hashlib) (pbkdf2 : Pbkdf2) (cracklib : Option Cracklib)
    (configuration : Configuration) (call : HashCall) : Lookup :=
  ⟨hashlib.md5 call.password, call.hashed,
    call.strictPolicy && raises (assurePasswordStrength cracklib configuration call.password
      call.allowLegacy),
    hashMatch hashlib pbkdf2 call.password call.hashed⟩

/-- A check_digest call as the cache sees it. -/
def DigestCall.lookup (hashlib : Hashlib) (cracklib : Option Cracklib)
    (configuration : Configuration) (call : DigestCall) : Lookup :=
  ⟨hashlib.md5 (pyJoin (str ":") [call.realm, call.username, call.password]), call.digest,
    raises (assurePasswordStrength cracklib configuration call.password call.allowLegacy) &&
      call.strictPolicy,
    (fun made => some made == call.digest) <$>
      makeDigest call.realm call.username call.password call.salt⟩

/-- A check_scramble call as the cache sees it. -/
def ScrambleCall.lookup (cracklib : Option Cracklib) (configuration : Configuration)
    (call : ScrambleCall) : Lookup :=
  ⟨call.password, call.scrambled,
    raises (assurePasswordStrength cracklib configuration call.password call.allowLegacy) &&
      call.strictPolicy,
    (fun made => some made == call.scrambled) <$> makeScramble call.password call.salt⟩

theorem HashCall.check_lookup (hashlib : Hashlib) (pbkdf2 : Pbkdf2) (cracklib : Option Cracklib)
    (configuration : Configuration) (call : HashCall) (cache : Option Cache) :
    (call.lookup hashlib pbkdf2 cracklib configuration).check cache =
      checkHash hashlib pbkdf2 cracklib configuration call.password call.hashed cache
        call.strictPolicy call.allowLegacy := rfl

theorem DigestCall.check_lookup (hashlib : Hashlib) (cracklib : Option Cracklib)
    (configuration : Configuration) (call : DigestCall) (cache : Option Cache) :
    (call.lookup hashlib cracklib configuration).check cache =
      checkDigest hashlib cracklib configuration call.realm call.username call.password
        call.digest call.salt cache call.strictPolicy call.allowLegacy := rfl

theorem ScrambleCall.check_lookup (cracklib : Option Cracklib) (configuration : Configuration)
    (call : ScrambleCall) (cache : Option Cache) :
    (call.lookup cracklib configuration).check cache =
      checkScramble cracklib configuration call.password call.scrambled call.salt cache
        call.strictPolicy call.allowLegacy := rfl

end Migrid
