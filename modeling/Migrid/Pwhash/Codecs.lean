import Migrid.Pwhash.Policy
import Migrid.Python.Codec
import Mathlib.Data.Int.Bitwise
import Mathlib.Data.List.AList
import Mathlib.Data.List.Sort

namespace Migrid

/-! ### PBKDF2 -/

/-- SALT_LENGTH. -/
def saltLength : Nat := 12

/-- KEY_LENGTH. -/
def keyLength : Nat := 24

/-- HASH_FUNCTION. -/
def hashFunction : Bytes := str "sha256"

/-- COST_FACTOR. -/
def costFactor : Nat := 10000

/-- What pwhash uses of hashlib: the md5 and sha256 hexdigests and which names getattr
finds on the module. HASH_FUNCTION is one of them, as its comment requires. -/
structure Hashlib where
  md5 : Bytes → Bytes
  sha256 : Bytes → Bytes
  has : Bytes → Bool
  has_hashFunction : has hashFunction = true

/-- pbkdf2_bin of mig.shared.pbkdf2, taken as given. Its arguments are the password, the
salt, the iterations, keylen and the name of the hash function; the key it derives has
exactly keylen bytes. -/
structure Pbkdf2 where
  bin : Bytes → Bytes → Int → Nat → Bytes → Bytes
  length_bin : ∀ password salt iterations keylen hashfunc,
    (bin password salt iterations keylen hashfunc).length = keylen

/-- make_hash, given the SALT_LENGTH bytes that urandom returned. -/
def makeHash (pbkdf2 : Pbkdf2) (password urandom : Bytes) : Bytes :=
  let salt := b64encode urandom
  str "PBKDF2$" ++ hashFunction ++ str "$" ++ pyStr costFactor ++ str "$" ++ salt ++ str "$" ++
    b64encode (pbkdf2.bin password salt costFactor keyLength hashFunction)

/-- The constant-time comparison: the OR of the XOR of every pair that zip yields. -/
def diffBytes (hashA hashB : Bytes) : Nat :=
  (hashA.zip hashB).foldl (fun diff (charA, charB) => diff ||| (charA.toNat ^^^ charB.toNat)) 0

/-- Lines 130 to 141 of check_hash: split the stored hash, re-derive the key with the
parameters it carries, and compare in constant time. A stored None fails at its split. -/
def hashMatch (hashlib : Hashlib) (pbkdf2 : Pbkdf2) (password : Bytes) :
    Option Bytes → Except PyError Bool
  | none => .error (.attributeError "'NoneType' object has no attribute 'split'")
  | some hashed =>
    match pySplit 36 hashed with
    | [algorithm, hashFunction, costFactor, salt, hashA] =>
      if algorithm ≠ str "PBKDF2" then .error .assertionError
      else
        match b64decode hashA, pyIntE 10 costFactor with
        | .error exc, _ => .error exc
        | .ok _, .error exc => .error exc
        | .ok hashA, .ok iterations =>
          if !hashlib.has hashFunction then
            let name := text hashFunction
            .error (.attributeError s!"'module' object has no attribute '{name}'")
          else
            let hashB := pbkdf2.bin password salt iterations hashA.length hashFunction
            if hashA.length ≠ hashB.length then .error .assertionError
            else .ok (diffBytes hashA hashB == 0)
    | fields => .error (unpackError 5 fields.length)

/-! ### Scrambled digests and passwords -/

/-- int(a, 16) ^ int(b, 16), the step every scrambler shares. -/
def xorHex (a b : Bytes) : Except PyError Int := do
  let x ← pyIntE 16 a
  let y ← pyIntE 16 b
  pure (Int.xor x y)

/-- scramble_digest. -/
def scrambleDigest (salt digest : Bytes) : Except PyError Bytes :=
  formatX <$> xorHex salt (b16encode digest)

/-- unscramble_digest. -/
def unscrambleDigest (salt digest : Bytes) : Except PyError Bytes := do
  let xorInt ← xorHex salt digest
  b16decode (formatX xorInt)

/-- make_digest. -/
def makeDigest (realm username password salt : Bytes) : Except PyError Bytes :=
  let mergedCreds := pyJoin (str ":") [realm, username, password]
  (fun scrambled => str "DIGEST$custom$CONFSALT$" ++ scrambled) <$>
    scrambleDigest salt mergedCreds

/-- scramble_password; a salt of None is the empty string, both select base64. -/
def scramblePassword (salt password : Bytes) : Except PyError Bytes :=
  if salt.isEmpty then .ok (b64encode password)
  else formatX <$> xorHex salt (b16encode password)

/-- unscramble_password. -/
def unscramblePassword (salt password : Bytes) : Except PyError Bytes :=
  if salt.isEmpty then b64decode password
  else do
    let xorInt ← xorHex salt password
    b16decode (formatX xorInt)

/-- make_scramble. -/
def makeScramble (password salt : Bytes) : Except PyError Bytes := scramblePassword salt password

/-! ### Simple hashes -/

/-- make_simple_hash: the md5 hexdigest. -/
def makeSimpleHash (hashlib : Hashlib) (val : Bytes) : Bytes := hashlib.md5 val

/-- make_path_hash. -/
def makePathHash (hashlib : Hashlib) (path : Bytes) : Bytes := makeSimpleHash hashlib path

/-! ### CSRF tokens -/

/-- A dict of query arguments: each key with its list of values. -/
abbrev Args := AList fun _ : Bytes => List Bytes

/-- make_csrf_token. The limit is the str of the optional limit, and None prints as None. -/
def makeCsrfToken (hashlib : Hashlib) (configuration : Configuration)
    (method operation clientId : Bytes) (limit : Option Bytes) : Except PyError Bytes := do
  let salt := configuration.siteDigestSalt
  let merged := pyJoin (str ":") [method, operation, clientId, limit.getD (str "None")]
  let xorId ← xorHex salt (b16encode merged)
  pure (hashlib.sha256 (pyStr xorId))

/-- sorted(list(args)) when args is not empty, else the empty list. -/
def sortedKeys (args : Args) : List Bytes :=
  if args.entries.isEmpty then [] else args.keys.insertionSort fun a b => bytesLe a b

/-- The loop of make_csrf_trust_token that appends each key outside skip_fields and its
values to the operation, every piece behind an underscore. -/
def csrfOp (operation : Bytes) (args : Args) (skipFields : List Bytes) : Bytes :=
  (sortedKeys args).foldl
    (fun csrfOp key =>
      if key ∈ skipFields then csrfOp
      else ((args.lookup key).getD []).foldl (fun csrfOp val => csrfOp ++ str "_" ++ val)
        (csrfOp ++ str "_" ++ key))
    operation

/-- make_csrf_trust_token. -/
def makeCsrfTrustToken (hashlib : Hashlib) (configuration : Configuration)
    (method operation : Bytes) (args : Args) (clientId : Bytes) (limit : Option Bytes)
    (skipFields : List Bytes) : Except PyError Bytes :=
  makeCsrfToken hashlib configuration method (csrfOp operation args skipFields) clientId limit

end Migrid
