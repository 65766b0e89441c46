import Migrid.Python.Text

namespace Migrid

/-! ### Policy descriptors -/

/-- Modelled from the spec: POLICY_NONE of mig.shared.defaults, which src/ does not hold.
Its grammar in §4.1 writes the six keywords none, weak, medium, high, modern, custom. -/
def policyNone : Bytes := str "none"

/-- Modelled from the spec: POLICY_WEAK of mig.shared.defaults. -/
def policyWeak : Bytes := str "weak"

/-- Modelled from the spec: POLICY_MEDIUM of mig.shared.defaults. -/
def policyMedium : Bytes := str "medium"

/-- Modelled from the spec: POLICY_HIGH of mig.shared.defaults. -/
def policyHigh : Bytes := str "high"

/-- Modelled from the spec: POLICY_MODERN of mig.shared.defaults. -/
def policyModern : Bytes := str "modern"

/-- Modelled from the spec: POLICY_CUSTOM of mig.shared.defaults. -/
def policyCustom : Bytes := str "custom"

/-- The configuration fields pwhash reads. A legacy policy of None is the empty string,
since the code tests it for truth before it reads it. -/
structure Configuration where
  sitePasswordPolicy : Bytes
  sitePasswordLegacyPolicy : Bytes
  sitePasswordCracklib : Bool
  siteDigestSalt : Bytes
  deriving DecidableEq, Repr

/-- The optional cracklib module. VeryFascistCheck, run after MIN_LENGTH is set to the
first argument, gives the text of the exception it raises, or none when it accepts. -/
structure Cracklib where
  veryFascistCheck : Int → Bytes → Option String

/-- str(exc) of a caught exception. -/
def PyError.text : PyError → String
  | .valueError msg | .typeError msg | .attributeError msg | .exception msg => msg
  | .assertionError => ""

/-- The try block of the modern branch: the split into two fields, then int(). -/
def modernMinLen (sitePolicy : Bytes) : Except PyError Int :=
  match splitMax 58 1 sitePolicy with
  | [_, minLenStr] => pyIntE 10 minLenStr
  | fields => .error (unpackError 2 fields.length)

/-- The try block of the custom branch: the split into three fields, then both int(). -/
def customMins (sitePolicy : Bytes) : Except PyError (Int × Int) :=
  match splitMax 58 2 sitePolicy with
  | [_, minLenStr, minClassesStr] =>
    match pyIntE 10 minLenStr, pyIntE 10 minClassesStr with
    | .ok minLen, .ok minClasses => .ok (minLen, minClasses)
    | .error exc, _ => .error exc
    | .ok _, .error exc => .error exc
  | fields => .error (unpackError 3 fields.length)

/-- password_requirements: min_len, min_classes and the errors, with -1 and 42 left in
place whenever a branch fails. -/
def passwordRequirements (sitePolicy : Bytes) : Int × Int × List String :=
  let policy := text sitePolicy
  if sitePolicy = policyNone then (0, 0, [])
  else if sitePolicy = policyWeak then (6, 2, [])
  else if sitePolicy = policyMedium then (8, 3, [])
  else if sitePolicy = policyHigh then (10, 4, [])
  else if policyModern.isPrefixOf sitePolicy then
    match modernMinLen sitePolicy with
    | .ok minLen => (minLen, 1, [])
    | .error exc =>
      let msg := exc.text
      (-1, 42, [s!"modern password policy {policy} on invalid format: {msg}"])
  else if policyCustom.isPrefixOf sitePolicy then
    match customMins sitePolicy with
    | .ok (minLen, minClasses) => (minLen, minClasses, [])
    | .error exc =>
      let msg := exc.text
      (-1, 42, [s!"custom password policy {policy} on invalid format: {msg}"])
  else (-1, 42, [s!"unknown password policy keyword: {policy}"])

/-- parse_password_policy: the primary or the legacy policy; the errors are only logged. -/
def parsePasswordPolicy (configuration : Configuration) (useLegacy : Bool) : Int × Int :=
  let policy := if useLegacy then configuration.sitePasswordLegacyPolicy
    else configuration.sitePasswordPolicy
  ((passwordRequirements policy).1, (passwordRequirements policy).2.1)

/-! ### Character classes -/

/-- The four classes a password character falls in. -/
inductive CharClass where
  | lower | upper | digits | other
  deriving DecidableEq, Repr

/-- string.ascii_lowercase. -/
def asciiLowercase : Bytes := str "abcdefghijklmnopqrstuvwxyz"

/-- string.ascii_uppercase. -/
def asciiUppercase : Bytes := str "ABCDEFGHIJKLMNOPQRSTUVWXYZ"

/-- string.digits. -/
def digits : Bytes := str "0123456789"

/-- char_class_map, in the order its literal lists the classes. -/
def charClassMap : List (CharClass × Bytes) :=
  [(.lower, asciiLowercase), (.upper, asciiUppercase), (.digits, digits)]

/-- base_chars: the values of char_class_map joined. -/
def baseChars : Bytes := (charClassMap.map Prod.snd).flatten

/-- The inner loop: append the first class that holds i, unless it is collected already,
in which case the loop goes on to the next class. -/
def addClass : List (CharClass × Bytes) → List CharClass → UInt8 → List CharClass
  | [], pwClasses, _ => pwClasses
  | (charClass, values) :: rest, pwClasses, i =>
    if i ∈ values ∧ charClass ∉ pwClasses then pwClasses ++ [charClass]
    else addClass rest pwClasses i

/-- One turn of the loop over the characters of the password. -/
def classify (pwClasses : List CharClass) (i : UInt8) : List CharClass :=
  if i ∉ baseChars ∧ CharClass.other ∉ pwClasses then pwClasses ++ [.other]
  else addClass charClassMap pwClasses i

/-- pw_classes when the loop is done. -/
def pwClasses (password : Bytes) : List CharClass := password.foldl classify []

/-! ### Strength checks -/

/-- __assure_password_strength_helper. -/
def assurePasswordStrengthHelper (cracklib : Option Cracklib) (configuration : Configuration)
    (password : Bytes) (useLegacy : Bool) : Except PyError Bool :=
  let policyFailMsg := if useLegacy then "password does not fit password legacy policy"
    else "password does not fit password policy"
  let (minLen, minClasses) := parsePasswordPolicy configuration useLegacy
  let legacyText := pyBool useLegacy
  if minLen < 0 ∨ minClasses > 4 then
    .error (.exception
      s!"parse password policy failed: {minLen} {minClasses} (use_legacy: {legacyText})")
  else if (password.length : Int) < minLen then
    .error (.valueError
      s!"{policyFailMsg}: password too short, at least {minLen} chars required")
  else if ((pwClasses password).length : Int) < minClasses then
    .error (.valueError
      s!"{policyFailMsg}: password too simple, >= {minClasses} char classes required")
  else if configuration.sitePasswordCracklib then
    match cracklib with
    | some module =>
      match module.veryFascistCheck (minLen + minClasses) password with
      | some exc => .error (.valueError s!"cracklib refused password: {exc}")
      | none => .ok true
    | none => .error (.exception "cracklib requested in conf but not available")
  else .ok true

/-- assure_password_strength: the primary policy, then on a ValueError the legacy policy
when one is configured and the caller allows it. Any other exception goes through. -/
def assurePasswordStrength (cracklib : Option Cracklib) (configuration : Configuration)
    (password : Bytes) (allowLegacy : Bool) : Except PyError Bool :=
  match assurePasswordStrengthHelper cracklib configuration password false with
  | .ok _ => .ok true
  | .error (.valueError err) =>
    if !configuration.sitePasswordLegacyPolicy.isEmpty && allowLegacy then
      match assurePasswordStrengthHelper cracklib configuration password true with
      | .ok _ => .ok true
      | .error exc => .error exc
    else .error (.valueError err)
  | .error exc => .error exc

/-- valid_login_password: the legacy-tolerant check as a boolean. -/
def validLoginPassword (cracklib : Option Cracklib) (configuration : Configuration)
    (password : Bytes) : Bool :=
  match assurePasswordStrength cracklib configuration password true with
  | .ok _ => true
  | .error _ => false

/-! ### Random passwords -/

/-- The punctuation generate_random_password adds for four classes, as the bytes of its
UTF-8 literal: the pound sign is the two bytes 0xC2 0xA3. -/
def passwordPunctuation : Bytes := str ",.;:+=&%#@" ++ [0xC2, 0xA3] ++ str "$/?*"

/-- The charset of generate_random_password for a class count. -/
def passwordCharset (classes : Int) : Bytes :=
  asciiLowercase ++ (if classes > 1 then asciiUppercase else []) ++
    (if classes > 2 then digits else []) ++ (if classes > 3 then passwordPunctuation else [])

/-- SystemRandom().choice: the index drawn for each character of each try, taken modulo the
charset so that every draw is one of its characters. -/
structure SystemRandom where
  choice : Nat → Nat → Nat

/-- generate_random_ascii for the given try. -/
def generateRandomAscii (random : SystemRandom) (attempt count : Nat) (charset : Bytes) : Bytes :=
  (List.range count).map fun j => charset.getD (random.choice attempt j % charset.length) 0

/-- The retry loop: the first candidate assure_password_strength accepts; a ValueError moves
on to the next, any other exception goes through. -/
def tryPasswords (cracklib : Option Cracklib) (configuration : Configuration) :
    List Bytes → Except PyError Bytes
  | [] => .error (.valueError "Failed to generate suitable password!")
  | password :: rest =>
    match assurePasswordStrength cracklib configuration password false with
    | .ok _ => .ok password
    | .error (.valueError _) => tryPasswords cracklib configuration rest
    | .error exc => .error exc

/-- generate_random_password, whose tries argument defaults to 42. -/
def generateRandomPassword (cracklib : Option Cracklib) (configuration : Configuration)
    (random : SystemRandom) (tries : Nat) : Except PyError Bytes :=
  let (count, classes) := parsePasswordPolicy configuration false
  let charset := passwordCharset classes
  tryPasswords cracklib configuration
    ((List.range tries).map fun attempt => generateRandomAscii random attempt count.toNat charset)

end Migrid
