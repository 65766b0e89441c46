import Mathlib.Data.List.Basic
import Mathlib.Data.Nat.Digits

namespace Migrid

/-- A Python 2 str, which is a string of bytes. Every str of the modelled code is one. -/
abbrev Bytes := List UInt8

/-! Byte comparisons are comparisons of the byte values; proofs go through these three. -/

theorem byte_le_iff {a b : UInt8} : a ≤ b ↔ a.toNat ≤ b.toNat := Iff.rfl

theorem byte_lt_iff {a b : UInt8} : a < b ↔ a.toNat < b.toNat := Iff.rfl

theorem byte_eq_iff {a b : UInt8} : a = b ↔ a.toNat = b.toNat := ⟨congrArg _, UInt8.toNat.inj⟩

/-- The bytes of an ASCII literal of the source. -/
def str (s : String) : Bytes := s.toList.map fun c => c.toNat.toUInt8

/-- A byte string shown inside a message text. -/
def text (b : Bytes) : String := String.mk (b.map fun c => Char.ofNat c.toNat)

/-- The exceptions the modelled code raises or lets through. Messages of the builtins
are kept only as far as no modelled function reads them. -/
inductive PyError where
  | valueError (msg : String)
  | typeError (msg : String)
  | attributeError (msg : String)
  | assertionError
  | exception (msg : String)
  deriving DecidableEq, Repr

/-- Results of fallible code are compared, so they need decidable equality. -/
instance decEqExcept [DecidableEq ε] [DecidableEq α] : DecidableEq (Except ε α)
  | .ok a, .ok b => decidable_of_iff (a = b) ⟨congrArg _, Except.ok.inj⟩
  | .error a, .error b => decidable_of_iff (a = b) ⟨congrArg _, Except.error.inj⟩
  | .ok _, .error _ => isFalse Except.noConfusion
  | .error _, .ok _ => isFalse Except.noConfusion

/-- Whether a computation raised, which is all a bare `except Exception` looks at. -/
def raises : Except PyError α → Bool
  | .error _ => true
  | .ok _ => false

@[simp] theorem raises_ok (a : α) : raises (.ok a : Except PyError α) = false := rfl
@[simp] theorem raises_error (e : PyError) : raises (.error e : Except PyError α) = true := rfl

/-- `'%s' % b` of a bool. -/
def pyBool (b : Bool) : String := if b then "True" else "False"

/-- The ValueError of a tuple unpacking that finds the wrong number of values. -/
def unpackError (expected got : Nat) : PyError :=
  if got < expected then
    if got = 1 then .valueError "need more than 1 value to unpack"
    else .valueError s!"need more than {got} values to unpack"
  else .valueError "too many values to unpack"

/-! ### int() -/

/-- C isspace in the C locale. -/
def isSpace (c : UInt8) : Bool := c == 32 || (9 ≤ c && c ≤ 13)

theorem isSpace_iff {c : UInt8} : isSpace c = true ↔ c.toNat = 32 ∨ (9 ≤ c.toNat ∧ c.toNat ≤ 13) := by
  simp only [isSpace, Bool.or_eq_true, Bool.and_eq_true, beq_iff_eq, decide_eq_true_eq, byte_le_iff,
    byte_eq_iff, UInt8.reduceToNat]

/-- _PyLong_DigitValue: the value of a digit or letter, 37 for anything else. -/
def digitValue (c : UInt8) : Nat :=
  if 48 ≤ c ∧ c ≤ 57 then c.toNat - 48
  else if 97 ≤ c ∧ c ≤ 122 then c.toNat - 87
  else if 65 ≤ c ∧ c ≤ 90 then c.toNat - 55
  else 37

/-- The value of a run of digits, most significant first. -/
def digitsValue (base : Nat) (ds : List Nat) : Nat := ds.foldl (fun n d => n * base + d) 0

/-- An optional sign: whether it is a minus, and what follows it. -/
def takeSign : Bytes → Bool × Bytes
  | 43 :: t => (false, t)
  | 45 :: t => (true, t)
  | t => (false, t)

/-- PyOS_strtoul skips a 0x or 0X prefix in base 16. -/
def dropHexPrefix (base : Nat) (s : Bytes) : Bytes :=
  match base, s with
  | 16, 48 :: x :: t => if x = 120 ∨ x = 88 then t else s
  | _, s => s

/-- What PyOS_strtoul reads after the sign: blanks, the 0x prefix in base 16, at least one
digit, and trailing blanks only (PyInt_FromString's check on what follows). -/
def unsignedValue (base : Nat) (rest : Bytes) : Option Nat :=
  let body := dropHexPrefix base (rest.dropWhile isSpace)
  let digits := body.takeWhile fun c => digitValue c < base
  if digits.isEmpty || !(body.dropWhile fun c => digitValue c < base).all isSpace then none
  else some (digitsValue base (digits.map digitValue))

/-- int(s, base) of a str, as PyInt_FromString reads it through PyOS_strtol: blanks, a
sign, then the unsigned part. -/
def pyInt (base : Nat) (s : Bytes) : Option Int :=
  let (negative, rest) := takeSign (s.dropWhile isSpace)
  (unsignedValue base rest).map fun n => if negative then -(n : Int) else n

/-- int(s, base) with its ValueError. -/
def pyIntE (base : Nat) (s : Bytes) : Except PyError Int :=
  match pyInt base s with
  | some n => .ok n
  | none =>
    let literal := text s
    .error (.valueError s!"invalid literal for int() with base {base}: '{literal}'")

/-! ### Printing numbers -/

/-- Digits of n in base b, most significant first; the fuel bounds the recursion. -/
def digitsFuel (b : Nat) : Nat → Nat → List Nat
  | 0, _ => []
  | fuel + 1, n => if n < b then [n] else digitsFuel b fuel (n / b) ++ [n % b]

/-- The digits Python prints for n in base b: no leading zero, and a single 0 for zero. -/
def bigDigits (b n : Nat) : List Nat := digitsFuel b (n + 1) n

/-- The character of a digit below 16, upper case as '%X' and b16encode print it. -/
def digitChar (d : Nat) : UInt8 := if d < 10 then (48 + d).toUInt8 else (55 + d).toUInt8

/-- An int printed in base b with a leading minus when negative. -/
def render (b : Nat) (n : Int) : Bytes :=
  (if n < 0 then str "-" else []) ++ (bigDigits b n.natAbs).map digitChar

/-- str(n), '%s' % n and '{}'.format(n) of an int. -/
def pyStr (n : Int) : Bytes := render 10 n

/-- '{0:X}'.format(n). -/
def formatX (n : Int) : Bytes := render 16 n

/-! ### Splitting, joining, ordering -/

/-- s.split(sep). -/
def pySplit (sep : UInt8) (s : Bytes) : List Bytes := s.splitOn sep

/-- s.split(sep, maxsplit): at most maxsplit cuts, made from the left. -/
def splitMax (sep : UInt8) : Nat → Bytes → List Bytes
  | 0, s => [s]
  | n + 1, s =>
    match s.span (· != sep) with
    | (head, _ :: rest) => head :: splitMax sep n rest
    | (head, []) => [head]

/-- sep.join(parts). -/
def pyJoin (sep : Bytes) (parts : List Bytes) : Bytes := sep.intercalate parts

/-- The scan of s.split(sep) for a separator str: skip counts the bytes of a separator still
to pass, acc holds the current piece reversed. -/
def splitSepAux (sep : Bytes) : Nat → Bytes → Bytes → List Bytes
  | _, acc, [] => [acc.reverse]
  | skip + 1, acc, _ :: s => splitSepAux sep skip acc s
  | 0, acc, c :: s =>
    if sep.isPrefixOf (c :: s) then acc.reverse :: splitSepAux sep (sep.length - 1) [] s
    else splitSepAux sep 0 (c :: acc) s

/-- s.split(sep) with a separator str of any length: a ValueError on the empty one, else
the pieces between the occurrences of sep found from the left without overlap. -/
def pySplitStr (sep s : Bytes) : Except PyError (List Bytes) :=
  if sep.isEmpty then .error (.valueError "empty separator") else .ok (splitSepAux sep 0 [] s)

/-- s.replace(old, new): every occurrence of old found from the left without overlap
replaced; an empty old puts new before each byte and at the end. -/
def pyReplace (old new s : Bytes) : Bytes :=
  if old.isEmpty then new ++ s.flatMap fun c => c :: new else pyJoin new (splitSepAux old 0 [] s)

/-- str.strip(): leading and trailing whitespace removed. -/
def pyStrip (s : Bytes) : Bytes := ((s.dropWhile isSpace).reverse.dropWhile isSpace).reverse

/-- Python's comparison of two str: lexicographic on the byte values. -/
def bytesLe : Bytes → Bytes → Bool
  | [], _ => true
  | _ :: _, [] => false
  | a :: as, b :: bs => a < b || (a == b && bytesLe as bs)

end Migrid
