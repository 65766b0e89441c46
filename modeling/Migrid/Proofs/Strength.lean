import Migrid.Pwhash.Policy
import Mathlib.Data.List.Nodup

namespace Migrid.Proofs.Strength
open Migrid

/-! ### What the strength check is for -/

/-- The class of a password character: lower case, upper case, digit, or anything else. -/
def charClass (i : UInt8) : CharClass :=
  if i ∈ asciiLowercase then .lower
  else if i ∈ asciiUppercase then .upper
  else if i ∈ digits then .digits
  else .other

/-- The classes among lower case, upper case, digits and other that a password touches. -/
def touched (password : Bytes) : List CharClass :=
  [CharClass.lower, .upper, .digits, .other].filter fun c => password.any fun i => charClass i == c

/-- password_requirements gives a descriptor the helper accepts. -/
def WellFormed (policy : Bytes) : Prop :=
  0 ≤ (passwordRequirements policy).1 ∧ (passwordRequirements policy).2.1 ≤ 4

/-- The password is long enough and touches enough classes for the descriptor. -/
def Meets (policy password : Bytes) : Prop :=
  (passwordRequirements policy).1 ≤ password.length ∧
    (passwordRequirements policy).2.1 ≤ (touched password).length

instance : DecidablePred WellFormed := fun _ => inferInstanceAs (Decidable (_ ∧ _))

instance (policy password : Bytes) : Decidable (Meets policy password) :=
  inferInstanceAs (Decidable (_ ∧ _))

/-- When assure_password_strength accepts: the primary descriptor is well formed, and the
password meets it or, when the caller allows it, a configured legacy descriptor. -/
def StrengthOk (configuration : Configuration) (password : Bytes) (allowLegacy : Bool) : Prop :=
  WellFormed configuration.sitePasswordPolicy ∧
    (Meets configuration.sitePasswordPolicy password ∨
      (allowLegacy = true ∧ configuration.sitePasswordLegacyPolicy ≠ [] ∧
        WellFormed configuration.sitePasswordLegacyPolicy ∧
        Meets configuration.sitePasswordLegacyPolicy password))

/-! ### The classification loop -/

theorem class_string_ranges : (∀ x ∈ asciiLowercase, 97 ≤ x.toNat ∧ x.toNat ≤ 122) ∧
    (∀ x ∈ asciiUppercase, 65 ≤ x.toNat ∧ x.toNat ≤ 90) ∧
    (∀ x ∈ digits, 48 ≤ x.toNat ∧ x.toNat ≤ 57) := by
  decide

theorem class_strings_disjoint :
    (∀ i ∈ asciiLowercase, i ∉ asciiUppercase ∧ i ∉ digits) ∧
      (∀ i ∈ asciiUppercase, i ∉ digits) := by
  obtain ⟨hl, hu, hd⟩ := class_string_ranges
  refine ⟨fun i hi => ⟨fun h => ?_, fun h => ?_⟩, fun i hi h => ?_⟩
  · have := hl i hi; have := hu i h; omega
  · have := hl i hi; have := hd i h; omega
  · have := hu i hi; have := hd i h; omega

theorem mem_baseChars : i ∈ baseChars ↔ i ∈ asciiLowercase ∨ i ∈ asciiUppercase ∨ i ∈ digits := by
  simp [baseChars, charClassMap]

/-- One turn of the loop adds the character's class, unless it is collected already. -/
theorem classify_eq (pw : List CharClass) (i : UInt8) :
    classify pw i = if charClass i ∈ pw then pw else pw ++ [charClass i] := by
  obtain ⟨hl, hu⟩ := class_strings_disjoint
  by_cases h1 : i ∈ asciiLowercase
  · simp [classify, charClass, addClass, charClassMap, mem_baseChars, h1, hl i h1, ite_not]
  by_cases h2 : i ∈ asciiUppercase
  · simp [classify, charClass, addClass, charClassMap, mem_baseChars, h1, h2, hu i h2, ite_not]
  by_cases h3 : i ∈ digits
  · simp [classify, charClass, addClass, charClassMap, mem_baseChars, h1, h2, h3, ite_not]
  · simp [classify, charClass, addClass, charClassMap, mem_baseChars, h1, h2, h3, ite_not]

/-- The loop invariant: after a prefix, pw_classes lists each class the prefix touches,
once. -/
def Collected (pwClasses : List CharClass) (pre : Bytes) : Prop :=
  pwClasses.Nodup ∧ ∀ c, c ∈ pwClasses ↔ ∃ i ∈ pre, charClass i = c

theorem Collected.step (h : Collected pw pre) (i : UInt8) :
    Collected (classify pw i) (pre ++ [i]) := by
  obtain ⟨hnd, hmem⟩ := h
  rw [classify_eq]
  split
  · refine ⟨hnd, fun c => ?_⟩
    rw [hmem]
    simp only [List.mem_append, List.mem_singleton]
    constructor
    · rintro ⟨j, hj, rfl⟩; exact ⟨j, .inl hj, rfl⟩
    · rintro ⟨j, hj | rfl, rfl⟩
      · exact ⟨j, hj, rfl⟩
      · exact (hmem _).mp ‹_›
  · rename_i hnot
    refine ⟨List.nodup_append.mpr ⟨hnd, List.nodup_singleton _, by simpa using hnot⟩, fun c => ?_⟩
    simp only [List.mem_append, List.mem_singleton, hmem]
    constructor
    · rintro (⟨j, hj, rfl⟩ | rfl)
      · exact ⟨j, .inl hj, rfl⟩
      · exact ⟨i, .inr rfl, rfl⟩
    · rintro ⟨j, hj | rfl, rfl⟩
      · exact .inl ⟨j, hj, rfl⟩
      · exact .inr rfl

theorem Collected.foldl (h : Collected pw pre) (rest : Bytes) :
    Collected (rest.foldl classify pw) (pre ++ rest) := by
  induction rest generalizing pw pre with
  | nil => simpa using h
  | cons i rest ih => simpa using ih (h.step i)

/-- The loop counts each touched class exactly once. -/
theorem pwClasses_length (password : Bytes) : (pwClasses password).length = (touched password).length := by
  have hc : Collected (pwClasses password) password := by
    simpa using (show Collected [] [] by simp [Collected]).foldl password
  have hnd : (touched password).Nodup := List.Nodup.filter _ (by decide)
  refine ((List.perm_ext_iff_of_nodup hc.1 hnd).mpr fun c => ?_).length_eq
  have hall : c ∈ [CharClass.lower, .upper, .digits, .other] := by cases c <;> decide
  rw [hc.2]
  simp only [touched, List.mem_filter, hall, true_and, List.any_eq_true, beq_iff_eq]

/-- A password touches at most one class per character. -/
theorem touched_length_le (password : Bytes) : (touched password).length ≤ password.length := by
  have hnd : (touched password).Nodup := List.Nodup.filter _ (by decide)
  have hsub : touched password ⊆ password.map charClass := fun c hc => by
    obtain ⟨i, hi, hic⟩ := List.any_eq_true.mp (List.mem_filter.mp hc).2
    exact List.mem_map.mpr ⟨i, hi, beq_iff_eq.mp hic⟩
  simpa using (hnd.subperm hsub).length_le

/-- More characters touch no fewer classes. -/
theorem touched_append_length (l r : Bytes) : (touched l).length ≤ (touched (l ++ r)).length :=
  (List.monotone_filter_right _ fun c h => by simp_all [List.any_append]).length_le

/-! ### The helper -/

/-- The descriptor the helper reads: the legacy one under use_legacy. -/
def policyOf (configuration : Configuration) (useLegacy : Bool) : Bytes :=
  if useLegacy then configuration.sitePasswordLegacyPolicy else configuration.sitePasswordPolicy

/-- Everything the helper can do: an Exception on a malformed descriptor, a ValueError when
the password falls short of it, and otherwise True, unless cracklib is on. -/
theorem helper_cases (cracklib : Option Cracklib) (configuration : Configuration)
    (password : Bytes) (useLegacy : Bool) :
    let policy := policyOf configuration useLegacy
    let result := assurePasswordStrengthHelper cracklib configuration password useLegacy
    (¬ WellFormed policy ∧ ∃ m, result = .error (.exception m)) ∨
      (WellFormed policy ∧ ¬ Meets policy password ∧ ∃ m, result = .error (.valueError m)) ∨
      (WellFormed policy ∧ Meets policy password ∧
        (result = .ok true ∨ configuration.sitePasswordCracklib = true ∧ ∃ e, result = .error e)) := by
  have hparse : parsePasswordPolicy configuration useLegacy =
      ((passwordRequirements (policyOf configuration useLegacy)).1,
        (passwordRequirements (policyOf configuration useLegacy)).2.1) := rfl
  simp only [assurePasswordStrengthHelper, hparse, WellFormed, Meets, ← pwClasses_length]
  generalize passwordRequirements (policyOf configuration useLegacy) = r
  obtain ⟨minLen, minClasses, _⟩ := r
  dsimp only
  by_cases hwf : minLen < 0 ∨ minClasses > 4
  · rw [if_pos hwf]; exact .inl ⟨by omega, _, rfl⟩
  rw [if_neg hwf]
  by_cases hlen : (password.length : Int) < minLen
  · rw [if_pos hlen]; exact .inr (.inl ⟨by omega, by omega, _, rfl⟩)
  rw [if_neg hlen]
  by_cases hcls : ((pwClasses password).length : Int) < minClasses
  · rw [if_pos hcls]; exact .inr (.inl ⟨by omega, by omega, _, rfl⟩)
  rw [if_neg hcls]
  refine .inr (.inr ⟨by omega, by omega, ?_⟩)
  split
  · split
    · split <;> simp [*]
    · simp [*]
  · exact .inl rfl

section
variable {cracklib : Option Cracklib} {configuration : Configuration} {password : Bytes}

theorem helper_sound (useLegacy : Bool)
    (h : assurePasswordStrengthHelper cracklib configuration password useLegacy = .ok r) :
    WellFormed (policyOf configuration useLegacy) ∧
      Meets (policyOf configuration useLegacy) password := by
  rcases helper_cases cracklib configuration password useLegacy with
    ⟨-, m, hm⟩ | ⟨-, -, m, hm⟩ | ⟨hwf, hmeets, -⟩
  · rw [hm] at h; cases h
  · rw [hm] at h; cases h
  · exact ⟨hwf, hmeets⟩

theorem helper_valueError_wellFormed (useLegacy : Bool)
    (h : assurePasswordStrengthHelper cracklib configuration password useLegacy =
      .error (.valueError m)) :
    WellFormed (policyOf configuration useLegacy) := by
  rcases helper_cases cracklib configuration password useLegacy with
    ⟨-, m, hm⟩ | ⟨hwf, -⟩ | ⟨hwf, -⟩
  · rw [hm] at h; cases h
  · exact hwf
  · exact hwf

theorem helper_of_meets (useLegacy : Bool) (hoff : configuration.sitePasswordCracklib = false)
    (hwf : WellFormed (policyOf configuration useLegacy))
    (hmeets : Meets (policyOf configuration useLegacy) password) :
    assurePasswordStrengthHelper cracklib configuration password useLegacy = .ok true := by
  rcases helper_cases cracklib configuration password useLegacy with
    ⟨hn, -⟩ | ⟨-, hn, -⟩ | ⟨-, -, h | ⟨h, -⟩⟩
  · exact absurd hwf hn
  · exact absurd hmeets hn
  · exact h
  · rw [hoff] at h; cases h

theorem helper_of_not_meets (useLegacy : Bool) (hwf : WellFormed (policyOf configuration useLegacy))
    (hn : ¬ Meets (policyOf configuration useLegacy) password) :
    ∃ m, assurePasswordStrengthHelper cracklib configuration password useLegacy =
      .error (.valueError m) := by
  rcases helper_cases cracklib configuration password useLegacy with
    ⟨h, -⟩ | ⟨-, -, h⟩ | ⟨-, h, -⟩
  · exact absurd hwf h
  · exact h
  · exact absurd h hn

/-! ### assure_password_strength -/

/-- Whatever cracklib does, an accepted password meets the policy it was accepted under. -/
theorem assure_sound (h : assurePasswordStrength cracklib configuration password allowLegacy = .ok r) :
    r = true ∧ StrengthOk configuration password allowLegacy := by
  unfold assurePasswordStrength at h
  split at h
  next heq => cases h; exact ⟨rfl, (helper_sound false heq).1, .inl (helper_sound false heq).2⟩
  next heq =>
    have hwf := helper_valueError_wellFormed false heq
    split at h
    next hlegacy =>
      split at h
      next heq' =>
        cases h
        simp only [Bool.and_eq_true, Bool.not_eq_true', List.isEmpty_eq_false] at hlegacy
        exact ⟨rfl, hwf, .inr ⟨hlegacy.2, hlegacy.1, helper_sound true heq'⟩⟩
      next => cases h
    next => cases h
  next => cases h

/-- What the check accepts without the legacy fallback it accepts with it too. -/
theorem assure_of_strict (h : assurePasswordStrength cracklib configuration password false = .ok r)
    (allowLegacy : Bool) : assurePasswordStrength cracklib configuration password allowLegacy = .ok true := by
  unfold assurePasswordStrength at h ⊢
  cases hp : assurePasswordStrengthHelper cracklib configuration password false with
  | ok _ => rfl
  | error exc =>
    rw [hp] at h
    cases exc <;> simp at h

/-- With cracklib off, every password that meets the policy is accepted. -/
theorem assure_complete (hoff : configuration.sitePasswordCracklib = false)
    (h : StrengthOk configuration password allowLegacy) :
    assurePasswordStrength cracklib configuration password allowLegacy = .ok true := by
  obtain ⟨hwf, hor⟩ := h
  unfold assurePasswordStrength
  by_cases hm : Meets configuration.sitePasswordPolicy password
  · rw [helper_of_meets false hoff hwf hm]
  · obtain ⟨hallow, hne, hwf', hmeets'⟩ := hor.resolve_left hm
    obtain ⟨m, hm⟩ := helper_of_not_meets false hwf hm
    rw [hm, helper_of_meets true hoff hwf' hmeets']
    simp [hne, hallow]

end

theorem passwordRequirements_error_fst (h : (passwordRequirements policy).2.2 ≠ []) :
    (passwordRequirements policy).1 = -1 := by
  let Q : Int × Int × List String → Prop := fun r => r.2.2 = [] ∨ r.1 = -1
  refine (?_ : Q (passwordRequirements policy)).resolve_left h
  unfold passwordRequirements
  refine iteInduction (fun _ => .inl rfl) fun _ => iteInduction (fun _ => .inl rfl) fun _ =>
    iteInduction (fun _ => .inl rfl) fun _ => iteInduction (fun _ => .inl rfl) fun _ =>
    iteInduction (fun _ => ?_) fun _ => iteInduction (fun _ => ?_) fun _ => .inr rfl
  · cases modernMinLen policy
    · exact .inr rfl
    · exact .inl rfl
  · rcases customMins policy with _ | ⟨_, _⟩
    · exact .inr rfl
    · exact .inl rfl

theorem passwordRequirements_error_not_wellFormed (h : (passwordRequirements policy).2.2 ≠ []) :
    ¬ WellFormed policy := fun hwf => by
  have := passwordRequirements_error_fst h
  unfold WellFormed at hwf
  omega

/-- assure_password_strength accepts exactly the passwords that meet the primary policy, or
an allowed and configured legacy one; it never returns False; a descriptor reported as an
error is malformed; and with cracklib on, acceptance still implies the condition. -/
theorem assurePasswordStrength_correct :
    (∀ cracklib configuration password allowLegacy,
      configuration.sitePasswordCracklib = false →
        (assurePasswordStrength cracklib configuration password allowLegacy = .ok true ↔
          StrengthOk configuration password allowLegacy)) ∧
    (∀ cracklib configuration password allowLegacy,
      assurePasswordStrength cracklib configuration password allowLegacy = .ok true ∨
        ∃ exc, assurePasswordStrength cracklib configuration password allowLegacy = .error exc) ∧
    (∀ policy, (passwordRequirements policy).2.2 ≠ [] → ¬ WellFormed policy) ∧
    (∀ cracklib configuration password allowLegacy,
      assurePasswordStrength cracklib configuration password allowLegacy = .ok true →
        StrengthOk configuration password allowLegacy) := by
  refine ⟨fun _ _ _ _ hoff => ⟨fun h => (assure_sound h).2, assure_complete hoff⟩,
    fun cracklib configuration password allowLegacy => ?_,
    fun _ => passwordRequirements_error_not_wellFormed, fun _ _ _ _ h => (assure_sound h).2⟩
  cases h : assurePasswordStrength cracklib configuration password allowLegacy with
  | error exc => exact .inr ⟨exc, rfl⟩
  | ok r => exact .inl (by rw [(assure_sound h).1])

/-- The high policy accepts a ten-character password over all four classes, and rejects
an unknown keyword as malformed. -/
theorem assurePasswordStrength_correct_high :
    let configuration : Configuration := ⟨policyHigh, [], false, []⟩
    let password := str "aB3$efghij"
    assurePasswordStrength none configuration password false = .ok true ∧
      StrengthOk configuration password false ∧ ¬ WellFormed (str "bogus") :=
  have hok : assurePasswordStrength none ⟨policyHigh, [], false, []⟩ (str "aB3$efghij") false =
      .ok true := by decide
  ⟨hok, (assurePasswordStrength_correct.1 none _ _ false rfl).mp hok,
    assurePasswordStrength_correct.2.2.1 _ (by decide)⟩

/-! ### valid_login_password -/

/-- With cracklib off, valid_login_password accepts exactly the passwords that meet the
primary policy or a configured legacy one. -/
theorem validLoginPassword_iff :
    ∀ cracklib configuration password, configuration.sitePasswordCracklib = false →
      (validLoginPassword cracklib configuration password = true ↔
        StrengthOk configuration password true) := by
  intro cracklib configuration password hoff
  unfold validLoginPassword
  cases h : assurePasswordStrength cracklib configuration password true with
  | ok r => exact ⟨fun _ => (assure_sound h).2, fun _ => rfl⟩
  | error exc =>
    refine ⟨fun hf => Bool.noConfusion hf, fun hs => ?_⟩
    rw [assure_complete hoff hs] at h
    cases h

theorem validLoginPassword_iff_legacy :
    validLoginPassword none ⟨policyHigh, str "weak", false, []⟩ (str "abc123") = true ∧
      StrengthOk ⟨policyHigh, str "weak", false, []⟩ (str "abc123") true :=
  have h : validLoginPassword none ⟨policyHigh, str "weak", false, []⟩ (str "abc123") = true := by
    decide
  ⟨h, (validLoginPassword_iff none _ _ rfl).mp h⟩

/-! ### The cracklib switch -/

/-- With site_password_cracklib set and no cracklib module, the helper accepts nothing: it
raises once the policy checks pass. -/
theorem helper_without_module (configuration : Configuration) (password : Bytes) (useLegacy : Bool)
    (hon : configuration.sitePasswordCracklib = true) :
    ∀ r, assurePasswordStrengthHelper none configuration password useLegacy ≠ .ok r := by
  intro r h
  unfold assurePasswordStrengthHelper at h
  dsimp only at h
  split_ifs at h

/-- With site_password_cracklib set and no cracklib module, no path of the check accepts. -/
theorem assure_without_module (configuration : Configuration) (password : Bytes) (allowLegacy : Bool)
    (hon : configuration.sitePasswordCracklib = true) :
    ∀ r, assurePasswordStrength none configuration password allowLegacy ≠ .ok r := by
  intro r h
  unfold assurePasswordStrength at h
  split at h
  next heq => exact helper_without_module _ password false hon _ heq
  next =>
    split at h
    · split at h
      next heq => exact helper_without_module _ password true hon _ heq
      next => cases h
    · cases h
  next => cases h

/-- site_password_cracklib only refuses more: a password assure_password_strength accepts with
it set is accepted with it off, whatever cracklib decides; and set without the cracklib module,
it makes assure_password_strength accept no password at all, so valid_login_password is False
for every password. -/
theorem cracklib_only_refuses :
    (∀ cracklib policy legacyPolicy cracklibOn salt password allowLegacy,
      assurePasswordStrength cracklib ⟨policy, legacyPolicy, cracklibOn, salt⟩ password allowLegacy =
          .ok true →
        assurePasswordStrength cracklib ⟨policy, legacyPolicy, false, salt⟩ password allowLegacy =
          .ok true) ∧
    ∀ policy legacyPolicy salt password allowLegacy,
      assurePasswordStrength none ⟨policy, legacyPolicy, true, salt⟩ password allowLegacy ≠ .ok true ∧
        validLoginPassword none ⟨policy, legacyPolicy, true, salt⟩ password = false := by
  refine ⟨fun cracklib policy legacyPolicy cracklibOn salt password allowLegacy h =>
    assure_complete rfl (assure_sound h).2, fun policy legacyPolicy salt password allowLegacy =>
    ⟨assure_without_module _ password allowLegacy rfl true, ?_⟩⟩
  unfold validLoginPassword
  split
  next heq => exact absurd heq (assure_without_module _ password true rfl _)
  next => rfl

theorem cracklib_only_refuses_high :
    assurePasswordStrength (some ⟨fun _ _ => none⟩) ⟨policyHigh, [], false, []⟩ (str "aB3$efghij")
      false = .ok true :=
  cracklib_only_refuses.1 _ _ _ true _ _ _ (by decide)

end Migrid.Proofs.Strength
