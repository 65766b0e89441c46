import Migrid.Proofs.Strength
import Migrid.Proofs.Hash

namespace Migrid.Proofs.Generate
open Migrid Migrid.Proofs.Strength Migrid.Proofs.Hash

variable {cracklib : Option Cracklib} {configuration : Configuration}

/-- The retry loop returns one of its candidates, and only one that the check accepted. -/
theorem tryPasswords_ok (h : tryPasswords cracklib configuration candidates = .ok password) :
    password ∈ candidates ∧
      assurePasswordStrength cracklib configuration password false = .ok true := by
  induction candidates with
  | nil => cases h
  | cons candidate rest ih =>
    unfold tryPasswords at h
    split at h
    · next r hr =>
      cases h
      exact ⟨List.mem_cons_self _ _, (assure_sound hr).1 ▸ hr⟩
    · obtain ⟨hmem, hok⟩ := ih h
      exact ⟨List.mem_cons_of_mem _ hmem, hok⟩
    · cases h

theorem passwordCharset_ne_nil (classes : Int) : passwordCharset classes ≠ [] := by
  simp [passwordCharset, asciiLowercase, str]

theorem generateRandomAscii_spec (random : SystemRandom) (attempt count : Nat) (hne : charset ≠ []) :
    (generateRandomAscii random attempt count charset).length = count ∧
      ∀ c ∈ generateRandomAscii random attempt count charset, c ∈ charset := by
  refine ⟨by simp [generateRandomAscii], fun c hc => ?_⟩
  obtain ⟨j, -, rfl⟩ := List.mem_map.mp hc
  have hlt := Nat.mod_lt (random.choice attempt j) (List.length_pos.mpr hne)
  rw [List.getD_eq_getElem _ _ hlt]
  exact List.getElem_mem hlt

/-- The loop gives up once the check refuses every candidate with a ValueError. -/
theorem tryPasswords_refused (h : ∀ c ∈ candidates,
    ∃ m, assurePasswordStrength cracklib configuration c false = .error (.valueError m)) :
    tryPasswords cracklib configuration candidates =
      .error (.valueError "Failed to generate suitable password!") := by
  induction candidates with
  | nil => rfl
  | cons candidate rest ih =>
    obtain ⟨m, hm⟩ := h candidate (List.mem_cons_self _ _)
    simp only [tryPasswords, hm]
    exact ih fun c hc => h c (List.mem_cons_of_mem _ hc)

/-- A password shorter than the class count cannot touch enough classes. -/
theorem assure_fewer_than_classes (hwf : WellFormed configuration.sitePasswordPolicy)
    (hshort : (password.length : Int) < (passwordRequirements configuration.sitePasswordPolicy).2.1) :
    ∃ m, assurePasswordStrength cracklib configuration password false = .error (.valueError m) := by
  have hn : ¬ Meets configuration.sitePasswordPolicy password := fun hm => by
    have := touched_length_le password
    have := hm.2
    omega
  obtain ⟨m, hm⟩ : ∃ m, assurePasswordStrengthHelper cracklib configuration password false =
      .error (.valueError m) := helper_of_not_meets false hwf hn
  exact ⟨m, by simp [assurePasswordStrength, hm]⟩

/-- A password the site generates lets its user log in: valid_login_password accepts it, and
check_hash under the strict policy accepts it against its own make_hash record, whatever the
hashlib, pbkdf2_bin, salt, cache dict and allow_legacy. -/
theorem generateRandomPassword_login
    (h : generateRandomPassword cracklib configuration random tries = .ok password) :
    validLoginPassword cracklib configuration password = true ∧
      ∀ (hashlib : Hashlib) (pbkdf2 : Pbkdf2) (urandom : Bytes) (hashCache : Option Cache) allowLegacy,
        (checkHash hashlib pbkdf2 cracklib configuration password (some (makeHash pbkdf2 password urandom))
          hashCache true allowLegacy).1 = .ok true := by
  have hok := (tryPasswords_ok h).2
  refine ⟨by rw [validLoginPassword, assure_of_strict hok true], fun hashlib pbkdf2 urandom hashCache allowLegacy =>
    checkHash_makeHash (fun _ => assure_of_strict hok allowLegacy) hashlib pbkdf2 urandom hashCache⟩

theorem generateRandomPassword_login_weak :
    generateRandomPassword none ⟨policyWeak, [], false, []⟩ ⟨fun _ j => if j % 2 = 0 then 0 else 26⟩ 42 =
        .ok (str "aAaAaA") ∧
      validLoginPassword none ⟨policyWeak, [], false, []⟩ (str "aAaAaA") = true :=
  have h : generateRandomPassword none ⟨policyWeak, [], false, []⟩
      ⟨fun _ j => if j % 2 = 0 then 0 else 26⟩ 42 = .ok (str "aAaAaA") := by decide
  ⟨h, (generateRandomPassword_login h).1⟩

/-- One character of each class in the order the charset grows: lower case, upper case, a
digit and punctuation. -/
def classSample : Bytes := str "aA0,"

theorem classSample_take : ∀ j ≤ 4,
    (touched (classSample.take j)).length = j ∧ ∀ c ∈ classSample.take j, c ∈ passwordCharset j := by
  decide

theorem lower_mem_passwordCharset (classes : Int) : 97 ∈ passwordCharset classes :=
  List.mem_append_left _ (List.mem_append_left _ (List.mem_append_left _ (by decide)))

/-- With cracklib off and a well-formed primary descriptor, some string of exactly min_len
characters over the generator's charset passes assure_password_strength exactly when
min_classes is at most min_len. -/
theorem generator_draw_accepted_iff :
    ∀ cracklib configuration, configuration.sitePasswordCracklib = false →
      0 ≤ (parsePasswordPolicy configuration false).1 →
      (parsePasswordPolicy configuration false).2 ≤ 4 →
      ((∃ password : Bytes, password.length = (parsePasswordPolicy configuration false).1.toNat ∧
          (∀ c ∈ password, c ∈ passwordCharset (parsePasswordPolicy configuration false).2) ∧
          assurePasswordStrength cracklib configuration password false = .ok true) ↔
        (parsePasswordPolicy configuration false).2 ≤ (parsePasswordPolicy configuration false).1) := by
  intro cracklib configuration hoff hn hk
  have hparse : parsePasswordPolicy configuration false =
      ((passwordRequirements configuration.sitePasswordPolicy).1,
        (passwordRequirements configuration.sitePasswordPolicy).2.1) := rfl
  rw [hparse] at hn hk ⊢
  dsimp only at hn hk ⊢
  set n := (passwordRequirements configuration.sitePasswordPolicy).1
  set k := (passwordRequirements configuration.sitePasswordPolicy).2.1
  constructor
  · rintro ⟨password, hlen, -, hok⟩
    obtain ⟨-, hmeets | ⟨hfalse, -⟩⟩ := (assure_sound hok).2
    · have := touched_length_le password
      have := hmeets.2
      omega
    · cases hfalse
  · intro hkn
    obtain ⟨htouched, hcharset⟩ := classSample_take k.toNat (by omega)
    have hlen : (classSample.take k.toNat ++ List.replicate (n.toNat - k.toNat) 97).length = n.toNat := by
      simp only [List.length_append, List.length_take, List.length_replicate,
        show classSample.length = 4 from rfl]
      omega
    have hgrow := touched_append_length (classSample.take k.toNat) (List.replicate (n.toNat - k.toNat) 97)
    refine ⟨_, hlen, fun c hc => ?_, assure_complete hoff ⟨⟨hn, hk⟩, .inl ⟨by omega, by omega⟩⟩⟩
    rcases List.mem_append.mp hc with hc | hc
    · have hk0 : 0 ≤ k := by
        by_contra hneg
        rw [Int.toNat_eq_zero.mpr (by omega)] at hc
        cases hc
      simpa [Int.toNat_of_nonneg hk0] using hcharset c hc
    · rw [List.eq_of_mem_replicate hc]
      exact lower_mem_passwordCharset _

theorem generator_draw_accepted_iff_high :
    ∃ password : Bytes,
      password.length = (parsePasswordPolicy ⟨policyHigh, [], false, []⟩ false).1.toNat ∧
        (∀ c ∈ password, c ∈ passwordCharset (parsePasswordPolicy ⟨policyHigh, [], false, []⟩ false).2) ∧
        assurePasswordStrength none ⟨policyHigh, [], false, []⟩ password false = .ok true :=
  (generator_draw_accepted_iff none _ rfl (by decide) (by decide)).mpr (by decide)

/-- Under custom:3:4 a password needs four classes, which three characters cannot touch:
the descriptor is well formed and met, yet every draw is refused and the generator gives up,
whatever it draws and however often it tries. -/
theorem generateRandomPassword_custom_short :
    parsePasswordPolicy ⟨str "custom:3:4", [], false, []⟩ false = (3, 4) ∧
      assurePasswordStrength none ⟨str "custom:3:4", [], false, []⟩ (str "aA1,") false = .ok true ∧
      (∀ password : Bytes, password.length = 3 →
        assurePasswordStrength none ⟨str "custom:3:4", [], false, []⟩ password false ≠ .ok true) ∧
      ∀ random tries, generateRandomPassword none ⟨str "custom:3:4", [], false, []⟩ random tries =
        .error (.valueError "Failed to generate suitable password!") := by
  have hparse : parsePasswordPolicy ⟨str "custom:3:4", [], false, []⟩ false = (3, 4) := by decide
  have hrefused : ∀ password : Bytes, password.length = 3 → ∃ m,
      assurePasswordStrength none ⟨str "custom:3:4", [], false, []⟩ password false =
        .error (.valueError m) := fun password hlen =>
    assure_fewer_than_classes (by decide) (by rw [hlen]; decide)
  refine ⟨hparse, by decide, fun password hlen h => ?_, fun random tries => ?_⟩
  · obtain ⟨m, hm⟩ := hrefused password hlen
    rw [hm] at h
    cases h
  · rw [generateRandomPassword, hparse]
    refine tryPasswords_refused fun c hc => ?_
    obtain ⟨attempt, -, rfl⟩ := List.mem_map.mp hc
    exact hrefused _ (generateRandomAscii_spec random attempt 3 (passwordCharset_ne_nil _)).1

end Migrid.Proofs.Generate
