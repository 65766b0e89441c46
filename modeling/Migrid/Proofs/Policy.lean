import Migrid.Pwhash.Policy
import Migrid.Proofs.Numbers

namespace Migrid.Proofs.Policy
open Migrid Migrid.Proofs.Numbers

/-! ### str.split with maxsplit -/

theorem splitMax_append (hh : sep ∉ head) (n : Nat) (rest : Bytes) :
    splitMax sep (n + 1) (head ++ sep :: rest) = head :: splitMax sep n rest := by
  have hpos : ∀ a ∈ head, (a != sep) = true := fun a ha => bne_iff_ne.mpr fun h => hh (h ▸ ha)
  have hspan : (head ++ sep :: rest).span (· != sep) = (head, sep :: rest) := by
    rw [List.span_eq_take_drop, List.takeWhile_append_of_pos hpos, List.dropWhile_append_of_pos hpos]
    simp
  simp only [splitMax, hspan]

theorem splitMax_eq_cons (h : splitMax sep (n + 1) s = head :: tl) (htl : tl ≠ []) :
    ∃ rest, s = head ++ sep :: rest ∧ sep ∉ head ∧ tl = splitMax sep n rest := by
  unfold splitMax at h
  rw [List.span_eq_take_drop] at h
  split at h
  · next head' x rest heq =>
    obtain ⟨rfl, rfl⟩ := List.cons.inj h
    obtain ⟨htake, hdrop⟩ := Prod.mk.inj heq
    have hx : x = sep := by
      have := List.head_dropWhile_not (· != sep) s (by simp [hdrop])
      simpa [hdrop] using this
    refine ⟨rest, ?_, fun hm => ?_, rfl⟩
    · rw [← List.takeWhile_append_dropWhile (· != sep) s, htake, hdrop, hx]
    · exact absurd (List.mem_takeWhile_imp (htake ▸ hm)) (by simp)
  · next => exact absurd (List.cons.inj h).2.symm htl


theorem splitMax_zero (sep : UInt8) (s : Bytes) : splitMax sep 0 s = [s] := rfl

/-! ### The descriptors password_requirements reads -/

/-- The descriptors password_requirements reads without an error, with the pair it returns:
the four keywords compared whole, and the modern and custom keywords matched as a prefix,
followed by any text up to the first ':' and then literals that int() reads. -/
inductive Descriptor : Bytes → Int → Int → Prop
  | none : Descriptor policyNone 0 0
  | weak : Descriptor policyWeak 6 2
  | medium : Descriptor policyMedium 8 3
  | high : Descriptor policyHigh 10 4
  | modern (ext minLenStr : Bytes) (minLen : Int) : 58 ∉ ext →
      pyInt 10 minLenStr = some minLen → Descriptor (policyModern ++ ext ++ 58 :: minLenStr) minLen 1
  | custom (ext minLenStr minClassesStr : Bytes) (minLen minClasses : Int) : 58 ∉ ext →
      pyInt 10 minLenStr = some minLen → pyInt 10 minClassesStr = some minClasses →
      Descriptor (policyCustom ++ ext ++ 58 :: (minLenStr ++ 58 :: minClassesStr)) minLen minClasses

theorem modernMinLen_ok : modernMinLen s = .ok n ↔
    ∃ head minLenStr, s = head ++ 58 :: minLenStr ∧ 58 ∉ head ∧ pyInt 10 minLenStr = some n := by
  constructor
  · intro h
    unfold modernMinLen at h
    split at h
    · next head minLenStr hsplit =>
      obtain ⟨rest, rfl, hh, hrest⟩ := splitMax_eq_cons hsplit (List.cons_ne_nil _ _)
      obtain rfl : minLenStr = rest := List.cons.inj hrest |>.1
      exact ⟨head, minLenStr, rfl, hh, pyIntE_ok.mp h⟩
    · cases h
  · rintro ⟨head, minLenStr, rfl, hh, hn⟩
    rw [modernMinLen, splitMax_append hh, splitMax_zero]
    exact pyIntE_ok.mpr hn

theorem customMins_ok : customMins s = .ok (n, k) ↔
    ∃ head minLenStr minClassesStr, s = head ++ 58 :: (minLenStr ++ 58 :: minClassesStr) ∧
      58 ∉ head ∧ pyInt 10 minLenStr = some n ∧ pyInt 10 minClassesStr = some k := by
  constructor
  · intro h
    unfold customMins at h
    split at h
    · next head minLenStr minClassesStr hsplit =>
      obtain ⟨rest, rfl, hh, hrest⟩ := splitMax_eq_cons hsplit (List.cons_ne_nil _ _)
      obtain ⟨rest', rfl, hl, hrest'⟩ := splitMax_eq_cons hrest.symm (List.cons_ne_nil _ _)
      obtain rfl : minClassesStr = rest' := List.cons.inj hrest' |>.1
      split at h
      · next a b ha hb =>
        cases h
        exact ⟨head, minLenStr, minClassesStr, rfl, hh, pyIntE_ok.mp ha, pyIntE_ok.mp hb⟩
      · cases h
      · cases h
    · cases h
  · rintro ⟨head, minLenStr, minClassesStr, rfl, hh, hn, hk⟩
    rw [customMins, splitMax_append hh, splitMax_append (pyInt_ten_colon hn), splitMax_zero]
    simp only [pyIntE_ok.mpr hn, pyIntE_ok.mpr hk]

section
variable {kw head rest s q : Bytes} {n k : Int}

/-- A keyword without the separator that starts a string starts the text before the
string's first separator. -/
theorem keyword_head (hp : kw.isPrefixOf (head ++ 58 :: rest) = true) (hkw : 58 ∉ kw) :
    ∃ ext, head = kw ++ ext := by
  obtain ⟨t, ht⟩ := List.isPrefixOf_iff_prefix.mp hp
  rcases List.append_eq_append_iff.mp ht with ⟨ext, rfl, -⟩ | ⟨c, rfl, hc⟩
  · exact ⟨ext, rfl⟩
  · cases c with
    | nil => exact ⟨[], by simp⟩
    | cons y c => exact absurd (by simp [(List.cons.inj hc).1]) hkw

theorem ne_of_isPrefixOf (hp : kw.isPrefixOf s = true) (hq : kw.isPrefixOf q = false) : s ≠ q :=
  fun h => by rw [h, hq] at hp; cases hp

theorem isPrefixOf_append (kw t : Bytes) : kw.isPrefixOf (kw ++ t) = true :=
  List.isPrefixOf_iff_prefix.mpr (List.prefix_append kw t)

theorem modern_not_custom (t : Bytes) : policyModern.isPrefixOf (policyCustom ++ t) = false := rfl

/-- The modern branch without an error is the modern form. -/
theorem modern_descriptor (hp : policyModern.isPrefixOf s = true) (h : modernMinLen s = .ok n) :
    Descriptor s n 1 := by
  obtain ⟨head, minLenStr, rfl, hh, hn⟩ := modernMinLen_ok.mp h
  obtain ⟨ext, rfl⟩ := keyword_head hp (by decide)
  exact List.append_assoc _ _ _ ▸ .modern ext minLenStr n (fun hm => hh (by simp [hm])) hn

/-- The custom branch without an error is the custom form. -/
theorem custom_descriptor (hp : policyCustom.isPrefixOf s = true) (h : customMins s = .ok (n, k)) :
    Descriptor s n k := by
  obtain ⟨head, minLenStr, minClassesStr, rfl, hh, hn, hk⟩ := customMins_ok.mp h
  obtain ⟨ext, rfl⟩ := keyword_head hp (by decide)
  exact List.append_assoc _ _ _ ▸ .custom ext minLenStr minClassesStr n k
    (fun hm => hh (by simp [hm])) hn hk

/-- Soundness: a result without errors comes from a descriptor of the grammar. -/
theorem descriptor_of_passwordRequirements (h : passwordRequirements s = (n, k, [])) :
    Descriptor s n k := by
  let Q : Int × Int × List String → Prop := fun r => r.2.2 = [] → Descriptor s r.1 r.2.1
  suffices hQ : Q (passwordRequirements s) by rw [h] at hQ; exact hQ rfl
  unfold passwordRequirements
  refine iteInduction (fun hs _ => hs ▸ .none) fun _ => iteInduction (fun hs _ => hs ▸ .weak) fun _ =>
    iteInduction (fun hs _ => hs ▸ .medium) fun _ => iteInduction (fun hs _ => hs ▸ .high) fun _ =>
    iteInduction (fun hp => ?_) fun _ => iteInduction (fun hp => ?_) fun _ h =>
      absurd h (List.cons_ne_nil _ _)
  · cases hm : modernMinLen s with
    | ok n => exact fun _ => modern_descriptor hp hm
    | error e => exact fun h => absurd h (List.cons_ne_nil _ _)
  · cases hm : customMins s with
    | ok r => exact fun _ => custom_descriptor hp hm
    | error e => exact fun h => absurd h (List.cons_ne_nil _ _)

/-- Completeness: every descriptor of the grammar is read without errors, to its pair. -/
theorem passwordRequirements_of_descriptor (h : Descriptor s n k) :
    passwordRequirements s = (n, k, []) := by
  cases h with
  | none => decide
  | weak => decide
  | medium => decide
  | high => decide
  | modern ext minLenStr n hext hn =>
    have hp := isPrefixOf_append policyModern (ext ++ 58 :: minLenStr)
    rw [← List.append_assoc] at hp
    unfold passwordRequirements
    rw [if_neg (ne_of_isPrefixOf hp (by decide)), if_neg (ne_of_isPrefixOf hp (by decide)),
      if_neg (ne_of_isPrefixOf hp (by decide)), if_neg (ne_of_isPrefixOf hp (by decide)), if_pos hp,
      modernMinLen_ok.mpr ⟨_, _, rfl, List.not_mem_append (by decide) hext, hn⟩]
  | custom ext minLenStr minClassesStr n k hext hn hk =>
    have hp := isPrefixOf_append policyCustom (ext ++ 58 :: (minLenStr ++ 58 :: minClassesStr))
    rw [← List.append_assoc] at hp
    unfold passwordRequirements
    rw [if_neg (ne_of_isPrefixOf hp (by decide)), if_neg (ne_of_isPrefixOf hp (by decide)),
      if_neg (ne_of_isPrefixOf hp (by decide)), if_neg (ne_of_isPrefixOf hp (by decide)),
      if_neg (by rw [List.append_assoc, modern_not_custom]; exact Bool.false_ne_true), if_pos hp,
      customMins_ok.mpr ⟨_, _, _, rfl, List.not_mem_append (by decide) hext, hn, hk⟩]

end

/-! ### The grammar of the spec -/

/-- A decimal natural number as the spec's grammar writes N: one or more ASCII digits. -/
def isDecimal (s : Bytes) : Bool := !s.isEmpty && s.all fun c => 48 ≤ c && c ≤ 57

/-- The descriptors the spec's grammar lists: the four keywords, modern:N, and custom:N:M
with N and M decimal and M at most 4. -/
def specDescriptor (s : Bytes) : Bool :=
  s == policyNone || s == policyWeak || s == policyMedium || s == policyHigh ||
    match pySplit 58 s with
    | [keyword, minLen] => keyword == policyModern && isDecimal minLen
    | [keyword, minLen, minClasses] =>
      keyword == policyCustom && isDecimal minLen && isDecimal minClasses &&
        decide (digitsValue 10 (minClasses.map digitValue) ≤ 4)
    | _ => false

theorem pyInt_decimal (h : isDecimal s = true) :
    pyInt 10 s = some (digitsValue 10 (s.map digitValue)) := by
  simp only [isDecimal, Bool.and_eq_true, Bool.not_eq_true', List.isEmpty_eq_false,
    List.all_eq_true, decide_eq_true_eq] at h
  have hdig : ∀ c ∈ s, digitValue c < 10 := fun c hc => by
    have hc' := h.2 c hc
    rw [digitValue, if_pos hc']
    simp only [byte_le_iff, UInt8.reduceToNat] at hc'
    omega
  exact pyInt_digits (by norm_num) hdig (List.ne_nil_of_length_pos (List.length_pos.mpr h.1))
    (by unfold dropHexPrefix; rfl)

/-- Every form of the spec's grammar is a descriptor with min_len at least 0 and min_classes
from 0 to 4. -/
theorem descriptor_of_spec (h : specDescriptor s = true) :
    ∃ n k, Descriptor s n k ∧ 0 ≤ n ∧ 0 ≤ k ∧ k ≤ 4 := by
  simp only [specDescriptor, Bool.or_eq_true, beq_iff_eq] at h
  rcases h with (((rfl | rfl) | rfl) | rfl) | h
  · exact ⟨_, _, .none, by norm_num⟩
  · exact ⟨_, _, .weak, by norm_num⟩
  · exact ⟨_, _, .medium, by norm_num⟩
  · exact ⟨_, _, .high, by norm_num⟩
  have hs : [(58 : UInt8)].intercalate (s.splitOn 58) = s := List.intercalate_splitOn s 58
  split at h
  · next keyword minLen hsplit =>
    simp only [Bool.and_eq_true, beq_iff_eq] at h
    obtain ⟨rfl, hn⟩ := h
    rw [← pySplit, hsplit] at hs
    have hs' : s = policyModern ++ [] ++ 58 :: minLen := by rw [← hs]; simp [List.intercalate]
    rw [hs']
    exact ⟨_, 1, .modern [] minLen _ (List.not_mem_nil _) (pyInt_decimal hn), by omega, by omega⟩
  · next keyword minLen minClasses hsplit =>
    simp only [Bool.and_eq_true, beq_iff_eq, decide_eq_true_eq] at h
    obtain ⟨⟨⟨rfl, hn⟩, hk⟩, hk4⟩ := h
    rw [← pySplit, hsplit] at hs
    have hs' : s = policyCustom ++ [] ++ 58 :: (minLen ++ 58 :: minClasses) := by
      rw [← hs]; simp [List.intercalate]
    rw [hs']
    exact ⟨_, _, .custom [] minLen minClasses _ _ (List.not_mem_nil _) (pyInt_decimal hn)
      (pyInt_decimal hk), by omega, by omega, by omega⟩
  · cases h

/-- password_requirements reads exactly the grammar `Descriptor`, with the modern and custom
keywords matched as prefixes and their numbers read by int(). Every form of the spec's
grammar is such a descriptor within the bounds; outside them the result has an error, a
negative min_len, or a min_classes outside 0 to 4. -/
theorem passwordRequirements_grammar :
    (∀ s n k, passwordRequirements s = (n, k, []) ↔ Descriptor s n k) ∧
    (∀ s, specDescriptor s = true → ∃ n k, Descriptor s n k ∧ 0 ≤ n ∧ 0 ≤ k ∧ k ≤ 4) ∧
    (∀ s, (¬ ∃ n k, Descriptor s n k ∧ 0 ≤ n ∧ 0 ≤ k ∧ k ≤ 4) →
      (passwordRequirements s).2.2 ≠ [] ∨ (passwordRequirements s).1 < 0 ∨
        (passwordRequirements s).2.1 < 0 ∨ 4 < (passwordRequirements s).2.1) := by
  refine ⟨fun s n k => ⟨descriptor_of_passwordRequirements, passwordRequirements_of_descriptor⟩,
    fun s => descriptor_of_spec, fun s hout => ?_⟩
  rcases hr : passwordRequirements s with ⟨n, k, errors⟩
  by_contra hin
  simp only [not_or, not_lt, ne_eq, not_not] at hin
  obtain ⟨rfl, hn, hk, hk4⟩ := hin
  exact hout ⟨n, k, descriptor_of_passwordRequirements hr, hn, hk, hk4⟩

theorem passwordRequirements_grammar_custom :
    specDescriptor (str "custom:12:3") = true ∧
      (∃ n k, Descriptor (str "custom:12:3") n k ∧ 0 ≤ n ∧ 0 ≤ k ∧ k ≤ 4) ∧
      Descriptor (str "modern:+5") 5 1 :=
  have h : specDescriptor (str "custom:12:3") = true := by decide
  ⟨h, passwordRequirements_grammar.2.1 _ h, (passwordRequirements_grammar.1 _ _ _).mp (by decide)⟩

/-- An extended keyword and a signed number read as a modern descriptor outside the spec's
grammar, and a negative class count reads without an error and passes the helper's bounds. -/
theorem passwordRequirements_outside_grammar :
    passwordRequirements (str "modernx:5") = (5, 1, []) ∧ specDescriptor (str "modernx:5") = false ∧
      passwordRequirements (str "modern:+5") = (5, 1, []) ∧
      specDescriptor (str "modern:+5") = false ∧
      passwordRequirements (str "custom:5:-1") = (5, -1, []) ∧
      specDescriptor (str "custom:5:-1") = false := by
  decide

end Migrid.Proofs.Policy
