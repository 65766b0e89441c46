import Migrid.Accountreq.Requests
import Migrid.Proofs.Peers

namespace Migrid.Proofs.OrgEmail
open Migrid Migrid.Proofs.Peers

section
variable (reMatch : Bytes → Bytes → Bool) (email : Bytes)

/-- Whether one of an organisation's patterns matches the email. -/
def hits (pair : Bytes × List Bytes) : Bool := pair.2.any fun forcedEmail => reMatch forcedEmail email

theorem find?_none_of_not_hits {pair : Bytes × List Bytes} (h : hits reMatch email pair = false) :
    pair.2.find? (fun forcedEmail => reMatch forcedEmail email) = none := by
  simpa [hits] using h

theorem find?_hit {pair : Bytes × List Bytes} (h : hits reMatch email pair = true) :
    ∃ hit, pair.2.find? (fun forcedEmail => reMatch forcedEmail email) = some hit := by
  cases hf : pair.2.find? (fun forcedEmail => reMatch forcedEmail email) with
  | some hit => exact ⟨hit, rfl⟩
  | none =>
    obtain ⟨x, hx, hm⟩ := List.any_eq_true.mp h
    exact absurd hm (by simp [List.find?_eq_none.mp hf x hx])

/-- Where no organisation scanned has a match, the loop leaves the state as it was, whether it
runs to the end or stops at the user's own organisation. -/
theorem scan_miss {tbl : List (Bytes × List Bytes)} (h : ∀ q ∈ tbl, hits reMatch email q = false)
    (state : Bytes) : orgEmailScan reMatch email isForcedOrg org tbl (false, state) = (false, state) := by
  induction tbl with
  | nil => rfl
  | cons q tbl ih =>
    have hq := find?_none_of_not_hits reMatch email (h q (List.mem_cons_self _ _))
    simp only [orgEmailScan, hq, Bool.false_or]
    split_ifs
    · rfl
    · exact ih fun r hr => h r (List.mem_cons_of_mem _ hr)

/-- For a user outside the forced organisations the loop runs to the first match, so it
reports a forced email exactly when some organisation has a matching pattern. -/
theorem scan_unforced (tbl : List (Bytes × List Bytes)) (state : Bytes) :
    (orgEmailScan reMatch email false org tbl (false, state)).1 = tbl.any (hits reMatch email) := by
  induction tbl with
  | nil => rfl
  | cons q tbl ih =>
    cases hq : hits reMatch email q with
    | false => simpa [orgEmailScan, find?_none_of_not_hits reMatch email hq, hq] using ih
    | true =>
      obtain ⟨hit, hhit⟩ := find?_hit reMatch email hq
      simp [orgEmailScan, hhit, hq]

/-- For a user of a forced organisation, in a table whose keys are unique and whose
organisations share no pattern, the loop ends on a pattern of the user's own organisation
exactly when that organisation is the first one with a match. -/
theorem scan_forced {tbl : List (Bytes × List Bytes)} {own : Bytes × List Bytes}
    (hnd : (tbl.map Prod.fst).Nodup) (hdisj : ∀ q ∈ tbl, ∀ r ∈ tbl, q.1 ≠ r.1 → ∀ p ∈ q.2, p ∉ r.2)
    (hown : own ∈ tbl) (state : Bytes) :
    ((orgEmailScan reMatch email true own.1 tbl (false, state)).1 &&
        own.2.contains (orgEmailScan reMatch email true own.1 tbl (false, state)).2) = true ↔
      (tbl.find? (hits reMatch email)).map Prod.fst = some own.1 := by
  induction tbl with
  | nil => cases hown
  | cons q tbl ih =>
    rw [List.map_cons, List.nodup_cons] at hnd
    have hrest : ∀ r ∈ tbl, r.1 ≠ q.1 := fun r hr h => hnd.1 (h ▸ List.mem_map_of_mem _ hr)
    cases hq : hits reMatch email q with
    | true =>
      obtain ⟨hit, hhit⟩ := find?_hit reMatch email hq
      have hmem := List.mem_of_find?_eq_some hhit
      simp only [orgEmailScan, hhit, Bool.true_or, if_true, List.find?_cons_of_pos _ hq,
        Option.map_some', Option.some.injEq, Bool.true_and, List.elem_iff]
      constructor
      · intro h
        by_contra hne
        exact hdisj q (List.mem_cons_self _ _) own hown hne hit hmem h
      · intro h
        rcases List.mem_cons.mp hown with rfl | hown
        · exact hmem
        · exact absurd h.symm (hrest own hown)
    | false =>
      have hfind := List.find?_cons_of_neg tbl (by simp [hq] : ¬hits reMatch email q = true)
      simp only [orgEmailScan, find?_none_of_not_hits reMatch email hq, Bool.false_or, hfind]
      by_cases hkey : own.1 = q.1
      · simp only [hkey, beq_self_eq_true, Bool.and_true, if_true, Bool.false_and,
          Bool.false_eq_true, false_iff]
        intro h
        obtain ⟨r, hr, hrkey⟩ := Option.map_eq_some'.mp h
        exact hrest r (List.mem_of_find?_eq_some hr) hrkey
      · have hown' : own ∈ tbl := (List.mem_cons.mp hown).resolve_left fun h => hkey (h ▸ rfl)
        simp only [beq_false_of_ne hkey, Bool.and_false, Bool.false_eq_true, if_false]
        exact ih hnd.2 (fun a ha b hb => hdisj a (List.mem_cons_of_mem _ ha) b
          (List.mem_cons_of_mem _ hb)) hown'

end

/-! ### The policy table -/

/-- The organisations of force_org_email in priority order, the KU catch-all last. -/
theorem forceOrgEmail_keys :
    forceOrgEmail.map Prod.fst = [str "DIKU", str "NBI", str "IMF", str "DTU", str "KU"] := by
  decide

theorem forceOrgEmail_keys_nodup : (forceOrgEmail.map Prod.fst).Nodup := by decide

theorem pyUpper_key : ∀ key ∈ forceOrgEmail.map Prod.fst, pyUpper key = key := by decide

theorem lookup_forceOrgEmail :
    ∀ pair ∈ forceOrgEmail, (dictOf forceOrgEmail).lookup pair.1 = some pair.2 := by decide

/-- No pattern belongs to two organisations. -/
theorem forceOrgEmail_disjoint :
    ∀ q ∈ forceOrgEmail, ∀ r ∈ forceOrgEmail, q.1 ≠ r.1 → ∀ p ∈ q.2, p ∉ r.2 := by decide

/-- Over force_org_email, whose organisations in priority order are DIKU, NBI, IMF, DTU and
KU, forced_org_email_match, with re.match any predicate, accepts exactly when the user's
organisation is not a forced one and no pattern matches the email, or it is the first
organisation in the priority order with a pattern that matches. -/
theorem forcedOrgEmailMatch_iff :
    forceOrgEmail.map Prod.fst = [str "DIKU", str "NBI", str "IMF", str "DTU", str "KU"] ∧
    ∀ (reMatch : Bytes → Bytes → Bool) org email,
      forcedOrgEmailMatch reMatch org email = true ↔
        (pyUpper org ∉ forceOrgEmail.map Prod.fst ∧
          ∀ pair ∈ forceOrgEmail, ∀ forcedEmail ∈ pair.2, reMatch forcedEmail email = false) ∨
        (forceOrgEmail.find? (hits reMatch email)).map Prod.fst = some (pyUpper org) := by
  refine ⟨forceOrgEmail_keys, fun reMatch org email => ?_⟩
  unfold forcedOrgEmailMatch
  dsimp only
  by_cases hforced : pyUpper org ∈ forceOrgEmail.map Prod.fst
  · have hdec : decide (pyUpper org ∈ dictOf forceOrgEmail) = true :=
      decide_eq_true ((mem_dictOf _ _).mpr hforced)
    obtain ⟨own, hown, hownkey⟩ := List.mem_map.mp hforced
    have hverdict := scan_forced reMatch email forceOrgEmail_keys_nodup forceOrgEmail_disjoint hown
      (str "__BOGUS__")
    rw [if_pos hdec, hdec, ← hownkey, lookup_forceOrgEmail own hown, Option.getD_some,
      or_iff_right fun h => h.1 (hownkey ▸ hforced), ← hverdict]
    rcases orgEmailScan reMatch email true own.1 forceOrgEmail (false, str "__BOGUS__") with ⟨_ | _, hit⟩ <;>
      simp
  · have hdec : decide (pyUpper org ∈ dictOf forceOrgEmail) = false :=
      decide_eq_false fun h => hforced ((mem_dictOf _ _).mp h)
    have hlookup : (dictOf forceOrgEmail).lookup org = none := by
      rw [AList.lookup_eq_none, mem_dictOf]
      exact fun h => hforced (by rw [pyUpper_key org h]; exact h)
    have hfst : (orgEmailScan reMatch email false org forceOrgEmail (false, str "__BOGUS__")).1 =
        forceOrgEmail.any (hits reMatch email) := scan_unforced reMatch email forceOrgEmail _
    rw [if_neg (by rw [hdec]; exact Bool.false_ne_true), hdec, hlookup, Option.getD_none]
    cases hany : forceOrgEmail.any (hits reMatch email) with
    | false =>
      have hmiss : ∀ q ∈ forceOrgEmail, hits reMatch email q = false := by simpa using hany
      rw [scan_miss reMatch email hmiss]
      exact iff_of_true rfl (.inl ⟨hforced, fun pair hp => by simpa [hits] using hmiss pair hp⟩)
    | true =>
      rcases hscan : orgEmailScan reMatch email false org forceOrgEmail (false, str "__BOGUS__") with
        ⟨flag, hit⟩
      rw [hscan, hany] at hfst
      subst hfst
      refine iff_of_false (by simp) fun h => ?_
      rcases h with ⟨-, hnone⟩ | hsome
      · obtain ⟨pair, hp, hpair⟩ := List.any_eq_true.mp hany
        obtain ⟨x, hx, hm⟩ := List.any_eq_true.mp hpair
        rw [hnone pair hp x hx] at hm
        cases hm
      · obtain ⟨pair, hpair, hkey⟩ := Option.map_eq_some'.mp hsome
        exact hforced (hkey ▸ List.mem_map_of_mem _ (List.mem_of_find?_eq_some hpair))

end Migrid.Proofs.OrgEmail
