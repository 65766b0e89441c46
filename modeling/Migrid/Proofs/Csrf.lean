import Migrid.Proofs.Scramble

namespace Migrid.Proofs.Csrf
open Migrid Migrid.Proofs.Numbers Migrid.Proofs.Codec Migrid.Proofs.Hash Migrid.Proofs.Scramble

/-! ### Python's order on str -/

theorem bytesLe_total : ∀ a b : Bytes, bytesLe a b = true ∨ bytesLe b a = true
  | [], _ => .inl rfl
  | _ :: _, [] => .inr rfl
  | a :: as, b :: bs => by
    simp only [bytesLe, Bool.or_eq_true, Bool.and_eq_true, beq_iff_eq, decide_eq_true_eq,
      byte_lt_iff]
    rcases Nat.lt_trichotomy a.toNat b.toNat with h | h | h
    · exact .inl (.inl h)
    · obtain rfl := byte_eq_iff.mpr h
      rcases bytesLe_total as bs with h | h
      · exact .inl (.inr ⟨rfl, h⟩)
      · exact .inr (.inr ⟨rfl, h⟩)
    · exact .inr (.inl h)

theorem bytesLe_trans : ∀ a b c : Bytes, bytesLe a b = true → bytesLe b c = true → bytesLe a c = true
  | [], _, _, _, _ => rfl
  | _ :: _, [], _, h, _ => by cases h
  | _ :: _, _ :: _, [], _, h => by cases h
  | a :: as, b :: bs, c :: cs, h1, h2 => by
    simp only [bytesLe, Bool.or_eq_true, Bool.and_eq_true, beq_iff_eq, decide_eq_true_eq,
      byte_lt_iff] at *
    rcases h1 with h1 | ⟨rfl, h1⟩ <;> rcases h2 with h2 | ⟨rfl, h2⟩
    · exact .inl (by omega)
    · exact .inl h1
    · exact .inl h2
    · exact .inr ⟨rfl, bytesLe_trans as bs cs h1 h2⟩

theorem bytesLe_antisymm : ∀ a b : Bytes, bytesLe a b = true → bytesLe b a = true → a = b
  | [], [], _, _ => rfl
  | [], _ :: _, _, h => by cases h
  | _ :: _, [], h, _ => by cases h
  | a :: as, b :: bs, h1, h2 => by
    simp only [bytesLe, Bool.or_eq_true, Bool.and_eq_true, beq_iff_eq, decide_eq_true_eq,
      byte_lt_iff] at *
    rcases h1 with h1 | ⟨rfl, h1⟩
    · rcases h2 with h2 | ⟨rfl, -⟩ <;> omega
    · rcases h2 with h2 | ⟨-, h2⟩
      · omega
      · rw [bytesLe_antisymm as bs h1 h2]

instance bytesLe_isTotal : IsTotal Bytes (fun a b => bytesLe a b) := ⟨bytesLe_total⟩
instance bytesLe_isTrans : IsTrans Bytes (fun a b => bytesLe a b) := ⟨bytesLe_trans⟩
instance bytesLe_isAntisymm : IsAntisymm Bytes (fun a b => bytesLe a b) := ⟨bytesLe_antisymm⟩

/-! ### The canonical form of the arguments -/

theorem sortedKeys_eq (args : Args) :
    sortedKeys args = args.keys.insertionSort (fun a b => bytesLe a b) := by
  unfold sortedKeys
  split_ifs with h
  · simp [AList.keys, List.isEmpty_iff.mp h]
  · rfl

/-- The keys in skip_fields drop out of the loop. -/
theorem foldl_skip (skipFields : List Bytes) (step : Bytes → Bytes → Bytes) (keys : List Bytes)
    (init : Bytes) :
    keys.foldl (fun acc key => if key ∈ skipFields then acc else step acc key) init =
      (keys.filter fun key : Bytes => decide (key ∉ skipFields)).foldl step init := by
  induction keys generalizing init with
  | nil => rfl
  | cons key keys ih => by_cases hk : key ∈ skipFields <;> simp [hk, ih]

/-- The sorted keys outside skip_fields depend only on which keys are there. -/
theorem filter_sortedKeys {A B : Args} {skipFields : List Bytes}
    (h : ∀ key, key ∉ skipFields → A.lookup key = B.lookup key) :
    (sortedKeys A).filter (fun key => decide (key ∉ skipFields)) =
      (sortedKeys B).filter (fun key => decide (key ∉ skipFields)) := by
  have hmem : ∀ key, key ∈ A.keys.filter (fun key => decide (key ∉ skipFields)) ↔
      key ∈ B.keys.filter (fun key => decide (key ∉ skipFields)) := fun key => by
    simp only [List.mem_filter, ← AList.mem_keys, ← AList.lookup_isSome, decide_eq_true_eq]
    exact ⟨fun ⟨hA, hk⟩ => ⟨h key hk ▸ hA, hk⟩, fun ⟨hB, hk⟩ => ⟨(h key hk).symm ▸ hB, hk⟩⟩
  have hperm := (List.perm_ext_iff_of_nodup ((AList.keys_nodup A).filter _)
    ((AList.keys_nodup B).filter _)).mpr hmem
  rw [sortedKeys_eq, sortedKeys_eq]
  exact List.eq_of_perm_of_sorted
    (((List.perm_insertionSort _ _).filter _).trans (hperm.trans
      ((List.perm_insertionSort _ _).filter _).symm))
    ((List.sorted_insertionSort _ _).filter _) ((List.sorted_insertionSort _ _).filter _)

theorem csrfOp_eq {A B : Args} {skipFields : List Bytes}
    (h : ∀ key, key ∉ skipFields → A.lookup key = B.lookup key) (operation : Bytes) :
    csrfOp operation A skipFields = csrfOp operation B skipFields := by
  unfold csrfOp
  rw [foldl_skip, foldl_skip, filter_sortedKeys h]
  refine List.foldl_ext _ _ _ fun acc key hkey => ?_
  rw [h key (by simpa using (List.mem_filter.mp hkey).2)]

/-! ### Trust tokens -/

/-- Argument maps that agree outside skip_fields give make_csrf_token the same operation
string, and so the same trust token. -/
theorem csrfTrustToken_agree :
    ∀ (hashlib : Hashlib) configuration method operation clientId limit skipFields (A B : Args),
      (∀ key, key ∉ skipFields → A.lookup key = B.lookup key) →
      csrfOp operation A skipFields = csrfOp operation B skipFields ∧
        makeCsrfTrustToken hashlib configuration method operation A clientId limit skipFields =
          makeCsrfTrustToken hashlib configuration method operation B clientId limit skipFields := by
  intro _ _ _ operation _ _ _ _ _ h
  have hop := csrfOp_eq h operation
  exact ⟨hop, by rw [makeCsrfTrustToken, hop]; rfl⟩

theorem csrfTrustToken_agree_skip :
    csrfOp (str "op") ((∅ : Args).insert (str "a") [str "1"]) [str "csrf"] =
        csrfOp (str "op") (((∅ : Args).insert (str "a") [str "1"]).insert (str "csrf") [str "t"])
          [str "csrf"] ∧
      makeCsrfTrustToken sampleHashlib ⟨policyNone, [], false, str "ff"⟩ (str "GET") (str "op")
          ((∅ : Args).insert (str "a") [str "1"]) (str "client") none [str "csrf"] =
        makeCsrfTrustToken sampleHashlib ⟨policyNone, [], false, str "ff"⟩ (str "GET") (str "op")
          (((∅ : Args).insert (str "a") [str "1"]).insert (str "csrf") [str "t"]) (str "client")
          none [str "csrf"] :=
  csrfTrustToken_agree _ _ _ _ _ _ _ _ _ fun _ hk =>
    (AList.lookup_insert_ne fun he => hk (by simp [he])).symm

/-- Pieces are joined with underscores and nothing is escaped: one value b_c and the two
values b and c give the same operation string, and so the same trust token under every hashlib
and configuration, for argument maps that differ. -/
theorem csrfOp_underscore :
    csrfOp (str "op") ((∅ : Args).insert (str "a") [str "b_c"]) [] =
        csrfOp (str "op") ((∅ : Args).insert (str "a") [str "b", str "c"]) [] ∧
      ((∅ : Args).insert (str "a") [str "b_c"]).lookup (str "a") ≠
        ((∅ : Args).insert (str "a") [str "b", str "c"]).lookup (str "a") ∧
      ∀ (hashlib : Hashlib) configuration method clientId limit,
        makeCsrfTrustToken hashlib configuration method (str "op")
            ((∅ : Args).insert (str "a") [str "b_c"]) clientId limit [] =
          makeCsrfTrustToken hashlib configuration method (str "op")
            ((∅ : Args).insert (str "a") [str "b", str "c"]) clientId limit [] := by
  have hop : csrfOp (str "op") ((∅ : Args).insert (str "a") [str "b_c"]) [] =
      csrfOp (str "op") ((∅ : Args).insert (str "a") [str "b", str "c"]) [] := by
    decide
  exact ⟨hop, by decide, fun _ _ _ _ _ => by unfold makeCsrfTrustToken; rw [hop]⟩

/-! ### What a CSRF token binds -/

theorem pyStr_injective : Function.Injective pyStr := fun a b h => by
  have ha : pyInt 10 (pyStr a) = some a := pyInt_render (by norm_num) (by norm_num) a
  have hb : pyInt 10 (pyStr b) = some b := pyInt_render (by norm_num) (by norm_num) b
  rw [h] at ha
  exact Option.some.inj (ha.symm.trans hb)

theorem merged_ne_nil (method operation clientId limit : Bytes) :
    pyJoin (str ":") [method, operation, clientId, limit] ≠ [] := by
  simp [pyJoin, List.intercalate, show str ":" ≠ [] by decide]

/-- With a hex salt, the token is sha256 of the decimal str of the salt XOR the value of the
merged 'method:operation:client_id:limit' bytes. -/
theorem makeCsrfToken_ok {configuration : Configuration} {S : Int}
    (hs : pyInt 16 configuration.siteDigestSalt = some S) (hashlib : Hashlib)
    (method operation clientId : Bytes) (limit : Option Bytes) :
    makeCsrfToken hashlib configuration method operation clientId limit =
      .ok (hashlib.sha256 (pyStr (Int.xor S
        (bytesValue (pyJoin (str ":") [method, operation, clientId, limit.getD (str "None")]))))) := by
  simp only [makeCsrfToken, xorHex_of hs (pyInt_b16encode (merged_ne_nil _ _ _ _))]
  rfl

/-- With a hex site_digest_salt, two requests get the same token under every sha256 exactly
when their merged 'method:operation:client_id:limit' strings agree once leading NUL bytes are
dropped: the fields are not separated, so a ':' inside one moves into the next, and an absent
limit prints as None. -/
theorem makeCsrfToken_agree_iff {configuration : Configuration} {S : Int}
    (hs : pyInt 16 configuration.siteDigestSalt = some S)
    (method operation clientId : Bytes) (limit : Option Bytes)
    (method' operation' clientId' : Bytes) (limit' : Option Bytes) :
    (∀ hashlib, makeCsrfToken hashlib configuration method operation clientId limit =
        makeCsrfToken hashlib configuration method' operation' clientId' limit') ↔
      (pyJoin (str ":") [method, operation, clientId, limit.getD (str "None")]).dropWhile (· == 0) =
        (pyJoin (str ":") [method', operation', clientId', limit'.getD (str "None")]).dropWhile
          (· == 0) := by
  simp only [makeCsrfToken_ok hs]
  constructor
  · intro h
    have hsame := Except.ok.inj (h sampleHashlib)
    exact bytesValue_eq_iff.mp ((xor_injective S) (pyStr_injective hsame) |> Nat.cast_injective)
  · intro h hashlib
    rw [bytesValue_eq_iff.mpr h]

theorem makeCsrfToken_agree_colon :
    makeCsrfToken sampleHashlib ⟨policyNone, [], false, str "ff"⟩ (str "POST") (str "edit:x")
        (str "client") none =
      makeCsrfToken sampleHashlib ⟨policyNone, [], false, str "ff"⟩ (str "POST") (str "edit")
        (str "x:client") none :=
  (makeCsrfToken_agree_iff (S := 255) (by decide) _ _ _ _ _ _ _ _).mpr (by decide) sampleHashlib

end Migrid.Proofs.Csrf
