import Migrid.Accountreq.Peers

namespace Migrid.Proofs.Peers
open Migrid

variable {α : Type}

/-! ### dict() of a list of pairs -/

theorem lookup_foldl_insert (l : List (Bytes × α)) (d : AList fun _ : Bytes => α) (key : Bytes) :
    (l.foldl (fun d pair => d.insert pair.1 pair.2) d).lookup key =
      (((l.filter fun pair => pair.1 = key).getLast?).map Prod.snd).or (d.lookup key) := by
  induction l generalizing d with
  | nil => rfl
  | cons p l ih =>
    rw [List.foldl_cons, ih]
    by_cases hp : p.1 = key
    · subst hp
      rw [AList.lookup_insert, List.filter_cons_of_pos (by simp), ← List.singleton_append,
        List.getLast?_append]
      cases (l.filter fun pair => pair.1 = p.1).getLast? <;> rfl
    · rw [AList.lookup_insert_ne (Ne.symm hp), List.filter_cons_of_neg (by simpa using hp)]

/-- dict(pairs) maps a key to the value of its last pair. -/
theorem lookup_dictOf (l : List (Bytes × α)) (key : Bytes) :
    (dictOf l).lookup key = ((l.filter fun pair => pair.1 = key).getLast?).map Prod.snd := by
  rw [dictOf, lookup_foldl_insert]
  cases (l.filter fun pair => pair.1 = key).getLast? <;> rfl

theorem mem_dictOf (l : List (Bytes × α)) (key : Bytes) : key ∈ dictOf l ↔ key ∈ l.map Prod.fst := by
  rw [← AList.lookup_isSome, lookup_dictOf]
  simp only [List.filter_getLast?, Option.isSome_map', List.find?_isSome, List.mem_reverse,
    decide_eq_true_eq, Prod.exists, exists_and_right, exists_eq_right, List.mem_map]

/-! ### One call -/

/-- The pairs a call keeps: those whose id the change list does not name. -/
def kept (peers changeList : List (Bytes × α)) : List (Bytes × α) :=
  peers.filter fun peer => peer.1 ∉ dictOf changeList

/-- A call on a file load reads: add writes the kept pairs and the change list, remove the
kept pairs; a failed dump or another action leaves the file as it was. -/
theorem step_loaded (call : PeersCall α) (peers : List (Bytes × α))
    (hload : call.loadFails = false) :
    call.step (some peers) =
      if call.action = str "add" then
        if call.dumpFails then (false, some peers)
        else (true, some (kept peers call.changeList ++ call.changeList))
      else if call.action = str "remove" then
        if call.dumpFails then (false, some peers) else (true, some (kept peers call.changeList))
      else (false, some peers) := by
  simp only [PeersCall.step, hload, managePendingPeers, kept]
  cases call.dumpFails <;> simp only [Bool.not_false, Bool.not_true, if_true, if_false,
    Bool.false_eq_true] <;> split_ifs <;> rfl

/-- A call whose load fails, on a missing file or on one it cannot read: it starts from no
pairs, so add writes the change list as given, repeated ids included, and remove writes the
empty list; a failed dump or another action leaves the file as it was. -/
theorem step_unloaded (call : PeersCall α) (file : Option (List (Bytes × α)))
    (hfail : call.loadFails = true ∨ file = none) :
    call.step file =
      if call.action = str "add" then
        if call.dumpFails then (false, file) else (true, some call.changeList)
      else if call.action = str "remove" then
        if call.dumpFails then (false, file) else (true, some [])
      else (false, file) := by
  have hloaded : call.step file = match managePendingPeers
      (.error (.exception "could not load pending peers")) call.action call.changeList !call.dumpFails with
      | (result, some written) => (result, some written)
      | (result, none) => (result, file) := by
    obtain ⟨action, changeList, loadFails, dumpFails⟩ := call
    rcases hfail with h | rfl
    · cases h
      cases file <;> rfl
    · rfl
  rw [hloaded]
  simp only [managePendingPeers, List.filter_nil, List.nil_append]
  cases call.dumpFails <;> simp only [Bool.not_false, Bool.not_true, if_true, if_false,
    Bool.false_eq_true] <;> split_ifs <;> rfl

theorem lookup_kept (peers changeList : List (Bytes × α)) (key : Bytes) :
    (dictOf (kept peers changeList)).lookup key =
      if key ∈ changeList.map Prod.fst then none else (dictOf peers).lookup key := by
  rw [lookup_dictOf, lookup_dictOf, kept, List.filter_filter]
  split_ifs with hk
  · rw [List.filter_eq_nil_iff.mpr]
    · rfl
    · rintro pair - h
      simp only [Bool.and_eq_true, decide_eq_true_eq] at h
      exact h.2 (h.1 ▸ (mem_dictOf changeList key).mpr hk)
  · have hf : (peers.filter fun pair => decide (pair.1 = key) &&
        decide (pair.1 ∉ dictOf changeList)) = peers.filter fun pair => decide (pair.1 = key) :=
      List.filter_congr fun pair _ => by
        by_cases h : pair.1 = key
        · simp only [h, decide_True, mem_dictOf, hk, not_false_eq_true, Bool.and_self]
        · simp only [h, decide_False, Bool.false_and]
    rw [hf]

theorem lookup_added (peers changeList : List (Bytes × α)) (key : Bytes) :
    (dictOf (kept peers changeList ++ changeList)).lookup key =
      if key ∈ changeList.map Prod.fst then (dictOf changeList).lookup key
      else (dictOf peers).lookup key := by
  have happ : (dictOf (kept peers changeList ++ changeList)).lookup key =
      (((changeList.filter fun pair => pair.1 = key).getLast?).map Prod.snd).or
        ((dictOf (kept peers changeList)).lookup key) := by
    rw [dictOf, List.foldl_append, lookup_foldl_insert]
    rfl
  rw [happ, lookup_kept, lookup_dictOf changeList]
  split_ifs with hk
  · cases (changeList.filter fun pair => pair.1 = key).getLast? <;> rfl
  · rw [List.filter_eq_nil_iff.mpr fun pair hpair h =>
      hk (List.mem_map.mpr ⟨pair, hpair, by simpa using h⟩)]
    rfl

theorem nodup_kept (hnd : (peers.map Prod.fst).Nodup) (changeList : List (Bytes × α)) :
    ((kept peers changeList).map Prod.fst).Nodup :=
  hnd.sublist ((List.filter_sublist _).map _)

theorem nodup_added (hnd : (peers.map Prod.fst).Nodup) (hch : (changeList.map Prod.fst).Nodup) :
    ((kept peers changeList ++ changeList).map Prod.fst).Nodup := by
  rw [List.map_append, List.nodup_append]
  refine ⟨nodup_kept hnd changeList, hch, fun key hkept hchange => ?_⟩
  obtain ⟨pair, hpair, rfl⟩ := List.mem_map.mp hkept
  have := (List.mem_filter.mp hpair).2
  rw [decide_eq_true_eq, mem_dictOf] at this
  exact this hchange

/-- manage_pending_peers returns True exactly when it dumped a list. -/
theorem managePendingPeers_fst (loaded : Except PyError (List (Bytes × α))) (action : Bytes)
    (changeList : List (Bytes × α)) (dumpOk : Bool) :
    (managePendingPeers loaded action changeList dumpOk).1 =
      (managePendingPeers loaded action changeList dumpOk).2.isSome := by
  unfold managePendingPeers
  split_ifs <;> cases dumpOk <;> rfl

/-- A call that returns False leaves the file as it was, whatever load and dump do. -/
theorem step_false (call : PeersCall α) (file : Option (List (Bytes × α)))
    (hres : (call.step file).1 = false) : (call.step file).2 = file := by
  unfold PeersCall.step at hres ⊢
  dsimp only at hres ⊢
  generalize hr : managePendingPeers _ call.action call.changeList (!call.dumpFails) = r at hres ⊢
  have hfst := hr ▸ managePendingPeers_fst _ call.action call.changeList (!call.dumpFails)
  rcases r with ⟨_, _ | _⟩
  · rfl
  · cases hfst.symm.trans hres

/-- A call that returns True wrote the kept pairs and, for add, the change list. -/
theorem step_true {call : PeersCall α} {peers : List (Bytes × α)} (hload : call.loadFails = false) (hres : (call.step (some peers)).1 = true) :
    (call.action = str "add" ∧
        call.step (some peers) = (true, some (kept peers call.changeList ++ call.changeList))) ∨
      (call.action ≠ str "add" ∧ call.action = str "remove" ∧
        call.step (some peers) = (true, some (kept peers call.changeList))) := by
  rw [step_loaded call peers hload] at hres ⊢
  split_ifs at hres ⊢ <;> simp_all

/-! ### Runs -/

/-- Along a run of calls on a file load reads, with add change lists of distinct ids, the
file keeps a list with distinct ids, whatever each call returns. -/
theorem runPeers_nodup {peers : List (Bytes × α)} (calls : List (PeersCall α)) (hnd : (peers.map Prod.fst).Nodup)
    (hcalls : ∀ call ∈ calls, call.loadFails = false ∧
      (call.action = str "add" → (call.changeList.map Prod.fst).Nodup)) :
    ∃ after, (runPeers calls (some peers)).2 = some after ∧ (after.map Prod.fst).Nodup := by
  induction calls generalizing peers with
  | nil => exact ⟨peers, rfl, hnd⟩
  | cons call calls ih =>
    obtain ⟨hload, hadd⟩ := hcalls call (List.mem_cons_self _ _)
    have hstep : ∃ next, (call.step (some peers)).2 = some next ∧ (next.map Prod.fst).Nodup := by
      rw [step_loaded call peers hload]
      split_ifs with ha
      · exact ⟨_, rfl, hnd⟩
      · exact ⟨_, rfl, nodup_added hnd (hadd ha)⟩
      · exact ⟨_, rfl, hnd⟩
      · exact ⟨_, rfl, nodup_kept hnd _⟩
      · exact ⟨_, rfl, hnd⟩
    obtain ⟨next, hnext, hnd'⟩ := hstep
    simp only [runPeers, hnext]
    exact ih hnd' fun c hc => hcalls c (List.mem_cons_of_mem _ hc)

/-- On a file load reads, a call that returns True was an add or a remove; the list it
writes, read as a dict, is the old one with the change list's ids deleted, and for add
written over by dict(change_list); its ids stay distinct when the old ids and the added ones
are. Along a run of such calls the ids stay distinct. When load fails, on a missing file or
one it cannot read, the call starts from no pairs: add writes the change list as given,
repeated ids included, and remove writes the empty list. -/
theorem pendingPeers_update :
    (∀ (call : PeersCall α) (peers : List (Bytes × α)), call.loadFails = false →
      (call.step (some peers)).1 = true →
      ∃ after, (call.step (some peers)).2 = some after ∧
        (call.action = str "add" ∨ call.action = str "remove") ∧
        ((peers.map Prod.fst).Nodup →
          (call.action = str "add" → (call.changeList.map Prod.fst).Nodup) →
          (after.map Prod.fst).Nodup) ∧
        ∀ key, (dictOf after).lookup key =
          if key ∈ call.changeList.map Prod.fst then
            if call.action = str "add" then (dictOf call.changeList).lookup key else none
          else (dictOf peers).lookup key) ∧
    (∀ (calls : List (PeersCall α)) (peers : List (Bytes × α)), (peers.map Prod.fst).Nodup →
      (∀ call ∈ calls, call.loadFails = false ∧
        (call.action = str "add" → (call.changeList.map Prod.fst).Nodup)) →
      ∃ after, (runPeers calls (some peers)).2 = some after ∧ (after.map Prod.fst).Nodup) ∧
    (∀ (call : PeersCall α) (file : Option (List (Bytes × α))), (call.loadFails = true ∨ file = none) →
      call.step file =
        if call.action = str "add" then
          if call.dumpFails then (false, file) else (true, some call.changeList)
        else if call.action = str "remove" then
          if call.dumpFails then (false, file) else (true, some [])
        else (false, file)) := by
  refine ⟨fun call peers hload hres => ?_, fun calls _ hnd hcalls => runPeers_nodup calls hnd hcalls,
    step_unloaded⟩
  rcases step_true hload hres with ⟨ha, hstep⟩ | ⟨ha, hr, hstep⟩
  · refine ⟨_, by rw [hstep], .inl ha, fun hnd hch => nodup_added hnd (hch ha), fun key => ?_⟩
    simp only [lookup_added, ha, if_true]
  · refine ⟨_, by rw [hstep], .inr hr, fun hnd _ => nodup_kept hnd _, fun key => ?_⟩
    simp only [lookup_kept, ha, if_false]

theorem pendingPeers_update_add :
    (∃ after, ((⟨str "add", [(str "b", 2)], false, false⟩ : PeersCall Nat).step
        (some [(str "a", 1)])).2 = some after ∧
        (dictOf after).lookup (str "a") = some 1 ∧ (after.map Prod.fst).Nodup) ∧
      (∃ after, (runPeers [⟨str "add", [(str "b", 2)], false, false⟩,
        ⟨str "remove", [(str "a", 0)], false, false⟩] (some [(str "a", (1 : Nat))])).2 = some after ∧
        (after.map Prod.fst).Nodup) ∧
      (⟨str "add", [(str "x", 1), (str "x", 2)], true, false⟩ : PeersCall Nat).step (some [(str "a", 1)]) =
        (true, some [(str "x", 1), (str "x", 2)]) := by
  obtain ⟨after, hafter, -, hnd, hmap⟩ := pendingPeers_update.1
    (⟨str "add", [(str "b", 2)], false, false⟩ : PeersCall Nat) [(str "a", 1)] rfl (by decide)
  refine ⟨⟨after, hafter, by rw [hmap]; decide, hnd (by decide) fun _ => by decide⟩,
    pendingPeers_update.2.1 _ _ (by decide) ?_, by rw [pendingPeers_update.2.2 _ _ (.inl rfl)]; decide⟩
  intro call hcall
  simp only [List.mem_cons, List.mem_singleton, List.not_mem_nil, or_false] at hcall
  rcases hcall with rfl | rfl <;> exact ⟨rfl, fun _ => by decide⟩

/-- An id repeated in the change list is appended twice, and a file load fails on is
overwritten as if it held nothing. -/
theorem pendingPeers_duplicates_and_lost :
    ((⟨str "add", [(str "x", 1), (str "x", 2)], false, false⟩ : PeersCall Nat).step (some [])).1 = true ∧
      ¬ ((((⟨str "add", [(str "x", 1), (str "x", 2)], false, false⟩ : PeersCall Nat).step (some [])).2.getD []).map Prod.fst).Nodup ∧
      ((⟨str "add", [(str "b", 2)], true, false⟩ : PeersCall Nat).step (some [(str "a", 1)])) =
        (true, some [(str "b", 2)]) := by
  decide

end Migrid.Proofs.Peers
