import Migrid.Python.Text
import Mathlib.Data.List.Infix

namespace Migrid.Proofs.Split
open Migrid

/-! ### str.join -/

@[simp] theorem pyJoin_singleton (sep v : Bytes) : pyJoin sep [v] = v := by
  simp [pyJoin, List.intercalate]

theorem pyJoin_cons_cons (sep v w : Bytes) (vs : List Bytes) :
    pyJoin sep (v :: w :: vs) = v ++ sep ++ pyJoin sep (w :: vs) := by
  simp [pyJoin, List.intercalate, List.intersperse]

/-- Joined on the empty str, the pieces are concatenated. -/
theorem pyJoin_nil_cons (v : Bytes) : ∀ vs : List Bytes, pyJoin [] (v :: vs) = v ++ pyJoin [] vs
  | [] => by simp [pyJoin, List.intercalate]
  | w :: vs => by rw [pyJoin_cons_cons, List.append_nil]

/-! ### str.split on a separator str -/

theorem splitSepAux_skip (sep acc w : Bytes) :
    ∀ t : Bytes, splitSepAux sep t.length acc (t ++ w) = splitSepAux sep 0 acc w
  | [] => rfl
  | _ :: t => by
    rw [List.length_cons, List.cons_append, splitSepAux]
    exact splitSepAux_skip sep acc w t

/-- Where the separator does not occur, the scan makes no cut. -/
theorem splitSepAux_no_cut {sep : Bytes} :
    ∀ (v acc : Bytes), ¬ sep <:+: v → splitSepAux sep 0 acc v = [acc.reverse ++ v]
  | [], acc, _ => by simp [splitSepAux]
  | c :: v, acc, hv => by
    have hc : sep.isPrefixOf (c :: v) = false :=
      Bool.eq_false_iff.mpr fun hp => hv (List.isPrefixOf_iff_prefix.mp hp).isInfix
    rw [splitSepAux, if_neg (by rw [hc]; exact Bool.false_ne_true),
      splitSepAux_no_cut v (c :: acc) fun hs => hv (List.infix_cons hs)]
    simp

section
variable {d : UInt8} {ds : Bytes}

/-- A piece without the separator's first byte, then the separator: the piece is cut off. -/
theorem splitSepAux_piece (w : Bytes) :
    ∀ (v acc : Bytes), (∀ c ∈ v, c ≠ d) →
      splitSepAux (d :: ds) 0 acc (v ++ (d :: ds) ++ w) =
        (acc.reverse ++ v) :: splitSepAux (d :: ds) 0 [] w
  | [], acc, _ => by
    have hpre : (d :: ds).isPrefixOf (d :: (ds ++ w)) = true :=
      List.isPrefixOf_iff_prefix.mpr (List.prefix_append (d :: ds) w)
    rw [List.nil_append, List.cons_append, splitSepAux, if_pos hpre, List.append_nil,
      List.length_cons, Nat.add_sub_cancel, splitSepAux_skip]
  | c :: v, acc, hv => by
    have hc : (d :: ds).isPrefixOf (c :: (v ++ (d :: ds) ++ w)) = false := by
      simp [List.isPrefixOf, Ne.symm (hv c (List.mem_cons_self _ _))]
    rw [List.cons_append, List.cons_append, splitSepAux, if_neg (by rw [hc]; exact Bool.false_ne_true),
      splitSepAux_piece w v (c :: acc) fun x hx => hv x (List.mem_cons_of_mem _ hx)]
    simp

/-- The last piece has no separator's first byte: it is all that is left. -/
theorem splitSepAux_last (v acc : Bytes) (hv : ∀ c ∈ v, c ≠ d) :
    splitSepAux (d :: ds) 0 acc v = [acc.reverse ++ v] :=
  splitSepAux_no_cut v acc fun ⟨_, _, h⟩ =>
    hv d (h ▸ List.mem_append_left _ (List.mem_append_right _ (List.mem_cons_self _ _))) rfl

/-- str.split undoes str.join when no piece holds the separator's first byte. -/
theorem splitSepAux_pyJoin : ∀ (v : Bytes) (vs : List Bytes), (∀ w ∈ v :: vs, ∀ c ∈ w, c ≠ d) →
    splitSepAux (d :: ds) 0 [] (pyJoin (d :: ds) (v :: vs)) = v :: vs
  | v, [], h => by
    simpa using splitSepAux_last v [] (h v (List.mem_cons_self _ _))
  | v, w :: vs, h => by
    rw [pyJoin_cons_cons, splitSepAux_piece _ v [] (h v (List.mem_cons_self _ _)), List.reverse_nil, List.nil_append]
    exact congrArg _ (splitSepAux_pyJoin w vs fun x hx => h x (List.mem_cons_of_mem _ hx))

end

theorem splitSepAux_ne_nil (sep : Bytes) : ∀ (s : Bytes) (skip : Nat) (acc : Bytes),
    splitSepAux sep skip acc s ≠ []
  | [], _, _ => by simp [splitSepAux]
  | _ :: s, skip + 1, acc => by rw [splitSepAux]; exact splitSepAux_ne_nil sep s skip acc
  | c :: s, 0, acc => by
    rw [splitSepAux]
    split_ifs
    · exact List.cons_ne_nil _ _
    · exact splitSepAux_ne_nil sep s 0 (c :: acc)

/-! ### str.replace(old, '') -/

/-- Cutting on the separator and joining on the empty str never lengthens the text. -/
theorem length_pyJoin_splitSepAux_le (sep : Bytes) : ∀ (skip : Nat) (acc s : Bytes),
    (pyJoin [] (splitSepAux sep skip acc s)).length ≤ acc.length + s.length
  | _, acc, [] => by simp [splitSepAux]
  | skip + 1, acc, _ :: s => by
    have := length_pyJoin_splitSepAux_le sep skip acc s
    rw [splitSepAux, List.length_cons]
    omega
  | 0, acc, c :: s => by
    rw [splitSepAux]
    split_ifs
    · have := length_pyJoin_splitSepAux_le sep (sep.length - 1) [] s
      rw [pyJoin_nil_cons, List.length_append, List.length_reverse, List.length_cons]
      rw [List.length_nil] at this
      omega
    · have := length_pyJoin_splitSepAux_le sep 0 (c :: acc) s
      rw [List.length_cons] at this ⊢
      omega

/-- Where the separator occurs, it is cut out at least once. -/
theorem length_pyJoin_splitSepAux_lt {sep : Bytes} (hsep : sep ≠ []) :
    ∀ (s acc : Bytes), sep <:+: s → (pyJoin [] (splitSepAux sep 0 acc s)).length < acc.length + s.length
  | [], _, h => absurd (List.eq_nil_of_infix_nil h) hsep
  | c :: s, acc, h => by
    rw [splitSepAux]
    split_ifs with hpre
    · have := length_pyJoin_splitSepAux_le sep (sep.length - 1) [] s
      rw [pyJoin_nil_cons, List.length_append, List.length_reverse, List.length_cons]
      rw [List.length_nil] at this
      omega
    · have hs : sep <:+: s := (List.infix_cons_iff.mp h).resolve_left
        fun hp => hpre (List.isPrefixOf_iff_prefix.mpr hp)
      have := length_pyJoin_splitSepAux_lt hsep s (c :: acc) hs
      rw [List.length_cons] at this ⊢
      omega

/-- (old + rest).replace(old, '') gives rest back exactly when old does not occur in rest:
the scan cuts the leading old, and any later occurrence is cut out too. -/
theorem pyReplace_prefix_iff {old : Bytes} (hold : old ≠ []) (rest : Bytes) :
    pyReplace old [] (old ++ rest) = rest ↔ ¬ old <:+: rest := by
  obtain ⟨d, ds, rfl⟩ := List.exists_cons_of_ne_nil hold
  have hcut : pyReplace (d :: ds) [] ((d :: ds) ++ rest) = pyJoin [] (splitSepAux (d :: ds) 0 [] rest) := by
    have hpiece : splitSepAux (d :: ds) 0 [] ((d :: ds) ++ rest) = [] :: splitSepAux (d :: ds) 0 [] rest :=
      splitSepAux_piece rest [] [] (by simp)
    rw [pyReplace, if_neg (by simp), hpiece, pyJoin_nil_cons]
    rfl
  rw [hcut]
  constructor
  · intro h hinf
    have := length_pyJoin_splitSepAux_lt hold rest [] hinf
    rw [h, List.length_nil, Nat.zero_add] at this
    exact Nat.lt_irrefl _ this
  · intro h
    rw [splitSepAux_no_cut rest [] h, List.reverse_nil, List.nil_append, pyJoin_singleton]

end Migrid.Proofs.Split
