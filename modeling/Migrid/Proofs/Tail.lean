import Migrid.Tail.Main
import Mathlib.Data.List.Infix

namespace Migrid.Proofs.Tail
open Migrid

variable {c : UInt8} {s line : Bytes} {rest : List Bytes}

/-! ### readlines as a list of lines -/

@[simp] theorem splitLines_nil : splitLines [] = [] := rfl

theorem splitLines_newline (s : Bytes) : splitLines (10 :: s) = [10] :: splitLines s := rfl

theorem splitLines_cons_nil (hc : c ≠ 10) (hs : splitLines s = []) : splitLines (c :: s) = [[c]] := by
  unfold splitLines at hs ⊢
  rw [List.foldr_cons, if_neg hc, hs]

theorem splitLines_cons_cons (hc : c ≠ 10) (hs : splitLines s = line :: rest) :
    splitLines (c :: s) = (c :: line) :: rest := by
  unfold splitLines at hs ⊢
  rw [List.foldr_cons, if_neg hc, hs]

/-- Everything one more character can do to the lines. -/
theorem splitLines_cons_cases (c : UInt8) (s : Bytes) :
    (c = 10 ∧ splitLines (c :: s) = [10] :: splitLines s) ∨
      (c ≠ 10 ∧ splitLines s = [] ∧ splitLines (c :: s) = [[c]]) ∨
      (c ≠ 10 ∧ ∃ line rest, splitLines s = line :: rest ∧
        splitLines (c :: s) = (c :: line) :: rest) := by
  by_cases hc : c = 10
  · exact .inl ⟨hc, hc ▸ splitLines_newline s⟩
  · cases hs : splitLines s with
    | nil => exact .inr (.inl ⟨hc, rfl, splitLines_cons_nil hc hs⟩)
    | cons line rest => exact .inr (.inr ⟨hc, line, rest, rfl, splitLines_cons_cons hc hs⟩)

theorem splitLines_eq_nil : splitLines s = [] ↔ s = [] := by
  refine ⟨fun h => ?_, fun h => h ▸ rfl⟩
  cases s with
  | nil => rfl
  | cons c s =>
    rcases splitLines_cons_cases c s with ⟨-, hs⟩ | ⟨-, -, hs⟩ | ⟨-, _, _, -, hs⟩ <;>
      rw [hs] at h <;> cases h

/-- Reading the first line leaves the rest of the lines. -/
theorem splitLines_drop_head (h : splitLines s = line :: rest) :
    splitLines (s.drop line.length) = rest := by
  induction s generalizing line rest with
  | nil => cases h
  | cons c s ih =>
    rcases splitLines_cons_cases c s with ⟨-, hs⟩ | ⟨-, hnil, hs⟩ | ⟨-, line', rest', hs', hs⟩ <;>
      rw [hs] at h <;> obtain ⟨rfl, rfl⟩ := List.cons.inj h
    · rfl
    · exact hnil
    · simpa using ih hs'

/-- One character more changes only the first line, or adds a line for a newline. -/
theorem tail_splitLines_suffix_cons (c : UInt8) (s : Bytes) :
    (splitLines s).tail <:+ (splitLines (c :: s)).tail := by
  rcases splitLines_cons_cases c s with ⟨-, hs⟩ | ⟨-, hnil, hs⟩ | ⟨-, line, rest, hs', hs⟩ <;> rw [hs]
  · exact List.tail_suffix _
  · rw [hnil]; exact List.suffix_refl _
  · rw [hs']; exact List.suffix_refl _

/-- The lines after the first of any suffix of the content are lines of the content. -/
theorem tail_splitLines_drop_suffix (content : Bytes) (p : Nat) :
    (splitLines (content.drop p)).tail <:+ (splitLines content).tail := by
  induction p generalizing content with
  | zero => exact List.suffix_refl _
  | succ p ih =>
    cases content with
    | nil => simp
    | cons c s => exact (ih s).trans (tail_splitLines_suffix_cons c s)

/-- k calls of readline from a position read the first k lines after it, then empty strings
at the end of the file, and stop where the lines left are the rest. -/
theorem readlines_spec (content : Bytes) : ∀ k pos,
    (readlines content k pos).1 = (splitLines (content.drop pos)).take k ++
      List.replicate (k - (splitLines (content.drop pos)).length) [] ∧
    splitLines (content.drop (readlines content k pos).2) = (splitLines (content.drop pos)).drop k := by
  intro k
  induction k with
  | zero => intro pos; simp [readlines]
  | succ k ih =>
    intro pos
    cases hL : splitLines (content.drop pos) with
    | nil =>
      have hread : readline content pos = ([], pos) := by simp [readline, hL]
      obtain ⟨ih1, ih2⟩ := ih pos
      simp only [readlines, hread, ih1, hL]
      simp [ih2, hL, List.replicate_succ]
    | cons line rest =>
      have hread : readline content pos = (line, pos + line.length) := by simp [readline, hL]
      have hnext : splitLines (content.drop (pos + line.length)) = rest := by
        rw [← List.drop_drop, splitLines_drop_head hL]
      obtain ⟨ih1, ih2⟩ := ih (pos + line.length)
      simp only [readlines, hread, ih1, hnext]
      refine ⟨by simp, by rw [ih2, hnext]; rfl⟩

/-! ### The backtracking loop -/

/-- Where the backtracking loop can stop: its guard is false, and either it never ran or
backstep is at most the length and newlines counts the lines of the last backstep bytes. -/
def Settled (content : Bytes) (lines : Int) (start r : Nat × Int) : Prop :=
  ¬ (r.1 < content.length ∧ r.2 ≤ lines) ∧
    (r = start ∨ (r.1 ≤ content.length ∧
      r.2 = (splitLines (content.drop (content.length - r.1))).length))

/-- Backstep at least doubles while the loop runs, so fuel with backstep * 2 ^ fuel at least
the length lets the loop end by its guard. -/
theorem backtrack_settled (content : Bytes) (lines : Int) : ∀ fuel backstep newlines,
    1 ≤ backstep → content.length ≤ backstep * 2 ^ fuel →
    Settled content lines (backstep, newlines) (backtrack content lines fuel backstep newlines) := by
  intro fuel
  induction fuel with
  | zero =>
    intro backstep newlines _ hlen
    refine ⟨fun h => ?_, .inl rfl⟩
    simp only [backtrack, pow_zero, Nat.mul_one] at h hlen
    omega
  | succ fuel ih =>
    intro backstep newlines hpos hlen
    by_cases hguard : backstep < content.length ∧ newlines ≤ lines
    · obtain ⟨next, hnext, hle, hpos', hlen'⟩ : ∃ next,
          (if backstep * 2 > content.length then content.length else backstep * 2) = next ∧
            next ≤ content.length ∧ 1 ≤ next ∧ content.length ≤ next * 2 ^ fuel := by
        have hpow := Nat.one_le_two_pow (n := fuel)
        rw [pow_succ, ← Nat.mul_assoc, Nat.mul_right_comm] at hlen
        by_cases hgt : backstep * 2 > content.length
        · exact ⟨_, if_pos hgt, le_rfl, by omega, Nat.le_mul_of_pos_right _ hpow⟩
        · exact ⟨_, if_neg hgt, by omega, by omega, hlen⟩
      have hstep : backtrack content lines (fuel + 1) backstep newlines =
          backtrack content lines fuel next (splitLines (content.drop (content.length - next))).length := by
        simp only [backtrack, if_pos hguard, hnext]
      rw [hstep]
      obtain ⟨hexit, hrun | hrun⟩ := ih next _ hpos' hlen'
      · exact ⟨hexit, .inr (hrun ▸ ⟨hle, rfl⟩)⟩
      · exact ⟨hexit, .inr hrun⟩
    · have hstep : backtrack content lines (fuel + 1) backstep newlines = (backstep, newlines) := by
        simp only [backtrack, if_neg hguard]
      rw [hstep]
      exact ⟨hguard, .inl rfl⟩

/-! ### str.strip -/

theorem dropWhile_isSpace_of_head {l : Bytes} (h : ∀ c ∈ l.head?, isSpace c = false) :
    l.dropWhile isSpace = l := by
  cases l with
  | nil => rfl
  | cons c t => simp [List.dropWhile_cons, h c rfl]

theorem head_dropWhile_isSpace (l : Bytes) : ∀ c ∈ (l.dropWhile isSpace).head?, isSpace c = false := by
  induction l with
  | nil => simp
  | cons a t ih => by_cases ha : isSpace a = true <;> simp_all [List.dropWhile_cons]

/-- The outer strip of tail's line.strip().strip() changes nothing. -/
theorem pyStrip_pyStrip (s : Bytes) : pyStrip (pyStrip s) = pyStrip s := by
  have hu := List.takeWhile_append_dropWhile isSpace (s.dropWhile isSpace).reverse
  have hhead : ∀ c ∈ ((s.dropWhile isSpace).reverse.dropWhile isSpace).reverse.head?,
      isSpace c = false := by
    generalize (s.dropWhile isSpace).reverse.dropWhile isSpace = v at hu ⊢
    intro c hc
    have hmem : c ∈ (s.dropWhile isSpace).head? := by
      rw [← List.reverse_reverse (s.dropWhile isSpace), ← hu, List.reverse_append]
      cases hv : v.reverse with
      | nil => simp [hv] at hc
      | cons x r => simp_all
    exact head_dropWhile_isSpace s c hmem
  unfold pyStrip
  rw [dropWhile_isSpace_of_head hhead, List.reverse_reverse,
    dropWhile_isSpace_of_head (head_dropWhile_isSpace _)]

/-! ### The last lines -/

/-- What tail is for, on one file: the last max(lines, 0) lines of the content as readlines
splits it, each stripped, or all of them when there are fewer. -/
def lastLines (content : Bytes) (lines : Int) : List Bytes :=
  ((splitLines content).drop ((splitLines content).length - lines.toNat)).map pyStrip

/-- The last m elements of a suffix that has m of them are the last m of the list. -/
theorem drop_of_suffix {l₁ l₂ : List Bytes} (h : l₁ <:+ l₂) (hm : m ≤ l₁.length) :
    l₁.drop (l₁.length - m) = l₂.drop (l₂.length - m) := by
  obtain ⟨t, rfl⟩ := h
  rw [List.length_append, List.drop_append_eq_append_drop,
    List.drop_eq_nil_of_le (show t.length ≤ t.length + l₁.length - m by omega), List.nil_append]
  congr 1
  omega

/-- Skipping some lines and then reading m: the lines after the skipped ones, up to m of
them, padded with empty strings at the end of the file. -/
theorem readlines_after_skip (content : Bytes) (pos skip m : Nat) :
    (readlines content m (readlines content skip pos).2).1 =
      ((splitLines (content.drop pos)).drop skip).take m ++
        List.replicate (m - ((splitLines (content.drop pos)).drop skip).length) [] := by
  rw [(readlines_spec content m _).1, (readlines_spec content skip pos).2]

/-- For every content and line count, except a content of one byte asked for at least one
line, the lines tail outputs are the last max(lines, 0) lines of the content, each stripped,
or all of them when there are fewer. -/
theorem tailLines_lastLines :
    ∀ content lines, (content.length = 1 → lines ≤ 0) → tailLines content lines = lastLines content lines := by
  intro content lines hone
  have hsettled := backtrack_settled content lines content.length 1 0 le_rfl
    (by simpa using (Nat.lt_two_pow content.length).le)
  unfold tailLines
  simp only [readlines_after_skip, pyStrip_pyStrip, lastLines]
  generalize backtrack content lines content.length 1 0 = r at hsettled ⊢
  obtain ⟨b, n⟩ := r
  obtain ⟨hexit, hrun⟩ := hsettled
  dsimp only at hexit hrun ⊢
  by_cases hlines : lines ≤ 0
  · have hm : lines.toNat = 0 := by omega
    rw [show (n - ((n - lines).toNat : Int)).toNat = 0 by omega, hm]
    simp only [List.take_zero, List.nil_append, Nat.zero_sub, List.replicate_zero, List.map_nil,
      Nat.sub_zero, List.drop_length]
  rcases hrun with hstart | ⟨hle, hcount⟩
  · obtain ⟨rfl, rfl⟩ := Prod.mk.inj hstart
    have hnil : content = [] := List.eq_nil_of_length_eq_zero (by omega)
    subst hnil
    rw [show (0 - ((0 - lines).toNat : Int)).toNat = 0 by omega]
    simp only [List.drop_nil, splitLines_nil, List.take_nil, List.nil_append, List.length_nil,
      Nat.zero_sub, List.replicate_zero, List.map_nil]
  · have hpos : (if content.length ≠ 0 then content.length - b else content.length) =
        content.length - b := by split_ifs <;> omega
    rw [hpos]
    generalize hS : splitLines (content.drop (content.length - b)) = S at hcount
    by_cases hfew : n ≤ lines
    · have hb : content.length - b = 0 := by omega
      rw [hb, List.drop_zero] at hS
      subst hS
      rw [show (n - lines).toNat = 0 by omega,
        show (n - ((0 : Nat) : Int)).toNat = (splitLines content).length by omega]
      rw [show (splitLines content).length - lines.toNat = 0 by omega]
      simp only [List.drop_zero, List.take_length, Nat.sub_self, List.replicate_zero, List.append_nil]
    · have hsuffix : S.tail <:+ splitLines content :=
        hS ▸ (tail_splitLines_drop_suffix content _).trans (List.tail_suffix _)
      have hlast := drop_of_suffix hsuffix (m := lines.toNat) (by simp; omega)
      have hdrop : S.drop (S.length - lines.toNat) = S.tail.drop (S.tail.length - lines.toNat) := by
        rw [List.drop_tail, List.length_tail]; congr 1; omega
      have hlen : (S.drop (S.length - lines.toNat)).length = lines.toNat := by
        rw [List.length_drop]; omega
      rw [show (n - lines).toNat = S.length - lines.toNat by omega,
        show (n - ((S.length - lines.toNat : Nat) : Int)).toNat = lines.toNat by omega,
        List.take_of_length_le hlen.le, hlen, Nat.sub_self, List.replicate_zero, List.append_nil,
        hdrop, hlast]

/-- On a content of one byte the loop never runs, newlines stays 0, and nothing is read. -/
theorem tailLines_single (c : UInt8) (hlines : 0 < lines) : tailLines [c] lines = [] := by
  have hback : backtrack [c] lines 1 1 0 = (1, 0) := by simp [backtrack]
  simp only [tailLines, List.length_singleton, hback]
  rw [show ((0 : Int) - lines).toNat = 0 by omega]
  rfl

theorem lastLines_single (c : UInt8) (hlines : 0 < lines) : lastLines [c] lines = [pyStrip [c]] := by
  have hsplit : splitLines [c] = [[c]] := by
    by_cases hc : c = 10
    · subst hc; rfl
    · exact splitLines_cons_nil hc rfl
  simp [lastLines, hsplit, show 1 - lines.toNat = 0 by omega]

/-- tail outputs the last max(lines, 0) lines of a file, each stripped, exactly unless the
file holds a single byte and at least one line is asked for. -/
theorem tailLines_lastLines_iff :
    ∀ content lines, tailLines content lines = lastLines content lines ↔
      (content.length = 1 → lines ≤ 0) := by
  intro content lines
  refine ⟨fun h hlen => ?_, tailLines_lastLines content lines⟩
  obtain ⟨c, rfl⟩ := List.length_eq_one.mp hlen
  by_contra hlines
  rw [tailLines_single c (by omega), lastLines_single c (by omega)] at h
  cases h

/-- A file holding the single byte x, with the default of 20 lines: tail prints nothing. -/
theorem tailLines_one_byte : tailLines (str "x") 20 = [] ∧ lastLines (str "x") 20 = [str "x"] := by
  decide

end Migrid.Proofs.Tail
