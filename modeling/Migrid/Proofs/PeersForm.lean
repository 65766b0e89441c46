import Migrid.Accountreq.Peers
import Migrid.Proofs.Split
import Mathlib.Data.List.Basic

namespace Migrid.Proofs.PeersForm
open Migrid Migrid.Proofs.Split

theorem ok_bind {ε β γ : Type} (x : β) (f : β → Except ε γ) : (Except.ok x >>= f) = f x := rfl

/-! ### The loop of parse_peers_form in closed form -/

/-- The line the loop looks at: the raw line up to its first '#', stripped. -/
def cleanLine (rawLine : Bytes) : Bytes := pyStrip ((splitMax 35 1 rawLine).headD [])

theorem cleanLine_eq (rawLine : Bytes) :
    pyStrip ((splitMax 35 1 rawLine).headD []) = cleanLine rawLine := rfl

/-- The lines the loop does not skip, in order. -/
def keptLines (rawLines : List Bytes) : List Bytes :=
  (rawLines.map cleanLine).filter fun line => !line.isEmpty

theorem keptLines_cons (rawLine : Bytes) (rawLines : List Bytes) :
    keptLines (rawLine :: rawLines) =
      if (cleanLine rawLine).isEmpty then keptLines rawLines
      else cleanLine rawLine :: keptLines rawLines := by
  unfold keptLines
  split_ifs with h <;> simp [List.filter_cons, h]

section
variable {α : Type} (csvSep : Bytes) (peersFields : List Bytes)
  (canonicalUser : UserDict → List Bytes → α) (htmlEscape : Bytes → Bytes)

/-- The error a header without some of peers_fields gives, if any. -/
def formMissing (header : List Bytes) : List Bytes :=
  let missing := peersFields.filter fun i => i ∉ header
  if missing.isEmpty then [] else [missingFieldsError missing]

/-- The peers of the data lines with as many fields as the header, in order. -/
def formPeers (header rows : List Bytes) : List α :=
  (rows.filter fun line => (splitSepAux csvSep 0 [] line).length = header.length).map fun line =>
    canonicalUser (dictOf (header.zip (splitSepAux csvSep 0 [] line))) peersFields

/-- The errors of the data lines with another field count, in order. -/
def formMismatches (header rows : List Bytes) : List Bytes :=
  (rows.filter fun line => (splitSepAux csvSep 0 [] line).length ≠ header.length).map fun line =>
    mismatchError htmlEscape csvSep line header

/-- What parse_peers_form reads from the lines it keeps: the first is the header, each later
one a peer when it has the header's field count and an error otherwise, after the error of a
header without some required field; an empty separator raises once there is a line. -/
def formParse : List Bytes → Except PyError (List α × List Bytes)
  | [] => .ok ([], [])
  | headerLine :: rows =>
    if csvSep.isEmpty then .error (.valueError "empty separator")
    else
      let header := splitSepAux csvSep 0 [] headerLine
      .ok (formPeers csvSep peersFields canonicalUser header rows,
        formMissing peersFields header ++ formMismatches csvSep htmlEscape header rows)

theorem formPeers_cons (header : List Bytes) (line : Bytes) (rows : List Bytes) :
    formPeers csvSep peersFields canonicalUser header (line :: rows) =
      formPeers csvSep peersFields canonicalUser header [line] ++
        formPeers csvSep peersFields canonicalUser header rows := by
  simp only [formPeers, List.filter_cons, List.filter_nil]
  split_ifs <;> rfl

theorem formMismatches_cons (header : List Bytes) (line : Bytes) (rows : List Bytes) :
    formMismatches csvSep htmlEscape header (line :: rows) =
      formMismatches csvSep htmlEscape header [line] ++
        formMismatches csvSep htmlEscape header rows := by
  simp only [formMismatches, List.filter_cons, List.filter_nil]
  split_ifs <;> rfl

variable {csvSep peersFields canonicalUser htmlEscape}

/-- A skipped line leaves the state as it was. -/
theorem peersFormLine_blank {rawLine : Bytes} (h : (cleanLine rawLine).isEmpty = true)
    (form : PeersForm α) :
    peersFormLine csvSep peersFields canonicalUser htmlEscape form rawLine = .ok form := by
  simp only [peersFormLine, cleanLine_eq, h, if_true]

/-- Before any header an empty separator raises at the first line kept. -/
theorem peersFormLine_empty_sep {rawLine : Bytes} (h : (cleanLine rawLine).isEmpty = false)
    (hsep : csvSep = []) (form : PeersForm α) :
    peersFormLine csvSep peersFields canonicalUser htmlEscape form rawLine =
      .error (.valueError "empty separator") := by
  simp only [peersFormLine, cleanLine_eq, h, Bool.false_eq_true, if_false, pySplitStr, hsep,
    List.isEmpty_nil, if_true]
  rfl

/-- The first line kept becomes the header. -/
theorem peersFormLine_header {rawLine : Bytes} (h : (cleanLine rawLine).isEmpty = false)
    (hsep : csvSep ≠ []) (peers : List α) (err : List Bytes) :
    peersFormLine csvSep peersFields canonicalUser htmlEscape ⟨[], peers, err⟩ rawLine =
      .ok ⟨splitSepAux csvSep 0 [] (cleanLine rawLine), peers,
        err ++ formMissing peersFields (splitSepAux csvSep 0 [] (cleanLine rawLine))⟩ := by
  simp only [peersFormLine, cleanLine_eq, h, Bool.false_eq_true, if_false, pySplitStr,
    List.isEmpty_eq_false.mpr hsep, ok_bind, List.isEmpty_nil,
    if_true, formMissing]
  split_ifs
  · rw [List.append_nil]; rfl
  · rfl

/-- Under a header each line kept is a peer or an error. -/
theorem peersFormLine_row {rawLine : Bytes} (h : (cleanLine rawLine).isEmpty = false)
    (hsep : csvSep ≠ []) {header : List Bytes} (hheader : header ≠ []) (peers : List α)
    (err : List Bytes) :
    peersFormLine csvSep peersFields canonicalUser htmlEscape ⟨header, peers, err⟩ rawLine =
      .ok ⟨header, peers ++ formPeers csvSep peersFields canonicalUser header [cleanLine rawLine],
        err ++ formMismatches csvSep htmlEscape header [cleanLine rawLine]⟩ := by
  simp only [peersFormLine, cleanLine_eq, h, Bool.false_eq_true, if_false, pySplitStr,
    List.isEmpty_eq_false.mpr hsep, ok_bind,
    List.isEmpty_eq_false.mpr hheader,
    formPeers, formMismatches, List.filter_cons, List.filter_nil]
  split_ifs <;> simp_all [pure, Except.pure]

/-- Under a header the loop adds, line by line, the peers and the errors of the lines kept. -/
theorem foldlM_rows (hsep : csvSep ≠ []) {header : List Bytes} (hheader : header ≠ []) :
    ∀ (rawLines : List Bytes) (peers : List α) (err : List Bytes),
      rawLines.foldlM (peersFormLine csvSep peersFields canonicalUser htmlEscape)
          ⟨header, peers, err⟩ =
        .ok ⟨header, peers ++ formPeers csvSep peersFields canonicalUser header (keptLines rawLines),
          err ++ formMismatches csvSep htmlEscape header (keptLines rawLines)⟩
  | [], peers, err => by simp [keptLines, formPeers, formMismatches]; rfl
  | rawLine :: rawLines, peers, err => by
    rw [List.foldlM_cons, keptLines_cons]
    cases hb : (cleanLine rawLine).isEmpty with
    | true => rw [peersFormLine_blank hb, ok_bind, foldlM_rows hsep hheader rawLines, if_pos rfl]
    | false =>
      rw [peersFormLine_row hb hsep hheader, ok_bind, foldlM_rows hsep hheader rawLines,
        if_neg Bool.false_ne_true, formPeers_cons csvSep peersFields canonicalUser header _ (keptLines rawLines),
        formMismatches_cons csvSep htmlEscape header _ (keptLines rawLines), List.append_assoc,
        List.append_assoc]

/-- The whole loop, from no header, no peers and no errors, computes formParse of the lines
it keeps. -/
theorem foldlM_formParse : ∀ rawLines : List Bytes,
    (do
        let form ← rawLines.foldlM (peersFormLine csvSep peersFields canonicalUser htmlEscape)
          ⟨[], [], []⟩
        pure (form.peers, form.err)) =
      formParse csvSep peersFields canonicalUser htmlEscape (keptLines rawLines)
  | [] => rfl
  | rawLine :: rawLines => by
    rw [List.foldlM_cons, keptLines_cons]
    cases hb : (cleanLine rawLine).isEmpty with
    | true =>
      rw [peersFormLine_blank hb, ok_bind, if_pos rfl]
      exact foldlM_formParse rawLines
    | false =>
      rw [if_neg Bool.false_ne_true]
      by_cases hsep : csvSep = []
      · rw [peersFormLine_empty_sep hb hsep]
        simp only [formParse, hsep, List.isEmpty_nil, if_true]
        rfl
      · rw [peersFormLine_header hb hsep, ok_bind,
          foldlM_rows hsep (splitSepAux_ne_nil csvSep _ 0 []) rawLines]
        simp only [formParse, List.isEmpty_eq_false.mpr hsep, Bool.false_eq_true, if_false,
          List.nil_append]
        rfl

end

/-- parse_peers_form in closed form, for every text and every separator: it returns
formParse of the lines it keeps (the lines up to their first '#', stripped, without the
empty ones). -/
theorem parsePeersForm_closed {α : Type} (csvSep : Bytes) (peersFields : List Bytes)
    (canonicalUser : UserDict → List Bytes → α) (htmlEscape : Bytes → Bytes) (rawLines : Bytes) :
    parsePeersForm csvSep peersFields canonicalUser htmlEscape rawLines =
      formParse csvSep peersFields canonicalUser htmlEscape (keptLines (pySplit 10 rawLines)) :=
  foldlM_formParse _

/-! ### Reading back a rendered form -/

theorem not_mem_pyJoin {a : UInt8} {sep : Bytes} (hsep : a ∉ sep) :
    ∀ vs : List Bytes, (∀ v ∈ vs, a ∉ v) → a ∉ pyJoin sep vs
  | [], _ => by simp [pyJoin, List.intercalate]
  | [v], h => by simpa using h v (List.mem_singleton_self v)
  | v :: w :: vs, h => by
    rw [pyJoin_cons_cons]
    simp only [List.mem_append, not_or]
    exact ⟨⟨h v (List.mem_cons_self _ _), hsep⟩,
      not_mem_pyJoin hsep (w :: vs) fun x hx => h x (List.mem_cons_of_mem _ hx)⟩

/-- Without the separator the line is one piece, whatever the cut limit. -/
theorem splitMax_of_not_mem {sep : UInt8} {s : Bytes} (h : sep ∉ s) (n : Nat) :
    splitMax sep (n + 1) s = [s] := by
  have hall : ∀ x ∈ s, (x != sep) = true := fun x hx => by
    simpa using fun hx' : x = sep => h (hx' ▸ hx)
  simp only [splitMax, List.span_eq_take_drop, List.takeWhile_eq_self_iff.mpr hall,
    List.dropWhile_eq_nil_iff.mpr hall]

/-- A line with no '#' that strip leaves alone is kept as it is. -/
theorem keptLines_of_clean : ∀ lines : List Bytes,
    (∀ line ∈ lines, 35 ∉ line ∧ pyStrip line = line ∧ line ≠ []) → keptLines lines = lines
  | [], _ => rfl
  | line :: lines, h => by
    obtain ⟨hhash, hstrip, hne⟩ := h line (List.mem_cons_self _ _)
    have hclean : cleanLine line = line := by
      rw [cleanLine, splitMax_of_not_mem hhash, List.headD_cons, hstrip]
    rw [keptLines_cons, hclean, if_neg (by simpa using hne),
      keptLines_of_clean lines fun l hl => h l (List.mem_cons_of_mem _ hl)]

section
variable {α : Type} (peersFields : List Bytes) (canonicalUser : UserDict → List Bytes → α)
  (htmlEscape : Bytes → Bytes) {d : UInt8} {ds : Bytes}

theorem splitSepAux_render {row : List Bytes} (hrow : ∀ v ∈ row, d ∉ v)
    (hne : pyJoin (d :: ds) row ≠ []) : splitSepAux (d :: ds) 0 [] (pyJoin (d :: ds) row) = row := by
  cases row with
  | nil => exact absurd rfl hne
  | cons v vs => exact splitSepAux_pyJoin v vs fun w hw c hc hcd => hrow w hw (hcd ▸ hc)

/-- A form written as a header line and one line per row, each the fields joined by the
separator, is read back as the rows' peers with no error, when no field holds a newline, a
'#' or the separator's first byte, the separator holds no newline and no '#', each line is
non-empty and has no blanks at its ends, the header names every required field, and each row
has the header's field count. -/
theorem parsePeersForm_render (header : List Bytes) (rows : List (List Bytes))
    (hsep : 10 ∉ d :: ds ∧ 35 ∉ d :: ds)
    (hvalues : ∀ row ∈ header :: rows, ∀ v ∈ row, 10 ∉ v ∧ 35 ∉ v ∧ d ∉ v)
    (hlines : ∀ row ∈ header :: rows,
      pyStrip (pyJoin (d :: ds) row) = pyJoin (d :: ds) row ∧ pyJoin (d :: ds) row ≠ [])
    (hfields : ∀ f ∈ peersFields, f ∈ header) (hlen : ∀ row ∈ rows, row.length = header.length) :
    parsePeersForm (d :: ds) peersFields canonicalUser htmlEscape
        (pyJoin (str "\n") ((header :: rows).map (pyJoin (d :: ds)))) =
      .ok (rows.map fun row => canonicalUser (dictOf (header.zip row)) peersFields, []) := by
  have hsplit : ∀ row ∈ header :: rows, splitSepAux (d :: ds) 0 [] (pyJoin (d :: ds) row) = row :=
    fun row hrow => splitSepAux_render (fun v hv => (hvalues row hrow v hv).2.2) (hlines row hrow).2
  have htext : pySplit 10 (pyJoin (str "\n") ((header :: rows).map (pyJoin (d :: ds)))) =
      (header :: rows).map (pyJoin (d :: ds)) :=
    List.splitOn_intercalate _ 10 (fun l hl => by
      obtain ⟨row, hrow, rfl⟩ := List.mem_map.mp hl
      exact not_mem_pyJoin hsep.1 row fun v hv => (hvalues row hrow v hv).1) (by simp)
  have hkept : keptLines ((header :: rows).map (pyJoin (d :: ds))) =
      (header :: rows).map (pyJoin (d :: ds)) :=
    keptLines_of_clean _ fun l hl => by
      obtain ⟨row, hrow, rfl⟩ := List.mem_map.mp hl
      exact ⟨not_mem_pyJoin hsep.2 row fun v hv => (hvalues row hrow v hv).2.1, hlines row hrow⟩
  have hrows : ∀ row ∈ rows, splitSepAux (d :: ds) 0 [] (pyJoin (d :: ds) row) = row :=
    fun row hrow => hsplit row (List.mem_cons_of_mem _ hrow)
  have hmissing : formMissing peersFields header = [] := by simpa [formMissing] using hfields
  have hpeers : formPeers (d :: ds) peersFields canonicalUser header (rows.map (pyJoin (d :: ds))) =
      rows.map fun row => canonicalUser (dictOf (header.zip row)) peersFields := by
    rw [formPeers, List.filter_map, List.filter_eq_self.mpr fun row hrow => by
      simpa [hrows row hrow] using hlen row hrow, List.map_map]
    exact List.map_congr_left fun row hrow => by simp [hrows row hrow]
  have hmismatch : formMismatches (d :: ds) htmlEscape header (rows.map (pyJoin (d :: ds))) = [] := by
    rw [formMismatches, List.filter_map, List.filter_eq_nil_iff.mpr fun row hrow => by
      simpa [hrows row hrow] using hlen row hrow, List.map_nil, List.map_nil]
  rw [parsePeersForm_closed, htext, hkept, List.map_cons, formParse, if_neg (by simp)]
  dsimp only
  rw [hsplit header (List.mem_cons_self _ _), hmissing, hpeers, hmismatch, List.append_nil]

end

theorem parsePeersForm_render_sample :
    parsePeersForm (str ";") [str "full_name", str "email"]
        (fun user fields => fields.map fun field => (user.lookup field).getD []) id
        (pyJoin (str "\n") ([[str "full_name", str "email"], [str "A B", str "ab@diku.dk"]].map
          (pyJoin (str ";")))) =
      .ok ([[str "A B", str "ab@diku.dk"]], []) :=
  parsePeersForm_render [str "full_name", str "email"]
    (fun user fields => fields.map fun field => (user.lookup field).getD []) id
    [str "full_name", str "email"] [[str "A B", str "ab@diku.dk"]]
    (by decide) (by decide) (by decide) (by decide) (by decide)

end Migrid.Proofs.PeersForm
