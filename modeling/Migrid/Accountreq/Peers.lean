import Migrid.Python.Text
import Mathlib.Data.List.AList

namespace Migrid

/-! ### Pending peers of accountreq -/

/-- dict(pairs): the pairs inserted in order, so a later pair overwrites an earlier one. -/
def dictOf (pairs : List (Bytes × α)) : AList fun _ : Bytes => α :=
  pairs.foldl (fun d pair => d.insert pair.1 pair.2) ∅

/-- manage_pending_peers, given what load returned (an exception for a missing or
unreadable file) and whether dump succeeds. The result, and the list dump writes. -/
def managePendingPeers (loaded : Except PyError (List (Bytes × α))) (action : Bytes)
    (changeList : List (Bytes × α)) (dumpOk : Bool) : Bool × Option (List (Bytes × α)) :=
  let pendingPeers := match loaded with
    | .ok peers => peers
    | .error _ => []
  let changeDict := dictOf changeList
  let pendingPeers := pendingPeers.filter fun peer => peer.1 ∉ changeDict
  let dump := fun (peers : List (Bytes × α)) =>
    if dumpOk then (true, some peers) else (false, none)
  if action = str "add" then dump (pendingPeers ++ changeList)
  else if action = str "remove" then dump pendingPeers
  else (false, none)

/-- One call on the pending peers file of a client: the action, the change list, and
whether load and dump fail this time for reasons outside the file's content. -/
structure PeersCall (α : Type) where
  action : Bytes
  changeList : List (Bytes × α)
  loadFails : Bool
  dumpFails : Bool

/-- The call on the file, which holds a list load can read, or none when it is missing or
unreadable. The result, and the file afterwards. -/
def PeersCall.step (call : PeersCall α) (file : Option (List (Bytes × α))) :
    Bool × Option (List (Bytes × α)) :=
  let loaded : Except PyError (List (Bytes × α)) :=
    match file, call.loadFails with
    | some peers, false => .ok peers
    | _, _ => .error (.exception "could not load pending peers")
  match managePendingPeers loaded call.action call.changeList !call.dumpFails with
  | (result, some written) => (result, some written)
  | (result, none) => (result, file)

/-- A sequence of calls on one file: the results and the file at the end. -/
def runPeers : List (PeersCall α) → Option (List (Bytes × α)) → List Bool × Option (List (Bytes × α))
  | [], file => ([], file)
  | call :: calls, file =>
    let rest := runPeers calls (call.step file).2
    ((call.step file).1 :: rest.1, rest.2)

/-! ### Peers lists of accountreq: the CSV form, user ids, and the permit check -/

/-- A dict of str fields, as canonical_user and distinguished_name_to_user pass them. -/
abbrev UserDict := AList fun _ : Bytes => Bytes

/-- The state of parse_peers_form's loop: the header (None before the first line is read;
the loop only tests its truth and never sets it to an empty list, so the empty list stands
for None), the peers and the error texts. -/
structure PeersForm (α : Type) where
  header : List Bytes
  peers : List α
  err : List Bytes

/-- The error both parsers give for a user without some of peers_fields. -/
def missingFieldsError (missing : List Bytes) : Bytes :=
  str "Parsed peers did NOT contain required field(s): " ++ pyJoin (str ", ") missing

/-- The error of a line whose field count differs from the header's. -/
def mismatchError (htmlEscape : Bytes → Bytes) (csvSep line : Bytes) (header : List Bytes) :
    Bytes :=
  str "Skip peers line not matching header format: " ++
    htmlEscape (line ++ str " vs " ++ pyJoin csvSep header)

section
variable {α : Type} (csvSep : Bytes) (peersFields : List Bytes)
  (canonicalUser : UserDict → List Bytes → α) (htmlEscape : Bytes → Bytes)

/-- One pass of parse_peers_form's loop: the line without its comment, stripped, is skipped
when empty, taken as the header when none is set yet, and otherwise turned into a peer when
it has as many fields as the header. -/
def peersFormLine (form : PeersForm α) (rawLine : Bytes) : Except PyError (PeersForm α) :=
  let line := pyStrip ((splitMax 35 1 rawLine).headD [])
  if line.isEmpty then .ok form
  else do
    let parts ← pySplitStr csvSep line
    if form.header.isEmpty then
      let missing := peersFields.filter fun i => i ∉ parts
      pure { form with
        header := parts
        err := if missing.isEmpty then form.err else form.err ++ [missingFieldsError missing] }
    else if form.header.length ≠ parts.length then
      pure { form with err := form.err ++ [mismatchError htmlEscape csvSep line form.header] }
    else
      pure { form with
        peers := form.peers ++ [canonicalUser (dictOf (form.header.zip parts)) peersFields] }

/-- parse_peers_form: the lines of raw_lines through the loop, from no header, no peers and
no errors. -/
def parsePeersForm (rawLines : Bytes) : Except PyError (List α × List Bytes) := do
  let form ← (pySplit 10 rawLines).foldlM (peersFormLine csvSep peersFields canonicalUser htmlEscape)
    ⟨[], [], []⟩
  pure (form.peers, form.err)

/-- parse_peers_userid: each entry, stripped, read as a distinguished name; a user without
some of peers_fields gives an error, any other a peer. -/
def parsePeersUserid (distinguishedNameToUser : Bytes → UserDict) (rawEntries : List Bytes) :
    List α × List Bytes :=
  rawEntries.foldl (fun (peers, err) entry =>
    let rawUser := distinguishedNameToUser (pyStrip entry)
    let missing := peersFields.filter fun i => i ∉ rawUser
    if missing.isEmpty then (peers ++ [canonicalUser rawUser peersFields], err)
    else (peers, err ++ [missingFieldsError missing])) ([], [])

end

/-- The second value parse_peers returns: the list of error texts of a parser, or, for an
unknown format, a single str. -/
inductive PeersErrors where
  | list (err : List Bytes)
  | text (msg : Bytes)
  deriving DecidableEq, Repr

section
variable {α : Type} (csvSep : Bytes) (peersFields : List Bytes)
  (canonicalUser : UserDict → List Bytes → α) (htmlEscape : Bytes → Bytes)
  (distinguishedNameToUser : Bytes → UserDict)

/-- parse_peers: the parser the format names (csv_sep defaults to ';'); the upload, URL and
fields formats are not implemented and parse nothing. -/
def parsePeers (peersContent : List Bytes) (peersFormat : Bytes) :
    Except PyError (List α × PeersErrors) :=
  let userid := fun entries =>
    let (peers, err) := parsePeersUserid peersFields canonicalUser distinguishedNameToUser entries
    (peers, PeersErrors.list err)
  let form := fun rawPeers =>
    (parsePeersForm csvSep peersFields canonicalUser htmlEscape rawPeers).map fun (peers, err) =>
      (peers, PeersErrors.list err)
  if str "userid" = peersFormat then .ok (userid peersContent)
  else if str "csvform" = peersFormat then form (pyJoin (str "\n") peersContent)
  else if str "csvupload" = peersFormat then form []
  else if str "csvurl" = peersFormat then form []
  else if str "fields" = peersFormat then .ok (userid [])
  else .ok ([], .text (str "unknown peers format: " ++ peersFormat))

end

/-- peers_permit_allowed, with re.match taken as a predicate on pattern and value: every
(key, val) of site_peers_permit matches the user's field, or 'NO SUCH FIELD' when the user
has none. -/
def peersPermitAllowed (reMatch : Bytes → Bytes → Bool) (sitePeersPermit : List (Bytes × Bytes))
    (userDict : UserDict) : Bool :=
  sitePeersPermit.all fun (key, val) => reMatch val ((userDict.lookup key).getD (str "NO SUCH FIELD"))

end Migrid
