import Migrid.Accountreq.Peers

namespace Migrid

/-! ### Forced organisation and email policy of accountreq -/

/-- force_org_email: the policy regexps in prioritized order, the KU catch-all last. -/
def forceOrgEmail : List (Bytes × List Bytes) :=
  [(str "DIKU", [str "^[a-zA-Z0-9_.+-]+@diku.dk$", str "^[a-zA-Z0-9_.+-]+@di.ku.dk$"]),
    (str "NBI", [str "^[a-zA-Z0-9_.+-]+@nbi.ku.dk$", str "^[a-zA-Z0-9_.+-]+@nbi.dk$",
      str "^[a-zA-Z0-9_.+-]+@fys.ku.dk$"]),
    (str "IMF", [str "^[a-zA-Z0-9_.+-]+@math.ku.dk$"]),
    (str "DTU", [str "^[a-zA-Z0-9_.+-]+@dtu.dk$"]),
    (str "KU", [str "^[a-zA-Z0-9_.+-]+@(alumni.|)ku.dk$"])]

/-- str.upper() of a byte string: the ASCII lower case letters raised. -/
def pyUpper (s : Bytes) : Bytes := s.map fun c => if 97 ≤ c ∧ c ≤ 122 then c - 32 else c

/-- The nested loop over force_org_email: the first pattern of each organisation that
re.match accepts sets is_forced_email and email_hit; the loop stops at the first hit, or at
the user's own forced organisation. -/
def orgEmailScan (reMatch : Bytes → Bytes → Bool) (email : Bytes) (isForcedOrg : Bool)
    (org : Bytes) : List (Bytes × List Bytes) → Bool × Bytes → Bool × Bytes
  | [], state => state
  | (forcedOrg, forcedEmailList) :: rest, state =>
    let state := match forcedEmailList.find? fun forcedEmail => reMatch forcedEmail email with
      | some forcedEmail => (true, forcedEmail)
      | none => state
    if state.1 || isForcedOrg && org == forcedOrg then state
    else orgEmailScan reMatch email isForcedOrg org rest state

/-- forced_org_email_match, with re.match taken as a predicate on pattern and email. -/
def forcedOrgEmailMatch (reMatch : Bytes → Bytes → Bool) (org email : Bytes) : Bool :=
  let forceOrgEmailDict := dictOf forceOrgEmail
  let isForcedOrg := decide (pyUpper org ∈ forceOrgEmailDict)
  let org := if isForcedOrg then pyUpper org else org
  let (isForcedEmail, emailHit) :=
    orgEmailScan reMatch email isForcedOrg org forceOrgEmail (false, str "__BOGUS__")
  !(isForcedOrg != isForcedEmail ||
    !((forceOrgEmailDict.lookup org).getD [str "__BOGUS__"]).contains emailHit)

/-! ### Pending account requests, country codes and accepted peers of accountreq -/

/-- os.path.join(a, b): an absolute b replaces a, and a '/' goes between them unless a is
empty or already ends in one. -/
def pathJoin (a b : Bytes) : Bytes :=
  if (str "/").isPrefixOf b then b
  else if a.isEmpty || a.getLast? == some 47 then a ++ b
  else a ++ str "/" ++ b

/-- The calls the account request helpers make on the system: os.listdir, os.path.isdir,
os.mkdir (with the text of what they raise) and os.path.isfile. -/
structure PendingFs where
  listdir : Bytes → Except Bytes (List Bytes)
  isdir : Bytes → Bool
  mkdir : Bytes → Except Bytes Unit
  isfile : Bytes → Bool

/-- is_account_req: the request is a file in configuration.user_pending. -/
def isAccountReq (fs : PendingFs) (userPending reqId : Bytes) : Bool :=
  fs.isfile (pathJoin userPending reqId)

/-- list_account_reqs, with its (False, msg) result as the error msg and (True, ids) as ids.
A listing that fails leaves the initial empty dir_content, whether the directory exists or is
made; only a failed mkdir is an error. -/
def listAccountReqs (fs : PendingFs) (userPending : Bytes) : Except Bytes (List Bytes) := do
  let dirContent ← match fs.listdir userPending with
    | .ok dirContent => pure dirContent
    | .error _ =>
      if fs.isdir userPending then pure []
      else match fs.mkdir userPending with
        | .ok () => pure []
        | .error _ => throw (str "account request setup is broken")
  pure (dirContent.foldl (fun accountreqList entry =>
    if (str ".").isPrefixOf entry then accountreqList
    else if isAccountReq fs userPending entry then accountreqList ++ [entry]
    else accountreqList) [])

section
variable {V : Type}

/-- A request dict as serial.load returns it. -/
abbrev ReqDict (V : Type) := AList fun _ : Bytes => V

/-- get_account_req, given serial.load (None, a dict, or what it raises, which the helper lets
through) and os.path.getctime, each as the value it puts in the dict. (False, msg) is the
error msg, (True, req_dict) the dict. -/
def getAccountReq (load : Bytes → Except PyError (Option (ReqDict V))) (getctime : Bytes → V)
    (ofStr : Bytes → V) (userPending reqId : Bytes) : Except PyError (Except Bytes (ReqDict V)) := do
  let reqPath := pathJoin userPending reqId
  let reqDict ← load reqPath
  match reqDict with
  | some reqDict =>
    if reqDict.entries.isEmpty then pure (.error (str "Could not open account request " ++ reqId))
    else pure (.ok ((reqDict.insert (str "id") (ofStr reqId)).insert (str "created") (getctime reqPath)))
  | none => pure (.error (str "Could not open account request " ++ reqId))

variable {load : Bytes → Except PyError (Option (ReqDict V))} {getctime : Bytes → V}
  {ofStr : Bytes → V} {userPending reqId : Bytes}

/-- A request get_account_req returns is the one stored, non-empty, with only 'id' set to the
request id and 'created' to the file's ctime. -/
theorem getAccountReq_fields {reqDict : ReqDict V}
    (h : getAccountReq load getctime ofStr userPending reqId = .ok (.ok reqDict)) :
    ∃ stored : ReqDict V, load (pathJoin userPending reqId) = .ok (some stored) ∧ stored.entries ≠ [] ∧
      reqDict.lookup (str "id") = some (ofStr reqId) ∧
      reqDict.lookup (str "created") = some (getctime (pathJoin userPending reqId)) ∧
      ∀ key, key ≠ str "id" → key ≠ str "created" → reqDict.lookup key = stored.lookup key := by
  unfold getAccountReq at h
  dsimp only at h
  cases hload : load (pathJoin userPending reqId) with
  | error e => simp [hload] at h; cases h
  | ok loaded =>
    rw [hload] at h
    cases loaded with
    | none => cases h
    | some stored =>
      by_cases hempty : stored.entries.isEmpty
      · simp [hempty, bind, Except.bind, pure, Except.pure] at h
      · simp only [hempty, bind, Except.bind, pure, Except.pure, Bool.false_eq_true, if_false] at h
        cases h
        refine ⟨stored, rfl, fun hnil => hempty (by rw [hnil]; rfl), ?_, AList.lookup_insert _, ?_⟩
        · rw [AList.lookup_insert_ne (by decide), AList.lookup_insert]
        · intro key hid hcreated
          rw [AList.lookup_insert_ne hcreated, AList.lookup_insert_ne hid]

/-- Every text get_account_req reports names the request, and it reports one exactly when load
finds nothing in the request file. -/
theorem getAccountReq_error {msg : Bytes}
    (h : getAccountReq load getctime ofStr userPending reqId = .ok (.error msg)) :
    msg = str "Could not open account request " ++ reqId ∧
      (load (pathJoin userPending reqId) = .ok none ∨ load (pathJoin userPending reqId) = .ok (some ∅)) := by
  unfold getAccountReq at h
  dsimp only at h
  cases hload : load (pathJoin userPending reqId) with
  | error e => simp [hload] at h; cases h
  | ok loaded =>
    rw [hload] at h
    cases loaded with
    | none => cases h; exact ⟨rfl, .inl rfl⟩
    | some stored =>
      by_cases hempty : stored.entries.isEmpty
      · simp [hempty, bind, Except.bind, pure, Except.pure] at h
        cases h
        refine ⟨rfl, .inr (congrArg _ (congrArg _ (AList.ext (List.isEmpty_iff.mp hempty))))⟩
      · simp [hempty, bind, Except.bind, pure, Except.pure] at h

/-- get_accepted_peers, given what serial.load returns for the peers file: an empty dict when it
raises. -/
def getAcceptedPeers (loaded : Except PyError (ReqDict V)) : ReqDict V :=
  match loaded with
  | .ok acceptedPeers => acceptedPeers
  | .error _ => ∅

end

/-- accept_account_req: account creation is not implemented, so it refuses every request. -/
def acceptAccountReq (_userPending _reqId : Bytes) : Bool := false

/-- delete_account_req, given fileio.delete_file. -/
def deleteAccountReq (deleteFile : Bytes → Bool) (userPending reqId : Bytes) : Bool :=
  deleteFile (pathJoin userPending reqId)

/-- The fields of an iso3166 Country the helpers read. -/
structure Country where
  name : Bytes
  alpha2 : Bytes
  deriving DecidableEq, Repr

/-- existing_country_code, given iso3166 (None when the module is missing) as its
countries.get, which raises KeyError (none here) for an unknown key. A Country is a non-empty
namedtuple, so it is always true. -/
def existingCountryCode (iso3166 : Option (Bytes → Option Country)) (countryCode : Bytes) : Bool :=
  match iso3166 with
  | none => true
  | some get =>
    match get countryCode with
    | some country => country.alpha2 == countryCode
    | none => false

/-- list_country_codes, given iso3166 as its list of countries (None when the module is
missing, for which the helper returns False). -/
def listCountryCodes (iso3166 : Option (List Country)) : Option (List (Bytes × Bytes)) :=
  iso3166.map fun countries => countries.map fun entry => (entry.name, entry.alpha2)

end Migrid
