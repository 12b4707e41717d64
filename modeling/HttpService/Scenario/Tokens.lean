import HttpService.Scenario.Setup

/-!
# Played tokens

Makers that issue, verify and revoke tokens, on one list of revoked tokens or each on its own.
-/

namespace HttpService.Scenario

structure TokenTable where
  makers : List TokenMaker
  /-- The lists, one for each maker; a shared one is the first. -/
  lists : List RevocationList
  shared : Bool
  /-- The tokens that were created, the first one first. -/
  created : List (String × Claims) := []

namespace TokenTable

def slot (t : TokenTable) (on : Nat) : Nat :=
  if t.shared then 0 else on

def list (t : TokenTable) (on : Nat) : RevocationList :=
  t.lists.getD (t.slot on) {}

def setList (t : TokenTable) (on : Nat) (l : RevocationList) : TokenTable :=
  { t with lists := t.lists.set (t.slot on) l }

def revoke (t : TokenTable) (on : Nat) (c : Claims) : TokenTable :=
  t.setList on ((t.list on).revoke c.id c.expiresAt)

/-- A token, given as a text or by the number of a created one, and whether it was created. -/
def token (t : TokenTable) (j : Json) : String × Bool :=
  match j with
  | .text s => (s, t.created.any fun c => c.1 == s)
  | _ => (((t.created[asNat j]?).map Prod.fst).getD "", true)

def shown (created : Bool) (c : Claims) : Json :=
  if created then .text (viewClaims c) else c.toJson

end TokenTable

def claimsOf (j : Json) : Claims :=
  (asRecord? Claims.reader j).getD ⟨⟨0⟩, "", "", ⟨0⟩, ⟨0⟩, none⟩

/-- Whether a token is valid at a time, and says what it was created with. -/
def agrees (m : TokenMaker) (l : RevocationList) (token : String) (c : Claims) (t : Instant) :
    Json :=
  viewResult (fun d => .bool (decide (d = c))) (m.verifyAt l token t)

/-- One step of a maker; nothing if it panics. -/
def playToken (t : TokenTable) (on : Nat) (m : TokenMaker) (name : String) (a : Json) :
    Option (TokenTable × Json) :=
  let l := t.list on
  match name with
  | "verify" =>
      let (s, created) := t.token (item a 0)
      some (t, viewResult (TokenTable.shown created) (m.verifyAt l s (asInstant (item a 1))))
  | "verify_now" =>
      let (s, created) := t.token a
      some (t, viewResult (TokenTable.shown created) (m.verifyAt l s today))
  | "revoke" =>
      match m.verifyAt l (t.token (item a 0)).1 (asInstant (item a 1)) with
      | .ok c => some (t.revoke on c, viewOk .null)
      | .error f => some (t, viewFailure f)
  | "revoke_claims" => some (t.revoke on (claimsOf a), .null)
  | "purge" => some (t.setList on (l.purge (asInstant a)), Json.ofNat (l.purged (asInstant a)))
  | "expired_at" => some (t, .bool ((claimsOf (item a 0)).expiredAt (asInstant (item a 1))))
  | "create" => do
      let id := Uuid.ofSeed (firstSeed + t.created.length)
      let (s, c) ← m.create? id (textAt a 0) (textAt a 1)
        (asInt (item a 2) * Instant.nanosPerSecond) today
      some ({ t with created := t.created ++ [(s, c)] },
        object (tokenMembers s ++
          [("at_issue", agrees m l s c c.issuedAt), ("at_expiry", agrees m l s c c.expiresAt),
           ("payload_ttl", Json.ofInt (c.expiresAt.seconds - c.issuedAt.seconds))]))
  | "info" =>
      some (t, .array [.text m.algorithm.name, Json.ofText? m.issuer, Json.ofNat l.size,
        .bool (l.size == 0), .text (m.describe l)])
  | _ => some (t, .null)

def playTokens (t : TokenTable) : List Json → Option (List Json)
  | [] => some []
  | j :: rest => do
      let on := asNat (field j "on")
      let m ← t.makers[on]?
      let (t, shown) ← playToken t on m (step j).1 (step j).2
      let more ← playTokens t rest
      some (shown :: more)

/-- Plays steps on the makers of a description. -/
def tokens (j : Json) : Json :=
  let given := if has j "makers" then asList (field j "makers") else [j]
  match given.mapM fun m => makerOf m (asText (field m "secret")) with
  | .error f => viewFailure f
  | .ok makers =>
      let start : TokenTable :=
        { makers := makers, lists := makers.map fun _ => {}, shared := asBool (field j "shared") }
      match playTokens start (asList (field j "steps")) with
      | some shown => .array shown
      | none => panicked

def playRevocation (l : RevocationList) (name : String) (a : Json) : RevocationList × Json :=
  let id (j : Json) : Uuid := (Uuid.parse? (asText j)).getD ⟨0⟩
  match name with
  | "revoke" => (l.revoke (id (item a 0)) (asInstant (item a 1)), .null)
  | "check" => (l, .bool (l.isRevoked (id a)))
  | _ => (l.purge (asInstant a), Json.ofNat (l.purged (asInstant a)))

/-- Plays steps on one list of revoked tokens. -/
def revocations (j : Json) : Json :=
  let (_, shown) := (asList (field j "steps")).foldl (fun (l, out) s =>
    let (l, a) := playRevocation l (step s).1 (step s).2
    (l, Json.array [a, Json.ofNat l.size, .bool (l.size == 0)] :: out))
    (RevocationList.empty, [])
  .array shown.reverse

/-! ## Users -/

/-- The id of a user named `id:NAME`, when that name has been answered. -/
def answeredId (known : Table String) (s : String) : String :=
  match Text.stripStart? "id:" s with
  | some name => (known.find? name).getD s
  | none => s

def playUser (s : Site) (known : Table String) (name : String) (a : Json) :
    Site × Except Failure User :=
  match name with
  | "authenticate" => (s, s.directory.authenticate (textAt a 0) (textAt a 1))
  | "get" => (s, s.directory.get (answeredId known (asText a)))
  | _ => addUser s a

/-- Plays steps on a directory of users. -/
def users (j : Json) : Json :=
  let (s, _, shown) := (asList (field j "steps")).foldl (fun (s, known, out) st =>
    let (s, r) := playUser s known (step st).1 (step st).2
    let known := match r with
      | .ok u => Table.insert known u.username u.id
      | .error _ => known
    let size := s.directory.size
    (s, known, Json.array [viewResult User.toJson r, Json.ofNat size, .bool (size == 0)] :: out))
    (emptySite, ([] : Table String), [])
  object [("steps", .array shown.reverse), ("debug", .text s.directory.describe)]

end HttpService.Scenario
