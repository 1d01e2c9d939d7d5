import Mathlib.Data.Rat.Init
import Mathlib.Logic.Function.Basic

/-!
# The remote gateway

`host/apps/remote/rp86_remote.py`: `PublicSession`, which hands one physical processor to one
browser at a time, and the POST requests of `ThreadingHTTPServer`, each in a thread of its own.  The
methods of the session hold its lock, so each is one step; a thread may be interrupted between two
of its calls.  `API.post` is not looked into: a thread is inside it from one step to another.
-/

namespace Rp86.Host

structure PublicSession where
  token : Option (List Char)
  owner : Option (List Char)
  acquiredAt : Option ℚ
  lastSeen : Option ℚ
  deriving DecidableEq

/-- `PublicSession.__init__`. -/
def PublicSession.unowned : PublicSession := ⟨none, none, none, none⟩

/-- The result of `_snapshot_unlocked`. -/
structure SessionSnapshot where
  owned : Bool
  owner : Option (List Char)
  acquiredAt : Option ℚ
  lastSeen : Option ℚ
  deriving DecidableEq

def PublicSession.snapshotUnlocked (s : PublicSession) : SessionSnapshot :=
  ⟨s.token.isSome, s.owner, s.acquiredAt, s.lastSeen⟩

inductive GatewayReply where
  | acquired (resumed : Bool) (token : List Char) (session : SessionSnapshot)
  | alreadyOwned (session : SessionSnapshot)
  | released (released : Bool) (session : SessionSnapshot)
  | ownershipRequired
  | badRequest
  /-- The result of `API.post`. -/
  | posted (status : ℕ)
  deriving DecidableEq

def GatewayReply.status : GatewayReply → ℕ
  | .acquired .. | .released .. => 200
  | .alreadyOwned _ => 409
  | .ownershipRequired => 403
  | .badRequest => 400
  | .posted status => status

/-- `secrets.compare_digest` of two strings; `none` is its `TypeError` for text outside ASCII. -/
def compareDigest (a b : List Char) : Option Bool :=
  if a.all (·.toNat < 128) ∧ b.all (·.toNat < 128) then some (a = b) else none

/-- `token and secrets.compare_digest(token, self._token)`. -/
def presents (token : Option (List Char)) (current : List Char) : Option Bool :=
  match token with
  | none | some [] => some false
  | some token => compareDigest token current

/-- `owner or "browser"`. -/
def ownerName (owner : Option (List Char)) : List Char :=
  match owner with
  | none | some [] => ['b', 'r', 'o', 'w', 's', 'e', 'r']
  | some owner => owner

/-- `PublicSession.acquire`; `fresh` is the result of `secrets.token_urlsafe(32)`. -/
def PublicSession.acquire (fresh : List Char) (now : ℚ) (token owner : Option (List Char))
    (s : PublicSession) : Option (GatewayReply × PublicSession) :=
  match s.token with
  | some current =>
    (presents token current).map fun mine =>
      if mine then
        let s := { s with lastSeen := some now }
        (.acquired true current s.snapshotUnlocked, s)
      else (.alreadyOwned s.snapshotUnlocked, s)
  | none =>
    let s : PublicSession := ⟨some fresh, some (ownerName owner), some now, some now⟩
    some (.acquired false fresh s.snapshotUnlocked, s)

def PublicSession.release (token : Option (List Char)) (s : PublicSession) :
    Option (GatewayReply × PublicSession) :=
  match s.token with
  | none => some (.released false s.snapshotUnlocked, s)
  | some current =>
    (presents token current).map fun mine =>
      if mine then (.released true unowned.snapshotUnlocked, unowned)
      else (.ownershipRequired, s)

def PublicSession.authorize (now : ℚ) (token : Option (List Char)) (s : PublicSession) :
    Option (Bool × PublicSession) :=
  match s.token with
  | none => some (false, s)
  | some current =>
    (presents token current).map fun mine =>
      if mine then (true, { s with lastSeen := some now }) else (false, s)

/-- The paths that `do_POST` tells apart. -/
inductive PostPath where
  | acquire
  | release
  | command (path : List Char)
  deriving DecidableEq

/-- A POST request: the `X-RP86-Session` header and the strings of the JSON body; `body` is `none`
when `_read_json` raises. -/
structure PostRequest where
  path : PostPath
  header : Option (List Char)
  body : Option (Option (List Char) × Option (List Char))
  deriving DecidableEq

def PostRequest.sessionToken (r : PostRequest) (payloadToken : Option (List Char)) :
    Option (List Char) :=
  match r.header with
  | none | some [] => if payloadToken = some [] then none else payloadToken
  | some header => some header

/-- Where a thread of the server is in `do_POST`. -/
inductive PostThread where
  /-- Before its call of the session. -/
  | arrived (request : PostRequest)
  /-- `authorize` accepted its token, and `API.post` has not begun. -/
  | authorized (token : List Char) (path : List Char)
  /-- Inside `API.post`. -/
  | posting (token : List Char) (path : List Char)
  | answered (reply : GatewayReply)
  | raised
  deriving DecidableEq

/-- The gateway with its threads; `issued` counts the calls of `secrets.token_urlsafe`. -/
structure Gateway where
  session : PublicSession
  issued : ℕ
  threads : ℕ → Option PostThread

def Gateway.start : Gateway := ⟨.unowned, 0, fun _ => none⟩

def Gateway.setThread (g : Gateway) (id : ℕ) (thread : PostThread) : Gateway :=
  { g with threads := Function.update g.threads id (some thread) }

inductive GatewayAction where
  /-- A request is accepted and gets a new thread. -/
  | arrive (id : ℕ) (request : PostRequest)
  /-- A thread makes its call of the session. -/
  | session (id : ℕ) (now : ℚ)
  /-- A thread enters `API.post`. -/
  | post (id : ℕ)
  /-- `API.post` returns. -/
  | finish (id : ℕ) (status : ℕ)

/-- The call of the session that a thread makes in `do_POST`. -/
def doPost (fresh : List Char) (now : ℚ) (id : ℕ) (r : PostRequest) (g : Gateway) : Gateway :=
  match r.body with
  | none => g.setThread id (.answered .badRequest)
  | some (payloadToken, owner) =>
    let token := r.sessionToken payloadToken
    match r.path with
    | .acquire =>
      let issued := if g.session.token.isNone then g.issued + 1 else g.issued
      match g.session.acquire fresh now token owner with
      | none => g.setThread id .raised
      | some (reply, session) =>
        { g with session := session, issued := issued }.setThread id (.answered reply)
    | .release =>
      match g.session.release token with
      | none => g.setThread id .raised
      | some (reply, session) => { g with session := session }.setThread id (.answered reply)
    | .command path =>
      match g.session.authorize now token with
      | none => g.setThread id .raised
      | some (false, session) =>
        { g with session := session }.setThread id (.answered .ownershipRequired)
      | some (true, session) =>
        { g with session := session }.setThread id (.authorized (token.getD []) path)

/-- One step of the gateway; `tokens` are the results of `secrets.token_urlsafe`.  A step that the
thread cannot take changes nothing. -/
def gatewayStep (tokens : ℕ → List Char) (g : Gateway) : GatewayAction → Gateway
  | .arrive id request =>
    match g.threads id with
    | none => g.setThread id (.arrived request)
    | some _ => g
  | .session id now =>
    match g.threads id with
    | some (.arrived request) => doPost (tokens g.issued) now id request g
    | _ => g
  | .post id =>
    match g.threads id with
    | some (.authorized token path) => g.setThread id (.posting token path)
    | _ => g
  | .finish id status =>
    match g.threads id with
    | some (.posting _ _) => g.setThread id (.answered (.posted status))
    | _ => g

end Rp86.Host
