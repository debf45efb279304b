import Mathlib.Data.Nat.Digits.Lemmas
import Mathlib.Algebra.Order.BigOperators.Group.List
/-!
# Web credentials (`auth.rs`)

The registry of Web sessions, its document on disk and the two steps of a login.
-/
namespace Rovai.Web

open List

def sessionLifetime : Nat := 30 * 24 * 60 * 60 * 1000
def renewalWindow : Nat := 7 * 24 * 60 * 60 * 1000
def loginTicketLifetime : Nat := 120 * 1000
def maxSessions : Nat := 32
def loginAttempts : Nat := 12
def loginWindow : Nat := 60 * 1000

def wrapping (n : Nat) : Nat := n % 2 ^ 64

/-! ## Credentials -/

structure Digest where
  bytes : List UInt8
  length_bytes : bytes.length = 32
  deriving DecidableEq

inductive TokenKind where
  | administrator
  | session
  | loginTicket

def isHexDigit (c : Char) : Bool :=
  c.isDigit || ('a' ≤ c && c ≤ 'f') || ('A' ≤ c && c ≤ 'F')

def validToken (token : String) : Bool :=
  token.utf8ByteSize == 64 && token.toList.all isHexDigit

inductive LoginFailure where
  | throttled
  | unauthorized
  | capacity
  | storage

inductive AuthStoreFailure where
  | content
  deriving DecidableEq

/-! ## The document -/

structure StoredSession where
  digest : Digest
  clientId : String
  (expiresAt lastUsedAt : Nat)
  deriving DecidableEq

structure StoredAuth where
  version : Nat
  administratorToken : String
  sessions : List StoredSession
  deriving DecidableEq

def decimalLength (n : Nat) : Nat :=
  max 1 (Nat.digits 10 n).length

def arrayLength (lengths : List Nat) : Nat :=
  2 + lengths.sum + (lengths.length - 1)

/-- The length of an entry of the document in bytes: its keys, its punctuation and its values.  A token needs no escape. -/
def StoredSession.encodedLength (session : StoredSession) : Nat :=
  "\x7b\"digest\":,\"clientId\":\"\",\"expiresAt\":,\"lastUsedAt\":\x7d".length +
    arrayLength (session.digest.bytes.map fun byte => decimalLength byte.toNat) +
    session.clientId.utf8ByteSize + decimalLength session.expiresAt + decimalLength session.lastUsedAt

def StoredAuth.encodedLength (stored : StoredAuth) : Nat :=
  "\x7b\"version\":,\"administratorToken\":\"\",\"sessions\":\x7d".length + decimalLength stored.version +
    stored.administratorToken.utf8ByteSize + arrayLength (stored.sessions.map StoredSession.encodedLength)

structure StoredAuth.Accepted (stored : StoredAuth) : Prop where
  length : stored.encodedLength ≤ 65536
  version : stored.version = 1
  administrator : validToken stored.administratorToken = true
  capacity : stored.sessions.length ≤ maxSessions
  sessions : ∀ session ∈ stored.sessions, validToken session.clientId = true ∧ session.expiresAt > 0
  digests : (stored.sessions.map (·.digest)).Nodup
  editors : (stored.sessions.map (·.clientId)).Nodup

theorem StoredAuth.accepted_iff (stored : StoredAuth) : stored.Accepted ↔
    stored.encodedLength ≤ 65536 ∧ stored.version = 1 ∧ validToken stored.administratorToken = true ∧
      stored.sessions.length ≤ maxSessions ∧
      (∀ session ∈ stored.sessions, validToken session.clientId = true ∧ session.expiresAt > 0) ∧
      (stored.sessions.map (·.digest)).Nodup ∧ (stored.sessions.map (·.clientId)).Nodup :=
  ⟨fun ⟨a, b, c, d, e, f, g⟩ => ⟨a, b, c, d, e, f, g⟩, fun ⟨a, b, c, d, e, f, g⟩ => ⟨a, b, c, d, e, f, g⟩⟩

instance (stored : StoredAuth) : Decidable stored.Accepted :=
  decidable_of_iff' _ stored.accepted_iff

def readStore (file : Option StoredAuth) : Except AuthStoreFailure (Option StoredAuth) := match file with
  | none => .ok none
  | some stored => if stored.Accepted then .ok (some stored) else .error .content

/-! ## The registry -/

structure Session where
  digest : Digest
  handle : Nat
  clientId : String
  expiresAt : Nat
  revoked : Bool
  (lastUsedAt holders : Nat)

structure LoginTicket where
  digest : Digest
  expiresAt : Nat

structure TicketGrant where
  generation : Nat
  digest : Digest

structure SessionState where
  enabled : Bool
  administratorPlaintext : String
  sessions : List Session
  attempts : List Nat
  generation : Nat
  ticket : Option LoginTicket

structure Sessions where
  file : Option StoredAuth
  state : SessionState

def Session.stored (session : Session) : StoredSession where
  digest := session.digest
  clientId := session.clientId
  expiresAt := session.expiresAt
  lastUsedAt := session.lastUsedAt

def document (administrator : String) (sessions : List Session) : StoredAuth where
  version := 1
  administratorToken := administrator
  sessions := sessions.map Session.stored

namespace Sessions

section Login

variable (digest : TokenKind → String → Digest)

def new (administrator : String) : Option SessionState :=
  if validToken administrator then
    some { enabled := true, administratorPlaintext := administrator, sessions := [], attempts := [], generation := 0,
           ticket := none }
  else none

def reopened (nextHandle : Nat) (stored : List StoredSession) : List Session :=
  stored.zipIdx.map fun (entry, i) =>
    { digest := entry.digest, handle := nextHandle + i, clientId := entry.clientId, expiresAt := entry.expiresAt,
      revoked := false, lastUsedAt := entry.lastUsedAt, holders := 0 }

def open_ (file : Option StoredAuth) (bootstrap : Option String) (fresh : String) (saved : Bool) (now nextHandle : Nat) :
    Option Sessions :=
  match readStore file with
  | .error _ => none
  | .ok stored =>
    let token := match stored with
      | some stored => stored.administratorToken
      | none => bootstrap.getD fresh
    if bootstrap.any (fun bootstrap => token ≠ bootstrap) then none
    else
      (new token).bind fun state =>
        match stored with
        | some stored => some {
            file := file
            state := { state with
              sessions := reopened nextHandle (stored.sessions.filter (fun entry => now < entry.expiresAt)) } }
        | none => if saved then some { file := some (document token []), state := state } else none

variable (s : Sessions) (saved : Bool)

def replace (token : String) (sessions : List Session) : Except LoginFailure Sessions :=
  if saved then
    .ok { file := some (document token sessions)
          state := { s.state with sessions := sessions, administratorPlaintext := token } }
  else .error .storage

variable (state : SessionState) (instant : Nat)

def admitLogin : SessionState × Except LoginFailure Unit :=
  if !state.enabled then (state, .error .unauthorized)
  else
    let state := { state with attempts := state.attempts.dropWhile fun time => decide (instant - time ≥ loginWindow) }
    if state.attempts.length ≥ loginAttempts then (state, .error .throttled)
    else ({ state with attempts := state.attempts ++ [instant] }, .ok ())

def authorizeLogin (administrator : String) :
    SessionState × Except LoginFailure Nat :=
  match admitLogin state instant with
  | (state, .error failure) => (state, .error failure)
  | (state, .ok ()) =>
    if !validToken administrator ||
        digest .administrator state.administratorPlaintext ≠ digest .administrator administrator then
      (state, .error .unauthorized)
    else (state, .ok state.generation)

def loginTicket (token : String) : Except LoginFailure SessionState :=
  if state.enabled then
    .ok { state with
      ticket := some { digest := digest .loginTicket token, expiresAt := instant + loginTicketLifetime } }
  else .error .unauthorized

def holdsTicket (candidate : Digest) : Bool :=
  state.ticket.any fun stored => decide (stored.expiresAt > instant) && decide (stored.digest = candidate)

def authorizeTicket (ticket : String) :
    SessionState × Except LoginFailure TicketGrant :=
  match admitLogin state instant with
  | (state, .error failure) => (state, .error failure)
  | (state, .ok ()) =>
    if !validToken ticket || !holdsTicket state instant (digest .loginTicket ticket) then (state, .error .unauthorized)
    else (state, .ok { generation := state.generation, digest := digest .loginTicket ticket })

/-! ## Issuing -/

def olderThan (a b : Session) : Bool :=
  decide (a.lastUsedAt < b.lastUsedAt) ||
    (decide (a.lastUsedAt = b.lastUsedAt) && decide (a.digest.bytes < b.digest.bytes))

def oldest (sessions : List Session) : Option Session :=
  sessions.foldl (fun best session => match best with
    | none => some session
    | some best => if olderThan session best then some session else some best) none

def stays (now : Nat) (clientId : String) (session : Session) : Bool :=
  decide (session.expiresAt > now) && session.clientId != clientId

def makeRoom (now : Nat) (clientId : String) (sessions : List Session) : Except LoginFailure (List Session) :=
  let next := sessions.filter (stays now clientId)
  if next.length ≥ maxSessions then
    match oldest (next.filter (fun session => session.holders = 0)) with
    | none => .error .capacity
    | some oldestIdle => .ok (next.filter (fun session => session.digest ≠ oldestIdle.digest))
  else .ok next

def insert (now nextHandle : Nat) (clientId token : String) (expiry : Nat) :
    Except LoginFailure Sessions := do
  let next ← makeRoom now clientId s.state.sessions
  let session : Session :=
    { digest := digest .session token, handle := nextHandle, clientId := clientId, expiresAt := expiry, revoked := false,
      lastUsedAt := now, holders := 1 }
  s.replace saved s.state.administratorPlaintext
    (next.filter (fun other => other.digest ≠ session.digest) ++ [session])

def issue (now nextHandle : Nat) (generation : Nat) (clientId token : String) :
    Except LoginFailure Sessions :=
  if !s.state.enabled || s.state.generation ≠ generation || !validToken clientId then .error .unauthorized
  else s.insert digest saved now nextHandle clientId token (wrapping (now + sessionLifetime))

def issueTicket (now instant nextHandle : Nat) (grant : TicketGrant) (clientId token : String) :
    Except LoginFailure Sessions :=
  if !holdsTicket s.state instant grant.digest then .error .unauthorized
  else (s.issue digest saved now nextHandle grant.generation clientId token).map fun s =>
    { s with state := { s.state with ticket := none } }

end Login

/-! ## Living sessions -/

variable (state : SessionState)

def live (now : Nat) (session : Session) : Bool :=
  state.enabled && decide (session.expiresAt > now) && !session.revoked

def byHandle (handle : Nat) : Option Session :=
  state.sessions.find? fun session => session.handle = handle

def heldLive (now handle : Nat) : Option Session :=
  (byHandle state handle).filter fun session => live state now session && decide (session.holders > 0)

variable (digest : TokenKind → String → Digest) (s : Sessions) (saved : Bool)

def fork (now nextHandle : Nat) (parent : Nat)
    (clientId token : String) : Except LoginFailure Sessions :=
  match heldLive s.state now parent with
  | none => .error .unauthorized
  | some parent =>
    if !validToken clientId || clientId = parent.clientId then .error .unauthorized
    else s.insert digest saved now nextHandle clientId token parent.expiresAt

def onHandle (handle : Nat) (f : Session → Session) (sessions : List Session) : List Session :=
  sessions.map fun session => if session.handle = handle then f session else session

def renew (now handle : Nat) : Except LoginFailure Sessions :=
  match heldLive s.state now handle with
  | none => .error .unauthorized
  | some session =>
    if session.expiresAt - now ≤ renewalWindow then
      s.replace saved s.state.administratorPlaintext
        (onHandle handle (fun session => { session with expiresAt := wrapping (now + sessionLifetime) }) s.state.sessions)
    else .ok s

def authenticated (state : SessionState) (now : Nat) (token : String) : Option Session :=
  if !validToken token then none
  else (state.sessions.find? fun session => session.digest = digest .session token).filter (live state now)

def authenticate (state : SessionState) (now : Nat) (token : String) : SessionState :=
  match authenticated digest state now token with
  | none => state
  | some session =>
    { state with
      sessions := onHandle session.handle (fun session => { session with lastUsedAt := now, holders := session.holders + 1 })
        state.sessions }

def release (handle : Nat) : SessionState :=
  { state with sessions := onHandle handle (fun session => { session with holders := session.holders - 1 }) state.sessions }

/-! ## Ending sessions -/

def revoke (handle : Nat) : Except LoginFailure Sessions :=
  s.replace saved s.state.administratorPlaintext (s.state.sessions.filter (fun session => session.handle ≠ handle))

def rotate (administrator : String) : Except LoginFailure Sessions :=
  if !validToken administrator then .error .unauthorized
  else (s.replace saved administrator []).map fun s =>
    { s with state := { s.state with
        generation := wrapping (s.state.generation + 1), attempts := [], ticket := none } }

def close : Except LoginFailure Sessions :=
  (s.replace saved s.state.administratorPlaintext []).map fun s =>
    { s with state := { s.state with
        enabled := false, generation := wrapping (s.state.generation + 1), ticket := none } }

def suspend : SessionState :=
  { state with
    enabled := false, generation := wrapping (state.generation + 1), ticket := none
    sessions := state.sessions.map fun session => { session with revoked := true } }

def enable : SessionState :=
  { state with enabled := true, sessions := state.sessions.map fun session => { session with revoked := false } }

end Sessions
/-! ## What is granted -/

def Session.grant (session : Session) : Digest × String × Nat :=
  (session.digest, session.clientId, session.expiresAt)

def StoredSession.grant (session : StoredSession) : Digest × String × Nat :=
  (session.digest, session.clientId, session.expiresAt)

def unexpired (now : Nat) (grants : List (Digest × String × Nat)) : List (Digest × String × Nat) :=
  grants.filter fun grant => now < grant.2.2

structure Orderly (grants : List (Digest × String × Nat)) : Prop where
  capacity : grants.length ≤ maxSessions
  valid : ∀ grant ∈ grants, validToken grant.2.1 = true ∧ grant.2.2 > 0 ∧ grant.2.2 < 2 ^ 64
  digests : (grants.map (·.1)).Nodup
  editors : (grants.map (·.2.1)).Nodup

theorem Orderly.nil : Orderly [] := ⟨Nat.zero_le _, by simp, nodup_nil, nodup_nil⟩

theorem Orderly.sublist {grants grants' : List (Digest × String × Nat)} (h : Orderly grants) (hsub : grants'.Sublist grants) :
    Orderly grants' where
  capacity := hsub.length_le.trans h.capacity
  valid grant hmem := h.valid grant (hsub.subset hmem)
  digests := h.digests.sublist (hsub.map _)
  editors := h.editors.sublist (hsub.map _)

theorem Orderly.concat {grants : List (Digest × String × Nat)} (h : Orderly grants) {grant : Digest × String × Nat}
    (hroom : grants.length < maxSessions) (hvalid : validToken grant.2.1 = true ∧ grant.2.2 > 0 ∧ grant.2.2 < 2 ^ 64)
    (hdigest : ∀ other ∈ grants, other.1 ≠ grant.1) (heditor : ∀ other ∈ grants, other.2.1 ≠ grant.2.1) :
    Orderly (grants ++ [grant]) where
  capacity := by
    rw [length_append, length_singleton]
    exact hroom
  valid other hmem := by
    obtain hold | rfl := mem_append.1 hmem |>.imp_right mem_singleton.1
    · exact h.valid other hold
    · exact hvalid
  digests := by
    rw [map_append, map_singleton, ← concat_eq_append]
    refine h.digests.concat fun hmem => ?_
    obtain ⟨other, hother, heq⟩ := mem_map.1 hmem
    exact hdigest other hother heq
  editors := by
    rw [map_append, map_singleton, ← concat_eq_append]
    refine h.editors.concat fun hmem => ?_
    obtain ⟨other, hother, heq⟩ := mem_map.1 hmem
    exact heditor other hother heq

/-! ## The size of the document -/

theorem decimalLength_le {n k : Nat} (h : n < 10 ^ k) (hk : 1 ≤ k) : decimalLength n ≤ k :=
  max_le hk ((Nat.digits_length_le_iff (by decide) n).2 h)

theorem decimalLength_time {n : Nat} (h : n < 2 ^ 64) : decimalLength n ≤ 20 :=
  decimalLength_le (h.trans (by decide)) (by decide)

theorem arrayLength_le {lengths : List Nat} (bound : Nat) (h : ∀ length ∈ lengths, length ≤ bound) :
    arrayLength lengths ≤ 2 + lengths.length * (bound + 1) := by
  have hsum : lengths.sum ≤ lengths.length * bound := by
    simpa using sum_le_card_nsmul lengths bound h
  rw [arrayLength, Nat.mul_add, Nat.mul_one]
  omega

theorem utf8ByteSize_of_validToken {token : String} (h : validToken token = true) : token.utf8ByteSize = 64 := by
  rw [validToken, Bool.and_eq_true, beq_iff_eq] at h
  exact h.1

theorem StoredSession.encodedLength_le {session : StoredSession} (hclient : validToken session.clientId = true)
    (hexpiry : session.expiresAt < 2 ^ 64) (hused : session.lastUsedAt < 2 ^ 64) : session.encodedLength ≤ 300 := by
  have hbytes : arrayLength (session.digest.bytes.map fun byte => decimalLength byte.toNat) ≤ 2 + 32 * (3 + 1) := by
    refine (arrayLength_le 3 ?_).trans (by rw [length_map, session.digest.length_bytes])
    intro length hmem
    obtain ⟨byte, -, rfl⟩ := mem_map.1 hmem
    exact decimalLength_le (byte.toNat_lt.trans (by decide)) (by decide)
  have hkeys : "\x7b\"digest\":,\"clientId\":\"\",\"expiresAt\":,\"lastUsedAt\":\x7d".length = 52 := by decide
  have h1 := decimalLength_time hexpiry
  have h2 := decimalLength_time hused
  rw [StoredSession.encodedLength, hkeys, utf8ByteSize_of_validToken hclient]
  omega

/-- **A document with orderly sessions is accepted**, its size included. -/
theorem StoredAuth.accepted {stored : StoredAuth} (hversion : stored.version = 1)
    (hadministrator : validToken stored.administratorToken = true) (h : Orderly (stored.sessions.map StoredSession.grant))
    (hused : ∀ session ∈ stored.sessions, session.lastUsedAt < 2 ^ 64) : stored.Accepted := by
  have hvalid : ∀ session ∈ stored.sessions,
      validToken session.clientId = true ∧ session.expiresAt > 0 ∧ session.expiresAt < 2 ^ 64 :=
    fun session hmem => h.valid _ (mem_map_of_mem hmem)
  have hcapacity : stored.sessions.length ≤ maxSessions := by simpa using h.capacity
  refine ⟨?_, hversion, hadministrator, hcapacity, fun session hmem => ⟨(hvalid session hmem).1, (hvalid session hmem).2.1⟩, ?_, ?_⟩
  · have hentries : arrayLength (stored.sessions.map StoredSession.encodedLength) ≤ 2 + stored.sessions.length * (300 + 1) := by
      refine (arrayLength_le 300 ?_).trans (by rw [length_map])
      intro length hmem
      obtain ⟨session, hsession, rfl⟩ := mem_map.1 hmem
      obtain ⟨hclient, -, hexpiry⟩ := hvalid session hsession
      exact StoredSession.encodedLength_le hclient hexpiry (hused session hsession)
    have hkeys : "\x7b\"version\":,\"administratorToken\":\"\",\"sessions\":\x7d".length = 48 := by decide
    have hone : decimalLength 1 = 1 := by decide
    rw [StoredAuth.encodedLength, hkeys, hversion, hone, utf8ByteSize_of_validToken hadministrator]
    have : maxSessions = 32 := rfl
    omega
  · simpa [Function.comp_def, StoredSession.grant] using h.digests
  · simpa [Function.comp_def, StoredSession.grant] using h.editors

end Rovai.Web
