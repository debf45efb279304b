import RovaiCore.WebRegistry
import RovaiCore.Runs
/-!
# Web sessions over a run

The data directory, the clock and the process that holds the registry.
-/
namespace Rovai.Web

open Sessions
open List

structure Host where
  (now instant : Nat)
  file : Option StoredAuth
  process : Nat
  registry : Option SessionState
  nextHandle : Nat
  logins : List (Nat × Nat)
  ticketGrants : List (Nat × TicketGrant)

inductive HostAction where
  /-- The clock goes on to the reading, unless it lies behind or outside 64 bits. -/
  | advance (now instant : Nat)
  | exit
  | open_ (bootstrap : Option String) (fresh : String) (saved : Bool)
  | authorizeLogin (administrator : String)
  | loginTicket (token : String)
  | authorizeTicket (ticket : String)
  | issue (login : Nat) (clientId token : String) (saved : Bool)
  | issueTicket (grant : Nat) (clientId token : String) (saved : Bool)
  | fork (parent : Nat) (clientId token : String) (saved : Bool)
  | renew (handle : Nat) (saved : Bool)
  | authenticate (token : String)
  | revoke (handle : Nat) (saved : Bool)
  | rotate (administrator : String) (saved : Bool)
  | close (saved : Bool)
  | suspend
  | enable
  | release (handle : Nat)

namespace Host

/-- A data directory without a document, in front of the first `open`. -/
def init (now instant : Nat) : Host where
  now := wrapping now
  instant := instant
  file := none
  process := 0
  registry := none
  nextHandle := 0
  logins := []
  ticketGrants := []

section Step

variable (digest : TokenKind → String → Digest) (s : Host)

def attempt (operation : SessionState → Except LoginFailure Sessions) : Host :=
  match s.registry with
  | none => s
  | some state =>
    match operation state with
    | .error _ => s
    | .ok result => { s with file := result.file, registry := some result.state }

def attemptIssue (operation : SessionState → Except LoginFailure Sessions) : Host :=
  { s.attempt operation with nextHandle := s.nextHandle + 1 }

def update (operation : SessionState → SessionState) : Host :=
  { s with registry := s.registry.map operation }

def login (i : Nat) : Option Nat :=
  (s.logins[i]?).bind fun granted => if granted.1 = s.process then some granted.2 else none

def ticketGrant (i : Nat) : Option TicketGrant :=
  (s.ticketGrants[i]?).bind fun granted => if granted.1 = s.process then some granted.2 else none

def tryIssue (login : Nat) (clientId token : String) (saved : Bool) (state : SessionState) :
    Except LoginFailure Sessions :=
  match s.login login with
  | none => .error .unauthorized
  | some generation => Sessions.issue digest ⟨s.file, state⟩ saved s.now s.nextHandle generation clientId token

def tryIssueTicket (grant : Nat) (clientId token : String) (saved : Bool) (state : SessionState) :
    Except LoginFailure Sessions :=
  match s.ticketGrant grant with
  | none => .error .unauthorized
  | some grant => Sessions.issueTicket digest ⟨s.file, state⟩ saved s.now s.instant s.nextHandle grant clientId token

def step : HostAction → Host
  | .advance now instant => if s.now ≤ now ∧ now < 2 ^ 64 ∧ s.instant ≤ instant then { s with now := now, instant := instant } else s
  | .exit => { s with registry := none, process := s.process + 1 }
  | .open_ bootstrap fresh saved =>
    let opened := Sessions.open_ s.file bootstrap fresh saved s.now s.nextHandle
    { s with
      file := (opened.map (·.file)).getD s.file
      registry := opened.map (·.state)
      process := s.process + 1
      nextHandle := s.nextHandle + maxSessions }
  | .authorizeLogin administrator =>
    match s.registry with
    | none => s
    | some state =>
      let (state, result) := Sessions.authorizeLogin digest state s.instant administrator
      { s with registry := some state, logins := s.logins ++ (result.toOption.map fun generation => (s.process, generation)).toList }
  | .loginTicket token =>
    s.update fun state => ((Sessions.loginTicket digest state s.instant token).toOption).getD state
  | .authorizeTicket ticket =>
    match s.registry with
    | none => s
    | some state =>
      let (state, result) := Sessions.authorizeTicket digest state s.instant ticket
      { s with registry := some state, ticketGrants := s.ticketGrants ++ (result.toOption.map fun grant => (s.process, grant)).toList }
  | .issue login clientId token saved => s.attemptIssue (s.tryIssue digest login clientId token saved)
  | .issueTicket grant clientId token saved => s.attemptIssue (s.tryIssueTicket digest grant clientId token saved)
  | .fork parent clientId token saved =>
    s.attemptIssue fun state => Sessions.fork digest ⟨s.file, state⟩ saved s.now s.nextHandle parent clientId token
  | .renew handle saved => s.attempt fun state => Sessions.renew ⟨s.file, state⟩ saved s.now handle
  | .authenticate token => s.update fun state => Sessions.authenticate digest state s.now token
  | .revoke handle saved => s.attempt fun state => Sessions.revoke ⟨s.file, state⟩ saved handle
  | .rotate administrator saved => s.attempt fun state => Sessions.rotate ⟨s.file, state⟩ saved administrator
  | .close saved => s.attempt fun state => Sessions.close ⟨s.file, state⟩ saved
  | .suspend => s.update Sessions.suspend
  | .enable => s.update Sessions.enable
  | .release handle => s.update fun state => Sessions.release state handle

def run (actions : List HostAction) : Host :=
  actions.foldl (step digest) s

end Step

/-! ## What a run is asked about -/

def sessions (s : Host) : List Session :=
  (s.registry.map (·.sessions)).getD []

def stored (s : Host) : List StoredSession :=
  (s.file.map (·.sessions)).getD []

end Host

def HostAction.fresh : HostAction → List String
  | .open_ _ fresh _ => [fresh]
  | .loginTicket token | .issue _ _ token _ | .issueTicket _ _ token _ | .fork _ _ token _ => [token]
  | _ => []

/-! ## What a step does -/

namespace Host

/-- The arithmetic of the step stays in range: an expiry that is set is not zero, and the generation does not wrap. -/
def Room (s : Host) : HostAction → Prop
  | .issue .. | .issueTicket .. | .renew .. => wrapping (s.now + sessionLifetime) ≠ 0
  | .rotate .. | .close .. | .suspend => ∀ state, s.registry = some state → state.generation + 1 < 2 ^ 64
  | _ => True

/-- **What a step does**: time goes on, the registry is changed in memory, it is saved, the process ends, or it is opened. -/
inductive Effect (digest : TokenKind → String → Digest) (fresh : List String) (s s' : Host) : Prop
  | waited (hregistry : s'.registry = s.registry) (hfile : s'.file = s.file) (hprocess : s'.process = s.process)
      (hnow : s.now ≤ s'.now) (htime : s.now < 2 ^ 64 → s'.now < 2 ^ 64)
  | touched {state state' : SessionState} (hregistry : s.registry = some state) (hregistry' : s'.registry = some state')
      (htouches : Touches digest fresh s.now state state') (hfile : s'.file = s.file) (hprocess : s'.process = s.process)
      (hnow : s'.now = s.now)
  | saved {state : SessionState} {r : Sessions} (hregistry : s.registry = some state) (hregistry' : s'.registry = some r.state)
      (hsaves : Saves digest fresh s.now ⟨s.file, state⟩ r) (hfile : s'.file = r.file) (hprocess : s'.process = s.process)
      (hnow : s'.now = s.now)
  | stopped (hregistry' : s'.registry = none) (hfile : s'.file = s.file) (hprocess : s'.process = s.process + 1)
      (hnow : s'.now = s.now)
  | opened {r : Sessions} (hregistry' : s'.registry = some r.state) (hopens : Opens s.now s.file r) (hfile : s'.file = r.file)
      (hprocess : s'.process = s.process + 1) (hnow : s'.now = s.now)

variable {digest : TokenKind → String → Digest} {fresh : List String} {s s' : Host}

theorem effect_same (s' : Host) (hregistry : s'.registry = s.registry) (hfile : s'.file = s.file)
    (hprocess : s'.process = s.process) (hnow : s'.now = s.now) : Effect digest fresh s s' :=
  .waited hregistry hfile hprocess hnow.ge (fun h => hnow ▸ h)

theorem effect_attempt {operation : SessionState → Except LoginFailure Sessions}
    (h : ∀ state r, s.registry = some state → operation state = .ok r →
      r = ⟨s.file, state⟩ ∨ Saves digest fresh s.now ⟨s.file, state⟩ r) : Effect digest fresh s (s.attempt operation) := by
  cases hregistry : s.registry with
  | none =>
    simp only [attempt, hregistry]
    exact effect_same s rfl rfl rfl rfl
  | some state =>
    cases hresult : operation state with
    | error e =>
      simp only [attempt, hregistry, hresult]
      exact effect_same s rfl rfl rfl rfl
    | ok r =>
      simp only [attempt, hregistry, hresult]
      obtain rfl | hsaves := h state r hregistry hresult
      · exact effect_same _ hregistry.symm rfl rfl rfl
      · exact .saved hregistry rfl hsaves rfl rfl rfl

theorem effect_attemptIssue {operation : SessionState → Except LoginFailure Sessions}
    (h : ∀ state r, s.registry = some state → operation state = .ok r → Saves digest fresh s.now ⟨s.file, state⟩ r) :
    Effect digest fresh s (s.attemptIssue operation) := by
  have hattempt : Effect digest fresh s (s.attempt operation) :=
    effect_attempt fun state r hregistry hr => .inr (h state r hregistry hr)
  cases hattempt with
  | waited h1 h2 h3 h4 h5 => exact .waited h1 h2 h3 h4 h5
  | touched h1 h2 h3 h4 h5 h6 => exact .touched h1 h2 h3 h4 h5 h6
  | saved h1 h2 h3 h4 h5 h6 => exact .saved h1 h2 h3 h4 h5 h6
  | stopped h1 h2 h3 h4 => exact .stopped h1 h2 h3 h4
  | opened h1 h2 h3 h4 h5 => exact .opened h1 h2 h3 h4 h5

theorem effect_update {operation : SessionState → SessionState}
    (h : ∀ state, s.registry = some state → Touches digest fresh s.now state (operation state)) :
    Effect digest fresh s (s.update operation) := by
  cases hregistry : s.registry with
  | none => exact effect_same _ (by simp [update, hregistry]) rfl rfl rfl
  | some state => exact .touched hregistry (by simp [update, hregistry]) (h state hregistry) rfl rfl rfl

theorem step_effect (a : HostAction) (hroom : Room s a) : Effect digest a.fresh s (step digest s a) := by
  cases a with
  | advance now instant =>
    by_cases hlater : s.now ≤ now ∧ now < 2 ^ 64 ∧ s.instant ≤ instant
    · rw [step, if_pos hlater]
      exact .waited rfl rfl rfl hlater.1 fun _ => hlater.2.1
    · rw [step, if_neg hlater]
      exact effect_same s rfl rfl rfl rfl
  | exit => exact .stopped rfl rfl rfl rfl
  | open_ bootstrap token saved =>
    cases hopen : Sessions.open_ s.file bootstrap token saved s.now s.nextHandle with
    | none =>
      simp only [step, hopen]
      exact .stopped rfl rfl rfl rfl
    | some r =>
      simp only [step, hopen]
      exact .opened rfl (opens_open hopen) rfl rfl rfl
  | authorizeLogin administrator =>
    cases hregistry : s.registry with
    | none =>
      simp only [step, hregistry]
      exact effect_same s rfl rfl rfl rfl
    | some state =>
      simp only [step, hregistry]
      exact .touched hregistry rfl (touches_authorizeLogin state s.instant administrator).1 rfl rfl rfl
  | loginTicket token => exact effect_update fun state _ => touches_loginTicket state s.instant mem_cons_self
  | authorizeTicket ticket =>
    cases hregistry : s.registry with
    | none =>
      simp only [step, hregistry]
      exact effect_same s rfl rfl rfl rfl
    | some state =>
      simp only [step, hregistry]
      exact .touched hregistry rfl (touches_authorizeTicket state s.instant ticket).1 rfl rfl rfl
  | issue =>
    refine effect_attemptIssue fun state r _ hr => ?_
    rw [tryIssue] at hr
    split at hr
    · cases hr
    · exact saves_issue hroom mem_cons_self hr
  | issueTicket =>
    refine effect_attemptIssue fun state r _ hr => ?_
    rw [tryIssueTicket] at hr
    split at hr
    · cases hr
    · exact saves_issueTicket hroom mem_cons_self hr
  | fork => exact effect_attemptIssue fun state r _ hr => saves_fork mem_cons_self hr
  | renew => exact effect_attempt fun state r _ hr => saves_renew hroom hr
  | authenticate token => exact effect_update fun state _ => touches_authenticate state token
  | revoke => exact effect_attempt fun state r _ hr => .inr (saves_revoke hr)
  | rotate =>
    exact effect_attempt fun state r hregistry hr => .inr (saves_rotate (hroom state hregistry) hr)
  | close saved => exact effect_attempt fun state r hregistry hr => .inr (saves_close (hroom state hregistry) hr)
  | suspend => exact effect_update fun state hregistry => touches_suspend (hroom state hregistry)
  | enable => exact effect_update fun state _ => touches_enable state
  | release handle => exact effect_update fun state _ => touches_release state handle

/-! ## The registry and its document -/

structure Filed (stored : StoredAuth) : Prop where
  version : stored.version = 1
  administrator : validToken stored.administratorToken = true
  orderly : Orderly (stored.sessions.map StoredSession.grant)
  used : ∀ session ∈ stored.sessions, session.lastUsedAt < 2 ^ 64

/-- What a registry is beside its document: whatever the time from now on, both grant the same. -/
structure Registered (now : Nat) (file : Option StoredAuth) (state : SessionState) : Prop where
  administrator : validToken state.administratorPlaintext = true
  orderly : Orderly (grants state.sessions)
  used : ∀ session ∈ state.sessions, session.lastUsedAt < 2 ^ 64
  filed : ∃ stored, file = some stored ∧ stored.administratorToken = state.administratorPlaintext ∧
    ∀ t, now ≤ t → unexpired t (grants state.sessions) = unexpired t (stored.sessions.map StoredSession.grant)

structure Sound (s : Host) : Prop where
  time : s.now < 2 ^ 64
  file : ∀ stored, s.file = some stored → Filed stored
  registry : ∀ state, s.registry = some state → Registered s.now s.file state

theorem sound_init (now instant : Nat) : Sound (init now instant) where
  time := Nat.mod_lt _ (by decide)
  file := by simp [init]
  registry := by simp [init]

theorem used_lt {sessions sessions' : List Session} {now : Nat} (htime : now < 2 ^ 64)
    (hold : ∀ session ∈ sessions, session.lastUsedAt < 2 ^ 64)
    (h : ∀ session ∈ sessions', (∃ old ∈ sessions, old.lastUsedAt = session.lastUsedAt) ∨ session.lastUsedAt = now) :
    ∀ session ∈ sessions', session.lastUsedAt < 2 ^ 64 := by
  intro session hmem
  obtain ⟨old, hmem', heq⟩ | heq := h session hmem
  · exact heq ▸ hold old hmem'
  · exact heq ▸ htime

theorem grants_stored (sessions : List Session) :
    (sessions.map Session.stored).map StoredSession.grant = grants sessions := by
  rw [map_map]
  rfl

theorem unexpired_unexpired {t now : Nat} (h : now ≤ t) (l : List StoredSession) :
    unexpired t ((l.filter (fun entry => now < entry.expiresAt)).map StoredSession.grant) =
      unexpired t (l.map StoredSession.grant) := by
  induction l with
  | nil => rfl
  | cons entry l ih =>
    by_cases hleft : now < entry.expiresAt
    · rw [filter_cons_of_pos (by simpa using hleft), map_cons, map_cons, unexpired, unexpired, filter_cons,
        filter_cons, ← unexpired, ← unexpired, ih]
    · have hgone : ¬ t < (StoredSession.grant entry).2.2 := by
        show ¬ t < entry.expiresAt
        omega
      rw [filter_cons_of_neg (by simpa using hleft), map_cons, ih, unexpired, unexpired,
        filter_cons_of_neg (by simpa using hgone)]

theorem Effect.sound (h : Effect digest fresh s s') (hs : Sound s) : Sound s' := by
  cases h with
  | waited hregistry hfile hprocess hnow htime =>
    refine ⟨htime hs.time, fun stored hstored => hs.file stored (hfile ▸ hstored), fun state hstate => ?_⟩
    have hold := hs.registry state (hregistry ▸ hstate)
    obtain ⟨stored, hstored, hsame, hgrants⟩ := hold.filed
    rw [hfile]
    exact { hold with filed := ⟨stored, hstored, hsame, fun t ht => hgrants t (hnow.trans ht)⟩ }
  | @touched state state' hregistry hregistry' htouches hfile hprocess hnow =>
    have hold := hs.registry state hregistry
    refine ⟨hnow ▸ hs.time, fun stored hstored => hs.file stored (hfile ▸ hstored), fun state'' hstate => ?_⟩
    rw [hregistry', Option.some.injEq] at hstate
    subst hstate
    rw [hfile, hnow]
    exact {
      administrator := htouches.administrator ▸ hold.administrator
      orderly := htouches.grants ▸ hold.orderly
      used := used_lt hs.time hold.used htouches.used
      filed := by
        rw [htouches.administrator, htouches.grants]
        exact hold.filed }
  | @saved state r hregistry hregistry' hsaves hfile hprocess hnow =>
    have hold := hs.registry state hregistry
    have hadministrator := hsaves.administrator hold.administrator
    have horderly := hsaves.orderly hold.orderly
    have hused := used_lt hs.time hold.used hsaves.used
    have hgrants : (document r.state.administratorPlaintext r.state.sessions).sessions.map StoredSession.grant =
        grants r.state.sessions := grants_stored _
    refine ⟨hnow ▸ hs.time, fun stored hstored => ?_, fun state' hstate => ?_⟩
    · rw [hfile, hsaves.file, Option.some.injEq] at hstored
      subst hstored
      refine ⟨rfl, hadministrator, hgrants ▸ horderly, fun entry hentry => ?_⟩
      obtain ⟨session, hsession, rfl⟩ := mem_map.1 hentry
      exact hused session hsession
    · rw [hregistry', Option.some.injEq] at hstate
      subst hstate
      exact ⟨hadministrator, horderly, hused, _, hfile.trans hsaves.file, rfl, fun t _ => by rw [hgrants]⟩
  | stopped hregistry' hfile hprocess hnow =>
    refine ⟨hnow ▸ hs.time, fun stored hstored => hs.file stored (hfile ▸ hstored), fun state hstate => ?_⟩
    rw [hregistry'] at hstate
    cases hstate
  | @opened r hregistry' hopens hfile hprocess hnow =>
    obtain ⟨stored, hstored, hsame, htoken, hsessions⟩ | ⟨hnone, hfresh, hempty⟩ := hopens.source
    · have hfiled := hs.file stored hstored
      have hgrants : grants r.state.sessions =
          (stored.sessions.filter (fun entry => s.now < entry.expiresAt)).map StoredSession.grant := by
        rw [← grants_stored, hsessions]
      refine ⟨hnow ▸ hs.time, fun other hother => hs.file other (hsame ▸ hfile ▸ hother), fun state hstate => ?_⟩
      rw [hregistry', Option.some.injEq] at hstate
      subst hstate
      refine ⟨hopens.administrator, ?_, ?_, stored, hfile.trans (hsame.trans hstored), htoken.symm, fun t ht => ?_⟩
      · rw [hgrants]
        exact hfiled.orderly.sublist (filter_sublist.map _)
      · intro session hmem
        have hentry : session.stored ∈ r.state.sessions.map Session.stored := mem_map_of_mem hmem
        rw [hsessions] at hentry
        exact hfiled.used _ (mem_filter.1 hentry).1
      · rw [hgrants]
        exact unexpired_unexpired (hnow ▸ ht) _
    · refine ⟨hnow ▸ hs.time, fun stored hstored => ?_, fun state hstate => ?_⟩
      · rw [hfile, hfresh, Option.some.injEq] at hstored
        subst hstored
        exact ⟨rfl, hopens.administrator, .nil, by simp [document]⟩
      · rw [hregistry', Option.some.injEq] at hstate
        subst hstate
        have hgrants : grants r.state.sessions = [] := by rw [hempty]; rfl
        refine ⟨hopens.administrator, by rw [hgrants]; exact .nil, by simp [hempty], _, hfile.trans hfresh, rfl, fun t _ => ?_⟩
        rw [hgrants]
        rfl

/-! ## Digests, generations and tickets over a run -/

def Known (s : Host) (d : Digest) : Prop :=
  (∃ session ∈ s.sessions, session.digest = d) ∨ ∃ entry ∈ s.stored, entry.digest = d

def TicketOf (s : Host) (d : Digest) : Prop :=
  ∃ state ticket, s.registry = some state ∧ state.ticket = some ticket ∧ ticket.digest = d

/-- A generation that this process has left behind, or that is of an earlier one. -/
def Stale (s : Host) (granted : Nat × Nat) : Prop :=
  granted.1 < s.process ∨ (granted.1 = s.process ∧ ∀ state, s.registry = some state → granted.2 < state.generation)

def Granted (s : Host) (granted : Nat × Nat) : Prop :=
  granted.1 < s.process ∨ (granted.1 = s.process ∧ ∀ state, s.registry = some state → granted.2 ≤ state.generation)

theorem sessions_of_registry {state : SessionState} (h : s.registry = some state) : s.sessions = state.sessions := by
  simp [Host.sessions, h]

theorem stored_of_file {stored : StoredAuth} (h : s.file = some stored) : s.stored = stored.sessions := by
  simp [Host.stored, h]

variable {d : Digest}

theorem known_saved {r : Sessions} (hregistry : s'.registry = some r.state) (hfile : s'.file = r.file)
    (hsaved : r.file = some (document r.state.administratorPlaintext r.state.sessions)) (h : Known s' d) :
    ∃ session ∈ r.state.sessions, session.digest = d := by
  obtain ⟨session, hmem, hd⟩ | ⟨entry, hmem, hd⟩ := h
  · rw [sessions_of_registry hregistry] at hmem
    exact ⟨session, hmem, hd⟩
  · rw [stored_of_file (hfile.trans hsaved)] at hmem
    obtain ⟨session, hsession, rfl⟩ := mem_map.1 hmem
    exact ⟨session, hsession, hd⟩

/-- **A digest comes up only with a fresh token.** -/
theorem Effect.known (h : Effect digest fresh s s') (hd : Known s' d) :
    Known s d ∨ ∃ token ∈ fresh, d = digest .session token := by
  cases h with
  | waited hregistry hfile =>
    rw [Known, Host.sessions, Host.stored, hregistry, hfile] at hd
    exact .inl hd
  | touched hregistry hregistry' htouches hfile =>
    refine .inl (hd.imp ?_ ?_)
    · rintro ⟨session, hmem, rfl⟩
      rw [sessions_of_registry hregistry'] at hmem
      have hdigest : session.digest ∈ (grants _).map (·.1) := map_digest_grants _ ▸ mem_map_of_mem hmem
      rw [htouches.grants, map_digest_grants] at hdigest
      rw [sessions_of_registry hregistry]
      exact mem_map.1 hdigest
    · rw [Host.stored, hfile]
      exact id
  | saved hregistry hregistry' hsaves hfile =>
    obtain ⟨session, hmem, rfl⟩ := known_saved hregistry' hfile hsaves.file hd
    refine (hsaves.digests session hmem).imp_left fun hold => .inl ?_
    rw [sessions_of_registry hregistry]
    exact hold
  | stopped hregistry' hfile =>
    obtain ⟨session, hmem, -⟩ | hstored := hd
    · simp [Host.sessions, hregistry'] at hmem
    rw [Host.stored, hfile] at hstored
    exact .inl (.inr hstored)
  | opened hregistry' hopens hfile =>
    obtain ⟨stored, hstored, hsame, htoken, hsessions⟩ | ⟨hnone, hfresh, hempty⟩ := hopens.source
    · have hknown : ∀ entry ∈ stored.sessions, Known s entry.digest := fun entry hmem =>
        .inr ⟨entry, by rwa [stored_of_file hstored], rfl⟩
      obtain ⟨session, hmem, rfl⟩ | ⟨entry, hmem, rfl⟩ := hd
      · rw [sessions_of_registry hregistry'] at hmem
        have hentry : session.stored ∈ _ := mem_map_of_mem hmem
        rw [hsessions] at hentry
        exact .inl (hknown _ (mem_filter.1 hentry).1)
      · rw [stored_of_file (hfile.trans (hsame.trans hstored))] at hmem
        exact .inl (hknown _ hmem)
    · obtain ⟨session, hmem, -⟩ | ⟨entry, hmem, -⟩ := hd
      · rw [sessions_of_registry hregistry', hempty] at hmem
        cases hmem
      · rw [stored_of_file (hfile.trans hfresh)] at hmem
        cases hmem

/-- **A ticket comes up only with a fresh token.** -/
theorem Effect.ticketOf (h : Effect digest fresh s s') (hd : TicketOf s' d) :
    TicketOf s d ∨ ∃ token ∈ fresh, d = digest .loginTicket token := by
  obtain ⟨state', ticket, hstate, hticket, rfl⟩ := hd
  cases h with
  | waited hregistry => exact .inl ⟨state', ticket, hregistry ▸ hstate, hticket, rfl⟩
  | touched hregistry hregistry' htouches =>
    rw [hregistry', Option.some.injEq] at hstate
    subst hstate
    exact (htouches.ticket ticket hticket).imp_left fun hold => ⟨_, ticket, hregistry, hold, rfl⟩
  | saved hregistry hregistry' hsaves =>
    rw [hregistry', Option.some.injEq] at hstate
    subst hstate
    obtain hsame | hnone := hsaves.ticket
    · exact .inl ⟨_, ticket, hregistry, hsame.symm.trans hticket, rfl⟩
    rw [hnone] at hticket
    cases hticket
  | stopped hregistry' =>
    rw [hregistry'] at hstate
    cases hstate
  | opened hregistry' hopens =>
    rw [hregistry', Option.some.injEq] at hstate
    subst hstate
    rw [hopens.ticket] at hticket
    cases hticket

theorem Effect.generation (h : Effect digest fresh s s') {P : Nat → Prop} (hmono : ∀ {m n}, m ≤ n → P m → P n) {p : Nat}
    (hp : p < s.process ∨ (p = s.process ∧ ∀ state, s.registry = some state → P state.generation)) :
    p < s'.process ∨ (p = s'.process ∧ ∀ state, s'.registry = some state → P state.generation) := by
  have hrestarted : s'.process = s.process + 1 → p < s'.process := fun hprocess => by
    obtain hless | ⟨rfl, -⟩ := hp
    · omega
    · omega
  have hsame : s'.process = s.process → (∀ state', s'.registry = some state' →
      ∃ state, s.registry = some state ∧ state.generation ≤ state'.generation) →
      p < s'.process ∨ (p = s'.process ∧ ∀ state, s'.registry = some state → P state.generation) := by
    intro hprocess hstep
    rw [hprocess]
    refine hp.imp_right fun ⟨heq, hP⟩ => ⟨heq, fun state' hstate' => ?_⟩
    obtain ⟨state, hstate, hle⟩ := hstep state' hstate'
    exact hmono hle (hP state hstate)
  cases h with
  | waited hregistry hfile hprocess =>
    exact hsame hprocess fun state' hstate' => ⟨state', hregistry ▸ hstate', Nat.le_refl _⟩
  | touched hregistry hregistry' htouches hfile hprocess =>
    refine hsame hprocess fun state' hstate' => ⟨_, hregistry, ?_⟩
    rw [hregistry', Option.some.injEq] at hstate'
    exact hstate' ▸ htouches.generation
  | saved hregistry hregistry' hsaves hfile hprocess =>
    refine hsame hprocess fun state' hstate' => ⟨_, hregistry, ?_⟩
    rw [hregistry', Option.some.injEq] at hstate'
    exact hstate' ▸ hsaves.generation
  | stopped hregistry' hfile hprocess => exact .inl (hrestarted hprocess)
  | opened hregistry' hopens hfile hprocess => exact .inl (hrestarted hprocess)

theorem Effect.stale (h : Effect digest fresh s s') {granted : Nat × Nat} (hs : Stale s granted) : Stale s' granted :=
  h.generation (fun hle hlt => Nat.lt_of_lt_of_le hlt hle) hs

theorem Effect.granted (h : Effect digest fresh s s') {granted : Nat × Nat} (hs : Granted s granted) : Granted s' granted :=
  h.generation (fun hle hlt => Nat.le_trans hlt hle) hs

end Host
end Rovai.Web
