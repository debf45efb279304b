import RovaiCore.WebAuth
/-!
# What an operation on the registry does

An operation that succeeds saves the sessions it leaves (`Saves`), or changes of a session only its last use, its revocation and
its holders (`Touches`).
-/
namespace Rovai.Web

open Sessions
open List

variable (sessions : List Session)

def grants : List (Digest × String × Nat) :=
  sessions.map Session.grant

theorem map_digest_grants : (grants sessions).map (·.1) = sessions.map (·.digest) := by
  rw [grants, map_map]
  rfl

theorem map_clientId_grants : (grants sessions).map (·.2.1) = sessions.map (·.clientId) := by
  rw [grants, map_map]
  rfl

structure Saves (digest : TokenKind → String → Digest) (fresh : List String) (now : Nat) (s r : Sessions) : Prop where
  file : r.file = some (document r.state.administratorPlaintext r.state.sessions)
  administrator : validToken s.state.administratorPlaintext = true → validToken r.state.administratorPlaintext = true
  digests : ∀ session ∈ r.state.sessions, (∃ old ∈ s.state.sessions, old.digest = session.digest) ∨
    ∃ token ∈ fresh, session.digest = digest .session token
  used : ∀ session ∈ r.state.sessions, (∃ old ∈ s.state.sessions, old.lastUsedAt = session.lastUsedAt) ∨
    session.lastUsedAt = now
  orderly : Orderly (grants s.state.sessions) → Orderly (grants r.state.sessions)
  generation : s.state.generation ≤ r.state.generation
  ticket : r.state.ticket = s.state.ticket ∨ r.state.ticket = none

structure Touches (digest : TokenKind → String → Digest) (fresh : List String) (now : Nat) (state state' : SessionState) : Prop where
  grants : grants state'.sessions = grants state.sessions
  administrator : state'.administratorPlaintext = state.administratorPlaintext
  used : ∀ session ∈ state'.sessions, (∃ old ∈ state.sessions, old.lastUsedAt = session.lastUsedAt) ∨
    session.lastUsedAt = now
  generation : state.generation ≤ state'.generation
  ticket : ∀ ticket, state'.ticket = some ticket → state.ticket = some ticket ∨
    ∃ token ∈ fresh, ticket.digest = digest .loginTicket token

variable {digest : TokenKind → String → Digest} {fresh : List String} {now : Nat} {saved : Bool} {s r : Sessions}

/-! ## Saving -/

variable {sessions : List Session}

theorem replace_eq_ok {token : String} (h : s.replace saved token sessions = .ok r) :
    saved = true ∧ r = { file := some (document token sessions),
                         state := { s.state with sessions := sessions, administratorPlaintext := token } } := by
  cases saved with
  | false => cases h
  | true =>
    cases h
    exact ⟨rfl, rfl⟩

theorem saves_sublist {token : String} (hsub : sessions.Sublist s.state.sessions)
    (htoken : validToken s.state.administratorPlaintext = true → validToken token = true)
    (h : s.replace saved token sessions = .ok r) : Saves digest fresh now s r := by
  obtain ⟨-, rfl⟩ := replace_eq_ok h
  exact {
    file := rfl
    administrator := htoken
    digests := fun session hmem => .inl ⟨session, hsub.subset hmem, rfl⟩
    used := fun session hmem => .inl ⟨session, hsub.subset hmem, rfl⟩
    orderly := fun ho => ho.sublist (hsub.map _)
    generation := Nat.le_refl _
    ticket := .inl rfl }

variable {handle : Nat}

theorem saves_revoke (h : s.revoke saved handle = .ok r) : Saves digest fresh now s r :=
  saves_sublist filter_sublist id h

theorem saves_rotate {administrator : String} (hroom : s.state.generation + 1 < 2 ^ 64)
    (h : s.rotate saved administrator = .ok r) : Saves digest fresh now s r := by
  cases hvalid : validToken administrator with
  | false => simp [Sessions.rotate, hvalid] at h
  | true =>
    simp only [Sessions.rotate, hvalid, Bool.not_true, Bool.false_eq_true, if_false] at h
    cases hreplace : s.replace saved administrator [] with
    | error e => simp [hreplace, Except.map] at h
    | ok mid =>
      have hsaves : Saves digest fresh now s mid := saves_sublist (nil_sublist _) (fun _ => hvalid) hreplace
      obtain ⟨-, rfl⟩ := replace_eq_ok hreplace
      rw [hreplace] at h
      cases h
      refine { hsaves with generation := ?_, ticket := .inr rfl }
      exact Nat.le_of_lt (by simp only [wrapping, Nat.mod_eq_of_lt hroom]; omega)

theorem rotate_ok (s : Sessions) {administrator : String} (hvalid : validToken administrator = true) :
    s.rotate true administrator = .ok {
      file := some (document administrator [])
      state := { s.state with
        sessions := [], administratorPlaintext := administrator, generation := wrapping (s.state.generation + 1),
        attempts := [], ticket := none } } := by
  simp only [Sessions.rotate, hvalid, Bool.not_true, Bool.false_eq_true, if_false]
  rfl

theorem saves_close (hroom : s.state.generation + 1 < 2 ^ 64) (h : s.close saved = .ok r) : Saves digest fresh now s r := by
  cases hreplace : s.replace saved s.state.administratorPlaintext [] with
  | error e => simp [Sessions.close, hreplace, Except.map] at h
  | ok mid =>
    have hsaves : Saves digest fresh now s mid := saves_sublist (nil_sublist _) id hreplace
    obtain ⟨-, rfl⟩ := replace_eq_ok hreplace
    rw [Sessions.close, hreplace] at h
    cases h
    refine { hsaves with generation := ?_, ticket := .inr rfl }
    exact Nat.le_of_lt (by simp only [wrapping, Nat.mod_eq_of_lt hroom]; omega)

/-! ## Issuing -/

theorem oldest_mem {session : Session} (h : oldest sessions = some session) : session ∈ sessions := by
  have hfold : ∀ {f : Option Session → Session → Option Session}, (∀ best a, f best a = some a ∨ f best a = best) →
      ∀ (l : List Session) (best : Option Session), l.foldl f best = some session → session ∈ l ∨ best = some session := by
    intro f hf l
    induction l with
    | nil => exact fun best h => .inr h
    | cons a l ih =>
      intro best h
      obtain hmem | hbest := ih _ h
      · exact .inl (mem_cons_of_mem a hmem)
      obtain hnew | hold := hf best a
      · exact .inl (Option.some.inj (hbest.symm.trans hnew) ▸ mem_cons_self)
      · exact .inr (hold ▸ hbest)
  rw [oldest] at h
  obtain hmem | hnone := hfold (fun best a => by cases best <;> grind) sessions none h
  · exact hmem
  · cases hnone

/-- **Room is made**: what stays was there, none of it is of the client, and one more has its place. -/
theorem makeRoom_eq_ok {clientId : String} {sessions next : List Session} (h : makeRoom now clientId sessions = .ok next) :
    next.Sublist sessions ∧ (∀ session ∈ next, session.clientId ≠ clientId) ∧
      (sessions.length ≤ maxSessions → next.length < maxSessions) := by
  have hother : ∀ session ∈ sessions.filter (stays now clientId), session.clientId ≠ clientId := by
    intro session hmem
    have := (mem_filter.1 hmem).2
    simp only [stays, Bool.and_eq_true, bne_iff_ne] at this
    exact this.2
  rw [makeRoom] at h
  by_cases hfull : (sessions.filter (stays now clientId)).length ≥ maxSessions
  · rw [if_pos hfull] at h
    cases hidle : oldest ((sessions.filter (stays now clientId)).filter (fun session => session.holders = 0)) with
    | none =>
      rw [hidle] at h
      cases h
    | some idle =>
      simp only [hidle, Except.ok.injEq] at h
      subst h
      refine ⟨filter_sublist.trans filter_sublist, fun session hmem => hother session (mem_filter.1 hmem).1, ?_⟩
      intro hcapacity
      have hmem := (mem_filter.1 (oldest_mem hidle)).1
      have hless : ((sessions.filter (stays now clientId)).filter (fun session => session.digest ≠ idle.digest)).length <
          (sessions.filter (stays now clientId)).length := by
        refine lt_of_le_of_ne (length_filter_le _ _) fun heq => ?_
        have := length_filter_eq_length_iff.1 heq idle hmem
        simp at this
      exact hless.trans_le ((length_filter_le _ _).trans hcapacity)
  · rw [if_neg hfull, Except.ok.injEq] at h
    subst h
    exact ⟨filter_sublist, hother, fun _ => by omega⟩

variable {clientId token : String} {nextHandle : Nat} {expiry : Nat}

theorem insert_eq_ok
    (h : s.insert digest saved now nextHandle clientId token expiry = .ok r) :
    ∃ next session, makeRoom now clientId s.state.sessions = .ok next ∧ session.digest = digest .session token ∧
      session.clientId = clientId ∧ session.expiresAt = expiry ∧ session.lastUsedAt = now ∧ saved = true ∧
      r = { file := some (document s.state.administratorPlaintext
              (next.filter (fun other => other.digest ≠ session.digest) ++ [session]))
            state := { s.state with
              sessions := next.filter (fun other => other.digest ≠ session.digest) ++ [session] } } := by
  cases hroom : makeRoom now clientId s.state.sessions with
  | error e =>
    rw [Sessions.insert, hroom] at h
    cases h
  | ok next =>
    rw [Sessions.insert, hroom] at h
    obtain ⟨hsaved, rfl⟩ := replace_eq_ok h
    exact ⟨next, _, rfl, rfl, rfl, rfl, rfl, hsaved, rfl⟩

theorem insert_file
    (h : s.insert digest saved now nextHandle clientId token expiry = .ok r) :
    r.file = some (document r.state.administratorPlaintext r.state.sessions) := by
  obtain ⟨next, session, -, -, -, -, -, -, rfl⟩ := insert_eq_ok h
  rfl

theorem saves_insert (hclient : validToken clientId = true)
    (hexpiry : Orderly (grants s.state.sessions) → expiry > 0 ∧ expiry < 2 ^ 64) (htoken : token ∈ fresh)
    (h : s.insert digest saved now nextHandle clientId token expiry = .ok r) : Saves digest fresh now s r := by
  obtain ⟨next, session, hroom, hdigest, rfl, rfl, hused, -, rfl⟩ := insert_eq_ok h
  obtain ⟨hsub, hother, hless⟩ := makeRoom_eq_ok hroom
  have hsub' : (next.filter (fun other => other.digest ≠ session.digest)).Sublist s.state.sessions :=
    filter_sublist.trans hsub
  refine { file := rfl, administrator := id, digests := ?_, used := ?_, orderly := ?_, generation := Nat.le_refl _,
           ticket := .inl rfl }
  · intro other hmem
    obtain hold | rfl := mem_append.1 hmem |>.imp_right mem_singleton.1
    · exact .inl ⟨other, hsub'.subset hold, rfl⟩
    · exact .inr ⟨token, htoken, hdigest⟩
  · intro other hmem
    obtain hold | rfl := mem_append.1 hmem |>.imp_right mem_singleton.1
    · exact .inl ⟨other, hsub'.subset hold, rfl⟩
    · exact .inr hused
  · intro ho
    rw [grants, map_append, map_singleton]
    refine (ho.sublist (hsub'.map _)).concat ?_ ⟨hclient, hexpiry ho⟩ ?_ ?_
    · rw [length_map]
      exact (length_filter_le _ _).trans_lt (hless (by simpa [grants] using ho.capacity))
    · intro grant hmem
      obtain ⟨other, hother', rfl⟩ := mem_map.1 hmem
      exact of_decide_eq_true (mem_filter.1 hother').2
    · intro grant hmem
      obtain ⟨other, hother', rfl⟩ := mem_map.1 hmem
      exact hother other (mem_filter.1 hother').1

theorem wrapping_pos {n : Nat} (h : wrapping n ≠ 0) : wrapping n > 0 ∧ wrapping n < 2 ^ 64 :=
  ⟨Nat.pos_of_ne_zero h, Nat.mod_lt _ (by decide)⟩

theorem issue_eq_ok {nextHandle generation : Nat}
    (h : s.issue digest saved now nextHandle generation clientId token = .ok r) :
    s.state.enabled = true ∧ s.state.generation = generation ∧ validToken clientId = true ∧
      s.insert digest saved now nextHandle clientId token (wrapping (now + sessionLifetime)) = .ok r := by
  by_cases hrefused : (!s.state.enabled || decide (s.state.generation ≠ generation) || !validToken clientId) = true
  · simp only [Sessions.issue, hrefused, if_true] at h
    cases h
  · simp only [Sessions.issue, hrefused, if_false, Bool.false_eq_true] at h
    simp only [Bool.or_eq_true, Bool.not_eq_true', decide_eq_true_eq, not_or, not_not, Bool.not_eq_false] at hrefused
    exact ⟨hrefused.1.1, hrefused.1.2, hrefused.2, h⟩

theorem saves_issue {nextHandle generation : Nat} (hlasts : wrapping (now + sessionLifetime) ≠ 0)
    (htoken : token ∈ fresh) (h : s.issue digest saved now nextHandle generation clientId token = .ok r) :
    Saves digest fresh now s r := by
  obtain ⟨-, -, hclient, hinsert⟩ := issue_eq_ok h
  exact saves_insert hclient (fun _ => wrapping_pos hlasts) htoken hinsert

theorem issueTicket_eq_ok {instant nextHandle : Nat} {grant : TicketGrant}
    (h : s.issueTicket digest saved now instant nextHandle grant clientId token = .ok r) :
    holdsTicket s.state instant grant.digest = true ∧
      ∃ mid, s.issue digest saved now nextHandle grant.generation clientId token = .ok mid ∧
        r = { mid with state := { mid.state with ticket := none } } := by
  cases hholds : holdsTicket s.state instant grant.digest with
  | false => simp [Sessions.issueTicket, hholds] at h
  | true =>
    simp only [Sessions.issueTicket, hholds, Bool.not_true, Bool.false_eq_true, if_false] at h
    cases hissue : s.issue digest saved now nextHandle grant.generation clientId token with
    | error e => simp [hissue, Except.map] at h
    | ok mid =>
      rw [hissue] at h
      cases h
      exact ⟨rfl, mid, rfl, rfl⟩

theorem saves_issueTicket {instant nextHandle : Nat} {grant : TicketGrant}
    (hlasts : wrapping (now + sessionLifetime) ≠ 0) (htoken : token ∈ fresh)
    (h : s.issueTicket digest saved now instant nextHandle grant clientId token = .ok r) : Saves digest fresh now s r := by
  obtain ⟨-, mid, hissue, rfl⟩ := issueTicket_eq_ok h
  have hsaves : Saves digest fresh now s mid := saves_issue hlasts htoken hissue
  exact { hsaves with ticket := .inr rfl }

/-! ## Forking and renewing -/

variable {state : SessionState}

theorem heldLive_eq_some {session : Session}
    (h : heldLive state now handle = some session) : session ∈ state.sessions ∧ live state now session = true := by
  obtain ⟨hfind, hlive⟩ := Option.filter_eq_some_iff.1 h
  simp only [Bool.and_eq_true] at hlive
  exact ⟨mem_of_find?_eq_some hfind, hlive.1⟩

theorem fork_eq_ok {nextHandle parent : Nat}
    (h : Sessions.fork digest s saved now nextHandle parent clientId token = .ok r) :
    ∃ session, heldLive s.state now parent = some session ∧ validToken clientId = true ∧ clientId ≠ session.clientId ∧
      s.insert digest saved now nextHandle clientId token session.expiresAt = .ok r := by
  cases hparent : heldLive s.state now parent with
  | none => simp [Sessions.fork, hparent] at h
  | some session =>
    by_cases hrefused : (!validToken clientId || decide (clientId = session.clientId)) = true
    · simp only [Sessions.fork, hparent, hrefused, if_true] at h
      cases h
    · simp only [Sessions.fork, hparent, hrefused, if_false, Bool.false_eq_true] at h
      simp only [Bool.or_eq_true, Bool.not_eq_true', decide_eq_true_eq, not_or, Bool.not_eq_false] at hrefused
      exact ⟨session, rfl, hrefused.1, hrefused.2, h⟩

theorem saves_fork {nextHandle parent : Nat} (htoken : token ∈ fresh)
    (h : Sessions.fork digest s saved now nextHandle parent clientId token = .ok r) : Saves digest fresh now s r := by
  obtain ⟨session, hparent, hclient, -, hinsert⟩ := fork_eq_ok h
  exact saves_insert hclient (fun ho => (ho.valid _ (mem_map_of_mem (heldLive_eq_some hparent).1)).2) htoken hinsert

theorem renew_eq_ok (h : s.renew saved now handle = .ok r) : r = s ∨
    s.replace saved s.state.administratorPlaintext
      (onHandle handle (fun session => { session with expiresAt := wrapping (now + sessionLifetime) }) s.state.sessions) =
      .ok r := by
  cases hlive : heldLive s.state now handle with
  | none => simp [Sessions.renew, hlive] at h
  | some session =>
    by_cases hwindow : session.expiresAt - now ≤ renewalWindow
    · simp only [Sessions.renew, hlive, if_pos hwindow] at h
      exact .inr h
    · simp only [Sessions.renew, hlive, if_neg hwindow, Except.ok.injEq] at h
      exact .inl h.symm

theorem saves_renew (hlasts : wrapping (now + sessionLifetime) ≠ 0) (h : s.renew saved now handle = .ok r) :
    r = s ∨ Saves digest fresh now s r := by
  obtain rfl | h := renew_eq_ok h
  · exact .inl rfl
  refine .inr ?_
  obtain ⟨-, rfl⟩ := replace_eq_ok h
  have horigin : ∀ session ∈ onHandle handle (fun session => { session with expiresAt := wrapping (now + sessionLifetime) })
      s.state.sessions, ∃ old ∈ s.state.sessions, old.digest = session.digest ∧ old.clientId = session.clientId ∧
        old.lastUsedAt = session.lastUsedAt ∧ (session.expiresAt = old.expiresAt ∨
          session.expiresAt = wrapping (now + sessionLifetime)) := by
    intro session hmem
    obtain ⟨old, hold, rfl⟩ := mem_map.1 hmem
    refine ⟨old, hold, ?_⟩
    by_cases hhandle : old.handle = handle
    · rw [if_pos hhandle]
      exact ⟨rfl, rfl, rfl, .inr rfl⟩
    · rw [if_neg hhandle]
      exact ⟨rfl, rfl, rfl, .inl rfl⟩
  have hmap : ∀ {β : Type} (g : Session → β), (∀ session, g { session with expiresAt := wrapping (now + sessionLifetime) } =
      g session) → (onHandle handle (fun session => { session with expiresAt := wrapping (now + sessionLifetime) })
      s.state.sessions).map g = s.state.sessions.map g := by
    intro β g hg
    rw [onHandle, map_map]
    refine map_congr_left fun session _ => ?_
    by_cases hhandle : session.handle = handle
    · rw [Function.comp_apply, if_pos hhandle, hg]
    · rw [Function.comp_apply, if_neg hhandle]
  refine { file := rfl, administrator := id, digests := ?_, used := ?_, orderly := ?_, generation := Nat.le_refl _,
           ticket := .inl rfl }
  · intro session hmem
    obtain ⟨old, hold, hdigest, -⟩ := horigin session hmem
    exact .inl ⟨old, hold, hdigest⟩
  · intro session hmem
    obtain ⟨old, hold, -, -, hused, -⟩ := horigin session hmem
    exact .inl ⟨old, hold, hused⟩
  · intro ho
    refine ⟨?_, ?_, ?_, ?_⟩
    · simpa [grants, onHandle] using ho.capacity
    · intro grant hmem
      obtain ⟨session, hsession, rfl⟩ := mem_map.1 hmem
      obtain ⟨old, hold, -, hclient, -, hexpiry⟩ := horigin session hsession
      have hvalid := ho.valid _ (mem_map_of_mem hold)
      have hsameClient : session.grant.2.1 = old.grant.2.1 := hclient.symm
      refine ⟨hsameClient ▸ hvalid.1, ?_⟩
      obtain hsame | hnew := hexpiry
      · exact (show session.grant.2.2 = old.grant.2.2 from hsame) ▸ hvalid.2
      · exact (show session.grant.2.2 = wrapping (now + sessionLifetime) from hnew) ▸ wrapping_pos hlasts
    · rw [map_digest_grants, hmap (·.digest) fun _ => rfl, ← map_digest_grants]
      exact ho.digests
    · rw [map_clientId_grants, hmap (·.clientId) fun _ => rfl, ← map_clientId_grants]
      exact ho.editors

/-! ## In memory -/

theorem Touches.refl (state : SessionState) : Touches digest fresh now state state where
  grants := rfl
  administrator := rfl
  used := fun session hmem => .inl ⟨session, hmem, rfl⟩
  generation := Nat.le_refl _
  ticket := fun _ h => .inl h

theorem touches_map {f : Session → Session} (hf : ∀ session, (f session).grant = session.grant)
    (hused : ∀ session ∈ state.sessions, (f session).lastUsedAt = session.lastUsedAt ∨ (f session).lastUsedAt = now) :
    Touches digest fresh now state { state with sessions := state.sessions.map f } where
  grants := by
    rw [grants, grants, map_map]
    exact map_congr_left fun session _ => hf session
  administrator := rfl
  used := by
    intro session hmem
    obtain ⟨old, hold, rfl⟩ := mem_map.1 hmem
    exact (hused old hold).imp_left fun h => ⟨old, hold, h.symm⟩
  generation := Nat.le_refl _
  ticket := fun _ h => .inl h

theorem touches_admitLogin (state : SessionState) (instant : Nat) :
    Touches digest fresh now state (admitLogin state instant).1 ∧
      (admitLogin state instant).1.generation = state.generation ∧ (admitLogin state instant).1.ticket = state.ticket := by
  have hattempts : ∀ attempts, Touches digest fresh now state { state with attempts := attempts } := fun attempts =>
    { Touches.refl state with }
  rw [admitLogin]
  split
  · exact ⟨.refl state, rfl, rfl⟩
  dsimp only
  split
  · exact ⟨hattempts _, rfl, rfl⟩
  · exact ⟨hattempts _, rfl, rfl⟩

theorem touches_authorizeLogin (state : SessionState) (instant : Nat) (administrator : String) :
    Touches digest fresh now state (Sessions.authorizeLogin digest state instant administrator).1 ∧
      ∀ generation, (Sessions.authorizeLogin digest state instant administrator).2 = .ok generation →
        generation = state.generation := by
  obtain ⟨htouches, hgeneration, -⟩ := @touches_admitLogin digest fresh now state instant
  rw [Sessions.authorizeLogin]
  cases hlogin : admitLogin state instant with
  | mk state' result =>
    rw [hlogin] at htouches hgeneration
    cases result with
    | error e => exact ⟨htouches, by simp⟩
    | ok _ =>
      dsimp only
      split
      · exact ⟨htouches, by simp⟩
      refine ⟨htouches, fun generation h => ?_⟩
      cases h
      exact hgeneration

theorem touches_authorizeTicket (state : SessionState) (instant : Nat) (ticket : String) :
    Touches digest fresh now state (Sessions.authorizeTicket digest state instant ticket).1 ∧
      ∀ grant, (Sessions.authorizeTicket digest state instant ticket).2 = .ok grant → grant.generation = state.generation := by
  obtain ⟨htouches, hgeneration, -⟩ := @touches_admitLogin digest fresh now state instant
  rw [Sessions.authorizeTicket]
  cases hlogin : admitLogin state instant with
  | mk state' result =>
    rw [hlogin] at htouches hgeneration
    cases result with
    | error e => exact ⟨htouches, by simp⟩
    | ok _ =>
      dsimp only
      split
      · exact ⟨htouches, by simp⟩
      refine ⟨htouches, fun grant h => ?_⟩
      cases h
      exact hgeneration

theorem touches_loginTicket (state : SessionState) (instant : Nat) {token : String} (htoken : token ∈ fresh) :
    Touches digest fresh now state ((Sessions.loginTicket digest state instant token).toOption.getD state) := by
  cases henabled : state.enabled with
  | false =>
    rw [Sessions.loginTicket, henabled]
    exact .refl state
  | true =>
    rw [Sessions.loginTicket, if_pos henabled]
    have hsame : Touches digest fresh now state state := .refl state
    refine { hsame with ticket := fun ticket h => .inr ⟨token, htoken, ?_⟩ }
    cases h
    rfl

theorem touches_authenticate (state : SessionState) (token : String) :
    Touches digest fresh now state (Sessions.authenticate digest state now token) := by
  rw [Sessions.authenticate]
  cases authenticated digest state now token with
  | none => exact .refl state
  | some session =>
    refine touches_map (fun other => ?_) (fun other _ => ?_)
    · by_cases hhandle : other.handle = session.handle
      · rw [if_pos hhandle]
        rfl
      · rw [if_neg hhandle]
    · by_cases hhandle : other.handle = session.handle
      · rw [if_pos hhandle]
        exact .inr rfl
      · rw [if_neg hhandle]
        exact .inl rfl

theorem touches_release (state : SessionState) (handle : Nat) :
    Touches digest fresh now state (Sessions.release state handle) := by
  refine touches_map (fun other => ?_) (fun other _ => ?_)
  · by_cases hhandle : other.handle = handle
    · rw [if_pos hhandle]
      rfl
    · rw [if_neg hhandle]
  · by_cases hhandle : other.handle = handle
    · rw [if_pos hhandle]
      exact .inl rfl
    · rw [if_neg hhandle]
      exact .inl rfl

theorem touches_enable (state : SessionState) : Touches digest fresh now state (Sessions.enable state) := by
  have hmap : Touches digest fresh now state { state with sessions := state.sessions.map fun session => { session with revoked := false } } :=
    touches_map (fun _ => rfl) (fun _ _ => .inl rfl)
  exact { hmap with }

theorem touches_suspend (hroom : state.generation + 1 < 2 ^ 64) :
    Touches digest fresh now state (Sessions.suspend state) := by
  have hmap : Touches digest fresh now state { state with sessions := state.sessions.map fun session => { session with revoked := true } } :=
    touches_map (fun _ => rfl) (fun _ _ => .inl rfl)
  refine { hmap with generation := ?_, ticket := fun ticket h => ?_ }
  · simp only [Sessions.suspend, wrapping, Nat.mod_eq_of_lt hroom]
    omega
  · cases h

/-! ## Opening -/

structure Opens (now : Nat) (file : Option StoredAuth) (r : Sessions) : Prop where
  accepted : ∀ stored, file = some stored → stored.Accepted
  administrator : validToken r.state.administratorPlaintext = true
  ticket : r.state.ticket = none
  source : (∃ stored, file = some stored ∧ r.file = file ∧ r.state.administratorPlaintext = stored.administratorToken ∧
      r.state.sessions.map Session.stored = stored.sessions.filter (fun entry => now < entry.expiresAt)) ∨
    (file = none ∧ r.file = some (document r.state.administratorPlaintext []) ∧ r.state.sessions = [])

theorem stored_reopened (nextHandle : Nat) (stored : List StoredSession) :
    (reopened nextHandle stored).map Session.stored = stored := by
  rw [reopened, map_map]
  exact zipIdx_map_fst 0 stored

theorem opens_open {file : Option StoredAuth} {bootstrap : Option String} {token : String}
    (h : open_ file bootstrap token saved now nextHandle = some r) : Opens now file r := by
  cases file with
  | none =>
    simp only [open_, readStore] at h
    split at h
    · cases h
    obtain ⟨state, hnew, h⟩ := Option.bind_eq_some_iff.1 h
    split at h
    · cases h
      rw [Sessions.new] at hnew
      split at hnew
      · rename_i hvalid
        cases hnew
        exact ⟨by simp, hvalid, rfl, .inr ⟨rfl, rfl, rfl⟩⟩
      · cases hnew
    · cases h
  | some stored =>
    by_cases haccepted : stored.Accepted
    · simp only [open_, readStore, if_pos haccepted] at h
      split at h
      · cases h
      obtain ⟨state, hnew, h⟩ := Option.bind_eq_some_iff.1 h
      cases h
      rw [Sessions.new] at hnew
      split at hnew
      · rename_i hvalid
        cases hnew
        refine ⟨?_, hvalid, rfl, .inl ⟨stored, rfl, rfl, rfl, stored_reopened nextHandle _⟩⟩
        intro other hother
        cases hother
        exact haccepted
      · cases hnew
    · simp [open_, readStore, haccepted] at h

end Rovai.Web
