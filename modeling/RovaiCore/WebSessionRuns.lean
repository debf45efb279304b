import RovaiCore.WebSessions
/-!
# Web sessions are not resurrected, over-issued or half-saved

What holds of every run from an empty data directory whose fresh tokens never repeat: a session that has ended stays ended, a
login or a ticket that was granted before a rotation, a close or a suspension issues nothing after it, a ticket issues once, and
the document is readable and grants what the registry grants.
-/
namespace Rovai.Web

open List
namespace Host

open Sessions Runs

variable {digest : TokenKind → String → Digest} {s : Host}

/-! ## What has been granted -/

theorem ok_of_toOption {α ε : Type} {x : Except ε α} {a : α} (h : x.toOption = some a) : x = .ok a := by
  cases x with
  | error e => cases h
  | ok b =>
    cases h
    rfl

theorem attempt_grants (operation : SessionState → Except LoginFailure Sessions) :
    (s.attempt operation).logins = s.logins ∧ (s.attempt operation).ticketGrants = s.ticketGrants := by
  rw [attempt]
  split
  · exact ⟨rfl, rfl⟩
  · split <;> exact ⟨rfl, rfl⟩

theorem advance_grants (now instant : Nat) : (step digest s (.advance now instant)).logins = s.logins ∧
    (step digest s (.advance now instant)).ticketGrants = s.ticketGrants := by
  by_cases hlater : s.now ≤ now ∧ now < 2 ^ 64 ∧ s.instant ≤ instant
  · rw [step, if_pos hlater]
    exact ⟨rfl, rfl⟩
  · rw [step, if_neg hlater]
    exact ⟨rfl, rfl⟩

variable {state : SessionState}

theorem granted_of_eq {s' : Host} {p generation : Nat} (hp : p = s'.process)
    (hregistry : s'.registry = some state) (hle : generation ≤ state.generation) : Granted s' (p, generation) := by
  refine .inr ⟨hp, fun state' hstate => ?_⟩
  rw [hregistry, Option.some.injEq] at hstate
  exact hstate ▸ hle

/-- **A step adds grants of its own process**, behind those that are there. -/
theorem step_grants (a : HostAction) :
    (∃ granted, (step digest s a).logins = s.logins ++ granted ∧ ∀ grant ∈ granted, Granted (step digest s a) grant) ∧
    ∃ granted, (step digest s a).ticketGrants = s.ticketGrants ++ granted ∧
      ∀ grant ∈ granted, Granted (step digest s a) (grant.1, grant.2.generation) := by
  have hsame : ∀ {s' : Host}, s'.logins = s.logins ∧ s'.ticketGrants = s.ticketGrants →
      (∃ granted, s'.logins = s.logins ++ granted ∧ ∀ grant ∈ granted, Granted s' grant) ∧
      ∃ granted, s'.ticketGrants = s.ticketGrants ++ granted ∧
        ∀ grant ∈ granted, Granted s' (grant.1, grant.2.generation) := fun h =>
    ⟨⟨[], by simp [h.1], by simp⟩, ⟨[], by simp [h.2], by simp⟩⟩
  cases a with
  | advance now instant => exact hsame (advance_grants now instant)
  | authorizeLogin administrator =>
    cases hregistry : s.registry with
    | none =>
      simp only [step, hregistry]
      exact hsame ⟨rfl, rfl⟩
    | some state =>
      obtain ⟨htouches, hgeneration⟩ := @touches_authorizeLogin digest [] s.now state s.instant administrator
      simp only [step, hregistry]
      refine ⟨⟨_, rfl, fun grant hgrant => ?_⟩, [], by simp, by simp⟩
      obtain ⟨generation, hok, rfl⟩ := Option.map_eq_some_iff.1 (Option.mem_toList.1 hgrant)
      exact granted_of_eq rfl rfl (hgeneration generation (ok_of_toOption hok) ▸ htouches.generation)
  | authorizeTicket ticket =>
    cases hregistry : s.registry with
    | none =>
      simp only [step, hregistry]
      exact hsame ⟨rfl, rfl⟩
    | some state =>
      obtain ⟨htouches, hgeneration⟩ := @touches_authorizeTicket digest [] s.now state s.instant ticket
      simp only [step, hregistry]
      refine ⟨⟨[], by simp, by simp⟩, ⟨_, rfl, fun grant hgrant => ?_⟩⟩
      obtain ⟨granted, hok, rfl⟩ := Option.map_eq_some_iff.1 (Option.mem_toList.1 hgrant)
      exact granted_of_eq rfl rfl (hgeneration granted (ok_of_toOption hok) ▸ htouches.generation)
  | exit => exact hsame ⟨rfl, rfl⟩
  | open_ => exact hsame ⟨rfl, rfl⟩
  | loginTicket token => exact hsame ⟨rfl, rfl⟩
  | authenticate token => exact hsame ⟨rfl, rfl⟩
  | suspend => exact hsame ⟨rfl, rfl⟩
  | enable => exact hsame ⟨rfl, rfl⟩
  | release handle => exact hsame ⟨rfl, rfl⟩
  | _ => exact hsame (attempt_grants _)

/-- The invariant of every run: the registry beside its document, and grants of this process or an earlier one. -/
structure Standing (s : Host) : Prop where
  sound : Sound s
  logins : ∀ grant ∈ s.logins, Granted s grant
  ticketGrants : ∀ grant ∈ s.ticketGrants, Granted s (grant.1, grant.2.generation)

theorem standing_step (a : HostAction) (hroom : Room s a) (h : Standing s) : Standing (step digest s a) := by
  have heffect := @step_effect digest s a hroom
  obtain ⟨⟨logins, hlogins, hnewLogins⟩, ⟨tickets, htickets, hnewTickets⟩⟩ := @step_grants digest s a
  refine ⟨heffect.sound h.sound, fun grant hmem => ?_, fun grant hmem => ?_⟩
  · rw [hlogins] at hmem
    obtain hold | hnew := mem_append.1 hmem
    · exact heffect.granted (h.logins grant hold)
    · exact hnewLogins grant hnew
  · rw [htickets] at hmem
    obtain hold | hnew := mem_append.1 hmem
    · exact heffect.granted (h.ticketGrants grant hold)
    · exact hnewTickets grant hnew

theorem standing_init (now instant : Nat) : Standing (init now instant) :=
  ⟨sound_init now instant, by simp [init], by simp [init]⟩

/-! ## Runs -/

theorem standing_run {actions : List HostAction} (hroom : AllSteps (step digest) Room s actions) (h : Standing s) :
    Standing (run digest s actions) :=
  run_invariant_of_allSteps (step digest) (fun _ a ha hs => standing_step a ha hs) actions s hroom h

theorem stale_run {actions : List HostAction} (hroom : AllSteps (step digest) Room s actions) {granted : Nat × Nat}
    (h : Stale s granted) : Stale (run digest s actions) granted :=
  run_invariant_of_allSteps (P := fun s => Stale s granted) (step digest) (fun _ a ha hs => (step_effect a ha).stale hs) actions s
    hroom h

variable (actions : List HostAction)

def freshTokens : List String :=
  actions.flatMap HostAction.fresh

/-- What only the fresh tokens of a step can bring about was there before the run, or is of a fresh token of the run. -/
theorem from_run {P : Host → Digest → Prop} {kind : TokenKind}
    (hstep : ∀ {s a d}, Room s a → P (step digest s a) d → P s d ∨ ∃ token ∈ a.fresh, d = digest kind token) :
    ∀ {actions : List HostAction} {s : Host}, AllSteps (step digest) Room s actions → ∀ {d : Digest},
    P (run digest s actions) d → P s d ∨ ∃ token ∈ freshTokens actions, d = digest kind token
  | [], _, _, _, h => .inl h
  | a :: actions, s, hroom, d, h => by
    obtain hlater | ⟨token, htoken, heq⟩ := from_run hstep hroom.2 h
    · refine (hstep hroom.1 hlater).imp_right ?_
      rintro ⟨token, htoken, heq⟩
      exact ⟨token, mem_flatMap.2 ⟨a, mem_cons_self, htoken⟩, heq⟩
    · obtain ⟨b, hb, hfresh⟩ := mem_flatMap.1 htoken
      exact .inr ⟨token, mem_flatMap.2 ⟨b, mem_cons_of_mem a hb, hfresh⟩, heq⟩

theorem known_run {actions : List HostAction} (hroom : AllSteps (step digest) Room s actions) {d : Digest}
    (h : Known (run digest s actions) d) : Known s d ∨ ∃ token ∈ freshTokens actions, d = digest .session token :=
  from_run (fun hroom h => (step_effect _ hroom).known h) hroom h

theorem ticketOf_run {actions : List HostAction} (hroom : AllSteps (step digest) Room s actions) {d : Digest}
    (h : TicketOf (run digest s actions) d) : TicketOf s d ∨ ∃ token ∈ freshTokens actions, d = digest .loginTicket token :=
  from_run (fun hroom h => (step_effect _ hroom).ticketOf h) hroom h

variable {i : Nat}

theorem getElem?_run {α : Type} {list : Host → List α} (hgrows : ∀ s a, ∃ granted, list (step digest s a) = list s ++ granted)
    {grant : α} : ∀ (actions : List HostAction) {s : Host}, (list s)[i]? = some grant → (list (run digest s actions))[i]? = some grant
  | [], _, h => h
  | a :: actions, s, h => by
    obtain ⟨granted, hgranted⟩ := hgrows s a
    refine getElem?_run hgrows actions ?_
    rw [hgranted]
    exact List.getElem?_append_left (List.getElem?_eq_some_iff.1 h).1 |>.trans h

theorem logins_run {grant : Nat × Nat} (actions : List HostAction) (h : s.logins[i]? = some grant) :
    (run digest s actions).logins[i]? = some grant :=
  getElem?_run (fun _ _ => ⟨_, (step_grants _).1.choose_spec.1⟩) actions h

theorem ticketGrants_run {grant : Nat × TicketGrant} (actions : List HostAction) (h : s.ticketGrants[i]? = some grant) :
    (run digest s actions).ticketGrants[i]? = some grant :=
  getElem?_run (fun _ _ => ⟨_, (step_grants _).2.choose_spec.1⟩) actions h

variable {a : HostAction} {before after : List HostAction}

theorem allSteps_split
    (h : AllSteps (step digest) Room s (before ++ a :: after)) : AllSteps (step digest) Room s before ∧
      Room (run digest s before) a ∧ AllSteps (step digest) Room (step digest (run digest s before) a) after := by
  obtain ⟨hbefore, hrest⟩ := (allSteps_append (step digest) before (a :: after) s).1 h
  exact ⟨hbefore, hrest.1, hrest.2⟩

theorem run_split (before after : List HostAction) (a : HostAction) :
    run digest s (before ++ a :: after) = run digest (step digest (run digest s before) a) after := by
  rw [run, foldl_append, foldl_cons]
  rfl

/-! ## Sessions that end -/

section Ends

variable (digest) (s)

def issued (a : HostAction) : Option Sessions :=
  s.registry.bind fun state => match a with
    | .issue login clientId token saved => (s.tryIssue digest login clientId token saved state).toOption
    | .issueTicket grant clientId token saved => (s.tryIssueTicket digest grant clientId token saved state).toOption
    | .fork parent clientId token saved =>
      (Sessions.fork digest ⟨s.file, state⟩ saved s.now s.nextHandle parent clientId token).toOption
    | _ => none

def clientOf : HostAction → Option String
  | .issue _ clientId _ _ | .issueTicket _ clientId _ _ | .fork _ clientId _ _ => some clientId
  | _ => none

/-- The step ends a session of the registry: it is revoked, there at a rotation or a close, replaced by its own client or
evicted for another. -/
def Ends (a : HostAction) (session : Session) : Prop :=
  session ∈ s.sessions ∧ match a with
    | .revoke handle saved => saved = true ∧ session.handle = handle
    | .rotate administrator saved => saved = true ∧ validToken administrator = true
    | .close saved => saved = true
    | a => ∃ r, s.issued digest a = some r ∧ (clientOf a = some session.clientId ∨ session ∉ r.state.sessions)

def Fences (a : HostAction) : Prop :=
  s.registry.isSome ∧ match a with
    | .rotate administrator saved => saved = true ∧ validToken administrator = true
    | .close saved => saved = true
    | .suspend => True
    | _ => False

end Ends

theorem attempt_ok {operation : SessionState → Except LoginFailure Sessions} {r : Sessions}
    (hregistry : s.registry = some state) (h : operation state = .ok r) :
    s.attempt operation = { s with file := r.file, registry := some r.state } := by
  simp [attempt, hregistry, h]

variable {clientId token : String} {saved : Bool} {r : Sessions}

theorem issued_login (h : s.issued digest (.issue i clientId token saved) = some r) :
    ∃ state generation, s.registry = some state ∧ s.logins[i]? = some (s.process, generation) ∧
      s.tryIssue digest i clientId token saved state = .ok r ∧
      Sessions.issue digest ⟨s.file, state⟩ saved s.now s.nextHandle generation clientId token = .ok r := by
  obtain ⟨state, hregistry, hr⟩ := Option.bind_eq_some_iff.1 h
  have hok := ok_of_toOption hr
  refine ⟨state, ?_⟩
  unfold tryIssue at hok ⊢
  split at hok
  · cases hok
  rename_i generation hlogin
  obtain ⟨granted, hi, hgranted⟩ := Option.bind_eq_some_iff.1 hlogin
  split at hgranted
  · rename_i hprocess
    obtain ⟨process, generation'⟩ := granted
    obtain rfl : generation' = generation := Option.some.inj hgranted
    exact ⟨_, hregistry, hprocess ▸ hi, hok, hok⟩
  · cases hgranted

theorem issued_ticket (h : s.issued digest (.issueTicket i clientId token saved) = some r) :
    ∃ state granted, s.registry = some state ∧ s.ticketGrants[i]? = some (s.process, granted) ∧
      s.tryIssueTicket digest i clientId token saved state = .ok r ∧
      Sessions.issueTicket digest ⟨s.file, state⟩ saved s.now s.instant s.nextHandle granted clientId token = .ok r := by
  obtain ⟨state, hregistry, hr⟩ := Option.bind_eq_some_iff.1 h
  have hok := ok_of_toOption hr
  refine ⟨state, ?_⟩
  unfold tryIssueTicket at hok ⊢
  split at hok
  · cases hok
  rename_i granted hgrant
  obtain ⟨⟨process, granted'⟩, hi, hgranted⟩ := Option.bind_eq_some_iff.1 hgrant
  split at hgranted
  · rename_i hprocess
    obtain rfl : granted' = granted := Option.some.inj hgranted
    exact ⟨_, hregistry, hprocess ▸ hi, hok, hok⟩
  · cases hgranted

theorem insert_ends {sessions : Sessions} {now nextHandle : Nat} {expiry : Nat}
    {session : Session} (horderly : Orderly (grants sessions.state.sessions)) (hmem : session ∈ sessions.state.sessions)
    (h : sessions.insert digest saved now nextHandle clientId token expiry = .ok r)
    (hends : session.clientId = clientId ∨ session ∉ r.state.sessions) (hfresh : digest .session token ≠ session.digest) :
    ∀ other ∈ r.state.sessions, other.digest ≠ session.digest := by
  obtain ⟨next, new, hroom, hnew, -, -, -, -, rfl⟩ := insert_eq_ok h
  obtain ⟨hsub, hothers, -⟩ := makeRoom_eq_ok hroom
  intro other hother heq
  obtain hold | rfl := mem_append.1 hother |>.imp_right mem_singleton.1
  · have hnext := (mem_filter.1 hold).1
    have hdigests := horderly.digests
    rw [map_digest_grants] at hdigests
    obtain rfl := inj_on_of_nodup_map hdigests (hsub.subset hnext) hmem heq
    obtain hclient | hgone := hends
    · exact hothers other hnext hclient
    · exact hgone hother
  · exact hfresh (hnew ▸ heq)

/-- **A session that has ended is known neither to the registry nor to the document.** -/
theorem not_known_of_ends (hs : Sound s) {session : Session} (hends : Ends digest s a session)
    (hfresh : ∀ token ∈ a.fresh, digest .session token ≠ session.digest) : ¬ Known (step digest s a) session.digest := by
  obtain ⟨hmem, hends⟩ := hends
  cases hregistry : s.registry with
  | none => simp [Host.sessions, hregistry] at hmem
  | some state =>
    rw [sessions_of_registry hregistry] at hmem
    have horderly := (hs.registry state hregistry).orderly
    -- after an operation that saves, a digest that the sessions lack is known to nobody
    have hgone : ∀ {s' : Host} {r : Sessions}, s'.registry = some r.state → s'.file = r.file →
        r.file = some (document r.state.administratorPlaintext r.state.sessions) →
        (∀ other ∈ r.state.sessions, other.digest ≠ session.digest) → ¬ Known s' session.digest := by
      intro s' r h1 h2 h3 hnone hknown
      obtain ⟨other, hother, heq⟩ := known_saved h1 h2 h3 hknown
      exact hnone other hother heq
    have hissue : ∀ {operation : SessionState → Except LoginFailure Sessions} {r : Sessions}, operation state = .ok r →
        r.file = some (document r.state.administratorPlaintext r.state.sessions) →
        (∀ other ∈ r.state.sessions, other.digest ≠ session.digest) →
        ¬ Known (s.attemptIssue operation) session.digest := by
      intro operation r hok hfile hnone
      refine hgone ?_ ?_ hfile hnone
      · simp [attemptIssue, attempt_ok hregistry hok]
      · simp [attemptIssue, attempt_ok hregistry hok]
    cases a with
    | revoke handle =>
      obtain ⟨rfl, hhandle⟩ := hends
      have hok : Sessions.revoke ⟨s.file, state⟩ true handle = .ok _ := rfl
      rw [step, attempt_ok hregistry hok]
      refine hgone rfl rfl rfl fun other hother heq => ?_
      obtain ⟨hin, hother⟩ := mem_filter.1 hother
      have hdigests := horderly.digests
      rw [map_digest_grants] at hdigests
      obtain rfl := inj_on_of_nodup_map hdigests hin hmem heq
      simp [hhandle] at hother
    | rotate =>
      obtain ⟨rfl, hvalid⟩ := hends
      have hok := rotate_ok ⟨s.file, state⟩ hvalid
      rw [step, attempt_ok hregistry hok]
      exact hgone rfl rfl rfl (by simp)
    | close saved =>
      obtain rfl := hends
      have hok : Sessions.close ⟨s.file, state⟩ true = .ok _ := rfl
      rw [step, attempt_ok hregistry hok]
      exact hgone rfl rfl rfl (by simp)
    | issue login clientId token =>
      obtain ⟨r, hr, hends⟩ := hends
      obtain ⟨state', generation, hstate, -, hok, hissued⟩ := issued_login hr
      obtain rfl := Option.mem_unique hregistry hstate
      have hinsert := (issue_eq_ok hissued).2.2.2
      exact hissue hok (insert_file hinsert) (insert_ends horderly hmem hinsert
        (hends.imp_left fun h => (Option.some.inj h).symm) (hfresh token mem_cons_self))
    | issueTicket grant clientId token =>
      obtain ⟨r, hr, hends⟩ := hends
      obtain ⟨state', granted, hstate, -, hok, hissued⟩ := issued_ticket hr
      obtain rfl := Option.mem_unique hregistry hstate
      obtain ⟨-, mid, hmid, rfl⟩ := issueTicket_eq_ok hissued
      have hinsert := (issue_eq_ok hmid).2.2.2
      have hnone : ∀ other ∈ mid.state.sessions, other.digest ≠ session.digest := insert_ends horderly hmem hinsert
        (hends.imp_left fun h => (Option.some.inj h).symm) (hfresh token mem_cons_self)
      have hfile : mid.file = some (document mid.state.administratorPlaintext mid.state.sessions) := insert_file hinsert
      exact hissue hok hfile hnone
    | fork parent clientId token =>
      obtain ⟨r, hr, hends⟩ := hends
      simp only [issued, hregistry, Option.bind_some] at hr
      have hok := ok_of_toOption hr
      obtain ⟨parent, -, -, -, hinsert⟩ := fork_eq_ok hok
      exact hissue hok (insert_file hinsert) (insert_ends horderly hmem hinsert
        (hends.imp_left fun h => (Option.some.inj h).symm) (hfresh token mem_cons_self))
    | _ =>
      obtain ⟨r, hr, -⟩ := hends
      simp [issued, hregistry] at hr

/-! ## Generations that are left behind -/

theorem stale_of_fences (hroom : Room s a) (hfences : Fences s a) {granted : Nat × Nat}
    (hgranted : Granted s granted) : Stale (step digest s a) granted := by
  obtain ⟨hsome, hfences⟩ := hfences
  obtain ⟨state, hregistry⟩ := Option.isSome_iff_exists.1 hsome
  -- the process is the same and its generation is one more
  have hnext : ∀ {s' : Host} {state' : SessionState}, s'.process = s.process → s'.registry = some state' →
      state.generation < state'.generation → Stale s' granted := by
    intro s' state' hprocess hregistry' hless
    refine hgranted.imp (fun h => hprocess ▸ h) fun ⟨hp, hle⟩ => ⟨hp.trans hprocess.symm, fun other hother => ?_⟩
    rw [hregistry', Option.some.injEq] at hother
    exact hother ▸ Nat.lt_of_le_of_lt (hle state hregistry) hless
  cases a with
  | rotate =>
    obtain ⟨rfl, hvalid⟩ := hfences
    rw [step, attempt_ok hregistry (rotate_ok ⟨s.file, state⟩ hvalid)]
    refine hnext rfl rfl ?_
    simp only [wrapping, Nat.mod_eq_of_lt (hroom state hregistry)]
    omega
  | close saved =>
    obtain rfl := hfences
    have hok : Sessions.close ⟨s.file, state⟩ true = .ok _ := rfl
    rw [step, attempt_ok hregistry hok]
    refine hnext rfl rfl ?_
    simp only [wrapping, Nat.mod_eq_of_lt (hroom state hregistry)]
    omega
  | suspend =>
    have hafter : (step digest s .suspend).registry = some (Sessions.suspend state) := by
      simp [step, update, hregistry]
    refine hnext rfl hafter ?_
    simp only [Sessions.suspend, wrapping, Nat.mod_eq_of_lt (hroom state hregistry)]
    omega
  | _ => exact hfences.elim

theorem ne_of_stale {generation : Nat} (hregistry : s.registry = some state)
    (hstale : Stale s (s.process, generation)) : state.generation ≠ generation := by
  obtain hless | ⟨-, hless⟩ := hstale
  · exact absurd hless (Nat.lt_irrefl _)
  · exact Nat.ne_of_gt (hless state hregistry)

theorem issued_stale_login {granted : Nat × Nat} (hi : s.logins[i]? = some granted) (hstale : Stale s granted)
    (clientId token : String) (saved : Bool) : s.issued digest (.issue i clientId token saved) = none := by
  refine Option.eq_none_iff_forall_ne_some.2 fun r hr => ?_
  obtain ⟨state, generation, hregistry, hlogin, -, hissued⟩ := issued_login hr
  obtain rfl := Option.mem_unique hi hlogin
  exact ne_of_stale hregistry hstale (issue_eq_ok hissued).2.1

theorem issued_stale_ticket {granted : Nat × TicketGrant} (hi : s.ticketGrants[i]? = some granted)
    (hstale : Stale s (granted.1, granted.2.generation)) (clientId token : String) (saved : Bool) :
    s.issued digest (.issueTicket i clientId token saved) = none := by
  refine Option.eq_none_iff_forall_ne_some.2 fun r hr => ?_
  obtain ⟨state, grant, hregistry, hgrant, -, hissued⟩ := issued_ticket hr
  obtain rfl := Option.mem_unique hi hgrant
  obtain ⟨-, mid, hmid, -⟩ := issueTicket_eq_ok hissued
  exact ne_of_stale hregistry hstale (issue_eq_ok hmid).2.1

/-! ## Tickets that are redeemed -/

theorem ticketOf_issued (h : s.issued digest (.issueTicket i clientId token saved) = some r) :
    (∀ granted, s.ticketGrants[i]? = some granted → TicketOf s granted.2.digest) ∧
      ∀ d, ¬ TicketOf (step digest s (.issueTicket i clientId token saved)) d := by
  obtain ⟨state, grant, hregistry, hgrant, hok, hissued⟩ := issued_ticket h
  obtain ⟨hholds, mid, -, rfl⟩ := issueTicket_eq_ok hissued
  refine ⟨fun granted hi => ?_, fun d hd => ?_⟩
  · obtain rfl := Option.mem_unique hi hgrant
    obtain ⟨ticket, hticket, hmatches⟩ := (Option.any_eq_true _ _).1 hholds
    simp only [Bool.and_eq_true, decide_eq_true_eq] at hmatches
    exact ⟨state, ticket, hregistry, hticket, hmatches.2⟩
  · obtain ⟨state', ticket, hstate, hticket, -⟩ := hd
    simp only [step, attemptIssue, attempt_ok hregistry hok, Option.some.injEq] at hstate
    subst hstate
    cases hticket

theorem issued_redeemed {granted : Nat × TicketGrant} (hi : s.ticketGrants[i]? = some granted)
    (hgone : ¬ TicketOf s granted.2.digest) (clientId token : String) (saved : Bool) :
    s.issued digest (.issueTicket i clientId token saved) = none :=
  Option.eq_none_iff_forall_ne_some.2 fun _ hr => hgone ((ticketOf_issued hr).1 granted hi)

/-! ## The sessions of a run -/

section Claims

variable (digest) (s)

def LetsIn (token : String) : Prop :=
  ∃ state, s.registry = some state ∧ (authenticated digest state s.now token).isSome

def NeverResurrected : Prop :=
  ∀ before a after, actions = before ++ a :: after → ∀ session, Ends digest (run digest s before) a session →
    ∀ token, digest .session token = session.digest → ¬ LetsIn digest (run digest s actions) token

/-- What was granted before a rotation, a close or a suspension issues nothing after it. -/
def FencedOut : Prop :=
  ∀ before a after, actions = before ++ a :: after → Fences (run digest s before) a → ∀ clientId token saved,
    (∀ i < (run digest s before).logins.length, (run digest s actions).issued digest (.issue i clientId token saved) = none) ∧
    ∀ i < (run digest s before).ticketGrants.length,
      (run digest s actions).issued digest (.issueTicket i clientId token saved) = none

def RedeemedOnce : Prop :=
  ∀ before i clientId token saved after, actions = before ++ .issueTicket i clientId token saved :: after →
    ((run digest s before).issued digest (.issueTicket i clientId token saved)).isSome →
    ∀ j granted granted', (run digest s before).ticketGrants[i]? = some granted →
      (run digest s actions).ticketGrants[j]? = some granted' → granted'.2.digest = granted.2.digest →
      ∀ clientId token saved, (run digest s actions).issued digest (.issueTicket j clientId token saved) = none

/-- The registry is within its bounds, its document can be read, and both grant the same. -/
structure WellKept : Prop where
  capacity : s.sessions.length ≤ 32
  editors : (s.sessions.map (·.clientId)).Nodup
  readable : readStore s.file = .ok s.file
  granted : s.registry.isSome → unexpired s.now (grants s.sessions) = unexpired s.now (s.stored.map StoredSession.grant)

end Claims

theorem Sound.wellKept (h : Sound s) : WellKept s := by
  have hreadable : readStore s.file = .ok s.file := by
    cases hfile : s.file with
    | none => rfl
    | some stored =>
      have hfiled := h.file stored hfile
      rw [readStore, if_pos (StoredAuth.accepted hfiled.version hfiled.administrator hfiled.orderly hfiled.used)]
  cases hregistry : s.registry with
  | none => exact ⟨by simp [Host.sessions, hregistry], by simp [Host.sessions, hregistry], hreadable, by simp [hregistry]⟩
  | some state =>
    have hregistered := h.registry state hregistry
    refine ⟨?_, ?_, hreadable, fun _ => ?_⟩
    · rw [sessions_of_registry hregistry]
      simpa [grants, maxSessions] using hregistered.orderly.capacity
    · rw [sessions_of_registry hregistry, ← map_clientId_grants]
      exact hregistered.orderly.editors
    · obtain ⟨stored, hfile, -, hgrants⟩ := hregistered.filed
      rw [sessions_of_registry hregistry, stored_of_file hfile]
      exact hgrants s.now (Nat.le_refl _)

theorem fresh_ne (hfresh : (freshTokens (before ++ a :: after)).Nodup)
    {token token' : String} (htoken : token ∈ freshTokens before) (htoken' : token' ∈ freshTokens (a :: after)) :
    token' ≠ token := by
  rw [freshTokens, flatMap_append] at hfresh
  exact fun heq => (nodup_append.1 hfresh).2.2 token htoken token' htoken' heq.symm

theorem mem_freshTokens {token : String}
    (h : token ∈ freshTokens before ∨ token ∈ freshTokens (a :: after)) : token ∈ freshTokens (before ++ a :: after) := by
  rw [freshTokens, flatMap_append]
  exact mem_append.2 h

theorem not_known_init (now instant : Nat) (d : Digest) : ¬ Known (init now instant) d := by
  rintro (⟨session, hmem, -⟩ | ⟨entry, hmem, -⟩)
  · simp [Host.sessions, init] at hmem
  · simp [Host.stored, init] at hmem

theorem not_ticketOf_init (now instant : Nat) (d : Digest) : ¬ TicketOf (init now instant) d := by
  rintro ⟨state, ticket, hstate, -⟩
  simp [init] at hstate

section Run

variable (digest) (now instant : Nat) {actions : List HostAction}

theorem neverResurrected (hfresh : (freshTokens actions).Nodup)
    (hdigest : ∀ kind, Set.InjOn (digest kind) {token | token ∈ freshTokens actions})
    (hroom : AllSteps (step digest) Room (init now instant) actions) :
    NeverResurrected digest (init now instant) actions := by
  rintro before a after rfl session hends bearer hbearer ⟨state, hregistry, hin⟩
  obtain ⟨hbefore, hstep, hafter⟩ := allSteps_split hroom
  have hsound := (standing_run hbefore (standing_init now instant)).sound
  -- the session's digest is of a token made before the step, and no later token has it
  obtain hinit | ⟨token, htoken, hd⟩ := known_run hbefore (.inl ⟨session, hends.1, rfl⟩)
  · exact not_known_init now instant _ hinit
  have hother : ∀ later ∈ freshTokens (a :: after), digest .session later ≠ session.digest := by
    intro later hlater heq
    exact fresh_ne hfresh htoken hlater (hdigest .session (mem_freshTokens (.inr hlater)) (mem_freshTokens (.inl htoken))
      (heq.trans hd))
  have hgone := not_known_of_ends hsound hends fun later hlater =>
    hother later (mem_flatMap.2 ⟨a, mem_cons_self, hlater⟩)
  rw [run_split] at hregistry hin
  have hknown : Known (run digest (step digest (run digest (init now instant) before) a) after) session.digest := by
    refine .inl ?_
    rw [sessions_of_registry hregistry]
    obtain ⟨found, hfound⟩ := Option.isSome_iff_exists.1 hin
    rw [authenticated] at hfound
    split at hfound
    · cases hfound
    have hfind := (Option.filter_eq_some_iff.1 hfound).1
    have hsame : found.digest = digest .session bearer := by simpa using find?_some hfind
    exact ⟨found, mem_of_find?_eq_some hfind, hsame.trans hbearer⟩
  obtain hknown | ⟨later, hlater, heq⟩ := known_run hafter hknown
  · exact hgone hknown
  obtain ⟨b, hb, hin⟩ := mem_flatMap.1 hlater
  exact hother later (mem_flatMap.2 ⟨b, mem_cons_of_mem a hb, hin⟩) heq.symm

theorem fencedOut (hroom : AllSteps (step digest) Room (init now instant) actions) :
    FencedOut digest (init now instant) actions := by
  rintro before a after rfl hfences clientId token saved
  obtain ⟨hbefore, hstep, hafter⟩ := allSteps_split hroom
  have hstanding := standing_run hbefore (standing_init now instant)
  rw [run_split]
  refine ⟨fun i hi => ?_, fun i hi => ?_⟩
  · have hgranted : (run digest (init now instant) before).logins[i]? = some _ := getElem?_eq_getElem hi
    have hstale := @stale_of_fences digest _ _ hstep hfences _ (hstanding.logins _ (getElem_mem hi))
    have hlater := @logins_run digest _ _ _ (a :: after) hgranted
    exact issued_stale_login hlater (stale_run hafter hstale) clientId token saved
  · have hgranted : (run digest (init now instant) before).ticketGrants[i]? = some _ := getElem?_eq_getElem hi
    have hstale := @stale_of_fences digest _ _ hstep hfences _ (hstanding.ticketGrants _ (getElem_mem hi))
    have hlater := @ticketGrants_run digest _ _ _ (a :: after) hgranted
    exact issued_stale_ticket hlater (stale_run hafter hstale) clientId token saved

theorem redeemedOnce (hfresh : (freshTokens actions).Nodup)
    (hdigest : ∀ kind, Set.InjOn (digest kind) {token | token ∈ freshTokens actions})
    (hroom : AllSteps (step digest) Room (init now instant) actions) :
    RedeemedOnce digest (init now instant) actions := by
  rintro before i clientId token saved after rfl hissued j granted granted' hi hj heq clientId' token' saved'
  obtain ⟨hbefore, hstep, hafter⟩ := allSteps_split hroom
  obtain ⟨r, hr⟩ := Option.isSome_iff_exists.1 hissued
  obtain ⟨hticket, hcleared⟩ := ticketOf_issued hr
  obtain hinit | ⟨made, hmade, hd⟩ := ticketOf_run hbefore (hticket granted hi)
  · exact absurd hinit (not_ticketOf_init now instant _)
  refine issued_redeemed hj (fun hback => ?_) clientId' token' saved'
  rw [heq, run_split] at hback
  obtain hback | ⟨later, hlater, hd'⟩ := ticketOf_run hafter hback
  · exact hcleared _ hback
  obtain ⟨b, hb, hin⟩ := mem_flatMap.1 hlater
  have hlater' : later ∈ freshTokens (.issueTicket i clientId token saved :: after) :=
    mem_flatMap.2 ⟨b, mem_cons_of_mem _ hb, hin⟩
  exact fresh_ne hfresh hmade hlater' (hdigest .loginTicket (mem_freshTokens (.inr hlater')) (mem_freshTokens (.inl hmade))
    (hd'.symm.trans hd))

/-- **Web sessions are not resurrected, over-issued or half-saved** in any run from an empty data directory whose fresh tokens do
not repeat and whose arithmetic stays in range. -/
theorem web_sessions (hfresh : (freshTokens actions).Nodup)
    (hdigest : ∀ kind, Set.InjOn (digest kind) {token | token ∈ freshTokens actions})
    (hroom : AllSteps (step digest) Room (init now instant) actions) :
    NeverResurrected digest (init now instant) actions ∧ FencedOut digest (init now instant) actions ∧
      RedeemedOnce digest (init now instant) actions ∧ WellKept (run digest (init now instant) actions) :=
  ⟨neverResurrected digest now instant hfresh hdigest hroom, fencedOut digest now instant hroom,
    redeemedOnce digest now instant hfresh hdigest hroom,
    (standing_run hroom (standing_init now instant)).sound.wellKept⟩

end Run

end Host

/-! ## A session in full -/

def Digest.ofNat (n : Nat) : Digest :=
  ⟨(List.range 32).map fun i => UInt8.ofNat (n / 256 ^ (31 - i)), by simp⟩

def tokenA : String := "aaaaaaaaaaaaaaaaaaaaaaaaaaaaaaaaaaaaaaaaaaaaaaaaaaaaaaaaaaaaaaaa"
def tokenB : String := "bbbbbbbbbbbbbbbbbbbbbbbbbbbbbbbbbbbbbbbbbbbbbbbbbbbbbbbbbbbbbbbb"
def clientC : String := "cccccccccccccccccccccccccccccccccccccccccccccccccccccccccccccccc"

def sampleDigest (kind : TokenKind) (token : String) : Digest :=
  .ofNat (match kind, token == tokenA with
    | .administrator, true => 0x9dffbaba896fc2a94df8a1d7775970a1e51133d0503db91b76870709383cc311
    | .administrator, false => 0xa1dd6da4bf057c6e0cd30c1edce36e5e71f3c35e22c8151e42f24cd94abe80e8
    | .session, true => 0x5d16dd0970d1b27b4a65e084715ddc9e8da28ae267c90d2a381b4ac64f0e61e3
    | .session, false => 0x132e2b50677eeaed06f7e845c5a4b94c502ee541a58634b765c706b130033cf2
    | .loginTicket, true => 0x6fb5057e03e006799537f305987d159e4c1996e3135517c2ec9283bc476b547e
    | .loginTicket, false => 0x5c7ee2e3b9f0fdb7cd5c624d3a9c700ffd657d010873d77d90be7c17803ed868)

namespace Host

open Sessions Runs

variable {digest : TokenKind → String → Digest} {s : Host}

theorem sampleDigest_injOn (kind : TokenKind) : Set.InjOn (sampleDigest kind) {token | token ∈ [tokenA, tokenB]} := by
  have hne : sampleDigest kind tokenA ≠ sampleDigest kind tokenB := by
    cases kind <;> decide
  intro token htoken token' htoken' heq
  simp only [Set.mem_ofPred_eq, mem_cons, not_mem_nil, or_false] at htoken htoken'
  obtain rfl | rfl := htoken <;> obtain rfl | rfl := htoken'
  · rfl
  · exact absurd heq hne
  · exact absurd heq.symm hne
  · rfl

def loginAndLogout : List HostAction :=
  [.open_ none tokenA true, .authorizeLogin tokenA, .issue 0 clientC tokenB true, .revoke 32 true]

theorem web_sessions_loginAndLogout :
    LetsIn sampleDigest (run sampleDigest (init 0 0) (loginAndLogout.take 3)) tokenB ∧
      ¬ LetsIn sampleDigest (run sampleDigest (init 0 0) loginAndLogout) tokenB := by
  refine ⟨⟨_, rfl, by decide⟩, ?_⟩
  have hfresh : freshTokens loginAndLogout = [tokenA, tokenB] := rfl
  obtain ⟨session, hsession, hhandle, hbearer⟩ :
      ∃ session ∈ (run sampleDigest (init 0 0) (loginAndLogout.take 3)).sessions,
        session.handle = 32 ∧ sampleDigest .session tokenB = session.digest := by
    decide
  have hroom : wrapping (0 + sessionLifetime) ≠ 0 := by decide
  have hsessions := @web_sessions sampleDigest 0 0 loginAndLogout (by decide)
    (fun kind => hfresh ▸ sampleDigest_injOn kind) ⟨trivial, trivial, hroom, trivial, trivial⟩
  exact hsessions.1 (loginAndLogout.take 3) (.revoke 32 true) [] rfl session ⟨hsession, rfl, hhandle⟩ tokenB hbearer

/-! ## Where the arithmetic wraps -/

def loginAtTheEnd : List HostAction :=
  [.open_ none tokenA true, .authorizeLogin tokenA, .issue 0 clientC tokenB true]

def suspendedRound : List HostAction :=
  [.open_ none tokenA true, .authorizeLogin tokenA] ++ (List.replicate (2 ^ 64) .suspend ++ [.enable])

theorem run_replicate_suspend {state : SessionState} (hregistry : s.registry = some state) (hempty : state.sessions = [])
    (n : Nat) : run digest s (List.replicate (n + 1) .suspend) =
      { s with registry := some { state with
          enabled := false, generation := wrapping (state.generation + (n + 1)), ticket := none } } := by
  induction n with
  | zero =>
    show s.update Sessions.suspend = _
    simp only [update, hregistry, Option.map_some, Sessions.suspend, hempty, map_nil]
  | succ n ih =>
    have hlast : run digest s (List.replicate (n + 1 + 1) .suspend) =
        (run digest s (List.replicate (n + 1) .suspend)).update Sessions.suspend := by
      rw [replicate_succ', run, foldl_append]
      rfl
    rw [hlast, ih]
    simp [update, Option.map_some, Sessions.suspend, hempty, map_nil, wrapping, Nat.mod_add_mod, Nat.add_assoc]

theorem run_suspendedRound {state : SessionState} (hregistry : s.registry = some state) (hempty : state.sessions = [])
    (henabled : state.enabled = true) (hticket : state.ticket = none) (hgeneration : state.generation < 2 ^ 64) :
    run digest s (List.replicate (2 ^ 64) .suspend ++ [.enable]) = s := by
  have hsuspended := @run_replicate_suspend digest s state hregistry hempty (2 ^ 64 - 1)
  have hround : wrapping (state.generation + (2 ^ 64 - 1 + 1)) = state.generation := by
    rw [wrapping, Nat.sub_add_cancel (by decide), Nat.add_mod_right, Nat.mod_eq_of_lt hgeneration]
  rw [hround] at hsuspended
  have hlast : run digest s (List.replicate (2 ^ 64) .suspend ++ [.enable]) =
      (run digest s (List.replicate (2 ^ 64 - 1 + 1) .suspend)).update Sessions.enable := by
    rw [run, foldl_append]
    rfl
  rw [hlast, hsuspended]
  simp only [update, Option.map_some, Sessions.enable, hempty, map_nil]
  obtain ⟨enabled, administrator, sessions, attempts, generation, ticket⟩ := state
  cases henabled
  cases hticket
  cases hempty
  rw [← hregistry]

theorem freshTokens_suspendedRound : freshTokens suspendedRound = [tokenA] := by
  rw [suspendedRound, freshTokens, flatMap_append, flatMap_append]
  have hnone : (List.replicate (2 ^ 64) HostAction.suspend).flatMap HostAction.fresh = [] := by
    rw [flatMap_eq_nil_iff]
    intro a ha
    rw [eq_of_mem_replicate ha]
    rfl
  rw [hnone]
  rfl

theorem web_sessions_wrap :
    ((freshTokens loginAtTheEnd).Nodup ∧ (∀ kind, Set.InjOn (sampleDigest kind) {token | token ∈ freshTokens loginAtTheEnd}) ∧
      ¬ WellKept (run sampleDigest (init (2 ^ 64 - sessionLifetime) 0) loginAtTheEnd)) ∧
    (freshTokens suspendedRound).Nodup ∧ (∀ kind, Set.InjOn (sampleDigest kind) {token | token ∈ freshTokens suspendedRound}) ∧
      ¬ FencedOut sampleDigest (init 0 0) suspendedRound := by
  refine ⟨⟨by decide, sampleDigest_injOn, fun h => ?_⟩, ?_, fun kind => ?_, fun h => ?_⟩
  · exact absurd h.readable (by decide)
  · rw [freshTokens_suspendedRound]
    exact nodup_singleton tokenA
  · rw [freshTokens_suspendedRound]
    intro token htoken token' htoken' _
    exact (mem_singleton.1 htoken).trans (mem_singleton.1 htoken').symm
  · have hissued := (h [.open_ none tokenA true, .authorizeLogin tokenA] .suspend _ rfl ⟨rfl, trivial⟩ clientC tokenB true).1
      0 (by decide)
    have hround : run sampleDigest (init 0 0) suspendedRound =
        run sampleDigest (init 0 0) [.open_ none tokenA true, .authorizeLogin tokenA] := by
      rw [suspendedRound, run, foldl_append]
      exact run_suspendedRound rfl rfl rfl rfl (by decide)
    rw [hround] at hissued
    exact absurd hissued (by decide)

end Host
end Rovai.Web
