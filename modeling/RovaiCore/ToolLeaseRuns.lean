import RovaiCore.ToolLeases
import RovaiCore.Runs
/-!
# A tool lease speaks for one Run (`builtin_tool_runtime.rs`)

Along every interleaving of calls an accepted auth is the one that the last bind of its process returned, and nothing has
withdrawn that lease since (`lease_speaks_for_one_run`).
-/
namespace Rovai.ToolLeases

open Tables (Table)
open List
open Registry

/-! ## Which auth is accepted -/

theorem authOf_eq_iff {process : RegisteredProcess} {lease : ActiveLease} {auth : Auth} :
    authOf process lease = auth ↔
      process.processId = auth.processId ∧ process.processToken = auth.processToken ∧ leaseDiffers lease auth = false := by
  obtain ⟨processId, processToken, leaseId, leaseGeneration, leaseToken⟩ := auth
  simp [authOf, leaseDiffers, and_assoc]

def Accepts (r : Registry) (auth : Auth) (lease : ActiveLease) : Prop :=
  ∃ process, r.processes.find? auth.processId = some process ∧ process.active = some lease ∧ authOf process lease = auth

variable {r : Registry} {auth : Auth} {lease : ActiveLease}

theorem activeLease_eq_ok : r.activeLease auth = .ok lease ↔ Accepts r auth lease := by
  unfold activeLease Accepts
  constructor
  · intro h
    split at h
    · cases h
    rename_i process hp
    split at h
    · cases h
    rename_i htoken
    split at h
    · cases h
    rename_i active hactive
    split at h
    · cases h
    rename_i hsame
    cases h
    exact ⟨process, hp, hactive,
      authOf_eq_iff.2 ⟨Table.key_of_find? hp, not_not.1 htoken, Bool.eq_false_iff.2 hsame⟩⟩
  · rintro ⟨process, hp, hactive, hauth⟩
    obtain ⟨-, htoken, hsame⟩ := authOf_eq_iff.1 hauth
    rw [hp]
    dsimp only
    rw [if_neg (not_not.2 htoken), hactive]
    dsimp only
    rw [if_neg (by simp [hsame])]

theorem activeLease_eq_error {error : LeaseError} (h : r.activeLease auth = .error error) : error = runNotBound := by
  unfold activeLease at h
  split at h
  · cases h; rfl
  split at h
  · cases h; rfl
  split at h
  · cases h; rfl
  split at h
  · cases h; rfl
  · cases h

theorem authenticate_eq_ok {invocation : AuthorizedInvocation} :
    r.authenticate auth = .ok invocation ↔ ∃ lease, Accepts r auth lease ∧ invocation = authorized lease := by
  unfold authenticate
  rw [Fallible.bind_eq_ok]
  constructor
  · rintro ⟨lease, hlease, h⟩
    cases h
    exact ⟨lease, activeLease_eq_ok.1 hlease, rfl⟩
  · rintro ⟨lease, hlease, rfl⟩
    exact ⟨lease, activeLease_eq_ok.2 hlease, rfl⟩

theorem accepts_of_replay {requestId requestDigest : String} (h : r.replay auth requestId requestDigest ≠ .error runNotBound) :
    ∃ lease, Accepts r auth lease := by
  unfold replay at h
  cases hlease : r.activeLease auth with
  | error error =>
    rw [hlease, activeLease_eq_error hlease] at h
    exact absurd rfl h
  | ok lease => exact ⟨lease, activeLease_eq_ok.1 hlease⟩

theorem accepts_of_record {requestId requestDigest : String} {envelope : Json}
    (h : (r.record auth requestId requestDigest envelope).2 ≠ .error runNotBound) : ∃ lease, Accepts r auth lease := by
  unfold record at h
  cases hlease : r.activeLease auth with
  | error error =>
    rw [hlease, activeLease_eq_error hlease] at h
    exact absurd rfl h
  | ok lease => exact ⟨lease, activeLease_eq_ok.1 hlease⟩

theorem lookupReplay_mem {requestId : String} {entries : List (String × ReplayEntry)} {entry : ReplayEntry}
    (h : lookupReplay requestId entries = some entry) : (requestId, entry) ∈ entries := by
  obtain ⟨⟨id, entry'⟩, hfind, rfl⟩ := Option.map_eq_some_iff.1 h
  have hid : id = requestId := by simpa using find?_some hfind
  rw [← hid]
  exact mem_of_find?_eq_some hfind

theorem replay_eq_some {requestId requestDigest : String} {envelope : Json}
    (h : r.replay auth requestId requestDigest = .ok (some envelope)) (hlease : Accepts r auth lease) :
    (requestId, ⟨requestDigest, envelope⟩) ∈ lease.replay := by
  unfold replay at h
  rw [activeLease_eq_ok.2 hlease] at h
  dsimp only [Bind.bind, Except.bind] at h
  split at h
  · rename_i entry hentry
    split at h
    · rename_i hdigest
      cases h
      have hmem := lookupReplay_mem hentry
      rwa [← hdigest]
    · cases h
  · cases h

variable {auth' : Auth}

theorem Accepts.unique {lease' : ActiveLease} (h : Accepts r auth lease) (h' : Accepts r auth' lease')
    (hprocess : auth.processId = auth'.processId) : auth = auth' ∧ lease = lease' := by
  obtain ⟨process, hp, hactive, rfl⟩ := h
  obtain ⟨process', hp', hactive', rfl⟩ := h'
  rw [hprocess, hp'] at hp
  cases hp
  rw [hactive] at hactive'
  cases hactive'
  exact ⟨rfl, rfl⟩

/-! ## What a record leaves -/

theorem activeLease_congr {r' : Registry} (h : ∀ lease, Accepts r' auth lease ↔ Accepts r auth lease) :
    r'.activeLease auth = r.activeLease auth := by
  cases hlease : r.activeLease auth with
  | ok lease => exact activeLease_eq_ok.2 ((h lease).2 (activeLease_eq_ok.1 hlease))
  | error error =>
    cases hlease' : r'.activeLease auth with
    | ok lease =>
      have hfound := activeLease_eq_ok.2 ((h lease).1 (activeLease_eq_ok.1 hlease'))
      rw [hlease] at hfound
      cases hfound
    | error error' => rw [activeLease_eq_error hlease, activeLease_eq_error hlease']

theorem record_cases (r : Registry) (auth : Auth) (requestId requestDigest : String) (envelope : Json) :
    (r.record auth requestId requestDigest envelope).1 = r ∨
      ∃ lease, Accepts r auth lease ∧ (r.record auth requestId requestDigest envelope).1 =
        { r with processes :=
            r.processes.update auth.processId (setActive (some (recordReplay requestId requestDigest envelope lease))) } := by
  unfold Registry.record
  split
  · exact .inl rfl
  rename_i lease hlease
  split
  · split
    · exact .inl rfl
    · exact .inl rfl
  · exact .inr ⟨lease, activeLease_eq_ok.1 hlease, rfl⟩

theorem accepts_recorded {lease lease' : ActiveLease} {requestId requestDigest : String} {envelope : Json}
    (h : Accepts r auth lease) :
    Accepts { r with processes :=
        r.processes.update auth.processId (setActive (some (recordReplay requestId requestDigest envelope lease))) } auth' lease' ↔
      auth' = auth ∧ lease' = recordReplay requestId requestDigest envelope lease ∨ auth' ≠ auth ∧ Accepts r auth' lease' := by
  obtain ⟨process, hp, hactive, hauth⟩ := h
  have hself := Table.find?_update_self hp (setActive (some (recordReplay requestId requestDigest envelope lease))) (fun _ => rfl)
  have hother := fun (k : String) (hk : k ≠ auth.processId) => Table.find?_update_of_ne r.processes hk
    (setActive (some (recordReplay requestId requestDigest envelope lease))) (fun _ => rfl)
  constructor
  · rintro ⟨process', hp', hactive', hauth'⟩
    by_cases hk : auth'.processId = auth.processId
    · rw [hk] at hp'
      have hsame := hself.symm.trans hp'
      cases hsame
      cases hactive'
      exact .inl ⟨hauth'.symm.trans hauth, rfl⟩
    · refine .inr ⟨fun he => hk (congrArg Auth.processId he), process', ?_, hactive', hauth'⟩
      exact (hother _ hk).symm.trans hp'
  · rintro (⟨rfl, rfl⟩ | ⟨hne, hlease'⟩)
    · exact ⟨_, hself, rfl, hauth⟩
    have hk : auth'.processId ≠ auth.processId := fun he => hne (hlease'.unique ⟨process, hp, hactive, hauth⟩ he).1
    obtain ⟨process', hp', hactive', hauth'⟩ := hlease'
    exact ⟨process', (hother _ hk).trans hp', hactive', hauth'⟩

variable (r) (auth) in
theorem activeLease_record_of_ne (hne : auth' ≠ auth) (requestId requestDigest : String) (envelope : Json) :
    (r.record auth requestId requestDigest envelope).1.activeLease auth' = r.activeLease auth' := by
  obtain hsame | ⟨lease, hlease, hsame⟩ := record_cases r auth requestId requestDigest envelope
  · rw [hsame]
  rw [hsame]
  apply activeLease_congr
  intro lease'
  rw [accepts_recorded hlease]
  simp [hne]

variable (r) (auth) in
theorem authenticate_record (auth' : Auth) (requestId requestDigest : String) (envelope : Json) :
    (r.record auth requestId requestDigest envelope).1.authenticate auth' = r.authenticate auth' := by
  by_cases hne : auth' = auth
  · subst hne
    obtain hsame | ⟨lease, hlease, hsame⟩ := record_cases r auth' requestId requestDigest envelope
    · rw [hsame]
    have hrecorded := fun lease' => (@accepts_recorded r auth' auth' lease lease' requestId requestDigest envelope hlease).2
    rw [hsame, authenticate_eq_ok.2 ⟨_, hrecorded _ (.inl ⟨rfl, rfl⟩), rfl⟩, authenticate_eq_ok.2 ⟨lease, hlease, rfl⟩]
    rfl
  · unfold Registry.authenticate
    rw [activeLease_record_of_ne r auth hne]

variable (r) (auth) in
theorem replay_record_of_ne (hne : auth' ≠ auth) (requestId requestDigest : String) (envelope : Json)
    (requestId' requestDigest' : String) :
    (r.record auth requestId requestDigest envelope).1.replay auth' requestId' requestDigest' =
      r.replay auth' requestId' requestDigest' := by
  unfold Registry.replay
  rw [activeLease_record_of_ne r auth hne]

/-! ## What a section leaves of the leases -/

structure LeasesAfter (t t' : Table RegisteredProcess.processId) (processId : String)
    (granted : Option (String × ActiveLease)) : Prop where
  of_active : ∀ {k process lease}, t'.find? k = some process → process.active = some lease →
    k ≠ processId ∧ t.find? k = some process ∨ k = processId ∧ granted = some (process.processToken, lease)

variable {t t' t'' : Table RegisteredProcess.processId} {processId : String} {process : RegisteredProcess}

theorem LeasesAfter.trans {granted granted' : Option (String × ActiveLease)} (h : LeasesAfter t t' processId granted)
    (h' : LeasesAfter t' t'' processId granted') : LeasesAfter t t'' processId granted' where
  of_active hp hactive := by
    obtain ⟨hne, hp'⟩ | hgranted := h'.of_active hp hactive
    · obtain hkept | ⟨heq, -⟩ := h.of_active hp' hactive
      · exact .inl hkept
      · exact absurd heq hne
    · exact .inr hgranted

theorem leasesAfter_refl (hp : t.find? processId = some process) (hnone : process.active = none) :
    LeasesAfter t t processId none where
  of_active {k process' lease'} hp' hactive := by
    by_cases hk : k = processId
    · rw [hk, hp] at hp'
      cases hp'
      rw [hnone] at hactive
      cases hactive
    · exact .inl ⟨hk, hp'⟩

theorem leasesAfter_update (hp : t.find? processId = some process) (f : RegisteredProcess → RegisteredProcess)
    (hf : ∀ p, (f p).processId = p.processId) :
    LeasesAfter t (t.update processId f hf) processId ((f process).active.map fun lease => ((f process).processToken, lease)) where
  of_active {k process' lease'} hp' hactive := by
    by_cases hk : k = processId
    · rw [hk, Table.find?_update_self hp f hf] at hp'
      cases hp'
      exact .inr ⟨hk, by rw [hactive, Option.map_some]⟩
    · rw [Table.find?_update_of_ne t hk f hf] at hp'
      exact .inl ⟨hk, hp'⟩

inductive Grants (t : Table RegisteredProcess.processId) (b : Bind) (process : RegisteredProcess) :
    Registry × Except String Auth → Prop
  | failed {r' error} (hleases : LeasesAfter t r'.processes process.processId none) : Grants t b process (r', .error error)
  | granted {r' root runTmp generation}
      (hleases : LeasesAfter t r'.processes process.processId (some (process.processToken, b.lease root runTmp generation))) :
      Grants t b process (r', .ok (b.auth (b.lease root runTmp generation)))

variable {b : Bind}

theorem grants_grant (r : Registry) (process : RegisteredProcess) {root : String} (hp : r.processes.find? process.processId = some process)
    (hnone : process.active = none) : Grants r.processes b process (r.grant b root process) := by
  have hsame := leasesAfter_refl hp hnone
  unfold grant
  split
  · exact .failed hsame
  have hraised : ∀ generation, LeasesAfter r.processes
      (r.processes.update process.processId (fun p => { p with leaseGeneration := generation })) process.processId none := by
    intro generation
    have h := leasesAfter_update hp (fun p => { p with leaseGeneration := generation }) (fun _ => rfl)
    rwa [hnone] at h
  dsimp only
  split
  · exact .failed (hraised _)
  split
  · exact .failed (hraised _)
  refine .granted ((hraised (nextLeaseGeneration process.leaseGeneration)).trans ?_)
  have hp' := Table.find?_update_self hp
    (fun p => { p with leaseGeneration := nextLeaseGeneration process.leaseGeneration }) (fun _ => rfl)
  exact leasesAfter_update hp' (setActive (some _)) (fun _ => rfl)

structure LeasesKept (t t' : Table RegisteredProcess.processId) : Prop where
  of_active : ∀ {k process lease}, t'.find? k = some process → process.active = some lease → t.find? k = some process

theorem leasesKept_refl (t : Table RegisteredProcess.processId) : LeasesKept t t := ⟨fun hp _ => hp⟩

theorem leasesKept_register (config : ProcessConfig) : LeasesKept r.processes (r.register config).processes where
  of_active hp hactive := by
    obtain hp | ⟨rfl, -, -⟩ := Table.insert_cases hp
    · exact hp
    · cases hactive

inductive Binds (t : Table RegisteredProcess.processId) (b : Bind) : Registry × Bool × Except String Auth → Prop
  | refused {r' error} (hleases : LeasesKept t r'.processes) : Binds t b (r', false, .error error)
  | failed {r' error} (hleases : LeasesAfter t r'.processes b.config.processId none) : Binds t b (r', true, .error error)
  | granted {r' root runTmp generation} (hleases : LeasesAfter t r'.processes b.config.processId
      (some (b.config.processToken, b.lease root runTmp generation))) :
      Binds t b (r', true, .ok (b.auth (b.lease root runTmp generation)))

theorem LeasesKept.after {granted : Option (String × ActiveLease)} (h : LeasesKept t t') (h' : LeasesAfter t' t'' processId granted) :
    LeasesAfter t t'' processId granted where
  of_active hp hactive := by
    obtain ⟨hne, hp'⟩ | hgranted := h'.of_active hp hactive
    · exact .inl ⟨hne, h.of_active hp' hactive⟩
    · exact .inr hgranted

theorem Grants.binds {result : Registry × Except String Auth} (h : Grants t b process result)
    (hid : process.processId = b.config.processId) (htoken : process.processToken = b.config.processToken)
    (hbefore : ∀ {t'' granted}, LeasesAfter t t'' process.processId granted → LeasesAfter t' t'' process.processId granted) :
    Binds t' b (result.1, true, result.2) := by
  cases h with
  | failed hleases => exact .failed (hid ▸ hbefore hleases)
  | granted hleases =>
    refine .granted ?_
    have h := hbefore hleases
    rwa [hid, htoken] at h

theorem binds_bind (b : Bind) (root : String) : Binds r.processes b (r.bind b root) := by
  have hregister : LeasesKept r.processes (r.register b.config).processes := leasesKept_register b.config
  unfold Registry.bind
  split
  · exact .refused (leasesKept_refl _)
  split
  · exact .refused (leasesKept_refl _)
  rename_i process hp
  have hid := Table.key_of_find? hp
  split
  · exact .refused hregister
  rename_i htoken
  have htoken := not_not.1 htoken
  have hp' : (r.register b.config).processes.find? process.processId = some process := Table.find?_key hp
  split
  · rename_i hnone
    exact (grants_grant _ process hp' hnone).binds hid htoken (fun h => hregister.after h)
  · split
    · exact .refused hregister
    have hcleared := leasesAfter_update hp' (setActive none) (fun _ => rfl)
    split
    · exact .failed (hid ▸ hregister.after hcleared)
    rename_i disk _
    have hfound := Table.find?_update_self hp' (setActive none) (fun _ => rfl)
    exact (grants_grant ⟨_, disk⟩ (setActive none process) hfound rfl).binds hid htoken
      (fun h => hregister.after (hcleared.trans h))

/-! ## What a step leaves of the leases -/

def Outcome.revokes (processId agentRunId : String) (executionEpoch : Int) : Outcome → Bool
  | .bind b passed _ => passed && b.config.processId == processId
  | .unbind id run epoch => id == processId && run == agentRunId && epoch == executionEpoch
  | .unregister id => id == processId
  | .fenceAll _ => true
  | .refreshTasks _ | .authenticate _ _ | .authForExecution _ | .replay _ _ _ _ | .record _ _ _ _ _ | .quiet => false

inductive LeaseStep (t : Table RegisteredProcess.processId) (o : Outcome) (process' : RegisteredProcess) (lease' : ActiveLease) :
    Prop
  | kept (hp : t.find? process'.processId = some process') (hactive : process'.active = some lease')
      (hrevokes : o.revokes process'.processId lease'.agentRunId lease'.executionEpoch = false)
  | granted {b root runTmp generation} (ho : o = .bind b true (.ok (authOf process' lease')))
      (hid : b.config.processId = process'.processId) (hlease : lease' = b.lease root runTmp generation)
  | recorded {process lease requestId requestDigest envelope} (hp : t.find? process'.processId = some process)
      (hactive : process.active = some lease) (htoken : process'.processToken = process.processToken)
      (ho : o = .record (authOf process lease) requestId requestDigest envelope (.ok ()))
      (hlease : lease' = recordReplay requestId requestDigest envelope lease)

def LeaseSteps (t t' : Table RegisteredProcess.processId) (o : Outcome) : Prop :=
  ∀ k process' lease', t'.find? k = some process' → process'.active = some lease' → LeaseStep t o process' lease'

theorem LeasesKept.steps {o : Outcome} (h : LeasesKept t t') (ho : ∀ id run epoch, o.revokes id run epoch = false) :
    LeaseSteps t t' o := fun _ _ _ hp hactive =>
  .kept (Table.find?_key (h.of_active hp hactive)) hactive (ho _ _ _)

theorem Binds.steps {result : Registry × Bool × Except String Auth} (h : Binds t b result) :
    LeaseSteps t result.1.processes (.bind b result.2.1 result.2.2) := by
  intro k process' lease' hp hactive
  have hother : ∀ {passed result}, k ≠ b.config.processId →
      Outcome.revokes process'.processId lease'.agentRunId lease'.executionEpoch (.bind b passed result) = false := by
    intro passed result hne
    have hne' : b.config.processId ≠ process'.processId := fun he => hne ((Table.key_of_find? hp).symm.trans he.symm)
    simp [Outcome.revokes, hne']
  cases h with
  | refused hleases => exact .kept (Table.find?_key (hleases.of_active hp hactive)) hactive rfl
  | failed hleases =>
    obtain ⟨hne, hp'⟩ | ⟨-, hgranted⟩ := hleases.of_active hp hactive
    · exact .kept (Table.find?_key hp') hactive (hother hne)
    · cases hgranted
  | granted hleases =>
    obtain ⟨hne, hp'⟩ | ⟨rfl, hgranted⟩ := hleases.of_active hp hactive
    · exact .kept (Table.find?_key hp') hactive (hother hne)
    obtain ⟨htoken, rfl⟩ := Prod.mk.inj (Option.some.inj hgranted)
    have hid : b.config.processId = process'.processId := (Table.key_of_find? hp).symm
    refine .granted ?_ hid rfl
    dsimp only
    unfold Bind.auth authOf
    rw [hid, htoken]

theorem unbind_steps (processId agentRunId : String) (executionEpoch : Int) (clearFault : Option WriteFault)
    (tmpFaults : TmpFaults) (retiredName : String) :
    LeaseSteps r.processes (r.unbind processId agentRunId executionEpoch clearFault tmpFaults retiredName).processes
      (.unbind processId agentRunId executionEpoch) := by
  intro k process' lease' hp hactive
  have hself := Table.find?_key hp
  have hid := Table.key_of_find? hp
  unfold Registry.unbind at hp
  split at hp
  · rename_i hnone
    have hne : processId ≠ process'.processId := by
      rintro rfl
      rw [hid, hp] at hnone
      cases hnone
    exact .kept (hid ▸ hp) hactive (by simp [Outcome.revokes, hne])
  · rename_i process hprocess
    by_cases hk : k = processId
    · subst hk
      split at hp
      · rename_i hbound
        rw [hprocess] at hp
        cases hp
        refine .kept (hid ▸ hprocess) hactive ?_
        unfold isBoundTo at hbound
        rw [hactive, Option.any_some] at hbound
        simp only [Bool.not_eq_true', Bool.and_eq_false_iff, beq_eq_false_iff_ne] at hbound
        unfold Outcome.revokes
        obtain hne | hne := hbound
        · simp [Ne.symm hne]
        · simp [Ne.symm hne]
      · have hcleared := (Table.find?_update_self hprocess (setActive none) (fun _ => rfl)).symm.trans hp
        cases hcleared
        cases hactive
    · have hne : processId ≠ process'.processId := fun he => hk (hid.symm.trans he.symm)
      refine .kept ?_ hactive (by simp [Outcome.revokes, hne])
      split at hp
      · exact hid ▸ hp
      have hp := (Table.find?_update_of_ne _ hk (setActive none) (fun _ => rfl)).symm.trans hp
      exact hid ▸ hp

theorem remove_steps (processId : String) :
    LeaseSteps r.processes (r.remove processId).processes (.unregister processId) := by
  intro k process' lease' hp hactive
  have hid := Table.key_of_find? hp
  unfold Registry.remove at hp
  rw [Table.find?_deleteWhere, Option.filter_eq_some_iff] at hp
  refine .kept (hid ▸ hp.1) hactive ?_
  have hne : process'.processId ≠ processId := by simpa using hp.2
  simp [Outcome.revokes, Ne.symm hne]

theorem fenceAll_steps (faults : String → FenceFaults) :
    LeaseSteps r.processes (r.fenceAll faults).1.processes (.fenceAll (r.fenceAll faults).2) := by
  intro k process' lease' hp hactive
  unfold Registry.fenceAll at hp
  dsimp only at hp
  have hp := (Table.find?_updateWhere _ (fun _ => true) (setActive none) (fun _ => rfl) k).symm.trans hp
  obtain ⟨process, -, rfl⟩ := Option.map_eq_some_iff.1 hp
  cases hactive

theorem record_steps (auth : Auth) (requestId requestDigest : String) (envelope : Json) :
    LeaseSteps r.processes (r.record auth requestId requestDigest envelope).1.processes
      (.record auth requestId requestDigest envelope (r.record auth requestId requestDigest envelope).2) := by
  unfold Registry.record
  split
  · exact (leasesKept_refl _).steps (fun _ _ _ => rfl)
  rename_i lease hlease
  split
  · split
    · exact (leasesKept_refl _).steps (fun _ _ _ => rfl)
    · exact (leasesKept_refl _).steps (fun _ _ _ => rfl)
  · obtain ⟨process, hprocess, hactive, hauth⟩ := activeLease_eq_ok.1 hlease
    intro k process' lease' hp hactive'
    have hid := Table.key_of_find? hp
    dsimp only at hp
    by_cases hk : k = auth.processId
    · subst hk
      have hrecorded := (Table.find?_update_self hprocess (setActive (some _)) (fun _ => rfl)).symm.trans hp
      cases hrecorded
      cases hactive'
      have hprocess : r.processes.find? process.processId = some process := Table.find?_key hprocess
      exact .recorded hprocess hactive rfl (congrArg (Outcome.record · requestId requestDigest envelope (.ok ())) hauth.symm) rfl
    · have hp := (Table.find?_update_of_ne _ hk (setActive (some _)) (fun _ => rfl)).symm.trans hp
      exact .kept (hid ▸ hp) hactive' rfl

/-- **A step accounts for every lease.** -/
theorem step_leases (s : State) (a : Action) :
    LeaseSteps s.registry.processes (s.step a).1.registry.processes (s.step a).2 := by
  have hquiet : LeaseSteps s.registry.processes s.registry.processes .quiet := (leasesKept_refl _).steps (fun _ _ _ => rfl)
  have hrefused : ∀ b error, LeaseSteps s.registry.processes s.registry.processes (.bind b false (.error error)) :=
    fun b error => (leasesKept_refl _).steps (fun _ _ _ => rfl)
  cases a with
  | take c =>
    unfold State.step
    dsimp only
    split
    · split
      · exact hrefused _ _
      · split <;> exact hquiet
    · split <;> exact hquiet
  | giveUp =>
    unfold State.step
    dsimp only
    split <;> exact hquiet
  | enter =>
    unfold State.step
    dsimp only
    split
    · exact hquiet
    · rename_i c _
      unfold State.runSection
      split
      · split
        · exact hrefused _ _
        · exact (binds_bind _ _).steps
      · exact unbind_steps _ _ _ _ _ _
      · exact remove_steps _
      · exact fenceAll_steps _
      · exact hquiet
    · exact hquiet
  | record auth requestId requestDigest envelope => exact record_steps auth requestId requestDigest envelope
  | _ => exact (leasesKept_refl _).steps (fun _ _ _ => rfl)

/-! ## Runs -/

def recorded (w : State × List Outcome) (a : Action) : State × List Outcome :=
  ((w.1.step a).1, (w.1.step a).2 :: w.2)

def run (disk : Disk) (actions : List Action) : State × List Outcome :=
  actions.foldl recorded (State.initial disk, [])

structure Stands (history : List Outcome) (auth : Auth) (lease : ActiveLease) (b : Bind) (later earlier : List Outcome) : Prop where
  history : history = later ++ .bind b true (.ok auth) :: earlier
  processId : b.config.processId = auth.processId
  agentRunId : lease.agentRunId = b.agentRunId
  executionEpoch : lease.executionEpoch = b.executionEpoch
  nativeBinding : lease.nativeBinding = b.nativeBinding
  unrevoked : ∀ o ∈ later, o.revokes auth.processId b.agentRunId b.executionEpoch = false
  replays : ∀ request entry, (request, entry) ∈ lease.replay →
    .record auth request entry.requestDigest entry.envelope (.ok ()) ∈ later

def AllStand (w : State × List Outcome) : Prop :=
  ∀ k process lease, w.1.registry.processes.find? k = some process → process.active = some lease →
    ∃ b later earlier, Stands w.2 (authOf process lease) lease b later earlier

theorem expireReplay_subset : ∀ (order : List String) (entries : List (String × ReplayEntry)) {entry : String × ReplayEntry},
    entry ∈ (expireReplay order entries).2 → entry ∈ entries
  | [], _, _, h => h
  | requestId :: order, entries, _, h => by
    unfold expireReplay at h
    split at h
    · exact (mem_filter.1 (expireReplay_subset order _ h)).1
    · exact h

theorem mem_recordReplay {requestId requestDigest : String} {envelope : Json} {entry : String × ReplayEntry}
    (h : entry ∈ (recordReplay requestId requestDigest envelope lease).replay) :
    entry = (requestId, ⟨requestDigest, envelope⟩) ∨ entry ∈ lease.replay :=
  mem_cons.1 (expireReplay_subset _ _ h)

theorem allStand_recorded (a : Action) (w : State × List Outcome) (h : AllStand w) : AllStand (recorded w a) := by
  intro k process' lease' hp hactive
  cases step_leases w.1 a _ _ _ hp hactive with
  | kept hp₀ hactive₀ hrevokes =>
    obtain ⟨b, later, earlier, hstands⟩ := h _ _ _ hp₀ hactive₀
    refine ⟨b, (w.1.step a).2 :: later, earlier, ?_⟩
    exact { hstands with
      history := congrArg _ hstands.history
      unrevoked := forall_mem_cons.2 ⟨by rw [← hstands.agentRunId, ← hstands.executionEpoch]; exact hrevokes, hstands.unrevoked⟩
      replays := fun request entry hentry => mem_cons_of_mem _ (hstands.replays request entry hentry) }
  | @granted b root runTmp generation ho hid hlease =>
    refine ⟨b, [], w.2, ?_⟩
    subst hlease
    exact { history := congrArg (· :: w.2) ho, processId := hid, agentRunId := rfl, executionEpoch := rfl, nativeBinding := rfl
            unrevoked := forall_mem_nil _, replays := fun _ _ h => absurd h not_mem_nil }
  | @recorded process lease requestId requestDigest envelope hp₀ hactive₀ htoken ho hlease =>
    obtain ⟨b, later, earlier, hstands⟩ := h _ _ _ hp₀ hactive₀
    subst hlease
    have hauth : authOf process' (recordReplay requestId requestDigest envelope lease) = authOf process lease := by
      have hid := Table.key_of_find? hp₀
      unfold authOf
      rw [htoken, ← hid]
      rfl
    rw [hauth]
    refine ⟨b, (w.1.step a).2 :: later, earlier, ?_⟩
    exact {
      history := congrArg _ hstands.history
      processId := hstands.processId
      agentRunId := hstands.agentRunId
      executionEpoch := hstands.executionEpoch
      nativeBinding := hstands.nativeBinding
      unrevoked := forall_mem_cons.2 ⟨by rw [ho]; rfl, hstands.unrevoked⟩
      replays := fun request entry hentry => by
        obtain heq | hentry := mem_recordReplay hentry
        · cases heq
          rw [ho]
          exact mem_cons_self
        · exact mem_cons_of_mem _ (hstands.replays request entry hentry) }

theorem allStand_run (disk : Disk) (actions : List Action) : AllStand (run disk actions) :=
  Runs.run_invariant recorded (fun w a h => allStand_recorded a w h) actions _ (fun _ _ _ hp => nomatch hp)

/-! ## A lease speaks for one Run -/

def Answers (r : Registry) (auth : Auth) : Prop :=
  (∃ invocation, r.authenticate auth = .ok invocation) ∨
    (∃ requestId requestDigest, r.replay auth requestId requestDigest ≠ .error runNotBound) ∨
      ∃ requestId requestDigest envelope, (r.record auth requestId requestDigest envelope).2 ≠ .error runNotBound

theorem Answers.accepts (h : Answers r auth) : ∃ lease, Accepts r auth lease := by
  obtain ⟨invocation, h⟩ | ⟨requestId, requestDigest, h⟩ | ⟨requestId, requestDigest, envelope, h⟩ := h
  · obtain ⟨lease, hlease, -⟩ := authenticate_eq_ok.1 h
    exact ⟨lease, hlease⟩
  · exact accepts_of_replay h
  · exact accepts_of_record h

structure SpeaksFor (w : State × List Outcome) (auth : Auth) (b : Bind) (later earlier : List Outcome) : Prop where
  history : w.2 = later ++ .bind b true (.ok auth) :: earlier
  processId : b.config.processId = auth.processId
  unrevoked : ∀ o ∈ later, o.revokes auth.processId b.agentRunId b.executionEpoch = false
  authenticates : ∃ runTmp, w.1.registry.authenticate auth = .ok ⟨b.agentRunId, b.executionEpoch, b.nativeBinding, runTmp⟩
  replays : ∀ requestId requestDigest envelope, w.1.registry.replay auth requestId requestDigest = .ok (some envelope) →
    .record auth requestId requestDigest envelope (.ok ()) ∈ later
  records : ∀ requestId requestDigest envelope auth',
    (w.1.registry.record auth requestId requestDigest envelope).1.authenticate auth' = w.1.registry.authenticate auth' ∧
      (auth' ≠ auth → ∀ requestId' requestDigest',
        (w.1.registry.record auth requestId requestDigest envelope).1.replay auth' requestId' requestDigest' =
          w.1.registry.replay auth' requestId' requestDigest')

theorem AllStand.speaksFor {w : State × List Outcome} (hw : AllStand w) (h : Accepts w.1.registry auth lease) :
    ∃ b later earlier, SpeaksFor w auth b later earlier := by
  obtain ⟨process, hp, hactive, hauth⟩ := id h
  obtain ⟨b, later, earlier, hstands⟩ := hw _ _ _ hp hactive
  rw [hauth] at hstands
  have hauthorized : authorized lease = ⟨b.agentRunId, b.executionEpoch, b.nativeBinding, lease.runTmp⟩ := by
    unfold authorized
    rw [hstands.agentRunId, hstands.executionEpoch, hstands.nativeBinding]
  exact ⟨b, later, earlier, {
    history := hstands.history
    processId := hstands.processId
    unrevoked := hstands.unrevoked
    authenticates := ⟨lease.runTmp, authenticate_eq_ok.2 ⟨lease, h, hauthorized.symm⟩⟩
    replays := fun requestId requestDigest envelope hreplay => hstands.replays _ _ (replay_eq_some hreplay h)
    records := fun requestId requestDigest envelope auth' =>
      ⟨authenticate_record _ auth auth' requestId requestDigest envelope,
        fun hne => replay_record_of_ne _ auth hne requestId requestDigest envelope⟩ }⟩

theorem bind_of_other (b : Bind) (root : String) (hp : r.processes.find? b.config.processId = some process)
    (hactive : process.active = some lease) (hother : lease.agentRunId ≠ b.agentRunId ∨ lease.executionEpoch ≠ b.executionEpoch) :
    ∃ error, r.bind b root = (r, false, .error error) := by
  have hregister : r.register b.config = r := by
    unfold Registry.register
    rw [Table.insert_of_taken hp]
  unfold Registry.bind
  split
  · exact ⟨_, rfl⟩
  rw [hregister, hp]
  dsimp only
  split
  · exact ⟨_, rfl⟩
  rw [hactive]
  dsimp only
  rw [if_pos hother]
  exact ⟨_, rfl⟩

variable {s : State}

theorem enter_bind_of_other (hgate : s.gate = some (.call (.bind b)))
    (hp : s.registry.processes.find? b.config.processId = some process) (hactive : process.active = some lease)
    (hother : lease.agentRunId ≠ b.agentRunId ∨ lease.executionEpoch ≠ b.executionEpoch) :
    ∃ error, s.step .enter = ({ s with gate := none }, .bind b false (.error error)) := by
  unfold State.step
  rw [hgate]
  dsimp only
  unfold State.runSection
  dsimp only
  split
  · exact ⟨_, rfl⟩
  rename_i root _
  obtain ⟨error, hbind⟩ := bind_of_other b root hp hactive hother
  rw [hbind]
  exact ⟨error, rfl⟩

variable {epoch : Int}

theorem enter_unbind_of_other {processId run : String} {clearFault : Option WriteFault}
    {tmpFaults : TmpFaults} {retiredName : String}
    (hgate : s.gate = some (.call (.unbind processId run epoch clearFault tmpFaults retiredName)))
    (hp : s.registry.processes.find? processId = some process) (hactive : process.active = some lease)
    (hother : lease.agentRunId ≠ run ∨ lease.executionEpoch ≠ epoch) :
    s.step .enter = ({ s with gate := none }, .unbind processId run epoch) := by
  have hbound : isBoundTo run epoch process = false := by
    unfold isBoundTo
    rw [hactive, Option.any_some, Bool.and_eq_false_iff, beq_eq_false_iff_ne, beq_eq_false_iff_ne]
    exact hother
  have hsame : s.registry.unbind processId run epoch clearFault tmpFaults retiredName = s.registry := by
    unfold Registry.unbind
    rw [hp]
    dsimp only
    rw [hbound]
    rfl
  unfold State.step
  rw [hgate]
  dsimp only
  unfold State.runSection
  dsimp only
  rw [hsame]

theorem accepts_of_failed_bind {a : Action} {passed : Bool} {error : String}
    (ho : (s.step a).2 = .bind b passed (.error error)) (h : Accepts (s.step a).1.registry auth lease) :
    Accepts s.registry auth lease ∧ (passed = true → auth.processId ≠ b.config.processId) := by
  obtain ⟨process, hp, hactive, hauth⟩ := h
  have hid := Table.key_of_find? hp
  cases step_leases s a _ _ _ hp hactive with
  | kept hp₀ hactive₀ hrevokes =>
    refine ⟨⟨process, hid ▸ hp₀, hactive, hauth⟩, fun hpassed => ?_⟩
    rw [ho, hpassed, hid] at hrevokes
    exact fun he => by simp [Outcome.revokes, he] at hrevokes
  | granted ho' =>
    rw [ho] at ho'
    cases ho'
  | recorded _ _ _ ho' =>
    rw [ho] at ho'
    cases ho'

theorem mem_executionAuths {run : String} {binding : String} {generation : Int} :
    auth ∈ r.executionAuths run epoch binding generation ↔
      ∃ lease, Accepts r auth lease ∧ executes run epoch binding generation lease = true := by
  unfold Registry.executionAuths
  rw [mem_filterMap]
  constructor
  · rintro ⟨process, hmem, hauth⟩
    obtain ⟨lease, hactive, hauth⟩ := Option.bind_eq_some_iff.1 hauth
    split at hauth
    · rename_i hexecutes
      cases hauth
      exact ⟨lease, ⟨process, Table.find?_of_mem hmem, hactive, rfl⟩, hexecutes⟩
    · cases hauth
  · rintro ⟨lease, ⟨process, hp, hactive, hauth⟩, hexecutes⟩
    refine ⟨process, Table.mem_of_find? hp, Option.bind_eq_some_iff.2 ⟨lease, hactive, ?_⟩⟩
    rw [if_pos hexecutes, hauth]

theorem authForExecution_eq_ok {run : String} {binding : String} {generation : Int}
    (h : r.authForExecution run epoch binding generation = .ok auth) :
    (∃ lease, Accepts r auth lease ∧ executes run epoch binding generation lease = true) ∧
      ∀ auth' lease', Accepts r auth' lease' → executes run epoch binding generation lease' = true → auth' = auth := by
  unfold Registry.authForExecution at h
  split at h
  · rename_i auth₀ hauths
    cases h
    refine ⟨mem_executionAuths.1 (by rw [hauths]; exact mem_singleton_self _), fun auth' lease' hlease' hexecutes => ?_⟩
    have hmem := mem_executionAuths.2 ⟨lease', hlease', hexecutes⟩
    rw [hauths] at hmem
    exact mem_singleton.1 hmem
  · cases h

/-- **A tool lease speaks for one Run.**  An accepted auth is the one that the last bind of its process returned, with nothing
since then that withdraws the lease, and acts on that bind's execution; a process has one lease, which other Runs and epochs
cannot disturb; a failed bind leaves no lease of its own, and the auth for an execution is that of its only lease. -/
theorem lease_speaks_for_one_run (disk : Disk) (actions : List Action) :
    (∀ auth, Answers (run disk actions).1.registry auth → ∃ b later earlier, SpeaksFor (run disk actions) auth b later earlier) ∧
    ((∀ auth auth', Answers (run disk actions).1.registry auth → Answers (run disk actions).1.registry auth' →
        auth.processId = auth'.processId → auth = auth') ∧
      (∀ b process lease, (run disk actions).1.gate = some (.call (.bind b)) →
        (run disk actions).1.registry.processes.find? b.config.processId = some process → process.active = some lease →
        lease.agentRunId ≠ b.agentRunId ∨ lease.executionEpoch ≠ b.executionEpoch →
        ∃ error, (run disk actions).1.step .enter = ({ (run disk actions).1 with gate := none }, .bind b false (.error error))) ∧
      (∀ processId agentRunId epoch clearFault tmpFaults retiredName process lease,
        (run disk actions).1.gate = some (.call (.unbind processId agentRunId epoch clearFault tmpFaults retiredName)) →
        (run disk actions).1.registry.processes.find? processId = some process → process.active = some lease →
        lease.agentRunId ≠ agentRunId ∨ lease.executionEpoch ≠ epoch →
        (run disk actions).1.step .enter = ({ (run disk actions).1 with gate := none }, .unbind processId agentRunId epoch))) ∧
    ((∀ a b passed error, ((run disk actions).1.step a).2 = .bind b passed (.error error) →
        ∀ auth, Answers ((run disk actions).1.step a).1.registry auth →
          Answers (run disk actions).1.registry auth ∧ (passed = true → auth.processId ≠ b.config.processId)) ∧
      (∀ agentRunId epoch binding generation auth,
        (run disk actions).1.registry.authForExecution agentRunId epoch binding generation = .ok auth →
        (∃ lease, Accepts (run disk actions).1.registry auth lease ∧ executes agentRunId epoch binding generation lease = true) ∧
          ∀ auth' lease', Accepts (run disk actions).1.registry auth' lease' →
            executes agentRunId epoch binding generation lease' = true → auth' = auth)) := by
  refine ⟨?_, ⟨?_, ?_, ?_⟩, ?_, ?_⟩
  · intro auth hanswers
    obtain ⟨lease, hlease⟩ := hanswers.accepts
    exact (allStand_run disk actions).speaksFor hlease
  · intro auth auth' hanswers hanswers' hprocess
    obtain ⟨lease, hlease⟩ := hanswers.accepts
    obtain ⟨lease', hlease'⟩ := hanswers'.accepts
    exact (hlease.unique hlease' hprocess).1
  · intro b process lease hgate hp hactive hother
    exact enter_bind_of_other hgate hp hactive hother
  · intro processId agentRunId epoch clearFault tmpFaults retiredName process lease hgate hp hactive hother
    exact enter_unbind_of_other hgate hp hactive hother
  · intro a b passed error ho auth hanswers
    obtain ⟨lease, hlease⟩ := hanswers.accepts
    obtain ⟨hbefore, hprocess⟩ := accepts_of_failed_bind ho hlease
    exact ⟨.inl ⟨_, authenticate_eq_ok.2 ⟨lease, hbefore, rfl⟩⟩, hprocess⟩
  · intro agentRunId epoch binding generation auth hauth
    exact authForExecution_eq_ok hauth

end Rovai.ToolLeases
