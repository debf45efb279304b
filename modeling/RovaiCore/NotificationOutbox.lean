import Mathlib
import RovaiCore.Fallible
import RovaiCore.Runs
import RovaiCore.Tables
/-!
# The notification outbox (`automation.rs`)

A finished AutomationRun queues one delivery for each of its channels.
-/
namespace Rovai.Automation

open Tables (Table)
open List
open Fallible (orError orError_eq_ok bind_eq_ok guard_eq_ok)

/-! ## Rows -/

inductive DeliveryStatus where
  | pending | attempting | sent | failed
  deriving DecidableEq

inductive AutomationNotifyChannel where
  | feishu | dingtalk | lark

def AutomationNotifyChannel.asStr : AutomationNotifyChannel → String
  | .feishu => "feishu"
  | .dingtalk => "dingtalk"
  | .lark => "lark"

structure NotificationDelivery where
  (id automationRunId provider memberId : String)
  body : Option String
  status : DeliveryStatus
  attemptCount : Nat
  availableAt : Int
  leaseOwner : Option String
  leaseExpiresAt : Option Int
  (externalDeliveryMessageId failureCode : Option String)
  (createdAt updatedAt : Int)
  endedAt : Option Int

abbrev Outbox := Table NotificationDelivery.id

def timestamp (value : Int) : Int := value / 1000000000

def second : Int := 1000000000

/-! ## Targets -/

structure MemberBot where
  (provider agentId accountId appId credentialRef : String)
  published : Bool

structure OwnerIdentity where
  (provider accountId canonicalOwnerPrincipalId : String)

structure OwnerAppIdentity where
  (provider accountId appId : String)

structure PrincipalAppIdentity where
  (principalId provider appId identityKind externalId : String)

/-- The tables of the connected bots; each provider's own table is the rows of that provider. -/
structure Bots where
  memberBots : List MemberBot
  owners : List OwnerIdentity
  ownerApps : List OwnerAppIdentity
  identities : List PrincipalAppIdentity

structure NotificationTarget where
  (appId credentialRef ownerExternalId : String)

def identityKind (provider : String) : String :=
  if provider = "feishu" ∨ provider = "lark" then "open_id" else "user_id"

def notificationTarget (bots : Bots) (provider memberId : String) : Option NotificationTarget :=
  (bots.memberBots.flatMap fun bot =>
    if bot.provider = provider ∧ bot.agentId = memberId ∧ bot.published then
      bots.owners.flatMap fun owner =>
        if owner.provider = provider ∧ owner.accountId = bot.accountId then
          bots.ownerApps.flatMap fun app =>
            if app.provider = provider ∧ app.accountId = bot.accountId ∧ app.appId = bot.appId then
              bots.identities.filterMap fun identity =>
                if identity.principalId = owner.canonicalOwnerPrincipalId ∧ identity.provider = provider ∧
                    identity.appId = bot.appId ∧ identity.identityKind = identityKind provider then
                  some { appId := bot.appId, credentialRef := bot.credentialRef, ownerExternalId := identity.externalId }
                else none
            else []
        else []
    else []).head?

/-! ## Queueing -/

def queueDelivery (outbox : Outbox) (id automationRunId : String) (channel : AutomationNotifyChannel)
    (memberId body : String) (now : Int) : Outbox :=
  if outbox.any (fun d => d.automationRunId = automationRunId ∧ d.provider = channel.asStr) then outbox
  else outbox.insert
    { id, automationRunId, provider := channel.asStr, memberId, body := some body, status := .pending, attemptCount := 0,
      availableAt := timestamp now, leaseOwner := none, leaseExpiresAt := none, externalDeliveryMessageId := none,
      failureCode := none, createdAt := timestamp now, updatedAt := timestamp now, endedAt := none }

/-! ## Claiming -/

structure DeliveryPayload where
  presentationVersion : Nat
  (agentId body : String)

structure ClaimedChannelDelivery where
  (deliveryId provider : String)
  requestId : Option String
  (deliveryKind targetAppId credentialRef chatId topicKey conversationKind : String)
  payload : DeliveryPayload
  attemptCount : Nat
  (updateMessageId recallMessageId recipientOpenId : Option String)

def NotificationDelivery.expired (d : NotificationDelivery) (provider : String) (now : Int) : Bool :=
  d.provider = provider && d.status = .attempting && d.leaseExpiresAt.any (· ≤ timestamp now)

def NotificationDelivery.takeBack (d : NotificationDelivery) (now : Int) : NotificationDelivery :=
  { d with
    status := if 3 ≤ d.attemptCount then .failed else .pending
    leaseOwner := none
    leaseExpiresAt := none
    failureCode := d.failureCode.or (some "lease_expired")
    availableAt := timestamp now
    endedAt := if 3 ≤ d.attemptCount then some (timestamp now) else none
    updatedAt := timestamp now }

@[simp] theorem NotificationDelivery.takeBack_id (d : NotificationDelivery) (now : Int) : (d.takeBack now).id = d.id := rfl

def takeBackExpired (outbox : Outbox) (provider : String) (now : Int) : Outbox :=
  outbox.updateWhere (fun d => d.expired provider now) (fun d => d.takeBack now) (fun d => d.takeBack_id now)

def claimOrder (a b : NotificationDelivery) : Prop :=
  a.availableAt < b.availableAt ∨ a.availableAt = b.availableAt ∧
    (a.createdAt < b.createdAt ∨ a.createdAt = b.createdAt ∧ ¬ b.id < a.id)

instance : DecidableRel claimOrder := fun _ _ => inferInstanceAs (Decidable (_ ∨ _))

def claimableIds (outbox : Outbox) (provider : String) (limit : Nat) (now : Int) : List String :=
  (((outbox.rows.filter fun d => d.provider = provider ∧ d.status = .pending ∧ d.availableAt ≤ timestamp now).insertionSort
    claimOrder).take limit).map NotificationDelivery.id

def NotificationDelivery.disconnect (d : NotificationDelivery) (now : Int) : NotificationDelivery :=
  { d with
    status := .failed
    failureCode := some "target_bot_not_connected"
    endedAt := some (timestamp now)
    updatedAt := timestamp now }

@[simp] theorem NotificationDelivery.disconnect_id (d : NotificationDelivery) (now : Int) : (d.disconnect now).id = d.id :=
  rfl

def NotificationDelivery.lease (d : NotificationDelivery) (workerId : String) (now : Int) : NotificationDelivery :=
  { d with
    status := .attempting
    attemptCount := d.attemptCount + 1
    leaseOwner := some workerId
    leaseExpiresAt := some (timestamp (now + 30 * second))
    updatedAt := timestamp now }

@[simp] theorem NotificationDelivery.lease_id (d : NotificationDelivery) (workerId : String) (now : Int) :
    (d.lease workerId now).id = d.id := rfl

def updatePending (outbox : Outbox) (id : String) (f : NotificationDelivery → NotificationDelivery)
    (hf : ∀ d, (f d).id = d.id) : Outbox :=
  outbox.updateWhere (fun d => d.id = id && d.status = .pending) f hf

def claimedDelivery (d : NotificationDelivery) (target : NotificationTarget) (provider body : String) :
    ClaimedChannelDelivery :=
  { deliveryId := d.id, provider, requestId := none, deliveryKind := "agent_output", targetAppId := target.appId,
    credentialRef := target.credentialRef, chatId := target.ownerExternalId, topicKey := "", conversationKind := "p2p",
    payload :=
      { presentationVersion := if provider = "feishu" ∨ provider = "lark" then 1 else 2, agentId := d.memberId, body },
    attemptCount := d.attemptCount + 1, updateMessageId := none, recallMessageId := none,
    recipientOpenId := some target.ownerExternalId }

def claimDelivery (bots : Bots) (provider workerId : String) (now : Int) (outbox : Outbox) (deliveryId : String) :
    Except String (Outbox × List ClaimedChannelDelivery) := do
  let d ← orError (outbox.find? deliveryId) "Query returned no rows"
  match notificationTarget bots provider d.memberId with
  | none => .ok (updatePending outbox deliveryId (fun d => d.disconnect now) (fun d => d.disconnect_id now), [])
  | some target =>
    if outbox.any (fun d => d.id = deliveryId ∧ d.status = .pending) then do
      let body ← orError d.body "Automation notification has no body"
      .ok (updatePending outbox deliveryId (fun d => d.lease workerId now) (fun d => d.lease_id workerId now),
        [claimedDelivery d target provider body])
    else .ok (outbox, [])

def claimEach (bots : Bots) (provider workerId : String) (now : Int) :
    List String → Outbox → Except String (Outbox × List ClaimedChannelDelivery)
  | [], outbox => .ok (outbox, [])
  | deliveryId :: rest, outbox => do
    let (outbox, claim) ← claimDelivery bots provider workerId now outbox deliveryId
    let (outbox, claims) ← claimEach bots provider workerId now rest outbox
    .ok (outbox, claim ++ claims)

def claimNotificationDeliveries (outbox : Outbox) (bots : Bots) (provider workerId : String) (limit : Nat) (now : Int) :
    Except String (Outbox × List ClaimedChannelDelivery) :=
  if limit = 0 ∨ ¬ (provider = "feishu" ∨ provider = "lark" ∨ provider = "dingtalk") then .ok (outbox, [])
  -- `i64::try_from(limit)?`
  else if 2 ^ 63 ≤ limit then .error "out of range integral type conversion attempted"
  else
    let outbox := takeBackExpired outbox provider now
    claimEach bots provider workerId now (claimableIds outbox provider limit now) outbox

/-! ## Settling -/

inductive DeliveryOutcome where
  | sent | failed
  deriving DecidableEq

def DeliveryOutcome.status : DeliveryOutcome → DeliveryStatus
  | .sent => .sent
  | .failed => .failed

inductive SettleResult where
  | notFound
  | alreadyTerminal (status : DeliveryStatus)
  | leaseMismatch
  | retryScheduled (availableAt : Int)
  | settled (status : DeliveryStatus)

def SettleResult.code : SettleResult → String
  | .notFound => "channel.delivery.not_found"
  | .alreadyTerminal _ => "channel.delivery.already_terminal"
  | .leaseMismatch => "channel.delivery.lease_mismatch"
  | .retryScheduled _ => "channel.delivery.retry_scheduled"
  | .settled _ => "channel.delivery.settled"

structure SettleCommand where
  (deliveryId workerId : String)
  outcome : DeliveryOutcome
  (externalDeliveryMessageId failureCode : Option String)
  retryable : Bool

def retryAt (attemptCount : Nat) (now : Int) : Int := timestamp (now + 2 ^ min attemptCount 5 * second)

def NotificationDelivery.retry (d : NotificationDelivery) (c : SettleCommand) (availableAt now : Int) : NotificationDelivery :=
  { d with
    status := .pending
    availableAt := availableAt
    leaseOwner := none
    leaseExpiresAt := none
    failureCode := c.failureCode
    updatedAt := timestamp now }

@[simp] theorem NotificationDelivery.retry_id (d : NotificationDelivery) (c : SettleCommand) (availableAt now : Int) :
    (d.retry c availableAt now).id = d.id := rfl

def NotificationDelivery.settle (d : NotificationDelivery) (c : SettleCommand) (now : Int) : NotificationDelivery :=
  { d with
    status := c.outcome.status
    externalDeliveryMessageId := c.externalDeliveryMessageId
    failureCode := c.failureCode
    leaseOwner := none
    leaseExpiresAt := none
    endedAt := some (timestamp now)
    updatedAt := timestamp now }

@[simp] theorem NotificationDelivery.settle_id (d : NotificationDelivery) (c : SettleCommand) (now : Int) :
    (d.settle c now).id = d.id := rfl

def settleNotificationDelivery (outbox : Outbox) (c : SettleCommand) (now : Int) : Outbox × SettleResult :=
  match outbox.find? c.deliveryId with
  | none => (outbox, .notFound)
  | some d =>
    if d.status = .sent ∨ d.status = .failed then (outbox, .alreadyTerminal d.status)
    else if ¬ (d.status = .attempting ∧ d.leaseOwner = some c.workerId) then (outbox, .leaseMismatch)
    else if c.outcome = .failed ∧ c.retryable ∧ d.attemptCount < 3 then
      let availableAt := retryAt d.attemptCount now
      (outbox.update c.deliveryId (fun d => d.retry c availableAt now) (fun d => d.retry_id c availableAt now), .retryScheduled availableAt)
    else (outbox.update c.deliveryId (fun d => d.settle c now) (fun d => d.settle_id c now), .settled c.outcome.status)

/-! ## What a claim does to a row -/

section

variable {outbox outbox' : Outbox} {bots : Bots} {provider workerId id : String} {now : Int} {claims : List ClaimedChannelDelivery}
  {d d' : NotificationDelivery} {n : Nat}

def timesIn (claims : List ClaimedChannelDelivery) (id : String) : Nat := claims.countP (fun c => c.deliveryId = id)

theorem timesIn_append (claims rest : List ClaimedChannelDelivery) (id : String) :
    timesIn (claims ++ rest) id = timesIn claims id + timesIn rest id := countP_append

variable {k : String}

theorem timesIn_of_ne (hk : ∀ c ∈ claims, c.deliveryId = k) (hne : id ≠ k) : timesIn claims id = 0 :=
  countP_eq_zero.2 fun c hc heq => hne ((decide_eq_true_iff.1 heq).symm.trans (hk c hc))

inductive Claimed (provider workerId : String) (now : Int) (d : NotificationDelivery) : NotificationDelivery → Nat → Prop
  | kept : Claimed provider workerId now d d 0
  | disconnected : d.status = .pending → Claimed provider workerId now d (d.disconnect now) 0
  | leased : d.status = .pending → d.provider = provider → Claimed provider workerId now d (d.lease workerId now) 1

def Claimable (provider : String) (outbox : Outbox) (id : String) : Prop :=
  ∃ d, outbox.find? id = some d ∧ d.status = .pending ∧ d.provider = provider

theorem find?_updatePending_self {f : NotificationDelivery → NotificationDelivery} {hf : ∀ d, (f d).id = d.id}
    (h : outbox.find? id = some d) (hd : d.status = .pending) : (updatePending outbox id f hf).find? id = some (f d) := by
  unfold updatePending
  rw [Table.find?_updateWhere, h]
  simp [Table.key_of_find? h, hd]

theorem find?_updatePending_of_ne {f : NotificationDelivery → NotificationDelivery} {hf : ∀ d, (f d).id = d.id}
    (hk : k ≠ id) : (updatePending outbox id f hf).find? k = outbox.find? k := by
  unfold updatePending
  rw [Table.find?_updateWhere]
  cases hrow : outbox.find? k with
  | none => rfl
  | some r =>
    have hne : ¬ r.id = id := fun heq => hk ((Table.key_of_find? hrow).symm.trans heq)
    simp [hne]

theorem claimDelivery_spec (hk : Claimable provider outbox k)
    (h : claimDelivery bots provider workerId now outbox k = .ok (outbox', claims)) :
    (∀ id, id ≠ k → outbox'.find? id = outbox.find? id ∧ timesIn claims id = 0) ∧
      ∃ d d', outbox.find? k = some d ∧ outbox'.find? k = some d' ∧ Claimed provider workerId now d d' (timesIn claims k) := by
  obtain ⟨d, hd, hstatus, hprovider⟩ := hk
  unfold claimDelivery at h
  simp only [bind_eq_ok, orError_eq_ok] at h
  obtain ⟨d₀, hd₀, h⟩ := h
  obtain rfl : d = d₀ := Option.mem_unique hd hd₀
  cases htarget : notificationTarget bots provider d.memberId with
  | none =>
    rw [htarget] at h
    obtain ⟨rfl, rfl⟩ := Prod.mk.inj (Except.ok.inj h)
    exact ⟨fun id hne => ⟨find?_updatePending_of_ne hne, rfl⟩, d, d.disconnect now, hd, find?_updatePending_self hd hstatus,
      .disconnected hstatus⟩
  | some target =>
    rw [htarget] at h
    have hany : outbox.any (fun d => d.id = k ∧ d.status = .pending) = true :=
      Table.any_iff.2 ⟨k, d, hd, by simp [Table.key_of_find? hd, hstatus]⟩
    dsimp only at h
    rw [if_pos hany] at h
    simp only [bind_eq_ok, orError_eq_ok] at h
    obtain ⟨body, -, h⟩ := h
    obtain ⟨rfl, rfl⟩ := Prod.mk.inj (Except.ok.inj h)
    have hid : d.id = k := Table.key_of_find? hd
    refine ⟨fun id hne => ⟨find?_updatePending_of_ne hne, timesIn_of_ne (fun c hc => ?_) hne⟩, d, d.lease workerId now, hd,
      find?_updatePending_self hd hstatus, ?_⟩
    · rw [mem_singleton.1 hc]
      exact hid
    · have hone : timesIn [claimedDelivery d target provider body] k = 1 := by simp [timesIn, claimedDelivery, hid]
      rw [hone]
      exact .leased hstatus hprovider

theorem claimEach_cons {rest : List String}
    (h : claimEach bots provider workerId now (k :: rest) outbox = .ok (outbox', claims)) :
    ∃ outbox₁ claims₁ claims₂, claimDelivery bots provider workerId now outbox k = .ok (outbox₁, claims₁) ∧
      claimEach bots provider workerId now rest outbox₁ = .ok (outbox', claims₂) ∧ claims = claims₁ ++ claims₂ := by
  simp only [claimEach, bind_eq_ok] at h
  obtain ⟨⟨outbox₁, claims₁⟩, hfirst, ⟨outbox₂, claims₂⟩, hloop, heq⟩ := h
  obtain ⟨rfl, rfl⟩ := Prod.mk.inj (Except.ok.inj heq)
  exact ⟨outbox₁, claims₁, claims₂, hfirst, hloop, rfl⟩

theorem claimable_rest {rest : List String} {claims₁ : List ClaimedChannelDelivery} (hnodup : (k :: rest).Nodup)
    (hids : ∀ j ∈ k :: rest, Claimable provider outbox j)
    (hother : ∀ id, id ≠ k → outbox'.find? id = outbox.find? id ∧ timesIn claims₁ id = 0) :
    ∀ j ∈ rest, Claimable provider outbox' j := fun j hj => by
  have hne : j ≠ k := fun heq => (nodup_cons.1 hnodup).1 (heq ▸ hj)
  unfold Claimable
  rw [(hother j hne).1]
  exact hids j (mem_cons_of_mem k hj)

theorem claimEach_other : ∀ {ids : List String} {outbox outbox' : Outbox} {claims : List ClaimedChannelDelivery}, ids.Nodup →
    (∀ k ∈ ids, Claimable provider outbox k) → claimEach bots provider workerId now ids outbox = .ok (outbox', claims) →
    ∀ id, id ∉ ids → outbox'.find? id = outbox.find? id ∧ timesIn claims id = 0
  | [], outbox, outbox', claims, _, _, h, id, _ => by
    obtain ⟨rfl, rfl⟩ := Prod.mk.inj (Except.ok.inj h)
    exact ⟨rfl, rfl⟩
  | k :: rest, outbox, outbox', claims, hnodup, hids, h, id, hid => by
    obtain ⟨outbox₁, claims₁, claims₂, hfirst, hloop, rfl⟩ := claimEach_cons h
    obtain ⟨hother, -⟩ := claimDelivery_spec (hids k mem_cons_self) hfirst
    obtain ⟨hsame, hzero⟩ := hother id (ne_of_not_mem_cons hid)
    obtain ⟨hsame', hzero'⟩ := claimEach_other (nodup_cons.1 hnodup).2 (claimable_rest hnodup hids hother) hloop id
      (not_mem_of_not_mem_cons hid)
    rw [timesIn_append, hzero, hzero', hsame', hsame]
    exact ⟨rfl, rfl⟩

/-- **The loop takes each row once.** -/
theorem claimEach_spec : ∀ {ids : List String} {outbox outbox' : Outbox} {claims : List ClaimedChannelDelivery}, ids.Nodup →
    (∀ k ∈ ids, Claimable provider outbox k) → claimEach bots provider workerId now ids outbox = .ok (outbox', claims) →
    ∀ id ∈ ids, ∃ d d', outbox.find? id = some d ∧ outbox'.find? id = some d' ∧
      Claimed provider workerId now d d' (timesIn claims id)
  | k :: rest, outbox, outbox', claims, hnodup, hids, h, id, hid => by
    obtain ⟨outbox₁, claims₁, claims₂, hfirst, hloop, rfl⟩ := claimEach_cons h
    obtain ⟨hother, d, d', hd, hd', hclaimed⟩ := claimDelivery_spec (hids k mem_cons_self) hfirst
    have hrest := (nodup_cons.1 hnodup).2
    have hstill := claimable_rest hnodup hids hother
    rw [timesIn_append]
    rcases mem_cons.1 hid with rfl | hlater
    · -- the rest of the loop does not come back to the row
      obtain ⟨hkept, hzero⟩ := claimEach_other hrest hstill hloop id (nodup_cons.1 hnodup).1
      rw [hzero, hkept]
      exact ⟨d, d', hd, hd', hclaimed⟩
    · obtain ⟨hsame, hzero⟩ := hother id fun heq => (nodup_cons.1 hnodup).1 (heq ▸ hlater)
      rw [hzero, Nat.zero_add, ← hsame]
      exact claimEach_spec hrest hstill hloop id hlater

theorem claimEach_row {ids : List String} (hnodup : ids.Nodup) (hids : ∀ k ∈ ids, Claimable provider outbox k)
    (h : claimEach bots provider workerId now ids outbox = .ok (outbox', claims)) (id : String) :
    (outbox.find? id = none → outbox'.find? id = none ∧ timesIn claims id = 0) ∧
      ∀ d, outbox.find? id = some d → ∃ d', outbox'.find? id = some d' ∧ Claimed provider workerId now d d' (timesIn claims id) := by
  by_cases hid : id ∈ ids
  · obtain ⟨d, d', hd, hd', hclaimed⟩ := claimEach_spec hnodup hids h id hid
    rw [hd]
    exact ⟨nofun, fun d₀ hd₀ => ⟨d', hd', Option.some.inj hd₀ ▸ hclaimed⟩⟩
  · obtain ⟨hkept, hzero⟩ := claimEach_other hnodup hids h id hid
    rw [hkept, hzero]
    exact ⟨fun hnone => ⟨hnone, rfl⟩, fun d hd => ⟨d, hd, .kept⟩⟩

theorem nodup_claimableIds (outbox : Outbox) (provider : String) (limit : Nat) (now : Int) :
    (claimableIds outbox provider limit now).Nodup := by
  have hfiltered := outbox.nodup.sublist (filter_sublist (l := outbox.rows)
    (p := fun d => d.provider = provider ∧ d.status = .pending ∧ d.availableAt ≤ timestamp now) |>.map NotificationDelivery.id)
  have hsorted := (((perm_insertionSort claimOrder _).map NotificationDelivery.id).nodup_iff).2 hfiltered
  exact hsorted.sublist ((take_sublist limit _).map NotificationDelivery.id)

theorem claimable_of_mem {limit : Nat} (h : k ∈ claimableIds outbox provider limit now) :
    Claimable provider outbox k := by
  obtain ⟨d, hd, rfl⟩ := mem_map.1 h
  have hrow := mem_filter.1 ((mem_insertionSort claimOrder).1 (mem_of_mem_take hd))
  obtain ⟨hprovider, hstatus, -⟩ := decide_eq_true_iff.1 hrow.2
  exact ⟨d, Table.find?_of_mem hrow.1, hstatus, hprovider⟩

theorem find?_takeBackExpired (outbox : Outbox) (provider : String) (now : Int) (id : String) :
    (takeBackExpired outbox provider now).find? id =
      (outbox.find? id).map (fun d => if d.expired provider now then d.takeBack now else d) :=
  Table.find?_updateWhere ..

/-- **What a claim does**: it takes back what is expired, and then hands each row out once at most. -/
theorem claim_spec {limit : Nat}
    (h : claimNotificationDeliveries outbox bots provider workerId limit now = .ok (outbox', claims)) (id : String) :
    (outbox.find? id = none → outbox'.find? id = none ∧ timesIn claims id = 0) ∧
      ∀ d, outbox.find? id = some d → ∃ e d', (e = d ∨ d.expired provider now = true ∧ e = d.takeBack now) ∧
        outbox'.find? id = some d' ∧ Claimed provider workerId now e d' (timesIn claims id) := by
  unfold claimNotificationDeliveries at h
  split at h
  · obtain ⟨rfl, rfl⟩ := Prod.mk.inj (Except.ok.inj h)
    exact ⟨fun hnone => ⟨hnone, rfl⟩, fun d hd => ⟨d, d, .inl rfl, hd, .kept⟩⟩
  · split at h
    · cases h
    obtain ⟨hnone, hsome⟩ := claimEach_row (nodup_claimableIds _ provider limit now) (fun k hk => claimable_of_mem hk) h id
    rw [find?_takeBackExpired] at hnone hsome
    refine ⟨fun hd => hnone (by rw [hd]; rfl), fun d hd => ?_⟩
    obtain ⟨d', hd', hclaimed⟩ := hsome _ (by rw [hd]; rfl)
    refine ⟨_, d', ?_, hd', hclaimed⟩
    by_cases hexpired : d.expired provider now = true
    · exact .inr ⟨hexpired, if_pos hexpired⟩
    · exact .inl (if_neg hexpired)

/-! ## What settling does to a row -/

def Holds (outbox : Outbox) (workerId id : String) : Prop :=
  ∃ d, outbox.find? id = some d ∧ d.status = .attempting ∧ d.leaseOwner = some workerId

theorem settle_of_not_holds {c : SettleCommand} (h : ¬ Holds outbox c.workerId c.deliveryId) :
    (settleNotificationDelivery outbox c now).1 = outbox := by
  unfold settleNotificationDelivery
  cases hd : outbox.find? c.deliveryId with
  | none => rfl
  | some d =>
    dsimp only
    split
    · rfl
    · rw [if_pos fun hheld => h ⟨d, hd, hheld⟩]

inductive Settled (c : SettleCommand) (now : Int) (d : NotificationDelivery) : NotificationDelivery → SettleResult → Prop
  | retried (availableAt : Int) : d.attemptCount < 3 →
      Settled c now d (d.retry c availableAt now) (.retryScheduled availableAt)
  | settled : Settled c now d (d.settle c now) (.settled c.outcome.status)

variable (now) in
theorem settle_of_holds {c : SettleCommand} (h : Holds outbox c.workerId c.deliveryId) :
    ∃ d d', outbox.find? c.deliveryId = some d ∧ d.status = .attempting ∧
      (settleNotificationDelivery outbox c now).1.find? c.deliveryId = some d' ∧
      Settled c now d d' (settleNotificationDelivery outbox c now).2 ∧
      ∀ id, id ≠ c.deliveryId → (settleNotificationDelivery outbox c now).1.find? id = outbox.find? id := by
  obtain ⟨d, hd, hstatus, howner⟩ := h
  unfold settleNotificationDelivery
  rw [hd]
  dsimp only
  rw [if_neg (by rw [hstatus]; decide), if_neg (not_not.2 ⟨hstatus, howner⟩)]
  by_cases hretry : c.outcome = .failed ∧ c.retryable ∧ d.attemptCount < 3
  · rw [if_pos hretry]
    exact ⟨d, _, rfl, hstatus, Table.find?_update_self hd _ (fun r => r.retry_id c _ now), .retried _ hretry.2.2,
      fun id hne => Table.find?_update_of_ne _ hne _ (fun r => r.retry_id c _ now)⟩
  · rw [if_neg hretry]
    exact ⟨d, _, rfl, hstatus, Table.find?_update_self hd _ (fun r => r.settle_id c now), .settled,
      fun id hne => Table.find?_update_of_ne _ hne _ (fun r => r.settle_id c now)⟩

end

/-! ## The system -/

structure World where
  outbox : Outbox
  handed : List ClaimedChannelDelivery

inductive Event where
  | queue (id automationRunId : String) (channel : AutomationNotifyChannel) (memberId body : String) (now : Int)
  | claim (bots : Bots) (provider workerId : String) (limit : Nat) (now : Int)
  | settle (c : SettleCommand) (now : Int)

def step (w : World) : Event → World
  | .queue id automationRunId channel memberId body now =>
    { w with outbox := queueDelivery w.outbox id automationRunId channel memberId body now }
  | .claim bots provider workerId limit now =>
    match claimNotificationDeliveries w.outbox bots provider workerId limit now with
    | .ok (outbox, claims) => { outbox, handed := w.handed ++ claims }
    | .error _ => w
  | .settle c now => { w with outbox := (settleNotificationDelivery w.outbox c now).1 }

def World.initial : World := ⟨Table.empty, []⟩

def run (events : List Event) : World := events.foldl step World.initial

def handedOut (w : World) (id : String) : Nat := timesIn w.handed id

inductive Moves (id : String) (w : World) (d : NotificationDelivery) : Event → NotificationDelivery → Nat → Prop
  | kept (event : Event) : Moves id w d event d 0
  | claimed {bots : Bots} {provider workerId : String} {limit : Nat} {now : Int} {e d' : NotificationDelivery} {n : Nat}
      (hback : e = d ∨ d.expired provider now = true ∧ e = d.takeBack now) (hclaim : Claimed provider workerId now e d' n) :
      Moves id w d (.claim bots provider workerId limit now) d' n
  | settled {c : SettleCommand} {now : Int} {d' : NotificationDelivery} (hid : c.deliveryId = id)
      (hstatus : d.status = .attempting) (hsettled : Settled c now d d' (settleNotificationDelivery w.outbox c now).2) :
      Moves id w d (.settle c now) d' 0

section

variable {w : World} {event : Event} {id : String} {d : NotificationDelivery}

/-- **The step lemma.** -/
theorem step_moves (h : w.outbox.find? id = some d) (event : Event) : ∃ d' n, (step w event).outbox.find? id = some d' ∧
    handedOut (step w event) id = handedOut w id + n ∧ Moves id w d event d' n := by
  cases event with
  | queue =>
    refine ⟨d, 0, ?_, rfl, .kept _⟩
    simp only [step, queueDelivery]
    split
    · exact h
    · exact Table.find?_insert_of_found h _
  | claim bots provider workerId limit now =>
    simp only [step]
    split
    · rename_i outbox claims hclaim
      obtain ⟨e, d', hback, hd', hclaimed⟩ := (claim_spec hclaim id).2 d h
      exact ⟨d', _, hd', timesIn_append .., .claimed hback hclaimed⟩
    · exact ⟨d, 0, h, rfl, .kept _⟩
  | settle c now =>
    by_cases hholds : Holds w.outbox c.workerId c.deliveryId
    · obtain ⟨d₀, d', hd₀, hstatus, hd', hsettled, hother⟩ := settle_of_holds now hholds
      by_cases hid : c.deliveryId = id
      · subst hid
        obtain rfl : d = d₀ := Option.mem_unique h hd₀
        exact ⟨d', 0, hd', rfl, .settled rfl hstatus hsettled⟩
      · exact ⟨d, 0, (hother id (Ne.symm hid)).trans h, rfl, .kept _⟩
    · refine ⟨d, 0, ?_, rfl, .kept _⟩
      simp only [step, settle_of_not_holds hholds]
      exact h

theorem step_absent (h : w.outbox.find? id = none) (event : Event) : handedOut (step w event) id = handedOut w id ∧
    ∀ d, (step w event).outbox.find? id = some d → d.status = .pending ∧ d.attemptCount = 0 := by
  cases event with
  | queue =>
    refine ⟨rfl, fun d hd => ?_⟩
    simp only [step, queueDelivery] at hd
    split at hd
    · rw [h] at hd
      cases hd
    · rcases Table.insert_cases hd with hold | ⟨rfl, -, -⟩
      · rw [h] at hold
        cases hold
      · exact ⟨rfl, rfl⟩
  | claim bots provider workerId limit now =>
    simp only [step]
    split
    · rename_i outbox claims hclaim
      obtain ⟨hnone, hzero⟩ := (claim_spec hclaim id).1 h
      refine ⟨?_, fun d hd => by rw [hnone] at hd; cases hd⟩
      unfold handedOut
      rw [timesIn_append, hzero, Nat.add_zero]
    · exact ⟨rfl, fun d hd => by rw [h] at hd; cases hd⟩
  | settle c now =>
    refine ⟨rfl, fun d hd => ?_⟩
    by_cases hholds : Holds w.outbox c.workerId c.deliveryId
    · obtain ⟨d₀, -, hd₀, -, -, -, hother⟩ := settle_of_holds now hholds
      have hne : id ≠ c.deliveryId := fun heq => by
        rw [heq, hd₀] at h
        cases h
      simp only [step, hother id hne, h] at hd
      cases hd
    · simp only [step, settle_of_not_holds hholds, h] at hd
      cases hd

/-! ## Three attempts -/

/-- The row counts how often it was handed out, and is pending only before the third time. -/
structure Counted (d : NotificationDelivery) (n : Nat) : Prop where
  count : d.attemptCount = n
  bound : n ≤ 3
  pending : d.status = .pending → n < 3

variable {n : Nat}

theorem Counted.takeBack (h : Counted d n) (now : Int) : Counted (d.takeBack now) n := by
  refine ⟨h.count, h.bound, fun hpending => ?_⟩
  have hstatus : (if 3 ≤ d.attemptCount then DeliveryStatus.failed else .pending) = .pending := hpending
  by_cases hlast : 3 ≤ d.attemptCount
  · rw [if_pos hlast] at hstatus
    cases hstatus
  · have := h.count
    omega

variable {d' : NotificationDelivery}

theorem Counted.claimed {provider workerId : String} {now : Int} {k n : Nat} (h : Counted d k)
    (hclaimed : Claimed provider workerId now d d' n) : Counted d' (k + n) := by
  cases hclaimed with
  | kept => exact h
  | disconnected hpending => exact ⟨h.count, h.bound, nofun⟩
  | leased hpending => exact ⟨congrArg (· + 1) h.count, h.pending hpending, nofun⟩

theorem Counted.moves {k n : Nat} (h : Counted d k) (hmoves : Moves id w d event d' n) :
    Counted d' (k + n) := by
  cases hmoves with
  | kept => exact h
  | claimed hback hclaim =>
    rcases hback with rfl | ⟨-, rfl⟩
    · exact h.claimed hclaim
    · exact (h.takeBack _).claimed hclaim
  | @settled c now _ _ _ hsettled =>
    generalize (settleNotificationDelivery w.outbox c now).2 = result at hsettled
    cases hsettled with
    | retried _ hlt => exact ⟨h.count, h.bound, fun _ => h.count ▸ hlt⟩
    | settled =>
      refine ⟨h.count, h.bound, fun hpending => ?_⟩
      cases ho : c.outcome <;> simp [NotificationDelivery.settle, ho, DeliveryOutcome.status] at hpending

def AllCounted (w : World) : Prop :=
  ∀ id, (w.outbox.find? id = none → handedOut w id = 0) ∧ ∀ d, w.outbox.find? id = some d → Counted d (handedOut w id)

theorem step_allCounted (w : World) (event : Event) (h : AllCounted w) : AllCounted (step w event) := by
  intro id
  cases hd : w.outbox.find? id with
  | none =>
    obtain ⟨hzero, hnew⟩ := step_absent hd event
    rw [hzero, (h id).1 hd]
    refine ⟨fun _ => rfl, fun d hd' => ?_⟩
    obtain ⟨-, hcount⟩ := hnew d hd'
    exact ⟨hcount, by omega, fun _ => by omega⟩
  | some d =>
    obtain ⟨d', n, hd', hhanded, hmoves⟩ := step_moves hd event
    rw [hd', hhanded]
    refine ⟨nofun, fun d₁ hd₁ => ?_⟩
    obtain rfl := Option.some.inj hd₁
    exact ((h id).2 d hd).moves hmoves

theorem run_allCounted (events : List Event) : AllCounted (run events) :=
  Runs.run_invariant step step_allCounted events _ fun _ => ⟨fun _ => rfl, fun _ hd => nomatch hd⟩

/-! ## Leases -/

def Ends (id provider : String) (expiry : Int) (w : World) : Event → Prop
  | .queue .. => False
  | .claim _ provider' _ _ now => provider' = provider ∧ expiry ≤ timestamp now
  | .settle c now => c.deliveryId = id ∧ ∃ availableAt, (settleNotificationDelivery w.outbox c now).2 = .retryScheduled availableAt

def NotificationDelivery.Terminal (d : NotificationDelivery) : Prop := d.status = .sent ∨ d.status = .failed

theorem terminal_moves (h : d.Terminal) (hmoves : Moves id w d event d' n) :
    d' = d ∧ n = 0 := by
  have hpending : d.status ≠ .pending := fun hp => by rcases h with h | h <;> rw [h] at hp <;> cases hp
  have hattempting : d.status ≠ .attempting := fun hp => by rcases h with h | h <;> rw [h] at hp <;> cases hp
  cases hmoves with
  | kept => exact ⟨rfl, rfl⟩
  | claimed hback hclaim =>
    obtain rfl : _ = d := hback.resolve_right fun hexpired => by
      have := hexpired.1
      simp [NotificationDelivery.expired, hattempting] at this
    cases hclaim with
    | kept => exact ⟨rfl, rfl⟩
    | disconnected hp => exact absurd hp hpending
    | leased hp => exact absurd hp hpending
  | settled _ hstatus => exact absurd hstatus hattempting

def HeldUntil (id provider : String) (expiry : Int) (n : Nat) (w : World) : Prop :=
  ∃ d, w.outbox.find? id = some d ∧ handedOut w id = n ∧
    (d.Terminal ∨ d.status = .attempting ∧ d.provider = provider ∧ d.leaseExpiresAt = some expiry)

theorem step_heldUntil {provider : String} {expiry : Int} (w : World) (event : Event)
    (hends : ¬ Ends id provider expiry w event) (h : HeldUntil id provider expiry n w) :
    HeldUntil id provider expiry n (step w event) := by
  obtain ⟨d, hd, hn, hcase⟩ := h
  obtain ⟨d', m, hd', hhanded, hmoves⟩ := step_moves hd event
  rcases hcase with hterminal | ⟨hstatus, hprovider, hlease⟩
  · obtain ⟨rfl, rfl⟩ := terminal_moves hterminal hmoves
    exact ⟨d', hd', hhanded.trans hn, .inl hterminal⟩
  · cases hmoves with
    | kept => exact ⟨d, hd', hhanded.trans hn, .inr ⟨hstatus, hprovider, hlease⟩⟩
    | claimed hback hclaim =>
      -- the lease is not over
      obtain rfl : _ = d := hback.resolve_right fun hexpired => hends (by
        have := hexpired.1
        simp [NotificationDelivery.expired, hlease] at this
        exact ⟨this.1.1.symm.trans hprovider, this.2⟩)
      cases hclaim with
      | kept => exact ⟨_, hd', hhanded.trans hn, .inr ⟨hstatus, hprovider, hlease⟩⟩
      | disconnected hp => exact absurd (hstatus.symm.trans hp) (by decide)
      | leased hp => exact absurd (hstatus.symm.trans hp) (by decide)
    | @settled c now _ hid _ hsettled =>
      refine ⟨d', hd', hhanded.trans hn, .inl ?_⟩
      generalize hr : (settleNotificationDelivery w.outbox c now).2 = result at hsettled
      cases hsettled with
      | retried availableAt => exact absurd ⟨hid, availableAt, hr⟩ hends
      | settled =>
        show c.outcome.status = .sent ∨ c.outcome.status = .failed
        cases c.outcome
        · exact .inl rfl
        · exact .inr rfl

theorem step_terminal (w : World) (event : Event) (h : w.outbox.find? id = some d ∧ d.Terminal) :
    (step w event).outbox.find? id = some d ∧ d.Terminal := by
  obtain ⟨d', n, hd', -, hmoves⟩ := step_moves h.1 event
  obtain ⟨rfl, -⟩ := terminal_moves h.2 hmoves
  exact ⟨hd', h.2⟩

/-- **A delivery that a claim hands out** is handed out once there, and its worker holds it for thirty seconds. -/
theorem handed_heldUntil {bots : Bots} {provider workerId : String} {limit : Nat} {now : Int}
    (h : handedOut (step w (.claim bots provider workerId limit now)) id ≠ handedOut w id) :
    handedOut (step w (.claim bots provider workerId limit now)) id = handedOut w id + 1 ∧
      Holds (step w (.claim bots provider workerId limit now)).outbox workerId id ∧
      HeldUntil id provider (timestamp (now + 30 * second)) (handedOut w id + 1)
        (step w (.claim bots provider workerId limit now)) := by
  cases hd : w.outbox.find? id with
  | none => exact absurd (step_absent hd _).1 h
  | some d =>
    obtain ⟨d', n, hd', hhanded, hmoves⟩ := step_moves hd (.claim bots provider workerId limit now)
    cases hmoves with
    | kept => exact absurd hhanded h
    | claimed hback hclaim =>
      cases hclaim with
      | kept => exact absurd hhanded h
      | disconnected _ => exact absurd hhanded h
      | leased _ hprovider =>
        exact ⟨hhanded, ⟨_, hd', rfl, rfl⟩, _, hd', hhanded, .inr ⟨rfl, hprovider, rfl⟩⟩

end

end Rovai.Automation
