import RovaiCore.ActiveWait
/-!
# No lost wake-up, but for one window

A waiter lets go of the lock before it creates its future: what happens in between is not heard.
-/
namespace Rovai.ActiveWait

open Tables (Table)
open Shutdown (ActiveExecutionKey)

variable {s : State} {a : Action} {id : Nat} {w w' : Waiter}

/-! ## What a step does to one waiter -/

inductive WaiterStep (s : State) (a : Action) (id : Nat) : Waiter → Prop
  | arrived (ha : a = .wait id) (hfree : s.waiters.find? id = none) : WaiterStep s a id (.new id)
  | told (w : Waiter) (hw : s.waiters.find? id = some w) (hnotifies : notifies s a = true) : WaiterStep s a id w.notify
  | expired (w : Waiter) (hw : s.waiters.find? id = some w) (ha : a = .expire id) : WaiterStep s a id (w.expire s)
  | advanced (w : Waiter) (hw : s.waiters.find? id = some w) (ha : a = .waiter id) : WaiterStep s a id (w.advance s)
  | kept (w : Waiter) (hw : s.waiters.find? id = some w) (hnotifies : notifies s a = false) (hother : a ≠ .waiter id) :
      WaiterStep s a id w

theorem find?_notifyWaiters (s : State) (id : Nat) : s.notifyWaiters.waiters.find? id = (s.waiters.find? id).map Waiter.notify :=
  (Table.find?_updateWhere s.waiters (fun _ => true) Waiter.notify (fun _ => rfl) id).trans (by simp)

theorem told_of_find? (h : s.notifyWaiters.waiters.find? id = some w') (hnotifies : notifies s a = true) : WaiterStep s a id w' := by
  rw [find?_notifyWaiters] at h
  obtain ⟨w, hw, rfl⟩ := Option.map_eq_some_iff.1 h
  exact .told w hw hnotifies

theorem waiter_cases (h : (step s a).waiters.find? id = some w') : WaiterStep s a id w' := by
  cases a with
  | enter op =>
    have hsame : (step s (.enter op)).waiters = s.waiters := by
      unfold step
      dsimp only
      split <;> rfl
    rw [hsame] at h
    exact .kept w' h rfl (by simp)
  | advance =>
    unfold step State.advance at h
    dsimp only at h
    split at h
    · rename_i op hholder
      rw [(bodyOf s op).waiters] at h
      exact .kept w' h (by simp [notifies, hholder]) (by simp)
    · rename_i hholder
      exact told_of_find? h (by simp [notifies, hholder])
    · rename_i hholder
      exact .kept w' h (by simp [notifies, hholder]) (by simp)
    · rename_i hholder
      exact .kept w' h (by simp [notifies, hholder]) (by simp)
    · rename_i hholder
      exact .kept w' h (by simp [notifies, hholder]) (by simp)
    · rename_i hholder
      exact .kept w' h (by simp [notifies, hholder]) (by simp)
  | notify =>
    unfold step at h
    dsimp only at h
    split at h
    · rename_i hpos
      exact told_of_find? h (decide_eq_true hpos)
    · rename_i hpos
      exact .kept w' h (decide_eq_false hpos) (by simp)
  | wait id' =>
    obtain hw | ⟨rfl, rfl, hfree⟩ := Table.insert_cases h
    · exact .kept w' hw rfl (by simp)
    · exact .arrived rfl hfree
  | waiter id' =>
    unfold step at h
    dsimp only at h
    split at h
    · have hmap := (Table.find?_update s.waiters id' (Waiter.advance s) (fun _ => rfl) id).symm.trans h
      split at hmap
      · rename_i hid
        subst hid
        obtain ⟨w, hw, rfl⟩ := Option.map_eq_some_iff.1 hmap
        exact .advanced w hw rfl
      · rename_i hid
        refine .kept w' hmap rfl (fun ha => hid ?_)
        cases ha
        rfl
    · rename_i hfree
      refine .kept w' h rfl (fun ha => ?_)
      cases ha
      rw [hfree] at h
      cases h
  | expire id' =>
    have hmap := (Table.find?_update s.waiters id' (Waiter.expire s) (fun _ => rfl) id).symm.trans h
    split at hmap
    · rename_i hid
      subst hid
      obtain ⟨w, hw, rfl⟩ := Option.map_eq_some_iff.1 hmap
      exact .expired w hw rfl
    · exact .kept w' hmap rfl (by simp)

theorem find?_waiter (hw : s.waiters.find? id = some w) : (step s (.waiter id)).waiters.find? id = some (w.advance s) := by
  unfold step
  dsimp only
  rw [hw]
  exact Table.find?_update_self hw (Waiter.advance s) (fun _ => rfl)

/-! ## The lock -/

def Locks (s : State) : Prop :=
  ∀ id w, s.waiters.find? id = some w → w.point = .holding ∨ w.point = .seen → s.holder = some (.waiter id)

theorem holder_waiter (hw : s.waiters.find? id = some w) : (step s (.waiter id)).holder = w.holderAfter s := by
  unfold step
  dsimp only
  rw [hw]

theorem holder_step (hlocks : Locks s) (h : s.holder = some (.waiter id)) (hother : a ≠ .waiter id) :
    (step s a).holder = some (.waiter id) := by
  cases a with
  | enter op => simp [step, h]
  | advance => simp [step, State.advance, h]
  | notify =>
    unfold step
    dsimp only
    split <;> exact h
  | wait id' => exact h
  | expire id' => exact h
  | waiter id' =>
    cases hw : s.waiters.find? id' with
    | none => simpa [step, hw] using h
    | some w =>
      have hne : id' ≠ id := fun hid => hother (by rw [hid])
      have hout : ¬(w.point = .holding ∨ w.point = .seen) := by
        intro hpoint
        have hsame := (hlocks id' w hw hpoint).symm.trans h
        cases hsame
        exact hne rfl
      rw [not_or] at hout
      rw [holder_waiter hw]
      unfold Waiter.holderAfter
      cases hpoint : w.point <;> simp_all

theorem locks_step (hlocks : Locks s) : Locks (step s a) := by
  intro id w' hw' hpoint
  cases waiter_cases hw' with
  | arrived => simp [Waiter.new] at hpoint
  | told w hw hnotifies =>
    refine holder_step hlocks (hlocks id w hw hpoint) ?_
    rintro rfl
    cases hnotifies
  | expired w hw ha =>
    refine holder_step hlocks (hlocks id w hw hpoint) ?_
    rw [ha]
    exact nofun
  | kept w hw _ hother => exact holder_step hlocks (hlocks id w' hw hpoint) hother
  | advanced w hw ha =>
    subst ha
    rw [holder_waiter hw]
    have hid : w.id = id := Table.key_of_find? hw
    have hnext : w.next s = .holding ∨ w.next s = .seen := hpoint
    unfold Waiter.next at hnext
    unfold Waiter.holderAfter
    cases hbefore : w.point with
    | locking =>
      rw [hbefore] at hnext
      dsimp only at hnext ⊢
      split at hnext
      · rename_i hfree
        rw [if_pos hfree, hid]
      · split at hnext <;> simp at hnext
    | holding =>
      rw [hbefore] at hnext
      dsimp only at hnext ⊢
      split at hnext
      · simp at hnext
      rename_i hfull
      rw [if_neg hfull]
      exact hlocks id w hw (.inl hbefore)
    | seen => simp [hbefore] at hnext
    | released => simp [hbefore] at hnext
    | created =>
      rw [hbefore] at hnext
      dsimp only at hnext
      split at hnext <;> simp at hnext
    | parked =>
      rw [hbefore] at hnext
      dsimp only at hnext
      split at hnext
      · simp at hnext
      · split at hnext <;> simp at hnext
    | returned b => simp [hbefore] at hnext

/-! ## Futures -/

def State.awake (s : State) : Bool := !s.drained || s.pending

theorem awake_step (hlocks : Locks s) (h : s.awake = true) (hnotifies : notifies s a = false) : (step s a).awake = true := by
  cases a with
  | enter op =>
    unfold step
    dsimp only
    split
    · rename_i hfree
      simpa [State.awake, State.pending, State.drained, Option.isNone_iff_eq_none.1 hfree] using h
    · exact h
  | advance =>
    unfold step State.advance
    dsimp only
    split
    · rename_i op hholder
      have hbody := bodyOf s op
      obtain hsame | hnotifying | hremoved := hbody.active
      · have hbefore : s.drained = false ∨ 0 < s.removals := by simpa [State.awake, State.pending, hholder] using h
        have hdrained : (s.body op).1.drained = s.drained := by rw [State.drained, hsame, State.drained]
        refine Bool.or_eq_true_iff.2 (hbefore.imp (fun hfull => ?_) fun hremovals => ?_)
        · exact (congrArg (!·) (hdrained.trans hfull)).trans rfl
        · exact Bool.or_eq_true_iff.2 (.inr (decide_eq_true (hbody.removals.symm ▸ hremovals)))
      · simp [State.awake, State.pending, hnotifying]
      · simp [State.awake, State.pending, hremoved]
    · rename_i hholder
      simp [notifies, hholder] at hnotifies
    · simp [State.awake, State.pending]
    · rename_i hholder
      simpa [State.awake, State.pending, State.drained, hholder] using h
    · exact h
    · exact h
  | notify =>
    unfold step
    dsimp only
    rw [if_neg (of_decide_eq_false hnotifies)]
    exact h
  | wait id => exact h
  | expire id => exact h
  | waiter id =>
    cases hw : s.waiters.find? id with
    | none => simpa [step, hw] using h
    | some w =>
      unfold step
      dsimp only
      rw [hw]
      cases hpoint : w.point with
      | holding =>
        have hholder := hlocks id w hw (.inl hpoint)
        by_cases hdrained : s.drained = true <;>
          simp_all [State.awake, State.pending, State.drained, Waiter.holderAfter]
      | seen =>
        have hholder := hlocks id w hw (.inr hpoint)
        simpa [State.awake, State.pending, State.drained, Waiter.holderAfter, hpoint, hholder] using h
      | locking =>
        by_cases hfree : s.holder = none <;>
          simp_all [State.awake, State.pending, State.drained, Waiter.holderAfter]
      | _ => simpa [State.awake, State.pending, State.drained, Waiter.holderAfter, hpoint] using h

def Waiter.unheard (w : Waiter) : Prop := (w.point = .created ∨ w.point = .parked) ∧ w.notified = false

/-- Every future that has received nothing will receive a notification that is still to be sent, or the map is not empty. -/
def Heard (s : State) : Prop := ∀ id w, s.waiters.find? id = some w → w.unheard → s.awake = true

/-- A waiter that creates its future does so while the map is not empty, or a notification is still to be sent. -/
def createsAwake (s : State) : Action → Bool
  | .waiter id => (s.waiters.find? id).all (fun w => decide (w.point ≠ .released) || s.awake)
  | _ => true

theorem unheard_advance (h : (w.advance s).unheard) : w.point = .released ∨ w.unheard := by
  obtain ⟨hpoint, hnotified⟩ := h
  have hnext : w.next s = .created ∨ w.next s = .parked := hpoint
  unfold Waiter.next at hnext
  unfold Waiter.advance at hnotified
  unfold Waiter.unheard
  cases hbefore : w.point with
  | released => exact .inl rfl
  | created => exact .inr ⟨.inl rfl, by simpa [hbefore] using hnotified⟩
  | parked => exact .inr ⟨.inr rfl, by simpa [hbefore] using hnotified⟩
  | locking =>
    rw [hbefore] at hnext
    dsimp only at hnext
    split at hnext
    · simp at hnext
    · split at hnext <;> simp at hnext
  | holding =>
    rw [hbefore] at hnext
    dsimp only at hnext
    split at hnext <;> simp at hnext
  | seen => simp [hbefore] at hnext
  | returned b => simp [hbefore] at hnext

/-- **A step keeps every future heard** exactly when a future that it creates is. -/
theorem heard_step (hlocks : Locks s) (h : Heard s) : Heard (step s a) ↔ createsAwake s a = true := by
  constructor
  · intro hnext
    cases a with
    | waiter id =>
      unfold createsAwake
      dsimp only
      cases hw : s.waiters.find? id with
      | none => rfl
      | some w =>
        by_cases hpoint : w.point = .released
        · have hunheard : (w.advance s).unheard := by simp [Waiter.unheard, Waiter.advance, Waiter.next, hpoint]
          have hawake := hnext id _ (find?_waiter hw) hunheard
          have hsame : (step s (.waiter id)).awake = s.awake := by
            unfold State.awake State.pending State.drained
            rw [holder_waiter hw]
            simp [step, hw, Waiter.holderAfter, hpoint]
          rw [hsame] at hawake
          simp [hawake]
        · simp [hpoint]
    | _ => rfl
  · intro hcreates id w' hw' hunheard
    cases waiter_cases hw' with
    | arrived => simp [Waiter.unheard, Waiter.new] at hunheard
    | told => simp [Waiter.unheard, Waiter.notify] at hunheard
    | expired w hw ha =>
      subst ha
      exact h id w hw hunheard
    | kept w hw hnotifies => exact awake_step hlocks (h id w' hw hunheard) hnotifies
    | advanced w hw ha =>
      subst ha
      refine awake_step hlocks ?_ rfl
      obtain hreleased | hbefore := unheard_advance hunheard
      · simpa [createsAwake, hw, hreleased] using hcreates
      · exact h id w hw hbefore

theorem locks_new : Locks .new := fun _ _ hw => nomatch hw

theorem heard_new : Heard .new := fun _ _ hw => nomatch hw

/-- Every future is heard throughout a run exactly when every future is created awake. -/
theorem heard_iff (as : List Action) : (∀ bs, bs <+: as → Heard (run bs)) ↔
    Runs.AllSteps step (fun s a => createsAwake s a = true) .new as := by
  have hany : Runs.AllSteps step (fun _ _ => True) .new as := Runs.allSteps_of_forall step _ fun _ _ _ => trivial
  exact Runs.always_iff_allSteps step (fun _ _ _ => locks_step) (fun _ _ _ => heard_step) hany locks_new heard_new

/-! ## Deadlines -/

/-- A waiter that can still learn of the empty map: it waits for the lock or has it, its future has been notified, or it has
returned. -/
def Waiter.settles (w : Waiter) : Bool :=
  match w.point with
  | .locking | .holding | .returned _ => true
  | .parked => w.notified
  | .seen | .released | .created => false

def Waiter.isReturned (w : Waiter) : Bool :=
  match w.point with
  | .returned _ => true
  | _ => false

/-- The deadline of a waiter does not pass with an empty map while the waiter is past its look at the map and unnotified; a waiter
whose deadline passed with an empty map does not look at a taken lock, and nothing is registered before it returns. -/
def meetsDeadline (s : State) (a : Action) : Bool :=
  match a with
  | .expire id => (s.waiters.find? id).all (fun w => w.deadline.isSome || !s.drained || w.settles)
  | .waiter id => (s.waiters.find? id).all (fun w =>
      !(decide (w.point = .locking) && s.holder.isSome && decide (w.deadline = some false)))
  | _ => !inserts s a || s.waiters.rows.all (fun w => decide (w.deadline ≠ some false) || w.isReturned)

/-- A waiter whose deadline has not passed has not answered `false`; one whose deadline passed with an empty map answers `true`, or
the map is still empty and it will find that. -/
def Punctual (s : State) : Prop :=
  ∀ id w, s.waiters.find? id = some w →
    (w.deadline = none → w.point ≠ .returned false) ∧
    (w.deadline = some false → w.point = .returned true ∨
      s.drained = true ∧ (w.point = .locking ∨ w.point = .holding ∨ w.point = .parked ∧ w.notified = true))

theorem drained_step (hinserts : inserts s a = false) (h : s.drained = true) : (step s a).drained = true := by
  cases a with
  | enter op =>
    unfold step
    dsimp only
    split <;> exact h
  | advance =>
    unfold step State.advance
    dsimp only
    split
    · rename_i op hholder
      refine (bodyOf s op).stays (fun key permit hop => ?_) h
      subst hop
      simpa [inserts, hholder, Option.isNone_eq_false_iff] using hinserts
    all_goals exact h
  | notify =>
    unfold step
    dsimp only
    split <;> exact h
  | wait id => exact h
  | expire id => exact h
  | waiter id =>
    unfold step
    dsimp only
    split <;> exact h

theorem drained_of_meetsDeadline (hmeets : meetsDeadline s a = true) (hw : s.waiters.find? id = some w)
    (hdeadline : w.deadline = some false) (hpoint : w.isReturned = false) (h : s.drained = true) : (step s a).drained = true := by
  refine drained_step ?_ h
  cases a with
  | advance =>
    rw [Bool.eq_false_iff]
    intro hinserts
    simp only [meetsDeadline, hinserts, Bool.not_true, Bool.false_or, List.all_eq_true] at hmeets
    have hone := hmeets w (Table.mem_of_find? hw)
    simp [hdeadline, hpoint] at hone
  | _ => rfl

theorem punctual_step (hmeets : meetsDeadline s a = true) (h : Punctual s) : Punctual (step s a) := by
  intro id w' hw'
  cases waiter_cases hw' with
  | arrived => exact ⟨fun _ => (by simp [Waiter.new]), nofun⟩
  | told w hw =>
    refine ⟨(h id w hw).1, fun hdeadline => ?_⟩
    obtain htrue | ⟨hdrained, hpoint⟩ := (h id w hw).2 hdeadline
    · exact .inl htrue
    have hundecided : w.isReturned = false := by
      obtain hp | hp | ⟨hp, -⟩ := hpoint <;> simp [Waiter.isReturned, hp]
    refine .inr ⟨drained_of_meetsDeadline hmeets hw hdeadline hundecided hdrained, ?_⟩
    exact hpoint.imp_right (Or.imp_right fun hp => ⟨hp.1, rfl⟩)
  | expired w hw ha =>
    subst ha
    cases hbefore : w.deadline with
    | some b =>
      have hsame : (w.expire s).deadline = w.deadline := by simp [Waiter.expire, hbefore]
      rw [hsame]
      exact h id w hw
    | none =>
      refine ⟨fun hnone => ?_, fun hdeadline => ?_⟩
      · simp [Waiter.expire, hbefore] at hnone
      have hdrained : s.drained = true := by simpa [Waiter.expire, hbefore] using hdeadline
      have hsettles : w.settles = true := by simpa [meetsDeadline, hw, hbefore, hdrained] using hmeets
      have hnot := (h id w hw).1 hbefore
      have hpoint : (w.expire s).point = w.point := rfl
      have hnotified : (w.expire s).notified = w.notified := rfl
      rw [hpoint, hnotified]
      unfold Waiter.settles at hsettles
      cases hp : w.point with
      | locking => exact .inr ⟨hdrained, .inl rfl⟩
      | holding => exact .inr ⟨hdrained, .inr (.inl rfl)⟩
      | parked => exact .inr ⟨hdrained, .inr (.inr ⟨rfl, by simpa [hp] using hsettles⟩)⟩
      | returned b =>
        cases b with
        | true => exact .inl rfl
        | false => exact absurd hp hnot
      | seen => simp [hp] at hsettles
      | released => simp [hp] at hsettles
      | created => simp [hp] at hsettles
  | kept w hw =>
    refine ⟨(h id w' hw).1, fun hdeadline => ?_⟩
    obtain htrue | ⟨hdrained, hpoint⟩ := (h id w' hw).2 hdeadline
    · exact .inl htrue
    have hundecided : w'.isReturned = false := by
      obtain hp | hp | ⟨hp, -⟩ := hpoint <;> simp [Waiter.isReturned, hp]
    exact .inr ⟨drained_of_meetsDeadline hmeets hw hdeadline hundecided hdrained, hpoint⟩
  | advanced w hw ha =>
    subst ha
    have hnext : (w.advance s).point = w.next s := rfl
    rw [hnext]
    refine ⟨fun hnone => ?_, fun hdeadline => ?_⟩
    · have hnone : w.deadline = none := hnone
      have hnot := (h id w hw).1 hnone
      unfold Waiter.next
      cases hp : w.point <;> simp_all
      all_goals split <;> simp
    · have hdeadline : w.deadline = some false := hdeadline
      obtain htrue | ⟨hdrained, hpoint⟩ := (h id w hw).2 hdeadline
      · exact .inl (by simp [Waiter.next, htrue])
      have hdrained' : (step s (.waiter id)).drained = true := drained_step rfl hdrained
      obtain hp | hp | ⟨hp, hnotified⟩ := hpoint
      · have hfree : s.holder.isNone = true := by simpa [meetsDeadline, hw, hp, hdeadline] using hmeets
        exact .inr ⟨hdrained', .inr (.inl (by simp [Waiter.next, hp, hfree]))⟩
      · exact .inl (by simp [Waiter.next, hp, hdrained])
      · exact .inr ⟨hdrained', .inl (by simp [Waiter.next, hp, hnotified])⟩

theorem punctual_run {as : List Action} (h : Runs.AllSteps step (fun s a => meetsDeadline s a = true) .new as) :
    Punctual (run as) :=
  Runs.run_invariant_of_allSteps step (fun _ _ => punctual_step) as .new h fun _ _ hw => nomatch hw

/-! ## The law -/

/-- A waiter is parked on its future, the map is empty, and no notification is pending for the future. -/
def Lost (s : State) (id : Nat) : Prop :=
  ∃ w, s.waiters.find? id = some w ∧ w.point = .parked ∧ w.notified = false ∧ s.drained = true ∧ s.pending = false

theorem not_lost_of_heard (h : Heard s) : ¬Lost s id := by
  rintro ⟨w, hw, hpoint, hnotified, hdrained, hpending⟩
  have hawake := h id w hw ⟨.inr hpoint, hnotified⟩
  simp [State.awake, hdrained, hpending] at hawake

/-- **When no wake-up is lost**, and when `false` means that the map was not empty at the deadline. -/
theorem drained_wait (as : List Action) :
    ((∀ bs, bs <+: as → Heard (run bs)) ↔ Runs.AllSteps step (fun s a => createsAwake s a = true) .new as) ∧
    (Runs.AllSteps step (fun s a => createsAwake s a = true) .new as → ∀ bs, bs <+: as → ∀ id, ¬Lost (run bs) id) ∧
    (Runs.AllSteps step (fun s a => meetsDeadline s a = true) .new as →
      ∀ id w, (run as).waiters.find? id = some w → w.point = .returned false → w.deadline = some true) := by
  refine ⟨heard_iff as, fun h bs hbs id => not_lost_of_heard ((heard_iff as).2 h bs hbs), ?_⟩
  intro h id w hw hfalse
  obtain ⟨hnone, hempty⟩ := punctual_run h id w hw
  cases hdeadline : w.deadline with
  | none => exact absurd hfalse (hnone hdeadline)
  | some b =>
    cases b with
    | true => rfl
    | false =>
      obtain htrue | ⟨-, hpoint⟩ := hempty hdeadline
      · simp [hfalse] at htrue
      · simp [hfalse] at hpoint

/-! ## Two runs -/

def soleKey : ActiveExecutionKey := ⟨"run", 1⟩

def lookAtOne : List Action :=
  [.enter (.registerActive soleKey 0), .advance, .advance, .advance, .wait 0, .waiter 0, .waiter 0, .waiter 0]

def removeOne : List Action :=
  [.enter (.removeActive soleKey false), .advance, .advance, .notify]

/-- The future is created before the removal: the waiter wakes up, and a second one whose deadline passes first answers `false`. -/
def wokenRun : List Action :=
  lookAtOne ++ [.waiter 0, .waiter 0, .wait 1, .waiter 1, .waiter 1, .waiter 1, .waiter 1, .waiter 1, .expire 1, .waiter 1] ++
    removeOne ++ [.waiter 0, .expire 0, .waiter 0, .waiter 0]

theorem drained_wait_wokenRun : (∀ bs, bs <+: wokenRun → ∀ id, ¬Lost (run bs) id) ∧
    (∀ id w, (run wokenRun).waiters.find? id = some w → w.point = .returned false → w.deadline = some true) ∧
    (run wokenRun).waiters.rows.map Waiter.point = [.returned true, .returned false] :=
  ⟨(drained_wait wokenRun).2.1 (by decide), (drained_wait wokenRun).2.2 (by decide), by decide⟩

/-- The only execution is removed, and the removal notified, before the waiter creates its future: the waiter is parked with an empty
map and nothing to wake it, and it answers `false` at its deadline. -/
theorem wakeup_lost : Lost (run (lookAtOne ++ removeOne ++ [.waiter 0, .waiter 0])) 0 ∧
    (run (lookAtOne ++ removeOne ++ [.waiter 0, .waiter 0, .expire 0, .waiter 0])).waiters.find? 0 =
      some ⟨0, .returned false, false, some false⟩ := by
  refine ⟨⟨⟨0, .parked, false, none⟩, ?_, rfl, rfl, ?_, ?_⟩, ?_⟩ <;> decide

end Rovai.ActiveWait
