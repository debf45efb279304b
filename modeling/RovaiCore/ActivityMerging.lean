import RovaiCore.CanonicalActivity
import RovaiCore.ListRules
import Mathlib.Data.List.Induction
/-!
# What merging keeps of an activity

Credibility, authority, classification and sources only grow, whatever is merged.
-/
namespace Rovai

open List

/-! ## Facts merged so far -/

def isTerminal (facts : EvidenceActivityFacts) : Bool := facts.phase == .terminal

variable (seen : List EvidenceActivityFacts)

def conflicting : Bool :=
  seen.any (fun a => isTerminal a && isSettledOutcome a.outcome &&
    seen.any (fun b => isTerminal b && isSettledOutcome b.outcome && a.outcome != b.outcome))

structure MergesMonotonically (first : ReportedFacts) (activity : CanonicalRuntimeActivity) (rest : List ReportedFacts) :
    Prop where
  phase : ∀ seen later, rest = seen ++ later → ((first :: seen).any (fun r => isTerminal r.facts)) = true →
    (mergeAll activity seen).phase = .terminal
  outcome : ∀ seen later, rest = seen ++ later → conflicting ((first :: seen).map ReportedFacts.facts) = true →
    (mergeAll activity seen).outcome = .unsettled
  credibility : ∀ seen r later, rest = seen ++ r :: later →
    credibilityRank (mergeAll activity seen).credibility ≤ credibilityRank (mergeAll activity (seen ++ [r])).credibility
  classification : ∀ seen r later, rest = seen ++ r :: later →
    credibilityRank r.facts.credibility < credibilityRank (mergeAll activity seen).credibility →
    (mergeAll activity (seen ++ [r])).activityDomain = (mergeAll activity seen).activityDomain ∧
      (mergeAll activity (seen ++ [r])).semanticKind = (mergeAll activity seen).semanticKind ∧
      (mergeAll activity (seen ++ [r])).toolName = (mergeAll activity seen).toolName
  sourceAuthority : ∀ seen r later, rest = seen ++ r :: later → (mergeAll activity seen).sourceAuthority = "core" →
    (mergeAll activity (seen ++ [r])).sourceAuthority = "core"
  sourceEvidenceIds : ∀ seen later, rest = seen ++ later →
    (mergeAll activity seen).sourceEvidenceIds = ((first :: seen).map ReportedFacts.evidenceId).eraseDups

/-! ## When the phase and the outcome stay -/

def latestReport : List EvidenceActivityFacts → Option (EvidenceActivityFacts × List EvidenceActivityFacts)
  | [] => none
  | f :: earlier => if f.outcome = .unknown then latestReport earlier else some (f, earlier)

def clashes (earlier : List EvidenceActivityFacts) (f : EvidenceActivityFacts) : Bool :=
  isTerminal f && earlier.any isTerminal && isSettledOutcome f.outcome &&
    (latestReport earlier).any (fun p => isSettledOutcome p.1.outcome && p.1.outcome != f.outcome)

def detected (earlier : List EvidenceActivityFacts) (f : EvidenceActivityFacts) : Bool :=
  (latestReport earlier).any (fun p => isSettledOutcome p.1.outcome && p.1.outcome != f.outcome && !clashes p.2 p.1)

def staysSettled : List EvidenceActivityFacts → Bool
  | [] => true
  | f :: earlier =>
    staysSettled earlier && !(f.phase == .progress && earlier.any isTerminal) &&
      (!conflicting (f :: earlier) ||
        if conflicting earlier then f.outcome == .unknown || f.outcome == .unsettled else detected earlier f)

/-! ## The projection of a history -/

def mergedLifecycle : List EvidenceActivityFacts → ActivityPhase × ActivityOutcome
  | [] => (.progress, .unknown)
  | [f] => (f.phase, f.outcome)
  | f :: earlier =>
    let (phase, outcome) := mergedLifecycle earlier
    (if f.phase = .terminal ∨ f.phase = .progress then f.phase else phase,
      if phase == .terminal && f.phase == .terminal && isSettledOutcome outcome && isSettledOutcome f.outcome &&
          outcome != f.outcome then .unsettled
      else if f.outcome ≠ .unknown then f.outcome else outcome)

def lifecycleKept : List EvidenceActivityFacts → Prop
  | [] => True
  | f :: earlier => lifecycleKept earlier ∧
    ((f :: earlier).any isTerminal = true → (mergedLifecycle (f :: earlier)).1 = .terminal) ∧
    (conflicting (f :: earlier) = true → (mergedLifecycle (f :: earlier)).2 = .unsettled)

theorem conflicting_iff {seen : List EvidenceActivityFacts} : conflicting seen = true ↔
    ∃ a ∈ seen, ∃ b ∈ seen, a.phase = .terminal ∧ isSettledOutcome a.outcome = true ∧ b.phase = .terminal ∧
      isSettledOutcome b.outcome = true ∧ a.outcome ≠ b.outcome := by
  simp only [conflicting, isTerminal, any_eq_true, Bool.and_eq_true, beq_iff_eq, bne_iff_ne]
  constructor
  · rintro ⟨a, ha, ⟨hat, has⟩, b, hb, ⟨hbt, hbs⟩, hne⟩
    exact ⟨a, ha, b, hb, hat, has, hbt, hbs, hne⟩
  · rintro ⟨a, ha, b, hb, hat, has, hbt, hbs, hne⟩
    exact ⟨a, ha, ⟨hat, has⟩, b, hb, ⟨hbt, hbs⟩, hne⟩

variable {earlier : List EvidenceActivityFacts} {f : EvidenceActivityFacts}

theorem conflicting_of_earlier
    (h : conflicting earlier = true) : conflicting (f :: earlier) = true := by
  obtain ⟨a, ha, b, hb, hab⟩ := conflicting_iff.1 h
  exact conflicting_iff.2 ⟨a, mem_cons_of_mem f ha, b, mem_cons_of_mem f hb, hab⟩

theorem new_conflict
    (h : conflicting (f :: earlier) = true) (hearlier : conflicting earlier = false) :
    f.phase = .terminal ∧ isSettledOutcome f.outcome = true ∧
      ∃ g ∈ earlier, g.phase = .terminal ∧ isSettledOutcome g.outcome = true ∧ g.outcome ≠ f.outcome := by
  obtain ⟨a, ha, b, hb, hat, has, hbt, hbs, hne⟩ := conflicting_iff.1 h
  obtain rfl | ha' := mem_cons.1 ha
  · obtain rfl | hb' := mem_cons.1 hb
    · exact absurd rfl hne
    · exact ⟨hat, has, b, hb', hbt, hbs, hne.symm⟩
  · obtain rfl | hb' := mem_cons.1 hb
    · exact ⟨hbt, hbs, a, ha', hat, has, hne⟩
    have hold := conflicting_iff.2 ⟨a, ha', b, hb', hat, has, hbt, hbs, hne⟩
    rw [hearlier] at hold
    cases hold

theorem mergedLifecycle_cons (f : EvidenceActivityFacts) (h : earlier ≠ []) :
    mergedLifecycle (f :: earlier) =
      (if f.phase = .terminal ∨ f.phase = .progress then f.phase else (mergedLifecycle earlier).1,
        if (mergedLifecycle earlier).1 == .terminal && f.phase == .terminal && isSettledOutcome (mergedLifecycle earlier).2 &&
            isSettledOutcome f.outcome && (mergedLifecycle earlier).2 != f.outcome then .unsettled
        else if f.outcome ≠ .unknown then f.outcome else (mergedLifecycle earlier).2) := by
  cases earlier with
  | nil => exact absurd rfl h
  | cons g earlier => rfl

theorem any_terminal_of_phase : ∀ {seen : List EvidenceActivityFacts}, (mergedLifecycle seen).1 = .terminal →
    seen.any isTerminal = true
  | [], h => by cases h
  | [f], h => by
    have hf : f.phase = .terminal := h
    simp [isTerminal, hf]
  | f :: g :: earlier, h => by
    rw [mergedLifecycle_cons f (cons_ne_nil g earlier)] at h
    dsimp only at h
    split at h
    · simp [isTerminal, h]
    · rw [any_cons, any_terminal_of_phase h, Bool.or_true]

def reportedOutcome : ActivityOutcome :=
  match latestReport seen with
  | none => .unknown
  | some (f, earlier) => if clashes earlier f then .unsettled else f.outcome

theorem mem_of_latestReport {seen : List EvidenceActivityFacts}
    (h : latestReport seen = some (f, earlier)) : f ∈ seen := by
  induction seen with
  | nil => cases h
  | cons g seen ih =>
    rw [latestReport] at h
    split at h
    · exact mem_cons_of_mem g (ih h)
    obtain ⟨rfl, -⟩ := Prod.mk.inj (Option.some.inj h)
    exact mem_cons_self

theorem clashes_iff
    (hagree : conflicting (f :: earlier) = false) : clashes earlier f = (isTerminal f && earlier.any isTerminal &&
      isSettledOutcome f.outcome && isSettledOutcome (reportedOutcome earlier) && reportedOutcome earlier != f.outcome) := by
  unfold clashes reportedOutcome
  cases hreport : latestReport earlier with
  | none => simp [isSettledOutcome]
  | some report =>
    obtain ⟨p, before⟩ := report
    simp only [Option.any_some]
    by_cases hclash : clashes before p = true
    · rw [if_pos hclash]
      -- The report before was terminal, so it agrees with this one if this one is terminal too.
      simp only [clashes, isTerminal, Bool.and_eq_true, beq_iff_eq] at hclash
      obtain ⟨⟨⟨hterminal, -⟩, hsettled⟩, -⟩ := hclash
      have hnot : ¬(f.phase = .terminal ∧ isSettledOutcome f.outcome = true ∧ p.outcome ≠ f.outcome) := by
        rintro ⟨hf, hfs, hne⟩
        have hconflict := conflicting_iff.2 ⟨f, mem_cons_self, p, mem_cons_of_mem f (mem_of_latestReport hreport), hf,
          hfs, hterminal, hsettled, hne.symm⟩
        rw [hagree] at hconflict
        cases hconflict
      rw [Bool.eq_iff_iff]
      simp only [isTerminal, Bool.and_eq_true, beq_iff_eq, bne_iff_ne]
      constructor
      · rintro ⟨⟨⟨hf, -⟩, hfs⟩, -, hne⟩
        exact absurd ⟨hf, hfs, hne⟩ hnot
      · rintro ⟨⟨-, hunsettled⟩, -⟩
        cases hunsettled
    · rw [if_neg hclash]
      simp [Bool.and_assoc]

theorem mergedLifecycle_outcome : ∀ {seen : List EvidenceActivityFacts}, lifecycleKept seen → conflicting seen = false →
    (mergedLifecycle seen).2 = reportedOutcome seen
  | [], _, _ => rfl
  | [f], _, _ => by
    by_cases hf : f.outcome = .unknown
    · simp [mergedLifecycle, reportedOutcome, latestReport, hf]
    · simp [mergedLifecycle, reportedOutcome, latestReport, hf, clashes]
  | f :: g :: earlier, hkept, hagree => by
    have hagree' : conflicting (g :: earlier) = false := by
      cases h : conflicting (g :: earlier) with
      | false => rfl
      | true => rw [conflicting_of_earlier h] at hagree; cases hagree
    have ih := mergedLifecycle_outcome hkept.1 hagree'
    have hphase : ((mergedLifecycle (g :: earlier)).1 == .terminal) = (g :: earlier).any isTerminal := by
      rw [Bool.eq_iff_iff, beq_iff_eq]
      constructor
      · exact any_terminal_of_phase
      · exact hkept.1.2.1
    rw [mergedLifecycle_cons f (cons_ne_nil g earlier)]
    dsimp only
    rw [ih, hphase]
    have hclash := clashes_iff hagree
    by_cases hf : f.outcome = .unknown
    · have hreport : reportedOutcome (f :: g :: earlier) = reportedOutcome (g :: earlier) := by
        simp [reportedOutcome, latestReport, hf]
      rw [hreport]
      simp [hf, isSettledOutcome]
    · have hreport : reportedOutcome (f :: g :: earlier) = if clashes (g :: earlier) f then .unsettled else f.outcome := by
        unfold reportedOutcome
        rw [latestReport, if_neg hf]
      rw [hreport, hclash, if_pos hf]
      have hcondition : ((g :: earlier).any isTerminal && f.phase == .terminal &&
          isSettledOutcome (reportedOutcome (g :: earlier)) && isSettledOutcome f.outcome &&
          reportedOutcome (g :: earlier) != f.outcome) = (isTerminal f && (g :: earlier).any isTerminal &&
          isSettledOutcome f.outcome && isSettledOutcome (reportedOutcome (g :: earlier)) &&
          reportedOutcome (g :: earlier) != f.outcome) := by
        unfold isTerminal
        ac_rfl
      rw [hcondition]

theorem phase_kept_iff (hearlier : earlier ≠ [])
    (hkept : lifecycleKept earlier) : ((f :: earlier).any isTerminal = true → (mergedLifecycle (f :: earlier)).1 = .terminal) ↔
      (f.phase == .progress && earlier.any isTerminal) = false := by
  have hphase : earlier.any isTerminal = true → (mergedLifecycle earlier).1 = .terminal := by
    cases earlier with
    | nil => exact absurd rfl hearlier
    | cons g earlier => exact hkept.2.1
  rw [mergedLifecycle_cons f hearlier]
  dsimp only
  cases hf : f.phase with
  | terminal => simp
  | progress => cases hany : earlier.any isTerminal <;> simp [isTerminal, hf, hany]
  | started =>
    simp only [any_cons, isTerminal, hf, reduceCtorEq, or_self, if_false]
    constructor
    · intro _
      rfl
    · intro _ hany
      exact hphase (by simpa using hany)

theorem outcome_kept_iff (hearlier : earlier ≠ [])
    (hkept : lifecycleKept earlier) :
    (conflicting (f :: earlier) = true → (mergedLifecycle (f :: earlier)).2 = .unsettled) ↔
      (!conflicting (f :: earlier) ||
        if conflicting earlier then f.outcome == .unknown || f.outcome == .unsettled else detected earlier f) = true := by
  cases hconflict : conflicting (f :: earlier) with
  | false => simp
  | true =>
    rw [mergedLifecycle_cons f hearlier]
    dsimp only
    simp only [forall_const, Bool.not_true, Bool.false_or]
    cases hearlierConflict : conflicting earlier with
    | true =>
      have hunsettled : (mergedLifecycle earlier).2 = .unsettled := by
        cases earlier with
        | nil => exact absurd rfl hearlier
        | cons g earlier => exact hkept.2.2 hearlierConflict
      rw [hunsettled]
      by_cases hf : f.outcome = .unknown <;> simp [isSettledOutcome, hf]
    | false =>
      obtain ⟨hterminal, hsettled, g, hg, hgterminal, -, -⟩ := new_conflict hconflict hearlierConflict
      have hphase : (mergedLifecycle earlier).1 = .terminal := by
        cases earlier with
        | nil => exact absurd rfl hearlier
        | cons g' earlier => exact hkept.2.1 (any_eq_true.2 ⟨g, hg, by simp [isTerminal, hgterminal]⟩)
      have hunknown : f.outcome ≠ .unknown := by
        intro h
        rw [h] at hsettled
        cases hsettled
      have hunsettled : f.outcome ≠ .unsettled := by
        intro h
        rw [h] at hsettled
        cases hsettled
      rw [mergedLifecycle_outcome hkept hearlierConflict, hphase, hterminal, hsettled]
      have hdetected : detected earlier f =
          (isSettledOutcome (reportedOutcome earlier) && reportedOutcome earlier != f.outcome) := by
        unfold detected reportedOutcome
        cases latestReport earlier with
        | none => rfl
        | some p =>
          cases hclash : clashes p.2 p.1 with
          | true => simp [hclash, isSettledOutcome]
          | false => simp [hclash]
      rw [hdetected]
      simp [hunknown, hunsettled]

theorem lifecycleKept_iff : ∀ seen : List EvidenceActivityFacts, lifecycleKept seen ↔ staysSettled seen = true
  | [] => by simp [lifecycleKept, staysSettled]
  | [f] => by
    have hagree : conflicting [f] = false := by simp [conflicting]
    simp [lifecycleKept, staysSettled, mergedLifecycle, hagree, isTerminal]
  | f :: g :: earlier => by
    have ih := lifecycleKept_iff (g :: earlier)
    rw [lifecycleKept, staysSettled, Bool.and_eq_true, Bool.and_eq_true, Bool.not_eq_true', ← ih, and_assoc]
    refine and_congr_right fun hkept => ?_
    exact and_congr (phase_kept_iff (cons_ne_nil g earlier) hkept) (outcome_kept_iff (cons_ne_nil g earlier) hkept)

/-! ## The law and the condition -/

section

variable {version : Classifier} {first : ReportedFacts} {activity : CanonicalRuntimeActivity}

theorem newProjection_shows (h : newProjection version first = some activity) : activity.phase = first.facts.phase ∧
    activity.outcome = first.facts.outcome ∧ activity.sourceEvidenceIds = [first.evidenceId] := by
  unfold newProjection at h
  cases hactivity : first.facts.isActivity with
  | false => simp [hactivity] at h
  | true =>
    simp only [hactivity, if_true, Option.some.injEq] at h
    subst h
    exact ⟨rfl, rfl, rfl⟩

theorem mergeAll_lifecycle (h : newProjection version first = some activity) (seen : List ReportedFacts) :
    ((mergeAll activity seen).phase, (mergeAll activity seen).outcome) =
      mergedLifecycle ((first :: seen).map ReportedFacts.facts).reverse := by
  induction seen using List.reverseRecOn with
  | nil =>
    obtain ⟨hphase, houtcome, -⟩ := newProjection_shows h
    rw [mergeAll_nil, hphase, houtcome]
    rfl
  | append_singleton seen reported ih =>
    have hne : ((first :: seen).map ReportedFacts.facts).reverse ≠ [] := by simp
    have hsnoc : ((first :: (seen ++ [reported])).map ReportedFacts.facts).reverse =
        reported.facts :: ((first :: seen).map ReportedFacts.facts).reverse := by simp
    rw [hsnoc, mergedLifecycle_cons _ hne, ← ih, mergeAll_snoc, mergeProjection_phase, mergeProjection_outcome]
    rfl

theorem mergeAll_sourceEvidenceIds (h : newProjection version first = some activity) (seen : List ReportedFacts) :
    (mergeAll activity seen).sourceEvidenceIds = ((first :: seen).map ReportedFacts.evidenceId).eraseDups := by
  induction seen using List.reverseRecOn with
  | nil =>
    obtain ⟨-, -, hids⟩ := newProjection_shows h
    rw [mergeAll_nil, hids]
    rfl
  | append_singleton seen reported ih =>
    have hsnoc : (first :: (seen ++ [reported])).map ReportedFacts.evidenceId =
        (first :: seen).map ReportedFacts.evidenceId ++ [reported.evidenceId] := by simp
    rw [mergeAll_snoc, mergeProjection_sourceEvidenceIds, ih, hsnoc, Lists.eraseDups_snoc]
    simp

theorem conflicting_reverse : conflicting seen.reverse = conflicting seen := by
  simp [conflicting]

theorem lifecycleKept_history (h : newProjection version first = some activity) (rest : List ReportedFacts) :
    lifecycleKept ((first :: rest).map ReportedFacts.facts).reverse ↔ ∀ seen later, rest = seen ++ later →
      (((first :: seen).any (fun r => isTerminal r.facts)) = true → (mergeAll activity seen).phase = .terminal) ∧
      (conflicting ((first :: seen).map ReportedFacts.facts) = true → (mergeAll activity seen).outcome = .unsettled) := by
  induction rest using List.reverseRecOn with
  | nil =>
    obtain ⟨hphase, -, -⟩ := newProjection_shows h
    constructor
    · intro _ seen later hsplit
      obtain ⟨rfl, -⟩ := append_eq_nil_iff.1 hsplit.symm
      rw [mergeAll_nil, hphase]
      exact ⟨by simp [isTerminal], by simp [conflicting]⟩
    · intro _
      exact (lifecycleKept_iff [first.facts]).2 (by simp [staysSettled, conflicting])
  | append_singleton rest reported ih =>
    have hsnoc : ((first :: (rest ++ [reported])).map ReportedFacts.facts).reverse =
        reported.facts :: ((first :: rest).map ReportedFacts.facts).reverse := by simp
    have hlifecycle := mergeAll_lifecycle h (rest ++ [reported])
    rw [Prod.mk.injEq] at hlifecycle
    rw [hsnoc] at hlifecycle
    rw [hsnoc, lifecycleKept, ih, ← hlifecycle.1, ← hlifecycle.2, ← hsnoc, conflicting_reverse, any_reverse, any_map]
    constructor
    · rintro ⟨hrest, hphase, houtcome⟩ seen later hsplit
      obtain ⟨rfl, -⟩ | ⟨later', hrest', -⟩ := Lists.snoc_eq_append hsplit
      · exact ⟨hphase, houtcome⟩
      · exact hrest seen later' hrest'
    · intro hlaw
      refine ⟨fun seen later hsplit => hlaw seen (later ++ [reported]) (by rw [hsplit, append_assoc]), ?_⟩
      exact hlaw (rest ++ [reported]) [] (by rw [append_nil])

end

/-- **When merging is monotone**: exactly if, in the facts merged, no progress follows a terminal fact, the first terminal fact
that contradicts an earlier one also contradicts the outcome reported last, and no outcome is settled after it. -/
theorem activityMerging_monotone_iff (version : Classifier) (first : ReportedFacts) (activity : CanonicalRuntimeActivity)
    (rest : List ReportedFacts) (h : newProjection version first = some activity) :
    MergesMonotonically first activity rest ↔
      staysSettled ((first :: rest).map ReportedFacts.facts).reverse = true := by
  rw [← lifecycleKept_iff, lifecycleKept_history h]
  constructor
  · intro hlaw seen later hsplit
    exact ⟨hlaw.phase seen later hsplit, hlaw.outcome seen later hsplit⟩
  · intro hkept
    refine ⟨fun seen later hsplit => (hkept seen later hsplit).1, fun seen later hsplit => (hkept seen later hsplit).2,
      ?_, ?_, ?_, ?_⟩
    · intro seen r later _
      rw [mergeAll_snoc]
      exact credibility_le_merge _ r
    · intro seen r later _ houtranked
      rw [mergeAll_snoc]
      exact classification_of_outranked _ r houtranked
    · intro seen r later _ hcore
      rw [mergeAll_snoc]
      exact sourceAuthority_of_core _ r hcore
    · intro seen later _
      exact mergeAll_sourceEvidenceIds h seen

/-! ## Facts that reopen a projection -/

def shellEvent (evidenceId : EvidenceId) (sequence : Nat) (phase status : String) : ReportedFacts where
  facts :=
    let payload := Json.mkObj [("status", .str status)]
    { isActivity := true, operationId := "operation", activityDomain := "shell", semanticKind := some "shell.execute"
      classificationIsStructured := true, toolName := none, presentationHint := none, presentationHintIsExplicit := false
      diffProjection := none, phase := canonicalPhase "runtime.action" phase payload
      outcome := canonicalOutcome (canonicalPhase "runtime.action" phase payload) payload, credibility := .runtimeStructured
      coverageLevel := .fineGrained, sourceAuthority := "runtime" }
  evidenceId := evidenceId
  sequence := sequence

/-- An operation that starts, fails and is then reported as completed stays unsettled. -/
theorem activityMerging_monotone_conflict : ∃ activity,
    newProjection .current (shellEvent "first" 1 "started" "running") = some activity ∧
      MergesMonotonically (shellEvent "first" 1 "started" "running") activity
        [shellEvent "second" 2 "failed" "failed", shellEvent "third" 3 "completed" "completed"] :=
  ⟨_, rfl, (activityMerging_monotone_iff .current _ _ _ rfl).2 (by decide)⟩

/-- Progress that is late reopens a completed operation, and one more report settles a conflict. -/
theorem activityMerging_reopens :
    (∃ activity, newProjection .current (shellEvent "first" 1 "completed" "completed") = some activity ∧
      ¬MergesMonotonically (shellEvent "first" 1 "completed" "completed") activity
        [shellEvent "second" 2 "updated" "running"] ∧
      (mergeAll activity [shellEvent "second" 2 "updated" "running"]).phase = .progress) ∧
    ∃ activity, newProjection .current (shellEvent "first" 1 "completed" "completed") = some activity ∧
      ¬MergesMonotonically (shellEvent "first" 1 "completed" "completed") activity
        [shellEvent "second" 2 "failed" "failed", shellEvent "third" 3 "failed" "failed"] ∧
      (mergeAll activity [shellEvent "second" 2 "failed" "failed", shellEvent "third" 3 "failed" "failed"]).outcome = .failed := by
  refine ⟨⟨_, rfl, fun h => ?_, rfl⟩, _, rfl, fun h => ?_, rfl⟩
  · have hphase := h.phase [shellEvent "second" 2 "updated" "running"] [] rfl (by decide)
    cases hphase
  · have houtcome := h.outcome [shellEvent "second" 2 "failed" "failed", shellEvent "third" 3 "failed" "failed"] [] rfl
      (by decide)
    cases houtcome

end Rovai
