import RovaiCore.EvidenceLog
import RovaiCore.RuntimeDiff
/-!
# The canonical activity of an operation (`canonical_activity.rs`)

One projection shows an operation.
-/
namespace Rovai

/-! ## Facts -/

inductive ActivityPhase where
  | started
  | progress
  | terminal
  deriving DecidableEq

inductive ActivityOutcome where
  | succeeded
  | failed
  | denied
  | cancelled
  | notExecuted
  | unsettled
  | unknown
  deriving DecidableEq

inductive Credibility where
  | runtimeReported
  | runtimeStructured
  | coreVerified

inductive CoverageLevel where
  | runLevel
  | fineGrained
  | unknown
  deriving DecidableEq

structure EvidenceActivityFacts where
  isActivity : Bool
  (operationId activityDomain : String)
  semanticKind : Option String
  classificationIsStructured : Bool
  (toolName presentationHint : Option String)
  presentationHintIsExplicit : Bool
  diffProjection : Option CommandDiffProjection
  phase : ActivityPhase
  outcome : ActivityOutcome
  credibility : Credibility
  coverageLevel : CoverageLevel
  sourceAuthority : String

def canonicalPhase (eventType phase : String) (payload : Json) : ActivityPhase :=
  if eventType = "activity.started" || phase = "started" then .started
  else if eventType = "activity.completed" || phase = "completed" || phase = "failed" then .terminal
  else if (payload.strField "status").any (fun status =>
      ["completed", "succeeded", "failed", "declined", "cancelled", "error"].contains status) then .terminal
  else .progress

def canonicalOutcome (phase : ActivityPhase) (payload : Json) : ActivityOutcome :=
  match (payload.strField "status").or (payload.strAt ["item", "status"]) with
  | some "succeeded" | some "completed" | some "success" => .succeeded
  | some "failed" | some "error" => .failed
  | some "declined" | some "denied" => .denied
  | some "cancelled" | some "canceled" => .cancelled
  | some "not_executed" => .notExecuted
  | _ => if phase = .terminal then .unsettled else .unknown

def isSettledOutcome : ActivityOutcome → Bool
  | .succeeded | .failed | .denied | .cancelled | .notExecuted => true
  | _ => false

def credibilityRank : Credibility → Nat
  | .coreVerified => 3
  | .runtimeStructured => 2
  | .runtimeReported => 1

/-! ## The projection -/

structure CanonicalRuntimeActivity where
  operationId : String
  classifierVersion : Classifier
  activityDomain : String
  (semanticKind toolName presentationHint : Option String)
  diffProjection : Option CommandDiffProjection
  phase : ActivityPhase
  outcome : ActivityOutcome
  credibility : Credibility
  coverageLevel : CoverageLevel
  sourceAuthority : String
  sourceEvidenceIds : List EvidenceId
  (firstEvidenceSequence lastEvidenceSequence revision : Nat)

structure ReportedFacts where
  facts : EvidenceActivityFacts
  evidenceId : EvidenceId
  sequence : Nat

def newProjection (classifierVersion : Classifier) (reported : ReportedFacts) : Option CanonicalRuntimeActivity :=
  let facts := reported.facts
  if facts.isActivity then
    some {
      operationId := facts.operationId, classifierVersion := classifierVersion, activityDomain := facts.activityDomain
      semanticKind := facts.semanticKind, toolName := facts.toolName, presentationHint := facts.presentationHint
      diffProjection := facts.diffProjection, phase := facts.phase, outcome := facts.outcome, credibility := facts.credibility
      coverageLevel := facts.coverageLevel, sourceAuthority := facts.sourceAuthority
      sourceEvidenceIds := [reported.evidenceId], firstEvidenceSequence := reported.sequence
      lastEvidenceSequence := reported.sequence, revision := 1 }
  else none

/-! ## Merging -/

def mergeDiffProjection (current : Option CommandDiffProjection) (incoming : CommandDiffProjection) : CommandDiffProjection :=
  match current with
  | none => incoming
  | some current =>
    let sourceEvidenceIds := incoming.sourceEvidenceIds.foldl (fun ids id => if ids.contains id then ids else ids ++ [id])
      current.sourceEvidenceIds
    if current.status = incoming.status ∧ current.semanticKind = incoming.semanticKind ∧ current.entries = incoming.entries ∧
        current.safeReasonCode = incoming.safeReasonCode then { current with sourceEvidenceIds := sourceEvidenceIds }
    else
      { current with
        sourceEvidenceIds := sourceEvidenceIds, revision := current.revision + 1, status := "conflict", semanticKind := none
        entries := none, safeReasonCode := some "runtime_diff_conflicting_terminal_snapshots" }

def defaultPresentationHint (activityDomain : String) (semanticKind : Option String) : Option String :=
  match activityDomain, semanticKind with
  | "shell", _ => some "执行 Shell 命令"
  | "file", some "file.read" => some "读取文件"
  | "file", _ => some "修改文件"
  | "tool", some "tool.web.search" => some "Web 搜索"
  | "tool", _ => some "Runtime 工具调用"
  | "runtime", _ => some "Agent 正在处理"
  | _, _ => none

variable (activity : CanonicalRuntimeActivity) (facts : EvidenceActivityFacts)

def settlesOtherwise : Bool :=
  activity.phase == .terminal && facts.phase == .terminal && isSettledOutcome activity.outcome &&
    isSettledOutcome facts.outcome && activity.outcome != facts.outcome

def replacesClassification : Bool :=
  (facts.classificationIsStructured || (activity.activityDomain == "unknown" && facts.activityDomain != "unknown")) &&
    decide (credibilityRank activity.credibility ≤ credibilityRank facts.credibility)

def replacesHint : Bool :=
  facts.presentationHintIsExplicit || activity.presentationHint == none ||
    (replacesClassification activity facts && activity.presentationHint ==
      (if activity.classifierVersion = .legacy then defaultPresentationHint activity.activityDomain activity.semanticKind
        else none))

def mergeProjection (reported : ReportedFacts) : CanonicalRuntimeActivity :=
  let facts := reported.facts
  let outranked := decide (credibilityRank facts.credibility < credibilityRank activity.credibility)
  { activity with
    diffProjection :=
      match facts.diffProjection with
      | some incoming => some (mergeDiffProjection activity.diffProjection incoming)
      | none => activity.diffProjection
    outcome :=
      if settlesOtherwise activity facts then .unsettled
      else if facts.outcome ≠ .unknown then facts.outcome
      else activity.outcome
    phase := if facts.phase = .terminal ∨ facts.phase = .progress then facts.phase else activity.phase
    activityDomain := if replacesClassification activity facts then facts.activityDomain else activity.activityDomain
    semanticKind := if replacesClassification activity facts then facts.semanticKind else activity.semanticKind
    toolName := if facts.toolName.isSome && !outranked then facts.toolName else activity.toolName
    presentationHint := if replacesHint activity facts then facts.presentationHint else activity.presentationHint
    credibility :=
      if credibilityRank activity.credibility < credibilityRank facts.credibility then facts.credibility
      else activity.credibility
    coverageLevel := if activity.coverageLevel = .unknown then facts.coverageLevel else activity.coverageLevel
    sourceAuthority := if activity.sourceAuthority = "core" then activity.sourceAuthority else facts.sourceAuthority
    sourceEvidenceIds :=
      if activity.sourceEvidenceIds.contains reported.evidenceId then activity.sourceEvidenceIds
      else activity.sourceEvidenceIds ++ [reported.evidenceId]
    lastEvidenceSequence := reported.sequence
    revision := activity.revision + 1 }

def mergeAll (later : List ReportedFacts) : CanonicalRuntimeActivity :=
  later.foldl mergeProjection activity

@[simp] theorem mergeAll_nil : mergeAll activity [] = activity := rfl

theorem mergeAll_snoc (later : List ReportedFacts) (reported : ReportedFacts) :
    mergeAll activity (later ++ [reported]) = mergeProjection (mergeAll activity later) reported := by
  rw [mergeAll, List.foldl_append]
  rfl

/-! ## What a merge keeps -/

section

variable (activity : CanonicalRuntimeActivity) (reported : ReportedFacts)

theorem mergeProjection_phase : (mergeProjection activity reported).phase =
    if reported.facts.phase = .terminal ∨ reported.facts.phase = .progress then reported.facts.phase else activity.phase := rfl

theorem mergeProjection_outcome : (mergeProjection activity reported).outcome =
    if settlesOtherwise activity reported.facts then .unsettled
    else if reported.facts.outcome ≠ .unknown then reported.facts.outcome else activity.outcome := rfl

theorem mergeProjection_sourceEvidenceIds : (mergeProjection activity reported).sourceEvidenceIds =
    if activity.sourceEvidenceIds.contains reported.evidenceId then activity.sourceEvidenceIds
    else activity.sourceEvidenceIds ++ [reported.evidenceId] := rfl

theorem credibility_le_merge :
    credibilityRank activity.credibility ≤ credibilityRank (mergeProjection activity reported).credibility := by
  unfold mergeProjection
  dsimp only
  split
  · omega
  · exact Nat.le_refl _

theorem classification_of_outranked
    (h : credibilityRank reported.facts.credibility < credibilityRank activity.credibility) :
    (mergeProjection activity reported).activityDomain = activity.activityDomain ∧
      (mergeProjection activity reported).semanticKind = activity.semanticKind ∧
      (mergeProjection activity reported).toolName = activity.toolName := by
  have hreplaces : replacesClassification activity reported.facts = false := by
    simp [replacesClassification, Nat.not_le.2 h]
  unfold mergeProjection
  simp [hreplaces, h]

theorem sourceAuthority_of_core (h : activity.sourceAuthority = "core") :
    (mergeProjection activity reported).sourceAuthority = "core" := by
  unfold mergeProjection
  simp [h]

end

end Rovai
