import RovaiCore.RuntimeDiff
/-!
# The replayed diff is the live one

Each dialect stores evidence that shows the admitted entry again (`read_admitEntry` and its like), the loops keep that for
the entries so far (`ReadsBack`), and so for every admitted candidate (`admitted_reads_back`).
-/
namespace Rovai

open Lines (Text)
open Fallible (orError_eq_ok bind_eq_ok guard_eq_ok)

/-! ## Stored evidence shows its entry -/

theorem asText_jsonText (t : Text) : asText (jsonText t) = some t := congrArg some String.toList_ofList

theorem optionalText_stored (t : Option Text) : optionalText (some (Json.ofOption (t.map jsonText))) = some t := by
  cases t with
  | none => rfl
  | some t => exact congrArg (some ∘ some) String.toList_ofList

variable {changeKind : String} {diff : Text}

theorem read_fullEvidence {path : Text} {before after : Option Text}
    (h : unifiedDiffFromCompleteStates path before after = some diff) :
    commandDiffEntryFromEvidence (fullEvidence path changeKind before after) = some (diffEntry path changeKind diff) := by
  have hsemantics : (fullEvidence path changeKind before after).strField "semantics" = some "full_before_after" := rfl
  have hpath : textField "path" (fullEvidence path changeKind before after) = some path := asText_jsonText path
  have hkind : (fullEvidence path changeKind before after).strField "changeKind" = some changeKind := rfl
  have hbefore : optionalText ((fullEvidence path changeKind before after).get? "before") = some before :=
    optionalText_stored before
  have hafter : optionalText ((fullEvidence path changeKind before after).get? "after") = some after :=
    optionalText_stored after
  simp only [commandDiffEntryFromEvidence, hsemantics, hpath, hkind, hbefore, hafter, Option.bind_eq_bind, Option.bind_some, h]
  rfl

theorem read_unifiedEvidence (path : Text) (changeKind : String) (diff : Text) :
    commandDiffEntryFromEvidence (unifiedEvidence path changeKind diff) = some (diffEntry path changeKind diff) := by
  have hsemantics : (unifiedEvidence path changeKind diff).strField "semantics" = some "unified_diff_snapshot" := rfl
  have hpath : textField "path" (unifiedEvidence path changeKind diff) = some path := asText_jsonText path
  have hkind : (unifiedEvidence path changeKind diff).strField "changeKind" = some changeKind := rfl
  have hdiff : textField "diff" (unifiedEvidence path changeKind diff) = some diff := asText_jsonText diff
  simp only [commandDiffEntryFromEvidence, hsemantics, hpath, hkind, hdiff, Option.bind_eq_bind, Option.bind_some]
  rfl

theorem read_exactEvidence {path oldText newText : Text} (h : oldText ≠ newText) :
    commandDiffEntryFromEvidence (exactEvidence path oldText newText) = some (exactEntry path oldText newText) := by
  have hsemantics : (exactEvidence path oldText newText).strField "semantics" = some "exact_mutation" := rfl
  have hpath : textField "path" (exactEvidence path oldText newText) = some path := asText_jsonText path
  have hold : textField "oldText" (exactEvidence path oldText newText) = some oldText := asText_jsonText oldText
  have hnew : textField "newText" (exactEvidence path oldText newText) = some newText := asText_jsonText newText
  simp only [commandDiffEntryFromEvidence, hsemantics, hpath, hold, hnew, Option.bind_eq_bind, Option.bind_some]
  exact if_pos h

theorem decode_storedFragment (f : Fragment) : decodeFragment (storedFragment f) = some f := by
  have hold : (structField 2 0 "oldText" (storedFragment f)).bind asText = some f.oldText := asText_jsonText f.oldText
  have hnew : (structField 2 1 "newText" (storedFragment f)).bind asText = some f.newText := asText_jsonText f.newText
  simp only [decodeFragment, hold, hnew, Option.bind_eq_bind, Option.bind_some]
  rfl

theorem mapM_storedFragment : ∀ fragments : List Fragment, (fragments.map storedFragment).mapM decodeFragment = some fragments
  | [] => rfl
  | f :: fragments => by
    rw [List.map_cons, List.mapM_cons, decode_storedFragment, mapM_storedFragment fragments]
    rfl

theorem decode_reportedEvidence (e : ReportedMutationEntry) : decodeReportedMutation (reportedEvidence e) = some e := by
  have hsemantics : (structField 3 0 "semantics" (reportedEvidence e)).bind Json.asStr = some e.semantics := rfl
  have hpath : (structField 3 1 "path" (reportedEvidence e)).bind asText = some e.path := asText_jsonText e.path
  have hitems : (structField 3 2 "fragments" (reportedEvidence e)).bind Json.asArr = some (e.fragments.map storedFragment) := rfl
  simp only [decodeReportedMutation, hsemantics, hpath, hitems, mapM_storedFragment, Option.bind_eq_bind, Option.bind_some]
  rfl

theorem read_reportedEvidence {e : ReportedMutationEntry} {additions deletions : Nat}
    (hsemantics : e.semantics = "reported_mutation") (h : reportedFragmentDiff e.fragments = some (diff, additions, deletions)) :
    commandDiffEntryFromEvidence (reportedEvidence e) =
      some { path := e.path, changeKind := "update", additions, deletions, diff } := by
  have hstored : (reportedEvidence e).strField "semantics" = some "reported_mutation" := congrArg some hsemantics
  have hpath : textField "path" (reportedEvidence e) = some e.path := asText_jsonText e.path
  have hdiff : reportedMutationDiff (reportedEvidence e) = some (diff, additions, deletions) := by
    rw [reportedMutationDiff, decode_reportedEvidence, Option.bind_some, if_pos hsemantics, h]
  simp only [commandDiffEntryFromEvidence, hstored, hpath, hdiff, Option.bind_eq_bind, Option.bind_some]
  rfl

/-! ## Reading an admission step by step -/

variable {evidence : Json}

theorem read_patchEvidence {content sourcePath path : Text}
    (hpath : changeKind ≠ "update" → path = sourcePath)
    (h : patchEvidence content sourcePath path changeKind = .ok (diff, evidence)) :
    commandDiffEntryFromEvidence evidence = some (diffEntry path changeKind diff) := by
  unfold patchEvidence at h
  split at h
  · rw [Except.ok.injEq, Prod.mk.injEq] at h
    obtain ⟨rfl, rfl⟩ := h
    exact read_fullEvidence rfl
  split at h
  · rename_i hdelete
    rw [Except.ok.injEq, Prod.mk.injEq] at h
    obtain ⟨rfl, rfl⟩ := h
    rw [hpath (by rw [hdelete]; decide)]
    exact read_fullEvidence rfl
  split at h
  · rw [guard_eq_ok, Except.ok.injEq, Prod.mk.injEq] at h
    obtain ⟨-, rfl, rfl⟩ := h
    exact read_unifiedEvidence path changeKind content
  · cases h

variable {raw : Json}

theorem read_completeEvidence {path : Text}
    (h : completeEvidence raw path changeKind = .ok (diff, evidence)) :
    commandDiffEntryFromEvidence evidence = some (diffEntry path changeKind diff) := by
  unfold completeEvidence at h
  obtain ⟨oldText, -, h⟩ := bind_eq_ok.1 h
  obtain ⟨newText, -, h⟩ := bind_eq_ok.1 h
  rw [guard_eq_ok, guard_eq_ok, Except.ok.injEq, Prod.mk.injEq] at h
  obtain ⟨hne, -, rfl, rfl⟩ := h
  refine read_fullEvidence ?_
  rw [unifiedDiffFromCompleteStates, if_neg hne]

variable {c : AdmissionContext}

theorem read_entryEvidence {rawPath sourcePath path : Text}
    (hpath : changeKind ≠ "update" → path = sourcePath)
    (h : entryEvidence c raw rawPath sourcePath path changeKind = .ok (diff, evidence)) :
    commandDiffEntryFromEvidence evidence = some (diffEntry path changeKind diff) := by
  unfold entryEvidence at h
  split at h
  · obtain ⟨content, -, h⟩ := bind_eq_ok.1 h
    rw [guard_eq_ok] at h
    obtain ⟨content', -, h⟩ := bind_eq_ok.1 h.2
    exact read_patchEvidence hpath h
  split at h
  · exact read_completeEvidence h
  · cases h

theorem targetPath_of_not_update {sourcePath path : Text}
    (h : targetPath c raw sourcePath changeKind = .ok path) (hkind : changeKind ≠ "update") : path = sourcePath := by
  unfold targetPath at h
  rw [if_neg (fun hc => hkind hc.2), Except.ok.injEq] at h
  exact h.symm

theorem read_admitEntry {entry : NormalizedDiffEntry}
    (h : admitEntry c raw = .ok (some (entry, evidence))) : commandDiffEntryFromEvidence evidence = some entry := by
  unfold admitEntry at h
  obtain ⟨rawPath, -, h⟩ := bind_eq_ok.1 h
  split at h
  · cases h
  obtain ⟨sourcePath, -, h⟩ := bind_eq_ok.1 h
  obtain ⟨changeKind, -, h⟩ := bind_eq_ok.1 h
  obtain ⟨path, hpath, h⟩ := bind_eq_ok.1 h
  obtain ⟨⟨diff, stored⟩, hstored, h⟩ := bind_eq_ok.1 h
  rw [Except.ok.injEq, Option.some.injEq, Prod.mk.injEq] at h
  obtain ⟨rfl, rfl⟩ := h
  exact read_entryEvidence (targetPath_of_not_update hpath) hstored

/-! ## The loops -/

def ReadsBack (a : Admission) : Prop := a.evidence.mapM commandDiffEntryFromEvidence = some a.entries

variable {a a' : Admission}

theorem readsBack_push {bytes : Nat} {entry : NormalizedDiffEntry} (ha : ReadsBack a)
    (hread : commandDiffEntryFromEvidence evidence = some entry) (h : a.push bytes entry evidence = .ok a') : ReadsBack a' := by
  unfold Admission.push at h
  rw [guard_eq_ok, Except.ok.injEq] at h
  obtain ⟨-, rfl⟩ := h
  unfold ReadsBack at ha ⊢
  simp only [List.mapM_append, List.mapM_cons, List.mapM_nil, ha, hread]
  rfl

theorem readsBack_patchEntry (ha : ReadsBack a)
    (h : a.patchEntry c raw = .ok a') : ReadsBack a' := by
  unfold Admission.patchEntry at h
  obtain ⟨admitted, hadmitted, h⟩ := bind_eq_ok.1 h
  cases admitted with
  | none =>
    rw [Except.ok.injEq] at h
    exact h ▸ ha
  | some x =>
    obtain ⟨entry, evidence⟩ := x
    simp only at h
    rw [guard_eq_ok] at h
    exact readsBack_push ha (read_admitEntry hadmitted) h.2

theorem readsBack_exactEntry (ha : ReadsBack a)
    (h : a.exactEntry c raw = .ok a') : ReadsBack a' := by
  unfold Admission.exactEntry at h
  rw [guard_eq_ok, guard_eq_ok] at h
  obtain ⟨rawPath, -, h⟩ := bind_eq_ok.1 h.2.2
  split at h
  · rw [Except.ok.injEq] at h
    exact h ▸ ha
  obtain ⟨path, -, h⟩ := bind_eq_ok.1 h
  obtain ⟨oldText, -, h⟩ := bind_eq_ok.1 h
  obtain ⟨newText, -, h⟩ := bind_eq_ok.1 h
  rw [guard_eq_ok, guard_eq_ok] at h
  obtain ⟨hne, -, h⟩ := h
  obtain ⟨pushed, hpushed, h⟩ := bind_eq_ok.1 h
  rw [guard_eq_ok, Except.ok.injEq] at h
  exact h.2 ▸ readsBack_push ha (read_exactEvidence hne) hpushed

theorem readsBack_reportedEntry (ha : ReadsBack a)
    (h : a.reportedEntry c raw = .ok a') : ReadsBack a' := by
  unfold Admission.reportedEntry at h
  obtain ⟨entry, -, h⟩ := bind_eq_ok.1 h
  rw [guard_eq_ok] at h
  obtain ⟨hsemantics, h⟩ := h
  rw [ne_eq, Decidable.not_not] at hsemantics
  split at h
  · rw [Except.ok.injEq] at h
    exact h ▸ ha
  obtain ⟨path, -, h⟩ := bind_eq_ok.1 h
  rw [guard_eq_ok] at h
  obtain ⟨⟨diff, additions, deletions⟩, hdiff, h⟩ := bind_eq_ok.1 h.2
  rw [orError_eq_ok] at hdiff
  exact readsBack_push ha (read_reportedEvidence (e := { entry with path := path }) hsemantics hdiff) h

theorem readsBack_foldlM {step : Admission → Json → Except String Admission}
    (hstep : ∀ a raw a', ReadsBack a → step a raw = .ok a' → ReadsBack a') : ∀ (raws : List Json) (a a' : Admission),
    ReadsBack a → raws.foldlM step a = .ok a' → ReadsBack a'
  | [], a, a', ha, h => by
    rw [List.foldlM_nil] at h
    exact (Except.ok.inj h) ▸ ha
  | raw :: raws, a, a', ha, h => by
    rw [List.foldlM_cons] at h
    obtain ⟨next, hnext, h⟩ := bind_eq_ok.1 h
    exact readsBack_foldlM hstep raws next a' (hstep a raw next ha hnext) h

theorem readsBack_start : ReadsBack Admission.start := rfl

theorem readsBack_finish {a : Admission} {semanticKind : String} {admitted : AdmittedCommandDiff} (ha : ReadsBack a)
    (h : a.finish semanticKind = .ok admitted) :
    admitted.evidenceEntries.mapM commandDiffEntryFromEvidence = some admitted.entries := by
  unfold Admission.finish at h
  rw [guard_eq_ok, Except.ok.injEq] at h
  rw [← h.2]
  exact ha

theorem readsBack_admitCandidate {candidate : Json} {root : ExecutionRoot} {frozenAdapterKind : Option String}
    {fileOperationPath managedOutputRoot : Option Text} {admitted : AdmittedCommandDiff}
    (h : admitCandidate candidate root frozenAdapterKind fileOperationPath managedOutputRoot = .ok admitted) :
    admitted.evidenceEntries.mapM commandDiffEntryFromEvidence = some admitted.entries := by
  unfold admitCandidate at h
  obtain ⟨adapterKind, -, h⟩ := bind_eq_ok.1 h
  rw [guard_eq_ok] at h
  obtain ⟨protocolFamily, -, h⟩ := bind_eq_ok.1 h.2
  obtain ⟨sourceEventKind, -, h⟩ := bind_eq_ok.1 h
  obtain ⟨semanticKind, -, h⟩ := bind_eq_ok.1 h
  obtain ⟨adapter, -, h⟩ := bind_eq_ok.1 h
  rw [guard_eq_ok] at h
  obtain ⟨raws, -, h⟩ := bind_eq_ok.1 h.2
  rw [guard_eq_ok] at h
  obtain ⟨-, h⟩ := h
  simp only at h
  split at h
  · obtain ⟨a, ha, h⟩ := bind_eq_ok.1 h
    exact readsBack_finish (readsBack_foldlM (fun _ _ _ => readsBack_exactEntry) raws _ a readsBack_start ha) h
  split at h
  · obtain ⟨a, ha, h⟩ := bind_eq_ok.1 h
    rw [guard_eq_ok] at h
    exact readsBack_finish (readsBack_foldlM (fun _ _ _ => readsBack_reportedEntry) raws _ a readsBack_start ha) h.2
  · obtain ⟨a, ha, h⟩ := bind_eq_ok.1 h
    exact readsBack_finish (readsBack_foldlM (fun _ _ _ => readsBack_patchEntry) raws _ a readsBack_start ha) h

/-- **The replayed diff is the live one.**  For every candidate that is admitted, whatever its dialect, root, adapter, file
operation and managed output root, the stored evidence reads back as the admitted entries, one for one in order. -/
theorem admitted_reads_back (candidate : Json) (root : ExecutionRoot) (frozenAdapterKind : Option String)
    (fileOperationPath managedOutputRoot : Option Text) (admitted : AdmittedCommandDiff)
    (h : admitCandidate candidate root frozenAdapterKind fileOperationPath managedOutputRoot = .ok admitted)
    (payload sourceMetadata : Json) (hstored : payload.get? "runtimeDiff" = some (storedDiff admitted sourceMetadata))
    (evidenceId : String) :
    ∃ projection, projectionFromEvidence payload evidenceId = some projection ∧ projection.status = "available" ∧
      projection.semanticKind = some admitted.semanticKind ∧ projection.entries = some admitted.entries := by
  refine ⟨projectionFromAdmitted admitted.semanticKind admitted.entries evidenceId, ?_, rfl, rfl, rfl⟩
  have hversion : (storedDiff admitted sourceMetadata).get? "schemaVersion" = some (.num commandDiffSchemaVersion) := rfl
  have hstatus : (storedDiff admitted sourceMetadata).strField "status" = some "available" := rfl
  have hkind : (storedDiff admitted sourceMetadata).strField "semanticKind" = some admitted.semanticKind := rfl
  have hentries : ((storedDiff admitted sourceMetadata).get? "entries").bind Json.asArr = some admitted.evidenceEntries := rfl
  rw [projectionFromEvidence, hstored, Option.bind_some, if_neg (fun hne => hne hversion)]
  simp only [hstatus, hkind, hentries, readsBack_admitCandidate h, Option.bind_eq_bind, Option.bind_some]
  rfl

def acpCandidate : Json :=
  .obj [("adapterKind", .str "qwen-code"),
    ("entries", .arr [.obj [("newText", .str "b\n"), ("oldText", .str "a\n"), ("path", .str "x")]]),
    ("protocolFamily", .str "acp-v1"), ("semanticKind", .str "complete_before_after"),
    ("sourceEventKind", .str "session/update.tool_call_update.completed")]

def acpRoot : ExecutionRoot := { path := "/repo".toList, urlFilePath := fun _ => none }

theorem admitted_reads_back_acp : ∃ admitted, admitCandidate acpCandidate acpRoot (some "qwen-code") none none = .ok admitted ∧
    ∃ projection, projectionFromEvidence (.obj [("runtimeDiff", storedDiff admitted .null)]) "e" = some projection ∧
      projection.status = "available" ∧ projection.semanticKind = some admitted.semanticKind ∧
      projection.entries = some admitted.entries :=
  ⟨_, rfl, admitted_reads_back acpCandidate acpRoot (some "qwen-code") none none _ rfl _ .null rfl "e"⟩

end Rovai
