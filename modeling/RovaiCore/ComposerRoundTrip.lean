import RovaiCore.ComposerConversion
/-!
# Round trips of composer documents

A document's JSON is read as the document (`ComposerDocument.read_json`), so that what was serialized is parsed.
-/
namespace Rovai.ComposerContent

open List

/-! ## JSON -/

theorem ComposerAtom.read_json (a : ComposerAtom) : ComposerAtom.read a.json = some a := by
  cases a with
  | member agentId labelFallback => cases labelFallback <;> rfl
  | allMembers => rfl
  | threadReference threadId labelFallback => cases labelFallback <;> rfl
  | missionReference missionId labelFallback => cases labelFallback <;> rfl
  | skill => rfl

theorem ComposerSegment.read_json (s : ComposerSegment) : ComposerSegment.read s.json = some s := by
  cases s with
  | text t => rfl
  | atom a =>
    show (ComposerAtom.read a.json).map ComposerSegment.atom = _
    rw [ComposerAtom.read_json]
    rfl

theorem mapM_read_json (segments : List ComposerSegment) :
    (segments.map ComposerSegment.json).mapM ComposerSegment.read = some segments := by
  induction segments with
  | nil => rfl
  | cons s segments ih =>
    rw [map_cons, mapM_cons, ComposerSegment.read_json, ih]
    rfl

/-- **A document of the current version is read from its JSON.** -/
theorem ComposerDocument.read_json {d : ComposerDocument} (h : d.version = composerDocumentVersion) :
    ComposerDocument.read d.json = some d := by
  obtain ⟨version, segments⟩ := d
  obtain rfl : version = composerDocumentVersion := h
  have hversion : readVersion (some (.num composerDocumentVersion)) = some composerDocumentVersion := by decide
  have hfields : fieldsOf ["version", "segments"] (ComposerDocument.mk composerDocumentVersion segments).json =
      some [some (.num composerDocumentVersion), some (.arr (segments.map ComposerSegment.json))] := rfl
  unfold ComposerDocument.read
  rw [hfields, Option.bind_some]
  dsimp only
  rw [hversion, Option.bind_some, readList, mapM_read_json, Option.map_some]

theorem ComposerAtom.readable_json (a : ComposerAtom) (depth : Nat) : Json.Readable a.json (depth + 1) := by
  cases a with
  | member agentId labelFallback =>
    cases labelFallback with
    | none => exact ⟨show ["type", "agentId"].Nodup by decide, trivial, trivial, trivial⟩
    | some label => exact ⟨show ["type", "agentId", "labelFallback"].Nodup by decide, trivial, trivial, trivial, trivial⟩
  | allMembers => exact ⟨show ["type"].Nodup by decide, trivial, trivial⟩
  | threadReference threadId labelFallback =>
    cases labelFallback with
    | none => exact ⟨show ["type", "threadId"].Nodup by decide, trivial, trivial, trivial⟩
    | some label => exact ⟨show ["type", "threadId", "labelFallback"].Nodup by decide, trivial, trivial, trivial, trivial⟩
  | missionReference missionId labelFallback =>
    cases labelFallback with
    | none => exact ⟨show ["type", "missionId"].Nodup by decide, trivial, trivial, trivial⟩
    | some label => exact ⟨show ["type", "missionId", "labelFallback"].Nodup by decide, trivial, trivial, trivial, trivial⟩
  | skill skillId nameAtSend => exact ⟨show ["type", "skillId", "nameAtSend"].Nodup by decide, trivial, trivial, trivial, trivial⟩

theorem ComposerSegment.readable_json (s : ComposerSegment) (depth : Nat) : Json.Readable s.json (depth + 2) := by
  cases s with
  | text t => exact ⟨show ["kind", "text"].Nodup by decide, trivial, trivial, trivial⟩
  | atom a => exact ⟨show ["kind", "atom"].Nodup by decide, trivial, a.readable_json depth, trivial⟩

variable (d : ComposerDocument)

theorem ComposerDocument.readable_json (depth : Nat) : Json.Readable d.json (depth + 4) := by
  have hsegments : Json.ReadableItems (d.segments.map ComposerSegment.json) (depth + 2) := by
    rw [Json.readableItems_iff, forall_mem_map]
    exact fun s _ => s.readable_json depth
  exact ⟨show ["version", "segments"].Nodup by decide, trivial, hsegments, trivial⟩

theorem documentOf_json {digest : Json → String} {d document : ComposerDocument} (h : ComposerDocument.read d.json = some document) :
    documentOf digest d.json = .ok document := by
  obtain ⟨fields, hfields⟩ : ∃ fields, d.json = .obj fields := ⟨_, rfl⟩
  rw [hfields] at h ⊢
  unfold documentOf
  dsimp only
  rw [h]

theorem serialize_ok {d : ComposerDocument} (h : validateComposerDocument (normalizeComposerDocument d) = .ok ()) :
    serializeComposerDocument d = .ok (Json.encode (normalizeComposerDocument d).json) := by
  unfold serializeComposerDocument
  dsimp only
  rw [h]

theorem parse_ok {digest : Json → String} {value : String} {j : Json} {d : ComposerDocument} (hread : Json.read value = some j)
    (hdocument : documentOf digest j = .ok d) (h : validateComposerDocument (normalizeComposerDocument d) = .ok ()) :
    parseComposerDocumentJson digest value = .ok (normalizeComposerDocument d) := by
  unfold parseComposerDocumentJson
  rw [hread]
  dsimp only
  rw [hdocument]
  dsimp only
  rw [h]

theorem normalizeComposerDocument_idem :
    normalizeComposerDocument (normalizeComposerDocument d) = normalizeComposerDocument d :=
  congrArg (ComposerDocument.mk d.version) (composerTexts.normalize_normalize d.segments)

/-- **What was serialized is parsed**, as the normalized document. -/
theorem parse_serialize (digest : Json → String) {d : ComposerDocument} (h : validateComposerDocument d = .ok ()) :
    ∃ text, serializeComposerDocument d = .ok text ∧ parseComposerDocumentJson digest text = .ok (normalizeComposerDocument d) := by
  have hvalid := validate_normalize h
  have hversion := (validateComposerDocument_ok.1 hvalid).1
  have hreadable : Json.Readable (normalizeComposerDocument d).json 127 := (normalizeComposerDocument d).readable_json 123
  refine ⟨_, serialize_ok hvalid, ?_⟩
  have hparse := @parse_ok digest _ _ (normalizeComposerDocument d) (Json.read_encode hreadable)
    (documentOf_json (ComposerDocument.read_json hversion))
  rw [normalizeComposerDocument_idem] at hparse
  exact hparse hvalid

/-! ## Plain text -/

def ComposerDocument.mentions (agentId : String) : Prop :=
  ∃ labelFallback, .atom (.member agentId labelFallback) ∈ d.segments

def Naming (memberName : String → Option String) : Prop :=
  ∀ agentId, d.mentions agentId → ∃ name, memberName agentId = some name ∧ name.toList.head? ≠ some '@'

variable {memberName : String → Option String}

theorem plainText_toContent {s : ComposerSegment}
    (h : ∀ agentId labelFallback, s = .atom (.member agentId labelFallback) →
      ∃ name, memberName agentId = some name ∧ name.toList.head? ≠ some '@') (currentUser : String) (spaced : Bool) :
    s.toContent.plainText memberName currentUser spaced = .ok (s.plainText memberName) := by
  cases s with
  | text t => rfl
  | atom a =>
    cases a with
    | member agentId labelFallback =>
      obtain ⟨name, hname, hmark⟩ := h agentId labelFallback rfl
      simp [ComposerSegment.toContent, StructuredThreadMessageSegment.plainText, ComposerSegment.plainText, hname, hmark]
    | _ => rfl

theorem renderFrom_toContent (currentUser : String) : ∀ {segments : List ComposerSegment},
    (∀ s ∈ segments, ∀ agentId labelFallback, s = .atom (.member agentId labelFallback) →
      ∃ name, memberName agentId = some name ∧ name.toList.head? ≠ some '@') → ∀ (index : Nat) (rendered : String),
    renderFrom memberName currentUser index rendered (segments.map ComposerSegment.toContent) =
      .ok (segments.foldl (fun rendered segment => rendered ++ segment.plainText memberName) rendered)
  | [], _, _, _ => rfl
  | s :: segments, h, index, rendered => by
    rw [map_cons, renderFrom, plainText_toContent (h s mem_cons_self)]
    exact renderFrom_toContent currentUser (fun s' hs' => h s' (mem_cons_of_mem s hs')) (index + 1) _

/-- **A document is shown as its content is.** -/
theorem renderPlainText_toContent {d : ComposerDocument} (h : validateComposerDocument d = .ok ())
    (hnaming : Naming d memberName) :
    ∃ text, renderComposerPlainText d memberName = .ok text ∧
      renderPlainText ((normalizeComposerDocument d).segments.map ComposerSegment.toContent) memberName = .ok text := by
  have hnames : ∀ s ∈ (normalizeComposerDocument d).segments, ∀ agentId labelFallback, s = .atom (.member agentId labelFallback) →
      ∃ name, memberName agentId = some name ∧ name.toList.head? ≠ some '@' := by
    refine composerTexts.forall_normalize (fun t agentId labelFallback heq => ?_) ?_
    · cases heq
    rintro s hs agentId labelFallback rfl
    exact hnaming agentId ⟨labelFallback, hs⟩
  have hpass : (normalizeComposerDocument d).segments.foldl (fun rendered segment => rendered ++ segment.plainText memberName) "" =
      d.segments.foldl (fun rendered segment => rendered ++ segment.plainText memberName) "" :=
    composerTexts.foldl_normalize (fun _ => String.append_empty) (fun _ _ _ => String.append_assoc) d.segments ""
  refine ⟨d.segments.foldl (fun rendered segment => rendered ++ segment.plainText memberName) "", ?_, ?_⟩
  · unfold renderComposerPlainText
    rw [h]
  · have hname : ¬ trim currentUserDisplayName.toList = [] := by decide
    unfold renderPlainText renderPlainTextWithCurrentUser
    rw [if_neg hname, renderFrom_toContent _ hnames, hpass]

/-! ## All of it -/

structure Converts (digest : Json → String) (d : ComposerDocument) (content : StructuredThreadMessageContent) : Prop where
  accepted : validateUserAuthoredContent digest content = .ok () ↔ d.Fits
  back : composerDocumentFromContent digest content = .ok d.resolved ↔ d.Fits
  text : ∃ text, serializeComposerDocument d = .ok text ∧ parseComposerDocumentJson digest text = .ok (normalizeComposerDocument d)
  shown : ∀ memberName, Naming d memberName →
    ∃ text, renderComposerPlainText d memberName = .ok text ∧ renderPlainText content memberName = .ok text

/-- **Documents and content**: an accepted document becomes content that says the same, and it is accepted and gives the document back
exactly where its texts and titles fit; content that gives a document comes back from it. -/
theorem conversions_faithful (digest : Json → String) :
    (∀ d, validateComposerDocument d = .ok () → ∃ content, composerDocumentToContent d = .ok content ∧ Converts digest d content) ∧
      ∀ content d, composerDocumentFromContent digest content = .ok d →
        composerDocumentToContent d = .ok (normalizeContent content) :=
  ⟨fun _ h => ⟨_, toContent_ok h, accepted_iff digest h, fromContent_iff digest h, parse_serialize digest h,
    fun _ hnaming => renderPlainText_toContent h hnaming⟩, fun _ _ h => toContent_fromContent h⟩

def plainDigest (j : Json) : String := Json.encode j

def campId : String := "rvcamp_0000000000e008000000000000"

def reviewDocument : ComposerDocument :=
  ⟨composerDocumentVersion, [.text "请 ", .text "看", .atom (.member "agent_2" (some "旧名字")), .atom (.threadReference campId none),
    .atom (.skill "skill-review" "review-pr")]⟩

theorem conversions_faithful_review : ∃ content, composerDocumentToContent reviewDocument = .ok content ∧
    Converts plainDigest reviewDocument content :=
  (conversions_faithful plainDigest).1 reviewDocument (by decide +kernel)

/-! ## A draft that no message holds -/

def fullText : String := String.ofList (List.replicate maxContentTextBytes 'a')

def fullDocument : ComposerDocument :=
  ⟨composerDocumentVersion, [.text fullText, .atom (.threadReference campId none)]⟩

theorem utf8ByteSize_fullText : fullText.utf8ByteSize = maxContentTextBytes := by
  have hreplicate : ∀ n, (String.ofList (List.replicate n 'a')).utf8ByteSize = n := by
    intro n
    induction n with
    | zero => rfl
    | succ n ih =>
      have hone : (String.ofList ['a']).utf8ByteSize = 1 := by decide
      rw [replicate_succ, ← singleton_append, String.ofList_append, String.utf8ByteSize_append, ih, hone]
      omega
  exact hreplicate maxContentTextBytes

theorem validate_fullDocument : validateComposerDocument fullDocument = .ok () := by
  refine validateComposerDocument_ok.2 ⟨rfl, by simp [fullDocument, maxContentSegments], ?_, ?_⟩
  · intro s hs
    rcases mem_cons.1 hs with rfl | hs
    · rfl
    rw [mem_singleton.1 hs]
    decide
  · simp [fullDocument, ComposerSegment.bytes, labelBytes, utf8ByteSize_fullText]

theorem not_fits_fullDocument : ¬ fullDocument.Fits := by
  have hid : campId.utf8ByteSize = 33 := by decide
  simp only [ComposerDocument.Fits, fullDocument, map_cons, map_nil, sum_cons, sum_nil,
    ComposerSegment.sentBytes, Option.getD_none, utf8ByteSize_fullText, hid]
  omega

/-- The draft is accepted, and the content that it becomes is not. -/
theorem fullDocument_notAccepted : validateComposerDocument fullDocument = .ok () ∧
    ∃ content, composerDocumentToContent fullDocument = .ok content ∧
      validateUserAuthoredContent plainDigest content ≠ .ok () ∧
      composerDocumentFromContent plainDigest content ≠ .ok fullDocument.resolved :=
  ⟨validate_fullDocument, _, toContent_ok validate_fullDocument,
    fun hok => not_fits_fullDocument ((accepted_iff plainDigest validate_fullDocument).1 hok),
    fun hok => not_fits_fullDocument ((fromContent_iff plainDigest validate_fullDocument).1 hok)⟩

end Rovai.ComposerContent
