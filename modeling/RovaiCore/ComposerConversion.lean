import RovaiCore.ComposerText
/-!
# Conversions between documents and content

A document that is accepted becomes content with the same texts and mentions.
-/
namespace Rovai.ComposerContent

open ThreadReference (ReferenceKind)
open List

/-! ## Checks -/

theorem ensure_ok {ok : Bool} {message : String} : ensure ok message = .ok () ↔ ok = true := by
  cases ok
  · exact ⟨nofun, nofun⟩
  · exact ⟨fun _ => rfl, fun _ => rfl⟩

theorem counting_ok {checks : List (Except String Unit)} {bytes n : Nat} :
    counting checks bytes = .ok n ↔ (∀ c ∈ checks, c = .ok ()) ∧ n = bytes := by
  have hcollect : ∀ {units}, Attempts.collect id checks = .ok units ↔ (∀ c ∈ checks, c = .ok ()) ∧ units = checks.map fun _ => () :=
    Attempts.collect_ok_iff fun _ _ _ => rfl
  unfold counting
  cases hc : Attempts.collect id checks with
  | error e =>
    refine ⟨nofun, fun h => ?_⟩
    rw [hcollect.2 ⟨h.1, rfl⟩] at hc
    cases hc
  | ok units => exact ⟨fun h => ⟨(hcollect.1 hc).1, (Except.ok.inj h).symm⟩, fun h => congrArg Except.ok h.2.symm⟩

/-- **What `checkAll` accepts**, by what each segment counts for. -/
theorem checkAll_ok {σ : Type} {check : σ → Except String Nat} {weight : σ → Nat} {tooMany tooLong : String}
    (hweight : ∀ s n, check s = .ok n → n = weight s) {segments : List σ} : checkAll check tooMany tooLong segments = .ok () ↔
      segments.length ≤ maxContentSegments ∧ (∀ s ∈ segments, check s = .ok (weight s)) ∧
        (segments.map weight).sum ≤ maxContentTextBytes := by
  unfold checkAll
  split
  · rename_i hmany
    exact ⟨nofun, fun h => absurd h.1 (Nat.not_le_of_lt hmany)⟩
  · rename_i hmany
    cases hc : Attempts.collect check segments with
    | error e =>
      refine ⟨nofun, fun h => ?_⟩
      rw [(Attempts.collect_ok_iff hweight).2 ⟨h.2.1, rfl⟩] at hc
      cases hc
    | ok bytes =>
      obtain ⟨hall, rfl⟩ := (Attempts.collect_ok_iff hweight).1 hc
      dsimp only
      split
      · rename_i hlong
        exact ⟨nofun, fun h => absurd h.2.2 (Nat.not_le_of_lt hlong)⟩
      · rename_i hlong
        exact ⟨fun _ => ⟨Nat.le_of_not_lt hmany, hall, Nat.le_of_not_lt hlong⟩, fun _ => rfl⟩

/-! ## What the segments count for -/

def labelBytes (labelFallback : Option String) : Nat := (labelFallback.map String.utf8ByteSize).getD 0

def ComposerSegment.bytes : ComposerSegment → Nat
  | .text t => t.utf8ByteSize
  | .atom (.member _ labelFallback) => labelBytes labelFallback
  | .atom (.threadReference _ labelFallback) => labelBytes labelFallback
  | .atom (.missionReference _ labelFallback) => labelBytes labelFallback
  | .atom .allMembers => 0
  | .atom (.skill _ _) => 0

def StructuredThreadMessageSegment.bytes : StructuredThreadMessageSegment → Nat
  | .text t => t.utf8ByteSize
  | .threadReference _ titleAtSend => titleAtSend.utf8ByteSize
  | .missionReference _ titleAtSend => titleAtSend.utf8ByteSize
  | .externalQuote senderDisplayName body attachments _ => quoteBytes senderDisplayName body attachments
  | _ => 0

variable {kind : ReferenceKind} {id : String} {n : Nat}

theorem checkReferenceAtom_bytes {labelFallback : Option String}
    (h : checkReferenceAtom kind id labelFallback = .ok n) : n = labelBytes labelFallback := by
  cases labelFallback <;> exact (counting_ok.1 h).2

variable (s : ComposerSegment)

theorem ComposerSegment.check_bytes (n : Nat) (h : s.check = .ok n) : n = s.bytes := by
  cases s with
  | text t => exact (Except.ok.inj h).symm
  | atom a =>
    cases a with
    | member agentId labelFallback => cases labelFallback <;> exact (counting_ok.1 h).2
    | allMembers => exact (Except.ok.inj h).symm
    | threadReference => exact checkReferenceAtom_bytes h
    | missionReference => exact checkReferenceAtom_bytes h
    | skill => exact (counting_ok.1 h).2

theorem StructuredThreadMessageSegment.check_bytes (digest : Json → String) (s : StructuredThreadMessageSegment) (n : Nat)
    (h : s.check digest = .ok n) : n = s.bytes := by
  cases s with
  | text t => exact (Except.ok.inj h).symm
  | allMembersMention => exact (Except.ok.inj h).symm
  | _ => exact (counting_ok.1 h).2

variable {d : ComposerDocument}

/-- **What a draft must be.** -/
theorem validateComposerDocument_ok : validateComposerDocument d = .ok () ↔
    d.version = composerDocumentVersion ∧ d.segments.length ≤ maxContentSegments ∧
      (∀ s ∈ d.segments, s.check = .ok s.bytes) ∧ (d.segments.map ComposerSegment.bytes).sum ≤ maxContentTextBytes := by
  unfold validateComposerDocument
  split
  · rename_i hversion
    exact ⟨nofun, fun h => absurd h.1 hversion⟩
  · rename_i hversion
    rw [checkAll_ok ComposerSegment.check_bytes]
    exact ⟨fun h => ⟨Decidable.not_not.1 hversion, h⟩, fun h => h.2⟩

theorem validateContent_ok {digest : Json → String} {content : StructuredThreadMessageContent} :
    validateContent digest content = .ok () ↔ content.length ≤ maxContentSegments ∧
      (∀ s ∈ content, s.check digest = .ok s.bytes) ∧
      (content.map StructuredThreadMessageSegment.bytes).sum ≤ maxContentTextBytes :=
  checkAll_ok (StructuredThreadMessageSegment.check_bytes digest)

/-! ## Identities are labels -/

theorem trim_of_forall {t : List Char} (h : ∀ c ∈ t, isWhitespace c = false) : trim t = t := by
  have hstart : ∀ {t : List Char}, (∀ c ∈ t, isWhitespace c = false) → trimStart t = t := by
    intro t ht
    cases t with
    | nil => rfl
    | cons c rest => exact dropWhile_cons_of_neg (by rw [ht c mem_cons_self]; exact Bool.false_ne_true)
  unfold trim
  rw [hstart h, hstart fun c hc => h c (mem_reverse.1 hc), reverse_reverse]

theorem length_le_utf8ByteSize (s : String) : s.length ≤ s.utf8ByteSize := by
  have hlist : ∀ cs : List Char, cs.length ≤ (String.ofList cs).utf8ByteSize := by
    intro cs
    induction cs with
    | nil => exact Nat.zero_le _
    | cons c cs ih =>
      have hcons : String.ofList (c :: cs) = String.ofList [c] ++ String.ofList cs := by rw [← String.ofList_append, singleton_append]
      have hone : (String.ofList [c]).utf8ByteSize = c.utf8Size := String.utf8ByteSize_singleton
      rw [hcons, String.utf8ByteSize_append, hone, length_cons]
      have hpos := c.utf8Size_pos
      omega
  have hs := hlist s.toList
  rw [String.ofList_toList] at hs
  exact hs

def IdChar (c : Char) : Prop := c = '_' ∨ c ∈ ThreadReference.crockford ∨ c ∈ "rvcampm".toList ∨ c ∈ "0123456789abcdef".toList

theorem IdChar.notWhitespace {c : Char} (h : IdChar c) : isWhitespace c = false := by
  have hall : ('_' :: (ThreadReference.crockford ++ ("rvcampm".toList ++ "0123456789abcdef".toList))).all
      (fun c => !isWhitespace c) = true := by decide
  refine (Bool.not_eq_true' _).mp (all_eq_true.1 hall c ?_)
  rcases h with rfl | h | h | h
  · exact mem_cons_self
  · exact mem_cons_of_mem _ (mem_append_left _ h)
  · exact mem_cons_of_mem _ (mem_append_right _ (mem_append_left _ h))
  · exact mem_cons_of_mem _ (mem_append_right _ (mem_append_right _ h))

theorem idChar_of_decodeSuffix : ∀ {cs : List Char} {index decoded n : Nat},
    ThreadReference.decodeSuffix index decoded cs = .ok n → ∀ c ∈ cs, IdChar c
  | [], _, _, _, _, _, hc => absurd hc not_mem_nil
  | c :: rest, index, decoded, n, h, c', hc => by
    unfold ThreadReference.decodeSuffix at h
    cases hvalue : ThreadReference.crockfordValue c with
    | none =>
      rw [hvalue] at h
      cases h
    | some digit =>
      rw [hvalue] at h
      dsimp only at h
      split at h
      · cases h
      rcases mem_cons.1 hc with rfl | hc
      · exact .inr (.inl (isSome_idxOf?.1 (by rw [show ThreadReference.crockford.idxOf? c' = some digit from hvalue]; rfl)))
      · exact idChar_of_decodeSuffix h c' hc

theorem idChar_of_hexValue {c : Char} (h : Json.hexValue c = some n) : IdChar c := by
  have hmem : c ∈ "0123456789abcdef".toList := by
    have hall : ∀ m < 103, (Json.hexValue (Char.ofNat m)).isSome = true → Char.ofNat m ∈ "0123456789abcdef".toList := by
      decide
    have hsome : (Json.hexValue (Char.ofNat c.toNat)).isSome = true := by
      rw [Char.ofNat_toNat, h]
      rfl
    have hlt : c.toNat < 103 := by
      unfold Json.hexValue at h
      split at h
      · omega
      split at h
      · omega
      · cases h
    have hc := hall c.toNat hlt hsome
    rwa [Char.ofNat_toNat] at hc
  exact .inr (.inr (.inr hmem))

theorem forall_of_start {p t : List Char} (hp : p.isPrefixOf t = true) (hpchars : ∀ c ∈ p, IdChar c)
    (hrest : ∀ c ∈ t.drop p.length, IdChar c) : ∀ c ∈ t, IdChar c := by
  obtain ⟨rest, rfl⟩ := isPrefixOf_iff_prefix.1 hp
  rw [drop_left] at hrest
  exact fun c hc => (mem_append.1 hc).elim (hpchars c) (hrest c)

theorem mem_of_mapM {α β : Type} {f : α → Option β} : ∀ {items : List α} {values : List β}, items.mapM f = some values →
    ∀ a ∈ items, ∃ b, f a = some b
  | [], _, _, _, ha => absurd ha not_mem_nil
  | i :: items, values, h, a, ha => by
    rw [mapM_cons] at h
    obtain ⟨b, hb, h⟩ := Option.bind_eq_some_iff.1 h
    obtain ⟨bs, hbs, -⟩ := Option.bind_eq_some_iff.1 h
    rcases mem_cons.1 ha with rfl | ha
    · exact ⟨b, hb⟩
    · exact mem_of_mapM hbs a ha

theorem idChar_of_prefix : ∀ c ∈ ThreadReference.threadIdPrefix ++ ThreadReference.missionIdPrefix, IdChar c := by
  intro c hc
  have hall : (ThreadReference.threadIdPrefix ++ ThreadReference.missionIdPrefix).all
      (fun c => decide (c = '_' ∨ c ∈ "rvcampm".toList)) = true := by decide
  rcases of_decide_eq_true (all_eq_true.1 hall c hc) with h | h
  · exact .inl h
  · exact .inr (.inr (.inl h))

/-- **A valid identity can be a label.** -/
theorem validateLabel_of_validateId (h : validateId kind id = .ok ()) :
    validateLabel id = .ok () := by
  have hid : (∀ c ∈ id.toList, IdChar c) ∧ id ≠ "" ∧ id.length ≤ 500 := by
    cases kind with
    | thread =>
      unfold validateId ThreadReference.parseThreadId at h
      dsimp only at h
      split at h
      · cases h
      rename_i hshape
      rw [not_or, Decidable.not_not, Decidable.not_not] at hshape
      cases hsuffix : ThreadReference.decodeSuffix 0 0 (id.toList.drop 7) with
      | error e =>
        rw [hsuffix] at h
        cases h
      | ok n =>
        refine ⟨forall_of_start hshape.2 ?_ (idChar_of_decodeSuffix hsuffix), ?_, ?_⟩
        · exact fun c hc => idChar_of_prefix c (mem_append_left _ hc)
        · rintro rfl
          exact absurd hshape.1 (by decide)
        · have hle := length_le_utf8ByteSize id
          omega
    | mission =>
      have hmission := ensure_ok.1 h
      unfold ThreadReference.isMissionId at hmission
      rw [Bool.and_eq_true, Bool.and_eq_true, decide_eq_true_eq] at hmission
      obtain ⟨⟨hstart, hlength⟩, hdigits⟩ := hmission
      cases hvalues : (id.toList.drop 4).mapM Json.hexValue with
      | none =>
        rw [hvalues] at hdigits
        cases hdigits
      | some digits =>
        refine ⟨forall_of_start hstart (fun c hc => idChar_of_prefix c (mem_append_right _ hc)) ?_, ?_, ?_⟩
        · intro c hc
          obtain ⟨n, hn⟩ := mem_of_mapM hvalues c hc
          exact idChar_of_hexValue hn
        · rintro rfl
          exact absurd hlength (by decide)
        · have hchars : id.length = id.toList.length := rfl
          omega
  have htrim : trim id.toList = id.toList := trim_of_forall fun c hc => (hid.1 c hc).notWhitespace
  refine ensure_ok.2 ?_
  rw [isTrimmed, decide_eq_true htrim, decide_eq_true hid.2.1, decide_eq_true hid.2.2]
  rfl

/-! ## Segments of a document as segments of a message -/

def ComposerSegment.sentBytes : ComposerSegment → Nat
  | .text t => t.utf8ByteSize
  | .atom (.threadReference threadId labelFallback) => (labelFallback.getD threadId).utf8ByteSize
  | .atom (.missionReference missionId labelFallback) => (labelFallback.getD missionId).utf8ByteSize
  | .atom (.member _ _) | .atom .allMembers | .atom (.skill _ _) => 0

def ComposerDocument.Fits (d : ComposerDocument) : Prop :=
  (d.segments.map ComposerSegment.sentBytes).sum ≤ maxContentTextBytes

instance (d : ComposerDocument) : Decidable d.Fits := Nat.decLe _ _

def ComposerSegment.resolved : ComposerSegment → ComposerSegment
  | .atom (.member agentId _) => .atom (.member agentId none)
  | .atom (.threadReference threadId labelFallback) => .atom (.threadReference threadId (some (labelFallback.getD threadId)))
  | .atom (.missionReference missionId labelFallback) => .atom (.missionReference missionId (some (labelFallback.getD missionId)))
  | s => s

/-- `normalize_composer_document` with member labels removed and missing reference labels replaced by the identity. -/
def ComposerDocument.resolved (d : ComposerDocument) : ComposerDocument :=
  { normalizeComposerDocument d with segments := (normalizeComposerDocument d).segments.map ComposerSegment.resolved }

theorem bytes_toContent : s.toContent.bytes = s.sentBytes := by
  cases s with
  | text t => rfl
  | atom a => cases a <;> rfl

theorem bytes_resolved : s.resolved.bytes = s.sentBytes := by
  cases s with
  | text t => rfl
  | atom a => cases a <;> rfl

theorem toComposer_toContent : s.toContent.toComposer = .ok s.resolved := by
  cases s with
  | text t => rfl
  | atom a => cases a <;> rfl

theorem toContent_toComposer {s : StructuredThreadMessageSegment} {s' : ComposerSegment} (h : s.toComposer = .ok s') :
    s'.toContent = s := by
  cases s <;> cases h <;> rfl

theorem mentionIdOk_of_identity {value label : String} (h : validateComposerIdentity value label = .ok ()) :
    mentionIdOk value = true := by
  have hok := ensure_ok.1 h
  rw [Bool.and_eq_true] at hok
  exact hok.1

theorem checkReference_of_atom {labelFallback : Option String}
    (h : checkReferenceAtom kind id labelFallback = .ok n) :
    checkReference kind id (labelFallback.getD id) = .ok (labelFallback.getD id).utf8ByteSize := by
  have hboth : validateId kind id = .ok () ∧ validateLabel (labelFallback.getD id) = .ok () := by
    cases labelFallback with
    | none =>
      have hid := (counting_ok.1 h).1 _ mem_cons_self
      exact ⟨hid, validateLabel_of_validateId hid⟩
    | some label =>
      have hall := (counting_ok.1 h).1
      exact ⟨hall _ mem_cons_self, hall _ (mem_cons_of_mem _ mem_cons_self)⟩
  refine counting_ok.2 ⟨?_, rfl⟩
  rw [forall_mem_cons, forall_mem_singleton]
  exact hboth

/-- **A segment of an accepted draft is accepted in a message.** -/
theorem check_toContent (digest : Json → String) {s : ComposerSegment} (h : s.check = .ok s.bytes) :
    s.toContent.check digest = .ok s.toContent.bytes := by
  cases s with
  | text t => rfl
  | atom a =>
    cases a with
    | member agentId labelFallback =>
      have hid : validateComposerIdentity agentId "Member Atom" = .ok () := by
        cases labelFallback <;> exact (counting_ok.1 h).1 _ mem_cons_self
      refine counting_ok.2 ⟨?_, rfl⟩
      rw [forall_mem_singleton]
      exact ensure_ok.2 (mentionIdOk_of_identity hid)
    | allMembers => rfl
    | threadReference => exact checkReference_of_atom h
    | missionReference => exact checkReference_of_atom h
    | skill =>
      have hall := (counting_ok.1 h).1
      rw [forall_mem_cons, forall_mem_singleton] at hall
      refine counting_ok.2 ⟨?_, rfl⟩
      rw [forall_mem_cons, forall_mem_singleton]
      exact ⟨ensure_ok.2 (mentionIdOk_of_identity hall.1), hall.2⟩

/-- **A segment that comes back is accepted in a draft.** -/
theorem check_resolved {s : ComposerSegment} (h : s.check = .ok s.bytes) : s.resolved.check = .ok s.resolved.bytes := by
  cases s with
  | text t => rfl
  | atom a =>
    cases a with
    | member agentId labelFallback =>
      have hid : validateComposerIdentity agentId "Member Atom" = .ok () := by
        cases labelFallback <;> exact (counting_ok.1 h).1 _ mem_cons_self
      refine counting_ok.2 ⟨?_, rfl⟩
      rw [forall_mem_singleton]
      exact hid
    | allMembers => rfl
    | threadReference => exact checkReference_of_atom h
    | missionReference => exact checkReference_of_atom h
    | skill => exact h

/-! ## Normalizing keeps what is counted -/

theorem utf8ByteSize_empty : "".utf8ByteSize = 0 := rfl

variable (segments : List ComposerSegment)

theorem sum_bytes_normalize :
    ((composerTexts.normalize segments).map ComposerSegment.bytes).sum = (segments.map ComposerSegment.bytes).sum :=
  composerTexts.sum_normalize utf8ByteSize_empty (fun _ _ => String.utf8ByteSize_append) segments

theorem sum_sentBytes_normalize :
    ((composerTexts.normalize segments).map ComposerSegment.sentBytes).sum = (segments.map ComposerSegment.sentBytes).sum :=
  composerTexts.sum_normalize utf8ByteSize_empty (fun _ _ => String.utf8ByteSize_append) segments

theorem asText_toContent : contentTexts.text s.toContent = composerTexts.text s := by
  cases s with
  | text t => rfl
  | atom a => cases a <;> rfl

theorem normalizeContent_toContent :
    normalizeContent (segments.map ComposerSegment.toContent) = (composerTexts.normalize segments).map ComposerSegment.toContent :=
  composerTexts.normalize_map contentTexts asText_toContent segments

/-- **A normalized draft is accepted** when the draft is. -/
theorem validate_normalize (h : validateComposerDocument d = .ok ()) :
    validateComposerDocument (normalizeComposerDocument d) = .ok () := by
  obtain ⟨hversion, hlength, hall, hbytes⟩ := validateComposerDocument_ok.1 h
  refine validateComposerDocument_ok.2 ⟨hversion, ?_, ?_, ?_⟩
  · exact Nat.le_trans (composerTexts.length_normalize_le d.segments) hlength
  · exact composerTexts.forall_normalize (fun _ => rfl) hall
  show ((composerTexts.normalize d.segments).map ComposerSegment.bytes).sum ≤ _
  rw [sum_bytes_normalize]
  exact hbytes

/-! ## There and back -/

theorem toContent_ok (h : validateComposerDocument d = .ok ()) : composerDocumentToContent d =
    .ok ((normalizeComposerDocument d).segments.map ComposerSegment.toContent) := by
  unfold composerDocumentToContent
  rw [h]
  exact congrArg Except.ok (normalizeContent_toContent d.segments)

theorem not_coreOwned :
    mentionsCurrentUser (segments.map ComposerSegment.toContent) = false ∧
      (segments.map ComposerSegment.toContent).any StructuredThreadMessageSegment.isQuote = false := by
  unfold mentionsCurrentUser
  rw [any_map, any_map, any_eq_false, any_eq_false]
  constructor <;>
  · intro s _
    cases s with
    | text t => exact Bool.false_ne_true
    | atom a => cases a <;> exact Bool.false_ne_true

/-- **The message is accepted exactly when it fits.** -/
theorem accepted_iff (digest : Json → String) (h : validateComposerDocument d = .ok ()) :
    validateUserAuthoredContent digest ((normalizeComposerDocument d).segments.map ComposerSegment.toContent) = .ok () ↔ d.Fits := by
  obtain ⟨-, hlength, hall, -⟩ := validateComposerDocument_ok.1 (validate_normalize h)
  obtain ⟨huser, hquote⟩ := not_coreOwned (normalizeComposerDocument d).segments
  have hsum : (((normalizeComposerDocument d).segments.map ComposerSegment.toContent).map StructuredThreadMessageSegment.bytes).sum =
      (d.segments.map ComposerSegment.sentBytes).sum := by
    have hbytes : StructuredThreadMessageSegment.bytes ∘ ComposerSegment.toContent = ComposerSegment.sentBytes :=
      funext bytes_toContent
    rw [map_map, hbytes]
    exact sum_sentBytes_normalize d.segments
  have hcontent : validateContent digest ((normalizeComposerDocument d).segments.map ComposerSegment.toContent) = .ok () ↔ d.Fits := by
    rw [validateContent_ok, length_map, forall_mem_map, hsum]
    exact ⟨fun hok => hok.2.2, fun hfits => ⟨hlength, fun s hs => check_toContent digest (hall s hs), hfits⟩⟩
  rw [← hcontent]
  unfold validateUserAuthoredContent
  cases validateContent digest ((normalizeComposerDocument d).segments.map ComposerSegment.toContent) with
  | error e => exact ⟨nofun, nofun⟩
  | ok u =>
    dsimp only
    rw [huser, hquote]
    exact ⟨fun _ => rfl, fun _ => rfl⟩

/-- **The document comes back exactly when the message fits.** -/
theorem fromContent_iff (digest : Json → String) (h : validateComposerDocument d = .ok ()) :
    composerDocumentFromContent digest ((normalizeComposerDocument d).segments.map ComposerSegment.toContent) = .ok d.resolved ↔
      d.Fits := by
  obtain ⟨hversion, hlength, hall, -⟩ := validateComposerDocument_ok.1 (validate_normalize h)
  have haccepted := accepted_iff digest h
  have hmerged : normalizeContent ((normalizeComposerDocument d).segments.map ComposerSegment.toContent) =
      (normalizeComposerDocument d).segments.map ComposerSegment.toContent := by
    rw [normalizeContent_toContent]
    exact congrArg _ (composerTexts.normalize_normalize d.segments)
  have hcollect : Attempts.collect StructuredThreadMessageSegment.toComposer
      ((normalizeComposerDocument d).segments.map ComposerSegment.toContent) = .ok d.resolved.segments := by
    rw [Attempts.collect_eq_ok, forall₂_map_left_iff]
    show List.Forall₂ _ _ ((normalizeComposerDocument d).segments.map ComposerSegment.resolved)
    rw [forall₂_map_right_iff, forall₂_same]
    exact fun s _ => toComposer_toContent s
  have hresolved : d.Fits → validateComposerDocument d.resolved = .ok () := by
    intro hfits
    refine validateComposerDocument_ok.2 ⟨hversion, ?_, ?_, ?_⟩
    · show ((normalizeComposerDocument d).segments.map ComposerSegment.resolved).length ≤ _
      rw [length_map]
      exact hlength
    · show ∀ s ∈ (normalizeComposerDocument d).segments.map ComposerSegment.resolved, _
      rw [forall_mem_map]
      exact fun s hs => check_resolved (hall s hs)
    · show (((normalizeComposerDocument d).segments.map ComposerSegment.resolved).map ComposerSegment.bytes).sum ≤ _
      have hbytes : ComposerSegment.bytes ∘ ComposerSegment.resolved = ComposerSegment.sentBytes := funext bytes_resolved
      rw [map_map, hbytes]
      show ((composerTexts.normalize d.segments).map ComposerSegment.sentBytes).sum ≤ _
      rw [sum_sentBytes_normalize]
      exact hfits
  constructor
  · intro hback
    rw [← haccepted]
    unfold composerDocumentFromContent at hback
    split at hback
    · cases hback
    rename_i u hok
    exact hok
  · intro hfits
    have hdocument : (⟨composerDocumentVersion, d.resolved.segments⟩ : ComposerDocument) = d.resolved := by
      rw [← hversion]
      rfl
    unfold composerDocumentFromContent
    rw [haccepted.2 hfits]
    dsimp only
    rw [hmerged, hcollect]
    dsimp only
    rw [hdocument, hresolved hfits]

/-- **Content that gives a document comes back from it**, normalized. -/
theorem toContent_fromContent {digest : Json → String} {content : StructuredThreadMessageContent}
    (h : composerDocumentFromContent digest content = .ok d) : composerDocumentToContent d = .ok (normalizeContent content) := by
  unfold composerDocumentFromContent at h
  split at h
  · cases h
  split at h
  · cases h
  rename_i segments hsegments
  dsimp only at h
  split at h
  · cases h
  rename_i u hvalid
  cases h
  have hback := @Attempts.map_of_collect _ _ _ _ _ id ComposerSegment.toContent
    (fun s s' hs => toContent_toComposer hs) _ _ hsegments
  unfold composerDocumentToContent
  rw [hvalid]
  dsimp only
  rw [hback, map_id]
  exact congrArg Except.ok (contentTexts.normalize_normalize content)

end Rovai.ComposerContent
