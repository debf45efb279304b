import RovaiCore.ThreadReference
import RovaiCore.Base64
import RovaiCore.JsonReader
import RovaiCore.Fallible
/-!
# The pages of the reference directory

A page is a keyset page over the matching rows (`list_eq`), and a cursor that was returned is short enough to be read
(`read_write`).
-/
namespace Rovai.ThreadReference

open Tables (Table)
open List
open Fallible (bind_eq_ok guard_eq_ok)

variable {codec : Codec} {normalize : String → String} {d : Directory} {scope query q : String} {kind : ReferenceKind}
variable {row : Row} {key : String × String}

/-! ## The order -/

theorem precedes_eq : precedes = Prod.Lex (· > ·) (· < ·) := by
  funext a b
  rw [Prod.lex_def, precedes, @eq_comm _ b.1]

instance : IsStrictTotalOrder (String × String) precedes := by
  rw [precedes_eq]
  exact {}

/-! ## The rows -/

theorem map_filterMap_sublist {α β κ : Type} {f : α → Option β} {g : α → κ} {h : β → κ} (hf : ∀ a b, f a = some b → h b = g a) :
    ∀ l : List α, ((l.filterMap f).map h).Sublist (l.map g)
  | [] => .slnil
  | a :: l => by
    cases hfa : f a with
    | none =>
      rw [filterMap_cons_none hfa, map_cons]
      exact (map_filterMap_sublist hf l).cons _
    | some b =>
      rw [filterMap_cons_some hfa, map_cons, map_cons, hf a b hfa]
      exact (map_filterMap_sublist hf l).cons_cons _

theorem joined_id {m : Mission} (h : ((d.camps.find? m.campId).bind fun c =>
    if c.id ≠ scope ∧ c.deletionOperationId.isNone = true then some (Directory.rowOf .mission m.id m.title c) else none) = some row) :
    row.candidate.id = m.id ∧ ∃ c ∈ d.camps.rows, row.activity = c.activity := by
  obtain ⟨c, hc, hrow⟩ := Option.bind_eq_some_iff.1 h
  split at hrow
  · cases hrow
    exact ⟨rfl, c, Table.mem_of_find? hc, rfl⟩
  · cases hrow

theorem nodup_visible (d : Directory) (scope : String) (kind : ReferenceKind) :
    ((d.visible scope kind).map fun row => row.candidate.id).Nodup := by
  cases kind with
  | thread =>
    unfold Directory.visible
    rw [map_map]
    exact d.camps.nodup.sublist ((filter_sublist).map Camp.id)
  | mission => exact d.missions.nodup.sublist (map_filterMap_sublist (fun m row h => (joined_id h).1) d.missions.rows)

theorem nodup_matching (d : Directory) (scope : String) (kind : ReferenceKind) (q : String) :
    ((d.matching normalize scope kind q).map fun row => row.candidate.id).Nodup :=
  (nodup_visible d scope kind).sublist ((filter_sublist).map _)

variable (normalize) in
theorem nodup_keys (d : Directory) (scope : String) (kind : ReferenceKind) (q : String) :
    ((d.matching normalize scope kind q).map Row.key).Nodup := by
  refine List.Nodup.of_map Prod.snd ?_
  rw [map_map]
  exact nodup_matching d scope kind q

/-! ## Short keys -/

theorem length_le_utf8ByteSize (s : String) : s.length ≤ s.utf8ByteSize := by
  have hsize : ∀ cs : List Char, cs.length ≤ (String.ofList cs).utf8ByteSize := by
    intro cs
    induction cs with
    | nil => exact Nat.zero_le _
    | cons c cs ih =>
      rw [← singleton_append, String.ofList_append, String.utf8ByteSize_append, length_append]
      have hone : 0 < (String.ofList [c]).utf8ByteSize := by
        rw [← String.singleton_eq_ofList, String.utf8ByteSize_singleton]
        exact Char.utf8Size_pos c
      have hlength : [c].length = 1 := rfl
      omega
  have hs := hsize s.toList
  rwa [String.ofList_toList, String.length_toList] at hs

theorem length_of_parseThreadId {id : String} (h : parseThreadId id = .ok ()) : id.length ≤ 36 := by
  unfold parseThreadId at h
  obtain ⟨hsize, -⟩ := guard_eq_ok.1 h
  rw [not_or, not_not] at hsize
  exact (length_le_utf8ByteSize id).trans (hsize.1.trans_le (by decide))

theorem length_of_isMissionId {id : String} (h : isMissionId id = true) : id.length ≤ 36 := by
  unfold isMissionId at h
  rw [Bool.and_eq_true, Bool.and_eq_true, decide_eq_true_eq, String.length_toList] at h
  exact h.1.2.le

def Short (key : String × String) : Prop := key.1.length ≤ 40 ∧ key.2.length ≤ 36

theorem short_of_visible (h : row ∈ d.visible scope kind) : Short row.key := by
  have htime : ∀ c ∈ d.camps.rows, c.activity.length ≤ 40 := by
    intro c hc
    have htimes := d.times c hc
    unfold isTimestamp at htimes
    rw [Bool.and_eq_true, decide_eq_true_eq] at htimes
    exact htimes.1
  cases kind with
  | thread =>
    obtain ⟨c, hc, rfl⟩ := mem_map.1 h
    have hrow := (mem_filter.1 hc).1
    exact ⟨htime c hrow, length_of_parseThreadId (d.campIds c hrow)⟩
  | mission =>
    obtain ⟨m, hm, hrow⟩ := mem_filterMap.1 h
    obtain ⟨hid, c, hc, hactivity⟩ := joined_id hrow
    refine ⟨?_, ?_⟩
    · exact (congrArg String.length hactivity).trans_le (htime c hc)
    · exact (congrArg String.length hid).trans_le (length_of_isMissionId (d.missionIds m hm))

/-- **A cursor over a short key can be read back**: the text is at most `4096` bytes long. -/
theorem read_write (hscope : parseThreadId scope = .ok ()) (hq : q.length ≤ 128) (hkey : Short key) :
    codec.read (some (codec.write ⟨scope, kind, q, key.1, key.2⟩)) = .ok (some ⟨scope, kind, q, key.1, key.2⟩) := by
  have hkind : ∀ k : ReferenceKind, Json.escapedBytes k.path ≤ 7 := by
    intro k
    cases k <;> decide
  have htext : (Json.encode (Cursor.json ⟨scope, kind, q, key.1, key.2⟩)).utf8ByteSize ≤ 3000 := by
    have harr := Json.bytes_arr [.str scope, .str kind.path, .str q, .str key.1, .str key.2]
    simp only [map_cons, map_nil, sum_cons, sum_nil, Json.itemBytes, Json.bytes_str] at harr
    have h₁ := Json.escapedBytes_le scope
    have h₂ := hkind kind
    have h₃ := Json.escapedBytes_le q
    have h₄ := Json.escapedBytes_le key.1
    have h₅ := Json.escapedBytes_le key.2
    have hlength := length_of_parseThreadId hscope
    obtain ⟨hk₁, hk₂⟩ := hkey
    refine harr.trans_le ?_
    omega
  unfold Codec.read
  dsimp only
  have hsize := codec.size_encode (Json.encode (Cursor.json ⟨scope, kind, q, key.1, key.2⟩))
  rw [if_neg (by unfold Codec.write; omega)]
  unfold Codec.write
  rw [codec.decode_encode]
  rfl

/-! ## One page -/

def toPage (codec : Codec) (scope : String) (kind : ReferenceKind) (q : String) (p : Keyset.Page Row (String × String)) :
    ReferencePage where
  items := p.items.map Row.candidate
  nextCursor := p.next.map fun key => codec.write ⟨scope, kind, q, key.1, key.2⟩

def pageOf (normalize : String → String) (d : Directory) (scope : String) (kind : ReferenceKind) (q : String)
    (cursor : Option (String × String)) : Keyset.Page Row (String × String) :=
  Keyset.page Row.key precedes 8 (d.matching normalize scope kind q) cursor

theorem selectRows_eq (cursor : Option Cursor) : selectRows normalize d scope kind q cursor =
    (Keyset.select Row.key precedes (d.matching normalize scope kind q) (cursor.map Cursor.key)).take 9 := by
  cases cursor <;> rfl

def cursorFor (scope : String) (kind : ReferenceKind) (q : String) (key : String × String) : Cursor :=
  ⟨scope, kind, q, key.1, key.2⟩

/-- **A call is a page over the matching rows.** -/
theorem list_eq {encoded : Option String} {at? : Option (String × String)} (hscope : d.validateScope scope = .ok ())
    (hq : (searchQuery normalize query).length ≤ 128)
    (hread : codec.read encoded = .ok (at?.map (cursorFor scope kind (searchQuery normalize query)))) :
    list codec normalize d ⟨scope, kind, query, encoded⟩ =
      .ok (toPage codec scope kind (searchQuery normalize query)
        (pageOf normalize d scope kind (searchQuery normalize query) at?)) := by
  have hrows : selectRows normalize d scope kind (searchQuery normalize query)
      (at?.map (cursorFor scope kind (searchQuery normalize query))) =
        (Keyset.select Row.key precedes (d.matching normalize scope kind (searchQuery normalize query)) at?).take 9 := by
    rw [selectRows_eq, Option.map_map]
    congr 2
    cases at? <;> rfl
  have hmatch : (at?.map (cursorFor scope kind (searchQuery normalize query))).any (fun c =>
      !(decide (c.threadId = scope) && decide (c.kind = kind) && decide (c.query = searchQuery normalize query))) = false := by
    cases at? <;> simp [cursorFor]
  unfold list
  dsimp only
  rw [hscope, hread, if_neg (not_lt.2 hq)]
  simp only [Except.bind, bind, hmatch, Bool.false_eq_true, if_false, hrows]
  unfold toPage pageOf Keyset.page
  congr 2
  dsimp only
  split
  · rw [Option.map_map]
    rfl
  · rfl

theorem short_next {next : String × String} {at? : Option (String × String)}
    (h : (pageOf normalize d scope kind q at?).next = some next) : Short next := by
  obtain ⟨⟨last, hlast, rfl, -⟩, -⟩ := Keyset.page_of_next_some (nodup_keys normalize d scope kind q) h
  exact short_of_visible (mem_filter.1 hlast).1

theorem parse_of_validateScope (h : d.validateScope scope = .ok ()) : parseThreadId scope = .ok () := by
  unfold Directory.validateScope at h
  split at h
  · cases h
  · assumption

variable {page : ReferencePage}

theorem list_ok {params : ListParams} (h : list codec normalize d params = .ok page) :
    d.validateScope params.threadId = .ok () ∧ (searchQuery normalize params.query).length ≤ 128 ∧
      ∃ at?, codec.read params.cursor = .ok (at?.map (cursorFor params.threadId params.kind (searchQuery normalize params.query))) ∧
        page = toPage codec params.threadId params.kind (searchQuery normalize params.query)
          (pageOf normalize d params.threadId params.kind (searchQuery normalize params.query) at?) := by
  have hlist := h
  unfold list at h
  obtain ⟨⟨⟩, hscope, h⟩ := bind_eq_ok.1 h
  obtain ⟨hq, h⟩ := guard_eq_ok.1 h
  obtain ⟨cursor, hread, h⟩ := bind_eq_ok.1 h
  obtain ⟨hmatch, -⟩ := guard_eq_ok.1 h
  have hcursor : cursor = (cursor.map Cursor.key).map (cursorFor params.threadId params.kind (searchQuery normalize params.query)) := by
    cases cursor with
    | none => rfl
    | some c =>
      obtain ⟨⟨hthread, hkind⟩, hquery⟩ : (c.threadId = params.threadId ∧ c.kind = params.kind) ∧
          c.query = searchQuery normalize params.query := by simpa using hmatch
      rw [Option.map_some, Option.map_some, cursorFor, ← hthread, ← hkind, ← hquery]
      rfl
  rw [hcursor] at hread
  refine ⟨hscope, not_lt.1 hq, cursor.map Cursor.key, hread, ?_⟩
  have hlist' := list_eq hscope (not_lt.1 hq) hread
  have hparams : (⟨params.threadId, params.kind, params.query, params.cursor⟩ : ListParams) = params := rfl
  rw [hparams, hlist] at hlist'
  exact Except.ok.inj hlist'

theorem list_mismatch {params : ListParams} {c : Cursor} (hread : codec.read params.cursor = .ok (some c))
    (hother : ¬(c.threadId = params.threadId ∧ c.kind = params.kind ∧ c.query = searchQuery normalize params.query)) :
    ∃ error, list codec normalize d params = .error error := by
  cases hlist : list codec normalize d params with
  | error e => exact ⟨e, rfl⟩
  | ok page =>
    obtain ⟨-, -, at?, hread', -⟩ := list_ok hlist
    rw [hread] at hread'
    cases at? with
    | none => cases hread'
    | some key =>
      cases hread'
      exact absurd ⟨rfl, rfl, rfl⟩ hother

/-! ## Following the cursors -/

theorem ended_toPage {pages : List (Keyset.Page Row (String × String))} (h : Keyset.Ended pages) :
    Ended (pages.map (toPage codec scope kind q)) := by
  obtain ⟨earlier, last, rfl, hlast⟩ := h
  exact ⟨earlier.map (toPage codec scope kind q), toPage codec scope kind q last, by simp, by simp [toPage, hlast]⟩

theorem ended_of_toPage {pages : List (Keyset.Page Row (String × String))} (h : Ended (pages.map (toPage codec scope kind q))) :
    Keyset.Ended pages := by
  obtain ⟨earlier, last, hsplit, hlast⟩ := h
  obtain ⟨earlier', last', rfl, -, hlast'⟩ := map_eq_append_iff.1 hsplit
  obtain ⟨p, rfl, rfl⟩ := map_eq_singleton_iff.1 hlast'
  exact ⟨earlier', p, rfl, by simpa [toPage] using hlast⟩

theorem items_toPage (pages : List (Keyset.Page Row (String × String))) :
    (pages.map (toPage codec scope kind q)).flatMap ReferencePage.items = (pages.flatMap Keyset.Page.items).map Row.candidate := by
  rw [flatMap_map, map_flatMap]
  rfl

variable (codec kind) in
/-- **The client's pages are the keyset's.** -/
theorem follow_eq (hq : (searchQuery normalize query).length ≤ 128) : ∀ (moments : List Directory) (at? : Option (String × String)),
    (∀ d ∈ moments, d.validateScope scope = .ok ()) → (∀ key, at? = some key → parseThreadId scope = .ok () ∧ Short key) →
    follow codec normalize scope kind query (at?.map fun key => codec.write (cursorFor scope kind (searchQuery normalize query) key))
        moments =
      .ok ((Keyset.follow Row.key precedes 8 at?
        (moments.map fun d => d.matching normalize scope kind (searchQuery normalize query))).map
          (toPage codec scope kind (searchQuery normalize query)))
  | [], _, _, _ => rfl
  | d :: later, at?, hscopes, hat => by
    have hscope := hscopes d mem_cons_self
    have hread : codec.read (at?.map fun key => codec.write (cursorFor scope kind (searchQuery normalize query) key)) =
        .ok (at?.map (cursorFor scope kind (searchQuery normalize query))) := by
      cases at? with
      | none => rfl
      | some key => exact read_write (hat key rfl).1 hq (hat key rfl).2
    have hlist := list_eq hscope hq hread
    rw [map_cons]
    unfold follow Keyset.follow
    rw [hlist]
    simp only [Except.bind, bind]
    cases hnext : (pageOf normalize d scope kind (searchQuery normalize query) at?).next with
    | none =>
      have hnone : (toPage codec scope kind (searchQuery normalize query)
          (pageOf normalize d scope kind (searchQuery normalize query) at?)).nextCursor = none := by
        rw [toPage, hnext]
        rfl
      unfold pageOf at hnext hnone ⊢
      rw [hnext, hnone]
      rfl
    | some next =>
      have hsome : (toPage codec scope kind (searchQuery normalize query)
          (pageOf normalize d scope kind (searchQuery normalize query) at?)).nextCursor =
            (some next).map fun key => codec.write (cursorFor scope kind (searchQuery normalize query) key) := by
        rw [toPage, hnext]
        rfl
      have hrest := follow_eq hq later (some next) (fun d' hd' => hscopes d' (.tail _ hd'))
        (fun key hkey => by cases hkey; exact ⟨parse_of_validateScope hscope, short_next hnext⟩)
      rw [Option.map_some] at hsome hrest
      unfold pageOf at hnext hsome ⊢
      rw [hnext, hsome]
      dsimp only
      rw [hrest]
      rfl

def listing (normalize : String → String) (d : Directory) (scope : String) (kind : ReferenceKind) (q : String) : List Row :=
  Keyset.select Row.key precedes (d.matching normalize scope kind q) none

theorem list_next {d' : Directory} {cursor : Option String} {next query' : String}
    (hlist : list codec normalize d ⟨scope, kind, query, cursor⟩ = .ok page) (hnext : page.nextCursor = some next)
    (hscope : d'.validateScope scope = .ok ()) (hquery : searchQuery normalize query' = searchQuery normalize query) :
    ∃ page', list codec normalize d' ⟨scope, kind, query', some next⟩ = .ok page' := by
  obtain ⟨hscope₀, hq, at?, -, rfl⟩ := list_ok hlist
  obtain ⟨key, hkey, rfl⟩ := Option.map_eq_some_iff.1 hnext
  have hread : codec.read (some (codec.write (cursorFor scope kind (searchQuery normalize query) key))) =
      .ok ((some key).map (cursorFor scope kind (searchQuery normalize query))) :=
    read_write (parse_of_validateScope hscope₀) hq (short_next hkey)
  rw [← hquery] at hread hq ⊢
  exact ⟨_, list_eq hscope hq hread⟩

theorem list_other {d' : Directory} {cursor : Option String} {next scope' query' : String}
    {kind' : ReferenceKind} (hlist : list codec normalize d ⟨scope, kind, query, cursor⟩ = .ok page)
    (hnext : page.nextCursor = some next)
    (hother : ¬(scope' = scope ∧ kind' = kind ∧ searchQuery normalize query' = searchQuery normalize query)) :
    ∃ error, list codec normalize d' ⟨scope', kind', query', some next⟩ = .error error := by
  obtain ⟨hscope₀, hq, at?, -, rfl⟩ := list_ok hlist
  obtain ⟨key, hkey, rfl⟩ := Option.map_eq_some_iff.1 hnext
  refine list_mismatch (read_write (parse_of_validateScope hscope₀) hq (short_next hkey)) fun hsame => hother ?_
  exact ⟨hsame.1.symm, hsame.2.1.symm, hsame.2.2.symm⟩

theorem eq_of_id {row' : Row} (h : row ∈ d.matching normalize scope kind q) (h' : row' ∈ d.matching normalize scope kind q)
    (hid : row.candidate.id = row'.candidate.id) : row = row' :=
  inj_on_of_nodup_map (nodup_matching d scope kind q) h h' hid

/-- **Following the cursors** of one search, over a directory that stays and over one that changes between the calls. -/
theorem reference_paging (codec : Codec) (normalize : String → String) (scope : String) (kind : ReferenceKind) (query : String) :
    (∀ d : Directory, d.validateScope scope = .ok () → (searchQuery normalize query).length ≤ 128 →
      ((listing normalize d scope kind (searchQuery normalize query)).Perm (d.matching normalize scope kind (searchQuery normalize query)) ∧
        (listing normalize d scope kind (searchQuery normalize query)).Pairwise (fun a b => precedes a.key b.key)) ∧
      ∃ n pages, follow codec normalize scope kind query none (List.replicate n d) = .ok pages ∧ Ended pages ∧
        pages.flatMap ReferencePage.items = (listing normalize d scope kind (searchQuery normalize query)).map Row.candidate) ∧
    (∀ d cursor page next, list codec normalize d ⟨scope, kind, query, cursor⟩ = .ok page → page.nextCursor = some next →
      ∀ (d' : Directory) scope' kind' query',
        (scope' = scope ∧ kind' = kind ∧ searchQuery normalize query' = searchQuery normalize query →
          d'.validateScope scope' = .ok () → ∃ page', list codec normalize d' ⟨scope', kind', query', some next⟩ = .ok page') ∧
        (¬(scope' = scope ∧ kind' = kind ∧ searchQuery normalize query' = searchQuery normalize query) →
          ∃ error, list codec normalize d' ⟨scope', kind', query', some next⟩ = .error error)) ∧
    (∀ (moments : List Directory) id activity, (searchQuery normalize query).length ≤ 128 →
      (∀ d ∈ moments, d.validateScope scope = .ok () ∧
        ∃ row ∈ d.matching normalize scope kind (searchQuery normalize query), row.candidate.id = id ∧ row.activity = activity) →
      ∃ pages, follow codec normalize scope kind query none moments = .ok pages ∧
        (pages.flatMap ReferencePage.items).countP (fun item => decide (item.id = id)) ≤ 1 ∧
        (Ended pages → (pages.flatMap ReferencePage.items).countP (fun item => decide (item.id = id)) = 1)) := by
  refine ⟨?_, ?_, ?_⟩
  · intro d hscope hq
    have hkeys := nodup_keys normalize d scope kind (searchQuery normalize query)
    have hperm : (listing normalize d scope kind (searchQuery normalize query)).Perm
        (d.matching normalize scope kind (searchQuery normalize query)) := by
      refine (perm_insertionSort _ _).trans (List.Perm.of_eq ?_)
      exact filter_eq_self.2 fun _ _ => rfl
    refine ⟨⟨hperm, Keyset.pairwise_select hkeys none⟩, ?_⟩
    have height : 0 < 8 := by decide
    obtain ⟨n, hended, hpages⟩ := Keyset.exists_follow (r := precedes) height hkeys none
    have hfollow := follow_eq codec kind hq (List.replicate n d) none
      (fun d' hd' => eq_of_mem_replicate hd' ▸ hscope) (fun key hkey => nomatch hkey)
    rw [map_replicate] at hfollow
    refine ⟨n, _, hfollow, ended_toPage hended, ?_⟩
    rw [items_toPage, hpages]
    rfl
  · intro d cursor page next hlist hnext d' scope' kind' query'
    refine ⟨?_, list_other hlist hnext⟩
    rintro ⟨rfl, rfl, hquery⟩ hscope
    exact list_next hlist hnext hscope hquery
  · intro moments id activity hq hmoments
    have hfollow := follow_eq codec kind hq moments none (fun d hd => (hmoments d hd).1)
      (fun key hkey => nomatch hkey)
    refine ⟨_, hfollow, ?_⟩
    obtain ⟨hatMost, hexact⟩ := @Keyset.count_follow _ _ Row.key precedes _ 8 _ _ (activity, id) (by decide)
      (moments.map fun d => d.matching normalize scope kind (searchQuery normalize query)) none (fun _ hc => nomatch hc) (by
        intro rows hrows
        obtain ⟨d, hd, rfl⟩ := mem_map.1 hrows
        obtain ⟨-, row, hrow, rfl, rfl⟩ := hmoments d hd
        exact ⟨nodup_keys normalize d scope kind _, mem_map.2 ⟨row, hrow, rfl⟩⟩)
    have hcount : ∀ rows : List Row, (∀ x ∈ rows, ∃ d ∈ moments, x ∈ d.matching normalize scope kind (searchQuery normalize query)) →
        (rows.map Row.candidate).countP (fun item => decide (item.id = id)) =
          rows.countP (fun x => decide (x.key = (activity, id))) := by
      intro rows hrows
      rw [countP_map]
      refine countP_congr fun x hx => ?_
      obtain ⟨d, hd, hmem⟩ := hrows x hx
      obtain ⟨-, row, hrow, hid, hactivity⟩ := hmoments d hd
      simp only [Function.comp_apply, decide_eq_true_eq]
      constructor
      · intro hx'
        rw [eq_of_id hmem hrow (hx'.trans hid.symm), Row.key, hactivity, hid]
      · intro hx'
        exact congrArg Prod.snd hx'
    rw [items_toPage, hcount _ fun x hx => by
      obtain ⟨rows, hrows, hx'⟩ := Keyset.mem_follow hx
      obtain ⟨d, hd, rfl⟩ := mem_map.1 hrows
      exact ⟨d, hd, hx'⟩]
    exact ⟨hatMost, fun hended => hexact (ended_of_toPage hended)⟩

/-! ## A cursor's bytes -/

variable (text : String)

def bytesOf : List (Fin 256) := text.toUTF8.data.toList.map UInt8.toFin

def textOf (bytes : List (Fin 256)) : Option String := String.fromUTF8? ⟨(bytes.map UInt8.ofFin).toArray⟩

theorem textOf_bytesOf : textOf (bytesOf text) = some text := by
  have hbytes : (⟨((bytesOf text).map UInt8.ofFin).toArray⟩ : ByteArray) = text.toUTF8 := by
    unfold bytesOf
    rw [map_map]
    have hid : UInt8.ofFin ∘ UInt8.toFin = id := rfl
    rw [hid, map_id, Array.toArray_toList]
  have hvalid : text.toUTF8.IsValidUTF8 := text.isValidUTF8
  unfold textOf
  rw [hbytes]
  exact dif_pos hvalid

theorem length_bytesOf : (bytesOf text).length = text.utf8ByteSize := by
  unfold bytesOf
  rw [length_map]
  rfl

def kindOf (name : String) : Option ReferenceKind :=
  if name = "thread" then some .thread else if name = "mission" then some .mission else none

def cursorOf : Json → Option Cursor
  | .arr [.str threadId, .str kind, .str query, .str activity, .str id] => (kindOf kind).map fun k => ⟨threadId, k, query, activity, id⟩
  | _ => none

def readCursor (encoded : String) : Option Cursor :=
  (Base64.decode encoded).bind fun bytes => (textOf bytes).bind fun text => (Json.read text).bind cursorOf

def urlSafe : Codec where
  encode text := Base64.encode (bytesOf text)
  decode encoded := Fallible.orError (readCursor encoded) "Invalid reference cursor"
  decode_encode c := by
    have hreadable : Json.Readable c.json 127 := ⟨trivial, trivial, trivial, trivial, trivial, trivial⟩
    have hkind : kindOf c.kind.path = some c.kind := by cases c.kind <;> decide
    rw [Fallible.orError_eq_ok]
    unfold readCursor
    rw [Base64.decode_encode, Option.bind_some, textOf_bytesOf, Option.bind_some, Json.read_encode hreadable,
      Option.bind_some, Cursor.json, cursorOf, hkind]
    rfl
  size_encode text := by rw [Base64.utf8ByteSize_encode, length_bytesOf]

/-! ## Nine threads -/

def threadOf (id : String) : Camp := ⟨id, "ab", "quick", "", "active", none, none, "2026-10-22"⟩

def ninth : Directory where
  camps := ⟨(["rvcamp_0000000000e008000000000000", "rvcamp_0000000000e008000000000001", "rvcamp_0000000000e008000000000002",
    "rvcamp_0000000000e008000000000003", "rvcamp_0000000000e008000000000004", "rvcamp_0000000000e008000000000005",
    "rvcamp_0000000000e008000000000006", "rvcamp_0000000000e008000000000007", "rvcamp_0000000000e008000000000008",
    "rvcamp_0000000000e008000000000009"]).map threadOf, by decide +kernel⟩
  missions := .empty
  campIds := by decide +kernel
  missionIds := by decide +kernel
  times := by decide +kernel

/-- Of the nine threads that the tenth may refer to, eight are on the first page. -/
theorem next_ninth : (pageOf (String.map Char.toLower) ninth "rvcamp_0000000000e008000000000000" .thread "ab" none).next =
    some ("2026-10-22", "rvcamp_0000000000e008000000000008") := by decide +kernel

theorem scope_ninth : ninth.validateScope "rvcamp_0000000000e008000000000000" = .ok () := by decide

theorem searchQuery_ninth : searchQuery (String.map Char.toLower) "a b" = "ab" ∧ searchQuery (String.map Char.toLower) "ab" = "ab" := by
  decide +kernel

theorem reference_paging_ninth : ∃ n pages,
    follow urlSafe (String.map Char.toLower) "rvcamp_0000000000e008000000000000" .thread "a b" none (List.replicate n ninth) = .ok pages ∧
      Ended pages ∧ (pages.flatMap ReferencePage.items).length = 9 := by
  obtain ⟨-, n, pages, hfollow, hended, hitems⟩ :=
    (reference_paging urlSafe (String.map Char.toLower) "rvcamp_0000000000e008000000000000" .thread "a b").1 ninth scope_ninth
      (by rw [searchQuery_ninth.1]; decide)
  refine ⟨n, pages, hfollow, hended, ?_⟩
  rw [hitems, length_map, searchQuery_ninth.1]
  decide +kernel

/-- The cursor of the query `a b` is accepted with the query `ab`. -/
theorem cursor_shared : ∃ page next page',
    list urlSafe (String.map Char.toLower) ninth ⟨"rvcamp_0000000000e008000000000000", .thread, "a b", none⟩ = .ok page ∧
      page.nextCursor = some next ∧
      list urlSafe (String.map Char.toLower) ninth ⟨"rvcamp_0000000000e008000000000000", .thread, "ab", some next⟩ = .ok page' := by
  have hfirst : urlSafe.read none = .ok ((none : Option (String × String)).map
      (cursorFor "rvcamp_0000000000e008000000000000" .thread (searchQuery (String.map Char.toLower) "a b"))) := rfl
  have hlist := list_eq scope_ninth (by rw [searchQuery_ninth.1]; decide) hfirst
  have hnext := next_ninth
  rw [← searchQuery_ninth.1] at hnext
  have hcursor := congrArg (Option.map fun key => urlSafe.write (cursorFor "rvcamp_0000000000e008000000000000" .thread
    (searchQuery (String.map Char.toLower) "a b") key)) hnext
  obtain ⟨page', hpage'⟩ := list_next hlist hcursor scope_ninth (searchQuery_ninth.2.trans searchQuery_ninth.1.symm)
  exact ⟨_, _, page', hlist, hcursor, hpage'⟩

end Rovai.ThreadReference
