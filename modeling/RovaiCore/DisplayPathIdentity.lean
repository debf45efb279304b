import RovaiCore.DisplayPath
import Mathlib.Algebra.Order.BigOperators.Group.List
import Mathlib.Algebra.Order.Ring.Nat
/-!
# When display paths identify files

What is shown of a resolved path can be read back (`resolvePath_shownPath`).
-/
namespace Rovai.DisplayPath

open Lines (Text)
open List

variable {α : Type} [DecidableEq α] {os : OsString α} {url : UrlReader os}
variable {root resolved cs base : List (List α)} {path : List α} {t d : Text}

/-! ## Texts -/

omit [DecidableEq α] in
theorem ofChar_injective (os : OsString α) : Function.Injective os.ofChar := fun a b h => by
  rw [← os.lossy_ofChar a, h, os.lossy_ofChar]

omit [DecidableEq α] in
theorem ofText_injective (os : OsString α) : Function.Injective (ofText os) :=
  map_injective_iff.2 (ofChar_injective os)

omit [DecidableEq α] in
theorem map_lossy_ofText (os : OsString α) (t : Text) : (ofText os t).map os.lossy = t := by
  unfold ofText
  rw [map_map]
  have hid : os.lossy ∘ os.ofChar = id := funext os.lossy_ofChar
  rw [hid, map_id]

theorem isAbsolutePath_ofText (os : OsString α) (t : Text) : isAbsolutePath os (ofText os t) = true ↔ t.head? = some '/' := by
  unfold isAbsolutePath ofText slash
  rw [decide_eq_true_eq, head?_map, Option.map_eq_some_iff]
  constructor
  · rintro ⟨c, hc, heq⟩
    rw [hc, ofChar_injective os heq]
  · intro h
    exact ⟨'/', h, rfl⟩

theorem splitOn_ofText (os : OsString α) (t : Text) : (ofText os t).splitOn (slash os) = (t.splitOn '/').map (ofText os) := by
  induction t with
  | nil => rfl
  | cons c t ih =>
    have hcons : ofText os (c :: t) = os.ofChar c :: ofText os t := rfl
    rw [hcons, splitOn_cons_eq_if_modifyHead, splitOn_cons_eq_if_modifyHead, ih]
    by_cases hc : c = '/'
    · have hslash : (os.ofChar c == slash os) = true := by rw [hc]; exact beq_self_eq_true _
      rw [if_pos hslash, if_pos (by simp [hc])]
      rfl
    · have hslash : (os.ofChar c == slash os) = false := beq_false_of_ne fun h => hc (ofChar_injective os h)
      rw [if_neg (by simp [hslash]), if_neg (by simp [hc])]
      cases t.splitOn '/' <;> rfl

theorem infix_of_containsText {p : Text} : ∀ {t : Text}, containsText p t = true → ∃ a b, t = a ++ (p ++ b)
  | [], h => by
    have hp : p = [] := isEmpty_iff.1 h
    exact ⟨[], [], by simp [hp]⟩
  | c :: t, h => by
    unfold containsText at h
    rw [Bool.or_eq_true] at h
    obtain h | h := h
    · obtain ⟨b, hb⟩ := isPrefixOf_iff_prefix.1 h
      exact ⟨[], b, hb.symm⟩
    · obtain ⟨a, b, hab⟩ := infix_of_containsText h
      exact ⟨c :: a, b, by rw [hab]; rfl⟩

/-! ## Components -/

theorem not_mem_of_mem_splitOn {a : α} : ∀ {xs l : List α}, l ∈ xs.splitOn a → a ∉ l
  | [], l, hl => by
    rw [splitOn_nil, mem_singleton] at hl
    rw [hl]
    exact not_mem_nil
  | x :: xs, l, hl => by
    rw [splitOn_cons_eq_if_modifyHead] at hl
    split at hl
    · obtain rfl | hl := mem_cons.1 hl
      · exact not_mem_nil
      · exact not_mem_of_mem_splitOn hl
    · rename_i hx
      cases hsplit : xs.splitOn a with
      | nil => exact absurd hsplit (splitOn_ne_nil a xs)
      | cons first rest =>
        rw [hsplit, modifyHead_cons] at hl
        have hfirst : a ∉ first := not_mem_of_mem_splitOn (show first ∈ xs.splitOn a by rw [hsplit]; exact mem_cons_self)
        obtain rfl | hl := mem_cons.1 hl
        · rw [mem_cons, not_or]
          exact ⟨fun h => hx (by rw [h]; exact beq_self_eq_true x), hfirst⟩
        · exact not_mem_of_mem_splitOn (by rw [hsplit]; exact mem_cons_of_mem _ hl)

theorem mem_of_mem_splitOn {a u : α} : ∀ {xs l : List α}, l ∈ xs.splitOn a → u ∈ l → u ∈ xs
  | [], l, hl, hu => by
    rw [splitOn_nil, mem_singleton] at hl
    rw [hl] at hu
    exact hu
  | x :: xs, l, hl, hu => by
    rw [splitOn_cons_eq_if_modifyHead] at hl
    split at hl
    · obtain rfl | hl := mem_cons.1 hl
      · cases hu
      · exact mem_cons_of_mem x (mem_of_mem_splitOn hl hu)
    · cases hsplit : xs.splitOn a with
      | nil => exact absurd hsplit (splitOn_ne_nil a xs)
      | cons first rest =>
        rw [hsplit, modifyHead_cons] at hl
        obtain rfl | hl := mem_cons.1 hl
        · obtain rfl | hu := mem_cons.1 hu
          · exact mem_cons_self
          · exact mem_cons_of_mem x (mem_of_mem_splitOn (by rw [hsplit]; exact mem_cons_self) hu)
        · exact mem_cons_of_mem x (mem_of_mem_splitOn (by rw [hsplit]; exact mem_cons_of_mem _ hl) hu)

variable (os) in
structure Proper (c : List α) : Prop where
  nonempty : c ≠ []
  slashless : slash os ∉ c
  notCurrent : c ≠ ofText os currentDir
  notParent : c ≠ ofText os parentDir

variable {c : List α}

theorem mem_components (h : c ∈ components os path) :
    c ∈ path.splitOn (slash os) ∧ c ≠ [] ∧ slash os ∉ c ∧ c ≠ ofText os currentDir := by
  obtain ⟨hmem, hkept⟩ := mem_filter.1 h
  rw [Bool.and_eq_true] at hkept
  exact ⟨hmem, by simpa using hkept.1, not_mem_of_mem_splitOn hmem, by simpa using hkept.2⟩

theorem foldl_push_none (cs : List (List α)) : cs.foldl (push os) none = none := by
  induction cs with
  | nil => rfl
  | cons c cs ih => exact ih

theorem push_cases {clean clean' : List (List α)} (h : push os (some clean) c = some clean') :
    (c = ofText os parentDir ∧ clean' = clean.dropLast) ∨ (c ≠ ofText os parentDir ∧ clean' = clean ++ [c]) := by
  unfold push at h
  rw [Option.bind_some] at h
  split at h
  · rename_i hc
    split at h
    · cases h
    · exact .inl ⟨hc, (Option.some.inj h).symm⟩
  · rename_i hc
    exact .inr ⟨hc, (Option.some.inj h).symm⟩

theorem foldl_push_induction {P : List (List α) → Prop} (hup : ∀ clean, P clean → P clean.dropLast) :
    ∀ (cs base : List (List α)), (∀ clean, ∀ c ∈ cs, c ≠ ofText os parentDir → P clean → P (clean ++ [c])) → P base →
      cs.foldl (push os) (some base) = some resolved → P resolved
  | [], base, _, hbase, h => by
    cases h
    exact hbase
  | c :: cs, base, hdown, hbase, h => by
    rw [foldl_cons] at h
    cases hpush : push os (some base) c with
    | none =>
      rw [hpush, foldl_push_none] at h
      cases h
    | some clean =>
      rw [hpush] at h
      refine foldl_push_induction hup cs clean (fun clean c hc => hdown clean c (.tail _ hc)) ?_ h
      obtain ⟨-, rfl⟩ | ⟨hc, rfl⟩ := push_cases hpush
      · exact hup base hbase
      · exact hdown base c mem_cons_self hc hbase

theorem proper_of_foldl (hbase : ∀ c ∈ base, Proper os c) (h : (components os path).foldl (push os) (some base) = some resolved) :
    ∀ c ∈ resolved, Proper os c := by
  refine foldl_push_induction (P := fun clean => ∀ c ∈ clean, Proper os c)
    (fun clean hclean c hc => hclean c ((dropLast_sublist clean).subset hc)) _ base (fun clean c hc hparent hclean c' hc' => ?_) hbase h
  obtain hc' | hc' := mem_append.1 hc'
  · exact hclean c' hc'
  rw [mem_singleton.1 hc']
  obtain ⟨-, hnonempty, hslash, hcurrent⟩ := mem_components hc
  exact ⟨hnonempty, hslash, hcurrent, hparent⟩

theorem proper_of_normalize (h : normalizeAbsolute os path = some resolved) : ∀ c ∈ resolved, Proper os c := by
  unfold normalizeAbsolute at h
  split at h
  · exact proper_of_foldl (fun c hc => absurd hc not_mem_nil) h
  · cases h

theorem proper_of_resolvePath (hroot : ∀ c ∈ root, Proper os c) (h : resolvePath os root path = some resolved) :
    ∀ c ∈ resolved, Proper os c := by
  unfold resolvePath at h
  split at h
  · exact proper_of_normalize h
  · exact proper_of_foldl hroot h

theorem foldl_push_eq : ∀ (cs base : List (List α)), (∀ c ∈ cs, c ≠ ofText os parentDir) →
    cs.foldl (push os) (some base) = some (base ++ cs)
  | [], base, _ => by rw [append_nil]; rfl
  | c :: cs, base, hcs => by
    have hpush : push os (some base) c = some (base ++ [c]) := by
      unfold push
      rw [Option.bind_some, if_neg (hcs c mem_cons_self)]
    rw [foldl_cons, hpush, foldl_push_eq cs (base ++ [c]) fun c' hc' => hcs c' (.tail _ hc'), append_assoc]
    rfl

/-! ## Reading back what is shown -/

theorem splitOn_join (hcs : ∀ c ∈ cs, Proper os c) (hne : cs ≠ []) : ([slash os].intercalate cs).splitOn (slash os) = cs :=
  splitOn_intercalate (slash os) (fun c hc => (hcs c hc).slashless) hne

theorem filter_proper (hcs : ∀ c ∈ cs, Proper os c) : cs.filter (fun c => !c.isEmpty && c != ofText os currentDir) = cs := by
  rw [filter_eq_self]
  intro c hc
  have hproper := hcs c hc
  simp [hproper.nonempty, hproper.notCurrent]

theorem components_join (hcs : ∀ c ∈ cs, Proper os c) : components os ([slash os].intercalate cs) = cs := by
  unfold components
  by_cases hne : cs = []
  · subst hne
    rfl
  · rw [splitOn_join hcs hne]
    exact filter_proper hcs

theorem splitOn_slash (path : List α) : (slash os :: path).splitOn (slash os) = [] :: path.splitOn (slash os) :=
  splitOn_append_cons_self [] path

theorem components_slash (path : List α) : components os (slash os :: path) = components os path := by
  unfold components
  rw [splitOn_slash]
  exact filter_cons_of_neg (by simp)

theorem isAbsolutePath_join (hcs : ∀ c ∈ cs, Proper os c) : isAbsolutePath os ([slash os].intercalate cs) = false := by
  unfold isAbsolutePath
  rw [decide_eq_false_iff_not]
  intro hhead
  cases hpath : [slash os].intercalate cs with
  | nil => rw [hpath] at hhead; cases hhead
  | cons u rest =>
    rw [hpath] at hhead
    cases hhead
    by_cases hne : cs = []
    · subst hne
      cases hpath
    · have hsplit := splitOn_join hcs hne
      rw [hpath, splitOn_slash] at hsplit
      exact (hcs [] (by rw [← hsplit]; exact mem_cons_self)).nonempty rfl

/-- **What is shown is read back.** -/
theorem resolvePath_shownPath (hresolved : ∀ c ∈ resolved, Proper os c) :
    resolvePath os root (shownPath os root resolved) = some resolved := by
  unfold shownPath shown
  by_cases hinside : root.isPrefixOf resolved = true
  · obtain ⟨rest, rfl⟩ := isPrefixOf_iff_prefix.1 hinside
    rw [if_pos hinside, if_pos hinside, drop_left, nil_append]
    have hrest : ∀ c ∈ rest, Proper os c := fun c hc => hresolved c (mem_append_right root hc)
    unfold resolvePath
    rw [if_neg (by rw [isAbsolutePath_join hrest]; decide), components_join hrest,
      foldl_push_eq rest root fun c hc => (hrest c hc).notParent]
  · rw [if_neg hinside, if_neg hinside, singleton_append]
    have habsolute : isAbsolutePath os (slash os :: [slash os].intercalate resolved) = true := decide_eq_true rfl
    unfold resolvePath normalizeAbsolute
    rw [if_pos habsolute, if_pos habsolute, components_slash, components_join hresolved,
      foldl_push_eq resolved [] fun c hc => (hresolved c hc).notParent]
    rfl

theorem mem_splitOn_shownPath (hresolved : ∀ c ∈ resolved, Proper os c)
    (hc : c ∈ (shownPath os root resolved).splitOn (slash os)) : c = [] ∨ c ∈ shown root resolved := by
  have hshown : ∀ c ∈ shown root resolved, Proper os c := by
    intro c hc
    unfold shown at hc
    split at hc
    · exact hresolved c (mem_of_mem_drop hc)
    · exact hresolved c hc
  have hjoin : c ∈ ([slash os].intercalate (shown root resolved)).splitOn (slash os) → c = [] ∨ c ∈ shown root resolved := by
    intro hc
    by_cases hne : shown root resolved = []
    · rw [hne] at hc
      exact .inl (mem_singleton.1 hc)
    · rw [splitOn_join hshown hne] at hc
      exact .inr hc
  unfold shownPath at hc
  split at hc
  · exact hjoin hc
  rw [singleton_append, splitOn_slash] at hc
  obtain rfl | hc := mem_cons.1 hc
  · exact .inl rfl
  · exact hjoin hc

theorem not_double_slash (hresolved : ∀ c ∈ resolved, Proper os c) {a b : List α} {u : α} :
    shownPath os root resolved ≠ a ++ (u :: slash os :: slash os :: b) := by
  intro hpath
  have hshown : ∀ c ∈ shown root resolved, Proper os c := by
    intro c hc
    unfold shown at hc
    split at hc
    · exact hresolved c (mem_of_mem_drop hc)
    · exact hresolved c hc
  have hsplit : (shownPath os root resolved).splitOn (slash os) =
      (a ++ [u]).splitOn (slash os) ++ ([] :: b.splitOn (slash os)) := by
    have happend : a ++ (u :: slash os :: slash os :: b) = (a ++ [u]) ++ slash os :: (slash os :: b) := by simp
    rw [hpath, happend, splitOn_append_cons_self, splitOn_slash]
  have hjoin : ∀ {first : List (List α)}, ([slash os].intercalate (shown root resolved)).splitOn (slash os) =
      first ++ ([] :: b.splitOn (slash os)) → shown root resolved = [] := by
    intro first hfirst
    by_contra hne
    rw [splitOn_join hshown hne] at hfirst
    exact (hshown [] (by rw [hfirst]; exact mem_append_right _ mem_cons_self)).nonempty rfl
  have hlength := congrArg List.length hpath
  unfold shownPath at hsplit hlength
  split at hsplit
  · rw [nil_append] at hsplit
    rw [if_pos ‹_›, hjoin hsplit] at hlength
    simp at hlength
  · rw [singleton_append, splitOn_slash] at hsplit
    obtain ⟨first, rest, hfirst⟩ := exists_cons_of_ne_nil (splitOn_ne_nil (slash os) (a ++ [u]))
    rw [hfirst, cons_append] at hsplit
    rw [if_neg ‹_›, hjoin (List.cons.inj hsplit).2] at hlength
    simp at hlength
    omega

/-! ## Lengths -/

def width (cs : List (List α)) : Nat := (cs.map fun c => c.length + 1).sum

omit [DecidableEq α] in
theorem width_append (cs cs' : List (List α)) : width (cs ++ cs') = width cs + width cs' := by
  unfold width
  rw [map_append, sum_append]

omit [DecidableEq α] in
theorem width_le_of_sublist (h : cs.Sublist base) : width cs ≤ width base :=
  (h.map _).sum_le_sum fun _ _ => Nat.zero_le _

theorem width_splitOn (a : α) (xs : List α) : width (xs.splitOn a) = xs.length + 1 := by
  induction xs with
  | nil => rfl
  | cons x xs ih =>
    rw [splitOn_cons_eq_if_modifyHead]
    split
    · rw [length_cons, ← ih]
      unfold width
      rw [map_cons, sum_cons, length_nil]
      omega
    · rw [length_cons, ← ih]
      cases hsplit : xs.splitOn a with
      | nil => exact absurd hsplit (splitOn_ne_nil a xs)
      | cons first rest =>
        rw [modifyHead_cons]
        unfold width
        rw [map_cons, map_cons, sum_cons, sum_cons, length_cons]
        omega

omit [DecidableEq α] in
theorem length_join (u : α) (cs : List (List α)) : ([u].intercalate cs).length ≤ width cs - 1 := by
  induction cs with
  | nil => exact Nat.le_refl 0
  | cons c cs ih =>
    have hwidth : width (c :: cs) = c.length + 1 + width cs := rfl
    cases cs with
    | nil => simp [intercalate, hwidth]
    | cons c' cs =>
      have hjoin : [u].intercalate (c :: c' :: cs) = c ++ (u :: [u].intercalate (c' :: cs)) := by
        simp [intercalate, intersperse]
      have hwidth' : width (c' :: cs) = c'.length + 1 + width cs := rfl
      rw [hjoin, length_append, length_cons]
      omega

theorem width_foldl (h : cs.foldl (push os) (some base) = some resolved) : width resolved ≤ width base + width cs := by
  induction cs generalizing base with
  | nil =>
    cases h
    exact Nat.le_refl _
  | cons c cs ih =>
    have hwidth : width (c :: cs) = c.length + 1 + width cs := rfl
    rw [foldl_cons] at h
    cases hpush : push os (some base) c with
    | none =>
      rw [hpush, foldl_push_none] at h
      cases h
    | some clean =>
      rw [hpush] at h
      have hrest := ih h
      obtain ⟨-, rfl⟩ | ⟨-, rfl⟩ := push_cases hpush
      · have hless := width_le_of_sublist (dropLast_sublist base)
        omega
      · have hone : width [c] = c.length + 1 := rfl
        rw [width_append, hone] at hrest
        omega

theorem length_shownPath_le (h : normalizeAbsolute os path = some resolved) :
    (shownPath os root resolved).length ≤ path.length := by
  unfold normalizeAbsolute at h
  split at h
  · rename_i habsolute
    obtain ⟨rest, rfl⟩ : ∃ rest, path = slash os :: rest := by
      cases path with
      | nil => cases of_decide_eq_true habsolute
      | cons u rest =>
        obtain rfl := Option.some.inj (of_decide_eq_true habsolute)
        exact ⟨rest, rfl⟩
    have hfold := width_foldl h
    have hcomponents : width (components os (slash os :: rest)) ≤ rest.length + 1 := by
      rw [components_slash, ← width_splitOn (slash os) rest]
      exact width_le_of_sublist filter_sublist
    have hnil : width ([] : List (List α)) = 0 := rfl
    have hjoin := length_join (slash os) (shown root resolved)
    have hshown : width (shown root resolved) ≤ width resolved := by
      unfold shown
      split
      · exact width_le_of_sublist (drop_sublist _ _)
      · exact Nat.le_refl _
    unfold shownPath
    rw [length_append, length_cons]
    split
    · rw [length_nil]
      omega
    · rw [length_singleton]
      omega
  · cases h

/-! ## Plain paths -/

variable (os) in
/-- What is shown is a text without a backslash or a NUL, not blank and not read as a `file:` URL. -/
def Plain (root resolved : List (List α)) : Prop :=
  ∃ t : Text, shownPath os root resolved = ofText os t ∧ '\\' ∉ t ∧ '\x00' ∉ t ∧ (trim t).isEmpty = false ∧
    fileScheme.isPrefixOf t = false

theorem forwardSlash_ne (c : Char) : forwardSlash c ≠ '\\' := by
  unfold forwardSlash
  split
  · decide
  · assumption

theorem map_forwardSlash_of_not_mem (h : '\\' ∉ t) : t.map forwardSlash = t := by
  refine (map_congr_left fun c hc => ?_).trans (map_id t)
  have hne : c ≠ '\\' := fun heq => h (heq ▸ hc)
  exact if_neg hne

theorem displayOf_eq (hd : displayOf os root resolved = some d) :
    d = (shownPath os root resolved).map (fun u => forwardSlash (os.lossy u)) ∧
      (root.isPrefixOf resolved = true → shown root resolved ≠ []) ∧ ∀ c ∈ shown root resolved, isGitComponent os c = false := by
  unfold displayOf at hd
  split at hd
  · cases hd
  rename_i hinside
  split at hd
  · cases hd
  rename_i hgit
  refine ⟨(Option.some.inj hd).symm, fun hroot hempty => hinside ?_, fun c hc => ?_⟩
  · rw [hroot, hempty]
    rfl
  · rw [Bool.eq_false_iff]
    exact fun hc' => hgit (any_eq_true.2 ⟨c, hc, hc'⟩)

theorem map_shown_ofText (h : shownPath os root resolved = ofText os t) (hback : '\\' ∉ t) :
    (shownPath os root resolved).map (fun u => forwardSlash (os.lossy u)) = t := by
  have hcomp : (fun u => forwardSlash (os.lossy u)) = forwardSlash ∘ os.lossy := rfl
  rw [hcomp, ← map_map, h, map_lossy_ofText, map_forwardSlash_of_not_mem hback]

theorem reportedPath_of_plain (hresolved : ∀ c ∈ resolved, Proper os c) (h : shownPath os root resolved = ofText os t)
    (hnul : '\x00' ∉ t) (hblank : (trim t).isEmpty = false) (hfile : fileScheme.isPrefixOf t = false) :
    reportedPath url t = some (shownPath os root resolved) := by
  have hscheme : ¬containsText schemeMark t = true := by
    intro hcontains
    obtain ⟨a, b, rfl⟩ := infix_of_containsText hcontains
    refine not_double_slash (a := ofText os a) (b := ofText os b) (u := os.ofChar ':') hresolved (h.trans ?_)
    unfold ofText slash
    rw [map_append, map_append]
    rfl
  unfold reportedPath
  rw [if_neg (by simp [hblank, hnul]), if_neg (by rw [hfile]; decide), if_neg hscheme, h]

variable {displayRoot : List α} {reported reported' d' : Text} {resolved' : List (List α)}

theorem display_eq (hroot : normalizeAbsolute os displayRoot = some root) (reported : Text) :
    display url displayRoot reported = (resolve url root reported).bind (displayOf os root) := by
  unfold display
  rw [hroot, Option.bind_some]

structure Identifies (url : UrlReader os) (displayRoot : List α) (root resolved : List (List α)) (reported d : Text) : Prop where
  same : display url displayRoot d = display url displayRoot reported ↔ resolve url root d = resolve url root reported
  clean : ∀ c ∈ d.splitOn '/', c ≠ currentDir ∧ c ≠ parentDir ∧ isGitDir c = false
  relative : d.head? ≠ some '/' ↔ root <+: resolved ∧ root ≠ resolved
  again : display url displayRoot d = some d

theorem inside_iff (hresolved : ∀ c ∈ resolved, Proper os c) (hstrict : root.isPrefixOf resolved = true → shown root resolved ≠ []) :
    isAbsolutePath os (shownPath os root resolved) = false ↔ root <+: resolved ∧ root ≠ resolved := by
  unfold shownPath
  by_cases hinside : root.isPrefixOf resolved = true
  · obtain ⟨rest, rfl⟩ := isPrefixOf_iff_prefix.1 hinside
    have hshown : shown root (root ++ rest) = rest := by
      unfold shown
      rw [if_pos hinside, drop_left]
    have hne := hstrict hinside
    rw [if_pos hinside, nil_append, hshown]
    rw [hshown] at hne
    refine ⟨fun _ => ⟨prefix_append root rest, fun heq => hne ?_⟩, fun _ => ?_⟩
    · exact append_right_eq_self.1 heq.symm
    · exact isAbsolutePath_join fun c hc => hresolved c (mem_append_right root hc)
  · rw [if_neg hinside]
    have habsolute : isAbsolutePath os ([slash os] ++ [slash os].intercalate (shown root resolved)) = true := decide_eq_true rfl
    rw [habsolute]
    exact ⟨nofun, fun h => absurd (List.isPrefixOf_iff_prefix.2 h.1) hinside⟩

theorem identifies_of_plain (hroot : normalizeAbsolute os displayRoot = some root) (hresolve : resolve url root reported = some resolved)
    (hd : displayOf os root resolved = some d) (hplain : Plain os root resolved) :
    Identifies url displayRoot root resolved reported d := by
  obtain ⟨t, hpath, hback, hnul, hblank, hfile⟩ := hplain
  have hproper : ∀ c ∈ resolved, Proper os c := by
    obtain ⟨path, -, hresolve⟩ := Option.bind_eq_some_iff.1 hresolve
    exact proper_of_resolvePath (proper_of_normalize hroot) hresolve
  obtain ⟨hshown, hstrict, hgit⟩ := displayOf_eq hd
  obtain rfl : d = t := hshown.trans (map_shown_ofText hpath hback)
  have hread : resolve url root d = some resolved := by
    unfold resolve
    rw [reportedPath_of_plain hproper hpath hnul hblank hfile, Option.bind_some, resolvePath_shownPath hproper]
  have hagain : display url displayRoot d = some d := by rw [display_eq hroot, hread, Option.bind_some, hd]
  refine ⟨?_, fun c hc => ?_, ?_, hagain⟩
  · rw [display_eq hroot reported, hresolve, hread, hagain, Option.bind_some, hd]
    simp
  · have hpiece : ofText os c ∈ (shownPath os root resolved).splitOn (slash os) := by
      rw [hpath, splitOn_ofText]
      exact mem_map_of_mem hc
    obtain hempty | hmem := mem_splitOn_shownPath hproper hpiece
    · obtain rfl : c = [] := map_eq_nil_iff.1 hempty
      exact ⟨by decide, by decide, by decide⟩
    · have hc' : Proper os (ofText os c) := by
        unfold shown at hmem
        split at hmem
        · exact hproper _ (mem_of_mem_drop hmem)
        · exact hproper _ hmem
      refine ⟨?_, ?_, ?_⟩
      · rintro rfl
        exact hc'.notCurrent rfl
      · rintro rfl
        exact hc'.notParent rfl
      · have hnot := hgit _ hmem
        unfold isGitComponent at hnot
        rwa [map_lossy_ofText] at hnot
  · rw [← inside_iff hproper hstrict, hpath, Bool.eq_false_iff, ne_eq, ne_eq, isAbsolutePath_ofText]

/-! ## Identified paths are plain -/

omit [DecidableEq α] in
theorem mem_join {u v : α} (h : v ∈ [u].intercalate cs) : v = u ∨ ∃ c ∈ cs, v ∈ c := by
  induction cs with
  | nil => cases h
  | cons c cs ih =>
    cases cs with
    | nil =>
      rw [show [u].intercalate [c] = c by simp [intercalate]] at h
      exact .inr ⟨c, mem_cons_self, h⟩
    | cons c' cs =>
      have hjoin : [u].intercalate (c :: c' :: cs) = c ++ (u :: [u].intercalate (c' :: cs)) := by
        simp [intercalate, intersperse]
      rw [hjoin] at h
      obtain h | h := mem_append.1 h
      · exact .inr ⟨c, mem_cons_self, h⟩
      obtain rfl | h := mem_cons.1 h
      · exact .inl rfl
      · exact (ih h).imp_right fun ⟨c'', hc'', hv⟩ => ⟨c'', .tail _ hc'', hv⟩

theorem shownPath_of_components (hcs : ∀ c ∈ shown root resolved, c ∈ components os (ofText os t)) (hback : '\\' ∉ t)
    (hshown : t = (shownPath os root resolved).map (fun u => forwardSlash (os.lossy u))) : shownPath os root resolved = ofText os t := by
  have hunits : ∀ u ∈ shownPath os root resolved, ∃ c, u = os.ofChar c ∧ c ≠ '\\' := by
    intro u hu
    have hjoin : u = slash os ∨ u ∈ [slash os].intercalate (shown root resolved) := by
      unfold shownPath at hu
      obtain hu | hu := mem_append.1 hu
      · split at hu
        · cases hu
        · exact .inl (mem_singleton.1 hu)
      · exact .inr hu
    have hslash : ∀ v, v = slash os → ∃ c, v = os.ofChar c ∧ c ≠ '\\' := fun v hv => ⟨'/', hv, by decide⟩
    obtain hu | hu := hjoin
    · exact hslash u hu
    obtain hu | ⟨c, hc, hu⟩ := mem_join hu
    · exact hslash u hu
    obtain ⟨ch, hch, rfl⟩ := mem_map.1 (mem_of_mem_splitOn (mem_components (hcs c hc)).1 hu)
    exact ⟨ch, rfl, fun heq => hback (heq ▸ hch)⟩
  rw [hshown]
  unfold ofText
  rw [map_map]
  refine (map_id _).symm.trans (map_congr_left fun u hu => ?_)
  obtain ⟨c, rfl, hc⟩ := hunits u hu
  have hkept : forwardSlash c = c := if_neg hc
  simp [os.lossy_ofChar, hkept]

theorem plain_of_identifies (hroot : normalizeAbsolute os displayRoot = some root) (hresolve : resolve url root reported = some resolved)
    (hd : displayOf os root resolved = some d) (h : Identifies url displayRoot root resolved reported d) :
    Plain os root resolved := by
  obtain ⟨hsame, hclean, hrelative, hagain⟩ := h
  obtain ⟨hshown, hstrict, -⟩ := displayOf_eq hd
  have hreported : display url displayRoot reported = some d := by rw [display_eq hroot, hresolve, Option.bind_some, hd]
  have hread : resolve url root d = some resolved := (hsame.1 (hagain.trans hreported.symm)).trans hresolve
  have hback : '\\' ∉ d := by
    rw [hshown]
    intro hmem
    obtain ⟨u, -, hu⟩ := mem_map.1 hmem
    exact forwardSlash_ne _ hu
  obtain ⟨path, hpath, hresolved⟩ := Option.bind_eq_some_iff.1 hread
  unfold reportedPath at hpath
  split at hpath
  · cases hpath
  rename_i hvisible
  have hblank : (trim d).isEmpty = false := by simpa using fun hblank => hvisible (by rw [hblank]; rfl)
  have hnul : '\x00' ∉ d := by
    intro hnul
    exact hvisible (by simp [hnul])
  split at hpath
  · -- A `file:` URL names a shorter path, whose display would be shorter than the URL.
    have habsolute := url.absolute d path hpath
    unfold resolvePath at hresolved
    rw [if_pos habsolute] at hresolved
    have hle := @length_shownPath_le _ _ _ root _ _ hresolved
    have hlt := url.shorter d path hpath
    have hlength := congrArg List.length hshown
    rw [length_map] at hlength
    omega
  · rename_i hfile
    have hfile : fileScheme.isPrefixOf d = false := Bool.eq_false_iff.2 hfile
    split at hpath
    · cases hpath
    obtain rfl := Option.some.inj hpath
    refine ⟨d, shownPath_of_components (fun c hc => ?_) hback hshown, hback, hnul, hblank, hfile⟩
    have hnoParent : ∀ c ∈ components os (ofText os d), c ≠ ofText os parentDir := by
      rintro c hc rfl
      have hmem := (mem_components hc).1
      rw [splitOn_ofText] at hmem
      obtain ⟨piece, hpiece, heq⟩ := mem_map.1 hmem
      exact (hclean piece hpiece).2.1 (ofText_injective os heq)
    unfold shown at hc
    unfold resolvePath normalizeAbsolute at hresolved
    by_cases habsolute : isAbsolutePath os (ofText os d) = true
    · have hinside : ¬root.isPrefixOf resolved = true := by
        intro hinside
        have hhead := (isAbsolutePath_ofText os d).1 habsolute
        have hne := hstrict hinside
        refine absurd hhead (hrelative.2 ⟨List.isPrefixOf_iff_prefix.1 hinside, fun heq => hne ?_⟩)
        unfold shown
        rw [if_pos hinside, ← heq, drop_length]
      rw [if_pos habsolute, if_pos habsolute, foldl_push_eq _ _ hnoParent, nil_append] at hresolved
      rw [if_neg hinside, ← Option.some.inj hresolved] at hc
      exact hc
    · rw [if_neg habsolute, foldl_push_eq _ _ hnoParent] at hresolved
      obtain rfl := Option.some.inj hresolved
      have hinside : root.isPrefixOf (root ++ components os (ofText os d)) = true :=
        isPrefixOf_iff_prefix.2 (prefix_append root _)
      rw [if_pos hinside, drop_left] at hc
      exact hc

/-- **A display path identifies its file exactly when what is shown is plain**, and two plain paths are shown alike only when they
are the same. -/
theorem display_identifies (url : UrlReader os) (hroot : normalizeAbsolute os displayRoot = some root)
    (hresolve : resolve url root reported = some resolved) (hd : display url displayRoot reported = some d) :
    (Identifies url displayRoot root resolved reported d ↔ Plain os root resolved) ∧
      ∀ reported' resolved' d', resolve url root reported' = some resolved' → display url displayRoot reported' = some d' →
        Plain os root resolved → Plain os root resolved' → (d = d' ↔ resolved = resolved') := by
  have hdisplay : ∀ {reported resolved d}, resolve url root reported = some resolved → display url displayRoot reported = some d →
      displayOf os root resolved = some d := by
    intro reported resolved d hresolve hd
    rw [display_eq hroot, hresolve, Option.bind_some] at hd
    exact hd
  refine ⟨⟨plain_of_identifies hroot hresolve (hdisplay hresolve hd), identifies_of_plain hroot hresolve (hdisplay hresolve hd)⟩, ?_⟩
  intro reported' resolved' d' hresolve' hd' hplain hplain'
  have hidentifies := identifies_of_plain hroot hresolve (hdisplay hresolve hd) hplain
  have hidentifies' := identifies_of_plain hroot hresolve' (hdisplay hresolve' hd') hplain'
  constructor
  · rintro rfl
    have hread := (hidentifies.same.1 (hidentifies.again.trans hd.symm)).trans hresolve
    have hread' := (hidentifies'.same.1 (hidentifies'.again.trans hd'.symm)).trans hresolve'
    exact Option.mem_unique hread hread'
  · rintro rfl
    exact Option.mem_unique (hdisplay hresolve hd) (hdisplay hresolve' hd')

/-! ## Two reports -/

/-- URLs of the form `file:///…` in which no character is encoded or special. -/
def readPlainUrl (t : Text) : Option (List OsUnit) :=
  if "file:///".toList.isPrefixOf t && t.all (fun c => c.isAlphanum || "/._-:".toList.contains c) then
    some (ofText unixString (t.drop 7))
  else none

theorem readPlainUrl_eq {t : Text} {path : List OsUnit} (h : readPlainUrl t = some path) :
    ∃ rest, t = "file:///".toList ++ rest ∧ path = ofText unixString ('/' :: rest) := by
  unfold readPlainUrl at h
  split at h
  · rename_i hguard
    rw [Bool.and_eq_true] at hguard
    obtain ⟨rest, rfl⟩ := isPrefixOf_iff_prefix.1 hguard.1
    exact ⟨rest, rfl, (Option.some.inj h).symm⟩
  · cases h

def plainUrl : UrlReader unixString where
  read := readPlainUrl
  absolute t path h := by
    obtain ⟨rest, -, rfl⟩ := readPlainUrl_eq h
    exact decide_eq_true rfl
  shorter t path h := by
    obtain ⟨rest, rfl, rfl⟩ := readPlainUrl_eq h
    have hprefix : "file:///".toList.length = 8 := rfl
    unfold ofText
    rw [length_map, length_append, length_cons, hprefix]
    omega

def repository : List OsUnit := ofText unixString "/repo".toList

def readme : List (List OsUnit) := [ofText unixString "repo".toList, ofText unixString "README.md".toList]

theorem display_identifies_readme :
    Identifies plainUrl repository [ofText unixString "repo".toList] readme "./src/../README.md".toList "README.md".toList ∧
      ("README.md".toList = "README.md".toList ↔ readme = readme) := by
  have hplain : Plain unixString [ofText unixString "repo".toList] readme :=
    ⟨"README.md".toList, by decide, by decide, by decide, by decide, by decide⟩
  have hroot : normalizeAbsolute unixString repository = some [ofText unixString "repo".toList] := by decide
  have hresolve : resolve plainUrl [ofText unixString "repo".toList] "./src/../README.md".toList = some readme := by decide
  have hd : display plainUrl repository "./src/../README.md".toList = some "README.md".toList := by decide
  have hidentifies := display_identifies plainUrl hroot hresolve hd
  exact ⟨hidentifies.1.2 hplain,
    hidentifies.2 "file:///repo/README.md".toList readme "README.md".toList (by decide) (by decide) hplain hplain⟩

/-- The files `a\b` and `a/b` are shown alike. -/
theorem backslash_merged : display plainUrl repository "a\\b".toList = some "a/b".toList ∧
    display plainUrl repository "a/b".toList = some "a/b".toList ∧
    resolve plainUrl [ofText unixString "repo".toList] "a\\b".toList ≠ resolve plainUrl [ofText unixString "repo".toList] "a/b".toList := by
  decide

end Rovai.DisplayPath
