import Mathlib.Data.List.Sort
/-!
# Keyset pages

A reader asks for the rows beyond a key, in the order of the keys, a page at a time.
-/
namespace Keyset

open List

structure Page (α κ : Type) where
  items : List α
  next : Option κ

section
variable {α κ : Type} (key : α → κ) (r : κ → κ → Prop) [DecidableRel r]

def beyond (rows : List α) (cursor : Option κ) : List α :=
  rows.filter (fun x => cursor.all (fun c => decide (r c (key x))))

def inOrder (a b : α) : Prop := ¬r (key b) (key a)

instance : DecidableRel (inOrder key r) := fun a b => inferInstanceAs (Decidable ¬r (key b) (key a))

def select (rows : List α) (cursor : Option κ) : List α :=
  (beyond key r rows cursor).insertionSort (inOrder key r)

def page (limit : Nat) (rows : List α) (cursor : Option κ) : Page α κ :=
  let found := (select key r rows cursor).take (limit + 1)
  { items := found.take limit, next := if limit < found.length then (found.take limit).getLast?.map key else none }

def follow (limit : Nat) : Option κ → List (List α) → List (Page α κ)
  | _, [] => []
  | cursor, rows :: later =>
    let p := page key r limit rows cursor
    match p.next with
    | some c => p :: follow limit (some c) later
    | none => [p]

def Ended (pages : List (Page α κ)) : Prop := ∃ earlier last, pages = earlier ++ [last] ∧ last.next = none

end

variable {α κ : Type} {key : α → κ} {r : κ → κ → Prop} [DecidableRel r] {rows : List α} {cursor : Option κ} {limit : Nat}

theorem Ended.cons {pages : List (Page α κ)} (h : Ended pages) (p : Page α κ) : Ended (p :: pages) := by
  obtain ⟨earlier, last, rfl, hlast⟩ := h
  exact ⟨p :: earlier, last, rfl, hlast⟩

theorem ended_singleton {p : Page α κ} (h : p.next = none) : Ended [p] := ⟨[], p, rfl, h⟩

theorem Ended.tail {p : Page α κ} {pages : List (Page α κ)} (h : Ended (p :: pages)) (hp : p.next ≠ none) : Ended pages := by
  obtain ⟨earlier, last, hsplit, hlast⟩ := h
  cases earlier with
  | nil =>
    obtain ⟨rfl, -⟩ := List.cons.inj hsplit
    exact absurd hlast hp
  | cons q earlier =>
    obtain ⟨-, rfl⟩ := List.cons.inj hsplit
    exact ⟨earlier, last, rfl, hlast⟩

/-! ## The selection -/

theorem mem_select {x : α} : x ∈ select key r rows cursor ↔ x ∈ rows ∧ ∀ c, cursor = some c → r c (key x) := by
  unfold select beyond
  rw [mem_insertionSort, mem_filter]
  refine and_congr_right fun _ => ?_
  cases cursor <;> simp

theorem mem_follow {x : α} : ∀ {moments : List (List α)} {cursor : Option κ},
    x ∈ (follow key r limit cursor moments).flatMap Page.items → ∃ rows ∈ moments, x ∈ rows
  | [], _, h => by cases h
  | rows :: later, cursor, h => by
    have hpage : x ∈ (page key r limit rows cursor).items → x ∈ rows := fun hx =>
      (mem_select.1 (mem_of_mem_take (mem_of_mem_take hx))).1
    unfold follow at h
    dsimp only at h
    split at h
    · rw [flatMap_cons] at h
      obtain hx | hx := mem_append.1 h
      · exact ⟨rows, mem_cons_self, hpage hx⟩
      obtain ⟨rows', hrows', hx'⟩ := mem_follow hx
      exact ⟨rows', .tail _ hrows', hx'⟩
    · rw [flatMap_cons, flatMap_nil, append_nil] at h
      exact ⟨rows, mem_cons_self, hpage h⟩

variable [IsStrictTotalOrder κ r]

theorem pairwise_select (hkeys : (rows.map key).Nodup) (cursor : Option κ) :
    (select key r rows cursor).Pairwise (fun a b => r (key a) (key b)) := by
  have htotal : Std.Total (inOrder key r) := ⟨fun a b => by
    by_contra h
    obtain ⟨hab, hba⟩ := not_or.1 h
    exact asymm_of r (not_not.1 hab) (not_not.1 hba)⟩
  have htrans : IsTrans α (inOrder key r) := ⟨fun a b c hab hbc hca => by
    obtain hlt | heq | hgt := trichotomous_of r (key a) (key b)
    · exact hbc (trans_of r hca hlt)
    · exact hbc (heq ▸ hca)
    · exact hab hgt⟩
  have hnodup : ((select key r rows cursor).map key).Nodup := by
    refine ((perm_insertionSort _ _).map key).nodup_iff.2 ?_
    exact hkeys.sublist ((filter_sublist).map key)
  have hsorted : (select key r rows cursor).Pairwise (inOrder key r) := pairwise_insertionSort _ _
  have hdistinct : (select key r rows cursor).Pairwise (fun a b => key a ≠ key b) := pairwise_map.1 hnodup
  refine (hsorted.and hdistinct).imp fun {a b} hab => ?_
  obtain hlt | heq | hgt := trichotomous_of r (key a) (key b)
  · exact hlt
  · exact absurd heq hab.2
  · exact absurd hgt hab.1

omit [DecidableRel r] in
theorem eq_of_pairwise {l l' : List α} (h : l.Pairwise (fun a b => r (key a) (key b)))
    (h' : l'.Pairwise (fun a b => r (key a) (key b))) (hmem : ∀ x, x ∈ l ↔ x ∈ l') : l = l' := by
  have hnodup : ∀ {l : List α}, l.Pairwise (fun a b => r (key a) (key b)) → l.Nodup := by
    intro l hl
    refine hl.imp fun {a b} hab heq => ?_
    rw [heq] at hab
    exact irrefl_of r (key b) hab
  have hperm : l.Perm l' := (perm_ext_iff_of_nodup (hnodup h) (hnodup h')).2 hmem
  refine hperm.eq_of_pairwise (fun a b _ _ hab hba => ?_) h h'
  exact absurd hba (asymm_of r hab)

/-! ## One page -/

omit [IsStrictTotalOrder κ r] in
theorem items_page (limit : Nat) (rows : List α) (cursor : Option κ) :
    (page key r limit rows cursor).items = (select key r rows cursor).take limit := by
  unfold page
  dsimp only
  rw [take_take, Nat.min_eq_left (Nat.le_succ limit)]

omit [IsStrictTotalOrder κ r] in
theorem items_of_next_none (hlimit : 0 < limit) (h : (page key r limit rows cursor).next = none) :
    (page key r limit rows cursor).items = select key r rows cursor := by
  rw [items_page]
  refine take_of_length_le ?_
  by_contra hlong
  have hmore : limit < ((select key r rows cursor).take (limit + 1)).length := by
    rw [length_take]
    omega
  unfold page at h
  dsimp only at h
  rw [if_pos hmore, take_take, Nat.min_eq_left (Nat.le_succ limit), Option.map_eq_none_iff, getLast?_eq_none_iff] at h
  have hlength := congrArg List.length h
  rw [length_take, length_nil] at hlength
  omega

variable {c : κ}

/-- The cursor is the key of the page's last row; the page holds what is not beyond it, and the rest is beyond it. -/
theorem page_of_next_some (hkeys : (rows.map key).Nodup) (h : (page key r limit rows cursor).next = some c) :
    (∃ last ∈ rows, key last = c ∧ last ∈ (page key r limit rows cursor).items) ∧
      (∀ x ∈ (page key r limit rows cursor).items, ¬r c (key x)) ∧
      (∀ x ∈ (select key r rows cursor).drop limit, r c (key x)) ∧ limit < (select key r rows cursor).length := by
  have hitems : (page key r limit rows cursor).items = (select key r rows cursor).take limit := items_page limit rows cursor
  have hsorted : (select key r rows cursor).Pairwise (fun a b => r (key a) (key b)) := pairwise_select hkeys cursor
  unfold page at h
  dsimp only at h
  split at h
  · rename_i hmore
    rw [take_take, Nat.min_eq_left (Nat.le_succ limit)] at h
    obtain ⟨last, hlast, rfl⟩ := Option.map_eq_some_iff.1 h
    obtain ⟨front, hfront⟩ := getLast?_eq_some_iff.1 hlast
    have hmem : last ∈ (select key r rows cursor).take limit := by simp [hfront]
    rw [← take_append_drop limit (select key r rows cursor)] at hsorted
    obtain ⟨hbefore, -, hcross⟩ := pairwise_append.1 hsorted
    refine ⟨⟨last, (mem_select.1 (mem_of_mem_take hmem)).1, rfl, hitems ▸ hmem⟩, fun x hx hbeyond => ?_, fun x hx => ?_, ?_⟩
    · rw [hitems, hfront] at hx
      rw [hfront] at hbefore
      obtain hx | hx := mem_append.1 hx
      · exact asymm_of r hbeyond ((pairwise_append.1 hbefore).2.2 x hx last mem_cons_self)
      rw [mem_singleton.1 hx] at hbeyond
      exact irrefl_of r _ hbeyond
    · exact hcross last hmem x hx
    · rw [length_take] at hmore
      omega
  · cases h

/-- What is beyond the next cursor is the selection without the page. -/
theorem select_next (hkeys : (rows.map key).Nodup) (h : (page key r limit rows cursor).next = some c) :
    select key r rows (some c) = (select key r rows cursor).drop limit := by
  obtain ⟨⟨last, hlast, rfl, hlastItems⟩, hitems, hrest, -⟩ := page_of_next_some hkeys h
  refine eq_of_pairwise (pairwise_select hkeys _) ((pairwise_select hkeys cursor).sublist (drop_sublist _ _)) fun x => ?_
  rw [mem_select]
  constructor
  · rintro ⟨hx, hbeyond⟩
    have hbeyond := hbeyond _ rfl
    have hcursor : ∀ c, cursor = some c → r c (key x) := by
      rintro c rfl
      rw [items_page] at hlastItems
      exact trans_of r ((mem_select.1 (mem_of_mem_take hlastItems)).2 c rfl) hbeyond
    have hselected : x ∈ select key r rows cursor := mem_select.2 ⟨hx, hcursor⟩
    rw [← take_append_drop limit (select key r rows cursor), ← items_page] at hselected
    obtain hin | hout := mem_append.1 hselected
    · exact absurd hbeyond (hitems x hin)
    · exact hout
  · intro hx
    refine ⟨(mem_select.1 (mem_of_mem_drop hx)).1, ?_⟩
    rintro c' hc
    cases hc
    exact hrest x hx

/-! ## Following the cursors -/

/-- **Over rows that stay**, the pages end, and together they are the selection. -/
theorem exists_follow (hlimit : 0 < limit) (hkeys : (rows.map key).Nodup) (cursor : Option κ) :
    ∃ n, Ended (follow key r limit cursor (List.replicate n rows)) ∧
      (follow key r limit cursor (List.replicate n rows)).flatMap Page.items = select key r rows cursor := by
  induction hlength : (select key r rows cursor).length using Nat.strong_induction_on generalizing cursor with
  | _ length ih =>
    cases hnext : (page key r limit rows cursor).next with
    | none =>
      have hone : follow key r limit cursor (List.replicate 1 rows) = [page key r limit rows cursor] := by
        simp [follow, List.replicate, hnext]
      refine ⟨1, ?_, ?_⟩
      · rw [hone]
        exact ended_singleton hnext
      · rw [hone, flatMap_cons, flatMap_nil, append_nil, items_of_next_none hlimit hnext]
    | some c =>
      obtain ⟨-, -, -, hlong⟩ := page_of_next_some hkeys hnext
      have hselect := select_next hkeys hnext
      have hshorter : (select key r rows (some c)).length < length := by
        rw [hselect, length_drop]
        omega
      obtain ⟨n, hended, hpages⟩ := ih _ hshorter (some c) rfl
      have hmore : follow key r limit cursor (List.replicate (n + 1) rows) =
          page key r limit rows cursor :: follow key r limit (some c) (List.replicate n rows) := by
        simp [follow, List.replicate, hnext]
      refine ⟨n + 1, ?_, ?_⟩
      · rw [hmore]
        exact hended.cons _
      · rw [hmore, flatMap_cons, hpages, hselect, items_page, take_append_drop]

variable [DecidableEq κ] {k : κ}

omit [DecidableEq κ] in
theorem beyond_of_mem_follow {x : α} : ∀ {moments : List (List α)} {c : κ}, (∀ rows ∈ moments, (rows.map key).Nodup) →
    x ∈ (follow key r limit (some c) moments).flatMap Page.items → r c (key x)
  | [], _, _, h => by cases h
  | rows :: later, c, hkeys, h => by
    have hone : ∀ y ∈ (page key r limit rows (some c)).items, r c (key y) := by
      intro y hy
      rw [items_page] at hy
      exact (mem_select.1 (mem_of_mem_take hy)).2 c rfl
    unfold follow at h
    dsimp only at h
    split at h
    · rename_i next hnext
      obtain ⟨⟨last, -, rfl, hlast⟩, -⟩ := page_of_next_some (hkeys rows mem_cons_self) hnext
      rw [flatMap_cons] at h
      obtain hx | hx := mem_append.1 h
      · exact hone x hx
      · exact trans_of r (hone last hlast) (beyond_of_mem_follow (fun rows' hrows' => hkeys rows' (.tail _ hrows')) hx)
    · rw [flatMap_cons, flatMap_nil, append_nil] at h
      exact hone x h

omit [DecidableEq κ] in
/-- **The pages read in order**, also over rows that change. -/
theorem pairwise_follow : ∀ (moments : List (List α)) (cursor : Option κ), (∀ rows ∈ moments, (rows.map key).Nodup) →
    ((follow key r limit cursor moments).flatMap Page.items).Pairwise (fun a b => r (key a) (key b))
  | [], _, _ => .nil
  | rows :: later, cursor, hkeys => by
    have hrows := hkeys rows mem_cons_self
    have hlater := fun rows' hrows' => hkeys rows' (.tail _ hrows')
    have hpage : (page key r limit rows cursor).items.Pairwise (fun a b => r (key a) (key b)) := by
      rw [items_page]
      exact (pairwise_select hrows cursor).sublist (take_sublist _ _)
    unfold follow
    dsimp only
    split
    · rename_i c hnext
      obtain ⟨-, hitems, -⟩ := page_of_next_some hrows hnext
      refine pairwise_append.2 ⟨hpage, pairwise_follow later (some c) hlater, fun a ha b hb => ?_⟩
      have hb := beyond_of_mem_follow hlater hb
      obtain hlt | heq | hgt := trichotomous_of r (key a) c
      · exact trans_of r hlt hb
      · exact heq ▸ hb
      · exact absurd hgt (hitems a ha)
    · rwa [flatMap_cons, flatMap_nil, append_nil]

omit [DecidableEq κ] in
/-- What is always there is read when the pages end. -/
theorem exists_mem_follow (hlimit : 0 < limit) : ∀ {moments : List (List α)} {cursor : Option κ}, (∀ c, cursor = some c → r c k) →
    (∀ rows ∈ moments, (rows.map key).Nodup ∧ k ∈ rows.map key) → Ended (follow key r limit cursor moments) →
    ∃ x ∈ (follow key r limit cursor moments).flatMap Page.items, key x = k
  | [], _, _, _, hended => by
    obtain ⟨earlier, last, hsplit, -⟩ := hended
    simp [follow] at hsplit
  | rows :: later, cursor, hcursor, hrows, hended => by
    obtain ⟨hkeys, hk⟩ := hrows rows mem_cons_self
    obtain ⟨x, hx, heq⟩ := mem_map.1 hk
    have hselected : x ∈ select key r rows cursor := mem_select.2 ⟨hx, heq ▸ hcursor⟩
    unfold follow at hended ⊢
    dsimp only at hended ⊢
    cases hnext : (page key r limit rows cursor).next with
    | none =>
      rw [← items_of_next_none hlimit hnext] at hselected
      exact ⟨x, mem_append.2 (.inl hselected), heq⟩
    | some c =>
      rw [hnext] at hended
      obtain ⟨-, -, hrest, -⟩ := page_of_next_some hkeys hnext
      rw [← take_append_drop limit (select key r rows cursor), ← items_page] at hselected
      obtain hin | hout := mem_append.1 hselected
      · exact ⟨x, mem_append.2 (.inl hin), heq⟩
      have hbeyond : ∀ c', some c = some c' → r c' k := by
        rintro c' ⟨⟩
        exact heq ▸ hrest x hout
      obtain ⟨y, hy, heq⟩ := exists_mem_follow hlimit hbeyond (fun rows' hrows' => hrows rows' (.tail _ hrows'))
        (hended.tail (by rw [hnext]; exact nofun))
      exact ⟨y, mem_append.2 (.inr hy), heq⟩

/-- **Over rows that change**, a key that is always there is read at most once, and once when the pages end. -/
theorem count_follow (hlimit : 0 < limit) (moments : List (List α)) (cursor : Option κ) (hcursor : ∀ c, cursor = some c → r c k)
    (hrows : ∀ rows ∈ moments, (rows.map key).Nodup ∧ k ∈ rows.map key) :
    ((follow key r limit cursor moments).flatMap Page.items).countP (fun x => decide (key x = k)) ≤ 1 ∧
      (Ended (follow key r limit cursor moments) →
        ((follow key r limit cursor moments).flatMap Page.items).countP (fun x => decide (key x = k)) = 1) := by
  have hnodup : (((follow key r limit cursor moments).flatMap Page.items).map key).Nodup := by
    refine pairwise_map.2 ((pairwise_follow moments cursor fun rows h => (hrows rows h).1).imp fun {a b} hab heq => ?_)
    rw [heq] at hab
    exact irrefl_of r (key b) hab
  have hatMost := nodup_iff_count_le_one.1 hnodup k
  rw [List.count, countP_map] at hatMost
  refine ⟨hatMost, fun hended => Nat.le_antisymm hatMost ?_⟩
  obtain ⟨x, hx, hk⟩ := exists_mem_follow hlimit hcursor hrows hended
  exact countP_pos_iff.2 ⟨x, hx, decide_eq_true hk⟩

end Keyset
