import Mathlib.Data.List.Sort
import RovaiCore.JsonReader
/-!
# Canonical JSON (`command.rs`)

What `write_canonical_json` writes is read back at every depth: a scalar ends where a mark stands, and the members of an object
stand in the order of their keys.
-/
namespace Rovai.Commands

open List

/-- A JSON value over its scalars: null, the booleans, the numbers and the strings. -/
inductive Value (σ : Type) where
  | scalar (s : σ)
  | array (values : List (Value σ))
  | object (values : List (String × Value σ))

variable {σ α : Type}

/-! ## Writing -/

/-- `serde_json::to_writer` of a scalar, and of the key of a member. -/
structure Writer (σ : Type) where
  scalar : σ → List Char
  key : String → List Char

def separated : List (List Char) → List Char
  | [] => []
  | text :: rest => text ++ rest.flatMap (',' :: ·)

def sortByKey (entries : List (String × α)) : List (String × α) :=
  entries.insertionSort fun left right => left.1 ≤ right.1

namespace Writer

variable (writer : Writer σ)

def writeEntry (entry : String × List Char) : List Char := writer.key entry.1 ++ ':' :: entry.2

mutual
def writeCanonicalJson : Value σ → List Char
  | .scalar s => writer.scalar s
  | .array values => '[' :: (separated (writeValues values) ++ [']'])
  | .object values => '\x7b' :: (separated ((sortByKey (writeMembers values)).map writer.writeEntry) ++ ['\x7d'])

def writeValues : List (Value σ) → List (List Char)
  | [] => []
  | value :: rest => writeCanonicalJson value :: writeValues rest

def writeMembers : List (String × Value σ) → List (String × List Char)
  | [] => []
  | (key, value) :: rest => (key, writeCanonicalJson value) :: writeMembers rest
end

def writeMember (member : String × Value σ) : List Char := writer.writeEntry (member.1, writer.writeCanonicalJson member.2)

theorem writeValues_eq (values : List (Value σ)) : writer.writeValues values = values.map writer.writeCanonicalJson := by
  induction values with
  | nil => rfl
  | cons value rest ih => rw [writeValues, ih, map_cons]

theorem writeMembers_eq (values : List (String × Value σ)) :
    writer.writeMembers values = values.map fun e => (e.1, writer.writeCanonicalJson e.2) := by
  induction values with
  | nil => rfl
  | cons e rest ih => rw [writeMembers, ih, map_cons]

theorem writeCanonicalJson_object (values : List (String × Value σ)) : writer.writeCanonicalJson (.object values) =
    '\x7b' :: (separated ((sortByKey values).map writer.writeMember) ++ ['\x7d']) := by
  have hsort : sortByKey (writer.writeMembers values) =
      (sortByKey values).map fun e => (e.1, writer.writeCanonicalJson e.2) := by
    rw [writeMembers_eq]
    exact (map_insertionSort (r := fun l r : String × Value σ => l.1 ≤ r.1)
      (s := fun l r : String × List Char => l.1 ≤ r.1) _ _ fun _ _ _ _ => Iff.rfl).symm
  rw [writeCanonicalJson, hsort, map_map]
  rfl

end Writer

/-- Booleans alone, with the keys as `serde_json` writes strings. -/
def boolWriter : Writer Bool := ⟨fun b => if b then "true".toList else "false".toList, fun key => (Json.quote key).toList⟩

example : boolWriter.writeCanonicalJson (.object [("b", .array [.scalar true, .object []]), ("a", .scalar false)]) =
    "\x7b\x22a\x22:false,\x22b\x22:[true,\x7b\x7d]\x7d".toList := by decide

/-! ## The same value -/

/-- Equality up to the order of the members at every depth. -/
inductive Same : Value σ → Value σ → Prop where
  | scalar (s : σ) : Same (.scalar s) (.scalar s)
  | array {vs ws : List (Value σ)} (values : List.Forall₂ Same vs ws) : Same (.array vs) (.array ws)
  | object {vs ws us xs : List (String × Value σ)} (left : us.Perm vs) (right : xs.Perm ws)
      (keys : us.map Prod.fst = xs.map Prod.fst) (values : List.Forall₂ Same (us.map Prod.snd) (xs.map Prod.snd)) :
      Same (.object vs) (.object ws)

/-- No key stands twice in an object. -/
inductive UniqueKeys : Value σ → Prop where
  | scalar (s : σ) : UniqueKeys (.scalar s)
  | array {values : List (Value σ)} (items : ∀ v ∈ values, UniqueKeys v) : UniqueKeys (.array values)
  | object {values : List (String × Value σ)} (keys : (values.map Prod.fst).Nodup)
      (members : ∀ e ∈ values, UniqueKeys e.2) : UniqueKeys (.object values)

/-! ## Texts -/

def Plain (c : Char) : Prop := c ∉ ['\x22', '[', ']', '\x7b', '\x7d', ',', ':']

instance : DecidablePred Plain := fun c => inferInstanceAs (Decidable (c ∉ _))

/-- Between its marks a string has no mark but after a backslash. -/
inductive Escaped : List Char → Prop where
  | nil : Escaped []
  | pair (c : Char) {rest : List Char} (h : Escaped rest) : Escaped ('\\' :: c :: rest)
  | cons {c : Char} {rest : List Char} (hmark : c ≠ '\x22') (hslash : c ≠ '\\') (h : Escaped rest) : Escaped (c :: rest)

inductive Quoted : List Char → Prop where
  | mk (body : List Char) (h : Escaped body) : Quoted ('\x22' :: (body ++ ['\x22']))

/-- What is assumed of the writers: they are injective, and a structural character stands inside a string only. -/
structure Writer.Lawful (writer : Writer σ) : Prop where
  scalar_injective : Function.Injective writer.scalar
  key_injective : Function.Injective writer.key
  scalar_text : ∀ s, Quoted (writer.scalar s) ∨ writer.scalar s ≠ [] ∧ ∀ c ∈ writer.scalar s, Plain c
  key_text : ∀ key, Quoted (writer.key key)

def Stops (rest : List Char) : Prop := ∀ c ∈ rest.head?, ¬ Plain c

theorem stops_cons {c : Char} (h : c = ',' ∨ c = ']' ∨ c = '\x7d') (rest : List Char) : Stops (c :: rest) := by
  rintro _ ⟨⟩
  rcases h with rfl | rfl | rfl <;> simp [Plain]

/-! ## Reading back -/

theorem plain_append : ∀ {a b : List Char}, (∀ c ∈ a, Plain c) → (∀ c ∈ b, Plain c) →
    ∀ {s t : List Char}, Stops s → Stops t → a ++ s = b ++ t → a = b ∧ s = t
  | [], [], _, _, _, _, _, _, h => ⟨rfl, h⟩
  | [], c :: b, _, hb, s, t, hs, _, h => by
    rw [nil_append] at h
    exact absurd (hb c mem_cons_self) (hs c (by rw [h]; rfl))
  | c :: a, [], ha, _, s, t, _, ht, h => by
    rw [nil_append] at h
    exact absurd (ha c mem_cons_self) (ht c (by rw [← h]; rfl))
  | c :: a, d :: b, ha, hb, s, t, hs, ht, h => by
    obtain ⟨rfl, hrest⟩ := List.cons.inj h
    obtain ⟨rfl, rfl⟩ := plain_append (fun x hx => ha x (mem_cons_of_mem _ hx))
      (fun x hx => hb x (mem_cons_of_mem _ hx)) hs ht hrest
    exact ⟨rfl, rfl⟩

theorem escaped_append {a b s t : List Char} (ha : Escaped a) (hb : Escaped b) (h : a ++ '\x22' :: s = b ++ '\x22' :: t) :
    a = b ∧ s = t := by
  induction ha generalizing b with
  | nil =>
    cases hb with
    | nil => exact ⟨rfl, (List.cons.inj h).2⟩
    | pair => cases (List.cons.inj h).1
    | cons hmark => exact absurd (List.cons.inj h).1.symm hmark
  | pair c _ ih =>
    cases hb with
    | nil => cases (List.cons.inj h).1
    | pair d hb =>
      obtain ⟨rfl, hrest⟩ := List.cons.inj (List.cons.inj h).2
      obtain ⟨rfl, rfl⟩ := ih hb hrest
      exact ⟨rfl, rfl⟩
    | cons _ hslash => exact absurd (List.cons.inj h).1.symm hslash
  | cons hmark hslash _ ih =>
    cases hb with
    | nil => exact absurd (List.cons.inj h).1 hmark
    | pair => exact absurd (List.cons.inj h).1 hslash
    | cons _ _ hb =>
      obtain ⟨rfl, hrest⟩ := List.cons.inj h
      obtain ⟨rfl, rfl⟩ := ih hb hrest
      exact ⟨rfl, rfl⟩

theorem quoted_append {a b s t : List Char} (ha : Quoted a) (hb : Quoted b) (h : a ++ s = b ++ t) : a = b ∧ s = t := by
  obtain ⟨x, hx⟩ := ha
  obtain ⟨y, hy⟩ := hb
  rw [cons_append, cons_append, append_assoc, append_assoc] at h
  obtain ⟨rfl, rfl⟩ := escaped_append hx hy (List.cons.inj h).2
  exact ⟨rfl, rfl⟩

section Separated

variable {text : α → List Char} {R : α → α → Prop} {close : Char} {xs ys : List α} {s t : List Char}

/-- The text of `a` is read back as a related one, up to where it stops. -/
def ReadsBack (text : α → List Char) (R : α → α → Prop) (a : α) : Prop :=
  ∀ b s t, Stops s → Stops t → text a ++ s = text b ++ t → R a b ∧ s = t

theorem rest_append (hclose : close = ']' ∨ close = '\x7d') (hread : ∀ a ∈ xs, ReadsBack text R a)
    (h : (xs.map text).flatMap (',' :: ·) ++ close :: s = (ys.map text).flatMap (',' :: ·) ++ close :: t) :
    List.Forall₂ R xs ys ∧ s = t := by
  have hcomma : close ≠ ',' := by rcases hclose with rfl | rfl <;> decide
  have hstops : ∀ (zs : List α) (u : List Char), Stops ((zs.map text).flatMap (',' :: ·) ++ close :: u) := by
    intro zs u
    cases zs with
    | nil => exact stops_cons (.inr hclose) u
    | cons z zs => exact stops_cons (.inl rfl) _
  induction xs generalizing ys with
  | nil =>
    cases ys with
    | nil => exact ⟨.nil, (List.cons.inj h).2⟩
    | cons y ys => exact absurd (List.cons.inj h).1 hcomma
  | cons x xs ih =>
    cases ys with
    | nil => exact absurd (List.cons.inj h).1.symm hcomma
    | cons y ys =>
      rw [map_cons, map_cons, flatMap_cons, flatMap_cons, append_assoc, append_assoc] at h
      obtain ⟨hxy, htail⟩ := hread x mem_cons_self y _ _ (hstops xs s) (hstops ys t) (List.cons.inj h).2
      obtain ⟨hall, rfl⟩ := ih (fun a ha => hread a (mem_cons_of_mem _ ha)) htail
      exact ⟨.cons hxy hall, rfl⟩

/-- **Texts between commas**: where every text is read back, a list of them in front of its closing mark is. -/
theorem separated_append (hclose : close = ']' ∨ close = '\x7d') (hopen : ∀ a u v, text a ++ u ≠ close :: v)
    (hread : ∀ a ∈ xs, ReadsBack text R a)
    (h : separated (xs.map text) ++ close :: s = separated (ys.map text) ++ close :: t) : List.Forall₂ R xs ys ∧ s = t := by
  cases xs with
  | nil =>
    cases ys with
    | nil => exact ⟨.nil, (List.cons.inj h).2⟩
    | cons y ys =>
      rw [map_cons, separated, append_assoc] at h
      exact absurd h.symm (hopen _ _ _)
  | cons x xs =>
    cases ys with
    | nil =>
      rw [map_cons, separated, append_assoc] at h
      exact absurd h (hopen _ _ _)
    | cons y ys =>
      -- the first text has no comma in front: it is put there, and the rest is read
      refine @rest_append _ _ _ _ _ (y :: ys) _ _ hclose hread ?_
      rw [map_cons, map_cons, separated, separated] at h
      exact congrArg (',' :: ·) h

end Separated

variable {writer : Writer σ}

theorem scalar_opens (hw : writer.Lawful) (s : σ) :
    ∃ c cs, writer.scalar s = c :: cs ∧ (c = '\x22' ∧ Quoted (c :: cs) ∨ Plain c ∧ ∀ x ∈ c :: cs, Plain x) := by
  rcases hw.scalar_text s with h | ⟨hne, h⟩
  · generalize writer.scalar s = text at h
    cases h with
    | mk body hbody => exact ⟨_, _, rfl, .inl ⟨rfl, .mk body hbody⟩⟩
  · obtain ⟨c, cs, hc⟩ := exists_cons_of_ne_nil hne
    rw [hc] at h
    exact ⟨c, cs, hc, .inr ⟨h c mem_cons_self, h⟩⟩

theorem scalar_append (hw : writer.Lawful) {x y : σ} {s t : List Char} (hs : Stops s) (ht : Stops t)
    (h : writer.scalar x ++ s = writer.scalar y ++ t) : x = y ∧ s = t := by
  obtain ⟨c, cs, hc, hx⟩ := scalar_opens hw x
  obtain ⟨d, ds, hd, hy⟩ := scalar_opens hw y
  have hsame : c :: cs = d :: ds ∧ s = t := by
    rw [hc, hd] at h
    obtain ⟨rfl, -⟩ := List.cons.inj h
    rcases hx with ⟨rfl, hx⟩ | ⟨hplain, hx⟩ <;> rcases hy with ⟨hq, hy⟩ | ⟨hplain', hy⟩
    · exact quoted_append hx hy h
    · simp [Plain] at hplain'
    · subst hq
      simp [Plain] at hplain
    · exact plain_append hx hy hs ht h
  exact ⟨hw.scalar_injective (by rw [hc, hd, hsame.1]), hsame.2⟩

theorem scalar_ne (hw : writer.Lawful) {x : σ} {c : Char} (hc : c ∈ ['[', ']', '\x7b', '\x7d']) (s t : List Char) :
    writer.scalar x ++ s ≠ c :: t := by
  intro h
  obtain ⟨d, ds, hd, hx⟩ := scalar_opens hw x
  rw [hd] at h
  obtain ⟨rfl, -⟩ := List.cons.inj h
  rcases hx with ⟨rfl, -⟩ | ⟨hx, -⟩
  · simp at hc
  · exact hx (mem_cons_of_mem _ (mem_append_left [',', ':'] hc))

theorem write_ne_close (hw : writer.Lawful) {c : Char} (hc : c = ']' ∨ c = '\x7d') (v : Value σ) (s t : List Char) :
    writer.writeCanonicalJson v ++ s ≠ c :: t := by
  cases v with
  | scalar x => exact scalar_ne hw (by rcases hc with rfl | rfl <;> decide) s t
  | array values | object values =>
    intro h
    rcases hc with rfl | rfl <;> cases (List.cons.inj h).1

theorem same_members {us xs : List (String × Value σ)} (h : List.Forall₂ (fun a b => a.1 = b.1 ∧ Same a.2 b.2) us xs) :
    us.map Prod.fst = xs.map Prod.fst ∧ List.Forall₂ Same (us.map Prod.snd) (xs.map Prod.snd) := by
  induction h with
  | nil => exact ⟨rfl, .nil⟩
  | cons h _ ih => exact ⟨by rw [map_cons, map_cons, h.1, ih.1], .cons h.2 ih.2⟩

theorem sizeOf_value_lt {a : String × Value σ} {values : List (String × Value σ)} (ha : a ∈ values) :
    sizeOf a.2 < sizeOf values := by
  have hlt := sizeOf_lt_of_mem ha
  obtain ⟨key, value⟩ := a
  rw [Prod.mk.sizeOf_spec] at hlt
  show sizeOf value < sizeOf values
  omega

/-- **What is written is read back** up to the order of the members, whatever follows it. -/
theorem write_append (hw : writer.Lawful) : ∀ (v v' : Value σ) (s t : List Char), Stops s → Stops t →
    writer.writeCanonicalJson v ++ s = writer.writeCanonicalJson v' ++ t → Same v v' ∧ s = t
  | .scalar x, .scalar y, s, t, hs, ht, h => by
    obtain ⟨rfl, rfl⟩ := scalar_append hw hs ht h
    exact ⟨.scalar x, rfl⟩
  | .array vs, .array ws, s, t, _, _, h => by
    rw [Writer.writeCanonicalJson, Writer.writeCanonicalJson, Writer.writeValues_eq, Writer.writeValues_eq] at h
    obtain ⟨hall, rfl⟩ := separated_append (R := Same) (.inl rfl)
      (write_ne_close hw (.inl rfl))
      (fun v _ v' s t hs ht => write_append hw v v' s t hs ht) (by simpa using (List.cons.inj h).2)
    exact ⟨.array hall, rfl⟩
  | .object vs, .object ws, s, t, _, _, h => by
    rw [Writer.writeCanonicalJson_object, Writer.writeCanonicalJson_object] at h
    have hread : ∀ a ∈ sortByKey vs, ReadsBack writer.writeMember (fun a b => a.1 = b.1 ∧ Same a.2 b.2) a := by
      intro a ha b s t hs ht hab
      have hmem : a ∈ vs := (mem_insertionSort _).1 ha
      have hsize : sizeOf a.2 < sizeOf vs := sizeOf_value_lt hmem
      unfold Writer.writeMember Writer.writeEntry at hab
      rw [append_assoc, append_assoc] at hab
      obtain ⟨hkey, hrest⟩ := quoted_append (hw.key_text a.1) (hw.key_text b.1) hab
      obtain ⟨hsame, rfl⟩ := write_append hw a.2 b.2 s t hs ht (List.cons.inj hrest).2
      exact ⟨⟨hw.key_injective hkey, hsame⟩, rfl⟩
    have hopen : ∀ (a : String × Value σ) (u w : List Char), writer.writeMember a ++ u ≠ '\x7d' :: w := by
      intro a u w h
      have hkey := hw.key_text a.1
      unfold Writer.writeMember Writer.writeEntry at h
      generalize writer.key a.1 = text at hkey h
      cases hkey with
      | mk body => cases (List.cons.inj h).1
    obtain ⟨hall, rfl⟩ := separated_append (.inr rfl) hopen hread (by simpa using (List.cons.inj h).2)
    obtain ⟨hkeys, hvalues⟩ := same_members hall
    exact ⟨.object (perm_insertionSort _ _) (perm_insertionSort _ _) hkeys hvalues, rfl⟩
  | .scalar _, .array _, _, _, _, _, h => absurd h (scalar_ne hw (by decide) _ _)
  | .scalar _, .object _, _, _, _, _, h => absurd h (scalar_ne hw (by decide) _ _)
  | .array _, .scalar _, _, _, _, _, h => absurd h.symm (scalar_ne hw (by decide) _ _)
  | .object _, .scalar _, _, _, _, _, h => absurd h.symm (scalar_ne hw (by decide) _ _)
  | .array _, .object _, _, _, _, _, h => by cases (List.cons.inj h).1
  | .object _, .array _, _, _, _, _, h => by cases (List.cons.inj h).1
termination_by v => sizeOf v

/-! ## Writing again -/

theorem sortByKey_eq_of_perm {xs ys : List (String × α)} (h : xs.Perm ys) (hkeys : (xs.map Prod.fst).Nodup) :
    sortByKey xs = sortByKey ys := by
  have hsorted : ∀ zs : List (String × α), (sortByKey zs).Pairwise fun l r => l.1 ≤ r.1 := fun zs =>
    pairwise_insertionSort _ _
  refine List.Perm.eq_of_pairwise (fun a b ha hb hab hba => ?_) (hsorted xs) (hsorted ys)
    ((perm_insertionSort _ xs).trans (h.trans (perm_insertionSort _ ys).symm))
  exact inj_on_of_nodup_map hkeys ((mem_insertionSort _).1 ha) (h.mem_iff.2 ((mem_insertionSort _).1 hb))
    (le_antisymm hab hba)

theorem map_eq_of_forall₂ {R : α → α → Prop} {f : α → List Char} {xs ys : List α} (h : List.Forall₂ R xs ys)
    (hf : ∀ a ∈ xs, ∀ b ∈ ys, R a b → f a = f b) : xs.map f = ys.map f := by
  induction h with
  | nil => rfl
  | cons hab _ ih =>
    rw [map_cons, map_cons, hf _ mem_cons_self _ mem_cons_self hab,
      ih fun a ha b hb => hf a (mem_cons_of_mem _ ha) b (mem_cons_of_mem _ hb)]

theorem write_eq_of_same : ∀ (v v' : Value σ), Same v v' → UniqueKeys v → UniqueKeys v' →
    writer.writeCanonicalJson v = writer.writeCanonicalJson v'
  | .scalar _, _, .scalar _, _, _ => rfl
  | .array vs, _, .array hvalues, .array hvs, .array hws => by
    have hwritten := map_eq_of_forall₂ hvalues fun v hv v' hv' h =>
      have hsize := sizeOf_lt_of_mem hv
      write_eq_of_same v v' h (hvs v hv) (hws v' hv')
    rw [Writer.writeCanonicalJson, Writer.writeCanonicalJson, Writer.writeValues_eq, Writer.writeValues_eq, hwritten]
  | .object vs, .object ws, @Same.object _ _ _ us xs hus hxs hkeys hvalues, .object hnodup hvs, .object _ hws => by
    have hmembers : writer.writeMembers us = writer.writeMembers xs := by
      have hwritten : (us.map Prod.snd).map writer.writeCanonicalJson = (xs.map Prod.snd).map writer.writeCanonicalJson := by
        refine map_eq_of_forall₂ hvalues fun v hv v' hv' h => ?_
        obtain ⟨a, ha, rfl⟩ := mem_map.1 hv
        obtain ⟨b, hb, rfl⟩ := mem_map.1 hv'
        have hsize := sizeOf_value_lt (hus.mem_iff.1 ha)
        exact write_eq_of_same a.2 b.2 h (hvs a (hus.mem_iff.1 ha)) (hws b (hxs.mem_iff.1 hb))
      rw [map_map, map_map] at hwritten
      rw [Writer.writeMembers_eq, Writer.writeMembers_eq, ← zip_map', ← zip_map', hkeys]
      exact congrArg _ hwritten
    have hperm : (writer.writeMembers vs).Perm (writer.writeMembers ws) := by
      have hmap := fun {xs ys : List (String × Value σ)} (h : xs.Perm ys) => h.map fun e => (e.1, writer.writeCanonicalJson e.2)
      have hleft := hmap hus
      have hright := hmap hxs
      rw [← Writer.writeMembers_eq, ← Writer.writeMembers_eq] at hleft hright
      exact hleft.symm.trans (hmembers ▸ hright)
    rw [Writer.writeCanonicalJson, Writer.writeCanonicalJson, sortByKey_eq_of_perm hperm
      (by rw [Writer.writeMembers_eq, map_map]; exact hnodup)]
termination_by v => sizeOf v
decreasing_by all_goals simp_wf; omega

/-- **Canonical JSON is canonical**: the same text is written of two values exactly when they are the same up to the order of
the members of their objects. -/
theorem canonical_json (hw : writer.Lawful) {v v' : Value σ} (hv : UniqueKeys v) (hv' : UniqueKeys v') :
    writer.writeCanonicalJson v = writer.writeCanonicalJson v' ↔ Same v v' := by
  refine ⟨fun h => ?_, fun h => write_eq_of_same v v' h hv hv'⟩
  have hend : Stops [] := nofun
  exact (write_append hw v v' [] [] hend hend (by rw [h])).1

/-! ## The strings of `serde_json` -/

theorem Escaped.append {a b : List Char} (ha : Escaped a) (hb : Escaped b) : Escaped (a ++ b) := by
  induction ha with
  | nil => exact hb
  | pair c _ ih => exact .pair c ih
  | cons hmark hslash _ ih => exact .cons hmark hslash ih

theorem escaped_hexDigit (n : Nat) (hn : n < 16) : Escaped [Json.hexDigit n] := by
  refine .cons ?_ ?_ .nil <;> revert n <;> decide

theorem escaped_escape (c : Char) : Escaped (Json.escape c).toList := by
  unfold Json.escape
  repeat' split
  · exact .pair _ .nil
  · exact .pair _ .nil
  · exact .pair _ .nil
  · exact .pair _ .nil
  · exact .pair _ .nil
  · exact .pair _ .nil
  · exact .pair _ .nil
  · rw [String.toList_append, String.toList_append, String.toList_singleton, String.toList_singleton]
    refine Escaped.append (Escaped.append ?_ (escaped_hexDigit _ (by omega))) (escaped_hexDigit _ (by omega))
    exact .pair 'u' (.cons (by decide) (by decide) (.cons (by decide) (by decide) .nil))
  · rename_i hmark hslash _ _ _ _ _ _
    rw [String.toList_singleton]
    refine .cons ?_ ?_ .nil
    · rintro rfl
      exact hmark rfl
    · rintro rfl
      exact hslash rfl

theorem boolWriter_lawful : boolWriter.Lawful where
  scalar_injective := by
    show ∀ a b, boolWriter.scalar a = boolWriter.scalar b → a = b
    decide
  scalar_text s := by
    have hplain : ∀ s, boolWriter.scalar s ≠ [] ∧ (boolWriter.scalar s).all (Plain ·) = true := by decide
    exact .inr ⟨(hplain s).1, fun c hc => of_decide_eq_true (all_eq_true.1 (hplain s).2 c hc)⟩
  key_injective := by
    intro x y h
    have hquote : ∀ s : String, Json.readText ((Json.quote s).toList.drop 1) = some (s, []) := by
      intro s
      unfold Json.quote
      rw [String.toList_append, String.toList_append]
      exact Json.readText_escapes s []
    have hread := congrArg (fun text => Json.readText (text.drop 1)) h
    simp only [boolWriter, hquote, Option.some.injEq, Prod.mk.injEq, and_true] at hread
    exact hread
  key_text := by
    intro key
    have hbody : Escaped (Json.escapes key).toList := by
      rw [Json.toList_escapes]
      induction key.toList with
      | nil => exact .nil
      | cons c cs ih => exact (escaped_escape c).append ih
    have hquote : (Json.quote key).toList = '\x22' :: ((Json.escapes key).toList ++ ['\x22']) := by
      unfold Json.quote
      rw [String.toList_append, String.toList_append]
      rfl
    show Quoted (Json.quote key).toList
    rw [hquote]
    exact .mk _ hbody

theorem canonical_json_two_members :
    boolWriter.writeCanonicalJson (.object [("b", .array []), ("a", .scalar true)]) =
        boolWriter.writeCanonicalJson (.object [("a", .scalar true), ("b", .array [])]) ↔
      Same (.object [("b", .array []), ("a", .scalar true)] : Value Bool) (.object [("a", .scalar true), ("b", .array [])]) :=
  canonical_json boolWriter_lawful
    (.object (by decide) (by simp [UniqueKeys.scalar, UniqueKeys.array]))
    (.object (by decide) (by simp [UniqueKeys.scalar, UniqueKeys.array]))

/-! ## The text of `serde_json` -/

mutual
def valueOf : Json → Value Json
  | .arr items => .array (valuesOf items)
  | .obj fields => .object (membersOf fields)
  | v => .scalar v

def valuesOf : List Json → List (Value Json)
  | [] => []
  | v :: rest => valueOf v :: valuesOf rest

def membersOf : List (String × Json) → List (String × Value Json)
  | [] => []
  | (key, v) :: rest => (key, valueOf v) :: membersOf rest
end

def jsonWriter : Writer Json := ⟨fun v => v.encode.toList, fun key => (Json.quote key).toList⟩

theorem sortByKey_members {fields : List (String × Json)} (h : fields.Pairwise fun a b => a.1 < b.1) :
    sortByKey (jsonWriter.writeMembers (membersOf fields)) = jsonWriter.writeMembers (membersOf fields) := by
  have hkeys : (jsonWriter.writeMembers (membersOf fields)).map Prod.fst = fields.map Prod.fst := by
    clear h
    induction fields with
    | nil => rfl
    | cons f rest ih => rw [membersOf, Writer.writeMembers, map_cons, map_cons, ih]
  refine Pairwise.insertionSort_eq ?_
  rw [← pairwise_map (f := Prod.fst) (R := fun a b : String => a ≤ b), hkeys, pairwise_map]
  exact h.imp le_of_lt

mutual
theorem write_valueOf : ∀ v : Json, v.Sorted → jsonWriter.writeCanonicalJson (valueOf v) = v.encode.toList
  | .null, _ | .bool _, _ | .num _, _ | .float _, _ | .str _, _ | .arr [], _ | .obj [], _ => rfl
  | .arr (v :: rest), h => by
    rw [valueOf, valuesOf, Writer.writeCanonicalJson, Writer.writeValues, separated, write_valueOf v h.1, write_valuesOf rest h.2,
      Json.encode]
    simp
  | .obj ((key, v) :: rest), h => by
    rw [valueOf, Writer.writeCanonicalJson, sortByKey_members h.1, membersOf, Writer.writeMembers, map_cons, separated,
      write_valueOf v h.2.1, write_membersOf rest h.2.2, Json.encode]
    simp [Writer.writeEntry, jsonWriter]

theorem write_valuesOf : ∀ items : List Json, Json.SortedItems items →
    (jsonWriter.writeValues (valuesOf items)).flatMap (',' :: ·) = (Json.encodeItems items).toList
  | [], _ => rfl
  | v :: rest, h => by
    rw [valuesOf, Writer.writeValues, flatMap_cons, write_valueOf v h.1, write_valuesOf rest h.2, Json.encodeItems]
    simp

theorem write_membersOf : ∀ fields : List (String × Json), Json.SortedFields fields →
    ((jsonWriter.writeMembers (membersOf fields)).map jsonWriter.writeEntry).flatMap (',' :: ·) = (Json.encodeFields fields).toList
  | [], _ => rfl
  | (key, v) :: rest, h => by
    rw [membersOf, Writer.writeMembers, map_cons, flatMap_cons, write_valueOf v h.1, write_membersOf rest h.2, Json.encodeFields]
    simp [Writer.writeEntry, jsonWriter]
end

/-- **The canonical text of a value whose members stand in order is the one of `serde_json`**, and reads back as the value. -/
theorem canonical_text (v : Json) (hsorted : v.Sorted) (hread : Json.Readable v 127) :
    String.ofList (jsonWriter.writeCanonicalJson (valueOf v)) = v.encode ∧
      Json.read (String.ofList (jsonWriter.writeCanonicalJson (valueOf v))) = some v := by
  rw [write_valueOf v hsorted, String.ofList_toList]
  exact ⟨rfl, Json.read_encode hread⟩

theorem canonical_text_nested :
    let v := Json.obj [("a", .arr [.num 1, .obj []])]
    String.ofList (jsonWriter.writeCanonicalJson (valueOf v)) = v.encode ∧
      Json.read (String.ofList (jsonWriter.writeCanonicalJson (valueOf v))) = some v :=
  canonical_text _ (by simp [Json.Sorted, Json.SortedFields, Json.SortedItems])
    (by simp [Json.Readable, Json.ReadableFields, Json.ReadableItems])

end Rovai.Commands
