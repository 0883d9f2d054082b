import Mathlib.Data.List.Basic
import Mathlib.Data.List.Nodup

/-!
# Insertion-ordered maps

A Python `dict` is a list of entries with distinct keys: storing under a key that is present replaces
the value in place, storing under a new key appends.  `set` is that operation on the bare list,
`OrdMap` the list with the invariant.
-/

set_option autoImplicit false

namespace Lib.OrdMap

variable {κ α : Type*} [DecidableEq κ]

/-- `d[k] = v`. -/
def set : List (κ × α) → κ → α → List (κ × α)
  | [], k, v => [(k, v)]
  | e :: l, k, v => if e.1 = k then (k, v) :: l else e :: set l k v

/-- The dict of a list of pairs: a later pair overrides an earlier one of its key. -/
def ofPairs (l : List (κ × α)) : List (κ × α) := l.foldl (fun d e => set d e.1 e.2) []

theorem set_new {l : List (κ × α)} {k : κ} (h : k ∉ l.map Prod.fst) (v : α) :
    set l k v = l ++ [(k, v)] := by
  induction l with
  | nil => rfl
  | cons e l ih =>
    simp only [List.map_cons, List.mem_cons, not_or] at h
    rw [set, if_neg (Ne.symm h.1), ih h.2, List.cons_append]

theorem keys_set_old {l : List (κ × α)} {k : κ} (h : k ∈ l.map Prod.fst) (v : α) :
    (set l k v).map Prod.fst = l.map Prod.fst := by
  induction l with
  | nil => cases h
  | cons e l ih =>
    by_cases he : e.1 = k
    · simp [set, he]
    · have hl : k ∈ l.map Prod.fst := by
        rcases List.mem_cons.mp h with h | h
        · exact absurd h.symm he
        · exact h
      simp only [set, he, ↓reduceIte, List.map_cons, ih hl]

/-- Storing under a key that is present replaces its entry where it stands. -/
theorem set_old {l : List (κ × α)} (hl : (l.map Prod.fst).Nodup) {i : Nat} {k : κ} {old : α}
    (h : l[i]? = some (k, old)) (v : α) : set l k v = l.set i (k, v) := by
  induction l generalizing i with
  | nil => simp at h
  | cons e l ih =>
    rw [List.map_cons, List.nodup_cons] at hl
    cases i with
    | zero =>
      have he : e = (k, old) := by simpa using h
      rw [set, he, if_pos rfl, List.set_cons_zero]
    | succ i =>
      have htail : l[i]? = some (k, old) := by simpa using h
      have hne : e.1 ≠ k := by
        intro he
        exact hl.1 (he ▸ List.mem_map.mpr ⟨_, List.mem_of_getElem? htail, rfl⟩)
      rw [set, if_neg hne, ih hl.2 htail, List.set_cons_succ]

theorem nodup_set {l : List (κ × α)} (h : (l.map Prod.fst).Nodup) (k : κ) (v : α) :
    ((set l k v).map Prod.fst).Nodup := by
  by_cases hk : k ∈ l.map Prod.fst
  · rw [keys_set_old hk]; exact h
  · rw [set_new hk, List.map_append, List.nodup_append]
    refine ⟨h, by simp, ?_⟩
    intro a ha b hb hab
    simp only [List.map_cons, List.map_nil, List.mem_singleton] at hb
    exact hk (hb ▸ hab ▸ ha)

theorem lookup_cons_if (e : κ × α) (l : List (κ × α)) (k : κ) :
    (e :: l).lookup k = if k = e.1 then some e.2 else l.lookup k := by
  obtain ⟨k', v⟩ := e
  rw [List.lookup_cons]
  by_cases h : k = k'
  · simp [h]
  · have hb : (k == k') = false := by simpa using h
    simp [hb, h]

theorem lookup_set (l : List (κ × α)) (k k' : κ) (v : α) :
    (set l k v).lookup k' = if k' = k then some v else l.lookup k' := by
  induction l with
  | nil => rw [set, lookup_cons_if]
  | cons e l ih =>
    by_cases he : e.1 = k
    · subst he
      rw [set, if_pos rfl, lookup_cons_if, lookup_cons_if]
      by_cases h : k' = e.1 <;> simp [h]
    · rw [set, if_neg he, lookup_cons_if, lookup_cons_if, ih]
      by_cases h : k' = k
      · subst h
        simp [Ne.symm he]
      · simp [h]

theorem ofPairs_nodup {l : List (κ × α)} (h : (l.map Prod.fst).Nodup) : ofPairs l = l := by
  have hfold : ∀ (r d : List (κ × α)), ((d ++ r).map Prod.fst).Nodup →
      r.foldl (fun d e => set d e.1 e.2) d = d ++ r := by
    intro r
    induction r with
    | nil => intro d _; simp
    | cons e r ih =>
      intro d hd
      have hnew : e.1 ∉ d.map Prod.fst := by
        simp only [List.map_append, List.map_cons, List.nodup_append, List.mem_cons] at hd
        exact fun hmem => hd.2.2 e.1 hmem e.1 (Or.inl rfl) rfl
      rw [List.foldl_cons, set_new hnew, ih _ (by simpa using hd)]
      simp
  exact hfold l [] (by simpa using h)

theorem mem_of_mem_set {l : List (κ × α)} {k : κ} {v : α} {e : κ × α} (h : e ∈ set l k v) :
    e ∈ l ∨ e = (k, v) := by
  induction l with
  | nil => exact Or.inr (List.mem_singleton.mp h)
  | cons d l ih =>
    rw [set] at h
    split at h
    · rcases List.mem_cons.mp h with h | h
      · exact Or.inr h
      · exact Or.inl (List.mem_cons_of_mem d h)
    · rcases List.mem_cons.mp h with rfl | h
      · exact Or.inl List.mem_cons_self
      · exact (ih h).imp_left (List.mem_cons_of_mem d)

/-- The dict of pairs has distinct keys, and only entries among the pairs. -/
theorem ofPairs_spec (l : List (κ × α)) :
    ((ofPairs l).map Prod.fst).Nodup ∧ ∀ e ∈ ofPairs l, e ∈ l := by
  have hfold : ∀ r d : List (κ × α), (d.map Prod.fst).Nodup → (∀ e ∈ d, e ∈ l) → (∀ e ∈ r, e ∈ l) →
      ((r.foldl (fun d e => set d e.1 e.2) d).map Prod.fst).Nodup ∧
        ∀ e ∈ r.foldl (fun d e => set d e.1 e.2) d, e ∈ l := by
    intro r
    induction r with
    | nil => exact fun d hd hmem _ => ⟨hd, hmem⟩
    | cons e r ih =>
      intro d hd hmem hr
      rw [List.forall_mem_cons] at hr
      refine ih _ (nodup_set hd e.1 e.2) (fun e' he' => ?_) hr.2
      rcases mem_of_mem_set he' with he' | rfl
      · exact hmem e' he'
      · exact hr.1
  exact hfold l [] List.nodup_nil (List.forall_mem_nil _) fun _ he => he

end Lib.OrdMap

/-- A map whose entries keep the order in which their keys were first stored. -/
structure Lib.OrdMap (κ α : Type*) where
  entries : List (κ × α)
  nodup : (entries.map Prod.fst).Nodup

namespace Lib.OrdMap

variable {κ α : Type*} [DecidableEq κ]

def empty : OrdMap κ α := ⟨[], List.nodup_nil⟩

def insert (m : OrdMap κ α) (k : κ) (v : α) : OrdMap κ α :=
  ⟨set m.entries k v, nodup_set m.nodup k v⟩

def find? (m : OrdMap κ α) (k : κ) : Option α := m.entries.lookup k

/-- The dict of a list of pairs, as a comprehension builds it. -/
def ofList (l : List (κ × α)) : OrdMap κ α := l.foldl (fun m e => m.insert e.1 e.2) empty

/-- The entries that meet `p`. -/
def filter (m : OrdMap κ α) (p : κ → α → Bool) : OrdMap κ α :=
  ⟨m.entries.filter (fun e => p e.1 e.2), m.nodup.sublist (List.filter_sublist.map Prod.fst)⟩

/-- `list(d.values())`. -/
def values (m : OrdMap κ α) : List α := m.entries.map Prod.snd

@[simp] theorem find?_empty (k : κ) : (empty : OrdMap κ α).find? k = none := rfl

@[simp] theorem find?_insert (m : OrdMap κ α) (k k' : κ) (v : α) :
    (m.insert k v).find? k' = if k' = k then some v else m.find? k' := lookup_set m.entries k k' v

theorem mem_entries_iff (m : OrdMap κ α) {k : κ} {v : α} :
    (k, v) ∈ m.entries ↔ m.find? k = some v := by
  obtain ⟨l, hl⟩ := m
  simp only [find?]
  induction l with
  | nil => simp
  | cons e l ih =>
    simp only [List.map_cons, List.nodup_cons] at hl
    rw [lookup_cons_if]
    by_cases h : k = e.1
    · subst h
      have hne : ∀ v', (e.1, v') ∉ l := fun v' hm =>
        hl.1 (List.mem_map.mpr ⟨_, hm, rfl⟩)
      simp [hne, Prod.ext_iff, eq_comm]
    · have hne : (k, v) ≠ e := fun he => h (congrArg Prod.fst he)
      simp [h, hne, ih hl.2]

theorem mem_entries_insert (m : OrdMap κ α) {k k' : κ} {v v' : α} :
    (k', v') ∈ (m.insert k v).entries ↔ (k' = k ∧ v' = v) ∨ (k' ≠ k ∧ (k', v') ∈ m.entries) := by
  rw [mem_entries_iff, find?_insert, mem_entries_iff]
  by_cases h : k' = k
  · simp [h, eq_comm]
  · simp [h]

/-- The last pair of a key counts. -/
theorem find?_ofList (l : List (κ × α)) (k : κ) : (ofList l).find? k = l.reverse.lookup k := by
  have hfold : ∀ (l : List (κ × α)) (m : OrdMap κ α),
      (l.foldl (fun m e => m.insert e.1 e.2) m).find? k = (l.reverse.lookup k).or (m.find? k) := by
    intro l
    induction l with
    | nil => intro m; rfl
    | cons e l ih =>
      intro m
      rw [List.foldl_cons, ih, find?_insert, List.reverse_cons, List.lookup_append,
        lookup_cons_if]
      by_cases hk : k = e.1
      · simp [hk]
      · simp [hk]
  have h := hfold l empty
  rw [find?_empty, Option.or_none] at h
  exact h

/-- A comprehension makes entries of its pairs only. -/
theorem mem_of_mem_ofList {l : List (κ × α)} {e : κ × α} (h : e ∈ (ofList l).entries) : e ∈ l := by
  have hfold : ∀ (r : List (κ × α)) (m : OrdMap κ α),
      e ∈ (r.foldl (fun m e => m.insert e.1 e.2) m).entries → e ∈ r ∨ e ∈ m.entries := by
    intro r
    induction r with
    | nil => exact fun m h => Or.inr h
    | cons d r ih =>
      intro m h
      rcases ih _ h with h | h
      · exact Or.inl (List.mem_cons_of_mem d h)
      · rcases mem_of_mem_set h with h | rfl
        · exact Or.inr h
        · exact Or.inl List.mem_cons_self
  exact (hfold l empty h).resolve_right List.not_mem_nil

end Lib.OrdMap
