import SmartLocker.Gateway.Store

/-!
# The table of lockers

What `save_lockers` of `DatabaseManager` makes of a list.  The statement for one locker fails on an id
that the table has, on a cabinet that is not in `cabinets` and on a value that its column refuses; the
first failure rolls the list back.  `Takes` says which lists are stored, in terms of the tables before
the call; `saveLockers_cases` is the whole call.
-/

set_option autoImplicit false

namespace SmartLocker.Gateway

open Lib Lib.Python

/-- An entry of a `lockers` list. -/
structure LockerEntry where
  id : Json
  slotIndex : Int
  label : Json

def LockerEntry.toDict (e : LockerEntry) : Dict :=
  [(py "id", e.id), (py "slotIndex", .int e.slotIndex), (py "label", e.label)]

/-- How PostgreSQL takes the strings and integers of a list: a comparison with a TEXT column takes the
strings, and an integer that an INTEGER column does not refuse is stored. -/
structure KeepsValues (io : StoreOutside) : Prop where
  equals_str : ∀ s, io.equals (.str s) = .ok (some s)
  integer_int : ∀ n v, io.integer (.int n) = .ok v → v = some n

/-! ## Rows -/

/-- The row of an entry. -/
def entryRow (io : StoreOutside) (c : PyStr) (e : LockerEntry) : Except DbErr LockerRow :=
  lockerRow io (.str c) (.obj e.toDict)

theorem entryRow_ok {io : StoreOutside} (hio : KeepsValues io) {c : PyStr} {e : LockerEntry}
    {r : LockerRow} (h : entryRow io c e = .ok r) :
    io.text e.id = .ok (some r.id) ∧ r.cabinet_id = some c ∧ r.slot_index = some e.slotIndex := by
  have hid : (Json.obj e.toDict).subscript "id" = .ok e.id := by
    simp [Json.subscript, item, LockerEntry.toDict]
  have hslot : (Json.obj e.toDict).subscript "slotIndex" = .ok (.int e.slotIndex) := by
    simp [Json.subscript, item, LockerEntry.toDict]
  have hlabel : (Json.obj e.toDict).subscript "label" = .ok e.label := by
    simp [Json.subscript, item, LockerEntry.toDict]
  unfold entryRow lockerRow at h
  rw [hid, hslot, hlabel] at h
  obtain ⟨_, ⟨⟩, h⟩ := except_bind_ok.mp h
  obtain ⟨_, ⟨⟩, h⟩ := except_bind_ok.mp h
  obtain ⟨_, ⟨⟩, h⟩ := except_bind_ok.mp h
  obtain ⟨_, -, h⟩ := except_bind_ok.mp h
  obtain ⟨id, htext, h⟩ := except_bind_ok.mp h
  obtain ⟨cabinet_id, hcabinet, h⟩ := except_bind_ok.mp h
  obtain ⟨slot_index, hinteger, h⟩ := except_bind_ok.mp h
  obtain ⟨label, -, h⟩ := except_bind_ok.mp h
  cases id with
  | none => cases h
  | some id =>
    cases h
    rw [io.text_str] at hcabinet
    exact ⟨htext, (Except.ok.inj hcabinet).symm, hio.integer_int _ _ hinteger⟩

/-- The rows with the slot index `k`; the last one counts. -/
def rowId (rows : List LockerRow) (k : Int) : Option PyStr :=
  (rows.reverse.find? fun r => r.slot_index == some k).map LockerRow.id

/-- The id of the last entry for slot `k`. -/
def slotId (ls : List LockerEntry) (k : Int) : Option Json :=
  (ls.reverse.find? fun e => e.slotIndex == k).map LockerEntry.id

namespace Database

/-- The rows behind the others. -/
def insertRows (db : Database) (rows : List LockerRow) : Database :=
  { db with lockers := rows.foldl (fun m r => m.insert r.id r) db.lockers }

/-- No key stands against the rows. -/
structure Admits (db : Database) (rows : List LockerRow) : Prop where
  distinct : (rows.map LockerRow.id).Nodup
  new : ∀ r ∈ rows, db.lockers.find? r.id = none
  referred : ∀ r ∈ rows, r.cabinet_id.all fun id => (db.cabinets.find? id).isSome

theorem insertLocker_ok {db db' : Database} {r : LockerRow} :
    db.insertLocker r = .ok db' ↔ db.lockers.find? r.id = none ∧
      (r.cabinet_id.all fun id => (db.cabinets.find? id).isSome) ∧ db' = db.insertRows [r] := by
  unfold insertLocker
  cases hfind : db.lockers.find? r.id with
  | some old => simp
  | none =>
    cases hcabinet : r.cabinet_id.all fun id => (db.cabinets.find? id).isSome with
    | false => simp
    | true => simp [insertRows, eq_comm]

/-- **A list without a failure**: its rows, which no key stands against. -/
theorem foldlM_insertLocker {db db' : Database} {row : Json → Except DbErr LockerRow} {ls : List Json} :
    ls.foldlM (fun db l => row l >>= db.insertLocker) db = .ok db' ↔
      ∃ rows, List.Forall₂ (fun l r => row l = .ok r) ls rows ∧ db.Admits rows ∧
        db' = db.insertRows rows := by
  induction ls generalizing db with
  | nil =>
    constructor
    · intro h
      refine ⟨[], .nil, ⟨List.nodup_nil, by simp, by simp⟩, ?_⟩
      exact (Except.ok.inj h).symm
    · rintro ⟨rows, hrows, -, rfl⟩
      cases hrows
      rfl
  | cons l ls ih =>
    rw [List.foldlM_cons, except_bind_ok]
    constructor
    · rintro ⟨db₁, h₁, h⟩
      obtain ⟨r, hr, hinsert⟩ := except_bind_ok.mp h₁
      obtain ⟨hnew, hcabinet, rfl⟩ := insertLocker_ok.mp hinsert
      obtain ⟨rows, hrows, hadmits, rfl⟩ := ih.mp h
      have hfind : ∀ r' ∈ rows, r'.id ≠ r.id ∧ db.lockers.find? r'.id = none := by
        intro r' hr'
        have hnew' := hadmits.new r' hr'
        simp only [insertRows, List.foldl_cons, List.foldl_nil, OrdMap.find?_insert] at hnew'
        split at hnew'
        · cases hnew'
        · exact ⟨‹_›, hnew'⟩
      refine ⟨r :: rows, .cons hr hrows, ⟨?_, ?_, ?_⟩, rfl⟩
      · rw [List.map_cons, List.nodup_cons]
        refine ⟨?_, hadmits.distinct⟩
        intro hmem
        obtain ⟨r', hr', hid⟩ := List.mem_map.mp hmem
        exact (hfind r' hr').1 hid
      · exact List.forall_mem_cons.mpr ⟨hnew, fun r' hr' => (hfind r' hr').2⟩
      · exact List.forall_mem_cons.mpr ⟨hcabinet, hadmits.referred⟩
    · rintro ⟨rows, hrows, hadmits, rfl⟩
      cases hrows with
      | @cons _ r _ rows hr hrows =>
        have hdistinct := hadmits.distinct
        rw [List.map_cons, List.nodup_cons] at hdistinct
        obtain ⟨hnew, hnews⟩ := List.forall_mem_cons.mp hadmits.new
        obtain ⟨hcabinet, hcabinets⟩ := List.forall_mem_cons.mp hadmits.referred
        refine ⟨db.insertRows [r], ?_, ih.mpr ⟨rows, hrows, ⟨hdistinct.2, ?_, hcabinets⟩, rfl⟩⟩
        · rw [except_bind_ok]
          exact ⟨r, hr, insertLocker_ok.mpr ⟨hnew, hcabinet, rfl⟩⟩
        · intro r' hr'
          have hne : r'.id ≠ r.id := fun hid => hdistinct.1 (hid ▸ List.mem_map_of_mem hr')
          simp only [insertRows, List.foldl_cons, List.foldl_nil, OrdMap.find?_insert, if_neg hne]
          exact hnews r' hr'

theorem entries_insertRows {db : Database} {rows : List LockerRow} (h : db.Admits rows) :
    (db.insertRows rows).lockers.entries = db.lockers.entries ++ rows.map fun r => (r.id, r) := by
  induction rows generalizing db with
  | nil => simp [insertRows]
  | cons r rows ih =>
    have hdistinct := h.distinct
    rw [List.map_cons, List.nodup_cons] at hdistinct
    have hnew : r.id ∉ db.lockers.entries.map Prod.fst := by
      intro hmem
      obtain ⟨⟨id, old⟩, hold, rfl⟩ := List.mem_map.mp hmem
      have hfind := (OrdMap.mem_entries_iff _).mp hold
      rw [h.new r List.mem_cons_self] at hfind
      cases hfind
    have hhead : (db.insertRows [r]).lockers.entries = db.lockers.entries ++ [(r.id, r)] :=
      OrdMap.set_new hnew r
    have hrest : (db.insertRows [r]).Admits rows := by
      refine ⟨hdistinct.2, ?_, fun r' hr' => h.referred r' (List.mem_cons_of_mem _ hr')⟩
      intro r' hr'
      have hne : r'.id ≠ r.id := fun hid => hdistinct.1 (hid ▸ List.mem_map_of_mem hr')
      simp only [insertRows, List.foldl_cons, List.foldl_nil, OrdMap.find?_insert, if_neg hne]
      exact h.new r' (List.mem_cons_of_mem _ hr')
    have hall := ih hrest
    rw [hhead, List.append_assoc] at hall
    exact hall

end Database

/-! ## Lists -/

/-- The argument `lockers`. -/
def entriesJson (ls : List LockerEntry) : Json := .arr (ls.map fun e => .obj e.toDict)

/-- The tables take the list: its values fit the columns, no id comes twice or is the id of a locker of
another cabinet, and the cabinet has a row. -/
structure Takes (io : StoreOutside) (db : Database) (c : PyStr) (ls : List LockerEntry)
    (rows : List LockerRow) : Prop where
  columns : List.Forall₂ (fun e r => entryRow io c e = .ok r) ls rows
  distinct : (rows.map LockerRow.id).Nodup
  own : ∀ r ∈ rows, ∀ old, db.lockers.find? r.id = some old → old.cabinet_id = some c
  cabinet : rows ≠ [] → (db.cabinets.find? c).isSome

namespace Database

variable {io : StoreOutside} {db : Database} {c : PyStr} {ls : List LockerEntry}
  {rows : List LockerRow}

/-- The cabinet of a row. -/
theorem cabinet_of_rows (hio : KeepsValues io)
    (h : List.Forall₂ (fun e r => entryRow io c e = .ok r) ls rows) {r : LockerRow} (hr : r ∈ rows) :
    r.cabinet_id = some c := by
  obtain ⟨e, -, he⟩ := exists_of_forall₂_left h.flip hr
  exact (entryRow_ok hio he).2.1

theorem find?_deleteLockers (c : PyStr) (id : PyStr) :
    (db.deleteLockers (some c)).lockers.find? id = none ↔
      ∀ old, db.lockers.find? id = some old → old.cabinet_id = some c := by
  rw [Option.eq_none_iff_forall_ne_some]
  refine forall_congr' fun old => ?_
  rw [Ne, ← OrdMap.mem_entries_iff, ← OrdMap.mem_entries_iff]
  simp [deleteLockers, OrdMap.filter, List.mem_filter]

/-- In the tables without the old lockers of the cabinet, no key stands against a list that is taken. -/
theorem admits_iff_takes (hio : KeepsValues io)
    (h : List.Forall₂ (fun e r => entryRow io c e = .ok r) ls rows) :
    (db.deleteLockers (some c)).Admits rows ↔ Takes io db c ls rows := by
  constructor
  · intro hadmits
    refine ⟨h, hadmits.distinct, ?_, ?_⟩
    · exact fun r hr => (find?_deleteLockers c r.id).mp (hadmits.new r hr)
    · intro hne
      obtain ⟨r, hr⟩ := List.exists_mem_of_ne_nil rows hne
      have href := hadmits.referred r hr
      rw [cabinet_of_rows hio h hr] at href
      exact href
  · intro htakes
    refine ⟨htakes.distinct, ?_, ?_⟩
    · exact fun r hr => (find?_deleteLockers c r.id).mpr (htakes.own r hr)
    · intro r hr
      rw [cabinet_of_rows hio h hr]
      exact htakes.cabinet (List.ne_nil_of_mem hr)

/-- **`save_lockers` on the tables**: the list is refused by psycopg2, or stored in the place of the old
lockers, or rolled back. -/
theorem saveLockers_cases (hio : KeepsValues io) (db : Database) (c : PyStr) (ls : List LockerEntry) :
    (∃ e, db.saveLockers io (.str c) (entriesJson ls) = .error e) ∨
      (∃ rows, Takes io db c ls rows ∧ db.saveLockers io (.str c) (entriesJson ls) =
        .ok ((db.deleteLockers (some c)).insertRows rows)) ∨
      ((∀ rows, ¬ Takes io db c ls rows) ∧ db.saveLockers io (.str c) (entriesJson ls) = .ok db) := by
  have hiter : uncaught (entriesJson ls).iter = .ok (ls.map fun e => .obj e.toDict) := rfl
  unfold saveLockers
  rw [hio.equals_str, hiter]
  rcases io.adaptAll_str [c] with hadapt | ⟨err, hadapt⟩
  · simp only [List.map_cons, List.map_nil] at hadapt
    rw [hadapt]
    show (∃ e, committed db (List.foldlM _ _ _) = .error e) ∨ _
    have hfold := fun db' => @foldlM_insertLocker (db.deleteLockers (some c)) db'
      (lockerRow io (.str c)) (ls.map fun e => .obj e.toDict)
    simp only [List.forall₂_map_left_iff] at hfold
    cases hr : (ls.map fun e => Json.obj e.toDict).foldlM
        (fun db locker => lockerRow io (.str c) locker >>= db.insertLocker)
        (db.deleteLockers (some c)) with
    | ok db' =>
      obtain ⟨rows, hrows, hadmits, rfl⟩ := (hfold db').mp hr
      exact .inr (.inl ⟨rows, (admits_iff_takes hio hrows).mp hadmits, congrArg (committed db) hr⟩)
    | error err =>
      cases err with
      | raised e => exact .inl ⟨e, rfl⟩
      | logged =>
        refine .inr (.inr ⟨fun rows htakes => ?_, congrArg (committed db) hr⟩)
        have hok := (hfold _).mpr ⟨rows, htakes.columns,
          (admits_iff_takes hio htakes.columns).mpr htakes, rfl⟩
        rw [hr] at hok
        cases hok
  · simp only [List.map_cons, List.map_nil] at hadapt
    rw [hadapt]
    exact .inl ⟨err, rfl⟩

/-! ## Lockers of a cabinet -/

/-- The rows of a cabinet, in the order in which they were inserted. -/
abbrev rowsOf (db : Database) (c : PyStr) : List LockerRow := db.lockerRows .inserted c

theorem values_insertRows (h : db.Admits rows) :
    (db.insertRows rows).lockers.values = db.lockers.values ++ rows := by
  unfold OrdMap.values
  rw [entries_insertRows h, List.map_append, List.map_map]
  exact congrArg _ (List.map_id _)

theorem values_deleteLockers (db : Database) (c : PyStr) :
    (db.deleteLockers (some c)).lockers.values =
      db.lockers.values.filter fun r => r.cabinet_id != some c := by
  unfold OrdMap.values deleteLockers OrdMap.filter
  rw [List.filter_map]
  rfl

/-- A list that is taken replaces the rows of its cabinet, and no others. -/
theorem rowsOf_taken (hio : KeepsValues io) (h : Takes io db c ls rows) (c' : PyStr) :
    ((db.deleteLockers (some c)).insertRows rows).rowsOf c' = if c' = c then rows else db.rowsOf c' := by
  have hadmits := (admits_iff_takes hio h.columns).mpr h
  show (((db.deleteLockers (some c)).insertRows rows).lockers.values.filter
    fun r => r.cabinet_id == some c') = _
  rw [values_insertRows hadmits, values_deleteLockers, List.filter_append, List.filter_filter]
  split
  · rename_i hc
    subst hc
    have hold : db.lockers.values.filter
        (fun r => r.cabinet_id == some c' && r.cabinet_id != some c') = [] := by
      rw [List.filter_eq_nil_iff]
      intro r _
      simp
    have hnew : rows.filter (fun r => r.cabinet_id == some c') = rows := by
      rw [List.filter_eq_self]
      intro r hr
      rw [cabinet_of_rows hio h.columns hr, beq_self_eq_true]
    rw [hold, hnew, List.nil_append]
  · rename_i hc
    have hnew : rows.filter (fun r => r.cabinet_id == some c') = [] := by
      rw [List.filter_eq_nil_iff]
      intro r hr
      rw [cabinet_of_rows hio h.columns hr]
      simpa using Ne.symm hc
    rw [hnew, List.append_nil]
    refine List.filter_congr fun r _ => ?_
    by_cases hr : r.cabinet_id = some c'
    · simpa [hr] using hc
    · simp [hr]

end Database

end SmartLocker.Gateway
