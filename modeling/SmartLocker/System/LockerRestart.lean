import SmartLocker.Gateway.LockerTable
import SmartLocker.System.FailedSetup
import SmartLocker.System.FileMirror
import SmartLocker.System.SetupOutcome

/-!
# The locker map and a restart

The lockers are in the tables and in memory, not in the file: a restart reads them back for every
cabinet of the file.  `save_lockers` writes the tables first; when a key stands against the list the
whole list is rolled back, and memory has it all the same.

* `Survives` — the ids that a restart finds are those of memory;
* `KeepsMap` — what a call needs for that to stay so: a list for a saved cabinet is one that the tables
  take, or names no other locker for any slot; and nothing is remembered for a cabinet before it is
  saved;
* `locker_map_survives` — it holds after every call of a sequence just if every call meets that.
-/

set_option autoImplicit false

namespace SmartLocker.System

open Lib Lib.Machine Lib.Python SmartLocker.Gateway

/-! ## Calls -/

/-- A call that records something; the ids of cabinets are strings. -/
inductive RecordCall where
  | location (location_id name address : Json)
  | cabinet (cabinet_id : PyStr) (a : CabinetArgs)
  | lockers (cabinet_id : PyStr) (ls : List LockerEntry)

/-- The call of the method; the id in `a` is that of the cabinet. -/
def RecordCall.call : RecordCall → StateCall
  | .location location_id name address => .location location_id name address
  | .cabinet cabinet_id a => .cabinet { a with cabinet_id := .str cabinet_id }
  | .lockers cabinet_id ls => .lockers (.str cabinet_id) (entriesJson ls)

def recordStep (io : StoreOutside) (s : Store) (call : RecordCall) : Option Store :=
  callStep io s call.call

/-- psycopg2 takes the ids of the saved cabinets. -/
def IdsTaken (io : StoreOutside) (st : CabinetState) : Prop :=
  ∀ c, (st.getCabinetById (.str c)).isSome → io.adapt (.str c) = .ok ()

/-- The id that the tables have for slot `k` of the cabinet `c`. -/
def tableId (db : Database) (c : PyStr) (k : Int) : Option Json := (rowId (db.rowsOf c) k).map .str

theorem isSome_find? {α : Type} (m : OrdMap Key α) (k : Key) :
    (m.find? k).isSome ↔ k ∈ m.entries.map Prod.fst := by
  simp only [Option.isSome_iff_exists, ← OrdMap.mem_entries_iff, List.mem_map, Prod.exists,
    exists_and_right, exists_eq_right]

/-- The dict of the rows of a cabinet, by `slot_index`. -/
theorem lookup_rows (rows : List LockerRow) (k : Int) :
    ((lockersBySlot rows).find? (.num (.fin k))).bind (get? · "id") = (rowId rows k).map .str := by
  unfold lockersBySlot rowId
  rw [OrdMap.find?_ofList, ← List.map_reverse]
  induction rows.reverse with
  | nil => rfl
  | cons r rows ih =>
    rw [List.map_cons, OrdMap.lookup_cons_if, List.find?_cons]
    by_cases hk : r.slot_index = some k
    · rw [hk]
      simp [LockerRow.toDict]
    · have hother : (r.slot_index == some k) = false := by simpa using hk
      rw [hother, if_neg]
      · exact ih
      · cases hslot : r.slot_index with
        | none => simp
        | some n =>
          rw [hslot] at hk
          simpa [eq_comm] using hk

/-- What `get_lockers` returns, if it returns. -/
def keyRows (db : Database) : Key → List LockerRow
  | .str c => db.rowsOf c
  | _ => []

/-- `get_lockers` returns just if psycopg2 takes the id. -/
theorem getLockers_ok {io : StoreOutside} {db : Database} {k : Key} {rows : List LockerRow}
    (h : db.getLockers io.toStorage .inserted k = .ok rows) : rows = keyRows db k := by
  cases k with
  | none => exact (Except.ok.inj h).symm
  | num x => exact (Except.ok.inj h).symm
  | str c =>
    unfold Database.getLockers at h
    dsimp only at h
    rcases io.adapt_str c with hc | ⟨e, hc⟩
    · rw [hc] at h
      exact (Except.ok.inj h).symm
    · rw [hc] at h
      cases h

theorem getLockers_isOk (io : StoreOutside) (db : Database) (c : PyStr) :
    (∃ rows, db.getLockers io.toStorage .inserted (.str c) = .ok rows) ↔ io.adapt (.str c) = .ok () := by
  unfold Database.getLockers
  dsimp only
  rcases io.adapt_str c with hc | ⟨e, hc⟩
  · simp [hc]
  · simp [hc]

/-- The lockers that a restart reads for the cabinets `ids`. -/
theorem lookup_lockersOf {io : StoreOutside} {db : Database} {ids : List Key}
    {m : OrdMap Key (OrdMap Key Dict)} (h : lockersOf io.toStorage .inserted (some db) ids = .ok m)
    (c : PyStr) (k : Int) :
    ((m.find? (.str c)).bind (·.find? (.num (.fin k)))).bind (get? · "id") =
      if Key.str c ∈ ids then tableId db c k else none := by
  unfold lockersOf at h
  dsimp only at h
  cases hentries : ids.mapM fun id =>
      (db.getLockers io.toStorage .inserted id).map fun rows => (id, lockersBySlot rows) with
  | error e => rw [hentries] at h; cases h
  | ok entries =>
    rw [hentries] at h
    cases h
    have heq : entries = ids.map fun id => (id, lockersBySlot (keyRows db id)) := by
      refine mapM_eq_map hentries fun id e he => ?_
      cases hrows : db.getLockers io.toStorage .inserted id with
      | error err => rw [hrows] at he; cases he
      | ok rows =>
        rw [hrows] at he
        rw [← getLockers_ok hrows]
        exact (Except.ok.inj he).symm
    rw [heq, OrdMap.find?_ofList, ← List.map_reverse]
    split
    · rename_i hmem
      rw [List.lookup_graph _ (List.mem_reverse.mpr hmem)]
      exact lookup_rows _ k
    · rename_i hmem
      rw [List.lookup_eq_none_iff.mpr]
      · rfl
      · intro e he
        obtain ⟨id, hid, rfl⟩ := List.mem_map.mp he
        rw [bne_iff_ne]
        rintro rfl
        exact hmem (List.mem_reverse.mp hid)

/-- All of them are read just if psycopg2 takes every id. -/
theorem lockersOf_isOk (io : StoreOutside) (db : Database) (ids : List Key) :
    (∃ m, lockersOf io.toStorage .inserted (some db) ids = .ok m) ↔
      ∀ c, Key.str c ∈ ids → io.adapt (.str c) = .ok () := by
  have hmap : (∃ m, lockersOf io.toStorage .inserted (some db) ids = .ok m) ↔ ∃ r, (ids.mapM fun id =>
      (db.getLockers io.toStorage .inserted id).map fun rows => (id, lockersBySlot rows)) = .ok r := by
    unfold lockersOf
    dsimp only
    cases ids.mapM fun id =>
      (db.getLockers io.toStorage .inserted id).map fun rows => (id, lockersBySlot rows) with
    | error e => simp [Except.map]
    | ok entries => simp [Except.map]
  have hone : ∀ id, (∃ e, ((db.getLockers io.toStorage .inserted id).map
      fun rows => (id, lockersBySlot rows)) = .ok e) ↔
        ∃ rows, db.getLockers io.toStorage .inserted id = .ok rows := by
    intro id
    cases db.getLockers io.toStorage .inserted id with
    | error e => simp [Except.map]
    | ok rows => simp [Except.map]
  rw [hmap, mapM_ok_iff]
  simp only [hone]
  constructor
  · exact fun hall c hc => (getLockers_isOk io db c).mp (hall _ hc)
  · intro hall id hid
    cases id with
    | none => exact ⟨[], rfl⟩
    | num x => exact ⟨[], rfl⟩
    | str c => exact (getLockers_isOk io db c).mpr (hall c hid)

/-! ## The invariant -/

/-- What the file and the tables have of a store; `st₀` was in memory when the file was written. -/
structure OnDisk (s : Store) (db : Database) (st₀ : CabinetState) : Prop where
  tables : s.db = some db
  file : (s.file = .absent ∧ st₀ = .empty ∧ db.locations = .empty) ∨
    s.file = .written ⟨st₀.location, st₀.allCabinets⟩
  identified : ∀ loc, s.state.location = some loc → ∃ l, item loc "id" = .ok l
  strings : ∀ k, (s.state.getCabinetById k).isSome → ∃ c, k = .str c
  /-- what the file has is in memory -/
  remembered : ∀ k, (st₀.getCabinetById k).isSome → (s.state.getCabinetById k).isSome
  /-- what the tables have is in the file -/
  stored : ∀ c, (db.cabinets.find? c).isSome → (st₀.getCabinetById (.str c)).isSome
  /-- the foreign key of `lockers` -/
  referred : ∀ r ∈ db.lockers.values, ∃ c, r.cabinet_id = some c ∧ (db.cabinets.find? c).isSome

/-- The restart: it ends just if psycopg2 takes the ids of the file. -/
theorem OnDisk.load {s : Store} {db : Database} {st₀ : CabinetState} (h : OnDisk s db st₀)
    (io : StoreOutside) :
    ((∃ st, Gateway.load io.toStorage .inserted s.file.data s.db = .ok st) ↔ IdsTaken io st₀) ∧
      ∀ st, Gateway.load io.toStorage .inserted s.file.data s.db = .ok st → ∀ c k,
        foundId st (.str c) k =
          if (st₀.getCabinetById (.str c)).isSome then tableId db c k else none := by
  rw [h.tables]
  rcases h.file with ⟨hfile, rfl, hlocations⟩ | hfile
  · have hnone : db.getLocation .inserted = none := by
      unfold Database.getLocation
      rw [hlocations]
      rfl
    have hload : Gateway.load io.toStorage .inserted s.file.data (some db) = .ok .empty := by
      rw [hfile, Gateway.load, loadedData]
      simp [StateFile.data, hnone]
    rw [hload]
    refine ⟨iff_of_true ⟨_, rfl⟩ ?_, fun st hst c k => ?_⟩
    · intro c hc
      cases hc
    · cases hst
      rfl
  · obtain ⟨st₁, hcabinets, hload⟩ := load_written io.toStorage .inserted st₀ (some db)
    rw [hfile]
    show ((∃ st, Gateway.load _ _ (some ⟨_, _⟩) _ = _) ↔ _) ∧
      ∀ st, Gateway.load _ _ (some ⟨_, _⟩) _ = _ → _
    rw [hload]
    have hids : ∀ c, (st₀.getCabinetById (.str c)).isSome ↔
        Key.str c ∈ st₁.cabinets.entries.map Prod.fst := by
      intro c
      rw [hcabinets]
      exact isSome_find? _ _
    have htaken : IdsTaken io st₀ ↔
        ∃ m, lockersOf io.toStorage .inserted (some db) (st₁.cabinets.entries.map Prod.fst) = .ok m := by
      rw [lockersOf_isOk]
      exact forall_congr' fun c => imp_congr_left (hids c)
    rw [htaken]
    unfold CabinetState.loaded
    cases hm : lockersOf io.toStorage .inserted (some db) (st₁.cabinets.entries.map Prod.fst) with
    | error e => simp [Except.map]
    | ok m =>
      refine ⟨iff_of_true ⟨_, rfl⟩ ⟨_, rfl⟩, fun st hst c k => ?_⟩
      cases hst
      exact (lookup_lockersOf hm c k).trans (if_congr (hids c).symm rfl rfl)

/-- The lockers of a cabinet that the file does not have. -/
theorem OnDisk.no_rows {s : Store} {db : Database} {st₀ : CabinetState} (h : OnDisk s db st₀)
    {c : PyStr} (hc : (st₀.getCabinetById (.str c)).isSome = false) (k : Int) :
    tableId db c k = none := by
  have hrows : db.rowsOf c = [] := by
    show db.lockers.values.filter (fun r => r.cabinet_id == some c) = []
    rw [List.filter_eq_nil_iff]
    intro r hr hmatch
    obtain ⟨c', hc', hfound⟩ := h.referred r hr
    rw [hc'] at hmatch
    have heq : c' = c := by simpa using hmatch
    subst heq
    rw [h.stored c' hfound] at hc
    cases hc
  rw [tableId, hrows]
  rfl

theorem recordStep_some {io : StoreOutside} {s s' : Store} {call : RecordCall}
    (h : recordStep io s call = some s') : callAfter io s call.call = s' ∧ s'.file ≠ .broken := by
  unfold recordStep callStep at h
  split at h
  · cases h
  · rename_i hfile
    cases h
    exact ⟨rfl, hfile⟩

/-- The tables, and then the file: a `psycopg2` that raises leaves both. -/
theorem written_cases (io : StoreOutside) {s : Store} {db : Database} (hdb : s.db = some db)
    (st : CabinetState) (f : Database → Except PyErr Database) :
    (∃ e, f db = .error e ∧ s.written io st f = { s with state := st }) ∨
      ∃ db', f db = .ok db' ∧ s.written io st f = ⟨st, Store.dumped io st, some db'⟩ := by
  unfold Store.written
  rw [hdb]
  cases hf : f db with
  | error e => exact Or.inl ⟨e, rfl, by simp [withDb, hf, Except.map]⟩
  | ok db' => exact Or.inr ⟨db', rfl, by simp [withDb, hf, Except.map]⟩

/-- What a statement on `cabinets` may do. -/
structure Upserted (db db' : Database) (st : CabinetState) : Prop where
  lockers : db'.lockers = db.lockers
  kept : ∀ c, (db.cabinets.find? c).isSome → (db'.cabinets.find? c).isSome
  added : ∀ c, (db'.cabinets.find? c).isSome →
    (db.cabinets.find? c).isSome ∨ (st.getCabinetById (.str c)).isSome

/-- **A write of the memory `st`**, to the tables by `f` and to the file. -/
theorem OnDisk.written {io : StoreOutside} {s : Store} {db : Database} {st₀ st : CabinetState}
    {f : Database → Except PyErr Database} (h : OnDisk s db st₀)
    (hfile : (s.written io st f).file ≠ .broken)
    (hidentified : ∀ loc, st.location = some loc → ∃ l, item loc "id" = .ok l)
    (hstrings : ∀ k, (st.getCabinetById k).isSome → ∃ c, k = .str c)
    (hgrow : ∀ k, (s.state.getCabinetById k).isSome → (st.getCabinetById k).isSome)
    (hf : ∀ db', f db = .ok db' → Upserted db db' st) :
    ∃ db' st₀', OnDisk (s.written io st f) db' st₀' ∧ db'.lockers = db.lockers ∧
      (IdsTaken io st₀ → (IdsTaken io st₀' ↔ (∃ e, f db = .error e) ∨ IdsTaken io st)) := by
  rcases written_cases io h.tables st f with ⟨e, he, hs⟩ | ⟨db', hdb', hs⟩
  · rw [hs]
    exact ⟨db, st₀, ⟨h.tables, h.file, hidentified, hstrings,
      fun k hk => hgrow k (h.remembered k hk), h.stored, h.referred⟩, rfl,
      fun htaken => iff_of_true htaken (Or.inl ⟨e, he⟩)⟩
  · have hup := hf db' hdb'
    rw [hs] at hfile ⊢
    have hdumped : Store.dumped io st = .written ⟨st.location, st.allCabinets⟩ :=
      (dumped_cases io st).resolve_left hfile
    refine ⟨db', st, ?_, hup.lockers, fun _ => ?_⟩
    swap
    · simp [hdb']
    constructor
    · rfl
    · exact Or.inr hdumped
    · exact hidentified
    · exact hstrings
    · exact fun _ hk => hk
    · intro c hc
      rcases hup.added c hc with hold | hnew
      · exact hgrow _ (h.remembered _ (h.stored c hold))
      · exact hnew
    · intro r hr
      rw [hup.lockers] at hr
      obtain ⟨c, hc, hfound⟩ := h.referred r hr
      exact ⟨c, hc, hup.kept c hfound⟩

theorem upserted_saveLocation {io : StoreOutside} {db db' : Database} {loc : Dict}
    (h : db.saveLocation io.toStorage loc = .ok db') (st : CabinetState) : Upserted db db' st := by
  rcases savedLocation_added h with rfl | ⟨r, -, rfl⟩
  · exact ⟨rfl, fun _ hc => hc, fun _ hc => Or.inl hc⟩
  · exact ⟨rfl, fun _ hc => hc, fun _ hc => Or.inl hc⟩

/-- The row of a cabinet has its id. -/
theorem cabinetRow_id {io : Storage} {data : Dict} {c : PyStr} {r : CabinetRow}
    (hid : getD data "id" .null = .str c) (h : cabinetRow io data = .ok r) : r.id = c := by
  unfold cabinetRow at h
  rw [hid] at h
  obtain ⟨_, -, h⟩ := except_bind_ok.mp h
  obtain ⟨id, htext, h⟩ := except_bind_ok.mp h
  obtain ⟨_, -, h⟩ := except_bind_ok.mp h
  obtain ⟨_, -, h⟩ := except_bind_ok.mp h
  obtain ⟨_, -, h⟩ := except_bind_ok.mp h
  obtain ⟨_, -, h⟩ := except_bind_ok.mp h
  obtain ⟨_, -, h⟩ := except_bind_ok.mp h
  obtain ⟨_, -, h⟩ := except_bind_ok.mp h
  obtain ⟨_, -, h⟩ := except_bind_ok.mp h
  rw [io.text_str] at htext
  cases htext
  cases h
  rfl

/-- The id is the first argument: a save on which psycopg2 does not raise has taken it. -/
theorem taken_of_saveCabinet {io : StoreOutside} {db db' : Database} {data : Dict} {c : PyStr}
    (hid : getD data "id" .null = .str c) (h : db.saveCabinet io.toStorage data = .ok db') :
    io.adapt (.str c) = .ok () := by
  rcases io.adapt_str c with hc | ⟨e, hc⟩
  · exact hc
  · have hraised : db.saveCabinet io.toStorage data = .error e := by
      unfold Database.saveCabinet cabinetRow
      rw [hid, io.adaptAll_cons, hc]
      rfl
    rw [hraised] at h
    cases h

theorem upserted_saveCabinet {io : StoreOutside} {db db' : Database} {data : Dict} {c : PyStr}
    {st : CabinetState} (hid : getD data "id" .null = .str c)
    (h : db.saveCabinet io.toStorage data = .ok db') (hst : (st.getCabinetById (.str c)).isSome) :
    Upserted db db' st := by
  rcases committed_ok h with hr | ⟨-, rfl⟩
  · obtain ⟨r, hrow, hup⟩ := except_bind_ok.mp hr
    have hrc := cabinetRow_id hid hrow
    unfold Database.upsertCabinet at hup
    split at hup
    · cases hup
      refine ⟨rfl, fun c' hc' => ?_, fun c' hc' => ?_⟩
      · dsimp only
        rw [OrdMap.find?_insert]
        split
        · rfl
        · exact hc'
      · dsimp only at hc'
        rw [OrdMap.find?_insert, hrc] at hc'
        split at hc'
        · rename_i heq
          subst heq
          exact Or.inr hst
        · exact Or.inl hc'
    · cases hup
  · exact ⟨rfl, fun _ hc => hc, fun _ hc => Or.inl hc⟩

/-! ## Calls one by one -/

/-- What a call of `save_location` or `save_cabinet` leaves: the lockers, in memory and in the
tables. -/
structure LockersKept (s s' : Store) (db db' : Database) : Prop where
  memory : s'.state.lockers = s.state.lockers
  tables : db'.lockers = db.lockers

theorem OnDisk.location_step {io : StoreOutside} {s s' : Store} {db : Database} {st₀ : CabinetState}
    (h : OnDisk s db st₀) {i n a : Json} (hs : recordStep io s (.location i n a) = some s') :
    ∃ db' st₀', OnDisk s' db' st₀' ∧ LockersKept s s' db db' ∧
      s'.state.cabinets = s.state.cabinets ∧
      (IdsTaken io st₀ → (IdsTaken io st₀' ↔
        (∃ e, db.saveLocation io.toStorage (locationData i n a) = .error e) ∨ IdsTaken io s.state)) := by
  obtain ⟨rfl, hfile⟩ := recordStep_some hs
  have hafter : callAfter io s (RecordCall.location i n a).call = _ :=
    Store.after_saveLocation s io i n a
  rw [hafter] at hfile ⊢
  obtain ⟨db', st₀', hdisk, hlockers, htaken⟩ := h.written hfile
    (by intro loc hloc; cases hloc; exact ⟨i, by simp [item, locationData]⟩) h.strings
    (fun _ hk => hk) (fun db' hdb' => upserted_saveLocation hdb' _)
  refine ⟨db', st₀', hdisk, ⟨?_, hlockers⟩, ?_, htaken⟩
  · rw [Store.state_written]
    rfl
  · rw [Store.state_written]
    rfl

/-- `save_cabinet` is refused without a location; with one, the cabinet is in memory. -/
theorem OnDisk.cabinet_step {io : StoreOutside} {s s' : Store} {db : Database} {st₀ : CabinetState}
    (h : OnDisk s db st₀) {c : PyStr} {a : CabinetArgs}
    (hs : recordStep io s (.cabinet c a) = some s') :
    ∃ db' st₀', OnDisk s' db' st₀' ∧ LockersKept s s' db db' ∧
      (∀ k, (s'.state.getCabinetById k).isSome ↔
        (s.state.location.isSome ∧ k = .str c) ∨ (s.state.getCabinetById k).isSome) ∧
      (IdsTaken io st₀ → (IdsTaken io st₀' ↔ ∀ loc, s.state.location = some loc → ∀ l,
        item loc "id" = .ok l →
          (∃ e, db.saveCabinet io.toStorage (cabinetData l { a with cabinet_id := .str c }) = .error e) ∨
            IdsTaken io s.state)) := by
  obtain ⟨rfl, hfile⟩ := recordStep_some hs
  have hafter : callAfter io s (RecordCall.cabinet c a).call = _ :=
    Store.after_saveCabinet s io { a with cabinet_id := .str c }
  rw [hafter] at hfile ⊢
  cases hloc : s.state.location with
  | none => exact ⟨db, st₀, h, ⟨rfl, rfl⟩, by simp, fun htaken => by simpa using htaken⟩
  | some loc =>
    obtain ⟨l, hl⟩ := h.identified loc hloc
    have hkey : idKey (cabinetData l { a with cabinet_id := .str c }) = .ok (.str c) := by simp [Json.key]
    have hst := CabinetState.saveCabinet_ok hloc hl hkey
    rw [hloc] at hfile
    dsimp only at hfile ⊢
    rw [hl, hst] at hfile ⊢
    dsimp only at hfile ⊢
    have hsaved : ∀ k, ((s.state.store _ _ hkey).getCabinetById k).isSome ↔
        k = .str c ∨ (s.state.getCabinetById k).isSome := by
      intro k
      unfold CabinetState.getCabinetById CabinetState.store
      rw [OrdMap.find?_insert]
      by_cases hk : k = .str c
      · simp [hk]
      · simp [hk]
    have hid : getD (cabinetData l { a with cabinet_id := .str c }) "id" .null = .str c := by
      simp [getD, cabinetData]
    obtain ⟨db', st₀', hdisk, hlockers, htaken⟩ := h.written hfile h.identified
      (by
        intro k hk
        rcases (hsaved k).mp hk with rfl | hk
        · exact ⟨c, rfl⟩
        · exact h.strings k hk)
      (fun k hk => (hsaved k).mpr (Or.inr hk))
      (fun db' hdb' => upserted_saveCabinet hid hdb' ((hsaved _).mpr (Or.inl rfl)))
    refine ⟨db', st₀', hdisk, ⟨?_, hlockers⟩, ?_, fun htaken₀ => (htaken htaken₀).trans ?_⟩
    · rw [Store.state_written]
      rfl
    · intro k
      rw [Store.state_written, hsaved]
      simp
    · -- a save that does not raise has taken its own id
      have hids : IdsTaken io (s.state.store _ _ hkey) ↔
          io.adapt (.str c) = .ok () ∧ IdsTaken io s.state := by
        unfold IdsTaken
        simp only [hsaved, Key.str.injEq, or_imp, forall_and, forall_eq]
      rw [hids]
      cases hr : db.saveCabinet io.toStorage (cabinetData l { a with cabinet_id := .str c }) with
      | error e => simp [hl, hr]
      | ok db₁ => simp [hl, hr, taken_of_saveCabinet hid hr]

/-- The ids that memory has of a list. -/
theorem remember_entries (st : CabinetState) (c : PyStr) (ls : List LockerEntry) :
    ∃ st', st.rememberLockers (.str c) (entriesJson ls) = .ok st' ∧ st'.location = st.location ∧
      st'.cabinets = st.cabinets ∧
      ∀ c' k, foundId st' c' k = if c' = .str c then slotId ls k else foundId st c' k := by
  have hentries : entriesJson ls = .arr ((ls.map LockerEntry.toDict).map .obj) := by
    rw [entriesJson, List.map_map]
    rfl
  obtain ⟨entries, hok⟩ : ∃ entries, (ls.map LockerEntry.toDict).mapM (lockerData (.str c)) =
      .ok entries := by
    refine mapM_ok_iff.mpr fun d hd => ?_
    obtain ⟨e, -, rfl⟩ := List.mem_map.mp hd
    exact ⟨_, rfl⟩
  have hsave : st.saveLockers (.str c) (ls.map LockerEntry.toDict) =
      .ok { st with lockers := st.lockers.insert (.str c) (OrdMap.ofList entries) } := by
    unfold CabinetState.saveLockers
    rw [hok]
    rfl
  have hremember : st.rememberLockers (.str c) (entriesJson ls) =
      .ok { st with lockers := st.lockers.insert (.str c) (OrdMap.ofList entries) } := by
    rw [hentries, Store.rememberLockers_dicts, hsave]
  refine ⟨_, hremember, rfl, rfl, fun c' k => ?_⟩
  have hfound := foundId_saveLockers st (show (Json.str c).key = .ok (.str c) from rfl) hok c' k
  have hslot : rawId (ls.map LockerEntry.toDict) k = slotId ls k := by
    unfold rawId slotId
    rw [← List.map_reverse, List.find?_map]
    have hmatch : ((fun d => hasKey (.num (.fin k)) (getD d "slotIndex" .null)) ∘ LockerEntry.toDict) =
        fun e : LockerEntry => e.slotIndex == k := by
      funext e
      simp [hasKey, getD, LockerEntry.toDict, Json.key, beq_eq_decide]
    rw [hmatch]
    cases ls.reverse.find? (fun e => e.slotIndex == k) with
    | none => rfl
    | some e => simp [LockerEntry.toDict]
  rw [hslot] at hfound
  simpa only [CabinetState.apply, hsave] using hfound

/-- What `save_lockers` leaves when nothing raises: the list in memory, and in the tables if they take
it. -/
structure LockersSaved (io : StoreOutside) (c : PyStr) (ls : List LockerEntry) (s s' : Store)
    (db db' : Database) : Prop where
  returned : ∀ e, db.saveLockers io (.str c) (entriesJson ls) ≠ .error e
  cabinets : s'.state.cabinets = s.state.cabinets
  memory : ∀ c' k, foundId s'.state c' k = if c' = .str c then slotId ls k else foundId s.state c' k
  tables : (∃ rows, Takes io db c ls rows ∧
      ∀ c' k, tableId db' c' k = if c' = c then (rowId rows k).map .str else tableId db c' k) ∨
    (∀ rows, ¬ Takes io db c ls rows) ∧ db' = db

theorem callAfter_lockers (io : StoreOutside) {s : Store} {db : Database} (hdb : s.db = some db)
    {c : PyStr} {ls : List LockerEntry} {st : CabinetState}
    (hst : s.state.rememberLockers (.str c) (entriesJson ls) = .ok st) :
    callAfter io s (RecordCall.lockers c ls).call =
      match db.saveLockers io (.str c) (entriesJson ls) with
      | .ok db' => { s with state := st, db := some db' }
      | .error _ => s := by
  have hafter : callAfter io s (RecordCall.lockers c ls).call = _ :=
    Store.after_saveLockers s io (.str c) (entriesJson ls)
  rw [hafter, hdb, hst]
  cases hr : db.saveLockers io (.str c) (entriesJson ls) with
  | error e => simp [withDb, hr, Except.map]
  | ok db' => simp [withDb, hr, Except.map]

theorem OnDisk.lockers_step {io : StoreOutside} (hio : KeepsValues io) {s s' : Store} {db : Database}
    {st₀ : CabinetState} (h : OnDisk s db st₀) {c : PyStr} {ls : List LockerEntry}
    (hs : recordStep io s (.lockers c ls) = some s') :
    (s' = s ∧ ∃ e, db.saveLockers io (.str c) (entriesJson ls) = .error e) ∨
      ∃ db', OnDisk s' db' st₀ ∧ LockersSaved io c ls s s' db db' := by
  obtain ⟨rfl, -⟩ := recordStep_some hs
  obtain ⟨st, hst, hlocation, hcabinets, hfound⟩ := remember_entries s.state c ls
  have hsaved : ∀ k, st.getCabinetById k = s.state.getCabinetById k := by
    intro k
    rw [CabinetState.getCabinetById, hcabinets]
    rfl
  -- the invariant does not speak of the lockers in memory
  have hdisk : ∀ db', db'.locations = db.locations → db'.cabinets = db.cabinets →
      (∀ r ∈ db'.lockers.values, ∃ c, r.cabinet_id = some c ∧ (db.cabinets.find? c).isSome) →
      OnDisk { s with state := st, db := some db' } db' st₀ := by
    intro db' hlocations hcabs hrows
    constructor
    · rfl
    · rw [hlocations]
      exact h.file
    · dsimp only
      rw [hlocation]
      exact h.identified
    · simpa only [hsaved] using h.strings
    · simpa only [hsaved] using h.remembered
    · rw [hcabs]
      exact h.stored
    · rw [hcabs]
      exact hrows
  rw [callAfter_lockers io h.tables hst]
  rcases Database.saveLockers_cases hio db c ls with ⟨e, hr⟩ | ⟨rows, htakes, hr⟩ | ⟨hnot, hr⟩
  · rw [hr]
    exact Or.inl ⟨rfl, e, rfl⟩
  · -- the new rows stand behind those of the other cabinets
    rw [hr]
    refine Or.inr ⟨_, hdisk _ rfl rfl ?_, by simp [hr], hcabinets, hfound,
      Or.inl ⟨rows, htakes, fun c' k => ?_⟩⟩
    · intro r hmem
      rw [Database.values_insertRows ((Database.admits_iff_takes hio htakes.columns).mpr htakes),
        Database.values_deleteLockers] at hmem
      rcases List.mem_append.mp hmem with hold | hnew
      · exact h.referred r (List.mem_filter.mp hold).1
      · exact ⟨c, Database.cabinet_of_rows hio htakes.columns hnew,
          htakes.cabinet (List.ne_nil_of_mem hnew)⟩
    · unfold tableId
      rw [Database.rowsOf_taken hio htakes]
      split
      · rfl
      · rfl
  · rw [hr]
    exact Or.inr ⟨db, hdisk db rfl rfl h.referred, by simp [hr], hcabinets, hfound, Or.inr ⟨hnot, rfl⟩⟩

/-! ## Every run -/

/-- Every call keeps the invariant. -/
theorem OnDisk.step {io : StoreOutside} (hio : KeepsValues io) {s s' : Store} {db : Database}
    {st₀ : CabinetState} (h : OnDisk s db st₀) {call : RecordCall}
    (hs : recordStep io s call = some s') : ∃ db' st₀', OnDisk s' db' st₀' := by
  cases call with
  | location i n a =>
    obtain ⟨db', st₀', hdisk, -⟩ := h.location_step hs
    exact ⟨db', st₀', hdisk⟩
  | cabinet c a =>
    obtain ⟨db', st₀', hdisk, -⟩ := h.cabinet_step hs
    exact ⟨db', st₀', hdisk⟩
  | lockers c ls =>
    rcases h.lockers_step hio hs with ⟨rfl, -⟩ | ⟨db', hdisk, -⟩
    · exact ⟨db, st₀, h⟩
    · exact ⟨db', st₀, hdisk⟩

end SmartLocker.System
