import SmartLocker.Lib.Machine
import SmartLocker.Gateway.CabinetState

/-!
# The two copies of the state

`CabinetState` writes what it saves to a JSON file and, through `DatabaseManager`, to PostgreSQL.  A
fresh one loads the file and, when the file gives nothing, recovers from the tables.  The file holds
the dicts of memory; a row has columns of its own names, and `get_cabinets` returns the rows as dicts
of those names.

Outside the repository: what a column makes of a value, what `json.dump` raises, and the order in which
a `SELECT` without `ORDER BY` returns the rows.  The server and the disk work: a statement is refused
only for its values, and the file can be written.  The column `updated_at`, which nothing reads, is
left out.
-/

set_option autoImplicit false

namespace SmartLocker.Gateway

open Lib Lib.Machine Lib.Python

/-! ## The database -/

/-- How a statement fails: with a `psycopg2.Error`, which is caught and logged, or with another
exception. -/
inductive DbErr where
  | logged
  | raised (e : PyErr)

/-- What is outside the repository when the state is written. -/
structure Storage where
  /-- psycopg2 makes SQL of an argument; it has no adapter for some types, which is a
  `psycopg2.Error` -/
  adapt : Json → Except DbErr Unit
  /-- A string has an adapter, which may raise (a NUL, a lone surrogate). -/
  adapt_str : ∀ s, adapt (.str s) = .ok () ∨ ∃ e, adapt (.str s) = .error (.raised e)
  /-- what a column of each type stores for an argument that came through, `none` for NULL -/
  text : Json → Except DbErr (Option PyStr)
  integer : Json → Except DbErr (Option Int)
  boolean : Json → Except DbErr (Option Bool)
  /-- A TEXT column stores every string. -/
  text_str : ∀ s, text (.str s) = .ok (some s)
  /-- what `json.dump` raises for a location and cabinets (I/O errors are caught) -/
  dump : Option Dict → List Dict → Except PyErr Unit

/-- `cursor.execute` adapts the arguments in their order; the server sees them after the last. -/
def Storage.adaptAll (io : Storage) (args : List Json) : Except DbErr Unit := args.forM io.adapt

structure LocationRow where
  id : PyStr
  name : Option PyStr
  address : Option PyStr

structure CabinetRow where
  id : PyStr
  location_id : Option PyStr
  name : Option PyStr
  total_rows : Option Int
  total_columns : Option Int
  slave_id : Option Int
  heartbeat_interval : Option Int
  is_synced : Option Bool

structure LockerRow where
  id : PyStr
  cabinet_id : Option PyStr
  slot_index : Option Int
  locker_label : Option PyStr

/-- A value of a column, as psycopg2 returns it. -/
def ofText (v : Option PyStr) : Json := v.elim .null .str

def ofInteger (v : Option Int) : Json := v.elim .null .int

def ofBoolean (v : Option Bool) : Json := v.elim .null .bool

/-- `dict(row)`. -/
def LocationRow.toDict (r : LocationRow) : Dict :=
  [(py "id", .str r.id), (py "name", ofText r.name), (py "address", ofText r.address)]

def CabinetRow.toDict (r : CabinetRow) : Dict :=
  [(py "id", .str r.id), (py "location_id", ofText r.location_id), (py "name", ofText r.name),
    (py "total_rows", ofInteger r.total_rows), (py "total_columns", ofInteger r.total_columns),
    (py "slave_id", ofInteger r.slave_id),
    (py "heartbeat_interval", ofInteger r.heartbeat_interval), (py "is_synced", ofBoolean r.is_synced)]

def LockerRow.toDict (r : LockerRow) : Dict :=
  [(py "id", .str r.id), (py "cabinet_id", ofText r.cabinet_id),
    (py "slot_index", ofInteger r.slot_index), (py "locker_label", ofText r.locker_label)]

/-- The tables, by primary key. -/
structure Database where
  locations : OrdMap PyStr LocationRow
  cabinets : OrdMap PyStr CabinetRow
  lockers : OrdMap PyStr LockerRow

def Database.empty : Database := ⟨.empty, .empty, .empty⟩

/-- The order in which the rows of each table come back. -/
structure Scan where
  locations : List LocationRow → List LocationRow
  cabinets : List CabinetRow → List CabinetRow
  lockers : List LockerRow → List LockerRow
  locations_perm : ∀ l, (locations l).Perm l
  cabinets_perm : ∀ l, (cabinets l).Perm l
  lockers_perm : ∀ l, (lockers l).Perm l

/-- Rows in the order in which they were inserted. -/
def Scan.inserted : Scan := ⟨id, id, id, fun _ => .rfl, fun _ => .rfl, fun _ => .rfl⟩

/-- The `try` around a statement: a `psycopg2.Error` leaves the tables as they were. -/
def committed (db : Database) : Except DbErr Database → Except PyErr Database
  | .ok db' => .ok db'
  | .error .logged => .ok db
  | .error (.raised e) => .error e

/-- The row of the values of `INSERT INTO locations`; a primary key is not NULL. -/
def locationRow (io : Storage) (data : Dict) : Except DbErr LocationRow := do
  io.adaptAll [getD data "id" .null, getD data "name" .null, getD data "address" .null]
  let id ← io.text (getD data "id" .null)
  let name ← io.text (getD data "name" .null)
  let address ← io.text (getD data "address" .null)
  match id with
  | none => .error .logged
  | some id => .ok ⟨id, name, address⟩

/-- The row of the values of `INSERT INTO cabinets`. -/
def cabinetRow (io : Storage) (data : Dict) : Except DbErr CabinetRow := do
  io.adaptAll [getD data "id" .null, getD data "locationId" .null, getD data "name" .null,
    getD data "totalRows" (.int 0), getD data "totalColumns" (.int 0), getD data "slaveId" .null,
    getD data "heartbeatInterval" (.int 60), getD data "isSynced" (.bool false)]
  let id ← io.text (getD data "id" .null)
  let location_id ← io.text (getD data "locationId" .null)
  let name ← io.text (getD data "name" .null)
  let total_rows ← io.integer (getD data "totalRows" (.int 0))
  let total_columns ← io.integer (getD data "totalColumns" (.int 0))
  let slave_id ← io.integer (getD data "slaveId" .null)
  let heartbeat_interval ← io.integer (getD data "heartbeatInterval" (.int 60))
  let is_synced ← io.boolean (getD data "isSynced" (.bool false))
  match id with
  | none => .error .logged
  | some id => .ok ⟨id, location_id, name, total_rows, total_columns, slave_id, heartbeat_interval,
      is_synced⟩

namespace Database

/-- `ON CONFLICT (id) DO UPDATE`. -/
def upsertLocation (db : Database) (r : LocationRow) : Except DbErr Database :=
  .ok { db with locations := db.locations.insert r.id r }

/-- `ON CONFLICT (id) DO UPDATE`; `location_id` refers to `locations`. -/
def upsertCabinet (db : Database) (r : CabinetRow) : Except DbErr Database :=
  if (r.location_id.all fun l => (db.locations.find? l).isSome) then
    .ok { db with cabinets := db.cabinets.insert r.id r }
  else .error .logged

def saveLocation (io : Storage) (db : Database) (data : Dict) : Except PyErr Database :=
  committed db (locationRow io data >>= db.upsertLocation)

/-- `SELECT * FROM locations LIMIT 1`. -/
def getLocation (scan : Scan) (db : Database) : Option Dict :=
  (scan.locations db.locations.values).head?.map LocationRow.toDict

def saveCabinet (io : Storage) (db : Database) (data : Dict) : Except PyErr Database :=
  committed db (cabinetRow io data >>= db.upsertCabinet)

def getCabinets (scan : Scan) (db : Database) : List Dict :=
  (scan.cabinets db.cabinets.values).map CabinetRow.toDict

/-- The rows of a cabinet. -/
def lockerRows (scan : Scan) (db : Database) (id : PyStr) : List LockerRow :=
  scan.lockers (db.lockers.values.filter (fun r => r.cabinet_id == some id))

/-- `SELECT * FROM lockers WHERE cabinet_id = …`, `[]` after a `psycopg2.Error`: only a string can equal
a TEXT column. -/
def getLockers (io : Storage) (scan : Scan) (db : Database) : Key → Except PyErr (List LockerRow)
  | .str id =>
    match io.adapt (.str id) with
    | .ok _ => .ok (db.lockerRows scan id)
    | .error .logged => .ok []
    | .error (.raised e) => .error e
  | _ => .ok []

end Database

/-! ## Saving -/

/-- What `_save_to_json` writes. -/
structure StateData where
  location : Option Dict
  cabinets : List Dict

/-- A `CabinetState` with its file and its database. -/
structure Persisted where
  state : CabinetState
  file : Option StateData
  db : Option Database

/-- `if self._db: …`. -/
def withDb (db : Option Database) (f : Database → Except PyErr Database) :
    Except PyErr (Option Database) :=
  match db with
  | none => .ok none
  | some db => (f db).map some

namespace Persisted

/-- `_save_to_json`. -/
def saveToJson (io : Storage) (s : Persisted) : Except PyErr Persisted := do
  io.dump s.state.location s.state.allCabinets
  .ok { s with file := some ⟨s.state.location, s.state.allCabinets⟩ }

def saveLocation (io : Storage) (s : Persisted) (location_id name address : Json) :
    Except PyErr Persisted := do
  let db ← withDb s.db (fun db => db.saveLocation io (locationData location_id name address))
  saveToJson io ⟨s.state.saveLocation location_id name address, s.file, db⟩

def saveCabinet (io : Storage) (s : Persisted) (a : CabinetArgs) : Except PyErr Persisted :=
  match s.state.location with
  | none => .ok s
  | some loc => do
    let state ← s.state.saveCabinet a
    let locationId ← item loc "id"
    let db ← withDb s.db (fun db => db.saveCabinet io (cabinetData locationId a))
    saveToJson io ⟨state, s.file, db⟩

end Persisted

/-! ## Loading -/

/-- `{c["id"]: c for c in cabinets}`, on top of the cabinets of `st`. -/
def CabinetState.restore : List Dict → CabinetState → Except PyErr CabinetState
  | [], st => .ok st
  | c :: rest, st =>
    match h : idKey c with
    | .error e => .error e
    | .ok k => restore rest (st.store k c h)

/-- `{l["slot_index"]: l for l in lockers}`. -/
def lockersBySlot (rows : List LockerRow) : OrdMap Key Dict :=
  OrdMap.ofList (rows.map fun r => (r.slot_index.elim .none (fun n => .num (.fin n)), r.toDict))

/-- The lockers of each cabinet, by `slot_index`, if there is a database. -/
def lockersOf (io : Storage) (scan : Scan) : Option Database → List Key →
    Except PyErr (OrdMap Key (OrdMap Key Dict))
  | none, _ => .ok .empty
  | some db, ids =>
    (ids.mapM fun id => (db.getLockers io scan id).map fun rows => (id, lockersBySlot rows)).map
      OrdMap.ofList

/-- The data of the file, else of the tables when these have a location. -/
def loadedData (scan : Scan) (file : Option StateData) (db : Option Database) : Option StateData :=
  file <|> db.bind fun db => (db.getLocation scan).map fun loc => ⟨some loc, db.getCabinets scan⟩

/-- A state with restored cabinets, and the location and the lockers that go with them. -/
def CabinetState.loaded (io : Storage) (scan : Scan) (location : Option Dict) (db : Option Database)
    (st : CabinetState) : Except PyErr CabinetState :=
  (lockersOf io scan db (st.cabinets.entries.map Prod.fst)).map fun lockers =>
    { st with location := location, lockers := lockers }

/-- `load`, of a fresh `CabinetState`: `get_lockers` may raise. -/
def load (io : Storage) (scan : Scan) (file : Option StateData) (db : Option Database) :
    Except PyErr CabinetState :=
  match loadedData scan file db with
  | none => .ok .empty
  | some data => do
    let st ← CabinetState.restore data.cabinets .empty
    st.loaded io scan data.location db

/-! ## What a save changes -/

theorem committed_ok {db db' : Database} {r : Except DbErr Database} (h : committed db r = .ok db') :
    r = .ok db' ∨ (r = .error .logged ∧ db' = db) := by
  rcases r with (_ | e) | t
  · exact Or.inr ⟨rfl, (Except.ok.inj h).symm⟩
  · cases h
  · exact Or.inl (congrArg Except.ok (Except.ok.inj h))

theorem Storage.adaptAll_cons (io : Storage) (v : Json) (args : List Json) :
    io.adaptAll (v :: args) = io.adapt v >>= fun _ => io.adaptAll args := rfl

/-- Strings are adapted, or raise. -/
theorem Storage.adaptAll_str (io : Storage) (ss : List PyStr) :
    io.adaptAll (ss.map .str) = .ok () ∨ ∃ e, io.adaptAll (ss.map .str) = .error (.raised e) := by
  induction ss with
  | nil => exact Or.inl rfl
  | cons s ss ih =>
    rw [List.map_cons, io.adaptAll_cons]
    rcases io.adapt_str s with hs | ⟨e, hs⟩
    · rw [hs]
      exact ih
    · rw [hs]
      exact Or.inr ⟨e, rfl⟩

/-- The row of a location that is a string in every column. -/
theorem locationRow_str (io : Storage) (id name address : PyStr) :
    locationRow io (locationData (.str id) (.str name) (.str address)) =
        .ok ⟨id, some name, some address⟩ ∨
      ∃ e, locationRow io (locationData (.str id) (.str name) (.str address)) =
        .error (.raised e) := by
  have hid : getD (locationData (.str id) (.str name) (.str address)) "id" .null = .str id := by
    simp [getD, locationData]
  have hname : getD (locationData (.str id) (.str name) (.str address)) "name" .null =
      .str name := by simp [getD, locationData]
  have haddress : getD (locationData (.str id) (.str name) (.str address)) "address" .null =
      .str address := by simp [getD, locationData]
  unfold locationRow
  rw [hid, hname, haddress, io.text_str, io.text_str, io.text_str]
  rcases io.adaptAll_str [id, name, address] with hargs | ⟨e, hargs⟩
  · simp only [List.map_cons, List.map_nil] at hargs
    rw [hargs]
    exact Or.inl rfl
  · simp only [List.map_cons, List.map_nil] at hargs
    rw [hargs]
    exact Or.inr ⟨e, rfl⟩

/-- A location whose saving does not raise is in the table. -/
theorem Database.saveLocation_ok {io : Storage} {db db' : Database} {id name address : PyStr}
    (h : db.saveLocation io (locationData (.str id) (.str name) (.str address)) = .ok db') :
    db' = { db with locations := db.locations.insert id ⟨id, some name, some address⟩ } := by
  unfold Database.saveLocation at h
  rcases locationRow_str io id name address with hr | ⟨e, hr⟩
  · rw [hr] at h
    exact (Except.ok.inj h).symm
  · rw [hr] at h
    cases h

/-- Saving a cabinet leaves the other tables. -/
theorem Database.saveCabinet_locations {io : Storage} {db db' : Database} {data : Dict}
    (h : db.saveCabinet io data = .ok db') : db'.locations = db.locations := by
  rcases committed_ok h with hr | ⟨-, rfl⟩
  · obtain ⟨r, -, hup⟩ := except_bind_ok.mp hr
    unfold upsertCabinet at hup
    split at hup
    · cases hup
      rfl
    · cases hup
  · rfl

theorem Persisted.saveToJson_ok {io : Storage} {s s' : Persisted} (h : s.saveToJson io = .ok s') :
    s' = { s with file := some ⟨s.state.location, s.state.allCabinets⟩ } := by
  obtain ⟨-, -, hs'⟩ := except_bind_ok.mp h
  exact (Except.ok.inj hs').symm

theorem withDb_some {db : Database} {f : Database → Except PyErr Database} {r : Option Database}
    (h : withDb (some db) f = .ok r) : ∃ db', f db = .ok db' ∧ r = some db' := by
  change (f db).map some = .ok r at h
  cases hf : f db with
  | error e => rw [hf] at h; cases h
  | ok db' => rw [hf] at h; exact ⟨db', rfl, (Except.ok.inj h).symm⟩

/-- What a call of `save_location` with strings does, with a database. -/
theorem Persisted.saveLocation_ok {io : Storage} {s s' : Persisted} {db : Database}
    {id name address : PyStr} (hdb : s.db = some db)
    (h : s.saveLocation io (.str id) (.str name) (.str address) = .ok s') :
    s'.state = s.state.saveLocation (.str id) (.str name) (.str address) ∧
      s'.file = some ⟨s'.state.location, s'.state.allCabinets⟩ ∧
      s'.db = some { db with
        locations := db.locations.insert id ⟨id, some name, some address⟩ } := by
  obtain ⟨r, hr, hs'⟩ := except_bind_ok.mp h
  rw [hdb] at hr
  obtain ⟨db', hsave, rfl⟩ := withDb_some hr
  have hdb' := Database.saveLocation_ok hsave
  rw [saveToJson_ok hs']
  exact ⟨rfl, rfl, congrArg some hdb'⟩

/-- What a call of `save_cabinet` does, with a database. -/
theorem Persisted.saveCabinet_ok {io : Storage} {s s' : Persisted} {db : Database} {a : CabinetArgs}
    (hdb : s.db = some db) (h : s.saveCabinet io a = .ok s') :
    (s.state.location = none ∧ s' = s) ∨
      ∃ l k, ∃ hk : idKey (cabinetData l a) = .ok k, s.state.location.isSome ∧
        s'.state = s.state.store k (cabinetData l a) hk ∧
        s'.file = some ⟨s'.state.location, s'.state.allCabinets⟩ ∧
        ∃ db', db.saveCabinet io (cabinetData l a) = .ok db' ∧ s'.db = some db' := by
  unfold Persisted.saveCabinet at h
  cases hloc : s.state.location with
  | none =>
    rw [hloc] at h
    exact Or.inl ⟨rfl, (Except.ok.inj h).symm⟩
  | some loc =>
    rw [hloc] at h
    obtain ⟨state, hstate, h⟩ := except_bind_ok.mp h
    obtain ⟨l, hl, h⟩ := except_bind_ok.mp h
    obtain ⟨r, hr, hs'⟩ := except_bind_ok.mp h
    rw [hdb] at hr
    obtain ⟨db', hsave, rfl⟩ := withDb_some hr
    rcases CabinetState.saveCabinet_cases hstate with ⟨hnone, -⟩ | ⟨loc', l', k, hk, hloc', hl', -, rfl⟩
    · rw [hloc] at hnone
      cases hnone
    · rw [hloc] at hloc'
      cases hloc'
      rw [hl] at hl'
      cases hl'
      rw [saveToJson_ok hs']
      exact Or.inr ⟨l, k, hk, rfl, rfl, rfl, db', hsave, rfl⟩

/-! ## What a load finds -/

/-- Only stored or restored cabinets. -/
theorem CabinetState.mem_restore {cs : List Dict} {st st' : CabinetState}
    (h : restore cs st = .ok st') {k : Key} {c : Dict} (hc : (k, c) ∈ st'.cabinets.entries) :
    c ∈ cs ∨ (k, c) ∈ st.cabinets.entries := by
  induction cs generalizing st with
  | nil => cases h; exact Or.inr hc
  | cons c₀ cs ih =>
    rw [restore] at h
    split at h
    · cases h
    · rename_i k₀ hk₀
      rcases ih h with hin | hin
      · exact Or.inl (List.mem_cons_of_mem _ hin)
      · rcases (OrdMap.mem_entries_insert _).mp hin with ⟨-, rfl⟩ | ⟨-, hold⟩
        · exact Or.inl List.mem_cons_self
        · exact Or.inr hold

/-- Cabinets of new and distinct ids are stored behind the others. -/
theorem CabinetState.restore_new (l : List (Key × Dict)) (st : CabinetState)
    (hids : ∀ e ∈ l, idKey e.2 = .ok e.1)
    (hnodup : ((st.cabinets.entries ++ l).map Prod.fst).Nodup) :
    ∃ st', restore (l.map Prod.snd) st = .ok st' ∧
      st'.cabinets.entries = st.cabinets.entries ++ l := by
  induction l generalizing st with
  | nil => exact ⟨st, rfl, by simp⟩
  | cons e l ih =>
    have hid := hids e List.mem_cons_self
    have hnew : e.1 ∉ st.cabinets.entries.map Prod.fst := by
      simp only [List.map_append, List.map_cons, List.nodup_append, List.mem_cons] at hnodup
      exact fun hmem => hnodup.2.2 e.1 hmem e.1 (Or.inl rfl) rfl
    have hentries : (st.store e.1 e.2 hid).cabinets.entries = st.cabinets.entries ++ [e] :=
      OrdMap.set_new hnew e.2
    obtain ⟨st', hst', hst'e⟩ := ih (st.store e.1 e.2 hid)
      (fun e' he' => hids e' (List.mem_cons_of_mem _ he')) (by rw [hentries]; simpa using hnodup)
    refine ⟨st', ?_, by rw [hst'e, hentries]; simp⟩
    rw [List.map_cons, restore]
    split
    · rename_i err herr
      rw [hid] at herr
      cases herr
    · rename_i k hk
      have hke : e.1 = k := by
        rw [hid] at hk
        exact Except.ok.inj hk
      subst hke
      exact hst'

/-- The cabinets of a state, restored, are its cabinets in their order. -/
theorem CabinetState.restore_all (st : CabinetState) :
    ∃ st', restore st.allCabinets .empty = .ok st' ∧ st'.cabinets = st.cabinets := by
  obtain ⟨st', hst', hentries⟩ := restore_new st.cabinets.entries .empty
    (fun e he => st.ids e.1 e.2 he) st.cabinets.nodup
  refine ⟨st', hst', ?_⟩
  cases hc : st'.cabinets
  cases hd : st.cabinets
  simp_all [CabinetState.empty, OrdMap.empty]

/-- Loading the lockers leaves the cabinets. -/
theorem CabinetState.loaded_ok {io : Storage} {scan : Scan} {location : Option Dict}
    {db : Option Database} {st st' : CabinetState} (h : st.loaded io scan location db = .ok st') :
    st'.location = location ∧ st'.cabinets = st.cabinets := by
  unfold loaded at h
  cases hlockers : lockersOf io scan db (st.cabinets.entries.map Prod.fst) with
  | error e => rw [hlockers] at h; cases h
  | ok lockers =>
    rw [hlockers] at h
    cases h
    exact ⟨rfl, rfl⟩

/-- Without a database, or without cabinets, there is nothing to read. -/
theorem CabinetState.loaded_none {io : Storage} {scan : Scan} {location : Option Dict}
    {db : Option Database} {st : CabinetState} (h : db = none ∨ st.cabinets.entries = []) :
    ∃ st', st.loaded io scan location db = .ok st' := by
  unfold CabinetState.loaded
  rcases h with rfl | hnone
  · exact ⟨_, rfl⟩
  · rw [hnone]
    cases db with
    | none => exact ⟨_, rfl⟩
    | some db => exact ⟨_, rfl⟩

/-- A load from the file that a state has written: the lockers are all that can raise. -/
theorem load_written (io : Storage) (scan : Scan) (st : CabinetState) (db : Option Database) :
    ∃ st₀ : CabinetState, st₀.cabinets = st.cabinets ∧
      load io scan (some ⟨st.location, st.allCabinets⟩) db = st₀.loaded io scan st.location db := by
  obtain ⟨st₀, hst₀, hcabinets⟩ := st.restore_all
  refine ⟨st₀, hcabinets, ?_⟩
  show (CabinetState.restore st.allCabinets .empty >>= _) = _
  rw [hst₀]
  rfl

/-- **A load from the file** gives the location and the cabinets that were written. -/
theorem load_file {io : Storage} {scan : Scan} {st st' : CabinetState} {db : Option Database}
    (h : load io scan (some ⟨st.location, st.allCabinets⟩) db = .ok st') :
    st'.location = st.location ∧ st'.cabinets = st.cabinets := by
  obtain ⟨st₀, hcabinets, hload⟩ := load_written io scan st db
  rw [hload] at h
  obtain ⟨hlocation, hst'⟩ := CabinetState.loaded_ok h
  exact ⟨hlocation, hst'.trans hcabinets⟩

/-- It does so without a database, or without cabinets. -/
theorem load_file_ok (io : Storage) (scan : Scan) {st : CabinetState} {db : Option Database}
    (h : db = none ∨ st.cabinets.entries = []) :
    ∃ st', load io scan (some ⟨st.location, st.allCabinets⟩) db = .ok st' := by
  obtain ⟨st₀, hcabinets, hload⟩ := load_written io scan st db
  rw [hload]
  exact CabinetState.loaded_none (h.imp_right fun hnone => by rw [hcabinets, hnone])

/-- **A load from the tables** has the first location that comes back, and of each cabinet the dict
of a row. -/
theorem load_tables {io : Storage} {scan : Scan} {db : Database} {st' : CabinetState}
    (h : load io scan none (some db) = .ok st') : st'.location = db.getLocation scan ∧
      ∀ k c, (k, c) ∈ st'.cabinets.entries → ∃ r ∈ db.cabinets.values, c = r.toDict := by
  cases hloc : db.getLocation scan with
  | none =>
    have hdata : loadedData scan none (some db) = none := by simp [loadedData, hloc]
    rw [load, hdata] at h
    cases h
    refine ⟨rfl, ?_⟩
    intro k c hc
    cases hc
  | some loc =>
    have hdata : loadedData scan none (some db) = some ⟨some loc, db.getCabinets scan⟩ := by
      simp [loadedData, hloc]
    rw [load, hdata] at h
    obtain ⟨st, hst, hload⟩ := except_bind_ok.mp h
    obtain ⟨hlocation, hcabinets⟩ := CabinetState.loaded_ok hload
    refine ⟨hlocation, ?_⟩
    intro k c hc
    rw [hcabinets] at hc
    rcases CabinetState.mem_restore hst hc with hin | hin
    · obtain ⟨r, hr, rfl⟩ := List.mem_map.mp hin
      exact ⟨r, (scan.cabinets_perm _).mem_iff.mp hr, rfl⟩
    · cases hin

/-- It does so without cabinets. -/
theorem load_tables_ok (io : Storage) (scan : Scan) {db : Database} (h : db.cabinets.entries = []) :
    ∃ st', load io scan none (some db) = .ok st' := by
  cases hloc : db.getLocation scan with
  | none =>
    have hdata : loadedData scan none (some db) = none := by simp [loadedData, hloc]
    rw [load, hdata]
    exact ⟨_, rfl⟩
  | some loc =>
    have hdata : loadedData scan none (some db) = some ⟨some loc, db.getCabinets scan⟩ := by
      simp [loadedData, hloc]
    have hcabinets : db.getCabinets scan = [] := by
      have hperm := scan.cabinets_perm []
      unfold Database.getCabinets OrdMap.values
      rw [h, List.map_nil, hperm.eq_nil]
      rfl
    obtain ⟨st', hst'⟩ : ∃ st', CabinetState.empty.loaded io scan (some loc) (some db) = .ok st' :=
      CabinetState.loaded_none (Or.inr rfl)
    refine ⟨st', ?_⟩
    rw [load, hdata, hcabinets]
    exact hst'

end SmartLocker.Gateway
