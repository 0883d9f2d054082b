import SmartLocker.Lib.Machine
import SmartLocker.Gateway.Persistence
import SmartLocker.System.Confinement

/-!
# The two recovery paths

A fresh `CabinetState` loads the JSON file, or recovers from the database when there is no file.  The
keys of a row are the names of the columns, so that the code that reads a recovered cabinet by the
names of memory (`slaveId`, `totalRows`, …) gets its defaults; and a recovered location is any row of
the table.  `recovery_agrees` says for which sequences of saves the two paths give the same answers
whatever order the database returns rows in.
-/

set_option autoImplicit false

namespace SmartLocker.System

open Lib Lib.Machine Lib.Python SmartLocker.Gateway

/-! ## Saves and answers -/

inductive SaveCall where
  | location (location_id name address : PyStr)
  | cabinet (a : CabinetArgs)

def save (io : Storage) (s : Persisted) : SaveCall → Except PyErr Persisted
  | .location location_id name address =>
    s.saveLocation io (.str location_id) (.str name) (.str address)
  | .cabinet a => s.saveCabinet io a

/-- A call that raises ends the run. -/
def saveStep (io : Storage) (s : Persisted) (c : SaveCall) : Option Persisted :=
  match save io s c with
  | .ok s' => some s'
  | .error _ => none

/-- A state with an empty database and no file yet. -/
def freshState : Persisted := ⟨.empty, none, some .empty⟩

/-- What the gateway reads of a location. -/
structure LocationReads where
  id : Json
  name : Json
  address : Json

def locationReads (d : Dict) : LocationReads :=
  ⟨getD d "id" .null, getD d "name" .null, getD d "address" .null⟩

/-- What the command handlers, the door events and the heartbeats read of a cabinet. -/
structure CabinetReads where
  name : Json
  /-- `cab.get("slaveId", 1)`, of a command -/
  commandSlave : Json
  /-- `c.get("slaveId")`, of a door event -/
  eventSlave : Json
  totalRows : Json
  totalColumns : Json
  heartbeatInterval : Json

def cabinetReads (c : Dict) : CabinetReads where
  name := getD c "name" .null
  commandSlave := slaveIdOf c
  eventSlave := getD c "slaveId" .null
  totalRows := getD c "totalRows" (.int 0)
  totalColumns := getD c "totalColumns" (.int 0)
  heartbeatInterval := getD c "heartbeatInterval" (.int 60)

/-- The arguments of a `save_location`. -/
def SaveCall.location? : SaveCall → Option LocationRow
  | .location location_id name address => some ⟨location_id, some name, some address⟩
  | .cabinet _ => none

/-- The row of the last `save_location`. -/
def lastLocation (calls : List SaveCall) : Option LocationRow :=
  (calls.filterMap SaveCall.location?).getLast?

/-- Both paths have the last location that was saved and answer alike for every id and name. -/
def RecoveriesAgree (io : Storage) (scan : Scan) (calls : List SaveCall) (s : Persisted) : Prop :=
  ∃ a b, load io scan s.file s.db = .ok a ∧ load io scan none s.db = .ok b ∧
    a.location.map locationReads = (lastLocation calls).map (fun l => locationReads l.toDict) ∧
    b.location.map locationReads = (lastLocation calls).map (fun l => locationReads l.toDict) ∧
    (∀ id, (a.getCabinetById id).map cabinetReads = (b.getCabinetById id).map cabinetReads) ∧
    ∀ name, (a.getCabinetByName name).map cabinetReads = (b.getCabinetByName name).map cabinetReads

/-- No `save_cabinet` comes after a `save_location`: none was accepted. -/
def noCabinetStored : List SaveCall → Bool
  | [] => true
  | .cabinet _ :: rest => noCabinetStored rest
  | .location .. :: rest => rest.all (fun c => c.location?.isSome)

/-- Every location was saved under one id. -/
def oneLocation (calls : List SaveCall) : Bool :=
  (calls.filterMap SaveCall.location?).all fun l =>
    (calls.filterMap SaveCall.location?).all fun l' => l.id == l'.id

/-! ## What saves keep -/

theorem lastLocation_location (calls : List SaveCall) (i n a : PyStr) :
    lastLocation (calls ++ [.location i n a]) = some ⟨i, some n, some a⟩ := by
  simp [lastLocation, SaveCall.location?]

theorem lastLocation_cabinet (calls : List SaveCall) (a : CabinetArgs) :
    lastLocation (calls ++ [.cabinet a]) = lastLocation calls := by
  simp [lastLocation, SaveCall.location?]

theorem noCabinetStored_location (calls : List SaveCall) (i n a : PyStr) :
    noCabinetStored (calls ++ [.location i n a]) = noCabinetStored calls := by
  induction calls with
  | nil => rfl
  | cons c calls ih =>
    cases c with
    | location i n a => simp [noCabinetStored, SaveCall.location?]
    | cabinet a => exact ih

/-- A cabinet is accepted when there is a location. -/
theorem noCabinetStored_cabinet (calls : List SaveCall) (a : CabinetArgs) :
    noCabinetStored (calls ++ [.cabinet a]) =
      (noCabinetStored calls && (lastLocation calls).isNone) := by
  induction calls with
  | nil => rfl
  | cons c calls ih =>
    cases c with
    | location i n a => simp [noCabinetStored, SaveCall.location?, lastLocation]
    | cabinet a =>
      have hlast : lastLocation (.cabinet a :: calls) = lastLocation calls := by
        simp [lastLocation, SaveCall.location?]
      rw [hlast]
      exact ih

theorem noCabinetStored_of_none {calls : List SaveCall} (h : lastLocation calls = none) :
    noCabinetStored calls = true := by
  induction calls with
  | nil => rfl
  | cons c calls ih =>
    cases c with
    | location i n a => simp [lastLocation, SaveCall.location?] at h
    | cabinet a => exact ih (by simpa [lastLocation, SaveCall.location?] using h)

/-- Memory, file and tables after the calls `calls`. -/
structure Mirrored (calls : List SaveCall) (s : Persisted) (db : Database) : Prop where
  location : s.state.location = (lastLocation calls).map LocationRow.toDict
  file : s.file = s.state.location.map (fun l => ⟨some l, s.state.allCabinets⟩)
  stored : s.state.cabinets.entries = [] ↔ noCabinetStored calls = true
  keyed : ∀ c ∈ s.state.allCabinets, ∃ x, get? c "slaveId" = some x
  row : ∀ l, lastLocation calls = some l → db.locations.find? l.id = some l
  ids : ∀ i l, db.locations.find? i = some l → l.id = i
  saved : ∀ i, (db.locations.find? i).isSome ↔
    ∃ l ∈ calls.filterMap SaveCall.location?, l.id = i
  tables : s.state.cabinets.entries = [] → db.cabinets.entries = []

theorem mirrored_fresh : Mirrored [] freshState .empty where
  location := rfl
  file := rfl
  stored := by simp [freshState, CabinetState.empty, OrdMap.empty, noCabinetStored]
  keyed := by simp [freshState, CabinetState.allCabinets, CabinetState.empty, OrdMap.empty,
    OrdMap.values]
  row := by simp [lastLocation]
  ids := by simp [Database.empty]
  saved := by simp [Database.empty]
  tables := fun _ => rfl

theorem insert_entries_ne_nil {κ α : Type} [DecidableEq κ] (m : OrdMap κ α) (k : κ) (v : α) :
    (m.insert k v).entries ≠ [] :=
  List.ne_nil_of_mem (m.mem_entries_insert.mpr (Or.inl ⟨rfl, rfl⟩))

theorem mem_values {κ α : Type} [DecidableEq κ] (m : OrdMap κ α) {v : α} :
    v ∈ m.values ↔ ∃ k, m.find? k = some v := by
  simp only [OrdMap.values, List.mem_map, Prod.exists, exists_eq_right, m.mem_entries_iff]

/-- **One `save_location`.** -/
theorem Mirrored.location_step {io : Storage} {calls : List SaveCall} {s s' : Persisted}
    {db : Database} {i n a : PyStr} (hdb : s.db = some db) (h : Mirrored calls s db)
    (hs : s.saveLocation io (.str i) (.str n) (.str a) = .ok s') :
    ∃ db', s'.db = some db' ∧ Mirrored (calls ++ [.location i n a]) s' db' := by
  obtain ⟨hstate, hfile, hdb'⟩ := Persisted.saveLocation_ok hdb hs
  have hcabinets : s'.state.cabinets = s.state.cabinets := by rw [hstate]; rfl
  have hlocation : s'.state.location = some (LocationRow.toDict ⟨i, some n, some a⟩) := by
    rw [hstate]
    rfl
  refine ⟨_, hdb', ?_⟩
  constructor
  · rw [lastLocation_location, hlocation]
    rfl
  · rw [hfile, hlocation]
    rfl
  · rw [noCabinetStored_location, hcabinets]
    exact h.stored
  · intro c hc
    unfold CabinetState.allCabinets at hc
    rw [hcabinets] at hc
    exact h.keyed c hc
  · intro l hl
    rw [lastLocation_location] at hl
    cases hl
    simp
  · intro j l hl
    dsimp only at hl
    rw [OrdMap.find?_insert] at hl
    split at hl
    · rename_i hj
      cases hl
      exact hj.symm
    · exact h.ids j l hl
  · intro j
    dsimp only
    rw [OrdMap.find?_insert]
    by_cases hj : j = i
    · simp [hj, SaveCall.location?]
    · simp [hj, SaveCall.location?, h.saved j, Ne.symm hj]
  · intro hnil
    rw [hcabinets] at hnil
    exact h.tables hnil

/-- **One `save_cabinet`**, accepted or not. -/
theorem Mirrored.cabinet_step {io : Storage} {calls : List SaveCall} {s s' : Persisted}
    {db : Database} {a : CabinetArgs} (hdb : s.db = some db) (h : Mirrored calls s db)
    (hs : s.saveCabinet io a = .ok s') :
    ∃ db', s'.db = some db' ∧ Mirrored (calls ++ [.cabinet a]) s' db' := by
  rcases Persisted.saveCabinet_ok hdb hs with
    ⟨hnone, rfl⟩ | ⟨l, k, hk, hsome, hstate, hfile, db', hsave, hdb'⟩
  · -- refused
    have hlast : lastLocation calls = none := by
      have := h.location
      rw [hnone] at this
      exact Option.map_eq_none_iff.mp this.symm
    refine ⟨db, hdb, ?_⟩
    constructor
    · rw [lastLocation_cabinet]
      exact h.location
    · exact h.file
    · rw [noCabinetStored_cabinet, hlast]
      simpa using h.stored
    · exact h.keyed
    · rw [lastLocation_cabinet]
      exact h.row
    · exact h.ids
    · simpa [SaveCall.location?] using h.saved
    · exact h.tables
  · -- stored
    have hlocations := Database.saveCabinet_locations hsave
    have hlocation : s'.state.location = s.state.location := by rw [hstate]; rfl
    have hnew : s'.state.cabinets.entries ≠ [] := by
      rw [hstate]
      exact insert_entries_ne_nil _ _ _
    refine ⟨db', hdb', ?_⟩
    constructor
    · rw [lastLocation_cabinet, hlocation]
      exact h.location
    · rw [hfile, hlocation]
      obtain ⟨loc, hloc⟩ := Option.isSome_iff_exists.mp hsome
      rw [hloc]
      rfl
    · have hlast : (lastLocation calls).isNone = false := by
        have := h.location
        cases hl : lastLocation calls with
        | none => rw [this, hl] at hsome; cases hsome
        | some l => rfl
      rw [noCabinetStored_cabinet, hlast]
      simpa using hnew
    · intro c hc
      obtain ⟨k', hk'⟩ := CabinetState.mem_allCabinets.mp hc
      rw [hstate] at hk'
      rcases (OrdMap.mem_entries_insert _).mp hk' with ⟨-, rfl⟩ | ⟨-, hold⟩
      · exact ⟨a.slave_id, by simp [cabinetData]⟩
      · exact h.keyed c (CabinetState.mem_allCabinets.mpr ⟨k', hold⟩)
    · rw [lastLocation_cabinet, hlocations]
      exact h.row
    · rw [hlocations]
      exact h.ids
    · rw [hlocations]
      simpa [SaveCall.location?] using h.saved
    · exact fun hnil => absurd hnil hnew

/-- **A run of saves**: memory, file and tables mirror the calls. -/
theorem mirrored_run {io : Storage} {calls : List SaveCall} {s : Persisted}
    (h : run (saveStep io) freshState calls = some s) : ∃ db, s.db = some db ∧ Mirrored calls s db := by
  refine run_history (I := fun past s => ∃ db, s.db = some db ∧ Mirrored past s db) ?_ calls []
    freshState s ⟨.empty, rfl, mirrored_fresh⟩ h
  rintro past s c s' ⟨db, hdb, hm⟩ hs
  have hok : save io s c = .ok s' := by
    unfold saveStep at hs
    cases hsave : save io s c with
    | error e => rw [hsave] at hs; cases hs
    | ok t => rw [hsave] at hs; cases hs; rfl
  cases c with
  | location i n a => exact hm.location_step hdb hok
  | cabinet a => exact hm.cabinet_step hdb hok

/-! ## What the two loads give -/

/-- The file holds memory, once a location is saved. -/
theorem Mirrored.file_eq {calls : List SaveCall} {s : Persisted} {db : Database}
    (h : Mirrored calls s db) (hlast : (lastLocation calls).isSome) :
    s.file = some ⟨s.state.location, s.state.allCabinets⟩ := by
  obtain ⟨l, hl⟩ := Option.isSome_iff_exists.mp hlast
  have hlocation := h.location
  rw [hl] at hlocation
  rw [h.file, hlocation]
  rfl

/-- A cabinet that is in memory is read otherwise after a recovery from the tables. -/
theorem Mirrored.cabinet_differs {calls : List SaveCall} {s : Persisted} {db : Database}
    (h : Mirrored calls s db) (io : Storage) (scan : Scan) (hsome : s.state.cabinets.entries ≠ [])
    (hlast : (lastLocation calls).isSome) (hdb : s.db = some db) :
    ¬ RecoveriesAgree io scan calls s := by
  rintro ⟨a, b, ha, hb, -, -, hreads, -⟩
  rw [hdb] at ha hb
  rw [h.file_eq hlast] at ha
  obtain ⟨-, hcabinets⟩ := load_file ha
  obtain ⟨-, hrows⟩ := load_tables hb
  obtain ⟨⟨k, c⟩, hmem⟩ := List.exists_mem_of_ne_nil _ hsome
  obtain ⟨x, hx⟩ := h.keyed c (CabinetState.mem_allCabinets.mpr ⟨k, hmem⟩)
  have hfound : a.getCabinetById k = some c := by
    rw [CabinetState.getCabinetById, hcabinets]
    exact (OrdMap.mem_entries_iff _).mp hmem
  have hk := hreads k
  rw [hfound] at hk
  cases hbk : b.getCabinetById k with
  | none => rw [hbk] at hk; cases hk
  | some c' =>
    rw [hbk] at hk
    obtain ⟨r, -, rfl⟩ := hrows k c' ((OrdMap.mem_entries_iff _).mpr hbk)
    have hreads' : cabinetReads c = cabinetReads r.toDict := by simpa using hk
    -- the command reads the default of `get`, the door event reads none
    have hcommand : slaveIdOf c = .int 1 := by
      have := congrArg CabinetReads.commandSlave hreads'
      simpa [cabinetReads, slaveIdOf, getD, CabinetRow.toDict] using this
    have hevent : getD c "slaveId" .null = .null := by
      have := congrArg CabinetReads.eventSlave hreads'
      simpa [cabinetReads, getD, CabinetRow.toDict] using this
    simp only [slaveIdOf, getD, hx, Option.getD_some] at hcommand hevent
    rw [hevent] at hcommand
    cases hcommand

/-- The rows of the table are saved locations. -/
theorem Mirrored.row_id {calls : List SaveCall} {s : Persisted} {db : Database}
    (h : Mirrored calls s db) {l : LocationRow} (hl : l ∈ db.locations.values) :
    db.locations.find? l.id = some l ∧ ∃ l' ∈ calls.filterMap SaveCall.location?, l'.id = l.id := by
  obtain ⟨i, hi⟩ := (mem_values _).mp hl
  have hid := h.ids i l hi
  subst hid
  exact ⟨hi, (h.saved _).mp (by rw [hi]; rfl)⟩

/-- The row that comes back first is one of the table. -/
theorem first_mem {scan : Scan} {rows : List LocationRow} {r : LocationRow}
    (h : (scan.locations rows).head? = some r) : r ∈ rows :=
  (scan.locations_perm rows).mem_iff.mp (List.mem_of_mem_head? h)

theorem Mirrored.no_rows {calls : List SaveCall} {s : Persisted} {db : Database}
    (h : Mirrored calls s db) (scan : Scan) (hnone : lastLocation calls = none) :
    (scan.locations db.locations.values).head? = none := by
  by_contra hsome
  obtain ⟨r, hr⟩ := Option.ne_none_iff_exists'.mp hsome
  obtain ⟨-, l, hl, -⟩ := h.row_id (first_mem hr)
  rw [List.getLast?_eq_none_iff.mp hnone] at hl
  cases hl

/-- Without cabinets both paths answer alike if and only if the row that comes back first is the last
saved location. -/
theorem Mirrored.no_cabinet {calls : List SaveCall} {s : Persisted} {db : Database}
    (h : Mirrored calls s db) (io : Storage) (scan : Scan) (hnone : s.state.cabinets.entries = [])
    (hdb : s.db = some db) :
    RecoveriesAgree io scan calls s ↔
      ((scan.locations db.locations.values).head?.map fun l => locationReads l.toDict) =
        (lastLocation calls).map fun l => locationReads l.toDict := by
  obtain ⟨b, hb⟩ := load_tables_ok io scan (h.tables hnone)
  obtain ⟨hblocation, hrows⟩ := load_tables hb
  have hread : b.location.map locationReads =
      (scan.locations db.locations.values).head?.map fun l => locationReads l.toDict := by
    rw [hblocation, Database.getLocation, Option.map_map]
    rfl
  have hbnone : b.cabinets.entries = [] := by
    rw [List.eq_nil_iff_forall_not_mem]
    rintro ⟨k, c⟩ hc
    obtain ⟨r, hr, -⟩ := hrows k c hc
    simp [OrdMap.values, h.tables hnone] at hr
  -- the load from the file, or from the tables when no file was written
  have hfile : ∃ a, load io scan s.file (some db) = .ok a ∧ a.cabinets.entries = [] ∧
      (a.location.map locationReads = (lastLocation calls).map fun l => locationReads l.toDict) := by
    cases hl : lastLocation calls with
    | none =>
      have hsfile : s.file = none := by rw [h.file, h.location, hl]; rfl
      rw [hsfile]
      refine ⟨b, hb, hbnone, ?_⟩
      rw [hread, h.no_rows scan hl]
    | some l =>
      obtain ⟨a, ha⟩ := load_file_ok io scan (Or.inr hnone)
      obtain ⟨halocation, hacabinets⟩ := load_file ha
      refine ⟨a, by rw [h.file_eq (by rw [hl]; rfl), ha], by rw [hacabinets, hnone], ?_⟩
      rw [halocation, h.location, hl]
      rfl
  obtain ⟨a, ha, hanone, halocation⟩ := hfile
  have hlookup : ∀ (st : CabinetState), st.cabinets.entries = [] →
      (∀ id, st.getCabinetById id = none) ∧ ∀ name, st.getCabinetByName name = none := by
    intro st hst
    constructor
    · intro id
      simp [CabinetState.getCabinetById, OrdMap.find?, hst]
    · intro name
      simp [CabinetState.getCabinetByName, CabinetState.allCabinets, OrdMap.values, hst]
  constructor
  · rintro ⟨a', b', -, hb', -, hlast, -, -⟩
    rw [hdb, hb] at hb'
    cases hb'
    rw [← hread, hlast]
  · intro heq
    refine ⟨a, b, by rw [hdb, ha], by rw [hdb, hb], halocation, by rw [hread, heq], ?_, ?_⟩
    · intro id
      rw [(hlookup a hanone).1, (hlookup b hbnone).1]
    · intro name
      rw [(hlookup a hanone).2, (hlookup b hbnone).2]

/-- Rows in an order that brings those with `p` to the front. -/
def Scan.bringing (p : LocationRow → Bool) : Scan :=
  { Scan.inserted with
    locations := fun l => l.filter p ++ l.filter (fun r => !p r)
    locations_perm := fun l => List.filter_append_perm p l }

theorem Scan.bringing_head {p : LocationRow → Bool} {rows : List LocationRow} {r : LocationRow}
    (hr : r ∈ rows) (hp : p r = true) :
    ∃ x, ((bringing p).locations rows).head? = some x ∧ p x = true := by
  have hmem : r ∈ rows.filter p := List.mem_filter.mpr ⟨hr, hp⟩
  cases hf : rows.filter p with
  | nil => rw [hf] at hmem; cases hmem
  | cons x xs =>
    have hx : x ∈ rows.filter p := hf ▸ List.mem_cons_self
    refine ⟨x, ?_, (List.mem_filter.mp hx).2⟩
    simp only [bringing, hf, List.cons_append, List.head?_cons]

theorem oneLocation_iff {calls : List SaveCall} : oneLocation calls = true ↔
    ∀ l ∈ calls.filterMap SaveCall.location?, ∀ l' ∈ calls.filterMap SaveCall.location?,
      l.id = l'.id := by
  unfold oneLocation
  simp only [List.all_eq_true, beq_iff_eq]

/-- When every order brings the last saved location first, every location has its id. -/
theorem Mirrored.id_of_first {calls : List SaveCall} {s : Persisted} {db : Database}
    (h : Mirrored calls s db)
    (hall : ∀ scan : Scan,
      ((scan.locations db.locations.values).head?.map fun l => locationReads l.toDict) =
        (lastLocation calls).map fun l => locationReads l.toDict)
    {m : LocationRow} (hm : m ∈ calls.filterMap SaveCall.location?) :
    ∃ e, lastLocation calls = some e ∧ m.id = e.id := by
  obtain ⟨r, hr⟩ := Option.isSome_iff_exists.mp ((h.saved m.id).mpr ⟨m, hm, rfl⟩)
  obtain ⟨x, hx, hxm⟩ := Scan.bringing_head (p := fun l => l.id == m.id)
    ((mem_values _).mpr ⟨_, hr⟩) (by simp [h.ids m.id r hr])
  have hfirst := hall (Scan.bringing fun l => l.id == m.id)
  rw [hx] at hfirst
  obtain ⟨e, he, hreads⟩ := Option.map_eq_some_iff.mp hfirst.symm
  have hid : e.id = x.id := by
    have := congrArg LocationReads.id hreads
    simpa [locationReads, LocationRow.toDict, getD] using this
  exact ⟨e, he, (beq_iff_eq.mp hxm).symm.trans hid.symm⟩

/-- **Whatever the order of the rows**, the first is the last saved location if and only if all were
saved under one id. -/
theorem Mirrored.first_row {calls : List SaveCall} {s : Persisted} {db : Database}
    (h : Mirrored calls s db) :
    (∀ scan : Scan,
      ((scan.locations db.locations.values).head?.map fun l => locationReads l.toDict) =
        (lastLocation calls).map fun l => locationReads l.toDict) ↔ oneLocation calls = true := by
  rw [oneLocation_iff]
  constructor
  · intro hall l hl l' hl'
    obtain ⟨e, he, hle⟩ := h.id_of_first hall hl
    obtain ⟨e', he', hle'⟩ := h.id_of_first hall hl'
    rw [he] at he'
    cases he'
    exact hle.trans hle'.symm
  · intro hsame scan
    cases he : lastLocation calls with
    | none => rw [h.no_rows scan he, Option.map_none]
    | some e =>
      have hrow := h.row e he
      have hemem : e ∈ calls.filterMap SaveCall.location? := List.mem_of_getLast? he
      have hne : scan.locations db.locations.values ≠ [] :=
        List.ne_nil_of_mem ((scan.locations_perm _).mem_iff.mpr ((mem_values _).mpr ⟨_, hrow⟩))
      obtain ⟨r, hr⟩ := Option.isSome_iff_exists.mp (List.isSome_head?.mpr hne)
      obtain ⟨hrfind, l, hl, hlr⟩ := h.row_id (first_mem hr)
      have hid : r.id = e.id := hlr.symm.trans (hsame l hl e hemem)
      rw [hid, hrow] at hrfind
      cases hrfind
      rw [hr]

/-- **The recovery paths agree, exactly**: for every order of the rows, if and only if no cabinet was
stored and all locations had one id. -/
theorem recovery_agrees (io : Storage) (calls : List SaveCall) (s : Persisted)
    (h : run (saveStep io) freshState calls = some s) :
    (∀ scan, RecoveriesAgree io scan calls s) ↔
      noCabinetStored calls = true ∧ oneLocation calls = true := by
  obtain ⟨db, hdb, hm⟩ := mirrored_run h
  constructor
  · intro hall
    have hnone : s.state.cabinets.entries = [] := by
      by_contra hsome
      have hlast : (lastLocation calls).isSome := by
        by_contra hno
        exact hsome (hm.stored.mpr (noCabinetStored_of_none (by simpa using hno)))
      exact hm.cabinet_differs io Scan.inserted hsome hlast hdb (hall _)
    exact ⟨hm.stored.mp hnone,
      hm.first_row.mp fun scan => (hm.no_cabinet io scan hnone hdb).mp (hall scan)⟩
  · rintro ⟨hcabinet, hone⟩ scan
    have hnone := hm.stored.mpr hcabinet
    exact (hm.no_cabinet io scan hnone hdb).mpr (hm.first_row.mpr hone scan)

/-- PostgreSQL for strings, 32-bit integers and booleans, and a file that can be written. -/
def sampleStorage : Storage where
  adapt := fun v =>
    match v with
    | .str s =>
      if (Utf8.encode s).isSome && !s.contains (.uni (Char.ofNat 0)) then .ok ()
      else .error (.raised .ValueError)
    | .obj _ => .error .logged
    | _ => .ok ()
  adapt_str := by
    intro s
    dsimp only
    split
    · exact Or.inl rfl
    · exact Or.inr ⟨_, rfl⟩
  text := fun v =>
    match v with
    | .str s => .ok (some s)
    | .null => .ok none
    | _ => .error .logged
  integer := fun v =>
    match v with
    | .int n => if -2147483648 ≤ n ∧ n ≤ 2147483647 then .ok (some n) else .error .logged
    | .null => .ok none
    | _ => .error .logged
  boolean := fun v =>
    match v with
    | .bool b => .ok (some b)
    | .null => .ok none
    | _ => .error .logged
  text_str _ := rfl
  dump := fun _ _ => .ok ()

/-- `recovery_agrees` at a location that is saved twice, under one id. -/
theorem recovery_agrees_renamed :
    ∃ s, run (saveStep sampleStorage) freshState
        [.location (py "loc") (py "Hall") (py ""), .location (py "loc") (py "Lobby") (py "1 Main St")] =
          some s ∧
      ∀ scan, RecoveriesAgree sampleStorage scan
        [.location (py "loc") (py "Hall") (py ""), .location (py "loc") (py "Lobby") (py "1 Main St")]
        s :=
  ⟨_, rfl, (recovery_agrees sampleStorage _ _ rfl).mpr (by decide +kernel)⟩

/-- A location and cabinet `A` on slave 2. -/
def sampleSaves : List SaveCall :=
  [.location (py "loc") (py "Hall") (py ""),
    .cabinet ⟨.lit "id-a", .lit "A", .int 1, .int 3, .int 2, .int 60, .bool true⟩]

/-- **Recovered from the database, cabinet `A` is on the default slave**: the message to open slot 0,
which goes to slave 2 after a load from the file, goes to slave 1. -/
theorem recovered_cabinet_on_default_slave :
    ∃ s a b, run (saveStep sampleStorage) freshState sampleSaves = some s ∧
      load sampleStorage Scan.inserted s.file s.db = .ok a ∧
      load sampleStorage Scan.inserted none s.db = .ok b ∧
      busWrites (handleIncomingMessage sampleOutside a [] (Handled.openLocker.topic (py "A"))
        (some (.obj [(py "slotIndex", .int 0)]))).effects = ["\n\nS2:O0\n".toUTF8.toList] ∧
      busWrites (handleIncomingMessage sampleOutside b [] (Handled.openLocker.topic (py "A"))
        (some (.obj [(py "slotIndex", .int 0)]))).effects = ["\n\nS1:O0\n".toUTF8.toList] ∧
      ¬ RecoveriesAgree sampleStorage Scan.inserted sampleSaves s := by
  refine ⟨_, _, _, rfl, rfl, rfl, by decide +kernel, by decide +kernel, ?_⟩
  have hrun : run (saveStep sampleStorage) freshState sampleSaves = some _ := rfl
  obtain ⟨db, hdb, hm⟩ := mirrored_run hrun
  have hstored : ¬ noCabinetStored sampleSaves = true := by decide
  exact hm.cabinet_differs _ Scan.inserted (fun hnil => hstored (hm.stored.mp hnil)) rfl hdb

end SmartLocker.System
