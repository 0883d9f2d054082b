import SmartLocker.Gateway.Persistence
import SmartLocker.Gateway.SetupHandler

/-!
# The state and its copies when a call raises

`Persistence` follows calls that return.  Here the methods of `CabinetState` run in `EStateM`: an
exception leaves in memory, in the file and in the tables what was written before it.  `save_lockers`
and `clear` are here too, with what they do to the tables.

As there, the server and the disk work.
-/

set_option autoImplicit false

namespace SmartLocker.Gateway

open Lib Lib.Python

/-- The JSON file. -/
inductive StateFile where
  | absent
  | written (data : StateData)
  /-- `json.dump` raised before its end: what is there does not parse -/
  | broken

/-- What `json.load` gives. -/
def StateFile.data : StateFile → Option StateData
  | .written data => some data
  | .absent | .broken => none

/-- What is outside the repository when the state is written, `save_lockers` included. -/
structure StoreOutside extends Storage where
  /-- the string that a TEXT column is compared with for a value; NULL equals nothing -/
  equals : Json → Except DbErr (Option PyStr)

/-! ## The tables -/

/-- An exception of the code inside a `try` for `psycopg2.Error`. -/
def uncaught {α : Type} : Except PyErr α → Except DbErr α
  | .ok a => .ok a
  | .error e => .error (.raised e)

/-- The row of the values of `INSERT INTO lockers`; a primary key is not NULL. -/
def lockerRow (io : StoreOutside) (cabinet_id locker : Json) : Except DbErr LockerRow := do
  let id ← uncaught (locker.subscript "id")
  let slotIndex ← uncaught (locker.subscript "slotIndex")
  let label ← uncaught (locker.subscript "label")
  io.adaptAll [id, cabinet_id, slotIndex, label]
  let id ← io.text id
  let cabinet_id ← io.text cabinet_id
  let slot_index ← io.integer slotIndex
  let locker_label ← io.text label
  match id with
  | none => .error .logged
  | some id => .ok ⟨id, cabinet_id, slot_index, locker_label⟩

namespace Database

/-- `DELETE FROM lockers WHERE cabinet_id = …`. -/
def deleteLockers (db : Database) (cabinet_id : Option PyStr) : Database :=
  { db with lockers := db.lockers.filter (fun _ r => cabinet_id.all fun id => r.cabinet_id != some id) }

/-- A plain `INSERT`: the id is new, and `cabinet_id` refers to `cabinets`. -/
def insertLocker (db : Database) (r : LockerRow) : Except DbErr Database :=
  if (db.lockers.find? r.id).isSome then .error .logged
  else if (r.cabinet_id.all fun id => (db.cabinets.find? id).isSome) then
    .ok { db with lockers := db.lockers.insert r.id r }
  else .error .logged

def saveLockers (io : StoreOutside) (db : Database) (cabinet_id lockers : Json) :
    Except PyErr Database :=
  committed db (do
    io.adaptAll [cabinet_id]
    let id ← io.equals cabinet_id
    let ls ← uncaught lockers.iter
    ls.foldlM (fun db locker => lockerRow io cabinet_id locker >>= db.insertLocker)
      (db.deleteLockers id))

def clearAllState (_ : Database) : Database := .empty

end Database

/-! ## The methods -/

/-- `l["id"]` and the like fail on anything but a dict. -/
def lockerDict : Json → Except PyErr Dict
  | .obj d => .ok d
  | _ => .error .TypeError

/-- `self._lockers[cabinet_id] = …`, for what a payload gives as the lockers. -/
def CabinetState.rememberLockers (st : CabinetState) (cabinet_id lockers : Json) :
    Except PyErr CabinetState := do
  let ls ← lockers.iter
  let ds ← ls.mapM lockerDict
  st.saveLockers cabinet_id ds

/-- A `CabinetState` with its file and its database. -/
structure Store where
  state : CabinetState
  file : StateFile
  db : Option Database

/-- A call of a method: an exception keeps the state it is raised in. -/
abbrev StoreM (α : Type) := EStateM PyErr Store α

/-- The state after a call that returns or raises. -/
def Store.after {α : Type} (s : Store) (call : StoreM α) : Store :=
  match call s with
  | .ok _ s' => s'
  | .error _ s' => s'

namespace StoreM

def ofExcept {α : Type} (r : Except PyErr α) : StoreM α := fun s =>
  match r with
  | .ok a => .ok a s
  | .error e => .error e s

/-- `if self._db: …`: an exception in the `with` block leaves the tables. -/
def withDb (f : Database → Except PyErr Database) : StoreM Unit := fun s =>
  match Gateway.withDb s.db f with
  | .ok db => .ok () { s with db := db }
  | .error e => .error e s

/-- `_save_to_json`: the file is truncated before it is written. -/
def saveToJson (io : StoreOutside) : StoreM Unit := fun s =>
  match io.dump s.state.location s.state.allCabinets with
  | .ok _ => .ok () { s with file := .written ⟨s.state.location, s.state.allCabinets⟩ }
  | .error e => .error e { s with file := .broken }

def saveLocation (io : StoreOutside) (location_id name address : Json) : StoreM Unit := do
  modify fun s => { s with state := s.state.saveLocation location_id name address }
  withDb fun db => db.saveLocation io.toStorage (locationData location_id name address)
  saveToJson io

def saveCabinet (io : StoreOutside) (a : CabinetArgs) : StoreM Unit := do
  match (← get).state.location with
  | none => pure ()
  | some loc =>
    let locationId ← ofExcept (item loc "id")
    let state ← ofExcept ((← get).state.saveCabinet a)
    modify fun s => { s with state := state }
    withDb fun db => db.saveCabinet io.toStorage (cabinetData locationId a)
    saveToJson io

/-- The database is written before the memory; the file has no lockers. -/
def saveLockers (io : StoreOutside) (cabinet_id lockers : Json) : StoreM Unit := do
  withDb fun db => db.saveLockers io cabinet_id lockers
  let state ← ofExcept ((← get).state.rememberLockers cabinet_id lockers)
  modify fun s => { s with state := state }

def clear : StoreM Unit :=
  modify fun s => ⟨s.state.clear, .absent, s.db.map Database.clearAllState⟩

end StoreM

/-! ## What a call leaves -/

namespace Store

variable {α β : Type} (s : Store)

theorem after_ofExcept_bind (r : Except PyErr α) (k : α → StoreM β) :
    s.after (StoreM.ofExcept r >>= k) =
      match r with
      | .ok a => s.after (k a)
      | .error _ => s := by
  cases r <;> rfl

theorem after_withDb_bind (f : Database → Except PyErr Database) (k : Unit → StoreM β) :
    s.after (StoreM.withDb f >>= k) =
      match withDb s.db f with
      | .ok db => Store.after { s with db := db } (k ())
      | .error _ => s := by
  have hbind : (StoreM.withDb f >>= k) s =
      match withDb s.db f with
      | .ok db => k () { s with db := db }
      | .error e => .error e s := by
    show EStateM.bind _ _ s = _
    unfold EStateM.bind StoreM.withDb
    cases withDb s.db f <;> rfl
  unfold after
  rw [hbind]
  cases withDb s.db f <;> rfl

theorem after_get_bind (k : Store → StoreM β) : s.after (get >>= k) = s.after (k s) := rfl

theorem after_modify_bind (f : Store → Store) (k : PUnit → StoreM β) :
    s.after (modify f >>= k) = (f s).after (k ()) := rfl

theorem after_modify (f : Store → Store) : s.after (modify f) = f s := rfl

/-- `json.dump` of a state. -/
def dumped (io : StoreOutside) (st : CabinetState) : StateFile :=
  match io.dump st.location st.allCabinets with
  | .ok _ => .written ⟨st.location, st.allCabinets⟩
  | .error _ => .broken

theorem after_saveToJson (io : StoreOutside) :
    s.after (StoreM.saveToJson io) = { s with file := dumped io s.state } := by
  unfold after StoreM.saveToJson dumped
  cases io.dump s.state.location s.state.allCabinets <;> rfl

/-- The tables and then the file, with the memory `st`. -/
def written (io : StoreOutside) (st : CabinetState) (f : Database → Except PyErr Database) : Store :=
  match withDb s.db f with
  | .ok db => ⟨st, dumped io st, db⟩
  | .error _ => { s with state := st }

theorem after_saveLocation (io : StoreOutside) (location_id name address : Json) :
    s.after (StoreM.saveLocation io location_id name address) =
      s.written io (s.state.saveLocation location_id name address) fun db =>
        db.saveLocation io.toStorage (locationData location_id name address) := by
  unfold StoreM.saveLocation written
  simp only [after_modify_bind, after_withDb_bind, after_saveToJson]

theorem after_saveCabinet (io : StoreOutside) (a : CabinetArgs) :
    s.after (StoreM.saveCabinet io a) =
      match s.state.location with
      | none => s
      | some loc =>
        match item loc "id" with
        | .ok locationId =>
          match s.state.saveCabinet a with
          | .ok st =>
            s.written io st fun db => db.saveCabinet io.toStorage (cabinetData locationId a)
          | .error _ => s
        | .error _ => s := by
  unfold StoreM.saveCabinet written
  rw [after_get_bind]
  cases s.state.location with
  | none => rfl
  | some loc =>
    simp only [after_ofExcept_bind, after_get_bind, after_modify_bind, after_withDb_bind,
      after_saveToJson]
    cases item loc "id" with
    | error e => rfl
    | ok locationId =>
      cases s.state.saveCabinet a with
      | error e => rfl
      | ok st => rfl

theorem after_saveLockers (io : StoreOutside) (cabinet_id lockers : Json) :
    s.after (StoreM.saveLockers io cabinet_id lockers) =
      match withDb s.db (fun db => db.saveLockers io cabinet_id lockers) with
      | .ok db =>
        match s.state.rememberLockers cabinet_id lockers with
        | .ok st => { s with state := st, db := db }
        | .error _ => { s with db := db }
      | .error _ => s := by
  unfold StoreM.saveLockers
  simp only [after_ofExcept_bind, after_get_bind, after_modify, after_withDb_bind]
  cases withDb s.db fun db => db.saveLockers io cabinet_id lockers with
  | error e => rfl
  | ok db =>
    cases s.state.rememberLockers cabinet_id lockers with
    | error e => rfl
    | ok st => rfl

theorem after_clear :
    s.after StoreM.clear = ⟨s.state.clear, .absent, s.db.map Database.clearAllState⟩ := rfl

/-! ## Effects -/

/-- What an effect of a setup run makes of memory, file and tables. -/
def apply (io : StoreOutside) (s : Store) : ServiceEffect → Store
  | .clear => s.after StoreM.clear
  | .saveLocation location_id name address =>
    s.after (StoreM.saveLocation io location_id name address)
  | .saveCabinet a => s.after (StoreM.saveCabinet io a)
  | .saveLockers cabinet_id lockers =>
    s.after (StoreM.saveLockers io cabinet_id (.arr (lockers.map .obj)))
  | _ => s

theorem state_written (io : StoreOutside) (st : CabinetState)
    (f : Database → Except PyErr Database) : (s.written io st f).state = st := by
  unfold written
  split <;> rfl

/-- A list of dicts, as what takes dicts reads it. -/
theorem mapM_obj {f : Json → Except PyErr Dict} (hf : ∀ d, f (.obj d) = .ok d) (lockers : List Dict) :
    (lockers.map Json.obj).mapM f = .ok lockers := by
  induction lockers with
  | nil => rfl
  | cons d lockers ih => rw [List.map_cons, List.mapM_cons, ih, hf]; rfl

theorem rememberLockers_dicts (st : CabinetState) (cabinet_id : Json) (lockers : List Dict) :
    st.rememberLockers cabinet_id (.arr (lockers.map .obj)) = st.saveLockers cabinet_id lockers := by
  have hiter : (Json.arr (lockers.map .obj)).iter = .ok (lockers.map .obj) := rfl
  unfold CabinetState.rememberLockers
  rw [hiter]
  show ((lockers.map Json.obj).mapM lockerDict >>= _) = _
  rw [mapM_obj fun _ => rfl]
  rfl

theorem state_saveCabinet (io : StoreOutside) (a : CabinetArgs) :
    (s.after (StoreM.saveCabinet io a)).state =
      match s.state.saveCabinet a with
      | .ok st => st
      | .error _ => s.state := by
  rw [after_saveCabinet]
  cases hloc : s.state.location with
  | none =>
    have hsave : s.state.saveCabinet a = .ok s.state := by rw [CabinetState.saveCabinet, hloc]
    rw [hsave]
  | some loc =>
    dsimp only
    cases hid : item loc "id" with
    | error e =>
      have hsave : s.state.saveCabinet a = .error e := by simp only [CabinetState.saveCabinet, hloc, hid]
      rw [hsave]
    | ok locationId =>
      cases s.state.saveCabinet a with
      | error e => rfl
      | ok st => exact state_written _ _ _ _

/-- **The memory of a store** follows the effects as `CabinetState.apply` says, unless the tables refuse
the lockers. -/
theorem state_apply (io : StoreOutside) (e : ServiceEffect)
    (hdb : ∀ cabinet_id lockers, e = .saveLockers cabinet_id lockers → ∃ db,
      withDb s.db (fun db => db.saveLockers io cabinet_id (.arr (lockers.map .obj))) = .ok db) :
    (s.apply io e).state = s.state.apply e := by
  cases e with
  | saveLocation location_id name address =>
    exact (congrArg state (after_saveLocation s io _ _ _)).trans (state_written _ _ _ _)
  | saveCabinet a => exact state_saveCabinet s io a
  | saveLockers cabinet_id lockers =>
    obtain ⟨db, hdb⟩ := hdb cabinet_id lockers rfl
    show (s.after (StoreM.saveLockers io cabinet_id _)).state = _
    rw [after_saveLockers, hdb, rememberLockers_dicts]
    cases h : s.state.saveLockers cabinet_id lockers with
    | error e => simp only [CabinetState.apply, h]
    | ok st => simp only [CabinetState.apply, h]
  | _ => rfl

end Store

end SmartLocker.Gateway
