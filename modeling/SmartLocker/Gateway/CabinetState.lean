import SmartLocker.Lib.OrdMap
import SmartLocker.Lib.Python

/-!
# The configured cabinets

Model of the memory of `CabinetState`: the location, the cabinets by id and the lockers by cabinet and
slot.  A cabinet is the dict that was stored for it; its key is the value of its `id`, which the
structure carries for all of them.  Two cabinets may have the same name: `getCabinetByName` finds the
first in storage order.
-/

set_option autoImplicit false

namespace SmartLocker.Gateway

open Lib Lib.Python

/-- `hash(d["id"])` as a dict key. -/
def idKey (d : Dict) : Except PyErr Key := item d "id" >>= Json.key

structure CabinetState where
  location : Option Dict
  cabinets : OrdMap Key Dict
  /-- cabinet id → slot → locker data -/
  lockers : OrdMap Key (OrdMap Key Dict)
  ids : ∀ k c, (k, c) ∈ cabinets.entries → idKey c = .ok k

namespace CabinetState

def empty : CabinetState := ⟨none, .empty, .empty, by simp [OrdMap.empty]⟩

def allCabinets (st : CabinetState) : List Dict := st.cabinets.values

/-- Not configured without a location and a cabinet. -/
def isConfigured (st : CabinetState) : Bool := st.location.isSome && !st.allCabinets.isEmpty

/-- `heartbeat_interval`: that of the first cabinet. -/
def heartbeatInterval (st : CabinetState) : Json :=
  match st.allCabinets with
  | [] => .int 60
  | first_cab :: _ => getD first_cab "heartbeatInterval" (.int 60)

/-- `cab.get("name") == name`. -/
def named (name : PyStr) (cab : Dict) : Bool := (getD cab "name" .null).pyEq (.str name)

def getCabinetByName (st : CabinetState) (name : PyStr) : Option Dict :=
  st.allCabinets.find? (named name)

def getCabinetById (st : CabinetState) (cabinet_id : Key) : Option Dict :=
  st.cabinets.find? cabinet_id

def getLockerBySlot (st : CabinetState) (cabinet_id slot_index : Key) : Option Dict :=
  (st.lockers.find? cabinet_id).bind (fun m => m.find? slot_index)

end CabinetState

theorem CabinetState.mem_allCabinets {st : CabinetState} {c : Dict} :
    c ∈ st.allCabinets ↔ ∃ k, (k, c) ∈ st.cabinets.entries := by
  unfold allCabinets OrdMap.values
  simp

/-- A stored cabinet has an id that is a dict key. -/
theorem CabinetState.id_of_mem {st : CabinetState} {cab : Dict} (h : cab ∈ st.allCabinets) :
    ∃ id k, item cab "id" = .ok id ∧ id.key = .ok k ∧ (k, cab) ∈ st.cabinets.entries := by
  obtain ⟨⟨k, c⟩, hmem, rfl⟩ := List.mem_map.mp h
  have hid := st.ids k c hmem
  unfold idKey at hid
  cases hi : item c "id" with
  | error e => rw [hi] at hid; cases hid
  | ok id => rw [hi] at hid; exact ⟨id, k, rfl, hid, hmem⟩

/-- A cabinet that is found has exactly the name. -/
theorem CabinetState.getCabinetByName_spec {st : CabinetState} {name : PyStr} {cab : Dict}
    (h : st.getCabinetByName name = some cab) :
    cab ∈ st.allCabinets ∧ getD cab "name" .null = .str name := by
  have hnamed : named name cab = true := List.find?_some h
  exact ⟨List.mem_of_find?_eq_some h, pyEq_str_right hnamed⟩

/-! ## Saving -/

/-- The dict of a location. -/
def locationData (location_id name address : Json) : Dict :=
  [(py "id", location_id), (py "name", name), (py "address", address)]

/-- The arguments of `save_cabinet`. -/
structure CabinetArgs where
  cabinet_id : Json
  name : Json
  total_rows : Json := .int 0
  total_columns : Json := .int 0
  slave_id : Json := .int 0
  heartbeat_interval : Json := .int 60
  is_synced : Json := .bool false

/-- `cabinet_data`, for a location whose id is `locationId`. -/
def cabinetData (locationId : Json) (a : CabinetArgs) : Dict :=
  [(py "id", a.cabinet_id), (py "locationId", locationId), (py "name", a.name),
    (py "totalRows", a.total_rows), (py "totalColumns", a.total_columns),
    (py "slaveId", a.slave_id), (py "heartbeatInterval", a.heartbeat_interval),
    (py "isSynced", a.is_synced)]

@[simp] theorem idKey_cabinetData (l : Json) (a : CabinetArgs) :
    idKey (cabinetData l a) = a.cabinet_id.key := by
  simp [idKey, item, cabinetData, bind, Except.bind]

/-- What `save_lockers` keeps of one locker, with its slot. -/
def lockerData (cabinet_id : Json) (l : Dict) : Except PyErr (Key × Dict) := do
  let slotIndex ← item l "slotIndex"
  let id ← item l "id"
  let label ← item l "label"
  let slot ← slotIndex.key
  .ok (slot, [(py "id", id), (py "cabinet_id", cabinet_id), (py "slot_index", slotIndex),
    (py "locker_label", label)])

namespace CabinetState

def saveLocation (st : CabinetState) (location_id name address : Json) : CabinetState :=
  { st with location := some (locationData location_id name address) }

/-- Storing a cabinet under its id. -/
def store (st : CabinetState) (k : Key) (c : Dict) (h : idKey c = .ok k) : CabinetState :=
  { st with
    cabinets := st.cabinets.insert k c
    ids := by
      intro k' c' hmem
      rw [OrdMap.mem_entries_iff, OrdMap.find?_insert] at hmem
      split at hmem
      · rename_i hk
        cases hmem
        rw [hk, h]
      · exact st.ids k' c' (st.cabinets.mem_entries_iff.mpr hmem) }

/-- `save_cabinet` is refused without a location. -/
def saveCabinet (st : CabinetState) (a : CabinetArgs) : Except PyErr CabinetState :=
  match st.location with
  | none => .ok st
  | some loc =>
    match item loc "id" with
    | .error e => .error e
    | .ok locationId =>
      match h : a.cabinet_id.key with
      | .error e => .error e
      | .ok k => .ok (st.store k (cabinetData locationId a) (by simp [h]))

/-- What `save_cabinet` does, when it does not raise. -/
theorem saveCabinet_cases {st st' : CabinetState} {a : CabinetArgs} (h : st.saveCabinet a = .ok st') :
    (st.location = none ∧ st' = st) ∨
      ∃ loc l k, ∃ hk : idKey (cabinetData l a) = .ok k, st.location = some loc ∧
        item loc "id" = .ok l ∧ a.cabinet_id.key = .ok k ∧ st' = st.store k (cabinetData l a) hk := by
  unfold saveCabinet at h
  split at h
  · rename_i hloc
    exact Or.inl ⟨hloc, (Except.ok.inj h).symm⟩
  · rename_i loc hloc
    split at h
    · cases h
    rename_i l hl
    split at h
    · cases h
    rename_i k hk
    exact Or.inr ⟨loc, l, k, by simp [hk], hloc, hl, hk, (Except.ok.inj h).symm⟩

theorem saveCabinet_ok {st : CabinetState} {a : CabinetArgs} {loc : Dict} {l : Json} {k : Key}
    (hloc : st.location = some loc) (hl : item loc "id" = .ok l)
    (hk : idKey (cabinetData l a) = .ok k) :
    st.saveCabinet a = .ok (st.store k (cabinetData l a) hk) := by
  have hkey : a.cabinet_id.key = .ok k := by rwa [idKey_cabinetData] at hk
  unfold saveCabinet
  rw [hloc]
  dsimp only
  rw [hl]
  dsimp only
  split
  · rename_i h
    rw [hkey] at h
    cases h
  · rename_i h
    rw [hkey] at h
    cases h
    rfl

def saveLockers (st : CabinetState) (cabinet_id : Json) (lockers : List Dict) :
    Except PyErr CabinetState := do
  let entries ← lockers.mapM (lockerData cabinet_id)
  let k ← cabinet_id.key
  .ok { st with lockers := st.lockers.insert k (OrdMap.ofList entries) }

theorem saveLockers_ok {st st' : CabinetState} {cabinet_id : Json} {lockers : List Dict}
    (h : st.saveLockers cabinet_id lockers = .ok st') :
    ∃ m, st' = { st with lockers := m } := by
  obtain ⟨entries, -, h⟩ := except_bind_ok.mp h
  obtain ⟨k, -, h⟩ := except_bind_ok.mp h
  exact ⟨_, (Except.ok.inj h).symm⟩

/-- `clear` leaves the lockers. -/
def clear (st : CabinetState) : CabinetState :=
  { st with location := none, cabinets := .empty, ids := by simp [OrdMap.empty] }

end CabinetState

end SmartLocker.Gateway
