import SmartLocker.Lib.Machine
import SmartLocker.Gateway.Reports
import SmartLocker.System.FailedSetup

/-!
# Clearing the setup

`do_clear` empties the state and stops the heartbeat.  It leaves the lockers in memory and the states
that the heartbeat keeps, which come back with a cabinet of an old id.  `full_reset` says from which
gateways it is a full reset: from those that remember no locker and no slot in another state than the
default one.
-/

set_option autoImplicit false

namespace SmartLocker.System

open Lib Lib.Machine Lib.Python SmartLocker.Gateway

/-! ## Calls -/

/-- The state and the heartbeat service of a gateway. -/
structure Services where
  store : Store
  heartbeat : HeartbeatService

/-- What the gateway calls on them. -/
inductive ServiceCall where
  | saveLocation (location_id name address : Json)
  | saveCabinet (a : CabinetArgs)
  | saveLockers (cabinet_id lockers : Json)
  /-- `clear`, of a bulk setup -/
  | clear
  /-- `do_clear` -/
  | clearSetup
  | updateLockerState (cabinet_id slot_index : Json) (hw_state : LockerHwState)
  | heartbeatStart
  | heartbeatStop
  /-- the process ends and starts again; the tables return their rows in the order of `scan` -/
  | restart (scan : Scan)

namespace Services

/-- `do_clear`. -/
def clearSetup (g : Services) : Services := ⟨g.store.after StoreM.clear, g.heartbeat.stop⟩

/-- A call, also one that raises; a gateway whose `load` raises does not start. -/
def step (io : StoreOutside) (g : Services) : ServiceCall → Option Services
  | .saveLocation location_id name address =>
    some { g with store := g.store.after (StoreM.saveLocation io location_id name address) }
  | .saveCabinet a => some { g with store := g.store.after (StoreM.saveCabinet io a) }
  | .saveLockers cabinet_id lockers =>
    some { g with store := g.store.after (StoreM.saveLockers io cabinet_id lockers) }
  | .clear => some { g with store := g.store.after StoreM.clear }
  | .clearSetup => some g.clearSetup
  | .updateLockerState cabinet_id slot_index hw_state =>
    some { g with heartbeat := g.heartbeat.updateLockerState cabinet_id slot_index hw_state }
  | .heartbeatStart => some { g with heartbeat := g.heartbeat.start g.store.state }
  | .heartbeatStop => some { g with heartbeat := g.heartbeat.stop }
  | .restart scan =>
    match load io.toStorage scan g.store.file.data g.store.db with
    | .ok state => some ⟨{ g.store with state := state }, .fresh⟩
    | .error _ => none

/-- A gateway with an empty file and an empty database, if it has one. -/
def unused (db : Option Database) : Services :=
  ⟨⟨.empty, .absent, db.map Database.clearAllState⟩, .fresh⟩

end Services

/-! ## Answers -/

/-- Both gateways answer alike: what is asked of the state, what door events are published with and what
heartbeats show. -/
structure SameAnswers (g g' : Services) : Prop where
  location : g.store.state.location = g'.store.state.location
  all_cabinets : g.store.state.allCabinets = g'.store.state.allCabinets
  get_cabinet_by_name : ∀ name,
    g.store.state.getCabinetByName name = g'.store.state.getCabinetByName name
  get_locker_by_slot : ∀ cabinet_id slot_index,
    g.store.state.getLockerBySlot cabinet_id slot_index =
      g'.store.state.getLockerBySlot cabinet_id slot_index
  door_events : ∀ out slot_index event slave_id,
    (handleDoorEvent out g.store.state slot_index event slave_id).effects =
      (handleDoorEvent out g'.store.state slot_index event slave_id).effects
  heartbeats : ∀ out, heartbeats out g.store.state g.heartbeat =
    heartbeats out g'.store.state g'.heartbeat

/-- After the clear, and after whatever is called then, the gateway answers as an unused one after the
same calls. -/
def FullReset (io : StoreOutside) (g : Services) : Prop :=
  ∀ calls, Option.Rel SameAnswers (run (Services.step io) g.clearSetup calls)
    (run (Services.step io) (.unused g.store.db) calls)

/-- No locker is remembered, and no state but the default one of a slot. -/
def NothingStale (g : Services) : Prop :=
  (∀ cabinet_id slot_index, g.store.state.getLockerBySlot cabinet_id slot_index = none) ∧
    ∀ cabinet_id (slot : Nat), g.heartbeat.shown cabinet_id (.num (.fin slot)) = .CLOSING

/-! ## States with other lockers -/

/-- The state with the lockers `m`. -/
def withLockers (st : CabinetState) (m : OrdMap Key (OrdMap Key Dict)) : CabinetState :=
  { st with lockers := m }

theorem saveCabinet_withLockers (st : CabinetState) (m : OrdMap Key (OrdMap Key Dict))
    (a : CabinetArgs) :
    (withLockers st m).saveCabinet a = (st.saveCabinet a).map (withLockers · m) := by
  have hloc : (withLockers st m).location = st.location := rfl
  unfold CabinetState.saveCabinet
  rw [hloc]
  cases st.location with
  | none => rfl
  | some loc =>
    dsimp only
    cases item loc "id" with
    | error e => rfl
    | ok locationId =>
      dsimp only
      split <;> rfl

/-- The entry that `save_lockers` makes, which does not depend on the state. -/
def lockersEntry (cabinet_id lockers : Json) : Except PyErr (Key × OrdMap Key Dict) := do
  let ls ← lockers.iter
  let ds ← ls.mapM lockerDict
  let entries ← ds.mapM (lockerData cabinet_id)
  let k ← cabinet_id.key
  .ok (k, OrdMap.ofList entries)

theorem rememberLockers_eq (st : CabinetState) (cabinet_id lockers : Json) :
    st.rememberLockers cabinet_id lockers =
      (lockersEntry cabinet_id lockers).map fun e =>
        withLockers st (st.lockers.insert e.1 e.2) := by
  unfold CabinetState.rememberLockers lockersEntry CabinetState.saveLockers
  cases lockers.iter with
  | error e => rfl
  | ok ls =>
    show (ls.mapM lockerDict >>= _) = (ls.mapM lockerDict >>= _).map _
    cases ls.mapM lockerDict with
    | error e => rfl
    | ok ds =>
      show (ds.mapM (lockerData cabinet_id) >>= _) = (ds.mapM (lockerData cabinet_id) >>= _).map _
      cases ds.mapM (lockerData cabinet_id) with
      | error e => rfl
      | ok entries =>
        show (cabinet_id.key >>= _) = (cabinet_id.key >>= _).map _
        cases cabinet_id.key <;> rfl

theorem getLockerBySlot_insert (st : CabinetState) (k : Key) (m : OrdMap Key Dict) (c s : Key) :
    (withLockers st (st.lockers.insert k m)).getLockerBySlot c s =
      if c = k then m.find? s else st.getLockerBySlot c s := by
  unfold CabinetState.getLockerBySlot withLockers
  rw [OrdMap.find?_insert]
  split <;> rfl

/-! ## Gateways that cannot be told apart -/

/-- The same stores, but for lockers that are not found. -/
structure StoreAlike (s s' : Store) : Prop where
  state : ∃ m, s'.state = withLockers s.state m
  lockers : ∀ c k, s.state.getLockerBySlot c k = s'.state.getLockerBySlot c k
  file : s.file = s'.file
  db : s.db = s'.db

/-- The same services, but for what is not seen. -/
structure Alike (g g' : Services) : Prop where
  store : StoreAlike g.store g'.store
  running : g.heartbeat.running = g'.heartbeat.running
  shown : ∀ c (slot : Nat), g.heartbeat.shown c (.num (.fin slot)) =
    g'.heartbeat.shown c (.num (.fin slot))

/-- The tables and the file get the same, for alike memories. -/
theorem StoreAlike.written {s s' : Store} (h : StoreAlike s s') (io : StoreOutside)
    {st : CabinetState} {m : OrdMap Key (OrdMap Key Dict)}
    (hlockers : ∀ c k, st.getLockerBySlot c k = (withLockers st m).getLockerBySlot c k)
    (f : Database → Except PyErr Database) :
    StoreAlike (s.written io st f) (s'.written io (withLockers st m) f) := by
  unfold Store.written
  rw [h.db]
  cases withDb s'.db f with
  | error e => exact ⟨⟨m, rfl⟩, hlockers, h.file, rfl⟩
  | ok db => exact ⟨⟨m, rfl⟩, hlockers, rfl, rfl⟩

theorem StoreAlike.saveLocation {s s' : Store} (h : StoreAlike s s') (io : StoreOutside)
    (i n a : Json) :
    StoreAlike (s.after (StoreM.saveLocation io i n a)) (s'.after (StoreM.saveLocation io i n a)) := by
  obtain ⟨m, hm⟩ := h.state
  have hst : s'.state.saveLocation i n a = withLockers (s.state.saveLocation i n a) m := by
    rw [hm]
    rfl
  rw [Store.after_saveLocation, Store.after_saveLocation, hst]
  refine h.written io (fun c k => ?_) _
  rw [← hst]
  exact h.lockers c k

theorem StoreAlike.saveCabinet {s s' : Store} (h : StoreAlike s s') (io : StoreOutside)
    (a : CabinetArgs) :
    StoreAlike (s.after (StoreM.saveCabinet io a)) (s'.after (StoreM.saveCabinet io a)) := by
  obtain ⟨m, hm⟩ := h.state
  have hloc : s'.state.location = s.state.location := by rw [hm]; rfl
  have hsave := saveCabinet_withLockers s.state m a
  rw [← hm] at hsave
  rw [Store.after_saveCabinet, Store.after_saveCabinet, hloc, hsave]
  cases hl : s.state.location with
  | none => exact h
  | some loc =>
    dsimp only
    cases item loc "id" with
    | error e => exact h
    | ok locationId =>
      cases hst : s.state.saveCabinet a with
      | error e => exact h
      | ok st =>
        refine h.written io (fun c k => ?_) _
        have hkept : st.lockers = s.state.lockers := by
          rcases CabinetState.saveCabinet_cases hst with ⟨-, rfl⟩ | ⟨_, _, _, _, -, -, -, rfl⟩
          · rfl
          · rfl
        have hlookup := h.lockers c k
        rw [hm] at hlookup
        unfold CabinetState.getLockerBySlot withLockers at hlookup ⊢
        rw [hkept]
        exact hlookup

theorem StoreAlike.saveLockers {s s' : Store} (h : StoreAlike s s') (io : StoreOutside)
    (cabinet_id lockers : Json) :
    StoreAlike (s.after (StoreM.saveLockers io cabinet_id lockers))
      (s'.after (StoreM.saveLockers io cabinet_id lockers)) := by
  obtain ⟨m, hm⟩ := h.state
  rw [Store.after_saveLockers, Store.after_saveLockers, rememberLockers_eq, rememberLockers_eq, h.db]
  cases withDb s'.db fun db => db.saveLockers io cabinet_id lockers with
  | error e => exact h
  | ok db =>
    dsimp only
    cases lockersEntry cabinet_id lockers with
    | error e => exact ⟨h.state, h.lockers, h.file, rfl⟩
    | ok e =>
      refine ⟨⟨s'.state.lockers.insert e.1 e.2, ?_⟩, fun c k => ?_, h.file, rfl⟩
      · show withLockers s'.state _ = _
        rw [hm]
        rfl
      · show (withLockers s.state _).getLockerBySlot c k = (withLockers s'.state _).getLockerBySlot c k
        rw [getLockerBySlot_insert, getLockerBySlot_insert, h.lockers]

theorem StoreAlike.clear {s s' : Store} (h : StoreAlike s s') :
    StoreAlike (s.after StoreM.clear) (s'.after StoreM.clear) := by
  obtain ⟨m, hm⟩ := h.state
  rw [Store.after_clear, Store.after_clear]
  refine ⟨⟨m, ?_⟩, h.lockers, rfl, by rw [h.db]⟩
  show s'.state.clear = _
  rw [hm]
  rfl

/-! ### Answers -/

theorem StoreAlike.cabinets {s s' : Store} (h : StoreAlike s s') :
    s'.state.cabinets = s.state.cabinets := by
  obtain ⟨m, hm⟩ := h.state
  rw [hm]
  rfl

theorem Alike.slotStatus {g g' : Services} (h : Alike g g') (U : Unicode) (c : Key) :
    slotStatus U g.store.state g.heartbeat c = slotStatus U g'.store.state g'.heartbeat c := by
  funext slot
  unfold Gateway.slotStatus
  rw [h.store.lockers, h.shown]

theorem Alike.lockersStatus {g g' : Services} (h : Alike g g') (U : Unicode) (cabinet_id : Json) :
    lockersStatus U g.store.state g.heartbeat cabinet_id =
      lockersStatus U g'.store.state g'.heartbeat cabinet_id := by
  unfold Gateway.lockersStatus CabinetState.getCabinetById
  rw [h.store.cabinets]
  simp only [h.slotStatus]

theorem Alike.heartbeats {g g' : Services} (h : Alike g g') (out : Outside) :
    heartbeats out g.store.state g.heartbeat = heartbeats out g'.store.state g'.heartbeat := by
  have hall : ∀ cabs, publishHeartbeats out g.store.state g.heartbeat cabs =
      publishHeartbeats out g'.store.state g'.heartbeat cabs := by
    intro cabs
    induction cabs with
    | nil => rfl
    | cons cab cabs ih =>
      unfold publishHeartbeats publishSingleHeartbeat
      simp only [h.lockersStatus, ih]
  unfold Gateway.heartbeats CabinetState.allCabinets
  rw [hall, h.running, h.store.cabinets]

theorem Alike.doorEvents {g g' : Services} (h : Alike g g') (out : Outside) (slot : Json)
    (event : DoorEvent) (slave : Json) :
    handleDoorEvent out g.store.state slot event slave =
      handleDoorEvent out g'.store.state slot event slave := by
  have hlookup : ∀ id, lookupLocker g.store.state id slot = lookupLocker g'.store.state id slot := by
    intro id
    unfold lookupLocker
    simp only [h.store.lockers]
  unfold handleDoorEvent cabinetOfSlave CabinetState.allCabinets reportDoor
  rw [h.store.cabinets]
  simp only [hlookup]

theorem Alike.answers {g g' : Services} (h : Alike g g') : SameAnswers g g' where
  location := by
    obtain ⟨m, hm⟩ := h.store.state
    rw [hm]
    rfl
  all_cabinets := by rw [CabinetState.allCabinets, CabinetState.allCabinets, h.store.cabinets]
  get_cabinet_by_name := by
    intro name
    unfold CabinetState.getCabinetByName CabinetState.allCabinets
    rw [h.store.cabinets]
  get_locker_by_slot := h.store.lockers
  door_events := fun out slot event slave => congrArg Py.effects (h.doorEvents out slot event slave)
  heartbeats := h.heartbeats

/-! ### Calls -/

theorem Alike.update {g g' : Services} (h : Alike g g') (id slot : Json) (hw : LockerHwState) :
    Alike { g with heartbeat := g.heartbeat.updateLockerState id slot hw }
      { g' with heartbeat := g'.heartbeat.updateLockerState id slot hw } := by
  refine ⟨h.store, ?_, fun c k => ?_⟩
  · simp only [HeartbeatService.running_update, h.running]
  · dsimp only
    rw [HeartbeatService.shown_update, HeartbeatService.shown_update, h.shown]

/-- **One call**, on gateways that cannot be told apart. -/
theorem Alike.step {g g' : Services} (h : Alike g g') (io : StoreOutside) (call : ServiceCall) :
    Option.Rel Alike (Services.step io g call) (Services.step io g' call) := by
  cases call with
  | saveLocation i n a => exact .some ⟨h.store.saveLocation io i n a, h.running, h.shown⟩
  | saveCabinet a => exact .some ⟨h.store.saveCabinet io a, h.running, h.shown⟩
  | saveLockers id ls => exact .some ⟨h.store.saveLockers io id ls, h.running, h.shown⟩
  | clear => exact .some ⟨h.store.clear, h.running, h.shown⟩
  | clearSetup => exact .some ⟨h.store.clear, rfl, h.shown⟩
  | updateLockerState id slot hw => exact .some (h.update id slot hw)
  | heartbeatStart =>
    have hconf : g.store.state.isConfigured = g'.store.state.isConfigured := by
      unfold CabinetState.isConfigured
      rw [h.answers.location, h.answers.all_cabinets]
    refine .some ⟨h.store, ?_, fun c k => ?_⟩
    · show (g.heartbeat.start g.store.state).running = (g'.heartbeat.start g'.store.state).running
      unfold HeartbeatService.start
      rw [hconf]
      split
      · rfl
      · exact h.running
    · simp only [HeartbeatService.shown_start, h.shown]
  | heartbeatStop => exact .some ⟨h.store, rfl, h.shown⟩
  | restart scan =>
    unfold Services.step
    dsimp only
    rw [h.store.file, h.store.db]
    cases load io.toStorage scan g'.store.file.data g'.store.db with
    | error e => exact .none
    | ok st => exact .some ⟨⟨⟨st.lockers, rfl⟩, fun _ _ => rfl, rfl, rfl⟩, rfl, fun _ _ => rfl⟩

/-! ## The reset -/

theorem alike_unused {g : Services} (h : NothingStale g) : Alike g.clearSetup (.unused g.store.db) := by
  refine ⟨⟨⟨.empty, rfl⟩, fun c k => ?_, rfl, rfl⟩, rfl, fun c slot => ?_⟩
  · exact h.1 c k
  · exact h.2 c slot

/-- Every key is the key of a value. -/
theorem key_surjective (k : Key) : ∃ v : Json, v.key = .ok k := by
  cases k with
  | none => exact ⟨.null, rfl⟩
  | num x => exact ⟨.float ⟨x, [], by simp⟩, rfl⟩
  | str s => exact ⟨.str s, rfl⟩

/-- A cabinet with the slots up to `slot`. -/
def columnCabinet (cabinet_id : Json) (slot : Nat) : CabinetArgs where
  cabinet_id := cabinet_id
  name := .lit "A"
  total_rows := .int (slot + 1)
  total_columns := .int 1

/-- The calls after which a heartbeat shows the slot. -/
def revealing (cabinet_id : Json) (slot : Nat) : List ServiceCall :=
  [.saveLocation .null .null .null, .saveCabinet (columnCabinet cabinet_id slot), .heartbeatStart]

/-- What these calls leave, whatever the tables and the file make of them. -/
theorem run_revealing (io : StoreOutside) (g : Services) {cabinet_id : Json} {c : Key}
    (hc : cabinet_id.key = .ok c) (slot : Nat) (hnew : g.store.state.cabinets = .empty) :
    ∃ g', run (Services.step io) g (revealing cabinet_id slot) = some g' ∧
      g'.heartbeat.running = true ∧
      (∀ c s, g'.heartbeat.shown c s = g.heartbeat.shown c s) ∧
      (∀ c s, g'.store.state.getLockerBySlot c s = g.store.state.getLockerBySlot c s) ∧
      g'.store.state.cabinets.entries = [(c, cabinetData .null (columnCabinet cabinet_id slot))] := by
  have hlocated : (g.store.after (StoreM.saveLocation io .null .null .null)).state =
      g.store.state.saveLocation .null .null .null := by
    rw [Store.after_saveLocation]
    exact Store.state_written _ _ _ _
  have hkey : idKey (cabinetData .null (columnCabinet cabinet_id slot)) = .ok c := by
    rw [idKey_cabinetData]
    exact hc
  have hsaved : ((g.store.after (StoreM.saveLocation io .null .null .null)).after
      (StoreM.saveCabinet io (columnCabinet cabinet_id slot))).state =
        (g.store.state.saveLocation .null .null .null).store c
          (cabinetData .null (columnCabinet cabinet_id slot)) hkey := by
    rw [Store.state_saveCabinet, hlocated, CabinetState.saveCabinet_ok rfl rfl hkey]
  have hentries : ((g.store.state.saveLocation .null .null .null).store c
      (cabinetData .null (columnCabinet cabinet_id slot)) hkey).cabinets.entries =
        [(c, cabinetData .null (columnCabinet cabinet_id slot))] := by
    show OrdMap.set g.store.state.cabinets.entries c _ = _
    rw [hnew]
    rfl
  refine ⟨_, rfl, ?_, fun c s => HeartbeatService.shown_start _ _ c s, fun c s => ?_, ?_⟩
  · show (HeartbeatService.start _ _).running = true
    unfold HeartbeatService.start CabinetState.isConfigured CabinetState.allCabinets OrdMap.values
    dsimp only
    rw [hsaved, hentries]
    rfl
  · dsimp only
    rw [hsaved]
    rfl
  · dsimp only
    rw [hsaved, hentries]

theorem value_injective {a b : LockerHwState} (h : a.value = b.value) : a = b := by
  cases a <;> cases b <;> first | rfl | exact absurd (Json.str.inj h) (by decide)

theorem get?_lockers (cabinet_id : Json) (timestamp : PyStr) (lockers : List Json) :
    get? (heartbeatPayload cabinet_id timestamp lockers) "lockers" = some (.arr lockers) := by
  have hstr : ∀ s, notNone (.str s) = true := fun _ => rfl
  have harr : ∀ xs, notNone (.arr xs) = true := fun _ => rfl
  unfold heartbeatPayload
  cases hid : notNone cabinet_id <;> simp [List.filter_cons, hid, hstr, harr]

/-- The entry of a slot without a locker. -/
def unknownStatus (U : Unicode) (hb : HeartbeatService) (c : Key) (slot : Nat) : Json :=
  .obj [(py "lockerId", .str (py "unknown-" ++ (Json.int slot).pyStr U)), (py "slotIndex", .int slot),
    (py "hwState", (hb.shown c (.num (.fin slot))).value)]

/-- **The heartbeat of a single cabinet** that remembers no locker. -/
theorem heartbeats_column (out : Outside) {st : CabinetState} {hb : HeartbeatService}
    {cabinet_id : Json} {c : Key} (hc : cabinet_id.key = .ok c) {slot : Nat}
    (hrunning : hb.running = true) (hlockers : ∀ c s, st.getLockerBySlot c s = none)
    (hentries : st.cabinets.entries = [(c, cabinetData .null (columnCabinet cabinet_id slot))]) :
    heartbeats out st hb =
      (mqttPublish out (cabinetPrefix out.U (.lit "A") ++ py "/heartbeat")
        (heartbeatPayload cabinet_id (out.now 0)
          ((List.range (slot + 1)).map (unknownStatus out.U hb c)))).effects := by
  have hall : st.allCabinets = [cabinetData .null (columnCabinet cabinet_id slot)] := by
    rw [CabinetState.allCabinets, OrdMap.values, hentries]
    rfl
  have hfind : st.getCabinetById c = some (cabinetData .null (columnCabinet cabinet_id slot)) := by
    rw [CabinetState.getCabinetById, ← OrdMap.mem_entries_iff, hentries]
    exact List.mem_singleton.mpr rfl
  have hstatus : slotStatus out.U st hb c = fun slot => pure (unknownStatus out.U hb c slot) := by
    funext slot
    unfold slotStatus
    rw [hlockers]
    rfl
  have htotal : totalSlots (cabinetData .null (columnCabinet cabinet_id slot)) = .ok (slot + 1) := by
    simp [totalSlots, getD, cabinetData, columnCabinet, index?]
  have hlist : lockersStatus out.U st hb cabinet_id =
      .ok ((List.range (slot + 1)).map (unknownStatus out.U hb c)) := by
    refine except_bind_ok.mpr ⟨c, hc, ?_⟩
    rw [hfind]
    refine except_bind_ok.mpr ⟨slot + 1, htotal, ?_⟩
    rw [hstatus]
    exact List.mapM_pure
  have hid : item (cabinetData .null (columnCabinet cabinet_id slot)) "id" = .ok cabinet_id := by
    simp [item, cabinetData, columnCabinet]
  have hname : item (cabinetData .null (columnCabinet cabinet_id slot)) "name" = .ok (.lit "A") := by
    simp [item, cabinetData, columnCabinet]
  unfold heartbeats
  rw [if_pos hrunning, hall]
  unfold publishHeartbeats publishSingleHeartbeat
  rw [hid, hname, Py.ofExcept_ok_bind, Py.ofExcept_ok_bind, hlist, Py.ofExcept_ok_bind]
  exact Py.effects_bind_silent _ fun _ => rfl

theorem nothingStale_of_reset {io : StoreOutside} {g : Services} (h : FullReset io g) :
    NothingStale g := by
  have hlockers : ∀ c s, g.store.state.getLockerBySlot c s = none := by
    intro c s
    cases h [] with
    | some hsame => exact hsame.get_locker_by_slot c s
  refine ⟨hlockers, fun c slot => ?_⟩
  obtain ⟨id, hid⟩ := key_surjective c
  obtain ⟨g₁, hr₁, hrunning₁, hshown₁, hnone₁, hentries₁⟩ :=
    run_revealing io g.clearSetup hid slot rfl
  obtain ⟨g₂, hr₂, hrunning₂, hshown₂, hnone₂, hentries₂⟩ :=
    run_revealing io (.unused g.store.db) hid slot rfl
  have hrel := h (revealing id slot)
  rw [hr₁, hr₂] at hrel
  cases hrel with
  | some hsame =>
    have hpublish : ∀ topic, sampleOutside.publish topic = .ok () := fun _ => rfl
    have hbeats := hsame.heartbeats sampleOutside
    rw [heartbeats_column sampleOutside hid hrunning₁ (fun c s => (hnone₁ c s).trans (hlockers c s))
      hentries₁, heartbeats_column sampleOutside hid hrunning₂ (fun c s => (hnone₂ c s).trans rfl)
      hentries₂, mqttPublish_ok (hpublish _), mqttPublish_ok (hpublish _)] at hbeats
    have hpayload := (ServiceEffect.publish.inj (List.head_eq_of_cons_eq hbeats)).2
    have hlists := congrArg (fun d => get? d "lockers") hpayload
    rw [get?_lockers, get?_lockers] at hlists
    have hmap := List.map_inj_left.mp (Json.arr.inj (Option.some.inj hlists)) slot
      (List.mem_range.mpr (Nat.lt_succ_self slot))
    have hstate : (g₁.heartbeat.shown c (.num (.fin slot))).value =
        (g₂.heartbeat.shown c (.num (.fin slot))).value := by
      have hget := congrArg (fun l => getD l "hwState" .null) (Json.obj.inj hmap)
      simpa [getD] using hget
    have hsame := value_injective hstate
    rw [hshown₁, hshown₂] at hsame
    exact hsame

/-- **The clear is a full reset** of exactly the gateways that remember no locker and have no slot in
another state than the default one. -/
theorem full_reset (io : StoreOutside) (g : Services) : FullReset io g ↔ NothingStale g := by
  constructor
  · exact nothingStale_of_reset
  · intro h calls
    have hrun := run_related (fun _ _ call hR => Alike.step hR io call) calls g.clearSetup
      (.unused g.store.db) (alike_unused h)
    generalize run (Services.step io) g.clearSetup calls = r at hrun
    generalize run (Services.step io) (.unused g.store.db) calls = r' at hrun
    cases hrun with
    | some halike => exact .some halike.answers
    | none => exact .none

/-- **A locker survives the clear**: of the gateway with cabinet `A`, whose slot 0 is locker `L1`. -/
theorem locker_survives_clear : ¬ FullReset sampleStoreOutside ⟨sampleStore, .fresh⟩ := by
  intro h
  cases h [] with
  | some hsame =>
    have hslot := hsame.get_locker_by_slot (.str (py "id-1")) (.num (.fin 0))
    have hsome : (sampleStore.state.getLockerBySlot (.str (py "id-1")) (.num (.fin 0))).isSome =
        true := by
      decide +kernel
    have hnone : sampleStore.state.getLockerBySlot (.str (py "id-1")) (.num (.fin 0)) = none := hslot
    rw [hnone] at hsome
    cases hsome

end SmartLocker.System
