import SmartLocker.Gateway.LockerService

/-!
# What the gateway reports by itself

Model of `handle_door_event` of `LockerService` and of `HeartbeatService`: the messages that no message
from outside asks for.  Slot and slave of a door event are what the JSON of the board gives.
-/

set_option autoImplicit false

namespace SmartLocker.Gateway

open Lib Lib.Python

/-! ## Door events -/

inductive DoorEvent where
  | DOOR_OPENED
  | DOOR_CLOSED
  deriving DecidableEq, Repr

def DoorEvent.hwState : DoorEvent → LockerHwState
  | .DOOR_OPENED => .OPENING
  | .DOOR_CLOSED => .CLOSING

/-- `get_locker_by_slot`, of values that need not be dict keys. -/
def lookupLocker (st : CabinetState) (cabinet_id slot_index : Json) : Except PyErr (Option Dict) := do
  let c ← cabinet_id.key
  let s ← slot_index.key
  .ok (st.getLockerBySlot c s)

/-- `locker_info["id"] if locker_info else f"unknown-…"`. -/
def lockerIdOf (U : Unicode) (slot : Json) : Option Dict → Except PyErr Json
  | some (e :: d) => item (e :: d) "id"
  | _ => .ok (.str (py "unknown-" ++ slot.pyStr U))

/-- The first cabinet that has the slave id. -/
def cabinetOfSlave (st : CabinetState) (slave_id : Json) : Option Dict :=
  st.allCabinets.find? (fun c => (getD c "slaveId" .null).pyEq slave_id)

def cabinetPrefix (U : Unicode) (cabinet_name : Json) : PyStr := py "cabinet/" ++ cabinet_name.pyStr U

def statusPayload (locker_id slot_index : Json) (event : DoorEvent) (timestamp : PyStr) : Dict :=
  [(py "lockerId", locker_id), (py "slotIndex", slot_index), (py "hwState", event.hwState.value),
    (py "doorSensor", .bool (event = .DOOR_OPENED)), (py "lockSensor", .bool false),
    (py "timestamp", .str timestamp)]

/-- What is done for an event, once its cabinet is found. -/
def reportDoor (out : Outside) (st : CabinetState) (cab : Dict) (slot_index : Json)
    (event : DoorEvent) : Py ServiceEffect Unit := do
  let cabinet_id ← Py.ofExcept (item cab "id")
  let cabinet_name ← Py.ofExcept (item cab "name")
  let topicPrefix := cabinetPrefix out.U cabinet_name
  let locker_info ← Py.ofExcept (lookupLocker st cabinet_id slot_index)
  let locker_id ← Py.ofExcept (lockerIdOf out.U slot_index locker_info)
  mqttPublish out (topicPrefix ++ py "/locker/" ++ locker_id.pyStr out.U ++ py "/status")
    (statusPayload locker_id slot_index event (out.now 0))
  if event = .DOOR_CLOSED then
    mqttPublish out (topicPrefix ++ py "/command/close")
      [(py "cabinetId", cabinet_id), (py "slotIndex", slot_index)]
  else pure ()
  updateLockerState cabinet_id slot_index event.hwState

def handleDoorEvent (out : Outside) (st : CabinetState) (slot_index : Json) (event : DoorEvent)
    (slave_id : Json) : Py ServiceEffect Unit :=
  match cabinetOfSlave st slave_id with
  | none => pure ()
  | some cab => reportDoor out st cab slot_index event

/-! ## Heartbeats -/

structure HeartbeatService where
  running : Bool
  /-- cabinet id → slot → state -/
  locker_states : OrdMap Key (OrdMap Key LockerHwState)

namespace HeartbeatService

def fresh : HeartbeatService := ⟨false, .empty⟩

/-- `self._locker_states.get(cabinet_id, {})`. -/
def statesOf (hb : HeartbeatService) (cabinet_id : Key) : OrdMap Key LockerHwState :=
  (hb.locker_states.find? cabinet_id).getD .empty

/-- `update_locker_state`: the entry of the cabinet is there before the slot is hashed. -/
def updateLockerState (hb : HeartbeatService) (cabinet_id slot_index : Json)
    (hw_state : LockerHwState) : HeartbeatService :=
  match cabinet_id.key with
  | .error _ => hb
  | .ok c =>
    match slot_index.key with
    | .error _ => { hb with locker_states := hb.locker_states.insert c (hb.statesOf c) }
    | .ok s =>
      { hb with locker_states := hb.locker_states.insert c ((hb.statesOf c).insert s hw_state) }

/-- The state that a heartbeat shows for a slot. -/
def shown (hb : HeartbeatService) (cabinet_id slot : Key) : LockerHwState :=
  ((hb.statesOf cabinet_id).find? slot).getD .CLOSING

def stop (hb : HeartbeatService) : HeartbeatService := { hb with running := false }

/-- `start`: without a configured cabinet there is no heartbeat. -/
def start (hb : HeartbeatService) (st : CabinetState) : HeartbeatService :=
  if st.isConfigured then { hb with running := true } else hb

end HeartbeatService

/-- A value that `range` takes. -/
def index? : Json → Option Int
  | .int n => some n
  | .bool b => some (if b then 1 else 0)
  | _ => none

/-- The length of `range(totalRows * totalColumns)`. -/
def totalSlots (cab : Dict) : Except PyErr Nat :=
  match index? (getD cab "totalRows" (.int 0)), index? (getD cab "totalColumns" (.int 0)) with
  | some rows, some columns => .ok (rows * columns).toNat
  | _, _ => .error .TypeError

/-- The entry of slot `slot` in a heartbeat of cabinet `cabinet_id`. -/
def slotStatus (U : Unicode) (st : CabinetState) (hb : HeartbeatService) (cabinet_id : Key)
    (slot : Nat) : Except PyErr Json := do
  let index : Json := .int slot
  let id ← lockerIdOf U index (st.getLockerBySlot cabinet_id (.num (.fin slot)))
  .ok (.obj [(py "lockerId", id), (py "slotIndex", index),
    (py "hwState", (hb.shown cabinet_id (.num (.fin slot))).value)])

/-- `_get_lockers_status`. -/
def lockersStatus (U : Unicode) (st : CabinetState) (hb : HeartbeatService) (cabinet_id : Json) :
    Except PyErr (List Json) := do
  let c ← cabinet_id.key
  match st.getCabinetById c with
  | none => .ok []
  | some cab =>
    let total ← totalSlots cab
    (List.range total).mapM (slotStatus U st hb c)

/-- `HeartbeatPayload.to_json` leaves out what is `None`. -/
def heartbeatPayload (cabinet_id : Json) (timestamp : PyStr) (lockers : List Json) : Dict :=
  [(py "cabinetId", cabinet_id), (py "timestamp", .str timestamp), (py "status", .lit "online"),
    (py "lockers", .arr lockers)].filter (fun e => notNone e.2)

def publishSingleHeartbeat (out : Outside) (st : CabinetState) (hb : HeartbeatService)
    (cabinet : Dict) : Py ServiceEffect Unit := do
  let cabinet_id ← Py.ofExcept (item cabinet "id")
  let cabinet_name ← Py.ofExcept (item cabinet "name")
  let lockers ← Py.ofExcept (lockersStatus out.U st hb cabinet_id)
  mqttPublish out (cabinetPrefix out.U cabinet_name ++ py "/heartbeat")
    (heartbeatPayload cabinet_id (out.now 0) lockers)

/-- The loop of `_publish_all_heartbeats`: an exception skips the cabinets that are left. -/
def publishHeartbeats (out : Outside) (st : CabinetState) (hb : HeartbeatService) :
    List Dict → Py ServiceEffect Unit
  | [] => pure ()
  | cabinet :: rest => do
    publishSingleHeartbeat out st hb cabinet
    publishHeartbeats out st hb rest

/-- One round of `_heartbeat_loop`. -/
def heartbeats (out : Outside) (st : CabinetState) (hb : HeartbeatService) : List ServiceEffect :=
  if hb.running then (publishHeartbeats out st hb st.allCabinets).effects else []

/-! ## What a heartbeat shows -/

namespace HeartbeatService

/-- What an effect of a service makes of the states. -/
def apply (hb : HeartbeatService) : ServiceEffect → HeartbeatService
  | .setState c s hw_state =>
    { hb with locker_states := hb.locker_states.insert c ((hb.statesOf c).insert s hw_state) }
  | _ => hb

theorem shown_setState (hb : HeartbeatService) (c s : Key) (hw_state : LockerHwState) (c' s' : Key) :
    (hb.apply (.setState c s hw_state)).shown c' s' =
      if c = c' ∧ s = s' then hw_state else hb.shown c' s' := by
  by_cases hc : c' = c
  · subst hc
    by_cases hs : s' = s
    · subst hs
      simp [apply, shown, statesOf]
    · simp [apply, shown, statesOf, hs, Ne.symm hs]
  · simp [apply, shown, statesOf, hc, Ne.symm hc]

/-- An effect that sets no state. -/
def SetsNone : ServiceEffect → Prop
  | .setState _ _ _ => False
  | _ => True

theorem foldl_setsNone {es : List ServiceEffect} (h : ∀ e ∈ es, SetsNone e) (hb : HeartbeatService) :
    es.foldl apply hb = hb := by
  induction es generalizing hb with
  | nil => rfl
  | cons e es ih =>
    have hhead : hb.apply e = hb := by
      cases e with
      | setState _ _ _ => exact (h _ List.mem_cons_self).elim
      | _ => rfl
    rw [List.foldl_cons, hhead, ih fun e' he => h e' (List.mem_cons_of_mem _ he)]

@[simp] theorem shown_start (hb : HeartbeatService) (st : CabinetState) (c s : Key) :
    (hb.start st).shown c s = hb.shown c s := by
  unfold start
  split <;> rfl

@[simp] theorem running_update (hb : HeartbeatService) (cabinet_id slot_index : Json)
    (hw_state : LockerHwState) :
    (hb.updateLockerState cabinet_id slot_index hw_state).running = hb.running := by
  unfold updateLockerState
  cases cabinet_id.key with
  | error e => rfl
  | ok c => cases slot_index.key <;> rfl

theorem shown_update (hb : HeartbeatService) (cabinet_id slot_index : Json)
    (hw_state : LockerHwState) (c s : Key) :
    (hb.updateLockerState cabinet_id slot_index hw_state).shown c s =
      if cabinet_id.key = .ok c ∧ slot_index.key = .ok s then hw_state else hb.shown c s := by
  unfold updateLockerState
  cases hc : cabinet_id.key with
  | error e => simp
  | ok c' =>
    cases hs : slot_index.key with
    | error e =>
      by_cases hcc : c = c'
      · subst hcc
        simp [shown, statesOf]
      · simp [shown, statesOf, hcc]
    | ok s' =>
      by_cases hcc : c = c'
      · subst hcc
        by_cases hss : s = s'
        · subst hss
          simp [shown, statesOf]
        · simp [shown, statesOf, hss, Ne.symm hss]
      · simp [shown, statesOf, hcc, Ne.symm hcc]

end HeartbeatService

end SmartLocker.Gateway
