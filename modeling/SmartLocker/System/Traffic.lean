import SmartLocker.Lib.Machine
import SmartLocker.Gateway.Reports
import SmartLocker.Gateway.Startup
import SmartLocker.System.Routing

/-!
# The gateway and its broker

The gateway as a machine in the traffic of a broker that holds exactly the topics of its cabinets and
its own three, and that returns to it, once, each of its own messages on one of them.  Its events are
the messages of others, the delivery of what the broker has, in any order, door events, heartbeats,
discoveries, the steps of the setup runs and the reset of the local API.
-/

set_option autoImplicit false

namespace SmartLocker.System

open Lib Lib.Machine Lib.Python SmartLocker.Gateway

/-! ## The machine -/

/-- A message, its payload as `json.loads` reads it. -/
abbrev Message := PyStr × Option Json

structure Traffic where
  state : CabinetState
  /-- what the broker still has for the gateway -/
  inbox : List Message
  /-- the effects that are left of each thread the gateway has started -/
  threads : List (List ServiceEffect)

/-- What the handling of a message gets from outside: the reply of a board, what a setup run gets, and
the boards that a discovery finds. -/
structure Answers where
  reply : Dict
  io : SetupOutside
  found : Dict

inductive TrafficEvent where
  /-- published by others -/
  | others (topic : PyStr) (data : Option Json)
  /-- the broker delivers message `i` -/
  | deliver (i : Nat) (answers : Answers)
  | door (slot_index : Json) (event : DoorEvent) (slave_id : Json)
  | heartbeat (hb : HeartbeatService)
  /-- `discover_and_report`, at the start of the process or after a reconnection of the bus -/
  | discovery (found : Dict)
  /-- the next effect of thread `i` -/
  | threadStep (i : Nat)
  /-- the reset of the local API -/
  | apiReset

/-- What the broker holds for the gateway. -/
def subscribedTopics (out : Outside) (st : CabinetState) : List PyStr :=
  gatewayTopics out.MAC_ADDRESS ++ st.allCabinets.flatMap (fun c => lockerTopics (nameOf out.U c))

def discoveryTopic (mac : PyStr) : PyStr := py "iot/" ++ mac ++ py "/discovery/result"

/-- The message that the broker returns for an effect. -/
def returnedBy (out : Outside) (st : CabinetState) : ServiceEffect → Option Message
  | .publish topic payload =>
    if topic ∈ subscribedTopics out st then some (topic, some (.obj payload)) else none
  | _ => none

/-- The thread that an effect starts. -/
def threadOf (out : Outside) (answers : Answers) : ServiceEffect → Option (List ServiceEffect)
  | .setup payload topicPrefix => some (processSetup answers.io payload topicPrefix)
  | .clearSetup => some [.clear]
  | .discover _ => some [.publish (discoveryTopic out.MAC_ADDRESS) answers.found]
  | _ => none

namespace Traffic

/-- What the gateway does in an event. -/
def emitted (out : Outside) (s : Traffic) : TrafficEvent → List ServiceEffect
  | .others _ _ => []
  | .deliver i answers =>
    match s.inbox[i]? with
    | some m => (handleIncomingMessage out s.state answers.reply m.1 m.2).effects
    | none => []
  | .door slot_index event slave_id => (handleDoorEvent out s.state slot_index event slave_id).effects
  | .heartbeat hb => heartbeats out s.state hb
  | .discovery found => [.publish (discoveryTopic out.MAC_ADDRESS) found]
  | .threadStep i => ((s.threads[i]?).bind List.head?).toList
  | .apiReset => [.clear]

/-- The messages that the broker returns. -/
def returned (out : Outside) (s : Traffic) (e : TrafficEvent) : List Message :=
  (s.emitted out e).filterMap (returnedBy out s.state)

/-- The inbox without what is delivered, or with what others have sent. -/
def received (out : Outside) (s : Traffic) : TrafficEvent → List Message
  | .others topic data =>
    if topic ∈ subscribedTopics out s.state then s.inbox ++ [(topic, data)] else s.inbox
  | .deliver i _ => s.inbox.eraseIdx i
  | _ => s.inbox

/-- The threads with those that are started, or without the effect that is done. -/
def scheduled (out : Outside) (s : Traffic) : TrafficEvent → List (List ServiceEffect)
  | .deliver i answers =>
    s.threads ++ (s.emitted out (.deliver i answers)).filterMap (threadOf out answers)
  | .threadStep i => s.threads.modify i List.tail
  | _ => s.threads

/-- The event can happen: there is a message, or an effect, to take. -/
def enabled (s : Traffic) : TrafficEvent → Bool
  | .deliver i _ => (s.inbox[i]?).isSome
  | .threadStep i => ((s.threads[i]?).bind List.head?).isSome
  | _ => true

def step (out : Outside) (s : Traffic) (e : TrafficEvent) : Option Traffic :=
  if s.enabled e then
    some ⟨(s.emitted out e).foldl CabinetState.apply s.state,
      s.received out e ++ s.returned out e, s.scheduled out e⟩
  else none

/-- The gateway before its first message. -/
def start (st : CabinetState) : Traffic := ⟨st, [], []⟩

end Traffic

/-! ## Calls of the serial manager -/

/-- The call that a handler makes: the slot and the slave. -/
def handlerCall (h : Handled) (st : CabinetState) (topic : PyStr) (data : Json) :
    Option (Json × Json) :=
  match splitSlash topic with
  | _ :: cabinet_name :: _ =>
    match st.getCabinetByName cabinet_name, data with
    | some cab, .obj d =>
      if h.takes (getD d "slotIndex" .null) then some (getD d "slotIndex" .null, slaveIdOf cab)
      else none
    | _, _ => none
  | _ => none

/-- The calls of `open_slot` or `close_slot` that a message makes. -/
def slotCalls (h : Handled) (st : CabinetState) (m : Message) : List (Json × Json) :=
  match m.2 with
  | some data => if routeOf m.1 = h.route then (handlerCall h st m.1 data).toList else []
  | none => []

/-- The number of calls in an event. -/
def callCount (h : Handled) (s : Traffic) : TrafficEvent → Nat
  | .deliver i _ =>
    match s.inbox[i]? with
    | some m => (slotCalls h s.state m).length
    | none => 0
  | _ => 0

theorem takes_notNone {h : Handled} {slot : Json} (ht : h.takes slot = true) : notNone slot = true := by
  cases h with
  | openLocker => exact (Bool.and_eq_true_iff.mp ht).1
  | closeLocker => exact ht

/-- A handler writes what its call writes. -/
theorem busWrites_handlerCall (h : Handled) (st : CabinetState) (topic : PyStr) (data : Json)
    {body : PyStr → Json → Json → CommandMessage → Py ServiceEffect Unit}
    {w : Json → Json → List (List UInt8)}
    (hbody : ∀ name id slave q, id.hashable = true → notNone q.slot_index = true →
      busWrites (body name id slave q).effects =
        if h.takes q.slot_index then w q.slot_index slave else []) :
    busWrites (handleCommand st topic data body).effects =
      (handlerCall h st topic data).toList.flatMap (fun c => w c.1 c.2) := by
  unfold handleCommand handlerCall
  rcases splitSlash topic with _ | ⟨_, _ | ⟨cabinet_name, tail⟩⟩
  · rfl
  · rfl
  dsimp only
  cases hcab : st.getCabinetByName cabinet_name with
  | none => rfl
  | some cab =>
    obtain ⟨id, k, hid, hk, -⟩ := CabinetState.id_of_mem (CabinetState.getCabinetByName_spec hcab).1
    dsimp only
    rw [hid, Py.ofExcept_ok_bind]
    cases data with
    | obj d =>
      have hslot : (CommandMessage.ofData d).slot_index = getD d "slotIndex" .null := rfl
      have hd : (Json.obj d).asDict = .ok d := rfl
      rw [hd, Py.ofExcept_ok_bind]
      dsimp only
      rw [hslot]
      cases hnone : notNone (getD d "slotIndex" .null) with
      | false =>
        have hno : ¬ h.takes (getD d "slotIndex" .null) = true := by
          intro ht
          rw [takes_notNone ht] at hnone
          cases hnone
        rw [if_neg Bool.false_ne_true, if_neg hno]
        rfl
      | true =>
        rw [if_pos rfl, hbody _ _ _ _ (hashable_of_key hk) (by rwa [hslot]), hslot]
        split
        · simp
        · rfl
    | _ => rfl

theorem busWrites_openCommand (out : Outside) (reply : Dict) (st : CabinetState) (topic : PyStr)
    (v : Json) :
    busWrites (handleOpenCommand out st reply topic v).effects =
      (handlerCall .openLocker st topic v).toList.flatMap
        (fun c => (written (openCommand out.U c.1 c.2)).toList) := by
  unfold handleOpenCommand
  refine busWrites_handlerCall .openLocker st topic v
    (w := fun slot slave => (written (openCommand out.U slot slave)).toList)
    fun name id slave q hid hslot => ?_
  rw [busWrites_runOpen out reply name slave q hid, Handled.takes, hslot, Bool.true_and]

theorem busWrites_closeCommand (out : Outside) (reply : Dict) (st : CabinetState) (topic : PyStr)
    (v : Json) :
    busWrites (handleCloseCommand out st reply topic v).effects =
      (handlerCall .closeLocker st topic v).toList.flatMap
        (fun c => (written (closeCommand out.U c.1 c.2)).toList) := by
  unfold handleCloseCommand
  refine busWrites_handlerCall .closeLocker st topic v
    (w := fun slot slave => (written (closeCommand out.U slot slave)).toList)
    fun name id slave q _ hslot => ?_
  rw [busWrites_runClose, Handled.takes, if_pos hslot]

/-- The handlers of the setup topics only start a thread or clear. -/
theorem busWrites_setupCommand (out : Outside) (topic : PyStr) (v : Json) :
    busWrites (handleSetupCommand out topic v).effects = [] := by
  unfold handleSetupCommand
  rw [busWrites_bind _ fun d => ?_]
  · rfl
  split
  · rw [busWrites_bind _ fun mac => ?_]
    · rfl
    split
    · rfl
    · split <;> rfl
  · rfl

theorem busWrites_clearSetupCommand (v : Json) : busWrites (handleClearSetupCommand v).effects = [] := by
  unfold handleClearSetupCommand
  rw [busWrites_bind _ fun d => ?_]
  · rfl
  split <;> rfl

/-- **The calls are what is written**: the command of each, as far as it can be encoded. -/
theorem busWrites_slotCalls (out : Outside) (reply : Dict) (st : CabinetState) (m : Message) :
    busWrites (handleIncomingMessage out st reply m.1 m.2).effects =
      (slotCalls .openLocker st m).flatMap (fun c => (written (openCommand out.U c.1 c.2)).toList) ++
        (slotCalls .closeLocker st m).flatMap
          (fun c => (written (closeCommand out.U c.1 c.2)).toList) := by
  obtain ⟨topic, data⟩ := m
  unfold handleIncomingMessage slotCalls
  dsimp only
  cases data with
  | none => cases routeOf topic <;> rfl
  | some v =>
    cases routeOf topic with
    | discovery => rfl
    | setup => exact busWrites_setupCommand out topic v
    | clearSetup => exact busWrites_clearSetupCommand v
    | openCommand =>
      have hother : ¬ Route.openCommand = Handled.closeLocker.route := Route.noConfusion
      dsimp only
      rw [busWrites_openCommand, if_pos (show Route.openCommand = Handled.openLocker.route from rfl),
        if_neg hother, List.flatMap_nil, List.append_nil]
    | closeCommand =>
      have hother : ¬ Route.closeCommand = Handled.openLocker.route := Route.noConfusion
      dsimp only
      rw [busWrites_closeCommand, if_pos (show Route.closeCommand = Handled.closeLocker.route from rfl),
        if_neg hother, List.flatMap_nil, List.nil_append]
    | unhandled => rfl

end SmartLocker.System
