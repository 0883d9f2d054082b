import SmartLocker.Gateway.LockerService

/-!
# The demo cabinet

Model of `simulate_demo_cabinet`, the script that answers open commands without a cabinet: the message
callback, the thread that replies after a delay and the timer that reports the door closed.
-/

set_option autoImplicit false

namespace SmartLocker.Gateway

open Lib Lib.Python

/-- The code and data outside the repository that the script uses, and its settings. -/
structure SimulatorOutside extends Outside where
  SIM_FORCE_FAIL : Bool
  /-- `client.is_connected`: when a heartbeat is due, and when a door state is -/
  isConnected : Bool
  isConnectedAt : String → Bool
  /-- what `print` raises for a line, and for the line about a reply -/
  print : PyStr → Except PyErr Unit
  printReply : PyStr → Dict → Except PyErr Unit

/-- What the script does. -/
inductive SimulatorEffect where
  | publish (topic : PyStr) (payload : Dict)
  /-- `_known_cabinets.add` -/
  | learn (cabinet_id : PyStr)
  /-- the thread of `_reply_after_delay` -/
  | reply (locker_id : PyStr) (command_id box_id : Json)
  /-- the timer that reports the door closed -/
  | closeLater (locker_id : PyStr) (box_id : Json)

namespace Simulator

def publish (io : SimulatorOutside) (topic : PyStr) (payload : Dict) : Py SimulatorEffect Unit := do
  Py.ofExcept (io.publish topic)
  Py.emit (.publish topic payload)

def publishHeartbeat (io : SimulatorOutside) (cabinet_id : PyStr) : Py SimulatorEffect Unit :=
  if io.isConnected then
    publish io (cabinetTopic cabinet_id "heartbeat")
      [(py "status", .lit "ONLINE"), (py "timestamp", .str (io.now 0))]
  else pure ()

/-- `_learn_cabinet`, `known` being `_known_cabinets`. -/
def learnCabinet (io : SimulatorOutside) (known : List PyStr) (cabinet_id : PyStr) :
    Py SimulatorEffect Unit := do
  Py.emit (.learn cabinet_id)
  if cabinet_id ∈ known then pure ()
  else do
    Py.ofExcept (io.print (py "[SIM] Learned cabinet " ++ cabinet_id ++ py " -> heartbeating it"))
    publishHeartbeat io cabinet_id

def reportBoxHwState (io : SimulatorOutside) (locker_id : PyStr) (box_id : Json) (hw_state : String) :
    Py SimulatorEffect Unit :=
  if io.isConnectedAt hw_state then do
    let topic := py "cabinet/" ++ locker_id ++ py "/locker/" ++ box_id.pyStr io.U ++ py "/status"
    publish io topic [(py "slotIndex", box_id), (py "hwState", .lit hw_state),
      (py "timestamp", .str (io.now 2))]
    Py.ofExcept (io.print (py "[SIM] HW state -> " ++ topic ++ py ": box=" ++ box_id.pyStr io.U ++
      py " " ++ py hw_state))
  else pure ()

/-- The payload of a reply. -/
def replyPayload (io : SimulatorOutside) (locker_id : PyStr) (command_id box_id : Json) : Dict :=
  [(py "commandId", command_id), (py "lockerId", .str locker_id), (py "boxId", box_id),
    (py "status", .lit (if io.SIM_FORCE_FAIL then "FAILED" else "SUCCESS")),
    (py "hwState", .lit (if io.SIM_FORCE_FAIL then "CLOSING" else "OPENING")),
    (py "errorCode", if io.SIM_FORCE_FAIL then .lit "SIMULATED_FAILURE" else .null),
    (py "errorMessage",
      .lit (if io.SIM_FORCE_FAIL then "Simulated hardware failure" else "Simulated: door opened")),
    (py "timestamp", .str (io.now 1))]

/-- `_reply_after_delay`, once the delay is over. -/
def replyAfterDelay (io : SimulatorOutside) (locker_id : PyStr) (command_id box_id : Json) :
    Py SimulatorEffect Unit := do
  let payload := replyPayload io locker_id command_id box_id
  let result_topic := cabinetTopic locker_id "command/open/result"
  publish io result_topic payload
  Py.ofExcept (io.printReply result_topic payload)
  if !io.SIM_FORCE_FAIL && notNone box_id then do
    reportBoxHwState io locker_id box_id "OPEN"
    Py.emit (.closeLater locker_id box_id)
  else pure ()

/-- The line about a message on a sync topic. -/
def syncLine (U : Unicode) (locker_id : PyStr) (d : Dict) : PyStr :=
  let box_id := getD d "boxId" (getD d "box_id" .null)
  let order_id := getD d "orderId" .null
  py "[SIM] SYNC: cabinet display updated -> locker=" ++ locker_id ++ py " box=" ++ box_id.pyStr U ++
    py " state=" ++ (getD d "state" .null).pyStr U ++
    if notNone order_id then py " order=" ++ order_id.pyStr U else []

/-- The line about an open command. -/
def openLine (U : Unicode) (locker_id : PyStr) (d : Dict) : PyStr :=
  py "[SIM] OPEN request: locker=" ++ locker_id ++ py " box=" ++
    (getD d "box_id" (getD d "boxId" .null)).pyStr U ++ py " commandId=" ++
    (getD d "commandId" .null).pyStr U

/-- `_on_message`, of a payload that `json.loads` reads as `data`. -/
def onMessage (io : SimulatorOutside) (known : List PyStr) (topic : PyStr) (data : Option Json) :
    Py SimulatorEffect Unit :=
  match splitSlash topic with
  | _ :: locker_id :: _ => do
    learnCabinet io known locker_id
    match data with
    | none => Py.ofExcept (io.print (py "[SIM] Ignoring non-JSON payload on " ++ topic))
    | some data => do
      let d ← Py.ofExcept data.asDict
      if endsWith topic "/command/sync" then Py.ofExcept (io.print (syncLine io.U locker_id d))
      else do
        Py.ofExcept (io.print (openLine io.U locker_id d))
        Py.emit (.reply locker_id (getD d "commandId" .null) (getD d "box_id" (getD d "boxId" .null)))
  | _ => pure ()

/-- What a thread or a timer does that was started. -/
def started (io : SimulatorOutside) : SimulatorEffect → List SimulatorEffect
  | .reply locker_id command_id box_id => (replyAfterDelay io locker_id command_id box_id).effects
  | .closeLater locker_id box_id => (reportBoxHwState io locker_id box_id "CLOSED").effects
  | _ => []

/-- All that follows from a message: the callback, its thread and the timer of that. -/
def reaction (io : SimulatorOutside) (known : List PyStr) (topic : PyStr) (data : Option Json) :
    List SimulatorEffect :=
  let callback := (onMessage io known topic data).effects
  let threads := callback.flatMap (started io)
  callback ++ threads ++ threads.flatMap (started io)

/-! ## What is published -/

/-- The payloads published on a topic. -/
def publishedOn (topic : PyStr) (es : List SimulatorEffect) : List Dict :=
  es.filterMap (fun e => match e with
    | .publish t p => if t = topic then some p else none
    | _ => none)

theorem publishedOn_append (topic : PyStr) (a b : List SimulatorEffect) :
    publishedOn topic (a ++ b) = publishedOn topic a ++ publishedOn topic b :=
  List.filterMap_append

theorem publish_ok {io : SimulatorOutside} {topic : PyStr} {u : Unit} (h : io.publish topic = .ok u)
    (payload : Dict) : publish io topic payload = ⟨[.publish topic payload], .ok ()⟩ := by
  rw [publish, h]
  rfl

theorem publish_error {io : SimulatorOutside} {topic : PyStr} {e : PyErr}
    (h : io.publish topic = .error e) (payload : Dict) : publish io topic payload = Py.throw e := by
  rw [publish, h]
  rfl

theorem publishedOn_nil {topic : PyStr} {es : List SimulatorEffect}
    (h : ∀ t p, .publish t p ∈ es → t ≠ topic) : publishedOn topic es = [] := by
  unfold publishedOn
  rw [List.filterMap_eq_nil_iff]
  intro e he
  split
  · rename_i t p
    rw [if_neg (h t p he)]
  · rfl

theorem publish_mem {io : SimulatorOutside} {topic t : PyStr} {payload p : Dict}
    (h : .publish t p ∈ (publish io topic payload).effects) : t = topic := by
  rcases Py.mem_bind_effects h with h | ⟨-, h⟩
  · cases h
  · exact (SimulatorEffect.publish.inj (List.mem_singleton.mp h)).1

theorem learnCabinet_topic {io : SimulatorOutside} {known : List PyStr} {cabinet_id t : PyStr} {p : Dict}
    (h : .publish t p ∈ (learnCabinet io known cabinet_id).effects) :
    t = cabinetTopic cabinet_id "heartbeat" := by
  rcases Py.mem_bind_effects h with h | ⟨-, h⟩
  · cases List.mem_singleton.mp h
  split at h
  · cases h
  rcases Py.mem_bind_effects h with h | ⟨-, h⟩
  · cases h
  unfold publishHeartbeat at h
  split at h
  · exact publish_mem h
  · cases h

theorem reportBoxHwState_topic {io : SimulatorOutside} {locker_id t : PyStr} {box_id : Json}
    {hw_state : String} {p : Dict}
    (h : .publish t p ∈ (reportBoxHwState io locker_id box_id hw_state).effects) :
    py "/status" <:+ t := by
  unfold reportBoxHwState at h
  split at h
  · rcases Py.mem_bind_effects h with h | ⟨-, h⟩
    · rw [publish_mem h]
      exact List.suffix_append _ _
    · cases h
  · cases h

/-- **The reply** is published on the topic of the result, if the client takes it. -/
theorem publishedOn_reply (io : SimulatorOutside) (locker_id name : PyStr) (command_id box_id : Json) :
    publishedOn (cabinetTopic name "command/open/result")
        (replyAfterDelay io locker_id command_id box_id).effects =
      if locker_id = name ∧ io.publish (cabinetTopic name "command/open/result") = .ok () then
        [replyPayload io locker_id command_id box_id]
      else [] := by
  have hstatus : ∀ (x : Py SimulatorEffect Unit) t p,
      .publish t p ∈ (x >>= fun _ => Py.emit (.closeLater locker_id box_id)).effects →
        .publish t p ∈ x.effects := by
    intro x t p h
    rcases Py.mem_bind_effects h with h | ⟨-, h⟩
    · exact h
    · cases List.mem_singleton.mp h
  have hrest : ∀ t p, .publish t p ∈ (Py.ofExcept (io.printReply
      (cabinetTopic locker_id "command/open/result")
      (replyPayload io locker_id command_id box_id)) >>= fun _ =>
        if (!io.SIM_FORCE_FAIL && notNone box_id) = true then do
          reportBoxHwState io locker_id box_id "OPEN"
          Py.emit (.closeLater locker_id box_id)
        else pure ()).effects → t ≠ cabinetTopic name "command/open/result" := by
    intro t p h
    rcases Py.mem_bind_effects h with h | ⟨-, h⟩
    · cases h
    split at h
    · exact topic_ne (reportBoxHwState_topic (hstatus _ _ _ h))
        (suffix_cabinetTopic name "command/open/result") (by decide) (by decide)
    · cases h
  unfold replyAfterDelay
  dsimp only
  cases hp : io.publish (cabinetTopic locker_id "command/open/result") with
  | error e =>
    have hno : ¬ (locker_id = name ∧
        io.publish (cabinetTopic name "command/open/result") = .ok ()) := by
      rintro ⟨rfl, h⟩
      rw [hp] at h
      cases h
    rw [publish_error hp, if_neg hno]
    rfl
  | ok _ =>
    rw [publish_ok hp, Py.mk_ok_bind]
    dsimp only
    rw [publishedOn_append, publishedOn_nil hrest, List.append_nil]
    by_cases hname : locker_id = name
    · subst hname
      simp [publishedOn, hp]
    · have hne : cabinetTopic locker_id "command/open/result" ≠
          cabinetTopic name "command/open/result" := fun h => hname (cabinetTopic_injective h)
      simp [publishedOn, hne, hname]

theorem learnCabinet_started (io : SimulatorOutside) {known : List PyStr} {cabinet_id : PyStr} :
    (learnCabinet io known cabinet_id).effects.flatMap (started io) = [] := by
  rw [List.flatMap_eq_nil_iff]
  intro e he
  rcases Py.mem_bind_effects he with he | ⟨-, he⟩
  · rw [List.mem_singleton.mp he]
    rfl
  split at he
  · cases he
  rcases Py.mem_bind_effects he with he | ⟨-, he⟩
  · cases he
  unfold publishHeartbeat at he
  split at he
  · rcases Py.mem_bind_effects he with he | ⟨-, he⟩
    · cases he
    · rw [List.mem_singleton.mp he]
      rfl
  · cases he

/-- What follows the reply is a state of the door. -/
theorem replyAfterDelay_started {io : SimulatorOutside} {locker_id t : PyStr} {command_id box_id : Json}
    {p : Dict} (h : .publish t p ∈
      (replyAfterDelay io locker_id command_id box_id).effects.flatMap (started io)) :
    py "/status" <:+ t := by
  obtain ⟨e, he, h⟩ := List.mem_flatMap.mp h
  cases e with
  | closeLater _ _ => exact reportBoxHwState_topic h
  | publish _ _ => cases h
  | learn _ => cases h
  | reply l c b =>
    rcases Py.mem_bind_effects he with he | ⟨-, he⟩
    · rcases Py.mem_bind_effects he with he | ⟨-, he⟩
      · cases he
      · cases List.mem_singleton.mp he
    rcases Py.mem_bind_effects he with he | ⟨-, he⟩
    · cases he
    split at he
    · rcases Py.mem_bind_effects he with he | ⟨-, he⟩
      · unfold reportBoxHwState at he
        split at he
        · rcases Py.mem_bind_effects he with he | ⟨-, he⟩
          · rcases Py.mem_bind_effects he with he | ⟨-, he⟩
            · cases he
            · cases List.mem_singleton.mp he
          · cases he
        · cases he
      · cases List.mem_singleton.mp he
    · cases he

theorem learnCabinet_ok {io : SimulatorOutside} {known : List PyStr} {cabinet_id : PyStr} :
    (learnCabinet io known cabinet_id).result = .ok () ↔ cabinet_id ∈ known ∨
      io.print (py "[SIM] Learned cabinet " ++ cabinet_id ++ py " -> heartbeating it") = .ok () ∧
        (io.isConnected = true → io.publish (cabinetTopic cabinet_id "heartbeat") = .ok ()) := by
  unfold learnCabinet
  by_cases hknown : cabinet_id ∈ known
  · rw [if_pos hknown]
    exact iff_of_true rfl (Or.inl hknown)
  · rw [if_neg hknown, or_iff_right hknown]
    cases io.print (py "[SIM] Learned cabinet " ++ cabinet_id ++ py " -> heartbeating it") with
    | error e => exact iff_of_false (fun h => by cases h) (fun h => by cases h.1)
    | ok _ =>
      rw [and_iff_right rfl]
      unfold publishHeartbeat
      cases io.isConnected with
      | false => exact iff_of_true rfl (fun h => by cases h)
      | true =>
        rw [forall_prop_of_true rfl]
        cases hp : io.publish (cabinetTopic cabinet_id "heartbeat") with
        | error e =>
          rw [if_pos rfl, publish_error hp]
          exact iff_of_false (fun h => by cases h) (fun h => by cases h)
        | ok _ =>
          rw [if_pos rfl, publish_ok hp]
          exact iff_of_true rfl rfl

/-- An open command on its topic. -/
theorem onMessage_open (io : SimulatorOutside) (known : List PyStr) (name : PyStr) (d : Dict) :
    onMessage io known (cabinetTopic name "command/open") (some (.obj d)) =
      learnCabinet io known (segment name) >>= fun _ =>
        Py.ofExcept (io.print (openLine io.U (segment name) d)) >>= fun _ =>
          Py.emit (.reply (segment name) (getD d "commandId" .null)
            (getD d "box_id" (getD d "boxId" .null))) := by
  obtain ⟨tail, htail⟩ := splitSlash_cabinetTopic name "command/open"
  have hsync : endsWith (cabinetTopic name "command/open") "/command/sync" = false :=
    suffix_of_topic (suffix_cabinetTopic name "command/open") (by decide) (by decide)
  unfold onMessage
  rw [htail]
  dsimp only
  rw [hsync]
  rfl

/-- **What follows from an open command**: what learning the cabinet does, and the thread of the reply
with its timer, if nothing raises. -/
theorem reaction_open (io : SimulatorOutside) (known : List PyStr) (name : PyStr) (d : Dict) :
    reaction io known (cabinetTopic name "command/open") (some (.obj d)) =
      (learnCabinet io known (segment name)).effects ++
        match (learnCabinet io known (segment name)).result,
          io.print (openLine io.U (segment name) d) with
        | .ok _, .ok _ =>
          let reply := SimulatorEffect.reply (segment name) (getD d "commandId" .null)
            (getD d "box_id" (getD d "boxId" .null))
          reply :: started io reply ++ (started io reply).flatMap (started io)
        | _, _ => [] := by
  unfold reaction
  rw [onMessage_open]
  cases hl : (learnCabinet io known (segment name)).result with
  | error e =>
    rw [Py.bind_error hl]
    simp only [learnCabinet_started, List.flatMap_nil, List.append_nil]
  | ok _ =>
    rw [Py.bind_ok hl]
    cases io.print (openLine io.U (segment name) d) with
    | error e =>
      simp only [Py.ofExcept_error_bind, Py.effects_throw, List.append_nil, learnCabinet_started,
        List.flatMap_nil]
    | ok _ =>
      simp only [Py.ofExcept_ok_bind, Py.effects_emit, List.flatMap_append, learnCabinet_started,
        List.nil_append, List.flatMap_singleton, List.append_assoc, List.cons_append]

end Simulator

end SmartLocker.Gateway
