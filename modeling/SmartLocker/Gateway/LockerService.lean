import Mathlib.Data.List.Infix
import SmartLocker.Lib.Cut
import SmartLocker.Gateway.CabinetState
import SmartLocker.Gateway.SerialManager

/-!
# The message handlers

Model of `LockerService`: the routing of MQTT messages by topic, and the open and close handlers.
A handler is a computation (`Py`) whose effects are what it makes the serial manager, the MQTT
client and the heartbeat service do.  The reply of the serial manager is an input, as is the clock.

What paho raises on a topic it does not accept is a parameter; such an exception ends the handler
where it is.
-/

set_option autoImplicit false

namespace SmartLocker.Gateway

open Lib Lib.Python

inductive LockerHwState where
  | OPENING
  | CLOSING
  | OFFLINE
  deriving DecidableEq, Repr

def LockerHwState.value : LockerHwState → Json
  | .OPENING => .lit "OPENING"
  | .CLOSING => .lit "CLOSING"
  | .OFFLINE => .lit "OFFLINE"

/-- What a handler or a setup does outside itself. -/
inductive ServiceEffect where
  /-- `heartbeat.update_locker_state` -/
  | setState (cabinet_id slot_index : Key) (hw_state : LockerHwState)
  /-- bytes on the RS485 bus -/
  | write (bytes : List UInt8)
  | publish (topic : PyStr) (payload : Dict)
  | subscribe (topic : PyStr)
  /-- `setup_handler.handle` -/
  | setup (payload : Dict) (topicPrefix : PyStr)
  /-- the thread that clears the cabinet state and stops the heartbeat -/
  | clearSetup
  /-- the discovery thread -/
  | discover (max_cabinets : Json)
  /-- `cabinet_state.clear` -/
  | clear
  | saveLocation (location_id name address : Json)
  | saveCabinet (a : CabinetArgs)
  | saveLockers (cabinet_id : Json) (lockers : List Dict)
  /-- `heartbeat.start` -/
  | heartbeatStart

/-- The code and data outside the repository that a handler uses. -/
structure Outside where
  U : Unicode
  /-- what `client.publish` raises for a topic -/
  publish : PyStr → Except PyErr Unit
  /-- `str.lower` -/
  lower : PyStr → PyStr
  MAC_ADDRESS : PyStr
  /-- the `isoformat` of the successive calls of `datetime.now` -/
  now : Nat → PyStr

/-! ## Services -/

def updateLockerState (cabinet_id slot_index : Json) (hw_state : LockerHwState) :
    Py ServiceEffect Unit := do
  let c ← Py.ofExcept cabinet_id.key
  let s ← Py.ofExcept slot_index.key
  Py.emit (.setState c s hw_state)

def mqttPublish (out : Outside) (topic : PyStr) (payload : Dict) : Py ServiceEffect Unit := do
  Py.ofExcept (out.publish topic)
  Py.emit (.publish topic payload)

/-- `_send_and_wait` as its caller sees it: the command is written and `reply` comes back, unless
the text cannot be encoded. -/
def sendAndWait (command : PyStr) (slot_index slave_id : Json) (reply : Dict) :
    Py ServiceEffect Dict :=
  match written command with
  | some bytes => do
    Py.emit (.write bytes)
    pure reply
  | none => pure (serialError slot_index slave_id)

def openSlot (U : Unicode) (slot_index slave_id : Json) (reply : Dict) : Py ServiceEffect Dict :=
  sendAndWait (openCommand U slot_index slave_id) slot_index slave_id reply

def closeSlot (U : Unicode) (slot_index slave_id : Json) (reply : Dict) : Py ServiceEffect Dict :=
  sendAndWait (closeCommand U slot_index slave_id) slot_index slave_id reply

/-! ## Verdicts -/

/-- What a handler concludes from the result of a command. -/
structure Verdict where
  status : String
  hw_state : LockerHwState
  error_code : Json
  message : PyStr

/-- `bool(result.get("door", True))`: true means closed. -/
def doorIsClosed (result : Dict) : Bool := (getD result "door" (.bool true)).truthy

def openVerdict (U : Unicode) (result : Dict) : Verdict :=
  if isOk result && !doorIsClosed result then
    ⟨"SUCCESS", .OPENING, .null, py "Door opened successfully"⟩
  else if isOk result && doorIsClosed result then
    ⟨"FAILED", .CLOSING, .lit "JAMMED", py "Command OK but door remained closed (jammed?)"⟩
  else
    ⟨"FAILED", .CLOSING, getD result "error" (.lit "SERIAL_ERROR"),
      py "Hardware error: " ++ (getD result "error" .null).pyStr U⟩

def closeVerdict (result : Dict) : Verdict :=
  if isOk result && doorIsClosed result then
    ⟨"SUCCESS", .CLOSING, .null, py "Door is closed and locked"⟩
  else
    ⟨"FAILED", if doorIsClosed result then .CLOSING else .OPENING,
      getD result "error" (.lit "HARDWARE_FAILURE"), py "Door failed to lock or is still open"⟩

/-! ## Messages -/

/-- What a command message asks for. -/
structure CommandMessage where
  locker_id : Json
  slot_index : Json
  command_id : Json

def CommandMessage.ofData (data : Dict) : CommandMessage :=
  ⟨getD data "lockerId" (.lit ""), getD data "slotIndex" .null, getD data "commandId" .null⟩

/-- `cabinet/{cabinet_name}/{rest}` -/
def cabinetTopic (cabinet_name : PyStr) (rest : String) : PyStr :=
  py "cabinet/" ++ cabinet_name ++ py "/" ++ py rest

/-- `res_payload`. -/
def resultPayload (q : CommandMessage) (v : Verdict) (timestamp : PyStr) : Dict :=
  [(py "commandId", q.command_id), (py "lockerId", q.locker_id), (py "slotIndex", q.slot_index),
    (py "status", .lit v.status), (py "hwState", v.hw_state.value), (py "errorCode", v.error_code),
    (py "errorMessage", .str v.message), (py "timestamp", .str timestamp)]

def ackTopic (U : Unicode) (cabinet_name : PyStr) (q : CommandMessage) : PyStr :=
  py "cabinet/" ++ cabinet_name ++ py "/locker/" ++ q.locker_id.pyStr U ++ py "/ack"

/-- `v is not None`. -/
def notNone : Json → Bool
  | .null => false
  | _ => true

/-- `OpenAckPayload.to_json` leaves out what is `None`. -/
def ackPayload (q : CommandMessage) (v : Verdict) (timestamp : PyStr) : Dict :=
  [(py "lockerId", q.locker_id), (py "slotIndex", q.slot_index), (py "status", .lit v.status),
    (py "message", .str v.message), (py "timestamp", .str timestamp),
    (py "errorCode", v.error_code)].filter (fun e => notNone e.2)

@[simp] theorem notNone_lit (s : String) : notNone (.lit s) = true := rfl

theorem ackPayload_status (q : CommandMessage) (v : Verdict) (timestamp : PyStr) :
    get? (ackPayload q v timestamp) "status" = some (.lit v.status) := by
  unfold ackPayload
  cases hl : notNone q.locker_id <;> cases hs : notNone q.slot_index <;>
    simp [List.filter_cons, hl, hs]

/-! ## Handlers -/

def isSlash (c : PyChar) : Bool := c == PyChar.uni '/'

/-- `s.split("/")`. -/
def splitSlash (s : PyStr) : List PyStr := Cut.split isSlash s

/-- `data.get(k, dflt)` of a cabinet: the slave id a handler uses. -/
def slaveIdOf (cab : Dict) : Json := getD cab "slaveId" (.int 1)

/-- The open handler, once the cabinet is found and a slot is given. -/
def runOpen (out : Outside) (reply : Dict) (cabinet_name : PyStr) (cabinet_id slave_id : Json)
    (q : CommandMessage) : Py ServiceEffect Unit := do
  updateLockerState cabinet_id q.slot_index .OPENING
  let result ← openSlot out.U q.slot_index slave_id reply
  let v := openVerdict out.U result
  mqttPublish out (cabinetTopic cabinet_name "command/open/result") (resultPayload q v (out.now 0))
  mqttPublish out (ackTopic out.U cabinet_name q) (ackPayload q v (out.now 1))
  updateLockerState cabinet_id q.slot_index v.hw_state

def runClose (out : Outside) (reply : Dict) (cabinet_name : PyStr) (cabinet_id slave_id : Json)
    (q : CommandMessage) : Py ServiceEffect Unit := do
  let result ← closeSlot out.U q.slot_index slave_id reply
  let v := closeVerdict result
  mqttPublish out (cabinetTopic cabinet_name "command/close/result") (resultPayload q v (out.now 0))
  updateLockerState cabinet_id q.slot_index v.hw_state

/-- What both handlers do first: the cabinet by the name in the topic, its id, its slave and the
request; then `body`. -/
def handleCommand (st : CabinetState) (topic : PyStr) (data : Json)
    (body : PyStr → Json → Json → CommandMessage → Py ServiceEffect Unit) :
    Py ServiceEffect Unit :=
  match splitSlash topic with
  | _ :: cabinet_name :: _ =>
    match st.getCabinetByName cabinet_name with
    | none => pure ()
    | some cab => do
      let cabinet_id ← Py.ofExcept (item cab "id")
      let d ← Py.ofExcept data.asDict
      let q := CommandMessage.ofData d
      if notNone q.slot_index then body cabinet_name cabinet_id (slaveIdOf cab) q
      else pure ()
  | _ => pure ()

def handleOpenCommand (out : Outside) (st : CabinetState) (reply : Dict) (topic : PyStr)
    (data : Json) : Py ServiceEffect Unit :=
  handleCommand st topic data (runOpen out reply)

def handleCloseCommand (out : Outside) (st : CabinetState) (reply : Dict) (topic : PyStr)
    (data : Json) : Py ServiceEffect Unit :=
  handleCommand st topic data (runClose out reply)

/-- `data.get("action", "") == s`. -/
def actionIs (d : Dict) (s : String) : Bool := (getD d "action" (.lit "")).pyEq (.lit s)

/-- `x.lower()`. -/
def lowerOf (out : Outside) : Json → Except PyErr PyStr
  | .str s => .ok (out.lower s)
  | _ => .error .AttributeError

def handleSetupCommand (out : Outside) (topic : PyStr) (data : Json) : Py ServiceEffect Unit := do
  let d ← Py.ofExcept data.asDict
  if actionIs d "SETUP_LOCKERS" || actionIs d "BULK_SETUP_LOCKERS" then
    let payload_mac ← Py.ofExcept (lowerOf out (getD d "macAddress" (.lit "")))
    if payload_mac ≠ out.lower out.MAC_ADDRESS then pure ()
    else
      match splitSlash topic with
      | p0 :: p1 :: _ => Py.emit (.setup d (p0 ++ py "/" ++ p1))
      | _ => pure ()
  else pure ()

def handleClearSetupCommand (data : Json) : Py ServiceEffect Unit := do
  let d ← Py.ofExcept data.asDict
  if actionIs d "CLEAR_SETUP" then Py.emit .clearSetup else pure ()

/-! ## Routing -/

def endsWith (topic : PyStr) (s : String) : Bool := decide (py s <:+ topic)

/-- `s in topic`. -/
def contains (topic : PyStr) (s : String) : Bool := decide (py s <:+: topic)

inductive Route where
  | discovery
  | setup
  | clearSetup
  | openCommand
  | closeCommand
  | unhandled
  deriving DecidableEq, Repr

/-- The tests of `handle_incoming_message` on the topic, in their order. -/
def routeOf (topic : PyStr) : Route :=
  if endsWith topic "/discovery/start" then .discovery
  else if endsWith topic "/command/setup" then .setup
  else if endsWith topic "/command/clear-setup" then .clearSetup
  else if contains topic "/command/open" then .openCommand
  else if contains topic "/command/close" then .closeCommand
  else .unhandled

/-- `max_cabinets`, `None` when the payload does not give it. -/
def maxCabinets : Option Json → Json
  | some (.obj d) => getD d "maxCabinets" .null
  | _ => .null

/-- `handle_incoming_message`, of a payload that `json.loads` reads as `data`. -/
def handleIncomingMessage (out : Outside) (st : CabinetState) (reply : Dict) (topic : PyStr)
    (data : Option Json) : Py ServiceEffect Unit :=
  match routeOf topic, data with
  | .discovery, _ => Py.emit (.discover (maxCabinets data))
  | _, none => pure ()
  | .setup, some v => handleSetupCommand out topic v
  | .clearSetup, some v => handleClearSetupCommand v
  | .openCommand, some v => handleOpenCommand out st reply topic v
  | .closeCommand, some v => handleCloseCommand out st reply topic v
  | .unhandled, some _ => pure ()

/-! ## Which handler runs -/

/-- What `split("/")` leaves of a cabinet name in its topics. -/
def segment (name : PyStr) : PyStr := name.takeWhile (fun c => !isSlash c)

theorem not_slash_of_free {name : PyStr} (h : PyChar.uni '/' ∉ name) :
    ∀ c ∈ name, isSlash c = false := by
  intro c hc
  have hne : c ≠ PyChar.uni '/' := fun he => h (he ▸ hc)
  simpa [isSlash] using hne

theorem segment_free {name : PyStr} (h : PyChar.uni '/' ∉ name) : segment name = name := by
  unfold segment
  rw [List.takeWhile_eq_self_iff]
  intro c hc
  simp [not_slash_of_free h c hc]

theorem segment_slash (name rest : PyStr) :
    segment (name ++ PyChar.uni '/' :: rest) = segment name := by
  unfold segment
  induction name with
  | nil => simp [isSlash]
  | cons c name ih => simp only [List.cons_append, List.takeWhile_cons, ih]

theorem splitSlash_cabinetTopic (name : PyStr) (rest : String) :
    ∃ tail, splitSlash (cabinetTopic name rest) = py "cabinet" :: segment name :: tail := by
  have htopic : cabinetTopic name rest =
      py "cabinet" ++ PyChar.uni '/' :: (name ++ PyChar.uni '/' :: py rest) := by
    simp [cabinetTopic, py, ofChars]
  have hcabinet : ∀ c ∈ py "cabinet", isSlash c = false := by decide
  obtain ⟨tail, htail⟩ := @Cut.split_head _ isSlash (name ++ PyChar.uni '/' :: py rest)
  refine ⟨tail, ?_⟩
  rw [splitSlash, htopic, Cut.split_line hcabinet (by decide), htail]
  exact congrArg (fun s => py "cabinet" :: s :: tail) (segment_slash name (py rest))

/-- Two topics that end otherwise. -/
theorem topic_ne {a b : PyStr} {s t : String} (ha : py s <:+ a) (hb : py t <:+ b)
    (h : ¬ py s <:+ py t) (h' : ¬ py t <:+ py s) : a ≠ b := by
  rintro rfl
  rcases Nat.le_total (py s).length (py t).length with hle | hle
  · exact h (List.suffix_of_suffix_length_le ha hb hle)
  · exact h' (List.suffix_of_suffix_length_le hb ha hle)

theorem suffix_of_topic {s : String} {topic : PyStr} {t : String} (hs : py t <:+ topic)
    (h : ¬ py s <:+ py t) (h' : ¬ py t <:+ py s) : endsWith topic s = false := by
  rw [endsWith, decide_eq_false_iff_not]
  exact fun hsuffix => topic_ne hsuffix hs h h' rfl

/-- A topic of a command goes to one of the two command handlers. -/
theorem routeOf_command {topic : PyStr} {t : String} (hs : py t <:+ topic)
    (ht : t = "/command/open" ∨ t = "/command/close") :
    routeOf topic =
      if contains topic "/command/open" then .openCommand
      else if contains topic "/command/close" then .closeCommand
      else .unhandled := by
  have h1 : endsWith topic "/discovery/start" = false := by
    rcases ht with rfl | rfl <;> exact suffix_of_topic hs (by decide) (by decide)
  have h2 : endsWith topic "/command/setup" = false := by
    rcases ht with rfl | rfl <;> exact suffix_of_topic hs (by decide) (by decide)
  have h3 : endsWith topic "/command/clear-setup" = false := by
    rcases ht with rfl | rfl <;> exact suffix_of_topic hs (by decide) (by decide)
  simp [routeOf, h1, h2, h3]

theorem suffix_cabinetTopic (name : PyStr) (rest : String) :
    py ("/" ++ rest) <:+ cabinetTopic name rest := by
  refine ⟨py "cabinet/" ++ name, ?_⟩
  simp [cabinetTopic, py, ofChars, String.toList_append]

theorem cabinetTopic_injective {a b : PyStr} {rest : String}
    (h : cabinetTopic a rest = cabinetTopic b rest) : a = b := by
  unfold cabinetTopic at h
  exact List.append_cancel_left (List.append_cancel_right (List.append_cancel_right h))

theorem routeOf_open (name : PyStr) :
    routeOf (cabinetTopic name "command/open") = .openCommand := by
  have hs : py "/command/open" <:+ cabinetTopic name "command/open" :=
    suffix_cabinetTopic name "command/open"
  have hc : contains (cabinetTopic name "command/open") "/command/open" = true := by
    rw [contains, decide_eq_true_iff]
    exact hs.isInfix
  rw [routeOf_command hs (Or.inl rfl), if_pos hc]

/-- The name of a cabinet can make its close topic an open topic. -/
theorem routeOf_close (name : PyStr) :
    routeOf (cabinetTopic name "command/close") =
      if contains (cabinetTopic name "command/close") "/command/open" then .openCommand
      else .closeCommand := by
  have hs : py "/command/close" <:+ cabinetTopic name "command/close" :=
    suffix_cabinetTopic name "command/close"
  have hc : contains (cabinetTopic name "command/close") "/command/close" = true := by
    rw [contains, decide_eq_true_iff]
    exact hs.isInfix
  rw [routeOf_command hs (Or.inr rfl), if_pos hc]

/-! ## What the handlers do -/

/-- The result of a command: the reply, or what stands for it when nothing could be written. -/
def commandResult (command : PyStr) (slot_index slave_id : Json) (reply : Dict) : Dict :=
  match written command with
  | some _ => reply
  | none => serialError slot_index slave_id

theorem sendAndWait_eq (command : PyStr) (slot_index slave_id : Json) (reply : Dict) :
    sendAndWait command slot_index slave_id reply =
      ⟨(written command).toList.map .write,
        .ok (commandResult command slot_index slave_id reply)⟩ := by
  unfold sendAndWait commandResult
  cases written command <;> rfl

theorem updateLockerState_eq {cabinet_id slot_index : Json} {c s : Key}
    (hc : cabinet_id.key = .ok c) (hs : slot_index.key = .ok s) (hw_state : LockerHwState) :
    updateLockerState cabinet_id slot_index hw_state = ⟨[.setState c s hw_state], .ok ()⟩ := by
  rw [updateLockerState, hc, hs]
  rfl

/-- An unhashable slot or id stops a handler that stores a state. -/
theorem updateLockerState_unhashable {cabinet_id slot_index : Json}
    (h : (cabinet_id.hashable && slot_index.hashable) = false) (hw_state : LockerHwState) :
    updateLockerState cabinet_id slot_index hw_state = Py.throw .TypeError := by
  unfold updateLockerState
  cases hc : cabinet_id.hashable with
  | false => rw [key_error hc]; rfl
  | true =>
    have hs : slot_index.hashable = false := by simpa [hc] using h
    obtain ⟨c, hc⟩ := key_ok hc
    rw [hc, key_error hs]
    rfl

theorem mqttPublish_ok {out : Outside} {topic : PyStr} {u : Unit}
    (h : out.publish topic = .ok u) (payload : Dict) :
    mqttPublish out topic payload = ⟨[.publish topic payload], .ok ()⟩ := by
  rw [mqttPublish, h]
  rfl

theorem mqttPublish_mem {out : Outside} {topic topic' : PyStr} {payload payload' : Dict}
    (h : .publish topic' payload' ∈ (mqttPublish out topic payload).effects) :
    topic' = topic ∧ payload' = payload := by
  rcases Py.mem_bind_effects h with h | ⟨-, h⟩
  · cases h
  · exact ServiceEffect.publish.inj (List.mem_singleton.mp h)

theorem mqttPublish_error {out : Outside} {topic : PyStr} {e : PyErr}
    (h : out.publish topic = .error e) (payload : Dict) :
    mqttPublish out topic payload = Py.throw e := by
  rw [mqttPublish, h]
  rfl

/-- What the open handler does after it has the verdict `v`. -/
def openReport (out : Outside) (name : PyStr) (q : CommandMessage) (v : Verdict) (c s : Key) :
    List ServiceEffect :=
  let result := resultPayload q v (out.now 0)
  let ack := ackPayload q v (out.now 1)
  match out.publish (cabinetTopic name "command/open/result") with
  | .error _ => []
  | .ok _ => .publish (cabinetTopic name "command/open/result") result ::
    match out.publish (ackTopic out.U name q) with
    | .error _ => []
    | .ok _ => [.publish (ackTopic out.U name q) ack, .setState c s v.hw_state]

theorem runOpen_effects (out : Outside) (reply : Dict) (name : PyStr) {cabinet_id : Json}
    (slave_id : Json) {q : CommandMessage} {c s : Key} (hc : cabinet_id.key = .ok c)
    (hs : q.slot_index.key = .ok s) :
    (runOpen out reply name cabinet_id slave_id q).effects =
      .setState c s .OPENING ::
        (written (openCommand out.U q.slot_index slave_id)).toList.map .write ++
          openReport out name q
            (openVerdict out.U (commandResult (openCommand out.U q.slot_index slave_id)
              q.slot_index slave_id reply)) c s := by
  unfold runOpen openSlot
  simp only [sendAndWait_eq, updateLockerState_eq hc hs, Py.mk_ok_bind]
  generalize openVerdict out.U _ = v
  rw [List.singleton_append, List.cons_append]
  congr 2
  unfold openReport
  cases hr : out.publish (cabinetTopic name "command/open/result") with
  | error e => rw [mqttPublish_error hr]; rfl
  | ok _ =>
    rw [mqttPublish_ok hr, Py.mk_ok_bind]
    cases ha : out.publish (ackTopic out.U name q) with
    | error e => rw [mqttPublish_error ha]; rfl
    | ok _ => rw [mqttPublish_ok ha, Py.mk_ok_bind]; rfl

/-- What the close handler does after it has the verdict `v`. -/
def closeReport (out : Outside) (name : PyStr) (q : CommandMessage) (v : Verdict) (c s : Key) :
    List ServiceEffect :=
  match out.publish (cabinetTopic name "command/close/result") with
  | .error _ => []
  | .ok _ => [.publish (cabinetTopic name "command/close/result") (resultPayload q v (out.now 0)),
      .setState c s v.hw_state]

theorem runClose_effects (out : Outside) (reply : Dict) (name : PyStr) {cabinet_id : Json}
    (slave_id : Json) {q : CommandMessage} {c s : Key} (hc : cabinet_id.key = .ok c)
    (hs : q.slot_index.key = .ok s) :
    (runClose out reply name cabinet_id slave_id q).effects =
      (written (closeCommand out.U q.slot_index slave_id)).toList.map .write ++
        closeReport out name q
          (closeVerdict (commandResult (closeCommand out.U q.slot_index slave_id)
            q.slot_index slave_id reply)) c s := by
  unfold runClose closeSlot
  simp only [sendAndWait_eq, Py.mk_ok_bind]
  generalize closeVerdict _ = v
  congr 1
  unfold closeReport
  cases hr : out.publish (cabinetTopic name "command/close/result") with
  | error e => rw [mqttPublish_error hr]; rfl
  | ok _ => rw [mqttPublish_ok hr, Py.mk_ok_bind, updateLockerState_eq hc hs]; rfl

/-! ## What the handlers write -/

/-- The writes among effects. -/
def busWrites (es : List ServiceEffect) : List (List UInt8) :=
  es.filterMap (fun e => match e with
    | .write bytes => some bytes
    | _ => none)

theorem busWrites_append (a b : List ServiceEffect) :
    busWrites (a ++ b) = busWrites a ++ busWrites b :=
  List.filterMap_append

theorem busWrites_openReport (out : Outside) (name : PyStr) (q : CommandMessage) (v : Verdict)
    (c s : Key) : busWrites (openReport out name q v c s) = [] := by
  unfold openReport
  dsimp only
  split
  · rfl
  split <;> rfl

theorem busWrites_write (o : Option (List UInt8)) : busWrites (o.toList.map .write) = o.toList := by
  cases o <;> rfl

/-- What follows a computation adds no write when it has none. -/
theorem busWrites_bind {α : Type} (x : Py ServiceEffect α) {f : α → Py ServiceEffect Unit}
    (h : ∀ a, busWrites (f a).effects = []) :
    busWrites (x >>= f).effects = busWrites x.effects := by
  cases hx : x.result with
  | error e => rw [Py.bind_error hx]
  | ok a => rw [Py.bind_ok hx, busWrites_append, h, List.append_nil]

theorem busWrites_updateLockerState (cabinet_id slot_index : Json) (hw_state : LockerHwState) :
    busWrites (updateLockerState cabinet_id slot_index hw_state).effects = [] := by
  unfold updateLockerState
  cases cabinet_id.key <;> cases slot_index.key <;> rfl

theorem busWrites_mqttPublish (out : Outside) (topic : PyStr) (payload : Dict) :
    busWrites (mqttPublish out topic payload).effects = [] := by
  cases h : out.publish topic with
  | error e => rw [mqttPublish_error h]; rfl
  | ok _ => rw [mqttPublish_ok h]; rfl

theorem busWrites_sendAndWait (command : PyStr) (slot_index slave_id : Json) (reply : Dict) :
    busWrites (sendAndWait command slot_index slave_id reply).effects =
      (written command).toList := by
  rw [sendAndWait_eq, busWrites_write]

/-- **The open handler writes one command at most**, none for a slot that is no dict key. -/
theorem busWrites_runOpen (out : Outside) (reply : Dict) (name : PyStr) {cabinet_id : Json}
    (slave_id : Json) (q : CommandMessage) (hc : cabinet_id.hashable = true) :
    busWrites (runOpen out reply name cabinet_id slave_id q).effects =
      if q.slot_index.hashable then
        (written (openCommand out.U q.slot_index slave_id)).toList
      else [] := by
  unfold runOpen
  cases hs : q.slot_index.hashable with
  | false => rw [updateLockerState_unhashable (by simp [hs])]; rfl
  | true =>
    obtain ⟨c, hc⟩ := key_ok hc
    obtain ⟨s, hs⟩ := key_ok hs
    rw [updateLockerState_eq hc hs, Py.bind_ok rfl, busWrites_append, if_pos rfl]
    refine (busWrites_bind (openSlot out.U q.slot_index slave_id reply) fun result => ?_).trans
      (busWrites_sendAndWait _ _ _ _)
    rw [busWrites_bind _ fun _ => ?_, busWrites_mqttPublish]
    rw [busWrites_bind _ fun _ => busWrites_updateLockerState _ _ _, busWrites_mqttPublish]

theorem busWrites_runClose (out : Outside) (reply : Dict) (name : PyStr)
    (cabinet_id slave_id : Json) (q : CommandMessage) :
    busWrites (runClose out reply name cabinet_id slave_id q).effects =
      (written (closeCommand out.U q.slot_index slave_id)).toList := by
  unfold runClose
  refine (busWrites_bind (closeSlot out.U q.slot_index slave_id reply) fun result => ?_).trans
    (busWrites_sendAndWait _ _ _ _)
  rw [busWrites_bind _ fun _ => busWrites_updateLockerState _ _ _, busWrites_mqttPublish]

/-! ## What a command message writes -/

/-- The two commands a backend sends to a cabinet. -/
inductive Handled where
  | openLocker
  | closeLocker
  deriving DecidableEq, Repr

def Handled.topic : Handled → PyStr → PyStr
  | .openLocker, name => cabinetTopic name "command/open"
  | .closeLocker, name => cabinetTopic name "command/close"

/-- The handler that a message on the topic of `h` for the name reaches. -/
def Handled.reached (h : Handled) (name : PyStr) : Handled :=
  if contains (h.topic name) "/command/open" then .openLocker else .closeLocker

def Handled.action : Handled → SlotAction
  | .openLocker => .O
  | .closeLocker => .C

/-- Whether the handler sends anything for a slot: the open handler needs it as a dict key. -/
def Handled.takes : Handled → Json → Bool
  | .openLocker, slot_index => notNone slot_index && slot_index.hashable
  | .closeLocker, slot_index => notNone slot_index

def Handled.route : Handled → Route
  | .openLocker => .openCommand
  | .closeLocker => .closeCommand

theorem routeOf_topic (h : Handled) (name : PyStr) :
    routeOf (h.topic name) = (h.reached name).route := by
  unfold Handled.reached
  cases h with
  | openLocker =>
    have hc : contains (cabinetTopic name "command/open") "/command/open" = true := by
      rw [contains, decide_eq_true_iff]
      exact (suffix_cabinetTopic name "command/open").isInfix
    rw [Handled.topic, routeOf_open, if_pos hc, Handled.route]
  | closeLocker =>
    rw [Handled.topic, routeOf_close]
    split <;> rfl

theorem handle_command_topic (out : Outside) (st : CabinetState) (reply : Dict) (h : Handled)
    (name : PyStr) (data : Json) :
    handleIncomingMessage out st reply (h.topic name) (some data) =
      match h.reached name with
      | .openLocker => handleOpenCommand out st reply (h.topic name) data
      | .closeLocker => handleCloseCommand out st reply (h.topic name) data := by
  unfold handleIncomingMessage
  rw [routeOf_topic]
  cases h.reached name <;> rfl

/-- A command handler on the topic of a name looks its first segment up. -/
theorem handleCommand_topic (st : CabinetState) (h : Handled) (name : PyStr) (d : Dict)
    (body : PyStr → Json → Json → CommandMessage → Py ServiceEffect Unit) {cab : Dict}
    {id : Json}
    (hcab : st.getCabinetByName (segment name) = some cab) (hid : item cab "id" = .ok id) :
    handleCommand st (h.topic name) (.obj d) body =
      if notNone (getD d "slotIndex" .null) then
        body (segment name) id (slaveIdOf cab) (CommandMessage.ofData d)
      else pure () := by
  have htopic : ∃ rest, h.topic name = cabinetTopic name rest := by
    cases h
    · exact ⟨_, rfl⟩
    · exact ⟨_, rfl⟩
  obtain ⟨rest, hrest⟩ := htopic
  obtain ⟨tail, htail⟩ := splitSlash_cabinetTopic name rest
  simp only [handleCommand, hrest, htail, hcab, hid, Json.asDict, Py.ofExcept_ok_bind]
  rfl

theorem handleCommand_unknown (st : CabinetState) (h : Handled) (name : PyStr) (data : Json)
    (body : PyStr → Json → Json → CommandMessage → Py ServiceEffect Unit)
    (hcab : st.getCabinetByName (segment name) = none) :
    handleCommand st (h.topic name) data body = pure () := by
  have htopic : ∃ rest, h.topic name = cabinetTopic name rest := by
    cases h
    · exact ⟨_, rfl⟩
    · exact ⟨_, rfl⟩
  obtain ⟨rest, hrest⟩ := htopic
  obtain ⟨tail, htail⟩ := splitSlash_cabinetTopic name rest
  simp only [handleCommand, hrest, htail, hcab]

/-- **What a command message writes**: at most the one command of the handler it reaches, for the
cabinet that the first segment of the name finds. -/
theorem busWrites_message (out : Outside) (st : CabinetState) (reply : Dict) (h : Handled)
    (name : PyStr) (d : Dict) :
    busWrites (handleIncomingMessage out st reply (h.topic name) (some (.obj d))).effects =
      match st.getCabinetByName (segment name) with
      | none => []
      | some cab =>
        if (h.reached name).takes (getD d "slotIndex" .null) then
          (written ((h.reached name).action.command out.U (getD d "slotIndex" .null)
            (slaveIdOf cab))).toList
        else [] := by
  rw [handle_command_topic]
  unfold handleOpenCommand handleCloseCommand
  cases hcab : st.getCabinetByName (segment name) with
  | none =>
    rw [handleCommand_unknown st h name _ _ hcab, handleCommand_unknown st h name _ _ hcab]
    cases h.reached name <;> rfl
  | some cab =>
    obtain ⟨id, k, hid, hk, -⟩ :=
      CabinetState.id_of_mem (CabinetState.getCabinetByName_spec hcab).1
    rw [handleCommand_topic st h name d _ hcab hid, handleCommand_topic st h name d _ hcab hid]
    cases hslot : notNone (getD d "slotIndex" .null) with
    | false => cases h.reached name <;> simp [Handled.takes, hslot] <;> rfl
    | true =>
      cases h.reached name with
      | openLocker =>
        simp only [if_true, Handled.takes, hslot, Bool.true_and, Handled.action,
          SlotAction.command]
        exact busWrites_runOpen out reply _ _ _ (hashable_of_key hk)
      | closeLocker =>
        simp only [if_true, Handled.takes, hslot, Handled.action, SlotAction.command]
        exact busWrites_runClose out reply _ _ _ _

end SmartLocker.Gateway
