import SmartLocker.Gateway.Reports
import SmartLocker.Lib.Machine
import SmartLocker.System.Subscriptions

/-!
# The reported state and the sensor

Door events and the replies to commands carry the reading of a door sensor.  Three handlers write what
heartbeats show for a slot, each with defaults of its own when a reply has no reading.  The handlers of
commands write it for the slot that they were asked for, whatever slot the reply is about.

A run takes door events, and commands that are handled to their end, for any cabinets; the machine keeps
the last reading of each slot beside the states.

* `Follows` — the state of each slot of a cabinet is that of its last reading;
* `Conclusive` — what a step needs for that to stay so;
* `reported_follows` — it holds in every state of a run just if every step is conclusive.
-/

set_option autoImplicit false

namespace SmartLocker.System

open Lib Lib.Python Lib.Machine SmartLocker.Gateway

/-! ## Readings -/

/-- The state that a reading stands for, `true` being a closed door; without a reading it is closed. -/
def implied : Option Bool → LockerHwState
  | some false => .OPENING
  | _ => .CLOSING

/-- The reading in a reply. -/
def readingOf (result : Dict) : Option Bool :=
  if (getD result "error" .null).pyEq (.lit "INVALID_SLOT") then none
  else (get? result "door").map Json.truthy

inductive SensorStep where
  | doorEvent (out : Outside) (slot_index : Json) (event : DoorEvent) (slave_id : Json)
  | openCommand (out : Outside) (topic : PyStr) (data : Json) (reply : Dict)
  | closeCommand (out : Outside) (topic : PyStr) (data : Json) (reply : Dict)

def SensorStep.handler (st : CabinetState) : SensorStep → Py ServiceEffect Unit
  | .doorEvent out slot_index event slave_id => handleDoorEvent out st slot_index event slave_id
  | .openCommand out topic data reply => handleOpenCommand out st reply topic data
  | .closeCommand out topic data reply => handleCloseCommand out st reply topic data

/-- A command as its handler sees it: the cabinet's name, id and slave, and the request. -/
structure Request where
  name : PyStr
  cabinet_id : Json
  slave_id : Json
  message : CommandMessage

/-- The request of a message, when there is a cabinet for it and a slot in it. -/
def requestOf (st : CabinetState) (topic : PyStr) (data : Json) : Option Request :=
  match splitSlash topic with
  | _ :: cabinet_name :: _ => do
    let cab ← st.getCabinetByName cabinet_name
    let cabinet_id ← (item cab "id").toOption
    let d ← data.asDict.toOption
    if notNone (getD d "slotIndex" .null) then
      some ⟨cabinet_name, cabinet_id, slaveIdOf cab, .ofData d⟩
    else none
  | _ => none

/-- The place of a value in the map of the states. -/
def placeOf (cabinet_id slot_index : Json) : Option (Key × Key) :=
  match cabinet_id.key, slot_index.key with
  | .ok c, .ok s => some (c, s)
  | _, _ => none

/-- The slot that the handler of a step writes. -/
def SensorStep.place (st : CabinetState) : SensorStep → Option (Key × Key)
  | .doorEvent _ slot_index _ slave_id =>
    match cabinetOfSlave st slave_id with
    | some cab =>
      match item cab "id" with
      | .ok cabinet_id => placeOf cabinet_id slot_index
      | .error _ => none
    | none => none
  | .openCommand _ topic data _ | .closeCommand _ topic data _ =>
    (requestOf st topic data).bind fun r => placeOf r.cabinet_id r.message.slot_index

/-- What the handler of a command gets back. -/
def openResult (out : Outside) (r : Request) (reply : Dict) : Dict :=
  commandResult (openCommand out.U r.message.slot_index r.slave_id) r.message.slot_index r.slave_id reply

def closeResult (out : Outside) (r : Request) (reply : Dict) : Dict :=
  commandResult (closeCommand out.U r.message.slot_index r.slave_id) r.message.slot_index r.slave_id reply

/-- The slot that a reply is about: the one it names, or that of the command when it names none. -/
def replySlot (r : Request) (result : Dict) : Json := (get? result "slot").getD r.message.slot_index

/-- The reading that a reply gives of a slot. -/
def replyReading (r : Request) (result : Dict) (c k : Key) : Option Bool :=
  if placeOf r.cabinet_id (replySlot r result) = some (c, k) then readingOf result else none

/-- The reading that a step brings of a slot. -/
def SensorStep.reading (st : CabinetState) (e : SensorStep) (c k : Key) : Option Bool :=
  match e with
  | .doorEvent _ _ event _ => if e.place st = some (c, k) then some (event = .DOOR_CLOSED) else none
  | .openCommand out topic data reply =>
    (requestOf st topic data).bind fun r => replyReading r (openResult out r reply) c k
  | .closeCommand out topic data reply =>
    (requestOf st topic data).bind fun r => replyReading r (closeResult out r reply) c k

/-! ## Runs -/

/-- The states, and the last reading of each slot. -/
structure Watched where
  hb : HeartbeatService
  last : Key → Key → Option Bool

/-- A door event is handled as far as it gets, a command to its end. -/
def SensorStep.enabled (st : CabinetState) : SensorStep → Bool
  | .doorEvent _ _ _ _ => true
  | e => (e.handler st).result.toBool

def SensorStep.advance (st : CabinetState) (e : SensorStep) (s : Watched) : Watched where
  hb := (e.handler st).effects.foldl HeartbeatService.apply s.hb
  last := fun c k => (e.reading st c k).or (s.last c k)

def sensorStep (st : CabinetState) (s : Watched) (e : SensorStep) : Option Watched :=
  if e.enabled st then some (e.advance st s) else none

def Watched.init : Watched := ⟨.fresh, fun _ _ => none⟩

/-- A slot that heartbeats of the cabinet go through. -/
def Shown (cab : Dict) (s : Key) : Prop :=
  ∃ total k : Nat, totalSlots cab = .ok total ∧ k < total ∧ s = .num (.fin k)

/-- What heartbeats show for the slots of a cabinet follows the sensors. -/
def Follows (cab : Dict) (c : Key) (s : Watched) : Prop :=
  ∀ k, Shown cab k → s.hb.shown c k = implied (s.last c k)

/-! ## What a step needs -/

/-- The handler of a door event gets to its end: the cabinet has an id and a name, the locker an id, and
the client takes the topics. -/
def delivered (out : Outside) (st : CabinetState) (cab : Dict) (slot_index : Json) (event : DoorEvent) :
    Bool :=
  match item cab "id", item cab "name" with
  | .ok cabinet_id, .ok cabinet_name =>
    match lookupLocker st cabinet_id slot_index >>= lockerIdOf out.U slot_index with
    | .ok locker_id =>
      (out.publish (cabinetPrefix out.U cabinet_name ++ py "/locker/" ++ locker_id.pyStr out.U ++
        py "/status")).toBool &&
        (event ≠ .DOOR_CLOSED ||
          (out.publish (cabinetPrefix out.U cabinet_name ++ py "/command/close")).toBool)
    | .error _ => false
  | _, _ => false

/-- An open door is reported by a board that opened it; without a reading of the slot the last one was
no other than what the handler concludes. -/
def OpenConclusive (reading last : Option Bool) (result : Dict) : Prop :=
  match reading with
  | some closed => closed = true ∨ isOk result = true
  | none => (isOk result = true ∧ doorIsClosed result = false) ↔ last = some false

def CloseConclusive (reading last : Option Bool) (result : Dict) : Prop :=
  match reading with
  | some _ => True
  | none => doorIsClosed result = false ↔ last = some false

/-- The reading of a slot that the handler does not write says nothing new. -/
def Expected (reading last : Option Bool) : Prop :=
  ∀ closed, reading = some closed → (closed = false ↔ last = some false)

/-- A step concludes what the sensors say of the slots of the cabinet `c`. -/
def Conclusive (st : CabinetState) (cab : Dict) (c : Key) (s : Watched) (e : SensorStep) : Prop :=
  e.enabled st = true → ∀ k, Shown cab k →
    match e with
    | .doorEvent out slot_index event slave_id =>
      e.place st = some (c, k) →
        (∃ cab', cabinetOfSlave st slave_id = some cab' ∧
          delivered out st cab' slot_index event = true) ∨ implied (s.last c k) = event.hwState
    | .openCommand out topic data reply =>
      ∀ r, requestOf st topic data = some r →
        let result := openResult out r reply
        if placeOf r.cabinet_id r.message.slot_index = some (c, k) then
          OpenConclusive (replyReading r result c k) (s.last c k) result
        else Expected (replyReading r result c k) (s.last c k)
    | .closeCommand out topic data reply =>
      ∀ r, requestOf st topic data = some r →
        let result := closeResult out r reply
        if placeOf r.cabinet_id r.message.slot_index = some (c, k) then
          CloseConclusive (replyReading r result c k) (s.last c k) result
        else Expected (replyReading r result c k) (s.last c k)

/-! ## Verdicts and readings -/

theorem doorIsClosed_of_reading {result : Dict} {closed : Bool} (h : readingOf result = some closed) :
    doorIsClosed result = closed := by
  unfold readingOf at h
  split at h
  · cases h
  · obtain ⟨v, hv, rfl⟩ := Option.map_eq_some_iff.mp h
    rw [doorIsClosed, getD, hv]
    rfl

/-- What the open handler concludes. -/
theorem openVerdict_state (U : Unicode) (result : Dict) :
    (openVerdict U result).hw_state =
      if isOk result = true ∧ doorIsClosed result = false then .OPENING else .CLOSING := by
  unfold openVerdict
  cases isOk result <;> cases doorIsClosed result <;> rfl

theorem closeVerdict_state (result : Dict) :
    (closeVerdict result).hw_state = if doorIsClosed result = false then .OPENING else .CLOSING := by
  unfold closeVerdict
  cases isOk result <;> cases doorIsClosed result <;> rfl

theorem ite_implied {p : Prop} [Decidable p] {last : Option Bool} :
    (if p then LockerHwState.OPENING else .CLOSING) = implied last ↔ (p ↔ last = some false) := by
  by_cases hp : p
  · rw [if_pos hp]
    cases last with
    | none => simp [implied, hp]
    | some b => cases b <;> simp [implied, hp]
  · rw [if_neg hp]
    cases last with
    | none => simp [implied, hp]
    | some b => cases b <;> simp [implied, hp]

theorem readingOf_reply {r : Request} {result : Dict} {c k : Key} {closed : Bool}
    (h : replyReading r result c k = some closed) : readingOf result = some closed := by
  unfold replyReading at h
  split at h
  · exact h
  · cases h

theorem openConclusive_iff (U : Unicode) {reading last : Option Bool} {result : Dict}
    (hreading : ∀ closed, reading = some closed → readingOf result = some closed) :
    (openVerdict U result).hw_state = implied (reading.or last) ↔
      OpenConclusive reading last result := by
  rw [openVerdict_state, ite_implied]
  unfold OpenConclusive
  cases reading with
  | none => rfl
  | some closed =>
    rw [doorIsClosed_of_reading (hreading closed rfl)]
    cases closed <;> cases isOk result <;> simp

theorem closeConclusive_iff {reading last : Option Bool} {result : Dict}
    (hreading : ∀ closed, reading = some closed → readingOf result = some closed) :
    (closeVerdict result).hw_state = implied (reading.or last) ↔
      CloseConclusive reading last result := by
  rw [closeVerdict_state, ite_implied]
  unfold CloseConclusive
  cases reading with
  | none => rfl
  | some closed =>
    rw [doorIsClosed_of_reading (hreading closed rfl)]
    cases closed <;> simp

theorem expected_iff {reading last : Option Bool} :
    implied last = implied (reading.or last) ↔ Expected reading last := by
  unfold Expected
  cases reading with
  | none => simp
  | some closed =>
    have hstate : implied ((some closed).or last) =
        if closed = false then LockerHwState.OPENING else .CLOSING := by cases closed <;> rfl
    rw [hstate, eq_comm, ite_implied]
    simp

/-! ## What the handlers write -/

theorem sendAndWait_setsNone (command : PyStr) (slot_index slave_id : Json) (reply : Dict) :
    ∀ e ∈ (sendAndWait command slot_index slave_id reply).effects, HeartbeatService.SetsNone e := by
  rw [sendAndWait_eq]
  intro e he
  obtain ⟨_, -, rfl⟩ := List.mem_map.mp he
  trivial

theorem mqttPublish_setsNone (out : Outside) (topic : PyStr) (payload : Dict) :
    ∀ e ∈ (mqttPublish out topic payload).effects, HeartbeatService.SetsNone e := by
  intro e he
  cases h : out.publish topic with
  | error err =>
    rw [mqttPublish_error h] at he
    cases he
  | ok _ =>
    rw [mqttPublish_ok h] at he
    rw [List.mem_singleton.mp he]
    trivial

/-- A write that does not raise. -/
theorem updateLockerState_ok {cabinet_id slot_index : Json} {hw_state : LockerHwState}
    (h : (updateLockerState cabinet_id slot_index hw_state).result = .ok ()) :
    ∃ c s, placeOf cabinet_id slot_index = some (c, s) ∧
      (updateLockerState cabinet_id slot_index hw_state).effects = [.setState c s hw_state] := by
  unfold updateLockerState at h ⊢
  unfold placeOf
  cases hc : cabinet_id.key with
  | error e =>
    rw [hc] at h
    cases h
  | ok c =>
    cases hs : slot_index.key with
    | error e =>
      rw [hc, hs] at h
      cases h
    | ok s => exact ⟨c, s, rfl, rfl⟩

/-- **A command handled to its end** leaves the state that it concludes. -/
theorem runOpen_shown {out : Outside} {reply : Dict} {r : Request} (hb : HeartbeatService)
    (h : (runOpen out reply r.name r.cabinet_id r.slave_id r.message).result = .ok ()) (c k : Key) :
    ((runOpen out reply r.name r.cabinet_id r.slave_id r.message).effects.foldl
        HeartbeatService.apply hb).shown c k =
      if placeOf r.cabinet_id r.message.slot_index = some (c, k) then
        (openVerdict out.U (openResult out r reply)).hw_state
      else hb.shown c k := by
  have hverdict : ∀ result, (openSlot out.U r.message.slot_index r.slave_id reply).result = .ok result →
      result = openResult out r reply := by
    intro result hresult
    rw [openSlot, sendAndWait_eq] at hresult
    exact (Except.ok.inj hresult).symm
  unfold runOpen at h ⊢
  obtain ⟨_, hfirst, h, hfirstEq⟩ := Py.bind_result_ok h
  obtain ⟨result, hresult, h, hresultEq⟩ := Py.bind_result_ok h
  obtain ⟨_, hpublish, h, hpublishEq⟩ := Py.bind_result_ok h
  obtain ⟨_, hack, h, hackEq⟩ := Py.bind_result_ok h
  obtain ⟨c₀, s₀, hplace, hset⟩ := updateLockerState_ok hfirst
  obtain ⟨c₁, s₁, hplace₁, hset₁⟩ := updateLockerState_ok h
  rw [hplace] at hplace₁
  cases hplace₁
  cases hverdict result hresult
  have hsend : ∀ e ∈ (openSlot out.U r.message.slot_index r.slave_id reply).effects,
      HeartbeatService.SetsNone e := sendAndWait_setsNone _ _ _ _
  rw [hfirstEq, hresultEq, hpublishEq, hackEq, hset, hset₁, hplace]
  simp only [List.foldl_append, List.foldl_cons, List.foldl_nil]
  rw [HeartbeatService.foldl_setsNone hsend, HeartbeatService.foldl_setsNone (mqttPublish_setsNone _ _ _),
    HeartbeatService.foldl_setsNone (mqttPublish_setsNone _ _ _), HeartbeatService.shown_setState,
    HeartbeatService.shown_setState]
  simp only [Option.some.injEq, Prod.mk.injEq]
  split <;> rfl

theorem runClose_shown {out : Outside} {reply : Dict} {r : Request} (hb : HeartbeatService)
    (h : (runClose out reply r.name r.cabinet_id r.slave_id r.message).result = .ok ()) (c k : Key) :
    ((runClose out reply r.name r.cabinet_id r.slave_id r.message).effects.foldl
        HeartbeatService.apply hb).shown c k =
      if placeOf r.cabinet_id r.message.slot_index = some (c, k) then
        (closeVerdict (closeResult out r reply)).hw_state
      else hb.shown c k := by
  have hverdict : ∀ result, (closeSlot out.U r.message.slot_index r.slave_id reply).result = .ok result →
      result = closeResult out r reply := by
    intro result hresult
    rw [closeSlot, sendAndWait_eq] at hresult
    exact (Except.ok.inj hresult).symm
  unfold runClose at h ⊢
  obtain ⟨result, hresult, h, hresultEq⟩ := Py.bind_result_ok h
  obtain ⟨_, hpublish, h, hpublishEq⟩ := Py.bind_result_ok h
  obtain ⟨c₀, s₀, hplace, hset⟩ := updateLockerState_ok h
  cases hverdict result hresult
  have hsend : ∀ e ∈ (closeSlot out.U r.message.slot_index r.slave_id reply).effects,
      HeartbeatService.SetsNone e := sendAndWait_setsNone _ _ _ _
  rw [hresultEq, hpublishEq, hset, hplace]
  simp only [List.foldl_append, List.foldl_cons, List.foldl_nil]
  rw [HeartbeatService.foldl_setsNone hsend,
    HeartbeatService.foldl_setsNone (mqttPublish_setsNone _ _ _), HeartbeatService.shown_setState]
  simp only [Option.some.injEq, Prod.mk.injEq]

/-- A message is handled as its request, or nothing is done. -/
theorem handleCommand_request (st : CabinetState) (topic : PyStr) (data : Json)
    (body : PyStr → Json → Json → CommandMessage → Py ServiceEffect Unit) :
    match requestOf st topic data with
    | some r => handleCommand st topic data body = body r.name r.cabinet_id r.slave_id r.message
    | none => (handleCommand st topic data body).effects = [] := by
  unfold requestOf handleCommand
  cases splitSlash topic with
  | nil => rfl
  | cons _ parts =>
    cases parts with
    | nil => rfl
    | cons cabinet_name rest =>
      dsimp only
      cases st.getCabinetByName cabinet_name with
      | none => rfl
      | some cab =>
        simp only [Option.bind_eq_bind, Option.bind_some]
        cases item cab "id" with
        | error e => rfl
        | ok cabinet_id =>
          simp only [Except.toOption, Option.bind_some, Py.ofExcept_ok_bind]
          cases data.asDict with
          | error e => rfl
          | ok d =>
            have hslot : (CommandMessage.ofData d).slot_index = getD d "slotIndex" .null := rfl
            simp only [Option.bind_some, Py.ofExcept_ok_bind, hslot]
            cases notNone (getD d "slotIndex" .null) <;> rfl

/-! ### Door events -/

/-- Up to the last line, a door event publishes. -/
theorem reportDoor_effects (out : Outside) (st : CabinetState) (cab : Dict) (slot_index : Json)
    (event : DoorEvent) :
    match item cab "id" with
    | .ok cabinet_id =>
      ∃ es : List ServiceEffect, (∀ e ∈ es, HeartbeatService.SetsNone e) ∧
        (reportDoor out st cab slot_index event).effects = es ++
          bif delivered out st cab slot_index event then
            (updateLockerState cabinet_id slot_index event.hwState).effects
          else []
    | .error _ => (reportDoor out st cab slot_index event).effects = [] := by
  unfold reportDoor delivered
  cases item cab "id" with
  | error e => rfl
  | ok cabinet_id =>
    dsimp only
    cases item cab "name" with
    | error e => exact ⟨[], nofun, rfl⟩
    | ok cabinet_name =>
      simp only [Py.ofExcept_ok_bind]
      rw [← Py.bind_assoc, ← Py.ofExcept_bind]
      cases lookupLocker st cabinet_id slot_index >>= lockerIdOf out.U slot_index with
      | error e => exact ⟨[], nofun, rfl⟩
      | ok locker_id =>
        simp only [Py.ofExcept_ok_bind]
        cases hstatus : out.publish (cabinetPrefix out.U cabinet_name ++ py "/locker/" ++
          locker_id.pyStr out.U ++ py "/status") with
        | error e =>
          rw [mqttPublish_error hstatus]
          exact ⟨[], nofun, by simp [Except.toBool]⟩
        | ok _ =>
          have hstatusNone := mqttPublish_setsNone out (cabinetPrefix out.U cabinet_name ++
            py "/locker/" ++ locker_id.pyStr out.U ++ py "/status") (statusPayload locker_id slot_index
              event (out.now 0))
          have hcloseNone := mqttPublish_setsNone out (cabinetPrefix out.U cabinet_name ++
            py "/command/close") [(py "cabinetId", cabinet_id), (py "slotIndex", slot_index)]
          rw [mqttPublish_ok hstatus] at hstatusNone ⊢
          rw [Py.mk_ok_bind]
          cases event with
          | DOOR_OPENED => exact ⟨_, hstatusNone, rfl⟩
          | DOOR_CLOSED =>
            cases hclose : out.publish (cabinetPrefix out.U cabinet_name ++ py "/command/close") with
            | error e =>
              refine ⟨_, hstatusNone, ?_⟩
              rw [if_pos rfl, mqttPublish_error hclose]
              rfl
            | ok _ =>
              rw [mqttPublish_ok hclose] at hcloseNone
              refine ⟨_, List.forall_mem_append.mpr ⟨hstatusNone, hcloseNone⟩, ?_⟩
              rw [if_pos rfl, mqttPublish_ok hclose, Py.mk_ok_bind, List.append_assoc]
              rfl

/-- **A door event** leaves its state when its handler gets to the end, and no other. -/
theorem handleDoorEvent_shown (out : Outside) (st : CabinetState) (slot_index : Json)
    (event : DoorEvent) (slave_id : Json) (hb : HeartbeatService) (c k : Key) :
    ((handleDoorEvent out st slot_index event slave_id).effects.foldl HeartbeatService.apply hb).shown
        c k =
      if (SensorStep.doorEvent out slot_index event slave_id).place st = some (c, k) ∧
          ∃ cab, cabinetOfSlave st slave_id = some cab ∧ delivered out st cab slot_index event = true
        then event.hwState
      else hb.shown c k := by
  unfold handleDoorEvent SensorStep.place
  cases hcab : cabinetOfSlave st slave_id with
  | none => simp
  | some cab =>
    have heffects := reportDoor_effects out st cab slot_index event
    simp only [hcab, Option.some.injEq, exists_eq_left']
    cases hid : item cab "id" with
    | error e =>
      rw [hid] at heffects
      dsimp only at heffects
      rw [heffects]
      simp
    | ok cabinet_id =>
      rw [hid] at heffects
      obtain ⟨es, hnone, heffects⟩ := heffects
      dsimp only
      rw [heffects, List.foldl_append, HeartbeatService.foldl_setsNone hnone]
      cases hdelivered : delivered out st cab slot_index event with
      | false => simp
      | true =>
        simp only [cond_true, and_true]
        unfold updateLockerState placeOf
        cases cabinet_id.key with
        | error e => simp
        | ok c₀ =>
          cases slot_index.key with
          | error e => simp
          | ok s₀ =>
            simp only [Py.ofExcept_ok_bind, Py.effects_emit, List.foldl_cons, List.foldl_nil,
              HeartbeatService.shown_setState, Option.some.injEq, Prod.mk.injEq]

/-! ## Steps -/

theorem implied_event (event : DoorEvent) (last : Option Bool) :
    implied ((some (decide (event = .DOOR_CLOSED))).or last) = event.hwState := by
  cases event <;> rfl

theorem ok_of_toBool {x : Except PyErr Unit} (h : x.toBool = true) : x = .ok () := by
  cases x with
  | error e => cases h
  | ok _ => rfl

/-- What a command that is handled to its end leaves, from what its body leaves. -/
theorem handleCommand_shown {st : CabinetState} {topic : PyStr} {data : Json}
    {body : PyStr → Json → Json → CommandMessage → Py ServiceEffect Unit}
    {verdict : Request → LockerHwState} (hb : HeartbeatService) (c k : Key)
    (hbody : ∀ r : Request, (body r.name r.cabinet_id r.slave_id r.message).result = .ok () →
      ((body r.name r.cabinet_id r.slave_id r.message).effects.foldl HeartbeatService.apply hb).shown
          c k =
        if placeOf r.cabinet_id r.message.slot_index = some (c, k) then verdict r else hb.shown c k)
    (h : (handleCommand st topic data body).result = .ok ()) :
    ((handleCommand st topic data body).effects.foldl HeartbeatService.apply hb).shown c k =
      match requestOf st topic data with
      | some r =>
        if placeOf r.cabinet_id r.message.slot_index = some (c, k) then verdict r else hb.shown c k
      | none => hb.shown c k := by
  have hrequest := handleCommand_request st topic data body
  cases hr : requestOf st topic data with
  | none =>
    rw [hr] at hrequest
    dsimp only at hrequest ⊢
    rw [hrequest]
    rfl
  | some r =>
    rw [hr] at hrequest
    dsimp only at hrequest ⊢
    rw [hrequest] at h ⊢
    exact hbody r h

/-- **The step lemma**: a step keeps the states with the sensors just if it is conclusive. -/
theorem follows_step {st : CabinetState} {cab : Dict} {c : Key} {s s' : Watched} {e : SensorStep}
    (h : Follows cab c s) (hs : sensorStep st s e = some s') :
    Follows cab c s' ↔ Conclusive st cab c s e := by
  unfold sensorStep at hs
  split at hs
  · rename_i henabled
    cases hs
    unfold Conclusive
    rw [imp_iff_right henabled]
    refine forall_congr' fun k => forall_congr' fun hk => ?_
    have hshown := h k hk
    unfold SensorStep.advance
    cases e with
    | doorEvent out slot_index event slave_id =>
      have heffects := handleDoorEvent_shown out st slot_index event slave_id s.hb c k
      dsimp only [SensorStep.handler, SensorStep.reading]
      rw [heffects]
      by_cases hplace : (SensorStep.doorEvent out slot_index event slave_id).place st = some (c, k)
      · simp only [hplace, true_and, if_true, forall_const, implied_event]
        split
        · rename_i hdelivered
          exact iff_of_true rfl (.inl hdelivered)
        · rename_i hdelivered
          rw [hshown]
          exact ⟨.inr, fun h => h.resolve_left hdelivered⟩
      · simp only [hplace, false_and, if_false, false_implies, hshown, Option.none_or]
    | openCommand out topic data reply =>
      have heffects := handleCommand_shown s.hb c k
        (fun r hr => runOpen_shown (r := r) s.hb hr c k) (ok_of_toBool henabled)
      dsimp only [SensorStep.handler, SensorStep.reading, handleOpenCommand]
      rw [heffects]
      rcases Option.eq_none_or_eq_some (requestOf st topic data) with hr | ⟨r, hr⟩
      · simp [hr, hshown]
      · simp only [hr, Option.bind_some, Option.some.injEq, forall_eq']
        split
        · exact openConclusive_iff _ fun _ => readingOf_reply
        · rw [hshown]
          exact expected_iff
    | closeCommand out topic data reply =>
      have heffects := handleCommand_shown s.hb c k
        (fun r hr => runClose_shown (r := r) s.hb hr c k) (ok_of_toBool henabled)
      dsimp only [SensorStep.handler, SensorStep.reading, handleCloseCommand]
      rw [heffects]
      rcases Option.eq_none_or_eq_some (requestOf st topic data) with hr | ⟨r, hr⟩
      · simp [hr, hshown]
      · simp only [hr, Option.bind_some, Option.some.injEq, forall_eq']
        split
        · exact closeConclusive_iff fun _ => readingOf_reply
        · rw [hshown]
          exact expected_iff
  · cases hs

/-! ## Heartbeats -/

/-- The `hwState` of an entry of a heartbeat. -/
def hwStateOf : Json → Option Json
  | .obj d => get? d "hwState"
  | _ => none

/-- **What a heartbeat lists** for a cabinet whose states follow the sensors: for each slot the state of
its last reading. -/
theorem heartbeat_follows {U : Unicode} {st : CabinetState} {s : Watched} {cab : Dict} {cabinet_id : Json}
    {c : Key} (hc : cabinet_id.key = .ok c) (hcab : st.getCabinetById c = some cab)
    (h : Follows cab c s) {lockers : List Json}
    (hlockers : lockersStatus U st s.hb cabinet_id = .ok lockers) :
    ∃ total : Nat, totalSlots cab = .ok total ∧ lockers.map hwStateOf =
      (List.range total).map fun k : Nat => some (implied (s.last c (.num (.fin k)))).value := by
  unfold lockersStatus at hlockers
  rw [hc] at hlockers
  obtain ⟨_, hkey, hlockers⟩ := except_bind_ok.mp hlockers
  cases hkey
  rw [hcab] at hlockers
  obtain ⟨total, htotal, hlockers⟩ := except_bind_ok.mp hlockers
  refine ⟨total, htotal, ?_⟩
  have hall := mapM_ok hlockers
  rw [← List.forall₂_eq_eq_eq, List.forall₂_map_left_iff, List.forall₂_map_right_iff]
  refine ((List.forall₂_and_left _ _).mpr ⟨fun k hk => hk, hall⟩).flip.imp ?_
  rintro entry k ⟨hk, hentry⟩
  obtain ⟨id, -, hentry⟩ := except_bind_ok.mp hentry
  cases hentry
  have hfollows := h (.num (.fin k)) ⟨total, k, htotal, List.mem_range.mp hk, rfl⟩
  simp [hwStateOf, hfollows]

/-- **Reported state follows the sensor** in every state of a run just if every step of it concludes
what the sensor says. -/
theorem reported_follows (st : CabinetState) (cab : Dict) (c : Key) (es : List SensorStep) :
    EveryState (sensorStep st) (Follows cab c) .init es ↔
      Along (sensorStep st) (Conclusive st cab c) .init es := by
  refine everyState_iff_along (fun s e s' h hs => follows_step h hs) ?_ es .init fun k _ => rfl
  intro s e hstuck henabled
  unfold sensorStep at hstuck
  rw [if_pos henabled] at hstuck
  cases hstuck

/-! ## A command without an answer -/

/-- A cabinet of one slot, in operation on slave 1. -/
def oneSlotSetups : List SetupCommand :=
  [sampleSetup "id-1" [(py "cabinetCode", .lit "A"), (py "totalRows", .int 1),
    (py "totalColumns", .int 1)] 1]

def oneSlotCabinet : Dict :=
  cabinetData (.lit "loc") ⟨.lit "id-1", .lit "A", .int 1, .int 1, .int 1, .int 60, .bool true⟩

/-- The door is opened; then a close command gets no answer. -/
def closeUnanswered : List SensorStep :=
  [.doorEvent sampleOutside (.int 0) .DOOR_OPENED (.int 1),
    .closeCommand sampleOutside (py "cabinet/A/command/close") (.obj [(py "slotIndex", .int 0)])
      (timeoutResponse (.int 0) (.int 1))]

/-- An open command finds the door open, and fails. -/
def openFailed : List SensorStep :=
  [.openCommand sampleOutside (py "cabinet/A/command/open") (.obj [(py "slotIndex", .int 0)])
    [(py "slave", .int 1), (py "slot", .int 0), (py "result", .lit "FAIL"), (py "door", .bool false)]]

/-- The states and readings of slot 0 after a run. -/
def slotAfter (es : List SensorStep) : Option (LockerHwState × Option Bool) :=
  (run (sensorStep (afterSetups oneSlotSetups)) .init es).map fun s =>
    (s.hb.shown (.str (py "id-1")) (.num (.fin 0)), s.last (.str (py "id-1")) (.num (.fin 0)))

theorem not_follows {es : List SensorStep} (h : slotAfter es = some (.CLOSING, some false)) :
    ¬ EveryState (sensorStep (afterSetups oneSlotSetups)) (Follows oneSlotCabinet (.str (py "id-1")))
      .init es := by
  intro hall
  obtain ⟨s, hrun, hs⟩ := Option.map_eq_some_iff.mp h
  obtain ⟨hshown, hlast⟩ := Prod.mk.inj hs
  have hslot : Shown oneSlotCabinet (.num (.fin 0)) := ⟨1, 0, rfl, by decide, rfl⟩
  have hfollows := everyState_iff.mp hall es s (List.prefix_refl es) hrun _ hslot
  rw [hshown, hlast] at hfollows
  cases hfollows

/-- **An open door that is reported as closed**: after a close command without an answer, and after an
open command that fails. -/
theorem open_door_shown_closed :
    oneSlotCabinet ∈ (afterSetups oneSlotSetups).allCabinets ∧
      ¬ EveryState (sensorStep (afterSetups oneSlotSetups)) (Follows oneSlotCabinet (.str (py "id-1")))
        .init closeUnanswered ∧
      ¬ EveryState (sensorStep (afterSetups oneSlotSetups)) (Follows oneSlotCabinet (.str (py "id-1")))
        .init openFailed := by
  have hmem : (afterSetups oneSlotSetups).allCabinets[0]? = some oneSlotCabinet := by rfl
  exact ⟨List.mem_of_getElem? hmem, not_follows (by decide +kernel), not_follows (by decide +kernel)⟩

end SmartLocker.System
