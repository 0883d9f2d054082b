import SmartLocker.Lib.JsonRoundTrip
import SmartLocker.Gateway.Reports
import SmartLocker.System.SetupRun

/-!
# What the gateway makes of clean values

A value is `Clean` when some text stands for it.  Every handler makes clean payloads and stores clean
records when what it was given is clean: what it takes over from a message, a reply of a board or a
record, the strings that it puts together and the parts that it cuts out.
-/

set_option autoImplicit false

namespace SmartLocker.System

open Lib Lib.Python SmartLocker.Gateway

/-! ## Clean effects -/

variable {pf : List Char → PyFloat}

/-- The arguments of `save_cabinet` meet `P`. -/
structure ArgsMeet (P : Json → Prop) (a : CabinetArgs) : Prop where
  cabinet_id : P a.cabinet_id
  name : P a.name
  total_rows : P a.total_rows
  total_columns : P a.total_columns
  slave_id : P a.slave_id
  heartbeat_interval : P a.heartbeat_interval
  is_synced : P a.is_synced

/-- What an effect carries out of the gateway or into its state is clean. -/
def CleanEffect (pf : List Char → PyFloat) : ServiceEffect → Prop
  | .publish _ payload => Clean .wire pf (.obj payload)
  | .setup payload _ => Clean .wire pf (.obj payload)
  | .saveLocation location_id name address =>
    Clean .wire pf location_id ∧ Clean .wire pf name ∧ Clean .wire pf address
  | .saveCabinet a => ArgsMeet (Clean .wire pf) a
  | .saveLockers cabinet_id lockers =>
    Clean .wire pf cabinet_id ∧ ∀ l ∈ lockers, Clean .wire pf (.obj l)
  | _ => True

/-- A computation with clean effects, whose value meets `Q`. -/
abbrev Keeps (pf : List Char → PyFloat) {α : Type} (Q : α → Prop) (x : Py ServiceEffect α) : Prop :=
  Py.Gives (CleanEffect pf) Q x

/-- Every time stamp meets `P`. -/
def ClockMeets (P : Json → Prop) (now : Nat → PyStr) : Prop := ∀ n, P (.str (now n))

theorem mqttPublish_keeps (out : Outside) (topic : PyStr) {payload : Dict}
    (h : Clean .wire pf (.obj payload)) : Keeps pf (fun _ => True) (mqttPublish out topic payload) :=
  (Py.gives_ofExcept fun _ _ => trivial).bind fun _ _ => Py.gives_emit h

theorem updateLockerState_keeps (cabinet_id slot_index : Json) (hw_state : LockerHwState) :
    Keeps pf (fun _ => True) (updateLockerState cabinet_id slot_index hw_state) :=
  (Py.gives_ofExcept fun _ _ => trivial).bind fun _ _ =>
    (Py.gives_ofExcept fun _ _ => trivial).bind fun _ _ => Py.gives_emit trivial

theorem clean_serialError {slot_index slave_id : Json} (hslot : Clean .wire pf slot_index)
    (hslave : Clean .wire pf slave_id) : Clean .wire pf (.obj (serialError slot_index slave_id)) := by
  refine clean_obj ["slave", "slot", "result", "error"] rfl (by decide) ?_
  simp only [serialError, List.forall_mem_cons]
  exact ⟨hslave, hslot, clean_lit "FAIL", clean_lit "SERIAL_ERROR", List.forall_mem_nil _⟩

/-- A command comes back with a clean result. -/
theorem sendAndWait_keeps (command : PyStr) {slot_index slave_id : Json} {reply : Dict}
    (hslot : Clean .wire pf slot_index) (hslave : Clean .wire pf slave_id)
    (hreply : Clean .wire pf (.obj reply)) :
    Keeps pf (fun result => Clean .wire pf (.obj result))
      (sendAndWait command slot_index slave_id reply) := by
  unfold sendAndWait
  split
  · exact (Py.gives_emit trivial).bind fun _ _ => Py.gives_pure hreply
  · exact Py.gives_pure (clean_serialError hslot hslave)

/-! ## Commands -/

/-- The values of a verdict are clean. -/
structure CleanVerdict (pf : List Char → PyFloat) (v : Verdict) : Prop where
  error_code : Clean .wire pf v.error_code
  message : Joined v.message

theorem clean_hwState (hw_state : LockerHwState) : Clean .wire pf hw_state.value := by
  cases hw_state <;> exact clean_lit _

theorem clean_openVerdict (U : Unicode) {result : Dict} (h : Clean .wire pf (.obj result)) :
    CleanVerdict pf (openVerdict U result) := by
  unfold openVerdict
  split
  · exact ⟨trivial, joined_ofChars _⟩
  split
  · exact ⟨clean_lit "JAMMED", joined_ofChars _⟩
  · exact ⟨clean_getD h "error" (clean_lit "SERIAL_ERROR"),
      joined_ofChars_append _ (joined_pyStr U (clean_getD h "error" trivial))⟩

theorem clean_closeVerdict {result : Dict} (h : Clean .wire pf (.obj result)) :
    CleanVerdict pf (closeVerdict result) := by
  unfold closeVerdict
  split
  · exact ⟨trivial, joined_ofChars _⟩
  · exact ⟨clean_getD h "error" (clean_lit "HARDWARE_FAILURE"), joined_ofChars _⟩

/-- The values of a request are clean. -/
structure CleanRequest (pf : List Char → PyFloat) (q : CommandMessage) : Prop where
  locker_id : Clean .wire pf q.locker_id
  slot_index : Clean .wire pf q.slot_index
  command_id : Clean .wire pf q.command_id

theorem clean_request {d : Dict} (h : Clean .wire pf (.obj d)) : CleanRequest pf (.ofData d) :=
  ⟨clean_getD h "lockerId" (clean_lit ""), clean_getD h "slotIndex" trivial,
    clean_getD h "commandId" trivial⟩

theorem clean_resultPayload {q : CommandMessage} {v : Verdict} {timestamp : PyStr}
    (hq : CleanRequest pf q) (hv : CleanVerdict pf v) (ht : Clean .wire pf (.str timestamp)) :
    Clean .wire pf (.obj (resultPayload q v timestamp)) := by
  refine clean_obj ["commandId", "lockerId", "slotIndex", "status", "hwState", "errorCode",
    "errorMessage", "timestamp"] rfl (by decide) ?_
  simp only [resultPayload, List.forall_mem_cons]
  exact ⟨hq.command_id, hq.locker_id, hq.slot_index, clean_lit v.status, clean_hwState v.hw_state,
    hv.error_code, clean_str hv.message, ht, List.forall_mem_nil _⟩

theorem clean_ackPayload {q : CommandMessage} {v : Verdict} {timestamp : PyStr}
    (hq : CleanRequest pf q) (hv : CleanVerdict pf v) (ht : Clean .wire pf (.str timestamp)) :
    Clean .wire pf (.obj (ackPayload q v timestamp)) := by
  refine clean_filter (clean_obj ["lockerId", "slotIndex", "status", "message", "timestamp",
    "errorCode"] rfl (by decide) ?_) _
  simp only [List.forall_mem_cons]
  exact ⟨hq.locker_id, hq.slot_index, clean_lit v.status, clean_str hv.message, ht, hv.error_code,
    List.forall_mem_nil _⟩

section

variable {out : Outside} {reply : Dict} (hnow : ClockMeets (Clean .wire pf) out.now)
  (hreply : Clean .wire pf (.obj reply))

include hnow hreply

theorem runOpen_keeps (name : PyStr) (cabinet_id : Json) {slave_id : Json} {q : CommandMessage}
    (hslave : Clean .wire pf slave_id) (hq : CleanRequest pf q) :
    Keeps pf (fun _ => True) (runOpen out reply name cabinet_id slave_id q) := by
  refine (updateLockerState_keeps _ _ _).bind fun _ _ => ?_
  refine (sendAndWait_keeps _ hq.slot_index hslave hreply).bind fun result hresult => ?_
  have hv := clean_openVerdict out.U hresult
  refine (mqttPublish_keeps out _ (clean_resultPayload hq hv (hnow 0))).bind fun _ _ => ?_
  refine (mqttPublish_keeps out _ (clean_ackPayload hq hv (hnow 1))).bind fun _ _ => ?_
  exact updateLockerState_keeps _ _ _

theorem runClose_keeps (name : PyStr) (cabinet_id : Json) {slave_id : Json} {q : CommandMessage}
    (hslave : Clean .wire pf slave_id) (hq : CleanRequest pf q) :
    Keeps pf (fun _ => True) (runClose out reply name cabinet_id slave_id q) := by
  refine (sendAndWait_keeps _ hq.slot_index hslave hreply).bind fun result hresult => ?_
  have hv := clean_closeVerdict hresult
  refine (mqttPublish_keeps out _ (clean_resultPayload hq hv (hnow 0))).bind fun _ _ => ?_
  exact updateLockerState_keeps _ _ _

end

/-! ## Reports -/

theorem clean_lockerIdOf (U : Unicode) {slot id : Json} {locker : Option Dict}
    (hslot : Clean .wire pf slot) (hlocker : ∀ l, locker = some l → Clean .wire pf (.obj l))
    (hid : lockerIdOf U slot locker = .ok id) : Clean .wire pf id := by
  unfold lockerIdOf at hid
  split at hid
  · exact clean_item (hlocker _ rfl) hid
  · cases hid
    exact clean_str (joined_ofChars_append _ (joined_pyStr U hslot))

theorem clean_statusPayload {locker_id slot_index : Json} (event : DoorEvent) {timestamp : PyStr}
    (hid : Clean .wire pf locker_id) (hslot : Clean .wire pf slot_index)
    (ht : Clean .wire pf (.str timestamp)) :
    Clean .wire pf (.obj (statusPayload locker_id slot_index event timestamp)) := by
  refine clean_obj ["lockerId", "slotIndex", "hwState", "doorSensor", "lockSensor", "timestamp"] rfl
    (by decide) ?_
  simp only [statusPayload, List.forall_mem_cons]
  exact ⟨hid, hslot, clean_hwState _, trivial, trivial, ht, List.forall_mem_nil _⟩

theorem clean_closePayload {cabinet_id slot_index : Json} (hid : Clean .wire pf cabinet_id)
    (hslot : Clean .wire pf slot_index) :
    Clean .wire pf (.obj [(py "cabinetId", cabinet_id), (py "slotIndex", slot_index)]) := by
  refine clean_obj ["cabinetId", "slotIndex"] rfl (by decide) ?_
  simp only [List.forall_mem_cons]
  exact ⟨hid, hslot, List.forall_mem_nil _⟩

/-! ## The state -/

/-- Every record in memory meets `P`. -/
structure StateMeets (P : Json → Prop) (st : CabinetState) : Prop where
  location : ∀ loc, st.location = some loc → P (.obj loc)
  cabinets : ∀ e ∈ st.cabinets.entries, P (.obj e.2)
  lockers : ∀ e ∈ st.lockers.entries, ∀ l ∈ e.2.entries, P (.obj l.2)

/-- The records are clean. -/
abbrev CleanState (pf : List Char → PyFloat) (st : CabinetState) : Prop :=
  StateMeets (Clean .wire pf) st

section

variable {st : CabinetState} (h : CleanState pf st)

include h

theorem StateMeets.cabinet {c : Dict} (hc : c ∈ st.allCabinets) : Clean .wire pf (.obj c) := by
  obtain ⟨e, he, rfl⟩ := List.mem_map.mp hc
  exact h.cabinets e he

theorem StateMeets.locker {c s : Key} {l : Dict} (hl : st.getLockerBySlot c s = some l) :
    Clean .wire pf (.obj l) := by
  obtain ⟨m, hm, hl⟩ := Option.bind_eq_some_iff.mp hl
  exact h.lockers (c, m) ((OrdMap.mem_entries_iff _).mpr hm) (s, l) ((OrdMap.mem_entries_iff _).mpr hl)

theorem handleCommand_keeps (topic : PyStr) {data : Json} (hdata : Clean .wire pf data)
    {body : PyStr → Json → Json → CommandMessage → Py ServiceEffect Unit}
    (hbody : ∀ name id slave q, Clean .wire pf slave → CleanRequest pf q →
      Keeps pf (fun _ => True) (body name id slave q)) :
    Keeps pf (fun _ => True) (handleCommand st topic data body) := by
  unfold handleCommand
  split
  · split
    · exact Py.gives_pure trivial
    · rename_i cab hcab
      have hclean := h.cabinet (CabinetState.getCabinetByName_spec hcab).1
      refine (Py.gives_ofExcept fun _ _ => trivial).bind fun id _ => ?_
      refine (Py.gives_ofExcept (Q := fun d => Clean .wire pf (.obj d))
        fun d hd => clean_asDict hdata hd).bind fun d hd => ?_
      dsimp only
      split
      · exact hbody _ _ _ _ (clean_getD hclean "slaveId" trivial) (clean_request hd)
      · exact Py.gives_pure trivial
  · exact Py.gives_pure trivial

/-- **The handling of a message** is clean, when the message was read from a text. -/
theorem handleIncomingMessage_keeps {out : Outside} {reply : Dict}
    (hnow : ClockMeets (Clean .wire pf) out.now) (hreply : Clean .wire pf (.obj reply))
    (topic : PyStr) {data : Option Json} (hdata : ∀ v, data = some v → Clean .wire pf v) :
    Keeps pf (fun _ => True) (handleIncomingMessage out st reply topic data) := by
  unfold handleIncomingMessage
  split
  · exact Py.gives_emit trivial
  · exact Py.gives_pure trivial
  · refine (Py.gives_ofExcept (Q := fun d => Clean .wire pf (.obj d))
      fun d hd => clean_asDict (hdata _ rfl) hd).bind fun d hd => ?_
    split
    · refine (Py.gives_ofExcept fun _ _ => trivial).bind fun mac _ => ?_
      split
      · exact Py.gives_pure trivial
      · split
        · exact Py.gives_emit hd
        · exact Py.gives_pure trivial
    · exact Py.gives_pure trivial
  · refine (Py.gives_ofExcept fun _ _ => trivial).bind fun d _ => ?_
    split
    · exact Py.gives_emit trivial
    · exact Py.gives_pure trivial
  · exact handleCommand_keeps h _ (hdata _ rfl) fun name id _ _ hslave hq =>
      runOpen_keeps hnow hreply name id hslave hq
  · exact handleCommand_keeps h _ (hdata _ rfl) fun name id _ _ hslave hq =>
      runClose_keeps hnow hreply name id hslave hq
  · exact Py.gives_pure trivial

/-! ## Door events and heartbeats -/

theorem handleDoorEvent_keeps {out : Outside} (hnow : ClockMeets (Clean .wire pf) out.now)
    {slot_index : Json} (hslot : Clean .wire pf slot_index) (event : DoorEvent) (slave_id : Json) :
    Keeps pf (fun _ => True) (handleDoorEvent out st slot_index event slave_id) := by
  unfold handleDoorEvent
  cases hcab : cabinetOfSlave st slave_id with
  | none => exact Py.gives_pure trivial
  | some cab =>
    have hclean := h.cabinet (List.mem_of_find?_eq_some hcab)
    dsimp only
    unfold reportDoor
    refine (Py.gives_ofExcept fun v hv => clean_item hclean hv).bind fun id hid => ?_
    refine (Py.gives_ofExcept fun _ _ => trivial).bind fun name _ => ?_
    refine (Py.gives_ofExcept (Q := fun l => ∀ d, l = some d → Clean .wire pf (.obj d))
      fun l hl => ?_).bind fun locker hlocker => ?_
    · obtain ⟨c, -, hl⟩ := except_bind_ok.mp hl
      obtain ⟨s, -, hl⟩ := except_bind_ok.mp hl
      cases hl
      exact fun d hd => h.locker hd
    refine (Py.gives_ofExcept fun v hv => clean_lockerIdOf out.U hslot hlocker hv).bind
      fun locker_id hlocker_id => ?_
    refine (mqttPublish_keeps out _ (clean_statusPayload event hlocker_id hslot (hnow 0))).bind
      fun _ _ => ?_
    dsimp only
    split
    · exact (mqttPublish_keeps out _ (clean_closePayload hid hslot)).bind fun _ _ =>
        updateLockerState_keeps _ _ _
    · exact updateLockerState_keeps _ _ _

theorem clean_slotStatus {U : Unicode} {hb : HeartbeatService} {c : Key} {slot : Nat} {v : Json}
    (hv : slotStatus U st hb c slot = .ok v) : Clean .wire pf v := by
  obtain ⟨id, hid, hv⟩ := except_bind_ok.mp hv
  cases hv
  have hindex : Clean .wire pf (.int slot) := clean_int slot
  refine clean_obj ["lockerId", "slotIndex", "hwState"] rfl (by decide) ?_
  simp only [List.forall_mem_cons]
  exact ⟨clean_lockerIdOf U hindex (fun l hl => h.locker hl) hid, hindex, clean_hwState _,
    List.forall_mem_nil _⟩

theorem clean_lockersStatus {U : Unicode} {hb : HeartbeatService} {cabinet_id : Json} {ls : List Json}
    (hls : lockersStatus U st hb cabinet_id = .ok ls) : ∀ l ∈ ls, Clean .wire pf l := by
  obtain ⟨c, -, hls⟩ := except_bind_ok.mp hls
  split at hls
  · cases hls
    exact List.forall_mem_nil _
  · obtain ⟨total, -, hls⟩ := except_bind_ok.mp hls
    intro l hl
    obtain ⟨slot, -, hslot⟩ := exists_of_mem_mapM hls hl
    exact clean_slotStatus h hslot

theorem publishSingleHeartbeat_keeps {out : Outside} (hnow : ClockMeets (Clean .wire pf) out.now)
    (hb : HeartbeatService) {cabinet : Dict} (hcabinet : Clean .wire pf (.obj cabinet)) :
    Keeps pf (fun _ => True) (publishSingleHeartbeat out st hb cabinet) := by
  unfold publishSingleHeartbeat
  refine (Py.gives_ofExcept fun v hv => clean_item hcabinet hv).bind fun id hid => ?_
  refine (Py.gives_ofExcept fun _ _ => trivial).bind fun name _ => ?_
  refine (Py.gives_ofExcept fun ls hls => clean_lockersStatus h hls).bind fun ls hls => ?_
  refine mqttPublish_keeps out _ (clean_filter (clean_obj ["cabinetId", "timestamp", "status",
    "lockers"] rfl (by decide) ?_) _)
  simp only [List.forall_mem_cons]
  exact ⟨hid, hnow 0, clean_lit "online", cleanItems_iff.mpr hls, List.forall_mem_nil _⟩

theorem heartbeats_clean {out : Outside} (hnow : ClockMeets (Clean .wire pf) out.now)
    (hb : HeartbeatService) : ∀ e ∈ heartbeats out st hb, CleanEffect pf e := by
  have hall : ∀ cabs : List Dict, (∀ c ∈ cabs, Clean .wire pf (.obj c)) →
      Keeps pf (fun _ => True) (publishHeartbeats out st hb cabs) := by
    intro cabs hcabs
    induction cabs with
    | nil => exact Py.gives_pure trivial
    | cons c cabs ih =>
      rw [List.forall_mem_cons] at hcabs
      exact (publishSingleHeartbeat_keeps h hnow hb hcabs.1).bind fun _ _ => ih hcabs.2
  unfold heartbeats
  split
  · exact (hall _ fun c hc => h.cabinet hc).effects
  · exact List.forall_mem_nil _

end

/-! ## Setups -/

/-- What a setup gets from outside meets `P`. -/
structure SetupMeets (P : Json → Prop) (io : SetupOutside) : Prop where
  now : ClockMeets P io.now
  reply : ∀ j i, P (.obj (io.reply j i))
  testedAt : ∀ j i, P (.str (io.testedAt j i))

structure CleanTest (pf : List Char → PyFloat) (v : TestVerdict) : Prop where
  error_code : Clean .wire pf v.error_code
  error_msg : Clean .wire pf v.error_msg

theorem clean_testVerdict (U : Unicode) {result : Dict} (h : Clean .wire pf (.obj result)) :
    CleanTest pf (testVerdict U result) := by
  unfold testVerdict
  split
  · exact ⟨clean_lit "HW_ERROR", clean_str (joined_ofChars_append _
      (joined_pyStr U (clean_getD h "error" (clean_lit "unknown"))))⟩
  split
  · exact ⟨clean_lit "DOOR_STUCK", clean_lit _⟩
  · exact ⟨trivial, trivial⟩

def CleanTally (pf : List Char → PyFloat) (t : Tally) : Prop :=
  ∀ d ∈ t.results, Clean .wire pf (.obj d)

theorem CleanTally.add {t : Tally} {v : TestVerdict} {result : Dict} (ht : CleanTally pf t)
    (hv : CleanTest pf v) (hresult : Clean .wire pf (.obj result)) :
    CleanTally pf (t.add v result) := by
  have hkey : ∀ k : String, Reads .wire (py k) := fun k => reads_wire (joined_ofChars k.toList)
  intro d hd
  rcases List.mem_append.mp hd with hd | hd
  · exact ht d hd
  · rw [List.mem_singleton.mp hd]
    exact clean_set (clean_set (clean_set hresult (hkey _) (clean_lit _)) (hkey _) hv.error_code)
      (hkey _) hv.error_msg

/-- The values of a cabinet that is set up are clean. -/
structure CleanRun (pf : List Char → PyFloat) (r : CabinetRun) : Prop where
  command_id : Clean .wire pf r.command_id
  cabinet_id : Clean .wire pf r.cabinet_id
  slave_id : Clean .wire pf r.slave_id

theorem clean_progressPayload {r : CabinetRun} (hr : CleanRun pf r) (i : Nat) {slot : Dict}
    (hslot : Clean .wire pf (.obj slot)) (slot_index : Int) {result : Dict}
    (hresult : Clean .wire pf (.obj result)) (v : TestVerdict) (t : Tally) {timestamp : PyStr}
    (htime : Clean .wire pf (.str timestamp)) :
    Clean .wire pf (.obj (progressPayload r i slot slot_index result v t timestamp)) := by
  refine clean_obj ["commandId", "cabinetId", "slotIndex", "row", "column", "testResult", "hwDetail",
    "progress", "timestamp"] rfl (by decide) ?_
  simp only [progressPayload, List.forall_mem_cons]
  refine ⟨hr.command_id, hr.cabinet_id, trivial, clean_getD hslot "row" trivial,
    clean_getD hslot "column" trivial, clean_lit _, ?_, ?_, htime, List.forall_mem_nil _⟩
  · refine clean_obj ["servoResponse", "doorSensor", "lockSensor", "responseTimeMs"] rfl (by decide) ?_
    simp only [List.forall_mem_cons]
    exact ⟨trivial, clean_getD hresult "door" trivial, trivial, clean_getD hresult "ms" trivial,
      List.forall_mem_nil _⟩
  · refine clean_obj ["tested", "total", "okCount", "failCount"] rfl (by decide) ?_
    simp only [List.forall_mem_cons]
    exact ⟨trivial, trivial, trivial, trivial, List.forall_mem_nil _⟩

theorem runTests_keeps {io : SetupOutside} (hio : SetupMeets (Clean .wire pf) io) {r : CabinetRun}
    (hr : CleanRun pf r) {slots : List (Json × Nat)} (hslots : ∀ s ∈ slots, Clean .wire pf s.1)
    {t : Tally} (ht : CleanTally pf t) : Keeps pf (CleanTally pf) (runTests io r slots t) := by
  induction slots generalizing t with
  | nil => exact Py.gives_pure ht
  | cons s slots ih =>
    rw [List.forall_mem_cons] at hslots
    unfold runTests
    refine (Py.gives_ofExcept (Q := fun d => Clean .wire pf (.obj d))
      fun d hd => clean_asDict hslots.1 hd).bind fun d hd => ?_
    refine (Py.gives_ofExcept fun _ _ => trivial).bind fun index _ => ?_
    cases index with
    | none => exact ih hslots.2 ht
    | some k =>
      refine Py.Gives.bind (Q := CleanTally pf) ?_ fun t' ht' => ih hslots.2 ht'
      refine (sendAndWait_keeps _ (clean_int k) hr.slave_id (hio.reply r.j s.2)).bind
        fun result hresult => ?_
      have ht' := ht.add (clean_testVerdict io.U hresult) hresult
      exact (mqttPublish_keeps _ _ (clean_progressPayload hr s.2 hd k hresult _ _
        (hio.testedAt r.j s.2))).bind fun _ _ => Py.gives_pure ht'

theorem clean_lockerDetail {slot detail : Json} {res : Dict} (hslot : Clean .wire pf slot)
    (hres : Clean .wire pf (.obj res)) (h : lockerDetail slot res = .ok detail) :
    Clean .wire pf detail := by
  obtain ⟨slotIndex, hindex, h⟩ := except_bind_ok.mp h
  obtain ⟨row, hrow, h⟩ := except_bind_ok.mp h
  obtain ⟨column, hcolumn, h⟩ := except_bind_ok.mp h
  cases h
  refine clean_obj ["slotIndex", "row", "column", "testResult", "hwState", "responseTimeMs",
    "errorCode", "errorMessage"] rfl (by decide) ?_
  simp only [List.forall_mem_cons]
  refine ⟨clean_subscript hslot hindex, clean_subscript hslot hrow, clean_subscript hslot hcolumn,
    clean_getD hres "result" trivial, ?_, clean_getD hres "ms" trivial,
    clean_getD hres "error_code" trivial, clean_getD hres "error_msg" trivial, List.forall_mem_nil _⟩
  split <;> exact clean_lit _

theorem clean_resultSummary {r : CabinetRun} (hr : CleanRun pf r) (status : String)
    (total ok fail : Nat) (duration : Int) {lockers : List Json}
    (hlockers : ∀ l ∈ lockers, Clean .wire pf l) {timestamp : PyStr}
    (htime : Clean .wire pf (.str timestamp)) :
    Clean .wire pf (.obj (resultSummary r status total ok fail duration lockers timestamp)) := by
  refine clean_obj ["commandId", "cabinetId", "status", "summary", "lockers", "timestamp"] rfl
    (by decide) ?_
  simp only [resultSummary, List.forall_mem_cons]
  refine ⟨hr.command_id, hr.cabinet_id, clean_lit status, ?_, cleanItems_iff.mpr hlockers, htime,
    List.forall_mem_nil _⟩
  refine clean_obj ["total", "totalOk", "totalFail", "duration"] rfl (by decide) ?_
  simp only [List.forall_mem_cons]
  exact ⟨trivial, trivial, trivial, trivial, List.forall_mem_nil _⟩

theorem clean_cabinetName {U : Unicode} {cab_data : Dict} {cabinet_id name : Json}
    (hdata : Clean .wire pf (.obj cab_data)) (hid : Clean .wire pf cabinet_id)
    (h : cabinetName U cab_data cabinet_id = .ok name) : Clean .wire pf name := by
  have hgiven : Clean .wire pf ((getD cab_data "cabinetCode" .null).orElse
      (getD cab_data "name" .null)) :=
    clean_orElse (clean_getD hdata "cabinetCode" clean_null) (clean_getD hdata "name" clean_null)
  unfold cabinetName at h
  dsimp only at h
  split at h
  · cases h
    exact hgiven
  · cases htake : cabinet_id.takeFirst 4 with
    | error e =>
      rw [htake] at h
      cases h
    | ok v =>
      rw [htake] at h
      cases h
      exact clean_str (joined_ofChars_append _ (joined_pyStr U (clean_takeFirst hid htake)))

theorem clean_setupArgs {cab_data : Dict} {cabinet_id name : Json}
    (hdata : Clean .wire pf (.obj cab_data)) (hid : Clean .wire pf cabinet_id)
    (hname : Clean .wire pf name) : ArgsMeet (Clean .wire pf) (setupArgs cab_data cabinet_id name) where
  cabinet_id := hid
  name := hname
  total_rows := clean_getD hdata "totalRows" trivial
  total_columns := clean_getD hdata "totalColumns" trivial
  slave_id := clean_getD hdata "slaveId" trivial
  heartbeat_interval := trivial
  is_synced := trivial

theorem callSaveLockers_keeps (io : SetupOutside) (j : Nat) {cabinet_id lockers : Json}
    (hid : Clean .wire pf cabinet_id) (hlockers : Clean .wire pf lockers) :
    Keeps pf (fun _ => True) (callSaveLockers io j cabinet_id lockers) := by
  unfold callSaveLockers
  refine (Py.gives_ofExcept fun ls hls => clean_iter hlockers hls).bind fun ls hls => ?_
  refine (Py.gives_ofExcept fun _ _ => trivial).bind fun _ _ => ?_
  refine (Py.gives_ofExcept (Q := fun ds : List Dict => ∀ d ∈ ds, Clean .wire pf (.obj d))
    fun ds hds d hd => ?_).bind fun ds hds => ?_
  · obtain ⟨l, hl, hld⟩ := exists_of_mem_mapM hds hd
    split at hld
    · cases hld
      exact hls _ hl
    · cases hld
  refine (Py.gives_ofExcept fun _ _ => trivial).bind fun _ _ => ?_
  refine (Py.gives_ofExcept fun _ _ => trivial).bind fun _ _ => ?_
  exact Py.gives_emit ⟨hid, hds⟩

theorem onSetupComplete_keeps (io : SetupOutside) (cabinet_name : PyStr) :
    Keeps pf (fun _ => True) (onSetupComplete io cabinet_name) :=
  ((Py.gives_ofExcept fun _ _ => trivial).bind fun _ _ => Py.gives_emit trivial).bind fun _ _ =>
    Py.gives_emit trivial

theorem setupCabinet_keeps {io : SetupOutside} (hio : SetupMeets (Clean .wire pf) io)
    (topicPrefix : PyStr) {command_id : Json} (hcommand : Clean .wire pf command_id) (j : Nat)
    {cab : Json} (hcab : Clean .wire pf cab) :
    Keeps pf (fun _ => True) (setupCabinet io topicPrefix command_id j cab) := by
  unfold setupCabinet
  refine (Py.gives_ofExcept fun v hv => clean_subscript hcab hv).bind fun id hid => ?_
  refine (Py.gives_ofExcept (Q := fun d => Clean .wire pf (.obj d))
    fun d hd => clean_asDict hcab hd).bind fun data hdata => ?_
  refine (Py.gives_ofExcept fun v hv => clean_cabinetName hdata hid hv).bind fun name hname => ?_
  have hlayout : Clean .wire pf (getD data "lockerLayout" (.arr [])) :=
    clean_getD hdata "lockerLayout" trivial
  refine (Py.gives_ofExcept fun _ _ => trivial).bind fun total _ => ?_
  refine (Py.gives_ofExcept fun ls hls => clean_iter hlayout hls).bind fun slots hslots => ?_
  have hrun : CleanRun pf
      ⟨j, topicPrefix, command_id, id, getD data "slaveId" (.int 1), total⟩ :=
    ⟨hcommand, hid, clean_getD hdata "slaveId" (clean_int 1)⟩
  have hindexed : ∀ s ∈ slots.zipIdx, Clean .wire pf s.1 := fun s hs =>
    hslots s.1 (List.fst_mem_of_mem_zipIdx hs)
  have hnone : CleanTally pf {} := List.forall_mem_nil _
  refine (runTests_keeps hio hrun hindexed hnone).bind fun t ht => ?_
  refine (Py.gives_ofExcept (Q := fun ds => ∀ d ∈ ds, Clean .wire pf d) fun ds hds d hd => ?_).bind
    fun details hdetails => ?_
  · obtain ⟨p, hp, hpd⟩ := exists_of_mem_mapM hds hd
    have hmem := List.of_mem_zip hp
    exact clean_lockerDetail (hslots _ hmem.1) (ht _ hmem.2) hpd
  refine (mqttPublish_keeps _ _ (clean_resultSummary hrun _ _ _ _ _ hdetails (hio.now j))).bind
    fun _ _ => ?_
  split
  · exact Py.gives_pure trivial
  · refine Py.Gives.bind (Q := fun _ => True) ?_ fun _ _ => ?_
    · have hsaved : CleanEffect pf (.saveCabinet (setupArgs data id name)) :=
        clean_setupArgs hdata hid hname
      exact (Py.gives_ofExcept fun _ _ => trivial).bind fun _ _ =>
        (Py.gives_emit hsaved).bind fun _ _ => Py.gives_ofExcept fun _ _ => trivial
    · exact (callSaveLockers_keeps io j hid hlayout).bind fun _ _ => onSetupComplete_keeps io _

theorem setupCabinets_keeps {io : SetupOutside} (hio : SetupMeets (Clean .wire pf) io)
    (topicPrefix : PyStr) {command_id : Json} (hcommand : Clean .wire pf command_id)
    {cabs : List (Json × Nat)} (hcabs : ∀ c ∈ cabs, Clean .wire pf c.1) :
    Keeps pf (fun _ => True) (setupCabinets io topicPrefix command_id cabs) := by
  induction cabs with
  | nil => exact Py.gives_pure trivial
  | cons c cabs ih =>
    rw [List.forall_mem_cons] at hcabs
    exact (setupCabinet_keeps hio topicPrefix hcommand c.2 hcabs.1).bind fun _ _ => ih hcabs.2

theorem clean_cabinetsToProcess {payload : Dict} {cabinets : Json}
    (hpayload : Clean .wire pf (.obj payload)) (h : cabinetsToProcess payload = .ok cabinets) :
    Clean .wire pf cabinets := by
  unfold cabinetsToProcess at h
  split at h
  · cases h
    exact clean_getD hpayload "cabinets" trivial
  · cases hsingle : singleCabinet payload with
    | error e =>
      rw [hsingle] at h
      cases h
    | ok c =>
      rw [hsingle] at h
      cases h
      obtain ⟨id, hid, hc⟩ := except_bind_ok.mp hsingle
      cases hc
      refine ⟨?_, trivial⟩
      refine clean_obj ["cabinetId", "cabinetCode", "slaveId", "lockerLayout", "totalRows",
        "totalColumns"] rfl (by decide) ?_
      simp only [List.forall_mem_cons]
      exact ⟨clean_item hpayload hid, clean_getD hpayload "cabinetCode" (clean_lit "Unknown"),
        clean_getD hpayload "slaveId" trivial, clean_getD hpayload "lockerLayout" trivial,
        clean_getD hpayload "totalRows" trivial, clean_getD hpayload "totalColumns" trivial,
        List.forall_mem_nil _⟩

theorem runSetup_clean {io : SetupOutside} (hio : SetupMeets (Clean .wire pf) io) {payload : Dict}
    (hpayload : Clean .wire pf (.obj payload)) (topicPrefix : PyStr) :
    ∀ e ∈ runSetup io payload topicPrefix, CleanEffect pf e := by
  intro e he
  rw [runSetup_eq] at he
  cases hcabs : visitedCabinets payload with
  | error _ =>
    rw [hcabs] at he
    cases he
  | ok cabs =>
    rw [hcabs] at he
    rcases List.mem_append.mp he with he | he
    · rcases List.mem_append.mp he with he | he
      · split at he
        · rw [List.mem_singleton.mp he]
          trivial
        · cases he
      · have hor : ∀ k s, Clean .wire pf ((getD payload k .null).orElse (.lit s)) := fun k s =>
          clean_orElse (clean_getD hpayload k clean_null) (clean_lit s)
        rw [List.mem_singleton.mp he]
        exact ⟨hor _ _, hor _ _, hor _ _⟩
    · obtain ⟨cabinets, hcabinets, hiter⟩ := except_bind_ok.mp hcabs
      have hclean := clean_iter (clean_cabinetsToProcess hpayload hcabinets) hiter
      unfold cabinetEffects at he
      split at he
      · cases he
      · exact (setupCabinets_keeps hio topicPrefix
          (clean_getD hpayload "commandId" (clean_lit "no-id")) fun c hc =>
            hclean c.1 (List.fst_mem_of_mem_zipIdx hc)).effects e he

theorem handleSetup_keeps {io : SetupOutside} (hio : SetupMeets (Clean .wire pf) io) {payload : Dict}
    (hpayload : Clean .wire pf (.obj payload)) (topicPrefix : PyStr) :
    Keeps pf (fun _ => True) (handleSetup io payload topicPrefix) := by
  unfold handleSetup
  split
  · exact Py.gives_pure trivial
  · refine (Py.gives_ofExcept fun _ _ => trivial).bind fun n _ => ?_
    split
    · refine (mqttPublish_keeps _ _ ?_).bind fun _ _ => Py.gives_pure trivial
      refine clean_obj ["commandId", "cabinetId", "status", "summary", "lockers", "timestamp"] rfl
        (by decide) ?_
      simp only [List.forall_mem_cons]
      refine ⟨clean_getD hpayload "commandId" (clean_lit ""),
        clean_getD hpayload "cabinetId" (clean_lit ""), clean_lit "FAILED", ?_, trivial, hio.now 0,
        List.forall_mem_nil _⟩
      refine clean_obj ["total", "totalOk", "totalFail", "duration"] rfl (by decide) ?_
      simp only [List.forall_mem_cons]
      exact ⟨trivial, trivial, trivial, trivial, List.forall_mem_nil _⟩
    · exact Py.gives_pure trivial

theorem processSetup_clean {io : SetupOutside} (hio : SetupMeets (Clean .wire pf) io) {payload : Dict}
    (hpayload : Clean .wire pf (.obj payload)) (topicPrefix : PyStr) :
    ∀ e ∈ processSetup io payload topicPrefix, CleanEffect pf e := by
  have hhandled := (handleSetup_keeps hio hpayload topicPrefix).effects
  intro e he
  unfold processSetup at he
  dsimp only at he
  split at he
  · rcases List.mem_append.mp he with he | he
    · exact hhandled e he
    · exact runSetup_clean hio hpayload topicPrefix e he
  · exact hhandled e he

/-! ## What is stored -/

theorem clean_locationData {location_id name address : Json} (hid : Clean .wire pf location_id)
    (hname : Clean .wire pf name) (haddress : Clean .wire pf address) :
    Clean .wire pf (.obj (locationData location_id name address)) := by
  refine clean_obj ["id", "name", "address"] rfl (by decide) ?_
  simp only [locationData, List.forall_mem_cons]
  exact ⟨hid, hname, haddress, List.forall_mem_nil _⟩

theorem clean_cabinetData {l : Json} {a : CabinetArgs} (hl : Clean .wire pf l)
    (ha : ArgsMeet (Clean .wire pf) a) : Clean .wire pf (.obj (cabinetData l a)) := by
  refine clean_obj ["id", "locationId", "name", "totalRows", "totalColumns", "slaveId",
    "heartbeatInterval", "isSynced"] rfl (by decide) ?_
  simp only [cabinetData, List.forall_mem_cons]
  exact ⟨ha.cabinet_id, hl, ha.name, ha.total_rows, ha.total_columns, ha.slave_id,
    ha.heartbeat_interval, ha.is_synced, List.forall_mem_nil _⟩

theorem StateMeets.saveCabinet {st st' : CabinetState} (h : CleanState pf st) {a : CabinetArgs}
    (ha : ArgsMeet (Clean .wire pf) a) (hs : st.saveCabinet a = .ok st') : CleanState pf st' := by
  rcases CabinetState.saveCabinet_cases hs with ⟨-, rfl⟩ | ⟨loc, l, k, hk, hloc, hl, -, rfl⟩
  · exact h
  · refine ⟨h.location, ?_, h.lockers⟩
    intro e he
    rcases OrdMap.mem_of_mem_set he with he | rfl
    · exact h.cabinets e he
    · exact clean_cabinetData (clean_item (h.location loc hloc) hl) ha

theorem clean_lockerData {cabinet_id : Json} (hid : Clean .wire pf cabinet_id) {l : Dict}
    (hl : Clean .wire pf (.obj l)) {e : Key × Dict} (h : lockerData cabinet_id l = .ok e) :
    Clean .wire pf (.obj e.2) := by
  obtain ⟨slotIndex, hslot, h⟩ := except_bind_ok.mp h
  obtain ⟨id, hlocker, h⟩ := except_bind_ok.mp h
  obtain ⟨label, hlabel, h⟩ := except_bind_ok.mp h
  obtain ⟨k, -, h⟩ := except_bind_ok.mp h
  cases h
  refine clean_obj ["id", "cabinet_id", "slot_index", "locker_label"] rfl (by decide) ?_
  simp only [List.forall_mem_cons]
  exact ⟨clean_item hl hlocker, hid, clean_item hl hslot, clean_item hl hlabel, List.forall_mem_nil _⟩

theorem StateMeets.saveLockers {st st' : CabinetState} (h : CleanState pf st) {cabinet_id : Json}
    (hid : Clean .wire pf cabinet_id) {lockers : List Dict}
    (hlockers : ∀ l ∈ lockers, Clean .wire pf (.obj l))
    (hs : st.saveLockers cabinet_id lockers = .ok st') : CleanState pf st' := by
  obtain ⟨entries, hentries, hs⟩ := except_bind_ok.mp hs
  obtain ⟨k, -, hs⟩ := except_bind_ok.mp hs
  cases hs
  refine ⟨h.location, h.cabinets, ?_⟩
  intro e he
  rcases OrdMap.mem_of_mem_set he with he | rfl
  · exact h.lockers e he
  · intro l hl
    obtain ⟨d, hd, hdata⟩ := exists_of_mem_mapM hentries (OrdMap.mem_of_mem_ofList hl)
    exact clean_lockerData hid (hlockers d hd) hdata

/-- An effect keeps the records clean. -/
theorem StateMeets.apply {st : CabinetState} (h : CleanState pf st) {e : ServiceEffect}
    (he : CleanEffect pf e) : CleanState pf (st.apply e) := by
  cases e with
  | clear => exact ⟨fun _ hloc => (nomatch hloc), List.forall_mem_nil _, h.lockers⟩
  | saveLocation location_id name address =>
    refine ⟨fun loc hloc => ?_, h.cabinets, h.lockers⟩
    cases hloc
    exact clean_locationData he.1 he.2.1 he.2.2
  | saveCabinet a =>
    simp only [CabinetState.apply]
    split
    · exact h.saveCabinet he ‹_›
    · exact h
  | saveLockers cabinet_id lockers =>
    simp only [CabinetState.apply]
    split
    · exact h.saveLockers he.1 he.2 ‹_›
    · exact h
  | _ => exact h

theorem StateMeets.foldl {es : List ServiceEffect} {st : CabinetState} (h : CleanState pf st)
    (hes : ∀ e ∈ es, CleanEffect pf e) : CleanState pf (es.foldl CabinetState.apply st) := by
  induction es generalizing st with
  | nil => exact h
  | cons e es ih =>
    rw [List.forall_mem_cons] at hes
    exact ih (h.apply hes.1) hes.2

end SmartLocker.System
