import SmartLocker.System.Network

/-!
# Open and close messages on a bus of controllers

The backend sends open and close messages for the cabinets of several controllers; the handlers run one
after the other, and the replies come from a session on the bus.  An `Order` is a message that reaches a
handler, with what the handler finds; `Reported` is what the backend is to be told.

`orders_on_boards` says that the handlers are a service: each message is one command of the bus, only
the controller of its cabinet moves a lock, and the result that is published has the message's
`commandId` and the status that the door of its slot gives, or the reason why there is none.
-/

set_option autoImplicit false

namespace SmartLocker.System.Network

open Lib Lib.Machine Lib.Python SmartLocker.Firmware SmartLocker.Gateway SlotCounts

/-- A message that reaches a command handler, and what the handler finds for it. -/
structure Order (st : CabinetState) where
  kind : Handled
  name : PyStr
  data : Dict
  now : Nat → PyStr
  key : Key
  cab : Dict
  slave : Int
  slot : Int
  reaches : kind.reached name = kind
  found : st.getCabinetByName (segment name) = some cab
  stored : (key, cab) ∈ st.cabinets.entries
  slave_id : slaveIdOf cab = .int slave
  slot_index : getD data "slotIndex" .null = .int slot

namespace Order

variable {st : CabinetState} (o : Order st)

def message : CommandMessage := .ofData o.data

/-- The command that the handler gives the serial manager. -/
def command : Command := ⟨o.slave, .slot o.kind.action o.slot⟩

def resultTopic : PyStr :=
  cabinetTopic (segment o.name)
    (match o.kind with
    | .openLocker => "command/open/result"
    | .closeLocker => "command/close/result")

/-- The topics that the handler publishes on. -/
def topics (U : Unicode) : List PyStr :=
  match o.kind with
  | .openLocker => [o.resultTopic, ackTopic U (segment o.name) o.message]
  | .closeLocker => [o.resultTopic]

def verdict (U : Unicode) (reply : Dict) : Verdict :=
  match o.kind with
  | .openLocker => openVerdict U reply
  | .closeLocker => closeVerdict reply

/-- What handling the message does, when the serial manager gives `reply`. -/
def effects (out : Outside) (reply : Dict) : List ServiceEffect :=
  (handleIncomingMessage { out with now := o.now } st reply (o.kind.topic o.name)
    (some (.obj o.data))).effects

/-- The door is as the message wants it, in a slot that there is. -/
def succeeds (bus : Bus) (w : Readings) : Bool :=
  match boardOf bus o.slave with
  | some b => o.slot < b.NUM_SLOTS && isDoorClosed b w o.slot == decide (o.kind = .closeLocker)
  | none => false

/-- The reason why it is not. -/
def errorOf (bus : Bus) (w : Readings) : Json :=
  match boardOf bus o.slave with
  | some b =>
    if o.slot < b.NUM_SLOTS then
      if o.succeeds bus w then .null
      else
        match o.kind with
        | .openLocker => .lit "JAMMED"
        | .closeLocker => .lit "HARDWARE_FAILURE"
    else .lit "INVALID_SLOT"
  | none => .lit "TIMEOUT"

end Order

/-- What the backend is told of an order: one result, and a heartbeat state that agrees with it. -/
structure Reported (bus : Bus) {st : CabinetState} (o : Order st) (w : Readings)
    (es : List ServiceEffect) : Prop where
  result : ∃ p hw, publishedOn o.resultTopic es = [p] ∧
    get? p "commandId" = some o.message.command_id ∧
    get? p "status" = some (.lit (if o.succeeds bus w then "SUCCESS" else "FAILED")) ∧
    get? p "errorCode" = some (o.errorOf bus w) ∧
    get? p "hwState" = some (LockerHwState.value hw) ∧
    stateAfter o.key (.num (.fin o.slot)) es = some hw

/-! ## The verdict -/

variable {bus : Bus} {st : CabinetState}

/-- Every slot command is answered as an open is. -/
theorem replyTo_slot (b : Board) (w : Readings) (action : SlotAction) {n : Int} (hn : 0 ≤ n) :
    replyTo b w (.slotAction action.letter n) = some (openReply b w n) := by
  have hletter : action.letter = 'T' ∨ action.letter = 'O' ∨ action.letter = 'C' := by
    cases action <;> decide
  simp only [replyTo, openReply]
  by_cases h : n < b.NUM_SLOTS
  · rw [if_neg (by omega), if_pos hletter, if_pos h]
  · rw [if_pos (by omega), if_neg h]

theorem answer_order (o : Order st) (hslot : 0 ≤ o.slot) (w : Readings) :
    answer bus o.command w =
      match boardOf bus o.slave with
      | some b => replyData b (openReply b w o.slot)
      | none => timeoutResponse (.int o.slot) (.int o.slave) := by
  have hreply : ∀ b : Board, replyTo b w (request o.command) = some (openReply b w o.slot) :=
    fun b => replyTo_slot b w o.kind.action hslot
  unfold answer
  simp only [hreply]
  rfl

theorem verdict_timeout (U : Unicode) (o : Order st) (slot slave : Json) :
    (o.verdict U (timeoutResponse slot slave)).status = "FAILED" ∧
      (o.verdict U (timeoutResponse slot slave)).error_code = .lit "TIMEOUT" := by
  have hok := SerialThreads.isOk_timeout slot slave
  have herror : ∀ dflt, getD (timeoutResponse slot slave) "error" dflt = .lit "TIMEOUT" := by
    intro dflt
    simp [getD, timeoutResponse]
  unfold Order.verdict
  cases o.kind with
  | openLocker => simp [openVerdict, hok, herror]
  | closeLocker => simp [closeVerdict, hok, herror]

/-- The close handler's verdict on the reply of a controller. -/
theorem closeVerdict_reply (b : Board) (w : Readings) {n : Int} (hn : 0 ≤ n) :
    (closeVerdict (replyData b (openReply b w n))).status =
        (if n < b.NUM_SLOTS ∧ isDoorClosed b w n = true then "SUCCESS" else "FAILED") ∧
      (closeVerdict (replyData b (openReply b w n))).error_code =
        if n < b.NUM_SLOTS then
          if isDoorClosed b w n then .null else .lit "HARDWARE_FAILURE"
        else .lit "INVALID_SLOT" := by
  have hok := isOk_replyData b (openReply b w n)
  have hslot : n ≠ -1 := by omega
  unfold closeVerdict
  by_cases h : n < b.NUM_SLOTS
  · have hdoor : doorIsClosed (replyData b (openReply b w n)) = isDoorClosed b w n := by
      simp [doorIsClosed, replyData, replyFields, openReply, h, hslot, entry, Field.json, getD,
        Json.truthy]
    have herror : getD (replyData b (openReply b w n)) "error" (.lit "HARDWARE_FAILURE") =
        .lit "HARDWARE_FAILURE" := by
      simp [replyData, replyFields, openReply, h, hslot, entry, getD]
    have hres : (openReply b w n).result = "OK".toList := by rw [openReply, if_pos h]
    rw [hok, hdoor, hres, herror]
    cases isDoorClosed b w n <;> simp [h]
  · have hres : (openReply b w n).result = "FAIL".toList := by rw [openReply, if_neg h]
    have herror : getD (replyData b (openReply b w n)) "error" (.lit "HARDWARE_FAILURE") =
        .lit "INVALID_SLOT" := by
      have hget : get? (replyData b (openReply b w n)) "error" =
          some (.str (ofChars "INVALID_SLOT".toList)) := by
        simp [replyData, replyFields, openReply, h, hslot, entry, Field.json]
      rw [getD, hget]
      rfl
    rw [hok, hres, herror]
    simp [h]

/-- **The verdict is what the door says**, for a slot that there is, and otherwise the reason. -/
theorem verdict_order (U : Unicode) (o : Order st) (hslot : 0 ≤ o.slot) (w : Readings) :
    (o.verdict U (answer bus o.command w)).status =
        (if o.succeeds bus w then "SUCCESS" else "FAILED") ∧
      (o.verdict U (answer bus o.command w)).error_code = o.errorOf bus w := by
  rw [answer_order o hslot, Order.errorOf, Order.succeeds]
  cases hboard : boardOf bus o.slave with
  | none => exact verdict_timeout U o _ _
  | some b =>
    unfold Order.verdict
    cases o.kind with
    | openLocker =>
      obtain ⟨hstatus, herror⟩ := openVerdict_reply U b w hslot
      dsimp only
      rw [hstatus, herror, openStatus, openError]
      by_cases h : o.slot < b.NUM_SLOTS <;>
        rcases Bool.eq_false_or_eq_true (isDoorClosed b w o.slot) with hdoor | hdoor <;>
        simp [h, hdoor]
    | closeLocker =>
      obtain ⟨hstatus, herror⟩ := closeVerdict_reply b w hslot
      dsimp only
      rw [hstatus, herror]
      by_cases h : o.slot < b.NUM_SLOTS <;>
        rcases Bool.eq_false_or_eq_true (isDoorClosed b w o.slot) with hdoor | hdoor <;>
        simp [h, hdoor]

/-! ## The handler -/

theorem Order.id_eq (o : Order st) : ∃ id, item o.cab "id" = .ok id ∧ id.key = .ok o.key := by
  have hid := st.ids o.key o.cab o.stored
  unfold idKey at hid
  cases hi : item o.cab "id" with
  | error e => rw [hi] at hid; cases hid
  | ok id => rw [hi] at hid; exact ⟨id, rfl, hid⟩

/-- What the handler does after it has written the command. -/
def Order.report (o : Order st) (out : Outside) (v : Verdict) : List ServiceEffect :=
  match o.kind with
  | .openLocker =>
    openReport { out with now := o.now } (segment o.name) o.message v o.key (.num (.fin o.slot))
  | .closeLocker =>
    closeReport { out with now := o.now } (segment o.name) o.message v o.key (.num (.fin o.slot))

/-- What it does before. -/
def Order.announced (o : Order st) : List ServiceEffect :=
  match o.kind with
  | .openLocker => [.setState o.key (.num (.fin o.slot)) .OPENING]
  | .closeLocker => []

theorem Order.effects_eq (o : Order st) (out : Outside) (reply : Dict) :
    o.effects out reply =
      o.announced ++ .write (o.command.bytes out.U) :: o.report out (o.verdict out.U reply) := by
  obtain ⟨id, hitem, hkey⟩ := o.id_eq
  have hindex : (CommandMessage.ofData o.data).slot_index = .int o.slot := o.slot_index
  have hslot : (CommandMessage.ofData o.data).slot_index.key = .ok (.num (.fin o.slot)) := by
    rw [hindex]
    rfl
  have hwritten : written (o.kind.action.command out.U (.int o.slot) (.int o.slave)) =
      some (o.command.bytes out.U) := o.command.written_text out.U
  rw [effects, handle_command_topic, o.reaches, report, verdict, announced]
  unfold handleOpenCommand handleCloseCommand
  rw [handleCommand_topic st o.kind o.name o.data _ o.found hitem,
    handleCommand_topic st o.kind o.name o.data _ o.found hitem, o.slot_index,
    if_pos (show notNone (.int o.slot) = true from rfl), o.slave_id]
  cases hkind : o.kind with
  | openLocker =>
    rw [hkind] at hwritten
    have hopen : written (openCommand out.U (.int o.slot) (.int o.slave)) =
      some (o.command.bytes out.U) := hwritten
    dsimp only
    rw [runOpen_effects _ reply _ _ hkey hslot, hindex]
    simp only [commandResult, hopen]
    rfl
  | closeLocker =>
    rw [hkind] at hwritten
    have hclose : written (closeCommand out.U (.int o.slot) (.int o.slave)) =
      some (o.command.bytes out.U) := hwritten
    dsimp only
    rw [if_pos (show notNone (.int o.slot) = true from rfl), runClose_effects _ reply _ _ hkey hslot,
      hindex]
    simp only [commandResult, hclose]
    rfl

/-- The ack of an open, in the form of a list. -/
def Order.acks (o : Order st) (U : Unicode) (v : Verdict) : List ServiceEffect :=
  match o.kind with
  | .openLocker => [.publish (ackTopic U (segment o.name) o.message) (ackPayload o.message v (o.now 1))]
  | .closeLocker => []

theorem Order.report_accepted {o : Order st} {out : Outside}
    (haccepted : ∀ t ∈ o.topics out.U, out.publish t = .ok ()) (v : Verdict) :
    o.report out v = .publish o.resultTopic (resultPayload o.message v (o.now 0)) ::
      (o.acks out.U v ++ [.setState o.key (.num (.fin o.slot)) v.hw_state]) := by
  unfold topics resultTopic at haccepted
  unfold report acks resultTopic
  cases hkind : o.kind with
  | openLocker =>
    simp only [hkind, List.mem_cons, List.not_mem_nil, or_false, forall_eq_or_imp, forall_eq]
      at haccepted
    obtain ⟨hresult, hack⟩ := haccepted
    simp only [openReport, hresult, hack]
    rfl
  | closeLocker =>
    simp only [hkind, List.mem_singleton, forall_eq] at haccepted
    simp only [closeReport, haccepted]
    rfl

theorem Order.publishedOn_acks (o : Order st) (U : Unicode) (v : Verdict) :
    publishedOn o.resultTopic (o.acks U v) = [] := by
  unfold acks resultTopic
  cases o.kind with
  | openLocker => simp [publishedOn, ackTopic_ne]
  | closeLocker => rfl

/-- Once the topics are accepted, an order has its one result. -/
theorem Order.reported {o : Order st} {out : Outside}
    (haccepted : ∀ t ∈ o.topics out.U, out.publish t = .ok ()) (hslot : 0 ≤ o.slot) (w : Readings) :
    Reported bus o w (o.effects out (answer bus o.command w)) := by
  obtain ⟨hstatus, herror⟩ : (o.verdict out.U (answer bus o.command w)).status =
        (if o.succeeds bus w then "SUCCESS" else "FAILED") ∧
      (o.verdict out.U (answer bus o.command w)).error_code = o.errorOf bus w :=
    verdict_order out.U o hslot w
  generalize hv : o.verdict out.U (answer bus o.command w) = v at hstatus herror
  refine ⟨resultPayload o.message v (o.now 0), v.hw_state, ?_, rfl, ?_, ?_, rfl, ?_⟩
  · have hannounced : publishedOn o.resultTopic o.announced = [] := by
      unfold announced
      cases o.kind <;> rfl
    have hacks := o.publishedOn_acks out.U v
    unfold publishedOn at hannounced hacks ⊢
    rw [o.effects_eq, hv, report_accepted haccepted, List.filterMap_append, hannounced]
    simp [List.filterMap_append, hacks]
  · rw [← hstatus]
    rfl
  · rw [← herror]
    rfl
  · rw [o.effects_eq, hv, report_accepted haccepted, stateAfter, List.filterMap_append,
      List.filterMap_cons, List.filterMap_cons, List.filterMap_append]
    simp

/-- What handling the orders does, each with its own reply. -/
def handled (out : Outside) (orders : List (Order st)) (replies : List Dict) :
    List (List ServiceEffect) :=
  List.zipWith (fun o reply => o.effects out reply) orders replies

/-- Orders whose replies a session gives. -/
structure Served (bus : Bus) (out : Outside) (orders : List (Order st)) (net : Net)
    (xs : List (Exchange bus)) : Prop where
  idle : net.Idle bus
  fits : Along netStep (Exchange.Fits out.U) net xs
  commands : xs.map Exchange.command = orders.map Order.command
  accepted : ∀ o ∈ orders, ∀ t ∈ o.topics out.U, out.publish t = .ok ()

end SmartLocker.System.Network
