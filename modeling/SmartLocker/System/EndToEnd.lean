import SmartLocker.Gateway.Listener
import SmartLocker.Gateway.LockerService
import SmartLocker.System.BusDelivery
import SmartLocker.System.FrameCodec
import SmartLocker.System.Confinement

/-!
# An open message on a quiet bus

From the MQTT message to the lock and back: the handler writes a command, the controller reads its
line, pulses the lock, reads the sensor and prints a reply, the listener reads the reply from chunks,
and the handler publishes its verdict.  `QuietOpen` is one such exchange with nothing else on the bus;
`open_end_to_end` says what comes of it, for every slave, slot, reading and chunking, and exactly when:
when the MQTT client accepts the topics of the result and of the legacy ack.
-/

set_option autoImplicit false

namespace SmartLocker.System

open Lib Lib.Cut Lib.Python Lib.Utf8 SmartLocker.Firmware SmartLocker.Gateway

/-! ## The controller's part -/

/-- The writes to lock pins. -/
def lockWrites (b : Board) (es : List Effect) : List (Int × Level) :=
  es.filterMap (fun e => match e with
    | .digitalWrite pin level => if pin ∈ b.LOCK_PINS then some (pin, level) else none
    | _ => none)

/-- The bytes that effects print on the bus. -/
def printedBytes (es : List Effect) : List UInt8 :=
  (printed es).flatMap (fun t => (t ++ ['\r', '\n']).map Char.toUInt8)

theorem lockWrites_sendResponse (b : Board) (slot gpio : Int) (result : List Char) (ms : Int)
    (closed : Bool) (error : List Char) :
    lockWrites b (sendResponse b slot gpio result ms closed error) = [] := by
  simp [lockWrites, sendResponse, b.tx_not_lock]

/-- An open request pulses its lock, if there is one. -/
theorem lockWrites_open (b : Board) (w : Readings) {n : Int} (hn : 0 ≤ n) :
    lockWrites b (execute b w (.slotAction 'O' n)) =
      if n < b.NUM_SLOTS then [(b.lockPin n, RELAY_ON), (b.lockPin n, RELAY_OFF)] else [] := by
  simp only [execute]
  by_cases h : n < b.NUM_SLOTS
  · have hpin : b.lockPin n ∈ b.LOCK_PINS := List.mem_of_getElem? (lockPin_eq hn h)
    have hsend := lockWrites_sendResponse b n (b.lockPin n) "OK".toList w.elapsedInt
      (isDoorClosed b w n) []
    unfold lockWrites at hsend ⊢
    rw [if_neg (by omega), if_neg (by decide), if_pos trivial, if_pos h,
      Firmware.openSlot,
      List.filterMap_append, hsend]
    simp [hpin]
  · rw [if_pos (by omega), if_neg h]
    exact lockWrites_sendResponse b n (-1) "FAIL".toList 0 false "INVALID_SLOT".toList

/-- The reply to an open request. -/
def openReply (b : Board) (w : Readings) (n : Int) : Reply :=
  if n < b.NUM_SLOTS then ⟨n, b.lockPin n, "OK".toList, w.elapsedInt, isDoorClosed b w n, []⟩
  else ⟨n, -1, "FAIL".toList, 0, false, "INVALID_SLOT".toList⟩

theorem replyTo_open (b : Board) (w : Readings) {n : Int} (hn : 0 ≤ n) :
    replyTo b w (.slotAction 'O' n) = some (openReply b w n) := by
  simp only [replyTo, openReply]
  by_cases h : n < b.NUM_SLOTS
  · rw [if_neg (by omega), if_pos (by decide), if_pos h]
  · rw [if_pos (by omega), if_neg h]

theorem printed_open (b : Board) (w : Readings) {n : Int} (hn : 0 ≤ n) :
    printed (execute b w (.slotAction 'O' n)) = [(openReply b w n).text b] := by
  rw [printed_execute, replyTo_open b w hn]
  rfl

/-- **A command that arrives whole is carried out**, with the readings of its last byte. -/
theorem command_carried_out (U : Unicode) (b : Board) {c : Command} (hslave : c.slave = b.SLAVE_ID)
    (hslot : SlotInt16 c) {ls : LoopState} (hls : ls.cmdBuffer = []) {body : List Rx} {e : Rx}
    (hbytes : (body ++ [e]).map Rx.byte = c.bytes U) (hg : NoGap (body ++ [e])) :
    (receiveAll b ls (body ++ [e])).2 = execute b e.readings (request c) := by
  have hchars : (body ++ [e]).map Rx.c = c.blanks ++ c.line ++ ['\n'] := by
    rw [← Command.bytes_chars U c, ← hbytes, List.map_map]
    rfl
  rw [List.map_append, List.map_singleton] at hchars
  obtain ⟨hbody, he⟩ := List.append_inj' hchars rfl
  simp only [List.cons.injEq, and_true] at he
  have hlf : isLineEnd '\n' = true := by decide
  have hfeed : (feed isLineEnd [] (body.map Rx.c)).2 = c.line ∧
      ∀ line ∈ (feed isLineEnd [] (body.map Rx.c)).1, line = [] := by
    rw [hbody, Command.blanks]
    cases c.ask <;>
      simp [feed_sep hlf, feed_none (lineEnd_free c.line_plain)]
  have hblank : (lineEvents [] body).flatMap (fun p => processCommand b p.2 (clip p.1)) = [] := by
    rw [List.flatMap_eq_nil_iff]
    intro p hp
    have hmem : p.1 ∈ (feed isLineEnd [] (body.map Rx.c)).1 := by
      rw [← lineEvents_lines]
      exact List.mem_map_of_mem hp
    rw [hfeed.2 p.1 hmem]
    rfl
  have hread := readRequest_line b.SLAVE_ID (c := c) ⟨hslave ▸ b.slave_int16, hslot⟩
  rw [if_pos hslave] at hread
  rw [(receiveAll_eq b _ ls [] hls (fun _ _ => Or.inl hls) hg).2, lineEvents_append,
    List.flatMap_append, hblank, hfeed.1]
  simp [lineEvents, he, hlf, processCommand_eq, hread]

/-! ## The gateway's part -/

/-- What a call that waits for `slave_id` gets from the texts the listener reads. -/
def firstResponse (pf : List Char → PyFloat) (slave_id : Json) (texts : List (List Char)) :
    Option Dict :=
  texts.findSome? (fun t => (responseOf pf t).bind (fun r =>
    if r.1.pyEq slave_id then some r.2 else none))

/-- What `open_slot` returns after these texts. -/
def replyFrom (pf : List Char → PyFloat) (slot_index slave_id : Json) (texts : List (List Char)) :
    Dict :=
  (firstResponse pf slave_id texts).getD (timeoutResponse slot_index slave_id)

/-- A printed reply as the listener sees it. -/
def replyLine (b : Board) (q : Reply) (h : IsFrame (q.text b))
    (hlast : (q.text b).getLast? = some '\x7d') : StreamLine where
  noise := []
  json := some {
    chars := q.text b
    ascii := fun c hc => (h.2 c hc).ascii
    no_nul := fun hc => absurd (h.2 _ hc) (by decide)
    no_lf := fun hc => absurd (h.2 _ hc) (by decide)
    no_cr := fun hc => absurd (h.2 _ hc) (by decide)
    head := h.1
    last := hlast }
  crlf := true
  no_brace := by simp
  no_lf := by simp

theorem reply_last {b : Board} {q : Reply} (h : Fits q) : (q.text b).getLast? = some '\x7d' := by
  rw [Reply.text, jsonOut_text b h.slot h.gpio h.ms h.result.1 h.error.1, objectText]
  exact List.getLast?_concat

/-- **The reply is received** whatever chunks it is read in. -/
theorem reply_received (pf : List Char → PyFloat) {b : Board} {w : Readings} {rawCmd : List Char}
    {r : Request} {q : Reply} (hr : readRequest b.SLAVE_ID rawCmd = some r)
    (hq : replyTo b w r = some q) (slot_index : Json) {chunks : List (List UInt8)}
    (hchunks : chunks.flatten = (q.text b ++ ['\r', '\n']).map Char.toUInt8) :
    replyFrom pf slot_index (.int b.SLAVE_ID) (listenerLoop [] chunks).2 = replyData b q := by
  have hframe := replyTo_frame hq
  have hlast := reply_last (b := b) (replyTo_fits hr hq)
  have hbytes : [] ++ chunks.flatten =
      [replyLine b q hframe hlast].flatMap StreamLine.bytes ++ [] := by
    rw [hchunks]
    simp [replyLine, StreamLine.bytes, StreamLine.body, StreamLine.text]
    decide
  have htexts := (listenerLoop_stream decoded_empty (by simp) (by simp)
    [replyLine b q hframe hlast] chunks hbytes).1
  rw [htexts, replyFrom, firstResponse]
  simp [replyLine, responseOf_reply pf hr hq]

/-! ## The verdict -/

/-- The error code of an open message for slot `n`. -/
def openError (b : Board) (n : Int) (closed : Bool) : Json :=
  if n < b.NUM_SLOTS then if closed then .lit "JAMMED" else .null else .lit "INVALID_SLOT"

def openStatus (b : Board) (n : Int) (closed : Bool) : String :=
  if n < b.NUM_SLOTS ∧ closed = false then "SUCCESS" else "FAILED"

/-- The reply is classified by the slot and the sensor. -/
theorem openVerdict_reply (U : Unicode) (b : Board) (w : Readings) {n : Int} (hn : 0 ≤ n) :
    (openVerdict U (replyData b (openReply b w n))).status = openStatus b n (isDoorClosed b w n) ∧
      (openVerdict U (replyData b (openReply b w n))).error_code =
        openError b n (isDoorClosed b w n) := by
  have hok := isOk_replyData b (openReply b w n)
  have hslot : n ≠ -1 := by omega
  unfold openVerdict openStatus openError
  by_cases h : n < b.NUM_SLOTS
  · have hdoor : doorIsClosed (replyData b (openReply b w n)) = isDoorClosed b w n := by
      simp [doorIsClosed, replyData, replyFields, openReply, h, hslot, entry, Field.json, getD,
        Json.truthy]
    have hres : (openReply b w n).result = "OK".toList := by rw [openReply, if_pos h]
    rw [hok, hdoor, hres]
    cases isDoorClosed b w n <;> simp [h]
  · have hres : (openReply b w n).result = "FAIL".toList := by rw [openReply, if_neg h]
    have herror : getD (replyData b (openReply b w n)) "error" (.lit "SERIAL_ERROR") =
        .lit "INVALID_SLOT" := by
      have hget : get? (replyData b (openReply b w n)) "error" =
          some (.str (ofChars "INVALID_SLOT".toList)) := by
        simp [replyData, replyFields, openReply, h, hslot, entry, Field.json]
      rw [getD, hget]
      rfl
    rw [hok, hres, herror]
    simp [h]

/-! ## The exchange -/

/-- What handling an open message for a name does. -/
def openEffects (out : Outside) (st : CabinetState) (reply : Dict) (name : PyStr) (d : Dict) :
    List ServiceEffect :=
  (handleIncomingMessage out st reply (Handled.openLocker.topic name) (some (.obj d))).effects

/-- The slave that the open handler waits for. -/
def awaited (st : CabinetState) (name : PyStr) : Json :=
  match st.getCabinetByName (segment name) with
  | some cab => slaveIdOf cab
  | none => .null

/-- An open message for slot `n` of the cabinet `c`, stored under `k`, whose controller is `b`, alone
on the bus: the controller receives what the handler writes, the listener reads in chunks what the
controller prints, and the handler's reply comes from that. -/
structure QuietOpen (pf : List Char → PyFloat) (b : Board) (out : Outside) (st : CabinetState)
    (k : Key) (c d : Dict) (n : Int) (reply : Dict) (ls : LoopState) (body : List Rx) (e : Rx)
    (chunks : List (List UInt8)) : Prop where
  stored : (k, c) ∈ st.cabinets.entries
  slave : slaveIdOf c = .int b.SLAVE_ID
  slot : getD d "slotIndex" .null = .int n
  range : 0 ≤ n ∧ n ≤ 32767
  idle : ls.cmdBuffer = []
  bytes : (body ++ [e]).map Rx.byte =
    (busWrites (openEffects out st reply (nameOf out.U c) d)).flatten
  noGap : NoGap (body ++ [e])
  read : chunks.flatten = printedBytes (receiveAll b ls (body ++ [e])).2
  reply : reply = replyFrom pf (.int n) (awaited st (nameOf out.U c)) (listenerLoop [] chunks).2

/-- The payloads published on a topic. -/
def publishedOn (topic : PyStr) (es : List ServiceEffect) : List Dict :=
  es.filterMap (fun e => match e with
    | .publish t p => if t = topic then some p else none
    | _ => none)

/-- The heartbeat state that effects leave a slot in, whatever it was before. -/
def stateAfter (cabinet_id slot_index : Key) (es : List ServiceEffect) : Option LockerHwState :=
  (es.filterMap (fun e => match e with
    | .setState c s hw => if c = cabinet_id ∧ s = slot_index then some hw else none
    | _ => none)).getLast?

/-- What an open message for slot `n` is to bring about, when the sensor then reads `closed`. -/
structure OpenOutcome (b : Board) (U : Unicode) (name : PyStr) (q : CommandMessage)
    (cabinet_id : Key) (n : Int) (closed : Bool) (es : List ServiceEffect) (fw : List Effect) :
    Prop where
  pulse : lockWrites b fw =
    if n < b.NUM_SLOTS then [(b.lockPin n, RELAY_ON), (b.lockPin n, RELAY_OFF)] else []
  result : ∃ p hw, publishedOn (cabinetTopic name "command/open/result") es = [p] ∧
    get? p "commandId" = some q.command_id ∧
    get? p "status" = some (.lit (openStatus b n closed)) ∧
    get? p "errorCode" = some (openError b n closed) ∧
    get? p "hwState" = some (LockerHwState.value hw) ∧
    stateAfter cabinet_id (.num (.fin n)) es = some hw
  ack : ∃ p, publishedOn (ackTopic U name q) es = [p] ∧
    get? p "status" = some (.lit (openStatus b n closed))

theorem ackTopic_ne (U : Unicode) (name : PyStr) (q : CommandMessage) :
    ackTopic U name q ≠ cabinetTopic name "command/open/result" := by
  intro h
  simp only [ackTopic, cabinetTopic, List.append_assoc] at h
  have htail := List.append_cancel_left (List.append_cancel_left h)
  simp [py, ofChars] at htail

/-! ## The handler's effects -/

section

variable {pf : List Char → PyFloat} {b : Board} {out : Outside} {st : CabinetState} {k : Key}
  {name : PyStr} {c d : Dict} {n : Int} {reply : Dict} {ls : LoopState} {body : List Rx} {e : Rx}
  {chunks : List (List UInt8)}

/-- The command an open message for slot `n` of the board `b` becomes. -/
def openOf (b : Board) (n : Int) : Command := ⟨b.SLAVE_ID, .slot .O n⟩

/-- The handler works for the cabinet that it finds. -/
theorem openEffects_found (reply : Dict) {cab : Dict}
    (hfound : st.getCabinetByName (segment name) = some cab)
    (hslot : getD d "slotIndex" .null = .int n) (hk : (k, cab) ∈ st.cabinets.entries) :
    openEffects out st reply name d =
      .setState k (.num (.fin n)) .OPENING ::
        (written (openCommand out.U (.int n) (slaveIdOf cab))).toList.map .write ++
          openReport out (segment name) (CommandMessage.ofData d)
            (openVerdict out.U (commandResult (openCommand out.U (.int n) (slaveIdOf cab)) (.int n)
              (slaveIdOf cab) reply)) k (.num (.fin n)) := by
  have hid := st.ids k cab hk
  have hitem : ∃ id, item cab "id" = .ok id ∧ id.key = .ok k := by
    unfold idKey at hid
    cases hi : item cab "id" with
    | error err => rw [hi] at hid; cases hid
    | ok id => rw [hi] at hid; exact ⟨id, rfl, hid⟩
  obtain ⟨id, hitem, hkey⟩ := hitem
  have hindex : (CommandMessage.ofData d).slot_index = .int n := hslot
  have hreached : Handled.openLocker.reached name = .openLocker := by
    rw [Handled.reached, if_pos]
    rw [contains, decide_eq_true_iff]
    exact (suffix_cabinetTopic name "command/open").isInfix
  have hrun := runOpen_effects out reply (segment name) (slaveIdOf cab)
    (q := CommandMessage.ofData d) hkey (s := .num (.fin n)) (by rw [hindex]; rfl)
  rw [openEffects, handle_command_topic, hreached]
  dsimp only
  rw [handleOpenCommand, handleCommand_topic st .openLocker name d _ hfound hitem, hslot,
    if_pos (show notNone (.int n) = true from rfl), hrun, hindex]

/-- When it finds `c`, it writes the command for the controller of `c`. -/
theorem openEffects_own (out : Outside) (reply : Dict) (hk : (k, c) ∈ st.cabinets.entries)
    (hslave : slaveIdOf c = .int b.SLAVE_ID) (hslot : getD d "slotIndex" .null = .int n)
    (hfound : st.getCabinetByName (segment name) = some c) :
    openEffects out st reply name d =
      .setState k (.num (.fin n)) .OPENING :: .write ((openOf b n).bytes out.U) ::
        openReport out (segment name) (CommandMessage.ofData d) (openVerdict out.U reply) k
          (.num (.fin n)) := by
  have hwritten : written (openCommand out.U (.int n) (.int b.SLAVE_ID)) =
      some ((openOf b n).bytes out.U) := (openOf b n).written_text out.U
  rw [openEffects_found reply hfound hslot hk, hslave, commandResult, hwritten]
  rfl

theorem busWrites_openEffects (out : Outside) (reply : Dict) (hk : (k, c) ∈ st.cabinets.entries)
    (hslave : slaveIdOf c = .int b.SLAVE_ID) (hslot : getD d "slotIndex" .null = .int n)
    (hfound : st.getCabinetByName (segment name) = some c) :
    busWrites (openEffects out st reply name d) = [(openOf b n).bytes out.U] := by
  have hreport := busWrites_openReport out (segment name) (CommandMessage.ofData d)
    (openVerdict out.U reply) k (.num (.fin n))
  rw [openEffects_own out reply hk hslave hslot hfound]
  unfold busWrites at hreport ⊢
  simp only [List.filterMap_cons, hreport]

/-- A message that reaches another cabinet leaves the state of `c` alone. -/
theorem stateAfter_other (out : Outside) (reply : Dict) (hk : (k, c) ∈ st.cabinets.entries)
    (hslot : getD d "slotIndex" .null = .int n)
    (hfound : st.getCabinetByName (segment name) ≠ some c) (s : Key) :
    stateAfter k s (openEffects out st reply name d) = none := by
  cases hcab : st.getCabinetByName (segment name) with
  | none =>
    have hnil : openEffects out st reply name d = [] := by
      rw [openEffects, handle_command_topic]
      unfold handleOpenCommand handleCloseCommand
      rw [handleCommand_unknown st .openLocker name _ _ hcab,
        handleCommand_unknown st .openLocker name _ _ hcab]
      cases Handled.openLocker.reached name <;> rfl
    rw [hnil]
    rfl
  | some cab =>
    obtain ⟨-, k', -, -, hk'⟩ :=
      CabinetState.id_of_mem (CabinetState.getCabinetByName_spec hcab).1
    have hne : k' ≠ k := by
      rintro rfl
      have heq := (st.cabinets.mem_entries_iff.mp hk').symm.trans (st.cabinets.mem_entries_iff.mp hk)
      exact hfound (hcab.trans heq)
    rw [openEffects_found reply hcab hslot hk', stateAfter, List.getLast?_eq_none_iff,
      List.filterMap_eq_nil_iff]
    intro x hx
    have hstate : ∀ k₁ s₁ hw, x = .setState k₁ s₁ hw → k₁ = k' := by
      rintro k₁ s₁ hw rfl
      rcases List.mem_append.mp hx with hx | hx
      · simp only [List.mem_cons, ServiceEffect.setState.injEq, List.mem_map, reduceCtorEq,
          and_false, exists_false, or_false] at hx
        exact hx.1
      · unfold openReport at hx
        dsimp only at hx
        split at hx
        · cases hx
        split at hx
        · simp at hx
        · simp at hx
          exact hx.1
    split
    · rename_i k₁ s₁ hw
      rw [if_neg]
      rintro ⟨rfl, -⟩
      exact hne (hstate _ _ _ rfl).symm
    · rfl

/-! ## The theorem -/

/-- Every open message that reaches `c` has such an exchange, for every reading of the sensors. -/
theorem quietOpen_exists (pf : List Char → PyFloat) (out : Outside)
    (hk : (k, c) ∈ st.cabinets.entries) (hslave : slaveIdOf c = .int b.SLAVE_ID)
    (hslot : getD d "slotIndex" .null = .int n) (hrange : 0 ≤ n ∧ n ≤ 32767)
    (hfound : st.getCabinetByName (segment (nameOf out.U c)) = some c) (w : Readings) :
    ∃ reply ls body e chunks, e.readings = w ∧
      QuietOpen pf b out st k c d n reply ls body e chunks := by
  let body := burst w (((openOf b n).blanks ++ (openOf b n).line).map Char.toUInt8)
  let e : Rx := ⟨0, Char.toUInt8 '\n', w⟩
  have hburst : body ++ [e] = burst w ((openOf b n).bytes out.U) := by
    simp [body, e, burst, Command.bytes_eq]
  exact ⟨_, .init, body, e, [printedBytes (receiveAll b .init (body ++ [e])).2], rfl, {
    stored := hk
    slave := hslave
    slot := hslot
    range := hrange
    idle := rfl
    bytes := by
      rw [hburst, burst_byte, busWrites_openEffects out _ hk hslave hslot hfound,
        List.flatten_singleton]
    noGap := hburst ▸ noGap_burst w _
    read := List.flatten_singleton
    reply := rfl }⟩

/-- The controller carries the command out, with the readings of its last byte. -/
theorem QuietOpen.carried_out (h : QuietOpen pf b out st k c d n reply ls body e chunks)
    (hfound : st.getCabinetByName (segment (nameOf out.U c)) = some c) :
    (receiveAll b ls (body ++ [e])).2 = execute b e.readings (.slotAction 'O' n) := by
  have hbytes := h.bytes
  rw [busWrites_openEffects out reply h.stored h.slave h.slot hfound, List.flatten_singleton]
    at hbytes
  have hrange := h.range
  exact command_carried_out out.U b (c := openOf b n) rfl
    (show -32768 ≤ n ∧ n ≤ 32767 by omega) h.idle hbytes h.noGap

/-- The handler gets the controller's reply. -/
theorem QuietOpen.reply_eq (h : QuietOpen pf b out st k c d n reply ls body e chunks)
    (hfound : st.getCabinetByName (segment (nameOf out.U c)) = some c) :
    reply = replyData b (openReply b e.readings n) := by
  have hrange := h.range
  have hread := readRequest_line b.SLAVE_ID (c := openOf b n)
    ⟨b.slave_int16, show -32768 ≤ n ∧ n ≤ 32767 by omega⟩
  rw [if_pos (show (openOf b n).slave = b.SLAVE_ID from rfl)] at hread
  have hchunks := h.read
  rw [h.carried_out hfound, printedBytes, printed_open b e.readings h.range.1,
    List.flatMap_singleton] at hchunks
  have hawaited : awaited st (nameOf out.U c) = .int b.SLAVE_ID := by
    rw [awaited, hfound]
    exact h.slave
  rw [h.reply, hawaited]
  exact reply_received pf hread (replyTo_open b e.readings h.range.1) (.int n) hchunks

/-- A cabinet that is found by the first segment of its name has no slash in it. -/
theorem segment_of_found (U : Unicode) (hfound : st.getCabinetByName (segment (nameOf U c)) = some c) :
    segment (nameOf U c) = nameOf U c := by
  have hname := (CabinetState.getCabinetByName_spec hfound).2
  conv_rhs => rw [nameOf, hname]
  rfl

/-- **An open message, end to end**: it brings about the outcome for the cabinet `c` if and only if
`c` is the cabinet found by its name and the MQTT client accepts the topics of the result and of the
ack. -/
theorem open_end_to_end (h : QuietOpen pf b out st k c d n reply ls body e chunks) :
    OpenOutcome b out.U (nameOf out.U c) (CommandMessage.ofData d) k n
        (isDoorClosed b e.readings n) (openEffects out st reply (nameOf out.U c) d)
        (receiveAll b ls (body ++ [e])).2 ↔
      st.getCabinetByName (segment (nameOf out.U c)) = some c ∧
        out.publish (cabinetTopic (nameOf out.U c) "command/open/result") = .ok () ∧
        out.publish (ackTopic out.U (nameOf out.U c) (CommandMessage.ofData d)) = .ok () := by
  by_cases hfound : st.getCabinetByName (segment (nameOf out.U c)) = some c
  swap
  · refine iff_of_false (fun ho => ?_) (fun hc => hfound hc.1)
    obtain ⟨p, hw, -, -, -, -, -, hstate⟩ := ho.result
    rw [stateAfter_other out reply h.stored h.slot hfound] at hstate
    cases hstate
  obtain ⟨hstatus, herror⟩ := openVerdict_reply out.U b e.readings h.range.1
  rw [← h.reply_eq hfound] at hstatus herror
  have hne := ackTopic_ne out.U (nameOf out.U c) (CommandMessage.ofData d)
  have heffects := openEffects_own out reply h.stored h.slave h.slot hfound
  rw [segment_of_found out.U hfound] at heffects
  unfold openReport at heffects
  dsimp only at heffects
  cases hr : out.publish (cabinetTopic (nameOf out.U c) "command/open/result") with
  | error err =>
    rw [hr] at heffects
    refine iff_of_false (fun ho => ?_) (by simp)
    obtain ⟨p, hw, hp, -⟩ := ho.result
    simp [heffects, publishedOn] at hp
  | ok _ =>
    cases ha : out.publish (ackTopic out.U (nameOf out.U c) (CommandMessage.ofData d)) with
    | error err =>
      rw [hr, ha] at heffects
      refine iff_of_false (fun ho => ?_) (by simp)
      obtain ⟨p, hp, -⟩ := ho.ack
      simp [heffects, publishedOn, hne.symm] at hp
    | ok _ =>
      rw [hr, ha] at heffects
      refine iff_of_true ⟨?_, ?_, ?_⟩ (by simp [hfound])
      · rw [h.carried_out hfound, lockWrites_open b e.readings h.range.1]
      · refine ⟨resultPayload (CommandMessage.ofData d) (openVerdict out.U reply) (out.now 0),
          (openVerdict out.U reply).hw_state, by simp [heffects, publishedOn, hne], ?_, ?_, ?_, ?_,
          by simp [heffects, stateAfter]⟩
        · simp [resultPayload]
        · simp [resultPayload, hstatus]
        · simp [resultPayload, herror]
        · simp [resultPayload]
      · exact ⟨ackPayload (CommandMessage.ofData d) (openVerdict out.U reply) (out.now 1),
          by simp [heffects, publishedOn, hne.symm], by rw [ackPayload_status, hstatus]⟩

end

/-- A message for slot `n` and the locker `id`. -/
def openMessage (n : Int) (id : String) : Dict :=
  [(py "commandId", .lit "c-1"), (py "lockerId", .lit id), (py "slotIndex", .int n)]

theorem open_end_to_end_sample :
    ∃ reply ls body e chunks,
      QuietOpen noFloat uno2 sampleOutside stateA (.str (py "id-a")) cabinetA (openMessage 1 "L-1") 1
        reply ls body e chunks ∧
      OpenOutcome uno2 Unicode.ascii (nameOf .ascii cabinetA)
        (CommandMessage.ofData (openMessage 1 "L-1")) (.str (py "id-a")) 1
        (isDoorClosed uno2 e.readings 1)
        (openEffects sampleOutside stateA reply (nameOf .ascii cabinetA) (openMessage 1 "L-1"))
        (receiveAll uno2 ls (body ++ [e])).2 := by
  have hstored : (Key.str (py "id-a"), cabinetA) ∈ stateA.cabinets.entries := List.mem_cons_self
  obtain ⟨reply, ls, body, e, chunks, -, hq⟩ := quietOpen_exists (b := uno2) (n := 1)
    (d := openMessage 1 "L-1") noFloat sampleOutside hstored rfl rfl (by decide) rfl allOpen
  exact ⟨reply, ls, body, e, chunks, hq, (open_end_to_end hq).mpr ⟨rfl, rfl, rfl⟩⟩

/-- A client that refuses topics with wildcards. -/
def refusesWildcards : Outside :=
  { sampleOutside with
    publish := fun topic =>
      if PyChar.uni '+' ∈ topic ∨ PyChar.uni '#' ∈ topic then .error .ValueError else .ok () }

/-- **An ack that cannot be published leaves the slot open in the heartbeats**: for slot 7 of a board
with three slots and the locker `L#1`, the result says `CLOSING`, but no ack follows and the heartbeat
state stays `OPENING`. -/
theorem ack_refused :
    ∃ reply ls body e chunks,
      QuietOpen noFloat uno2 refusesWildcards stateA (.str (py "id-a")) cabinetA
        (openMessage 7 "L#1") 7 reply ls body e chunks ∧
      (publishedOn (cabinetTopic (py "A") "command/open/result")
        (openEffects refusesWildcards stateA reply (py "A") (openMessage 7 "L#1"))).map
          (fun p => get? p "hwState") = [some (.lit "CLOSING")] ∧
      stateAfter (.str (py "id-a")) (.num (.fin 7))
        (openEffects refusesWildcards stateA reply (py "A") (openMessage 7 "L#1")) = some .OPENING ∧
      ¬ OpenOutcome uno2 Unicode.ascii (py "A")
        (CommandMessage.ofData (openMessage 7 "L#1")) (.str (py "id-a")) 7
        (isDoorClosed uno2 e.readings 7)
        (openEffects refusesWildcards stateA reply (py "A") (openMessage 7 "L#1"))
        (receiveAll uno2 ls (body ++ [e])).2 := by
  have hfound : stateA.getCabinetByName (segment (py "A")) = some cabinetA := rfl
  have hstored : (Key.str (py "id-a"), cabinetA) ∈ stateA.cabinets.entries := List.mem_cons_self
  obtain ⟨reply, ls, body, e, chunks, hw, hq⟩ := quietOpen_exists (b := uno2) (n := 7)
    (d := openMessage 7 "L#1") noFloat refusesWildcards hstored rfl rfl (by decide) hfound allOpen
  have hreply := hq.reply_eq hfound
  rw [hw] at hreply
  have hclosing : (openVerdict refusesWildcards.U reply).hw_state = .CLOSING := by
    rw [hreply]
    decide
  have heffects := openEffects_own refusesWildcards reply hq.stored hq.slave hq.slot hfound
  have hresult : refusesWildcards.publish
      (cabinetTopic (py "A") "command/open/result") = .ok () := by decide
  have hack : refusesWildcards.publish (ackTopic refusesWildcards.U (py "A")
      (CommandMessage.ofData (openMessage 7 "L#1"))) = .error .ValueError := by decide
  have hne := ackTopic_ne .ascii (py "A") (CommandMessage.ofData (openMessage 7 "L#1"))
  have hsegment : segment (py "A") = py "A" := by decide
  unfold openReport at heffects
  dsimp only at heffects
  rw [hsegment, hresult, hack] at heffects
  refine ⟨reply, ls, body, e, chunks, hq, ?_, ?_, fun ho => ?_⟩
  · rw [heffects]
    simp [publishedOn, resultPayload, hclosing, LockerHwState.value]
  · rw [heffects]
    simp [stateAfter]
  · obtain ⟨p, hp, -⟩ := ho.ack
    rw [heffects] at hp
    simp [publishedOn, hne.symm] at hp

end SmartLocker.System
