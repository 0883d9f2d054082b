import SmartLocker.Firmware.Frames
import SmartLocker.Lib.JsonText
import SmartLocker.Gateway.SerialManager

/-!
# The frames of a controller as JSON

The `snprintf` templates of the firmware and `json.loads` on the gateway are two ends of one codec:
every frame a controller prints is the text of a flat object (`jsonOut_text`, `doorEventText_text`,
`heartbeatJson_text`) that fits its buffer, so it is read back to exactly the fields printed.
-/

set_option autoImplicit false

namespace SmartLocker.System

open Lib.Decimal Lib.Python SmartLocker.Firmware SmartLocker.Gateway

/-- The fields of a reply. -/
def replyFields (b : Board) (slot gpio : Int) (result : List Char) (ms : Int) (closed : Bool)
    (error : List Char) : List (String × Field) :=
  if slot = -1 then
    [("slave", .int b.SLAVE_ID), ("slots", .int b.NUM_SLOTS), ("result", .str result),
      ("ms", .int ms)]
  else
    [("slave", .int b.SLAVE_ID), ("slot", .int slot), ("result", .str result), ("gpio", .int gpio),
      ("ms", .int ms), ("door", .bool closed)] ++
      if error.length > 0 then [("error", .str error)] else []

def doorFields (b : Board) (slot : Int) (eventName : List Char) : List (String × Field) :=
  [("slave", .int b.SLAVE_ID), ("event", .str eventName), ("slot", .int slot)]

def aliveFields (b : Board) : List (String × Field) :=
  [("slave", .int b.SLAVE_ID), ("event", .str "ALIVE".toList)]

theorem doorEventText_text (b : Board) {slot : Int} (hs : -32768 ≤ slot ∧ slot ≤ 32767)
    {eventName : List Char} (hn : eventName.length ≤ 11) :
    doorEventText b slot eventName = objectText (doorFields b slot eventName) := by
  have h1 := text_length b.slave_int16
  have h2 := text_length hs
  unfold doorEventText snprintf
  rw [List.take_of_length_le]
  · simp [objectText, doorFields, membersText, memberText, Field.text]
  · simp
    omega

theorem heartbeatJson_text (b : Board) : heartbeatJson b = objectText (aliveFields b) := by
  have h1 := text_length b.slave_int16
  unfold heartbeatJson snprintf
  rw [List.take_of_length_le]
  · simp [objectText, aliveFields, membersText, memberText, Field.text]
  · simp
    omega

theorem jsonOut_text (b : Board) {slot gpio ms : Int} {result error : List Char}
    (hs : -32768 ≤ slot ∧ slot ≤ 32767) (hg : -32768 ≤ gpio ∧ gpio ≤ 32767)
    (hms : -32768 ≤ ms ∧ ms ≤ 32767) (hr : result.length ≤ 4) (he : error.length ≤ 12)
    (closed : Bool) :
    jsonOut b slot gpio result ms closed error =
      objectText (replyFields b slot gpio result ms closed error) := by
  have h1 := text_length b.slave_int16
  have h2 := text_length hs
  have h3 := text_length hg
  have h4 := text_length hms
  have h5 : (text b.NUM_SLOTS).length ≤ 6 :=
    text_length (by have := b.slots_le; unfold Board.NUM_SLOTS; omega)
  unfold jsonOut snprintf replyFields
  split
  · rw [List.take_of_length_le]
    · simp [objectText, membersText, memberText, Field.text]
    · simp
      omega
  split
  · rw [List.take_of_length_le]
    · cases closed <;> simp [objectText, membersText, memberText, Field.text]
    · cases closed <;> simp <;> omega
  · rw [List.take_of_length_le]
    · cases closed <;> simp [objectText, membersText, memberText, Field.text]
    · cases closed <;> simp <;> omega

/-! ## Frames as dicts -/

def aliveData (b : Board) : Dict := (aliveFields b).map entry

def doorData (b : Board) (slot : Int) (eventName : List Char) : Dict :=
  (doorFields b slot eventName).map entry

def replyData (b : Board) (q : Reply) : Dict :=
  (replyFields b q.slot q.gpio q.result q.ms q.isDoorClosed q.error).map entry

/-- The arguments of a reply fit an `int`, and its texts the templates. -/
structure Fits (q : Reply) : Prop where
  slot : -32768 ≤ q.slot ∧ q.slot ≤ 32767
  gpio : -32768 ≤ q.gpio ∧ q.gpio ≤ 32767
  ms : -32768 ≤ q.ms ∧ q.ms ≤ 32767
  result : q.result.length ≤ 4 ∧ ∀ c ∈ q.result, Unescaped c
  error : q.error.length ≤ 12 ∧ ∀ c ∈ q.error, Unescaped c

theorem loads_alive (pf : List Char → PyFloat) (b : Board) :
    loads pf (heartbeatJson b) = some (.obj (aliveData b)) := by
  rw [heartbeatJson_text]
  refine loads_objectText pf (by simp [aliveFields]) (by simp [aliveFields]) ?_
  simp only [aliveFields, List.forall_mem_cons]
  exact ⟨⟨by decide, trivial⟩, ⟨by decide, by simp only [Field.Ok]; decide⟩, by simp⟩

theorem loads_door (pf : List Char → PyFloat) (b : Board) {slot : Int}
    (hs : -32768 ≤ slot ∧ slot ≤ 32767) {eventName : List Char} (hn : eventName.length ≤ 11)
    (hu : ∀ c ∈ eventName, Unescaped c) :
    loads pf (doorEventText b slot eventName) = some (.obj (doorData b slot eventName)) := by
  rw [doorEventText_text b hs hn]
  refine loads_objectText pf (by simp [doorFields]) (by simp [doorFields]) ?_
  simp only [doorFields, List.forall_mem_cons]
  exact ⟨⟨by decide, trivial⟩, ⟨by decide, hu⟩, ⟨by decide, trivial⟩, by simp⟩

theorem loads_reply (pf : List Char → PyFloat) (b : Board) {q : Reply} (h : Fits q) :
    loads pf (q.text b) = some (.obj (replyData b q)) := by
  unfold Reply.text replyData
  rw [jsonOut_text b h.slot h.gpio h.ms h.result.1 h.error.1]
  have hr := h.result.2
  have he := h.error.2
  unfold replyFields
  split
  · refine loads_objectText pf (by simp) (by simp) ?_
    simp only [List.forall_mem_cons]
    exact ⟨⟨by decide, trivial⟩, ⟨by decide, trivial⟩, ⟨by decide, hr⟩, ⟨by decide, trivial⟩,
      by simp⟩
  split
  · refine loads_objectText pf (by simp) (by simp) ?_
    simp only [List.cons_append, List.nil_append, List.forall_mem_cons]
    exact ⟨⟨by decide, trivial⟩, ⟨by decide, trivial⟩, ⟨by decide, hr⟩, ⟨by decide, trivial⟩,
      ⟨by decide, trivial⟩, ⟨by decide, trivial⟩, ⟨by decide, he⟩, by simp⟩
  · refine loads_objectText pf (by simp) (by simp) ?_
    simp only [List.cons_append, List.nil_append, List.forall_mem_cons]
    exact ⟨⟨by decide, trivial⟩, ⟨by decide, trivial⟩, ⟨by decide, hr⟩, ⟨by decide, trivial⟩,
      ⟨by decide, trivial⟩, ⟨by decide, trivial⟩, by simp⟩

theorem readRequest_int16 {id : Int} {rawCmd : List Char} {a : Char} {k : Int}
    (h : readRequest id rawCmd = some (.slotAction a k)) : -32768 ≤ k ∧ k ≤ 32767 := by
  unfold readRequest at h
  split at h
  · split at h
    · split at h
      · cases h
      split at h
      · cases h
      split at h
      · simp only [Option.some.injEq, Request.slotAction.injEq] at h
        exact h.2 ▸ atoi_range _
      · cases h
    · cases h
  · cases h

/-- The reply to a request that was read fits. -/
theorem replyTo_fits {b : Board} {w : Readings} {rawCmd : List Char} {r : Request} {q : Reply}
    (hr : readRequest b.SLAVE_ID rawCmd = some r) (hq : replyTo b w r = some q) : Fits q := by
  have hok : "OK".toList.length ≤ 4 ∧ ∀ c ∈ "OK".toList, Unescaped c := by decide
  have hfail : "FAIL".toList.length ≤ 4 ∧ ∀ c ∈ "FAIL".toList, Unescaped c := by decide
  have herror : "INVALID_SLOT".toList.length ≤ 12 ∧ ∀ c ∈ "INVALID_SLOT".toList, Unescaped c := by
    decide
  cases r with
  | ping =>
    cases hq
    exact ⟨by simp, by simp, by simp, hok, by simp⟩
  | slotAction a k =>
    have hk := readRequest_int16 hr
    simp only [replyTo] at hq
    split at hq
    · cases hq
      exact ⟨hk, by simp, by simp, hfail, herror⟩
    rename_i hrange
    split at hq
    · cases hq
      have hk0 : 0 ≤ k := by omega
      have hk1 : k < b.NUM_SLOTS := by omega
      have hpin := b.pins_byte _ (List.mem_of_getElem? (lockPin_eq hk0 hk1))
      exact ⟨hk, by simp only; omega, toInt16_range _, hok, by simp⟩
    · cases hq

/-! ## What the gateway makes of them -/

theorem aliveData_eq (b : Board) :
    aliveData b = [(py "slave", .int b.SLAVE_ID), (py "event", .lit "ALIVE")] := rfl

theorem doorData_eq (b : Board) (slot : Int) (eventName : String) :
    doorData b slot eventName.toList =
      [(py "slave", .int b.SLAVE_ID), (py "event", .lit eventName), (py "slot", .int slot)] := rfl

theorem handle_alive (b : Board) :
    handleIncomingJson (aliveData b) =
      .response (.int b.SLAVE_ID) (aliveResponse (aliveData b)) := by
  rw [aliveData_eq]
  simp [handleIncomingJson, slaveOf, getD]

theorem handle_door (b : Board) (slot : Int) {eventName : String}
    (h : eventName = "DOOR_CLOSED" ∨ eventName = "DOOR_OPENED") :
    handleIncomingJson (doorData b slot eventName.toList) =
      .door (.int slot) (.lit eventName) (.int b.SLAVE_ID) := by
  rw [doorData_eq]
  rcases h with rfl | rfl <;> simp [handleIncomingJson, slaveOf, getD]

theorem handle_reply (b : Board) (q : Reply) :
    handleIncomingJson (replyData b q) = .response (.int b.SLAVE_ID) (replyData b q) := by
  unfold replyData replyFields
  split
  · simp [handleIncomingJson, entry, slaveOf, getD, Field.json]
  split <;> simp [handleIncomingJson, entry, slaveOf, getD, Field.json]

/-- The slave and the dict that a frame's text would be stored with. -/
def responseOf (pf : List Char → PyFloat) (t : List Char) : Option (Json × Dict) :=
  match loads pf t with
  | some (.obj data) =>
    match handleIncomingJson data with
    | .response slave d => some (slave, d)
    | _ => none
  | _ => none

/-- The reply to a request that was read is stored as it is. -/
theorem responseOf_reply (pf : List Char → PyFloat) {b : Board} {w : Readings} {rawCmd : List Char}
    {r : Request} {q : Reply} (hr : readRequest b.SLAVE_ID rawCmd = some r)
    (hq : replyTo b w r = some q) :
    responseOf pf (q.text b) = some (.int b.SLAVE_ID, replyData b q) := by
  simp only [responseOf, loads_reply pf b (replyTo_fits hr hq), handle_reply]

/-- A reply is a success when its result is `OK`. -/
theorem isOk_replyData (b : Board) (q : Reply) :
    isOk (replyData b q) = decide (q.result = "OK".toList) := by
  have hres : get? (replyData b q) "result" = some (.str (ofChars q.result)) := by
    unfold replyData replyFields
    split
    · simp [entry, Field.json]
    · simp [entry, Field.json]
  simp only [isOk, hres, Json.lit, pyEq_str, py]
  rw [Bool.eq_iff_iff, beq_iff_eq, decide_eq_true_iff]
  exact ⟨ofChars_injective, fun h => h ▸ rfl⟩

end SmartLocker.System
