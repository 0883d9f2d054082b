import SmartLocker.Firmware.Safety

/-!
# One slot of the sensor poll

`pollMagneticSensors` goes through all slots with three arrays and one `now`.  `SlotState` is what the
arrays have for one slot and `SlotState.next` what a poll makes of it; `sketch_slot` says that the
sketch does this to every slot, whatever the ports and the other slots bring in between, and that the
frames of the slot's door events on the bus are those of `SlotState.event`, in their order.
-/

set_option autoImplicit false

namespace SmartLocker.Firmware

open Lib Lib.Traced Lib.Decimal

/-! ## The debounce of a slot -/

/-- `doorClosed`, `prevDoorClosed` and `lastDebounce` of one slot. -/
structure SlotState where
  closed : Bool
  prev : Bool
  debounce : UInt32
  deriving DecidableEq, Repr

/-- What a poll reads for one slot: whether the sensor is `LOW`, and still is after the delay. -/
structure SlotPoll where
  now : UInt32
  low : Bool
  stillLow : Bool
  deriving DecidableEq, Repr

namespace SlotState

/-- A changed sensor restarts the debounce. -/
def sample (s : SlotState) (x : SlotPoll) : SlotState :=
  if x.low != s.prev then ⟨s.closed, x.low, x.now⟩ else s

/-- The sensor is read again: it is stable and differs from the state of the door. -/
def rereads (s : SlotState) (x : SlotPoll) : Bool :=
  decide (x.now - (s.sample x).debounce ≥ 200) && x.low != s.closed

/-- The second reading confirms the first one. -/
def settles (s : SlotState) (x : SlotPoll) : Bool := s.rereads x && x.stillLow == x.low

def next (s : SlotState) (x : SlotPoll) : SlotState :=
  if s.settles x then { s.sample x with closed := x.low } else s.sample x

/-- The event that is sent, `true` for `DOOR_CLOSED`. -/
def event (s : SlotState) (x : SlotPoll) : List Bool := if s.settles x then [x.low] else []

/-- The state after the polls `xs`. -/
def after (s : SlotState) (xs : List SlotPoll) : SlotState := xs.foldl next s

def events : SlotState → List SlotPoll → List Bool
  | _, [] => []
  | s, x :: xs => s.event x ++ (s.next x).events xs

/-- The samples of the sensor, second readings included. -/
def samples : SlotState → List SlotPoll → List Bool
  | _, [] => []
  | s, x :: xs => x.low :: (if s.rereads x then [x.stillLow] else []) ++ (s.next x).samples xs

theorem sample_closed (s : SlotState) (x : SlotPoll) : (s.sample x).closed = s.closed := by
  unfold sample
  split
  · rfl
  · rfl

theorem sample_prev (s : SlotState) (x : SlotPoll) : (s.sample x).prev = x.low := by
  unfold sample
  split
  · rfl
  · rename_i h
    have heq : x.low = s.prev := by simpa using h
    exact heq.symm

end SlotState

/-- What a poll reads for slot `i`. -/
def Poll.slot (p : Poll) (i : Nat) : SlotPoll := ⟨p.now, p.low i, p.stillLow i⟩

/-- What the arrays have for slot `i`. -/
def Sketch.slot (st : Sketch) (i : Nat) : SlotState :=
  ⟨st.doorClosed.getD i false, st.prevDoorClosed.getD i false, st.lastDebounce.getD i 0⟩

/-! ## Door events on the bus -/

/-- The door event of slot `i` that a text is, `true` for `DOOR_CLOSED`. -/
def readDoorEvent (b : Board) (i : Nat) (t : List Char) : Option Bool :=
  if t = doorEventText b i "DOOR_CLOSED".toList then some true
  else if t = doorEventText b i "DOOR_OPENED".toList then some false
  else none

/-- The door event of slot `i` that an act puts on the bus. -/
def doorEventOf (b : Board) (i : Nat) : Act → Option Bool
  | .effect (.println t) => readDoorEvent b i t
  | _ => none

/-- The door events of slot `i` in a trace. -/
def doorEvents (b : Board) (i : Nat) (acts : List Act) : List Bool := acts.filterMap (doorEventOf b i)

/-- What every frame starts with. -/
def slavePart (b : Board) : List Char := "\x7b\"slave\":".toList ++ text b.SLAVE_ID

theorem slavePart_length (b : Board) : (slavePart b).length ≤ 15 := by
  have hlength : (slavePart b).length = 9 + (text b.SLAVE_ID).length := by
    unfold slavePart
    rw [List.length_append]
    congr 1
  have := text_length b.slave_int16
  omega

/-- A character behind the slave id, in a buffer that has room for it. -/
theorem getElem?_snprintf {n j : Nat} {s r : List Char} (h : s.length + j < n - 1) :
    (snprintf n (s ++ r))[s.length + j]? = r[j]? := by
  rw [snprintf, List.getElem?_take_of_lt h, List.getElem?_append_right (by omega)]
  simp

theorem doorEventText_eq (b : Board) (slot : Int) (name : List Char) :
    doorEventText b slot name = snprintf 64 (slavePart b ++ (",\"event\":\"".toList ++ (name ++
      ("\",\"slot\":".toList ++ (text slot ++ "\x7d".toList))))) := by
  unfold doorEventText slavePart
  simp only [List.append_assoc]

/-- The key behind the slave id of a door event. -/
theorem doorEventText_key (b : Board) (slot : Int) (name : List Char) :
    (doorEventText b slot name)[(slavePart b).length + 2]? = some 'e' := by
  have hlength := slavePart_length b
  rw [doorEventText_eq, getElem?_snprintf (by omega)]
  rfl

/-- The key behind the slave id of a reply. -/
theorem jsonOut_key (b : Board) (slot gpio : Int) (result : List Char) (ms : Int) (closed : Bool)
    (error : List Char) :
    (jsonOut b slot gpio result ms closed error)[(slavePart b).length + 2]? = some 's' := by
  have hlength := slavePart_length b
  have hkey : ∀ r : List Char,
      (snprintf 128 (slavePart b ++ (",\"slot".toList ++ r)))[(slavePart b).length + 2]? = some 's' := by
    intro r
    rw [getElem?_snprintf (by omega)]
    rfl
  unfold jsonOut
  split
  · simp only [List.append_assoc]
    exact hkey ("s\":".toList ++ _)
  split
  · simp only [List.append_assoc]
    exact hkey ("\":".toList ++ _)
  · simp only [List.append_assoc]
    exact hkey ("\":".toList ++ _)

theorem doorEventText_name (b : Board) (slot : Int) {c : Char} (name : List Char) :
    (doorEventText b slot (c :: name))[(slavePart b).length + 10]? = some c := by
  have hlength := slavePart_length b
  rw [doorEventText_eq, getElem?_snprintf (by omega)]
  rfl

theorem heartbeatJson_name (b : Board) :
    (heartbeatJson b)[(slavePart b).length + 10]? = some 'A' := by
  have hlength := slavePart_length b
  have heq : heartbeatJson b = snprintf 64 (slavePart b ++ ",\"event\":\"ALIVE\"\x7d".toList) := by
    unfold heartbeatJson slavePart
    rfl
  rw [heq, getElem?_snprintf (by omega)]
  rfl

/-- Two door events of one text are one event of one slot. -/
theorem doorEventText_inj (b : Board) {i j : Nat} (hi : i < 6) (hj : j < 6) {name name' : List Char}
    (hn : name.length = 11) (hn' : name'.length = 11)
    (h : doorEventText b i name = doorEventText b j name') : name = name' ∧ i = j := by
  have hlength := slavePart_length b
  have hfits : ∀ (k : Nat), k < 6 → ∀ n : List Char, n.length = 11 →
      doorEventText b k n = slavePart b ++ (",\"event\":\"".toList ++ (n ++
        ("\",\"slot\":".toList ++ (text k ++ "\x7d".toList)))) := by
    intro k hk n hn
    have htext := @text_length k (by omega)
    rw [doorEventText_eq, snprintf, List.take_of_length_le]
    have hkey : ",\"event\":\"".toList.length = 10 := rfl
    have hslot : "\",\"slot\":".toList.length = 9 := rfl
    have hend : "\x7d".toList.length = 1 := rfl
    simp only [List.length_append, hkey, hslot, hend, hn]
    omega
  rw [hfits i hi name hn, hfits j hj name' hn'] at h
  have hrest := List.append_cancel_left (List.append_cancel_left h)
  obtain ⟨hname, hrest⟩ := List.append_inj hrest (hn.trans hn'.symm)
  have hslot := List.append_cancel_right (List.append_cancel_left hrest)
  have hatoi : ∀ k : Nat, k < 6 → atoi (text k) = k := by
    intro k hk
    rw [← List.append_nil (text k), atoi_text k noDigit_nil, toInt16_id (by omega)]
  have hij := congrArg atoi hslot
  rw [hatoi i hi, hatoi j hj] at hij
  exact ⟨hname, by exact_mod_cast hij⟩

theorem readDoorEvent_none {b : Board} {i : Nat} {t : List Char}
    (h : ∀ name, t ≠ doorEventText b i name) : readDoorEvent b i t = none := by
  unfold readDoorEvent
  rw [if_neg (h _), if_neg (h _)]

theorem readDoorEvent_reply (b : Board) (i : Nat) (slot gpio : Int) (result : List Char) (ms : Int)
    (closed : Bool) (error : List Char) :
    readDoorEvent b i (jsonOut b slot gpio result ms closed error) = none := by
  refine readDoorEvent_none fun name h => ?_
  have hkey := jsonOut_key b slot gpio result ms closed error
  rw [h, doorEventText_key] at hkey
  cases hkey

theorem readDoorEvent_heartbeat (b : Board) (i : Nat) : readDoorEvent b i (heartbeatJson b) = none := by
  have hname := heartbeatJson_name b
  have hother : ∀ rest, heartbeatJson b ≠ doorEventText b i ('D' :: rest) := by
    intro rest h
    rw [h, doorEventText_name] at hname
    exact absurd hname (by decide)
  have hclosed : heartbeatJson b ≠ doorEventText b i "DOOR_CLOSED".toList := hother "OOR_CLOSED".toList
  have hopened : heartbeatJson b ≠ doorEventText b i "DOOR_OPENED".toList := hother "OOR_OPENED".toList
  unfold readDoorEvent
  rw [if_neg hclosed, if_neg hopened]

theorem readDoorEvent_test (b : Board) (i : Nat) :
    readDoorEvent b i "\x7b\"event\":\"TEST_FROM_INO\"\x7d".toList = none := by
  refine readDoorEvent_none fun name h => ?_
  have hslave : (doorEventText b i name)[2]? = some 's' := rfl
  rw [← h] at hslave
  exact absurd hslave (by decide)

/-- The text of an event of slot `j` is an event of slot `j`. -/
theorem readDoorEvent_door (b : Board) {i j : Nat} (hi : i < 6) (hj : j < 6) (closed : Bool) :
    readDoorEvent b i (doorEventText b j (if closed then "DOOR_CLOSED" else "DOOR_OPENED").toList) =
      if j = i then some closed else none := by
  have hclosed : "DOOR_CLOSED".toList.length = 11 := rfl
  have hopened : "DOOR_OPENED".toList.length = 11 := rfl
  have hother : "DOOR_OPENED".toList ≠ "DOOR_CLOSED".toList := by decide
  unfold readDoorEvent
  by_cases hji : j = i
  · subst hji
    rw [if_pos rfl]
    cases closed with
    | true => exact if_pos rfl
    | false =>
      refine (if_neg fun h => ?_).trans (if_pos rfl)
      exact hother (doorEventText_inj b hj hj hopened hclosed h).1
  · rw [if_neg hji]
    have hname : (if closed then "DOOR_CLOSED" else "DOOR_OPENED").toList.length = 11 := by
      cases closed with
      | true => rfl
      | false => rfl
    rw [if_neg, if_neg]
    · exact fun h => hji (doorEventText_inj b hj hi hname hopened h).2
    · exact fun h => hji (doorEventText_inj b hj hi hname hclosed h).2

/-! ## What the sketch does to a slot -/

/-- The arrays have an element for every slot. -/
structure Sketch.Sized (st : Sketch) : Prop where
  doorClosed : st.doorClosed.length = 6
  prevDoorClosed : st.prevDoorClosed.length = 6
  lastDebounce : st.lastDebounce.length = 6

/-- What is seen of the sketch: the state of slot `i` and the time of the last poll. -/
def Sketch.view (i : Nat) (st : Sketch) : SlotState × UInt32 := (st.slot i, st.lastSensorPoll)

/-- The part `p` of the sketch does to slot `i` what `q` does to its state, and puts the events of `q`
on the bus. -/
abbrev OnSlot (b : Board) (i : Nat) (p : Program) (q : Traced (SlotState × UInt32) Bool) : Prop :=
  Refines Sketch.Sized (Sketch.view i) (doorEventOf b i) p q

/-- Acts on other arrays and pins. -/
theorem doorEvents_access (b : Board) (i : Nat) (t : Table) (j : Int) (acts : List Act) :
    (Act.access t j :: acts).filterMap (doorEventOf b i) = acts.filterMap (doorEventOf b i) := rfl

/-- The door events among the texts that are printed. -/
theorem doorEvents_did (b : Board) (i : Nat) (es : List Effect) :
    (did es).filterMap (doorEventOf b i) = (printed es).filterMap (readDoorEvent b i) := by
  induction es with
  | nil => rfl
  | cons e es ih =>
    cases e with
    | digitalWrite pin level => exact ih
    | delay ms => exact ih
    | println t =>
      show (Act.effect (.println t) :: did es).filterMap (doorEventOf b i) =
        (t :: printed es).filterMap (readDoorEvent b i)
      rw [List.filterMap_cons, List.filterMap_cons, ih]
      rfl

theorem doorEvents_reply (b : Board) (i : Nat) (slot gpio : Int) (result : List Char) (ms : Int)
    (closed : Bool) (error : List Char) :
    (did (sendResponse b slot gpio result ms closed error)).filterMap (doorEventOf b i) = [] := by
  have hprinted : printed (sendResponse b slot gpio result ms closed error) =
      [jsonOut b slot gpio result ms closed error] := rfl
  rw [doorEvents_did, hprinted, List.filterMap_cons, readDoorEvent_reply]
  rfl

theorem doorEvents_transmit (b : Board) (i : Nat) (t : List Char) :
    (did (transmit t)).filterMap (doorEventOf b i) = (readDoorEvent b i t).toList := by
  have hprinted : printed (transmit t) = [t] := rfl
  rw [doorEvents_did, hprinted, List.filterMap_cons]
  cases readDoorEvent b i t with
  | none => rfl
  | some closed => rfl

/-- A command puts no door event on the bus. -/
theorem doorEvents_processCommandActs (b : Board) (i : Nat) (w : Readings) (rawCmd : List Char) :
    (processCommandActs b w rawCmd).filterMap (doorEventOf b i) = [] := by
  have hpulse : ∀ slot lockPin,
      (pulseActs b w slot lockPin).filterMap (doorEventOf b i) = [] := by
    intro slot lockPin
    rw [pulseActs, List.filterMap_append, doorEvents_access, doorEvents_reply]
    rfl
  have hclose : ∀ slot lockPin,
      (closeSlotActs b w slot lockPin).filterMap (doorEventOf b i) = [] := by
    intro slot lockPin
    rw [closeSlotActs, List.filterMap_append, doorEvents_access, doorEvents_reply]
    rfl
  have hslot : ∀ action slot, (slotActs b w action slot).filterMap (doorEventOf b i) = [] := by
    intro action slot
    unfold slotActs
    split
    · exact doorEvents_reply b i _ _ _ _ _ _
    rw [doorEvents_access]
    split
    · exact hpulse _ _
    split
    · exact hpulse _ _
    split
    · exact hclose _ _
    · rfl
  unfold processCommandActs
  dsimp only
  split
  · rfl
  split
  · rfl
  split
  · rfl
  split
  · rfl
  split
  · exact doorEvents_reply b i _ _ _ _ _ _
  split
  · rfl
  · exact hslot _ _

/-- What changes none of the arrays and puts no door event on the bus is not seen. -/
theorem OnSlot.hidden {b : Board} {i : Nat} {p : Program}
    (harrays : ∀ st, (p st).1.doorClosed = st.doorClosed ∧ (p st).1.prevDoorClosed = st.prevDoorClosed ∧
      (p st).1.lastDebounce = st.lastDebounce ∧ (p st).1.lastSensorPoll = st.lastSensorPoll)
    (hacts : ∀ st, (p st).2.filterMap (doorEventOf b i) = []) : OnSlot b i p nop := by
  intro st h
  obtain ⟨hclosed, hprev, hdebounce, hpoll⟩ := harrays st
  refine ⟨⟨?_, ?_, ?_⟩, ?_, hacts st⟩
  · rw [hclosed]
    exact h.doorClosed
  · rw [hprev]
    exact h.prevDoorClosed
  · rw [hdebounce]
    exact h.lastDebounce
  · show ((p st).1.slot i, (p st).1.lastSensorPoll) = (st.slot i, st.lastSensorPoll)
    unfold Sketch.slot
    rw [hclosed, hprev, hdebounce, hpoll]

theorem hidden_endLine (b : Board) (i : Nat) (w : Readings) : OnSlot b i (endLine b w) nop := by
  refine OnSlot.hidden (fun st => ?_) fun st => ?_
  · unfold endLine
    split
    · exact ⟨rfl, rfl, rfl, rfl⟩
    · exact ⟨rfl, rfl, rfl, rfl⟩
  · unfold endLine
    split
    · rw [doorEvents_access]
      exact doorEvents_processCommandActs b i w _
    · rfl

theorem hidden_push (b : Board) (i : Nat) (c : Char) : OnSlot b i (push c) nop :=
  OnSlot.hidden (fun _ => ⟨rfl, rfl, rfl, rfl⟩) fun _ => rfl

theorem hidden_rs485Read (b : Board) (i : Nat) (x : Rx) : OnSlot b i (rs485Read b x) nop := by
  refine Refines.hidden_seq (OnSlot.hidden (fun _ => ⟨rfl, rfl, rfl, rfl⟩) fun _ => rfl) ?_
  intro st h
  simp only [look]
  split
  · exact hidden_endLine b i x.readings st h
  split
  · split
    · exact Refines.nop st h
    · exact hidden_push b i x.c st h
  · exact Refines.nop st h

theorem hidden_usbRead (b : Board) (i : Nat) (x : UsbRx) : OnSlot b i (usbRead b x) nop := by
  have htest : (did testFrame).filterMap (doorEventOf b i) = [] := by
    have hprinted : printed testFrame = ["\x7b\"event\":\"TEST_FROM_INO\"\x7d".toList] := rfl
    rw [doorEvents_did, hprinted, List.filterMap_cons, readDoorEvent_test]
    rfl
  refine Refines.hidden_seq ?_ ?_
  · split
    · exact Refines.emit htest
    · exact Refines.nop
  intro st h
  simp only [look]
  split
  · exact hidden_endLine b i x.readings st h
  split
  · exact hidden_push b i x.c st h
  · exact Refines.nop st h

/-! ## The poll of a slot -/

theorem getD_set_self {α : Type} {l : List α} {i : Nat} (h : i < l.length) (v d : α) :
    (l.set i v).getD i d = v := by
  simp [List.getD_eq_getElem?_getD, h]

theorem getD_set_other {α : Type} {l : List α} {i j : Nat} (h : j ≠ i) (v d : α) :
    (l.set j v).getD i d = l.getD i d := by
  simp [List.getD_eq_getElem?_getD, List.getElem?_set_ne h]

/-- What a poll does to a slot, and the events it sends. -/
def slotPoll (x : SlotPoll) : Traced (SlotState × UInt32) Bool := fun v =>
  ((v.1.next x, v.2), v.1.event x)

def slotSample (x : SlotPoll) : Traced (SlotState × UInt32) Bool := fun v => ((v.1.sample x, v.2), [])

/-- The second half of a poll, after the sample. -/
def slotEdge (x : SlotPoll) : Traced (SlotState × UInt32) Bool := fun v =>
  if x.now - v.1.debounce ≥ 200 ∧ x.low ≠ v.1.closed ∧ x.stillLow = x.low then
    (({ v.1 with closed := x.low }, v.2), [x.low])
  else (v, [])

theorem slotPoll_eq (x : SlotPoll) : slotPoll x = seq (slotSample x) (slotEdge x) := by
  funext v
  have hsettles : v.1.settles x = decide (x.now - (v.1.sample x).debounce ≥ 200 ∧
      x.low ≠ (v.1.sample x).closed ∧ x.stillLow = x.low) := by
    rw [SlotState.sample_closed, SlotState.settles, SlotState.rereads, Bool.eq_iff_iff]
    simp [and_assoc]
  unfold slotPoll slotEdge slotSample seq SlotState.next SlotState.event
  rw [hsettles]
  simp only [decide_eq_true_eq]
  split
  · rfl
  · rfl

theorem sized_raw {st : Sketch} (h : st.Sized) (j : Nat) (low : Bool) (now : UInt32) :
    Sketch.Sized { st with
      lastDebounce := st.lastDebounce.set j now
      prevDoorClosed := st.prevDoorClosed.set j low } :=
  ⟨h.doorClosed, List.length_set.trans h.prevDoorClosed, List.length_set.trans h.lastDebounce⟩

theorem sized_door {st : Sketch} (h : st.Sized) (j : Nat) (closed : Bool) :
    Sketch.Sized { st with doorClosed := st.doorClosed.set j closed } :=
  ⟨List.length_set.trans h.doorClosed, h.prevDoorClosed, h.lastDebounce⟩

theorem view_door {st : Sketch} (h : st.Sized) {i : Nat} (hi : i < 6) (closed : Bool) :
    Sketch.view i { st with doorClosed := st.doorClosed.set i closed } =
      ({ st.slot i with closed := closed }, st.lastSensorPoll) := by
  unfold Sketch.view Sketch.slot
  dsimp only
  rw [getD_set_self (by rw [h.doorClosed]; exact hi)]

theorem view_door_other (st : Sketch) {i j : Nat} (hji : j ≠ i) (closed : Bool) :
    Sketch.view i { st with doorClosed := st.doorClosed.set j closed } = Sketch.view i st := by
  unfold Sketch.view Sketch.slot
  dsimp only
  rw [getD_set_other hji]

theorem debounce_slot (b : Board) (p : Poll) {i : Nat} (hi : i < 6) :
    OnSlot b i (debounce p i) (slotSample (p.slot i)) := by
  intro st h
  unfold debounce slotSample SlotState.sample Sketch.view
  have hprev : (st.slot i).prev = st.prevDoorClosed.getD i false := rfl
  have hlow : (p.slot i).low = p.low i := rfl
  rw [hprev, hlow]
  split
  · refine ⟨sized_raw h i _ _, ?_, rfl⟩
    unfold Sketch.slot
    dsimp only
    rw [getD_set_self (by rw [h.prevDoorClosed]; exact hi),
      getD_set_self (by rw [h.lastDebounce]; exact hi)]
    rfl
  · exact ⟨h, rfl, rfl⟩

/-- The state of a settled slot. -/
theorem settle_state (b : Board) (p : Poll) (j : Nat) (closed : Bool) (st : Sketch) :
    (settle b p j closed st).1 =
      if p.stillLow j = closed then { st with doorClosed := st.doorClosed.set j closed } else st := by
  unfold settle
  dsimp only
  split
  · rfl
  · rfl

/-- The door events of a settled slot. -/
theorem doorEvents_settle (b : Board) (p : Poll) {i j : Nat} (hi : i < 6) (hj : j < 6) (closed : Bool)
    (st : Sketch) : (settle b p j closed st).2.filterMap (doorEventOf b i) =
      if j = i ∧ p.stillLow j = closed then [closed] else [] := by
  have hwait : (did [.delay 100] ++ [Act.access .MAGNETIC_PINS j]).filterMap (doorEventOf b i) = [] := rfl
  unfold settle
  dsimp only
  by_cases hstill : p.stillLow j = closed
  · rw [if_pos hstill, List.filterMap_append, hwait, doorEvents_access]
    unfold sendDoorEvent
    rw [doorEvents_transmit, readDoorEvent_door b hi hj]
    by_cases hji : j = i
    · rw [if_pos hji, if_pos ⟨hji, hstill⟩]
      rfl
    · rw [if_neg hji, if_neg (fun h => hji h.1)]
      rfl
  · rw [if_neg hstill, if_neg (fun h => hstill h.2)]
    exact hwait

theorem detectEdge_slot (b : Board) (p : Poll) {i : Nat} (hi : i < 6) :
    OnSlot b i (detectEdge b p i) (slotEdge (p.slot i)) := by
  intro st h
  have hedge_eq : slotEdge (p.slot i) (st.view i) =
      if p.now - st.lastDebounce.getD i 0 ≥ 200 ∧ p.low i ≠ st.doorClosed.getD i false ∧
          p.stillLow i = p.low i then
        (({ st.slot i with closed := p.low i }, st.lastSensorPoll), [p.low i])
      else (st.view i, []) := rfl
  rw [hedge_eq]
  unfold detectEdge
  by_cases helapsed : p.now - st.lastDebounce.getD i 0 ≥ 200
  · rw [if_pos helapsed]
    by_cases hedge : p.low i = st.doorClosed.getD i false
    · have hbne : ¬ (p.low i != st.doorClosed.getD i false) = true := by simpa using hedge
      rw [if_neg hbne, if_neg fun hc => hc.2.1 hedge]
      exact ⟨h, rfl, rfl⟩
    · have hbne : (p.low i != st.doorClosed.getD i false) = true := by simpa using hedge
      have hevents := doorEvents_settle b p hi hi (p.low i) st
      have hstate := settle_state b p i (p.low i) st
      have hturn : (seq (emit [.access .lastDebounce i, .access .doorClosed i]) (settle b p i (p.low i))
          st).1 = (settle b p i (p.low i) st).1 := rfl
      rw [if_pos hbne, hturn]
      by_cases hconfirmed : p.stillLow i = p.low i
      · rw [if_pos ⟨helapsed, hedge, hconfirmed⟩]
        rw [if_pos ⟨rfl, hconfirmed⟩] at hevents
        rw [hstate, if_pos hconfirmed]
        exact ⟨sized_door h i _, view_door h hi _, hevents⟩
      · rw [if_neg fun hc => hconfirmed hc.2.2]
        rw [if_neg fun hc => hconfirmed hc.2] at hevents
        rw [hstate, if_neg hconfirmed]
        exact ⟨h, rfl, hevents⟩
  · rw [if_neg helapsed, if_neg fun hc => helapsed hc.1]
    exact ⟨h, rfl, rfl⟩

/-- The turns of the other slots are not seen. -/
theorem turn_hidden (b : Board) (p : Poll) {i j : Nat} (hi : i < 6) (hj : j < 6) (hji : j ≠ i) :
    OnSlot b i (seq (debounce p j) (detectEdge b p j)) nop := by
  refine Refines.hidden_seq ?_ ?_
  · intro st h
    unfold debounce
    dsimp only
    split
    · refine ⟨sized_raw h j _ _, ?_, rfl⟩
      unfold Sketch.view Sketch.slot
      dsimp only
      rw [getD_set_other hji, getD_set_other hji]
      rfl
    · exact ⟨h, rfl, rfl⟩
  · intro st h
    unfold detectEdge
    split
    · split
      · have hevents := doorEvents_settle b p hi hj (p.low j) st
        rw [if_neg (fun hc => hji hc.1)] at hevents
        have hturn : (seq (emit [.access .lastDebounce j, .access .doorClosed j])
            (settle b p j (p.low j)) st).1 = (settle b p j (p.low j) st).1 := rfl
        rw [hturn, settle_state]
        split
        · exact ⟨sized_door h j _, view_door_other st hji _, hevents⟩
        · exact ⟨h, rfl, hevents⟩
      · exact ⟨h, rfl, rfl⟩
    · exact ⟨h, rfl, rfl⟩

theorem hidden_heartbeat (b : Board) (i : Nat) (p : Poll) : OnSlot b i (heartbeat b p) nop := by
  have hprint : ((List.range b.LOCK_PINS.length).flatMap
      (fun i : Nat => [Act.access .MAGNETIC_PINS i, .access .doorClosed i])).filterMap
        (doorEventOf b i) = [] := by
    rw [List.filterMap_eq_nil_iff]
    intro a ha
    obtain ⟨j, -, ha⟩ := List.mem_flatMap.mp ha
    simp only [List.mem_cons, List.not_mem_nil, or_false] at ha
    rcases ha with rfl | rfl
    · rfl
    · rfl
  refine OnSlot.hidden (fun st => ?_) fun st => ?_
  · unfold heartbeat
    split
    · exact ⟨rfl, rfl, rfl, rfl⟩
    · exact ⟨rfl, rfl, rfl, rfl⟩
  · unfold heartbeat
    split
    · rw [List.filterMap_append, hprint, doorEvents_transmit, readDoorEvent_heartbeat]
      rfl
    · rfl

/-- **One call of `pollMagneticSensors`** polls every slot by itself. -/
theorem pollMagneticSensors_slot (b : Board) (p : Poll) {i : Nat} (hi : i < b.LOCK_PINS.length) :
    OnSlot b i (pollMagneticSensors b p) (slotPoll (p.slot i)) := by
  have hsix : ∀ j ∈ List.range b.LOCK_PINS.length, j < 6 := fun j hj =>
    Nat.lt_of_lt_of_le (List.mem_range.mp hj) b.slots_le
  have hi6 := hsix i (List.mem_range.mpr hi)
  refine Refines.seq_hidden ?_ (hidden_heartbeat b i p)
  rw [slotPoll_eq]
  exact Refines.forEach_one List.nodup_range (List.mem_range.mpr hi)
    ((debounce_slot b p hi6).seq (detectEdge_slot b p hi6))
    fun j hj hji => turn_hidden b p hi6 (hsix j hj) hji

/-! ## Runs -/

/-- The polls that are made: `loop()` makes one when 100 ms have gone since the last one. -/
def pollsMade : UInt32 → List LoopEvent → List Poll
  | _, [] => []
  | last, .poll p :: es =>
    if p.now - last ≥ 100 then p :: pollsMade p.now es else pollsMade last es
  | last, .rs485 _ :: es => pollsMade last es
  | last, .usb _ :: es => pollsMade last es

/-- What the polls read for slot `i`. -/
abbrev slotPolls (i : Nat) (ps : List Poll) : List SlotPoll := ps.map (·.slot i)

/-- What an event of the loop is to slot `i`: a poll that is due polls it. -/
def slotEvent (i : Nat) : LoopEvent → Traced (SlotState × UInt32) Bool
  | .poll p => fun v => if p.now - v.2 ≥ 100 then slotPoll (p.slot i) (v.1, p.now) else (v, [])
  | _ => nop

/-- **One event of the loop.** -/
theorem handle_slot (b : Board) {i : Nat} (hi : i < b.LOCK_PINS.length) (e : LoopEvent) :
    OnSlot b i (handle b e) (slotEvent i e) := by
  cases e with
  | rs485 x => exact hidden_rs485Read b i x
  | usb x => exact hidden_usbRead b i x
  | poll p =>
    intro st h
    by_cases hdue : p.now - st.lastSensorPoll ≥ 100
    · have hhandle : handle b (.poll p) st =
          pollMagneticSensors b p { st with lastSensorPoll := p.now } := if_pos hdue
      have hslot : slotEvent i (.poll p) (st.view i) = slotPoll (p.slot i) (st.slot i, p.now) :=
        if_pos hdue
      rw [hhandle, hslot]
      exact pollMagneticSensors_slot b p hi { st with lastSensorPoll := p.now }
        ⟨h.doorClosed, h.prevDoorClosed, h.lastDebounce⟩
    · have hhandle : handle b (.poll p) st = (st, []) := if_neg hdue
      have hslot : slotEvent i (.poll p) (st.view i) = (st.view i, []) := if_neg hdue
      rw [hhandle, hslot]
      exact ⟨h, rfl, rfl⟩

/-- **A run of events** is the run of the polls that are made. -/
theorem slotEvents_run (i : Nat) (es : List LoopEvent) (s : SlotState) (last : UInt32) :
    (forEach es (slotEvent i) (s, last)).1.1 = s.after (slotPolls i (pollsMade last es)) ∧
      (forEach es (slotEvent i) (s, last)).2 = s.events (slotPolls i (pollsMade last es)) := by
  induction es generalizing s last with
  | nil => exact ⟨rfl, rfl⟩
  | cons e es ih =>
    cases e with
    | rs485 x => exact ih s last
    | usb x => exact ih s last
    | poll p =>
      by_cases hdue : p.now - last ≥ 100
      · have hpolls : pollsMade last (.poll p :: es) = p :: pollsMade p.now es := if_pos hdue
        have hevent : slotEvent i (.poll p) (s, last) = slotPoll (p.slot i) (s, p.now) := if_pos hdue
        obtain ⟨hstate, hevents⟩ := ih (s.next (p.slot i)) p.now
        simp only [forEach, seq, hevent, hpolls]
        exact ⟨hstate, congrArg (s.event (p.slot i) ++ ·) hevents⟩
      · have hpolls : pollsMade last (.poll p :: es) = pollsMade last es := if_neg hdue
        have hevent : slotEvent i (.poll p) (s, last) = ((s, last), []) := if_neg hdue
        simp only [forEach, seq, hevent, hpolls, List.nil_append]
        exact ih s last

theorem forEach_slot (b : Board) {i : Nat} (hi : i < b.LOCK_PINS.length) (es : List LoopEvent)
    (st : Sketch) (h : st.Sized) :
    (forEach es (handle b) st).1.slot i =
        (st.slot i).after (slotPolls i (pollsMade st.lastSensorPoll es)) ∧
      doorEvents b i (forEach es (handle b) st).2 =
        (st.slot i).events (slotPolls i (pollsMade st.lastSensorPoll es)) := by
  obtain ⟨-, hview, hacts⟩ := Refines.forEach (fun e _ => handle_slot b hi e) st h
  obtain ⟨hstate, hevents⟩ := slotEvents_run i es (st.slot i) st.lastSensorPoll
  exact ⟨(congrArg Prod.fst hview).trans hstate, hacts.trans hevents⟩

/-- A slot after `setup()`. -/
def bootSlot (low : Bool) : SlotState := ⟨low, low, 0⟩

theorem sized_initial : Sketch.initial.Sized := ⟨rfl, rfl, rfl⟩

theorem setup_slot (b : Board) (low : Nat → Bool) {i : Nat} (hi : i < b.LOCK_PINS.length) :
    OnSlot b i (setup b low) (fun v => ((bootSlot (low i), v.2), [])) := by
  have hsix : ∀ j ∈ List.range b.LOCK_PINS.length, j < 6 := fun j hj =>
    Nat.lt_of_lt_of_le (List.mem_range.mp hj) b.slots_le
  have hsized : ∀ j st, Sketch.Sized st → (setupSlot b low j st).1.Sized := by
    intro j st h
    refine ⟨?_, ?_, ?_⟩
    · exact (List.length_set).trans h.doorClosed
    · exact (List.length_set).trans h.prevDoorClosed
    · exact (List.length_set).trans h.lastDebounce
  refine Refines.hidden_seq (Refines.emit rfl) (Refines.seq_hidden ?_ ?_)
  · refine Refines.forEach_one List.nodup_range (List.mem_range.mpr hi) ?_ ?_
    · intro st h
      have hi6 := hsix i (List.mem_range.mpr hi)
      refine ⟨hsized i st h, ?_, rfl⟩
      unfold setupSlot Sketch.view Sketch.slot bootSlot
      dsimp only
      rw [getD_set_self (by rw [h.doorClosed]; exact hi6),
        getD_set_self (by rw [h.prevDoorClosed]; exact hi6),
        getD_set_self (by rw [h.lastDebounce]; exact hi6)]
    · intro j _ hji st h
      refine ⟨hsized j st h, ?_, rfl⟩
      unfold setupSlot Sketch.view Sketch.slot
      dsimp only
      rw [getD_set_other hji, getD_set_other hji, getD_set_other hji]
      rfl
  · exact Refines.forEach_hidden fun j _ => Refines.emit rfl

/-- What a run reacts to: the passes and what there is of the current one. -/
def runEvents (passes : List Pass) (current : List LoopEvent) : List LoopEvent :=
  passes.flatMap Pass.events ++ current

theorem sketchRun_events (b : Board) (low : Nat → Bool) (passes : List Pass) (current : List LoopEvent) :
    sketchRun b low passes current =
      seq (setup b low) (forEach (runEvents passes current) (handle b)) .initial := by
  rw [sketchRun, passes_events, runEvents, forEach_append]

/-- **A slot in a run of the sketch**: its state and its events on the bus are those of its own
polls. -/
theorem sketch_slot (b : Board) (low : Nat → Bool) (passes : List Pass) (current : List LoopEvent)
    {i : Nat} (hi : i < b.LOCK_PINS.length) :
    (sketchRun b low passes current).1.slot i =
        (bootSlot (low i)).after (slotPolls i (pollsMade 0 (runEvents passes current))) ∧
      doorEvents b i (sketchRun b low passes current).2 =
        (bootSlot (low i)).events (slotPolls i (pollsMade 0 (runEvents passes current))) := by
  obtain ⟨hsized, hview, hacts⟩ := setup_slot b low hi _ sized_initial
  obtain ⟨hslot, hlast⟩ := Prod.mk.inj hview
  obtain ⟨hstate, hevents⟩ := forEach_slot b hi (runEvents passes current) _ hsized
  have hlast' : (setup b low .initial).1.lastSensorPoll = 0 := hlast
  rw [hslot, hlast'] at hstate hevents
  rw [sketchRun_events]
  refine ⟨hstate, ?_⟩
  show ((setup b low .initial).2 ++ _).filterMap (doorEventOf b i) = _
  rw [List.filterMap_append, hacts]
  exact hevents

end SmartLocker.Firmware
