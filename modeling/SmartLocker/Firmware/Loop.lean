import SmartLocker.Lib.Traced
import SmartLocker.Firmware.Frames

/-!
# The locker controller: the whole loop

Model of `setup()` and `loop()` with the memory of the sketch: the 32 characters of `cmdBuffer` and
`cmdIndex`, which the RS485 and the USB port share, and the door arrays of `pollMagneticSensors`.  Each
part is a program (`Traced`) whose trace has the effects on pins and ports and every access to an array
with the index it is made at.

`rs485Read_receive` connects this level to the receiver of lines: as long as `cmdIndex` is in the
buffer, one RS485 byte does here what `receive` says.
-/

set_option autoImplicit false

namespace SmartLocker.Firmware

open Lib Lib.Traced

/-! ## Memory -/

inductive Table where
  | cmdBuffer
  | LOCK_PINS
  | MAGNETIC_PINS
  | doorClosed
  | prevDoorClosed
  | lastDebounce
  deriving DecidableEq, Repr

/-- The indices an array may be used at: the characters of the buffer, else the slots. -/
def Board.bound (b : Board) : Table → Int
  | .cmdBuffer => 32
  | _ => b.NUM_SLOTS

/-- An effect, or an access to an array. -/
inductive Act where
  | effect (e : Effect)
  | access (t : Table) (i : Int)
  deriving DecidableEq, Repr

def did (es : List Effect) : List Act := es.map .effect

/-- The effects of a trace. -/
def effectsOf (acts : List Act) : List Effect :=
  acts.filterMap (fun a => match a with
    | .effect e => some e
    | .access _ _ => none)

/-- The variables of the sketch. -/
structure Sketch where
  cmdBuffer : List Char
  cmdIndex : Int
  lastCharTime : UInt32
  doorClosed : List Bool
  prevDoorClosed : List Bool
  lastDebounce : List UInt32
  lastSensorPoll : UInt32
  lastHeartbeat : UInt32

/-- Global variables start as zero. -/
def Sketch.initial : Sketch where
  cmdBuffer := List.replicate 32 '\x00'
  cmdIndex := 0
  lastCharTime := 0
  doorClosed := List.replicate 6 false
  prevDoorClosed := List.replicate 6 false
  lastDebounce := List.replicate 6 0
  lastSensorPoll := 0
  lastHeartbeat := 0

abbrev Program := Traced Sketch Act

/-! ## Commands -/

/-- `testSlot` and `openSlot`: the pulse, the sensor, the reply. -/
def pulseActs (b : Board) (w : Readings) (slot lockPin : Int) : List Act :=
  did [.digitalWrite lockPin RELAY_ON, .delay 1000, .digitalWrite lockPin RELAY_OFF, .delay 2000] ++
    .access .MAGNETIC_PINS slot ::
      did (sendResponse b slot lockPin "OK".toList w.elapsedInt (isDoorClosed b w slot) [])

def closeSlotActs (b : Board) (w : Readings) (slot lockPin : Int) : List Act :=
  did [.digitalWrite lockPin RELAY_OFF, .delay 1000] ++
    .access .MAGNETIC_PINS slot ::
      did (sendResponse b slot lockPin "OK".toList w.elapsedInt (isDoorClosed b w slot) [])

/-- The last part of `processCommand`: the slot is checked, its pin is read, the action runs. -/
def slotActs (b : Board) (w : Readings) (action : Option Char) (slot : Int) : List Act :=
  if slot < 0 ∨ slot ≥ b.NUM_SLOTS then did (sendError b slot "INVALID_SLOT".toList)
  else
    .access .LOCK_PINS slot ::
      if action = some 'T' then pulseActs b w slot (b.lockPin slot)
      else if action = some 'O' then pulseActs b w slot (b.lockPin slot)
      else if action = some 'C' then closeSlotActs b w slot (b.lockPin slot)
      else []

/-- `processCommand` with its accesses. -/
def processCommandActs (b : Board) (w : Readings) (rawCmd : List Char) : List Act :=
  let cmd := (cstr rawCmd).dropWhile isspace
  if cmd = [] then []
  else if cmd.head? ≠ some 'S' then []
  else
    let colonPos := strchr cmd ':'
    if colonPos = [] then []
    else if atoi (cmd.drop 1) ≠ b.SLAVE_ID then []
    else
      let realCmd := colonPos.drop 1
      if realCmd = "PING".toList then did (sendResponse b (-1) (-1) "OK".toList 0 false [])
      else if realCmd.length < 2 then []
      else slotActs b w realCmd.head? (atoi (realCmd.drop 1))

/-! ## The two ports -/

/-- `cmdBuffer[cmdIndex++] = c`. -/
def push (c : Char) : Program := fun st =>
  ({ st with cmdBuffer := st.cmdBuffer.set st.cmdIndex.toNat c, cmdIndex := st.cmdIndex + 1 },
    [.access .cmdBuffer st.cmdIndex])

/-- A line end: the buffer is terminated and handed to `processCommand`. -/
def endLine (b : Board) (w : Readings) : Program := fun st =>
  if st.cmdIndex > 0 then
    let buffer := st.cmdBuffer.set st.cmdIndex.toNat '\x00'
    ({ st with cmdBuffer := buffer, cmdIndex := 0 },
      .access .cmdBuffer st.cmdIndex :: processCommandActs b w buffer)
  else (st, [])

/-- The reset after a pause, and the time of this character. -/
def charTime (now : UInt32) : Program := update fun st =>
  { st with
    cmdIndex := if st.cmdIndex > 0 ∧ now - st.lastCharTime > 200 then 0 else st.cmdIndex
    lastCharTime := now }

/-- The body of `while (RS485Serial.available())`. -/
def rs485Read (b : Board) (x : Rx) : Program :=
  seq (charTime x.now) <| look fun st =>
    if isLineEnd x.c then endLine b x.readings
    else if st.cmdIndex < 31 then
      if st.cmdIndex = 0 ∧ isspace x.c then nop else push x.c
    else nop

/-- One byte on the USB port, with what the firmware would read while it carries out a command. -/
structure UsbRx where
  byte : UInt8
  readings : Readings

def UsbRx.c (x : UsbRx) : Char := Char.ofUInt8 x.byte

/-- The test frame that `!` sends. -/
def testFrame : List Effect :=
  [.digitalWrite SSerialTxControl .HIGH, .delay 5,
    .println "\x7b\"event\":\"TEST_FROM_INO\"\x7d".toList, .delay 20,
    .digitalWrite SSerialTxControl .LOW]

/-- The body of `while (Serial.available())`: no time and no leading white space is looked at. -/
def usbRead (b : Board) (x : UsbRx) : Program :=
  seq (if x.c = '!' then emit (did testFrame) else nop) <| look fun st =>
    if isLineEnd x.c then endLine b x.readings
    else if st.cmdIndex < 31 then push x.c
    else nop

/-! ## The sensors -/

/-- What one call of `pollMagneticSensors` reads: `millis()` when it is called, whether each sensor is
`LOW` and still is after the delay, and `millis()` at the check and at the stamp of the heartbeat. -/
structure Poll where
  now : UInt32
  low : Nat → Bool
  stillLow : Nat → Bool
  checked : UInt32
  stamped : UInt32

/-- A transmission on the bus that is not a reply. -/
def transmit (t : List Char) : List Effect :=
  [.digitalWrite SSerialTxControl .HIGH, .delay 5, .println t, .delay (txDelay t + 2),
    .digitalWrite SSerialTxControl .LOW]

def sendDoorEvent (b : Board) (slot : Nat) (eventName : String) : List Effect :=
  transmit (doorEventText b slot eventName.toList)

/-- A changed sensor restarts the debounce of its slot. -/
def debounce (p : Poll) (i : Nat) : Program := fun st =>
  let acts := [.access .MAGNETIC_PINS i, .access .prevDoorClosed i]
  if p.low i != st.prevDoorClosed.getD i false then
    ({ st with
        lastDebounce := st.lastDebounce.set i p.now
        prevDoorClosed := st.prevDoorClosed.set i (p.low i) },
      acts ++ [.access .lastDebounce i, .access .prevDoorClosed i])
  else (st, acts)

/-- The door of a slot has settled in the state `closed`: when the sensor still says so after the delay,
the state is kept and reported. -/
def settle (b : Board) (p : Poll) (i : Nat) (closed : Bool) : Program := fun st =>
  let acts := did [.delay 100] ++ [.access .MAGNETIC_PINS i]
  if p.stillLow i = closed then
    ({ st with doorClosed := st.doorClosed.set i closed },
      acts ++ .access .doorClosed i ::
        did (sendDoorEvent b i (if closed then "DOOR_CLOSED" else "DOOR_OPENED")))
  else (st, acts)

/-- A stable sensor that differs from the state of the door is an edge. -/
def detectEdge (b : Board) (p : Poll) (i : Nat) : Program := fun st =>
  if p.now - st.lastDebounce.getD i 0 ≥ 200 then
    if p.low i != st.doorClosed.getD i false then
      seq (emit [.access .lastDebounce i, .access .doorClosed i]) (settle b p i (p.low i)) st
    else (st, [.access .lastDebounce i, .access .doorClosed i])
  else (st, [.access .lastDebounce i])

/-- The periodic `ALIVE`, after the sensors have been printed. -/
def heartbeat (b : Board) (p : Poll) : Program := fun st =>
  if p.checked - st.lastHeartbeat ≥ 60000 then
    ({ st with lastHeartbeat := p.stamped },
      (List.range b.LOCK_PINS.length).flatMap
          (fun i => [.access .MAGNETIC_PINS i, .access .doorClosed i]) ++
        did (transmit (heartbeatJson b)))
  else (st, [])

def pollMagneticSensors (b : Board) (p : Poll) : Program :=
  seq (forEach (List.range b.LOCK_PINS.length) fun i => seq (debounce p i) (detectEdge b p i))
    (heartbeat b p)

/-- The end of `loop()`: `millis()` decides whether the sensors are polled. -/
def pollStep (b : Board) (p : Poll) : Program := fun st =>
  if p.now - st.lastSensorPoll ≥ 100 then
    pollMagneticSensors b p { st with lastSensorPoll := p.now }
  else (st, [])

/-! ## The loop -/

/-- What one pass of `loop()` reads. -/
structure Pass where
  rs485 : List Rx
  usb : List UsbRx
  poll : Poll

def loop (b : Board) (x : Pass) : Program :=
  seq (forEach x.rs485 (rs485Read b)) (seq (forEach x.usb (usbRead b)) (pollStep b x.poll))

/-- One slot in the first loop of `setup()`; `low` says whether its sensor is `LOW`. -/
def setupSlot (b : Board) (low : Nat → Bool) (i : Nat) : Program := fun st =>
  ({ st with
      doorClosed := st.doorClosed.set i (low i)
      prevDoorClosed := st.prevDoorClosed.set i (low i)
      lastDebounce := st.lastDebounce.set i 0 },
    [.access .LOCK_PINS i, .access .LOCK_PINS i, .effect (.digitalWrite (b.lockPin i) RELAY_OFF),
      .access .MAGNETIC_PINS i, .access .MAGNETIC_PINS i, .access .doorClosed i,
      .access .doorClosed i, .access .prevDoorClosed i, .access .lastDebounce i])

def setup (b : Board) (low : Nat → Bool) : Program :=
  seq (emit (did [.digitalWrite SSerialTxControl .LOW])) <|
    seq (forEach (List.range b.LOCK_PINS.length) (setupSlot b low)) <|
      -- the second loop prints the doors
      forEach (List.range b.LOCK_PINS.length) fun i => emit [.access .doorClosed i]

/-! ## Down to the receiver of lines -/

@[simp] theorem effectsOf_did (es : List Effect) : effectsOf (did es) = es := by
  induction es with
  | nil => rfl
  | cons e es ih => exact congrArg (e :: ·) ih

@[simp] theorem effectsOf_append (a b : List Act) :
    effectsOf (a ++ b) = effectsOf a ++ effectsOf b := List.filterMap_append

@[simp] theorem effectsOf_access (t : Table) (i : Int) (acts : List Act) :
    effectsOf (.access t i :: acts) = effectsOf acts := rfl

theorem effectsOf_slotActs (b : Board) (w : Readings) (action : Option Char) (slot : Int) :
    effectsOf (slotActs b w action slot) =
      if slot < 0 ∨ slot ≥ b.NUM_SLOTS then sendError b slot "INVALID_SLOT".toList
      else if action = some 'T' then testSlot b w slot (b.lockPin slot)
      else if action = some 'O' then openSlot b w slot (b.lockPin slot)
      else if action = some 'C' then closeSlot b w slot (b.lockPin slot)
      else [] := by
  unfold slotActs
  split
  · exact effectsOf_did _
  rw [effectsOf_access]
  split
  · rw [pulseActs, effectsOf_append, effectsOf_access, effectsOf_did, effectsOf_did]
    rfl
  split
  · rw [pulseActs, effectsOf_append, effectsOf_access, effectsOf_did, effectsOf_did]
    rfl
  split
  · rw [closeSlotActs, effectsOf_append, effectsOf_access, effectsOf_did, effectsOf_did]
    rfl
  · rfl

/-- The accesses aside, this is `processCommand`. -/
theorem effectsOf_processCommandActs (b : Board) (w : Readings) (rawCmd : List Char) :
    effectsOf (processCommandActs b w rawCmd) = processCommand b w rawCmd := by
  unfold processCommandActs processCommand
  dsimp only
  split
  · rfl
  split
  · rfl
  split
  · rfl
  split
  · rfl
  split
  · exact effectsOf_did _
  split
  · rfl
  · exact effectsOf_slotActs b w _ _

/-- `cmdIndex` is a place in the buffer. -/
structure Sketch.Valid (st : Sketch) : Prop where
  size : st.cmdBuffer.length = 32
  lower : 0 ≤ st.cmdIndex
  upper : st.cmdIndex ≤ 31

/-- What the receiver of lines knows of the sketch. -/
def Sketch.received (st : Sketch) : LoopState :=
  ⟨st.cmdBuffer.take st.cmdIndex.toNat, st.lastCharTime⟩

theorem Sketch.Valid.length_received {st : Sketch} (h : st.Valid) :
    (st.received.cmdBuffer.length : Int) = st.cmdIndex := by
  have := h.size
  have := h.lower
  have := h.upper
  simp only [received, List.length_take]
  omega

/-- What is behind the terminator is not read. -/
theorem cstr_terminated (buffer : List Char) {n : Nat} (hn : n < buffer.length) :
    cstr (buffer.set n '\x00') = cstr (buffer.take n) := by
  have hsplit : buffer.set n '\x00' = buffer.take n ++ '\x00' :: buffer.drop (n + 1) :=
    List.set_eq_take_append_cons_drop.trans (if_pos hn)
  rw [hsplit, cstr, cstr, List.takeWhile_append]
  split
  · rename_i hall
    rw [List.takeWhile_cons, if_neg (by decide), List.append_nil]
    exact (List.takeWhile_prefix _).eq_of_length hall |>.symm
  · rfl

theorem processCommand_congr (b : Board) (w : Readings) {x y : List Char} (h : cstr x = cstr y) :
    processCommand b w x = processCommand b w y := by
  unfold processCommand
  rw [h]

theorem charTime_received {st : Sketch} (h : st.Valid) (now : UInt32) :
    (charTime now st).1.Valid ∧
      (charTime now st).1.received = ⟨st.received.afterPause now, now⟩ := by
  have hlen := h.length_received
  by_cases hpause : st.cmdIndex > 0 ∧ now - st.lastCharTime > 200
  · have hst : (charTime now st).1 = { st with cmdIndex := 0, lastCharTime := now } := by
      simp only [charTime, update, if_pos hpause]
    have hafter : st.received.afterPause now = [] := by
      have : st.received.cmdBuffer.length > 0 ∧ now - st.received.lastCharTime > 200 := by
        refine ⟨?_, hpause.2⟩
        omega
      rw [LoopState.afterPause, if_pos this]
    rw [hst, hafter]
    exact ⟨⟨h.size, by simp, by simp⟩, rfl⟩
  · have hst : (charTime now st).1 = { st with lastCharTime := now } := by
      simp only [charTime, update, if_neg hpause]
    have hafter : st.received.afterPause now = st.received.cmdBuffer := by
      have : ¬ (st.received.cmdBuffer.length > 0 ∧ now - st.received.lastCharTime > 200) := by
        rintro ⟨hpos, hgap⟩
        exact hpause ⟨by omega, hgap⟩
      rw [LoopState.afterPause, if_neg this]
    rw [hst, hafter]
    exact ⟨⟨h.size, h.lower, h.upper⟩, rfl⟩

/-- A character that is stored stands behind those before it. -/
theorem push_received {st : Sketch} (h : st.Valid) (hroom : st.cmdIndex < 31) (c : Char) :
    (push c st).1.received.cmdBuffer = st.received.cmdBuffer ++ [c] := by
  have hin : st.cmdIndex.toNat < st.cmdBuffer.length := by
    have := h.size
    omega
  have hsucc : (st.cmdIndex + 1).toNat = st.cmdIndex.toNat + 1 := by
    have := h.lower
    omega
  simp only [push, Sketch.received, hsucc]
  rw [List.take_add_one, List.take_set_of_le (Nat.le_refl _)]
  simp [hin]

/-- **One RS485 byte** does to the buffer, and to the outside, what the receiver of lines says. -/
theorem rs485Read_receive (b : Board) {st : Sketch} (h : st.Valid) (x : Rx) :
    (rs485Read b x st).1.received = (receive b st.received x).1 ∧
      effectsOf (rs485Read b x st).2 = (receive b st.received x).2 := by
  obtain ⟨hvalid, hreceived⟩ := charTime_received h x.now
  have hacts : (charTime x.now st).2 = [] := rfl
  have hread : rs485Read b x st =
      ((if isLineEnd x.c then endLine b x.readings
        else if (charTime x.now st).1.cmdIndex < 31 then
          if (charTime x.now st).1.cmdIndex = 0 ∧ isspace x.c then nop else push x.c
        else nop) (charTime x.now st).1) := by
    simp only [rs485Read, seq, look, hacts, List.nil_append]
  rw [hread]
  generalize (charTime x.now st).1 = st₁ at hvalid hreceived
  have hlen := hvalid.length_received
  have hcmd : st₁.received.cmdBuffer = st.received.afterPause x.now := by rw [hreceived]
  have htime : st₁.lastCharTime = x.now := congrArg LoopState.lastCharTime hreceived
  unfold receive
  rw [← hcmd]
  by_cases hend : isLineEnd x.c = true
  · simp only [hend, ↓reduceIte, endLine]
    by_cases hpos : st₁.cmdIndex > 0
    · have hpos' : st₁.received.cmdBuffer.length > 0 := by omega
      have hin : st₁.cmdIndex.toNat < st₁.cmdBuffer.length := by
        have := hvalid.size
        have := hvalid.upper
        omega
      rw [if_pos hpos, if_pos hpos']
      refine ⟨by simp [Sketch.received, htime], ?_⟩
      rw [effectsOf_access, effectsOf_processCommandActs]
      exact processCommand_congr b x.readings (cstr_terminated st₁.cmdBuffer hin)
    · have hpos' : ¬ st₁.received.cmdBuffer.length > 0 := by omega
      rw [if_neg hpos, if_neg hpos']
      exact ⟨by rw [← htime]; rfl, rfl⟩
  · simp only [Bool.not_eq_true] at hend
    simp only [hend, Bool.false_eq_true, ↓reduceIte]
    by_cases hroom : st₁.cmdIndex < 31
    · have hroom' : st₁.received.cmdBuffer.length < 31 := by omega
      rw [if_pos hroom, if_pos hroom']
      by_cases hskip : st₁.cmdIndex = 0 ∧ isspace x.c = true
      · have hskip' : st₁.received.cmdBuffer.length = 0 ∧ isspace x.c = true :=
          ⟨by omega, hskip.2⟩
        rw [if_pos hskip, if_pos hskip']
        exact ⟨by rw [← htime]; rfl, rfl⟩
      · have hskip' : ¬ (st₁.received.cmdBuffer.length = 0 ∧ isspace x.c = true) :=
          fun hs => hskip ⟨by omega, hs.2⟩
        rw [if_neg hskip, if_neg hskip']
        rw [← push_received hvalid hroom x.c, ← htime]
        exact ⟨rfl, rfl⟩
    · have hroom' : ¬ st₁.received.cmdBuffer.length < 31 := by omega
      rw [if_neg hroom, if_neg hroom']
      exact ⟨by rw [← htime]; rfl, rfl⟩

end SmartLocker.Firmware
