import SmartLocker.Firmware.Safety

/-!
# The operations of a run

Whatever a sketch run does is a sequence of whole `Operation`s: a lock is pulsed, a frame is sent, a
lock is switched off, time passes; none is begun inside another.  `run_operations` says so for every
run, with what is sent.

`Probe` replays a trace and keeps how long each pin has been high and whether a frame was printed with
the bus driver off.  `bus_discipline` reads off the operations what a board may rely on: no coil is on
while the board holds the bus, none is on longer than a second, nothing is printed unheard, and at every
return to `loop()` the board listens.
-/

set_option autoImplicit false

namespace SmartLocker.Firmware

open Lib Lib.Traced

/-! ## Operations -/

inductive Operation where
  | access (t : Table) (i : Int)
  /-- The bus driver is off. -/
  | listen
  | off (lockPin : Int)
  | wait (ms : Nat)
  | pulse (lockPin : Int)
  /-- A frame, with the waits before and after it. -/
  | send (lead hold : Nat) (text : List Char)
  deriving DecidableEq, Repr

def Operation.acts : Operation → List Act
  | .access t i => [.access t i]
  | .listen => did [.digitalWrite SSerialTxControl .LOW]
  | .off lockPin => did [.digitalWrite lockPin RELAY_OFF]
  | .wait ms => did [.delay ms]
  | .pulse lockPin =>
    did [.digitalWrite lockPin RELAY_ON, .delay 1000, .digitalWrite lockPin RELAY_OFF, .delay 2000]
  | .send lead hold text =>
    did [.digitalWrite SSerialTxControl .HIGH, .delay lead, .println text, .delay hold,
      .digitalWrite SSerialTxControl .LOW]

/-- The text of `!`. -/
def testText : List Char := "\x7b\"event\":\"TEST_FROM_INO\"\x7d".toList

/-- What is driven is a lock, and what is sent is in `P`. -/
def Operation.Fits (b : Board) (P : List Char → Prop) : Operation → Prop
  | .off lockPin => lockPin ∈ b.LOCK_PINS
  | .pulse lockPin => lockPin ∈ b.LOCK_PINS
  | .send _ _ text => P text
  | _ => True

/-- A trace of whole operations. -/
def Composed (b : Board) (P : List Char → Prop) (acts : List Act) : Prop :=
  ∃ ops : List Operation, acts = ops.flatMap Operation.acts ∧ ∀ op ∈ ops, op.Fits b P

theorem chained_composed (b : Board) (P : List Char → Prop) : Chained (Composed b P) :=
  Chained.parts Operation.acts (Operation.Fits b P)

variable {b : Board} {P : List Char → Prop}

theorem composed_one (op : Operation) (h : op.Fits b P) : Composed b P op.acts :=
  ⟨[op], (List.flatMap_singleton ..).symm, by simpa using h⟩

theorem composed_access (t : Table) (i : Int) {acts : List Act} (h : Composed b P acts) :
    Composed b P (.access t i :: acts) :=
  (chained_composed b P).append (composed_one (.access t i) trivial) h

theorem composed_transmit {t : List Char} (h : P t) : Composed b P (did (transmit t)) :=
  composed_one (.send 5 (txDelay t + 2) t) h

theorem composed_sendResponse {slot gpio ms : Int} {result error : List Char} {closed : Bool}
    (h : P (jsonOut b slot gpio result ms closed error)) :
    Composed b P (did (sendResponse b slot gpio result ms closed error)) :=
  (chained_composed b P).append (composed_one (.wait 50) trivial)
    (composed_one (.send 10 (txDelay (jsonOut b slot gpio result ms closed error) + 2) _) h)

/-! ## Commands -/

theorem lockPin_mem {slot : Int} (h : ¬ (slot < 0 ∨ slot ≥ b.NUM_SLOTS)) :
    b.lockPin slot ∈ b.LOCK_PINS := by
  have hrange : 0 ≤ slot ∧ slot < b.NUM_SLOTS := by omega
  exact List.mem_of_getElem? (lockPin_eq hrange.1 hrange.2)

theorem composed_slotActs (w : Readings) (action : Option Char) (slot : Int) :
    Composed b (fun _ => True) (slotActs b w action slot) := by
  have hT := chained_composed b fun _ => True
  unfold slotActs
  split
  · exact composed_sendResponse trivial
  rename_i hslot
  have hpin := lockPin_mem hslot
  have hreply : Composed b (fun _ => True) (.access .MAGNETIC_PINS slot ::
      did (sendResponse b slot (b.lockPin slot) "OK".toList w.elapsedInt (isDoorClosed b w slot) [])) :=
    composed_access _ _ (composed_sendResponse trivial)
  have hpulse : Composed b (fun _ => True) (pulseActs b w slot (b.lockPin slot)) :=
    hT.append (composed_one (.pulse (b.lockPin slot)) hpin) hreply
  refine composed_access _ _ ?_
  split
  · exact hpulse
  split
  · exact hpulse
  split
  · refine hT.append ?_ hreply
    exact hT.append (composed_one (.off (b.lockPin slot)) hpin)
      (composed_one (.wait 1000) trivial)
  · exact hT.nil

/-- The texts that a composed trace prints are those it sends. -/
theorem printed_operations (ops : List Operation) :
    printed (effectsOf (ops.flatMap Operation.acts)) = ops.filterMap (fun op => match op with
      | .send _ _ text => some text
      | _ => none) := by
  induction ops with
  | nil => rfl
  | cons op ops ih =>
    rw [List.flatMap_cons, effectsOf_append, printed, List.filterMap_append]
    change printed _ ++ printed _ = _
    rw [ih]
    cases op <;> rfl

/-- So the texts that are sent meet what all printed texts meet. -/
theorem Composed.texts {acts : List Act} (h : Composed b (fun _ => True) acts)
    (hP : ∀ t ∈ printed (effectsOf acts), P t) : Composed b P acts := by
  obtain ⟨ops, rfl, hops⟩ := h
  refine ⟨ops, rfl, fun op hop => ?_⟩
  have hfits := hops op hop
  rw [printed_operations] at hP
  cases op with
  | send lead hold text => exact hP text (List.mem_filterMap.mpr ⟨_, hop, rfl⟩)
  | off lockPin => exact hfits
  | pulse lockPin => exact hfits
  | _ => trivial

/-- What a board sends: its frames, and the text of `!`. -/
def OnWire (b : Board) (t : List Char) : Prop := Emits b t ∨ t = testText

theorem composed_processCommandActs (w : Readings) (rawCmd : List Char) :
    Composed b (OnWire b) (processCommandActs b w rawCmd) := by
  refine Composed.texts ?_ fun t ht => ?_
  swap
  · rw [effectsOf_processCommandActs] at ht
    exact Or.inl (.reply w rawCmd ht)
  have hnil := (chained_composed b fun _ => True).nil
  unfold processCommandActs
  dsimp only
  split
  · exact hnil
  split
  · exact hnil
  split
  · exact hnil
  split
  · exact hnil
  split
  · exact composed_sendResponse trivial
  split
  · exact hnil
  · exact composed_slotActs w _ _

/-! ## The parts of the loop -/

/-- What every part of the sketch does, whatever the memory holds. -/
abbrev Operates (b : Board) (p : Program) : Prop := Keeps (fun _ => True) (Composed b (OnWire b)) p

theorem operates_endLine (b : Board) (w : Readings) : Operates b (endLine b w) := by
  intro st _
  unfold endLine
  split
  · exact ⟨trivial, composed_access _ _ (composed_processCommandActs w _)⟩
  · exact ⟨trivial, (chained_composed b (OnWire b)).nil⟩

theorem operates_push (b : Board) (c : Char) : Operates b (push c) :=
  fun _ _ => ⟨trivial, composed_access _ _ (chained_composed b (OnWire b)).nil⟩

theorem operates_rs485Read (b : Board) (x : Rx) : Operates b (rs485Read b x) := by
  have hT := chained_composed b (OnWire b)
  refine .seq hT (fun _ _ => ⟨trivial, hT.nil⟩) fun st _ => ?_
  simp only [look]
  split
  · exact operates_endLine b x.readings st trivial
  split
  · split
    · exact ⟨trivial, hT.nil⟩
    · exact operates_push b x.c st trivial
  · exact ⟨trivial, hT.nil⟩

theorem operates_usbRead (b : Board) (x : UsbRx) : Operates b (usbRead b x) := by
  have hT := chained_composed b (OnWire b)
  have htest : Composed b (OnWire b) (did testFrame) :=
    composed_one (.send 5 20 testText) (Or.inr rfl)
  refine .seq hT (.ite (fun _ => .emit htest) fun _ => .nop hT) fun st _ => ?_
  simp only [look]
  split
  · exact operates_endLine b x.readings st trivial
  split
  · exact operates_push b x.c st trivial
  · exact ⟨trivial, hT.nil⟩

theorem operates_debounce (b : Board) (p : Poll) (i : Nat) : Operates b (debounce p i) := by
  have hnil := (chained_composed b (OnWire b)).nil
  intro st _
  unfold debounce
  dsimp only
  split
  · exact ⟨trivial, composed_access _ _ (composed_access _ _
      (composed_access _ _ (composed_access _ _ hnil)))⟩
  · exact ⟨trivial, composed_access _ _ (composed_access _ _ hnil)⟩

theorem operates_settle (b : Board) (p : Poll) {i : Nat} (hi : i < b.LOCK_PINS.length)
    (closed : Bool) : Operates b (settle b p i closed) := by
  have hT := chained_composed b (OnWire b)
  have hwait : Composed b (OnWire b) (did [.delay 100] ++ [.access .MAGNETIC_PINS i]) :=
    hT.append (composed_one (.wait 100) trivial) (composed_access _ _ hT.nil)
  intro st _
  unfold settle
  dsimp only
  split
  · refine ⟨trivial, hT.append hwait (composed_access _ _ (composed_transmit (Or.inl ?_)))⟩
    have hdoor := Emits.door (b := b) i hi closed
    cases closed <;> exact hdoor
  · exact ⟨trivial, hwait⟩

theorem operates_detectEdge (b : Board) (p : Poll) {i : Nat} (hi : i < b.LOCK_PINS.length) :
    Operates b (detectEdge b p i) := by
  have hT := chained_composed b (OnWire b)
  have htwo : Composed b (OnWire b) [.access .lastDebounce i, .access .doorClosed i] :=
    composed_access _ _ (composed_access _ _ hT.nil)
  intro st _
  unfold detectEdge
  split
  · split
    · exact Keeps.seq hT (.emit htwo) (operates_settle b p hi _) st trivial
    · exact ⟨trivial, htwo⟩
  · exact ⟨trivial, composed_access _ _ hT.nil⟩

theorem operates_heartbeat (b : Board) (p : Poll) : Operates b (heartbeat b p) := by
  have hT := chained_composed b (OnWire b)
  have hdoors : Composed b (OnWire b) ((List.range b.LOCK_PINS.length).flatMap
      (fun i : Nat => [.access .MAGNETIC_PINS i, .access .doorClosed i])) :=
    hT.flatMap fun i _ => composed_access _ _ (composed_access _ _ hT.nil)
  intro st _
  unfold heartbeat
  split
  · exact ⟨trivial, hT.append hdoors (composed_transmit (Or.inl .alive))⟩
  · exact ⟨trivial, hT.nil⟩

theorem operates_pollStep (b : Board) (p : Poll) : Operates b (pollStep b p) := by
  have hT := chained_composed b (OnWire b)
  have hpoll : Operates b (pollMagneticSensors b p) :=
    .seq hT (.forEach hT fun i hi => .seq hT (operates_debounce b p i)
      (operates_detectEdge b p (List.mem_range.mp hi))) (operates_heartbeat b p)
  intro st _
  unfold pollStep
  split
  · exact hpoll _ trivial
  · exact ⟨trivial, hT.nil⟩

theorem operates_handle (b : Board) (e : LoopEvent) : Operates b (handle b e) := by
  cases e with
  | rs485 x => exact operates_rs485Read b x
  | usb x => exact operates_usbRead b x
  | poll p => exact operates_pollStep b p

theorem operates_setup (b : Board) (low : Nat → Bool) : Operates b (setup b low) := by
  have hT := chained_composed b (OnWire b)
  refine .seq hT (.emit (composed_one .listen trivial)) (.seq hT (.forEach hT ?_)
    (.forEach hT fun i _ => .emit (composed_access _ _ hT.nil)))
  intro i hi st _
  have hpin : b.lockPin i ∈ b.LOCK_PINS := by
    have hslot := slot_range hi
    exact lockPin_mem (by omega)
  have hoff : Composed b (OnWire b) [.effect (.digitalWrite (b.lockPin i) RELAY_OFF)] :=
    composed_one (.off (b.lockPin i)) hpin
  have htables : Composed b (OnWire b) [.access .MAGNETIC_PINS i, .access .MAGNETIC_PINS i,
      .access .doorClosed i, .access .doorClosed i, .access .prevDoorClosed i,
      .access .lastDebounce i] :=
    composed_access _ _ (composed_access _ _ (composed_access _ _ (composed_access _ _
      (composed_access _ _ (composed_access _ _ hT.nil)))))
  exact ⟨trivial, composed_access _ _ (composed_access _ _ (hT.append hoff htables))⟩

/-- **A run is a sequence of whole operations**, and what it sends are frames of the board, and the
text of `!`. -/
theorem run_operations (b : Board) (low : Nat → Bool) (passes : List Pass)
    (current : List LoopEvent) :
    Composed b (OnWire b) (sketchRun b low passes current).2 := by
  have hT := chained_composed b (OnWire b)
  have hloop : ∀ x ∈ passes, Operates b (loop b x) := by
    intro x _
    rw [loop_events]
    exact .forEach hT fun e _ => operates_handle b e
  have hrun : Operates b (seq (setup b low) (seq (forEach passes (loop b))
      (forEach current (handle b)))) :=
    .seq hT (operates_setup b low) (.seq hT (.forEach hT hloop)
      (.forEach hT fun e _ => operates_handle b e))
  exact (hrun _ trivial).2

/-! ## Watching the pins -/

/-- What a trace has done to the pins and the bus. -/
structure Probe where
  pins : Pins
  /-- For how long each pin has been high, by the waits of the sketch. -/
  high : Int → Nat
  /-- The pins that went low again, and how long they had been high. -/
  pulses : List (Int × Nat)
  /-- Something was printed while the bus driver was off. -/
  unheard : Bool

def Probe.reset : Probe := ⟨Pins.reset, fun _ => 0, [], false⟩

def Probe.step (s : Probe) : Act → Probe
  | .effect (.digitalWrite pin .HIGH) => { s with pins := fun q => if q = pin then .HIGH else s.pins q }
  | .effect (.digitalWrite pin .LOW) =>
    { s with
      pins := fun q => if q = pin then .LOW else s.pins q
      high := fun q => if q = pin then 0 else s.high q
      pulses := if s.pins pin = .HIGH then s.pulses ++ [(pin, s.high pin)] else s.pulses }
  | .effect (.delay ms) =>
    { s with high := fun q => if s.pins q = .HIGH then s.high q + ms else s.high q }
  | .effect (.println _) => { s with unheard := s.unheard || s.pins SSerialTxControl == .LOW }
  | .access _ _ => s

/-- What the probe shows after a trace. -/
def probed (acts : List Act) : Probe := acts.foldl Probe.step Probe.reset

/-- At no moment is a coil on while the board drives the bus, none has been on longer than a second, the
pulses that have ended took a second each, and all frames went out. -/
structure Probe.Safe (b : Board) (s : Probe) : Prop where
  apart : s.pins SSerialTxControl = .HIGH → LocksOff b s.pins
  high_le : ∀ p ∈ b.LOCK_PINS, s.high p ≤ 1000
  pulse_eq : ∀ x ∈ s.pulses, x.1 ∈ b.LOCK_PINS → x.2 = 1000
  heard : s.unheard = false

/-- What an operation is at. -/
inductive Mode where
  | rest
  | sending
  | pulsing (lockPin : Int) (ms : Nat)

def Mode.tx : Mode → Level
  | .sending => .HIGH
  | _ => .LOW

/-- The level of a lock pin, and for how long it has been high. -/
def Mode.lock : Mode → Int → Level × Nat
  | .pulsing lockPin ms, p => if p = lockPin then (RELAY_ON, ms) else (RELAY_OFF, 0)
  | _, _ => (RELAY_OFF, 0)

structure Probe.In (b : Board) (m : Mode) (s : Probe) : Prop where
  tx : s.pins SSerialTxControl = m.tx
  locks : ∀ p ∈ b.LOCK_PINS, (s.pins p, s.high p) = m.lock p
  pulse_eq : ∀ x ∈ s.pulses, x.1 ∈ b.LOCK_PINS → x.2 = 1000
  heard : s.unheard = false

variable {s : Probe} {m : Mode}

theorem Probe.In.safe (h : s.In b m) (hms : ∀ lockPin ms, m = .pulsing lockPin ms → ms ≤ 1000) :
    s.Safe b := by
  refine ⟨fun htx p hp => ?_, fun p hp => ?_, h.pulse_eq, h.heard⟩
  · have hlock := congrArg Prod.fst (h.locks p hp)
    rw [h.tx] at htx
    cases m with
    | sending => exact hlock
    | rest => cases htx
    | pulsing lockPin ms => cases htx
  · have hhigh := congrArg Prod.snd (h.locks p hp)
    cases m with
    | rest => exact hhigh.trans_le (Nat.zero_le _)
    | sending => exact hhigh.trans_le (Nat.zero_le _)
    | pulsing lockPin ms =>
      have := hms lockPin ms rfl
      simp only [Mode.lock] at hhigh
      split at hhigh
      · exact hhigh.trans_le this
      · exact hhigh.trans_le (Nat.zero_le _)

/-- What waiting makes of a mode. -/
def Mode.wait (ms : Nat) : Mode → Mode
  | .pulsing lockPin n => .pulsing lockPin (n + ms)
  | m => m

theorem Probe.In.delay (h : s.In b m) (ms : Nat) : (s.step (.effect (.delay ms))).In b (m.wait ms) := by
  refine ⟨?_, fun p hp => ?_, h.pulse_eq, h.heard⟩
  · rw [show (s.step (.effect (.delay ms))).pins = s.pins from rfl, h.tx]
    cases m <;> rfl
  · have hlock := h.locks p hp
    have hpin : s.pins p = (m.lock p).1 := congrArg Prod.fst hlock
    have hhigh : s.high p = (m.lock p).2 := congrArg Prod.snd hlock
    have hoff : ∀ n, ((RELAY_OFF, if RELAY_OFF = Level.HIGH then n else 0) : Level × Nat) =
        (RELAY_OFF, 0) := fun n => by rw [if_neg (by decide)]
    simp only [Probe.step]
    cases m with
    | rest => rw [hpin, hhigh]; exact hoff _
    | sending => rw [hpin, hhigh]; exact hoff _
    | pulsing lockPin n =>
      simp only [Mode.lock, Mode.wait] at hpin hhigh ⊢
      by_cases hp : p = lockPin
      · rw [if_pos hp] at hpin hhigh ⊢
        rw [hpin, hhigh]
        rfl
      · rw [if_neg hp] at hpin hhigh ⊢
        rw [hpin, hhigh]
        exact hoff _

theorem tx_ne {p : Int} (hp : p ∈ b.LOCK_PINS) : SSerialTxControl ≠ p :=
  fun h => b.tx_not_lock (h ▸ hp)

/-- The driver is switched on. -/
theorem Probe.In.drive (h : s.In b .rest) :
    (s.step (.effect (.digitalWrite SSerialTxControl .HIGH))).In b .sending := by
  refine ⟨by simp [Probe.step, Mode.tx], fun p hp => ?_, h.pulse_eq, h.heard⟩
  have hlock := h.locks p hp
  simp only [Probe.step, if_neg (tx_ne hp).symm]
  exact hlock

theorem Probe.In.print (h : s.In b .sending) (t : List Char) :
    (s.step (.effect (.println t))).In b .sending := by
  refine ⟨h.tx, h.locks, h.pulse_eq, ?_⟩
  simp [Probe.step, h.heard, h.tx, Mode.tx]

/-- The driver is switched off. -/
theorem Probe.In.release (h : s.In b m) (hm : m = .rest ∨ m = .sending) :
    (s.step (.effect (.digitalWrite SSerialTxControl .LOW))).In b .rest := by
  refine ⟨by simp [Probe.step, Mode.tx], fun p hp => ?_, fun x hx hlock => ?_, h.heard⟩
  · have hlock := h.locks p hp
    simp only [Probe.step, if_neg (tx_ne hp).symm]
    rcases hm with rfl | rfl
    · exact hlock
    · exact hlock
  · simp only [Probe.step] at hx
    split at hx
    · rcases List.mem_append.mp hx with hx | hx
      · exact h.pulse_eq x hx hlock
      · rw [List.mem_singleton.mp hx] at hlock
        exact absurd hlock b.tx_not_lock
    · exact h.pulse_eq x hx hlock

/-- A coil is switched on. -/
theorem Probe.In.energise (h : s.In b .rest) {lockPin : Int} (hpin : lockPin ∈ b.LOCK_PINS) :
    (s.step (.effect (.digitalWrite lockPin RELAY_ON))).In b (.pulsing lockPin 0) := by
  refine ⟨?_, fun p hp => ?_, h.pulse_eq, h.heard⟩
  · simp only [RELAY_ON, Probe.step, if_neg (tx_ne hpin)]
    exact h.tx
  · have hlock := h.locks p hp
    have hhigh : s.high p = 0 := congrArg Prod.snd hlock
    simp only [RELAY_ON, Probe.step, Mode.lock]
    split
    · rw [hhigh]
    · exact hlock

/-- A coil is switched off: at the end of a pulse of a second, or when none was on. -/
theorem Probe.In.cut (h : s.In b m) {lockPin : Int} (hpin : lockPin ∈ b.LOCK_PINS)
    (hm : m = .rest ∨ m = .pulsing lockPin 1000) :
    (s.step (.effect (.digitalWrite lockPin RELAY_OFF))).In b .rest := by
  refine ⟨?_, fun p hp => ?_, fun x hx hlock => ?_, h.heard⟩
  · have htx := h.tx
    simp only [RELAY_OFF, Probe.step, if_neg (tx_ne hpin), htx]
    rcases hm with rfl | rfl <;> rfl
  · have hlock := h.locks p hp
    simp only [RELAY_OFF, Probe.step]
    by_cases hp : p = lockPin
    · rw [if_pos hp, if_pos hp]
      rfl
    · rw [if_neg hp, if_neg hp, hlock]
      rcases hm with rfl | rfl
      · rfl
      · exact if_neg hp
  · have hlock' := h.locks lockPin hpin
    simp only [RELAY_OFF, Probe.step] at hx
    split at hx
    · rename_i hon
      rcases List.mem_append.mp hx with hx | hx
      · exact h.pulse_eq x hx hlock
      · rw [List.mem_singleton.mp hx]
        rcases hm with rfl | rfl
        · have := (congrArg Prod.fst hlock').symm.trans hon
          cases this
        · rw [Mode.lock, if_pos rfl] at hlock'
          exact congrArg Prod.snd hlock'
    · exact h.pulse_eq x hx hlock

/-! ### What a run does -/

/-- Operations that begin at rest are safe throughout and end at rest. -/
def Disciplined (b : Board) (acts : List Act) : Prop :=
  ∀ s, s.In b .rest → Throughout Probe.step (Probe.Safe b) s acts ∧ (acts.foldl Probe.step s).In b .rest

theorem Probe.In.rest_safe (h : s.In b .rest) : s.Safe b := h.safe nofun

theorem Probe.In.sending_safe (h : s.In b .sending) : s.Safe b := h.safe nofun

theorem Probe.In.pulsing_safe {lockPin : Int} {ms : Nat} (h : s.In b (.pulsing lockPin ms))
    (hms : ms ≤ 1000) : s.Safe b :=
  h.safe fun lockPin' ms' heq => by cases heq; exact hms

/-- **One operation.** -/
theorem disciplined_operation {op : Operation} (h : op.Fits b P) : Disciplined b op.acts := by
  intro s hs
  cases op with
  | access t i => exact ⟨⟨hs.rest_safe, hs.rest_safe⟩, hs⟩
  | listen =>
    have hnext := hs.release (Or.inl rfl)
    exact ⟨⟨hs.rest_safe, hnext.rest_safe⟩, hnext⟩
  | off lockPin =>
    have hnext := hs.cut h (Or.inl rfl)
    exact ⟨⟨hs.rest_safe, hnext.rest_safe⟩, hnext⟩
  | wait ms =>
    have hnext := hs.delay ms
    exact ⟨⟨hs.rest_safe, hnext.rest_safe⟩, hnext⟩
  | pulse lockPin =>
    have h1 := hs.energise h
    have h2 := h1.delay 1000
    have h3 := h2.cut h (Or.inr rfl)
    have h4 := h3.delay 2000
    exact ⟨⟨hs.rest_safe, h1.pulsing_safe (by decide), h2.pulsing_safe (by decide), h3.rest_safe,
      h4.rest_safe⟩, h4⟩
  | send lead hold text =>
    have h1 := hs.drive
    have h2 := h1.delay lead
    have h3 := h2.print text
    have h4 := h3.delay hold
    have h5 := h4.release (Or.inr rfl)
    exact ⟨⟨hs.rest_safe, h1.sending_safe, h2.sending_safe, h3.sending_safe, h4.sending_safe,
      h5.rest_safe⟩, h5⟩

theorem reset_rest (b : Board) : Probe.reset.In b .rest :=
  ⟨rfl, fun _ _ => rfl, List.forall_mem_nil _, rfl⟩

/-- **Bus and coil discipline**: at every moment of every run no coil is on while the board drives the
bus and none has been on longer than a second; every pulse took a second; everything was printed with
the driver on; and when the board returns to `loop()` it listens, with all coils off. -/
theorem bus_discipline (b : Board) (low : Nat → Bool) (passes : List Pass)
    (current : List LoopEvent) :
    (∀ acts, acts <+: (sketchRun b low passes current).2 → (probed acts).Safe b) ∧
      (probed (sketchRun b low passes current).2).pins SSerialTxControl = .LOW ∧
      ∀ p ∈ b.LOCK_PINS, (probed (sketchRun b low passes current).2).pins p = RELAY_OFF := by
  obtain ⟨ops, hrun, hops⟩ := run_operations b low passes current
  have hT := chained_throughout Probe.step (Probe.Safe b) (Probe.In b .rest) fun _ h => h.rest_safe
  have hdisciplined : Disciplined b (ops.flatMap Operation.acts) :=
    hT.flatMap fun op hop => disciplined_operation (hops op hop)
  rw [← hrun] at hdisciplined
  obtain ⟨hsafe, hrest⟩ := hdisciplined Probe.reset (reset_rest b)
  exact ⟨fun acts => throughout_iff.mp hsafe acts, hrest.tx,
    fun p hp => congrArg Prod.fst (hrest.locks p hp)⟩

end SmartLocker.Firmware
