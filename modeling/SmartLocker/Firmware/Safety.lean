import SmartLocker.Firmware.Loop

/-!
# Actuation safety

Whatever arrives on the two ports, whenever, and whatever the sensors say: between commands no lock
coil is on, at no moment two are, and no array is used outside its bounds.  Each part of the loop keeps
the buffer index in range (`Sketch.Valid`) and has a trace that is safe from any state of the pins in
which the locks are off (`SafeActs`); `Keeps` puts the parts together.
-/

set_option autoImplicit false

namespace SmartLocker.Firmware

open Lib Lib.Traced

/-! ## The pins -/

/-- The level of every output pin. -/
abbrev Pins := Int → Level

/-- Output registers are zero after a reset. -/
def Pins.reset : Pins := fun _ => .LOW

def pinStep (pins : Pins) : Act → Pins
  | .effect (.digitalWrite pin level) => fun q => if q = pin then level else pins q
  | _ => pins

/-- The pins after a trace. -/
def pinsAfter (acts : List Act) : Pins := acts.foldl pinStep Pins.reset

def LocksOff (b : Board) (pins : Pins) : Prop := ∀ p ∈ b.LOCK_PINS, pins p = RELAY_OFF

def AtMostOneOn (b : Board) (pins : Pins) : Prop :=
  ∀ p ∈ b.LOCK_PINS, ∀ q ∈ b.LOCK_PINS, pins p = RELAY_ON → pins q = RELAY_ON → p = q

theorem LocksOff.atMostOne {b : Board} {pins : Pins} (h : LocksOff b pins) : AtMostOneOn b pins := by
  intro p hp q _ hon
  rw [h p hp] at hon
  cases hon

theorem locksOff_reset (b : Board) : LocksOff b Pins.reset := fun _ _ => rfl

/-! ## Safe traces -/

/-- An access within the bounds of its array. -/
def InBounds (b : Board) : Act → Prop
  | .effect _ => True
  | .access t i => 0 ≤ i ∧ i < b.bound t

/-- Replayed with the locks off, the trace never has two locks on and ends with the locks off; and its
accesses are in bounds. -/
def SafeActs (b : Board) (acts : List Act) : Prop :=
  (∀ pins, LocksOff b pins →
    Throughout pinStep (AtMostOneOn b) pins acts ∧ LocksOff b (acts.foldl pinStep pins)) ∧
  ∀ a ∈ acts, InBounds b a

theorem chained_safe (b : Board) : Chained (SafeActs b) :=
  (chained_throughout pinStep (AtMostOneOn b) (LocksOff b) fun _ => LocksOff.atMostOne).and
    (Chained.all (InBounds b))

/-- An act that drives no lock high. -/
def Quiet (b : Board) : Act → Prop
  | .effect (.digitalWrite pin level) => pin ∉ b.LOCK_PINS ∨ level = RELAY_OFF
  | _ => True

theorem LocksOff.quiet {b : Board} {pins : Pins} (h : LocksOff b pins) {a : Act} (ha : Quiet b a) :
    LocksOff b (pinStep pins a) := by
  intro p hp
  unfold pinStep
  split
  · rename_i pin level
    split
    · rename_i heq
      rcases ha with hnot | hoff
      · exact absurd (heq ▸ hp) hnot
      · exact hoff
    · exact h p hp
  · exact h p hp

/-- Quiet acts with accesses in bounds are safe. -/
theorem safe_quiet {b : Board} {acts : List Act} (h : ∀ a ∈ acts, Quiet b a ∧ InBounds b a) :
    SafeActs b acts := by
  induction acts with
  | nil => exact (chained_safe b).nil
  | cons a acts ih =>
    obtain ⟨hquiet, hbounds⟩ := h a List.mem_cons_self
    have hone : SafeActs b [a] := by
      refine ⟨fun pins hpins => ?_, by simpa using hbounds⟩
      have hnext := hpins.quiet hquiet
      exact ⟨⟨hpins.atMostOne, hnext.atMostOne⟩, hnext⟩
    exact (chained_safe b).append hone (ih fun x hx => h x (List.mem_cons_of_mem a hx))

theorem safe_did {b : Board} {es : List Effect} (h : ∀ e ∈ es, Quiet b (.effect e)) :
    SafeActs b (did es) := by
  refine safe_quiet fun a ha => ?_
  obtain ⟨e, he, rfl⟩ := List.mem_map.mp ha
  exact ⟨h e he, trivial⟩

/-- **A pulse** on one pin has at most this lock on, and turns it off. -/
theorem safe_pulse (b : Board) (lockPin : Int) (on off : Nat) :
    SafeActs b (did [.digitalWrite lockPin RELAY_ON, .delay on, .digitalWrite lockPin RELAY_OFF,
      .delay off]) := by
  refine ⟨fun pins hpins => ?_, ?_⟩
  · have hon : AtMostOneOn b (pinStep pins (.effect (.digitalWrite lockPin RELAY_ON))) := by
      -- any pin that is on now is the pulsed one
      have honly : ∀ p ∈ b.LOCK_PINS,
          pinStep pins (.effect (.digitalWrite lockPin RELAY_ON)) p = RELAY_ON → p = lockPin := by
        intro p hp h
        by_contra hne
        simp only [pinStep, if_neg hne, hpins p hp] at h
        cases h
      intro p hp q hq hp' hq'
      rw [honly p hp hp', honly q hq hq']
    have hoff : LocksOff b (pinStep (pinStep pins (.effect (.digitalWrite lockPin RELAY_ON)))
        (.effect (.digitalWrite lockPin RELAY_OFF))) := by
      intro p hp
      simp only [pinStep]
      split
      · rfl
      · exact hpins p hp
    exact ⟨⟨hpins.atMostOne, hon, hon, hoff.atMostOne, hoff.atMostOne⟩, hoff⟩
  · intro a ha
    obtain ⟨e, -, rfl⟩ := List.mem_map.mp ha
    trivial

/-- Effects that switch the bus driver and no other pin. -/
theorem safe_bus {b : Board} {es : List Effect}
    (h : ∀ pin level, .digitalWrite pin level ∈ es → pin = SSerialTxControl) :
    SafeActs b (did es) := by
  refine safe_did fun e he => ?_
  cases e with
  | digitalWrite pin level => exact Or.inl (h pin level he ▸ b.tx_not_lock)
  | delay ms => trivial
  | println t => trivial

theorem safe_sendResponse (b : Board) (slot gpio : Int) (result : List Char) (ms : Int)
    (closed : Bool) (error : List Char) :
    SafeActs b (did (sendResponse b slot gpio result ms closed error)) :=
  safe_bus (by simp only [sendResponse, List.mem_cons]; grind)

theorem safe_transmit (b : Board) (t : List Char) : SafeActs b (did (transmit t)) :=
  safe_bus (by simp only [transmit, List.mem_cons]; grind)

theorem safe_testFrame (b : Board) : SafeActs b (did testFrame) :=
  safe_bus (by simp only [testFrame, List.mem_cons]; grind)

theorem safe_accesses {b : Board} {l : List (Table × Int)}
    (h : ∀ x ∈ l, 0 ≤ x.2 ∧ x.2 < b.bound x.1) :
    SafeActs b (l.map fun x => .access x.1 x.2) := by
  refine safe_quiet fun a ha => ?_
  obtain ⟨x, hx, rfl⟩ := List.mem_map.mp ha
  exact ⟨trivial, h x hx⟩

/-- A slot is an index of every table but the buffer. -/
theorem safe_access {b : Board} {t : Table} {slot : Int} (h : 0 ≤ slot ∧ slot < b.NUM_SLOTS)
    {acts : List Act} (hacts : SafeActs b acts) (ht : t ≠ .cmdBuffer := by decide) :
    SafeActs b (.access t slot :: acts) := by
  have hbound : b.bound t = b.NUM_SLOTS := by
    cases t with
    | cmdBuffer => exact absurd rfl ht
    | _ => rfl
  have hone : SafeActs b [.access t slot] :=
    safe_accesses (l := [(t, slot)]) (by simpa [hbound] using h)
  exact (chained_safe b).append hone hacts

/-! ## Commands -/

theorem safe_slotActs (b : Board) (w : Readings) (action : Option Char) (slot : Int) :
    SafeActs b (slotActs b w action slot) := by
  unfold slotActs
  split
  · exact safe_sendResponse b _ _ _ _ _ _
  rename_i hrange
  have hslot : 0 ≤ slot ∧ slot < b.NUM_SLOTS := by omega
  have hreply := @safe_access b .MAGNETIC_PINS _ hslot _ (safe_sendResponse b slot
    (b.lockPin slot) "OK".toList w.elapsedInt (isDoorClosed b w slot) []) nofun
  have hpulse : SafeActs b (pulseActs b w slot (b.lockPin slot)) :=
    (chained_safe b).append (safe_pulse b _ 1000 2000) hreply
  refine safe_access hslot ?_
  split
  · exact hpulse
  split
  · exact hpulse
  split
  · refine (chained_safe b).append (safe_did fun e he => ?_) hreply
    simp only [List.mem_cons, List.not_mem_nil, or_false] at he
    rcases he with rfl | rfl
    · exact Or.inr rfl
    · trivial
  · exact (chained_safe b).nil

/-- **Every command is safe**, whatever the buffer holds. -/
theorem safe_processCommandActs (b : Board) (w : Readings) (rawCmd : List Char) :
    SafeActs b (processCommandActs b w rawCmd) := by
  unfold processCommandActs
  dsimp only
  have hnil := (chained_safe b).nil
  split
  · exact hnil
  split
  · exact hnil
  split
  · exact hnil
  split
  · exact hnil
  split
  · exact safe_sendResponse b _ _ _ _ _ _
  split
  · exact hnil
  · exact safe_slotActs b w _ _

/-! ## The parts of the loop -/

/-- What every part of the loop does. -/
abbrev Sound (b : Board) (p : Program) : Prop := Keeps Sketch.Valid (SafeActs b) p

theorem safe_buffer {b : Board} {st : Sketch} (h : st.Valid) {acts : List Act}
    (hacts : SafeActs b acts) : SafeActs b (.access .cmdBuffer st.cmdIndex :: acts) := by
  have hone : SafeActs b [.access .cmdBuffer st.cmdIndex] := by
    refine safe_accesses (l := [(.cmdBuffer, st.cmdIndex)]) ?_
    have := h.lower
    have := h.upper
    simp only [List.mem_singleton, forall_eq, Board.bound]
    omega
  exact (chained_safe b).append hone hacts

theorem sound_push (b : Board) (c : Char) {st : Sketch} (h : st.Valid) (hroom : st.cmdIndex < 31) :
    (push c st).1.Valid ∧ SafeActs b (push c st).2 := by
  have hlower := h.lower
  refine ⟨⟨by simp [push, h.size], ?_, ?_⟩, safe_buffer h (chained_safe b).nil⟩
  · show 0 ≤ st.cmdIndex + 1
    omega
  · show st.cmdIndex + 1 ≤ 31
    omega

theorem sound_endLine (b : Board) (w : Readings) : Sound b (endLine b w) := by
  intro st h
  unfold endLine
  split
  · exact ⟨⟨by simp [h.size], by simp, by simp⟩, safe_buffer h (safe_processCommandActs b w _)⟩
  · exact ⟨h, (chained_safe b).nil⟩

theorem sound_charTime (b : Board) (now : UInt32) : Sound b (charTime now) :=
  fun _ h => ⟨(charTime_received h now).1, (chained_safe b).nil⟩

theorem sound_rs485Read (b : Board) (x : Rx) : Sound b (rs485Read b x) := by
  have hT := chained_safe b
  refine .seq hT (sound_charTime b x.now) fun st h => ?_
  simp only [look]
  split
  · exact sound_endLine b x.readings st h
  split
  · rename_i hroom
    split
    · exact ⟨h, hT.nil⟩
    · exact sound_push b x.c h hroom
  · exact ⟨h, hT.nil⟩

theorem sound_usbRead (b : Board) (x : UsbRx) : Sound b (usbRead b x) := by
  have hT := chained_safe b
  refine .seq hT (.ite (fun _ => .emit (safe_testFrame b)) fun _ => .nop hT) fun st h => ?_
  simp only [look]
  split
  · exact sound_endLine b x.readings st h
  split
  · rename_i hroom
    exact sound_push b x.c h hroom
  · exact ⟨h, hT.nil⟩

/-- What leaves the buffer and its index alone keeps the sketch valid. -/
theorem Sketch.Valid.congr {st st' : Sketch} (h : st.Valid) (hbuffer : st'.cmdBuffer = st.cmdBuffer)
    (hindex : st'.cmdIndex = st.cmdIndex) : st'.Valid :=
  ⟨hbuffer ▸ h.size, hindex ▸ h.lower, hindex ▸ h.upper⟩

theorem slot_range {b : Board} {i : Nat} (h : i ∈ List.range b.LOCK_PINS.length) :
    0 ≤ (i : Int) ∧ (i : Int) < b.NUM_SLOTS := by
  rw [List.mem_range] at h
  unfold Board.NUM_SLOTS
  omega

theorem sound_debounce (b : Board) (p : Poll) {i : Nat} (hi : i ∈ List.range b.LOCK_PINS.length) :
    Sound b (debounce p i) := by
  have hslot := slot_range hi
  have hnil := (chained_safe b).nil
  intro st h
  unfold debounce
  dsimp only
  split
  · exact ⟨h.congr rfl rfl, safe_access hslot (safe_access hslot
      (safe_access hslot (safe_access hslot hnil)))⟩
  · exact ⟨h, safe_access hslot (safe_access hslot hnil)⟩

theorem sound_settle (b : Board) (p : Poll) {i : Nat} (hi : i ∈ List.range b.LOCK_PINS.length)
    (closed : Bool) : Sound b (settle b p i closed) := by
  have hslot := slot_range hi
  have hT := chained_safe b
  have hwait : SafeActs b (did [.delay 100] ++ [.access .MAGNETIC_PINS i]) :=
    hT.append (safe_did (by simp [Quiet])) (safe_access hslot hT.nil)
  intro st h
  unfold settle
  dsimp only
  split
  · exact ⟨h.congr rfl rfl, hT.append hwait (safe_access hslot (safe_transmit b _))⟩
  · exact ⟨h, hwait⟩

theorem sound_detectEdge (b : Board) (p : Poll) {i : Nat} (hi : i ∈ List.range b.LOCK_PINS.length) :
    Sound b (detectEdge b p i) := by
  have hslot := slot_range hi
  have hT := chained_safe b
  have htwo : SafeActs b [.access .lastDebounce i, .access .doorClosed i] :=
    safe_access hslot (safe_access hslot hT.nil)
  intro st h
  unfold detectEdge
  split
  · split
    · exact Keeps.seq hT (.emit htwo) (sound_settle b p hi _) st h
    · exact ⟨h, htwo⟩
  · exact ⟨h, safe_access hslot hT.nil⟩

theorem sound_heartbeat (b : Board) (p : Poll) : Sound b (heartbeat b p) := by
  have hT := chained_safe b
  have hdoors : SafeActs b ((List.range b.LOCK_PINS.length).flatMap
      (fun i : Nat => [.access .MAGNETIC_PINS i, .access .doorClosed i])) := by
    refine safe_quiet fun a ha => ?_
    obtain ⟨i, hi, ha⟩ := List.mem_flatMap.mp ha
    have hslot := slot_range hi
    simp only [List.mem_cons, List.not_mem_nil, or_false] at ha
    rcases ha with rfl | rfl
    · exact ⟨trivial, hslot⟩
    · exact ⟨trivial, hslot⟩
  intro st h
  unfold heartbeat
  split
  · exact ⟨h.congr rfl rfl, hT.append hdoors (safe_transmit b _)⟩
  · exact ⟨h, hT.nil⟩

theorem sound_pollStep (b : Board) (p : Poll) : Sound b (pollStep b p) := by
  have hT := chained_safe b
  have hpoll : Sound b (pollMagneticSensors b p) :=
    .seq hT (.forEach hT fun i hi => .seq hT (sound_debounce b p hi) (sound_detectEdge b p hi))
      (sound_heartbeat b p)
  intro st h
  unfold pollStep
  split
  · exact hpoll _ (h.congr rfl rfl)
  · exact ⟨h, hT.nil⟩

theorem sound_setup (b : Board) (low : Nat → Bool) : Sound b (setup b low) := by
  have hT := chained_safe b
  have hslot : ∀ i ∈ List.range b.LOCK_PINS.length, Sound b (setupSlot b low i) := by
    intro i hi st h
    refine ⟨h.congr rfl rfl, safe_quiet fun a ha => ?_⟩
    have hrange := slot_range hi
    simp only [setupSlot, List.mem_cons, List.not_mem_nil, or_false] at ha
    rcases ha with rfl | rfl | rfl | rfl | rfl | rfl | rfl | rfl | rfl
    all_goals first
      | exact ⟨trivial, hrange⟩
      | exact ⟨Or.inr rfl, trivial⟩
  refine .seq hT (.emit (safe_did ?_)) (.seq hT (.forEach hT hslot) (.forEach hT fun i hi => ?_))
  · intro e he
    rw [List.mem_singleton.mp he]
    exact Or.inr rfl
  · exact .emit (safe_access (slot_range hi) hT.nil)

theorem valid_initial : Sketch.initial.Valid := ⟨rfl, by decide, by decide⟩

/-! ## Runs -/

/-- What the sketch reacts to: one character of either port, or the clock at the end of the loop. -/
inductive LoopEvent where
  | rs485 (x : Rx)
  | usb (x : UsbRx)
  | poll (p : Poll)

def handle (b : Board) : LoopEvent → Program
  | .rs485 x => rs485Read b x
  | .usb x => usbRead b x
  | .poll p => pollStep b p

/-- What a pass of `loop()` reacts to, in its order. -/
def Pass.events (x : Pass) : List LoopEvent := x.rs485.map .rs485 ++ x.usb.map .usb ++ [.poll x.poll]

theorem loop_events (b : Board) (x : Pass) : loop b x = forEach x.events (handle b) := by
  unfold loop Pass.events
  rw [forEach_append, forEach_append, forEach_map, forEach_map]
  funext s
  simp only [forEach, seq, nop, handle, List.append_nil, List.append_assoc]

/-- Passes of the loop are their events in a row. -/
theorem passes_events (b : Board) (passes : List Pass) :
    forEach passes (loop b) = forEach (passes.flatMap Pass.events) (handle b) := by
  induction passes with
  | nil => rfl
  | cons x passes ih =>
    rw [List.flatMap_cons, forEach_append, ← loop_events, ← ih]
    rfl

/-- `setup()`, complete passes of `loop()`, and a further pass as far as it has come. -/
def sketchRun (b : Board) (low : Nat → Bool) (passes : List Pass) (current : List LoopEvent) :
    Sketch × List Act :=
  seq (setup b low) (seq (forEach passes (loop b)) (forEach current (handle b))) .initial

/-- **Actuation safety**: after every character and every poll of every pass all lock pins are off, at
every moment at most one is on, the buffer index is in `0..31`, and every array is used within its
bounds. -/
theorem actuation_safety (b : Board) (low : Nat → Bool) (passes : List Pass)
    (current : List LoopEvent) :
    LocksOff b (pinsAfter (sketchRun b low passes current).2) ∧
      (∀ acts, acts <+: (sketchRun b low passes current).2 → AtMostOneOn b (pinsAfter acts)) ∧
      0 ≤ (sketchRun b low passes current).1.cmdIndex ∧
      (sketchRun b low passes current).1.cmdIndex ≤ 31 ∧
      ∀ t i, .access t i ∈ (sketchRun b low passes current).2 → 0 ≤ i ∧ i < b.bound t := by
  have hT := chained_safe b
  have hloop : ∀ x ∈ passes, Sound b (loop b x) := fun x _ =>
    .seq hT (.forEach hT fun y _ => sound_rs485Read b y)
      (.seq hT (.forEach hT fun y _ => sound_usbRead b y) (sound_pollStep b x.poll))
  have hhandle : ∀ e ∈ current, Sound b (handle b e) := by
    intro e _
    cases e with
    | rs485 x => exact sound_rs485Read b x
    | usb x => exact sound_usbRead b x
    | poll p => exact sound_pollStep b p
  have hrun : Sound b (seq (setup b low) (seq (forEach passes (loop b))
      (forEach current (handle b)))) :=
    .seq hT (sound_setup b low) (.seq hT (.forEach hT hloop) (.forEach hT hhandle))
  obtain ⟨hvalid, hpins, hbounds⟩ := hrun _ valid_initial
  obtain ⟨hone, hoff⟩ := hpins Pins.reset (locksOff_reset b)
  exact ⟨hoff, fun acts => throughout_iff.mp hone acts, hvalid.lower, hvalid.upper,
    fun t i h => hbounds _ h⟩

end SmartLocker.Firmware
