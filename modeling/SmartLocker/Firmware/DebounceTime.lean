import SmartLocker.Firmware.DoorState
import SmartLocker.Lib.Machine
import Mathlib.Algebra.Order.Archimedean.Real.Basic
import Mathlib.Tactic.Linarith
import Mathlib.Tactic.NormNum

/-!
# How long a sensor was steady

`pollMagneticSensors` takes one `now` for all slots, and an earlier slot that sends its event takes
hundreds of milliseconds before a later slot is read: `lastDebounce` is the time of the poll, not of the
reading.  This file gives the readings their times.

* `TimedPoll` — a poll with the times of its readings, `now` is the clock at its start;
* `history` — the samples and the events of a slot, in their order, with the times of the samples;
* `debounce_duration` — the sensor was steady for 200 ms before every event, when the samples that
  change come promptly (`ReadPromptly`);
* `debounce_short` — an event of slot 1 after 101 ms, since slot 0 sent its own before.
-/

set_option autoImplicit false

namespace SmartLocker.Firmware

open Lib.Machine

/-! ## The clock -/

/-- `millis()` at the time `t`, in ms. -/
noncomputable def millis (t : ℝ) : UInt32 := UInt32.ofNat ⌊t⌋₊

/-- The difference of two clocks, which may have wrapped, is not more than the time between them. -/
theorem elapsed_le {m u : ℝ} (hm : 0 ≤ m) (hu : m ≤ u) :
    ((millis u - millis m).toNat : ℝ) < u - m + 1 := by
  have hfloor : ⌊m⌋₊ ≤ ⌊u⌋₊ := Nat.floor_mono hu
  have hsub : millis u - millis m = UInt32.ofNat (⌊u⌋₊ - ⌊m⌋₊) := by
    rw [millis, millis, UInt32.ofNat_sub hfloor]
  have hle : (millis u - millis m).toNat ≤ ⌊u⌋₊ - ⌊m⌋₊ := by
    rw [hsub]
    exact Nat.mod_le _ _
  have hcast : ((millis u - millis m).toNat : ℝ) ≤ ⌊u⌋₊ - ⌊m⌋₊ := by
    rw [← Nat.cast_sub hfloor]
    exact_mod_cast hle
  have hupper : (⌊u⌋₊ : ℝ) ≤ u := Nat.floor_le (hm.trans hu)
  have hlower : m < ⌊m⌋₊ + 1 := Nat.lt_floor_add_one m
  linarith

/-! ## Timed runs -/

/-- A poll with the times of its readings. -/
structure TimedPoll where
  poll : Poll
  start : ℝ
  /-- the first reading of a slot -/
  sampled : Nat → ℝ
  /-- the second one, where it is made -/
  reread : Nat → ℝ
  start_nonneg : 0 ≤ start
  now : poll.now = millis start
  /-- `delay(100)` is between the two -/
  waits : ∀ i, sampled i + 100 ≤ reread i

/-- The times of the readings of the slots, of the clock first, when slot `i` is in the state `s i`. -/
def pollTimes (b : Board) (s : Nat → SlotState) (p : TimedPoll) : List ℝ :=
  p.start :: (List.range b.LOCK_PINS.length).flatMap fun i =>
    p.sampled i :: if (s i).rereads (p.poll.slot i) then [p.reread i] else []

/-- The times of all readings, in the order in which they are made. -/
def readTimes (b : Board) : (Nat → SlotState) → List TimedPoll → List ℝ
  | _, [] => []
  | s, p :: ps => pollTimes b s p ++ readTimes b (fun i => (s i).next (p.poll.slot i)) ps

/-- What happens to a slot: a sample of its sensor, or a door event that is sent. -/
inductive Moment where
  | sample (time : ℝ) (closed : Bool)
  | event (closed : Bool)

def Moment.event? : Moment → Option Bool
  | .event closed => some closed
  | .sample _ _ => none

/-- What a poll does to slot `i` in the state `s`. -/
def moments (i : Nat) (s : SlotState) (p : TimedPoll) : List Moment :=
  .sample (p.sampled i) (p.poll.low i) ::
    ((if s.rereads (p.poll.slot i) then [.sample (p.reread i) (p.poll.stillLow i)] else []) ++
      (s.event (p.poll.slot i)).map .event)

/-- What happens to slot `i` from the state `s` on. -/
def history (i : Nat) : SlotState → List TimedPoll → List Moment
  | _, [] => []
  | s, p :: ps => moments i s p ++ history i (s.next (p.poll.slot i)) ps

/-- In `past`, up to `rest`, the slot was sampled as `closed` at two times 200 ms apart, and no sample
between them differed. -/
def Debounced (past : List Moment) (closed : Bool) (rest : List Moment) : Prop :=
  ∃ before t between t',
    past = before ++ .sample t closed :: (between ++ .sample t' closed :: rest) ∧ t + 200 ≤ t' ∧
      ∀ u v, .sample u v ∈ between → v = closed

theorem event?_samples (i : Nat) (s : SlotState) (p : TimedPoll) :
    (moments i s p).filterMap Moment.event? = s.event (p.poll.slot i) := by
  have hevents : ∀ cs : List Bool, (cs.map Moment.event).filterMap Moment.event? = cs := by
    intro cs
    rw [List.filterMap_map]
    exact List.filterMap_some
  have hsample : ∀ (t : ℝ) (v : Bool), Moment.event? (.sample t v) = none := fun _ _ => rfl
  unfold moments
  rw [List.filterMap_cons_none (hsample _ _), List.filterMap_append, hevents]
  cases s.rereads (p.poll.slot i) with
  | true => rfl
  | false => rfl

/-- The events of the history are those of the slot. -/
theorem event?_history (i : Nat) (s : SlotState) (ps : List TimedPoll) :
    (history i s ps).filterMap Moment.event? = s.events (slotPolls i (ps.map TimedPoll.poll)) := by
  induction ps generalizing s with
  | nil => rfl
  | cons p ps ih =>
    rw [history, List.filterMap_append, event?_samples, ih]
    rfl

/-! ## Prompt samples -/

/-- The state of a slot and its last sample, second readings included. -/
structure Watch where
  slot : SlotState
  last : Bool

def bootWatch (low : Bool) : Watch := ⟨bootSlot low, low⟩

def watchStep (i : Nat) (w : Watch) (p : TimedPoll) : Watch where
  slot := w.slot.next (p.poll.slot i)
  last := if w.slot.rereads (p.poll.slot i) then p.poll.stillLow i else p.poll.low i

/-- A sample that restarts the debounce comes at most 99 ms after the clock was read, and every
change of the sensor that a second reading saw restarts it. -/
structure ReadPromptly (i : Nat) (w : Watch) (p : TimedPoll) : Prop where
  prompt : p.poll.low i ≠ w.slot.prev → p.sampled i ≤ p.start + 99
  seen : p.poll.low i = w.slot.prev → w.last = w.slot.prev

/-- What is known of a slot whose sensor differs from the state of its door: it was sampled so when the
debounce started, shortly after `m`, and all the time since; `clock` is the time of the last poll. -/
def Steady (past : List Moment) (s : SlotState) (clock : ℝ) : Prop :=
  ∃ before t between m, past = before ++ .sample t s.prev :: between ∧
    (∀ u v, .sample u v ∈ between → v = s.prev) ∧ t ≤ m + 99 ∧ 0 ≤ m ∧ m ≤ clock ∧ s.debounce = millis m

/-- The invariant of a slot: its last sample counts only when the debounce has seen it. -/
def Grounded (past : List Moment) (w : Watch) (clock : ℝ) : Prop :=
  w.slot.prev ≠ w.slot.closed → w.last = w.slot.prev → Steady past w.slot clock

theorem rereads_iff (s : SlotState) (x : SlotPoll) : s.rereads x = true ↔
    x.low = s.prev ∧ x.now - s.debounce ≥ 200 ∧ x.low ≠ s.closed := by
  unfold SlotState.rereads SlotState.sample
  by_cases hlow : x.low = s.prev
  · simp [hlow]
  · simp [hlow]

/-- **What a poll can do to a slot.** -/
theorem watch_cases (i : Nat) (w : Watch) (p : TimedPoll) :
    -- the debounce starts again
    (p.poll.low i ≠ w.slot.prev ∧ moments i w.slot p = [.sample (p.sampled i) (p.poll.low i)] ∧
      watchStep i w p = ⟨⟨w.slot.closed, p.poll.low i, p.poll.now⟩, p.poll.low i⟩) ∨
    -- it goes on, or the door is in this state already
    (p.poll.low i = w.slot.prev ∧ moments i w.slot p = [.sample (p.sampled i) (p.poll.low i)] ∧
      watchStep i w p = ⟨w.slot, p.poll.low i⟩) ∨
    -- it is over, and the second reading contradicts
    (p.poll.low i = w.slot.prev ∧ p.poll.stillLow i ≠ w.slot.prev ∧
      moments i w.slot p =
        [.sample (p.sampled i) (p.poll.low i), .sample (p.reread i) (p.poll.stillLow i)] ∧
      watchStep i w p = ⟨w.slot, p.poll.stillLow i⟩) ∨
    -- or confirms
    (p.poll.low i = w.slot.prev ∧ p.poll.now - w.slot.debounce ≥ 200 ∧ w.slot.prev ≠ w.slot.closed ∧
      moments i w.slot p =
        [.sample (p.sampled i) (p.poll.low i), .sample (p.reread i) w.slot.prev, .event w.slot.prev] ∧
      (watchStep i w p).slot.closed = (watchStep i w p).slot.prev) := by
  have hiff := rereads_iff w.slot (p.poll.slot i)
  have hslow : (p.poll.slot i).low = p.poll.low i := rfl
  have hsstill : (p.poll.slot i).stillLow = p.poll.stillLow i := rfl
  have hsnow : (p.poll.slot i).now = p.poll.now := rfl
  rw [hslow, hsnow] at hiff
  unfold moments watchStep SlotState.next SlotState.event SlotState.settles SlotState.sample
  rw [hslow, hsstill, hsnow]
  by_cases hlow : p.poll.low i = w.slot.prev
  · right
    cases hrereads : w.slot.rereads (p.poll.slot i) with
    | false => exact Or.inl (by simp [hlow])
    | true =>
      obtain ⟨-, helapsed, hedge⟩ := hiff.mp hrereads
      have hclosed : w.slot.prev ≠ w.slot.closed := fun h => hedge (hlow.trans h)
      right
      by_cases hstill : p.poll.stillLow i = w.slot.prev
      · exact Or.inr (by simp [hlow, hstill, helapsed, hclosed])
      · exact Or.inl (by simp [hlow, hstill])
  · have hrereads : w.slot.rereads (p.poll.slot i) = false :=
      Bool.eq_false_iff.mpr fun h => hlow (hiff.mp h).1
    exact Or.inl (by simp [hrereads, hlow])

/-- A second reading that is made comes 200 ms after the debounce started. -/
theorem steady_long {past : List Moment} {s : SlotState} {p : TimedPoll} {clock : ℝ} {i : Nat}
    (h : Steady past s clock) (hclock : clock ≤ p.start) (hsampled : p.start ≤ p.sampled i)
    (hlow : p.poll.low i = s.prev) (helapsed : p.poll.now - s.debounce ≥ 200) :
    Debounced (past ++ [.sample (p.sampled i) (p.poll.low i), .sample (p.reread i) s.prev]) s.prev
      [] := by
  obtain ⟨before, t, between, m, hpast, hbetween, ht, hm, hmclock, hdebounce⟩ := h
  have hlong : (200 : ℝ) ≤ (p.poll.now - s.debounce).toNat := by
    exact_mod_cast UInt32.le_iff_toNat_le.mp helapsed
  rw [p.now, hdebounce] at hlong
  have hgap := elapsed_le hm (hmclock.trans hclock)
  have hwaits := p.waits i
  refine ⟨before, t, between ++ [.sample (p.sampled i) (p.poll.low i)], p.reread i, ?_, ?_, ?_⟩
  · rw [hpast]
    simp
  · linarith
  · intro u v huv
    rw [List.mem_append, List.mem_singleton] at huv
    rcases huv with huv | huv
    · exact hbetween u v huv
    · cases huv
      exact hlow

/-- A poll keeps the invariant. -/
theorem grounded_step {past : List Moment} {w : Watch} {p : TimedPoll} {clock : ℝ} {i : Nat}
    (h : Grounded past w clock) (hclock : clock ≤ p.start) (hprompt : ReadPromptly i w p) :
    Grounded (past ++ moments i w.slot p) (watchStep i w p) p.start := by
  intro hclosed hlast
  rcases watch_cases i w p with ⟨hlow, hmoments, hstep⟩ | ⟨hlow, hmoments, hstep⟩ |
    ⟨hlow, hstill, -, hstep⟩ | ⟨-, -, -, -, hstep⟩
  · refine ⟨past, p.sampled i, [], p.start, ?_, ?_, hprompt.prompt hlow, p.start_nonneg, le_rfl, ?_⟩
    · rw [hmoments, hstep]
    · intro u v huv
      cases huv
    · rw [hstep]
      exact p.now
  · rw [hstep] at hclosed ⊢
    obtain ⟨before, t, between, m, hpast, hbetween, ht, hm, hmclock, hdebounce⟩ :=
      h hclosed (hprompt.seen hlow)
    refine ⟨before, t, between ++ [.sample (p.sampled i) (p.poll.low i)], m, ?_, ?_, ht, hm,
      hmclock.trans hclock, hdebounce⟩
    · rw [hmoments, hpast]
      simp
    · intro u v huv
      rw [List.mem_append, List.mem_singleton] at huv
      rcases huv with huv | huv
      · exact hbetween u v huv
      · cases huv
        exact hlow
  · rw [hstep] at hlast
    exact absurd hlast hstill
  · exact absurd hstep.symm hclosed

/-- The event of a poll is debounced. -/
theorem debounced_step {past : List Moment} {w : Watch} {p : TimedPoll} {clock : ℝ} {i : Nat}
    (h : Grounded past w clock) (hclock : clock ≤ p.start) (hsampled : p.start ≤ p.sampled i)
    (hprompt : ReadPromptly i w p) {front back : List Moment} {closed : Bool}
    (hevent : moments i w.slot p = front ++ .event closed :: back) :
    Debounced (past ++ front) closed [] := by
  rcases watch_cases i w p with ⟨-, hmoments, -⟩ | ⟨-, hmoments, -⟩ | ⟨-, -, hmoments, -⟩ |
    ⟨hlow, helapsed, hclosed, hmoments, -⟩
  · rw [hmoments] at hevent
    simp [List.cons_eq_append_iff] at hevent
  · rw [hmoments] at hevent
    simp [List.cons_eq_append_iff] at hevent
  · rw [hmoments] at hevent
    simp [List.cons_eq_append_iff] at hevent
  · rw [hmoments] at hevent
    simp only [List.cons_eq_append_iff, List.nil_eq_append_iff, List.cons.injEq, reduceCtorEq,
      Moment.event.injEq, false_and, and_false, false_or] at hevent
    obtain ⟨_, rfl, _, rfl, ⟨rfl, rfl, -⟩ | ⟨_, -, ⟨⟩⟩⟩ := hevent
    exact steady_long (h hclosed (hprompt.seen hlow)) hclock hsampled hlow helapsed

/-! ## Runs -/

/-- A later poll starts later. -/
theorem start_le {b : Board} {s : Nat → SlotState} {t : ℝ} {ps : List TimedPoll}
    (h : ∀ u ∈ readTimes b s ps, t ≤ u) : ∀ p ∈ ps, t ≤ p.start := by
  induction ps generalizing s with
  | nil => simp
  | cons p ps ih =>
    rw [readTimes] at h
    intro q hq
    rcases List.mem_cons.mp hq with rfl | hq
    · exact h q.start (List.mem_append_left _ List.mem_cons_self)
    · exact ih (fun u hu => h u (List.mem_append_right _ hu)) q hq

/-- What the order of the readings says of a poll and the rest of the run. -/
theorem readTimes_cons {b : Board} {s : Nat → SlotState} {p : TimedPoll} {ps : List TimedPoll} {i : Nat}
    (hi : i < b.LOCK_PINS.length) (h : (readTimes b s (p :: ps)).Pairwise (· ≤ ·)) :
    p.start ≤ p.sampled i ∧ (∀ q ∈ ps, p.start ≤ q.start) ∧
      (readTimes b (fun j => (s j).next (p.poll.slot j)) ps).Pairwise (· ≤ ·) := by
  rw [readTimes, pollTimes, List.cons_append, List.pairwise_cons, List.pairwise_append] at h
  obtain ⟨hstart, -, hrest, -⟩ := h
  have hlater : ∀ u ∈ readTimes b (fun j => (s j).next (p.poll.slot j)) ps, p.start ≤ u :=
    fun u hu => hstart u (List.mem_append_right _ hu)
  refine ⟨hstart _ (List.mem_append_left _ ?_), start_le hlater, hrest⟩
  exact List.mem_flatMap.mpr ⟨i, List.mem_range.mpr hi, List.mem_cons_self⟩

/-- **Every event of a run** with prompt samples is debounced. -/
theorem debounced_run {b : Board} {i : Nat} (hi : i < b.LOCK_PINS.length) (ps : List TimedPoll) :
    ∀ (s : Nat → SlotState) (past : List Moment) (w : Watch) (clock : ℝ), w.slot = s i →
      Grounded past w clock → (∀ p ∈ ps, clock ≤ p.start) → (readTimes b s ps).Pairwise (· ≤ ·) →
      Along (fun w p => some (watchStep i w p)) (ReadPromptly i) w ps →
      ∀ front closed back, history i (s i) ps = front ++ .event closed :: back →
        Debounced (past ++ front) closed [] := by
  induction ps with
  | nil =>
    intro s past w clock _ _ _ _ _ front closed back hsplit
    simp [history] at hsplit
  | cons p ps ih =>
    intro s past w clock hslot hgrounded hclock htimes halong front closed back hsplit
    obtain ⟨hsampled, hlater, hrest⟩ := readTimes_cons hi htimes
    obtain ⟨hprompt, halong'⟩ := halong.cons rfl
    have hnow := hclock p List.mem_cons_self
    rw [history, ← hslot] at hsplit
    rcases append_eq_append_cons hsplit with ⟨rest, hhere, -⟩ | ⟨front', hfront, hback⟩
    · exact debounced_step hgrounded hnow hsampled hprompt hhere
    · -- the event is one of a later poll
      have hgrounded' := grounded_step hgrounded hnow hprompt
      have hnext : (watchStep i w p).slot = (s i).next (p.poll.slot i) := by
        rw [← hslot]
        rfl
      rw [hslot] at hback
      have htail := ih _ _ _ _ hnext hgrounded' hlater hrest halong' front' closed back hback
      rw [hfront, ← List.append_assoc]
      exact htail

/-- The events of the history are the door events on the bus. -/
theorem history_events (b : Board) (low : Nat → Bool) (passes : List Pass) (current : List LoopEvent)
    {timed : List TimedPoll} {i : Nat} (hi : i < b.LOCK_PINS.length)
    (hpolls : timed.map TimedPoll.poll = polls passes current) :
    (history i (bootSlot (low i)) timed).filterMap Moment.event? =
      doorEvents b i (sketchRun b low passes current).2 := by
  rw [event?_history, hpolls]
  exact (sketch_slot b low passes current hi).2.symm

/-- **Debounce duration**: in a run whose samples are read promptly, what happens to slot `i` has the
events of the sketch, and before each of them the slot was sampled as the event says at two times 200 ms
apart, the second one right before the event, and at no time between them as anything else. -/
theorem debounce_duration (b : Board) (low : Nat → Bool) (passes : List Pass) (current : List LoopEvent)
    (timed : List TimedPoll) (i : Nat) (hi : i < b.LOCK_PINS.length)
    (hpolls : timed.map TimedPoll.poll = polls passes current)
    (htimes : (readTimes b (fun j => bootSlot (low j)) timed).Pairwise (· ≤ ·))
    (hprompt : Along (fun w p => some (watchStep i w p)) (ReadPromptly i) (bootWatch (low i)) timed) :
    (history i (bootSlot (low i)) timed).filterMap Moment.event? =
        doorEvents b i (sketchRun b low passes current).2 ∧
      ∀ past closed future,
        history i (bootSlot (low i)) timed = past ++ .event closed :: future →
          Debounced past closed [] := by
  refine ⟨history_events b low passes current hi hpolls, fun past closed future hsplit => ?_⟩
  have hboot : Grounded [] (bootWatch (low i)) 0 := fun hclosed => absurd rfl hclosed
  have hnonneg : ∀ p ∈ timed, (0 : ℝ) ≤ p.start := fun p _ => p.start_nonneg
  exact debounced_run hi timed (fun j => bootSlot (low j)) [] _ 0 rfl hboot hnonneg htimes hprompt
    past closed future hsplit

/-- A poll whose clock read `start`, that finds the doors as `low` says and reads each of them again,
if it does, after 100 ms. -/
noncomputable def pollAt (start : Nat) (low : Nat → Bool) (sampled : Nat → Nat) : TimedPoll where
  poll := ⟨UInt32.ofNat start, low, low, UInt32.ofNat start, UInt32.ofNat start⟩
  start := start
  sampled i := sampled i
  reread i := (sampled i + 100 : Nat)
  start_nonneg := Nat.cast_nonneg start
  now := by rw [millis, Nat.floor_natCast]
  waits i := by push_cast; exact le_rfl

/-- The times of the readings, when these are whole. -/
theorem pairwise_times {ts : List ℝ} (ns : List Nat) (h : ts = ns.map Nat.cast)
    (hns : ns.Pairwise (· ≤ ·)) : ts.Pairwise (· ≤ ·) := by
  rw [h, List.pairwise_map]
  exact hns.imp fun h => Nat.cast_le.mpr h

/-- The doors of slots 0 and 1 open at 100 ms and at 300 ms. -/
noncomputable def twoDoors : List TimedPoll :=
  [pollAt 100 (· ≠ 0) fun _ => 100,
   pollAt 200 (· ≠ 0) fun _ => 200,
   -- slot 0 sends its event before the others are read
   pollAt 300 (1 < ·) fun i => if i = 0 then 300 else 515,
   pollAt 516 (1 < ·) fun i => if i = 2 then 730 else 516]

/-- The door of slot 0 alone. -/
noncomputable def oneDoor : List TimedPoll :=
  [pollAt 100 (· ≠ 0) fun _ => 100,
   pollAt 200 (· ≠ 0) fun _ => 200,
   pollAt 300 (· ≠ 0) fun i => if i = 0 then 300 else 515]

/-- `debounce_duration` at the door of slot 0. -/
theorem debounce_duration_open :
    Debounced [.sample (100 : Nat) false, .sample (200 : Nat) false, .sample (300 : Nat) false,
      .sample (400 : Nat) false] false [] := by
  have hfirst : ReadPromptly 0 (bootWatch true) (pollAt 100 (· ≠ 0) fun _ => 100) :=
    ⟨fun _ => le_add_of_nonneg_right (by norm_num), fun h => absurd h (by decide)⟩
  have hopen : ∀ start sampled clock,
      ReadPromptly 0 ⟨⟨true, false, clock⟩, false⟩ (pollAt start (· ≠ 0) sampled) :=
    fun _ _ _ => ⟨fun h => absurd rfl h, fun _ => rfl⟩
  refine (debounce_duration (.uno 2 (by decide)) (fun _ => true) []
    (oneDoor.map fun p => .poll p.poll) oneDoor 0 (by decide) rfl
    (pairwise_times [100, 100, 100, 100, 200, 200, 200, 200, 300, 300, 400, 515, 515] rfl (by decide))
    ⟨hfirst, hopen _ _ _, hopen _ _ _, trivial⟩).2 _ false [] rfl

/-- **An event after 101 ms**: at `now` = 300 slot 0 sends its event first, slot 1 is read at 515 ms,
and again at 516 ms and 616 ms. -/
theorem debounce_short : ¬ ∀ (b : Board) (low : Nat → Bool) (passes : List Pass)
    (current : List LoopEvent) (timed : List TimedPoll) (i : Nat), i < b.LOCK_PINS.length →
    timed.map TimedPoll.poll = polls passes current →
    (readTimes b (fun j => bootSlot (low j)) timed).Pairwise (· ≤ ·) →
    ∀ past closed future, history i (bootSlot (low i)) timed = past ++ .event closed :: future →
      ∃ rest, Debounced past closed rest := by
  intro hall
  obtain ⟨rest, before, t, between, t', hpast, hlong, -⟩ := hall (.uno 2 (by decide)) (fun _ => true) []
    (twoDoors.map fun p => .poll p.poll) twoDoors 1 (by decide) rfl
    (pairwise_times [100, 100, 100, 100, 200, 200, 200, 200, 300, 300, 400, 515, 515,
      516, 516, 516, 616, 730] rfl (by decide))
    [.sample (100 : Nat) true, .sample (200 : Nat) true, .sample (515 : Nat) false,
      .sample (516 : Nat) false, .sample (616 : Nat) false] false [] rfl
  -- the samples of the open door are at most 101 ms apart
  have hwithin : ∀ u, Moment.sample u false ∈
      before ++ .sample t false :: (between ++ .sample t' false :: rest) → 515 ≤ u ∧ u ≤ 616 := by
    intro u hu
    rw [← hpast] at hu
    simp only [List.mem_cons, Moment.sample.injEq, List.not_mem_nil, or_false, and_true,
      Bool.false_eq_true, and_false, false_or] at hu
    rcases hu with rfl | rfl | rfl
    · norm_num
    · norm_num
    · norm_num
  have hfirst := hwithin t (by simp)
  have hsecond := hwithin t' (by simp)
  linarith

end SmartLocker.Firmware
