import SmartLocker.Lib.Timer
import SmartLocker.Firmware.Debounce

/-!
# When the board says that it is alive

`loop()` polls the sensors when 100 ms have gone by, and a poll sends `ALIVE` when 60000 ms have gone
by: two timers on the clock `millis()`, the second one checked only when the first one fires.
`sketch_alive` finds the timers in the sketch, whatever the ports and the sensors bring;
`alive_interval` then says when `ALIVE` is sent, however often the clock has wrapped.
-/

set_option autoImplicit false

namespace SmartLocker.Firmware

open Lib Lib.Traced Lib.Timer

/-! ## The timers in the sketch -/

/-- The polls that send `ALIVE`, of the polls that are made. -/
def beatsMade : UInt32 → List Poll → List Poll
  | _, [] => []
  | last, p :: ps =>
    if p.checked - last ≥ 60000 then p :: beatsMade p.stamped ps else beatsMade last ps

/-- The number of `ALIVE` on the bus. -/
def aliveCount (b : Board) (acts : List Act) : Nat :=
  (printed (effectsOf acts)).count (heartbeatJson b)

/-- An act that puts `ALIVE` on the bus. -/
def aliveOf (b : Board) : Act → Option Unit
  | .effect (.println t) => if t = heartbeatJson b then some () else none
  | _ => none

/-- What is seen of the sketch: the stamps of the two timers. -/
def Sketch.timers (st : Sketch) : UInt32 × UInt32 := (st.lastSensorPoll, st.lastHeartbeat)

/-- The part `p` of the sketch does to the timers what `q` does. -/
abbrev OnTimers (b : Board) (p : Program) (q : Traced (UInt32 × UInt32) Unit) : Prop :=
  Refines (fun _ => True) Sketch.timers (aliveOf b) p q

/-- The end of a poll, as the timers see it. -/
def timerBeat (p : Poll) : Traced (UInt32 × UInt32) Unit := fun v =>
  if p.checked - v.2 ≥ 60000 then ((v.1, p.stamped), [()]) else (v, [])

/-- An event of the loop, as the timers see it. -/
def timerEvent : LoopEvent → Traced (UInt32 × UInt32) Unit
  | .poll p => fun v => if p.now - v.1 ≥ 100 then timerBeat p (p.now, v.2) else (v, [])
  | _ => nop

/-! ### What is not seen -/

theorem alive_none {b : Board} {acts : List Act}
    (h : ∀ t ∈ printed (effectsOf acts), t ≠ heartbeatJson b) : acts.filterMap (aliveOf b) = [] := by
  rw [List.filterMap_eq_nil_iff]
  intro a ha
  cases a with
  | access t i => rfl
  | effect e =>
    cases e with
    | digitalWrite pin level => rfl
    | delay ms => rfl
    | println t =>
      have hmem : t ∈ printed (effectsOf acts) :=
        List.mem_filterMap.mpr ⟨.println t, List.mem_filterMap.mpr ⟨_, ha, rfl⟩, rfl⟩
      exact if_neg (h t hmem)

theorem jsonOut_ne_alive (b : Board) (slot gpio : Int) (result : List Char) (ms : Int) (closed : Bool)
    (error : List Char) : jsonOut b slot gpio result ms closed error ≠ heartbeatJson b := by
  intro h
  have hkey := jsonOut_key b slot gpio result ms closed error
  have hlength := slavePart_length b
  have heq : heartbeatJson b = snprintf 64 (slavePart b ++ ",\"event\":\"ALIVE\"\x7d".toList) := rfl
  rw [h, heq, getElem?_snprintf (by omega)] at hkey
  exact absurd hkey (by decide)

theorem doorEventText_ne_alive (b : Board) (i : Nat) (closed : Bool) :
    doorEventText b i (if closed then "DOOR_CLOSED" else "DOOR_OPENED").toList ≠ heartbeatJson b := by
  intro h
  have hname := heartbeatJson_name b
  rw [← h] at hname
  cases closed with
  | true => exact absurd ((doorEventText_name b i "OOR_CLOSED".toList).symm.trans hname) (by decide)
  | false => exact absurd ((doorEventText_name b i "OOR_OPENED".toList).symm.trans hname) (by decide)

theorem reply_ne_alive {b : Board} {w : Readings} {rawCmd t : List Char}
    (h : t ∈ printed (processCommand b w rawCmd)) : t ≠ heartbeatJson b := by
  obtain ⟨r, q, -, -, rfl⟩ := printed_processCommand h
  exact jsonOut_ne_alive b _ _ _ _ _ _

/-- What leaves the timers and says nothing of being alive. -/
theorem OnTimers.hidden {b : Board} {p : Program} (htimers : ∀ st, (p st).1.timers = st.timers)
    (hacts : ∀ st, ∀ t ∈ printed (effectsOf (p st).2), t ≠ heartbeatJson b) : OnTimers b p nop :=
  fun st _ => ⟨trivial, htimers st, alive_none (hacts st)⟩

theorem untimed_nop (b : Board) : OnTimers b nop nop := Refines.nop

theorem untimed_endLine (b : Board) (w : Readings) : OnTimers b (endLine b w) nop := by
  refine OnTimers.hidden (fun st => ?_) fun st t ht => ?_
  · unfold endLine
    split <;> rfl
  · unfold endLine at ht
    split at ht
    · rw [effectsOf_access, effectsOf_processCommandActs] at ht
      exact reply_ne_alive ht
    · cases ht

theorem untimed_push (b : Board) (c : Char) : OnTimers b (push c) nop :=
  OnTimers.hidden (fun _ => rfl) fun _ _ ht => by cases ht

theorem untimed_rs485Read (b : Board) (x : Rx) : OnTimers b (rs485Read b x) nop := by
  refine Refines.hidden_seq (OnTimers.hidden (fun _ => rfl) fun _ _ ht => by cases ht) ?_
  intro st h
  simp only [look]
  split
  · exact untimed_endLine b x.readings st h
  split
  · split
    · exact untimed_nop b st h
    · exact untimed_push b x.c st h
  · exact untimed_nop b st h

theorem untimed_usbRead (b : Board) (x : UsbRx) : OnTimers b (usbRead b x) nop := by
  have htest : ∀ t ∈ printed (effectsOf (did testFrame)), t ≠ heartbeatJson b := by
    intro t ht h
    rw [List.mem_singleton.mp ht] at h
    have hslave : (heartbeatJson b)[2]? = some 's' := rfl
    rw [← h] at hslave
    exact absurd hslave (by decide)
  refine Refines.hidden_seq ?_ ?_
  · split
    · exact Refines.emit (alive_none htest)
    · exact Refines.nop
  intro st h
  simp only [look]
  split
  · exact untimed_endLine b x.readings st h
  split
  · exact untimed_push b x.c st h
  · exact untimed_nop b st h

theorem untimed_debounce (b : Board) (p : Poll) (i : Nat) : OnTimers b (debounce p i) nop := by
  refine OnTimers.hidden (fun st => ?_) fun st t ht => ?_
  · unfold debounce
    dsimp only
    split <;> rfl
  · unfold debounce at ht
    dsimp only at ht
    split at ht <;> cases ht

theorem untimed_settle (b : Board) (p : Poll) (i : Nat) (closed : Bool) :
    OnTimers b (settle b p i closed) nop := by
  refine OnTimers.hidden (fun st => ?_) fun st t ht => ?_
  · unfold settle
    dsimp only
    split <;> rfl
  · unfold settle at ht
    dsimp only at ht
    split at ht
    · rw [List.mem_singleton.mp (show t ∈ [doorEventText b i
        (if closed then "DOOR_CLOSED" else "DOOR_OPENED").toList] from ht)]
      exact doorEventText_ne_alive b i closed
    · cases ht

theorem untimed_detectEdge (b : Board) (p : Poll) (i : Nat) : OnTimers b (detectEdge b p i) nop := by
  intro st h
  unfold detectEdge
  split
  · split
    · exact Refines.hidden_seq (Refines.emit rfl) (untimed_settle b p i _) st h
    · exact ⟨h, rfl, rfl⟩
  · exact ⟨h, rfl, rfl⟩

/-! ### The timers -/

theorem alive_transmit (b : Board) :
    (did (transmit (heartbeatJson b))).filterMap (aliveOf b) = [()] := by
  have halive : aliveOf b (.effect (.println (heartbeatJson b))) = some () := if_pos rfl
  simp only [transmit, did, List.map_cons, List.map_nil]
  rw [List.filterMap_cons_none rfl, List.filterMap_cons_none rfl, List.filterMap_cons_some halive,
    List.filterMap_cons_none rfl, List.filterMap_cons_none rfl, List.filterMap_nil]

theorem heartbeat_timers (b : Board) (p : Poll) : OnTimers b (heartbeat b p) (timerBeat p) := by
  have hdoors : ((List.range b.LOCK_PINS.length).flatMap
      (fun i : Nat => [Act.access .MAGNETIC_PINS i, .access .doorClosed i])).filterMap (aliveOf b) =
        [] := by
    rw [List.filterMap_eq_nil_iff]
    intro a ha
    obtain ⟨j, -, ha⟩ := List.mem_flatMap.mp ha
    simp only [List.mem_cons, List.not_mem_nil, or_false] at ha
    rcases ha with rfl | rfl
    · rfl
    · rfl
  intro st _
  unfold heartbeat
  by_cases hchecked : p.checked - st.lastHeartbeat ≥ 60000
  · have hbeat : timerBeat p st.timers = ((st.lastSensorPoll, p.stamped), [()]) := if_pos hchecked
    rw [if_pos hchecked, hbeat]
    refine ⟨trivial, rfl, ?_⟩
    rw [List.filterMap_append, hdoors, alive_transmit]
    rfl
  · have hbeat : timerBeat p st.timers = (st.timers, []) := if_neg hchecked
    rw [if_neg hchecked, hbeat]
    exact ⟨trivial, rfl, rfl⟩

/-- **One event of the loop** is to the timers what `timerEvent` says. -/
theorem handle_timers (b : Board) (e : LoopEvent) : OnTimers b (handle b e) (timerEvent e) := by
  cases e with
  | rs485 x => exact untimed_rs485Read b x
  | usb x => exact untimed_usbRead b x
  | poll p =>
    intro st _
    by_cases hdue : p.now - st.lastSensorPoll ≥ 100
    · have hhandle : handle b (.poll p) st =
          pollMagneticSensors b p { st with lastSensorPoll := p.now } := if_pos hdue
      have hevent : timerEvent (.poll p) st.timers = timerBeat p (p.now, st.lastHeartbeat) := if_pos hdue
      have hslots : OnTimers b (forEach (List.range b.LOCK_PINS.length) fun i =>
          seq (debounce p i) (detectEdge b p i)) nop :=
        .forEach_hidden fun i _ => .hidden_seq (untimed_debounce b p i) (untimed_detectEdge b p i)
      rw [hhandle, hevent]
      exact Refines.hidden_seq hslots (heartbeat_timers b p) { st with lastSensorPoll := p.now } trivial
    · have hhandle : handle b (.poll p) st = (st, []) := if_neg hdue
      have hevent : timerEvent (.poll p) st.timers = (st.timers, []) := if_neg hdue
      rw [hhandle, hevent]
      exact ⟨trivial, rfl, rfl⟩

/-- **A run of events** sends `ALIVE` as often as its polls do. -/
theorem timerEvents_run (es : List LoopEvent) (last beat : UInt32) :
    (forEach es timerEvent (last, beat)).2.length = (beatsMade beat (pollsMade last es)).length := by
  induction es generalizing last beat with
  | nil => rfl
  | cons e es ih =>
    cases e with
    | rs485 x => exact ih last beat
    | usb x => exact ih last beat
    | poll p =>
      by_cases hdue : p.now - last ≥ 100
      · have hpolls : pollsMade last (.poll p :: es) = p :: pollsMade p.now es := if_pos hdue
        have hevent : timerEvent (.poll p) (last, beat) = timerBeat p (p.now, beat) := if_pos hdue
        by_cases hchecked : p.checked - beat ≥ 60000
        · have hbeat : timerBeat p (p.now, beat) = ((p.now, p.stamped), [()]) := if_pos hchecked
          simp only [forEach, seq, hevent, hbeat, hpolls, beatsMade, if_pos hchecked]
          rw [List.singleton_append, List.length_cons, List.length_cons, ih]
        · have hbeat : timerBeat p (p.now, beat) = ((p.now, beat), []) := if_neg hchecked
          simp only [forEach, seq, hevent, hbeat, hpolls, beatsMade, if_neg hchecked, List.nil_append]
          exact ih p.now beat
      · have hpolls : pollsMade last (.poll p :: es) = pollsMade last es := if_neg hdue
        have hevent : timerEvent (.poll p) (last, beat) = ((last, beat), []) := if_neg hdue
        simp only [forEach, seq, hevent, hpolls, List.nil_append]
        exact ih last beat

theorem aliveCount_eq (b : Board) (acts : List Act) :
    aliveCount b acts = (acts.filterMap (aliveOf b)).length := by
  induction acts with
  | nil => rfl
  | cons a acts ih =>
    unfold aliveCount at ih ⊢
    cases a with
    | access t i => exact ih
    | effect e =>
      cases e with
      | digitalWrite pin level => exact ih
      | delay ms => exact ih
      | println t =>
        have hprinted : printed (effectsOf (.effect (.println t) :: acts)) =
            t :: printed (effectsOf acts) := rfl
        rw [hprinted, List.count_cons, List.filterMap_cons, ih]
        by_cases h : t = heartbeatJson b
        · simp [aliveOf, h]
        · simp [aliveOf, h]

theorem setup_timers (b : Board) (low : Nat → Bool) : OnTimers b (setup b low) nop := by
  refine Refines.hidden_seq (Refines.emit rfl) (Refines.seq_hidden (.forEach_hidden fun i _ => ?_) ?_)
  · exact fun _ _ => ⟨trivial, rfl, rfl⟩
  · exact .forEach_hidden fun _ _ => Refines.emit rfl

/-- **The timers of the sketch**: a run sends `ALIVE` just at the polls that are due for it. -/
theorem sketch_alive (b : Board) (low : Nat → Bool) (passes : List Pass) (current : List LoopEvent) :
    aliveCount b (sketchRun b low passes current).2 =
      (beatsMade 0 (pollsMade 0 (runEvents passes current))).length := by
  obtain ⟨-, -, hacts⟩ := (setup_timers b low).hidden_seq
    (Refines.forEach fun e (_ : e ∈ runEvents passes current) => handle_timers b e) .initial trivial
  rw [sketchRun_events, aliveCount_eq, hacts]
  exact timerEvents_run (runEvents passes current) 0 0

/-! ## Time -/

/-- The polls that `loop()` comes to. -/
def attempts (es : List LoopEvent) : List Poll :=
  es.filterMap (fun e => match e with
    | .poll p => some p
    | _ => none)

/-- `loop()` comes to its poll at a time: when it starts, when it looks whether `ALIVE` is due, and when
it stamps that. -/
structure Turn where
  poll : Poll
  start : Nat
  checked : Nat
  stamped : Nat
  start_le : start ≤ checked
  checked_le : checked ≤ stamped
  now_eq : poll.now = clock start
  checked_eq : poll.checked = clock checked
  stamped_eq : poll.stamped = clock stamped

/-- The turns at which the sensors are polled, and those at which `ALIVE` is sent. -/
def polled (ts : List Turn) : List Turn := fired Turn.start Turn.start 100 (clock 0) ts

def beats (ts : List Turn) : List Turn := fired Turn.checked Turn.stamped 60000 (clock 0) (polled ts)

theorem pollsMade_turns {es : List LoopEvent} {ts : List Turn} (h : attempts es = ts.map Turn.poll)
    (last : UInt32) :
    pollsMade last es = (fired Turn.start Turn.start 100 last ts).map Turn.poll := by
  induction es generalizing ts last with
  | nil =>
    rw [List.map_eq_nil_iff.mp h.symm]
    rfl
  | cons e es ih =>
    cases e with
    | rs485 x => exact ih h last
    | usb x => exact ih h last
    | poll p =>
      obtain ⟨t, ts, rfl, rfl, htail⟩ := List.map_eq_cons_iff.mp h.symm
      unfold pollsMade fired
      rw [t.now_eq]
      split
      · rw [List.map_cons, ih htail.symm]
      · exact ih htail.symm last

theorem beatsMade_turns (ts : List Turn) (last : UInt32) :
    beatsMade last (ts.map Turn.poll) =
      (fired Turn.checked Turn.stamped 60000 last ts).map Turn.poll := by
  induction ts generalizing last with
  | nil => rfl
  | cons t ts ih =>
    rw [List.map_cons]
    unfold beatsMade fired
    rw [t.checked_eq, t.stamped_eq]
    split
    · rw [List.map_cons, ih]
    · exact ih last

/-- The loop comes to its poll every `D` ms at least, and is through with it after as much. -/
structure Prompt (D : Nat) (ts : List Turn) : Prop where
  comes : Within Turn.start Turn.start D 0 ts
  takes : ∀ t ∈ ts, t.stamped ≤ t.start + D

/-- Polls that start every `B` look for `ALIVE` every `B + D`. -/
theorem within_checked {B D : Nat} {ts : List Turn} {s s' : Nat} (hs : s ≤ s')
    (h : Within Turn.start Turn.start B s ts) (htakes : ∀ t ∈ ts, t.stamped ≤ t.start + D) :
    Within Turn.checked Turn.checked (B + D) s' ts := by
  induction ts generalizing s s' with
  | nil => trivial
  | cons t ts ih =>
    obtain ⟨hcomes, h⟩ := h
    obtain ⟨ht, htakes⟩ := List.forall_mem_cons.mp htakes
    have := t.checked_le
    exact ⟨by omega, ih t.start_le h htakes⟩

theorem polled_spec {ts : List Turn} (horder : ts.Pairwise (fun x y => x.stamped ≤ y.start)) :
    (∀ t ∈ polled ts, t ∈ ts) ∧ (polled ts).Pairwise (fun x y => x.stamped ≤ y.checked) := by
  have hsub : (polled ts).Sublist ts := fired_sublist 100 (clock 0) ts
  exact ⟨fun t ht => hsub.subset ht,
    (horder.sublist hsub).imp fun {x y} h => h.trans y.start_le⟩

/-- **When `ALIVE` is sent**: never within 60 s of the one before it, or of the start, however often the
clock has wrapped; and if the loop comes round promptly, never more than 60.1 s, and the two rounds it
takes to see it, after that. -/
theorem alive_interval (b : Board) (low : Nat → Bool) (passes : List Pass) (current : List LoopEvent)
    {ts : List Turn} (hts : attempts (runEvents passes current) = ts.map Turn.poll)
    (horder : ts.Pairwise (fun x y => x.stamped ≤ y.start)) :
    aliveCount b (sketchRun b low passes current).2 = (beats ts).length ∧
      (∀ t ∈ beats ts, 60000 ≤ t.checked) ∧
      (beats ts).Pairwise (fun x y => x.stamped + 60000 ≤ y.checked) ∧
      ∀ D, Prompt D ts → 60100 + 2 * D ≤ 2 ^ 32 →
        Within Turn.checked Turn.stamped (60100 + 2 * D) 0 (beats ts) ∧
          (ts.getLast?.map Turn.start).getD 0 <
            ((beats ts).getLast?.map Turn.stamped).getD 0 + 60100 := by
  obtain ⟨hmem, hpolled⟩ := polled_spec horder
  have hchecked : ∀ t ∈ polled ts, t.checked ≤ t.stamped := fun t _ => t.checked_le
  have hzero : ∀ t ∈ polled ts, 0 ≤ t.checked := fun t _ => Nat.zero_le _
  refine ⟨?_, ?_⟩
  · rw [sketch_alive, pollsMade_turns hts, beatsMade_turns, List.length_map]
    rfl
  obtain ⟨hfirst, hapart⟩ := fired_apart 60000 hzero hchecked hpolled
  refine ⟨fun t ht => ?_, hapart, fun D hD hturn => ?_⟩
  · have := hfirst t ht
    rwa [Nat.zero_add] at this
  obtain ⟨hstarts, hsince⟩ := fired_within 100 (by decide) (D := D)
    (show 100 + D ≤ 2 ^ 32 by omega) (l := 0) (r := 0) (by decide)
    (fun t (_ : t ∈ ts) => Nat.zero_le _) (fun t _ => Nat.le_refl _)
    (horder.imp fun {x y} h => (x.start_le.trans x.checked_le).trans h) hD.comes
  have hchecks := within_checked (Nat.le_refl 0) hstarts fun t ht => hD.takes t (hmem t ht)
  obtain ⟨hbeats, hbeat⟩ := fired_within 60000 (by decide)
    (show 60000 + (100 + D + D) ≤ 2 ^ 32 by omega) (l := 0) (r := 0) (by decide) hzero hchecked hpolled
    hchecks
  refine ⟨?_, ?_⟩
  · have hbound : 60100 + 2 * D = (60000 : UInt32).toNat + ((100 : UInt32).toNat + D + D) := by
      show _ = 60000 + (100 + D + D)
      omega
    rw [hbound]
    exact hbeats
  · have hlast : ((polled ts).getLast?.map Turn.start).getD 0 ≤
        ((polled ts).getLast?.map Turn.checked).getD 0 := by
      cases (polled ts).getLast? with
      | none => exact Nat.le_refl _
      | some t => exact t.start_le
    have hsince' : (ts.getLast?.map Turn.start).getD 0 <
        ((polled ts).getLast?.map Turn.start).getD 0 + 100 := hsince
    have hbeat' : ((polled ts).getLast?.map Turn.checked).getD 0 <
        ((beats ts).getLast?.map Turn.stamped).getD 0 + 60000 := hbeat
    omega

/-- A turn that takes no time, with closed doors. -/
def turnAt (t : Nat) : Turn where
  poll := ⟨clock t, fun _ => true, fun _ => true, clock t, clock t⟩
  start := t
  checked := t
  stamped := t
  start_le := Nat.le_refl t
  checked_le := Nat.le_refl t
  now_eq := rfl
  checked_eq := rfl
  stamped_eq := rfl

/-- Three turns of the clock's first two minutes. -/
def threeTurns : List Turn := [turnAt 50000, turnAt 100000, turnAt 150000]

/-- The second one sends `ALIVE`, the third one comes too early. -/
theorem alive_interval_three :
    aliveCount (.uno 2 (by decide))
        (sketchRun (.uno 2 (by decide)) (fun _ => true) []
          (threeTurns.map fun t => .poll t.poll)).2 = (beats threeTurns).length ∧
      (beats threeTurns).length = 1 ∧
      Within Turn.checked Turn.stamped (60100 + 2 * 50000) 0 (beats threeTurns) := by
  obtain ⟨hcount, -, -, hprompt⟩ := alive_interval (.uno 2 (by decide)) (fun _ => true) []
    (threeTurns.map fun t => .poll t.poll) (show _ = threeTurns.map Turn.poll from rfl) (by decide)
  refine ⟨hcount, rfl, (hprompt 50000 ⟨?_, by decide⟩ (by decide)).1⟩
  exact ⟨by decide, by decide, by decide, trivial⟩

end SmartLocker.Firmware
