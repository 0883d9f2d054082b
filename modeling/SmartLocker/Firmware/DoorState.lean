import SmartLocker.Firmware.Debounce

/-!
# What the door events say

In a run of the sketch the events of a slot alternate from the state at boot on, and `doorClosed` is
the last of them; a sensor that has been steady for the debounce time is what `doorClosed` says.  The
slots share one loop, one clock and the bus, and yet the events of a slot depend on its own readings
only.  `TracksDoor` says all of this for a slot, `door_events` that it holds in every run.

The clock of a run of less than 2^32 ms goes forward.
-/

set_option autoImplicit false

namespace SmartLocker.Firmware

/-! ## One slot -/

namespace SlotState

/-- An event differs from the state before it, and is the state after it. -/
theorem event_cases (s : SlotState) (x : SlotPoll) :
    (s.event x = [] ∧ (s.next x).closed = s.closed) ∨
      (s.event x = [x.low] ∧ (s.next x).closed = x.low ∧ s.closed ≠ x.low) := by
  unfold event next
  cases hsettles : s.settles x with
  | false => exact Or.inl ⟨rfl, sample_closed s x⟩
  | true =>
    refine Or.inr ⟨rfl, rfl, ?_⟩
    have hedge : (x.low != s.closed) = true := by
      simp only [settles, rereads, Bool.and_eq_true] at hsettles
      exact hsettles.1.2
    exact Ne.symm (by simpa using hedge)

/-- **The events alternate**, the first one differs from the state before. -/
theorem events_alternate (s : SlotState) (xs : List SlotPoll) :
    List.IsChain (· ≠ ·) (s.closed :: s.events xs) := by
  induction xs generalizing s with
  | nil => exact .singleton _
  | cons x xs ih =>
    have htail := ih (s.next x)
    rcases s.event_cases x with ⟨hevent, hclosed⟩ | ⟨hevent, hclosed, hne⟩
    · rw [events, hevent, List.nil_append, ← hclosed]
      exact htail
    · rw [events, hevent, List.singleton_append, ← hclosed, List.isChain_cons_cons]
      exact ⟨hclosed ▸ hne, htail⟩

/-- **The last event is the state.** -/
theorem closed_after (s : SlotState) (xs : List SlotPoll) :
    (s.after xs).closed = (s.events xs).getLast?.getD s.closed := by
  induction xs generalizing s with
  | nil => rfl
  | cons x xs ih =>
    have htail := ih (s.next x)
    show ((s.next x).after xs).closed = (s.event x ++ (s.next x).events xs).getLast?.getD s.closed
    rw [htail]
    rcases s.event_cases x with ⟨hevent, hclosed⟩ | ⟨hevent, hclosed, -⟩
    · rw [hevent, hclosed, List.nil_append]
    · rw [hevent, hclosed, List.singleton_append, List.getLast?_cons]
      rfl

theorem after_append (s : SlotState) (xs ys : List SlotPoll) :
    s.after (xs ++ ys) = (s.after xs).after ys := List.foldl_append

theorem samples_append (s : SlotState) (xs ys : List SlotPoll) :
    s.samples (xs ++ ys) = s.samples xs ++ (s.after xs).samples ys := by
  induction xs generalizing s with
  | nil => rfl
  | cons x xs ih =>
    show x.low :: (if s.rereads x then [x.stillLow] else []) ++ (s.next x).samples (xs ++ ys) =
      x.low :: (if s.rereads x then [x.stillLow] else []) ++ (s.next x).samples xs ++
        ((s.next x).after xs).samples ys
    rw [ih, List.append_assoc]

theorem next_prev (s : SlotState) (x : SlotPoll) : (s.next x).prev = x.low := by
  unfold next
  split
  · exact sample_prev s x
  · exact sample_prev s x

theorem next_debounce (s : SlotState) (x : SlotPoll) :
    (s.next x).debounce = if x.low = s.prev then s.debounce else x.now := by
  have hsample : (s.sample x).debounce = if x.low = s.prev then s.debounce else x.now := by
    unfold sample
    by_cases h : x.low = s.prev
    · simp [h]
    · simp [h]
  unfold next
  split
  · exact hsample
  · exact hsample

/-- `lastDebounce` is not later than the polls. -/
theorem debounce_le {s : SlotState} {xs : List SlotPoll} {t : UInt32} (hs : s.debounce ≤ t)
    (hxs : ∀ x ∈ xs, x.now ≤ t) : (s.after xs).debounce ≤ t := by
  induction xs generalizing s with
  | nil => exact hs
  | cons x xs ih =>
    refine ih ?_ fun y hy => hxs y (List.mem_cons_of_mem _ hy)
    rw [next_debounce]
    split
    · exact hs
    · exact hxs x List.mem_cons_self

/-- A steady sensor does not restart the debounce. -/
theorem after_steady {s : SlotState} {xs : List SlotPoll} (h : ∀ v ∈ s.samples xs, v = s.prev) :
    (s.after xs).prev = s.prev ∧ (s.after xs).debounce = s.debounce := by
  induction xs generalizing s with
  | nil => exact ⟨rfl, rfl⟩
  | cons x xs ih =>
    have hlow : x.low = s.prev := h x.low (by simp [samples])
    have hnext : (s.next x).prev = s.prev := (next_prev s x).trans hlow
    have hdebounce : (s.next x).debounce = s.debounce := by rw [next_debounce, if_pos hlow]
    have htail := @ih (s.next x) (by
      intro v hv
      rw [hnext]
      exact h v (by simp [samples, hv]))
    exact ⟨htail.1.trans hnext, htail.2.trans hdebounce⟩

/-- A poll when the debounce is over: a steady sensor is the state of the door. -/
theorem closed_next {s : SlotState} {x : SlotPoll} (hlow : x.low = s.prev)
    (helapsed : x.now - s.debounce ≥ 200) (hstill : s.rereads x = true → x.stillLow = x.low) :
    (s.next x).closed = x.low := by
  have hsample : s.sample x = s := by
    unfold sample
    rw [if_neg (by simpa using hlow)]
  unfold next settles
  by_cases hclosed : x.low = s.closed
  · have hrereads : s.rereads x = false := by simp [rereads, hclosed]
    rw [hrereads, hsample]
    exact hclosed.symm
  · have hrereads : s.rereads x = true := by
      rw [rereads, hsample]
      simp [helapsed, hclosed]
    rw [hrereads, hstill hrereads]
    simp

/-- **A steady sensor** for 200 ms: from the poll `x` to the poll `y` every sample is `v`. -/
theorem closed_steady {s : SlotState} {x y : SlotPoll} {xs : List SlotPoll} {v : Bool}
    (hs : s.debounce ≤ x.now) (hxy : x.now.toNat + 200 ≤ y.now.toNat)
    (h : ∀ w ∈ s.samples (x :: xs ++ [y]), w = v) : (s.after (x :: xs ++ [y])).closed = v := by
  have hsplit : s.samples (x :: xs ++ [y]) =
      x.low :: (if s.rereads x then [x.stillLow] else []) ++
        ((s.next x).samples xs ++ ((s.next x).after xs).samples [y]) := by
    rw [List.cons_append, samples, samples_append]
  rw [hsplit] at h
  have hprev : (s.next x).prev = v := (next_prev s x).trans (h x.low (by simp))
  have hsteady := @after_steady (s.next x) xs (by
    intro w hw
    rw [hprev]
    exact h w (by simp [hw]))
  have hlow : y.low = v := h y.low (by simp [samples])
  have hdebounce : (s.next x).debounce ≤ x.now := by
    rw [next_debounce]
    split
    · exact hs
    · exact UInt32.le_refl _
  have helapsed : y.now - ((s.next x).after xs).debounce ≥ 200 := by
    rw [hsteady.2]
    have hle := UInt32.le_iff_toNat_le.mp hdebounce
    have hle' : (s.next x).debounce ≤ y.now := UInt32.le_iff_toNat_le.mpr (by omega)
    rw [ge_iff_le, UInt32.le_iff_toNat_le, UInt32.toNat_sub_of_le _ _ hle']
    show 200 ≤ _
    omega
  have hfinal : s.after (x :: xs ++ [y]) = ((s.next x).after xs).next y := by
    rw [List.cons_append]
    exact after_append (s.next x) xs [y]
  rw [hfinal, ← hlow]
  refine closed_next (hlow.trans (hsteady.1.trans hprev).symm) helapsed fun hrereads => ?_
  rw [hlow]
  exact h y.stillLow (by simp [samples, hrereads])

end SlotState

/-! ## The sketch -/

/-- The polls of a run. -/
def polls (passes : List Pass) (current : List LoopEvent) : List Poll :=
  pollsMade 0 (runEvents passes current)

/-- What holds of slot `i` after a run. -/
structure TracksDoor (b : Board) (low : Nat → Bool) (passes : List Pass) (current : List LoopEvent)
    (i : Nat) : Prop where
  /-- from the state at boot on -/
  alternates :
    List.IsChain (· ≠ ·) (low i :: doorEvents b i (sketchRun b low passes current).2)
  state : (sketchRun b low passes current).1.doorClosed.getD i false =
    (doorEvents b i (sketchRun b low passes current).2).getLast?.getD (low i)
  /-- the other slots and the commands may be others -/
  independent : ∀ low' passes' current', low' i = low i →
    slotPolls i (polls passes' current') = slotPolls i (polls passes current) →
    doorEvents b i (sketchRun b low' passes' current').2 =
      doorEvents b i (sketchRun b low passes current).2
  /-- every sample from the poll `p` to the last one, second readings included, was `v` -/
  tracks : (polls passes current).Pairwise (fun p q => p.now ≤ q.now) →
    ∀ before p between q v, polls passes current = before ++ (p :: between ++ [q]) →
      p.now.toNat + 200 ≤ q.now.toNat →
      (∀ w ∈ ((bootSlot (low i)).after (slotPolls i before)).samples
        (slotPolls i (p :: between ++ [q])), w = v) →
      (sketchRun b low passes current).1.doorClosed.getD i false = v

/-- **Door events** of every slot, in every run: they alternate, `doorClosed` is the last one, they are
the slot's own, and a steady sensor is what `doorClosed` says. -/
theorem door_events (b : Board) (low : Nat → Bool) (passes : List Pass) (current : List LoopEvent)
    (i : Nat) (hi : i < b.LOCK_PINS.length) : TracksDoor b low passes current i := by
  obtain ⟨hstate, hevents⟩ := sketch_slot b low passes current hi
  have hclosed : (sketchRun b low passes current).1.doorClosed.getD i false =
      ((bootSlot (low i)).after (slotPolls i (polls passes current))).closed :=
    congrArg SlotState.closed hstate
  constructor
  · rw [hevents]
    exact (bootSlot (low i)).events_alternate _
  · rw [hclosed, hevents]
    exact (bootSlot (low i)).closed_after _
  · intro low' passes' current' hlow hpolls
    rw [(sketch_slot b low' passes' current' hi).2, hevents, hlow]
    exact congrArg _ hpolls
  · intro hclock before p between q v hsplit hlong hsamples
    rw [hsplit, List.pairwise_append] at hclock
    rw [hclosed, hsplit, slotPolls, List.map_append, SlotState.after_append]
    have hlow : ∀ x ∈ slotPolls i before, x.now ≤ p.now := by
      intro x hx
      obtain ⟨r, hr, rfl⟩ := List.mem_map.mp hx
      exact hclock.2.2 r hr p (by simp)
    have hdebounce : ((bootSlot (low i)).after (slotPolls i before)).debounce ≤ p.now :=
      SlotState.debounce_le (UInt32.le_iff_toNat_le.mpr (Nat.zero_le _)) hlow
    simp only [slotPolls, List.map_append, List.map_cons, List.map_nil] at hsamples ⊢
    exact SlotState.closed_steady hdebounce hlong hsamples

/-- A poll at `now` that finds the door of slot 0 open. -/
def openPoll (now : UInt32) : Poll where
  now := now
  low := fun _ => false
  stillLow := fun _ => false
  checked := now
  stamped := now

/-- The door of slot 0, closed at boot, is open from 100 ms on. -/
def openDoorRun : List LoopEvent := [.poll (openPoll 100), .poll (openPoll 200), .poll (openPoll 300)]

/-- `door_events` at an open door. -/
theorem door_events_open :
    (sketchRun (.uno 2 (by decide)) (fun _ => true) [] openDoorRun).1.doorClosed.getD 0 false =
      false := by
  refine (door_events (.uno 2 (by decide)) (fun _ => true) [] openDoorRun 0 (by decide)).tracks
    (by decide) [] (openPoll 100) [openPoll 200] (openPoll 300) false rfl (by decide) (by decide)

end SmartLocker.Firmware
