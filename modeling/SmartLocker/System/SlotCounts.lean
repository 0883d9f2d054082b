import SmartLocker.System.Discovery

/-!
# Slot counts found by discovery

`scan_slaves` as the only caller on a bus of controllers: whatever they print, and in whatever order it
comes in.  The count is in the reply to `PING` only, but `ALIVE` and late replies to slot commands are
taken for an answer as well, and then `MAX_SLOTS` stands in.

`State` keeps beside the scan which frame each dict was made of: the one the listener holds, the stored
one, and the one that the call in progress took (`Tracked`).  `slot_counts_iff` says that a scan reports
the true counts just if no slave was answered for by a frame that misleads.
-/

set_option autoImplicit false

namespace SmartLocker.System.SlotCounts

open Lib Lib.Machine Lib.Python SmartLocker.Firmware SmartLocker.Gateway SerialThreads Discovery

/-! ## Frames of the bus -/

/-- What a board prints on the bus. -/
inductive Frame (b : Board) where
  /-- The reply to a line that the board read, however long ago. -/
  | reply (w : Readings) (rawCmd : List Char) (r : Firmware.Request) (q : Reply)
      (hr : readRequest b.SLAVE_ID rawCmd = some r) (hq : replyTo b w r = some q)
  | alive
  | door (slot : Nat) (hslot : slot < b.LOCK_PINS.length) (closed : Bool)

variable {b : Board}

def eventName (closed : Bool) : String := if closed then "DOOR_CLOSED" else "DOOR_OPENED"

def Frame.text : Frame b → List Char
  | .reply _ _ _ q _ _ => q.text b
  | .alive => heartbeatJson b
  | .door slot _ closed => doorEventText b slot (eventName closed).toList

/-- These are all the frames of a board. -/
theorem frame_of_emits {t : List Char} (h : Emits b t) : ∃ f : Frame b, f.text = t := by
  cases h with
  | reply w rawCmd h =>
    obtain ⟨r, q, hr, hq, rfl⟩ := printed_processCommand h
    exact ⟨.reply w rawCmd r q hr hq, rfl⟩
  | door slot hslot closed => exact ⟨.door slot hslot closed, by cases closed <;> rfl⟩
  | alive => exact ⟨.alive, rfl⟩

/-- The dict that is stored when the frame is taken for an answer; an event of a door never is. -/
def Frame.response : Frame b → Dict
  | .reply _ _ _ q _ _ => replyData b q
  | .alive => aliveResponse (aliveData b)
  | .door slot _ closed => doorData b slot (eventName closed).toList

/-- The frame reads as a success. -/
def Frame.answers : Frame b → Bool
  | .reply _ _ _ q _ _ => decide (q.result = "OK".toList)
  | .alive => true
  | .door _ _ _ => false

def Frame.isPing : Frame b → Bool
  | .reply _ _ .ping _ _ _ => true
  | _ => false

/-- The number of slots that the frame is taken to tell. -/
def Frame.count (f : Frame b) : Int := if f.isPing then b.NUM_SLOTS else MAX_SLOTS

variable (pf : List Char → PyFloat)

/-- What the listener makes of the frame. -/
theorem responseOf_frame (f : Frame b) {slave : Json} {d : Dict}
    (h : responseOf pf f.text = some (slave, d)) : d = f.response := by
  cases f with
  | reply w rawCmd r q hr hq =>
    rw [Frame.text, responseOf_reply pf hr hq] at h
    exact (Prod.mk.inj (Option.some.inj h)).2.symm
  | alive =>
    simp only [responseOf, Frame.text, loads_alive, handle_alive, Option.some.injEq, Prod.mk.injEq] at h
    exact h.2.symm
  | door slot hslot closed =>
    have hname : eventName closed = "DOOR_CLOSED" ∨ eventName closed = "DOOR_OPENED" := by
      cases closed with
      | true => exact Or.inl rfl
      | false => exact Or.inr rfl
    have hlen : (eventName closed).toList.length ≤ 11 ∧
        ∀ c ∈ (eventName closed).toList, Unescaped c := by
      cases closed <;> decide
    have hint : -32768 ≤ (slot : Int) ∧ (slot : Int) ≤ 32767 := by
      have := b.slots_le
      omega
    simp only [responseOf, Frame.text, loads_door pf b hint hlen.1 hlen.2, handle_door b slot hname,
      reduceCtorEq] at h

theorem response_ne_nil (f : Frame b) : f.response ≠ [] := by
  cases f with
  | reply w rawCmd r q hr hq =>
    show replyData b q ≠ []
    unfold replyData replyFields
    split <;> simp
  | alive => simp [Frame.response, aliveResponse]
  | door slot hslot closed => simp [Frame.response, doorData, doorFields]

theorem isOk_response (f : Frame b) : isOk f.response = f.answers := by
  cases f with
  | reply w rawCmd r q hr hq => exact isOk_replyData b q
  | alive => simp [isOk, Frame.response, aliveResponse, Frame.answers]
  | door slot hslot closed => simp [isOk, Frame.response, doorData_eq, Frame.answers]

theorem slave_response (f : Frame b) (dflt : Json) :
    getD f.response "slave" dflt = .int b.SLAVE_ID := by
  cases f with
  | reply w rawCmd r q hr hq =>
    show getD (replyData b q) "slave" dflt = .int b.SLAVE_ID
    unfold replyData replyFields
    split <;> simp [getD, entry, Field.json]
  | alive => simp [getD, Frame.response, aliveResponse, slaveOf, aliveData_eq]
  | door slot hslot closed => simp [getD, Frame.response, doorData_eq]

theorem slots_response {f : Frame b} (h : f.answers = true) :
    getD f.response "slots" (.int MAX_SLOTS) = .int f.count := by
  cases f with
  | reply w rawCmd r q hr hq =>
    cases r with
    | ping =>
      cases hq
      simp [Frame.response, replyData, replyFields, getD, entry, Frame.count, Frame.isPing, Field.json]
    | slotAction a k =>
      simp only [Frame.answers, decide_eq_true_eq] at h
      simp only [replyTo] at hq
      -- a success has a slot in range, so it is not the sentinel
      split at hq
      · cases hq
        simp at h
      rename_i hrange
      split at hq
      · cases hq
        have hk : k ≠ -1 := by omega
        simp [Frame.response, replyData, replyFields, getD, entry, Frame.count, Frame.isPing, hk]
      · cases hq
  | alive => simp [getD, Frame.response, aliveResponse, aliveData_eq, Frame.count, Frame.isPing]
  | door slot hslot closed => cases h

/-! ## The scan on a bus -/

/-- The controllers on the bus, each with an id of its own. -/
structure Bus where
  boards : List Board
  distinct : (boards.map Board.SLAVE_ID).Nodup

variable {bus : Bus}

/-- A frame of one of them. -/
structure Sent (bus : Bus) where
  board : Board
  present : board ∈ bus.boards
  frame : Frame board

def Sent.text (m : Sent bus) : List Char := m.frame.text

def Sent.response (m : Sent bus) : Dict := m.frame.response

/-- The scan, and what the dicts on their way were made of: the one the listener holds, the stored one,
and the one that the call in progress took. -/
structure State (bus : Bus) where
  scan : Discovery.State
  held : Option (Sent bus)
  stored : Option (Sent bus)
  taken : Option (Sent bus)

def State.init (bus : Bus) (range_start range_end : Int) : State bus :=
  ⟨.init range_start range_end, none, none, none⟩

/-- The steps of the scan, of its calls, and of the listener. -/
inductive Event (bus : Bus) where
  | ask
  | call (n : Nat) (e : SerialThreads.CallStep)
  | recv (m : Sent bus)
  | compare
  | store
  | judge

def Event.plain : Event bus → Discovery.Event
  | .ask => .ask
  | .call n e => .serial (.call n e)
  | .recv m => .serial (.recv m.text)
  | .compare => .serial .compare
  | .store => .serial .store
  | .judge => .judge

def State.follow (s : State bus) : Event bus → State bus
  | .ask => { s with stored := none, taken := none }
  | .call _ .take => { s with stored := none, taken := s.stored }
  | .recv m => { s with held := some m }
  | .store => { s with stored := s.held }
  | _ => s

def step (s : State bus) (e : Event bus) : Option (State bus) :=
  match Discovery.step pf s.scan e.plain with
  | some scan => some { s.follow e with scan := scan }
  | none => none

/-! ## Where the dicts come from -/

/-- The result that a call has or has not yet, and the frame that it took. -/
def Matches (taken : Option (Sent bus)) : Option Dict → Prop
  | none => taken = none
  | some res =>
    match taken with
    | some m => res = m.response
    | none => isOk res = false

/-- What ties the frames to the scan. -/
structure Tracked (s : State bus) : Prop where
  looked : ∀ slave d, s.scan.serial.listener = .looked slave d →
    ∃ m, s.held = some m ∧ d = m.response
  passed : ∀ d, s.scan.serial.listener = .passed d → ∃ m, s.held = some m ∧ d = m.response
  stored : s.scan.serial.response_data = s.stored.map Sent.response
  asking : ∀ n, s.scan.scan.asking = some n → n + 1 = s.scan.serial.calls.length
  others : ∀ n c, s.scan.serial.calls[n]? = some c → s.scan.scan.asking ≠ some n →
    ∃ res, c.place = .returned res
  current : ∀ n c, s.scan.scan.asking = some n → s.scan.serial.calls[n]? = some c →
    Matches s.taken c.place.result?

theorem tracked_init (range_start range_end : Int) : Tracked (.init bus range_start range_end) where
  looked slave d h := by cases h
  passed d h := by cases h
  stored := rfl
  asking n h := by cases h
  others n c h := by cases h
  current n c h := by cases h

/-- What the call in progress takes. -/
theorem Tracked.take {s : State bus} (h : Tracked s) (c : SerialThreads.Call) :
    Matches s.stored (some (s.scan.serial.taken c)) := by
  unfold SerialThreads.State.taken
  rw [h.stored]
  cases hstored : s.stored with
  | none => exact isOk_timeout _ _
  | some m =>
    have hne : m.response ≠ [] := response_ne_nil m.frame
    simp only [Option.map_some, List.isEmpty_iff, hne, if_false]
    rfl

theorem returned_stuck {st : SerialThreads.State} {c : SerialThreads.Call}
    {e : SerialThreads.CallStep} {res : Dict} (h : c.place = .returned res) : c.advance st e = none := by
  cases e with
  | _ => simp only [SerialThreads.Call.advance, h]

/-- Only a wake-up takes a frame. -/
theorem follow_call {s : State bus} {n : Nat} {e : SerialThreads.CallStep} (h : e ≠ .take) :
    s.follow (.call n e) = s := by
  cases e with
  | take => exact absurd rfl h
  | _ => rfl

/-- The frame after a step of the call in progress. -/
theorem Tracked.advance {s : State bus} (h : Tracked s) (n : Nat) {c : SerialThreads.Call}
    {e : SerialThreads.CallStep} {place : Place} (hc : Matches s.taken c.place.result?)
    (hplace : c.advance s.scan.serial e = some place) :
    Matches (s.follow (.call n e)).taken place.result? := by
  rcases advance_spec hplace with ⟨hkept, hsame⟩ | ⟨hkept, hnone, d, hd, hnot⟩ | ⟨rfl, htaken⟩
  · rw [hsame, follow_call hkept]
    exact hc
  · rw [hnone] at hc
    have hnobody : s.taken = none := hc
    rw [hd, follow_call hkept]
    simp only [Matches, hnobody, hnot]
  · rw [htaken]
    exact h.take c

theorem step_spec {s s' : State bus} {e : Event bus} (hs : step pf s e = some s') :
    ∃ scan, Discovery.step pf s.scan e.plain = some scan ∧ s' = { s.follow e with scan := scan } := by
  unfold step at hs
  split at hs
  · rename_i scan hscan
    cases hs
    exact ⟨scan, hscan, rfl⟩
  · cases hs

theorem serial_spec {s scan : Discovery.State} {e : SerialThreads.Event}
    (hs : Discovery.step pf s (.serial e) = some scan) :
    ∃ serial, SerialThreads.step pf s.serial e = some serial ∧ scan = { s with serial := serial } := by
  simp only [Discovery.step] at hs
  split at hs
  · rename_i serial hserial
    cases hs
    exact ⟨serial, hserial, rfl⟩
  · cases hs

theorem Tracked.ask {s s' : State bus} (h : Tracked s) (hs : step pf s .ask = some s') :
    Tracked s' := by
  obtain ⟨scan, hscan, rfl⟩ := step_spec pf hs
  obtain ⟨hguard, heq⟩ := Option.ite_none_right_eq_some.mp hscan
  cases heq
  rw [Bool.and_eq_true, Option.isNone_iff_eq_none] at hguard
  refine ⟨h.looked, h.passed, rfl, ?_, ?_, ?_⟩
  · intro n hn
    cases hn
    simp [SerialThreads.State.start]
  · intro n c hc hn
    rcases List.mem_append.mp (List.mem_of_getElem? hc) with hold | hnew
    · obtain ⟨k, hk⟩ := List.getElem?_of_mem hold
      exact h.others k c hk (by rw [hguard.1]; exact fun hnone => by cases hnone)
    · -- the new call is the one in progress
      obtain hlt | hge := Nat.lt_or_ge n s.scan.serial.calls.length
      · rw [SerialThreads.State.start, List.getElem?_append_left hlt] at hc
        exact h.others n c hc (by rw [hguard.1]; exact fun hnone => by cases hnone)
      · have hlast := (List.getElem?_eq_some_iff.mp hc).1
        rw [SerialThreads.State.start, List.length_append, List.length_singleton] at hlast
        exact absurd (congrArg some (by omega)) hn
  · intro n c hn hc
    cases hn
    simp only [SerialThreads.State.start, List.getElem?_append_right (Nat.le_refl _), Nat.sub_self,
      List.getElem?_cons_zero, Option.some.injEq] at hc
    rw [← hc]
    rfl

theorem Tracked.call {s s' : State bus} (h : Tracked s) {n : Nat} {e : SerialThreads.CallStep}
    (hs : step pf s (.call n e) = some s') : Tracked s' := by
  obtain ⟨scan, hscan, rfl⟩ := step_spec pf hs
  obtain ⟨serial, hserial, rfl⟩ := serial_spec pf hscan
  obtain ⟨c, place, hc, hplace, rfl⟩ := call_cases hserial
  have hasking : s.scan.scan.asking = some n := by
    refine not_not.mp fun hnot => ?_
    obtain ⟨res, hres⟩ := h.others n c hc hnot
    rw [returned_stuck hres] at hplace
    cases hplace
  have hmatch := h.advance n (h.current n c hasking hc) hplace
  have hlen : n < s.scan.serial.calls.length := (List.getElem?_eq_some_iff.mp hc).1
  have hlistener : (s.scan.serial.share e).listener = s.scan.serial.listener := by
    cases e with
    | _ => rfl
  have hheld : (s.follow (.call n e)).held = s.held := by
    cases e with
    | _ => rfl
  refine ⟨?_, ?_, ?_, ?_, ?_, ?_⟩
  · intro slave d hl
    dsimp only at hl ⊢
    rw [hlistener] at hl
    rw [hheld]
    exact h.looked slave d hl
  · intro d hl
    dsimp only at hl ⊢
    rw [hlistener] at hl
    rw [hheld]
    exact h.passed d hl
  · cases e with
    | take => rfl
    | _ => exact h.stored
  · intro k hk
    rw [List.length_set]
    exact h.asking k hk
  · intro k c' hk hne
    dsimp only at hk hne
    have hkn : n ≠ k := fun heq => hne (heq ▸ hasking)
    rw [List.getElem?_set_ne hkn] at hk
    exact h.others k c' hk hne
  · intro k c' hk hc'
    dsimp only at hk hc'
    rw [hasking] at hk
    cases hk
    rw [List.getElem?_set_self hlen, Option.some.injEq] at hc'
    rw [← hc']
    exact hmatch

/-- The listener has no frame. -/
theorem Tracked.recv {s s' : State bus} (h : Tracked s) {m : Sent bus}
    (hs : step pf s (.recv m) = some s') : Tracked s' := by
  obtain ⟨scan, hscan, rfl⟩ := step_spec pf hs
  obtain ⟨serial, hserial, rfl⟩ := serial_spec pf hscan
  obtain ⟨hidle, rfl | ⟨slave, d, hresponse, rfl⟩⟩ := recv_cases hserial
  · exact ⟨fun slave d hl => (by rw [hidle] at hl; cases hl), fun d hl => (by rw [hidle] at hl; cases hl),
      h.stored, h.asking, h.others, h.current⟩
  · refine ⟨?_, fun d hl => (by cases hl), h.stored, h.asking, h.others, h.current⟩
    intro slave' d' hl
    cases hl
    exact ⟨m, rfl, responseOf_frame pf m.frame hresponse⟩

theorem Tracked.compare {s s' : State bus} (h : Tracked s) (hs : step pf s .compare = some s') :
    Tracked s' := by
  obtain ⟨scan, hscan, rfl⟩ := step_spec pf hs
  obtain ⟨serial, hserial, rfl⟩ := serial_spec pf hscan
  obtain ⟨slave, d, hlooked, rfl | rfl⟩ := compare_cases hserial
  · refine ⟨fun slave d hl => (by cases hl), ?_, h.stored, h.asking, h.others, h.current⟩
    intro d' hl
    cases hl
    exact h.looked slave d hlooked
  · exact ⟨fun slave d hl => (by cases hl), fun d hl => (by cases hl), h.stored, h.asking, h.others,
      h.current⟩

theorem Tracked.store {s s' : State bus} (h : Tracked s) (hs : step pf s .store = some s') :
    Tracked s' := by
  obtain ⟨scan, hscan, rfl⟩ := step_spec pf hs
  obtain ⟨serial, hserial, rfl⟩ := serial_spec pf hscan
  obtain ⟨d, hpassed, rfl⟩ := store_cases hserial
  obtain ⟨m, hheld, rfl⟩ := h.passed d hpassed
  refine ⟨fun slave d hl => (by cases hl), fun d hl => (by cases hl), ?_, ?_, ?_, ?_⟩
  · simp only [State.follow, SerialThreads.State.put, hheld, Option.map_some]
  · intro n hn
    simp only [SerialThreads.State.put, List.length_map]
    exact h.asking n hn
  · intro n c hc hn
    simp only [SerialThreads.State.put, List.getElem?_map, Option.map_eq_some_iff] at hc
    obtain ⟨c, hc, rfl⟩ := hc
    obtain ⟨res, hres⟩ := h.others n c hc hn
    exact ⟨res, by simp only [SerialThreads.Call.wake, hres]⟩
  · intro n c hn hc
    simp only [SerialThreads.State.put, List.getElem?_map, Option.map_eq_some_iff] at hc
    obtain ⟨c, hc, rfl⟩ := hc
    rw [wake_result]
    exact h.current n c hn hc

/-- The call that the scan judges has returned, and its result has the frame that it took. -/
theorem judge_spec {s s' : State bus} (h : Tracked s) (hs : step pf s .judge = some s') :
    ∃ n c res, s.scan.scan.asking = some n ∧ s.scan.serial.calls[n]? = some c ∧
      c.place = .returned res ∧ Matches s.taken (some res) ∧
      s' = { s with scan := { s.scan with scan := s.scan.scan.judge res } } := by
  obtain ⟨scan, hscan, rfl⟩ := step_spec pf hs
  simp only [Event.plain, Discovery.step] at hscan
  split at hscan
  · rename_i c hcall
    obtain ⟨n, hn, hc⟩ := Option.bind_eq_some_iff.mp hcall
    split at hscan
    · rename_i res hplace
      cases hscan
      have hmatch := h.current n c hn hc
      rw [hplace] at hmatch
      exact ⟨n, c, res, hn, hc, hplace, hmatch, rfl⟩
    · cases hscan
  · cases hscan

theorem Tracked.judge {s s' : State bus} (h : Tracked s) (hs : step pf s .judge = some s') :
    Tracked s' := by
  obtain ⟨n, c, res, hn, hc, hplace, -, rfl⟩ := judge_spec pf h hs
  refine ⟨h.looked, h.passed, h.stored, fun k hk => (by cases hk), ?_, fun k c' hk => (by cases hk)⟩
  intro k c' hk _
  dsimp only at hk
  by_cases heq : k = n
  · rw [heq, hc, Option.some.injEq] at hk
    exact ⟨res, hk ▸ hplace⟩
  · refine h.others k c' hk ?_
    rw [hn]
    exact fun hsome => heq (Option.some.inj hsome).symm

/-- **One step** keeps it. -/
theorem tracked_step {s s' : State bus} {e : Event bus} (h : Tracked s) (hs : step pf s e = some s') :
    Tracked s' := by
  cases e with
  | ask => exact h.ask pf hs
  | call n e => exact h.call pf hs
  | recv m => exact h.recv pf hs
  | compare => exact h.compare pf hs
  | store => exact h.store pf hs
  | judge => exact h.judge pf hs

/-! ## The counts -/

/-- Every entry has the number of slots of its slave. -/
def Accurate (bus : Bus) (found : List Found) : Prop :=
  ∀ f ∈ found, ∃ b ∈ bus.boards, b.SLAVE_ID = f.slaveId ∧ f.availableSlots = .int b.NUM_SLOTS

/-- A success without a count from the asked slave, which has not the default number of slots; or one of
a slave `-1`, which `scan_slaves` takes for the asked one, with another count. -/
def Sent.Misleads (m : Sent bus) (sid : Int) : Prop :=
  m.frame.answers = true ∧
    ((m.board.SLAVE_ID = sid ∧ m.frame.isPing = false ∧ m.board.NUM_SLOTS ≠ MAX_SLOTS) ∨
      (m.board.SLAVE_ID = -1 ∧ sid ≠ -1 ∧
        ∀ b ∈ bus.boards, b.SLAVE_ID = sid → b.NUM_SLOTS ≠ m.frame.count))

/-- When the scan judges an answer, it is not that of a frame which misleads. -/
def Candid (s : State bus) (e : Event bus) : Prop :=
  e = .judge → ∀ m, s.taken = some m → ¬ m.Misleads s.scan.scan.sid

theorem Bus.board_unique (bus : Bus) {b c : Board} (hb : b ∈ bus.boards) (hc : c ∈ bus.boards)
    (h : b.SLAVE_ID = c.SLAVE_ID) : b = c :=
  List.inj_on_of_nodup_map bus.distinct hb hc h

theorem accurate_append {found : List Found} {f : Found} :
    Accurate bus (found ++ [f]) ↔ Accurate bus found ∧
      ∃ b ∈ bus.boards, b.SLAVE_ID = f.slaveId ∧ f.availableSlots = .int b.NUM_SLOTS := by
  simp only [Accurate, List.forall_mem_append, List.forall_mem_singleton]

theorem misleads_own {m : Sent bus} {sid : Int} (hanswers : m.frame.answers = true)
    (hown : m.board.SLAVE_ID = sid) :
    m.Misleads sid ↔ m.frame.isPing = false ∧ m.board.NUM_SLOTS ≠ MAX_SLOTS := by
  constructor
  · rintro ⟨-, ⟨-, h⟩ | ⟨hminus, hsid, -⟩⟩
    · exact h
    · exact absurd (hown.symm.trans hminus) hsid
  · exact fun h => ⟨hanswers, Or.inl ⟨hown, h⟩⟩

theorem misleads_minus {m : Sent bus} {sid : Int} (hanswers : m.frame.answers = true)
    (hminus : m.board.SLAVE_ID = -1) (hsid : sid ≠ -1) :
    m.Misleads sid ↔ ∀ b ∈ bus.boards, b.SLAVE_ID = sid → b.NUM_SLOTS ≠ m.frame.count := by
  constructor
  · rintro ⟨-, ⟨hown, -⟩ | ⟨-, -, h⟩⟩
    · exact absurd (hown.symm.trans hminus) hsid
    · exact h
  · exact fun h => ⟨hanswers, Or.inr ⟨hminus, hsid, h⟩⟩

/-- An accepted answer tells the count of the asked slave unless it misleads. -/
theorem told_iff {m : Sent bus} {sid : Int} (hanswers : m.frame.answers = true)
    (hid : m.board.SLAVE_ID = sid ∨ m.board.SLAVE_ID = -1) :
    (∃ b ∈ bus.boards, b.SLAVE_ID = sid ∧ Json.int m.frame.count = .int b.NUM_SLOTS) ↔
      ¬ m.Misleads sid := by
  by_cases hown : m.board.SLAVE_ID = sid
  · have hboard : (∃ b ∈ bus.boards, b.SLAVE_ID = sid ∧ Json.int m.frame.count = .int b.NUM_SLOTS) ↔
        m.frame.count = m.board.NUM_SLOTS := by
      constructor
      · rintro ⟨b, hb, hsid, hcount⟩
        have hsame := bus.board_unique hb m.present (hsid.trans hown.symm)
        exact (Json.int.inj hcount).trans (congrArg Board.NUM_SLOTS hsame)
      · exact fun hcount => ⟨m.board, m.present, hown, congrArg Json.int hcount⟩
    rw [hboard, misleads_own hanswers hown, Frame.count]
    cases m.frame.isPing with
    | true => simp
    | false => simp [eq_comm]
  · have hminus := hid.resolve_left hown
    have hsid : sid ≠ -1 := fun h => hown (hminus.trans h.symm)
    rw [misleads_minus hanswers hminus hsid]
    constructor
    · rintro ⟨b, hb, hid, hcount⟩ hnone
      exact hnone b hb hid (Json.int.inj hcount).symm
    · intro hnot
      by_contra hnone
      exact hnot fun b hb hid hcount => hnone ⟨b, hb, hid, congrArg Json.int hcount.symm⟩

/-- What the judgement does to the counts. -/
theorem accurate_judge {s : State bus} {res : Dict} (hmatch : Matches s.taken (some res)) :
    Accurate bus (s.scan.scan.judge res).found ↔ Accurate bus s.scan.scan.found ∧
      ∀ m, s.taken = some m → ¬ m.Misleads s.scan.scan.sid := by
  cases htaken : s.taken with
  | none =>
    rw [htaken] at hmatch
    have hnot : isOk res = false := hmatch
    simp [Discovery.Scan.judge, hnot]
  | some m =>
    rw [htaken] at hmatch
    obtain rfl : res = m.response := hmatch
    have hslave := slave_response m.frame (.int (-1))
    simp only [Discovery.Scan.judge, Sent.response, isOk_response, hslave, pyEq_int, Option.some.injEq,
      forall_eq', Bool.and_eq_true, Bool.or_eq_true, decide_eq_true_eq]
    split
    · rename_i haccepted
      rw [accurate_append, slots_response haccepted.1, told_iff haccepted.1 haccepted.2]
    · rename_i hrejected
      refine (and_iff_left ?_).symm
      rintro ⟨hanswers, ⟨hown, -⟩ | ⟨hminus, -⟩⟩
      · exact hrejected ⟨hanswers, Or.inl hown⟩
      · exact hrejected ⟨hanswers, Or.inr hminus⟩

/-- **One step**: the counts stay true just if the step is candid. -/
theorem accurate_step {s s' : State bus} {e : Event bus} (h : Tracked s) (hs : step pf s e = some s') :
    Accurate bus s'.scan.scan.found ↔ Accurate bus s.scan.scan.found ∧ Candid s e := by
  have hother : e ≠ .judge → s'.scan.scan.found = s.scan.scan.found →
      (Accurate bus s'.scan.scan.found ↔ Accurate bus s.scan.scan.found ∧ Candid s e) := by
    intro hne hfound
    rw [hfound]
    exact (and_iff_left fun heq => absurd heq hne).symm
  have hserial : ∀ {e' : SerialThreads.Event}, e.plain = .serial e' → e ≠ .judge →
      (Accurate bus s'.scan.scan.found ↔ Accurate bus s.scan.scan.found ∧ Candid s e) := by
    intro e' hplain hne
    obtain ⟨scan, hscan, rfl⟩ := step_spec pf hs
    rw [hplain] at hscan
    obtain ⟨serial, -, rfl⟩ := serial_spec pf hscan
    exact hother hne rfl
  cases e with
  | ask =>
    obtain ⟨scan, hscan, rfl⟩ := step_spec pf hs
    obtain ⟨-, heq⟩ := Option.ite_none_right_eq_some.mp hscan
    cases heq
    exact hother (fun h => by cases h) rfl
  | call n e => exact hserial rfl (fun h => by cases h)
  | recv m => exact hserial rfl (fun h => by cases h)
  | compare => exact hserial rfl (fun h => by cases h)
  | store => exact hserial rfl (fun h => by cases h)
  | judge =>
    obtain ⟨n, c, res, -, -, -, hmatch, rfl⟩ := judge_spec pf h hs
    rw [accurate_judge hmatch, Candid]
    simp only [forall_const]

/-- **Discovery reports the true slot counts just if no answer misleads**: for every bus, every range
and every order of the frames and of the steps, as long as only the scan calls. -/
theorem slot_counts_iff (range_start range_end : Int) (es : List (Event bus)) {s : State bus}
    (hrun : run (step pf) (.init bus range_start range_end) es = some s) {found : List Found}
    (hreport : s.scan.report false = some found) :
    Accurate bus found ↔ Along (step pf) Candid (.init bus range_start range_end) es := by
  have hfound : s.scan.scan.found = found := by
    simp only [Discovery.State.report, Bool.false_eq_true, if_false] at hreport
    split at hreport
    · exact Option.some.inj hreport
    · cases hreport
  have hiff := run_iff_along (I := Tracked) (P := fun s : State bus => Accurate bus s.scan.scan.found)
    (fun s e s' h hs => tracked_step pf h hs) (fun s e s' h hs => accurate_step pf h hs) es _ s
    (tracked_init range_start range_end) hrun
  rw [← hfound, hiff]
  exact and_iff_right fun f hf => by cases hf

/-! ## One slave -/

/-- The controller of the sketch alone, with three slots. -/
def oneBoard : Bus := ⟨[uno2], by decide⟩

/-- Slave 2 is asked and this frame comes in. -/
def exchange (f : Frame uno2) : List (Event oneBoard) :=
  [.ask, .call 0 .write, .call 0 .enterWait, .recv ⟨uno2, List.mem_singleton_self _, f⟩, .compare, .store,
    .call 0 .take, .call 0 .leave, .judge]

theorem exchange_run {f : Frame uno2}
    (hresponse : responseOf noFloat f.text = some (.int 2, f.response)) (hanswers : f.answers = true) :
    ∃ s, run (step noFloat) (.init oneBoard 2 2) (exchange f) = some s ∧
      s.scan.report false = some [⟨2, .int f.count⟩] := by
  have hne : f.response.isEmpty = false := by simp [response_ne_nil]
  have hid : uno2.SLAVE_ID = 2 := rfl
  have hslave := slave_response f (.int (-1))
  have hslots := slots_response hanswers
  simp only [exchange, run, step, Event.plain, Discovery.step, SerialThreads.step, Sent.text, hresponse]
  refine ⟨_, rfl, ?_⟩
  simp [State.init, Discovery.State.init, Discovery.State.report, Discovery.Scan.judge,
    SerialThreads.State.init, SerialThreads.State.start, SerialThreads.State.share,
    SerialThreads.State.put, SerialThreads.State.taken, hne, isOk_response, hanswers, hslave, hslots, hid]

/-- The reply to `PING`. -/
def pingFrame : Frame uno2 :=
  .reply allOpen "S2:PING".toList .ping ⟨-1, -1, "OK".toList, 0, false, []⟩ (by decide) rfl

/-- A scan of slave 2 that its reply answers meets the condition. -/
theorem slot_counts_ping : Along (step noFloat) Candid (.init oneBoard 2 2) (exchange pingFrame) := by
  have hresponse := @responseOf_reply noFloat uno2 allOpen "S2:PING".toList .ping _ (by decide) rfl
  obtain ⟨s, hrun, hreport⟩ := exchange_run (f := pingFrame) hresponse rfl
  refine (slot_counts_iff noFloat 2 2 _ hrun hreport).mp fun g hg => ?_
  rw [List.mem_singleton.mp hg]
  exact ⟨uno2, List.mem_singleton_self _, rfl, rfl⟩

/-- A scan of slave 2 that its heartbeat answers reports six slots of three. -/
theorem slot_counts_alive :
    ∃ s, run (step noFloat) (.init oneBoard 2 2) (exchange .alive) = some s ∧
      s.scan.report false = some [⟨2, .int 6⟩] ∧ uno2.NUM_SLOTS = 3 ∧
      ¬ Accurate oneBoard [⟨2, .int 6⟩] := by
  have hresponse : responseOf noFloat (heartbeatJson uno2) =
      some (.int 2, aliveResponse (aliveData uno2)) := by
    simp only [responseOf, loads_alive, handle_alive]
    rfl
  obtain ⟨s, hrun, hreport⟩ := exchange_run (f := .alive) hresponse rfl
  refine ⟨s, hrun, hreport, rfl, fun h => ?_⟩
  obtain ⟨b, hb, -, hslots⟩ := h ⟨2, .int 6⟩ (List.mem_singleton_self _)
  rw [List.mem_singleton.mp hb] at hslots
  exact absurd (Json.int.inj hslots) (by decide)

end SmartLocker.System.SlotCounts
