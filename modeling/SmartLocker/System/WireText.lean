import SmartLocker.System.CleanEffects
import SmartLocker.System.Traffic

/-!
# Messages as texts

What the broker carries are texts: the gateway writes each payload with `json.dumps` and reads each
message with `json.loads`.  `Traffic` has the values instead.  Here the machine has the texts, and
`text_refines` says that it does the same, step for step.

A record that is in the state, and a payload that is published, are made of what was read from texts;
so they have texts, and read back.
-/

set_option autoImplicit false

namespace SmartLocker.System

open Lib Lib.Machine Lib.Python SmartLocker.Gateway

variable {pf : List Char → PyFloat}

/-! ## The machine with texts -/

/-- A message on the wire. -/
abbrev TextMessage := PyStr × List Char

structure TextTraffic where
  state : CabinetState
  inbox : List TextMessage
  threads : List (List ServiceEffect)

inductive TextEvent where
  /-- published by others -/
  | others (topic : PyStr) (text : List Char)
  | deliver (i : Nat) (answers : Answers)
  | door (slot_index : Json) (event : DoorEvent) (slave_id : Json)
  | heartbeat (hb : HeartbeatService)
  | discovery (found : Dict)
  | threadStep (i : Nat)
  | apiReset

/-- `json.loads` of what a message carries. -/
def readMessage (pf : List Char → PyFloat) (m : TextMessage) : Message := (m.1, loads pf m.2)

/-- The message that the broker returns for an effect: what `json.dumps` wrote. -/
def returnedText (out : Outside) (st : CabinetState) : ServiceEffect → Option TextMessage
  | .publish topic payload =>
    if topic ∈ subscribedTopics out st then some (topic, dumps (.obj payload)) else none
  | _ => none

def TextEvent.read (pf : List Char → PyFloat) : TextEvent → TrafficEvent
  | .others topic text => .others topic (loads pf text)
  | .deliver i answers => .deliver i answers
  | .door slot_index event slave_id => .door slot_index event slave_id
  | .heartbeat hb => .heartbeat hb
  | .discovery found => .discovery found
  | .threadStep i => .threadStep i
  | .apiReset => .apiReset

namespace TextTraffic

/-- The gateway's side of the wire. -/
def read (pf : List Char → PyFloat) (s : TextTraffic) : Traffic :=
  ⟨s.state, s.inbox.map (readMessage pf), s.threads⟩

/-- What the gateway does: a handler reads its message before anything else. -/
def emitted (pf : List Char → PyFloat) (out : Outside) (s : TextTraffic) (e : TextEvent) :
    List ServiceEffect := (s.read pf).emitted out (e.read pf)

def received (out : Outside) (s : TextTraffic) : TextEvent → List TextMessage
  | .others topic text =>
    if topic ∈ subscribedTopics out s.state then s.inbox ++ [(topic, text)] else s.inbox
  | .deliver i _ => s.inbox.eraseIdx i
  | _ => s.inbox

def step (pf : List Char → PyFloat) (out : Outside) (s : TextTraffic) (e : TextEvent) :
    Option TextTraffic :=
  if (s.read pf).enabled (e.read pf) then
    some ⟨(s.emitted pf out e).foldl CabinetState.apply s.state,
      s.received out e ++ (s.emitted pf out e).filterMap (returnedText out s.state),
      (s.read pf).scheduled out (e.read pf)⟩
  else none

def start (st : CabinetState) : TextTraffic := ⟨st, [], []⟩

end TextTraffic

/-- What the gateway is given in an event, apart from messages, meets `P`. -/
def EventMeets (P : Json → Prop) : TextEvent → Prop
  | .deliver _ answers =>
    P (.obj answers.reply) ∧ SetupMeets P answers.io ∧ P (.obj answers.found)
  | .door slot_index _ _ => P slot_index
  | .discovery found => P (.obj found)
  | _ => True

/-! ## Steps -/

/-- The records in the state and what the threads still do are clean. -/
structure CleanTraffic (pf : List Char → PyFloat) (s : TextTraffic) : Prop where
  state : CleanState pf s.state
  threads : ∀ t ∈ s.threads, ∀ e ∈ t, CleanEffect pf e

theorem threadOf_clean {out : Outside} {answers : Answers} {e : ServiceEffect}
    {t : List ServiceEffect} (hio : SetupMeets (Clean .wire pf) answers.io)
    (hfound : Clean .wire pf (.obj answers.found))
    (he : CleanEffect pf e) (h : threadOf out answers e = some t) : ∀ x ∈ t, CleanEffect pf x := by
  cases e with
  | setup payload topicPrefix =>
    cases h
    exact processSetup_clean hio he topicPrefix
  | clearSetup =>
    cases h
    exact fun x hx => by rw [List.mem_singleton.mp hx]; trivial
  | discover _ =>
    cases h
    exact fun x hx => by rw [List.mem_singleton.mp hx]; exact hfound
  | _ => cases h

section

variable (hpf : ∀ l, Prints pf (pf l)) {out : Outside} (hnow : ClockMeets (Clean .wire pf) out.now)

include hpf hnow

/-- **What the gateway does in an event is clean.** -/
theorem emitted_clean {s : TextTraffic} (hs : CleanTraffic pf s) {e : TextEvent}
    (he : EventMeets (Clean .wire pf) e) : ∀ x ∈ s.emitted pf out e, CleanEffect pf x := by
  cases e with
  | others topic text => exact List.forall_mem_nil _
  | deliver i answers =>
    unfold TextTraffic.emitted TextEvent.read Traffic.emitted
    dsimp only
    split
    · rename_i m hm
      obtain ⟨t, -, rfl⟩ := List.mem_map.mp (List.mem_of_getElem? hm)
      exact (handleIncomingMessage_keeps hs.state hnow he.1 t.1 fun v hv => loads_clean hpf hv).effects
    · exact List.forall_mem_nil _
  | door slot_index event slave_id =>
    exact (handleDoorEvent_keeps hs.state hnow he event slave_id).effects
  | heartbeat hb => exact heartbeats_clean hs.state hnow hb
  | discovery found =>
    intro x hx
    rw [List.mem_singleton.mp hx]
    exact he
  | threadStep i =>
    intro x hx
    obtain ⟨t, ht, hhead⟩ := Option.bind_eq_some_iff.mp (Option.mem_toList.mp hx)
    exact hs.threads t (List.mem_of_getElem? ht) x (List.mem_of_mem_head? hhead)
  | apiReset =>
    intro x hx
    rw [List.mem_singleton.mp hx]
    trivial

theorem CleanTraffic.step {s s' : TextTraffic} (h : CleanTraffic pf s) {e : TextEvent}
    (he : EventMeets (Clean .wire pf) e) (hs : s.step pf out e = some s') : CleanTraffic pf s' := by
  have hemitted := emitted_clean hpf hnow h he
  unfold TextTraffic.step at hs
  split at hs
  swap
  · cases hs
  cases hs
  refine ⟨h.state.foldl hemitted, ?_⟩
  cases e with
  | deliver i answers =>
    intro t ht
    rcases List.mem_append.mp ht with ht | ht
    · exact h.threads t ht
    · obtain ⟨x, hx, hthread⟩ := List.mem_filterMap.mp ht
      exact threadOf_clean he.2.1 he.2.2 (hemitted x hx) hthread
  | threadStep i =>
    intro t ht
    obtain ⟨j, hj⟩ := List.mem_iff_getElem?.mp ht
    unfold TextEvent.read Traffic.scheduled at hj
    rw [List.getElem?_modify] at hj
    obtain ⟨t', ht', rfl⟩ := Option.map_eq_some_iff.mp hj
    have hmem := List.mem_of_getElem? ht'
    split
    · exact fun x hx => h.threads t' hmem x (List.mem_of_mem_tail hx)
    · exact h.threads t' hmem
  | _ => exact h.threads

/-- What the broker returns is read as the payload that was written. -/
theorem returned_read {s : TextTraffic} (hs : CleanTraffic pf s) {e : TextEvent}
    (he : EventMeets (Clean .wire pf) e) :
    ((s.emitted pf out e).filterMap (returnedText out s.state)).map (readMessage pf) =
      (s.read pf).returned out (e.read pf) := by
  unfold Traffic.returned
  rw [List.map_filterMap]
  refine List.filterMap_congr fun x hx => ?_
  cases x with
  | publish topic payload =>
    have hread : loads pf (dumps (.obj payload)) = some (.obj payload) :=
      loads_dump (emitted_clean hpf hnow hs he _ hx)
    by_cases htopic : topic ∈ subscribedTopics out s.state
    · have htext : returnedText out s.state (.publish topic payload) =
          some (topic, dumps (.obj payload)) := if_pos htopic
      rw [htext, Option.map_some, readMessage, hread]
      exact (if_pos htopic).symm
    · have htext : returnedText out s.state (.publish topic payload) = none := if_neg htopic
      rw [htext, Option.map_none]
      exact (if_neg htopic).symm
  | _ => rfl

omit hpf hnow in
theorem received_read (s : TextTraffic) (e : TextEvent) :
    (s.received out e).map (readMessage pf) = (s.read pf).received out (e.read pf) := by
  cases e with
  | others topic text =>
    by_cases htopic : topic ∈ subscribedTopics out s.state
    · have htext : s.received out (.others topic text) = s.inbox ++ [(topic, text)] := if_pos htopic
      rw [htext, List.map_append]
      exact (if_pos htopic).symm
    · have htext : s.received out (.others topic text) = s.inbox := if_neg htopic
      rw [htext]
      exact (if_neg htopic).symm
  | deliver i answers => exact (List.eraseIdx_map _ _ _).symm
  | _ => rfl

/-- **Step by step the same.** -/
theorem step_read {s : TextTraffic} (hs : CleanTraffic pf s) {e : TextEvent}
    (he : EventMeets (Clean .wire pf) e) :
    (s.step pf out e).map (TextTraffic.read pf) = (s.read pf).step out (e.read pf) := by
  unfold TextTraffic.step Traffic.step
  split
  · rw [Option.map_some, TextTraffic.read, List.map_append, received_read, returned_read hpf hnow hs he]
    rfl
  · rfl

theorem run_read {es : List TextEvent} {s : TextTraffic} (hs : CleanTraffic pf s)
    (hes : ∀ e ∈ es, EventMeets (Clean .wire pf) e) :
    (run (TextTraffic.step pf out) s es).map (TextTraffic.read pf) =
      run (Traffic.step out) (s.read pf) (es.map (TextEvent.read pf)) := by
  induction es generalizing s with
  | nil => rfl
  | cons e es ih =>
    rw [List.forall_mem_cons] at hes
    have hstep := step_read hpf hnow hs hes.1
    rw [run, List.map_cons, run, ← hstep]
    cases hs' : s.step pf out e with
    | none => rfl
    | some s' => exact ih (hs.step hpf hnow hes.1 hs') hes.2

end

/-! ## Runs -/

/-- Everything that is published in an event is read back from its text as it was. -/
def ReadsBack (pf : List Char → PyFloat) (out : Outside) (s : TextTraffic) (e : TextEvent) : Prop :=
  ∀ topic payload, .publish topic payload ∈ s.emitted pf out e →
    loads pf (dumps (.obj payload)) = some (.obj payload)

theorem along_readsBack (hpf : ∀ l, Prints pf (pf l)) {out : Outside}
    (hnow : ClockMeets (Clean .wire pf) out.now) {es : List TextEvent} {s : TextTraffic}
    (hs : CleanTraffic pf s) (hes : ∀ e ∈ es, EventMeets (Clean .wire pf) e) :
    Along (TextTraffic.step pf out) (ReadsBack pf out) s es := by
  induction es generalizing s with
  | nil => trivial
  | cons e es ih =>
    rw [List.forall_mem_cons] at hes
    refine ⟨fun topic payload h => loads_dump (emitted_clean hpf hnow hs hes.1 _ h), ?_⟩
    cases hs' : s.step pf out e with
    | none => trivial
    | some s' => exact ih (hs.step hpf hnow hes.1 hs') hes.2

/-- **Texts are enough.**  A gateway that started with records that have texts, and that is given only
what has a text, does with texts on the wire what it does with values, whatever others publish; and all
that it publishes is read back as it was. -/
theorem text_refines (pf : List Char → PyFloat) (hpf : ∀ l, Prints pf (pf l)) (out : Outside)
    (hnow : ClockMeets (HasText pf) out.now) (st : CabinetState) (hst : StateMeets (HasText pf) st)
    (es : List TextEvent) (hes : ∀ e ∈ es, EventMeets (HasText pf) e) :
    (run (TextTraffic.step pf out) (.start st) es).map (TextTraffic.read pf) =
        run (Traffic.step out) (.start st) (es.map (TextEvent.read pf)) ∧
      Along (TextTraffic.step pf out) (ReadsBack pf out) (.start st) es := by
  rw [hasText_eq hpf] at hnow hst hes
  have hs : CleanTraffic pf (.start st) := ⟨hst, List.forall_mem_nil _⟩
  exact ⟨run_read hpf hnow hs hes, along_readsBack hpf hnow hs hes⟩

/-! ## A door -/

theorem clean_ofString (s : String) : Clean .wire pf (.str (py s)) := clean_lit s

/-- Cabinet `A` has texts. -/
theorem stateA_clean : CleanState pf stateA := by
  refine ⟨fun loc hloc => ?_, ?_, List.forall_mem_nil _⟩
  · cases hloc
    exact clean_locationData (clean_lit _) (clean_lit _) (clean_lit _)
  · intro e he
    rw [List.mem_singleton.mp he]
    exact clean_cabinetData (clean_lit _)
      ⟨clean_lit _, clean_lit _, trivial, trivial, trivial, trivial, trivial⟩

/-- A board whose door is open, and setups that are not asked for. -/
def openDoor : Answers where
  reply := [(py "result", .lit "OK"), (py "door", .bool false)]
  io := sampleSetupOutside
  found := []

theorem openDoor_clean :
    Clean .wire pf (.obj openDoor.reply) ∧ SetupMeets (Clean .wire pf) openDoor.io ∧
      Clean .wire pf (.obj openDoor.found) := by
  refine ⟨?_, ⟨fun _ => clean_ofString _, fun j i => ?_, fun _ _ => clean_ofString _⟩,
    ⟨List.nodup_nil, trivial⟩⟩
  · refine clean_obj ["result", "door"] rfl (by decide) ?_
    simp only [openDoor, List.forall_mem_cons]
    exact ⟨clean_lit _, trivial, List.forall_mem_nil _⟩
  · refine clean_obj ["result", "slot", "door"] rfl (by decide) ?_
    simp only [openDoor, sampleSetupOutside, List.forall_mem_cons]
    exact ⟨clean_lit _, clean_int _, trivial, List.forall_mem_nil _⟩

/-- A slot is opened with an id beyond the 16-bit characters, its door closes, and the close command
comes back. -/
def escapedOpen : List TextEvent :=
  [.others (Handled.openLocker.topic (py "A"))
      "\x7b\"slotIndex\": 1, \"commandId\": \"\\ud83d\\ude00\"\x7d".toList,
    .deliver 0 openDoor, .door (.int 1) .DOOR_CLOSED (.int 2), .deliver 0 openDoor]

theorem text_refines_escaped :
    (run (TextTraffic.step noFloat sampleOutside) (.start stateA) escapedOpen).isSome = true ∧
      (run (TextTraffic.step noFloat sampleOutside) (.start stateA) escapedOpen).map
          (TextTraffic.read noFloat) =
        run (Traffic.step sampleOutside) (.start stateA) (escapedOpen.map (TextEvent.read noFloat)) ∧
      Along (TextTraffic.step noFloat sampleOutside) (ReadsBack noFloat sampleOutside) (.start stateA)
        escapedOpen := by
  have hpf : ∀ l, Prints noFloat (noFloat l) := fun _ => rfl
  have hevents : ∀ e ∈ escapedOpen, EventMeets (HasText noFloat) e := by
    rw [hasText_eq hpf]
    simp only [escapedOpen, List.forall_mem_cons]
    exact ⟨trivial, openDoor_clean, trivial, openDoor_clean, List.forall_mem_nil _⟩
  refine ⟨by decide +kernel, text_refines noFloat hpf sampleOutside ?_ stateA ?_ escapedOpen hevents⟩
  · rw [hasText_eq hpf]
    exact fun _ => clean_ofString _
  · rw [hasText_eq hpf]
    exact stateA_clean

end SmartLocker.System
