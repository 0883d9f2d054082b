import Mathlib.Data.Prod.Lex
import SmartLocker.System.EndToEnd
import SmartLocker.System.SetupOutcome
import SmartLocker.System.Traffic

/-!
# No feedback between commands

A door that closes makes the gateway publish on a topic it is itself subscribed to.  All its other
topics end otherwise than those it is subscribed to, so that the broker returns nothing but one message
for a closed door: `no_feedback` bounds the calls of the serial manager by the messages of others and
the doors that have closed, and no run goes on for ever without an event from outside.
-/

set_option autoImplicit false

namespace SmartLocker.System

open Lib Lib.Machine Lib.Python SmartLocker.Gateway

/-! ## Topics by their endings -/

/-- The endings of the topics that the gateway is subscribed to. -/
def takenEnds : List String :=
  ["/command/open", "/command/close", "/command/setup", "/command/clear-setup", "/discovery/start"]

/-- The endings of those that it publishes on, but for the close command of a door event. -/
def ownEnds : List String :=
  ["/command/open/result", "/ack", "/command/close/result", "/status", "/heartbeat", "/setup/progress",
    "/setup/result", "/discovery/result"]

theorem ends_apart : ∀ s ∈ ownEnds, ∀ t ∈ takenEnds, ¬ py s <:+ py t ∧ ¬ py t <:+ py s := by decide

/-- A topic that the gateway is subscribed to: of a cabinet, or one of its own three. -/
theorem mem_subscribedTopics {out : Outside} {st : CabinetState} {topic : PyStr}
    (h : topic ∈ subscribedTopics out st) :
    (∃ c ∈ st.allCabinets, ∃ h : Handled, topic = h.topic (nameOf out.U c)) ∨
      ∃ t ∈ ["/command/setup", "/command/clear-setup", "/discovery/start"], py t <:+ topic := by
  rcases List.mem_append.mp h with h | h
  · right
    simp only [gatewayTopics, List.mem_cons, List.not_mem_nil, or_false] at h
    rcases h with rfl | rfl | rfl
    · exact ⟨_, by simp, List.suffix_append _ _⟩
    · exact ⟨"/command/clear-setup", by simp, List.suffix_append _ _⟩
    · exact ⟨"/discovery/start", by simp, List.suffix_append _ _⟩
  · left
    obtain ⟨c, hc, h⟩ := List.mem_flatMap.mp h
    simp only [lockerTopics, List.mem_cons, List.not_mem_nil, or_false] at h
    rcases h with rfl | rfl
    · exact ⟨c, hc, .openLocker, rfl⟩
    · exact ⟨c, hc, .closeLocker, rfl⟩

/-- The ending of the topics of a command. -/
def endingOf : Handled → String
  | .openLocker => "/command/open"
  | .closeLocker => "/command/close"

theorem suffix_topic (h : Handled) (name : PyStr) : py (endingOf h) <:+ h.topic name := by
  cases h with
  | openLocker => exact suffix_cabinetTopic name "command/open"
  | closeLocker => exact suffix_cabinetTopic name "command/close"

theorem taken_end {out : Outside} {st : CabinetState} {topic : PyStr}
    (htaken : topic ∈ subscribedTopics out st) : ∃ t ∈ takenEnds, py t <:+ topic := by
  rcases mem_subscribedTopics htaken with ⟨c, -, h, rfl⟩ | ⟨t, ht, hsuffix⟩
  · refine ⟨endingOf h, ?_, suffix_topic h _⟩
    cases h <;> simp [endingOf, takenEnds]
  · refine ⟨t, ?_, hsuffix⟩
    simp only [List.mem_cons, List.not_mem_nil, or_false] at ht
    rcases ht with rfl | rfl | rfl <;> simp [takenEnds]

/-- An effect that the broker returns nothing for. -/
def Silent : ServiceEffect → Prop
  | .publish topic _ => ∃ s ∈ ownEnds, py s <:+ topic
  | _ => True

theorem Silent.not_returned {e : ServiceEffect} (h : Silent e) (out : Outside) (st : CabinetState) :
    returnedBy out st e = none := by
  cases e with
  | publish topic payload =>
    obtain ⟨s, hs, hsuffix⟩ := h
    refine if_neg fun htaken => ?_
    obtain ⟨t, ht, hsuffix'⟩ := taken_end htaken
    obtain ⟨hst, hts⟩ := ends_apart s hs t ht
    exact topic_ne hsuffix hsuffix' hst hts rfl
  | _ => rfl

/-! ## What the gateway publishes -/

theorem mqttPublish_silent (out : Outside) {topic : PyStr} (payload : Dict) {s : String}
    (hs : s ∈ ownEnds) (h : py s <:+ topic) : Py.Emits Silent (mqttPublish out topic payload) :=
  (Py.emits_ofExcept _).bind fun _ => Py.emits_emit ⟨s, hs, h⟩

theorem updateLockerState_silent (cabinet_id slot_index : Json) (hw_state : LockerHwState) :
    Py.Emits Silent (updateLockerState cabinet_id slot_index hw_state) :=
  (Py.emits_ofExcept _).bind fun _ => (Py.emits_ofExcept _).bind fun _ => Py.emits_emit trivial

theorem sendAndWait_silent (command : PyStr) (slot_index slave_id : Json) (reply : Dict) :
    Py.Emits Silent (sendAndWait command slot_index slave_id reply) := by
  unfold sendAndWait
  split
  · exact (Py.emits_emit trivial).bind fun _ => Py.emits_pure _
  · exact Py.emits_pure _

theorem runOpen_silent (out : Outside) (reply : Dict) (name : PyStr) (cabinet_id slave_id : Json)
    (q : CommandMessage) : Py.Emits Silent (runOpen out reply name cabinet_id slave_id q) := by
  refine (updateLockerState_silent _ _ _).bind fun _ => (sendAndWait_silent _ _ _ _).bind fun result => ?_
  refine (mqttPublish_silent out _ (s := "/command/open/result") (by simp [ownEnds])
    (suffix_cabinetTopic name "command/open/result")).bind fun _ => ?_
  refine (mqttPublish_silent out _ (s := "/ack") (by simp [ownEnds]) (List.suffix_append _ _)).bind
    fun _ => ?_
  exact updateLockerState_silent _ _ _

theorem runClose_silent (out : Outside) (reply : Dict) (name : PyStr) (cabinet_id slave_id : Json)
    (q : CommandMessage) : Py.Emits Silent (runClose out reply name cabinet_id slave_id q) := by
  refine (sendAndWait_silent _ _ _ _).bind fun result => ?_
  refine (mqttPublish_silent out _ (s := "/command/close/result") (by simp [ownEnds])
    (suffix_cabinetTopic name "command/close/result")).bind fun _ => ?_
  exact updateLockerState_silent _ _ _

theorem handleCommand_silent (st : CabinetState) (topic : PyStr) (data : Json)
    {body : PyStr → Json → Json → CommandMessage → Py ServiceEffect Unit}
    (h : ∀ name id slave q, Py.Emits Silent (body name id slave q)) :
    Py.Emits Silent (handleCommand st topic data body) := by
  unfold handleCommand
  split
  · split
    · exact Py.emits_pure _
    · refine (Py.emits_ofExcept _).bind fun id => (Py.emits_ofExcept _).bind fun d => ?_
      dsimp only
      split
      · exact h _ _ _ _
      · exact Py.emits_pure _
  · exact Py.emits_pure _

/-- **The handling of a message** publishes nothing that comes back. -/
theorem handleIncomingMessage_silent (out : Outside) (st : CabinetState) (reply : Dict) (topic : PyStr)
    (data : Option Json) : Py.Emits Silent (handleIncomingMessage out st reply topic data) := by
  unfold handleIncomingMessage
  split
  · exact Py.emits_emit trivial
  · exact Py.emits_pure _
  · refine (Py.emits_ofExcept _).bind fun d => ?_
    split
    · refine (Py.emits_ofExcept _).bind fun mac => ?_
      split
      · exact Py.emits_pure _
      · split
        · exact Py.emits_emit trivial
        · exact Py.emits_pure _
    · exact Py.emits_pure _
  · refine (Py.emits_ofExcept _).bind fun d => ?_
    split
    · exact Py.emits_emit trivial
    · exact Py.emits_pure _
  · exact handleCommand_silent st _ _ (runOpen_silent out reply)
  · exact handleCommand_silent st _ _ (runClose_silent out reply)
  · exact Py.emits_pure _

theorem heartbeats_silent (out : Outside) (st : CabinetState) (hb : HeartbeatService) :
    ∀ e ∈ heartbeats out st hb, Silent e := by
  have hall : ∀ cabs, Py.Emits Silent (publishHeartbeats out st hb cabs) := by
    intro cabs
    induction cabs with
    | nil => exact Py.emits_pure _
    | cons c cabs ih =>
      refine Py.Emits.bind ?_ fun _ => ih
      refine (Py.emits_ofExcept _).bind fun id => (Py.emits_ofExcept _).bind fun name =>
        (Py.emits_ofExcept _).bind fun lockers => ?_
      exact mqttPublish_silent out _ (s := "/heartbeat") (by simp [ownEnds]) (List.suffix_append _ _)
  unfold heartbeats
  split
  · exact hall _
  · exact fun e he => absurd he List.not_mem_nil

theorem reportCabinet_silent (io : SetupOutside) (topicPrefix : PyStr) (command_id : Json) (j : Nat)
    (cab : Json) : Py.Emits Silent (reportCabinet io topicPrefix command_id j cab) := by
  refine (Py.emits_ofExcept _).bind fun id => (Py.emits_ofExcept _).bind fun data =>
    (Py.emits_ofExcept _).bind fun name => (Py.emits_ofExcept _).bind fun total =>
    (Py.emits_ofExcept _).bind fun slots => Py.Emits.bind ?_ fun t =>
    (Py.emits_ofExcept _).bind fun details => Py.Emits.bind ?_ fun _ => Py.emits_pure _
  · intro e he
    cases e with
    | publish topic payload =>
      refine ⟨"/setup/progress", by simp [ownEnds], ?_⟩
      rw [runTests_topics _ _ he]
      exact List.suffix_append _ _
    | _ => trivial
  · exact mqttPublish_silent _ _ (s := "/setup/result") (by simp [ownEnds]) (List.suffix_append _ _)

/-- An effect that is not of the tests publishes nothing. -/
theorem silent_of_notTest {e : ServiceEffect} (h : isTest e = false) : Silent e := by
  cases e with
  | publish _ _ => cases h
  | _ => trivial

theorem setupCabinets_silent (io : SetupOutside) (topicPrefix : PyStr) (command_id : Json)
    (cabs : List (Json × Nat)) : Py.Emits Silent (setupCabinets io topicPrefix command_id cabs) := by
  induction cabs with
  | nil => exact Py.emits_pure _
  | cons c cabs ih =>
    unfold setupCabinets
    refine Py.Emits.bind ?_ fun _ => ih
    rw [setupCabinet_eq]
    refine (reportCabinet_silent _ _ _ _ _).bind fun r => ?_
    exact fun e he => silent_of_notTest (storeReported_notTest e he)

theorem runSetup_silent (io : SetupOutside) (payload : Dict) (topicPrefix : PyStr) :
    ∀ e ∈ runSetup io payload topicPrefix, Silent e := by
  intro e he
  rw [runSetup_eq] at he
  split at he
  · cases he
  rcases List.mem_append.mp he with he | he
  · unfold locationEffects at he
    rcases List.mem_append.mp he with he | he
    · split at he
      · rw [List.mem_singleton.mp he]
        trivial
      · cases he
    · rw [List.mem_singleton.mp he]
      trivial
  · unfold cabinetEffects at he
    split at he
    · cases he
    · exact setupCabinets_silent _ _ _ _ e he

theorem processSetup_silent (io : SetupOutside) (payload : Dict) (topicPrefix : PyStr) :
    ∀ e ∈ processSetup io payload topicPrefix, Silent e := by
  have hhandled : Py.Emits Silent (handleSetup io payload topicPrefix) := by
    unfold handleSetup
    split
    · exact Py.emits_pure _
    · refine (Py.emits_ofExcept _).bind fun n => ?_
      split
      · refine Py.Emits.bind ?_ fun _ => Py.emits_pure _
        exact mqttPublish_silent _ _ (s := "/setup/result") (by simp [ownEnds])
          (List.suffix_append _ _)
      · exact Py.emits_pure _
  intro e he
  unfold processSetup at he
  dsimp only at he
  split at he
  · rcases List.mem_append.mp he with he | he
    · exact hhandled e he
    · exact runSetup_silent io payload topicPrefix e he
  · exact hhandled e he

/-! ## Door events -/

/-- The number of messages that come back of a computation. -/
def returnedCount {α : Type} (out : Outside) (st : CabinetState) (x : Py ServiceEffect α) : Nat :=
  (x.effects.filterMap (returnedBy out st)).length

theorem returnedCount_silent {α : Type} {x : Py ServiceEffect α} (h : Py.Emits Silent x) (out : Outside)
    (st : CabinetState) : returnedCount out st x = 0 := by
  have hnil : x.effects.filterMap (returnedBy out st) = [] :=
    List.filterMap_eq_nil_iff.mpr fun e he => (h e he).not_returned out st
  rw [returnedCount, hnil, List.length_nil]

/-- What comes back of a sequence comes back of its parts. -/
theorem returnedCount_bind {α β : Type} {out : Outside} {st : CabinetState} {x : Py ServiceEffect α}
    {f : α → Py ServiceEffect β} {m n : Nat} (hx : returnedCount out st x ≤ m)
    (hf : ∀ a, returnedCount out st (f a) ≤ n) : returnedCount out st (x >>= f) ≤ m + n := by
  unfold returnedCount at *
  cases h : x.result with
  | error e =>
    rw [Py.bind_error h]
    exact hx.trans (Nat.le_add_right m n)
  | ok a =>
    rw [Py.bind_ok h, List.filterMap_append, List.length_append]
    exact Nat.add_le_add hx (hf a)

theorem returnedCount_after {α β : Type} {out : Outside} {st : CabinetState} {x : Py ServiceEffect α}
    {f : α → Py ServiceEffect β} {n : Nat} (hx : Py.Emits Silent x)
    (hf : ∀ a, returnedCount out st (f a) ≤ n) : returnedCount out st (x >>= f) ≤ n := by
  have h := returnedCount_bind (returnedCount_silent hx out st).le hf
  rwa [Nat.zero_add] at h

/-- **A door event** brings back one message at most, and none when a door opens. -/
theorem door_returned (out : Outside) (st : CabinetState) (slot_index : Json) (event : DoorEvent)
    (slave_id : Json) :
    returnedCount out st (handleDoorEvent out st slot_index event slave_id) ≤
      if event = .DOOR_CLOSED then 1 else 0 := by
  unfold handleDoorEvent
  cases cabinetOfSlave st slave_id with
  | none => exact Nat.zero_le _
  | some cab =>
    dsimp only
    unfold reportDoor
    refine returnedCount_after (Py.emits_ofExcept _) fun id => ?_
    refine returnedCount_after (Py.emits_ofExcept _) fun name => ?_
    refine returnedCount_after (Py.emits_ofExcept _) fun locker => ?_
    refine returnedCount_after (Py.emits_ofExcept _) fun locker_id => ?_
    refine returnedCount_after (mqttPublish_silent out _ (s := "/status") (by simp [ownEnds])
      (List.suffix_append _ _)) fun _ => ?_
    have hlast := returnedCount_silent (updateLockerState_silent id slot_index event.hwState) out st
    dsimp only
    split
    · have hclose : returnedCount out st (mqttPublish out (cabinetPrefix out.U name ++
          py "/command/close") [(py "cabinetId", id), (py "slotIndex", slot_index)]) ≤ 1 := by
        refine (List.length_filterMap_le _ _).trans ?_
        unfold mqttPublish
        cases out.publish (cabinetPrefix out.U name ++ py "/command/close") with
        | error e => exact Nat.zero_le 1
        | ok _ => exact Nat.le_refl 1
      exact returnedCount_bind hclose fun _ => hlast.le
    · exact hlast.le

/-- The topic of a message about a door. -/
def AboutDoor : ServiceEffect → Prop
  | .publish topic _ => py "/status" <:+ topic ∨ py "/command/close" <:+ topic
  | _ => True

theorem mqttPublish_aboutDoor (out : Outside) {topic : PyStr} (payload : Dict)
    (h : py "/status" <:+ topic ∨ py "/command/close" <:+ topic) :
    Py.Emits AboutDoor (mqttPublish out topic payload) :=
  (Py.emits_ofExcept _).bind fun _ => Py.emits_emit h

theorem handleDoorEvent_topics (out : Outside) (st : CabinetState) (slot_index : Json)
    (event : DoorEvent) (slave_id : Json) :
    Py.Emits AboutDoor (handleDoorEvent out st slot_index event slave_id) := by
  unfold handleDoorEvent
  cases cabinetOfSlave st slave_id with
  | none => exact Py.emits_pure _
  | some cab =>
    dsimp only
    unfold reportDoor
    refine (Py.emits_ofExcept _).bind fun id => (Py.emits_ofExcept _).bind fun name =>
      (Py.emits_ofExcept _).bind fun locker => (Py.emits_ofExcept _).bind fun locker_id => ?_
    refine (mqttPublish_aboutDoor out _ (Or.inl (List.suffix_append _ _))).bind fun _ => ?_
    have hlast : Py.Emits AboutDoor (updateLockerState id slot_index event.hwState) :=
      (Py.emits_ofExcept _).bind fun _ => (Py.emits_ofExcept _).bind fun _ => Py.emits_emit trivial
    dsimp only
    split
    · exact (mqttPublish_aboutDoor out _ (Or.inr (List.suffix_append _ _))).bind fun _ => hlast
    · exact hlast

/-! ## What comes back in an event -/

/-- A message on a topic of the command, from others. -/
def fromOthers (h : Handled) : TrafficEvent → Bool
  | .others topic _ => endsWith topic (endingOf h)
  | _ => false

def doorClosed : TrafficEvent → Bool
  | .door _ .DOOR_CLOSED _ => true
  | _ => false

/-- An event that nothing outside the gateway and its broker causes. -/
def internal : TrafficEvent → Bool
  | .deliver _ _ => true
  | .threadStep _ => true
  | _ => false

/-- What the threads still do brings nothing back. -/
def ThreadsSilent (s : Traffic) : Prop := ∀ t ∈ s.threads, ∀ e ∈ t, Silent e

theorem discoveryTopic_silent (mac : PyStr) (payload : Dict) :
    Silent (.publish (discoveryTopic mac) payload) :=
  ⟨"/discovery/result", by simp [ownEnds], List.suffix_append _ _⟩

theorem threadOf_silent {out : Outside} {answers : Answers} {e : ServiceEffect} {t : List ServiceEffect}
    (h : threadOf out answers e = some t) : ∀ e ∈ t, Silent e := by
  cases e with
  | setup payload topicPrefix =>
    cases h
    exact processSetup_silent _ _ _
  | clearSetup =>
    cases h
    exact fun e he => by rw [List.mem_singleton.mp he]; trivial
  | discover _ =>
    cases h
    exact fun e he => by rw [List.mem_singleton.mp he]; exact discoveryTopic_silent _ _
  | _ => cases h

theorem ThreadsSilent.step {out : Outside} {s s' : Traffic} {e : TrafficEvent} (h : ThreadsSilent s)
    (hs : s.step out e = some s') : ThreadsSilent s' := by
  unfold Traffic.step at hs
  split at hs
  swap
  · cases hs
  cases hs
  cases e with
  | deliver i answers =>
    intro t ht
    rcases List.mem_append.mp ht with ht | ht
    · exact h t ht
    · obtain ⟨e, -, he⟩ := List.mem_filterMap.mp ht
      exact threadOf_silent he
  | threadStep i =>
    intro t ht
    obtain ⟨j, hj⟩ := List.mem_iff_getElem?.mp ht
    unfold Traffic.scheduled at hj
    rw [List.getElem?_modify] at hj
    obtain ⟨t', ht', rfl⟩ := Option.map_eq_some_iff.mp hj
    have hmem := List.mem_of_getElem? ht'
    split
    · exact fun e he => h t' hmem e (List.mem_of_mem_tail he)
    · exact h t' hmem
  | _ => exact h

theorem emitted_silent {out : Outside} {s : Traffic} {e : TrafficEvent} (h : ThreadsSilent s)
    (he : ∀ slot event slave, e ≠ .door slot event slave) : ∀ x ∈ s.emitted out e, Silent x := by
  cases e with
  | others _ _ => exact fun x hx => absurd hx List.not_mem_nil
  | deliver i answers =>
    unfold Traffic.emitted
    dsimp only
    split
    · exact handleIncomingMessage_silent _ _ _ _ _
    · exact fun x hx => absurd hx List.not_mem_nil
  | door slot event slave => exact absurd rfl (he slot event slave)
  | heartbeat hb => exact heartbeats_silent _ _ _
  | discovery found =>
    intro x hx
    rw [List.mem_singleton.mp hx]
    exact discoveryTopic_silent _ _
  | threadStep i =>
    intro x hx
    obtain ⟨t, ht, hx⟩ := Option.bind_eq_some_iff.mp (Option.mem_toList.mp hx)
    exact h t (List.mem_of_getElem? ht) x (List.mem_of_head? hx)
  | apiReset =>
    intro x hx
    rw [List.mem_singleton.mp hx]
    trivial

/-- **What comes back**: nothing but one message for a closed door. -/
theorem returned_length (out : Outside) {s : Traffic} (h : ThreadsSilent s) (e : TrafficEvent) :
    (s.returned out e).length ≤ (doorClosed e).toNat := by
  have hnil : (∀ slot event slave, e ≠ .door slot event slave) → s.returned out e = [] := by
    intro he
    refine List.filterMap_eq_nil_iff.mpr fun x hx => ?_
    exact (emitted_silent h he x hx).not_returned out s.state
  cases e with
  | door slot event slave =>
    refine (door_returned out s.state slot event slave).trans ?_
    cases event <;> exact Nat.le_refl _
  | _ =>
    rw [hnil (fun _ _ _ => TrafficEvent.noConfusion)]
    exact Nat.zero_le _

/-! ## Messages in flight -/

/-- No name of a cabinet has a slash. -/
def NamesFree (U : Unicode) (s : Traffic) : Prop :=
  ∀ c ∈ s.state.allCabinets, PyChar.uni '/' ∉ nameOf U c

/-- A topic of the broker on the route of a command ends as the topics of that command. -/
theorem endsWith_of_route {out : Outside} {s : Traffic} {topic : PyStr} {h : Handled}
    (hfree : NamesFree out.U s) (htaken : topic ∈ subscribedTopics out s.state)
    (hroute : routeOf topic = h.route) : endsWith topic (endingOf h) = true := by
  rcases mem_subscribedTopics htaken with ⟨c, hc, h', rfl⟩ | ⟨t, ht, hsuffix⟩
  · rw [routeOf_topic, reached_free h' (hfree c hc)] at hroute
    rw [Handled.route_injective hroute]
    exact decide_eq_true (suffix_topic h _)
  · have hother : routeOf topic ≠ h.route := by
      have hends : endsWith topic t = true := decide_eq_true hsuffix
      simp only [List.mem_cons, List.not_mem_nil, or_false] at ht
      rcases ht with rfl | rfl | rfl
      · have hstart : endsWith topic "/discovery/start" = false :=
          suffix_of_topic hsuffix (by decide) (by decide)
        unfold routeOf
        rw [hstart, hends]
        cases h <;> exact Route.noConfusion
      · have hstart : endsWith topic "/discovery/start" = false :=
          suffix_of_topic hsuffix (by decide) (by decide)
        have hsetup : endsWith topic "/command/setup" = false :=
          suffix_of_topic hsuffix (by decide) (by decide)
        unfold routeOf
        rw [hstart, hsetup, hends]
        cases h <;> exact Route.noConfusion
      · unfold routeOf
        rw [hends]
        cases h <;> exact Route.noConfusion
    exact absurd hroute hother

/-- The message goes to the handler of the command. -/
def onRoute (h : Handled) (m : Message) : Bool := routeOf m.1 = h.route

/-- The messages in flight to the handler of a command. -/
def inFlight (h : Handled) (s : Traffic) : Nat := s.inbox.countP (onRoute h)

instance (U : Unicode) (s : Traffic) : Decidable (NamesFree U s) :=
  inferInstanceAs (Decidable (∀ c ∈ s.state.allCabinets, _))

/-- What an event may bring for the handler of a command: a message of others, or a closed door. -/
def brought (h : Handled) (e : TrafficEvent) : Nat :=
  (fromOthers h e).toNat + if h = .closeLocker then (doorClosed e).toNat else 0

theorem slotCalls_length (h : Handled) (st : CabinetState) (m : Message) :
    (slotCalls h st m).length ≤ (onRoute h m).toNat := by
  unfold slotCalls onRoute
  cases m.2 with
  | none => exact Nat.zero_le _
  | some data =>
    dsimp only
    split
    · rename_i hroute
      rw [decide_eq_true hroute]
      cases handlerCall h st m.1 data <;> simp
    · exact Nat.zero_le _

/-- What comes back of a door event is a close command. -/
theorem returned_onRoute {out : Outside} {s : Traffic} (h : ThreadsSilent s) (hfree : NamesFree out.U s)
    (e : TrafficEvent) : (s.returned out e).countP (onRoute .openLocker) = 0 := by
  rw [List.countP_eq_zero]
  intro m hm hroute
  obtain ⟨x, hx, hback⟩ := List.mem_filterMap.mp hm
  by_cases hdoor : ∀ slot event slave, e ≠ .door slot event slave
  · rw [(emitted_silent h hdoor x hx).not_returned] at hback
    cases hback
  · push Not at hdoor
    obtain ⟨slot, event, slave, rfl⟩ := hdoor
    have habout := handleDoorEvent_topics out s.state slot event slave x hx
    cases x with
    | publish topic payload =>
      unfold returnedBy at hback
      dsimp only at hback
      split at hback
      · rename_i htaken
        cases hback
        have hends := endsWith_of_route hfree htaken (of_decide_eq_true hroute)
        rcases habout with hsuffix | hsuffix
        · rw [suffix_of_topic hsuffix (by decide) (by decide)] at hends
          cases hends
        · rw [suffix_of_topic hsuffix (by decide) (by decide)] at hends
          cases hends
      · cases hback
    | _ => cases hback

/-- **One event**: the calls of a handler and the messages left for it are paid for by the messages that
were in flight, those of others and, for the close command, the doors that have closed. -/
theorem inFlight_step {out : Outside} {s s' : Traffic} {e : TrafficEvent} (h : Handled)
    (hq : ThreadsSilent s) (hfree : NamesFree out.U s) (hs : s.step out e = some s') :
    inFlight h s' + callCount h s e ≤ inFlight h s + brought h e := by
  have hback : (s.returned out e).countP (onRoute h) ≤
      if h = .closeLocker then (doorClosed e).toNat else 0 := by
    cases h with
    | openLocker =>
      rw [returned_onRoute hq hfree]
      exact Nat.zero_le _
    | closeLocker => exact List.countP_le_length.trans (returned_length out hq e)
  have hreceived : (s.received out e).countP (onRoute h) + callCount h s e ≤
      inFlight h s + (fromOthers h e).toNat := by
    unfold inFlight
    cases e with
    | others topic data =>
      unfold Traffic.received callCount
      dsimp only
      split
      · rename_i htaken
        rw [List.countP_append]
        by_cases hroute : routeOf topic = h.route
        · have hends := endsWith_of_route hfree htaken hroute
          simp [onRoute, hroute, fromOthers, hends]
        · simp [onRoute, hroute]
      · exact Nat.le_add_right _ _
    | deliver i answers =>
      unfold Traffic.received callCount
      dsimp only
      cases hm : s.inbox[i]? with
      | none =>
        have hlen : s.inbox.length ≤ i := List.getElem?_eq_none_iff.mp hm
        rw [List.eraseIdx_of_length_le hlen]
        exact Nat.le_add_right _ _
      | some m =>
        have hrest := countP_eraseIdx (onRoute h) hm
        have hcalls := slotCalls_length h s.state m
        dsimp only
        omega
    | _ => exact Nat.le_add_right _ _
  unfold Traffic.step at hs
  split at hs
  · cases hs
    unfold inFlight brought
    dsimp only
    rw [List.countP_append]
    unfold inFlight at hreceived
    omega
  · cases hs

/-! ## Runs -/

/-- The effects that are left of all threads. -/
def effectsLeft : List (List ServiceEffect) → Nat
  | [] => 0
  | t :: ts => t.length + effectsLeft ts

/-- What is left to do inside: the messages in flight, then the effects of the threads. -/
def remaining (s : Traffic) : Nat ×ₗ Nat := toLex (s.inbox.length, effectsLeft s.threads)

theorem effectsLeft_modify (ts : List (List ServiceEffect)) (i : Nat)
    (h : ((ts[i]?).bind List.head?).isSome = true) :
    effectsLeft (ts.modify i List.tail) < effectsLeft ts := by
  induction ts generalizing i with
  | nil => cases h
  | cons t ts ih =>
    cases i with
    | zero =>
      cases t with
      | nil => cases h
      | cons a t =>
        simp only [List.modify_zero_cons, List.tail_cons, effectsLeft, List.length_cons]
        omega
    | succ i =>
      have hrest := ih i h
      simp only [List.modify_succ_cons, effectsLeft]
      omega

/-- **An internal event** leaves less to do. -/
theorem remaining_step {out : Outside} {s s' : Traffic} {e : TrafficEvent} (hq : ThreadsSilent s)
    (he : internal e = true) (hs : s.step out e = some s') : remaining s' < remaining s := by
  have hnone : s.returned out e = [] := by
    have hlen := returned_length out hq e
    cases e with
    | deliver _ _ => exact List.length_eq_zero_iff.mp (Nat.le_zero.mp hlen)
    | threadStep _ => exact List.length_eq_zero_iff.mp (Nat.le_zero.mp hlen)
    | _ => cases he
  unfold Traffic.step at hs
  split at hs
  swap
  · cases hs
  rename_i henabled
  cases hs
  unfold remaining
  rw [Prod.Lex.toLex_lt_toLex, hnone, List.append_nil]
  cases e with
  | deliver i answers =>
    left
    obtain ⟨m, hm⟩ := Option.isSome_iff_exists.mp henabled
    obtain ⟨hi, -⟩ := List.getElem?_eq_some_iff.mp hm
    unfold Traffic.received
    dsimp only
    rw [List.length_eraseIdx_of_lt hi]
    omega
  | threadStep i =>
    right
    exact ⟨rfl, effectsLeft_modify s.threads i henabled⟩
  | _ => cases he

/-- The calls that a run makes. -/
def calls (out : Outside) (h : Handled) (st : CabinetState) (es : List TrafficEvent) : Nat :=
  cost (Traffic.step out) (callCount h) (.start st) es

/-- The messages that the broker returns in a run. -/
def comeBack (out : Outside) (st : CabinetState) (es : List TrafficEvent) : Nat :=
  cost (Traffic.step out) (fun s e => (s.returned out e).length) (.start st) es

/-- What a run from `st` to `s` owes to its events: a call of `close_slot` to a door that has closed or
to a close message of others, a call of `open_slot` to an open message of others, a message that comes
back to a door that has closed; and from `s` on no run is endless without an event from outside. -/
structure NoFeedback (out : Outside) (st : CabinetState) (es : List TrafficEvent) (s : Traffic) :
    Prop where
  closeCalls : calls out .closeLocker st es ≤ es.countP doorClosed + es.countP (fromOthers .closeLocker)
  openCalls : calls out .openLocker st es ≤ es.countP (fromOthers .openLocker)
  comeBack : comeBack out st es ≤ es.countP doorClosed
  ends : ∀ f : Nat → Traffic, f 0 = s →
    ¬ ∀ n, ∃ e, internal e = true ∧ Traffic.step out (f n) e = some (f (n + 1))

/-- **No feedback**, in every run in which no name of a cabinet has a slash. -/
theorem no_feedback (out : Outside) (st : CabinetState) (es : List TrafficEvent) (s : Traffic)
    (hnames : EveryState (Traffic.step out) (NamesFree out.U) (.start st) es)
    (hrun : run (Traffic.step out) (.start st) es = some s) : NoFeedback out st es s := by
  have hsilent : ∀ s e s', ThreadsSilent s → NamesFree out.U s → Traffic.step out s e = some s' →
      ThreadsSilent s' := fun _ _ _ hq _ hs => hq.step hs
  have hstart : ThreadsSilent (.start st) := fun t ht => absurd ht List.not_mem_nil
  have hcalls : ∀ h, calls out h st es ≤
      cost (Traffic.step out) (fun _ e => brought h e) (.start st) es := by
    intro h
    have hbudget := run_budget (Φ := inFlight h) (f := callCount h) (g := fun _ e => brought h e)
      (C := fun s _ => NamesFree out.U s) hsilent (fun _ _ _ hq hfree hs => inFlight_step h hq hfree hs)
      es (.start st) s hstart hnames.along hrun
    have hempty : inFlight h (.start st) = 0 := rfl
    rw [hempty, Nat.zero_add] at hbudget
    exact (Nat.le_add_left _ _).trans hbudget
  constructor
  · have h := hcalls .closeLocker
    unfold brought at h
    simp only [if_true] at h
    rw [cost_add, cost_countP _ es _ s hrun, cost_countP _ es _ s hrun] at h
    omega
  · have h := hcalls .openLocker
    unfold brought at h
    simp only [if_neg (show ¬ Handled.openLocker = .closeLocker from Handled.noConfusion),
      Nat.add_zero] at h
    rwa [cost_countP _ es _ s hrun] at h
  · have hbudget := run_budget (Φ := fun _ => 0) (f := fun s e => (s.returned out e).length)
      (g := fun _ e => (doorClosed e).toNat) (C := fun s _ => NamesFree out.U s) hsilent
      (fun s e _ hq _ _ => by
        have hlen := returned_length out hq e
        omega)
      es (.start st) s hstart hnames.along hrun
    rw [cost_countP _ es _ s hrun, Nat.zero_add, Nat.zero_add] at hbudget
    exact hbudget
  · rintro f rfl
    have hlast : ThreadsSilent (f 0) :=
      run_invariant (fun s e s' hq hfree hs => hsilent s e s' hq hfree hs) es (.start st) (f 0) hstart
        hnames.along hrun
    have hdescent : ∀ s e s', ThreadsSilent s → internal e = true → Traffic.step out s e = some s' →
        ThreadsSilent s' ∧ remaining s' < remaining s :=
      fun _ _ _ hq he hs => ⟨hq.step hs, remaining_step hq he hs⟩
    exact no_endless_run wellFounded_lt remaining hdescent f hlast

/-! ## One door -/

/-- Boards that answer, and a discovery that finds none. -/
def sampleAnswers : Answers where
  reply := [(py "result", .lit "OK"), (py "door", .bool true)]
  io := sampleSetupOutside
  found := []

/-- A slot is opened by others, its door closes, and the broker returns the close command. -/
def openedAndClosed : List TrafficEvent :=
  [.others (Handled.openLocker.topic (py "A")) (some (.obj (openMessage 1 "L-1"))),
    .deliver 0 sampleAnswers, .door (.int 1) .DOOR_CLOSED (.int 2), .deliver 0 sampleAnswers]

/-- `no_feedback` at that run: each call has its cause, and nothing is left. -/
theorem no_feedback_closed :
    calls sampleOutside .openLocker stateA openedAndClosed = 1 ∧
      calls sampleOutside .closeLocker stateA openedAndClosed = 1 ∧
      ∃ s, run (Traffic.step sampleOutside) (.start stateA) openedAndClosed = some s ∧
        s.inbox = [] ∧ NoFeedback sampleOutside stateA openedAndClosed s :=
  ⟨by decide +kernel, by decide +kernel, _, rfl, rfl,
    no_feedback sampleOutside stateA openedAndClosed _ (by decide +kernel) rfl⟩

end SmartLocker.System
