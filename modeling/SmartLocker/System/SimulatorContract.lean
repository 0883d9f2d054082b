import SmartLocker.Gateway.Simulator
import SmartLocker.System.EndToEnd
import SmartLocker.System.Routing

/-!
# One contract for the demo cabinet and the gateway

The demo cabinet takes the slot of an open command from `box_id` or `boxId` and answers whatever it is;
the gateway takes it from `slotIndex` and does not answer without one.  `simulator_contract` says for
which payloads the gateway answers as the demo cabinet does.
-/

set_option autoImplicit false

namespace SmartLocker.System

open Lib Lib.Python SmartLocker.Gateway

/-- The topic of the results of open commands. -/
def openResultTopic (name : PyStr) : PyStr := cabinetTopic name "command/open/result"

/-- The results that the demo cabinet publishes for an open command. -/
def simulatedResults (io : SimulatorOutside) (known : List PyStr) (name : PyStr) (d : Dict) :
    List Dict :=
  Simulator.publishedOn (openResultTopic name)
    (Simulator.reaction io known (Handled.openLocker.topic name) (some (.obj d)))

/-- The results that the gateway publishes for it. -/
def gatewayResults (out : Outside) (st : CabinetState) (reply : Dict) (name : PyStr) (d : Dict) :
    List Dict :=
  publishedOn (openResultTopic name) (openEffects out st reply name d)

/-- One result with the command id. -/
def AnsweredOnce (command_id : Json) (results : List Dict) : Prop :=
  ∃ p, results = [p] ∧ getD p "commandId" .null = command_id

/-! ## The demo cabinet -/

/-- The demo cabinet replies to an open command: the name has no slash, learning the cabinet and
printing the command raise nothing, and the client takes the topic of the result. -/
structure SimulatorAnswers (io : SimulatorOutside) (known : List PyStr) (name : PyStr) (d : Dict) :
    Prop where
  free : PyChar.uni '/' ∉ name
  learned : name ∈ known ∨
    io.print (py "[SIM] Learned cabinet " ++ name ++ py " -> heartbeating it") = .ok () ∧
      (io.isConnected = true → io.publish (cabinetTopic name "heartbeat") = .ok ())
  printed : io.print (Simulator.openLine io.U name d) = .ok ()
  accepted : io.publish (openResultTopic name) = .ok ()

theorem free_of_segment {name : PyStr} (h : segment name = name) : PyChar.uni '/' ∉ name := by
  intro hmem
  have hslash := List.takeWhile_eq_self_iff.mp h _ hmem
  simp [isSlash] at hslash

theorem learned_not_result (io : SimulatorOutside) (known : List PyStr) (name name' : PyStr) :
    Simulator.publishedOn (openResultTopic name')
      (Simulator.learnCabinet io known name).effects = [] := by
  refine Simulator.publishedOn_nil fun t p h => ?_
  rw [Simulator.learnCabinet_topic h]
  exact topic_ne (suffix_cabinetTopic name "heartbeat")
    (suffix_cabinetTopic name' "command/open/result") (by decide) (by decide)

/-- **The results of the demo cabinet**: one, when it replies. -/
theorem mem_simulatedResults {io : SimulatorOutside} {known : List PyStr} {name : PyStr} {d p : Dict} :
    p ∈ simulatedResults io known name d ↔ SimulatorAnswers io known name d ∧
      p = Simulator.replyPayload io name (getD d "commandId" .null)
        (getD d "box_id" (getD d "boxId" .null)) := by
  have hlast : ∀ l c b, Simulator.publishedOn (openResultTopic name)
      ((Simulator.started io (.reply l c b)).flatMap (Simulator.started io)) = [] := by
    intro l c b
    refine Simulator.publishedOn_nil fun t p h => ?_
    exact topic_ne (Simulator.replyAfterDelay_started h)
      (suffix_cabinetTopic name "command/open/result") (by decide) (by decide)
  have hreply := Simulator.publishedOn_reply io (segment name) name (getD d "commandId" .null)
    (getD d "box_id" (getD d "boxId" .null))
  unfold simulatedResults
  rw [Handled.topic, Simulator.reaction_open, Simulator.publishedOn_append, learned_not_result,
    List.nil_append]
  cases hl : (Simulator.learnCabinet io known (segment name)).result with
  | error e =>
    refine iff_of_false (by simp [Simulator.publishedOn]) fun h => ?_
    have hlearned := Simulator.learnCabinet_ok.mpr h.1.learned
    rw [segment_free h.1.free, hlearned] at hl
    cases hl
  | ok u =>
    cases hp : io.print (Simulator.openLine io.U (segment name) d) with
    | error e =>
      refine iff_of_false (by simp [Simulator.publishedOn]) fun h => ?_
      have hprinted := h.1.printed
      rw [segment_free h.1.free, hprinted] at hp
      cases hp
    | ok _ =>
      dsimp only
      have hresults : Simulator.publishedOn (openResultTopic name)
          (.reply (segment name) (getD d "commandId" .null) (getD d "box_id" (getD d "boxId" .null)) ::
            Simulator.started io (.reply (segment name) (getD d "commandId" .null)
              (getD d "box_id" (getD d "boxId" .null)))) =
          if segment name = name ∧ io.publish (openResultTopic name) = .ok () then
            [Simulator.replyPayload io (segment name) (getD d "commandId" .null)
              (getD d "box_id" (getD d "boxId" .null))]
          else [] := hreply
      rw [Simulator.publishedOn_append, hlast, List.append_nil, hresults]
      constructor
      · intro h
        split at h
        · rename_i hboth
          rw [hboth.1] at hl hp h
          exact ⟨⟨free_of_segment hboth.1, Simulator.learnCabinet_ok.mp hl, hp, hboth.2⟩,
            List.mem_singleton.mp h⟩
        · cases h
      · rintro ⟨h, rfl⟩
        have hsegment := segment_free h.free
        rw [if_pos ⟨hsegment, h.accepted⟩, hsegment]
        exact List.mem_singleton_self _

/-! ## The gateway -/

/-- The verdict of the gateway on an open command for a cabinet. -/
def gatewayVerdict (out : Outside) (reply : Dict) (cab d : Dict) : Verdict :=
  openVerdict out.U (commandResult
    (openCommand out.U (getD d "slotIndex" .null) (slaveIdOf cab)) (getD d "slotIndex" .null)
    (slaveIdOf cab) reply)

theorem publishedOn_openReport (out : Outside) (name : PyStr) (q : CommandMessage) (v : Verdict)
    (c s : Key) :
    publishedOn (openResultTopic name) (openReport out name q v c s) =
      if out.publish (openResultTopic name) = .ok () then [resultPayload q v (out.now 0)] else [] := by
  have hne : ackTopic out.U name q ≠ openResultTopic name := ackTopic_ne out.U name q
  unfold openReport
  dsimp only
  cases hr : out.publish (cabinetTopic name "command/open/result") with
  | error e =>
    have hno : out.publish (openResultTopic name) ≠ .ok () := by
      intro h
      rw [openResultTopic, hr] at h
      cases h
    rw [if_neg hno]
    rfl
  | ok _ =>
    rw [if_pos (show out.publish (openResultTopic name) = .ok () from hr)]
    cases out.publish (ackTopic out.U name q) with
    | error e => simp [publishedOn, openResultTopic]
    | ok _ =>
      unfold openResultTopic at hne ⊢
      simp [publishedOn, hne]

/-- **The results of the gateway**: one, for a slot that is a dict key, if the client takes its
topic. -/
theorem gatewayResults_eq (out : Outside) {st : CabinetState} (reply : Dict) {name : PyStr} (d : Dict)
    {cab : Dict} (hfree : PyChar.uni '/' ∉ name) (hcab : st.getCabinetByName name = some cab) :
    gatewayResults out st reply name d =
      if Handled.openLocker.takes (getD d "slotIndex" .null) = true ∧
          out.publish (openResultTopic name) = .ok () then
        [resultPayload (CommandMessage.ofData d) (gatewayVerdict out reply cab d) (out.now 0)]
      else [] := by
  have hsegment := segment_free hfree
  obtain ⟨id, k, hid, hk, -⟩ := CabinetState.id_of_mem (CabinetState.getCabinetByName_spec hcab).1
  have heffects : openEffects out st reply name d =
      (if notNone (getD d "slotIndex" .null) then
        runOpen out reply name id (slaveIdOf cab) (CommandMessage.ofData d) else pure ()).effects := by
    rw [openEffects, handle_command_topic, reached_free .openLocker hfree]
    dsimp only
    rw [handleOpenCommand, handleCommand_topic st .openLocker name d _ (by rwa [hsegment]) hid, hsegment]
  unfold gatewayResults
  rw [heffects]
  cases hslot : notNone (getD d "slotIndex" .null) with
  | false =>
    rw [if_neg Bool.false_ne_true, if_neg fun h => by simp [Handled.takes, hslot] at h]
    rfl
  | true =>
    rw [if_pos rfl]
    cases hhash : (getD d "slotIndex" .null).hashable with
    | false =>
      have hthrow : runOpen out reply name id (slaveIdOf cab) (CommandMessage.ofData d) =
          Py.throw .TypeError := by
        have hq : (CommandMessage.ofData d).slot_index.hashable = false := hhash
        unfold runOpen
        rw [updateLockerState_unhashable (by simp [hq])]
        rfl
      rw [hthrow, if_neg fun h => by simp [Handled.takes, hhash] at h]
      rfl
    | true =>
      obtain ⟨s, hs⟩ := key_ok hhash
      have htakes : Handled.openLocker.takes (getD d "slotIndex" .null) = true := by
        simp [Handled.takes, hslot, hhash]
      have hwrites : publishedOn (openResultTopic name)
          ((written (openCommand out.U (CommandMessage.ofData d).slot_index (slaveIdOf cab))).toList.map
            .write) = [] := by
        cases written (openCommand out.U (CommandMessage.ofData d).slot_index (slaveIdOf cab)) <;> rfl
      rw [runOpen_effects out reply name (slaveIdOf cab) (q := CommandMessage.ofData d) hk hs]
      simp only [htakes, true_and]
      have hreport := publishedOn_openReport out name (CommandMessage.ofData d)
        (gatewayVerdict out reply cab d) k s
      unfold publishedOn at hwrites hreport ⊢
      rw [List.filterMap_append, List.filterMap_cons, hwrites, List.nil_append]
      exact hreport

/-! ## The contract -/

/-- **One contract**: each result that the demo cabinet publishes for an open command has one result of
the gateway with its command id, if and only if the gateway takes the slot index of every command that
the demo cabinet answers, and its client the topic. -/
theorem simulator_contract (io : SimulatorOutside) (known : List PyStr) (out : Outside)
    (st : CabinetState) (reply : Dict) (name : PyStr) (d : Dict)
    (hcab : (st.getCabinetByName name).isSome = true) :
    (∀ p ∈ simulatedResults io known name d,
        AnsweredOnce (getD p "commandId" .null) (gatewayResults out st reply name d)) ↔
      (SimulatorAnswers io known name d →
        Handled.openLocker.takes (getD d "slotIndex" .null) = true ∧
          out.publish (openResultTopic name) = .ok ()) := by
  obtain ⟨cab, hcab⟩ := Option.isSome_iff_exists.mp hcab
  have hid : ∀ box_id, getD (Simulator.replyPayload io name (getD d "commandId" .null) box_id)
      "commandId" .null = getD d "commandId" .null := fun _ => by simp [Simulator.replyPayload, getD]
  constructor
  · intro h hanswers
    obtain ⟨p, hp, -⟩ := h _ (mem_simulatedResults.mpr ⟨hanswers, rfl⟩)
    rw [gatewayResults_eq out reply d hanswers.free hcab] at hp
    by_contra hno
    rw [if_neg hno] at hp
    cases hp
  · intro h p hp
    obtain ⟨hanswers, rfl⟩ := mem_simulatedResults.mp hp
    refine ⟨_, (gatewayResults_eq out reply d hanswers.free hcab).trans (if_pos (h hanswers)), ?_⟩
    rw [hid]
    simp [resultPayload, getD, CommandMessage.ofData]

/-! ## The message of the backend -/

/-- A demo cabinet whose client takes every topic. -/
def sampleSimulator : SimulatorOutside where
  toOutside := sampleOutside
  SIM_FORCE_FAIL := false
  isConnected := true
  isConnectedAt := fun _ => true
  print := fun _ => .ok ()
  printReply := fun _ _ => .ok ()

/-- `simulator_contract` at an open command with a slot index. -/
theorem simulator_contract_slotIndex :
    (stateA.getCabinetByName (py "A")).isSome = true ∧
      ∀ p ∈ simulatedResults sampleSimulator [] (py "A") (openMessage 1 "L-1"),
        AnsweredOnce (getD p "commandId" .null)
          (gatewayResults sampleOutside stateA [] (py "A") (openMessage 1 "L-1")) :=
  ⟨rfl, (simulator_contract sampleSimulator [] sampleOutside stateA [] (py "A") (openMessage 1 "L-1")
    rfl).mpr fun _ => ⟨by rfl, rfl⟩⟩

/-- The open command that the script is written for. -/
def boxMessage : Dict :=
  [(py "commandId", .lit "c-1"), (py "box_id", .int 3), (py "action", .lit "OPEN"),
    (py "timeout", .int 15)]

/-- **The gateway does not answer it.** -/
theorem box_unanswered :
    (stateA.getCabinetByName (py "A")).isSome = true ∧
      (simulatedResults sampleSimulator [] (py "A") boxMessage).map (fun p => getD p "commandId" .null) =
        [.lit "c-1"] ∧
      gatewayResults sampleOutside stateA [] (py "A") boxMessage = [] ∧
      ¬ ∀ p ∈ simulatedResults sampleSimulator [] (py "A") boxMessage,
          AnsweredOnce (getD p "commandId" .null)
            (gatewayResults sampleOutside stateA [] (py "A") boxMessage) := by
  have hnone : gatewayResults sampleOutside stateA [] (py "A") boxMessage = [] := by rfl
  refine ⟨rfl, by rfl, hnone, fun h => ?_⟩
  have hanswers : SimulatorAnswers sampleSimulator [] (py "A") boxMessage :=
    ⟨by decide, Or.inr ⟨rfl, fun _ => rfl⟩, rfl, rfl⟩
  obtain ⟨p, hp, -⟩ := h _ (mem_simulatedResults.mpr ⟨hanswers, rfl⟩)
  rw [hnone] at hp
  cases hp

end SmartLocker.System
