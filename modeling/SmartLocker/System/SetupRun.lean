import SmartLocker.System.Subscriptions

/-!
# The course of a setup run

The pass over one cabinet in two halves: `reportCabinet` tests the slots and publishes the result, and
`storeReported` saves what was reported and subscribes the open topic.  The first half only writes and
publishes; the second one does a beginning of four things in a fixed order.
-/

set_option autoImplicit false

namespace SmartLocker.System

open Lib Lib.Python SmartLocker.Gateway

/-! ## The two halves -/

/-- What the second half uses of the first. -/
structure Report where
  cabinet_id : Json
  cab_data : Dict
  cabinet_name : Json
  layout : Json
  slots : List Json
  tally : Tally

/-- Up to the publication of the result. -/
def reportCabinet (io : SetupOutside) (topicPrefix : PyStr) (command_id : Json) (j : Nat)
    (cab : Json) : Py ServiceEffect Report := do
  let cabinet_id ← Py.ofExcept (cab.subscript "cabinetId")
  let cab_data ← Py.ofExcept cab.asDict
  let cabinet_name ← Py.ofExcept (cabinetName io.U cab_data cabinet_id)
  let layout := getD cab_data "lockerLayout" (.arr [])
  let total ← Py.ofExcept layout.len
  let slots ← Py.ofExcept layout.iter
  let r : CabinetRun :=
    ⟨j, topicPrefix, command_id, cabinet_id, getD cab_data "slaveId" (.int 1), total⟩
  let t ← runTests io r slots.zipIdx {}
  let details ← Py.ofExcept ((slots.zip t.results).mapM (fun p => lockerDetail p.1 p.2))
  mqttPublish io.toOutside (topicPrefix ++ py "/setup/result")
    (resultSummary r (setupStatus t) total t.ok_count t.fail_count (io.duration j) details
      (io.now j))
  pure ⟨cabinet_id, cab_data, cabinet_name, layout, slots, t⟩

/-- After the publication of the result. -/
def storeReported (io : SetupOutside) (j : Nat) (r : Report) : Py ServiceEffect Unit :=
  if setupStatus r.tally = "FAILED" then pure ()
  else do
    callSaveCabinet io j (setupArgs r.cab_data r.cabinet_id r.cabinet_name)
    callSaveLockers io j r.cabinet_id r.layout
    onSetupComplete io (r.cabinet_name.pyStr io.U)

theorem setupCabinet_eq (io : SetupOutside) (topicPrefix : PyStr) (command_id : Json) (j : Nat)
    (cab : Json) :
    setupCabinet io topicPrefix command_id j cab =
      reportCabinet io topicPrefix command_id j cab >>= storeReported io j := by
  simp only [setupCabinet, reportCabinet, Py.bind_assoc, Py.pure_bind, storeReported]

/-- The first half writes and publishes. -/
theorem reportCabinet_effects (io : SetupOutside) (topicPrefix : PyStr) (command_id : Json) (j : Nat)
    (cab : Json) : Py.Emits TestEffect (reportCabinet io topicPrefix command_id j cab) := by
  unfold reportCabinet
  iterate 5 refine (Py.emits_ofExcept _).bind fun _ => ?_
  refine (runTests_effects _ _ _ _).bind fun t => (Py.emits_ofExcept _).bind fun details => ?_
  exact (mqttPublish_effects _ _ _).bind fun _ => Py.emits_pure _

/-- The tests publish on the topic of the progress. -/
theorem runTests_topics {io : SetupOutside} {r : CabinetRun} {topic : PyStr} {payload : Dict}
    (slots : List (Json × Nat)) (t : Tally)
    (h : .publish topic payload ∈ (runTests io r slots t).effects) :
    topic = r.topicPrefix ++ py "/setup/progress" := by
  induction slots generalizing t with
  | nil => cases h
  | cons s slots ih =>
    unfold runTests at h
    rcases Py.mem_bind_effects h with h | ⟨d, h⟩
    · cases h
    rcases Py.mem_bind_effects h with h | ⟨index, h⟩
    · cases h
    cases index with
    | none => exact ih t h
    | some k =>
      rcases Py.mem_bind_effects h with h | ⟨t', h⟩
      · rcases Py.mem_bind_effects h with h | ⟨result, h⟩
        · unfold testSlot at h
          rw [sendAndWait_eq] at h
          obtain ⟨_, _, heq⟩ := List.mem_map.mp h
          cases heq
        · rcases Py.mem_bind_effects h with h | ⟨-, h⟩
          · exact (mqttPublish_mem h).1
          · cases h
      · exact ih t' h

/-! ## A whole run -/

/-- The cabinets that a run goes through. -/
def visitedCabinets (payload : Dict) : Except PyErr (List Json) := do
  let cabinets ← cabinetsToProcess payload
  cabinets.iter

/-- What a run does to the location, before the cabinets. -/
def locationEffects (payload : Dict) : List ServiceEffect :=
  (if isBulk payload then [.clear] else []) ++
    [.saveLocation ((getD payload "locationId" .null).orElse (.lit "unknown-loc"))
      ((getD payload "locationName" .null).orElse (.lit "Unknown Location"))
      ((getD payload "address" .null).orElse (.lit ""))]

/-- What a run does for its cabinets. -/
def cabinetEffects (io : SetupOutside) (payload : Dict) (topicPrefix : PyStr) (cabs : List Json) :
    List ServiceEffect :=
  match io.persistLocation with
  | .error _ => []
  | .ok _ =>
    (setupCabinets io topicPrefix (getD payload "commandId" (.lit "no-id")) cabs.zipIdx).effects

/-- **The effects of a run**: the location, then cabinet after cabinet. -/
theorem runSetup_eq (io : SetupOutside) (payload : Dict) (topicPrefix : PyStr) :
    runSetup io payload topicPrefix =
      match visitedCabinets payload with
      | .error _ => []
      | .ok cabs => locationEffects payload ++ cabinetEffects io payload topicPrefix cabs := by
  unfold runSetup setupBody visitedCabinets locationEffects cabinetEffects callSaveLocation
  cases cabinetsToProcess payload with
  | error e => rfl
  | ok cabinets =>
    unfold Json.len
    have hok : ∀ (x : Json), (Except.ok x >>= Json.iter : Except PyErr (List Json)) = x.iter :=
      fun _ => rfl
    rw [hok, Py.ofExcept_ok_bind]
    cases cabinets.iter with
    | error e => rfl
    | ok cabs =>
      cases io.persistLocation with
      | error e => cases isBulk payload <;> rfl
      | ok _ => cases isBulk payload <;> rfl

theorem handleSetup_effects (io : SetupOutside) (payload : Dict) (topicPrefix : PyStr) :
    Py.Emits TestEffect (handleSetup io payload topicPrefix) := by
  unfold handleSetup
  split
  · exact Py.emits_pure _
  · refine (Py.emits_ofExcept _).bind fun n => ?_
    split
    · exact (mqttPublish_effects _ _ _).bind fun _ => Py.emits_pure _
    · exact Py.emits_pure _

/-! ## The second half -/

/-- The lockers that `save_lockers` stores, when it gets to the memory. -/
def takenLockers (io : SetupOutside) (j : Nat) (cabinet_id lockers : Json) :
    Except PyErr (List Dict) := do
  let ls ← lockers.iter
  io.persistLockers j
  let ds ← ls.mapM (fun l => match l with
    | .obj d => .ok d
    | _ => .error .TypeError)
  let _ ← ds.mapM (lockerData cabinet_id)
  let _ ← cabinet_id.key
  .ok ds

theorem callSaveLockers_eq (io : SetupOutside) (j : Nat) (cabinet_id lockers : Json) :
    callSaveLockers io j cabinet_id lockers =
      Py.ofExcept (takenLockers io j cabinet_id lockers) >>= fun ds =>
        Py.emit (.saveLockers cabinet_id ds) := by
  unfold callSaveLockers takenLockers
  rw [Py.ofExcept_bind, Py.bind_assoc]
  refine bind_congr fun ls => ?_
  rw [Py.ofExcept_bind, Py.bind_assoc]
  refine bind_congr fun _ => ?_
  rw [Py.ofExcept_bind, Py.bind_assoc]
  refine bind_congr fun ds => ?_
  rw [Py.ofExcept_bind, Py.bind_assoc]
  refine bind_congr fun _ => ?_
  rw [Py.ofExcept_bind, Py.bind_assoc]
  exact bind_congr fun _ => rfl

/-- What follows a `save_cabinet` that has reached the memory. -/
def afterSave (io : SetupOutside) (j : Nat) (r : Report) : List ServiceEffect :=
  match io.persistCabinet j, takenLockers io j r.cabinet_id r.layout with
  | .ok _, .ok ds =>
    .saveLockers r.cabinet_id ds ::
      match io.subscribe (cabinetTopic (r.cabinet_name.pyStr io.U) "command/open") with
      | .ok _ => [.subscribe (cabinetTopic (r.cabinet_name.pyStr io.U) "command/open"), .heartbeatStart]
      | .error _ => []
  | _, _ => []

/-- **What the second half does**: nothing for a failed cabinet or an id that is no dict key, else the
save and what follows it. -/
theorem storeReported_effects (io : SetupOutside) (j : Nat) (r : Report) :
    (storeReported io j r).effects =
      if setupStatus r.tally = "FAILED" then []
      else
        match r.cabinet_id.key with
        | .error _ => []
        | .ok _ =>
          .saveCabinet (setupArgs r.cab_data r.cabinet_id r.cabinet_name) :: afterSave io j r := by
  unfold storeReported
  split
  · rfl
  have hid : (setupArgs r.cab_data r.cabinet_id r.cabinet_name).cabinet_id = r.cabinet_id := rfl
  unfold callSaveCabinet afterSave onSetupComplete subscribeOpenCommand
  rw [callSaveLockers_eq, hid]
  cases r.cabinet_id.key with
  | error e => rfl
  | ok k =>
    cases io.persistCabinet j with
    | error e => rfl
    | ok _ =>
      cases takenLockers io j r.cabinet_id r.layout with
      | error e => rfl
      | ok ds =>
        cases io.subscribe (cabinetTopic (r.cabinet_name.pyStr io.U) "command/open") with
        | error e => rfl
        | ok _ => rfl

/-! ## Runs that save nothing -/

/-- What does not get to `save_cabinet` only writes and publishes. -/
theorem setupCabinet_noSave {io : SetupOutside} {topicPrefix : PyStr} {command_id : Json} {j : Nat}
    {cab : Json} (h : ∀ e ∈ (setupCabinet io topicPrefix command_id j cab).effects, NoSave e) :
    ∀ e ∈ (setupCabinet io topicPrefix command_id j cab).effects, TestEffect e := by
  rw [setupCabinet_eq] at h ⊢
  cases hr : (reportCabinet io topicPrefix command_id j cab).result with
  | error err =>
    rw [Py.bind_error hr]
    exact reportCabinet_effects _ _ _ _ _
  | ok r =>
    rw [Py.bind_ok hr] at h ⊢
    dsimp only at h ⊢
    have hnone : (storeReported io j r).effects = [] := by
      rw [storeReported_effects] at h ⊢
      split
      · rfl
      · rename_i hstatus
        rw [if_neg hstatus] at h
        cases hkey : r.cabinet_id.key with
        | error e => rfl
        | ok k =>
          rw [hkey] at h
          exact absurd rfl (h _ (List.mem_append_right _ List.mem_cons_self) _)
    rw [hnone, List.append_nil]
    exact reportCabinet_effects _ _ _ _ _

theorem setupCabinets_noSave {io : SetupOutside} {topicPrefix : PyStr} {command_id : Json}
    (cabs : List (Json × Nat))
    (h : ∀ e ∈ (setupCabinets io topicPrefix command_id cabs).effects, NoSave e) :
    ∀ e ∈ (setupCabinets io topicPrefix command_id cabs).effects, TestEffect e := by
  induction cabs with
  | nil => exact fun e he => absurd he (by simp [setupCabinets])
  | cons c cabs ih =>
    unfold setupCabinets at h ⊢
    cases hr : (setupCabinet io topicPrefix command_id c.2 c.1).result with
    | error err =>
      rw [Py.bind_error hr] at h ⊢
      exact setupCabinet_noSave h
    | ok _ =>
      rw [Py.bind_ok hr] at h ⊢
      intro e he
      rcases List.mem_append.mp he with he | he
      · exact setupCabinet_noSave (fun e he => h e (List.mem_append_left _ he)) e he
      · exact ih (fun e he => h e (List.mem_append_right _ he)) e he

end SmartLocker.System
