import SmartLocker.System.DoorEvents

/-!
# Reported setups

A run publishes the result of a cabinet and only then saves it, stores its lockers and subscribes its
open topic; an exception in between ends the run.  The tests convert a slot index with `int`, the map of
the lockers takes it as it is.  `reported_setups` says for which runs every cabinet that is reported as
completed, or in part, is in operation in the end.
-/

set_option autoImplicit false

namespace SmartLocker.System

open Lib Lib.Python SmartLocker.Gateway

/-! ## Reported cabinets -/

/-- The cabinet that a message reports as completed, or in part. -/
def reportedBy (topicPrefix : PyStr) : ServiceEffect → Option Json
  | .publish topic payload =>
    if topic = topicPrefix ++ py "/setup/result" ∧
        ((getD payload "status" .null).pyEq (.lit "COMPLETED") ||
          (getD payload "status" .null).pyEq (.lit "PARTIAL")) = true then
      get? payload "cabinetId"
    else none
  | _ => none

/-- The cabinets that a run reports with another status than `FAILED`, each with its place. -/
def reports (io : SetupOutside) (topicPrefix : PyStr) (command_id : Json) :
    List (Json × Nat) → List (Nat × Report)
  | [] => []
  | (cab, j) :: rest =>
    match (reportCabinet io topicPrefix command_id j cab).result with
    | .error _ => []
    | .ok r =>
      if setupStatus r.tally = "FAILED" then reports io topicPrefix command_id rest
      else
        (j, r) ::
          match (storeReported io j r).result with
          | .ok _ => reports io topicPrefix command_id rest
          | .error _ => []

/-- The cabinets that the run of a command reports. -/
def reported (io : SetupOutside) (payload : Dict) (topicPrefix : PyStr) : List (Nat × Report) :=
  match visitedCabinets payload, io.persistLocation with
  | .ok cabs, .ok _ =>
    reports io topicPrefix (getD payload "commandId" (.lit "no-id")) cabs.zipIdx
  | _, _ => []

/-- The entry was tested at slot `k`. -/
def testedAt (U : Unicode) (k : Int) (slot : Dict) : Bool :=
  match slotIndexOf U slot with
  | .ok (some n) => n = k
  | _ => false

/-- The last entry of a layout that was tested at slot `k`. -/
def lastTested (U : Unicode) (slots : List Json) (k : Int) : Option Dict :=
  (slots.filterMap (fun s => s.asDict.toOption)).reverse.find? (testedAt U k)

/-- The open topic of a reported cabinet. -/
def openTopicOf (U : Unicode) (r : Report) : PyStr :=
  cabinetTopic (r.cabinet_name.pyStr U) "command/open"

/-- The cabinet is in the state, its open topic is among what was subscribed, and each slot that was
tested finds the id of its entry. -/
def Operational (U : Unicode) (effects : List ServiceEffect) (st : CabinetState) (r : Report) : Prop :=
  ∃ c, r.cabinet_id.key = .ok c ∧ (st.getCabinetById c).isSome ∧
    .subscribe (openTopicOf U r) ∈ effects ∧
    ∀ k slot, lastTested U r.slots k = some slot → ∃ v locker, item slot "id" = .ok v ∧
      st.getLockerBySlot c (.num (.fin k)) = some locker ∧ item locker "id" = .ok v

/-! ## When nothing is missing -/

/-- The lockers that are stored for a reported cabinet: none when its id is no dict key, when writing
the cabinet or the lockers raises, or when an entry of the layout is no dict with `slotIndex`, `id` and
`label`. -/
def storedLockers (io : SetupOutside) (p : Nat × Report) : Option (List Dict) :=
  match p.2.cabinet_id.key, io.persistCabinet p.1,
    takenLockers io p.1 p.2.cabinet_id p.2.layout with
  | .ok _, .ok _, .ok lockers => some lockers
  | _, _, _ => none

/-- The open topic of the cabinet is subscribed: its lockers are stored and the client takes the
topic. -/
def subscribed (io : SetupOutside) (p : Nat × Report) : Bool :=
  (storedLockers io p).isSome && (io.subscribe (openTopicOf io.U p.2)).toBool

/-- The id that the last entry with the slot index `k`, as it is in the layout, has. -/
def rawId (lockers : List Dict) (k : Int) : Option Json :=
  (lockers.reverse.find? (fun d => hasKey (.num (.fin k)) (getD d "slotIndex" .null))).bind
    (get? · "id")

/-- The lockers stored last for the cabinet `c`. -/
def lastLockers (io : SetupOutside) (c : Key) (ps : List (Nat × Report)) : Option (List Dict) :=
  ps.reverse.findSome? (fun p => if hasKey c p.2.cabinet_id then storedLockers io p else none)

/-- The id that is found for slot `k` of the cabinet `c`. -/
def foundId (st : CabinetState) (c : Key) (k : Int) : Option Json :=
  (st.getLockerBySlot c (.num (.fin k))).bind (get? · "id")

/-- The id found for slot `k` of the cabinet `c` after the run: of the lockers stored last for it, else
what was there before. -/
def idAfter (io : SetupOutside) (st : CabinetState) (ps : List (Nat × Report)) (c : Key) (k : Int) :
    Option Json :=
  match lastLockers io c ps with
  | some lockers => rawId lockers k
  | none => foundId st c k

/-- Nothing is missing for a cabinet: it has a hashable id, its open topic is subscribed for it or for a
cabinet of its name, and by its raw slot indices each slot that was tested has the id of its entry. -/
def Served (io : SetupOutside) (st : CabinetState) (ps : List (Nat × Report)) (r : Report) : Prop :=
  ∃ c, r.cabinet_id.key = .ok c ∧
    (∃ q ∈ ps, openTopicOf io.U q.2 = openTopicOf io.U r ∧ subscribed io q = true) ∧
    ∀ k slot, lastTested io.U r.slots k = some slot →
      ∃ v, item slot "id" = .ok v ∧ idAfter io st ps c k = some v

/-! ## The effects of a run -/

/-- An effect of the tests. -/
def isTest : ServiceEffect → Bool
  | .write _ => true
  | .publish _ _ => true
  | _ => false

theorem isTest_iff {e : ServiceEffect} : isTest e = true ↔ TestEffect e := by
  cases e <;> simp [isTest, TestEffect]

theorem storeReported_failed (io : SetupOutside) (j : Nat) {r : Report}
    (h : setupStatus r.tally = "FAILED") : storeReported io j r = pure () := by
  unfold storeReported
  rw [if_pos h]

theorem storeReported_notTest {io : SetupOutside} {j : Nat} {r : Report} :
    ∀ e ∈ (storeReported io j r).effects, isTest e = false := by
  intro e he
  rw [storeReported_effects] at he
  split at he
  · cases he
  cases hkey : r.cabinet_id.key with
  | error err =>
    rw [hkey] at he
    cases he
  | ok k =>
    rw [hkey] at he
    rcases List.mem_cons.mp he with rfl | he
    · rfl
    · unfold afterSave at he
      split at he
      · rcases List.mem_cons.mp he with rfl | he
        · rfl
        · split at he
          · simp only [List.mem_cons, List.not_mem_nil, or_false] at he
            rcases he with rfl | rfl <;> rfl
          · cases he
      · cases he

/-- **What is left of a run without its tests**: the second half of each cabinet that is reported. -/
theorem setupCabinets_filter (io : SetupOutside) (topicPrefix : PyStr) (command_id : Json)
    (cabs : List (Json × Nat)) :
    (setupCabinets io topicPrefix command_id cabs).effects.filter (fun e => !isTest e) =
      (reports io topicPrefix command_id cabs).flatMap fun p => (storeReported io p.1 p.2).effects := by
  have htests : ∀ j cab, (reportCabinet io topicPrefix command_id j cab).effects.filter
      (fun e => !isTest e) = [] := by
    intro j cab
    rw [List.filter_eq_nil_iff]
    intro e he
    simpa using isTest_iff.mpr (reportCabinet_effects _ _ _ _ _ e he)
  have hstored : ∀ j r, (storeReported io j r).effects.filter (fun e => !isTest e) =
      (storeReported io j r).effects := by
    intro j r
    rw [List.filter_eq_self]
    intro e he
    simpa using storeReported_notTest e he
  induction cabs with
  | nil => rfl
  | cons c cabs ih =>
    obtain ⟨cab, j⟩ := c
    unfold setupCabinets reports
    rw [setupCabinet_eq, Py.bind_assoc]
    cases hr : (reportCabinet io topicPrefix command_id j cab).result with
    | error err =>
      rw [Py.bind_error hr]
      exact htests j cab
    | ok r =>
      rw [Py.bind_ok hr]
      dsimp only
      rw [List.filter_append, htests, List.nil_append]
      by_cases hfailed : setupStatus r.tally = "FAILED"
      · rw [if_pos hfailed, storeReported_failed io j hfailed, Py.pure_bind]
        exact ih
      · rw [if_neg hfailed]
        cases hs : (storeReported io j r).result with
        | error err =>
          rw [Py.bind_error hs, List.flatMap_cons, hstored]
          simp
        | ok _ =>
          rw [Py.bind_ok hs]
          dsimp only
          rw [List.filter_append, hstored, ih, List.flatMap_cons]

theorem reports_status {io : SetupOutside} {topicPrefix : PyStr} {command_id : Json}
    (cabs : List (Json × Nat)) :
    ∀ p ∈ reports io topicPrefix command_id cabs, setupStatus p.2.tally ≠ "FAILED" := by
  induction cabs with
  | nil => exact fun p hp => absurd hp (by simp [reports])
  | cons c cabs ih =>
    intro p hp
    unfold reports at hp
    split at hp
    · cases hp
    · split at hp
      · exact ih p hp
      · rename_i hstatus
        rcases List.mem_cons.mp hp with rfl | hp
        · exact hstatus
        · split at hp
          · exact ih p hp
          · cases hp

theorem foldl_withoutTests (st : CabinetState) (es : List ServiceEffect) :
    es.foldl CabinetState.apply st = (es.filter fun e => !isTest e).foldl CabinetState.apply st := by
  rw [List.foldl_filter]
  congr 1
  funext st e
  cases e <;> rfl

/-- The second half of a cabinet that is reported. -/
theorem storeReported_reported (io : SetupOutside) {p : Nat × Report}
    (h : setupStatus p.2.tally ≠ "FAILED") :
    (storeReported io p.1 p.2).effects =
      match p.2.cabinet_id.key with
      | .error _ => []
      | .ok _ => .saveCabinet (setupArgs p.2.cab_data p.2.cabinet_id p.2.cabinet_name) ::
        match storedLockers io p with
        | none => []
        | some lockers => .saveLockers p.2.cabinet_id lockers ::
          if subscribed io p then [.subscribe (openTopicOf io.U p.2), .heartbeatStart] else [] := by
  rw [storeReported_effects, if_neg h]
  unfold subscribed storedLockers afterSave openTopicOf
  cases p.2.cabinet_id.key with
  | error e => rfl
  | ok k =>
    cases io.persistCabinet p.1 with
    | error e => rfl
    | ok _ =>
      cases takenLockers io p.1 p.2.cabinet_id p.2.layout with
      | error e => rfl
      | ok lockers =>
        cases io.subscribe (cabinetTopic (p.2.cabinet_name.pyStr io.U) "command/open") <;> rfl

theorem storedLockers_some {io : SetupOutside} {p : Nat × Report} {lockers : List Dict}
    (h : storedLockers io p = some lockers) :
    ∃ k entries, p.2.cabinet_id.key = .ok k ∧
      lockers.mapM (lockerData p.2.cabinet_id) = .ok entries := by
  unfold storedLockers at h
  split at h
  · rename_i k _ lockers' hkey _ htaken
    cases h
    obtain ⟨_, -, htaken⟩ := except_bind_ok.mp htaken
    obtain ⟨_, -, htaken⟩ := except_bind_ok.mp htaken
    obtain ⟨ds, -, htaken⟩ := except_bind_ok.mp htaken
    obtain ⟨entries, hentries, htaken⟩ := except_bind_ok.mp htaken
    obtain ⟨_, -, htaken⟩ := except_bind_ok.mp htaken
    cases htaken
    exact ⟨k, entries, hkey, hentries⟩
  · cases h

theorem subscribe_mem_iff (io : SetupOutside) {p : Nat × Report}
    (h : setupStatus p.2.tally ≠ "FAILED") (topic : PyStr) :
    .subscribe topic ∈ (storeReported io p.1 p.2).effects ↔
      openTopicOf io.U p.2 = topic ∧ subscribed io p = true := by
  rw [storeReported_reported io h]
  cases hkey : p.2.cabinet_id.key with
  | error e => simp [subscribed, storedLockers, hkey]
  | ok k =>
    cases hs : storedLockers io p with
    | none => simp [subscribed, hs]
    | some lockers =>
      cases hsub : subscribed io p with
      | false => simp
      | true => simp [eq_comm]

/-! ## What is published -/

theorem reportedBy_stored {io : SetupOutside} {topicPrefix : PyStr} {j : Nat} {r : Report} :
    (storeReported io j r).effects.filterMap (reportedBy topicPrefix) = [] := by
  rw [List.filterMap_eq_nil_iff]
  intro e he
  have hnot := storeReported_notTest e he
  cases e with
  | publish _ _ => cases hnot
  | _ => rfl

theorem reportedBy_tests (io : SetupOutside) (r : CabinetRun) (slots : List (Json × Nat)) (t : Tally) :
    (runTests io r slots t).effects.filterMap (reportedBy r.topicPrefix) = [] := by
  rw [List.filterMap_eq_nil_iff]
  intro e he
  cases e with
  | publish topic payload =>
    have htopic := runTests_topics slots t he
    have hne : topic ≠ r.topicPrefix ++ py "/setup/result" := by
      rw [htopic]
      intro h
      exact absurd (List.append_cancel_left h) (by decide)
    rw [reportedBy, if_neg fun h => hne h.1]
  | _ => rfl

theorem reportedBy_summary (topicPrefix : PyStr) (r : CabinetRun) (t : Tally) (total ok fail : Nat)
    (duration : Int) (lockers : List Json) (timestamp : PyStr) :
    reportedBy topicPrefix (.publish (topicPrefix ++ py "/setup/result")
      (resultSummary r (setupStatus t) total ok fail duration lockers timestamp)) =
      if setupStatus t = "FAILED" then none else some r.cabinet_id := by
  have hid : ∀ status, get? (resultSummary r status total ok fail duration lockers timestamp)
      "cabinetId" = some r.cabinet_id := fun _ => by simp [resultSummary]
  have hstatus : ∀ status, getD (resultSummary r status total ok fail duration lockers timestamp)
      "status" .null = .lit status := fun _ => by simp [resultSummary, getD]
  rw [reportedBy, hid, hstatus, pyEq_lit, pyEq_lit]
  unfold setupStatus
  split
  · simp
  · split <;> simp

/-- **The first half publishes one result**, if it gets to its end. -/
theorem reportedBy_reportCabinet (io : SetupOutside) (topicPrefix : PyStr) (command_id : Json) (j : Nat)
    (cab : Json) :
    (reportCabinet io topicPrefix command_id j cab).effects.filterMap (reportedBy topicPrefix) =
      match (reportCabinet io topicPrefix command_id j cab).result with
      | .error _ => []
      | .ok r => if setupStatus r.tally = "FAILED" then [] else [r.cabinet_id] := by
  unfold reportCabinet
  cases cab.subscript "cabinetId" with
  | error e => rfl
  | ok cabinet_id =>
  rw [Py.ofExcept_ok_bind]
  cases cab.asDict with
  | error e => rfl
  | ok cab_data =>
  rw [Py.ofExcept_ok_bind]
  cases cabinetName io.U cab_data cabinet_id with
  | error e => rfl
  | ok cabinet_name =>
  rw [Py.ofExcept_ok_bind]
  dsimp only
  cases (getD cab_data "lockerLayout" (.arr [])).len with
  | error e => rfl
  | ok total =>
  rw [Py.ofExcept_ok_bind]
  cases (getD cab_data "lockerLayout" (.arr [])).iter with
  | error e => rfl
  | ok slots =>
  rw [Py.ofExcept_ok_bind]
  generalize hr : CabinetRun.mk j topicPrefix command_id cabinet_id
    (getD cab_data "slaveId" (.int 1)) total = r
  have htests := reportedBy_tests io r slots.zipIdx {}
  have htopic : r.topicPrefix = topicPrefix := by rw [← hr]
  have hid : r.cabinet_id = cabinet_id := by rw [← hr]
  rw [htopic] at htests
  cases ht : (runTests io r slots.zipIdx {}).result with
  | error e =>
    rw [Py.bind_error ht]
    exact htests
  | ok t =>
  rw [Py.bind_ok ht]
  dsimp only
  rw [List.filterMap_append, htests, List.nil_append]
  cases (slots.zip t.results).mapM (fun p => lockerDetail p.1 p.2) with
  | error e => rfl
  | ok details =>
  rw [Py.ofExcept_ok_bind]
  cases hp : io.publish (topicPrefix ++ py "/setup/result") with
  | error e =>
    rw [mqttPublish_error hp]
    rfl
  | ok _ =>
    rw [mqttPublish_ok hp, Py.mk_ok_bind]
    dsimp only
    rw [Py.effects_pure, List.append_nil, List.filterMap_cons, reportedBy_summary, Py.result_pure, hid]
    by_cases hfailed : setupStatus t = "FAILED"
    · simp only [if_pos hfailed, List.filterMap_nil]
    · simp only [if_neg hfailed, List.filterMap_nil]

theorem reportedBy_setupCabinets (io : SetupOutside) (topicPrefix : PyStr) (command_id : Json)
    (cabs : List (Json × Nat)) :
    (setupCabinets io topicPrefix command_id cabs).effects.filterMap (reportedBy topicPrefix) =
      (reports io topicPrefix command_id cabs).map (·.2.cabinet_id) := by
  induction cabs with
  | nil => rfl
  | cons c cabs ih =>
    obtain ⟨cab, j⟩ := c
    have hreport := reportedBy_reportCabinet io topicPrefix command_id j cab
    unfold setupCabinets reports
    rw [setupCabinet_eq, Py.bind_assoc]
    cases hr : (reportCabinet io topicPrefix command_id j cab).result with
    | error err =>
      rw [hr] at hreport
      rw [Py.bind_error hr]
      exact hreport
    | ok r =>
      rw [hr] at hreport
      rw [Py.bind_ok hr]
      dsimp only at hreport ⊢
      rw [List.filterMap_append, hreport]
      by_cases hfailed : setupStatus r.tally = "FAILED"
      · rw [if_pos hfailed, if_pos hfailed, storeReported_failed io j hfailed, Py.pure_bind]
        exact ih
      · rw [if_neg hfailed, if_neg hfailed, List.map_cons, List.singleton_append]
        congr 1
        cases hs : (storeReported io j r).result with
        | error err =>
          rw [Py.bind_error hs]
          exact reportedBy_stored
        | ok _ =>
          rw [Py.bind_ok hs]
          dsimp only
          rw [List.filterMap_append, reportedBy_stored]
          exact ih

/-- **The results that a run publishes** are those of the cabinets it reports. -/
theorem reportedBy_runSetup (io : SetupOutside) (payload : Dict) (topicPrefix : PyStr) :
    (runSetup io payload topicPrefix).filterMap (reportedBy topicPrefix) =
      (reported io payload topicPrefix).map (·.2.cabinet_id) := by
  have hlocation : (locationEffects payload).filterMap (reportedBy topicPrefix) = [] := by
    unfold locationEffects
    cases isBulk payload <;> rfl
  rw [runSetup_eq]
  unfold reported cabinetEffects
  cases visitedCabinets payload with
  | error e => rfl
  | ok cabs =>
    dsimp only
    rw [List.filterMap_append, hlocation, List.nil_append]
    cases io.persistLocation with
    | error e => rfl
    | ok _ => exact reportedBy_setupCabinets io topicPrefix _ _

/-! ## The lockers that are found -/

theorem lookup_lockerData {cabinet_id : Json} {ds : List Dict} {entries : List (Key × Dict)}
    (h : List.Forall₂ (fun d e => lockerData cabinet_id d = .ok e) ds entries) (s : Key) :
    (entries.lookup s).bind (get? · "id") =
      (ds.find? (fun d => hasKey s (getD d "slotIndex" .null))).bind (get? · "id") := by
  induction h with
  | nil => rfl
  | @cons d e ds entries hd _ ih =>
    obtain ⟨slot, hslot, hd⟩ := except_bind_ok.mp hd
    obtain ⟨id, hid, hd⟩ := except_bind_ok.mp hd
    obtain ⟨label, -, hd⟩ := except_bind_ok.mp hd
    obtain ⟨k, hk, hd⟩ := except_bind_ok.mp hd
    cases hd
    rw [OrdMap.lookup_cons_if, List.find?_cons, getD_of_item hslot]
    by_cases hsk : s = k
    · subst hsk
      rw [if_pos rfl, hasKey_iff.mpr hk]
      simp [item_ok_iff.mp hid]
    · have hother : hasKey s slot = false := by
        rw [Bool.eq_false_iff, Ne, hasKey_iff, hk]
        exact fun h => hsk (Except.ok.inj h).symm
      rw [if_neg hsk, hother]
      exact ih

theorem lockers_saveCabinet (st : CabinetState) (a : CabinetArgs) :
    (st.apply (.saveCabinet a)).lockers = st.lockers := by
  unfold CabinetState.apply
  dsimp only
  split
  · rename_i st' hst
    rcases CabinetState.saveCabinet_cases hst with ⟨-, rfl⟩ | ⟨_, _, _, _, -, -, -, rfl⟩
    · rfl
    · rfl
  · rfl

theorem foundId_saveLockers (st : CabinetState) {id : Json} {k : Key} {ds : List Dict}
    {entries : List (Key × Dict)} (hk : id.key = .ok k) (hentries : ds.mapM (lockerData id) = .ok entries)
    (c : Key) (slot : Int) :
    foundId (st.apply (.saveLockers id ds)) c slot =
      if c = k then rawId ds slot else foundId st c slot := by
  have hsave : st.saveLockers id ds =
      .ok { st with lockers := st.lockers.insert k (OrdMap.ofList entries) } := by
    unfold CabinetState.saveLockers
    rw [hentries, hk]
    rfl
  simp only [CabinetState.apply, hsave]
  unfold foundId CabinetState.getLockerBySlot
  dsimp only
  rw [OrdMap.find?_insert]
  split
  · rw [Option.bind_some, OrdMap.find?_ofList]
    exact lookup_lockerData (List.forall₂_reverse_iff.mpr (mapM_ok hentries)) _
  · rfl

/-- **The pass over one cabinet** changes the ids found for it, if its lockers are stored. -/
theorem foundId_storeReported (io : SetupOutside) {p : Nat × Report}
    (h : setupStatus p.2.tally ≠ "FAILED") (st : CabinetState) (c : Key) (k : Int) :
    foundId ((storeReported io p.1 p.2).effects.foldl CabinetState.apply st) c k =
      match (if hasKey c p.2.cabinet_id then storedLockers io p else none) with
      | some lockers => rawId lockers k
      | none => foundId st c k := by
  rw [storeReported_reported io h]
  have hkept : ∀ a, foundId (st.apply (.saveCabinet a)) c k = foundId st c k := by
    intro a
    unfold foundId CabinetState.getLockerBySlot
    rw [lockers_saveCabinet]
  cases hkey : p.2.cabinet_id.key with
  | error e =>
    have hnone : storedLockers io p = none := by simp only [storedLockers, hkey]
    rw [hnone, ite_self]
    rfl
  | ok k₀ =>
    cases hs : storedLockers io p with
    | none =>
      rw [ite_self]
      exact hkept _
    | some lockers =>
      obtain ⟨k₁, entries, hk₁, hentries⟩ := storedLockers_some hs
      rw [hkey] at hk₁
      cases hk₁
      have hrest : ∀ st₁ : CabinetState, (if subscribed io p = true then
          [ServiceEffect.subscribe (openTopicOf io.U p.2), .heartbeatStart]
          else []).foldl CabinetState.apply st₁ = st₁ := by
        intro st₁
        split <;> rfl
      have hiff : hasKey c p.2.cabinet_id = true ↔ c = k₀ := by
        rw [hasKey_iff, hkey]
        exact ⟨fun h => (Except.ok.inj h).symm, fun h => congrArg Except.ok h.symm⟩
      dsimp only
      rw [List.foldl_cons, List.foldl_cons, hrest, foundId_saveLockers _ hkey hentries, hkept]
      simp only [hiff]
      split <;> rfl

/-- **The ids found after a run**: those stored last for the cabinet. -/
theorem foundId_reports (io : SetupOutside) (ps : List (Nat × Report))
    (h : ∀ p ∈ ps, setupStatus p.2.tally ≠ "FAILED") (st : CabinetState) (c : Key) (k : Int) :
    foundId ((ps.flatMap fun p => (storeReported io p.1 p.2).effects).foldl CabinetState.apply st) c k =
      idAfter io st ps c k := by
  induction ps using List.reverseRecOn with
  | nil => rfl
  | append_singleton ps p ih =>
    have hp := h p (by simp)
    rw [List.flatMap_append, List.foldl_append, List.flatMap_singleton,
      foundId_storeReported io hp, ih fun q hq => h q (by simp [hq])]
    unfold idAfter lastLockers
    rw [List.reverse_append, List.reverse_singleton, List.singleton_append, List.findSome?_cons]
    generalize (if hasKey c p.2.cabinet_id = true then storedLockers io p else none) = r
    cases r with
    | none => rfl
    | some lockers => rfl

/-! ## The cabinets that are stored -/

theorem getCabinetById_saveCabinet {st : CabinetState} (hloc : Located st) {a : CabinetArgs} {k : Key}
    (hk : a.cabinet_id.key = .ok k) (c : Key) :
    ((st.apply (.saveCabinet a)).getCabinetById c).isSome = (c = k || (st.getCabinetById c).isSome) := by
  obtain ⟨loc, l, hl, hid⟩ := hloc
  have hkey : idKey (cabinetData l a) = .ok k := by rwa [idKey_cabinetData]
  have hsave := CabinetState.saveCabinet_ok hl hid hkey
  simp only [CabinetState.apply, hsave]
  unfold CabinetState.getCabinetById CabinetState.store
  rw [OrdMap.find?_insert]
  by_cases hck : c = k <;> simp [hck]

theorem stored_apply {st : CabinetState} (hloc : Located st) {c : Key} {e : ServiceEffect}
    (he : CabinetEffect e) (h : (st.getCabinetById c).isSome = true) :
    ((st.apply e).getCabinetById c).isSome = true := by
  cases e with
  | clear => exact he.elim
  | saveLocation _ _ _ => exact he.elim
  | saveCabinet a =>
    obtain ⟨k, hk⟩ := he
    rw [getCabinetById_saveCabinet hloc hk, h]
    simp
  | saveLockers id ls =>
    unfold CabinetState.apply
    dsimp only
    split
    · rename_i st' hst
      obtain ⟨m, rfl⟩ := CabinetState.saveLockers_ok hst
      exact h
    · exact h
  | _ => exact h

/-- A run takes no cabinet out of the state. -/
theorem stored_effects {st : CabinetState} (hloc : Located st) {c : Key} (es : List ServiceEffect)
    (hes : ∀ e ∈ es, CabinetEffect e)
    (h : (st.getCabinetById c).isSome = true ∨
      ∃ a, .saveCabinet a ∈ es ∧ a.cabinet_id.key = .ok c) :
    ((es.foldl CabinetState.apply st).getCabinetById c).isSome = true := by
  induction es generalizing st with
  | nil =>
    rcases h with h | ⟨a, ha, -⟩
    · exact h
    · cases ha
  | cons e es ih =>
    have he := hes e List.mem_cons_self
    refine ih (hloc.apply he) (fun e' he' => hes e' (List.mem_cons_of_mem _ he')) ?_
    rcases h with h | ⟨a, ha, hk⟩
    · exact Or.inl (stored_apply hloc he h)
    · rcases List.mem_cons.mp ha with rfl | ha
      · left
        rw [getCabinetById_saveCabinet hloc hk]
        simp
      · exact Or.inr ⟨a, ha, hk⟩

/-! ## The whole run -/

theorem reported_status (io : SetupOutside) (payload : Dict) (topicPrefix : PyStr) :
    ∀ p ∈ reported io payload topicPrefix, setupStatus p.2.tally ≠ "FAILED" := by
  intro p hp
  unfold reported at hp
  split at hp
  · exact reports_status _ p hp
  · cases hp

/-- **A run without its tests**: the location, then what is stored for each cabinet that is reported. -/
theorem runSetup_filter (io : SetupOutside) (payload : Dict) (topicPrefix : PyStr)
    (h : reported io payload topicPrefix ≠ []) :
    (runSetup io payload topicPrefix).filter (fun e => !isTest e) = locationEffects payload ++
      (reported io payload topicPrefix).flatMap fun p => (storeReported io p.1 p.2).effects := by
  have hlocation : (locationEffects payload).filter (fun e => !isTest e) = locationEffects payload := by
    unfold locationEffects
    cases isBulk payload <;> rfl
  rw [runSetup_eq]
  unfold reported cabinetEffects at *
  cases hc : visitedCabinets payload with
  | error e =>
    rw [hc] at h
    exact absurd rfl h
  | ok cabs =>
    rw [hc] at h
    cases hl : io.persistLocation with
    | error e =>
      rw [hl] at h
      exact absurd rfl h
    | ok _ =>
      dsimp only
      rw [List.filter_append, hlocation, setupCabinets_filter]

/-- The state once the location is saved. -/
theorem located_location (payload : Dict) (st : CabinetState) :
    Located ((locationEffects payload).foldl CabinetState.apply st) := by
  unfold locationEffects
  cases isBulk payload <;> exact ⟨_, _, rfl, rfl⟩

theorem foundId_location (payload : Dict) (st : CabinetState) (c : Key) (k : Int) :
    foundId ((locationEffects payload).foldl CabinetState.apply st) c k = foundId st c k := by
  unfold locationEffects
  cases isBulk payload <;> rfl

/-- A cabinet that is reported is stored. -/
theorem reported_stored (io : SetupOutside) (payload : Dict) (topicPrefix : PyStr) (st : CabinetState)
    {p : Nat × Report} (hp : p ∈ reported io payload topicPrefix) {c : Key}
    (hc : p.2.cabinet_id.key = .ok c) :
    (((runSetup io payload topicPrefix).foldl CabinetState.apply st).getCabinetById c).isSome := by
  rw [foldl_withoutTests, runSetup_filter io payload topicPrefix (List.ne_nil_of_mem hp),
    List.foldl_append]
  refine stored_effects (located_location payload st) _ ?_
    (Or.inr ⟨setupArgs p.2.cab_data p.2.cabinet_id p.2.cabinet_name, ?_, hc⟩)
  · intro e he
    obtain ⟨q, -, he⟩ := List.mem_flatMap.mp he
    exact storeReported_cabinetEffects e he
  · refine List.mem_flatMap.mpr ⟨p, hp, ?_⟩
    rw [storeReported_reported io (reported_status io payload topicPrefix p hp), hc]
    exact List.mem_cons_self

/-- What a run subscribes are open topics of cabinets that it reports. -/
theorem reported_subscribed (io : SetupOutside) (payload : Dict) (topicPrefix : PyStr)
    (hne : reported io payload topicPrefix ≠ []) (topic : PyStr) :
    .subscribe topic ∈ runSetup io payload topicPrefix ↔
      ∃ q ∈ reported io payload topicPrefix, openTopicOf io.U q.2 = topic ∧ subscribed io q = true := by
  have hmem : .subscribe topic ∈ runSetup io payload topicPrefix ↔
      .subscribe topic ∈ (runSetup io payload topicPrefix).filter fun e => !isTest e := by
    rw [List.mem_filter]
    exact ⟨fun h => ⟨h, rfl⟩, fun h => h.1⟩
  have hlocation : .subscribe topic ∉ locationEffects payload := by
    unfold locationEffects
    cases isBulk payload <;> simp
  rw [hmem, runSetup_filter io payload topicPrefix hne, List.mem_append, or_iff_right hlocation,
    List.mem_flatMap]
  exact exists_congr fun q => and_congr_right fun hq =>
    subscribe_mem_iff io (reported_status io payload topicPrefix q hq) topic

/-- The ids that are found after a run. -/
theorem reported_found (io : SetupOutside) (payload : Dict) (topicPrefix : PyStr) (st : CabinetState)
    (hne : reported io payload topicPrefix ≠ []) (c : Key) (k : Int) (v : Json) :
    (∃ locker, ((runSetup io payload topicPrefix).foldl CabinetState.apply
      st).getLockerBySlot c (.num (.fin k)) = some locker ∧ item locker "id" = .ok v) ↔
        idAfter io st (reported io payload topicPrefix) c k = some v := by
  have hfound : foundId ((runSetup io payload topicPrefix).foldl CabinetState.apply st) c k =
      idAfter io st (reported io payload topicPrefix) c k := by
    rw [foldl_withoutTests, runSetup_filter io payload topicPrefix hne, List.foldl_append,
      foundId_reports io _ (reported_status io payload topicPrefix)]
    unfold idAfter
    rw [foundId_location]
  rw [← hfound]
  unfold foundId
  rw [Option.bind_eq_some_iff]
  exact exists_congr fun locker => and_congr_right fun _ => item_ok_iff

/-- **One cabinet that is reported** is in operation after the run if and only if nothing is missing
for it. -/
theorem operational_iff (io : SetupOutside) (payload : Dict) (topicPrefix : PyStr) (st : CabinetState)
    {p : Nat × Report} (hp : p ∈ reported io payload topicPrefix) :
    Operational io.U (runSetup io payload topicPrefix)
        ((runSetup io payload topicPrefix).foldl CabinetState.apply st) p.2 ↔
      Served io st (reported io payload topicPrefix) p.2 := by
  have hne := List.ne_nil_of_mem hp
  unfold Operational Served
  refine exists_congr fun c => and_congr_right fun hc => ?_
  rw [and_iff_right (reported_stored io payload topicPrefix st hp hc),
    reported_subscribed io payload topicPrefix hne]
  refine and_congr_right fun _ => forall_congr' fun k => forall_congr' fun slot =>
    forall_congr' fun _ => ?_
  refine exists_congr fun v => ?_
  rw [← reported_found io payload topicPrefix st hne c k v]
  constructor
  · rintro ⟨locker, hv, hlocker, hlv⟩
    exact ⟨hv, locker, hlocker, hlv⟩
  · rintro ⟨hv, locker, hlocker, hlv⟩
    exact ⟨locker, hv, hlocker, hlv⟩

/-- **Reported setups**: the cabinets of the results with status `COMPLETED` or `PARTIAL` that a run
publishes are those it reports, and all of them are in operation when the run ends if and only if
nothing is missing for any. -/
theorem reported_setups (io : SetupOutside) (payload : Dict) (topicPrefix : PyStr) (st : CabinetState) :
    (runSetup io payload topicPrefix).filterMap (reportedBy topicPrefix) =
        (reported io payload topicPrefix).map (·.2.cabinet_id) ∧
      ((∀ p ∈ reported io payload topicPrefix,
          Operational io.U (runSetup io payload topicPrefix)
            ((runSetup io payload topicPrefix).foldl CabinetState.apply st) p.2) ↔
        ∀ p ∈ reported io payload topicPrefix,
          Served io st (reported io payload topicPrefix) p.2) :=
  ⟨reportedBy_runSetup io payload topicPrefix,
    forall_congr' fun _ => forall_congr' fun hp => operational_iff io payload topicPrefix st hp⟩

/-! ## A layout without ids -/

/-- A setup of one slot, its entry without `id` and `label`, with a prefix of its topics. -/
def withoutIds : Dict :=
  [(py "commandId", .lit "setup-123"), (py "cabinetId", .lit "cab-123"),
    (py "totalRows", .int 1), (py "totalColumns", .int 1),
    (py "lockerLayout", .arr [.obj [(py "slotIndex", .int 0), (py "row", .int 0),
      (py "column", .int 0)]])]

/-- What the run of `withoutIds` does, its test having succeeded. -/
def withoutIdsRun : List ServiceEffect :=
  runSetup sampleSetupOutside withoutIds (py "iot/AA:BB:CC:DD:EE:FF")

/-- **Reported as completed, and never subscribed**: storing the lockers raises a `KeyError`. -/
theorem completed_without_lockers :
    withoutIdsRun.filterMap (reportedBy (py "iot/AA:BB:CC:DD:EE:FF")) = [.lit "cab-123"] ∧
      ¬ ∀ p ∈ reported sampleSetupOutside withoutIds (py "iot/AA:BB:CC:DD:EE:FF"),
          Operational sampleSetupOutside.U withoutIdsRun
            (withoutIdsRun.foldl CabinetState.apply .empty) p.2 := by
  have hpublished : withoutIdsRun.filterMap (reportedBy (py "iot/AA:BB:CC:DD:EE:FF")) =
      [.lit "cab-123"] := by rfl
  refine ⟨hpublished, fun h => ?_⟩
  unfold withoutIdsRun at hpublished
  rw [reportedBy_runSetup] at hpublished
  cases hps : reported sampleSetupOutside withoutIds (py "iot/AA:BB:CC:DD:EE:FF") with
  | nil =>
    rw [hps] at hpublished
    cases hpublished
  | cons p ps =>
    obtain ⟨_, -, -, hsubscribed, -⟩ := h p (by simp [hps])
    have hnone : ∀ topic, subscribes topic withoutIdsRun = false := fun _ => rfl
    have hsome := List.any_eq_false.mp (hnone (openTopicOf sampleSetupOutside.U p.2)) _ hsubscribed
    simp at hsome

end SmartLocker.System
