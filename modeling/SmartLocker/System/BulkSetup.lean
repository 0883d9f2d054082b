import SmartLocker.System.FailedSetup
import SmartLocker.System.SetupReport

/-!
# Single and bulk setup

`SETUP_LOCKERS` and `BULK_SETUP_LOCKERS` share the pass over a cabinet, and have their own checks and
their own way to it.  The layout is measured for a single setup only, and the `name` that a description
has beside an empty code is for a bulk setup only.

* `untime` — an effect without what depends on the clock;
* `Agree` — both commands publish the same and leave the same store;
* `NamedAlike` — both give the cabinet the same name, or its name has no part in what they do;
* `single_bulk_agree` — they agree, and no oversized cabinet is saved, just if the layout fits and they
  are named alike.
-/

set_option autoImplicit false

namespace SmartLocker.System

open Lib Lib.Python SmartLocker.Gateway

/-! ## Clocks -/

/-- What the clock gives during a run. -/
structure Clock where
  now : Nat → PyStr
  testedAt : Nat → Nat → PyStr
  duration : Nat → Int

def atClock (io : SetupOutside) (clock : Clock) : SetupOutside :=
  { io with now := clock.now, testedAt := clock.testedAt, duration := clock.duration }

def withoutDuration : Json → Json
  | .obj d => .obj (d.filter fun e => e.1 ≠ py "duration")
  | v => v

/-- A message without its timestamp and without the duration in its summary. -/
def untimed (payload : Dict) : Dict :=
  (payload.filter fun e => e.1 ≠ py "timestamp").map fun e =>
    (e.1, if e.1 = py "summary" then withoutDuration e.2 else e.2)

def untime : ServiceEffect → ServiceEffect
  | .publish topic payload => .publish topic (untimed payload)
  | e => e

theorem publish_alike (io : SetupOutside) (clock clock' : Clock) (topic : PyStr)
    {payload payload' : Dict} (h : untimed payload = untimed payload') :
    Py.Alike untime (mqttPublish (atClock io clock).toOutside topic payload)
      (mqttPublish (atClock io clock').toOutside topic payload') := by
  refine (Py.Alike.refl _).bind fun _ => Py.alike_emit ?_
  rw [untime, untime, h]

theorem runTests_alike (io : SetupOutside) (clock clock' : Clock) (r : CabinetRun)
    (slots : List (Json × Nat)) (t : Tally) :
    Py.Alike untime (runTests (atClock io clock) r slots t)
      (runTests (atClock io clock') r slots t) := by
  induction slots generalizing t with
  | nil => exact .refl _
  | cons s slots ih =>
    refine (Py.Alike.refl _).bind fun d => (Py.Alike.refl _).bind fun index => ?_
    cases index with
    | none => exact ih t
    | some k =>
      refine Py.Alike.bind ?_ ih
      refine (Py.Alike.refl _).bind fun result => ?_
      dsimp only
      refine (publish_alike io clock clock' _ ?_).bind fun _ => .refl _
      simp [untimed, progressPayload, atClock]
      rfl

/-- The clock has no part in what a pass does. -/
theorem setupCabinet_alike (io : SetupOutside) (clock clock' : Clock) (topicPrefix : PyStr)
    (command_id : Json) (j : Nat) (cab : Json) :
    Py.Alike untime (setupCabinet (atClock io clock) topicPrefix command_id j cab)
      (setupCabinet (atClock io clock') topicPrefix command_id j cab) := by
  unfold setupCabinet
  iterate 5 refine (Py.Alike.refl _).bind fun _ => ?_
  refine (runTests_alike io clock clock' _ _ _).bind fun t => (Py.Alike.refl _).bind fun details => ?_
  refine (publish_alike io clock clock' _ ?_).bind fun _ => .refl _
  simp [untimed, resultSummary, withoutDuration]

/-- The clock has no part in what is stored. -/
theorem apply_untime (storage : StoreOutside) (s : Store) (e : ServiceEffect) :
    s.apply storage (untime e) = s.apply storage e := by
  cases e <;> rfl

theorem foldl_untime (storage : StoreOutside) (s : Store) (es : List ServiceEffect) :
    (es.map untime).foldl (Store.apply storage) s = es.foldl (Store.apply storage) s := by
  rw [List.foldl_map]
  congr 1
  funext s e
  exact apply_untime storage s e

/-! ## The two commands -/

/-- The same command: `p` as `SETUP_LOCKERS` with the description `d`, `q` as `BULK_SETUP_LOCKERS` with
a list of just `d`. -/
structure SameSetup (p q d : Dict) : Prop where
  single : isBulk p = false
  bulk : isBulk q = true
  cabinets : get? q "cabinets" = some (.arr [.obj d])
  described : ∀ k ∈ ["cabinetId", "cabinetCode", "slaveId", "lockerLayout", "totalRows",
    "totalColumns"], get? p k = get? d k
  command : ∀ k ∈ ["commandId", "locationId", "locationName", "address"], get? p k = get? q k

/-- The description has an id and a code. -/
structure Described (d : Dict) (id code : Json) : Prop where
  cabinetId : get? d "cabinetId" = some id
  cabinetCode : get? d "cabinetCode" = some code

/-- Messages with their topics. -/
def publication : ServiceEffect → Option (PyStr × Dict)
  | .publish topic payload => some (topic, payload)
  | _ => none

/-- The layout is not longer than a board has slots. -/
def FitsBoard (d : Dict) : Prop :=
  ∃ n, (getD d "lockerLayout" (.arr [])).len = .ok n ∧ (n : Int) ≤ MAX_SLOTS

/-- Two runs publish the same up to what the clock gives, and leave the same. -/
structure Agree (storage : StoreOutside) (s : Store) (es es' : List ServiceEffect) : Prop where
  messages : (es.map untime).filterMap publication = (es'.map untime).filterMap publication
  store : es.foldl (Store.apply storage) s = es'.foldl (Store.apply storage) s

/-- A cabinet is saved only if the layout of its description fits. -/
def SavesFitting (d : Dict) (es : List ServiceEffect) : Prop :=
  ∀ a, .saveCabinet a ∈ es → FitsBoard d

/-- A command finds as the cabinets: a list of one. -/
theorem SameSetup.visited_bulk {p q d : Dict} (h : SameSetup p q d) :
    visitedCabinets q = .ok [.obj d] := by
  unfold visitedCabinets cabinetsToProcess
  rw [if_pos h.bulk, getD, h.cabinets]
  rfl

/-- The description that a single setup wraps. -/
def wrapped (p : Dict) (id : Json) : Dict :=
  [(py "cabinetId", id), (py "cabinetCode", getD p "cabinetCode" (.lit "Unknown")),
    (py "slaveId", getD p "slaveId" (.int 1)),
    (py "lockerLayout", getD p "lockerLayout" (.arr [])),
    (py "totalRows", getD p "totalRows" (.int 0)),
    (py "totalColumns", getD p "totalColumns" (.int 0))]

theorem SameSetup.visited_single {p q d : Dict} (h : SameSetup p q d) {id : Json}
    (hid : get? d "cabinetId" = some id) : visitedCabinets p = .ok [.obj (wrapped p id)] := by
  have hitem : item p "cabinetId" = .ok id := by rw [item_ok_iff, h.described _ (by simp), hid]
  unfold visitedCabinets cabinetsToProcess singleCabinet
  rw [if_neg (by simp [h.single]), hitem]
  rfl

/-! ## Names -/

/-- The name that a single setup gives a cabinet: it wraps the code, and no `name`. -/
def singleName (U : Unicode) (code id : Json) : Except PyErr Json :=
  cabinetName U [(py "cabinetCode", code)] id

/-- The entries of the layout. -/
def layoutSlots (d : Dict) : List Json :=
  match (getD d "lockerLayout" (.arr [])).iter with
  | .ok slots => slots
  | .error _ => []

/-- The tests of the layout of a lone cabinet. -/
def loneTests (io : SetupOutside) (d : Dict) : List SlotTest :=
  testsOf io 0 (getD d "slaveId" (.int 1)) (layoutSlots d).zipIdx

/-- A lone cabinet is put into service: its pass gets to the report, nothing was tested or some slot was
found OK, and the id is a dict key. -/
structure InService (io : SetupOutside) (topicPrefix : PyStr) (d : Dict) (id : Json) : Prop where
  reports : Reports io topicPrefix (layoutSlots d)
  tests : loneTests io d = [] ∨ ∃ T ∈ loneTests io d, T.foundOk io.U = true
  key : ∃ k, id.key = .ok k

/-- The pass over a lone cabinet publishes nothing: it does not get to the report, and the client takes
no progress or no slot is tested before the entry that ends the pass. -/
structure SilentPass (io : SetupOutside) (topicPrefix : PyStr) (d : Dict) : Prop where
  report : ¬ Reports io topicPrefix (layoutSlots d)
  progress : io.publish (topicPrefix ++ py "/setup/progress") = .ok () →
    ∀ entry ∈ (layoutSlots d).takeWhile (isPassed io.U), isTested io.U entry = false

/-- Both commands give the cabinet the same name, or its name has no part in what they do: writing the
location raises; or the cabinet is not put into service, and, where the single setup has no name to
give, nothing is published. -/
def NamedAlike (io : SetupOutside) (topicPrefix : PyStr) (d : Dict) (id code : Json) : Prop :=
  match io.persistLocation, singleName io.U code id with
  | .error _, _ => True
  | .ok _, .ok name => cabinetName io.U d id = .ok name ∨ ¬ InService io topicPrefix d id
  | .ok _, .error e => cabinetName io.U d id = .error e ∨ SilentPass io topicPrefix d

/-- A bulk setup names the cabinet as a single one does, or has a name. -/
theorem cabinetName_cases (U : Unicode) {d : Dict} {id code : Json} (hd : Described d id code) :
    cabinetName U d id = singleName U code id ∨ ∃ name, cabinetName U d id = .ok name := by
  have hcode : getD d "cabinetCode" .null = code := by rw [getD, hd.cabinetCode]; rfl
  have hcode' : getD [(py "cabinetCode", code)] "cabinetCode" .null = code := by simp [getD]
  have hname' : getD [(py "cabinetCode", code)] "name" .null = .null := by simp [getD]
  have hnull : Json.null.truthy = false := rfl
  unfold singleName cabinetName
  rw [hcode, hcode', hname']
  unfold Json.orElse
  cases htruthy : code.truthy with
  | true => exact .inl rfl
  | false =>
    cases hname : (getD d "name" .null).truthy with
    | true => exact .inr ⟨getD d "name" .null, by simp [hname]⟩
    | false => exact .inl (by simp [hname, hnull])

/-- Two descriptions of one cabinet, under a name each. -/
structure Renamed (id : Json) (d d' : Dict) : Prop where
  cabinetId : get? d "cabinetId" = some id
  cabinetId' : get? d' "cabinetId" = some id
  slave : getD d "slaveId" (.int 1) = getD d' "slaveId" (.int 1)
  layout : getD d "lockerLayout" (.arr []) = getD d' "lockerLayout" (.arr [])
  rows : getD d "totalRows" (.int 0) = getD d' "totalRows" (.int 0)
  columns : getD d "totalColumns" (.int 0) = getD d' "totalColumns" (.int 0)

theorem subscript_cabinetId {d : Dict} {id : Json} (h : get? d "cabinetId" = some id) :
    (Json.obj d).subscript "cabinetId" = .ok id := item_ok_iff.mpr h

/-- What a pass reads of a description. -/
theorem Renamed.pass {id : Json} {d d' : Dict} (h : Renamed id d d') (io : SetupOutside)
    (topicPrefix : PyStr) (command_id : Json) (j : Nat)
    (hname : cabinetName io.U d id = cabinetName io.U d' id) :
    setupCabinet io topicPrefix command_id j (.obj d) =
      setupCabinet io topicPrefix command_id j (.obj d') := by
  have hdict : ∀ e : Dict, (Json.obj e).asDict = .ok e := fun _ => rfl
  unfold setupCabinet setupArgs
  simp only [subscript_cabinetId h.cabinetId, subscript_cabinetId h.cabinetId', hdict,
    Py.ofExcept_ok_bind, hname, h.slave, h.layout, h.rows, h.columns]

/-- Up to the report the name has no part in a pass. -/
theorem Renamed.report {id : Json} {d d' : Dict} (h : Renamed id d d') (io : SetupOutside)
    (topicPrefix : PyStr) (command_id : Json) (j : Nat) {name name' : Json}
    (hname : cabinetName io.U d id = .ok name) (hname' : cabinetName io.U d' id = .ok name') :
    (reportCabinet io topicPrefix command_id j (.obj d)).effects =
      (reportCabinet io topicPrefix command_id j (.obj d')).effects := by
  have hdict : ∀ e : Dict, (Json.obj e).asDict = .ok e := fun _ => rfl
  have hrenamed : reportCabinet io topicPrefix command_id j (.obj d) =
      reportCabinet io topicPrefix command_id j (.obj d') >>= fun r =>
        pure { r with cab_data := d, cabinet_name := name } := by
    unfold reportCabinet
    simp only [subscript_cabinetId h.cabinetId, subscript_cabinetId h.cabinetId', hdict,
      Py.ofExcept_ok_bind, hname, hname', h.slave, h.layout, Py.bind_assoc, Py.pure_bind]
  rw [hrenamed, Py.effects_bind_silent _ fun _ => rfl]

/-- Nor has it in whether the cabinet is put into service. -/
theorem Renamed.inService {id : Json} {d d' : Dict} (h : Renamed id d d') (io : SetupOutside)
    (topicPrefix : PyStr) : InService io topicPrefix d id ↔ InService io topicPrefix d' id := by
  have hslots : layoutSlots d = layoutSlots d' := by rw [layoutSlots, layoutSlots, h.layout]
  have htests : loneTests io d = loneTests io d' := by rw [loneTests, loneTests, hslots, h.slave]
  constructor
  · rintro ⟨hreports, htested, hkey⟩
    exact ⟨hslots ▸ hreports, htests ▸ htested, hkey⟩
  · rintro ⟨hreports, htested, hkey⟩
    exact ⟨hslots ▸ hreports, htests ▸ htested, hkey⟩

theorem SameSetup.renamed {p q d : Dict} (h : SameSetup p q d) {id : Json}
    (hid : get? d "cabinetId" = some id) : Renamed id (wrapped p id) d := by
  have hgetD : ∀ k ∈ ["cabinetId", "cabinetCode", "slaveId", "lockerLayout", "totalRows",
      "totalColumns"], ∀ dflt, getD p k dflt = getD d k dflt := by
    intro k hk dflt
    rw [getD, getD, h.described k hk]
  refine ⟨by simp [wrapped], hid, ?_, ?_, ?_, ?_⟩
  all_goals
    rw [← hgetD _ (by simp)]
    simp [getD, wrapped]

theorem SameSetup.singleName_eq {p q d : Dict} (h : SameSetup p q d) {id code : Json}
    (hd : Described d id code) (U : Unicode) :
    cabinetName U (wrapped p id) id = singleName U code id := by
  have hp : getD p "cabinetCode" (.lit "Unknown") = code := by
    rw [getD, h.described _ (by simp), hd.cabinetCode]
    rfl
  have hcode : getD (wrapped p id) "cabinetCode" .null = code := by simp [getD, wrapped, ← hp]
  have hname : getD (wrapped p id) "name" .null = .null := by simp [getD, wrapped]
  unfold singleName cabinetName
  rw [hcode, hname]
  simp [getD]

/-! ## The pass over a lone cabinet -/

section Lone

variable {io : SetupOutside} {topicPrefix : PyStr} {d : Dict} {id name : Json}

/-- What the pass reads before the tests. -/
theorem visit_lone (hid : get? d "cabinetId" = some id) (hname : cabinetName io.U d id = .ok name)
    {n : Nat} (hlen : (getD d "lockerLayout" (.arr [])).len = .ok n) :
    visit io.U (.obj d) = .ok ⟨id, d, name, layoutSlots d⟩ := by
  obtain ⟨slots, hslots, -⟩ := except_bind_ok.mp hlen
  have hdict : (Json.obj d).asDict = .ok d := rfl
  have hlayout : layoutSlots d = slots := by rw [layoutSlots, hslots]
  unfold visit
  rw [subscript_cabinetId hid, hdict, hlayout]
  show (cabinetName io.U d id >>= _) = _
  rw [hname, hslots]
  rfl

/-- Not all tests of the cabinet fail. -/
theorem status_lone : setupStatus (tallied io.U {} (loneTests io d)) ≠ "FAILED" ↔
    loneTests io d = [] ∨ ∃ T ∈ loneTests io d, T.foundOk io.U = true := by
  have hok := tallied_ok io.U {} (loneTests io d)
  have hcounts := tallied_counts io.U {} (loneTests io d)
  have hzero : (tallied io.U {} (loneTests io d)).ok_count = 0 ↔
      ¬ ∃ T ∈ loneTests io d, T.foundOk io.U = true := by
    rw [hok, Nat.zero_add, List.countP_eq_zero]
    push Not
    rfl
  rw [Ne, setupStatus_failed, hzero, ← List.length_eq_zero_iff]
  by_cases hfound : ∃ T ∈ loneTests io d, T.foundOk io.U = true
  · exact iff_of_true (fun h => h.2 hfound) (.inr hfound)
  · have hnone := hzero.mpr hfound
    simp only [hfound, or_false, not_false_eq_true, and_true, not_not]
    simp only [hnone, Nat.zero_add] at hcounts
    omega

/-- What the pass reports of the cabinet. -/
def loneReport (io : SetupOutside) (d : Dict) (id name : Json) : Report :=
  ⟨id, d, name, getD d "lockerLayout" (.arr []), layoutSlots d, tallied io.U {} (loneTests io d)⟩

theorem reportCabinet_lone (command_id : Json)
    (hvisit : visit io.U (.obj d) = .ok ⟨id, d, name, layoutSlots d⟩) {r : Report} :
    (reportCabinet io topicPrefix command_id 0 (.obj d)).result = .ok r ↔
      Reports io topicPrefix (layoutSlots d) ∧ r = loneReport io d id name :=
  reportCabinet_ok_iff command_id 0 hvisit

/-- **A cabinet that is put into service** is saved after its report, and what follows the save saves no
other. -/
theorem lone_inService (command_id : Json) (h : InService io topicPrefix d id)
    (hvisit : visit io.U (.obj d) = .ok ⟨id, d, name, layoutSlots d⟩) :
    (setupCabinet io topicPrefix command_id 0 (.obj d)).effects =
      (reportCabinet io topicPrefix command_id 0 (.obj d)).effects ++
        .saveCabinet (setupArgs d id name) :: afterSave io 0 (loneReport io d id name) := by
  obtain ⟨k, hk⟩ := h.key
  have hreport := (reportCabinet_lone command_id hvisit).mpr ⟨h.reports, rfl⟩
  have hstatus : setupStatus (loneReport io d id name).tally ≠ "FAILED" := status_lone.mpr h.tests
  have hkey : (loneReport io d id name).cabinet_id.key = .ok k := hk
  rw [setupCabinet_eq, Py.bind_ok hreport]
  dsimp only
  rw [storeReported_effects, if_neg hstatus, hkey]
  rfl

/-- **A cabinet that is not** is not saved. -/
theorem lone_notInService (command_id : Json) (h : ¬ InService io topicPrefix d id)
    (hvisit : visit io.U (.obj d) = .ok ⟨id, d, name, layoutSlots d⟩) :
    (setupCabinet io topicPrefix command_id 0 (.obj d)).effects =
      (reportCabinet io topicPrefix command_id 0 (.obj d)).effects := by
  rw [setupCabinet_eq]
  cases hreport : (reportCabinet io topicPrefix command_id 0 (.obj d)).result with
  | error e => rw [Py.bind_error hreport]
  | ok r =>
    obtain ⟨hreports, rfl⟩ := (reportCabinet_lone command_id hvisit).mp hreport
    rw [Py.bind_ok hreport]
    dsimp only
    rw [storeReported_effects]
    split
    · exact List.append_nil _
    · rename_i hstatus
      cases hk : id.key with
      | error e =>
        have hkey : (loneReport io d id name).cabinet_id.key = .error e := hk
        rw [hkey]
        exact List.append_nil _
      | ok k => exact absurd ⟨hreports, status_lone.mp hstatus, k, hk⟩ h

end Lone

/-! ## What is accepted -/

/-- A layout that fits is accepted. -/
theorem processSetup_single (io : SetupOutside) {p d : Dict} (topicPrefix : PyStr)
    (hsingle : isBulk p = false)
    (hlayout : getD p "lockerLayout" (.arr []) = getD d "lockerLayout" (.arr [])) (hfits : FitsBoard d) :
    processSetup io p topicPrefix = runSetup io p topicPrefix := by
  obtain ⟨n, hn, hle⟩ := hfits
  have hhandle : handleSetup io p topicPrefix = pure true := by
    unfold handleSetup
    rw [if_neg (by simp [hsingle]), hlayout, hn, Py.ofExcept_ok_bind, if_neg (by omega)]
  unfold processSetup
  rw [hhandle]
  rfl

/-- Another layout is refused. -/
theorem processSetup_refused (io : SetupOutside) {p d : Dict} (topicPrefix : PyStr)
    (hsingle : isBulk p = false)
    (hlayout : getD p "lockerLayout" (.arr []) = getD d "lockerLayout" (.arr []))
    (hfits : ¬ FitsBoard d) :
    ∀ e ∈ processSetup io p topicPrefix, TestEffect e := by
  have heffects := handleSetup_effects io p topicPrefix
  unfold processSetup
  dsimp only
  split
  · rename_i htrue
    refine absurd ?_ hfits
    unfold handleSetup at htrue
    rw [if_neg (by simp [hsingle]), hlayout] at htrue
    obtain ⟨n, hn, h, -⟩ := Py.bind_result_ok htrue
    refine ⟨n, hn, ?_⟩
    by_contra hlong
    rw [if_pos (by omega)] at h
    obtain ⟨_, -, h, -⟩ := Py.bind_result_ok h
    cases h
  · exact heffects

/-- A bulk setup of one cabinet is always accepted. -/
theorem SameSetup.process_bulk {p q d : Dict} (h : SameSetup p q d) (io : SetupOutside)
    (topicPrefix : PyStr) : processSetup io q topicPrefix = runSetup io q topicPrefix := by
  have hhandle : handleSetup io q topicPrefix = pure true := by
    unfold handleSetup
    rw [if_pos h.bulk, getD, h.cabinets]
    rfl
  unfold processSetup
  rw [hhandle]
  rfl

/-- An effect for a cabinet that saves none leaves all but the lockers. -/
theorem memory_apply (storage : StoreOutside) (s : Store) {e : ServiceEffect} (he : CabinetEffect e)
    (hsave : NoSave e) : ∃ m, (s.apply storage e).state = { s.state with lockers := m } := by
  cases e with
  | clear => exact he.elim
  | saveLocation _ _ _ => exact he.elim
  | saveCabinet a => exact absurd rfl (hsave a)
  | saveLockers cabinet_id lockers =>
    show ∃ m, (s.after (StoreM.saveLockers storage cabinet_id _)).state = _
    rw [Store.after_saveLockers]
    split
    · split
      · rename_i hremember
        rw [Store.rememberLockers_dicts] at hremember
        exact CabinetState.saveLockers_ok hremember
      · exact ⟨_, rfl⟩
    · exact ⟨_, rfl⟩
  | _ => exact ⟨_, rfl⟩

/-- Cabinets leave the location. -/
theorem location_apply {storage : StoreOutside} {s : Store} {e : ServiceEffect} (he : CabinetEffect e) :
    (s.apply storage e).state.location = s.state.location := by
  by_cases hsave : NoSave e
  · obtain ⟨m, hm⟩ := memory_apply storage s he hsave
    rw [hm]
  · unfold NoSave at hsave
    push Not at hsave
    obtain ⟨a, rfl⟩ := hsave
    show (s.after (StoreM.saveCabinet storage a)).state.location = _
    rw [Store.state_saveCabinet]
    cases hsaved : s.state.saveCabinet a with
    | error err => rfl
    | ok st =>
      rcases CabinetState.saveCabinet_cases hsaved with ⟨-, rfl⟩ | ⟨_, _, _, _, -, -, -, rfl⟩ <;> rfl

theorem location_foldl {storage : StoreOutside} {s : Store} {es : List ServiceEffect}
    (hes : ∀ e ∈ es, CabinetEffect e) :
    (es.foldl (Store.apply storage) s).state.location = s.state.location := by
  induction es generalizing s with
  | nil => rfl
  | cons e es ih =>
    rw [List.foldl_cons, ih fun e' he' => hes e' (List.mem_cons_of_mem _ he'),
      location_apply (hes e List.mem_cons_self)]

theorem cabinets_foldl {storage : StoreOutside} {s : Store} {es : List ServiceEffect}
    (hes : ∀ e ∈ es, CabinetEffect e ∧ NoSave e) :
    (es.foldl (Store.apply storage) s).state.cabinets = s.state.cabinets := by
  induction es generalizing s with
  | nil => rfl
  | cons e es ih =>
    obtain ⟨he, hsave⟩ := hes e List.mem_cons_self
    obtain ⟨m, hm⟩ := memory_apply storage s he hsave
    rw [List.foldl_cons, ih fun e' he' => hes e' (List.mem_cons_of_mem _ he'), hm]

/-- What follows the save of a cabinet saves no other. -/
theorem afterSave_noSave {io : SetupOutside} {j : Nat} {r : Report} :
    ∀ e ∈ afterSave io j r, CabinetEffect e ∧ NoSave e := by
  intro e he
  unfold afterSave at he
  split at he
  · rcases List.mem_cons.mp he with rfl | he
    · exact ⟨trivial, fun _ h => nomatch h⟩
    · split at he
      · simp only [List.mem_cons, List.not_mem_nil, or_false] at he
        rcases he with rfl | rfl <;> exact ⟨trivial, fun _ h => nomatch h⟩
      · cases he
  · cases he

/-- The name that is stored for a cabinet that is saved. -/
theorem stored_name {storage : StoreOutside} {s : Store} {loc : Dict} {l : Json} {k : Key}
    {tests rest : List ServiceEffect} {a : CabinetArgs} (hloc : s.state.location = some loc)
    (hl : item loc "id" = .ok l) (hk : a.cabinet_id.key = .ok k) (htests : ∀ e ∈ tests, TestEffect e)
    (hrest : ∀ e ∈ rest, CabinetEffect e ∧ NoSave e) :
    ((((tests ++ .saveCabinet a :: rest).foldl (Store.apply storage) s).state.getCabinetById k).bind
      (get? · "name")) = some a.name := by
  have hsaved := CabinetState.saveCabinet_ok hloc hl (a := a) (k := k) (by rw [idKey_cabinetData, hk])
  unfold CabinetState.getCabinetById
  rw [List.foldl_append, foldl_testEffects storage s tests htests, List.foldl_cons, cabinets_foldl hrest,
    Store.state_apply s storage (.saveCabinet a) (fun _ _ h => nomatch h)]
  simp only [CabinetState.apply, hsaved]
  show ((s.state.cabinets.insert k _).find? k).bind _ = _
  rw [OrdMap.find?_insert, if_pos rfl]
  simp [cabinetData]

/-- An empty state without file, with an empty database or none. -/
def emptyStore (connected : Bool) : Store := ⟨.empty, .absent, if connected then some .empty else none⟩

theorem clear_emptyStore (connected : Bool) :
    (emptyStore connected).after StoreM.clear = emptyStore connected := by
  cases connected <;> rfl

/-- The clock has no part in an agreement. -/
theorem agree_untime {storage : StoreOutside} {s : Store} {es es' es'' : List ServiceEffect}
    (h : es'.map untime = es''.map untime) : Agree storage s es es' ↔ Agree storage s es es'' := by
  have hfold : es'.foldl (Store.apply storage) s = es''.foldl (Store.apply storage) s := by
    rw [← foldl_untime, h, foldl_untime]
  constructor
  · intro hagree
    exact ⟨h ▸ hagree.messages, hfold ▸ hagree.store⟩
  · intro hagree
    exact ⟨h.symm ▸ hagree.messages, hfold.symm ▸ hagree.store⟩

theorem publication_untime {es : List ServiceEffect} :
    (es.map untime).filterMap publication = [] ↔ ∀ topic payload, .publish topic payload ∉ es := by
  rw [List.filterMap_map, List.filterMap_eq_nil_iff]
  constructor
  · intro h topic payload hmem
    cases h _ hmem
  · intro h e he
    cases e with
    | publish topic payload => exact absurd he (h topic payload)
    | _ => rfl

/-- The topics of a pass. -/
theorem setupCabinet_topics {io : SetupOutside} {topicPrefix : PyStr} {command_id : Json} {j : Nat}
    {cab : Json} {V : Visit} (hvisit : visit io.U cab = .ok V) {topic : PyStr} {payload : Dict}
    (h : .publish topic payload ∈ (setupCabinet io topicPrefix command_id j cab).effects) :
    topic = topicPrefix ++ py "/setup/progress" ∨ topic = topicPrefix ++ py "/setup/result" := by
  rw [setupCabinet_eq, reportCabinet_visit io topicPrefix command_id j hvisit] at h
  rcases Py.mem_bind_effects h with h | ⟨r, h⟩
  · rcases Py.mem_bind_effects h with h | ⟨t, h⟩
    · exact .inl (runTests_topics _ _ h)
    · rcases Py.mem_bind_effects h with h | ⟨details, h⟩
      · cases h
      · rcases Py.mem_bind_effects h with h | ⟨_, h⟩
        · exact .inr (mqttPublish_mem h).1
        · cases h
  · cases storeReported_notTest _ h

theorem progressMessages_eq_nil {io : SetupOutside} {r : CabinetRun} {t : Tally} {ts : List SlotTest} :
    progressMessages io r t ts = [] ↔ ts = [] := by
  cases ts with
  | nil => exact iff_of_true rfl rfl
  | cons T ts => exact iff_of_false (List.cons_ne_nil _ _) (List.cons_ne_nil _ _)

theorem testsOf_eq_nil {io : SetupOutside} {j : Nat} {slave_id : Json} {slots : List Json} :
    testsOf io j slave_id slots.zipIdx = [] ↔ ∀ entry ∈ slots, isTested io.U entry = false := by
  rw [← List.map_eq_nil_iff (f := fun T : SlotTest => Json.obj T.slot), testsOf_slots,
    List.zipIdx_map_fst, List.filter_eq_nil_iff]
  simp only [Bool.not_eq_true]

/-- **A pass that is silent** publishes nothing. -/
theorem silentPass_iff {io : SetupOutside} {topicPrefix : PyStr} {d : Dict} {id name : Json}
    (command_id : Json) (hvisit : visit io.U (.obj d) = .ok ⟨id, d, name, layoutSlots d⟩) :
    SilentPass io topicPrefix d ↔ ∀ topic payload, .publish topic payload ∉
      (setupCabinet io topicPrefix command_id 0 (.obj d)).effects := by
  have hprogress := (setupCabinet_progress io topicPrefix command_id 0 hvisit).trans
    (runTests_progress io (Visit.run ⟨id, d, name, layoutSlots d⟩ topicPrefix command_id 0) _ _)
  dsimp only [Visit.run] at hprogress
  rw [zipIdx_takeWhile] at hprogress
  constructor
  · rintro ⟨hreport, hsilent⟩ topic payload hmem
    rcases setupCabinet_topics hvisit hmem with rfl | rfl
    · have hmessage := List.mem_filterMap.mpr ⟨_, hmem, messageOn_self _ payload⟩
      rw [hprogress] at hmessage
      split at hmessage
      · rename_i hok
        rw [testsOf_eq_nil.mpr (hsilent hok)] at hmessage
        cases hmessage
      · cases hmessage
    · exact hreport ((reports_iff command_id 0 hvisit).mp ⟨payload, hmem⟩)
  · intro hnone
    refine ⟨fun hreport => ?_, fun hok => ?_⟩
    · obtain ⟨payload, hmem⟩ := (reports_iff command_id 0 hvisit).mpr hreport
      exact hnone _ _ hmem
    · have hempty : (setupCabinet io topicPrefix command_id 0 (.obj d)).effects.filterMap
          (messageOn (topicPrefix ++ py "/setup/progress")) = [] := by
        refine List.filterMap_eq_nil_iff.mpr fun e he => ?_
        cases e with
        | publish topic payload => exact absurd he (hnone topic payload)
        | _ => rfl
      rw [hempty, hok] at hprogress
      exact testsOf_eq_nil.mp (progressMessages_eq_nil.mp hprogress.symm)

/-- Publishing nothing, a pass saves nothing. -/
theorem SilentPass.tests {io : SetupOutside} {topicPrefix : PyStr} {d : Dict} {id name : Json}
    (command_id : Json) (hvisit : visit io.U (.obj d) = .ok ⟨id, d, name, layoutSlots d⟩)
    (h : SilentPass io topicPrefix d) :
    ∀ e ∈ (setupCabinet io topicPrefix command_id 0 (.obj d)).effects, TestEffect e := by
  rw [lone_notInService command_id (fun hservice => h.report hservice.reports) hvisit]
  exact reportCabinet_effects _ _ _ _ _

/-! ## Agreement -/

section Agreement

variable {io : SetupOutside} {topicPrefix : PyStr} {storage : StoreOutside} {s : Store}

/-- Passes that give two names agree just if the cabinet is not put into service. -/
theorem Renamed.agree_named {id : Json} {d d' : Dict} (h : Renamed id d d') {n : Nat}
    (hlen : (getD d' "lockerLayout" (.arr [])).len = .ok n) {loc : Dict} {l : Json}
    (hloc : s.state.location = some loc) (hl : item loc "id" = .ok l) (command_id : Json)
    {name name' : Json} (hname : cabinetName io.U d id = .ok name)
    (hname' : cabinetName io.U d' id = .ok name') (hne : name ≠ name') :
    Agree storage s (setupCabinet io topicPrefix command_id 0 (.obj d)).effects
        (setupCabinet io topicPrefix command_id 0 (.obj d')).effects ↔
      ¬ InService io topicPrefix d' id := by
  have hvisit := visit_lone h.cabinetId hname (by rw [h.layout, hlen])
  have hvisit' := visit_lone h.cabinetId' hname' hlen
  have hservice := h.inService io topicPrefix
  constructor
  · intro hagree hin
    obtain ⟨k, hk⟩ := hin.key
    have hstore := congrArg (fun s : Store =>
      (s.state.getCabinetById k).bind (get? · "name")) hagree.store
    rw [lone_inService command_id (hservice.mpr hin) hvisit, lone_inService command_id hin hvisit',
      stored_name hloc hl hk (reportCabinet_effects _ _ _ _ _) afterSave_noSave,
      stored_name hloc hl hk (reportCabinet_effects _ _ _ _ _) afterSave_noSave] at hstore
    exact hne (Option.some.inj hstore)
  · intro hout
    rw [lone_notInService command_id (hservice.not.mpr hout) hvisit,
      lone_notInService command_id hout hvisit', h.report io topicPrefix command_id 0 hname hname']
    exact ⟨rfl, rfl⟩

/-- A pass that cannot give a name agrees just with one that publishes nothing. -/
theorem Renamed.agree_unnamed {id : Json} {d d' : Dict} (h : Renamed id d d') {n : Nat}
    (hlen : (getD d' "lockerLayout" (.arr [])).len = .ok n) (command_id : Json) {e : PyErr}
    {name' : Json} (hname : cabinetName io.U d id = .error e)
    (hname' : cabinetName io.U d' id = .ok name') :
    Agree storage s (setupCabinet io topicPrefix command_id 0 (.obj d)).effects
        (setupCabinet io topicPrefix command_id 0 (.obj d')).effects ↔
      SilentPass io topicPrefix d' := by
  have hvisit' := visit_lone h.cabinetId' hname' hlen
  have hnothing : (setupCabinet io topicPrefix command_id 0 (.obj d)).effects = [] := by
    have hdict : ∀ e : Dict, (Json.obj e).asDict = .ok e := fun _ => rfl
    unfold setupCabinet
    rw [subscript_cabinetId h.cabinetId, hdict, Py.ofExcept_ok_bind, Py.ofExcept_ok_bind, hname]
    rfl
  rw [hnothing]
  constructor
  · intro hagree
    exact (silentPass_iff command_id hvisit').mpr (publication_untime.mp hagree.messages.symm)
  · intro hsilent
    refine ⟨?_, ?_⟩
    · exact (publication_untime.mpr ((silentPass_iff command_id hvisit').mp hsilent)).symm
    · exact (foldl_testEffects storage s _ (hsilent.tests command_id hvisit')).symm

/-- **The passes of both commands agree** just if they are named alike. -/
theorem lone_agree {p q d : Dict} {id code : Json} (h : SameSetup p q d) (hd : Described d id code)
    (hfits : FitsBoard d) (hlocation : io.persistLocation = .ok ()) {loc : Dict} {l : Json}
    (hloc : s.state.location = some loc) (hl : item loc "id" = .ok l) (command_id : Json) :
    Agree storage s (setupCabinet io topicPrefix command_id 0 (.obj (wrapped p id))).effects
        (setupCabinet io topicPrefix command_id 0 (.obj d)).effects ↔
      NamedAlike io topicPrefix d id code := by
  have hrenamed := h.renamed hd.cabinetId
  have hsingle := h.singleName_eq hd io.U
  obtain ⟨n, hlen, -⟩ := hfits
  unfold NamedAlike
  rw [hlocation]
  by_cases hsame : cabinetName io.U d id = singleName io.U code id
  · refine iff_of_true ?_ ?_
    · rw [hrenamed.pass io topicPrefix command_id 0 (hsingle.trans hsame.symm)]
      exact ⟨rfl, rfl⟩
    · rw [hsame]
      cases singleName io.U code id with
      | ok name => exact .inl rfl
      | error e => exact .inl rfl
  · obtain ⟨name', hname'⟩ := (cabinetName_cases io.U hd).resolve_left hsame
    cases hname : singleName io.U code id with
    | ok name =>
      rw [hname] at hsingle hsame
      rw [hrenamed.agree_named hlen hloc hl command_id hsingle hname'
        fun heq => hsame (hname'.trans (congrArg Except.ok heq.symm))]
      exact (or_iff_right hsame).symm
    | error e =>
      rw [hname] at hsingle hsame
      rw [hrenamed.agree_unnamed hlen command_id hsingle hname']
      exact (or_iff_right hsame).symm

/-- A single setup saves its location first. -/
theorem SameSetup.location_single {p q d : Dict} (h : SameSetup p q d) :
    ∃ i n a, locationEffects p = [.saveLocation i n a] := by
  unfold locationEffects
  rw [if_neg (by simp [h.single])]
  exact ⟨_, _, _, rfl⟩

/-- A bulk setup clears the state before that. -/
theorem SameSetup.location_bulk {p q d : Dict} (h : SameSetup p q d) :
    locationEffects q = .clear :: locationEffects p := by
  unfold locationEffects
  rw [if_pos h.bulk, if_neg (by simp [h.single])]
  simp only [getD, h.command _ (List.mem_cons_of_mem _ List.mem_cons_self),
    h.command _ (List.mem_cons_of_mem _ (List.mem_cons_of_mem _ List.mem_cons_self)),
    h.command _ (List.mem_cons_of_mem _ (List.mem_cons_of_mem _ (List.mem_cons_of_mem _
      List.mem_cons_self)))]
  rfl

/-- A run for a lone cabinet. -/
theorem cabinetEffects_lone (io : SetupOutside) (payload : Dict) (topicPrefix : PyStr) (cab : Json) :
    cabinetEffects io payload topicPrefix [cab] =
      match io.persistLocation with
      | .error _ => []
      | .ok _ =>
        (setupCabinet io topicPrefix (getD payload "commandId" (.lit "no-id")) 0 cab).effects := by
  unfold cabinetEffects
  cases io.persistLocation with
  | error e => rfl
  | ok _ =>
    dsimp only
    rw [List.zipIdx_singleton, setupCabinets, Py.effects_bind_silent _ fun _ => rfl]

/-- Its clock has no part in what it does. -/
theorem cabinetEffects_untime (io : SetupOutside) (clock clock' : Clock) (topicPrefix : PyStr) (d : Dict)
    {p q : Dict} (hcommand : getD q "commandId" (.lit "no-id") = getD p "commandId" (.lit "no-id")) :
    (cabinetEffects (atClock io clock) q topicPrefix [.obj d]).map untime =
      (cabinetEffects (atClock io clock') p topicPrefix [.obj d]).map untime := by
  have hpersist : ∀ clock, (atClock io clock).persistLocation = io.persistLocation := fun _ => rfl
  rw [cabinetEffects_lone, cabinetEffects_lone, hcommand, hpersist, hpersist]
  cases io.persistLocation with
  | error e => rfl
  | ok _ => exact (setupCabinet_alike io clock clock' _ _ _ _).effects

/-- From an empty state the location is the same after both beginnings. -/
theorem agree_located (storage : StoreOutside) (connected : Bool) (location_id name address : Json)
    (es es' : List ServiceEffect) :
    Agree storage (emptyStore connected) (.saveLocation location_id name address :: es)
        (.clear :: .saveLocation location_id name address :: es') ↔
      Agree storage ((emptyStore connected).apply storage (.saveLocation location_id name address))
        es es' := by
  have hclear : (emptyStore connected).apply storage .clear = emptyStore connected :=
    clear_emptyStore connected
  constructor
  · rintro ⟨hmessages, hstore⟩
    rw [List.foldl_cons, List.foldl_cons, List.foldl_cons, hclear] at hstore
    exact ⟨hmessages, hstore⟩
  · rintro ⟨hmessages, hstore⟩
    refine ⟨hmessages, ?_⟩
    rw [List.foldl_cons, List.foldl_cons, List.foldl_cons, hclear]
    exact hstore

/-- The clock has no part in whether the name matters. -/
theorem namedAlike_atClock (io : SetupOutside) (clock : Clock) (topicPrefix : PyStr) (d : Dict)
    (id code : Json) :
    NamedAlike (atClock io clock) topicPrefix d id code ↔ NamedAlike io topicPrefix d id code := by
  have hservice : InService (atClock io clock) topicPrefix d id ↔ InService io topicPrefix d id :=
    ⟨fun h => ⟨⟨h.reports.1, h.reports.2, h.reports.3, h.reports.4⟩, h.tests, h.key⟩,
      fun h => ⟨⟨h.reports.1, h.reports.2, h.reports.3, h.reports.4⟩, h.tests, h.key⟩⟩
  have hsilent : SilentPass (atClock io clock) topicPrefix d ↔ SilentPass io topicPrefix d :=
    ⟨fun h => ⟨fun hr => h.report ⟨hr.1, hr.2, hr.3, hr.4⟩, h.progress⟩,
      fun h => ⟨fun hr => h.report ⟨hr.1, hr.2, hr.3, hr.4⟩, h.progress⟩⟩
  have hpersist : (atClock io clock).persistLocation = io.persistLocation := rfl
  have hU : (atClock io clock).U = io.U := rfl
  unfold NamedAlike
  rw [hpersist, hU]
  cases io.persistLocation with
  | error e => exact Iff.rfl
  | ok _ =>
    cases singleName io.U code id with
    | ok name => exact or_congr Iff.rfl hservice.not
    | error e => exact or_congr Iff.rfl hsilent

/-- **Single and bulk setup agree**, and save no oversized cabinet, just if the layout fits and they are
named alike. -/
theorem single_bulk_agree (io : SetupOutside) (clock clock' : Clock) (storage : StoreOutside)
    (connected : Bool) (topicPrefix : PyStr) (p q d : Dict) (id code : Json) (h : SameSetup p q d)
    (hd : Described d id code) :
    (Agree storage (emptyStore connected) (processSetup (atClock io clock) p topicPrefix)
        (processSetup (atClock io clock') q topicPrefix) ∧
      SavesFitting d (processSetup (atClock io clock) p topicPrefix) ∧
      SavesFitting d (processSetup (atClock io clock') q topicPrefix)) ↔
      FitsBoard d ∧ NamedAlike io topicPrefix d id code := by
  have hid := hd.cabinetId
  have hlayout : getD p "lockerLayout" (.arr []) = getD d "lockerLayout" (.arr []) := by
    rw [getD, getD, h.described _ (by simp)]
  have hcommand : getD p "commandId" (.lit "no-id") = getD q "commandId" (.lit "no-id") := by
    rw [getD, getD, h.command _ (by simp)]
  obtain ⟨location_id, name, address, hp⟩ := h.location_single
  have hlocation := h.location_bulk
  have hstate := congrArg CabinetState.location (Store.state_apply (emptyStore connected) storage
    (.saveLocation location_id name address) (by rintro _ _ ⟨⟩))
  have hbulk := h.process_bulk (atClock io clock') topicPrefix
  rw [runSetup_eq, h.visited_bulk, hlocation, hp] at hbulk
  dsimp only at hbulk
  rw [List.cons_append, List.cons_append, List.nil_append] at hbulk
  by_cases hfits : FitsBoard d
  · have hsingle := processSetup_single (atClock io clock) topicPrefix h.single hlayout hfits
    rw [runSetup_eq, h.visited_single hid, hp] at hsingle
    dsimp only at hsingle
    rw [List.cons_append, List.nil_append] at hsingle
    have hclock := cabinetEffects_untime io clock' clock topicPrefix d hcommand.symm
    have hagree : Agree storage (emptyStore connected) (processSetup (atClock io clock) p topicPrefix)
        (processSetup (atClock io clock') q topicPrefix) ↔ NamedAlike io topicPrefix d id code := by
      rw [hsingle, hbulk, agree_located, agree_untime hclock, cabinetEffects_lone, cabinetEffects_lone,
        ← namedAlike_atClock io clock]
      cases hpersist : (atClock io clock).persistLocation with
      | error e =>
        refine iff_of_true ⟨rfl, rfl⟩ ?_
        unfold NamedAlike
        rw [hpersist]
        trivial
      | ok _ => exact lone_agree h hd hfits hpersist hstate rfl _
    constructor
    · exact fun hall => ⟨hfits, hagree.mp hall.1⟩
    · exact fun hnamed => ⟨hagree.mpr hnamed.2, fun _ _ => hfits, fun _ _ => hfits⟩
  · refine iff_of_false (fun hall => ?_) fun hnamed => hfits hnamed.1
    have hsingle := processSetup_refused (atClock io clock) topicPrefix h.single hlayout hfits
    have hstore := hall.1.store
    rw [foldl_testEffects storage _ _ hsingle, hbulk, List.foldl_cons, List.foldl_cons] at hstore
    -- the bulk setup has saved the location
    have hnone := congrArg (fun s => s.state.location) hstore
    rw [location_foldl cabinetEffects_cabinetEffects] at hnone
    have hclear : (emptyStore connected).apply storage .clear = emptyStore connected :=
      clear_emptyStore connected
    rw [hclear, hstate] at hnone
    cases hnone

end Agreement

/-! ## Samples -/

/-- A description with `n` slots. -/
def description (n : Nat) : Dict :=
  [(py "cabinetId", .lit "cab-123"), (py "cabinetCode", .lit "A"), (py "slaveId", .int 1),
    (py "totalRows", .int n), (py "totalColumns", .int 1),
    (py "lockerLayout", .arr ((List.range n).map fun i =>
      .obj [(py "id", .str (py "L" ++ ofChars (Decimal.text i))), (py "label", .lit "S"),
        (py "slotIndex", .int i), (py "row", .int i), (py "column", .int 0)]))]

def singleCommand (n : Nat) : Dict :=
  [(py "action", .lit "SETUP_LOCKERS"), (py "commandId", .lit "c-1"),
    (py "locationId", .lit "loc")] ++ description n

def bulkCommand (n : Nat) : Dict :=
  [(py "action", .lit "BULK_SETUP_LOCKERS"), (py "commandId", .lit "c-1"),
    (py "locationId", .lit "loc"), (py "cabinets", .arr [.obj (description n)])]

theorem sameSetup_description (n : Nat) :
    SameSetup (singleCommand n) (bulkCommand n) (description n) where
  single := rfl
  bulk := rfl
  cabinets := rfl
  described := by simp [singleCommand, description]
  command := by simp [singleCommand, bulkCommand, description]

theorem described_description (n : Nat) : Described (description n) (.lit "cab-123") (.lit "A") :=
  ⟨rfl, rfl⟩

def sampleClock : Clock := ⟨fun _ => py "12:00", fun _ _ => py "11:59", fun _ => 7⟩

def laterClock : Clock := ⟨fun _ => py "13:00", fun _ _ => py "12:59", fun _ => 9⟩

/-- `single_bulk_agree` at two slots. -/
theorem single_bulk_agree_two :
    FitsBoard (description 2) ∧
      Agree sampleStoreOutside (emptyStore true)
        (processSetup (atClock sampleSetupOutside sampleClock) (singleCommand 2) (py "iot/m"))
        (processSetup (atClock sampleSetupOutside laterClock) (bulkCommand 2) (py "iot/m")) := by
  have hfits : FitsBoard (description 2) := ⟨2, rfl, by decide⟩
  have hnamed : NamedAlike sampleSetupOutside (py "iot/m") (description 2) (.lit "cab-123") (.lit "A") :=
    .inl rfl
  exact ⟨hfits, ((single_bulk_agree sampleSetupOutside sampleClock laterClock sampleStoreOutside true
    (py "iot/m") _ _ _ _ _ (sameSetup_description 2) (described_description 2)).mpr ⟨hfits, hnamed⟩).1⟩

/-- **Seven slots** are refused as a single setup, and as a bulk one they are in service. -/
theorem bulk_oversized :
    SameSetup (singleCommand 7) (bulkCommand 7) (description 7) ∧
      Described (description 7) (.lit "cab-123") (.lit "A") ∧
      ¬ Agree sampleStoreOutside (emptyStore true)
        (processSetup (atClock sampleSetupOutside sampleClock) (singleCommand 7) (py "iot/m"))
        (processSetup (atClock sampleSetupOutside sampleClock) (bulkCommand 7) (py "iot/m")) ∧
      ¬ SavesFitting (description 7)
        (processSetup (atClock sampleSetupOutside sampleClock) (bulkCommand 7) (py "iot/m")) := by
  refine ⟨sameSetup_description 7, described_description 7, fun h => ?_, fun h => ?_⟩
  · have hstore := congrArg (fun s : Store => s.state.allCabinets.length) h.store
    exact absurd hstore (by decide +kernel)
  · have hsaved : ((processSetup (atClock sampleSetupOutside sampleClock) (bulkCommand 7)
        (py "iot/m")).any isSave) = true := by decide +kernel
    obtain ⟨e, he, hsave⟩ := List.any_eq_true.mp hsaved
    cases e with
    | saveCabinet a =>
      obtain ⟨n, hn, hle⟩ := h a he
      cases hn
      exact absurd hle (by decide)
    | _ => cases hsave

end SmartLocker.System
