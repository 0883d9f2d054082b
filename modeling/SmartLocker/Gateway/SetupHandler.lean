import SmartLocker.Gateway.LockerService

/-!
# The setup run

Model of `SetupHandler`: the checks of `handle` and the body of `_run_setup`.  For each cabinet of a
command every slot of its layout is tested on the bus, progress and result are published, and unless
all tests failed the cabinet and its lockers are saved and its open topic is subscribed.  An exception
ends the run where it is; what was done before stays done.

The replies to the tests, the clock and what the third-party packages raise are inputs.
-/

set_option autoImplicit false

namespace SmartLocker.Gateway

open Lib Lib.Python

/-- The code and data outside the repository that a setup run uses. -/
structure SetupOutside extends Outside where
  /-- what `client.subscribe` raises for a topic -/
  subscribe : PyStr → Except PyErr Unit
  /-- what writing to the database and the file raises, apart from the errors that are caught: for
  the location, and for cabinet `j` and its lockers -/
  persistLocation : Except PyErr Unit
  persistCabinet : Nat → Except PyErr Unit
  persistLockers : Nat → Except PyErr Unit
  /-- the reply to the test of entry `i` of the layout of cabinet `j`, and the time after it -/
  reply : Nat → Nat → Dict
  testedAt : Nat → Nat → PyStr
  /-- `int(time.time() - start_time)` for cabinet `j` -/
  duration : Nat → Int

/-- `mqtt.subscribe_open_command`. -/
def subscribeOpenCommand (io : SetupOutside) (cabinet_name : PyStr) : Py ServiceEffect Unit := do
  Py.ofExcept (io.subscribe (cabinetTopic cabinet_name "command/open"))
  Py.emit (.subscribe (cabinetTopic cabinet_name "command/open"))

/-- `_on_setup_complete`. -/
def onSetupComplete (io : SetupOutside) (cabinet_name : PyStr) : Py ServiceEffect Unit := do
  subscribeOpenCommand io cabinet_name
  Py.emit .heartbeatStart

/-! ## The state's methods, as a run calls them -/

def callSaveLocation (io : SetupOutside) (location_id name address : Json) :
    Py ServiceEffect Unit := do
  Py.emit (.saveLocation location_id name address)
  Py.ofExcept io.persistLocation

/-- The memory is written before the database and the file. -/
def callSaveCabinet (io : SetupOutside) (j : Nat) (a : CabinetArgs) : Py ServiceEffect Unit := do
  let _ ← Py.ofExcept a.cabinet_id.key
  Py.emit (.saveCabinet a)
  Py.ofExcept (io.persistCabinet j)

/-- The database is written before the memory. -/
def callSaveLockers (io : SetupOutside) (j : Nat) (cabinet_id lockers : Json) :
    Py ServiceEffect Unit := do
  let ls ← Py.ofExcept lockers.iter
  Py.ofExcept (io.persistLockers j)
  -- `l["id"]` and the like fail on anything but a dict
  let ds ← Py.ofExcept (ls.mapM (fun l => match l with
    | .obj d => .ok d
    | _ => .error .TypeError))
  let _ ← Py.ofExcept (ds.mapM (lockerData cabinet_id))
  let _ ← Py.ofExcept cabinet_id.key
  Py.emit (.saveLockers cabinet_id ds)

/-! ## Testing one slot -/

/-- `int(slot.get("slotIndex"))`; `none` when the entry is skipped. -/
def slotIndexOf (U : Unicode) (slot : Dict) : Except PyErr (Option Int) :=
  let raw := getD slot "slotIndex" .null
  if notNone raw then
    match raw.pyInt U with
    | .ok n => .ok (if n < 0 then none else some n)
    | .error .ValueError => .ok none
    | .error .TypeError => .ok none
    | .error e => .error e
  else .ok none

structure TestVerdict where
  test_result : String
  error_code : Json
  error_msg : Json

def testVerdict (U : Unicode) (result : Dict) : TestVerdict :=
  if !isOk result then
    ⟨"FAIL", .lit "HW_ERROR",
      .str (py "Arduino test failed: " ++ (getD result "error" (.lit "unknown")).pyStr U)⟩
  else if (getD result "door" (.bool false)).truthy then
    ⟨"FAIL", .lit "DOOR_STUCK",
      .lit "Servo popped but door remained closed (mechanical delay or stuck)"⟩
  else ⟨"OK", .null, .null⟩

/-- What the run knows of the cabinet it works on. -/
structure CabinetRun where
  /-- its place in the command -/
  j : Nat
  topicPrefix : PyStr
  command_id : Json
  cabinet_id : Json
  slave_id : Json
  /-- `len(layout)` -/
  total : Nat

structure Tally where
  results : List Dict := []
  ok_count : Nat := 0
  fail_count : Nat := 0

def Tally.add (t : Tally) (v : TestVerdict) (result : Dict) : Tally where
  results := t.results ++ [OrdMap.set (OrdMap.set (OrdMap.set result (py "result")
    (.lit v.test_result)) (py "error_code") v.error_code) (py "error_msg") v.error_msg]
  ok_count := if v.test_result = "OK" then t.ok_count + 1 else t.ok_count
  fail_count := if v.test_result = "OK" then t.fail_count else t.fail_count + 1

def progressPayload (r : CabinetRun) (i : Nat) (slot : Dict) (slot_index : Int) (result : Dict)
    (v : TestVerdict) (t : Tally) (timestamp : PyStr) : Dict :=
  [(py "commandId", r.command_id), (py "cabinetId", r.cabinet_id), (py "slotIndex", .int slot_index),
    (py "row", getD slot "row" (.int 0)), (py "column", getD slot "column" (.int 0)),
    (py "testResult", .lit v.test_result),
    (py "hwDetail", .obj [(py "servoResponse", .bool (v.test_result = "OK")),
      (py "doorSensor", getD result "door" (.bool false)), (py "lockSensor", .bool false),
      (py "responseTimeMs", getD result "ms" .null)]),
    (py "progress", .obj [(py "tested", .int (i + 1)), (py "total", .int r.total),
      (py "okCount", .int t.ok_count), (py "failCount", .int t.fail_count)]),
    (py "timestamp", .str timestamp)]

def testSlot (U : Unicode) (slot_index slave_id : Json) (reply : Dict) : Py ServiceEffect Dict :=
  sendAndWait (testCommand U slot_index slave_id) slot_index slave_id reply

/-- One pass of the loop over the layout, for an entry that is tested. -/
def runTest (io : SetupOutside) (r : CabinetRun) (i : Nat) (slot : Dict) (slot_index : Int)
    (t : Tally) : Py ServiceEffect Tally := do
  let result ← testSlot io.U (.int slot_index) r.slave_id (io.reply r.j i)
  let v := testVerdict io.U result
  let t' := t.add v result
  mqttPublish io.toOutside (r.topicPrefix ++ py "/setup/progress")
    (progressPayload r i slot slot_index result v t' (io.testedAt r.j i))
  pure t'

/-- The loop over the layout. -/
def runTests (io : SetupOutside) (r : CabinetRun) :
    List (Json × Nat) → Tally → Py ServiceEffect Tally
  | [], t => pure t
  | (slot, i) :: rest, t => do
    let d ← Py.ofExcept slot.asDict
    match ← Py.ofExcept (slotIndexOf io.U d) with
    | none => runTests io r rest t
    | some k =>
      let t' ← runTest io r i d k t
      runTests io r rest t'

/-! ## One cabinet -/

def setupStatus (t : Tally) : String :=
  if t.fail_count = 0 then "COMPLETED" else if t.ok_count = 0 then "FAILED" else "PARTIAL"

/-- `LockerResultDetail`: an entry of the layout with the result it is zipped with. -/
def lockerDetail (slot : Json) (res : Dict) : Except PyErr Json := do
  let slotIndex ← slot.subscript "slotIndex"
  let row ← slot.subscript "row"
  let column ← slot.subscript "column"
  let test_result := getD res "result" .null
  .ok (.obj [(py "slotIndex", slotIndex), (py "row", row), (py "column", column),
    (py "testResult", test_result),
    (py "hwState", if test_result.pyEq (.lit "OK") then .lit "CLOSING" else .lit "OFFLINE"),
    (py "responseTimeMs", getD res "ms" .null), (py "errorCode", getD res "error_code" .null),
    (py "errorMessage", getD res "error_msg" .null)])

def resultSummary (r : CabinetRun) (status : String) (total ok fail : Nat) (duration : Int)
    (lockers : List Json) (timestamp : PyStr) : Dict :=
  [(py "commandId", r.command_id), (py "cabinetId", r.cabinet_id), (py "status", .lit status),
    (py "summary", .obj [(py "total", .int total), (py "totalOk", .int ok),
      (py "totalFail", .int fail), (py "duration", .int duration)]),
    (py "lockers", .arr lockers), (py "timestamp", .str timestamp)]

/-- `cabinet_name`: `cabinetCode`, else `name`, else the start of the id. -/
def cabinetName (U : Unicode) (cab_data : Dict) (cabinet_id : Json) : Except PyErr Json :=
  let given := (getD cab_data "cabinetCode" .null).orElse (getD cab_data "name" .null)
  if given.truthy then .ok given
  else (cabinet_id.takeFirst 4).map (fun v => .str (py "Cab-" ++ v.pyStr U))

/-- The arguments `save_cabinet` is called with. -/
def setupArgs (cab_data : Dict) (cabinet_id cabinet_name : Json) : CabinetArgs where
  cabinet_id := cabinet_id
  name := cabinet_name
  total_rows := getD cab_data "totalRows" (.int 0)
  total_columns := getD cab_data "totalColumns" (.int 0)
  slave_id := getD cab_data "slaveId" (.int 1)
  is_synced := .bool true

/-- One pass of the loop over the cabinets. -/
def setupCabinet (io : SetupOutside) (topicPrefix : PyStr) (command_id : Json) (j : Nat)
    (cab : Json) : Py ServiceEffect Unit := do
  let cabinet_id ← Py.ofExcept (cab.subscript "cabinetId")
  let cab_data ← Py.ofExcept cab.asDict
  let cabinet_name ← Py.ofExcept (cabinetName io.U cab_data cabinet_id)
  let layout := getD cab_data "lockerLayout" (.arr [])
  let total ← Py.ofExcept layout.len
  let slots ← Py.ofExcept layout.iter
  let r : CabinetRun :=
    ⟨j, topicPrefix, command_id, cabinet_id, getD cab_data "slaveId" (.int 1), total⟩
  let t ← runTests io r slots.zipIdx {}
  let status := setupStatus t
  let details ← Py.ofExcept ((slots.zip t.results).mapM (fun p => lockerDetail p.1 p.2))
  mqttPublish io.toOutside (topicPrefix ++ py "/setup/result")
    (resultSummary r status total t.ok_count t.fail_count (io.duration j) details (io.now j))
  if status = "FAILED" then pure ()
  else do
    callSaveCabinet io j (setupArgs cab_data cabinet_id cabinet_name)
    callSaveLockers io j cabinet_id layout
    onSetupComplete io (cabinet_name.pyStr io.U)

def setupCabinets (io : SetupOutside) (topicPrefix : PyStr) (command_id : Json) :
    List (Json × Nat) → Py ServiceEffect Unit
  | [] => pure ()
  | (cab, j) :: rest => do
    setupCabinet io topicPrefix command_id j cab
    setupCabinets io topicPrefix command_id rest

/-! ## A command -/

/-- `action == "BULK_SETUP_LOCKERS"`. -/
def isBulk (payload : Dict) : Bool := actionIs payload "BULK_SETUP_LOCKERS"

/-- A single setup as an entry of a bulk one. -/
def singleCabinet (payload : Dict) : Except PyErr Json := do
  let cabinetId ← item payload "cabinetId"
  .ok (.obj [(py "cabinetId", cabinetId),
    (py "cabinetCode", getD payload "cabinetCode" (.lit "Unknown")),
    (py "slaveId", getD payload "slaveId" (.int 1)),
    (py "lockerLayout", getD payload "lockerLayout" (.arr [])),
    (py "totalRows", getD payload "totalRows" (.int 0)),
    (py "totalColumns", getD payload "totalColumns" (.int 0))])

/-- `cabinets_to_process`. -/
def cabinetsToProcess (payload : Dict) : Except PyErr Json :=
  if isBulk payload then .ok (getD payload "cabinets" (.arr []))
  else (singleCabinet payload).map (fun c => .arr [c])

/-- The body of `try` in `_run_setup`. -/
def setupBody (io : SetupOutside) (payload : Dict) (topicPrefix : PyStr) :
    Py ServiceEffect Unit := do
  let cabinets ← Py.ofExcept (cabinetsToProcess payload)
  let _ ← Py.ofExcept cabinets.len
  if isBulk payload then Py.emit .clear else pure ()
  callSaveLocation io ((getD payload "locationId" .null).orElse (.lit "unknown-loc"))
    ((getD payload "locationName" .null).orElse (.lit "Unknown Location"))
    ((getD payload "address" .null).orElse (.lit ""))
  let cabs ← Py.ofExcept cabinets.iter
  setupCabinets io topicPrefix (getD payload "commandId" (.lit "no-id")) cabs.zipIdx

/-- `_run_setup`: every exception is caught and logged. -/
def runSetup (io : SetupOutside) (payload : Dict) (topicPrefix : PyStr) : List ServiceEffect :=
  (setupBody io payload topicPrefix).effects

/-- The answer to a layout that is too long. -/
def reportFailure (io : SetupOutside) (payload : Dict) (topicPrefix : PyStr) :
    Py ServiceEffect Unit :=
  mqttPublish io.toOutside (topicPrefix ++ py "/setup/result")
    [(py "commandId", getD payload "commandId" (.lit "")),
      (py "cabinetId", getD payload "cabinetId" (.lit "")), (py "status", .lit "FAILED"),
      (py "summary", .obj [(py "total", .int 0), (py "totalOk", .int 0), (py "totalFail", .int 0),
        (py "duration", .int 0)]),
      (py "lockers", .arr []), (py "timestamp", .str (io.now 0))]

/-- `handle`, while no setup is running: whether a run is started. -/
def handleSetup (io : SetupOutside) (payload : Dict) (topicPrefix : PyStr) :
    Py ServiceEffect Bool :=
  if isBulk payload then pure (getD payload "cabinets" (.arr [])).truthy
  else do
    let n ← Py.ofExcept (getD payload "lockerLayout" (.arr [])).len
    if (n : Int) > MAX_SLOTS then
      reportFailure io payload topicPrefix
      pure false
    else pure true

/-- A setup command, from its message to the end of its run. -/
def processSetup (io : SetupOutside) (payload : Dict) (topicPrefix : PyStr) :
    List ServiceEffect :=
  let h := handleSetup io payload topicPrefix
  match h.result with
  | .ok true => h.effects ++ runSetup io payload topicPrefix
  | _ => h.effects

/-! ## Histories -/

/-- What an effect makes of the state in memory. -/
def CabinetState.apply (st : CabinetState) : ServiceEffect → CabinetState
  | .clear => st.clear
  | .saveLocation location_id name address => st.saveLocation location_id name address
  | .saveCabinet a =>
    match st.saveCabinet a with
    | .ok st' => st'
    | .error _ => st
  | .saveLockers cabinet_id lockers =>
    match st.saveLockers cabinet_id lockers with
    | .ok st' => st'
    | .error _ => st
  | _ => st

/-- A setup command with what its run gets from outside. -/
structure SetupCommand where
  io : SetupOutside
  payload : Dict
  topicPrefix : PyStr

/-- What processing setup commands one after another does. -/
def setupEffects (cmds : List SetupCommand) : List ServiceEffect :=
  cmds.flatMap (fun c => processSetup c.io c.payload c.topicPrefix)

/-- The state after setup commands, from an empty one. -/
def afterSetups (cmds : List SetupCommand) : CabinetState :=
  (setupEffects cmds).foldl CabinetState.apply .empty

end SmartLocker.Gateway
