import SmartLocker.Gateway.Commands

/-!
# What the serial manager makes of a frame

Model of `SerialManager._handle_incoming_json` after `json.loads`: a frame with an `event` goes to the
door callback or, for `ALIVE`, becomes a made-up reply; a frame with a `result` is a reply; anything
else is only logged.  A reply is stored when its slave is the one a caller waits for.
-/

set_option autoImplicit false

namespace SmartLocker.Gateway

open Lib.Python

/-- `data.get("slave", 1)`. -/
def slaveOf (data : Dict) : Json := getD data "slave" (.int 1)

/-- The reply that an `ALIVE` event is taken for. -/
def aliveResponse (data : Dict) : Dict :=
  [(py "slave", slaveOf data), (py "result", .lit "OK"),
    (py "slots", getD data "slots" (.int MAX_SLOTS)), (py "event_confirm", .lit "ALIVE")]

inductive Incoming where
  /-- The arguments of the door callback. -/
  | door (slot event slave : Json)
  /-- A reply of a slave. -/
  | response (slave : Json) (data : Dict)
  | nothing

def handleIncomingJson (data : Dict) : Incoming :=
  match get? data "event" with
  | some event =>
    if event.pyEq (.lit "DOOR_CLOSED") || event.pyEq (.lit "DOOR_OPENED") then
      .door (getD data "slot" (.int (-1))) event (slaveOf data)
    else if event.pyEq (.lit "ALIVE") then .response (slaveOf data) (aliveResponse data)
    else .nothing
  | none =>
    match get? data "result" with
    | some _ => .response (slaveOf data) data
    | none => .nothing

/-- `_timeout_response`. -/
def timeoutResponse (slot_index slave_id : Json) : Dict :=
  [(py "slave", slave_id), (py "slot", slot_index), (py "result", .lit "FAIL"),
    (py "error", .lit "TIMEOUT")]

/-- The result of a call whose write raised. -/
def serialError (slot_index slave_id : Json) : Dict :=
  [(py "slave", slave_id), (py "slot", slot_index), (py "result", .lit "FAIL"),
    (py "error", .lit "SERIAL_ERROR")]

/-- `d.get("result") == "OK"`. -/
def isOk (d : Dict) : Bool :=
  match get? d "result" with
  | some v => v.pyEq (.lit "OK")
  | none => false

end SmartLocker.Gateway
