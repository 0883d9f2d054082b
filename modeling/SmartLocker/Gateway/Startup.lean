import SmartLocker.Gateway.Persistence
import SmartLocker.Gateway.SetupHandler

/-!
# Start-up and connection

The gateway as a machine whose events are the start of the process, the steps of `main` that subscribe
the stored cabinets, the callbacks of the MQTT client, setup commands and the steps of their runs.  It
keeps what the broker holds for the gateway: a disconnect drops every subscription, a subscription
asked for while disconnected is lost, and `_on_connect` subscribes the three topics of the gateway.
-/

set_option autoImplicit false

namespace SmartLocker.Gateway

open Lib Lib.Python

/-! ## Subscriptions -/

/-- The topics of `subscribe_locker_commands`. -/
def lockerTopics (cabinet_name : PyStr) : List PyStr :=
  [cabinetTopic cabinet_name "command/open", cabinetTopic cabinet_name "command/close"]

/-- The topics `_on_connect` subscribes. -/
def gatewayTopics (mac : PyStr) : List PyStr :=
  [py "iot/" ++ mac ++ py "/command/setup", py "iot/" ++ mac ++ py "/command/clear-setup",
    py "iot/" ++ mac ++ py "/discovery/start"]

/-- Where `main` is. -/
inductive Phase where
  | off
  /-- before `if cabinet_state.is_configured` -/
  | booting
  /-- in the loop over `all_cabinets`, with the cabinets that are left -/
  | subscribing (rest : List Dict)
  | up
  /-- an exception has ended the process -/
  | ended

structure Running where
  phase : Phase
  connected : Bool
  /-- what the broker holds -/
  subs : List PyStr
  state : CabinetState
  /-- the effects that are left of the setup run in progress -/
  pending : List ServiceEffect

namespace Running

def off : Running := ⟨.off, false, [], .empty, []⟩

/-- The process ends, and with it the connection. -/
def ended (g : Running) : Running := ⟨.ended, false, [], g.state, []⟩

/-- A subscription that reaches the broker only while connected. -/
def subscribe (g : Running) (topics : List PyStr) : Running :=
  if g.connected then { g with subs := topics ++ g.subs } else g

/-- The log line of `main` for a stored cabinet: `c["name"]` and `c["slaveId"]`. -/
def announced (c : Dict) : Bool := (get? c "name").isSome && (get? c "slaveId").isSome

/-- `main` up to the connection; what is persisted always has a location. -/
def start (data : Option (Dict × List Dict)) : Running :=
  match data with
  | none => ⟨.booting, false, [], .empty, []⟩
  | some (location, cabinets) =>
    match CabinetState.restore cabinets .empty with
    | .error _ => off.ended
    | .ok st =>
      if st.allCabinets.all announced then
        ⟨.booting, false, [], { st with location := some location }, []⟩
      else off.ended

/-- `if cabinet_state.is_configured: for cab in cabinet_state.all_cabinets`. -/
def enterLoop (g : Running) : Running :=
  { g with phase := if g.state.isConfigured then .subscribing g.state.allCabinets else .up }

/-- `subscribe_locker_commands(cab["name"])`, where `raised` is what `client.subscribe` raises. -/
def subscribeCabinet (U : Unicode) (g : Running) (cab : Dict) (rest : List Dict)
    (raised : Except PyErr Unit) : Running :=
  match item cab "name", raised with
  | .ok name, .ok () =>
    { g.subscribe (lockerTopics (name.pyStr U)) with phase := .subscribing rest }
  | _, _ => g.ended

/-- One effect of the setup run. -/
def perform (g : Running) : ServiceEffect → Running
  | .subscribe topic => g.subscribe [topic]
  | e => { g with state := g.state.apply e }

end Running

inductive GatewayEvent where
  | start (data : Option (Dict × List Dict))
  /-- `_on_connect` with reason code 0 -/
  | connect
  | disconnect
  /-- the next step of `main` -/
  | main (raised : Except PyErr Unit)
  /-- a setup command, when no run is in progress -/
  | setup (c : SetupCommand)
  /-- the next effect of the setup run -/
  | runStep

/-- One event; `none` when it cannot happen. -/
def gatewayStep (U : Unicode) (mac : PyStr) (g : Running) : GatewayEvent → Option Running
  | .start data =>
    match g.phase with
    | .off => some (.start data)
    | _ => none
  | .connect =>
    match g.phase with
    | .off | .ended => none
    | _ => if g.connected then none else some { g with connected := true, subs := gatewayTopics mac }
  | .disconnect => if g.connected then some { g with connected := false, subs := [] } else none
  | .main raised =>
    match g.phase with
    | .booting => some g.enterLoop
    | .subscribing [] => some { g with phase := .up }
    | .subscribing (cab :: rest) => some (g.subscribeCabinet U cab rest raised)
    | _ => none
  | .setup c =>
    match g.phase, g.pending with
    | .off, _ | .ended, _ => none
    | _, [] => some { g with pending := processSetup c.io c.payload c.topicPrefix }
    | _, _ :: _ => none
  | .runStep =>
    match g.pending with
    | [] => none
    | e :: rest => some { g.perform e with pending := rest }

end SmartLocker.Gateway
