import SmartLocker.Gateway.Reports
import SmartLocker.Gateway.SetupHandler

/-!
# The threads of the heartbeat

Model of `start`, `stop` and `_heartbeat_loop` of `HeartbeatService`, statement by statement, in
threads: the callers (`main`, the threads of setups and of `clear-setup`) and the loops that `start`
makes.  Each event is the next statement of one thread, or something that other threads do to the
cabinets and to the states of the lockers.  What `stop` waits for in `join` changes nothing and is left
out.
-/

set_option autoImplicit false

namespace SmartLocker.Gateway

open Lib Lib.Python

/-- Where a loop is. -/
inductive LoopAt where
  /-- the thread is made, not started -/
  | created
  /-- at `while self._running` -/
  | test
  /-- before `self.cabinet_state.all_cabinets` -/
  | collect
  /-- with the cabinets that are left -/
  | round (rest : List Dict)
  /-- with the seconds that are left -/
  | pause (left : Nat)
  | ended

/-- Where a call of `start` or `stop` is. -/
inductive CallerAt where
  /-- at `if not self.cabinet_state.is_configured` -/
  | isConfigured
  /-- at `if self._running` -/
  | isRunning
  | setRunning
  /-- at `self._thread = threading.Thread(…)` -/
  | create
  /-- at `self._thread.start()` -/
  | begin
  /-- at `self._running = False` -/
  | clear
  | done
  deriving DecidableEq

structure HeartbeatThreads where
  service : HeartbeatService
  state : CabinetState
  /-- `self._thread`, as an index -/
  thread : Option Nat
  loops : List LoopAt
  callers : List CallerAt

inductive ThreadEvent where
  /-- an effect of another part of the gateway -/
  | other (e : ServiceEffect)
  | start
  | stop
  /-- the next statement of a call -/
  | caller (n : Nat)
  /-- the next statement of a loop; in a pause, the test and the second after it -/
  | loop (i : Nat) (out : Outside)

namespace HeartbeatThreads

def initial : HeartbeatThreads := ⟨.fresh, .empty, none, [], []⟩

/-- `range(self.interval)`, outside of the `try`: what it raises ends the thread. -/
def pauseFor (interval : Json) : LoopAt :=
  match index? interval with
  | some n => .pause n.toNat
  | none => .ended

/-- The next statement of a loop, and what it publishes. -/
def loopStep (interval : Json) (out : Outside) (s : HeartbeatThreads) :
    LoopAt → Option (LoopAt × List ServiceEffect)
  | .created => none
  | .test => some (if s.service.running then .collect else .ended, [])
  | .collect => some (.round s.state.allCabinets, [])
  | .round [] => some (pauseFor interval, [])
  | .round (cabinet :: rest) =>
    let r := publishSingleHeartbeat out s.state s.service cabinet
    match r.result with
    | .ok () => some (.round rest, r.effects)
    | .error _ => some (.round [], r.effects)
  | .pause 0 => some (.test, [])
  | .pause (left + 1) => some (if s.service.running then .pause left else .ended, [])
  | .ended => none

/-- `self._thread.start()`; a thread is started once. -/
def beginThread (s : HeartbeatThreads) : HeartbeatThreads :=
  match s.thread with
  | none => s
  | some t =>
    match s.loops[t]? with
    | some .created => { s with loops := s.loops.set t .test }
    | _ => s

/-- The next statement of a call. -/
def callerStep (s : HeartbeatThreads) : CallerAt → Option (CallerAt × HeartbeatThreads)
  | .isConfigured => some (if s.state.isConfigured then .isRunning else .done, s)
  | .isRunning => some (if s.service.running then .done else .setRunning, s)
  | .setRunning => some (.create, { s with service := { s.service with running := true } })
  | .create => some (.begin, { s with thread := some s.loops.length, loops := s.loops ++ [.created] })
  | .begin => some (.done, s.beginThread)
  | .clear => some (.done, { s with service := s.service.stop })
  | .done => none

/-- One event, `none` when it cannot happen. -/
def step (interval : Json) (s : HeartbeatThreads) : ThreadEvent → Option HeartbeatThreads
  | .other e => some { s with state := s.state.apply e, service := s.service.apply e }
  | .start => some { s with callers := s.callers ++ [.isConfigured] }
  | .stop => some { s with callers := s.callers ++ [.clear] }
  | .caller n =>
    (s.callers[n]?.bind s.callerStep).map fun r => { r.2 with callers := s.callers.set n r.1 }
  | .loop i out =>
    (s.loops[i]?.bind (s.loopStep interval out)).map fun r => { s with loops := s.loops.set i r.1 }

/-- What an event publishes. -/
def published (interval : Json) (s : HeartbeatThreads) : ThreadEvent → List ServiceEffect
  | .loop i out =>
    match s.loops[i]?.bind (s.loopStep interval out) with
    | some r => r.2
    | none => []
  | _ => []

end HeartbeatThreads

end SmartLocker.Gateway
