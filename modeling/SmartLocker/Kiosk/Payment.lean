import SmartLocker.Lib.Js
import SmartLocker.Lib.Machine

/-!
# The payment screen

Model of `PaymentScreen` of the kiosk as a machine: its buttons, the interval of `startPaymentPolling`
and the requests whose replies are still to come, in any order.  A handler runs to its next `await` in
one step, and what it sets is rendered before the next event.  What is only displayed (the message, the
QR code, the payment method, the polling notice) is left out.
-/

set_option autoImplicit false

namespace SmartLocker.Kiosk

open Lib Lib.Python

/-! ## Requests and replies -/

/-- What an awaited call gives: a value, or an exception. -/
inductive Reply where
  | answered (res : Json)
  | failed

namespace Reply

/-- `res.success`; on `null` the read throws, which the handlers take as they take a failure. -/
def success : Reply → Bool
  | answered res => Js.truthy (Js.field res "success")
  | failed => false

/-- `res.data`. -/
def data : Reply → Json
  | answered res => Js.field res "data"
  | failed => .null

/-- A reply that succeeds. -/
def succeeded (data : Dict) : Reply :=
  answered (.obj [(py "success", .bool true), (py "data", .obj data)])

end Reply

/-- What the payment screen is given by `KioskScreen`. -/
structure Props where
  jwt : Json
  orderId : Json
  orderPin : Json
  orderCode : Json
  totalPrice : Json
  selectedBox : Json
  activeLockerId : Json

/-- What a handler has captured: the props of its render.  `visit` is no part of the code: it numbers
the visit of the customer in which the button was pressed. -/
structure Closure where
  visit : Nat
  props : Props

/-- The methods of `payOnline`. -/
inductive Method where
  | MOMO
  | VNPAY
  deriving DecidableEq, Repr

inductive PaymentRequest where
  | createPayment (token orderId : Json) (method : Method)
  | getOrderStatus (orderId token : Json)
  | mockPaymentCheckout (token orderId : Json)
  | unlockBox (lockerId pinCode boxId : Json) (actionType : String)
  | confirmOrder (token orderId : Json)

/-! ## The screen -/

/-- `loading`; `idle` is `''`. -/
inductive Loading where
  | idle
  | pay (method : Method)
  | skip
  | opening
  deriving DecidableEq, Repr

structure Payment where
  mounted : Bool
  loading : Loading
  payUrl : Json
  /-- the running interval, with what its callback has captured -/
  pollRef : Option Closure
  pending : List (Closure × PaymentRequest)

/-- What a handler does in one step: the request it awaits next, and the call of `showSuccess`. -/
structure Reaction where
  next : Payment
  sent : Option (Closure × PaymentRequest)
  success : Option Closure

namespace Payment

def mount : Payment := ⟨true, .idle, Js.empty, none, []⟩

/-- The cleanup of the effect. -/
def unmount (s : Payment) : Payment := { s with mounted := false, pollRef := none }

/-- The handler is done. -/
def done (s : Payment) : Reaction := ⟨s, none, none⟩

/-- The handler awaits the reply to `q`. -/
def await (s : Payment) (c : Closure) (q : PaymentRequest) : Reaction :=
  ⟨{ s with pending := s.pending ++ [(c, q)] }, some (c, q), none⟩

/-- The unlock of `skipPay` and `openAfterPay`. -/
def dropOff (s : Payment) (c : Closure) : Reaction :=
  s.await c (.unlockBox c.props.activeLockerId c.props.orderPin
    (Js.field c.props.selectedBox "boxId") "DROP_OFF")

def confirmOrder (s : Payment) (c : Closure) : Reaction :=
  s.await c (.confirmOrder c.props.jwt c.props.orderId)

def skipPay (s : Payment) (c : Closure) : Reaction :=
  { s with loading := .skip }.await c (.mockPaymentCheckout c.props.jwt c.props.orderId)

def payOnline (s : Payment) (c : Closure) (method : Method) : Reaction :=
  { s with loading := .pay method, payUrl := Js.empty }.await c
    (.createPayment c.props.jwt c.props.orderId method)

/-- The interval that runs is replaced. -/
def startPaymentPolling (s : Payment) (c : Closure) : Payment := { s with pollRef := some c }

/-- The callback of the interval. -/
def poll (s : Payment) (c : Closure) : Reaction :=
  s.await c (.getOrderStatus c.props.orderId c.props.jwt)

def openAfterPay (s : Payment) (c : Closure) : Reaction :=
  { s with loading := .opening, pollRef := none }.dropOff c

/-- What the handler does with the reply it has awaited. -/
def resume (s : Payment) (c : Closure) (q : PaymentRequest) (r : Reply) : Reaction :=
  match q with
  | .createPayment _ _ _ =>
    if r.success && Js.truthy (Js.field r.data "paymentUrl") then
      let s := { s with payUrl := Js.field r.data "paymentUrl" }
      { s.startPaymentPolling c with loading := .idle }.done
    else { s with loading := .idle }.done
  | .getOrderStatus _ _ =>
    if r.success && Js.truthy (Js.field r.data "isPaid") then
      -- `clearInterval` stops whichever interval runs by now
      { s with pollRef := none }.openAfterPay c
    else s.done
  | .mockPaymentCheckout _ _ => s.dropOff c
  | .unlockBox _ _ _ _ =>
    if r.success && Js.truthy (Js.field r.data "accepted") then s.confirmOrder c
    else { s with loading := .idle }.done
  | .confirmOrder _ _ =>
    if r.success then ⟨{ s with loading := .idle }, none, some c⟩
    else { s with loading := .idle }.done

end Payment

/-! ## Events -/

/-- The buttons; `openBox` is "Đã thanh toán — Mở tủ". -/
inductive Button where
  | pay (method : Method)
  | skip
  | openBox
  deriving DecidableEq, Repr

/-- The button is shown and not disabled. -/
def Payment.offers (s : Payment) : Button → Bool
  | .pay m => s.mounted && !Js.truthy s.payUrl && s.loading != .pay m
  | .skip => s.mounted && !Js.truthy s.payUrl && s.loading != .skip
  | .openBox => s.mounted && Js.truthy s.payUrl && s.loading != .opening

def Payment.pressed (s : Payment) (c : Closure) : Button → Reaction
  | .pay m => s.payOnline c m
  | .skip => s.skipPay c
  | .openBox => s.openAfterPay c

inductive PaymentEvent where
  | press (b : Button) (c : Closure)
  /-- the screen is left -/
  | leave
  /-- the interval fires -/
  | tick
  /-- the reply to pending request `i` -/
  | reply (i : Nat) (r : Reply)

/-- One event, `none` when it cannot occur. -/
def Payment.react (s : Payment) : PaymentEvent → Option Reaction
  | .press b c => if s.offers b then some (s.pressed c b) else none
  | .leave => if s.mounted then some s.unmount.done else none
  | .tick => s.pollRef.map s.poll
  | .reply i r =>
    s.pending[i]?.map fun q => { s with pending := s.pending.eraseIdx i }.resume q.1 q.2 r

/-- The success screen takes the place of the payment screen. -/
def Reaction.settle (r : Reaction) : Payment :=
  if r.success.isSome && r.next.mounted then r.next.unmount else r.next

/-- One event of a payment screen that is left when the success screen is shown. -/
def Payment.step (s : Payment) (e : PaymentEvent) : Option Payment := (s.react e).map Reaction.settle

/-! ## What an event needs -/

theorem react_press {s : Payment} {b : Button} {c : Closure} {r : Reaction}
    (h : s.react (.press b c) = some r) : s.offers b = true ∧ r = s.pressed c b := by
  simp only [Payment.react] at h
  split at h
  · rename_i hoffers
    cases h
    exact ⟨hoffers, rfl⟩
  · cases h

theorem react_leave {s : Payment} {r : Reaction} (h : s.react .leave = some r) :
    s.mounted = true ∧ r = s.unmount.done := by
  simp only [Payment.react] at h
  split at h
  · rename_i hmounted
    cases h
    exact ⟨hmounted, rfl⟩
  · cases h

theorem react_tick {s : Payment} {r : Reaction} (h : s.react .tick = some r) :
    ∃ c, s.pollRef = some c ∧ r = s.poll c :=
  (Option.map_eq_some_iff.mp h).imp fun _ h => ⟨h.1, h.2.symm⟩

theorem react_reply {s : Payment} {i : Nat} {a : Reply} {r : Reaction}
    (h : s.react (.reply i a) = some r) :
    ∃ q, s.pending[i]? = some q ∧
      r = { s with pending := s.pending.eraseIdx i }.resume q.1 q.2 a :=
  (Option.map_eq_some_iff.mp h).imp fun _ h => ⟨h.1, h.2.symm⟩

/-- A handler does not take its screen away. -/
theorem resume_mounted (s : Payment) (c : Closure) (q : PaymentRequest) (r : Reply) :
    (s.resume c q r).next.mounted = s.mounted := by
  cases q <;> unfold Payment.resume <;> dsimp only <;> first | rfl | (split <;> rfl)

theorem react_mounted {s : Payment} {e : PaymentEvent} {r : Reaction} (h : s.react e = some r)
    (hstays : e ≠ .leave) : r.next.mounted = s.mounted := by
  cases e with
  | press b c =>
    obtain ⟨-, rfl⟩ := react_press h
    cases b <;> rfl
  | leave => exact absurd rfl hstays
  | tick =>
    obtain ⟨c, -, rfl⟩ := react_tick h
    rfl
  | reply i a =>
    obtain ⟨⟨c, q⟩, -, rfl⟩ := react_reply h
    exact resume_mounted _ c q a

/-- The order for which the event shows the success screen: the reply confirms it. -/
def Payment.confirmed (s : Payment) : PaymentEvent → Option Closure
  | .reply i r =>
    match s.pending[i]? with
    | some (c, .confirmOrder _ _) => if r.success then some c else none
    | _ => none
  | _ => none

theorem react_success {s : Payment} {e : PaymentEvent} {r : Reaction} (h : s.react e = some r) :
    r.success = s.confirmed e := by
  cases e with
  | press b c =>
    obtain ⟨-, rfl⟩ := react_press h
    cases b <;> rfl
  | leave =>
    obtain ⟨-, rfl⟩ := react_leave h
    rfl
  | tick =>
    obtain ⟨c, -, rfl⟩ := react_tick h
    rfl
  | reply i a =>
    obtain ⟨⟨c, q⟩, hq, rfl⟩ := react_reply h
    unfold Payment.confirmed
    dsimp only
    rw [hq]
    cases q <;> unfold Payment.resume <;> dsimp only <;> first | rfl | (split <;> rfl)

end SmartLocker.Kiosk
