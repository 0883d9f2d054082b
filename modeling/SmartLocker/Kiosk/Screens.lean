import SmartLocker.Kiosk.Payment

/-!
# The screens of the kiosk

Model of `KioskScreen` and of the screens it shows, as a machine whose events are what the customer
does, the timers that fire and the replies that come, in any order.

A reply finds its handler in the state of the kiosk as it is by then: leaving a screen takes neither its
requests back nor what their handlers call.  What is set from inside a handler is rendered before the
next event.

Left out are the texts on display, the requests whose replies only change what a screen displays (the
lockers, the boxes, the orders, a promotion, the unlock of a box already rented) and `PinScreen`, to
which nothing goes.
-/

set_option autoImplicit false

namespace SmartLocker.Kiosk

open Lib Lib.Python

def AUTO_HOME_SEC : Int := 20

inductive Screen where
  | home
  | login
  | otp
  | phoneOtp
  | register
  | boxes
  | orderInfo
  | payment
  | staff
  | success
  deriving DecidableEq, Repr

inductive LoginMethod where
  | phone
  | email
  deriving DecidableEq, Repr

/-- A value and the visit of the customer whose action it comes from.  The visits are no part of the
code; they number the times that `goHome` has run. -/
structure Stamped (α : Type) where
  value : α
  visit : Nat

/-- An awaited request, with what its handler has captured and still reads after the reply. -/
inductive KioskRequest where
  | sendOtp (email : PyStr)
  | sendPhoneOtp (formatted : PyStr)
  /-- `confirmation.confirm` -/
  | confirm (otp phone : PyStr)
  | getIdToken (phone : PyStr)
  | phoneLogin (idToken : Json) (phone : PyStr)
  | verifyOtp (email otp : PyStr)
  | kioskQuickRegister (tempToken : Json)
  /-- from the order form that was mounted as number `form`, with the price it showed -/
  | createRentalOrder (jwt : Json) (payload : Dict) (form : Nat) (total : Json)
  | unlockWithCode (lockerId : Json) (code : PyStr)

structure KioskScreen where
  visit : Nat
  screen : Stamped Screen
  history : List Screen
  jwt : Stamped Json
  email : PyStr
  phone : PyStr
  loginMethod : LoginMethod
  tempToken : Stamped Json
  userName : Stamped Json
  selectedBox : Json
  orderId : Json
  orderPin : Json
  orderCode : Json
  totalPrice : Json
  activeLockerId : Json
  /-- the seconds left of the interval in `cdRef`, when it runs -/
  cdRef : Option Int
  /-- `window.confirmationResult` is set -/
  confirmationResult : Bool
  /-- the order forms mounted so far, and `loading` of the last one -/
  form : Nat
  creating : Bool
  /-- the payment screens mounted so far, the last one first -/
  payments : List Payment
  /-- the requests under way, each with the visit in which it was caused -/
  pending : List (Nat × KioskRequest)
  /-- the calls of `showSuccess` that `setTimeout` has put off -/
  timeouts : List Nat

/-- The kiosk as it is first rendered. -/
def KioskScreen.initial (activeLockerId : Json) : KioskScreen where
  visit := 0
  screen := ⟨.home, 0⟩
  history := [.home]
  jwt := ⟨Js.empty, 0⟩
  email := []
  phone := []
  loginMethod := .phone
  tempToken := ⟨Js.empty, 0⟩
  userName := ⟨Js.empty, 0⟩
  selectedBox := .null
  orderId := .null
  orderPin := Js.empty
  orderCode := Js.empty
  totalPrice := .int 0
  activeLockerId := activeLockerId
  cdRef := none
  confirmationResult := false
  form := 0
  creating := false
  payments := []
  pending := []
  timeouts := []

namespace KioskScreen

/-- The handler awaits the reply to `q`. -/
def await (k : KioskScreen) (v : Nat) (q : KioskRequest) : KioskScreen :=
  { k with pending := k.pending ++ [(v, q)] }

/-! ## Navigation -/

/-- The cleanup of the screen that is left. -/
def leave (k : KioskScreen) : KioskScreen :=
  match k.screen.value with
  | .payment => { k with payments := k.payments.modifyHead Payment.unmount }
  | _ => k

/-- The first render of a screen, with its effects. -/
def mounted (k : KioskScreen) (v : Nat) : Screen → KioskScreen
  | .register => k.await v (.kioskQuickRegister k.tempToken.value)
  | .orderInfo => { k with form := k.form + 1, creating := false }
  | .payment => { k with payments := .mount :: k.payments }
  | _ => k

theorem mounted_payments (k : KioskScreen) (v : Nat) (s : Screen) :
    (k.mounted v s).payments = if s = .payment then .mount :: k.payments else k.payments := by
  cases s <;> rfl

theorem mounted_screen (k : KioskScreen) (v : Nat) (s : Screen) : (k.mounted v s).screen = k.screen := by
  cases s <;> rfl

/-- `setScreen`, once it is rendered.  The screen that is shown already stays mounted. -/
def setScreen (k : KioskScreen) (s : Screen) (v : Nat) : KioskScreen :=
  if k.screen.value = s then k else { k.leave with screen := ⟨s, v⟩ }.mounted v s

def go (k : KioskScreen) (s : Screen) (v : Nat) : KioskScreen :=
  { k with history := k.history ++ [s] }.setScreen s v

def back (k : KioskScreen) : KioskScreen :=
  if k.history.length ≤ 1 then k
  else
    { k with history := k.history.dropLast }.setScreen (k.history.dropLast.getLastD .home) k.visit

def goHome (k : KioskScreen) : KioskScreen :=
  let v := k.visit + 1
  { k with
    visit := v, jwt := ⟨Js.empty, v⟩, email := [], phone := [], loginMethod := .phone
    tempToken := ⟨Js.empty, v⟩, userName := ⟨Js.empty, v⟩, selectedBox := .null, orderId := .null
    orderPin := Js.empty, orderCode := Js.empty, totalPrice := .int 0, history := [.home]
    cdRef := none }.setScreen .home v

def showSuccess (k : KioskScreen) (v : Nat) : KioskScreen :=
  { k.go .success v with cdRef := some AUTO_HOME_SEC }

/-- The callback of the interval in `cdRef`. -/
def countdown (k : KioskScreen) (sec : Int) : KioskScreen :=
  if sec - 1 ≤ 0 then k.goHome else { k with cdRef := some (sec - 1) }

/-! ## Handlers -/

/-- `phone.trim()` in international form. -/
def formatted (phone : PyStr) : PyStr :=
  match Js.trim phone with
  | .uni '0' :: rest => py "+84" ++ rest
  | .uni '+' :: rest => .uni '+' :: rest
  | p => py "+84" ++ p

def handleSendEmail (k : KioskScreen) : KioskScreen :=
  if .uni '@' ∈ k.email then k.await k.visit (.sendOtp k.email) else k

/-- A reCAPTCHA that cannot be set up is a request that fails. -/
def handleSendPhone (k : KioskScreen) : KioskScreen :=
  if Js.length k.phone < 9 then k else k.await k.visit (.sendPhoneOtp (formatted k.phone))

/-- `handleVerify` of `PhoneOtpScreen`. -/
def handleVerifyPhone (k : KioskScreen) (otp : PyStr) : KioskScreen :=
  if Js.length otp ≠ 6 then k
  else if k.confirmationResult then k.await k.visit (.confirm otp k.phone) else k

/-- `handleVerify` of `OtpScreen`. -/
def handleVerifyEmail (k : KioskScreen) (otp : PyStr) : KioskScreen :=
  if Js.length otp ≠ 6 then k else k.await k.visit (.verifyOtp k.email otp)

/-- What both do with the data of a reply that succeeds. -/
def verified (k : KioskScreen) (v : Nat) (data : Json) (account : PyStr) : KioskScreen :=
  if Js.truthy (Js.field data "newUser") || Js.truthy (Js.field data "isNewUser") then
    { k with tempToken := ⟨Js.field data "tempToken", v⟩ }.go .register v
  else
    { k with
      jwt := ⟨Js.field data "accessToken", v⟩
      userName := ⟨Js.or (Js.field (Js.field data "userInfo") "fullName") (.str account), v⟩ }.go .boxes v

/-- What `RegisterScreen` does with the data of a reply that succeeds. -/
def registered (k : KioskScreen) (v : Nat) (data : Json) : KioskScreen :=
  { k with jwt := ⟨Js.field data "accessToken", v⟩, userName := ⟨.lit "Khách", v⟩ }.go .boxes v

/-- `handleBoxClick` on a box that can be taken. -/
def handleBoxClick (k : KioskScreen) (box : Dict) : KioskScreen :=
  let boxId := Js.nullish (Js.field (.obj box) "boxId") (Js.field (.obj box) "id")
  { k with selectedBox := .obj ((py "boxId", boxId) :: box.filter fun e => e.1 ≠ py "boxId") }

/-- The body of the order; entries that are `undefined` are not sent. -/
def payload (k : KioskScreen) (hours : Nat) (note promotionCode : PyStr) : Dict :=
  [(py "lockerId", k.activeLockerId), (py "boxId", Js.field k.selectedBox "boxId"),
    (py "cellType", .lit "STANDARD"), (py "hours", .int hours)] ++
    (if note.isEmpty then [] else [(py "note", .str note)]) ++
    (if promotionCode.isEmpty then [] else [(py "promotionCode", .str promotionCode)])

def handleCreate (k : KioskScreen) (hours : Nat) (note promotionCode : PyStr) (total : Json) :
    KioskScreen :=
  if Js.truthy k.selectedBox then
    { k with creating := true }.await k.visit
      (.createRentalOrder k.jwt.value (k.payload hours note promotionCode) k.form total)
  else k

/-- What `handleCreate` does with the data of a reply that succeeds. -/
def created (k : KioskScreen) (v : Nat) (data total : Json) : KioskScreen :=
  { k with
    orderId := Js.field data "id"
    orderPin := Js.or (Js.field data "pinCode") Js.empty
    orderCode := Js.or (Js.field data "orderCode") Js.empty
    totalPrice := Js.nullish (Js.field data "totalPrice") total }.go .payment v

def submitCode (k : KioskScreen) (code : PyStr) : KioskScreen :=
  if Js.length (Js.trim code) < 6 then k
  else k.await k.visit (.unlockWithCode k.activeLockerId (Js.trim code))

/-- `res.success && res.data`. -/
def accepts (r : Reply) : Bool := r.success && Js.truthy r.data

/-- What the handler does with the reply it has awaited. -/
def resume (k : KioskScreen) (v : Nat) (q : KioskRequest) (r : Reply) : KioskScreen :=
  match q with
  | .sendOtp _ => if r.success then k.go .otp v else k
  | .sendPhoneOtp _ =>
    match r with
    | .answered _ => { k with confirmationResult := true }.go .phoneOtp v
    | .failed => k
  | .confirm _ phone =>
    match r with
    | .answered _ => k.await v (.getIdToken phone)
    | .failed => k
  | .getIdToken phone =>
    match r with
    | .answered idToken => k.await v (.phoneLogin idToken phone)
    | .failed => k
  | .phoneLogin _ phone => if accepts r then k.verified v r.data phone else k
  | .verifyOtp email _ => if accepts r then k.verified v r.data email else k
  | .kioskQuickRegister _ => if accepts r then k.registered v r.data else k
  | .createRentalOrder _ _ form total =>
    let k := if accepts r then k.created v r.data total else k
    -- `setLoading(false)` reaches only the form that has sent the order
    { k with creating := k.creating && k.form != form }
  | .unlockWithCode _ _ =>
    if r.success && Js.truthy (Js.field r.data "accepted") then
      { k with timeouts := k.timeouts ++ [v] }
    else k

/-! ## Events -/

/-- The props of the payment screen. -/
def props (k : KioskScreen) : Props where
  jwt := k.jwt.value
  orderId := k.orderId
  orderPin := k.orderPin
  orderCode := k.orderCode
  totalPrice := k.totalPrice
  selectedBox := k.selectedBox
  activeLockerId := k.activeLockerId

/-- An event of the payment screen that was mounted as the `j`-th last one. -/
def payment (k : KioskScreen) (j : Nat) (e : PaymentEvent) : Option KioskScreen :=
  (k.payments[j]?.bind fun s => s.react e).map fun r =>
    let k := { k with payments := k.payments.set j r.next }
    match r.success with
    | some c => k.showSuccess c.visit
    | none => k

end KioskScreen

inductive KioskEvent where
  | goLogin
  | goStaff
  /-- a choice on the home screen, or the reply with the lockers -/
  | setActiveLockerId (id : Json)
  | setLoginMethod (method : LoginMethod)
  | setEmail (email : PyStr)
  /-- the input keeps the digits and `+` -/
  | setPhone (phone : PyStr)
  | handleSendEmail
  | handleSendPhone
  /-- with the code that has been typed -/
  | handleVerifyEmail (otp : PyStr)
  | handleVerifyPhone (otp : PyStr)
  | handleBoxClick (box : Dict)
  | goOrderInfo
  | handleCreate (hours : Nat) (note promotionCode : PyStr) (total : Json)
  | press (b : Button)
  | submitCode (code : PyStr)
  | back
  | goHome
  /-- the interval in `cdRef` fires -/
  | countdown
  /-- the put off call `i` of `showSuccess` -/
  | timeout (i : Nat)
  /-- the reply to pending request `i` -/
  | reply (i : Nat) (r : Reply)
  /-- the interval of payment screen `j` fires -/
  | tick (j : Nat)
  /-- the reply to pending request `i` of payment screen `j` -/
  | paymentReply (j i : Nat) (r : Reply)

/-- The screens whose header goes home. -/
def Screen.leadsHome : Screen → Bool
  | .login => true
  | .register => true
  | .boxes => true
  | .payment => true
  | .staff => true
  | .success => true
  | _ => false

/-- The screens whose header goes back. -/
def Screen.leadsBack : Screen → Bool
  | .otp => true
  | .phoneOtp => true
  | .orderInfo => true
  | _ => false

def isPhoneChar : PyChar → Bool
  | .uni c => c.isDigit || c == '+'
  | .surrogate _ => false

/-- One event, `none` when it cannot occur: its button is not shown or is disabled, its timer does not
run, or nothing awaits that reply. -/
def KioskScreen.step (k : KioskScreen) (e : KioskEvent) : Option KioskScreen :=
  let on (s : Screen) (k' : KioskScreen) : Option KioskScreen :=
    if k.screen.value = s then some k' else none
  match e with
  | .goLogin => on .home (k.go .login k.visit)
  | .goStaff => on .home (k.go .staff k.visit)
  | .setActiveLockerId id => some { k with activeLockerId := id }
  | .setLoginMethod m => on .login { k with loginMethod := m }
  | .setEmail email => if k.loginMethod = .email then on .login { k with email := email } else none
  | .setPhone phone =>
    if k.loginMethod = .phone then on .login { k with phone := phone.filter isPhoneChar } else none
  | .handleSendEmail => if k.loginMethod = .email then on .login k.handleSendEmail else none
  | .handleSendPhone => if k.loginMethod = .phone then on .login k.handleSendPhone else none
  | .handleVerifyEmail otp => on .otp (k.handleVerifyEmail otp)
  | .handleVerifyPhone otp => on .phoneOtp (k.handleVerifyPhone otp)
  | .handleBoxClick box => on .boxes (k.handleBoxClick box)
  | .goOrderInfo => if Js.truthy k.selectedBox then on .boxes (k.go .orderInfo k.visit) else none
  | .handleCreate hours note promotionCode total =>
    if k.creating then none else on .orderInfo (k.handleCreate hours note promotionCode total)
  | .press b => if k.screen.value = .payment then k.payment 0 (.press b ⟨k.visit, k.props⟩) else none
  | .submitCode code => on .staff (k.submitCode code)
  | .back => if k.screen.value.leadsBack then some k.back else none
  | .goHome => if k.screen.value.leadsHome then some k.goHome else none
  | .countdown => k.cdRef.map k.countdown
  | .timeout i =>
    k.timeouts[i]?.map fun v => { k with timeouts := k.timeouts.eraseIdx i }.showSuccess v
  | .reply i r =>
    k.pending[i]?.map fun q => { k with pending := k.pending.eraseIdx i }.resume q.1 q.2 r
  | .tick j => k.payment j .tick
  | .paymentReply j i r => k.payment j (.reply i r)

namespace KioskScreen

/-- What a button does, once its condition holds. -/
theorem of_guard {c : Prop} [Decidable c] {o : Option KioskScreen} {k' : KioskScreen}
    (h : (if c then o else none) = some k') : o = some k' := by
  split at h
  · exact h
  · cases h

end KioskScreen

end SmartLocker.Kiosk
