import SmartLocker.Kiosk.Isolation

/-!
# The payment screens of the kiosk

Each payment screen that the kiosk has mounted goes through a run of `Payment.step` of its own, also
after it has been left, and the only one that is mounted is the one on display.

The events of the kiosk are those of its payment screens (`KioskEvent.onPayment`), and the rest, which
only move between screens: what the moves keep (`Navigable`), they keep.
-/

set_option autoImplicit false

namespace SmartLocker.Kiosk

open Lib Lib.Machine Lib.Python

/-! ## The other events -/

/-- The payment screen that an event goes to, and what happens there. -/
def KioskEvent.onPayment (k : KioskScreen) : KioskEvent → Option (Nat × PaymentEvent)
  | .press b => some (0, .press b ⟨k.visit, k.props⟩)
  | .tick j => some (j, .tick)
  | .paymentReply j i r => some (j, .reply i r)
  | _ => none

/-- `P` depends on the screen and the payment screens only, and a move to another screen keeps it. -/
structure Navigable (P : KioskScreen → Prop) : Prop where
  frame : ∀ {k k' : KioskScreen}, P k → k'.payments = k.payments → k'.screen.value = k.screen.value → P k'
  setScreen : ∀ {k : KioskScreen}, P k → ∀ s v, P (k.setScreen s v)

namespace Navigable

variable {P : KioskScreen → Prop} {k k' : KioskScreen}

theorem go (hP : Navigable P) (h : P k) (s : Screen) (v : Nat) : P (k.go s v) := by
  refine hP.setScreen ?_ s v
  exact hP.frame h rfl rfl

theorem back (hP : Navigable P) (h : P k) : P k.back := by
  unfold KioskScreen.back
  split
  · exact h
  · refine hP.setScreen ?_ _ _
    exact hP.frame h rfl rfl

theorem goHome (hP : Navigable P) (h : P k) : P k.goHome := by
  refine hP.setScreen ?_ _ _
  exact hP.frame h rfl rfl

theorem showSuccess (hP : Navigable P) (h : P k) (v : Nat) : P (k.showSuccess v) :=
  hP.frame (hP.go h .success v) rfl rfl

theorem verified (hP : Navigable P) (h : P k) (v : Nat) (data : Json) (account : PyStr) :
    P (k.verified v data account) := by
  unfold KioskScreen.verified
  split
  · refine hP.go ?_ _ _
    exact hP.frame h rfl rfl
  · refine hP.go ?_ _ _
    exact hP.frame h rfl rfl

theorem registered (hP : Navigable P) (h : P k) (v : Nat) (data : Json) : P (k.registered v data) := by
  refine hP.go ?_ _ _
  exact hP.frame h rfl rfl

theorem created (hP : Navigable P) (h : P k) (v : Nat) (data total : Json) :
    P (k.created v data total) := by
  refine hP.go ?_ _ _
  exact hP.frame h rfl rfl

/-- **A reply to the kiosk** moves between screens at most. -/
theorem resume (hP : Navigable P) (h : P k) (v : Nat) (q : KioskRequest) (r : Reply) :
    P (k.resume v q r) := by
  cases q with
  | sendOtp email =>
    unfold KioskScreen.resume
    dsimp only
    split
    · exact hP.go h .otp v
    · exact h
  | sendPhoneOtp formatted =>
    cases r with
    | answered res =>
      refine hP.go ?_ .phoneOtp v
      exact hP.frame h rfl rfl
    | failed => exact h
  | confirm otp phone =>
    cases r with
    | answered res => exact hP.frame h rfl rfl
    | failed => exact h
  | getIdToken phone =>
    cases r with
    | answered res => exact hP.frame h rfl rfl
    | failed => exact h
  | phoneLogin idToken phone =>
    unfold KioskScreen.resume
    dsimp only
    split
    · exact hP.verified h v r.data phone
    · exact h
  | verifyOtp email otp =>
    unfold KioskScreen.resume
    dsimp only
    split
    · exact hP.verified h v r.data email
    · exact h
  | kioskQuickRegister tempToken =>
    unfold KioskScreen.resume
    dsimp only
    split
    · exact hP.registered h v r.data
    · exact h
  | createRentalOrder jwt payload form total =>
    have hcreated : P (if KioskScreen.accepts r then k.created v r.data total else k) := by
      split
      · exact hP.created h v r.data total
      · exact h
    exact hP.frame hcreated rfl rfl
  | unlockWithCode lockerId code =>
    unfold KioskScreen.resume
    dsimp only
    split
    · exact hP.frame h rfl rfl
    · exact h

theorem guard {c : Prop} [Decidable c] (hk : P k) (h : (if c then some k else none) = some k') :
    P k' := by
  cases KioskScreen.of_guard h
  exact hk

/-- A handler that sends a request. -/
theorem ite_frame {c : Prop} [Decidable c] {k₁ k₂ : KioskScreen} (h₁ : P k₁) (h₂ : P k₂)
    (h : k = if c then k₁ else k₂) : P k := by
  rw [h]
  split
  · exact h₁
  · exact h₂

/-- **One event** that is none of a payment screen. -/
theorem step {e : KioskEvent} (hP : Navigable P) (h : P k) (he : e.onPayment k = none)
    (hs : k.step e = some k') : P k' := by
  have hawait : ∀ q, P (k.await k.visit q) := fun q => hP.frame h rfl rfl
  cases e with
  | goLogin => exact guard (hP.go h .login k.visit) hs
  | goStaff => exact guard (hP.go h .staff k.visit) hs
  | setActiveLockerId id =>
    cases hs
    exact hP.frame h rfl rfl
  | setLoginMethod m =>
    refine guard ?_ hs
    exact hP.frame h rfl rfl
  | setEmail email =>
    refine guard ?_ (KioskScreen.of_guard hs)
    exact hP.frame h rfl rfl
  | setPhone phone =>
    refine guard ?_ (KioskScreen.of_guard hs)
    exact hP.frame h rfl rfl
  | handleSendEmail => exact guard (ite_frame (hawait _) h rfl) (KioskScreen.of_guard hs)
  | handleSendPhone => exact guard (ite_frame h (hawait _) rfl) (KioskScreen.of_guard hs)
  | handleVerifyEmail otp => exact guard (ite_frame h (hawait _) rfl) hs
  | handleVerifyPhone otp => exact guard (ite_frame h (ite_frame (hawait _) h rfl) rfl) hs
  | handleBoxClick box =>
    refine guard ?_ hs
    exact hP.frame h rfl rfl
  | goOrderInfo => exact guard (hP.go h .orderInfo k.visit) (KioskScreen.of_guard hs)
  | handleCreate hours note promotionCode total =>
    have hsent : ∀ q, P ({ k with creating := true }.await k.visit q) := fun q => hP.frame h rfl rfl
    simp only [KioskScreen.step] at hs
    split at hs
    · cases hs
    · exact guard (ite_frame (hsent _) h rfl) hs
  | press b => cases he
  | submitCode code => exact guard (ite_frame h (hawait _) rfl) hs
  | back => exact guard (hP.back h) hs
  | goHome => exact guard (hP.goHome h) hs
  | countdown =>
    obtain ⟨sec, -, rfl⟩ := Option.map_eq_some_iff.mp hs
    unfold KioskScreen.countdown
    split
    · exact hP.goHome h
    · exact hP.frame h rfl rfl
  | timeout i =>
    obtain ⟨v, -, rfl⟩ := Option.map_eq_some_iff.mp hs
    refine hP.showSuccess ?_ v
    exact hP.frame h rfl rfl
  | reply i r =>
    obtain ⟨q, -, rfl⟩ := Option.map_eq_some_iff.mp hs
    refine hP.resume ?_ q.1 q.2 r
    exact hP.frame h rfl rfl
  | tick j => cases he
  | paymentReply j i r => cases he

end Navigable

/-- An event of a payment screen, there. -/
theorem payment_of_step {k k' : KioskScreen} {e : KioskEvent} {j : Nat} {pe : PaymentEvent}
    (he : e.onPayment k = some (j, pe)) (hs : k.step e = some k') : k.payment j pe = some k' := by
  cases e with
  | press b =>
    cases he
    exact KioskScreen.of_guard hs
  | tick j =>
    cases he
    exact hs
  | paymentReply j i r =>
    cases he
    exact hs
  | _ => cases he

/-- A payment screen is left by the kiosk only. -/
theorem onPayment_stays {k : KioskScreen} {e : KioskEvent} {j : Nat} {pe : PaymentEvent}
    (he : e.onPayment k = some (j, pe)) : pe ≠ .leave := by
  cases e with
  | _ => first | cases he; exact PaymentEvent.noConfusion | cases he

/-! ## Runs of their own -/

/-- A payment screen gets into this state by itself. -/
def Reached (s : Payment) : Prop := ∃ es, run Payment.step .mount es = some s

theorem reached_mount : Reached .mount := ⟨[], rfl⟩

theorem Reached.step {s s' : Payment} {e : PaymentEvent} (h : Reached s) (hs : s.step e = some s') :
    Reached s' := by
  obtain ⟨es, hrun⟩ := h
  refine ⟨es ++ [e], ?_⟩
  rw [run_append, hrun]
  simp only [run, Option.bind_some, hs]

/-- The payment screens go through runs of their own, and one is mounted just while it is shown. -/
structure OwnRuns (k : KioskScreen) : Prop where
  reached : ∀ s ∈ k.payments, Reached s
  shown : k.screen.value = .payment → ∃ s rest, k.payments = s :: rest ∧ s.mounted = true
  hidden : ∀ j s, k.payments[j]? = some s → s.mounted = true → j = 0 ∧ k.screen.value = .payment

namespace OwnRuns

theorem frame {k k' : KioskScreen} (h : OwnRuns k) (hpayments : k'.payments = k.payments)
    (hscreen : k'.screen.value = k.screen.value) : OwnRuns k' := by
  constructor
  · rw [hpayments]
    exact h.reached
  · rw [hpayments, hscreen]
    exact h.shown
  · rw [hpayments, hscreen]
    exact h.hidden

/-- Screens that have all been left, and a fresh one when it is shown. -/
theorem of_left {k : KioskScreen} {ps : List Payment} (hreached : ∀ s ∈ ps, Reached s)
    (hleft : ∀ s ∈ ps, s.mounted = false)
    (hpayments : k.payments = if k.screen.value = .payment then .mount :: ps else ps) : OwnRuns k := by
  by_cases hscreen : k.screen.value = .payment
  · rw [if_pos hscreen] at hpayments
    constructor
    · rw [hpayments]
      intro s hs
      rcases List.mem_cons.mp hs with rfl | hold
      · exact reached_mount
      · exact hreached s hold
    · exact fun _ => ⟨_, _, hpayments, rfl⟩
    · rw [hpayments]
      intro j s hj hmounted
      cases j with
      | zero => exact ⟨rfl, hscreen⟩
      | succ j =>
        have hleft' := hleft s (List.mem_of_getElem? (List.getElem?_cons_succ ▸ hj))
        rw [hleft'] at hmounted
        cases hmounted
  · rw [if_neg hscreen] at hpayments
    constructor
    · rw [hpayments]
      exact hreached
    · exact fun h => absurd h hscreen
    · rw [hpayments]
      intro j s hj hmounted
      rw [hleft s (List.mem_of_getElem? hj)] at hmounted
      cases hmounted

/-- The cleanup of the payment screen on display. -/
theorem leave_payments {k : KioskScreen} {s : Payment} {rest : List Payment}
    (hscreen : k.screen.value = .payment) (hpayments : k.payments = s :: rest) :
    k.leave.payments = s.unmount :: rest := by
  unfold KioskScreen.leave
  rw [hscreen]
  dsimp only
  rw [hpayments]
  rfl

/-- The cleanup leaves no payment screen mounted. -/
theorem leave {k : KioskScreen} (h : OwnRuns k) :
    (∀ s ∈ k.leave.payments, Reached s) ∧ ∀ s ∈ k.leave.payments, s.mounted = false := by
  by_cases hscreen : k.screen.value = .payment
  · obtain ⟨s, rest, hpayments, hmounted⟩ := h.shown hscreen
    rw [leave_payments hscreen hpayments]
    constructor
    · intro t ht
      rcases List.mem_cons.mp ht with rfl | hrest
      · have hs : Reached s := h.reached s (hpayments ▸ List.mem_cons_self)
        refine hs.step (e := .leave) ?_
        unfold Payment.step Payment.react
        dsimp only
        rw [if_pos hmounted]
        rfl
      · exact h.reached t (hpayments ▸ List.mem_cons_of_mem s hrest)
    · intro t ht
      rcases List.mem_cons.mp ht with rfl | hrest
      · rfl
      · obtain ⟨j, hj⟩ := List.getElem?_of_mem hrest
        refine Bool.eq_false_iff.mpr fun hm => ?_
        have hzero := (h.hidden (j + 1) t (by rw [hpayments]; exact hj) hm).1
        cases hzero
  · have hleave : k.leave = k := by
      unfold KioskScreen.leave
      split
      · rename_i hpayment
        exact absurd hpayment hscreen
      · rfl
    rw [hleave]
    refine ⟨h.reached, fun s hs => Bool.eq_false_iff.mpr fun hm => ?_⟩
    obtain ⟨j, hj⟩ := List.getElem?_of_mem hs
    exact hscreen (h.hidden j s hj hm).2

theorem setScreen {k : KioskScreen} (h : OwnRuns k) (s : Screen) (v : Nat) :
    OwnRuns (k.setScreen s v) := by
  unfold KioskScreen.setScreen
  split
  · exact h
  · refine of_left h.leave.1 h.leave.2 ?_
    rw [KioskScreen.mounted_payments, KioskScreen.mounted_screen]

theorem navigable : Navigable OwnRuns := ⟨OwnRuns.frame, OwnRuns.setScreen⟩

/-! ## Events of a payment screen -/

/-- One payment screen goes on. -/
theorem set {k : KioskScreen} {j : Nat} {s s' : Payment} (h : OwnRuns k) (hj : k.payments[j]? = some s)
    (hreached : Reached s') (hmounted : s'.mounted = s.mounted) :
    OwnRuns { k with payments := k.payments.set j s' } := by
  constructor
  · intro t ht
    rcases List.mem_or_eq_of_mem_set ht with hold | rfl
    · exact h.reached t hold
    · exact hreached
  · intro hscreen
    obtain ⟨s₀, rest, hpayments, hm⟩ := h.shown hscreen
    rw [hpayments] at hj ⊢
    cases j with
    | zero =>
      cases hj
      exact ⟨s', rest, rfl, hmounted.trans hm⟩
    | succ j => exact ⟨s₀, _, rfl, hm⟩
  · intro i t hi hm
    rw [List.getElem?_set] at hi
    split at hi
    · rename_i hij
      subst hij
      split at hi
      · cases hi
        exact h.hidden j s hj (hmounted ▸ hm)
      · cases hi
    · exact h.hidden i t hi hm

/-- **An event of a payment screen** is one of its run. -/
theorem payment {k k' : KioskScreen} {j : Nat} {e : PaymentEvent} (h : OwnRuns k) (hstays : e ≠ .leave)
    (hk : k.payment j e = some k') : OwnRuns k' := by
  obtain ⟨r, hr, rfl⟩ := Option.map_eq_some_iff.mp hk
  obtain ⟨s, hj, hreact⟩ := Option.bind_eq_some_iff.mp hr
  have hreached : Reached r.settle := by
    refine (h.reached s (List.mem_of_getElem? hj)).step (e := e) ?_
    unfold Payment.step
    rw [hreact]
    rfl
  have hmounted := react_mounted hreact hstays
  by_cases hsettled : r.settle = r.next
  · rw [hsettled] at hreached
    have hset := h.set hj hreached hmounted
    dsimp only
    split
    · exact navigable.showSuccess hset _
    · exact hset
  · -- the success screen takes the place of the screen that shows it
    have hshown : r.success.isSome = true ∧ s.mounted = true := by
      unfold Reaction.settle at hsettled
      split at hsettled
      · rename_i hboth
        rw [Bool.and_eq_true, hmounted] at hboth
        exact hboth
      · exact absurd rfl hsettled
    have hunmount : r.settle = r.next.unmount := by
      unfold Reaction.settle
      rw [hmounted, hshown.1, hshown.2]
      rfl
    obtain ⟨hzero, hscreen⟩ := h.hidden j s hj hshown.2
    obtain ⟨s₀, rest, hpayments, -⟩ := h.shown hscreen
    subst hzero
    obtain ⟨c, hc⟩ := Option.isSome_iff_exists.mp hshown.1
    have hold := h.leave
    rw [leave_payments hscreen hpayments] at hold
    have hmoved : OwnRuns ({ k with payments := k.payments.set 0 r.next }.go .success c.visit) := by
      unfold KioskScreen.go KioskScreen.setScreen
      have hother : ¬ k.screen.value = .success := by
        rw [hscreen]
        exact Screen.noConfusion
      rw [if_neg hother]
      refine of_left (List.forall_mem_cons.mpr ⟨hreached,
        fun t ht => hold.1 t (List.mem_cons_of_mem _ ht)⟩)
        (List.forall_mem_cons.mpr ⟨?_, fun t ht => hold.2 t (List.mem_cons_of_mem _ ht)⟩) ?_
      · rw [hunmount]
        rfl
      · rw [KioskScreen.mounted_payments, KioskScreen.mounted_screen, hunmount]
        refine leave_payments hscreen ?_
        dsimp only
        rw [hpayments]
        rfl
    dsimp only
    rw [hc]
    exact hmoved.frame rfl rfl

/-- **One event of the kiosk.** -/
theorem step {k k' : KioskScreen} {e : KioskEvent} (h : OwnRuns k) (hs : k.step e = some k') :
    OwnRuns k' := by
  cases he : e.onPayment k with
  | none => exact navigable.step h he hs
  | some x => exact h.payment (onPayment_stays he) (payment_of_step he hs)

end OwnRuns

/-- **The payment screens of the kiosk**, after any run, have each gone through a run of their own, and
only the one on display is mounted. -/
theorem payment_screens (activeLockerId : Json) (es : List KioskEvent) (k : KioskScreen)
    (hrun : run KioskScreen.step (.initial activeLockerId) es = some k) : OwnRuns k := by
  have hinitial : OwnRuns (.initial activeLockerId) :=
    ⟨fun s hs => absurd hs List.not_mem_nil, fun hs => (by cases hs), fun j s hs => (by cases hs)⟩
  exact run_invariant (C := fun _ _ => True) (fun _ _ _ h _ hs => h.step hs) es _ k hinitial
    (along_of_forall (fun _ _ => trivial) es _) hrun

/-- A visit up to its payment screen; `form` is the number of its order form. -/
def ordered (form : Nat) (orderId : Int) : List KioskEvent :=
  emailSent ++
    [.handleVerifyEmail (py "123456"), .reply 0 (.succeeded [(py "accessToken", .lit "token of an")]),
      .handleBoxClick [(py "boxId", .int 3)], .goOrderInfo, .handleCreate form [] [] (.int 5000),
      .reply 0 (.succeeded [(py "id", .int orderId), (py "pinCode", .lit "482913")])]

/-- The first customer goes home while a poll waits for its reply, which comes when the next one is on a
payment screen. -/
def twoCustomers : List KioskEvent :=
  ordered 1 7 ++
    [.press (.pay .MOMO), .paymentReply 0 0 (.succeeded [(py "paymentUrl", .lit "https://pay")]), .tick 0,
      .goHome] ++
    ordered 2 8 ++ [.paymentReply 1 0 (.succeeded [(py "isPaid", .bool true)])]

/-- `payment_screens` at two screens: the one that was left goes on, with the unlock under way. -/
theorem payment_screens_visit :
    ∃ k, run KioskScreen.step (.initial (.int 1)) twoCustomers = some k ∧
      k.payments.map (fun s => (s.mounted, s.pending.length)) = [(true, 0), (false, 1)] ∧ OwnRuns k := by
  have hscreens : (run KioskScreen.step (.initial (.int 1)) twoCustomers).map
      (fun k => k.payments.map fun s => (s.mounted, s.pending.length)) =
        some [(true, 0), (false, 1)] := by
    decide +kernel
  obtain ⟨k, hrun, htwo⟩ := Option.map_eq_some_iff.mp hscreens
  exact ⟨k, hrun, htwo, payment_screens (.int 1) twoCustomers k hrun⟩

end SmartLocker.Kiosk
