import Mathlib.Algebra.GroupWithZero.Nat
import SmartLocker.Kiosk.Isolation
import SmartLocker.Kiosk.PaidUnlock
import SmartLocker.Kiosk.PaymentScreens

/-!
# Unlocks of the kiosk

The kiosk mounts a payment screen for each order and never forgets it: the handlers and the interval of
a screen that has been left go on.  What a payment screen pays for out of its own events
(`Budgeted`), the kiosk pays for out of the events of all of them, so that over any run

* no more unlocks are requested for an order than status replies report it paid and buttons that unlock
  are pressed for it;
* no unlock is requested for an order for which no button of a payment screen has been pressed.
-/

set_option autoImplicit false

namespace SmartLocker.Kiosk

open Lib Lib.Machine Lib.Python

/-- What an event costs, or brings, on the payment screen that it goes to. -/
def onPayments (f : Payment → PaymentEvent → Nat) (k : KioskScreen) (e : KioskEvent) : Nat :=
  match e.onPayment k with
  | some (j, pe) =>
    match k.payments[j]? with
    | some s => f s pe
    | none => 0
  | none => 0

/-- One part changes, and the sum with it. -/
theorem sum_map_set {α : Type} (Φ : α → Nat) {l : List α} {j : Nat} {a : α} (hj : l[j]? = some a)
    (b : α) : ((l.set j b).map Φ).sum + Φ a = (l.map Φ).sum + Φ b := by
  induction l generalizing j with
  | nil => cases hj
  | cons x l ih =>
    cases j with
    | zero =>
      cases hj
      simp only [List.set_cons_zero, List.map_cons, List.sum_cons]
      omega
    | succ j =>
      have htail := ih (j := j) hj
      simp only [List.set_cons_succ, List.map_cons, List.sum_cons]
      omega

/-- The sum of `Φ` over the payment screens. -/
def total (Φ : Payment → Nat) (k : KioskScreen) : Nat := (k.payments.map Φ).sum

/-- The payment screens of the kiosk after one event of a payment screen. -/
theorem payment_spec {P : KioskScreen → Prop} (hP : Navigable P) {k k' : KioskScreen} {j : Nat}
    {pe : PaymentEvent} (hs : k.payment j pe = some k')
    (hset : ∀ s r, k.payments[j]? = some s → s.react pe = some r →
      P { k with payments := k.payments.set j r.next }) : P k' := by
  obtain ⟨r, hr, rfl⟩ := Option.map_eq_some_iff.mp hs
  obtain ⟨s, hj, hreact⟩ := Option.bind_eq_some_iff.mp hr
  dsimp only
  split
  · exact hP.showSuccess (hset s r hj hreact) _
  · exact hset s r hj hreact

theorem onPayments_react {f : Payment → PaymentEvent → Nat} {k : KioskScreen} {e : KioskEvent} {j : Nat}
    {pe : PaymentEvent} {s : Payment} (he : e.onPayment k = some (j, pe)) (hj : k.payments[j]? = some s) :
    onPayments f k e = f s pe := by
  unfold onPayments
  rw [he]
  dsimp only
  rw [hj]

/-! ## Budgets -/

/-- On a payment screen, what `f` counts and what is added to `Φ` is paid for by what `g` counts. -/
structure Budgeted (Φ : Payment → Nat) (f g : Payment → PaymentEvent → Nat) : Prop where
  mount : Φ .mount = 0
  unmount : ∀ s, Φ s.unmount = Φ s
  step : ∀ {s s' : Payment} {e : PaymentEvent}, s.step e = some s' → Φ s' + f s e ≤ Φ s + g s e

namespace Budgeted

variable {Φ : Payment → Nat} {f g : Payment → PaymentEvent → Nat}

theorem settle (h : Budgeted Φ f g) (r : Reaction) : Φ r.settle = Φ r.next := by
  unfold Reaction.settle
  split
  · exact h.unmount r.next
  · rfl

theorem leave (h : Budgeted Φ f g) (k : KioskScreen) : total Φ k.leave = total Φ k := by
  unfold KioskScreen.leave
  split
  · unfold total
    cases k.payments with
    | nil => rfl
    | cons s rest =>
      dsimp only
      rw [List.modifyHead_cons, List.map_cons, List.map_cons, h.unmount]
  · rfl

/-- A move to another screen leaves the sum as it is. -/
theorem navigable (h : Budgeted Φ f g) (n : Nat) : Navigable fun k => total Φ k = n := by
  constructor
  · intro k k' hk hpayments _
    unfold total
    rw [hpayments]
    exact hk
  · intro k hk s v
    unfold KioskScreen.setScreen
    split
    · exact hk
    · have hleft : total Φ { k.leave with screen := ⟨s, v⟩ } = n := (h.leave k).trans hk
      unfold total at hleft ⊢
      rw [KioskScreen.mounted_payments]
      split
      · rw [List.map_cons, List.sum_cons, h.mount, Nat.zero_add]
        exact hleft
      · exact hleft

/-- **One event of the kiosk** is paid for. -/
theorem kiosk_step (h : Budgeted Φ f g) {k k' : KioskScreen} {e : KioskEvent}
    (hs : k.step e = some k') :
    total Φ k' + onPayments f k e ≤ total Φ k + onPayments g k e := by
  cases he : e.onPayment k with
  | none =>
    have hsame : total Φ k' = total Φ k := (h.navigable _).step rfl he hs
    have hnone : ∀ w : Payment → PaymentEvent → Nat, onPayments w k e = 0 := by
      intro w
      unfold onPayments
      rw [he]
    rw [hsame, hnone, hnone]
  | some x =>
    obtain ⟨j, pe⟩ := x
    have hpayment := payment_of_step he hs
    obtain ⟨s, r, hj, hreact⟩ : ∃ s r, k.payments[j]? = some s ∧ s.react pe = some r := by
      obtain ⟨r, hr, -⟩ := Option.map_eq_some_iff.mp hpayment
      obtain ⟨s, hj, hreact⟩ := Option.bind_eq_some_iff.mp hr
      exact ⟨s, r, hj, hreact⟩
    have hsame : total Φ k' = total Φ { k with payments := k.payments.set j r.next } := by
      refine payment_spec (h.navigable _) hpayment fun s' r' hj' hreact' => ?_
      rw [hj] at hj'
      cases hj'
      rw [hreact] at hreact'
      cases hreact'
      rfl
    have hstep := h.step (s := s) (e := pe) (by unfold Payment.step; rw [hreact]; rfl)
    rw [h.settle] at hstep
    have hsum : total Φ { k with payments := k.payments.set j r.next } + Φ s = total Φ k + Φ r.next :=
      sum_map_set Φ hj r.next
    rw [hsame, onPayments_react he hj, onPayments_react he hj]
    omega

/-- **A run of the kiosk** is paid for. -/
theorem kiosk_run (h : Budgeted Φ f g) (activeLockerId : Json) {es : List KioskEvent} {k : KioskScreen}
    (hrun : run KioskScreen.step (.initial activeLockerId) es = some k) :
    cost KioskScreen.step (onPayments f) (.initial activeLockerId) es ≤
      cost KioskScreen.step (onPayments g) (.initial activeLockerId) es := by
  have hbudget := run_budget (I := fun _ => True) (C := fun _ _ => True) (Φ := total Φ)
    (f := onPayments f) (g := onPayments g) (fun _ _ _ _ _ _ => trivial)
    (fun _ _ _ _ _ hs => h.kiosk_step hs) es (.initial activeLockerId) k trivial
    (along_of_forall (fun _ _ => trivial) es (KioskScreen.initial activeLockerId)) hrun
  have hnone : total Φ (.initial activeLockerId) = 0 := rfl
  omega

end Budgeted

/-- The unlocks of a payment screen are paid for. -/
theorem unlocks_budgeted (p : Closure → Bool) :
    Budgeted (checkouts p) (unlocks p) fun s e =>
      (paidReply p s e).toNat + ((presses p .openBox e).toNat + (presses p .skip e).toNat) :=
  ⟨rfl, fun _ => rfl, unlocks_step p⟩

/-! ## Orders for which nothing is pressed -/

/-- Nothing on the payment screen is done for a closure in `p`. -/
structure Clear (p : Closure → Bool) (s : Payment) : Prop where
  pending : ∀ q ∈ s.pending, p q.1 = false
  pollRef : ∀ c ∈ s.pollRef, p c = false

/-- No handler of a closure in `p` has run. -/
structure ClearReaction (p : Closure → Bool) (r : Reaction) : Prop where
  next : Clear p r.next
  unlocks : r.unlocks p = 0

variable {p : Closure → Bool}

theorem clear_done {s : Payment} (h : Clear p s) (success : Option Closure) :
    ClearReaction p ⟨s, none, success⟩ := ⟨h, rfl⟩

theorem clear_await {s : Payment} {c : Closure} (h : Clear p s) (hc : p c = false) (q : PaymentRequest) :
    ClearReaction p (s.await c q) := by
  refine ⟨⟨fun x hx => ?_, h.pollRef⟩, ?_⟩
  · rcases List.mem_append.mp hx with hold | hnew
    · exact h.pending x hold
    · cases List.mem_singleton.mp hnew
      exact hc
  · unfold Reaction.unlocks Payment.await
    rw [Option.any_some, hc]
    rfl

/-- **A reply** is taken by the handler that has awaited it. -/
theorem clear_resume {s : Payment} {c : Closure} (h : Clear p s) (hc : p c = false) (q : PaymentRequest)
    (a : Reply) : ClearReaction p (s.resume c q a) := by
  have hstopped : ∀ l u, Clear p { s with loading := l, payUrl := u, pollRef := none } :=
    fun _ _ => ⟨h.pending, fun x hx => by cases hx⟩
  have hidle : ∀ l u, Clear p { s with loading := l, payUrl := u } := fun _ _ => ⟨h.pending, h.pollRef⟩
  cases q with
  | createPayment token orderId method =>
    unfold Payment.resume
    dsimp only
    split
    · refine clear_done ?_ none
      refine ⟨h.pending, fun x hx => ?_⟩
      cases hx
      exact hc
    · exact clear_done (hidle _ _) none
  | getOrderStatus orderId token =>
    unfold Payment.resume
    dsimp only
    split
    · exact clear_await (hstopped _ _) hc _
    · exact clear_done h none
  | mockPaymentCheckout token orderId => exact clear_await h hc _
  | unlockBox lockerId pinCode boxId actionType =>
    unfold Payment.resume
    dsimp only
    split
    · exact clear_await h hc _
    · exact clear_done (hidle _ _) none
  | confirmOrder token orderId =>
    unfold Payment.resume
    dsimp only
    split
    · exact clear_done (hidle _ _) _
    · exact clear_done (hidle _ _) none

/-- The event is no press for a closure in `p`. -/
def pressesNone (p : Closure → Bool) : PaymentEvent → Bool
  | .press _ c => !p c
  | _ => true

theorem clear_react {s : Payment} {e : PaymentEvent} {r : Reaction} (h : Clear p s)
    (he : pressesNone p e = true) (hr : s.react e = some r) : ClearReaction p r := by
  cases e with
  | press b c =>
    have hc : p c = false := Bool.not_eq_true' _ |>.mp he
    obtain ⟨-, rfl⟩ := react_press hr
    cases b with
    | pay m =>
      refine clear_await ?_ hc _
      exact ⟨h.pending, h.pollRef⟩
    | skip =>
      refine clear_await ?_ hc _
      exact ⟨h.pending, h.pollRef⟩
    | openBox =>
      refine clear_await ?_ hc _
      exact ⟨h.pending, fun x hx => by cases hx⟩
  | leave =>
    obtain ⟨-, rfl⟩ := react_leave hr
    refine clear_done ?_ none
    exact ⟨h.pending, fun x hx => by cases hx⟩
  | tick =>
    obtain ⟨c, hpoll, rfl⟩ := react_tick hr
    exact clear_await h (h.pollRef c hpoll) _
  | reply i a =>
    obtain ⟨⟨c, q⟩, hi, rfl⟩ := react_reply hr
    refine clear_resume ?_ (h.pending _ (List.mem_of_getElem? hi)) q a
    exact ⟨fun x hx => h.pending x (List.mem_of_mem_eraseIdx hx), h.pollRef⟩

theorem clear_leave {k : KioskScreen} (h : ∀ s ∈ k.payments, Clear p s) :
    ∀ s ∈ k.leave.payments, Clear p s := by
  unfold KioskScreen.leave
  split
  · dsimp only
    cases hpayments : k.payments with
    | nil => exact List.forall_mem_nil _
    | cons s rest =>
      rw [hpayments] at h
      obtain ⟨hs, hrest⟩ := List.forall_mem_cons.mp h
      rw [List.modifyHead_cons]
      exact List.forall_mem_cons.mpr ⟨⟨hs.pending, fun x hx => by cases hx⟩, hrest⟩
  · exact h

theorem clear_navigable (p : Closure → Bool) : Navigable fun k => ∀ s ∈ k.payments, Clear p s := by
  constructor
  · intro k k' hk hpayments _
    rw [hpayments]
    exact hk
  · intro k hk s v
    unfold KioskScreen.setScreen
    split
    · exact hk
    · rw [KioskScreen.mounted_payments]
      split
      · refine List.forall_mem_cons.mpr ⟨⟨List.forall_mem_nil _, fun x hx => by cases hx⟩, ?_⟩
        exact clear_leave hk
      · exact clear_leave hk

/-- The event is no press on a payment screen for a closure in `p`. -/
def PressesNone (p : Closure → Bool) (k : KioskScreen) (e : KioskEvent) : Prop :=
  ∀ x ∈ e.onPayment k, pressesNone p x.2 = true

instance (p : Closure → Bool) (k : KioskScreen) (e : KioskEvent) : Decidable (PressesNone p k e) :=
  inferInstanceAs (Decidable (∀ x ∈ e.onPayment k, pressesNone p x.2 = true))

/-- **One event of the kiosk.** -/
theorem clear_step {k k' : KioskScreen} {e : KioskEvent} (h : ∀ s ∈ k.payments, Clear p s)
    (he : PressesNone p k e) (hs : k.step e = some k') :
    (∀ s ∈ k'.payments, Clear p s) ∧ onPayments (unlocks p) k e = 0 := by
  cases hpe : e.onPayment k with
  | none =>
    refine ⟨(clear_navigable p).step h hpe hs, ?_⟩
    unfold onPayments
    rw [hpe]
  | some x =>
    obtain ⟨j, pe⟩ := x
    have hpress := he _ hpe
    refine ⟨payment_spec (clear_navigable p) (payment_of_step hpe hs) fun s r hj hreact t ht => ?_, ?_⟩
    · have hclear := clear_react (h s (List.mem_of_getElem? hj)) hpress hreact
      rcases List.mem_or_eq_of_mem_set ht with hold | rfl
      · exact h t hold
      · exact hclear.next
    · unfold onPayments
      rw [hpe]
      dsimp only
      split
      · rename_i s hj
        unfold unlocks
        split
        · rename_i r hreact
          exact (clear_react (h s (List.mem_of_getElem? hj)) hpress hreact).unlocks
        · rfl
      · rfl

/-! ## The kiosk -/

/-- The presses of a button for the closures in `p`. -/
def pressed (p : Closure → Bool) (b : Button) : Payment → PaymentEvent → Nat :=
  fun _ e => (presses p b e).toNat

/-- **Unlocks of the kiosk**, after any run: each of them has a status reply that reports its order
paid, or a press of a button that unlocks, to itself, whichever screens have come and gone meanwhile;
and there is none for an order for which nothing has been pressed. -/
theorem kiosk_unlocks (activeLockerId : Json) (p : Closure → Bool) (es : List KioskEvent)
    (k : KioskScreen) (hrun : run KioskScreen.step (.initial activeLockerId) es = some k) :
    cost KioskScreen.step (onPayments (unlocks p)) (.initial activeLockerId) es ≤
        cost KioskScreen.step (onPayments fun s e => (paidReply p s e).toNat)
            (.initial activeLockerId) es +
          cost KioskScreen.step (onPayments (pressed p .openBox)) (.initial activeLockerId) es +
          cost KioskScreen.step (onPayments (pressed p .skip)) (.initial activeLockerId) es ∧
      (Along KioskScreen.step (PressesNone p) (.initial activeLockerId) es →
        cost KioskScreen.step (onPayments (unlocks p)) (.initial activeLockerId) es = 0) := by
  constructor
  · have hpaid := (unlocks_budgeted p).kiosk_run activeLockerId hrun
    have hsplit : (onPayments fun s e =>
        (paidReply p s e).toNat + ((presses p .openBox e).toNat + (presses p .skip e).toNat)) =
        fun k e => onPayments (fun s e => (paidReply p s e).toNat) k e +
          (onPayments (pressed p .openBox) k e + onPayments (pressed p .skip) k e) := by
      funext k e
      unfold onPayments
      split
      · split
        · rfl
        · rfl
      · rfl
    rw [hsplit, cost_add, cost_add] at hpaid
    omega
  · intro hnone
    have hbudget := run_budget (I := fun k : KioskScreen => ∀ s ∈ k.payments, Clear p s) (Φ := fun _ => 0)
      (f := onPayments (unlocks p)) (g := fun _ _ => 0)
      (fun _ _ _ h he hs => (clear_step h he hs).1)
      (fun _ _ _ h he hs => by rw [(clear_step h he hs).2]) es (.initial activeLockerId) k
      (List.forall_mem_nil _) hnone hrun
    have hzero := cost_countP (fun _ => false) es (.initial activeLockerId) k hrun
    rw [List.countP_false, Function.const_apply] at hzero
    exact Nat.le_zero.mp ((Nat.le_add_left _ _).trans
      (hbudget.trans (by rw [Nat.zero_add]; exact hzero.le)))

/-- The customer goes home while a poll waits for its reply, which then reports the order paid. -/
def leftWhilePaying : List KioskEvent :=
  emailSent ++
    [.handleVerifyEmail (py "123456"), .reply 0 (.succeeded [(py "accessToken", .lit "token of an")]),
      .handleBoxClick [(py "boxId", .int 3)], .goOrderInfo, .handleCreate 1 [] [] (.int 5000),
      .reply 0 (.succeeded [(py "id", .int 7), (py "pinCode", .lit "482913")]), .press (.pay .MOMO),
      .paymentReply 0 0 (.succeeded [(py "paymentUrl", .lit "https://pay")]), .tick 0, .goHome,
      .paymentReply 0 0 (.succeeded [(py "isPaid", .bool true)])]

/-- The box is opened, once, for the order that was paid; for the visit that has begun meanwhile there
is no unlock. -/
theorem kiosk_unlocks_left :
    cost KioskScreen.step (onPayments (unlocks fun c => c.visit == 0)) (.initial (.int 1))
        leftWhilePaying = 1 ∧
      1 ≤ cost KioskScreen.step (onPayments fun s e => (paidReply (fun c => c.visit == 0) s e).toNat)
          (.initial (.int 1)) leftWhilePaying +
        cost KioskScreen.step (onPayments (pressed (fun c => c.visit == 0) .openBox)) (.initial (.int 1))
          leftWhilePaying +
        cost KioskScreen.step (onPayments (pressed (fun c => c.visit == 0) .skip)) (.initial (.int 1))
          leftWhilePaying ∧
      cost KioskScreen.step (onPayments (unlocks fun c => c.visit == 1)) (.initial (.int 1))
        leftWhilePaying = 0 := by
  have hone : cost KioskScreen.step (onPayments (unlocks fun c => c.visit == 0)) (.initial (.int 1))
      leftWhilePaying = 1 := by
    decide +kernel
  have hsome : (run KioskScreen.step (.initial (.int 1)) leftWhilePaying).isSome = true := by
    decide +kernel
  have hrun := Option.eq_some_of_isSome hsome
  refine ⟨hone, ?_, (kiosk_unlocks (.int 1) (fun c => c.visit == 1) leftWhilePaying _ hrun).2 ?_⟩
  · exact hone ▸ (kiosk_unlocks (.int 1) (fun c => c.visit == 0) leftWhilePaying _ hrun).1
  · decide +kernel

end SmartLocker.Kiosk
