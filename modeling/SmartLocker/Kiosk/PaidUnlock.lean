import SmartLocker.Kiosk.Payment

/-!
# Unlocks of the payment screen

Whatever the order of presses, ticks and replies, each unlock that the payment screen requests has a
cause of its own before it: a status reply that reports the order paid, or a press of a button that
unlocks.  The presses and polls of the online flow request one unlock at most, as long as unlocks and
confirmations succeed and no other request is under way when an unlock is requested.
-/

set_option autoImplicit false

namespace SmartLocker.Kiosk

open Lib Lib.Machine Lib.Python

namespace PaymentRequest

def isUnlock : PaymentRequest → Bool
  | unlockBox _ _ _ _ => true
  | _ => false

def isCheckout : PaymentRequest → Bool
  | mockPaymentCheckout _ _ => true
  | _ => false

def isStatus : PaymentRequest → Bool
  | getOrderStatus _ _ => true
  | _ => false

/-- The requests of the online flow that come before its unlock. -/
def beforeUnlock : PaymentRequest → Bool
  | createPayment _ _ _ => true
  | getOrderStatus _ _ => true
  | _ => false

/-- The unlock and what follows it. -/
def fromUnlock : PaymentRequest → Bool
  | unlockBox _ _ _ _ => true
  | confirmOrder _ _ => true
  | _ => false

theorem fromUnlock_of_beforeUnlock {q : PaymentRequest} (h : q.beforeUnlock = true) :
    q.fromUnlock = false := by
  cases q with
  | createPayment _ _ _ => rfl
  | getOrderStatus _ _ => rfl
  | mockPaymentCheckout _ _ => rfl
  | unlockBox _ _ _ _ => cases h
  | confirmOrder _ _ => cases h

end PaymentRequest

/-! ## What is counted

`p` picks the closures of one order, or any others. -/

def Reaction.unlocks (p : Closure → Bool) (r : Reaction) : Nat :=
  (r.sent.any fun q => p q.1 && q.2.isUnlock).toNat

/-- The unlocks that an event requests. -/
def unlocks (p : Closure → Bool) (s : Payment) (e : PaymentEvent) : Nat :=
  match s.react e with
  | some r => r.unlocks p
  | none => 0

/-- The event is a status reply that reports the order paid. -/
def paidReply (p : Closure → Bool) (s : Payment) : PaymentEvent → Bool
  | .reply i r =>
    match s.pending[i]? with
    | some (c, .getOrderStatus _ _) => p c && r.success && Js.truthy (Js.field r.data "isPaid")
    | _ => false
  | _ => false

def presses (p : Closure → Bool) (b : Button) : PaymentEvent → Bool
  | .press b' c => b' == b && p c
  | _ => false

/-- The unlocks that the events request, from a screen just mounted. -/
def unlockCount (p : Closure → Bool) (es : List PaymentEvent) : Nat :=
  cost Payment.step (unlocks p) .mount es

/-- The status replies among the events that report the order paid. -/
def paidCount (p : Closure → Bool) (es : List PaymentEvent) : Nat :=
  cost Payment.step (fun s e => (paidReply p s e).toNat) .mount es

/-! ## One event -/

theorem react_of_step {s s' : Payment} {e : PaymentEvent} (hs : s.step e = some s') :
    ∃ r, s.react e = some r ∧ s' = r.settle :=
  (Option.map_eq_some_iff.mp hs).imp fun _ h => ⟨h.1, h.2.symm⟩

theorem unlocks_of_react (p : Closure → Bool) {s : Payment} {e : PaymentEvent} {r : Reaction}
    (hr : s.react e = some r) : unlocks p s e = r.unlocks p := by
  unfold unlocks
  rw [hr]

theorem settle_pending (r : Reaction) : r.settle.pending = r.next.pending := by
  unfold Reaction.settle
  split
  · rfl
  · rfl

/-! ## Causes -/

/-- The checkouts under way; each is followed by an unlock. -/
def checkouts (p : Closure → Bool) (s : Payment) : Nat :=
  s.pending.countP fun q => p q.1 && q.2.isCheckout

/-- A handler that awaits its next request. -/
theorem await_budget (p : Closure → Bool) (s : Payment) (c : Closure) (q : PaymentRequest) :
    checkouts p (s.await c q).next + (s.await c q).unlocks p =
      checkouts p s + (p c && (q.isCheckout || q.isUnlock)).toNat := by
  unfold checkouts Payment.await Reaction.unlocks
  rw [List.countP_append, List.countP_singleton, Option.any_some]
  cases p c with
  | false => simp
  | true => cases q <;> simp [PaymentRequest.isCheckout, PaymentRequest.isUnlock]

/-- A handler that is done, or shows the success screen, requests nothing. -/
theorem quiet_budget (p : Closure → Bool) {s t : Payment} (h : t.pending = s.pending)
    (success : Option Closure) :
    checkouts p t + Reaction.unlocks p ⟨t, none, success⟩ = checkouts p s := by
  unfold checkouts
  rw [h]
  rfl

/-- **A reply**: an unlock is requested only by the handler that has awaited a checkout, or by the poll
that is told that the order is paid. -/
theorem resume_budget (p : Closure → Bool) (s : Payment) (c : Closure) (q : PaymentRequest) (a : Reply) :
    checkouts p (s.resume c q a).next + (s.resume c q a).unlocks p ≤
      checkouts p s + (p c && q.isCheckout).toNat +
        (p c && q.isStatus && a.success && Js.truthy (Js.field a.data "isPaid")).toNat := by
  cases q with
  | createPayment _ _ _ =>
    unfold Payment.resume
    dsimp only
    split
    · exact (quiet_budget p (by rfl) none).le.trans (Nat.le_add_right_of_le (Nat.le_add_right _ _))
    · exact (quiet_budget p (by rfl) none).le.trans (Nat.le_add_right_of_le (Nat.le_add_right _ _))
  | getOrderStatus _ _ =>
    unfold Payment.resume
    dsimp only
    split
    · rename_i hpaid
      have hawait := await_budget p { s with loading := .opening, pollRef := none } c
        (.unlockBox c.props.activeLockerId c.props.orderPin
          (Js.field c.props.selectedBox "boxId") "DROP_OFF")
      rw [Bool.and_eq_true] at hpaid
      rw [hpaid.1, hpaid.2]
      refine hawait.le.trans ?_
      have hsame : checkouts p { s with loading := .opening, pollRef := none } = checkouts p s := rfl
      simp [hsame, PaymentRequest.isUnlock, PaymentRequest.isStatus]
    · exact (quiet_budget p (by rfl) none).le.trans (Nat.le_add_right_of_le (Nat.le_add_right _ _))
  | mockPaymentCheckout _ _ =>
    refine (await_budget p s c _).le.trans ?_
    simp [PaymentRequest.isUnlock, PaymentRequest.isCheckout]
  | unlockBox _ _ _ _ =>
    unfold Payment.resume
    dsimp only
    split
    · refine (await_budget p s c _).le.trans ?_
      simp [PaymentRequest.isUnlock, PaymentRequest.isCheckout]
    · exact (quiet_budget p (by rfl) none).le.trans (Nat.le_add_right_of_le (Nat.le_add_right _ _))
  | confirmOrder _ _ =>
    unfold Payment.resume
    dsimp only
    split
    · exact (quiet_budget p (by rfl) _).le.trans (Nat.le_add_right_of_le (Nat.le_add_right _ _))
    · exact (quiet_budget p (by rfl) none).le.trans (Nat.le_add_right_of_le (Nat.le_add_right _ _))

/-- **One event**: the unlocks it requests and the checkouts it leaves under way are paid for by the
checkouts that were under way, a status reply that reports the order paid, or a press. -/
theorem unlocks_step (p : Closure → Bool) {s s' : Payment} {e : PaymentEvent}
    (hs : s.step e = some s') :
    checkouts p s' + unlocks p s e ≤ checkouts p s +
      ((paidReply p s e).toNat + ((presses p .openBox e).toNat + (presses p .skip e).toNat)) := by
  obtain ⟨r, hr, rfl⟩ := react_of_step hs
  have hpending : checkouts p r.settle = checkouts p r.next := by
    unfold checkouts
    rw [settle_pending]
  rw [hpending, unlocks_of_react p hr]
  cases e with
  | press b c =>
    obtain ⟨-, rfl⟩ := react_press hr
    cases b with
    | pay m =>
      refine (await_budget p _ c _).le.trans ?_
      simp [PaymentRequest.isUnlock, PaymentRequest.isCheckout, checkouts]
    | skip =>
      refine (await_budget p _ c _).le.trans ?_
      have hpress : presses p .skip (.press .skip c) = p c := Bool.true_and _
      simp only [PaymentRequest.isCheckout, Bool.true_or, Bool.and_true, hpress, checkouts]
      omega
    | openBox =>
      refine (await_budget p _ c _).le.trans ?_
      have hpress : presses p .openBox (.press .openBox c) = p c := Bool.true_and _
      simp only [PaymentRequest.isCheckout, PaymentRequest.isUnlock, Bool.false_or, Bool.and_true,
        hpress, checkouts]
      omega
  | leave =>
    obtain ⟨-, rfl⟩ := react_leave hr
    exact Nat.le_add_right _ _
  | tick =>
    obtain ⟨c, -, rfl⟩ := react_tick hr
    refine (await_budget p s c _).le.trans ?_
    simp [PaymentRequest.isUnlock, PaymentRequest.isCheckout]
  | reply i a =>
    obtain ⟨⟨c, q⟩, hq, rfl⟩ := react_reply hr
    refine (resume_budget p _ c q a).trans ?_
    have hrest := countP_eraseIdx (fun q => p q.1 && q.2.isCheckout) hq
    have hpaid : (p c && q.isStatus && a.success && Js.truthy (Js.field a.data "isPaid")) =
        paidReply p s (.reply i a) := by
      unfold paidReply
      dsimp only
      rw [hq]
      cases q <;> simp [PaymentRequest.isStatus]
    rw [hpaid]
    unfold checkouts
    dsimp only at hrest ⊢
    omega

/-! ## One unlock -/

/-- The event belongs to the online flow. -/
def online : PaymentEvent → Bool
  | .press .skip _ => false
  | _ => true

/-- No unlock is refused or fails, nor does a confirmation, and nothing else is under way when an unlock
is requested. -/
def undisturbed (s : Payment) : PaymentEvent → Bool
  | .press .openBox _ => s.pending.isEmpty
  | .reply i r =>
    match s.pending[i]? with
    | some (_, .unlockBox _ _ _ _) => r.success && Js.truthy (Js.field r.data "accepted")
    | some (_, .confirmOrder _ _) => r.success
    | some (_, .getOrderStatus _ _) =>
      !(r.success && Js.truthy (Js.field r.data "isPaid")) || s.pending.length == 1
    | _ => true
  | _ => true

/-- No unlock has been requested.  An order that is polled has a payment link, so that the buttons that
start a payment are not shown. -/
structure Waiting (s : Payment) : Prop where
  before : ∀ q ∈ s.pending, q.2.beforeUnlock = true
  linked : s.pollRef.isSome = true ∨ (∃ q ∈ s.pending, q.2.isStatus = true) →
    Js.truthy s.payUrl = true

/-- The unlock, or the confirmation after it, is under way, and nothing else can start. -/
structure Opening (s : Payment) : Prop where
  alone : ∃ q, s.pending = [q] ∧ q.2.fromUnlock = true
  stopped : s.pollRef = none
  linked : Js.truthy s.payUrl = true
  loading : s.loading = .opening

/-- Nothing can happen any more. -/
structure Over (s : Payment) : Prop where
  nothing : s.pending = []
  stopped : s.pollRef = none
  gone : s.mounted = false

/-- The unlocks that may still be requested. -/
def allowance (s : Payment) : Nat :=
  if s.pending.any (fun q => q.2.fromUnlock) then 0
  else (s.mounted || s.pollRef.isSome || !s.pending.isEmpty).toNat

theorem Opening.allowance {s : Payment} (h : Opening s) : allowance s = 0 := by
  obtain ⟨q, hq, hfrom⟩ := h.alone
  unfold Kiosk.allowance
  rw [hq]
  simp [hfrom]

theorem Over.allowance {s : Payment} (h : Over s) : allowance s = 0 := by
  unfold Kiosk.allowance
  rw [h.nothing, h.stopped, h.gone]
  rfl

theorem Over.waiting {s : Payment} (h : Over s) : Waiting s := by
  constructor
  · rw [h.nothing]
    exact fun q hq => absurd hq List.not_mem_nil
  · rw [h.nothing, h.stopped]
    rintro (hnone | ⟨q, hq, -⟩)
    · cases hnone
    · exact absurd hq List.not_mem_nil

theorem allowance_le (s : Payment) : allowance s ≤ 1 := by
  unfold allowance
  split
  · exact Nat.zero_le 1
  · exact Bool.toNat_le _

/-- A screen on which something has happened was not over. -/
theorem Waiting.allowance {s s' : Payment} {e : PaymentEvent} (h : Waiting s) (hs : s.step e = some s') :
    allowance s = 1 := by
  obtain ⟨r, hr, -⟩ := react_of_step hs
  have hnone : (s.pending.any fun q => q.2.fromUnlock) = false := by
    rw [List.any_eq_false]
    intro q hq
    rw [PaymentRequest.fromUnlock_of_beforeUnlock (h.before q hq)]
    exact Bool.false_ne_true
  have hlive : (s.mounted || s.pollRef.isSome || !s.pending.isEmpty) = true := by
    cases e with
    | press b c =>
      obtain ⟨hoffers, -⟩ := react_press hr
      cases b <;> simp_all [Payment.offers]
    | leave => simp [(react_leave hr).1]
    | tick =>
      obtain ⟨c, hc, -⟩ := react_tick hr
      simp [hc]
    | reply i a =>
      obtain ⟨q, hq, -⟩ := react_reply hr
      cases hp : s.pending with
      | nil => simp [hp] at hq
      | cons x l => simp
  unfold Kiosk.allowance
  rw [hnone, hlive]
  rfl

theorem Waiting.shrink {s s' : Payment} (h : Waiting s) (hpending : s'.pending ⊆ s.pending)
    (hpoll : s'.pollRef.isSome = true → s.pollRef.isSome = true)
    (hurl : Js.truthy s.payUrl = true → Js.truthy s'.payUrl = true) : Waiting s' := by
  constructor
  · exact fun q hq => h.before q (hpending hq)
  · rintro (hsome | ⟨q, hq, hstatus⟩)
    · exact hurl (h.linked (.inl (hpoll hsome)))
    · exact hurl (h.linked (.inr ⟨q, hpending hq, hstatus⟩))

/-- A request before the unlock is sent. -/
theorem Waiting.await {s : Payment} (h : Waiting s) (c : Closure) {q : PaymentRequest}
    (hbefore : q.beforeUnlock = true) (hlinked : q.isStatus = true → Js.truthy s.payUrl = true) :
    Waiting (s.await c q).next := by
  constructor
  · intro x hx
    rcases List.mem_append.mp hx with hold | hnew
    · exact h.before x hold
    · rw [List.mem_singleton.mp hnew]
      exact hbefore
  · rintro (hsome | ⟨x, hx, hstatus⟩)
    · exact h.linked (.inl hsome)
    · rcases List.mem_append.mp hx with hold | hnew
      · exact h.linked (.inr ⟨x, hold, hstatus⟩)
      · rw [List.mem_singleton.mp hnew] at hstatus
        exact hlinked hstatus

/-- The reply to the only request. -/
theorem eraseIdx_of_alone {α : Type} {l : List α} {i : Nat} {a : α} (hlen : l.length = 1)
    (h : l[i]? = some a) : i = 0 ∧ l.eraseIdx i = [] := by
  obtain ⟨x, rfl⟩ := List.length_eq_one_iff.mp hlen
  obtain ⟨hi, -⟩ := List.getElem?_eq_some_iff.mp h
  obtain rfl := Nat.lt_one_iff.mp hi
  exact ⟨rfl, rfl⟩

theorem unlocks_await (p : Closure → Bool) (s : Payment) (c : Closure) {q : PaymentRequest}
    (h : q.isUnlock = false) : (s.await c q).unlocks p = 0 := by
  unfold Payment.await Reaction.unlocks
  rw [Option.any_some, h, Bool.and_false]
  rfl

theorem opening_await {s : Payment} (c : Closure) {q : PaymentRequest} (hnil : s.pending = [])
    (hfrom : q.fromUnlock = true) (hstopped : s.pollRef = none) (hurl : Js.truthy s.payUrl = true)
    (hloading : s.loading = .opening) : Opening (s.await c q).next := by
  refine ⟨⟨(c, q), ?_, hfrom⟩, hstopped, hurl, hloading⟩
  unfold Payment.await
  rw [hnil]
  rfl

/-- **One undisturbed event of the online flow**, before the unlock: it requests the unlock or leaves
everything before it. -/
theorem Waiting.step {s s' : Payment} {e : PaymentEvent} (h : Waiting s) (hon : online e = true)
    (hund : undisturbed s e = true) (hs : s.step e = some s') (p : Closure → Bool) :
    Waiting s' ∧ unlocks p s e = 0 ∨ Opening s' := by
  obtain ⟨r, hr, rfl⟩ := react_of_step hs
  rw [unlocks_of_react p hr]
  cases e with
  | press b c =>
    obtain ⟨hoffers, rfl⟩ := react_press hr
    cases b with
    | pay m =>
      have hnotlinked : ¬ Js.truthy s.payUrl = true := by
        simp only [Payment.offers, Bool.and_eq_true, Bool.not_eq_true'] at hoffers
        rw [hoffers.1.2]
        exact Bool.false_ne_true
      have hcleared : Waiting { s with loading := .pay m, payUrl := Js.empty } :=
        h.shrink (List.Subset.refl _) id fun hlinked => absurd hlinked hnotlinked
      exact .inl ⟨hcleared.await c rfl Bool.noConfusion, unlocks_await p _ c rfl⟩
    | skip => cases hon
    | openBox =>
      have hurl : Js.truthy s.payUrl = true := by
        simp only [Payment.offers, Bool.and_eq_true] at hoffers
        exact hoffers.1.2
      have hnil : s.pending = [] := List.isEmpty_iff.mp hund
      exact .inr (opening_await c hnil rfl rfl hurl rfl)
  | leave =>
    obtain ⟨-, rfl⟩ := react_leave hr
    exact .inl ⟨h.shrink (List.Subset.refl _) (fun hsome => by cases hsome) id, rfl⟩
  | tick =>
    obtain ⟨c, hc, rfl⟩ := react_tick hr
    have hurl : Js.truthy s.payUrl = true := h.linked (.inl (by rw [hc]; rfl))
    exact .inl ⟨h.await c rfl fun _ => hurl, unlocks_await p s c rfl⟩
  | reply i a =>
    obtain ⟨⟨c, q⟩, hq, rfl⟩ := react_reply hr
    have hbefore := h.before _ (List.mem_of_getElem? hq)
    have hrest : s.pending.eraseIdx i ⊆ s.pending := fun _ hm => List.mem_of_mem_eraseIdx hm
    cases q with
    | createPayment _ _ _ =>
      unfold Payment.resume
      dsimp only
      split
      · rename_i hlink
        rw [Bool.and_eq_true] at hlink
        exact .inl ⟨⟨fun q hq => h.before q (hrest hq), fun _ => hlink.2⟩, rfl⟩
      · exact .inl ⟨h.shrink hrest id id, rfl⟩
    | getOrderStatus _ _ =>
      have hurl : Js.truthy s.payUrl = true := h.linked (.inr ⟨_, List.mem_of_getElem? hq, rfl⟩)
      unfold Payment.resume
      dsimp only
      split
      · rename_i hpaid
        simp only [undisturbed, hq, hpaid, Bool.not_true, Bool.false_or, beq_iff_eq] at hund
        exact .inr (opening_await c (eraseIdx_of_alone hund hq).2 rfl rfl hurl rfl)
      · exact .inl ⟨h.shrink hrest id id, rfl⟩
    | mockPaymentCheckout _ _ => cases hbefore
    | unlockBox _ _ _ _ => cases hbefore
    | confirmOrder _ _ => cases hbefore

/-- **One undisturbed event**, after the unlock: nothing more is requested than the confirmation. -/
theorem Opening.step {s s' : Payment} {e : PaymentEvent} (h : Opening s)
    (hund : undisturbed s e = true) (hs : s.step e = some s') (p : Closure → Bool) :
    unlocks p s e = 0 ∧ (Opening s' ∨ Over s') := by
  obtain ⟨r, hr, rfl⟩ := react_of_step hs
  obtain ⟨x, hx, hfrom⟩ := h.alone
  rw [unlocks_of_react p hr]
  cases e with
  | press b c =>
    obtain ⟨hoffers, -⟩ := react_press hr
    cases b <;> simp [Payment.offers, h.linked, h.loading] at hoffers
  | leave =>
    obtain ⟨-, rfl⟩ := react_leave hr
    exact ⟨rfl, .inl ⟨⟨x, hx, hfrom⟩, rfl, h.linked, h.loading⟩⟩
  | tick =>
    obtain ⟨c, hc, -⟩ := react_tick hr
    rw [h.stopped] at hc
    cases hc
  | reply i a =>
    obtain ⟨⟨c, q⟩, hq, rfl⟩ := react_reply hr
    obtain ⟨rfl, hnil⟩ := eraseIdx_of_alone (by rw [hx]; rfl) hq
    rw [hx] at hq
    cases hq
    simp only [undisturbed, hx, List.getElem?_cons_zero] at hund
    cases q with
    | unlockBox _ _ _ _ =>
      unfold Payment.resume
      dsimp only at hund ⊢
      rw [if_pos hund]
      exact ⟨unlocks_await p _ c rfl, .inl (opening_await c hnil rfl h.stopped h.linked h.loading)⟩
    | confirmOrder _ _ =>
      unfold Payment.resume
      dsimp only at hund ⊢
      rw [if_pos hund]
      refine ⟨rfl, .inr ⟨(settle_pending _).trans hnil, ?_, ?_⟩⟩
      · unfold Reaction.settle
        split
        · rfl
        · exact h.stopped
      · unfold Reaction.settle
        split
        · rfl
        · rename_i hgone
          exact Bool.eq_false_iff.mpr hgone
    | createPayment _ _ _ => cases hfrom
    | getOrderStatus _ _ => cases hfrom
    | mockPaymentCheckout _ _ => cases hfrom

/-- The phases of the online flow. -/
def Phase (s : Payment) : Prop := Waiting s ∨ Opening s

theorem phase_step {s s' : Payment} {e : PaymentEvent} (h : Phase s) (hon : online e = true)
    (hund : undisturbed s e = true) (hs : s.step e = some s') (p : Closure → Bool) :
    Phase s' ∧ allowance s' + unlocks p s e ≤ allowance s := by
  rcases h with hwaiting | hopening
  · rw [hwaiting.allowance hs]
    rcases hwaiting.step hon hund hs p with ⟨hwaiting', hnone⟩ | hopening'
    · rw [hnone]
      exact ⟨.inl hwaiting', allowance_le s'⟩
    · have hone : unlocks p s e ≤ 1 := by
        unfold unlocks
        split
        · exact Bool.toNat_le _
        · exact Nat.zero_le 1
      rw [hopening'.allowance, Nat.zero_add]
      exact ⟨.inr hopening', hone⟩
  · obtain ⟨hnone, hnext⟩ := hopening.step hund hs p
    rw [hnone, hopening.allowance]
    rcases hnext with hopening' | hover
    · exact ⟨.inr hopening', hopening'.allowance.le⟩
    · exact ⟨.inl hover.waiting, hover.allowance.le⟩

/-! ## Runs -/

/-- **Each unlock has a cause of its own**, in every run: a status reply that reports the order paid, a
press of "Đã thanh toán — Mở tủ", or a press of the cash button.  **The online flow requests one unlock
at most** in a run that is undisturbed. -/
theorem paid_unlock (es : List PaymentEvent) (s : Payment)
    (hrun : run Payment.step .mount es = some s) :
    (∀ p, unlockCount p es ≤
        paidCount p es + es.countP (presses p .openBox) + es.countP (presses p .skip)) ∧
      ((∀ e ∈ es, online e = true) →
        Along Payment.step (fun s e => undisturbed s e = true) .mount es →
          unlockCount (fun _ => true) es ≤ 1) := by
  constructor
  · intro p
    have hbudget := run_budget (I := fun _ => True) (C := fun _ _ => True) (Φ := checkouts p)
      (f := unlocks p)
      (g := fun s e => (paidReply p s e).toNat +
        ((presses p .openBox e).toNat + (presses p .skip e).toNat))
      (fun _ _ _ _ _ _ => trivial) (fun _ _ _ _ _ hs => unlocks_step p hs) es .mount s trivial
      (along_of_forall (fun _ _ => trivial) es Payment.mount) hrun
    rw [cost_add, cost_add, cost_countP _ es _ s hrun, cost_countP _ es _ s hrun] at hbudget
    have hnone : checkouts p .mount = 0 := rfl
    unfold unlockCount paidCount
    omega
  · intro honline hundisturbed
    have hmount : Phase .mount := .inl ⟨fun q hq => absurd hq List.not_mem_nil, by
      rintro (hsome | ⟨q, hq, -⟩)
      · cases hsome
      · exact absurd hq List.not_mem_nil⟩
    have hbudget := run_budget (I := Phase) (Φ := allowance) (f := unlocks fun _ => true)
      (g := fun _ _ => false.toNat)
      (fun _ _ _ hphase hc hs => (phase_step hphase hc.1 hc.2 hs fun _ => true).1)
      (fun _ _ _ hphase hc hs => (phase_step hphase hc.1 hc.2 hs fun _ => true).2)
      es .mount s hmount (hundisturbed.and_mem honline) hrun
    rw [cost_countP (fun _ => false) es _ s hrun, List.countP_false, Function.const_apply,
      Nat.add_zero] at hbudget
    exact (Nat.le_add_left _ _).trans (hbudget.trans (allowance_le _))

/-! ## One order -/

/-- The payment screen of order 7. -/
def order7 : Closure where
  visit := 0
  props :=
    { jwt := .lit "token", orderId := .int 7, orderPin := .lit "482913", orderCode := .lit "ORD-7",
      totalPrice := .int 5000, selectedBox := .obj [(py "boxId", .int 3)], activeLockerId := .int 1 }

/-- A payment link, two polls, of which the second finds the order paid, the unlock and the
confirmation. -/
def paidByPhone : List PaymentEvent :=
  [.press (.pay .MOMO) order7, .reply 0 (.succeeded [(py "paymentUrl", .lit "https://pay")]), .tick,
    .reply 0 (.succeeded [(py "isPaid", .bool false)]), .tick,
    .reply 0 (.succeeded [(py "isPaid", .bool true)]),
    .reply 0 (.succeeded [(py "accepted", .bool true)]), .reply 0 (.succeeded [(py "status", .null)])]

theorem paid_unlock_by_phone :
    unlockCount (fun _ => true) paidByPhone = 1 ∧
      unlockCount (fun _ => true) paidByPhone ≤ paidCount (fun _ => true) paidByPhone +
        paidByPhone.countP (presses (fun _ => true) .openBox) +
          paidByPhone.countP (presses (fun _ => true) .skip) ∧
      unlockCount (fun _ => true) paidByPhone ≤ 1 :=
  have h := paid_unlock paidByPhone _ rfl
  ⟨by decide, h.1 _, h.2 (by decide) (by decide)⟩

/-- The order is not paid when the button is pressed. -/
def openedUnpaid : List PaymentEvent :=
  [.press (.pay .MOMO) order7, .reply 0 (.succeeded [(py "paymentUrl", .lit "https://pay")]),
    .press .openBox order7]

/-- Two polls wait for their replies at once; the first reply starts the unlock, and so does the
second. -/
def overlappingPolls : List PaymentEvent :=
  [.press (.pay .MOMO) order7, .reply 0 (.succeeded [(py "paymentUrl", .lit "https://pay")]),
    .tick, .tick, .reply 0 (.succeeded [(py "isPaid", .bool true)]),
    .reply 0 (.succeeded [(py "isPaid", .bool true)])]

theorem unlock_without_payment :
    ((run Payment.step .mount openedUnpaid).isSome = true ∧
      (∀ e ∈ openedUnpaid, online e = true) ∧
      unlockCount (fun _ => true) openedUnpaid = 1 ∧ paidCount (fun _ => true) openedUnpaid = 0) ∧
    ((run Payment.step .mount overlappingPolls).isSome = true ∧
      (∀ e ∈ overlappingPolls, online e = true) ∧
      unlockCount (fun _ => true) overlappingPolls = 2) := by
  decide

end SmartLocker.Kiosk
