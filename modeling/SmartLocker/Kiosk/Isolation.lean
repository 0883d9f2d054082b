import SmartLocker.Kiosk.Screens

/-!
# Sessions of the kiosk

`goHome` ends a visit.  What a later visit finds in the session, and the screens of a session that it is
shown, come from its own actions exactly as long as no reply is late: one to a request of an earlier
visit that its handler still puts into the session.
-/

set_option autoImplicit false

namespace SmartLocker.Kiosk

open Lib Lib.Machine Lib.Python

/-! ## Isolation -/

/-- The screens that show a session. -/
def Screen.ofSession : Screen → Bool
  | .boxes => true
  | .register => true
  | .payment => true
  | .success => true
  | _ => false

/-- Empty, or caused in visit `v`. -/
def Stamped.Own (x : Stamped Json) (v : Nat) : Prop := Js.isEmpty x.value = true ∨ x.visit = v

/-- The session and its screens are the current visit's own. -/
structure Isolated (k : KioskScreen) : Prop where
  jwt : k.jwt.Own k.visit
  tempToken : k.tempToken.Own k.visit
  userName : k.userName.Own k.visit
  screen : k.screen.value.ofSession = true → k.screen.visit = k.visit

/-! ## Late replies -/

namespace KioskScreen

/-- What `verified` does with the data is seen in the session. -/
def admits (k : KioskScreen) (data : Json) (account : PyStr) : Bool :=
  if Js.truthy (Js.field data "newUser") || Js.truthy (Js.field data "isNewUser") then
    !Js.isEmpty (Js.field data "tempToken") || k.screen.value != .register
  else
    !Js.isEmpty (Js.field data "accessToken") ||
      !Js.isEmpty (Js.or (Js.field (Js.field data "userInfo") "fullName") (.str account)) ||
        k.screen.value != .boxes

/-- What the handler does with the reply is seen in the session. -/
def writes (k : KioskScreen) (q : KioskRequest) (r : Reply) : Bool :=
  match q with
  | .phoneLogin _ phone => accepts r && k.admits r.data phone
  | .verifyOtp email _ => accepts r && k.admits r.data email
  | .kioskQuickRegister _ => accepts r
  | .createRentalOrder _ _ _ _ => accepts r && k.screen.value != .payment
  | _ => false

/-- A call of `showSuccess` for visit `v` is late, and moves the screen. -/
def lateSuccess (k : KioskScreen) (v : Nat) : Bool := v != k.visit && k.screen.value != .success

/-- The event brings something from an earlier visit into the session. -/
def late (k : KioskScreen) : KioskEvent → Bool
  | .timeout i =>
    match k.timeouts[i]? with
    | some v => k.lateSuccess v
    | none => false
  | .reply i r =>
    match k.pending[i]? with
    | some (v, q) => v != k.visit && k.writes q r
    | none => false
  | .paymentReply j i r =>
    match k.payments[j]?.bind fun s => s.confirmed (.reply i r) with
    | some c => k.lateSuccess c.visit
    | none => false
  | _ => false

/-! ## What the session sees -/

/-- The session of `k'` is that of `k`. -/
structure SameSession (k k' : KioskScreen) : Prop where
  visit : k'.visit = k.visit
  screen : k'.screen = k.screen
  jwt : k'.jwt = k.jwt
  tempToken : k'.tempToken = k.tempToken
  userName : k'.userName = k.userName

theorem SameSession.isolated {k k' : KioskScreen} (h : SameSession k k') : Isolated k' ↔ Isolated k := by
  constructor
  · rintro ⟨hjwt, htemp, hname, hscreen⟩
    rw [h.jwt, h.visit] at hjwt
    rw [h.tempToken, h.visit] at htemp
    rw [h.userName, h.visit] at hname
    rw [h.screen, h.visit] at hscreen
    exact ⟨hjwt, htemp, hname, hscreen⟩
  · rintro ⟨hjwt, htemp, hname, hscreen⟩
    rw [← h.jwt, ← h.visit] at hjwt
    rw [← h.tempToken, ← h.visit] at htemp
    rw [← h.userName, ← h.visit] at hname
    rw [← h.screen, ← h.visit] at hscreen
    exact ⟨hjwt, htemp, hname, hscreen⟩

theorem isolated_of_same {k k' : KioskScreen} (hk : Isolated k) (h : SameSession k k') : Isolated k' :=
  h.isolated.mpr hk

theorem leave_session (k : KioskScreen) : SameSession k k.leave := by
  unfold leave
  split
  · exact ⟨rfl, rfl, rfl, rfl, rfl⟩
  · exact ⟨rfl, rfl, rfl, rfl, rfl⟩

theorem mounted_session (k : KioskScreen) (v : Nat) (s : Screen) : SameSession k (k.mounted v s) := by
  cases s <;> exact ⟨rfl, rfl, rfl, rfl, rfl⟩

/-- A change of screen leaves the rest of the session. -/
theorem setScreen_session (k : KioskScreen) (s : Screen) (v : Nat) :
    SameSession { k with screen := if k.screen.value = s then k.screen else ⟨s, v⟩ }
      (k.setScreen s v) := by
  unfold setScreen
  by_cases hs : k.screen.value = s
  · rw [if_pos hs, if_pos hs]
    exact ⟨rfl, rfl, rfl, rfl, rfl⟩
  · rw [if_neg hs, if_neg hs]
    have hleave := k.leave_session
    have hmounted := mounted_session { k.leave with screen := ⟨s, v⟩ } v s
    exact ⟨hmounted.visit.trans hleave.visit, hmounted.screen, hmounted.jwt.trans hleave.jwt,
      hmounted.tempToken.trans hleave.tempToken, hmounted.userName.trans hleave.userName⟩

/-- **A move** to a screen: the session stays isolated if it was, unless an earlier visit moves it to a
screen of a session. -/
theorem isolated_setScreen {k : KioskScreen} {s : Screen} {v : Nat}
    (hscreen : k.screen.value.ofSession = true → k.screen.visit = k.visit) :
    Isolated (k.setScreen s v) ↔ k.jwt.Own k.visit ∧ k.tempToken.Own k.visit ∧
      k.userName.Own k.visit ∧ (s.ofSession = true → v = k.visit ∨ k.screen.value = s) := by
  rw [(setScreen_session k s v).isolated]
  by_cases hs : k.screen.value = s
  · rw [if_pos hs]
    constructor
    · rintro ⟨hjwt, htemp, hname, -⟩
      exact ⟨hjwt, htemp, hname, fun _ => .inr hs⟩
    · rintro ⟨hjwt, htemp, hname, -⟩
      exact ⟨hjwt, htemp, hname, hscreen⟩
  · rw [if_neg hs]
    constructor
    · rintro ⟨hjwt, htemp, hname, hmoved⟩
      exact ⟨hjwt, htemp, hname, fun hof => .inl (hmoved hof)⟩
    · rintro ⟨hjwt, htemp, hname, hmoved⟩
      exact ⟨hjwt, htemp, hname, fun hof => (hmoved hof).resolve_right hs⟩

theorem isolated_go {k : KioskScreen} {s : Screen} {v : Nat}
    (hscreen : k.screen.value.ofSession = true → k.screen.visit = k.visit) :
    Isolated (k.go s v) ↔ k.jwt.Own k.visit ∧ k.tempToken.Own k.visit ∧ k.userName.Own k.visit ∧
      (s.ofSession = true → v = k.visit ∨ k.screen.value = s) :=
  isolated_setScreen (k := { k with history := k.history ++ [s] }) hscreen

/-- A move that only changes the screen. -/
theorem isolated_go_iff {k : KioskScreen} (hk : Isolated k) {s : Screen} {v : Nat} :
    Isolated (k.go s v) ↔ (s.ofSession = true → v = k.visit ∨ k.screen.value = s) := by
  rw [isolated_go hk.screen]
  constructor
  · rintro ⟨-, -, -, h⟩
    exact h
  · intro h
    exact ⟨hk.jwt, hk.tempToken, hk.userName, h⟩

/-- The current visit may go anywhere. -/
theorem isolated_go_own {k : KioskScreen} (hk : Isolated k) (s : Screen) : Isolated (k.go s k.visit) :=
  (isolated_go_iff hk).mpr fun _ => .inl rfl

theorem isolated_back {k : KioskScreen} (hk : Isolated k) : Isolated k.back := by
  unfold back
  split
  · exact hk
  · exact (isolated_setScreen (k := { k with history := k.history.dropLast }) hk.screen).mpr
      ⟨hk.jwt, hk.tempToken, hk.userName, fun _ => .inl rfl⟩

/-- **`goHome`** isolates whatever the session was. -/
theorem isolated_goHome (k : KioskScreen) : Isolated k.goHome := by
  unfold goHome
  rw [(setScreen_session _ _ _).isolated]
  refine ⟨.inl rfl, .inl rfl, .inl rfl, fun hof => ?_⟩
  dsimp only at hof
  split at hof
  · rename_i hhome
    rw [hhome] at hof
    cases hof
  · cases hof

/-- Nothing of an earlier visit, or nothing that is seen. -/
theorem not_late_iff (v w : Nat) (b : Bool) : (v != w && b) = false ↔ v = w ∨ b = false := by
  by_cases h : v = w
  · simp [h]
  · simp [h]

theorem isolated_showSuccess {k : KioskScreen} (hk : Isolated k) (v : Nat) :
    Isolated (k.showSuccess v) ↔ k.lateSuccess v = false := by
  have hsame : SameSession (k.go .success v) (k.showSuccess v) := ⟨rfl, rfl, rfl, rfl, rfl⟩
  rw [hsame.isolated, isolated_go_iff hk]
  unfold lateSuccess
  rw [not_late_iff, bne_eq_false_iff_eq]
  exact ⟨fun h => h rfl, fun h _ => h⟩

theorem isolated_verified {k : KioskScreen} (hk : Isolated k) (v : Nat) (data : Json) (account : PyStr) :
    Isolated (k.verified v data account) ↔ (v != k.visit && k.admits data account) = false := by
  rw [not_late_iff]
  unfold verified admits
  split
  · rw [isolated_go (k := { k with tempToken := ⟨Js.field data "tempToken", v⟩ }) hk.screen,
      Bool.or_eq_false_iff, Bool.not_eq_false', bne_eq_false_iff_eq]
    constructor
    · rintro ⟨-, htemp, -, hmoved⟩
      by_cases hv : v = k.visit
      · exact .inl hv
      · exact .inr ⟨htemp.resolve_right hv, (hmoved rfl).resolve_left hv⟩
    · rintro (rfl | ⟨hempty, hregister⟩)
      · exact ⟨hk.jwt, .inr rfl, hk.userName, fun _ => .inl rfl⟩
      · exact ⟨hk.jwt, .inl hempty, hk.userName, fun _ => .inr hregister⟩
  · rw [isolated_go (k := { k with
        jwt := ⟨Js.field data "accessToken", v⟩
        userName := ⟨Js.or (Js.field (Js.field data "userInfo") "fullName") (.str account), v⟩ })
        hk.screen,
      Bool.or_eq_false_iff, Bool.or_eq_false_iff, Bool.not_eq_false', Bool.not_eq_false',
      bne_eq_false_iff_eq]
    constructor
    · rintro ⟨hjwt, -, hname, hmoved⟩
      by_cases hv : v = k.visit
      · exact .inl hv
      · exact .inr ⟨⟨hjwt.resolve_right hv, hname.resolve_right hv⟩, (hmoved rfl).resolve_left hv⟩
    · rintro (rfl | ⟨⟨hempty, hnameless⟩, hboxes⟩)
      · exact ⟨.inr rfl, hk.tempToken, .inr rfl, fun _ => .inl rfl⟩
      · exact ⟨.inl hempty, hk.tempToken, .inl hnameless, fun _ => .inr hboxes⟩

theorem isolated_registered {k : KioskScreen} (hk : Isolated k) (v : Nat) (data : Json) :
    Isolated (k.registered v data) ↔ v = k.visit := by
  unfold registered
  rw [isolated_go (k := { k with
      jwt := ⟨Js.field data "accessToken", v⟩, userName := ⟨.lit "Khách", v⟩ }) hk.screen]
  constructor
  · rintro ⟨-, -, hname, -⟩
    have hnamed : ¬ Js.isEmpty (.lit "Khách") = true := by decide
    exact hname.resolve_left hnamed
  · rintro rfl
    exact ⟨.inr rfl, hk.tempToken, .inr rfl, fun _ => .inl rfl⟩

theorem isolated_created {k : KioskScreen} (hk : Isolated k) (v : Nat) (data total : Json) :
    Isolated (k.created v data total) ↔ v = k.visit ∨ k.screen.value = .payment := by
  unfold created
  refine Iff.trans (isolated_go ?_) ?_
  · exact hk.screen
  constructor
  · rintro ⟨-, -, -, hmoved⟩
    exact hmoved rfl
  · intro h
    exact ⟨hk.jwt, hk.tempToken, hk.userName, fun _ => h⟩

/-- A handler that puts something into the session if it accepts the reply. -/
theorem isolated_if_accepted {k k₁ : KioskScreen} (hk : Isolated k) {v : Nat} {r : Reply} {b : Bool}
    (h : Isolated k₁ ↔ (v != k.visit && b) = false) :
    Isolated (if accepts r then k₁ else k) ↔ (v != k.visit && (accepts r && b)) = false := by
  cases accepts r with
  | true =>
    rw [if_pos rfl, Bool.true_and]
    exact h
  | false =>
    rw [if_neg Bool.false_ne_true, Bool.false_and, Bool.and_false]
    exact iff_of_true hk rfl

/-- **A reply** keeps the session isolated just if it is not late. -/
theorem isolated_resume {k : KioskScreen} (hk : Isolated k) (v : Nat) (q : KioskRequest) (r : Reply) :
    Isolated (k.resume v q r) ↔ (v != k.visit && k.writes q r) = false := by
  have hawait : ∀ q', Isolated (k.await v q') := fun q' => isolated_of_same hk ⟨rfl, rfl, rfl, rfl, rfl⟩
  cases q with
  | sendOtp email =>
    refine iff_of_true ?_ (Bool.and_false _)
    unfold resume
    dsimp only
    split
    · exact (isolated_go_iff hk).mpr fun hof => by cases hof
    · exact hk
  | sendPhoneOtp formatted =>
    refine iff_of_true ?_ (Bool.and_false _)
    cases r with
    | answered res =>
      exact (isolated_go (k := { k with confirmationResult := true }) hk.screen).mpr
        ⟨hk.jwt, hk.tempToken, hk.userName, fun hof => by cases hof⟩
    | failed => exact hk
  | confirm otp phone =>
    refine iff_of_true ?_ (Bool.and_false _)
    cases r with
    | answered res => exact hawait _
    | failed => exact hk
  | getIdToken phone =>
    refine iff_of_true ?_ (Bool.and_false _)
    cases r with
    | answered res => exact hawait _
    | failed => exact hk
  | phoneLogin idToken phone => exact isolated_if_accepted hk (isolated_verified hk v r.data phone)
  | verifyOtp email otp => exact isolated_if_accepted hk (isolated_verified hk v r.data email)
  | kioskQuickRegister tempToken =>
    have hregistered : Isolated (k.registered v r.data) ↔ (v != k.visit && true) = false := by
      rw [isolated_registered hk, Bool.and_true, bne_eq_false_iff_eq]
    refine (isolated_if_accepted hk hregistered).trans ?_
    rw [Bool.and_true]
    rfl
  | createRentalOrder jwt payload form total =>
    have hcreated : Isolated (k.created v r.data total) ↔
        (v != k.visit && k.screen.value != .payment) = false := by
      rw [isolated_created hk, not_late_iff, bne_eq_false_iff_eq]
    refine Iff.trans (SameSession.isolated (k := if accepts r then k.created v r.data total else k)
      ⟨rfl, rfl, rfl, rfl, rfl⟩) ?_
    exact isolated_if_accepted hk hcreated
  | unlockWithCode lockerId code =>
    refine iff_of_true ?_ (Bool.and_false _)
    unfold resume
    dsimp only
    split
    · exact isolated_of_same hk ⟨rfl, rfl, rfl, rfl, rfl⟩
    · exact hk

/-- **An event of a payment screen** keeps the session isolated unless it shows the success screen for
an earlier visit. -/
theorem isolated_payment {k k' : KioskScreen} (hk : Isolated k) {j : Nat} {e : PaymentEvent}
    (h : k.payment j e = some k') :
    Isolated k' ↔ ∀ c, (k.payments[j]?.bind fun s => s.confirmed e) = some c →
      k.lateSuccess c.visit = false := by
  obtain ⟨r, hr, rfl⟩ := Option.map_eq_some_iff.mp h
  obtain ⟨s, hs, hreact⟩ := Option.bind_eq_some_iff.mp hr
  have hk₁ : Isolated { k with payments := k.payments.set j r.next } :=
    isolated_of_same hk ⟨rfl, rfl, rfl, rfl, rfl⟩
  rw [hs, Option.bind_some, ← react_success hreact]
  cases hc : r.success with
  | none =>
    refine iff_of_true hk₁ fun c hc' => ?_
    cases hc'
  | some c =>
    refine (isolated_showSuccess hk₁ c.visit).trans ?_
    constructor
    · rintro hlate _ ⟨⟩
      exact hlate
    · exact fun hlate => hlate c rfl

/-! ## Handlers that send a request

They do not touch the session. -/

theorem handleSendEmail_session (k : KioskScreen) : SameSession k k.handleSendEmail := by
  unfold handleSendEmail
  split <;> exact ⟨rfl, rfl, rfl, rfl, rfl⟩

theorem handleSendPhone_session (k : KioskScreen) : SameSession k k.handleSendPhone := by
  unfold handleSendPhone
  split <;> exact ⟨rfl, rfl, rfl, rfl, rfl⟩

theorem handleVerifyEmail_session (k : KioskScreen) (otp : PyStr) :
    SameSession k (k.handleVerifyEmail otp) := by
  unfold handleVerifyEmail
  split <;> exact ⟨rfl, rfl, rfl, rfl, rfl⟩

theorem handleVerifyPhone_session (k : KioskScreen) (otp : PyStr) :
    SameSession k (k.handleVerifyPhone otp) := by
  unfold handleVerifyPhone
  split
  · exact ⟨rfl, rfl, rfl, rfl, rfl⟩
  · split <;> exact ⟨rfl, rfl, rfl, rfl, rfl⟩

theorem handleCreate_session (k : KioskScreen) (hours : Nat) (note promotionCode : PyStr) (total : Json) :
    SameSession k (k.handleCreate hours note promotionCode total) := by
  unfold handleCreate
  split <;> exact ⟨rfl, rfl, rfl, rfl, rfl⟩

theorem submitCode_session (k : KioskScreen) (code : PyStr) : SameSession k (k.submitCode code) := by
  unfold submitCode
  split <;> exact ⟨rfl, rfl, rfl, rfl, rfl⟩

/-! ## Events -/

theorem isolated_guard {c : Prop} [Decidable c] {k k' : KioskScreen} (hk : Isolated k)
    (h : (if c then some k else none) = some k') : Isolated k' := by
  cases of_guard h
  exact hk

/-- A payment screen shows nothing before its order is confirmed. -/
theorem isolated_payment_quiet {k k' : KioskScreen} (hk : Isolated k) {j : Nat} {e : PaymentEvent}
    (hquiet : ∀ s : Payment, s.confirmed e = none) (h : k.payment j e = some k') : Isolated k' := by
  refine (isolated_payment hk h).mpr fun c hc => ?_
  obtain ⟨s, -, hs⟩ := Option.bind_eq_some_iff.mp hc
  rw [hquiet s] at hs
  cases hs

/-- **One event** keeps the session isolated just if it is not late. -/
theorem isolated_step {k k' : KioskScreen} {e : KioskEvent} (hk : Isolated k)
    (hs : k.step e = some k') : Isolated k' ↔ k.late e = false := by
  cases e with
  | goLogin => exact iff_of_true (isolated_guard (isolated_go_own hk .login) hs) rfl
  | goStaff => exact iff_of_true (isolated_guard (isolated_go_own hk .staff) hs) rfl
  | setActiveLockerId id =>
    cases hs
    exact iff_of_true (isolated_of_same hk ⟨rfl, rfl, rfl, rfl, rfl⟩) rfl
  | setLoginMethod m =>
    refine iff_of_true (isolated_guard ?_ hs) rfl
    exact isolated_of_same hk ⟨rfl, rfl, rfl, rfl, rfl⟩
  | setEmail email =>
    refine iff_of_true (isolated_guard ?_ (of_guard hs)) rfl
    exact isolated_of_same hk ⟨rfl, rfl, rfl, rfl, rfl⟩
  | setPhone phone =>
    refine iff_of_true (isolated_guard ?_ (of_guard hs)) rfl
    exact isolated_of_same hk ⟨rfl, rfl, rfl, rfl, rfl⟩
  | handleSendEmail =>
    have hsent := isolated_of_same hk k.handleSendEmail_session
    exact iff_of_true (isolated_guard hsent (of_guard hs)) rfl
  | handleSendPhone =>
    have hsent := isolated_of_same hk k.handleSendPhone_session
    exact iff_of_true (isolated_guard hsent (of_guard hs)) rfl
  | handleVerifyEmail otp =>
    have hsent := isolated_of_same hk (k.handleVerifyEmail_session otp)
    exact iff_of_true (isolated_guard hsent hs) rfl
  | handleVerifyPhone otp =>
    have hsent := isolated_of_same hk (k.handleVerifyPhone_session otp)
    exact iff_of_true (isolated_guard hsent hs) rfl
  | handleBoxClick box =>
    refine iff_of_true (isolated_guard ?_ hs) rfl
    exact isolated_of_same hk ⟨rfl, rfl, rfl, rfl, rfl⟩
  | goOrderInfo =>
    exact iff_of_true (isolated_guard (isolated_go_own hk .orderInfo) (of_guard hs)) rfl
  | handleCreate hours note promotionCode total =>
    have hsent := isolated_of_same hk (k.handleCreate_session hours note promotionCode total)
    simp only [KioskScreen.step] at hs
    split at hs
    · cases hs
    · exact iff_of_true (isolated_guard hsent hs) rfl
  | press b => exact iff_of_true (isolated_payment_quiet hk (fun _ => rfl) (of_guard hs)) rfl
  | submitCode code =>
    have hsent := isolated_of_same hk (k.submitCode_session code)
    exact iff_of_true (isolated_guard hsent hs) rfl
  | back => exact iff_of_true (isolated_guard (isolated_back hk) hs) rfl
  | goHome => exact iff_of_true (isolated_guard (isolated_goHome k) hs) rfl
  | countdown =>
    obtain ⟨sec, -, rfl⟩ := Option.map_eq_some_iff.mp hs
    refine iff_of_true ?_ rfl
    unfold countdown
    split
    · exact isolated_goHome k
    · exact isolated_of_same hk ⟨rfl, rfl, rfl, rfl, rfl⟩
  | tick j => exact iff_of_true (isolated_payment_quiet hk (fun _ => rfl) hs) rfl
  | timeout i =>
    obtain ⟨v, hv, rfl⟩ := Option.map_eq_some_iff.mp hs
    have hk₁ : Isolated { k with timeouts := k.timeouts.eraseIdx i } :=
      isolated_of_same hk ⟨rfl, rfl, rfl, rfl, rfl⟩
    unfold late
    dsimp only
    rw [hv]
    exact isolated_showSuccess hk₁ v
  | reply i r =>
    obtain ⟨⟨v, q⟩, hq, rfl⟩ := Option.map_eq_some_iff.mp hs
    have hk₁ : Isolated { k with pending := k.pending.eraseIdx i } :=
      isolated_of_same hk ⟨rfl, rfl, rfl, rfl, rfl⟩
    unfold late
    dsimp only
    rw [hq]
    refine (isolated_resume hk₁ v q r).trans ?_
    cases q <;> rfl
  | paymentReply j i r =>
    refine (isolated_payment hk hs).trans ?_
    unfold late
    dsimp only
    cases hc : k.payments[j]?.bind fun s => s.confirmed (.reply i r) with
    | none => exact iff_of_true (fun c hc' => by cases hc') rfl
    | some c =>
      constructor
      · exact fun h => h c rfl
      · rintro h _ ⟨⟩
        exact h

/-- A late reply is a reply to something. -/
theorem not_late_of_stuck {k : KioskScreen} {e : KioskEvent} (h : k.step e = none) :
    k.late e = false := by
  cases e with
  | timeout i =>
    unfold late
    dsimp only
    rw [Option.map_eq_none_iff.mp h]
  | reply i r =>
    unfold late
    dsimp only
    rw [Option.map_eq_none_iff.mp h]
  | paymentReply j i r =>
    have hnone : (k.payments[j]?.bind fun s => s.confirmed (.reply i r)) = none := by
      rw [Option.bind_eq_none_iff]
      intro s hs
      have hstuck := Option.bind_eq_none_iff.mp (Option.map_eq_none_iff.mp h) s hs
      have hnothing : s.pending[i]? = none := Option.map_eq_none_iff.mp hstuck
      unfold Payment.confirmed
      dsimp only
      rw [hnothing]
    unfold late
    dsimp only
    rw [hnone]
  | _ => rfl

end KioskScreen

/-! ## Runs -/

theorem isolated_initial (activeLockerId : Json) : Isolated (.initial activeLockerId) :=
  ⟨.inl rfl, .inl rfl, .inl rfl, fun hof => by cases hof⟩

/-- **Sessions are isolated** in every state of a run just if no event of the run is late. -/
theorem session_isolation (activeLockerId : Json) (es : List KioskEvent) :
    EveryState KioskScreen.step Isolated (.initial activeLockerId) es ↔
      Along KioskScreen.step (fun k e => k.late e = false) (.initial activeLockerId) es :=
  everyState_iff_along (fun _ _ _ hk hs => KioskScreen.isolated_step hk hs)
    (fun _ _ h => KioskScreen.not_late_of_stuck h) es _
    (isolated_initial activeLockerId)

/-! ## A late login -/

/-- A code is sent to a customer's address. -/
def emailSent : List KioskEvent :=
  [.goLogin, .setLoginMethod .email, .setEmail (py "an@example.com"), .handleSendEmail,
    .reply 0 (.succeeded [])]

/-- The customer types the code and goes home before the reply has come. -/
def lateLogin : List KioskEvent :=
  emailSent ++
    [.handleVerifyEmail (py "123456"), .back, .goHome,
      .reply 0 (.succeeded [(py "accessToken", .lit "token of an")])]

theorem login_after_goHome :
    ∃ k, run KioskScreen.step (.initial (.int 1)) lateLogin = some k ∧ k.visit = 1 ∧
      k.jwt = ⟨.lit "token of an", 0⟩ ∧ k.screen = ⟨.boxes, 0⟩ ∧
      ¬ EveryState KioskScreen.step Isolated (.initial (.int 1)) lateLogin := by
  refine ⟨_, rfl, rfl, rfl, rfl, fun hall => ?_⟩
  have hlast := (everyState_iff.mp hall) lateLogin _ (List.prefix_refl _) rfl
  have hscreen : 0 = 1 := hlast.screen rfl
  cases hscreen

/-- A whole visit: login, box, order, payment by phone, success. -/
def wholeVisit : List KioskEvent :=
  emailSent ++
    [.handleVerifyEmail (py "123456"), .reply 0 (.succeeded [(py "accessToken", .lit "token of an")]),
      .handleBoxClick [(py "boxId", .int 3)], .goOrderInfo, .handleCreate 1 [] [] (.int 5000),
      .reply 0 (.succeeded [(py "id", .int 7), (py "pinCode", .lit "482913")]), .press (.pay .MOMO),
      .paymentReply 0 0 (.succeeded [(py "paymentUrl", .lit "https://pay")]), .tick 0,
      .paymentReply 0 0 (.succeeded [(py "isPaid", .bool true)]),
      .paymentReply 0 0 (.succeeded [(py "accepted", .bool true)]), .paymentReply 0 0 (.succeeded [])]

example : (run KioskScreen.step (.initial (.int 1)) wholeVisit).map (fun k => k.screen.value) =
    some .success := by
  decide +kernel

end SmartLocker.Kiosk
