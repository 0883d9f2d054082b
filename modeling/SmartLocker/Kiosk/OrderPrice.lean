import Mathlib.Algebra.Order.Group.MinMax
import Mathlib.Algebra.Order.Ring.Rat
import Mathlib.Tactic.NormNum
import SmartLocker.Lib.Js
import SmartLocker.Lib.Machine
import SmartLocker.Lib.Share

/-!
# The price on the order screen

Model of the hours, the promotion code and the total of `OrderInfoScreen`.  What the screen shows is

* `subtotal`, from the hours as they are now, and
* `total`, which takes `promoDiscount` off: an amount that `handleApplyPromo` has computed once, from
  the subtotal of the render in which its button was pressed.

`price_consistent_iff` says in which runs the two agree in every state.  Amounts are exact.  What a
handler sets is rendered before the next event; the note and the order that is sent in the end are left
out.
-/

set_option autoImplicit false

namespace SmartLocker.Kiosk

open Lib Lib.Python Lib.Machine

/-! ## Promotions -/

inductive DiscountType where
  | percentage
  | fixedAmount
  | other
  deriving DecidableEq, Repr

/-- What the handler reads of a promotion; a field that is `null` or missing is `none`. -/
structure Promotion where
  discountType : DiscountType
  discountValue : ℚ
  maxDiscountAmount : Option ℚ
  minOrderAmount : Option ℚ
  value_nonneg : 0 ≤ discountValue

namespace Promotion

/-- `promo.minOrderAmount && subtotal < promo.minOrderAmount`. -/
def refuses (promo : Promotion) (subtotal : ℚ) : Bool :=
  match promo.minOrderAmount with
  | some m => m != 0 && decide (subtotal < m)
  | none => false

/-- The discount that `handleApplyPromo` computes. -/
def discount (promo : Promotion) (subtotal : ℚ) : ℚ :=
  let discount :=
    match promo.discountType with
    | .percentage =>
      let discount := subtotal * promo.discountValue / 100
      match promo.maxDiscountAmount with
      | some m => if m ≠ 0 then min discount m else discount
      | none => discount
    | .fixedAmount => promo.discountValue
    | .other => 0
  min discount subtotal

end Promotion

/-- What awaiting `validatePromotionCode` gives. -/
inductive PromotionReply where
  | promotion (promo : Promotion)
  /-- without `success` or without `data`; the message is `''` when there is none -/
  | refused (message : PyStr)
  /-- an exception -/
  | failed

/-! ## The screen -/

/-- What the handlers take from the Unicode database and from `Intl.NumberFormat('vi-VN')`. -/
structure Locale where
  toUpperCase : PyStr → PyStr
  format : ℚ → PyStr

def HOURLY_RATE : ℚ := 5000

def hoursOptions : List ℕ := [1, 2, 3, 4, 6, 8, 12, 24]

abbrev Hours := { h : ℕ // h ∈ hoursOptions }

/-- A `handleApplyPromo` that awaits the reply: the code it has sent, and the subtotal of its render. -/
structure ApplyPromo where
  code : PyStr
  subtotal : ℚ

structure OrderInfo where
  hours : Hours
  promoCode : PyStr
  promoApplied : Bool
  promoDiscount : ℚ
  promoLoading : Bool
  promoError : PyStr
  promoDetail : Option Promotion
  pending : List ApplyPromo

inductive OrderEvent where
  | setHours (h : Hours)
  /-- the input of the code -/
  | edit (text : PyStr)
  | handleApplyPromo
  /-- the reply to pending request `i` -/
  | reply (i : ℕ) (r : PromotionReply)
  /-- the button that takes the place of "Áp dụng" -/
  | remove

namespace OrderInfo

/-- The screen as it is first rendered. -/
def opened : OrderInfo := ⟨⟨1, by decide⟩, [], false, 0, false, [], none, []⟩

def subtotal (s : OrderInfo) : ℚ := s.hours.val * HOURLY_RATE

def total (s : OrderInfo) : ℚ := max 0 (s.subtotal - s.promoDiscount)

/-- The handler up to its `await`. -/
def handleApplyPromo (lang : Locale) (s : OrderInfo) : OrderInfo :=
  let code := Js.trim s.promoCode
  if code.isEmpty then s
  else
    { s with
      promoLoading := true, promoError := [], promoApplied := false, promoDiscount := 0
      promoDetail := none, pending := s.pending ++ [⟨lang.toUpperCase code, s.subtotal⟩] }

/-- The handler `c` after its `await`. -/
def resume (lang : Locale) (s : OrderInfo) (c : ApplyPromo) (r : PromotionReply) : OrderInfo :=
  let s :=
    match r with
    | .promotion promo =>
      if promo.refuses c.subtotal then
        { s with
          promoError := py "Đơn hàng tối thiểu " ++ lang.format (promo.minOrderAmount.getD 0) ++
            py "đ để áp dụng mã này" }
      else
        { s with
          promoDetail := some promo, promoDiscount := promo.discount c.subtotal, promoApplied := true }
    | .refused message =>
      { s with promoError := if message.isEmpty then py "Mã không hợp lệ" else message }
    | .failed => { s with promoError := py "Lỗi kiểm tra mã, vui lòng thử lại" }
  { s with promoLoading := false }

/-- `onChange` of the input. -/
def edit (lang : Locale) (s : OrderInfo) (text : PyStr) : OrderInfo :=
  let s' := { s with promoCode := lang.toUpperCase text }
  if s.promoApplied || !s.promoError.isEmpty then
    { s' with promoApplied := false, promoError := [], promoDiscount := 0, promoDetail := none }
  else s'

/-- One event, `none` when it cannot occur: its button or input is not shown or is disabled, or nothing
awaits that reply. -/
def step (lang : Locale) (s : OrderInfo) : OrderEvent → Option OrderInfo
  | .setHours h => some { s with hours := h }
  | .edit text => if s.promoApplied || s.promoLoading then none else some (s.edit lang text)
  | .handleApplyPromo =>
    if s.promoApplied || (Js.trim s.promoCode).isEmpty || s.promoLoading then none
    else some (s.handleApplyPromo lang)
  | .reply i r =>
    s.pending[i]?.map fun c => { s with pending := s.pending.eraseIdx i }.resume lang c r
  | .remove =>
    if s.promoApplied then some { s with promoCode := [], promoApplied := false, promoDiscount := 0 }
    else none

end OrderInfo

/-! ## What the price should be -/

namespace Promotion

/-- What the promotion takes off a subtotal before it is capped. -/
def amount (promo : Promotion) (subtotal : ℚ) : ℚ :=
  match promo.discountType with
  | .percentage => subtotal * promo.discountValue / 100
  | .fixedAmount => promo.discountValue
  | .other => 0

/-- The discount for a subtotal: capped by the maximum of the promotion and by the subtotal. -/
def worth (promo : Promotion) (subtotal : ℚ) : ℚ :=
  min (promo.maxDiscountAmount.elim (promo.amount subtotal) fun m => min (promo.amount subtotal) m)
    subtotal

/-- The subtotal is not below the minimum of the promotion. -/
def Reached (promo : Promotion) (subtotal : ℚ) : Prop := ∀ m ∈ promo.minOrderAmount, m ≤ subtotal

end Promotion

/-- **The price that is displayed is consistent.** -/
structure OrderInfo.Consistent (s : OrderInfo) : Prop where
  nonneg : 0 ≤ s.total
  total_le : s.total ≤ s.subtotal
  plain : s.promoApplied = false → s.total = s.subtotal
  applied : s.promoApplied = true → ∃ promo, s.promoDetail = some promo ∧
    s.total = s.subtotal - promo.worth s.subtotal ∧ promo.Reached s.subtotal

/-! ## When a discount is right -/

namespace Promotion

/-- The discount computed for the subtotal `earlier` is the one for the subtotal `now`.

A percentage: it is 0; or the maximum is not 0, and the subtotals are the same, or it takes all of them
and `now` is the smaller one, or the maximum is reached for both.  A fixed amount: it, or all of `now`
if that is less, is within `earlier` and within the maximum, unless these two are one. -/
def Settles (promo : Promotion) (earlier now : ℚ) : Prop :=
  match promo.discountType with
  | .percentage =>
    promo.discountValue = 0 ∨
      promo.maxDiscountAmount ≠ some 0 ∧
        (now = earlier ∨ (100 ≤ promo.discountValue ∧ now ≤ earlier) ∨
          ∃ m ∈ promo.maxDiscountAmount, m ≤ promo.amount (min earlier now) ∧ m ≤ min earlier now)
  | .fixedAmount =>
    promo.maxDiscountAmount = some earlier ∨
      (min promo.discountValue now ≤ earlier ∧
        ∀ m ∈ promo.maxDiscountAmount, min promo.discountValue now ≤ m)
  | .other => True

/-- The promotion may stand with the discount for `earlier` at the subtotal `now`. -/
structure Right (promo : Promotion) (earlier now : ℚ) : Prop where
  reached : promo.Reached now
  maximum : ∀ m ∈ promo.maxDiscountAmount, 0 ≤ m
  settles : promo.Settles earlier now

theorem amount_nonneg (promo : Promotion) {subtotal : ℚ} (h : 0 ≤ subtotal) :
    0 ≤ promo.amount subtotal := by
  unfold amount
  cases promo.discountType with
  | percentage => exact div_nonneg (mul_nonneg h promo.value_nonneg) (by norm_num)
  | fixedAmount => exact promo.value_nonneg
  | other => exact le_rfl

/-- What the handler computes is no less than 0, if the maximum is. -/
theorem discount_nonneg {promo : Promotion} (hmax : ∀ m ∈ promo.maxDiscountAmount, 0 ≤ m) {subtotal : ℚ}
    (h : 0 ≤ subtotal) : 0 ≤ promo.discount subtotal := by
  have hamount := promo.amount_nonneg h
  refine le_min ?_ h
  unfold amount at hamount
  cases htype : promo.discountType with
  | percentage =>
    rw [htype] at hamount
    cases hm : promo.maxDiscountAmount with
    | none => exact hamount
    | some m =>
      dsimp only
      split
      · exact le_min hamount (hmax m hm)
      · exact hamount
  | fixedAmount => exact promo.value_nonneg
  | other => exact le_rfl

/-! ### Percentages -/

/-- The part of the subtotal that a percentage takes. -/
def rate (promo : Promotion) : ℚ := min (promo.discountValue / 100) 1

theorem rate_nonneg (promo : Promotion) : 0 ≤ promo.rate :=
  le_min (div_nonneg promo.value_nonneg (by norm_num)) (by norm_num)

theorem rate_le_one (promo : Promotion) : promo.rate ≤ 1 := min_le_right _ _

theorem rate_eq_zero {promo : Promotion} : promo.rate = 0 ↔ promo.discountValue = 0 := by
  have hv := promo.value_nonneg
  unfold rate
  constructor
  · intro h
    rcases min_choice (promo.discountValue / 100) 1 with h' | h' <;> linarith
  · intro h
    rw [h]
    norm_num

theorem rate_eq_one {promo : Promotion} : promo.rate = 1 ↔ 100 ≤ promo.discountValue := by
  rw [rate, min_eq_right_iff, le_div_iff₀ (by norm_num), one_mul]

theorem rate_mul (promo : Promotion) {subtotal : ℚ} (h : 0 ≤ subtotal) :
    promo.rate * subtotal = min (subtotal * promo.discountValue / 100) subtotal := by
  rw [rate, min_mul_of_nonneg _ _ h, one_mul, div_mul_eq_mul_div, mul_comm]

theorem settles_percentage {promo : Promotion} (htype : promo.discountType = .percentage)
    {earlier now : ℚ} (he : 0 < earlier) (hn : 0 < now) :
    min (promo.discount earlier) now = promo.worth now ↔ promo.Settles earlier now := by
  have h0 := promo.rate_nonneg
  have h1 := promo.rate_le_one
  simp only [discount, worth, amount, Settles, htype]
  rw [← rate_eq_zero, ← rate_eq_one]
  cases hmax : promo.maxDiscountAmount with
  | none =>
    simp only [Option.elim_none]
    rw [← promo.rate_mul he.le, ← promo.rate_mul hn.le, Share.min_share_iff_of_uncapped h0 h1 he hn]
    simp only [ne_eq, reduceCtorEq, not_false_eq_true, true_and, Option.not_mem_none, false_and,
      exists_const, or_false]
    exact or_left_comm
  | some m =>
    have hm := Share.min_share_iff (c := m) h0 h1 he hn
    simp only [Option.elim_some]
    rw [min_right_comm (now * _ / 100), ← promo.rate_mul hn.le]
    by_cases hzero : m = 0
    · have hnone : 0 ≤ promo.rate * now := mul_nonneg h0 hn.le
      rw [if_neg (not_not.mpr hzero), ← promo.rate_mul he.le, hzero, min_eq_right hnone]
      simp only [ne_eq, not_true_eq_false, false_and, or_false]
      constructor
      · intro h
        rcases min_choice (promo.rate * earlier) now with h' | h'
        · exact (mul_eq_zero.mp (h'.symm.trans h)).resolve_right he.ne'
        · exact absurd (h'.symm.trans h) hn.ne'
      · intro h
        rw [h, zero_mul, min_eq_left hn.le]
    · rw [if_pos hzero, min_right_comm (earlier * _ / 100), ← promo.rate_mul he.le, hm,
        promo.rate_mul (le_min he.le hn.le), le_min_iff]
      simp only [ne_eq, Option.some.injEq, hzero, not_false_eq_true, true_and, Option.mem_def,
        exists_eq_left']
      exact or_left_comm

/-! ### The other types -/

theorem settles_fixedAmount {promo : Promotion} (htype : promo.discountType = .fixedAmount)
    {earlier now : ℚ} :
    min (promo.discount earlier) now = promo.worth now ↔ promo.Settles earlier now := by
  simp only [discount, worth, amount, Settles, htype]
  rw [min_right_comm]
  cases promo.maxDiscountAmount with
  | none => simp
  | some m =>
    rw [Option.elim_some, min_right_comm _ m, Share.min_eq_min_iff_right]
    simp [eq_comm]

theorem settles_other {promo : Promotion} (htype : promo.discountType = .other)
    (hmax : ∀ m ∈ promo.maxDiscountAmount, 0 ≤ m) {earlier now : ℚ} (he : 0 < earlier) (hn : 0 < now) :
    min (promo.discount earlier) now = promo.worth now ↔ promo.Settles earlier now := by
  simp only [discount, worth, amount, Settles, htype, iff_true]
  rw [min_eq_left he.le, min_eq_left hn.le]
  cases hm : promo.maxDiscountAmount with
  | none => exact (min_eq_left hn.le).symm
  | some m =>
    rw [Option.elim_some, min_eq_left (hmax m hm), min_eq_left hn.le]

/-- **When the discount for an earlier subtotal is right**, capped by the subtotal that is displayed. -/
theorem settles_iff {promo : Promotion} (hmax : ∀ m ∈ promo.maxDiscountAmount, 0 ≤ m) {earlier now : ℚ}
    (he : 0 < earlier) (hn : 0 < now) :
    min (promo.discount earlier) now = promo.worth now ↔ promo.Settles earlier now := by
  cases htype : promo.discountType with
  | percentage => exact settles_percentage htype he hn
  | fixedAmount => exact settles_fixedAmount htype
  | other => exact settles_other htype hmax he hn

end Promotion

theorem hours_pos (h : Hours) : 0 < h.val := by
  have hall : ∀ n ∈ hoursOptions, 0 < n := by decide
  exact hall h.val h.property

namespace OrderInfo

theorem subtotal_pos (s : OrderInfo) : 0 < s.subtotal :=
  mul_pos (Nat.cast_pos.mpr (hours_pos s.hours)) (by norm_num [HOURLY_RATE])

theorem total_eq (s : OrderInfo) : s.total = s.subtotal - min s.promoDiscount s.subtotal := by
  rw [total, ← sub_self s.subtotal, max_sub_sub_left, min_comm]

/-- Without a promotion there is nothing to be wrong. -/
theorem consistent_plain {s : OrderInfo} (happlied : s.promoApplied = false)
    (hzero : s.promoDiscount = 0) : s.Consistent := by
  have htotal : s.total = s.subtotal := by
    rw [total_eq, hzero, min_eq_left s.subtotal_pos.le, sub_zero]
  refine ⟨?_, htotal.le, fun _ => htotal, fun h => ?_⟩
  · rw [htotal]
    exact s.subtotal_pos.le
  · rw [happlied] at h
    cases h

/-- **With a promotion** the price is consistent just if its discount, computed for `earlier`, may
stand. -/
theorem consistent_applied {s : OrderInfo} {promo : Promotion} {earlier : ℚ}
    (happlied : s.promoApplied = true) (hdetail : s.promoDetail = some promo)
    (hdiscount : s.promoDiscount = promo.discount earlier) (hpos : 0 < earlier) :
    s.Consistent ↔ promo.Right earlier s.subtotal := by
  have htotal := s.total_eq
  rw [hdiscount] at htotal
  constructor
  · intro h
    obtain ⟨promo', hdetail', hprice, hreached⟩ := h.applied happlied
    obtain rfl : promo = promo' := Option.some.inj (hdetail.symm.trans hdetail')
    have hworth : min (promo.discount earlier) s.subtotal = promo.worth s.subtotal := by
      rw [htotal] at hprice
      exact sub_right_inj.mp hprice
    have hle := h.total_le
    rw [hprice, sub_le_self_iff] at hle
    have hmax : ∀ m ∈ promo.maxDiscountAmount, 0 ≤ m := by
      intro m hm
      refine hle.trans ((min_le_left _ _).trans ?_)
      rw [Option.mem_def.mp hm]
      exact min_le_right _ _
    exact ⟨hreached, hmax, (Promotion.settles_iff hmax hpos s.subtotal_pos).mp hworth⟩
  · rintro ⟨hreached, hmax, hsettles⟩
    have hworth := (Promotion.settles_iff hmax hpos s.subtotal_pos).mpr hsettles
    have hnonneg := le_min (Promotion.discount_nonneg hmax hpos.le) s.subtotal_pos.le
    refine ⟨le_max_left _ _, ?_, fun h => ?_, fun _ => ⟨promo, hdetail, ?_, hreached⟩⟩
    · rw [htotal]
      exact sub_le_self _ hnonneg
    · rw [happlied] at h
      cases h
    · rw [htotal, hworth]

end OrderInfo

/-! ## Runs -/

/-- The screen, and beside it the subtotal for which the discount of the applied promotion was
computed. -/
structure Priced where
  screen : OrderInfo
  granted : ℚ

namespace Priced

def opened : Priced := ⟨.opened, 0⟩

/-- A reply that applies a promotion has the subtotal of its handler. -/
def grant (s : Priced) : OrderEvent → ℚ
  | .reply i (.promotion promo) =>
    match s.screen.pending[i]? with
    | some c => if promo.refuses c.subtotal then s.granted else c.subtotal
    | none => s.granted
  | _ => s.granted

def step (lang : Locale) (s : Priced) (e : OrderEvent) : Option Priced :=
  (s.screen.step lang e).map fun t => ⟨t, s.grant e⟩

/-- The screen runs as it does without. -/
theorem step_screen (lang : Locale) (s : Priced) (e : OrderEvent) :
    (s.step lang e).map Priced.screen = s.screen.step lang e := by
  rw [step, Option.map_map]
  exact Option.map_id_apply

/-- The discount on the screen is that of the promotion, for the subtotal of its request. -/
structure Valid (s : Priced) : Prop where
  plain : s.screen.promoApplied = false → s.screen.promoDiscount = 0
  applied : s.screen.promoApplied = true → ∃ promo, s.screen.promoDetail = some promo ∧
    s.screen.promoDiscount = promo.discount s.granted
  granted : s.screen.promoApplied = true → 0 < s.granted
  pending : ∀ c ∈ s.screen.pending, 0 < c.subtotal

/-- The applied promotion may stand. -/
def Stands (s : Priced) : Prop :=
  s.screen.promoApplied = true →
    ∀ promo ∈ s.screen.promoDetail, promo.Right s.granted s.screen.subtotal

/-- **When the hours are chosen with a promotion applied, or a promotion comes in**, it may stand with
the discount of its request at the hours that are chosen. -/
def Harmless (s : Priced) : OrderEvent → Prop
  | .setHours h => s.screen.promoApplied = true →
      ∀ promo ∈ s.screen.promoDetail, promo.Right s.granted (h.val * HOURLY_RATE)
  | .reply i (.promotion promo) => ∀ c ∈ s.screen.pending[i]?, promo.refuses c.subtotal = false →
      promo.Right c.subtotal s.screen.subtotal
  | _ => True

theorem consistent_iff {s : Priced} (h : s.Valid) : s.screen.Consistent ↔ s.Stands := by
  cases happlied : s.screen.promoApplied with
  | false =>
    refine iff_of_true (OrderInfo.consistent_plain happlied (h.plain happlied)) fun h => ?_
    rw [happlied] at h
    cases h
  | true =>
    obtain ⟨promo, hdetail, hdiscount⟩ := h.applied happlied
    rw [OrderInfo.consistent_applied happlied hdetail hdiscount (h.granted happlied)]
    constructor
    · intro hright _ promo' hpromo'
      exact Option.some.inj (hdetail.symm.trans hpromo') ▸ hright
    · exact fun hstands => hstands happlied promo hdetail

/-- **Without a promotion** the screen is as it is described, whatever has happened. -/
theorem plain_spec {t : OrderInfo} {granted : ℚ} (happlied : t.promoApplied = false)
    (hzero : t.promoDiscount = 0) (hpending : ∀ c ∈ t.pending, 0 < c.subtotal) :
    Valid ⟨t, granted⟩ ∧ Stands ⟨t, granted⟩ := by
  refine ⟨⟨fun _ => hzero, fun h => ?_, fun h => ?_, hpending⟩, fun h => ?_⟩
  · cases happlied.symm.trans h
  · cases happlied.symm.trans h
  · cases happlied.symm.trans h

theorem edit_spec {lang : Locale} {s : Priced} {text : PyStr} {t : OrderInfo} (h : s.Valid)
    (ht : s.screen.step lang (.edit text) = some t) : Valid ⟨t, s.granted⟩ ∧ Stands ⟨t, s.granted⟩ := by
  simp only [OrderInfo.step] at ht
  split at ht
  · cases ht
  rename_i hidle
  cases ht
  have happlied : s.screen.promoApplied = false := by
    simp only [Bool.or_eq_true, not_or, Bool.not_eq_true] at hidle
    exact hidle.1
  unfold OrderInfo.edit
  dsimp only
  split
  · exact plain_spec rfl rfl h.pending
  · exact plain_spec happlied (h.plain happlied) h.pending

theorem handleApplyPromo_spec {lang : Locale} {s : Priced} {t : OrderInfo} (h : s.Valid)
    (ht : s.screen.step lang .handleApplyPromo = some t) :
    Valid ⟨t, s.granted⟩ ∧ Stands ⟨t, s.granted⟩ := by
  simp only [OrderInfo.step] at ht
  split at ht
  · cases ht
  rename_i hidle
  cases ht
  have hcode : (Js.trim s.screen.promoCode).isEmpty = false := by
    simp only [Bool.or_eq_true, not_or, Bool.not_eq_true] at hidle
    exact hidle.1.2
  simp only [OrderInfo.handleApplyPromo, hcode, Bool.false_eq_true, if_false]
  refine plain_spec rfl rfl fun c hc => ?_
  rcases List.mem_append.mp hc with hc | hc
  · exact h.pending c hc
  · rw [List.mem_singleton.mp hc]
    exact s.screen.subtotal_pos

theorem remove_spec {lang : Locale} {s : Priced} {t : OrderInfo} (h : s.Valid)
    (ht : s.screen.step lang .remove = some t) : Valid ⟨t, s.granted⟩ ∧ Stands ⟨t, s.granted⟩ := by
  simp only [OrderInfo.step] at ht
  split at ht
  · cases ht
    exact plain_spec rfl rfl h.pending
  · cases ht

/-- **A reply that applies nothing** leaves the promotion that is applied as it is. -/
theorem kept_spec {s : Priced} (h : s.Valid) {pending : List ApplyPromo} (error : PyStr)
    (hpending : ∀ c ∈ pending, 0 < c.subtotal) :
    let t := { s.screen with pending := pending, promoError := error, promoLoading := false }
    Valid ⟨t, s.granted⟩ ∧ (s.Stands → Stands ⟨t, s.granted⟩) :=
  ⟨⟨h.plain, h.applied, h.granted, hpending⟩, fun hstands => hstands⟩

/-- **A reply.** -/
theorem reply_spec {lang : Locale} {s : Priced} {i : ℕ} {r : PromotionReply} {t : OrderInfo} (h : s.Valid)
    (ht : s.screen.step lang (.reply i r) = some t) :
    Valid ⟨t, s.grant (.reply i r)⟩ ∧
      (s.Stands → (Stands ⟨t, s.grant (.reply i r)⟩ ↔ s.Harmless (.reply i r))) := by
  obtain ⟨c, hc, rfl⟩ := Option.map_eq_some_iff.mp ht
  have hpending : ∀ x ∈ s.screen.pending.eraseIdx i, 0 < x.subtotal := fun x hx =>
    h.pending x (List.mem_of_mem_eraseIdx hx)
  cases r with
  | refused message =>
    obtain ⟨hvalid, hkept⟩ :=
      kept_spec h (if message.isEmpty then py "Mã không hợp lệ" else message) hpending
    exact ⟨hvalid, fun hstands => iff_of_true (hkept hstands) trivial⟩
  | failed =>
    obtain ⟨hvalid, hkept⟩ := kept_spec h (py "Lỗi kiểm tra mã, vui lòng thử lại") hpending
    exact ⟨hvalid, fun hstands => iff_of_true (hkept hstands) trivial⟩
  | promotion promo =>
    cases hrefuses : promo.refuses c.subtotal with
    | true =>
      have hgrant : s.grant (.reply i (.promotion promo)) = s.granted := by
        simp only [grant, hc, hrefuses, if_true]
      have hharmless : s.Harmless (.reply i (.promotion promo)) := by
        intro c' hc' hnot
        rw [hc] at hc'
        cases hc'
        cases hrefuses.symm.trans hnot
      rw [hgrant]
      simp only [OrderInfo.resume, hrefuses, if_true]
      obtain ⟨hvalid, hkept⟩ := kept_spec h _ hpending
      exact ⟨hvalid, fun hstands => iff_of_true (hkept hstands) hharmless⟩
    | false =>
      have hgrant : s.grant (.reply i (.promotion promo)) = c.subtotal := by
        simp only [grant, hc, hrefuses, Bool.false_eq_true, if_false]
      have hpos := h.pending c (List.mem_of_getElem? hc)
      rw [hgrant]
      simp only [OrderInfo.resume, hrefuses, Bool.false_eq_true, if_false]
      refine ⟨⟨fun hoff => ?_, fun _ => ⟨promo, rfl, rfl⟩, fun _ => hpos, hpending⟩, fun _ => ?_⟩
      · cases hoff
      constructor
      · intro hstands c' hc' _
        rw [hc] at hc'
        cases hc'
        exact hstands rfl promo rfl
      · intro hharmless _ promo' hpromo'
        cases hpromo'
        exact hharmless c hc hrefuses

/-- **One event**: the screen stays as it is described, and the promotion on it may stand just if the
event is harmless. -/
theorem step_spec {lang : Locale} {s s' : Priced} {e : OrderEvent} (h : s.Valid)
    (hs : s.step lang e = some s') : s'.Valid ∧ (s.Stands → (s'.Stands ↔ s.Harmless e)) := by
  obtain ⟨t, ht, rfl⟩ := Option.map_eq_some_iff.mp hs
  cases e with
  | setHours hours =>
    cases ht
    exact ⟨⟨h.plain, h.applied, h.granted, h.pending⟩, fun _ => Iff.rfl⟩
  | edit text =>
    obtain ⟨hvalid, hstands⟩ := edit_spec h ht
    exact ⟨hvalid, fun _ => iff_of_true hstands trivial⟩
  | handleApplyPromo =>
    obtain ⟨hvalid, hstands⟩ := handleApplyPromo_spec h ht
    exact ⟨hvalid, fun _ => iff_of_true hstands trivial⟩
  | reply i r => exact reply_spec h ht
  | remove =>
    obtain ⟨hvalid, hstands⟩ := remove_spec h ht
    exact ⟨hvalid, fun _ => iff_of_true hstands trivial⟩

/-- An event that cannot occur does nothing. -/
theorem harmless_stuck {lang : Locale} {s : Priced} {e : OrderEvent} (hs : s.step lang e = none) :
    s.Harmless e := by
  cases e with
  | setHours hours => cases hs
  | edit text => trivial
  | handleApplyPromo => trivial
  | remove => trivial
  | reply i r =>
    cases r with
    | refused message => trivial
    | failed => trivial
    | promotion promo =>
      intro c hc
      have hnone := Option.map_eq_none_iff.mp (Option.map_eq_none_iff.mp hs)
      rw [hnone] at hc
      cases hc

theorem valid_opened : opened.Valid := (plain_spec rfl rfl fun _ hc => absurd hc List.not_mem_nil).1

end Priced

/-- **When the displayed price is consistent.**  In a run of the order screen from its first render,
with promotions of any kind and replies at any point, every state is consistent just if every event of
the run is harmless. -/
theorem price_consistent_iff (lang : Locale) (es : List OrderEvent) :
    EveryState (OrderInfo.step lang) OrderInfo.Consistent .opened es ↔
      Along (Priced.step lang) Priced.Harmless .opened es := by
  have hscreens := everyState_ghost (P := OrderInfo.Consistent) Priced.screen (Priced.step_screen lang) es
    .opened
  refine hscreens.trans (everyState_iff_along_of_invariant (I := Priced.Valid)
    (fun s e s' h hs => (Priced.step_spec h hs).1) (fun s e s' h hconsistent hs => ?_)
    (fun s e _ hs => Priced.harmless_stuck hs) es .opened Priced.valid_opened
    (OrderInfo.consistent_plain rfl rfl))
  obtain ⟨hvalid, hstands⟩ := Priced.step_spec h hs
  rw [Priced.consistent_iff hvalid]
  exact hstands ((Priced.consistent_iff h).mp hconsistent)

/-- Half the price of an order of 20000 or more. -/
def halfPrice : Promotion := ⟨.percentage, 50, none, some 20000, by norm_num⟩

/-- Four hours, a promotion that halves their price, then one hour: the promotion is still applied,
though one hour does not reach its minimum, and the total is 0 instead of 2500. -/
theorem stale_discount :
    let lang : Locale := ⟨id, fun _ => []⟩
    let es : List OrderEvent := [.setHours ⟨4, by decide⟩, .edit (py "SALE"), .handleApplyPromo,
      .reply 0 (.promotion halfPrice), .setHours ⟨1, by decide⟩]
    (run (OrderInfo.step lang) .opened es).map (fun s => (s.promoApplied, s.subtotal, s.total)) =
        some (true, 5000, 0) ∧
      halfPrice.worth 5000 = 2500 ∧ ¬ halfPrice.Reached 5000 ∧
      ¬ EveryState (OrderInfo.step lang) OrderInfo.Consistent .opened es := by
  intro lang es
  refine ⟨by decide +kernel, by decide +kernel, fun h => ?_, fun h => ?_⟩
  · exact absurd (h 20000 rfl) (by norm_num)
  · have hrun : (run (OrderInfo.step lang) .opened es).map
        (fun s => (s.promoApplied, s.subtotal, s.promoDetail.bind Promotion.minOrderAmount)) =
          some (true, 5000, some 20000) := by decide +kernel
    obtain ⟨s, hs, hfields⟩ := Option.map_eq_some_iff.mp hrun
    simp only [Prod.mk.injEq] at hfields
    obtain ⟨happlied, hsubtotal, hminimum⟩ := hfields
    obtain ⟨promo, hdetail, -, hreached⟩ := (everyState_iff.mp h es s List.prefix_rfl hs).applied happlied
    rw [hdetail] at hminimum
    have hle := hreached 20000 hminimum
    rw [hsubtotal] at hle
    exact absurd hle (by norm_num)

end SmartLocker.Kiosk
