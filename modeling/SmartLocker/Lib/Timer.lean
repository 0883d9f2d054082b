import Mathlib.Algebra.Group.Nat.Defs
import Mathlib.Data.List.Basic

/-!
# Interval timers on a clock that wraps

A timer is checked now and then: it fires when the clock, read at the check, is `period` past the last
stamp, and is then stamped anew.  Clock and stamps are `UInt32`, the times behind them are not.

* `fired_apart` — a timer never fires early, wrap or not;
* `fired_within` — when it is checked every `D`, it never fires later than `period + D` after its stamp,
  as long as that is less than a turn of the clock.
-/

set_option autoImplicit false

namespace Lib.Timer

variable {ι : Type} (read stamp : ι → Nat)

/-- What the clock shows at a time. -/
def clock (t : Nat) : UInt32 := UInt32.ofNat t

/-- The checks at which the timer fires. -/
def fired (period : UInt32) : UInt32 → List ι → List ι
  | _, [] => []
  | last, c :: cs =>
    if clock (read c) - last ≥ period then c :: fired period (clock (stamp c)) cs
    else fired period last cs

/-- Each check is at most `B` after the one before it, the first one after `s`; a check counts from its
`stamp` on. -/
def Within (B : Nat) : Nat → List ι → Prop
  | _, [] => True
  | s, c :: cs => read c ≤ s + B ∧ Within B (stamp c) cs

variable {read stamp}

theorem clock_sub {l t : Nat} (h : l ≤ t) : (clock t - clock l).toNat = (t - l) % 2 ^ 32 := by
  rw [clock, clock, ← UInt32.ofNat_sub h]
  rfl

theorem fired_sublist (period last : UInt32) (cs : List ι) :
    (fired read stamp period last cs).Sublist cs := by
  induction cs generalizing last with
  | nil => exact .slnil
  | cons c cs ih =>
    unfold fired
    split
    · exact (ih _).cons_cons c
    · exact (ih _).cons c

/-- **No early fire**: from one fire to the next, and from the start to the first one, at least the
period goes by. -/
theorem fired_apart (period : UInt32) {l : Nat} {cs : List ι} (hstart : ∀ c ∈ cs, l ≤ read c)
    (hle : ∀ c ∈ cs, read c ≤ stamp c) (horder : cs.Pairwise (fun x y => stamp x ≤ read y)) :
    (∀ c ∈ fired read stamp period (clock l) cs, l + period.toNat ≤ read c) ∧
      (fired read stamp period (clock l) cs).Pairwise
        (fun x y => stamp x + period.toNat ≤ read y) := by
  induction cs generalizing l with
  | nil => exact ⟨List.forall_mem_nil _, .nil⟩
  | cons c cs ih =>
    obtain ⟨hafter, horder⟩ := List.pairwise_cons.mp horder
    obtain ⟨hc, hstart⟩ := List.forall_mem_cons.mp hstart
    obtain ⟨hcle, hle⟩ := List.forall_mem_cons.mp hle
    unfold fired
    split
    · rename_i hdue
      have hlate : l + period.toNat ≤ read c := by
        have hperiod := UInt32.le_iff_toNat_le.mp hdue
        rw [clock_sub hc] at hperiod
        have := Nat.mod_le (read c - l) (2 ^ 32)
        omega
      obtain ⟨hfirst, hapart⟩ := ih hafter hle horder
      refine ⟨List.forall_mem_cons.mpr ⟨hlate, fun x hx => ?_⟩,
        List.pairwise_cons.mpr ⟨hfirst, hapart⟩⟩
      have := hfirst x hx
      omega
    · exact ih hstart hle horder

/-- **No late fire**: with checks every `D`, less than the period has gone by since the last stamp when
a check does not fire, so the next one fires in time. -/
theorem fired_within (period : UInt32) (hpos : 0 < period.toNat) {D : Nat}
    (hturn : period.toNat + D ≤ 2 ^ 32) {l r : Nat} {cs : List ι} (hr : r < l + period.toNat)
    (hstart : ∀ c ∈ cs, l ≤ read c) (hle : ∀ c ∈ cs, read c ≤ stamp c)
    (horder : cs.Pairwise (fun x y => stamp x ≤ read y)) (hchecks : Within read read D r cs) :
    Within read stamp (period.toNat + D) l (fired read stamp period (clock l) cs) ∧
      (cs.getLast?.map read).getD r <
        ((fired read stamp period (clock l) cs).getLast?.map stamp).getD l + period.toNat := by
  induction cs generalizing l r with
  | nil => exact ⟨trivial, hr⟩
  | cons c cs ih =>
    obtain ⟨hafter, horder⟩ := List.pairwise_cons.mp horder
    obtain ⟨hc, hstart⟩ := List.forall_mem_cons.mp hstart
    obtain ⟨hcle, hle⟩ := List.forall_mem_cons.mp hle
    obtain ⟨hnear, hchecks⟩ := hchecks
    have hlast : ∀ r', ((c :: cs).getLast?.map read).getD r' = (cs.getLast?.map read).getD (read c) := by
      intro r'
      rw [List.getLast?_cons]
      cases cs.getLast? <;> rfl
    rw [hlast]
    unfold fired
    split
    · obtain ⟨hwithin, hend⟩ := ih (l := stamp c) (r := read c) (by omega) hafter hle horder hchecks
      refine ⟨⟨by omega, hwithin⟩, ?_⟩
      rw [List.getLast?_cons]
      cases hfires : (fired read stamp period (clock (stamp c)) cs).getLast? with
      | none => rwa [hfires] at hend
      | some x => rwa [hfires] at hend
    · rename_i hdue
      -- less than a turn of the clock has gone by, so the clock shows how much
      have hearly : read c < l + period.toNat := by
        have hperiod : ¬ period.toNat ≤ (clock (read c) - clock l).toNat :=
          fun h => hdue (UInt32.le_iff_toNat_le.mpr h)
        rw [clock_sub hc, Nat.mod_eq_of_lt (by omega)] at hperiod
        omega
      exact ih hearly hstart hle horder hchecks

end Lib.Timer
