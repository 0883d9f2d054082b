import Mathlib.Data.List.Basic
import Mathlib.Data.List.Perm.Basic

/-!
# Runs of a partial step function

A component that reacts to events is a function `step : σ → ε → Option σ`; `none` says that the
event is not enabled in that state.  This file fixes what a run is and how a fact about one step
becomes a fact about runs:

* `run` — the state after a list of events, `none` as soon as one of them is not enabled;
* `Along step C s es` — every event of the run meets `C` in the state it is taken from;
* `EveryState step P s es` — every state of the run meets `P`;
* `run_invariant` — what every step that meets `C` preserves holds after every such run;
* `run_history` — the same for a predicate of the state and the events taken so far;
* `append_eq_append_cons` — where an element of two histories in a row is;
* `everyState_iff_along` — what a step keeps just if it meets `C`; with an invariant,
  `everyState_iff_along_of_invariant`;
* `everyState_ghost` — what is kept beside the state of a machine changes none of its runs;
* `run_iff_along` — what once lost stays lost holds at the end of a run just if no event loses it;
* `run_related` — two machines that take every event alike go through every run alike;
* `run_budget` — what the events of a run cost is paid for by what they bring and what was there;
* `no_endless_run` — events that all come down in a well-founded order end some time.
-/

set_option autoImplicit false

namespace Lib.Machine

variable {σ ε : Type*}

/-- The state after the events `es`. -/
def run (step : σ → ε → Option σ) : σ → List ε → Option σ
  | s, [] => some s
  | s, e :: es =>
    match step s e with
    | some s' => run step s' es
    | none => none

/-- Every event of the run from `s` meets `C` in the state it is taken from. -/
def Along (step : σ → ε → Option σ) (C : σ → ε → Prop) : σ → List ε → Prop
  | _, [] => True
  | s, e :: es =>
    C s e ∧
      match step s e with
      | some s' => Along step C s' es
      | none => True

instance Along.decidable (step : σ → ε → Option σ) (C : σ → ε → Prop) [∀ s e, Decidable (C s e)] :
    ∀ (s : σ) (es : List ε), Decidable (Along step C s es)
  | _, [] => isTrue trivial
  | s, e :: es =>
    have : Decidable (match step s e with
        | some s' => Along step C s' es
        | none => True) :=
      match step s e with
      | some s' => Along.decidable step C s' es
      | none => isTrue trivial
    inferInstanceAs (Decidable (C s e ∧ match step s e with
        | some s' => Along step C s' es
        | none => True))

variable {step : σ → ε → Option σ} {C : σ → ε → Prop}

/-- A run of a total step function. -/
theorem run_total (f : σ → ε → σ) (s : σ) (es : List ε) :
    run (fun s e => some (f s e)) s es = some (es.foldl f s) := by
  induction es generalizing s with
  | nil => rfl
  | cons e es ih => exact ih (f s e)

theorem run_append (es es' : List ε) (s : σ) :
    run step s (es ++ es') = (run step s es).bind fun t => run step t es' := by
  induction es generalizing s with
  | nil => rfl
  | cons e es ih =>
    simp only [List.cons_append, run]
    cases step s e with
    | none => rfl
    | some t => exact ih t

/-- One enabled event that meets `C`, then a run along `C`. -/
theorem Along.cons {s s' : σ} {e : ε} {es : List ε} (h : Along step C s (e :: es))
    (hs : step s e = some s') : C s e ∧ Along step C s' es := by
  simp only [Along, hs] at h
  exact h

/-- A condition may be weakened. -/
theorem Along.mono {D : σ → ε → Prop} (hCD : ∀ s e, C s e → D s e) :
    ∀ (es : List ε) (s : σ), Along step C s es → Along step D s es
  | [], _, _ => trivial
  | e :: es, s, h => by
    refine ⟨hCD s e h.1, ?_⟩
    have htail := h.2
    split
    · rename_i s' hs
      rw [hs] at htail
      exact Along.mono hCD es s' htail
    · trivial

/-- A condition that always holds. -/
theorem along_of_forall (hC : ∀ s e, C s e) : ∀ (es : List ε) (s : σ), Along step C s es
  | [], _ => trivial
  | e :: es, s => by
    refine ⟨hC s e, ?_⟩
    split
    · exact along_of_forall hC es _
    · trivial

/-- What all events meet, they meet along the run. -/
theorem Along.and_mem {D : ε → Prop} :
    ∀ {es : List ε} {s : σ}, Along step C s es → (∀ e ∈ es, D e) →
      Along step (fun s e => D e ∧ C s e) s es
  | [], _, _, _ => trivial
  | e :: es, s, h, hD => by
    refine ⟨⟨hD e List.mem_cons_self, h.1⟩, ?_⟩
    have htail := h.2
    split
    · rename_i s' hs
      rw [hs] at htail
      exact htail.and_mem fun x hx => hD x (List.mem_cons_of_mem e hx)
    · trivial

/-- **The invariant rule**: a predicate kept by every step that meets `C` holds after every run
all of whose steps meet `C`. -/
theorem run_invariant {I : σ → Prop}
    (hstep : ∀ s e s', I s → C s e → step s e = some s' → I s') :
    ∀ (es : List ε) (s s' : σ), I s → Along step C s es → run step s es = some s' → I s'
  | [], s, s', hI, _, hr => by
    simp only [run, Option.some.injEq] at hr
    exact hr ▸ hI
  | e :: es, s, s', hI, hC, hr => by
    simp only [run] at hr
    split at hr
    · rename_i t ht
      obtain ⟨hc, hC'⟩ := hC.cons ht
      exact run_invariant hstep es t s' (hstep s e t hI hc ht) hC' hr
    · cases hr

/-! ## Every state of a run -/

/-- Every state that the run from `s` comes through meets `P`. -/
def EveryState (step : σ → ε → Option σ) (P : σ → Prop) : σ → List ε → Prop
  | s, [] => P s
  | s, e :: es =>
    P s ∧
      match step s e with
      | some s' => EveryState step P s' es
      | none => True

instance EveryState.decidable (step : σ → ε → Option σ) (P : σ → Prop) [DecidablePred P] :
    ∀ (s : σ) (es : List ε), Decidable (EveryState step P s es)
  | s, [] => inferInstanceAs (Decidable (P s))
  | s, e :: es =>
    have : Decidable (match step s e with
        | some s' => EveryState step P s' es
        | none => True) :=
      match step s e with
      | some s' => EveryState.decidable step P s' es
      | none => isTrue trivial
    inferInstanceAs (Decidable (P s ∧ match step s e with
        | some s' => EveryState step P s' es
        | none => True))

theorem everyState_cons {P : σ → Prop} {s s' : σ} {e : ε} {es : List ε} (hs : step s e = some s') :
    EveryState step P s (e :: es) ↔ P s ∧ EveryState step P s' es := by
  simp only [EveryState, hs]

theorem everyState_stuck {P : σ → Prop} {s : σ} {e : ε} {es : List ε} (hs : step s e = none) :
    EveryState step P s (e :: es) ↔ P s := by
  simp only [EveryState, hs, and_true]

theorem EveryState.head {P : σ → Prop} {s : σ} {es : List ε} (h : EveryState step P s es) : P s := by
  cases es with
  | nil => exact h
  | cons e es => exact h.1

/-- The events of such a run are taken from such states. -/
theorem EveryState.along {P : σ → Prop} :
    ∀ {es : List ε} {s : σ}, EveryState step P s es → Along step (fun s _ => P s) s es
  | [], _, _ => trivial
  | e :: es, s, h => by
    refine ⟨h.1, ?_⟩
    have htail := h.2
    split
    · rename_i s' hs
      rw [hs] at htail
      exact htail.along
    · trivial

/-- The states of a run are those its beginnings lead to. -/
theorem everyState_iff {P : σ → Prop} {s : σ} {es : List ε} :
    EveryState step P s es ↔ ∀ m s', m <+: es → run step s m = some s' → P s' := by
  induction es generalizing s with
  | nil =>
    constructor
    · intro h m s' hm hr
      rw [List.prefix_nil.mp hm] at hr
      exact Option.some.inj hr ▸ h
    · exact fun h => h [] s List.nil_prefix rfl
  | cons e es ih =>
    cases hs : step s e with
    | none =>
      rw [everyState_stuck hs]
      constructor
      · intro h m s' hm hr
        cases m with
        | nil => exact Option.some.inj hr ▸ h
        | cons x m =>
          obtain ⟨rfl, -⟩ := List.cons_prefix_cons.mp hm
          simp only [run, hs] at hr
          cases hr
      · exact fun h => h [] s List.nil_prefix rfl
    | some s₁ =>
      rw [everyState_cons hs, ih]
      constructor
      · rintro ⟨h, hall⟩ m s' hm hr
        cases m with
        | nil => exact Option.some.inj hr ▸ h
        | cons x m =>
          obtain ⟨rfl, htail⟩ := List.cons_prefix_cons.mp hm
          simp only [run, hs] at hr
          exact hall m s' htail hr
      · intro h
        refine ⟨h [] s List.nil_prefix rfl, fun m s' hm hr => ?_⟩
        refine h (e :: m) s' (List.cons_prefix_cons.mpr ⟨rfl, hm⟩) ?_
        simpa only [run, hs] using hr

/-- **The invariant rule for every state** of a run. -/
theorem everyState_of_invariant {I P : σ → Prop} (hP : ∀ s, I s → P s)
    (hstep : ∀ s e s', I s → C s e → step s e = some s' → I s') :
    ∀ (es : List ε) (s : σ), I s → Along step C s es → EveryState step P s es
  | [], s, hI, _ => hP s hI
  | e :: es, s, hI, hC => by
    refine ⟨hP s hI, ?_⟩
    have htail := hC.2
    split
    · rename_i s' hs
      rw [hs] at htail
      exact everyState_of_invariant hP hstep es s' (hstep s e s' hI hC.1 hs) htail
    · trivial

/-- **The exact rule**, in the states of an invariant: when a step keeps `P` just if it meets `C`, every
state of a run meets `P` just if every event of the run meets `C`. -/
theorem everyState_iff_along_of_invariant {I P : σ → Prop}
    (hI : ∀ s e s', I s → step s e = some s' → I s')
    (hstep : ∀ s e s', I s → P s → step s e = some s' → (P s' ↔ C s e))
    (hstuck : ∀ s e, I s → step s e = none → C s e) :
    ∀ (es : List ε) (s : σ), I s → P s → (EveryState step P s es ↔ Along step C s es)
  | [], _, _, hs => iff_of_true hs trivial
  | e :: es, s, hi, hs => by
    cases ht : step s e with
    | none =>
      rw [everyState_stuck ht]
      refine iff_of_true hs ⟨hstuck s e hi ht, ?_⟩
      rw [ht]
      trivial
    | some s' =>
      rw [everyState_cons ht]
      have htail := everyState_iff_along_of_invariant hI hstep hstuck es s' (hI s e s' hi ht)
      constructor
      · rintro ⟨-, hall⟩
        refine ⟨(hstep s e s' hi hs ht).mp hall.head, ?_⟩
        rw [ht]
        exact (htail hall.head).mp hall
      · intro hC
        obtain ⟨hc, hC'⟩ := hC.cons ht
        have hs' := (hstep s e s' hi hs ht).mpr hc
        exact ⟨hs, (htail hs').mpr hC'⟩

/-- The exact rule. -/
theorem everyState_iff_along {P : σ → Prop}
    (hstep : ∀ s e s', P s → step s e = some s' → (P s' ↔ C s e))
    (hstuck : ∀ s e, step s e = none → C s e) (es : List ε) (s : σ) (hs : P s) :
    EveryState step P s es ↔ Along step C s es :=
  everyState_iff_along_of_invariant (I := fun _ => True) (fun _ _ _ _ _ => trivial)
    (fun s e s' _ => hstep s e s') (fun s e _ => hstuck s e) es s trivial hs

/-- **Ghosts**: a machine whose states carry more, and whose steps do the same to what `f` leaves of
them, comes through the same states. -/
theorem everyState_ghost {τ : Type*} {step' : τ → ε → Option τ} (f : τ → σ)
    (hf : ∀ t e, (step' t e).map f = step (f t) e) {P : σ → Prop} :
    ∀ (es : List ε) (t : τ), EveryState step P (f t) es ↔ EveryState step' (fun t => P (f t)) t es
  | [], _ => Iff.rfl
  | e :: es, t => by
    have h := hf t e
    cases ht : step' t e with
    | none =>
      rw [ht] at h
      rw [everyState_stuck h.symm, everyState_stuck ht]
    | some t' =>
      rw [ht] at h
      rw [everyState_cons h.symm, everyState_cons ht, everyState_ghost f hf es t']

/-- **The rule of what is lost for good**: when `P` holds after a step just if it held before and the
step meets `C`, it holds after a run just if it held before and every event meets `C`. -/
theorem run_iff_along {I P : σ → Prop} (hI : ∀ s e s', I s → step s e = some s' → I s')
    (hstep : ∀ s e s', I s → step s e = some s' → (P s' ↔ P s ∧ C s e)) :
    ∀ (es : List ε) (s s' : σ), I s → run step s es = some s' → (P s' ↔ P s ∧ Along step C s es)
  | [], s, s', _, hr => by
    simp only [run, Option.some.injEq] at hr
    rw [hr]
    exact ⟨fun h => ⟨h, trivial⟩, And.left⟩
  | e :: es, s, s', hi, hr => by
    simp only [run] at hr
    split at hr
    · rename_i t ht
      rw [run_iff_along hI hstep es t s' (hI s e t hi ht) hr, hstep s e t hi ht, and_assoc]
      refine and_congr_right fun _ => ⟨fun h => ⟨h.1, ?_⟩, fun h => h.cons ht⟩
      rw [ht]
      exact h.2
    · cases hr

/-- **The invariant rule with the history**: `I` may speak of the events that have been taken. -/
theorem run_history {I : List ε → σ → Prop}
    (hstep : ∀ past s e s', I past s → step s e = some s' → I (past ++ [e]) s') :
    ∀ (es past : List ε) (s s' : σ), I past s → run step s es = some s' → I (past ++ es) s'
  | [], past, s, s', hI, hr => by
    simp only [run, Option.some.injEq] at hr
    rw [List.append_nil]
    exact hr ▸ hI
  | e :: es, past, s, s', hI, hr => by
    simp only [run] at hr
    split at hr
    · rename_i t ht
      have htail := run_history hstep es (past ++ [e]) t s' (hstep past s e t hI ht) hr
      rwa [List.append_assoc] at htail
    · cases hr

/-- An element of two lists in a row is in the first one or in the second one. -/
theorem append_eq_append_cons {α : Type*} {l r front back : List α} {a : α}
    (h : l ++ r = front ++ a :: back) :
    (∃ rest, l = front ++ a :: rest ∧ back = rest ++ r) ∨
      ∃ rest, front = l ++ rest ∧ r = rest ++ a :: back := by
  rcases List.append_eq_append_iff.mp h with ⟨rest, hfront, hr⟩ | ⟨rest, hl, hback⟩
  · exact Or.inr ⟨rest, hfront, hr⟩
  · cases rest with
    | nil => exact Or.inr ⟨[], by simpa using hl.symm, hback.symm⟩
    | cons x rest =>
      obtain ⟨rfl, htail⟩ := List.cons.inj hback
      exact Or.inl ⟨rest, hl, htail⟩

/-! ## Two machines side by side -/

/-- **The lock-step rule**: when related states take every event alike, into related states, they go
through every run alike. -/
theorem run_related {τ : Type*} {step' : τ → ε → Option τ} {R : σ → τ → Prop}
    (hstep : ∀ s t e, R s t → Option.Rel R (step s e) (step' t e)) :
    ∀ (es : List ε) (s : σ) (t : τ), R s t → Option.Rel R (run step s es) (run step' t es)
  | [], _, _, hR => .some hR
  | e :: es, s, t, hR => by
    have h := hstep s t e hR
    simp only [run]
    cases hs : step s e with
    | none =>
      rw [hs] at h
      cases ht : step' t e with
      | none => exact .none
      | some t' =>
        rw [ht] at h
        cases h
    | some s' =>
      rw [hs] at h
      cases ht : step' t e with
      | none =>
        rw [ht] at h
        cases h
      | some t' =>
        rw [ht] at h
        cases h with
        | some hR' => exact run_related hstep es s' t' hR'

/-! ## Costs -/

/-- What the events of a run cost, each by `f` in the state it is taken from. -/
def cost (step : σ → ε → Option σ) (f : σ → ε → Nat) : σ → List ε → Nat
  | _, [] => 0
  | s, e :: es =>
    f s e +
      match step s e with
      | some s' => cost step f s' es
      | none => 0

/-- **The budget rule**: when every step pays for its cost and for what it adds to `Φ` out of what the
event brings, a run does. -/
theorem run_budget {I : σ → Prop} {Φ : σ → Nat} {f g : σ → ε → Nat}
    (hI : ∀ s e s', I s → C s e → step s e = some s' → I s')
    (hstep : ∀ s e s', I s → C s e → step s e = some s' → Φ s' + f s e ≤ Φ s + g s e) :
    ∀ (es : List ε) (s s' : σ), I s → Along step C s es → run step s es = some s' →
      Φ s' + cost step f s es ≤ Φ s + cost step g s es
  | [], s, s', _, _, hr => by
    simp only [run, Option.some.injEq] at hr
    simp [cost, hr]
  | e :: es, s, s', hs, hC, hr => by
    simp only [run] at hr
    split at hr
    · rename_i t ht
      obtain ⟨hc, hC'⟩ := hC.cons ht
      have hfirst := hstep s e t hs hc ht
      have hrest := run_budget hI hstep es t s' (hI s e t hs hc ht) hC' hr
      simp only [cost, ht]
      omega
    · cases hr

/-- What the events bring by themselves is counted over the events. -/
theorem cost_countP (p : ε → Bool) :
    ∀ (es : List ε) (s s' : σ), run step s es = some s' →
      cost step (fun _ e => (p e).toNat) s es = es.countP p
  | [], _, _, _ => rfl
  | e :: es, s, s', hr => by
    simp only [run] at hr
    split at hr
    · rename_i t ht
      simp only [cost, ht, cost_countP p es t s' hr, List.countP_cons]
      cases p e <;> simp [Nat.add_comm]
    · cases hr

theorem cost_add (f g : σ → ε → Nat) :
    ∀ (es : List ε) (s : σ),
      cost step (fun s e => f s e + g s e) s es = cost step f s es + cost step g s es
  | [], _ => rfl
  | e :: es, s => by
    simp only [cost]
    cases step s e with
    | none =>
      dsimp only
      omega
    | some t =>
      have htail := cost_add f g es t
      dsimp only
      omega

theorem cost_zero : ∀ (es : List ε) (s : σ), cost step (fun _ _ => 0) s es = 0
  | [], _ => rfl
  | e :: es, s => by
    simp only [cost]
    cases step s e with
    | none => rfl
    | some t => exact (Nat.zero_add _).trans (cost_zero es t)

theorem cost_mul (n : Nat) (f : σ → ε → Nat) :
    ∀ (es : List ε) (s : σ), cost step (fun s e => n * f s e) s es = n * cost step f s es
  | [], _ => rfl
  | e :: es, s => by
    simp only [cost]
    cases step s e with
    | none => rfl
    | some t =>
      dsimp only
      rw [cost_mul n f es t, Nat.mul_add]

/-- Something in flight, and the rest. -/
theorem countP_eraseIdx {α : Type*} (p : α → Bool) {l : List α} {i : Nat} {a : α}
    (h : l[i]? = some a) : (l.eraseIdx i).countP p + (p a).toNat = l.countP p := by
  obtain ⟨hi, rfl⟩ := List.getElem?_eq_some_iff.mp h
  have hperm := (List.getElem_cons_eraseIdx_perm hi).countP_eq p
  rw [List.countP_cons] at hperm
  rw [← hperm]
  cases p l[i] <;> rfl

/-! ## Events that end -/

/-- **The descent rule**: there is no endless run of events under which `μ` comes down. -/
theorem no_endless_run {α : Type*} {r : α → α → Prop} (hr : WellFounded r) {I : σ → Prop}
    {D : ε → Prop} (μ : σ → α)
    (hstep : ∀ s e s', I s → D e → step s e = some s' → I s' ∧ r (μ s') (μ s)) (f : Nat → σ)
    (h0 : I (f 0)) : ¬ ∀ n, ∃ e, D e ∧ step (f n) e = some (f (n + 1)) := by
  have hall : ∀ a (f : Nat → σ), μ (f 0) = a → I (f 0) →
      ¬ ∀ n, ∃ e, D e ∧ step (f n) e = some (f (n + 1)) := by
    intro a
    induction a using hr.induction with
    | h a ih =>
      intro f hμ hI hrun
      obtain ⟨e, hD, hs⟩ := hrun 0
      obtain ⟨hI', hdown⟩ := hstep _ _ _ hI hD hs
      rw [hμ] at hdown
      exact ih _ hdown (fun n => f (n + 1)) rfl hI' fun n => hrun (n + 1)
  exact hall _ f rfl h0

end Lib.Machine
