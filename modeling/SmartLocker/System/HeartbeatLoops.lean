import SmartLocker.Gateway.HeartbeatThreads
import SmartLocker.System.Confinement
import SmartLocker.Lib.Machine

/-!
# The heartbeat, whatever the threads do

* `heartbeat_attended` — in no order of the statements does the gateway believe that a heartbeat runs
  while no thread sends it, or is about to;
* `heartbeat_cadence` — a loop begins one round for each `interval` seconds, neither more nor less;
* `heartbeat_stops` — once stopped, a loop sends at most the rest of its round;
* `round_alone` — a round that nothing else comes between is one of `heartbeats`.
-/

set_option autoImplicit false

namespace SmartLocker.System

open Lib Lib.Machine Lib.Python SmartLocker.Gateway

variable {interval : Json} {s s' : HeartbeatThreads}

/-! ## What an event does to a loop -/

/-- A thread that runs. -/
def isAlive : LoopAt → Bool
  | .created => false
  | .ended => false
  | _ => true

theorem loop_spec {i : Nat} {out : Outside} (h : s.step interval (.loop i out) = some s') :
    ∃ l r, s.loops[i]? = some l ∧ s.loopStep interval out l = some r ∧
      s' = { s with loops := s.loops.set i r.1 } ∧ s.published interval (.loop i out) = r.2 := by
  obtain ⟨r, hr, rfl⟩ := Option.map_eq_some_iff.mp h
  obtain ⟨l, hl, hstep⟩ := Option.bind_eq_some_iff.mp hr
  refine ⟨l, r, hl, hstep, rfl, ?_⟩
  unfold HeartbeatThreads.published
  dsimp only
  rw [hr]

theorem caller_spec {n : Nat} (h : s.step interval (.caller n) = some s') :
    ∃ c r, s.callers[n]? = some c ∧ s.callerStep c = some r ∧
      s' = { r.2 with callers := s.callers.set n r.1 } := by
  obtain ⟨r, hr, rfl⟩ := Option.map_eq_some_iff.mp h
  obtain ⟨c, hc, hstep⟩ := Option.bind_eq_some_iff.mp hr
  exact ⟨c, r, hc, hstep, rfl⟩

theorem mem_set_of_ne {α : Type} {l : List α} {n : Nat} {x y z : α} (hx : x ∈ l) (hn : l[n]? = some y)
    (hne : y ≠ x) : x ∈ l.set n z := by
  obtain ⟨j, hj⟩ := List.getElem?_of_mem hx
  refine List.mem_of_getElem? (i := j) ?_
  rw [List.getElem?_set_ne, hj]
  rintro rfl
  rw [hn] at hj
  exact hne (Option.some.inj hj)

theorem getElem?_set_some {α : Type} {l : List α} {i : Nat} {x : α} (h : l[i]? = some x) (y : α) :
    (l.set i y)[i]? = some y :=
  List.getElem?_set_self (List.getElem?_eq_some_iff.mp h).1

/-! ## A heartbeat that runs -/

/-- A thread sends the heartbeat, or is about to be started. -/
def Attended (s : HeartbeatThreads) : Prop :=
  (∃ (i : Nat) (l : LoopAt), s.loops[i]? = some l ∧ isAlive l = true) ∨ .create ∈ s.callers ∨
    (.begin ∈ s.callers ∧ ∃ t : Nat, s.thread = some t ∧ s.loops[t]? = some .created)

/-- A call that goes on, when it is neither about to make a thread nor to start one. -/
theorem Attended.caller (h : Attended s) {n : Nat} {c : CallerAt} (hc : s.callers[n]? = some c)
    (hcreate : c ≠ .create) (hbegin : c ≠ .begin) (next : CallerAt) (service : HeartbeatService) :
    Attended { s with service := service, callers := s.callers.set n next } := by
  rcases h with halive | hcreated | ⟨hbegun, ht⟩
  · exact .inl halive
  · exact .inr (.inl (mem_set_of_ne hcreated hc hcreate))
  · exact .inr (.inr ⟨mem_set_of_ne hbegun hc hbegin, ht⟩)

/-- A heartbeat that runs is attended to. -/
def Kept (s : HeartbeatThreads) : Prop := s.service.running = true → Attended s

/-- A loop that goes on; it ends only where it finds that no heartbeat runs. -/
theorem kept_loop (hnumber : (index? interval).isSome = true) {i : Nat} {out : Outside}
    (hs : s.step interval (.loop i out) = some s') : Kept s' := by
  obtain ⟨l, r, hl, hstep, rfl, -⟩ := loop_spec hs
  intro hrunning
  dsimp only at hrunning
  have halive : isAlive r.1 = true := by
    cases l with
    | created => cases hstep
    | ended => cases hstep
    | test =>
      cases hstep
      rw [hrunning]
      rfl
    | collect =>
      cases hstep
      rfl
    | round rest =>
      cases rest with
      | nil =>
        cases hstep
        unfold HeartbeatThreads.pauseFor
        obtain ⟨n, hn⟩ := Option.isSome_iff_exists.mp hnumber
        rw [hn]
        rfl
      | cons cabinet rest =>
        unfold HeartbeatThreads.loopStep at hstep
        dsimp only at hstep
        split at hstep
        · cases hstep
          rfl
        · cases hstep
          rfl
    | pause left =>
      cases left with
      | zero =>
        cases hstep
        rfl
      | succ left =>
        cases hstep
        rw [hrunning]
        rfl
  exact Or.inl ⟨i, r.1, getElem?_set_some hl r.1, halive⟩

/-- `self._thread.start()` leaves a thread that runs, if one was to be started. -/
theorem beginThread_attended (h : Attended s) {n : Nat} (hn : s.callers[n]? = some .begin) :
    Attended { s.beginThread with callers := s.callers.set n .done } := by
  unfold HeartbeatThreads.beginThread
  cases hthread : s.thread with
  | none =>
    rcases h with halive | hcreate | ⟨-, t, ht, -⟩
    · exact Or.inl halive
    · exact Or.inr (.inl (mem_set_of_ne hcreate hn CallerAt.noConfusion))
    · rw [hthread] at ht
      cases ht
  | some t =>
    dsimp only
    split
    · rename_i hcreated
      exact Or.inl ⟨t, .test, getElem?_set_some hcreated _, rfl⟩
    · rename_i hother
      rcases h with halive | hcreate | ⟨-, t', ht, hcreated⟩
      · exact Or.inl halive
      · exact Or.inr (.inl (mem_set_of_ne hcreate hn CallerAt.noConfusion))
      · rw [hthread] at ht
        cases ht
        exact absurd hcreated hother

/-- **One event.** -/
theorem kept_step (hnumber : (index? interval).isSome = true) {e : ThreadEvent} (h : Kept s)
    (hs : s.step interval e = some s') : Kept s' := by
  cases e with
  | other e =>
    cases hs
    intro hrunning
    refine h ?_
    cases e <;> exact hrunning
  | start =>
    cases hs
    intro hrunning
    rcases h hrunning with halive | hcreate | ⟨hbegin, ht⟩
    · exact Or.inl halive
    · exact Or.inr (.inl (List.mem_append_left _ hcreate))
    · exact Or.inr (.inr ⟨List.mem_append_left _ hbegin, ht⟩)
  | stop =>
    cases hs
    intro hrunning
    rcases h hrunning with halive | hcreate | ⟨hbegin, ht⟩
    · exact Or.inl halive
    · exact Or.inr (.inl (List.mem_append_left _ hcreate))
    · exact Or.inr (.inr ⟨List.mem_append_left _ hbegin, ht⟩)
  | caller n =>
    obtain ⟨c, r, hc, hstep, rfl⟩ := caller_spec hs
    intro hrunning
    have hn := (List.getElem?_eq_some_iff.mp hc).1
    cases c with
    | done => cases hstep
    | isConfigured =>
      cases hstep
      exact (h hrunning).caller hc CallerAt.noConfusion CallerAt.noConfusion _ s.service
    | isRunning =>
      cases hstep
      exact (h hrunning).caller hc CallerAt.noConfusion CallerAt.noConfusion _ s.service
    | setRunning =>
      cases hstep
      exact Or.inr (.inl (List.mem_set hn _))
    | create =>
      cases hstep
      refine Or.inr (.inr ⟨List.mem_set hn _, s.loops.length, rfl, ?_⟩)
      exact List.getElem?_concat_length
    | begin =>
      cases hstep
      refine beginThread_attended (h ?_) hc
      have hservice : s.beginThread.service = s.service := by
        unfold HeartbeatThreads.beginThread
        split
        · rfl
        · split <;> rfl
      rw [← hservice]
      exact hrunning
    | clear =>
      cases hstep
      cases hrunning
  | loop i out => exact kept_loop hnumber hs

/-- **No heartbeat is lost**: in every state that any order of the statements of any calls and loops
leads to, while `_running` is set a thread sends heartbeats, or a call is just about to start one. -/
theorem heartbeat_attended (interval : Json) (hnumber : (index? interval).isSome = true)
    (es : List ThreadEvent) (s : HeartbeatThreads)
    (hrun : run (HeartbeatThreads.step interval) .initial es = some s) :
    s.service.running = true → Attended s := by
  have hinitial : Kept .initial := fun hrunning => by cases hrunning
  exact run_invariant (C := fun _ _ => True) (fun _ _ _ h _ hs => kept_step hnumber h hs) es .initial s
    hinitial (along_of_forall (fun _ _ => trivial) es _) hrun

/-- A location with one cabinet. -/
def oneCabinet : List ThreadEvent :=
  [.other (.saveLocation (.lit "loc-1") (.lit "L") (.lit "")),
    .other (.saveCabinet { cabinet_id := .lit "id-1", name := .lit "A" })]

/-- Two calls of `start` that both find no heartbeat; the thread of the second one is started. -/
def startedTwice : List ThreadEvent :=
  oneCabinet ++ [.start, .start, .caller 0, .caller 1, .caller 0, .caller 1, .caller 0, .caller 0,
    .caller 1, .caller 1, .caller 0, .caller 1]

/-- `heartbeat_attended` after two calls at once. -/
theorem heartbeat_attended_twice :
    ∃ s, run (HeartbeatThreads.step (.int 60)) .initial startedTwice = some s ∧ s.service.running = true ∧
      s.loops = [.created, .test] ∧ Attended s :=
  ⟨_, rfl, rfl, rfl, heartbeat_attended (.int 60) rfl startedTwice _ rfl rfl⟩

/-! ## What a loop is charged -/

/-- What a call does to the loops. -/
theorem caller_loops {c : CallerAt} {r : CallerAt × HeartbeatThreads} (h : s.callerStep c = some r) :
    r.2.loops = s.loops ∨ r.2.loops = s.loops ++ [.created] ∨
      ∃ t : Nat, s.loops[t]? = some .created ∧ r.2.loops = s.loops.set t .test := by
  cases c with
  | isConfigured => cases h; exact .inl rfl
  | isRunning => cases h; exact .inl rfl
  | setRunning => cases h; exact .inl rfl
  | clear => cases h; exact .inl rfl
  | done => cases h
  | create => cases h; exact .inr (.inl rfl)
  | begin =>
    cases h
    dsimp only
    unfold HeartbeatThreads.beginThread
    split
    · exact .inl rfl
    · rename_i t _
      split
      · rename_i ht
        exact .inr (.inr ⟨t, ht, rfl⟩)
      · exact .inl rfl

/-- Where loop `i` is; one that is still to be made is as good as made. -/
def loopAt (i : Nat) (s : HeartbeatThreads) : LoopAt := s.loops[i]?.getD .created

/-- What `f` counts of the statements of loop `i`. -/
def onLoop (i : Nat) (f : HeartbeatThreads → Outside → LoopAt → Nat) (s : HeartbeatThreads) :
    ThreadEvent → Nat
  | .loop j out => if j = i then f s out (loopAt i s) else 0
  | _ => 0

theorem onLoop_zero (i : Nat) : (onLoop i fun _ _ _ => 0) = fun _ _ => 0 := by
  funext s e
  cases e with
  | loop j out => exact ite_self 0
  | other e => rfl
  | start => rfl
  | stop => rfl
  | caller n => rfl

theorem onLoop_mul (n i : Nat) (f : HeartbeatThreads → Outside → LoopAt → Nat) :
    onLoop i (fun s out l => n * f s out l) = fun s e => n * onLoop i f s e := by
  funext s e
  cases e with
  | loop j out =>
    unfold onLoop
    dsimp only
    split
    · rfl
    · rfl
  | other e => rfl
  | start => rfl
  | stop => rfl
  | caller n => rfl

/-- In states with `C`, what `f` counts of a loop and what it adds to `Φ` is paid for by what `g`
counts. -/
structure Charged (interval : Json) (C : HeartbeatThreads → Prop) (Φ : LoopAt → Nat)
    (f g : HeartbeatThreads → Outside → LoopAt → Nat) : Prop where
  begins : Φ .test = Φ .created
  step : ∀ {s : HeartbeatThreads} {out : Outside} {l : LoopAt} {r : LoopAt × List ServiceEffect}, C s →
    s.loopStep interval out l = some r → Φ r.1 + f s out l ≤ Φ l + g s out l

namespace Charged

variable {C : HeartbeatThreads → Prop} {Φ : LoopAt → Nat}
  {f g : HeartbeatThreads → Outside → LoopAt → Nat}

/-- A call leaves a loop where it is, or starts it. -/
theorem caller (h : Charged interval C Φ f g) (i : Nat) {n : Nat}
    (hs : s.step interval (.caller n) = some s') : Φ (loopAt i s') = Φ (loopAt i s) := by
  obtain ⟨c, r, -, hstep, rfl⟩ := caller_spec hs
  unfold loopAt
  dsimp only
  rcases caller_loops hstep with hsame | hmade | ⟨t, ht, hbegun⟩
  · rw [hsame]
  · rw [hmade, List.getElem?_append]
    split
    · rfl
    · rename_i hi
      rw [List.getElem?_eq_none (Nat.le_of_not_lt hi)]
      cases hj : i - s.loops.length with
      | zero => rfl
      | succ j => rfl
  · rw [hbegun]
    by_cases hit : t = i
    · subst hit
      rw [getElem?_set_some ht, ht]
      exact h.begins
    · rw [List.getElem?_set_ne hit]

/-- **One event** is paid for. -/
theorem one (h : Charged interval C Φ f g) (i : Nat) {e : ThreadEvent} (hC : C s)
    (hs : s.step interval e = some s') :
    Φ (loopAt i s') + onLoop i f s e ≤ Φ (loopAt i s) + onLoop i g s e := by
  cases e with
  | other e =>
    cases hs
    exact le_rfl
  | start =>
    cases hs
    exact le_rfl
  | stop =>
    cases hs
    exact le_rfl
  | caller n => exact (h.caller i hs).le
  | loop j out =>
    obtain ⟨l, r, hl, hstep, rfl, -⟩ := loop_spec hs
    unfold onLoop
    dsimp only
    by_cases hj : j = i
    · subst hj
      have hat : loopAt j s = l := by
        unfold loopAt
        rw [hl]
        rfl
      have hat' : loopAt j { s with loops := s.loops.set j r.1 } = r.1 := by
        unfold loopAt
        dsimp only
        rw [getElem?_set_some hl]
        rfl
      rw [if_pos rfl, if_pos rfl, hat, hat']
      exact h.step hC hstep
    · have hat' : loopAt i { s with loops := s.loops.set j r.1 } = loopAt i s := by
        unfold loopAt
        dsimp only
        rw [List.getElem?_set_ne hj]
      rw [if_neg hj, if_neg hj, hat']

/-- **A run** is paid for. -/
theorem runs (h : Charged interval C Φ f g) (i : Nat) {es : List ThreadEvent}
    (hC : Along (HeartbeatThreads.step interval) (fun s _ => C s) s es)
    (hrun : run (HeartbeatThreads.step interval) s es = some s') :
    Φ (loopAt i s') + cost (HeartbeatThreads.step interval) (onLoop i f) s es ≤
      Φ (loopAt i s) + cost (HeartbeatThreads.step interval) (onLoop i g) s es :=
  run_budget (I := fun _ => True) (Φ := fun s => Φ (loopAt i s)) (fun _ _ _ _ _ _ => trivial)
    (fun _ _ _ _ hC hs => h.one i hC hs) es s s' trivial hC hrun

end Charged

/-! ## The pace of a loop -/

/-- `self.interval` in seconds, as `range` takes it. -/
def intervalSeconds (interval : Json) : Nat := ((index? interval).getD 0).toNat

theorem pauseFor_cases (interval : Json) :
    HeartbeatThreads.pauseFor interval = .pause (intervalSeconds interval) ∨
      HeartbeatThreads.pauseFor interval = .ended := by
  unfold HeartbeatThreads.pauseFor intervalSeconds
  cases index? interval with
  | none => exact .inr rfl
  | some n => exact .inl rfl

/-- A round begins. -/
def roundBegins : HeartbeatThreads → Outside → LoopAt → Nat
  | _, _, .collect => 1
  | _, _, _ => 0

/-- A second of a pause goes by. -/
def secondPasses : HeartbeatThreads → Outside → LoopAt → Nat
  | s, _, .pause (_ + 1) => s.service.running.toNat
  | _, _, _ => 0

/-- The seconds that a loop still sleeps for the rounds it has begun. -/
def secondsAhead (n : Nat) : LoopAt → Nat
  | .round _ => n
  | .pause left => left
  | _ => 0

/-- The seconds that a loop has slept since it began its last round, as many as there are between
two. -/
def secondsSince (n : Nat) : LoopAt → Nat
  | .round _ => 0
  | .pause left => n - left
  | .ended => 0
  | _ => n

/-- The next place in a round. -/
theorem round_next {rest : List Dict} {out : Outside} {r : LoopAt × List ServiceEffect}
    (h : s.loopStep interval out (.round rest) = some r) :
    (∃ left, r.1 = .round left ∧ left.length + 1 ≤ rest.length) ∨
      (rest = [] ∧ r.1 = HeartbeatThreads.pauseFor interval) := by
  cases rest with
  | nil =>
    cases h
    exact .inr ⟨rfl, rfl⟩
  | cons cabinet rest =>
    unfold HeartbeatThreads.loopStep at h
    dsimp only at h
    split at h
    · cases h
      exact .inl ⟨rest, rfl, le_rfl⟩
    · cases h
      exact .inl ⟨[], rfl, Nat.succ_le_succ (Nat.zero_le _)⟩

/-- Each second slept is one that a round has begun. -/
theorem seconds_charged (interval : Json) :
    Charged interval (fun _ => True) (secondsAhead (intervalSeconds interval)) secondPasses
      fun s out l => intervalSeconds interval * roundBegins s out l := by
  refine ⟨rfl, fun {s out l r} _ h => ?_⟩
  cases l with
  | created => cases h
  | ended => cases h
  | test =>
    cases h
    cases s.service.running <;> exact Nat.zero_le _
  | collect =>
    cases h
    simp only [secondsAhead, secondPasses, roundBegins]
    omega
  | round rest =>
    rcases round_next h with ⟨left, hr, -⟩ | ⟨-, hr⟩
    · rw [hr]
      exact Nat.le_add_right _ _
    · rw [hr]
      rcases pauseFor_cases interval with hp | hp
      · rw [hp]
        exact Nat.le_add_right _ _
      · rw [hp]
        exact Nat.zero_le _
  | pause left =>
    cases left with
    | zero =>
      cases h
      exact Nat.zero_le _
    | succ left =>
      cases h
      cases hrunning : s.service.running with
      | false =>
        simp only [secondPasses, hrunning]
        exact Nat.zero_le _
      | true =>
        simp only [secondsAhead, secondPasses, hrunning]
        exact Nat.le_add_right _ _

/-- Each round begins after the seconds of the one before. -/
theorem rounds_charged (interval : Json) :
    Charged interval (fun _ => True) (secondsSince (intervalSeconds interval))
      (fun s out l => intervalSeconds interval * roundBegins s out l) secondPasses := by
  refine ⟨rfl, fun {s out l r} _ h => ?_⟩
  cases l with
  | created => cases h
  | ended => cases h
  | test =>
    cases h
    cases s.service.running with
    | false => exact Nat.zero_le _
    | true => exact le_rfl
  | collect =>
    cases h
    simp only [secondsSince, secondPasses, roundBegins]
    omega
  | round rest =>
    rcases round_next h with ⟨left, hr, -⟩ | ⟨-, hr⟩
    · rw [hr]
      exact Nat.zero_le _
    · rw [hr]
      rcases pauseFor_cases interval with hp | hp
      · rw [hp]
        simp only [secondsSince, roundBegins]
        omega
      · rw [hp]
        exact Nat.zero_le _
  | pause left =>
    cases left with
    | zero =>
      cases h
      exact le_rfl
    | succ left =>
      cases h
      cases hrunning : s.service.running with
      | false =>
        simp only [hrunning, secondsSince, secondPasses, roundBegins]
        exact Nat.zero_le _
      | true =>
        simp only [hrunning, if_true, Bool.toNat_true, secondsSince, secondPasses, roundBegins]
        omega

/-- **The pace of the heartbeat**: whatever the other threads do, over any run a loop has slept no
longer than `interval` seconds for each round that it has begun, and no shorter for each but the
last. -/
theorem heartbeat_cadence (interval : Json) (i : Nat) (es : List ThreadEvent) (s : HeartbeatThreads)
    (hrun : run (HeartbeatThreads.step interval) .initial es = some s) :
    let rounds := cost (HeartbeatThreads.step interval) (onLoop i roundBegins) .initial es
    let slept := cost (HeartbeatThreads.step interval) (onLoop i secondPasses) .initial es
    slept ≤ intervalSeconds interval * rounds ∧ intervalSeconds interval * (rounds - 1) ≤ slept := by
  have halong : Along (HeartbeatThreads.step interval) (fun _ _ => True) .initial es :=
    along_of_forall (fun _ _ => trivial) es _
  have hseconds := (seconds_charged interval).runs i halong hrun
  have hrounds := (rounds_charged interval).runs i halong hrun
  rw [onLoop_mul, cost_mul] at hseconds hrounds
  have hfirst : secondsAhead (intervalSeconds interval) (loopAt i .initial) = 0 := rfl
  have hfirst' : secondsSince (intervalSeconds interval) (loopAt i .initial) = intervalSeconds interval :=
    rfl
  dsimp only
  rw [Nat.mul_sub_one]
  omega

/-- A heartbeat in its second round. -/
def secondRound : List ThreadEvent :=
  oneCabinet ++ [.start, .caller 0, .caller 0, .caller 0, .caller 0, .caller 0] ++
    List.replicate 9 (.loop 0 sampleOutside)

/-- `heartbeat_cadence` with two seconds between two rounds. -/
theorem heartbeat_cadence_two :
    ∃ s, run (HeartbeatThreads.step (.int 2)) .initial secondRound = some s ∧
      (let rounds := cost (HeartbeatThreads.step (.int 2)) (onLoop 0 roundBegins) .initial secondRound
      let slept := cost (HeartbeatThreads.step (.int 2)) (onLoop 0 secondPasses) .initial secondRound
      rounds = 2 ∧ slept = 2 ∧
        (slept ≤ intervalSeconds (.int 2) * rounds ∧ intervalSeconds (.int 2) * (rounds - 1) ≤ slept)) :=
  ⟨_, rfl, rfl, rfl, heartbeat_cadence (.int 2) 0 secondRound _ rfl⟩

/-! ## A heartbeat that is stopped -/

theorem ofExcept_bind_length {α β : Type} {n : Nat} (r : Except PyErr α) {f : α → Py ServiceEffect β}
    (h : ∀ a, (f a).effects.length ≤ n) : (Py.ofExcept r >>= f).effects.length ≤ n := by
  cases r with
  | error e => exact Nat.zero_le n
  | ok a =>
    rw [Py.ofExcept_ok_bind]
    exact h a

/-- A heartbeat is at most one message. -/
theorem publishSingleHeartbeat_effects (out : Outside) (st : CabinetState) (hb : HeartbeatService)
    (cabinet : Dict) : (publishSingleHeartbeat out st hb cabinet).effects.length ≤ 1 := by
  refine ofExcept_bind_length _ fun cabinet_id => ?_
  refine ofExcept_bind_length _ fun cabinet_name => ?_
  refine ofExcept_bind_length _ fun lockers => ?_
  exact ofExcept_bind_length _ fun _ => le_rfl

/-- The messages of a statement. -/
def messages (interval : Json) (s : HeartbeatThreads) (out : Outside) (l : LoopAt) : Nat :=
  ((s.loopStep interval out l).elim [] Prod.snd).length

/-- The cabinets that are left of a round; there are at most `c`. -/
def cabinetsLeft (c : Nat) : LoopAt → Nat
  | .collect => c
  | .round rest => rest.length
  | _ => 0

/-- The statements that a loop still takes, none of which makes it send again. -/
def statementsLeft (c : Nat) : LoopAt → Nat
  | .created => 1
  | .test => 1
  | .collect => c + 4
  | .round rest => rest.length + 3
  | .pause _ => 2
  | .ended => 0

/-- No heartbeat is wanted, and there are at most `c` cabinets. -/
def Stopped (c : Nat) (s : HeartbeatThreads) : Prop :=
  s.service.running = false ∧ s.state.allCabinets.length ≤ c

theorem messages_charged (interval : Json) (c : Nat) :
    Charged interval (Stopped c) (cabinetsLeft c) (messages interval) fun _ _ _ => 0 := by
  refine ⟨rfl, fun {s out l r} hC h => ?_⟩
  unfold messages
  rw [h]
  cases l with
  | created => cases h
  | ended => cases h
  | test =>
    cases h
    rw [hC.1]
    exact le_rfl
  | collect =>
    cases h
    exact hC.2
  | round rest =>
    cases rest with
    | nil =>
      cases h
      rcases pauseFor_cases interval with hp | hp
      · rw [hp]
        exact le_rfl
      · rw [hp]
        exact le_rfl
    | cons cabinet rest =>
      have hone := publishSingleHeartbeat_effects out s.state s.service cabinet
      unfold HeartbeatThreads.loopStep at h
      dsimp only at h
      split at h
      · cases h
        exact Nat.add_le_add_left hone _
      · cases h
        simp only [cabinetsLeft, List.length_nil, List.length_cons, Option.elim_some]
        omega
  | pause left =>
    cases left with
    | zero =>
      cases h
      exact le_rfl
    | succ left =>
      cases h
      rw [hC.1]
      exact le_rfl

theorem statements_charged (interval : Json) (c : Nat) :
    Charged interval (Stopped c) (statementsLeft c) (fun _ _ _ => 1) fun _ _ _ => 0 := by
  refine ⟨rfl, fun {s out l r} hC h => ?_⟩
  cases l with
  | created => cases h
  | ended => cases h
  | test =>
    cases h
    rw [hC.1]
    exact le_rfl
  | collect =>
    cases h
    have hcabinets := hC.2
    simp only [statementsLeft]
    omega
  | round rest =>
    rcases round_next h with ⟨left, hr, hleft⟩ | ⟨hrest, hr⟩
    · rw [hr]
      simp only [statementsLeft]
      omega
    · rw [hr, hrest]
      rcases pauseFor_cases interval with hp | hp
      · rw [hp]
        exact le_rfl
      · rw [hp]
        simp only [statementsLeft]
        omega
  | pause left =>
    cases left with
    | zero =>
      cases h
      exact le_rfl
    | succ left =>
      cases h
      rw [hC.1]
      exact Nat.succ_le_succ (Nat.zero_le 1)

/-- **A heartbeat that is stopped ends**: along any run in which no heartbeat is wanted, whatever the
other threads do, a loop sends at most the rest of the round it is in, and comes to its end after
that. -/
theorem heartbeat_stops (interval : Json) (c i : Nat) (es : List ThreadEvent) (s s' : HeartbeatThreads)
    (hstopped : Along (HeartbeatThreads.step interval) (fun s _ => Stopped c s) s es)
    (hrun : run (HeartbeatThreads.step interval) s es = some s') :
    cost (HeartbeatThreads.step interval) (onLoop i (messages interval)) s es ≤
        cabinetsLeft c (loopAt i s) ∧
      cost (HeartbeatThreads.step interval) (onLoop i fun _ _ _ => 1) s es ≤
        statementsLeft c (loopAt i s) := by
  have hmessages := (messages_charged interval c).runs i hstopped hrun
  have hstatements := (statements_charged interval c).runs i hstopped hrun
  rw [onLoop_zero, cost_zero] at hmessages hstatements
  omega

/-- The rest of the round, and the end. -/
def lastStatements : List ThreadEvent := List.replicate 3 (.loop 0 sampleOutside)

/-- `heartbeat_stops` in the middle of a round. -/
theorem heartbeat_stops_midway :
    ∃ s s', run (HeartbeatThreads.step (.int 2)) .initial (secondRound ++ [.stop, .caller 1]) = some s ∧
      run (HeartbeatThreads.step (.int 2)) s lastStatements = some s' ∧ s'.loops = [.ended] ∧
      cost (HeartbeatThreads.step (.int 2)) (onLoop 0 (messages (.int 2))) s lastStatements ≤ 1 ∧
      cost (HeartbeatThreads.step (.int 2)) (onLoop 0 fun _ _ _ => 1) s lastStatements ≤ 4 := by
  refine ⟨_, _, rfl, rfl, rfl, ?_⟩
  refine heartbeat_stops (.int 2) 1 0 lastStatements _ _ ?_ rfl
  exact ⟨⟨rfl, le_rfl⟩, ⟨rfl, le_rfl⟩, ⟨rfl, le_rfl⟩, trivial⟩

/-! ## A round -/

/-- What is published along a run. -/
def sent (interval : Json) : HeartbeatThreads → List ThreadEvent → List ServiceEffect
  | _, [] => []
  | s, e :: es =>
    s.published interval e ++
      match s.step interval e with
      | some s' => sent interval s' es
      | none => []

theorem loop_step {i : Nat} {out : Outside} {l : LoopAt} {r : LoopAt × List ServiceEffect}
    (hl : s.loops[i]? = some l) (h : s.loopStep interval out l = some r) :
    s.step interval (.loop i out) = some { s with loops := s.loops.set i r.1 } ∧
      s.published interval (.loop i out) = r.2 := by
  have hbind : s.loops[i]?.bind (s.loopStep interval out) = some r := by
    rw [hl]
    exact h
  have hstep : s.step interval (.loop i out) = some { s with loops := s.loops.set i r.1 } := by
    unfold HeartbeatThreads.step
    dsimp only
    rw [hbind]
    rfl
  obtain ⟨l', r', hl', hr', -, hpublished⟩ := loop_spec hstep
  rw [hl] at hl'
  cases hl'
  rw [h] at hr'
  cases hr'
  exact ⟨hstep, hpublished⟩

/-- The rest of a round. -/
theorem round_rest (interval : Json) (out : Outside) (i : Nat) :
    ∀ (rest : List Dict) (s : HeartbeatThreads), s.loops[i]? = some (.round rest) →
      ∃ m, run (HeartbeatThreads.step interval) s (List.replicate m (.loop i out)) =
          some { s with loops := s.loops.set i (.round []) } ∧
        sent interval s (List.replicate m (.loop i out)) =
          (publishHeartbeats out s.state s.service rest).effects
  | [], s, hl => by
    refine ⟨0, ?_, rfl⟩
    have hsame : s.loops.set i (.round []) = s.loops := by
      obtain ⟨hi, hget⟩ := List.getElem?_eq_some_iff.mp hl
      rw [← hget]
      exact List.set_getElem_self hi
    rw [hsame]
    rfl
  | cabinet :: rest, s, hl => by
    unfold publishHeartbeats
    cases hresult : (publishSingleHeartbeat out s.state s.service cabinet).result with
    | error e =>
      have hnext : s.loopStep interval out (.round (cabinet :: rest)) =
          some (.round [], (publishSingleHeartbeat out s.state s.service cabinet).effects) := by
        unfold HeartbeatThreads.loopStep
        dsimp only
        rw [hresult]
      obtain ⟨hstep, hpublished⟩ := loop_step hl hnext
      refine ⟨1, ?_, ?_⟩
      · simp only [List.replicate_one, run, hstep]
      · simp only [List.replicate_one, sent, hstep, hpublished, List.append_nil]
        rw [Py.bind_error hresult]
    | ok u =>
      have hnext : s.loopStep interval out (.round (cabinet :: rest)) =
          some (.round rest, (publishSingleHeartbeat out s.state s.service cabinet).effects) := by
        unfold HeartbeatThreads.loopStep
        dsimp only
        rw [hresult]
      obtain ⟨hstep, hpublished⟩ := loop_step hl hnext
      obtain ⟨m, hrun, hsent⟩ := round_rest interval out i rest
        { s with loops := s.loops.set i (.round rest) } (getElem?_set_some hl _)
      refine ⟨m + 1, ?_, ?_⟩
      · simp only [List.replicate_succ, run, hstep]
        rw [hrun, List.set_set]
      · simp only [List.replicate_succ, sent, hstep, hpublished]
        rw [hsent, Py.bind_ok hresult]

/-- **A round** that no other thread comes between publishes what `heartbeats` does. -/
theorem round_alone (interval : Json) (out : Outside) (i : Nat) (s : HeartbeatThreads)
    (hl : s.loops[i]? = some .collect) (hrunning : s.service.running = true) :
    ∃ m, run (HeartbeatThreads.step interval) s (List.replicate m (.loop i out)) =
        some { s with loops := s.loops.set i (.round []) } ∧
      sent interval s (List.replicate m (.loop i out)) = heartbeats out s.state s.service := by
  have hnext : s.loopStep interval out .collect = some (.round s.state.allCabinets, []) := rfl
  obtain ⟨hstep, hpublished⟩ := loop_step hl hnext
  obtain ⟨m, hrun, hsent⟩ := round_rest interval out i s.state.allCabinets
    { s with loops := s.loops.set i (.round s.state.allCabinets) } (getElem?_set_some hl _)
  refine ⟨m + 1, ?_, ?_⟩
  · simp only [List.replicate_succ, run, hstep]
    rw [hrun, List.set_set]
  · simp only [List.replicate_succ, sent, hstep, hpublished]
    unfold heartbeats
    rw [hsent, if_pos hrunning]
    rfl

end SmartLocker.System
