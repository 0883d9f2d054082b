import SmartLocker.Gateway.SetupHandler

/-!
# The setup threads

`SetupHandler.handle` tests the flag `_is_running` in the thread of the MQTT client and starts a thread
for each command it accepts; the thread sets the flag in its first line and resets it in its `finally`.
The machine below has these as steps of their own.  One message is handled after another, as the client
calls back from one thread.
-/

set_option autoImplicit false

namespace SmartLocker.Gateway

open Lib Lib.Python

inductive SetupPhase where
  /-- `thread.start()` has been called -/
  | started
  /-- in the body of `_run_setup`, with the effects that are left of it -/
  | active (rest : List ServiceEffect)
  | ended

structure SetupThread where
  payload : Dict
  topicPrefix : PyStr
  phase : SetupPhase

def SetupThread.isActive (t : SetupThread) : Bool :=
  match t.phase with
  | .active _ => true
  | _ => false

/-- Accepted, and its run has not ended. -/
def SetupThread.isOpen (t : SetupThread) : Bool :=
  match t.phase with
  | .ended => false
  | _ => true

/-- A `SetupHandler` with the threads it has started. -/
structure SetupThreads where
  is_running : Bool
  /-- the command that `handle` has let past the test of the flag -/
  tested : Option (Dict × PyStr)
  threads : List SetupThread

namespace SetupThreads

def fresh : SetupThreads := ⟨false, none, []⟩

/-- Thread `i` goes on to `phase`. -/
def goTo (s : SetupThreads) (i : Nat) (t : SetupThread) (phase : SetupPhase) : SetupThreads :=
  { s with threads := s.threads.set i { t with phase := phase } }

end SetupThreads

inductive SetupEvent where
  /-- a message arrives: `if self._is_running` -/
  | arrive (payload : Dict) (topicPrefix : PyStr)
  /-- the rest of `handle` -/
  | accept (io : SetupOutside)
  /-- the first line of `_run_setup` in thread `i`, whose run gets `io` from outside -/
  | enter (i : Nat) (io : SetupOutside)
  /-- the next effect of the run in thread `i` -/
  | work (i : Nat)
  /-- the `finally` of the run in thread `i` -/
  | leave (i : Nat)

/-- One event; `none` when it cannot happen. -/
def setupThreadsStep (s : SetupThreads) : SetupEvent → Option SetupThreads
  | .arrive payload topicPrefix =>
    match s.tested with
    | some _ => none
    | none => if s.is_running then some s else some { s with tested := some (payload, topicPrefix) }
  | .accept io =>
    match s.tested with
    | none => none
    | some (payload, topicPrefix) =>
      match (handleSetup io payload topicPrefix).result with
      | .ok true =>
        some { s with tested := none, threads := s.threads ++ [⟨payload, topicPrefix, .started⟩] }
      | _ => some { s with tested := none }
  | .enter i io =>
    match s.threads[i]? with
    | some t =>
      match t.phase with
      | .started =>
        some { s.goTo i t (.active (runSetup io t.payload t.topicPrefix)) with is_running := true }
      | _ => none
    | none => none
  | .work i =>
    match s.threads[i]? with
    | some t =>
      match t.phase with
      | .active (_ :: rest) => some (s.goTo i t (.active rest))
      | _ => none
    | none => none
  | .leave i =>
    match s.threads[i]? with
    | some t =>
      match t.phase with
      | .active [] => some { s.goTo i t .ended with is_running := false }
      | _ => none
    | none => none

/-- The event starts a thread. -/
def accepts (s : SetupThreads) : SetupEvent → Bool
  | .accept io =>
    match s.tested with
    | some (payload, topicPrefix) =>
      match (handleSetup io payload topicPrefix).result with
      | .ok true => true
      | _ => false
    | none => false
  | _ => false

/-- **What a step does**: it starts a thread, moves one on, or leaves threads and flag alone. -/
theorem setupThreadsStep_cases {s s' : SetupThreads} {e : SetupEvent}
    (h : setupThreadsStep s e = some s') :
    (accepts s e = false ∧ s'.threads = s.threads ∧ s'.is_running = s.is_running) ∨
      (∃ p x, accepts s e = true ∧ s'.threads = s.threads ++ [⟨p, x, .started⟩] ∧
        s'.is_running = s.is_running) ∨
      accepts s e = false ∧ ∃ i t phase, s.threads[i]? = some t ∧
        s'.threads = s.threads.set i { t with phase := phase } ∧
        ((t.phase = .started ∧ (∃ rest, phase = .active rest) ∧ s'.is_running = true) ∨
          ((∃ e rest, t.phase = .active (e :: rest) ∧ phase = .active rest) ∧
            s'.is_running = s.is_running) ∨
          (t.phase = .active [] ∧ phase = .ended ∧ s'.is_running = false)) := by
  cases e with
  | arrive payload topicPrefix =>
    unfold setupThreadsStep at h
    dsimp only at h
    split at h
    · cases h
    split at h
    · cases h
      exact Or.inl ⟨rfl, rfl, rfl⟩
    · cases h
      exact Or.inl ⟨rfl, rfl, rfl⟩
  | accept io =>
    unfold setupThreadsStep at h
    dsimp only at h
    split at h
    · cases h
    rename_i p x htested
    split at h
    · rename_i hok
      cases h
      exact Or.inr (Or.inl ⟨p, x, by simp [accepts, htested, hok], rfl, rfl⟩)
    · rename_i hnot
      cases h
      refine Or.inl ⟨?_, rfl, rfl⟩
      simp only [accepts, htested]
  | enter i io =>
    unfold setupThreadsStep at h
    dsimp only at h
    split at h
    · rename_i t ht
      split at h
      · rename_i hphase
        cases h
        exact Or.inr (Or.inr ⟨rfl, i, t, _, ht, rfl, Or.inl ⟨hphase, ⟨_, rfl⟩, rfl⟩⟩)
      · cases h
    · cases h
  | work i =>
    unfold setupThreadsStep at h
    dsimp only at h
    split at h
    · rename_i t ht
      split at h
      · rename_i e rest hphase
        cases h
        exact Or.inr (Or.inr ⟨rfl, i, t, _, ht, rfl,
          Or.inr (Or.inl ⟨⟨e, rest, hphase, rfl⟩, rfl⟩)⟩)
      · cases h
    · cases h
  | leave i =>
    unfold setupThreadsStep at h
    dsimp only at h
    split at h
    · rename_i t ht
      split at h
      · rename_i hphase
        cases h
        exact Or.inr (Or.inr ⟨rfl, i, t, _, ht, rfl, Or.inr (Or.inr ⟨hphase, rfl, rfl⟩)⟩)
      · cases h
    · cases h

end SmartLocker.Gateway
