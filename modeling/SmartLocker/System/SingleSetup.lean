import SmartLocker.Lib.Machine
import SmartLocker.Gateway.SetupThreads
import SmartLocker.System.Routing

/-!
# One setup at a time

`handle` refuses a command while `_is_running` is set, but the flag is set by the thread that `handle`
starts.  `single_setup` says what is left of "at most one setup": the flag covers every accepted command
only when no command is accepted at all, and runs do not overlap when no command is accepted before the
earlier ones have ended.
-/

set_option autoImplicit false

namespace SmartLocker.System

open Lib Lib.Machine Lib.Python SmartLocker.Gateway

/-! ## The guarantee -/

/-- No two bodies of `_run_setup` are active. -/
def OneActive (s : SetupThreads) : Prop :=
  ∀ (i j : Nat) (t u : SetupThread), s.threads[i]? = some t → s.threads[j]? = some u →
    t.isActive = true → u.isActive = true → i = j

/-- `is_running` from the acceptance of a command to the end of its run. -/
def FlagCovers (s : SetupThreads) : Prop := ∀ t ∈ s.threads, t.isOpen = true → s.is_running = true

/-- `is_running` while a run is active. -/
def FlagOnRuns (s : SetupThreads) : Prop := ∀ t ∈ s.threads, t.isActive = true → s.is_running = true

/-- The event accepts no command. -/
def NoAcceptance (s : SetupThreads) (e : SetupEvent) : Prop := accepts s e = false

/-- A command is accepted only when the runs of the earlier ones have ended. -/
def AcceptsAlone (s : SetupThreads) (e : SetupEvent) : Prop :=
  accepts s e = true → ∀ t ∈ s.threads, t.isOpen = false

instance (s : SetupThreads) (e : SetupEvent) : Decidable (AcceptsAlone s e) :=
  inferInstanceAs (Decidable (_ → ∀ t ∈ s.threads, _))

/-! ## Up to the first command -/

/-- Nothing has been accepted. -/
def Untouched (s : SetupThreads) : Prop := s.threads = [] ∧ s.is_running = false

theorem Untouched.covers {s : SetupThreads} (h : Untouched s) : OneActive s ∧ FlagCovers s := by
  constructor
  · intro i j t u ht
    rw [h.1] at ht
    cases ht
  · intro t ht
    rw [h.1] at ht
    cases ht

theorem accepts_enabled {s : SetupThreads} {e : SetupEvent} (h : setupThreadsStep s e = none) :
    NoAcceptance s e := by
  unfold NoAcceptance
  cases e with
  | accept io =>
    unfold setupThreadsStep at h
    unfold accepts
    dsimp only at h ⊢
    split
    · rename_i htested
      rw [htested] at h
      dsimp only at h
      split at h <;> cases h
    · rfl
  | _ => rfl

/-- **One step before any command**: it accepts none, or leaves a command that no flag covers. -/
theorem Untouched.step {s s' : SetupThreads} {e : SetupEvent} (h : Untouched s)
    (hs : setupThreadsStep s e = some s') :
    (NoAcceptance s e ∧ Untouched s') ∨ (¬ NoAcceptance s e ∧ ¬ FlagCovers s') := by
  obtain ⟨hthreads, hflag⟩ := h
  rcases setupThreadsStep_cases hs with ⟨hno, ht, hf⟩ | ⟨p, x, hyes, ht, hf⟩ | ⟨-, i, t, phase, hi, -⟩
  · exact Or.inl ⟨hno, ht.trans hthreads, hf.trans hflag⟩
  · -- the started thread is open, and the flag is still down
    refine Or.inr ⟨fun hno => ?_, fun hcovers => ?_⟩
    · rw [NoAcceptance, hyes] at hno
      cases hno
    · have hrunning := hcovers ⟨p, x, .started⟩ (by simp [ht]) rfl
      rw [hf, hflag] at hrunning
      cases hrunning
  · rw [hthreads] at hi
    cases hi

theorem covered_iff {s : SetupThreads} (h : Untouched s) (es : List SetupEvent) :
    EveryState setupThreadsStep (fun s => OneActive s ∧ FlagCovers s) s es ↔
      Along setupThreadsStep NoAcceptance s es := by
  induction es generalizing s with
  | nil => exact iff_of_true h.covers trivial
  | cons e es ih =>
    cases hs : setupThreadsStep s e with
    | none =>
      rw [everyState_stuck hs]
      simp only [Along, hs, and_true]
      exact iff_of_true h.covers (accepts_enabled hs)
    | some s' =>
      rw [everyState_cons hs]
      simp only [Along, hs]
      rcases h.step hs with ⟨hno, hnext⟩ | ⟨hyes, hbad⟩
      · rw [ih hnext]
        exact and_congr_left fun _ => iff_of_true h.covers hno
      · exact iff_of_false (fun hall => hbad hall.2.head.2) (fun hall => hyes hall.1)

/-! ## One command at a time -/

/-- At most one command is open, and the flag is set exactly while its run is active. -/
structure OneOpen (s : SetupThreads) : Prop where
  alone : ∀ (i j : Nat) (t u : SetupThread), s.threads[i]? = some t → s.threads[j]? = some u →
    t.isOpen = true → u.isOpen = true → i = j
  flag : s.is_running = true ↔ ∃ (i : Nat) (t : SetupThread), s.threads[i]? = some t ∧ t.isActive = true

theorem SetupThread.isOpen_of_active {t : SetupThread} (h : t.isActive = true) : t.isOpen = true := by
  cases t with
  | mk payload topicPrefix phase =>
    cases phase with
    | ended => cases h
    | _ => rfl

theorem OneOpen.safe {s : SetupThreads} (h : OneOpen s) : OneActive s ∧ FlagOnRuns s := by
  constructor
  · intro i j t u ht hu hta hua
    exact h.alone i j t u ht hu (SetupThread.isOpen_of_active hta) (SetupThread.isOpen_of_active hua)
  · intro t ht hta
    obtain ⟨i, hi⟩ := List.mem_iff_getElem?.mp ht
    exact h.flag.mpr ⟨i, t, hi, hta⟩

/-- A thread that is started when all others have ended. -/
theorem OneOpen.append {s s' : SetupThreads} (h : OneOpen s)
    (hended : ∀ t ∈ s.threads, t.isOpen = false) {t₀ : SetupThread} (hactive : t₀.isActive = false)
    (hthreads : s'.threads = s.threads ++ [t₀]) (hflag : s'.is_running = s.is_running) :
    OneOpen s' := by
  have hlast : ∀ (i : Nat) (t : SetupThread), s'.threads[i]? = some t → t.isOpen = true →
      i = s.threads.length := by
    intro i t ht hopen
    rw [hthreads, List.getElem?_append] at ht
    split at ht
    · rw [hended t (List.mem_of_getElem? ht)] at hopen
      cases hopen
    · have hi := (List.getElem?_eq_some_iff.mp ht).1
      simp only [List.length_singleton] at hi
      omega
  constructor
  · intro i j t u ht hu hto huo
    rw [hlast i t ht hto, hlast j u hu huo]
  · rw [hflag, h.flag]
    constructor
    · rintro ⟨i, t, ht, hta⟩
      exact ⟨i, t, by rw [hthreads, List.getElem?_append_left (List.getElem?_eq_some_iff.mp ht).1, ht],
        hta⟩
    · rintro ⟨i, t, ht, hta⟩
      rw [hthreads, List.getElem?_append] at ht
      split at ht
      · exact ⟨i, t, ht, hta⟩
      · rw [List.getElem?_singleton] at ht
        split at ht
        · cases ht
          rw [hactive] at hta
          cases hta
        · cases ht

/-- An open thread that goes on, with the flag of its new phase. -/
theorem OneOpen.set {s s' : SetupThreads} (h : OneOpen s) {i : Nat} {t t' : SetupThread}
    (hi : s.threads[i]? = some t) (hopen : t.isOpen = true)
    (hthreads : s'.threads = s.threads.set i t') (hflag : s'.is_running = t'.isActive) :
    OneOpen s' := by
  have hlt := (List.getElem?_eq_some_iff.mp hi).1
  have hself : s'.threads[i]? = some t' := by rw [hthreads, List.getElem?_set_self hlt]
  have hother : ∀ (j : Nat) (u : SetupThread), s'.threads[j]? = some u → u.isOpen = true → j = i := by
    intro j u hu huo
    by_contra hne
    rw [hthreads, List.getElem?_set_ne (Ne.symm hne)] at hu
    exact hne (h.alone j i u t hu hi huo hopen)
  constructor
  · intro j k u v hu hv huo hvo
    rw [hother j u hu huo, hother k v hv hvo]
  · rw [hflag]
    constructor
    · exact fun ht' => ⟨i, t', hself, ht'⟩
    · rintro ⟨j, u, hu, hua⟩
      have hj := hother j u hu (SetupThread.isOpen_of_active hua)
      rw [hj, hself] at hu
      cases hu
      exact hua

theorem OneOpen.congr {s s' : SetupThreads} (h : OneOpen s) (hthreads : s'.threads = s.threads)
    (hflag : s'.is_running = s.is_running) : OneOpen s' :=
  ⟨hthreads ▸ h.alone, by rw [hthreads, hflag]; exact h.flag⟩

/-- **One step** that accepts a command only when no other is open. -/
theorem OneOpen.step {s s' : SetupThreads} {e : SetupEvent} (h : OneOpen s) (hC : AcceptsAlone s e)
    (hs : setupThreadsStep s e = some s') : OneOpen s' := by
  rcases setupThreadsStep_cases hs with ⟨-, ht, hf⟩ | ⟨p, x, hyes, ht, hf⟩ |
    ⟨-, i, t, phase, hi, ht, hphase⟩
  · exact h.congr ht hf
  · exact h.append (hC hyes) rfl ht hf
  · rcases hphase with ⟨hold, ⟨rest, rfl⟩, hf⟩ | ⟨⟨e, rest, hold, rfl⟩, hf⟩ | ⟨hold, rfl, hf⟩
    · exact h.set hi (by rw [SetupThread.isOpen, hold]) ht hf
    · have hactive : t.isActive = true := by rw [SetupThread.isActive, hold]
      refine h.set hi (SetupThread.isOpen_of_active hactive) ht ?_
      rw [hf]
      exact h.flag.mpr ⟨i, t, hi, hactive⟩
    · exact h.set hi (by rw [SetupThread.isOpen, hold]) ht hf

theorem oneOpen_fresh : OneOpen .fresh where
  alone := by
    intro i j t u ht
    cases ht
  flag := by
    constructor
    · intro h
      cases h
    · rintro ⟨i, t, ht, -⟩
      cases ht

/-- **At most one setup**: in every state of a run at most one body is active and the flag covers every
accepted command, if and only if the run accepts no command.  When every command is accepted after the
runs of the earlier ones have ended, at most one body is active, and the flag is set while it is. -/
theorem single_setup (es : List SetupEvent) :
    (EveryState setupThreadsStep (fun s => OneActive s ∧ FlagCovers s) .fresh es ↔
        Along setupThreadsStep NoAcceptance .fresh es) ∧
      (Along setupThreadsStep AcceptsAlone .fresh es →
        EveryState setupThreadsStep (fun s => OneActive s ∧ FlagOnRuns s) .fresh es) :=
  ⟨covered_iff ⟨rfl, rfl⟩ es,
    everyState_of_invariant (fun _ => OneOpen.safe) (fun _ _ _ h hC hs => h.step hC hs) es .fresh
      oneOpen_fresh⟩

/-! ## Two messages -/

def sampleArrival (id : String) : SetupEvent :=
  .arrive (sampleSetup id [] 1).payload (sampleSetup id [] 1).topicPrefix

/-- Two commands; each arrives after the run of the one before has ended. -/
def serialSetups : List SetupEvent :=
  [sampleArrival "id-1", .accept sampleSetupOutside, .enter 0 sampleSetupOutside] ++
    List.replicate 8 (.work 0) ++ [.leave 0, sampleArrival "id-2", .accept sampleSetupOutside,
    .enter 1 sampleSetupOutside]

/-- `single_setup` at two commands one after the other. -/
theorem single_setup_serial :
    ((run setupThreadsStep .fresh serialSetups).any fun s => s.threads.length == 2 && s.is_running) =
        true ∧
      EveryState setupThreadsStep (fun s => OneActive s ∧ FlagOnRuns s) .fresh serialSetups :=
  ⟨by decide +kernel, (single_setup serialSetups).2 (by decide +kernel)⟩

/-- Two commands; the second one arrives before the thread of the first has set the flag. -/
def racingSetups : List SetupEvent :=
  [sampleArrival "id-1", .accept sampleSetupOutside, sampleArrival "id-2",
    .accept sampleSetupOutside, .enter 0 sampleSetupOutside, .enter 1 sampleSetupOutside]

/-- **Both commands run at once.** -/
theorem setups_overlap :
    ¬ EveryState setupThreadsStep (fun s => OneActive s ∧ FlagCovers s) .fresh racingSetups := by
  intro hall
  have hrun : ∃ s, run setupThreadsStep .fresh racingSetups = some s ∧
      (∃ t, s.threads[0]? = some t ∧ t.isActive = true) ∧
      ∃ u, s.threads[1]? = some u ∧ u.isActive = true :=
    ⟨_, rfl, ⟨_, rfl, rfl⟩, ⟨_, rfl, rfl⟩⟩
  obtain ⟨s, hs, ⟨t, ht, hta⟩, u, hu, hua⟩ := hrun
  have hone := (everyState_iff.mp hall racingSetups s (List.prefix_refl _) hs).1
  have := hone 0 1 t u ht hu hta hua
  omega

end SmartLocker.System
