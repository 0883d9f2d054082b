import SmartLocker.System.Transactions

/-!
# What a caller may believe of a response

Two properties of runs of the transaction machine, each with the condition on steps under which it
holds, and a run that shows the condition to be needed:

* `requests_isolated` — a caller gets no response of a slave it did not address, and does not time
  out after a reply of its slave was handled.  All callers share one response slot, so this needs
  that no call begins while another is open (`NoOverlap`).
* `replies_correlated` — a call that returns `OK` returns the reply of its slave to this very call.
  A response is matched by its slave only, so this needs that no heartbeat and no late reply of the
  slave arrives during the call (`Undisturbed`), also when calls never overlap.
-/

set_option autoImplicit false

namespace SmartLocker.System

open Lib Lib.Machine Lib.Python SmartLocker.Firmware SmartLocker.Gateway

variable (U : Unicode) (pf : List Char → PyFloat)

/-! ## Isolation -/

/-- The call was given a response of a slave it did not address. -/
def Call.misdelivered (c : Call) : Bool :=
  match c.pc with
  | .returned (.response st) => st.src.sender != c.command.slave
  | _ => false

/-- The call timed out although a reply of its slave was handled before. -/
def Call.unheard (c : Call) : Bool :=
  match c.pc with
  | .returned .timeout => c.heard
  | _ => false

/-- No call begins while another is open, or while the listener is about to store a response of
another slave. -/
def NoOverlap (s : State) : Event → Prop
  | .begin c => (∀ x ∈ s.calls, x.done = true) ∧
      match s.listener with
      | .passed a _ => a.sender = c.slave
      | _ => True
  | _ => True

instance (s : State) (e : Event) : Decidable (NoOverlap s e) := by
  unfold NoOverlap
  cases e <;> simp only <;> first | infer_instance | skip
  cases s.listener <;> infer_instance

/-- The response is one of the slave that was asked. -/
def FromSlave (_ : Nat) (c : Command) (st : Stored) : Prop := st.src.sender = c.slave

theorem NoOverlap.safe {s : State} {e : Event} (h : NoOverlap s e) : Safe U pf FromSlave s e := by
  cases e with
  | begin c =>
    refine ⟨h.1, fun a sl d _ ha => ha, fun a d hp => ?_⟩
    have hsender := h.2
    rw [hp] at hsender
    exact hsender
  | recv a => exact fun n c t sl d _ _ _ _ ha => ha
  | _ => trivial

/-- **Concurrent requests**: in every run without overlap, every call that returned got a response of
its own slave, if any, and did not time out once a reply of its slave was handled. -/
theorem requests_isolated (es : List Event) (s : State)
    (hC : Along (step U pf) NoOverlap .init es) (h : run (step U pf) .init es = some s) :
    ∀ c ∈ s.calls, c.misdelivered = false ∧ c.unheard = false := by
  have hI := run_inv U pf (hC.mono (fun _ _ hc => hc.safe U pf)) h
  intro c hc
  obtain ⟨n, hn⟩ := List.mem_iff_getElem?.mp hc
  unfold Call.misdelivered Call.unheard
  constructor
  · split
    · rename_i st hpc
      have hfrom : st.src.sender = c.command.slave := hI.outcome hn hpc
      simp [hfrom]
    · rfl
  · split
    · rename_i hpc
      exact hI.outcome hn hpc
    · rfl

/-- One call, answered. -/
def oneCall : List Event :=
  [.begin ⟨2, .slot .O 1⟩, .call 0 .write, .call 0 .enterWait, .recv (.answer 0 uno2 allOpen),
    .compare, .store, .call 0 .take, .call 0 .leave]

theorem requests_isolated_one :
    ∃ s, run (step Unicode.ascii noFloat) .init oneCall = some s ∧
      ∀ c ∈ s.calls, c.misdelivered = false ∧ c.unheard = false := by
  obtain ⟨s, hs⟩ := Option.isSome_iff_exists.mp
    (by decide +kernel : (run (step Unicode.ascii noFloat) .init oneCall).isSome = true)
  exact ⟨s, hs, requests_isolated Unicode.ascii noFloat oneCall s (by decide +kernel) hs⟩

/-- Two open calls, and the reply to the second. -/
def overlap : List Event :=
  [.begin ⟨1, .slot .O 0⟩, .call 0 .write, .call 0 .enterWait,
    .begin ⟨2, .slot .O 1⟩, .call 1 .write, .call 1 .enterWait,
    .recv (.answer 1 uno2 allOpen), .compare, .store,
    .call 0 .take, .call 0 .leave, .call 1 .take, .call 1 .leave]

/-- The first call takes the reply to the second, which times out. -/
theorem overlapping_requests_mixed :
    ∃ s, run (step Unicode.ascii noFloat) .init overlap = some s ∧
      (∃ c ∈ s.calls, c.misdelivered = true) ∧ ∃ c ∈ s.calls, c.unheard = true := by
  have h : (run (step Unicode.ascii noFloat) .init overlap).any
      (fun s => s.calls.any Call.misdelivered && s.calls.any Call.unheard) = true := by
    decide +kernel
  obtain ⟨s, hs, hbad⟩ := (Option.any_eq_true _ _).mp h
  rw [Bool.and_eq_true, List.any_eq_true, List.any_eq_true] at hbad
  exact ⟨s, hs, hbad⟩

/-! ## Correlation -/

/-- The dict a call returns. -/
def returnedDict (c : Command) : Outcome → Dict
  | .response st => st.dict
  | .timeout => timeoutResponse c.slot (.int c.slave)
  | .serialError => serialError c.slot (.int c.slave)

/-- The call returned a dict with result `OK`. -/
def Call.returnedOk (c : Call) : Bool :=
  match c.pc with
  | .returned o => isOk (returnedDict c.command o)
  | _ => false

theorem Call.returnedOk_spec {c : Call} (h : c.returnedOk = true) :
    ∃ o, c.pc = .returned o ∧ isOk (returnedDict c.command o) = true := by
  unfold Call.returnedOk at h
  split at h
  · rename_i o ho
    exact ⟨o, ho, h⟩
  · cases h

/-- What the call returned was made of a heartbeat. -/
def Call.fromHeartbeat (c : Call) : Bool :=
  match c.pc with
  | .returned (.response ⟨_, .alive _⟩) => true
  | _ => false

/-- The dict is the reply, for slot `k` of slave `cmd.slave`, that a controller with this id gave to
the bytes of call `n`. -/
def Correlated (n : Nat) (cmd : Command) (st : Stored) : Prop :=
  ∃ (b : Board) (w : Readings) (action : SlotAction) (k : Int) (q : Reply),
    cmd.ask = .slot action k ∧ b.SLAVE_ID = cmd.slave ∧ st.src = .answer n b w ∧
      replyTo b w (.slotAction action.letter k) = some q ∧ st.dict = replyData b q ∧
      get? st.dict "slave" = some (.int cmd.slave) ∧ get? st.dict "slot" = some (.int k)

/-- Slot calls, one after another. -/
def Sequential (s : State) : Event → Prop
  | .begin c => (∀ x ∈ s.calls, x.done = true) ∧ c.ask ≠ .ping
  | _ => True

instance (s : State) (e : Event) : Decidable (Sequential s e) := by
  unfold Sequential
  cases e <;> infer_instance

/-- The answer of `b` to call `m` would be stored as a success. -/
def succeeds (calls : List Call) (m : Nat) (b : Board) (w : Readings) : Bool :=
  match (Arrival.answer m b w).text? U calls with
  | some t =>
    match responseOf pf t with
    | some (_, d) => isOk d
    | none => false
  | none => false

/-- A call's slot fits 16 bits, and the listener is not about to compare or store a success of its
slave when it begins; while it is open, no heartbeat of its slave arrives and no successful answer of
its slave to another call. -/
def Undisturbed (s : State) : Event → Prop
  | .begin c => SlotInt16 c ∧
      match s.listener with
      | .looked a _ d => a.sender = c.slave → isOk d = false
      | .passed _ d => isOk d = false
      | .idle => True
  | .recv (.alive b) => ∀ c ∈ s.calls, c.done = false → b.SLAVE_ID ≠ c.command.slave
  | .recv (.answer m b w) => ∀ p ∈ s.calls.zipIdx, p.1.done = false →
      b.SLAVE_ID = p.1.command.slave → m = p.2 ∨ succeeds U pf s.calls m b w = false
  | _ => True

instance (s : State) (e : Event) : Decidable (Undisturbed U pf s e) := by
  unfold Undisturbed
  split
  · cases s.listener <;> infer_instance
  · infer_instance
  · infer_instance
  · infer_instance

/-- A success is correlated, if the slot fits 16 bits. -/
def CorrelatedOk (n : Nat) (c : Command) (st : Stored) : Prop :=
  SlotInt16 c → c.ask ≠ .ping → isOk st.dict = true → Correlated n c st

/-- A successful reply to a slot request reports that slot. -/
theorem replyData_ok {b : Board} {w : Readings} {a : Char} {k : Int} {q : Reply}
    (hq : replyTo b w (.slotAction a k) = some q) (hok : isOk (replyData b q) = true) :
    get? (replyData b q) "slave" = some (.int b.SLAVE_ID) ∧
      get? (replyData b q) "slot" = some (.int k) := by
  simp only [replyTo] at hq
  split at hq
  · -- the reply is `FAIL`
    cases hq
    rw [isOk_replyData] at hok
    simp at hok
  rename_i hrange
  split at hq
  · cases hq
    have hk : k ≠ -1 := by omega
    simp [replyData, replyFields, hk, entry, Field.json]
  · cases hq

/-- An answer to the open call is correlated with it. -/
theorem correlated_answer {calls : List Call} {n : Nat} {c : Call} (hc : calls[n]? = some c)
    {b : Board} {w : Readings} {t : List Char} {sl : Json} {d : Dict}
    (ht : (Arrival.answer n b w).text? U calls = some t)
    (hresp : responseOf pf t = some (sl, d)) (hb : b.SLAVE_ID = c.command.slave) :
    CorrelatedOk n c.command ⟨d, .answer n b w⟩ := by
  intro hk hping hok
  obtain ⟨_, _, c', r, q, hc', hr, hq, rfl⟩ := responseOf_spec U pf ht hresp
  rw [hc] at hc'
  cases hc'
  have hsid := b.slave_int16
  rw [readRequest_line b.SLAVE_ID ⟨hb ▸ hsid, hk⟩, if_pos hb.symm, Option.some.injEq] at hr
  subst hr
  cases hask : c.command.ask with
  | ping => exact absurd hask hping
  | slot action k =>
    rw [request, hask] at hq
    obtain ⟨h1, h2⟩ := replyData_ok hq hok
    exact ⟨b, w, action, k, q, hask, hb, rfl, hq, rfl, hb ▸ h1, h2⟩

theorem Undisturbed.safe {s : State} {e : Event}
    (h : Sequential s e ∧ Undisturbed U pf s e) : Safe U pf CorrelatedOk s e := by
  obtain ⟨hseq, hund⟩ := h
  cases e with
  | begin c =>
    have hl := hund.2
    refine ⟨hseq.1, fun a sl d hlook ha _ _ hok => ?_, fun a d hp _ _ hok => ?_⟩
    · rw [hlook] at hl
      rw [hl ha] at hok
      cases hok
    · rw [hp] at hl
      rw [hl] at hok
      cases hok
  | recv a =>
    intro n c t sl d hc hopen ht hresp ha
    cases a with
    | alive b => exact absurd ha (hund c (List.mem_of_getElem? hc) hopen)
    | door b slot closed => exact (responseOf_spec U pf ht hresp).2.2.elim
    | answer m b w =>
      have hidx : (c, n) ∈ s.calls.zipIdx := List.mk_mem_zipIdx_iff_getElem?.mpr hc
      rcases hund _ hidx hopen ha with rfl | hfail
      · exact correlated_answer U pf hc ht hresp ha
      · intro _ _ hok
        simp only [succeeds, ht, hresp] at hfail
        rw [hfail] at hok
        cases hok
  | _ => trivial

/-- A slot call whose slot fits 16 bits. -/
def Small (c : Command) : Prop := SlotInt16 c ∧ c.ask ≠ .ping

theorem run_small {es : List Event} {s : State}
    (hC : Along (step U pf) (fun s e => Sequential s e ∧ Undisturbed U pf s e) .init es)
    (h : run (step U pf) .init es = some s) : ∀ c ∈ s.commands, Small c := by
  refine run_invariant (I := fun s => ∀ c ∈ s.commands, Small c) ?_ es .init s ?_ hC h
  · intro s e s' hI hc hs c hmem
    rw [step_commands U pf hs] at hmem
    rcases List.mem_append.mp hmem with hmem | hmem
    · exact hI c hmem
    · cases e with
      | begin c' =>
        rw [List.mem_singleton.mp hmem]
        exact ⟨hc.2.1, hc.1.2⟩
      | _ => cases hmem
  · intro c hc
    cases hc

/-- **Request and response correlation**: in every undisturbed run of calls made one after another, a
call that returns a dict with result `OK` returns the reply of a controller with its slave id to this
very call, for its slot. -/
theorem replies_correlated (es : List Event) (s : State)
    (hC : Along (step U pf) (fun s e => Sequential s e ∧ Undisturbed U pf s e) .init es)
    (h : run (step U pf) .init es = some s) (n : Nat) (c : Call) (hc : s.calls[n]? = some c)
    (o : Outcome) (ho : c.pc = .returned o) (hok : isOk (returnedDict c.command o) = true) :
    ∃ st, o = .response st ∧ Correlated n c.command st := by
  have hI := run_inv U pf (hC.mono (fun _ _ hc => Undisturbed.safe U pf hc)) h
  have hsmall := run_small U pf hC h c.command
    (List.mem_map_of_mem (List.mem_of_getElem? hc))
  cases o with
  | response st => exact ⟨st, rfl, hI.outcome hc ho hsmall.1 hsmall.2 hok⟩
  | timeout => simp [returnedDict, isOk, timeoutResponse] at hok
  | serialError => simp [returnedDict, isOk, serialError] at hok

theorem replies_correlated_one :
    ∃ s c o, run (step Unicode.ascii noFloat) .init oneCall = some s ∧ s.calls[0]? = some c ∧
      c.pc = .returned o ∧ ∃ st, o = .response st ∧ Correlated 0 c.command st := by
  have h : (run (step Unicode.ascii noFloat) .init oneCall).any
      (fun s => s.calls[0]?.any Call.returnedOk) = true := by decide +kernel
  obtain ⟨s, hs, hcall⟩ := (Option.any_eq_true _ _).mp h
  obtain ⟨c, hc, hok⟩ := (Option.any_eq_true _ _).mp hcall
  obtain ⟨o, ho, hok⟩ := c.returnedOk_spec hok
  exact ⟨s, c, o, hs, hc, ho, replies_correlated Unicode.ascii noFloat oneCall s
    (by decide +kernel) hs 0 c hc o ho hok⟩

/-- A heartbeat during a call. -/
def heartbeat : List Event :=
  [.begin ⟨2, .slot .O 1⟩, .call 0 .write, .call 0 .enterWait, .recv (.alive uno2), .compare,
    .store, .call 0 .take, .call 0 .leave]

/-- The call returns `OK`, without an answer of its slave. -/
theorem heartbeat_taken_for_reply :
    Along (step Unicode.ascii noFloat) Sequential .init heartbeat ∧
      ∃ s c o, run (step Unicode.ascii noFloat) .init heartbeat = some s ∧
        s.calls[0]? = some c ∧ c.pc = .returned o ∧ isOk (returnedDict c.command o) = true ∧
        ¬ ∃ st, o = .response st ∧ Correlated 0 c.command st := by
  refine ⟨by decide +kernel, ?_⟩
  have h : (run (step Unicode.ascii noFloat) .init heartbeat).any
      (fun s => s.calls[0]?.any fun c => c.returnedOk && c.fromHeartbeat) = true := by decide +kernel
  obtain ⟨s, hs, hcall⟩ := (Option.any_eq_true _ _).mp h
  obtain ⟨c, hc, hbad⟩ := (Option.any_eq_true _ _).mp hcall
  rw [Bool.and_eq_true] at hbad
  obtain ⟨o, ho, hok⟩ := c.returnedOk_spec hbad.1
  refine ⟨s, c, o, hs, hc, ho, hok, ?_⟩
  rintro ⟨⟨d, src⟩, rfl, b, w, action, k, q, _, _, hsrc, _⟩
  have hanswer : src = .answer 0 b w := hsrc
  subst hanswer
  have hbeat := hbad.2
  rw [Call.fromHeartbeat, ho] at hbeat
  cases hbeat

end SmartLocker.System
