import SmartLocker.System.SerialThreads

/-!
# Discovery of slaves

`SerialManager.scan_slaves` as one more thread at the serial port: it asks one slave id after the other
with `_send_and_wait` and judges what that returns, while the other threads do what they like.
`scan_reports` says that it reports only slaves that answered: the listener may store the frame of
another slave, since its look at `_waiting_for_slave` comes before its store, but `scan_slaves` compares
again.

In simulation mode the scan reports slave 1 whatever the range (`scan_simulated`).
-/

set_option autoImplicit false

namespace SmartLocker.System.Discovery

open Lib Lib.Machine Lib.Python SmartLocker.Firmware SmartLocker.Gateway SerialThreads

/-! ## The scan -/

/-- An entry of the list that `scan_slaves` returns. -/
structure Found where
  slaveId : Int
  availableSlots : Json

/-- The loop of `scan_slaves`: `sid` is the id whose turn it is, `asking` the call in progress. -/
structure Scan where
  range_end : Int
  sid : Int
  asking : Option Nat
  found : List Found

/-- What the loop does with a response. -/
def Scan.judge (scan : Scan) (res : Dict) : Scan where
  range_end := scan.range_end
  sid := scan.sid + 1
  asking := none
  found :=
    let res_slave := getD res "slave" (.int (-1))
    if isOk res && (res_slave.pyEq (.int scan.sid) || res_slave.pyEq (.int (-1))) then
      scan.found ++ [⟨scan.sid, getD res "slots" (.int MAX_SLOTS)⟩]
    else scan.found

structure State where
  serial : SerialThreads.State
  scan : Scan

def State.init (range_start range_end : Int) : State := ⟨.init, ⟨range_end, range_start, none, []⟩⟩

inductive Event where
  /-- A step of another thread, or of the call in progress. -/
  | serial (e : SerialThreads.Event)
  /-- The scan calls `_send_and_wait` for the next id. -/
  | ask
  /-- It has a response. -/
  | judge

variable (pf : List Char → PyFloat)

def step (s : State) : Event → Option State
  | .serial e =>
    match SerialThreads.step pf s.serial e with
    | some serial => some { s with serial := serial }
    | none => none
  | .ask =>
    if s.scan.asking.isNone && s.scan.sid ≤ s.scan.range_end then
      some ⟨s.serial.start (.int (-1)) (.int s.scan.sid),
        { s.scan with asking := some s.serial.calls.length }⟩
    else none
  | .judge =>
    match s.scan.asking.bind (fun n => s.serial.calls[n]?) with
    | some c =>
      match c.place with
      | .returned res => some { s with scan := s.scan.judge res }
      | _ => none
    | none => none

/-- What `scan_slaves` returns, once it does. -/
def State.report (simulation : Bool) (s : State) : Option (List Found) :=
  if simulation then some [⟨1, .int 6⟩]
  else if s.scan.asking.isNone && s.scan.range_end < s.scan.sid then some s.scan.found
  else none

/-! ## Frames -/

/-- The line that the listener receives. -/
def Event.line? : Event → Option (List Char)
  | .serial e => e.line?
  | _ => none

/-- The lines that the listener received. -/
def received (es : List Event) : List (List Char) := es.filterMap Event.line?

/-- A frame, when it is one, has a slave id that is not negative. -/
def HasSlave (line : List Char) : Prop :=
  ∀ data, loads pf line = some (.obj data) → ∃ k : Int, 0 ≤ k ∧ get? data "slave" = some (.int k)

/-- A reply with the result `OK`, or an `ALIVE` event. -/
def Answers (data : Dict) : Prop :=
  (get? data "event" = none ∧ isOk data = true) ∨
    ∃ event, get? data "event" = some event ∧ event.pyEq (.lit "ALIVE") = true

/-- Slave `k` answered in one of the lines. -/
def Present (lines : List (List Char)) (k : Int) : Prop :=
  ∃ line ∈ lines, ∃ data, loads pf line = some (.obj data) ∧ get? data "slave" = some (.int k) ∧
    Answers data

/-- What the scan reports. -/
structure Reports (range_start range_end : Int) (lines : List (List Char)) (found : List Found) :
    Prop where
  increasing : (found.map Found.slaveId).Pairwise (· < ·)
  inRange : ∀ f ∈ found, range_start ≤ f.slaveId ∧ f.slaveId ≤ range_end
  present : ∀ f ∈ found, Present pf lines f.slaveId

/-- A response that was made of a frame has the frame's slave. -/
theorem responseOf_slave {line : List Char} {slave : Json} {d : Dict}
    (h : responseOf pf line = some (slave, d)) (hline : HasSlave pf line) :
    ∃ data k, loads pf line = some (.obj data) ∧ 0 ≤ k ∧ get? data "slave" = some (.int k) ∧
      get? d "slave" = some (.int k) ∧ (isOk d = true → Answers data) := by
  unfold responseOf at h
  split at h
  · rename_i data hloads
    obtain ⟨k, hk, hslave⟩ := hline data hloads
    refine ⟨data, k, hloads, hk, hslave, ?_⟩
    unfold handleIncomingJson at h
    split at h
    · rename_i slave' d' hresponse
      split at hresponse
      · rename_i event hevent
        split at hresponse
        · cases hresponse
        split at hresponse
        · rename_i halive
          cases hresponse
          cases h
          refine ⟨?_, fun _ => Or.inr ⟨event, hevent, halive⟩⟩
          simp [aliveResponse, slaveOf, getD, hslave]
        · cases hresponse
      · rename_i hevent
        split at hresponse
        · cases hresponse
          cases h
          exact ⟨hslave, fun hok => Or.inl ⟨hevent, hok⟩⟩
        · cases hresponse
    · cases h
  · cases h

/-! ## The invariant -/

/-- What holds of the scan and of the threads, in a run from `range_start` to `range_end`. -/
structure Sound (range_start range_end : Int) (lines : List (List Char)) (s : State) : Prop where
  threads : SerialThreads.Sound pf lines s.serial
  range : s.scan.range_end = range_end
  started : range_start ≤ s.scan.sid
  turn : s.scan.asking ≠ none → s.scan.sid ≤ range_end
  reports : Reports pf range_start range_end lines s.scan.found
  before : ∀ f ∈ s.scan.found, f.slaveId < s.scan.sid

variable {pf} {range_start range_end : Int} {lines : List (List Char)}

theorem Present.mono {lines' : List (List Char)} {k : Int} (h : Present pf lines k)
    (hsub : lines ⊆ lines') : Present pf lines' k := by
  obtain ⟨line, hline, hrest⟩ := h
  exact ⟨line, hsub hline, hrest⟩

theorem Reports.mono {lines' : List (List Char)} {found : List Found}
    (h : Reports pf range_start range_end lines found) (hsub : lines ⊆ lines') :
    Reports pf range_start range_end lines' found where
  increasing := h.increasing
  inRange := h.inRange
  present f hf := (h.present f hf).mono hsub

/-- One more slave. -/
theorem Reports.append {found : List Found} {f : Found}
    (h : Reports pf range_start range_end lines found) (hbefore : ∀ g ∈ found, g.slaveId < f.slaveId)
    (hrange : range_start ≤ f.slaveId ∧ f.slaveId ≤ range_end) (hpresent : Present pf lines f.slaveId) :
    Reports pf range_start range_end lines (found ++ [f]) where
  increasing := by
    rw [List.map_append, List.map_singleton, List.pairwise_append]
    refine ⟨h.increasing, List.pairwise_singleton _ _, fun k hk k' hk' => ?_⟩
    obtain ⟨g, hg, rfl⟩ := List.mem_map.mp hk
    rw [List.mem_singleton.mp hk']
    exact hbefore g hg
  inRange g hg := by
    rcases List.mem_append.mp hg with hg | hg
    · exact h.inRange g hg
    · exact (List.mem_singleton.mp hg) ▸ hrange
  present g hg := by
    rcases List.mem_append.mp hg with hg | hg
    · exact h.present g hg
    · exact (List.mem_singleton.mp hg) ▸ hpresent

/-- **The slave is compared again**: a success that the scan takes as one of `sid` came from `sid`. -/
theorem present_of_judged {sid : Int} {res : Dict} (hlines : ∀ line ∈ lines, HasSlave pf line)
    (hheard : isOk res = true → Heard pf lines res)
    (hjudged : (isOk res && ((getD res "slave" (.int (-1))).pyEq (.int sid) ||
      (getD res "slave" (.int (-1))).pyEq (.int (-1)))) = true) : Present pf lines sid := by
  rw [Bool.and_eq_true] at hjudged
  obtain ⟨hok, hslave⟩ := hjudged
  obtain ⟨line, hline, slave, hresponse⟩ := hheard hok
  obtain ⟨data, k, hloads, hk, hdata, hres, hanswers⟩ := responseOf_slave pf hresponse (hlines line hline)
  have heq : k = sid := by
    rw [getD, hres, Option.getD_some, pyEq_int, pyEq_int, Bool.or_eq_true, decide_eq_true_eq,
      decide_eq_true_eq] at hslave
    -- a frame with a slave id has not -1
    omega
  subst heq
  exact ⟨line, hline, data, hloads, hdata, hanswers hok⟩

/-- The scan judges a response. -/
theorem Sound.judge {s : State} (h : Sound pf range_start range_end lines s)
    (hlines : ∀ line ∈ lines, HasSlave pf line) {res : Dict}
    (hheard : isOk res = true → Heard pf lines res) (hasking : s.scan.asking ≠ none) :
    Sound pf range_start range_end lines { s with scan := s.scan.judge res } where
  threads := h.threads
  range := h.range
  started := by
    have := h.started
    show range_start ≤ s.scan.sid + 1
    omega
  turn hnone := absurd rfl hnone
  reports := by
    unfold Scan.judge
    dsimp only
    split
    · rename_i hjudged
      exact h.reports.append h.before ⟨h.started, h.turn hasking⟩
        (present_of_judged hlines hheard hjudged)
    · exact h.reports
  before := by
    unfold Scan.judge
    dsimp only
    intro f hf
    split at hf
    · rcases List.mem_append.mp hf with hf | hf
      · have := h.before f hf
        omega
      · rw [List.mem_singleton.mp hf]
        show s.scan.sid < s.scan.sid + 1
        omega
    · have := h.before f hf
      omega

/-- **One step** keeps the invariant. -/
theorem sound_step {s s' : State} {e : Event} (h : Sound pf range_start range_end lines s)
    (hlines : ∀ line ∈ lines, HasSlave pf line) (hs : step pf s e = some s') :
    Sound pf range_start range_end (lines ++ e.line?.toList) s' := by
  cases e with
  | serial e =>
    simp only [step] at hs
    split at hs
    · rename_i serial hserial
      cases hs
      exact ⟨SerialThreads.sound_step pf h.threads hserial, h.range, h.started, h.turn,
        h.reports.mono (List.subset_append_left _ _), h.before⟩
    · cases hs
  | ask =>
    have hnone : lines ++ (Event.line? .ask).toList = lines := List.append_nil lines
    rw [hnone]
    simp only [step] at hs
    split at hs
    · rename_i hguard
      rw [Bool.and_eq_true, decide_eq_true_eq, h.range] at hguard
      cases hs
      exact ⟨h.threads.start pf _ _, h.range, h.started, fun _ => hguard.2, h.reports, h.before⟩
    · cases hs
  | judge =>
    have hnone : lines ++ (Event.line? .judge).toList = lines := List.append_nil lines
    rw [hnone]
    simp only [step] at hs
    split at hs
    · rename_i c hcall
      obtain ⟨n, hn, hc⟩ := Option.bind_eq_some_iff.mp hcall
      split at hs
      · rename_i res hplace
        cases hs
        refine h.judge hlines (fun hok => ?_) (by rw [hn]; exact nofun)
        exact h.threads.calls c (List.mem_of_getElem? hc) res (by rw [hplace]; rfl) hok
      · cases hs
    · cases hs

theorem received_concat (es : List Event) (e : Event) :
    received (es ++ [e]) = received es ++ e.line?.toList := by
  unfold received
  rw [List.filterMap_append, List.filterMap_cons]
  cases e.line? with
  | none => rfl
  | some line => rfl

/-- Every run. -/
theorem sound_run {es : List Event} {s : State} (hlines : ∀ line ∈ received es, HasSlave pf line)
    (hrun : run (step pf) (.init range_start range_end) es = some s) :
    Sound pf range_start range_end (received es) s := by
  have hinit : Sound pf range_start range_end [] (.init range_start range_end) :=
    ⟨SerialThreads.sound_init pf, rfl, Int.le_refl _, fun hnone => absurd rfl hnone,
      ⟨List.Pairwise.nil, nofun, nofun⟩, nofun⟩
  have hstep : ∀ past s e s',
      ((∀ line ∈ received past, HasSlave pf line) → Sound pf range_start range_end (received past) s) →
      step pf s e = some s' → (∀ line ∈ received (past ++ [e]), HasSlave pf line) →
        Sound pf range_start range_end (received (past ++ [e])) s' := by
    intro past s e s' hsound hs hall
    rw [received_concat] at hall ⊢
    have hpast : ∀ line ∈ received past, HasSlave pf line := fun line hline =>
      hall line (List.mem_append_left _ hline)
    exact sound_step (hsound hpast) hpast hs
  exact run_history hstep es [] _ s (fun _ => hinit) hrun hlines

/-- **Discovery reports no absent slave**: whatever the other threads do and whatever frames come in,
when every frame has the slave id of its sender, the reported ids increase, are in the range, and each
of them is that of a frame that the listener received, a reply with the result `OK` or `ALIVE`. -/
theorem scan_reports (pf : List Char → PyFloat) (range_start range_end : Int) (es : List Event)
    (s : State) (hlines : ∀ line ∈ received es, HasSlave pf line)
    (hrun : run (step pf) (.init range_start range_end) es = some s) (found : List Found)
    (hfound : s.report false = some found) :
    Reports pf range_start range_end (received es) found := by
  have hsound := sound_run hlines hrun
  simp only [State.report, Bool.false_eq_true, if_false] at hfound
  split at hfound
  · cases hfound
    exact hsound.reports
  · cases hfound

/-- Slave 2 is asked and sends its heartbeat. -/
def askedAlive : List Event :=
  [.ask, .serial (.call 0 .write), .serial (.call 0 .enterWait), .serial (.recv (heartbeatJson uno2)),
    .serial .compare, .serial .store, .serial (.call 0 .take), .serial (.call 0 .leave), .judge]

/-- `scan_reports` at a slave that is alive. -/
theorem scan_reports_alive :
    ∃ s, run (step noFloat) (.init 2 2) askedAlive = some s ∧
      (∃ found, s.report false = some found ∧ found.map Found.slaveId = [2]) ∧
      ∀ found, s.report false = some found → Reports noFloat 2 2 (received askedAlive) found := by
  have hresponse : responseOf noFloat (heartbeatJson uno2) =
      some (.int 2, aliveResponse (aliveData uno2)) := by
    simp only [responseOf, loads_alive, handle_alive]
    rfl
  have hslave : ∀ line ∈ received askedAlive, HasSlave noFloat line := by
    intro line hline data hdata
    obtain rfl : line = heartbeatJson uno2 := List.mem_singleton.mp hline
    rw [loads_alive, Option.some.injEq, Json.obj.injEq] at hdata
    subst hdata
    exact ⟨2, by decide, rfl⟩
  have hrun : ∃ s, run (step noFloat) (.init 2 2) askedAlive = some s ∧
      s.report false = some [⟨2, .int 6⟩] := by
    simp only [askedAlive, run, step, SerialThreads.step, hresponse]
    exact ⟨_, rfl, rfl⟩
  obtain ⟨s, hrun, hfound⟩ := hrun
  exact ⟨s, hrun, ⟨_, hfound, rfl⟩, scan_reports noFloat 2 2 askedAlive s hslave hrun⟩

/-- **In simulation mode** a scan of slaves 2 and 3 reports slave 1. -/
theorem scan_simulated : ¬ ∀ (pf : List Char → PyFloat) (simulation : Bool) (range_start range_end : Int)
    (es : List Event) (s : State), (∀ line ∈ received es, HasSlave pf line) →
    run (step pf) (.init range_start range_end) es = some s →
    ∀ found, s.report simulation = some found → Reports pf range_start range_end (received es) found := by
  intro hall
  have hreports := hall noFloat true 2 3 [] (.init 2 3) nofun rfl [⟨1, .int 6⟩] rfl
  have hrange := (hreports.inRange ⟨1, .int 6⟩ List.mem_cons_self).1
  exact absurd hrange (by decide)

end SmartLocker.System.Discovery
