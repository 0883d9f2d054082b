import SmartLocker.System.Requests

/-!
# The threads at the serial port, with any frames

`_send_and_wait` and the listener once more, as in `Transactions`, but with nothing assumed of the bus:
the calls may be for any slave and overlap in any way, and a frame is any line.  A block under
`_response_lock` is one step; the listener's two reads of `_waiting_for_slave`, its store and the reset
of `_waiting_for_slave` are steps of their own.

* `Sound`, `sound_step` — whatever a call returns as a success was made of a frame that the listener
  received;
* `step_refines`, `run_refines` — the runs of `Transactions` are runs of these threads.
-/

set_option autoImplicit false

namespace SmartLocker.System.SerialThreads

open Lib Lib.Machine Lib.Python SmartLocker.Gateway

/-! ## The threads -/

/-- The place of a call in `_send_and_wait`. -/
inductive Place where
  | began
  | sent
  | waiting
  | woken
  | leaving (res : Dict)
  | returned (res : Dict)

/-- A call, with its arguments `slot_index` and `custom_slave_id`. -/
structure Call where
  slot_index : Json
  slave : Json
  place : Place

inductive Listener where
  | idle
  /-- `_waiting_for_slave` was not `None`. -/
  | looked (slave : Json) (data : Dict)
  /-- It was the frame's slave. -/
  | passed (data : Dict)

structure State where
  calls : List Call
  response_data : Option Dict
  response_event : Bool
  /-- `.null` for `None` -/
  waiting_for_slave : Json
  listener : Listener

def State.init : State := ⟨[], none, false, .null, .idle⟩

/-- The steps of a call after its first block under the lock. -/
inductive CallStep where
  | write
  | writeFails
  | enterWait
  | expire
  | take
  | leave
  deriving DecidableEq, Repr

inductive Event where
  | begin (slot_index slave : Json)
  | call (n : Nat) (e : CallStep)
  | recv (line : List Char)
  | compare
  | store

/-- The line that the listener receives. -/
def Event.line? : Event → Option (List Char)
  | .recv line => some line
  | _ => none

/-- The first block under the lock. -/
def State.start (s : State) (slot_index slave : Json) : State :=
  { s with
    calls := s.calls ++ [⟨slot_index, slave, .began⟩]
    response_data := none
    response_event := false
    waiting_for_slave := slave }

/-- What a woken call takes: `response if response else self._timeout_response(…)`. -/
def State.taken (s : State) (c : Call) : Dict :=
  match s.response_data with
  | some d => if d.isEmpty then timeoutResponse c.slot_index c.slave else d
  | none => timeoutResponse c.slot_index c.slave

/-- The step of one call; each is possible at one place only. -/
def Call.advance (s : State) (c : Call) : CallStep → Option Place
  | .write => match c.place with
    | .began => some .sent
    | _ => none
  | .writeFails => match c.place with
    | .began => some (.leaving (serialError c.slot_index c.slave))
    | _ => none
  | .enterWait => match c.place with
    | .sent => some (if s.response_event then .woken else .waiting)
    | _ => none
  | .expire => match c.place with
    | .waiting => some (.leaving (timeoutResponse c.slot_index c.slave))
    | _ => none
  | .take => match c.place with
    | .woken => some (.leaving (s.taken c))
    | _ => none
  | .leave => match c.place with
    | .leaving res => some (.returned res)
    | _ => none

/-- What such a step does to the shared state. -/
def State.share (s : State) : CallStep → State
  | .take => { s with response_data := none }
  | .leave => { s with waiting_for_slave := .null }
  | _ => s

/-- `Event.set` wakes a blocked call. -/
def Call.wake (c : Call) : Call :=
  match c.place with
  | .waiting => { c with place := .woken }
  | _ => c

/-- The listener stores a response and sets the event. -/
def State.put (s : State) (d : Dict) : State :=
  { s with
    calls := s.calls.map Call.wake
    response_data := some d
    response_event := true
    listener := .idle }

variable (pf : List Char → PyFloat)

def step (s : State) : Event → Option State
  | .begin slot_index slave => some (s.start slot_index slave)
  | .call n e =>
    match s.calls[n]? with
    | some c =>
      match c.advance s e with
      | some place => some { s.share e with calls := s.calls.set n { c with place := place } }
      | none => none
    | none => none
  | .recv line =>
    match s.listener with
    | .idle =>
      match responseOf pf line with
      | some (slave, d) =>
        match s.waiting_for_slave with
        | .null => some s
        | _ => some { s with listener := .looked slave d }
      | none => some s
    | _ => none
  | .compare =>
    match s.listener with
    | .looked slave d =>
      if slave.pyEq s.waiting_for_slave then some { s with listener := .passed d }
      else some { s with listener := .idle }
    | _ => none
  | .store =>
    match s.listener with
    | .passed d => some (s.put d)
    | _ => none

/-! ## What an event does -/

section Cases

variable {pf} {s s' : State}

theorem call_cases {n : Nat} {e : CallStep} (hs : step pf s (.call n e) = some s') :
    ∃ c place, s.calls[n]? = some c ∧ c.advance s e = some place ∧
      s' = { s.share e with calls := s.calls.set n { c with place := place } } := by
  simp only [step] at hs
  split at hs
  · rename_i c hc
    split at hs
    · rename_i place hplace
      exact ⟨c, place, hc, hplace, (Option.some.inj hs).symm⟩
    · cases hs
  · cases hs

/-- **A frame comes in**, and is looked at or not. -/
theorem recv_cases {line : List Char} (hs : step pf s (.recv line) = some s') :
    s.listener = .idle ∧
      (s' = s ∨ ∃ slave d, responseOf pf line = some (slave, d) ∧
        s' = { s with listener := .looked slave d }) := by
  simp only [step] at hs
  split at hs
  · rename_i hidle
    refine ⟨hidle, ?_⟩
    split at hs
    · rename_i slave d hresponse
      split at hs
      · exact Or.inl (Option.some.inj hs).symm
      · exact Or.inr ⟨slave, d, hresponse, (Option.some.inj hs).symm⟩
    · exact Or.inl (Option.some.inj hs).symm
  · cases hs

/-- **The listener compares**: the frame is passed on or dropped. -/
theorem compare_cases (hs : step pf s .compare = some s') :
    ∃ slave d, s.listener = .looked slave d ∧
      (s' = { s with listener := .passed d } ∨ s' = { s with listener := .idle }) := by
  simp only [step] at hs
  split at hs
  · rename_i slave d hlooked
    refine ⟨slave, d, hlooked, ?_⟩
    split at hs
    · exact Or.inl (Option.some.inj hs).symm
    · exact Or.inr (Option.some.inj hs).symm
  · cases hs

theorem store_cases (hs : step pf s .store = some s') :
    ∃ d, s.listener = .passed d ∧ s' = s.put d := by
  simp only [step] at hs
  split at hs
  · rename_i d hpassed
    exact ⟨d, hpassed, (Option.some.inj hs).symm⟩
  · cases hs

end Cases

/-! ## Responses come from frames -/

/-- One of the lines is a frame that is stored as `d`. -/
def Heard (lines : List (List Char)) (d : Dict) : Prop :=
  ∃ line ∈ lines, ∃ slave, responseOf pf line = some (slave, d)

theorem Heard.mono {lines lines' : List (List Char)} {d : Dict} (h : Heard pf lines d)
    (hsub : lines ⊆ lines') : Heard pf lines' d := by
  obtain ⟨line, hline, slave, hresponse⟩ := h
  exact ⟨line, hsub hline, slave, hresponse⟩

/-- What a call that does not wait any more returns. -/
def Place.result? : Place → Option Dict
  | .leaving res => some res
  | .returned res => some res
  | _ => none

/-- What the threads have of the frames so far. -/
structure Sound (lines : List (List Char)) (s : State) : Prop where
  data : ∀ d, s.response_data = some d → Heard pf lines d
  looked : ∀ slave d, s.listener = .looked slave d → Heard pf lines d
  passed : ∀ d, s.listener = .passed d → Heard pf lines d
  calls : ∀ c ∈ s.calls, ∀ res, c.place.result? = some res → isOk res = true → Heard pf lines res

theorem Sound.mono {lines lines' : List (List Char)} {s : State} (h : Sound pf lines s)
    (hsub : lines ⊆ lines') : Sound pf lines' s where
  data d hd := (h.data d hd).mono pf hsub
  looked slave d hd := (h.looked slave d hd).mono pf hsub
  passed d hd := (h.passed d hd).mono pf hsub
  calls c hc res hres hok := (h.calls c hc res hres hok).mono pf hsub

theorem isOk_timeout (slot_index slave : Json) : isOk (timeoutResponse slot_index slave) = false := by
  simp [isOk, timeoutResponse]

theorem isOk_serialError (slot_index slave : Json) : isOk (serialError slot_index slave) = false := by
  simp [isOk, serialError]

theorem taken_cases (s : State) (c : Call) :
    s.response_data = some (s.taken c) ∨ isOk (s.taken c) = false := by
  unfold State.taken
  split
  · rename_i d hd
    split
    · exact Or.inr (isOk_timeout _ _)
    · exact Or.inl hd
  · exact Or.inr (isOk_timeout _ _)

/-- **What a step of a call does to its result**: nothing, or it fails, or it takes what is stored. -/
theorem advance_spec {s : State} {c : Call} {e : CallStep} {place : Place}
    (h : c.advance s e = some place) :
    (e ≠ .take ∧ place.result? = c.place.result?) ∨
      (e ≠ .take ∧ c.place.result? = none ∧ ∃ d, place.result? = some d ∧ isOk d = false) ∨
      (e = .take ∧ place.result? = some (s.taken c)) := by
  cases e with
  | write =>
    simp only [Call.advance] at h
    split at h
    · rename_i hbegan
      cases h
      exact Or.inl ⟨CallStep.noConfusion, by rw [hbegan]; rfl⟩
    · cases h
  | writeFails =>
    simp only [Call.advance] at h
    split at h
    · rename_i hbegan
      cases h
      exact Or.inr (Or.inl ⟨CallStep.noConfusion, by rw [hbegan]; rfl, _, rfl, isOk_serialError _ _⟩)
    · cases h
  | enterWait =>
    simp only [Call.advance] at h
    split at h
    · rename_i hsent
      cases h
      refine Or.inl ⟨CallStep.noConfusion, ?_⟩
      rw [hsent]
      split
      · rfl
      · rfl
    · cases h
  | expire =>
    simp only [Call.advance] at h
    split at h
    · rename_i hwaiting
      cases h
      exact Or.inr (Or.inl ⟨CallStep.noConfusion, by rw [hwaiting]; rfl, _, rfl, isOk_timeout _ _⟩)
    · cases h
  | take =>
    simp only [Call.advance] at h
    split at h
    · cases h
      exact Or.inr (Or.inr ⟨rfl, rfl⟩)
    · cases h
  | leave =>
    simp only [Call.advance] at h
    split at h
    · rename_i hleaving
      cases h
      exact Or.inl ⟨CallStep.noConfusion, by rw [hleaving]; rfl⟩
    · cases h

/-- A success that a call returns was there before, or is the stored response. -/
theorem advance_result {s : State} {c : Call} {e : CallStep} {place : Place} {res : Dict}
    (h : c.advance s e = some place) (hres : place.result? = some res) (hok : isOk res = true) :
    c.place.result? = some res ∨ s.response_data = some res := by
  rcases advance_spec h with ⟨-, hsame⟩ | ⟨-, -, d, hd, hnot⟩ | ⟨-, htaken⟩
  · exact Or.inl (hsame ▸ hres)
  · rw [Option.some.inj (hres.symm.trans hd), hnot] at hok
    cases hok
  · rw [Option.some.inj (hres.symm.trans htaken)] at hok ⊢
    refine Or.inr ((taken_cases s c).resolve_right fun hnot => ?_)
    rw [hnot] at hok
    cases hok

theorem wake_result (c : Call) : c.wake.place.result? = c.place.result? := by
  unfold Call.wake
  split
  · rename_i hplace
    rw [hplace]
    rfl
  · rfl

/-- A call begins. -/
theorem Sound.start {lines : List (List Char)} {s : State} (h : Sound pf lines s)
    (slot_index slave : Json) : Sound pf lines (s.start slot_index slave) where
  data d hd := by cases hd
  looked := h.looked
  passed := h.passed
  calls c hc res hres hok := by
    rcases List.mem_append.mp hc with hc | hc
    · exact h.calls c hc res hres hok
    · rw [List.mem_singleton.mp hc] at hres
      cases hres

/-- A call goes on. -/
theorem Sound.call {lines : List (List Char)} {s : State} (h : Sound pf lines s) {n : Nat} {c : Call}
    (hc : s.calls[n]? = some c) {e : CallStep} {place : Place} (hplace : c.advance s e = some place) :
    Sound pf lines { s.share e with calls := s.calls.set n { c with place := place } } := by
  have hdata : ∀ d, (s.share e).response_data = some d → s.response_data = some d := by
    intro d hd
    cases e with
    | take => cases hd
    | _ => exact hd
  have hlistener : (s.share e).listener = s.listener := by
    cases e with
    | _ => rfl
  refine ⟨fun d hd => h.data d (hdata d hd), ?_, ?_, ?_⟩
  · rw [hlistener]
    exact h.looked
  · rw [hlistener]
    exact h.passed
  · intro c' hc' res hres hok
    rcases List.mem_or_eq_of_mem_set hc' with hold | rfl
    · exact h.calls c' hold res hres hok
    · rcases advance_result hplace hres hok with hbefore | hstored
      · exact h.calls c (List.mem_of_getElem? hc) res hbefore hok
      · exact h.data res hstored

/-- The listener gets a frame. -/
theorem Sound.recv {lines : List (List Char)} {s s' : State} {line : List Char} (h : Sound pf lines s)
    (hs : step pf s (.recv line) = some s') : Sound pf (lines ++ [line]) s' := by
  have hmono := h.mono pf (List.subset_append_left lines [line])
  obtain ⟨-, rfl | ⟨slave, d, hresponse, rfl⟩⟩ := recv_cases hs
  · exact hmono
  · have hheard : Heard pf (lines ++ [line]) d := ⟨line, by simp, slave, hresponse⟩
    refine ⟨hmono.data, ?_, fun d' hd' => (by cases hd'), hmono.calls⟩
    intro slave' d' hd'
    cases hd'
    exact hheard

theorem Sound.silent {lines : List (List Char)} {s : State} {e : Event} (he : e.line? = none)
    (h : Sound pf lines s) : Sound pf (lines ++ e.line?.toList) s := by
  rw [he, Option.toList, List.append_nil]
  exact h

/-- **One step** keeps it. -/
theorem sound_step {lines : List (List Char)} {s s' : State} {e : Event} (h : Sound pf lines s)
    (hs : step pf s e = some s') : Sound pf (lines ++ e.line?.toList) s' := by
  cases e with
  | begin slot_index slave =>
    cases hs
    exact Sound.silent pf rfl (h.start pf slot_index slave)
  | call n e =>
    obtain ⟨c, place, hc, hplace, rfl⟩ := call_cases hs
    exact Sound.silent pf rfl (h.call pf hc hplace)
  | recv line => exact h.recv pf hs
  | compare =>
    obtain ⟨slave, d, hlooked, rfl | rfl⟩ := compare_cases hs
    · refine Sound.silent pf rfl ⟨h.data, fun slave' d' hd' => (by cases hd'), ?_, h.calls⟩
      intro d' hd'
      cases hd'
      exact h.looked slave d hlooked
    · exact Sound.silent pf rfl
        ⟨h.data, fun slave' d' hd' => (by cases hd'), fun d' hd' => (by cases hd'), h.calls⟩
  | store =>
    obtain ⟨d, hpassed, rfl⟩ := store_cases hs
    refine Sound.silent pf rfl
      ⟨?_, fun slave' d' hd' => (by cases hd'), fun d' hd' => (by cases hd'), ?_⟩
    · intro d' hd'
      cases hd'
      exact h.passed d hpassed
    · intro c hc res hres hok
      obtain ⟨c', hc', rfl⟩ := List.mem_map.mp hc
      rw [wake_result] at hres
      exact h.calls c' hc' res hres hok

theorem sound_init : Sound pf [] .init where
  data d hd := by cases hd
  looked slave d hd := by cases hd
  passed d hd := by cases hd
  calls c hc := by cases hc

/-! ## The runs of `Transactions` -/

def placeOf (c : Command) : Pc → Place
  | .began => .began
  | .sent => .sent
  | .waiting => .waiting
  | .woken => .woken
  | .leaving o => .leaving (returnedDict c o)
  | .returned o => .returned (returnedDict c o)

def callOf (c : System.Call) : Call := ⟨c.command.slot, .int c.command.slave, placeOf c.command c.pc⟩

def listenerOf : System.Listener → Listener
  | .idle => .idle
  | .looked _ slave d => .looked slave d
  | .passed _ d => .passed d

def slaveJson : Option Int → Json
  | some k => .int k
  | none => .null

/-- What there is of a state of `Transactions` here. -/
def stateOf (s : System.State) : State where
  calls := s.calls.map callOf
  response_data := s.response_data.map Stored.dict
  response_event := s.response_event
  waiting_for_slave := slaveJson s.waiting_for_slave
  listener := listenerOf s.listener

def callStepOf : System.CallStep → CallStep
  | .write => .write
  | .noPort => .write
  | .writeFails _ => .writeFails
  | .enterWait => .enterWait
  | .expire => .expire
  | .take => .take
  | .leave => .leave

/-- An event of `Transactions` here: a frame is the line that arrives. -/
def eventOf (U : Unicode) (s : System.State) : System.Event → Option Event
  | .begin c => some (.begin c.slot (.int c.slave))
  | .call n e => some (.call n (callStepOf e))
  | .recv a => (a.text? U s.calls).map .recv
  | .compare => some .compare
  | .store => some .store

theorem callOf_finish (calls : List System.Call) :
    (calls.map System.Call.finish).map callOf = calls.map callOf := by
  rw [List.map_map]
  rfl

theorem callOf_mark (k : Int) (calls : List System.Call) :
    (calls.map (System.Call.mark k)).map callOf = calls.map callOf := by
  rw [List.map_map]
  rfl

theorem callOf_wake (calls : List System.Call) :
    (calls.map System.Call.wake).map callOf = (calls.map callOf).map Call.wake := by
  rw [List.map_map, List.map_map]
  refine List.map_congr_left fun c _ => ?_
  obtain ⟨command, written, asked, heard, pc⟩ := c
  cases pc with
  | _ => rfl

theorem takenOf (s : System.State) (c : System.Call) :
    returnedDict c.command s.taken = (stateOf s).taken (callOf c) := by
  unfold System.State.taken State.taken stateOf
  cases s.response_data with
  | none => rfl
  | some st =>
    dsimp only [Option.map_some]
    cases hdict : st.dict with
    | nil => rfl
    | cons kv d =>
      rw [if_neg (List.cons_ne_nil _ _)]
      exact hdict

/-- A call goes on here as there. -/
theorem advanceOf {s : System.State} {c c' : System.Call} {e : System.CallStep}
    (h : c.advance s e = some c') :
    (callOf c).advance (stateOf s) (callStepOf e) = some (placeOf c.command c'.pc) ∧
      c'.command = c.command := by
  obtain ⟨command, written, asked, heard, pc⟩ := c
  unfold System.Call.advance at h
  split at h
  · rename_i hpc
    cases h
    cases hpc
    exact ⟨rfl, rfl⟩
  · rename_i hpc
    cases h
    cases hpc
    exact ⟨rfl, rfl⟩
  · rename_i hpc
    cases h
    cases hpc
    exact ⟨rfl, rfl⟩
  · rename_i hpc
    cases h
    cases hpc
    refine ⟨?_, rfl⟩
    have hevent : (stateOf s).response_event = s.response_event := rfl
    simp only [callOf, placeOf, callStepOf, Call.advance, hevent]
    cases s.response_event with
    | _ => rfl
  · rename_i hpc
    cases h
    cases hpc
    exact ⟨rfl, rfl⟩
  · rename_i hpc
    cases h
    cases hpc
    exact ⟨congrArg (fun d => some (Place.leaving d)) (takenOf s _).symm, rfl⟩
  · rename_i hpc
    cases h
    cases hpc
    exact ⟨rfl, rfl⟩
  · cases h

theorem stateOf_share (s : System.State) (e : System.CallStep) :
    (stateOf s).share (callStepOf e) = stateOf (s.share e) := by
  cases e with
  | _ => rfl

theorem stateOf_finish (s : System.State) :
    stateOf s.finish = { stateOf s with listener := .idle } := by
  unfold System.State.finish stateOf
  rw [callOf_finish]
  rfl

theorem stateOf_mark (s : System.State) (k : Int) :
    stateOf { s with calls := s.calls.map (System.Call.mark k) } = stateOf s := by
  unfold stateOf
  rw [callOf_mark]

theorem stateOf_waiting (s : System.State) :
    (stateOf s).waiting_for_slave = slaveJson s.waiting_for_slave := rfl

theorem stateOf_listener (s : System.State) : (stateOf s).listener = listenerOf s.listener := rfl

/-- The slave that a controller's frame is compared by. -/
def IntSlave (s : System.State) : Prop :=
  ∀ a slave d, s.listener = .looked a slave d → ∃ k : Int, slave = .int k

section Refines

variable {U : Unicode} {pf : List Char → PyFloat} {s s' : System.State}

theorem call_refines {n : Nat} {e : System.CallStep} (h : System.step U pf s (.call n e) = some s') :
    step pf (stateOf s) (.call n (callStepOf e)) = some (stateOf s') := by
  obtain ⟨c, c', hc, hadvance, rfl⟩ := move_spec h
  obtain ⟨hplace, hcommand⟩ := advanceOf hadvance
  have hcalls : (stateOf s).calls[n]? = some (callOf c) := by
    rw [share_calls] at hc
    unfold stateOf
    rw [List.getElem?_map, hc]
    rfl
  simp only [step, hcalls, hplace]
  rw [stateOf_share, share_calls]
  unfold stateOf
  rw [List.map_set, callOf, callOf, hcommand]

theorem recv_refines {a : Arrival} (h : System.step U pf s (.recv a) = some s') :
    ∃ line, a.text? U s.calls = some line ∧ step pf (stateOf s) (.recv line) = some (stateOf s') := by
  obtain ⟨line, hidle, hline, hcases⟩ := recv_spec U pf h
  refine ⟨line, hline, ?_⟩
  have hlistener : (stateOf s).listener = .idle := by rw [stateOf_listener, hidle, listenerOf]
  rcases hcases with ⟨hresponse, rfl⟩ | ⟨slave, d, hresponse, ⟨hnone, rfl⟩ | ⟨hsome, rfl⟩⟩
  · simp only [step, hlistener, hresponse]
  · have hwaiting : (stateOf s).waiting_for_slave = .null := by
      rw [stateOf_waiting, hnone, slaveJson]
    simp only [step, hlistener, hresponse, hwaiting]
    rw [stateOf_finish, stateOf_mark, ← hlistener]
  · obtain ⟨k, hk⟩ := Option.ne_none_iff_exists'.mp hsome
    have hwaiting : (stateOf s).waiting_for_slave = .int k := by
      rw [stateOf_waiting, hk, slaveJson]
    simp only [step, hlistener, hresponse, hwaiting]
    rw [← hwaiting]
    unfold stateOf
    rw [callOf_mark]
    rfl

theorem compare_refines (hslave : IntSlave s) (h : System.step U pf s .compare = some s') :
    step pf (stateOf s) .compare = some (stateOf s') := by
  obtain ⟨a, slave, d, hlooked, hcases⟩ := compare_spec U pf h
  have hlistener : (stateOf s).listener = .looked slave d := by
    rw [stateOf_listener, hlooked, listenerOf]
  simp only [step, hlistener]
  rcases hcases with ⟨w, hw, heq, rfl⟩ | ⟨hother, rfl⟩
  · have hwaiting : (stateOf s).waiting_for_slave = .int w := by
      rw [stateOf_waiting, hw, slaveJson]
    rw [hwaiting, if_pos heq, ← hwaiting]
    rfl
  · have hne : ¬ slave.pyEq (stateOf s).waiting_for_slave = true := by
      rw [stateOf_waiting]
      cases hw : s.waiting_for_slave with
      | none =>
        -- `None` is no slave
        obtain ⟨k, rfl⟩ := hslave a slave d hlooked
        simp [slaveJson, Json.pyEq, Json.num?]
      | some w =>
        rw [slaveJson, hother w hw]
        exact Bool.false_ne_true
    rw [if_neg hne, stateOf_finish]

theorem store_refines (h : System.step U pf s .store = some s') :
    step pf (stateOf s) .store = some (stateOf s') := by
  obtain ⟨a, d, hpassed, rfl⟩ := store_spec U pf h
  have hlistener : (stateOf s).listener = .passed d := by
    rw [stateOf_listener, hpassed, listenerOf]
  simp only [step, hlistener, stateOf_finish]
  unfold State.put stateOf System.State.put
  rw [callOf_wake]
  rfl

/-- **A step there is a step here.** -/
theorem step_refines {e : System.Event} (hslave : IntSlave s) (h : System.step U pf s e = some s') :
    ∃ e', eventOf U s e = some e' ∧ step pf (stateOf s) e' = some (stateOf s') := by
  cases e with
  | begin c =>
    cases h
    refine ⟨_, rfl, congrArg some ?_⟩
    unfold State.start stateOf System.State.start
    rw [List.map_append]
    rfl
  | call n e => exact ⟨_, rfl, call_refines h⟩
  | recv a =>
    obtain ⟨line, hline, hstep⟩ := recv_refines h
    exact ⟨.recv line, by rw [eventOf, hline, Option.map_some], hstep⟩
  | compare => exact ⟨_, rfl, compare_refines hslave h⟩
  | store => exact ⟨_, rfl, store_refines h⟩

/-- A listener that has compared, or has no frame. -/
theorem intSlave_of_ne (h : ∀ a slave d, s.listener ≠ .looked a slave d) : IntSlave s :=
  fun a slave d hlooked => absurd hlooked (h a slave d)

theorem intSlave_step {e : System.Event} (hslave : IntSlave s) (h : System.step U pf s e = some s') :
    IntSlave s' := by
  cases e with
  | begin c =>
    cases h
    exact hslave
  | call n e =>
    obtain ⟨c, c', -, -, rfl⟩ := move_spec h
    intro a slave d hlooked
    have hlistener : (s.share e).listener = s.listener := by
      cases e with
      | _ => rfl
    exact hslave a slave d (hlistener.symm.trans hlooked)
  | recv a =>
    obtain ⟨t, -, ht, ⟨-, rfl⟩ | ⟨slave, d, hresponse, ⟨-, rfl⟩ | ⟨-, rfl⟩⟩⟩ := recv_spec U pf h
    · exact hslave
    · exact intSlave_of_ne fun a slave d hlooked => (by cases hlooked)
    · intro a' slave' d' hlooked
      cases hlooked
      exact ⟨a.sender, (responseOf_spec U pf ht hresponse).1⟩
  | compare =>
    obtain ⟨a, slave, d, -, ⟨w, -, -, rfl⟩ | ⟨-, rfl⟩⟩ := compare_spec U pf h
    · exact intSlave_of_ne fun a slave d hlooked => (by cases hlooked)
    · exact intSlave_of_ne fun a slave d hlooked => (by cases hlooked)
  | store =>
    obtain ⟨a, d, -, rfl⟩ := store_spec U pf h
    exact intSlave_of_ne fun a slave d hlooked => (by cases hlooked)

/-- **A run there is a run here.** -/
theorem run_refines (es : List System.Event) (hslave : IntSlave s)
    (hrun : run (System.step U pf) s es = some s') :
    ∃ es', run (step pf) (stateOf s) es' = some (stateOf s') := by
  induction es generalizing s with
  | nil =>
    cases hrun
    exact ⟨[], rfl⟩
  | cons e es ih =>
    simp only [run] at hrun
    split at hrun
    · rename_i t ht
      obtain ⟨e', -, hstep⟩ := step_refines hslave ht
      obtain ⟨es', hrest⟩ := ih (intSlave_step hslave ht) hrun
      refine ⟨e' :: es', ?_⟩
      simp only [run, hstep]
      exact hrest
    · cases hrun

end Refines

end SmartLocker.System.SerialThreads
