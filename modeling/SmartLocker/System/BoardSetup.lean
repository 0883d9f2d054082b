import SmartLocker.System.Network
import SmartLocker.System.SetupReport

/-!
# A setup on a bus of controllers

The pass of `_run_setup` over one cabinet, with its replies coming from a session on the bus.
`setup_on_boards` goes from the layout to the locks and back to the verdict: the pass writes the tests
of its layout, the controller pulses the lock of each entry that it has, once and in the order of the
layout, no other controller drives a lock, and the status that is published is the one the doors give.
-/

set_option autoImplicit false

namespace SmartLocker.System.Network

open Lib Lib.Machine Lib.Python SmartLocker.Firmware SmartLocker.Gateway SlotCounts

/-- The slot of the entry is there and its door is open after the pulse. -/
def opens (bus : Bus) (c : Command) (w : Readings) : Bool :=
  match boardOf bus c.slave, c.ask with
  | some b, .slot _ k => k < b.NUM_SLOTS && !isDoorClosed b w k
  | _, _ => false

/-- The status for the tests of a layout. -/
def statusOf (found : List Bool) : String :=
  if found.all id then "COMPLETED" else if found.any id then "PARTIAL" else "FAILED"

/-- The test of an entry of a layout. -/
def testOf (U : Unicode) (slave : Int) (entry : Json) : Option Command :=
  (testSlotOf U entry).map (fun p => ⟨slave, .slot .T p.2⟩)

variable {bus : Bus}

/-- A pass whose tests are the exchanges of a session: all entries are tested, the client takes the
topic of the progress, and the replies are what the session returns. -/
structure BoardSetup (pf : List Char → PyFloat) (bus : Bus) (io : SetupOutside) (topicPrefix : PyStr)
    (j : Nat) (V : Visit) (slave : Int) (net : Net) (xs : List (Exchange bus)) : Prop where
  slave_id : getD V.cab_data "slaveId" (.int 1) = .int slave
  tested : ∀ entry ∈ V.slots, isTested io.U entry = true
  progress : io.publish (topicPrefix ++ py "/setup/progress") = .ok ()
  idle : net.Idle bus
  fits : Along netStep (Exchange.Fits io.U) net xs
  commands : xs.map Exchange.command = V.slots.filterMap (testOf io.U slave)
  reply : ∀ i d, (returns pf net xs)[i]? = some d → io.reply j i = d

/-! ## One test -/

/-- The verdict on the answer of the bus. -/
theorem verdict_answer (U : Unicode) {c : Command} (hc : InRange c) {k : Int}
    (hask : c.ask = .slot .T k) (w : Readings) :
    ((testVerdict U (answer bus c w)).test_result = "OK") ↔ opens bus c w = true := by
  have hk : 0 ≤ k := by
    have := hc.2
    rw [hask] at this
    exact this.1
  have hrequest : request c = .slotAction 'T' k := by
    rw [request, hask]
    rfl
  have hfails : ∀ d, isOk d = false → (testVerdict U d).test_result ≠ "OK" := by
    intro d hd
    simp [testVerdict, hd]
  unfold opens
  cases hboard : boardOf bus c.slave with
  | none =>
    rw [answer, hboard]
    exact iff_of_false (hfails _ (SerialThreads.isOk_timeout _ _)) (by simp)
  | some b =>
    rw [answer, hboard, hrequest, hask]
    simp only [replyTo]
    by_cases hslots : k < b.NUM_SLOTS
    · rw [if_neg (by omega), if_pos (Or.inl trivial)]
      dsimp only
      have hslot : k ≠ -1 := by omega
      have hdoor : (getD (replyData b ⟨k, b.lockPin k, "OK".toList, w.elapsedInt,
          isDoorClosed b w k, []⟩) "door" (.bool false)).truthy = isDoorClosed b w k := by
        simp [replyData, replyFields, hslot, getD, entry, Field.json, Json.truthy]
      rw [testVerdict, isOk_replyData, hdoor]
      cases isDoorClosed b w k <;> simp [hslots]
    · rw [if_pos (by omega)]
      refine iff_of_false (hfails _ ?_) (by simp [hslots])
      rw [isOk_replyData]
      exact decide_eq_false (by decide : "FAIL".toList ≠ "OK".toList)

/-- The reply to a test is what `test_slot` returns. -/
theorem testReply_eq (io : SetupOutside) (j i : Nat) (slave k : Int) :
    testReply io j (.int slave) i k = io.reply j i := by
  have hwritten : written (testCommand io.U (.int k) (.int slave)) =
      some ((⟨slave, .slot .T k⟩ : Command).bytes io.U) :=
    (⟨slave, .slot .T k⟩ : Command).written_text io.U
  rw [testReply, commandResult, hwritten]

/-! ## The tests of a layout -/

/-- The tests find what the controllers answered. -/
theorem tests_found (io : SetupOutside) (j : Nat) (slave : Int) :
    ∀ (slots : List Json) (n : Nat) (calls : List (Command × Readings)),
      (∀ entry ∈ slots, isTested io.U entry = true) →
      calls.map Prod.fst = slots.filterMap (testOf io.U slave) →
      (∀ p ∈ calls, InRange p.1) →
      (∀ i d, (calls.map (fun p => answer bus p.1 p.2))[i]? = some d → io.reply j (n + i) = d) →
      (testsOf io j (.int slave) (slots.zipIdx n)).map (SlotTest.foundOk io.U) =
        calls.map (fun p => opens bus p.1 p.2)
  | [], n, calls, _, hcalls, _, _ => by
    rw [List.map_eq_nil_iff.mp hcalls]
    rfl
  | entry :: slots, n, calls, htested, hcalls, hrange, hreply => by
    obtain ⟨⟨d, k⟩, hentry⟩ : ∃ p, testSlotOf io.U entry = some p :=
      Option.isSome_iff_exists.mp (htested entry List.mem_cons_self)
    rw [List.filterMap_cons_some (by rw [testOf, hentry]; rfl)] at hcalls
    obtain ⟨⟨c, w⟩, calls, rfl, rfl, htail⟩ := List.map_eq_cons_iff.mp hcalls
    have ih := tests_found io j slave slots (n + 1) calls
      (fun e he => htested e (List.mem_cons_of_mem _ he)) htail
      (fun p hp => hrange p (List.mem_cons_of_mem _ hp)) (fun i d hd => by
        have := hreply (i + 1) d (by simpa using hd)
        rw [← this]
        congr 1
        omega)
    have hfirst : io.reply j n = answer bus ⟨slave, .slot .T k⟩ w := by
      simpa using hreply 0 _ rfl
    have hverdict : (testVerdict io.U (answer bus ⟨slave, .slot .T k⟩ w)).test_result = "OK" ↔
        opens bus ⟨slave, .slot .T k⟩ w = true :=
      verdict_answer io.U (hrange _ List.mem_cons_self) rfl w
    rw [List.zipIdx_cons, testsOf_cons, hentry]
    dsimp only
    rw [List.map_cons, List.map_cons, ih, testReply_eq, hfirst]
    congr 1
    rw [SlotTest.foundOk, SlotTest.verdict, Bool.eq_iff_iff, decide_eq_true_iff]
    exact hverdict

/-- The status of the tally is the status of what was found. -/
theorem setupStatus_found (U : Unicode) (ts : List SlotTest) :
    setupStatus (tallied U {} ts) = statusOf (ts.map (SlotTest.foundOk U)) := by
  have hall : ts.countP (fun T => !T.foundOk U) = 0 ↔ ∀ T ∈ ts, T.foundOk U = true := by
    simp [List.countP_eq_zero]
  have hany : ts.countP (SlotTest.foundOk U) = 0 ↔ ∀ T ∈ ts, T.foundOk U = false := by
    simp [List.countP_eq_zero]
  rw [setupStatus, tallied_ok, tallied_fail, statusOf]
  simp only [Nat.zero_add, hall, hany, List.all_map, List.any_map, Function.comp_def, id]
  have hall' : (ts.all fun T => T.foundOk U) = true ↔ ∀ T ∈ ts, T.foundOk U = true :=
    List.all_eq_true
  have hany' : (ts.any fun T => T.foundOk U) = true ↔ ¬ ∀ T ∈ ts, T.foundOk U = false := by
    rw [List.any_eq_true]
    push Not
    simp only [ne_eq, Bool.not_eq_false]
  simp only [hall', hany']
  split
  · rfl
  split <;> rfl

/-! ## What a pass writes -/

/-- The loop over the layout writes its tests. -/
theorem busWrites_runTests {io : SetupOutside} {r : CabinetRun} {slave : Int}
    (hslave : r.slave_id = .int slave)
    (hprogress : io.publish (r.topicPrefix ++ py "/setup/progress") = .ok ()) :
    ∀ (slots : List (Json × Nat)) (t : Tally), (∀ s ∈ slots, isTested io.U s.1 = true) →
      busWrites (runTests io r slots t).effects =
        ((slots.map Prod.fst).filterMap (testOf io.U slave)).map (fun c => c.bytes io.U)
  | [], t, _ => rfl
  | (entry, i) :: slots, t, htested => by
    obtain ⟨⟨d, k⟩, hentry⟩ : ∃ p, testSlotOf io.U entry = some p :=
      Option.isSome_iff_exists.mp (htested _ List.mem_cons_self)
    have ih := busWrites_runTests hslave hprogress slots
    rcases runTests_cons io r entry i slots t with ⟨hpassed, e, h⟩ | ⟨-, hnone, h⟩ |
      ⟨d', k', -, hsome, h⟩
    · -- an entry that is tested is passed
      obtain ⟨hobj, hindex⟩ := testSlotOf_passed hentry
      rw [hobj] at hpassed
      simp [isPassed, hindex, Except.toBool] at hpassed
    · rw [hentry] at hnone
      cases hnone
    · have hwritten : written (testCommand io.U (.int k') (.int slave)) =
          some ((⟨slave, .slot .T k'⟩ : Command).bytes io.U) :=
        (⟨slave, .slot .T k'⟩ : Command).written_text io.U
      rw [h, runTest_eq, hprogress, hslave, hwritten]
      simp only [Except.map]
      rw [Py.mk_ok_bind]
      dsimp only
      rw [busWrites_append, ih _ fun s hs => htested s (List.mem_cons_of_mem _ hs), List.map_cons,
        List.filterMap_cons, testOf, hsome]
      rfl

/-- The pass writes nothing else. -/
theorem busWrites_setupCabinet (io : SetupOutside) (topicPrefix : PyStr) (command_id : Json) (j : Nat)
    {cab : Json} {V : Visit} (hvisit : visit io.U cab = .ok V) :
    busWrites (setupCabinet io topicPrefix command_id j cab).effects =
      busWrites (runTests io (V.run topicPrefix command_id j) V.slots.zipIdx {}).effects := by
  have hresult : ∀ topic payload,
      busWrites (mqttPublish io.toOutside topic payload).effects = [] := by
    intro topic payload
    cases hp : io.publish topic with
    | error e => rw [mqttPublish_error hp]; rfl
    | ok _ => rw [mqttPublish_ok hp]; rfl
  have hstored : ∀ r, busWrites (storeReported io j r).effects = [] := by
    intro r
    refine List.filterMap_eq_nil_iff.mpr fun e he => ?_
    cases e with
    | write bs => cases storeReported_notTest _ he
    | _ => rfl
  unfold busWrites at hresult hstored ⊢
  rw [setupCabinet_eq, Py.filterMap_bind_silent _ _ hstored,
    reportCabinet_visit io topicPrefix command_id j hvisit]
  refine Py.filterMap_bind_silent _ _ fun t => ?_
  rw [Py.filterMap_bind_silent _ _ fun details => ?_]
  · rfl
  rw [Py.filterMap_bind_silent _ _ fun _ => rfl]
  exact hresult _ _

/-! ## The theorem -/

/-- **A setup on a bus of controllers**: the pass writes the tests of its layout, each controller drives
its locks as these tests say, and a result that is published has the status of what the doors did. -/
theorem setup_on_boards {pf : List Char → PyFloat} {io : SetupOutside} {topicPrefix : PyStr}
    {command_id : Json} {j : Nat} {cab : Json} {V : Visit} {slave : Int} {net : Net}
    {xs : List (Exchange bus)} (hvisit : visit io.U cab = .ok V)
    (h : BoardSetup pf bus io topicPrefix j V slave net xs) :
    busWrites (setupCabinet io topicPrefix command_id j cab).effects =
        xs.map (fun x => x.command.bytes io.U) ∧
      (∀ b ∈ bus.boards, lockWrites b (effectsOn b net xs) =
        (V.slots.filterMap (testOf io.U slave)).flatMap (lockDrive b)) ∧
      ∃ calls : List (Command × Readings),
        calls.map Prod.fst = V.slots.filterMap (testOf io.U slave) ∧
        (∀ b ∈ bus.boards, effectsOn b net xs = calls.flatMap (fun p => done b p.1 p.2)) ∧
        (Reports io topicPrefix V.slots →
          ∃ payload, .publish (topicPrefix ++ py "/setup/result") payload ∈
            (setupCabinet io topicPrefix command_id j cab).effects) ∧
        ∀ payload, .publish (topicPrefix ++ py "/setup/result") payload ∈
            (setupCabinet io topicPrefix command_id j cab).effects →
          get? payload "status" =
            some (.lit (statusOf (calls.map (fun p => opens bus p.1 p.2)))) := by
  obtain ⟨calls, hcommands, hreturns, hon⟩ := session_calls pf h.idle h.fits
  refine ⟨?_, fun b hb => ?_, calls, hcommands.trans h.commands, hon,
    (reports_iff command_id j hvisit).mpr, fun payload hpayload => ?_⟩
  · have htested : ∀ s ∈ V.slots.zipIdx, isTested io.U s.1 = true :=
      fun s hs => h.tested s.1 (List.fst_mem_of_mem_zipIdx hs)
    rw [busWrites_setupCabinet io topicPrefix command_id j hvisit,
      busWrites_runTests h.slave_id h.progress _ _ htested, List.zipIdx_map_fst, ← h.commands,
      List.map_map]
    rfl
  · rw [lockWrites_session h.idle h.fits hb, h.commands]
  · have hrange : ∀ p ∈ calls, InRange p.1 := by
      intro p hp
      have hmem := List.mem_map_of_mem (f := Prod.fst) hp
      rw [hcommands] at hmem
      obtain ⟨x, hx, heq⟩ := List.mem_map.mp hmem
      exact heq ▸ inRange_of_fits h.fits x hx
    have hfound := tests_found io j slave V.slots 0 calls h.tested (hcommands.trans h.commands) hrange
      (fun i d hd => by rw [Nat.zero_add]; exact h.reply i d (hreturns ▸ hd))
    rw [← h.slave_id] at hfound
    obtain ⟨-, -, details, -, rfl⟩ := (result_published hvisit).mp hpayload
    have hstatus := setupStatus_found io.U (layoutTests io j V)
    rw [layoutTests, hfound] at hstatus
    rw [← hstatus]
    rfl

/-- A slot that the controller has and one that it has not. -/
def boardLayout : List Json :=
  [.obj [(py "slotIndex", .int 0), (py "row", .int 0), (py "column", .int 0)],
    .obj [(py "slotIndex", .int 5), (py "row", .int 0), (py "column", .int 1)]]

/-- A cabinet of slave 2. -/
def boardCabinet : Dict :=
  [(py "cabinetId", .lit "cab-123"), (py "cabinetCode", .lit "A"), (py "slaveId", .int 2),
    (py "lockerLayout", .arr boardLayout)]

theorem setup_on_boards_sample :
    ∃ (io : SetupOutside) (V : Visit) (xs : List (Exchange twoBoards)),
      visit io.U (.obj boardCabinet) = .ok V ∧
      BoardSetup noFloat twoBoards io (py "iot/m") 0 V 2 .boot xs ∧
      busWrites (setupCabinet io (py "iot/m") (.lit "c-1") 0 (.obj boardCabinet)).effects =
        xs.map (fun x => x.command.bytes io.U) := by
  have hrange : ∀ c ∈ ([⟨2, .slot .T 0⟩, ⟨2, .slot .T 5⟩] : List Command), InRange c := by
    simp only [List.forall_mem_cons]
    exact ⟨⟨by decide, by decide⟩, ⟨by decide, by decide⟩, by simp⟩
  obtain ⟨xs, hcommands, hfits⟩ :=
    session_exists Unicode.ascii hrange .boot (idle_boot twoBoards)
  let io : SetupOutside :=
    { sampleSetupOutside with reply := fun _ i => ((returns noFloat .boot xs)[i]?).getD [] }
  have hsetup : BoardSetup noFloat twoBoards io (py "iot/m") 0
      ⟨.lit "cab-123", boardCabinet, .lit "A", boardLayout⟩ 2 .boot xs := {
    slave_id := rfl
    tested := (by decide : ∀ entry ∈ boardLayout, isTested Unicode.ascii entry = true)
    progress := rfl
    idle := idle_boot twoBoards
    fits := hfits
    commands := hcommands
    reply := fun i d hd => by
      show ((returns noFloat .boot xs)[i]?).getD [] = d
      rw [hd]
      rfl }
  exact ⟨io, _, xs, rfl, hsetup, (setup_on_boards rfl hsetup).1⟩

end SmartLocker.System.Network
