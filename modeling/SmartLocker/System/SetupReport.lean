import SmartLocker.System.SetupOutcome

/-!
# The report of a setup

The loop over a layout skips entries without a slot index and collects one result for each entry it
tests.  The report pairs layout and results by position, and counts the entries of the layout as tested.

* `setup_report_paired` — the results are those of their own entries just if the tested entries come
  first in the layout;
* `setup_accounting` — totals, status and progress add up just if no entry is skipped and there is one.
-/

set_option autoImplicit false

namespace SmartLocker.System

open Lib Lib.Python SmartLocker.Gateway

/-! ## Entries that come first -/

section Leading

variable {α : Type}

/-- Those that meet `p` are in front of those that do not. -/
def Leading (p : α → Bool) (l : List α) : Prop := l.Pairwise fun a b => p b = true → p a = true

instance (p : α → Bool) (l : List α) : Decidable (Leading p l) := by
  unfold Leading
  infer_instance

/-- Behind an element that meets `p` nothing changes, behind another one nothing meets it. -/
theorem leading_cons {p : α → Bool} {a : α} {l : List α} :
    Leading p (a :: l) ↔ if p a then Leading p l else l.countP p = 0 := by
  cases hp : p a with
  | true => simp [Leading, hp]
  | false =>
    rw [if_neg Bool.false_ne_true, List.countP_eq_zero]
    constructor
    · intro h b hb hpb
      have hpa := (List.pairwise_cons.mp h).1 b hb hpb
      rw [hp] at hpa
      cases hpa
    · intro h
      exact List.pairwise_cons.mpr ⟨fun b hb hpb => absurd hpb (h b hb),
        List.pairwise_of_forall_mem_list fun b _ c hc hpc => absurd hpc (h c hc)⟩

/-- As many as meet `p`, taken from the front, all meet it. -/
theorem leading_iff_take {p : α → Bool} {l : List α} :
    Leading p l ↔ ∀ a ∈ l.take (l.countP p), p a = true := by
  induction l with
  | nil => simp [Leading]
  | cons a l ih =>
    rw [leading_cons]
    cases hp : p a with
    | true => rw [List.countP_cons_of_pos hp, List.take_succ_cons, List.forall_mem_cons, ← ih]; simp [hp]
    | false =>
      rw [if_neg Bool.false_ne_true, List.countP_cons_of_neg (by simp [hp])]
      cases hn : l.countP p with
      | zero => simp
      | succ n => simp [hp]

theorem Leading.filter_eq {p : α → Bool} {l : List α} (h : Leading p l) :
    l.filter p = l.take (l.countP p) := by
  induction l with
  | nil => rfl
  | cons a l ih =>
    rw [leading_cons] at h
    cases hp : p a with
    | true =>
      rw [hp, if_pos rfl] at h
      rw [List.countP_cons_of_pos hp, List.take_succ_cons, List.filter_cons_of_pos hp, ih h]
    | false =>
      rw [hp, if_neg Bool.false_ne_true] at h
      rw [List.countP_cons_of_neg (by simp [hp]), h, List.take_zero,
        List.filter_cons_of_neg (by simp [hp])]
      exact List.filter_eq_nil_iff.mpr (List.countP_eq_zero.mp h)

/-- The places of those that meet `p` are counted through just if they come first. -/
theorem leading_iff_places {p : α → Bool} (l : List α) (k : Nat) :
    ((l.zipIdx k).filter fun s => p s.1).map Prod.snd = List.range' k (l.countP p) ↔
      Leading p l := by
  induction l generalizing k with
  | nil => simp [Leading]
  | cons a l ih =>
    rw [leading_cons, List.zipIdx_cons, List.filter_cons, List.countP_cons]
    cases hp : p a with
    | true =>
      rw [if_pos rfl, if_pos rfl, if_pos rfl, List.range'_succ, List.map_cons, List.cons_inj_right, ih]
    | false =>
      rw [if_neg Bool.false_ne_true, if_neg Bool.false_ne_true, if_neg Bool.false_ne_true, Nat.add_zero]
      constructor
      · intro h
        by_contra hne
        -- the first place counted is `k`, the places in `l` are behind it
        obtain ⟨n, hn⟩ := Nat.exists_eq_succ_of_ne_zero hne
        have hk : k ∈ ((l.zipIdx (k + 1)).filter fun s => p s.1).map Prod.snd := by
          rw [h, hn, List.range'_succ]
          exact List.mem_cons_self
        obtain ⟨s, hs, rfl⟩ := List.mem_map.mp hk
        have hle := List.le_snd_of_mem_zipIdx (List.mem_filter.mp hs).1
        omega
      · intro hzero
        have hnone := List.countP_eq_zero.mp hzero
        rw [hzero, List.range'_zero, List.map_eq_nil_iff, List.filter_eq_nil_iff]
        intro s hs
        exact hnone s.1 (List.fst_mem_of_mem_zipIdx hs)

/-- A list is zipped no further than the other one goes. -/
theorem zip_take_length {β : Type} (l : List α) (l' : List β) :
    l.zip l' = (l.take l'.length).zip l' := by
  induction l generalizing l' with
  | nil => simp
  | cons a l ih =>
    cases l' with
    | nil => rfl
    | cons b l' =>
      rw [List.length_cons, List.take_succ_cons, List.zip_cons_cons, List.zip_cons_cons, ← ih]

theorem exists_mem_zip_of_length_le {β : Type} {l : List α} {l' : List β} (h : l.length ≤ l'.length)
    {a : α} (ha : a ∈ l) : ∃ p ∈ l.zip l', p.1 = a := by
  have hfst := List.map_fst_zip h
  rw [← hfst] at ha
  exact List.mem_map.mp ha

end Leading

/-! ## The tests of a pass -/

/-- An entry with the slot index it is tested at; `none` when it is skipped, or ends the run. -/
def testSlotOf (U : Unicode) : Json → Option (Dict × Int)
  | .obj d =>
    match slotIndexOf U d with
    | .ok (some k) => some (d, k)
    | _ => none
  | _ => none

def isTested (U : Unicode) (entry : Json) : Bool := (testSlotOf U entry).isSome

/-- The entry is tested or skipped: the loop gets past it. -/
def isPassed (U : Unicode) : Json → Bool
  | .obj d => (slotIndexOf U d).toBool
  | _ => false

structure SlotTest where
  /-- the place of the entry in the layout -/
  i : Nat
  slot : Dict
  slot_index : Int
  /-- what `test_slot` returns -/
  result : Dict

/-- What `test_slot` returns for entry `i` of cabinet `j`. -/
def testReply (io : SetupOutside) (j : Nat) (slave_id : Json) (i : Nat) (slot_index : Int) : Dict :=
  commandResult (testCommand io.U (.int slot_index) slave_id) (.int slot_index) slave_id (io.reply j i)

/-- The tests of the entries, in their order. -/
def testsOf (io : SetupOutside) (j : Nat) (slave_id : Json) (slots : List (Json × Nat)) :
    List SlotTest :=
  slots.filterMap fun s => (testSlotOf io.U s.1).map fun p =>
    ⟨s.2, p.1, p.2, testReply io j slave_id s.2 p.2⟩

namespace SlotTest

def verdict (U : Unicode) (T : SlotTest) : TestVerdict := testVerdict U T.result

/-- The slot was found OK. -/
def foundOk (U : Unicode) (T : SlotTest) : Bool := (T.verdict U).test_result = "OK"

/-- The dict that is collected for the test. -/
def recorded (U : Unicode) (T : SlotTest) : Dict :=
  OrdMap.set (OrdMap.set (OrdMap.set T.result (py "result") (.lit (T.verdict U).test_result))
    (py "error_code") (T.verdict U).error_code) (py "error_msg") (T.verdict U).error_msg

end SlotTest

/-- The tally after the tests `ts`. -/
def tallied (U : Unicode) (t : Tally) (ts : List SlotTest) : Tally :=
  ts.foldl (fun t T => t.add (T.verdict U) T.result) t

theorem tallied_results (U : Unicode) (t : Tally) (ts : List SlotTest) :
    (tallied U t ts).results = t.results ++ ts.map (SlotTest.recorded U) := by
  induction ts generalizing t with
  | nil => simp [tallied]
  | cons T ts ih =>
    have hadd : (t.add (T.verdict U) T.result).results = t.results ++ [T.recorded U] := rfl
    rw [tallied, List.foldl_cons, ← tallied, ih, hadd, List.map_cons, List.append_assoc,
      List.singleton_append]

theorem add_ok (U : Unicode) (t : Tally) (T : SlotTest) :
    (t.add (T.verdict U) T.result).ok_count = t.ok_count + (T.foundOk U).toNat := by
  unfold Tally.add SlotTest.foundOk
  by_cases h : (T.verdict U).test_result = "OK" <;> simp [h]

theorem add_fail (U : Unicode) (t : Tally) (T : SlotTest) :
    (t.add (T.verdict U) T.result).fail_count = t.fail_count + (!T.foundOk U).toNat := by
  unfold Tally.add SlotTest.foundOk
  by_cases h : (T.verdict U).test_result = "OK" <;> simp [h]

theorem tallied_ok (U : Unicode) (t : Tally) (ts : List SlotTest) :
    (tallied U t ts).ok_count = t.ok_count + ts.countP (SlotTest.foundOk U) := by
  induction ts generalizing t with
  | nil => rfl
  | cons T ts ih =>
    rw [tallied, List.foldl_cons, ← tallied, ih, add_ok, List.countP_cons]
    cases T.foundOk U <;> simp [Nat.add_assoc, Nat.add_comm]

theorem tallied_fail (U : Unicode) (t : Tally) (ts : List SlotTest) :
    (tallied U t ts).fail_count = t.fail_count + ts.countP (fun T => !T.foundOk U) := by
  induction ts generalizing t with
  | nil => rfl
  | cons T ts ih =>
    rw [tallied, List.foldl_cons, ← tallied, ih, add_fail, List.countP_cons]
    cases T.foundOk U <;> simp [Nat.add_assoc, Nat.add_comm]

/-- Every test counts once. -/
theorem tallied_counts (U : Unicode) (t : Tally) (ts : List SlotTest) :
    (tallied U t ts).ok_count + (tallied U t ts).fail_count =
      t.ok_count + t.fail_count + ts.length := by
  have hlength := List.length_eq_countP_add_countP (SlotTest.foundOk U) (l := ts)
  rw [tallied_ok, tallied_fail, hlength]
  have hnot : ts.countP (fun T => decide ¬ T.foundOk U = true) = ts.countP (fun T => !T.foundOk U) := by
    congr 1
    funext T
    cases T.foundOk U <;> rfl
  omega

/-! ### What the loop does -/

/-- One test: the command, the progress if the client takes its topic, and the tally with the test. -/
theorem runTest_eq (io : SetupOutside) (r : CabinetRun) (i : Nat) (slot : Dict) (k : Int) (t : Tally) :
    let T : SlotTest := ⟨i, slot, k, testReply io r.j r.slave_id i k⟩
    let t' := t.add (T.verdict io.U) T.result
    runTest io r i slot k t =
      ⟨(written (testCommand io.U (.int k) r.slave_id)).toList.map .write ++
        (match io.publish (r.topicPrefix ++ py "/setup/progress") with
          | .ok _ => [.publish (r.topicPrefix ++ py "/setup/progress")
              (progressPayload r i slot k T.result (T.verdict io.U) t' (io.testedAt r.j i))]
          | .error _ => []),
        (io.publish (r.topicPrefix ++ py "/setup/progress")).map fun _ => t'⟩ := by
  dsimp only
  unfold runTest testSlot
  rw [sendAndWait_eq, Py.mk_ok_bind]
  dsimp only
  cases h : io.publish (r.topicPrefix ++ py "/setup/progress") with
  | error e =>
    rw [mqttPublish_error h]
    rfl
  | ok _ =>
    rw [mqttPublish_ok h, Py.mk_ok_bind]
    simp only [Py.effects_pure, Py.result_pure, List.append_nil]
    rfl

/-- An entry that is tested is passed. -/
theorem testSlotOf_passed {U : Unicode} {entry : Json} {p : Dict × Int}
    (h : testSlotOf U entry = some p) :
    entry = .obj p.1 ∧ slotIndexOf U p.1 = .ok (some p.2) := by
  cases entry with
  | obj d =>
    unfold testSlotOf at h
    dsimp only at h
    split at h
    · rename_i hok
      cases h
      exact ⟨rfl, hok⟩
    · cases h
  | _ => cases h

/-- One entry of the loop. -/
theorem runTests_cons (io : SetupOutside) (r : CabinetRun) (entry : Json) (i : Nat)
    (slots : List (Json × Nat)) (t : Tally) :
    (isPassed io.U entry = false ∧ ∃ e, runTests io r ((entry, i) :: slots) t = Py.throw e) ∨
      (isPassed io.U entry = true ∧ testSlotOf io.U entry = none ∧
        runTests io r ((entry, i) :: slots) t = runTests io r slots t) ∨
      ∃ d k, isPassed io.U entry = true ∧ testSlotOf io.U entry = some (d, k) ∧
        runTests io r ((entry, i) :: slots) t =
          runTest io r i d k t >>= fun t' => runTests io r slots t' := by
  cases entry with
  | obj d =>
    cases hindex : slotIndexOf io.U d with
    | error e =>
      refine .inl ⟨by simp [isPassed, hindex, Except.toBool], e, ?_⟩
      simp only [runTests, Json.asDict, hindex, Py.ofExcept_ok_bind, Py.ofExcept_error_bind]
    | ok index =>
      have hpassed : isPassed io.U (.obj d) = true := by simp [isPassed, hindex, Except.toBool]
      cases index with
      | none =>
        refine .inr (.inl ⟨hpassed, by simp [testSlotOf, hindex], ?_⟩)
        simp only [runTests, Json.asDict, hindex, Py.ofExcept_ok_bind]
      | some k =>
        refine .inr (.inr ⟨d, k, hpassed, by simp [testSlotOf, hindex], ?_⟩)
        simp only [runTests, Json.asDict, hindex, Py.ofExcept_ok_bind]
  | _ => exact .inl ⟨rfl, .AttributeError, rfl⟩

theorem testsOf_cons (io : SetupOutside) (j : Nat) (slave_id : Json) (s : Json × Nat)
    (slots : List (Json × Nat)) :
    testsOf io j slave_id (s :: slots) =
      match testSlotOf io.U s.1 with
      | some (d, k) => ⟨s.2, d, k, testReply io j slave_id s.2 k⟩ :: testsOf io j slave_id slots
      | none => testsOf io j slave_id slots := by
  unfold testsOf
  rw [List.filterMap_cons]
  cases testSlotOf io.U s.1 <;> rfl

/-- **The loop that gets to its end** has tallied the tests of all entries.  It gets there when it gets
past every entry and the progress is published, if there is any. -/
theorem runTests_ok {io : SetupOutside} {r : CabinetRun} {slots : List (Json × Nat)} {t t' : Tally} :
    (runTests io r slots t).result = .ok t' ↔
      ((∀ s ∈ slots, isPassed io.U s.1 = true) ∧
        ((∃ s ∈ slots, isTested io.U s.1 = true) →
          io.publish (r.topicPrefix ++ py "/setup/progress") = .ok ())) ∧
        t' = tallied io.U t (testsOf io r.j r.slave_id slots) := by
  induction slots generalizing t with
  | nil =>
    have hnil : (runTests io r [] t).result = .ok t := rfl
    have htests : testsOf io r.j r.slave_id [] = [] := rfl
    rw [hnil, htests, Except.ok.injEq]
    simp only [List.not_mem_nil, false_and, exists_false, IsEmpty.forall_iff, implies_true, and_self,
      true_and]
    exact eq_comm
  | cons s slots ih =>
    obtain ⟨entry, i⟩ := s
    rw [testsOf_cons, List.forall_mem_cons]
    simp only [List.exists_mem_cons_iff]
    rcases runTests_cons io r entry i slots t with ⟨hpassed, e, h⟩ | ⟨hpassed, hnone, h⟩ |
      ⟨d, k, hpassed, hsome, h⟩
    · simp [h, hpassed]
    · have htested : isTested io.U entry = false := by simp [isTested, hnone]
      rw [h, ih]
      simp [hpassed, hnone, htested]
    · have htested : isTested io.U entry = true := by simp [isTested, hsome]
      rw [h, runTest_eq, hsome]
      cases hp : io.publish (r.topicPrefix ++ py "/setup/progress") with
      | error e =>
        simp only [Except.map, htested]
        rw [Py.bind_error rfl]
        simp
      | ok _ =>
        simp only [Except.map, htested]
        rw [Py.mk_ok_bind]
        dsimp only
        rw [ih, hp]
        simp [hpassed, tallied]

/-! ## The entries of the report -/

/-- The entry of a report that belongs to a test: the place of its own layout entry, and what its own
reply says. -/
def ownDetail (U : Unicode) (T : SlotTest) : Except PyErr Json := do
  let slotIndex ← item T.slot "slotIndex"
  let row ← item T.slot "row"
  let column ← item T.slot "column"
  .ok (.obj [(py "slotIndex", slotIndex), (py "row", row), (py "column", column),
    (py "testResult", .lit (T.verdict U).test_result),
    (py "hwState", if T.foundOk U then .lit "CLOSING" else .lit "OFFLINE"),
    (py "responseTimeMs", getD T.result "ms" .null), (py "errorCode", (T.verdict U).error_code),
    (py "errorMessage", (T.verdict U).error_msg)])

/-- The reported entries are those of the tests, one for each. -/
def PairedWithOwn (U : Unicode) (ts : List SlotTest) (lockers : List Json) : Prop :=
  ∃ own, ts.mapM (ownDetail U) = .ok own ∧ lockers.Perm own

theorem get?_set (d : Dict) (k k' : String) (v : Json) :
    get? (OrdMap.set d (py k) v) k' = if k' = k then some v else get? d k' := by
  induction d with
  | nil => exact get?_cons k' k v []
  | cons e d ih =>
    obtain ⟨k₀, v₀⟩ := e
    have hcons : ∀ d', get? ((k₀, v₀) :: d') k' = if py k' = k₀ then some v₀ else get? d' k' := by
      intro d'
      unfold get?
      rw [List.lookup_cons]
      by_cases h : py k' = k₀
      · simp [h]
      · have hother : (py k' == k₀) = false := by simpa using h
        rw [if_neg h, hother]
    rw [OrdMap.set]
    dsimp only
    by_cases h₀ : k₀ = py k
    · subst h₀
      rw [if_pos rfl, get?_cons, get?_cons]
      split <;> rfl
    · rw [if_neg h₀, hcons, hcons, ih]
      by_cases h : py k' = k₀
      · have hne : k' ≠ k := fun hk => h₀ (hk ▸ h.symm)
        rw [if_pos h, if_pos h, if_neg hne]
      · rw [if_neg h, if_neg h]

/-- An entry zipped with the result of its own test. -/
theorem lockerDetail_own (U : Unicode) (T : SlotTest) :
    lockerDetail (.obj T.slot) (T.recorded U) = ownDetail U T := by
  have hresult : getD (T.recorded U) "result" .null = .lit (T.verdict U).test_result := by
    simp [getD, SlotTest.recorded, get?_set]
  have hms : getD (T.recorded U) "ms" .null = getD T.result "ms" .null := by
    simp [getD, SlotTest.recorded, get?_set]
  have hcode : getD (T.recorded U) "error_code" .null = (T.verdict U).error_code := by
    simp [getD, SlotTest.recorded, get?_set]
  have hmsg : getD (T.recorded U) "error_msg" .null = (T.verdict U).error_msg := by
    simp [getD, SlotTest.recorded, get?_set]
  unfold lockerDetail ownDetail SlotTest.foundOk
  rw [hresult, hms, hcode, hmsg]
  dsimp only
  rw [pyEq_lit]
  rfl

/-! ### The published result -/

/-- What a pass reads before its tests. -/
structure Visit where
  cabinet_id : Json
  cab_data : Dict
  cabinet_name : Json
  slots : List Json

/-- A description that a pass gets to the tests with. -/
def visit (U : Unicode) (cab : Json) : Except PyErr Visit := do
  let cabinet_id ← cab.subscript "cabinetId"
  let cab_data ← cab.asDict
  let cabinet_name ← cabinetName U cab_data cabinet_id
  let slots ← (getD cab_data "lockerLayout" (.arr [])).iter
  .ok ⟨cabinet_id, cab_data, cabinet_name, slots⟩

/-- The pass, as its tests and messages know it. -/
def Visit.run (V : Visit) (topicPrefix : PyStr) (command_id : Json) (j : Nat) : CabinetRun :=
  ⟨j, topicPrefix, command_id, V.cabinet_id, getD V.cab_data "slaveId" (.int 1), V.slots.length⟩

/-- The tests of the layout of a cabinet. -/
def layoutTests (io : SetupOutside) (j : Nat) (V : Visit) : List SlotTest :=
  testsOf io j (getD V.cab_data "slaveId" (.int 1)) V.slots.zipIdx

/-- The entries of the layout zipped with the results. -/
def reportedPairs (io : SetupOutside) (j : Nat) (V : Visit) : List (Json × Dict) :=
  V.slots.zip ((layoutTests io j V).map (SlotTest.recorded io.U))

/-- A pass over a description that it can read. -/
theorem reportCabinet_visit (io : SetupOutside) (topicPrefix : PyStr) (command_id : Json) (j : Nat)
    {cab : Json} {V : Visit} (hvisit : visit io.U cab = .ok V) :
    reportCabinet io topicPrefix command_id j cab =
      runTests io (V.run topicPrefix command_id j) V.slots.zipIdx {} >>= fun t =>
        Py.ofExcept ((V.slots.zip t.results).mapM fun p => lockerDetail p.1 p.2) >>= fun details =>
          mqttPublish io.toOutside (topicPrefix ++ py "/setup/result")
            (resultSummary (V.run topicPrefix command_id j) (setupStatus t) V.slots.length
              t.ok_count t.fail_count (io.duration j) details (io.now j)) >>= fun _ =>
            pure ⟨V.cabinet_id, V.cab_data, V.cabinet_name,
              getD V.cab_data "lockerLayout" (.arr []), V.slots, t⟩ := by
  obtain ⟨cabinet_id, hid, h⟩ := except_bind_ok.mp hvisit
  obtain ⟨cab_data, hdata, h⟩ := except_bind_ok.mp h
  obtain ⟨cabinet_name, hname, h⟩ := except_bind_ok.mp h
  obtain ⟨slots, hslots, h⟩ := except_bind_ok.mp h
  cases h
  have hlen : (getD cab_data "lockerLayout" (.arr [])).len = .ok slots.length := by
    unfold Json.len
    rw [hslots]
    rfl
  unfold reportCabinet
  rw [hid, Py.ofExcept_ok_bind, hdata, Py.ofExcept_ok_bind, hname, Py.ofExcept_ok_bind]
  dsimp only
  rw [hlen, Py.ofExcept_ok_bind, hslots, Py.ofExcept_ok_bind]
  rfl

/-- The tests of a pass are those of its layout. -/
theorem runTests_visit {io : SetupOutside} {topicPrefix : PyStr} {command_id : Json} {j : Nat}
    {V : Visit} {t : Tally}
    (h : (runTests io (V.run topicPrefix command_id j) V.slots.zipIdx {}).result = .ok t) :
    t = tallied io.U {} (layoutTests io j V) := by
  rw [(runTests_ok.mp h).2]
  rfl

/-- **The results that a pass publishes**: one, when all is tested that is to be tested and every entry
that is zipped has its place. -/
theorem result_published {io : SetupOutside} {topicPrefix : PyStr} {command_id : Json} {j : Nat}
    {cab : Json} {V : Visit} (hvisit : visit io.U cab = .ok V) {payload : Dict} :
    .publish (topicPrefix ++ py "/setup/result") payload ∈
        (setupCabinet io topicPrefix command_id j cab).effects ↔
      (∃ t, (runTests io (V.run topicPrefix command_id j) V.slots.zipIdx {}).result = .ok t) ∧
        io.publish (topicPrefix ++ py "/setup/result") = .ok () ∧
        ∃ details, (reportedPairs io j V).mapM (fun p => lockerDetail p.1 p.2) = .ok details ∧
          payload = resultSummary (V.run topicPrefix command_id j)
            (setupStatus (tallied io.U {} (layoutTests io j V))) V.slots.length
            (tallied io.U {} (layoutTests io j V)).ok_count
            (tallied io.U {} (layoutTests io j V)).fail_count (io.duration j) details (io.now j) := by
  have hresults : (tallied io.U {} (layoutTests io j V)).results =
      (layoutTests io j V).map (SlotTest.recorded io.U) := tallied_results io.U {} _
  have hstored : ∀ r, .publish (topicPrefix ++ py "/setup/result") payload ∉
      (storeReported io j r).effects := by
    intro r h
    cases storeReported_notTest _ h
  have htests : .publish (topicPrefix ++ py "/setup/result") payload ∉
      (runTests io (V.run topicPrefix command_id j) V.slots.zipIdx {}).effects := by
    intro h
    exact absurd (List.append_cancel_left (runTests_topics _ _ h)) (by decide)
  rw [setupCabinet_eq, Py.mem_bind_iff, or_iff_left fun ⟨r, _, h⟩ => hstored r h,
    reportCabinet_visit io topicPrefix command_id j hvisit, Py.mem_bind_iff, or_iff_right htests]
  constructor
  · rintro ⟨t, ht, h⟩
    rw [runTests_visit ht, hresults] at h
    obtain ⟨details, hdetails, h⟩ := (Py.mem_bind_iff.mp h).resolve_left List.not_mem_nil
    rcases Py.mem_bind_iff.mp h with h | ⟨-, -, h⟩
    · cases hp : io.publish (topicPrefix ++ py "/setup/result") with
      | error e =>
        rw [mqttPublish_error hp] at h
        cases h
      | ok _ => exact ⟨⟨t, ht⟩, rfl, details, hdetails, (mqttPublish_mem h).2⟩
    · cases h
  · rintro ⟨⟨t, ht⟩, hp, details, hdetails, rfl⟩
    refine ⟨t, ht, ?_⟩
    rw [runTests_visit ht, hresults]
    refine Py.mem_bind_iff.mpr (.inr ⟨details, hdetails, Py.mem_bind_iff.mpr (.inl ?_)⟩)
    rw [mqttPublish_ok hp]
    exact List.mem_singleton_self _

/-! ## Pairing -/

/-- The entries that are tested. -/
theorem testsOf_slots (io : SetupOutside) (j : Nat) (slave_id : Json) (slots : List (Json × Nat)) :
    (testsOf io j slave_id slots).map (fun T => Json.obj T.slot) =
      (slots.map Prod.fst).filter (isTested io.U) := by
  induction slots with
  | nil => rfl
  | cons s slots ih =>
    rw [testsOf_cons, List.map_cons, List.filter_cons]
    unfold isTested at ih ⊢
    cases h : testSlotOf io.U s.1 with
    | none => simpa using ih
    | some p =>
      have hobj : s.1 = .obj p.1 := (testSlotOf_passed h).1
      simp [ih, hobj]

theorem layoutTests_slots (io : SetupOutside) (j : Nat) (V : Visit) :
    (layoutTests io j V).map (fun T => Json.obj T.slot) = V.slots.filter (isTested io.U) := by
  rw [layoutTests, testsOf_slots, List.zipIdx_map_fst]

theorem layoutTests_length (io : SetupOutside) (j : Nat) (V : Visit) :
    (layoutTests io j V).length = V.slots.countP (isTested io.U) := by
  rw [List.countP_eq_length_filter, ← layoutTests_slots io j, List.length_map]

/-- The slot index that an entry of a report has. -/
def reportedSlot : Json → Option Json
  | .obj d => get? d "slotIndex"
  | _ => none

/-- A reported entry has the slot index of the layout entry it is made of. -/
theorem lockerDetail_slot {slot detail : Json} {res : Dict} (h : lockerDetail slot res = .ok detail) :
    ∃ d v, slot = .obj d ∧ item d "slotIndex" = .ok v ∧ reportedSlot detail = some v := by
  obtain ⟨v, hv, h⟩ := except_bind_ok.mp h
  obtain ⟨_, -, h⟩ := except_bind_ok.mp h
  obtain ⟨_, -, h⟩ := except_bind_ok.mp h
  cases h
  cases slot with
  | obj d => exact ⟨d, v, rfl, hv, by simp [reportedSlot]⟩
  | _ => cases hv

/-- Whether an entry is tested is a matter of its slot index. -/
theorem isTested_congr (U : Unicode) {d d' : Dict} {v : Json} (h : item d "slotIndex" = .ok v)
    (h' : item d' "slotIndex" = .ok v) : isTested U (.obj d) = isTested U (.obj d') := by
  have hindex : slotIndexOf U d = slotIndexOf U d' := by
    unfold slotIndexOf
    rw [getD_of_item h, getD_of_item h']
  simp only [isTested, testSlotOf, hindex]
  split <;> rfl

/-- The pairs are those of as many entries as are tested. -/
theorem reportedPairs_eq (io : SetupOutside) (j : Nat) (V : Visit) :
    reportedPairs io j V = (V.slots.take (V.slots.countP (isTested io.U))).zip
      ((layoutTests io j V).map (SlotTest.recorded io.U)) := by
  rw [reportedPairs, zip_take_length, List.length_map, layoutTests_length]

theorem exists_reportedPair {io : SetupOutside} {j : Nat} {V : Visit} {entry : Json}
    (h : entry ∈ V.slots.take (V.slots.countP (isTested io.U))) :
    ∃ p ∈ reportedPairs io j V, p.1 = entry := by
  rw [reportedPairs_eq]
  refine exists_mem_zip_of_length_le ?_ h
  rw [List.length_map, layoutTests_length]
  exact List.length_take_le _ _

/-- **Setup results are paired with their own slots** just if no tested entry of the layout stands
behind one that is skipped. -/
theorem setup_report_paired (io : SetupOutside) (topicPrefix : PyStr) (command_id : Json) (j : Nat)
    (cab : Json) (V : Visit) (payload : Dict) (hvisit : visit io.U cab = .ok V)
    (h : .publish (topicPrefix ++ py "/setup/result") payload ∈
      (setupCabinet io topicPrefix command_id j cab).effects) :
    ∃ lockers, get? payload "lockers" = some (.arr lockers) ∧
      (PairedWithOwn io.U (layoutTests io j V) lockers ↔ Leading (isTested io.U) V.slots) := by
  obtain ⟨-, -, details, hdetails, rfl⟩ := (result_published hvisit).mp h
  refine ⟨details, by simp [resultSummary], ?_⟩
  constructor
  · rintro ⟨own, hown, hperm⟩
    rw [leading_iff_take]
    intro entry hentry
    obtain ⟨p, hp, rfl⟩ := exists_reportedPair (j := j) hentry
    obtain ⟨detail, hmem, hdetail⟩ := exists_mem_of_mapM hdetails hp
    obtain ⟨d, v, hd, hv, hslot⟩ := lockerDetail_slot hdetail
    -- the entry of the report is that of some test, and has its slot index
    obtain ⟨T, hT, hown⟩ := exists_of_mem_mapM hown (hperm.mem_iff.mp hmem)
    rw [← lockerDetail_own] at hown
    obtain ⟨d', v', hd', hv', hslot'⟩ := lockerDetail_slot hown
    rw [hslot] at hslot'
    cases hslot'
    cases hd'
    have htested : Json.obj T.slot ∈ V.slots.filter (isTested io.U) := by
      rw [← layoutTests_slots io j]
      exact List.mem_map_of_mem hT
    rw [hd, isTested_congr io.U hv hv']
    exact (List.mem_filter.mp htested).2
  · intro hleading
    refine ⟨details, ?_, .refl _⟩
    rw [← hdetails, reportedPairs_eq, ← hleading.filter_eq, ← layoutTests_slots io j, List.zip_map',
      List.mapM_map]
    congr 1
    funext T
    exact (lockerDetail_own io.U T).symm

/-- A cabinet of two slots. -/
def pairCabinet : Json :=
  .obj [(py "cabinetId", .lit "cab-123"), (py "cabinetCode", .lit "A"),
    (py "lockerLayout", .arr [
      .obj [(py "slotIndex", .int 0), (py "row", .int 0), (py "column", .int 0)],
      .obj [(py "slotIndex", .int 1), (py "row", .int 0), (py "column", .int 1)]])]

/-- The same with an entry in front that has no slot index. -/
def gappedCabinet : Json :=
  .obj [(py "cabinetId", .lit "cab-123"), (py "cabinetCode", .lit "A"),
    (py "lockerLayout", .arr [
      .obj [(py "slotIndex", .null), (py "row", .int 1), (py "column", .int 0)],
      .obj [(py "slotIndex", .int 0), (py "row", .int 0), (py "column", .int 0)],
      .obj [(py "slotIndex", .int 1), (py "row", .int 0), (py "column", .int 1)]])]

/-- `setup_report_paired` at two slots: the report is right. -/
theorem setup_report_paired_pair : ∃ V payload lockers, visit sampleSetupOutside.U pairCabinet = .ok V ∧
    .publish (py "iot/m" ++ py "/setup/result") payload ∈
      (setupCabinet sampleSetupOutside (py "iot/m") (.lit "c-1") 0 pairCabinet).effects ∧
    get? payload "lockers" = some (.arr lockers) ∧
    PairedWithOwn sampleSetupOutside.U (layoutTests sampleSetupOutside 0 V) lockers := by
  have hpublished : .publish (py "iot/m" ++ py "/setup/result") _ ∈
      (setupCabinet sampleSetupOutside (py "iot/m") (.lit "c-1") 0 pairCabinet).effects :=
    List.mem_of_getElem? (i := 4) rfl
  obtain ⟨lockers, hlockers, hiff⟩ := setup_report_paired sampleSetupOutside (py "iot/m") (.lit "c-1") 0
    pairCabinet _ _ rfl hpublished
  exact ⟨_, _, lockers, rfl, hpublished, hlockers, hiff.mpr (by decide)⟩

/-- **Behind a skipped entry** the report gives the result of slot 0 to the skipped entry, that of slot
1 to slot 0, and none to slot 1. -/
theorem setup_report_shifted : ∃ V payload lockers, visit sampleSetupOutside.U gappedCabinet = .ok V ∧
    .publish (py "iot/m" ++ py "/setup/result") payload ∈
      (setupCabinet sampleSetupOutside (py "iot/m") (.lit "c-1") 0 gappedCabinet).effects ∧
    get? payload "lockers" = some (.arr lockers) ∧
    lockers.map reportedSlot = [some .null, some (.int 0)] ∧
    ¬ PairedWithOwn sampleSetupOutside.U (layoutTests sampleSetupOutside 0 V) lockers := by
  refine ⟨_, _, _, rfl, List.mem_of_getElem? (i := 4) rfl, rfl, rfl, ?_⟩
  rintro ⟨own, hown, hperm⟩
  have hslots : own.map reportedSlot = [some (.int 0), some (.int 1)] := by
    cases hown
    rfl
  have hnull : some Json.null ∈ own.map reportedSlot :=
    (hperm.map reportedSlot).mem_iff.mp List.mem_cons_self
  rw [hslots] at hnull
  simp at hnull

/-! ## Accounts -/

/-- What is published on a topic. -/
def messageOn (topic : PyStr) : ServiceEffect → Option Dict
  | .publish t payload => if t = topic then some payload else none
  | _ => none

/-- A number in a part of a message. -/
def numberIn (payload : Dict) (part k : String) : Option Int :=
  match get? payload part with
  | some (.obj d) =>
    match get? d k with
    | some (.int n) => some n
    | _ => none
  | _ => none

/-- The summary of a result accounts for a layout: every entry is counted once, and the status is what
the tests say. -/
structure SummaryAccounts (U : Unicode) (slots : List Json) (ts : List SlotTest) (payload : Dict) :
    Prop where
  sum : ∃ total ok fail, numberIn payload "summary" "total" = some total ∧
    numberIn payload "summary" "totalOk" = some ok ∧
    numberIn payload "summary" "totalFail" = some fail ∧ ok + fail = total
  completed : get? payload "status" = some (.lit "COMPLETED") →
    slots ≠ [] ∧ ∀ i < slots.length, ∃ T ∈ ts, T.i = i ∧ T.foundOk U = true
  failed : get? payload "status" = some (.lit "FAILED") ↔ ∀ T ∈ ts, T.foundOk U = false

/-- The progress messages of a pass count its tests. -/
structure ProgressAccounts (messages : List Dict) : Prop where
  counts : ∀ m ∈ messages, ∃ tested total ok fail, numberIn m "progress" "tested" = some tested ∧
    numberIn m "progress" "total" = some total ∧ numberIn m "progress" "okCount" = some ok ∧
    numberIn m "progress" "failCount" = some fail ∧ tested ≤ total ∧ tested = ok + fail
  increasing : messages.Pairwise fun m m' => ∃ a b, numberIn m "progress" "tested" = some a ∧
    numberIn m' "progress" "tested" = some b ∧ a < b

/-! ### The progress -/

/-- The progress messages of tests that are all published. -/
def progressMessages (io : SetupOutside) (r : CabinetRun) : Tally → List SlotTest → List Dict
  | _, [] => []
  | t, T :: ts =>
    let t' := t.add (T.verdict io.U) T.result
    progressPayload r T.i T.slot T.slot_index T.result (T.verdict io.U) t' (io.testedAt r.j T.i) ::
      progressMessages io r t' ts

theorem messageOn_self (topic : PyStr) (payload : Dict) :
    messageOn topic (.publish topic payload) = some payload := if_pos rfl

/-- **The progress of the loop**: a message for each test, up to the entry that ends the run. -/
theorem runTests_progress (io : SetupOutside) (r : CabinetRun) (slots : List (Json × Nat)) (t : Tally) :
    (runTests io r slots t).effects.filterMap (messageOn (r.topicPrefix ++ py "/setup/progress")) =
      match io.publish (r.topicPrefix ++ py "/setup/progress") with
      | .ok _ =>
        progressMessages io r t
          (testsOf io r.j r.slave_id (slots.takeWhile fun s => isPassed io.U s.1))
      | .error _ => [] := by
  induction slots generalizing t with
  | nil => cases io.publish (r.topicPrefix ++ py "/setup/progress") <;> rfl
  | cons s slots ih =>
    obtain ⟨entry, i⟩ := s
    have hwrites : ∀ line : Option (List UInt8), (line.toList.map ServiceEffect.write).filterMap
        (messageOn (r.topicPrefix ++ py "/setup/progress")) = [] := by
      intro line
      rw [List.filterMap_map]
      exact List.filterMap_eq_nil_iff.mpr fun _ _ => rfl
    rcases runTests_cons io r entry i slots t with ⟨hpassed, e, h⟩ | ⟨hpassed, hnone, h⟩ |
      ⟨d, k, hpassed, hsome, h⟩
    · rw [h, List.takeWhile_cons_of_neg (by simp [hpassed])]
      cases io.publish (r.topicPrefix ++ py "/setup/progress") <;> rfl
    · rw [h, ih, List.takeWhile_cons_of_pos (by simp [hpassed]), testsOf_cons, hnone]
    · rw [h, List.takeWhile_cons_of_pos (by simp [hpassed]), testsOf_cons, hsome, runTest_eq]
      cases hp : io.publish (r.topicPrefix ++ py "/setup/progress") with
      | error e =>
        rw [Py.bind_error rfl]
        dsimp only
        rw [List.append_nil, hwrites]
      | ok _ =>
        simp only [Except.map]
        rw [Py.mk_ok_bind]
        dsimp only
        rw [List.filterMap_append, List.filterMap_append, hwrites, ih, hp,
          List.filterMap_cons_some (messageOn_self _ _)]
        rfl

/-- The progress of a pass is that of its loop. -/
theorem setupCabinet_progress (io : SetupOutside) (topicPrefix : PyStr) (command_id : Json) (j : Nat)
    {cab : Json} {V : Visit} (hvisit : visit io.U cab = .ok V) :
    (setupCabinet io topicPrefix command_id j cab).effects.filterMap
        (messageOn (topicPrefix ++ py "/setup/progress")) =
      (runTests io (V.run topicPrefix command_id j) V.slots.zipIdx {}).effects.filterMap
        (messageOn (topicPrefix ++ py "/setup/progress")) := by
  have hresult : ∀ payload, (mqttPublish io.toOutside (topicPrefix ++ py "/setup/result")
      payload).effects.filterMap (messageOn (topicPrefix ++ py "/setup/progress")) = [] := by
    intro payload
    refine List.filterMap_eq_nil_iff.mpr fun e he => ?_
    cases e with
    | publish topic payload' =>
      have hne : topic ≠ topicPrefix ++ py "/setup/progress" := by
        rw [(mqttPublish_mem he).1]
        intro h
        exact absurd (List.append_cancel_left h) (by decide)
      exact if_neg hne
    | _ => rfl
  have hstored : ∀ r, (storeReported io j r).effects.filterMap
      (messageOn (topicPrefix ++ py "/setup/progress")) = [] := by
    intro r
    refine List.filterMap_eq_nil_iff.mpr fun e he => ?_
    cases e with
    | publish topic payload => cases storeReported_notTest _ he
    | _ => rfl
  rw [setupCabinet_eq, Py.filterMap_bind_silent _ _ hstored,
    reportCabinet_visit io topicPrefix command_id j hvisit]
  refine Py.filterMap_bind_silent _ _ fun t => ?_
  rw [Py.filterMap_bind_silent _ _ fun details => ?_]
  · rfl
  rw [Py.filterMap_bind_silent _ _ fun _ => rfl]
  exact hresult _

/-! ### Places -/

/-- The places of the tests are those of the entries that are tested. -/
theorem testsOf_places (io : SetupOutside) (j : Nat) (slave_id : Json) (slots : List (Json × Nat)) :
    (testsOf io j slave_id slots).map SlotTest.i =
      (slots.filter fun s => isTested io.U s.1).map Prod.snd := by
  induction slots with
  | nil => rfl
  | cons s slots ih =>
    rw [testsOf_cons, List.filter_cons]
    unfold isTested at ih ⊢
    cases h : testSlotOf io.U s.1 with
    | none => simpa using ih
    | some p => simp [ih]

/-- What the messages count, from a tally on. -/
theorem progress_counts (io : SetupOutside) (r : CabinetRun) (t : Tally) (ts : List SlotTest) :
    (∀ m ∈ progressMessages io r t ts, ∃ ok fail, numberIn m "progress" "okCount" = some ok ∧
        numberIn m "progress" "failCount" = some fail ∧
        numberIn m "progress" "tested" = some (ok + fail)) ↔
      ts.map SlotTest.i = List.range' (t.ok_count + t.fail_count) ts.length := by
  induction ts generalizing t with
  | nil => simp [progressMessages]
  | cons T ts ih =>
    have hadd : (t.add (T.verdict io.U) T.result).ok_count +
        (t.add (T.verdict io.U) T.result).fail_count = t.ok_count + t.fail_count + 1 := by
      rw [add_ok, add_fail]
      cases T.foundOk io.U <;> simp <;> omega
    rw [progressMessages, List.forall_mem_cons, ih, hadd, List.map_cons, List.length_cons,
      List.range'_succ, List.cons.injEq]
    refine and_congr_left fun _ => ?_
    simp only [numberIn, progressPayload, get?_cons]
    constructor
    · rintro ⟨ok, fail, hok, hfail, h⟩
      simp at hok hfail h
      omega
    · intro h
      refine ⟨_, _, rfl, rfl, ?_⟩
      simp
      omega

/-- The messages name the places of the tests and the length of the layout. -/
theorem progress_numbers (io : SetupOutside) (r : CabinetRun) (t : Tally) (ts : List SlotTest) :
    List.Forall₂ (fun m T => numberIn m "progress" "tested" = some ((T.i : Int) + 1) ∧
        numberIn m "progress" "total" = some (r.total : Int))
      (progressMessages io r t ts) ts := by
  induction ts generalizing t with
  | nil => exact .nil
  | cons T ts ih =>
    refine .cons ?_ (ih _)
    simp [numberIn, progressPayload]

/-- The messages of tests at increasing places count up. -/
theorem pairwise_tested {ms : List Dict} {ts : List SlotTest}
    (hnumbers : List.Forall₂ (fun m T => numberIn m "progress" "tested" = some ((T.i : Int) + 1)) ms ts)
    (hplaces : ts.Pairwise fun T T' => T.i < T'.i) :
    ms.Pairwise fun m m' => ∃ a b, numberIn m "progress" "tested" = some a ∧
      numberIn m' "progress" "tested" = some b ∧ a < b := by
  induction hnumbers with
  | nil => exact .nil
  | cons hm hrest ih =>
    rw [List.pairwise_cons] at hplaces ⊢
    refine ⟨fun m' hm' => ?_, ih hplaces.2⟩
    obtain ⟨T', hT', hnumber⟩ := exists_of_forall₂_left hrest hm'
    have hlt := hplaces.1 T' hT'
    exact ⟨_, _, hm, hnumber, by omega⟩

/-! ### The verdict -/

theorem setupStatus_completed {t : Tally} : setupStatus t = "COMPLETED" ↔ t.fail_count = 0 := by
  unfold setupStatus
  split
  · simp [*]
  · split <;> simp [*]

theorem setupStatus_failed {t : Tally} :
    setupStatus t = "FAILED" ↔ t.fail_count ≠ 0 ∧ t.ok_count = 0 := by
  unfold setupStatus
  split
  · simp [*]
  · split <;> simp [*]

/-- The tests of a layout that is tested whole are at all its places. -/
theorem layoutTests_places {io : SetupOutside} {j : Nat} {V : Visit}
    (h : ∀ entry ∈ V.slots, isTested io.U entry = true) :
    (layoutTests io j V).map SlotTest.i = List.range V.slots.length := by
  rw [layoutTests, testsOf_places, List.filter_eq_self.mpr, List.zipIdx_map_snd,
    List.range_eq_range']
  intro s hs
  exact h s.1 (List.fst_mem_of_mem_zipIdx hs)

/-- **A summary accounts for the layout** just if there is an entry and all are tested. -/
theorem summary_accounts (io : SetupOutside) (j : Nat) (V : Visit) (r : CabinetRun) (duration : Int)
    (lockers : List Json) (timestamp : PyStr) :
    SummaryAccounts io.U V.slots (layoutTests io j V)
        (resultSummary r (setupStatus (tallied io.U {} (layoutTests io j V))) V.slots.length
          (tallied io.U {} (layoutTests io j V)).ok_count
          (tallied io.U {} (layoutTests io j V)).fail_count duration lockers timestamp) ↔
      V.slots ≠ [] ∧ ∀ entry ∈ V.slots, isTested io.U entry = true := by
  have hcounts := tallied_counts io.U {} (layoutTests io j V)
  have hok := tallied_ok io.U {} (layoutTests io j V)
  have hfail := tallied_fail io.U {} (layoutTests io j V)
  have hlength := layoutTests_length io j V
  have hstatus : ∀ status : String, get? (resultSummary r (setupStatus (tallied io.U {}
      (layoutTests io j V))) V.slots.length (tallied io.U {} (layoutTests io j V)).ok_count
        (tallied io.U {} (layoutTests io j V)).fail_count duration lockers timestamp) "status" =
      some (.lit status) ↔ setupStatus (tallied io.U {} (layoutTests io j V)) = status := by
    intro status
    simp [resultSummary, Json.lit]
  rw [← List.countP_eq_length, ← hlength]
  constructor
  · intro h
    obtain ⟨total, ok, fail, htotal, hok', hfail', hsum⟩ := h.sum
    simp [numberIn, resultSummary] at htotal hok' hfail'
    have hall : (layoutTests io j V).length = V.slots.length := by
      simp at hcounts
      omega
    refine ⟨fun hnil => ?_, hall⟩
    -- of an empty layout nothing fails, which counts as completed
    have hnone : layoutTests io j V = [] := List.length_eq_zero_iff.mp (by rw [hall, hnil]; rfl)
    refine (h.completed ((hstatus _).mpr (setupStatus_completed.mpr ?_))).1 hnil
    rw [hnone]
    rfl
  · rintro ⟨hne, hall⟩
    have htested := List.countP_eq_length.mp (hlength.symm.trans hall)
    refine ⟨⟨_, _, _, rfl, rfl, rfl, ?_⟩, fun h => ⟨hne, fun i hi => ?_⟩, ?_⟩
    · simp at hcounts
      omega
    · have hzero := hfail.symm.trans (setupStatus_completed.mp ((hstatus _).mp h))
      have hplace : i ∈ (layoutTests io j V).map SlotTest.i := by
        rw [layoutTests_places htested]
        exact List.mem_range.mpr hi
      obtain ⟨T, hT, hi⟩ := List.mem_map.mp hplace
      have hnotfail := List.countP_eq_zero.mp ((Nat.zero_add _).symm.trans hzero) T hT
      exact ⟨T, hT, hi, by simpa using hnotfail⟩
    · have hpos : 0 < V.slots.length := List.length_pos_iff.mpr hne
      have hzero : (tallied io.U {} (layoutTests io j V)).ok_count = 0 ↔
          ∀ T ∈ layoutTests io j V, T.foundOk io.U = false := by
        rw [hok, Nat.zero_add, List.countP_eq_zero]
        simp
      rw [hstatus, setupStatus_failed, hzero]
      refine and_iff_right_of_imp fun hnone => ?_
      have hnook := hzero.mpr hnone
      simp at hcounts
      omega

/-- The pass gets to its report: past every entry, with the progress published if there is any, with the
place of every entry that is zipped, and the result published. -/
structure Reports (io : SetupOutside) (topicPrefix : PyStr) (slots : List Json) : Prop where
  passed : ∀ entry ∈ slots, isPassed io.U entry = true
  progress : (∃ entry ∈ slots, isTested io.U entry = true) →
    io.publish (topicPrefix ++ py "/setup/progress") = .ok ()
  placed : ∀ entry ∈ slots.take (slots.countP (isTested io.U)),
    ∀ k ∈ ["slotIndex", "row", "column"], ∃ v, entry.subscript k = .ok v
  result : io.publish (topicPrefix ++ py "/setup/result") = .ok ()

/-- An entry is reported when it has a slot index, a row and a column. -/
theorem lockerDetail_ok_iff {slot : Json} {res : Dict} :
    (∃ detail, lockerDetail slot res = .ok detail) ↔
      ∀ k ∈ ["slotIndex", "row", "column"], ∃ v, slot.subscript k = .ok v := by
  simp only [List.forall_mem_cons, List.not_mem_nil, IsEmpty.forall_iff, implies_true, and_true]
  constructor
  · rintro ⟨detail, h⟩
    obtain ⟨slotIndex, hslot, h⟩ := except_bind_ok.mp h
    obtain ⟨row, hrow, h⟩ := except_bind_ok.mp h
    obtain ⟨column, hcolumn, h⟩ := except_bind_ok.mp h
    exact ⟨⟨slotIndex, hslot⟩, ⟨row, hrow⟩, ⟨column, hcolumn⟩⟩
  · rintro ⟨⟨slotIndex, hslot⟩, ⟨row, hrow⟩, ⟨column, hcolumn⟩⟩
    unfold lockerDetail
    rw [hslot, hrow, hcolumn]
    exact ⟨_, rfl⟩

theorem reports_iff {io : SetupOutside} {topicPrefix : PyStr} (command_id : Json) (j : Nat)
    {cab : Json} {V : Visit} (hvisit : visit io.U cab = .ok V) :
    (∃ payload, .publish (topicPrefix ++ py "/setup/result") payload ∈
        (setupCabinet io topicPrefix command_id j cab).effects) ↔ Reports io topicPrefix V.slots := by
  have hentries : ∀ P : Json → Prop, (∀ s ∈ V.slots.zipIdx, P s.1) ↔ ∀ entry ∈ V.slots, P entry := by
    intro P
    rw [← List.forall_mem_map (f := Prod.fst), List.zipIdx_map_fst]
  have hexists : (∃ s ∈ V.slots.zipIdx, isTested io.U s.1 = true) ↔
      ∃ entry ∈ V.slots, isTested io.U entry = true := by
    have hnone := not_congr (hentries fun entry => ¬ isTested io.U entry = true)
    push Not at hnone
    exact hnone
  have hplaced : (∃ details, (reportedPairs io j V).mapM (fun p => lockerDetail p.1 p.2) =
      .ok details) ↔ ∀ entry ∈ V.slots.take (V.slots.countP (isTested io.U)),
        ∀ k ∈ ["slotIndex", "row", "column"], ∃ v, entry.subscript k = .ok v := by
    rw [mapM_ok_iff]
    constructor
    · intro h entry hentry
      obtain ⟨p, hp, rfl⟩ := exists_reportedPair (j := j) hentry
      exact lockerDetail_ok_iff.mp (h p hp)
    · intro h p hp
      rw [reportedPairs_eq] at hp
      exact lockerDetail_ok_iff.mpr (h p.1 (List.of_mem_zip hp).1)
  constructor
  · rintro ⟨payload, h⟩
    obtain ⟨⟨t, ht⟩, hresult, details, hdetails, -⟩ := (result_published hvisit).mp h
    obtain ⟨⟨hpassed, hprogress⟩, -⟩ := runTests_ok.mp ht
    exact ⟨(hentries _).mp hpassed, fun h => hprogress (hexists.mpr h), hplaced.mp ⟨details, hdetails⟩,
      hresult⟩
  · intro h
    obtain ⟨details, hdetails⟩ := hplaced.mpr h.placed
    refine ⟨_, (result_published hvisit).mpr ⟨⟨_, runTests_ok.mpr ⟨⟨(hentries _).mpr h.passed, ?_⟩, rfl⟩⟩,
      h.result, details, hdetails, rfl⟩⟩
    exact fun htested => h.progress (hexists.mp htested)

/-- **What the first half of a pass gives**, if it gets to its report. -/
theorem reportCabinet_ok_iff {io : SetupOutside} {topicPrefix : PyStr} (command_id : Json) (j : Nat)
    {cab : Json} {V : Visit} (hvisit : visit io.U cab = .ok V) {r : Report} :
    (reportCabinet io topicPrefix command_id j cab).result = .ok r ↔
      Reports io topicPrefix V.slots ∧ r = ⟨V.cabinet_id, V.cab_data, V.cabinet_name,
        getD V.cab_data "lockerLayout" (.arr []), V.slots, tallied io.U {} (layoutTests io j V)⟩ := by
  have hresults : (tallied io.U {} (layoutTests io j V)).results =
      (layoutTests io j V).map (SlotTest.recorded io.U) := tallied_results io.U {} _
  rw [← reports_iff command_id j hvisit, reportCabinet_visit io topicPrefix command_id j hvisit]
  constructor
  · intro h
    obtain ⟨t, ht, h, -⟩ := Py.bind_result_ok h
    rw [runTests_visit ht, hresults] at h
    obtain ⟨details, hdetails, h, -⟩ := Py.bind_result_ok h
    obtain ⟨_, hpublish, h, -⟩ := Py.bind_result_ok h
    cases h
    refine ⟨⟨_, (result_published hvisit).mpr ⟨⟨t, ht⟩, ?_, details, hdetails, rfl⟩⟩, rfl⟩
    cases hp : io.publish (topicPrefix ++ py "/setup/result") with
    | error e =>
      rw [mqttPublish_error hp] at hpublish
      cases hpublish
    | ok _ => rfl
  · rintro ⟨⟨payload, hpublished⟩, rfl⟩
    obtain ⟨⟨t, ht⟩, hp, details, hdetails, -⟩ := (result_published hvisit).mp hpublished
    unfold reportedPairs at hdetails
    rw [Py.bind_ok ht, runTests_visit ht, hresults, hdetails, Py.ofExcept_ok_bind, mqttPublish_ok hp]
    rfl

/-! ### Progress that accounts -/

theorem zipIdx_takeWhile {α : Type} (p : α → Bool) (l : List α) (k : Nat) :
    (l.zipIdx k).takeWhile (fun s => p s.1) = (l.takeWhile p).zipIdx k := by
  induction l generalizing k with
  | nil => rfl
  | cons a l ih =>
    rw [List.zipIdx_cons, List.takeWhile_cons, List.takeWhile_cons, ih]
    split <;> rfl

/-- **The progress of a pass accounts for its tests** just if, of the entries that the loop gets past,
those that are tested come first. -/
theorem progress_accounts (io : SetupOutside) (r : CabinetRun) (j : Nat) (slave_id : Json)
    (slots : List Json) (hslots : slots.length ≤ r.total) :
    ProgressAccounts (progressMessages io r {} (testsOf io j slave_id slots.zipIdx)) ↔
      Leading (isTested io.U) slots := by
  have hlength : (testsOf io j slave_id slots.zipIdx).length = slots.countP (isTested io.U) := by
    rw [← List.length_map (f := fun T : SlotTest => Json.obj T.slot), testsOf_slots,
      List.zipIdx_map_fst, List.countP_eq_length_filter]
  have hcounts := progress_counts io r {} (testsOf io j slave_id slots.zipIdx)
  rw [testsOf_places, hlength] at hcounts
  have hnumbers := progress_numbers io r {} (testsOf io j slave_id slots.zipIdx)
  have hplaces : ∀ T ∈ testsOf io j slave_id slots.zipIdx, T.i < slots.length := by
    intro T hT
    have hmem := List.mem_map_of_mem (f := SlotTest.i) hT
    rw [testsOf_places] at hmem
    obtain ⟨s, hs, hi⟩ := List.mem_map.mp hmem
    rw [← hi]
    exact List.snd_lt_of_mem_zipIdx (List.mem_filter.mp hs).1
  rw [← leading_iff_places slots 0]
  refine Iff.trans ⟨fun h m hm => ?_, fun h => ⟨fun m hm => ?_, ?_⟩⟩ hcounts
  · obtain ⟨tested, total, ok, fail, htested, -, hok, hfail, -, hsum⟩ := h.counts m hm
    exact ⟨ok, fail, hok, hfail, hsum ▸ htested⟩
  · obtain ⟨ok, fail, hok, hfail, hsum⟩ := h m hm
    obtain ⟨T, hT, htested, htotal⟩ := exists_of_forall₂_left hnumbers hm
    have hlt := hplaces T hT
    have heq := Option.some.inj (hsum.symm.trans htested)
    exact ⟨_, _, ok, fail, hsum, htotal, hok, hfail, by omega, rfl⟩
  · refine pairwise_tested (hnumbers.imp fun m T h => h.1) ?_
    rw [← List.pairwise_map (f := SlotTest.i), testsOf_places]
    refine List.Pairwise.sublist (List.Sublist.map _ List.filter_sublist) ?_
    rw [List.zipIdx_map_snd]
    exact List.pairwise_lt_range'

/-- What the progress of a pass tells of its tests. -/
theorem setupCabinet_progressAccounts (io : SetupOutside) (topicPrefix : PyStr) (command_id : Json)
    (j : Nat) {cab : Json} {V : Visit} (hvisit : visit io.U cab = .ok V) :
    ProgressAccounts ((setupCabinet io topicPrefix command_id j cab).effects.filterMap
        (messageOn (topicPrefix ++ py "/setup/progress"))) ↔
      (io.publish (topicPrefix ++ py "/setup/progress") = .ok () →
        Leading (isTested io.U) (V.slots.takeWhile (isPassed io.U))) := by
  rw [setupCabinet_progress io topicPrefix command_id j hvisit]
  have hprogress := runTests_progress io (V.run topicPrefix command_id j) V.slots.zipIdx {}
  have htopic : (V.run topicPrefix command_id j).topicPrefix = topicPrefix := rfl
  rw [htopic, zipIdx_takeWhile] at hprogress
  rw [hprogress]
  cases hp : io.publish (topicPrefix ++ py "/setup/progress") with
  | error e => exact ⟨nofun, fun _ => ⟨nofun, .nil⟩⟩
  | ok _ =>
    dsimp only
    rw [progress_accounts _ _ _ _ _ (List.takeWhile_prefix _).length_le]
    exact ⟨fun h _ => h, fun h => h rfl⟩

/-- **Setup verdict accounting.**  The summaries that a pass publishes account for the layout just if,
in a pass that gets to its report, there is an entry and all are tested; and its progress accounts for
the tests just if no entry is tested behind one that is skipped. -/
theorem setup_accounting (io : SetupOutside) (topicPrefix : PyStr) (command_id : Json) (j : Nat)
    (cab : Json) (V : Visit) (hvisit : visit io.U cab = .ok V) :
    ((∀ payload, .publish (topicPrefix ++ py "/setup/result") payload ∈
          (setupCabinet io topicPrefix command_id j cab).effects →
        SummaryAccounts io.U V.slots (layoutTests io j V) payload) ∧
      ProgressAccounts ((setupCabinet io topicPrefix command_id j cab).effects.filterMap
        (messageOn (topicPrefix ++ py "/setup/progress")))) ↔
      (Reports io topicPrefix V.slots →
        V.slots ≠ [] ∧ ∀ entry ∈ V.slots, isTested io.U entry = true) ∧
      (io.publish (topicPrefix ++ py "/setup/progress") = .ok () →
        Leading (isTested io.U) (V.slots.takeWhile (isPassed io.U))) := by
  refine and_congr ?_ (setupCabinet_progressAccounts io topicPrefix command_id j hvisit)
  rw [← reports_iff command_id j hvisit]
  constructor
  · rintro h ⟨payload, hpayload⟩
    have haccounts := h payload hpayload
    obtain ⟨-, -, details, -, rfl⟩ := (result_published hvisit).mp hpayload
    exact (summary_accounts io j V _ _ _ _).mp haccounts
  · intro h payload hpayload
    have hall := h ⟨payload, hpayload⟩
    obtain ⟨-, -, details, -, rfl⟩ := (result_published hvisit).mp hpayload
    exact (summary_accounts io j V _ _ _ _).mpr hall

/-- `setup_accounting` at two slots. -/
theorem setup_accounting_pair : ∃ V, visit sampleSetupOutside.U pairCabinet = .ok V ∧
    (∀ payload, .publish (py "iot/m" ++ py "/setup/result") payload ∈
        (setupCabinet sampleSetupOutside (py "iot/m") (.lit "c-1") 0 pairCabinet).effects →
      SummaryAccounts sampleSetupOutside.U V.slots (layoutTests sampleSetupOutside 0 V) payload) ∧
    ProgressAccounts ((setupCabinet sampleSetupOutside (py "iot/m") (.lit "c-1") 0
      pairCabinet).effects.filterMap (messageOn (py "iot/m" ++ py "/setup/progress"))) := by
  refine ⟨_, rfl, (setup_accounting sampleSetupOutside (py "iot/m") (.lit "c-1") 0 pairCabinet _ rfl).mpr
    ⟨fun _ => ⟨by simp, by decide⟩, fun _ => by decide⟩⟩

/-- A cabinet without slots. -/
def emptyCabinet : Json :=
  .obj [(py "cabinetId", .lit "cab-123"), (py "cabinetCode", .lit "A"), (py "lockerLayout", .arr [])]

/-- **Completed** although an entry was not tested, or there is none; and the progress runs ahead of the
tests. -/
theorem completed_untested :
    (∃ V payload, visit sampleSetupOutside.U gappedCabinet = .ok V ∧
      .publish (py "iot/m" ++ py "/setup/result") payload ∈
        (setupCabinet sampleSetupOutside (py "iot/m") (.lit "c-1") 0 gappedCabinet).effects ∧
      get? payload "status" = some (.lit "COMPLETED") ∧
      ¬ SummaryAccounts sampleSetupOutside.U V.slots (layoutTests sampleSetupOutside 0 V) payload) ∧
    ¬ ProgressAccounts ((setupCabinet sampleSetupOutside (py "iot/m") (.lit "c-1") 0
      gappedCabinet).effects.filterMap (messageOn (py "iot/m" ++ py "/setup/progress"))) ∧
    ∃ V payload, visit sampleSetupOutside.U emptyCabinet = .ok V ∧
      .publish (py "iot/m" ++ py "/setup/result") payload ∈
        (setupCabinet sampleSetupOutside (py "iot/m") (.lit "c-1") 0 emptyCabinet).effects ∧
      get? payload "status" = some (.lit "COMPLETED") ∧
      ¬ SummaryAccounts sampleSetupOutside.U V.slots (layoutTests sampleSetupOutside 0 V) payload := by
  refine ⟨⟨_, _, rfl, List.mem_of_getElem? (i := 4) rfl, rfl, fun h => ?_⟩, fun h => ?_,
    ⟨_, _, rfl, List.mem_of_getElem? (i := 0) rfl, rfl, fun h => ?_⟩⟩
  · obtain ⟨total, ok, fail, htotal, hok, hfail, hsum⟩ := h.sum
    cases htotal
    cases hok
    cases hfail
    cases hsum
  · obtain ⟨tested, total, ok, fail, htested, -, hok, hfail, -, hsum⟩ := h.counts _ List.mem_cons_self
    cases htested
    cases hok
    cases hfail
    cases hsum
  · exact (h.completed rfl).1 rfl

end SmartLocker.System
