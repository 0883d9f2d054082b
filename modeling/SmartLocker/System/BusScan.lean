import SmartLocker.System.Network

/-!
# Discovery on a bus of controllers

`scan_slaves` asks one id of its range after the other.  `scan_complete` is the other half of what a
scan is for: on a bus where no byte is lost it misses no controller, reports none that is not there,
and tells the number of slots of each; and it drives no lock.
-/

set_option autoImplicit false

namespace SmartLocker.System.Network

open Lib Lib.Machine Lib.Python SmartLocker.Firmware SmartLocker.Gateway SlotCounts SerialThreads
  Discovery

/-- `range(range_start, range_end + 1)`. -/
def idsIn (range_start range_end : Int) : List Int :=
  (List.range (range_end + 1 - range_start).toNat).map (fun i : Nat => range_start + i)

/-- The loop of `scan_slaves` over the responses to its calls. -/
def scanned (range_start range_end : Int) (responses : List Dict) : List Found :=
  (responses.foldl Discovery.Scan.judge ⟨range_end, range_start, none, []⟩).found

def ping (sid : Int) : Command := ⟨sid, .ping⟩

/-- What the scan is to report. -/
def present (bus : Bus) (ids : List Int) : List Found :=
  ids.filterMap (fun sid => (boardOf bus sid).map (fun b => ⟨sid, .int b.NUM_SLOTS⟩))

variable {bus : Bus}

/-- One answer, judged. -/
theorem judge_answer (scan : Discovery.Scan) (w : Readings) :
    scan.judge (answer bus (ping scan.sid) w) =
      { scan with
        sid := scan.sid + 1
        asking := none
        found := scan.found ++ present bus [scan.sid] } := by
  cases hboard : boardOf bus scan.sid with
  | none =>
    have hanswer : answer bus (ping scan.sid) w = timeoutResponse (.int (-1)) (.int scan.sid) := by
      rw [answer, show (ping scan.sid).slave = scan.sid from rfl, hboard]
      rfl
    rw [hanswer, Discovery.Scan.judge, isOk_timeout]
    simp [present, hboard]
  | some b =>
    obtain ⟨-, hid⟩ := boardOf_some hboard
    have hanswer : answer bus (ping scan.sid) w =
        replyData b ⟨-1, -1, "OK".toList, 0, false, []⟩ := by
      rw [answer, show (ping scan.sid).slave = scan.sid from rfl, hboard]
      rfl
    have hok : isOk (answer bus (ping scan.sid) w) = true := by
      rw [hanswer, isOk_replyData]
      decide
    have hslave : getD (answer bus (ping scan.sid) w) "slave" (.int (-1)) = .int scan.sid := by
      rw [hanswer, ← hid]
      simp [replyData, replyFields, getD, entry, Field.json]
    have hslots : getD (answer bus (ping scan.sid) w) "slots" (.int MAX_SLOTS) =
        .int b.NUM_SLOTS := by
      rw [hanswer]
      simp [replyData, replyFields, getD, entry, Field.json]
    rw [Discovery.Scan.judge, hok, hslave, hslots]
    simp [present, hboard]

/-- All answers, judged one after the other. -/
theorem judge_answers (calls : List (Command × Readings)) (scan : Discovery.Scan)
    (hcalls : calls.map Prod.fst =
      (List.range calls.length).map (fun i : Nat => ping (scan.sid + i))) :
    ((calls.map (fun p => answer bus p.1 p.2)).foldl Discovery.Scan.judge scan).found =
      scan.found ++
        present bus ((List.range calls.length).map (fun i : Nat => scan.sid + i)) := by
  induction calls generalizing scan with
  | nil => exact (List.append_nil _).symm
  | cons p calls ih =>
    rw [List.length_cons, List.range_succ_eq_map, List.map_cons, List.map_cons, List.map_map,
      List.cons.injEq] at hcalls
    obtain ⟨hp, hcalls⟩ := hcalls
    have hshift : ∀ i : Nat, scan.sid + ((i + 1 : Nat) : Int) = scan.sid + 1 + (i : Int) := by
      intro i
      omega
    have hp' : p.1 = ping scan.sid := by simpa using hp
    rw [List.map_cons, List.foldl_cons, hp', judge_answer, ih]
    · rw [List.length_cons, List.range_succ_eq_map, List.map_cons, List.map_map]
      have hzero : scan.sid + ((0 : Nat) : Int) = scan.sid := by omega
      simp only [present, Function.comp_def, Nat.succ_eq_add_one, hshift, hzero, List.append_assoc]
      congr 1
      rw [← List.filterMap_append]
      rfl
    · rw [hcalls]
      exact List.map_congr_left fun i _ => congrArg ping (hshift i)

/-- **A scan finds the controllers of its range**: it reports each of them once, by ascending id and
with its number of slots, reports nothing else, and writes to no lock pin. -/
theorem scan_complete (U : Unicode) (pf : List Char → PyFloat) {net : Net} (hidle : net.Idle bus)
    {range_start range_end : Int} {xs : List (Exchange bus)}
    (hxs : xs.map Exchange.command = (idsIn range_start range_end).map ping)
    (hfits : Along netStep (Exchange.Fits U) net xs) :
    scanned range_start range_end (returns pf net xs) = present bus (idsIn range_start range_end) ∧
      ∀ b ∈ bus.boards, lockWrites b (effectsOn b net xs) = [] := by
  obtain ⟨calls, hcommands, hreturns, -⟩ := session_calls pf hidle hfits
  rw [hxs, idsIn, List.map_map] at hcommands
  have hlength : calls.length = (range_end + 1 - range_start).toNat := by
    have := congrArg List.length hcommands
    simpa using this
  constructor
  · rw [scanned, hreturns, judge_answers calls, idsIn, ← hlength]
    · rfl
    · rw [hcommands, hlength]
      rfl
  · intro b hb
    rw [lockWrites_session hidle hfits hb, hxs, List.flatMap_map, List.flatMap_eq_nil_iff]
    intro sid _
    unfold lockDrive ping
    split <;> rfl

/-- Slaves 2 and 3, with ids 1 to 4 asked. -/
theorem scan_complete_two :
    ∃ xs : List (Exchange twoBoards), xs.map Exchange.command = (idsIn 1 4).map ping ∧
      scanned 1 4 (returns noFloat .boot xs) = [⟨2, .int 3⟩, ⟨3, .int 3⟩] ∧
      ∀ b ∈ twoBoards.boards, lockWrites b (effectsOn b .boot xs) = [] := by
  have hrange : ∀ c ∈ (idsIn 1 4).map ping, InRange c := by
    intro c hc
    obtain ⟨sid, hsid, rfl⟩ := List.mem_map.mp hc
    have : 0 ≤ sid ∧ sid ≤ 32767 := by
      revert sid
      decide
    exact ⟨this, trivial⟩
  obtain ⟨xs, hxs, hfits⟩ := session_exists Unicode.ascii hrange .boot (idle_boot twoBoards)
  exact ⟨xs, hxs, scan_complete Unicode.ascii noFloat (idle_boot twoBoards) hxs hfits⟩

end SmartLocker.System.Network
