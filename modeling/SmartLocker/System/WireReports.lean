import SmartLocker.System.Network
import SmartLocker.Firmware.Operations

/-!
# The reports of running controllers

Each controller on the bus runs its sketch, on whatever it reads, and the gateway reads the frames of
all of them, in some order and in some chunks.  `reports_delivered` says what comes of a report: the
gateway makes of every frame what the controller meant by it, once, for the slave that sent it and in
the order in which that slave sent its frames, and of the text of `!` nothing.

What is assumed of the bus is `Heard`: frames come in one piece and none is lost.
-/

set_option autoImplicit false

namespace SmartLocker.System.Network

open Lib Lib.Python SmartLocker.Firmware SmartLocker.Gateway SlotCounts

/-! ## Controllers and their frames -/

/-- What a controller meets from its start on. -/
structure Inputs where
  low : Nat → Bool
  passes : List Pass
  current : List LoopEvent

/-- What it then prints on the bus. -/
def Inputs.prints (x : Inputs) (b : Board) : List (List Char) :=
  printed (effectsOf (sketchRun b x.low x.passes x.current).2)

/-- What is printed: a frame, or the text of `!`. -/
def printedText {b : Board} : Option (Frame b) → List Char
  | some f => f.text
  | none => testText

/-- What a frame says. -/
def meaning {b : Board} : Frame b → Incoming
  | .reply _ _ _ q _ _ => .response (.int b.SLAVE_ID) (replyData b q)
  | .alive => .response (.int b.SLAVE_ID) (aliveResponse (aliveData b))
  | .door slot _ closed => .door (.int slot) (.lit (eventName closed)) (.int b.SLAVE_ID)

/-- What the gateway makes of a text. -/
def incomingOf (pf : List Char → PyFloat) (t : List Char) : Option Incoming :=
  match loads pf t with
  | some (.obj data) => some (handleIncomingJson data)
  | _ => none

/-- It is taken for a report of the slave. -/
def isFrom (b : Board) : Incoming → Bool
  | .door _ _ slave => slave.pyEq (.int b.SLAVE_ID)
  | .response slave _ => slave.pyEq (.int b.SLAVE_ID)
  | .nothing => false

/-- A controller prints nothing else. -/
theorem prints_texts (x : Inputs) (b : Board) :
    ∃ fs : List (Option (Frame b)), x.prints b = fs.map printedText := by
  obtain ⟨ops, hrun, hops⟩ := run_operations b x.low x.passes x.current
  have hall : ∀ t ∈ x.prints b, ∃ f : Option (Frame b), printedText f = t := by
    intro t ht
    rw [Inputs.prints, hrun, printed_operations, List.mem_filterMap] at ht
    obtain ⟨op, hop, ht⟩ := ht
    cases op with
    | send lead hold text =>
      cases ht
      rcases hops _ hop with hemits | rfl
      · obtain ⟨f, hf⟩ := frame_of_emits hemits
        exact ⟨some f, hf⟩
      · exact ⟨none, rfl⟩
    | _ => cases ht
  generalize x.prints b = l at hall
  induction l with
  | nil => exact ⟨[], rfl⟩
  | cons t l ih =>
    obtain ⟨f, hf⟩ := hall t List.mem_cons_self
    obtain ⟨fs, hfs⟩ := ih fun u hu => hall u (List.mem_cons_of_mem t hu)
    exact ⟨f :: fs, by rw [List.map_cons, hf, hfs]⟩

/-! ## One text -/

theorem incomingOf_frame (pf : List Char → PyFloat) {b : Board} (f : Frame b) :
    incomingOf pf f.text = some (meaning f) := by
  cases f with
  | reply w rawCmd r q hr hq =>
    rw [Frame.text, incomingOf, loads_reply pf b (replyTo_fits hr hq)]
    exact congrArg some (handle_reply b q)
  | alive =>
    rw [Frame.text, incomingOf, loads_alive]
    exact congrArg some (handle_alive b)
  | door slot hslot closed =>
    have hname : eventName closed = "DOOR_CLOSED" ∨ eventName closed = "DOOR_OPENED" := by
      cases closed with
      | true => exact Or.inl rfl
      | false => exact Or.inr rfl
    have hlen : (eventName closed).toList.length ≤ 11 ∧
        ∀ c ∈ (eventName closed).toList, Unescaped c := by
      cases closed <;> decide
    have hint : -32768 ≤ (slot : Int) ∧ (slot : Int) ≤ 32767 := by
      have := b.slots_le
      omega
    rw [Frame.text, incomingOf, loads_door pf b hint hlen.1 hlen.2]
    exact congrArg some (handle_door b slot hname)

theorem incomingOf_test (pf : List Char → PyFloat) : incomingOf pf testText = some .nothing := by
  have htext : testText = objectText [("event", .str "TEST_FROM_INO".toList)] := by decide
  have hloads : loads pf testText = some (.obj [entry ("event", .str "TEST_FROM_INO".toList)]) := by
    rw [htext]
    refine loads_objectText pf (by simp) (by simp) ?_
    simp only [List.forall_mem_cons]
    exact ⟨⟨by decide, by simp only [Field.Ok]; decide⟩, by simp⟩
  have hentry : entry ("event", .str "TEST_FROM_INO".toList) = (py "event", .lit "TEST_FROM_INO") := rfl
  rw [incomingOf, hloads, hentry]
  simp [handleIncomingJson]

theorem isFrom_meaning (a : Board) {b : Board} (f : Frame b) :
    isFrom a (meaning f) = (b.SLAVE_ID == a.SLAVE_ID) := by
  cases f <;> simp [isFrom, meaning, Bool.beq_eq_decide_eq]

theorem testText_frame : IsFrame testText ∧ testText.getLast? = some '\x7d' := by
  unfold IsFrame
  exact ⟨by decide, by decide⟩

theorem printedText_frame {b : Board} (f : Option (Frame b)) :
    IsFrame (printedText f) ∧ (printedText f).getLast? = some '\x7d' := by
  cases f with
  | none => exact testText_frame
  | some f => exact ⟨(frame_emits f).frame, frame_last (frame_emits f)⟩

/-! ## All frames -/

/-- A frame with its controller. -/
abbrev Report := (b : Board) × Option (Frame b)

def Report.meaning (r : Report) : Incoming := r.2.elim .nothing Network.meaning

theorem incomingOf_report (pf : List Char → PyFloat) (r : Report) :
    incomingOf pf (printedText r.2) = some r.meaning := by
  obtain ⟨b, f⟩ := r
  cases f with
  | none => exact incomingOf_test pf
  | some f => exact incomingOf_frame pf f

variable {bus : Bus}

/-- The frames of the bus, each with its controller: those of one controller are all that it prints, in
its order. -/
structure Heard (bus : Bus) (xs : Board → Inputs) (l : List (Board × List Char)) : Prop where
  boards : ∀ p ∈ l, p.1 ∈ bus.boards
  own : ∀ b ∈ bus.boards,
    (l.filter (fun p => p.1.SLAVE_ID == b.SLAVE_ID)).map Prod.snd = (xs b).prints b

theorem Heard.reports {xs : Board → Inputs} {l : List (Board × List Char)} (h : Heard bus xs l) :
    ∃ rs : List Report, l = rs.map (fun r => (r.1, printedText r.2)) := by
  have hall : ∀ p ∈ l, ∃ r : Report, (r.1, printedText r.2) = p := by
    intro p hp
    obtain ⟨fs, hfs⟩ := prints_texts (xs p.1) p.1
    have hmem : p.2 ∈ (xs p.1).prints p.1 := by
      rw [← h.own p.1 (h.boards p hp)]
      exact List.mem_map_of_mem (List.mem_filter.mpr ⟨hp, by simp⟩)
    rw [hfs] at hmem
    obtain ⟨f, -, hf⟩ := List.mem_map.mp hmem
    exact ⟨⟨p.1, f⟩, Prod.ext rfl hf⟩
  clear h
  induction l with
  | nil => exact ⟨[], rfl⟩
  | cons p l ih =>
    obtain ⟨r, hr⟩ := hall p List.mem_cons_self
    obtain ⟨rs, hrs⟩ := ih fun q hq => hall q (List.mem_cons_of_mem p hq)
    exact ⟨r :: rs, by rw [List.map_cons, hr, ← hrs]⟩

/-- The reports of one controller. -/
theorem reports_of {rs : List Report} (hrs : ∀ r ∈ rs, r.1 ∈ bus.boards) {b : Board}
    (hb : b ∈ bus.boards) :
    ∃ fs : List (Option (Frame b)),
      (rs.filter (fun r => r.1.SLAVE_ID == b.SLAVE_ID)).map (fun r => printedText r.2) =
        fs.map printedText ∧
      (rs.map Report.meaning).filter (isFrom b) = (fs.filterMap id).map meaning := by
  induction rs with
  | nil => exact ⟨[], rfl, rfl⟩
  | cons r rs ih =>
    obtain ⟨fs, htexts, hmeanings⟩ := ih fun q hq => hrs q (List.mem_cons_of_mem r hq)
    obtain ⟨a, f⟩ := r
    by_cases hid : a.SLAVE_ID = b.SLAVE_ID
    · obtain rfl : a = b := board_unique (hrs _ List.mem_cons_self) hb hid
      refine ⟨f :: fs, ?_, ?_⟩
      · rw [List.filter_cons_of_pos (by simp), List.map_cons, htexts, List.map_cons]
      · rw [List.map_cons]
        cases f with
        | none =>
          rw [List.filter_cons_of_neg (by simp [Report.meaning, isFrom]), hmeanings]
          rfl
        | some f =>
          rw [List.filter_cons_of_pos (by simp [Report.meaning, isFrom_meaning]), hmeanings]
          rfl
    · refine ⟨fs, ?_, ?_⟩
      · rw [List.filter_cons_of_neg (by simpa using hid), htexts]
      · rw [List.map_cons, List.filter_cons_of_neg, hmeanings]
        cases f with
        | none => simp [Report.meaning, isFrom]
        | some f => simp [Report.meaning, isFrom_meaning, hid]

/-- The listener reads every text as it was printed. -/
theorem Heard.read {xs : Board → Inputs} {l : List (Board × List Char)} (h : Heard bus xs l)
    {chunks : List (List UInt8)} (hchunks : chunks.flatten = l.flatMap (fun p => frameBytes p.2)) :
    ∃ rs : List Report, l = rs.map (fun r => (r.1, printedText r.2)) ∧
      (listenerLoop [] chunks).2 = rs.map (fun r => printedText r.2) ∧
      (listenerLoop [] chunks).1 = [] := by
  obtain ⟨rs, rfl⟩ := h.reports
  refine ⟨rs, rfl, listener_texts (fun t ht => ?_) ?_⟩
  · obtain ⟨r, -, rfl⟩ := List.mem_map.mp ht
    exact printedText_frame r.2
  · rw [hchunks, List.flatMap_map, List.flatMap_map]

/-- **Every report arrives as it was meant**: from whole runs of the sketches, read in any chunks, the
gateway makes of every text one thing; those of a slave are what its frames say, all of them, in its
order. -/
theorem reports_delivered (pf : List Char → PyFloat) {xs : Board → Inputs}
    {l : List (Board × List Char)} (h : Heard bus xs l) {chunks : List (List UInt8)}
    (hchunks : chunks.flatten = l.flatMap (fun p => frameBytes p.2)) :
    (listenerLoop [] chunks).1 = [] ∧
      ∃ incoming : List Incoming,
        (listenerLoop [] chunks).2.map (incomingOf pf) = incoming.map some ∧
        ∀ b ∈ bus.boards, ∃ fs : List (Option (Frame b)), (xs b).prints b = fs.map printedText ∧
          incoming.filter (isFrom b) = (fs.filterMap id).map meaning := by
  obtain ⟨rs, rfl, htexts, hbuffer⟩ := h.read hchunks
  refine ⟨hbuffer, rs.map Report.meaning, ?_, fun b hb => ?_⟩
  · rw [htexts, List.map_map, List.map_map]
    exact List.map_congr_left fun r _ => incomingOf_report pf r
  · have hall : ∀ r ∈ rs, r.1 ∈ bus.boards := fun r hr => h.boards _ (List.mem_map_of_mem hr)
    obtain ⟨fs, hfs, hmeanings⟩ := reports_of hall hb
    refine ⟨fs, ?_, hmeanings⟩
    rw [← h.own b hb, ← hfs, List.filter_map, List.map_map]
    rfl

/-- A `!` on the USB port, and the first `ALIVE`. -/
def aliveInputs : Inputs where
  low _ := true
  passes := []
  current := [.usb ⟨33, ⟨0, fun _ => true⟩⟩,
    .poll ⟨100, fun _ => true, fun _ => true, 60000, 60000⟩]

theorem aliveInputs_prints {b : Board} (hb : b ∈ twoBoards.boards) :
    aliveInputs.prints b = [testText, heartbeatJson b] := by
  simp only [twoBoards, List.mem_cons, List.not_mem_nil, or_false] at hb
  rcases hb with rfl | rfl
  · rfl
  · rfl

/-- The slaves 2 and 3 take turns. -/
def turns : List (Board × List Char) :=
  [(uno2, testText), (uno3, testText), (uno3, heartbeatJson uno3), (uno2, heartbeatJson uno2)]

theorem heard_turns : Heard twoBoards (fun _ => aliveInputs) turns where
  boards := by simp [turns, twoBoards]
  own b hb := by
    rw [aliveInputs_prints hb]
    simp only [twoBoards, List.mem_cons, List.not_mem_nil, or_false] at hb
    rcases hb with rfl | rfl
    · rfl
    · rfl

theorem reports_delivered_turns :
    (listenerLoop [] [turns.flatMap fun p => frameBytes p.2]).1 = [] ∧
      ∃ incoming : List Incoming,
        (listenerLoop [] [turns.flatMap fun p => frameBytes p.2]).2.map (incomingOf noFloat) =
          incoming.map some ∧
        ∀ b ∈ twoBoards.boards, ∃ fs : List (Option (Frame b)),
          aliveInputs.prints b = fs.map printedText ∧
            incoming.filter (isFrom b) = (fs.filterMap id).map meaning :=
  reports_delivered noFloat heard_turns List.flatten_singleton

end SmartLocker.System.Network
