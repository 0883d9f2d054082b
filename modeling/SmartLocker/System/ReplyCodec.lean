import SmartLocker.System.FrameCodec

/-!
# The replies to slot commands

One encoder, `sendResponse`, prints the answer to `PING`, the success and the error reply; slot `-1`
selects the first of these.  `reply_printed` says that a slot command is answered with one complete
JSON object, whatever slot is read, and `reply_codec_iff`, about the bytes of a line, that the gateway
reads the slot, the result and the reading or the error back from it just when the slot is not the
sentinel and the buffer of `loop()` keeps enough of the line to tell it.
-/

set_option autoImplicit false

namespace SmartLocker.System

open Lib.Decimal Lib.Python SmartLocker.Firmware SmartLocker.Gateway

variable (pf : List Char → PyFloat) {b : Board} {w : Readings} {line : List Char} {action : Char}
  {m n : Int}

/-! ## The reply -/

/-- The reply to a slot command. -/
def slotReply (b : Board) (w : Readings) (n : Int) : Reply :=
  if n < 0 ∨ n ≥ b.NUM_SLOTS then ⟨n, -1, "FAIL".toList, 0, false, "INVALID_SLOT".toList⟩
  else ⟨n, b.lockPin n, "OK".toList, w.elapsedInt, isDoorClosed b w n, []⟩

theorem replyTo_slot (ha : action = 'T' ∨ action = 'O' ∨ action = 'C') :
    replyTo b w (.slotAction action n) = some (slotReply b w n) := by
  simp only [replyTo, slotReply]
  split
  · rfl
  · simp only

/-- The fields that `sendResponse` is given to print, were there no buffer. -/
def slotReplyFields (b : Board) (w : Readings) (n : Int) : List (String × Field) :=
  let q := slotReply b w n
  replyFields b q.slot q.gpio q.result q.ms q.isDoorClosed q.error

/-- **A slot command is answered with one complete JSON object**, which `_handle_incoming_json` takes
for a reply of this slave. -/
theorem reply_printed (w : Readings)
    (hread : readRequest b.SLAVE_ID line = some (.slotAction action n))
    (haction : action = 'T' ∨ action = 'O' ∨ action = 'C') :
    printed (processCommand b w line) = [objectText (slotReplyFields b w n)] ∧
      (objectText (slotReplyFields b w n)).length < 128 ∧
      responseOf pf (objectText (slotReplyFields b w n)) =
        some (.int b.SLAVE_ID, (slotReplyFields b w n).map entry) := by
  have hreply : replyTo b w (.slotAction action n) = some (slotReply b w n) := replyTo_slot haction
  have hfits := replyTo_fits hread hreply
  have htext : (slotReply b w n).text b = objectText (slotReplyFields b w n) :=
    jsonOut_text b hfits.slot hfits.gpio hfits.ms hfits.result.1 hfits.error.1 _
  have hresponse := responseOf_reply pf hread hreply
  rw [htext] at hresponse
  refine ⟨?_, ?_, hresponse⟩
  · rw [processCommand_eq, hread]
    simp only [printed_execute, hreply, Option.map_some, Option.toList_some, htext]
  · rw [← htext]
    exact lt_of_le_of_lt (List.length_take_le _ _) (by decide)

/-! ## What is recovered -/

/-- What the gateway should read from the reply to a command for slot `n`. -/
structure Recovers (b : Board) (w : Readings) (n : Int) (d : Dict) : Prop where
  slave : get? d "slave" = some (.int b.SLAVE_ID)
  slot : get? d "slot" = some (.int n)
  served : 0 ≤ n ∧ n < b.NUM_SLOTS →
    get? d "result" = some (.lit "OK") ∧ get? d "door" = some (.bool (isDoorClosed b w n))
  refused : ¬ (0 ≤ n ∧ n < b.NUM_SLOTS) →
    get? d "result" = some (.lit "FAIL") ∧ get? d "error" = some (.lit "INVALID_SLOT")

/-- A line with the effects `es` is answered with one text, a complete JSON object, and what the gateway
stores of it tells slave, slot, result and reading or error. -/
def RoundTrip (b : Board) (w : Readings) (es : List Effect) (n : Int) : Prop :=
  ∃ fields d, printed es = [objectText fields] ∧ (objectText fields).length < 128 ∧
    responseOf pf (objectText fields) = some (.int b.SLAVE_ID, d) ∧ Recovers b w n d

theorem recovers_slotReply (hn : n ≠ -1) : Recovers b w n ((slotReplyFields b w n).map entry) := by
  by_cases h : n < 0 ∨ n ≥ b.NUM_SLOTS
  · have hfields : slotReplyFields b w n = [("slave", .int b.SLAVE_ID), ("slot", .int n),
        ("result", .str "FAIL".toList), ("gpio", .int (-1)), ("ms", .int 0), ("door", .bool false),
        ("error", .str "INVALID_SLOT".toList)] := by
      simp only [slotReplyFields, slotReply, if_pos h, replyFields, if_neg hn]
      rfl
    rw [hfields]
    refine ⟨by simp [entry, Field.json], by simp [entry, Field.json], fun hin => ?_, fun _ => ?_⟩
    · omega
    · simp [entry, Field.json]
      exact ⟨rfl, rfl⟩
  · have hfields : slotReplyFields b w n = [("slave", .int b.SLAVE_ID), ("slot", .int n),
        ("result", .str "OK".toList), ("gpio", .int (b.lockPin n)), ("ms", .int w.elapsedInt),
        ("door", .bool (isDoorClosed b w n))] := by
      simp only [slotReplyFields, slotReply, if_neg h, replyFields, if_neg hn]
      rfl
    rw [hfields]
    refine ⟨by simp [entry, Field.json], by simp [entry, Field.json], fun _ => ?_, fun hout => ?_⟩
    · simp [entry, Field.json]
      rfl
    · omega

/-- The numeral of the sentinel is answered as a `PING` is: without the slot and without the error. -/
theorem slotReply_sentinel :
    slotReplyFields b w (-1) = [("slave", .int b.SLAVE_ID), ("slots", .int b.NUM_SLOTS),
      ("result", .str "FAIL".toList), ("ms", .int 0)] := by
  simp [slotReplyFields, slotReply, replyFields]

/-- **What the gateway reads back is the slot that was read**, unless that is the sentinel. -/
theorem roundTrip_read (w : Readings)
    (hread : readRequest b.SLAVE_ID line = some (.slotAction action m))
    (haction : action = 'T' ∨ action = 'O' ∨ action = 'C') :
    RoundTrip pf b w (processCommand b w line) n ↔ m = n ∧ n ≠ -1 := by
  obtain ⟨hprinted, hlength, hresponse⟩ := reply_printed pf w hread haction
  constructor
  · rintro ⟨fields, d, hfields, -, hd, hrecovers⟩
    rw [hprinted, List.cons.injEq] at hfields
    rw [← hfields.1, hresponse] at hd
    have hslot := hrecovers.slot
    rw [← (Prod.mk.inj (Option.some.inj hd)).2] at hslot
    by_cases hm : m = -1
    · rw [hm, slotReply_sentinel] at hslot
      simp [entry] at hslot
    · rw [(recovers_slotReply hm).slot, Option.some.injEq, Json.int.injEq] at hslot
      exact ⟨hslot, hslot ▸ hm⟩
  · rintro ⟨rfl, hn⟩
    exact ⟨_, _, hprinted, hlength, hresponse, recovers_slotReply hn⟩

/-- **The reply codec**: for the bytes of a test, open or close of slot `n` the gateway reads back
slave, slot, result and reading or error just when `n` is not `-1` and the buffer keeps enough of the
line. -/
theorem reply_codec_iff {st : LoopState} {body : List Rx} {e : Rx} (hst : st.cmdBuffer = [])
    (hg : NoGap (body ++ [e])) (hbody : ∀ x ∈ body, isLineEnd x.c = false)
    (he : isLineEnd e.c = true)
    (h : SlotCommand b ((body.map Rx.c).dropWhile Firmware.isspace) action n) :
    RoundTrip pf b e.readings (receiveAll b st (body ++ [e])).2 n ↔
      n ≠ -1 ∧ InBuffer (body.map Rx.c) n := by
  rw [receiveAll_line b hst hg hbody he]
  rcases h.read with ⟨m, hread, hm⟩ | ⟨hread, hnot⟩
  · rw [roundTrip_read pf e.readings hread h.action_known, hm, and_comm]
  · -- a line that asks for nothing is not answered
    constructor
    · rintro ⟨fields, d, hfields, -⟩
      rw [processCommand_eq, hread] at hfields
      cases hfields
    · rintro ⟨-, hin⟩
      exact absurd hin hnot

/-- A close of slot `-7`, with a leading zero, after a blank. -/
theorem reply_codec_refused :
    RoundTrip noFloat uno2 allOpen
      (receiveAll uno2 .init
        (burst allOpen [0x20, 0x53, 0x32, 0x3a, 0x43, 0x2d, 0x30, 0x37] ++ burst allOpen [0x0a])).2
      (-7) := by
  have h : SlotCommand uno2 "S2:C-07".toList 'C' (-7) :=
    ⟨by decide, by decide, ['2'], ['-', '0', '7'], rfl, .unsigned ⟨by decide, by decide, by decide⟩,
      .minus ⟨by decide, by decide, by decide⟩⟩
  exact (reply_codec_iff noFloat rfl (by decide) (by decide) (by decide) h).mpr
    ⟨by decide, Or.inl (by decide)⟩

/-- `S2:O-1` is answered without slot and error. -/
theorem sentinel_command :
    SlotCommand uno2 "S2:O-1".toList 'O' (-1) ∧
      printed (receiveAll uno2 .init (burst allOpen [0x53, 0x32, 0x3a, 0x4f, 0x2d, 0x31, 0x0a])).2 =
        [objectText [("slave", .int 2), ("slots", .int 3), ("result", .str "FAIL".toList),
          ("ms", .int 0)]] ∧
      ¬ RoundTrip noFloat uno2 allOpen
        (receiveAll uno2 .init (burst allOpen [0x53, 0x32, 0x3a, 0x4f, 0x2d, 0x31, 0x0a])).2 (-1) := by
  have hread : readRequest 2 "S2:O-1".toList = some (.slotAction 'O' (-1)) := by decide
  have hrun : (receiveAll uno2 .init (burst allOpen [0x53, 0x32, 0x3a, 0x4f, 0x2d, 0x31, 0x0a])).2 =
      processCommand uno2 allOpen "S2:O-1".toList := by decide
  refine ⟨⟨by decide, by decide, ['2'], ['-', '1'], rfl, .unsigned ⟨by decide, by decide, by decide⟩,
    .minus ⟨by decide, by decide, by decide⟩⟩, ?_, ?_⟩
  · rw [hrun, (reply_printed (b := uno2) noFloat allOpen hread (by decide)).1, slotReply_sentinel]
    rfl
  · rw [hrun, roundTrip_read (b := uno2) noFloat allOpen hread (by decide)]
    decide

end SmartLocker.System
