import SmartLocker.Firmware.Frames
import SmartLocker.Gateway.Commands

/-!
# Delivery of commands on the shared bus

Every line on the RS485 bus reaches every controller: the gateway's commands, with the line ends it
puts around them, and the frames of all slaves, each printed with `println`.  `bus_delivery` says
what a controller makes of any such stream: it carries out exactly the commands addressed to it, each
once and in order, and nothing else has an effect.
-/

set_option autoImplicit false

namespace SmartLocker.System

open Lib.Cut Lib.Python Lib.Utf8 SmartLocker.Firmware SmartLocker.Gateway

/-- The slave id and the slot are in `0..32767`. -/
def InRange (c : Command) : Prop :=
  (0 ≤ c.slave ∧ c.slave ≤ 32767) ∧
    match c.ask with
    | .ping => True
    | .slot _ k => 0 ≤ k ∧ k ≤ 32767

/-- One contribution to the bus. -/
inductive BusLine where
  | command (c : Command) (h : InRange c)
  | frame (f : SlaveFrame)

/-- The bytes it puts on the bus; `println` ends a frame with `\r\n`. -/
def BusLine.bytes (U : Unicode) : BusLine → List UInt8
  | .command c _ => c.bytes U
  | .frame f => (f.text ++ ['\r', '\n']).map Char.toUInt8

/-- What a command asks of its slave. -/
def request (c : Command) : Request :=
  match c.ask with
  | .ping => .ping
  | .slot action k => .slotAction action.letter k

/-- What a contribution asks of the controller `b`. -/
def BusLine.addressed (b : Board) : BusLine → Option Request
  | .command c _ => if c.slave = b.SLAVE_ID then some (request c) else none
  | .frame _ => none

/-- The lines of a command, as a controller splits them. -/
def commandLines (c : Command) : List (List Char) :=
  match c.ask with
  | .ping => [[], c.line]
  | .slot _ _ => [[], [], c.line]

def BusLine.lines : BusLine → List (List Char)
  | .command c _ => commandLines c
  | .frame f => [f.text, []]

/-! ## The lines of a contribution -/

theorem lineEnd_free {l : List Char} (h : ∀ c ∈ l, Plain c) : ∀ c ∈ l, isLineEnd c = false :=
  fun c hc => plain_not_lineEnd (h c hc)

/-- **A command is whole lines**: reading it from a line end gives its lines and ends at one. -/
theorem feed_command (U : Unicode) (c : Command) :
    feed isLineEnd [] ((c.bytes U).map Char.ofUInt8) = (commandLines c, []) := by
  have hlf : isLineEnd '\n' = true := by decide
  have hline := @feed_line _ isLineEnd _ (lineEnd_free c.line_plain) _ hlf [] []
  rw [List.nil_append] at hline
  rw [Command.bytes_chars]
  unfold Command.blanks commandLines
  cases c.ask <;> simp only [List.cons_append, List.nil_append, feed_sep hlf, hline] <;> rfl

theorem feed_frame (U : Unicode) (f : SlaveFrame) :
    feed isLineEnd [] (((BusLine.frame f).bytes U).map Char.ofUInt8) = ([f.text, []], []) := by
  have hlf : isLineEnd '\n' = true := by decide
  have hcr : isLineEnd '\r' = true := by decide
  have hascii : ∀ c ∈ f.text ++ ['\r', '\n'], Ascii c := by
    intro c hc
    rcases List.mem_append.mp hc with hc | hc
    · exact (f.emits.frame.2 c hc).ascii
    · have hall : ∀ d ∈ ['\r', '\n'], Ascii d := by decide
      exact hall c hc
  rw [BusLine.bytes, wire_ascii hascii, feed_line (lineEnd_free f.emits.frame.2) hcr, feed_sep hlf]
  rfl

theorem feed_lines (U : Unicode) (xs : List BusLine) :
    feed isLineEnd [] ((xs.flatMap (BusLine.bytes U)).map Char.ofUInt8) =
      (xs.flatMap BusLine.lines, []) := by
  induction xs with
  | nil => rfl
  | cons x xs ih =>
    have hx : feed isLineEnd [] ((x.bytes U).map Char.ofUInt8) = (x.lines, []) := by
      cases x with
      | command c h => exact feed_command U c
      | frame f => exact feed_frame U f
    rw [List.flatMap_cons, List.map_append, feed_append, hx]
    simp only [ih, List.flatMap_cons]

/-! ## What a controller reads from them -/

/-- The requests of lines, for the slave `id`. -/
def requestsIn (id : Int) (lines : List (List Char)) : List Request :=
  lines.filterMap (fun line => readRequest id (clip line))

/-- The slot survives a 16-bit `int`. -/
def SlotInt16 (c : Command) : Prop :=
  match c.ask with
  | .ping => True
  | .slot _ k => -32768 ≤ k ∧ k ≤ 32767

instance (c : Command) : Decidable (SlotInt16 c) := by
  unfold SlotInt16
  cases c.ask <;> infer_instance

theorem InRange.int16 {c : Command} (h : InRange c) :
    (-32768 ≤ c.slave ∧ c.slave ≤ 32767) ∧ SlotInt16 c := by
  obtain ⟨sid, ask⟩ := c
  obtain ⟨⟨h0, h1⟩, h2⟩ := h
  refine ⟨⟨by omega, h1⟩, ?_⟩
  cases ask with
  | ping => trivial
  | slot action k =>
    simp only at h2
    show -32768 ≤ k ∧ k ≤ 32767
    omega

/-- **A command line is read back**, by the slave it is addressed to and by no other. -/
theorem readRequest_line (id : Int) {c : Command}
    (h : (-32768 ≤ c.slave ∧ c.slave ≤ 32767) ∧ SlotInt16 c) :
    readRequest id (clip c.line) = if c.slave = id then some (request c) else none := by
  obtain ⟨sid, ask⟩ := c
  cases ask with
  | ping => exact readRequest_pingLine h.1
  | slot action k =>
    exact readRequest_slotLine h.1 h.2 (by cases action <;> decide)
      (by cases action <;> decide)

theorem requestsIn_command (id : Int) {c : Command}
    (h : (-32768 ≤ c.slave ∧ c.slave ≤ 32767) ∧ SlotInt16 c) :
    requestsIn id (commandLines c) = if c.slave = id then [request c] else [] := by
  have hempty : readRequest id (clip []) = none := rfl
  have hskip : requestsIn id (commandLines c) = requestsIn id [c.line] := by
    unfold requestsIn commandLines
    cases c.ask <;> simp only [List.filterMap_cons, hempty]
  rw [hskip, requestsIn, List.filterMap_cons, readRequest_line id h]
  by_cases hid : c.slave = id <;> simp [hid]

theorem requestsIn_append (id : Int) (a b : List (List Char)) :
    requestsIn id (a ++ b) = requestsIn id a ++ requestsIn id b := List.filterMap_append

theorem requestsIn_stream (b : Board) (xs : List BusLine) :
    requestsIn b.SLAVE_ID (xs.flatMap BusLine.lines) = xs.filterMap (BusLine.addressed b) := by
  induction xs with
  | nil => rfl
  | cons x xs ih =>
    rw [List.flatMap_cons, requestsIn_append, ih, List.filterMap_cons]
    cases x with
    | command c h =>
      simp only [BusLine.lines, BusLine.addressed, requestsIn_command _ h.int16]
      by_cases hid : c.slave = b.SLAVE_ID <;> simp [hid]
    | frame f =>
      simp [BusLine.lines, BusLine.addressed, requestsIn, readRequest_nil,
        readRequest_frame b.SLAVE_ID f.emits.frame]

/-- The requests of a stream, each with the readings of the byte that completes its line. -/
def requestsOf (b : Board) (es : List (List Char × Readings)) : List (Request × Readings) :=
  es.filterMap (fun p => (readRequest b.SLAVE_ID (clip p.1)).map (fun r => (r, p.2)))

theorem requestsOf_fst (b : Board) (es : List (List Char × Readings)) :
    (requestsOf b es).map Prod.fst = requestsIn b.SLAVE_ID (es.map Prod.fst) := by
  simp only [requestsOf, requestsIn, List.map_filterMap, List.filterMap_map]
  congr 1
  funext p
  cases h : readRequest b.SLAVE_ID (clip p.1) <;> simp [h]

/-- The effects of lines are the effects of their requests. -/
theorem effects_requestsOf (b : Board) (es : List (List Char × Readings)) :
    es.flatMap (fun p => processCommand b p.2 (clip p.1)) =
      (requestsOf b es).flatMap (fun q => execute b q.2 q.1) := by
  induction es with
  | nil => rfl
  | cons p es ih =>
    rw [List.flatMap_cons, ih, processCommand_eq]
    cases h : readRequest b.SLAVE_ID (clip p.1) <;> simp [requestsOf, h]

/-! ## Delivery -/

theorem receiveAll_snoc (b : Board) (st : LoopState) (p : List Rx) (x : Rx) :
    (receiveAll b st (p ++ [x])).1 = (receive b (receiveAll b st p).1 x).1 := by
  induction p generalizing st with
  | nil => rfl
  | cons y p ih => exact ih _

/-- **Bus delivery**: the controller carries out exactly the commands addressed to it, each once and
in order, and its buffer is empty after every line end. -/
theorem bus_delivery (U : Unicode) (b : Board) (xs : List BusLine) (l : List Rx) (st : LoopState)
    (hst : st.cmdBuffer = []) (hl : l.map Rx.byte = xs.flatMap (BusLine.bytes U)) (hg : NoGap l) :
    (∃ done : List (Request × Readings),
        done.map Prod.fst = xs.filterMap (BusLine.addressed b) ∧
        (receiveAll b st l).2 = done.flatMap (fun q => execute b q.2 q.1)) ∧
      ∀ (p : List Rx) (x : Rx) (q : List Rx), l = p ++ x :: q → isLineEnd x.c = true →
        (receiveAll b st (p ++ [x])).1.cmdBuffer = [] := by
  have hchars : l.map Rx.c = (xs.flatMap (BusLine.bytes U)).map Char.ofUInt8 := by
    rw [← hl, List.map_map]
    rfl
  refine ⟨⟨requestsOf b (lineEvents [] l), ?_, ?_⟩, ?_⟩
  · rw [requestsOf_fst, lineEvents_lines, hchars, feed_lines, requestsIn_stream]
  · rw [(receiveAll_eq b l st [] hst (fun _ _ => Or.inl hst) hg).2, effects_requestsOf]
  · intro p x q _ hx
    rw [receiveAll_snoc]
    exact receive_end_empty b _ hx

/-- The `ALIVE` of another slave, a command for it and one for slave 2. -/
def busSample : List BusLine :=
  [.frame ⟨heartbeatJson (Board.uno 3 (by decide)), Board.uno 3 (by decide), .alive⟩,
    .command ⟨3, .slot .T 0⟩ ⟨by decide, by decide⟩,
    .command ⟨2, .slot .O 1⟩ ⟨by decide, by decide⟩]

theorem bus_delivery_sample :
    ∃ done : List (Request × Readings), done.map Prod.fst = [.slotAction 'O' 1] ∧
      (receiveAll uno2 .init (burst allOpen (busSample.flatMap (BusLine.bytes Unicode.ascii)))).2 =
        done.flatMap (fun q => execute uno2 q.2 q.1) :=
  (bus_delivery Unicode.ascii uno2 busSample
    (burst allOpen (busSample.flatMap (BusLine.bytes Unicode.ascii))) .init rfl (burst_byte _ _)
    (noGap_burst _ _)).1

end SmartLocker.System
