import SmartLocker.Lib.Machine
import SmartLocker.Firmware.Safety

/-!
# The USB port and the bus

Both input loops of `loop()` fill the same `cmdBuffer`.  `busCommands` lists what is handed to
`processCommand` at the line ends of RS485; without USB input these are the lines of the RS485 stream
(`harmless_quiet`).  `usb_undisturbed` says when they still are: `Harmless` asks of every byte that USB
leaves an RS485 line alone while it comes in, and has left nothing in the buffer, or nothing recent,
when one begins.  A byte that is not harmless does harm at once (`harm_shows`, `undisturbed_iff`).
-/

set_option autoImplicit false

namespace SmartLocker.Firmware

open Lib Lib.Machine Lib.Traced Lib.Cut

/-! ## Events of the loop -/

def LoopEvent.rx? : LoopEvent → Option Rx
  | .rs485 x => some x
  | _ => none

/-- The bytes of RS485. -/
def busBytes (es : List LoopEvent) : List Rx := es.filterMap LoopEvent.rx?

def LoopEvent.isUsb : LoopEvent → Bool
  | .usb _ => true
  | _ => false

theorem busBytes_events (passes : List Pass) :
    busBytes (passes.flatMap Pass.events) = passes.flatMap Pass.rs485 := by
  have hrs485 : ∀ l : List Rx, busBytes (l.map .rs485) = l := by
    intro l
    induction l with
    | nil => rfl
    | cons x l ih => exact congrArg (x :: ·) ih
  have husb : ∀ l : List UsbRx, busBytes (l.map .usb) = [] := by
    intro l
    induction l with
    | nil => rfl
    | cons x l ih => exact ih
  induction passes with
  | nil => rfl
  | cons x passes ih =>
    have hx : busBytes x.events = x.rs485 := by
      unfold Pass.events busBytes at *
      rw [List.filterMap_append, List.filterMap_append, hrs485, husb, List.append_nil]
      exact List.append_nil _
    unfold busBytes at *
    rw [List.flatMap_cons, List.filterMap_append, hx, ih, List.flatMap_cons]

/-! ## What is executed at the line ends of RS485 -/

/-- The text that an RS485 line end hands to `processCommand`. -/
def busCommand (st : Sketch) : LoopEvent → Option (List Char)
  | .rs485 x =>
    let st := (charTime x.now st).1
    if isLineEnd x.c ∧ st.cmdIndex > 0 then some (st.cmdBuffer.take st.cmdIndex.toNat) else none
  | _ => none

def busCommands (b : Board) : Sketch → List LoopEvent → List (List Char)
  | _, [] => []
  | st, e :: es => (busCommand st e).toList ++ busCommands b (handle b e st).1 es

/-! ## The buffer -/

/-- One USB byte, as the receiver of lines sees it. -/
def usbReceive (cmd : List Char) (x : UsbRx) : List Char :=
  if isLineEnd x.c then [] else if cmd.length < 31 then cmd ++ [x.c] else cmd

/-- **One USB byte** does to the buffer what the receiver says, and keeps the time of the last RS485
byte. -/
theorem usbRead_receive (b : Board) {st : Sketch} (h : st.Valid) (x : UsbRx) :
    (usbRead b x st).1.received = ⟨usbReceive st.received.cmdBuffer x, st.lastCharTime⟩ := by
  have hlen := h.length_received
  have hread : (usbRead b x st).1 =
      ((if isLineEnd x.c then endLine b x.readings
        else if st.cmdIndex < 31 then push x.c else nop) st).1 := by
    have hsame : ((if x.c = '!' then emit (did testFrame) else nop) st).1 = st := by
      split
      · rfl
      · rfl
    simp only [usbRead, seq, look, hsame]
  rw [hread, usbReceive]
  by_cases hend : isLineEnd x.c = true
  · rw [if_pos hend, if_pos hend, endLine]
    split
    · simp [Sketch.received]
    · rename_i hpos
      have hnil : st.received.cmdBuffer = [] := List.eq_nil_of_length_eq_zero (by omega)
      show st.received = ⟨[], st.lastCharTime⟩
      rw [← hnil]
      rfl
  · rw [if_neg hend, if_neg hend]
    by_cases hroom : st.cmdIndex < 31
    · rw [if_pos hroom, if_pos (by omega), ← push_received h hroom]
      rfl
    · rw [if_neg hroom, if_neg (by omega)]
      rfl

/-- What the polls do not touch. -/
theorem keeps_received (b : Board) (p : Poll) (r : LoopState) :
    Keeps (fun st : Sketch => st.received = r) (fun _ => True) (pollStep b p) := by
  have hT : Chained (fun _ : List Act => True) := ⟨trivial, fun _ _ => trivial⟩
  have hdebounce : ∀ i, Keeps (fun st : Sketch => st.received = r) (fun _ => True) (debounce p i) := by
    intro i st h
    refine ⟨?_, trivial⟩
    unfold debounce
    dsimp only
    split
    · exact h
    · exact h
  have hsettle : ∀ i closed,
      Keeps (fun st : Sketch => st.received = r) (fun _ => True) (settle b p i closed) := by
    intro i closed st h
    refine ⟨?_, trivial⟩
    unfold settle
    dsimp only
    split
    · exact h
    · exact h
  have hedge : ∀ i, Keeps (fun st : Sketch => st.received = r) (fun _ => True) (detectEdge b p i) := by
    intro i st h
    unfold detectEdge
    split
    · split
      · exact Keeps.seq hT (.emit trivial) (hsettle i _) st h
      · exact ⟨h, trivial⟩
    · exact ⟨h, trivial⟩
  have hheartbeat : Keeps (fun st : Sketch => st.received = r) (fun _ => True) (heartbeat b p) := by
    intro st h
    refine ⟨?_, trivial⟩
    unfold heartbeat
    split
    · exact h
    · exact h
  have hpoll : Keeps (fun st : Sketch => st.received = r) (fun _ => True) (pollMagneticSensors b p) :=
    .seq hT (.forEach hT fun i _ => .seq hT (hdebounce i) (hedge i)) hheartbeat
  intro st h
  unfold pollStep
  split
  · exact hpoll _ h
  · exact ⟨h, trivial⟩

theorem handle_valid (b : Board) {st : Sketch} (h : st.Valid) (e : LoopEvent) :
    (handle b e st).1.Valid := by
  cases e with
  | rs485 x => exact (sound_rs485Read b x st h).1
  | usb x => exact (sound_usbRead b x st h).1
  | poll p => exact (sound_pollStep b p st h).1

/-- The text is the buffer after the pause, when it is not empty. -/
theorem busCommand_rs485 {st : Sketch} (h : st.Valid) (x : Rx) :
    busCommand st (.rs485 x) =
      if isLineEnd x.c ∧ st.received.afterPause x.now ≠ [] then some (st.received.afterPause x.now)
      else none := by
  obtain ⟨hvalid, hreceived⟩ := charTime_received h x.now
  have hcmd : (charTime x.now st).1.received.cmdBuffer = st.received.afterPause x.now := by
    rw [hreceived]
  have hlen := hvalid.length_received
  rw [hcmd] at hlen
  have hpos : (charTime x.now st).1.cmdIndex > 0 ↔ st.received.afterPause x.now ≠ [] := by
    rw [← List.length_pos_iff]
    omega
  simp only [busCommand, hpos]
  rw [← hcmd]
  rfl

/-! ## The condition -/

/-- The sketch, and the bytes of the RS485 line that has begun. -/
structure Mixed where
  sketch : Sketch
  line : List Char

def LoopEvent.extend (w : List Char) : LoopEvent → List Char
  | .rs485 x => if isLineEnd x.c then [] else w ++ [x.c]
  | _ => w

def Mixed.next (b : Board) (s : Mixed) (e : LoopEvent) : Mixed :=
  ⟨(handle b e s.sketch).1, e.extend s.line⟩

/-- While an RS485 line has begun, a USB byte finds the buffer full and ends nothing; a byte of RS485
that is no blank and with which a line begins, or ends, finds nothing of USB in the buffer or comes
after a pause. -/
def Harmless (s : Mixed) : LoopEvent → Prop
  | .usb x => clip s.line ≠ [] → s.sketch.cmdIndex = 31 ∧ isLineEnd x.c = false
  | .rs485 x => clip s.line = [] → (isLineEnd x.c = false ∧ isspace x.c = true) ∨
      s.sketch.cmdIndex = 0 ∨ x.now - s.sketch.lastCharTime > 200
  | .poll _ => True

instance harmlessDecidable (s : Mixed) : ∀ e, Decidable (Harmless s e)
  | .usb x => inferInstanceAs (Decidable (clip s.line ≠ [] →
      s.sketch.cmdIndex = 31 ∧ isLineEnd x.c = false))
  | .rs485 x => inferInstanceAs (Decidable (clip s.line = [] →
      (isLineEnd x.c = false ∧ isspace x.c = true) ∨
        s.sketch.cmdIndex = 0 ∨ x.now - s.sketch.lastCharTime > 200))
  | .poll _ => isTrue trivial

/-- The RS485 line that has begun stands in the buffer. -/
structure Intact (s : Mixed) : Prop where
  valid : s.sketch.Valid
  line : clip s.line ≠ [] → s.sketch.received.cmdBuffer = clip s.line

/-- No pause comes before the next byte of the line. -/
def Punctual (s : Mixed) (e : LoopEvent) : Prop :=
  ∀ x, e = .rs485 x → s.line ≠ [] → x.now - s.sketch.lastCharTime ≤ 200

theorem line_of_clip {w : List Char} (h : clip w ≠ []) : w ≠ [] := by
  rintro rfl
  exact h rfl

/-- What is executed when no USB byte disturbs: the line, if there is anything in it. -/
def dueCommand (w : List Char) : LoopEvent → Option (List Char)
  | .rs485 x => if isLineEnd x.c ∧ clip w ≠ [] then some (clip w) else none
  | _ => none

theorem next_received (b : Board) {s : Mixed} (h : Intact s) (x : Rx) :
    (s.next b (.rs485 x)).sketch.received = (receive b s.sketch.received x).1 :=
  (rs485Read_receive b h.valid x).1

/-- A byte of RS485 when no line has begun: what USB left does not reach it. -/
theorem intact_begin (b : Board) {s : Mixed} {x : Rx} (h : Intact s) (hline : clip s.line = [])
    (hharmless : Harmless s (.rs485 x)) :
    Intact (s.next b (.rs485 x)) ∧ busCommand s.sketch (.rs485 x) = dueCommand s.line (.rs485 x) := by
  have hvalid := handle_valid b h.valid (.rs485 x)
  rw [busCommand_rs485 h.valid]
  by_cases hblank : isLineEnd x.c = false ∧ isspace x.c = true
  · have hnil : clip (s.line ++ [x.c]) = [] := clip_space hline hblank.2
    refine ⟨⟨hvalid, fun hne => absurd ?_ hne⟩, ?_⟩
    · simp only [Mixed.next, LoopEvent.extend, hblank.1, Bool.false_eq_true, ↓reduceIte, hnil]
    · simp [dueCommand, hblank.1]
  have hempty : s.sketch.received.afterPause x.now = [] := by
    have hlen := h.valid.length_received
    unfold LoopState.afterPause
    rcases (hharmless hline).resolve_left hblank with hzero | hpause
    · rw [if_neg (by omega)]
      exact List.eq_nil_of_length_eq_zero (by omega)
    · by_cases hpos : s.sketch.received.cmdBuffer.length > 0
      · rw [if_pos ⟨hpos, hpause⟩]
      · rw [if_neg (fun hand => hpos hand.1)]
        exact List.eq_nil_of_length_eq_zero (by omega)
  cases hend : isLineEnd x.c with
  | true =>
    refine ⟨⟨hvalid, fun hne => absurd ?_ hne⟩, ?_⟩
    · simp [Mixed.next, LoopEvent.extend, hend]
    · simp [dueCommand, hempty, hline]
  | false =>
    have hspace : ¬ isspace x.c = true := fun hs => hblank ⟨hend, hs⟩
    have hpush : clip (s.line ++ [x.c]) = clip s.line ++ [x.c] :=
      clip_push (by rw [hline]; decide) (fun hand => hspace hand.2)
    refine ⟨⟨hvalid, fun _ => ?_⟩, ?_⟩
    · rw [next_received b h]
      simp [receive, Mixed.next, LoopEvent.extend, hend, hempty, hspace, hpush, hline]
    · simp [dueCommand, hend]

/-- A byte of RS485 when a line has begun. -/
theorem intact_extend (b : Board) {s : Mixed} {x : Rx} (h : Intact s) (hline : clip s.line ≠ [])
    (hpunctual : Punctual s (.rs485 x)) :
    Intact (s.next b (.rs485 x)) ∧ busCommand s.sketch (.rs485 x) = dueCommand s.line (.rs485 x) := by
  have hvalid := handle_valid b h.valid (.rs485 x)
  have hbuffer := h.line hline
  have htimely : Timely s.sketch.received x := Or.inr (hpunctual x rfl (line_of_clip hline))
  rw [busCommand_rs485 h.valid, htimely.afterPause, hbuffer]
  cases hend : isLineEnd x.c with
  | true =>
    refine ⟨⟨hvalid, fun hne => absurd ?_ hne⟩, ?_⟩
    · simp [Mixed.next, LoopEvent.extend, hend]
    · simp [dueCommand, hend]
  | false =>
    refine ⟨⟨hvalid, fun _ => ?_⟩, ?_⟩
    · rw [next_received b h, receive_char htimely hbuffer hend]
      simp [Mixed.next, LoopEvent.extend, hend]
    · simp [dueCommand, hend]

/-- **One harmless step**: the line stays intact, and the text it hands over is that of the line. -/
theorem intact_step (b : Board) {s : Mixed} {e : LoopEvent} (h : Intact s) (hpunctual : Punctual s e)
    (hharmless : Harmless s e) :
    Intact (s.next b e) ∧ busCommand s.sketch e = dueCommand s.line e := by
  cases e with
  | poll p =>
    have hkeep : (pollStep b p s.sketch).1.received = s.sketch.received :=
      (keeps_received b p _ s.sketch rfl).1
    refine ⟨⟨handle_valid b h.valid (.poll p), fun hline => ?_⟩, rfl⟩
    show (pollStep b p s.sketch).1.received.cmdBuffer = clip s.line
    rw [hkeep]
    exact h.line hline
  | usb x =>
    refine ⟨⟨handle_valid b h.valid (.usb x), fun hline => ?_⟩, rfl⟩
    obtain ⟨hfull, hend⟩ := hharmless hline
    have hlen := h.valid.length_received
    show (usbRead b x s.sketch).1.received.cmdBuffer = clip s.line
    rw [usbRead_receive b h.valid, usbReceive, hend, if_neg Bool.false_ne_true, if_neg (by omega)]
    exact h.line hline
  | rs485 x =>
    by_cases hline : clip s.line = []
    · exact intact_begin b h hline hharmless
    · exact intact_extend b h hline hpunctual

/-- A USB byte in a line that has begun. -/
theorem harm_usb (b : Board) {s : Mixed} {x : UsbRx} (h : Intact s) (hnot : ¬ Harmless s (.usb x)) :
    ¬ Intact (s.next b (.usb x)) := by
  have hlen := h.valid.length_received
  simp only [Harmless, Classical.not_imp, not_and, Bool.not_eq_false] at hnot
  obtain ⟨hline, hnot⟩ := hnot
  intro hintact
  have hbuffer : (usbRead b x s.sketch).1.received.cmdBuffer = clip s.line := hintact.line hline
  rw [usbRead_receive b h.valid, usbReceive, h.line hline] at hbuffer
  rw [h.line hline] at hlen
  by_cases hend : isLineEnd x.c = true
  · rw [if_pos hend] at hbuffer
    exact hline hbuffer.symm
  · have hroom : (clip s.line).length < 31 := by
      have := h.valid.upper
      have : s.sketch.cmdIndex ≠ 31 := fun hfull => hend (hnot hfull)
      omega
    rw [if_neg hend, if_pos hroom] at hbuffer
    exact absurd (List.append_right_eq_self.mp hbuffer) (List.cons_ne_nil _ _)

/-- A line that begins behind what USB has left in the buffer. -/
theorem harm_begin (b : Board) {s : Mixed} {x : Rx} (h : Intact s) (hline : clip s.line = [])
    (hafter : s.sketch.received.afterPause x.now = s.sketch.received.cmdBuffer)
    (hrest : s.sketch.received.cmdBuffer ≠ []) (hend : isLineEnd x.c = false)
    (hspace : ¬ isspace x.c = true) : ¬ Intact (s.next b (.rs485 x)) := by
  intro hintact
  have hpush : clip (s.line ++ [x.c]) = clip s.line ++ [x.c] :=
    clip_push (by rw [hline]; decide) (fun hand => hspace hand.2)
  have hnew : (s.next b (.rs485 x)).line = s.line ++ [x.c] := by
    simp [Mixed.next, LoopEvent.extend, hend]
  have hbuffer := hintact.line (by rw [hnew, hpush]; simp)
  rw [hnew, hpush, hline, next_received b h] at hbuffer
  have hlen := congrArg List.length hbuffer
  have hpos : 0 < s.sketch.received.cmdBuffer.length := List.length_pos_iff.mpr hrest
  simp only [receive, hafter, hend, Bool.false_eq_true, ↓reduceIte, hspace, and_false] at hlen
  split at hlen
  · simp at hlen
    exact hrest hlen
  · simp at hlen
    omega

/-- **The condition is exact**: a byte that is not harmless hands over a text when no line of RS485 has
ended, or spoils the line that has begun. -/
theorem harm_shows (b : Board) {s : Mixed} {e : LoopEvent} (h : Intact s) (hnot : ¬ Harmless s e) :
    busCommand s.sketch e ≠ dueCommand s.line e ∨ ¬ Intact (s.next b e) := by
  cases e with
  | poll p => exact absurd trivial hnot
  | usb x => exact Or.inr (harm_usb b h hnot)
  | rs485 x =>
    simp only [Harmless, Classical.not_imp, not_or, not_and] at hnot
    obtain ⟨hline, hblank, hindex, hpause⟩ := hnot
    have hafter : s.sketch.received.afterPause x.now = s.sketch.received.cmdBuffer := by
      unfold LoopState.afterPause
      rw [if_neg (fun hand => hpause hand.2)]
    have hrest : s.sketch.received.cmdBuffer ≠ [] := by
      intro hnil
      have hlen := h.valid.length_received
      rw [hnil] at hlen
      exact hindex hlen.symm
    cases hend : isLineEnd x.c with
    | true =>
      refine Or.inl ?_
      rw [busCommand_rs485 h.valid, hafter]
      simp [hend, hrest, dueCommand, hline]
    | false => exact Or.inr (harm_begin b h hline hafter hrest hend (hblank hend))

/-! ## Runs -/

/-- The lines of an RS485 stream after the beginning `w`, as the buffer keeps them, but for empty
ones. -/
def busLines (w : List Char) (l : List Rx) : List (List Char) :=
  ((feed isLineEnd w (l.map Rx.c)).1.map clip).filter (· ≠ [])

def Mixed.step (b : Board) (s : Mixed) (e : LoopEvent) : Option Mixed := some (s.next b e)

/-- No pause comes before the next byte of RS485, when a line has begun. -/
def OnTime (s : Mixed) (l : List Rx) : Prop :=
  s.line ≠ [] → ∀ x, l.head? = some x → x.now - s.sketch.lastCharTime ≤ 200

theorem next_lastCharTime (b : Board) {s : Mixed} (h : s.sketch.Valid) (e : LoopEvent) :
    (s.next b e).sketch.lastCharTime =
      match e with
      | .rs485 x => x.now
      | _ => s.sketch.lastCharTime := by
  cases e with
  | rs485 x =>
    have hreceived := congrArg LoopState.lastCharTime (rs485Read_receive b h x).1
    have hnow : (receive b s.sketch.received x).1.lastCharTime = x.now := by
      unfold receive
      dsimp only
      split
      · split
        · rfl
        · rfl
      split
      · split
        · rfl
        · rfl
      · rfl
    exact hreceived.trans hnow
  | usb x => exact congrArg LoopState.lastCharTime (usbRead_receive b h x)
  | poll p => exact congrArg LoopState.lastCharTime (keeps_received b p _ s.sketch rfl).1

/-- The rest of a stream without pauses is on time for the next byte. -/
theorem onTime_next (b : Board) {s : Mixed} (h : s.sketch.Valid) {e : LoopEvent} {es : List LoopEvent}
    (htime : OnTime s (busBytes (e :: es))) (hgap : NoGap (busBytes (e :: es))) :
    OnTime (s.next b e) (busBytes es) ∧ NoGap (busBytes es) ∧ Punctual s e := by
  have htimestamp := next_lastCharTime b h e
  cases e with
  | rs485 x =>
    have hbytes : busBytes (.rs485 x :: es) = x :: busBytes es := rfl
    rw [hbytes] at htime hgap
    refine ⟨fun hline y hy => ?_, ?_, ?_⟩
    · rw [htimestamp]
      cases hrest : busBytes es with
      | nil => rw [hrest] at hy; cases hy
      | cons z l =>
        rw [hrest] at hy hgap
        cases hy
        refine hgap.1 ?_
        cases hend : isLineEnd x.c with
        | false => rfl
        | true => exact absurd (by simp [Mixed.next, LoopEvent.extend, hend]) hline
    · cases hrest : busBytes es with
      | nil => trivial
      | cons z l =>
        rw [hrest] at hgap
        exact hgap.2
    · intro y hy hline
      cases hy
      exact htime hline x rfl
  | usb x =>
    refine ⟨fun hline y hy => ?_, hgap, fun y hy => by cases hy⟩
    rw [htimestamp]
    exact htime hline y hy
  | poll p =>
    refine ⟨fun hline y hy => ?_, hgap, fun y hy => by cases hy⟩
    rw [htimestamp]
    exact htime hline y hy

theorem busLines_cons (w : List Char) (e : LoopEvent) (es : List LoopEvent) :
    busLines w (busBytes (e :: es)) =
      (dueCommand w e).toList ++ busLines (e.extend w) (busBytes es) := by
  cases e with
  | usb x => rfl
  | poll p => rfl
  | rs485 x =>
    have hbytes : busBytes (.rs485 x :: es) = x :: busBytes es := rfl
    rw [hbytes]
    cases hend : isLineEnd x.c with
    | true =>
      by_cases hempty : clip w = []
      · simp [busLines, feed_sep hend, dueCommand, LoopEvent.extend, hend, hempty]
      · simp [busLines, feed_sep hend, dueCommand, LoopEvent.extend, hend, hempty]
    | false => simp [busLines, feed_other hend, dueCommand, LoopEvent.extend, hend]

/-- At every moment of the run the lines so far have been executed, and the one that has begun stands in
the buffer. -/
def Undisturbed (b : Board) (s : Mixed) (es : List LoopEvent) : Prop :=
  ∀ m, m <+: es → busCommands b s.sketch m = busLines s.line (busBytes m) ∧
    Intact (m.foldl (Mixed.next b) s)

/-- **The condition is exact, over runs**: what is not harmless shows at some moment. -/
theorem undisturbed_iff (b : Board) :
    ∀ (es : List LoopEvent) (s : Mixed), Intact s → OnTime s (busBytes es) → NoGap (busBytes es) →
      (Undisturbed b s es ↔ Along (Mixed.step b) Harmless s es)
  | [], s, h, _, _ => by
    refine iff_of_true (fun m hm => ?_) trivial
    rw [List.prefix_nil.mp hm]
    exact ⟨rfl, h⟩
  | e :: es, s, h, htime, hgap => by
    obtain ⟨htime', hgap', hpunctual⟩ := onTime_next b h.valid htime hgap
    have hcons : ∀ m, busCommands b s.sketch (e :: m) =
        (busCommand s.sketch e).toList ++ busCommands b (s.next b e).sketch m := fun m => rfl
    constructor
    · intro hall
      obtain ⟨hfirst, hintact⟩ := hall [e] (List.prefix_cons_inj e |>.mpr List.nil_prefix)
      rw [hcons, busLines_cons] at hfirst
      have hcommand : busCommand s.sketch e = dueCommand s.line e := by
        have hlists := List.append_cancel_right hfirst
        cases hdone : busCommand s.sketch e with
        | none =>
          rw [hdone] at hlists
          exact (Option.toList_eq_nil_iff.mp hlists.symm).symm
        | some w =>
          rw [hdone] at hlists
          exact (Option.toList_eq_singleton_iff.mp hlists.symm).symm
      have hharmless : Harmless s e := by
        by_contra hnot
        rcases harm_shows b h hnot with hne | hspoilt
        · exact hne hcommand
        · exact hspoilt hintact
      refine ⟨hharmless, (undisturbed_iff b es (s.next b e) hintact htime' hgap').mp fun m hm => ?_⟩
      obtain ⟨hlines, hafter⟩ := hall (e :: m) ((List.prefix_cons_inj e).mpr hm)
      rw [hcons, busLines_cons, hcommand] at hlines
      exact ⟨List.append_cancel_left hlines, hafter⟩
    · rintro hharmless m hm
      obtain ⟨he, hes⟩ := hharmless.cons rfl
      obtain ⟨hintact, hcommand⟩ := intact_step b h hpunctual he
      rcases List.prefix_cons_iff.mp hm with rfl | ⟨m', rfl, hm'⟩
      · exact ⟨rfl, h⟩
      · obtain ⟨hlines, hafter⟩ :=
          (undisturbed_iff b es (s.next b e) hintact htime' hgap').mpr hes m' hm'
        rw [hcons, busLines_cons, hcommand, hlines]
        exact ⟨rfl, hafter⟩

/-- **A harmless run** executes the lines of the RS485 stream. -/
theorem busCommands_harmless (b : Board) (es : List LoopEvent) (s : Mixed) (h : Intact s)
    (htime : OnTime s (busBytes es)) (hgap : NoGap (busBytes es))
    (hharmless : Along (Mixed.step b) Harmless s es) :
    busCommands b s.sketch es = busLines s.line (busBytes es) :=
  ((undisturbed_iff b es s h htime hgap).mpr hharmless es List.prefix_rfl).1

/-- **A run without USB bytes** is harmless. -/
theorem harmless_quiet (b : Board) :
    ∀ (es : List LoopEvent) (s : Mixed), s.sketch.Valid →
      s.sketch.received.cmdBuffer = clip s.line → OnTime s (busBytes es) → NoGap (busBytes es) →
      (∀ e ∈ es, e.isUsb = false) → Along (Mixed.step b) Harmless s es
  | [], _, _, _, _, _, _ => trivial
  | e :: es, s, hvalid, hbuffer, htime, hgap, hquiet => by
    obtain ⟨htime', hgap', hpunctual⟩ := onTime_next b hvalid htime hgap
    have hintact : Intact s := ⟨hvalid, fun _ => hbuffer⟩
    have hlen := hvalid.length_received
    have hquiet' : ∀ e ∈ es, e.isUsb = false := fun e he => hquiet e (List.mem_cons_of_mem _ he)
    have hnext : Harmless s e ∧ (s.next b e).sketch.received.cmdBuffer = clip (s.next b e).line := by
      cases e with
      | usb x => exact absurd (hquiet _ List.mem_cons_self) (by simp [LoopEvent.isUsb])
      | poll p =>
        refine ⟨trivial, ?_⟩
        show (pollStep b p s.sketch).1.received.cmdBuffer = clip s.line
        rw [(keeps_received b p _ s.sketch rfl).1]
        exact hbuffer
      | rs485 x =>
        refine ⟨fun hline => Or.inr (Or.inl ?_), ?_⟩
        · rw [hbuffer, hline] at hlen
          exact hlen.symm
        · have htimely : Timely s.sketch.received x := by
            by_cases hline : s.line = []
            · exact Or.inl (by rw [hbuffer, hline, clip_nil])
            · exact Or.inr (hpunctual x rfl hline)
          rw [next_received b hintact]
          cases hend : isLineEnd x.c with
          | true =>
            rw [receive_end htimely hbuffer hend]
            simp [Mixed.next, LoopEvent.extend, hend]
          | false =>
            rw [receive_char htimely hbuffer hend]
            simp [Mixed.next, LoopEvent.extend, hend]
    exact ⟨hnext.1,
      harmless_quiet b es (s.next b e) (handle_valid b hvalid e) hnext.2 htime' hgap' hquiet'⟩

/-- The sketch after `setup()`. -/
def started (b : Board) (low : Nat → Bool) : Mixed := ⟨(setup b low .initial).1, []⟩

theorem started_spec (b : Board) (low : Nat → Bool) :
    (started b low).sketch.Valid ∧ (started b low).sketch.received.cmdBuffer = [] := by
  have hT : Chained (fun _ : List Act => True) := ⟨trivial, fun _ _ => trivial⟩
  have hslot : ∀ i, Keeps (fun st : Sketch => st.received.cmdBuffer = []) (fun _ => True)
      (setupSlot b low i) := fun i st h => ⟨h, trivial⟩
  have hsetup : Keeps (fun st : Sketch => st.received.cmdBuffer = []) (fun _ => True) (setup b low) :=
    .seq hT (.emit trivial) (.seq hT (.forEach hT fun i _ => hslot i)
      (.forEach hT fun _ _ => .emit trivial))
  exact ⟨(sound_setup b low _ valid_initial).1, (hsetup _ rfl).1⟩

theorem started_onTime (b : Board) (low : Nat → Bool) (l : List Rx) : OnTime (started b low) l :=
  fun hline => absurd rfl hline

theorem quiet_events {quiet : List Pass} (hquiet : ∀ x ∈ quiet, x.usb = []) :
    ∀ e ∈ quiet.flatMap Pass.events, e.isUsb = false := by
  intro e he
  obtain ⟨x, hx, he⟩ := List.mem_flatMap.mp he
  rw [Pass.events, hquiet x hx, List.map_nil, List.append_nil] at he
  rcases List.mem_append.mp he with he | he
  · obtain ⟨y, -, rfl⟩ := List.mem_map.mp he
    rfl
  · rw [List.mem_singleton.mp he]
    rfl

/-- **When the USB port does not disturb the bus.**  The same bytes come in on RS485, without a pause
inside a line, in passes with USB bytes and in passes without; their times may differ.  When every byte
of the first run is harmless, both runs execute the same commands at the line ends of RS485, in the same
order. -/
theorem usb_undisturbed (b : Board) (low : Nat → Bool) (passes quiet : List Pass)
    (hquiet : ∀ x ∈ quiet, x.usb = [])
    (hsame : (passes.flatMap Pass.rs485).map Rx.byte = (quiet.flatMap Pass.rs485).map Rx.byte)
    (hgap : NoGap (passes.flatMap Pass.rs485)) (hgap' : NoGap (quiet.flatMap Pass.rs485))
    (hharmless : Along (Mixed.step b) Harmless (started b low) (passes.flatMap Pass.events)) :
    busCommands b (started b low).sketch (passes.flatMap Pass.events) =
      busCommands b (started b low).sketch (quiet.flatMap Pass.events) := by
  obtain ⟨hvalid, hbuffer⟩ := started_spec b low
  have hintact : Intact (started b low) := ⟨hvalid, fun hline => absurd rfl hline⟩
  have hchars : (passes.flatMap Pass.rs485).map Rx.c = (quiet.flatMap Pass.rs485).map Rx.c := by
    have := congrArg (List.map Char.ofUInt8) hsame
    rwa [List.map_map, List.map_map] at this
  rw [← busBytes_events] at hgap hgap'
  have hquiet' := harmless_quiet b _ _ hvalid hbuffer (started_onTime b low _) hgap' (quiet_events hquiet)
  rw [busCommands_harmless b _ _ hintact (started_onTime b low _) hgap hharmless,
    busCommands_harmless b _ _ hintact (started_onTime b low _) hgap' hquiet', busBytes_events,
    busBytes_events, busLines, busLines, hchars]

/-- A pass that starts at time 0 and polls no sensor. -/
def passOf (rs485 usb : List UInt8) : Pass :=
  ⟨burst allOpen rs485, usb.map fun byte => ⟨byte, allOpen⟩, ⟨0, fun _ => false, fun _ => false, 0, 0⟩⟩

/-- `S2:O1` on RS485, and `?` with its line end typed on USB before and after it. -/
theorem usb_undisturbed_between :
    busCommands uno2 (started uno2 fun _ => false).sketch
        ([passOf [] [0x3f, 0x0a], passOf [0x53, 0x32, 0x3a, 0x4f, 0x31, 0x0a] [0x3f, 0x0a]].flatMap
          Pass.events) =
      busCommands uno2 (started uno2 fun _ => false).sketch
        ([passOf [0x53, 0x32, 0x3a, 0x4f, 0x31, 0x0a] []].flatMap Pass.events) :=
  usb_undisturbed uno2 (fun _ => false) _ _ (by decide) rfl (by decide) (by decide) (by decide)

/-- An `x` typed on USB while `S2:O1` comes in: the slave executes `S2:Ox1`. -/
theorem usb_disturbs :
    busCommands uno2 (started uno2 fun _ => false).sketch
        ([passOf [0x53, 0x32, 0x3a, 0x4f] [0x78], passOf [0x31, 0x0a] []].flatMap Pass.events) =
          ["S2:Ox1".toList] ∧
      busCommands uno2 (started uno2 fun _ => false).sketch
        ([passOf [0x53, 0x32, 0x3a, 0x4f] [], passOf [0x31, 0x0a] []].flatMap Pass.events) =
          ["S2:O1".toList] ∧
      NoGap ([passOf [0x53, 0x32, 0x3a, 0x4f] [0x78], passOf [0x31, 0x0a] []].flatMap Pass.rs485) := by
  refine ⟨by decide, by decide, by decide⟩

end SmartLocker.Firmware
