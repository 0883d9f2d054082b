import Mathlib.Algebra.Group.Nat.Defs
import SmartLocker.Gateway.Listener
import SmartLocker.Lib.Machine

/-!
# Losing and reopening the port

The whole loop of the listener thread: `_listener_loop` with its two `except` branches,
`_handle_fatal_error` and `_attempt_reconnect`.  `Listener` has the reading half.

`_handle_incoming_json` catches `JSONDecodeError` and nothing else of `json.loads`: an integer of more
than 4300 digits raises a `ValueError`, deep nesting a `RecursionError`.  These end in the second
`except`, and the lines that the chunk has left are not looked at.

`run_handled` says that the loop goes through what `listenerLoop` hands on of all chunks in a row, up to
the first text of each chunk that raises, whatever happens to the port in between: neither function
touches `_buffer`.  So what was left of a line when the old connection broke stands in front of the
first line of the new one, and `reconnect_delivers_iff` says when a frame is lost.
-/

set_option autoImplicit false

namespace SmartLocker.Gateway.Reconnect

open Lib.Machine Lib.Python Lib.Utf8 Lib.Cut

/-! ## The loop -/

/-- What the listener thread does to the outside. -/
inductive Act where
  /-- `_handle_incoming_json` of this text. -/
  | handle (json : List Char)
  /-- `time.sleep` of so many seconds before an attempt to reconnect. -/
  | wait (seconds : Nat)
  /-- `_on_reconnect` in a thread of its own. -/
  | notify
  deriving DecidableEq

/-- `isOpen` is `self._ser and self._ser.is_open`. -/
structure State where
  isOpen : Bool
  buffer : List Char
  reconnect_attempts : Nat
  acts : List Act
  deriving DecidableEq

/-- The loop when `_connect` has started it. -/
def State.init : State := ⟨true, [], 0, []⟩

/-- How the `try` of `_attempt_reconnect` ends. -/
inductive Attempt where
  /-- `serial.Serial` raises. -/
  | refused
  /-- The port is open, but `reset_input_buffer` raises. -/
  | unsettled
  | reopened
  deriving DecidableEq

/-- What one iteration of `while self._listener_running` meets. -/
inductive Pass where
  /-- No byte waits. -/
  | idle
  /-- `read` returns these bytes. -/
  | chunk (bytes : List UInt8)
  /-- `in_waiting` or `read` raises an `OSError` or `SerialException`. -/
  | fatal (a : Attempt)
  /-- They raise something else.  So may the handler, in a pass with a chunk. -/
  | unknown
  /-- The port is not open. -/
  | closed (a : Attempt)
  deriving DecidableEq

def MAX_RECONNECT_DELAY : Nat := 60

def attemptReconnect (s : State) (a : Attempt) : State :=
  let delay := min (2 ^ s.reconnect_attempts) MAX_RECONNECT_DELAY
  let s := { s with acts := s.acts ++ [Act.wait delay] }
  match a with
  | .refused => { s with reconnect_attempts := s.reconnect_attempts + 1 }
  | .unsettled => { s with isOpen := true, reconnect_attempts := s.reconnect_attempts + 1 }
  | .reopened => { s with isOpen := true, reconnect_attempts := 0, acts := s.acts ++ [Act.notify] }

def handleFatalError (s : State) (a : Attempt) : State :=
  attemptReconnect { s with isOpen := false } a

/-- One iteration; `raises` says for which texts `_handle_incoming_json` raises. -/
def step (raises : List Char → Bool) (s : State) : Pass → Option State
  | .idle => if s.isOpen then some s else none
  | .chunk bytes =>
    if s.isOpen then
      let r := listenerRead s.buffer bytes
      some { s with buffer := r.1, acts := s.acts ++ (upTo raises r.2).map Act.handle }
    else none
  | .fatal a => if s.isOpen then some (handleFatalError s a) else none
  | .unknown => if s.isOpen then some s else none
  | .closed a => if s.isOpen then none else some (attemptReconnect s a)

/-! ## What is handed on -/

def Act.json? : Act → Option (List Char)
  | .handle json => some json
  | _ => none

/-- The texts that `_handle_incoming_json` was called with. -/
def State.handled (s : State) : List (List Char) := s.acts.filterMap Act.json?

def Pass.bytes? : Pass → Option (List UInt8)
  | .chunk bytes => some bytes
  | _ => none

/-- The chunks that were read. -/
def chunks (ps : List Pass) : List (List UInt8) := ps.filterMap Pass.bytes?

/-- The texts that are found in each chunk. -/
def readings (buffer : List Char) : List (List UInt8) → List (List (List Char))
  | [] => []
  | chunk :: cs => (listenerRead buffer chunk).2 :: readings (listenerRead buffer chunk).1 cs

variable {raises : List Char → Bool}

theorem attemptReconnect_keeps (s : State) (a : Attempt) :
    (attemptReconnect s a).buffer = s.buffer ∧ (attemptReconnect s a).handled = s.handled := by
  cases a <;> simp [attemptReconnect, State.handled, Act.json?]

/-- One pass, as the reader of chunks sees it. -/
theorem step_handled {s s' : State} {p : Pass} (h : step raises s p = some s') :
    s'.buffer = (listenerLoop s.buffer (chunks [p])).1 ∧
      s'.handled = s.handled ++ (readings s.buffer (chunks [p])).flatMap (upTo raises) := by
  have hsame : ∀ {t : State}, t.buffer = s.buffer ∧ t.handled = s.handled →
      t.buffer = (listenerLoop s.buffer []).1 ∧
        t.handled = s.handled ++ (readings s.buffer []).flatMap (upTo raises) := by
    intro t ht
    simpa [listenerLoop, readings] using ht
  cases p with
  | idle =>
    obtain ⟨-, h⟩ := Option.ite_none_right_eq_some.mp h
    cases h
    exact hsame ⟨rfl, rfl⟩
  | unknown =>
    obtain ⟨-, h⟩ := Option.ite_none_right_eq_some.mp h
    cases h
    exact hsame ⟨rfl, rfl⟩
  | chunk bytes =>
    obtain ⟨-, h⟩ := Option.ite_none_right_eq_some.mp h
    cases h
    have hjson : ∀ l : List (List Char), (l.map Act.handle).filterMap Act.json? = l := by
      intro l
      induction l with
      | nil => rfl
      | cons x l ih => simp [Act.json?, ih]
    simp [chunks, Pass.bytes?, listenerLoop, readings, State.handled, hjson]
  | fatal a =>
    obtain ⟨-, h⟩ := Option.ite_none_right_eq_some.mp h
    cases h
    exact hsame (attemptReconnect_keeps { s with isOpen := false } a)
  | closed a =>
    obtain ⟨-, h⟩ := Option.ite_none_left_eq_some.mp h
    cases h
    exact hsame (attemptReconnect_keeps s a)

theorem listenerLoop_append (a b : List (List UInt8)) (buffer : List Char) :
    listenerLoop buffer (a ++ b) =
      ((listenerLoop (listenerLoop buffer a).1 b).1,
        (listenerLoop buffer a).2 ++ (listenerLoop (listenerLoop buffer a).1 b).2) := by
  induction a generalizing buffer with
  | nil => rfl
  | cons chunk a ih => simp only [List.cons_append, listenerLoop, ih, List.append_assoc]

theorem readings_append (a b : List (List UInt8)) (buffer : List Char) :
    readings buffer (a ++ b) = readings buffer a ++ readings (listenerLoop buffer a).1 b := by
  induction a generalizing buffer with
  | nil => rfl
  | cons chunk a ih => simp only [List.cons_append, readings, listenerLoop, ih]

theorem readings_flatten (buffer : List Char) (cs : List (List UInt8)) :
    (readings buffer cs).flatten = (listenerLoop buffer cs).2 := by
  induction cs generalizing buffer with
  | nil => rfl
  | cons chunk cs ih => simp only [readings, listenerLoop, List.flatten_cons, ih]

/-- **The listener reads on over every failure of the port**: what it holds is that of a loop that reads
all chunks in a row, and so is what it has handed on, up to the first text of each chunk that raises. -/
theorem run_handled {ps : List Pass} {s s' : State} (h : run (step raises) s ps = some s') :
    s'.buffer = (listenerLoop s.buffer (chunks ps)).1 ∧
      s'.handled = s.handled ++ (readings s.buffer (chunks ps)).flatMap (upTo raises) := by
  induction ps generalizing s with
  | nil =>
    obtain rfl : s = s' := Option.some.inj h
    simp [chunks, listenerLoop, readings]
  | cons p ps ih =>
    simp only [run] at h
    split at h
    · rename_i t ht
      obtain ⟨hbuffer, hhandled⟩ := step_handled ht
      obtain ⟨hbuffer', hhandled'⟩ := ih h
      have hchunks : chunks (p :: ps) = chunks [p] ++ chunks ps :=
        @List.filterMap_append _ _ [p] ps Pass.bytes?
      rw [hchunks, listenerLoop_append, readings_append, List.flatMap_append, ← hbuffer]
      exact ⟨hbuffer', by rw [hhandled', hhandled, List.append_assoc]⟩
    · cases h

/-! ## The unfinished line -/

/-- The bytes after the last line end. -/
def unfinished (bs : List UInt8) : List UInt8 := bs.rtakeWhile (· != 0x0a)

theorem unfinished_no_lf (bs : List UInt8) : 0x0a ∉ unfinished bs := by
  intro h
  have := List.mem_rtakeWhile_imp h
  simp at this

/-- What stands before the unfinished line is empty or ends with a line end. -/
theorem unfinished_split (bs : List UInt8) :
    bs = unfinished bs ∨ ∃ xs, bs = xs ++ 0x0a :: unfinished bs := by
  induction bs using List.reverseRecOn with
  | nil => exact Or.inl rfl
  | append_singleton bs b ih =>
    by_cases hb : b = 0x0a
    · exact Or.inr ⟨bs, by simp [unfinished, hb]⟩
    · have hlast : unfinished (bs ++ [b]) = unfinished bs ++ [b] :=
        List.rtakeWhile_concat_pos _ _ _ (by simpa using hb)
      rw [hlast]
      rcases ih with h | ⟨xs, h⟩
      · exact Or.inl (by rw [← h])
      · refine Or.inr ⟨xs, ?_⟩
        rw [← List.cons_append, ← List.append_assoc, ← h]

/-- The buffer is the unfinished line, decoded. -/
theorem buffer_decoded (cs : List (List UInt8)) :
    Decoded (unfinished cs.flatten) (listenerLoop [] cs).1 := by
  rw [listenerLoop_eq cs [] (by simp)]
  have hdec := decoded_chunks cs
  rcases unfinished_split cs.flatten with h | ⟨xs, h⟩
  · rw [h] at hdec
    rw [feed_none (hdec.free (unfinished_no_lf _))]
    exact hdec
  · rw [h] at hdec
    obtain ⟨s, u, ht, -, hu⟩ := Decoded.split (by decide) hdec
    rw [ht, feed_append, feed_sep (by decide), feed_none (hu.free (unfinished_no_lf _))]
    exact hu

/-! ## The new connection -/

/-- A JSON text and its line end. -/
structure Frame where
  json : JsonText
  crlf : Bool

theorem Frame.no_brace : 0x7b ∉ ([] : List UInt8) := List.not_mem_nil

theorem Frame.no_lf : 0x0a ∉ ([] : List UInt8) := List.not_mem_nil

/-- A line without noise. -/
def Frame.line (f : Frame) : StreamLine := ⟨[], some f.json, f.crlf, Frame.no_brace, Frame.no_lf⟩

def Frame.bytes (f : Frame) : List UInt8 := f.line.bytes

theorem frames_bytes (fs : List Frame) :
    fs.flatMap Frame.bytes = (fs.map Frame.line).flatMap StreamLine.bytes := by
  rw [List.flatMap_map]
  rfl

theorem frames_json (fs : List Frame) :
    (fs.map Frame.line).filterMap (fun l => l.json.map JsonText.chars) =
      fs.map fun f => f.json.chars := by
  rw [List.filterMap_map, ← List.filterMap_eq_map]
  rfl

/-- A text with a brace in front of a JSON text is handed on with it. -/
theorem jsonOfLine_glued (js : JsonText) {b e : List Char} (hb : '\x7b' ∈ b)
    (he : ∀ c ∈ e, isspace c = true) : jsonOfLine (b ++ js.chars ++ e) ≠ some js.chars := by
  obtain ⟨r, hr⟩ := js.cons
  have hstrip : strip (b ++ js.chars ++ e) = b.dropWhile isspace ++ js.chars :=
    js.strip_chars he
  have hkept : '\x7b' ∈ (b.dropWhile isspace).filter (· != '\x00') := by
    refine List.mem_filter.mpr ⟨?_, by decide⟩
    rw [← List.takeWhile_append_dropWhile (p := isspace) (l := b)] at hb
    refine (List.mem_append.mp hb).resolve_left fun h => ?_
    exact absurd (List.mem_takeWhile_imp h) (by decide)
  have hfound : ((b.dropWhile isspace).filter (· != '\x00')).dropWhile (· != '\x7b') ≠ [] := by
    intro h
    have := List.dropWhile_eq_nil_iff.mp h _ hkept
    simp at this
  unfold jsonOfLine
  simp only [hstrip, List.filter_append, js.filter_nul]
  rw [if_neg (by rw [hr]; simp), List.dropWhile_append, if_neg (by simpa using hfound)]
  obtain ⟨c, rest, hc⟩ := List.exists_cons_of_ne_nil hfound
  rw [hc]
  intro h
  have hlen := congrArg List.length (Option.some.inj h)
  simp at hlen
  omega

theorem jsonOfLine_frame (f : Frame) {b t : List Char} (h : Decoded f.line.body t) :
    jsonOfLine (b ++ t) = some f.json.chars ↔ '\x7b' ∉ b := by
  obtain ⟨e, rfl, he⟩ := Decoded.ascii_start f.json.ascii h
  have hspace : ∀ c ∈ e, isspace c = true := by
    cases hcr : f.crlf with
    | false =>
      simp only [Frame.line, hcr] at he
      simp [he.nil]
    | true =>
      simp only [Frame.line, hcr] at he
      obtain ⟨u, rfl, hu⟩ := @Decoded.ascii_start ['\r'] (by decide) _ _ he
      rw [hu.nil]
      decide
  rw [← List.append_assoc]
  exact ⟨fun hjson hb => jsonOfLine_glued f.json hb hspace hjson,
    fun hb => jsonOfLine_json f.json hb hspace⟩

/-- The frames of a new connection, when the buffer holds `b` of the old one: all but the first are
handed on as they are. -/
theorem listenerLoop_frames (f : Frame) (fs : List Frame) {b : List Char}
    (hb : ∀ c ∈ b, isNewline c = false) {cs : List (List UInt8)}
    (hcs : cs.flatten = (f :: fs).flatMap Frame.bytes) :
    ∃ t, Decoded f.line.body t ∧
      (listenerLoop b cs).2 = (jsonOfLine (b ++ t)).toList ++ fs.map fun f => f.json.chars := by
  have hdec := decoded_chunks cs
  have hsplit : (f :: fs).flatMap Frame.bytes =
      f.line.body ++ 0x0a :: ((fs.map Frame.line).flatMap StreamLine.bytes ++ []) := by
    rw [frames_bytes]
    simp [StreamLine.bytes]
  rw [hcs, hsplit] at hdec
  obtain ⟨t, u, ht, hfirst, hrest⟩ := Decoded.split (by decide) hdec
  obtain ⟨hjson, -⟩ := feed_stream (fs.map Frame.line) [] u (by simp) hrest
  refine ⟨t, hfirst, ?_⟩
  rw [listenerLoop_eq cs b hb, ht, feed_line (hfirst.free f.line.no_lf_body) (by decide)]
  simp only [List.filterMap_cons, hjson, frames_json]
  cases jsonOfLine (b ++ t) <;> rfl

/-! ## Reconnecting -/

/-- The port fails, `n` attempts to open it are refused, and the next one succeeds. -/
def recovery : Nat → List Pass
  | 0 => [.fatal .reopened]
  | n + 1 => .fatal .refused :: (List.replicate n (.closed .refused) ++ [.closed .reopened])

/-- Every frame is handed on once, as it is and in order, and no text that is handed on has anything
of another connection. -/
structure NothingLost (s t : State) (frames : List Frame) : Prop where
  delivered : t.handled = s.handled ++ frames.map fun f => f.json.chars
  unmixed : ∀ text ∈ t.handled.drop s.handled.length, ∃ f ∈ frames, text = f.json.chars

theorem chunks_recovery (n : Nat) : chunks (recovery n) = [] := by
  cases n with
  | zero => rfl
  | succ n =>
    simp only [recovery, chunks, List.filterMap_cons, List.filterMap_append, Pass.bytes?]
    rw [List.filterMap_replicate_of_none rfl]
    rfl

theorem chunks_before (before : List Pass) (n : Nat) : chunks (before ++ recovery n) = chunks before := by
  rw [chunks, List.filterMap_append]
  change chunks before ++ chunks (recovery n) = chunks before
  rw [chunks_recovery, List.append_nil]

/-! ### Frames and chunks -/

/-- Of the frames that one chunk completes, `_handle_incoming_json` raises for none but the last. -/
def KeepsFrames (raises : List Char → Bool) (cs : List (List UInt8)) (frames : List Frame) : Prop :=
  ∀ completed ∈ (cs.map (·.count 0x0a)).splitLengths frames, ∀ f ∈ completed.dropLast,
    raises f.json.chars = false

theorem countP_decode (bs : List UInt8) : (decode bs).countP isNewline = bs.count 0x0a := by
  induction hn : bs.length using Nat.strong_induction_on generalizing bs with
  | _ n ih =>
    by_cases hmem : 0x0a ∈ bs
    · obtain ⟨xs, ys, rfl⟩ := List.append_of_mem hmem
      rw [List.length_append, List.length_cons] at hn
      rw [decode_ascii (by decide), List.countP_append, List.countP_cons_of_pos rfl, List.count_append,
        List.count_cons_self, ih _ (by omega) xs rfl, ih _ (by omega) ys rfl]
    · rw [List.count_eq_zero_of_not_mem hmem, List.countP_eq_zero]
      intro c hc
      simp [(decoded_one bs).free hmem c hc]

/-- A chunk has as many texts as line ends, or fewer. -/
theorem length_readings {buffer : List Char} (hfree : ∀ c ∈ buffer, isNewline c = false)
    (cs : List (List UInt8)) :
    List.Forall₂ (· ≤ ·) ((readings buffer cs).map List.length) (cs.map (·.count 0x0a)) := by
  induction cs generalizing buffer with
  | nil => exact .nil
  | cons chunk cs ih =>
    have hread := listenerRead_eq hfree chunk
    rw [readings, hread]
    refine .cons ?_ (ih (feed_rest hfree))
    dsimp only
    rw [← countP_decode, ← length_feed buffer (decode chunk)]
    exact List.length_filterMap_le _ _

theorem count_frames (fs : List Frame) : (fs.flatMap Frame.bytes).count 0x0a = fs.length := by
  induction fs with
  | nil => rfl
  | cons f fs ih =>
    have hline : f.bytes.count 0x0a = 1 := by
      show (f.line.body ++ [0x0a]).count 0x0a = 1
      rw [List.count_append, List.count_eq_zero_of_not_mem f.line.no_lf_body]
      rfl
    rw [List.flatMap_cons, List.count_append, hline, ih, List.length_cons, Nat.add_comm]

/-- When the frames are all that is found, each chunk has those that it completes. -/
theorem readings_frames {buffer : List Char} (hfree : ∀ c ∈ buffer, isNewline c = false)
    {cs : List (List UInt8)} {frames : List Frame}
    (hframes : cs.flatten = frames.flatMap Frame.bytes)
    (hall : (readings buffer cs).flatten = frames.map fun f => f.json.chars) :
    readings buffer cs =
      ((cs.map (·.count 0x0a)).splitLengths frames).map (List.map fun f => f.json.chars) := by
  have hlengths : (readings buffer cs).map List.length = cs.map (·.count 0x0a) := by
    refine eq_of_le_of_sum_le (length_readings hfree cs) ?_
    rw [← List.length_flatten, hall, List.length_map, ← List.count_flatten, hframes, count_frames]
  rw [← map_splitLengths, ← hall, ← hlengths, splitLengths_flatten]

/-! ### What is lost -/

/-- Nothing comes in. -/
theorem nothingLost_nil {s t : State} {cs : List (List UInt8)}
    (hfree : ∀ c ∈ s.buffer, isNewline c = false)
    (hhandled : t.handled = s.handled ++ (readings s.buffer cs).flatMap (upTo raises))
    (hnone : cs.flatten = []) : NothingLost s t [] := by
  have hloop : (listenerLoop s.buffer cs).2 = [] := by
    have hempty := decoded_chunks cs
    rw [hnone] at hempty
    rw [listenerLoop_eq _ _ hfree, hempty.nil]
    rfl
  have hread : (readings s.buffer cs).flatMap (upTo raises) = [] := by
    have hle := @length_flatMap_upTo_le _ raises (readings s.buffer cs)
    rw [readings_flatten, hloop] at hle
    exact List.eq_nil_of_length_eq_zero (Nat.le_zero.mp hle)
  rw [hread, List.append_nil] at hhandled
  exact ⟨by simpa using hhandled, by simp [hhandled]⟩

/-- **The first frame and those that raise decide**: nothing is lost just if no brace stands in front of
the first and none that raises stands in front of another one in its chunk. -/
theorem nothingLost_cons {s t : State} {cs : List (List UInt8)} (f : Frame) (fs : List Frame)
    (hfree : ∀ c ∈ s.buffer, isNewline c = false)
    (hhandled : t.handled = s.handled ++ (readings s.buffer cs).flatMap (upTo raises))
    (hframes : cs.flatten = (f :: fs).flatMap Frame.bytes) :
    NothingLost s t (f :: fs) ↔ '\x7b' ∉ s.buffer ∧ KeepsFrames raises cs (f :: fs) := by
  obtain ⟨text, hfirst, hloop⟩ := listenerLoop_frames f fs hfree hframes
  rw [← readings_flatten] at hloop
  rw [← jsonOfLine_frame f hfirst]
  -- once the first frame is found, all are
  have hkeeps : jsonOfLine (s.buffer ++ text) = some f.json.chars →
      (readings s.buffer cs).flatten = (f :: fs).map (fun f => f.json.chars) ∧
        ((readings s.buffer cs).flatMap (upTo raises) = (readings s.buffer cs).flatten ↔
          KeepsFrames raises cs (f :: fs)) := by
    intro hjson
    rw [hjson] at hloop
    refine ⟨hloop, ?_⟩
    rw [flatMap_upTo_eq, readings_frames hfree hframes hloop]
    unfold KeepsFrames
    simp only [List.forall_mem_map, ← List.map_dropLast]
  constructor
  · intro h
    have hdelivered := h.delivered
    rw [hhandled, List.append_cancel_left_eq] at hdelivered
    cases hjson : jsonOfLine (s.buffer ++ text) with
    | none =>
      rw [hjson] at hloop
      have hle := @length_flatMap_upTo_le _ raises (readings s.buffer cs)
      rw [hdelivered, hloop, Option.toList_none, List.nil_append, List.length_map, List.length_map,
        List.length_cons] at hle
      omega
    | some json =>
      have hhead := @head?_flatMap_upTo _ raises (readings s.buffer cs)
      rw [hdelivered, hloop, hjson] at hhead
      have hsame : f.json.chars = json := Option.some.inj hhead
      subst hsame
      obtain ⟨hall, hiff⟩ := hkeeps hjson
      exact ⟨rfl, hiff.mp (by rw [hdelivered, hall])⟩
  · rintro ⟨hjson, hspared⟩
    obtain ⟨hall, hiff⟩ := hkeeps hjson
    rw [hiff.mpr hspared, hall] at hhandled
    refine ⟨hhandled, ?_⟩
    intro text htext
    rw [hhandled, List.drop_left] at htext
    obtain ⟨g, hg, rfl⟩ := List.mem_map.mp htext
    exact ⟨g, hg, rfl⟩

/-- **When a reconnect loses no frame.**  The port fails after any passes, and is open again after any
number of refused attempts; what is read then are frames, cut into chunks in any way, whatever else
happens, and `_handle_incoming_json` raises for any texts.  All of them are handed on, unmixed, just if
there are none, or the last unfinished line that was read before the failure has no brace and no frame
that raises is completed in one chunk with a later one. -/
theorem reconnect_delivers_iff (raises : List Char → Bool) (before after : List Pass) (n : Nat)
    {s t : State} (hs : run (step raises) .init (before ++ recovery n) = some s)
    (ht : run (step raises) s after = some t) (frames : List Frame)
    (hframes : (chunks after).flatten = frames.flatMap Frame.bytes) :
    NothingLost s t frames ↔ frames = [] ∨
      (0x7b ∉ unfinished (chunks before).flatten ∧ KeepsFrames raises (chunks after) frames) := by
  obtain ⟨hbuffer, -⟩ := run_handled hs
  obtain ⟨-, hhandled⟩ := run_handled ht
  rw [chunks_before] at hbuffer
  have hdec : Decoded (unfinished (chunks before).flatten) s.buffer := by
    rw [hbuffer]
    exact buffer_decoded (chunks before)
  have hfree := hdec.free (unfinished_no_lf _)
  cases frames with
  | nil => exact iff_of_true (nothingLost_nil hfree hhandled hframes) (Or.inl rfl)
  | cons f fs =>
    have hbrace : '\x7b' ∈ s.buffer ↔ 0x7b ∈ unfinished (chunks before).flatten :=
      hdec.mem_iff (by decide)
    rw [nothingLost_cons f fs hfree hhandled hframes, hbrace]
    simp only [reduceCtorEq, false_or]

/-- `int` takes 4300 digits. -/
def manyDigits (json : List Char) : Bool := 4300 < json.countP Char.isDigit

/-- Half of a multi-byte character is read, the port fails, is refused twice and opens again. -/
theorem reconnect_delivers_noise :
    ∃ s t, run (step manyDigits) .init ([.chunk [0x7b, 0x7d, 0x0a, 0xc3]] ++ recovery 2) = some s ∧
      run (step manyDigits) s [.chunk [0x7b], .idle, .chunk [0x7d, 0x0d, 0x0a]] = some t ∧
      NothingLost s t [⟨emptyObject, true⟩] := by
  have hkeeps : KeepsFrames manyDigits [[0x7b], [0x7d, 0x0d, 0x0a]] [⟨emptyObject, true⟩] := by
    intro completed hcompleted f hf
    have hlists : ([[0x7b], [0x7d, 0x0d, 0x0a]].map fun bs : List UInt8 => bs.count 0x0a) = [0, 1] := by
      decide
    rw [hlists] at hcompleted
    simp only [List.splitLengths_cons, List.splitLengths_nil, List.mem_cons, List.not_mem_nil,
      or_false] at hcompleted
    rcases hcompleted with rfl | rfl
    · cases hf
    · cases hf
  exact ⟨_, _, rfl, rfl,
    (reconnect_delivers_iff manyDigits [.chunk [0x7b, 0x7d, 0x0a, 0xc3]]
      [.chunk [0x7b], .idle, .chunk [0x7d, 0x0d, 0x0a]] 2 rfl rfl [⟨emptyObject, true⟩] rfl).mpr
      (Or.inr ⟨by decide, hkeeps⟩)⟩

/-- A frame is cut after its brace and the first quote: the first frame of the new connection is handed
on behind them. -/
theorem reconnect_glues_frames :
    ∃ s t, run (step manyDigits) .init ([.chunk [0x7b, 0x22]] ++ recovery 0) = some s ∧
      run (step manyDigits) s [.chunk [0x7b, 0x7d, 0x0a]] = some t ∧
      [0x7b, 0x7d, 0x0a] = [(⟨emptyObject, false⟩ : Frame)].flatMap Frame.bytes ∧
      t.handled = [['\x7b', '"', '\x7b', '\x7d']] ∧ ¬ NothingLost s t [⟨emptyObject, false⟩] :=
  ⟨_, _, rfl, rfl, rfl, rfl, fun h => absurd h.delivered (by decide)⟩

end SmartLocker.Gateway.Reconnect
