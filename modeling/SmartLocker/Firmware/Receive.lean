import SmartLocker.Lib.Cut
import SmartLocker.Firmware.Command

/-!
# The locker controller: receiving lines

Model of the RS485 half of `loop()`: one byte at a time goes into `cmdBuffer`, a line end hands the
buffer to `processCommand`.  The buffer holds 31 characters and drops the rest of a longer line,
white space before the first character is skipped, and a pause of more than 200 ms empties it.

`clip` says what the buffer holds of an unfinished line, so a run needs no running: with no long
pause inside a line, `receiveAll_eq` gives the effects of any byte stream as the commands of its
lines, each clipped, each once and in order.
-/

set_option autoImplicit false

namespace SmartLocker.Firmware

open Lib.Cut

/-- One byte read by the loop: the time `millis()` gives, the byte, and what the firmware would read
while it carries out a command this byte ends. -/
structure Rx where
  now : UInt32
  byte : UInt8
  readings : Readings

def Rx.c (x : Rx) : Char := Char.ofUInt8 x.byte

def isLineEnd (c : Char) : Bool := c == '\n' || c == '\r'

/-- `cmdBuffer` up to `cmdIndex`, and the static `lastCharTime`. -/
structure LoopState where
  cmdBuffer : List Char
  lastCharTime : UInt32

def LoopState.init : LoopState := ⟨[], 0⟩

/-- A pause of more than 200 ms ends the old command. -/
def LoopState.afterPause (st : LoopState) (now : UInt32) : List Char :=
  if st.cmdBuffer.length > 0 ∧ now - st.lastCharTime > 200 then [] else st.cmdBuffer

/-- The body of `while (RS485Serial.available())`. -/
def receive (b : Board) (st : LoopState) (x : Rx) : LoopState × List Effect :=
  let cmd := st.afterPause x.now
  if isLineEnd x.c then
    if cmd.length > 0 then (⟨[], x.now⟩, processCommand b x.readings cmd) else (⟨cmd, x.now⟩, [])
  else if cmd.length < 31 then
    if cmd.length = 0 ∧ isspace x.c then (⟨cmd, x.now⟩, []) else (⟨cmd ++ [x.c], x.now⟩, [])
  else (⟨cmd, x.now⟩, [])

def receiveAll (b : Board) : LoopState → List Rx → LoopState × List Effect
  | st, [] => (st, [])
  | st, x :: l =>
    ((receiveAll b (receive b st x).1 l).1,
      (receive b st x).2 ++ (receiveAll b (receive b st x).1 l).2)

/-- No pause of more than 200 ms after a byte that does not end a line. -/
def NoGap : List Rx → Prop
  | x :: y :: l => (isLineEnd x.c = false → y.now - x.now ≤ 200) ∧ NoGap (y :: l)
  | _ => True

instance decidableNoGap : (l : List Rx) → Decidable (NoGap l)
  | [] => isTrue trivial
  | [_] => isTrue trivial
  | x :: y :: l =>
    have : Decidable (NoGap (y :: l)) := decidableNoGap (y :: l)
    inferInstanceAs (Decidable ((isLineEnd x.c = false → y.now - x.now ≤ 200) ∧ NoGap (y :: l)))

/-- Bytes that arrive in one burst. -/
def burst (w : Readings) (l : List UInt8) : List Rx := l.map (fun byte => ⟨0, byte, w⟩)

theorem burst_byte (w : Readings) (l : List UInt8) : (burst w l).map Rx.byte = l := by
  simp [burst, Function.comp_def]

theorem noGap_burst (w : Readings) : ∀ l : List UInt8, NoGap (burst w l)
  | [] => trivial
  | [_] => trivial
  | _ :: b :: l => ⟨fun _ => show (0 : UInt32) - 0 ≤ 200 by decide, noGap_burst w (b :: l)⟩

/-! ## What the buffer holds -/

/-- What `cmdBuffer` keeps of a line. -/
def clip (w : List Char) : List Char := (w.dropWhile isspace).take 31

@[simp] theorem clip_nil : clip [] = [] := rfl

theorem clip_space {w : List Char} {c : Char} (hw : clip w = []) (hc : isspace c = true) :
    clip (w ++ [c]) = [] := by
  have hd : w.dropWhile isspace = [] := by
    simpa [clip, List.take_eq_nil_iff] using hw
  simp [clip, List.dropWhile_append, hd, hc]

theorem clip_push {w : List Char} {c : Char} (hlen : (clip w).length < 31)
    (h : ¬ ((clip w).length = 0 ∧ isspace c = true)) : clip (w ++ [c]) = clip w ++ [c] := by
  unfold clip at *
  have hshort : (w.dropWhile isspace).length < 31 := by
    simp only [List.length_take] at hlen; omega
  rw [List.dropWhile_append]
  by_cases hd : w.dropWhile isspace = []
  · have hc : isspace c = false := by simpa [hd] using h
    simp [hd, hc]
  · have hne : (w.dropWhile isspace).isEmpty = false := by simpa using hd
    rw [if_neg (by simp [hne]), List.take_of_length_le (by simp; omega),
      List.take_of_length_le (by omega)]

theorem clip_full {w : List Char} {c : Char} (hlen : ¬ (clip w).length < 31) :
    clip (w ++ [c]) = clip w := by
  unfold clip at *
  have hlong : 31 ≤ (w.dropWhile isspace).length := by
    simp only [List.length_take] at hlen; omega
  have hne : (w.dropWhile isspace).isEmpty = false := by
    cases hd : w.dropWhile isspace with
    | nil => rw [hd] at hlong; simp at hlong
    | cons => rfl
  rw [List.dropWhile_append, if_neg (by simp [hne]), List.take_append_of_le_length hlong]

/-! ## One byte -/

/-- No pause before `x` can empty the buffer. -/
def Timely (st : LoopState) (x : Rx) : Prop :=
  st.cmdBuffer = [] ∨ x.now - st.lastCharTime ≤ 200

theorem Timely.afterPause {st : LoopState} {x : Rx} (h : Timely st x) :
    st.afterPause x.now = st.cmdBuffer := by
  unfold LoopState.afterPause
  refine if_neg ?_
  rintro ⟨hlen, hgap⟩
  rcases h with h | h
  · rw [h] at hlen; simp at hlen
  · exact absurd h (UInt32.not_le.mpr hgap)

theorem processCommand_nil (b : Board) (w : Readings) : processCommand b w [] = [] := rfl

/-- A line end empties the buffer and runs the command in it. -/
theorem receive_end {b : Board} {st : LoopState} {x : Rx} {w : List Char} (ht : Timely st x)
    (hw : st.cmdBuffer = clip w) (hx : isLineEnd x.c = true) :
    receive b st x = (⟨[], x.now⟩, processCommand b x.readings (clip w)) := by
  unfold receive
  simp only [ht.afterPause, hw, hx, ↓reduceIte]
  split
  · rfl
  · rename_i hlen
    have hnil : clip w = [] := List.eq_nil_of_length_eq_zero (by omega)
    rw [hnil, processCommand_nil]

/-- Any other byte extends the unfinished line and has no effect. -/
theorem receive_char {b : Board} {st : LoopState} {x : Rx} {w : List Char} (ht : Timely st x)
    (hw : st.cmdBuffer = clip w) (hx : isLineEnd x.c = false) :
    receive b st x = (⟨clip (w ++ [x.c]), x.now⟩, []) := by
  unfold receive
  simp only [ht.afterPause, hw, hx, Bool.false_eq_true, ↓reduceIte]
  by_cases hlen : (clip w).length < 31
  · rw [if_pos hlen]
    by_cases hsp : (clip w).length = 0 ∧ isspace x.c = true
    · rw [if_pos hsp]
      have hnil : clip w = [] := List.eq_nil_of_length_eq_zero hsp.1
      rw [clip_space hnil hsp.2, hnil]
    · rw [if_neg hsp, clip_push hlen hsp]
  · rw [if_neg hlen, clip_full hlen]

/-- After a line end the buffer is empty, whatever came before. -/
theorem receive_end_empty (b : Board) (st : LoopState) {x : Rx} (hx : isLineEnd x.c = true) :
    (receive b st x).1.cmdBuffer = [] := by
  unfold receive
  simp only [hx, ↓reduceIte]
  split
  · rfl
  · rename_i hlen
    show st.afterPause x.now = []
    exact List.eq_nil_of_length_eq_zero (by omega)

/-! ## A stream -/

/-- The lines a stream completes after the unfinished line `w`, each with the readings of the byte
that ends it. -/
def lineEvents (w : List Char) : List Rx → List (List Char × Readings)
  | [] => []
  | x :: l =>
    if isLineEnd x.c then (w, x.readings) :: lineEvents [] l else lineEvents (w ++ [x.c]) l

theorem lineEvents_lines (w : List Char) (l : List Rx) :
    (lineEvents w l).map Prod.fst = (feed isLineEnd w (l.map Rx.c)).1 := by
  induction l generalizing w with
  | nil => rfl
  | cons x l ih =>
    cases hx : isLineEnd x.c with
    | true => simp [lineEvents, hx, feed_sep hx, ih]
    | false => simp [lineEvents, hx, feed_other hx, ih]

/-- **The lines of a stream are carried out, each once and in order**, when no pause falls inside
a line. -/
theorem receiveAll_eq (b : Board) :
    ∀ (l : List Rx) (st : LoopState) (w : List Char), st.cmdBuffer = clip w →
      (∀ x, l.head? = some x → Timely st x) → NoGap l →
      (receiveAll b st l).1.cmdBuffer = clip (feed isLineEnd w (l.map Rx.c)).2 ∧
      (receiveAll b st l).2 =
        (lineEvents w l).flatMap (fun p => processCommand b p.2 (clip p.1))
  | [], st, w, hw, _, _ => ⟨hw, rfl⟩
  | x :: l, st, w, hw, ht, hg => by
    have hx := ht x rfl
    have htail : NoGap l := by
      cases l with
      | nil => trivial
      | cons y l => exact hg.2
    cases he : isLineEnd x.c with
    | true =>
      have hr := receive_end (b := b) hx hw he
      obtain ⟨h1, h2⟩ := receiveAll_eq b l ⟨[], x.now⟩ [] rfl (fun _ _ => Or.inl rfl) htail
      simp only [receiveAll, hr, List.map_cons, feed_sep he, lineEvents, he, ↓reduceIte,
        List.flatMap_cons]
      exact ⟨h1, by rw [h2]⟩
    | false =>
      have hr := receive_char (b := b) hx hw he
      have hnext : ∀ y, l.head? = some y → Timely ⟨clip (w ++ [x.c]), x.now⟩ y := by
        intro y hy
        cases l with
        | nil => cases hy
        | cons z l =>
          simp only [List.head?_cons, Option.some.injEq] at hy
          exact Or.inr (hy ▸ hg.1 he)
      obtain ⟨h1, h2⟩ := receiveAll_eq b l ⟨clip (w ++ [x.c]), x.now⟩ (w ++ [x.c]) rfl hnext htail
      simp only [receiveAll, hr, List.map_cons, feed_other he, lineEvents, he,
        Bool.false_eq_true, ↓reduceIte, List.nil_append]
      exact ⟨h1, h2⟩

theorem lineEvents_append (w : List Char) (l m : List Rx) :
    lineEvents w (l ++ m) =
      lineEvents w l ++ lineEvents (feed isLineEnd w (l.map Rx.c)).2 m := by
  induction l generalizing w with
  | nil => rfl
  | cons x l ih =>
    cases hx : isLineEnd x.c with
    | true => simp [lineEvents, hx, feed_sep hx, ih]
    | false => simp [lineEvents, hx, feed_other hx, ih]

theorem lineEvents_free {l : List Rx} (h : ∀ x ∈ l, isLineEnd x.c = false) (w : List Char) :
    lineEvents w l = [] := by
  induction l generalizing w with
  | nil => rfl
  | cons x l ih =>
    simp only [lineEvents, h x (by simp), Bool.false_eq_true, ↓reduceIte]
    exact ih (fun y hy => h y (by simp [hy])) _

theorem lineEvents_burst (w : Readings) (l : List UInt8) (v : List Char) :
    lineEvents v (burst w l) =
      (feed isLineEnd v (l.map Char.ofUInt8)).1.map (fun line => (line, w)) := by
  induction l generalizing v with
  | nil => rfl
  | cons byte l ih =>
    have hcons : burst w (byte :: l) = ⟨0, byte, w⟩ :: burst w l := rfl
    rw [hcons, List.map_cons]
    cases hx : isLineEnd (Char.ofUInt8 byte) with
    | true => simp [lineEvents, Rx.c, hx, feed_sep hx, ih]
    | false => simp [lineEvents, Rx.c, hx, feed_other hx, ih]

/-- A burst, from an empty buffer: the commands of its lines. -/
theorem receiveAll_burst (b : Board) (w : Readings) (l : List UInt8) :
    (receiveAll b .init (burst w l)).2 =
      (feed isLineEnd [] (l.map Char.ofUInt8)).1.flatMap
        (fun line => processCommand b w (clip line)) := by
  rw [(receiveAll_eq b _ .init [] rfl (fun _ _ => Or.inl rfl) (noGap_burst w l)).2,
    lineEvents_burst, List.flatMap_map]

/-- One line, from an empty buffer. -/
theorem receiveAll_line (b : Board) {st : LoopState} {body : List Rx} {e : Rx}
    (hst : st.cmdBuffer = []) (hg : NoGap (body ++ [e])) (hbody : ∀ x ∈ body, isLineEnd x.c = false)
    (he : isLineEnd e.c = true) :
    (receiveAll b st (body ++ [e])).2 = processCommand b e.readings (clip (body.map Rx.c)) := by
  have hfree : ∀ c ∈ body.map Rx.c, isLineEnd c = false := by
    intro c hc
    obtain ⟨x, hx, rfl⟩ := List.mem_map.mp hc
    exact hbody x hx
  rw [(receiveAll_eq b _ st [] hst (fun _ _ => Or.inl hst) hg).2, lineEvents_append,
    lineEvents_free hbody, feed_none hfree]
  simp [lineEvents, he]

end SmartLocker.Firmware
