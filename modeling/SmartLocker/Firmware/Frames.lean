import SmartLocker.Lib.Utf8
import SmartLocker.Firmware.Grammar

/-!
# What a controller puts on the bus

The texts a controller prints on RS485: replies to commands (`sendResponse`), door events
(`sendDoorEvent`) and the periodic `ALIVE` of `pollMagneticSensors`.  Each is one line that starts
with a brace, so no controller takes another's frame for a command (`readRequest_frame`); and what a
gateway command asks of a controller is read back exactly (`readRequest_slotLine`), as is a slot
command with any other numerals, so long as the buffer keeps enough of it (`SlotCommand.read`).
-/

set_option autoImplicit false

namespace SmartLocker.Firmware

open Lib.Decimal Lib.Utf8

/-! ## Push frames -/

/-- `jsonOut` of `sendDoorEvent`. -/
def doorEventText (b : Board) (slot : Int) (eventName : List Char) : List Char :=
  snprintf 64 <|
    "\x7b\"slave\":".toList ++ text b.SLAVE_ID ++ ",\"event\":\"".toList ++ eventName ++
      "\",\"slot\":".toList ++ text slot ++ "\x7d".toList

def heartbeatJson (b : Board) : List Char :=
  snprintf 64 <|
    "\x7b\"slave\":".toList ++ text b.SLAVE_ID ++ ",\"event\":\"ALIVE\"\x7d".toList

/-! ## Replies -/

/-- The arguments of `sendResponse`. -/
structure Reply where
  slot : Int
  gpio : Int
  result : List Char
  ms : Int
  isDoorClosed : Bool
  error : List Char

def Reply.text (b : Board) (q : Reply) : List Char :=
  jsonOut b q.slot q.gpio q.result q.ms q.isDoorClosed q.error

/-- The reply to a request; an unknown action in range has none. -/
def replyTo (b : Board) (w : Readings) : Request → Option Reply
  | .ping => some ⟨-1, -1, "OK".toList, 0, false, []⟩
  | .slotAction action slot =>
    if slot < 0 ∨ slot ≥ b.NUM_SLOTS then
      some ⟨slot, -1, "FAIL".toList, 0, false, "INVALID_SLOT".toList⟩
    else if action = 'T' ∨ action = 'O' ∨ action = 'C' then
      some ⟨slot, b.lockPin slot, "OK".toList, w.elapsedInt, isDoorClosed b w slot, []⟩
    else none

/-- The texts that effects print on the bus. -/
def printed (es : List Effect) : List (List Char) :=
  es.filterMap (fun e => match e with
    | .println t => some t
    | _ => none)

/-- **A request is answered once**, with the reply to it. -/
theorem printed_execute (b : Board) (w : Readings) (r : Request) :
    printed (execute b w r) = ((replyTo b w r).map (Reply.text b)).toList := by
  cases r with
  | ping => rfl
  | slotAction a slot =>
    simp only [execute, replyTo]
    split
    · rfl
    · split
      · rename_i h; rw [if_pos (Or.inl h)]; rfl
      split
      · rename_i h; rw [if_pos (Or.inr (Or.inl h))]; rfl
      split
      · rename_i h; rw [if_pos (Or.inr (Or.inr h))]; rfl
      · rename_i hT hO hC
        rw [if_neg (by tauto)]
        rfl

/-- A text that the board `b` prints on the bus: the reply to some line it read, an event of one of
its doors, or its heartbeat. -/
inductive Emits (b : Board) : List Char → Prop
  | reply {t : List Char} (w : Readings) (rawCmd : List Char)
      (h : t ∈ printed (processCommand b w rawCmd)) : Emits b t
  | door (slot : Nat) (hslot : slot < b.LOCK_PINS.length) (closed : Bool) :
      Emits b (doorEventText b slot (if closed then "DOOR_CLOSED".toList else "DOOR_OPENED".toList))
  | alive : Emits b (heartbeatJson b)

/-- A frame some controller prints. -/
structure SlaveFrame where
  text : List Char
  board : Board
  emits : Emits board text

/-- A printed reply answers a request that was read from the line. -/
theorem printed_processCommand {b : Board} {w : Readings} {rawCmd t : List Char}
    (h : t ∈ printed (processCommand b w rawCmd)) :
    ∃ r q, readRequest b.SLAVE_ID rawCmd = some r ∧ replyTo b w r = some q ∧ t = q.text b := by
  rw [processCommand_eq] at h
  split at h
  · rename_i r hr
    rw [printed_execute, Option.mem_toList, Option.map_eq_some_iff] at h
    obtain ⟨q, hq, rfl⟩ := h
    exact ⟨r, q, hr, hq, rfl⟩
  · cases h

/-! ## Frames are lines -/

theorem plain_not_lineEnd {c : Char} (h : Plain c) : isLineEnd c = false := by
  have := h.1
  have h1 : c ≠ '\n' := by rintro rfl; revert this; decide
  have h2 : c ≠ '\r' := by rintro rfl; revert this; decide
  simp [isLineEnd, h1, h2]

theorem snprintf_plain {n : Nat} {t : List Char} (h : ∀ c ∈ t, Plain c) :
    ∀ c ∈ snprintf n t, Plain c := fun c hc => h c (List.mem_of_mem_take hc)

/-- One line of printable ASCII that starts with a brace. -/
def IsFrame (t : List Char) : Prop := t.head? = some '\x7b' ∧ ∀ c ∈ t, Plain c

theorem jsonOut_frame (b : Board) (slot gpio : Int) {result : List Char}
    (hr : ∀ c ∈ result, Plain c) (ms : Int) (closed : Bool) {error : List Char}
    (he : ∀ c ∈ error, Plain c) : IsFrame (jsonOut b slot gpio result ms closed error) := by
  have hdoor : ∀ c ∈ (if closed then "true".toList else "false".toList), Plain c := by
    cases closed <;> decide
  constructor
  · unfold jsonOut
    split
    · rfl
    split <;> rfl
  · refine snprintf_plain ?_
    have htext := text_plain
    split
    · repeat' apply plain_append
      all_goals first | exact htext _ | assumption | decide
    split
    all_goals
      repeat' apply plain_append
      all_goals first | exact htext _ | assumption | decide

theorem replyTo_frame {b : Board} {w : Readings} {r : Request} {q : Reply}
    (h : replyTo b w r = some q) : IsFrame (q.text b) := by
  have hok : ∀ c ∈ "OK".toList, Plain c := by decide
  have hfail : ∀ c ∈ "FAIL".toList, Plain c := by decide
  have hinvalid : ∀ c ∈ "INVALID_SLOT".toList, Plain c := by decide
  cases r with
  | ping =>
    cases h
    exact jsonOut_frame b _ _ hok _ _ (by simp)
  | slotAction a slot =>
    simp only [replyTo] at h
    split at h
    · cases h
      exact jsonOut_frame b _ _ hfail _ _ hinvalid
    split at h
    · cases h
      exact jsonOut_frame b _ _ hok _ _ (by simp)
    · cases h

/-- **Everything a board prints is one brace-led line.** -/
theorem Emits.frame {b : Board} {t : List Char} (h : Emits b t) : IsFrame t := by
  have htext := text_plain
  cases h with
  | reply w rawCmd h =>
    obtain ⟨r, q, _, hq, rfl⟩ := printed_processCommand h
    exact replyTo_frame hq
  | door slot hslot closed =>
    refine ⟨rfl, snprintf_plain ?_⟩
    have hname : ∀ c ∈ (if closed then "DOOR_CLOSED".toList else "DOOR_OPENED".toList),
        Plain c := by cases closed <;> decide
    repeat' apply plain_append
    all_goals first | exact htext _ | assumption | decide
  | alive =>
    refine ⟨rfl, snprintf_plain ?_⟩
    repeat' apply plain_append
    all_goals first | exact htext _ | decide

/-! ## Frames are not commands -/

theorem readRequest_nil (id : Int) : readRequest id [] = none := rfl

theorem readRequest_frame (id : Int) {t : List Char} (h : IsFrame t) :
    readRequest id (clip t) = none := by
  obtain ⟨r, rfl⟩ : ∃ r, t = '\x7b' :: r := by
    cases t with
    | nil => cases h.1
    | cons c r => cases h.1; exact ⟨r, rfl⟩
  unfold readRequest clip cstr
  simp [show isspace '\x7b' = false by decide]

/-! ## Commands are read back -/

theorem numeral_ne {n : Int} {c d : Char} (hc : c ∈ text n) (h0 : d ≠ '-')
    (h1 : d.isDigit = false) : c ≠ d := by
  rintro rfl
  rcases text_mem hc with h | h
  · exact h0 h
  · rw [h] at h1; cases h1

theorem cstr_eq {s : List Char} (h : '\x00' ∉ s) : cstr s = s := by
  refine List.takeWhile_eq_self_iff.mpr fun c hc => ?_
  have : c ≠ '\x00' := by rintro rfl; exact h hc
  simpa using this

/-- A short text without NUL that starts with `S` goes through the buffer unchanged. -/
theorem clip_short {r : List Char} (hlen : r.length < 31) (hnul : '\x00' ∉ r) :
    (cstr (clip ('S' :: r))).dropWhile isspace = 'S' :: r := by
  have hclip : clip ('S' :: r) = 'S' :: r := by
    unfold clip
    rw [show ('S' :: r).dropWhile isspace = 'S' :: r by
      simp [show isspace 'S' = false by decide]]
    exact List.take_of_length_le (by simp; omega)
  have hcstr : cstr ('S' :: r) = 'S' :: r := by
    refine cstr_eq fun h => ?_
    rcases List.mem_cons.mp h with h | h
    · exact absurd h (by decide)
    · exact hnul h
  rw [hclip, hcstr]
  simp [show isspace 'S' = false by decide]

/-- Reading a short command that starts with a printed slave id. -/
theorem readRequest_addressed {id sid : Int} (hs : -32768 ≤ sid ∧ sid ≤ 32767)
    {cmd : List Char} (hlen : cmd.length ≤ 20) (hnul : '\x00' ∉ cmd) :
    readRequest id (clip ('S' :: text sid ++ ':' :: cmd)) =
      if sid ≠ id then none
      else if cmd = "PING".toList then some .ping
      else
        match cmd with
        | action :: c :: n => some (.slotAction action (atoi (c :: n)))
        | _ => none := by
  have hcolon : ':' ∉ text sid := fun h => numeral_ne h (by decide) (by decide) rfl
  have hshort := @clip_short (text sid ++ ':' :: cmd)
    (by have := text_length hs; simp only [List.length_append, List.length_cons]; omega)
    (by
      intro h
      rcases List.mem_append.mp h with h | h
      · exact numeral_ne h (by decide) (by decide) rfl
      · rcases List.mem_cons.mp h with h | h
        · exact absurd h (by decide)
        · exact hnul h)
  have hid : atoi (text sid ++ ':' :: cmd) = sid := by
    rw [atoi_text sid (noDigit_cons (by decide)), toInt16_id hs]
  unfold readRequest
  rw [List.cons_append, hshort]
  rcases cmd with _ | ⟨action, _ | ⟨c, n⟩⟩
  all_goals simp only [strchr_append hcolon, hid]

/-- **A slot command is read back**, by the slave it is addressed to and by no other. -/
theorem readRequest_slotLine {id sid k : Int} (hs : -32768 ≤ sid ∧ sid ≤ 32767)
    (hk : -32768 ≤ k ∧ k ≤ 32767) {letter : Char} (hl : letter ≠ 'P') (h0 : letter ≠ '\x00') :
    readRequest id (clip ('S' :: text sid ++ ':' :: letter :: text k)) =
      if sid = id then some (.slotAction letter k) else none := by
  have hnul : '\x00' ∉ letter :: text k := by
    intro h
    rcases List.mem_cons.mp h with h | h
    · exact h0 h.symm
    · exact numeral_ne h (by decide) (by decide) rfl
  have hping : letter :: text k ≠ "PING".toList := fun h => hl (List.cons.inj h).1
  have hatoi : atoi (text k) = k := by
    rw [← List.append_nil (text k), atoi_text k noDigit_nil, toInt16_id hk]
  rw [readRequest_addressed hs (by have := text_length hk; simp only [List.length_cons]; omega) hnul,
    if_neg hping]
  by_cases hid : sid = id
  · rw [if_neg (not_not.mpr hid), if_pos hid]
    cases ht : text k with
    | nil => exact absurd ht (text_ne_nil k)
    | cons c n =>
      rw [ht] at hatoi
      simp only [hatoi]
  · rw [if_pos hid, if_neg hid]

/-- **A `PING` is read back.** -/
theorem readRequest_pingLine {id sid : Int} (hs : -32768 ≤ sid ∧ sid ≤ 32767) :
    readRequest id (clip ('S' :: text sid ++ ':' :: "PING".toList)) =
      if sid = id then some .ping else none := by
  rw [readRequest_addressed hs (by decide) (by decide), if_pos rfl]
  by_cases hid : sid = id <;> simp [hid]

/-! ## Numerals of any form -/

/-- `d` is a decimal numeral with value `n`: digits, after at most one sign. -/
inductive IsDecimal : List Char → Int → Prop
  | unsigned {d : List Char} {n : Int} (h : IsNumeral d n) : IsDecimal d n
  | plus {d : List Char} {n : Int} (h : IsNumeral d n) : IsDecimal ('+' :: d) n
  | minus {d : List Char} {n : Int} (h : IsNumeral d n) : IsDecimal ('-' :: d) (-n)

theorem IsNumeral.digitsValue_eq {d : List Char} {n : Int} (h : IsNumeral d n) :
    digitsValue d = n := by
  unfold digitsValue
  rw [List.takeWhile_eq_self_iff.mpr h.digits]
  exact h.value

theorem IsNumeral.digitsValue_take {d : List Char} {n : Int} (h : IsNumeral d n) (k : Nat) :
    digitsValue (d.take k) = Nat.ofDigitChars 10 (d.take k) 0 := by
  unfold digitsValue
  rw [List.takeWhile_eq_self_iff.mpr fun c hc => h.digits c (List.mem_of_mem_take hc)]

theorem IsDecimal.atoi_eq {d : List Char} {n : Int} (h : IsDecimal d n) : atoi d = toInt16 n := by
  cases h with
  | unsigned h =>
    have := atoi_digits h.ne_nil h.digits noDigit_nil
    rw [List.append_nil, h.value] at this
    exact this
  | plus h =>
    simp only [atoi, List.dropWhile_cons, show isspace '+' = false by decide,
      Bool.false_eq_true, ↓reduceIte, h.digitsValue_eq]
  | minus h =>
    simp only [atoi, List.dropWhile_cons, show isspace '-' = false by decide,
      Bool.false_eq_true, ↓reduceIte, h.digitsValue_eq]

theorem IsDecimal.ne_nil {d : List Char} {n : Int} (h : IsDecimal d n) : d ≠ [] := by
  cases h with
  | unsigned h => exact h.ne_nil
  | plus h => simp
  | minus h => simp

theorem IsDecimal.mem {d : List Char} {n : Int} (h : IsDecimal d n) {c : Char} (hc : c ∈ d) :
    c.isDigit = true ∨ c = '+' ∨ c = '-' := by
  cases h with
  | unsigned h => exact Or.inl (h.digits c hc)
  | plus h =>
    rcases List.mem_cons.mp hc with rfl | hc
    · exact Or.inr (Or.inl rfl)
    · exact Or.inl (h.digits c hc)
  | minus h =>
    rcases List.mem_cons.mp hc with rfl | hc
    · exact Or.inr (Or.inr rfl)
    · exact Or.inl (h.digits c hc)

theorem IsDecimal.not_mem {d : List Char} {n : Int} (h : IsDecimal d n) {c : Char}
    (h0 : c.isDigit = false) (h1 : c ≠ '+') (h2 : c ≠ '-') : c ∉ d := by
  intro hc
  rcases h.mem hc with h | h | h
  · rw [h0] at h; cases h
  · exact h1 h
  · exact h2 h

/-- The line tells the slave of this board to test, open or close slot `n`. -/
structure SlotCommand (b : Board) (line : List Char) (action : Char) (n : Int) : Prop where
  action_known : action = 'T' ∨ action = 'O' ∨ action = 'C'
  int16 : -32768 ≤ n ∧ n ≤ 32767
  shape : ∃ x d, line = 'S' :: x ++ ':' :: action :: d ∧ IsDecimal x b.SLAVE_ID ∧ IsDecimal d n

theorem SlotCommand.no_nul {b : Board} {line : List Char} {action : Char} {n : Int}
    (h : SlotCommand b line action n) : '\x00' ∉ line := by
  obtain ⟨haction, -, x, d, rfl, hx, hd⟩ := h
  intro hmem
  rcases List.mem_append.mp hmem with hmem | hmem
  · rcases List.mem_cons.mp hmem with hmem | hmem
    · exact absurd hmem (by decide)
    · exact hx.not_mem (by decide) (by decide) (by decide) hmem
  · rcases List.mem_cons.mp hmem with hmem | hmem
    · exact absurd hmem (by decide)
    rcases List.mem_cons.mp hmem with rfl | hmem
    · rcases haction with h | h | h <;> exact absurd h (by decide)
    · exact hd.not_mem (by decide) (by decide) (by decide) hmem

/-- `atoi` takes the signs and digits that a cut numeral keeps for the value of the whole just if
nothing is cut off, or the value is zero. -/
theorem IsDecimal.atoi_take {d : List Char} {n : Int} (h : IsDecimal d n)
    (hn : -32768 ≤ n ∧ n ≤ 32767) {k : Nat} (hk : 1 ≤ k) :
    atoi (d.take k) = n ↔ d.length ≤ k ∨ n = 0 := by
  cases h with
  | @unsigned d n h =>
    have htake : d.take k ≠ [] := by simp [List.take_eq_nil_iff, h.ne_nil]; omega
    have hdigits : ∀ c ∈ d.take k, c.isDigit = true := fun c hc => h.digits c (List.mem_of_mem_take hc)
    have hatoi := atoi_digits htake hdigits noDigit_nil
    have hcut := @ofDigitChars_take d k
    have hvalue := h.value
    rw [List.append_nil, toInt16_id (by omega)] at hatoi
    rw [hatoi]
    omega
  | @plus d n h =>
    obtain ⟨j, rfl⟩ : ∃ j, k = j + 1 := ⟨k - 1, by omega⟩
    have hcut := @ofDigitChars_take d j
    have hvalue := h.value
    have hatoi : atoi ('+' :: d.take j) = toInt16 (Nat.ofDigitChars 10 (d.take j) 0) := by
      simp only [atoi, List.dropWhile_cons, show isspace '+' = false by decide, Bool.false_eq_true,
        ↓reduceIte, h.digitsValue_take j]
    rw [toInt16_id (by omega)] at hatoi
    rw [List.take_succ_cons, hatoi, List.length_cons]
    omega
  | @minus d n h =>
    obtain ⟨j, rfl⟩ : ∃ j, k = j + 1 := ⟨k - 1, by omega⟩
    have hcut := @ofDigitChars_take d j
    have hvalue := h.value
    have hatoi : atoi ('-' :: d.take j) = toInt16 (-(Nat.ofDigitChars 10 (d.take j) 0 : Int)) := by
      simp only [atoi, List.dropWhile_cons, show isspace '-' = false by decide, Bool.false_eq_true,
        ↓reduceIte, h.digitsValue_take j]
    rw [toInt16_id (by omega)] at hatoi
    rw [List.take_succ_cons, hatoi, List.length_cons]
    omega

/-- A command for the slot that `d` reads as, behind any colon-free text that `atoi` takes for the
slave. -/
theorem readRequest_slot {id : Int} {x d : List Char} {action : Char} (hid : atoi x = id)
    (hx : ':' ∉ x) (ha : action = 'T' ∨ action = 'O' ∨ action = 'C') (hd : d ≠ [])
    (hnul : '\x00' ∉ 'S' :: x ++ ':' :: action :: d) :
    readRequest id ('S' :: x ++ ':' :: action :: d) = some (.slotAction action (atoi d)) := by
  obtain ⟨c, m, rfl⟩ := List.exists_cons_of_ne_nil hd
  have hping : action :: c :: m ≠ "PING".toList := by
    rcases ha with rfl | rfl | rfl <;> simp
  unfold readRequest
  rw [cstr_eq hnul]
  simp only [List.cons_append, List.dropWhile_cons, show isspace 'S' = false by decide,
    Bool.false_eq_true, ↓reduceIte, strchr_append hx, atoi_colon, hid, ne_eq, not_true_eq_false,
    if_neg hping]

/-- A line whose colon is missing or followed by one character at most asks for nothing. -/
theorem readRequest_short {id : Int} {x p : List Char} (hx : ':' ∉ x) (hp : p.length ≤ 2)
    (hhead : p.head? = none ∨ p.head? = some ':') (hnul : '\x00' ∉ 'S' :: x ++ p) :
    readRequest id ('S' :: x ++ p) = none := by
  unfold readRequest
  rw [cstr_eq hnul]
  simp only [List.cons_append, List.dropWhile_cons, show isspace 'S' = false by decide,
    Bool.false_eq_true, ↓reduceIte]
  rcases p with _ | ⟨c, _ | ⟨a, _ | ⟨e, m⟩⟩⟩
  · have hnone : strchr x ':' = [] := by
      rw [strchr, List.dropWhile_eq_nil_iff]
      intro c hc
      have : c ≠ ':' := by rintro rfl; exact hx hc
      simpa using this
    simp only [List.append_nil, hnone]
  · obtain rfl : c = ':' := by simpa using hhead
    simp [strchr_append hx]
  · obtain rfl : c = ':' := by simpa using hhead
    simp [strchr_append hx]
  · simp only [List.length_cons] at hp
    omega

/-- The buffer keeps enough of the line to tell the slot `n`: all of it, or, for slot 0, the colon, the
action and one character more. -/
def InBuffer (line : List Char) (n : Int) : Prop :=
  (line.dropWhile isspace).length ≤ 31 ∨ n = 0 ∧ ':' ∈ (line.dropWhile isspace).take 29

/-- **What is read from a slot command**: the action and some slot, which is the one asked for just if
the buffer keeps enough of the line, or nothing. -/
theorem SlotCommand.read {b : Board} {line : List Char} {action : Char} {n : Int}
    (h : SlotCommand b (line.dropWhile isspace) action n) :
    (∃ m, readRequest b.SLAVE_ID (clip line) = some (.slotAction action m) ∧
      (m = n ↔ InBuffer line n)) ∨
    (readRequest b.SLAVE_ID (clip line) = none ∧ ¬ InBuffer line n) := by
  have hnul : '\x00' ∉ clip line := fun hmem => h.no_nul (List.mem_of_mem_take hmem)
  obtain ⟨haction, hn, x, d, hline, hx, hd⟩ := h
  unfold InBuffer
  unfold clip at hnul ⊢
  rw [hline] at hnul ⊢
  have hcolon : ':' ∉ x := hx.not_mem (by decide) (by decide) (by decide)
  have hid : atoi x = b.SLAVE_ID := by rw [hx.atoi_eq, toInt16_id b.slave_int16]
  have htake : ∀ k, ('S' :: x ++ ':' :: action :: d).take k =
      ('S' :: x).take k ++ (':' :: action :: d).take (k - ('S' :: x).length) :=
    fun k => List.take_append
  by_cases hlen : ('S' :: x).length ≤ 28
  · -- the colon, the action and a first character of the numeral are in the buffer
    left
    obtain ⟨k, hk⟩ : ∃ k, 28 - ('S' :: x).length = k := ⟨_, rfl⟩
    have hcut : ('S' :: x ++ ':' :: action :: d).take 31 =
        'S' :: x ++ ':' :: action :: d.take (k + 1) := by
      rw [htake, List.take_of_length_le (by omega), show 31 - ('S' :: x).length = k + 3 by omega]
      rfl
    have hmem : ':' ∈ ('S' :: x ++ ':' :: action :: d).take 29 := by
      rw [htake, show 29 - ('S' :: x).length = k + 1 by omega]
      exact List.mem_append_right _ List.mem_cons_self
    rw [hcut] at hnul ⊢
    have hsome : d.take (k + 1) ≠ [] := by simp [List.take_eq_nil_iff, hd.ne_nil]
    refine ⟨atoi (d.take (k + 1)), readRequest_slot hid hcolon haction hsome hnul, ?_⟩
    rw [hd.atoi_take hn (by omega)]
    simp only [hmem, and_true, List.length_append, List.length_cons] at hk hlen ⊢
    omega
  · -- at most one character behind the colon is in the buffer
    right
    rw [htake 31, show ('S' :: x).take 31 = 'S' :: x.take 30 from rfl] at hnul ⊢
    refine ⟨readRequest_short (fun hmem => hcolon (List.mem_of_mem_take hmem)) ?_ ?_ hnul, ?_⟩
    · rw [List.length_take]
      omega
    · cases 31 - ('S' :: x).length with
      | zero => exact Or.inl rfl
      | succ k => exact Or.inr rfl
    · rintro (hshort | ⟨-, hmem⟩)
      · have := List.length_pos_of_ne_nil hd.ne_nil
        simp only [List.length_append, List.length_cons] at hshort hlen
        omega
      · rw [List.take_append_of_le_length (by omega)] at hmem
        rcases List.mem_cons.mp (List.mem_of_mem_take hmem) with h | h
        · exact absurd h (by decide)
        · exact hcolon h

end SmartLocker.Firmware
