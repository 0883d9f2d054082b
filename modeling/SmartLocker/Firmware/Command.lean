import SmartLocker.Lib.Decimal

/-!
# The locker controller: commands and replies

Model of the command half of `arduino/locker_controller/locker_controller.ino`:

* `processCommand` — one received line: leading white space, the `S` mark, `strchr` for the first
  colon, `atoi` for the slave id, `PING`, `atoi` for the slot, the range check and the action;
* `testSlot`, `openSlot`, `closeSlot` — the pin writes and waits of one action;
* `sendResponse`, `sendError` — the `snprintf` templates and the RS485 transmission.

A C string is the list of its characters before the terminating NUL.  `int` has 16 bits.  What a
function does to the outside is the list of its `Effect`s in order; what it learns from outside
while it runs (the sensor and the elapsed time) is a `Readings`.  Text printed on the USB port is
left out: nothing reads it.

Principal results: `processCommand_eq` splits a command into reading a `Request` and carrying it
out; `execute_pulses` says which lock pins a request drives.
-/

set_option autoImplicit false

namespace SmartLocker.Firmware

open Lib.Decimal

/-! ## The board -/

def SSerialTxControl : Int := 7

/-- What differs between the controllers on one bus: `SLAVE_ID` and the pin tables.  The door arrays
have six elements and pin numbers fit a byte. -/
structure Board where
  SLAVE_ID : Int
  LOCK_PINS : List Int
  MAGNETIC_PINS : List Int
  slave_int16 : -32768 ≤ SLAVE_ID ∧ SLAVE_ID ≤ 32767
  slots_le : LOCK_PINS.length ≤ 6
  magnetic_length : MAGNETIC_PINS.length = LOCK_PINS.length
  pins_byte : ∀ p ∈ LOCK_PINS, 0 ≤ p ∧ p ≤ 255
  lock_nodup : LOCK_PINS.Nodup
  tx_not_lock : SSerialTxControl ∉ LOCK_PINS

def Board.NUM_SLOTS (b : Board) : Int := b.LOCK_PINS.length

/-- The pin tables of the sketch, for a slave id. -/
def Board.uno (id : Int) (h : -32768 ≤ id ∧ id ≤ 32767) : Board where
  SLAVE_ID := id
  LOCK_PINS := [2, 4, 5]
  MAGNETIC_PINS := [11, 12, 14]
  slave_int16 := h
  slots_le := by decide
  magnetic_length := rfl
  pins_byte := by decide
  lock_nodup := by decide
  tx_not_lock := by decide

inductive Level where
  | LOW
  | HIGH
  deriving DecidableEq, Repr

def RELAY_ON : Level := .HIGH
def RELAY_OFF : Level := .LOW

inductive Effect where
  | digitalWrite (pin : Int) (level : Level)
  | delay (ms : Nat)
  | println (text : List Char)
  deriving DecidableEq, Repr

/-- What the firmware reads while it carries out one command: `millis() - startMs` and, per pin,
whether `digitalRead` gives `LOW`. -/
structure Readings where
  elapsed : UInt32
  pinLow : Int → Bool

/-! ## C library -/

/-- `isspace` in the C locale. -/
def isspace (c : Char) : Bool :=
  c == ' ' || (decide (9 ≤ c.toNat) && decide (c.toNat ≤ 13))

/-- The value a 16-bit `int` keeps of `n`. -/
def toInt16 (n : Int) : Int := (n + 32768) % 65536 - 32768

/-- The characters of a buffer up to its NUL. -/
def cstr (buf : List Char) : List Char := buf.takeWhile (· != '\x00')

/-- The part of `s` from the first `c` on, empty when there is none (`NULL`). -/
def strchr (s : List Char) (c : Char) : List Char := s.dropWhile (· != c)

def digitsValue (s : List Char) : Int :=
  (Nat.ofDigitChars 10 (s.takeWhile Char.isDigit) 0 : Nat)

/-- `atoi`: white space, an optional sign, then as many digits as there are. -/
def atoi (s : List Char) : Int :=
  match s.dropWhile isspace with
  | '-' :: r => toInt16 (-(digitsValue r))
  | '+' :: r => toInt16 (digitsValue r)
  | r => toInt16 (digitsValue r)

/-- `snprintf` into a buffer of `n` characters keeps room for the NUL. -/
def snprintf (n : Nat) (formatted : List Char) : List Char := formatted.take (n - 1)

theorem toInt16_id {n : Int} (h : -32768 ≤ n ∧ n ≤ 32767) : toInt16 n = n := by
  unfold toInt16; omega

theorem toInt16_range (n : Int) : -32768 ≤ toInt16 n ∧ toInt16 n ≤ 32767 := by
  unfold toInt16; omega

theorem atoi_range (s : List Char) : -32768 ≤ atoi s ∧ atoi s ≤ 32767 := by
  unfold atoi
  split <;> exact toInt16_range _

theorem isspace_not_digit {c : Char} (h : c.isDigit = true) : isspace c = false := by
  simp only [Char.isDigit, Bool.and_eq_true, decide_eq_true_eq] at h
  have h1 : 48 ≤ c.toNat := by simpa using UInt32.le_iff_toNat_le.mp h.1
  have hne : c ≠ ' ' := by rintro rfl; simp at h1
  simp [isspace, hne]
  omega

theorem digitsValue_append {ds r : List Char} (hd : ∀ c ∈ ds, c.isDigit = true)
    (hr : NoDigit r) : digitsValue (ds ++ r) = Nat.ofDigitChars 10 ds 0 := by
  unfold digitsValue
  rw [takeWhile_append_noDigit hd hr]

/-- `atoi` on a run of digits. -/
theorem atoi_digits {ds r : List Char} (hne : ds ≠ []) (hd : ∀ c ∈ ds, c.isDigit = true)
    (hr : NoDigit r) : atoi (ds ++ r) = toInt16 (Nat.ofDigitChars 10 ds 0) := by
  cases ds with
  | nil => exact absurd rfl hne
  | cons c ds =>
    have hc := hd c (by simp)
    have hdrop : (c :: ds ++ r).dropWhile isspace = c :: ds ++ r := by
      simp [isspace_not_digit hc]
    unfold atoi
    rw [hdrop]
    split
    · rename_i heq
      simp only [List.cons_append, List.cons.injEq] at heq
      exact absurd heq.1 (digit_ne hc (by decide))
    · rename_i heq
      simp only [List.cons_append, List.cons.injEq] at heq
      exact absurd heq.1 (digit_ne hc (by decide))
    · rw [digitsValue_append hd hr]

/-- **`atoi` reads a printed numeral back**, whatever non-digit follows, up to 16-bit wrap. -/
theorem atoi_text (n : Int) {r : List Char} (hr : NoDigit r) :
    atoi (text n ++ r) = toInt16 n := by
  by_cases hn : n < 0
  · have hval : digitsValue (Nat.toDigits 10 n.natAbs ++ r) = (n.natAbs : Int) := by
      rw [digitsValue_append (fun c => isDigit_of_mem) hr]
      simp
    rw [text_neg hn]
    simp only [atoi, List.cons_append, List.dropWhile_cons, show isspace '-' = false by decide,
      Bool.false_eq_true, ↓reduceIte, hval]
    congr 1
    omega
  · rw [text_nonneg (by omega), atoi_digits Nat.toDigits_ne_nil (fun c => isDigit_of_mem) hr]
    congr 1
    simp
    omega

/-! ## Replies -/

/-- `sendResponse`: the contents of `jsonOut`. -/
def jsonOut (b : Board) (slot gpio : Int) (result : List Char) (ms : Int) (isDoorClosed : Bool)
    (error : List Char) : List Char :=
  snprintf 128 <|
    if slot = -1 then
      -- the answer to PING reports the number of slots
      "\x7b\"slave\":".toList ++ text b.SLAVE_ID ++ ",\"slots\":".toList ++ text b.NUM_SLOTS ++
        ",\"result\":\"".toList ++ result ++ "\",\"ms\":".toList ++ text ms ++ "\x7d".toList
    else if error.length > 0 then
      "\x7b\"slave\":".toList ++ text b.SLAVE_ID ++ ",\"slot\":".toList ++ text slot ++
        ",\"result\":\"".toList ++ result ++ "\",\"gpio\":".toList ++ text gpio ++
        ",\"ms\":".toList ++ text ms ++ ",\"door\":".toList ++
        (if isDoorClosed then "true".toList else "false".toList) ++
        ",\"error\":\"".toList ++ error ++ "\"\x7d".toList
    else
      "\x7b\"slave\":".toList ++ text b.SLAVE_ID ++ ",\"slot\":".toList ++ text slot ++
        ",\"result\":\"".toList ++ result ++ "\",\"gpio\":".toList ++ text gpio ++
        ",\"ms\":".toList ++ text ms ++ ",\"door\":".toList ++
        (if isDoorClosed then "true".toList else "false".toList) ++ "\x7d".toList

/-- `int txDelay = (strlen(jsonOut) + 2) * 1.1`. -/
def txDelay (out : List Char) : Nat := (out.length + 2) * 11 / 10

def sendResponse (b : Board) (slot gpio : Int) (result : List Char) (ms : Int)
    (isDoorClosed : Bool) (error : List Char) : List Effect :=
  let out := jsonOut b slot gpio result ms isDoorClosed error
  [.delay 50, .digitalWrite SSerialTxControl .HIGH, .delay 10, .println out,
    .delay (txDelay out + 2), .digitalWrite SSerialTxControl .LOW]

def sendError (b : Board) (slot : Int) (error : List Char) : List Effect :=
  sendResponse b slot (-1) "FAIL".toList 0 false error

/-! ## Actions -/

def Board.lockPin (b : Board) (slot : Int) : Int := b.LOCK_PINS.getD slot.toNat 0

/-- `digitalRead(MAGNETIC_PINS[slot]) == LOW`. -/
def isDoorClosed (b : Board) (w : Readings) (slot : Int) : Bool :=
  w.pinLow (b.MAGNETIC_PINS.getD slot.toNat 0)

/-- `(int)elapsed`. -/
def Readings.elapsedInt (w : Readings) : Int := toInt16 w.elapsed.toNat

def testSlot (b : Board) (w : Readings) (slot lockPin : Int) : List Effect :=
  [.digitalWrite lockPin RELAY_ON, .delay 1000, .digitalWrite lockPin RELAY_OFF, .delay 2000] ++
    sendResponse b slot lockPin "OK".toList w.elapsedInt (isDoorClosed b w slot) []

def openSlot (b : Board) (w : Readings) (slot lockPin : Int) : List Effect :=
  [.digitalWrite lockPin RELAY_ON, .delay 1000, .digitalWrite lockPin RELAY_OFF, .delay 2000] ++
    sendResponse b slot lockPin "OK".toList w.elapsedInt (isDoorClosed b w slot) []

def closeSlot (b : Board) (w : Readings) (slot lockPin : Int) : List Effect :=
  [.digitalWrite lockPin RELAY_OFF, .delay 1000] ++
    sendResponse b slot lockPin "OK".toList w.elapsedInt (isDoorClosed b w slot) []

def processCommand (b : Board) (w : Readings) (rawCmd : List Char) : List Effect :=
  let cmd := (cstr rawCmd).dropWhile isspace
  if cmd = [] then []
  else if cmd.head? ≠ some 'S' then []
  else
    let colonPos := strchr cmd ':'
    if colonPos = [] then []
    else
      let targetId := atoi (cmd.drop 1)
      if targetId ≠ b.SLAVE_ID then []
      else
        let realCmd := colonPos.drop 1
        let action := realCmd.head?
        if realCmd = "PING".toList then sendResponse b (-1) (-1) "OK".toList 0 false []
        else if realCmd.length < 2 then []
        else
          let slot := atoi (realCmd.drop 1)
          if slot < 0 ∨ slot ≥ b.NUM_SLOTS then sendError b slot "INVALID_SLOT".toList
          else
            let lockPin := b.lockPin slot
            if action = some 'T' then testSlot b w slot lockPin
            else if action = some 'O' then openSlot b w slot lockPin
            else if action = some 'C' then closeSlot b w slot lockPin
            else []

/-! ## Reading and carrying out -/

/-- What a line asks of the slave it is addressed to. -/
inductive Request where
  | ping
  | slotAction (action : Char) (slot : Int)
  deriving DecidableEq, Repr

/-- The request a line makes of the slave `id`, if any. -/
def readRequest (id : Int) (rawCmd : List Char) : Option Request :=
  match (cstr rawCmd).dropWhile isspace with
  | 'S' :: r =>
    match strchr r ':' with
    | _ :: realCmd =>
      if atoi r ≠ id then none
      else if realCmd = "PING".toList then some .ping
      else
        match realCmd with
        | action :: c :: n => some (.slotAction action (atoi (c :: n)))
        | _ => none
    | [] => none
  | _ => none

/-- Carrying out a request. -/
def execute (b : Board) (w : Readings) : Request → List Effect
  | .ping => sendResponse b (-1) (-1) "OK".toList 0 false []
  | .slotAction action slot =>
    if slot < 0 ∨ slot ≥ b.NUM_SLOTS then sendError b slot "INVALID_SLOT".toList
    else if action = 'T' then testSlot b w slot (b.lockPin slot)
    else if action = 'O' then openSlot b w slot (b.lockPin slot)
    else if action = 'C' then closeSlot b w slot (b.lockPin slot)
    else []

/-- **A command is read, then carried out.** -/
theorem processCommand_eq (b : Board) (w : Readings) (rawCmd : List Char) :
    processCommand b w rawCmd =
      match readRequest b.SLAVE_ID rawCmd with
      | some r => execute b w r
      | none => [] := by
  unfold processCommand readRequest
  cases hcmd : (cstr rawCmd).dropWhile isspace with
  | nil => simp
  | cons s r =>
    by_cases hs : s = 'S'
    · subst hs
      have hchr : strchr ('S' :: r) ':' = strchr r ':' := by simp [strchr]
      simp only [hchr, reduceCtorEq, ↓reduceIte, List.head?_cons, ne_eq, not_true_eq_false,
        List.drop_succ_cons, List.drop_zero]
      cases hcolon : strchr r ':' with
      | nil => simp
      | cons c realCmd =>
        by_cases hid : atoi r = b.SLAVE_ID
        · by_cases hping : realCmd = "PING".toList
          · simp [hid, hping, execute]
          · simp only [hid, not_true_eq_false, reduceCtorEq, ↓reduceIte, List.drop_succ_cons,
              List.drop_zero, if_neg hping]
            match realCmd with
            | [] => rfl
            | [a] => rfl
            | a :: d :: n =>
              have hlen : ¬ (a :: d :: n).length < 2 := by simp
              simp only [if_neg hlen, List.head?_cons, Option.some.injEq, List.drop_succ_cons,
                List.drop_zero, execute]
        · simp [hid]
    · simp [hs]

/-! ## Which locks a request drives -/

/-- Lock `k` is energised by `es`. -/
def Energises (b : Board) (es : List Effect) (k : Nat) : Prop :=
  ∃ pin, b.LOCK_PINS[k]? = some pin ∧ .digitalWrite pin RELAY_ON ∈ es

theorem lockPin_eq {b : Board} {slot : Int} (h0 : 0 ≤ slot) (h1 : slot < b.NUM_SLOTS) :
    b.LOCK_PINS[slot.toNat]? = some (b.lockPin slot) := by
  have hlt : slot.toNat < b.LOCK_PINS.length := by unfold Board.NUM_SLOTS at h1; omega
  rw [Board.lockPin, List.getD_eq_getElem?_getD, List.getElem?_eq_getElem hlt]
  rfl

/-- A transmission drives no lock. -/
theorem sendResponse_no_lock (b : Board) (slot gpio : Int) (result : List Char) (ms : Int)
    (closed : Bool) (error : List Char) {pin : Int} (hpin : pin ∈ b.LOCK_PINS) :
    .digitalWrite pin RELAY_ON ∉ sendResponse b slot gpio result ms closed error := by
  have hne : pin ≠ SSerialTxControl := by rintro rfl; exact b.tx_not_lock hpin
  simp [sendResponse, hne]

theorem mem_pulse {pin lockPin : Int} {rest : List Effect}
    (hrest : .digitalWrite pin RELAY_ON ∉ rest) :
    .digitalWrite pin RELAY_ON ∈
      [.digitalWrite lockPin RELAY_ON, .delay 1000, .digitalWrite lockPin RELAY_OFF,
        .delay 2000] ++ rest ↔ pin = lockPin := by
  have hoff : RELAY_ON ≠ RELAY_OFF := by decide
  simp only [List.mem_append, List.mem_cons, Effect.digitalWrite.injEq, reduceCtorEq, and_true,
    hoff, and_false, List.not_mem_nil, or_false, hrest]

theorem mem_release {pin lockPin : Int} {rest : List Effect}
    (hrest : .digitalWrite pin RELAY_ON ∉ rest) :
    .digitalWrite pin RELAY_ON ∉
      [.digitalWrite lockPin RELAY_OFF, .delay 1000] ++ rest := by
  have hoff : RELAY_ON ≠ RELAY_OFF := by decide
  simp only [List.mem_append, List.mem_cons, Effect.digitalWrite.injEq, reduceCtorEq,
    hoff, and_false, List.not_mem_nil, or_false, hrest, not_false_eq_true]

/-- The pins a slot action in range energises. -/
theorem mem_slotAction {b : Board} (w : Readings) {action : Char} {slot pin : Int}
    (h : ¬ (slot < 0 ∨ slot ≥ b.NUM_SLOTS)) (hpin : pin ∈ b.LOCK_PINS) :
    .digitalWrite pin RELAY_ON ∈ execute b w (.slotAction action slot) ↔
      (action = 'T' ∨ action = 'O') ∧ pin = b.lockPin slot := by
  have hnot := fun g res ms c e => sendResponse_no_lock b slot g res ms c e hpin
  simp only [execute, if_neg h]
  by_cases hT : action = 'T'
  · rw [if_pos hT, testSlot, mem_pulse (hnot _ _ _ _ _)]
    simp [hT]
  · rw [if_neg hT]
    by_cases hO : action = 'O'
    · rw [if_pos hO, openSlot, mem_pulse (hnot _ _ _ _ _)]
      simp [hO]
    · rw [if_neg hO]
      by_cases hC : action = 'C'
      · rw [if_pos hC, closeSlot]
        exact ⟨fun hm => absurd hm (mem_release (hnot _ _ _ _ _)), by simp [hT, hO]⟩
      · simp [hT, hO, hC]

/-- **The only requests that energise a lock are an open or a test of that slot.** -/
theorem execute_pulses (b : Board) (w : Readings) (r : Request) (k : Nat) :
    Energises b (execute b w r) k ↔
      ∃ a, r = .slotAction a k ∧ (a = 'T' ∨ a = 'O') ∧ (k : Int) < b.NUM_SLOTS := by
  constructor
  · rintro ⟨pin, hpin, hmem⟩
    have hpin' : pin ∈ b.LOCK_PINS := List.mem_of_getElem? hpin
    cases r with
    | ping => exact absurd hmem (sendResponse_no_lock b _ _ _ _ _ _ hpin')
    | slotAction a slot =>
      by_cases hrange : slot < 0 ∨ slot ≥ b.NUM_SLOTS
      · simp only [execute, if_pos hrange, sendError] at hmem
        exact absurd hmem (sendResponse_no_lock b _ _ _ _ _ _ hpin')
      · obtain ⟨ha, rfl⟩ := (mem_slotAction w hrange hpin').mp hmem
        have hslot : 0 ≤ slot ∧ slot < b.NUM_SLOTS := by omega
        -- the pins are distinct, so the driven pin is at one index only
        have hlt : k < b.LOCK_PINS.length := (List.getElem?_eq_some_iff.mp hpin).1
        have hinj := (List.getElem?_inj hlt b.lock_nodup).mp
          (hpin.trans (lockPin_eq hslot.1 hslot.2).symm)
        have hk : slot = (k : Int) := by omega
        exact ⟨a, by rw [hk], ha, by rw [← hk]; exact hslot.2⟩
  · rintro ⟨a, rfl, ha, hk⟩
    have hrange : ¬ ((k : Int) < 0 ∨ (k : Int) ≥ b.NUM_SLOTS) := by omega
    have hlock := lockPin_eq (by omega) hk
    exact ⟨b.lockPin k, hlock,
      (mem_slotAction w hrange (List.mem_of_getElem? hlock)).mpr ⟨ha, rfl⟩⟩

end SmartLocker.Firmware
