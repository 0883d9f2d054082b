import SmartLocker.Lib.Utf8

/-!
# The commands the gateway writes

Model of the text side of `SerialManager`: the f-strings of `test_slot`, `open_slot`, `close_slot`
and `scan_slaves`, and the bytes `_send_and_wait` writes for a command.  The slave id and the slot
come from callers that do not check their type, so they are any value that JSON can hold; an f-string
prints each with `str`.
-/

set_option autoImplicit false

namespace SmartLocker.Gateway

open Lib Lib.Python Lib.Utf8

def MAX_SLOTS : Int := 6

/-- `f"\nS{slave_id}:<letter>{slot_index}\n"`. -/
def slotCommand (U : Unicode) (letter : Char) (slot_index slave_id : Json) : PyStr :=
  py "\nS" ++ slave_id.pyStr U ++ ofChars [':', letter] ++ slot_index.pyStr U ++ py "\n"

def testCommand (U : Unicode) (slot_index slave_id : Json) : PyStr :=
  slotCommand U 'T' slot_index slave_id

def openCommand (U : Unicode) (slot_index slave_id : Json) : PyStr :=
  slotCommand U 'O' slot_index slave_id

def closeCommand (U : Unicode) (slot_index slave_id : Json) : PyStr :=
  slotCommand U 'C' slot_index slave_id

/-- The three slot commands. -/
inductive SlotAction where
  | T
  | O
  | C
  deriving DecidableEq, Repr

def SlotAction.letter : SlotAction → Char
  | .T => 'T'
  | .O => 'O'
  | .C => 'C'

def SlotAction.command (U : Unicode) : SlotAction → Json → Json → PyStr
  | .T => testCommand U
  | .O => openCommand U
  | .C => closeCommand U

/-- `f"S{sid}:PING\n"`. -/
def pingCommand (sid : Int) : PyStr := py "S" ++ ofChars (Decimal.text sid) ++ py ":PING\n"

/-- `full_cmd`: a line end in front empties what the firmware has of an unfinished line. -/
def fullCmd (command : PyStr) : PyStr := py "\n" ++ command

/-- What `_send_and_wait` writes; nothing when `encode` raises. -/
def written (command : PyStr) : Option (List UInt8) := encode (fullCmd command)

/-! ## Commands as values -/

/-- What a caller asks of a slave. -/
inductive Ask where
  | ping
  | slot (action : SlotAction) (k : Int)
  deriving DecidableEq, Repr

structure Command where
  slave : Int
  ask : Ask
  deriving DecidableEq, Repr

/-- The text a method of `SerialManager` hands to `_send_and_wait`. -/
def Command.text (U : Unicode) (c : Command) : PyStr :=
  match c.ask with
  | .ping => pingCommand c.slave
  | .slot action k => action.command U (.int k) (.int c.slave)

def Command.bytes (U : Unicode) (c : Command) : List UInt8 := (written (c.text U)).getD []

/-- The `slot_index` it passes to `_send_and_wait`. -/
def Command.slot (c : Command) : Json :=
  match c.ask with
  | .ping => .int (-1)
  | .slot _ k => .int k

/-- The line of a command. -/
def Command.line (c : Command) : List Char :=
  'S' :: Decimal.text c.slave ++ ':' ::
    match c.ask with
    | .ping => "PING".toList
    | .slot action k => action.letter :: Decimal.text k

/-- The line ends in front of the line. -/
def Command.blanks (c : Command) : List Char :=
  match c.ask with
  | .ping => ['\n']
  | .slot _ _ => ['\n', '\n']

theorem Command.line_plain (c : Command) : ∀ x ∈ c.line, Plain x := by
  unfold Command.line
  refine plain_append (plain_cons (by decide) (text_plain _)) (plain_cons (by decide) ?_)
  cases c.ask with
  | ping => exact (by decide : ∀ x ∈ "PING".toList, Plain x)
  | slot action k => exact plain_cons (by cases action <;> decide) (text_plain k)

theorem Command.chars_ascii (c : Command) : ∀ x ∈ c.blanks ++ c.line ++ ['\n'], Ascii x := by
  have hlf : Ascii '\n' := by decide
  intro x hx
  simp only [List.mem_append, List.mem_singleton] at hx
  rcases hx with (hx | hx) | rfl
  · have hall : ∀ d ∈ c.blanks, d = '\n' := by
      unfold Command.blanks
      cases c.ask <;> simp
    exact hall x hx ▸ hlf
  · exact (c.line_plain x hx).ascii
  · exact hlf

theorem Command.fullCmd_eq (U : Unicode) (c : Command) :
    fullCmd (c.text U) = ofChars (c.blanks ++ c.line ++ ['\n']) := by
  obtain ⟨sid, ask⟩ := c
  cases ask with
  | ping =>
    simp only [Command.text, Command.blanks, Command.line, fullCmd, pingCommand, py,
      ← ofChars_append]
    congr 1
    simp
  | slot action k =>
    have hcmd : (⟨sid, .slot action k⟩ : Command).text U =
        slotCommand U action.letter (.int k) (.int sid) := by cases action <;> rfl
    rw [hcmd]
    simp only [Command.blanks, Command.line, fullCmd, slotCommand, Json.pyStr, Json.repr, py,
      ← ofChars_append]
    congr 1
    simp

theorem Command.written_text (U : Unicode) (c : Command) : written (c.text U) = some (c.bytes U) := by
  rw [Command.bytes, written, Command.fullCmd_eq, encode_ofChars, Option.getD_some]

theorem Command.bytes_eq (U : Unicode) (c : Command) :
    c.bytes U = (c.blanks ++ c.line ++ ['\n']).map Char.toUInt8 := by
  rw [Command.bytes, written, Command.fullCmd_eq, encode_ascii c.chars_ascii, Option.getD_some]

/-- **What a command puts on the wire**: line ends, its line, a line end. -/
theorem Command.bytes_chars (U : Unicode) (c : Command) :
    (c.bytes U).map Char.ofUInt8 = c.blanks ++ c.line ++ ['\n'] := by
  rw [Command.bytes_eq, wire_ascii c.chars_ascii]

end SmartLocker.Gateway
