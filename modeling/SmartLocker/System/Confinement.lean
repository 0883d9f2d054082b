import SmartLocker.Firmware.Receive
import SmartLocker.Gateway.LockerService

/-!
# Whom a command message can reach

The slot of a command message travels from the payload into a line of text on a bus that all slaves
share, and the slave id from a stored cabinet.  Neither handler checks their type.
`command_confinement` says exactly which messages put at most one line on the bus, addressed to the
slave of the cabinet whose topic they were sent to; `confinable_of_not_str` that a slot which is not a
string cannot break out of its line.
-/

set_option autoImplicit false

namespace SmartLocker.System

open Lib Lib.Cut Lib.Python Lib.Utf8 SmartLocker.Firmware SmartLocker.Gateway

/-! ## What is on the bus -/

def lineEndByte (b : UInt8) : Bool := isLineEnd (Char.ofUInt8 b)

/-- The non-empty lines of what effects write, split at line ends. -/
def busLines (es : List ServiceEffect) : List (List UInt8) := words lineEndByte (busWrites es).flatten

/-- A line for the slave id: `S{slave_id}:...`. -/
def Addressed (U : Unicode) (slave_id : Json) (line : List UInt8) : Prop :=
  ∃ a, encode (py "S" ++ slave_id.pyStr U ++ py ":") = some a ∧ a <+: line

/-- At most one line, for the slave of the cabinet `c`. -/
def Confined (U : Unicode) (c : Dict) (es : List ServiceEffect) : Prop :=
  (busLines es).length ≤ 1 ∧ ∀ line ∈ busLines es, Addressed U (slaveIdOf c) line

/-- The name of a cabinet as f-strings print it. -/
def nameOf (U : Unicode) (c : Dict) : PyStr := (getD c "name" .null).pyStr U

/-! ## When a message is confined -/

def lineEnd : PyChar → Bool
  | .uni c => isLineEnd c
  | .surrogate _ => false

/-- The command text is one line, which starts with the address of `own`. -/
structure Confinable (U : Unicode) (letter : Char) (own slave_id slot_index : Json) : Prop where
  slave : ∀ c ∈ slave_id.pyStr U, lineEnd c = false
  rest : ∀ c ∈ (slot_index.pyStr U).dropWhile (fun c => !lineEnd c), lineEnd c = true
  address : own.pyStr U ++ py ":" <+: slave_id.pyStr U ++ ofChars [':', letter] ++
    (slot_index.pyStr U).takeWhile (fun c => !lineEnd c)

/-- The message sends nothing, or one line for the slave of `c`. -/
def Harmless (U : Unicode) (st : CabinetState) (c : Dict) (h : Handled) (d : Dict) : Prop :=
  match st.getCabinetByName (segment (nameOf U c)) with
  | none => True
  | some cab =>
    let slot_index := getD d "slotIndex" .null
    (h.reached (nameOf U c)).takes slot_index = false ∨
      (∃ n, PyChar.surrogate n ∈ (slaveIdOf cab).pyStr U ++ slot_index.pyStr U) ∨
      Confinable U (h.reached (nameOf U c)).action.letter (slaveIdOf c) (slaveIdOf cab) slot_index

/-! ## The lines of a command -/

/-- The text of a command without surrogates. -/
def commandChars (letter : Char) (slave slot : List Char) : List Char :=
  '\n' :: '\n' :: ('S' :: slave ++ ':' :: letter :: (slot ++ ['\n']))

theorem words_commandChars {letter : Char} (hl : isLineEnd letter = false) {slave : List Char}
    (hs : ∀ c ∈ slave, isLineEnd c = false) (slot : List Char) :
    words isLineEnd (commandChars letter slave slot) =
      ('S' :: slave ++ ':' :: letter :: slot.takeWhile (fun c => !isLineEnd c)) ::
        words isLineEnd (slot.dropWhile (fun c => !isLineEnd c) ++ ['\n']) := by
  have hlf : isLineEnd '\n' = true := by decide
  have htail : ∃ e t, slot.dropWhile (fun c => !isLineEnd c) ++ ['\n'] = e :: t ∧
      isLineEnd e = true := by
    cases hd : slot.dropWhile (fun c => !isLineEnd c) with
    | nil => exact ⟨'\n', [], rfl, hlf⟩
    | cons e t =>
      have he := List.head_dropWhile_not (fun c => !isLineEnd c) (by rw [hd]; simp)
      simp only [hd, List.head_cons] at he
      exact ⟨e, t ++ ['\n'], rfl, by simpa using he⟩
  obtain ⟨e, t, het, he⟩ := htail
  have hfree : ∀ c ∈ 'S' :: slave ++ ':' :: letter :: slot.takeWhile (fun c => !isLineEnd c),
      isLineEnd c = false := by
    intro c hc
    simp only [List.cons_append, List.mem_cons, List.mem_append] at hc
    rcases hc with rfl | hc | rfl | rfl | hc
    · decide
    · exact hs c hc
    · decide
    · exact hl
    · simpa using List.mem_takeWhile_imp hc
  have hsplit : 'S' :: slave ++ ':' :: letter :: (slot ++ ['\n']) =
      ('S' :: slave ++ ':' :: letter :: slot.takeWhile (fun c => !isLineEnd c)) ++ e :: t := by
    have hslot : slot ++ ['\n'] = slot.takeWhile (fun c => !isLineEnd c) ++ e :: t := by
      rw [← het, ← List.append_assoc, List.takeWhile_append_dropWhile]
    rw [hslot]
    simp
  rw [commandChars, words_sep hlf, words_sep hlf, hsplit, words_line (by simp) hfree he, het,
    words_sep he]

/-- A line end in the slave id makes a second line. -/
theorem words_commandChars_broken (letter : Char) {slave : List Char}
    (hs : ∃ c ∈ slave, isLineEnd c = true) (slot : List Char) :
    2 ≤ (words isLineEnd (commandChars letter slave slot)).length := by
  have hlf : isLineEnd '\n' = true := by decide
  obtain ⟨c, hc, hend⟩ := hs
  obtain ⟨e, t, het⟩ := List.exists_cons_of_ne_nil
    (show slave.dropWhile (fun c => !isLineEnd c) ≠ [] from fun hnil => by
      have := List.dropWhile_eq_nil_iff.mp hnil c hc
      simp [hend] at this)
  have he : isLineEnd e = true := by
    have hhead := List.head_dropWhile_not (fun c => !isLineEnd c) (l := slave) (by rw [het]; simp)
    simp only [het, List.head_cons] at hhead
    simpa using hhead
  have hfree : ∀ c ∈ 'S' :: slave.takeWhile (fun c => !isLineEnd c), isLineEnd c = false := by
    intro c hc
    rcases List.mem_cons.mp hc with rfl | hc
    · decide
    · simpa using List.mem_takeWhile_imp hc
  have hsplit : 'S' :: slave ++ ':' :: letter :: (slot ++ ['\n']) =
      ('S' :: slave.takeWhile (fun c => !isLineEnd c)) ++
        e :: (t ++ ':' :: letter :: (slot ++ ['\n'])) := by
    have hslave := List.takeWhile_append_dropWhile (p := fun c => !isLineEnd c) (l := slave)
    rw [het] at hslave
    conv_lhs => rw [← hslave]
    simp
  rw [commandChars, words_sep hlf, words_sep hlf, hsplit, words_line (by simp) hfree he]
  have hne : words isLineEnd (t ++ ':' :: letter :: (slot ++ ['\n'])) ≠ [] := by
    rw [Ne, words_eq_nil]
    intro hall
    have := hall ':' (by simp)
    exact absurd this (by decide)
  have := List.length_pos_iff.mpr hne
  simp only [List.length_cons]
  omega

/-! ## From text to bytes -/

theorem lineEnd_ascii {c : Char} (h : isLineEnd c = true) : Ascii c := by
  simp only [isLineEnd, Bool.or_eq_true, beq_iff_eq] at h
  rcases h with rfl | rfl <;> decide

theorem encode_lineEnd (c : Char) (h : isLineEnd c = true) :
    ∃ b, String.utf8EncodeChar c = [b] ∧ lineEndByte b = true := by
  have hascii := lineEnd_ascii h
  refine ⟨c.toUInt8, encodeChar_ascii hascii, ?_⟩
  rw [lineEndByte, ofUInt8_toUInt8 hascii, h]

theorem encode_not_lineEnd (c : Char) (h : isLineEnd c = false) :
    ∀ b ∈ String.utf8EncodeChar c, lineEndByte b = false := by
  intro b hb
  by_cases hascii : Ascii c
  · rw [encodeChar_ascii hascii, List.mem_singleton] at hb
    rw [hb, lineEndByte, ofUInt8_toUInt8 hascii, h]
  · have hhigh := high_of_mem_encodeChar hascii b hb
    rw [← ofUInt8_toNat b] at hhigh
    cases hend : lineEndByte b with
    | false => rfl
    | true =>
      have := lineEnd_ascii hend
      unfold Ascii at this
      omega

/-- The lines of an encoded text are its encoded lines. -/
theorem words_encode (l : List Char) :
    words lineEndByte (l.flatMap String.utf8EncodeChar) =
      (words isLineEnd l).map (fun w => w.flatMap String.utf8EncodeChar) :=
  words_flatMap encode_lineEnd encode_not_lineEnd encodeChar_ne_nil l

theorem ofChars_of_encodable {s : PyStr} (h : ¬ ∃ n, PyChar.surrogate n ∈ s) :
    ∃ l, s = ofChars l := by
  cases he : encode s with
  | none => exact absurd (encode_eq_none.mp he) h
  | some x =>
    obtain ⟨l, hl, -⟩ := encode_eq_some he
    exact ⟨l, hl⟩

theorem ofChars_prefix {a b : List Char} : ofChars a <+: ofChars b ↔ a <+: b := by
  constructor
  · rintro ⟨t, ht⟩
    obtain ⟨x, y, hb, hx, -⟩ := List.map_eq_append_iff.mp ht.symm
    exact hb ▸ ofChars_injective hx ▸ List.prefix_append x y
  · exact fun h => h.map _

/-- What starts a text without surrogates has none. -/
theorem ofChars_of_prefix {s : PyStr} {b : List Char} (h : s <+: ofChars b) : ∃ a, s = ofChars a := by
  obtain ⟨t, ht⟩ := h
  obtain ⟨x, y, -, hx, -⟩ := List.map_eq_append_iff.mp ht.symm
  exact ⟨x, hx.symm⟩

/-- An addressed line, as text. -/
theorem addressed_iff (U : Unicode) (own : Json) (line : List Char) :
    Addressed U own (('S' :: line).flatMap String.utf8EncodeChar) ↔
      own.pyStr U ++ py ":" <+: ofChars line := by
  have hS : ∀ t, py "S" ++ ofChars t ++ py ":" = ofChars ('S' :: (t ++ [':'])) := by
    intro t
    simp [py, ofChars]
  have hcolon : ∀ t, ofChars t ++ py ":" = ofChars (t ++ [':']) := by
    intro t
    simp [py, ofChars]
  constructor
  · rintro ⟨a, ha, hpre⟩
    obtain ⟨t, ht⟩ : ∃ t, own.pyStr U = ofChars t := by
      refine ofChars_of_encodable ?_
      rintro ⟨n, hn⟩
      rw [encode_eq_none.mpr ⟨n, by simp [hn]⟩] at ha
      cases ha
    rw [ht, hS, encode_ofChars, Option.some.injEq] at ha
    rw [← ha, prefix_flatMap_iff, List.cons_prefix_cons] at hpre
    rw [ht, hcolon, ofChars_prefix]
    exact hpre.2
  · intro hpre
    obtain ⟨t, ht⟩ := ofChars_of_prefix (List.IsPrefix.trans (List.prefix_append _ _) hpre)
    rw [ht, hcolon, ofChars_prefix] at hpre
    refine ⟨('S' :: (t ++ [':'])).flatMap String.utf8EncodeChar, by rw [ht, hS, encode_ofChars], ?_⟩
    rw [prefix_flatMap_iff, List.cons_prefix_cons]
    exact ⟨rfl, hpre⟩

/-! ## One command -/

theorem command_letter (U : Unicode) (a : SlotAction) (slot slave : Json) :
    a.command U slot slave = slotCommand U a.letter slot slave := by
  cases a <;> rfl

theorem letter_not_lineEnd (a : SlotAction) : isLineEnd a.letter = false := by
  cases a <;> decide

theorem written_slotCommand (U : Unicode) (letter : Char) {slot slave : Json} {sl so : List Char}
    (hsl : slave.pyStr U = ofChars sl) (hso : slot.pyStr U = ofChars so) :
    written (slotCommand U letter slot slave) =
      some ((commandChars letter sl so).flatMap String.utf8EncodeChar) := by
  rw [written, ← encode_ofChars]
  congr 1
  simp [fullCmd, slotCommand, hsl, hso, py, ofChars, commandChars]

theorem written_eq_none (U : Unicode) (letter : Char) (slot slave : Json) :
    written (slotCommand U letter slot slave) = none ↔
      ∃ n, PyChar.surrogate n ∈ slave.pyStr U ++ slot.pyStr U := by
  rw [written, encode_eq_none]
  simp [fullCmd, slotCommand, py, ofChars]

theorem takeWhile_ofChars (l : List Char) :
    (ofChars l).takeWhile (fun c => !lineEnd c) = ofChars (l.takeWhile (fun c => !isLineEnd c)) :=
  List.takeWhile_map ..

theorem dropWhile_ofChars (l : List Char) :
    (ofChars l).dropWhile (fun c => !lineEnd c) = ofChars (l.dropWhile (fun c => !isLineEnd c)) :=
  List.dropWhile_map ..

/-- **One written command** is one line for the slave of `own` exactly when it is confinable. -/
theorem words_written (U : Unicode) (a : SlotAction) (own slot slave : Json) {sl so : List Char}
    (hsl : slave.pyStr U = ofChars sl) (hso : slot.pyStr U = ofChars so)
    {lines : List (List UInt8)} (hlines : lines =
      words lineEndByte ((commandChars a.letter sl so).flatMap String.utf8EncodeChar)) :
    (lines.length ≤ 1 ∧ ∀ line ∈ lines, Addressed U own line) ↔
      Confinable U a.letter own slave slot := by
  rw [words_encode] at hlines
  by_cases hslave : ∀ c ∈ sl, isLineEnd c = false
  · have hrest : words isLineEnd (so.dropWhile (fun c => !isLineEnd c) ++ ['\n']) = [] ↔
        ∀ c ∈ (slot.pyStr U).dropWhile (fun c => !lineEnd c), lineEnd c = true := by
      rw [words_eq_nil, hso, dropWhile_ofChars]
      simp [ofChars, lineEnd, or_imp, forall_and, isLineEnd]
    have hfirst : 'S' :: sl ++ ':' :: a.letter :: so.takeWhile (fun c => !isLineEnd c) =
        'S' :: (sl ++ [':', a.letter] ++ so.takeWhile (fun c => !isLineEnd c)) := by simp
    have haddress := addressed_iff U own (sl ++ [':', a.letter] ++
      so.takeWhile (fun c => !isLineEnd c))
    rw [words_commandChars (letter_not_lineEnd a) hslave, hfirst] at hlines
    rw [hlines]
    simp only [List.map_cons, List.length_cons, List.length_map, List.forall_mem_cons, haddress]
    constructor
    · rintro ⟨hlen, hone, -⟩
      refine ⟨?_, hrest.mp (List.length_eq_zero_iff.mp (by omega)), ?_⟩
      · rw [hsl]
        simpa [ofChars, lineEnd] using hslave
      · rw [hsl, hso, takeWhile_ofChars, ← ofChars_append, ← ofChars_append]
        exact hone
    · rintro ⟨-, hr, haddr⟩
      rw [hrest.mpr hr]
      refine ⟨by simp, ?_, by simp⟩
      rw [hsl, hso, takeWhile_ofChars, ← ofChars_append, ← ofChars_append] at haddr
      exact haddr
  · have hex : ∃ c ∈ sl, isLineEnd c = true := by simpa using hslave
    have hlen := words_commandChars_broken a.letter hex so
    constructor
    · rintro ⟨hone, -⟩
      rw [hlines, List.length_map] at hone
      omega
    · rintro ⟨hs, -, -⟩
      rw [hsl] at hs
      exact absurd (by simpa [ofChars, lineEnd] using hs) hslave

/-! ## Command messages -/

theorem busLines_one {es : List ServiceEffect} {bs : List UInt8} (h : busWrites es = [bs]) :
    busLines es = words lineEndByte bs := by
  rw [busLines, h, List.flatten_singleton]

theorem confined_nil {U : Unicode} {c : Dict} {es : List ServiceEffect} (h : busWrites es = []) :
    Confined U c es := by
  have hnil : busLines es = [] := by rw [busLines, h]; rfl
  rw [Confined, hnil]
  simp

/-- **Command confinement**: a message on a command topic of a cabinet `c` puts at most one line on
the bus, for the slave of that cabinet, if and only if it is harmless. -/
theorem command_confinement (out : Outside) (st : CabinetState) (reply c : Dict) (h : Handled)
    (d : Dict) :
    Confined out.U c
        (handleIncomingMessage out st reply (h.topic (nameOf out.U c)) (some (.obj d))).effects ↔
      Harmless out.U st c h d := by
  have hwrites := busWrites_message out st reply h (nameOf out.U c) d
  unfold Harmless
  cases hcab : st.getCabinetByName (segment (nameOf out.U c)) with
  | none =>
    rw [hcab] at hwrites
    exact iff_of_true (confined_nil hwrites) trivial
  | some cab =>
    rw [hcab] at hwrites
    dsimp only at hwrites ⊢
    cases htakes : (h.reached (nameOf out.U c)).takes (getD d "slotIndex" .null) with
    | false =>
      rw [htakes] at hwrites
      exact iff_of_true (confined_nil hwrites) (Or.inl rfl)
    | true =>
      rw [htakes, if_pos rfl, command_letter] at hwrites
      have hnone := written_eq_none out.U (h.reached (nameOf out.U c)).action.letter
        (getD d "slotIndex" .null) (slaveIdOf cab)
      by_cases hsur : ∃ n, PyChar.surrogate n ∈
          (slaveIdOf cab).pyStr out.U ++ (getD d "slotIndex" .null).pyStr out.U
      · rw [hnone.mpr hsur] at hwrites
        exact iff_of_true (confined_nil hwrites) (Or.inr (Or.inl hsur))
      · obtain ⟨sl, hsl⟩ := ofChars_of_encodable (s := (slaveIdOf cab).pyStr out.U)
          (fun ⟨n, hn⟩ => hsur ⟨n, List.mem_append_left _ hn⟩)
        obtain ⟨so, hso⟩ := ofChars_of_encodable (s := (getD d "slotIndex" .null).pyStr out.U)
          (fun ⟨n, hn⟩ => hsur ⟨n, List.mem_append_right _ hn⟩)
        rw [written_slotCommand out.U _ hsl hso] at hwrites
        rw [Confined, words_written out.U _ _ _ _ hsl hso (busLines_one hwrites)]
        rw [or_iff_right (by simp), or_iff_right hsur]

/-- Only a string can carry a line end: any other slot, number or nested value, stays in its line. -/
theorem confinable_of_not_str (U : Unicode) (letter : Char) {slave slot : Json}
    (hslave : ∀ s, slave ≠ .str s) (hslot : ∀ s, slot ≠ .str s) :
    Confinable U letter slave slave slot := by
  have hrepr : ∀ v : Json, (∀ s, v ≠ .str s) → ∀ c ∈ v.pyStr U, lineEnd c = false := by
    intro v hv c hc
    have hstr : v.pyStr U = ofChars (v.repr U) := by
      cases v with
      | str s => exact absurd rfl (hv s)
      | _ => rfl
    rw [hstr] at hc
    obtain ⟨d, hd, rfl⟩ := List.mem_map.mp hc
    have hvisible := repr_visible U v d hd
    cases hend : isLineEnd d with
    | false => exact hend
    | true =>
      simp only [isLineEnd, Bool.or_eq_true, beq_iff_eq] at hend
      rcases hend with rfl | rfl <;> exact absurd hvisible (by decide)
  have hdrop : (slot.pyStr U).dropWhile (fun c => !lineEnd c) = [] := by
    rw [List.dropWhile_eq_nil_iff]
    intro c hc
    simp [hrepr slot hslot c hc]
  refine ⟨hrepr slave hslave, by rw [hdrop]; simp, ?_⟩
  exact ⟨ofChars [letter] ++ (slot.pyStr U).takeWhile (fun c => !lineEnd c), by simp [py, ofChars]⟩

/-! ## A run -/

/-- A client that accepts every topic. -/
def sampleOutside : Outside where
  U := .ascii
  publish := fun _ => .ok ()
  lower := id
  MAC_ADDRESS := py "AA:BB:CC:DD:EE:FF"
  now := fun _ => py "2025-01-01T00:00:00+00:00"

/-- Cabinet `A` on slave 2. -/
def cabinetA : Dict :=
  cabinetData (.lit "loc") ⟨.lit "id-a", .lit "A", .int 1, .int 3, .int 2, .int 60, .bool true⟩

def stateA : CabinetState :=
  (CabinetState.empty.saveLocation (.lit "loc") (.lit "Hall") (.lit "")).store (.str (py "id-a"))
    cabinetA (by decide)

/-- **A slot may smuggle a second command**: `"0\nS3:O1"`, sent to cabinet `A` on slave 2, also
opens lock 1 of slave 3. -/
theorem slot_smuggles_command :
    cabinetA ∈ stateA.allCabinets ∧
      busLines (handleIncomingMessage sampleOutside stateA [] (Handled.openLocker.topic (py "A"))
        (some (.obj [(py "slotIndex", .lit "0\nS3:O1")]))).effects =
        ["S2:O0".toUTF8.toList, "S3:O1".toUTF8.toList] ∧
      ¬ Confined Unicode.ascii cabinetA
        (handleIncomingMessage sampleOutside stateA [] (Handled.openLocker.topic (py "A"))
          (some (.obj [(py "slotIndex", .lit "0\nS3:O1")]))).effects := by
  have hlines : busLines (handleIncomingMessage sampleOutside stateA []
      (Handled.openLocker.topic (py "A"))
      (some (.obj [(py "slotIndex", .lit "0\nS3:O1")]))).effects =
      ["S2:O0".toUTF8.toList, "S3:O1".toUTF8.toList] := by decide +kernel
  refine ⟨List.mem_cons_self, hlines, fun hconf => ?_⟩
  have hlen := hconf.1
  rw [hlines] at hlen
  exact absurd hlen (by decide)

end SmartLocker.System
