import SmartLocker.Lib.JsonText

/-!
# Writing JSON text

`dump` is `json.dumps` for any layout that Python prints: with `ensure_ascii` or without, in one line or
indented.  `loads_dump` says that what is written is read back as it was, for values that are `Clean`:
the keys of a dict are distinct, a string reads back (`Reads`), and so does a float (`Prints`).

`loads_clean` says that everything that was read from a text is clean, so a value can be read, written
and read again any number of times.
-/

set_option autoImplicit false

namespace Lib.Python

open Lib.Decimal

/-! ## Escapes -/

/-- `'{0:04x}'.format(n)`, for `n` below `0x10000`. -/
def hex4 (n : Nat) : List Char :=
  [(n / 4096).digitChar, (n / 256 % 16).digitChar, (n / 16 % 16).digitChar, (n % 16).digitChar]

def unicodeEscape (n : Nat) : List Char := '\\' :: 'u' :: hex4 n

/-- The escapes of one letter. -/
def shortEscape (c : Char) : Option (List Char) :=
  if c = '\x22' then some ['\\', '\x22']
  else if c = '\\' then some ['\\', '\\']
  else if c = '\n' then some ['\\', 'n']
  else if c = '\r' then some ['\\', 'r']
  else if c = '\t' then some ['\\', 't']
  else if c = '\x0c' then some ['\\', 'f']
  else if c = '\x08' then some ['\\', 'b']
  else none

/-- `py_encode_basestring_ascii` of one character: what is not printable ASCII is escaped by its code
units. -/
def escapeAscii : PyChar → List Char
  | .surrogate n => unicodeEscape (0xD800 + n)
  | .uni c =>
    match shortEscape c with
    | some l => l
    | none =>
      if 0x20 ≤ c.toNat ∧ c.toNat ≤ 0x7E then [c]
      else if c.toNat < 0x10000 then unicodeEscape c.toNat
      else
        unicodeEscape (0xD800 + (c.toNat - 0x10000) / 1024) ++
          unicodeEscape (0xDC00 + (c.toNat - 0x10000) % 1024)

/-- `py_encode_basestring` of one character: control characters only.  A lone surrogate stands for
itself there, and has no place in a text that can be encoded. -/
def escapeRaw : PyChar → List Char
  | .surrogate _ => []
  | .uni c =>
    match shortEscape c with
    | some l => l
    | none => if c.toNat < 0x20 then unicodeEscape c.toNat else [c]

/-! ## Layouts -/

/-- How a text is laid out: the escapes, and `indent`. -/
structure Layout where
  escape : PyChar → List Char
  indent : Option Nat

/-- `json.dumps(v)`. -/
def Layout.wire : Layout := ⟨escapeAscii, none⟩

/-- `json.dump(v, f, indent=2, ensure_ascii=False)`. -/
def Layout.file : Layout := ⟨escapeRaw, some 2⟩

/-- A line end with the indent of a depth, when there is one. -/
def Layout.newline (ly : Layout) (depth : Nat) : List Char :=
  match ly.indent with
  | none => []
  | some k => '\n' :: List.replicate (k * depth) ' '

/-- What follows the comma between two items. -/
def Layout.gap (ly : Layout) (depth : Nat) : List Char :=
  match ly.indent with
  | none => [' ']
  | some _ => ly.newline depth

def dumpStr (ly : Layout) (s : PyStr) : List Char := '\x22' :: s.flatMap ly.escape ++ ['\x22']

/-- `float.__repr__`, with the names of JSON for what has no literal. -/
def dumpFloat (x : PyFloat) : List Char :=
  match x.val with
  | .nan => "NaN".toList
  | .posInf => "Infinity".toList
  | .negInf => "-Infinity".toList
  | .fin _ => x.text

mutual

def dump (ly : Layout) (depth : Nat) : Json → List Char
  | .null => "null".toList
  | .bool true => "true".toList
  | .bool false => "false".toList
  | .int n => text n
  | .float x => dumpFloat x
  | .str s => dumpStr ly s
  | .arr [] => ['[', ']']
  | .arr (x :: xs) =>
    '[' :: ly.newline (depth + 1) ++ dumpItems ly (depth + 1) (x :: xs) ++ ly.newline depth ++ [']']
  | .obj [] => ['\x7b', '\x7d']
  | .obj (e :: kvs) =>
    '\x7b' :: ly.newline (depth + 1) ++ dumpEntries ly (depth + 1) (e :: kvs) ++ ly.newline depth ++
      ['\x7d']

def dumpItems (ly : Layout) (depth : Nat) : List Json → List Char
  | [] => []
  | [x] => dump ly depth x
  | x :: y :: xs => dump ly depth x ++ ',' :: ly.gap depth ++ dumpItems ly depth (y :: xs)

def dumpEntries (ly : Layout) (depth : Nat) : List (PyStr × Json) → List Char
  | [] => []
  | [(k, v)] => dumpStr ly k ++ ':' :: ' ' :: dump ly depth v
  | (k, v) :: e :: kvs =>
    dumpStr ly k ++ ':' :: ' ' :: dump ly depth v ++ ',' :: ly.gap depth ++
      dumpEntries ly depth (e :: kvs)

end

/-- `json.dumps(v)`. -/
def dumps (v : Json) : List Char := dump .wire 0 v

/-! ## Strings -/

theorem char_range (c : Char) : c.toNat < 0xD800 ∨ 0xE000 ≤ c.toNat ∧ c.toNat < 0x110000 := by
  have hvalid : c.toNat < 0xD800 ∨ 0xDFFF < c.toNat ∧ c.toNat < 0x110000 := c.valid
  omega

/-- What `scanString` makes of an escaped character: its code units. -/
def units : PyChar → PyStr
  | .surrogate n => [.surrogate n]
  | .uni c =>
    if h : 0x10000 ≤ c.toNat then
      [.surrogate ⟨(c.toNat - 0x10000) / 1024, by have := char_range c; omega⟩,
        .surrogate ⟨1024 + (c.toNat - 0x10000) % 1024, by omega⟩]
    else [.uni c]

/-- No high surrogate stands in front of a low one: they would be one character. -/
def Joined (s : PyStr) : Prop := joinSurrogates s = s

theorem hexDigit_digitChar : ∀ d, d < 16 → hexDigit? d.digitChar = some d := by decide

theorem codeUnit_hex4 {n : Nat} (h : n < 0x10000) :
    codeUnit (n / 4096).digitChar (n / 256 % 16).digitChar (n / 16 % 16).digitChar (n % 16).digitChar =
      if h : 0xD800 ≤ n ∧ n < 0xE000 then some (.surrogate ⟨n - 0xD800, by omega⟩)
      else some (.uni (Char.ofNat n)) := by
  have hsum : 4096 * (n / 4096) + 256 * (n / 256 % 16) + 16 * (n / 16 % 16) + n % 16 = n := by omega
  unfold codeUnit
  simp only [hexDigit_digitChar _ (show n / 4096 < 16 by omega),
    hexDigit_digitChar _ (Nat.mod_lt _ (by decide : 0 < 16)), Option.bind_eq_bind, Option.bind_some,
    hsum]

theorem scanString_unicode {n : Nat} {u : PyChar}
    (h : codeUnit (n / 4096).digitChar (n / 256 % 16).digitChar (n / 16 % 16).digitChar
      (n % 16).digitChar = some u) (s : List Char) :
    scanString (unicodeEscape n ++ s) = (scanString s).map (fun r => (u :: r.1, r.2)) := by
  rw [unicodeEscape, hex4, List.cons_append, List.cons_append]
  simp only [List.cons_append, List.nil_append]
  rw [scanString.eq_def]
  simp only [show ('\\' : Char) ≠ '\x22' by decide, ↓reduceIte, h, Option.bind_eq_bind,
    Option.bind_some]
  cases scanString s <;> rfl

theorem scanString_surrogate (n : Fin 2048) (s : List Char) :
    scanString (unicodeEscape (0xD800 + n) ++ s) =
      (scanString s).map (fun r => (.surrogate n :: r.1, r.2)) := by
  refine scanString_unicode ?_ s
  rw [codeUnit_hex4 (by omega), dif_pos (by omega)]
  have hn : (⟨0xD800 + n.val - 0xD800, by omega⟩ : Fin 2048) = n := Fin.ext (by simp)
  rw [hn]

theorem scanString_char {c : Char} (h : c.toNat < 0x10000) (s : List Char) :
    scanString (unicodeEscape c.toNat ++ s) = (scanString s).map (fun r => (.uni c :: r.1, r.2)) := by
  refine scanString_unicode ?_ s
  have := char_range c
  rw [codeUnit_hex4 h, dif_neg (by omega), Char.ofNat_toNat]

theorem scanString_short {c : Char} {l : List Char} (h : shortEscape c = some l) (s : List Char) :
    scanString (l ++ s) = (scanString s).map (fun r => (.uni c :: r.1, r.2)) := by
  have hletter : ∀ d : Char, d ≠ 'u' → unescape d = some c →
      scanString (['\\', d] ++ s) = (scanString s).map (fun r => (.uni c :: r.1, r.2)) := by
    intro d hu hd
    rw [scanString.eq_def]
    simp only [List.cons_append, List.nil_append, show ('\\' : Char) ≠ '\x22' by decide, ↓reduceIte]
    split
    · rename_i heq
      exact absurd (List.cons.inj heq).1 hu
    · rename_i heq
      obtain ⟨rfl, rfl⟩ := List.cons.inj heq
      rw [hd]
      cases scanString s <;> rfl
    · rename_i heq
      cases heq
  unfold shortEscape at h
  split at h
  · rename_i hc
    cases h
    exact hletter '\x22' (by decide) (by rw [hc]; decide)
  split at h
  · rename_i hc
    cases h
    exact hletter '\\' (by decide) (by rw [hc]; decide)
  split at h
  · rename_i hc
    cases h
    exact hletter 'n' (by decide) (by rw [hc]; decide)
  split at h
  · rename_i hc
    cases h
    exact hletter 'r' (by decide) (by rw [hc]; decide)
  split at h
  · rename_i hc
    cases h
    exact hletter 't' (by decide) (by rw [hc]; decide)
  split at h
  · rename_i hc
    cases h
    exact hletter 'f' (by decide) (by rw [hc]; decide)
  split at h
  · rename_i hc
    cases h
    exact hletter 'b' (by decide) (by rw [hc]; decide)
  · cases h

theorem shortEscape_none {c : Char} (h : shortEscape c = none) : c ≠ '\x22' ∧ c ≠ '\\' := by
  constructor
  · rintro rfl
    cases h
  · rintro rfl
    cases h

/-- A character that stands for itself. -/
theorem scanString_plain {c : Char} (h : shortEscape c = none) (hc : 0x20 ≤ c.toNat) (s : List Char) :
    scanString (c :: s) = (scanString s).map (fun r => (.uni c :: r.1, r.2)) := by
  obtain ⟨hquote, hbackslash⟩ := shortEscape_none h
  rw [scanString.eq_def]
  simp only [if_neg hquote, if_neg (show ¬ c = '\x5c' from hbackslash),
    if_neg (show ¬ c.toNat < 0x20 by omega)]

theorem shortEscape_small {c : Char} {l : List Char} (h : shortEscape c = some l) :
    c.toNat < 0x10000 := by
  unfold shortEscape at h
  have hsmall : ∀ d : Char, c = d → d.toNat < 0x10000 → c.toNat < 0x10000 := fun d hd hlt => hd ▸ hlt
  split at h
  · exact hsmall '\x22' ‹_› (by decide)
  split at h
  · exact hsmall '\\' ‹_› (by decide)
  split at h
  · exact hsmall '\n' ‹_› (by decide)
  split at h
  · exact hsmall '\r' ‹_› (by decide)
  split at h
  · exact hsmall '\t' ‹_› (by decide)
  split at h
  · exact hsmall '\x0c' ‹_› (by decide)
  split at h
  · exact hsmall '\x08' ‹_› (by decide)
  · cases h

theorem units_small {c : Char} (h : c.toNat < 0x10000) : units (.uni c) = [.uni c] :=
  dif_neg (by omega)

/-- An escaped character is read as its code units. -/
theorem scanString_escapeAscii (c : PyChar) (s : List Char) :
    scanString (escapeAscii c ++ s) = (scanString s).map (fun r => (units c ++ r.1, r.2)) := by
  cases c with
  | surrogate n => exact scanString_surrogate n s
  | uni c =>
    unfold escapeAscii
    dsimp only
    cases hshort : shortEscape c with
    | some l =>
      rw [units_small (shortEscape_small hshort)]
      exact scanString_short hshort s
    | none =>
      dsimp only
      split
      · rw [units_small (by omega)]
        exact scanString_plain hshort (by omega) s
      split
      · rename_i hsmall
        rw [units_small hsmall]
        exact scanString_char hsmall s
      · rename_i hbig
        have hrange := char_range c
        have hhigh := scanString_surrogate ⟨(c.toNat - 0x10000) / 1024, by omega⟩
        have hlow := scanString_surrogate ⟨1024 + (c.toNat - 0x10000) % 1024, by omega⟩ s
        have hcode : 0xDC00 + (c.toNat - 0x10000) % 1024 =
          0xD800 + (1024 + (c.toNat - 0x10000) % 1024) := by omega
        rw [List.append_assoc, hcode, hhigh, hlow, units, dif_pos (by omega)]
        cases scanString s <;> rfl

theorem scanString_escapeRaw (c : Char) (s : List Char) :
    scanString (escapeRaw (.uni c) ++ s) = (scanString s).map (fun r => (.uni c :: r.1, r.2)) := by
  unfold escapeRaw
  dsimp only
  cases hshort : shortEscape c with
  | some l => exact scanString_short hshort s
  | none =>
    dsimp only
    split
    · exact scanString_char (by omega) s
    · exact scanString_plain hshort (by omega) s

theorem scanString_end (r : List Char) : scanString ('\x22' :: r) = some ([], r) := by
  rw [scanString.eq_def]
  rfl

/-! ### Surrogates -/

theorem joinOne_cases (c : PyChar) (s : PyStr) :
    joinOne c s = c :: s ∨
      ∃ h l x s', c = .surrogate h ∧ s = .surrogate l :: s' ∧ joinOne c s = .uni x :: s' := by
  unfold joinOne
  split
  · split
    · exact Or.inr ⟨_, _, _, _, rfl, rfl, rfl⟩
    · exact Or.inl rfl
  · exact Or.inl rfl

theorem joinSurrogates_cons (c : PyChar) (s : PyStr) :
    joinSurrogates (c :: s) = joinOne c (joinSurrogates s) := rfl

theorem Joined.tail {c : PyChar} {s : PyStr} (h : Joined (c :: s)) : Joined s := by
  unfold Joined at h ⊢
  rw [joinSurrogates_cons] at h
  rcases joinOne_cases c (joinSurrogates s) with hc | ⟨n, l, x, s', rfl, -, hc⟩
  · exact (List.cons.inj (hc.symm.trans h)).2
  · cases (List.cons.inj (hc.symm.trans h)).1

/-- A joined string stays as it is. -/
theorem joined_joinSurrogates (s : PyStr) : Joined (joinSurrogates s) := by
  induction s with
  | nil => rfl
  | cons c s ih =>
    rw [joinSurrogates_cons]
    rcases joinOne_cases c (joinSurrogates s) with hc | ⟨n, l, x, s', -, hs, hc⟩
    · rw [hc, Joined, joinSurrogates_cons, ih, hc]
    · have htail : Joined s' := (hs ▸ ih : Joined (.surrogate l :: s')).tail
      rw [hc, Joined, joinSurrogates_cons, htail]
      rfl

theorem joinOne_low {l : Fin 2048} (hl : 1024 ≤ l.val) (s : PyStr) :
    joinOne (.surrogate l) s = .surrogate l :: s := by
  cases s with
  | nil => rfl
  | cons d s =>
    cases d with
    | uni d => rfl
    | surrogate n => exact if_neg fun h => by omega

/-- The code units of a character are joined again. -/
theorem foldr_units {c : PyChar} {s : PyStr} (h : Joined (c :: s)) :
    (units c).foldr joinOne s = c :: s := by
  have hs : joinSurrogates s = s := h.tail
  cases c with
  | surrogate n =>
    have hjoin : joinOne (.surrogate n) s = .surrogate n :: s := by
      conv_lhs => rw [← hs]
      exact h
    exact hjoin
  | uni c =>
    by_cases hbig : 0x10000 ≤ c.toNat
    · have hrange := char_range c
      have hsum : 0x10000 + 1024 * ((c.toNat - 0x10000) / 1024) +
          (1024 + (c.toNat - 0x10000) % 1024 - 1024) = c.toNat := by omega
      have hlow : joinOne (.surrogate ⟨1024 + (c.toNat - 0x10000) % 1024, by omega⟩) s =
        .surrogate ⟨1024 + (c.toNat - 0x10000) % 1024, by omega⟩ :: s :=
          joinOne_low (Nat.le_add_right _ _) s
      rw [units, dif_pos hbig, List.foldr_cons, List.foldr_cons, List.foldr_nil, hlow]
      have hhigh : (c.toNat - 0x10000) / 1024 < 1024 := by omega
      refine (if_pos ⟨hhigh, Nat.le_add_right _ _⟩).trans ?_
      simp only [hsum, Char.ofNat_toNat]
    · rw [units, dif_neg hbig]
      rfl

theorem joinSurrogates_units {s : PyStr} (h : Joined s) : joinSurrogates (s.flatMap units) = s := by
  induction s with
  | nil => rfl
  | cons c s ih =>
    have hfold : joinSurrogates (units c ++ s.flatMap units) =
        (units c).foldr joinOne (joinSurrogates (s.flatMap units)) := List.foldr_append
    rw [List.flatMap_cons, hfold, ih h.tail, foldr_units h]

/-! ### Strings that read back -/

/-- The string is read back as it was, whatever follows. -/
def Reads (ly : Layout) (s : PyStr) : Prop :=
  ∀ r, ∃ u, scanString (s.flatMap ly.escape ++ '\x22' :: r) = some (u, r) ∧ joinSurrogates u = s

theorem reads_wire {s : PyStr} (h : Joined s) : Reads .wire s := by
  intro r
  refine ⟨s.flatMap units, ?_, joinSurrogates_units h⟩
  clear h
  induction s with
  | nil => exact scanString_end r
  | cons c s ih =>
    have hescape : Layout.wire.escape c = escapeAscii c := rfl
    rw [List.flatMap_cons, List.append_assoc, hescape, scanString_escapeAscii, ih]
    rfl

theorem reads_file (s : List Char) : Reads .file (ofChars s) := by
  intro r
  refine ⟨ofChars s, ?_, joinSurrogates_ofChars s⟩
  induction s with
  | nil => exact scanString_end r
  | cons c s ih =>
    have hcons : (ofChars (c :: s)).flatMap Layout.file.escape =
        escapeRaw (.uni c) ++ (ofChars s).flatMap Layout.file.escape := rfl
    rw [hcons, List.append_assoc, scanString_escapeRaw, ih]
    rfl

/-! ## Numbers -/

/-- What follows a value does not go on as a number. -/
def Ends (r : List Char) : Prop :=
  ∀ c, r.head? = some c → c.isDigit = false ∧ c ≠ '.' ∧ c ≠ 'e' ∧ c ≠ 'E' ∧ c ≠ '+' ∧ c ≠ '-'

theorem ends_nil : Ends [] := by
  intro c h
  cases h

theorem ends_cons {c : Char} (h : c.isDigit = false ∧ c ≠ '.' ∧ c ≠ 'e' ∧ c ≠ 'E' ∧ c ≠ '+' ∧ c ≠ '-')
    (r : List Char) : Ends (c :: r) := by
  rintro d hd
  cases hd
  exact h

/-- `-?`. -/
def signOf (s : List Char) : List Char := if s.head? = some '-' then ['-'] else []

/-- `(0|[1-9]\d*)`. -/
def wholeOf (s : List Char) : List Char :=
  if s.head? = some '0' then ['0'] else s.takeWhile Char.isDigit

theorem scanInteger_some {s minus ds u : List Char} :
    scanInteger s = some (minus, ds, u) ↔
      minus = signOf s ∧ ds = wholeOf (s.drop (signOf s).length) ∧ ds ≠ [] ∧
        u = (s.drop (signOf s).length).drop ds.length := by
  have hdef : scanInteger s =
      if wholeOf (s.drop (signOf s).length) = [] then none
      else some (signOf s, wholeOf (s.drop (signOf s).length),
        (s.drop (signOf s).length).drop (wholeOf (s.drop (signOf s).length)).length) := rfl
  rw [hdef]
  constructor
  · intro h
    by_cases hnone : wholeOf (s.drop (signOf s).length) = []
    · rw [if_pos hnone] at h
      cases h
    · rw [if_neg hnone] at h
      cases h
      exact ⟨rfl, rfl, hnone, rfl⟩
  · rintro ⟨rfl, rfl, hne, rfl⟩
    rw [if_neg hne]

section

variable {r : List Char} (hr : Ends r)

include hr

theorem Ends.noDigit : NoDigit r := fun c hc => (hr c hc).1

theorem takeWhile_ends (s : List Char) : (s ++ r).takeWhile Char.isDigit = s.takeWhile Char.isDigit := by
  rw [List.takeWhile_append]
  split
  · rename_i hall
    rw [(List.takeWhile_prefix _).eq_of_length hall]
    cases r with
    | nil => simp
    | cons c r => rw [List.takeWhile_cons, if_neg (by simp [(hr c rfl).1]), List.append_nil]
  · rfl

theorem dropWhile_ends (s : List Char) :
    (s ++ r).dropWhile Char.isDigit = s.dropWhile Char.isDigit ++ r := by
  rw [List.dropWhile_append]
  split
  · rename_i hall
    rw [List.isEmpty_iff.mp hall, List.nil_append]
    cases r with
    | nil => rfl
    | cons c r => rw [List.dropWhile_cons, if_neg (by simp [(hr c rfl).1])]
  · rfl

theorem scanFraction_append (s : List Char) :
    scanFraction (s ++ r) = ((scanFraction s).1, (scanFraction s).2 ++ r) := by
  cases s with
  | nil =>
    cases r with
    | nil => rfl
    | cons c r =>
      have hc := (hr c rfl).2.1
      rw [List.nil_append, scanFraction.eq_def, scanFraction.eq_def]
      split
      · rename_i heq
        exact absurd (List.cons.inj heq).1 hc
      · rfl
  | cons c s =>
    by_cases hc : c = '.'
    · subst hc
      simp only [List.cons_append, scanFraction, takeWhile_ends hr, dropWhile_ends hr]
      split <;> rfl
    · have hother : ∀ u, scanFraction (c :: u) = ([], c :: u) := by
        intro u
        rw [scanFraction.eq_def]
        split
        · rename_i heq
          exact absurd (List.cons.inj heq).1 hc
        · rfl
      rw [List.cons_append, hother, hother]
      rfl

theorem scanSign_append (s : List Char) :
    scanSign (s ++ r) = ((scanSign s).1, (scanSign s).2 ++ r) := by
  cases s with
  | nil =>
    cases r with
    | nil => rfl
    | cons c r =>
      obtain ⟨-, -, -, -, hplus, hminus⟩ := hr c rfl
      rw [List.nil_append, scanSign.eq_def, scanSign.eq_def]
      split
      · rename_i heq
        exact absurd (List.cons.inj heq).1 hplus
      · rename_i heq
        exact absurd (List.cons.inj heq).1 hminus
      · rfl
  | cons c s =>
    rw [List.cons_append, scanSign.eq_def, scanSign.eq_def]
    split
    · rename_i heq
      obtain ⟨rfl, rfl⟩ := List.cons.inj heq
      rfl
    · rename_i heq
      obtain ⟨rfl, rfl⟩ := List.cons.inj heq
      rfl
    · rename_i hplus hminus
      split
      · rename_i heq
        exact absurd (List.cons.inj heq).1 fun h => hplus (s ++ r) (by rw [h])
      · rename_i heq
        exact absurd (List.cons.inj heq).1 fun h => hminus (s ++ r) (by rw [h])
      · rfl

theorem scanExponent_append (s : List Char) :
    scanExponent (s ++ r) = ((scanExponent s).1, (scanExponent s).2 ++ r) := by
  cases s with
  | nil =>
    cases r with
    | nil => rfl
    | cons c r =>
      obtain ⟨-, -, he, hE, -, -⟩ := hr c rfl
      simp only [List.nil_append, scanExponent, he, hE, or_self, false_and, ↓reduceIte]
  | cons c s =>
    simp only [List.cons_append, scanExponent, scanSign_append hr, takeWhile_ends hr, dropWhile_ends hr]
    split <;> rfl

theorem scanInteger_append {s minus ds u : List Char} (h : scanInteger s = some (minus, ds, u)) :
    scanInteger (s ++ r) = some (minus, ds, u ++ r) := by
  obtain ⟨rfl, rfl, hne, rfl⟩ := scanInteger_some.mp h
  -- there are digits in `s`, so its sign and its first digit are those of the longer text
  have htail : s.drop (signOf s).length ≠ [] := by
    intro hnil
    rw [hnil] at hne
    exact hne rfl
  have hs : s ≠ [] := by
    rintro rfl
    exact htail (List.drop_nil)
  have hsign : signOf (s ++ r) = signOf s := by
    rw [signOf, List.head?_append_of_ne_nil s hs]
    rfl
  have hlen : (signOf s).length ≤ s.length := by
    have hpos := List.length_pos_iff.mpr hs
    unfold signOf
    split
    · exact hpos
    · exact Nat.zero_le _
  have hdrop : (s ++ r).drop (signOf s).length = s.drop (signOf s).length ++ r :=
    List.drop_append_of_le_length hlen
  generalize s.drop (signOf s).length = t at *
  have hdigits : wholeOf (t ++ r) = wholeOf t := by
    rw [wholeOf, List.head?_append_of_ne_nil t htail, takeWhile_ends hr]
    rfl
  have hdslen : (wholeOf t).length ≤ t.length := by
    unfold wholeOf
    split
    · exact List.length_pos_iff.mpr htail
    · exact (List.takeWhile_prefix _).length_le
  refine scanInteger_some.mpr ⟨hsign.symm, ?_, hne, ?_⟩
  · rw [hsign, hdrop, hdigits]
  · rw [hsign, hdrop, List.drop_append_of_le_length hdslen]

theorem scanNumber_append (pf : List Char → PyFloat) {s u : List Char} {v : Json}
    (h : scanNumber pf s = some (v, u)) : scanNumber pf (s ++ r) = some (v, u ++ r) := by
  unfold scanNumber at h ⊢
  cases hint : scanInteger s with
  | none =>
    rw [hint] at h
    cases h
  | some m =>
    obtain ⟨minus, ds, t⟩ := m
    rw [hint] at h
    rw [scanInteger_append hr hint]
    simp only [Option.bind_eq_bind, Option.bind_some, scanFraction_append hr,
      scanExponent_append hr] at h ⊢
    split at h
    · rename_i hnone
      cases h
      rw [if_pos hnone]
      rfl
    · rename_i hsome
      cases h
      rw [if_neg hsome]
      rfl

end

/-- A number starts with a digit, after at most one minus sign. -/
theorem scanNumber_head {pf : List Char → PyFloat} {s : List Char} {x : Json × List Char}
    (h : scanNumber pf s = some x) :
    ∃ c l, c.isDigit = true ∧ (s = c :: l ∨ s = '-' :: c :: l) := by
  unfold scanNumber at h
  cases hint : scanInteger s with
  | none =>
    rw [hint] at h
    cases h
  | some m =>
    obtain ⟨minus, ds, t⟩ := m
    obtain ⟨-, hds, hne, -⟩ := scanInteger_some.mp hint
    have hdigit : ∃ c l, c.isDigit = true ∧ s.drop (signOf s).length = c :: l := by
      cases htail : s.drop (signOf s).length with
      | nil =>
        rw [htail] at hds
        exact absurd hds hne
      | cons c l =>
        refine ⟨c, l, ?_, rfl⟩
        rw [htail] at hds
        by_contra hc
        rcases eq_or_ne c '0' with rfl | hzero
        · exact hc rfl
        · refine hne (hds.trans ?_)
          rw [wholeOf, if_neg (by simpa using hzero), List.takeWhile_cons, if_neg hc]
    obtain ⟨c, l, hc, htail⟩ := hdigit
    refine ⟨c, l, hc, ?_⟩
    unfold signOf at htail
    split at htail
    · rename_i hminus
      obtain ⟨s', rfl⟩ : ∃ s', s = '-' :: s' := by
        cases s with
        | nil => cases hminus
        | cons d s' => exact ⟨s', by rw [Option.some.inj hminus]⟩
      exact Or.inr (congrArg (List.cons '-') htail)
    · exact Or.inl htail

theorem scanNumber_int (pf : List Char → PyFloat) (n : Int) :
    scanNumber pf (text n) = some (.int n, []) := by
  have hint := scanInteger_text n noDigit_nil
  rw [List.append_nil] at hint
  simp only [scanNumber, hint, Option.bind_eq_bind, Option.bind_some, scanFraction, scanExponent,
    Nat.ofDigitChars_ten_toDigits, and_self, ↓reduceIte]
  by_cases hn : n < 0
  · simp only [hn, ↓reduceIte, reduceCtorEq, pure, Option.some.injEq, Prod.mk.injEq, Json.int.injEq,
      and_true]
    omega
  · simp only [hn, ↓reduceIte, pure, Option.some.injEq, Prod.mk.injEq, Json.int.injEq, and_true]
    omega

end Lib.Python
