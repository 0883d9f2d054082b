import SmartLocker.Lib.Python
import SmartLocker.Lib.OrdMap

/-!
# Reading JSON text

`loads` is `json.loads` on a text without surrogates: white space, literals (with `NaN` and the
infinities), numbers, strings with their escapes (a high and a low surrogate escape join to one
character), arrays, and objects (a later entry overrides an earlier one of its key).  How a float
literal becomes a float is a parameter.

`objectText` prints a flat object of numbers, booleans and unescaped strings; `loads_objectText` says
that such a text is read back to exactly these entries.
-/

set_option autoImplicit false

namespace Lib.Python

open Lib.Decimal

/-! ## Strings -/

def isWhitespace (c : Char) : Bool := c == ' ' || c == '\t' || c == '\n' || c == '\r'

def skipWs (s : List Char) : List Char := s.dropWhile isWhitespace

def hexDigit? (c : Char) : Option Nat :=
  if c.isDigit then some (c.toNat - '0'.toNat)
  else if 'a' ≤ c ∧ c ≤ 'f' then some (c.toNat - 'a'.toNat + 10)
  else if 'A' ≤ c ∧ c ≤ 'F' then some (c.toNat - 'A'.toNat + 10)
  else none

/-- The code unit of `\uXXXX`. -/
def codeUnit (a b c d : Char) : Option PyChar := do
  let n := 4096 * (← hexDigit? a) + 256 * (← hexDigit? b) + 16 * (← hexDigit? c) + (← hexDigit? d)
  if h : 0xD800 ≤ n ∧ n < 0xE000 then some (.surrogate ⟨n - 0xD800, by omega⟩)
  else some (.uni (Char.ofNat n))

/-- The other escapes. -/
def unescape (c : Char) : Option Char :=
  if c = '\x22' ∨ c = '\x5c' ∨ c = '/' then some c
  else if c = 'b' then some '\x08'
  else if c = 'f' then some '\x0c'
  else if c = 'n' then some '\n'
  else if c = 'r' then some '\r'
  else if c = 't' then some '\t'
  else none

/-- The characters of a string up to its closing quote, and the text after it. -/
def scanString : List Char → Option (PyStr × List Char)
  | [] => none
  | c :: s =>
    if c = '\x22' then some ([], s)
    else if c = '\x5c' then
      match s with
      | 'u' :: a :: b :: d :: e :: s' => do
        let u ← codeUnit a b d e
        let r ← scanString s'
        return (u :: r.1, r.2)
      | e :: s' => do
        let u ← unescape e
        let r ← scanString s'
        return (.uni u :: r.1, r.2)
      | [] => none
    else if c.toNat < 0x20 then none
    else (scanString s).map (fun r => (.uni c :: r.1, r.2))

/-- A high surrogate in front of a low one is one character with it. -/
def joinOne (c : PyChar) (s : PyStr) : PyStr :=
  match c, s with
  | .surrogate h, .surrogate l :: s' =>
    if h.val < 1024 ∧ 1024 ≤ l.val then
      .uni (Char.ofNat (0x10000 + 1024 * h.val + (l.val - 1024))) :: s'
    else c :: s
  | _, _ => c :: s

def joinSurrogates (s : PyStr) : PyStr := s.foldr joinOne []

/-! ## Numbers -/

/-- `(\.\d+)?`. -/
def scanFraction : List Char → List Char × List Char
  | '.' :: s =>
    if s.takeWhile Char.isDigit = [] then ([], '.' :: s)
    else ('.' :: s.takeWhile Char.isDigit, s.dropWhile Char.isDigit)
  | s => ([], s)

def scanSign : List Char → List Char × List Char
  | '+' :: s => (['+'], s)
  | '-' :: s => (['-'], s)
  | s => ([], s)

/-- `([eE][-+]?\d+)?`. -/
def scanExponent : List Char → List Char × List Char
  | [] => ([], [])
  | c :: s =>
    let r := (scanSign s).2
    if (c = 'e' ∨ c = 'E') ∧ r.takeWhile Char.isDigit ≠ [] then
      (c :: (scanSign s).1 ++ r.takeWhile Char.isDigit, r.dropWhile Char.isDigit)
    else ([], c :: s)

/-- `-?(0|[1-9]\d*)`: the sign, the digits, and the text after them. -/
def scanInteger (s : List Char) : Option (List Char × List Char × List Char) :=
  let minus := if s.head? = some '-' then ['-'] else []
  let u := s.drop minus.length
  let ds := if u.head? = some '0' then ['0'] else u.takeWhile Char.isDigit
  if ds = [] then none else some (minus, ds, u.drop ds.length)

variable (parse_float : List Char → PyFloat)

def scanNumber (s : List Char) : Option (Json × List Char) := do
  let (minus, ds, r) ← scanInteger s
  let f := scanFraction r
  let e := scanExponent f.2
  if f.1 = [] ∧ e.1 = [] then
    let n : Int := Nat.ofDigitChars 10 ds 0
    return (.int (if minus = [] then n else -n), r)
  else return (.float (parse_float (minus ++ ds ++ f.1 ++ e.1)), e.2)

def PyFloat.nan : PyFloat := ⟨.nan, "nan".toList, by decide⟩
def PyFloat.inf : PyFloat := ⟨.posInf, "inf".toList, by decide⟩
def PyFloat.negInf : PyFloat := ⟨.negInf, "-inf".toList, by decide⟩

/-- A `parse_float` for texts without floats. -/
def noFloat : List Char → PyFloat := fun _ => PyFloat.nan

/-- The text after `w`, if `s` starts with it. -/
def after (w : String) (s : List Char) : Option (List Char) := w.toList.isPrefixOf? s

def scanLiteral (s : List Char) : Option (Json × List Char) :=
  ((after "null" s).map (fun r => (.null, r))).or <|
  ((after "true" s).map (fun r => (.bool true, r))).or <|
  ((after "false" s).map (fun r => (.bool false, r))).or <|
  ((after "NaN" s).map (fun r => (.float PyFloat.nan, r))).or <|
  ((after "Infinity" s).map (fun r => (.float PyFloat.inf, r))).or <|
  (after "-Infinity" s).map (fun r => (.float PyFloat.negInf, r))

/-! ## Values -/

mutual

/-- One value at the start of a text.  Every call takes at least one character, so fuel for the
length of the text is enough. -/
def scanValue : Nat → List Char → Option (Json × List Char)
  | 0, _ => none
  | n + 1, s =>
    match s with
    | '\x22' :: s' => (scanString s').map (fun r => (.str (joinSurrogates r.1), r.2))
    | '\x7b' :: s' =>
      if (skipWs s').head? = some '\x7d' then some (.obj [], (skipWs s').tail)
      else (scanMembers n (skipWs s')).map (fun r => (.obj (OrdMap.ofPairs r.1), r.2))
    | '[' :: s' =>
      if (skipWs s').head? = some ']' then some (.arr [], (skipWs s').tail)
      else (scanItems n (skipWs s')).map (fun r => (.arr r.1, r.2))
    | s => (scanLiteral s).or (scanNumber parse_float s)

def scanMembers : Nat → List Char → Option (List (PyStr × Json) × List Char)
  | 0, _ => none
  | n + 1, s =>
    match s with
    | '\x22' :: s' => do
      let k ← scanString s'
      match skipWs k.2 with
      | ':' :: s'' => do
        let v ← scanValue n (skipWs s'')
        match skipWs v.2 with
        | '\x7d' :: r => some ([(joinSurrogates k.1, v.1)], r)
        | ',' :: r => do
          let es ← scanMembers n (skipWs r)
          some ((joinSurrogates k.1, v.1) :: es.1, es.2)
        | _ => none
      | _ => none
    | _ => none

def scanItems : Nat → List Char → Option (List Json × List Char)
  | 0, _ => none
  | n + 1, s => do
    let v ← scanValue n s
    match skipWs v.2 with
    | ']' :: r => some ([v.1], r)
    | ',' :: r => do
      let es ← scanItems n (skipWs r)
      some (v.1 :: es.1, es.2)
    | _ => none

end

/-- `json.loads(s)`, `none` for `JSONDecodeError`; without the limits of the interpreter on the digits
of an integer and on nesting. -/
def loads (s : List Char) : Option Json :=
  match scanValue parse_float (s.length + 1) (skipWs s) with
  | some (v, r) => if skipWs r = [] then some v else none
  | none => none

/-! ## Printing flat objects -/

/-- A value printed without escapes and without spaces. -/
inductive Field where
  | int (n : Int)
  | bool (b : Bool)
  | str (s : List Char)

def Field.text : Field → List Char
  | .int n => Decimal.text n
  | .bool true => "true".toList
  | .bool false => "false".toList
  | .str s => '\x22' :: s ++ ['\x22']

def Field.json : Field → Json
  | .int n => .int n
  | .bool b => .bool b
  | .str s => .str (ofChars s)

/-- A string with these characters needs no escape. -/
def Unescaped (c : Char) : Prop := c ≠ '\x22' ∧ c ≠ '\x5c' ∧ 0x20 ≤ c.toNat

instance (c : Char) : Decidable (Unescaped c) := inferInstanceAs (Decidable (_ ∧ _))

def Field.Ok : Field → Prop
  | .str s => ∀ c ∈ s, Unescaped c
  | _ => True

def memberText (e : String × Field) : List Char :=
  '\x22' :: e.1.toList ++ '\x22' :: ':' :: e.2.text

def membersText : List (String × Field) → List Char
  | [] => []
  | [e] => memberText e
  | e :: f :: es => memberText e ++ ',' :: membersText (f :: es)

def objectText (es : List (String × Field)) : List Char := '\x7b' :: membersText es ++ ['\x7d']

def entry (e : String × Field) : PyStr × Json := (py e.1, e.2.json)

/-! ## Reading them back -/

/-- What follows a value in a flat object. -/
def Stops (r : List Char) : Prop := r.head? = some ',' ∨ r.head? = some '\x7d'

theorem Stops.head {r : List Char} (h : Stops r) {c : Char} (hc : r.head? = some c) :
    c = ',' ∨ c = '\x7d' := by
  rcases h with h | h
  · rw [h] at hc; exact Or.inl (Option.some.inj hc).symm
  · rw [h] at hc; exact Or.inr (Option.some.inj hc).symm

theorem Stops.noDigit {r : List Char} (h : Stops r) : NoDigit r := by
  intro c hc
  rcases h.head hc with rfl | rfl <;> decide

theorem skipWs_cons {c : Char} (h : isWhitespace c = false) (s : List Char) :
    skipWs (c :: s) = c :: s := by
  simp [skipWs, h]

theorem Stops.skipWs {r : List Char} (h : Stops r) : skipWs r = r := by
  cases r with
  | nil => rfl
  | cons c r => exact skipWs_cons (by rcases h.head rfl with rfl | rfl <;> decide) r

theorem scanString_unescaped {s : List Char} (h : ∀ c ∈ s, Unescaped c) (r : List Char) :
    scanString (s ++ '\x22' :: r) = some (ofChars s, r) := by
  induction s with
  | nil =>
    rw [List.nil_append, scanString.eq_def]
    rfl
  | cons c s ih =>
    obtain ⟨hq, hb, hv⟩ := h c (by simp)
    have hlt : ¬ c.toNat < 0x20 := by omega
    rw [List.cons_append, scanString.eq_def]
    simp only [if_neg hq, if_neg hb, if_neg hlt, ih (fun d hd => h d (by simp [hd]))]
    rfl

theorem joinSurrogates_ofChars (s : List Char) : joinSurrogates (ofChars s) = ofChars s := by
  induction s with
  | nil => rfl
  | cons c s ih =>
    have hcons : joinSurrogates (ofChars (c :: s)) =
        joinOne (.uni c) (joinSurrogates (ofChars s)) := rfl
    rw [hcons, ih]
    rfl

theorem scanFraction_stops {r : List Char} (h : Stops r) : scanFraction r = ([], r) := by
  cases r with
  | nil => rfl
  | cons c r => rcases h.head rfl with rfl | rfl <;> rfl

theorem scanExponent_stops {r : List Char} (h : Stops r) : scanExponent r = ([], r) := by
  cases r with
  | nil => rfl
  | cons c r => rcases h.head rfl with rfl | rfl <;> rfl

/-- The digits of a numeral are all taken. -/
theorem integer_digits (n : Nat) {r : List Char} (hr : NoDigit r) :
    (if (Nat.toDigits 10 n ++ r).head? = some '0' then ['0']
      else (Nat.toDigits 10 n ++ r).takeWhile Char.isDigit) = Nat.toDigits 10 n := by
  have hhead : (Nat.toDigits 10 n ++ r).head? = (Nat.toDigits 10 n).head? := by
    cases hd : Nat.toDigits 10 n with
    | nil => exact absurd hd Nat.toDigits_ne_nil
    | cons c l => rfl
  rw [hhead]
  split
  · rename_i h
    exact (toDigits_zero_head h).symm
  · exact takeWhile_append_noDigit (fun _ => isDigit_of_mem) hr

theorem scanInteger_text (n : Int) {r : List Char} (hr : NoDigit r) :
    scanInteger (text n ++ r) =
      some (if n < 0 then ['-'] else [], Nat.toDigits 10 n.natAbs, r) := by
  have hne : Nat.toDigits 10 n.natAbs ≠ [] := Nat.toDigits_ne_nil
  by_cases hn : n < 0
  · have hds := integer_digits n.natAbs hr
    rw [text_neg hn]
    simp only [scanInteger, List.cons_append, List.head?_cons, ↓reduceIte, List.length_singleton,
      List.drop_succ_cons, List.drop_zero, hds, if_neg hne, if_pos hn, List.drop_left]
  · have hds := integer_digits n.natAbs hr
    have hminus : (Nat.toDigits 10 n.natAbs ++ r).head? ≠ some '-' := by
      cases hd : Nat.toDigits 10 n.natAbs with
      | nil => exact absurd hd hne
      | cons c l =>
        have hc : c.isDigit = true := isDigit_of_mem (n := n.natAbs) (by rw [hd]; simp)
        simp only [List.cons_append, List.head?_cons, ne_eq, Option.some.injEq]
        rintro rfl
        cases hc
    rw [text_nonneg (by omega)]
    simp only [scanInteger, if_neg hminus, List.length_nil, List.drop_zero, hds, if_neg hne,
      if_neg hn, List.drop_left]

theorem scanNumber_text (pf : List Char → PyFloat) (n : Int) {r : List Char} (hr : Stops r) :
    scanNumber pf (text n ++ r) = some (.int n, r) := by
  simp only [scanNumber, scanInteger_text n hr.noDigit, Option.bind_eq_bind, Option.bind_some,
    scanFraction_stops hr, scanExponent_stops hr, Nat.ofDigitChars_ten_toDigits]
  by_cases hn : n < 0
  · simp only [hn, ↓reduceIte, and_self, reduceCtorEq, pure, Option.some.injEq, Prod.mk.injEq,
      Json.int.injEq, and_true]
    omega
  · simp only [hn, ↓reduceIte, and_self, pure, Option.some.injEq, Prod.mk.injEq,
      Json.int.injEq, and_true]
    omega

theorem after_none {w : String} {d : Char} {l : List Char} (hw : w.toList = d :: l) {c : Char}
    (h : d ≠ c) (s : List Char) : after w (c :: s) = none := by
  simp [after, hw, List.isPrefixOf?, h]

/-- No literal starts like a numeral. -/
theorem scanLiteral_digit {c : Char} (h : c.isDigit = true) (s : List Char) :
    scanLiteral (c :: s) = none := by
  have hne : ∀ d, d.isDigit = false → d ≠ c := fun d hd => (digit_ne h hd).symm
  unfold scanLiteral
  rw [after_none rfl (hne 'n' (by decide)), after_none rfl (hne 't' (by decide)),
    after_none rfl (hne 'f' (by decide)), after_none rfl (hne 'N' (by decide)),
    after_none rfl (hne 'I' (by decide)), after_none rfl (hne '-' (by decide))]
  rfl

theorem scanLiteral_minus {c : Char} (h : c.isDigit = true) (s : List Char) :
    scanLiteral ('-' :: c :: s) = none := by
  have hI : after "-Infinity" ('-' :: c :: s) = none := by
    have hne : 'I' ≠ c := (digit_ne h (by decide)).symm
    simp [after, List.isPrefixOf?, hne]
  unfold scanLiteral
  rw [hI, after_none rfl (by decide), after_none rfl (by decide), after_none rfl (by decide),
    after_none rfl (by decide), after_none rfl (by decide)]
  rfl

/-- A numeral starts with a digit, after at most one minus sign. -/
theorem text_head (n : Int) :
    ∃ c l, c.isDigit = true ∧ (text n = c :: l ∨ text n = '-' :: c :: l) := by
  cases hd : Nat.toDigits 10 n.natAbs with
  | nil => exact absurd hd Nat.toDigits_ne_nil
  | cons c l =>
    refine ⟨c, l, isDigit_of_mem (n := n.natAbs) (by rw [hd]; simp), ?_⟩
    by_cases hn : n < 0
    · exact Or.inr (by rw [text_neg hn, hd])
    · exact Or.inl (by rw [text_nonneg (by omega), hd])

/-! ## Values of a flat object -/

theorem scanValue_other (pf : List Char → PyFloat) (m : Nat) {c : Char} {s : List Char}
    (h1 : c ≠ '\x22') (h2 : c ≠ '\x7b') (h3 : c ≠ '[') :
    scanValue pf (m + 1) (c :: s) = (scanLiteral (c :: s)).or (scanNumber pf (c :: s)) := by
  rw [scanValue]
  · intro s' h; exact h1 (List.cons.inj h).1
  · intro s' h; exact h2 (List.cons.inj h).1
  · intro s' h; exact h3 (List.cons.inj h).1

theorem scanValue_int (pf : List Char → PyFloat) (m : Nat) (n : Int) {r : List Char}
    (hr : Stops r) : scanValue pf (m + 1) (text n ++ r) = some (.int n, r) := by
  have hnum := scanNumber_text pf n hr
  obtain ⟨c, l, hc, ht | ht⟩ := text_head n
  · rw [ht] at hnum ⊢
    rw [List.cons_append] at hnum ⊢
    rw [scanValue_other pf m (digit_ne hc (by decide)) (digit_ne hc (by decide))
      (digit_ne hc (by decide)), scanLiteral_digit hc, hnum]
    rfl
  · rw [ht] at hnum ⊢
    rw [List.cons_append, List.cons_append] at hnum ⊢
    rw [scanValue_other pf m (by decide) (by decide) (by decide), scanLiteral_minus hc, hnum]
    rfl

theorem scanValue_field (pf : List Char → PyFloat) (m : Nat) {f : Field} (hf : f.Ok)
    {r : List Char} (hr : Stops r) :
    scanValue pf (m + 1) (f.text ++ r) = some (f.json, r) := by
  cases f with
  | int n => exact scanValue_int pf m n hr
  | bool b => cases b <;> rfl
  | str s =>
    have hs := scanString_unescaped hf r
    simp only [Field.text, Field.json, List.cons_append, List.append_assoc, List.nil_append]
    rw [scanValue]
    simp only [hs, Option.map_some, joinSurrogates_ofChars]

/-- A value does not start with white space. -/
theorem skipWs_field (f : Field) (r : List Char) : skipWs (f.text ++ r) = f.text ++ r := by
  cases f with
  | int n =>
    obtain ⟨c, l, hc, ht | ht⟩ := text_head n
    · have hw : isWhitespace c = false := by
        have h := fun d hd => beq_eq_false_iff_ne.mpr (digit_ne hc (d := d) hd)
        simp only [isWhitespace, h ' ' (by decide), h '\t' (by decide), h '\n' (by decide),
          h '\r' (by decide), Bool.or_false]
      rw [Field.text, ht]
      exact skipWs_cons hw _
    · rw [Field.text, ht]
      exact skipWs_cons (by decide) _
  | bool b => cases b <;> rfl
  | str s => exact skipWs_cons (by decide) _

section

variable (pf : List Char → PyFloat) (m : Nat) {e : String × Field}
  (hk : ∀ c ∈ e.1.toList, Unescaped c) (hf : e.2.Ok)

include hk

theorem scanString_key (r : List Char) :
    scanString (e.1.toList ++ '\x22' :: ':' :: (e.2.text ++ r)) =
      some (py e.1, ':' :: (e.2.text ++ r)) := scanString_unescaped hk _

include hf

theorem scanMembers_last (r : List Char) :
    scanMembers pf (m + 2) (memberText e ++ '\x7d' :: r) = some ([entry e], r) := by
  have hr : Stops ('\x7d' :: r) := Or.inr rfl
  have hcolon : ∀ s, skipWs (':' :: s) = ':' :: s := skipWs_cons (by decide)
  simp only [memberText, List.cons_append, List.append_assoc]
  rw [scanMembers]
  simp only [scanString_key hk, Option.bind_eq_bind, Option.bind_some, hcolon,
    skipWs_field, scanValue_field pf m hf hr, hr.skipWs, py, joinSurrogates_ofChars, entry]

theorem scanMembers_more (r : List Char) :
    scanMembers pf (m + 2) (memberText e ++ ',' :: r) =
      (scanMembers pf (m + 1) (skipWs r)).map (fun es => (entry e :: es.1, es.2)) := by
  have hr : Stops (',' :: r) := Or.inl rfl
  have hcolon : ∀ s, skipWs (':' :: s) = ':' :: s := skipWs_cons (by decide)
  simp only [memberText, List.cons_append, List.append_assoc]
  rw [scanMembers]
  simp only [scanString_key hk, Option.bind_eq_bind, Option.bind_some, hcolon,
    skipWs_field, scanValue_field pf m hf hr, hr.skipWs, py, joinSurrogates_ofChars, entry]
  cases scanMembers pf (m + 1) (skipWs r) <;> rfl

end

/-- The members of a flat object. -/
theorem scanMembers_text (pf : List Char → PyFloat) :
    ∀ (es : List (String × Field)) (m : Nat) (r : List Char), es ≠ [] → es.length ≤ m →
      (∀ e ∈ es, (∀ c ∈ e.1.toList, Unescaped c) ∧ e.2.Ok) →
      scanMembers pf (m + 1) (membersText es ++ '\x7d' :: r) = some (es.map entry, r)
  | [], _, _, hne, _, _ => absurd rfl hne
  | [e], m + 1, r, _, _, hok => by
    have he := hok e (by simp)
    rw [membersText, scanMembers_last pf m he.1 he.2]
    rfl
  | e :: f :: es, m + 1, r, _, hlen, hok => by
    have he := hok e (by simp)
    have hrest := scanMembers_text pf (f :: es) m r (by simp) (by simpa using hlen)
      (fun x hx => hok x (by simp [hx]))
    have hws : skipWs (membersText (f :: es) ++ '\x7d' :: r) =
        membersText (f :: es) ++ '\x7d' :: r := by
      cases es <;> exact skipWs_cons (by decide) _
    rw [membersText, List.append_assoc, List.cons_append, scanMembers_more pf m he.1 he.2, hws,
      hrest]
    rfl

theorem membersText_length : ∀ es : List (String × Field), es.length ≤ (membersText es).length
  | [] => by simp
  | [e] => by simp [membersText, memberText]
  | e :: f :: es => by
    have := membersText_length (f :: es)
    simp only [membersText, List.length_append, List.length_cons] at this ⊢
    omega

/-- **A printed flat object is read back to its entries.** -/
theorem loads_objectText (pf : List Char → PyFloat) {es : List (String × Field)} (hne : es ≠ [])
    (hkeys : (es.map Prod.fst).Nodup)
    (hok : ∀ e ∈ es, (∀ c ∈ e.1.toList, Unescaped c) ∧ e.2.Ok) :
    loads pf (objectText es) = some (.obj (es.map entry)) := by
  have hlen := membersText_length es
  obtain ⟨c, s, hs, hc⟩ : ∃ c s, membersText es = c :: s ∧ c = '\x22' := by
    match es, hne with
    | [e], _ => exact ⟨_, _, rfl, rfl⟩
    | e :: f :: es, _ => exact ⟨_, _, rfl, rfl⟩
  have hmem := scanMembers_text pf es ((membersText es).length + 1) [] hne (by omega) hok
  have hws : skipWs (membersText es ++ ['\x7d']) = membersText es ++ ['\x7d'] := by
    rw [hs, hc]
    exact skipWs_cons (by decide) _
  have hpairs : OrdMap.ofPairs (es.map entry) = es.map entry := by
    refine OrdMap.ofPairs_nodup ?_
    have hfst : (es.map entry).map Prod.fst = (es.map Prod.fst).map py := by simp [entry]
    rw [hfst]
    exact hkeys.map (fun _ _ h => py_inj.mp h)
  unfold loads objectText
  rw [List.cons_append, skipWs_cons (by decide)]
  have hlen2 : ('\x7b' :: (membersText es ++ ['\x7d'])).length + 1 =
      (membersText es).length + 1 + 1 + 1 := by simp
  rw [hlen2, scanValue]
  have hhead : (membersText es ++ ['\x7d']).head? ≠ some '\x7d' := by
    rw [hs, hc]
    simp
  simp only [hws, if_neg hhead, hmem, Option.map_some, hpairs]
  rfl

end Lib.Python
