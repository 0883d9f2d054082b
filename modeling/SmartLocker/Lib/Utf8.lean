import SmartLocker.Lib.Python

/-!
# UTF-8

`encode` is `str.encode()`, which refuses lone surrogates.  `decode` is
`bytes.decode(errors="ignore")` as a machine over single bytes: it holds the bytes of an unfinished
sequence, drops them when the next byte does not continue them, and drops what is unfinished at the
end.

* `decode_ascii` — an ASCII byte stays where it is, whatever surrounds it;
* `ascii_of_mem_decode` — no ASCII character comes from other bytes;
* `encode_ascii` — ASCII text is encoded byte for byte, and `high_of_mem_encodeChar`: every other
  character gives bytes outside ASCII only.
-/

set_option autoImplicit false

namespace Lib.Utf8

open Lib.Python

/-! ## Encoding -/

def encodeChar : PyChar → Option (List UInt8)
  | .uni c => some (String.utf8EncodeChar c)
  | .surrogate _ => none

/-- `s.encode()`, `none` for `UnicodeEncodeError`. -/
def encode : PyStr → Option (List UInt8)
  | [] => some []
  | x :: s =>
    match encodeChar x, encode s with
    | some a, some b => some (a ++ b)
    | _, _ => none

def Ascii (c : Char) : Prop := c.toNat < 128

instance (c : Char) : Decidable (Ascii c) := inferInstanceAs (Decidable (_ < _))

theorem encodeChar_ascii {c : Char} (h : Ascii c) :
    String.utf8EncodeChar c = [c.toUInt8] := by
  have hval : c.val.toNat ≤ 0x7f := by unfold Ascii Char.toNat at h; omega
  simp only [String.utf8EncodeChar, hval, ↓reduceIte]
  rfl

theorem le_or_128 (n : Nat) (m : Nat) (hm : 128 ≤ m) : 128 ≤ n ||| m :=
  Nat.le_trans hm Nat.right_le_or

/-- The bytes of a character outside ASCII. -/
theorem high_of_mem_encodeChar {c : Char} (h : ¬ Ascii c) :
    ∀ b ∈ String.utf8EncodeChar c, 128 ≤ b.toNat := by
  have hval : ¬ c.val.toNat ≤ 0x7f := by unfold Ascii Char.toNat at h; omega
  intro b hb
  rw [String.utf8EncodeChar_eq_utf8EncodeCharFast] at hb
  simp only [String.utf8EncodeCharFast] at hb
  have hv' : ¬ c.val ≤ 0x7f := fun hle => hval (by simpa using UInt32.le_iff_toNat_le.mp hle)
  simp only [hv', ↓reduceIte] at hb
  split at hb
  · simp only [List.mem_cons, List.not_mem_nil, or_false] at hb
    rcases hb with rfl | rfl <;>
      (rw [UInt8.toNat_or]; exact le_or_128 _ _ (by decide))
  · split at hb
    · simp only [List.mem_cons, List.not_mem_nil, or_false] at hb
      rcases hb with rfl | rfl | rfl <;>
        (rw [UInt8.toNat_or]; exact le_or_128 _ _ (by decide))
    · simp only [List.mem_cons, List.not_mem_nil, or_false] at hb
      rcases hb with rfl | rfl | rfl | rfl <;>
        (rw [UInt8.toNat_or]; exact le_or_128 _ _ (by decide))

theorem encodeChar_ne_nil (c : Char) : String.utf8EncodeChar c ≠ [] :=
  String.utf8EncodeChar_ne_nil

theorem encode_ofChars (l : List Char) :
    encode (ofChars l) = some (l.flatMap String.utf8EncodeChar) := by
  induction l with
  | nil => rfl
  | cons c l ih =>
    have ih' : encode (List.map PyChar.uni l) = some (l.flatMap String.utf8EncodeChar) := ih
    simp [ofChars, encode, encodeChar, ih']

theorem flatMap_encodeChar_ascii {l : List Char} (h : ∀ c ∈ l, Ascii c) :
    l.flatMap String.utf8EncodeChar = l.map Char.toUInt8 := by
  induction l with
  | nil => rfl
  | cons c l ih =>
    rw [List.flatMap_cons, encodeChar_ascii (h c (by simp)), ih (fun d hd => h d (by simp [hd]))]
    rfl

theorem encode_ascii {l : List Char} (h : ∀ c ∈ l, Ascii c) :
    encode (ofChars l) = some (l.map Char.toUInt8) := by
  rw [encode_ofChars, flatMap_encodeChar_ascii h]

/-- A text with an encoding has no surrogates. -/
theorem encode_eq_some {s : PyStr} {x : List UInt8} (h : encode s = some x) :
    ∃ l : List Char, s = ofChars l ∧ x = l.flatMap String.utf8EncodeChar := by
  induction s generalizing x with
  | nil =>
    simp only [encode, Option.some.injEq] at h
    exact ⟨[], rfl, by simp [← h]⟩
  | cons p s ih =>
    simp only [encode] at h
    split at h
    · rename_i u v hu hv
      cases h
      obtain ⟨l, rfl, rfl⟩ := ih hv
      cases p with
      | surrogate n => cases hu
      | uni c =>
        cases hu
        exact ⟨c :: l, rfl, by simp⟩
    · cases h

/-- Only surrogates cannot be encoded. -/
theorem encode_eq_none {s : PyStr} : encode s = none ↔ ∃ n, PyChar.surrogate n ∈ s := by
  induction s with
  | nil => simp [encode]
  | cons x s ih =>
    cases x with
    | surrogate n => simp only [encode, encodeChar, true_iff]; exact ⟨n, by simp⟩
    | uni c =>
      simp only [encode, encodeChar, List.mem_cons, reduceCtorEq, false_or, ← ih]
      cases encode s <;> simp

/-- No encoding of a character is a proper start of another's. -/
theorem utf8EncodeChar_append_inj {a b : Char} {x y : List UInt8}
    (h : String.utf8EncodeChar a ++ x = String.utf8EncodeChar b ++ y) : a = b := by
  have ha := @ByteArray.utf8DecodeChar?_utf8EncodeChar_append x.toByteArray a
  have hb := @ByteArray.utf8DecodeChar?_utf8EncodeChar_append y.toByteArray b
  rw [← List.toByteArray_append, h, List.toByteArray_append, hb] at ha
  exact (Option.some.inj ha).symm

/-- A text starts another as soon as its bytes do. -/
theorem prefix_flatMap_iff {a b : List Char} :
    a.flatMap String.utf8EncodeChar <+: b.flatMap String.utf8EncodeChar ↔ a <+: b := by
  constructor
  · intro h
    induction a generalizing b with
    | nil => exact List.nil_prefix
    | cons c a ih =>
      obtain ⟨t, ht⟩ := h
      cases b with
      | nil => simp at ht
      | cons d b =>
        simp only [List.flatMap_cons, List.append_assoc] at ht
        obtain rfl := utf8EncodeChar_append_inj ht
        exact List.cons_prefix_cons.mpr ⟨rfl, ih ⟨t, List.append_cancel_left ht⟩⟩
  · rintro ⟨t, rfl⟩
    rw [List.flatMap_append]
    exact List.prefix_append _ _

theorem encode_injective {a b : PyStr} {x : List UInt8} (ha : encode a = some x)
    (hb : encode b = some x) : a = b := by
  obtain ⟨l, rfl, rfl⟩ := encode_eq_some ha
  obtain ⟨m, rfl, hm⟩ := encode_eq_some hb
  have hlm : l <+: m := prefix_flatMap_iff.mp (hm ▸ List.prefix_rfl)
  have hml : m <+: l := prefix_flatMap_iff.mp (hm ▸ List.prefix_rfl)
  rw [hlm.eq_of_length_le hml.length_le]

theorem toUInt8_toNat {c : Char} (h : Ascii c) : c.toUInt8.toNat = c.toNat := by
  have : c.val.toNat < 128 := h
  simp only [Char.toUInt8, UInt32.toNat_toUInt8, Char.toNat]
  omega

theorem ofUInt8_toNat (b : UInt8) : (Char.ofUInt8 b).toNat = b.toNat := rfl

theorem ofUInt8_toUInt8 {c : Char} (h : Ascii c) : Char.ofUInt8 c.toUInt8 = c := by
  apply Char.toNat_inj.mp
  rw [ofUInt8_toNat, toUInt8_toNat h]

/-- ASCII text survives the wire. -/
theorem wire_ascii {l : List Char} (h : ∀ c ∈ l, Ascii c) :
    (l.map Char.toUInt8).map Char.ofUInt8 = l := by
  rw [List.map_map]
  conv_rhs => rw [← List.map_id l]
  exact List.map_congr_left (fun c hc => ofUInt8_toUInt8 (h c hc))

/-! ## Printable ASCII -/

def Plain (c : Char) : Prop := 0x20 ≤ c.toNat ∧ c.toNat < 0x7f

instance (c : Char) : Decidable (Plain c) := inferInstanceAs (Decidable (_ ∧ _))

theorem Plain.ascii {c : Char} (h : Plain c) : Ascii c := by
  have := h.2
  unfold Ascii; omega

theorem plain_append {s t : List Char} (hs : ∀ c ∈ s, Plain c) (ht : ∀ c ∈ t, Plain c) :
    ∀ c ∈ s ++ t, Plain c := by
  intro c hc
  rcases List.mem_append.mp hc with hc | hc
  · exact hs c hc
  · exact ht c hc

theorem plain_cons {d : Char} {s : List Char} (hd : Plain d) (hs : ∀ c ∈ s, Plain c) :
    ∀ c ∈ d :: s, Plain c := by
  intro c hc
  rcases List.mem_cons.mp hc with rfl | hc
  · exact hd
  · exact hs c hc

theorem text_plain (n : Int) : ∀ c ∈ Decimal.text n, Plain c := by
  intro c hc
  rcases Decimal.text_mem hc with rfl | h
  · decide
  · simp only [Char.isDigit, Bool.and_eq_true, decide_eq_true_eq] at h
    have h1 : 48 ≤ c.toNat := by simpa using UInt32.le_iff_toNat_le.mp h.1
    have h2 : c.toNat ≤ 57 := by simpa using UInt32.le_iff_toNat_le.mp h.2
    constructor <;> omega

/-! ## Decoding, ignoring errors -/

/-- How many bytes the sequence that `b` starts has; `0` when `b` starts none. -/
def width (b : UInt8) : Nat :=
  if b < 0x80 then 1
  else if 0xC2 ≤ b ∧ b ≤ 0xDF then 2
  else if 0xE0 ≤ b ∧ b ≤ 0xEF then 3
  else if 0xF0 ≤ b ∧ b ≤ 0xF4 then 4
  else 0

/-- Whether `b` may follow the unfinished sequence. -/
def continues : List UInt8 → UInt8 → Bool
  | [], _ => false
  | [b0], b =>
    if b0 = 0xE0 then decide (0xA0 ≤ b ∧ b ≤ 0xBF)
    else if b0 = 0xED then decide (0x80 ≤ b ∧ b ≤ 0x9F)
    else if b0 = 0xF0 then decide (0x90 ≤ b ∧ b ≤ 0xBF)
    else if b0 = 0xF4 then decide (0x80 ≤ b ∧ b ≤ 0x8F)
    else decide (0x80 ≤ b ∧ b ≤ 0xBF)
  | _ :: _ :: _, b => decide (0x80 ≤ b ∧ b ≤ 0xBF)

/-- The character of a finished sequence. -/
def assemble : List UInt8 → Char
  | [b0, b1] => Char.ofNat ((b0.toNat - 0xC0) * 64 + (b1.toNat - 0x80))
  | [b0, b1, b2] =>
    Char.ofNat ((b0.toNat - 0xE0) * 4096 + (b1.toNat - 0x80) * 64 + (b2.toNat - 0x80))
  | [b0, b1, b2, b3] =>
    Char.ofNat ((b0.toNat - 0xF0) * 262144 + (b1.toNat - 0x80) * 4096 +
      (b2.toNat - 0x80) * 64 + (b3.toNat - 0x80))
  | _ => '\uFFFD'

/-- One byte after the unfinished sequence `p`: the characters it gives, and what is unfinished. -/
def decodeStep (p : List UInt8) (b : UInt8) : List Char × List UInt8 :=
  if continues p b then
    if (p ++ [b]).length = width (p.headD 0) then ([assemble (p ++ [b])], []) else ([], p ++ [b])
  else if b < 0x80 then ([Char.ofUInt8 b], [])
  else if width b = 0 then ([], [])
  else ([], [b])

def decodeFrom (p : List UInt8) : List UInt8 → List Char
  | [] => []
  | b :: l => (decodeStep p b).1 ++ decodeFrom (decodeStep p b).2 l

/-- `bs.decode(errors="ignore")`. -/
def decode (bs : List UInt8) : List Char := decodeFrom [] bs

theorem continues_high {p : List UInt8} {b : UInt8} (h : continues p b = true) :
    ¬ b.toNat < 128 := by
  have key : ∀ lo hi : UInt8, 128 ≤ lo.toNat → decide (lo ≤ b ∧ b ≤ hi) = true →
      ¬ b.toNat < 128 := by
    intro lo hi hlo hd
    have hle := UInt8.le_iff_toNat_le.mp (of_decide_eq_true hd).1
    omega
  match p with
  | [] => cases h
  | [b0] =>
    simp only [continues] at h
    split at h
    · exact key _ _ (by decide) h
    split at h
    · exact key _ _ (by decide) h
    split at h
    · exact key _ _ (by decide) h
    split at h
    · exact key _ _ (by decide) h
    · exact key _ _ (by decide) h
  | _ :: _ :: _ => exact key _ _ (by decide) h

theorem lt_128 {b : UInt8} : b < 0x80 ↔ b.toNat < 128 := UInt8.lt_iff_toNat_lt

/-- An ASCII byte ends whatever was unfinished and gives its own character. -/
theorem decodeStep_ascii (p : List UInt8) {b : UInt8} (h : b.toNat < 128) :
    decodeStep p b = ([Char.ofUInt8 b], []) := by
  have hc : continues p b = false := by
    cases hp : continues p b with
    | false => rfl
    | true => exact absurd h (continues_high hp)
  simp [decodeStep, hc, lt_128.mpr h]

theorem decodeFrom_ascii {a : UInt8} (h : a.toNat < 128) (xs ys : List UInt8) (p : List UInt8) :
    decodeFrom p (xs ++ a :: ys) = decodeFrom p xs ++ Char.ofUInt8 a :: decode ys := by
  induction xs generalizing p with
  | nil =>
    simp only [List.nil_append, decodeFrom, decodeStep_ascii p h]
    rfl
  | cons b xs ih =>
    simp only [List.cons_append, decodeFrom, ih, List.append_assoc]

/-- **An ASCII byte stays in place.** -/
theorem decode_ascii {a : UInt8} (h : a.toNat < 128) (xs ys : List UInt8) :
    decode (xs ++ a :: ys) = decode xs ++ Char.ofUInt8 a :: decode ys :=
  decodeFrom_ascii h xs ys []

/-! ### Finished sequences are outside ASCII -/

theorem width_two {b : UInt8} (h : width b = 2) : 0xC2 ≤ b.toNat ∧ b.toNat ≤ 0xDF := by
  unfold width at h
  split at h
  · omega
  split at h
  · rename_i hb
    exact ⟨UInt8.le_iff_toNat_le.mp hb.1, UInt8.le_iff_toNat_le.mp hb.2⟩
  · split at h <;> (try split at h) <;> omega

theorem width_three {b : UInt8} (h : width b = 3) : 0xE0 ≤ b.toNat ∧ b.toNat ≤ 0xEF := by
  unfold width at h
  split at h
  · omega
  split at h
  · omega
  split at h
  · rename_i hb
    exact ⟨UInt8.le_iff_toNat_le.mp hb.1, UInt8.le_iff_toNat_le.mp hb.2⟩
  · split at h <;> omega

theorem width_four {b : UInt8} (h : width b = 4) : 0xF0 ≤ b.toNat ∧ b.toNat ≤ 0xF4 := by
  unfold width at h
  split at h
  · omega
  split at h
  · omega
  split at h
  · omega
  split at h
  · rename_i hb
    exact ⟨UInt8.le_iff_toNat_le.mp hb.1, UInt8.le_iff_toNat_le.mp hb.2⟩
  · omega

theorem width_le (b : UInt8) : width b ≤ 4 := by
  unfold width
  repeat' split
  all_goals omega

/-- The second byte of a sequence, as numbers. -/
theorem continues_second {b0 b : UInt8} (h : continues [b0] b = true) :
    0x80 ≤ b.toNat ∧ b.toNat ≤ 0xBF ∧ (b0.toNat = 0xE0 → 0xA0 ≤ b.toNat) ∧
      (b0.toNat = 0xED → b.toNat ≤ 0x9F) ∧ (b0.toNat = 0xF0 → 0x90 ≤ b.toNat) ∧
      (b0.toNat = 0xF4 → b.toNat ≤ 0x8F) := by
  have key : ∀ lo hi : UInt8, decide (lo ≤ b ∧ b ≤ hi) = true →
      lo.toNat ≤ b.toNat ∧ b.toNat ≤ hi.toNat := by
    intro lo hi hd
    have := of_decide_eq_true hd
    exact ⟨UInt8.le_iff_toNat_le.mp this.1, UInt8.le_iff_toNat_le.mp this.2⟩
  have hne : ∀ k : UInt8, b0 ≠ k → b0.toNat ≠ k.toNat := fun k hk he => hk (UInt8.toNat_inj.mp he)
  simp only [continues] at h
  split at h
  · rename_i e; subst e
    have := key _ _ h; simp at this ⊢; omega
  · rename_i n1
    have n1 := hne _ n1
    split at h
    · rename_i e; subst e
      have := key _ _ h; simp at this ⊢; omega
    · rename_i n2
      have n2 := hne _ n2
      split at h
      · rename_i e; subst e
        have := key _ _ h; simp at this ⊢; omega
      · rename_i n3
        have n3 := hne _ n3
        split at h
        · rename_i e; subst e
          have := key _ _ h; simp at this ⊢; omega
        · rename_i n4
          have n4 := hne _ n4
          have := key _ _ h
          simp at this n1 n2 n3 n4
          omega

theorem continues_third {b0 b1 b : UInt8} {r : List UInt8}
    (h : continues (b0 :: b1 :: r) b = true) : 0x80 ≤ b.toNat ∧ b.toNat ≤ 0xBF := by
  have := of_decide_eq_true h
  exact ⟨UInt8.le_iff_toNat_le.mp this.1, UInt8.le_iff_toNat_le.mp this.2⟩

/-- What may be unfinished: the start of a sequence, each byte of which continues the one before. -/
def Pending : List UInt8 → Prop
  | [] => True
  | [b0] => 2 ≤ width b0
  | [b0, b1] => 3 ≤ width b0 ∧ continues [b0] b1 = true
  | [b0, b1, b2] => width b0 = 4 ∧ continues [b0] b1 = true ∧ continues [b0, b1] b2 = true
  | _ => False

theorem decodeStep_pending {p : List UInt8} (hp : Pending p) (b : UInt8) :
    Pending (decodeStep p b).2 := by
  unfold decodeStep
  split
  · rename_i hc
    split
    · trivial
    · rename_i hlen
      match p, hp, hc, hlen with
      | [], _, hc, _ => cases hc
      | [b0], hp, hc, hlen =>
        simp only [List.cons_append, List.nil_append, List.length_cons, List.length_nil,
          List.headD_cons] at hlen
        exact ⟨by simp only [Pending] at hp; omega, hc⟩
      | [b0, b1], hp, hc, hlen =>
        simp only [List.cons_append, List.nil_append, List.length_cons, List.length_nil,
          List.headD_cons] at hlen
        have := width_le b0
        exact ⟨by have := hp.1; omega, hp.2, hc⟩
      | [b0, b1, b2], hp, hc, hlen =>
        simp only [List.cons_append, List.nil_append, List.length_cons, List.length_nil,
          List.headD_cons] at hlen
        exact absurd hp.1.symm hlen
  · split
    · trivial
    · rename_i hlt
      split
      · trivial
      · rename_i hw
        show 2 ≤ width b
        have hw1 : width b ≠ 1 := by
          unfold width
          rw [if_neg hlt]
          repeat' split
          all_goals omega
        omega

theorem ofNat_not_ascii {n : Nat} (hv : n.isValidChar) (h : 128 ≤ n) : ¬ Ascii (Char.ofNat n) := by
  have : (Char.ofNat n).toNat = n := by
    unfold Char.ofNat
    rw [dif_pos hv]
    rfl
  unfold Ascii
  omega

theorem assemble_not_ascii {p : List UInt8} {b : UInt8} (hp : Pending p)
    (hc : continues p b = true) (hlen : (p ++ [b]).length = width (p.headD 0)) :
    ¬ Ascii (assemble (p ++ [b])) := by
  match p, hp, hc, hlen with
  | [], _, hc, _ => cases hc
  | [b0], _, hc, hlen =>
    have h0 := width_two (b := b0) hlen.symm
    have h1 := continues_second hc
    exact ofNat_not_ascii (Or.inl (by omega)) (by omega)
  | [b0, b1], hp, hc, hlen =>
    have h0 := width_three (b := b0) hlen.symm
    have h1 := continues_second hp.2
    have h2 := continues_third hc
    refine ofNat_not_ascii ?_ (by omega)
    by_cases hlow : b0.toNat ≤ 0xED
    · exact Or.inl (by omega)
    · exact Or.inr ⟨by omega, by omega⟩
  | [b0, b1, b2], hp, hc, hlen =>
    have h0 := width_four (b := b0) hlen.symm
    have h1 := continues_second hp.2.1
    have h2 := continues_third hp.2.2
    have h3 := continues_third hc
    exact ofNat_not_ascii (Or.inr ⟨by omega, by omega⟩) (by omega)

theorem decodeStep_mem {p : List UInt8} (hp : Pending p) {b : UInt8} {c : Char} (hc : Ascii c)
    (hm : c ∈ (decodeStep p b).1) : c = Char.ofUInt8 b := by
  unfold decodeStep at hm
  split at hm
  · rename_i hcont
    split at hm
    · rename_i hlen
      exact absurd (List.mem_singleton.mp hm ▸ hc) (assemble_not_ascii hp hcont hlen)
    · cases hm
  · split at hm
    · exact List.mem_singleton.mp hm
    · split at hm <;> cases hm

theorem ascii_of_mem_decodeFrom {c : Char} (hc : Ascii c) :
    ∀ (bs p : List UInt8), Pending p → c ∈ decodeFrom p bs → c.toUInt8 ∈ bs
  | [], _, _, h => by simp [decodeFrom] at h
  | b :: bs, p, hp, h => by
    simp only [decodeFrom, List.mem_append] at h
    rcases h with h | h
    · have hb : c.toUInt8 = b := by
        apply UInt8.toNat_inj.mp
        rw [toUInt8_toNat hc, decodeStep_mem hp hc h, ofUInt8_toNat]
      exact hb ▸ List.mem_cons_self
    · exact List.mem_cons_of_mem _ (ascii_of_mem_decodeFrom hc bs _ (decodeStep_pending hp b) h)

/-- **No ASCII character is made out of other bytes.** -/
theorem ascii_of_mem_decode {c : Char} (hc : Ascii c) {bs : List UInt8} (h : c ∈ decode bs) :
    c.toUInt8 ∈ bs :=
  ascii_of_mem_decodeFrom hc bs [] trivial h

end Lib.Utf8
