import Mathlib.Data.Rat.Defs
import Mathlib.Data.List.Basic
import Mathlib.Data.List.DropRight
import Mathlib.Data.List.Forall2
import SmartLocker.Lib.Decimal

/-!
# Python values that come from JSON

The values `json.loads` can return, and what Python code does with them: `str` and `repr`, truth,
`int`, equality, hashing (dict keys), key lookup, and the exceptions these raise.

* A `str` is a sequence of code points, lone surrogates included (`PyChar`).
* A `float` is its value and its `repr`, whose characters are those Python prints numbers with.
* A dict is its list of entries in insertion order.
* `Py ε α` is a computation with effects `ε`: what it did, and its value or exception.  An
  exception keeps the effects that came before it.

What Python takes from the Unicode database is a parameter (`Unicode`), used outside ASCII only.
-/

set_option autoImplicit false

namespace Lib.Python

open Lib.Decimal

/-! ## Strings -/

/-- A code point: a Unicode scalar value or a lone surrogate (`0xD800 + n`). -/
inductive PyChar where
  | uni (c : Char)
  | surrogate (n : Fin 2048)
  deriving DecidableEq, Repr

abbrev PyStr := List PyChar

/-- By name, so that every `∈` on lists of strings is decided alike. -/
instance lawfulBEqPyStr : LawfulBEq PyStr := inferInstance

/-- A text without surrogates. -/
def ofChars (l : List Char) : PyStr := l.map PyChar.uni

/-- A string literal. -/
def py (s : String) : PyStr := ofChars s.toList

theorem uni_injective : Function.Injective PyChar.uni := by
  intro a b h
  cases h
  rfl

theorem ofChars_injective {a b : List Char} (h : ofChars a = ofChars b) : a = b :=
  List.map_injective_iff.mpr uni_injective h

@[simp] theorem ofChars_append (a b : List Char) : ofChars (a ++ b) = ofChars a ++ ofChars b := by
  simp [ofChars]

@[simp] theorem py_inj {s t : String} : py s = py t ↔ s = t :=
  ⟨fun h => String.toList_inj.mp (ofChars_injective h), fun h => h ▸ rfl⟩

/-! ## Values -/

inductive FloatVal where
  | fin (q : ℚ)
  | posInf
  | negInf
  | nan
  deriving DecidableEq

def isFloatChar (c : Char) : Bool :=
  c.isDigit || ['+', '-', '.', 'e', 'i', 'n', 'f', 'a'].contains c

/-- A `float` with the text `repr` prints for it. -/
structure PyFloat where
  val : FloatVal
  text : List Char
  charset : ∀ c ∈ text, isFloatChar c = true

inductive Json where
  | null
  | bool (b : Bool)
  | int (n : Int)
  | float (x : PyFloat)
  | str (s : PyStr)
  | arr (xs : List Json)
  | obj (kvs : List (PyStr × Json))

abbrev Dict := List (PyStr × Json)

/-- A string literal as a value. -/
def Json.lit (s : String) : Json := .str (py s)

/-- `d.get(k)`, `none` when the key is missing. -/
def get? (d : Dict) (k : String) : Option Json := d.lookup (py k)

/-- `d.get(k, dflt)`. -/
def getD (d : Dict) (k : String) (dflt : Json) : Json := (get? d k).getD dflt

@[simp] theorem get?_nil (k : String) : get? [] k = none := rfl

@[simp] theorem get?_cons (k k' : String) (v : Json) (d : Dict) :
    get? ((py k', v) :: d) k = if k = k' then some v else get? d k := by
  unfold get?
  rw [List.lookup_cons]
  by_cases h : k = k'
  · simp [h]
  · have hne : (py k == py k') = false := by simpa using h
    simp [h, hne]

/-! ## Exceptions and effects -/

inductive PyErr where
  | KeyError
  | TypeError
  | AttributeError
  | ValueError
  | OverflowError
  deriving DecidableEq, Repr

structure Py (ε α : Type) where
  effects : List ε
  result : Except PyErr α

namespace Py

variable {ε α β : Type}

def ret (a : α) : Py ε α := ⟨[], .ok a⟩

def throw (e : PyErr) : Py ε α := ⟨[], .error e⟩

/-- One effect. -/
def emit (e : ε) : Py ε Unit := ⟨[e], .ok ()⟩

def ofExcept (r : Except PyErr α) : Py ε α := ⟨[], r⟩

def bind (x : Py ε α) (f : α → Py ε β) : Py ε β :=
  match x.result with
  | .ok a => ⟨x.effects ++ (f a).effects, (f a).result⟩
  | .error e => ⟨x.effects, .error e⟩

instance : Monad (Py ε) where
  pure := ret
  bind := bind

@[simp] theorem effects_pure (a : α) : (pure a : Py ε α).effects = [] := rfl
@[simp] theorem result_pure (a : α) : (pure a : Py ε α).result = .ok a := rfl
@[simp] theorem effects_throw (e : PyErr) : (throw e : Py ε α).effects = [] := rfl
@[simp] theorem result_throw (e : PyErr) : (throw e : Py ε α).result = .error e := rfl
@[simp] theorem effects_emit (e : ε) : (emit e).effects = [e] := rfl
@[simp] theorem result_emit (e : ε) : (emit e).result = .ok () := rfl
@[simp] theorem effects_ofExcept (r : Except PyErr α) : (ofExcept r : Py ε α).effects = [] := rfl
@[simp] theorem result_ofExcept (r : Except PyErr α) : (ofExcept r : Py ε α).result = r := rfl

theorem bind_ok {x : Py ε α} {a : α} (h : x.result = .ok a) (f : α → Py ε β) :
    (x >>= f) = ⟨x.effects ++ (f a).effects, (f a).result⟩ := by
  show bind x f = _
  simp [bind, h]

theorem bind_error {x : Py ε α} {e : PyErr} (h : x.result = .error e) (f : α → Py ε β) :
    (x >>= f) = ⟨x.effects, .error e⟩ := by
  show bind x f = _
  simp [bind, h]

theorem mk_ok_bind (es : List ε) (a : α) (f : α → Py ε β) :
    ((⟨es, .ok a⟩ : Py ε α) >>= f) = ⟨es ++ (f a).effects, (f a).result⟩ := rfl

@[simp] theorem pure_bind (a : α) (f : α → Py ε β) : ((pure a : Py ε α) >>= f) = f a := rfl

@[simp] theorem ofExcept_ok_bind (a : α) (f : α → Py ε β) :
    ((ofExcept (.ok a) : Py ε α) >>= f) = f a := rfl

@[simp] theorem ofExcept_error_bind (e : PyErr) (f : α → Py ε β) :
    ((ofExcept (.error e) : Py ε α) >>= f) = throw e := rfl

theorem ofExcept_bind (x : Except PyErr α) (f : α → Except PyErr β) :
    (ofExcept (x >>= f) : Py ε β) = ofExcept x >>= fun a => ofExcept (f a) := by
  cases x <;> rfl

@[simp] theorem throw_bind (e : PyErr) (f : α → Py ε β) :
    ((throw e : Py ε α) >>= f) = throw e := rfl

theorem bind_assoc {γ : Type} (x : Py ε α) (f : α → Py ε β) (g : β → Py ε γ) :
    (x >>= f) >>= g = x >>= fun a => f a >>= g := by
  cases hx : x.result with
  | error e =>
    have hxf : (x >>= f).result = .error e := by rw [bind_error hx]
    rw [bind_error hxf, bind_error hx, bind_error hx]
  | ok a =>
    cases hf : (f a).result with
    | error e =>
      have hxf : (x >>= f).result = .error e := by rw [bind_ok hx, hf]
      rw [bind_error hxf, bind_ok hx, bind_ok hx, bind_error hf]
    | ok b =>
      have hxf : (x >>= f).result = .ok b := by rw [bind_ok hx, hf]
      rw [bind_ok hxf, bind_ok hx, bind_ok hx, bind_ok hf, List.append_assoc]

/-- What a sequence that ends without an exception went through. -/
theorem bind_result_ok {x : Py ε α} {f : α → Py ε β} {b : β} (h : (x >>= f).result = .ok b) :
    ∃ a, x.result = .ok a ∧ (f a).result = .ok b ∧
      (x >>= f).effects = x.effects ++ (f a).effects := by
  cases hx : x.result with
  | error e => rw [bind_error hx] at h; cases h
  | ok a =>
    rw [bind_ok hx] at h
    exact ⟨a, rfl, h, by rw [bind_ok hx]⟩

/-- What follows a computation adds no effect when it has none. -/
theorem effects_bind_silent (x : Py ε α) {f : α → Py ε β} (h : ∀ a, (f a).effects = []) :
    (x >>= f).effects = x.effects := by
  cases hx : x.result with
  | error e => rw [bind_error hx]
  | ok a => rw [bind_ok hx, h a, List.append_nil]

/-- The effects that `g` picks are those of the first part when the second one has none of them. -/
theorem filterMap_bind_silent {γ : Type} (x : Py ε α) {f : α → Py ε β} (g : ε → Option γ)
    (h : ∀ a, (f a).effects.filterMap g = []) :
    (x >>= f).effects.filterMap g = x.effects.filterMap g := by
  cases hx : x.result with
  | error e => rw [bind_error hx]
  | ok a => rw [bind_ok hx, List.filterMap_append, h a, List.append_nil]

/-- The effects of a sequence: those of its first part and, when that ends without an exception, those
of the second one. -/
theorem mem_bind_iff {x : Py ε α} {f : α → Py ε β} {e : ε} :
    e ∈ (x >>= f).effects ↔ e ∈ x.effects ∨ ∃ a, x.result = .ok a ∧ e ∈ (f a).effects := by
  cases hx : x.result with
  | error err => simp [bind_error hx]
  | ok a => simp [bind_ok hx]

/-- An effect of a sequence is one of its parts. -/
theorem mem_bind_effects {x : Py ε α} {f : α → Py ε β} {e : ε} (h : e ∈ (x >>= f).effects) :
    e ∈ x.effects ∨ ∃ a, e ∈ (f a).effects :=
  (mem_bind_iff.mp h).imp_right fun ⟨a, _, h⟩ => ⟨a, h⟩

/-- Every effect meets `P`. -/
def Emits (P : ε → Prop) (x : Py ε α) : Prop := ∀ e ∈ x.effects, P e

variable {P : ε → Prop}

theorem emits_pure (a : α) : Emits P (pure a : Py ε α) := by
  intro e he
  cases he

theorem emits_ofExcept (r : Except PyErr α) : Emits P (ofExcept r : Py ε α) := by
  intro e he
  cases he

theorem emits_emit {e : ε} (h : P e) : Emits P (emit e) := by
  intro e' he
  rw [List.mem_singleton.mp he]
  exact h

theorem Emits.bind {x : Py ε α} {f : α → Py ε β} (hx : Emits P x) (hf : ∀ a, Emits P (f a)) :
    Emits P (x >>= f) := by
  intro e he
  rcases mem_bind_effects he with he | ⟨a, he⟩
  · exact hx e he
  · exact hf a e he

/-- Every effect meets `P`, and the value, if it comes to one, meets `Q`. -/
structure Gives (P : ε → Prop) (Q : α → Prop) (x : Py ε α) : Prop where
  effects : Emits P x
  result : ∀ a, x.result = .ok a → Q a

section Gives

variable {Q : α → Prop} {R : β → Prop}

theorem gives_pure {a : α} (h : Q a) : Gives P Q (pure a : Py ε α) :=
  ⟨emits_pure a, fun _ hb => Except.ok.inj hb ▸ h⟩

theorem gives_ofExcept {r : Except PyErr α} (h : ∀ a, r = .ok a → Q a) :
    Gives P Q (ofExcept r : Py ε α) := ⟨emits_ofExcept r, h⟩

theorem gives_emit {e : ε} (h : P e) : Gives P (fun _ => True) (emit e) :=
  ⟨emits_emit h, fun _ _ => trivial⟩

/-- What follows may count on the value. -/
theorem Gives.bind {x : Py ε α} {f : α → Py ε β} (hx : Gives P Q x) (hf : ∀ a, Q a → Gives P R (f a)) :
    Gives P R (x >>= f) := by
  constructor
  · intro e he
    rcases mem_bind_iff.mp he with he | ⟨a, ha, he⟩
    · exact hx.effects e he
    · exact (hf a (hx.result a ha)).effects e he
  · intro b hb
    obtain ⟨a, ha, hb, -⟩ := bind_result_ok hb
    exact (hf a (hx.result a ha)).result b hb

end Gives

/-- Computations that do the same as far as `g` tells, and come to the same. -/
structure Alike {γ : Type} (g : ε → γ) (x y : Py ε α) : Prop where
  effects : x.effects.map g = y.effects.map g
  result : x.result = y.result

section Alike

variable {γ : Type} {g : ε → γ}

theorem Alike.refl (x : Py ε α) : Alike g x x := ⟨rfl, rfl⟩

theorem alike_emit {e e' : ε} (h : g e = g e') : Alike g (emit e) (emit e') := by
  refine ⟨?_, rfl⟩
  rw [effects_emit, effects_emit, List.map_singleton, List.map_singleton, h]

theorem Alike.bind {x y : Py ε α} {f f' : α → Py ε β} (hx : Alike g x y)
    (hf : ∀ a, Alike g (f a) (f' a)) : Alike g (x >>= f) (y >>= f') := by
  have hresult := hx.result
  cases hr : x.result with
  | error e =>
    rw [hr] at hresult
    rw [bind_error hr, bind_error hresult.symm]
    exact ⟨hx.effects, rfl⟩
  | ok a =>
    rw [hr] at hresult
    rw [bind_ok hr, bind_ok hresult.symm]
    refine ⟨?_, (hf a).result⟩
    rw [List.map_append, List.map_append, hx.effects, (hf a).effects]

end Alike

end Py

/-- What a computation that ends without an exception went through. -/
theorem except_bind_ok {E α β : Type} {x : Except E α} {f : α → Except E β} {b : β} :
    x >>= f = .ok b ↔ ∃ a, x = .ok a ∧ f a = .ok b := by
  cases x with
  | error e =>
    constructor
    · intro h
      cases h
    · rintro ⟨_, h, -⟩
      cases h
  | ok a => exact ⟨fun h => ⟨a, rfl, h⟩, fun ⟨_, ha, h⟩ => by cases ha; exact h⟩

/-- A comprehension that ends without an exception. -/
theorem mapM_ok {α β : Type} {f : α → Except PyErr β} {l : List α} {r : List β}
    (h : l.mapM f = .ok r) : List.Forall₂ (fun a b => f a = .ok b) l r := by
  induction l generalizing r with
  | nil =>
    cases h
    exact .nil
  | cons a l ih =>
    rw [List.mapM_cons] at h
    obtain ⟨b, hb, h⟩ := except_bind_ok.mp h
    obtain ⟨bs, hbs, h⟩ := except_bind_ok.mp h
    cases h
    exact .cons hb (ih hbs)

/-- Its elements, when they can only be those of `g`. -/
theorem mapM_eq_map {α β : Type} {f : α → Except PyErr β} {g : α → β} {l : List α} {r : List β}
    (h : l.mapM f = .ok r) (hfg : ∀ a b, f a = .ok b → b = g a) : r = l.map g := by
  have hall := mapM_ok h
  clear h
  induction hall with
  | nil => rfl
  | cons hab _ ih => rw [List.map_cons, hfg _ _ hab, ih]

/-- What is related element by element has a partner for each element. -/
theorem exists_of_forall₂_left {α β : Type} {R : α → β → Prop} {l : List α} {r : List β} {a : α}
    (h : List.Forall₂ R l r) (ha : a ∈ l) : ∃ b ∈ r, R a b := by
  induction h with
  | nil => cases ha
  | cons hab _ ih =>
    rcases List.mem_cons.mp ha with rfl | ha
    · exact ⟨_, List.mem_cons_self, hab⟩
    · obtain ⟨b, hb, hab⟩ := ih ha
      exact ⟨b, List.mem_cons_of_mem _ hb, hab⟩

theorem exists_mem_of_mapM {α β : Type} {f : α → Except PyErr β} {l : List α} {r : List β} {a : α}
    (h : l.mapM f = .ok r) (ha : a ∈ l) : ∃ b ∈ r, f a = .ok b :=
  exists_of_forall₂_left (mapM_ok h) ha

theorem exists_of_mem_mapM {α β : Type} {f : α → Except PyErr β} {l : List α} {r : List β} {b : β}
    (h : l.mapM f = .ok r) (hb : b ∈ r) : ∃ a ∈ l, f a = .ok b :=
  exists_of_forall₂_left (mapM_ok h).flip hb

/-- A comprehension ends without an exception when that holds for each element. -/
theorem mapM_ok_iff {α β : Type} {f : α → Except PyErr β} {l : List α} :
    (∃ r, l.mapM f = .ok r) ↔ ∀ a ∈ l, ∃ b, f a = .ok b := by
  constructor
  · rintro ⟨r, h⟩ a ha
    obtain ⟨b, -, hb⟩ := exists_mem_of_mapM h ha
    exact ⟨b, hb⟩
  · intro h
    induction l with
    | nil => exact ⟨[], rfl⟩
    | cons a l ih =>
      obtain ⟨b, hb⟩ := h a List.mem_cons_self
      obtain ⟨r, hr⟩ := ih fun c hc => h c (List.mem_cons_of_mem _ hc)
      exact ⟨b :: r, by rw [List.mapM_cons, hb, hr]; rfl⟩

/-- `d[k]`. -/
def item (d : Dict) (k : String) : Except PyErr Json :=
  match get? d k with
  | some v => .ok v
  | none => .error .KeyError

theorem item_ok_iff {d : Dict} {k : String} {v : Json} : item d k = .ok v ↔ get? d k = some v := by
  unfold item
  cases get? d k with
  | none => simp
  | some w => simp

theorem getD_of_item {d : Dict} {k : String} {v : Json} (h : item d k = .ok v) (dflt : Json) :
    getD d k dflt = v := by
  unfold getD
  rw [item_ok_iff.mp h]
  rfl

/-! ## Text -/

/-- What Python reads from the Unicode database. -/
structure Unicode where
  isprintable : Char → Bool
  decimal : Char → Option Nat

/-- A database that knows nothing outside ASCII. -/
def Unicode.ascii : Unicode := ⟨fun _ => false, fun _ => none⟩

/-- A hexadecimal number of at least `width` lower-case digits. -/
def hex (width n : Nat) : List Char :=
  let ds := Nat.toDigits 16 n
  List.replicate (width - ds.length) '0' ++ ds

/-- One character inside a `repr`. -/
def reprChar (U : Unicode) (quote : Char) : PyChar → List Char
  | .surrogate n => "\\u".toList ++ hex 4 (0xD800 + n)
  | .uni c =>
    if c = quote ∨ c = '\\' then ['\\', c]
    else if c = '\t' then "\\t".toList
    else if c = '\n' then "\\n".toList
    else if c = '\r' then "\\r".toList
    else if c.toNat < 0x20 ∨ c.toNat = 0x7F then "\\x".toList ++ hex 2 c.toNat
    else if c.toNat < 0x7F then [c]
    else if U.isprintable c then [c]
    else if c.toNat < 0x100 then "\\x".toList ++ hex 2 c.toNat
    else if c.toNat < 0x10000 then "\\u".toList ++ hex 4 c.toNat
    else "\\U".toList ++ hex 8 c.toNat

/-- `repr` of a string: single quotes, unless it has single quotes and no double ones. -/
def reprStr (U : Unicode) (s : PyStr) : List Char :=
  let quote := if PyChar.uni '\'' ∈ s ∧ PyChar.uni '"' ∉ s then '"' else '\''
  quote :: s.flatMap (reprChar U quote) ++ [quote]

mutual

/-- `repr`. -/
def Json.repr (U : Unicode) : Json → List Char
  | .null => "None".toList
  | .bool true => "True".toList
  | .bool false => "False".toList
  | .int n => text n
  | .float x => x.text
  | .str s => reprStr U s
  | .arr xs => '[' :: reprItems U xs ++ [']']
  | .obj kvs => '\x7b' :: reprEntries U kvs ++ ['\x7d']

def reprItems (U : Unicode) : List Json → List Char
  | [] => []
  | [x] => x.repr U
  | x :: y :: xs => x.repr U ++ ", ".toList ++ reprItems U (y :: xs)

def reprEntries (U : Unicode) : List (PyStr × Json) → List Char
  | [] => []
  | [(k, v)] => reprStr U k ++ ": ".toList ++ v.repr U
  | (k, v) :: e :: kvs =>
    reprStr U k ++ ": ".toList ++ v.repr U ++ ", ".toList ++ reprEntries U (e :: kvs)

end

/-- `str`, which f-strings use: the string itself, `repr` of anything else. -/
def Json.pyStr (U : Unicode) : Json → PyStr
  | .str s => s
  | v => ofChars (v.repr U)

/-- `str.isspace` of one character. -/
def isspace (c : Char) : Bool :=
  let n := c.toNat
  decide (9 ≤ n ∧ n ≤ 13) || decide (0x1C ≤ n ∧ n ≤ 0x20) || n == 0x85 || n == 0xA0 ||
    n == 0x1680 || decide (0x2000 ≤ n ∧ n ≤ 0x200A) || n == 0x2028 || n == 0x2029 ||
    n == 0x202F || n == 0x205F || n == 0x3000

/-- `s.strip()`. -/
def strip (s : List Char) : List Char := (s.dropWhile isspace).rdropWhile isspace

/-- A character `repr` may print: no control character. -/
def Visible (c : Char) : Prop := 0x20 ≤ c.toNat

instance (c : Char) : Decidable (Visible c) := inferInstanceAs (Decidable (_ ≤ _))

/-- A statement about the characters of a text is decided along the text. -/
instance (priority := high) decidableForallMemText {p : Char → Prop} [DecidablePred p] (l : List Char) :
    Decidable (∀ c ∈ l, p c) :=
  List.decidableBAll p l

theorem isDigit_visible {c : Char} (h : c.isDigit = true) : Visible c := by
  simp only [Char.isDigit, Bool.and_eq_true, decide_eq_true_eq] at h
  have h1 : 48 ≤ c.toNat := by simpa using UInt32.le_iff_toNat_le.mp h.1
  unfold Visible; omega

theorem text_visible (n : Int) : ∀ c ∈ text n, Visible c := by
  intro c hc
  rcases text_mem hc with rfl | h
  · decide
  · exact isDigit_visible h

theorem digitChar_visible : ∀ d, d < 16 → Visible (Nat.digitChar d) := by decide

theorem toDigits_visible (n : Nat) : ∀ c ∈ Nat.toDigits 16 n, Visible c := by
  induction n using Nat.strongRecOn with
  | ind n ih =>
    intro c hc
    by_cases hn : n < 16
    · rw [Nat.toDigits_of_lt_base hn, List.mem_singleton] at hc
      exact hc ▸ digitChar_visible n hn
    · rw [Nat.toDigits_of_base_le (by decide) (by omega)] at hc
      rcases List.mem_append.mp hc with hc | hc
      · exact ih (n / 16) (by omega) c hc
      · rw [List.mem_singleton] at hc
        exact hc ▸ digitChar_visible _ (by omega)

theorem hex_visible (w n : Nat) : ∀ c ∈ hex w n, Visible c := by
  intro c hc
  rcases List.mem_append.mp hc with hc | hc
  · rw [List.eq_of_mem_replicate hc]; decide
  · exact toDigits_visible n c hc

theorem reprChar_visible (U : Unicode) {quote : Char} (hq : Visible quote) (x : PyChar) :
    ∀ c ∈ reprChar U quote x, Visible c := by
  have hpre : ∀ (s : String), (∀ c ∈ s.toList, Visible c) → ∀ w n,
      ∀ c ∈ s.toList ++ hex w n, Visible c := by
    intro s hs w n c hc
    rcases List.mem_append.mp hc with hc | hc
    · exact hs c hc
    · exact hex_visible w n c hc
  have hx := hpre "\\x" (by decide)
  have hu := hpre "\\u" (by decide)
  have hU := hpre "\\U" (by decide)
  cases x with
  | surrogate n => exact hu _ _
  | uni d =>
    have hbs : Visible '\\' := by decide
    simp only [reprChar]
    split
    · rename_i h
      have hd : Visible d := by
        rcases h with rfl | rfl
        · exact hq
        · exact hbs
      intro c hc
      rcases List.mem_cons.mp hc with rfl | hc
      · exact hbs
      · exact List.mem_singleton.mp hc ▸ hd
    split
    · decide
    split
    · decide
    split
    · decide
    split
    · exact hx _ _
    · rename_i hctl
      have hd : Visible d := by unfold Visible; omega
      have hself : ∀ c ∈ [d], Visible c := fun c hc => List.mem_singleton.mp hc ▸ hd
      split
      · exact hself
      split
      · exact hself
      split
      · exact hx _ _
      split
      · exact hu _ _
      · exact hU _ _

theorem reprStr_visible (U : Unicode) (s : PyStr) : ∀ c ∈ reprStr U s, Visible c := by
  unfold reprStr
  have hq : Visible (if PyChar.uni '\'' ∈ s ∧ PyChar.uni '"' ∉ s then '"' else '\'') := by
    split <;> decide
  intro c hc
  simp only [List.cons_append, List.mem_cons, List.mem_append, List.mem_flatMap,
    List.not_mem_nil, or_false] at hc
  rcases hc with rfl | ⟨x, _, hx⟩ | rfl
  · exact hq
  · exact reprChar_visible U hq x c hx
  · exact hq

theorem floatText_visible (x : PyFloat) : ∀ c ∈ x.text, Visible c := by
  intro c hc
  have h := x.charset c hc
  simp only [isFloatChar, Bool.or_eq_true] at h
  rcases h with h | h
  · exact isDigit_visible h
  · have hall : ∀ d ∈ ['+', '-', '.', 'e', 'i', 'n', 'f', 'a'], Visible d := by decide
    exact hall c (by simpa using h)

theorem visible_append {a b : List Char} (ha : ∀ c ∈ a, Visible c) (hb : ∀ c ∈ b, Visible c) :
    ∀ c ∈ a ++ b, Visible c := by
  intro c hc
  rcases List.mem_append.mp hc with hc | hc
  · exact ha c hc
  · exact hb c hc

theorem visible_cons {d : Char} {a : List Char} (hd : Visible d) (ha : ∀ c ∈ a, Visible c) :
    ∀ c ∈ d :: a, Visible c := by
  intro c hc
  rcases List.mem_cons.mp hc with rfl | hc
  · exact hd
  · exact ha c hc

mutual

/-- **`repr` prints no control character**, in particular no line end. -/
theorem repr_visible (U : Unicode) : ∀ v : Json, ∀ c ∈ v.repr U, Visible c
  | .null => by simp only [Json.repr]; decide
  | .bool true => by simp only [Json.repr]; decide
  | .bool false => by simp only [Json.repr]; decide
  | .int n => by simp only [Json.repr]; exact text_visible n
  | .float x => by simp only [Json.repr]; exact floatText_visible x
  | .str s => by simp only [Json.repr]; exact reprStr_visible U s
  | .arr xs => by
    simp only [Json.repr]
    exact visible_cons (by decide) (visible_append (reprItems_visible U xs) (by decide))
  | .obj kvs => by
    simp only [Json.repr]
    exact visible_cons (by decide) (visible_append (reprEntries_visible U kvs) (by decide))

theorem reprItems_visible (U : Unicode) : ∀ xs : List Json, ∀ c ∈ reprItems U xs, Visible c
  | [] => by simp [reprItems]
  | [x] => by simp only [reprItems]; exact repr_visible U x
  | x :: y :: xs => by
    simp only [reprItems]
    exact visible_append (visible_append (repr_visible U x) (by decide))
      (reprItems_visible U (y :: xs))

theorem reprEntries_visible (U : Unicode) :
    ∀ kvs : List (PyStr × Json), ∀ c ∈ reprEntries U kvs, Visible c
  | [] => by simp [reprEntries]
  | [(k, v)] => by
    simp only [reprEntries]
    exact visible_append (visible_append (reprStr_visible U k) (by decide)) (repr_visible U v)
  | (k, v) :: e :: kvs => by
    simp only [reprEntries]
    exact visible_append (visible_append (visible_append (visible_append (reprStr_visible U k)
      (by decide)) (repr_visible U v)) (by decide)) (reprEntries_visible U (e :: kvs))

end

/-! ## Truth, numbers, equality, keys -/

/-- `bool(v)`. -/
def Json.truthy : Json → Bool
  | .null => false
  | .bool b => b
  | .int n => n != 0
  | .float x => x.val != .fin 0
  | .str s => !s.isEmpty
  | .arr xs => !xs.isEmpty
  | .obj kvs => !kvs.isEmpty

/-- The value of a number, `bool` included. -/
def Json.num? : Json → Option FloatVal
  | .bool b => some (.fin (if b then 1 else 0))
  | .int n => some (.fin n)
  | .float x => some x.val
  | _ => none

/-- A hashable value as a dict key: numbers of equal value are one key. -/
inductive Key where
  | none
  | num (v : FloatVal)
  | str (s : PyStr)
  deriving DecidableEq

/-- The key a value is, `TypeError` when it is unhashable. -/
def Json.key : Json → Except PyErr Key
  | .null => .ok .none
  | .bool b => .ok (.num (.fin (if b then 1 else 0)))
  | .int n => .ok (.num (.fin n))
  | .float x => .ok (.num x.val)
  | .str s => .ok (.str s)
  | .arr _ => .error .TypeError
  | .obj _ => .error .TypeError

def Json.hashable : Json → Bool
  | .arr _ | .obj _ => false
  | _ => true

theorem key_ok {v : Json} (h : v.hashable = true) : ∃ k, v.key = .ok k := by
  cases v with
  | arr _ => cases h
  | obj _ => cases h
  | _ => exact ⟨_, rfl⟩

theorem key_error {v : Json} (h : v.hashable = false) : v.key = .error .TypeError := by
  cases v with
  | arr _ => rfl
  | obj _ => rfl
  | _ => cases h

theorem hashable_of_key {v : Json} {k : Key} (h : v.key = .ok k) : v.hashable = true := by
  cases v with
  | arr _ => cases h
  | obj _ => cases h
  | _ => rfl

def numEq (a b : FloatVal) : Bool := decide (a = b ∧ a ≠ .nan)

mutual

/-- `v == w`. -/
def Json.pyEq : Json → Json → Bool
  | .null, .null => true
  | .str s, .str t => s == t
  | .arr xs, .arr ys => pyEqItems xs ys
  | .obj xs, .obj ys => xs.length == ys.length && pyEqEntries xs ys
  | v, w =>
    match v.num?, w.num? with
    | some a, some b => numEq a b
    | _, _ => false

def pyEqItems : List Json → List Json → Bool
  | [], [] => true
  | x :: xs, y :: ys => x.pyEq y && pyEqItems xs ys
  | _, _ => false

def pyEqEntries : List (PyStr × Json) → List (PyStr × Json) → Bool
  | [], _ => true
  | (k, v) :: xs, ys =>
    (match ys.lookup k with
      | some w => v.pyEq w
      | none => false) && pyEqEntries xs ys

end

@[simp] theorem pyEq_int (m n : Int) : Json.pyEq (.int m) (.int n) = decide (m = n) := by
  simp [Json.pyEq, Json.num?, numEq]

@[simp] theorem pyEq_str (s t : PyStr) : Json.pyEq (.str s) (.str t) = (s == t) := by
  simp [Json.pyEq]

@[simp] theorem pyEq_lit (s t : String) : Json.pyEq (.lit s) (.lit t) = decide (s = t) := by
  rw [Json.lit, Json.lit, pyEq_str, Bool.eq_iff_iff, beq_iff_eq, decide_eq_true_iff]
  exact py_inj

/-- What equals a number has its value. -/
theorem num?_of_pyEq_int {v : Json} {n : Int} (h : v.pyEq (.int n) = true) : v.num? = some (.fin n) := by
  have hnum : ∀ x : FloatVal, numEq x (.fin n) = true → x = .fin n := by
    intro x hx
    exact (of_decide_eq_true hx).1
  cases v with
  | null => simp [Json.pyEq, Json.num?] at h
  | str s => simp [Json.pyEq, Json.num?] at h
  | arr xs => simp [Json.pyEq, Json.num?] at h
  | obj xs => simp [Json.pyEq, Json.num?] at h
  | bool b =>
    simp only [Json.pyEq, Json.num?] at h ⊢
    exact congrArg some (hnum _ h)
  | int m =>
    simp only [Json.pyEq, Json.num?] at h ⊢
    exact congrArg some (hnum _ h)
  | float x =>
    simp only [Json.pyEq, Json.num?] at h ⊢
    exact congrArg some (hnum _ h)

theorem pyEq_int_unique {v : Json} {m n : Int} (hm : v.pyEq (.int m) = true)
    (hn : v.pyEq (.int n) = true) : m = n := by
  have h := (num?_of_pyEq_int hm).symm.trans (num?_of_pyEq_int hn)
  simpa using h

/-- Only a string equals a string. -/
theorem pyEq_str_right {v : Json} {t : PyStr} (h : v.pyEq (.str t) = true) : v = .str t := by
  cases v with
  | str s =>
    rw [pyEq_str, beq_iff_eq] at h
    rw [h]
  | _ => simp [Json.pyEq, Json.num?] at h

/-! ## Sequences -/

/-- `list(v)`: what a `for` loop goes through. -/
def Json.iter : Json → Except PyErr (List Json)
  | .arr xs => .ok xs
  | .str s => .ok (s.map (fun c => .str [c]))
  | .obj kvs => .ok (kvs.map (fun e => .str e.1))
  | _ => .error .TypeError

/-- `len(v)`. -/
def Json.len (v : Json) : Except PyErr Nat := v.iter.map List.length

/-- `v[k]` with a string key. -/
def Json.subscript : Json → String → Except PyErr Json
  | .obj d, k => item d k
  | _, _ => .error .TypeError

/-- `v[:n]`. -/
def Json.takeFirst (n : Nat) : Json → Except PyErr Json
  | .str s => .ok (.str (s.take n))
  | .arr xs => .ok (.arr (xs.take n))
  | .obj _ => .error .KeyError
  | _ => .error .TypeError

/-- `v.get` needs a dict. -/
def Json.asDict : Json → Except PyErr Dict
  | .obj d => .ok d
  | _ => .error .AttributeError

/-- `a or b`. -/
def Json.orElse (a b : Json) : Json := if a.truthy then a else b

/-! ## `int` -/

def digitOf (U : Unicode) (c : Char) : Option Nat :=
  if c.isDigit then some (c.toNat - 48) else if c.toNat < 128 then none else U.decimal c

/-- Digits, with single underscores between them. -/
def digitsOf (U : Unicode) : List Char → Option (List Nat)
  | [] => none
  | [c] => (digitOf U c).map (fun d => [d])
  | c :: '_' :: s => do return (← digitOf U c) :: (← digitsOf U s)
  | c :: s => do return (← digitOf U c) :: (← digitsOf U s)

/-- What `int` takes off both ends: white space but for the separators from U+001C to U+001F. -/
def intSpace (c : Char) : Bool := isspace c && !decide (0x1C ≤ c.toNat ∧ c.toNat ≤ 0x1F)

/-- `int(s)` of a string, at most 4300 digits. -/
def intOfStr (U : Unicode) (s : PyStr) : Option Int := do
  let chars ← s.mapM (fun c => match c with
    | .uni c => some c
    | .surrogate _ => none)
  let (sign, body) := match (chars.dropWhile intSpace).rdropWhile intSpace with
    | '-' :: r => (-1, r)
    | '+' :: r => (1, r)
    | r => (1, r)
  let ds ← digitsOf U body
  if ds.length ≤ 4300 then some (sign * (ds.foldl (fun n d => 10 * n + d) 0 : Nat)) else none

/-- `int(v)`. -/
def Json.pyInt (U : Unicode) : Json → Except PyErr Int
  | .bool b => .ok (if b then 1 else 0)
  | .int n => .ok n
  | .float x =>
    match x.val with
    | .fin q => .ok (q.num.tdiv q.den)
    | .nan => .error .ValueError
    | _ => .error .OverflowError
  | .str s =>
    match intOfStr U s with
    | some n => .ok n
    | none => .error .ValueError
  | _ => .error .TypeError

end Lib.Python
