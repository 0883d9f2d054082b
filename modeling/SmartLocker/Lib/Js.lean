import SmartLocker.Lib.Python

/-!
# JavaScript values that come from JSON

What JavaScript code does with the values `JSON.parse` can return: truth, optional chaining, `||`, `??`
and the length of a string.  `undefined` is read as `null`; no operator here tells them apart.
-/

set_option autoImplicit false

namespace Lib.Js

open Lib.Python

/-- `Boolean(v)`: arrays and objects are true, the empty ones included. -/
def truthy : Json → Bool
  | .null => false
  | .bool b => b
  | .int n => n != 0
  | .float x => x.val != .fin 0 && x.val != .nan
  | .str s => !s.isEmpty
  | .arr _ => true
  | .obj _ => true

/-- `v?.k`. -/
def field (v : Json) (k : String) : Json :=
  match v with
  | .obj kvs => getD kvs k .null
  | _ => .null

/-- `a || b`. -/
def or (a b : Json) : Json := if truthy a then a else b

/-- `a ?? b`. -/
def nullish (a b : Json) : Json :=
  match a with
  | .null => b
  | a => a

/-- `''`. -/
def empty : Json := .str []

/-- `v === ''`. -/
def isEmpty : Json → Bool
  | .str [] => true
  | _ => false

/-- The UTF-16 code units of a code point. -/
def units : PyChar → Nat
  | .uni c => if c.toNat < 0x10000 then 1 else 2
  | .surrogate _ => 1

/-- `s.length`. -/
def length : PyStr → Nat
  | [] => 0
  | c :: s => units c + length s

/-- The white space and line terminators of the language. -/
def isSpace : PyChar → Bool
  | .uni c =>
    let n := c.toNat
    decide (9 ≤ n ∧ n ≤ 13) || n == 0x20 || n == 0xA0 || n == 0x1680 ||
      decide (0x2000 ≤ n ∧ n ≤ 0x200A) || n == 0x2028 || n == 0x2029 || n == 0x202F ||
      n == 0x205F || n == 0x3000 || n == 0xFEFF
  | .surrogate _ => false

/-- `s.trim()`. -/
def trim (s : PyStr) : PyStr := (s.dropWhile isSpace).rdropWhile isSpace

end Lib.Js
