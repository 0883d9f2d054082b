import SmartLocker.Lib.JsonDump
import SmartLocker.Lib.Utf8

/-!
# What is written is read back

`loads_dump`: `json.loads` gives back what `dump` wrote, in any layout, for values that are `Clean`: the
keys of a dict are distinct, a string reads back (`Reads`), and so does a float (`Prints`).

`loads_clean`: what was read from a text is clean, so it can be written and read again any number of
times.
-/

set_option autoImplicit false

namespace Lib.Python

open Lib.Decimal

/-! ## Clean values -/

/-- The `repr` of a float is read as that float; what has no literal is what JSON has a name for. -/
def Prints (pf : List Char → PyFloat) (x : PyFloat) : Prop :=
  match x.val with
  | .nan => x = PyFloat.nan
  | .posInf => x = PyFloat.inf
  | .negInf => x = PyFloat.negInf
  | .fin _ => scanNumber pf x.text = some (.float x, [])

mutual

def Clean (ly : Layout) (pf : List Char → PyFloat) : Json → Prop
  | .null | .bool _ | .int _ => True
  | .float x => Prints pf x
  | .str s => Reads ly s
  | .arr xs => CleanItems ly pf xs
  | .obj kvs => (kvs.map Prod.fst).Nodup ∧ CleanEntries ly pf kvs

def CleanItems (ly : Layout) (pf : List Char → PyFloat) : List Json → Prop
  | [] => True
  | x :: xs => Clean ly pf x ∧ CleanItems ly pf xs

def CleanEntries (ly : Layout) (pf : List Char → PyFloat) : List (PyStr × Json) → Prop
  | [] => True
  | (k, v) :: kvs => Reads ly k ∧ Clean ly pf v ∧ CleanEntries ly pf kvs

end

variable {ly : Layout} {pf : List Char → PyFloat}

theorem cleanItems_iff {xs : List Json} : CleanItems ly pf xs ↔ ∀ x ∈ xs, Clean ly pf x := by
  induction xs with
  | nil => exact ⟨fun _ _ hx => (nomatch hx), fun _ => trivial⟩
  | cons x xs ih => rw [CleanItems, ih, List.forall_mem_cons]

theorem cleanEntries_iff {kvs : List (PyStr × Json)} :
    CleanEntries ly pf kvs ↔ ∀ e ∈ kvs, Reads ly e.1 ∧ Clean ly pf e.2 := by
  induction kvs with
  | nil => exact ⟨fun _ _ he => (nomatch he), fun _ => trivial⟩
  | cons e kvs ih => rw [CleanEntries, ih, List.forall_mem_cons, and_assoc]

/-! ## White space -/

theorem skipWs_append {w : List Char} (h : ∀ c ∈ w, isWhitespace c = true) (s : List Char) :
    skipWs (w ++ s) = skipWs s := List.dropWhile_append_of_pos h

theorem newline_blank (ly : Layout) (depth : Nat) : ∀ c ∈ ly.newline depth, isWhitespace c = true := by
  intro c hc
  unfold Layout.newline at hc
  split at hc
  · cases hc
  · rcases List.mem_cons.mp hc with rfl | hc
    · rfl
    · rw [(List.mem_replicate.mp hc).2]
      rfl

theorem gap_blank (ly : Layout) (depth : Nat) : ∀ c ∈ ly.gap depth, isWhitespace c = true := by
  intro c hc
  unfold Layout.gap at hc
  split at hc
  · rw [List.mem_singleton.mp hc]
    rfl
  · exact newline_blank ly depth c hc

/-- White space does not go on as a number. -/
theorem ends_blank {w s : List Char} (hw : ∀ c ∈ w, isWhitespace c = true) (hs : Ends s) :
    Ends (w ++ s) := by
  cases w with
  | nil => exact hs
  | cons c w =>
    have hc := hw c List.mem_cons_self
    simp only [isWhitespace, Bool.or_eq_true, beq_iff_eq] at hc
    rcases hc with ((rfl | rfl) | rfl) | rfl <;> exact ends_cons (by decide) _

/-! ## How a value starts -/

theorem digit_not_blank {c : Char} (h : c.isDigit = true) : isWhitespace c = false := by
  have hne := fun d hd => beq_eq_false_iff_ne.mpr (digit_ne h (d := d) hd)
  simp only [isWhitespace, hne ' ' (by decide), hne '\t' (by decide), hne '\n' (by decide),
    hne '\r' (by decide), Bool.or_false]

/-- The text of a value does not start with white space, nor does it close an array. -/
def Starts (s : List Char) : Prop := ∃ c l, s = c :: l ∧ isWhitespace c = false ∧ c ≠ ']'

theorem starts_cons {c : Char} (h : isWhitespace c = false ∧ c ≠ ']') (l : List Char) :
    Starts (c :: l) := ⟨c, l, rfl, h⟩

theorem Starts.append {s : List Char} (h : Starts s) (r : List Char) : Starts (s ++ r) := by
  obtain ⟨c, l, rfl, hc⟩ := h
  exact starts_cons hc (l ++ r)

theorem Starts.skipWs {s : List Char} (h : Starts s) : skipWs s = s := by
  obtain ⟨c, l, rfl, hc, -⟩ := h
  exact skipWs_cons hc l

theorem starts_number {s : List Char} {x : Json × List Char} (h : scanNumber pf s = some x) :
    Starts s := by
  obtain ⟨c, l, hc, rfl | rfl⟩ := scanNumber_head h
  · exact starts_cons ⟨digit_not_blank hc, digit_ne hc (by decide)⟩ l
  · exact starts_cons (by decide) (c :: l)

theorem starts_float {x : PyFloat} (h : Prints pf x) : Starts (dumpFloat x) := by
  unfold Prints at h
  split at h
  · rw [h]
    exact starts_cons (by decide) _
  · rw [h]
    exact starts_cons (by decide) _
  · rw [h]
    exact starts_cons (by decide) _
  · rename_i hval
    rw [dumpFloat, hval]
    exact starts_number h

theorem starts_dump {v : Json} (h : Clean ly pf v) (depth : Nat) : Starts (dump ly depth v) := by
  cases v with
  | null => exact starts_cons (by decide) _
  | bool b => cases b <;> exact starts_cons (by decide) _
  | int n => exact starts_number (scanNumber_int pf n)
  | float x => exact starts_float h
  | str s => exact starts_cons (by decide) _
  | arr xs => cases xs <;> exact starts_cons (by decide) _
  | obj kvs => cases kvs <;> exact starts_cons (by decide) _

theorem Starts.length {s : List Char} (h : Starts s) : 1 ≤ s.length := by
  obtain ⟨c, l, rfl, -⟩ := h
  exact Nat.le_add_left 1 l.length

/-! ## Scalars -/

/-- A number is not taken for a literal. -/
theorem scanValue_number {s : List Char} {v : Json} (h : scanNumber pf s = some (v, [])) {r : List Char}
    (hr : Ends r) (m : Nat) : scanValue pf (m + 1) (s ++ r) = some (v, r) := by
  have hnum := scanNumber_append hr pf h
  rw [List.nil_append] at hnum
  obtain ⟨c, l, hc, rfl | rfl⟩ := scanNumber_head h
  · rw [List.cons_append] at hnum ⊢
    rw [scanValue_other pf m (digit_ne hc (by decide)) (digit_ne hc (by decide))
      (digit_ne hc (by decide)), scanLiteral_digit hc, hnum]
    rfl
  · rw [List.cons_append, List.cons_append] at hnum ⊢
    rw [scanValue_other pf m (by decide) (by decide) (by decide), scanLiteral_minus hc, hnum]
    rfl

theorem scanValue_float {x : PyFloat} (h : Prints pf x) {r : List Char} (hr : Ends r) (m : Nat) :
    scanValue pf (m + 1) (dumpFloat x ++ r) = some (.float x, r) := by
  unfold Prints at h
  split at h
  · rw [h]
    rfl
  · rw [h]
    rfl
  · rw [h]
    rfl
  · rename_i hval
    rw [dumpFloat, hval]
    exact scanValue_number h hr m

theorem scanValue_str {s : PyStr} (h : Reads ly s) (r : List Char) (m : Nat) :
    scanValue pf (m + 1) (dumpStr ly s ++ r) = some (.str s, r) := by
  obtain ⟨u, hu, hs⟩ := h r
  rw [dumpStr, List.cons_append, List.cons_append, List.append_assoc, List.singleton_append, scanValue]
  simp only [hu, Option.map_some, hs]

/-! ## Arrays and objects -/

theorem starts_dumpItems {x : Json} (h : Clean ly pf x) (xs : List Json) (depth : Nat) :
    Starts (dumpItems ly depth (x :: xs)) := by
  cases xs with
  | nil => exact starts_dump h depth
  | cons y xs =>
    rw [dumpItems, List.append_assoc]
    exact (starts_dump h depth).append _

theorem dumpEntries_head (ly : Layout) (depth : Nat) (e : PyStr × Json) (kvs : List (PyStr × Json)) :
    ∃ l, dumpEntries ly depth (e :: kvs) = '\x22' :: l := by
  cases kvs with
  | nil => exact ⟨_, rfl⟩
  | cons e' kvs => exact ⟨_, rfl⟩

/-- One entry of an object, before what stands behind it. -/
theorem scanMembers_entry {k : PyStr} {v : Json} (hk : Reads ly k) (hclean : Clean ly pf v)
    {depth n : Nat} {t : List Char}
    (hv : scanValue pf n (dump ly depth v ++ t) = some (v, t)) :
    scanMembers pf (n + 1) (dumpStr ly k ++ ':' :: ' ' :: (dump ly depth v ++ t)) =
      match skipWs t with
      | '\x7d' :: r => some ([(k, v)], r)
      | ',' :: r => (scanMembers pf n (skipWs r)).map (fun es => ((k, v) :: es.1, es.2))
      | _ => none := by
  obtain ⟨u, hu, hjoin⟩ := hk (':' :: ' ' :: (dump ly depth v ++ t))
  have hblank := skipWs_append (w := [' ']) (by decide) (dump ly depth v ++ t)
  rw [List.singleton_append, ((starts_dump hclean depth).append t).skipWs] at hblank
  rw [dumpStr, List.cons_append, List.cons_append, List.append_assoc, List.singleton_append, scanMembers]
  simp only [hu, Option.bind_eq_bind, Option.bind_some,
    skipWs_cons (show isWhitespace ':' = false by decide), hblank, hv, hjoin]
  generalize skipWs t = after
  split
  · rfl
  · simp only [Option.map_eq_bind]
    rfl
  · simp only

mutual

/-- A value is read to the end of its text. -/
theorem scanValue_dump : ∀ (v : Json) (depth n : Nat) (r : List Char), Clean ly pf v → Ends r →
    (dump ly depth v).length ≤ n → scanValue pf n (dump ly depth v ++ r) = some (v, r)
  | v, depth, 0, r, hv, _, hn => by
    have := (starts_dump hv depth).length
    omega
  | .null, depth, n + 1, r, _, _, _ => rfl
  | .bool true, depth, n + 1, r, _, _, _ => rfl
  | .bool false, depth, n + 1, r, _, _, _ => rfl
  | .int i, depth, n + 1, r, _, hr, _ => scanValue_number (scanNumber_int pf i) hr n
  | .float x, depth, n + 1, r, hv, hr, _ => scanValue_float hv hr n
  | .str s, depth, n + 1, r, hv, _, _ => scanValue_str hv r n
  | .arr [], depth, n + 1, r, _, _, _ => rfl
  | .obj [], depth, n + 1, r, _, _, _ => rfl
  | .arr (x :: xs), depth, n + 1, r, hv, hr, hn => by
    rw [dump] at hn ⊢
    simp only [List.cons_append, List.length_cons, List.length_append, List.length_nil,
      List.append_assoc, List.nil_append] at hn ⊢
    have hitems := scanItems_dump (x :: xs) (depth + 1) n (ly.newline depth) r (List.cons_ne_nil _ _)
      hv (newline_blank ly depth) (by omega)
    have hstart := (starts_dumpItems hv.1 xs (depth + 1)).append (ly.newline depth ++ ']' :: r)
    obtain ⟨c, l, hhead, -, hc⟩ := hstart
    rw [scanValue]
    simp only [skipWs_append (newline_blank ly (depth + 1)),
      ((starts_dumpItems hv.1 xs (depth + 1)).append (ly.newline depth ++ ']' :: r)).skipWs, hitems]
    rw [hhead, List.head?_cons, if_neg fun h => hc (Option.some.inj h)]
    rfl
  | .obj (e :: kvs), depth, n + 1, r, hv, hr, hn => by
    rw [dump] at hn ⊢
    simp only [List.cons_append, List.length_cons, List.length_append, List.length_nil,
      List.append_assoc, List.nil_append] at hn ⊢
    have hmembers := scanMembers_dump (e :: kvs) (depth + 1) n (ly.newline depth) r
      (List.cons_ne_nil _ _) hv.2 (newline_blank ly depth) (by omega)
    obtain ⟨l, hhead⟩ := dumpEntries_head ly (depth + 1) e kvs
    rw [hhead] at hmembers ⊢
    rw [List.cons_append] at hmembers ⊢
    rw [scanValue]
    simp only [skipWs_append (newline_blank ly (depth + 1)),
      skipWs_cons (show isWhitespace '\x22' = false by decide), hmembers, List.head?_cons]
    rw [if_neg (by decide), Option.map_some, OrdMap.ofPairs_nodup hv.1]

theorem scanItems_dump : ∀ (xs : List Json) (depth n : Nat) (w r : List Char), xs ≠ [] →
    CleanItems ly pf xs → (∀ c ∈ w, isWhitespace c = true) →
    (dumpItems ly depth xs).length + 1 ≤ n →
    scanItems pf n (dumpItems ly depth xs ++ (w ++ ']' :: r)) = some (xs, r)
  | [], depth, n, w, r, hne, _, _, _ => absurd rfl hne
  | x :: xs, depth, 0, w, r, _, _, _, hn => by omega
  | [x], depth, n + 1, w, r, _, hxs, hw, hn => by
    rw [dumpItems] at hn ⊢
    have hx := scanValue_dump x depth n (w ++ ']' :: r) hxs.1
      (ends_blank hw (ends_cons (by decide) r)) (by omega)
    rw [scanItems, hx]
    simp only [Option.bind_eq_bind, Option.bind_some, skipWs_append hw,
      skipWs_cons (show isWhitespace ']' = false by decide)]
  | x :: y :: xs, depth, n + 1, w, r, _, hxs, hw, hn => by
    rw [dumpItems] at hn ⊢
    simp only [List.cons_append, List.length_cons, List.length_append, List.append_assoc] at hn ⊢
    have hpos := (starts_dump hxs.1 depth).length
    have hrest := scanItems_dump (y :: xs) depth n w r (List.cons_ne_nil _ _) hxs.2 hw (by omega)
    have hx := scanValue_dump x depth n
      (',' :: (ly.gap depth ++ (dumpItems ly depth (y :: xs) ++ (w ++ ']' :: r)))) hxs.1
      (ends_cons (by decide) _) (by omega)
    rw [scanItems, hx]
    simp only [Option.bind_eq_bind, Option.bind_some, skipWs_append (gap_blank ly depth),
      skipWs_cons (show isWhitespace ',' = false by decide),
      ((starts_dumpItems hxs.2.1 xs depth).append (w ++ ']' :: r)).skipWs, hrest]

theorem scanMembers_dump : ∀ (kvs : List (PyStr × Json)) (depth n : Nat) (w r : List Char), kvs ≠ [] →
    CleanEntries ly pf kvs → (∀ c ∈ w, isWhitespace c = true) →
    (dumpEntries ly depth kvs).length + 1 ≤ n →
    scanMembers pf n (dumpEntries ly depth kvs ++ (w ++ '\x7d' :: r)) = some (kvs, r)
  | [], depth, n, w, r, hne, _, _, _ => absurd rfl hne
  | e :: kvs, depth, 0, w, r, _, _, _, hn => by omega
  | [(k, v)], depth, n + 1, w, r, _, hkvs, hw, hn => by
    rw [dumpEntries] at hn ⊢
    simp only [dumpStr, List.length_cons, List.length_append] at hn
    have hv := scanValue_dump v depth n (w ++ '\x7d' :: r) hkvs.2.1
      (ends_blank hw (ends_cons (by decide) r)) (by omega)
    have hentry := scanMembers_entry hkvs.1 hkvs.2.1 hv
    rw [skipWs_append hw, skipWs_cons (by decide)] at hentry
    rw [List.append_assoc, List.cons_append, List.cons_append]
    exact hentry
  | (k, v) :: e :: kvs, depth, n + 1, w, r, _, hkvs, hw, hn => by
    rw [dumpEntries] at hn ⊢
    simp only [dumpStr, List.cons_append, List.length_cons, List.length_append] at hn
    have hrest := scanMembers_dump (e :: kvs) depth n w r (List.cons_ne_nil _ _) hkvs.2.2 hw (by omega)
    have hv := scanValue_dump v depth n
      (',' :: (ly.gap depth ++ (dumpEntries ly depth (e :: kvs) ++ (w ++ '\x7d' :: r)))) hkvs.2.1
      (ends_cons (by decide) _) (by omega)
    have hentry := scanMembers_entry hkvs.1 hkvs.2.1 hv
    have hnext : skipWs (dumpEntries ly depth (e :: kvs) ++ (w ++ '\x7d' :: r)) =
        dumpEntries ly depth (e :: kvs) ++ (w ++ '\x7d' :: r) := by
      obtain ⟨l, hl⟩ := dumpEntries_head ly depth e kvs
      rw [hl]
      exact skipWs_cons (by decide) _
    rw [skipWs_cons (by decide)] at hentry
    simp only [skipWs_append (gap_blank ly depth), hnext, hrest, Option.map_some] at hentry
    simp only [List.append_assoc, List.cons_append]
    exact hentry

end

/-- **What is written is read back.** -/
theorem loads_dump {v : Json} (h : Clean ly pf v) : loads pf (dump ly 0 v) = some v := by
  have hscan := scanValue_dump v 0 ((dump ly 0 v).length + 1) [] h ends_nil (Nat.le_succ _)
  rw [List.append_nil] at hscan
  unfold loads
  rw [(starts_dump h 0).skipWs, hscan]
  rfl

/-! ## What was read is clean -/

theorem clean_literal {s r : List Char} {v : Json} (h : scanLiteral s = some (v, r)) :
    Clean .wire pf v := by
  unfold scanLiteral at h
  simp only [Option.or_eq_some_iff, Option.map_eq_some_iff, Prod.mk.injEq] at h
  rcases h with ⟨_, _, rfl, _⟩ | ⟨_, ⟨_, _, rfl, _⟩ | ⟨_, ⟨_, _, rfl, _⟩ | ⟨_, h⟩⟩⟩
  · exact trivial
  · exact trivial
  · exact trivial
  · rcases h with ⟨_, _, rfl, _⟩ | ⟨_, ⟨_, _, rfl, _⟩ | ⟨_, _, _, rfl, _⟩⟩
    · exact (rfl : PyFloat.nan = PyFloat.nan)
    · exact (rfl : PyFloat.inf = PyFloat.inf)
    · exact (rfl : PyFloat.negInf = PyFloat.negInf)

theorem clean_number (hpf : ∀ l, Prints pf (pf l)) {s r : List Char} {v : Json}
    (h : scanNumber pf s = some (v, r)) :
    Clean .wire pf v := by
  unfold scanNumber at h
  obtain ⟨⟨minus, ds, t⟩, -, h⟩ := Option.bind_eq_some_iff.mp h
  dsimp only at h
  split at h
  · cases h
    exact trivial
  · cases h
    exact hpf _

mutual

theorem clean_scanValue (hpf : ∀ l, Prints pf (pf l)) : ∀ (n : Nat) {s r : List Char} {v : Json},
    scanValue pf n s = some (v, r) → Clean .wire pf v
  | 0, _, _, _, h => by rw [scanValue] at h; cases h
  | n + 1, s, r, v, h => by
    unfold scanValue at h
    split at h
    · obtain ⟨k, -, hv⟩ := Option.map_eq_some_iff.mp h
      cases hv
      exact reads_wire (joined_joinSurrogates k.1)
    · split at h
      · cases h
        exact ⟨List.nodup_nil, trivial⟩
      · obtain ⟨es, hes, hv⟩ := Option.map_eq_some_iff.mp h
        cases hv
        have hclean := cleanEntries_iff.mp (clean_scanMembers hpf n hes)
        obtain ⟨hnodup, hmem⟩ := OrdMap.ofPairs_spec es.1
        exact ⟨hnodup, cleanEntries_iff.mpr fun e he => hclean e (hmem e he)⟩
    · split at h
      · cases h
        exact trivial
      · obtain ⟨es, hes, hv⟩ := Option.map_eq_some_iff.mp h
        cases hv
        exact clean_scanItems hpf n hes
    · rcases Option.or_eq_some_iff.mp h with h | ⟨-, h⟩
      · exact clean_literal h
      · exact clean_number hpf h

theorem clean_scanMembers (hpf : ∀ l, Prints pf (pf l)) : ∀ (n : Nat) {s : List Char}
    {es : List (PyStr × Json) × List Char},
    scanMembers pf n s = some es → CleanEntries .wire pf es.1
  | 0, _, _, h => by rw [scanMembers] at h; cases h
  | n + 1, s, es, h => by
    unfold scanMembers at h
    split at h
    · obtain ⟨k, -, h⟩ := Option.bind_eq_some_iff.mp h
      have hk := reads_wire (joined_joinSurrogates k.1)
      split at h
      · obtain ⟨v, hv, h⟩ := Option.bind_eq_some_iff.mp h
        have hclean := clean_scanValue hpf n hv
        split at h
        · cases h
          exact ⟨hk, hclean, trivial⟩
        · obtain ⟨rest, hrest, h⟩ := Option.bind_eq_some_iff.mp h
          cases h
          exact ⟨hk, hclean, clean_scanMembers hpf n hrest⟩
        · cases h
      · cases h
    · cases h

theorem clean_scanItems (hpf : ∀ l, Prints pf (pf l)) : ∀ (n : Nat) {s : List Char}
    {es : List Json × List Char},
    scanItems pf n s = some es → CleanItems .wire pf es.1
  | 0, _, _, h => by rw [scanItems] at h; cases h
  | n + 1, s, es, h => by
    rw [scanItems] at h
    obtain ⟨v, hv, h⟩ := Option.bind_eq_some_iff.mp h
    have hclean := clean_scanValue hpf n hv
    split at h
    · cases h
      exact ⟨hclean, trivial⟩
    · obtain ⟨rest, hrest, h⟩ := Option.bind_eq_some_iff.mp h
      cases h
      exact ⟨hclean, clean_scanItems hpf n hrest⟩
    · cases h

end

/-- What was read can be written and read again. -/
theorem loads_clean (hpf : ∀ l, Prints pf (pf l)) {s : List Char} {v : Json}
    (h : loads pf s = some v) : Clean .wire pf v := by
  unfold loads at h
  split at h
  · rename_i hscan
    split at h
    · cases h
      exact clean_scanValue hpf _ hscan
    · cases h
  · cases h

/-- Some text stands for the value. -/
def HasText (pf : List Char → PyFloat) (v : Json) : Prop := ∃ s, loads pf s = some v

/-- **The clean values are those that have a text.** -/
theorem hasText_eq (hpf : ∀ l, Prints pf (pf l)) : HasText pf = Clean .wire pf := by
  funext v
  exact propext ⟨fun ⟨_, hs⟩ => loads_clean hpf hs, fun h => ⟨dump .wire 0 v, loads_dump h⟩⟩

/-! ## Values for a file -/

mutual

/-- Every string has an encoding, so that the text can be written to a file as it is. -/
def encodable : Json → Bool
  | .str s => (Utf8.encode s).isSome
  | .arr xs => encodableItems xs
  | .obj kvs => encodableEntries kvs
  | _ => true

def encodableItems : List Json → Bool
  | [] => true
  | x :: xs => encodable x && encodableItems xs

def encodableEntries : List (PyStr × Json) → Bool
  | [] => true
  | (k, v) :: kvs => (Utf8.encode k).isSome && encodable v && encodableEntries kvs

end

theorem reads_encodable {s : PyStr} (h : (Utf8.encode s).isSome = true) : Reads .file s := by
  obtain ⟨x, hx⟩ := Option.isSome_iff_exists.mp h
  obtain ⟨l, rfl, -⟩ := Utf8.encode_eq_some hx
  exact reads_file l

mutual

/-- Without lone surrogates, a value that has a text has one with its characters as they are. -/
theorem clean_file : ∀ v : Json, Clean .wire pf v → encodable v = true → Clean .file pf v
  | .null, _, _ => trivial
  | .bool _, _, _ => trivial
  | .int _, _, _ => trivial
  | .float _, h, _ => h
  | .str _, _, he => reads_encodable he
  | .arr xs, h, he => cleanItems_file xs h he
  | .obj kvs, h, he => ⟨h.1, cleanEntries_file kvs h.2 he⟩

theorem cleanItems_file : ∀ xs : List Json, CleanItems .wire pf xs → encodableItems xs = true →
    CleanItems .file pf xs
  | [], _, _ => trivial
  | x :: xs, h, he => by
    rw [encodableItems, Bool.and_eq_true] at he
    exact ⟨clean_file x h.1 he.1, cleanItems_file xs h.2 he.2⟩

theorem cleanEntries_file : ∀ kvs : List (PyStr × Json), CleanEntries .wire pf kvs →
    encodableEntries kvs = true → CleanEntries .file pf kvs
  | [], _, _ => trivial
  | (k, v) :: kvs, h, he => by
    rw [encodableEntries, Bool.and_eq_true, Bool.and_eq_true] at he
    exact ⟨reads_encodable he.1.1, clean_file v h.2.1 he.1.2, cleanEntries_file kvs h.2.2 he.2⟩

end

/-! ## Clean values from clean values -/

theorem reads_wire_iff {s : PyStr} : Reads .wire s ↔ Joined s := by
  constructor
  · intro h
    obtain ⟨u, -, hu⟩ := h []
    rw [← hu]
    exact joined_joinSurrogates u
  · exact reads_wire

theorem joined_ofChars_append (l : List Char) {s : PyStr} (h : Joined s) : Joined (ofChars l ++ s) := by
  induction l with
  | nil => exact h
  | cons c l ih =>
    have hcons : joinSurrogates (ofChars (c :: l) ++ s) =
        .uni c :: joinSurrogates (ofChars l ++ s) := rfl
    rw [Joined, hcons, ih]
    rfl

theorem joined_ofChars (l : List Char) : Joined (ofChars l) := joinSurrogates_ofChars l

theorem Joined.prefix {a b : PyStr} (h : Joined (a ++ b)) : Joined a := by
  induction a with
  | nil => rfl
  | cons c a ih =>
    have ha := ih h.tail
    have hab : joinOne c (a ++ b) = c :: (a ++ b) := by
      have htail : joinSurrogates (a ++ b) = a ++ b := h.tail
      rw [Joined, List.cons_append, joinSurrogates_cons, htail] at h
      exact h
    rw [Joined, joinSurrogates_cons, ha]
    rcases a with _ | ⟨d, a⟩
    · cases c <;> rfl
    · cases c with
      | uni c => rfl
      | surrogate m =>
        cases d with
        | uni d => rfl
        | surrogate l =>
          by_cases hpair : m.val < 1024 ∧ 1024 ≤ l.val
          · cases (if_pos hpair).symm.trans hab
          · exact if_neg hpair

theorem clean_null : Clean ly pf .null := trivial

theorem clean_int (n : Int) : Clean ly pf (.int n) := trivial

theorem clean_str {s : PyStr} (h : Joined s) : Clean .wire pf (.str s) := reads_wire h

theorem clean_lit (s : String) : Clean .wire pf (.lit s) := clean_str (joined_ofChars s.toList)

theorem joined_pyStr (U : Unicode) {v : Json} (h : Clean .wire pf v) : Joined (v.pyStr U) := by
  cases v with
  | str s => exact reads_wire_iff.mp h
  | _ => exact joined_ofChars _

/-- A dict is clean when its keys are distinct names and its values are clean. -/
theorem clean_obj {d : Dict} (names : List String) (hkeys : d.map Prod.fst = names.map py)
    (hnodup : names.Nodup) (h : ∀ e ∈ d, Clean .wire pf e.2) : Clean .wire pf (.obj d) := by
  refine ⟨?_, cleanEntries_iff.mpr fun e he => ⟨?_, h e he⟩⟩
  · rw [hkeys]
    exact hnodup.map fun _ _ hab => py_inj.mp hab
  · have hmem : e.1 ∈ d.map Prod.fst := List.mem_map_of_mem he
    rw [hkeys] at hmem
    obtain ⟨name, -, hname⟩ := List.mem_map.mp hmem
    rw [← hname]
    exact reads_wire (joined_ofChars name.toList)

section

variable {d : Dict} (h : Clean ly pf (.obj d))

include h

theorem clean_filter (p : PyStr × Json → Bool) : Clean ly pf (.obj (d.filter p)) :=
  ⟨h.1.sublist (List.filter_sublist.map Prod.fst),
    cleanEntries_iff.mpr fun e he => cleanEntries_iff.mp h.2 e (List.mem_of_mem_filter he)⟩

theorem clean_get? {k : String} {v : Json} (hv : get? d k = some v) : Clean ly pf v := by
  obtain ⟨l₁, l₂, rfl, -⟩ := List.lookup_eq_some_iff.mp hv
  exact (cleanEntries_iff.mp h.2 _ (List.mem_append_right l₁ List.mem_cons_self)).2

theorem clean_getD (k : String) {dflt : Json} (hdflt : Clean ly pf dflt) :
    Clean ly pf (getD d k dflt) := by
  unfold getD
  cases hv : get? d k with
  | none => exact hdflt
  | some v => exact clean_get? h hv

theorem clean_item {k : String} {v : Json} (hv : item d k = .ok v) : Clean ly pf v :=
  clean_get? h (item_ok_iff.mp hv)

theorem clean_set {k : String} {v : Json} (hk : Reads ly (py k)) (hv : Clean ly pf v) :
    Clean ly pf (.obj (OrdMap.set d (py k) v)) := by
  refine ⟨OrdMap.nodup_set h.1 _ _, cleanEntries_iff.mpr fun e he => ?_⟩
  rcases OrdMap.mem_of_mem_set he with he | rfl
  · exact cleanEntries_iff.mp h.2 e he
  · exact ⟨hk, hv⟩

end

section

variable {v : Json} (h : Clean .wire pf v)

include h

theorem clean_iter {xs : List Json} (hxs : v.iter = .ok xs) : ∀ x ∈ xs, Clean .wire pf x := by
  intro x hx
  cases v with
  | arr ys =>
    cases hxs
    exact cleanItems_iff.mp h x hx
  | str s =>
    cases hxs
    obtain ⟨c, -, rfl⟩ := List.mem_map.mp hx
    refine clean_str ?_
    cases c <;> rfl
  | obj d =>
    cases hxs
    obtain ⟨e, he, rfl⟩ := List.mem_map.mp hx
    exact (cleanEntries_iff.mp h.2 e he).1
  | _ => cases hxs

theorem clean_subscript {k : String} {x : Json} (hx : v.subscript k = .ok x) : Clean .wire pf x := by
  cases v with
  | obj d => exact clean_item h hx
  | _ => cases hx

theorem clean_asDict {d : Dict} (hd : v.asDict = .ok d) : Clean .wire pf (.obj d) := by
  cases v with
  | obj d' =>
    cases hd
    exact h
  | _ => cases hd

theorem clean_takeFirst {n : Nat} {x : Json} (hx : v.takeFirst n = .ok x) : Clean .wire pf x := by
  cases v with
  | str s =>
    cases hx
    have hs : Joined (s.take n ++ s.drop n) := by
      rw [List.take_append_drop]
      exact reads_wire_iff.mp h
    exact clean_str hs.prefix
  | arr xs =>
    cases hx
    exact cleanItems_iff.mpr fun x hx => cleanItems_iff.mp h x (List.mem_of_mem_take hx)
  | _ => cases hx

theorem clean_orElse {w : Json} (hw : Clean .wire pf w) : Clean .wire pf (v.orElse w) := by
  unfold Json.orElse
  split
  · exact h
  · exact hw

end

end Lib.Python
