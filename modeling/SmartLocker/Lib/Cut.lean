import Mathlib.Algebra.GroupWithZero.Nat
import Mathlib.Data.List.Forall2
import Mathlib.Data.List.SplitLengths

/-!
# Cutting a stream at separators

A reader of a line protocol keeps the unfinished line it has seen so far and receives its input in
pieces of any size.  `feed p r l` is what such a reader does with the next input `l` when `r` is
unfinished: the lines that `l` completes, and the new unfinished rest.

* `feed_append` — reading `a ++ b` is reading `a` and then `b`: how the input was split into pieces
  does not matter;
* `feed_line` — a line without separators, followed by one, is delivered as it stands;
* `split` — the batch function: all pieces, the last one unfinished;
* `words` — the pieces that are not empty;
* `feed_flatMap`, `words_flatMap` — cutting an encoded stream is cutting the stream, when the encoding
  keeps separators apart from the rest;
* `upTo` — what a reader gets through of a list when it stops at a line that fails; `flatMap_upTo_eq`
  says when nothing is lost of lines that come in several lists.
-/

set_option autoImplicit false

namespace Lib.Cut

variable {α : Type*}

/-- The lines completed by `l` after the unfinished line `r`, and the rest. -/
def feed (p : α → Bool) (r : List α) : List α → List (List α) × List α
  | [] => ([], r)
  | a :: l =>
    if p a then (r :: (feed p [] l).1, (feed p [] l).2)
    else feed p (r ++ [a]) l

/-- All pieces between separators; there is always at least one. -/
def split (p : α → Bool) (l : List α) : List (List α) :=
  (feed p [] l).1 ++ [(feed p [] l).2]

variable {p : α → Bool}

theorem feed_sep {a : α} (ha : p a = true) (r l : List α) :
    feed p r (a :: l) = (r :: (feed p [] l).1, (feed p [] l).2) := by
  simp [feed, ha]

theorem feed_other {a : α} (ha : p a = false) (r l : List α) :
    feed p r (a :: l) = feed p (r ++ [a]) l := by
  simp [feed, ha]

theorem feed_append (r a b : List α) :
    feed p r (a ++ b) =
      ((feed p r a).1 ++ (feed p (feed p r a).2 b).1, (feed p (feed p r a).2 b).2) := by
  induction a generalizing r with
  | nil => rfl
  | cons x a ih =>
    cases hx : p x with
    | true => simp only [List.cons_append, feed_sep hx, ih]
    | false => simp only [List.cons_append, feed_other hx, ih]

theorem feed_none {l : List α} (h : ∀ a ∈ l, p a = false) (r : List α) :
    feed p r l = ([], r ++ l) := by
  induction l generalizing r with
  | nil => simp [feed]
  | cons a l ih =>
    have ha : p a = false := h a (by simp)
    rw [feed_other ha, ih (fun b hb => h b (by simp [hb]))]
    simp

/-- A line without separators and the separator that ends it. -/
theorem feed_line {w : List α} (h : ∀ a ∈ w, p a = false) {e : α} (he : p e = true)
    (r l : List α) :
    feed p r (w ++ e :: l) = ((r ++ w) :: (feed p [] l).1, (feed p [] l).2) := by
  rw [feed_append, feed_none h, feed_sep he]
  rfl

theorem feed_rest {r l : List α} (hr : ∀ a ∈ r, p a = false) :
    ∀ a ∈ (feed p r l).2, p a = false := by
  induction l generalizing r with
  | nil => exact hr
  | cons x l ih =>
    cases hx : p x with
    | true => rw [feed_sep hx]; exact ih (by simp)
    | false =>
      rw [feed_other hx]
      refine ih (fun a ha => ?_)
      rcases List.mem_append.mp ha with ha | ha
      · exact hr a ha
      · rw [List.mem_singleton.mp ha]; exact hx

/-- As many lines as separators. -/
theorem length_feed (r l : List α) : (feed p r l).1.length = l.countP p := by
  induction l generalizing r with
  | nil => rfl
  | cons x l ih =>
    cases hx : p x with
    | true => rw [feed_sep hx, List.length_cons, ih, List.countP_cons_of_pos hx]
    | false => rw [feed_other hx, ih, List.countP_cons_of_neg (by simp [hx])]

/-- The streaming reader and the batch function agree: appending the input to the unfinished line
and splitting gives the completed lines and, last, the new unfinished line. -/
theorem split_append {r : List α} (hr : ∀ a ∈ r, p a = false) (l : List α) :
    split p (r ++ l) = (feed p r l).1 ++ [(feed p r l).2] := by
  unfold split
  rw [feed_append, feed_none hr]
  simp

theorem split_none {l : List α} (h : ∀ a ∈ l, p a = false) : split p l = [l] := by
  simp [split, feed_none h]

/-- Splitting off the first piece. -/
theorem split_line {w : List α} (h : ∀ a ∈ w, p a = false) {e : α} (he : p e = true)
    (l : List α) : split p (w ++ e :: l) = w :: split p l := by
  simp [split, feed_line h he]

theorem split_append_sep {e : α} (he : p e = true) (a l : List α) :
    split p (a ++ e :: l) = split p a ++ split p l := by
  unfold split
  rw [feed_append, feed_sep he]
  simp

/-- The first piece is what stands before the first separator. -/
theorem split_head (l : List α) : ∃ rest, split p l = l.takeWhile (fun a => !p a) :: rest := by
  have hfeed : ∀ r : List α, ∃ rest, (feed p r l).1 ++ [(feed p r l).2] =
      (r ++ l.takeWhile (fun a => !p a)) :: rest := by
    induction l with
    | nil => exact fun r => ⟨[], by simp [feed]⟩
    | cons x l ih =>
      intro r
      cases hx : p x with
      | true => exact ⟨_, by simp [feed_sep hx, hx]; rfl⟩
      | false =>
        obtain ⟨rest, hrest⟩ := ih (r ++ [x])
        exact ⟨rest, by simpa [feed_other hx, hx] using hrest⟩
  exact hfeed []

/-! ## Encoded streams -/

/-- Cutting commutes with an encoding that sends separators, and nothing else, to separators. -/
theorem feed_flatMap {β : Type*} {q : β → Bool} {f : α → List β}
    (hsep : ∀ a, p a = true → ∃ b, f a = [b] ∧ q b = true)
    (hfree : ∀ a, p a = false → ∀ b ∈ f a, q b = false) (r l : List α) :
    feed q (r.flatMap f) (l.flatMap f) =
      ((feed p r l).1.map (fun w => w.flatMap f), (feed p r l).2.flatMap f) := by
  induction l generalizing r with
  | nil => rfl
  | cons x l ih =>
    rw [List.flatMap_cons]
    cases hx : p x with
    | true =>
      obtain ⟨b, hb, hq⟩ := hsep x hx
      have hrest := ih []
      rw [List.flatMap_nil] at hrest
      rw [hb, List.singleton_append, feed_sep hq, feed_sep hx, hrest]
      rfl
    | false =>
      have hrest := ih (r ++ [x])
      rw [List.flatMap_append, List.flatMap_singleton] at hrest
      rw [feed_append, feed_none (hfree x hx), feed_other hx, ← hrest]
      rfl

/-! ## Non-empty pieces -/

/-- The pieces that are not empty. -/
def words (p : α → Bool) (l : List α) : List (List α) := (split p l).filter (fun w => !w.isEmpty)

theorem words_line {w : List α} (hne : w ≠ []) (h : ∀ a ∈ w, p a = false) {e : α}
    (he : p e = true) (l : List α) : words p (w ++ e :: l) = w :: words p l := by
  unfold words
  rw [split_line h he, List.filter_cons, if_pos (by simpa using hne)]

theorem words_sep {e : α} (he : p e = true) (l : List α) : words p (e :: l) = words p l := by
  have h := @split_line _ p [] (by simp) e he l
  unfold words
  rw [List.nil_append] at h
  rw [h]
  rfl

/-- Nothing but separators. -/
theorem words_eq_nil {l : List α} : words p l = [] ↔ ∀ a ∈ l, p a = true := by
  induction l with
  | nil => simp [words, split, feed]
  | cons x l ih =>
    cases hx : p x with
    | true => simp [words_sep hx, hx, ih]
    | false =>
      obtain ⟨rest, hrest⟩ := @split_head _ p (x :: l)
      simp [words, hrest, hx]

theorem words_flatMap {β : Type*} {q : β → Bool} {f : α → List β}
    (hsep : ∀ a, p a = true → ∃ b, f a = [b] ∧ q b = true)
    (hfree : ∀ a, p a = false → ∀ b ∈ f a, q b = false) (hne : ∀ a, f a ≠ []) (l : List α) :
    words q (l.flatMap f) = (words p l).map (fun w => w.flatMap f) := by
  have hsplit : split q (l.flatMap f) = (split p l).map (fun w => w.flatMap f) := by
    have hfeed := feed_flatMap hsep hfree [] l
    rw [List.flatMap_nil] at hfeed
    simp [split, hfeed]
  have hempty : ∀ w : List α, (w.flatMap f).isEmpty = w.isEmpty := by
    intro w
    cases w with
    | nil => rfl
    | cons a w => simp [hne a]
  unfold words
  rw [hsplit, List.filter_map]
  congr 1
  refine List.filter_congr (fun w _ => ?_)
  simp [hempty]

/-! ## Stopping at a line -/

/-- Up to the first element of which `q` holds, that one included. -/
def upTo (q : α → Bool) : List α → List α
  | [] => []
  | a :: l => a :: if q a then [] else upTo q l

variable {q : α → Bool}

theorem length_upTo_le (l : List α) : (upTo q l).length ≤ l.length := by
  induction l with
  | nil => exact Nat.le_refl 0
  | cons a l ih =>
    cases hq : q a with
    | true => simp [upTo, hq]
    | false => simpa [upTo, hq] using ih

/-- Nothing is left out just if `q` holds of the last element at most. -/
theorem upTo_eq_self {l : List α} : upTo q l = l ↔ ∀ a ∈ l.dropLast, q a = false := by
  induction l with
  | nil => simp [upTo]
  | cons a l ih =>
    cases l with
    | nil => simp [upTo]
    | cons b l =>
      rw [List.dropLast_cons_cons, List.forall_mem_cons, ← ih]
      cases hq : q a with
      | true => simp [upTo, hq]
      | false => simp [upTo, hq]

theorem length_flatMap_upTo_le (L : List (List α)) : (L.flatMap (upTo q)).length ≤ L.flatten.length := by
  induction L with
  | nil => exact Nat.le_refl 0
  | cons l L ih =>
    rw [List.flatMap_cons, List.flatten_cons, List.length_append, List.length_append]
    exact Nat.add_le_add (length_upTo_le l) ih

/-- **Nothing is lost** of several lists just if nothing is left out of each. -/
theorem flatMap_upTo_eq {L : List (List α)} :
    L.flatMap (upTo q) = L.flatten ↔ ∀ l ∈ L, ∀ a ∈ l.dropLast, q a = false := by
  induction L with
  | nil => simp
  | cons l L ih =>
    rw [List.flatMap_cons, List.flatten_cons, List.forall_mem_cons, ← ih, ← upTo_eq_self]
    constructor
    · intro h
      have hlength := congrArg List.length h
      rw [List.length_append, List.length_append] at hlength
      have hl := @length_upTo_le _ q l
      have hL := @length_flatMap_upTo_le _ q L
      exact List.append_inj h (by omega)
    · rintro ⟨hl, hL⟩
      rw [hl, hL]

/-- The first element is never left out. -/
theorem head?_flatMap_upTo (L : List (List α)) : (L.flatMap (upTo q)).head? = L.flatten.head? := by
  induction L with
  | nil => rfl
  | cons l L ih =>
    cases l with
    | nil => exact ih
    | cons a l => rfl

/-! ### Lists of known lengths -/

theorem splitLengths_flatten (L : List (List α)) : (L.map List.length).splitLengths L.flatten = L := by
  induction L with
  | nil => rfl
  | cons l L ih =>
    rw [List.map_cons, List.flatten_cons, List.splitLengths_cons, List.take_left, List.drop_left, ih]

theorem map_splitLengths {β : Type*} (f : α → β) (sizes : List Nat) (l : List α) :
    sizes.splitLengths (l.map f) = (sizes.splitLengths l).map (List.map f) := by
  induction sizes generalizing l with
  | nil => rfl
  | cons n sizes ih =>
    rw [List.splitLengths_cons, List.splitLengths_cons, List.map_cons, List.map_take, ← List.map_drop, ih]

/-- Lengths within bounds whose sum is that of the bounds are the bounds. -/
theorem eq_of_le_of_sum_le {a b : List Nat} (h : List.Forall₂ (· ≤ ·) a b) (hsum : b.sum ≤ a.sum) :
    a = b := by
  have hall : a.sum ≤ b.sum ∧ (b.sum ≤ a.sum → a = b) := by
    clear hsum
    induction h with
    | nil => exact ⟨Nat.le_refl 0, fun _ => rfl⟩
    | @cons x y a b hxy _ ih =>
      rw [List.sum_cons, List.sum_cons]
      refine ⟨Nat.add_le_add hxy ih.1, fun hle => ?_⟩
      have hyx : y + b.sum ≤ x + b.sum := hle.trans (Nat.add_le_add_left ih.1 x)
      have hx : x = y := Nat.le_antisymm hxy (Nat.le_of_add_le_add_right hyx)
      subst hx
      rw [ih.2 (Nat.le_of_add_le_add_left hle)]
  exact hall.2 hsum

end Lib.Cut
