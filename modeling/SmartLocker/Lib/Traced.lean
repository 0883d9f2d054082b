import Mathlib.Data.List.Basic

/-!
# Programs with a trace

A sequential program over a state `σ` that leaves a trace of what it did: `Traced σ α`.  Programs are
put together with `seq`, `forEach` and `ite`; a property of programs that `Keeps` states is proved for
the parts and follows for the whole.

* `Keeps I T p` — from a state with `I`, the program `p` ends in a state with `I` and its trace meets
  `T`.  The rules need of `T` that it holds of the empty trace and of two traces in a row (`Chained`).
* `Refines I view g p q` — from a state with `I`, the program `p` does to `view` of the state what `q`
  does, and what `g` sees of its trace is the trace of `q`.
* `Throughout step P s l` — when the trace `l` is replayed from `s`, every state on the way meets `P`.
-/

set_option autoImplicit false

namespace Lib

/-- The next state and what was done. -/
def Traced (σ α : Type) : Type := σ → σ × List α

namespace Traced

variable {σ α ι : Type}

def nop : Traced σ α := fun s => (s, [])

/-- Acts that leave the state. -/
def emit (l : List α) : Traced σ α := fun s => (s, l)

def update (f : σ → σ) : Traced σ α := fun s => (f s, [])

def seq (p q : Traced σ α) : Traced σ α := fun s =>
  ((q (p s).1).1, (p s).2 ++ (q (p s).1).2)

/-- A program that looks at the state first. -/
def look (f : σ → Traced σ α) : Traced σ α := fun s => f s s

def forEach : List ι → (ι → Traced σ α) → Traced σ α
  | [], _ => nop
  | i :: l, f => seq (f i) (forEach l f)

theorem forEach_append (l m : List ι) (f : ι → Traced σ α) :
    forEach (l ++ m) f = seq (forEach l f) (forEach m f) := by
  induction l with
  | nil => rfl
  | cons i l ih =>
    funext s
    simp only [List.cons_append, forEach, ih, seq, List.append_assoc]

theorem forEach_map {κ : Type} (g : κ → ι) (l : List κ) (f : ι → Traced σ α) :
    forEach (l.map g) f = forEach l fun k => f (g k) := by
  induction l with
  | nil => rfl
  | cons k l ih => simp only [List.map_cons, forEach, ih]

/-! ## Rules -/

/-- A property of traces that goes from the parts to the whole. -/
structure Chained (T : List α → Prop) : Prop where
  nil : T []
  append : ∀ {l m : List α}, T l → T m → T (l ++ m)

/-- `p` keeps `I`, and its trace from such a state meets `T`. -/
def Keeps (I : σ → Prop) (T : List α → Prop) (p : Traced σ α) : Prop :=
  ∀ s, I s → I (p s).1 ∧ T (p s).2

variable {I : σ → Prop} {T : List α → Prop} {p q : Traced σ α}

theorem Keeps.nop (hT : Chained T) : Keeps I T (nop : Traced σ α) := fun _ hs => ⟨hs, hT.nil⟩

theorem Keeps.emit {l : List α} (h : T l) : Keeps I T (emit l) := fun _ hs => ⟨hs, h⟩

theorem Keeps.seq (hT : Chained T) (hp : Keeps I T p) (hq : Keeps I T q) : Keeps I T (seq p q) := by
  intro s hs
  obtain ⟨hI, hl⟩ := hp s hs
  obtain ⟨hI', hm⟩ := hq _ hI
  exact ⟨hI', hT.append hl hm⟩

theorem Keeps.ite {c : Prop} [Decidable c] (hp : c → Keeps I T p) (hq : ¬ c → Keeps I T q) :
    Keeps I T (if c then p else q) := by
  split
  · exact hp ‹_›
  · exact hq ‹_›

/-- **The loop rule.** -/
theorem Keeps.forEach (hT : Chained T) {l : List ι} {f : ι → Traced σ α}
    (h : ∀ i ∈ l, Keeps I T (f i)) : Keeps I T (forEach l f) := by
  induction l with
  | nil => exact .nop hT
  | cons i l ih =>
    exact .seq hT (h i List.mem_cons_self) (ih fun j hj => h j (List.mem_cons_of_mem i hj))

theorem Chained.and {T' : List α → Prop} (h : Chained T) (h' : Chained T') :
    Chained (fun l => T l ∧ T' l) :=
  ⟨⟨h.nil, h'.nil⟩, fun hl hm => ⟨h.append hl.1 hm.1, h'.append hl.2 hm.2⟩⟩

/-- A trace that is put together from parts that meet `T`. -/
theorem Chained.flatMap (hT : Chained T) {l : List ι} {f : ι → List α} (h : ∀ i ∈ l, T (f i)) :
    T (l.flatMap f) := by
  induction l with
  | nil => exact hT.nil
  | cons i l ih =>
    rw [List.flatMap_cons]
    exact hT.append (h i List.mem_cons_self) (ih fun j hj => h j (List.mem_cons_of_mem i hj))

/-- Traces that are put together from parts that meet `P`. -/
theorem Chained.parts (f : ι → List α) (P : ι → Prop) :
    Chained (fun l => ∃ parts : List ι, l = parts.flatMap f ∧ ∀ i ∈ parts, P i) where
  nil := ⟨[], rfl, List.forall_mem_nil _⟩
  append := by
    rintro _ _ ⟨p, rfl, hp⟩ ⟨q, rfl, hq⟩
    refine ⟨p ++ q, List.flatMap_append.symm, fun i hi => ?_⟩
    exact (List.mem_append.mp hi).elim (hp i) (hq i)

/-- Acts that all meet `P`. -/
theorem Chained.all (P : α → Prop) : Chained (fun l => ∀ a ∈ l, P a) where
  nil := by simp
  append hl hm := fun a ha => (List.mem_append.mp ha).elim (hl a) (hm a)

/-! ## Views -/

section Refines

variable {τ β : Type} {view : σ → τ} {g : α → Option β} {p' q' : Traced τ β}

@[simp] theorem nop_seq (q : Traced σ α) : seq nop q = q := rfl

@[simp] theorem seq_nop (p : Traced σ α) : seq p nop = p := by
  funext s
  simp only [seq, nop, List.append_nil]

/-- Seen through `view` and `g`, the program `p` is `q`. -/
def Refines (I : σ → Prop) (view : σ → τ) (g : α → Option β) (p : Traced σ α) (q : Traced τ β) : Prop :=
  ∀ s, I s → I (p s).1 ∧ view (p s).1 = (q (view s)).1 ∧ (p s).2.filterMap g = (q (view s)).2

theorem Refines.nop : Refines I view g (nop : Traced σ α) (nop : Traced τ β) :=
  fun _ hs => ⟨hs, rfl, rfl⟩

/-- Acts that `g` does not see. -/
theorem Refines.emit {l : List α} (h : l.filterMap g = []) :
    Refines I view g (emit l : Traced σ α) (Traced.nop : Traced τ β) :=
  fun _ hs => ⟨hs, rfl, h⟩

theorem Refines.seq (hp : Refines I view g p p') (hq : Refines I view g q q') :
    Refines I view g (seq p q) (seq p' q') := by
  intro s hs
  obtain ⟨hI, hview, htrace⟩ := hp s hs
  obtain ⟨hI', hview', htrace'⟩ := hq _ hI
  refine ⟨hI', ?_, ?_⟩
  · rw [hview] at hview'
    exact hview'
  · rw [hview] at htrace'
    simp only [Traced.seq, List.filterMap_append, htrace, htrace']

/-- A part that is not seen. -/
theorem Refines.hidden_seq (hp : Refines I view g p Traced.nop) (hq : Refines I view g q q') :
    Refines I view g (Traced.seq p q) q' := hp.seq hq

theorem Refines.seq_hidden (hp : Refines I view g p p') (hq : Refines I view g q Traced.nop) :
    Refines I view g (Traced.seq p q) p' := by
  have h := hp.seq hq
  rwa [seq_nop] at h

/-- **The loop rule**: turn by turn. -/
theorem Refines.forEach {l : List ι} {f : ι → Traced σ α} {f' : ι → Traced τ β}
    (h : ∀ i ∈ l, Refines I view g (f i) (f' i)) :
    Refines I view g (Traced.forEach l f) (Traced.forEach l f') := by
  induction l with
  | nil => exact .nop
  | cons i l ih => exact (h i List.mem_cons_self).seq (ih fun j hj => h j (List.mem_cons_of_mem i hj))

theorem Refines.forEach_hidden {l : List ι} {f : ι → Traced σ α}
    (h : ∀ i ∈ l, Refines I view g (f i) Traced.nop) :
    Refines I view g (Traced.forEach l f) Traced.nop := by
  induction l with
  | nil => exact .nop
  | cons i l ih =>
    exact (h i List.mem_cons_self).hidden_seq (ih fun j hj => h j (List.mem_cons_of_mem i hj))

/-- **The loop rule for one turn**: of a loop whose other turns are not seen. -/
theorem Refines.forEach_one {l : List ι} {f : ι → Traced σ α} {i : ι} (hl : l.Nodup) (hi : i ∈ l)
    (hone : Refines I view g (f i) q') (h : ∀ j ∈ l, j ≠ i → Refines I view g (f j) Traced.nop) :
    Refines I view g (Traced.forEach l f) q' := by
  induction l with
  | nil => cases hi
  | cons j l ih =>
    obtain ⟨hj, hl⟩ := List.nodup_cons.mp hl
    by_cases hji : j = i
    · subst hji
      refine hone.seq_hidden (.forEach_hidden fun k hk => h k (List.mem_cons_of_mem _ hk) ?_)
      rintro rfl
      exact hj hk
    · have hmem : i ∈ l := (List.mem_cons.mp hi).resolve_left (Ne.symm hji)
      exact (h j List.mem_cons_self hji).hidden_seq
        (ih hl hmem fun k hk => h k (List.mem_cons_of_mem _ hk))

end Refines

end Traced

/-! ## Replaying a trace -/

section Replay

variable {τ α : Type}

/-- `P` at every moment of the trace `l`, replayed from `s`. -/
def Throughout (step : τ → α → τ) (P : τ → Prop) : τ → List α → Prop
  | s, [] => P s
  | s, a :: l => P s ∧ Throughout step P (step s a) l

variable {step : τ → α → τ} {P : τ → Prop}

theorem throughout_append {s : τ} {l m : List α} :
    Throughout step P s (l ++ m) ↔
      Throughout step P s l ∧ Throughout step P (l.foldl step s) m := by
  induction l generalizing s with
  | nil =>
    refine ⟨fun h => ⟨?_, h⟩, And.right⟩
    cases m with
    | nil => exact h
    | cons a m => exact h.1
  | cons a l ih => simp only [List.cons_append, Throughout, ih, and_assoc, List.foldl_cons]

/-- The moments of a trace are its prefixes. -/
theorem throughout_iff {s : τ} {l : List α} :
    Throughout step P s l ↔ ∀ m, m <+: l → P (m.foldl step s) := by
  induction l generalizing s with
  | nil =>
    constructor
    · intro h m hm
      rw [List.prefix_nil.mp hm]
      exact h
    · exact fun h => h [] (List.prefix_refl [])
  | cons a l ih =>
    simp only [Throughout, ih]
    constructor
    · rintro ⟨hs, hl⟩ m hm
      cases m with
      | nil => exact hs
      | cons b m =>
        obtain ⟨rfl, htail⟩ := List.cons_prefix_cons.mp hm
        exact hl m htail
    · intro h
      refine ⟨h [] List.nil_prefix, fun m hm => ?_⟩
      exact h (a :: m) (List.cons_prefix_cons.mpr ⟨rfl, hm⟩)

/-- Traces after which `Q` holds again, with `P` on the way. -/
theorem chained_throughout (step : τ → α → τ) (P Q : τ → Prop) (hQ : ∀ s, Q s → P s) :
    Traced.Chained (fun l => ∀ s, Q s → Throughout step P s l ∧ Q (l.foldl step s)) where
  nil := fun s hs => ⟨hQ s hs, hs⟩
  append := by
    intro l m hl hm s hs
    obtain ⟨hP, hQs⟩ := hl s hs
    obtain ⟨hP', hQs'⟩ := hm _ hQs
    exact ⟨throughout_append.mpr ⟨hP, hP'⟩, by rwa [List.foldl_append]⟩

end Replay

end Lib
