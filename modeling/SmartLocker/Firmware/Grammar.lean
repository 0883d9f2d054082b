import SmartLocker.Firmware.Receive

/-!
# The command grammar and what the firmware accepts

The sketch documents a command as `S{id}:{cmd}`, with `cmd` an action letter and a slot numeral.
What opens a lock is wider: `atoi` takes any text that starts with a number (and `0` for text that
starts with none), wraps at 16 bits, and looks at the first 31 characters only.

* `Grammatical` — the documented form of an open or test of slot `k`;
* `Loose` — a reading of the buffer that the firmware accepts for one;
* `energises_iff` — it energises a lock exactly on the loose readings;
* `command_grammar` — no ungrammatical line opens a lock exactly when every loose reading of the
  line is a grammatical one.
-/

set_option autoImplicit false

namespace SmartLocker.Firmware

open Lib.Decimal

/-- `d` is a run of digits with value `n`. -/
structure IsNumeral (d : List Char) (n : Int) : Prop where
  ne_nil : d ≠ []
  digits : ∀ c ∈ d, c.isDigit = true
  value : (Nat.ofDigitChars 10 d 0 : Int) = n

/-- The line, after its leading white space, is `S<id>:O<k>` or `S<id>:T<k>`. -/
def Grammatical (b : Board) (line : List Char) (k : Nat) : Prop :=
  ∃ x a y, line.dropWhile isspace = 'S' :: x ++ ':' :: a :: y ∧ (a = 'O' ∨ a = 'T') ∧
    IsNumeral x b.SLAVE_ID ∧ IsNumeral y k ∧ (k : Int) < b.NUM_SLOTS

/-- The part of a line that `processCommand` looks at. -/
def seen (line : List Char) : List Char := cstr (clip line)

/-- `x`, `a`, `y` read the text as an open or a test of this board's slot `atoi y`. -/
structure Loose (b : Board) (text x : List Char) (a : Char) (y : List Char) : Prop where
  shape : text = 'S' :: x ++ ':' :: a :: y
  colon : ':' ∉ x
  id : atoi x = b.SLAVE_ID
  action : a = 'T' ∨ a = 'O'
  slot : y ≠ [] ∧ 0 ≤ atoi y ∧ atoi y < b.NUM_SLOTS

/-! ## Reading -/

theorem takeWhile_stop {α : Type*} {p : α → Bool} {c : α} (hc : p c = false) (x r : List α) :
    (x ++ c :: r).takeWhile p = x.takeWhile p := by
  induction x with
  | nil => simp [hc]
  | cons d x ih =>
    cases hd : p d with
    | true => simp [hd, ih]
    | false => simp [hd]

theorem dropWhile_stop {α : Type*} {p : α → Bool} {c : α} (hc : p c = false) (x r : List α) :
    (x ++ c :: r).dropWhile p = x.dropWhile p ++ c :: r := by
  induction x with
  | nil => simp [hc]
  | cons d x ih =>
    cases hd : p d with
    | true => simp [hd, ih]
    | false => simp [hd]

theorem digitsValue_colon (x r : List Char) : digitsValue (x ++ ':' :: r) = digitsValue x := by
  unfold digitsValue
  rw [takeWhile_stop (by decide)]

/-- `atoi` does not look past a colon. -/
theorem atoi_colon (x r : List Char) : atoi (x ++ ':' :: r) = atoi x := by
  unfold atoi
  rw [dropWhile_stop (by decide)]
  match x.dropWhile isspace with
  | [] =>
    have h := digitsValue_colon [] r
    simp only [List.nil_append] at h ⊢
    split
    · rename_i heq; simp at heq
    · rename_i heq; simp at heq
    · rw [h]
  | c :: d =>
    simp only [List.cons_append]
    have h := digitsValue_colon (c :: d) r
    by_cases hm : c = '-'
    · subst hm; simp only [digitsValue_colon]
    · by_cases hp : c = '+'
      · subst hp; simp only [digitsValue_colon]
      · split
        · rename_i heq; exact absurd (List.cons.inj heq).1 hm
        · rename_i heq; exact absurd (List.cons.inj heq).1 hp
        · split
          · rename_i heq; exact absurd (List.cons.inj heq).1 hm
          · rename_i heq; exact absurd (List.cons.inj heq).1 hp
          · rw [← List.cons_append, h]

theorem strchr_split {s : List Char} {c : Char} :
    strchr s c = [] ∨ ∃ x r, s = x ++ c :: r ∧ c ∉ x ∧ strchr s c = c :: r := by
  induction s with
  | nil => exact Or.inl rfl
  | cons d s ih =>
    by_cases hd : d = c
    · exact Or.inr ⟨[], s, by simp [hd], by simp, by simp [strchr, hd]⟩
    · have hs : strchr (d :: s) c = strchr s c := by simp [strchr, hd]
      rcases ih with h | ⟨x, r, rfl, hx, hr⟩
      · exact Or.inl (by rw [hs, h])
      · exact Or.inr ⟨d :: x, r, rfl, by simp [hx, Ne.symm hd], by rw [hs, hr]⟩

theorem strchr_append {x : List Char} {c : Char} (hx : c ∉ x) (r : List Char) :
    strchr (x ++ c :: r) c = c :: r := by
  induction x with
  | nil => simp [strchr]
  | cons d x ih =>
    simp only [List.mem_cons, not_or] at hx
    have hs : strchr (d :: (x ++ c :: r)) c = strchr (x ++ c :: r) c := by
      simp [strchr, Ne.symm hx.1]
    rw [List.cons_append, hs, ih hx.2]

/-- The buffer never starts with white space. -/
theorem dropWhile_seen (line : List Char) : (seen line).dropWhile isspace = seen line := by
  unfold seen clip cstr
  cases hd : line.dropWhile isspace with
  | nil => rfl
  | cons c r =>
    have hc : isspace c = false := by
      have := List.head?_dropWhile_not (p := isspace) line
      rw [hd] at this
      simpa using this
    simp only [List.take_succ_cons, List.takeWhile_cons]
    split <;> simp [hc]

/-- **The readings the firmware accepts.** -/
theorem readRequest_loose {b : Board} {line : List Char} {a : Char} {k : Int}
    (ha : a = 'T' ∨ a = 'O') (hk : 0 ≤ k ∧ k < b.NUM_SLOTS) :
    readRequest b.SLAVE_ID (clip line) = some (.slotAction a k) ↔
      ∃ x y, Loose b (seen line) x a y ∧ atoi y = k := by
  have hseen := dropWhile_seen line
  unfold seen at hseen ⊢
  unfold readRequest
  rw [hseen]
  constructor
  · intro h
    split at h
    · rename_i r hr
      rcases strchr_split (s := r) (c := ':') with hnone | ⟨x, rest, rfl, hx, hchr⟩
      · simp [hnone] at h
      · rw [hchr, atoi_colon] at h
        simp only at h
        split at h
        · cases h
        · rename_i hid
          split at h
          · cases h
          · split at h
            · rename_i _ a' c n _
              simp only [Option.some.injEq, Request.slotAction.injEq] at h
              obtain ⟨rfl, rfl⟩ := h
              exact ⟨x, c :: n, ⟨hr, hx, not_not.mp hid, ha, by simp, hk.1, hk.2⟩, rfl⟩
            · cases h
    · cases h
  · rintro ⟨x, y, hl, rfl⟩
    obtain ⟨c, n, rfl⟩ : ∃ (c : Char) (n : List Char), y = c :: n := by
      cases y with
      | nil => exact absurd rfl hl.slot.1
      | cons c n => exact ⟨c, n, rfl⟩
    rw [hl.shape]
    have hping : a :: c :: n ≠ "PING".toList := by
      rcases ha with rfl | rfl <;> simp
    simp only [List.cons_append, strchr_append hl.colon, atoi_colon, hl.id, ne_eq,
      not_true_eq_false, ↓reduceIte, if_neg hping]

/-- **A command energises lock `k` exactly when the buffer has a loose reading for it.** -/
theorem energises_iff (b : Board) (w : Readings) (line : List Char) (k : Nat) :
    Energises b (processCommand b w (clip line)) k ↔
      ∃ x a y, Loose b (seen line) x a y ∧ atoi y = k := by
  rw [processCommand_eq]
  constructor
  · intro h
    split at h
    · rename_i r hr
      obtain ⟨a, rfl, ha, hk⟩ := (execute_pulses b w r k).mp h
      obtain ⟨x, y, hl, hy⟩ := (readRequest_loose ha ⟨by omega, hk⟩).mp hr
      exact ⟨x, a, y, hl, hy⟩
    · obtain ⟨pin, _, hmem⟩ := h
      cases hmem
  · rintro ⟨x, a, y, hl, hy⟩
    have hk : (k : Int) < b.NUM_SLOTS := hy ▸ hl.slot.2.2
    rw [(readRequest_loose hl.action ⟨by omega, hk⟩).mpr ⟨x, y, hl, hy⟩]
    exact (execute_pulses b w _ k).mpr ⟨a, rfl, hl.action, hk⟩

/-! ## Grammar -/

/-- Every loose reading of the line is the grammatical one: the id and the slot are nothing but
numerals, of the values read, also past the end of the buffer. -/
def ReadsStrictly (b : Board) (line : List Char) : Prop :=
  ∀ x a y, Loose b (seen line) x a y →
    IsNumeral x b.SLAVE_ID ∧
      ∃ z, line.dropWhile isspace = seen line ++ z ∧ IsNumeral (y ++ z) (atoi y)

theorem append_colon_inj {x x' r r' : List Char} (hx : ':' ∉ x) (hx' : ':' ∉ x')
    (h : x ++ ':' :: r = x' ++ ':' :: r') : x = x' ∧ r = r' := by
  have hc := strchr_append hx r
  rw [h, strchr_append hx' r'] at hc
  have hr : r = r' := (List.cons.inj hc).2.symm
  subst hr
  exact ⟨List.append_cancel_right h, rfl⟩

theorem seen_append (line : List Char) : ∃ z, line.dropWhile isspace = seen line ++ z := by
  obtain ⟨z, hz⟩ := List.takeWhile_prefix (l := clip line) (· != '\x00')
  obtain ⟨u, hu⟩ := List.take_prefix 31 (line.dropWhile isspace)
  exact ⟨z ++ u, by rw [← List.append_assoc, seen, cstr, hz, clip, hu]⟩

theorem IsNumeral.no_colon {d : List Char} {n : Int} (h : IsNumeral d n) : ':' ∉ d := by
  intro hm
  have := h.digits _ hm
  revert this; decide

/-- **Exactly when only grammatical lines open a lock**: one line received without a pause, whatever
its bytes and its length. -/
theorem command_grammar (b : Board) (st : LoopState) (body : List Rx) (e : Rx)
    (hst : st.cmdBuffer = []) (hg : NoGap (body ++ [e]))
    (hbody : ∀ x ∈ body, isLineEnd x.c = false) (he : isLineEnd e.c = true) :
    (∀ k, Energises b (receiveAll b st (body ++ [e])).2 k → Grammatical b (body.map Rx.c) k) ↔
      ReadsStrictly b (body.map Rx.c) := by
  rw [receiveAll_line b hst hg hbody he]
  generalize body.map Rx.c = line
  constructor
  · intro h x a y hl
    -- the loose reading opens the lock, so the line is grammatical for its slot
    have hk : atoi y = ((atoi y).toNat : Int) := by have := hl.slot.2.1; omega
    obtain ⟨x', a', y', hline, _, hx', hy', _⟩ :=
      h (atoi y).toNat ((energises_iff b _ line _).mpr ⟨x, a, y, hl, hk⟩)
    obtain ⟨z, hz⟩ := seen_append line
    have heq : x ++ ':' :: (a :: (y ++ z)) = x' ++ ':' :: (a' :: y') := by
      have := hline.symm.trans (hz.trans (by rw [hl.shape]))
      simp only [List.cons_append, List.append_assoc, List.cons.injEq, true_and] at this
      exact this.symm
    obtain ⟨rfl, hr⟩ := append_colon_inj hl.colon hx'.no_colon heq
    obtain ⟨_, rfl⟩ := List.cons.inj hr
    exact ⟨hx', z, hz, hk ▸ hy'⟩
  · intro h k hk
    obtain ⟨x, a, y, hl, hy⟩ := (energises_iff b _ line k).mp hk
    obtain ⟨hx, z, hz, hn⟩ := h x a y hl
    refine ⟨x, a, y ++ z, ?_, hl.action.symm, hx, hy ▸ hn, hy ▸ hl.slot.2.2⟩
    rw [hz, hl.shape]
    simp

/-- The board of the sketch. -/
def uno2 : Board := Board.uno 2 (by decide)

/-- Every sensor reads open; a pulse takes three seconds. -/
def allOpen : Readings := ⟨3000, fun _ => false⟩

/-- The line `S2:O1`. -/
theorem command_grammar_open :
    (∀ k, Energises uno2
        (receiveAll uno2 .init (burst allOpen [0x53, 0x32, 0x3a, 0x4f, 0x31] ++ burst allOpen [0x0a])).2
        k → Grammatical uno2 "S2:O1".toList k) ↔ ReadsStrictly uno2 "S2:O1".toList :=
  command_grammar uno2 .init (burst allOpen [0x53, 0x32, 0x3a, 0x4f, 0x31]) ⟨0, 0x0a, allOpen⟩ rfl
    (by decide) (by decide) (by decide)

/-- The line `S2:Ox` opens lock 0: `atoi` gives `0` for a text without a number. -/
theorem opens_without_numeral :
    ∃ k, Energises uno2
        (receiveAll uno2 .init (burst allOpen [0x53, 0x32, 0x3a, 0x4f, 0x78, 0x0a])).2 k ∧
      ¬ Grammatical uno2 "S2:Ox".toList k := by
  refine ⟨0, ⟨2, rfl, by decide⟩, ?_⟩
  rintro ⟨x, a, y, hline, _, hx, hy, _⟩
  have hdrop : "S2:Ox".toList.dropWhile isspace = 'S' :: (['2'] ++ ':' :: ['O', 'x']) := by decide
  have hcut := (List.cons.inj (hdrop.symm.trans hline)).2
  obtain ⟨_, hr⟩ := append_colon_inj (by decide) hx.no_colon hcut
  obtain ⟨_, rfl⟩ := List.cons.inj hr
  exact absurd (hy.digits 'x' (by simp)) (by decide)

end SmartLocker.Firmware
