import SmartLocker.System.EndToEnd
import SmartLocker.System.SlotCounts
import SmartLocker.Lib.Machine

/-!
# Calls on a bus of controllers

All controllers hang on one pair of wires: each reads the gateway's commands and the frames of all the
others, and the gateway reads the frames of all of them.  An `Exchange` is one call of `_send_and_wait`
on such a bus, with the frames that controllers push of their own accord before and while it waits.

* `rpc` — what a call is for: a procedure of the one controller it is addressed to;
* `Exchange.refines` — one exchange is one such procedure call, whatever else is on the bus;
* `session_refines` — so is every exchange of a session, each board doing exactly its own, in order.

What an exchange assumes is `Exchange.Fits`: no byte is lost, no pause falls inside a line, and while
the call waits no other frame speaks for the slave that is asked.
-/

set_option autoImplicit false

namespace SmartLocker.System.Network

open Lib Lib.Machine Lib.Cut Lib.Python Lib.Utf8 SmartLocker.Firmware SmartLocker.Gateway SlotCounts

/-! ## Calls as procedures -/

variable (bus : Bus)

/-- The controller with a slave id. -/
def boardOf (slave : Int) : Option Board := bus.boards.find? (fun b => b.SLAVE_ID == slave)

/-- What a call is to return, when the addressed controller reads `w`. -/
def answer (c : Command) (w : Readings) : Dict :=
  match boardOf bus c.slave with
  | some b =>
    match replyTo b w (request c) with
    | some q => replyData b q
    | none => timeoutResponse c.slot (.int c.slave)
  | none => timeoutResponse c.slot (.int c.slave)

/-- What a call is to do to a controller. -/
def done (b : Board) (c : Command) (w : Readings) : List Effect :=
  if c.slave = b.SLAVE_ID then execute b w (request c) else []

/-! ## The bus -/

variable {bus}

/-- One call, from the return of the call before it to its own. -/
structure Exchange (bus : Bus) where
  command : Command
  /-- The frames pushed before the call, and those pushed while it waits. -/
  before : List (Sent bus)
  meanwhile : List (Sent bus)
  /-- What a controller reads from the bus. -/
  heard : Board → List Rx
  /-- What the listener reads from it. -/
  chunks : List (List UInt8)

/-- The receivers of the controllers, and the listener's buffer. -/
structure Net where
  loops : Board → LoopState
  buffer : List Char

def Net.boot : Net := ⟨fun _ => .init, []⟩

/-- A frame is printed with `println`. -/
def frameBytes (t : List Char) : List UInt8 := (t ++ ['\r', '\n']).map Char.toUInt8

/-- What the exchange makes a controller do. -/
def Exchange.effects (x : Exchange bus) (net : Net) (b : Board) : List Effect :=
  (receiveAll b (net.loops b) (x.heard b)).2

/-- The frames that controllers print while they carry out commands. -/
def Exchange.replies (x : Exchange bus) (net : Net) : List (Board × List Char) :=
  bus.boards.flatMap (fun b => (printed (x.effects net b)).map (fun t => (b, t)))

/-- The frames on the bus around the command, each with the id of its controller. -/
def Exchange.pushed (l : List (Sent bus)) : List (Board × List Char) :=
  l.map (fun m => (m.board, m.text))

/-- The bytes of the frames that controller `b` can hear: its own transmissions it does not. -/
def audible (b : Board) (l : List (Board × List Char)) : List UInt8 :=
  (l.filter (fun p => p.1.SLAVE_ID != b.SLAVE_ID)).flatMap (fun p => frameBytes p.2)

def Exchange.after (x : Exchange bus) (net : Net) : Net where
  loops b := (receiveAll b (net.loops b) (x.heard b)).1
  buffer := (listenerLoop net.buffer x.chunks).1

/-- What the call returns: the frames before it are handled while no call waits. -/
def Exchange.returned (pf : List Char → PyFloat) (x : Exchange bus) (net : Net) : Dict :=
  replyFrom pf x.command.slot (.int x.command.slave)
    ((listenerLoop net.buffer x.chunks).2.drop x.before.length)

/-- The frame is not taken for an answer of the slave. -/
def Silent (slave : Int) (m : Sent bus) : Prop :=
  m.board.SLAVE_ID ≠ slave ∨ ∃ slot hslot closed, m.frame = .door slot hslot closed

/-- Every controller reads the bus whole and in time, so does the listener, and the only answer on the
bus while the call waits is the one to the command. -/
structure Exchange.Fits (U : Unicode) (net : Net) (x : Exchange bus) : Prop where
  inRange : InRange x.command
  heard : ∀ b ∈ bus.boards, (x.heard b).map Rx.byte =
    audible b (Exchange.pushed x.before) ++ x.command.bytes U ++
      audible b (Exchange.pushed x.meanwhile ++ x.replies net)
  noGap : ∀ b ∈ bus.boards, NoGap (x.heard b)
  read : x.chunks.flatten = (Exchange.pushed x.before ++ Exchange.pushed x.meanwhile ++
    x.replies net).flatMap (fun p => frameBytes p.2)
  silent : ∀ m ∈ x.meanwhile, Silent x.command.slave m

/-- Between exchanges nothing is left over, in no controller and not in the gateway. -/
structure Net.Idle (bus : Bus) (net : Net) : Prop where
  loops : ∀ b ∈ bus.boards, (net.loops b).cmdBuffer = []
  buffer : net.buffer = []

/-! ## Frames -/

theorem frame_emits {b : Board} (f : Frame b) : Emits b f.text := by
  cases f with
  | reply w rawCmd r q hr hq =>
    refine .reply w rawCmd ?_
    rw [processCommand_eq, hr]
    simp only [printed_execute, hq]
    exact List.mem_singleton_self _
  | alive => exact .alive
  | door slot hslot closed =>
    have := Emits.door (b := b) slot hslot closed
    cases closed <;> exact this

/-- A controller prints nothing but frames. -/
theorem receiveAll_emits (b : Board) {t : List Char} :
    ∀ (l : List Rx) (st : LoopState), t ∈ printed (receiveAll b st l).2 → Emits b t
  | [], st, h => by cases h
  | x :: l, st, h => by
    rw [receiveAll, printed, List.filterMap_append, List.mem_append] at h
    rcases h with h | h
    · unfold receive at h
      dsimp only at h
      split at h
      · split at h
        · exact .reply _ _ h
        · cases h
      split at h
      · split at h <;> cases h
      · cases h
    · exact receiveAll_emits b l _ h

theorem frame_last {b : Board} {t : List Char} (h : Emits b t) : t.getLast? = some '\x7d' := by
  have hobject : ∀ fields, t = objectText fields → t.getLast? = some '\x7d' := by
    rintro fields rfl
    rw [objectText]
    exact List.getLast?_concat
  cases h with
  | reply w rawCmd h =>
    obtain ⟨r, q, hr, hq, rfl⟩ := printed_processCommand h
    exact reply_last (replyTo_fits hr hq)
  | door slot hslot closed =>
    have hint : -32768 ≤ (slot : Int) ∧ (slot : Int) ≤ 32767 := by
      have := b.slots_le
      omega
    exact hobject _ (doorEventText_text b hint (by cases closed <;> decide))
  | alive => exact hobject _ (heartbeatJson_text b)

theorem noBrace_nil : 0x7b ∉ ([] : List UInt8) := List.not_mem_nil

theorem noLf_nil : 0x0a ∉ ([] : List UInt8) := List.not_mem_nil

/-- A frame as the listener sees it. -/
def frameLine (t : List Char) (h : IsFrame t) (hlast : t.getLast? = some '\x7d') : StreamLine where
  noise := []
  json := some {
    chars := t
    ascii := fun c hc => (h.2 c hc).ascii
    no_nul := fun hc => absurd (h.2 _ hc) (by decide)
    no_lf := fun hc => absurd (h.2 _ hc) (by decide)
    no_cr := fun hc => absurd (h.2 _ hc) (by decide)
    head := h.1
    last := hlast }
  crlf := true
  no_brace := noBrace_nil
  no_lf := noLf_nil

/-- **The listener hands on the texts it reads**, each once and in order, and keeps nothing. -/
theorem listener_texts {l : List (List Char)}
    (h : ∀ t ∈ l, IsFrame t ∧ t.getLast? = some '\x7d') {chunks : List (List UInt8)}
    (hchunks : chunks.flatten = l.flatMap frameBytes) :
    (listenerLoop [] chunks).2 = l ∧ (listenerLoop [] chunks).1 = [] := by
  obtain ⟨ls, hbytes, htexts⟩ : ∃ ls : List StreamLine,
      ls.flatMap StreamLine.bytes = l.flatMap frameBytes ∧
      ls.filterMap (fun line => line.json.map JsonText.chars) = l := by
    clear hchunks
    induction l with
    | nil => exact ⟨[], rfl, rfl⟩
    | cons t l ih =>
      obtain ⟨ls, hbytes, htexts⟩ := ih fun q hq => h q (List.mem_cons_of_mem t hq)
      have ht := h t List.mem_cons_self
      refine ⟨frameLine t ht.1 ht.2 :: ls, ?_, ?_⟩
      · rw [List.flatMap_cons, List.flatMap_cons, hbytes]
        congr 1
        simp [frameLine, StreamLine.bytes, StreamLine.body, StreamLine.text, frameBytes]
        decide
      · simp only [List.filterMap_cons, htexts, frameLine, Option.map_some]
  have hstream : [] ++ chunks.flatten = ls.flatMap StreamLine.bytes ++ [] := by
    rw [List.nil_append, List.append_nil, hchunks, hbytes]
  obtain ⟨h1, h2⟩ := listenerLoop_stream decoded_empty (by simp) (by simp) ls chunks hstream
  exact ⟨h1.trans htexts, h2.nil⟩

theorem listener_frames {l : List (Board × List Char)} (h : ∀ p ∈ l, Emits p.1 p.2)
    {chunks : List (List UInt8)} (hchunks : chunks.flatten = l.flatMap (fun p => frameBytes p.2)) :
    (listenerLoop [] chunks).2 = l.map Prod.snd ∧ (listenerLoop [] chunks).1 = [] := by
  refine listener_texts (fun t ht => ?_) (by rw [hchunks, List.flatMap_map])
  obtain ⟨p, hp, rfl⟩ := List.mem_map.mp ht
  exact ⟨(h p hp).frame, frame_last (h p hp)⟩

/-- The bus lines of frames. -/
theorem frames_busLines (U : Unicode) (b : Board) {l : List (Board × List Char)}
    (h : ∀ p ∈ l, Emits p.1 p.2) :
    ∃ xs : List BusLine, xs.flatMap (BusLine.bytes U) = l.flatMap (fun p => frameBytes p.2) ∧
      xs.filterMap (BusLine.addressed b) = [] := by
  induction l with
  | nil => exact ⟨[], rfl, rfl⟩
  | cons p l ih =>
    obtain ⟨xs, hbytes, hnone⟩ := ih fun q hq => h q (List.mem_cons_of_mem p hq)
    refine ⟨.frame ⟨p.2, p.1, h p List.mem_cons_self⟩ :: xs, ?_, ?_⟩
    · rw [List.flatMap_cons, List.flatMap_cons, hbytes]
      rfl
    · rw [List.filterMap_cons, hnone]
      rfl

theorem pushed_emits (l : List (Sent bus)) : ∀ p ∈ Exchange.pushed l, Emits p.1 p.2 := by
  intro p hp
  obtain ⟨m, -, rfl⟩ := List.mem_map.mp hp
  exact frame_emits m.frame

theorem replies_emits (x : Exchange bus) (net : Net) : ∀ p ∈ x.replies net, Emits p.1 p.2 := by
  intro p hp
  obtain ⟨b, -, hp⟩ := List.mem_flatMap.mp hp
  obtain ⟨t, ht, rfl⟩ := List.mem_map.mp hp
  exact receiveAll_emits b _ _ ht

/-- A frame that is silent gives the call nothing. -/
theorem silent_response (pf : List Char → PyFloat) {slave : Int} {m : Sent bus} (h : Silent slave m) :
    ((responseOf pf m.text).bind fun r => if r.1.pyEq (.int slave) then some r.2 else none) = none := by
  have hother : m.board.SLAVE_ID ≠ slave →
      (Json.int m.board.SLAVE_ID).pyEq (.int slave) = false := by
    intro hne
    rw [Bool.eq_false_iff]
    simpa using hne
  cases hframe : m.frame with
  | reply w rawCmd r q hr hq =>
    rcases h with hne | ⟨_, _, _, hdoor⟩
    · rw [Sent.text, hframe, Frame.text, responseOf_reply pf hr hq, Option.bind_some, hother hne]
      rfl
    · rw [hframe] at hdoor
      cases hdoor
  | alive =>
    rcases h with hne | ⟨_, _, _, hdoor⟩
    · rw [Sent.text, hframe, Frame.text, responseOf, loads_alive]
      simp only [handle_alive, Option.bind_some, hother hne]
      rfl
    · rw [hframe] at hdoor
      cases hdoor
  | door slot hslot closed =>
    have hname : eventName closed = "DOOR_CLOSED" ∨ eventName closed = "DOOR_OPENED" := by
      cases closed with
      | true => exact Or.inl rfl
      | false => exact Or.inr rfl
    have hlen : (eventName closed).toList.length ≤ 11 ∧
        ∀ c ∈ (eventName closed).toList, Unescaped c := by
      cases closed <;> decide
    have hint : -32768 ≤ (slot : Int) ∧ (slot : Int) ≤ 32767 := by
      have := m.board.slots_le
      omega
    rw [Sent.text, hframe, Frame.text, responseOf, loads_door pf m.board hint hlen.1 hlen.2]
    simp only [handle_door m.board slot hname, Option.bind_none]

/-! ## One exchange -/

variable {U : Unicode} {net : Net} {x : Exchange bus}

/-- **A controller does what the command asks of it**, whatever frames are around the command, and is
ready for the next one. -/
theorem controller_reads (U : Unicode) (b : Board) {c : Command} (hc : InRange c) {st : LoopState}
    (hst : st.cmdBuffer = []) {fs gs : List (Board × List Char)} (hfs : ∀ p ∈ fs, Emits p.1 p.2)
    (hgs : ∀ p ∈ gs, Emits p.1 p.2) {l : List Rx}
    (hl : l.map Rx.byte = audible b fs ++ c.bytes U ++ audible b gs) (hg : NoGap l) :
    (∃ w, (receiveAll b st l).2 = done b c w) ∧ (receiveAll b st l).1.cmdBuffer = [] := by
  obtain ⟨xs, hxs, hxs'⟩ := frames_busLines U b (l := fs.filter (fun p => p.1.SLAVE_ID != b.SLAVE_ID))
    fun p hp => hfs p (List.mem_filter.mp hp).1
  obtain ⟨ys, hys, hys'⟩ := frames_busLines U b (l := gs.filter (fun p => p.1.SLAVE_ID != b.SLAVE_ID))
    fun p hp => hgs p (List.mem_filter.mp hp).1
  have hbytes : l.map Rx.byte = (xs ++ .command c hc :: ys).flatMap (BusLine.bytes U) := by
    rw [hl, List.flatMap_append, List.flatMap_cons, hxs, hys, List.append_assoc]
    rfl
  constructor
  · obtain ⟨⟨exec, hexec, heffects⟩, -⟩ := bus_delivery U b _ l st hst hbytes hg
    rw [List.filterMap_append, List.filterMap_cons, hxs', hys'] at hexec
    rw [heffects]
    unfold done
    by_cases hslave : c.slave = b.SLAVE_ID
    · simp only [BusLine.addressed, if_pos hslave, List.nil_append] at hexec
      obtain ⟨q, hq, hrequest⟩ := List.map_eq_singleton_iff.mp hexec
      refine ⟨q.2, ?_⟩
      rw [if_pos hslave, hq, List.flatMap_singleton, hrequest]
    · simp only [BusLine.addressed, if_neg hslave, List.nil_append, List.map_eq_nil_iff] at hexec
      exact ⟨⟨0, fun _ => false⟩, by rw [if_neg hslave, hexec, List.flatMap_nil]⟩
  · have hchars : l.map Rx.c =
        ((xs ++ .command c hc :: ys).flatMap (BusLine.bytes U)).map Char.ofUInt8 := by
      rw [← hbytes, List.map_map]
      rfl
    have hreceived := (receiveAll_eq b l st [] hst (fun _ _ => Or.inl hst) hg).1
    rw [hchars, feed_lines] at hreceived
    exact hreceived

theorem Exchange.Fits.controller (h : x.Fits U net) (hidle : net.Idle bus) {b : Board}
    (hb : b ∈ bus.boards) :
    (∃ w, x.effects net b = done b x.command w) ∧ ((x.after net).loops b).cmdBuffer = [] :=
  controller_reads U b h.inRange (hidle.loops b hb) (pushed_emits x.before)
    (fun p hp => (List.mem_append.mp hp).elim (pushed_emits _ p) (replies_emits x net p))
    (h.heard b hb) (h.noGap b hb)

theorem boardOf_some {slave : Int} {b : Board} (h : boardOf bus slave = some b) :
    b ∈ bus.boards ∧ b.SLAVE_ID = slave :=
  ⟨List.mem_of_find?_eq_some h, by simpa using List.find?_some h⟩

theorem boardOf_none {slave : Int} (h : boardOf bus slave = none) {b : Board} (hb : b ∈ bus.boards) :
    slave ≠ b.SLAVE_ID := by
  have := List.find?_eq_none.mp h b hb
  exact fun heq => this (by simp [heq])

/-- The ids tell the controllers apart. -/
theorem board_unique {a b : Board} (ha : a ∈ bus.boards) (hb : b ∈ bus.boards)
    (h : a.SLAVE_ID = b.SLAVE_ID) : a = b :=
  List.inj_on_of_nodup_map bus.distinct ha hb h

theorem boardOf_mem {b : Board} (hb : b ∈ bus.boards) : boardOf bus b.SLAVE_ID = some b := by
  cases h : boardOf bus b.SLAVE_ID with
  | none => exact absurd rfl (boardOf_none h hb)
  | some a =>
    obtain ⟨ha, hid⟩ := boardOf_some h
    rw [board_unique ha hb hid]

/-- Only one element of a list contributes. -/
theorem flatMap_only {α β : Type} {l : List α} (hl : l.Nodup) {a : α} (ha : a ∈ l)
    {f : α → List β} (h : ∀ b ∈ l, b ≠ a → f b = []) : l.flatMap f = f a := by
  obtain ⟨l₁, l₂, rfl⟩ := List.append_of_mem ha
  have hne : ∀ b, b ∈ l₁ ∨ b ∈ l₂ → b ≠ a := by
    rintro b hb rfl
    rw [List.nodup_append, List.nodup_cons] at hl
    rcases hb with hb | hb
    · exact hl.2.2 b hb b List.mem_cons_self rfl
    · exact hl.2.1.1 hb
  have h₁ : l₁.flatMap f = [] :=
    List.flatMap_eq_nil_iff.mpr fun b hb => h b (by simp [hb]) (hne b (Or.inl hb))
  have h₂ : l₂.flatMap f = [] :=
    List.flatMap_eq_nil_iff.mpr fun b hb => h b (by simp [hb]) (hne b (Or.inr hb))
  rw [List.flatMap_append, List.flatMap_cons, h₁, h₂, List.nil_append, List.append_nil]

theorem answered {b : Board} (hb : b ∈ bus.boards) {c : Command} (hc : InRange c)
    (hslave : c.slave = b.SLAVE_ID) (w : Readings) :
    ∃ q rawCmd, readRequest b.SLAVE_ID rawCmd = some (request c) ∧
      replyTo b w (request c) = some q ∧ answer bus c w = replyData b q := by
  have hread := readRequest_line b.SLAVE_ID hc.int16
  rw [if_pos hslave] at hread
  obtain ⟨q, hq⟩ : ∃ q, replyTo b w (request c) = some q := by
    unfold request replyTo
    cases c.ask with
    | ping => exact ⟨_, rfl⟩
    | slot action k =>
      dsimp only
      split
      · exact ⟨_, rfl⟩
      · exact ⟨_, if_pos (by cases action <;> decide)⟩
  exact ⟨q, clip c.line, hread, hq, by rw [answer, hslave, boardOf_mem hb]; simp only [hq]⟩

/-- **One exchange is one procedure call** of the addressed controller: every controller does just what
is asked of it, the call returns the answer, and nothing is left over. -/
theorem Exchange.refines (pf : List Char → PyFloat) (h : x.Fits U net) (hidle : net.Idle bus) :
    (∃ w, (∀ b ∈ bus.boards, x.effects net b = done b x.command w) ∧
      x.returned pf net = answer bus x.command w) ∧ (x.after net).Idle bus := by
  have hpushed : ∀ l : List (Sent bus), ∀ p ∈ Exchange.pushed l, Emits p.1 p.2 := pushed_emits
  obtain ⟨htexts, hbuffer⟩ := listener_frames (l := Exchange.pushed x.before ++
      Exchange.pushed x.meanwhile ++ x.replies net) (by
    intro p hp
    rcases List.mem_append.mp hp with hp | hp
    · exact (List.mem_append.mp hp).elim (hpushed _ p) (hpushed _ p)
    · exact replies_emits x net p hp) h.read
  have hreturned : x.returned pf net = (firstResponse pf (.int x.command.slave)
      ((x.replies net).map Prod.snd)).getD
        (timeoutResponse x.command.slot (.int x.command.slave)) := by
    have hsilent : firstResponse pf (.int x.command.slave)
        ((Exchange.pushed x.meanwhile).map Prod.snd) = none := by
      rw [firstResponse, List.findSome?_eq_none_iff]
      intro t ht
      obtain ⟨p, hp, rfl⟩ := List.mem_map.mp ht
      obtain ⟨m, hm, rfl⟩ := List.mem_map.mp hp
      exact silent_response pf (h.silent m hm)
    have hdrop : ((Exchange.pushed x.before ++ Exchange.pushed x.meanwhile ++
        x.replies net).map Prod.snd).drop x.before.length =
          (Exchange.pushed x.meanwhile).map Prod.snd ++ (x.replies net).map Prod.snd := by
      rw [List.append_assoc, List.map_append, List.map_append, List.drop_left' (by simp [pushed])]
    rw [returned, hidle.buffer, htexts, hdrop, replyFrom]
    congr 1
    rw [firstResponse] at hsilent ⊢
    rw [List.findSome?_append, hsilent, Option.none_or]
    rfl
  refine ⟨?_, ⟨fun b hb => (h.controller hidle hb).2, ?_⟩⟩
  swap
  · rw [after, hidle.buffer]
    exact hbuffer
  cases hboard : boardOf bus x.command.slave with
  | none =>
    have hquiet : ∀ b ∈ bus.boards, ∀ w, x.effects net b = done b x.command w := by
      intro b hb w
      obtain ⟨w', hw'⟩ := (h.controller hidle hb).1
      have hne := boardOf_none hboard hb
      rw [hw', done, done, if_neg hne, if_neg hne]
    have hnone : x.replies net = [] := by
      rw [replies, List.flatMap_eq_nil_iff]
      intro b hb
      rw [hquiet b hb ⟨0, fun _ => false⟩, done, if_neg (boardOf_none hboard hb)]
      rfl
    refine ⟨⟨0, fun _ => false⟩, fun b hb => hquiet b hb _, ?_⟩
    rw [hreturned, hnone, answer, hboard]
    rfl
  | some a =>
    obtain ⟨ha, hid⟩ := boardOf_some hboard
    obtain ⟨w, hw⟩ := (h.controller hidle ha).1
    have hothers : ∀ b ∈ bus.boards, b ≠ a → done b x.command w = [] ∧ x.effects net b = [] := by
      intro b hb hne
      obtain ⟨w', hw'⟩ := (h.controller hidle hb).1
      have hslave : x.command.slave ≠ b.SLAVE_ID :=
        fun heq => hne (board_unique hb ha (heq.symm.trans hid.symm))
      rw [hw', done, done, if_neg hslave]
      exact ⟨rfl, if_neg hslave⟩
    obtain ⟨q, rawCmd, hr, hq, hanswer⟩ := answered ha h.inRange hid.symm w
    have hreplies : x.replies net = [(a, q.text a)] := by
      rw [replies, flatMap_only (List.Nodup.of_map _ bus.distinct) ha]
      · rw [hw, done, if_pos hid.symm, printed_execute, hq]
        rfl
      · intro b hb hne
        rw [(hothers b hb hne).2]
        rfl
    refine ⟨w, fun b hb => ?_, ?_⟩
    · by_cases hba : b = a
      · rw [hba, hw]
      · rw [(hothers b hb hba).1, (hothers b hb hba).2]
    · rw [hreturned, hreplies, hanswer, ← hid]
      simp [firstResponse, responseOf_reply pf hr hq]

/-! ## Sessions -/

def netStep (net : Net) (x : Exchange bus) : Option Net := some (x.after net)

/-- What the calls of a session return. -/
def returns (pf : List Char → PyFloat) : Net → List (Exchange bus) → List Dict
  | _, [] => []
  | net, x :: xs => x.returned pf net :: returns pf (x.after net) xs

/-- What a session makes a controller do. -/
def effectsOn (b : Board) : Net → List (Exchange bus) → List Effect
  | _, [] => []
  | net, x :: xs => x.effects net b ++ effectsOn b (x.after net) xs

/-- A session is a sequence of procedure calls. -/
theorem session_calls (pf : List Char → PyFloat) {net : Net} (hidle : net.Idle bus) :
    ∀ {xs : List (Exchange bus)}, Along netStep (Exchange.Fits U) net xs →
      ∃ calls : List (Command × Readings), calls.map Prod.fst = xs.map Exchange.command ∧
        returns pf net xs = calls.map (fun p => answer bus p.1 p.2) ∧
        ∀ b ∈ bus.boards, effectsOn b net xs = calls.flatMap (fun p => done b p.1 p.2) := by
  intro xs
  induction xs generalizing net with
  | nil => exact fun _ => ⟨[], rfl, rfl, fun _ _ => rfl⟩
  | cons x xs ih =>
    intro h
    obtain ⟨⟨w, heffects, hreturned⟩, hidle'⟩ := x.refines pf h.1 hidle
    obtain ⟨calls, hcommands, hreturns, hon⟩ := ih hidle' h.2
    refine ⟨(x.command, w) :: calls, ?_, ?_, fun b hb => ?_⟩
    · rw [List.map_cons, List.map_cons, hcommands]
    · rw [returns, List.map_cons, hreturned, hreturns]
    · rw [effectsOn, List.flatMap_cons, heffects b hb, hon b hb]

theorem inRange_of_fits {net : Net} {xs : List (Exchange bus)}
    (hfits : Along netStep (Exchange.Fits U) net xs) : ∀ x ∈ xs, InRange x.command := by
  induction xs generalizing net with
  | nil => exact List.forall_mem_nil _
  | cons x xs ih => exact List.forall_mem_cons.mpr ⟨hfits.1.inRange, ih hfits.2⟩

/-- How a command drives the lock pins of a controller. -/
def lockDrive (b : Board) (c : Command) : List (Int × Level) :=
  if c.slave = b.SLAVE_ID then
    match c.ask with
    | .ping => []
    | .slot action k =>
      if k < b.NUM_SLOTS then
        match action with
        | .C => [(b.lockPin k, RELAY_OFF)]
        | _ => [(b.lockPin k, RELAY_ON), (b.lockPin k, RELAY_OFF)]
      else []
  else []

theorem lockWrites_append (b : Board) (es es' : List Effect) :
    lockWrites b (es ++ es') = lockWrites b es ++ lockWrites b es' := List.filterMap_append

theorem lockWrites_done (b : Board) {c : Command} (hc : InRange c) (w : Readings) :
    lockWrites b (done b c w) = lockDrive b c := by
  obtain ⟨slave, ask⟩ := c
  unfold done lockDrive
  dsimp only
  by_cases hslave : slave = b.SLAVE_ID
  swap
  · rw [if_neg hslave, if_neg hslave]
    rfl
  rw [if_pos hslave, if_pos hslave]
  cases ask with
  | ping => exact lockWrites_sendResponse b _ _ _ _ _ _
  | slot action k =>
    have hk : 0 ≤ k := hc.2.1
    simp only [request, execute]
    by_cases hslots : k < b.NUM_SLOTS
    · have hpin : b.lockPin k ∈ b.LOCK_PINS := List.mem_of_getElem? (lockPin_eq hk hslots)
      rw [if_neg (by omega), if_pos hslots]
      cases action with
      | T =>
        rw [if_pos (show SlotAction.T.letter = 'T' from rfl), Firmware.testSlot, lockWrites_append,
          lockWrites_sendResponse]
        simp [lockWrites, hpin]
      | O =>
        rw [if_neg (by decide), if_pos (show SlotAction.O.letter = 'O' from rfl), Firmware.openSlot,
          lockWrites_append, lockWrites_sendResponse]
        simp [lockWrites, hpin]
      | C =>
        rw [if_neg (by decide), if_neg (by decide), if_pos (show SlotAction.C.letter = 'C' from rfl),
          Firmware.closeSlot, lockWrites_append, lockWrites_sendResponse]
        simp [lockWrites, hpin]
    · rw [if_pos (by omega), if_neg hslots]
      exact lockWrites_sendResponse b _ _ _ _ _ _

/-- **The locks follow the commands**: what a session does to the lock pins does not depend on what
controllers read or push, but on the commands alone. -/
theorem lockWrites_session {net : Net} (hidle : net.Idle bus) {xs : List (Exchange bus)}
    (hfits : Along netStep (Exchange.Fits U) net xs) {b : Board} (hb : b ∈ bus.boards) :
    lockWrites b (effectsOn b net xs) = (xs.map Exchange.command).flatMap (lockDrive b) := by
  induction xs generalizing net with
  | nil => rfl
  | cons x xs ih =>
    obtain ⟨⟨w, heffects, -⟩, hidle'⟩ := x.refines (fun _ => .nan) hfits.1 hidle
    rw [effectsOn, lockWrites_append, heffects b hb, lockWrites_done b hfits.1.inRange,
      ih hidle' hfits.2]
    rfl

/-- **A session is a sequence of procedure calls**: each call returns the answer of the controller that
it is addressed to, or a timeout when there is none; each controller carries out exactly the commands
addressed to it, each once and in order; and what happens to its locks is read off the commands. -/
theorem session_refines (pf : List Char → PyFloat) {net : Net} (hidle : net.Idle bus)
    {xs : List (Exchange bus)} (hfits : Along netStep (Exchange.Fits U) net xs) :
    ∃ calls : List (Command × Readings), calls.map Prod.fst = xs.map Exchange.command ∧
      returns pf net xs = calls.map (fun p => answer bus p.1 p.2) ∧
      ∀ b ∈ bus.boards, effectsOn b net xs = calls.flatMap (fun p => done b p.1 p.2) ∧
        lockWrites b (effectsOn b net xs) = (xs.map Exchange.command).flatMap (lockDrive b) := by
  obtain ⟨calls, hcommands, hreturns, heffects⟩ := session_calls pf hidle hfits
  exact ⟨calls, hcommands, hreturns,
    fun b hb => ⟨heffects b hb, lockWrites_session hidle hfits hb⟩⟩

theorem idle_boot (bus : Bus) : Net.boot.Idle bus := ⟨fun _ _ => rfl, rfl⟩

/-- Every command in range has its exchange. -/
theorem exchange_exists (U : Unicode) (hidle : net.Idle bus) {c : Command} (hc : InRange c) :
    ∃ x : Exchange bus, x.command = c ∧ x.Fits U net := by
  let w : Readings := ⟨0, fun _ => false⟩
  have hnil : ∀ p ∈ ([] : List (Board × List Char)), Emits p.1 p.2 := List.forall_mem_nil _
  -- what a controller makes of the command, and of the reply `l` after it
  have hreads : ∀ b ∈ bus.boards, ∀ l : List (Board × List Char), (∀ p ∈ l, Emits p.1 p.2) →
      ∃ w', (receiveAll b (net.loops b) (burst w (c.bytes U ++ audible b l))).2 = done b c w' :=
    fun b hb l hl => (controller_reads U b hc (hidle.loops b hb) hnil hl (burst_byte w _)
      (noGap_burst w _)).1
  obtain ⟨l, hl, hreplies⟩ : ∃ l : List (Board × List Char), (∀ p ∈ l, Emits p.1 p.2) ∧
      bus.boards.flatMap (fun b => (printed
        (receiveAll b (net.loops b) (burst w (c.bytes U ++ audible b l))).2).map (fun t => (b, t))) =
          l := by
    cases hboard : boardOf bus c.slave with
    | none =>
      refine ⟨[], hnil, List.flatMap_eq_nil_iff.mpr fun b hb => ?_⟩
      obtain ⟨w', hw'⟩ := hreads b hb [] hnil
      rw [hw', done, if_neg (boardOf_none hboard hb)]
      rfl
    | some a =>
      obtain ⟨ha, hid⟩ := boardOf_some hboard
      obtain ⟨w', hw'⟩ := hreads a ha [] hnil
      obtain ⟨q, rawCmd, hr, hq, -⟩ := answered ha hc hid.symm w'
      have hprinted : printed (done a c w') = [q.text a] := by
        rw [done, if_pos hid.symm, printed_execute, hq]
        rfl
      have hemits : Emits a (q.text a) :=
        receiveAll_emits a _ _ (by rw [hw', hprinted]; exact List.mem_singleton_self _)
      have hl : ∀ p ∈ [(a, q.text a)], Emits p.1 p.2 := by
        intro p hp
        rw [List.mem_singleton.mp hp]
        exact hemits
      refine ⟨[(a, q.text a)], hl, ?_⟩
      rw [flatMap_only (List.Nodup.of_map _ bus.distinct) ha]
      · have hown : audible a [(a, q.text a)] = audible a [] := by simp [audible]
        rw [hown, hw', hprinted]
        rfl
      · intro b hb hne
        obtain ⟨w'', hw''⟩ := hreads b hb _ hl
        rw [hw'', done, if_neg fun heq => hne (board_unique hb ha (heq.symm.trans hid.symm))]
        rfl
  let x : Exchange bus :=
    ⟨c, [], [], fun b => burst w (c.bytes U ++ audible b l), [l.flatMap fun p => frameBytes p.2]⟩
  have hx : x.replies net = l := hreplies
  refine ⟨x, rfl, hc, fun b _ => ?_, fun b _ => noGap_burst w _, ?_,
    List.forall_mem_nil _⟩
  · rw [hx]
    exact burst_byte w _
  · rw [hx]
    exact List.flatten_singleton

/-- So has every list of commands its session. -/
theorem session_exists (U : Unicode) {cs : List Command} (hcs : ∀ c ∈ cs, InRange c) (net : Net)
    (hidle : net.Idle bus) :
    ∃ xs : List (Exchange bus), xs.map Exchange.command = cs ∧
      Along netStep (Exchange.Fits U) net xs := by
  induction cs generalizing net with
  | nil => exact ⟨[], rfl, trivial⟩
  | cons c cs ih =>
    obtain ⟨x, rfl, hx⟩ := exchange_exists U hidle (hcs c List.mem_cons_self)
    obtain ⟨xs, rfl, hxs⟩ := ih (fun d hd => hcs d (List.mem_cons_of_mem _ hd)) (x.after net)
      (x.refines (fun _ => .nan) hx hidle).2
    exact ⟨x :: xs, rfl, hx, hxs⟩

theorem three_int16 : -32768 ≤ (3 : Int) ∧ (3 : Int) ≤ 32767 := by decide

/-- The sketch with id 3. -/
def uno3 : Board := .uno 3 three_int16

/-- The slaves 2 and 3. -/
def twoBoards : Bus where
  boards := [uno2, uno3]
  distinct := by decide

/-- An open of slave 2, a call of an absent slave and a test of a slot that slave 3 has not. -/
def threeCommands : List Command := [⟨2, .slot .O 1⟩, ⟨7, .ping⟩, ⟨3, .slot .T 9⟩]

theorem session_refines_sample :
    ∃ xs : List (Exchange twoBoards), xs.map Exchange.command = threeCommands ∧
      ∃ calls : List (Command × Readings), calls.map Prod.fst = xs.map Exchange.command ∧
        returns noFloat .boot xs = calls.map (fun p => answer twoBoards p.1 p.2) ∧
        ∀ b ∈ twoBoards.boards, effectsOn b .boot xs = calls.flatMap (fun p => done b p.1 p.2) ∧
          lockWrites b (effectsOn b .boot xs) =
            (xs.map Exchange.command).flatMap (lockDrive b) := by
  have hrange : ∀ c ∈ threeCommands, InRange c := by
    simp only [threeCommands, List.forall_mem_cons]
    exact ⟨⟨by decide, by decide⟩, ⟨by decide, trivial⟩, ⟨by decide, by decide⟩, by simp⟩
  obtain ⟨xs, hcommands, hfits⟩ :=
    session_exists Unicode.ascii hrange .boot (idle_boot twoBoards)
  exact ⟨xs, hcommands, session_refines noFloat (idle_boot twoBoards) hfits⟩

end SmartLocker.System.Network
