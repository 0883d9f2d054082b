import SmartLocker.Lib.Machine
import SmartLocker.Firmware.Frames
import SmartLocker.Gateway.SetupHandler
import SmartLocker.System.Confinement

/-!
# Which cabinet a command reaches

A command topic carries the name of a cabinet; the handler looks up the part of it before the first
slash and takes the first cabinet with that name.  What it writes is one line for the slave of that
cabinet only when the slave id stays in its field of the line.  Setup commands choose names and slave
ids.  `Unambiguous` is what makes the messages for a cabinet reach its own slave (`routed_iff`), and
`command_routing` says it for every state that setup commands lead to, together with a condition on
each save under which no cabinet is ever ambiguous.
-/

set_option autoImplicit false

namespace SmartLocker.System

open Lib Lib.Cut Lib.Machine Lib.Python Lib.Utf8 SmartLocker.Gateway
open SmartLocker.Firmware (isLineEnd plain_not_lineEnd)

/-! ## One message -/

/-- A line that asks one slave for `letter` at slot `k`: all before its first colon is the slave id. -/
def AsksFor (U : Unicode) (slave_id : Json) (letter : Char) (k : Int) (line : List UInt8) : Prop :=
  PyChar.uni ':' ∉ slave_id.pyStr U ∧
    encode (py "S" ++ slave_id.pyStr U ++ ofChars (':' :: letter :: Decimal.text k)) = some line

/-- A message for slot `k` on the topic of `h` for `c` goes to the handler of `h`, and puts one line on
the bus, for that slot, to the slave stored for `c`. -/
def Routed (out : Outside) (st : CabinetState) (reply c : Dict) (h : Handled) (d : Dict) (k : Int) :
    Prop :=
  routeOf (h.topic (nameOf out.U c)) = h.route ∧
    ∃ line, AsksFor out.U (slaveIdOf c) h.action.letter k line ∧
      busLines (handleIncomingMessage out st reply (h.topic (nameOf out.U c))
        (some (.obj d))).effects = [line]

/-- The slave id is a text that can be sent, and stays in its field of a line. -/
def Fielded (U : Unicode) (slave_id : Json) : Prop :=
  (encode (slave_id.pyStr U)).isSome ∧
    ∀ c ∈ slave_id.pyStr U, lineEnd c = false ∧ c ≠ PyChar.uni ':'

instance (U : Unicode) (slave_id : Json) : Decidable (Fielded U slave_id) := by
  unfold Fielded
  infer_instance

/-- The topic of `h` for `c` is one of `h`, and the cabinet it finds has the slave id of `c`, which
stays in its field. -/
def Unambiguous (U : Unicode) (st : CabinetState) (c : Dict) (h : Handled) : Prop :=
  h.reached (nameOf U c) = h ∧ Fielded U (slaveIdOf c) ∧
    ∃ cab, st.getCabinetByName (segment (nameOf U c)) = some cab ∧
      (slaveIdOf cab).pyStr U = (slaveIdOf c).pyStr U

theorem Handled.route_injective {a b : Handled} (h : a.route = b.route) : a = b := by
  cases a <;> cases b <;> first | rfl | cases h

/-- The line of a command for a slot that is a number. -/
def askedLine (letter : Char) (slave : List Char) (k : Int) : List Char :=
  'S' :: slave ++ ':' :: letter :: Decimal.text k

theorem asksFor_iff {U : Unicode} {slave_id : Json} {letter : Char} {k : Int} {line : List UInt8} :
    AsksFor U slave_id letter k line ↔ ∃ x, slave_id.pyStr U = ofChars x ∧ ':' ∉ x ∧
      line = (askedLine letter x k).flatMap String.utf8EncodeChar := by
  have htext : ∀ x, py "S" ++ ofChars x ++ ofChars (':' :: letter :: Decimal.text k) =
      ofChars (askedLine letter x k) := by
    intro x
    simp [py, ofChars, askedLine]
  have hcolon : ∀ x, PyChar.uni ':' ∈ ofChars x ↔ ':' ∈ x := by
    intro x
    simp [ofChars]
  constructor
  · rintro ⟨hfree, hline⟩
    obtain ⟨x, hx⟩ : ∃ x, slave_id.pyStr U = ofChars x := by
      refine ofChars_of_encodable ?_
      rintro ⟨n, hn⟩
      rw [encode_eq_none.mpr ⟨n, by simp [hn]⟩] at hline
      cases hline
    rw [hx, htext, encode_ofChars, Option.some.injEq] at hline
    rw [hx, hcolon] at hfree
    exact ⟨x, hx, hfree, hline.symm⟩
  · rintro ⟨x, hx, hfree, rfl⟩
    refine ⟨by rwa [hx, hcolon], ?_⟩
    rw [hx, htext, encode_ofChars]

theorem numeral_not_lineEnd (k : Int) : ∀ c ∈ Decimal.text k, isLineEnd c = false :=
  fun c hc => plain_not_lineEnd (text_plain k c hc)

/-- The lines that a command for a number puts on the bus: its own, unless the slave id breaks it. -/
theorem words_asked {letter : Char} (hl : isLineEnd letter = false) (slave : List Char) (k : Int)
    (line : List Char) :
    words isLineEnd (commandChars letter slave (Decimal.text k)) = [line] ↔
      (∀ c ∈ slave, isLineEnd c = false) ∧ line = askedLine letter slave k := by
  by_cases hs : ∀ c ∈ slave, isLineEnd c = false
  · have htake : (Decimal.text k).takeWhile (fun c => !isLineEnd c) = Decimal.text k :=
      List.takeWhile_eq_self_iff.mpr fun c hc => by simp [numeral_not_lineEnd k c hc]
    have hdrop : (Decimal.text k).dropWhile (fun c => !isLineEnd c) = [] :=
      List.dropWhile_eq_nil_iff.mpr fun c hc => by simp [numeral_not_lineEnd k c hc]
    have hnone : words isLineEnd ['\n'] = [] := rfl
    rw [words_commandChars hl hs, htake, hdrop, List.nil_append, hnone, List.cons.injEq]
    simp only [and_true, eq_true hs, true_and, askedLine]
    exact eq_comm
  · have hbroken := words_commandChars_broken letter (by simpa using hs) (Decimal.text k)
    refine iff_of_false (fun hone => ?_) fun h => hs h.1
    rw [hone, List.length_singleton] at hbroken
    omega

theorem askedLine_injective {letter : Char} {x y : List Char} {k : Int}
    (h : askedLine letter x k = askedLine letter y k) : x = y :=
  List.append_cancel_right (List.cons.inj h).2

theorem takes_int (h : Handled) (k : Int) : h.takes (.int k) = true := by
  cases h <;> rfl

/-- **One command on the bus**, for the slot and the slave that are asked for, just if the slave id
stays in its field and is that of the cabinet that is found. -/
theorem busLines_asked {U : Unicode} {a : SlotAction} {k : Int} {slave_id own : Json}
    {es : List ServiceEffect}
    (hwrites : busWrites es = (written (a.command U (.int k) slave_id)).toList) :
    (∃ line, AsksFor U own a.letter k line ∧ busLines es = [line]) ↔
      Fielded U own ∧ slave_id.pyStr U = own.pyStr U := by
  rw [command_letter] at hwrites
  have hk : (Json.int k).pyStr U = ofChars (Decimal.text k) := rfl
  have hfielded : ∀ {y : List Char}, own.pyStr U = ofChars y → (∀ c ∈ y, isLineEnd c = false) →
      ':' ∉ y → Fielded U own := by
    intro y hy hline hcolon
    rw [Fielded, hy, encode_ofChars]
    refine ⟨rfl, fun c hc => ?_⟩
    obtain ⟨d, hd, rfl⟩ := List.mem_map.mp hc
    refine ⟨hline d hd, ?_⟩
    rintro ⟨⟩
    exact hcolon hd
  constructor
  · rintro ⟨line, hasks, hlines⟩
    obtain ⟨y, hy, hcolon, rfl⟩ := asksFor_iff.mp hasks
    cases hw : written (slotCommand U a.letter (.int k) slave_id) with
    | none =>
      rw [hw] at hwrites
      rw [busLines, hwrites] at hlines
      cases hlines
    | some bytes =>
      obtain ⟨x, hx⟩ : ∃ x, slave_id.pyStr U = ofChars x := by
        refine ofChars_of_encodable ?_
        rintro ⟨n, hn⟩
        rw [(written_eq_none U a.letter (.int k) slave_id).mpr ⟨n, List.mem_append_left _ hn⟩] at hw
        cases hw
      rw [written_slotCommand U a.letter hx hk] at hwrites
      rw [busLines_one hwrites, words_encode, List.map_eq_singleton_iff] at hlines
      obtain ⟨chars, hwords, hchars⟩ := hlines
      obtain ⟨hline, rfl⟩ := (words_asked (letter_not_lineEnd a) x k chars).mp hwords
      have htexts := encode_injective (encode_ofChars _) (hchars ▸ encode_ofChars _)
      have hxy : x = y := askedLine_injective (ofChars_injective htexts.symm)
      subst hxy
      exact ⟨hfielded hy hline hcolon, hx.trans hy.symm⟩
  · rintro ⟨⟨hsome, hfield⟩, hsame⟩
    obtain ⟨bytes, hbytes⟩ := Option.isSome_iff_exists.mp hsome
    obtain ⟨y, hy, -⟩ := encode_eq_some hbytes
    rw [hy] at hfield
    have hline : ∀ c ∈ y, isLineEnd c = false := fun c hc => (hfield _ (List.mem_map_of_mem hc)).1
    have hcolon : ':' ∉ y := fun hc => (hfield _ (List.mem_map_of_mem hc)).2 rfl
    refine ⟨_, asksFor_iff.mpr ⟨y, hy, hcolon, rfl⟩, ?_⟩
    rw [written_slotCommand U a.letter (hsame.trans hy) hk] at hwrites
    rw [busLines_one hwrites, words_encode,
      (words_asked (letter_not_lineEnd a) y k _).mpr ⟨hline, rfl⟩]
    rfl

/-- **Routing, exactly**: the messages for `c` on the topic of `h` are routed if and only if that
topic is unambiguous. -/
theorem routed_iff (out : Outside) (st : CabinetState) (reply c : Dict) (h : Handled) (d : Dict)
    (k : Int) (hslot : getD d "slotIndex" .null = .int k) :
    Routed out st reply c h d k ↔ Unambiguous out.U st c h := by
  have hwrites := busWrites_message out st reply h (nameOf out.U c) d
  rw [hslot] at hwrites
  unfold Routed Unambiguous
  rw [routeOf_topic]
  by_cases hreached : h.reached (nameOf out.U c) = h
  · rw [hreached] at hwrites ⊢
    simp only [true_and]
    cases hcab : st.getCabinetByName (segment (nameOf out.U c)) with
    | none =>
      rw [hcab] at hwrites
      refine iff_of_false ?_ ?_
      · rintro ⟨line, -, hlines⟩
        rw [busLines, hwrites] at hlines
        cases hlines
      · rintro ⟨-, cab, hfound, -⟩
        cases hfound
    | some cab =>
      rw [hcab] at hwrites
      simp only [takes_int, if_true] at hwrites
      rw [busLines_asked hwrites]
      simp only [Option.some.injEq, exists_eq_left']
  · refine iff_of_false (fun hrouted => ?_) fun h => hreached h.1
    exact hreached (Handled.route_injective hrouted.1)

/-! ## Names without slashes -/

/-- Without a slash in the name, no topic of a cabinet is taken for another. -/
theorem reached_free (h : Handled) {name : PyStr} (hfree : PyChar.uni '/' ∉ name) :
    h.reached name = h := by
  cases h with
  | openLocker =>
    rw [Handled.reached, if_pos]
    rw [contains, decide_eq_true_iff]
    exact (suffix_cabinetTopic name "command/open").isInfix
  | closeLocker =>
    rw [Handled.reached, if_neg]
    rw [contains, decide_eq_true_iff]
    rintro ⟨a, r, har⟩
    -- the pieces of both sides between slashes
    have hsep : isSlash (PyChar.uni '/') = true := by decide
    have hname := not_slash_of_free hfree
    have hleft : splitSlash (Handled.closeLocker.topic name) =
        [py "cabinet", name, py "command", py "close"] := by
      have htopic : Handled.closeLocker.topic name =
          py "cabinet" ++ PyChar.uni '/' :: (name ++ PyChar.uni '/' :: (py "command" ++
            PyChar.uni '/' :: py "close")) := by
        simp [Handled.topic, cabinetTopic, py, ofChars]
      rw [htopic, splitSlash, split_line (by decide) hsep, split_line hname hsep,
        split_line (by decide) hsep, split_none (by decide)]
    have hinfix : a ++ py "/command/open" ++ r =
        a ++ PyChar.uni '/' :: (py "command" ++ PyChar.uni '/' :: (py "open" ++ r)) := by
      simp [py, ofChars]
    obtain ⟨rest, hrest⟩ := @split_head _ isSlash (py "open" ++ r)
    have hright : splitSlash (Handled.closeLocker.topic name) =
        splitSlash a ++ (py "command" :: (py "open" ++ r).takeWhile
          (fun c => !isSlash c) :: rest) := by
      rw [← har, hinfix, splitSlash, split_append_sep hsep, split_line (by decide) hsep, hrest]
      rfl
    have hopen : ∃ t, (py "open" ++ r).takeWhile (fun c => !isSlash c) =
        py "open" ++ t := by
      refine ⟨r.takeWhile (fun c => !isSlash c), ?_⟩
      rw [List.takeWhile_append_of_pos (by decide)]
    obtain ⟨t, ht⟩ := hopen
    rw [hleft, ht] at hright
    -- "command" and then a piece that starts with "open" are not among the four pieces
    generalize splitSlash a = before at hright
    rcases before with _ | ⟨x, _ | ⟨y, _ | ⟨z, _ | ⟨w, l⟩⟩⟩⟩
    · simp [py, ofChars] at hright
    · simp [py, ofChars] at hright
    · simp [py, ofChars] at hright
    · simp at hright
    · simp at hright

/-! ## Names that stay unambiguous -/

/-- Every name is a string without slashes, every slave id stays in its field, and cabinets of one name
have one slave id. -/
structure NamesOk (U : Unicode) (st : CabinetState) : Prop where
  plain : ∀ c ∈ st.allCabinets, Fielded U (slaveIdOf c) ∧
    ∃ n, getD c "name" .null = .str n ∧ PyChar.uni '/' ∉ n
  same : ∀ c ∈ st.allCabinets, ∀ c' ∈ st.allCabinets, ∀ n, getD c "name" .null = .str n →
    getD c' "name" .null = .str n → (slaveIdOf c).pyStr U = (slaveIdOf c').pyStr U

theorem NamesOk.unambiguous {U : Unicode} {st : CabinetState} (h : NamesOk U st) {c : Dict}
    (hc : c ∈ st.allCabinets) (m : Handled) : Unambiguous U st c m := by
  obtain ⟨hfielded, n, hn, hfree⟩ := h.plain c hc
  have hname : nameOf U c = n := by
    rw [nameOf, hn]
    rfl
  have hsome : (st.getCabinetByName n).isSome := by
    unfold CabinetState.getCabinetByName
    rw [List.find?_isSome]
    exact ⟨c, hc, by simp [CabinetState.named, hn]⟩
  obtain ⟨cab, hcab⟩ := Option.isSome_iff_exists.mp hsome
  obtain ⟨hmem, hcabn⟩ := CabinetState.getCabinetByName_spec hcab
  refine ⟨hname ▸ reached_free m hfree, hfielded, cab, ?_, h.same cab hmem c hc n hcabn hn⟩
  rw [hname, segment_free hfree, hcab]

/-- A cabinet is saved under a string without slashes and with a slave id that stays in its field, and
no other stored cabinet has this name and another slave id. -/
def SafeSave (U : Unicode) (st : CabinetState) : ServiceEffect → Prop
  | .saveCabinet a =>
    match a.name with
    | .str n => PyChar.uni '/' ∉ n ∧ Fielded U a.slave_id ∧
      ∀ e ∈ st.cabinets.entries, CabinetState.named n e.2 = true → a.cabinet_id.key ≠ .ok e.1 →
        (slaveIdOf e.2).pyStr U = a.slave_id.pyStr U
    | _ => False
  | _ => True

instance (U : Unicode) (st : CabinetState) (e : ServiceEffect) : Decidable (SafeSave U st e) := by
  unfold SafeSave
  cases e <;> simp only <;> first | infer_instance | skip
  rename_i a
  cases a.name <;> infer_instance

theorem NamesOk.store {U : Unicode} {st : CabinetState} (h : NamesOk U st) {a : CabinetArgs}
    (hsafe : SafeSave U st (.saveCabinet a)) {l : Json} {k : Key}
    (hk : idKey (cabinetData l a) = .ok k) : NamesOk U (st.store k (cabinetData l a) hk) := by
  have hkey : a.cabinet_id.key = .ok k := by simpa using hk
  have hname : getD (cabinetData l a) "name" .null = a.name := by simp [getD, cabinetData]
  have hslave : slaveIdOf (cabinetData l a) = a.slave_id := by simp [slaveIdOf, getD, cabinetData]
  unfold SafeSave at hsafe
  dsimp only at hsafe
  cases ha : a.name with
  | str n =>
    rw [ha] at hsafe
    obtain ⟨hfree, hfielded, hothers⟩ := hsafe
    -- a cabinet of the new state is the saved one or an old one of another key
    have hmem : ∀ c ∈ (st.store k (cabinetData l a) hk).allCabinets, c = cabinetData l a ∨
        ∃ k', k' ≠ k ∧ (k', c) ∈ st.cabinets.entries := by
      intro c hc
      obtain ⟨k', hk'⟩ := CabinetState.mem_allCabinets.mp hc
      rcases (OrdMap.mem_entries_insert _).mp hk' with ⟨-, rfl⟩ | ⟨hne, hold⟩
      · exact Or.inl rfl
      · exact Or.inr ⟨k', hne, hold⟩
    -- an old cabinet of the new name has the new slave id
    have hold : ∀ k' c, k' ≠ k → (k', c) ∈ st.cabinets.entries →
        getD c "name" .null = .str n → (slaveIdOf c).pyStr U = a.slave_id.pyStr U := by
      intro k' c hne hc hn
      refine hothers (k', c) hc (by simp [CabinetState.named, hn]) ?_
      rw [hkey]
      exact fun he => hne (Except.ok.inj he).symm
    constructor
    · intro c hc
      rcases hmem c hc with rfl | ⟨k', -, hc⟩
      · exact ⟨hslave ▸ hfielded, n, hname.trans ha, hfree⟩
      · exact h.plain c (CabinetState.mem_allCabinets.mpr ⟨k', hc⟩)
    · intro c hc c' hc' m hm hm'
      rcases hmem c hc with rfl | ⟨k₁, hne₁, hc₁⟩ <;> rcases hmem c' hc' with rfl | ⟨k₂, hne₂, hc₂⟩
      · rfl
      · have hmn : m = n := by
          rw [hname, ha] at hm
          exact (Json.str.inj hm).symm
        rw [hslave, hold k₂ c' hne₂ hc₂ (hmn ▸ hm')]
      · have hmn : m = n := by
          rw [hname, ha] at hm'
          exact (Json.str.inj hm').symm
        rw [hslave, hold k₁ c hne₁ hc₁ (hmn ▸ hm)]
      · exact h.same c (CabinetState.mem_allCabinets.mpr ⟨k₁, hc₁⟩) c'
          (CabinetState.mem_allCabinets.mpr ⟨k₂, hc₂⟩) m hm hm'
  | _ => rw [ha] at hsafe; exact hsafe.elim

/-- States with the same cabinets have the same names. -/
theorem NamesOk.congr {U : Unicode} {st st' : CabinetState} (h : NamesOk U st)
    (heq : st'.cabinets = st.cabinets) : NamesOk U st' := by
  have hall : st'.allCabinets = st.allCabinets := by simp only [CabinetState.allCabinets, heq]
  exact ⟨hall ▸ h.plain, hall ▸ h.same⟩

theorem NamesOk.none {U : Unicode} {st : CabinetState} (h : st.cabinets = .empty) :
    NamesOk U st := by
  have hall : st.allCabinets = [] := by simp only [CabinetState.allCabinets, h]; rfl
  exact ⟨by simp [hall], by simp [hall]⟩

/-- **One step**: a safe save keeps the names unambiguous. -/
theorem NamesOk.apply {U : Unicode} {st : CabinetState} (h : NamesOk U st) {e : ServiceEffect}
    (hsafe : SafeSave U st e) : NamesOk U (st.apply e) := by
  cases e with
  | clear => exact NamesOk.none rfl
  | saveLocation id name address => exact h.congr rfl
  | saveCabinet a =>
    unfold CabinetState.apply
    dsimp only
    split
    · rename_i st' hst
      rcases CabinetState.saveCabinet_cases hst with ⟨-, rfl⟩ | ⟨_, l, k, hk, -, -, -, rfl⟩
      · exact h
      · exact h.store hsafe hk
    · exact h
  | saveLockers id ls =>
    unfold CabinetState.apply
    dsimp only
    split
    · rename_i st' hst
      obtain ⟨m, rfl⟩ := CabinetState.saveLockers_ok hst
      exact h.congr rfl
    · exact h
  | _ => exact h

/-- One effect, as a step of the state. -/
def setupStep (st : CabinetState) (e : ServiceEffect) : Option CabinetState := some (st.apply e)

/-- **Command routing** in every state that setup commands lead to: the messages for a cabinet are
routed if and only if its topic is unambiguous; and when every save on the way was safe, they are
routed for all cabinets. -/
theorem command_routing (out : Outside) (cmds : List SetupCommand) :
    (∀ c ∈ (afterSetups cmds).allCabinets, ∀ (reply : Dict) (h : Handled) (d : Dict) (k : Int),
      getD d "slotIndex" .null = .int k →
        (Routed out (afterSetups cmds) reply c h d k ↔ Unambiguous out.U (afterSetups cmds) c h)) ∧
    (Along setupStep (SafeSave out.U) .empty (setupEffects cmds) →
      ∀ c ∈ (afterSetups cmds).allCabinets, ∀ (reply : Dict) (h : Handled) (d : Dict) (k : Int),
        getD d "slotIndex" .null = .int k → Routed out (afterSetups cmds) reply c h d k) := by
  refine ⟨fun c _ reply h d k hslot => routed_iff out _ reply c h d k hslot, ?_⟩
  intro hsafe c hc reply h d k hslot
  have hrun : run setupStep .empty (setupEffects cmds) = some (afterSetups cmds) := run_total _ _ _
  have hnames : NamesOk out.U (afterSetups cmds) :=
    run_invariant (I := NamesOk out.U)
      (fun st e st' hI hC hs => by cases hs; exact hI.apply hC) (setupEffects cmds) .empty
      (afterSetups cmds) (NamesOk.none rfl) hsafe hrun
  exact (routed_iff out _ reply c h d k hslot).mpr (hnames.unambiguous hc h)

/-! ## Two cabinets set up one by one -/

/-- A broker that takes every topic, a database that takes every row, and boards whose tests succeed. -/
def sampleSetupOutside : SetupOutside where
  toOutside := sampleOutside
  subscribe := fun _ => .ok ()
  persistLocation := .ok ()
  persistCabinet := fun _ => .ok ()
  persistLockers := fun _ => .ok ()
  reply := fun _ i => [(py "result", .lit "OK"), (py "slot", .int i), (py "door", .bool false)]
  testedAt := fun _ _ => py "2025-01-01T00:00:00+00:00"
  duration := fun _ => 1

/-- `SETUP_LOCKERS` for a cabinet with one slot, `naming` being its name fields. -/
def sampleSetup (id : String) (naming : Dict) (slaveId : Int) : SetupCommand where
  io := sampleSetupOutside
  payload := [(py "action", .lit "SETUP_LOCKERS"), (py "commandId", .lit "c-1"),
    (py "locationId", .lit "loc"), (py "cabinetId", .lit id), (py "slaveId", .int slaveId),
    (py "lockerLayout", .arr [.obj [(py "slotIndex", .int 0), (py "row", .int 0),
      (py "column", .int 0), (py "id", .lit "L1"), (py "label", .lit "1")]])] ++ naming
  topicPrefix := py "iot/AA:BB:CC:DD:EE:FF"

/-- Two cabinets with codes of their own. -/
def codedSetups : List SetupCommand :=
  [sampleSetup "id-1" [(py "cabinetCode", .lit "A")] 1,
    sampleSetup "id-2" [(py "cabinetCode", .lit "B")] 2]

/-- `command_routing` at two cabinets with codes of their own: every message is routed. -/
theorem command_routing_coded :
    (afterSetups codedSetups).allCabinets.length = 2 ∧
      ∀ c ∈ (afterSetups codedSetups).allCabinets, ∀ (reply : Dict) (h : Handled) (d : Dict)
        (k : Int), getD d "slotIndex" .null = .int k →
          Routed sampleOutside (afterSetups codedSetups) reply c h d k :=
  ⟨by decide +kernel, (command_routing sampleOutside codedSetups).2 (by decide +kernel)⟩

/-- Two cabinets whose commands give no code. -/
def uncodedSetups : List SetupCommand := [sampleSetup "id-1" [] 1, sampleSetup "id-2" [] 2]

/-- The dict stored for the second cabinet. -/
def uncodedSecond : Dict :=
  cabinetData (.lit "loc") ⟨.lit "id-2", .lit "Unknown", .int 0, .int 0, .int 2, .int 60, .bool true⟩

/-- **Set up one by one without a code, two cabinets get one name**: the message to open slot 0 of the
second cabinet, on slave 2, opens slot 0 of slave 1. -/
theorem uncoded_cabinets_share_topic :
    uncodedSecond ∈ (afterSetups uncodedSetups).allCabinets ∧
      busLines (handleIncomingMessage sampleOutside (afterSetups uncodedSetups) []
        (Handled.openLocker.topic (nameOf sampleOutside.U uncodedSecond))
        (some (.obj [(py "slotIndex", .int 0)]))).effects = ["S1:O0".toUTF8.toList] ∧
      ¬ Routed sampleOutside (afterSetups uncodedSetups) [] uncodedSecond .openLocker
        [(py "slotIndex", .int 0)] 0 := by
  have hmem : uncodedSecond ∈ (afterSetups uncodedSetups).allCabinets := by
    have : (afterSetups uncodedSetups).allCabinets[1]? = some uncodedSecond := by rfl
    exact List.mem_of_getElem? this
  have hsent : busLines (handleIncomingMessage sampleOutside (afterSetups uncodedSetups) []
      (Handled.openLocker.topic (nameOf sampleOutside.U uncodedSecond))
      (some (.obj [(py "slotIndex", .int 0)]))).effects = ["S1:O0".toUTF8.toList] := by
    decide +kernel
  refine ⟨hmem, hsent, ?_⟩
  rintro ⟨-, line, ⟨-, hline⟩, hone⟩
  rw [hsent, List.cons.injEq] at hone
  rw [← hone.1] at hline
  exact absurd hline (by decide +kernel)

end SmartLocker.System
