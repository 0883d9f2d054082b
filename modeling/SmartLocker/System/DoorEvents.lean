import SmartLocker.Gateway.Reports
import SmartLocker.System.SetupRun

/-!
# Attribution of door events

A door event carries the id of a slave, and `handle_door_event` takes the first stored cabinet that has
it.  Saving a cabinet takes its slave from no other, so that this need not be the cabinet that was saved
last.  `door_attribution` says after which setup commands it is: when the cabinet saved last on the
slave is still on it and no cabinet on that slave is stored before it (and the event can be published at
all, under topics that no other cabinet's name claims).
-/

set_option autoImplicit false

namespace SmartLocker.System

open Lib Lib.Python SmartLocker.Gateway

/-! ## The cabinet saved last -/

/-- The saves since the last clear, the latest first. -/
def remember (saves : List CabinetArgs) : ServiceEffect → List CabinetArgs
  | .clear => []
  | .saveCabinet a => a :: saves
  | _ => saves

/-- The cabinet saved last with the slave id, since the last clear. -/
def lastSavedOn (slave_id : Json) (es : List ServiceEffect) : Option CabinetArgs :=
  (es.foldl remember []).find? (fun a => a.slave_id.pyEq slave_id)

/-- `v` is the dict key `k`. -/
def hasKey (k : Key) (v : Json) : Bool :=
  match v.key with
  | .ok k' => k' = k
  | .error _ => false

theorem hasKey_iff {k : Key} {v : Json} : hasKey k v = true ↔ v.key = .ok k := by
  unfold hasKey
  cases v.key with
  | error e => simp
  | ok k' => simp

/-- The first to meet `p` and the first to meet `q` are one, when each meets the other. -/
theorem find?_agree {α : Type} {p q : α → Bool} {l : List α} {a b : α} (ha : l.find? p = some a)
    (hb : l.find? q = some b) (hqa : q a = true) (hpb : p b = true) : a = b := by
  induction l with
  | nil => cases ha
  | cons x l ih =>
    rw [List.find?_cons] at ha hb
    cases hp : p x with
    | true =>
      rw [hp] at ha
      cases ha
      rw [hqa] at hb
      exact Option.some.inj hb
    | false =>
      rw [hp] at ha
      cases hq : q x with
      | true =>
        rw [hq] at hb
        cases hb
        rw [hpb] at hp
        cases hp
      | false =>
        rw [hq] at hb
        exact ih ha hb

/-! ## Attribution -/

/-- The topic is under the prefix of a cabinet of that name. -/
def Under (U : Unicode) (name : Json) (topic : PyStr) : Prop :=
  cabinetPrefix U name ++ py "/" <+: topic

instance (U : Unicode) (name : Json) (topic : PyStr) : Decidable (Under U name topic) :=
  inferInstanceAs (Decidable (_ <+: _))

/-- The event is published under the prefix of the cabinet `a` and recorded in its state, and of no
other cabinet. -/
structure Attributed (out : Outside) (st : CabinetState) (slot_index : Json) (event : DoorEvent)
    (slave_id : Json) (a : CabinetArgs) : Prop where
  published : ∃ topic payload,
    .publish topic payload ∈ (handleDoorEvent out st slot_index event slave_id).effects
  under : ∀ topic payload,
    .publish topic payload ∈ (handleDoorEvent out st slot_index event slave_id).effects →
      Under out.U a.name topic
  recorded : ∃ k s, a.cabinet_id.key = .ok k ∧ slot_index.key = .ok s ∧
    .setState k s event.hwState ∈ (handleDoorEvent out st slot_index event slave_id).effects
  others : ∀ k c, (k, c) ∈ st.cabinets.entries → a.cabinet_id.key ≠ .ok k →
    (∀ topic payload,
      .publish topic payload ∈ (handleDoorEvent out st slot_index event slave_id).effects →
        ¬ Under out.U (getD c "name" .null) topic) ∧
    ∀ s hw_state, .setState k s hw_state ∉ (handleDoorEvent out st slot_index event slave_id).effects

/-- The stored cabinet is on the slave. -/
def OnSlave (slave_id : Json) (c : Dict) : Prop := (getD c "slaveId" .null).pyEq slave_id = true

instance (slave_id : Json) (c : Dict) : Decidable (OnSlave slave_id c) :=
  inferInstanceAs (Decidable (_ = true))

/-- The topics of the messages about an event of the cabinet `a`. -/
def doorTopics (U : Unicode) (st : CabinetState) (a : CabinetArgs) (slot_index : Json)
    (event : DoorEvent) : List PyStr :=
  (match lookupLocker st a.cabinet_id slot_index >>= lockerIdOf U slot_index with
  | .ok locker_id => [cabinetPrefix U a.name ++ py "/locker/" ++ locker_id.pyStr U ++ py "/status"]
  | .error _ => []) ++
  if event = .DOOR_CLOSED then [cabinetPrefix U a.name ++ py "/command/close"] else []

/-- The cabinet `a` is still on the slave, no cabinet that is stored before it is on it, and nothing
else stops the event: the slot is a dict key, the client takes the topics, and no name of another
cabinet claims them. -/
structure Attributable (out : Outside) (st : CabinetState) (slot_index : Json) (event : DoorEvent)
    (slave_id : Json) (a : CabinetArgs) : Prop where
  first : ∃ k c before after, a.cabinet_id.key = .ok k ∧
    st.cabinets.entries = before ++ (k, c) :: after ∧ OnSlave slave_id c ∧
      ∀ e ∈ before, ¬ OnSlave slave_id e.2
  slot : slot_index.hashable = true
  accepted : ∀ topic ∈ doorTopics out.U st a slot_index event, out.publish topic = .ok ()
  unclaimed : ∀ k c, (k, c) ∈ st.cabinets.entries → a.cabinet_id.key ≠ .ok k →
    ∀ topic ∈ doorTopics out.U st a slot_index event, ¬ Under out.U (getD c "name" .null) topic

/-! ## What setups store -/

/-- Each cabinet is stored as it was last saved, and each locker with an id. -/
structure Remembered (saves : List CabinetArgs) (st : CabinetState) : Prop where
  stored : ∀ k c, (k, c) ∈ st.cabinets.entries →
    ∃ a l, saves.find? (fun a => hasKey k a.cabinet_id) = some a ∧ c = cabinetData l a
  lockers : ∀ c s d, st.getLockerBySlot c s = some d → ∃ e d' v, d = e :: d' ∧ item d "id" = .ok v

/-- The location has an id. -/
def Located (st : CabinetState) : Prop := ∃ loc l, st.location = some loc ∧ item loc "id" = .ok l

/-- An effect that a run has for its cabinets. -/
def CabinetEffect : ServiceEffect → Prop
  | .clear => False
  | .saveLocation _ _ _ => False
  | .saveCabinet a => ∃ k, a.cabinet_id.key = .ok k
  | _ => True

theorem TestEffect.cabinetEffect {e : ServiceEffect} (h : TestEffect e) : CabinetEffect e := by
  cases e with
  | write _ => trivial
  | publish _ _ => trivial
  | _ => exact h.elim

theorem storeReported_cabinetEffects {io : SetupOutside} {j : Nat} {r : Report} :
    ∀ e ∈ (storeReported io j r).effects, CabinetEffect e := by
  intro e he
  rw [storeReported_effects] at he
  split at he
  · cases he
  cases hkey : r.cabinet_id.key with
  | error err =>
    rw [hkey] at he
    cases he
  | ok k =>
    rw [hkey] at he
    rcases List.mem_cons.mp he with rfl | he
    · exact ⟨k, hkey⟩
    · unfold afterSave at he
      split at he
      · rcases List.mem_cons.mp he with rfl | he
        · trivial
        · split at he
          · simp only [List.mem_cons, List.not_mem_nil, or_false] at he
            rcases he with rfl | rfl <;> trivial
          · cases he
      · cases he

theorem setupCabinets_cabinetEffects {io : SetupOutside} {topicPrefix : PyStr} {command_id : Json}
    (cabs : List (Json × Nat)) :
    ∀ e ∈ (setupCabinets io topicPrefix command_id cabs).effects, CabinetEffect e := by
  induction cabs with
  | nil => exact fun e he => absurd he (by simp [setupCabinets])
  | cons c cabs ih =>
    intro e he
    unfold setupCabinets at he
    rcases Py.mem_bind_effects he with he | ⟨_, he⟩
    · rw [setupCabinet_eq] at he
      rcases Py.mem_bind_effects he with he | ⟨r, he⟩
      · exact (reportCabinet_effects _ _ _ _ _ e he).cabinetEffect
      · exact storeReported_cabinetEffects e he
    · exact ih e he

theorem cabinetEffects_cabinetEffects {io : SetupOutside} {payload : Dict} {topicPrefix : PyStr}
    {cabs : List Json} : ∀ e ∈ cabinetEffects io payload topicPrefix cabs, CabinetEffect e := by
  unfold cabinetEffects
  cases io.persistLocation with
  | error e => exact fun e he => absurd he List.not_mem_nil
  | ok _ => exact setupCabinets_cabinetEffects _

/-- The location stays as it is. -/
theorem Located.apply {st : CabinetState} (h : Located st) {e : ServiceEffect} (he : CabinetEffect e) :
    Located (st.apply e) := by
  cases e with
  | clear => exact he.elim
  | saveLocation _ _ _ => exact he.elim
  | saveCabinet a =>
    unfold CabinetState.apply
    dsimp only
    split
    · rename_i st' hst
      rcases CabinetState.saveCabinet_cases hst with ⟨-, rfl⟩ | ⟨_, _, _, _, -, -, -, rfl⟩
      · exact h
      · exact h
    · exact h
  | saveLockers id ls =>
    unfold CabinetState.apply
    dsimp only
    split
    · rename_i st' hst
      obtain ⟨m, rfl⟩ := CabinetState.saveLockers_ok hst
      exact h
    · exact h
  | _ => exact h

theorem Remembered.save {saves : List CabinetArgs} {st : CabinetState} (h : Remembered saves st)
    (hloc : Located st) {a : CabinetArgs} {k : Key} (hk : a.cabinet_id.key = .ok k) :
    Remembered (a :: saves) (st.apply (.saveCabinet a)) := by
  obtain ⟨loc, l, hl, hid⟩ := hloc
  have hkey : idKey (cabinetData l a) = .ok k := by rwa [idKey_cabinetData]
  have hst : st.apply (.saveCabinet a) = st.store k (cabinetData l a) hkey := by
    have hsave := CabinetState.saveCabinet_ok hl hid hkey
    simp only [CabinetState.apply, hsave]
  rw [hst]
  refine ⟨fun k' c hc => ?_, h.lockers⟩
  rcases (OrdMap.mem_entries_insert _).mp hc with ⟨rfl, rfl⟩ | ⟨hne, hold⟩
  · exact ⟨a, l, by rw [List.find?_cons, hasKey_iff.mpr hk], rfl⟩
  · obtain ⟨b, l', hb, hc⟩ := h.stored k' c hold
    refine ⟨b, l', ?_, hc⟩
    have hother : hasKey k' a.cabinet_id = false := by
      rw [Bool.eq_false_iff]
      intro hk'
      rw [hasKey_iff, hk] at hk'
      exact hne (Except.ok.inj hk').symm
    rw [List.find?_cons, hother]
    exact hb

/-- A dict that `lockerData` makes. -/
theorem lockerData_id {cabinet_id : Json} {d : Dict} {k : Key} {r : Dict}
    (h : lockerData cabinet_id d = .ok (k, r)) : ∃ e d' v, r = e :: d' ∧ item r "id" = .ok v := by
  obtain ⟨slot, -, h⟩ := except_bind_ok.mp h
  obtain ⟨id, -, h⟩ := except_bind_ok.mp h
  obtain ⟨label, -, h⟩ := except_bind_ok.mp h
  obtain ⟨s, -, h⟩ := except_bind_ok.mp h
  cases h
  exact ⟨_, _, id, rfl, by simp [item]⟩

theorem Remembered.lockersSaved {saves : List CabinetArgs} {st st' : CabinetState}
    (h : Remembered saves st) {cabinet_id : Json} {ls : List Dict}
    (hst : st.saveLockers cabinet_id ls = .ok st') : Remembered saves st' := by
  obtain ⟨entries, hentries, hst⟩ := except_bind_ok.mp hst
  obtain ⟨k, -, hst⟩ := except_bind_ok.mp hst
  cases hst
  refine ⟨h.stored, fun c s d hd => ?_⟩
  unfold CabinetState.getLockerBySlot at hd
  dsimp only at hd
  rw [OrdMap.find?_insert] at hd
  split at hd
  · rw [Option.bind_some, OrdMap.find?_ofList] at hd
    obtain ⟨before, after, hsplit, -⟩ := List.lookup_eq_some_iff.mp hd
    have hmem : (s, d) ∈ entries := List.mem_reverse.mp (by rw [hsplit]; simp)
    obtain ⟨l, -, hl⟩ := exists_of_mem_mapM hentries hmem
    exact lockerData_id hl
  · exact h.lockers c s d hd

/-- **One effect** of a run for its cabinets. -/
theorem Remembered.effect {saves : List CabinetArgs} {st : CabinetState} (h : Remembered saves st)
    (hloc : Located st) {e : ServiceEffect} (he : CabinetEffect e) :
    Remembered (remember saves e) (st.apply e) := by
  cases e with
  | clear => exact he.elim
  | saveLocation _ _ _ => exact he.elim
  | saveCabinet a =>
    obtain ⟨k, hk⟩ := he
    exact h.save hloc hk
  | saveLockers id ls =>
    cases hst : st.saveLockers id ls with
    | error err =>
      have happly : st.apply (.saveLockers id ls) = st := by simp only [CabinetState.apply, hst]
      rw [happly]
      exact h
    | ok st' =>
      have happly : st.apply (.saveLockers id ls) = st' := by simp only [CabinetState.apply, hst]
      rw [happly]
      exact h.lockersSaved hst
  | _ => exact h

theorem Remembered.effects {saves : List CabinetArgs} {st : CabinetState} (h : Remembered saves st)
    (hloc : Located st) (es : List ServiceEffect) (hes : ∀ e ∈ es, CabinetEffect e) :
    Remembered (es.foldl remember saves) (es.foldl CabinetState.apply st) := by
  induction es generalizing saves st with
  | nil => exact h
  | cons e es ih =>
    have he := hes e List.mem_cons_self
    exact ih (h.effect hloc he) (hloc.apply he) fun e' he' => hes e' (List.mem_cons_of_mem _ he')

theorem Remembered.location {saves : List CabinetArgs} {st : CabinetState} (h : Remembered saves st)
    (payload : Dict) :
    Remembered ((locationEffects payload).foldl remember saves)
        ((locationEffects payload).foldl CabinetState.apply st) ∧
      Located ((locationEffects payload).foldl CabinetState.apply st) := by
  unfold locationEffects
  split
  · refine ⟨⟨fun k c hc => ?_, h.lockers⟩, _, _, rfl, rfl⟩
    cases hc
  · exact ⟨⟨h.stored, h.lockers⟩, _, _, rfl, rfl⟩

theorem Remembered.tests {saves : List CabinetArgs} {st : CabinetState} (h : Remembered saves st)
    (es : List ServiceEffect) (hes : ∀ e ∈ es, TestEffect e) :
    Remembered (es.foldl remember saves) (es.foldl CabinetState.apply st) := by
  induction es generalizing saves st with
  | nil => exact h
  | cons e es ih =>
    have htail := fun e' he' => hes e' (List.mem_cons_of_mem _ he')
    have he := hes e List.mem_cons_self
    cases e with
    | write _ => exact ih h htail
    | publish _ _ => exact ih h htail
    | _ => exact he.elim

/-- **A run** keeps what is stored as it was last saved. -/
theorem Remembered.run {saves : List CabinetArgs} {st : CabinetState} (h : Remembered saves st)
    (c : SetupCommand) :
    Remembered ((processSetup c.io c.payload c.topicPrefix).foldl remember saves)
      ((processSetup c.io c.payload c.topicPrefix).foldl CabinetState.apply st) := by
  have hhandled := h.tests _ (handleSetup_effects c.io c.payload c.topicPrefix)
  unfold processSetup
  dsimp only
  split
  · rw [List.foldl_append, List.foldl_append, runSetup_eq]
    cases visitedCabinets c.payload with
    | error e => exact hhandled
    | ok cabs =>
      obtain ⟨h', hloc⟩ := hhandled.location c.payload
      dsimp only
      rw [List.foldl_append, List.foldl_append]
      exact h'.effects hloc _ cabinetEffects_cabinetEffects
  · exact hhandled

theorem remembered_afterSetups (cmds : List SetupCommand) :
    Remembered ((setupEffects cmds).foldl remember []) (afterSetups cmds) := by
  have hall : ∀ (cmds : List SetupCommand) (saves : List CabinetArgs) (st : CabinetState),
      Remembered saves st → Remembered ((setupEffects cmds).foldl remember saves)
        ((setupEffects cmds).foldl CabinetState.apply st) := by
    intro cmds
    induction cmds with
    | nil => exact fun _ _ h => h
    | cons c cmds ih =>
      intro saves st h
      unfold setupEffects
      rw [List.flatMap_cons, List.foldl_append, List.foldl_append]
      exact ih _ _ (h.run c)
  refine hall cmds [] .empty ⟨fun k c hc => ?_, fun c s d hd => ?_⟩
  · cases hc
  · cases hd

/-! ## What an event does -/

/-- The messages about an event of the cabinet `a`, for a locker id. -/
def doorMessages (out : Outside) (a : CabinetArgs) (locker_id slot_index : Json) (event : DoorEvent) :
    List (PyStr × Dict) :=
  (cabinetPrefix out.U a.name ++ py "/locker/" ++ locker_id.pyStr out.U ++ py "/status",
    statusPayload locker_id slot_index event (out.now 0)) ::
  if event = .DOOR_CLOSED then
    [(cabinetPrefix out.U a.name ++ py "/command/close",
      [(py "cabinetId", a.cabinet_id), (py "slotIndex", slot_index)])]
  else []

/-- Publishing one message after another. -/
def publishAll (out : Outside) : List (PyStr × Dict) → Py ServiceEffect Unit
  | [] => pure ()
  | m :: rest => do
    mqttPublish out m.1 m.2
    publishAll out rest

theorem reportDoor_eq (out : Outside) (st : CabinetState) (l : Json) (a : CabinetArgs)
    (slot_index : Json) (event : DoorEvent) :
    reportDoor out st (cabinetData l a) slot_index event =
      (Py.ofExcept (lookupLocker st a.cabinet_id slot_index >>= lockerIdOf out.U slot_index) >>=
        fun locker_id => publishAll out (doorMessages out a locker_id slot_index event) >>= fun _ =>
          updateLockerState a.cabinet_id slot_index event.hwState) := by
  have hcid : item (cabinetData l a) "id" = .ok a.cabinet_id := by simp [item, cabinetData]
  have hname : item (cabinetData l a) "name" = .ok a.name := by simp [item, cabinetData]
  unfold reportDoor doorMessages publishAll
  simp only [hcid, hname, Py.ofExcept_ok_bind, Py.ofExcept_bind, Py.bind_assoc]
  cases event with
  | DOOR_OPENED => simp [publishAll]
  | DOOR_CLOSED => simp [publishAll, Py.bind_assoc]

theorem publishAll_ok {out : Outside} {ms : List (PyStr × Dict)}
    (h : ∀ m ∈ ms, out.publish m.1 = .ok ()) :
    publishAll out ms = ⟨ms.map fun m => .publish m.1 m.2, .ok ()⟩ := by
  induction ms with
  | nil => rfl
  | cons m ms ih =>
    unfold publishAll
    rw [mqttPublish_ok (h m List.mem_cons_self), Py.mk_ok_bind,
      ih fun m' hm' => h m' (List.mem_cons_of_mem _ hm')]
    rfl

theorem publishAll_accepts {out : Outside} {ms : List (PyStr × Dict)}
    (h : (publishAll out ms).result = .ok ()) : ∀ m ∈ ms, out.publish m.1 = .ok () := by
  induction ms with
  | nil => exact fun m hm => absurd hm List.not_mem_nil
  | cons m ms ih =>
    obtain ⟨_, hm, hrest, -⟩ := Py.bind_result_ok h
    intro m' hm'
    rcases List.mem_cons.mp hm' with rfl | hm'
    · cases hp : out.publish m'.1 with
      | ok _ => rfl
      | error e =>
        rw [mqttPublish_error hp] at hm
        cases hm
    · exact ih hrest m' hm'

/-- Publishing does nothing else. -/
theorem publishAll_publishes {out : Outside} {ms : List (PyStr × Dict)} :
    ∀ e ∈ (publishAll out ms).effects, ∃ m ∈ ms, e = .publish m.1 m.2 := by
  induction ms with
  | nil => exact fun e he => absurd he (by simp [publishAll])
  | cons m ms ih =>
    intro e he
    unfold publishAll at he
    rcases Py.mem_bind_effects he with he | ⟨_, he⟩
    · rcases Py.mem_bind_effects he with he | ⟨_, he⟩
      · cases he
      · exact ⟨m, List.mem_cons_self, List.mem_singleton.mp he⟩
    · obtain ⟨m', hm', he⟩ := ih e he
      exact ⟨m', List.mem_cons_of_mem _ hm', he⟩

theorem setState_of_update {cabinet_id slot_index : Json} {hw_state hw : LockerHwState} {k s : Key}
    (h : ServiceEffect.setState k s hw ∈ (updateLockerState cabinet_id slot_index hw_state).effects) :
    cabinet_id.key = .ok k ∧ slot_index.key = .ok s ∧ hw = hw_state := by
  unfold updateLockerState at h
  cases hc : cabinet_id.key with
  | error e =>
    rw [hc] at h
    cases h
  | ok c =>
    cases hs : slot_index.key with
    | error e =>
      rw [hc, hs] at h
      cases h
    | ok s' =>
      rw [hc, hs] at h
      obtain ⟨rfl, rfl, rfl⟩ := ServiceEffect.setState.inj (List.mem_singleton.mp h)
      exact ⟨rfl, rfl, rfl⟩

/-- The cabinet of a slave, with the cabinets stored before it. -/
theorem cabinetOfSlave_some {st : CabinetState} {slave_id : Json} {c : Dict} :
    cabinetOfSlave st slave_id = some c ↔ ∃ k before after,
      st.cabinets.entries = before ++ (k, c) :: after ∧ OnSlave slave_id c ∧
        ∀ e ∈ before, ¬ OnSlave slave_id e.2 := by
  unfold cabinetOfSlave CabinetState.allCabinets OrdMap.values OnSlave
  rw [List.find?_map, Option.map_eq_some_iff]
  constructor
  · rintro ⟨⟨k, c'⟩, hfind, rfl⟩
    obtain ⟨hon, before, after, hsplit, hbefore⟩ := List.find?_eq_some_iff_append.mp hfind
    exact ⟨k, before, after, hsplit, hon, fun e he => by simpa using hbefore e he⟩
  · rintro ⟨k, before, after, hsplit, hon, hbefore⟩
    refine ⟨(k, c), List.find?_eq_some_iff_append.mpr ⟨hon, before, after, hsplit, fun e he => ?_⟩, rfl⟩
    simpa using hbefore e he

/-- A state that an event records is of the cabinet that was found. -/
theorem setState_of_reportDoor {out : Outside} {st : CabinetState} {l : Json} {a : CabinetArgs}
    {slot_index : Json} {event : DoorEvent} {k s : Key} {hw : LockerHwState}
    (h : .setState k s hw ∈ (reportDoor out st (cabinetData l a) slot_index event).effects) :
    a.cabinet_id.key = .ok k ∧ slot_index.key = .ok s ∧ hw = event.hwState ∧
      ∃ locker_id, (lookupLocker st a.cabinet_id slot_index >>= lockerIdOf out.U slot_index) =
          .ok locker_id ∧
        ∀ m ∈ doorMessages out a locker_id slot_index event, out.publish m.1 = .ok () := by
  rw [reportDoor_eq] at h
  cases hid : lookupLocker st a.cabinet_id slot_index >>= lockerIdOf out.U slot_index with
  | error e =>
    rw [hid] at h
    cases h
  | ok locker_id =>
    rw [hid, Py.ofExcept_ok_bind] at h
    cases hms : (publishAll out (doorMessages out a locker_id slot_index event)).result with
    | error e =>
      rw [Py.bind_error hms] at h
      obtain ⟨m, -, hm⟩ := publishAll_publishes _ h
      cases hm
    | ok _ =>
      have haccepted := publishAll_accepts hms
      rw [publishAll_ok haccepted, Py.mk_ok_bind] at h
      rcases List.mem_append.mp h with h | h
      · simp at h
      · obtain ⟨hc, hs, hhw⟩ := setState_of_update h
        exact ⟨hc, hs, hhw, locker_id, rfl, haccepted⟩

theorem doorTopics_eq {out : Outside} {st : CabinetState} {a : CabinetArgs} {slot_index : Json}
    (event : DoorEvent) {locker_id : Json}
    (hid : (lookupLocker st a.cabinet_id slot_index >>= lockerIdOf out.U slot_index) = .ok locker_id) :
    doorTopics out.U st a slot_index event =
      (doorMessages out a locker_id slot_index event).map Prod.fst := by
  unfold doorTopics doorMessages
  rw [hid]
  cases event with
  | DOOR_OPENED => simp
  | DOOR_CLOSED => simp

theorem under_of_doorTopics {U : Unicode} {st : CabinetState} {a : CabinetArgs} {slot_index : Json}
    {event : DoorEvent} {topic : PyStr} (h : topic ∈ doorTopics U st a slot_index event) :
    Under U a.name topic := by
  have hlocker : py "/locker/" = py "/" ++ py "locker/" := by decide
  have hcommand : py "/command/close" = py "/" ++ py "command/close" := by decide
  unfold doorTopics at h
  unfold Under
  rcases List.mem_append.mp h with h | h
  · split at h
    · rename_i locker_id _
      rw [List.mem_singleton.mp h, hlocker]
      exact ⟨py "locker/" ++ locker_id.pyStr U ++ py "/status", by simp⟩
    · cases h
  · split at h
    · rw [List.mem_singleton.mp h, hcommand]
      exact ⟨py "command/close", by simp⟩
    · cases h

/-! ## Attribution after setups -/

/-- A stored cabinet that was saved last on its slave is stored as it was saved then. -/
theorem Remembered.last {saves : List CabinetArgs} {st : CabinetState} (h : Remembered saves st)
    {slave_id : Json} {a : CabinetArgs} (ha : saves.find? (fun a => a.slave_id.pyEq slave_id) = some a)
    {k : Key} {c : Dict} (hc : (k, c) ∈ st.cabinets.entries) (hk : a.cabinet_id.key = .ok k)
    (hon : OnSlave slave_id c) : ∃ l, c = cabinetData l a := by
  obtain ⟨b, l, hb, rfl⟩ := h.stored k c hc
  have hslave : b.slave_id.pyEq slave_id = true := by
    have hget : getD (cabinetData l b) "slaveId" .null = b.slave_id := by simp [getD, cabinetData]
    unfold OnSlave at hon
    rwa [hget] at hon
  rw [find?_agree ha hb (hasKey_iff.mpr hk) hslave]
  exact ⟨l, rfl⟩

theorem Attributed.attributable {saves : List CabinetArgs} {out : Outside} {st : CabinetState}
    (hst : Remembered saves st) {slot_index : Json} {event : DoorEvent} {slave_id : Json}
    {a : CabinetArgs} (ha : saves.find? (fun a => a.slave_id.pyEq slave_id) = some a)
    (h : Attributed out st slot_index event slave_id a) :
    Attributable out st slot_index event slave_id a := by
  obtain ⟨k, s, hk, hs, hset⟩ := h.recorded
  have hothers := h.others
  unfold handleDoorEvent at hset hothers
  cases hcab : cabinetOfSlave st slave_id with
  | none =>
    rw [hcab] at hset
    cases hset
  | some c =>
    rw [hcab] at hset hothers
    dsimp only at hset hothers
    obtain ⟨k', before, after, hsplit, hon, hbefore⟩ := cabinetOfSlave_some.mp hcab
    have hmem : (k', c) ∈ st.cabinets.entries := by rw [hsplit]; simp
    obtain ⟨b, l, hb, rfl⟩ := hst.stored k' c hmem
    obtain ⟨hk', -, -, -⟩ := setState_of_reportDoor hset
    have hkb : b.cabinet_id.key = .ok k' :=
      hasKey_iff.mp (List.find?_some (p := fun a : CabinetArgs => hasKey k' a.cabinet_id) hb)
    have hkk : k' = k := by
      rw [hkb] at hk'
      exact Except.ok.inj hk'
    subst hkk
    obtain ⟨l', hl'⟩ := hst.last ha hmem hk hon
    rw [hl'] at hset hothers hsplit hon
    obtain ⟨-, -, -, locker_id, hid, haccepted⟩ := setState_of_reportDoor hset
    have htopics := doorTopics_eq event hid
    refine ⟨⟨k', _, before, after, hk, hsplit, hon, hbefore⟩, hashable_of_key hs, ?_, ?_⟩
    · intro topic htopic
      rw [htopics] at htopic
      obtain ⟨m, hm, rfl⟩ := List.mem_map.mp htopic
      exact haccepted m hm
    · intro k₁ c₁ hc₁ hne topic htopic
      rw [htopics] at htopic
      obtain ⟨m, hm, rfl⟩ := List.mem_map.mp htopic
      refine (hothers k₁ c₁ hc₁ hne).1 m.1 m.2 ?_
      rw [reportDoor_eq, hid, Py.ofExcept_ok_bind, publishAll_ok haccepted, Py.mk_ok_bind]
      exact List.mem_append_left _ (List.mem_map.mpr ⟨m, hm, rfl⟩)

/-- A remembered locker has an id that can be printed. -/
theorem Remembered.lockerId {saves : List CabinetArgs} {st : CabinetState} (hst : Remembered saves st)
    (out : Outside) {cabinet_id slot_index : Json} {k s : Key} (hk : cabinet_id.key = .ok k)
    (hs : slot_index.key = .ok s) :
    ∃ locker_id, (lookupLocker st cabinet_id slot_index >>= lockerIdOf out.U slot_index) =
      .ok locker_id := by
  have hlookup : lookupLocker st cabinet_id slot_index = .ok (st.getLockerBySlot k s) := by
    unfold lookupLocker
    rw [hk, hs]
    rfl
  rw [hlookup]
  cases hd : st.getLockerBySlot k s with
  | none => exact ⟨_, rfl⟩
  | some d =>
    obtain ⟨e, d', v, rfl, hv⟩ := hst.lockers k s d hd
    exact ⟨v, hv⟩

/-- **What an attributable event does**: all its messages are published and its state is recorded. -/
theorem Attributable.effects {saves : List CabinetArgs} {out : Outside} {st : CabinetState}
    (hst : Remembered saves st) {slot_index : Json} {event : DoorEvent} {slave_id : Json}
    {a : CabinetArgs} (ha : saves.find? (fun a => a.slave_id.pyEq slave_id) = some a)
    (h : Attributable out st slot_index event slave_id a) :
    ∃ k s locker_id, a.cabinet_id.key = .ok k ∧ slot_index.key = .ok s ∧
      doorTopics out.U st a slot_index event =
        (doorMessages out a locker_id slot_index event).map Prod.fst ∧
      (handleDoorEvent out st slot_index event slave_id).effects =
        (doorMessages out a locker_id slot_index event).map (fun m => .publish m.1 m.2) ++
          [.setState k s event.hwState] := by
  obtain ⟨k, c, before, after, hk, hsplit, hon, hbefore⟩ := h.first
  have hmem : (k, c) ∈ st.cabinets.entries := by rw [hsplit]; simp
  obtain ⟨l, rfl⟩ := hst.last ha hmem hk hon
  have hcab := cabinetOfSlave_some.mpr ⟨k, before, after, hsplit, hon, hbefore⟩
  obtain ⟨s, hs⟩ := key_ok h.slot
  obtain ⟨locker_id, hid⟩ := hst.lockerId out hk hs
  have htopics := doorTopics_eq event hid
  have haccepted : ∀ m ∈ doorMessages out a locker_id slot_index event, out.publish m.1 = .ok () := by
    intro m hm
    refine h.accepted m.1 ?_
    rw [htopics]
    exact List.mem_map_of_mem hm
  refine ⟨k, s, locker_id, hk, hs, htopics, ?_⟩
  unfold handleDoorEvent
  rw [hcab]
  dsimp only
  rw [reportDoor_eq, hid, Py.ofExcept_ok_bind, publishAll_ok haccepted, Py.mk_ok_bind,
    updateLockerState_eq hk hs]

theorem Attributable.attributed {saves : List CabinetArgs} {out : Outside} {st : CabinetState}
    (hst : Remembered saves st) {slot_index : Json} {event : DoorEvent} {slave_id : Json}
    {a : CabinetArgs} (ha : saves.find? (fun a => a.slave_id.pyEq slave_id) = some a)
    (h : Attributable out st slot_index event slave_id a) :
    Attributed out st slot_index event slave_id a := by
  obtain ⟨k, s, locker_id, hk, hs, htopics, heffects⟩ := h.effects hst ha
  have hpublish : ∀ topic payload,
      .publish topic payload ∈ (handleDoorEvent out st slot_index event slave_id).effects →
        topic ∈ doorTopics out.U st a slot_index event := by
    intro topic payload hmem
    rw [heffects] at hmem
    rw [htopics]
    rcases List.mem_append.mp hmem with hmem | hmem
    · obtain ⟨m, hm, heq⟩ := List.mem_map.mp hmem
      obtain ⟨rfl, -⟩ := ServiceEffect.publish.inj heq
      exact List.mem_map_of_mem hm
    · simp at hmem
  constructor
  · unfold doorMessages at heffects
    rw [heffects]
    exact ⟨_, _, List.mem_cons_self⟩
  · exact fun topic payload hmem => under_of_doorTopics (hpublish topic payload hmem)
  · refine ⟨k, s, hk, hs, ?_⟩
    rw [heffects]
    simp
  · intro k₁ c₁ hc₁ hne
    refine ⟨fun topic payload hmem => h.unclaimed k₁ c₁ hc₁ hne topic (hpublish topic payload hmem),
      fun s₁ hw hmem => ?_⟩
    rw [heffects] at hmem
    rcases List.mem_append.mp hmem with hmem | hmem
    · simp at hmem
    · obtain ⟨rfl, -, -⟩ := ServiceEffect.setState.inj (List.mem_singleton.mp hmem)
      exact hne hk

/-- **Attribution of door events**, after setup commands one after another: an event of a slave is
published and recorded as one of the cabinet saved last with its id, and of no other, if and only if
that cabinet is still on the slave, no cabinet that is stored before it is on it, and the event can be
published under topics of its own. -/
theorem door_attribution (out : Outside) (cmds : List SetupCommand) (slot_index : Json)
    (event : DoorEvent) (slave_id : Json) (a : CabinetArgs)
    (ha : lastSavedOn slave_id (setupEffects cmds) = some a) :
    Attributed out (afterSetups cmds) slot_index event slave_id a ↔
      Attributable out (afterSetups cmds) slot_index event slave_id a :=
  ⟨fun h => h.attributable (remembered_afterSetups cmds) ha,
    fun h => h.attributed (remembered_afterSetups cmds) ha⟩

/-! ## Two cabinets -/

/-- Cabinet `B` as a setup on the slave saves it. -/
def savedB (slaveId : Int) : CabinetArgs :=
  ⟨.lit "id-2", .lit "B", .int 0, .int 0, .int slaveId, .int 60, .bool true⟩

/-- `door_attribution` at two cabinets on slaves of their own. -/
theorem door_attribution_own_slaves :
    lastSavedOn (.int 2) (setupEffects codedSetups) = some (savedB 2) ∧
      Attributed sampleOutside (afterSetups codedSetups) (.int 0) .DOOR_CLOSED (.int 2) (savedB 2) := by
  have hlast : lastSavedOn (.int 2) (setupEffects codedSetups) = some (savedB 2) := by rfl
  refine ⟨hlast, (door_attribution sampleOutside codedSetups _ _ _ _ hlast).mpr ?_⟩
  have hother : ∀ e ∈ (afterSetups codedSetups).cabinets.entries,
      hasKey e.1 (savedB 2).cabinet_id = false →
        ∀ topic ∈ doorTopics sampleOutside.U (afterSetups codedSetups) (savedB 2) (.int 0) .DOOR_CLOSED,
          ¬ Under sampleOutside.U (getD e.2 "name" .null) topic := by decide +kernel
  refine ⟨⟨_, _, [_], [], rfl, rfl, by decide +kernel, by decide +kernel⟩, rfl, fun _ _ => rfl,
    fun k c hc hne => hother (k, c) hc ?_⟩
  rw [Bool.eq_false_iff]
  exact fun h => hne (hasKey_iff.mp h)

/-- Two cabinets that are set up on slave 1. -/
def sharedSlaveSetups : List SetupCommand :=
  [sampleSetup "id-1" [(py "cabinetCode", .lit "A")] 1,
    sampleSetup "id-2" [(py "cabinetCode", .lit "B")] 1]

/-- The effect records a state of the cabinet. -/
def records (cabinet_id : Key) : ServiceEffect → Bool
  | .setState c _ _ => c = cabinet_id
  | _ => false

/-- **The event goes to the cabinet that was saved first.** -/
theorem door_event_of_first_cabinet :
    lastSavedOn (.int 1) (setupEffects sharedSlaveSetups) = some (savedB 1) ∧
      ¬ Attributed sampleOutside (afterSetups sharedSlaveSetups) (.int 0) .DOOR_OPENED (.int 1)
        (savedB 1) := by
  refine ⟨by rfl, fun h => ?_⟩
  obtain ⟨k, s, hk, -, hmem⟩ := h.recorded
  have hnone : (handleDoorEvent sampleOutside (afterSetups sharedSlaveSetups) (.int 0) .DOOR_OPENED
      (.int 1)).effects.any (records (.str (py "id-2"))) = false := by decide +kernel
  rw [List.any_eq_false] at hnone
  cases hk
  exact hnone _ hmem (by simp [records])

end SmartLocker.System
