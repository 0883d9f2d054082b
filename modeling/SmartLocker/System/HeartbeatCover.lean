import Mathlib.Data.List.Pairwise
import SmartLocker.System.FailedSetup
import SmartLocker.System.SetupOutcome

/-!
# What heartbeats cover

A heartbeat of a cabinet counts through `range(totalRows * totalColumns)` and looks every number up in
the lockers that the gateway remembers for the cabinet.  The two numbers are those of the setup, which
compares them with nothing.  The lockers are those of its layout, unless `save_cabinet` or
`save_lockers` raises; a restart reads the numbers back from the file and the lockers from the tables.

* `Covers` — the lockers of a layout are listed once each, and no other id is;
* `Lists` — the numbers that are counted and the ids that are remembered do so;
* `FillsGrid` — the same when the lockers of the layout are remembered: its slot indices are the numbers
  that are counted;
* `heartbeats_cover` — every heartbeat covers the layout just if what the setup, or the last restart,
  makes the gateway remember lists it.
-/

set_option autoImplicit false

namespace SmartLocker.System

open Lib Lib.Machine Lib.Python SmartLocker.Gateway

/-! ## Layouts and heartbeats -/

/-- Entries with an id and a label, and with slot indices that are distinct natural numbers. -/
structure DistinctLayout (ds : List Dict) : Prop where
  slotIndex : ∀ d ∈ ds, ∃ n : Nat, item d "slotIndex" = .ok (.int n)
  id : ∀ d ∈ ds, ∃ v, item d "id" = .ok v
  label : ∀ d ∈ ds, ∃ v, item d "label" = .ok v
  distinct : ds.Pairwise fun d d' => item d "slotIndex" ≠ item d' "slotIndex"

/-- An entry of a heartbeat. -/
def lockerEntry (id slot hwState : Json) : Json :=
  .obj [(py "lockerId", id), (py "slotIndex", slot), (py "hwState", hwState)]

/-- A heartbeat lists each locker of the layout exactly once, with its own id and slot index, and no id
that is not in the layout. -/
structure Covers (ds : List Dict) (entries : List Json) : Prop where
  listed : ∀ d ∈ ds, ∃ id slot, item d "id" = .ok id ∧ item d "slotIndex" = .ok slot ∧
    ∃! i : Nat, ∃ hwState, entries[i]? = some (lockerEntry id slot hwState)
  own : ∀ entry ∈ entries, ∃ d ∈ ds, ∃ id slot hwState, item d "id" = .ok id ∧
    entry = lockerEntry id slot hwState

/-- The id that stands for a slot without a locker. -/
def unknownId (U : Unicode) (k : Nat) : Json := .str (py "unknown-" ++ (Json.int k).pyStr U)

/-- The numbers below `total`, with the ids `ids`, list the layout: each of its slots has its id, and
the others have no id that is not in it. -/
structure Lists (U : Unicode) (ds : List Dict) (total : Int) (ids : Int → Option Json) : Prop where
  own : ∀ d ∈ ds, ∀ (n : Nat) (v : Json), item d "slotIndex" = .ok (.int n) → item d "id" = .ok v →
    (n : Int) < total ∧ (ids n).getD (unknownId U n) = v
  others : ∀ n : Nat, (n : Int) < total → ∃ d ∈ ds, item d "id" = .ok ((ids n).getD (unknownId U n))

/-- The layout has no slot from `total` on, and all below it, if not one of its ids stands for it. -/
structure FillsGrid (U : Unicode) (ds : List Dict) (total : Int) : Prop where
  inside : ∀ d ∈ ds, ∀ n : Nat, item d "slotIndex" = .ok (.int n) → (n : Int) < total
  filled : ∀ n : Nat, (n : Int) < total → (∃ d ∈ ds, item d "slotIndex" = .ok (.int n)) ∨
    ∃ d ∈ ds, item d "id" = .ok (unknownId U n)

/-! ### The ids of a heartbeat -/

theorem lockerIdOf_ok {U : Unicode} {slot id : Json} {found : Option Dict}
    (h : lockerIdOf U slot found = .ok id) :
    id = (found.bind (get? · "id")).getD (.str (py "unknown-" ++ slot.pyStr U)) := by
  unfold lockerIdOf at h
  split at h
  · rw [item_ok_iff] at h
    rw [Option.bind_some, h]
    rfl
  · rename_i hnone
    cases h
    cases found with
    | none => rfl
    | some d =>
      cases d with
      | nil => rfl
      | cons e d => exact (hnone e d rfl).elim

/-- The entries of a heartbeat. -/
theorem lockersStatus_ok {U : Unicode} {st : CabinetState} {hb : HeartbeatService} {cabinet_id : Json}
    {c : Key} {cab : Dict} {entries : List Json} (hc : cabinet_id.key = .ok c)
    (hcab : st.getCabinetById c = some cab) (h : lockersStatus U st hb cabinet_id = .ok entries) :
    ∃ total : Nat, totalSlots cab = .ok total ∧ entries = (List.range total).map fun k : Nat =>
      lockerEntry ((foundId st c k).getD (unknownId U k)) (.int k)
        (hb.shown c (.num (.fin k))).value := by
  unfold lockersStatus at h
  rw [hc] at h
  obtain ⟨_, hkey, h⟩ := except_bind_ok.mp h
  cases hkey
  rw [hcab] at h
  obtain ⟨total, htotal, h⟩ := except_bind_ok.mp h
  refine ⟨total, htotal, ?_⟩
  rw [← List.forall₂_eq_eq_eq, List.forall₂_map_right_iff]
  refine (mapM_ok h).flip.imp ?_
  rintro entry k hentry
  obtain ⟨id, hid, hentry⟩ := except_bind_ok.mp hentry
  cases hentry
  rw [lockerIdOf_ok hid]
  rfl

theorem hasKey_slot {d : Dict} {n k : Nat} (h : item d "slotIndex" = .ok (.int n)) :
    hasKey (.num (.fin (k : Int))) (getD d "slotIndex" .null) = true ↔ n = k := by
  rw [getD_of_item h, hasKey_iff]
  simp only [Json.key, Except.ok.injEq, Key.num.injEq, FloatVal.fin.injEq, Rat.intCast_inj]
  omega

/-- Two entries at one slot are one. -/
theorem DistinctLayout.unique {ds : List Dict} (h : DistinctLayout ds) {d d' : Dict} (hd : d ∈ ds)
    (hd' : d' ∈ ds) (hslot : item d "slotIndex" = item d' "slotIndex") : d = d' := by
  by_contra hne
  have : Std.Symm fun d d' : Dict => item d "slotIndex" ≠ item d' "slotIndex" :=
    ⟨fun _ _ hxy hyx => hxy hyx.symm⟩
  exact h.distinct.forall hd hd' hne hslot

/-- The id of the entry of a layout at slot `k`. -/
theorem rawId_eq_some {ds : List Dict} (h : DistinctLayout ds) {k : Nat} {v : Json} :
    rawId ds k = some v ↔ ∃ d ∈ ds, item d "slotIndex" = .ok (.int k) ∧ item d "id" = .ok v := by
  unfold rawId
  rw [Option.bind_eq_some_iff]
  constructor
  · rintro ⟨d, hfind, hid⟩
    have hd := List.mem_reverse.mp (List.mem_of_find?_eq_some hfind)
    obtain ⟨n, hn⟩ := h.slotIndex d hd
    have hfound := List.find?_some hfind
    have hnk := (hasKey_slot hn).mp hfound
    exact ⟨d, hd, hnk ▸ hn, item_ok_iff.mpr hid⟩
  · rintro ⟨d, hd, hslot, hid⟩
    have hsome : (ds.reverse.find? fun d => hasKey (.num (.fin (k : Int)))
        (getD d "slotIndex" .null)).isSome = true :=
      List.find?_isSome.mpr ⟨d, List.mem_reverse.mpr hd, (hasKey_slot hslot).mpr rfl⟩
    obtain ⟨d', hfind⟩ := Option.isSome_iff_exists.mp hsome
    have hd' := List.mem_reverse.mp (List.mem_of_find?_eq_some hfind)
    obtain ⟨n, hn⟩ := h.slotIndex d' hd'
    have hfound := List.find?_some hfind
    have hnk := (hasKey_slot hn).mp hfound
    have heq := h.unique hd hd' (by rw [hslot, hn, hnk])
    exact ⟨d', hfind, heq ▸ item_ok_iff.mp hid⟩

/-! ## Covering -/

theorem lockerEntry_inj {id slot hw id' slot' hw' : Json} :
    lockerEntry id slot hw = lockerEntry id' slot' hw' ↔ id = id' ∧ slot = slot' ∧ hw = hw' := by
  simp [lockerEntry]

/-- The list that counts through `total` slots. -/
def counted (U : Unicode) (ids : Int → Option Json) (total : Int) (hwState : Nat → Json) : List Json :=
  (List.range total.toNat).map fun k : Nat =>
    lockerEntry ((ids k).getD (unknownId U k)) (.int k) (hwState k)

theorem getElem?_counted (U : Unicode) (ids : Int → Option Json) (total : Int) (hwState : Nat → Json)
    (i : Nat) (entry : Json) : (counted U ids total hwState)[i]? = some entry ↔
      (i : Int) < total ∧ entry = lockerEntry ((ids i).getD (unknownId U i)) (.int i) (hwState i) := by
  rw [counted, List.getElem?_map, Option.map_eq_some_iff]
  constructor
  · rintro ⟨k, hk, rfl⟩
    obtain ⟨hlt, hik⟩ := List.getElem?_eq_some_iff.mp hk
    rw [List.getElem_range] at hik
    subst hik
    rw [List.length_range] at hlt
    exact ⟨by omega, rfl⟩
  · rintro ⟨hlt, rfl⟩
    exact ⟨i, List.getElem?_range (by omega), rfl⟩

/-- **A list that counts through `total` slots** covers a layout just if the numbers list it. -/
theorem covers_iff {U : Unicode} {ds : List Dict} (h : DistinctLayout ds) (total : Int)
    (ids : Int → Option Json) (hwState : Nat → Json) :
    Covers ds (counted U ids total hwState) ↔ Lists U ds total ids := by
  constructor
  · intro hcovers
    constructor
    · intro d hd n v hn hv
      obtain ⟨id, slot, hid, hslot, i, ⟨hw, hi⟩, -⟩ := hcovers.listed d hd
      obtain ⟨hlt, hentry⟩ := (getElem?_counted U ids total hwState i _).mp hi
      obtain ⟨hentryId, hentrySlot, -⟩ := lockerEntry_inj.mp hentry
      rw [hn] at hslot
      rw [hv] at hid
      cases hslot
      cases hid
      have hin : i = n := by
        have := Json.int.inj hentrySlot
        omega
      subst hin
      exact ⟨hlt, hentryId.symm⟩
    · intro n hn
      have hmem := List.mem_of_getElem? ((getElem?_counted U ids total hwState n _).mpr ⟨hn, rfl⟩)
      obtain ⟨d, hd, id, slot, hw, hid, hentry⟩ := hcovers.own _ hmem
      obtain ⟨hlisted, -, -⟩ := lockerEntry_inj.mp hentry
      exact ⟨d, hd, by rw [hid, hlisted]⟩
  · intro hlists
    constructor
    · intro d hd
      obtain ⟨n, hn⟩ := h.slotIndex d hd
      obtain ⟨v, hv⟩ := h.id d hd
      obtain ⟨hlt, hid⟩ := hlists.own d hd n v hn hv
      refine ⟨v, .int n, hv, hn, n, ⟨hwState n, ?_⟩, ?_⟩
      · exact (getElem?_counted U ids total hwState n _).mpr ⟨hlt, by rw [hid]⟩
      · rintro i ⟨hw, hi⟩
        obtain ⟨-, hentry⟩ := (getElem?_counted U ids total hwState i _).mp hi
        obtain ⟨-, hslot, -⟩ := lockerEntry_inj.mp hentry
        have := Json.int.inj hslot
        omega
    · intro entry hentry
      obtain ⟨i, hi⟩ := List.getElem?_of_mem hentry
      obtain ⟨hlt, rfl⟩ := (getElem?_counted U ids total hwState i _).mp hi
      obtain ⟨d, hd, hid⟩ := hlists.others i hlt
      exact ⟨d, hd, _, _, _, hid, rfl⟩

/-- **The ids of the layout itself** list it just if it fills the grid. -/
theorem lists_layout {U : Unicode} {ds : List Dict} (h : DistinctLayout ds) (total : Int) :
    Lists U ds total (rawId ds) ↔ FillsGrid U ds total := by
  constructor
  · intro hlists
    constructor
    · intro d hd n hn
      obtain ⟨v, hv⟩ := h.id d hd
      exact (hlists.own d hd n v hn hv).1
    · intro n hn
      obtain ⟨d, hd, hid⟩ := hlists.others n hn
      cases hraw : rawId ds n with
      | some v =>
        obtain ⟨d', hd', hslot', -⟩ := (rawId_eq_some h).mp hraw
        exact Or.inl ⟨d', hd', hslot'⟩
      | none =>
        rw [hraw] at hid
        exact Or.inr ⟨d, hd, hid⟩
  · intro hfills
    constructor
    · intro d hd n v hn hv
      rw [(rawId_eq_some h).mpr ⟨d, hd, hn, hv⟩]
      exact ⟨hfills.inside d hd n hn, rfl⟩
    · intro n hn
      cases hraw : rawId ds n with
      | some v =>
        obtain ⟨d, hd, -, hid⟩ := (rawId_eq_some h).mp hraw
        exact ⟨d, hd, hid⟩
      | none =>
        rcases hfills.filled n hn with ⟨d, hd, hslot⟩ | ⟨d, hd, hid⟩
        · obtain ⟨v, hv⟩ := h.id d hd
          rw [(rawId_eq_some h).mpr ⟨d, hd, hslot, hv⟩] at hraw
          cases hraw
        · exact ⟨d, hd, hid⟩

/-! ## What is remembered -/

/-- What a `CabinetState` remembers of a cabinet. -/
structure CabinetMemory where
  totalRows : Json
  totalColumns : Json
  /-- the ids by slot -/
  ids : Int → Option Json

def remembers (st : CabinetState) (c : Key) : Option CabinetMemory :=
  (st.getCabinetById c).map fun cab =>
    ⟨getD cab "totalRows" (.int 0), getD cab "totalColumns" (.int 0), foundId st c⟩

/-- What happens after the run. -/
inductive LaterStep where
  | effect (e : ServiceEffect)
  /-- the process ends and starts again; the tables return their rows in the order of `scan` -/
  | restart (scan : Scan)

/-- A gateway whose `load` raises does not start. -/
def laterStep (storage : StoreOutside) (s : Store) : LaterStep → Option Store
  | .effect e => some (s.apply storage e)
  | .restart scan =>
    match load storage.toStorage scan s.file.data s.db with
    | .ok st => some { s with state := st }
    | .error _ => none

/-- An effect that does not clear the cabinets and does not set up the cabinet `c`. -/
def LeavesCabinet (c : Key) : ServiceEffect → Prop
  | .clear | .clearSetup => False
  | .saveCabinet a => a.cabinet_id.key ≠ .ok c
  | .saveLockers cabinet_id _ => cabinet_id.key ≠ .ok c
  | _ => True

/-- Restarts leave the cabinet too. -/
def LaterStep.Leaves (c : Key) : LaterStep → Prop
  | .effect e => LeavesCabinet c e
  | .restart _ => True

/-- What is remembered at the end of steps that leave the cabinet: what was before, or what the last
restart loads. -/
def lastRemembered (storage : StoreOutside) (c : Key) :
    Option CabinetMemory → Store → List LaterStep → Option CabinetMemory
  | m, _, [] => m
  | m, s, .effect e :: later => lastRemembered storage c m (s.apply storage e) later
  | _, s, .restart scan :: later =>
    match load storage.toStorage scan s.file.data s.db with
    | .ok st => lastRemembered storage c (remembers st c) { s with state := st } later
    | .error _ => none

/-- The store when a run has saved the cabinet of `p`, behind those of `earlier`, and not yet its
lockers. -/
def storeSaved (io : SetupOutside) (storage : StoreOutside) (payload : Dict)
    (earlier : List (Nat × Report)) (p : Nat × Report) (s : Store) : Store :=
  Store.apply storage
    ((locationEffects payload ++ earlier.flatMap fun q => (storeReported io q.1 q.2).effects).foldl
      (Store.apply storage) s)
    (.saveCabinet (setupArgs p.2.cab_data p.2.cabinet_id p.2.cabinet_name))

/-- What the setup of a cabinet with the layout `ds` makes the gateway remember, `s` being the store
after `save_cabinet`: where that or `save_lockers` raises, the ids stay as they were. -/
def setUpMemory (io : SetupOutside) (storage : StoreOutside) (p : Nat × Report) (ds : List Dict)
    (s : Store) (c : Key) : CabinetMemory where
  totalRows := getD p.2.cab_data "totalRows" (.int 0)
  totalColumns := getD p.2.cab_data "totalColumns" (.int 0)
  ids :=
    match io.persistCabinet p.1, io.persistLockers p.1,
      withDb s.db fun db => db.saveLockers storage p.2.cabinet_id (.arr (ds.map .obj)) with
    | .ok _, .ok _, .ok _ => rawId ds
    | _, _, _ => foundId s.state c

/-! ### Steps that leave the cabinet -/

theorem getCabinetById_saveLockers (st : CabinetState) (id : Json) (ds : List Dict) (c : Key) :
    (st.apply (.saveLockers id ds)).getCabinetById c = st.getCabinetById c := by
  unfold CabinetState.apply
  dsimp only
  split
  · rename_i st' hst
    obtain ⟨m, rfl⟩ := CabinetState.saveLockers_ok hst
    rfl
  · rfl

theorem foundId_saveCabinet (st : CabinetState) (a : CabinetArgs) (c : Key) :
    foundId (st.apply (.saveCabinet a)) c = foundId st c := by
  funext k
  unfold foundId CabinetState.getLockerBySlot
  rw [lockers_saveCabinet]

theorem remembers_congr {st st' : CabinetState} {c : Key}
    (hcabinet : st'.getCabinetById c = st.getCabinetById c) (hids : foundId st' c = foundId st c) :
    remembers st' c = remembers st c := by
  unfold remembers
  rw [hcabinet, hids]

theorem LeavesCabinet.remembers_eq {c : Key} {e : ServiceEffect} (he : LeavesCabinet c e)
    (st : CabinetState) : remembers (st.apply e) c = remembers st c := by
  cases e with
  | clear => exact he.elim
  | clearSetup => exact he.elim
  | saveCabinet b =>
    refine remembers_congr ?_ (foundId_saveCabinet st b c)
    cases hsave : st.saveCabinet b with
    | error err => simp only [CabinetState.apply, hsave]
    | ok st' =>
      simp only [CabinetState.apply, hsave]
      rcases CabinetState.saveCabinet_cases hsave with ⟨-, rfl⟩ | ⟨_, _, k, _, -, -, hk, rfl⟩
      · rfl
      · have hne : c ≠ k := fun hck => he (hck ▸ hk)
        unfold CabinetState.getCabinetById CabinetState.store
        rw [OrdMap.find?_insert, if_neg hne]
  | saveLockers id ls =>
    refine remembers_congr (getCabinetById_saveLockers st id ls c) ?_
    cases hsave : st.saveLockers id ls with
    | error err => simp only [CabinetState.apply, hsave]
    | ok st' =>
      obtain ⟨entries, -, hst⟩ := except_bind_ok.mp hsave
      obtain ⟨k₀, hk₀, hst⟩ := except_bind_ok.mp hst
      cases hst
      have hne : c ≠ k₀ := fun hck => he (hck ▸ hk₀)
      simp only [CabinetState.apply, hsave]
      funext k
      unfold foundId CabinetState.getLockerBySlot
      dsimp only
      rw [OrdMap.find?_insert, if_neg hne]
  | saveLocation _ _ _ => rfl
  | _ => rfl

/-- The memory of a store follows an effect, or the tables raise on lockers. -/
theorem state_apply_cases (storage : StoreOutside) (s : Store) (e : ServiceEffect) :
    (s.apply storage e).state = s.state.apply e ∨ (s.apply storage e).state = s.state := by
  cases e with
  | saveLockers id ls =>
    cases hdb : withDb s.db fun db => db.saveLockers storage id (.arr (ls.map .obj)) with
    | error err =>
      have hafter : s.apply storage (.saveLockers id ls) = s := by
        show s.after (StoreM.saveLockers storage id _) = s
        rw [Store.after_saveLockers, hdb]
      exact Or.inr (by rw [hafter])
    | ok db =>
      refine Or.inl (Store.state_apply s storage _ ?_)
      intro id' ls' heq
      cases heq
      exact ⟨db, hdb⟩
  | _ => exact Or.inl (Store.state_apply s storage _ fun _ _ heq => by cases heq)

theorem LeavesCabinet.remembers_store {c : Key} {e : ServiceEffect} (he : LeavesCabinet c e)
    (storage : StoreOutside) (s : Store) :
    remembers (s.apply storage e).state c = remembers s.state c := by
  rcases state_apply_cases storage s e with hstate | hstate
  · rw [hstate]
    exact he.remembers_eq s.state
  · rw [hstate]

theorem remembers_foldl {c : Key} {es : List ServiceEffect} (hes : ∀ e ∈ es, LeavesCabinet c e)
    (storage : StoreOutside) (s : Store) :
    remembers (es.foldl (Store.apply storage) s).state c = remembers s.state c := by
  induction es generalizing s with
  | nil => rfl
  | cons e es ih =>
    rw [List.foldl_cons, ih fun e' he' => hes e' (List.mem_cons_of_mem _ he')]
    exact (hes e List.mem_cons_self).remembers_store storage s

/-- **Steps that leave the cabinet**: the last restart decides what is remembered. -/
theorem remembers_run {storage : StoreOutside} {c : Key} {later : List LaterStep} {s s' : Store}
    (hlater : ∀ step ∈ later, step.Leaves c) (hs' : run (laterStep storage) s later = some s') :
    remembers s'.state c = lastRemembered storage c (remembers s.state c) s later := by
  induction later generalizing s with
  | nil =>
    cases hs'
    rfl
  | cons step later ih =>
    have hrest : ∀ step ∈ later, step.Leaves c := fun x hx => hlater x (List.mem_cons_of_mem _ hx)
    cases step with
    | effect e =>
      have he : LeavesCabinet c e := hlater _ List.mem_cons_self
      rw [lastRemembered, ← he.remembers_store storage s]
      exact ih hrest hs'
    | restart scan =>
      unfold run laterStep at hs'
      unfold lastRemembered
      dsimp only at hs' ⊢
      cases hload : load storage.toStorage scan s.file.data s.db with
      | error e => rw [hload] at hs'; cases hs'
      | ok st =>
        rw [hload] at hs'
        exact ih hrest hs'

/-! ### The setup -/

/-- The tests leave the store. -/
theorem foldl_store_withoutTests (storage : StoreOutside) (s : Store) (es : List ServiceEffect) :
    es.foldl (Store.apply storage) s =
      (es.filter fun e => !isTest e).foldl (Store.apply storage) s := by
  rw [List.foldl_filter]
  congr 1
  funext s e
  cases e <;> rfl

/-- The location is saved before the cabinets. -/
theorem located_store (storage : StoreOutside) (payload : Dict) (s : Store) {es : List ServiceEffect}
    (hes : ∀ e ∈ es, CabinetEffect e) :
    Located ((locationEffects payload ++ es).foldl (Store.apply storage) s).state := by
  rw [List.foldl_append]
  have hlocated : Located ((locationEffects payload).foldl (Store.apply storage) s).state := by
    have hsave : ∀ (s : Store) (i n a : Json), Located (s.apply storage (.saveLocation i n a)).state := by
      intro s i n a
      rcases state_apply_cases storage s (.saveLocation i n a) with hstate | hstate
      · rw [hstate]
        exact ⟨_, _, rfl, rfl⟩
      · rw [Store.state_apply s storage _ fun _ _ heq => by cases heq]
        exact ⟨_, _, rfl, rfl⟩
    unfold locationEffects
    cases isBulk payload with
    | true => exact hsave _ _ _ _
    | false => exact hsave _ _ _ _
  generalize (locationEffects payload).foldl (Store.apply storage) s = s₁ at hlocated
  induction es generalizing s₁ with
  | nil => exact hlocated
  | cons e es ih =>
    refine ih (fun e' he' => hes e' (List.mem_cons_of_mem _ he')) _ ?_
    rcases state_apply_cases storage s₁ e with hstate | hstate
    · rw [hstate]
      exact hlocated.apply (hes e List.mem_cons_self)
    · rw [hstate]
      exact hlocated

theorem takenLockers_layout {io : SetupOutside} {j : Nat} {cabinet_id : Json} {c : Key} {ds : List Dict}
    (hkey : cabinet_id.key = .ok c) (hlayout : DistinctLayout ds) :
    takenLockers io j cabinet_id (.arr (ds.map .obj)) = (io.persistLockers j).map fun _ => ds := by
  obtain ⟨entries, hentries⟩ : ∃ entries, ds.mapM (lockerData cabinet_id) = .ok entries := by
    refine mapM_ok_iff.mpr fun d hd => ?_
    obtain ⟨n, hn⟩ := hlayout.slotIndex d hd
    obtain ⟨id, hid⟩ := hlayout.id d hd
    obtain ⟨label, hlabel⟩ := hlayout.label d hd
    unfold lockerData
    rw [hn, hid, hlabel]
    exact ⟨_, rfl⟩
  have hiter : (Json.arr (ds.map .obj)).iter = .ok (ds.map .obj) := rfl
  unfold takenLockers
  rw [hiter]
  show (io.persistLockers j >>= fun _ => (ds.map Json.obj).mapM _ >>= _) = _
  rw [Store.mapM_obj fun _ => rfl]
  cases io.persistLockers j with
  | error e => rfl
  | ok _ =>
    show (ds.mapM (lockerData cabinet_id) >>= fun _ => cabinet_id.key >>= _) = _
    rw [hentries, hkey]
    rfl

theorem storeReported_leaves {io : SetupOutside} {c : Key} {q : Nat × Report}
    (hstatus : setupStatus q.2.tally ≠ "FAILED") (hq : q.2.cabinet_id.key ≠ .ok c) :
    ∀ e ∈ (storeReported io q.1 q.2).effects, LeavesCabinet c e := by
  intro e he
  rw [storeReported_reported io hstatus] at he
  cases hkey : q.2.cabinet_id.key with
  | error err =>
    rw [hkey] at he
    cases he
  | ok k =>
    rw [hkey] at he
    rcases List.mem_cons.mp he with rfl | he
    · exact hq
    cases hs : storedLockers io q with
    | none =>
      rw [hs] at he
      cases he
    | some lockers =>
      rw [hs] at he
      rcases List.mem_cons.mp he with rfl | he
      · exact hq
      · split at he
        · simp only [List.mem_cons, List.not_mem_nil, or_false] at he
          rcases he with rfl | rfl
          · trivial
          · trivial
        · cases he

/-- What is remembered once a cabinet is saved. -/
theorem remembers_saved {st : CabinetState} (hloc : Located st) {a : CabinetArgs} {c : Key}
    (hkey : a.cabinet_id.key = .ok c) :
    remembers (st.apply (.saveCabinet a)) c = some ⟨a.total_rows, a.total_columns, foundId st c⟩ := by
  obtain ⟨loc, l, hl, hid⟩ := hloc
  have hidKey : idKey (cabinetData l a) = .ok c := by rwa [idKey_cabinetData]
  have hsave := CabinetState.saveCabinet_ok hl hid hidKey
  have hcabinet : (st.apply (.saveCabinet a)).getCabinetById c = some (cabinetData l a) := by
    simp only [CabinetState.apply, hsave]
    unfold CabinetState.getCabinetById CabinetState.store
    rw [OrdMap.find?_insert, if_pos rfl]
  unfold remembers
  rw [hcabinet, foundId_saveCabinet]
  simp [getD, cabinetData]

/-- Storing its lockers changes the ids, unless the tables raise. -/
theorem remembers_lockers {st : CabinetState} {id : Json} {c : Key} (hkey : id.key = .ok c)
    {ds : List Dict} {entries : List (Key × Dict)} (hentries : ds.mapM (lockerData id) = .ok entries)
    {m : CabinetMemory} (hm : remembers st c = some m) :
    remembers (st.apply (.saveLockers id ds)) c = some { m with ids := rawId ds } := by
  have hids : foundId (st.apply (.saveLockers id ds)) c = rawId ds := by
    funext k
    rw [foundId_saveLockers st hkey hentries, if_pos rfl]
  unfold remembers at hm ⊢
  obtain ⟨cab, hcab, rfl⟩ := Option.map_eq_some_iff.mp hm
  rw [getCabinetById_saveLockers, hcab, hids]
  rfl

/-- `save_lockers` makes the gateway remember the ids of the layout, unless psycopg2 raises. -/
theorem remembers_saveLockers (storage : StoreOutside) {s : Store} {id : Json} {c : Key}
    (hkey : id.key = .ok c) {ds : List Dict} {entries : List (Key × Dict)}
    (hentries : ds.mapM (lockerData id) = .ok entries) {m : CabinetMemory}
    (hm : remembers s.state c = some m) :
    (∀ e, (withDb s.db fun db => db.saveLockers storage id (.arr (ds.map .obj))) = .error e →
        remembers (s.apply storage (.saveLockers id ds)).state c = some m) ∧
      ∀ db, (withDb s.db fun db => db.saveLockers storage id (.arr (ds.map .obj))) = .ok db →
        remembers (s.apply storage (.saveLockers id ds)).state c = some { m with ids := rawId ds } := by
  refine ⟨fun e hdb => ?_, fun db hdb => ?_⟩
  · have hafter : s.apply storage (.saveLockers id ds) = s := by
      show s.after (StoreM.saveLockers storage id _) = s
      rw [Store.after_saveLockers, hdb]
    rw [hafter]
    exact hm
  · rw [Store.state_apply s storage _ fun id' ls' heq => by cases heq; exact ⟨db, hdb⟩]
    exact remembers_lockers hkey hentries hm

/-- What follows the save of the lockers leaves them. -/
theorem started_leaves {io : SetupOutside} {p : Nat × Report} {c : Key} :
    ∀ e ∈ (if subscribed io p = true then
      [ServiceEffect.subscribe (openTopicOf io.U p.2), .heartbeatStart] else []),
      LeavesCabinet c e := by
  intro e he
  split at he
  · simp only [List.mem_cons, List.not_mem_nil, or_false] at he
    rcases he with rfl | rfl
    · trivial
    · trivial
  · cases he

/-- The cabinets behind one that they do not set up again leave it. -/
theorem remembers_behind {io : SetupOutside} {storage : StoreOutside} {payload : Dict}
    {topicPrefix : PyStr} {s : Store} {earlier others : List (Nat × Report)} {p : Nat × Report}
    {c : Key} (hrun : reported io payload topicPrefix = earlier ++ p :: others)
    (hothers : ∀ q ∈ others, q.2.cabinet_id.key ≠ .ok c) :
    remembers ((runSetup io payload topicPrefix).foldl (Store.apply storage) s).state c =
      remembers ((storeReported io p.1 p.2).effects.foldl (Store.apply storage)
        ((locationEffects payload ++ earlier.flatMap fun q => (storeReported io q.1 q.2).effects).foldl
          (Store.apply storage) s)).state c := by
  have hstatus := reported_status io payload topicPrefix
  have hne : reported io payload topicPrefix ≠ [] := by rw [hrun]; simp
  rw [foldl_store_withoutTests, runSetup_filter io payload topicPrefix hne]
  rw [hrun] at hstatus ⊢
  rw [List.flatMap_append, List.flatMap_cons, ← List.append_assoc, ← List.append_assoc,
    List.foldl_append, List.foldl_append]
  refine remembers_foldl (fun e he => ?_) storage _
  obtain ⟨q, hq, he⟩ := List.mem_flatMap.mp he
  exact storeReported_leaves (hstatus q (by simp [hq])) (hothers q hq) e he

/-- **What the run makes the gateway remember** of a cabinet that it does not set up again. -/
theorem remembers_setUp {io : SetupOutside} {storage : StoreOutside} {payload : Dict}
    {topicPrefix : PyStr} {s : Store} {earlier others : List (Nat × Report)} {p : Nat × Report}
    {ds : List Dict} {c : Key} (hrun : reported io payload topicPrefix = earlier ++ p :: others)
    (hkey : p.2.cabinet_id.key = .ok c) (hothers : ∀ q ∈ others, q.2.cabinet_id.key ≠ .ok c)
    (hlayout : p.2.layout = .arr (ds.map .obj)) (hdistinct : DistinctLayout ds) :
    remembers ((runSetup io payload topicPrefix).foldl (Store.apply storage) s).state c =
      some (setUpMemory io storage p ds (storeSaved io storage payload earlier p s) c) := by
  rw [remembers_behind hrun hothers]
  have hp := reported_status io payload topicPrefix p (by rw [hrun]; simp)
  have hlocated : Located ((locationEffects payload ++
      earlier.flatMap fun q => (storeReported io q.1 q.2).effects).foldl (Store.apply storage) s).state :=
    located_store storage payload s fun e he => by
      obtain ⟨q, -, he⟩ := List.mem_flatMap.mp he
      exact storeReported_cabinetEffects e he
  unfold storeSaved
  generalize (locationEffects payload ++ earlier.flatMap fun q =>
    (storeReported io q.1 q.2).effects).foldl (Store.apply storage) s = s₁ at hlocated ⊢
  have hsaved : (s₁.apply storage (.saveCabinet
      (setupArgs p.2.cab_data p.2.cabinet_id p.2.cabinet_name))).state = _ :=
    Store.state_apply s₁ storage _ fun _ _ heq => by cases heq
  have hmemory := remembers_saved hlocated
    (show (setupArgs p.2.cab_data p.2.cabinet_id p.2.cabinet_name).cabinet_id.key = .ok c from hkey)
  rw [← hsaved] at hmemory
  have hids : foundId (s₁.apply storage (.saveCabinet
      (setupArgs p.2.cab_data p.2.cabinet_id p.2.cabinet_name))).state c = foundId s₁.state c := by
    rw [hsaved, foundId_saveCabinet]
  rw [storeReported_reported io hp, hkey]
  dsimp only
  rw [List.foldl_cons]
  generalize s₁.apply storage (.saveCabinet
    (setupArgs p.2.cab_data p.2.cabinet_id p.2.cabinet_name)) = s₂ at hmemory hids ⊢
  unfold setUpMemory storedLockers
  rw [hkey, hlayout, takenLockers_layout hkey hdistinct, hids]
  cases hcabinet : io.persistCabinet p.1 with
  | error e => exact hmemory
  | ok _ =>
    cases htaken : io.persistLockers p.1 with
    | error e => exact hmemory
    | ok _ =>
      have hstored : storedLockers io p = some ds := by
        unfold storedLockers
        rw [hkey, hcabinet, hlayout, takenLockers_layout hkey hdistinct, htaken]
        rfl
      obtain ⟨_, entries, -, hentries⟩ := storedLockers_some hstored
      obtain ⟨hraised, htook⟩ := remembers_saveLockers storage hkey hentries hmemory
      dsimp only [Except.map]
      rw [List.foldl_cons, remembers_foldl started_leaves]
      cases hdb : withDb s₂.db fun db => db.saveLockers storage p.2.cabinet_id (.arr (ds.map .obj)) with
      | error e => exact hraised e hdb
      | ok db => exact htook db hdb

/-! ## Heartbeats after a setup -/

theorem totalSlots_ok {cab : Dict} {total : Nat} (h : totalSlots cab = .ok total) :
    ∃ rows columns, index? (getD cab "totalRows" (.int 0)) = some rows ∧
      index? (getD cab "totalColumns" (.int 0)) = some columns ∧ total = (rows * columns).toNat := by
  unfold totalSlots at h
  split at h
  · rename_i rows columns hr hc
    exact ⟨rows, columns, hr, hc, (Except.ok.inj h).symm⟩
  · cases h

/-- What a heartbeat of a cabinet carries. -/
theorem heartbeat_message {out : Outside} {st : CabinetState} {hb : HeartbeatService} {cab : Dict}
    {topic : PyStr} {message : Dict}
    (h : .publish topic message ∈ (publishSingleHeartbeat out st hb cab).effects) :
    ∃ cabinet_id lockers, item cab "id" = .ok cabinet_id ∧
      lockersStatus out.U st hb cabinet_id = .ok lockers ∧
      get? message "lockers" = some (.arr lockers) := by
  unfold publishSingleHeartbeat at h
  obtain ⟨cabinet_id, hid, h⟩ := (Py.mem_bind_iff.mp h).resolve_left List.not_mem_nil
  obtain ⟨name, -, h⟩ := (Py.mem_bind_iff.mp h).resolve_left List.not_mem_nil
  obtain ⟨lockers, hlockers, h⟩ := (Py.mem_bind_iff.mp h).resolve_left List.not_mem_nil
  refine ⟨cabinet_id, lockers, hid, hlockers, ?_⟩
  rw [(mqttPublish_mem h).2]
  have hstr : ∀ t, notNone (.str t) = true := fun _ => rfl
  have harr : ∀ l, notNone (.arr l) = true := fun _ => rfl
  unfold heartbeatPayload
  cases hnone : notNone cabinet_id <;> simp [List.filter_cons, hnone, hstr, harr]

/-- **A heartbeat** covers a layout just if what is remembered of its cabinet lists it: when these are
the lockers of the layout, just if it fills the grid. -/
theorem heartbeat_covers {out : Outside} {st : CabinetState} {hb : HeartbeatService} {c : Key}
    {cab : Dict} {topic : PyStr} {message : Dict} (hcab : st.getCabinetById c = some cab)
    (hbeat : .publish topic message ∈ (publishSingleHeartbeat out st hb cab).effects)
    {ds : List Dict} (hdistinct : DistinctLayout ds) :
    ∃ m rows columns entries, remembers st c = some m ∧ index? m.totalRows = some rows ∧
      index? m.totalColumns = some columns ∧ get? message "lockers" = some (.arr entries) ∧
      (Covers ds entries ↔ Lists out.U ds (rows * columns) m.ids) ∧
      (m.ids = rawId ds → (Covers ds entries ↔ FillsGrid out.U ds (rows * columns))) := by
  obtain ⟨cabinet_id, entries, hid, hstatus, hentries⟩ := heartbeat_message hbeat
  have hkey : cabinet_id.key = .ok c := by
    have hidKey := st.ids c cab ((OrdMap.mem_entries_iff _).mpr hcab)
    unfold idKey at hidKey
    rw [hid] at hidKey
    exact hidKey
  obtain ⟨total, htotal, rfl⟩ := lockersStatus_ok hkey hcab hstatus
  obtain ⟨rows, columns, hrows, hcolumns, rfl⟩ := totalSlots_ok htotal
  refine ⟨⟨_, _, foundId st c⟩, rows, columns, _, ?_, hrows, hcolumns, hentries, ?_, fun hids => ?_⟩
  · unfold remembers
    rw [hcab]
    rfl
  · exact covers_iff hdistinct _ _ _
  · rw [← lists_layout hdistinct, ← hids]
    exact covers_iff hdistinct _ _ _

/-- **Heartbeats cover the cabinet**: after a run that saves a cabinet with the layout `ds`, until it is
cleared or set up again, and over any number of restarts, every heartbeat of it covers the layout just
if what the setup makes the gateway remember, or else the last restart, lists it: when these are the
lockers of the layout, just if it fills the grid. -/
theorem heartbeats_cover (io : SetupOutside) (storage : StoreOutside) (payload : Dict)
    (topicPrefix : PyStr) (s : Store) (earlier others : List (Nat × Report)) (p : Nat × Report)
    (ds : List Dict) (c : Key) (hrun : reported io payload topicPrefix = earlier ++ p :: others)
    (hkey : p.2.cabinet_id.key = .ok c) (hothers : ∀ q ∈ others, q.2.cabinet_id.key ≠ .ok c)
    (hlayout : p.2.layout = .arr (ds.map .obj)) (hdistinct : DistinctLayout ds) (later : List LaterStep)
    (hlater : ∀ step ∈ later, step.Leaves c) (s' : Store)
    (hs' : run (laterStep storage) ((runSetup io payload topicPrefix).foldl (Store.apply storage) s)
      later = some s')
    (out : Outside) (hb : HeartbeatService) (cab : Dict) (topic : PyStr) (message : Dict)
    (hcab : s'.state.getCabinetById c = some cab)
    (hbeat : .publish topic message ∈ (publishSingleHeartbeat out s'.state hb cab).effects) :
    ∃ m rows columns entries,
      lastRemembered storage c
        (some (setUpMemory io storage p ds (storeSaved io storage payload earlier p s) c))
        ((runSetup io payload topicPrefix).foldl (Store.apply storage) s) later = some m ∧
      index? m.totalRows = some rows ∧ index? m.totalColumns = some columns ∧
      get? message "lockers" = some (.arr entries) ∧
      (Covers ds entries ↔ Lists out.U ds (rows * columns) m.ids) ∧
      (m.ids = rawId ds → (Covers ds entries ↔ FillsGrid out.U ds (rows * columns))) := by
  rw [← remembers_setUp hrun hkey hothers hlayout hdistinct, ← remembers_run hlater hs']
  exact heartbeat_covers hcab hbeat hdistinct

/-! ## Samples -/

/-- The entry of the layout of a `sampleSetup`. -/
def sampleEntry : Dict :=
  [(py "slotIndex", .int 0), (py "row", .int 0), (py "column", .int 0), (py "id", .lit "L1"),
    (py "label", .lit "1")]

/-- The store after a setup of one slot, `naming` being its other fields, from an empty one. -/
def sampleRun (naming : Dict) : Store :=
  (runSetup sampleSetupOutside (sampleSetup "id-1" naming 1).payload (py "iot/m")).foldl
    (Store.apply sampleStoreOutside) ⟨.empty, .absent, some .empty⟩

/-- What it reports. -/
def sampleReported (naming : Dict) : List (Nat × Report) :=
  reported sampleSetupOutside (sampleSetup "id-1" naming 1).payload (py "iot/m")

/-- The cabinet is saved with `rows` and `columns`. -/
def sampleArgs (rows columns : Int) : CabinetArgs :=
  ⟨.lit "id-1", .lit "A", .int rows, .int columns, .int 1, .int 60, .bool true⟩

def oneByOne : Dict :=
  [(py "cabinetCode", .lit "A"), (py "totalRows", .int 1), (py "totalColumns", .int 1)]

/-- A door that is opened after the run, and then a restart. -/
def openedRestarted : List LaterStep :=
  [.effect (.setState (.str (py "id-1")) (.num (.fin 0)) .OPENING), .restart .inserted]

theorem sampleEntry_distinct : DistinctLayout [sampleEntry] where
  slotIndex := List.forall_mem_singleton.mpr ⟨0, rfl⟩
  id := List.forall_mem_singleton.mpr ⟨_, rfl⟩
  label := List.forall_mem_singleton.mpr ⟨_, rfl⟩
  distinct := List.pairwise_singleton _ _

/-- `heartbeats_cover` at a cabinet of one slot, whose locker is read back from the tables. -/
theorem heartbeats_cover_oneByOne : ∃ s' cab topic message entries,
    run (laterStep sampleStoreOutside) (sampleRun oneByOne) openedRestarted = some s' ∧
    s'.state.getCabinetById (.str (py "id-1")) = some cab ∧
    .publish topic message ∈ (publishSingleHeartbeat sampleOutside s'.state .fresh cab).effects ∧
    get? message "lockers" = some (.arr entries) ∧ Covers [sampleEntry] entries := by
  obtain ⟨s', topic, message, hs', hcab, hbeat⟩ : ∃ s' topic message,
      run (laterStep sampleStoreOutside) (sampleRun oneByOne) openedRestarted = some s' ∧
      s'.state.getCabinetById (.str (py "id-1")) = some (cabinetData (.lit "loc") (sampleArgs 1 1)) ∧
      .publish topic message ∈ (publishSingleHeartbeat sampleOutside s'.state .fresh
        (cabinetData (.lit "loc") (sampleArgs 1 1))).effects :=
    ⟨_, _, _, rfl, rfl, List.mem_of_getElem? (i := 0) rfl⟩
  obtain ⟨p, hrun, hkey, hlayout⟩ : ∃ p, sampleReported oneByOne = [] ++ p :: [] ∧
      p.2.cabinet_id.key = .ok (.str (py "id-1")) ∧ p.2.layout = .arr ([sampleEntry].map .obj) :=
    ⟨_, rfl, rfl, rfl⟩
  obtain ⟨m, rows, columns, entries, hm, hrows, hcolumns, hentries, hcovers, -⟩ :=
    heartbeats_cover sampleSetupOutside sampleStoreOutside (sampleSetup "id-1" oneByOne 1).payload
      (py "iot/m") ⟨.empty, .absent, some .empty⟩ [] [] p [sampleEntry] (.str (py "id-1")) hrun hkey
      (by simp) hlayout sampleEntry_distinct openedRestarted
      (by simp [openedRestarted, LaterStep.Leaves, LeavesCabinet]) s' hs' sampleOutside .fresh _ _ _ hcab
      hbeat
  refine ⟨s', _, topic, message, entries, hs', hcab, hbeat, hentries, hcovers.mpr ?_⟩
  -- what the restart has read
  cases hm
  cases hrows
  cases hcolumns
  constructor
  · intro d hd n v hn hv
    rw [List.mem_singleton.mp hd] at hn hv
    cases hn
    cases hv
    exact ⟨by decide, rfl⟩
  · intro n hn
    have hzero : n = 0 := by omega
    subst hzero
    exact ⟨sampleEntry, List.mem_singleton_self _, rfl⟩

/-- **A setup without `totalRows`** is completed, and its heartbeats list no locker. -/
theorem heartbeat_without_rows : DistinctLayout [sampleEntry] ∧
    (∃ p, sampleReported [(py "cabinetCode", .lit "A")] = [p] ∧
      p.2.layout = .arr ([sampleEntry].map .obj)) ∧
    ∃ topic message,
    .publish topic message ∈ (publishSingleHeartbeat sampleOutside
      (sampleRun [(py "cabinetCode", .lit "A")]).state .fresh
        (cabinetData (.lit "loc") (sampleArgs 0 0))).effects ∧
    (sampleRun [(py "cabinetCode", .lit "A")]).state.getCabinetById (.str (py "id-1")) =
      some (cabinetData (.lit "loc") (sampleArgs 0 0)) ∧
    get? message "lockers" = some (.arr []) ∧ ¬ Covers [sampleEntry] [] := by
  refine ⟨sampleEntry_distinct, ⟨_, rfl, rfl⟩, _, _, List.mem_of_getElem? (i := 0) rfl, rfl, rfl,
    fun h => ?_⟩
  obtain ⟨_, _, -, -, i, ⟨_, hi⟩, -⟩ := h.listed sampleEntry (List.mem_singleton_self _)
  cases hi

end SmartLocker.System
