import SmartLocker.Lib.Machine
import SmartLocker.Gateway.Store

/-!
# The file and the memory

A `CabinetState` without a database has one copy on disk, the JSON file.  `file_mirrors` says that after
every call a fresh `CabinetState` on the same path has the location and the cabinets, in their order,
and answers every query about them alike: `_save_to_json` writes the values of the dict by insertion
order, and `load` rebuilds the dict from them by their ids.  A cabinet that is saved again keeps its
place.  The lockers are not in the file.

A call may raise (an id that is no dict key, a locker without a label); it then leaves memory and file
as they were when it raised.
-/

set_option autoImplicit false

namespace SmartLocker.System

open Lib Lib.Machine Lib.Python SmartLocker.Gateway

/-! ## Calls -/

/-- A call of a method that writes. -/
inductive StateCall where
  | location (location_id name address : Json)
  | cabinet (a : CabinetArgs)
  | lockers (cabinet_id lockers : Json)
  | clear

def callAfter (io : StoreOutside) (s : Store) : StateCall → Store
  | .location location_id name address => s.after (StoreM.saveLocation io location_id name address)
  | .cabinet a => s.after (StoreM.saveCabinet io a)
  | .lockers cabinet_id lockers => s.after (StoreM.saveLockers io cabinet_id lockers)
  | .clear => s.after StoreM.clear

/-- A write of the file that fails ends the run. -/
def callStep (io : StoreOutside) (s : Store) (call : StateCall) : Option Store :=
  match (callAfter io s call).file with
  | .broken => none
  | _ => some (callAfter io s call)

/-- A `CabinetState` without file and without database. -/
def bareStore : Store := ⟨.empty, .absent, none⟩

/-! ## Answers -/

/-- Two states that no query tells apart but `get_locker_by_slot`: the lockers are not in the file. -/
structure QueriesAgree (a b : CabinetState) : Prop where
  location : a.location = b.location
  allCabinets : a.allCabinets = b.allCabinets
  isConfigured : a.isConfigured = b.isConfigured
  heartbeatInterval : a.heartbeatInterval = b.heartbeatInterval
  byId : ∀ cabinet_id, a.getCabinetById cabinet_id = b.getCabinetById cabinet_id
  byName : ∀ name, a.getCabinetByName name = b.getCabinetByName name

/-- Location and cabinets decide the answers. -/
theorem queriesAgree_of_eq {a b : CabinetState} (hlocation : a.location = b.location)
    (hcabinets : a.cabinets = b.cabinets) : QueriesAgree a b := by
  have hall : a.allCabinets = b.allCabinets := congrArg OrdMap.values hcabinets
  constructor
  · exact hlocation
  · exact hall
  · rw [CabinetState.isConfigured, hlocation, hall]
    rfl
  · rw [CabinetState.heartbeatInterval, hall]
    rfl
  · intro cabinet_id
    rw [CabinetState.getCabinetById, hcabinets]
    rfl
  · intro name
    rw [CabinetState.getCabinetByName, hall]
    rfl

/-- A fresh `CabinetState` on the same path answers like the one that wrote the file. -/
def Reloads (io : StoreOutside) (s : Store) : Prop :=
  ∀ scan, ∃ st, load io.toStorage scan s.file.data s.db = .ok st ∧ QueriesAgree st s.state

/-- Saving an id again replaces its record where it stands, in memory and for a fresh `CabinetState`;
no id has two records. -/
structure ResavesInPlace (io : StoreOutside) (s : Store) : Prop where
  distinct : (s.state.allCabinets.map idKey).Nodup
  replaced : ∀ (a : CabinetArgs) (k : Key) (i : Nat) (old : Dict), a.cabinet_id.key = .ok k →
    s.state.allCabinets[i]? = some old → idKey old = .ok k →
    ∃ loc l, s.state.location = some loc ∧ item loc "id" = .ok l ∧
      (callAfter io s (.cabinet a)).state.allCabinets = s.state.allCabinets.set i (cabinetData l a)

/-! ## The invariant -/

/-- What memory and file have in common, without a database. -/
structure FileAgrees (s : Store) : Prop where
  db : s.db = none
  file : (s.file = .absent ∧ s.state.location = none ∧ s.state.cabinets = .empty) ∨
    s.file = .written ⟨s.state.location, s.state.allCabinets⟩
  /-- a cabinet is accepted with a location only, and the locations that are saved have an id -/
  located : s.state.cabinets.entries ≠ [] → s.state.location.isSome
  identified : ∀ loc, s.state.location = some loc → ∃ l, item loc "id" = .ok l

theorem fileAgrees_bare : FileAgrees bareStore where
  db := rfl
  file := Or.inl ⟨rfl, rfl, rfl⟩
  located h := absurd rfl h
  identified loc h := by cases h

theorem written_without_db (io : StoreOutside) {s : Store} (hdb : s.db = none) (st : CabinetState)
    (f : Database → Except PyErr Database) : s.written io st f = ⟨st, Store.dumped io st, none⟩ := by
  unfold Store.written
  rw [hdb]
  rfl

theorem dumped_cases (io : StoreOutside) (st : CabinetState) :
    Store.dumped io st = .broken ∨ Store.dumped io st = .written ⟨st.location, st.allCabinets⟩ := by
  unfold Store.dumped
  cases io.dump st.location st.allCabinets with
  | error e => exact Or.inl rfl
  | ok _ => exact Or.inr rfl

/-- Memory and file after a change of both, which has not lost the location. -/
theorem FileAgrees.written {io : StoreOutside} {s : Store} (h : FileAgrees s) {st : CabinetState}
    {f : Database → Except PyErr Database} (hlocated : st.location.isSome)
    (hidentified : ∀ loc, st.location = some loc → ∃ l, item loc "id" = .ok l) :
    (s.written io st f).file = .broken ∨ FileAgrees (s.written io st f) := by
  rw [written_without_db io h.db]
  exact (dumped_cases io st).imp id fun hfile => ⟨rfl, Or.inr hfile, fun _ => hlocated, hidentified⟩

/-- A call keeps the agreement, unless the file breaks. -/
theorem fileAgrees_call {io : StoreOutside} {s : Store} (h : FileAgrees s) (call : StateCall) :
    (callAfter io s call).file = .broken ∨ FileAgrees (callAfter io s call) := by
  cases call with
  | location location_id name address =>
    have hafter : callAfter io s (.location location_id name address) = _ :=
      Store.after_saveLocation s io _ _ _
    rw [hafter]
    refine h.written rfl fun loc hloc => ?_
    cases hloc
    exact ⟨location_id, by simp [item, locationData]⟩
  | cabinet a =>
    have hafter : callAfter io s (.cabinet a) = _ := Store.after_saveCabinet s io a
    rw [hafter]
    cases hloc : s.state.location with
    | none => exact Or.inr h
    | some loc =>
      obtain ⟨l, hl⟩ := h.identified loc hloc
      dsimp only
      rw [hl]
      cases hst : s.state.saveCabinet a with
      | error e => exact Or.inr h
      | ok st =>
        have hlocation : st.location = s.state.location := by
          rcases CabinetState.saveCabinet_cases hst with ⟨-, rfl⟩ | ⟨_, _, _, _, _, _, _, rfl⟩
          · rfl
          · rfl
        refine h.written ?_ ?_
        · rw [hlocation, hloc]
          rfl
        · rw [hlocation]
          exact h.identified
  | lockers cabinet_id lockers =>
    refine Or.inr ?_
    have hafter : callAfter io s (.lockers cabinet_id lockers) = _ :=
      Store.after_saveLockers s io cabinet_id lockers
    rw [hafter, h.db]
    dsimp only [withDb]
    -- only the lockers in memory are new
    cases hst : s.state.rememberLockers cabinet_id lockers with
    | error e => exact ⟨rfl, h.file, h.located, h.identified⟩
    | ok st =>
      obtain ⟨ls, -, hst⟩ := except_bind_ok.mp hst
      obtain ⟨ds, -, hst⟩ := except_bind_ok.mp hst
      obtain ⟨m, rfl⟩ := CabinetState.saveLockers_ok hst
      exact ⟨rfl, h.file, h.located, h.identified⟩
  | clear =>
    refine Or.inr ?_
    have hafter : callAfter io s .clear = _ := Store.after_clear s
    rw [hafter, h.db]
    constructor
    · rfl
    · exact Or.inl ⟨rfl, rfl, rfl⟩
    · exact fun hne => absurd rfl hne
    · intro loc hloc
      cases hloc

/-! ## What follows -/

/-- The file gives back what memory has. -/
theorem FileAgrees.reloads {s : Store} (h : FileAgrees s) (io : StoreOutside) : Reloads io s := by
  intro scan
  rcases h.file with ⟨hfile, hlocation, hcabinets⟩ | hfile
  · refine ⟨.empty, ?_, queriesAgree_of_eq hlocation.symm hcabinets.symm⟩
    rw [hfile, h.db]
    rfl
  · obtain ⟨st, hst⟩ := load_file_ok io.toStorage scan (Or.inl h.db)
    obtain ⟨hlocation, hcabinets⟩ := load_file hst
    rw [hfile]
    exact ⟨st, hst, queriesAgree_of_eq hlocation hcabinets⟩

/-- The ids of the cabinets, in their order. -/
theorem map_idKey (st : CabinetState) :
    st.allCabinets.map idKey = st.cabinets.entries.map fun e => .ok e.1 := by
  unfold CabinetState.allCabinets OrdMap.values
  rw [List.map_map]
  exact List.map_congr_left fun e he => st.ids e.1 e.2 he

theorem FileAgrees.resavesInPlace {s : Store} (h : FileAgrees s) (io : StoreOutside) :
    ResavesInPlace io s := by
  constructor
  · have hok : Function.Injective (Except.ok : Key → Except PyErr Key) := fun _ _ => Except.ok.inj
    have hnodup := s.state.cabinets.nodup.map hok
    rw [List.map_map] at hnodup
    rw [map_idKey]
    exact hnodup
  · intro a k i old hk hold hid
    -- the entry of the cabinet in the dict
    obtain ⟨⟨k', c⟩, he, rfl⟩ : ∃ e, s.state.cabinets.entries[i]? = some e ∧ e.2 = old := by
      simpa [CabinetState.allCabinets, OrdMap.values] using hold
    have hmem := List.mem_of_getElem? he
    have hk' : k' = k := by
      have := s.state.ids k' c hmem
      rw [hid] at this
      exact (Except.ok.inj this).symm
    subst hk'
    obtain ⟨loc, hloc⟩ := Option.isSome_iff_exists.mp (h.located (List.ne_nil_of_mem hmem))
    obtain ⟨l, hl⟩ := h.identified loc hloc
    have hkey : idKey (cabinetData l a) = .ok k' := by rw [idKey_cabinetData, hk]
    refine ⟨loc, l, hloc, hl, ?_⟩
    have hstate := Store.state_saveCabinet s io a
    rw [CabinetState.saveCabinet_ok hloc hl hkey] at hstate
    change (callAfter io s (.cabinet a)).state = _ at hstate
    rw [hstate]
    show (OrdMap.set s.state.cabinets.entries k' (cabinetData l a)).map Prod.snd = _
    rw [OrdMap.set_old s.state.cabinets.nodup he]
    exact List.map_set

/-- **The file mirrors memory**: after every call of every sequence, when the file could be written. -/
theorem file_mirrors (io : StoreOutside) (calls : List StateCall) :
    EveryState (callStep io) (fun s => Reloads io s ∧ ResavesInPlace io s) bareStore calls := by
  refine everyState_of_invariant (C := fun _ _ => True) (I := FileAgrees)
    (fun s h => ⟨h.reloads io, h.resavesInPlace io⟩) ?_ calls bareStore fileAgrees_bare
    (along_of_forall (fun _ _ => trivial) calls bareStore)
  intro s call s' h _ hs
  unfold callStep at hs
  rcases fileAgrees_call h call with hbroken | hagrees
  · rw [hbroken] at hs
    cases hs
  · split at hs
    · cases hs
    · cases hs
      exact hagrees

end SmartLocker.System
