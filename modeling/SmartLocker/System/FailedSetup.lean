import SmartLocker.Gateway.Store
import SmartLocker.System.Recovery
import SmartLocker.System.SetupRun

/-!
# Setups that save no cabinet

A run clears the state (for a bulk command) and saves the location before it tests anything.
`failed_setup` says what a run that saves no cabinet leaves: the same cabinets and lockers with the
location of the command, or, after a bulk command, no cabinet and that location.

What the run gets from outside and what the tables and the file make of its effects are independent
parameters here.
-/

set_option autoImplicit false

namespace SmartLocker.System

open Lib Lib.Python SmartLocker.Gateway

/-! ## What is left -/

/-- The location of a command, with the defaults. -/
def locationOf (payload : Dict) : Dict :=
  locationData ((getD payload "locationId" .null).orElse (.lit "unknown-loc"))
    ((getD payload "locationName" .null).orElse (.lit "Unknown Location"))
    ((getD payload "address" .null).orElse (.lit ""))

/-- `db'` is `db`, or `db` with the row of the location `loc`. -/
def LocationAdded (io : StoreOutside) (loc : Dict) (db db' : Database) : Prop :=
  db' = db ∨ ∃ r, locationRow io.toStorage loc = .ok r ∧
    db' = { db with locations := db.locations.insert r.id r }

/-- The state with another location: in memory, and in the tables and the file as far as these got. -/
structure Relocated (io : StoreOutside) (loc : Dict) (s s' : Store) : Prop where
  location : s'.state.location = some loc
  cabinets : s'.state.cabinets = s.state.cabinets
  lockers : s'.state.lockers = s.state.lockers
  file : s'.file = s.file ∨ s'.file = Store.dumped io s'.state
  db : Option.Rel (LocationAdded io loc) s.db s'.db

/-- A state of which only the location is left. -/
structure Pruned (io : StoreOutside) (loc : Dict) (s s' : Store) : Prop where
  location : s'.state.location = some loc
  cabinets : s'.state.cabinets = .empty
  file : s'.file = .absent ∨ s'.file = Store.dumped io s'.state
  db : Option.Rel (fun _ => LocationAdded io loc .empty) s.db s'.db

/-! ## Saving the location -/

theorem savedLocation_added {io : StoreOutside} {loc : Dict} {db db' : Database}
    (h : db.saveLocation io.toStorage loc = .ok db') : LocationAdded io loc db db' := by
  rcases committed_ok h with hr | ⟨-, rfl⟩
  · obtain ⟨r, hrow, hup⟩ := except_bind_ok.mp hr
    exact Or.inr ⟨r, hrow, (Except.ok.inj hup).symm⟩
  · exact Or.inl rfl

theorem LocationAdded.refl (io : StoreOutside) (loc : Dict) (db : Option Database) :
    Option.Rel (LocationAdded io loc) db db := by
  cases db with
  | none => exact .none
  | some db => exact .some (Or.inl rfl)

/-- **`save_location`** changes nothing but the location. -/
theorem relocated_saveLocation (io : StoreOutside) (s : Store) (i n a : Json) :
    Relocated io (locationData i n a) s (s.after (StoreM.saveLocation io i n a)) := by
  rw [Store.after_saveLocation]
  unfold Store.written
  cases hsave : withDb s.db fun db => db.saveLocation io.toStorage (locationData i n a) with
  | error e => exact ⟨rfl, rfl, rfl, Or.inl rfl, LocationAdded.refl io _ _⟩
  | ok r =>
    refine ⟨rfl, rfl, rfl, Or.inr rfl, ?_⟩
    cases hdb : s.db with
    | none =>
      rw [hdb] at hsave
      cases hsave
      exact .none
    | some db =>
      rw [hdb] at hsave
      obtain ⟨db', hdb', rfl⟩ := withDb_some hsave
      exact .some (savedLocation_added hdb')

/-- The same after `clear`. -/
theorem pruned_saveLocation (io : StoreOutside) (s : Store) (i n a : Json) :
    Pruned io (locationData i n a) s
      ((s.after StoreM.clear).after (StoreM.saveLocation io i n a)) := by
  have h := relocated_saveLocation io (s.after StoreM.clear) i n a
  refine ⟨h.location, h.cabinets, h.file, ?_⟩
  have hdb := h.db
  generalize ((s.after StoreM.clear).after (StoreM.saveLocation io i n a)).db = db' at hdb ⊢
  rw [Store.after_clear] at hdb
  dsimp only at hdb
  cases hold : s.db with
  | none =>
    rw [hold] at hdb
    cases hdb
    exact .none
  | some db =>
    rw [hold] at hdb
    cases hdb with
    | some hadded => exact .some hadded

/-! ## The rest of the run -/

theorem apply_testEffect (io : StoreOutside) (s : Store) {e : ServiceEffect} (h : TestEffect e) :
    s.apply io e = s := by
  cases e with
  | write _ => rfl
  | publish _ _ => rfl
  | _ => exact h.elim

theorem foldl_testEffects (io : StoreOutside) (s : Store) (es : List ServiceEffect)
    (h : ∀ e ∈ es, TestEffect e) : es.foldl (Store.apply io) s = s := by
  induction es with
  | nil => rfl
  | cons e es ih =>
    rw [List.foldl_cons, apply_testEffect io s (h e List.mem_cons_self)]
    exact ih fun e' he' => h e' (List.mem_cons_of_mem _ he')

/-- **A setup that saves no cabinet** leaves cabinets and lockers as they were, in memory and on disk,
and the location of the command; after a bulk command it leaves no cabinet.  When its payload gives no
cabinets to go through, it leaves everything. -/
theorem failed_setup (io : SetupOutside) (storage : StoreOutside) (payload : Dict)
    (topicPrefix : PyStr) (s : Store) (hno : ∀ e ∈ runSetup io payload topicPrefix, NoSave e) :
    let s' := (runSetup io payload topicPrefix).foldl (Store.apply storage) s
    match visitedCabinets payload with
    | .error _ => s' = s
    | .ok _ =>
      if isBulk payload then Pruned storage (locationOf payload) s s'
      else Relocated storage (locationOf payload) s s' := by
  intro s'
  have hs' : s' = (runSetup io payload topicPrefix).foldl (Store.apply storage) s := rfl
  rw [runSetup_eq] at hno hs'
  cases hvisited : visitedCabinets payload with
  | error e => rw [hs', hvisited]; rfl
  | ok cabs =>
    rw [hvisited] at hno hs'
    dsimp only at hno hs' ⊢
    have htests : ∀ e ∈ cabinetEffects io payload topicPrefix cabs, TestEffect e := by
      have hcabs := fun e he => hno e (List.mem_append_right _ he)
      unfold cabinetEffects at hcabs ⊢
      cases hlocation : io.persistLocation with
      | error err => exact fun e he => absurd he List.not_mem_nil
      | ok _ =>
        rw [hlocation] at hcabs
        exact setupCabinets_noSave _ hcabs
    rw [hs', List.foldl_append, foldl_testEffects storage _ _ htests]
    unfold locationEffects locationOf
    split
    · exact pruned_saveLocation storage s _ _ _
    · exact relocated_saveLocation storage s _ _ _

/-! ## A cabinet whose tests fail -/

def isSave : ServiceEffect → Bool
  | .saveCabinet _ => true
  | _ => false

theorem noSave_of_all {es : List ServiceEffect} (h : es.any isSave = false) : ∀ e ∈ es, NoSave e := by
  rintro e he a rfl
  have hany : es.any isSave = true := List.any_eq_true.mpr ⟨.saveCabinet a, he, rfl⟩
  rw [h] at hany
  cases hany

/-- PostgreSQL as before; only strings are compared with a TEXT column. -/
def sampleStoreOutside : StoreOutside where
  toStorage := sampleStorage
  equals := fun v =>
    match v with
    | .str s => .ok (some s)
    | .null => .ok none
    | _ => .error .logged

/-- A gateway with the cabinets `A` and `B`, from an empty file and an empty database. -/
def sampleStore : Store :=
  (setupEffects codedSetups).foldl (Store.apply sampleStoreOutside) ⟨.empty, .absent, some .empty⟩

/-- Boards that do not answer. -/
def deadBoards : SetupOutside :=
  { sampleSetupOutside with reply := fun _ _ => [(py "result", .lit "FAIL")] }

/-- `SETUP_LOCKERS` for cabinet `A`, from another location. -/
def movedSetup : Dict := (py "locationId", .lit "loc-2") :: (sampleSetup "id-1" [] 1).payload

/-- `BULK_SETUP_LOCKERS` for cabinet `A`. -/
def bulkSetup : Dict :=
  [(py "action", .lit "BULK_SETUP_LOCKERS"), (py "commandId", .lit "c-2"),
    (py "locationId", .lit "loc"), (py "cabinets", .arr [.obj (sampleSetup "id-1" [] 1).payload])]

/-- `failed_setup` at a cabinet whose only slot fails its test. -/
theorem failed_setup_moved :
    (runSetup deadBoards movedSetup (py "iot/m")).length = 4 ∧
      Relocated sampleStoreOutside (locationOf movedSetup) sampleStore
        ((runSetup deadBoards movedSetup (py "iot/m")).foldl (Store.apply sampleStoreOutside)
          sampleStore) :=
  ⟨by decide +kernel, failed_setup deadBoards sampleStoreOutside movedSetup (py "iot/m") sampleStore
    (noSave_of_all (by decide +kernel))⟩

/-- **Failed setups change the state**: each command is accepted and saves no cabinet.  The single one
leaves another location, the bulk one no cabinet. -/
theorem failed_setups_change :
    ((handleSetup deadBoards movedSetup (py "iot/m")).result = .ok true ∧
      (∀ e ∈ runSetup deadBoards movedSetup (py "iot/m"), NoSave e) ∧
      ((runSetup deadBoards movedSetup (py "iot/m")).foldl (Store.apply sampleStoreOutside)
        sampleStore).state.location ≠ sampleStore.state.location) ∧
    (handleSetup deadBoards bulkSetup (py "iot/m")).result = .ok true ∧
      (∀ e ∈ runSetup deadBoards bulkSetup (py "iot/m"), NoSave e) ∧
      sampleStore.state.allCabinets.length = 2 ∧
      ((runSetup deadBoards bulkSetup (py "iot/m")).foldl (Store.apply sampleStoreOutside)
        sampleStore).state.allCabinets = [] := by
  refine ⟨⟨rfl, noSave_of_all (by decide +kernel), ?_⟩, rfl, noSave_of_all (by decide +kernel),
    by decide +kernel, ?_⟩
  · intro h
    have hid := congrArg (Option.any fun d => (getD d "id" .null).pyEq (.lit "loc-2")) h
    exact absurd hid (by decide +kernel)
  · exact List.eq_nil_of_length_eq_zero (by decide +kernel)

end SmartLocker.System
