import SmartLocker.System.CleanEffects
import SmartLocker.System.FileMirror
import SmartLocker.System.Reset

/-!
# The text of the state file

`FileMirror` has the file as the data that `_save_to_json` hands to `json.dump`.  What is on the disk is
a text, indented and with its characters as they are, and `load` reads that text.  `restarts_unnoticed`
says that a gateway without a database that is started again, from the text, any number of times between
its calls answers every query about the location and the cabinets like one that never stopped.

`json.dump` raises on a lone surrogate, which UTF-8 cannot encode; the values that are saved come from
messages, so that they have texts.
-/

set_option autoImplicit false

namespace SmartLocker.System

open Lib Lib.Machine Lib.Python SmartLocker.Gateway

/-! ## The text -/

/-- The dict of `_save_to_json`. -/
def stateJson (data : StateData) : Json :=
  .obj [(py "location", data.location.elim .null .obj),
    (py "cabinets", .arr (data.cabinets.map .obj))]

def recordOf : Json → Option Dict
  | .obj c => some c
  | _ => none

/-- What `load` takes from the value of a file that the gateway wrote. -/
def stateOfJson : Json → Option StateData
  | .obj d =>
    match getD d "location" .null, getD d "cabinets" (.arr []) with
    | .null, .arr cs => (cs.mapM recordOf).map (fun cabinets => ⟨none, cabinets⟩)
    | .obj loc, .arr cs => (cs.mapM recordOf).map (fun cabinets => ⟨some loc, cabinets⟩)
    | _, _ => none
  | _ => none

/-- The text on the disk, of a file that was written to its end. -/
def fileText (file : StateFile) : Option (List Char) :=
  file.data.map fun data => dump .file 0 (stateJson data)

/-- `json.load`. -/
def readText (pf : List Char → PyFloat) (text : Option (List Char)) : Option StateData :=
  (text.bind (loads pf)).bind stateOfJson

theorem mapM_recordOf (cs : List Dict) : (cs.map Json.obj).mapM recordOf = some cs := by
  induction cs with
  | nil => rfl
  | cons c cs ih =>
    rw [List.map_cons, List.mapM_cons, ih]
    rfl

theorem stateOfJson_stateJson (data : StateData) : stateOfJson (stateJson data) = some data := by
  obtain ⟨location, cabinets⟩ := data
  have hcabinets : getD [(py "location", location.elim .null .obj),
      (py "cabinets", .arr (cabinets.map .obj))] "cabinets" (.arr []) =
      .arr (cabinets.map .obj) := by simp [getD]
  have hlocation : getD [(py "location", location.elim .null .obj),
      (py "cabinets", .arr (cabinets.map .obj))] "location" .null = location.elim .null .obj := by
    simp [getD]
  unfold stateOfJson stateJson
  dsimp only
  rw [hlocation, hcabinets]
  cases location with
  | none =>
    show ((cabinets.map Json.obj).mapM recordOf).map _ = _
    rw [mapM_recordOf]
    rfl
  | some loc =>
    show ((cabinets.map Json.obj).mapM recordOf).map _ = _
    rw [mapM_recordOf]
    rfl

variable {pf : List Char → PyFloat}

theorem clean_stateJson {data : StateData}
    (hlocation : ∀ loc, data.location = some loc → Clean .wire pf (.obj loc))
    (hcabinets : ∀ c ∈ data.cabinets, Clean .wire pf (.obj c)) :
    Clean .wire pf (stateJson data) := by
  refine clean_obj ["location", "cabinets"] rfl (by decide) ?_
  simp only [List.forall_mem_cons]
  refine ⟨?_, cleanItems_iff.mpr fun x hx => ?_, List.forall_mem_nil _⟩
  · cases hloc : data.location with
    | none => exact clean_null
    | some loc => exact hlocation loc hloc
  · obtain ⟨c, hc, rfl⟩ := List.mem_map.mp hx
    exact hcabinets c hc

/-- **The state is read back from its text.** -/
theorem readText_dump {data : StateData} (hclean : Clean .wire pf (stateJson data))
    (hencodable : encodable (stateJson data) = true) :
    readText pf (some (dump .file 0 (stateJson data))) = some data := by
  have hloads : loads pf (dump .file 0 (stateJson data)) = some (stateJson data) :=
    loads_dump (clean_file _ hclean hencodable)
  rw [readText, Option.bind_some, hloads, Option.bind_some, stateOfJson_stateJson]

/-! ## Calls and restarts -/

inductive DiskStep where
  | call (c : StateCall)
  /-- the process ends and starts again -/
  | restart (scan : Scan)

/-- A fresh `CabinetState` reads the text. -/
def diskStep (pf : List Char → PyFloat) (io : StoreOutside) (s : Store) : DiskStep → Option Store
  | .call c => callStep io s c
  | .restart scan =>
    match load io.toStorage scan (readText pf (fileText s.file)) s.db with
    | .ok state => some { s with state := state }
    | .error _ => none

/-- The calls of a run, without its restarts. -/
def callsOf (steps : List DiskStep) : List StateCall :=
  steps.filterMap fun step => match step with
    | .call c => some c
    | .restart _ => none

/-- What is saved of a location or a cabinet meets `P`. -/
def CallMeets (P : Json → Prop) : StateCall → Prop
  | .location location_id name address => P location_id ∧ P name ∧ P address
  | .cabinet a => ArgsMeet P a
  | .lockers _ _ | .clear => True

/-- `json.dump` raises on what UTF-8 cannot encode. -/
def RefusesSurrogates (io : StoreOutside) : Prop :=
  ∀ location cabinets u, io.dump location cabinets = .ok u →
    encodable (stateJson ⟨location, cabinets⟩) = true

/-! ## What can be read -/

/-- The file agrees with memory, and what is in them can be read from a text. -/
structure FileReads (pf : List Char → PyFloat) (s : Store) : Prop where
  agrees : FileAgrees s
  location : ∀ loc, s.state.location = some loc → Clean .wire pf (.obj loc)
  cabinets : ∀ e ∈ s.state.cabinets.entries, Clean .wire pf (.obj e.2)
  written : ∀ data, s.file = .written data → encodable (stateJson data) = true

theorem fileReads_bare : FileReads pf bareStore where
  agrees := fileAgrees_bare
  location loc h := by cases h
  cabinets := List.forall_mem_nil _
  written data h := by cases h

theorem encodable_of_dumped {io : StoreOutside} (hio : RefusesSurrogates io) {st : CabinetState}
    {data : StateData} (h : Store.dumped io st = .written data) :
    encodable (stateJson data) = true := by
  unfold Store.dumped at h
  split at h
  · rename_i hdump
    cases h
    exact hio _ _ _ hdump
  · cases h

theorem FileReads.readText_eq {s : Store} (h : FileReads pf s) :
    readText pf (fileText s.file) = s.file.data := by
  rcases h.agrees.file with ⟨hfile, -, -⟩ | hfile
  · rw [hfile]
    rfl
  · have hcabinets : ∀ c ∈ s.state.allCabinets, Clean .wire pf (.obj c) := by
      intro c hc
      obtain ⟨e, he, rfl⟩ := List.mem_map.mp hc
      exact h.cabinets e he
    rw [hfile]
    exact readText_dump (clean_stateJson h.location hcabinets) (h.written _ hfile)

/-- A call keeps what is in the file readable. -/
theorem FileReads.call {io : StoreOutside} (hio : RefusesSurrogates io) {s s' : Store}
    (h : FileReads pf s) {c : StateCall} (hc : CallMeets (Clean .wire pf) c)
    (hs : callStep io s c = some s') : FileReads pf s' := by
  have hafter : callAfter io s c = s' ∧ s'.file ≠ .broken := by
    unfold callStep at hs
    split at hs
    · cases hs
    · rename_i hfile
      cases hs
      exact ⟨rfl, hfile⟩
  have hagrees : FileAgrees s' := by
    have hcases : (callAfter io s c).file = .broken ∨ FileAgrees (callAfter io s c) :=
      fileAgrees_call h.agrees c
    rcases hcases with hbroken | hagrees
    · rw [hafter.1] at hbroken
      exact absurd hbroken hafter.2
    · rwa [hafter.1] at hagrees
  obtain ⟨rfl, -⟩ := hafter
  clear hs
  cases c with
  | location location_id name address =>
    have hstate : callAfter io s (.location location_id name address) = _ :=
      Store.after_saveLocation s io _ _ _
    rw [written_without_db io h.agrees.db] at hstate
    rw [hstate] at hagrees ⊢
    refine ⟨hagrees, fun loc hloc => ?_, h.cabinets, fun data hdata => encodable_of_dumped hio hdata⟩
    cases hloc
    exact clean_locationData hc.1 hc.2.1 hc.2.2
  | cabinet a =>
    have hstate : callAfter io s (.cabinet a) = _ := Store.after_saveCabinet s io a
    rw [hstate] at hagrees ⊢
    clear hstate
    split at hagrees
    · exact h
    split at hagrees
    swap
    · exact h
    split at hagrees
    swap
    · exact h
    rename_i st hsave
    rw [written_without_db io h.agrees.db] at hagrees ⊢
    rcases CabinetState.saveCabinet_cases hsave with ⟨-, rfl⟩ | ⟨loc', l', k, hk, hloc', hl', -, rfl⟩
    · exact ⟨hagrees, h.location, h.cabinets, fun data hdata => encodable_of_dumped hio hdata⟩
    · refine ⟨hagrees, h.location, ?_, fun data hdata => encodable_of_dumped hio hdata⟩
      intro e he
      rcases OrdMap.mem_of_mem_set he with he | rfl
      · exact h.cabinets e he
      · exact clean_cabinetData (clean_item (h.location loc' hloc') hl') hc
  | lockers cabinet_id lockers =>
    have hstate : callAfter io s (.lockers cabinet_id lockers) = _ :=
      Store.after_saveLockers s io cabinet_id lockers
    rw [h.agrees.db] at hstate
    dsimp only [withDb] at hstate
    rw [rememberLockers_eq] at hstate
    rw [hstate] at hagrees ⊢
    cases hentry : lockersEntry cabinet_id lockers with
    | error e =>
      rw [hentry] at hagrees
      exact ⟨hagrees, h.location, h.cabinets, h.written⟩
    | ok e =>
      rw [hentry] at hagrees
      exact ⟨hagrees, h.location, h.cabinets, h.written⟩
  | clear =>
    have hstate : callAfter io s .clear = _ := Store.after_clear s
    rw [hstate] at hagrees ⊢
    exact ⟨hagrees, fun loc hloc => (nomatch hloc), List.forall_mem_nil _,
      fun data hdata => (nomatch hdata)⟩

/-! ## Gateways that differ in the lockers only -/

/-- The same store, but for the lockers in memory. -/
def SameButLockers (s s' : Store) : Prop := ∃ m, s' = { s with state := withLockers s.state m }

theorem SameButLockers.queries {s s' : Store} (h : SameButLockers s s') :
    QueriesAgree s.state s'.state := by
  obtain ⟨m, rfl⟩ := h
  exact queriesAgree_of_eq rfl rfl

/-- No call of a gateway without a database depends on the lockers in memory. -/
theorem SameButLockers.after {io : StoreOutside} {s s' : Store} (hdb : s.db = none)
    (h : SameButLockers s s') (c : StateCall) :
    SameButLockers (callAfter io s c) (callAfter io s' c) := by
  obtain ⟨m, rfl⟩ := h
  have hdb' : ({ s with state := withLockers s.state m } : Store).db = none := hdb
  cases c with
  | location location_id name address =>
    have hleft : callAfter io s (.location location_id name address) = _ :=
      Store.after_saveLocation s io _ _ _
    have hright : callAfter io { s with state := withLockers s.state m }
        (.location location_id name address) = _ := Store.after_saveLocation _ io _ _ _
    rw [hleft, hright, written_without_db io hdb, written_without_db io hdb']
    exact ⟨m, rfl⟩
  | cabinet a =>
    have hleft : callAfter io s (.cabinet a) = _ := Store.after_saveCabinet s io a
    have hright : callAfter io { s with state := withLockers s.state m } (.cabinet a) = _ :=
      Store.after_saveCabinet _ io a
    have hlocation : (withLockers s.state m).location = s.state.location := rfl
    dsimp only at hright
    rw [hlocation, saveCabinet_withLockers] at hright
    rw [hleft, hright]
    cases s.state.location with
    | none => exact ⟨m, rfl⟩
    | some loc =>
      dsimp only
      cases item loc "id" with
      | error e => exact ⟨m, rfl⟩
      | ok l =>
        dsimp only
        cases s.state.saveCabinet a with
        | error e => exact ⟨m, rfl⟩
        | ok st =>
          dsimp only [Except.map]
          rw [written_without_db io hdb, written_without_db io hdb']
          exact ⟨m, rfl⟩
  | lockers cabinet_id lockers =>
    have hleft : callAfter io s (.lockers cabinet_id lockers) = _ :=
      Store.after_saveLockers s io cabinet_id lockers
    have hright : callAfter io { s with state := withLockers s.state m }
        (.lockers cabinet_id lockers) = _ := Store.after_saveLockers _ io cabinet_id lockers
    rw [hleft, hright, rememberLockers_eq, rememberLockers_eq]
    dsimp only
    rw [hdb]
    cases lockersEntry cabinet_id lockers with
    | error e => exact ⟨m, rfl⟩
    | ok e => exact ⟨_, rfl⟩
  | clear => exact ⟨m, rfl⟩

theorem SameButLockers.step {io : StoreOutside} {s s' : Store} (hdb : s.db = none)
    (h : SameButLockers s s') (c : StateCall) :
    Option.Rel SameButLockers (callStep io s c) (callStep io s' c) := by
  have hafter : SameButLockers (callAfter io s c) (callAfter io s' c) := h.after hdb c
  have hfile : (callAfter io s' c).file = (callAfter io s c).file := by
    obtain ⟨m, hm⟩ := hafter
    rw [hm]
  unfold callStep
  rw [hfile]
  split
  · exact .none
  · exact .some hafter

/-- A restart forgets the lockers, and nothing else. -/
theorem FileReads.restart {s : Store} (h : FileReads pf s) (io : StoreOutside) (scan : Scan) :
    ∃ m, load io.toStorage scan (readText pf (fileText s.file)) s.db = .ok (withLockers s.state m) := by
  have hsame : ∀ st : CabinetState, st.location = s.state.location → st.cabinets = s.state.cabinets →
      st = withLockers s.state st.lockers := by
    rintro ⟨location, cabinets, lockers, ids⟩ hlocation hcabinets
    cases hlocation
    cases hcabinets
    rfl
  rw [h.readText_eq]
  rcases h.agrees.file with ⟨hfile, hlocation, hcabinets⟩ | hfile
  · have hempty := hsame .empty hlocation.symm hcabinets.symm
    refine ⟨CabinetState.empty.lockers, ?_⟩
    rw [← hempty, hfile, h.agrees.db]
    rfl
  · obtain ⟨st, hst⟩ := load_file_ok io.toStorage scan (Or.inl h.agrees.db)
    obtain ⟨hlocation, hcabinets⟩ := load_file hst
    refine ⟨st.lockers, ?_⟩
    rw [← hsame st hlocation hcabinets, hfile]
    exact hst

/-- What is readable does not depend on the lockers. -/
theorem FileReads.forget {s : Store} (h : FileReads pf s) (m : OrdMap Key (OrdMap Key Dict)) :
    FileReads pf { s with state := withLockers s.state m } :=
  ⟨⟨h.agrees.db, h.agrees.file, h.agrees.located, h.agrees.identified⟩, h.location, h.cabinets, h.written⟩

/-! ## Runs -/

theorem run_restarts {io : StoreOutside} (hio : RefusesSurrogates io) {steps : List DiskStep}
    {s s' : Store} (hs : FileReads pf s) (h : SameButLockers s s')
    (hsteps : ∀ c ∈ callsOf steps, CallMeets (Clean .wire pf) c) :
    Option.Rel SameButLockers (run (diskStep pf io) s steps) (run (callStep io) s' (callsOf steps)) := by
  induction steps generalizing s s' with
  | nil => exact .some h
  | cons step steps ih =>
    cases step with
    | restart scan =>
      obtain ⟨m, hload⟩ := hs.restart io scan
      have hstep : diskStep pf io s (.restart scan) =
          some { s with state := withLockers s.state m } := by
        unfold diskStep
        dsimp only
        rw [hload]
      have hagain : SameButLockers { s with state := withLockers s.state m } s' := by
        obtain ⟨m', rfl⟩ := h
        exact ⟨m', rfl⟩
      rw [run, hstep]
      exact ih (hs.forget m) hagain hsteps
    | call c =>
      have hsteps' : ∀ c' ∈ c :: callsOf steps, CallMeets (Clean .wire pf) c' := hsteps
      rw [List.forall_mem_cons] at hsteps'
      have hcall : Option.Rel SameButLockers (callStep io s c) (callStep io s' c) := h.step hs.agrees.db c
      show Option.Rel SameButLockers (run (diskStep pf io) s (.call c :: steps))
        (run (callStep io) s' (c :: callsOf steps))
      rw [run, run]
      have hstep : diskStep pf io s (.call c) = callStep io s c := rfl
      rw [hstep]
      cases hs₁ : callStep io s c with
      | none =>
        rw [hs₁] at hcall
        cases hs₂ : callStep io s' c with
        | none => exact .none
        | some t' =>
          rw [hs₂] at hcall
          cases hcall
      | some t =>
        rw [hs₁] at hcall
        cases hs₂ : callStep io s' c with
        | none =>
          rw [hs₂] at hcall
          cases hcall
        | some t' =>
          rw [hs₂] at hcall
          cases hcall with
          | some hagain => exact ih (hs.call hio hsteps'.1 hs₁) hagain hsteps'.2

/-- **Restarts go unnoticed**: a gateway without a database that starts again from the text of its file,
any number of times, has at the end of every run the answers of one that made the same calls and never
stopped; where the file of one cannot be written, that of the other cannot. -/
theorem restarts_unnoticed (pf : List Char → PyFloat) (hpf : ∀ l, Prints pf (pf l)) (io : StoreOutside)
    (hio : RefusesSurrogates io) (steps : List DiskStep)
    (hsteps : ∀ c ∈ callsOf steps, CallMeets (HasText pf) c) :
    Option.Rel (fun s s' => QueriesAgree s.state s'.state) (run (diskStep pf io) bareStore steps)
      (run (callStep io) bareStore (callsOf steps)) := by
  rw [hasText_eq hpf] at hsteps
  have hqueries : ∀ a b, Option.Rel SameButLockers a b →
      Option.Rel (fun s s' => QueriesAgree s.state s'.state) a b := by
    intro a b hab
    cases hab with
    | some h => exact .some h.queries
    | none => exact .none
  exact hqueries _ _ (run_restarts hio fileReads_bare ⟨.empty, rfl⟩ hsteps)

/-! ## A cabinet with a name in Vietnamese -/

/-- A disk that takes every text in UTF-8. -/
def utf8Disk : StoreOutside where
  toStorage :=
    { sampleStorage with
      dump := fun location cabinets =>
        if encodable (stateJson ⟨location, cabinets⟩) then .ok () else .error .ValueError }
  equals := sampleStoreOutside.equals

theorem utf8Disk_refuses : RefusesSurrogates utf8Disk := by
  intro location cabinets u h
  change (if encodable (stateJson ⟨location, cabinets⟩) = true then Except.ok ()
    else .error PyErr.ValueError) = Except.ok u at h
  split at h
  · assumption
  · cases h

/-- A setup, a restart, the same cabinet under another name, and a second restart. -/
def renamed : List DiskStep :=
  [.call (.location (.lit "loc") (.lit "Sảnh \"A\"") (.lit "")),
    .call (.cabinet { cabinet_id := .lit "c1", name := .lit "Tủ số 1", slave_id := .int 2 }),
    .restart .inserted,
    .call (.cabinet { cabinet_id := .lit "c1", name := .lit "Tủ\n1", slave_id := .int 3 }),
    .restart .inserted]

theorem restarts_unnoticed_renamed :
    (run (diskStep noFloat utf8Disk) bareStore renamed).isSome = true ∧
      Option.Rel (fun s s' => QueriesAgree s.state s'.state)
        (run (diskStep noFloat utf8Disk) bareStore renamed)
        (run (callStep utf8Disk) bareStore (callsOf renamed)) := by
  have hpf : ∀ l, Prints noFloat (noFloat l) := fun _ => rfl
  refine ⟨by decide +kernel,
    restarts_unnoticed noFloat hpf utf8Disk utf8Disk_refuses renamed ?_⟩
  rw [hasText_eq hpf]
  intro c hc
  simp only [renamed, callsOf, List.filterMap_cons, List.filterMap_nil, List.mem_cons, List.not_mem_nil,
    or_false] at hc
  rcases hc with rfl | rfl | rfl
  · exact ⟨clean_lit _, clean_lit _, clean_lit _⟩
  · exact ⟨clean_lit _, clean_lit _, trivial, trivial, trivial, trivial, trivial⟩
  · exact ⟨clean_lit _, clean_lit _, trivial, trivial, trivial, trivial, trivial⟩

end SmartLocker.System
