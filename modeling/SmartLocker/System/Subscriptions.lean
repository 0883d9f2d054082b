import SmartLocker.Lib.Machine
import SmartLocker.Gateway.Startup
import SmartLocker.System.Routing

/-!
# Subscription coverage

While the gateway is connected and neither `main` nor a setup run is at work, the broker should hold a
subscription to both topics of every cabinet.  `main` subscribes both at start-up, a setup run only the
open topic, and a reconnect neither.  `Held` says why a topic is, or still will be, subscribed;
`SafeStep` is the condition under which an event keeps every topic of every cabinet held, and
`subscription_coverage` the result for runs.
-/

set_option autoImplicit false

namespace SmartLocker.System

open Lib Lib.Machine Lib.Python SmartLocker.Gateway

/-! ## Coverage -/

/-- Connected, with no start-up or setup step in progress. -/
def Settled (g : Running) : Prop := g.connected = true ∧ g.phase = .up ∧ g.pending = []

instance (p : Phase) : Decidable (p = .up) := by
  cases p <;> first | exact isTrue rfl | exact isFalse nofun

instance (g : Running) : Decidable (Settled g) := inferInstanceAs (Decidable (_ ∧ _ ∧ _))

/-- The broker holds both topics of every cabinet. -/
def Covered (U : Unicode) (g : Running) : Prop :=
  ∀ c ∈ g.state.allCabinets, ∀ h : Handled, h.topic (nameOf U c) ∈ g.subs

instance {p : Handled → Prop} [DecidablePred p] : Decidable (∀ h, p h) :=
  decidable_of_iff (p .openLocker ∧ p .closeLocker)
    ⟨fun ⟨ho, hc⟩ h => by cases h; exacts [ho, hc], fun h => ⟨h _, h _⟩⟩

instance (U : Unicode) (g : Running) : Decidable (Covered U g) :=
  inferInstanceAs (Decidable (∀ c ∈ g.state.allCabinets, ∀ _ : Handled, _))

/-- `main` has still to subscribe the topics of the name. -/
def Awaited (U : Unicode) (g : Running) (name : PyStr) : Prop :=
  match g.phase with
  | .booting => True
  | .subscribing rest => ∃ c ∈ rest, nameOf U c = name
  | _ => False

instance (U : Unicode) (g : Running) (name : PyStr) : Decidable (Awaited U g name) := by
  unfold Awaited
  cases g.phase <;> dsimp only <;> infer_instance

/-- The effects that are left subscribe the topic. -/
def subscribes (topic : PyStr) (effects : List ServiceEffect) : Bool :=
  effects.any fun e =>
    match e with
    | .subscribe t => t == topic
    | _ => false

/-- The events that keep the cabinets covered.  A connection drops what was subscribed, so that `main`
must have it still to do.  A setup run that saves a cabinet goes on to subscribe its open topic, and
nothing in it subscribes the close topic. -/
def SafeStep (U : Unicode) (g : Running) : GatewayEvent → Prop
  | .connect => ∀ c ∈ g.state.allCabinets, Awaited U g (nameOf U c)
  | .runStep =>
    match g.pending with
    | .saveCabinet a :: rest =>
      g.connected = true → Awaited U g (a.name.pyStr U) ∨
        (Handled.closeLocker.topic (a.name.pyStr U) ∈ g.subs ∧
          (Handled.openLocker.topic (a.name.pyStr U) ∈ g.subs ∨
            subscribes (Handled.openLocker.topic (a.name.pyStr U)) rest = true))
    | _ => True
  | _ => True

instance (U : Unicode) (g : Running) (e : GatewayEvent) : Decidable (SafeStep U g e) := by
  unfold SafeStep
  cases e <;> dsimp only <;> first | infer_instance | skip
  split <;> infer_instance

/-! ## What a setup run subscribes -/

/-- An effect of the tests: a command on the bus or a message. -/
def TestEffect : ServiceEffect → Prop
  | .write _ => True
  | .publish _ _ => True
  | _ => False

theorem mqttPublish_effects (out : Outside) (topic : PyStr) (payload : Dict) :
    Py.Emits TestEffect (mqttPublish out topic payload) :=
  (Py.emits_ofExcept _).bind fun _ => Py.emits_emit trivial

theorem sendAndWait_effects (command : PyStr) (slot slave : Json) (reply : Dict) :
    Py.Emits TestEffect (sendAndWait command slot slave reply) := by
  unfold sendAndWait
  split
  · exact (Py.emits_emit trivial).bind fun _ => Py.emits_pure _
  · exact Py.emits_pure _

theorem runTest_effects (io : SetupOutside) (r : CabinetRun) (i : Nat) (slot : Dict) (k : Int)
    (t : Tally) : Py.Emits TestEffect (runTest io r i slot k t) :=
  (sendAndWait_effects _ _ _ _).bind fun _ =>
    (mqttPublish_effects _ _ _).bind fun _ => Py.emits_pure _

/-- The tests of a layout only write and publish. -/
theorem runTests_effects (io : SetupOutside) (r : CabinetRun) (slots : List (Json × Nat)) (t : Tally) :
    Py.Emits TestEffect (runTests io r slots t) := by
  induction slots generalizing t with
  | nil => exact Py.emits_pure t
  | cons s slots ih =>
    unfold runTests
    refine (Py.emits_ofExcept _).bind fun d => (Py.emits_ofExcept _).bind fun index => ?_
    cases index with
    | none => exact ih t
    | some k => exact (runTest_effects io r _ _ k t).bind fun t' => ih t'

/-- Each save is followed by the subscription of the open topic. -/
def SavesFollowed (U : Unicode) (effects : List ServiceEffect) : Prop :=
  ∀ before a after, effects = before ++ .saveCabinet a :: after →
    subscribes (Handled.openLocker.topic (a.name.pyStr U)) after = true

theorem subscribes_cons (topic : PyStr) (e : ServiceEffect) (rest : List ServiceEffect) :
    subscribes topic (e :: rest) = true ↔ e = .subscribe topic ∨ subscribes topic rest = true := by
  cases e <;> simp [subscribes]

theorem subscribes_append (topic : PyStr) (xs ys : List ServiceEffect) :
    subscribes topic (xs ++ ys) = (subscribes topic xs || subscribes topic ys) := by
  simp [subscribes]

theorem SavesFollowed.append {U : Unicode} {xs ys : List ServiceEffect} (hx : SavesFollowed U xs)
    (hy : SavesFollowed U ys) : SavesFollowed U (xs ++ ys) := by
  intro before a after h
  rcases append_eq_append_cons h with ⟨m, hm, hafter⟩ | ⟨m, -, hys⟩
  · rw [hafter, subscribes_append, hx before a m hm, Bool.true_or]
  · exact hy m a after hys

/-- An effect that is no save. -/
def NoSave (e : ServiceEffect) : Prop := ∀ a, e ≠ .saveCabinet a

theorem TestEffect.noSave {e : ServiceEffect} (h : TestEffect e) : NoSave e := by
  rintro a rfl
  exact h

theorem savesFollowed_of_noSave {U : Unicode} {xs : List ServiceEffect} (h : ∀ e ∈ xs, NoSave e) :
    SavesFollowed U xs := by
  intro before a after hxs
  exact absurd rfl (h (.saveCabinet a) (by rw [hxs]; simp) a)

/-- One save, and a subscription of its open topic behind it. -/
theorem savesFollowed_cons {U : Unicode} {a : CabinetArgs} {xs : List ServiceEffect}
    (hx : ∀ e ∈ xs, NoSave e)
    (hsub : subscribes (Handled.openLocker.topic (a.name.pyStr U)) xs = true) :
    SavesFollowed U (.saveCabinet a :: xs) := by
  intro before a' after heq
  cases before with
  | nil =>
    obtain ⟨ha, hafter⟩ := List.cons.inj heq
    rw [← hafter, ← ServiceEffect.saveCabinet.inj ha]
    exact hsub
  | cons e before =>
    have htail : xs = before ++ .saveCabinet a' :: after := (List.cons.inj heq).2
    exact absurd rfl (hx (.saveCabinet a') (by rw [htail]; simp) a')

/-- A part without saves, then the rest. -/
theorem savesFollowed_bind {U : Unicode} {α β : Type} {x : Py ServiceEffect α}
    {f : α → Py ServiceEffect β} {b : β} (hx : ∀ e ∈ x.effects, NoSave e)
    (h : (x >>= f).result = .ok b)
    (hf : ∀ a, (f a).result = .ok b → SavesFollowed U (f a).effects) :
    SavesFollowed U (x >>= f).effects := by
  obtain ⟨a, -, hb, heffects⟩ := Py.bind_result_ok h
  rw [heffects]
  exact (savesFollowed_of_noSave hx).append (hf a hb)

theorem callSaveCabinet_effects {io : SetupOutside} {j : Nat} {a : CabinetArgs}
    (h : (callSaveCabinet io j a).result = .ok ()) :
    (callSaveCabinet io j a).effects = [.saveCabinet a] := by
  obtain ⟨k, -, h, he⟩ := Py.bind_result_ok h
  obtain ⟨_, -, -, he'⟩ := Py.bind_result_ok h
  exact he.trans (congrArg ([] ++ ·) he')

theorem callSaveLockers_noSave (io : SetupOutside) (j : Nat) (cabinet_id lockers : Json) :
    Py.Emits NoSave (callSaveLockers io j cabinet_id lockers) := by
  unfold callSaveLockers
  iterate 5 refine (Py.emits_ofExcept _).bind fun _ => ?_
  exact Py.emits_emit nofun

theorem onSetupComplete_effects {io : SetupOutside} {name : PyStr}
    (h : (onSetupComplete io name).result = .ok ()) :
    (onSetupComplete io name).effects =
      [.subscribe (Handled.openLocker.topic name), .heartbeatStart] := by
  obtain ⟨_, h, -, he⟩ := Py.bind_result_ok h
  obtain ⟨_, -, -, he'⟩ := Py.bind_result_ok h
  rw [show (onSetupComplete io name).effects = _ from he,
    show (subscribeOpenCommand io name).effects = _ from he']
  rfl

/-- **The run of one cabinet**, when no exception ends it. -/
theorem setupCabinet_followed {io : SetupOutside} {topicPrefix : PyStr} {command_id : Json} {j : Nat}
    {cab : Json} (h : (setupCabinet io topicPrefix command_id j cab).result = .ok ()) :
    SavesFollowed io.U (setupCabinet io topicPrefix command_id j cab).effects := by
  unfold setupCabinet at h ⊢
  refine savesFollowed_bind (by simp) h fun cabinet_id h => ?_
  refine savesFollowed_bind (by simp) h fun cab_data h => ?_
  refine savesFollowed_bind (by simp) h fun cabinet_name h => ?_
  refine savesFollowed_bind (by simp) h fun total h => ?_
  refine savesFollowed_bind (by simp) h fun slots h => ?_
  refine savesFollowed_bind (fun e he => (runTests_effects _ _ _ _ e he).noSave) h fun t h => ?_
  refine savesFollowed_bind (by simp) h fun details h => ?_
  refine savesFollowed_bind (fun e he => (mqttPublish_effects _ _ _ e he).noSave) h fun _ h => ?_
  by_cases hstatus : setupStatus t = "FAILED"
  · rw [if_pos hstatus]
    exact savesFollowed_of_noSave (by simp)
  · rw [if_neg hstatus] at h ⊢
    -- the save, the lockers, the subscription
    obtain ⟨_, hsave, h, he⟩ := Py.bind_result_ok h
    obtain ⟨_, -, hdone, he'⟩ := Py.bind_result_ok h
    rw [he, he', callSaveCabinet_effects hsave, onSetupComplete_effects hdone,
      List.singleton_append]
    refine savesFollowed_cons (fun e hmem => ?_) ?_
    · rcases List.mem_append.mp hmem with hmem | hmem
      · exact callSaveLockers_noSave _ _ _ _ e hmem
      · rcases List.mem_cons.mp hmem with rfl | hmem
        · exact nofun
        · rw [List.mem_singleton.mp hmem]
          exact nofun
    · rw [subscribes_append, Bool.or_eq_true]
      exact Or.inr ((subscribes_cons _ _ _).mpr (Or.inl rfl))

theorem setupCabinets_followed {io : SetupOutside} {topicPrefix : PyStr} {command_id : Json}
    (cabs : List (Json × Nat)) (h : (setupCabinets io topicPrefix command_id cabs).result = .ok ()) :
    SavesFollowed io.U (setupCabinets io topicPrefix command_id cabs).effects := by
  induction cabs with
  | nil => exact savesFollowed_of_noSave (fun e he => nomatch he)
  | cons c cabs ih =>
    obtain ⟨_, hcab, hrest, he⟩ := Py.bind_result_ok h
    have heffects : (setupCabinets io topicPrefix command_id (c :: cabs)).effects = _ := he
    rw [heffects]
    exact (setupCabinet_followed hcab).append (ih hrest)

/-- **A setup run that no exception ends** subscribes the open topic of every cabinet it saves. -/
theorem completed_setup_followed {io : SetupOutside} {payload : Dict} {topicPrefix : PyStr}
    (h : (setupBody io payload topicPrefix).result = .ok ()) :
    SavesFollowed io.U (runSetup io payload topicPrefix) := by
  unfold runSetup
  unfold setupBody at h ⊢
  refine savesFollowed_bind (by simp) h fun cabinets h => ?_
  refine savesFollowed_bind (by simp) h fun count h => ?_
  have hone : ∀ {e e' : ServiceEffect}, e ∈ [e'] → NoSave e' → NoSave e :=
    fun he hno => List.mem_singleton.mp he ▸ hno
  have hlocation : ∀ e ∈ (callSaveLocation io ((getD payload "locationId" .null).orElse
      (.lit "unknown-loc")) ((getD payload "locationName" .null).orElse (.lit "Unknown Location"))
      ((getD payload "address" .null).orElse (.lit ""))).effects, NoSave e := by
    intro e he
    rcases Py.mem_bind_effects he with he | ⟨_, he⟩
    · exact hone he nofun
    · cases he
  dsimp only at h ⊢
  by_cases hbulk : isBulk payload = true
  · rw [if_pos hbulk] at h ⊢
    refine savesFollowed_bind (fun e he => hone he nofun) h fun _ h => ?_
    refine savesFollowed_bind hlocation h fun _ h => ?_
    exact savesFollowed_bind (by simp) h fun cabs h => setupCabinets_followed _ h
  · rw [if_neg hbulk] at h ⊢
    refine savesFollowed_bind hlocation h fun _ h => ?_
    exact savesFollowed_bind (by simp) h fun cabs h => setupCabinets_followed _ h

/-! ## The invariant -/

/-- The topic is subscribed, or `main` or the setup run has still to subscribe it. -/
def Held (U : Unicode) (g : Running) (name : PyStr) (h : Handled) : Prop :=
  h.topic name ∈ g.subs ∨ Awaited U g name ∨
    (h = .openLocker ∧ subscribes (h.topic name) g.pending = true)

structure Tracked (U : Unicode) (g : Running) : Prop where
  held : g.connected = true → ∀ c ∈ g.state.allCabinets, ∀ h, Held U g (nameOf U c) h
  located : g.state.location = none → g.state.allCabinets = []

theorem Tracked.covered {U : Unicode} {g : Running} (h : Tracked U g) (hq : Settled g) :
    Covered U g := by
  obtain ⟨hconnected, hphase, hpending⟩ := hq
  intro c hc m
  rcases h.held hconnected c hc m with hsub | hawaited | ⟨-, hleft⟩
  · exact hsub
  · unfold Awaited at hawaited
    rw [hphase] at hawaited
    exact hawaited.elim
  · rw [hpending] at hleft
    cases hleft

/-- What is held stays held when nothing is taken away. -/
theorem Held.mono {U : Unicode} {g g' : Running} {name : PyStr} {h : Handled} (hh : Held U g name h)
    (hsubs : g.subs ⊆ g'.subs) (hawaited : Awaited U g name → Held U g' name h)
    (hpending : subscribes (h.topic name) g.pending = true →
      h.topic name ∈ g'.subs ∨ subscribes (h.topic name) g'.pending = true) : Held U g' name h := by
  rcases hh with hsub | haw | ⟨rfl, hleft⟩
  · exact Or.inl (hsubs hsub)
  · exact hawaited haw
  · rcases hpending hleft with hsub | hleft
    · exact Or.inl hsub
    · exact Or.inr (Or.inr ⟨rfl, hleft⟩)

theorem topic_mem_lockerTopics (h : Handled) (name : PyStr) : h.topic name ∈ lockerTopics name := by
  cases h
  · exact List.mem_cons_self
  · exact List.mem_cons_of_mem _ List.mem_cons_self

/-! ### The steps of `main` -/

/-- Nothing has to be held while disconnected. -/
theorem tracked_disconnected {U : Unicode} {g : Running} (hc : g.connected = false)
    (hl : g.state.location = none → g.state.allCabinets = []) : Tracked U g := by
  refine ⟨fun h => ?_, hl⟩
  rw [hc] at h
  cases h

theorem tracked_start (U : Unicode) (data : Option (Dict × List Dict)) :
    Tracked U (Running.start data) := by
  unfold Running.start
  split
  · exact tracked_disconnected rfl fun _ => rfl
  · split
    · exact tracked_disconnected rfl fun _ => rfl
    · split
      · refine tracked_disconnected rfl ?_
        intro h
        cases h
      · exact tracked_disconnected rfl fun _ => rfl

theorem Tracked.enterLoop {U : Unicode} {g : Running} (h : Tracked U g) : Tracked U g.enterLoop := by
  refine ⟨fun _ c hc m => ?_, h.located⟩
  -- the loop goes over all cabinets; when it is skipped there are none
  have hconfigured : g.state.isConfigured = true := by
    have hne : g.state.allCabinets ≠ [] := List.ne_nil_of_mem hc
    have hloc : g.state.location ≠ none := fun hnone => hne (h.located hnone)
    simp [CabinetState.isConfigured, hne, Option.isSome_iff_ne_none, hloc]
  refine Or.inr (Or.inl ?_)
  simp only [Awaited, Running.enterLoop, hconfigured, if_true]
  exact ⟨c, hc, rfl⟩

/-- The cabinet that leaves the loop is subscribed. -/
theorem Tracked.subscribeCabinet {U : Unicode} {g : Running} {cab : Dict} {rest : List Dict}
    (h : Tracked U g) (hphase : g.phase = .subscribing (cab :: rest)) (raised : Except PyErr Unit) :
    Tracked U (g.subscribeCabinet U cab rest raised) := by
  unfold Running.subscribeCabinet
  split
  · rename_i name hname
    have hcab : nameOf U cab = name.pyStr U := by rw [nameOf, getD_of_item hname]
    cases hconn : g.connected with
    | false =>
      refine tracked_disconnected ?_ ?_
      · simp [Running.subscribe, hconn]
      · simpa [Running.subscribe, hconn] using h.located
    | true =>
      have heq : { g.subscribe (lockerTopics (name.pyStr U)) with phase := .subscribing rest } =
          { g with subs := lockerTopics (name.pyStr U) ++ g.subs, phase := .subscribing rest } := by
        simp [Running.subscribe, hconn]
      rw [heq]
      refine ⟨fun _ c hc m => ?_, h.located⟩
      refine (h.held hconn c hc m).mono (List.subset_append_right _ _) ?_ Or.inr
      intro haw
      unfold Awaited at haw
      rw [hphase] at haw
      obtain ⟨c', hc', hname'⟩ := haw
      rcases List.mem_cons.mp hc' with rfl | hc'
      · refine Or.inl (List.mem_append_left _ ?_)
        rw [← hname', hcab]
        exact topic_mem_lockerTopics m _
      · exact Or.inr (Or.inl ⟨c', hc', hname'⟩)
  · exact tracked_disconnected rfl h.located

/-! ### The steps of a setup run -/

/-- An effect that neither saves nor subscribes nor clears. -/
theorem Tracked.perform_other {U : Unicode} {g : Running} {e : ServiceEffect}
    {rest : List ServiceEffect} (h : Tracked U g) (hpending : g.pending = e :: rest)
    (hsub : ∀ t, e ≠ .subscribe t) {st : CabinetState} (hcab : st.cabinets = g.state.cabinets)
    (hloc : st.location = none → g.state.location = none) :
    Tracked U { g with state := st, pending := rest } := by
  have hall : st.allCabinets = g.state.allCabinets := by
    rw [CabinetState.allCabinets, CabinetState.allCabinets, hcab]
  constructor
  · intro hconn c hc m
    dsimp only at hc
    rw [hall] at hc
    refine (h.held hconn c hc m).mono (List.Subset.refl _) (fun haw => Or.inr (Or.inl haw)) ?_
    intro hleft
    rw [hpending, subscribes_cons] at hleft
    rcases hleft with he | hleft
    · exact absurd he (hsub _)
    · exact Or.inr hleft
  · intro hnone
    dsimp only at hnone ⊢
    rw [hall]
    exact h.located (hloc hnone)

/-- The open topic of a cabinet is subscribed. -/
theorem Tracked.perform_subscribe {U : Unicode} {g : Running} {t : PyStr}
    {rest : List ServiceEffect} (h : Tracked U g) (hpending : g.pending = .subscribe t :: rest) :
    Tracked U { g.subscribe [t] with pending := rest } := by
  cases hconn : g.connected with
  | false =>
    refine tracked_disconnected ?_ ?_
    · simp [Running.subscribe, hconn]
    · simpa [Running.subscribe, hconn] using h.located
  | true =>
    have heq : { g.subscribe [t] with pending := rest } =
        { g with subs := t :: g.subs, pending := rest } := by
      simp [Running.subscribe, hconn]
    rw [heq]
    refine ⟨fun _ c hc m => ?_, h.located⟩
    refine (h.held hconn c hc m).mono (List.subset_cons_self _ _) (fun haw => Or.inr (Or.inl haw)) ?_
    intro hleft
    rw [hpending, subscribes_cons] at hleft
    rcases hleft with he | hleft
    · cases he
      exact Or.inl List.mem_cons_self
    · exact Or.inr hleft

/-- A cabinet saved by a safe step is held. -/
theorem Tracked.perform_save {U : Unicode} {g : Running} {a : CabinetArgs}
    {rest : List ServiceEffect} (h : Tracked U g) (hpending : g.pending = .saveCabinet a :: rest)
    (hsafe : SafeStep U g .runStep) {st : CabinetState} (hst : g.state.saveCabinet a = .ok st) :
    Tracked U { g with state := st, pending := rest } := by
  rcases CabinetState.saveCabinet_cases hst with ⟨-, rfl⟩ | ⟨loc, l, k, hk, hloc, -, -, rfl⟩
  · exact h.perform_other hpending (fun t he => nomatch he) rfl id
  constructor
  · intro hconn c hc m
    obtain ⟨k', hk'⟩ := CabinetState.mem_allCabinets.mp hc
    rcases (OrdMap.mem_entries_insert _).mp hk' with ⟨-, rfl⟩ | ⟨-, hold⟩
    · -- the saved cabinet
      have hname : nameOf U (cabinetData l a) = a.name.pyStr U := by simp [nameOf, getD, cabinetData]
      rw [hname]
      unfold SafeStep at hsafe
      rw [hpending] at hsafe
      rcases hsafe hconn with haw | ⟨hclose, hopen⟩
      · exact Or.inr (Or.inl haw)
      · cases m with
        | closeLocker => exact Or.inl hclose
        | openLocker =>
          rcases hopen with hsub | hleft
          · exact Or.inl hsub
          · exact Or.inr (Or.inr ⟨rfl, hleft⟩)
    · -- another one
      refine (h.held hconn c (CabinetState.mem_allCabinets.mpr ⟨k', hold⟩) m).mono
        (List.Subset.refl _) (fun haw => Or.inr (Or.inl haw)) ?_
      intro hleft
      rw [hpending, subscribes_cons] at hleft
      rcases hleft with he | hleft
      · cases he
      · exact Or.inr hleft
  · intro hnone
    have hsome : (g.state.store k (cabinetData l a) hk).location = some loc := hloc
    rw [hsome] at hnone
    cases hnone

theorem Tracked.perform {U : Unicode} {g : Running} {e : ServiceEffect} {rest : List ServiceEffect}
    (h : Tracked U g) (hpending : g.pending = e :: rest) (hsafe : SafeStep U g .runStep) :
    Tracked U { g.perform e with pending := rest } := by
  cases e with
  | subscribe t => exact h.perform_subscribe hpending
  | clear => exact ⟨fun _ c hc => (nomatch hc), fun _ => rfl⟩
  | saveLocation location_id name address =>
    exact h.perform_other hpending (fun t he => nomatch he) rfl (fun hnone => nomatch hnone)
  | saveCabinet a =>
    unfold Running.perform CabinetState.apply
    dsimp only
    split
    · rename_i st hst
      exact h.perform_save hpending hsafe hst
    · exact h.perform_other hpending (fun t he => nomatch he) rfl id
  | saveLockers cabinet_id ls =>
    unfold Running.perform CabinetState.apply
    dsimp only
    split
    · rename_i st hst
      obtain ⟨m, rfl⟩ := CabinetState.saveLockers_ok hst
      exact h.perform_other hpending (fun t he => nomatch he) rfl id
    · exact h.perform_other hpending (fun t he => nomatch he) rfl id
  | _ => exact h.perform_other hpending (fun t he => nomatch he) rfl id

/-! ## Runs -/

/-- **One event**: a safe one keeps every topic of every cabinet held. -/
theorem Tracked.step {U : Unicode} {mac : PyStr} {g g' : Running} {e : GatewayEvent}
    (h : Tracked U g) (hsafe : SafeStep U g e) (hs : gatewayStep U mac g e = some g') :
    Tracked U g' := by
  cases e with
  | start data =>
    simp only [gatewayStep] at hs
    split at hs
    · cases hs
      exact tracked_start U data
    · cases hs
  | connect =>
    simp only [gatewayStep] at hs
    have hg' : g' = { g with connected := true, subs := gatewayTopics mac } := by
      split at hs
      · cases hs
      · cases hs
      · split at hs
        · cases hs
        · exact (Option.some.inj hs).symm
    rw [hg']
    exact ⟨fun _ c hc m => Or.inr (Or.inl (hsafe c hc)), h.located⟩
  | disconnect =>
    simp only [gatewayStep] at hs
    split at hs
    · cases hs
      exact tracked_disconnected rfl h.located
    · cases hs
  | main raised =>
    simp only [gatewayStep] at hs
    split at hs
    · cases hs
      exact h.enterLoop
    · rename_i hphase
      cases hs
      refine ⟨fun hconn c hc m => ?_, h.located⟩
      refine (h.held hconn c hc m).mono (List.Subset.refl _) (fun haw => ?_) Or.inr
      unfold Awaited at haw
      rw [hphase] at haw
      obtain ⟨c', hc', -⟩ := haw
      cases hc'
    · rename_i cab rest hphase
      cases hs
      exact h.subscribeCabinet hphase raised
    · cases hs
  | setup c =>
    simp only [gatewayStep] at hs
    split at hs
    · cases hs
    · cases hs
    · rename_i hpending _ _
      cases hs
      refine ⟨fun hconn c hc m => ?_, h.located⟩
      refine (h.held hconn c hc m).mono (List.Subset.refl _) (fun haw => Or.inr (Or.inl haw)) ?_
      intro hleft
      rw [hpending] at hleft
      cases hleft
    · cases hs
  | runStep =>
    simp only [gatewayStep] at hs
    split at hs
    · cases hs
    · rename_i e rest hpending
      cases hs
      exact h.perform hpending hsafe

/-- **Subscription coverage**: after every run of safe events, whenever the gateway is connected and
no start-up or setup step is in progress, the broker holds both topics of every cabinet. -/
theorem subscription_coverage (U : Unicode) (mac : PyStr) (events : List GatewayEvent) (g : Running)
    (hsafe : Along (gatewayStep U mac) (SafeStep U) .off events)
    (hrun : run (gatewayStep U mac) .off events = some g) : Settled g → Covered U g := by
  intro hq
  have htracked : Tracked U g :=
    run_invariant (I := Tracked U) (fun _ _ _ hI hC hs => hI.step hC hs) events .off g
      (tracked_disconnected rfl fun _ => rfl) hsafe hrun
  exact htracked.covered hq

/-! ## Cabinet `A` -/

/-- A start-up with cabinet `A` stored, up to the end of `main`'s loop. -/
def startedWithA : List GatewayEvent :=
  [.start (some ([(py "id", .lit "loc"), (py "name", .lit "Hall"), (py "address", .lit "")], [cabinetA])),
    .connect, .main (.ok ()), .main (.ok ()), .main (.ok ())]

/-- A start-up without cabinets. -/
def startedEmpty : List GatewayEvent := [.start none, .connect, .main (.ok ())]

/-- A setup command and its run. -/
def setUp (c : SetupCommand) : List GatewayEvent :=
  .setup c :: (processSetup c.io c.payload c.topicPrefix).map fun _ => .runStep

/-- `subscription_coverage` at a stored cabinet that is set up again. -/
theorem subscription_coverage_again :
    ∃ g, run (gatewayStep .ascii (py "AA")) .off
        (startedWithA ++ setUp (sampleSetup "id-a" [(py "cabinetCode", .lit "A")] 2)) = some g ∧
      Settled g ∧ Covered .ascii g := by
  have hquiet : (run (gatewayStep .ascii (py "AA")) .off
      (startedWithA ++ setUp (sampleSetup "id-a" [(py "cabinetCode", .lit "A")] 2))).any
        (fun g => decide (Settled g)) = true := by decide +kernel
  obtain ⟨g, hg, hq⟩ := (Option.any_eq_true _ _).mp hquiet
  have hq := of_decide_eq_true hq
  exact ⟨g, hg, hq, subscription_coverage .ascii (py "AA") _ g (by decide +kernel) hg hq⟩

/-- A run that ends quiet and uncovered. -/
def Uncovers (events : List GatewayEvent) : Prop :=
  ∃ g, run (gatewayStep .ascii (py "AA")) .off events = some g ∧ Settled g ∧ ¬ Covered .ascii g

theorem uncovers_of_any {events : List GatewayEvent}
    (h : (run (gatewayStep .ascii (py "AA")) .off events).any
      (fun g => decide (Settled g ∧ ¬ Covered .ascii g)) = true) : Uncovers events := by
  obtain ⟨g, hg, hq⟩ := (Option.any_eq_true _ _).mp h
  exact ⟨g, hg, of_decide_eq_true hq⟩

/-- **Coverage is lost** by a reconnect, which subscribes no topic of a cabinet, and by the setup of a
new cabinet, whose close topic nothing subscribes. -/
theorem coverage_lost :
    Uncovers (startedWithA ++ [.disconnect, .connect]) ∧
      Uncovers (startedEmpty ++ setUp (sampleSetup "id-b" [(py "cabinetCode", .lit "B")] 2)) :=
  ⟨uncovers_of_any (by decide +kernel), uncovers_of_any (by decide +kernel)⟩

end SmartLocker.System
