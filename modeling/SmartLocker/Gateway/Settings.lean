import SmartLocker.Gateway.Persistence

/-!
# The settings and their tables

Model of what of `Settings` the database overrides, of the tables `system_settings` and `mqtt_config`
with the methods of `DatabaseManager` on them, of the endpoints of the config API that write and read
them, and of what `main` and the MQTT client make of them.  The handlers of the API run in one event
loop and none of them awaits, so that each is one step; the process may still end inside one.

`up` tells for each connection in turn whether the server takes it.  What is only logged, and the column
`updated_at`, are left out.
-/

set_option autoImplicit false

namespace SmartLocker.Gateway

open Lib Lib.Python

/-! ## Settings -/

/-- What the client needs to connect. -/
structure MqttSettings where
  MQTT_BROKER : Json
  MQTT_PORT : Json
  MQTT_PORT_SSL : Json
  MQTT_USERNAME : Json
  MQTT_PASSWORD : Json
  MQTT_USE_TLS : Json

structure Settings where
  mqtt : MqttSettings
  MAX_CABINETS : Int

namespace Settings

/-- `update_mqtt_config`; the plain port is not in the database. -/
def updateMqttConfig (s : Settings) (db_config : Dict) : Settings :=
  if db_config.isEmpty then s
  else
    { s with mqtt :=
      { s.mqtt with
        MQTT_BROKER := getD db_config "broker" s.mqtt.MQTT_BROKER
        MQTT_PORT_SSL := getD db_config "port" s.mqtt.MQTT_PORT_SSL
        MQTT_USERNAME := getD db_config "username" s.mqtt.MQTT_USERNAME
        MQTT_PASSWORD := getD db_config "password" s.mqtt.MQTT_PASSWORD
        MQTT_USE_TLS := getD db_config "useTls" s.mqtt.MQTT_USE_TLS } }

/-- `int(max_cabs)`, or what was there when it raises. -/
def readMax (U : Unicode) (current : Int) (max_cabs : PyStr) : Int := (intOfStr U max_cabs).getD current

/-- `update_system_config`, for what `get_system_setting` gives. -/
def updateSystemConfig (U : Unicode) (s : Settings) (max_cabs : Option PyStr) : Settings :=
  { s with MAX_CABINETS := max_cabs.elim s.MAX_CABINETS (readMax U s.MAX_CABINETS) }

end Settings

/-! ## Tables -/

structure MqttRow where
  broker : PyStr
  port : Int
  username : Option PyStr
  password : Option PyStr
  use_tls : Option Bool

/-- What `get_mqtt_config` makes of the row. -/
def MqttRow.toDict (r : MqttRow) : Dict :=
  [(py "broker", .str r.broker), (py "port", .int r.port), (py "username", ofText r.username),
    (py "password", ofText r.password), (py "useTls", .bool (r.use_tls.getD false))]

/-- Both tables; `mqtt_config` has one row at most. -/
structure ConfigTables where
  system_settings : OrdMap PyStr PyStr
  mqtt_config : Option MqttRow

def ConfigTables.empty : ConfigTables := ⟨.empty, none⟩

/-- The `try` around a statement; without a server it fails with a `psycopg2.Error`. -/
def tried (up : Bool) (t : ConfigTables) (r : Except DbErr ConfigTables) : Except PyErr ConfigTables :=
  if up then
    match r with
    | .ok t' => .ok t'
    | .error .logged => .ok t
    | .error (.raised e) => .error e
  else .ok t

/-- The row of the values of `INSERT INTO system_settings`: both are strings, never NULL. -/
def settingRow (io : Storage) (U : Unicode) (key : PyStr) (value : Json) :
    Except DbErr (PyStr × PyStr) := do
  io.adaptAll [.str key, .str (value.pyStr U)]
  let k ← io.text (.str key)
  let v ← io.text (.str (value.pyStr U))
  match k, v with
  | some k, some v => .ok (k, v)
  | _, _ => .error .logged

/-- The row of the values of `INSERT INTO mqtt_config`; broker and port are NOT NULL. -/
def mqttRow (io : Storage) (data : Dict) : Except DbErr MqttRow := do
  io.adaptAll [getD data "broker" .null, getD data "port" .null, getD data "username" .null,
    getD data "password" .null, getD data "useTls" (.bool true)]
  let broker ← io.text (getD data "broker" .null)
  let port ← io.integer (getD data "port" .null)
  let username ← io.text (getD data "username" .null)
  let password ← io.text (getD data "password" .null)
  let use_tls ← io.boolean (getD data "useTls" (.bool true))
  match broker, port with
  | some broker, some port => .ok ⟨broker, port, username, password, use_tls⟩
  | _, _ => .error .logged

namespace ConfigTables

/-- `ON CONFLICT (key) DO UPDATE`. -/
def upsertSetting (t : ConfigTables) (r : PyStr × PyStr) : ConfigTables :=
  { t with system_settings := t.system_settings.insert r.1 r.2 }

/-- `ON CONFLICT (id) DO UPDATE`. -/
def upsertMqtt (t : ConfigTables) (r : MqttRow) : ConfigTables := { t with mqtt_config := some r }

def saveSystemSetting (io : Storage) (U : Unicode) (up : Bool) (t : ConfigTables) (key : PyStr)
    (value : Json) : Except PyErr ConfigTables :=
  tried up t ((settingRow io U key value).map t.upsertSetting)

/-- `get_system_setting`, `none` for its default. -/
def getSystemSetting (up : Bool) (t : ConfigTables) (key : PyStr) : Option PyStr :=
  if up then t.system_settings.find? key else none

def saveMqttConfig (io : Storage) (up : Bool) (t : ConfigTables) (data : Dict) :
    Except PyErr ConfigTables :=
  tried up t ((mqttRow io data).map t.upsertMqtt)

def getMqttConfig (up : Bool) (t : ConfigTables) : Option Dict :=
  if up then t.mqtt_config.map MqttRow.toDict else none

end ConfigTables

/-! ## The config API -/

/-- The body of `POST /config/mqtt`. -/
structure MQTTConfigUpdate where
  broker : PyStr
  port : Int
  username : Option PyStr
  password : Option PyStr
  useTls : Bool

/-- `model_dump()`. -/
def MQTTConfigUpdate.dump (c : MQTTConfigUpdate) : Dict :=
  [(py "broker", .str c.broker), (py "port", .int c.port), (py "username", ofText c.username),
    (py "password", ofText c.password), (py "useTls", .bool c.useTls)]

/-- The loop of `POST /config/system`: the tables it leaves, and what it raises. -/
def saveSettings (io : Storage) (U : Unicode) : (up : Nat → Bool) → ConfigTables → Dict →
    ConfigTables × Except PyErr Unit
  | _, t, [] => (t, .ok ())
  | up, t, (key, value) :: rest =>
    match t.saveSystemSetting io U (up 0) key value with
    | .ok t' => saveSettings io U (fun n => up (n + 1)) t' rest
    | .error e => (t, .error e)

/-- `POST /config/system`: what a save raises is answered with 500, before the settings are read
again. -/
def postSystem (io : Storage) (U : Unicode) (up : Nat → Bool) (s : Settings) (t : ConfigTables)
    (config : Dict) : Settings × ConfigTables :=
  match saveSettings io U up t config with
  | (t', .ok ()) =>
    (s.updateSystemConfig U (t'.getSystemSetting (up config.length) (py "max_cabinets")), t')
  | (t', .error _) => (s, t')

/-- `POST /config/mqtt`, which leaves the settings to the next start. -/
def postMqtt (io : Storage) (up : Bool) (t : ConfigTables) (config : MQTTConfigUpdate) : ConfigTables :=
  match t.saveMqttConfig io up config.dump with
  | .ok t' => t'
  | .error _ => t

/-! ## The process -/

/-- `main` up to the construction of the client, from the settings of the environment. -/
def configure (U : Unicode) (env : Settings) (up : Nat → Bool) (t : ConfigTables) : Settings :=
  let s := env.updateSystemConfig U (t.getSystemSetting (up 0) (py "max_cabinets"))
  match t.getMqttConfig (up 1) with
  | some config => s.updateMqttConfig config
  | none => s

/-- The process, with its settings while it runs, and the tables. -/
structure ConfigServer where
  settings : Option Settings
  tables : ConfigTables

def ConfigServer.fresh : ConfigServer := ⟨none, .empty⟩

inductive ConfigEvent where
  | start (up : Nat → Bool)
  /-- the process ends, between two requests -/
  | stop
  | postSystem (config : Dict) (up : Nat → Bool)
  | postMqtt (config : MQTTConfigUpdate) (up : Bool)
  /-- the process ends in a `POST /config/system` that has taken the first `taken` entries -/
  | killed (config : Dict) (taken : Nat) (up : Nat → Bool)

/-- One event, `none` when it cannot happen. -/
def ConfigServer.step (io : Storage) (U : Unicode) (env : Settings) (g : ConfigServer) :
    ConfigEvent → Option ConfigServer
  | .start up =>
    match g.settings with
    | none => some { g with settings := some (configure U env up g.tables) }
    | some _ => none
  | .stop => g.settings.map fun _ => { g with settings := none }
  | .postSystem config up =>
    g.settings.map fun s =>
      ⟨some (Gateway.postSystem io U up s g.tables config).1,
        (Gateway.postSystem io U up s g.tables config).2⟩
  | .postMqtt config up => g.settings.map fun s => ⟨some s, Gateway.postMqtt io up g.tables config⟩
  | .killed config taken up =>
    g.settings.map fun _ => ⟨none, (saveSettings io U up g.tables (config.take taken)).1⟩

/-! ## The connection -/

end SmartLocker.Gateway
