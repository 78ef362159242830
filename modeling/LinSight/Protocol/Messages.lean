import LinSight.Library.KeyMap
import LinSight.Plugin.Manifest

set_option autoImplicit false

namespace LinSight

open DebugText (Message)

inductive RequestOp where
  | getHardware
  | setNickname (deviceKey : String) (value : Option String)
  | setPumpIntervalMs (ms : Nat)
  | getHistory (sensor : String) (sinceMicros untilMicros : Nat) (maxPoints : Option Nat)
  | listAlerts
  | upsertAlert (name expr : String) (forDuration cooldown : Option String)
      (notify : List String) (enabled : Option Bool)
  | deleteAlert (name : String)
  | testAlertExpr (expr : String)
  | listAlertEvents (limit : Option Nat)
  | getDaemonSettings
  | setDaemonSettings (history alerts prom : Option Bool) (promBind : Option String)
  | getSensorInfo (sensor : String)
deriving DecidableEq

inductive ClientMsg where
  | hello (protocolVersion : Nat) (clientName : String) (authToken : Option String)
  | listSensors
  | subscribe (sensors : List SensorId) (rateHz : Option Ieee.Value)
  | unsubscribe (sensors : List SensorId)
  | goodbye
  | request (reqId : Nat) (op : RequestOp)
deriving DecidableEq

inductive ProtoErrorCode where
  | unknownDevice
  | invalidNickname
  | io
  | internal
  | unknownSensor
  | alertNotFound
  | alertParse
deriving DecidableEq

structure ProtoError where
  code : ProtoErrorCode
  message : Message
deriving DecidableEq

structure PluginInfo where
  pluginId : String
  displayName : String
  version : String
  sensorCount : Nat
deriving DecidableEq

structure AlertRuleJson where
  name : String
  expr : String
  forDuration : Option String
  cooldown : Option String
  notify : List String
  enabled : Bool
deriving DecidableEq

structure SensorInfo where
  id : SensorId
  displayName : String
  unit : LinSight.Unit
  kind : SensorKind
  category : Category
  nativeRateHz : Ieee.Value
  min : Option Ieee.Value
  max : Option Ieee.Value
  deviceId : Option String
  pluginId : String
  deviceKey : Option String
  deviceLabel : Option String
  tags : List String
deriving DecidableEq

inductive ResponsePayload where
  | hardware (devices : List HardwareDevice) (nicknames : KeyMap String String)
  | nicknameSet (deviceKey : String) (value : Option String)
  | pumpIntervalSet (ms : Nat)
  | history (sensor : String) (samples : List Sample)
  | alertList (rules : List AlertRuleJson)
  | alertUpserted (name : String)
  | alertDeleted (name : String)
  | alertTestResult (isTrue : Bool) (error : Option String)
  | alertEventList (eventsJson : String)
  | daemonSettings (historyEnabled alertsEnabled promEnabled : Bool) (promBind : Option String)
  | daemonSettingsSet (historyEnabled alertsEnabled promEnabled : Bool)
  | sensorInfo (info : SensorInfo)
deriving DecidableEq

inductive ServerMsg where
  | welcome (protocolVersion : Nat) (daemonVersion : String) (plugins : List PluginInfo)
  | sensorList (sensors : List SensorInfo)
  | sample (sample : Sample)
  | sensorDegraded (sensor : SensorId) (reason : String)
  | bye (reason : String)
  | response (reqId : Nat) (result : Except ProtoError ResponsePayload)
  | sensorListBroadcast (sensors : List SensorInfo)

end LinSight
