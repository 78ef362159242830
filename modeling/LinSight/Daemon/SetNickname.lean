import LinSight.Hardware.NicknameStore
import LinSight.Library.Run

set_option autoImplicit false

namespace LinSight

open DebugText (Message)

/-- One row of the catalogue. `pluginIdFor` is the lookup of the plugin host. -/
def buildSensorInfo (pluginIdFor : SensorId → Option String) (registry : HardwareRegistry)
    (d : SensorDescriptor) : SensorInfo :=
  let pluginId := (pluginIdFor d.id).getD "unknown"
  let deviceKey := d.deviceKey.or (d.deviceId.bind (registry.keyFor pluginId))
  { id := d.id
    displayName := d.displayName
    unit := d.unit
    kind := d.kind
    category := d.category
    nativeRateHz := d.nativeRateHz
    min := d.min
    max := d.max
    deviceId := d.deviceId
    pluginId
    deviceKey := deviceKey.map (·.asStr)
    deviceLabel := deviceKey.map registry.deviceLabelFor
    tags := d.tags }

def buildSensorInfoList (pluginIdFor : SensorId → Option String)
    (descriptors : List SensorDescriptor) (registry : HardwareRegistry) : List SensorInfo :=
  descriptors.map (buildSensorInfo pluginIdFor registry)

/-- The nickname a handler has put into the registry. `order` numbers the
successful `set_nickname` calls; no step reads it. -/
structure Change where
  key : HardwareDeviceKey
  value : Option String
  order : Nat

/-- Where the handler of one `SetNickname` request stands. `version` is the
number of the last change its snapshot contains; no step reads it. -/
inductive HandlerPhase where
  | received
  | applied
  | snapshotted (store : NicknameStore) (version : Nat)
  | saved
  | responded
  | catalogued (infos : List SensorInfo)
  | finished

structure Handler where
  deviceKey : String
  value : Option String
  phase : HandlerPhase
  change : Option Change
  response : Option (Except ProtoError ResponsePayload)

namespace Handler

def new (deviceKey : String) (value : Option String) : Handler where
  deviceKey := deviceKey
  value := value
  phase := .received
  change := none
  response := none

/-- The request is answered with an error and done. -/
def refuse (handler : Handler) (code : ProtoErrorCode) (message : Message) : Handler :=
  { handler with phase := .finished, response := some (.error ⟨code, message⟩) }

end Handler

/-- `value.as_deref().map(validate_nickname).transpose()`, flattened. -/
def normalizeValue : Option String → Except NicknameError (Option String)
  | none => .ok none
  | some value => validateNickname value

/-- What is normalized stays as it is. -/
theorem normalizeValue_normalized {value normalized : Option String}
    (accepted : normalizeValue value = .ok normalized) (nickname : String)
    (same : normalized = some nickname) : validateNickname nickname = .ok (some nickname) := by
  subst same
  cases value with
  | none => cases accepted
  | some input => exact @validateNickname_normalized input nickname accepted

/-- The registry, the nickname file and the handlers of all sessions.
`version` counts the changes and `savedVersion` is the last one in the file, once
a handler has saved; no step reads them. -/
structure Nicknames (Text : Type) where
  registry : HardwareRegistry
  file : Option Text
  handlers : KeyMap Nat Handler
  broadcasts : List (List SensorInfo)
  version : Nat
  savedVersion : Option Nat

namespace Nicknames

/-- The atomic actions of a handler. `failure` is the error of a failed save,
`delivered` says whether the socket took the response. -/
inductive Step where
  | receive (id : Nat) (deviceKey : String) (value : Option String)
  | setNickname (id : Nat)
  | snapshot (id : Nat)
  | save (id : Nat) (failure : Option String)
  | respond (id : Nat) (delivered : Bool)
  | catalogue (id : Nat)
  | broadcast (id : Nat)

section Model

variable {Text : Type} (codec : NicknameStore.Codec Text)
  (pluginIdFor : SensorId → Option String) (descriptors : List SensorDescriptor)

/-- The daemon's start: load the file, build the registry. -/
def start (manifests : List PluginDevices) (file : Option Text) : Nicknames Text :=
  let (store, file) := NicknameStore.load codec file
  { registry := .build manifests store.nicknames
    file
    handlers := ∅
    broadcasts := []
    version := 0
    savedVersion := none }

def withHandler (world : Nicknames Text) (id : Nat) (handler : Handler) : Nicknames Text :=
  { world with handlers := world.handlers.insert id handler }

/-- The checks of the request and `set_nickname` under the write lock. -/
def applyChange (world : Nicknames Text) (id : Nat) (handler : Handler) : Nicknames Text :=
  match HardwareDeviceKey.tryNew handler.deviceKey with
  | .error e =>
      world.withHandler id (handler.refuse .invalidNickname ("bad device key: " ++ e.toString))
  | .ok key =>
      match normalizeValue handler.value with
      | .error e => world.withHandler id (handler.refuse .invalidNickname e.toString)
      | .ok normalized =>
          match world.registry.setNickname key normalized with
          | .error e => world.withHandler id (handler.refuse .unknownDevice e.toString)
          | .ok registry =>
              let order := world.version + 1
              { world.withHandler id { handler with
                  phase := .applied
                  change := some ⟨key, normalized, order⟩ } with
                registry
                version := order }

/-- The answer to a change that was saved. -/
def acknowledgement (handler : Handler) (change : Change) : ResponsePayload :=
  .nicknameSet handler.deviceKey change.value

def step (world : Nicknames Text) : Step → Option (Nicknames Text)
  | .receive id deviceKey value =>
      Run.enabled (world.handlers.lookup id = none) (world.withHandler id (.new deviceKey value))
  | .setNickname id =>
      (world.handlers.lookup id).bind fun handler =>
        match handler.phase with
        | .received => some (world.applyChange id handler)
        | _ => none
  | .snapshot id =>
      (world.handlers.lookup id).bind fun handler =>
        match handler.phase with
        | .applied =>
            let store := ⟨1, world.registry.nicknamesSnapshot⟩
            some (world.withHandler id { handler with phase := .snapshotted store world.version })
        | _ => none
  | .save id failure =>
      (world.handlers.lookup id).bind fun handler =>
        match handler.phase, failure with
        | .snapshotted store version, none =>
            some { world.withHandler id { handler with phase := .saved } with
              file := NicknameStore.save codec store false world.file
              savedVersion := some version }
        | .snapshotted store _, some reason =>
            some { world.withHandler id (handler.refuse .io ("save failed: " ++ reason)) with
              file := NicknameStore.save codec store true world.file }
        | _, _ => none
  | .respond id delivered =>
      (world.handlers.lookup id).bind fun handler =>
        match handler.phase, handler.change with
        | .saved, some change =>
            some (world.withHandler id
              (if delivered then
                { handler with
                  phase := .responded
                  response := some (.ok (acknowledgement handler change)) }
              else { handler with phase := .finished }))
        | _, _ => none
  | .catalogue id =>
      (world.handlers.lookup id).bind fun handler =>
        match handler.phase with
        | .responded =>
            let infos := buildSensorInfoList pluginIdFor descriptors world.registry
            some (world.withHandler id { handler with phase := .catalogued infos })
        | _ => none
  | .broadcast id =>
      (world.handlers.lookup id).bind fun handler =>
        match handler.phase with
        | .catalogued infos =>
            some { world.withHandler id { handler with phase := .finished } with
              broadcasts := world.broadcasts ++ [infos] }
        | _ => none

end Model

end Nicknames

end LinSight
