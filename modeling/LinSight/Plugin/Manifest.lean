import LinSight.Core.Hardware

set_option autoImplicit false

namespace LinSight

open DebugText (Message)

inductive Unit where
  | percent
  | celsius
  | bytes
  | bytesPerSec
  | hertz
  | watts
  | volts
  | rpm
  | count
  | custom (symbol : String)
deriving DecidableEq

inductive SensorKind where
  | scalar
  | counter
  | table
  | state
deriving DecidableEq

inductive Category where
  | cpu
  | gpu
  | memory
  | storage
  | network
  | custom
deriving DecidableEq

/-- The `f32` nearest to 0.1. -/
def minRateHz : Ieee.Value := .finite (13421773 / 134217728)

def maxRateHz : Ieee.Value := .finite 20

structure SensorDescriptor where
  id : SensorId
  displayName : String
  unit : LinSight.Unit
  kind : SensorKind
  category : Category
  nativeRateHz : Ieee.Value
  min : Option Ieee.Value
  max : Option Ieee.Value
  deviceId : Option String
  deviceKey : Option HardwareDeviceKey
  tags : List String
deriving DecidableEq

def SensorDescriptor.clampedRateHz (descriptor : SensorDescriptor) : Option Ieee.Value :=
  descriptor.nativeRateHz.clamp minRateHz maxRateHz

/-- Two of the descriptors the memory plugin declares. -/
def memUsedBytes : SensorDescriptor where
  id := ⟨"mem.used_bytes"⟩
  displayName := "Memory used"
  unit := .bytes
  kind := .scalar
  category := .memory
  nativeRateHz := .finite 1
  min := some (.finite 0)
  max := none
  deviceId := none
  deviceKey := none
  tags := []

def memTotalBytes : SensorDescriptor where
  id := ⟨"mem.total_bytes"⟩
  displayName := "Memory total"
  unit := .bytes
  kind := .scalar
  category := .memory
  nativeRateHz := minRateHz
  min := some (.finite 0)
  max := none
  deviceId := none
  deviceKey := none
  tags := [staticTag]

inductive PluginError where
  | io (message : Message)
  | parse (message : Message)
  | unsupported (message : Message)
  | transient (message : Message)
  | timeout (message : Message)
  | manifest (message : Message)
  | panic (message : Message)
deriving DecidableEq

end LinSight
