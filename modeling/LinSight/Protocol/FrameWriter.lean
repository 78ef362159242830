import LinSight.Library.Varint
import LinSight.Protocol.Frame

set_option autoImplicit false

/-! Frames written to a stream, and the sizes of the answers in them. -/

namespace LinSight

open DebugText (Message)
open Varint (blobSize optionSize seqSize)

section Sizes

def stringSize (s : String) : Nat := blobSize s.utf8ByteSize

def unitSize : LinSight.Unit → Nat
  | .custom symbol => 1 + stringSize symbol
  | _ => 1

def hardwareDeviceSize (device : HardwareDevice) : Nat :=
  stringSize device.key.asStr + 1 + stringSize device.model +
    optionSize stringSize device.vendor + optionSize stringSize device.location +
    stringSize device.pluginId + stringSize device.pluginDeviceId +
    seqSize (fun id => stringSize id.asStr) device.sensorIds

def cellSize : Cell → Nat
  | .text s => 1 + stringSize s
  | .number _ => 1 + 8
  | .bytes n => 1 + Varint.size n

def readingSize : Reading → Nat
  | .scalar _ => 1 + 8
  | .counter v => 1 + Varint.size v
  | .table rows => 1 + seqSize (fun row => seqSize cellSize row.cells) rows
  | .state s => 1 + stringSize s

def sampleSize (sample : Sample) : Nat :=
  stringSize sample.sensor.asStr + Varint.size sample.tsMicros + readingSize sample.reading

def alertRuleSize (rule : AlertRuleJson) : Nat :=
  stringSize rule.name + stringSize rule.expr + optionSize stringSize rule.forDuration +
    optionSize stringSize rule.cooldown + seqSize stringSize rule.notify + 1

def sensorInfoSize (info : SensorInfo) : Nat :=
  stringSize info.id.asStr + stringSize info.displayName + unitSize info.unit + 1 + 1 + 4 +
    optionSize (fun _ => 8) info.min + optionSize (fun _ => 8) info.max +
    optionSize stringSize info.deviceId + stringSize info.pluginId +
    optionSize stringSize info.deviceKey + optionSize stringSize info.deviceLabel +
    seqSize stringSize info.tags

/-- What follows the variant of the payload. -/
def payloadSize : ResponsePayload → Nat
  | .hardware devices nicknames =>
      seqSize hardwareDeviceSize devices +
        seqSize (fun entry => stringSize entry.1 + stringSize entry.2) nicknames.entries
  | .nicknameSet deviceKey value => stringSize deviceKey + optionSize stringSize value
  | .pumpIntervalSet ms => Varint.size ms
  | .history sensor samples => stringSize sensor + seqSize sampleSize samples
  | .alertList rules => seqSize alertRuleSize rules
  | .alertUpserted name => stringSize name
  | .alertDeleted name => stringSize name
  | .alertTestResult _ error => 1 + optionSize stringSize error
  | .alertEventList eventsJson => stringSize eventsJson
  | .daemonSettings _ _ _ promBind => 3 + optionSize stringSize promBind
  | .daemonSettingsSet _ _ _ => 3
  | .sensorInfo info => sensorInfoSize info

section Results

variable (printable : Char → Bool)

/-- What follows the code of the error, or the variant of the payload. -/
def resultSize : Except ProtoError ResponsePayload → Nat
  | .ok payload => payloadSize payload
  | .error error => stringSize (error.message.render printable)

/-- The variants of the message, of the result and of what is in it take a byte each. -/
def responseSize (reqId : UInt32) (result : Except ProtoError ResponsePayload) : Nat :=
  3 + Varint.size reqId.toNat + resultSize printable result

/-- An encoding of the daemon's messages that has the sizes of the wire format. -/
def WireFormat (toSlice : ServerMsg → List UInt8) : Prop :=
  ∀ (reqId : UInt32) (result : Except ProtoError ResponsePayload),
    (toSlice (.response reqId.toNat result)).length = responseSize printable reqId result

end Results

end Sizes

/-- A writer and the capacity of its buffer for bodies. -/
structure FrameWriter where
  bodyCapacity : Nat
deriving DecidableEq

namespace FrameWriter

def new : FrameWriter := ⟨256⟩

/-- `serialize_body`: the buffer grows until the body fits, and stays that large. -/
def serializeBody (body : List UInt8) (writer : FrameWriter) : List UInt8 × FrameWriter :=
  let cap := writer.bodyCapacity
  if body.length ≤ cap then (body, writer)
  else serializeBody body ⟨cap + max cap 256⟩
termination_by body.length - writer.bodyCapacity

/-- `u32::to_le_bytes`. -/
def u32ToLe (n : Nat) : List UInt8 :=
  (List.range 4).map fun i => UInt8.ofNat (n / 256 ^ i % 256)

/-- The frame that is put on the stream, which takes all of it. -/
def writeFrame (toSlice : ServerMsg → List UInt8) (msg : ServerMsg) (writer : FrameWriter) :
    Except (FrameError String) (List UInt8) × FrameWriter :=
  let (body, writer) := writer.serializeBody (toSlice msg)
  if maxFrameBytes < body.length then (.error (.oversized body.length), writer)
  else (.ok (u32ToLe body.length ++ body), writer)

theorem serializeBody_fst (body : List UInt8) (writer : FrameWriter) :
    (writer.serializeBody body).1 = body := by
  fun_induction serializeBody body writer with
  | case1 writer cap fits => rfl
  | case2 writer cap grows ih => exact ih

/-- Only the size of a message keeps it from being written. -/
theorem writeFrame_fst (toSlice : ServerMsg → List UInt8) (msg : ServerMsg)
    (writer : FrameWriter) :
    (writer.writeFrame toSlice msg).1 =
      if maxFrameBytes < (toSlice msg).length then .error (.oversized (toSlice msg).length)
      else .ok (u32ToLe (toSlice msg).length ++ toSlice msg) := by
  simp only [writeFrame, serializeBody_fst]
  split <;> rfl

end FrameWriter

end LinSight
