import LinSight.Daemon.Sessions
import LinSight.Protocol.CutWrites

set_option autoImplicit false

/-! The sockets of the daemon's sessions. The pump and the read loop of a session share one
writer; every write on it fails on its own, and whoever made it ends on its own. -/

namespace LinSight

def pumpDrainCap : Nat := 256

def OutboundMsg.toServerMsg : OutboundMsg → ServerMsg
  | .sample s => .sample s
  | .sensorListBroadcast infos => .sensorListBroadcast infos

/-- What a session's threads share besides its sink. `drained` counts the messages of the
pump's tick, and is `none` while the pump waits for the next one. -/
structure Link where
  writer : BufferedWriter
  drained : Option Nat
  stopSent : Bool

def Link.new : Link where
  writer := .new
  drained := none
  stopSent := false

structure Transport where
  daemon : Daemon
  links : Nat → Link

namespace Transport

/-- Each write comes with what the socket makes of it. `refuse` is a `Bye` instead of the
`Welcome`, `bye` answers a duplicate `Hello`, `reply` is any other message of the read loop. -/
inductive Step where
  | refuse (client : Nat) (bye : ServerMsg) (outcome : WriteAll)
  | connect (client : Nat) (welcome : ServerMsg) (outcome : WriteAll)
  | reply (client : Nat) (msg : ServerMsg) (outcome : WriteAll)
  | bye (client : Nat) (msg : ServerMsg) (outcome : WriteAll)
  | hangup (client : Nat)
  | sendStop (client : Nat)
  | tick (client : Nat)
  | pumpWrite (client : Nat) (outcome : WriteAll)
  | pumpEmpty (client : Nat)
  | pumpStop (client : Nat)
  | daemon (label : LinSight.Step)

/-- The steps of the daemon in which no socket and no pump takes part. -/
def offWire : LinSight.Step → Bool
  | .connect _ | .disconnect _ | .pump _ | .pumpExit _ => false
  | _ => true

section Model

variable {ε : Type} (format : Format ServerMsg ε) (alloc : Allocator)

def start (descriptors : List SensorDescriptor) : Transport where
  daemon := .new descriptors
  links := fun _ => .new

def withLink (transport : Transport) (client : Nat) (link : Link) : Transport :=
  { transport with links := Function.update transport.links client link }

/-- A write of the client's session. -/
def write (transport : Transport) (client : Nat) (outcome : WriteAll) (msg : ServerMsg) :
    Bool × Link :=
  let link := transport.links client
  let (sent, writer) := link.writer.send format alloc outcome msg
  (sent, { link with writer })

/-- The `?` behind a write of the read loop. -/
def reply (transport : Transport) (client : Nat) (outcome : WriteAll) (msg : ServerMsg) :
    Option Transport :=
  (transport.daemon.sessions.lookup client).bind fun session =>
    if session.phase = .serving then
      let (sent, link) := transport.write format alloc client outcome msg
      if sent then some (transport.withLink client link)
      else (transport.daemon.step (.disconnect client)).map fun daemon =>
        { transport.withLink client link with daemon }
    else none

/-- One message of the pump's tick. A failed write ends the pump. -/
def pumpWrite (transport : Transport) (client : Nat) (outcome : WriteAll) : Option Transport :=
  (transport.daemon.sessions.lookup client).bind fun session =>
    match session.queue, (transport.links client).drained with
    | msg :: _, some drained =>
        (transport.daemon.step (.pump client)).bind fun daemon =>
          let (sent, link) := transport.write format alloc client outcome msg.toServerMsg
          if sent then
            let drained := if pumpDrainCap ≤ drained + 1 then none else some (drained + 1)
            some { transport.withLink client { link with drained } with daemon }
          else (daemon.step (.pumpExit client)).map fun daemon =>
            { transport.withLink client link with daemon }
    | _, _ => none

def step (transport : Transport) : Step → Option Transport
  | .refuse client bye outcome =>
      let (_, writer) := Link.new.writer.send format alloc outcome bye
      Run.enabled (transport.daemon.sessions.lookup client = none)
        (transport.withLink client { Link.new with writer })
  | .connect client welcome outcome =>
      let (sent, writer) := Link.new.writer.send format alloc outcome welcome
      let transport := transport.withLink client { Link.new with writer }
      if sent then
        (transport.daemon.step (.connect client)).map fun daemon => { transport with daemon }
      else Run.enabled (transport.daemon.sessions.lookup client = none) transport
  | .reply client msg outcome => transport.reply format alloc client outcome msg
  | .bye client msg outcome =>
      let (_, link) := transport.write format alloc client outcome msg
      (transport.daemon.step (.disconnect client)).map fun daemon =>
        { transport.withLink client link with daemon }
  | .hangup client =>
      (transport.daemon.step (.disconnect client)).map fun daemon => { transport with daemon }
  | .sendStop client =>
      (transport.daemon.sessions.lookup client).bind fun session =>
        Run.enabled (session.phase = .stopped)
          (transport.withLink client { transport.links client with stopSent := true })
  | .tick client =>
      (transport.daemon.sessions.lookup client).bind fun session =>
        let link := transport.links client
        Run.enabled (session.pumpAlive = true ∧ link.drained = none ∧ link.stopSent = false)
          (transport.withLink client { link with drained := some 0 })
  | .pumpWrite client outcome => transport.pumpWrite format alloc client outcome
  | .pumpEmpty client =>
      (transport.daemon.sessions.lookup client).bind fun session =>
        Run.enabled (session.pumpAlive = true ∧ session.queue = [])
          (transport.withLink client { transport.links client with drained := none })
  | .pumpStop client =>
      let link := transport.links client
      if link.drained = none ∧ link.stopSent = true then
        (transport.daemon.step (.pumpExit client)).map fun daemon => { transport with daemon }
      else none
  | .daemon label =>
      if offWire label then
        (transport.daemon.step label).map fun daemon => { transport with daemon }
      else none

end Model

/-- The encodings of a `Welcome` of version 1.20.5 and of empty catalogues. -/
def bareFormat : Format ServerMsg String :=
  .filling
    (fun
      | .welcome version _ _ => [0, UInt8.ofNat version, 6, 49, 46, 50, 48, 46, 53, 0]
      | .sensorList _ => [1, 0]
      | .sensorListBroadcast _ => [6, 0]
      | _ => [4, 0])
    fun _ => .error "unexpected variant"

/-- An allocator that gives what it is asked for. -/
def tightAlloc : Allocator := ⟨fun _ len additional => len + additional, fun _ _ _ => le_rfl⟩

end Transport

end LinSight
