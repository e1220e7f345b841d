import MessageEngine.Config.Basic
import MessageEngine.Toml.Document

/-!
# Configuration documents

A configuration is read from a TOML document.  Keys that are missing have
their defaults and unknown keys are passed over, but a known key must have a
value of its type and range.  A section may also be an array, which gives
its keys in order; a date in its place counts as a section without known
keys.
-/

namespace MessageEngine

namespace Toml

/-- The value, if it is a whole number below a bound. -/
def natBelow? (bound : Nat) : Toml → Option Nat
  | .integer n => if 0 ≤ n ∧ n < bound then some n.toNat else none
  | _ => none

def port? (v : Toml) : Option UInt16 := (v.natBelow? UInt16.size).map UInt16.ofNat

def count? (v : Toml) : Option Nat := v.natBelow? UInt64.size

def bool? : Toml → Option Bool
  | .boolean b => some b
  | _ => none

def string? : Toml → Option String
  | .string s => some s
  | _ => none

/-- The keys of a section that are given. -/
inductive Section
  | named (entries : Entries)
  | ordered (items : List Toml)

def section? : Toml → Option Section
  | .table _ entries => some (.named entries)
  | .datetime => some (.named [])
  | .array items => some (.ordered items)
  | .tables rows => some (.ordered (rows.reverse.map (.table .header ·)))
  | _ => none

/-- The value for a key; `place` counts the keys of the section. -/
def Section.get? (place : Nat) (key : String) : Section → Option Toml
  | .named entries => entries.lookup key
  | .ordered items => items[place]?

/-- What a key says; the default if it is missing, and nothing if it does not make sense. -/
def Section.read {α : Type} (s : Section) (place : Nat) (key : String) (fallback : α)
    (decode : Toml → Option α) : Option α :=
  match s.get? place key with
  | some v => decode v
  | none => some fallback

end Toml

namespace ProtocolConfig

def ofSection? (s : Toml.Section) : Option ProtocolConfig := do
  let d : ProtocolConfig := {}
  let bufferLength ← s.read 0 "network_buffer_length" d.bufferLength Toml.count?
  let maxRate ← s.read 1 "max_received_messages_per_second" d.maxRate fun v ↦
    (v.natBelow? UInt32.size).map UInt32.ofNat
  let maxPayload ← s.read 2 "max_payload_length" d.maxPayload Toml.count?
  let strictVersions ← s.read 3 "strict_versions" d.strictVersions Toml.bool?
  let compression ← s.read 4 "compression" d.compression Toml.bool?
  return ⟨bufferLength, maxRate, maxPayload, strictVersions, compression⟩

def ofToml? (v : Toml) : Option ProtocolConfig := v.section?.bind ofSection?

end ProtocolConfig

def QueueConfig.ofToml? (v : Toml) : Option QueueConfig := do
  let s ← v.section?
  let d : QueueConfig := {}
  let connectionsPerQueue ← s.read 0 "connections_per_queue" d.connectionsPerQueue Toml.count?
  return ⟨connectionsPerQueue⟩

def TlsConfig.ofToml? (v : Toml) : Option TlsConfig := do
  let s ← v.section?
  let certificatePath ← (s.get? 0 "certificate_path").bind Toml.string?
  let certificatePassword ← s.read 1 "certificate_password" "" Toml.string?
  return ⟨certificatePath, certificatePassword⟩

namespace Config

/-- The configuration that the entries of a document give. -/
def ofEntries? (entries : Toml.Entries) : Option Config := do
  let s : Toml.Section := .named entries
  let d : Config := {}
  let bindAddress ← s.read 0 "bind_address" d.bindAddress fun v ↦
    v.string?.bind IpAddress.ofText?
  let tcpPort ← s.read 1 "tcp_port" d.tcpPort Toml.port?
  let udpPort ← s.read 2 "udp_port" d.udpPort Toml.port?
  let webSocketPort ← s.read 3 "websocket_port" d.webSocketPort Toml.port?
  let protocol ← s.read 4 "protocol" d.protocol ProtocolConfig.ofToml?
  let queue ← s.read 5 "queue" d.queue QueueConfig.ofToml?
  let tls ← s.read 6 "tls" d.tls fun v ↦ (TlsConfig.ofToml? v).map some
  let debug ← s.read 7 "debug" d.debug Toml.bool?
  return ⟨"", bindAddress, tcpPort, udpPort, webSocketPort, protocol, queue, tls, debug⟩

/-- The configuration that a document gives; it does not say where it was found. -/
def ofDocument? (text : String) (parse : String → Option Toml.Entries := Toml.parse?) :
    Option Config :=
  (parse text).bind ofEntries?

end Config

end MessageEngine
