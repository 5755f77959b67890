import GatewayLink.Json.Document
import GatewayLink.Session.Event
import GatewayLink.Toml.Document

/-! Settings: the address to listen on, the log level, and the session policy.
They come from a TOML document with the sections `udp`, `logging` and `session`. A section is a table, or an
array with the values of its fields in order. Each missing field of the session policy has its own
default, and a number that does not fit its field is refused. -/

namespace GatewayLink

structure Settings where
  bind : String
  level : String
  policy : Policy
  deriving DecidableEq

inductive SettingsFault where
  | unreadable
  | malformed
  deriving DecidableEq

def SettingsFault.message : SettingsFault → String
  | unreadable => "Failed to read config file"
  | malformed => "Failed to parse config file"

namespace Settings

open Toml

def standard : Settings := ⟨"0.0.0.0:1700", "info", .standard⟩

def text? : Value → Option String
  | .text s => some s
  | _ => none

def word64? : Value → Option UInt64
  | .integer i => if 0 ≤ i ∧ i < 0x10000000000000000 then some (UInt64.ofNat i.toNat) else none
  | _ => none

def word32? : Value → Option UInt32
  | .integer i => if 0 ≤ i ∧ i < 0x100000000 then some (UInt32.ofNat i.toNat) else none
  | _ => none

def fields? : Value → Option (Nat → String → Option Value)
  | .table entries => some fun _ key => entries.lookup key
  | .array items => some fun position _ => items[position]?
  | .moment _ => some fun _ _ => none
  | _ => none

def field? {α : Type} (form : Value → Option α) (default : α) : Option Value → Option α
  | some v => form v
  | none => some default

def soleText? (key : String) (v : Value) : Option String :=
  (fields? v).bind fun fields => (fields 0 key).bind text?

def policy? (v : Value) : Option Policy := do
  let fields ← fields? v
  let ackTimeout ← field? word64? Policy.standard.ackTimeout (fields 0 "ack_timeout_ms")
  let maxRetries ← field? word32? Policy.standard.maxRetries (fields 1 "max_retries")
  let inactivity ← field? word64? Policy.standard.inactivity (fields 2 "inactivity_timeout_secs")
  let sweepInterval ← field? word64? Policy.standard.sweepInterval (fields 3 "sweep_interval_ms")
  return ⟨ackTimeout, maxRetries, inactivity, sweepInterval⟩

def ofEntries? (entries : Entries) : Option Settings := do
  let bind ← (entries.get? "udp").bind (soleText? "bind")
  let policy ← field? policy? Policy.standard (entries.get? "session")
  let level ← (entries.get? "logging").bind (soleText? "level")
  return ⟨bind, level, policy⟩

def parse (document : String) : Except SettingsFault Settings :=
  match (Toml.parse? document).bind ofEntries? with
  | some settings => .ok settings
  | none => .error .malformed

def load (file : Option (List UInt8)) : Except SettingsFault Settings :=
  match file.bind Json.charsOfOctets? with
  | some cs => parse (String.ofList cs)
  | none => .error .unreadable

end Settings

end GatewayLink
