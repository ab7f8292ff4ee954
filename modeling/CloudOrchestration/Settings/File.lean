import CloudOrchestration.Settings.Basic
import CloudOrchestration.Yaml.Parser
import CloudOrchestration.Yaml.Unsigned
/-!
# Settings from a file

The file is a YAML mapping. Keys that are not known are passed over; a known
one may stand there once. The cadence is a mapping of its own, and an empty
one where nothing is written.
-/

namespace CloudOrchestration

namespace Settings

open Yaml (Node)

/-- The entries of a mapping, read through their keys. -/
structure Entries where
  /-- The key of each entry is a scalar. -/
  entries : List (String × Node)

namespace Entries

/-- The entries of a node whose known keys stand there at most once. -/
def ofNode? (known : List String) : Node → Option Entries
  | .mapping entries => do
    let entries ← entries.mapM fun (key, value) => return (← key.text?, value)
    let isOnce := fun key => (entries.filter (·.1 == key)).length ≤ 1
    if known.all isOnce then some ⟨entries⟩ else none
  | .scalar true "" => some ⟨[]⟩
  | _ => none

def find? (es : Entries) (key : String) : Option Node :=
  (es.entries.find? (·.1 == key)).map (·.2)

variable {α : Type}

/-- The value of a key, and what stands for it where it is missing. -/
def defaulted (es : Entries) (key : String) (fallback : α) (read : Node → Option α) : Option α :=
  match es.find? key with
  | none => some fallback
  | some n => read n

def text (es : Entries) (key fallback : String) : Option String :=
  es.defaulted key fallback (·.text?)

def optionalText (es : Entries) (key : String) : Option (Option String) :=
  es.defaulted key none (·.optionalText?)

def word64 (es : Entries) (key : String) (fallback : UInt64) : Option UInt64 :=
  es.defaulted key fallback fun n => (n.unsigned? UInt64.size).map UInt64.ofNat

def word32 (es : Entries) (key : String) (fallback : UInt32) : Option UInt32 :=
  es.defaulted key fallback fun n => (n.unsigned? UInt32.size).map UInt32.ofNat

end Entries

def cadenceOfNode? (n : Node) : Option Cadence := do
  let es ← Entries.ofNode?
    ["interval_ms", "get_attempts", "boot_headroom_ms", "request_timeout_ms"] n
  let standard : Cadence := {}
  return {
    interval := ← es.word64 "interval_ms" standard.interval
    attempts := ← es.word32 "get_attempts" standard.attempts
    headroom := ← es.word64 "boot_headroom_ms" standard.headroom
    requestTimeout := ← es.word64 "request_timeout_ms" standard.requestTimeout }

def ofNode? (n : Node) : Option Settings := do
  let es ← Entries.ofNode?
    ["subscription_id", "endpoint", "api_version", "certificate_pem", "private_key_pem",
     "affinity_prefix", "cloud_service_prefix", "storage_prefix", "virtual_network", "poll"] n
  let standard : Settings := { subscription := ← (← es.find? "subscription_id").text? }
  return {
    subscription := standard.subscription
    endpoint := ← es.text "endpoint" standard.endpoint
    apiVersion := ← es.text "api_version" standard.apiVersion
    certificate := ← es.optionalText "certificate_pem"
    privateKey := ← es.optionalText "private_key_pem"
    affinityPrefix := ← es.text "affinity_prefix" standard.affinityPrefix
    servicePrefix := ← es.text "cloud_service_prefix" standard.servicePrefix
    storagePrefix := ← es.text "storage_prefix" standard.storagePrefix
    network := ← es.optionalText "virtual_network"
    cadence := ← es.defaulted "poll" standard.cadence cadenceOfNode? }

/-- **The settings of a file**, or `none` in place of its bytes where it
cannot be read. -/
def ofFile (bytes : Option ByteArray) : Except Fault Settings := do
  match bytes.bind String.fromUTF8? with
  | none => .error .io
  | some text =>
    match (Yaml.parse? text.toList).bind ofNode? with
    | none => .error .yaml
    | some s =>
      s.check
      return s

end Settings

end CloudOrchestration
