import CloudOrchestration.Document.Basic
/-!
# Cadence

How often things are tried again, and how long they may take. Spans are in
milliseconds.
-/

namespace CloudOrchestration

structure Cadence where
  /-- Between two looks at a resource, and between two tries of a request. -/
  interval : UInt64 := 5000
  /-- How often a read is tried that gets no answer. -/
  attempts : UInt32 := 5
  /-- What is kept back of the time for a machine to start. -/
  headroom : UInt64 := 300000
  /-- What one request may take. -/
  requestTimeout : UInt64 := 60000
  deriving DecidableEq, Repr

namespace Cadence

instance : Document Cadence where
  encode c := .object [
    Document.member "interval_ms" c.interval,
    Document.member "get_attempts" c.attempts,
    Document.member "boot_headroom_ms" c.headroom,
    Document.member "request_timeout_ms" c.requestTimeout]
  decode v := do
    let ms ← v.fields? ["interval_ms", "get_attempts", "boot_headroom_ms", "request_timeout_ms"]
    let standard : Cadence := {}
    return {
      interval := ← ms.defaulted "interval_ms" standard.interval
      attempts := ← ms.defaulted "get_attempts" standard.attempts
      headroom := ← ms.defaulted "boot_headroom_ms" standard.headroom
      requestTimeout := ← ms.defaulted "request_timeout_ms" standard.requestTimeout }

end Cadence

end CloudOrchestration
