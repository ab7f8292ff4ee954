import CloudOrchestration.Fault
import CloudOrchestration.Json.Bytes
/-!
# The wire format

Documents reach the wire as JSON values. How a value becomes bytes, and
under which label, is left to whoever sets up a channel; `Wire.json` is the
format that writes its text.
-/

namespace CloudOrchestration

/-- How JSON values are written as bytes and read from them. -/
structure Wire where
  encode : Json → Except Fault ByteArray
  decode : ByteArray → Except Fault Json
  /-- The label of what is written. -/
  contentType : ContentType := .xml

namespace Wire

/-- JSON text. -/
def json : Wire where
  encode v := .ok v.toBytes
  decode bytes :=
    match Json.ofBytes? bytes with
    | some v => .ok v
    | none => .error .json
  contentType := .json

variable {α : Type} [Document α]

/-- The bytes of a document. -/
def write (w : Wire) (a : α) : Except Fault ByteArray := w.encode (Document.encode a)

/-- The document of bytes. -/
def read (w : Wire) (bytes : ByteArray) : Except Fault α := do
  match Document.decode (← w.decode bytes) with
  | some a => .ok a
  | none => .error (.document .shape)

end Wire

end CloudOrchestration
