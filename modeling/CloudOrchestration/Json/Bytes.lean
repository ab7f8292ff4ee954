import CloudOrchestration.Json.Printer
import CloudOrchestration.Json.Parser
/-!
# JSON as bytes

The text of a value is written as UTF-8. On reading, one byte-order mark is
dropped from the very start, and bytes that are not UTF-8 denote nothing.
-/

namespace CloudOrchestration

namespace Json

/-- The UTF-8 byte-order mark. -/
def byteOrderMark : List UInt8 := [0xEF, 0xBB, 0xBF]

/-- The bytes after one byte-order mark, if they start with one. -/
def dropMark (bytes : ByteArray) : ByteArray :=
  if (bytes.extract 0 3).toList = byteOrderMark then bytes.extract 3 bytes.size else bytes

def toBytes (v : Json) : ByteArray := v.render.toUTF8

def ofBytes? (bytes : ByteArray) : Option Json := do
  let text ← String.fromUTF8? (dropMark bytes)
  parse? text.toList

end Json

end CloudOrchestration
