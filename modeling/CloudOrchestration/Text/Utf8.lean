/-!
# Reading bytes as text

Bytes are read as UTF-8. Where they are not UTF-8, every maximal beginning
of a character that cannot be continued counts as one replacement character,
and reading goes on at the byte that did not fit. `Pending` is a character
whose first bytes have been read: it says which range the next byte must lie
in, which is what rules out surrogates, values beyond U+10FFFF and spellings
that are too long.
-/

namespace CloudOrchestration

namespace Utf8

/-- A character of which some bytes have been read. -/
structure Pending where
  /-- The bits read so far. -/
  value : Nat
  /-- How many bytes follow the next one. -/
  more : Nat
  /-- The range of the next byte. -/
  low : UInt8
  high : UInt8

/-- What a byte at the start of a character means. -/
inductive Lead where
  | char (c : Char)
  | pending (p : Pending)

/-- What stands for bytes that are no character. -/
def replacement : Char := '\uFFFD'

/-- The reading of a first byte. A byte that starts no character is replaced
at once. -/
def lead (b : UInt8) : Lead :=
  if b < 0x80 then .char (Char.ofNat b.toNat)
  else if b < 0xC2 then .char replacement
  else if b < 0xE0 then .pending ⟨b.toNat - 0xC0, 0, 0x80, 0xBF⟩
  else if b = 0xE0 then .pending ⟨0, 1, 0xA0, 0xBF⟩
  else if b = 0xED then .pending ⟨0xD, 1, 0x80, 0x9F⟩
  else if b < 0xF0 then .pending ⟨b.toNat - 0xE0, 1, 0x80, 0xBF⟩
  else if b = 0xF0 then .pending ⟨0, 2, 0x90, 0xBF⟩
  else if b < 0xF4 then .pending ⟨b.toNat - 0xF0, 2, 0x80, 0xBF⟩
  else if b = 0xF4 then .pending ⟨4, 2, 0x80, 0x8F⟩
  else .char replacement

/-- The characters of the bytes that follow a pending character, if there is
one. -/
def lossyFrom : Option Pending → List UInt8 → List Char
  | none, [] => []
  | some _, [] => [replacement]
  | none, b :: rest =>
    match lead b with
    | .char c => c :: lossyFrom none rest
    | .pending p => lossyFrom (some p) rest
  | some p, b :: rest =>
    if p.low ≤ b ∧ b ≤ p.high then
      let value := 0x40 * p.value + (b.toNat - 0x80)
      match p.more with
      | 0 => Char.ofNat value :: lossyFrom none rest
      | more + 1 => lossyFrom (some ⟨value, more, 0x80, 0xBF⟩) rest
    else
      match lead b with
      | .char c => replacement :: c :: lossyFrom none rest
      | .pending q => replacement :: lossyFrom (some q) rest

/-- **The text of any bytes**, with replacement characters where they are not
UTF-8. -/
def lossy (bytes : ByteArray) : String :=
  String.ofList (lossyFrom none bytes.toList)

end Utf8

end CloudOrchestration
