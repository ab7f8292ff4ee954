import CloudOrchestration.Settings.Basic
import CloudOrchestration.Text.Utf8
/-!
# The identity of a client

A client shows a certificate and holds its private key. Both are sections of
text files, each between a line that begins it and one that ends it, with a
label in both; a file may hold the two of them in any order, and text between
the sections does not count. A key without a certificate is of no use.
-/

namespace CloudOrchestration

/-- The bytes of the files that can be read. -/
abbrev Files := String → Option ByteArray

namespace Identity

/-- The lines of a text. A carriage return ends a line as well. -/
def lines (text : String) : List String :=
  (text.map fun c => if c = '\r' then '\n' else c).splitOn "\n"

/-- What follows a beginning that a text has. -/
def after? (start text : String) : Option (List Char) :=
  if start.toList.isPrefixOf text.toList then some (text.toList.drop start.length) else none

/-- The label of the section that a line begins; `none` within where the line
is not closed. -/
def label? (line : String) : Option (Option String) := do
  let rest ← after? "-----BEGIN " line
  let reversed := rest.reverse.dropWhile (· == ' ')
  let dashes := reversed.takeWhile (· == '-')
  if dashes.length = 5 then some (some (String.ofList (reversed.drop 5).reverse)) else some none

/-- The labels of the sections, of which `within` has been begun. A section
that is not ended, or not rightly begun, makes the whole unreadable. -/
def labels (within : Option String) : List String → Option (List String)
  | [] => if within.isSome then none else some []
  | line :: rest =>
    match within with
    | some label =>
      if (after? s!"-----END {label}-----" line).isSome then
        (labels none rest).map (label :: ·)
      else labels within rest
    | none =>
      match label? line with
      | none => labels none rest
      | some none => none
      | some (some label) => labels (some label) rest

def certificateLabel : String := "CERTIFICATE"

def keyLabels : List String := ["PRIVATE KEY", "RSA PRIVATE KEY", "EC PRIVATE KEY"]

/-- The labels of sections that have no place beside a certificate. Sections
with any other label do not count. -/
def foreignLabels : List String := ["PUBLIC KEY", "X509 CRL", "CERTIFICATE REQUEST"]

/-- Whether a text has a certificate and a private key. -/
def isComplete (text : String) : Bool :=
  match labels none (lines text) with
  | none => false
  | some found =>
    found.contains certificateLabel && found.any keyLabels.contains
      && !found.any foreignLabels.contains

/-- The text of a file. -/
def read (files : Files) (name : String) : Except Fault String :=
  match files name with
  | some bytes => .ok (Utf8.lossy bytes)
  | none => .error .io

/-- **The identity that settings name**, as text, if they name one. -/
def load (files : Files) (s : Settings) : Except Fault (Option String) := do
  let text ← match s.certificate, s.privateKey with
    | none, none => pure none
    | none, some _ => .error (.invalidSettings .keyWithoutCertificate)
    | some certificate, none => some <$> read files certificate
    | some certificate, some key => do
      let text ← read files certificate
      pure (some (text ++ "\n" ++ (← read files key)))
  match text with
  | none => return none
  | some text => if isComplete text then return some text else .error .http

end Identity

end CloudOrchestration
