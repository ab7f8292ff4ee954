import CloudOrchestration.Json.Numeral
/-!
# Reading JSON text

The grammar is the strict one: four blank characters, no comma before a
closing bracket, no control character and no lone surrogate in a string, and
nothing after the value. Arrays and objects nest to a given depth, on which
`value` recurses; the width of a list is bounded by the length of its text.
Of members with one key the last counts.
-/

namespace CloudOrchestration

namespace Json

/-- The characters that may stand between tokens. -/
def isBlank (c : Char) : Bool :=
  c == ' ' || c == '\t' || c == '\n' || c == '\r'

def skipBlank (cs : List Char) : List Char := cs.dropWhile isBlank

/-! ## Strings -/

/-- The value of a hexadecimal digit. -/
def hexValue? (c : Char) : Option Nat :=
  if '0' ≤ c ∧ c ≤ '9' then some (c.toNat - '0'.toNat)
  else if 'a' ≤ c ∧ c ≤ 'f' then some (c.toNat - 'a'.toNat + 10)
  else if 'A' ≤ c ∧ c ≤ 'F' then some (c.toNat - 'A'.toNat + 10)
  else none

/-- The code unit of four hexadecimal digits. -/
def codeUnit? (a b c d : Char) : Option Nat := do
  return 0x1000 * (← hexValue? a) + 0x100 * (← hexValue? b) + 0x10 * (← hexValue? c)
    + (← hexValue? d)

def isHighSurrogate (u : Nat) : Bool := 0xD800 ≤ u && u < 0xDC00

def isLowSurrogate (u : Nat) : Bool := 0xDC00 ≤ u && u < 0xE000

/-- The character of a surrogate pair. -/
def pair (high low : Nat) : Char :=
  Char.ofNat (0x10000 + 0x400 * (high - 0xD800) + (low - 0xDC00))

/-- The character that a letter after a backslash stands for. -/
def unescape? : Char → Option Char
  | '"' => some '"'
  | '\\' => some '\\'
  | '/' => some '/'
  | 'b' => some '\x08'
  | 'f' => some '\x0c'
  | 'n' => some '\n'
  | 'r' => some '\r'
  | 't' => some '\t'
  | _ => none

/-- The characters up to the closing quote. `high` is a high surrogate that
waits for its low one, which must come next. -/
def readString (high : Option Nat) : Reader (List Char)
  | [] => none
  | c :: rest =>
    if c = '\\' then
      match rest with
      | [] => none
      | e :: rest =>
        if e = 'u' then
          match rest with
          | h₁ :: h₂ :: h₃ :: h₄ :: rest =>
            match codeUnit? h₁ h₂ h₃ h₄, high with
            | none, _ => none
            | some u, some h =>
              if isLowSurrogate u then
                (readString none rest).map fun (s, rest) => (pair h u :: s, rest)
              else none
            | some u, none =>
              if isHighSurrogate u then readString (some u) rest
              else if isLowSurrogate u then none
              else (readString none rest).map fun (s, rest) => (Char.ofNat u :: s, rest)
          | _ => none
        else
          match high, unescape? e with
          | none, some c => (readString none rest).map fun (s, rest) => (c :: s, rest)
          | _, _ => none
    else if high.isSome then none
    else if c = '"' then some ([], rest)
    else if c.toNat < 0x20 then none
    else (readString none rest).map fun (s, rest) => (c :: s, rest)

/-! ## Values -/

/-- Items up to the closing bracket, at least one, with commas between
them. -/
def readItems {α : Type} (item : Reader α) (close : Char) : Nat → Reader (List α)
  | 0, _ => none
  | width + 1, cs => do
    let (x, rest) ← item cs
    match skipBlank rest with
    | [] => none
    | c :: rest =>
      if c = close then some ([x], rest)
      else if c = ',' then do
        let (xs, rest) ← readItems item close width rest
        some (x :: xs, rest)
      else none

/-- What stands between an opening bracket and the closing one. -/
def readList {α : Type} (item : Reader α) (close : Char) : Reader (List α) := fun cs =>
  match skipBlank cs with
  | [] => none
  | c :: rest => if c = close then some ([], rest) else readItems item close cs.length cs

/-- A key, a colon and a value. -/
def readMember (value : Reader Json) : Reader (String × Json) := fun cs =>
  match skipBlank cs with
  | '"' :: rest => do
    let (key, rest) ← readString none rest
    match skipBlank rest with
    | ':' :: rest => do
      let (v, rest) ← value rest
      some ((String.ofList key, v), rest)
    | _ => none
  | _ => none

/-- A word off the front of a text. -/
def readWord (word : String) (v : Json) : Reader Json := fun cs =>
  if word.toList.isPrefixOf cs then some (v, cs.drop word.length) else none

/-- A value that is neither array nor object. -/
def readScalar : Reader Json := fun cs =>
  match cs with
  | '"' :: rest => (readString none rest).map fun (s, rest) => (.str (String.ofList s), rest)
  | 'n' :: _ => readWord "null" .null cs
  | 't' :: _ => readWord "true" (.bool true) cs
  | 'f' :: _ => readWord "false" (.bool false) cs
  | _ => do
    let (n, rest) ← Numeral.read cs
    some (← n.value?, rest)

/-- A value whose arrays and objects nest at most to the depth. -/
def readValue : Nat → Reader Json
  | 0, cs => readScalar (skipBlank cs)
  | depth + 1, cs =>
    match skipBlank cs with
    | '[' :: rest =>
      (readList (readValue depth) ']' rest).map fun (items, rest) => (.arr items, rest)
    | '{' :: rest =>
      (readList (readMember (readValue depth)) '}' rest).map fun (entries, rest) =>
        (.obj (Members.ofList entries), rest)
    | cs => readScalar cs

/-- The depth to which the text of a document may nest. -/
def maxDepth : Nat := 127

/-- The value of a text that nests at most to the depth. -/
def parseWithin (depth : Nat) (cs : List Char) : Option Json := do
  let (v, rest) ← readValue depth cs
  if (skipBlank rest).isEmpty then some v else none

/-- **The value of a text.** -/
def parse? (cs : List Char) : Option Json := parseWithin maxDepth cs

end Json

end CloudOrchestration
