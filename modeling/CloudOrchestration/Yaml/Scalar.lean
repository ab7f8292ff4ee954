import CloudOrchestration.Json.Parser
import CloudOrchestration.Yaml.Basic
/-!
# YAML scalars

A scalar without block style may go on over several lines. Then one line end
is read as a space and more of them as one line end fewer, and blanks around
them do not count; `Gap` holds what has been passed since the last character
that does. In block style every line of the text is one line of the source,
less its indentation.
-/

namespace CloudOrchestration

namespace Yaml

/-- Blanks and line ends between two characters of a scalar. -/
structure Gap where
  blanks : List Char := []
  breaks : List Char := []
  /-- Whether the first line end was escaped, so that it does not count. -/
  isEscaped : Bool := false

namespace Gap

def isEmpty (g : Gap) : Bool := g.blanks.isEmpty && g.breaks.isEmpty

/-- Whether the gap has gone on to another line. -/
def isOpen (g : Gap) : Bool := !g.breaks.isEmpty || g.isEscaped

/-- What a gap is read as. Only a line feed gives way; a separator stays. -/
def text (g : Gap) : List Char :=
  if g.isEscaped then g.breaks
  else
    match g.breaks with
    | [] => g.blanks
    | '\n' :: more => if more.isEmpty then [' '] else more
    | breaks => breaks

/-- Blanks count only on the line of the character before. -/
def addBlank (g : Gap) (c : Char) : Gap :=
  if g.isOpen then g else { g with blanks := g.blanks ++ [c] }

def addBreak (g : Gap) (c : Char) : Gap := { g with blanks := [], breaks := g.breaks ++ [c] }

end Gap

/-! ## Plain scalars -/

/-- The brackets and the comma. -/
def isFlowIndicator (c : Char) : Bool := ",[]\x7b\x7d".toList.contains c

/-- Whether a character means something else at the start of a scalar. -/
def isIndicator (c : Char) : Bool := "-?:,[]\x7b\x7d#&*!|>'\"%@\x60".toList.contains c

/-- Whether a plain scalar starts here. -/
def startsPlain (inFlow : Bool) (src : Source) : Bool :=
  match src with
  | [] => false
  | s :: rest =>
    if Source.isAtGap src || src.isBoundary then false
    else if s.char = '-' then !Source.isAtGap rest
    else if s.char = '?' ∨ s.char = ':' then !inFlow && !Source.isAtGap rest
    else !isIndicator s.char

/-- Whether a plain scalar ends before this character. -/
def endsPlain (inFlow : Bool) (indent : Nat) (gap : Gap) (s : Spot) (rest : Source) : Bool :=
  (s.char == ':' && Source.isAtGap rest)
    || (inFlow && isFlowIndicator s.char)
    || (!gap.isEmpty && s.char == '#')
    || (gap.isOpen && !inFlow && s.column < indent)
    || Source.isBoundary (s :: rest)

/-- Whether a colon stands between brackets where it can neither end a key nor
belong to a scalar. -/
def isStrayColon (inFlow : Bool) (s : Spot) (rest : Source) : Bool :=
  inFlow && s.char == ':' && rest.head?.any fun t => isFlowIndicator t.char || t.char == '?'

/-- The rest of a plain scalar, after a gap; lines that continue it are
indented. The gap after the scalar is passed as well: if the line ends in it,
what is left starts with a line end. -/
def readPlain (inFlow : Bool) (indent : Nat) (gap : Gap) : Reader (List Char)
  | [] => some ([], [])
  | s :: rest =>
    if Source.isBreak s.char then readPlain inFlow indent (gap.addBreak s.char) rest
    else if Source.isBlank s.char then
      if s.char = '\t' ∧ gap.isOpen ∧ s.column < indent then none
      else readPlain inFlow indent (gap.addBlank s.char) rest
    else if endsPlain inFlow indent gap s rest then
      some ([], if gap.isOpen then { s with char := '\n' } :: s :: rest else s :: rest)
    else if isStrayColon inFlow s rest then none
    else do
      let (text, left) ← readPlain inFlow indent {} rest
      some (gap.text ++ s.char :: text, left)

/-! ## Quoted scalars -/

/-- The rest of a scalar in single quotes, where two of them stand for
one. -/
def readSingle (gap : Gap) : Reader (List Char)
  | [] => none
  | s :: rest =>
    if Source.isBoundary (s :: rest) then none
    else if Source.isBreak s.char then readSingle (gap.addBreak s.char) rest
    else if Source.isBlank s.char then readSingle (gap.addBlank s.char) rest
    else if s.char = '\'' then
      match rest with
      | [] => some (gap.text, [])
      | t :: rest' =>
        if t.char = '\'' then do
          let (text, left) ← readSingle {} rest'
          some (gap.text ++ '\'' :: text, left)
        else some (gap.text, rest)
    else do
      let (text, left) ← readSingle {} rest
      some (gap.text ++ s.char :: text, left)

/-- The character that a letter after a backslash stands for. -/
def unescape? : Char → Option Char
  | '0' => some '\x00'
  | 'a' => some '\x07'
  | 'b' => some '\x08'
  | 't' => some '\t'
  | '\t' => some '\t'
  | 'n' => some '\n'
  | 'v' => some '\x0b'
  | 'f' => some '\x0c'
  | 'r' => some '\r'
  | 'e' => some '\x1b'
  | ' ' => some ' '
  | '"' => some '"'
  | '/' => some '/'
  | '\\' => some '\\'
  | 'N' => some '\u0085'
  | '_' => some '\u00a0'
  | 'L' => some '\u2028'
  | 'P' => some '\u2029'
  | _ => none

/-- How many hexadecimal digits follow a letter after a backslash. -/
def digitCount? : Char → Option Nat
  | 'x' => some 2
  | 'u' => some 4
  | 'U' => some 8
  | _ => none

/-- The number that hexadecimal digits denote. -/
def hexNumber? (digits : List Char) : Option Nat :=
  digits.foldlM (fun n c => return 0x10 * n + (← Json.hexValue? c)) 0

/-- The character of a number. -/
def charOf? (n : Nat) : Option Char := if n.isValidChar then some (Char.ofNat n) else none

/-- The rest of a scalar in double quotes. `digits` are the hexadecimal
digits read so far of a numbered character, of which so many are to come. -/
def readDouble (gap : Gap) (digits : List Char) : Nat → Reader (List Char)
  | _, [] => none
  | wanted + 1, s :: rest =>
    let digits := digits ++ [s.char]
    if 0 < wanted then readDouble gap digits wanted rest
    else do
      let c ← charOf? (← hexNumber? digits)
      let (text, left) ← readDouble {} [] 0 rest
      some (gap.text ++ c :: text, left)
  | 0, s :: rest =>
    if Source.isBoundary (s :: rest) then none
    else if Source.isBreak s.char then readDouble (gap.addBreak s.char) [] 0 rest
    else if Source.isBlank s.char then readDouble (gap.addBlank s.char) [] 0 rest
    else if s.char = '"' then some (gap.text, rest)
    else if s.char = '\\' then
      match rest with
      | [] => none
      | t :: rest =>
        if Source.isBreak t.char then do
          let (text, left) ← readDouble { isEscaped := true } [] 0 rest
          some (gap.text ++ text, left)
        else
          match unescape? t.char, digitCount? t.char with
          | some c, _ => do
            let (text, left) ← readDouble {} [] 0 rest
            some (gap.text ++ c :: text, left)
          | none, some wanted => readDouble gap [] wanted rest
          | none, none => none
    else do
      let (text, left) ← readDouble {} [] 0 rest
      some (gap.text ++ s.char :: text, left)

/-! ## Literal scalars -/

/-- What becomes of the line ends at the end of a literal scalar. -/
inductive Chomping where
  /-- One is kept. -/
  | clip
  | strip
  | keep
  deriving DecidableEq, Repr

/-- A line without its end, and the end, if it has one. -/
structure Line where
  chars : List Char
  ending : Option Char

/-- The lines of a source. -/
def linesFrom (chars : List Char) : Source → List Line
  | [] => if chars.isEmpty then [] else [⟨chars, none⟩]
  | s :: rest =>
    if Source.isBreak s.char then ⟨chars, some s.char⟩ :: linesFrom [] rest
    else linesFrom (chars ++ [s.char]) rest

namespace Line

/-- The number of spaces at the start of a line. -/
def indentation (l : Line) : Nat := (l.chars.takeWhile (· == ' ')).length

/-- Whether a line has nothing but spaces. -/
def isSpace (l : Line) : Bool := l.chars.all (· == ' ')

/-- Whether the spaces at the start of a line, fewer than so many, are followed
by a tab. -/
def hasTab (below : Nat) (l : Line) : Bool :=
  l.indentation < below && l.chars[l.indentation]? == some '\t'

/-- Whether a line belongs to a text of an indentation. -/
def isWithin (indent : Nat) (l : Line) : Bool := l.isSpace || indent ≤ l.indentation

/-- The characters of a line, with its end. -/
def text (l : Line) : List Char := l.chars ++ l.ending.toList

end Line

/-- The indentation of a literal text: that of its first line, which does not
start with a tab, and more than that of what the text belongs to. -/
def literalIndent? (least : Nat) (ls : List Line) : Option Nat :=
  let leading := ls.takeWhile (·.isSpace)
  let first := (ls.dropWhile (·.isSpace)).head?
  if first.any fun l => l.hasTab (l.indentation + 1) then none
  else
    let own := (first.map (·.indentation)).getD 0
    some ((leading.map (·.indentation)).foldl max (max own (max least 1)))

/-- Whether a character stands in the header of a literal scalar. -/
def isHeaderChar (c : Char) : Bool := c == '-' || c == '+' || c.isDigit

/-- The indicators of a literal scalar: chomping and indentation, each at
most once. -/
def literalHeader : List Char → Option (Chomping × Nat)
  | [] => some (.clip, 0)
  | [a] => chomping a <|> indentation .clip a
  | [a, b] => do
    match chomping a, chomping b with
    | some (c, _), none => indentation c b
    | none, some (c, _) => indentation c a
    | _, _ => none
  | _ => none
where
  chomping : Char → Option (Chomping × Nat)
    | '-' => some (.strip, 0)
    | '+' => some (.keep, 0)
    | _ => none
  indentation (c : Chomping) (d : Char) : Option (Chomping × Nat) :=
    if '1' ≤ d ∧ d ≤ '9' then some (c, d.toNat - '0'.toNat) else none

/-- The text of the lines of a literal scalar. -/
def literalText (chomping : Chomping) (indent : Nat) (ls : List Line) : List Char :=
  let texts := ls.map fun l => { l with chars := l.chars.drop indent }
  let trailing := (texts.reverse.takeWhile (·.chars.isEmpty)).reverse
  let body := texts.take (texts.length - trailing.length)
  let whole := body.flatMap (·.text)
  match chomping with
  | .keep => whole ++ trailing.flatMap (·.text)
  | .clip => whole
  | .strip => if body.getLast?.any (·.ending.isSome) then whole.dropLast else whole

/-- A literal scalar after its bar; lines of its text have at least the given
indentation. What is left starts with the end of its last line. -/
def readLiteral (least : Nat) : Reader String := fun src => do
  let header := src.takeWhile (isHeaderChar ·.char)
  let (chomping, explicit) ← literalHeader (header.map (·.char))
  let lineEnd := Source.skipLine (src.drop header.length)
  match lineEnd with
  | [] => some ("", [])
  | s :: rest =>
    if !Source.isBreak s.char then none
    else
      let ls := linesFrom [] rest
      let indent ← if explicit = 0 then literalIndent? least ls else some (least - 1 + explicit)
      let own := ls.takeWhile (·.isWithin indent)
      if ((ls.drop own.length).head?).any (·.hasTab indent) then none
      else
        let passed := own.foldr (fun l n => l.chars.length + 1 + n) 0
        some (String.ofList (literalText chomping indent own), lineEnd.drop passed)

end Yaml

end CloudOrchestration
