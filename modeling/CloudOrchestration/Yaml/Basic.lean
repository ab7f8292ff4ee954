/-!
# YAML nodes and sources

A source is a text whose characters know their line and column, since in
YAML these decide what belongs together. What is read off a source is read
off its front, and what is left is again a source.
-/

namespace CloudOrchestration

namespace Yaml

/-- A node of a document. Keys of a mapping may repeat and are nodes
themselves. -/
inductive Node where
  /-- A scalar, and whether it stood there without quotes. -/
  | scalar (isPlain : Bool) (text : String)
  | sequence (items : List Node)
  | mapping (entries : List (Node × Node))

/-- What stands where nothing does. -/
def Node.empty : Node := .scalar true ""

/-- A character and where it stands. -/
structure Spot where
  char : Char
  line : Nat
  column : Nat
  deriving DecidableEq, Repr

/-- A text whose characters know where they stand. -/
abbrev Source := List Spot

/-- What is read off the front of a source, and the source that is left. -/
abbrev Reader (α : Type) := Source → Option (α × Source)

namespace Source

/-- A line ends with a line feed, or with one of the separators of lines and
of paragraphs. -/
def isBreak (c : Char) : Bool := c == '\n' || c == '\u2028' || c == '\u2029'

/-- The source of a text, from a line and a column on. -/
def ofText (line column : Nat) : List Char → Source
  | [] => []
  | c :: rest =>
    ⟨c, line, column⟩ ::
      (if isBreak c then ofText (line + 1) 0 rest else ofText line (column + 1) rest)

def isBlank (c : Char) : Bool := c == ' ' || c == '\t'

/-- Whether a word ends here. -/
def isAtGap : Source → Bool
  | [] => true
  | s :: _ => isBlank s.char || isBreak s.char

/-- Whether three equal characters stand alone at the start of a line. -/
def isMarker (c : Char) : Source → Bool
  | s₁ :: s₂ :: s₃ :: rest =>
    s₁.column == 0 && s₁.char == c && s₂.char == c && s₃.char == c && isAtGap rest
  | _ => false

/-- Whether a document ends here: at its end mark, or where another one
begins. -/
def isBoundary (src : Source) : Bool := isMarker '-' src || isMarker '.' src

/-- Whether an indicator stands here that counts only before a gap. -/
def hasIndicator (c : Char) : Source → Bool
  | s :: rest => s.char == c && isAtGap rest
  | [] => false

/-- The source after the blanks and the comment at its front, on the same
line. -/
def skipLine (src : Source) : Source :=
  let src := src.dropWhile (isBlank ·.char)
  match src with
  | s :: _ => if s.char = '#' then src.dropWhile (!isBreak ·.char) else src
  | [] => []

/-- The next thing on a later line. Only spaces may stand before it on its
own line. -/
def skipLines (inComment : Bool) : Source → Source
  | [] => []
  | s :: rest =>
    if isBreak s.char then skipLines false rest
    else if inComment || s.char = ' ' then skipLines inComment rest
    else if s.char = '#' then skipLines true rest
    else s :: rest

/-- The next thing, if the line has nothing more. -/
def nextLine? (src : Source) : Option Source :=
  match src.skipLine with
  | [] => some []
  | s :: rest => if isBreak s.char then some (skipLines false rest) else none

/-- The source after blanks, line ends and comments, as they stand between
brackets. -/
def skipAll (inComment : Bool) : Source → Source
  | [] => []
  | s :: rest =>
    if isBreak s.char then skipAll false rest
    else if inComment || isBlank s.char then skipAll inComment rest
    else if s.char = '#' then skipAll true rest
    else s :: rest

end Source

end Yaml

end CloudOrchestration
