import CloudOrchestration.Yaml.Scalar
/-!
# Reading YAML

A document is a node in block style: a mapping or a sequence whose entries
start in one column, or a node in flow style, between brackets, or a scalar.
A key stands on one line with its colon. What belongs to an entry is indented
further than the entry; only a sequence may start in the column of the key it
belongs to. Anchors, tags, directives and folded scalars are not read.

Nodes nest at most as deep as the text is long, and a list has at most as
many entries; that bounds the recursion.
-/

namespace CloudOrchestration

namespace Yaml

mutual

/-- A node in flow style: between brackets or quotes, or plain. Lines that
continue a plain scalar are indented, unless it stands between brackets. -/
def readFlow (inFlow : Bool) (indent : Nat) : Nat → Reader Node
  | 0, _ => none
  | _, [] => none
  | fuel + 1, s :: rest =>
    if s.char = '[' then
      (readItems indent fuel (Source.skipAll false rest)).map fun (items, left) =>
        (.sequence items, left)
    else if s.char = '\x7b' then
      (readPairs indent fuel (Source.skipAll false rest)).map fun (entries, left) =>
        (.mapping entries, left)
    else if s.char = '\'' then
      (readSingle {} rest).map fun (text, left) => (.scalar false (String.ofList text), left)
    else if s.char = '"' then
      (readDouble {} [] 0 rest).map fun (text, left) => (.scalar false (String.ofList text), left)
    else if startsPlain inFlow (s :: rest) then
      (readPlain inFlow indent {} (s :: rest)).map fun (text, left) =>
        (.scalar true (String.ofList text), left)
    else none

/-- An entry between brackets: a node, and another after a colon on its
line, if there is one. -/
def readEntry (indent : Nat) : Nat → Reader (Node × Option Node)
  | 0, _ => none
  | fuel + 1, src => do
    let (key, left) ← readFlow true indent fuel src
    match Source.skipAll false left with
    | s :: rest =>
      if s.char = ':' ∧ src.head?.map (·.line) = some s.line then
        let after := Source.skipAll false rest
        match after with
        | [] => none
        | t :: _ =>
          if isFlowIndicator t.char ∧ t.char ≠ '[' ∧ t.char ≠ '\x7b' then
            some ((key, some .empty), after)
          else
            (readFlow true indent fuel after).map fun (value, left) => ((key, some value), left)
      else some ((key, none), left)
    | [] => none

/-- The rest of a sequence between brackets. -/
def readItems (indent : Nat) : Nat → Reader (List Node)
  | 0, _ => none
  | _, [] => none
  | fuel + 1, s :: rest =>
    if s.char = ']' then some ([], rest)
    else do
      let ((key, value), left) ← readEntry indent fuel (s :: rest)
      let item := match value with
        | some v => .mapping [(key, v)]
        | none => key
      match Source.skipAll false left with
      | [] => none
      | s :: rest =>
        if s.char = ']' then some ([item], rest)
        else if s.char = ',' then do
          let (items, left) ← readItems indent fuel (Source.skipAll false rest)
          some (item :: items, left)
        else none

/-- The rest of a mapping between braces. -/
def readPairs (indent : Nat) : Nat → Reader (List (Node × Node))
  | 0, _ => none
  | _, [] => none
  | fuel + 1, s :: rest =>
    if s.char = '\x7d' then some ([], rest)
    else do
      let ((key, value), left) ← readEntry indent fuel (s :: rest)
      let entry := (key, value.getD .empty)
      match Source.skipAll false left with
      | [] => none
      | s :: rest =>
        if s.char = '\x7d' then some ([entry], rest)
        else if s.char = ',' then do
          let (entries, left) ← readPairs indent fuel (Source.skipAll false rest)
          some (entry :: entries, left)
        else none

end

/-- The colon after a key that started on a line. -/
def afterColon? (line : Nat) (src : Source) : Option Source :=
  match src.dropWhile (Source.isBlank ·.char) with
  | s :: rest => if s.char = ':' ∧ Source.isAtGap rest ∧ s.line = line then some rest else none
  | [] => none

/-- What follows a dash on its line. Only spaces may stand between. -/
def afterDash? (src : Source) : Option Source :=
  let next := src.dropWhile (·.char == ' ')
  if next.head?.any (·.char == '\t') then none else some (Source.skipLine next)

mutual

/-- A node in block style whose text is indented at least so far. -/
def readBlock (indent : Nat) : Nat → Reader Node
  | 0, _ => none
  | _ + 1, [] => none
  | fuel + 1, s :: rest =>
    if Source.hasIndicator '-' (s :: rest) then
      (readSequence s.column false fuel rest).map fun (items, left) =>
        (.sequence items, left)
    else if s.char = '|' then
      (readLiteral indent rest).map fun (text, left) => (.scalar false text, left)
    else do
      let (node, left) ← readFlow false indent fuel (s :: rest)
      match afterColon? s.line left with
      | none => some (node, left)
      | some after => do
        let (value, left) ← readValue s.column fuel after
        let (entries, left) ← readMapping s.column fuel left
        some (.mapping ((node, value) :: entries), left)
termination_by structural fuel => fuel

/-- The value of a key in a column. On the line of the key it is not in block
style, other than a literal. -/
def readValue (column : Nat) : Nat → Reader Node
  | 0, _ => none
  | fuel + 1, src =>
    match src.skipLine with
    | [] => some (.empty, [])
    | s :: rest =>
      if Source.isBreak s.char then
        let next := Source.skipLines false rest
        match next with
        | [] => some (.empty, src)
        | t :: later =>
          if next.isBoundary then some (.empty, src)
          else if column < t.column then readBlock (column + 1) fuel next
          else if t.column = column ∧ next.hasIndicator '-' then
            (readSequence column true fuel later).map fun (items, left) =>
              (.sequence items, left)
          else some (.empty, src)
      else if s.char = '|' then
        (readLiteral (column + 1) rest).map fun (text, left) => (.scalar false text, left)
      else readFlow false (column + 1) fuel (s :: rest)
termination_by structural fuel => fuel

/-- The entries to come of a mapping in a column. -/
def readMapping (column : Nat) : Nat → Reader (List (Node × Node))
  | 0, _ => none
  | fuel + 1, src => do
    let next ← src.nextLine?
    match next with
    | [] => some ([], src)
    | s :: _ =>
      if next.isBoundary ∨ s.column < column then some ([], src)
      else if column < s.column ∨ next.hasIndicator '-' then none
      else do
        let (key, left) ← readFlow false (column + 1) fuel next
        let (value, left) ← readValue column fuel (← afterColon? s.line left)
        let (entries, left) ← readMapping column fuel left
        some ((key, value) :: entries, left)
termination_by structural fuel => fuel

/-- What follows a dash in a column. -/
def readItem (column : Nat) : Nat → Reader Node
  | 0, _ => none
  | fuel + 1, src => do
    match ← afterDash? src with
    | [] => some (.empty, src)
    | s :: rest =>
      if Source.isBreak s.char then
        let next := Source.skipLines false rest
        match next with
        | [] => some (.empty, src)
        | t :: _ =>
          if next.isBoundary ∨ t.column ≤ column then some (.empty, src)
          else readBlock (column + 1) fuel next
      else readBlock (column + 1) fuel (s :: rest)
termination_by structural fuel => fuel

/-- The entries of a sequence in a column, after the dash of the first. One
that belongs to a key in the same column ends where another key starts. -/
def readSequence (column : Nat) (isShared : Bool) : Nat → Reader (List Node)
  | 0, _ => none
  | fuel + 1, src => do
    let (item, left) ← readItem column fuel src
    let next ← left.nextLine?
    match next with
    | [] => some ([item], left)
    | s :: rest =>
      if next.isBoundary ∨ s.column < column then some ([item], left)
      else if column < s.column then none
      else if next.hasIndicator '-' then do
        let (items, left) ← readSequence column isShared fuel rest
        some (item :: items, left)
      else if isShared then some ([item], left)
      else none
termination_by structural fuel => fuel

end

/-! ## Documents -/

/-- The characters that a text may hold. -/
def isAllowed (c : Char) : Bool :=
  let n := c.toNat
  n == 0x09 || n == 0x0A || n == 0x0D || (0x20 ≤ n && n ≤ 0x7E) || n == 0x85
    || (0xA0 ≤ n && n < 0xFFFE) || 0x10000 ≤ n

/-- The text with each line ended by one line feed. -/
def normalizeBreaks : List Char → List Char
  | [] => []
  | '\r' :: '\n' :: rest => '\n' :: normalizeBreaks rest
  | c :: rest => (if c = '\r' ∨ c = '\u0085' then '\n' else c) :: normalizeBreaks rest

/-- A node that starts a line, and the next thing after it. -/
def readStart (fuel : Nat) (src : Source) : Option (Node × Source) := do
  if src.isEmpty || src.isBoundary then some (.empty, src)
  else
    let (node, left) ← readBlock 0 fuel src
    some (node, ← left.nextLine?)

/-- The node after the first mark of a document, and the next thing after it.
On the line of the mark it is not a mapping or a sequence in block style. -/
def readMarked (fuel : Nat) (src : Source) : Option (Node × Source) := do
  match src.skipLine with
  | [] => some (.empty, [])
  | s :: rest =>
    if Source.isBreak s.char then readStart fuel (Source.skipLines false rest)
    else
      let (node, left) ←
        if s.char = '|' then
          (readLiteral 0 rest).map fun (text, left) => (.scalar false text, left)
        else readFlow false 0 fuel (s :: rest)
      some (node, ← left.nextLine?)

/-- Whether nothing but end marks of the document is left, each on a line of
its own. -/
def isEnd : Nat → Source → Bool
  | 0, next => next.isEmpty
  | lines + 1, next =>
    next.isEmpty
      || (Source.isMarker '.' next && (Source.nextLine? (next.drop 3)).any (isEnd lines))

/-- **The node of a text that is one document.** A mark of the byte order at
its front takes up a column. -/
def parse? (text : List Char) : Option Node := do
  if !text.all isAllowed then none
  else
    let src := match normalizeBreaks text with
      | '\uFEFF' :: rest => Source.ofText 0 1 rest
      | text => Source.ofText 0 0 text
    let start := Source.skipLines false src
    let fuel := 2 * text.length + 2
    let (node, next) ←
      if Source.isMarker '-' start then readMarked fuel (start.drop 3)
      else readStart fuel start
    if isEnd text.length next then some node else none

end Yaml

end CloudOrchestration
