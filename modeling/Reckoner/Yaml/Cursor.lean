import Reckoner.Text.Blank

/-! Places in a YAML text, and the scalars that start at them: plain ones, quoted ones and blocks
of lines. Line breaks inside of scalars are folded. -/

namespace Reckoner.Yaml

/-- Why a text is no document: characters that make no token, tokens that make no node, more
than one document, or a key that is a collection. -/
inductive Fault where
  | token
  | node
  | severalDocuments
  | compositeKey
deriving DecidableEq, Repr

/-- A place in a text: what follows, its column, and whether only spaces stand before it on
its line. -/
structure Cursor where
  rest : List Char
  column : Nat := 0
  fresh : Bool := true
deriving Repr

/-- A scalar with the place after it. One that spans lines cannot be a key. -/
structure Scalar where
  text : List Char
  spansLines : Bool
  after : Cursor

namespace Cursor

def next (cur : Cursor) : Cursor :=
  match cur.rest with
  | [] => cur
  | '\n' :: rest => ⟨rest, 0, true⟩
  | c :: rest => ⟨rest, cur.column + 1, cur.fresh && c == ' '⟩

/-- The place after the first `n` characters of a line. -/
def skip (n : Nat) (cur : Cursor) : Cursor :=
  ⟨cur.rest.drop n, cur.column + n, cur.fresh && (cur.rest.take n).all (· == ' ')⟩

def toTokenFrom (inComment : Bool) : List Char → (column : Nat) → (fresh : Bool) → Cursor
  | [], column, fresh => ⟨[], column, fresh⟩
  | c :: rest, column, fresh =>
    if c = '\n' then toTokenFrom false rest 0 true
    else if inComment || c = '#' then toTokenFrom true rest (column + 1) fresh
    else if c = ' ' then toTokenFrom false rest (column + 1) fresh
    else ⟨c :: rest, column, fresh⟩

/-- The next character that is not a space, not in a comment and not a line break. -/
def toToken (cur : Cursor) : Cursor := toTokenFrom false cur.rest cur.column cur.fresh

def skipSpaces (cur : Cursor) : Cursor :=
  cur.skip (cur.rest.takeWhile (· == ' ')).length

/-- Spaces, tabs and line breaks from a place on: the number of breaks, and the place after. -/
def skipFold (tabs : Bool) : List Char → (column breaks : Nat) → (fresh : Bool) → Nat × Cursor
  | [], column, breaks, fresh => (breaks, ⟨[], column, fresh⟩)
  | c :: rest, column, breaks, fresh =>
    if c = '\n' then skipFold tabs rest 0 (breaks + 1) true
    else if c = ' ' || (tabs && c = '\t') then skipFold tabs rest (column + 1) breaks fresh
    else (breaks, ⟨c :: rest, column, fresh⟩)

/-- A single break folds to a space; of several, all but the first are kept. -/
def folded (breaks : Nat) : List Char :=
  if breaks = 1 then [' '] else List.replicate (breaks - 1) '\n'

end Cursor

/-- Whether a word ends here. -/
def blankAhead : List Char → Bool
  | [] => true
  | c :: _ => c == ' ' || c == '\t' || c == '\n'

def isFlowMark (c : Char) : Bool := c == ',' || c == '[' || c == ']' || c == '\x7b' || c == '\x7d'

/-- Whether a colon with `rest` after it parts a key from its value. -/
def colonAhead (inFlow : Bool) (rest : List Char) : Bool :=
  blankAhead rest || (inFlow && rest.head?.any isFlowMark)

def indicators : List Char := "-?:,[]\x7b\x7d#&*!|>'\"%@`".toList

/-- Whether a plain scalar may start with `c` before `rest`. -/
def startsPlain (inFlow : Bool) (c : Char) (rest : List Char) : Bool :=
  if c == '\t' then false
  else if indicators.contains c then
    !blankAhead rest && (c == '-' || (!inFlow && (c == '?' || c == ':')))
  else true

/-- A word of a plain scalar: up to a blank, a colon that ends a key, or a mark of a flow. -/
def plainWord (inFlow : Bool) : List Char → List Char
  | [] => []
  | c :: rest =>
    if c == ' ' || c == '\t' || c == '\n' || (c == ':' && colonAhead inFlow rest) ||
        (inFlow && (c == '?' || isFlowMark c)) then []
    else c :: plainWord inFlow rest

/-- The rest of a plain scalar of which `text` has been read. Further lines belong to it if they
are indented by `indent`. -/
def readPlainFrom (inFlow : Bool) (indent : Nat) :
    (fuel : Nat) → (text : List Char) → (spansLines : Bool) → Cursor → Scalar
  | 0, text, spansLines, cur => ⟨text, spansLines, cur⟩
  | fuel + 1, text, spansLines, cur =>
    let (breaks, start) := Cursor.skipFold false cur.rest cur.column 0 cur.fresh
    let gap :=
      if breaks = 0 then cur.rest.takeWhile (· == ' ') else Cursor.folded breaks
    let word := plainWord inFlow start.rest
    if gap.isEmpty || word.isEmpty || start.rest.head? == some '#' ||
        (!inFlow && start.column < indent) then ⟨text, spansLines, cur⟩
    else
      readPlainFrom inFlow indent fuel (text ++ gap ++ word) (spansLines || breaks != 0)
        { start.skip word.length with fresh := false }

/-- The plain scalar at a place. -/
def readPlain (inFlow : Bool) (indent : Nat) (cur : Cursor) : Scalar :=
  let word := plainWord inFlow cur.rest
  readPlainFrom inFlow indent cur.rest.length word false
    { cur.skip word.length with fresh := false }

/-- The characters of escapes with one letter. -/
def escapes : List (Char × Char) :=
  [('0', '\x00'), ('a', '\x07'), ('b', '\x08'), ('t', '\t'), ('\t', '\t'), ('n', '\n'),
    ('v', '\x0b'), ('f', '\x0c'), ('r', '\r'), ('e', '\x1b'), (' ', ' '), ('"', '"'), ('\\', '\\'),
    ('/', '/'), ('N', '\x85'), ('_', '\xa0'), ('L', '\u2028'), ('P', '\u2029')]

/-- How many hexadecimal digits follow the letter of an escape. -/
def escapeWidth? : Char → Option Nat
  | 'x' => some 2
  | 'u' => some 4
  | 'U' => some 8
  | _ => none

def readHex? (cs : List Char) : Option Nat :=
  cs.foldlM
    (fun value c =>
      if c.isDigit then some (value * 16 + (c.toNat - '0'.toNat))
      else if 'a' ≤ c ∧ c ≤ 'f' then some (value * 16 + (c.toNat - 'a'.toNat + 10))
      else if 'A' ≤ c ∧ c ≤ 'F' then some (value * 16 + (c.toNat - 'A'.toNat + 10))
      else none)
    0

/-- The rest of a quoted scalar after its opening quote. -/
def readQuoted (quote : Char) : (fuel : Nat) → (text : List Char) → (spansLines : Bool) →
    Cursor → Except Fault Scalar
  | 0, _, _, _ => .error .token
  | fuel + 1, text, spansLines, cur =>
    match cur.rest with
    | [] => .error .token
    | c :: rest =>
      if c = quote then
        if quote = '\'' && rest.head? = some '\'' then
          readQuoted quote fuel (text ++ ['\'']) spansLines (cur.skip 2)
        else .ok ⟨text, spansLines, cur.skip 1⟩
      else if c = '\\' && quote = '"' then
        match rest with
        | [] => .error .token
        | '\n' :: _ =>
          let (breaks, start) := Cursor.skipFold true rest 0 0 false
          readQuoted quote fuel (text ++ List.replicate (breaks - 1) '\n') true
            { start with fresh := false }
        | letter :: more =>
          match escapes.lookup letter, escapeWidth? letter with
          | some plain, _ => readQuoted quote fuel (text ++ [plain]) spansLines (cur.skip 2)
          | none, some width =>
            if more.length < width then .error .token
            else
              match readHex? (more.take width) with
              | some code =>
                readQuoted quote fuel (text ++ [Char.ofNat code]) spansLines (cur.skip (2 + width))
              | none => .error .token
          | none, none => .error .token
      else if c = ' ' || c = '\t' || c = '\n' then
        let (breaks, start) := Cursor.skipFold true cur.rest cur.column 0 false
        let gap :=
          if breaks = 0 then cur.rest.takeWhile fun c => c == ' ' || c == '\t'
          else Cursor.folded breaks
        readQuoted quote fuel (text ++ gap) (spansLines || breaks != 0)
          { start with fresh := false }
      else readQuoted quote fuel (text ++ [c]) spansLines (cur.skip 1)

/-- What becomes of the line breaks at the end of a block of lines. -/
inductive Chomping where
  | clip | strip | keep
deriving DecidableEq, Repr

/-- The marks after the sign of a block: its chomping and a width of its indentation. -/
def blockMarks : List Char → Chomping × Option Nat × List Char
  | c :: rest =>
    let chomping? (c : Char) : Option Chomping :=
      if c = '+' then some .keep else if c = '-' then some .strip else none
    let width? (c : Char) : Option Nat :=
      if c.isDigit && c != '0' then some (c.toNat - '0'.toNat) else none
    match chomping? c, width? c with
    | some chomping, _ =>
      match rest.head?.bind width? with
      | some width => (chomping, some width, rest.drop 1)
      | none => (chomping, none, rest)
    | none, some width =>
      match rest.head?.bind chomping? with
      | some chomping => (chomping, some width, rest.drop 1)
      | none => (.clip, some width, rest)
    | none, none => (.clip, none, c :: rest)
  | [] => (.clip, none, [])

/-- A line of a block: blank ones count only as breaks. -/
structure BlockLine where
  text : List Char
  blank : Bool

/-- The text of the lines of a block; `pending` breaks stand before the first of them. -/
def joinBlock (isFolded : Bool) (pending : Nat) (previous : Option (List Char)) :
    List BlockLine → List Char × Nat
  | [] => ([], pending)
  | line :: rest =>
    if line.blank then joinBlock isFolded (pending + 1) previous rest
    else
      let startsBlank (text : List Char) : Bool :=
        text.head?.any fun c => c == ' ' || c == '\t'
      let gap :=
        match previous with
        | none => List.replicate pending '\n'
        | some last =>
          if isFolded && !startsBlank last && !startsBlank line.text then
            if pending = 1 then [' '] else List.replicate (pending - 1) '\n'
          else List.replicate pending '\n'
      let (text, trailing) := joinBlock isFolded 1 (some line.text) rest
      (gap ++ line.text ++ text, trailing)

/-- The lines of a block that is indented by `indent`, and the lines after it. -/
def takeBlock (indent : Nat) : List (List Char) → List BlockLine × List (List Char)
  | [] => ([], [])
  | line :: rest =>
    let spaces := (line.takeWhile (· == ' ')).length
    if spaces == line.length && spaces ≤ indent then
      let (block, after) := takeBlock indent rest
      (⟨[], true⟩ :: block, after)
    else if indent ≤ spaces then
      let (block, after) := takeBlock indent rest
      (⟨line.drop indent, false⟩ :: block, after)
    else ([], line :: rest)

/-- A block of lines at its sign, in a node indented by `indent`. -/
def readBlock (isFolded : Bool) (indent : Nat) (cur : Cursor) : Except Fault (List Char × Cursor) :=
  let (chomping, width, rest) := blockMarks (cur.rest.drop 1)
  let header := rest.takeWhile (· != '\n')
  let isBlankHeader := (header.dropWhile (· == ' ')).head?.all (· == '#')
  if !isBlankHeader then .error .token
  else
    let body := (rest.dropWhile (· != '\n')).drop 1
    let pieces := body.splitOn '\n'
    let isClosed := pieces.getLast? == some []
    let lines := if isClosed then pieces.dropLast else pieces
    let deepest :=
      match width with
      | some width => indent + width - 1
      | none =>
        let leading := lines.takeWhile (·.all (· == ' '))
        let first := (lines.drop leading.length).head?.map fun line =>
          (line.takeWhile (· == ' ')).length
        (first.toList ++ leading.map List.length).foldl max indent
    let (block, after) := takeBlock deepest lines
    let (text, trailing) := joinBlock isFolded 0 none block
    let rest := (after.map (· ++ ['\n'])).flatten
    let ends :=
      match chomping with
      | .strip => 0
      | .clip => if text.isEmpty then 0 else 1
      | .keep => trailing
    let missing := if after.isEmpty && !isClosed then 1 else 0
    .ok (text ++ List.replicate (ends - missing) '\n', ⟨rest, 0, true⟩)

end Reckoner.Yaml
