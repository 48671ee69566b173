import Reckoner.Json.Writer
import Reckoner.Yaml.Cursor
import Reckoner.Yaml.Resolution

/-! Reading YAML text as a document: collections by indentation and in brackets, scalars plain,
quoted and in blocks of lines, comments. Anchors, tags, directives and keys after a question mark
are refused. -/

namespace Reckoner.Yaml

/-- The text that a scalar is known by as a key. -/
def keyText? : Json → Option String
  | .string text => some text
  | .null => some "null"
  | .bool value => some (if value then "true" else "false")
  | .integer n => some (toString n)
  | .real value => some (Json.realText value)
  | .array _ | .object _ => none

def keyOf (key : Json) : Except Fault String :=
  match keyText? key with
  | some text => .ok text
  | none => .error .compositeKey

/-- Quoted scalars are text, plain ones are resolved. -/
def scalarValue (isPlain : Bool) (scalar : Scalar) : Json :=
  let text := String.ofList scalar.text
  if isPlain then resolve text else .string text

/-- The scalar at a place, if one starts there: its value and where it ends. -/
def readScalar (inFlow : Bool) (indent : Nat) (cur : Cursor) : Except Fault (Json × Scalar) :=
  match cur.rest with
  | [] => .error .node
  | c :: rest =>
    if c = '"' ∨ c = '\'' then do
      let scalar ← readQuoted c cur.rest.length [] false (cur.skip 1)
      return (scalarValue false scalar, scalar)
    else if startsPlain inFlow c rest then
      let scalar := readPlain inFlow indent cur
      .ok (scalarValue true scalar, scalar)
    else .error (if inFlow && isFlowMark c then .node else .token)

mutual

/-- A node in brackets, or a scalar among them. The place after it is the next token. -/
def readFlow : (fuel : Nat) → Cursor → Except Fault (Json × Cursor)
  | 0, _ => .error .node
  | fuel + 1, cur =>
    match cur.rest with
    | '[' :: _ => do
      let (items, after) ← readFlowItems fuel (cur.skip 1).toToken
      return (.array items, after)
    | '\x7b' :: _ => do
      let (members, after) ← readFlowMembers fuel [] (cur.skip 1).toToken
      return (.object members, after)
    | _ => do
      let (value, scalar) ← readScalar true 0 cur
      return (value, scalar.after.toToken)

/-- The value after a colon; none before a mark that ends the pair. -/
def readFlowValue : (fuel : Nat) → Cursor → Except Fault (Json × Cursor)
  | 0, _ => .error .node
  | fuel + 1, cur =>
    match cur.rest with
    | [] => .error .node
    | c :: _ => if c = ',' ∨ c = ']' ∨ c = '\x7d' then .ok (.null, cur) else readFlow fuel cur

def readFlowItems : (fuel : Nat) → Cursor → Except Fault (List Json × Cursor)
  | 0, _ => .error .node
  | fuel + 1, cur =>
    match cur.rest with
    | ']' :: _ => .ok ([], (cur.skip 1).toToken)
    | _ => do
      let (node, after) ← readFlow fuel cur
      let (item, after) ← match after.rest with
        | ':' :: _ => do
          let key ← keyOf node
          let (value, after) ← readFlowValue fuel (after.skip 1).toToken
          pure (Json.object [(key, value)], after)
        | _ => pure (node, after)
      match after.rest with
      | ',' :: _ =>
        let (items, after) ← readFlowItems fuel (after.skip 1).toToken
        return (item :: items, after)
      | ']' :: _ => return ([item], (after.skip 1).toToken)
      | _ => .error .node

def readFlowMembers : (fuel : Nat) → List (String × Json) → Cursor →
    Except Fault (List (String × Json) × Cursor)
  | 0, _, _ => .error .node
  | fuel + 1, members, cur =>
    match cur.rest with
    | '\x7d' :: _ => .ok (members, (cur.skip 1).toToken)
    | _ => do
      let (key, after) ← readFlow fuel cur
      let key ← keyOf key
      let (value, after) ← match after.rest with
        | ':' :: _ => readFlowValue fuel (after.skip 1).toToken
        | _ => pure (Json.null, after)
      let members := Json.setMember members key value
      match after.rest with
      | ',' :: _ => readFlowMembers fuel members (after.skip 1).toToken
      | '\x7d' :: _ => return (members, (after.skip 1).toToken)
      | _ => .error .node

end

def isEntry (cur : Cursor) : Bool :=
  match cur.rest with
  | '-' :: rest => blankAhead rest
  | _ => false

/-- Whether a colon that ends a key stands at a place. -/
def isKeyEnd (cur : Cursor) : Bool :=
  match cur.rest with
  | ':' :: rest => blankAhead rest
  | _ => false

mutual

/-- A node at a token inside of a collection at column `indent - 1`. Where no entries may start,
it cannot be a mapping or a sequence by indentation. The place after it is the next token. -/
def readNode : (fuel : Nat) → (indent : Nat) → (mayNest : Bool) → Cursor →
    Except Fault (Json × Cursor)
  | 0, _, _, _ => .error .node
  | fuel + 1, indent, mayNest, cur =>
    match cur.rest with
    | [] => .ok (.null, cur)
    | c :: _ =>
      if isEntry cur then
        if mayNest then do
          let (items, after) ← readEntries fuel cur.column cur
          return (.array items, after)
        else .error .token
      else if c = '[' ∨ c = '\x7b' then do
        let (value, after) ← readFlow fuel cur
        if isKeyEnd after then .error (if mayNest then .compositeKey else .token)
        else return (value, after)
      else if c = '|' ∨ c = '>' then do
        let (text, after) ← readBlock (c == '>') (max indent 1) cur
        return (.string (String.ofList text), after.toToken)
      else do
        let (value, scalar) ← readScalar false indent cur
        if isKeyEnd scalar.after.skipSpaces then
          if mayNest && !scalar.spansLines then
            let (members, after) ← readPairs fuel cur.column [] cur
            return (.object members, after)
          else .error .token
        else return (value, scalar.after.toToken)

/-- The items of a sequence with its dashes at a column, from a dash on. -/
def readEntries : (fuel : Nat) → (column : Nat) → Cursor → Except Fault (List Json × Cursor)
  | 0, _, _ => .error .node
  | fuel + 1, column, cur => do
    let start := (cur.skip 1).toToken
    let (item, after) ←
      if start.fresh && start.column ≤ column then pure (Json.null, start)
      else readNode fuel (column + 1) true start
    if after.rest.isEmpty || (after.fresh && after.column < column) then return ([item], after)
    else if !after.fresh || column < after.column then .error .node
    else if isEntry after then
      let (items, after) ← readEntries fuel column after
      return (item :: items, after)
    else return ([item], after)

/-- The pairs of a mapping with its keys at a column, from a key on. -/
def readPairs : (fuel : Nat) → (column : Nat) → List (String × Json) → Cursor →
    Except Fault (List (String × Json) × Cursor)
  | 0, _, _, _ => .error .node
  | fuel + 1, column, members, cur => do
    let (key, scalar) ← readScalar false (column + 1) cur
    let colon := scalar.after.skipSpaces
    if scalar.spansLines || !isKeyEnd colon then .error .token
    else
      let key ← keyOf key
      let start := (colon.skip 1).toToken
      let (value, after) ←
        if start.fresh && start.column ≤ column then
          if start.column = column && isEntry start then do
            let (items, after) ← readEntries fuel column start
            pure (Json.array items, after)
          else pure (Json.null, start)
        else readNode fuel (column + 1) start.fresh start
      let members := Json.setMember members key value
      if after.rest.isEmpty || (after.fresh && after.column < column) then
        return (members, after)
      else if !after.fresh || column < after.column then .error .node
      else if isEntry after then .error .node
      else readPairs fuel column members after

end

/-- Whether a line is a mark of three characters, alone or with text after a blank. -/
def isMarked (mark : String) (line : String) : Bool :=
  mark.toList.isPrefixOf line.toList && blankAhead (line.toList.drop mark.length)

/-- Lines with nothing but a comment or spaces. -/
def isIdle (line : String) : Bool :=
  ((line.toList.dropWhile (· == ' ')).head?).all (· == '#')

/-- The lines of the only document of a text; the marks around it become blank. -/
def documentLines (lines : List String) : Except Fault (List String) :=
  let leading := lines.takeWhile isIdle
  let opened :=
    match lines.drop leading.length with
    | first :: rest =>
      if isMarked "---" first then
        String.ofList ([' ', ' ', ' '] ++ first.toList.drop 3) :: rest
      else first :: rest
    | [] => []
  let isMark (line : String) : Bool := isMarked "---" line || isMarked "..." line
  let body := opened.takeWhile (!isMark ·)
  let trailing := opened.drop body.length
  if trailing.any fun line => !isIdle line && !isMarked "..." line then .error .severalDocuments
  else .ok body

/-- Line feeds for every kind of line end. -/
def plainBreaks : List Char → List Char
  | '\r' :: '\n' :: rest => '\n' :: plainBreaks rest
  | '\r' :: rest => '\n' :: plainBreaks rest
  | c :: rest => c :: plainBreaks rest
  | [] => []

/-- The characters that a text may have. -/
def isPrintable (c : Char) : Bool :=
  let n := c.toNat
  n == 9 || n == 10 || n == 13 || (0x20 ≤ n && n ≤ 0x7E) || n == 0x85 ||
    (0xA0 ≤ n && n != 0xFFFE && n != 0xFFFF)

/-- Read a text as one document; an empty one is a missing value. -/
def read (text : String) : Except Fault Json := do
  if !text.toList.all isPrintable then throw .token
  let cs :=
    match text.toList with
    | '\ufeff' :: rest => rest
    | cs => cs
  let lines ← documentLines (((plainBreaks cs).splitOn '\n').map String.ofList)
  let body := (String.intercalate "\n" lines).toList
  let (value, after) ← readNode (2 * body.length + 2) 0 true (Cursor.mk body 0 true).toToken
  if after.rest.isEmpty then return value else .error .node

end Reckoner.Yaml
