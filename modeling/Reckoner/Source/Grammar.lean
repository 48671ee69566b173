import Reckoner.Source.Surface

/-! The grammar, by recursive descent. Every function takes the tokens to read and answers what
it recognised and the tokens left, or the tokens from the first that does not fit. The fuel
bounds the depth of the descent: between two tokens it is at most some twenty calls. -/

namespace Reckoner.Source

abbrev Tokens := List Token

/-- What was recognised, or the tokens that begin with the misfit. -/
abbrev Parse := Except Tokens

namespace Grammar

def peek : Tokens → TokenKind
  | [] => .finish
  | token :: _ => token.kind

def columnOf : Tokens → Nat
  | [] => 0
  | token :: _ => token.position.byteColumn

def isMark (ts : Tokens) (mark : Mark) : Bool := peek ts = .mark mark

def isWord (ts : Tokens) (word : Keyword) : Bool := peek ts = .keyword word

def expectMark (mark : Mark) (ts : Tokens) : Parse Tokens :=
  if isMark ts mark then .ok ts.tail else .error ts

def expectWord (word : Keyword) (ts : Tokens) : Parse Tokens :=
  if isWord ts word then .ok ts.tail else .error ts

def beginsClause (ts : Tokens) : Bool := isWord ts .kwFor || isWord ts .kwAsync

/-- An identifier followed by the given mark. -/
def isNamed (ts : Tokens) (mark : Mark) : Bool :=
  match ts with
  | ⟨.name _, _⟩ :: rest => isMark rest mark
  | _ => false

/-- The left-associative binary operators by level, from the weakest. -/
def infixOp? (level : Nat) : TokenKind → Option InfixOp
  | .mark mark =>
    match level, mark with
    | 0, .bar => some .bitOr
    | 1, .caret => some .bitXor
    | 2, .ampersand => some .bitAnd
    | 3, .shiftLeft => some .shiftLeft
    | 3, .shiftRight => some .shiftRight
    | 4, .plus => some .add
    | 4, .minus => some .sub
    | 5, .star => some .mul
    | 5, .slash => some .div
    | 5, .doubleSlash => some .floorDiv
    | 5, .percent => some .modulo
    | 5, .atSign => some .matMul
    | _, _ => none
  | _ => none

/-- The number of levels of left-associative operators. -/
def infixLevels : Nat := 6

def unaryOp? : TokenKind → Option UnaryOp
  | .mark .minus => some .minus
  | .mark .plus => some .plus
  | .mark .tilde => some .invert
  | _ => none

/-- The tokens after a comparison operator, if one is next. -/
def afterComparison? (ts : Tokens) : Parse (Option Tokens) :=
  match peek ts with
  | .mark .less | .mark .greater | .mark .lessEqual | .mark .greaterEqual | .mark .equal
  | .mark .notEqual => .ok (some ts.tail)
  | .keyword .kwIn => .ok (some ts.tail)
  | .keyword .kwIs => .ok (some (if isWord ts.tail .kwNot then ts.tail.tail else ts.tail))
  | .keyword .kwNot => some <$> expectWord .kwIn ts.tail
  | _ => .ok none

/-- The tokens after the group of brackets that is open at `depth`. -/
def afterGroup : (depth : Nat) → Tokens → Tokens
  | _, [] => []
  | depth, token :: rest =>
    match token.kind with
    | .mark .openParen | .mark .openBracket | .mark .openBrace => afterGroup (depth + 1) rest
    | .mark .closeParen | .mark .closeBracket | .mark .closeBrace =>
      if depth ≤ 1 then rest else afterGroup (depth - 1) rest
    | _ => if depth = 0 then rest else afterGroup depth rest

/-- The tokens after a run of strings. -/
def afterStrings : Tokens → Tokens
  | [] => []
  | token :: rest =>
    match token.kind with
    | .string _ _ => afterStrings rest
    | _ => token :: rest

/-- Whether an attribute, a subscript or a call follows the first atom. -/
def hasTrailer (ts : Tokens) : Bool :=
  let rest :=
    match peek ts with
    | .string _ _ => afterStrings ts
    | _ => afterGroup 0 ts
  isMark rest .dot || isMark rest .openParen || isMark rest .openBracket

/-- The column and kind of a run of strings, with the tokens after it. -/
def strings (ts : Tokens) : Surface × Tokens :=
  let rest := afterStrings ts
  let hasFields := (ts.take (ts.length - rest.length)).any fun token =>
    match token.kind with
    | .string form _ => form.hasFields
    | _ => false
  (if hasFields then .foreign (columnOf ts) .joinedStr else .literal (columnOf ts), rest)

/-- What has been seen of the parameters of an anonymous function. -/
structure Parameters where
  seen : Bool := false
  slash : Bool := false
  default : Bool := false
  star : Bool := false
  bareStar : Bool := false

/-- Which arguments of a call may still follow. -/
inductive ArgumentStage where
  | positional | keywords | mappings
deriving DecidableEq

mutual

/-- A conditional, an anonymous function, or what binds tighter. -/
def expression : (fuel : Nat) → Tokens → Parse (Surface × Tokens)
  | 0, ts => .error ts
  | fuel + 1, ts => do
    if isWord ts .kwLambda then
      let rest ← parameters fuel {} ts.tail
      let (_, rest) ← expression fuel rest
      return (.foreign (columnOf ts) .lambda, rest)
    else
      let (value, rest) ← disjunction fuel ts
      if isWord rest .kwIf then
        let (_, rest) ← disjunction fuel rest.tail
        let rest ← expectWord .kwElse rest
        let (_, rest) ← expression fuel rest
        return (.foreign (columnOf ts) .ifExp, rest)
      else return (value, rest)

/-- An expression, or one that is given a name. -/
def namedExpression : (fuel : Nat) → Tokens → Parse (Surface × Tokens)
  | 0, ts => .error ts
  | fuel + 1, ts => do
    if isNamed ts .colonEqual then
      let (_, rest) ← expression fuel ts.tail.tail
      return (.foreign (columnOf ts) .namedExpr, rest)
    else expression fuel ts

def disjunction : (fuel : Nat) → Tokens → Parse (Surface × Tokens)
  | 0, ts => .error ts
  | fuel + 1, ts => do
    let (first, rest) ← conjunction fuel ts
    if isWord rest .kwOr then
      let (_, rest) ← disjunction fuel rest.tail
      return (.foreign (columnOf ts) .boolOp, rest)
    else return (first, rest)

def conjunction : (fuel : Nat) → Tokens → Parse (Surface × Tokens)
  | 0, ts => .error ts
  | fuel + 1, ts => do
    let (first, rest) ← inversion fuel ts
    if isWord rest .kwAnd then
      let (_, rest) ← conjunction fuel rest.tail
      return (.foreign (columnOf ts) .boolOp, rest)
    else return (first, rest)

def inversion : (fuel : Nat) → Tokens → Parse (Surface × Tokens)
  | 0, ts => .error ts
  | fuel + 1, ts => do
    if isWord ts .kwNot then
      let (operand, rest) ← inversion fuel ts.tail
      return (.unary (columnOf ts) .logicalNot operand, rest)
    else comparison fuel ts

def comparison : (fuel : Nat) → Tokens → Parse (Surface × Tokens)
  | 0, ts => .error ts
  | fuel + 1, ts => do
    let (first, rest) ← chain fuel 0 ts
    match ← afterComparison? rest with
    | some rest =>
      let (_, rest) ← comparison fuel rest
      return (.foreign (columnOf ts) .compare, rest)
    | none => return (first, rest)

/-- Operands of one level of binary operators, joined from the left. -/
def chain : (fuel : Nat) → (level : Nat) → Tokens → Parse (Surface × Tokens)
  | 0, _, ts => .error ts
  | fuel + 1, level, ts => do
    if level < infixLevels then
      let (first, rest) ← chain fuel (level + 1) ts
      chainRest fuel level (columnOf ts) first rest
    else factor fuel ts

/-- The operators of one level after an operand; `start` is the column of the first operand. -/
def chainRest : (fuel : Nat) → (level start : Nat) → Surface → Tokens →
    Parse (Surface × Tokens)
  | 0, _, _, _, ts => .error ts
  | fuel + 1, level, start, left, ts => do
    match infixOp? level (peek ts) with
    | some op =>
      let (right, rest) ← chain fuel (level + 1) ts.tail
      chainRest fuel level start (.binary start op left right) rest
    | none => return (left, ts)

def factor : (fuel : Nat) → Tokens → Parse (Surface × Tokens)
  | 0, ts => .error ts
  | fuel + 1, ts => do
    match unaryOp? (peek ts) with
    | some op =>
      let (operand, rest) ← factor fuel ts.tail
      return (.unary (columnOf ts) op operand, rest)
    | none =>
      let (base, rest) ← awaited fuel ts
      if isMark rest .doubleStar then
        let (exponent, rest) ← factor fuel rest.tail
        return (.binary (columnOf ts) .power base exponent, rest)
      else return (base, rest)

def awaited : (fuel : Nat) → Tokens → Parse (Surface × Tokens)
  | 0, ts => .error ts
  | fuel + 1, ts => do
    if isWord ts .kwAwait then
      let (_, rest) ← primary fuel ts.tail
      return (.foreign (columnOf ts) .await, rest)
    else primary fuel ts

def primary : (fuel : Nat) → Tokens → Parse (Surface × Tokens)
  | 0, ts => .error ts
  | fuel + 1, ts => do
    let (base, rest) ← atom fuel ts
    trailers fuel (columnOf ts) base rest

/-- Attributes, calls and subscripts after an atom; `start` is the column of the atom. -/
def trailers : (fuel : Nat) → (start : Nat) → Surface → Tokens → Parse (Surface × Tokens)
  | 0, _, _, ts => .error ts
  | fuel + 1, start, base, ts => do
    match peek ts with
    | .mark .dot =>
      match peek ts.tail with
      | .name _ => trailers fuel start (.foreign start .member) ts.tail.tail
      | _ => .error ts.tail
    | .mark .openParen =>
      let ((args, keywords), rest) ← arguments fuel (columnOf ts) .positional [] [] ts.tail
      trailers fuel start (.call start base args keywords) rest
    | .mark .openBracket =>
      let rest ← subscripts fuel ts.tail
      trailers fuel start (.foreign start .subscript) rest
    | _ => return (base, ts)

/-- The arguments of a call up to its closing parenthesis; `open_` is the column of the opening
one. Arguments and keyword columns are collected in reverse. -/
def arguments : (fuel : Nat) → (open_ : Nat) → ArgumentStage → List Surface → List Nat →
    Tokens → Parse ((List Surface × List Nat) × Tokens)
  | 0, _, _, _, _, ts => .error ts
  | fuel + 1, open_, stage, args, keywords, ts => do
    if isMark ts .closeParen then return ((args.reverse, keywords.reverse), ts.tail)
    else if isMark ts .star then
      if stage = .mappings then .error ts
      else
        let (_, rest) ← expression fuel ts.tail
        argumentsRest fuel open_ stage (.starred (columnOf ts) :: args) keywords rest
    else if isMark ts .doubleStar then
      let (value, rest) ← expression fuel ts.tail
      argumentsRest fuel open_ .mappings args (value.column :: keywords) rest
    else if isNamed ts .assign then
      let (value, rest) ← expression fuel ts.tail.tail
      let stage := if stage = .positional then .keywords else stage
      argumentsRest fuel open_ stage args (value.column :: keywords) rest
    else if stage ≠ .positional then .error ts
    else
      let (value, rest) ← namedExpression fuel ts
      if beginsClause rest && args.isEmpty then
        let rest ← clauses fuel rest
        let rest ← expectMark .closeParen rest
        return (([.foreign open_ .generatorExp], []), rest)
      else argumentsRest fuel open_ stage (value :: args) keywords rest

/-- What follows an argument: a comma and maybe more, or the end of the call. -/
def argumentsRest : (fuel : Nat) → (open_ : Nat) → ArgumentStage → List Surface → List Nat →
    Tokens → Parse ((List Surface × List Nat) × Tokens)
  | 0, _, _, _, _, ts => .error ts
  | fuel + 1, open_, stage, args, keywords, ts =>
    if isMark ts .comma then arguments fuel open_ stage args keywords ts.tail
    else if isMark ts .closeParen then .ok ((args.reverse, keywords.reverse), ts.tail)
    else .error ts

def atom : (fuel : Nat) → Tokens → Parse (Surface × Tokens)
  | 0, ts => .error ts
  | fuel + 1, ts => do
    match peek ts with
    | .name id => return (.name (columnOf ts) id, ts.tail)
    | .number kind text => return (.number (columnOf ts) kind text, ts.tail)
    | .keyword .kwNone | .keyword .kwTrue | .keyword .kwFalse | .mark .ellipsis =>
      return (.literal (columnOf ts), ts.tail)
    | .string _ _ => return strings ts
    | .mark .openParen => parenthesized fuel (columnOf ts) ts.tail
    | .mark .openBracket => bracketed fuel (columnOf ts) ts.tail
    | .mark .openBrace => braced fuel (columnOf ts) ts.tail
    | _ => .error ts

/-- A group, a tuple or a generator after an opening parenthesis at a column. -/
def parenthesized : (fuel : Nat) → (open_ : Nat) → Tokens → Parse (Surface × Tokens)
  | 0, _, ts => .error ts
  | fuel + 1, open_, ts => do
    if isMark ts .closeParen then return (.foreign open_ .tuple, ts.tail)
    else if isWord ts .kwYield then
      let (construct, rest) ← yielded fuel ts.tail
      return (.foreign (columnOf ts) construct, ← expectMark .closeParen rest)
    else if isMark ts .star then
      let (_, rest) ← chain fuel 0 ts.tail
      let rest ← expectMark .comma rest
      return (.foreign open_ .tuple, ← items fuel .closeParen rest)
    else
      let (value, rest) ← namedExpression fuel ts
      if beginsClause rest then
        let rest ← clauses fuel rest
        return (.foreign open_ .generatorExp, ← expectMark .closeParen rest)
      else if isMark rest .comma then
        return (.foreign open_ .tuple, ← items fuel .closeParen rest.tail)
      else return (value, ← expectMark .closeParen rest)

/-- A list or a list comprehension after an opening bracket at a column. -/
def bracketed : (fuel : Nat) → (open_ : Nat) → Tokens → Parse (Surface × Tokens)
  | 0, _, ts => .error ts
  | fuel + 1, open_, ts => do
    if isMark ts .closeBracket || isMark ts .star then
      return (.foreign open_ .list, ← items fuel .closeBracket ts)
    else
      let (_, rest) ← namedExpression fuel ts
      if beginsClause rest then
        let rest ← clauses fuel rest
        return (.foreign open_ .listComp, ← expectMark .closeBracket rest)
      else return (.foreign open_ .list, ← itemsRest fuel .closeBracket rest)

/-- A dictionary, a set or a comprehension of either after an opening brace at a column. -/
def braced : (fuel : Nat) → (open_ : Nat) → Tokens → Parse (Surface × Tokens)
  | 0, _, ts => .error ts
  | fuel + 1, open_, ts => do
    if isMark ts .closeBrace || isMark ts .doubleStar then
      return (.foreign open_ .dict, ← entries fuel ts)
    else if isMark ts .star then
      return (.foreign open_ .set, ← items fuel .closeBrace ts)
    else
      let named := isNamed ts .colonEqual
      let (_, rest) ← namedExpression fuel ts
      if isMark rest .colon && !named then
        let (_, rest) ← expression fuel rest.tail
        if beginsClause rest then
          let rest ← clauses fuel rest
          return (.foreign open_ .dictComp, ← expectMark .closeBrace rest)
        else return (.foreign open_ .dict, ← entriesRest fuel rest)
      else if beginsClause rest then
        let rest ← clauses fuel rest
        return (.foreign open_ .setComp, ← expectMark .closeBrace rest)
      else return (.foreign open_ .set, ← itemsRest fuel .closeBrace rest)

/-- Items, starred or not, up to a closing bracket. -/
def items : (fuel : Nat) → (close : Mark) → Tokens → Parse Tokens
  | 0, _, ts => .error ts
  | fuel + 1, close, ts => do
    if isMark ts close then return ts.tail
    else
      let (_, rest) ←
        if isMark ts .star then chain fuel 0 ts.tail else namedExpression fuel ts
      itemsRest fuel close rest

def itemsRest : (fuel : Nat) → (close : Mark) → Tokens → Parse Tokens
  | 0, _, ts => .error ts
  | fuel + 1, close, ts =>
    if isMark ts .comma then items fuel close ts.tail else expectMark close ts

/-- Entries of a dictionary up to its closing brace. -/
def entries : (fuel : Nat) → Tokens → Parse Tokens
  | 0, ts => .error ts
  | fuel + 1, ts => do
    if isMark ts .closeBrace then return ts.tail
    else if isMark ts .doubleStar then
      let (_, rest) ← chain fuel 0 ts.tail
      entriesRest fuel rest
    else
      let (_, rest) ← expression fuel ts
      let rest ← expectMark .colon rest
      let (_, rest) ← expression fuel rest
      entriesRest fuel rest

def entriesRest : (fuel : Nat) → Tokens → Parse Tokens
  | 0, ts => .error ts
  | fuel + 1, ts =>
    if isMark ts .comma then entries fuel ts.tail else expectMark .closeBrace ts

/-- Subscripts and slices up to the closing bracket; there is at least one. -/
def subscripts : (fuel : Nat) → Tokens → Parse Tokens
  | 0, ts => .error ts
  | fuel + 1, ts => do
    let rest ←
      if isMark ts .star then (·.2) <$> expression fuel ts.tail
      else if isMark ts .colon then slice fuel ts.tail
      else
        let named := isNamed ts .colonEqual
        let (_, rest) ← namedExpression fuel ts
        if isMark rest .colon && !named then slice fuel rest.tail else pure rest
    if isMark rest .comma then
      if isMark rest.tail .closeBracket then return rest.tail.tail
      else subscripts fuel rest.tail
    else expectMark .closeBracket rest

/-- The rest of a slice after its first colon. -/
def slice : (fuel : Nat) → Tokens → Parse Tokens
  | 0, ts => .error ts
  | fuel + 1, ts => do
    let rest ← bound fuel ts
    if isMark rest .colon then bound fuel rest.tail else return rest

/-- A bound of a slice, if there is one. -/
def bound : (fuel : Nat) → Tokens → Parse Tokens
  | 0, ts => .error ts
  | fuel + 1, ts =>
    if isMark ts .colon || isMark ts .comma || isMark ts .closeBracket then .ok ts
    else (·.2) <$> expression fuel ts

/-- What may follow `yield`. -/
def yielded : (fuel : Nat) → Tokens → Parse (Construct × Tokens)
  | 0, ts => .error ts
  | fuel + 1, ts => do
    if isWord ts .kwFrom then
      let (_, rest) ← expression fuel ts.tail
      return (.yieldFrom, rest)
    else if isMark ts .closeParen then return (.yield, ts)
    else return (.yield, ← starExpressions fuel ts)

/-- Expressions, starred or not, separated by commas up to a closing parenthesis. -/
def starExpressions : (fuel : Nat) → Tokens → Parse Tokens
  | 0, ts => .error ts
  | fuel + 1, ts => do
    let (_, rest) ← if isMark ts .star then chain fuel 0 ts.tail else expression fuel ts
    if isMark rest .comma && !isMark rest.tail .closeParen then starExpressions fuel rest.tail
    else return if isMark rest .comma then rest.tail else rest

/-- The clauses of a comprehension. -/
def clauses : (fuel : Nat) → Tokens → Parse Tokens
  | 0, ts => .error ts
  | fuel + 1, ts => do
    let rest := if isWord ts .kwAsync then ts.tail else ts
    let rest ← expectWord .kwFor rest
    let rest ← targets fuel rest
    let rest ← expectWord .kwIn rest
    let (_, rest) ← disjunction fuel rest
    let rest ← conditions fuel rest
    if beginsClause rest then clauses fuel rest else return rest

def conditions : (fuel : Nat) → Tokens → Parse Tokens
  | 0, ts => .error ts
  | fuel + 1, ts => do
    if isWord ts .kwIf then
      let (_, rest) ← disjunction fuel ts.tail
      conditions fuel rest
    else return ts

/-- Targets of a clause, separated by commas. -/
def targets : (fuel : Nat) → Tokens → Parse Tokens
  | 0, ts => .error ts
  | fuel + 1, ts => do
    let rest ← target fuel ts
    if isMark rest .comma && !isWord rest.tail .kwIn then targets fuel rest.tail
    else return if isMark rest .comma then rest.tail else rest

/-- One target: a name, an attribute, a subscript, or a bracketed list of targets. -/
def target : (fuel : Nat) → Tokens → Parse Tokens
  | 0, ts => .error ts
  | fuel + 1, ts => do
    if isMark ts .star then
      if isMark ts.tail .star then .error ts.tail else target fuel ts.tail
    else if hasTrailer ts then
      match ← primary fuel ts with
      | (.foreign _ .member, rest) | (.foreign _ .subscript, rest) => return rest
      | (_, rest) => .error rest
    else
      match peek ts with
      | .name _ => return ts.tail
      | .mark .openParen =>
        if isMark ts.tail .closeParen then return ts.tail.tail
        else
          let starred := isMark ts.tail .star
          let rest ← target fuel ts.tail
          if isMark rest .comma then targetList fuel .closeParen rest.tail
          else if starred then .error rest
          else expectMark .closeParen rest
      | .mark .openBracket => targetList fuel .closeBracket ts.tail
      | _ => .error ts

/-- Targets up to a closing bracket. -/
def targetList : (fuel : Nat) → (close : Mark) → Tokens → Parse Tokens
  | 0, _, ts => .error ts
  | fuel + 1, close, ts => do
    if isMark ts close then return ts.tail
    else
      let rest ← target fuel ts
      if isMark rest .comma then targetList fuel close rest.tail else expectMark close rest

/-- The parameters of an anonymous function, with the colon after them. -/
def parameters : (fuel : Nat) → Parameters → Tokens → Parse Tokens
  | 0, _, ts => .error ts
  | fuel + 1, seen, ts => do
    match peek ts with
    | .mark .colon => if seen.bareStar then .error ts else return ts.tail
    | .mark .slash =>
      if seen.slash || seen.star || !seen.seen then .error ts
      else parametersRest fuel { seen with slash := true } ts.tail
    | .mark .star =>
      if seen.star then .error ts
      else
        match peek ts.tail with
        | .name _ => parametersRest fuel { seen with star := true } ts.tail.tail
        | .mark .comma => parameters fuel { seen with star := true, bareStar := true } ts.tail.tail
        | _ => .error ts.tail
    | .mark .doubleStar =>
      if seen.bareStar then .error ts
      else
        match peek ts.tail with
        | .name _ =>
          let rest := ts.tail.tail
          expectMark .colon (if isMark rest .comma then rest.tail else rest)
        | _ => .error ts.tail
    | .name _ =>
      if isMark ts.tail .assign then
        let (_, rest) ← expression fuel ts.tail.tail
        parametersRest fuel { seen with seen := true, default := true, bareStar := false } rest
      else if seen.default && !seen.star then .error ts.tail
      else parametersRest fuel { seen with seen := true, bareStar := false } ts.tail
    | _ => .error ts

def parametersRest : (fuel : Nat) → Parameters → Tokens → Parse Tokens
  | 0, _, ts => .error ts
  | fuel + 1, seen, ts =>
    if isMark ts .comma then parameters fuel seen ts.tail
    else if isMark ts .colon then parameters fuel seen ts
    else .error ts

end

/-- The expressions after the first of a line. -/
def moreExpressions : (fuel : Nat) → Tokens → Parse Tokens
  | 0, ts => .error ts
  | fuel + 1, ts => do
    match peek ts with
    | .newline | .finish => return ts
    | _ =>
      let (_, rest) ← expression (32 * fuel) ts
      if isMark rest .comma then moreExpressions fuel rest.tail else return rest

/-- The end of a line and of the text. -/
def ending : Tokens → Parse Unit
  | [] => .ok ()
  | token :: rest =>
    match token.kind with
    | .newline => ending rest
    | .finish => .ok ()
    | _ => .error (token :: rest)

/-- One line: an expression, or several that make a tuple. -/
def line (ts : Tokens) : Parse Surface := do
  let (first, rest) ← expression (32 * (ts.length + 1)) ts
  if isMark rest .comma then
    let rest ← moreExpressions (ts.length + 1) rest.tail
    ending rest
    return .foreign (columnOf ts) .tuple
  else
    ending rest
    return first

end Grammar

end Reckoner.Source
