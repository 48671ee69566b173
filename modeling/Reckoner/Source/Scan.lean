import Reckoner.Source.Lexeme

/-! Texts as token lists. Blanks, comments, joined lines and line ends inside brackets are
passed over; other line ends are tokens. Brackets are matched here, so every token list is
balanced up to its last token. -/

namespace Reckoner.Source

/-- Line ends in any of the three customary forms, as line feeds. -/
def unifyLineEnds : List Char → List Char
  | '\r' :: '\n' :: rest => '\n' :: unifyLineEnds rest
  | '\r' :: rest => '\n' :: unifyLineEnds rest
  | c :: rest => c :: unifyLineEnds rest
  | [] => []

/-- What has been scanned so far: the place, the open brackets from the innermost out, and
whether a line begins here. -/
structure ScanState where
  position : Position
  brackets : List (Char × Position)
  lineBegins : Bool

/-- The width of the blanks that begin a line, and the characters taken; a joined line goes on
with the width it has when that is not zero. -/
def indentation (joined width : Nat) (taken : List Char) : List Char → Nat × List Char × List Char
  | ' ' :: rest => indentation joined (width + 1) (' ' :: taken) rest
  | '\t' :: rest => indentation joined ((width / 8 + 1) * 8) ('\t' :: taken) rest
  | '\x0c' :: rest => indentation joined 0 ('\x0c' :: taken) rest
  | '\\' :: '\n' :: c :: rest =>
    indentation (if joined = 0 then width else joined) width ('\n' :: '\\' :: taken) (c :: rest)
  | rest => (if joined = 0 then width else joined, taken.reverse, rest)

def isInlineBlank (c : Char) : Bool := c = ' ' || c = '\t' || c = '\x0c'

/-- The brackets after an opening or closing one, or why it does not fit. -/
def bracketStep (c : Char) (position : Position) (open_ : List (Char × Position)) :
    Except ScanFault (List (Char × Position)) :=
  if c = '(' ∨ c = '[' ∨ c = '{' then .ok ((c, position) :: open_)
  else if c = ')' ∨ c = ']' ∨ c = '}' then
    match open_ with
    | [] => .error (.unmatched c)
    | (opening, place) :: outer =>
      if Mark.closerOf opening = c then .ok outer
      else
        let line := if place.line = position.line then none else some (place.line + 1)
        .error (.mismatched c opening line)
  else .ok open_

/-- The brackets after a token that begins with a character. -/
def bracketsAfter (kind : TokenKind) (first : Char) (state : ScanState) :
    Except ScanFault (List (Char × Position)) :=
  match kind with
  | .mark _ => bracketStep first state.position state.brackets
  | _ => .ok state.brackets

def lastToken (state : ScanState) : Token :=
  match state.brackets with
  | [] => ⟨.finish, state.position⟩
  | (opening, position) :: _ => ⟨.unclosed opening, position⟩

/-- The token that begins with a character, and then the tokens of what follows it. -/
def scanLexeme (lexeme : List Char → Option (TokenKind × Nat))
    (next : ScanState → List Char → List Token) (state : ScanState) (c : Char) (rest : List Char) :
    List Token :=
  match lexeme (c :: rest) with
  | none => [⟨.fault .malformed, state.position⟩]
  | some (kind, length) =>
    match bracketsAfter kind c state with
    | .error cause => [⟨.fault cause, state.position⟩]
    | .ok brackets =>
      ⟨kind, state.position⟩ ::
        next ⟨state.position.advance ((c :: rest).take length), brackets, false⟩
          ((c :: rest).drop length)

/-- The tokens from a state on, for any lexemes. -/
def scanBy (lexeme : List Char → Option (TokenKind × Nat)) :
    (fuel : Nat) → ScanState → List Char → List Token
  | 0, state, _ => [⟨.fault .malformed, state.position⟩]
  | fuel + 1, state, cs =>
    if state.lineBegins && state.brackets.isEmpty then
      let (width, taken, rest) := indentation 0 0 [] cs
      let position := state.position.advance taken
      let state := { state with position, lineBegins := false }
      match rest with
      | '\n' :: after =>
        scanBy lexeme fuel { state with position := position.step '\n', lineBegins := true } after
      | c :: _ =>
        if c = '#' then
          let comment := rest.takeWhile (· ≠ '\n')
          match rest.dropWhile (· ≠ '\n') with
          | [] => [⟨.finish, position.advance comment⟩]
          | _ :: after =>
            scanBy lexeme fuel
              { state with position := (position.advance comment).step '\n', lineBegins := true } after
        else if width ≠ 0 then [⟨.fault .malformed, position⟩]
        else scanBy lexeme fuel state rest
      | [] => [⟨.finish, position⟩]
    else
      match cs with
      | [] => [lastToken state]
      | '\\' :: '\n' :: c :: rest =>
        scanBy lexeme fuel { state with position := state.position.advance ['\\', '\n'] }
          (c :: rest)
      | c :: rest =>
        if isInlineBlank c then
          scanBy lexeme fuel { state with position := state.position.step c } rest
        else if c = '#' then
          let comment := cs.takeWhile (· ≠ '\n')
          scanBy lexeme fuel { state with position := state.position.advance comment }
            (cs.dropWhile (· ≠ '\n'))
        else if c = '\n' then
          let after := { state with position := state.position.step c, lineBegins := true }
          if state.brackets.isEmpty then
            ⟨.newline, state.position⟩ :: scanBy lexeme fuel after rest
          else scanBy lexeme fuel after rest
        else if c = '\\' then [⟨.fault .malformed, state.position⟩]
        else scanLexeme lexeme (scanBy lexeme fuel) state c rest

/-- The tokens of a text for any lexemes. A text with a null character is refused as a whole. -/
def scanWith (lexeme : List Char → Option (TokenKind × Nat)) (cs : List Char) : List Token :=
  if '\x00' ∈ cs then [⟨.fault .nullCharacter, .start⟩]
  else
    let cs := unifyLineEnds cs
    scanBy lexeme (2 * cs.length + 2) ⟨.start, [], true⟩ cs

theorem scanWith_null {lexeme : List Char → Option (TokenKind × Nat)} {cs : List Char}
    (h : '\x00' ∈ cs) : scanWith lexeme cs = [⟨.fault .nullCharacter, .start⟩] :=
  if_pos h

theorem scanWith_eq {lexeme : List Char → Option (TokenKind × Nat)} {cs : List Char}
    (h : '\x00' ∉ cs) : scanWith lexeme cs =
      scanBy lexeme (2 * (unifyLineEnds cs).length + 2) ⟨.start, [], true⟩ (unifyLineEnds cs) :=
  if_neg h

/-- The tokens of a text. -/
def scan (cs : List Char) : List Token := scanWith lexeme? cs

end Reckoner.Source
