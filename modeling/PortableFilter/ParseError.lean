import PortableFilter.Text.Lines
import PortableFilter.Token

/-! # Why a text is not a filter

A text that is not a filter is refused at one of its tokens. `ParseError` holds
that token and the reason. Characters that start no token are the reason wherever
they are met: `ParseError.unexpected` puts that reason before any other. -/

namespace PortableFilter

/-- What was looked for in place of a token. -/
inductive Expected where
  /-- A comparison, a membership test or a test for absence. -/
  | operator
  /-- A name behind a dot. -/
  | name
  | inWord
  | null
  | openBracket
  /-- Another item or the end of a list. -/
  | listEnd
  /-- A connective or the end of a group. -/
  | groupEnd
  deriving DecidableEq, Repr

/-- How error messages name what was looked for. -/
def Expected.describe : Expected → String
  | operator => "\x7b'==', '!=', '>', '>=', '<', '<=', 'IN', 'NIN', 'NOT', 'IS'\x7d"
  | name => "IDENTIFIER"
  | inWord => "'IN'"
  | null => "'NULL'"
  | openBracket => "'['"
  | listEnd => "\x7b',', ']'\x7d"
  | groupEnd => "\x7b')', '&&', '||'\x7d"

/-- Why a token cannot stand where it stands. -/
inductive ParseFault where
  /-- Its characters start no token. -/
  | unrecognized
  /-- Nothing that may stand here starts with it. -/
  | noAlternative
  /-- Something else has to stand here. -/
  | mismatch (expected : Expected)
  /-- The filter is complete before it. -/
  | extraneous
  /-- It nests groups and negations too deeply. -/
  | tooDeep
  /-- It is an integer of more than 64 bits. -/
  | integerOutOfRange
  /-- It is a decimal without digits or beyond all finite numbers. -/
  | malformedNumber
  deriving DecidableEq, Repr

/-- The refusal of a text: the token it is refused at, and why. -/
structure ParseError where
  fault : ParseFault
  token : Token
  deriving DecidableEq, Repr

namespace ParseError

/-- The refusal of a token that does not fit. Characters that start no token are refused for
that reason. -/
def unexpected (fault : ParseFault) (token : Token) : ParseError :=
  ⟨if token.kind = .unrecognized then .unrecognized else fault, token⟩

/-- The reason for a refusal in words. -/
def message (error : ParseError) : String :=
  let text := error.token.text
  match error.fault with
  | .unrecognized => "token recognition error at: '" ++ text ++ "'"
  | .noAlternative => "no viable alternative at input '" ++ text ++ "'"
  | .mismatch expected => "mismatched input '" ++ text ++ "' expecting " ++ expected.describe
  | .extraneous => "extraneous input '" ++ text ++ "' expecting " ++ TokenKind.finish.describe
  | .tooDeep => "maximum nesting depth exceeded"
  | .integerOutOfRange => "integer out of range: '" ++ text ++ "'"
  | .malformedNumber => "malformed number: '" ++ text ++ "'"

/-- The place of a refusal and the reason for it. -/
def describe (error : ParseError) : String :=
  "line " ++ toString error.token.start.line ++ ":" ++ toString error.token.start.column ++ " " ++
    error.message

/-- The number of carets that mark a token: one for each character, and one for the end of the
text. -/
def caretCount (error : ParseError) : Nat :=
  if error.token.start.offset = error.token.stop then 1 else max error.token.text.length 1

/-- The description of a refusal, the line of the source it concerns, and carets under the
token. -/
def report (error : ParseError) (source : String) : String :=
  let line := (Text.lines source.toList).getD (error.token.start.line - 1) []
  error.describe ++ "\n" ++ String.ofList line ++ "\n" ++
    String.ofList (List.replicate (error.token.start.column - 1) ' ' ++
      List.replicate error.caretCount '^')

end ParseError

end PortableFilter
