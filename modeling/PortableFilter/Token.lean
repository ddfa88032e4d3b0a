/-! # Tokens of the filter language

A filter text is cut into tokens. A `Token` keeps its own characters and where
they stand: lines and columns are counted in characters for a reader's eye, and
offsets in bytes of UTF-8 for a program that slices the text. -/

namespace PortableFilter

/-- Where a character stands in a text. -/
structure Position where
  /-- The number of UTF-8 bytes before the character. -/
  offset : Nat
  /-- One more than the number of line feeds before the character. -/
  line : Nat
  /-- One more than the number of characters since the last line feed. -/
  column : Nat
  deriving DecidableEq, Repr

namespace Position

/-- The position of the first character of a text. -/
def start : Position := ⟨0, 1, 1⟩

/-- The position after one more character. -/
def next (position : Position) (c : Char) : Position :=
  if c = '\n' then ⟨position.offset + c.utf8Size, position.line + 1, 1⟩
  else ⟨position.offset + c.utf8Size, position.line, position.column + 1⟩

/-- The position after a stretch of characters. -/
def after (position : Position) (stretch : List Char) : Position :=
  stretch.foldl next position

@[simp] theorem after_nil (position : Position) : position.after [] = position := rfl

@[simp] theorem after_cons (position : Position) (c : Char) (stretch : List Char) :
    position.after (c :: stretch) = (position.next c).after stretch := rfl

theorem after_append (position : Position) (left right : List Char) :
    position.after (left ++ right) = (position.after left).after right := by
  simp only [after, List.foldl_append]

end Position

/-- The kinds of tokens. -/
inductive TokenKind where
  /-- The word `where`, which may open a filter. -/
  | whereWord
  | and
  | or
  | not
  | inWord
  | ninWord
  | isWord
  | null
  /-- A bare name. -/
  | name
  /-- A text between single or double quotes. -/
  | quoted
  | integer
  | decimal
  | boolean (value : Bool)
  | openParen
  | closeParen
  | openBracket
  | closeBracket
  | comma
  | dot
  | eq
  | ne
  | gt
  | lt
  | gte
  | lte
  /-- Characters that start no token. -/
  | unrecognized
  /-- The end of the text. -/
  | finish
  deriving DecidableEq, Repr

/-- How error messages and listings name a kind of token. -/
def TokenKind.describe : TokenKind → String
  | .whereWord => "'WHERE'"
  | .and => "'AND'"
  | .or => "'OR'"
  | .not => "'NOT'"
  | .inWord => "'IN'"
  | .ninWord => "'NIN'"
  | .isWord => "'IS'"
  | .null => "'NULL'"
  | .name => "IDENTIFIER"
  | .quoted => "QUOTED_STRING"
  | .integer => "INTEGER_VALUE"
  | .decimal => "DECIMAL_VALUE"
  | .boolean _ => "BOOLEAN_VALUE"
  | .openParen => "'('"
  | .closeParen => "')'"
  | .openBracket => "'['"
  | .closeBracket => "']'"
  | .comma => "','"
  | .dot => "'.'"
  | .eq => "'=='"
  | .ne => "'!='"
  | .gt => "'>'"
  | .lt => "'<'"
  | .gte => "'>='"
  | .lte => "'<='"
  | .unrecognized => "<illegal>"
  | .finish => "<EOF>"

/-- A token of a filter text. -/
structure Token where
  kind : TokenKind
  /-- The characters of the token; `<EOF>` for the end of the text. -/
  text : String
  /-- Where the first character stands. -/
  start : Position
  /-- The number of UTF-8 bytes before the character after the token. -/
  stop : Nat
  deriving DecidableEq, Repr

/-- The token that stands for the end of a text. -/
def Token.finish (position : Position) : Token :=
  ⟨.finish, TokenKind.finish.describe, position, position.offset⟩

end PortableFilter
