import PortableFilter.Token
import PortableFilter.Text.Blank
import PortableFilter.Text.Digit
import PortableFilter.Text.Numeral

/-! # Cutting a text into tokens

`Token.scan` says which token starts at a character and how many of the
characters after it belong to it. `Token.lex` skips blanks, scans a token, and
goes on behind it until the text ends, where it puts one token that stands for
the end. Characters that start no token become `unrecognized` tokens, so nothing
of the text is lost. -/

namespace PortableFilter.Token

open Text

/-- The length of a fraction at the front of a text: a point and the digits after it. -/
def fractionLength : List Char → Nat
  | '.' :: rest => 1 + digitCount rest
  | _ => 0

/-- The length of an exponent at the front of a text: `e` or `E`, perhaps a sign, and at least
one digit. Without a digit there is no exponent. -/
def exponentLength : List Char → Nat
  | [] => 0
  | mark :: rest =>
    if mark = 'e' ∨ mark = 'E' then
      match rest with
      | [] => 0
      | sign :: digits =>
        if sign.isDigit then 1 + digitCount rest
        else if (sign = '+' ∨ sign = '-') ∧ 0 < digitCount digits then 2 + digitCount digits
        else 0
    else 0

/-- The length of the mark `l` or `L` at the front of a text. -/
def suffixLength : List Char → Nat
  | mark :: _ => if mark = 'l' ∨ mark = 'L' then 1 else 0
  | [] => 0

/-- The number whose sign or first digit has just been read: a decimal if a fraction or an
exponent follows, else an integer. An integer takes a suffix `l` or `L` if at least one digit was
read here. -/
def scanNumber (text : List Char) : TokenKind × Nat :=
  let whole := digitCount text
  let fraction := fractionLength (text.drop whole)
  let exponent := exponentLength (text.drop (whole + fraction))
  if 0 < fraction + exponent then (.decimal, whole + fraction + exponent)
  else if 0 < whole then (.integer, whole + suffixLength (text.drop whole))
  else (.integer, 0)

/-- Whether a character ends a line. A quoted text stays on its line. -/
def endsLine (c : Char) : Bool := c == '\n' || c == '\r'

/-- The rest of a quoted text whose opening quote has just been read: whether it is closed, and
its length. A backslash takes the next character with it. -/
def scanQuoted (quote : Char) : List Char → Bool × Nat
  | [] => (false, 0)
  | ['\\'] => (false, 1)
  | '\\' :: escaped :: rest =>
    if endsLine escaped then (false, 1)
    else
      let (closed, length) := scanQuoted quote rest
      (closed, length + 2)
  | c :: rest =>
    if endsLine c then (false, 0)
    else if c = quote then (true, 1)
    else
      let (closed, length) := scanQuoted quote rest
      (closed, length + 1)

/-- The kind of a bare word. Keywords are recognized in any mix of ASCII cases. -/
def wordKind (word : List Char) : TokenKind :=
  match String.ofList (word.map Char.toLower) with
  | "where" => .whereWord
  | "and" => .and
  | "or" => .or
  | "not" => .not
  | "in" => .inWord
  | "nin" => .ninWord
  | "is" => .isWord
  | "null" => .null
  | "true" => .boolean true
  | "false" => .boolean false
  | _ => .name

/-- The rest of a word whose first character has just been read. -/
def scanWord (first : Char) (text : List Char) : TokenKind × Nat :=
  let more := text.takeWhile continuesName
  (wordKind (first :: more), more.length)

/-- The token that starts with `first`: its kind, and how many characters of `rest` it takes. -/
def scan (first : Char) (rest : List Char) : TokenKind × Nat :=
  match first with
  | '(' => (.openParen, 0)
  | ')' => (.closeParen, 0)
  | '[' => (.openBracket, 0)
  | ']' => (.closeBracket, 0)
  | ',' => (.comma, 0)
  | '=' => if rest.head? = some '=' then (.eq, 1) else (.unrecognized, 0)
  | '!' => if rest.head? = some '=' then (.ne, 1) else (.not, 0)
  | '<' => if rest.head? = some '=' then (.lte, 1) else (.lt, 0)
  | '>' => if rest.head? = some '=' then (.gte, 1) else (.gt, 0)
  | '&' => if rest.head? = some '&' then (.and, 1) else (.unrecognized, 0)
  | '|' => if rest.head? = some '|' then (.or, 1) else (.unrecognized, 0)
  | '.' => if 0 < digitCount rest then (.decimal, digitCount rest) else (.dot, 0)
  | '"' | '\'' =>
    let (closed, length) := scanQuoted first rest
    (if closed then .quoted else .unrecognized, length)
  | _ =>
    if first = '-' ∨ first = '+' then
      if 0 < digitCount rest ∨ rest.head? = some '.' then scanNumber rest else (.unrecognized, 0)
    else if first.isDigit then scanNumber rest
    else if startsName first then scanWord first rest
    else (.unrecognized, 0)

/-- The tokens of a text that starts at `position`, with the token that ends it. -/
def lexFrom (position : Position) (text : List Char) : List Token :=
  let start := position.after (text.takeWhile isBlank)
  match front : text.dropWhile isBlank with
  | [] => [.finish start]
  | first :: rest =>
    let (kind, more) := scan first rest
    let lexeme := first :: rest.take more
    let stop := start.after lexeme
    have : rest.length < text.length := by
      have shorter := (List.dropWhile_sublist isBlank (l := text)).length_le
      rw [front, List.length_cons] at shorter
      omega
    ⟨kind, String.ofList lexeme, start, stop.offset⟩ :: lexFrom stop (rest.drop more)
termination_by text.length
decreasing_by
  rw [List.length_drop]
  omega

/-- The tokens of a text, with the token that ends it. -/
def lex (text : String) : List Token := lexFrom .start text.toList

end PortableFilter.Token
