import PortableFilter.Expr
import PortableFilter.ParseError
import PortableFilter.Token.Lexer

/-! # Reading filters

The grammar of filters, from the weakest to the strongest construct:

```text
filter      := [WHERE] disjunction
disjunction := conjunction (OR conjunction)*
conjunction := negation (AND negation)*
negation    := NOT negation | primary
primary     := "(" disjunction ")" | key predicate
predicate   := comparison constant | [NOT] IN list | NIN list | IS [NOT] NULL
list        := "[" [constant ("," constant)*] "]"
key         := quoted | name ("." name)*
```

Connectives associate to the left. A group in parentheses is kept as such, except
that a group within a group, and a group around the whole filter, are dropped.

Groups and negations may nest 128 levels deep. The parsers of the levels are
functions of the number of levels left, which makes them total. -/

namespace PortableFilter

namespace Reading

/-- What reads a value from the front of a list of tokens and leaves the rest. -/
abbrev Reader (α : Type) : Type := List Token → Except ParseError (α × List Token)

/-- The next token. Beyond the last one, the text ends at its start. -/
def next (tokens : List Token) : Token := tokens.head?.getD (.finish .start)

/-- Reads a token of a kind. -/
def expect (kind : TokenKind) (expected : Expected) : Reader Token := fun tokens =>
  let token := next tokens
  if token.kind = kind then .ok (token, tokens.tail)
  else .error (.unexpected (.mismatch expected) token)

/-- An expression that has been read, and whether it stood in parentheses. -/
structure Parsed where
  content : Expr
  grouped : Bool

/-- The operand that an expression becomes. -/
def Parsed.operand (parsed : Parsed) : Operand :=
  if parsed.grouped then .group parsed.content else .expr parsed.content

/-- A text without the plus at its front, if there is one. -/
def dropPlus : List Char → List Char
  | '+' :: rest => rest
  | text => text

/-- The integer that a literal denotes, if it fits into 64 bits. A mark `l` or `L` at its end has
no meaning, and neither has a plus before its sign. -/
def readInteger? (literal : List Char) : Option Int :=
  let marked := literal.getLast? = some 'l' ∨ literal.getLast? = some 'L'
  let unmarked := if marked then literal.dropLast else literal
  let (negative, digits) := Decimal.readSign (dropPlus unmarked)
  if digits ≠ [] ∧ digits.all Char.isDigit then
    let magnitude := Int.ofNat (Decimal.ofDigits digits)
    let value := if negative then -magnitude else magnitude
    if -0x8000000000000000 ≤ value ∧ value < 0x8000000000000000 then some value else none
  else none

/-- The scalar that a token denotes. -/
def constant (token : Token) : Except ParseError Scalar :=
  match token.kind with
  | .integer =>
    match readInteger? token.text.toList with
    | some value => .ok (.int value)
    | none => .error ⟨.integerOutOfRange, token⟩
  | .decimal =>
    match Binary64.read? token.text.toList with
    | some value => if value.isFinite then .ok (.number value) else .error ⟨.malformedNumber, token⟩
    | none => .error ⟨.malformedNumber, token⟩
  | .quoted => .ok (.text (Text.unquoted token.text))
  | .boolean value => .ok (.bool value)
  | .null => .ok .null
  | _ => .error (.unexpected .noAlternative token)

/-- Reads one or more constants with commas between them. -/
def readItems : Reader (List Scalar)
  | [] => do
    let item ← constant (next [])
    return ([item], [])
  | token :: tokens => do
    let item ← constant token
    match tokens with
    | [] => return ([item], [])
    | comma :: rest =>
      if comma.kind = .comma then
        let (items, rest) ← readItems rest
        return (item :: items, rest)
      else return ([item], tokens)

/-- Reads a list of constants in brackets. -/
def readList : Reader (List Scalar) := fun tokens => do
  let (_, tokens) ← expect .openBracket .openBracket tokens
  let (items, tokens) ←
    if (next tokens).kind = .closeBracket then Except.ok ([], tokens) else readItems tokens
  let (_, tokens) ← expect .closeBracket .listEnd tokens
  return (items, tokens)

/-- Reads the rest of a dotted path that starts with `path`. -/
def readPath (path : String) : Reader Key
  | [] => return (⟨path⟩, [])
  | dot :: tokens =>
    if dot.kind = .dot then
      match tokens with
      | [] => .error (.unexpected (.mismatch .name) (next []))
      | part :: rest =>
        if part.kind = .name then readPath (path ++ "." ++ part.text) rest
        else .error (.unexpected (.mismatch .name) part)
    else return (⟨path⟩, dot :: tokens)

/-- Reads the constant of a comparison. -/
def readComparison (comparison : Comparison) (key : Key) : Reader Expr := fun tokens => do
  let value ← constant (next tokens)
  return (.compare comparison key (.scalar value), tokens.tail)

/-- Reads the list of a membership test. -/
def readMembership (negated : Bool) (key : Key) : Reader Expr := fun tokens => do
  let (items, tokens) ← readList tokens
  return (.member negated key (.ofScalars items), tokens)

/-- Reads the rest of a test for absence. -/
def readAbsence (key : Key) : Reader Expr := fun tokens => do
  let negated := (next tokens).kind = .not
  let (_, tokens) ← expect .null .null (if negated then tokens.tail else tokens)
  return (.absent negated key, tokens)

/-- Reads what is said about a key. -/
def readPredicate (key : Key) : Reader Expr := fun tokens =>
  match (next tokens).kind with
  | .eq => readComparison .eq key tokens.tail
  | .ne => readComparison .ne key tokens.tail
  | .gt => readComparison .gt key tokens.tail
  | .gte => readComparison .gte key tokens.tail
  | .lt => readComparison .lt key tokens.tail
  | .lte => readComparison .lte key tokens.tail
  | .inWord => readMembership false key tokens.tail
  | .ninWord => readMembership true key tokens.tail
  | .not => do
    let (_, tokens) ← expect .inWord .inWord tokens.tail
    readMembership true key tokens
  | .isWord => readAbsence key tokens.tail
  | _ => .error (.unexpected (.mismatch .operator) (next tokens))

/-- The kind of the token that stands for a connective. -/
def connectiveToken : Connective → TokenKind
  | .and => .and
  | .or => .or

/-- Reads further items of a chain of at most `count` items, each behind a connective, and joins
them to what has been read, from left to right. -/
def readChainTail (connective : Connective) (item : Reader Parsed) :
    (count : Nat) → (left : Parsed) → Reader Parsed
  | 0, left, tokens => return (left, tokens)
  | count + 1, left, tokens =>
    if (next tokens).kind = connectiveToken connective then do
      let (right, tokens) ← item tokens.tail
      readChainTail connective item count
        ⟨.join connective left.operand right.operand, false⟩ tokens
    else return (left, tokens)

/-- Reads a chain of items with a connective between them. Every further item takes a token at
least, so there are no more of them than tokens. -/
def readChain (connective : Connective) (item : Reader Parsed) : Reader Parsed := fun tokens => do
  let (left, tokens) ← item tokens
  readChainTail connective item tokens.length left tokens

/-- Reads a disjunction of conjunctions of negations. -/
def readDisjunction (negation : Reader Parsed) : Reader Parsed :=
  readChain .or (readChain .and negation)

/-- Reads a group in parentheses, if the limit of nesting leaves a reader for what is inside, or
a key and what is said about it. -/
def readPrimary (inside : Option (Reader Parsed)) : Reader Parsed := fun tokens =>
  let token := next tokens
  match token.kind with
  | .openParen =>
    match inside with
    | none => .error ⟨.tooDeep, token⟩
    | some inside => do
      let (parsed, tokens) ← inside tokens.tail
      let (_, tokens) ← expect .closeParen .groupEnd tokens
      return (⟨parsed.content, true⟩, tokens)
  | .name => do
    let (key, tokens) ← readPath token.text tokens.tail
    let (content, tokens) ← readPredicate key tokens
    return (⟨content, false⟩, tokens)
  | .quoted => do
    let (content, tokens) ← readPredicate ⟨token.text⟩ tokens.tail
    return (⟨content, false⟩, tokens)
  | _ => .error (.unexpected .noAlternative token)

/-- Reads a negation or a primary expression. `deeper` reads a negation one level deeper, if the
limit of nesting leaves one. -/
def readNegationWith (deeper : Option (Reader Parsed)) : Reader Parsed := fun tokens =>
  let token := next tokens
  if token.kind = .not then
    match deeper with
    | none => .error ⟨.tooDeep, token⟩
    | some deeper => do
      let (operand, tokens) ← deeper tokens.tail
      return (⟨.not operand.operand, false⟩, tokens)
  else readPrimary (deeper.map readDisjunction) tokens

/-- Reads a negation or a primary expression with a number of levels of nesting left. -/
def readNegation : (levels : Nat) → Reader Parsed
  | 0 => readNegationWith none
  | levels + 1 => readNegationWith (some (readNegation levels))

/-- Reads an expression with a number of levels of nesting left. -/
def readExpression (levels : Nat) : Reader Parsed := readDisjunction (readNegation levels)

/-- How many levels deep groups and negations may nest. -/
def maxNesting : Nat := 128

end Reading

namespace Expr

open Reading

/-- The filter that a list of tokens spells. What follows the end of the text is not read. -/
def ofTokens (tokens : List Token) : Except ParseError Expr := do
  let tokens := if (next tokens).kind = .whereWord then tokens.tail else tokens
  let (parsed, tokens) ← readExpression maxNesting tokens
  if (next tokens).kind = .finish then return parsed.content
  else .error (.unexpected .extraneous (next tokens))

/-- The filter that a text spells. -/
def parse (text : String) : Except ParseError Expr := ofTokens (Token.lex text)

end Expr

end PortableFilter
