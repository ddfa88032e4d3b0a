import PortableFilter.Expr.Parser

/-! # Parsing with a cursor

A reader takes a list of tokens and gives back the rest of it, and the levels of nesting that are
left are an argument. The same grammar can be parsed with one list that stays as it is and a cursor
in it, which counts the tokens that lie behind it and the groups and negations around it. The count
goes up where one of them is opened and down where it is closed, also below zero if that is how it
comes. A `Walk` keeps every cursor there has been.

Loops and nested expressions are recursive calls here, of which each takes a unit of fuel. The fuel
has no part in the grammar: without it a parser gives nothing at all. That there always is an amount
that is enough, and that a larger one then changes nothing, is proved of each parser. -/

namespace PortableFilter

open Reading (Parsed)

/-- Where a parser stands: how many tokens lie behind it, and in how many groups and negations. -/
structure Cursor where
  position : Nat
  depth : Int
  deriving DecidableEq, Repr

/-- A parser on its way: where it stands, and where it has stood before. -/
structure Walk where
  cursor : Cursor
  trail : List Cursor
  deriving DecidableEq, Repr

namespace Walk

/-- Before the first token. -/
def start : Walk := ⟨⟨0, 0⟩, []⟩

/-- The walk with one more move. -/
def moved (walk : Walk) (cursor : Cursor) : Walk := ⟨cursor, walk.cursor :: walk.trail⟩

end Walk

/-- A parser that goes on from a walk. It reads something or refuses, and leaves the walk up to
there. If it runs out of fuel, it gives nothing. -/
abbrev Stepper (α : Type) : Type := ExceptT ParseError (StateT Walk Option) α

namespace Stepper

/-- There is no fuel left. -/
def exhausted {α : Type} : Stepper α := fun _ => none

/-- Moves the cursor. -/
def move (change : Cursor → Cursor) : Stepper Unit :=
  modify fun walk => walk.moved (change walk.cursor)

/-- Opens a group or a negation, if the limit of nesting admits it. -/
def enter (token : Token) : Stepper Unit := do
  if Reading.maxNesting ≤ (← get).cursor.depth then throw ⟨.tooDeep, token⟩
  else move fun cursor => { cursor with depth := cursor.depth + 1 }

/-- Closes a group or a negation. -/
def leave : Stepper Unit := move fun cursor => { cursor with depth := cursor.depth - 1 }

/-- Takes what stands inside a group or a negation that a token opens. A refusal leaves it open. -/
def nested {α : Type} (token : Token) (inside : Stepper α) : Stepper α := do
  enter token
  let value ← inside
  leave
  return value

section Parsers

variable (tokens : List Token)

/-- The token at the cursor. Beyond the last one, the text ends at its start. -/
def peek : Stepper Token := do
  return tokens[(← get).cursor.position]?.getD (.finish .start)

/-- The token at the cursor, which then lies behind it. Beyond the last one, nothing moves. -/
def advance : Stepper Token := do
  let token ← peek tokens
  if (← get).cursor.position < tokens.length then
    move fun cursor => { cursor with position := cursor.position + 1 }
  return token

/-- Takes a token of a kind. -/
def expect (kind : TokenKind) (expected : Expected) : Stepper Token := do
  let token ← peek tokens
  if token.kind = kind then advance tokens
  else throw (.unexpected (.mismatch expected) token)

/-- Takes a constant. -/
def constant : Stepper Scalar := do
  match Reading.constant (← peek tokens) with
  | .error error => throw error
  | .ok value =>
    let _ ← advance tokens
    return value

/-- Takes one or more constants with commas between them. -/
def items : (fuel : Nat) → Stepper (List Scalar)
  | 0 => exhausted
  | fuel + 1 => do
    let value ← constant tokens
    if (← peek tokens).kind = .comma then
      let _ ← advance tokens
      let values ← items fuel
      return value :: values
    else return [value]

/-- Takes the items of a list, if there are any. -/
def inside (fuel : Nat) : Stepper (List Scalar) := do
  if (← peek tokens).kind = .closeBracket then return [] else items tokens fuel

/-- Takes a list of constants in brackets. -/
def list (fuel : Nat) : Stepper (List Scalar) := do
  let _ ← expect tokens .openBracket .openBracket
  let values ← inside tokens fuel
  let _ ← expect tokens .closeBracket .listEnd
  return values

/-- Takes the rest of a dotted path that starts with `path`. -/
def path : (path : String) → (fuel : Nat) → Stepper Key
  | _, 0 => exhausted
  | path, fuel + 1 => do
    if (← peek tokens).kind = .dot then
      let _ ← advance tokens
      let part ← expect tokens .name .name
      Stepper.path (path ++ "." ++ part.text) fuel
    else return ⟨path⟩

/-- Takes a key. -/
def key (fuel : Nat) : Stepper Key := do
  let token ← advance tokens
  match token.kind with
  | .quoted => return ⟨token.text⟩
  | .name => path tokens token.text fuel
  | _ => throw (.unexpected .noAlternative token)

/-- Takes the constant of a comparison. -/
def comparison (comparison : Comparison) (key : Key) : Stepper Expr := do
  let value ← constant tokens
  return .compare comparison key (.scalar value)

/-- Takes the list of a membership test. -/
def membership (negated : Bool) (key : Key) (fuel : Nat) : Stepper Expr := do
  let values ← list tokens fuel
  return .member negated key (.ofScalars values)

/-- Takes the rest of a test for absence. -/
def absence (key : Key) : Stepper Expr := do
  if (← peek tokens).kind = .not then
    let _ ← advance tokens
    let _ ← expect tokens .null .null
    return .absent true key
  else
    let _ ← expect tokens .null .null
    return .absent false key

/-- Takes what is said about a key behind the token with which that starts. -/
def said (key : Key) (token : Token) (fuel : Nat) : Stepper Expr :=
  match token.kind with
  | .eq => comparison tokens .eq key
  | .ne => comparison tokens .ne key
  | .gt => comparison tokens .gt key
  | .gte => comparison tokens .gte key
  | .lt => comparison tokens .lt key
  | .lte => comparison tokens .lte key
  | .inWord => membership tokens false key fuel
  | .ninWord => membership tokens true key fuel
  | .not => do
    let _ ← expect tokens .inWord .inWord
    membership tokens true key fuel
  | .isWord => absence tokens key
  | _ => throw (.unexpected (.mismatch .operator) token)

/-- Takes what is said about a key. -/
def predicate (key : Key) (fuel : Nat) : Stepper Expr := do
  let token ← advance tokens
  said tokens key token fuel

mutual

/-- Takes a chain of items with a connective between them: a disjunction of conjunctions, or a
conjunction of negations. -/
def chain : (connective : Connective) → (fuel : Nat) → Stepper Parsed
  | _, 0 => exhausted
  | connective, fuel + 1 => do
    let left ← item connective fuel
    chainTail connective left fuel

/-- Takes an item of a chain. -/
def item : (connective : Connective) → (fuel : Nat) → Stepper Parsed
  | _, 0 => exhausted
  | .or, fuel + 1 => chain .and fuel
  | .and, fuel + 1 => negation fuel

/-- Takes further items of a chain, as long as its connective stands before them. -/
def chainTail : (connective : Connective) → (left : Parsed) → (fuel : Nat) → Stepper Parsed
  | _, _, 0 => exhausted
  | connective, left, fuel + 1 => do
    if (← peek tokens).kind = Reading.connectiveToken connective then
      let _ ← advance tokens
      let right ← item connective fuel
      chainTail connective ⟨.join connective left.operand right.operand, false⟩ fuel
    else return left

/-- Takes a negation or a primary expression. -/
def negation : (fuel : Nat) → Stepper Parsed
  | 0 => exhausted
  | fuel + 1 => do
    if (← peek tokens).kind = .not then
      let token ← advance tokens
      nested token do
        let operand ← negation fuel
        return ⟨.not operand.operand, false⟩
    else primary fuel

/-- Takes a group in parentheses, or a key and what is said about it. -/
def primary : (fuel : Nat) → Stepper Parsed
  | 0 => exhausted
  | fuel + 1 => do
    let token ← peek tokens
    match token.kind with
    | .openParen =>
      let _ ← advance tokens
      nested token do
        let parsed ← chain .or fuel
        let _ ← expect tokens .closeParen .groupEnd
        return ⟨parsed.content, true⟩
    | .name | .quoted =>
      let key ← key tokens fuel
      let content ← predicate tokens key fuel
      return ⟨content, false⟩
    | _ => throw (.unexpected .noAlternative token)

end

/-- Takes a filter and looks at what is behind it. -/
def filter (fuel : Nat) : Stepper Expr := do
  if (← peek tokens).kind = .whereWord then
    let _ ← advance tokens
  let parsed ← chain tokens .or fuel
  let token ← peek tokens
  if token.kind = .finish then return parsed.content
  else throw (.unexpected .extraneous token)

end Parsers

end Stepper

end PortableFilter
