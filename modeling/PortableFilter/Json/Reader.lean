import PortableFilter.Json
import PortableFilter.Text.Digit

/-! # Reading JSON

The reader takes JSON as its standard defines it and nothing more: no comments, no
commas at the end of a list, no control characters inside strings, and nothing
behind the value but blanks. A text is first cut into tokens, and the tokens are
then put together to a value. -/

namespace PortableFilter.Json

/-- A token of a JSON text. -/
inductive Token where
  | openObject
  | closeObject
  | openArray
  | closeArray
  | colon
  | comma
  | null
  | bool (value : Bool)
  | number (literal : String)
  | string (content : Option String)
  deriving DecidableEq, Repr

/-- The blanks of JSON. -/
def isBlank (c : Char) : Bool := c == ' ' || c == '\t' || c == '\n' || c == '\r'

/-- The length of the whole part of a number: a zero, or digits that do not start with one. -/
def wholeLength? : List Char → Option Nat
  | '0' :: _ => some 1
  | text => if Text.digitCount text = 0 then none else some (Text.digitCount text)

/-- The length of the fraction of a number, which is zero if there is none. A point needs digits
behind it. -/
def fractionLength? : List Char → Option Nat
  | '.' :: rest => if Text.digitCount rest = 0 then none else some (1 + Text.digitCount rest)
  | _ => some 0

/-- The length of a sign at the front of an exponent. -/
def exponentSignLength : List Char → Nat
  | '+' :: _ | '-' :: _ => 1
  | _ => 0

/-- The length of the exponent of a number, which is zero if there is none. Its mark needs digits
behind it. -/
def exponentLength? : List Char → Option Nat
  | [] => some 0
  | mark :: rest =>
    if mark = 'e' ∨ mark = 'E' then
      let sign := exponentSignLength rest
      let digits := Text.digitCount (rest.drop sign)
      if digits = 0 then none else some (1 + sign + digits)
    else some 0

/-- The length of a number without a sign at the front of a text. -/
def numberLength? (text : List Char) : Option Nat := do
  let whole ← wholeLength? text
  let fraction ← fractionLength? (text.drop whole)
  let exponent ← exponentLength? (text.drop (whole + fraction))
  return whole + fraction + exponent

/-- The value of a hexadecimal digit. -/
def hexDigit? (c : Char) : Option Nat :=
  if '0' ≤ c ∧ c ≤ '9' then some (c.toNat - '0'.toNat)
  else if 'a' ≤ c ∧ c ≤ 'f' then some (c.toNat - 'a'.toNat + 10)
  else if 'A' ≤ c ∧ c ≤ 'F' then some (c.toNat - 'A'.toNat + 10)
  else none

/-- The value of four hexadecimal digits. -/
def hexCode? (first second third fourth : Char) : Option Nat := do
  return (((← hexDigit? first) * 16 + (← hexDigit? second)) * 16 + (← hexDigit? third)) * 16 +
    (← hexDigit? fourth)

/-- The character that a backslash and a letter stand for. -/
def escaped? (c : Char) : Option Char :=
  match c with
  | '"' | '\\' | '/' => some c
  | 'b' => some '\x08'
  | 'f' => some '\x0c'
  | 'n' => some '\n'
  | 'r' => some '\r'
  | 't' => some '\t'
  | _ => none

/-- The rest of a string whose opening quote has just been read: its code units and its length
with the closing quote. An escape of four digits gives one code unit, a character any code
point. -/
def scanString? : List Char → Option (List Nat × Nat)
  | [] => none
  | '\\' :: 'u' :: first :: second :: third :: fourth :: rest => do
    let code ← hexCode? first second third fourth
    let (codes, length) ← scanString? rest
    return (code :: codes, length + 6)
  | '\\' :: c :: rest => do
    let char ← escaped? c
    let (codes, length) ← scanString? rest
    return (char.toNat :: codes, length + 2)
  | c :: rest =>
    if c = '"' then some ([], 1)
    else if c.toNat < 32 ∨ c = '\\' then none
    else do
      let (codes, length) ← scanString? rest
      return (c.toNat :: codes, length + 1)

/-- Whether a code unit is the first half of a surrogate pair. -/
def isHighSurrogate (code : Nat) : Bool := 0xD800 ≤ code && code < 0xDC00

/-- Whether a code unit is the second half of a surrogate pair. -/
def isLowSurrogate (code : Nat) : Bool := 0xDC00 ≤ code && code < 0xE000

/-- The text that code units denote, if the surrogates among them come in pairs. -/
def textOfCodes? : List Nat → Option (List Char)
  | [] => some []
  | [code] =>
    if isHighSurrogate code || isLowSurrogate code then none else some [Char.ofNat code]
  | code :: next :: rest =>
    if isHighSurrogate code && isLowSurrogate next then do
      let text ← textOfCodes? rest
      return Char.ofNat (0x10000 + (code - 0xD800) * 0x400 + (next - 0xDC00)) :: text
    else if isHighSurrogate code || isLowSurrogate code then none
    else do
      let text ← textOfCodes? (next :: rest)
      return Char.ofNat code :: text

/-- The token that starts with `first`, and how many characters of `rest` it takes. -/
def scan? (first : Char) (rest : List Char) : Option (Token × Nat) :=
  match first with
  | '\x7b' => some (.openObject, 0)
  | '\x7d' => some (.closeObject, 0)
  | '[' => some (.openArray, 0)
  | ']' => some (.closeArray, 0)
  | ':' => some (.colon, 0)
  | ',' => some (.comma, 0)
  | 'n' => if rest.take 3 = ['u', 'l', 'l'] then some (.null, 3) else none
  | 't' => if rest.take 3 = ['r', 'u', 'e'] then some (.bool true, 3) else none
  | 'f' => if rest.take 4 = ['a', 'l', 's', 'e'] then some (.bool false, 4) else none
  | '"' => do
    let (codes, length) ← scanString? rest
    return (.string ((textOfCodes? codes).map String.ofList), length)
  | '-' => do
    let length ← numberLength? rest
    return (.number (String.ofList ('-' :: rest.take length)), length)
  | _ => do
    let length ← numberLength? (first :: rest)
    return (.number (String.ofList ((first :: rest).take length)), length - 1)

/-- The tokens of a JSON text. -/
def lex? (text : List Char) : Option (List Token) :=
  match front : text.dropWhile isBlank with
  | [] => some []
  | first :: rest =>
    match scan? first rest with
    | none => none
    | some (token, more) =>
      have : rest.length < text.length := by
        have shorter := (List.dropWhile_sublist isBlank (l := text)).length_le
        rw [front, List.length_cons] at shorter
        omega
      (lex? (rest.drop more)).map (token :: ·)
termination_by text.length
decreasing_by
  rw [List.length_drop]
  omega

mutual

/-- Reads a value from the front of a list of tokens, in at most `steps` steps. -/
def readValue? : (steps : Nat) → List Token → Option (Json × List Token)
  | 0, _ => none
  | _, [] => none
  | steps + 1, token :: tokens =>
    match token with
    | .null => some (.null, tokens)
    | .bool value => some (.bool value, tokens)
    | .number literal => some (.number literal, tokens)
    | .string content => some (.string content, tokens)
    | .openArray =>
      match tokens with
      | .closeArray :: tokens => some (.array [], tokens)
      | _ => (readItems? steps tokens).map fun (items, tokens) => (.array items, tokens)
    | .openObject =>
      match tokens with
      | .closeObject :: tokens => some (.object [], tokens)
      | _ => (readFields? steps tokens).map fun (fields, tokens) => (.object fields, tokens)
    | _ => none

/-- Reads the items of an array that is not empty, and the bracket that closes it. -/
def readItems? : (steps : Nat) → List Token → Option (List Json × List Token)
  | 0, _ => none
  | steps + 1, tokens => do
    let (item, tokens) ← readValue? steps tokens
    match tokens with
    | .comma :: tokens =>
      let (items, tokens) ← readItems? steps tokens
      return (item :: items, tokens)
    | .closeArray :: tokens => return ([item], tokens)
    | _ => none

/-- Reads the fields of an object that is not empty, and the brace that closes it. -/
def readFields? : (steps : Nat) → List Token → Option (List (Option String × Json) × List Token)
  | 0, _ => none
  | steps + 1, .string name :: .colon :: tokens => do
    let (value, tokens) ← readValue? steps tokens
    match tokens with
    | .comma :: tokens =>
      let (fields, tokens) ← readFields? steps tokens
      return ((name, value) :: fields, tokens)
    | .closeObject :: tokens => return ([(name, value)], tokens)
    | _ => none
  | _, _ => none

end

/-- The value that a list of tokens spells. Reading an item of an array takes two steps and at
least one token, so twice as many steps as tokens, and two more, are enough. -/
def ofTokens? (tokens : List Token) : Option Json :=
  match readValue? (2 * tokens.length + 2) tokens with
  | some (value, []) => some value
  | _ => none

/-- The value that a JSON text spells. -/
def read? (text : String) : Option Json := (lex? text.toList).bind ofTokens?

end PortableFilter.Json
