import PortableFilter.Shape
import PortableFilter.Settings
import PortableFilter.ValueStyle
import PortableFilter.Words

/-! # SQL conditions

Records are rows of a table, and their fields live in a JSON column: the key
`year` is the column expression `("metadata" ->> 'year')`. What it extracts is a
text, which is cast when it is compared with a number or a truth value. -/

namespace PortableFilter.Sql

/-- The type that an extracted text is cast to. -/
inductive Cast where
  | numeric
  | boolean
  deriving DecidableEq, Repr

/-- The cast for a comparison with a scalar. -/
def Cast.ofScalar? : Scalar → Option Cast
  | .int _ | .number _ => some .numeric
  | .bool _ => some .boolean
  | _ => none

/-- The cast for a comparison with a value. -/
def Cast.ofValue? : Value → Option Cast
  | .scalar value => ofScalar? value
  | .list _ => none

/-- A field of the JSON column, and what it is cast to. -/
structure Column where
  key : Key
  cast : Option Cast
  deriving DecidableEq, Repr

/-- A condition on the rows of a table. -/
inductive Condition where
  | compare (comparison : Comparison) (column : Column) (value : Scalar)
  | member (negated : Bool) (column : Column) (values : List Scalar)
  | isNull (negated : Bool) (column : Column)
  | join (connective : Connective) (left right : Condition)
  | not (operand : Condition)
  deriving DecidableEq, Repr

/-- A name in double quotes. -/
def identifierText (name : String) : String := "\"" ++ Text.doubled '"' name ++ "\""

/-- The expression that extracts a field as a text. -/
def pathText (settings : SqlSettings) (key : Key) : String :=
  identifierText settings.metadataColumn ++ " ->> '" ++ Text.doubled '\'' key.unquoted ++ "'"

/-- The name of a type. -/
def Cast.typeName : Cast → String
  | numeric => "numeric"
  | boolean => "boolean"

/-- The text of a column. -/
def Column.text (settings : SqlSettings) (column : Column) : String :=
  let path := Text.parenthesized (pathText settings column.key)
  match column.cast with
  | some type => "CAST(" ++ path ++ " AS " ++ type.typeName ++ ")"
  | none => path

/-- A character inside a string literal with escapes. -/
def literalChar (c : Char) : List Char :=
  if c = '\\' ∨ c = '"' ∨ c = '\'' then ['\\', c]
  else if c = '\x00' then ['\\', '0']
  else if c = '\x08' then ['\\', 'b']
  else if c = '\t' then ['\\', 't']
  else if c = '\x1a' then ['\\', 'z']
  else if c = '\n' then ['\\', 'n']
  else if c = '\r' then ['\\', 'r']
  else [c]

/-- A string literal. It is marked when it holds an escape. -/
def literalText (text : String) : String :=
  let content := text.toList.flatMap literalChar
  (if '\\' ∈ content then "E'" else "'") ++ String.ofList content ++ "'"

/-- The text of a value. -/
def scalarText : Scalar → String
  | .null => "NULL"
  | .bool value => if value then "TRUE" else "FALSE"
  | .int value => toString value
  | .number value => value.toText
  | .text value => literalText value
  | .date value => literalText value.toText

/-- The text of a membership test. No field is one of no values, and every field is none of
them. -/
def memberText (negated : Bool) (column : String) (values : List Scalar) : String :=
  match values with
  | [] => if negated then "1 = 1" else "1 = 2"
  | values =>
    column ++ (if negated then " NOT IN (" else " IN (") ++
      ", ".intercalate (values.map scalarText) ++ ")"

namespace Condition

/-- Whether a condition is neither a connective nor a negation. -/
def isTest : Condition → Bool
  | join _ _ _ | not _ => false
  | _ => true

/-- Whether a condition is joined by a connective. -/
def isJoinedBy (connective : Connective) : Condition → Bool
  | join own _ _ => own = connective
  | _ => false

/-- The text of a condition. Tests stand bare, and so does the left side of a connective if it
is joined by the same connective; everything else within another condition is put in
parentheses. -/
def text (settings : SqlSettings) : Condition → String
  | compare comparison column value =>
    column.text settings ++ comparison.sign ++ scalarText value
  | member negated column values => memberText negated (column.text settings) values
  | isNull negated column =>
    column.text settings ++ (if negated then " IS NOT NULL" else " IS NULL")
  | join connective left right =>
    Text.parenthesizedIf (!left.isTest && !left.isJoinedBy connective) (left.text settings) ++
      connective.word ++ Text.parenthesizedIf (!right.isTest) (right.text settings)
  | not operand => "NOT " ++ Text.parenthesizedIf (!operand.isTest) (operand.text settings)

end Condition

/-- The query for the rows that meet a condition. -/
def selectText (settings : SqlSettings) (condition : Condition) : String :=
  "SELECT * FROM " ++ identifierText settings.table ++ " WHERE " ++ condition.text settings

end PortableFilter.Sql
