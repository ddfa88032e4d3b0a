import PortableFilter.Expr
import PortableFilter.Text.Hidden

/-! # Outlines of filter trees

An outline shows a tree over several lines, each part on lines of its own, four
blanks further to the right than what it belongs to, and with a comma behind it. -/

namespace PortableFilter

/-- The lines of something written over several lines. -/
abbrev Outline : Type := List String

namespace Outline

/-- A comma behind the last line. -/
def withComma : Outline → Outline
  | [] => []
  | [last] => [last ++ ","]
  | line :: lines => line :: withComma lines

/-- Something that belongs to something else: further to the right, and with a comma. -/
def part (lines : Outline) : Outline := (withComma lines).map ("    " ++ ·)

/-- Parts between an opening and a closing line. -/
def enclosed (opening : String) (parts : List Outline) (closing : String) : Outline :=
  opening :: parts.flatMap part ++ [closing]

/-- Something with a name around it. -/
def named (name : String) (content : Outline) : Outline := enclosed (name ++ "(") [content] ")"

/-- A part with a label. -/
def labelled (label : String) : Outline → Outline
  | [] => [label ++ ": "]
  | line :: lines => (label ++ ": " ++ line) :: lines

/-- A record of labelled parts. -/
def record (name : String) (fields : List (String × Outline)) : Outline :=
  enclosed (name ++ " \x7b") (fields.map fun (label, content) => labelled label content) "\x7d"

/-- A list. An empty one takes a single line. -/
def list : List Outline → Outline
  | [] => ["[]"]
  | items => enclosed "[" items "]"

/-- A character inside a quoted text. Hidden characters are shown by their code points. -/
def quotedChar (c : Char) : List Char :=
  if c = '"' ∨ c = '\\' then ['\\', c]
  else if c = '\t' then ['\\', 't']
  else if c = '\n' then ['\\', 'n']
  else if c = '\r' then ['\\', 'r']
  else if c = '\x00' then ['\\', '0']
  else if Text.isHidden c then '\\' :: 'u' :: '\x7b' :: Nat.toDigits 16 c.toNat ++ ['\x7d']
  else [c]

/-- A text in double quotes. -/
def quoted (text : String) : Outline :=
  [String.ofList ('"' :: text.toList.flatMap quotedChar ++ ['"'])]

end Outline

/-- The name of a kind in an outline. -/
def Kind.outlineName : Kind → String
  | .join .and => "And"
  | .join .or => "Or"
  | .not => "Not"
  | .compare .eq => "Eq"
  | .compare .ne => "Ne"
  | .compare .gt => "Gt"
  | .compare .gte => "Gte"
  | .compare .lt => "Lt"
  | .compare .lte => "Lte"
  | .member false => "In"
  | .member true => "Nin"
  | .absent false => "IsNull"
  | .absent true => "IsNotNull"

/-- The outline of a scalar. -/
def Scalar.outline : Scalar → Outline
  | .null => ["Null"]
  | .bool value => .named "Bool" [boolText value]
  | .int value => .named "Int" [toString value]
  | .number value => .named "Float" [value.toOutlineText]
  | .text value => .named "String" (.quoted value)
  | .date value => .named "Date" [value.toText]

namespace Value

mutual

/-- The outline of a value. -/
def outline : Value → Outline
  | .scalar value => value.outline
  | .list items => .named "List" (.list (itemOutlines items))

/-- The outlines of the items of a list. -/
def itemOutlines : List Value → List Outline
  | [] => []
  | item :: items => outline item :: itemOutlines items

end

end Value

mutual

/-- The outline of an expression. -/
def Expr.outline : Expr → Outline
  | .unary kind operand =>
    .record "Expression"
      [("kind", [kind.outlineName]), ("left", operand.outline), ("right", ["None"])]
  | .binary kind left right =>
    .record "Expression"
      [("kind", [kind.outlineName]), ("left", left.outline), ("right", .named "Some" right.outline)]

/-- The outline of an operand. -/
def Operand.outline : Operand → Outline
  | .key key => .named "Key" (.named "Key" (.quoted key.raw))
  | .value value => .named "Value" value.outline
  | .expr content => .named "Expression" content.outline
  | .group content => .named "Group" (.record "Group" [("content", content.outline)])

end

end PortableFilter
