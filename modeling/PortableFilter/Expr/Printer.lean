import PortableFilter.Expr

/-! # Printing filters

`Expr.print` writes a tree in the filter language. "Or" binds weaker than "and",
and "and" weaker than everything else; both associate to the left. Parentheses are
written where a group stands, and around a bare expression that would otherwise
be read differently. A missing operand is not written. -/

namespace PortableFilter

namespace Kind

/-- How strongly a kind binds its operands. -/
def strength : Kind → Nat
  | join .or => 1
  | join .and => 2
  | _ => 3

/-- The sign of a kind, with the blanks around it. Negations and tests for absence are written
around their operand and have no sign of their own. -/
def symbol : Kind → String
  | join .and => " && "
  | join .or => " || "
  | compare .eq => " == "
  | compare .ne => " != "
  | compare .gt => " > "
  | compare .gte => " >= "
  | compare .lt => " < "
  | compare .lte => " <= "
  | member false => " in "
  | member true => " not in "
  | not | absent _ => ""

end Kind

/-- How strongly an operand holds together: as its kind if it is a bare expression, else as
strongly as possible. -/
def Operand.strength : Operand → Nat
  | .expr content => content.kind.strength
  | _ => 3

namespace Kind

/-- The text of a node with one operand, given the text of the operand. -/
def printUnary (kind : Kind) (operand : Operand) (text : String) : String :=
  match kind with
  | .not => "NOT " ++ Text.parenthesizedIf (operand.strength < 3) text
  | .absent false => text ++ " is null"
  | .absent true => text ++ " is not null"
  | kind => Text.parenthesizedIf (operand.strength < kind.strength) text ++ kind.symbol

/-- The text of a second operand. Connectives associate to the left, so a second operand that
binds no stronger than the connective needs parentheses. -/
def printSecond (kind : Kind) (operand : Operand) (text : String) : String :=
  match kind with
  | .not | .absent _ => ""
  | kind => Text.parenthesizedIf (kind.strength < 3 && operand.strength ≤ kind.strength) text

end Kind

mutual

/-- An expression in the filter language. -/
def Expr.print : Expr → String
  | .unary kind operand => kind.printUnary operand operand.print
  | .binary kind left right =>
    kind.printUnary left left.print ++ kind.printSecond right right.print

/-- An operand in the filter language. -/
def Operand.print : Operand → String
  | .key key => key.raw
  | .value value => value.print
  | .expr content => content.print
  | .group content => Text.parenthesized content.print

end

end PortableFilter
