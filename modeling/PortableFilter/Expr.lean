import PortableFilter.Key
import PortableFilter.Value

/-! # Filter trees

A filter tree is made of nodes, each with a kind and one or two operands. An
operand is a key, a value, a bare expression, or a group: an expression in
parentheses of its own. Trees are plain data. Whether the operands of a node suit
its kind is a question of its own, so a tree can also be malformed.

`Expr.negate` gives the complement of a tree without adding a negation: it turns
tests into their opposites and exchanges "and" and "or". -/

namespace PortableFilter

/-- How two expressions are joined. -/
inductive Connective where
  | and
  | or
  deriving DecidableEq, Repr

/-- How a field is compared with a scalar. -/
inductive Comparison where
  | eq
  | ne
  | gt
  | gte
  | lt
  | lte
  deriving DecidableEq, Repr

/-- The kinds of nodes. -/
inductive Kind where
  /-- Both operands hold, or at least one of them. -/
  | join (connective : Connective)
  /-- The operand does not hold. -/
  | not
  /-- A field compares with a scalar. -/
  | compare (comparison : Comparison)
  /-- A field is one of a list of values, or none of them. -/
  | member (negated : Bool)
  /-- A field is absent, or present. -/
  | absent (negated : Bool)
  deriving DecidableEq, Repr

namespace Connective

/-- The connective of the complement. -/
def dual : Connective → Connective
  | and => or
  | or => and

end Connective

namespace Comparison

/-- The comparison that holds exactly when the given one does not. -/
def complement : Comparison → Comparison
  | eq => ne
  | ne => eq
  | gt => lte
  | gte => lt
  | lt => gte
  | lte => gt

end Comparison

namespace Kind

/-- The name of a kind. -/
def name : Kind → String
  | join .and => "AND"
  | join .or => "OR"
  | not => "NOT"
  | compare .eq => "EQ"
  | compare .ne => "NE"
  | compare .gt => "GT"
  | compare .gte => "GTE"
  | compare .lt => "LT"
  | compare .lte => "LTE"
  | member false => "IN"
  | member true => "NIN"
  | absent false => "ISNULL"
  | absent true => "ISNOTNULL"

/-- All kinds. -/
def all : List Kind :=
  [join .and, join .or, not, compare .eq, compare .ne, compare .gt, compare .gte, compare .lt,
    compare .lte, member false, member true, absent false, absent true]

/-- The kind with a name. -/
def ofName? (name : String) : Option Kind := all.find? fun kind => kind.name = name

/-- Whether a kind compares a field with a scalar. -/
def isComparison : Kind → Bool
  | compare _ => true
  | _ => false

/-- Whether a kind looks for a field in a list of values. -/
def isMembership : Kind → Bool
  | member _ => true
  | _ => false

/-- The kind of the complement of a node. A negation has none of its own. -/
def complement : Kind → Kind
  | join connective => join connective.dual
  | not => not
  | compare comparison => compare comparison.complement
  | member negated => member !negated
  | absent negated => absent !negated

end Kind

mutual

/-- A filter tree. -/
inductive Expr where
  | unary (kind : Kind) (operand : Operand)
  | binary (kind : Kind) (left right : Operand)

/-- An operand of a node. -/
inductive Operand where
  | key (key : Key)
  | value (value : Value)
  | expr (expr : Expr)
  /-- An expression in parentheses of its own. -/
  | group (content : Expr)

end

namespace Operand

/-- The expression that an operand is or contains. -/
def content? : Operand → Option Expr
  | expr content | group content => some content
  | _ => none

end Operand

namespace Expr

/-- The kind of the topmost node. -/
def kind : Expr → Kind
  | unary kind _ | binary kind _ _ => kind

/-- The first operand of the topmost node. -/
def left : Expr → Operand
  | unary _ operand => operand
  | binary _ left _ => left

/-- The second operand of the topmost node. -/
def right? : Expr → Option Operand
  | unary _ _ => none
  | binary _ _ right => some right

/-- A node of a kind with the operands given. -/
def node (kind : Kind) (left : Operand) : Option Operand → Expr
  | none => unary kind left
  | some right => binary kind left right

/-- The comparison of a field with a value. -/
def compare (comparison : Comparison) (key : Key) (value : Value) : Expr :=
  binary (.compare comparison) (.key key) (.value value)

/-- The test whether a field is one of a list of values, or none of them. -/
def member (negated : Bool) (key : Key) (value : Value) : Expr :=
  binary (.member negated) (.key key) (.value value)

/-- The test whether a field is absent, or present. -/
def absent (negated : Bool) (key : Key) : Expr := unary (.absent negated) (.key key)

/-- Two operands joined. -/
def join (connective : Connective) (left right : Operand) : Expr :=
  binary (.join connective) left right

/-- The negation of an operand. -/
def not (operand : Operand) : Expr := unary .not operand

end Expr

mutual

/-- The complement of an expression. The complement of a negation is its operand; a negation of
something that is no expression stays as it is. -/
def Expr.negate : Expr → Expr
  | .unary kind operand =>
    match kind with
    | .not => operand.content?.getD (.unary .not operand)
    | .join connective => .unary (.join connective.dual) operand.negate
    | kind => .unary kind.complement operand
  | .binary kind left right =>
    match kind with
    | .not => left.content?.getD (.binary .not left right)
    | .join connective => .binary (.join connective.dual) left.negate right.negate
    | kind => .binary kind.complement left right

/-- The complement of an operand. Keys and values have none and stay as they are. -/
def Operand.negate : Operand → Operand
  | .key key => .key key
  | .value value => .value value
  | .expr content => .expr content.negate
  | .group content => .group content.negate

end

mutual

/-- Equality of expressions, where numbers are compared by what they stand for. -/
def Expr.same : Expr → Expr → Bool
  | .unary kind operand, .unary kind' operand' => kind = kind' && operand.same operand'
  | .binary kind left right, .binary kind' left' right' =>
    kind = kind' && left.same left' && right.same right'
  | _, _ => false

/-- Equality of operands, where numbers are compared by what they stand for. -/
def Operand.same : Operand → Operand → Bool
  | .key key, .key key' => key = key'
  | .value value, .value value' => value.same value'
  | .expr content, .expr content' => content.same content'
  | .group content, .group content' => content.same content'
  | _, _ => false

end

end PortableFilter
