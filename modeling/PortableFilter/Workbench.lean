import PortableFilter.Expr

/-! # A workbench for filter trees

Trees are put together on a stack of operands: some steps push, others take what
they need from the top and push what they make of it. What a step has taken is
gone, also if the step fails. -/

namespace PortableFilter

/-- Why a step fails. -/
inductive WorkbenchError where
  | emptyStack
  | notAnExpression
  deriving DecidableEq, Repr

/-- Why a step fails, in words. -/
def WorkbenchError.message : WorkbenchError → String
  | emptyStack => "empty stack"
  | notAnExpression => "not an expression"

/-- Operands, the top one first. -/
abbrev Workbench : Type := List Operand

namespace Workbench

/-- A step on the workbench. -/
abbrev Step (α : Type) : Type := ExceptT WorkbenchError (StateM Workbench) α

/-- Puts an operand on top. -/
def push (operand : Operand) : Step Unit := modify (operand :: ·)

/-- Takes the operand on top. -/
def pop : Step Operand := do
  match ← get with
  | [] => throw .emptyStack
  | operand :: operands =>
    set operands
    return operand

/-- The operand on top, which stays. -/
def top : Step Operand := do
  match ← get with
  | [] => throw .emptyStack
  | operand :: _ => return operand

/-- Joins the two operands on top, of which the upper one becomes the right one. -/
def join (connective : Connective) : Step Unit := do
  let right ← pop
  let left ← pop
  push (.expr (.join connective left right))

/-- Negates the operand on top by a node of its own. -/
def not : Step Unit := do
  push (.expr (.not (← pop)))

/-- Puts the expression on top in parentheses. A group stays one. -/
def group : Step Unit := do
  match (← pop).content? with
  | some content => push (.group content)
  | none => throw .notAnExpression

/-- Replaces the operand on top by its complement. -/
def negate : Step Unit := do
  push (← pop).negate

/-- Puts a copy of the operand on top above it. -/
def duplicate : Step Unit := do
  push (← top)

/-- Exchanges the two operands on top. -/
def swap : Step Unit := do
  let upper ← pop
  let lower ← pop
  push upper
  push lower

/-- Takes the two operands on top and compares them. -/
def equal : Step Bool := do
  let right ← pop
  let left ← pop
  return left.same right

/-- The expression on top, or in the group on top, which stays. -/
def content : Step Expr := do
  match (← top).content? with
  | some content => return content
  | none => throw .notAnExpression

end Workbench

end PortableFilter
