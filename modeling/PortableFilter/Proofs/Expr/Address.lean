import PortableFilter.Proofs.Expr.Acceptance

/-! # Places in a tree

A node of a tree is found on the way down from the root, by the side to turn to at each node. Groups
are no nodes and take no step of the way. Addresses are ordered as the nodes are from left to
right. -/

namespace PortableFilter

/-- One of the operands of a node. A single operand is on the left. -/
inductive Side where
  | left
  | right
  deriving DecidableEq, Repr

/-- What is on the left comes first. -/
instance : LT Side := ⟨fun first second => first = .left ∧ second = .right⟩

/-- The way from the root of a tree to a node. -/
abbrev Address : Type := List Side

namespace Expr

/-- The expression that an operand of the topmost node is or contains. -/
def child? (expr : Expr) : Side → Option Expr
  | .left => expr.left.content?
  | .right => expr.right?.bind Operand.content?

/-- The expression at an address. -/
def at? (expr : Expr) : Address → Option Expr
  | [] => some expr
  | side :: address => (expr.child? side).bind fun child => child.at? address

theorem child?_expr (leaf : Leaf) (side : Side) : leaf.expr.child? side = none := by
  cases leaf <;> cases side <;> rfl

end Expr

end PortableFilter
