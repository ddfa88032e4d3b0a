import PortableFilter.Proofs.Document
import PortableFilter.Proofs.Expr.Address

/-! # Groups that make no difference

Document queries and SQL conditions carry their own structure, and a group in a tree has no part in
it. `Expr.ungroupedAt` takes any of the groups of a tree away and leaves what they contain.
The document query of a well-shaped tree stays the same, as do its SQL query and the report of what
was folded in it (`Expr.render_ungroupedAt`). -/

namespace PortableFilter

mutual

/-- A tree without the groups at the addresses chosen. The address of a group is that of the
expression in it. -/
def Expr.ungroupedAt (chosen : Address → Bool) : Expr → Expr
  | .unary kind operand =>
    .unary kind (operand.ungroupedAt fun address => chosen (.left :: address))
  | .binary kind left right =>
    .binary kind (left.ungroupedAt fun address => chosen (.left :: address))
      (right.ungroupedAt fun address => chosen (.right :: address))

/-- An operand without the groups at the addresses chosen, the operand itself at the empty one. -/
def Operand.ungroupedAt (chosen : Address → Bool) : Operand → Operand
  | .key key => .key key
  | .value value => .value value
  | .expr content => .expr (content.ungroupedAt chosen)
  | .group content =>
    if chosen [] then .expr (content.ungroupedAt chosen) else .group (content.ungroupedAt chosen)

end

/-- A filter without its groups. -/
def Filter.ungrouped {α : Type} : Filter α → Filter α
  | leaf test => leaf test
  | join connective left right => join connective left.ungrouped right.ungrouped
  | not operand => not operand.ungrouped
  | group content => content.ungrouped

theorem Filter.ungrouped_enclose {α : Type} (operand : Operand) (filter : Filter α) :
    (operand.enclose filter).ungrouped = filter.ungrouped := by
  cases operand <;> rfl

theorem Operand.content?_ungroupedAt {operand : Operand} {content : Expr}
    (inside : operand.content? = some content) (chosen : Address → Bool) :
    (operand.ungroupedAt chosen).content? = some (content.ungroupedAt chosen) := by
  cases operand with
  | key | value => cases inside
  | expr =>
    cases inside
    rw [ungroupedAt, content?]
  | group =>
    cases inside
    rw [ungroupedAt]
    split <;> rfl

theorem Expr.ungroupedAt_expr (leaf : Leaf) (chosen : Address → Bool) :
    leaf.expr.ungroupedAt chosen = leaf.expr := by
  cases leaf <;> rfl

/-! ## Document queries -/

/-- The document query of a tree, or of its complement, does not depend on groups. -/
theorem Document.ofExpr_ungroupedAt {expr : Expr} (shaped : expr.Shaped) (chosen : Address → Bool)
    (negated : Bool) : ofExpr negated (expr.ungroupedAt chosen) = ofExpr negated expr := by
  induction shaped generalizing chosen negated with
  | test => rw [Expr.ungroupedAt_expr]
  | @not operand content inside _ ih =>
    rw [Expr.ungroupedAt, ofExpr, ofExpr, ofOperand?_of_content inside,
      ofOperand?_of_content (Operand.content?_ungroupedAt inside _), ih]
  | @join connective left right first second inLeft inRight _ _ ihLeft ihRight =>
    rw [Expr.ungroupedAt, ofExpr, ofExpr, ofOperand?_of_content inLeft,
      ofOperand?_of_content inRight,
      ofOperand?_of_content (Operand.content?_ungroupedAt inLeft _),
      ofOperand?_of_content (Operand.content?_ungroupedAt inRight _), ihLeft, ihRight]

/-! ## SQL queries -/

namespace Sql

theorem equalities?_ungrouped (filter : Filter Leaf) :
    equalities? filter.ungrouped = equalities? filter := by
  induction filter with
  | leaf test => rfl
  | join connective left right ihLeft ihRight =>
    cases connective with
    | and => rfl
    | or => rw [Filter.ungrouped, equalities?, ihLeft, ihRight, equalities?]
  | not operand => rfl
  | group content ih => rw [Filter.ungrouped, ih, equalities?]

theorem fold?_ungrouped (limit : Nat) (filter : Filter Leaf) :
    fold? limit filter.ungrouped = fold? limit filter := by
  rw [fold?, equalities?_ungrouped, fold?]

/-- Neither the condition of a filter nor what is folded in it depends on groups. -/
theorem compile_ungrouped (limit : Nat) (filter : Filter Leaf) :
    compile limit filter.ungrouped = compile limit filter := by
  induction filter with
  | leaf test => rfl
  | join connective left right ihLeft ihRight =>
    cases connective with
    | and => rw [Filter.ungrouped, compile, ihLeft, ihRight, compile]
    | or =>
      have folds := fold?_ungrouped limit (.join .or left right)
      rw [Filter.ungrouped] at folds ⊢
      rw [compile, folds, ihLeft, ihRight, compile]
  | not operand ih => rw [Filter.ungrouped, compile, ih, compile]
  | group content ih => rw [Filter.ungrouped, ih, compile]

end Sql

/-- Without some of its groups, a well-shaped tree passes the check as a filter that differs in
groups only. -/
theorem Expr.exists_checksAs_ungroupedAt {expr : Expr} (shaped : expr.Shaped)
    (chosen : Address → Bool) :
    ∃ filter other, expr.ChecksAs leaf filter ∧ (expr.ungroupedAt chosen).ChecksAs leaf other ∧
      other.ungrouped = filter.ungrouped := by
  induction shaped generalizing chosen with
  | @test test valid =>
    have checks := Expr.ChecksAs.test test.isTest_kind_expr (Leaf.leaf_expr valid)
    rw [ungroupedAt_expr]
    exact ⟨_, _, checks, checks, rfl⟩
  | @not operand content inside _ ih =>
    obtain ⟨filter, other, checks, otherChecks, same⟩ := ih fun address => chosen (.left :: address)
    rw [ungroupedAt]
    refine ⟨_, _, .not inside checks,
      .not (Operand.content?_ungroupedAt inside _) otherChecks, ?_⟩
    rw [Filter.ungrouped, Filter.ungrouped, Filter.ungrouped_enclose, Filter.ungrouped_enclose,
      same]
  | @join connective left right first second inLeft inRight _ _ ihLeft ihRight =>
    obtain ⟨firstFilter, firstOther, checksFirst, otherChecksFirst, sameFirst⟩ :=
      ihLeft fun address => chosen (.left :: address)
    obtain ⟨secondFilter, secondOther, checksSecond, otherChecksSecond, sameSecond⟩ :=
      ihRight fun address => chosen (.right :: address)
    rw [ungroupedAt]
    refine ⟨_, _, .join inLeft inRight checksFirst checksSecond,
      .join (Operand.content?_ungroupedAt inLeft _) (Operand.content?_ungroupedAt inRight _)
        otherChecksFirst otherChecksSecond, ?_⟩
    simp only [Filter.ungrouped, Filter.ungrouped_enclose, sameFirst, sameSecond]

/-- A well-shaped tree and what is left of it without any of its groups have the same document
query, the same SQL query and the same report of what was folded, whatever the settings are. -/
theorem Expr.render_ungroupedAt {expr : Expr} (shaped : expr.wellShaped)
    (chosen : Address → Bool) :
    (∃ text, Document.render expr = .ok text ∧
      Document.render (expr.ungroupedAt chosen) = .ok text) ∧
    ∀ settings, ∃ text folds, Sql.compileExpr settings expr = .ok (text, folds) ∧
      Sql.compileExpr settings (expr.ungroupedAt chosen) = .ok (text, folds) := by
  have shapedTree := expr.shaped_of_wellShaped shaped
  constructor
  · obtain ⟨query, written, -⟩ := Document.ofExpr_of_shaped shapedTree false
    rw [Document.render_eq_map, Document.render_eq_map, Document.ofExpr_ungroupedAt shapedTree,
      written]
    exact ⟨query.text, rfl, rfl⟩
  · intro settings
    obtain ⟨filter, other, checks, otherChecks, same⟩ :=
      exists_checksAs_ungroupedAt shapedTree chosen
    have compiled :
        Sql.compile settings.foldLimit other = Sql.compile settings.foldLimit filter := by
      rw [← Sql.compile_ungrouped, same, Sql.compile_ungrouped]
    simp only [Sql.compileExpr_eq_map, toFilter_eq_ok_iff.mpr checks,
      toFilter_eq_ok_iff.mpr otherChecks, Except.map, compiled]
    exact ⟨_, _, rfl, rfl⟩

/-- Below a negation, one of two groups is taken away, which stands within a disjunction that can be
folded. -/
theorem Expr.render_ungroupedAt_nested : ∃ expr other : Expr, expr.wellShaped ∧
    (∃ chosen, expr.ungroupedAt chosen = other) ∧ expr ≠ other ∧
    (∃ text, Document.render expr = .ok text ∧ Document.render other = .ok text) ∧
    ∃ text, Sql.compileExpr { foldLimit := 3 } expr = .ok (text, [⟨"a", 3⟩]) ∧
      Sql.compileExpr { foldLimit := 3 } other = .ok (text, [⟨"a", 3⟩]) := by
  let choice := Expr.join .or (.expr (.equalTo ⟨"a"⟩ (.int 1))) (.expr (.equalTo ⟨"a"⟩ (.int 2)))
  let last := Operand.expr (.equalTo ⟨"'a'"⟩ (.int 3))
  let expr := Expr.not (.group (.join .or (.group choice) last))
  let other := Expr.not (.group (.join .or (.expr choice) last))
  have shaped : expr.wellShaped := by decide
  have ungrouped : expr.ungroupedAt (fun address => address = [.left, .left]) = other := rfl
  have differs : expr ≠ other := by
    simp [expr, other, Expr.not, Expr.join]
  obtain ⟨document, sql⟩ := render_ungroupedAt shaped fun address => address = [.left, .left]
  obtain ⟨text, folds, compiled, otherCompiled⟩ := sql { foldLimit := 3 }
  have reported : (Sql.compileExpr { foldLimit := 3 } expr).map Prod.snd = .ok [⟨"a", 3⟩] := by
    rw [Sql.compileExpr_eq_map]
    rfl
  rw [compiled] at reported
  cases reported
  rw [ungrouped] at document otherCompiled
  exact ⟨expr, other, shaped, ⟨_, ungrouped⟩, differs, document, text, compiled, otherCompiled⟩

end PortableFilter
