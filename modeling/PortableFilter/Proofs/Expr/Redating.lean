import PortableFilter.Proofs.Document.Acceptance

/-! # Dates in place of texts

A date can be given as such, or as a text that is read as one. `Expr.Redated` relates a tree to the
trees that have dates in place of some of these texts, wherever the texts stand. Every dialect with
a style for values writes the date in either case, and so renders both trees alike
(`Expr.Redated.render_eq`). -/

namespace PortableFilter

/-! ## Trees with dates in place of texts -/

/-- A scalar stays as it is, or is a text and gives way to the timestamp that it is read as. The
list holds the text and the timestamp in the second case. -/
inductive Scalar.Redated : List (String × Timestamp) → Scalar → Scalar → Prop where
  | kept (value : Scalar) : Redated [] value value
  | read {text : String} {timestamp : Timestamp} (reads : Timestamp.read? text = some timestamp) :
      Redated [(text, timestamp)] (.text text) (.date timestamp)

/-- Some of the texts in a list of scalars give way to the timestamps that they are read as. -/
inductive Scalar.ItemsRedated : List (String × Timestamp) → List Scalar → List Scalar → Prop where
  | nil : ItemsRedated [] [] []
  | cons {now later : List (String × Timestamp)} {value other : Scalar}
      {values others : List Scalar} (first : Redated now value other)
      (more : ItemsRedated later values others) :
      ItemsRedated (now ++ later) (value :: values) (other :: others)

/-- Some of the texts in a test give way to the timestamps that they are read as. -/
inductive Leaf.Redated : List (String × Timestamp) → Leaf → Leaf → Prop where
  | compare {replaced : List (String × Timestamp)} {value other : Scalar}
      (comparison : Comparison) (key : Key) (redated : Scalar.Redated replaced value other) :
      Redated replaced (.compare comparison key value) (.compare comparison key other)
  | member {replaced : List (String × Timestamp)} {items others : List Scalar} (negated : Bool)
      (key : Key) (redated : Scalar.ItemsRedated replaced items others) :
      Redated replaced (.member negated key items) (.member negated key others)
  | absent (negated : Bool) (key : Key) : Redated [] (.absent negated key) (.absent negated key)

/-- An operand with another expression in place of its content. -/
def Operand.withContent (other : Expr) : Operand → Operand
  | .expr _ => .expr other
  | .group _ => .group other
  | operand => operand

/-- Some of the texts in a tree give way to the timestamps that they are read as. The list holds
these texts from left to right, each with its timestamp. -/
inductive Expr.Redated : List (String × Timestamp) → Expr → Expr → Prop where
  | test {replaced : List (String × Timestamp)} {leaf other : Leaf}
      (redated : leaf.Redated replaced other) : Redated replaced leaf.expr other.expr
  | not {replaced : List (String × Timestamp)} {operand : Operand} {content other : Expr}
      (inside : operand.content? = some content) (redated : Redated replaced content other) :
      Redated replaced (.unary .not operand) (.unary .not (operand.withContent other))
  | join {inFirst inSecond : List (String × Timestamp)} {connective : Connective}
      {left right : Operand} {first second newFirst newSecond : Expr}
      (inLeft : left.content? = some first) (inRight : right.content? = some second)
      (redatedFirst : Redated inFirst first newFirst)
      (redatedSecond : Redated inSecond second newSecond) :
      Redated (inFirst ++ inSecond) (.binary (.join connective) left right)
        (.binary (.join connective) (left.withContent newFirst) (right.withContent newSecond))

/-- Some of the texts in a filter give way to the timestamps that they are read as. -/
inductive Filter.Redated : List (String × Timestamp) → Filter Leaf → Filter Leaf → Prop where
  | leaf {replaced : List (String × Timestamp)} {test other : Leaf}
      (redated : test.Redated replaced other) : Redated replaced (.leaf test) (.leaf other)
  | join {inLeft inRight : List (String × Timestamp)} {left right newLeft newRight : Filter Leaf}
      (connective : Connective) (redatedLeft : Redated inLeft left newLeft)
      (redatedRight : Redated inRight right newRight) :
      Redated (inLeft ++ inRight) (.join connective left right) (.join connective newLeft newRight)
  | not {replaced : List (String × Timestamp)} {operand other : Filter Leaf}
      (redated : Redated replaced operand other) : Redated replaced (.not operand) (.not other)
  | group {replaced : List (String × Timestamp)} {content other : Filter Leaf}
      (redated : Redated replaced content other) :
      Redated replaced (.group content) (.group other)

variable {replaced : List (String × Timestamp)}

namespace Scalar

variable {value other : Scalar} {values others : List Scalar}

/-- A timestamp in place of a text is no number that could be infinite. -/
theorem Redated.isFinite (redated : value.Redated replaced other) (finite : value.isFinite) :
    other.isFinite := by
  cases redated with
  | kept => exact finite
  | read => rfl

/-- Null is not what a text is read as. -/
theorem Redated.eq_null (redated : value.Redated replaced other) (isNull : other = .null) :
    value = .null := by
  cases redated with
  | kept => exact isNull
  | read => cases isNull

theorem ItemsRedated.isFinite (redated : ItemsRedated replaced values others)
    (finite : values.all isFinite) : others.all isFinite := by
  induction redated with
  | nil => rfl
  | cons first _ ih =>
    rw [List.all_cons, Bool.and_eq_true] at finite ⊢
    exact ⟨first.isFinite finite.1, ih finite.2⟩

theorem ItemsRedated.refl (values : List Scalar) : ItemsRedated [] values values := by
  induction values with
  | nil => exact .nil
  | cons value _ ih => exact .cons (.kept value) ih

/-- Items are redated in one list and in the other. -/
theorem ItemsRedated.append {later : List (String × Timestamp)} {more newMore : List Scalar}
    (first : ItemsRedated replaced values others) (second : ItemsRedated later more newMore) :
    ItemsRedated (replaced ++ later) (values ++ more) (others ++ newMore) := by
  induction first with
  | nil => exact second
  | cons value _ ih =>
    rw [List.append_assoc]
    exact .cons value ih

end Scalar

namespace Leaf

variable {leaf other : Leaf}

/-- A redated test is valid if the test is. -/
theorem Redated.valid (redated : leaf.Redated replaced other) (valid : leaf.Valid) :
    other.Valid := by
  cases redated with
  | compare comparison key redated =>
    obtain ⟨named, admitted, finite⟩ := valid
    exact ⟨named, fun isNull => admitted (redated.eq_null isNull), redated.isFinite finite⟩
  | member negated key redated => exact ⟨valid.1, redated.isFinite valid.2⟩
  | absent => exact valid

/-- The opposite of a redated test is the redated opposite. -/
theorem Redated.complement (redated : leaf.Redated replaced other) :
    leaf.complement.Redated replaced other.complement := by
  cases redated with
  | compare comparison key redated => exact .compare comparison.complement key redated
  | member negated key redated => exact .member (!negated) key redated
  | absent negated key => exact .absent (!negated) key

end Leaf

namespace Operand

variable {operand : Operand} {content : Expr} (other : Expr)

/-- An operand with another content contains that content. -/
theorem content?_withContent (inside : operand.content? = some content) :
    (operand.withContent other).content? = some other := by
  cases operand with
  | key | value => cases inside
  | expr | group => rfl

/-- An operand with another content is a group exactly if it was one. -/
theorem enclose_withContent {α : Type} (operand : Operand) :
    (operand.withContent other).enclose = operand.enclose (α := α) := by
  cases operand <;> rfl

end Operand

namespace Filter

/-- Groups around a filter and around the redated filter are the same. -/
theorem Redated.enclose {filter other : Filter Leaf} (redated : filter.Redated replaced other)
    (operand : Operand) : (operand.enclose filter).Redated replaced (operand.enclose other) := by
  cases operand with
  | key | value | expr => exact redated
  | group => exact .group redated

end Filter

namespace Expr

variable {α : Type} {expr other : Expr}

/-- What is negated in a well-shaped tree is well-shaped. -/
theorem Shaped.content {operand : Operand} {content : Expr}
    (shaped : (Expr.unary .not operand).Shaped) (inside : operand.content? = some content) :
    content.Shaped := by
  obtain ⟨_, isContent, shapedContent⟩ := shaped_not_iff.mp shaped
  cases inside.symm.trans isContent
  exact shapedContent

/-- What is joined in a well-shaped tree is well-shaped. -/
theorem Shaped.contents {connective : Connective} {left right : Operand} {first second : Expr}
    (shaped : (Expr.binary (.join connective) left right).Shaped)
    (inLeft : left.content? = some first) (inRight : right.content? = some second) :
    first.Shaped ∧ second.Shaped := by
  obtain ⟨⟨_, isFirst, shapedFirst⟩, _, isSecond, shapedSecond⟩ := shaped_join_iff.mp shaped
  cases inLeft.symm.trans isFirst
  cases inRight.symm.trans isSecond
  exact ⟨shapedFirst, shapedSecond⟩

/-- If a check of tests does not tell redated tests apart, then neither does the check of trees. -/
theorem Redated.toFilter_eq {leaf : Expr → Except ConvertError α}
    (same : ∀ {replaced : List (String × Timestamp)} {test other : Leaf}, test.Valid →
      test.Redated replaced other → leaf other.expr = leaf test.expr)
    (redated : expr.Redated replaced other) (shaped : expr.Shaped) :
    other.toFilter leaf = expr.toFilter leaf := by
  induction redated with
  | @test _ test other redated =>
    rw [toFilter_of_isTest test.isTest_kind_expr, toFilter_of_isTest other.isTest_kind_expr,
      same (Leaf.shaped_expr_iff.mp shaped) redated]
  | @not _ operand content other inside _ ih =>
    rw [toFilter, toFilter, Operand.toFilter?_of_content leaf inside,
      Operand.toFilter?_of_content leaf (Operand.content?_withContent other inside),
      Operand.enclose_withContent, ih (shaped.content inside)]
  | @join _ _ connective left right first second newFirst newSecond inLeft inRight _ _ ihFirst
      ihSecond =>
    obtain ⟨shapedFirst, shapedSecond⟩ := shaped.contents inLeft inRight
    rw [toFilter, toFilter, Operand.toFilter?_of_content leaf inLeft,
      Operand.toFilter?_of_content leaf inRight,
      Operand.toFilter?_of_content leaf (Operand.content?_withContent newFirst inLeft),
      Operand.toFilter?_of_content leaf (Operand.content?_withContent newSecond inRight),
      Operand.enclose_withContent, Operand.enclose_withContent, ihFirst shapedFirst,
      ihSecond shapedSecond]

/-- A well-shaped tree and one with dates in it pass the check as filters that differ in the same
dates. -/
theorem Redated.exists_checksAs (redated : expr.Redated replaced other) (shaped : expr.Shaped) :
    ∃ filter newFilter, expr.ChecksAs leaf filter ∧ other.ChecksAs leaf newFilter ∧
      filter.Redated replaced newFilter := by
  induction redated with
  | @test _ leaf other redated =>
    have valid := Leaf.shaped_expr_iff.mp shaped
    exact ⟨_, _, .test leaf.isTest_kind_expr (Leaf.leaf_expr valid),
      .test other.isTest_kind_expr (Leaf.leaf_expr (redated.valid valid)), .leaf redated⟩
  | @not _ operand _ other inside _ ih =>
    obtain ⟨_, _, checks, newChecks, redated⟩ := ih (shaped.content inside)
    refine ⟨_, _, .not inside checks,
      .not (Operand.content?_withContent other inside) newChecks, ?_⟩
    rw [Operand.enclose_withContent]
    exact .not (redated.enclose operand)
  | @join _ _ connective left right _ _ newFirst newSecond inLeft inRight _ _ ihFirst ihSecond =>
    obtain ⟨shapedFirst, shapedSecond⟩ := shaped.contents inLeft inRight
    obtain ⟨_, _, checksFirst, newChecksFirst, redatedFirst⟩ := ihFirst shapedFirst
    obtain ⟨_, _, checksSecond, newChecksSecond, redatedSecond⟩ := ihSecond shapedSecond
    refine ⟨_, _, .join inLeft inRight checksFirst checksSecond,
      .join (Operand.content?_withContent newFirst inLeft)
        (Operand.content?_withContent newSecond inRight) newChecksFirst newChecksSecond, ?_⟩
    rw [Operand.enclose_withContent, Operand.enclose_withContent]
    exact .join connective (redatedFirst.enclose left) (redatedSecond.enclose right)

end Expr

/-! ## The texts of redated trees -/

namespace ValueStyle

variable (style : ValueStyle)

/-- A date is written the same whether it is given as a text or as a date. -/
theorem scalarText_of_redated {value other : Scalar} (redated : value.Redated replaced other) :
    style.scalarText other = style.scalarText value := by
  cases redated with
  | kept => rfl
  | read reads => simp only [scalarText, reads]

/-- In a style, redated items are written as the items are. -/
theorem map_scalarText_of_redated {values others : List Scalar}
    (redated : Scalar.ItemsRedated replaced values others) :
    others.map style.scalarText = values.map style.scalarText := by
  induction redated with
  | nil => rfl
  | cons first _ ih => rw [List.map_cons, List.map_cons, style.scalarText_of_redated first, ih]

/-- In a style, a list of redated items is written as the list is. -/
theorem scalarsText_of_redated {values others : List Scalar}
    (redated : Scalar.ItemsRedated replaced values others) :
    style.scalarsText others = style.scalarsText values := by
  rw [scalarsText, style.map_scalarText_of_redated redated, scalarsText]

end ValueStyle

section

variable {leaf other : Leaf} (redated : leaf.Redated replaced other)

include redated

/-- In a document query, a redated test is written as the test is. -/
theorem Document.leafText_of_redated : leafText other = leafText leaf := by
  cases redated with
  | compare comparison key redated =>
    rw [leafText, style.scalarText_of_redated redated, leafText]
  | member negated key redated => rw [leafText, style.scalarsText_of_redated redated, leafText]
  | absent => rfl

/-- In a graph condition, a redated test is written as the test is. -/
theorem Graph.leafText_of_redated (settings : GraphSettings) :
    leafText settings other = leafText settings leaf := by
  cases redated with
  | compare comparison key redated =>
    rw [leafText, style.scalarText_of_redated redated, leafText]
  | member negated key redated => rw [leafText, style.scalarsText_of_redated redated, leafText]
  | absent => rfl

open QueryString

/-- The clause of a redated test is written as that of the test is. -/
theorem Lucene.clauseText_of_redated (settings : LuceneSettings) :
    clauseText settings (Clause.ofLeaf other) = clauseText settings (Clause.ofLeaf leaf) := by
  cases redated with
  | compare comparison key redated =>
    have same := style.scalarText_of_redated redated
    cases redated with
    | kept => rfl
    | read => cases comparison <;> simp only [Clause.ofLeaf, clauseText, scalarTermText, same]
  | @member _ items others negated key redated =>
    have asText : scalarTermText settings key =
        (fun text => keyText settings key ++ ":" ++ text) ∘ style.scalarText := rfl
    have same :
        others.map (scalarTermText settings key) = items.map (scalarTermText settings key) := by
      rw [asText, ← List.map_map, ← List.map_map, style.map_scalarText_of_redated redated]
    simp only [Clause.ofLeaf, clauseText, same]
  | absent => rfl

/-- The clause of a redated test is written as that of the test is, or has no text either. -/
theorem Range.clauseText?_of_redated :
    clauseText? (Clause.ofLeaf other) = clauseText? (Clause.ofLeaf leaf) := by
  cases redated with
  | compare comparison key redated =>
    have same := style.scalarText_of_redated redated
    cases redated with
    | kept => rfl
    | read => cases comparison <;> simp only [Clause.ofLeaf, clauseText?, same]
  | member negated key redated =>
    simp only [Clause.ofLeaf, clauseText?, style.scalarsText_of_redated redated]
  | absent => rfl

end

/-! ## The dialects with a style for values -/

/-- A redated test is written as the test is, or refused as it is. -/
theorem Range.leafText_of_redated {leaf other : Leaf} (valid : leaf.Valid)
    (redated : leaf.Redated replaced other) : leafText other.expr = leafText leaf.expr := by
  have sameKind : other.expr.kind = leaf.expr.kind := by
    cases redated <;> rfl
  rw [leafText_expr valid, leafText_expr (redated.valid valid), clauseText?_of_redated redated,
    sameKind]

namespace Filter

variable {filter other : Filter Leaf}

/-- A redated filter becomes the same filter of texts if redated tests have the same texts. -/
theorem Redated.map_eq {β : Type} {f : Leaf → β}
    (same : ∀ {replaced : List (String × Timestamp)} {test other : Leaf},
      test.Redated replaced other → f other = f test)
    (redated : filter.Redated replaced other) : other.map f = filter.map f := by
  induction redated with
  | leaf redated => rw [map, same redated, map]
  | join connective _ _ ihLeft ihRight => rw [map, ihLeft, ihRight, map]
  | not _ ih => rw [map, ih, map]
  | group _ ih => rw [map, ih, map]

end Filter

/-- A well-shaped tree and one with dates in it have document queries of one text, and so have
their complements. -/
theorem Document.exists_ofExpr_of_redated {expr other : Expr}
    (redated : expr.Redated replaced other) (shaped : expr.Shaped) (negated : Bool) :
    ∃ query newQuery, ofExpr negated expr = .ok query ∧ ofExpr negated other = .ok newQuery ∧
      newQuery.text = query.text := by
  induction redated generalizing negated with
  | test redated =>
    have valid := Leaf.shaped_expr_iff.mp shaped
    rw [ofExpr_expr, ofExpr_expr]
    cases negated with
    | false =>
      exact ⟨_, _, congrArg (Except.map _) (Leaf.leaf_expr valid),
        congrArg (Except.map _) (Leaf.leaf_expr (redated.valid valid)),
        leafText_of_redated redated⟩
    | true =>
      have validComplement := Leaf.valid_complement valid
      exact ⟨_, _, congrArg (Except.map _) (Leaf.leaf_expr validComplement),
        congrArg (Except.map _) (Leaf.leaf_expr (redated.complement.valid validComplement)),
        leafText_of_redated redated.complement⟩
  | @not _ operand _ other inside _ ih =>
    obtain ⟨query, newQuery, written, newWritten, same⟩ := ih (shaped.content inside) (!negated)
    refine ⟨query, newQuery, ?_, ?_, same⟩
    · rw [ofExpr, ofOperand?_of_content inside, written]
    · rw [ofExpr, ofOperand?_of_content (Operand.content?_withContent other inside), newWritten]
  | @join _ _ connective left right _ _ newFirst newSecond inLeft inRight _ _ ihFirst ihSecond =>
    obtain ⟨shapedFirst, shapedSecond⟩ := shaped.contents inLeft inRight
    obtain ⟨first, newFirstQuery, firstWritten, newFirstWritten, sameFirst⟩ :=
      ihFirst shapedFirst negated
    obtain ⟨second, newSecondQuery, secondWritten, newSecondWritten, sameSecond⟩ :=
      ihSecond shapedSecond negated
    refine ⟨.join (if negated then connective.dual else connective) first second,
      .join (if negated then connective.dual else connective) newFirstQuery newSecondQuery,
      ?_, ?_, ?_⟩
    · rw [ofExpr, ofOperand?_of_content inLeft, ofOperand?_of_content inRight, firstWritten,
        secondWritten]
      rfl
    · rw [ofExpr, ofOperand?_of_content (Operand.content?_withContent newFirst inLeft),
        ofOperand?_of_content (Operand.content?_withContent newSecond inRight), newFirstWritten,
        newSecondWritten]
      rfl
    · rw [Query.text, Query.text, sameFirst, sameSecond]

/-- Every dialect but SQL renders a tree with dates as it renders the tree with their texts. -/
theorem Expr.Redated.render_eq {expr other : Expr} (redated : expr.Redated replaced other)
    (shaped : expr.Shaped) (settings : Settings) {dialect : Dialect} (isStyled : dialect ≠ .sql) :
    settings.render dialect other = settings.render dialect expr := by
  obtain ⟨filter, newFilter, checks, newChecks, redatedFilter⟩ := redated.exists_checksAs shaped
  have checked := toFilter_eq_ok_iff.mpr checks
  have newChecked := toFilter_eq_ok_iff.mpr newChecks
  cases dialect with
  | document =>
    obtain ⟨query, newQuery, written, newWritten, same⟩ :=
      Document.exists_ofExpr_of_redated redated shaped false
    rw [Settings.render, Settings.render, Document.render_eq_map, Document.render_eq_map, written,
      newWritten]
    exact congrArg Except.ok same
  | graph =>
    rw [Settings.render, Settings.render, Graph.render_eq_map, Graph.render_eq_map, checked,
      newChecked]
    simp only [Except.map]
    rw [redatedFilter.map_eq fun redated => Graph.leafText_of_redated redated settings.graph]
  | lucene =>
    rw [Settings.render, Settings.render, Lucene.render_eq_map, Lucene.render_eq_map, checked,
      newChecked]
    simp only [Except.map]
    rw [redatedFilter.map_eq fun redated => Lucene.clauseText_of_redated redated settings.lucene]
  | range =>
    rw [Settings.render, Settings.render, Range.render_eq_map, Range.render_eq_map,
      redated.toFilter_eq Range.leafText_of_redated shaped]
  | sql => exact absurd rfl isStyled

end PortableFilter
