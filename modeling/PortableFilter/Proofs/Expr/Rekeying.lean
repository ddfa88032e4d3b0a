import PortableFilter.Proofs.Document.Acceptance

/-! # Other spellings of keys

A key is kept as it was written, but only the name of its field has a part in what a dialect says.
`Expr.rekeyed` replaces the keys of a tree. If each of them gives way to one that names the same
field, then every dialect renders the tree as before, or refuses it as before
(`Expr.render_rekeyed`). -/

namespace PortableFilter

mutual

/-- A tree with each key replaced. -/
def Expr.rekeyed (rename : Key → Key) : Expr → Expr
  | .unary kind operand => .unary kind (operand.rekeyed rename)
  | .binary kind left right => .binary kind (left.rekeyed rename) (right.rekeyed rename)

/-- An operand with each key replaced. -/
def Operand.rekeyed (rename : Key → Key) : Operand → Operand
  | .key key => .key (rename key)
  | .value value => .value value
  | .expr content => .expr (content.rekeyed rename)
  | .group content => .group (content.rekeyed rename)

end

/-- A test with its key replaced. -/
def Leaf.rekeyed (rename : Key → Key) : Leaf → Leaf
  | compare comparison key value => compare comparison (rename key) value
  | member negated key items => member negated (rename key) items
  | absent negated key => absent negated (rename key)

section

variable (rename : Key → Key)

theorem Expr.kind_rekeyed (expr : Expr) : (expr.rekeyed rename).kind = expr.kind := by
  cases expr <;> rfl

/-- The first operand has its keys replaced as the tree has. -/
theorem Expr.left_rekeyed (expr : Expr) :
    (expr.rekeyed rename).left = expr.left.rekeyed rename := by
  cases expr <;> rfl

/-- The second operand, if there is one, has its keys replaced as the tree has. -/
theorem Expr.right?_rekeyed (expr : Expr) :
    (expr.rekeyed rename).right? = expr.right?.map (Operand.rekeyed rename) := by
  cases expr <;> rfl

/-- It does not matter whether keys are replaced in a test or in its opposite. -/
theorem Expr.opposite_rekeyed (expr : Expr) :
    (expr.rekeyed rename).opposite = expr.opposite.rekeyed rename := by
  cases expr <;> rfl

theorem Operand.sort_rekeyed (operand : Operand) :
    (operand.rekeyed rename).sort = operand.sort := by
  cases operand <;> rfl

/-- The check of a value does not see the key. -/
theorem Kind.valueOperand_rekeyed (kind : Kind) (right : Option Operand) :
    kind.valueOperand (right.map (Operand.rekeyed rename)) = kind.valueOperand right := by
  rcases right with _ | operand
  · rfl
  · cases operand <;> rfl

theorem Comparison.scalarOperand_rekeyed (comparison : Comparison) (right : Option Operand) :
    comparison.scalarOperand (right.map (Operand.rekeyed rename)) =
      comparison.scalarOperand right := by
  rw [scalarOperand, Kind.valueOperand_rekeyed, scalarOperand]

theorem Kind.itemsOperand_rekeyed (kind : Kind) (right : Option Operand) :
    kind.itemsOperand (right.map (Operand.rekeyed rename)) = kind.itemsOperand right := by
  rw [itemsOperand, Kind.valueOperand_rekeyed, itemsOperand]

section

variable {α : Type} {leaf : Expr → Except ConvertError α} {f : α → α}

mutual

/-- If the check of tests takes other spellings of keys over into its results, then so does the
check of trees. -/
theorem Expr.toFilter_rekeyed (tests : ∀ expr, leaf (expr.rekeyed rename) = (leaf expr).map f)
    (expr : Expr) :
    (expr.rekeyed rename).toFilter leaf = (expr.toFilter leaf).map (Filter.map f) := by
  match expr with
  | .unary .not operand =>
    rw [Expr.rekeyed, Expr.toFilter, Expr.toFilter, operand.toFilter?_rekeyed tests,
      operand.sort_rekeyed]
    cases operand.toFilter? leaf with
    | none => rfl
    | some content => cases content <;> rfl
  | .binary (.join connective) left right =>
    rw [Expr.rekeyed, Expr.toFilter, Expr.toFilter, left.toFilter?_rekeyed tests,
      right.toFilter?_rekeyed tests, left.sort_rekeyed, right.sort_rekeyed]
    rcases left.toFilter? leaf with _ | _ | _ <;> rcases right.toFilter? leaf with _ | _ | _ <;> rfl
  | .unary (.join _) _ | .binary .not _ _ => rfl
  | .unary (.compare _) _ | .unary (.member _) _ | .unary (.absent _) _
  | .binary (.compare _) _ _ | .binary (.member _) _ _ | .binary (.absent _) _ _ =>
    rw [Expr.toFilter_of_isTest rfl, Expr.toFilter_of_isTest rfl, tests]
    cases leaf _ <;> rfl

/-- An operand passes the check as before, with its keys replaced. -/
theorem Operand.toFilter?_rekeyed
    (tests : ∀ expr, leaf (expr.rekeyed rename) = (leaf expr).map f) (operand : Operand) :
    (operand.rekeyed rename).toFilter? leaf =
      (operand.toFilter? leaf).map (Except.map (Filter.map f)) := by
  match operand with
  | .key _ | .value _ => rfl
  | .expr content =>
    rw [Operand.rekeyed, Operand.toFilter?, content.toFilter_rekeyed tests]
    rfl
  | .group content =>
    rw [Operand.rekeyed, Operand.toFilter?, content.toFilter_rekeyed tests, Operand.toFilter?]
    cases content.toFilter leaf <;> rfl

end

end

end

/-! ## Tests of the same fields -/

section

variable {rename : Key → Key} (same : ∀ key, (rename key).unquoted = key.unquoted)

include same

/-- A key that names the same field passes the check as before. -/
theorem Kind.keyOperand_rekeyed (kind : Kind) (operand : Operand) :
    kind.keyOperand (operand.rekeyed rename) = (kind.keyOperand operand).map rename := by
  cases operand with
  | key key =>
    rw [Operand.rekeyed, keyOperand, keyOperand, same]
    split <;> rfl
  | value | expr | group => rfl

/-- The test that a node is has the key that the node has. -/
theorem Expr.leaf_rekeyed (expr : Expr) :
    (expr.rekeyed rename).leaf = expr.leaf.map (Leaf.rekeyed rename) := by
  have key := Kind.keyOperand_rekeyed same expr.kind expr.left
  rw [leaf, leaf, absenceKey, absenceKey, kind_rekeyed, left_rekeyed, right?_rekeyed,
    Option.isSome_map, key]
  split
  · rename_i comparison _
    rw [comparison.scalarOperand_rekeyed rename]
    cases expr.kind.keyOperand expr.left with
    | error => rfl
    | ok => cases comparison.scalarOperand expr.right? <;> rfl
  · rw [expr.kind.itemsOperand_rekeyed rename]
    cases expr.kind.keyOperand expr.left with
    | error => rfl
    | ok => cases expr.kind.itemsOperand expr.right? <;> rfl
  · split
    · rfl
    · cases expr.kind.keyOperand expr.left <;> rfl
  · rfl

/-- What does not tell other spellings of keys in a filter apart does not tell them apart in the
filter of a tree, either. -/
theorem Expr.map_toFilter_rekeyed {β : Type} {view : Filter Leaf → β}
    (alike : ∀ filter, view (filter.map (Leaf.rekeyed rename)) = view filter) (expr : Expr) :
    ((expr.rekeyed rename).toFilter leaf).map view = (expr.toFilter leaf).map view := by
  rw [toFilter_rekeyed rename (leaf_rekeyed same)]
  cases expr.toFilter leaf with
  | error => rfl
  | ok filter => exact congrArg Except.ok (alike filter)

/-- In a document query, a test is written the same for a key that names the same field. -/
theorem Document.leafText_rekeyed (leaf : Leaf) :
    leafText (leaf.rekeyed rename) = leafText leaf := by
  cases leaf <;> simp only [Leaf.rekeyed, leafText, testText, keyText, same]

/-- In a graph condition, a test is written the same for a key that names the same field. -/
theorem Graph.leafText_rekeyed (settings : GraphSettings) (leaf : Leaf) :
    leafText settings (leaf.rekeyed rename) = leafText settings leaf := by
  cases leaf <;> simp only [Leaf.rekeyed, leafText, keyText, same]

open QueryString

/-- A term is written the same for a key that names the same field. -/
theorem Lucene.scalarTermText_rename (settings : LuceneSettings) (key : Key) :
    scalarTermText settings (rename key) = scalarTermText settings key := by
  funext value
  rw [scalarTermText, keyText, same, scalarTermText, keyText]

/-- A clause is written the same for a key that names the same field. -/
theorem Lucene.clauseText_rekeyed (settings : LuceneSettings) (leaf : Leaf) :
    clauseText settings (Clause.ofLeaf (leaf.rekeyed rename)) =
      clauseText settings (Clause.ofLeaf leaf) := by
  cases leaf with
  | compare comparison key value =>
    cases comparison <;> cases value <;>
      simp only [Leaf.rekeyed, Clause.ofLeaf, clauseText, presentText, scalarTermText_rename same,
        keyText, same]
  | member | absent =>
    simp only [Leaf.rekeyed, Clause.ofLeaf, clauseText, presentText, scalarTermText_rename same,
      keyText, same]

/-- A clause is written the same, or has no text, for a key that names the same field. -/
theorem Range.clauseText?_rekeyed (leaf : Leaf) :
    clauseText? (Clause.ofLeaf (leaf.rekeyed rename)) = clauseText? (Clause.ofLeaf leaf) := by
  cases leaf with
  | compare comparison key value =>
    cases comparison <;> cases value <;>
      simp only [Leaf.rekeyed, Clause.ofLeaf, clauseText?, keyText, same]
  | member | absent => simp only [Leaf.rekeyed, Clause.ofLeaf, clauseText?, keyText, same]

/-- A test is written the same, or refused the same, for a key that names the same field. -/
theorem Range.leafText_rekeyed (expr : Expr) : leafText (expr.rekeyed rename) = leafText expr := by
  rw [leafText, leafText, Expr.kind_rekeyed, Expr.leaf_rekeyed same]
  split
  · rfl
  · cases expr.leaf with
    | error => rfl
    | ok test =>
      simp only [Except.map, bind, Except.bind]
      rw [clauseText?_rekeyed same]

end

/-! ## Document queries of the same fields -/

namespace Document

/-- A query with each key replaced. -/
def Query.rekeyed (rename : Key → Key) : Query → Query
  | test leaf => test (leaf.rekeyed rename)
  | join connective left right => join connective (left.rekeyed rename) (right.rekeyed rename)

section

variable {rename : Key → Key}

/-- A document query is written the same for keys that name the same fields. -/
theorem Query.text_rekeyed (same : ∀ key, (rename key).unquoted = key.unquoted) (query : Query) :
    (query.rekeyed rename).text = query.text := by
  induction query with
  | test leaf => exact leafText_rekeyed same leaf
  | join connective left right ihLeft ihRight => rw [rekeyed, text, ihLeft, ihRight, text]

mutual

/-- With other spellings of its keys, a tree has the query with these spellings, and so has its
complement. -/
theorem ofExpr_rekeyed (same : ∀ key, (rename key).unquoted = key.unquoted) (negated : Bool)
    (expr : Expr) :
    ofExpr negated (expr.rekeyed rename) = (ofExpr negated expr).map (Query.rekeyed rename) := by
  match expr with
  | .unary .not operand =>
    rw [Expr.rekeyed, ofExpr, ofExpr, ofOperand?_rekeyed same _ operand, operand.sort_rekeyed]
    cases ofOperand? (!negated) operand <;> rfl
  | .binary (.join connective) left right =>
    rw [Expr.rekeyed, ofExpr, ofExpr, ofOperand?_rekeyed same _ left,
      ofOperand?_rekeyed same _ right, left.sort_rekeyed, right.sort_rekeyed]
    rcases ofOperand? negated left with _ | _ | _ <;>
      rcases ofOperand? negated right with _ | _ | _ <;> rfl
  | .binary .not left right =>
    have inside := ofOperand?_rekeyed same false left
    cases negated with
    | false => rfl
    | true =>
      cases isLeft : ofOperand? false left <;> rw [isLeft] at inside <;>
        simp [Expr.rekeyed, ofExpr, inside, isLeft, Except.map]
  | .unary (.join _) _ => rfl
  | .unary (.compare _) _ | .unary (.member _) _ | .unary (.absent _) _
  | .binary (.compare _) _ _ | .binary (.member _) _ _ | .binary (.absent _) _ _ =>
    rw [ofExpr_of_isTest rfl, ofExpr_of_isTest rfl, Expr.opposite_rekeyed,
      ← apply_ite (Expr.rekeyed rename), Expr.leaf_rekeyed same]
    cases Expr.leaf _ <;> rfl

/-- An operand has the query it had before, with the keys replaced. -/
theorem ofOperand?_rekeyed (same : ∀ key, (rename key).unquoted = key.unquoted) (negated : Bool)
    (operand : Operand) :
    ofOperand? negated (operand.rekeyed rename) =
      (ofOperand? negated operand).map (Except.map (Query.rekeyed rename)) := by
  match operand with
  | .key _ | .value _ => rfl
  | .expr content | .group content =>
    rw [Operand.rekeyed, ofOperand?, ofExpr_rekeyed same negated content]
    rfl

end

end

end Document

/-! ## SQL conditions of the same fields -/

namespace Sql

/-- A condition with each key replaced. -/
def Condition.rekeyed (rename : Key → Key) : Condition → Condition
  | compare comparison column value => compare comparison ⟨rename column.key, column.cast⟩ value
  | member negated column values => member negated ⟨rename column.key, column.cast⟩ values
  | isNull negated column => isNull negated ⟨rename column.key, column.cast⟩
  | join connective left right => join connective (left.rekeyed rename) (right.rekeyed rename)
  | not operand => not (operand.rekeyed rename)

/-- A test is compiled to the condition it had before, with its key replaced. -/
theorem Condition.ofLeaf_rekeyed (rename : Key → Key) (leaf : Leaf) :
    ofLeaf (leaf.rekeyed rename) = (ofLeaf leaf).rekeyed rename := by
  cases leaf with
  | compare comparison key value => cases comparison <;> cases value <;> rfl
  | member | absent => rfl

/-- The alternatives of a filter are those it had before, with their keys replaced. -/
theorem equalities?_rekeyed (rename : Key → Key) (filter : Filter Leaf) :
    equalities? (filter.map (Leaf.rekeyed rename)) =
      (equalities? filter).map (List.map (Prod.map rename id)) := by
  induction filter with
  | leaf test =>
    cases test with
    | compare comparison key value =>
      cases comparison with
      | eq =>
        simp only [Filter.map, Leaf.rekeyed, equalities?]
        split <;> rfl
      | ne | gt | gte | lt | lte => rfl
    | member | absent => rfl
  | join connective left right ihLeft ihRight =>
    cases connective with
    | and => rfl
    | or =>
      rw [Filter.map, equalities?, equalities?, ihLeft, ihRight]
      cases equalities? left <;> cases equalities? right <;> simp
  | not => rfl
  | group content ih => exact ih

variable {rename : Key → Key} (same : ∀ key, (rename key).unquoted = key.unquoted)

include same

/-- The text of a condition does not depend on the spellings of keys. -/
theorem Condition.text_rekeyed (settings : SqlSettings) (condition : Condition) :
    (condition.rekeyed rename).text settings = condition.text settings := by
  have columnText (column : Column) :
      Column.text settings ⟨rename column.key, column.cast⟩ = column.text settings := by
    simp only [Column.text, pathText, same]
  induction condition with
  | compare | member | isNull => simp only [rekeyed, text, columnText]
  | join connective left right ihLeft ihRight =>
    have isTest (condition : Condition) : (condition.rekeyed rename).isTest = condition.isTest := by
      cases condition <;> rfl
    have isJoinedBy : (left.rekeyed rename).isJoinedBy connective = left.isJoinedBy connective := by
      cases left <;> rfl
    simp only [rekeyed, text, isTest, isJoinedBy, ihLeft, ihRight]
  | not operand ih =>
    have isTest : (operand.rekeyed rename).isTest = operand.isTest := by
      cases operand <;> rfl
    simp only [rekeyed, text, isTest, ih]

/-- A condition is written the same for keys that name the same fields. -/
theorem selectText_rekeyed (settings : SqlSettings) (condition : Condition) :
    selectText settings (condition.rekeyed rename) = selectText settings condition :=
  congrArg ("SELECT * FROM " ++ identifierText settings.table ++ " WHERE " ++ ·)
    (condition.text_rekeyed same settings)

/-- Alternatives fold as before if each key gives way to one that names the same field. -/
theorem fold?_rekeyed (limit : Nat) (filter : Filter Leaf) :
    fold? limit (filter.map (Leaf.rekeyed rename)) =
      (fold? limit filter).map (Prod.map (Condition.rekeyed rename) id) := by
  rw [fold?, equalities?_rekeyed, fold?]
  rcases equalities? filter with _ | _ | ⟨⟨key, value⟩, others⟩
  · rfl
  · rfl
  · simp only [Option.map_some, List.map_cons, Prod.map_apply, id, same, List.length_cons,
      List.length_map, List.all_cons, List.all_map, List.map_map, Function.comp_def, Prod.map_fst,
      Prod.map_snd]
    split <;> rfl

/-- With other spellings of the keys, a filter compiles to the condition with these spellings, and
the same disjunctions are folded. -/
theorem compile_rekeyed (limit : Nat) (filter : Filter Leaf) :
    compile limit (filter.map (Leaf.rekeyed rename)) =
      Prod.map (Condition.rekeyed rename) id (compile limit filter) := by
  induction filter with
  | leaf test => rw [Filter.map, compile, Condition.ofLeaf_rekeyed, compile]; rfl
  | join connective left right ihLeft ihRight =>
    cases connective with
    | and => rw [Filter.map, compile, ihLeft, ihRight, compile]; rfl
    | or =>
      have folds := fold?_rekeyed same limit (.join .or left right)
      rw [Filter.map] at folds ⊢
      rw [compile, folds, ihLeft, ihRight, compile]
      cases fold? limit (.join .or left right) <;> rfl
  | not operand ih => rw [Filter.map, compile, ih, compile]; rfl
  | group content ih => rw [Filter.map, compile, ih, compile]

end Sql

/-- Every dialect renders a tree the same, or refuses it the same, if each key gives way to one that
names the same field. -/
theorem Expr.render_rekeyed {rename : Key → Key}
    (same : ∀ key, (rename key).unquoted = key.unquoted) (settings : Settings) (dialect : Dialect)
    (expr : Expr) :
    settings.render dialect (expr.rekeyed rename) = settings.render dialect expr := by
  cases dialect with
  | document =>
    rw [Settings.render, Settings.render, Document.render_eq_map, Document.ofExpr_rekeyed same,
      Document.render_eq_map]
    cases Document.ofExpr false expr with
    | error => rfl
    | ok query => exact congrArg Except.ok (query.text_rekeyed same)
  | graph =>
    rw [Settings.render, Settings.render, Graph.render_eq_map, Graph.render_eq_map]
    refine map_toFilter_rekeyed same (fun filter => ?_) expr
    rw [Filter.map_map_of_eq (Graph.leafText_rekeyed same settings.graph)]
  | lucene =>
    rw [Settings.render, Settings.render, Lucene.render_eq_map, Lucene.render_eq_map]
    refine map_toFilter_rekeyed same (fun filter => ?_) expr
    rw [Filter.map_map_of_eq (Lucene.clauseText_rekeyed same settings.lucene)]
  | range =>
    have tests (expr : Expr) :
        Range.leafText (expr.rekeyed rename) = (Range.leafText expr).map id := by
      rw [Range.leafText_rekeyed same, Except.map_id, id]
    rw [Settings.render, Settings.render, Range.render_eq_map, Range.render_eq_map,
      toFilter_rekeyed rename tests]
    cases expr.toFilter Range.leafText with
    | error => rfl
    | ok filter => simp only [Except.map, Filter.map_id]
  | sql =>
    rw [Settings.render, Settings.render, Sql.render_eq_map, Sql.render_eq_map]
    refine map_toFilter_rekeyed same (fun filter => ?_) expr
    rw [Sql.compile_rekeyed same, Prod.map_fst, Sql.selectText_rekeyed same]

end PortableFilter
