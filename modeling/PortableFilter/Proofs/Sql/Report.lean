import PortableFilter.Proofs.Expr.Address
import PortableFilter.Proofs.Sql.Folding

/-! # What the report of folding says

A disjunction can be folded if all its alternatives are equalities of one field with values other
than null under one cast, and if there are enough of them (`Expr.IsChoice`). Folding starts at the
root and does not go into what it has folded, so the report of a tree consists of the topmost
disjunctions that can be folded, from left to right (`Sql.lists_compile`). A choice has more
alternatives than any choice within it. So a greater limit takes entries away from the report and
never adds any (`Sql.report_of_le`). -/

namespace PortableFilter

mutual

/-- What "or" joins in a tree, from left to right, whether it stands in groups or not. -/
def Expr.alternatives : Expr → List Expr
  | .binary (.join .or) left right => left.alternatives ++ right.alternatives
  | expr => [expr]

def Operand.alternatives : Operand → List Expr
  | .expr content | .group content => content.alternatives
  | .key _ | .value _ => []

end

/-- An operand has the alternatives of its content. -/
theorem Operand.alternatives_of_content {operand : Operand} {content : Expr}
    (inside : operand.content? = some content) : operand.alternatives = content.alternatives := by
  cases operand with
  | key | value => cases inside
  | expr | group =>
    cases inside
    rfl

/-- A node is a disjunction of equalities with values other than null, all of them of one field and
under one cast. The fold holds the field and the number of the equalities. -/
structure Expr.IsChoice (node : Expr) (fold : Sql.Fold) : Prop where
  isOr : node.kind = .join .or
  length_eq : node.alternatives.length = fold.valueCount
  equalities : ∃ cast, ∀ alternative ∈ node.alternatives, ∃ key value,
    alternative = .equalTo key value ∧ value ≠ .null ∧ key.unquoted = fold.key ∧
      Sql.Cast.ofScalar? value = cast

namespace Sql

/-- At an address there is a choice with enough alternatives to be folded. -/
def CanFoldAt (limit : Nat) (expr : Expr) (address : Address) (fold : Fold) : Prop :=
  ∃ node, expr.at? address = some node ∧ node.IsChoice fold ∧ max limit 2 ≤ fold.valueCount

/-- At an address there is a choice with enough alternatives, and there is none above it. -/
def FoldsAt (limit : Nat) (expr : Expr) (address : Address) (fold : Fold) : Prop :=
  CanFoldAt limit expr address fold ∧
    ∀ above other, above <+: address → above ≠ address → ¬ CanFoldAt limit expr above other

/-- The folds are exactly those that are at an address, from left to right. -/
def Lists (isAt : Address → Fold → Prop) (folds : List Fold) : Prop :=
  ∃ entries : List (Address × Fold), entries.map Prod.snd = folds ∧
    (entries.map Prod.fst).Pairwise (· < ·) ∧
    ∀ address fold, (address, fold) ∈ entries ↔ isAt address fold

/-! ## What is folded -/

section

variable {expr : Expr} {filter : Filter Leaf} {pairs : List (Key × Scalar)}

/-- All alternatives of a tree are equalities of fields with values other than null. -/
def Equalities (expr : Expr) (pairs : List (Key × Scalar)) : Prop :=
  expr.alternatives = pairs.map (fun pair => .equalTo pair.1 pair.2) ∧
    ∀ pair ∈ pairs, pair.2 ≠ .null

/-- A node that "or" does not join is an equality with a value, or not all alternatives are. -/
theorem not_equalities (alone : expr.alternatives = [expr])
    (noEquality : ∀ key value, expr = .equalTo key value → value = .null) :
    ¬ Equalities expr pairs := by
  rintro ⟨spelled, nonnull⟩
  rw [alone, eq_comm, List.map_eq_singleton_iff] at spelled
  obtain ⟨pair, rfl, isPair⟩ := spelled
  exact nonnull pair (List.mem_singleton_self pair) (noEquality _ _ isPair.symm)

/-- A single test is an equality exactly if its node is. -/
theorem equalities?_leaf_iff (leaf : Leaf) :
    equalities? (.leaf leaf) = some pairs ↔ Equalities leaf.expr pairs := by
  match leaf with
  | .compare .eq key value =>
    by_cases isNull : value = .null
    · rw [equalities?, if_pos isNull]
      refine iff_of_false (Option.some_ne_none pairs).symm (not_equalities rfl ?_)
      intro other otherValue same
      cases same
      exact isNull
    · rw [equalities?, if_neg isNull, Option.some.injEq]
      constructor
      · rintro rfl
        exact ⟨rfl, fun pair member => List.mem_singleton.mp member ▸ isNull⟩
      · rintro ⟨spelled, -⟩
        obtain ⟨pair, rfl, isPair⟩ := List.map_eq_singleton_iff.mp spelled.symm
        cases isPair
        rfl
  | .compare .ne _ _ | .compare .gt _ _ | .compare .gte _ _ | .compare .lt _ _
  | .compare .lte _ _ | .member _ _ _ | .absent _ _ =>
    refine iff_of_false (Option.some_ne_none pairs).symm (not_equalities rfl ?_)
    intro other value same
    cases same

theorem equalities?_enclose (operand : Operand) (filter : Filter Leaf) :
    equalities? (operand.enclose filter) = equalities? filter := by
  cases operand with
  | key | value | expr => rfl
  | group => rw [Operand.enclose, equalities?]

/-- A filter consists of equalities exactly if all alternatives of its tree are equalities. -/
theorem equalities?_eq_some_iff (checks : expr.ChecksAs Expr.leaf filter) :
    equalities? filter = some pairs ↔ Equalities expr pairs := by
  induction checks generalizing pairs with
  | test _ passes =>
    obtain ⟨rfl, -⟩ := Expr.leaf_eq_ok_iff.mp passes
    exact equalities?_leaf_iff _
  | not inside _ _ =>
    refine iff_of_false (Option.some_ne_none pairs).symm (not_equalities rfl ?_)
    intro key value same
    cases same
  | @join connective left right first second leftFilter rightFilter inLeft inRight _ _ ihLeft
      ihRight =>
    cases connective with
    | and =>
      refine iff_of_false (Option.some_ne_none pairs).symm (not_equalities rfl ?_)
      intro key value same
      cases same
    | or =>
      have spelled : (Expr.binary (.join .or) left right).alternatives =
          first.alternatives ++ second.alternatives := by
        rw [Expr.alternatives, left.alternatives_of_content inLeft,
          right.alternatives_of_content inRight]
      rw [equalities?, equalities?_enclose, equalities?_enclose]
      constructor
      · intro found
        obtain ⟨leftPairs, foundLeft, found⟩ := Option.bind_eq_some_iff.mp found
        obtain ⟨rightPairs, foundRight, found⟩ := Option.bind_eq_some_iff.mp found
        cases found
        obtain ⟨leftSpelled, leftNonnull⟩ := ihLeft.mp foundLeft
        obtain ⟨rightSpelled, rightNonnull⟩ := ihRight.mp foundRight
        refine ⟨?_, List.forall_mem_append.mpr ⟨leftNonnull, rightNonnull⟩⟩
        rw [spelled, leftSpelled, rightSpelled, List.map_append]
      · rintro ⟨joined, nonnull⟩
        rw [spelled, eq_comm, List.map_eq_append_iff] at joined
        obtain ⟨leftPairs, rightPairs, rfl, leftSpelled, rightSpelled⟩ := joined
        obtain ⟨leftNonnull, rightNonnull⟩ := List.forall_mem_append.mp nonnull
        rw [ihLeft.mpr ⟨leftSpelled.symm, leftNonnull⟩,
          ihRight.mpr ⟨rightSpelled.symm, rightNonnull⟩]
        rfl

end

/-- What is said of all alternatives, which are equalities, is said of their fields and values. -/
theorem exists_pairs {p : Key → Scalar → Prop} {alternatives : List Expr}
    (each : ∀ alternative ∈ alternatives, ∃ key value,
      alternative = .equalTo key value ∧ p key value) :
    ∃ pairs : List (Key × Scalar),
      alternatives = pairs.map (fun pair => .equalTo pair.1 pair.2) ∧
        ∀ pair ∈ pairs, p pair.1 pair.2 := by
  induction alternatives with
  | nil => exact ⟨[], rfl, by simp⟩
  | cons alternative alternatives ih =>
    obtain ⟨⟨key, value, rfl, here⟩, later⟩ := List.forall_mem_cons.mp each
    obtain ⟨pairs, rfl, others⟩ := ih later
    exact ⟨(key, value) :: pairs, rfl, List.forall_mem_cons.mpr ⟨here, others⟩⟩

/-- What a filter folds into, whatever the limit is: the filter consists of equalities of one field
under one cast. -/
def FoldsInto (filter : Filter Leaf) (result : Condition × Fold) : Prop :=
  ∃ key value others, equalities? filter = some ((key, value) :: others) ∧
    (∀ pair ∈ (key, value) :: others, pair.1.unquoted = key.unquoted) ∧
    (∀ pair ∈ (key, value) :: others, Cast.ofScalar? pair.2 = Cast.ofScalar? value) ∧
    result = (.member false ⟨key, Cast.ofScalar? value⟩ (((key, value) :: others).map Prod.snd),
      ⟨key.unquoted, ((key, value) :: others).length⟩)

/-- The limit decides only whether there are enough alternatives. -/
theorem fold?_eq_some_iff {limit : Nat} {filter : Filter Leaf} {result : Condition × Fold} :
    fold? limit filter = some result ↔
      FoldsInto filter result ∧ max limit 2 ≤ result.2.valueCount := by
  constructor
  · intro folded
    unfold fold? at folded
    split at folded
    · rename_i key value others found
      dsimp only at folded
      split at folded
      · rename_i suits
        obtain ⟨enough, oneField, oneCast⟩ := suits
        cases folded
        exact ⟨⟨key, value, others, found,
          fun pair member => of_decide_eq_true (List.all_eq_true.mp oneField pair member),
          fun pair member => of_decide_eq_true (List.all_eq_true.mp oneCast pair member), rfl⟩,
          enough⟩
      · cases folded
    · cases folded
  · rintro ⟨⟨key, value, others, found, oneField, oneCast, rfl⟩, enough⟩
    rw [fold?, found]
    refine if_pos ⟨enough, List.all_eq_true.mpr fun pair member => ?_,
      List.all_eq_true.mpr fun pair member => ?_⟩
    · exact decide_eq_true (oneField pair member)
    · exact decide_eq_true (oneCast pair member)

/-- A disjunction is folded exactly if it is a choice with enough alternatives, and what is
reported is its field and their number. -/
theorem exists_fold?_iff {limit : Nat} {expr : Expr} {filter : Filter Leaf} {fold : Fold}
    (checks : expr.ChecksAs Expr.leaf filter) (isOr : expr.kind = .join .or) :
    (∃ condition, fold? limit filter = some (condition, fold)) ↔
      CanFoldAt limit expr [] fold := by
  constructor
  · rintro ⟨condition, folded⟩
    obtain ⟨⟨key, value, others, found, oneField, oneCast, isResult⟩, enough⟩ :=
      fold?_eq_some_iff.mp folded
    cases isResult
    obtain ⟨spelled, nonnull⟩ := (equalities?_eq_some_iff checks).mp found
    refine ⟨expr, rfl, ⟨isOr, by rw [spelled, List.length_map], Cast.ofScalar? value, ?_⟩, enough⟩
    intro alternative member
    rw [spelled] at member
    obtain ⟨pair, isPair, rfl⟩ := List.mem_map.mp member
    exact ⟨pair.1, pair.2, rfl, nonnull pair isPair, oneField pair isPair, oneCast pair isPair⟩
  · rintro ⟨node, here, choice, enough⟩
    cases here
    obtain ⟨cast, each⟩ := choice.equalities
    obtain ⟨pairs, spelled, suit⟩ := exists_pairs each
    have found := (equalities?_eq_some_iff checks).mpr ⟨spelled, fun pair member =>
      (suit pair member).1⟩
    have counted : pairs.length = fold.valueCount := by
      rw [← choice.length_eq, spelled, List.length_map]
    cases pairs with
    | nil =>
      rw [List.length_nil] at counted
      omega
    | cons pair others =>
      obtain ⟨key, value⟩ := pair
      obtain ⟨-, ofField, ofCast⟩ := suit (key, value) List.mem_cons_self
      refine ⟨_, fold?_eq_some_iff.mpr ⟨⟨key, value, others, found, fun pair member => ?_,
        fun pair member => ?_, by rw [counted, ofField]⟩, enough⟩⟩
      · exact (suit pair member).2.1.trans ofField.symm
      · exact (suit pair member).2.2.trans ofCast.symm

/-! ## Where something is folded -/

section

variable {limit : Nat} {expr : Expr} {address : Address} {fold : Fold}

/-- A fold below a node is a fold in one of its children. -/
theorem canFoldAt_cons {side : Side} :
    CanFoldAt limit expr (side :: address) fold ↔
      ∃ child, expr.child? side = some child ∧ CanFoldAt limit child address fold := by
  constructor
  · rintro ⟨node, found, choice⟩
    obtain ⟨child, isChild, found⟩ := Option.bind_eq_some_iff.mp found
    exact ⟨child, isChild, node, found, choice⟩
  · rintro ⟨child, isChild, node, found, choice⟩
    exact ⟨node, Option.bind_eq_some_iff.mpr ⟨child, isChild, found⟩, choice⟩

/-- If the whole tree can be folded, nothing else in it is. -/
theorem foldsAt_iff_of_root {other : Fold} (root : CanFoldAt limit expr [] other) :
    FoldsAt limit expr address fold ↔ address = [] ∧ CanFoldAt limit expr [] fold := by
  constructor
  · rintro ⟨can, topmost⟩
    cases address with
    | nil => exact ⟨rfl, can⟩
    | cons side rest => exact absurd root (topmost [] other (List.nil_prefix) (by simp))
  · rintro ⟨rfl, can⟩
    exact ⟨can, fun above _ isPrefix differs => absurd (List.prefix_nil.mp isPrefix) differs⟩

/-- Something is folded below an operand of a node. -/
def FoldsBelow (limit : Nat) (expr : Expr) (side : Side) (address : Address) (fold : Fold) : Prop :=
  ∃ child, expr.child? side = some child ∧ FoldsAt limit child address fold

/-- If the whole tree cannot be folded, what is folded is below its operands. -/
theorem foldsAt_iff_of_not_root (whole : ∀ other, ¬ CanFoldAt limit expr [] other) :
    FoldsAt limit expr address fold ↔
      ∃ side rest, address = side :: rest ∧ FoldsBelow limit expr side rest fold := by
  constructor
  · rintro ⟨can, topmost⟩
    cases address with
    | nil => exact absurd can (whole fold)
    | cons side rest =>
      obtain ⟨child, isChild, canChild⟩ := canFoldAt_cons.mp can
      refine ⟨side, rest, rfl, child, isChild, canChild, ?_⟩
      intro above other isPrefix differs canAbove
      exact topmost (side :: above) other (List.cons_prefix_cons.mpr ⟨rfl, isPrefix⟩)
        (fun same => differs (List.cons.inj same).2) (canFoldAt_cons.mpr ⟨child, isChild, canAbove⟩)
  · rintro ⟨side, rest, rfl, child, isChild, canChild, topmost⟩
    refine ⟨canFoldAt_cons.mpr ⟨child, isChild, canChild⟩, ?_⟩
    intro above other isPrefix differs can
    cases above with
    | nil => exact whole other can
    | cons turn above =>
      obtain ⟨rfl, isShorter⟩ := List.cons_prefix_cons.mp isPrefix
      obtain ⟨_, isOther, canOther⟩ := canFoldAt_cons.mp can
      cases isChild.symm.trans isOther
      exact topmost above other isShorter (fun same => differs (congrArg _ same)) canOther

end

/-! ## The report of a tree -/

section

variable {limit : Nat} {expr : Expr} {folds : List Fold}

/-- Addresses below one node are ordered as the addresses in its child. -/
theorem cons_lt_cons_of_lt (side : Side) {first second : Address} (before : first < second) :
    side :: first < side :: second :=
  List.cons_lt_cons_iff.mpr (.inr ⟨rfl, before⟩)

/-- The folds below the left operand come before those below the right one. -/
theorem lists_foldsAt_append {more : List Fold} (whole : ∀ fold, ¬ CanFoldAt limit expr [] fold)
    (onLeft : Lists (FoldsBelow limit expr .left) folds)
    (onRight : Lists (FoldsBelow limit expr .right) more) :
    Lists (FoldsAt limit expr) (folds ++ more) := by
  obtain ⟨leftEntries, rfl, leftOrdered, leftExact⟩ := onLeft
  obtain ⟨rightEntries, rfl, rightOrdered, rightExact⟩ := onRight
  let atLeft := leftEntries.map fun entry => (Side.left :: entry.1, entry.2)
  let atRight := rightEntries.map fun entry => (Side.right :: entry.1, entry.2)
  refine ⟨atLeft ++ atRight, ?_, ?_, fun address fold => ?_⟩
  · simp [atLeft, atRight, Function.comp_def]
  · have addresses : (atLeft ++ atRight).map Prod.fst =
        (leftEntries.map Prod.fst).map (Side.left :: ·) ++
          (rightEntries.map Prod.fst).map (Side.right :: ·) := by
      simp [atLeft, atRight, Function.comp_def]
    rw [addresses, List.pairwise_append]
    refine ⟨List.pairwise_map.mpr (leftOrdered.imp (cons_lt_cons_of_lt _)),
      List.pairwise_map.mpr (rightOrdered.imp (cons_lt_cons_of_lt _)), ?_⟩
    intro first isFirst second isSecond
    obtain ⟨_, -, rfl⟩ := List.mem_map.mp isFirst
    obtain ⟨_, -, rfl⟩ := List.mem_map.mp isSecond
    exact List.cons_lt_cons_iff.mpr (.inl ⟨rfl, rfl⟩)
  · rw [foldsAt_iff_of_not_root whole, List.mem_append, List.mem_map, List.mem_map]
    constructor
    · rintro (⟨entry, member, same⟩ | ⟨entry, member, same⟩)
      · cases same
        exact ⟨.left, entry.1, rfl, (leftExact _ _).mp member⟩
      · cases same
        exact ⟨.right, entry.1, rfl, (rightExact _ _).mp member⟩
    · rintro ⟨side, rest, rfl, below⟩
      cases side with
      | left => exact .inl ⟨(rest, fold), (leftExact _ _).mpr below, rfl⟩
      | right => exact .inr ⟨(rest, fold), (rightExact _ _).mpr below, rfl⟩

/-- The report of a child lists the folds on its side. -/
theorem lists_foldsBelow {side : Side} {child : Expr} (isChild : expr.child? side = some child)
    (reports : Lists (FoldsAt limit child) folds) : Lists (FoldsBelow limit expr side) folds := by
  obtain ⟨entries, isFolds, ordered, isExact⟩ := reports
  refine ⟨entries, isFolds, ordered, fun address fold => (isExact address fold).trans ?_⟩
  constructor
  · exact fun folds => ⟨child, isChild, folds⟩
  · rintro ⟨_, isOther, folds⟩
    cases isChild.symm.trans isOther
    exact folds

/-- There are no folds on a side without a child. -/
theorem lists_foldsBelow_nil {side : Side} (noChild : expr.child? side = none) :
    Lists (FoldsBelow limit expr side) [] := by
  refine ⟨[], rfl, .nil, fun address fold => iff_of_false List.not_mem_nil ?_⟩
  rintro ⟨_, isChild, -⟩
  cases noChild.symm.trans isChild

/-- Only a disjunction can be folded. -/
theorem not_canFoldAt_root (noOr : expr.kind ≠ .join .or) (fold : Fold) :
    ¬ CanFoldAt limit expr [] fold := by
  rintro ⟨_, here, choice, -⟩
  cases here
  exact noOr choice.isOr

/-- A group is compiled as its content is. -/
theorem compile_enclose (limit : Nat) (operand : Operand) (filter : Filter Leaf) :
    compile limit (operand.enclose filter) = compile limit filter := by
  cases operand with
  | key | value | expr => rfl
  | group => rw [Operand.enclose, compile]

/-- The report of a disjunction is one entry if it is folded, else the reports of its operands. -/
theorem compile_or_snd (limit : Nat) (left right : Filter Leaf) :
    (compile limit (.join .or left right)).2 =
      (fold? limit (.join .or left right)).elim
        ((compile limit left).2 ++ (compile limit right).2) fun result => [result.2] := by
  rw [compile]
  cases fold? limit (.join .or left right) <;> rfl

/-- The report of a tree lists the topmost choices with enough alternatives. -/
theorem lists_compile (limit : Nat) {expr : Expr} {filter : Filter Leaf}
    (checks : expr.ChecksAs Expr.leaf filter) :
    Lists (FoldsAt limit expr) (compile limit filter).2 := by
  induction checks with
  | @test expr leaf isTest passes =>
    obtain ⟨rfl, -⟩ := Expr.leaf_eq_ok_iff.mp passes
    have noOr : leaf.expr.kind ≠ .join .or := by
      intro isOr
      rw [isOr] at isTest
      cases isTest
    exact lists_foldsAt_append (not_canFoldAt_root noOr)
      (lists_foldsBelow_nil (Expr.child?_expr leaf .left))
      (lists_foldsBelow_nil (Expr.child?_expr leaf .right))
  | @not operand content filter inside _ ih =>
    have noOr : (Expr.unary .not operand).kind ≠ .join .or := by
      intro isOr
      cases isOr
    rw [compile, compile_enclose, ← List.append_nil (compile limit filter).2]
    exact lists_foldsAt_append (not_canFoldAt_root noOr) (lists_foldsBelow inside ih)
      (lists_foldsBelow_nil rfl)
  | @join connective left right first second leftFilter rightFilter inLeft inRight checksLeft
      checksRight ihLeft ihRight =>
    let tree := Expr.binary (.join connective) left right
    -- Unless the whole tree is folded, the reports of the operands are put together.
    have unfolded : (∀ fold, ¬ CanFoldAt limit tree [] fold) →
        Lists (FoldsAt limit tree) ((compile limit (left.enclose leftFilter)).2 ++
          (compile limit (right.enclose rightFilter)).2) := by
      intro whole
      rw [compile_enclose, compile_enclose]
      exact lists_foldsAt_append whole (lists_foldsBelow inLeft ihLeft)
        (lists_foldsBelow inRight ihRight)
    cases connective with
    | and =>
      refine unfolded (not_canFoldAt_root fun isOr => ?_)
      cases isOr
    | or =>
      have checks : tree.ChecksAs Expr.leaf _ := .join inLeft inRight checksLeft checksRight
      cases folded : fold? limit (.join .or (left.enclose leftFilter)
          (right.enclose rightFilter)) with
      | none =>
        rw [compile_or_snd, folded]
        refine unfolded fun fold can => ?_
        obtain ⟨_, isFold⟩ := (exists_fold?_iff checks rfl).mpr can
        cases folded.symm.trans isFold
      | some result =>
        obtain ⟨condition, fold⟩ := result
        rw [compile_or_snd, folded]
        have root := (exists_fold?_iff checks rfl).mp ⟨condition, folded⟩
        refine ⟨[([], fold)], rfl, List.pairwise_singleton _ _, fun address other => ?_⟩
        rw [foldsAt_iff_of_root root, List.mem_singleton, Prod.mk.injEq]
        refine and_congr_right fun _ => ⟨fun same => same ▸ root, fun can => ?_⟩
        obtain ⟨_, isOther⟩ := (exists_fold?_iff checks rfl).mpr can
        cases folded.symm.trans isOther
        rfl

end

/-! ## Reports under other limits -/

section

variable {limit greater : Nat} {filter : Filter Leaf}

/-- There is one equality for each test. -/
theorem length_of_equalities? {pairs : List (Key × Scalar)}
    (found : equalities? filter = some pairs) : pairs.length = filter.tests.length := by
  fun_induction equalities? filter generalizing pairs with
  | case1 => cases found
  | case2 =>
    cases found
    rfl
  | case3 left right ihLeft ihRight =>
    obtain ⟨leftPairs, foundLeft, found⟩ := Option.bind_eq_some_iff.mp found
    obtain ⟨rightPairs, foundRight, found⟩ := Option.bind_eq_some_iff.mp found
    cases found
    rw [List.length_append, ihLeft foundLeft, ihRight foundRight, Filter.tests, List.length_append]
  | case4 content ih => exact ih found
  | case5 => cases found

/-- A greater limit leaves those folds that have enough alternatives for it. -/
theorem fold?_of_le (le : limit ≤ greater) (filter : Filter Leaf) :
    fold? greater filter =
      (fold? limit filter).filter fun result => max greater 2 ≤ result.2.valueCount := by
  refine Option.ext fun result => ?_
  rw [Option.filter_eq_some_iff, fold?_eq_some_iff, fold?_eq_some_iff, decide_eq_true_iff]
  constructor
  · rintro ⟨folds, enough⟩
    exact ⟨⟨folds, by omega⟩, enough⟩
  · rintro ⟨⟨folds, -⟩, enough⟩
    exact ⟨folds, enough⟩

/-- What is folded as a whole has all its tests counted, and enough of them. -/
theorem valueCount_of_fold? {condition : Condition} {fold : Fold}
    (folded : fold? limit filter = some (condition, fold)) :
    fold.valueCount = filter.tests.length ∧ max limit 2 ≤ fold.valueCount := by
  obtain ⟨⟨key, value, others, found, -, -, isResult⟩, enough⟩ := fold?_eq_some_iff.mp folded
  cases isResult
  exact ⟨length_of_equalities? found, enough⟩

/-- A fold counts enough tests, and no more than there are. -/
theorem valueCount_of_mem_compile {fold : Fold} (member : fold ∈ (compile limit filter).2) :
    max limit 2 ≤ fold.valueCount ∧ fold.valueCount ≤ filter.tests.length := by
  induction filter with
  | leaf test => cases member
  | not operand ih => exact ih member
  | group content ih => exact ih member
  | join connective left right ihLeft ihRight =>
    have unfolded : fold ∈ (compile limit left).2 ++ (compile limit right).2 →
        max limit 2 ≤ fold.valueCount ∧
          fold.valueCount ≤ (Filter.join connective left right).tests.length := by
      intro isBelow
      rw [Filter.tests, List.length_append]
      rcases List.mem_append.mp isBelow with onLeft | onRight
      · obtain ⟨enough, few⟩ := ihLeft onLeft
        exact ⟨enough, by omega⟩
      · obtain ⟨enough, few⟩ := ihRight onRight
        exact ⟨enough, by omega⟩
    cases connective with
    | and => exact unfolded member
    | or =>
      cases folded : fold? limit (.join .or left right) with
      | none =>
        rw [compile_or_snd, folded] at member
        exact unfolded member
      | some result =>
        rw [compile_or_snd, folded] at member
        cases List.mem_singleton.mp member
        obtain ⟨counted, enough⟩ := valueCount_of_fold? folded
        exact ⟨enough, Nat.le_of_eq counted⟩

/-- Where a limit asks for more tests than there are, nothing is folded. -/
theorem compile_snd_eq_nil (few : filter.tests.length < max limit 2) :
    (compile limit filter).2 = [] := by
  refine List.eq_nil_iff_forall_not_mem.mpr fun fold member => ?_
  obtain ⟨enough, counted⟩ := valueCount_of_mem_compile member
  omega

/-- Under a greater limit the report keeps the entries with enough alternatives for it. -/
theorem report_of_le (le : limit ≤ greater) (filter : Filter Leaf) :
    (compile greater filter).2 =
      (compile limit filter).2.filter fun fold => max greater 2 ≤ fold.valueCount := by
  induction filter with
  | leaf test => rfl
  | not operand ih => exact ih
  | group content ih => exact ih
  | join connective left right ihLeft ihRight =>
    have unfolded : (compile greater left).2 ++ (compile greater right).2 =
        ((compile limit left).2 ++ (compile limit right).2).filter
          fun fold => max greater 2 ≤ fold.valueCount := by
      rw [ihLeft, ihRight, List.filter_append]
    cases connective with
    | and => exact unfolded
    | or =>
      rw [compile_or_snd, compile_or_snd, fold?_of_le le]
      cases folded : fold? limit (.join .or left right) with
      | none => exact unfolded
      | some result =>
        rw [Option.filter_some, Option.elim_some, List.filter_cons, List.filter_nil]
        by_cases enough : max greater 2 ≤ result.2.valueCount
        · rw [if_pos (decide_eq_true enough), if_pos (decide_eq_true enough), Option.elim_some]
        · -- What is within the choice has fewer tests still.
          have counted := (valueCount_of_fold? folded).1
          rw [Filter.tests, List.length_append] at counted
          have noLeft : (compile greater left).2 = [] := compile_snd_eq_nil (by omega)
          have noRight : (compile greater right).2 = [] := compile_snd_eq_nil (by omega)
          rw [if_neg (mt of_decide_eq_true enough), if_neg (mt of_decide_eq_true enough),
            Option.elim_none, noLeft, noRight, List.append_nil]

end

/-- Every well-shaped tree is compiled. The report lists the topmost disjunctions of at least two
equalities, and of as many as the limit asks for, each with its field and the number of its
equalities. Under a greater limit the report is what is left of it. -/
theorem compileExpr_report (settings : SqlSettings) {expr : Expr} (shaped : expr.wellShaped) :
    ∃ text folds, compileExpr settings expr = .ok (text, folds) ∧
      Lists (FoldsAt settings.foldLimit expr) folds ∧
      ∀ limit, settings.foldLimit ≤ limit → ∃ other,
        compileExpr { settings with foldLimit := limit } expr =
          .ok (other, folds.filter fun fold => max limit 2 ≤ fold.valueCount) := by
  obtain ⟨filter, checked⟩ :=
    (Expr.exists_toFilter_iff_shaped expr).mpr (expr.shaped_of_wellShaped shaped)
  refine ⟨_, _, (compileExpr_eq_map _ _).trans (congrArg (Except.map _) checked),
    lists_compile settings.foldLimit (Expr.toFilter_eq_ok_iff.mp checked), fun limit le => ?_⟩
  refine ⟨selectText { settings with foldLimit := limit } (compile limit filter).1, ?_⟩
  rw [compileExpr_eq_map, checked, ← report_of_le le filter]
  rfl

/-- Two choices, one of them in groups and with a quoted key, the other within a disjunction of two
fields below a negation. Both are reported, and under a limit of three only the first is. -/
theorem compileExpr_report_nested : ∃ expr : Expr, expr.wellShaped ∧
    Lists (FoldsAt 2 expr) [⟨"a", 3⟩, ⟨"b", 2⟩] ∧
    (∃ text, compileExpr { foldLimit := 2 } expr = .ok (text, [⟨"a", 3⟩, ⟨"b", 2⟩])) ∧
    ∃ text, compileExpr { foldLimit := 3 } expr = .ok (text, [⟨"a", 3⟩]) := by
  let first := Expr.join .or
    (.group (.join .or (.expr (.equalTo ⟨"a"⟩ (.int 1))) (.group (.equalTo ⟨"'a'"⟩ (.int 2)))))
    (.expr (.equalTo ⟨"a"⟩ (.int 3)))
  let second := Expr.join .or
    (.expr (.join .or (.expr (.equalTo ⟨"b"⟩ (.text "x"))) (.expr (.equalTo ⟨"b"⟩ (.text "y")))))
    (.expr (.equalTo ⟨"c"⟩ (.text "z")))
  let expr := Expr.join .and (.group first) (.expr (.not (.group second)))
  have shaped : expr.wellShaped := by decide
  obtain ⟨text, folds, compiled, reported, greater⟩ := compileExpr_report { foldLimit := 2 } shaped
  have entries : (compileExpr { foldLimit := 2 } expr).map Prod.snd =
      .ok [⟨"a", 3⟩, ⟨"b", 2⟩] := by
    rw [compileExpr_eq_map]
    rfl
  rw [compiled] at entries
  cases entries
  exact ⟨expr, shaped, reported, ⟨text, compiled⟩, greater 3 (by decide)⟩

end Sql

end PortableFilter
