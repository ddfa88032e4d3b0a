import PortableFilter.Proofs.Precedence.Reading

/-! # Which filters are read as they were written

A filter is written with no parentheses but those of its groups, so what is read need not mean what
the filter did. `Filter.faithful` tells from the form of a filter whether it does. What is read from
a faithful form has the truth value of the filter whatever its tests are
(`value_behind_of_faithful`), and every other form has tests for which it has not
(`fails_of_unfaithful`). -/

namespace PortableFilter

namespace Filter

variable {α β : Type}

/-- The structure of a filter without its tests. -/
def form : Filter α → Filter Unit := map fun _ => ()

/-- Whether no "or" stands outside the groups of a filter. -/
def single : Filter α → Bool
  | leaf _ | group _ => true
  | join .and left right => left.single && right.single
  | join .or _ _ => false
  | not operand => operand.single

/-- Whether a filter keeps its meaning when it is written without further parentheses behind a
number of negations, of which `odd` tells the parity. A negation that stands directly before a
connective reaches its first operand only, so there has to be an even number of them, and an
operand of "and" falls apart at an "or" outside of groups. -/
def faithful (odd : Bool) : Filter α → Bool
  | leaf _ => true
  | join .and left right =>
    !odd && (left.single && right.single) && (left.faithful false && right.faithful false)
  | join .or left right => !odd && (left.faithful false && right.faithful false)
  | not operand => operand.faithful (!odd)
  | group content => content.faithful false

/-- Whether a filter has an "or" outside of groups does not depend on its tests. -/
theorem single_map (f : α → β) (filter : Filter α) : (filter.map f).single = filter.single := by
  induction filter with
  | leaf | group => rfl
  | join connective left right ihLeft ihRight =>
    cases connective with
    | and => rw [map, single, ihLeft, ihRight, single]
    | or => rfl
  | not operand ih => exact ih

/-- Whether a form is faithful does not depend on the tests. -/
theorem faithful_map (f : α → β) (odd : Bool) (filter : Filter α) :
    (filter.map f).faithful odd = filter.faithful odd := by
  induction filter generalizing odd with
  | leaf => rfl
  | join connective left right ihLeft ihRight =>
    cases connective with
    | and => rw [map, faithful, single_map, single_map, ihLeft, ihRight, faithful]
    | or => rw [map, faithful, ihLeft, ihRight, faithful]
  | not operand ih => exact ih (!odd)
  | group content ih => exact ih false

end Filter

namespace Precedence

/-! ## Negations before alternatives -/

/-- The truth values of the operands of a filter as it is read behind a number of negations, of
which `odd` tells the parity. -/
def behind (odd : Bool) (filter : Filter Bool) : Chain (Chain Bool) :=
  modifyFirst (odd != ·) (flat filter)

/-- Alternatives with one operand. -/
def one (literal : Bool) : Chain (Chain Bool) := ⟨⟨literal, []⟩, []⟩

theorem behind_false (filter : Filter Bool) : behind false filter = flat filter := by
  simp [behind, modifyFirst]

/-- A negation before a filter counts as one more negation. -/
theorem behind_not (odd : Bool) (operand : Filter Bool) :
    behind odd (.not operand) = behind (!odd) operand := by
  simp [behind, flat, alternatives, modifyFirst]

/-- A group behind negations is one operand. -/
theorem behind_group (odd : Bool) (content : Filter Bool) :
    behind odd (.group content) = one (odd != value (flat content)) := rfl

/-- What comes before two linked rows concerns the first of them. -/
theorem modifyFirst_link {β : Type} (f : β → β) (connective : Connective)
    (left right : Chain (Chain β)) :
    modifyFirst f (link connective left right) = link connective (modifyFirst f left) right := by
  obtain ⟨first, more⟩ := left
  cases connective with
  | or => rfl
  | and =>
    cases more with
    | nil => rfl
    | cons next more => rfl

/-- Negations before two joined filters stand before the left one. -/
theorem behind_join (odd : Bool) (connective : Connective) (left right : Filter Bool) :
    behind odd (.join connective left right) =
      link connective (behind odd left) (behind false right) := by
  rw [behind, flat, alternatives, ← flat, modifyFirst_link, behind_false]
  rfl

/-! ## The value of joined alternatives -/

theorem value_one (literal : Bool) : value (one literal) = literal := by
  simp [value, one, Chain.toList]

/-- One row of alternatives behind another holds if either of them does. -/
theorem value_append (left right : Chain (Chain Bool)) :
    value (left.append right) = (value left || value right) := by
  simp [value, Chain.append, Chain.toList, Bool.or_assoc]

/-- Two alternatives with "and" between them are one. -/
theorem value_meet {left right : Chain (Chain Bool)} (leftSingle : left.more = [])
    (rightSingle : right.more = []) : value (meet left right) = (value left && value right) := by
  obtain ⟨first, more⟩ := left
  obtain ⟨second, later⟩ := right
  cases leftSingle
  cases rightSingle
  simp [meet_one, value, Chain.append, Chain.toList, Bool.and_assoc]

/-- Two rows with "and" between them are one alternative exactly if both are. -/
theorem more_meet_eq_nil_iff (left right : Chain (Chain Bool)) :
    (meet left right).more = [] ↔ left.more = [] ∧ right.more = [] := by
  obtain ⟨first, more⟩ := left
  cases more with
  | nil => simp [meet_one]
  | cons next more => simp [meet_cons, Chain.toList]

/-- A filter without "or" outside of groups is read as one alternative, and no other filter is. -/
theorem more_behind_eq_nil_iff (odd : Bool) (filter : Filter Bool) :
    (behind odd filter).more = [] ↔ filter.single = true := by
  induction filter generalizing odd with
  | leaf | group => exact iff_of_true rfl rfl
  | join connective left right ihLeft ihRight =>
    rw [behind_join]
    cases connective with
    | and => rw [link, more_meet_eq_nil_iff, ihLeft, ihRight, Filter.single, Bool.and_eq_true]
    | or => simp [link, Chain.append, Chain.toList, Filter.single]
  | not operand ih =>
    rw [behind_not, ih, Filter.single]

/-- What is read from a faithful filter has the truth value of the filter. -/
theorem value_behind_of_faithful {odd : Bool} {filter : Filter Bool}
    (faithful : filter.faithful odd) : value (behind odd filter) = (odd != filter.holds id) := by
  induction filter generalizing odd with
  | leaf truth => exact value_one _
  | join connective left right ihLeft ihRight =>
    rw [behind_join]
    cases connective with
    | and =>
      simp only [Filter.faithful, Bool.and_eq_true, Bool.not_eq_true'] at faithful
      obtain ⟨⟨rfl, leftSingle, rightSingle⟩, leftFaithful, rightFaithful⟩ := faithful
      have joined := value_meet ((more_behind_eq_nil_iff false left).mpr leftSingle)
        ((more_behind_eq_nil_iff false right).mpr rightSingle)
      rw [link, joined, ihLeft leftFaithful, ihRight rightFaithful]
      simp [Filter.holds]
    | or =>
      simp only [Filter.faithful, Bool.and_eq_true, Bool.not_eq_true'] at faithful
      obtain ⟨rfl, leftFaithful, rightFaithful⟩ := faithful
      rw [link, value_append, ihLeft leftFaithful, ihRight rightFaithful]
      simp [Filter.holds]
  | not operand ih =>
    rw [behind_not, ih faithful, Filter.holds]
    cases odd <;> cases operand.holds id <;> rfl
  | group content ih =>
    rw [behind_group, value_one, ← behind_false, ih faithful, Filter.holds, Bool.false_bne]

/-! ## Truth values of tests -/

/-- The truth value of two joined filters. -/
def combine : Connective → Bool → Bool → Bool
  | .and => Bool.and
  | .or => Bool.or

/-- The truth value that leaves the other one as it is when the two are combined. -/
def neutral : Connective → Bool
  | .and => true
  | .or => false

/-- A neutral left operand leaves the right one as it is. -/
theorem combine_neutral_left (connective : Connective) (truth : Bool) :
    combine connective (neutral connective) truth = truth := by
  cases connective <;> rfl

/-- A neutral right operand leaves the left one as it is. -/
theorem combine_neutral_right (connective : Connective) (truth : Bool) :
    combine connective truth (neutral connective) = truth := by
  cases connective <;> cases truth <;> rfl

/-- A left operand that is not neutral decides alone. -/
theorem combine_not_neutral_left (connective : Connective) (truth : Bool) :
    combine connective (!neutral connective) truth = !neutral connective := by
  cases connective <;> rfl

/-- A right operand that is not neutral decides alone. -/
theorem combine_not_neutral_right (connective : Connective) (truth : Bool) :
    combine connective truth (!neutral connective) = !neutral connective := by
  cases connective <;> cases truth <;> rfl

/-- Two joined filters have their combined truth value. -/
theorem holds_join (connective : Connective) (left right : Filter Bool) :
    (Filter.join connective left right).holds id =
      combine connective (left.holds id) (right.holds id) := by
  cases connective <;> rfl

/-- Alternatives whose operands all have one truth value have that value. -/
theorem value_eq_of_operands {literal : Bool} {alternatives : Chain (Chain Bool)}
    (same : ∀ operand ∈ operands alternatives, operand = literal) :
    value alternatives = literal := by
  have conjunctions : ∀ conjunction ∈ alternatives.toList,
      (conjunction.toList.all id) = literal := by
    intro conjunction member
    have inside : ∀ operand ∈ conjunction.toList, operand = literal := fun operand isOperand =>
      same operand (List.mem_flatMap.mpr ⟨conjunction, member, isOperand⟩)
    cases literal with
    | true => exact List.all_eq_true.mpr inside
    | false =>
      have firstFalse := inside conjunction.first List.mem_cons_self
      exact List.all_eq_false.mpr
        ⟨conjunction.first, List.mem_cons_self, Bool.eq_false_iff.mp firstFalse⟩
  cases literal with
  | true => exact List.any_eq_true.mpr ⟨_, List.mem_cons_self, conjunctions _ List.mem_cons_self⟩
  | false =>
    exact List.any_eq_false.mpr fun conjunction member =>
      Bool.eq_false_iff.mp (conjunctions conjunction member)

/-- Every form has truth values of tests for which all operands are read as the same. -/
theorem exists_operands_eq (form : Filter Unit) (odd literal : Bool) :
    ∃ filter : Filter Bool, filter.form = form ∧
      ∀ operand ∈ operands (behind odd filter), operand = literal := by
  induction form generalizing odd literal with
  | leaf =>
    refine ⟨.leaf (odd != literal), rfl, ?_⟩
    intro operand member
    rw [List.mem_singleton.mp member]
    cases odd <;> cases literal <;> rfl
  | join connective left right ihLeft ihRight =>
    obtain ⟨first, rfl, firstSame⟩ := ihLeft odd literal
    obtain ⟨second, rfl, secondSame⟩ := ihRight false literal
    refine ⟨.join connective first second, rfl, ?_⟩
    rw [behind_join, operands_link]
    exact List.forall_mem_append.mpr ⟨firstSame, secondSame⟩
  | not operand ih =>
    obtain ⟨content, rfl, same⟩ := ih (!odd) literal
    refine ⟨.not content, rfl, ?_⟩
    rwa [behind_not]
  | group content ih =>
    obtain ⟨content, rfl, same⟩ := ih false (odd != literal)
    refine ⟨.group content, rfl, ?_⟩
    intro operand member
    rw [List.mem_singleton.mp member]
    rw [behind_false] at same
    rw [behind_group, value_eq_of_operands same]
    cases odd <;> cases literal <;> rfl

/-- Making the first operand true makes no alternatives false. -/
theorem value_modifyFirst {alternatives : Chain (Chain Bool)} (extra : Bool)
    (before : value alternatives) : value (modifyFirst (· || extra) alternatives) := by
  simp only [value, modifyFirst, Chain.toList, List.any_cons, List.all_cons, id, Bool.or_eq_true,
    Bool.and_eq_true] at before ⊢
  exact before.imp_left fun all => ⟨.inl all.1, all.2⟩

/-- To make the first operand of the right row true keeps what holds. -/
theorem value_link_modifyFirst {connective : Connective} {left right : Chain (Chain Bool)}
    (extra : Bool) (before : value (link connective left right)) :
    value (link connective left (modifyFirst (· || extra) right)) := by
  obtain ⟨first, more⟩ := left
  cases connective with
  | or =>
    rw [link, value_append, Bool.or_eq_true] at before ⊢
    exact before.imp_right (value_modifyFirst extra)
  | and =>
    rw [link] at before ⊢
    induction more generalizing first with
    | nil =>
      rw [meet_one] at before ⊢
      simp only [value, modifyFirst, Chain.append, Chain.toList, List.any_cons, List.all_cons,
        List.all_append, id, Bool.or_eq_true, Bool.and_eq_true] at before ⊢
      exact before.imp_left fun all => ⟨all.1, all.2.1, .inl all.2.2.1, all.2.2.2⟩
    | cons next more ih =>
      simp only [meet_cons, value, List.any_cons, Chain.toList, Bool.or_eq_true] at before ih ⊢
      exact before.imp_right (ih next)

theorem one_eq_modifyFirst {low high : Bool} (mono : low → high) :
    one high = modifyFirst (· || high) (one low) := by
  cases low with
  | false => rfl
  | true =>
    rw [mono rfl]
    rfl

/-- Every form has truth values of tests, some for which it holds and some for which it does not,
such that only the first operand is read differently, and not the other way round. -/
theorem exists_rising (form : Filter Unit) (odd : Bool) :
    ∃ low high : Filter Bool, low.form = form ∧ high.form = form ∧
      low.holds id = odd ∧ high.holds id = (!odd) ∧
      ∃ extra, behind odd high = modifyFirst (· || extra) (behind odd low) := by
  induction form generalizing odd with
  | leaf =>
    refine ⟨.leaf odd, .leaf (!odd), rfl, rfl, rfl, rfl, true, ?_⟩
    cases odd <;> rfl
  | join connective left right ihLeft ihRight =>
    -- The first operand is one of the left part, so the right part is kept neutral.
    obtain ⟨low, high, rfl, sameForm, lowHolds, highHolds, extra, rises⟩ := ihLeft odd
    obtain ⟨other, -, rfl, -, otherHolds, -⟩ := ihRight (neutral connective)
    refine ⟨.join connective low other, .join connective high other, rfl,
      congrArg (Filter.join connective · _) sameForm, ?_, ?_, extra, ?_⟩
    · rw [holds_join, otherHolds, combine_neutral_right, lowHolds]
    · rw [holds_join, otherHolds, combine_neutral_right, highHolds]
    · rw [behind_join, behind_join, rises, modifyFirst_link]
  | not operand ih =>
    obtain ⟨low, high, lowForm, highForm, lowHolds, highHolds, extra, rises⟩ := ih (!odd)
    refine ⟨.not low, .not high, congrArg _ lowForm, congrArg _ highForm, ?_, ?_, extra, ?_⟩
    · rw [Filter.holds, lowHolds, Bool.not_not]
    · rw [Filter.holds, highHolds, Bool.not_not]
    · rw [behind_not, behind_not, rises]
  | group content ih =>
    obtain ⟨low, high, lowForm, highForm, lowHolds, highHolds, extra, rises⟩ := ih false
    have mono : value (flat low) → value (flat high) := by
      rw [← behind_false, ← behind_false, rises]
      exact value_modifyFirst extra
    cases odd with
    | false =>
      refine ⟨.group low, .group high, congrArg _ lowForm, congrArg _ highForm, lowHolds,
        highHolds, false != value (flat high), ?_⟩
      rw [behind_group, behind_group]
      exact one_eq_modifyFirst (by simpa using mono)
    | true =>
      -- Behind a negation the two change places.
      refine ⟨.group high, .group low, congrArg _ highForm, congrArg _ lowForm, highHolds,
        lowHolds, true != value (flat low), ?_⟩
      rw [behind_group, behind_group]
      exact one_eq_modifyFirst (by simpa using mt mono)

/-- Every form has truth values of its tests for each truth value of the whole. -/
theorem exists_holds (form : Filter Unit) (truth : Bool) :
    ∃ filter : Filter Bool, filter.form = form ∧ filter.holds id = truth := by
  obtain ⟨filter, -, sameForm, -, holds, -⟩ := exists_rising form truth
  exact ⟨filter, sameForm, holds⟩

/-! ## Forms that are not faithful -/

/-- For some truth values of tests, what is read behind negations does not have the truth value of
what was written. -/
def Fails (odd : Bool) (form : Filter Unit) : Prop :=
  ∃ filter : Filter Bool, filter.form = form ∧ value (behind odd filter) ≠ (odd != filter.holds id)

/-- A negation directly before a connective changes what the right operand contributes in the
wrong way, namely not at all. -/
theorem fails_join_of_odd (connective : Connective) (left right : Filter Unit) :
    Fails true (.join connective left right) := by
  obtain ⟨first, rfl, firstHolds⟩ := exists_holds left (neutral connective)
  obtain ⟨low, high, rfl, sameForm, lowHolds, highHolds, extra, rises⟩ :=
    exists_rising right false
  -- What is read rises with the right operand, while the negated join falls with it.
  by_cases readLow : value (link connective (behind true first) (behind false low)) = true
  · refine ⟨.join connective first high, congrArg _ sameForm, ?_⟩
    rw [behind_join, rises, value_link_modifyFirst extra readLow, holds_join, firstHolds,
      combine_neutral_left, highHolds]
    decide
  · refine ⟨.join connective first low, rfl, ?_⟩
    rwa [behind_join, holds_join, firstHolds, combine_neutral_left, lowHolds]

/-- Where the parts of a join are read apart, it fails if its left part does. -/
theorem fails_join_of_left {connective : Connective} {left right : Filter Unit}
    (apart : ∀ first second : Filter Bool, first.form = left → second.form = right →
      value (link connective (behind false first) (behind false second)) =
        combine connective (value (behind false first)) (value (behind false second)))
    (fails : Fails false left) : Fails false (.join connective left right) := by
  obtain ⟨second, rfl, same⟩ := exists_operands_eq right false (neutral connective)
  have read := value_eq_of_operands same
  by_cases holds : second.holds id = neutral connective
  · obtain ⟨first, rfl, differs⟩ := fails
    refine ⟨.join connective first second, rfl, ?_⟩
    rwa [behind_join, apart first second rfl rfl, read, holds_join, holds, combine_neutral_right,
      combine_neutral_right]
  · obtain ⟨first, rfl, firstSame⟩ := exists_operands_eq left false (neutral connective)
    refine ⟨.join connective first second, rfl, ?_⟩
    rw [behind_join, apart first second rfl rfl, read, combine_neutral_right,
      value_eq_of_operands firstSame, holds_join, Bool.eq_not.mpr holds,
      combine_not_neutral_right]
    cases connective <;> decide

/-- Where the parts of a join are read apart, it fails if its right part does. -/
theorem fails_join_of_right {connective : Connective} {left right : Filter Unit}
    (apart : ∀ first second : Filter Bool, first.form = left → second.form = right →
      value (link connective (behind false first) (behind false second)) =
        combine connective (value (behind false first)) (value (behind false second)))
    (fails : Fails false right) : Fails false (.join connective left right) := by
  obtain ⟨first, rfl, same⟩ := exists_operands_eq left false (neutral connective)
  have read := value_eq_of_operands same
  by_cases holds : first.holds id = neutral connective
  · obtain ⟨second, rfl, differs⟩ := fails
    refine ⟨.join connective first second, rfl, ?_⟩
    rwa [behind_join, apart first second rfl rfl, read, holds_join, holds, combine_neutral_left,
      combine_neutral_left]
  · obtain ⟨second, rfl, secondSame⟩ := exists_operands_eq right false (neutral connective)
    refine ⟨.join connective first second, rfl, ?_⟩
    rw [behind_join, apart first second rfl rfl, read, combine_neutral_left,
      value_eq_of_operands secondSame, holds_join, Bool.eq_not.mpr holds,
      combine_not_neutral_left]
    cases connective <;> decide

/-- With several alternatives on the left that hold, "and" behind the last of them cannot make the
whole fail. -/
theorem value_meet_of_left {left right : Chain (Chain Bool)} (several : left.more ≠ [])
    (same : ∀ operand ∈ operands left, operand = true) : value (meet left right) = true := by
  obtain ⟨first, more⟩ := left
  obtain ⟨next, later, rfl⟩ := List.exists_cons_of_ne_nil several
  rw [meet_cons]
  refine List.any_eq_true.mpr ⟨first, List.mem_cons_self, List.all_eq_true.mpr ?_⟩
  intro operand member
  exact same operand (List.mem_flatMap.mpr ⟨first, List.mem_cons_self, member⟩)

/-- With several alternatives on the right that hold, "and" before the first of them cannot make the
whole fail. -/
theorem value_meet_of_right {left right : Chain (Chain Bool)} (several : right.more ≠ [])
    (same : ∀ operand ∈ operands right, operand = true) : value (meet left right) = true := by
  obtain ⟨first, more⟩ := left
  induction more generalizing first with
  | nil =>
    obtain ⟨last, later, isMore⟩ := List.exists_cons_of_ne_nil several
    have isAlternative : last ∈ right.more := by
      rw [isMore]
      exact List.mem_cons_self
    refine List.any_eq_true.mpr
      ⟨last, List.mem_cons_of_mem _ isAlternative, List.all_eq_true.mpr ?_⟩
    intro operand member
    exact same operand
      (List.mem_flatMap.mpr ⟨last, List.mem_cons_of_mem _ isAlternative, member⟩)
  | cons next more ih =>
    rw [meet_cons]
    exact Bool.or_eq_true_iff.mpr (.inr (ih next))

/-- A filter with an "or" outside of groups is read as several alternatives. -/
theorem more_behind_ne_nil {filter : Filter Bool} {form : Filter Unit} (isForm : filter.form = form)
    (several : form.single = false) : (behind false filter).more ≠ [] := by
  rw [← isForm, Filter.form, Filter.single_map] at several
  exact mt (more_behind_eq_nil_iff false filter).mp (Bool.eq_false_iff.mp several)

/-- An "or" in the left operand of "and" takes some of that operand out of its reach. -/
theorem fails_and_of_left {left : Filter Unit} (several : left.single = false)
    (right : Filter Unit) : Fails false (.join .and left right) := by
  obtain ⟨first, isLeft, same⟩ := exists_operands_eq left false true
  obtain ⟨second, rfl, holds⟩ := exists_holds right false
  refine ⟨.join .and first second, congrArg (Filter.join .and · _) isLeft, ?_⟩
  rw [behind_join, link, value_meet_of_left (more_behind_ne_nil isLeft several) same, holds_join,
    holds, combine, Bool.and_false]
  decide

/-- An "and" before an "or" without a group changes its meaning for some truth values. -/
theorem fails_and_of_right (left : Filter Unit) {right : Filter Unit}
    (several : right.single = false) : Fails false (.join .and left right) := by
  obtain ⟨first, rfl, holds⟩ := exists_holds left false
  obtain ⟨second, isRight, same⟩ := exists_operands_eq right false true
  refine ⟨.join .and first second, congrArg _ isRight, ?_⟩
  rw [behind_join, link, value_meet_of_right (more_behind_ne_nil isRight several) same, holds_join,
    holds, combine, Bool.false_and]
  decide

/-- The parts of a faithful connective of two single filters are read apart. -/
theorem value_meet_of_single {left right : Filter Unit} (leftSingle : left.single)
    (rightSingle : right.single) {first second : Filter Bool} (isLeft : first.form = left)
    (isRight : second.form = right) :
    value (meet (behind false first) (behind false second)) =
      (value (behind false first) && value (behind false second)) := by
  rw [← isLeft, Filter.form, Filter.single_map] at leftSingle
  rw [← isRight, Filter.form, Filter.single_map] at rightSingle
  exact value_meet ((more_behind_eq_nil_iff false first).mpr leftSingle)
    ((more_behind_eq_nil_iff false second).mpr rightSingle)

/-- A form that is not faithful fails. -/
theorem fails_of_unfaithful {odd : Bool} {form : Filter Unit}
    (unfaithful : form.faithful odd = false) : Fails odd form := by
  induction form generalizing odd with
  | leaf => cases unfaithful
  | join connective left right ihLeft ihRight =>
    cases odd with
    | true => exact fails_join_of_odd connective left right
    | false =>
      cases connective with
      | or =>
        have apart := fun (first second : Filter Bool) (_ : first.form = left)
          (_ : second.form = right) => value_append (behind false first) (behind false second)
        rw [Filter.faithful, Bool.not_false, Bool.true_and, Bool.and_eq_false_iff] at unfaithful
        rcases unfaithful with leftUnfaithful | rightUnfaithful
        · exact fails_join_of_left apart (ihLeft leftUnfaithful)
        · exact fails_join_of_right apart (ihRight rightUnfaithful)
      | and =>
        cases leftSingle : left.single with
        | false => exact fails_and_of_left leftSingle right
        | true =>
          cases rightSingle : right.single with
          | false => exact fails_and_of_right left rightSingle
          | true =>
            have apart := fun (first second : Filter Bool) =>
              @value_meet_of_single left right leftSingle rightSingle first second
            rw [Filter.faithful, leftSingle, rightSingle, Bool.not_false, Bool.and_self,
              Bool.true_and, Bool.true_and, Bool.and_eq_false_iff] at unfaithful
            rcases unfaithful with leftUnfaithful | rightUnfaithful
            · exact fails_join_of_left apart (ihLeft leftUnfaithful)
            · exact fails_join_of_right apart (ihRight rightUnfaithful)
  | not operand ih =>
    obtain ⟨filter, rfl, differs⟩ := ih unfaithful
    refine ⟨.not filter, rfl, ?_⟩
    rwa [behind_not, Filter.holds, Bool.bne_not, ← Bool.not_bne]
  | group content ih =>
    obtain ⟨filter, rfl, differs⟩ := ih unfaithful
    refine ⟨.group filter, rfl, ?_⟩
    rw [behind_false, Bool.false_bne] at differs
    rw [behind_group, value_one, Filter.holds]
    exact fun same => differs (Bool.bne_right_inj.mp same)

end Precedence

end PortableFilter
