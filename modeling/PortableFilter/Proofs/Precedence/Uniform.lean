import PortableFilter.Proofs.Precedence.Lexing

/-! # Reading conditions without precedence

If all connectives at a level of parentheses are of one kind, then a condition can be read without
knowing which connective binds tighter. `Precedence.uniformOfText?` reads such conditions and no
others: negations bind tightest, and a level with connectives of two kinds is refused. A filter that
has parentheses wherever connectives of two kinds would meet is read with its own meaning
(`exists_uniformOfText?`). -/

namespace PortableFilter

namespace Filter

variable {α : Type}

def isJoin : Filter α → Bool
  | join _ _ _ => true
  | leaf _ | not _ | group _ => false

/-- Whether all connectives outside of parentheses are of the given kind, and those inside are of
one kind at each level. -/
def joinedBy (connective : Connective) : Filter α → Bool
  | leaf _ => true
  | join own left right =>
    own = connective && (left.joinedBy connective && right.joinedBy connective)
  | not operand => operand.joinedBy connective
  | group content => content.joinedBy .and || content.joinedBy .or

/-- Whether all connectives at each level of parentheses are of one kind. -/
def uniform (filter : Filter α) : Bool := filter.joinedBy .and || filter.joinedBy .or

/-- A filter of one connective is uniform. -/
theorem uniform_of_joinedBy {connective : Connective} {filter : Filter α}
    (joined : filter.joinedBy connective) : filter.uniform := by
  rw [uniform, Bool.or_eq_true]
  cases connective with
  | and => exact .inl joined
  | or => exact .inr joined

end Filter

namespace Precedence

variable {α : Type}

/-! ## The reader -/

/-- Reads operands with connectives of one kind between them. -/
def readLevel? (inside : Reader α) : Reader α := fun marks =>
  (readOperand? inside marks).bind fun (first, rest) =>
    match rest with
    | .join connective :: _ =>
      readMore? connective (readOperand? inside) rest.length first rest
    | _ => some (first, rest)

/-- Reads a condition with connectives of one kind at each of a number of levels of parentheses. -/
def readUniform? : (levels : Nat) → Reader α
  | 0 => fun _ => none
  | levels + 1 => readLevel? (readUniform? levels)

/-- The condition that a row of marks spells, if it does not depend on precedence. -/
def uniformOfMarks? (marks : List (Mark α)) : Option (Filter α) :=
  match readUniform? (marks.length + 1) marks with
  | some (condition, []) => some condition
  | _ => none

/-- The condition that a text spells, if it does not depend on precedence. -/
def uniformOfText? (test? : List Char → Option (α × List Char)) (text : List Char) :
    Option (Filter α) :=
  (lexFrom? test? (text.length + 1) true text).bind uniformOfMarks?

/-! ## Filters that do not depend on precedence -/

/-- The connectives of a filter are of one kind at each level of its groups, and none of them stands
right below a negation. -/
inductive Levelled : Connective → Filter α → Prop
  | leaf {connective : Connective} (test : α) : Levelled connective (.leaf test)
  | join {connective : Connective} {left right : Filter α} (ofLeft : Levelled connective left)
      (ofRight : Levelled connective right) : Levelled connective (.join connective left right)
  | not {connective : Connective} {operand : Filter α} (single : operand.isJoin = false)
      (ofOperand : Levelled connective operand) : Levelled connective (.not operand)
  | group {connective inside : Connective} {content : Filter α}
      (ofContent : Levelled inside content) : Levelled connective (.group content)

/-- What is no connective has a place between connectives of either kind. -/
theorem Levelled.of_not_isJoin {connective other : Connective} {filter : Filter α}
    (levelled : Levelled connective filter) (single : filter.isJoin = false) :
    Levelled other filter := by
  induction levelled with
  | leaf test => exact .leaf test
  | join => cases single
  | not inner _ ih => exact .not inner (ih inner)
  | group ofContent _ => exact .group ofContent

/-- A chain of levelled operands is levelled. -/
theorem levelled_joined {connective : Connective} {chain : Chain (Filter α)}
    (operands : ∀ operand ∈ chain.toList, Levelled connective operand) :
    Levelled connective (chain.joined connective) := by
  obtain ⟨first, more⟩ := chain
  unfold Chain.joined
  induction more generalizing first with
  | nil => exact operands first List.mem_cons_self
  | cons next more ih =>
    obtain ⟨ofFirst, ofLater⟩ := List.forall_mem_cons.mp operands
    obtain ⟨ofNext, ofMore⟩ := List.forall_mem_cons.mp ofLater
    exact ih _ (List.forall_mem_cons.mpr ⟨.join ofFirst ofNext, ofMore⟩)

/-- Two chains one behind the other hold as their join does. -/
theorem holds_joined_append (truth : α → Bool) (connective : Connective)
    (left right : Chain (Filter α)) :
    ((left.append right).joined connective).holds truth =
      (Filter.join connective (left.joined connective) (right.joined connective)).holds truth := by
  have items : (left.append right).toList = left.toList ++ right.toList := rfl
  cases connective with
  | and => rw [Filter.holds, holds_joined_and, holds_joined_and, holds_joined_and, items,
      List.all_append]
  | or => rw [Filter.holds, holds_joined_or, holds_joined_or, holds_joined_or, items,
      List.any_append]

/-- A chain of operands of one connective is of that connective. -/
theorem joinedBy_joined {connective : Connective} {chain : Chain (Filter α)}
    (operands : ∀ operand ∈ chain.toList, operand.joinedBy connective) :
    (chain.joined connective).joinedBy connective := by
  obtain ⟨first, more⟩ := chain
  unfold Chain.joined
  induction more generalizing first with
  | nil => exact operands first List.mem_cons_self
  | cons next more ih =>
    obtain ⟨ofFirst, ofLater⟩ := List.forall_mem_cons.mp operands
    obtain ⟨ofNext, ofMore⟩ := List.forall_mem_cons.mp ofLater
    have both : (Filter.join connective first next).joinedBy connective := by
      simp [Filter.joinedBy, ofFirst, ofNext]
    exact ih _ (List.forall_mem_cons.mpr ⟨both, ofMore⟩)

/-- Operands that are read are read as a level, up to where the level ends. -/
theorem readLevel?_joined {inside : Reader α} {connective : Connective}
    {chain : Chain (Filter α)} (reads : ∀ operand ∈ chain.toList, Reads inside operand)
    {rest : List (Mark α)} (ends : ∀ connective, startsWith connective rest = false) :
    readLevel? inside ((chain.joined connective).marks ++ rest) =
      some (chain.joined connective, rest) := by
  obtain ⟨first, more⟩ := chain
  obtain ⟨readsFirst, readsMore⟩ := List.forall_mem_cons.mp reads
  rw [Chain.marks_joined, Chain.spell, ← moreMarks, List.append_assoc, readLevel?, readsFirst,
    Option.bind_some]
  cases more with
  | nil =>
    -- A lone operand is followed by no connective, so that no further operand is looked for.
    cases rest with
    | nil => rfl
    | cons mark rest =>
      cases mark with
      | join other => exact absurd (decide_eq_true rfl) (Bool.eq_false_iff.mp (ends other))
      | test | not | opening | closing => rfl
  | cons next more =>
    have enough : (next :: more).length ≤ (moreMarks connective (next :: more) ++ rest).length := by
      rw [List.length_append]
      exact Nat.le_add_right_of_le (length_le_length_flatMap fun _ _ => List.cons_ne_nil _ _)
    exact @readMore?_spell _ _ _ (fun _ => True) (fun _ => trivial) _ _
      (fun operand member rest _ => readsMore operand member rest) trivial (ends connective) first
      _ enough

/-- A chain in parentheses is read back if its operands are. -/
theorem reads_group_joined {levels : Nat} {connective : Connective} {chain : Chain (Filter α)}
    (reads : ∀ operand ∈ chain.toList, Reads (readUniform? levels) operand) :
    Reads (readUniform? (levels + 1)) (.group (chain.joined connective)) := by
  intro rest
  have content := @readLevel?_joined _ _ connective _ reads (.closing :: rest) fun _ => rfl
  rw [Filter.marks, List.cons_append, List.append_assoc, List.singleton_append, readOperand?,
    readUniform?, content]

/-- The operands that a filter has between the connectives of its outermost level. Written in a row,
they look like the filter and have its meaning. -/
structure IsRow (connective : Connective) (filter : Filter α) (chain : Chain (Filter α)) :
    Prop where
  single : filter.isJoin = false → chain.more = []
  marks : (chain.joined connective).marks = filter.marks
  holds : ∀ truth, (chain.joined connective).holds truth = filter.holds truth
  joined : ∀ operand ∈ chain.toList, operand.joinedBy connective
  reads : ∀ levels, depth filter ≤ levels →
    ∀ operand ∈ chain.toList, Reads (readUniform? levels) operand

/-- A levelled filter is a row of operands. -/
theorem exists_isRow {connective : Connective} {filter : Filter α}
    (levelled : Levelled connective filter) : ∃ chain, IsRow connective filter chain := by
  induction levelled with
  | leaf test =>
    refine ⟨⟨.leaf test, []⟩, fun _ => rfl, rfl, fun _ => rfl, ?_, fun levels _ => ?_⟩
    · exact List.forall_mem_singleton.mpr rfl
    · exact List.forall_mem_singleton.mpr fun rest => rfl
  | @join connective left right _ _ ihLeft ihRight =>
    obtain ⟨leftChain, ofLeft⟩ := ihLeft
    obtain ⟨rightChain, ofRight⟩ := ihRight
    refine ⟨leftChain.append rightChain, ?_, ?_, ?_, ?_, ?_⟩
    · intro single
      cases single
    · rw [Chain.marks_joined, Chain.spell_append, ← Chain.marks_joined, ← Chain.marks_joined,
        ofLeft.marks, ofRight.marks, Filter.marks]
    · intro truth
      rw [holds_joined_append]
      cases connective <;> rw [Filter.holds, ofLeft.holds, ofRight.holds, Filter.holds]
    · exact List.forall_mem_append.mpr ⟨ofLeft.joined, ofRight.joined⟩
    · intro levels fits
      obtain ⟨fitsLeft, fitsRight⟩ := Nat.max_le.mp fits
      exact List.forall_mem_append.mpr
        ⟨ofLeft.reads levels fitsLeft, ofRight.reads levels fitsRight⟩
  | not single _ ih =>
    obtain ⟨⟨first, more⟩, ofOperand⟩ := ih
    -- A negation belongs to the first operand behind it, so there must be no other one.
    cases ofOperand.single single
    refine ⟨⟨.not first, []⟩, fun _ => rfl, ?_, fun truth => ?_, ?_, fun levels fits => ?_⟩
    · exact congrArg (.not :: ·) ofOperand.marks
    · exact congrArg (!·) (ofOperand.holds truth)
    · exact List.forall_mem_singleton.mpr (ofOperand.joined first List.mem_cons_self)
    · exact List.forall_mem_singleton.mpr
        (reads_not (ofOperand.reads levels fits first List.mem_cons_self))
  | @group _ inside content _ ih =>
    -- Inside of the group a level starts that may have another connective.
    obtain ⟨chain, ofContent⟩ := ih
    refine ⟨⟨.group (chain.joined inside), []⟩, fun _ => rfl, ?_, ofContent.holds, ?_, ?_⟩
    · exact congrArg (fun marks => .opening :: (marks ++ [.closing])) ofContent.marks
    · exact List.forall_mem_singleton.mpr
        (Filter.uniform_of_joinedBy (joinedBy_joined ofContent.joined))
    · intro levels fits
      cases levels with
      | zero => exact absurd fits (Nat.not_succ_le_zero _)
      | succ levels =>
        exact List.forall_mem_singleton.mpr
          (reads_group_joined (ofContent.reads levels (Nat.le_of_succ_le_succ fits)))

/-- The marks of a filter that does not depend on precedence are read with the meaning of the
filter. -/
theorem exists_uniformOfMarks? {connective : Connective} {filter : Filter α}
    (levelled : Levelled connective filter) :
    ∃ read, uniformOfMarks? filter.marks = some read ∧ read.uniform ∧
      ∀ truth, read.holds truth = filter.holds truth := by
  obtain ⟨chain, isRow⟩ := exists_isRow levelled
  refine ⟨chain.joined connective, ?_, ?_, isRow.holds⟩
  · have reads := isRow.reads filter.marks.length (depth_le_length_marks filter)
    have level := @readLevel?_joined _ _ connective _ reads [] fun _ => rfl
    rw [List.append_nil, isRow.marks] at level
    rw [uniformOfMarks?, readUniform?, level]
  · exact Filter.uniform_of_joinedBy (joinedBy_joined isRow.joined)

/-- The text of a filter that does not depend on precedence is read with the meaning of the
filter. -/
theorem exists_uniformOfText? {test? : List Char → Option (α × List Char)}
    {spell : α → List Char} {connective : Connective} {filter : Filter α}
    (levelled : Levelled connective filter)
    (readsTests : ∀ test ∈ filter.tests, ReadsTest test? spell test) :
    ∃ read, uniformOfText? test? (filter.chars spell) = some read ∧ read.uniform ∧
      ∀ truth, read.holds truth = filter.holds truth := by
  rw [uniformOfText?, lexFrom?_all readsTests, Option.bind_some]
  exact exists_uniformOfMarks? levelled

end Precedence

end PortableFilter
