import PortableFilter.Proofs.Filter

/-! # Reading conditions by precedence

A condition is written as a row of marks: tests, negations, connectives and parentheses.
`Precedence.ofMarks?` reads such a row with negations binding tighter than "and", and "and" tighter
than "or". A filter that is written without parentheses of its own is read so, too, whatever its
structure was. What is read is a disjunction of conjunctions of operands, its `alternatives`
(`ofMarks?_marks`), and its truth is that of the alternatives (`holds_reading`). -/

namespace PortableFilter

namespace Precedence

variable {α β : Type}

/-- What a condition is written with. -/
inductive Mark (α : Type) where
  | test (test : α)
  | not
  | join (connective : Connective)
  | opening
  | closing
  deriving DecidableEq, Repr

/-! ## The reader -/

/-- What reads a condition from the front of a row of marks and leaves the rest. -/
abbrev Reader (α : Type) : Type := List (Mark α) → Option (Filter α × List (Mark α))

/-- Reads a test, a negated operand, or what `inside` reads in parentheses. -/
def readOperand? (inside : Reader α) : Reader α
  | .test test :: marks => some (.leaf test, marks)
  | .not :: marks => (readOperand? inside marks).map fun (operand, rest) => (.not operand, rest)
  | .opening :: marks =>
    match inside marks with
    | some (content, .closing :: rest) => some (.group content, rest)
    | _ => none
  | _ => none

/-- Whether a row of marks starts with a connective. -/
def startsWith (connective : Connective) : List (Mark α) → Bool
  | .join other :: _ => other = connective
  | _ => false

/-- Reads at most `count` further items, each behind the connective, and joins them to what has
been read, from left to right. -/
def readMore? (connective : Connective) (item : Reader α) : (count : Nat) → Filter α → Reader α
  | 0, left, marks => some (left, marks)
  | count + 1, left, marks =>
    if startsWith connective marks then
      (item marks.tail).bind fun (right, rest) =>
        readMore? connective item count (.join connective left right) rest
    else some (left, marks)

/-- Reads items with a connective between them. -/
def readChain? (connective : Connective) (item : Reader α) : Reader α := fun marks =>
  (item marks).bind fun (left, rest) => readMore? connective item rest.length left rest

/-- Reads a disjunction of conjunctions of operands, with parentheses up to a number of levels. -/
def readCondition? : (levels : Nat) → Reader α
  | 0 => fun _ => none
  | levels + 1 => readChain? .or (readChain? .and (readOperand? (readCondition? levels)))

/-- The condition that a row of marks spells. Parentheses cannot nest deeper than there are
marks. -/
def ofMarks? (marks : List (Mark α)) : Option (Filter α) :=
  match readCondition? (marks.length + 1) marks with
  | some (condition, []) => some condition
  | _ => none

end Precedence

open Precedence

/-- The marks that a filter is written with: parentheses stand only where it has a group. -/
def Filter.marks {α : Type} : Filter α → List (Mark α)
  | leaf test => [.test test]
  | join connective left right => left.marks ++ .join connective :: right.marks
  | not operand => .not :: operand.marks
  | group content => .opening :: (content.marks ++ [.closing])

/-! ## Chains -/

/-- A list with at least one item. -/
structure Chain (α : Type) where
  first : α
  more : List α

namespace Chain

variable {α β : Type}

def toList (chain : Chain α) : List α := chain.first :: chain.more

/-- One chain behind another. -/
def append (left right : Chain α) : Chain α := ⟨left.first, left.more ++ right.toList⟩

/-- A chain with each item replaced. -/
def map (f : α → β) (chain : Chain α) : Chain β := ⟨f chain.first, chain.more.map f⟩

/-- What a chain of texts reads with a mark between the texts. -/
def spell (mark : β) (text : α → List β) (chain : Chain α) : List β :=
  text chain.first ++ chain.more.flatMap fun item => mark :: text item

/-- The filters of a chain, joined from left to right. -/
def joined (connective : Connective) (chain : Chain (Filter α)) : Filter α :=
  chain.more.foldl (.join connective) chain.first

theorem toList_map (f : α → β) (chain : Chain α) : (chain.map f).toList = chain.toList.map f := rfl

/-- One chain behind another is spelled with a mark between them. -/
theorem spell_append (mark : β) (text : α → List β) (left right : Chain α) :
    (left.append right).spell mark text =
      left.spell mark text ++ mark :: right.spell mark text := by
  simp [spell, append, toList]

/-- Items are replaced in one chain and in the other. -/
theorem map_append (f : α → β) (left right : Chain α) :
    (left.append right).map f = (left.map f).append (right.map f) := by
  simp [map, append, toList]

/-- Joined filters are written with the connective between them. -/
theorem marks_joined (connective : Connective) (chain : Chain (Filter α)) :
    (chain.joined connective).marks = chain.spell (.join connective) Filter.marks := by
  obtain ⟨first, more⟩ := chain
  unfold joined spell
  induction more generalizing first with
  | nil => simp
  | cons next more ih =>
    rw [List.foldl_cons, ih, Filter.marks, List.flatMap_cons]
    simp

end Chain

namespace Precedence

variable {α β γ : Type}

/-! ## Alternatives -/

/-- The alternatives of two rows of alternatives with "and" between them: the last alternative
before it and the first one behind it become one. -/
def meet (left right : Chain (Chain β)) : Chain (Chain β) :=
  go left.first left.more
where
  /-- The same for a first alternative and further ones. -/
  go (first : Chain β) : List (Chain β) → Chain (Chain β)
    | [] => ⟨first.append right.first, right.more⟩
    | next :: more => ⟨first, (go next more).toList⟩

theorem meet_one (first : Chain β) (right : Chain (Chain β)) :
    meet ⟨first, []⟩ right = ⟨first.append right.first, right.more⟩ := rfl

/-- Only the last alternative of the left row takes part when two rows meet. -/
theorem meet_cons (first next : Chain β) (more : List (Chain β)) (right : Chain (Chain β)) :
    meet ⟨first, next :: more⟩ right = ⟨first, (meet ⟨next, more⟩ right).toList⟩ := rfl

/-- The alternatives of two rows of alternatives with a connective between them. -/
def link : Connective → Chain (Chain β) → Chain (Chain β) → Chain (Chain β)
  | .and => meet
  | .or => Chain.append

/-- Alternatives with their first operand replaced. -/
def modifyFirst (f : β → β) (alternatives : Chain (Chain β)) : Chain (Chain β) :=
  ⟨⟨f alternatives.first.first, alternatives.first.more⟩, alternatives.more⟩

/-- The operands of alternatives, in order. -/
def operands (alternatives : Chain (Chain β)) : List β :=
  alternatives.toList.flatMap Chain.toList

/-- Linked rows have the operands of both, in their order. -/
theorem operands_link (connective : Connective) (left right : Chain (Chain β)) :
    operands (link connective left right) = operands left ++ operands right := by
  obtain ⟨first, more⟩ := left
  cases connective with
  | or => simp [link, operands, Chain.append, Chain.toList]
  | and =>
    rw [link]
    induction more generalizing first with
    | nil => simp [meet_one, operands, Chain.append, Chain.toList]
    | cons next more ih =>
      have later := ih next
      rw [meet_cons]
      simp only [operands, Chain.toList, List.flatMap_cons] at later ⊢
      simp [later]

/-- The operands of a filter as they stand between connectives when it is written: those of one
alternative have "and" between them, and "or" stands between alternatives. A negation belongs to
the first operand behind it. -/
def alternatives (test : α → β) (negate : β → β) (enclose : Chain (Chain β) → β) :
    Filter α → Chain (Chain β)
  | .leaf content => ⟨⟨test content, []⟩, []⟩
  | .join connective left right =>
    link connective (alternatives test negate enclose left)
      (alternatives test negate enclose right)
  | .not operand => modifyFirst negate (alternatives test negate enclose operand)
  | .group content => ⟨⟨enclose (alternatives test negate enclose content), []⟩, []⟩

def disjunction (alternatives : Chain (Chain (Filter α))) : Filter α :=
  (alternatives.map (Chain.joined .and)).joined .or

/-- The alternatives as which a filter is read when it is written. -/
def reading : Filter α → Chain (Chain (Filter α)) :=
  alternatives .leaf .not fun content => .group (disjunction content)

def rowMarks (alternatives : Chain (Chain (Filter α))) : List (Mark α) :=
  alternatives.spell (.join .or) (Chain.spell (.join .and) Filter.marks)

/-- A disjunction of conjunctions is written as its row of alternatives. -/
theorem marks_disjunction (alternatives : Chain (Chain (Filter α))) :
    (disjunction alternatives).marks = rowMarks alternatives := by
  rw [disjunction, Chain.marks_joined]
  simp only [rowMarks, Chain.spell, Chain.map, List.flatMap_map, Chain.marks_joined]

/-- Linked rows are written with the connective between them. -/
theorem rowMarks_link (connective : Connective) (left right : Chain (Chain (Filter α))) :
    rowMarks (link connective left right) =
      rowMarks left ++ .join connective :: rowMarks right := by
  obtain ⟨first, more⟩ := left
  cases connective with
  | or => exact Chain.spell_append _ _ _ _
  | and =>
    rw [link]
    induction more generalizing first with
    | nil => simp [meet_one, rowMarks, Chain.spell, Chain.append, Chain.toList]
    | cons next more ih =>
      have later := ih next
      rw [meet_cons]
      simp only [rowMarks, Chain.spell, Chain.toList, List.flatMap_cons] at later ⊢
      simp [later]

/-- A filter is read without its own structure, but mark for mark. -/
theorem rowMarks_reading (filter : Filter α) : rowMarks (reading filter) = filter.marks := by
  induction filter with
  | leaf test => simp [reading, alternatives, rowMarks, Chain.spell]
  | join connective left right ihLeft ihRight =>
    rw [reading, alternatives, rowMarks_link, ← reading, ihLeft, ihRight, Filter.marks]
  | not operand ih =>
    rw [Filter.marks, ← ih]
    rfl
  | group content ih =>
    have single : rowMarks (reading (.group content)) =
        (Filter.group (disjunction (reading content))).marks := by
      simp [reading, alternatives, rowMarks, Chain.spell]
    rw [single, Filter.marks, marks_disjunction, ih, Filter.marks]

/-! ## The reader finds the alternatives -/

/-- There are no fewer marks than there are items. -/
theorem length_le_length_flatMap {items : List α} {f : α → List β}
    (nonempty : ∀ item ∈ items, f item ≠ []) : items.length ≤ (items.flatMap f).length := by
  induction items with
  | nil => exact Nat.le_refl _
  | cons item items ih =>
    obtain ⟨first, others⟩ := List.forall_mem_cons.mp nonempty
    have here := List.length_pos_iff.mpr first
    have later := ih others
    rw [List.flatMap_cons, List.length_append, List.length_cons]
    omega

def moreMarks (connective : Connective) (more : List (Filter α)) : List (Mark α) :=
  more.flatMap fun content => .join connective :: content.marks

/-- A further item is written behind the connective. -/
theorem moreMarks_cons (connective : Connective) (content : Filter α) (more : List (Filter α)) :
    moreMarks connective (content :: more) =
      .join connective :: (content.marks ++ moreMarks connective more) :=
  List.flatMap_cons

/-- Further items may follow an item, and so may what follows them. -/
theorem follows_moreMarks {connective : Connective} {follows : List (Mark α) → Prop}
    (goesOn : ∀ marks, follows (.join connective :: marks)) (more : List (Filter α))
    {rest : List (Mark α)} (following : follows rest) :
    follows (moreMarks connective more ++ rest) := by
  cases more with
  | nil => exact following
  | cons content more => exact goesOn _

/-- Further items are read back from their marks, as many as there are. -/
theorem readMore?_spell {connective : Connective} {item : Reader α}
    {follows : List (Mark α) → Prop} (goesOn : ∀ marks, follows (.join connective :: marks))
    {more : List (Filter α)} {rest : List (Mark α)}
    (reads : ∀ content ∈ more, ∀ rest, follows rest →
      item (content.marks ++ rest) = some (content, rest))
    (following : follows rest) (stops : startsWith connective rest = false) (left : Filter α)
    {count : Nat} (enough : more.length ≤ count) :
    readMore? connective item count left (moreMarks connective more ++ rest) =
      some (more.foldl (.join connective) left, rest) := by
  induction more generalizing left count with
  | nil =>
    cases count with
    | zero => rfl
    | succ count =>
      rw [moreMarks, List.flatMap_nil, List.nil_append, readMore?, stops]
      rfl
  | cons content more ih =>
    obtain ⟨readsContent, readsMore⟩ := List.forall_mem_cons.mp reads
    cases count with
    | zero => exact absurd enough (Nat.not_succ_le_zero _)
    | succ count =>
      have starts : startsWith connective (moreMarks connective (content :: more) ++ rest) = true :=
        decide_eq_true rfl
      have read := readsContent _ (follows_moreMarks goesOn more following)
      rw [readMore?, if_pos starts, moreMarks_cons, List.cons_append, List.append_assoc,
        List.tail_cons, read]
      exact ih readsMore _ (Nat.le_of_succ_le_succ enough)

/-- A chain whose items are read is read as a whole. -/
theorem readChain?_joined {connective : Connective} {item : Reader α}
    (follows : List (Mark α) → Prop) (goesOn : ∀ marks, follows (.join connective :: marks))
    {chain : Chain (Filter α)} {rest : List (Mark α)}
    (reads : ∀ content ∈ chain.toList, ∀ rest, follows rest →
      item (content.marks ++ rest) = some (content, rest))
    (following : follows rest) (stops : startsWith connective rest = false) :
    readChain? connective item ((chain.joined connective).marks ++ rest) =
      some (chain.joined connective, rest) := by
  obtain ⟨first, more⟩ := chain
  obtain ⟨readsFirst, readsMore⟩ := List.forall_mem_cons.mp reads
  have enough : more.length ≤ (moreMarks connective more ++ rest).length := by
    rw [List.length_append]
    exact Nat.le_add_right_of_le (length_le_length_flatMap fun _ _ => List.cons_ne_nil _ _)
  rw [Chain.marks_joined, Chain.spell, ← moreMarks, List.append_assoc, readChain?,
    readsFirst _ (follows_moreMarks goesOn more following)]
  exact readMore?_spell goesOn readsMore following stops first enough

/-- An operand is read from its marks, whatever stands behind them. -/
def Reads (inside : Reader α) (operand : Filter α) : Prop :=
  ∀ rest, readOperand? inside (operand.marks ++ rest) = some (operand, rest)

/-- Alternatives whose operands are read are read as a whole. -/
theorem readCondition?_disjunction {levels : Nat} {alternatives : Chain (Chain (Filter α))}
    (reads : ∀ operand ∈ operands alternatives, Reads (readCondition? levels) operand)
    (rest : List (Mark α)) (noAnd : startsWith .and rest = false)
    (noOr : startsWith .or rest = false) :
    readCondition? (levels + 1) ((disjunction alternatives).marks ++ rest) =
      some (disjunction alternatives, rest) := by
  -- Behind a conjunction there is no "and", whereas anything may stand behind an operand.
  refine readChain?_joined (fun rest => startsWith .and rest = false) (fun _ => rfl) ?_ noAnd noOr
  intro conjunction member rest stops
  rw [Chain.toList_map] at member
  obtain ⟨chain, inside, rfl⟩ := List.mem_map.mp member
  refine readChain?_joined (fun _ => True) (fun _ => trivial) ?_ trivial stops
  intro operand isOperand rest _
  exact reads operand (List.mem_flatMap.mpr ⟨chain, inside, isOperand⟩) rest

/-- A negation is read if its operand is. -/
theorem reads_not {inside : Reader α} {operand : Filter α} (reads : Reads inside operand) :
    Reads inside (.not operand) := by
  intro rest
  rw [Filter.marks, List.cons_append, readOperand?, reads rest]
  rfl

/-- A group is read one level deeper than its operands. -/
theorem reads_group {levels : Nat} {alternatives : Chain (Chain (Filter α))}
    (reads : ∀ operand ∈ operands alternatives, Reads (readCondition? levels) operand) :
    Reads (readCondition? (levels + 1)) (.group (disjunction alternatives)) := by
  intro rest
  have content := readCondition?_disjunction reads (.closing :: rest) rfl rfl
  rw [Filter.marks, List.cons_append, List.append_assoc, List.singleton_append, readOperand?,
    content]

/-- How deep the parentheses of a filter are nested. -/
def depth : Filter α → Nat
  | .leaf _ => 0
  | .join _ left right => max (depth left) (depth right)
  | .not operand => depth operand
  | .group content => depth content + 1

/-- A filter is nested no deeper than it has marks. -/
theorem depth_le_length_marks (filter : Filter α) : depth filter ≤ filter.marks.length := by
  induction filter with
  | leaf test => exact Nat.zero_le _
  | join connective left right ihLeft ihRight =>
    rw [depth, Filter.marks, List.length_append, List.length_cons]
    omega
  | not operand ih => exact Nat.le_succ_of_le ih
  | group content ih =>
    rw [depth, Filter.marks, List.length_cons, List.length_append]
    omega

/-- The operands of what is read are read back, by induction on the filter. -/
theorem reads_reading {levels : Nat} (filter : Filter α) (fits : depth filter ≤ levels) :
    ∀ operand ∈ operands (reading filter), Reads (readCondition? levels) operand := by
  induction filter generalizing levels with
  | leaf test =>
    intro operand member
    rw [List.mem_singleton.mp member]
    exact fun rest => rfl
  | join connective left right ihLeft ihRight =>
    obtain ⟨fitsLeft, fitsRight⟩ := Nat.max_le.mp fits
    rw [reading, alternatives, operands_link]
    exact List.forall_mem_append.mpr ⟨ihLeft fitsLeft, ihRight fitsRight⟩
  | not operand ih =>
    obtain ⟨readsFirst, readsMore⟩ := List.forall_mem_cons.mp (ih fits)
    exact List.forall_mem_cons.mpr ⟨reads_not readsFirst, readsMore⟩
  | group content ih =>
    intro operand member
    rw [List.mem_singleton.mp member]
    cases levels with
    | zero => exact absurd fits (Nat.not_succ_le_zero _)
    | succ levels => exact reads_group (ih (Nat.le_of_succ_le_succ fits))

/-- What is read from the marks of a filter are its alternatives. -/
theorem ofMarks?_marks (filter : Filter α) :
    ofMarks? filter.marks = some (disjunction (reading filter)) := by
  have read := readCondition?_disjunction
    (reads_reading filter (depth_le_length_marks filter)) [] rfl rfl
  rw [List.append_nil, marks_disjunction, rowMarks_reading] at read
  rw [ofMarks?, read]

/-! ## The truth of what is read -/

/-- Whether all operands of one of the alternatives hold. -/
def value (alternatives : Chain (Chain Bool)) : Bool :=
  alternatives.toList.any fun conjunction => conjunction.toList.all id

/-- The truth values of the operands of a filter of truth values as it is read when it is
written. -/
def flat : Filter Bool → Chain (Chain Bool) := alternatives id Bool.not value

/-- A conjunction holds if all of its members do. -/
theorem holds_joined_and (truth : α → Bool) (chain : Chain (Filter α)) :
    (chain.joined .and).holds truth = chain.toList.all (Filter.holds truth) := by
  obtain ⟨first, more⟩ := chain
  unfold Chain.joined Chain.toList
  induction more generalizing first with
  | nil => simp
  | cons next more ih =>
    rw [List.foldl_cons, ih]
    simp [Filter.holds, Bool.and_assoc]

/-- A disjunction holds if one of its members does. -/
theorem holds_joined_or (truth : α → Bool) (chain : Chain (Filter α)) :
    (chain.joined .or).holds truth = chain.toList.any (Filter.holds truth) := by
  obtain ⟨first, more⟩ := chain
  unfold Chain.joined Chain.toList
  induction more generalizing first with
  | nil => simp
  | cons next more ih =>
    rw [List.foldl_cons, ih]
    simp [Filter.holds, Bool.or_assoc]

/-- A disjunction of conjunctions has the truth value of its row of alternatives. -/
theorem holds_disjunction (truth : α → Bool) (alternatives : Chain (Chain (Filter α))) :
    (disjunction alternatives).holds truth =
      value (alternatives.map (Chain.map (Filter.holds truth))) := by
  rw [disjunction, holds_joined_or, Chain.toList_map, List.any_map, value, Chain.toList_map,
    List.any_map]
  refine congrArg (List.any _) (funext fun chain => ?_)
  rw [Function.comp, Function.comp, holds_joined_and, Chain.toList_map, List.all_map]
  rfl

/-- Operands can be replaced before two rows are linked or behind. -/
theorem map_link (f : β → γ) (connective : Connective) (left right : Chain (Chain β)) :
    (link connective left right).map (Chain.map f) =
      link connective (left.map (Chain.map f)) (right.map (Chain.map f)) := by
  obtain ⟨first, more⟩ := left
  cases connective with
  | or => exact Chain.map_append _ _ _
  | and =>
    rw [link, link]
    induction more generalizing first with
    | nil =>
      have joined := Chain.map_append f first right.first
      exact congrArg (Chain.mk · (right.more.map (Chain.map f))) joined
    | cons next more ih =>
      have later := congrArg Chain.toList (ih next)
      rw [Chain.toList_map] at later
      simp only [meet_cons, Chain.map, List.map_cons] at later ⊢
      rw [later]

/-- What is read from a written filter holds exactly when the alternatives of truth values do. -/
theorem holds_reading (truth : α → Bool) (filter : Filter α) :
    (disjunction (reading filter)).holds truth = value (flat (filter.map truth)) := by
  rw [holds_disjunction]
  refine congrArg value ?_
  induction filter with
  | leaf test => rfl
  | join connective left right ihLeft ihRight =>
    exact (map_link _ _ _ _).trans (congr (congrArg (link connective) ihLeft) ihRight)
  | not operand ih => exact congrArg (modifyFirst Bool.not) ih
  | group content ih =>
    have inside :
        (disjunction (reading content)).holds truth = value (flat (content.map truth)) := by
      rw [holds_disjunction, ih]
    exact congrArg (fun literal : Bool => (⟨⟨literal, []⟩, []⟩ : Chain (Chain Bool))) inside

end Precedence

end PortableFilter
