import PortableFilter.Proofs.Expr.Redating
import PortableFilter.Proofs.Text

/-! # Dates in place of texts in SQL

A SQL condition writes a text as it stands, even if it is read as a date. So two conditions that
differ in dates given as texts agree exactly if each of these texts is the one that the date has
itself (`Sql.Condition.Redated.agree`). A text with blanks or without some zeros can be read as a
date, too, and is then written differently (`Settings.render_of_redated`). -/

namespace PortableFilter

namespace Sql

variable {replaced : List (String × Timestamp)}

/-! ## String literals -/

/-- The character that a character behind a backslash stands for. -/
def unescaped (c : Char) : Char :=
  if c = '0' then '\x00'
  else if c = 'b' then '\x08'
  else if c = 't' then '\t'
  else if c = 'z' then '\x1a'
  else if c = 'n' then '\n'
  else if c = 'r' then '\r'
  else c

/-- Reads the content of a string literal and the quote behind it. -/
def readContent? : List Char → Option (List Char × List Char)
  | '\'' :: rest => some ([], rest)
  | '\\' :: c :: rest => (readContent? rest).map fun (text, rest) => (unescaped c :: text, rest)
  | c :: rest => (readContent? rest).map fun (text, rest) => (c :: text, rest)
  | [] => none

/-- Reads a string literal, marked or not. -/
def readLiteral? : List Char → Option (List Char × List Char)
  | 'E' :: '\'' :: rest | '\'' :: rest => readContent? rest
  | _ => none

/-- A character of a literal is read back as itself. -/
theorem readContent?_literalChar (c : Char) (rest : List Char) :
    readContent? (literalChar c ++ rest) =
      (readContent? rest).map fun (text, rest) => (c :: text, rest) := by
  unfold literalChar
  split
  · rename_i special
    rcases special with rfl | rfl | rfl <;> rfl
  · rename_i plain
    rw [not_or, not_or] at plain
    iterate 6
      split
      · subst c
        rfl
    rw [List.singleton_append, readContent?]
    · exact plain.2.2
    · exact fun _ _ isBackslash => absurd isBackslash plain.1

/-- The content of a literal is read back up to its closing quote. -/
theorem readContent?_append (text rest : List Char) :
    readContent? (text.flatMap literalChar ++ '\'' :: rest) = some (text, rest) := by
  induction text with
  | nil => rfl
  | cons c text ih =>
    rw [List.flatMap_cons, List.append_assoc, readContent?_literalChar, ih]
    rfl

/-- A literal is read as its text, whatever follows it. -/
theorem readLiteral?_literalText (text : String) (rest : List Char) :
    readLiteral? ((literalText text).toList ++ rest) = some (text.toList, rest) := by
  have read := readContent?_append text.toList rest
  rw [literalText]
  split <;> simpa [readLiteral?] using read

/-- Literals of different texts differ, whatever follows them. -/
theorem literalText_append_eq_iff {text other : String} {rest rest' : List Char} :
    (literalText text).toList ++ rest = (literalText other).toList ++ rest' ↔
      other = text ∧ rest = rest' := by
  constructor
  · intro same
    have read := readLiteral?_literalText text rest
    rw [same, readLiteral?_literalText other rest', Option.some_inj, Prod.mk.injEq] at read
    exact ⟨String.toList_inj.mp read.1, read.2.symm⟩
  · rintro ⟨rfl, rfl⟩
    rfl

/-! ## Texts that differ in dates -/

/-- Whatever follows them, two texts agree exactly if each replaced text is the one that its
timestamp has. -/
def AgreeIfExact (replaced : List (String × Timestamp)) (text other : List Char) : Prop :=
  ∀ rest rest', text ++ rest = other ++ rest' ↔
    (∀ pair ∈ replaced, pair.2.toText = pair.1) ∧ rest = rest'

namespace AgreeIfExact

variable {later : List (String × Timestamp)} {text other more others : List Char}

theorem refl (text : List Char) : AgreeIfExact [] text text := by
  intro rest rest'
  simp

/-- Texts agree one behind the other if each of them agrees. -/
theorem append (first : AgreeIfExact replaced text other)
    (second : AgreeIfExact later more others) :
    AgreeIfExact (replaced ++ later) (text ++ more) (other ++ others) := by
  intro rest rest'
  rw [List.append_assoc, List.append_assoc, first, second, List.forall_mem_append, and_assoc]

theorem append_right (first : AgreeIfExact replaced text other) (ending : List Char) :
    AgreeIfExact replaced (text ++ ending) (other ++ ending) := by
  have whole := first.append (refl ending)
  rwa [List.append_nil] at whole

theorem append_left (start : List Char) (second : AgreeIfExact replaced text other) :
    AgreeIfExact replaced (start ++ text) (start ++ other) :=
  (refl start).append second

theorem parenthesizedIf {text other : String}
    (agree : AgreeIfExact replaced text.toList other.toList) (condition : Bool) :
    AgreeIfExact replaced (Text.parenthesizedIf condition text).toList
      (Text.parenthesizedIf condition other).toList := by
  cases condition with
  | false => exact agree
  | true =>
    rw [Text.parenthesizedIf, Text.parenthesizedIf, if_pos rfl, if_pos rfl, Text.parenthesized,
      Text.parenthesized]
    simp only [String.toList_append]
    exact (agree.append_left _).append_right _

end AgreeIfExact

/-- A scalar and its timestamp are written alike exactly if the text is that of the timestamp. -/
theorem agree_scalarText {value other : Scalar} (redated : value.Redated replaced other) :
    AgreeIfExact replaced (scalarText value).toList (scalarText other).toList := by
  cases redated with
  | kept => exact .refl _
  | read =>
    intro rest rest'
    rw [scalarText, scalarText, List.forall_mem_singleton]
    exact literalText_append_eq_iff

/-- Lists of scalars agree item by item. -/
theorem agree_items (separator : List Char) {values others : List Scalar}
    (redated : Scalar.ItemsRedated replaced values others) :
    AgreeIfExact replaced (values.flatMap fun value => separator ++ (scalarText value).toList)
      (others.flatMap fun value => separator ++ (scalarText value).toList) := by
  induction redated with
  | nil => exact .refl _
  | cons first _ ih =>
    rw [List.flatMap_cons, List.flatMap_cons]
    exact ((agree_scalarText first).append_left separator).append ih

/-- Membership tests agree if their items do. -/
theorem agree_memberText (negated : Bool) (column : String) {values others : List Scalar}
    (redated : Scalar.ItemsRedated replaced values others) :
    AgreeIfExact replaced (memberText negated column values).toList
      (memberText negated column others).toList := by
  cases redated with
  | nil => exact .refl _
  | cons first more =>
    simp only [memberText, List.map_cons, String.toList_append, Text.intercalate_cons_toList,
      List.flatMap_map]
    exact (((agree_scalarText first).append (agree_items _ more)).append_left _).append_right _

/-! ## Conditions that differ in dates -/

/-- Some of the texts in a condition give way to the timestamps that they are read as. -/
inductive Condition.Redated : List (String × Timestamp) → Condition → Condition → Prop where
  | compare {replaced : List (String × Timestamp)} {value other : Scalar} (comparison : Comparison)
      (column : Column) (redated : value.Redated replaced other) :
      Redated replaced (.compare comparison column value) (.compare comparison column other)
  | member {replaced : List (String × Timestamp)} {values others : List Scalar} (negated : Bool)
      (column : Column) (redated : Scalar.ItemsRedated replaced values others) :
      Redated replaced (.member negated column values) (.member negated column others)
  | isNull (negated : Bool) (column : Column) :
      Redated [] (.isNull negated column) (.isNull negated column)
  | join {inLeft inRight : List (String × Timestamp)} {left right newLeft newRight : Condition}
      (connective : Connective) (redatedLeft : Redated inLeft left newLeft)
      (redatedRight : Redated inRight right newRight) :
      Redated (inLeft ++ inRight) (.join connective left right) (.join connective newLeft newRight)
  | not {replaced : List (String × Timestamp)} {operand other : Condition}
      (redated : Redated replaced operand other) : Redated replaced (.not operand) (.not other)

namespace Condition

variable {condition other : Condition}

/-- What is redated stays a test, or stays none. -/
theorem Redated.isTest_eq (redated : condition.Redated replaced other) :
    other.isTest = condition.isTest := by
  cases redated <;> rfl

/-- What is redated keeps its connective. -/
theorem Redated.isJoinedBy_eq (redated : condition.Redated replaced other)
    (connective : Connective) : other.isJoinedBy connective = condition.isJoinedBy connective := by
  cases redated <;> rfl

/-- The texts of two conditions that differ in dates agree exactly if the replaced texts are those
of the dates. -/
theorem Redated.agree (redated : condition.Redated replaced other) (settings : SqlSettings) :
    AgreeIfExact replaced (condition.text settings).toList (other.text settings).toList := by
  induction redated with
  | compare comparison column redated =>
    simp only [text, String.toList_append]
    exact (agree_scalarText redated).append_left _
  | member negated column redated => exact agree_memberText negated _ redated
  | isNull negated column => exact .refl _
  | join connective redatedLeft redatedRight ihLeft ihRight =>
    simp only [text, String.toList_append, redatedLeft.isTest_eq, redatedLeft.isJoinedBy_eq,
      redatedRight.isTest_eq]
    exact ((ihLeft.parenthesizedIf _).append_right _).append (ihRight.parenthesizedIf _)
  | not redated ih =>
    simp only [text, String.toList_append, redated.isTest_eq]
    exact (ih.parenthesizedIf _).append_left _

theorem isTest_ofLeaf (leaf : Leaf) : (ofLeaf leaf).isTest := by
  unfold ofLeaf
  split <;> rfl

/-- A test is redated by replacing nothing in it. -/
theorem redated_refl (isTest : condition.isTest) : condition.Redated [] condition := by
  cases condition with
  | compare comparison column value => exact .compare comparison column (.kept value)
  | member negated column values => exact .member negated column (.refl values)
  | isNull negated column => exact .isNull negated column
  | join | not => cases isTest

end Condition

/-! ## The conditions of redated filters -/

/-- A text and the timestamp it is read as have the same cast. -/
theorem ofScalar?_of_redated {value other : Scalar} (redated : value.Redated replaced other) :
    Cast.ofScalar? other = Cast.ofScalar? value := by
  cases redated <;> rfl

/-- Redated items have the same casts. -/
theorem map_ofScalar?_of_redated {values others : List Scalar}
    (redated : Scalar.ItemsRedated replaced values others) :
    others.map Cast.ofScalar? = values.map Cast.ofScalar? := by
  induction redated with
  | nil => rfl
  | cons first _ ih => rw [List.map_cons, List.map_cons, ofScalar?_of_redated first, ih]

/-- The condition of a redated test is redated in the same way. -/
theorem redated_ofLeaf {leaf other : Leaf} (redated : leaf.Redated replaced other) :
    (Condition.ofLeaf leaf).Redated replaced (Condition.ofLeaf other) := by
  cases redated with
  | compare comparison key redated =>
    cases redated with
    | kept => exact Condition.redated_refl (Condition.isTest_ofLeaf _)
    | read reads => cases comparison <;> exact .compare _ _ (.read reads)
  | @member _ items others negated key redated =>
    have sameCast : others.head?.bind Cast.ofScalar? = items.head?.bind Cast.ofScalar? := by
      cases redated with
      | nil => rfl
      | cons first => exact ofScalar?_of_redated first
    rw [Condition.ofLeaf, Condition.ofLeaf, sameCast]
    exact .member negated _ redated
  | absent negated key => exact .isNull negated _

/-- Alternatives of the same fields, with timestamps in place of some texts. -/
def AlternativesRedated (replaced : List (String × Timestamp))
    (alternatives others : List (Key × Scalar)) : Prop :=
  others.map Prod.fst = alternatives.map Prod.fst ∧
    Scalar.ItemsRedated replaced (alternatives.map Prod.snd) (others.map Prod.snd)

/-- The alternatives of a redated filter are redated, or it has none as before. -/
theorem equalities?_of_redated {filter other : Filter Leaf}
    (redated : filter.Redated replaced other) :
    Option.Rel (AlternativesRedated replaced) (equalities? filter) (equalities? other) := by
  induction redated with
  | leaf redated =>
    cases redated with
    | member | absent => exact .none
    | @compare _ value other comparison key redated =>
      cases comparison with
      | ne | gt | gte | lt | lte => exact .none
      | eq =>
        have sameNull : other = .null ↔ value = .null := by
          cases redated <;> simp
        rw [equalities?, equalities?, if_congr sameNull rfl rfl]
        split
        · exact .none
        · exact .some ⟨rfl, by simpa using Scalar.ItemsRedated.cons redated .nil⟩
  | @join _ _ left right newLeft newRight connective _ _ ihLeft ihRight =>
    cases connective with
    | and => exact .none
    | or =>
      rw [equalities?, equalities?]
      generalize equalities? left = found, equalities? newLeft = newFound at ihLeft ⊢
      generalize equalities? right = foundRight, equalities? newRight = newFoundRight at ihRight ⊢
      cases ihLeft with
      | none => exact .none
      | some left =>
        cases ihRight with
        | none => exact .none
        | some right =>
          refine .some ⟨?_, ?_⟩
          · rw [List.map_append, List.map_append, left.1, right.1]
          · rw [List.map_append, List.map_append]
            exact left.2.append right.2
  | not => exact .none
  | group _ ih => exact ih

/-- Alternatives of the same fields have one field alike. -/
theorem all_fields_eq {alternatives others : List (Key × Scalar)}
    (same : others.map Prod.fst = alternatives.map Prod.fst) (name : String) :
    (others.all fun (key, _) => key.unquoted = name) =
      alternatives.all fun (key, _) => key.unquoted = name := by
  have onFields : ∀ pairs : List (Key × Scalar), (pairs.all fun (key, _) => key.unquoted = name) =
      (pairs.map Prod.fst).all fun key => key.unquoted = name := by
    intro pairs
    rw [List.all_map]
    rfl
  rw [onFields, onFields, same]

/-- Alternatives of the same casts have one cast alike. -/
theorem all_casts_eq {alternatives others : List (Key × Scalar)}
    (same : (others.map Prod.snd).map Cast.ofScalar? =
      (alternatives.map Prod.snd).map Cast.ofScalar?) (cast : Option Cast) :
    (others.all fun (_, value) => Cast.ofScalar? value = cast) =
      alternatives.all fun (_, value) => Cast.ofScalar? value = cast := by
  have onCasts : ∀ pairs : List (Key × Scalar),
      (pairs.all fun (_, value) => Cast.ofScalar? value = cast) =
        ((pairs.map Prod.snd).map Cast.ofScalar?).all fun other => other = cast := by
    intro pairs
    rw [List.all_map, List.all_map]
    rfl
  rw [onCasts, onCasts, same]

/-- Redated alternatives fold into a redated membership test, or do not fold. -/
theorem fold?_of_redated (limit : Nat) {filter other : Filter Leaf}
    (redated : filter.Redated replaced other) :
    Option.Rel (fun result newResult => result.1.Redated replaced newResult.1)
      (fold? limit filter) (fold? limit other) := by
  have found := equalities?_of_redated redated
  rw [fold?, fold?]
  generalize equalities? filter = alternatives?, equalities? other = others? at found ⊢
  cases found with
  | none => exact .none
  | @some alternatives others redated =>
    obtain ⟨sameKeys, redatedValues⟩ := redated
    cases alternatives with
    | nil =>
      cases others with
      | nil => exact .none
      | cons => cases sameKeys
    | cons first alternatives =>
      cases others with
      | nil => cases sameKeys
      | cons second others =>
        -- Only the fields and the casts of alternatives decide whether they fold.
        obtain ⟨key, value⟩ := first
        obtain ⟨newKey, newValue⟩ := second
        have sameLength := congrArg List.length sameKeys
        rw [List.length_map, List.length_map] at sameLength
        have sameCasts := map_ofScalar?_of_redated redatedValues
        obtain ⟨rfl, -⟩ := List.cons.inj sameKeys
        obtain ⟨sameCast, -⟩ := List.cons.inj sameCasts
        dsimp only at sameCast ⊢
        rw [sameLength, sameCast, all_fields_eq sameKeys, all_casts_eq sameCasts]
        split
        · exact .some (.member false _ redatedValues)
        · exact .none

/-- The condition of a redated filter is redated in the same way. -/
theorem redated_compile (limit : Nat) {filter other : Filter Leaf}
    (redated : filter.Redated replaced other) :
    (compile limit filter).1.Redated replaced (compile limit other).1 := by
  induction redated with
  | leaf redated => exact redated_ofLeaf redated
  | @join _ _ left right newLeft newRight connective redatedLeft redatedRight ihLeft ihRight =>
    cases connective with
    | and => exact .join .and ihLeft ihRight
    | or =>
      have folded := fold?_of_redated limit (.join .or redatedLeft redatedRight)
      rw [compile, compile]
      generalize fold? limit (.join .or left right) = result,
        fold? limit (.join .or newLeft newRight) = newResult at folded ⊢
      cases folded with
      | none => exact .join .or ihLeft ihRight
      | some redated => exact redated
  | not _ ih => exact .not ih
  | group _ ih => exact ih

/-- The queries of redated conditions agree as the conditions do. -/
theorem agree_selectText (settings : SqlSettings) {condition other : Condition}
    (redated : condition.Redated replaced other) :
    AgreeIfExact replaced (selectText settings condition).toList
      (selectText settings other).toList := by
  have parts : ∀ condition : Condition, (selectText settings condition).toList =
      ("SELECT * FROM " ++ identifierText settings.table ++ " WHERE ").toList ++
        (condition.text settings).toList :=
    fun _ => String.toList_append
  rw [parts, parts]
  exact (redated.agree settings).append_left _

end Sql

/-! ## All dialects -/

/-- Every dialect but SQL renders a well-shaped tree with dates as it renders the tree with texts
that are read as these dates. SQL does so exactly if each of the texts is the one that its date
has. -/
theorem Settings.render_of_redated (settings : Settings) {expr other : Expr}
    {replaced : List (String × Timestamp)} (shaped : expr.wellShaped)
    (redated : expr.Redated replaced other) :
    (∀ dialect, dialect ≠ .sql → settings.render dialect other = settings.render dialect expr) ∧
      (settings.render .sql other = settings.render .sql expr ↔
        ∀ text timestamp, (text, timestamp) ∈ replaced → timestamp.toText = text) := by
  have shapedTree := expr.shaped_of_wellShaped shaped
  refine ⟨fun dialect isStyled => redated.render_eq shapedTree settings isStyled, ?_⟩
  obtain ⟨filter, newFilter, checks, newChecks, redatedFilter⟩ :=
    redated.exists_checksAs shapedTree
  have agree := Sql.agree_selectText settings.sql
    (Sql.redated_compile settings.sql.foldLimit redatedFilter) [] []
  rw [List.append_nil, List.append_nil, String.toList_inj] at agree
  rw [render, render, Sql.render_eq_map, Sql.render_eq_map, Expr.toFilter_eq_ok_iff.mpr checks,
    Expr.toFilter_eq_ok_iff.mpr newChecks]
  simp only [Except.map, Except.ok.injEq]
  rw [eq_comm, agree, Prod.forall]
  simp

/-- Texts in a comparison and in a list, below a negation, that are just as their dates have them:
all dialects render the tree with the dates alike. -/
theorem Settings.render_of_redated_nested : ∃ expr other : Expr, expr.wellShaped ∧
    expr.Redated [("2024-03-01T12:00:00Z", ⟨1709294400, 0⟩),
      ("2016-12-31T23:59:60Z", ⟨1483228799, 1000000000⟩)] other ∧
    ∀ dialect, Settings.render {} dialect other = Settings.render {} dialect expr := by
  have readNoon : Timestamp.read? "2024-03-01T12:00:00Z" = some ⟨1709294400, 0⟩ := by
    decide +kernel
  have readLeap : Timestamp.read? "2016-12-31T23:59:60Z" = some ⟨1483228799, 1000000000⟩ := by
    decide +kernel
  have redatedFirst : (Leaf.compare .gt ⟨"a"⟩ (.text "2024-03-01T12:00:00Z")).Redated _ _ :=
    .compare .gt ⟨"a"⟩ (.read readNoon)
  have redatedSecond :
      (Leaf.member false ⟨"b"⟩ [.int 1, .text "2016-12-31T23:59:60Z", .text "x"]).Redated _ _ :=
    .member false ⟨"b"⟩ (.cons (.kept _) (.cons (.read readLeap) (.cons (.kept _) .nil)))
  obtain ⟨expr, isExpr⟩ : ∃ expr : Expr, expr = .not (.group (.join .or
      (.expr (.compare .gt ⟨"a"⟩ (.scalar (.text "2024-03-01T12:00:00Z"))))
      (.expr (.member false ⟨"b"⟩
        (.ofScalars [.int 1, .text "2016-12-31T23:59:60Z", .text "x"]))))) := ⟨_, rfl⟩
  have shaped : expr.wellShaped := by
    rw [isExpr]
    decide
  obtain ⟨other, redated⟩ : ∃ other, expr.Redated [("2024-03-01T12:00:00Z", ⟨1709294400, 0⟩),
      ("2016-12-31T23:59:60Z", ⟨1483228799, 1000000000⟩)] other := by
    rw [isExpr]
    exact ⟨_, .not rfl (.join rfl rfl (.test redatedFirst) (.test redatedSecond))⟩
  obtain ⟨styled, sql⟩ := render_of_redated {} shaped redated
  refine ⟨expr, other, shaped, redated, fun dialect => ?_⟩
  by_cases isSql : dialect = .sql
  · rw [isSql]
    refine sql.mpr fun text timestamp member => ?_
    simp only [List.mem_cons, Prod.mk.injEq, List.not_mem_nil, or_false] at member
    rcases member with ⟨rfl, rfl⟩ | ⟨rfl, rfl⟩ <;> decide +kernel
  · exact styled dialect isSql

/-- A text with a blank and without a zero is read as a date, but stays as it is in a SQL query,
where the date is written in full. -/
theorem Settings.render_sql_loose : ∃ expr other : Expr, expr.wellShaped ∧
    expr.Redated [(" 2024-3-01T10:15:00Z", ⟨1709288100, 0⟩)] other ∧
    Settings.render {} .sql expr = .ok
      "SELECT * FROM \"documents\" WHERE (\"metadata\" ->> 'a') = ' 2024-3-01T10:15:00Z'" ∧
    Settings.render {} .sql other = .ok
      "SELECT * FROM \"documents\" WHERE (\"metadata\" ->> 'a') = '2024-03-01T10:15:00Z'" := by
  have read : Timestamp.read? " 2024-3-01T10:15:00Z" = some ⟨1709288100, 0⟩ := by
    decide +kernel
  have redated : (Leaf.compare .eq ⟨"a"⟩ (.text " 2024-3-01T10:15:00Z")).Redated _
      (.compare .eq ⟨"a"⟩ (.date ⟨1709288100, 0⟩)) :=
    .compare .eq ⟨"a"⟩ (.read read)
  exact ⟨_, _, by decide, .test redated, by decide +kernel, by decide +kernel⟩

end PortableFilter
