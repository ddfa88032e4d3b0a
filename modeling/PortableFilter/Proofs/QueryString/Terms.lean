import PortableFilter.Proofs.QueryString.Dialects
import PortableFilter.Proofs.QueryString.Scanning

/-! # The terms of query strings

The queries of both dialects are scanned as what they are made of: the operators, parentheses and
brackets of their structure, the names of fields as one word each, and the values. In the dialect
that writes texts bare, a text is one word as well. A word is a term that stands for the name or the
text, unless it is one of the four words that are operators (`parts_escaped_iff`). -/

namespace PortableFilter

open Precedence

namespace QueryString

/-! ## The parts of a condition -/

theorem parts_blank (rest : List Char) : parts (' ' :: rest) = parts rest := by
  rw [parts_cons (by decide)]
  rfl

/-- A special character that is not escaped is a part of its own. -/
theorem parts_sign {c : Char} (isSign : (c ≠ '\\' ∧ isSpecial c) ∧ Text.isBlank c = false)
    (rest : List Char) : parts (c :: rest) = .sign c :: parts rest := by
  rw [parts_cons isSign.1, signParts, if_neg (Bool.eq_false_iff.mp isSign.2)]
  rfl

/-- An operator ends before a blank. -/
theorem parts_operator (operator : Operator) (rest : List Char) :
    parts (operator.word.toList ++ ' ' :: rest) = .operator operator :: parts rest := by
  rw [← fieldChars_word, parts_fieldChars _ (endsWord_cons (by decide) rest), textParts_word,
    parts_blank]
  rfl

/-- The parts of a field and the colon behind it. -/
def fieldParts (field : String) : List Part := textParts field ++ [.sign ':']

/-- A field and its colon are cut off as parts. -/
theorem parts_field (field : String) (rest : List Char) :
    parts (fieldChars field ++ ':' :: rest) = fieldParts field ++ parts rest := by
  rw [parts_fieldChars field (endsWord_cons (by decide) rest), fieldParts,
    parts_sign (by decide), List.append_assoc]
  rfl

/-- The parts of the values of a choice behind the first one, and of its closing parenthesis. -/
def moreParts (values : List String) : List Part :=
  values.flatMap (fun value => .operator .or :: parts value.toList) ++ [.sign ')']

/-- The parts of a choice behind its opening parenthesis. -/
def choiceParts : List String → List Part
  | [] => [.sign ')']
  | value :: values => parts value.toList ++ moreParts values

/-- The parts of a range behind the bracket below it. -/
def rangeParts (bound : Bound) (closedAbove : Bool) (value : String) : List Part :=
  match bound with
  | .lower =>
    parts value.toList ++ [.operator .upTo, .sign '*', .sign (closingChar closedAbove)]
  | .upper =>
    [.sign '*', .operator .upTo] ++ (parts value.toList ++ [.sign (closingChar closedAbove)])

/-- The parts of a test: each field is the part that its name is read as. -/
def testParts : Test → List Part
  | .present field => fieldParts existenceField ++ textParts field
  | .term field value => fieldParts field ++ parts value.toList
  | .oneOf field values => fieldParts field ++ .sign '(' :: choiceParts values
  | .range field bound closedBelow closedAbove value =>
    fieldParts field ++ .sign (openingChar closedBelow) :: rangeParts bound closedAbove value
  | .never => [.sign '(', .sign ')']

/-- The parts of a condition, given those of its tests. -/
def filterParts {α : Type} (ofTest : α → List Part) : Filter α → List Part
  | .leaf test => ofTest test
  | .join connective left right =>
    filterParts ofTest left ++ .operator (.ofConnective connective) :: filterParts ofTest right
  | .not operand => .operator .not :: filterParts ofTest operand
  | .group content => .sign '(' :: (filterParts ofTest content ++ [.sign ')'])

/-- The values in a test. -/
def Test.values : Test → List String
  | present _ | never => []
  | term _ value | range _ _ _ _ value => [value]
  | oneOf _ values => values

/-- Further values of a choice do not go on with the word before them. -/
theorem endsWord_moreChars (values : List String) (rest : List Char) :
    EndsWord (moreChars values ++ rest) := by
  cases values with
  | nil | cons => exact endsWord_cons (by decide) _

/-- Further values of a choice are cut into their parts. -/
theorem parts_moreChars {values : List String} (whole : ∀ value ∈ values, complete value.toList)
    (rest : List Char) : parts (moreChars values ++ rest) = moreParts values ++ parts rest := by
  induction values with
  | nil => exact parts_sign (by decide) rest
  | cons value values ih =>
    obtain ⟨ofFirst, ofValues⟩ := List.forall_mem_cons.mp whole
    have separated : moreChars (value :: values) ++ rest = ' ' ::
        (Operator.or.word.toList ++ ' ' :: (value.toList ++ (moreChars values ++ rest))) := by
      simp [moreChars, Operator.word]
    have ends := endsWord_moreChars values rest
    rw [separated, parts_blank, parts_operator, parts_append ofFirst ends, ih ofValues]
    simp [moreParts]

/-- The values of a choice are cut into their parts. -/
theorem parts_choiceChars {values : List String} (whole : ∀ value ∈ values, complete value.toList)
    (rest : List Char) : parts (choiceChars values ++ rest) = choiceParts values ++ parts rest := by
  cases values with
  | nil => exact parts_sign (by decide) rest
  | cons value values =>
    obtain ⟨ofFirst, ofValues⟩ := List.forall_mem_cons.mp whole
    rw [choiceChars, List.append_assoc, parts_append ofFirst (endsWord_moreChars values rest),
      parts_moreChars ofValues, choiceParts, List.append_assoc]

/-- The bracket that closes a range is a part of its own. -/
theorem parts_closingChar (closed : Bool) (rest : List Char) :
    parts (closingChar closed :: rest) = .sign (closingChar closed) :: parts rest := by
  cases closed <;> exact parts_sign (by decide) rest

theorem parts_rangeChars (bound : Bound) (closedAbove : Bool) {value : String}
    (whole : complete value.toList) (rest : List Char) :
    parts (rangeChars bound closedAbove value ++ rest) =
      rangeParts bound closedAbove value ++ parts rest := by
  have closing : EndsWord (closingChar closedAbove :: rest) :=
    endsWord_cons (by cases closedAbove <;> decide) rest
  cases bound with
  | lower =>
    have separated : rangeChars .lower closedAbove value ++ rest = value.toList ++
        ' ' :: (Operator.upTo.word.toList ++ ' ' :: '*' :: closingChar closedAbove :: rest) := by
      simp [rangeChars, Operator.word]
    rw [separated, parts_append whole (endsWord_cons (by decide) _), parts_blank, parts_operator,
      parts_sign (by decide), parts_closingChar, rangeParts, List.append_assoc]
    rfl
  | upper =>
    have separated : rangeChars .upper closedAbove value ++ rest = '*' ::
        ' ' :: (Operator.upTo.word.toList ++
          ' ' :: (value.toList ++ closingChar closedAbove :: rest)) := by
      simp [rangeChars, Operator.word]
    rw [separated, parts_sign (by decide), parts_blank, parts_operator,
      parts_append whole closing, parts_closingChar, rangeParts]
    simp

/-- A test is read as its parts. -/
theorem parts_test {test : Test} (whole : ∀ value ∈ test.values, complete value.toList)
    {behind : List Char} (ends : EndsWord behind) :
    parts (test.chars ++ behind) = testParts test ++ parts behind := by
  cases test with
  | present field =>
    rw [Test.chars, List.append_assoc, List.cons_append, parts_field, parts_fieldChars field ends,
      testParts, List.append_assoc]
  | term field value =>
    have ofValue := whole value (List.mem_singleton_self value)
    rw [Test.chars, List.append_assoc, List.cons_append, parts_field, parts_append ofValue ends,
      testParts, List.append_assoc]
  | oneOf field values =>
    rw [Test.values] at whole
    rw [Test.chars, List.append_assoc, List.cons_append, List.cons_append, parts_field,
      parts_sign (by decide), parts_choiceChars whole, testParts, List.append_assoc]
    rfl
  | range field bound closedBelow closedAbove value =>
    have opening (rest : List Char) : parts (openingChar closedBelow :: rest) =
        .sign (openingChar closedBelow) :: parts rest := by
      cases closedBelow <;> exact parts_sign (by decide) rest
    rw [Test.chars, List.append_assoc, List.cons_append, List.cons_append, parts_field, opening,
      parts_rangeChars bound closedAbove (whole value (List.mem_singleton_self value)), testParts,
      List.append_assoc]
    rfl
  | never =>
    rw [Test.chars, List.cons_append, List.cons_append, parts_sign (by decide),
      parts_sign (by decide)]
    rfl

/-- A condition is read as its parts if its tests are. -/
theorem parts_filter {α : Type} {spell : α → List Char} {ofTest : α → List Part} {filter : Filter α}
    (reads : ∀ test ∈ filter.tests, ∀ behind, EndsWord behind →
      parts (spell test ++ behind) = ofTest test ++ parts behind)
    {behind : List Char} (ends : EndsWord behind) :
    parts (filter.chars spell ++ behind) = filterParts ofTest filter ++ parts behind := by
  induction filter generalizing behind with
  | leaf test =>
    rw [Filter.chars_leaf]
    exact reads test (List.mem_singleton_self test) behind ends
  | join connective left right ihLeft ihRight =>
    obtain ⟨ofLeft, ofRight⟩ := List.forall_mem_append.mp reads
    have word : Mark.chars spell (.join connective) ++ (right.chars spell ++ behind) =
        ' ' :: ((Operator.ofConnective connective).word.toList ++
          ' ' :: (right.chars spell ++ behind)) := by
      cases connective <;> simp [Mark.chars, Operator.ofConnective, Operator.word]
    -- The blank before the connective ends the last word of the left side.
    rw [Filter.chars_join, List.append_assoc, List.append_assoc, word,
      ihLeft ofLeft (endsWord_cons (by decide) _), parts_blank, parts_operator,
      ihRight ofRight ends, filterParts, List.append_assoc]
    rfl
  | not operand ih =>
    have word : Mark.chars spell .not ++ (operand.chars spell ++ behind) =
        Operator.not.word.toList ++ ' ' :: (operand.chars spell ++ behind) := by
      simp [Mark.chars, Operator.word]
    rw [Filter.chars_not, List.append_assoc, word, parts_operator, ih reads ends]
    rfl
  | group content ih =>
    rw [Filter.chars_group, List.append_assoc, List.append_assoc, Mark.chars, Mark.chars,
      List.singleton_append, List.singleton_append, parts_sign (by decide),
      ih reads (endsWord_cons (by decide) behind), parts_sign (by decide), filterParts]
    simp

/-! ## The values of a clause -/

theorem tests_negatedCondition (negated : Bool) (condition : Filter Test) :
    (negatedCondition negated condition).tests = condition.tests := by
  cases negated <;> rfl

/-- If choices are made of their values, then the tests of a clause are made of the values of the
clause. -/
theorem exists_of_mem_values {wording : Wording}
    (ofChoice : ∀ field values, ∀ test ∈ (wording.choice field values).tests, test.values ⊆ values)
    {clause : Clause} (finite : clause.IsFinite) {test : Test} {text : String}
    (member : test ∈ (wording.condition clause).tests) (inTest : text ∈ test.values) :
    ∃ value : Scalar, value.isFinite ∧ wording.value value = text := by
  cases clause with
  | present negated key =>
    rw [Wording.condition, tests_negatedCondition] at member
    cases List.mem_singleton.mp member
    cases inTest
  | term negated key value =>
    rw [Wording.condition, tests_negatedCondition] at member
    cases List.mem_singleton.mp member
    exact ⟨value, finite, (List.mem_singleton.mp inTest).symm⟩
  | anyOf negated key values =>
    rw [Wording.condition, tests_negatedCondition] at member
    obtain ⟨value, isValue, written⟩ := List.mem_map.mp (ofChoice _ _ test member inTest)
    exact ⟨value, finite value isValue, written⟩
  | bounded bound inclusive key value =>
    cases List.mem_singleton.mp member
    exact ⟨value, finite, (List.mem_singleton.mp inTest).symm⟩

/-- In a style whose quoted texts end with a whole character, so do all scalars. -/
theorem complete_scalarText {style : ValueStyle}
    (quotes : ∀ text, complete (style.quote text).toList) {value : Scalar}
    (finite : value.isFinite) : complete (style.scalarText value).toList := by
  have numerals {text : List Char} (numeral : ∀ c ∈ text, Graph.isNumeral c) : complete text :=
    complete_of_notMem fun member => absurd (numeral _ member) (by decide)
  cases value with
  | null => exact complete_of_notMem (by simp [ValueStyle.scalarText])
  | bool value =>
    exact complete_of_notMem (by cases value <;> simp [ValueStyle.scalarText, Scalar.boolText])
  | int value => exact numerals (Graph.wellFormed_argument finite).2
  | number value => exact numerals (Graph.wellFormed_argument finite).2
  | text value =>
    rw [ValueStyle.scalarText]
    split <;> exact quotes _
  | date value => exact quotes _

/-- A text in double quotes is complete at its closing quote. -/
theorem complete_doubleQuoted (text : String) : complete (Text.doubleQuoted text).toList := by
  have written : (Text.doubleQuoted text).toList =
      '"' :: (text.toList.flatMap Text.doubleQuotedChar ++ ['"']) := String.toList_ofList
  have content := complete_flatMap_append
    (fun c (_ : c ∈ text.toList) => escapes_doubleQuotedChar c) ['"']
  rw [written, complete]
  · rw [content]
    rfl
  · intro c rest isBackslash
    exact absurd isBackslash (by decide)

/-- A bare text is complete as it is. -/
theorem complete_quote (text : String) : complete (Range.quote text).toList := by
  have content := complete_flatMap_append (fun c (_ : c ∈ text.toList) => escapes_escapedChar c) []
  rw [List.append_nil] at content
  rw [Range.quote]
  split
  · rfl
  · rw [escaped_toList, fieldChars, content]
    rfl

/-! ## The parts of a query -/

/-- The parts of a query as a dialect words it. -/
def queryParts (wording : Wording) (filter : Filter Leaf) : List Part :=
  filterParts testParts (filter.bracket.expand fun leaf => wording.condition (Clause.ofLeaf leaf))

/-- A query string whose tests are written as a wording says is read as its parts. -/
theorem parts_text {wording : Wording} {filter : Filter Leaf} {text : Leaf → String}
    (spelled : ∀ leaf ∈ filter.tests,
      (text leaf).toList = (wording.condition (Clause.ofLeaf leaf)).chars Test.chars)
    (ofChoice : ∀ field values, ∀ test ∈ (wording.choice field values).tests, test.values ⊆ values)
    (whole : ∀ value : Scalar, value.isFinite → complete (wording.value value).toList)
    (valid : ∀ leaf ∈ filter.tests, leaf.Valid) :
    parts ((filter.map text).text true).toList = queryParts wording filter := by
  have reads := @parts_filter _ Test.chars testParts
    (filter.bracket.expand fun leaf => wording.condition (Clause.ofLeaf leaf)) ?_ [] endsWord_nil
  · rw [List.append_nil, parts_nil, List.append_nil] at reads
    rw [text_toList spelled, reads, queryParts]
  · intro test member behind ends
    obtain ⟨leaf, isLeaf, inside⟩ := Filter.exists_mem_tests_of_expand member
    rw [Filter.tests_bracket] at isLeaf
    refine parts_test (fun text inTest => ?_) ends
    obtain ⟨value, finite, rfl⟩ :=
      exists_of_mem_values ofChoice (isFinite_ofLeaf (valid leaf isLeaf)) inside inTest
    exact whole value finite

end QueryString

open QueryString

/-- A query string with quoted texts is cut into the parts of the filter that its tree is checked
as. -/
theorem Lucene.parts_render {settings : LuceneSettings}
    (bare : ∀ c ∈ settings.keyPrefix.toList, isSpecial c = false) {expr : Expr} {text : String}
    (rendered : render settings expr = .ok text) :
    ∃ filter, expr.toFilter Expr.leaf = .ok filter ∧
      parts text.toList = queryParts (wording settings) filter := by
  rw [render_eq_map] at rendered
  obtain ⟨filter, checked, rfl⟩ := map_eq_ok_iff.mp rendered
  refine ⟨filter, checked, parts_text ?_ ?_ ?_ ?_⟩
  · exact fun leaf _ => clauseText_toList bare (Clause.ofLeaf leaf)
  · intro field values test member text inTest
    cases values with
    | nil =>
      cases List.mem_singleton.mp member
      cases inTest
    | cons first more =>
      have isTerm : test ∈ (first :: more).map (Test.term field) := by
        rw [List.map_cons, ← tests_anyOf_cons]
        exact member
      obtain ⟨value, isValue, rfl⟩ := List.mem_map.mp isTerm
      cases List.mem_singleton.mp inTest
      exact isValue
  · exact fun value finite => @complete_scalarText style complete_doubleQuoted value finite
  · exact Expr.valid_of_checksAs (Expr.toFilter_eq_ok_iff.mp checked)

/-- A query string with bracketed ranges is cut into the parts of the filter that its tree is
checked as. -/
theorem Range.parts_render {expr : Expr} {text : String} (rendered : render expr = .ok text) :
    ∃ filter, expr.toFilter Expr.leaf = .ok filter ∧
      parts text.toList = queryParts wording filter := by
  rw [render_eq_map] at rendered
  obtain ⟨texts, checked, rfl⟩ := map_eq_ok_iff.mp rendered
  obtain ⟨filter, checks, rfl, haveTexts⟩ := exists_checksAs (Expr.toFilter_eq_ok_iff.mp checked)
  have valid := Expr.valid_of_checksAs checks
  refine ⟨filter, Expr.toFilter_eq_ok_iff.mpr checks, parts_text ?_ ?_ ?_ valid⟩
  · intro leaf member
    exact (spells_of_clauseText? (isFinite_ofLeaf (valid leaf member))
      (haveTexts leaf member)).spelled
  · intro field values test member
    cases List.mem_singleton.mp member
    exact List.Subset.refl values
  · exact fun value finite => @complete_scalarText style complete_quote value finite

/-! ## Texts as terms -/

namespace QueryString

/-- An escaped text is cut into the parts of a text. -/
theorem parts_escaped (text : String) : parts (escaped text).toList = textParts text := by
  have read := parts_fieldChars text endsWord_nil
  rw [List.append_nil, parts_nil, List.append_nil] at read
  rw [escaped_toList, read]

/-- A text as it is written in queries. The texts of one instant are written alike. -/
def writtenText (text : String) : String := ((Timestamp.read? text).map Timestamp.toText).getD text

/-- A timestamp ends with the mark of its time zone. -/
theorem getLast?_toText (timestamp : Timestamp) : timestamp.toText.toList.getLast? = some 'Z' := by
  rw [Timestamp.toText, String.toList_ofList, Timestamp.chars, List.getLast?_append]
  rfl

/-- What is written for a text is not empty. -/
theorem writtenText_ne_empty {text : String} (nonempty : text ≠ "") : writtenText text ≠ "" := by
  rw [writtenText]
  cases Timestamp.read? text with
  | none => exact nonempty
  | some timestamp =>
    intro empty
    have last := getLast?_toText timestamp
    rw [Option.map_some, Option.getD_some] at empty
    rw [empty] at last
    cases last

/-- Neither is a text of an instant a word, nor is a word read as an instant. -/
theorem writtenText_eq_word_iff {text : String} {operator : Operator} :
    writtenText text = operator.word ↔ text = operator.word := by
  rw [writtenText]
  cases read : Timestamp.read? text with
  | none => exact Iff.rfl
  | some timestamp =>
    refine iff_of_false ?_ ?_
    · intro same
      have last := getLast?_toText timestamp
      rw [Option.map_some, Option.getD_some] at same
      rw [same] at last
      cases operator <;> simp [Operator.word] at last
    · rintro rfl
      have short : operator.word.utf8ByteSize ≠ 20 := by cases operator <;> decide
      rw [Timestamp.read?, if_neg short] at read
      cases read

theorem scalarText_text (text : String) :
    Range.style.scalarText (.text text) = Range.quote (writtenText text) := by
  rw [ValueStyle.scalarText, writtenText]
  cases Timestamp.read? text with
  | none => simp only [Option.map_none, Option.getD_none, Range.style]
  | some timestamp => simp only [Option.map_some, Option.getD_some, Range.style]

/-- A text in a query is cut into the parts of what is written for it. -/
theorem parts_scalarText {text : String} (nonempty : text ≠ "") :
    parts (Range.style.scalarText (.text text)).toList = textParts (writtenText text) := by
  rw [scalarText_text, Range.quote, if_neg (writtenText_ne_empty nonempty), parts_escaped]

/-- An escaped text is read as one term that stands for it, unless it is one of the four words that
are operators. The same holds for the texts in bracketed queries. So the queries of both dialects
are read as their own operators, brackets and parentheses, with one part for each field; the prefix
of a field is part of its name if it has no characters with a meaning. -/
theorem parts_escaped_iff (settings : Settings) :
    (∀ text, text ≠ "" → parts (escaped text).toList = textParts text ∧
      (textParts text = [.term text] ↔ ∀ operator : Operator, text ≠ operator.word)) ∧
    (∀ text, text ≠ "" → (parts (Range.style.scalarText (.text text)).toList =
      [.term (writtenText text)] ↔ ∀ operator : Operator, text ≠ operator.word)) ∧
    (∀ expr text, settings.render .range expr = .ok text →
      ∃ filter, expr.toFilter Expr.leaf = .ok filter ∧
        parts text.toList = queryParts Range.wording filter) ∧
    ((∀ c ∈ settings.lucene.keyPrefix.toList, isSpecial c = false) →
      ∀ expr text, settings.render .lucene expr = .ok text →
        ∃ filter, expr.toFilter Expr.leaf = .ok filter ∧
          parts text.toList = queryParts (Lucene.wording settings.lucene) filter) := by
  refine ⟨?_, ?_, ?_, ?_⟩
  · exact fun text nonempty => ⟨parts_escaped text, textParts_eq_iff nonempty⟩
  · intro text nonempty
    rw [parts_scalarText nonempty, textParts_eq_iff (writtenText_ne_empty nonempty)]
    simp only [ne_eq, writtenText_eq_word_iff]
  · exact fun expr text rendered => Range.parts_render rendered
  · exact fun bare expr text rendered => Lucene.parts_render bare rendered

/-- A negated test whose field and text have operators, blanks and a parenthesis in them. -/
theorem parts_escaped_iff_spaced :
    parts (escaped "a OR").toList = [.term "a OR"] ∧
    parts (Range.style.scalarText (.text "x) AND")).toList = [.term "x) AND"] ∧
    ∃ expr filter, expr.toFilter Expr.leaf = .ok filter ∧
      Settings.render { lucene := ⟨"m."⟩ } .range expr = .ok "NOT a\\ OR:x\\)\\ AND" ∧
      parts "NOT a\\ OR:x\\)\\ AND".toList = queryParts Range.wording filter ∧
      queryParts Range.wording filter =
        [.operator .not, .term "a OR", .sign ':', .term "x) AND"] ∧
      Settings.render { lucene := ⟨"m."⟩ } .lucene expr = .ok "NOT m.a\\ OR:\"x) AND\"" ∧
      parts "NOT m.a\\ OR:\"x) AND\"".toList = queryParts (Lucene.wording ⟨"m."⟩) filter := by
  obtain ⟨ofEscaped, ofText, ofRange, ofLucene⟩ := parts_escaped_iff { lucene := ⟨"m."⟩ }
  have ordinary {text : String} (other : Operator.ofWord? text.toList = none) :
      ∀ operator : Operator, text ≠ operator.word := by
    rintro operator rfl
    rw [Operator.ofWord?_eq_some_iff.mpr rfl] at other
    cases other
  have bare : ∀ c ∈ "m.".toList, isSpecial c = false := by
    have plain : isSpecial 'm' = false ∧ isSpecial '.' = false := by decide
    simpa using plain
  obtain ⟨read, isTerm⟩ := ofEscaped "a OR" (by decide)
  obtain ⟨expr, isExpr⟩ : ∃ expr : Expr, expr =
      .not (.expr (.compare .eq ⟨"'a OR'"⟩ (.scalar (.text "x) AND")))) := ⟨_, rfl⟩
  have range : Settings.render { lucene := ⟨"m."⟩ } .range expr = .ok "NOT a\\ OR:x\\)\\ AND" := by
    rw [isExpr]
    decide +kernel
  have lucene : Settings.render { lucene := ⟨"m."⟩ } .lucene expr =
      .ok "NOT m.a\\ OR:\"x) AND\"" := by
    rw [isExpr]
    decide +kernel
  obtain ⟨filter, checked, rangeParts⟩ := ofRange _ _ range
  obtain ⟨same, checkedAgain, luceneParts⟩ := ofLucene bare _ _ lucene
  cases checked.symm.trans checkedAgain
  refine ⟨read.trans (isTerm.mpr (ordinary (by decide))),
    (ofText "x) AND" (by decide)).mpr (ordinary (by decide)), expr, filter, checked, range,
    rangeParts, ?_, lucene, luceneParts⟩
  rw [← rangeParts]
  cbv

/-- The words that are operators are escaped as they are. -/
theorem parts_escaped_or :
    escaped "OR" = "OR" ∧ parts (escaped "OR").toList = [.operator .or] ∧
    (¬ ∀ text, text ≠ "" → parts (escaped text).toList = [.term text]) ∧
    Settings.render {} .range (.compare .eq ⟨"a"⟩ (.scalar (.text "OR"))) = .ok "a:OR" ∧
    parts "a:OR".toList = [.term "a", .sign ':', .operator .or] := by
  have read : parts (escaped "OR").toList = [.operator .or] := by cbv
  refine ⟨by decide, read, ?_, by decide +kernel, by cbv⟩
  intro areTerms
  have isTerm := areTerms "OR" (by decide)
  rw [read] at isTerm
  cases isTerm

end QueryString

end PortableFilter
