import PortableFilter.Proofs.Graph.Meaning
import PortableFilter.Proofs.QueryString.Meaning

/-! # The query strings of the two dialects

Both dialects write clauses in a wording of their own: one quotes its texts and writes a choice as a
group of terms, the other writes texts bare and has choices as tests. Either way a query string is
read without precedence and keeps the meaning of the tree (`render_keepsMeaning`). -/

namespace PortableFilter

open Precedence

mutual

/-- The keys in a tree. -/
def Expr.keys : Expr → List Key
  | .unary _ operand => operand.keys
  | .binary _ left right => left.keys ++ right.keys

def Operand.keys : Operand → List Key
  | .key key => [key]
  | .value _ => []
  | .expr content | .group content => content.keys

end

namespace QueryString

/-! ## Values -/

/-- The characters that a value without quotes does not start with. -/
def opensOther : List Char := ['"', '(', ')', '[', '\x7b', '*']

theorem stops_of_endsValue {rest : List Char} (ends : ∀ c ∈ rest.head?, endsValue c) :
    ∀ c ∈ rest.head?, c ≠ '\\' ∧ endsValue c := by
  intro c isHead
  refine ⟨?_, ends c isHead⟩
  rintro rfl
  exact absurd (ends _ isHead) (by decide)

/-- A value without quotes is written so that it does not end early. -/
theorem isValue_of_escapes {value : String} {text : List Char} {escape : Char → List Char}
    (written : value.toList = text.flatMap escape)
    (escapes : ∀ c ∈ text, Escapes endsValue escape c) {c : Char} {later : List Char}
    (starts : value.toList = c :: later) (plain : c ∉ opensOther) : IsValue value where
  starts := by
    refine ⟨c, later, starts, fun member => plain ?_⟩
    exact List.mem_cons_of_mem _ member
  reads rest ends := by
    have scanned := scan_flatMap escapes (stops_of_endsValue ends)
    rw [← written, starts, List.cons_append] at scanned
    rw [starts, List.cons_append, readValue?]
    · rw [scanned]
      dsimp only
      rw [← starts, String.ofList_toList]
    · rintro text ⟨⟩
      exact plain (by decide)

/-- A text with its special characters escaped is one value. -/
theorem isValue_escaped {text : String} (nonempty : text.toList ≠ []) : IsValue (escaped text) := by
  have written : (escaped text).toList = text.toList.flatMap escapedChar := String.toList_ofList
  have opening : opensOther.all fun d => d ≠ '\\' && isSpecial d := by decide
  have ending : valueEnds.all isSpecial := by decide
  obtain ⟨c, later, starts, solid⟩ := exists_flatMap_escapedChar_eq_cons nonempty
  refine isValue_of_escapes written (fun d _ => ?_) (written.trans starts) fun opens => ?_
  · cases escapes_escapedChar d with
    | escaped written => exact .escaped written
    | plain written solid goesOn =>
      refine .plain written solid (Bool.eq_false_iff.mpr fun isEnd => ?_)
      have special := List.all_eq_true.mp ending d (List.contains_iff_mem.mp isEnd)
      exact Bool.false_ne_true (goesOn.symm.trans special)
  · have special := List.all_eq_true.mp opening c opens
    rcases solid with isBackslash | plain
    · simp [isBackslash] at special
    · simp [plain] at special

/-- The characters that a value without quotes has only behind a backslash. -/
def valueMarks : List Char := '\\' :: ' ' :: ']' :: '\x7d' :: opensOther

/-- A text without marks of its own is one value. -/
theorem isValue_of_notMem {value : String} (nonempty : value.toList ≠ [])
    (bare : ∀ c ∈ value.toList, c ∉ valueMarks) : IsValue value := by
  obtain ⟨c, later, starts⟩ := List.exists_cons_of_ne_nil nonempty
  have opening : opensOther ⊆ valueMarks := fun d opens => by simp [valueMarks, opens]
  have ending : valueEnds ⊆ valueMarks := by
    simp [valueEnds, valueMarks, opensOther]
  have plain : c ∉ opensOther := fun opens => bare c (starts ▸ List.mem_cons_self) (opening opens)
  refine isValue_of_escapes (List.flatMap_singleton' _).symm (fun d member => ?_) starts plain
  refine .plain rfl ?_ (Bool.eq_false_iff.mpr fun isEnd => ?_)
  · rintro rfl
    exact bare _ member List.mem_cons_self
  · exact bare d member (ending (List.contains_iff_mem.mp isEnd))

theorem isValue_of_isNumeral {value : String} (nonempty : value.toList ≠ [])
    (numeral : ∀ c ∈ value.toList, Graph.isNumeral c) : IsValue value := by
  have apart : valueMarks.all fun d => !Graph.isNumeral d := by decide
  apply isValue_of_notMem nonempty
  intro c member isMark
  have other := List.all_eq_true.mp apart c isMark
  simp [numeral c member] at other

/-- Between double quotes, each character is written so that it does not end the text. -/
theorem escapes_doubleQuotedChar (c : Char) :
    Escapes (· = '"') Text.doubleQuotedChar c := by
  by_cases special : c = '\\' ∨ c = '"'
  · exact .escaped (if_pos special)
  · obtain ⟨solid, noQuote⟩ := not_or.mp special
    exact .plain (if_neg special) solid (decide_eq_false noQuote)

theorem isValue_doubleQuoted (text : String) : IsValue (Text.doubleQuoted text) := by
  have written : (Text.doubleQuoted text).toList =
      '"' :: (text.toList.flatMap Text.doubleQuotedChar ++ ['"']) := String.toList_ofList
  refine ⟨⟨'"', _, written, by decide⟩, fun rest _ => ?_⟩
  have closes : ∀ c ∈ ('"' :: rest).head?, c ≠ '\\' ∧ decide (c = '"') :=
    Text.forall_mem_head?_cons (by decide) rest
  have scanned := scan_flatMap (fun c (_ : c ∈ text.toList) => escapes_doubleQuotedChar c) closes
  rw [written, List.cons_append, List.append_assoc, List.singleton_append, readValue?, scanned]
  simp [← written]

/-- In a style whose quoted texts are values, every scalar is written as a value. -/
theorem isValue_scalarText {style : ValueStyle} (quotes : ∀ text, IsValue (style.quote text))
    {value : Scalar} (finite : value.isFinite) : IsValue (style.scalarText value) := by
  cases value with
  | null => exact @isValue_of_notMem "null" (by simp) (by simp [valueMarks, opensOther])
  | bool value =>
    cases value with
    | false => exact @isValue_of_notMem "false" (by simp) (by simp [valueMarks, opensOther])
    | true => exact @isValue_of_notMem "true" (by simp) (by simp [valueMarks, opensOther])
  | int value =>
    obtain ⟨nonempty, numeral⟩ := Graph.wellFormed_argument finite
    exact isValue_of_isNumeral nonempty numeral
  | number value =>
    obtain ⟨nonempty, numeral⟩ := Graph.wellFormed_argument finite
    exact isValue_of_isNumeral nonempty numeral
  | text value =>
    rw [ValueStyle.scalarText]
    split <;> exact quotes _
  | date value => exact quotes _

/-! ## Clauses -/

/-- The key whose field a clause is about. -/
def Clause.key : Clause → Key
  | present _ key | term _ key _ | anyOf _ key _ | bounded _ _ key _ => key

/-- The numbers in a clause are finite. -/
def Clause.IsFinite : Clause → Prop
  | present _ _ => True
  | term _ _ value | bounded _ _ _ value => value.isFinite
  | anyOf _ _ values => ∀ value ∈ values, value.isFinite

/-- The clause of a valid test holds finite values. -/
theorem isFinite_ofLeaf {leaf : Leaf} (valid : leaf.Valid) : (Clause.ofLeaf leaf).IsFinite := by
  cases leaf with
  | compare comparison key value =>
    have finite := valid.2.2
    cases comparison with
    | eq | ne =>
      cases value with
      | null => trivial
      | bool | int | number | text | date => exact finite
    | gt | gte | lt | lte => exact finite
  | member negated key items => exact List.all_eq_true.mp valid.2
  | absent negated key => trivial

/-- The key of a clause is a key of its test. -/
theorem key_ofLeaf_mem_keys (leaf : Leaf) : (Clause.ofLeaf leaf).key ∈ leaf.expr.keys := by
  cases leaf with
  | compare comparison key value =>
    cases comparison <;> cases value <;> exact List.mem_singleton_self key
  | member negated key items => exact List.mem_singleton_self key
  | absent negated key => exact List.mem_singleton_self key

theorem keys_of_content {operand : Operand} {content : Expr}
    (inside : operand.content? = some content) : operand.keys = content.keys := by
  cases operand with
  | key | value => cases inside
  | expr | group =>
    cases inside
    rfl

/-- The tests of a tree are about fields that the tree names. -/
theorem key_mem_keys_of_checksAs {expr : Expr} {filter : Filter Leaf}
    (checks : expr.ChecksAs Expr.leaf filter) :
    ∀ leaf ∈ filter.tests, (Clause.ofLeaf leaf).key ∈ expr.keys := by
  induction checks with
  | test _ passes =>
    obtain ⟨rfl, -⟩ := Expr.leaf_eq_ok_iff.mp passes
    exact List.forall_mem_singleton.mpr (key_ofLeaf_mem_keys _)
  | not inside _ ih =>
    rw [Filter.tests, Operand.tests_enclose, Expr.keys, keys_of_content inside]
    exact ih
  | join inLeft inRight _ _ ihLeft ihRight =>
    rw [Filter.tests, Operand.tests_enclose, Operand.tests_enclose, Expr.keys,
      keys_of_content inLeft, keys_of_content inRight]
    intro leaf member
    rcases List.mem_append.mp member with inLeft | inRight
    · exact List.mem_append_left _ (ihLeft leaf inLeft)
    · exact List.mem_append_right _ (ihRight leaf inRight)

/-- The condition that one of the tests holds, in a group. -/
def anyOf : List Test → Filter Test
  | [] => .leaf .never
  | first :: more => .group ((Chain.map .leaf ⟨first, more⟩).joined .or)

/-- A choice between tests holds if one of them does. -/
theorem holds_anyOf (truth : Atom → Bool) (tests : List Test) :
    (anyOf tests).holds (Test.holds truth) = tests.any (Test.holds truth) := by
  cases tests with
  | nil => rfl
  | cons first more =>
    rw [anyOf, Filter.holds, holds_joined_or, Chain.toList_map, List.any_map]
    rfl

/-- A choice consists of the tests between which it is. -/
theorem tests_anyOf_cons (first : Test) (more : List Test) :
    (anyOf (first :: more)).tests = first :: more := by
  rw [anyOf, Filter.tests, Filter.tests_joined, Chain.toList_map, Chain.toList, List.flatMap_map]
  exact List.flatMap_singleton' _

/-- A choice is written as the texts of its tests. -/
theorem anyOf_toList {ι : Type} {text : ι → String} {test : ι → Test}
    (spelled : ∀ item, (text item).toList = (test item).chars) (items : List ι) :
    (Text.parenthesized (Connective.or.word.intercalate (items.map text))).toList =
      (anyOf (items.map test)).chars Test.chars := by
  cases items with
  | nil => simp [anyOf, Filter.chars_leaf, Text.parenthesized, Test.chars]
  | cons first more =>
    rw [List.map_cons, List.map_cons, anyOf, Filter.chars_group, Filter.chars_joined,
      Text.parenthesized, String.toList_append, String.toList_append, Text.intercalate_cons_toList]
    simp [Chain.map, Filter.chars_leaf, Mark.chars, Connective.word, List.flatMap_map, spelled]

/-- A choice is spelled by the texts of its tests. -/
theorem spells_anyOf {ι : Type} {existence : Bool} {text : ι → String} {test : ι → Test}
    (items : List ι) (wellFormed : ∀ item ∈ items, (test item).WellFormed existence)
    (spelled : ∀ item, (text item).toList = (test item).chars) :
    Spells existence (Text.parenthesized (Connective.or.word.intercalate (items.map text)))
      (anyOf (items.map test)) := by
  have written := anyOf_toList spelled items
  cases items with
  | nil =>
    have never : Test.never.WellFormed existence := trivial
    exact spells_leaf never (written.trans (Filter.chars_leaf _ _))
  | cons first more =>
    refine ⟨written, ?_, rfl, .group (levelled_joined ?_)⟩
    · intro other member
      rw [List.map_cons, tests_anyOf_cons, ← List.map_cons] at member
      obtain ⟨item, isItem, rfl⟩ := List.mem_map.mp member
      exact readsTest (wellFormed item isItem)
    · intro operand member
      rw [Chain.toList_map] at member
      obtain ⟨other, -, rfl⟩ := List.mem_map.mp member
      exact .leaf other

/-- An escaped text is written as a field is. -/
theorem escaped_toList (text : String) : (escaped text).toList = fieldChars text :=
  String.toList_ofList

end QueryString

open QueryString

/-! ## Quoted texts and prefixed fields -/

namespace Lucene

/-- The name of the field that a key names. -/
def field (settings : LuceneSettings) (key : Key) : String := settings.keyPrefix ++ key.unquoted

/-- A choice is a group of terms, and the open side of a range is inclusive. -/
def wording (settings : LuceneSettings) : Wording where
  field := field settings
  value := style.scalarText
  choice field values := anyOf (values.map (.term field))
  brackets
    | .lower, inclusive => (inclusive, true)
    | .upper, inclusive => (true, inclusive)
  holds_choice truth field values := by
    rw [holds_anyOf, List.any_map]
    rfl
  lower_bracket _ := rfl
  upper_bracket _ := rfl

/-- Characters of names and dots have no meaning of their own. -/
theorem isSpecial_eq_false {c : Char} (plain : Text.continuesName c ∨ c = '.') :
    isSpecial c = false := by
  have apart : reserved.all fun d => !(Text.continuesName d || d == '.') := by decide +kernel
  rw [isSpecial, Bool.or_eq_false_iff]
  constructor
  · rw [Bool.eq_false_iff]
    intro isReserved
    have other := List.all_eq_true.mp apart c (List.contains_iff_mem.mp isReserved)
    rcases plain with name | isDot
    · simp [name] at other
    · simp [isDot] at other
  · rcases plain with name | rfl
    · exact Text.isBlank_eq_false_of_continuesName name
    · decide

section

variable {settings : LuceneSettings}
  (bare : ∀ c ∈ settings.keyPrefix.toList, isSpecial c = false)

include bare

/-- A prefix without special characters is part of the name of the field. -/
theorem keyText_toList (key : Key) :
    (keyText settings key).toList = fieldChars (field settings key) := by
  have prefixChars : settings.keyPrefix.toList.flatMap escapedChar = settings.keyPrefix.toList := by
    conv_rhs => rw [← List.flatMap_singleton' settings.keyPrefix.toList]
    exact List.flatMap_congr fun c member => escapedChar_eq_self (bare c member)
  rw [keyText, field, String.toList_append, escaped_toList, fieldChars, fieldChars,
    String.toList_append, List.flatMap_append, prefixChars]

/-- The question whether a field exists is spelled as such. -/
theorem presentText_toList (key : Key) :
    ("_exists_:" ++ keyText settings key).toList = (Test.present (field settings key)).chars := by
  rw [String.toList_append, keyText_toList bare]
  rfl

/-- The term that a field has a value is spelled as such. -/
theorem scalarTermText_toList (key : Key) (value : Scalar) :
    (scalarTermText settings key value).toList =
      (Test.term (field settings key) (style.scalarText value)).chars := by
  rw [scalarTermText, String.toList_append, String.toList_append, keyText_toList bare, Test.chars]
  simp

/-- A clause is written as the wording says. -/
theorem clauseText_toList (clause : Clause) :
    (clauseText settings clause).toList =
      ((wording settings).condition clause).chars Test.chars := by
  cases clause with
  | present negated key =>
    exact negatedText_toList ((presentText_toList bare key).trans (Filter.chars_leaf _ _).symm) _
  | term negated key value =>
    have written := (scalarTermText_toList bare key value).trans (Filter.chars_leaf _ _).symm
    exact negatedText_toList written _
  | anyOf negated key values =>
    rw [Wording.condition]
    simp only [wording, List.map_map]
    exact negatedText_toList (anyOf_toList (scalarTermText_toList bare key) values) negated
  | bounded bound inclusive key value =>
    rw [Wording.condition, Filter.chars_leaf]
    cases bound <;> cases inclusive <;>
      simp [clauseText, brackets, rangeText, keyText_toList bare, Test.chars, wording, openingChar,
        closingChar, rangeChars]

end

/-- The text of a clause is read as the wording says. -/
theorem spells_clauseText {settings : LuceneSettings}
    (plain : ∀ c ∈ settings.keyPrefix.toList, Text.continuesName c ∨ c = '.') {clause : Clause}
    (finite : clause.IsFinite) (ordinary : field settings clause.key ≠ existenceField) :
    Spells true (clauseText settings clause) ((wording settings).condition clause) := by
  have isValue : ∀ {value : Scalar}, value.isFinite → IsValue (style.scalarText value) :=
    isValue_scalarText isValue_doubleQuoted
  have bare : ∀ c ∈ settings.keyPrefix.toList, isSpecial c = false :=
    fun c member => isSpecial_eq_false (plain c member)
  cases clause with
  | present negated key =>
    have wellFormed : (Test.present (field settings key)).WellFormed true := rfl
    exact (spells_leaf wellFormed (presentText_toList bare key)).negated negated
  | term negated key value =>
    have wellFormed :
        (Test.term (field settings key) (style.scalarText value)).WellFormed true :=
      ⟨fun _ => ordinary, isValue finite⟩
    exact (spells_leaf wellFormed (scalarTermText_toList bare key value)).negated negated
  | anyOf negated key values =>
    -- Each value has a term of its own, so that the choice is a level of the query and no test.
    have wellFormed : ∀ value ∈ values,
        (Test.term (field settings key) (style.scalarText value)).WellFormed true :=
      fun value member => ⟨fun _ => ordinary, isValue (finite value member)⟩
    have terms := (spells_anyOf values wellFormed (scalarTermText_toList bare key)).negated negated
    rw [Wording.condition]
    simp only [wording, List.map_map]
    exact terms
  | bounded bound inclusive key value =>
    have wellFormed : ∀ closedBelow closedAbove, (Test.range (field settings key) bound closedBelow
        closedAbove (style.scalarText value)).WellFormed true :=
      fun _ _ => ⟨fun _ => ordinary, isValue finite⟩
    have written := clauseText_toList bare (.bounded bound inclusive key value)
    exact spells_leaf (wellFormed _ _) (written.trans (Filter.chars_leaf _ _))

end Lucene

/-! ## Bare texts and bracketed ranges -/

namespace Range

/-- A choice is a test, and both brackets of a range are of one kind. -/
def wording : Wording where
  field := Key.unquoted
  value := style.scalarText
  choice field values := .leaf (.oneOf field values)
  brackets _ inclusive := (inclusive, inclusive)
  holds_choice _ _ _ := rfl
  lower_bracket _ := rfl
  upper_bracket _ := rfl

/-- A text is one value, also if it is empty. -/
theorem isValue_quote (text : String) : IsValue (quote text) := by
  rw [quote]
  by_cases empty : text = ""
  · rw [if_pos empty]
    exact isValue_doubleQuoted ""
  · rw [if_neg empty]
    exact isValue_escaped fun noChars => empty (String.toList_eq_nil_iff.mp noChars)

/-- A list of values is spelled as a choice. -/
theorem scalarsText_toList (values : List Scalar) :
    (style.scalarsText values).toList = '(' :: choiceChars (values.map style.scalarText) := by
  cases values with
  | nil => rfl
  | cons value values =>
    rw [ValueStyle.scalarsText_cons_toList fun _ => rfl, List.map_cons, choiceChars, moreChars,
      List.flatMap_map]
    rfl

/-- A clause of finite values that is written spells its condition. -/
theorem spells_of_clauseText? {clause : Clause} (finite : clause.IsFinite) {text : String}
    (written : clauseText? clause = some text) : Spells false text (wording.condition clause) := by
  have isValue : ∀ {value : Scalar}, value.isFinite → IsValue (style.scalarText value) :=
    isValue_scalarText isValue_quote
  cases clause with
  | present => cases written
  | term negated key value =>
    cases written
    have wellFormed : (Test.term key.unquoted (style.scalarText value)).WellFormed false :=
      ⟨nofun, isValue finite⟩
    refine (spells_leaf wellFormed ?_).negated negated
    simp [keyText, escaped_toList, Test.chars]
  | anyOf negated key values =>
    cases written
    have wellFormed :
        (Test.oneOf key.unquoted (values.map style.scalarText)).WellFormed false := by
      refine ⟨nofun, fun text member => ?_⟩
      obtain ⟨value, isMember, rfl⟩ := List.mem_map.mp member
      exact isValue (finite value isMember)
    refine (spells_leaf wellFormed ?_).negated negated
    simp [keyText, escaped_toList, Test.chars, scalarsText_toList]
  | bounded bound inclusive key value =>
    have wellFormed : (Test.range key.unquoted bound inclusive inclusive
        (style.scalarText value)).WellFormed false :=
      ⟨nofun, isValue finite⟩
    refine spells_leaf wellFormed ?_
    rw [clauseText?, Option.some.injEq] at written
    rw [← written]
    cases bound <;> cases inclusive <;>
      simp [brackets, rangeText, keyText, escaped_toList, Test.chars, openingChar, closingChar,
        rangeChars, wording]

/-- The text of a test that has one. -/
def testText (leaf : Leaf) : String := (clauseText? (Clause.ofLeaf leaf)).getD ""

/-- A tree that passes the check of the dialect passes the common check, as a filter whose tests
all have texts. -/
theorem exists_checksAs {expr : Expr} {texts : Filter String}
    (checks : expr.ChecksAs leafText texts) :
    ∃ filter, expr.ChecksAs Expr.leaf filter ∧ texts = filter.map testText ∧
      ∀ leaf ∈ filter.tests, clauseText? (Clause.ofLeaf leaf) = some (testText leaf) := by
  induction checks with
  | test isTest passes =>
    obtain ⟨leaf, isLeaf, valid, written⟩ := leafText_eq_ok_iff.mp passes
    refine ⟨.leaf leaf, .test isTest (Expr.leaf_eq_ok_iff.mpr ⟨isLeaf, valid⟩), ?_, ?_⟩
    · rw [Filter.map, testText, written, Option.getD_some]
    · refine List.forall_mem_singleton.mpr ?_
      rw [testText, written, Option.getD_some]
  | @not operand _ _ inside _ ih =>
    obtain ⟨filter, checks, rfl, haveTexts⟩ := ih
    refine ⟨_, .not inside checks, ?_, ?_⟩
    · rw [Filter.map, Operand.map_enclose]
    · rwa [Filter.tests, Operand.tests_enclose]
  | join inLeft inRight _ _ ihLeft ihRight =>
    obtain ⟨leftFilter, checksLeft, rfl, leftTexts⟩ := ihLeft
    obtain ⟨rightFilter, checksRight, rfl, rightTexts⟩ := ihRight
    refine ⟨_, .join inLeft inRight checksLeft checksRight, ?_, ?_⟩
    · rw [Filter.map, Operand.map_enclose, Operand.map_enclose]
    · rw [Filter.tests, Operand.tests_enclose, Operand.tests_enclose]
      exact List.forall_mem_append.mpr ⟨leftTexts, rightTexts⟩

/-- A query string with bracketed ranges keeps the meaning of its tree. -/
theorem keepsMeaning_of_render {expr : Expr} {text : String} (rendered : render expr = .ok text) :
    KeepsMeaning false Key.unquoted style.scalarText expr text := by
  rw [render_eq_map] at rendered
  obtain ⟨texts, checked, rfl⟩ := map_eq_ok_iff.mp rendered
  obtain ⟨filter, checks, rfl, haveTexts⟩ := exists_checksAs (Expr.toFilter_eq_ok_iff.mp checked)
  refine @keepsMeaning_text wording _ _ _ checks _ fun leaf member => ?_
  exact spells_of_clauseText? (isFinite_ofLeaf (Expr.valid_of_checksAs checks leaf member))
    (haveTexts leaf member)

end Range

/-! ## Query strings keep the meaning of trees -/

namespace QueryString

/-- The query strings of both dialects are read without precedence and mean what the tree means. A
prefix of fields has to be made of characters of names and dots, and no field may have the name that
asks whether fields exist. -/
theorem render_keepsMeaning (settings : Settings) {expr : Expr} (shaped : expr.Shaped) :
    ((∀ c ∈ settings.lucene.keyPrefix.toList, Text.continuesName c ∨ c = '.') →
      (∀ key ∈ expr.keys, Lucene.field settings.lucene key ≠ existenceField) →
      ∃ text, settings.render .lucene expr = .ok text ∧
        KeepsMeaning true (Lucene.field settings.lucene) Lucene.style.scalarText expr text) ∧
      ∀ text, settings.render .range expr = .ok text →
        KeepsMeaning false Key.unquoted Range.style.scalarText expr text := by
  refine ⟨fun plain ordinary => ?_, fun text => Range.keepsMeaning_of_render⟩
  obtain ⟨filter, checked⟩ := (Expr.exists_toFilter_iff_shaped expr).mpr shaped
  have checks := Expr.toFilter_eq_ok_iff.mp checked
  refine ⟨_, (Lucene.render_eq_map _ expr).trans (congrArg (Except.map _) checked), ?_⟩
  refine @keepsMeaning_text (Lucene.wording settings.lucene) _ _ _ checks _
    fun leaf member => ?_
  exact Lucene.spells_clauseText plain
    (isFinite_ofLeaf (Expr.valid_of_checksAs checks leaf member))
    (ordinary _ (key_mem_keys_of_checksAs checks leaf member))

/-- A tree with words and parentheses in its keys and values, with connectives in connectives of the
other kind, and with a choice from nothing. -/
theorem render_keepsMeaning_nested : ∃ expr : Expr, expr.Shaped ∧
    (∀ c ∈ "m.".toList, Text.continuesName c ∨ c = '.') ∧
    (∀ key ∈ expr.keys, Lucene.field ⟨"m."⟩ key ≠ existenceField) ∧
    (∃ text, Settings.render { lucene := ⟨"m."⟩ } .lucene expr = .ok text ∧
      text = "(m.a\\ OR:\"x) AND\" OR (m.b:1 OR m.b:-2)) AND NOT ((m.c:\x7b4 TO *]) OR NOT ())" ∧
      KeepsMeaning true (Lucene.field ⟨"m."⟩) Lucene.style.scalarText expr text) ∧
    ∃ text, Settings.render { lucene := ⟨"m."⟩ } .range expr = .ok text ∧
      text = "(a\\ OR:x\\)\\ AND OR b:(1 OR -2)) AND NOT ((c:\x7b4 TO *\x7d) OR NOT d:())" ∧
      KeepsMeaning false Key.unquoted Range.style.scalarText expr text := by
  obtain ⟨expr, isExpr⟩ : ∃ expr : Expr, expr = .join .and
      (.expr (.join .or (.expr (.compare .eq ⟨"a OR"⟩ (.scalar (.text "x) AND"))))
        (.expr (.member false ⟨"b"⟩ (.ofScalars [.int 1, .int (-2)])))))
      (.expr (.not (.expr (.join .or (.group (.compare .gt ⟨"c"⟩ (.scalar (.int 4))))
        (.expr (.member true ⟨"d"⟩ (.ofScalars []))))))) := ⟨_, rfl⟩
  have shaped : expr.Shaped := by
    rw [isExpr]
    exact (Expr.exists_toFilter_iff_shaped _).mp ⟨_, rfl⟩
  have plain : ∀ c ∈ "m.".toList, Text.continuesName c ∨ c = '.' := by
    have name : Text.continuesName 'm' := by decide
    simp [name]
  have ordinary : ∀ key ∈ expr.keys, Lucene.field ⟨"m."⟩ key ≠ existenceField := by
    rw [isExpr]
    decide
  have lucene : Settings.render { lucene := ⟨"m."⟩ } .lucene expr =
      .ok "(m.a\\ OR:\"x) AND\" OR (m.b:1 OR m.b:-2)) AND NOT ((m.c:\x7b4 TO *]) OR NOT ())" := by
    rw [isExpr, Settings.render, Lucene.render_eq_map]
    decide +kernel
  have range : Settings.render { lucene := ⟨"m."⟩ } .range expr =
      .ok "(a\\ OR:x\\)\\ AND OR b:(1 OR -2)) AND NOT ((c:\x7b4 TO *\x7d) OR NOT d:())" := by
    rw [isExpr, Settings.render, Range.render_eq_map]
    decide +kernel
  obtain ⟨ofLucene, ofRange⟩ := render_keepsMeaning { lucene := ⟨"m."⟩ } shaped
  obtain ⟨text, rendered, keeps⟩ := ofLucene plain ordinary
  cases lucene.symm.trans rendered
  exact ⟨expr, shaped, plain, ordinary, ⟨_, rendered, rfl, keeps⟩, _, range, rfl, ofRange _ range⟩

end QueryString

end PortableFilter
