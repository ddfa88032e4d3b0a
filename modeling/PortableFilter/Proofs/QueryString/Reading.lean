import PortableFilter.QueryString
import PortableFilter.Proofs.Precedence.Uniform
import PortableFilter.Proofs.Text

/-! # Reading query strings

`QueryString.read?` reads the text of a query without precedence. A backslash takes away the meaning
of the character behind it. The name of a field is what its text stands for, whereas a value is kept
as it is written, so that two values are the same exactly if they are written alike. A test of a
field is read from its text (`readsTest`). -/

namespace PortableFilter.QueryString

open Precedence

/-- What a query asks of a field. -/
inductive Test where
  /-- The field exists. -/
  | present (field : String)
  /-- The field has the value. -/
  | term (field value : String)
  /-- The field has one of the values. -/
  | oneOf (field : String) (values : List String)
  /-- The value bounds the field. The brackets on both sides say whether the ends of the range
  belong to it. -/
  | range (field : String) (bound : Bound) (closedBelow closedAbove : Bool) (value : String)
  /-- There is nothing to choose from. -/
  | never
  deriving DecidableEq, Repr

/-! ## The reader -/

/-- Splits a text at the first character that ends it and has no backslash before it. -/
def scan (ends : Char → Bool) : List Char → List Char × List Char
  | [] => ([], [])
  | '\\' :: c :: rest => Prod.map (['\\', c] ++ ·) id (scan ends rest)
  | c :: rest => if ends c then ([], c :: rest) else Prod.map (c :: ·) id (scan ends rest)

/-- What a text with backslashes stands for. -/
def withoutEscapes : List Char → List Char
  | [] => []
  | '\\' :: c :: rest => c :: withoutEscapes rest
  | c :: rest => c :: withoutEscapes rest

/-- Whether a character has a meaning unless there is a backslash before it. -/
def isSpecial (c : Char) : Bool := reserved.contains c || Text.isBlank c

/-- Reads the name of a field. -/
def readField (text : List Char) : String × List Char :=
  Prod.map (fun name => String.ofList (withoutEscapes name)) id (scan isSpecial text)

/-- The characters at which a value that is not quoted ends. -/
def valueEnds : List Char := [' ', ')', ']', '\x7d']

def endsValue (c : Char) : Bool := valueEnds.contains c

/-- Reads a value as it is written. -/
def readValue? : List Char → Option (String × List Char)
  | '"' :: text =>
    match scan (· = '"') text with
    | (quoted, '"' :: rest) => some (String.ofList ('"' :: (quoted ++ ['"'])), rest)
    | _ => none
  | text =>
    match scan endsValue text with
    | ([], _) => none
    | (value, rest) => some (String.ofList value, rest)

/-- Reads the values of a choice, at most `count` of them, and its closing parenthesis. -/
def readValues? : (count : Nat) → List Char → Option (List String × List Char)
  | 0, _ => none
  | count + 1, text =>
    match readValue? text with
    | some (value, ')' :: rest) => some ([value], rest)
    | some (value, ' ' :: 'O' :: 'R' :: ' ' :: rest) =>
      (readValues? count rest).map fun (values, rest) => (value :: values, rest)
    | _ => none

/-- Reads a choice behind its opening parenthesis. -/
def readChoice? (field : String) : List Char → Option (Test × List Char)
  | ')' :: rest => some (.oneOf field [], rest)
  | text => (readValues? text.length text).map fun (values, rest) => (.oneOf field values, rest)

/-- Reads the bracket above a range. -/
def readClosing? : List Char → Option (Bool × List Char)
  | ']' :: rest => some (true, rest)
  | '\x7d' :: rest => some (false, rest)
  | _ => none

/-- Reads a range behind the bracket below it. -/
def readRange? (field : String) (closedBelow : Bool) (text : List Char) :
    Option (Test × List Char) :=
  match dropWord? ['*', ' ', 'T', 'O', ' '] text with
  | some text =>
    (readValue? text).bind fun (value, rest) =>
      (readClosing? rest).map fun (closedAbove, rest) =>
        (.range field .upper closedBelow closedAbove value, rest)
  | none =>
    (readValue? text).bind fun (value, rest) =>
      (dropWord? [' ', 'T', 'O', ' ', '*'] rest).bind fun rest =>
        (readClosing? rest).map fun (closedAbove, rest) =>
          (.range field .lower closedBelow closedAbove value, rest)

/-- Reads what is asked of a field. -/
def readPredicate? (field : String) : List Char → Option (Test × List Char)
  | '(' :: rest => readChoice? field rest
  | '[' :: rest => readRange? field true rest
  | '\x7b' :: rest => readRange? field false rest
  | text => (readValue? text).map fun (value, rest) => (.term field value, rest)

/-- The field that asks whether another field exists, in the dialects that can ask this. -/
def existenceField : String := "_exists_"

/-- Reads a test. -/
def readTest? (existence : Bool) : List Char → Option (Test × List Char)
  | '(' :: ')' :: rest => some (.never, rest)
  | text =>
    match readField text with
    | (field, ':' :: rest) =>
      if existence && field = existenceField then
        some (Prod.map .present id (readField rest))
      else readPredicate? field rest
    | _ => none

/-- The query that a text spells, if it does not depend on precedence. -/
def read? (existence : Bool) (text : String) : Option (Filter Test) :=
  uniformOfText? (readTest? existence) text.toList

/-! ## Spelling -/

/-- The text of a field. -/
def fieldChars (field : String) : List Char := field.toList.flatMap escapedChar

/-- The text of the values of a choice behind the first one, and of its closing parenthesis. -/
def moreChars (values : List String) : List Char :=
  values.flatMap (fun value => ' ' :: 'O' :: 'R' :: ' ' :: value.toList) ++ [')']

/-- The text of a choice behind its opening parenthesis. -/
def choiceChars : List String → List Char
  | [] => [')']
  | value :: values => value.toList ++ moreChars values

def openingChar (closed : Bool) : Char := if closed then '[' else '\x7b'

def closingChar (closed : Bool) : Char := if closed then ']' else '\x7d'

/-- The text of a range behind the bracket below it. -/
def rangeChars (bound : Bound) (closedAbove : Bool) (value : String) : List Char :=
  match bound with
  | .lower => value.toList ++ ([' ', 'T', 'O', ' ', '*'] ++ [closingChar closedAbove])
  | .upper => ['*', ' ', 'T', 'O', ' '] ++ (value.toList ++ [closingChar closedAbove])

/-- The text of a test. -/
def Test.chars : Test → List Char
  | present field => fieldChars existenceField ++ ':' :: fieldChars field
  | term field value => fieldChars field ++ ':' :: value.toList
  | oneOf field values => fieldChars field ++ ':' :: '(' :: choiceChars values
  | range field bound closedBelow closedAbove value =>
    fieldChars field ++ ':' :: openingChar closedBelow :: rangeChars bound closedAbove value
  | never => ['(', ')']

/-- A value is read from its text, and does not look like anything else. -/
structure IsValue (value : String) : Prop where
  starts : ∃ c later, value.toList = c :: later ∧ c ∉ ['(', ')', '[', '\x7b', '*']
  reads : ∀ rest, (∀ c ∈ rest.head?, endsValue c) →
    readValue? (value.toList ++ rest) = some (value, rest)

/-- The values in a test are values, and other questions than that for existence are not asked of
the field that stands for it. -/
def Test.WellFormed (existence : Bool) : Test → Prop
  | present _ => existence
  | term field value => (existence → field ≠ existenceField) ∧ IsValue value
  | oneOf field values => (existence → field ≠ existenceField) ∧ ∀ value ∈ values, IsValue value
  | range field _ _ _ value => (existence → field ≠ existenceField) ∧ IsValue value
  | never => True

/-! ## Escaped texts -/

/-- A character is written so that it does not end a text: behind a backslash or, if it neither ends
texts nor is a backslash, as it is. -/
inductive Escapes (ends : Char → Bool) (escape : Char → List Char) (c : Char) : Prop
  | escaped (written : escape c = ['\\', c])
  | plain (written : escape c = [c]) (solid : c ≠ '\\') (goesOn : ends c = false)

section

variable {ends : Char → Bool} {escape : Char → List Char}

/-- An escaped text is split off at the character that ends it. -/
theorem scan_flatMap {text : List Char} (escapes : ∀ c ∈ text, Escapes ends escape c)
    {rest : List Char} (stops : ∀ c ∈ rest.head?, c ≠ '\\' ∧ ends c) :
    scan ends (text.flatMap escape ++ rest) = (text.flatMap escape, rest) := by
  induction text with
  | nil =>
    cases rest with
    | nil => rfl
    | cons c rest =>
      obtain ⟨solid, isEnd⟩ := stops c rfl
      rw [List.flatMap_nil, List.nil_append, scan]
      · rw [if_pos isEnd]
      · exact fun _ _ isBackslash _ => solid isBackslash
  | cons c text ih =>
    obtain ⟨ofFirst, ofText⟩ := List.forall_mem_cons.mp escapes
    have later := ih ofText
    rw [List.flatMap_cons, List.append_assoc]
    cases ofFirst with
    | escaped written =>
      rw [written, List.cons_append, List.cons_append, List.nil_append, scan, later]
      rfl
    | plain written solid goesOn =>
      rw [written, List.cons_append, List.nil_append, scan]
      · rw [goesOn, if_neg Bool.false_ne_true, later]
        rfl
      · exact fun _ _ isBackslash _ => solid isBackslash

/-- A text is what is left of its escaped characters without the escapes. -/
theorem withoutEscapes_flatMap {text : List Char} (escapes : ∀ c ∈ text, Escapes ends escape c) :
    withoutEscapes (text.flatMap escape) = text := by
  induction text with
  | nil => rfl
  | cons c text ih =>
    obtain ⟨ofFirst, ofText⟩ := List.forall_mem_cons.mp escapes
    have later := ih ofText
    rw [List.flatMap_cons]
    cases ofFirst with
    | escaped written =>
      rw [written, List.cons_append, List.cons_append, List.nil_append, withoutEscapes, later]
    | plain written solid _ =>
      rw [written, List.cons_append, List.nil_append, withoutEscapes]
      · rw [later]
      · exact fun _ _ isBackslash _ => solid isBackslash

end

/-- A character without a meaning of its own is not escaped. -/
theorem escapedChar_eq_self {c : Char} (plain : isSpecial c = false) : escapedChar c = [c] :=
  if_neg (Bool.eq_false_iff.mp plain)

/-- Each character is written so that it does not end a word. -/
theorem escapes_escapedChar (c : Char) : Escapes isSpecial escapedChar c := by
  cases special : isSpecial c with
  | true => exact .escaped (if_pos special)
  | false =>
    refine .plain (escapedChar_eq_self special) ?_ special
    rintro rfl
    exact absurd special (by decide)

/-- The name of a field is read up to a character with a meaning. -/
theorem readField_chars (field : String) {rest : List Char}
    (stops : ∀ c ∈ rest.head?, c ≠ '\\' ∧ isSpecial c) :
    readField (fieldChars field ++ rest) = (field, rest) := by
  have escapes : ∀ c ∈ field.toList, Escapes isSpecial escapedChar c :=
    fun c _ => escapes_escapedChar c
  rw [readField, fieldChars, scan_flatMap escapes stops, Prod.map, withoutEscapes_flatMap escapes,
    String.ofList_toList, id]

/-- A field is read back up to its colon. -/
theorem readField_colon (field : String) (rest : List Char) :
    readField (fieldChars field ++ ':' :: rest) = (field, ':' :: rest) :=
  readField_chars field (Text.forall_mem_head?_cons (by decide) rest)

/-- An escaped text starts with a backslash or with a character that has no meaning. -/
theorem exists_flatMap_escapedChar_eq_cons {text : List Char} (nonempty : text ≠ []) :
    ∃ c later, text.flatMap escapedChar = c :: later ∧ (c = '\\' ∨ isSpecial c = false) := by
  obtain ⟨c, more, rfl⟩ := List.exists_cons_of_ne_nil nonempty
  rw [List.flatMap_cons]
  cases escapes_escapedChar c with
  | escaped written => exact ⟨'\\', c :: more.flatMap escapedChar, by rw [written]; rfl, .inl rfl⟩
  | plain written _ goesOn =>
    exact ⟨c, more.flatMap escapedChar, by rw [written]; rfl, .inr goesOn⟩

/-- A field does not start like a parenthesis. -/
theorem head?_fieldChars_ne (field : String) (rest : List Char) :
    (fieldChars field ++ ':' :: rest).head? ≠ some '(' ∧
      (fieldChars field ++ ':' :: rest).head? ≠ some ')' := by
  rw [fieldChars]
  by_cases empty : field.toList = []
  · simp [empty]
  · obtain ⟨c, later, spelled, solid⟩ := exists_flatMap_escapedChar_eq_cons empty
    rw [spelled, List.cons_append, List.head?_cons]
    constructor <;>
    · intro isHead
      rw [Option.some.inj isHead] at solid
      exact absurd solid (by decide)

/-! ## Tests are read from their texts -/

/-- Further values end the value before them. -/
theorem endsValue_moreChars (values : List String) (rest : List Char) :
    ∀ c ∈ (moreChars values ++ rest).head?, endsValue c := by
  cases values with
  | nil | cons => exact Text.forall_mem_head?_cons (by decide) _

/-- The values of a choice are read back. -/
theorem readValues?_chars {value : String} {values : List String}
    (areValues : ∀ other ∈ value :: values, IsValue other) (rest : List Char) {count : Nat}
    (enough : values.length < count) :
    readValues? count (value.toList ++ (moreChars values ++ rest)) =
      some (value :: values, rest) := by
  induction values generalizing value count with
  | nil =>
    obtain ⟨count, rfl⟩ := Nat.exists_eq_add_of_lt enough
    have read := (areValues value List.mem_cons_self).reads _ (endsValue_moreChars [] rest)
    rw [readValues?, read]
    rfl
  | cons next values ih =>
    obtain ⟨isValue, areLater⟩ := List.forall_mem_cons.mp areValues
    cases count with
    | zero => exact absurd enough (Nat.not_lt_zero _)
    | succ count =>
      have read := isValue.reads _ (endsValue_moreChars (next :: values) rest)
      have later := ih areLater (Nat.lt_of_succ_lt_succ enough)
      have separated : moreChars (next :: values) ++ rest =
          ' ' :: 'O' :: 'R' :: ' ' :: (next.toList ++ (moreChars values ++ rest)) := by
        simp [moreChars]
      rw [readValues?, read]
      simp [separated, later]

theorem readChoice?_chars (field : String) {values : List String}
    (areValues : ∀ value ∈ values, IsValue value) (rest : List Char) :
    readChoice? field (choiceChars values ++ rest) = some (.oneOf field values, rest) := by
  cases values with
  | nil => rfl
  | cons value values =>
    have enough : values.length < (value.toList ++ (moreChars values ++ rest)).length := by
      have separators := @length_le_length_flatMap _ _ values
        (fun value => ' ' :: 'O' :: 'R' :: ' ' :: value.toList) fun _ _ => List.cons_ne_nil _ _
      simp only [moreChars, List.length_append, List.length_singleton]
      omega
    have read := readValues?_chars areValues rest enough
    obtain ⟨c, later, spelled, plain⟩ := (areValues value List.mem_cons_self).starts
    rw [choiceChars, List.append_assoc, readChoice?, read]
    · rfl
    · intro others isClosing
      rw [spelled] at isClosing
      cases isClosing
      exact plain (by decide)

theorem readClosing?_closingChar (closed : Bool) (rest : List Char) :
    readClosing? (closingChar closed :: rest) = some (closed, rest) := by
  cases closed <;> rfl

theorem endsValue_closingChar (closed : Bool) : endsValue (closingChar closed) := by
  cases closed <;> decide

/-- A range is read back behind its opening bracket. -/
theorem readRange?_chars (field : String) (bound : Bound) (closedBelow closedAbove : Bool)
    {value : String} (isValue : IsValue value) (rest : List Char) :
    readRange? field closedBelow (rangeChars bound closedAbove value ++ rest) =
      some (.range field bound closedBelow closedAbove value, rest) := by
  cases bound with
  | lower =>
    obtain ⟨c, later, spelled, plain⟩ := isValue.starts
    have noStar : dropWord? ['*', ' ', 'T', 'O', ' ']
        (rangeChars .lower closedAbove value ++ rest) = none := by
      rw [rangeChars, spelled]
      refine if_neg ?_
      rintro rfl
      exact plain (by decide)
    have read := isValue.reads ([' ', 'T', 'O', ' ', '*'] ++ closingChar closedAbove :: rest)
      (Text.forall_mem_head?_cons (by decide) _)
    rw [readRange?, noStar, rangeChars, List.append_assoc, List.append_assoc,
      List.singleton_append]
    dsimp only
    rw [read, Option.bind_some, dropWord?_append, Option.bind_some, readClosing?_closingChar]
    rfl
  | upper =>
    have read := isValue.reads (closingChar closedAbove :: rest)
      (Text.forall_mem_head?_cons (endsValue_closingChar closedAbove) rest)
    rw [readRange?, rangeChars, List.append_assoc, dropWord?_append, List.append_assoc,
      List.singleton_append]
    dsimp only
    rw [read, Option.bind_some, readClosing?_closingChar]
    rfl

/-- A value behind a field is read back as a term. -/
theorem readPredicate?_value (field : String) {value : String} (isValue : IsValue value)
    {rest : List Char} (ends : ∀ c ∈ rest.head?, endsValue c) :
    readPredicate? field (value.toList ++ rest) = some (.term field value, rest) := by
  have read := isValue.reads rest ends
  obtain ⟨c, later, spelled, plain⟩ := isValue.starts
  rw [spelled, List.cons_append] at read ⊢
  rw [readPredicate?, read]
  · rfl
  all_goals
    intro others isOther
    cases isOther
    exact plain (by decide)

/-- An opening bracket behind a field starts a range. -/
theorem readPredicate?_range (field : String) (closedBelow : Bool) (rest : List Char) :
    readPredicate? field (openingChar closedBelow :: rest) = readRange? field closedBelow rest := by
  cases closedBelow <;> rfl

/-- What stands behind a field is read as what is asked of it, or as the field whose existence is
asked. -/
theorem readTest?_colon (existence : Bool) (field : String) (rest : List Char) :
    readTest? existence (fieldChars field ++ ':' :: rest) =
      if existence && field = existenceField then some (Prod.map .present id (readField rest))
      else readPredicate? field rest := by
  have noGroup := (head?_fieldChars_ne field rest).1
  rw [readTest?]
  · rw [readField_colon]
    rfl
  · intro others isGroup
    exact noGroup (congrArg List.head? isGroup)

/-- A field that does not ask for existence is followed by its predicate. -/
theorem readTest?_field {existence : Bool} {field : String}
    (plain : existence → field ≠ existenceField) (rest : List Char) :
    readTest? existence (fieldChars field ++ ':' :: rest) = readPredicate? field rest := by
  rw [readTest?_colon]
  refine if_neg ?_
  simpa using plain

/-- No test starts with a closing parenthesis. -/
theorem head?_chars_ne (test : Test) (rest : List Char) :
    (test.chars ++ rest).head? ≠ some ')' := by
  cases test with
  | present field | term field | oneOf field | range field =>
    rw [Test.chars, List.append_assoc]
    exact (head?_fieldChars_ne _ _).2
  | never => simp [Test.chars]

/-- A well-formed test is read back. -/
theorem reads_chars {existence : Bool} {test : Test} (wellFormed : test.WellFormed existence)
    {rest : List Char} (ends : EndsOperand rest) :
    readTest? existence (test.chars ++ rest) = some (test, rest) := by
  cases test with
  | present field =>
    have stops : ∀ c ∈ rest.head?, c ≠ '\\' ∧ isSpecial c := by
      intro c isHead
      rcases ends c isHead with rfl | rfl <;> decide
    have asks : existence = true := wellFormed
    rw [Test.chars, List.append_assoc, List.cons_append, readTest?_colon, asks,
      readField_chars field stops]
    rfl
  | term field value =>
    have valueEnds : ∀ c ∈ rest.head?, endsValue c := by
      intro c isHead
      rcases ends c isHead with rfl | rfl <;> decide
    rw [Test.chars, List.append_assoc, List.cons_append, readTest?_field wellFormed.1,
      readPredicate?_value field wellFormed.2 valueEnds]
  | oneOf field values =>
    rw [Test.chars, List.append_assoc, List.cons_append, List.cons_append,
      readTest?_field wellFormed.1, readPredicate?, readChoice?_chars field wellFormed.2]
  | range field bound closedBelow closedAbove value =>
    rw [Test.chars, List.append_assoc, List.cons_append, List.cons_append,
      readTest?_field wellFormed.1, readPredicate?_range,
      readRange?_chars field bound closedBelow closedAbove wellFormed.2]
  | never => rfl

/-- A negation is not read as a test: the word is followed by a blank and not by a colon. -/
theorem readTest?_not (existence : Bool) (rest : List Char) :
    readTest? existence ('N' :: 'O' :: 'T' :: ' ' :: rest) = none := rfl

/-- An opening parenthesis is read as a test only if it is closed right away. -/
theorem readTest?_opening (existence : Bool) {rest : List Char}
    (opened : rest.head? ≠ some ')') : readTest? existence ('(' :: rest) = none := by
  rw [readTest?]
  · rfl
  · intro others isClosed
    exact opened (congrArg List.head? (List.cons.inj isClosed).2)

/-- A well-formed test is read from its text. -/
theorem readsTest {existence : Bool} {test : Test} (wellFormed : test.WellFormed existence) :
    ReadsTest (readTest? existence) Test.chars test where
  ne_nil := by
    cases test <;> simp [Test.chars]
  reads rest ends := reads_chars wellFormed ends
  refuses lead rest nonempty isLeading := by
    obtain ⟨first, more, rfl⟩ := List.exists_cons_of_ne_nil nonempty
    obtain ⟨leads, moreLeads⟩ := List.forall_mem_cons.mp isLeading
    rw [List.flatMap_cons, List.append_assoc]
    cases first with
    | not => exact readTest?_not existence _
    | opening =>
      -- The parenthesis could only be taken for a choice from nothing.
      refine readTest?_opening existence ?_
      cases more with
      | nil => exact head?_chars_ne test rest
      | cons next more =>
        have nextLeads := moreLeads next List.mem_cons_self
        cases next with
        | not | opening => simp [Mark.chars]
        | test | join | closing => cases nextLeads
    | test | join | closing => cases leads

end PortableFilter.QueryString
