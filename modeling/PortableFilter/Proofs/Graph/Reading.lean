import PortableFilter.Proofs.Filter
import PortableFilter.Words
import PortableFilter.Text.Quoted
import PortableFilter.Proofs.Precedence.Lexing
import PortableFilter.Proofs.Text

/-! # Reading graph conditions

A graph condition tests properties of a node, whose name is known beforehand. `Graph.read?` reads
the text of a condition. The name of a property stands in backquotes and may contain any
characters, as may a text in double quotes. A test is read from its text (`readsTest`). -/

namespace PortableFilter.Graph

open Precedence

/-- A value in a graph condition. -/
inductive Argument where
  | null
  | bool (value : Bool)
  | number (literal : String)
  | text (value : String)
  deriving DecidableEq, Repr

/-- A test of a property. -/
inductive Test where
  | compare (comparison : Comparison) (property : String) (argument : Argument)
  | member (property : String) (items : List Argument)
  | absent (negated : Bool) (property : String)
  deriving DecidableEq, Repr

/-! ## The reader -/

/-- Reads a name up to a backquote that is not doubled. -/
def readName? : List Char → Option (List Char × List Char)
  | [] => none
  | '\x60' :: '\x60' :: rest => (readName? rest).map fun (name, rest) => ('\x60' :: name, rest)
  | '\x60' :: rest => some ([], rest)
  | c :: rest => (readName? rest).map fun (name, rest) => (c :: name, rest)

/-- Reads a text up to a double quote without a backslash before it. -/
def readText? : List Char → Option (List Char × List Char)
  | [] => none
  | '"' :: rest => some ([], rest)
  | '\\' :: c :: rest => (readText? rest).map fun (text, rest) => (c :: text, rest)
  | c :: rest => (readText? rest).map fun (text, rest) => (c :: text, rest)

/-- What a numeral is written with. -/
def isNumeral (c : Char) : Bool := c.isDigit || c = '-' || c = '.'

def readNumber? (text : List Char) : Option (Argument × List Char) :=
  match text.takeWhile isNumeral with
  | [] => none
  | literal => some (.number (String.ofList literal), text.dropWhile isNumeral)

/-- The words that are values. -/
def words : List (Argument × List Char) :=
  [(.null, ['n', 'u', 'l', 'l']), (.bool true, ['t', 'r', 'u', 'e']),
    (.bool false, ['f', 'a', 'l', 's', 'e'])]

def readWord? (text : List Char) : Option (Argument × List Char) :=
  words.findSome? fun (argument, word) =>
    (dropWord? word text).map fun rest => (argument, rest)

def readArgument? (text : List Char) : Option (Argument × List Char) :=
  match dropWord? ['"'] text with
  | some rest => (readText? rest).map fun (value, rest) => (.text (String.ofList value), rest)
  | none => (readWord? text).or (readNumber? text)

/-- Reads the items of a list, at most `count` of them, and its closing bracket. -/
def readItems? : (count : Nat) → List Char → Option (List Argument × List Char)
  | 0, _ => none
  | count + 1, text =>
    match readArgument? text with
    | some (item, ']' :: rest) => some ([item], rest)
    | some (item, ',' :: rest) =>
      (readItems? count rest).map fun (items, rest) => (item :: items, rest)
    | _ => none

def readList? : List Char → Option (List Argument × List Char)
  | '[' :: ']' :: rest => some ([], rest)
  | '[' :: rest => readItems? rest.length rest
  | _ => none

def signs : List (Comparison × List Char) :=
  [(.eq, [' ', '=', ' ']), (.ne, [' ', '<', '>', ' ']), (.gt, [' ', '>', ' ']),
    (.gte, [' ', '>', '=', ' ']), (.lt, [' ', '<', ' ']), (.lte, [' ', '<', '=', ' '])]

def readComparison? (property : String) (text : List Char) : Option (Test × List Char) :=
  signs.findSome? fun (comparison, sign) =>
    (dropWord? sign text).bind fun rest =>
      (readArgument? rest).map fun (argument, rest) => (.compare comparison property argument, rest)

def readMembership? (property : String) (text : List Char) : Option (Test × List Char) :=
  (dropWord? [' ', 'I', 'N', ' '] text).bind fun rest =>
    (readList? rest).map fun (items, rest) => (.member property items, rest)

/-- The words of a test for absence, or for presence. -/
def absenceWords : Bool → List Char
  | false => [' ', 'I', 'S', ' ', 'N', 'U', 'L', 'L']
  | true => [' ', 'I', 'S', ' ', 'N', 'O', 'T', ' ', 'N', 'U', 'L', 'L']

def readAbsence? (property : String) (text : List Char) : Option (Test × List Char) :=
  [false, true].findSome? fun negated =>
    (dropWord? (absenceWords negated) text).map fun rest => (.absent negated property, rest)

/-- Reads what is tested of a property. -/
def readPredicate? (property : String) (text : List Char) : Option (Test × List Char) :=
  (readComparison? property text).or
    ((readMembership? property text).or (readAbsence? property text))

/-- What stands before the name of a property. -/
def opening (node : String) : List Char := node.toList ++ ['.', '\x60']

/-- Reads a test of a property of the node. -/
def readTest? (node : String) (text : List Char) : Option (Test × List Char) :=
  (dropWord? (opening node) text).bind fun rest =>
    (readName? rest).bind fun (property, rest) => readPredicate? (String.ofList property) rest

/-- The condition on the node that a text spells. -/
def read? (node text : String) : Option (Filter Test) := ofText? (readTest? node) text.toList

/-! ## Spelling -/

def Argument.chars : Argument → List Char
  | null => ['n', 'u', 'l', 'l']
  | bool true => ['t', 'r', 'u', 'e']
  | bool false => ['f', 'a', 'l', 's', 'e']
  | number literal => literal.toList
  | text value => '"' :: (value.toList.flatMap Text.doubleQuotedChar ++ ['"'])

/-- The text of the items of a list behind the first one, and of its closing bracket. -/
def moreChars (items : List Argument) : List Char :=
  items.flatMap (fun item => ',' :: item.chars) ++ [']']

def listChars : List Argument → List Char
  | [] => ['[', ']']
  | item :: items => '[' :: (item.chars ++ moreChars items)

/-- A character in the name of a property. -/
def nameChar (c : Char) : List Char := if c = '\x60' then [c, c] else [c]

/-- The text of a property of the node. -/
def propertyChars (node property : String) : List Char :=
  opening node ++ (property.toList.flatMap nameChar ++ ['\x60'])

/-- The text of what is tested of a property. -/
def predicateChars : Test → List Char
  | .compare comparison _ argument => comparison.sign.toList ++ argument.chars
  | .member _ items => [' ', 'I', 'N', ' '] ++ listChars items
  | .absent negated _ => absenceWords negated

/-- The property that is tested. -/
def Test.property : Test → String
  | compare _ property _ | member property _ | absent _ property => property

/-- The text of a test. -/
def Test.chars (node : String) (test : Test) : List Char :=
  propertyChars node test.property ++ predicateChars test

/-- A numeral is written with the characters of numerals. -/
def Argument.WellFormed : Argument → Prop
  | number literal => literal.toList ≠ [] ∧ ∀ c ∈ literal.toList, isNumeral c
  | null | bool _ | text _ => True

/-- The values in a test are well formed. -/
def Test.WellFormed : Test → Prop
  | compare _ _ argument => argument.WellFormed
  | member _ items => ∀ item ∈ items, item.WellFormed
  | absent _ _ => True

/-! ## Values are read from their texts -/

/-- A name with its quotes doubled is read back. -/
theorem readName?_chars (name : List Char) {rest : List Char} (ends : rest.head? ≠ some '\x60') :
    readName? (name.flatMap nameChar ++ '\x60' :: rest) = some (name, rest) := by
  induction name with
  | nil =>
    cases rest with
    | nil => rfl
    | cons c rest =>
      have single : c ≠ '\x60' := fun same => ends (congrArg some same)
      rw [List.flatMap_nil, List.nil_append, readName?.eq_def]
      simp [single]
  | cons c name ih =>
    rw [List.flatMap_cons, List.append_assoc, nameChar]
    split
    · rename_i isBackquote
      rw [isBackquote, List.cons_append, List.cons_append, List.nil_append, readName?, ih]
      rfl
    · rename_i plain
      rw [List.cons_append, List.nil_append, readName?.eq_def]
      simp [plain, ih]

/-- A text in double quotes is read back. -/
theorem readText?_chars (text rest : List Char) :
    readText? (text.flatMap Text.doubleQuotedChar ++ '"' :: rest) = some (text, rest) := by
  induction text with
  | nil => rfl
  | cons c text ih =>
    rw [List.flatMap_cons, List.append_assoc, Text.doubleQuotedChar]
    split
    · rw [List.cons_append, List.cons_append, List.nil_append, readText?.eq_def]
      simp [ih]
    · rename_i plain
      rw [List.cons_append, List.nil_append, readText?]
      · rw [ih]
        rfl
      · exact fun isQuote => plain (.inr isQuote)
      · exact fun _ _ isBackslash _ => plain (.inl isBackslash)

/-- What may stand behind a value. -/
def EndsArgument (rest : List Char) : Prop := ∀ c ∈ rest.head?, isNumeral c = false

theorem dropWord?_of_ne {c d : Char} (differs : c ≠ d) (word text : List Char) :
    dropWord? (c :: word) (d :: text) = none := if_neg differs

theorem readNumber?_chars {literal rest : List Char} (nonempty : literal ≠ [])
    (numeral : ∀ c ∈ literal, isNumeral c) (ends : EndsArgument rest) :
    readNumber? (literal ++ rest) = some (.number (String.ofList literal), rest) := by
  have taken : (literal ++ rest).takeWhile isNumeral = literal :=
    Text.takeWhile_append_of_head numeral ends
  have left : (literal ++ rest).dropWhile isNumeral = rest := by
    have split := List.takeWhile_append_dropWhile (p := isNumeral) (l := literal ++ rest)
    rw [taken] at split
    exact List.append_cancel_left split
  rw [readNumber?, taken, left]
  obtain ⟨c, later, rfl⟩ := List.exists_cons_of_ne_nil nonempty
  rfl

/-- A well-formed argument is read back. -/
theorem readArgument?_chars {argument : Argument} (wellFormed : argument.WellFormed)
    {rest : List Char} (ends : EndsArgument rest) :
    readArgument? (argument.chars ++ rest) = some (argument, rest) := by
  cases argument with
  | null => rfl
  | bool value => cases value <;> rfl
  | text value =>
    have read := readText?_chars value.toList rest
    rw [Argument.chars, List.cons_append, List.append_assoc, List.singleton_append, readArgument?]
    simp [dropWord?, read]
  | number literal =>
    obtain ⟨nonempty, numeral⟩ := wellFormed
    have read := readNumber?_chars nonempty numeral ends
    rw [String.ofList_toList] at read
    obtain ⟨c, later, spelled⟩ := List.exists_cons_of_ne_nil nonempty
    have first : isNumeral c := numeral c (spelled ▸ List.mem_cons_self)
    have isNot : ∀ d, isNumeral d = false → d ≠ c := by
      rintro d notNumeral rfl
      exact Bool.false_ne_true (notNumeral.symm.trans first)
    have noQuote : dropWord? ['"'] (literal.toList ++ rest) = none := by
      rw [spelled]
      exact dropWord?_of_ne (isNot _ (by decide)) _ _
    have noWord : readWord? (literal.toList ++ rest) = none := by
      rw [spelled]
      simp [readWord?, words, dropWord?, isNot 'n' (by decide), isNot 't' (by decide),
        isNot 'f' (by decide)]
    rw [Argument.chars, readArgument?, noQuote, noWord, read]
    rfl

/-- Further items end the argument before them. -/
theorem endsArgument_moreChars (items : List Argument) (rest : List Char) :
    EndsArgument (moreChars items ++ rest) := by
  cases items with
  | nil | cons => exact Text.forall_mem_head?_cons (by decide) _

theorem readItems?_chars {item : Argument} {items : List Argument}
    (wellFormed : ∀ other ∈ item :: items, other.WellFormed) (rest : List Char) {count : Nat}
    (enough : items.length < count) :
    readItems? count (item.chars ++ (moreChars items ++ rest)) = some (item :: items, rest) := by
  induction items generalizing item count with
  | nil =>
    obtain ⟨count, rfl⟩ := Nat.exists_eq_add_of_lt enough
    have read := readArgument?_chars (wellFormed item List.mem_cons_self)
      (endsArgument_moreChars [] rest)
    rw [readItems?, read]
    rfl
  | cons next items ih =>
    obtain ⟨wellFormedItem, wellFormedItems⟩ := List.forall_mem_cons.mp wellFormed
    cases count with
    | zero => exact absurd enough (Nat.not_lt_zero _)
    | succ count =>
      have read := readArgument?_chars wellFormedItem (endsArgument_moreChars (next :: items) rest)
      have later := ih wellFormedItems (Nat.lt_of_succ_lt_succ enough)
      have comma : moreChars (next :: items) ++ rest =
          ',' :: (next.chars ++ (moreChars items ++ rest)) := by
        simp [moreChars]
      rw [readItems?, read]
      simp [comma, later]

/-- No argument starts with a closing bracket. -/
theorem head?_chars_ne {argument : Argument} (wellFormed : argument.WellFormed) (rest : List Char) :
    (argument.chars ++ rest).head? ≠ some ']' := by
  cases argument with
  | null | text => simp [Argument.chars]
  | bool value => cases value <;> simp [Argument.chars]
  | number literal =>
    obtain ⟨nonempty, numeral⟩ := wellFormed
    obtain ⟨c, later, spelled⟩ := List.exists_cons_of_ne_nil nonempty
    have first : isNumeral c := numeral c (spelled ▸ List.mem_cons_self)
    rw [Argument.chars, spelled]
    rintro isHead
    rw [Option.some.inj isHead] at first
    exact absurd first (by decide)

theorem readList?_chars {items : List Argument} (wellFormed : ∀ item ∈ items, item.WellFormed)
    (rest : List Char) : readList? (listChars items ++ rest) = some (items, rest) := by
  cases items with
  | nil => rfl
  | cons item items =>
    have isItem := head?_chars_ne (wellFormed item List.mem_cons_self) (moreChars items ++ rest)
    have enough : items.length < (item.chars ++ (moreChars items ++ rest)).length := by
      have commas := @length_le_length_flatMap _ _ items (fun item => ',' :: item.chars)
        fun _ _ => List.cons_ne_nil _ _
      simp only [moreChars, List.length_append, List.length_singleton]
      omega
    have read := readItems?_chars wellFormed rest enough
    rw [listChars, List.cons_append, List.append_assoc, readList?]
    · exact read
    · intro later isClosing
      exact isItem (congrArg List.head? isClosing)

/-- What a well-formed test says of its property is read back. -/
theorem readPredicate?_chars {test : Test} (wellFormed : test.WellFormed) {rest : List Char}
    (ends : EndsArgument rest) :
    readPredicate? test.property (predicateChars test ++ rest) = some (test, rest) := by
  cases test with
  | compare comparison property argument =>
    have read := readArgument?_chars wellFormed ends
    cases comparison <;>
      simp [predicateChars, readPredicate?, readComparison?, signs, Comparison.sign, dropWord?,
        read, Test.property]
  | member property items =>
    have read := readList?_chars wellFormed rest
    simp [predicateChars, readPredicate?, readComparison?, signs, readMembership?, dropWord?, read,
      Test.property]
  | absent negated property => cases negated <;> rfl

/-! ## Tests are read from their texts -/

/-- A word that is found again before its own end consists of what it was moved by. -/
theorem mem_of_append_eq_append {lead : List Char} (moved : lead ≠ []) (word : List Char)
    {more rest : List Char} (found : lead ++ (word ++ more) = word ++ rest) :
    ∀ c ∈ word, c ∈ lead := by
  rcases List.append_eq_append_iff.mp found with ⟨later, isWord, again⟩ | ⟨later, isLead, -⟩
  · have shorter : later.length < word.length := by
      rw [isWord, List.length_append]
      exact Nat.lt_add_of_pos_left (List.length_pos_iff.mpr moved)
    rw [isWord, List.append_assoc] at again
    have inLater := mem_of_append_eq_append moved later again
    intro c member
    rw [isWord] at member
    exact (List.mem_append.mp member).elim id (inLater c)
  · intro c member
    rw [isLead]
    exact List.mem_append_left later member
termination_by word.length

/-- What negations and opening parentheses are written with. -/
def leading : List Char := ['N', 'O', 'T', ' ', '(']

/-- A mark that leads an operand is spelled with leading characters only. -/
theorem chars_of_leads {spell : Test → List Char} {mark : Mark Test} (leads : mark.leads) :
    mark.chars spell ≠ [] ∧ ∀ c ∈ mark.chars spell, c ∈ leading := by
  cases mark with
  | not | opening => simp [Mark.chars, leading]
  | test | join | closing => cases leads

/-- A property is not found before its text starts. -/
theorem dropWord?_opening_lead (node : String) {lead : List Char} (moved : lead ≠ [])
    (isLeading : ∀ c ∈ lead, c ∈ leading) (more : List Char) :
    dropWord? (opening node) (lead ++ (opening node ++ more)) = none := by
  rw [Option.eq_none_iff_forall_ne_some]
  intro rest found
  have dot : '.' ∈ lead :=
    mem_of_append_eq_append moved _ (eq_append_of_dropWord? found) '.' (by simp [opening])
  exact absurd (isLeading '.' dot) (by decide)

/-- What ends an operand ends an argument. -/
theorem endsArgument_of_endsOperand {rest : List Char} (ends : EndsOperand rest) :
    EndsArgument rest := by
  intro c isHead
  rcases ends c isHead with rfl | rfl <;> decide

/-- What is tested of a property does not start with a backquote. -/
theorem head?_predicateChars (test : Test) (rest : List Char) :
    (predicateChars test ++ rest).head? = some ' ' := by
  cases test with
  | compare comparison => cases comparison <;> simp [predicateChars, Comparison.sign]
  | member => rfl
  | absent negated => cases negated <;> rfl

/-- A well-formed test is read from its text. -/
theorem readsTest (node : String) {test : Test} (wellFormed : test.WellFormed) :
    ReadsTest (readTest? node) (Test.chars node) test where
  ne_nil := by simp [Test.chars, propertyChars]
  reads rest ends := by
    have closed : (predicateChars test ++ rest).head? ≠ some '\x60' := by
      rw [head?_predicateChars]
      decide
    have name := readName?_chars test.property.toList closed
    have predicate := readPredicate?_chars wellFormed (endsArgument_of_endsOperand ends)
    rw [Test.chars, propertyChars, List.append_assoc, List.append_assoc, List.append_assoc,
      List.singleton_append, readTest?, dropWord?_append, Option.bind_some, name, Option.bind_some]
    simp only [String.ofList_toList]
    exact predicate
  refuses lead rest nonempty isLeading := by
    obtain ⟨first, more, rfl⟩ := List.exists_cons_of_ne_nil nonempty
    have moved : (first :: more).flatMap (Mark.chars (Test.chars node)) ≠ [] := by
      rw [List.flatMap_cons]
      apply List.append_ne_nil_of_left_ne_nil
      exact (chars_of_leads (isLeading first List.mem_cons_self)).1
    have leads : ∀ c ∈ (first :: more).flatMap (Mark.chars (Test.chars node)), c ∈ leading := by
      intro c member
      obtain ⟨mark, isMark, inside⟩ := List.mem_flatMap.mp member
      exact (chars_of_leads (isLeading mark isMark)).2 c inside
    rw [Test.chars, propertyChars, List.append_assoc, List.append_assoc, readTest?,
      dropWord?_opening_lead node moved leads]
    rfl

end PortableFilter.Graph
