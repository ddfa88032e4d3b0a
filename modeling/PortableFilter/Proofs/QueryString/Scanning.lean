import PortableFilter.Proofs.QueryString.Reading

/-! # Scanning query strings

A query string is scanned for its parts without regard to what may follow what. Blanks and reserved
characters end a word unless there is a backslash before them, and a backslash takes away the
meaning of the character behind it. The words "AND", "OR", "NOT" and "TO" are operators if they are
written without a backslash. All other words are terms.

An escaped text is one word (`parts_fieldChars`). It is a term that stands for the text unless the
text is one of the four words, in which no character is escaped (`textParts_eq_iff`). -/

namespace PortableFilter.QueryString

/-- The words with a meaning in query strings. -/
inductive Operator where
  | and
  | or
  | not
  | upTo
  deriving DecidableEq, Repr

namespace Operator

/-- The word of an operator. -/
def word : Operator → String
  | and => "AND"
  | or => "OR"
  | not => "NOT"
  | upTo => "TO"

/-- The operator that is written as a word. -/
def ofWord? (word : List Char) : Option Operator :=
  [and, or, not, upTo].find? fun operator => operator.word.toList = word

/-- The operator of a connective. -/
def ofConnective : Connective → Operator
  | .and => and
  | .or => or

end Operator

/-- A part of a query string. -/
inductive Part where
  /-- A word that stands for a text. -/
  | term (content : String)
  | operator (operator : Operator)
  /-- A reserved character. -/
  | sign (c : Char)
  deriving DecidableEq, Repr

/-! ## The scanner -/

/-- The part that a word is. -/
def wordParts (word : List Char) : List Part :=
  if word = [] then []
  else
    match Operator.ofWord? word with
    | some operator => [.operator operator]
    | none => [.term (String.ofList (withoutEscapes word))]

/-- The part that a character between words is, if it is not a blank. -/
def signParts (c : Char) : List Part := if Text.isBlank c then [] else [.sign c]

/-- A scan leaves no more than there was. -/
theorem length_scan_le (ends : Char → Bool) (text : List Char) :
    (scan ends text).2.length ≤ text.length := by
  fun_induction scan ends text with
  | case1 => exact Nat.le_refl 0
  | case2 c rest ih => exact Nat.le_succ_of_le (Nat.le_succ_of_le ih)
  | case3 => exact Nat.le_refl _
  | case4 c rest _ _ ih => exact Nat.le_succ_of_le ih

/-- The parts of a query string. -/
def parts (text : List Char) : List Part :=
  wordParts (scan isSpecial text).1 ++
    match _ : (scan isSpecial text).2 with
    | [] => []
    | c :: rest => signParts c ++ parts rest
termination_by text.length
decreasing_by
  rename_i behind
  have shorter := length_scan_le isSpecial text
  rw [behind, List.length_cons] at shorter
  exact shorter

/-- A text that is scanned whole is one word. -/
theorem parts_of_scan {text word : List Char} (scanned : scan isSpecial text = (word, [])) :
    parts text = wordParts word := by
  rw [parts]
  split
  · rw [scanned, List.append_nil]
  · rename_i behind
    rw [scanned] at behind
    cases behind

/-- Where a scan stops, a word ends and a sign stands. -/
theorem parts_of_scan_cons {text word rest : List Char} {c : Char}
    (scanned : scan isSpecial text = (word, c :: rest)) :
    parts text = wordParts word ++ (signParts c ++ parts rest) := by
  rw [parts]
  split
  · rename_i behind
    rw [scanned] at behind
    cases behind
  · rename_i behind
    rw [scanned] at behind ⊢
    cases behind
    rfl

/-- A word ends before a text. -/
def EndsWord (behind : List Char) : Prop := ∀ c ∈ behind.head?, c ≠ '\\' ∧ isSpecial c

theorem endsWord_nil : EndsWord [] := by
  intro c isHead
  cases isHead

/-- A special character that is no escape ends a word. -/
theorem endsWord_cons {c : Char} (ends : c ≠ '\\' ∧ isSpecial c) (rest : List Char) :
    EndsWord (c :: rest) := Text.forall_mem_head?_cons ends rest

/-- Nothing is scanned where a word has ended. -/
theorem scan_of_endsWord {behind : List Char} (ends : EndsWord behind) :
    scan isSpecial behind = ([], behind) :=
  @scan_flatMap isSpecial escapedChar [] (List.forall_mem_nil _) behind ends

theorem parts_nil : parts [] = [] := @parts_of_scan [] [] rfl

/-- A special character at the front is cut off. -/
theorem parts_cons {c : Char} (ends : c ≠ '\\' ∧ isSpecial c) (rest : List Char) :
    parts (c :: rest) = signParts c ++ parts rest := by
  rw [parts_of_scan_cons (scan_of_endsWord (endsWord_cons ends rest))]
  rfl

/-- A word is split off at the character that ends it. -/
theorem parts_of_word {text word behind : List Char} (ends : EndsWord behind)
    (scanned : scan isSpecial text = (word, behind)) :
    parts text = wordParts word ++ parts behind := by
  cases behind with
  | nil => rw [parts_of_scan scanned, parts_nil, List.append_nil]
  | cons c rest => rw [parts_of_scan_cons scanned, parts_cons (ends c rfl)]

/-! ## Escaped texts -/

/-- The part that a text is read as when it is escaped. -/
def textParts (text : String) : List Part :=
  if text = "" then []
  else
    match Operator.ofWord? text.toList with
    | some operator => [.operator operator]
    | none => [.term text]

/-- A word is an operator exactly if it is spelled as one. -/
theorem Operator.ofWord?_eq_some_iff {word : List Char} {operator : Operator} :
    ofWord? word = some operator ↔ operator.word.toList = word := by
  constructor
  · intro found
    simpa using List.find?_some found
  · rintro rfl
    cases operator <;> rfl

theorem fieldChars_word (operator : Operator) :
    fieldChars operator.word = operator.word.toList := by
  cases operator <;> decide

/-- A field is what is left without its escapes. -/
theorem withoutEscapes_fieldChars (text : String) :
    withoutEscapes (fieldChars text) = text.toList :=
  withoutEscapes_flatMap fun c _ => escapes_escapedChar c

/-- Texts are escaped alike only if they are equal. -/
theorem fieldChars_inj {first second : String} : fieldChars first = fieldChars second ↔
    first = second := by
  constructor
  · intro same
    have texts := congrArg withoutEscapes same
    rw [withoutEscapes_fieldChars, withoutEscapes_fieldChars] at texts
    exact String.toList_inj.mp texts
  · exact congrArg fieldChars

/-- Escaping neither makes a text an operator nor keeps it from being one. -/
theorem ofWord?_fieldChars (text : String) :
    Operator.ofWord? (fieldChars text) = Operator.ofWord? text.toList := by
  refine Option.ext fun operator => ?_
  rw [Operator.ofWord?_eq_some_iff, Operator.ofWord?_eq_some_iff, ← fieldChars_word, fieldChars_inj,
    fieldChars_word, String.toList_inj]

/-- The word of a text is cut into the parts of the text. -/
theorem wordParts_fieldChars (text : String) : wordParts (fieldChars text) = textParts text := by
  have empty : fieldChars text = [] ↔ text = "" := @fieldChars_inj text ""
  rw [wordParts, textParts, ofWord?_fieldChars, withoutEscapes_fieldChars, String.ofList_toList]
  simp only [empty]

/-- An escaped text is one word. -/
theorem parts_fieldChars (text : String) {behind : List Char} (ends : EndsWord behind) :
    parts (fieldChars text ++ behind) = textParts text ++ parts behind := by
  have scanned : scan isSpecial (fieldChars text ++ behind) = (fieldChars text, behind) :=
    scan_flatMap (fun c _ => escapes_escapedChar c) ends
  rw [parts_of_word ends scanned, wordParts_fieldChars]

/-- The text of an operator is cut as the operator. -/
theorem textParts_word (operator : Operator) : textParts operator.word = [.operator operator] := by
  cases operator <;> decide

/-- An escaped text stands for itself unless it is written as an operator. -/
theorem textParts_eq_iff {text : String} (nonempty : text ≠ "") :
    textParts text = [.term text] ↔ ∀ operator : Operator, text ≠ operator.word := by
  constructor
  · rintro isTerm operator rfl
    rw [textParts_word] at isTerm
    cases isTerm
  · intro other
    have none : Operator.ofWord? text.toList = none := by
      refine Option.eq_none_iff_forall_ne_some.mpr fun operator found => ?_
      rw [Operator.ofWord?_eq_some_iff, String.toList_inj] at found
      exact other operator found.symm
    rw [textParts, if_neg nonempty, none]

/-! ## Texts that end with a whole character -/

/-- Whether each backslash has a character behind it. -/
def complete : List Char → Bool
  | [] => true
  | '\\' :: _ :: rest => complete rest
  | c :: rest => c ≠ '\\' && complete rest

/-- A text without backslashes is complete. -/
theorem complete_of_notMem {text : List Char} (bare : '\\' ∉ text) : complete text := by
  induction text with
  | nil => rfl
  | cons c rest ih =>
    obtain ⟨solid, later⟩ := List.ne_and_not_mem_of_not_mem_cons bare
    rw [complete]
    · simpa [Ne.symm solid] using ih later
    · exact fun _ _ isBackslash _ => solid isBackslash.symm

/-- Escaped characters are complete, whatever comes behind. -/
theorem complete_flatMap_append {ends : Char → Bool} {escape : Char → List Char} {text : List Char}
    (escapes : ∀ c ∈ text, Escapes ends escape c) (rest : List Char) :
    complete (text.flatMap escape ++ rest) = complete rest := by
  induction text with
  | nil => rfl
  | cons c text ih =>
    obtain ⟨ofFirst, ofText⟩ := List.forall_mem_cons.mp escapes
    rw [List.flatMap_cons, List.append_assoc]
    cases ofFirst with
    | escaped written =>
      rw [written, List.cons_append, List.cons_append, List.nil_append, complete, ih ofText]
    | plain written solid _ =>
      rw [written, List.cons_append, List.nil_append, complete]
      · simpa [solid] using ih ofText
      · exact fun _ _ isBackslash _ => solid isBackslash

/-- What follows a text does not change how the text is split. -/
theorem scan_append {text behind : List Char} (whole : complete text) (ends : EndsWord behind) :
    scan isSpecial (text ++ behind) = Prod.map id (· ++ behind) (scan isSpecial text) ∧
      ∀ c rest, (scan isSpecial text).2 = c :: rest → complete rest := by
  fun_induction complete text with
  | case1 =>
    refine ⟨scan_of_endsWord ends, ?_⟩
    intro c rest isRest
    cases isRest
  | case2 c rest ih =>
    obtain ⟨splits, later⟩ := ih whole
    rw [List.cons_append, List.cons_append, scan, scan, splits]
    exact ⟨rfl, later⟩
  | case3 c rest noEscape ih =>
    rw [Bool.and_eq_true, decide_eq_true_eq] at whole
    obtain ⟨splits, later⟩ := ih whole.2
    have single {more : List Char} : scan isSpecial (c :: more) =
        if isSpecial c then ([], c :: more) else Prod.map (c :: ·) id (scan isSpecial more) := by
      rw [scan]
      exact fun _ _ isBackslash _ => whole.1 isBackslash
    rw [List.cons_append, single, single, splits]
    split
    · refine ⟨rfl, fun d more isRest => ?_⟩
      rw [← (List.cons.inj isRest).2]
      exact whole.2
    · exact ⟨rfl, later⟩

/-- The parts of a text are kept when a character that ends words follows. -/
theorem parts_append {text behind : List Char} (whole : complete text) (ends : EndsWord behind) :
    parts (text ++ behind) = parts text ++ parts behind := by
  obtain ⟨splits, later⟩ := scan_append whole ends
  obtain ⟨word, after, scanned⟩ : ∃ word after, scan isSpecial text = (word, after) := ⟨_, _, rfl⟩
  have shorter := length_scan_le isSpecial text
  rw [scanned] at splits later shorter
  cases after with
  | nil =>
    have isWord : scan isSpecial (text ++ behind) = (word, behind) := splits
    rw [parts_of_word ends isWord, parts_of_scan scanned]
  | cons c rest =>
    -- The text behind the first word is shorter, and it ends with a whole character as well.
    have stops : scan isSpecial (text ++ behind) = (word, c :: (rest ++ behind)) := splits
    rw [parts_of_scan_cons stops, parts_of_scan_cons scanned, parts_append (later c rest rfl) ends]
    simp only [List.append_assoc]
termination_by text.length
decreasing_by exact shorter

end PortableFilter.QueryString
