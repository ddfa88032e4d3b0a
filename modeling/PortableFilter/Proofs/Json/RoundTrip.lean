import PortableFilter.Json.Reader
import PortableFilter.Proofs.Text

/-! # Reading JSON back

`Json.chars` writes a value compactly. What it writes is cut into the tokens of the value
(`Json.cuts_chars`), and tokens of a value are put together to that value (`Json.readsBack`), so a
value whose numbers and strings are in order is read back from its characters
(`Json.read?_chars`). -/

namespace PortableFilter.Json

/-! ## Strings -/

section

variable {rest : List Char} {codes : List Nat} {length : Nat}

/-- How a string is scanned, one character at a time: it ends with a quote, and each character is an
escape of one letter, an escape of four digits, or stands for itself. -/
theorem scanString?_step (rest : List Char) :
    scanString? ('"' :: rest) = some ([], 1) ∧
      ∀ {codes : List Nat} {length : Nat}, scanString? rest = some (codes, length) →
        (∀ {letter c : Char}, escaped? letter = some c →
          scanString? ('\\' :: letter :: rest) = some (c.toNat :: codes, length + 2)) ∧
        (∀ {first second third fourth : Char} {code : Nat},
          hexCode? first second third fourth = some code →
            scanString? ('\\' :: 'u' :: first :: second :: third :: fourth :: rest) =
              some (code :: codes, length + 6)) ∧
        ∀ {c : Char}, c ≠ '"' → c ≠ '\\' → ¬ c.toNat < 32 →
          scanString? (c :: rest) = some (c.toNat :: codes, length + 1) := by
  refine ⟨?_, fun {codes length} scanned => ⟨fun {letter c} stands => ?_, ?_, ?_⟩⟩
  · rw [scanString?]
    · rfl
    · exact fun _ _ _ _ _ same _ => absurd same (by decide)
    · exact fun _ _ same _ => absurd same (by decide)
  · rw [scanString?]
    · rw [stands, scanned]
      rfl
    · rintro _ _ _ _ _ rfl
      cases stands
  · intro first second third fourth code stands
    rw [scanString?, stands, scanned]
    rfl
  · intro c noQuote noEscape printed
    rw [scanString?]
    · rw [if_neg noQuote, if_neg (not_or.mpr ⟨printed, noEscape⟩), scanned]
      rfl
    · exact fun _ _ _ _ _ same _ => noEscape same
    · exact fun _ _ same _ => noEscape same

/-- A control character is written with four digits that denote its code. -/
theorem hexCode?_hexDigits {code : Nat} (small : code < 32) :
    ∃ first second third fourth, hexDigits code = [first, second, third, fourth] ∧
      hexCode? first second third fourth = some code := by
  have low : ∀ code : Fin 16, hexDigits code = ['0', '0', '0', Nat.digitChar code] ∧
      hexCode? '0' '0' '0' (Nat.digitChar code) = some code.val := by
    decide +kernel
  have high : ∀ code : Fin 16, hexDigits (16 + code) = ['0', '0', '1', Nat.digitChar code] ∧
      hexCode? '0' '0' '1' (Nat.digitChar code) = some (16 + code.val) := by
    decide +kernel
  by_cases single : code < 16
  · exact ⟨_, _, _, _, low ⟨code, single⟩⟩
  · have split : 16 + (code - 16) = code := by omega
    have digits := high ⟨code - 16, by omega⟩
    simp only [split] at digits
    exact ⟨_, _, _, _, digits⟩

/-- A character is written so that it is scanned as itself. -/
theorem scanString?_quotedChar (c : Char) (scanned : scanString? rest = some (codes, length)) :
    scanString? (quotedChar c ++ rest) =
      some (c.toNat :: codes, length + (quotedChar c).length) := by
  obtain ⟨escape, ofCode, plain⟩ := (scanString?_step rest).2 scanned
  unfold quotedChar
  -- Seven characters have an escape of one letter.
  iterate 7
    split
    · subst_vars
      exact escape rfl
  split
  · rename_i control
    obtain ⟨first, second, third, fourth, digits, stands⟩ := hexCode?_hexDigits control
    rw [digits]
    exact ofCode stands
  · rename_i noQuote noEscape _ _ _ _ _ printed
    exact plain noQuote noEscape printed

/-- The characters between two quotes are scanned as themselves, up to the closing quote. -/
theorem scanString?_quotedChars (text : List Char) (rest : List Char) :
    scanString? (text.flatMap quotedChar ++ '"' :: rest) =
      some (text.map Char.toNat, (text.flatMap quotedChar).length + 1) := by
  induction text with
  | nil =>
    exact (scanString?_step rest).1
  | cons c text ih =>
    rw [List.flatMap_cons, List.append_assoc, scanString?_quotedChar c ih, List.length_append,
      List.map_cons]
    exact congrArg (fun length => some (_, length)) (by omega)

end

/-- No character is half of a surrogate pair. -/
theorem not_surrogate (c : Char) :
    isHighSurrogate c.toNat = false ∧ isLowSurrogate c.toNat = false := by
  have valid := c.valid
  simp only [isHighSurrogate, isLowSurrogate, Bool.and_eq_false_iff, decide_eq_false_iff_not]
  simp only [UInt32.isValidChar, Nat.isValidChar, Char.toNat_val] at valid
  omega

/-- The codes of a text denote the text. -/
theorem textOfCodes?_map_toNat (text : List Char) :
    textOfCodes? (text.map Char.toNat) = some text := by
  induction text with
  | nil => rfl
  | cons c text ih =>
    obtain ⟨notHigh, notLow⟩ := not_surrogate c
    cases text with
    | nil => simp [textOfCodes?, notHigh, notLow, Char.ofNat_toNat]
    | cons next text =>
      rw [List.map_cons] at ih
      simp [textOfCodes?, notHigh, notLow, Char.ofNat_toNat, ih]

/-! ## Numerals -/

/-- The rest of a text starts with a character that may stand behind a value. -/
def Ends (rest : List Char) : Prop := ∀ c ∈ rest.head?, c ∈ [',', ']', '\x7d']

/-- The digits before the point of a number, without superfluous zeros. -/
structure Whole (digits : List Char) : Prop where
  ne_nil : digits ≠ []
  numeric : ∀ c ∈ digits, c.isDigit
  plain : digits.head? = some '0' → digits = ['0']

/-- A point and the digits behind it, if there are any. -/
def Fraction (text : List Char) : Prop :=
  text = [] ∨ ∃ digits, text = '.' :: digits ∧ digits ≠ [] ∧ ∀ c ∈ digits, c.isDigit

/-- A number as JSON has it, without an exponent. -/
def Numeral (text : List Char) : Prop :=
  ∃ sign whole fraction, text = sign ++ (whole ++ fraction) ∧ (sign = [] ∨ sign = ['-']) ∧
    Whole whole ∧ Fraction fraction

/-- What may stand behind a value is no digit. -/
theorem isDigit_eq_false_of_ends {rest : List Char} (ends : Ends rest) :
    ∀ c ∈ rest.head?, c.isDigit = false := by
  intro c first
  have mark := ends c first
  simp only [List.mem_cons, List.not_mem_nil, or_false] at mark
  rcases mark with rfl | rfl | rfl <;> rfl

/-- The digits before the point are measured up to what is no digit. -/
theorem wholeLength?_append {whole rest : List Char} (isWhole : Whole whole)
    (stops : ∀ c ∈ rest.head?, c.isDigit = false) :
    wholeLength? (whole ++ rest) = some whole.length := by
  unfold wholeLength?
  split
  · rename_i more starts
    have single : whole = ['0'] := by
      refine isWhole.plain ?_
      obtain ⟨first, digits, rfl⟩ := List.exists_cons_of_ne_nil isWhole.ne_nil
      exact congrArg List.head? starts
    rw [single]
    rfl
  · have counted := Text.digitCount_append isWhole.numeric stops
    have positive : whole.length ≠ 0 := by
      rw [ne_eq, List.length_eq_zero_iff]
      exact isWhole.ne_nil
    rw [counted, if_neg positive]

/-- A point and its digits are measured up to the end of the number. -/
theorem fractionLength?_append {fraction rest : List Char} (isFraction : Fraction fraction)
    (ends : Ends rest) : fractionLength? (fraction ++ rest) = some fraction.length := by
  rcases isFraction with rfl | ⟨digits, rfl, nonempty, numeric⟩
  · unfold fractionLength?
    split
    · rename_i more starts
      exact absurd (ends '.' (congrArg List.head? starts)) (by decide)
    · rfl
  · have positive : digits.length ≠ 0 := by
      rw [ne_eq, List.length_eq_zero_iff]
      exact nonempty
    rw [List.cons_append, fractionLength?,
      Text.digitCount_append numeric (isDigit_eq_false_of_ends ends), if_neg positive,
      List.length_cons, Nat.add_comm]

/-- A number that is written has no exponent. -/
theorem exponentLength?_of_ends {rest : List Char} (ends : Ends rest) :
    exponentLength? rest = some 0 := by
  cases rest with
  | nil => rfl
  | cons c rest =>
    have noMark : ¬ (c = 'e' ∨ c = 'E') := by
      rintro (rfl | rfl) <;> exact absurd (ends _ rfl) (by decide)
    rw [exponentLength?, if_neg noMark]

/-- A number is measured up to its end. -/
theorem numberLength?_append {whole fraction rest : List Char} (isWhole : Whole whole)
    (isFraction : Fraction fraction) (ends : Ends rest) :
    numberLength? (whole ++ fraction ++ rest) = some (whole ++ fraction).length := by
  have stops : ∀ c ∈ (fraction ++ rest).head?, c.isDigit = false := by
    rcases isFraction with rfl | ⟨digits, rfl, -, -⟩
    · exact isDigit_eq_false_of_ends ends
    · rintro _ ⟨⟩
      decide
  rw [numberLength?, List.append_assoc, wholeLength?_append isWhole stops]
  simp only [Option.bind_eq_bind, Option.bind_some, List.drop_left,
    fractionLength?_append isFraction ends, List.drop_length_add_append,
    exponentLength?_of_ends ends, List.length_append]
  rfl

/-! ## Tokens -/

/-- A word in front of the rest of a text is cut off as one token. -/
def Fronts (token : Token) (word rest : List Char) : Prop :=
  ∃ first more, word = first :: more ∧ isBlank first = false ∧
    scan? first (more ++ rest) = some (token, more.length)

/-- A text is cut into the first token behind its blanks and the tokens of the rest. -/
theorem lex?_eq (text : List Char) :
    lex? text =
      match text.dropWhile isBlank with
      | [] => some []
      | first :: rest =>
        match scan? first rest with
        | none => none
        | some (token, more) => (lex? (rest.drop more)).map (token :: ·) := by
  rw [lex?]
  split
  · rename_i front
    rw [front]
  · rename_i first rest front
    cases scanned : scan? first rest <;> simp [front, scanned]

/-- A word that is cut off as one token comes first. -/
theorem lex?_of_fronts {token : Token} {word rest : List Char} (fronts : Fronts token word rest) :
    lex? (word ++ rest) = (lex? rest).map (token :: ·) := by
  obtain ⟨first, more, rfl, solid, scanned⟩ := fronts
  rw [lex?_eq, List.cons_append]
  simp only [List.dropWhile_cons, solid, Bool.false_eq_true, if_false, scanned, List.drop_left]

/-- A blank at the front is passed over. -/
theorem lex?_blank {c : Char} (blank : isBlank c) (rest : List Char) :
    lex? (c :: rest) = lex? rest := by
  rw [lex?_eq, lex?_eq rest]
  simp only [List.dropWhile_cons, blank, if_true]

/-- A digit starts a number, as long as it measures. -/
theorem scan?_of_isDigit {first : Char} (digit : first.isDigit) {rest : List Char} {length : Nat}
    (measured : numberLength? (first :: rest) = some length) :
    scan? first rest =
      some (.number (String.ofList ((first :: rest).take length)), length - 1) := by
  unfold scan?
  split
  case h_12 =>
    rw [measured]
    rfl
  all_goals exact absurd digit (by decide)

/-- A minus starts a number, as long as what follows measures. -/
theorem scan?_minus {rest : List Char} {length : Nat}
    (measured : numberLength? rest = some length) :
    scan? '-' rest = some (.number (String.ofList ('-' :: rest.take length)), length) := by
  change (numberLength? rest).bind _ = _
  rw [measured]
  rfl

theorem isBlank_eq_false_of_isDigit {c : Char} (digit : c.isDigit) : isBlank c = false := by
  cases blank : isBlank c with
  | false => rfl
  | true =>
    simp only [isBlank, Bool.or_eq_true, beq_iff_eq] at blank
    rcases blank with ((rfl | rfl) | rfl) | rfl <;> exact absurd digit (by decide)

/-- A number is cut off where it ends. -/
theorem fronts_numeral {text rest : List Char} (numeral : Numeral text) (ends : Ends rest) :
    Fronts (.number (String.ofList text)) text rest := by
  obtain ⟨sign, whole, fraction, rfl, signs, isWhole, isFraction⟩ := numeral
  have measured := numberLength?_append isWhole isFraction ends
  rcases signs with rfl | rfl
  · obtain ⟨first, digits, rfl⟩ := List.exists_cons_of_ne_nil isWhole.ne_nil
    have digit := isWhole.numeric first List.mem_cons_self
    refine ⟨first, digits ++ fraction, rfl, isBlank_eq_false_of_isDigit digit, ?_⟩
    have taken : (first :: digits ++ fraction ++ rest).take (first :: digits ++ fraction).length =
        first :: digits ++ fraction := List.take_left
    refine (scan?_of_isDigit digit measured).trans ?_
    exact congrArg (fun word => some (Token.number (String.ofList word), _)) taken
  · refine ⟨'-', whole ++ fraction, rfl, by decide, ?_⟩
    rw [scan?_minus measured, List.take_left]
    rfl

/-- A text in quotes is cut off at its closing quote. -/
theorem fronts_quote (text : String) (rest : List Char) :
    Fronts (.string (some text)) (quote text).toList rest := by
  refine ⟨'"', text.toList.flatMap quotedChar ++ ['"'], ?_, by decide, ?_⟩
  · rw [quote, String.toList_ofList, List.cons_append]
  · rw [List.append_assoc, List.singleton_append]
    change (scanString? _).bind _ = _
    rw [scanString?_quotedChars]
    simp [textOfCodes?_map_toNat]

/-! ## Values -/

mutual

/-- The characters of a value, with no blanks but one behind each colon. -/
def chars : Json → List Char
  | .null => ['n', 'u', 'l', 'l']
  | .bool true => ['t', 'r', 'u', 'e']
  | .bool false => ['f', 'a', 'l', 's', 'e']
  | .number literal => literal.toList
  | .string content => (quote (content.getD "")).toList
  | .array [] => ['[', ']']
  | .array (item :: items) => '[' :: (item.chars ++ itemsChars items)
  | .object [] => ['\x7b', '\x7d']
  | .object ((name, value) :: fields) =>
    '\x7b' :: ((quote (name.getD "")).toList ++ ':' :: ' ' :: (value.chars ++ fieldsChars fields))

/-- The further items of an array and the bracket that closes it. -/
def itemsChars : List Json → List Char
  | [] => [']']
  | item :: items => ',' :: (item.chars ++ itemsChars items)

/-- The further fields of an object and the brace that closes it. -/
def fieldsChars : List (Option String × Json) → List Char
  | [] => ['\x7d']
  | (name, value) :: fields =>
    ',' :: ((quote (name.getD "")).toList ++ ':' :: ' ' :: (value.chars ++ fieldsChars fields))

end

mutual

/-- The tokens of a value. -/
def tokens : Json → List Token
  | .null => [.null]
  | .bool value => [.bool value]
  | .number literal => [.number literal]
  | .string content => [.string content]
  | .array [] => [.openArray, .closeArray]
  | .array (item :: items) => .openArray :: (item.tokens ++ itemsTokens items)
  | .object [] => [.openObject, .closeObject]
  | .object ((name, value) :: fields) =>
    .openObject :: .string name :: .colon :: (value.tokens ++ fieldsTokens fields)

def itemsTokens : List Json → List Token
  | [] => [.closeArray]
  | item :: items => .comma :: (item.tokens ++ itemsTokens items)

def fieldsTokens : List (Option String × Json) → List Token
  | [] => [.closeObject]
  | (name, value) :: fields =>
    .comma :: .string name :: .colon :: (value.tokens ++ fieldsTokens fields)

end

mutual

/-- A value whose numbers are written as JSON has them, and whose strings and names are texts. -/
def Printable : Json → Prop
  | .null | .bool _ => True
  | .number literal => Numeral literal.toList
  | .string content => content.isSome
  | .array items => PrintableItems items
  | .object fields => PrintableFields fields

def PrintableItems : List Json → Prop
  | [] => True
  | item :: items => item.Printable ∧ PrintableItems items

def PrintableFields : List (Option String × Json) → Prop
  | [] => True
  | (name, value) :: fields => name.isSome ∧ value.Printable ∧ PrintableFields fields

end

/-- A text is cut into tokens, whatever comes behind it, as long as it `follows`. -/
def Cuts (follows : List Char → Prop) (text : List Char) (tokens : List Token) : Prop :=
  ∀ rest, follows rest → lex? (text ++ rest) = (lex? rest).map (tokens ++ ·)

namespace Cuts

variable {follows follows' : List Char → Prop} {text later : List Char} {first second : List Token}

/-- Two texts are cut one behind the other if the second one may follow the first. -/
theorem append (start : Cuts follows text first) (more : Cuts follows' later second)
    (behind : ∀ rest, follows' rest → follows (later ++ rest)) :
    Cuts follows' (text ++ later) (first ++ second) := by
  intro rest following
  rw [List.append_assoc, start _ (behind rest following), more rest following, Option.map_map]
  simp only [Function.comp_def, List.append_assoc]

/-- A word that is cut off as one token is a text of one token. -/
theorem word {token : Token} (fronts : ∀ rest, follows rest → Fronts token text rest) :
    Cuts follows text [token] :=
  fun rest following => lex?_of_fronts (fronts rest following)

/-- Where less may follow, a text is still cut. -/
theorem before (cuts : Cuts follows text first) (weaker : ∀ rest, follows' rest → follows rest) :
    Cuts follows' text first :=
  fun rest following => cuts rest (weaker rest following)

end Cuts

theorem ends_cons {c : Char} (mark : c ∈ [',', ']', '\x7d']) (rest : List Char) :
    Ends (c :: rest) := by
  rintro _ ⟨⟩
  exact mark

/-- What follows an item of an array may stand behind a value. -/
theorem ends_itemsChars (items : List Json) (rest : List Char) :
    Ends (itemsChars items ++ rest) := by
  cases items with
  | nil => exact ends_cons (by decide) _
  | cons item items => exact ends_cons (by decide) _

/-- What follows a field of an object may stand behind a value. -/
theorem ends_fieldsChars (fields : List (Option String × Json)) (rest : List Char) :
    Ends (fieldsChars fields ++ rest) := by
  cases fields with
  | nil => exact ends_cons (by decide) _
  | cons field fields => exact ends_cons (by decide) _

/-- A sign of one character in front of a text that is cut into tokens. -/
theorem Cuts.mark {c : Char} {token : Token} {later : List Char} {tokens : List Token}
    (fronts : ∀ rest, Fronts token [c] rest) (more : Cuts (fun _ => True) later tokens) :
    Cuts (fun _ => True) (c :: later) (token :: tokens) :=
  (Cuts.word fun rest (_ : True) => fronts rest).append more fun _ _ => trivial

/-- A name and a colon in front of a text that is cut into tokens. -/
theorem Cuts.name {name : Option String} {later : List Char} {tokens : List Token}
    (named : name.isSome) (more : Cuts (fun _ => True) later tokens) :
    Cuts (fun _ => True) ((quote (name.getD "")).toList ++ ':' :: ' ' :: later)
      (.string name :: .colon :: tokens) := by
  obtain ⟨text, rfl⟩ := Option.isSome_iff_exists.mp named
  have quoted : Cuts (fun _ => True) (quote text).toList [.string (some text)] :=
    .word fun rest _ => fronts_quote text rest
  have spaced : Cuts (fun _ => True) (' ' :: later) tokens := by
    intro rest following
    rw [List.cons_append, lex?_blank (by decide), more rest following]
  exact quoted.append (.mark (fun rest => ⟨':', [], rfl, by decide, rfl⟩) spaced) fun _ _ => trivial

mutual

/-- The characters of a value are cut into its tokens. -/
theorem cuts_chars (json : Json) (printable : json.Printable) :
    Cuts Ends json.chars json.tokens := by
  match json with
  | .null => exact .word fun rest _ => ⟨'n', ['u', 'l', 'l'], rfl, by decide, rfl⟩
  | .bool true => exact .word fun rest _ => ⟨'t', ['r', 'u', 'e'], rfl, by decide, rfl⟩
  | .bool false => exact .word fun rest _ => ⟨'f', ['a', 'l', 's', 'e'], rfl, by decide, rfl⟩
  | .number literal =>
    have cuts := Cuts.word fun rest ends => @fronts_numeral literal.toList rest printable ends
    rw [String.ofList_toList] at cuts
    exact cuts
  | .string content =>
    obtain ⟨text, rfl⟩ := Option.isSome_iff_exists.mp printable
    exact .word fun rest _ => fronts_quote text rest
  | .array [] =>
    have closing := cuts_itemsChars [] trivial
    exact (Cuts.mark (fun rest => ⟨'[', [], rfl, by decide, rfl⟩) closing).before
      fun _ _ => trivial
  | .array (item :: items) =>
    have inside := (cuts_chars item printable.1).append (cuts_itemsChars items printable.2)
      fun rest _ => ends_itemsChars items rest
    exact (Cuts.mark (fun rest => ⟨'[', [], rfl, by decide, rfl⟩) inside).before
      fun _ _ => trivial
  | .object [] =>
    have closing := cuts_fieldsChars [] trivial
    exact (Cuts.mark (fun rest => ⟨'\x7b', [], rfl, by decide, rfl⟩) closing).before
      fun _ _ => trivial
  | .object ((name, value) :: fields) =>
    have inside := (cuts_chars value printable.2.1).append (cuts_fieldsChars fields printable.2.2)
      fun rest _ => ends_fieldsChars fields rest
    exact (Cuts.mark (fun rest => ⟨'\x7b', [], rfl, by decide, rfl⟩)
      (.name printable.1 inside)).before fun _ _ => trivial

/-- The further items of an array are cut into their tokens. -/
theorem cuts_itemsChars (items : List Json) (printable : PrintableItems items) :
    Cuts (fun _ => True) (itemsChars items) (itemsTokens items) := by
  match items with
  | [] => exact .word fun rest _ => ⟨']', [], rfl, by decide, rfl⟩
  | item :: items =>
    have inside := (cuts_chars item printable.1).append (cuts_itemsChars items printable.2)
      fun rest _ => ends_itemsChars items rest
    exact .mark (fun rest => ⟨',', [], rfl, by decide, rfl⟩) inside

/-- The further fields of an object are cut into their tokens. -/
theorem cuts_fieldsChars (fields : List (Option String × Json))
    (printable : PrintableFields fields) :
    Cuts (fun _ => True) (fieldsChars fields) (fieldsTokens fields) := by
  match fields with
  | [] => exact .word fun rest _ => ⟨'\x7d', [], rfl, by decide, rfl⟩
  | (name, value) :: fields =>
    have inside := (cuts_chars value printable.2.1).append (cuts_fieldsChars fields printable.2.2)
      fun rest _ => ends_fieldsChars fields rest
    exact .mark (fun rest => ⟨',', [], rfl, by decide, rfl⟩) (.name printable.1 inside)

end

/-! ## Reading tokens -/

/-- No value starts with the bracket that closes an array. -/
theorem tokens_append_ne_closeArray (json : Json) (rest later : List Token) :
    json.tokens ++ rest ≠ .closeArray :: later := by
  intro same
  have first := congrArg List.head? same
  match json with
  | .null | .bool _ | .number _ | .string _ | .array [] | .array (_ :: _) | .object []
  | .object (_ :: _) => cases first

/-- An array with something in it is read item by item. -/
theorem readValue?_openArray {steps : Nat} {tokens : List Token}
    (more : ∀ later, tokens ≠ .closeArray :: later) :
    readValue? (steps + 1) (.openArray :: tokens) =
      (readItems? steps tokens).map fun (items, tokens) => (.array items, tokens) := by
  rw [readValue?]
  · intro later same
    exact more later same

theorem tokens_length_pos (json : Json) : 0 < json.tokens.length := by
  match json with
  | .null | .bool _ | .number _ | .string _ | .array [] | .array (_ :: _) | .object []
  | .object (_ :: _) => exact Nat.succ_pos _

/-- With a number of steps, all values, items and fields are read whose tokens are at most half as
many. -/
structure ReadsBack (steps : Nat) : Prop where
  value : ∀ (json : Json) (rest : List Token), 2 * json.tokens.length ≤ steps →
    readValue? steps (json.tokens ++ rest) = some (json, rest)
  items : ∀ (item : Json) (items : List Json) (rest : List Token),
    2 * (item.tokens ++ itemsTokens items).length ≤ steps →
    readItems? steps (item.tokens ++ itemsTokens items ++ rest) = some (item :: items, rest)
  fields : ∀ (name : Option String) (value : Json) (fields : List (Option String × Json))
    (rest : List Token), 2 * (value.tokens ++ fieldsTokens fields).length + 2 ≤ steps →
    readFields? steps (.string name :: .colon :: (value.tokens ++ fieldsTokens fields ++ rest)) =
      some ((name, value) :: fields, rest)

namespace ReadsBack

variable {steps : Nat} (shorter : ReadsBack steps)

include shorter

/-- A value is read back with one step more than its parts need. -/
theorem readValue?_succ (json : Json) (rest : List Token)
    (enough : 2 * json.tokens.length ≤ steps + 1) :
    readValue? (steps + 1) (json.tokens ++ rest) = some (json, rest) := by
  match json with
  | .null | .bool _ | .number _ | .string _ | .array [] | .object [] => rfl
  | .array (item :: items) =>
    rw [tokens, List.length_cons] at enough
    have more := fun later => tokens_append_ne_closeArray item (itemsTokens items ++ rest) later
    rw [← List.append_assoc] at more
    rw [tokens, List.cons_append, readValue?_openArray more,
      shorter.items item items rest (by omega)]
    rfl
  | .object ((name, value) :: fields) =>
    rw [tokens, List.length_cons, List.length_cons, List.length_cons] at enough
    have read := shorter.fields name value fields rest (by omega)
    rw [tokens, List.cons_append, List.cons_append, List.cons_append, readValue?]
    · rw [read]
      rfl
    · exact fun later same => nomatch same

/-- The items of an array are read back with one step more than the first item needs. -/
theorem readItems?_succ (item : Json) (items : List Json) (rest : List Token)
    (enough : 2 * (item.tokens ++ itemsTokens items).length ≤ steps + 1) :
    readItems? (steps + 1) (item.tokens ++ itemsTokens items ++ rest) =
      some (item :: items, rest) := by
  have closes : 0 < (itemsTokens items).length := by
    cases items <;> exact Nat.succ_pos _
  rw [List.length_append] at enough
  have read := shorter.value item (itemsTokens items ++ rest) (by omega)
  rw [List.append_assoc, readItems?, read]
  cases items with
  | nil => rfl
  | cons next more =>
    have positive := tokens_length_pos item
    rw [itemsTokens, List.length_cons] at enough
    have later := shorter.items next more rest (by omega)
    change (readItems? steps (next.tokens ++ itemsTokens more ++ rest)).bind _ = _
    rw [later]
    rfl

/-- The fields of an object are read back with one step more than the first field needs. -/
theorem readFields?_succ (name : Option String) (value : Json)
    (fields : List (Option String × Json)) (rest : List Token)
    (enough : 2 * (value.tokens ++ fieldsTokens fields).length + 2 ≤ steps + 1) :
    readFields? (steps + 1)
        (.string name :: .colon :: (value.tokens ++ fieldsTokens fields ++ rest)) =
      some ((name, value) :: fields, rest) := by
  rw [List.length_append] at enough
  have read := shorter.value value (fieldsTokens fields ++ rest) (by omega)
  rw [List.append_assoc, readFields?, read]
  cases fields with
  | nil => rfl
  | cons field more =>
    obtain ⟨next, other⟩ := field
    rw [fieldsTokens, List.length_cons, List.length_cons, List.length_cons] at enough
    have later := shorter.fields next other more rest (by omega)
    change (readFields? steps (.string next :: .colon ::
      (other.tokens ++ fieldsTokens more ++ rest))).bind _ = _
    rw [later]
    rfl

end ReadsBack

/-- Values, items and fields are read back, by induction on the steps. -/
theorem readsBack (steps : Nat) : ReadsBack steps := by
  induction steps with
  | zero =>
    constructor
    · intro json rest enough
      have positive := tokens_length_pos json
      omega
    · intro item items rest enough
      have positive := tokens_length_pos item
      rw [List.length_append] at enough
      omega
    · intro name value fields rest enough
      omega
  | succ steps ih => exact ⟨ih.readValue?_succ, ih.readItems?_succ, ih.readFields?_succ⟩

/-- A value is read back from its characters. -/
theorem read?_chars {json : Json} (printable : json.Printable) :
    read? (String.ofList json.chars) = some json := by
  -- The reader is given two steps for each token, and two more.
  have cut := cuts_chars json printable [] nofun
  have read := (readsBack (2 * json.tokens.length + 2)).value json [] (by omega)
  rw [List.append_nil, lex?_eq [], List.dropWhile_nil] at cut
  rw [List.append_nil] at read
  simp only [Option.map_some, List.append_nil] at cut
  rw [read?, String.toList_ofList, cut, Option.bind_some, ofTokens?, read]

end PortableFilter.Json
