import PortableFilter.Sql
import PortableFilter.Text.Blank
import PortableFilter.Text.Numeral

/-! # The expressions that extract fields

The names of the JSON column and of a field are arbitrary texts within a SQL condition. `Sql.scan?`
cuts lexemes off a SQL text: a name stands in double quotes and a literal in single ones, a quote
inside is written twice, and a backslash is a character like any other. No name can end its quotes
early or go on behind them: whatever follows, the expression for a field is cut into the name of
the column, the operator that extracts, and the name of the field (`Sql.scan?_pathText`). -/

namespace PortableFilter.Sql

/-! ## Lexemes of SQL -/

/-- A lexeme of a SQL text. -/
inductive Lexeme where
  /-- A name in double quotes. -/
  | name (name : String)
  /-- A text in single quotes. -/
  | literal (text : String)
  /-- A run of the characters that operators are made of. -/
  | operator (sign : String)
  /-- A word or a number. -/
  | word (word : String)
  /-- Any other character. -/
  | mark (c : Char)
  deriving DecidableEq, Repr

/-- Reads a text up to the first quote that is not doubled, and that quote. -/
def readQuoted? (quote : Char) : List Char → Option (List Char × List Char)
  | [] => none
  | [c] => if c = quote then some ([], []) else none
  | c :: next :: rest =>
    if c = quote then
      if next = quote then (readQuoted? quote rest).map fun (text, rest) => (c :: text, rest)
      else some ([], next :: rest)
    else (readQuoted? quote (next :: rest)).map fun (text, rest) => (c :: text, rest)

/-- Whether operators are made of a character. -/
def isOperator (c : Char) : Bool := "+-*/<>=~!@#%^&|?".toList.contains c

/-- Cuts the first lexeme off a text. -/
def lexeme? (text : List Char) : Option (Lexeme × List Char) :=
  match text.dropWhile Text.isBlank with
  | [] => none
  | c :: rest =>
    if c = '"' then
      (readQuoted? c rest).map fun (name, rest) => (.name (String.ofList name), rest)
    else if c = '\'' then
      (readQuoted? c rest).map fun (text, rest) => (.literal (String.ofList text), rest)
    else if isOperator c then
      some (.operator (String.ofList (c :: rest.takeWhile isOperator)), rest.dropWhile isOperator)
    else if Text.continuesName c then
      some (.word (String.ofList (c :: rest.takeWhile Text.continuesName)),
        rest.dropWhile Text.continuesName)
    else some (.mark c, rest)

/-- Cuts a number of lexemes off a text. -/
def scan? : (count : Nat) → List Char → Option (List Lexeme × List Char)
  | 0, text => some ([], text)
  | count + 1, text =>
    (lexeme? text).bind fun cut => (scan? count cut.2).map (Prod.map (cut.1 :: ·) id)

/-- A text is scanned by its first lexeme and the rest. -/
theorem scan?_succ {text rest : List Char} {first : Lexeme}
    (cut : lexeme? text = some (first, rest)) (count : Nat) :
    scan? (count + 1) text = (scan? count rest).map (Prod.map (first :: ·) id) := by
  rw [scan?, cut, Option.bind_some]

/-- A text is scanned in two parts one behind the other. -/
theorem scan?_add {count : Nat} {text rest : List Char} {lexemes : List Lexeme}
    (cut : scan? count text = some (lexemes, rest)) (more : Nat) :
    scan? (count + more) text = (scan? more rest).map (Prod.map (lexemes ++ ·) id) := by
  induction count generalizing text lexemes with
  | zero =>
    cases cut
    rw [Nat.zero_add]
    exact Option.map_id'.symm
  | succ count ih =>
    rw [scan?, Option.bind_eq_some_iff] at cut
    obtain ⟨⟨first, middle⟩, isFirst, others⟩ := cut
    obtain ⟨⟨following, stop⟩, cutMiddle, same⟩ := Option.map_eq_some_iff.mp others
    cases same
    rw [Nat.add_right_comm, scan?_succ isFirst, ih cutMiddle, Option.map_map]
    rfl

/-! ## Doubled quotes -/

/-- A text with its quotes doubled is read as that text, if no further quote follows the closing
one. -/
theorem readQuoted?_doubled (quote : Char) (text : String) {rest : List Char}
    (ends : rest.head? ≠ some quote) :
    readQuoted? quote ((Text.doubled quote text).toList ++ quote :: rest) =
      some (text.toList, rest) := by
  rw [Text.doubled, String.toList_ofList]
  induction text.toList with
  | nil =>
    cases rest with
    | nil => exact if_pos rfl
    | cons next rest =>
      have plain : next ≠ quote := fun same => ends (congrArg some same)
      rw [List.flatMap_nil, List.nil_append, readQuoted?, if_pos rfl, if_neg plain]
  | cons c text ih =>
    rw [List.flatMap_cons]
    by_cases special : c = quote
    · rw [if_pos special, List.append_assoc, List.cons_append, List.cons_append, List.nil_append,
        readQuoted?, if_pos special, if_pos special, ih]
      rfl
    · obtain ⟨next, later, isNext⟩ : ∃ next later,
          text.flatMap (fun c => if c = quote then [c, c] else [c]) ++ quote :: rest =
            next :: later :=
        List.exists_cons_of_ne_nil (by simp)
      rw [if_neg special, List.append_assoc, List.cons_append, List.nil_append, isNext, readQuoted?,
        if_neg special, ← isNext, ih]
      rfl

/-- A quoted name is read back as one lexeme. -/
theorem lexeme?_identifierText (name : String) {rest : List Char}
    (ends : rest.head? ≠ some '"') :
    lexeme? ((identifierText name).toList ++ rest) = some (.name name, rest) := by
  have read := readQuoted?_doubled '"' name ends
  have spelled : (identifierText name).toList ++ rest =
      '"' :: ((Text.doubled '"' name).toList ++ '"' :: rest) := by
    simp [identifierText]
  have solid : ('"' :: ((Text.doubled '"' name).toList ++ '"' :: rest)).dropWhile Text.isBlank =
      '"' :: ((Text.doubled '"' name).toList ++ '"' :: rest) := rfl
  rw [spelled, lexeme?, solid]
  dsimp only
  rw [if_pos rfl, read, Option.map_some, String.ofList_toList]

theorem lexeme?_literal (text : String) {rest : List Char} (ends : rest.head? ≠ some '\'') :
    lexeme? (' ' :: '\'' :: ((Text.doubled '\'' text).toList ++ '\'' :: rest)) =
      some (.literal text, rest) := by
  have read := readQuoted?_doubled '\'' text ends
  have solid : (' ' :: '\'' :: ((Text.doubled '\'' text).toList ++ '\'' :: rest)).dropWhile
      Text.isBlank = '\'' :: ((Text.doubled '\'' text).toList ++ '\'' :: rest) := rfl
  rw [lexeme?, solid]
  dsimp only
  rw [if_neg (by decide), if_pos rfl, read, Option.map_some, String.ofList_toList]

/-! ## Expressions for fields -/

/-- The lexemes of the expression that extracts a field. -/
def pathLexemes (settings : SqlSettings) (key : Key) : List Lexeme :=
  [.name settings.metadataColumn, .operator "->>", .literal key.unquoted]

/-- The lexemes of a column. -/
def Column.lexemes (settings : SqlSettings) (column : Column) : List Lexeme :=
  let path := .mark '(' :: (pathLexemes settings column.key ++ [.mark ')'])
  match column.cast with
  | none => path
  | some type => .word "CAST" :: .mark '(' :: (path ++ [.word "AS", .word type.typeName, .mark ')'])

theorem scan?_path (settings : SqlSettings) (key : Key) {rest : List Char}
    (ends : rest.head? ≠ some '\'') :
    scan? 3 ((pathText settings key).toList ++ rest) = some (pathLexemes settings key, rest) := by
  have spelled : (pathText settings key).toList ++ rest =
      (identifierText settings.metadataColumn).toList ++ ' ' :: '-' :: '>' :: '>' :: ' ' :: '\'' ::
        ((Text.doubled '\'' key.unquoted).toList ++ '\'' :: rest) := by
    simp [pathText]
  have operator (rest : List Char) : lexeme? (' ' :: '-' :: '>' :: '>' :: ' ' :: rest) =
      some (.operator "->>", ' ' :: rest) := rfl
  rw [spelled, scan?_succ (lexeme?_identifierText _ (by simp)), scan?_succ (operator _),
    scan?_succ (lexeme?_literal _ ends)]
  rfl

/-- In parentheses, the expression ends with the closing one. -/
theorem scan?_parenthesized (settings : SqlSettings) (key : Key) (rest : List Char) :
    scan? 5 ((Text.parenthesized (pathText settings key)).toList ++ rest) =
      some (.mark '(' :: (pathLexemes settings key ++ [.mark ')']), rest) := by
  have spelled : (Text.parenthesized (pathText settings key)).toList ++ rest =
      '(' :: ((pathText settings key).toList ++ ')' :: rest) := by
    simp [Text.parenthesized]
  have opening (rest : List Char) : lexeme? ('(' :: rest) = some (.mark '(', rest) := rfl
  have closing (rest : List Char) : lexeme? (')' :: rest) = some (.mark ')', rest) := rfl
  have path := scan?_path settings key (show (')' :: rest).head? ≠ some '\'' by simp)
  rw [spelled, scan?_succ (opening _), scan?_add path 1, scan?_succ (closing _)]
  rfl

theorem scan?_typeName (type : Cast) (rest : List Char) :
    scan? 3 (' ' :: 'A' :: 'S' :: ' ' :: (type.typeName.toList ++ ')' :: rest)) =
      some ([.word "AS", .word type.typeName, .mark ')'], rest) := by
  cases type <;> rfl

/-- A column is cut into its lexemes, whatever follows it. -/
theorem scan?_columnText (settings : SqlSettings) (column : Column) (rest : List Char) :
    scan? (column.lexemes settings).length ((column.text settings).toList ++ rest) =
      some (column.lexemes settings, rest) := by
  obtain ⟨key, cast⟩ := column
  cases cast with
  | none => exact scan?_parenthesized settings key rest
  | some type =>
    have spelled : ((Column.mk key (some type)).text settings).toList ++ rest =
        'C' :: 'A' :: 'S' :: 'T' :: '(' :: ((Text.parenthesized (pathText settings key)).toList ++
          ' ' :: 'A' :: 'S' :: ' ' :: (type.typeName.toList ++ ')' :: rest)) := by
      simp [Column.text]
    have word (rest : List Char) : lexeme? ('C' :: 'A' :: 'S' :: 'T' :: '(' :: rest) =
        some (.word "CAST", '(' :: rest) := rfl
    have opening (rest : List Char) : lexeme? ('(' :: rest) = some (.mark '(', rest) := rfl
    have count : ((Column.mk key (some type)).lexemes settings).length = 5 + 3 + 1 + 1 := rfl
    rw [spelled, count, scan?_succ (word _), scan?_succ (opening _),
      scan?_add (scan?_parenthesized settings key _) 3, scan?_typeName]
    rfl

/-- The expressions for two fields agree exactly if the fields have one name. -/
theorem pathText_eq_iff {settings : SqlSettings} {key other : Key} :
    pathText settings key = pathText settings other ↔ key.unquoted = other.unquoted := by
  constructor
  · intro same
    have read := scan?_path settings key (show [].head? ≠ some '\'' by simp)
    rw [same, scan?_path settings other (by simp)] at read
    simpa [pathLexemes, eq_comm] using read
  · intro same
    rw [pathText, pathText, same]

/-- Different casts have different names of types. -/
theorem typeName_inj {type other : Cast} (same : type.typeName = other.typeName) :
    type = other := by
  cases type <;> cases other <;> simp_all [Cast.typeName]

/-- Two columns are written alike exactly if their fields have one name and are cast alike. -/
theorem columnText_eq_iff {settings : SqlSettings} {column other : Column} :
    column.text settings = other.text settings ↔
      column.key.unquoted = other.key.unquoted ∧ column.cast = other.cast := by
  obtain ⟨key, cast⟩ := column
  obtain ⟨key', cast'⟩ := other
  constructor
  · intro same
    have starts := congrArg (fun text => text.toList.head?) same
    have read := scan?_columnText settings ⟨key, cast⟩ []
    rw [same] at read
    cases cast with
    | none =>
      cases cast' with
      | none =>
        have whole := read.symm.trans (scan?_columnText settings ⟨key', none⟩ [])
        simpa [Column.lexemes, pathLexemes] using whole
      | some type' => simp [Column.text, Text.parenthesized] at starts
    | some type =>
      cases cast' with
      | none => simp [Column.text, Text.parenthesized] at starts
      | some type' =>
        have whole := read.symm.trans (scan?_columnText settings ⟨key', some type'⟩ [])
        have parts : key.unquoted = key'.unquoted ∧ type.typeName = type'.typeName := by
          simpa [Column.lexemes, pathLexemes] using whole
        exact ⟨parts.1, congrArg some (typeName_inj parts.2)⟩
  · rintro ⟨sameName, rfl⟩
    rw [Column.text, Column.text, pathText_eq_iff.mpr sameName]

/-- Whatever the names of the JSON column and of a field are, the expression for the field is cut
into exactly these two names and the operator between them, up to the text that follows it, if that
text does not go on with a quote. Nor can the names change how a column in parentheses or with a
cast is cut, whatever follows it. So the expressions for two keys agree only if the keys name one
field. -/
theorem scan?_pathText (settings : SqlSettings) (key : Key) :
    (∀ rest : List Char, rest.head? ≠ some '\'' →
      scan? 3 ((pathText settings key).toList ++ rest) =
        some ([.name settings.metadataColumn, .operator "->>", .literal key.unquoted], rest)) ∧
    (∀ (cast : Option Cast) (rest : List Char),
      scan? ((Column.mk key cast).lexemes settings).length
          (((Column.mk key cast).text settings).toList ++ rest) =
        some ((Column.mk key cast).lexemes settings, rest)) ∧
    ∀ other : Key,
      (pathText settings key = pathText settings other ↔ key.unquoted = other.unquoted) ∧
        ∀ cast cast' : Option Cast,
          (Column.mk key cast).text settings = (Column.mk other cast').text settings ↔
            key.unquoted = other.unquoted ∧ cast = cast' := by
  refine ⟨fun rest ends => scan?_path settings key ends, fun cast rest => ?_, fun other => ?_⟩
  · exact scan?_columnText settings ⟨key, cast⟩ rest
  · exact ⟨pathText_eq_iff, fun cast cast' => columnText_eq_iff⟩

/-- Names that start and end with quotes, and a text behind them that starts with the other kind of
quote. -/
theorem scan?_pathText_quotes :
    ['"', '\''].head? ≠ some '\'' ∧
      pathText { metadataColumn := "\"m\"" } ⟨"'--'\\'"⟩ = "\"\"\"m\"\"\" ->> '--''\\'" ∧
      scan? 3 ((pathText { metadataColumn := "\"m\"" } ⟨"'--'\\'"⟩).toList ++ ['"', '\'']) =
        some ([.name "\"m\"", .operator "->>", .literal "--'\\"], ['"', '\'']) := by
  have ends : ['"', '\''].head? ≠ some '\'' := by decide
  refine ⟨ends, by decide, ?_⟩
  exact (scan?_pathText { metadataColumn := "\"m\"" } ⟨"'--'\\'"⟩).1 _ ends

end PortableFilter.Sql
