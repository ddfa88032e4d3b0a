import PortableFilter.Json.Reader
import PortableFilter.Settings

/-! # Reading settings

Settings are kept in a JSON file. Each record of settings is an object, in which
fields may be left out and unknown fields are ignored, or an array of the fields in
order, of which the last ones may be left out. A field must not be repeated, and
only the dialect may be null. -/

namespace PortableFilter

namespace Json

/-- The values of the fields with these names, none for those left out. -/
def fields? (names : List String) : Json → Option (List (Option Json))
  | .array items =>
    if items.length ≤ names.length then
      some (items.map some ++ List.replicate (names.length - items.length) none)
    else none
  | .object fields =>
    if fields.all fun (name, _) => name.isSome then
      names.mapM fun name =>
        match fields.filter fun (other, _) => other = some name with
        | [] => some none
        | [(_, value)] => some (some value)
        | _ => none
    else none
  | _ => none

/-- The text that a string denotes. -/
def text? : Json → Option String
  | .string content => content
  | _ => none

/-- The number that digits denote, if it fits into 64 bits. Signs, fractions and exponents are not
taken. -/
def count? : Json → Option Nat
  | .number literal =>
    let digits := literal.toList
    let value := Nat.ofDigitChars 10 digits 0
    if digits.all Char.isDigit ∧ value < 0x10000000000000000 then some value else none
  | _ => none

/-- The dialect that a value names, none for null. A name may also be written as an object with
one field of that name and no value. -/
def dialect? : Json → Option (Option Dialect)
  | .null => some none
  | .string (some name) => (Dialect.ofExactName? name).map some
  | .object [(some name, .null)] => (Dialect.ofExactName? name).map some
  | _ => none

/-- What a field denotes, or the default if it is left out. -/
def orDefault {α : Type} (default : α) (read : Json → Option α) : Option Json → Option α
  | none => some default
  | some value => read value

end Json

namespace Settings

/-- The graph settings that a value spells. -/
def readGraph? (json : Json) : Option GraphSettings := do
  let default : GraphSettings := {}
  match ← json.fields? ["node_alias", "metadata_prefix"] with
  | [nodeAlias, metadataPrefix] =>
    return {
      nodeAlias := ← Json.orDefault default.nodeAlias Json.text? nodeAlias
      metadataPrefix := ← Json.orDefault default.metadataPrefix Json.text? metadataPrefix }
  | _ => none

/-- The query string settings that a value spells. -/
def readLucene? (json : Json) : Option LuceneSettings := do
  let default : LuceneSettings := {}
  match ← json.fields? ["key_prefix"] with
  | [keyPrefix] =>
    return { keyPrefix := ← Json.orDefault default.keyPrefix Json.text? keyPrefix }
  | _ => none

/-- The SQL settings that a value spells. -/
def readSql? (json : Json) : Option SqlSettings := do
  let default : SqlSettings := {}
  match ← json.fields? ["table", "metadata_column", "max_or_conditions_for_in"] with
  | [table, column, limit] =>
    return {
      table := ← Json.orDefault default.table Json.text? table
      metadataColumn := ← Json.orDefault default.metadataColumn Json.text? column
      foldLimit := ← Json.orDefault default.foldLimit Json.count? limit }
  | _ => none

/-- The settings that a value spells. -/
def ofJson? (json : Json) : Option Settings := do
  match ← json.fields? ["default_dialect", "graph", "lucene", "sql"] with
  | [dialect, graph, lucene, sql] =>
    return {
      defaultDialect := ← Json.orDefault none Json.dialect? dialect
      graph := ← Json.orDefault {} readGraph? graph
      lucene := ← Json.orDefault {} readLucene? lucene
      sql := ← Json.orDefault {} readSql? sql }
  | _ => none

/-- Why settings cannot be loaded. -/
inductive LoadError where
  | notFound (path : String)
  /-- The file cannot be read as UTF-8 text. -/
  | unreadable
  /-- The text does not spell settings. -/
  | invalid
  deriving DecidableEq, Repr

/-- Why settings cannot be loaded, in words. -/
def LoadError.message : LoadError → String
  | notFound path => "config file not found: " ++ path
  | unreadable => "failed to read config file"
  | invalid => "failed to parse config file"

/-- The settings that the bytes of a file spell. -/
def ofBytes (bytes : ByteArray) : Except LoadError Settings :=
  match String.fromUTF8? bytes with
  | none => .error .unreadable
  | some text =>
    match (Json.read? text).bind ofJson? with
    | none => .error .invalid
    | some settings => .ok settings

end Settings

end PortableFilter
