import PortableFilter.Text.Blank

/-! # Dialects

The query languages that filters are rendered in. -/

namespace PortableFilter

/-- A query language. -/
inductive Dialect where
  /-- JSON queries of document stores. -/
  | document
  /-- Conditions on the properties of graph nodes. -/
  | graph
  /-- Query strings of full-text indexes. -/
  | lucene
  /-- Query strings with ranges in brackets, without a test for existence. -/
  | range
  /-- Queries on a table with a JSON column. -/
  | sql
  deriving DecidableEq, Repr

namespace Dialect

/-- The name of a dialect. -/
def name : Dialect → String
  | document => "document"
  | graph => "graph"
  | lucene => "lucene"
  | range => "range"
  | sql => "sql"

/-- All dialects, in the order in which they are listed and rendered. -/
def all : List Dialect := [document, graph, lucene, range, sql]

/-- The dialect with exactly this name. -/
def ofExactName? (name : String) : Option Dialect := all.find? fun dialect => dialect.name = name

/-- The dialect with this name, in any mix of ASCII cases and with any blanks around it. -/
def ofName? (name : String) : Option Dialect :=
  ofExactName? (String.ofList ((Text.trim name.toList).map Char.toLower))

/-- What is said of a name that no dialect has. -/
def unknownMessage (name : String) : String :=
  "unknown dialect '" ++ name ++ "', expected one of: " ++
    ", ".intercalate (all.map Dialect.name)

end Dialect

end PortableFilter
