import PortableFilter.Dialect

/-! # Settings

What can be chosen about rendering: the names that a graph condition and a query
string give to fields, and the table, the column and the limit of a SQL query. -/

namespace PortableFilter

/-- How graph conditions name the properties of a node. -/
structure GraphSettings where
  /-- The name of the node. -/
  nodeAlias : String := "node"
  /-- What stands before a key in the name of a property. -/
  metadataPrefix : String := "metadata."
  deriving DecidableEq, Repr

/-- How query strings of full-text indexes name fields. -/
structure LuceneSettings where
  /-- What stands before a key in the name of a field. -/
  keyPrefix : String := ""
  deriving DecidableEq, Repr

/-- What SQL queries select from, and when they fold alternatives. -/
structure SqlSettings where
  /-- The table that holds the records. -/
  table : String := "documents"
  /-- The JSON column that holds the fields of a record. -/
  metadataColumn : String := "metadata"
  /-- How many alternatives are folded into a membership test; at least two always are needed. -/
  foldLimit : Nat := 5
  deriving DecidableEq, Repr

/-- All settings. -/
structure Settings where
  /-- The dialect that a session starts with; none stands for all of them. -/
  defaultDialect : Option Dialect := none
  graph : GraphSettings := {}
  lucene : LuceneSettings := {}
  sql : SqlSettings := {}
  deriving DecidableEq, Repr

end PortableFilter
