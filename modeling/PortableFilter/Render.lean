import PortableFilter.Document
import PortableFilter.Expr.Parser
import PortableFilter.Graph
import PortableFilter.Lucene
import PortableFilter.Range
import PortableFilter.Sql.Compiler

/-! # Rendering filters in any dialect -/

namespace PortableFilter

/-- Renders an expression in a dialect. -/
def Settings.render (settings : Settings) (dialect : Dialect) (expr : Expr) :
    Except ConvertError String :=
  match dialect with
  | .document => Document.render expr
  | .graph => Graph.render settings.graph expr
  | .lucene => Lucene.render settings.lucene expr
  | .range => Range.render expr
  | .sql => Sql.render settings.sql expr

/-- Why a text cannot be rendered as a query. -/
inductive FilterError where
  | parse (error : ParseError)
  | convert (error : ConvertError)
  deriving DecidableEq, Repr

/-- Why a text cannot be rendered as a query, in words. -/
def FilterError.message : FilterError → String
  | parse error => error.describe
  | convert error => error.message

/-- Renders the filter that a text spells in a dialect. -/
def Settings.renderText (settings : Settings) (dialect : Dialect) (text : String) :
    Except FilterError String :=
  match Expr.parse text with
  | .error error => .error (.parse error)
  | .ok expr => (settings.render dialect expr).mapError .convert

end PortableFilter
