import PortableFilter.Expr.Outline
import PortableFilter.Render
import PortableFilter.Text.Backspace

/-! # Sessions

The command renders one filter, or it holds a session: it reads lines, renders
each as a filter, and obeys the lines that start with a colon. What it prints goes
to one of two streams. A session carries three things from line to line: the
settings, which never change, the dialect, and whether trees are shown. -/

namespace PortableFilter

/-- Something printed, with a line feed behind it. -/
inductive Printed where
  /-- Printed as a result. -/
  | out (text : String)
  /-- Printed as a complaint. -/
  | err (text : String)
  deriving DecidableEq, Repr

/-- What a session carries from line to line. -/
structure Session where
  settings : Settings
  /-- The dialect to render; none stands for all of them. -/
  dialect : Option Dialect
  /-- Whether the tree of each filter is shown. -/
  showTree : Bool
  deriving DecidableEq, Repr

namespace Session

/-- A session with the dialect asked for, or else the one of the settings. -/
def start (settings : Settings) (dialect : Option Dialect) (showTree : Bool) : Session :=
  ⟨settings, dialect.or settings.defaultDialect, showTree⟩

/-- The dialects that a session renders. -/
def dialects (session : Session) : List Dialect :=
  match session.dialect with
  | some dialect => [dialect]
  | none => Dialect.all

/-- The name of a dialect, set against the right end of eight columns. -/
def label (dialect : Dialect) : String :=
  String.ofList (List.replicate (8 - dialect.name.length) ' ') ++ dialect.name

/-- What is printed for an expression in one dialect. A result has no label if only one dialect
is rendered. -/
def answerIn (session : Session) (expr : Expr) (dialect : Dialect) : Printed :=
  match session.settings.render dialect expr with
  | .ok text => .out (if session.dialect.isSome then text else label dialect ++ ": " ++ text)
  | .error error => .err (label dialect ++ ": error: " ++ error.message)

/-- What is printed for a filter. -/
def answer (session : Session) (text : String) : List Printed :=
  match Expr.parse text with
  | .error error => [.err (error.report text)]
  | .ok expr =>
    let tree := if session.showTree then [.out ("\n".intercalate expr.outline)] else []
    tree ++ session.dialects.map (session.answerIn expr)

/-- Whether a filter can be rendered in a dialect of the session. -/
def succeeds (session : Session) (text : String) : Bool :=
  match Expr.parse text with
  | .error _ => false
  | .ok expr => session.dialects.any fun dialect => (session.settings.render dialect expr).isOk

/-- The text printed on request. -/
def help : List Printed :=
  [.out "Enter a filter such as  country == 'BG' && year >= 2020",
    .out "  :dialect NAME   render only NAME (document, graph, lucene, range, sql)",
    .out "  :dialect all    render every dialect",
    .out "  :ast            toggle printing of the expression tree",
    .out "  :quit           leave"]

/-- Obeys a command, given by its words: what the session becomes, none if it ends, and what is
printed. -/
def command (session : Session) : List String → Option Session × List Printed
  | [] => (some session, help)
  | "help" :: _ => (some session, help)
  | "quit" :: _ => (none, [])
  | "q" :: _ => (none, [])
  | "exit" :: _ => (none, [])
  | "ast" :: _ =>
    (some { session with showTree := !session.showTree },
      [.out (if session.showTree then "ast output off" else "ast output on")])
  | "dialect" :: name :: _ =>
    if name = "all" then (some { session with dialect := none }, [.out "rendering every dialect"])
    else match Dialect.ofName? name with
      | some dialect =>
        (some { session with dialect := some dialect }, [.out ("rendering " ++ dialect.name)])
      | none => (some session, [.err (Dialect.unknownMessage name)])
  | ["dialect"] => (some { session with dialect := none }, [.out "rendering every dialect"])
  | other :: _ => (some session, [.err ("unknown command ':" ++ other ++ "', try :help")])

/-- Takes a line as it was typed: what the session becomes, none if it ends, and what is
printed. -/
def step (session : Session) (line : List Char) : Option Session × List Printed :=
  match Text.trim (Text.obeyBackspaces line) with
  | [] => (some session, [])
  | ':' :: rest => session.command ((Text.words rest).map String.ofList)
  | filter => (some session, session.answer (String.ofList filter))

/-- Takes lines until the session ends: all that is printed. -/
def run (session : Session) : List (List Char) → List Printed
  | [] => []
  | line :: lines =>
    match session.step line with
    | (some session, printed) => printed ++ session.run lines
    | (none, printed) => printed

/-- What a session prints before it takes lines. -/
def banner : Printed := .out "filterc 0.1.0 (:help for commands)"

/-- What the command does: the filter to render, or none for a session on the given lines, with
the status it ends with. -/
def execute (session : Session) (filter : Option String) (lines : List (List Char)) :
    List Printed × Nat :=
  match filter with
  | some text => (session.answer text, if session.succeeds text then 0 else 1)
  | none => (banner :: session.run lines, 0)

end Session

end PortableFilter
