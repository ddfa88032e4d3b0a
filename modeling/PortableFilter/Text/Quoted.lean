/-! # Quoted and enclosed texts

A literal of the filter language stands between two equal quotes, single or
double. Inside, a backslash before the quote or before another backslash takes away
its meaning; any other backslash stands for itself. Literals are always written
with single quotes. Dialects have their own ways of quoting: with backslashes
between double quotes, or by writing the delimiter twice. -/

namespace PortableFilter.Text

/-- A character inside a single-quoted literal. -/
def quotedChar (c : Char) : List Char :=
  if c = '\\' ∨ c = '\'' then ['\\', c] else [c]

/-- The single-quoted literal of a text. -/
def quoted (text : String) : String :=
  String.ofList ('\'' :: text.toList.flatMap quotedChar ++ ['\''])

/-- The text that stands between two quotes: a backslash before a quote or a backslash is
dropped, any other one stays. -/
def unescape (quote : Char) : List Char → List Char
  | [] => []
  | [c] => [c]
  | c :: next :: rest =>
    if c = '\\' ∧ (next = '\\' ∨ next = quote) then next :: unescape quote rest
    else c :: unescape quote (next :: rest)

/-- The text that a literal denotes, whichever quote delimits it. -/
def unquoted (literal : String) : String :=
  match literal.toList with
  | [] => ""
  | quote :: rest =>
    String.ofList
      (unescape quote (if rest.getLast? = some quote then rest.dropLast else rest))

/-- A character inside a double-quoted text. -/
def doubleQuotedChar (c : Char) : List Char :=
  if c = '\\' ∨ c = '"' then ['\\', c] else [c]

/-- A text in double quotes, with a backslash before each quote and each backslash. -/
def doubleQuoted (text : String) : String :=
  String.ofList ('"' :: text.toList.flatMap doubleQuotedChar ++ ['"'])

/-- A text with each occurrence of a character written twice. -/
def doubled (mark : Char) (text : String) : String :=
  String.ofList (text.toList.flatMap fun c => if c = mark then [c, c] else [c])

/-- A text in parentheses. -/
def parenthesized (text : String) : String := "(" ++ text ++ ")"

/-- A text in parentheses, if they are asked for. -/
def parenthesizedIf (condition : Bool) (text : String) : String :=
  if condition then parenthesized text else text

end PortableFilter.Text
