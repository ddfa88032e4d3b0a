/-! # Lines of a text

A line ends with a line feed, before which one carriage return is dropped. The
end of a text also ends its last line, if that line has any characters. -/

namespace PortableFilter.Text

/-- The lines of a text, without what ends them. -/
def lines : List Char → List (List Char)
  | [] => []
  | c :: rest =>
    if c = '\n' then [] :: lines rest
    else if c = '\r' ∧ rest.head? = some '\n' then lines rest
    else match lines rest with
      | [] => [[c]]
      | line :: later => (c :: line) :: later

end PortableFilter.Text
