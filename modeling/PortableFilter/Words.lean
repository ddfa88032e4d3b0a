import PortableFilter.Expr

/-! # Words and signs that dialects share -/

namespace PortableFilter

/-- The word of a connective, with the blanks around it. -/
def Connective.word : Connective → String
  | .and => " AND "
  | .or => " OR "

/-- The sign of a comparison, with the blanks around it. -/
def Comparison.sign : Comparison → String
  | .eq => " = "
  | .ne => " <> "
  | .gt => " > "
  | .gte => " >= "
  | .lt => " < "
  | .lte => " <= "

end PortableFilter
