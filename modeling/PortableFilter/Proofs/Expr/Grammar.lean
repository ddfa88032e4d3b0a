import PortableFilter.Expr.Parser
import PortableFilter.Proofs.Decimal

/-! # The grammar of filters

The grammar says which lists of tokens spell a filter, and which tree they spell. It is a
relation: it neither looks ahead nor counts. A derivation is kept as a `Phrase`, which records
every pair of parentheses that was written. `Phrase.content` is the tree of a phrase: parentheses
around an operand become one group, however many there are, and parentheses around the whole are
dropped. `Phrase.nesting` is the greatest number of parentheses and negations around any token. -/

namespace PortableFilter

/-- How a filter is put together from tests, with all parentheses that were written. -/
inductive Phrase where
  | test (content : Expr)
  | join (connective : Connective) (left right : Phrase)
  | not (operand : Phrase)
  | parens (content : Phrase)

namespace Phrase

/-- Whether a phrase stands in parentheses. -/
def grouped : Phrase → Bool
  | parens _ => true
  | _ => false

/-- The operand that a phrase with a given tree becomes. -/
def wrap (phrase : Phrase) (content : Expr) : Operand :=
  if phrase.grouped then .group content else .expr content

/-- The tree of a phrase, without the parentheses around the whole. -/
def content : Phrase → Expr
  | test content => content
  | join connective left right =>
    .join connective (left.wrap left.content) (right.wrap right.content)
  | not operand => .not (operand.wrap operand.content)
  | parens content => content.content

/-- The operand that a phrase becomes. -/
def operand (phrase : Phrase) : Operand := phrase.wrap phrase.content

/-- The greatest number of parentheses and negations around a token of a phrase. -/
def nesting : Phrase → Nat
  | test _ => 0
  | join _ left right => max left.nesting right.nesting
  | not operand => operand.nesting + 1
  | parens content => content.nesting + 1

end Phrase

namespace Grammar

/-- The marks that may end an integer. -/
inductive LongMark : List Char → Prop where
  | absent : LongMark []
  | lower : LongMark ['l']
  | upper : LongMark ['L']

/-- The signs of an integer, and whether they negate it. A plus before the sign has no meaning. -/
inductive IntegerSign : List Char → Bool → Prop where
  | single {sign : List Char} {negative : Bool} (signs : Decimal.Sign sign negative) :
      IntegerSign sign negative
  | behindPlus {sign : List Char} {negative : Bool} (signs : Decimal.Sign sign negative) :
      IntegerSign ('+' :: sign) negative

/-- The integer with a sign. -/
def signed (negative : Bool) (magnitude : Nat) : Int :=
  if negative then -(magnitude : Int) else magnitude

/-- A token is a constant that denotes a scalar. An integer has to fit into 64 bits, and a decimal
has to be finite. -/
inductive Constant : Token → Scalar → Prop where
  | integer {token : Token} {sign digits mark : List Char} {negative : Bool}
      (kind : token.kind = .integer) (spelled : token.text.toList = sign ++ digits ++ mark)
      (signs : IntegerSign sign negative) (nonempty : digits ≠ [])
      (numeric : digits.all Char.isDigit) (marks : LongMark mark)
      (above : -0x8000000000000000 ≤ signed negative (Decimal.ofDigits digits))
      (below : signed negative (Decimal.ofDigits digits) < 0x8000000000000000) :
      Constant token (.int (signed negative (Decimal.ofDigits digits)))
  | decimal {token : Token} {value : Binary64} (kind : token.kind = .decimal)
      (spelled : Binary64.read? token.text.toList = some value) (finite : value.isFinite) :
      Constant token (.number value)
  | quoted {token : Token} (kind : token.kind = .quoted) :
      Constant token (.text (Text.unquoted token.text))
  | boolean {token : Token} {value : Bool} (kind : token.kind = .boolean value) :
      Constant token (.bool value)
  | null {token : Token} (kind : token.kind = .null) : Constant token .null

/-- Constants with commas between them. -/
inductive Items : List Token → List Scalar → Prop where
  | single {token : Token} {value : Scalar} (constant : Constant token value) :
      Items [token] [value]
  | more {token comma : Token} {value : Scalar} {tokens : List Token} {values : List Scalar}
      (constant : Constant token value) (kind : comma.kind = .comma) (items : Items tokens values) :
      Items (token :: comma :: tokens) (value :: values)

/-- A list of constants in brackets. -/
inductive Bracketed : List Token → List Scalar → Prop where
  | empty {opening closing : Token} (opens : opening.kind = .openBracket)
      (closes : closing.kind = .closeBracket) : Bracketed [opening, closing] []
  | items {opening closing : Token} {tokens : List Token} {values : List Scalar}
      (opens : opening.kind = .openBracket) (items : Items tokens values)
      (closes : closing.kind = .closeBracket) :
      Bracketed (opening :: tokens ++ [closing]) values

/-- Names with dots between them, and the text of the path. -/
inductive Path : List Token → String → Prop where
  | name {token : Token} (kind : token.kind = .name) : Path [token] token.text
  | dotted {tokens : List Token} {path : String} {dot part : Token} (start : Path tokens path)
      (dots : dot.kind = .dot) (kind : part.kind = .name) :
      Path (tokens ++ [dot, part]) (path ++ "." ++ part.text)

/-- The key that tokens name. -/
inductive Identifier : List Token → Key → Prop where
  | path {tokens : List Token} {path : String} (named : Path tokens path) :
      Identifier tokens ⟨path⟩
  | quoted {token : Token} (kind : token.kind = .quoted) : Identifier [token] ⟨token.text⟩

/-- The kind of the token that stands for a comparison. -/
def comparisonToken : Comparison → TokenKind
  | .eq => .eq
  | .ne => .ne
  | .gt => .gt
  | .gte => .gte
  | .lt => .lt
  | .lte => .lte

/-- What is said about a key. -/
inductive Predicate (key : Key) : List Token → Expr → Prop where
  | compare {comparison : Comparison} {sign token : Token} {value : Scalar}
      (kind : sign.kind = comparisonToken comparison) (constant : Constant token value) :
      Predicate key [sign, token] (.compare comparison key (.scalar value))
  | member {word : Token} {tokens : List Token} {values : List Scalar}
      (kind : word.kind = .inWord) (bracketed : Bracketed tokens values) :
      Predicate key (word :: tokens) (.member false key (.ofScalars values))
  | nonmember {word : Token} {tokens : List Token} {values : List Scalar}
      (kind : word.kind = .ninWord) (bracketed : Bracketed tokens values) :
      Predicate key (word :: tokens) (.member true key (.ofScalars values))
  | notMember {negation word : Token} {tokens : List Token} {values : List Scalar}
      (negates : negation.kind = .not) (kind : word.kind = .inWord)
      (bracketed : Bracketed tokens values) :
      Predicate key (negation :: word :: tokens) (.member true key (.ofScalars values))
  | absent {word null : Token} (kind : word.kind = .isWord) (ends : null.kind = .null) :
      Predicate key [word, null] (.absent false key)
  | present {word negation null : Token} (kind : word.kind = .isWord)
      (negates : negation.kind = .not) (ends : null.kind = .null) :
      Predicate key [word, negation, null] (.absent true key)

/-- The rules of the grammar that refer to each other. -/
inductive Rule where
  /-- Disjunctions of conjunctions, and conjunctions of negations. -/
  | chain (connective : Connective)
  | negation
  | primary

/-- The rule for what a chain joins. -/
def Rule.item : Connective → Rule
  | .or => .chain .and
  | .and => .negation

/-- Tokens spell a phrase by a rule. Chains grow at their right end, so connectives associate to
the left. -/
inductive Derives : Rule → List Token → Phrase → Prop where
  | single {connective : Connective} {tokens : List Token} {phrase : Phrase}
      (item : Derives (.item connective) tokens phrase) :
      Derives (.chain connective) tokens phrase
  | more {connective : Connective} {tokens later : List Token} {sign : Token}
      {left right : Phrase} (start : Derives (.chain connective) tokens left)
      (kind : sign.kind = Reading.connectiveToken connective)
      (item : Derives (.item connective) later right) :
      Derives (.chain connective) (tokens ++ sign :: later) (.join connective left right)
  | not {sign : Token} {tokens : List Token} {operand : Phrase} (kind : sign.kind = .not)
      (negated : Derives .negation tokens operand) :
      Derives .negation (sign :: tokens) (.not operand)
  | plain {tokens : List Token} {phrase : Phrase} (primary : Derives .primary tokens phrase) :
      Derives .negation tokens phrase
  | parens {opening closing : Token} {tokens : List Token} {content : Phrase}
      (opens : opening.kind = .openParen) (inside : Derives (.chain .or) tokens content)
      (closes : closing.kind = .closeParen) :
      Derives .primary (opening :: tokens ++ [closing]) (.parens content)
  | test {tokens later : List Token} {key : Key} {content : Expr}
      (named : Identifier tokens key) (predicate : Predicate key later content) :
      Derives .primary (tokens ++ later) (.test content)

/-- A filter is a disjunction, perhaps behind the word `where`. -/
inductive Filter : List Token → Phrase → Prop where
  | bare {tokens : List Token} {phrase : Phrase} (spelled : Derives (.chain .or) tokens phrase) :
      Filter tokens phrase
  | introduced {word : Token} {tokens : List Token} {phrase : Phrase}
      (kind : word.kind = .whereWord) (spelled : Derives (.chain .or) tokens phrase) :
      Filter (word :: tokens) phrase

end Grammar

end PortableFilter
