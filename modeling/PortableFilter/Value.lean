import PortableFilter.Binary64.Text
import PortableFilter.Timestamp
import PortableFilter.Text.Quoted

/-! # Values

A filter compares fields with scalars and lists. Only lists of scalars have a
meaning in a membership test, but a tree may hold any list. -/

namespace PortableFilter

/-- A single value. -/
inductive Scalar where
  | null
  | bool (value : Bool)
  | int (value : Int)
  | number (value : Binary64)
  | text (value : String)
  | date (value : Timestamp)
  deriving DecidableEq, Repr

/-- A value: a scalar or a list of values. -/
inductive Value where
  | scalar (scalar : Scalar)
  | list (items : List Value)

namespace Scalar

/-- Whether a scalar is anything but an infinite or undefined number. -/
def isFinite : Scalar → Bool
  | number x => x.isFinite
  | _ => true

/-- Equality of scalars, where numbers are compared by what they stand for. An integer and a
number are never equal. -/
def same : Scalar → Scalar → Bool
  | number x, number y => x.sameNumber y
  | left, right => left = right

/-- The spelling of a truth value. -/
def boolText (value : Bool) : String := if value then "true" else "false"

/-- A scalar in the filter language. -/
def print : Scalar → String
  | null => "null"
  | bool value => boolText value
  | int value => toString value
  | number value => value.toPointedText
  | text value => Text.quoted value
  | date value => Text.quoted value.toText

end Scalar

namespace Value

/-- Whether a value is a list. -/
def isList : Value → Bool
  | scalar _ => false
  | list _ => true

mutual

/-- Equality of values, where numbers are compared by what they stand for. -/
def same : Value → Value → Bool
  | .scalar left, .scalar right => left.same right
  | .list left, .list right => sameItems left right
  | _, _ => false

/-- Equality of lists of values, item by item. -/
def sameItems : List Value → List Value → Bool
  | [], [] => true
  | left :: lefts, right :: rights => same left right && sameItems lefts rights
  | _, _ => false

end

mutual

/-- A value in the filter language. -/
def print : Value → String
  | .scalar value => value.print
  | .list items => "[" ++ ", ".intercalate (printItems items) ++ "]"

/-- The items of a list in the filter language. -/
def printItems : List Value → List String
  | [] => []
  | item :: items => print item :: printItems items

end

/-- The scalars of a list, if it holds no lists. -/
def scalars? : List Value → Option (List Scalar)
  | [] => some []
  | .scalar value :: items => (scalars? items).map (value :: ·)
  | .list _ :: _ => none

/-- A list of scalars. -/
def ofScalars (scalars : List Scalar) : Value := .list (scalars.map .scalar)

end Value

end PortableFilter
