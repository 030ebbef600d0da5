import ChessDrawing.Number.Shortest
import ChessDrawing.Text.Quoted

/-!
# Settings values

A stored setting is a tree of lists and objects over integers, doubles, texts and truth values.
The fields of an object keep their order.  Two values agree whatever the order of their fields, and
equal numbers of different kinds agree.  Messages show a value in one line.
-/

namespace ChessDrawing

/-- A value as it is stored or sent. -/
inductive Value where
  | null
  | bool (value : Bool)
  | integer (value : Int)
  | real (value : Binary64)
  | text (value : String)
  | list (items : List Value)
  | object (fields : List (String × Value))
  deriving Inhabited

namespace Value

/-- The fields of an object. -/
def fields? : Value → Option (List (String × Value))
  | .object fields => some fields
  | _ => none

/-- Whether a value says nothing: no value, falsehood, zero, or something empty. -/
def isVoid : Value → Bool
  | .null => true
  | .bool value => !value
  | .integer value => value == 0
  | .real value => value.isZero
  | .text value => value.isEmpty
  | .list items => items.isEmpty
  | .object fields => fields.isEmpty

/-! ## Agreement -/

/-- The exact size of a finite number in units of `2 ^ -1074`; a truth value is one or zero. -/
def units? : Value → Option Int
  | .bool value => some (if value then Binary64.unitsPerOne else 0)
  | .integer value => some (value * Binary64.unitsPerOne)
  | .real (.finite negative units) => some (Binary64.signed negative units)
  | _ => none

/-- Whether two values are the same number, whatever their kinds. -/
def isSameNumber (left right : Value) : Bool :=
  match left.units?, right.units?, left, right with
  | some size, some size', _, _ => size == size'
  | none, none, .real number, .real number' => number == number'
  | _, _, _, _ => false

mutual

/-- Whether two values say the same: numbers by their exact sizes, and objects field by field in any
order. -/
def agrees : Value → Value → Bool
  | .null, .null => true
  | .text left, .text right => left == right
  | .list left, .list right => agreesItems left right
  | .object left, .object right => left.length == right.length && agreesFields left right
  | left, right => left.isSameNumber right

/-- Whether two lists agree item by item. -/
def agreesItems : List Value → List Value → Bool
  | [], [] => true
  | item :: items, item' :: items' => agrees item item' && agreesItems items items'
  | _, _ => false

/-- Whether an object has given fields with values that agree. -/
def agreesFields : List (String × Value) → List (String × Value) → Bool
  | [], _ => true
  | (key, value) :: fields, others =>
      (others.lookup key).any (agrees value) && agreesFields fields others

end

/-! ## Messages -/

mutual

/-- A value inside a message. -/
def inline : Value → List Char
  | .null => ['N', 'o', 'n', 'e']
  | .bool true => ['T', 'r', 'u', 'e']
  | .bool false => ['F', 'a', 'l', 's', 'e']
  | .integer value => Text.integer value
  | .real value => value.shortest
  | .text value => Text.quote value.toList
  | .list items => '[' :: (inlineItems items ++ [']'])
  | .object fields => '\x7b' :: (inlineFields fields ++ ['\x7d'])

/-- Values with commas between them. -/
def inlineItems : List Value → List Char
  | [] => []
  | [item] => inline item
  | item :: next :: items => inline item ++ ',' :: ' ' :: inlineItems (next :: items)

/-- Fields with commas between them. -/
def inlineFields : List (String × Value) → List Char
  | [] => []
  | [(key, value)] => Text.quote key.toList ++ ':' :: ' ' :: inline value
  | (key, value) :: next :: fields =>
      Text.quote key.toList ++ ':' :: ' ' ::
        (inline value ++ ',' :: ' ' :: inlineFields (next :: fields))

end

/-- A whole value in a message; a text stands without quotation marks. -/
def shown : Value → String
  | .text value => value
  | value => String.ofList value.inline

end Value
end ChessDrawing
