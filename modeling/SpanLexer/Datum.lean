import SpanLexer.Number.Decimal
import SpanLexer.Text.Quoted

/-!
Plain data that may be offered where a pattern, predicate, observer, count, text or buffer is
expected.

Nothing here can be called. What matters of a datum is how it is written in a message, what its
type is called and whether it counts as true.
-/
namespace SpanLexer

/-- A value without behaviour. A decimal stands for the double nearest to it. -/
inductive Datum where
  | null
  | bool (value : Bool)
  | int (value : Int)
  | decimal (value : Decimal)
  | text (value : String)
  | list (items : List Datum)
  | record (fields : List (String × Datum))
  deriving Inhabited

namespace Datum

/-- What the type of a datum is called. -/
def typeName : Datum → String
  | .null => "NoneType"
  | .bool _ => "bool"
  | .int _ => "int"
  | .decimal _ => "float"
  | .text _ => "str"
  | .list _ => "list"
  | .record _ => "dict"

/-- Whether a datum counts as true: everything does but zero, the empty and the absent. -/
def truthy : Datum → Bool
  | .null => false
  | .bool value => value
  | .int value => value ≠ 0
  | .decimal value => !value.isZero
  | .text value => !value.isEmpty
  | .list items => !items.isEmpty
  | .record fields => !fields.isEmpty

mutual

/-- A datum as it is written in a message. -/
def render : Datum → String
  | .null => "None"
  | .bool true => "True"
  | .bool false => "False"
  | .int value => toString value
  | .decimal value => value.render
  | .text value => Quoted.quote value.toList
  | .list items => "[" ++ ", ".intercalate (renderItems items) ++ "]"
  | .record fields => "\x7b" ++ ", ".intercalate (renderFields fields) ++ "\x7d"

/-- The items of a list, each as it is written. -/
def renderItems : List Datum → List String
  | [] => []
  | item :: rest => item.render :: renderItems rest

/-- The fields of a record, each as its quoted name and its value. -/
def renderFields : List (String × Datum) → List String
  | [] => []
  | (name, value) :: rest => (Quoted.quote name.toList ++ ": " ++ value.render) :: renderFields rest

end

end Datum

end SpanLexer
