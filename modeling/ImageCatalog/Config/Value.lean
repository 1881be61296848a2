import ImageCatalog.Text.Quote
import ImageCatalog.Text.Decimal

/-!
# Setting values

A setting read from a configuration file or a data record may be of any of
the kinds those formats carry: nothing, a truth value, an integer, a decimal
number, a text, a list or a table. The library takes settings as they come
and decides by their kind where it has to: `Value.truthy` says whether a
setting counts as given, and `Value.render` is the text a setting stands for
inside a message or an address.
-/

namespace ImageCatalog.Config

/-- A setting value. -/
inductive Value where
  | none
  | bool (b : Bool)
  | int (n : Int)
  | decimal (mantissa : Int) (scale : Nat)
  | infinite (negative : Bool)
  | notANumber
  | str (s : String)
  | list (items : List Value)
  | table (entries : List (String × Value))
  deriving Repr, Inhabited, BEq

namespace Value

/-- Whether a value counts as given: nothing, false, zero and empty texts,
lists and tables do not. -/
def truthy : Value → Bool
  | .none => false
  | .bool b => b
  | .int n => n != 0
  | .decimal m _ => m != 0
  | .infinite _ | .notANumber => true
  | .str s => !s.isEmpty
  | .list xs => !xs.isEmpty
  | .table es => !es.isEmpty

/-- Whether a value is nothing. -/
def isNone : Value → Bool
  | .none => true
  | _ => false

mutual
/-- The written form of a value inside a list or table: texts quoted. -/
def quoted : Value → String
  | .str s => Text.quote s
  | .list xs => "[" ++ ", ".intercalate (quotedList xs) ++ "]"
  | .table es => "\x7b" ++ ", ".intercalate (quotedEntries es) ++ "\x7d"
  | .none => "None"
  | .bool b => if b then "True" else "False"
  | .int n => toString n
  | .decimal m s => Text.floatText m s
  | .infinite negative => if negative then "-inf" else "inf"
  | .notANumber => "nan"

/-- The written forms of list items. -/
def quotedList : List Value → List String
  | [] => []
  | v :: rest => v.quoted :: quotedList rest

/-- The written forms of table entries. -/
def quotedEntries : List (String × Value) → List String
  | [] => []
  | (k, v) :: rest => (Text.quote k ++ ": " ++ v.quoted) :: quotedEntries rest
end

/-- The text a value stands for: a text is itself, everything else is
written out. -/
def render : Value → String
  | .str s => s
  | v => v.quoted

/-- The text of a value, if it is one. -/
def text? : Value → Option String
  | .str s => some s
  | _ => Option.none

/-- An integer reading of a value: integers and truth values count, other
values read as `fallback`. -/
def intD (v : Value) (fallback : Int) : Int :=
  match v with
  | .int n => n
  | .bool b => if b then 1 else 0
  | _ => fallback

end Value

end ImageCatalog.Config
