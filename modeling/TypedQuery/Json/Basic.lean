import TypedQuery.Number.Basic
import TypedQuery.Table

/-!
# JSON values

Objects keep their members in order, so that printing a value shows the order in which it was
written. Equality of values does not: two objects are the same when they have the same keys with the
same values.
-/

namespace TypedQuery

/-- A JSON value. -/
inductive Json where
  | null
  | bool (value : Bool)
  | number (value : Number)
  | string (value : String)
  | list (items : List Json)
  | object (members : List (String × Json))
deriving Inhabited

namespace Json

/-- Whether a value is `null`. -/
def isNull : Json → Bool
  | null => true
  | _ => false

/-- Whether a value is a list. -/
def isList : Json → Bool
  | list _ => true
  | _ => false

/-- Whether a value is an object. -/
def isObject : Json → Bool
  | object _ => true
  | _ => false

/-- The integer `n` as a value. -/
def ofInt (n : Int) : Json := number (.integer n)

/-- The name of a value's kind in messages. -/
def kind : Json → String
  | null => "null"
  | bool _ => "a boolean"
  | number _ => "a number"
  | string _ => "a string"
  | list _ => "a list"
  | object _ => "an object"

mutual

/-- Equality of values. The members of objects are compared without regard to their order. -/
def same : Json → Json → Bool
  | null, null => true
  | bool a, bool b => a == b
  | number a, number b => a.same b
  | string a, string b => a == b
  | list a, list b => sameItems a b
  | object a, object b => a.length == b.length && sameMembers a b
  | _, _ => false

/-- Equality of lists, item by item. -/
def sameItems : List Json → List Json → Bool
  | [], [] => true
  | a :: as, b :: bs => same a b && sameItems as bs
  | _, _ => false

/-- Whether every member of the first list has its key and an equal value in the second. -/
def sameMembers : List (String × Json) → List (String × Json) → Bool
  | [], _ => true
  | (key, a) :: rest, members =>
    (match Table.get? key members with
      | some b => same a b
      | none => false) && sameMembers rest members

end

end Json

end TypedQuery
