import ApiContract.Decimal.Shortest
import ApiContract.Table

/-!
# JSON values

A value keeps the members of an object in their order. Two values are the `same` when they differ
only in that order; numbers are the same when they are of one kind and equal.
-/

namespace ApiContract

/-- A JSON number: an integer of 64 bits, signed or unsigned, or a binary64 number. -/
inductive Number where
  | integer (n : Int)
  | real (x : Binary64)
  deriving DecidableEq, Repr

/-- A JSON value. -/
inductive Json where
  | null
  | bool (value : Bool)
  | number (value : Number)
  | string (value : String)
  | array (items : List Json)
  | object (members : List (String × Json))
  deriving Repr, Inhabited

namespace Number

/-- Whether an integer literal stays an integer: it fits 64 bits with or without a sign. -/
def fits (n : Int) : Bool := -(Nat.pow 2 63 : Nat) ≤ n && n < (Nat.pow 2 64 : Nat)

/-- Equality of numbers; an integer never equals a binary64 number. -/
def same : Number → Number → Bool
  | .integer a, .integer b => a == b
  | .real a, .real b => a.same b
  | _, _ => false

end Number

namespace Json

/-- The value of a member of an object; `none` for an absent member and for any other value. -/
def member? (key : String) : Json → Option Json
  | .object members => Table.find? key members
  | _ => none

/-- An object with a member changed by a function of the value it had; a new member comes last. Any
other value stays as it is. -/
def alterMember (key : String) (f : Option Json → Json) : Json → Json
  | .object members => .object (Table.alter key f members)
  | other => other

/-- The text of a string value. -/
def text? : Json → Option String
  | .string s => some s
  | _ => none

/-- The items of an array. -/
def items? : Json → Option (List Json)
  | .array items => some items
  | _ => none

/-- The members of an object. -/
def members? : Json → Option (List (String × Json))
  | .object members => some members
  | _ => none

mutual

/-- Equality of values, the order of members aside. -/
def same : Json → Json → Bool
  | .null, .null => true
  | .bool a, .bool b => a == b
  | .number a, .number b => a.same b
  | .string a, .string b => a == b
  | .array a, .array b => sameItems a b
  | .object a, .object b => a.length == b.length && sameMembers a b
  | _, _ => false

/-- Equality of arrays. -/
def sameItems : List Json → List Json → Bool
  | [], [] => true
  | a :: as, b :: bs => same a b && sameItems as bs
  | _, _ => false

/-- Whether every member of the first object is in the second. -/
def sameMembers : List (String × Json) → List (String × Json) → Bool
  | [], _ => true
  | (key, a) :: rest, others =>
    (match Table.find? key others with
      | some b => same a b
      | none => false) && sameMembers rest others

end

end Json

end ApiContract
