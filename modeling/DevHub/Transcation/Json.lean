import Mathlib.Algebra.Group.Int.Defs
import Mathlib.Algebra.Group.Nat.Defs
import Mathlib.Tactic.Common

/-!
`Json::Value` as the hub reads it. An accessor answers `none` where JsonCpp
throws its type error; nothing in the hub catches it. The members of an object
stand in key order, as `std::map` keeps them, and a double is the rational number
it denotes.
-/

namespace DevHub

set_option autoImplicit false

inductive Json where
  | null
  | int (value : Int)
  | uint (value : Nat)
  | real (value : Rat)
  | string (value : String)
  | bool (value : Bool)
  | array (elements : List Json)
  | object (members : List (String × Json))

namespace Json

def minInt : Int := -(2 ^ 31)
def maxInt : Int := 2 ^ 31 - 1
def maxUInt : Nat := 2 ^ 32 - 1

/-- `value[name]`: a missing member and a null value both read as null. -/
def member (value : Json) (name : String) : Option Json :=
  match value with
  | null => some null
  | object members =>
      match members.find? fun entry => entry.1 = name with
      | some entry => some entry.2
      | none => some null
  | _ => none

/-- `value[index]` on a constant value. -/
def element (value : Json) (index : Nat) : Option Json :=
  match value with
  | null => some null
  | array elements => some (elements.getD index null)
  | _ => none

/-- The elements that a loop up to `size()` gets by `value[i]`: a position in an object
with members is a type error, and the other values have no size. -/
def items : Json → Option (List Json)
  | .array elements => some elements
  | .object [] => some []
  | .object (_ :: _) => none
  | _ => some []

def text : Json → Option String
  | .string value => some value
  | _ => none

def isInt : Json → Bool
  | int value => minInt ≤ value && value ≤ maxInt
  | uint value => (value : Int) ≤ maxInt
  | real value => value.den = 1 && minInt ≤ value.num && value.num ≤ maxInt
  | _ => false

def asInt : Json → Option Int
  | null => some 0
  | int value => if minInt ≤ value ∧ value ≤ maxInt then some value else none
  | uint value => if (value : Int) ≤ maxInt then some value else none
  | real value =>
      if (minInt : Rat) ≤ value ∧ value ≤ (maxInt : Rat) then
        some (value.num.tdiv value.den)
      else none
  | bool value => some (if value then 1 else 0)
  | _ => none

def number (value : Json) : Option Int := if value.isInt then value.asInt else none

def asUInt : Json → Option Nat
  | uint value => if value ≤ maxUInt then some value else none
  | int value => if 0 ≤ value ∧ value ≤ maxUInt then some value.toNat else none
  | real value =>
      if 0 ≤ value ∧ value ≤ (maxUInt : Rat) then some (value.num.tdiv value.den).toNat else none
  | null => some 0
  | bool value => some (if value then 1 else 0)
  | _ => none

end Json

end DevHub
