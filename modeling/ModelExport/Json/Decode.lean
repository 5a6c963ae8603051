/-
# ModelExport.Json.Decode — records from values

Decoding gives a value that was read before its type. A record comes from an
object, whose members are decoded in the order in which they stand, or from a
list that holds its fields in order. An object may have members that no field
names; a field may occur once. A list may leave out fields at its end that have
a default, and holds nothing else.
-/
import ModelExport.Json.Value

set_option autoImplicit false

namespace ModelExport.Json

/-- Gives a value a type. -/
abbrev Decoder (α : Type) := Value → Except Cause α

namespace Decode

variable {α σ : Type}

/-- Refuse a value because it is not of the wanted kind. -/
def refuse (expected : String) : Decoder α := fun value =>
  .error (.invalidType value.found expected)

/-- A count: an integer of 64 bits that is not negative. -/
def count : Decoder UInt64
  | .integer n =>
      if n < 0 then .error (.invalidValue (.integer n) "usize") else .ok (.ofNat n.toNat)
  | value => refuse "usize" value

/-- A double. An integer counts as the double nearest to it. -/
def double : Decoder Binary64
  | .integer n => .ok (.ofInt n)
  | .float x => .ok x
  | value => refuse "f64" value

def boolean : Decoder Bool
  | .bool b => .ok b
  | value => refuse "a boolean" value

def listOf (item : Decoder α) : Decoder (List α)
  | .list values => values.mapM item
  | value => refuse "a sequence" value

/-! ## Fields -/

/-- A field that a member gives for the first time. -/
def once (name : String) (given : Option α) (decode : Decoder α) (value : Value) :
    Except Cause (Option α) :=
  match given with
  | some _ => .error (.duplicateField name)
  | none => (decode value).map some

/-- A field that has to be given. -/
def required (name : String) (given : Option α) : Except Cause α :=
  match given with
  | some a => .ok a
  | none => .error (.missingField name)

/-- The field at a place of a list, and the values after it. -/
def element (expected : String) (place : Nat) (decode : Decoder α) :
    List Value → Except Cause (α × List Value)
  | [] => .error (.invalidLength place expected)
  | value :: rest => (decode value).map fun a => (a, rest)

/-- A field of a list that has a default, and the values after it. -/
def elementOr (default : α) (decode : Decoder α) : List Value → Except Cause (α × List Value)
  | [] => .ok (default, [])
  | value :: rest => (decode value).map fun a => (a, rest)

/-- The end of a list that held so many fields. -/
def noMore (fields : Nat) : List Value → Except Cause Unit
  | [] => .ok ()
  | rest => .error (.invalidLength (fields + rest.length) (toString fields ++ " elements in sequence"))

/-- A record, from the members of an object or from the items of a list. -/
def record (expected : String) (start : σ) (step : σ → String × Value → Except Cause σ)
    (complete : σ → Except Cause α) (ofList : List Value → Except Cause α) : Decoder α
  | .object members => do complete (← members.foldlM step start)
  | .list values => ofList values
  | value => refuse expected value

end Decode

end ModelExport.Json
