/-
  Members and encodings.

  A member is looked up in the parts an object was put together from.  What is written in a document
  can be told apart there: each encoding of a field is injective, also where a member is left out.
-/
import SyntheticTables.Decode

namespace SyntheticTables.Json

/-! ## Members of a document -/

section Members

variable {name : String}

@[simp] theorem member?_nil : (Json.obj []).member? name = none := rfl

/-- The first member with a name is the one that is found under it. -/
@[simp] theorem member?_cons {m : String} {value : Json} {rest : List (String × Json)} :
    (Json.obj ((m, value) :: rest)).member? name
      = if m = name then some value else (Json.obj rest).member? name := by
  by_cases h : m = name <;> simp [member?, h]

/-- Parts of an object are searched one after the other. -/
@[simp] theorem member?_append {xs ys : List (String × Json)} :
    (Json.obj (xs ++ ys)).member? name
      = ((Json.obj xs).member? name).or ((Json.obj ys).member? name) := by
  simp only [member?, List.find?_append]
  cases xs.find? _ <;> rfl

/-- A member that may be left out is found under its name if it was written. -/
@[simp] theorem member?_optional {α : Type} {m : String} {encode : α → Json} {o : Option α} :
    (Json.obj (optional m encode o)).member? name = if m = name then o.map encode else none := by
  cases o <;> simp [optional]

end Members

/-! ## Encodings -/

/-- The document of an integer determines it, since it can be read back. -/
@[simp] theorem ofInt64_inj {i j : Int64} : ofInt64 i = ofInt64 j ↔ i = j := by
  constructor
  · intro h
    have hread := congrArg asInt64 h
    rw [asInt64_ofInt64, asInt64_ofInt64] at hread
    exact Except.ok.inj hread
  · exact congrArg ofInt64

@[simp] theorem ofUInt64_inj {m n : UInt64} : ofUInt64 m = ofUInt64 n ↔ m = n := by
  simp [ofUInt64]

@[simp] theorem ofFloat_inj {x y : Float} : ofFloat x = ofFloat y ↔ x = y := by
  simp [ofFloat]

@[simp] theorem ofStrings_inj {xs ys : List String} : ofStrings xs = ofStrings ys ↔ xs = ys := by
  simp [ofStrings, List.map_inj_right]

end SyntheticTables.Json
