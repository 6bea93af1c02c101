/-
  Reading a record from a document.

  A record is written as an object, or as a list of its values in the order its fields are declared.
  Members are read in the order they stand and the first failure decides; names that are not known
  are passed over; what is missing is found out last, in the order of declaration.

  A `Slot` reads one field into a record under construction, so a record type is described by the
  list of its slots and a value to start from.
-/
import SyntheticTables.Decode

namespace SyntheticTables

open Json (Origin)

/-- How one field of a record `ρ` is read. -/
structure Slot (ρ : Type) where
  name : String
  /-- Whether the record cannot do without the field. -/
  required : Bool
  /-- Reads a value and puts it into the record. -/
  read : Json → ρ → Except DecodeError ρ

/-- A field that has to be there; what reads its value says whether `null` is one. -/
def Slot.needed {ρ α : Type} (name : String) (decode : Json → Except DecodeError α)
    (put : α → ρ → ρ) : Slot ρ :=
  ⟨name, true, fun j r => (decode j).map fun a => put a r⟩

/-- A field that may be left out; `null` leaves it out as well, and is put in as nothing. -/
def Slot.optional {ρ α : Type} (name : String) (decode : Json → Except DecodeError α)
    (put : Option α → ρ → ρ) : Slot ρ :=
  ⟨name, false, fun j r => (j.asOption decode).map fun a => put a r⟩

/-- A field that keeps its default when left out, but not when it is `null`: then its own reader
    decides. -/
def Slot.defaulted {ρ α : Type} (name : String) (decode : Json → Except DecodeError α)
    (put : α → ρ → ρ) : Slot ρ :=
  ⟨name, false, fun j r => (decode j).map fun a => put a r⟩

namespace Record

variable {ρ : Type}

/-- Reads members in the order they stand; `seen` holds the names met before.  A name that no slot
    has is passed over, also when it is repeated. -/
def readMembers (slots : List (Slot ρ)) (seen : List String) (r : ρ) :
    List (String × Json) → Except DecodeError (ρ × List String)
  | [] => .ok (r, seen)
  | (name, value) :: rest =>
    match slots.find? (·.name = name) with
    | none => readMembers slots seen r rest
    | some slot =>
      if seen.contains name then .error (.duplicateField name)
      else do
        let r ← slot.read value r
        readMembers slots (name :: seen) r rest

/-- The first field, in the order of declaration, that the record needs and that was not met. -/
def missing? (slots : List (Slot ρ)) (seen : List String) : Option String :=
  (slots.find? fun s => s.required && !seen.contains s.name).map (·.name)

/-- Reads values in the order of declaration and gives back those left over; `index` counts those
    that were read.  Fields behind the end of the list keep their defaults if they have any. -/
def readValues (shape : String) (index : Nat) :
    List (Slot ρ) → ρ → List Json → Except DecodeError (ρ × List Json)
  | [], r, rest => .ok (r, rest)
  | slot :: slots, r, [] =>
    if slot.required then .error (.invalidLength index shape)
    else readValues shape (index + 1) slots r []
  | slot :: slots, r, value :: rest => do
    let r ← slot.read value r
    readValues shape (index + 1) slots r rest

/-- How a list with the wrong number of values was expected to look, as the message puts it. -/
def shape (name : String) (slots : List (Slot ρ)) : String :=
  s!"struct {name} with {elementCount slots.length}"

/-- Reads a record given as an object: first everything that stands there, then what is missing. -/
def ofMembers (slots : List (Slot ρ)) (start : ρ) (members : List (String × Json)) :
    Except DecodeError ρ := do
  let (r, seen) ← readMembers slots [] start members
  match missing? slots seen with
  | some name => .error (.missingField name)
  | none => .ok r

/-- Reads a record given as a list.  Too many values are an error, too, whose wording depends on
    where the document comes from. -/
def ofItems (origin : Origin) (name : String) (slots : List (Slot ρ)) (start : ρ)
    (items : List Json) : Except DecodeError ρ := do
  let (r, rest) ← readValues (shape name slots) 0 slots start items
  if rest.isEmpty then .ok r
  else match origin with
    | .document => .error (.invalidLength items.length "fewer elements in array")
    | .tagged =>
      .error (.invalidLength items.length (elementCount slots.length ++ " in sequence"))

/-- Reads a record in either of its two forms; what is neither is reported under the name of the
    record. -/
def ofJson (origin : Origin) (name : String) (slots : List (Slot ρ)) (start : ρ) :
    Json → Except DecodeError ρ
  | .obj members => ofMembers slots start members
  | .arr items => ofItems origin name slots start items
  | other => .error (.invalidType (.of other) s!"struct {name}")

end Record

end SyntheticTables
