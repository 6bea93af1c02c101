/-
  From a document to typed values.

  Decoding fails with a cause, `DecodeError`; its wording is in `DecodeError.message` alone.  A
  reader for one type says in one word what it had hoped for (`expected`), the document says what it
  found.
-/
import SyntheticTables.Json
import SyntheticTables.Decimal.Layout
import SyntheticTables.Text.Quoted

namespace SyntheticTables

/-! ## Causes -/

/-- What stands in the document where something else was hoped for: a simple value as it is, of
    lists and objects only the form. -/
inductive Found where
  | null
  | bool (b : Bool)
  | unsigned (n : UInt64)
  | negative (n : Int64)
  | float (x : Float)
  | text (s : String)
  | list
  | map
  deriving Inhabited

/-- A number that was found; the message distinguishes integers from floats. -/
def Found.ofNumber : Json.Number → Found
  | .unsigned n => .unsigned n
  | .negative n => .negative n
  | .float x => .float x

/-- What is said about a document that has the wrong form. -/
def Found.of : Json → Found
  | .null => .null
  | .bool b => .bool b
  | .num n => .ofNumber n
  | .str s => .text s
  | .arr _ => .list
  | .obj _ => .map

/-- What was found in words: simple values are shown, texts between quotes. -/
def Found.message : Found → String
  | .null => "null"
  | .bool b => s!"boolean `{b}`"
  | .unsigned n => s!"integer `{n}`"
  | .negative n => s!"integer `{n}`"
  | .float x => s!"floating point `{Decimal.json.text x}`"
  | .text s => s!"string {Text.quoted s}"
  | .list => "sequence"
  | .map => "map"

/-- Why a document is not decoded.  The names in it are those of the document, so a message can be
    read beside it. -/
inductive DecodeError where
  | invalidType (found : Found) (expected : String)
  | invalidValue (found : Found) (expected : String)
  | invalidLength (length : Nat) (expected : String)
  | unknownVariant (name : String) (choices : List String)
  | unknownField (name : String) (fields : List String)
  | missingField (name : String)
  | duplicateField (name : String)
  /-- No alternative of the named type reads the document, whatever the reasons are. -/
  | noAlternative (type : String)
  deriving Inhabited

/-- The names one could have written: two are joined by "or", more are listed. -/
def expectedNames (none : String) : List String → String
  | [] => none
  | [a] => s!"expected `{a}`"
  | [a, b] => s!"expected `{a}` or `{b}`"
  | names => "expected one of " ++ ", ".intercalate (names.map fun n => s!"`{n}`")

/-- The wording of a cause, which is fixed here for all readers. -/
def DecodeError.message : DecodeError → String
  | .invalidType found expected => s!"invalid type: {found.message}, expected {expected}"
  | .invalidValue found expected => s!"invalid value: {found.message}, expected {expected}"
  | .invalidLength length expected => s!"invalid length {length}, expected {expected}"
  | .unknownVariant name choices =>
    s!"unknown variant `{name}`, " ++ expectedNames "there are no variants" choices
  | .unknownField name fields =>
    s!"unknown field `{name}`, " ++ expectedNames "there are no fields" fields
  | .missingField name => s!"missing field `{name}`"
  | .duplicateField name => s!"duplicate field `{name}`"
  | .noAlternative type => s!"data did not match any variant of untagged enum {type}"

/-- A number of elements, as a message about lengths counts them. -/
def elementCount (n : Nat) : String := if n = 1 then "1 element" else s!"{n} elements"

namespace Json

/-! ## Readers for the simple types -/

/-- Reads a flag; nothing else counts as one. -/
def asBool : Json → Except DecodeError Bool
  | .bool b => .ok b
  | other => .error (.invalidType (.of other) "a boolean")

/-- Reads a text; numbers are not turned into texts. -/
def asText : Json → Except DecodeError String
  | .str s => .ok s
  | other => .error (.invalidType (.of other) "a string")

/-- Reads a signed word.  An unsigned number may be too large for it, and a float is none, not even
    one without a fraction. -/
def asInt64 : Json → Except DecodeError Int64
  | .num (.unsigned n) =>
    if n.toNat < 0x8000000000000000 then .ok n.toInt64 else .error (.invalidValue (.unsigned n) "i64")
  | .num (.negative n) => .ok n
  | other => .error (.invalidType (.of other) "i64")

/-- Reads an unsigned word.  A negative number is none unless it is zero. -/
def asUInt64 : Json → Except DecodeError UInt64
  | .num (.unsigned n) => .ok n
  | .num (.negative n) =>
    if n = 0 then .ok 0 else .error (.invalidValue (.negative n) "u64")
  | other => .error (.invalidType (.of other) "u64")

/-- Reads an unsigned word of 32 bits; what is too large or negative is refused as a value, not as a
    form. -/
def asUInt32 : Json → Except DecodeError UInt32
  | .num (.unsigned n) =>
    if n.toNat < 0x100000000 then .ok n.toUInt32 else .error (.invalidValue (.unsigned n) "u32")
  | .num (.negative n) => .error (.invalidValue (.negative n) "u32")
  | other => .error (.invalidType (.of other) "u32")

/-- Reads a float; integers count as floats, rounded if they have to be. -/
def asFloat : Json → Except DecodeError Float
  | .num (.unsigned n) => .ok n.toFloat
  | .num (.negative n) => .ok n.toFloat
  | .num (.float x) => .ok x
  | other => .error (.invalidType (.of other) "f64")

/-- Reads a list, without a look at its elements. -/
def asList : Json → Except DecodeError (List Json)
  | .arr items => .ok items
  | other => .error (.invalidType (.of other) "a sequence")

/-- `null` stands for nothing; everything else is read, and what cannot be read is an error. -/
def asOption {α : Type} (read : Json → Except DecodeError α) : Json → Except DecodeError (Option α)
  | .null => .ok none
  | other => (read other).map some

/-- A list whose elements are all read the same way; the first element that cannot be read
    decides. -/
def asListOf {α : Type} (read : Json → Except DecodeError α) (j : Json) :
    Except DecodeError (List α) := do
  (← j.asList).mapM read

/-- Reads a list of texts. -/
def asTexts : Json → Except DecodeError (List String) := asListOf asText

/-! ## Readers for choices -/

/-- Where a document comes from.  It decides two details of reading. -/
inductive Origin where
  /-- The decoded document itself. -/
  | document
  /-- A part that was set aside until the tag beside it was known. -/
  | tagged
  deriving DecidableEq

/-- The choice of this name; if there is none, the error lists the names one could have written. -/
def choiceNamed {α : Type} (choices : List (String × α)) (name : String) : Except DecodeError α :=
  match choices.find? (·.1 = name) with
  | some (_, a) => .ok a
  | none => .error (.unknownVariant name (choices.map (·.1)))

/-- Whether a value stands for "nothing more to say".  In a part set aside an empty object does. -/
def isUnit (origin : Origin) : Json → Bool
  | .null => true
  | .obj [] => origin = .tagged
  | _ => false

/-- One of some named choices: its name, or an object whose only member has its name and no value. -/
def asChoice {α : Type} (origin : Origin) (choices : List (String × α)) :
    Json → Except DecodeError α
  | .str name => choiceNamed choices name
  | .obj [(name, value)] => do
    let a ← choiceNamed choices name
    if isUnit origin value then .ok a else .error (.invalidType (.of value) "unit")
  | .obj _ => .error (.invalidValue .map "map with a single key")
  | other => .error (.invalidType (.of other) "string or map")

/-! ## What is written is read -/

/-- A signed word that is not negative keeps its value as an unsigned word. -/
theorem toNat_toUInt64 (i : Int64) (h : ¬ i < 0) : (i.toUInt64.toNat : Int) = i.toInt := by
  have h0 : 0 ≤ i.toInt := by
    have := Int64.le_iff_toInt_le.mp (Int64.not_lt.mp h)
    simpa using this
  have e : i.toUInt64.toNat = i.toBitVec.toNat := rfl
  have h1 : i.toInt = i.toBitVec.toInt := rfl
  rw [e, h1]
  rw [h1] at h0
  rw [BitVec.toInt_eq_toNat_cond] at h0 ⊢
  split at h0
  · rename_i hc; simp [hc]
  · have := i.toBitVec.isLt; omega

/-- A signed word is read back as it was written, whichever of the two forms for integers it
    took. -/
theorem asInt64_ofInt64 (i : Int64) : asInt64 (.ofInt64 i) = .ok i := by
  unfold ofInt64 Number.ofInt64
  split
  · rfl
  · rename_i h
    have h0 := toNat_toUInt64 i h
    have h1 := i.toInt_lt
    have hlt : i.toUInt64.toNat < 0x8000000000000000 := by omega
    simp only [asInt64, hlt, if_true]
    congr

/-- An unsigned word is read back as it was written. -/
@[simp] theorem asUInt64_ofUInt64 (n : UInt64) : asUInt64 (.ofUInt64 n) = .ok n := rfl

/-- A float is read back as it was written; there is one form for it. -/
@[simp] theorem asFloat_ofFloat (x : Float) : asFloat (.ofFloat x) = .ok x := rfl

/-- A text is read back as it was written. -/
@[simp] theorem asText_str (s : String) : asText (.str s) = .ok s := rfl

/-- A flag is read back as it was written. -/
@[simp] theorem asBool_bool (b : Bool) : asBool (.bool b) = .ok b := rfl

end Json

end SyntheticTables
