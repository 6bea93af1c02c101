/-
  The types of generated values.

  A type is unconstrained, a named kind of value, a union, or a sequence of one type.  Unions are
  built by `TypeDesc.union`, which flattens nested unions, orders the members and drops repetitions;
  two unions of the same members are then equal.  `satisfies` decides whether a value of one type
  may stand where another is expected: integers widen to floats, sequences are compared as they are.
-/
import SyntheticTables.Decode

namespace SyntheticTables

/-! ## Named kinds of values -/

/-- The named kinds of values.  The five kinds of columns are apart, so that a slot may ask for one
    of them. -/
inductive Nominal where
  | none
  | bool
  | int
  | float
  | str
  | interval
  | fieldMeta
  | integerFieldType
  | enumIntegerFieldType
  | numberFieldType
  | stringFieldType
  | enumStringFieldType
  | field
  | tableSchema
  | tableResource
  | package
  deriving DecidableEq, Inhabited

namespace Nominal

/-- All kinds in the order that sorts them. -/
def all : List Nominal := [
  .none, .bool, .int, .float, .str, .interval, .fieldMeta, .integerFieldType,
  .enumIntegerFieldType, .numberFieldType, .stringFieldType, .enumStringFieldType, .field,
  .tableSchema, .tableResource, .package]

/-- The kinds of columns; `TypeDesc.fieldType` is their union. -/
def fieldTypes : List Nominal := [
  .integerFieldType, .enumIntegerFieldType, .numberFieldType, .stringFieldType,
  .enumStringFieldType]

/-- The name of the kind, as documents, reports and messages write it. -/
def name : Nominal → String
  | none => "none"
  | bool => "bool"
  | int => "int"
  | float => "float"
  | str => "str"
  | interval => "interval"
  | fieldMeta => "field_meta"
  | integerFieldType => "integer_field_type"
  | enumIntegerFieldType => "enum_integer_field_type"
  | numberFieldType => "number_field_type"
  | stringFieldType => "string_field_type"
  | enumStringFieldType => "enum_string_field_type"
  | field => "field"
  | tableSchema => "table_schema"
  | tableResource => "table_resource"
  | package => "package"

/-- The place in the order of kinds.  It is the order of the constructors, spelled out so that
    comparisons compute. -/
def rank : Nominal → Nat
  | none => 0
  | bool => 1
  | int => 2
  | float => 3
  | str => 4
  | interval => 5
  | fieldMeta => 6
  | integerFieldType => 7
  | enumIntegerFieldType => 8
  | numberFieldType => 9
  | stringFieldType => 10
  | enumStringFieldType => 11
  | field => 12
  | tableSchema => 13
  | tableResource => 14
  | package => 15

/-- Kinds in the same place are the same, which is what makes the order of types an order. -/
theorem rank_inj {a b : Nominal} (h : a.rank = b.rank) : a = b := by
  cases a <;> cases b <;> first | rfl | (exact absurd h (by decide))

/-- No kind is left out of the list, so what holds of the list by computation holds of all kinds. -/
theorem mem_all (a : Nominal) : a ∈ all := by cases a <;> decide

/-- A kind is below itself, and integers are below floats; there is no other widening. -/
def isBelow (a b : Nominal) : Bool := a = b || (a = .int && b = .float)

/-- Reads a kind from a document by its name. -/
def ofJson : Json → Except DecodeError Nominal :=
  Json.asChoice .document (all.map fun n => (n.name, n))

end Nominal

/-! ## Types -/

/-- The types of values.  Any list may stand in a union here; the unions that are built are flat, in
    ascending order and without repetition (`unionOf`). -/
inductive TypeDesc where
  /-- No constraint at all. -/
  | any
  | prim (n : Nominal)
  | union (members : List TypeDesc)
  | seq (item : TypeDesc)
  deriving Inhabited

namespace TypeDesc

mutual

/-- The order of types: `any`, then kinds, then unions, then sequences. -/
def compare : TypeDesc → TypeDesc → Ordering
  | .any, .any => .eq
  | .any, _ => .lt
  | .prim _, .any => .gt
  | .prim a, .prim b => Ord.compare a.rank b.rank
  | .prim _, _ => .lt
  | .union _, .any => .gt
  | .union _, .prim _ => .gt
  | .union as, .union bs => compareLists as bs
  | .union _, .seq _ => .lt
  | .seq a, .seq b => compare a b
  | .seq _, _ => .gt
  termination_by structural a => a

/-- Lists are compared member by member; a list that ends first comes first. -/
def compareLists : List TypeDesc → List TypeDesc → Ordering
  | [], [] => .eq
  | [], _ :: _ => .lt
  | _ :: _, [] => .gt
  | a :: as, b :: bs => (compare a b).then (compareLists as bs)
  termination_by structural as => as

end

/-! ## The order tells types apart -/

mutual

/-- A type compares as equal to itself, by induction along the comparison. -/
theorem compare_self : ∀ a : TypeDesc, compare a a = .eq
  | .any => by simp [compare]
  | .prim n => by simp [compare]
  | .union ms => by simp [compare, compareLists_self ms]
  | .seq a => by simp [compare, compare_self a]

/-- So does a list of types. -/
theorem compareLists_self : ∀ as : List TypeDesc, compareLists as as = .eq
  | [] => by simp [compareLists]
  | a :: as => by simp [compareLists, compare_self a, compareLists_self as]

end

mutual

/-- Types that compare as equal are equal: nothing about a type is passed over in the comparison. -/
theorem eq_of_compare : ∀ a b : TypeDesc, compare a b = .eq → a = b
  | .any, b, h => by cases b <;> simp [compare] at h ⊢
  | .prim n, b, h => by
    cases b <;> simp [compare] at h ⊢
    exact Nominal.rank_inj h
  | .union ms, b, h => by
    cases b <;> simp [compare] at h ⊢
    exact eq_of_compareLists ms _ h
  | .seq a, b, h => by
    cases b <;> simp [compare] at h ⊢
    exact eq_of_compare a _ h

/-- So are lists of types. -/
theorem eq_of_compareLists : ∀ as bs : List TypeDesc, compareLists as bs = .eq → as = bs
  | [], bs, h => by cases bs <;> simp [compareLists] at h ⊢
  | a :: as, bs, h => by
    cases bs with
    | nil => simp [compareLists] at h
    | cons b bs =>
      simp [compareLists, Ordering.then_eq_eq] at h
      rw [eq_of_compare a b h.1, eq_of_compareLists as bs h.2]

end

/-- The comparison tells types apart exactly, so it decides their equality. -/
theorem compare_eq_iff {a b : TypeDesc} : compare a b = .eq ↔ a = b :=
  ⟨eq_of_compare a b, fun h => h ▸ compare_self a⟩

instance : DecidableEq TypeDesc := fun a b =>
  match h : compare a b with
  | .eq => .isTrue (compare_eq_iff.mp h)
  | .lt => .isFalse fun e => by rw [compare_eq_iff.mpr e] at h; cases h
  | .gt => .isFalse fun e => by rw [compare_eq_iff.mpr e] at h; cases h

/-! ## Building types -/

/-- Puts a type in its place in an ascending list, unless it is there already.  Built up in this
    way, a list of members has each of them once. -/
def insert (a : TypeDesc) : List TypeDesc → List TypeDesc
  | [] => [a]
  | b :: rest =>
    match compare a b with
    | .lt => a :: b :: rest
    | .eq => b :: rest
    | .gt => b :: insert a rest

/-- The members that a type contributes to a union around it: those of a union, else the type
    itself. -/
def alternatives : TypeDesc → List TypeDesc
  | .union members => members
  | other => [other]

/-- The union of some types: flat, in ascending order, each member once; a single member is the
    union itself. -/
def unionOf (types : List TypeDesc) : TypeDesc :=
  match (types.flatMap alternatives).foldr insert [] with
  | [a] => a
  | members => .union members

/-- A value of this type, or none.  Of a type that has none among its alternatives it is the type
    itself. -/
def optional (item : TypeDesc) : TypeDesc := unionOf [item, .prim .none]

/-- The union of the five column types, which is what a slot for columns of any kind expects. -/
def fieldType : TypeDesc := unionOf (Nominal.fieldTypes.map .prim)

/-- Whether the type is a union. -/
def isUnion : TypeDesc → Bool
  | .union _ => true
  | _ => false

/-! ## Which type may stand for which -/

mutual

/-- Whether a type `a` that is no union may stand where the second type is expected: it is that
    type, one of its alternatives, or a kind below it. -/
def fits (a : TypeDesc) : TypeDesc → Bool
  | .any => true
  | .prim n => match a with
    | .prim m => m.isBelow n
    | _ => false
  | .union members => fitsSome a members
  | .seq item => a = .seq item
  termination_by structural b => b

/-- Whether it may stand where one of several types is expected. -/
def fitsSome (a : TypeDesc) : List TypeDesc → Bool
  | [] => false
  | b :: rest => fits a b || fitsSome a rest
  termination_by structural bs => bs

end

mutual

/-- Whether a value of the first type may stand where the second is expected.  Every alternative of
    a union has to. -/
def satisfies : TypeDesc → TypeDesc → Bool
  | .union members, b => b = .any || .union members = b || allSatisfy members b
  | .any, b => fits .any b
  | .prim n, b => fits (.prim n) b
  | .seq item, b => fits (.seq item) b
  termination_by structural a => a

/-- Whether values of all these types may stand where the second type is expected. -/
def allSatisfy : List TypeDesc → TypeDesc → Bool
  | [], _ => true
  | a :: rest, b => satisfies a b && allSatisfy rest b
  termination_by structural as => as

end

/-! ## Text -/

mutual

/-- The type as reports and messages show it: the members of a union with bars between them, a
    sequence in brackets. -/
def text : TypeDesc → String
  | .any => "any"
  | .prim n => n.name
  | .seq item => "seq[" ++ text item ++ "]"
  | .union members => " | ".intercalate (texts members)
  termination_by structural a => a

/-- The texts of some types, in their order. -/
def texts : List TypeDesc → List String
  | [] => []
  | a :: rest => text a :: texts rest
  termination_by structural as => as

end

end TypeDesc

end SyntheticTables
