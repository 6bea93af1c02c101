/-
  The parts of a package, drawn from the draws of their slots.

  The order of the draws is part of what a seed means: bounds come before flags, flags before missing
  values, the rows of a table before its name.
-/
import SyntheticTables.Draw.Cell
import SyntheticTables.Text.Integer

namespace SyntheticTables

/-- A range of counts; what is below zero counts as zero. -/
def IntRange.toSize (r : IntRange) : SizeSpec :=
  .range (if r.min < 0 then 0 else r.min.toUInt64) (if r.max < 0 then 0 else r.max.toUInt64)

/-- Two optional bounds, the smaller one first if both are there.  A lone bound stays on the side
    where it was drawn. -/
def orderBounds {α : Type} [LT α] [DecidableLT α] (a b : Option α) : Option α × Option α :=
  match a, b with
  | some x, some y => if y < x then (some y, some x) else (some x, some y)
  | a, b => (a, b)

namespace Context

/-! ## Attributes of columns -/

/-- A flag that may be left out: first whether it is there, then whether it is set. -/
def flag (_ : Context) (prob undefinedProb : Float) : Draw (Option Bool) :=
  Draw.maybe (1.0 - undefinedProb) (Draw.chance prob)

/-- Tokens for missing values, unlike each other, or none at all. -/
def missingValues (c : Context) (name : Draw String) (max : UInt64) (undefinedProb : Float) :
    Draw (Option (List String)) :=
  Draw.maybe (1.0 - undefinedProb) (c.distinctTexts (.range 0 max) name)

/-! ## Column types -/

/-- The type of a column of integers.  The two bounds are drawn from ranges of their own and ordered
    afterwards, so either may come out as the lower one. -/
def integerType (c : Context) (p : IntegerTypeParams) (missingName : Draw String) :
    Draw IntegerType := do
  let present := 1.0 - p.undefinedProb
  let a ← Draw.maybe present (Draw.int p.minimumRange.min p.minimumRange.max)
  let b ← Draw.maybe present (Draw.int p.maximumRange.min p.maximumRange.max)
  let (minimum, maximum) := orderBounds a b
  let required ← c.flag p.requiredProb p.undefinedProb
  let unique ← c.flag p.uniqueProb p.undefinedProb
  let missingValues ← c.missingValues missingName p.missingMax p.undefinedProb
  return { required, unique, minimum, maximum, missingValues }

/-- The type of a column of floats, drawn like that of a column of integers. -/
def numberType (c : Context) (p : NumberTypeParams) (missingName : Draw String) :
    Draw NumberType := do
  let present := 1.0 - p.undefinedProb
  let a ← Draw.maybe present (Draw.float p.minimumRange.min p.minimumRange.max)
  let b ← Draw.maybe present (Draw.float p.maximumRange.min p.maximumRange.max)
  let (minimum, maximum) := orderBounds a b
  let required ← c.flag p.requiredProb p.undefinedProb
  let unique ← c.flag p.uniqueProb p.undefinedProb
  let missingValues ← c.missingValues missingName p.missingMax p.undefinedProb
  return { required, unique, minimum, maximum, missingValues }

/-- A length from a range of integers; below zero it is zero. -/
def length (_ : Context) (r : IntRange) : Draw UInt64 := do
  let i ← Draw.int r.min r.max
  return if i < 0 then 0 else i.toUInt64

/-- The type of a column of texts, with lengths in the place of bounds. -/
def stringType (c : Context) (p : StringTypeParams) (missingName : Draw String) :
    Draw StringType := do
  let present := 1.0 - p.undefinedProb
  let a ← Draw.maybe present (c.length p.minLengthRange)
  let b ← Draw.maybe present (c.length p.maxLengthRange)
  let (minLength, maxLength) := orderBounds a b
  let required ← c.flag p.requiredProb p.undefinedProb
  let unique ← c.flag p.uniqueProb p.undefinedProb
  let missingValues ← c.missingValues missingName p.missingMax p.undefinedProb
  return { required, unique, minLength, maxLength, missingValues }

/-- Whether a token is the text of an integer from `start` up to but not including `stop`, in
    whatever spelling. -/
def namesLevel (start stop : Int64) (token : String) : Bool :=
  match Text.int64? token with
  | some i => start ≤ i && i < stop
  | none => false

/-- The integers from `start` up to but not including `stop`. -/
def integersFrom (start stop : Int64) : List Int64 :=
  (List.range (stop.toInt - start.toInt).toNat).map fun (i : Nat) =>
    Int64.ofInt (start.toInt + i)

/-- Gives each level a label unlike those before it, or none of them any.  `seen` holds the keys of
    the labels so far, `drawn` the levels, the last one first. -/
def labelsOnto (c : Context) (labelName : Draw String) (labeled : Bool)
    (seen : Std.TreeSet String) (drawn : List Level) : List LevelValue → Draw (List Level)
  | [] => pure drawn.reverse
  | value :: rest => do
    if labeled then
      let (label, seen) ← c.newText seen labelName
      labelsOnto c labelName labeled seen (⟨value, some label⟩ :: drawn) rest
    else labelsOnto c labelName labeled seen (⟨value, none⟩ :: drawn) rest

/-- Consecutive integers as levels, then the tokens for missing values.  A token that spells one of
    the integers is left out. -/
def enumIntegerType (c : Context) (p : EnumIntegerTypeParams) (labelName missingName : Draw String) :
    Draw EnumIntegerType := do
  let (start, stop) ← Draw.interval p.levelStartRange p.levelCountRange
  let tokens ← c.missingValues missingName p.missingMax p.undefinedProb
  -- a token that reads as one of the integers would be that level again
  let missingValues := tokens.map fun ts => ts.filter fun t => !namesLevel start stop t
  let values := (integersFrom start stop).map LevelValue.int
    ++ (missingValues.getD []).map LevelValue.text
  let unlabeled ← Draw.chance p.noLabelProb
  let levels ← c.labelsOnto labelName (!unlabeled) ∅ [] values
  let required ← c.flag p.requiredProb p.undefinedProb
  let unique ← c.flag p.uniqueProb p.undefinedProb
  let ordered ← c.flag p.orderedProb p.undefinedProb
  return { levels, required, unique, ordered, missingValues }

/-- Texts as levels, unlike each other; their number is below zero as little as any other count. -/
def enumStringType (c : Context) (p : EnumStringTypeParams) (labelName missingName : Draw String) :
    Draw EnumStringType := do
  let levels ← c.distinctTexts p.levelCountRange.toSize labelName
  let required ← c.flag p.requiredProb p.undefinedProb
  let unique ← c.flag p.uniqueProb p.undefinedProb
  let ordered ← c.flag p.orderedProb p.undefinedProb
  let missingValues ← c.missingValues missingName p.missingMax p.undefinedProb
  return { levels, required, unique, ordered, missingValues }

/-! ## Columns -/

/-- The name of a column in a group, claimed for the whole run. -/
def composedName (c : Context) (group : String) (fieldName : Draw String) : Draw String :=
  c.uniqueInRun textKey (do return group ++ "_" ++ (← fieldName))

/-- Names and descriptions of columns under a group name that is unique in the run. -/
def metaGroup (c : Context) (count : IntRange) (undefinedProb : Float)
    (groupName fieldName title description : Draw String) : Draw (List FieldMeta) := do
  let group ← c.uniqueInRun textKey groupName
  let n ← Draw.size count.toSize
  Draw.times n do
    -- the composed name is claimed, not the part that is drawn
    let name ← c.composedName group fieldName
    let title ← Draw.maybe (1.0 - undefinedProb) title
    let description ← Draw.maybe (1.0 - undefinedProb) description
    return { name, title, description }

/-- A column for each entry; `drawn` holds those before, the last one first. -/
def fieldsOnto (c : Context) (fieldType : Draw FieldType) (drawn : List Field) :
    List FieldMeta → Draw (List Field)
  | [] => pure drawn.reverse
  | info :: rest => do
    let type ← fieldType
    fieldsOnto c fieldType (⟨info, type⟩ :: drawn) rest

/-- A column for each entry of a meta group, each with a type of its own. -/
def fieldGroup (c : Context) (groupMeta : Draw (List FieldMeta)) (fieldType : Draw FieldType) :
    Draw (List Field) := do
  c.fieldsOnto fieldType [] (← groupMeta)

/-! ## Tables and packages -/

/-- The schema of a table: its columns, then the tokens, then how many rows it is to have. -/
def tableSchema (_ : Context) (fields : Draw (List Field))
    (missingValues : Draw (Option (List String))) (rows : SizeSpec) : Draw TableSchema := do
  let fields ← fields
  let missingValues ← missingValues
  let n ← Draw.size rows
  return { fields, missingValues, rowCount := n.toUInt64 }

/-- A table: the schema, the rows it asks for, and then the name and the description. -/
def tableResource (c : Context) (name : Draw String) (description : Draw (Option String))
    (schema : Draw TableSchema) : Draw TableResource := do
  let schema ← schema
  let rows ← c.rows schema
  let name ← name
  let description ← description
  return { name, description, schema, rows }

/-- A package: its name and its description, then how many tables, then these. -/
def package (_ : Context) (name : Draw String) (description : Draw (Option String))
    (count : SizeSpec) (resource : Draw TableResource) : Draw Package := do
  let name ← name
  let description ← description
  let n ← Draw.size count
  let resources ← Draw.times n resource
  return { name, description, resources }

end Context

end SyntheticTables
