/-
  A key identifies its value.

  A value is determined by its document (`eq_of_toJson`) and a document by its text, as long as the
  floats inside are finite: the text of all others is that of `null`.  The key of a text is therefore
  the key of no other value, be it drawn as a text or as a value.
-/
import SyntheticTables.Draw.Basic
import SyntheticTables.Proofs.Table.Document

namespace SyntheticTables.Value

/-! ## Finite values -/

mutual

/-- All floats in a value are finite, those in the bounds of columns included. -/
def Finite : Value → Prop
  | .float x => x.isFinite = true
  | .seq items => AllFinite items
  | .fieldType t => t.Finite
  | .field f => f.Finite
  | .tableSchema s => s.Finite
  | .tableResource r => r.Finite
  | .package p => p.Finite
  | .absent => True
  | .bool _ => True
  | .int _ => True
  | .text _ => True
  | .interval .. => True
  | .fieldMeta _ => True
  termination_by structural v => v

/-- All floats in several values are finite. -/
def AllFinite : List Value → Prop
  | [] => True
  | v :: rest => Finite v ∧ AllFinite rest
  termination_by structural vs => vs

end

/-- A value stands under the name of its form, which has no numbers in it. -/
theorem proper_tagged {tag : String} {body : Json} (h : body.Proper) :
    (Json.obj [(tag, body)]).Proper := ⟨h, trivial⟩

mutual

/-- In the document of a finite value all numbers are written as themselves.  By induction on the
    value; only floats and the bounds of number columns need the condition. -/
theorem proper_toJson : ∀ v : Value, v.Finite → v.toJson.Proper
  | .absent, _ => trivial
  | .bool b, _ => proper_tagged (Json.proper_bool b)
  | .int i, _ => proper_tagged (Json.proper_ofInt64 i)
  | .float _, h => proper_tagged h
  | .text s, _ => proper_tagged (Json.proper_str s)
  | .interval first last, _ =>
    proper_tagged ⟨Json.proper_ofInt64 first, Json.proper_ofInt64 last, trivial⟩
  | .seq items, h => proper_tagged (allProper_toJsons items h)
  | .fieldMeta m, _ => proper_tagged m.proper_toJson
  | .fieldType _, h => proper_tagged (FieldType.proper_toJson h)
  | .field _, h => proper_tagged (Field.proper_toJson h)
  | .tableSchema _, h => proper_tagged (TableSchema.proper_toJson h)
  | .tableResource _, h => proper_tagged (TableResource.proper_toJson h)
  | .package _, h => proper_tagged (Package.proper_toJson h)

/-- The same for the documents of several values. -/
theorem allProper_toJsons : ∀ vs : List Value, AllFinite vs → Json.AllProper (toJsons vs)
  | [], _ => trivial
  | v :: rest, h => ⟨proper_toJson v h.1, allProper_toJsons rest h.2⟩

end

/-! ## Different values have different documents -/

mutual

/-- Different values have different documents: the form is the name in front, and what stands behind
    it determines what the value holds.  By induction on the first value, with the second of the
    same form. -/
theorem eq_of_toJson : ∀ v w : Value, v.toJson = w.toJson → v = w
  | .absent, w, h => by
    cases w with
    | absent => rfl
    | _ => simp [toJson] at h
  | .bool b, w, h => by
    cases w with
    | bool b' => simpa [toJson] using h
    | _ => simp [toJson] at h
  | .int i, w, h => by
    cases w with
    | int i' => simpa [toJson] using h
    | _ => simp [toJson] at h
  | .float x, w, h => by
    cases w with
    | float x' => simpa [toJson] using h
    | _ => simp [toJson] at h
  | .text s, w, h => by
    cases w with
    | text s' => simpa [toJson] using h
    | _ => simp [toJson] at h
  | .interval first last, w, h => by
    cases w with
    | interval first' last' => simpa [toJson] using h
    | _ => simp [toJson] at h
  | .seq items, w, h => by
    cases w with
    | seq items' =>
      have hitems : toJsons items = toJsons items' := by simpa [toJson] using h
      rw [eq_of_toJsons items items' hitems]
    | _ => simp [toJson] at h
  | .fieldMeta m, w, h => by
    cases w with
    | fieldMeta m' =>
      have hm : m.toJson = m'.toJson := by simpa [toJson] using h
      rw [FieldMeta.eq_of_toJson hm]
    | _ => simp [toJson] at h
  | .fieldType t, w, h => by
    cases w with
    | fieldType t' =>
      have ht : t.toJson = t'.toJson := by simpa [toJson] using h
      rw [FieldType.eq_of_toJson ht]
    | _ => simp [toJson] at h
  | .field f, w, h => by
    cases w with
    | field f' =>
      have hf : f.toJson = f'.toJson := by simpa [toJson] using h
      rw [Field.eq_of_toJson hf]
    | _ => simp [toJson] at h
  | .tableSchema s, w, h => by
    cases w with
    | tableSchema s' =>
      have hs : s.toJson = s'.toJson := by simpa [toJson] using h
      rw [TableSchema.eq_of_toJson hs]
    | _ => simp [toJson] at h
  | .tableResource r, w, h => by
    cases w with
    | tableResource r' =>
      have hr : r.toJson = r'.toJson := by simpa [toJson] using h
      rw [TableResource.eq_of_toJson hr]
    | _ => simp [toJson] at h
  | .package p, w, h => by
    cases w with
    | package p' =>
      have hp : p.toJson = p'.toJson := by simpa [toJson] using h
      rw [Package.eq_of_toJson hp]
    | _ => simp [toJson] at h

/-- The same for the documents of several values. -/
theorem eq_of_toJsons : ∀ vs ws : List Value, toJsons vs = toJsons ws → vs = ws
  | [], [], _ => rfl
  | [], _ :: _, h => by simp [toJsons] at h
  | _ :: _, [], h => by simp [toJsons] at h
  | v :: vs, w :: ws, h => by
    simp only [toJsons, List.cons.injEq] at h
    rw [eq_of_toJson v w h.1, eq_of_toJsons vs ws h.2]

end

/-! ## Keys -/

/-- Finite values with the same key are the same value. -/
theorem eq_of_key {v w : Value} (hv : v.Finite) (hw : w.Finite) (h : v.key = w.key) : v = w :=
  eq_of_toJson v w (Json.eq_of_text (proper_toJson v hv) (proper_toJson w hw) h)

example : (seq [.int 3, .text "3", .absent]).key
    = "\x7b\"Seq\":[\x7b\"Int\":3\x7d,\x7b\"Text\":\"3\"\x7d,\"Absent\"]\x7d" := by
  decide +kernel

/-- The form of a value is written in front, and only texts stand under the name of texts.  An
    absent value is the only one that is written without a name. -/
theorem toJson_tagged (w : Value) :
    w = .absent ∨ ∃ tag body, w.toJson = .obj [(tag, body)] ∧ (tag = "Text" → ∃ t, w = .text t) := by
  cases w with
  | absent => exact .inl rfl
  | text t => exact .inr ⟨"Text", .str t, rfl, fun _ => ⟨t, rfl⟩⟩
  | _ => exact .inr ⟨_, _, rfl, fun h => absurd h (by decide)⟩

/-- The key of a text begins as those of texts do, whatever floats the other value contains.  So
    names, which are claimed as texts, never collide with values of other kinds. -/
theorem eq_text_of_key {s : String} {w : Value} (h : Context.textKey s = w.key) : w = .text s := by
  have hkey : (Json.obj [("Text", .str s)]).text.toList = w.toJson.text.toList :=
    congrArg String.toList h
  have htext : ∃ t, w = .text t := by
    -- the name in front is compared first, which needs no condition on the floats behind it
    rcases toJson_tagged w with rfl | ⟨tag, body, hjson, htag⟩
    · rw [Json.toList_text_obj] at hkey
      cases hkey
    · rw [hjson, Json.toList_text_member, Json.toList_text_member] at hkey
      obtain ⟨hname, -⟩ := Json.stringText_append_inj (List.cons.inj hkey).2
      exact htag hname.symm
  obtain ⟨t, rfl⟩ := htext
  exact eq_of_key trivial trivial h.symm

/-- Keys of values with finite floats tell these values apart, and floats are told apart by their
    bits; the key of a text is that of the value it makes and of no other value. -/
theorem key_identifies :
    (∀ v w : Value, v.Finite → w.Finite → (v.key = w.key ↔ v = w))
    ∧ (∀ x y : Float, Value.float x = .float y ↔ x.toBits = y.toBits)
    ∧ ∀ s : String, Context.textKey s = (Value.text s).key
      ∧ ∀ w : Value, Context.textKey s = w.key ↔ w = .text s := by
  refine ⟨?_, ?_, ?_⟩
  · intro v w hv hw
    exact ⟨eq_of_key hv hw, congrArg key⟩
  · intro x y
    constructor
    · intro h
      exact congrArg Float.toBits (Value.float.inj h)
    · intro h
      exact congrArg Value.float (Decimal.eq_of_toBits h)
  · intro s
    have hown : Context.textKey s = (Value.text s).key := rfl
    refine ⟨hown, fun w => ⟨eq_text_of_key, ?_⟩⟩
    rintro rfl
    exact hown

/-- The float 1.5 together with a column that has the integer level 3, and the same float with a
    column that has the text level "3": both values are finite, and their keys differ. -/
theorem key_identifies_levels :
    (seq [.float 1.5, .fieldType (.enumInteger { levels := [{ value := .int 3 }] })]).Finite
    ∧ (seq [.float 1.5, .fieldType (.enumInteger { levels := [{ value := .text "3" }] })]).Finite
    ∧ (seq [.float 1.5, .fieldType (.enumInteger { levels := [{ value := .int 3 }] })]).key
      ≠ (seq [.float 1.5, .fieldType (.enumInteger { levels := [{ value := .text "3" }] })]).key := by
  have hfloat : (1.5 : Float).isFinite = true := by decide +kernel
  have hint : (seq [.float 1.5,
      .fieldType (.enumInteger { levels := [{ value := .int 3 }] })]).Finite :=
    ⟨hfloat, trivial, trivial⟩
  have htext : (seq [.float 1.5,
      .fieldType (.enumInteger { levels := [{ value := .text "3" }] })]).Finite :=
    ⟨hfloat, trivial, trivial⟩
  refine ⟨hint, htext, fun hkey => ?_⟩
  have heq := (key_identifies.1 _ _ hint htext).mp hkey
  simp at heq

end SyntheticTables.Value
