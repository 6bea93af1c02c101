/-
  Pointers into documents.

  A pointer is split at its slashes, and steps without slashes and tildes are meant as they are
  written (`pointer?_join`); an index that is written out is read back (`index?_repr`).  So the text
  of a way leads where its steps lead.
-/
import SyntheticTables.Json
import SyntheticTables.Proofs.Text.Integer
import SyntheticTables.Proofs.Text.Joined

namespace SyntheticTables.Json

/-! ## Steps -/

/-- A step that is written as it is meant. -/
def IsPlainStep (step : String) : Prop := ∀ c ∈ step.toList, c ≠ '/' ∧ c ≠ '~'

instance (step : String) : Decidable (IsPlainStep step) := List.decidableBAll _ step.toList

/-- Without tildes there is nothing to unescape. -/
theorem unescapeStep_eq {cs : List Char} (h : ∀ c ∈ cs, c ≠ '~') : unescapeStep cs = cs := by
  induction cs with
  | nil => rfl
  | cons c rest ih =>
    obtain ⟨hc, hrest⟩ := List.forall_mem_cons.mp h
    rw [unescapeStep, ih hrest]
    · exact fun _ heq => absurd heq hc
    · exact fun _ heq => absurd heq hc

/-- An index is read back. -/
theorem index?_repr (i : Nat) : index? (toString i) = some i := by
  have htext : (toString i).toList = Nat.toDigits 10 i := Nat.toList_repr
  unfold index?
  rw [htext]
  split
  · rename_i heq
    -- a zero in front is the only digit
    cases Nat.eq_zero_or_pos i with
    | inl hzero => simp [hzero] at heq
    | inr hpos => exact absurd (by simp [heq]) (Text.head?_toDigits hpos.ne')
  · exact Text.nat?_toDigits i

/-- An index that is written out leads to the element with this index. -/
theorem step?_arr (items : List Json) (i : Nat) : (arr items).step? (toString i) = items[i]? := by
  rw [step?, index?_repr, Option.bind_some]

/-- An index is written in digits, so it is meant as it is written. -/
theorem isPlainStep_repr (i : Nat) : IsPlainStep (toString i) := by
  intro c hc
  have htext : (toString i).toList = Nat.toDigits 10 i := Nat.toList_repr
  rw [htext] at hc
  have hdigit := Text.isDigit_toDigits hc
  constructor <;> rintro rfl <;> exact absurd hdigit (by decide)

/-! ## Ways -/

/-- A way is followed in parts, the second from where the first leads. -/
theorem descend?_append (xs ys : List String) (j : Json) :
    descend? (xs ++ ys) j = (descend? xs j).bind (descend? ys) := by
  induction xs generalizing j with
  | nil => rfl
  | cons x xs ih =>
    simp only [List.cons_append, descend?]
    cases j.step? x with
    | none => rfl
    | some value => exact ih value

/-- A pointer with a slash before each step leads where the steps lead.  Plain steps have no slash
    and no tilde, so the text is split where it was joined and nothing in it is an escape. -/
theorem pointer?_join {steps : List String} (h : ∀ s ∈ steps, IsPlainStep s) (j : Json) :
    pointer? (String.join (steps.map fun s => "/" ++ s)) j = descend? steps j := by
  have htext : (String.join (steps.map fun s => "/" ++ s)).toList
      = ['/'].intercalate ([] :: steps.map String.toList) := by
    have hjoined := Text.toList_intercalate_cons "/" "" steps
    rw [String.toList_intercalate] at hjoined
    rw [String.toList_join, List.flatMap_map]
    simpa using hjoined.symm
  -- the steps contain no slash, so the text is split where it was joined
  have hsplit : (String.join (steps.map fun s => "/" ++ s)).toList.splitOn '/'
      = [] :: steps.map String.toList := by
    rw [htext, List.splitOn_intercalate '/' _ (by simp)]
    simp only [List.forall_mem_cons, List.forall_mem_map]
    exact ⟨List.not_mem_nil, fun s hs hslash => (h s hs '/' hslash).1 rfl⟩
  have hsteps : (steps.map String.toList).map (fun s => String.ofList (unescapeStep s)) = steps := by
    rw [List.map_map]
    refine (List.map_congr_left fun s hs => ?_).trans (List.map_id steps)
    rw [Function.comp_apply, unescapeStep_eq fun c hc => (h s hs c hc).2, String.ofList_toList]
    rfl
  rw [pointer?, hsplit]
  simp only [hsteps]

end SyntheticTables.Json
