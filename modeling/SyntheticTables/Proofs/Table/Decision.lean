/-
  The check of a package decides whether the package is valid, and its message names the first
  resource that is not.

  The checks go through the resources in order and stop at the first refusal
  (`checkResources_eq_error_iff`), and a resource puts its own name in front of whatever is wrong with
  it.  Of floats the check asks that the upper bound is not below the lower one; for numbers that is
  the same as the lower bound being at most the upper one.
-/
import SyntheticTables.Proofs.Float
import SyntheticTables.Proofs.Table.Validity

namespace SyntheticTables

/-! ## Resources in order -/

/-- The error is that of the first resource that is refused; those before it were accepted.  Both
    directions are inductions along the list. -/
theorem checkResources_eq_error_iff {e : PackageError} {rs : List TableResource} :
    checkResources rs = .error e ↔ ∃ before r after, rs = before ++ r :: after ∧
      (∀ b ∈ before, b.check = .ok ()) ∧ r.check = .error e := by
  constructor
  · intro h
    -- the first table that fails is the head, or the first that fails of the rest
    induction rs with
    | nil => cases h
    | cons r rest ih =>
      cases hr : r.check with
      | error cause =>
        simp only [checkResources, hr] at h
        cases h
        exact ⟨[], r, rest, rfl, fun _ hb => absurd hb List.not_mem_nil, hr⟩
      | ok u =>
        have hrest : checkResources rest = .error e := by
          rwa [checkResources, hr] at h
        obtain ⟨before, first, after, rfl, hbefore, hfirst⟩ := ih hrest
        exact ⟨r :: before, first, after, rfl, List.forall_mem_cons.mpr ⟨hr, hbefore⟩, hfirst⟩
  · rintro ⟨before, r, after, rfl, hbefore, hr⟩
    induction before with
    | nil =>
      rw [List.nil_append, checkResources, hr]
      rfl
    | cons b rest ih =>
      obtain ⟨hb, hrest⟩ := List.forall_mem_cons.mp hbefore
      rw [List.cons_append, checkResources, hb]
      exact ih hrest

/-- A resource is refused under its own name, whatever is wrong with it. -/
theorem TableResource.check_eq_error {r : TableResource} {e : PackageError}
    (h : r.check = .error e) : ∃ cause, e = .inResource r.name cause := by
  obtain ⟨cause, -, he⟩ := mapError_eq_error_iff.mp h
  exact ⟨cause, he⟩

/-! ## Bounds of numbers -/

/-- Bounds that are numbers contradict each other exactly when they are out of order.  Without the
    conditions this is false: `NaN` is not below anything. -/
theorem FieldType.valid_number_iff {t : NumberType} (hmin : ∀ a ∈ t.minimum, IsNumber a)
    (hmax : ∀ b ∈ t.maximum, IsNumber b) :
    (FieldType.number t).Valid ↔ ∀ a ∈ t.minimum, ∀ b ∈ t.maximum, a ≤ b :=
  forall₂_congr fun a ha => forall₂_congr fun b hb => float_not_lt (hmin a ha) (hmax b hb)

/-! ## Packages -/

/-- The check accepts exactly the valid packages; for bounds that are numbers, to be valid is to be in
    order.  If it refuses a package, its message names the first resource that is not valid. -/
theorem Package.check_decides (p : Package) :
    (p.check = .ok () ↔ p.Valid) ∧
    (∀ t : NumberType, (∀ a ∈ t.minimum, IsNumber a) → (∀ b ∈ t.maximum, IsNumber b) →
      ((FieldType.number t).Valid ↔ ∀ a ∈ t.minimum, ∀ b ∈ t.maximum, a ≤ b)) ∧
    ∀ e, p.check = .error e → ∃ before r after, ∃ cause : PackageError,
      p.resources = before ++ r :: after ∧ (∀ b ∈ before, b.Valid) ∧ ¬ r.Valid ∧
      e.message = s!"invalid package: resource '{r.name}': {cause.detail}" := by
  refine ⟨checkResources_eq_ok_iff, fun _ => FieldType.valid_number_iff, fun e he => ?_⟩
  obtain ⟨before, r, after, hsplit, hbefore, hr⟩ := checkResources_eq_error_iff.mp he
  obtain ⟨cause, rfl⟩ := TableResource.check_eq_error hr
  refine ⟨before, r, after, cause, hsplit, ?_, ?_, rfl⟩
  · exact fun b hb => TableResource.check_eq_ok_iff.mp (hbefore b hb)
  · intro hvalid
    rw [TableResource.check_eq_ok_iff.mpr hvalid] at hr
    cases hr

/-- A package of two tables: `empty` has no rows and is to have none, `short` has none and is to
    have one. -/
def shortPackage : Package := {
  name := "data"
  resources := [
    { name := "empty", schema := { fields := [], rowCount := 0 }, rows := [] },
    { name := "short", schema := { fields := [], rowCount := 1 }, rows := [] }] }

/-- The second table of this package, `short`, lacks its row; the error names it and says how many
    rows there should be, and the first table is valid. -/
theorem Package.check_decides_short :
    shortPackage.check = .error (.inResource "short" (.wrongRowCount 1 0)) ∧
    ∃ before r after, ∃ cause : PackageError, shortPackage.resources = before ++ r :: after ∧
      (∀ b ∈ before, b.Valid) ∧ ¬ r.Valid ∧
      (PackageError.inResource "short" (.wrongRowCount 1 0)).message
        = s!"invalid package: resource '{r.name}': {cause.detail}" :=
  ⟨rfl, (Package.check_decides shortPackage).2.2 _ rfl⟩

end SyntheticTables
