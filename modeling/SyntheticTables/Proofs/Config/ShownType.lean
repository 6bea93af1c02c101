/-
  Types in messages and reports.

  The types that a refusal speaks of are normal: what is found is the type that a node declares, and
  what the seats expect is normal, too (`Node.normal_of_typeMismatch`).  No type has a comma or a
  colon in its text, so the message is taken apart at the last of each
  (`CheckError.typeMismatch_message_inj`).  The report of a run shows the declared type of its tree
  (`declaredType_of_runOnce`).  What a reader sees of a type hence says which one is meant.
-/
import SyntheticTables.Engine
import SyntheticTables.Proofs.Config.Culprit
import SyntheticTables.Proofs.Config.DeclaredType
import SyntheticTables.Proofs.TypeDesc.Text

namespace SyntheticTables

/-! ## Messages -/

namespace CheckError

/-- What a refusal for a type says, part by part. -/
theorem message_typeMismatch (path : NodePath) (expected got : TypeDesc) :
    (typeMismatch path expected got).message = "type mismatch at " ++ path.text ++ ": expected "
      ++ expected.text ++ ", got " ++ got.text := rfl

/-- The message as it is taken apart: before the comma and behind it, and before the colon and behind
    that. -/
theorem toList_message_typeMismatch (path : NodePath) (expected got : TypeDesc) :
    (typeMismatch path expected got).message.toList
      = (("type mismatch at " ++ path.text).toList ++ ':' :: (" expected " ++ expected.text).toList)
        ++ ',' :: (" got " ++ got.text).toList := by
  have hcolon : ": expected ".toList = ':' :: " expected ".toList := rfl
  have hcomma : ", got ".toList = ',' :: " got ".toList := rfl
  simp only [message_typeMismatch, String.toList_append, hcolon, hcomma, List.append_assoc,
    List.cons_append]

/-- The message about a type that does not fit shows its three parts.  The way may contain commas
    and colons; the types do not, so the last ones in the message are the message's own. -/
theorem typeMismatch_message_inj {path path' : NodePath} {expected expected' got got' : TypeDesc}
    (h : (typeMismatch path expected got).message
      = (typeMismatch path' expected' got').message) :
    path.text = path'.text ∧ expected.text = expected'.text ∧ got.text = got'.text := by
  have hcomma : ∀ t : TypeDesc, ',' ∉ (" got " ++ t.text).toList := by
    intro t
    rw [String.toList_append, List.mem_append, not_or]
    exact ⟨by decide, t.not_mem_text (by decide)⟩
  have hcolon : ∀ t : TypeDesc, ':' ∉ (" expected " ++ t.text).toList := by
    intro t
    rw [String.toList_append, List.mem_append, not_or]
    exact ⟨by decide, t.not_mem_text (by decide)⟩
  have hchars := congrArg String.toList h
  rw [toList_message_typeMismatch, toList_message_typeMismatch] at hchars
  -- the last comma stands before the type found, and before that the last colon
  obtain ⟨hfront, hgot⟩ := Text.append_cons_inj_of_last (hcomma got) (hcomma got') hchars
  obtain ⟨hpath, hexpected⟩ :=
    Text.append_cons_inj_of_last (hcolon expected) (hcolon expected') hfront
  refine ⟨?_, ?_, ?_⟩
  · simpa using String.toList_inj.mp hpath
  · simpa using String.toList_inj.mp hexpected
  · simpa using String.toList_inj.mp hgot

/-- A fault is not reported as a type that does not fit: the messages begin with different
    letters. -/
theorem message_invalid_ne {path path' : NodePath} {fault : Fault} {expected got : TypeDesc} :
    (invalid path' fault).message ≠ (typeMismatch path expected got).message := by
  intro h
  have hinvalid : (invalid path' fault).message
      = "invalid configuration at " ++ path'.text ++ ": " ++ fault.message := rfl
  rw [hinvalid, message_typeMismatch] at h
  have hfirst := congrArg (·.toList.head?) h
  simp at hfirst

end CheckError

/-! ## Types that do not fit -/

/-- Every seat expects a normal type, for every kind of node and every parameter. -/
theorem Kind.normal_expects (k : Kind) (name : String) : (k.expects name).Normal := by
  have hoptional : Check.optionalText.Normal := TypeDesc.normal_optional trivial
  cases k with
  | fieldGroup => exact .ite trivial TypeDesc.normal_fieldType
  | likertFieldGroup => exact .ite trivial trivial
  | tableSchema => exact .ite trivial trivial
  | tableResource => exact .ite hoptional (.ite trivial trivial)
  | package => exact .ite hoptional (.ite trivial trivial)
  | _ => trivial

/-- All seats of a tree expect normal types if the topmost does. -/
theorem Seat.normal_expected_of_mem_traversal {s r : Seat} (hs : s.expected.Normal)
    (hr : r ∈ s.traversal) : r.expected.Normal := by
  induction s using Seat.induction with
  | h s ih =>
    obtain rfl | ⟨top, htop, hr⟩ := mem_traversal_iff.mp hr
    · exact hs
    · obtain ⟨a, -, hseat⟩ := List.mem_flatMap.mp htop
      obtain ⟨p, -, rfl⟩ := List.mem_map.mp hseat
      exact ih _ htop (s.node.kind.normal_expects a.1) hr

/-- Both types of a misfit are normal. -/
theorem Node.normal_of_typeMismatch {t : Node} {path : NodePath} {expected got : TypeDesc}
    (h : t.check = .error (.typeMismatch path expected got)) : expected.Normal ∧ got.Normal := by
  obtain ⟨before, s, after, htraversal, -, hreports⟩ := Seat.exists_culprit (t.check_root.trans h)
  have hs : s ∈ t.root.traversal := by rw [htraversal]; simp
  have hroot : t.root.expected.Normal := trivial
  cases hreports with
  | misfit hnode hfits =>
    exact ⟨Seat.normal_expected_of_mem_traversal hroot hs, s.node.declaredType_normal⟩

/-! ## Reports -/

/-- A run reports the type that its tree declares: it has to have passed the check to be run at all,
    and the report is made from the tree and not from what was drawn. -/
theorem declaredType_of_runOnce {read : FileReader} {o : RunOptions} {t : Node} {v : Value}
    {r : Report} (h : runOnce read o t = .ok (v, r)) : r.declaredType = t.declaredType := by
  unfold runOnce at h
  cases hcheck : t.check with
  | error e =>
    simp only [hcheck] at h
    cases h
  | ok u =>
    simp only [hcheck] at h
    obtain ⟨run, -, h⟩ := bind_eq_ok_iff.mp h
    split at h
    · cases h
    · cases h
      rfl

/-- The type in the document of a report. -/
theorem Report.member?_declaredType (r : Report) (duration : Option Nat) :
    (Json.obj (r.members duration)).member? "declared_type" = some (.str r.declaredType.text) := rfl

namespace TypeDesc

/-- Different normal types have different texts.  So the message of a check says which type was
    expected and which was found instead, both of them normal, and from the reports of two runs it
    can be seen whether their trees declare the same type. -/
theorem text_unambiguous {a b : TypeDesc} (ha : a.Normal) (hb : b.Normal) :
    (a.text = b.text ↔ a = b) ∧
    (∀ (t : Node) (path : NodePath) (expected got : TypeDesc),
      t.check = .error (.typeMismatch path expected got) → expected.Normal ∧ got.Normal ∧
      ∀ (t' : Node) (e : CheckError), t'.check = .error e →
        e.message = (CheckError.typeMismatch path expected got).message →
        ∃ path', e = .typeMismatch path' expected got ∧ path'.text = path.text) ∧
    (∀ (read read' : FileReader) (o o' : RunOptions) (t t' : Node) (v v' : Value) (r r' : Report)
      (duration duration' : Option Nat),
      runOnce read o t = .ok (v, r) → runOnce read' o' t' = .ok (v', r') →
      (Json.obj (r.members duration)).member? "declared_type"
        = (Json.obj (r'.members duration')).member? "declared_type" →
      t.declaredType = t'.declaredType) := by
  refine ⟨⟨eq_of_text ha hb, congrArg text⟩, ?_, ?_⟩
  · intro t path expected got h
    obtain ⟨hexpected, hgot⟩ := Node.normal_of_typeMismatch h
    refine ⟨hexpected, hgot, ?_⟩
    intro t' e h' hmessage
    cases e with
    | invalid path' fault => exact absurd hmessage (CheckError.message_invalid_ne)
    | typeMismatch path' expected' got' =>
      obtain ⟨hexpected', hgot'⟩ := Node.normal_of_typeMismatch h'
      obtain ⟨hpath, htext, htext'⟩ := CheckError.typeMismatch_message_inj hmessage
      obtain rfl := eq_of_text hexpected' hexpected htext
      obtain rfl := eq_of_text hgot' hgot htext'
      exact ⟨path', rfl, hpath⟩
  · intro read read' o o' t t' v v' r r' duration duration' h h' hmember
    rw [Report.member?_declaredType, Report.member?_declaredType, declaredType_of_runOnce h,
      declaredType_of_runOnce h'] at hmember
    exact eq_of_text t.declaredType_normal t'.declaredType_normal
      (Json.str.inj (Option.some.inj hmember))

end TypeDesc

/-- Written `seq[int | seq[]]`. -/
def TypeDesc.mixedItems : TypeDesc := .seq (.union [.prim .int, .seq (.union [])])

/-- Written `seq[int] | seq[]`. -/
def TypeDesc.mixedSeqs : TypeDesc := .union [.seq (.prim .int), .seq (.union [])]

/-- A field group with words where it needs a kind of column. -/
def Node.wordGroup (count : SizeSpec) : Node :=
  .fieldGroup defaultMetaGroup (.words .sentence count)

/-- A batch of no items at all. -/
def Node.noItems (item : Node) : Node := .batch item (.fixed 0) false

/-- `seq[int | seq[]]` and `seq[int] | seq[]` differ only in where a bracket closes, and are
    different.  Two field groups with a sentence where a column type belongs are refused with the
    same message, and the types in it are the same.  Two batches of nothing, of optional words and
    of a choice between an optional word and a word, report `seq[none | str]` and declare this
    type. -/
theorem TypeDesc.text_unambiguous_brackets :
    mixedItems.Normal ∧ mixedSeqs.Normal ∧ mixedItems.text ≠ mixedSeqs.text ∧
    (∃ e path, (Node.wordGroup (.fixed 10)).check
        = .error (.typeMismatch [.slot "field_type"] fieldType (.prim .str)) ∧
      (Node.wordGroup (.range 1 3)).check = .error e ∧
      e.message = (CheckError.typeMismatch [.slot "field_type"] fieldType (.prim .str)).message ∧
      e = .typeMismatch path fieldType (.prim .str)) ∧
    (∃ v v' r r', runOnce (fun _ => .error .notFound) {} (.noItems (.maybe none .word))
        = .ok (v, r) ∧
      runOnce (fun _ => .error .notFound) {} (.noItems (.choice [.maybe (some 0.25) .word, .word]))
        = .ok (v', r') ∧
      (Json.obj (r.members none)).member? "declared_type"
        = (Json.obj (r'.members (some 3))).member? "declared_type" ∧
      (Node.noItems (.maybe none .word)).declaredType
        = (Node.noItems (.choice [.maybe (some 0.25) .word, .word])).declaredType) := by
  have hempty : (union []).Normal := ⟨List.Pairwise.nil, by decide, trivial⟩
  have hitems : mixedItems.Normal :=
    ⟨List.pairwise_pair.mpr rfl, by decide, ⟨rfl, trivial⟩, ⟨rfl, hempty⟩, trivial⟩
  have hseqs : mixedSeqs.Normal :=
    ⟨List.pairwise_pair.mpr rfl, by decide, ⟨rfl, trivial⟩, ⟨rfl, hempty⟩, trivial⟩
  obtain ⟨htext, hmessages, hreports⟩ := text_unambiguous hitems hseqs
  have hmisfit : (Node.wordGroup (.fixed 10)).check
      = .error (.typeMismatch [.slot "field_type"] fieldType (.prim .str)) := rfl
  have hmisfit' : (Node.wordGroup (.range 1 3)).check
      = .error (.typeMismatch [.slot "field_type"] fieldType (.prim .str)) := rfl
  obtain ⟨path, hsame, -⟩ := (hmessages _ _ _ _ hmisfit).2.2 _ _ hmisfit' rfl
  obtain ⟨⟨v, r⟩, hrun⟩ : ∃ result, runOnce (fun _ => .error .notFound) {}
      (.noItems (.maybe none .word)) = .ok result := isOk_iff.mp (by decide +kernel)
  obtain ⟨⟨v', r'⟩, hrun'⟩ : ∃ result, runOnce (fun _ => .error .notFound) {}
      (.noItems (.choice [.maybe (some 0.25) .word, .word])) = .ok result :=
    isOk_iff.mp (by decide +kernel)
  have hmember : (Json.obj (r.members none)).member? "declared_type"
      = (Json.obj (r'.members (some 3))).member? "declared_type" := by
    rw [Report.member?_declaredType, Report.member?_declaredType, declaredType_of_runOnce hrun,
      declaredType_of_runOnce hrun']
    rfl
  refine ⟨hitems, hseqs, fun h => absurd (htext.mp h) (by decide),
    ⟨_, path, hmisfit, hmisfit', rfl, hsame⟩, v, v', r, r', hrun, hrun', hmember, ?_⟩
  apply hreports
  · exact hrun
  · exact hrun'
  · exact hmember

end SyntheticTables
