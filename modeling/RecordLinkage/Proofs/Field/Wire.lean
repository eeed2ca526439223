import RecordLinkage.Field

/-! # The wire form of a field

A field is sent as its name, raw value and kind name. Reading accepts exactly the three kind
names and refuses any other by naming it; reading and writing are inverse.
-/

namespace RecordLinkage

theorem FieldKind.name_eq_or (k : FieldKind) :
    k.name = "exact" ∨ k.name = "fuzzy" ∨ k.name = "phonetic" := by
  cases k <;> simp [FieldKind.name]

theorem FieldKind.parse_eq_ok_iff (text : String) (k : FieldKind) :
    FieldKind.parse text = .ok k ↔ text = k.name := by
  constructor
  · intro h
    unfold FieldKind.parse at h
    -- each accepted text gives its own kind; the last branch is an error
    repeat' split at h
    all_goals cases h
    all_goals assumption
  · rintro rfl
    exact FieldKind.parse_name k

theorem FieldKind.parse_eq_error_iff (text : String) (e : ValidationError) :
    FieldKind.parse text = .error e ↔
      text ∉ ["exact", "fuzzy", "phonetic"] ∧ e = .unknownFieldType text := by
  unfold FieldKind.parse
  -- the three names read as kinds; any other text is the error that names it
  repeat' split
  all_goals simp_all [eq_comm]

theorem WireField.toField_eq_ok_iff (r : WireField) (f : Field) :
    r.toField = .ok f ↔ r = f.toWire := by
  refine ⟨fun h => ?_, fun h => h ▸ WireField.toField_toWire f⟩
  obtain ⟨name, value, kindName⟩ := r
  -- a field is read only through the kind its kind name names
  cases hk : FieldKind.parse kindName with
  | error e => simp [WireField.toField, Field.parse, hk, Except.map] at h
  | ok k =>
    simp only [WireField.toField, Field.parse, hk, Except.map, Except.ok.injEq] at h
    rw [FieldKind.parse_eq_ok_iff] at hk
    rw [← h, hk]
    rfl

theorem WireField.toField_eq_error_iff (r : WireField) (e : ValidationError) :
    r.toField = .error e ↔
      r.kindName ∉ ["exact", "fuzzy", "phonetic"] ∧ e = .unknownFieldType r.kindName := by
  rw [← FieldKind.parse_eq_error_iff]
  simp only [WireField.toField, Field.parse]
  cases FieldKind.parse r.kindName <;> simp [Except.map]

theorem WireField.toField_isOk_iff (r : WireField) :
    (∃ f, r.toField = .ok f) ↔ r.kindName ∈ ["exact", "fuzzy", "phonetic"] := by
  constructor
  · rintro ⟨f, hf⟩
    rw [WireField.toField_eq_ok_iff] at hf
    subst hf
    simpa using f.kind.name_eq_or
  · intro hmem
    cases h : r.toField with
    | ok f => exact ⟨f, rfl⟩
    | error e => exact absurd hmem ((WireField.toField_eq_error_iff r e).1 h).1

/-- Reading and writing the wire form are inverse. A field comes back from its wire form
    unchanged; a wire form reads as a field exactly when its kind name is one of the three
    names, case by case, and then it is that field's wire form, with the same name, value and
    kind name; any other kind name is refused by naming it. The kind names are read back to
    their kinds and to nothing else. -/
theorem Field.wire_round_trip :
    (∀ f : Field, f.toWire.toField = .ok f) ∧
    (∀ (r : WireField) (f : Field), r.toField = .ok f ↔ r = f.toWire) ∧
    (∀ r : WireField, (∃ f, r.toField = .ok f) ↔ r.kindName ∈ ["exact", "fuzzy", "phonetic"]) ∧
    (∀ (r : WireField) (e : ValidationError), r.toField = .error e ↔
      r.kindName ∉ ["exact", "fuzzy", "phonetic"] ∧ e = .unknownFieldType r.kindName) ∧
    (∀ (text : String) (k : FieldKind), FieldKind.parse text = .ok k ↔ text = k.name) :=
  ⟨WireField.toField_toWire, WireField.toField_eq_ok_iff, WireField.toField_isOk_iff,
    WireField.toField_eq_error_iff, FieldKind.parse_eq_ok_iff⟩

end RecordLinkage
