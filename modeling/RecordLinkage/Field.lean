import RecordLinkage.Error

/-! # Sensitive fields

A field is a named secret attribute of a person together with the kind of normalization its
value takes before hashing. On the wire a field is three texts: name, value and kind name.
Reading the wire form succeeds exactly when the kind name is one of the three, and writing
it back gives the same texts. A field's debug text shows its name but never its value.
-/

namespace RecordLinkage

/-- How a field value is normalized before hashing. -/
inductive FieldKind where
  /-- Compared as given, after trimming and lower case. -/
  | exact
  /-- Reduced to plain words: no honorific, letters, digits and single spaces. -/
  | fuzzy
  /-- Replaced by its phonetic code. -/
  | phonetic
  deriving Repr, DecidableEq

/-- The name of a kind on the wire. -/
def FieldKind.name : FieldKind → String
  | .exact => "exact"
  | .fuzzy => "fuzzy"
  | .phonetic => "phonetic"

/-- The kind with the given wire name; the match is exact and case-sensitive. -/
def FieldKind.parse (text : String) : Except ValidationError FieldKind :=
  if text = "exact" then .ok .exact
  else if text = "fuzzy" then .ok .fuzzy
  else if text = "phonetic" then .ok .phonetic
  else .error (.unknownFieldType text)

/-- A named secret value with its kind. -/
structure Field where
  /-- The field name, which is bound into the field's digest. -/
  name : String
  /-- How the value is normalized. -/
  kind : FieldKind
  /-- The raw secret value. -/
  value : String
  deriving Repr, DecidableEq

/-- The untyped wire form of a field. -/
structure WireField where
  name : String
  value : String
  /-- The name of the kind. -/
  kindName : String
  deriving Repr, DecidableEq

/-- Build a field from an untyped kind name. -/
def Field.parse (name value kindName : String) : Except ValidationError Field :=
  (FieldKind.parse kindName).map fun kind => ⟨name, kind, value⟩

/-- Read a field from its wire form. -/
def WireField.toField (w : WireField) : Except ValidationError Field :=
  Field.parse w.name w.value w.kindName

/-- The wire form of a field. -/
def Field.toWire (f : Field) : WireField :=
  ⟨f.name, f.value, f.kind.name⟩

/-- The debug text of a field: its quoted name and its kind, with the value redacted. -/
def Field.debugText (f : Field) : String :=
  "SensitiveField \x7b name: " ++ Text.quote f.name ++ ", value: " ++ f.kind.name ++
    "(<redacted>) \x7d"

theorem FieldKind.parse_name (k : FieldKind) : FieldKind.parse k.name = .ok k := by
  cases k <;> rfl

@[simp] theorem Field.toWire_name (f : Field) : f.toWire.name = f.name := rfl

@[simp] theorem Field.toWire_value (f : Field) : f.toWire.value = f.value := rfl

@[simp] theorem Field.toWire_kindName (f : Field) : f.toWire.kindName = f.kind.name := rfl

theorem WireField.toField_toWire (f : Field) : f.toWire.toField = .ok f := by
  simp [WireField.toField, Field.parse, Field.toWire, FieldKind.parse_name, Except.map]

end RecordLinkage
