import RecordLinkage.Field

/-! # Field maps

A field map holds fields under distinct keys, in increasing key order (texts compare by
code point, which is the order of their UTF-8 bytes); the map carries the proof that its keys
increase. Putting a field under a key that is present replaces the field there.
-/

namespace RecordLinkage

/-- Put `v` under `k` into sorted entries, replacing an entry under `k`. -/
def FieldMap.putEntry (k : String) (v : Field) : List (String × Field) → List (String × Field)
  | [] => [(k, v)]
  | (k', v') :: rest =>
    if k < k' then (k, v) :: (k', v') :: rest
    else if k = k' then (k, v) :: rest
    else (k', v') :: putEntry k v rest

namespace FieldMap

theorem mem_keys_putEntry {k x : String} {v : Field} {l : List (String × Field)}
    (h : x ∈ (putEntry k v l).map Prod.fst) : x = k ∨ x ∈ l.map Prod.fst := by
  induction l with
  | nil => simpa [putEntry] using h
  | cons e rest ih =>
    unfold putEntry at h
    split at h
    · simpa using h
    · split at h
      · simp only [List.map_cons, List.mem_cons] at h ⊢
        rcases h with h | h
        · exact .inl h
        · exact .inr (.inr h)
      · simp only [List.map_cons, List.mem_cons] at h ⊢
        rcases h with h | h
        · exact .inr (.inl h)
        · rcases ih h with h | h
          · exact .inl h
          · exact .inr (.inr h)

/-- Putting an entry into entries with increasing keys keeps them increasing. -/
theorem sorted_putEntry (k : String) (v : Field) {l : List (String × Field)}
    (h : (l.map Prod.fst).Pairwise (· < ·)) : ((putEntry k v l).map Prod.fst).Pairwise (· < ·) := by
  induction l with
  | nil => simp [putEntry]
  | cons e rest ih =>
    rw [List.map_cons, List.pairwise_cons] at h
    unfold putEntry
    split
    · next hlt =>
      rw [List.map_cons, List.map_cons, List.pairwise_cons, List.pairwise_cons]
      refine ⟨fun x hx => ?_, h.1, h.2⟩
      rcases List.mem_cons.1 hx with rfl | hx
      · exact hlt
      · exact String.lt_trans hlt (h.1 x hx)
    · split
      · next heq =>
        subst heq
        rw [List.map_cons, List.pairwise_cons]
        exact h
      · next hlt hne =>
        -- the new key comes after the first one
        have hgt : e.1 < k := by
          refine String.not_le.1 fun hle => hne ?_
          exact String.le_antisymm hle (String.not_lt.1 hlt)
        rw [List.map_cons, List.pairwise_cons]
        refine ⟨fun x hx => ?_, ih h.2⟩
        rcases mem_keys_putEntry hx with rfl | hx
        · exact hgt
        · exact h.1 x hx

end FieldMap

/-- Fields under distinct keys, kept in increasing key order. -/
structure FieldMap where
  /-- The entries, in increasing key order. -/
  entries : List (String × Field)
  sorted : (entries.map Prod.fst).Pairwise (· < ·)
  deriving Repr, DecidableEq

namespace FieldMap

/-- The map without entries. -/
def empty : FieldMap :=
  ⟨[], .nil⟩

/-- Put a field under a key. -/
def put (m : FieldMap) (k : String) (v : Field) : FieldMap :=
  ⟨putEntry k v m.entries, sorted_putEntry k v m.sorted⟩

/-- Put each field under its key, in order; a later key replaces an earlier equal one. -/
def ofList (entries : List (String × Field)) : FieldMap :=
  entries.foldl (fun m e => m.put e.1 e.2) empty

/-- Put each field under its own name, in order. -/
def ofFields (fields : List Field) : FieldMap :=
  ofList (fields.map fun f => (f.name, f))

/-- The number of entries. -/
def size (m : FieldMap) : Nat :=
  m.entries.length

/-- Whether the map has no entries. -/
def isEmpty (m : FieldMap) : Bool :=
  m.entries.isEmpty

/-- The keys, in increasing order. -/
def keys (m : FieldMap) : List String :=
  m.entries.map (·.1)

end FieldMap

/-- A provider's record of one person. -/
structure Record where
  id : String
  /-- The provider that holds the record. -/
  providerId : String
  fields : FieldMap
  deriving Repr

/-- A request to link a person against a provider's records. -/
structure Request where
  /-- The fields that describe the person sought. -/
  queryFields : FieldMap
  /-- The provider asking. -/
  providerId : String
  /-- The least similarity that counts as a match. -/
  threshold : Binary64

end RecordLinkage
