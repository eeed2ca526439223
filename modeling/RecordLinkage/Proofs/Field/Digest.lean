import RecordLinkage.Proofs.Filter.Transfer
import RecordLinkage.Proofs.Text.Capitals

/-! # What a field's digest binds

A field is hashed from `name:normalized:salt`, with no escaping. Two such texts are equal
exactly when the parts are, or when a colon of one lies inside a part of the other; only an
exact field's normalized value can hold a colon. A phonetic field is normalized to the code of
its trimmed, lower case value.
-/

namespace RecordLinkage

section Lists

variable {α : Type}

theorem append_cons_eq_append_cons_iff {a b c d : List α} {x : α} :
    a ++ x :: b = c ++ x :: d ↔ (a = c ∧ b = d) ∨ (∃ y, c = a ++ x :: y ∧ b = y ++ x :: d) ∨
      (∃ y, a = c ++ x :: y ∧ d = y ++ x :: b) := by
  constructor
  · intro h
    rcases List.append_eq_append_iff.1 h with ⟨a', rfl, hb⟩ | ⟨c', rfl, hd⟩
    · cases a' with
      | nil => simp_all
      | cons z y =>
        simp only [List.cons_append, List.cons.injEq] at hb
        obtain ⟨rfl, rfl⟩ := hb
        exact .inr (.inl ⟨y, rfl, rfl⟩)
    · cases c' with
      | nil => simp_all
      | cons z y =>
        simp only [List.cons_append, List.cons.injEq] at hd
        obtain ⟨rfl, rfl⟩ := hd
        exact .inr (.inr ⟨y, rfl, rfl⟩)
  · rintro (⟨rfl, rfl⟩ | ⟨y, rfl, rfl⟩ | ⟨y, rfl, rfl⟩) <;> simp

theorem mem_intercalate_iff {sep : List α} {ls : List (List α)} {c : α} :
    c ∈ sep.intercalate ls ↔ (∃ l ∈ ls, c ∈ l) ∨ (c ∈ sep ∧ 2 ≤ ls.length) := by
  induction ls with
  | nil => simp
  | cons l rest ih =>
    cases rest with
    | nil => simp
    | cons l' rest' =>
      rw [List.intercalate_cons_cons, List.append_assoc, List.mem_append, List.mem_append, ih]
      simp only [List.mem_cons, List.length_cons]
      constructor
      · rintro (h | h | (⟨l'', h', hc⟩ | ⟨h, -⟩))
        · exact .inl ⟨l, .inl rfl, h⟩
        · exact .inr ⟨h, by omega⟩
        · exact .inl ⟨l'', .inr h', hc⟩
        · exact .inr ⟨h, by omega⟩
      · rintro (⟨l'', (rfl | h'), hc⟩ | ⟨h, -⟩)
        · exact .inl hc
        · exact .inr (.inr (.inl ⟨l'', h', hc⟩))
        · exact .inr (.inl h)

theorem mem_of_mem_splitOn [BEq α] [LawfulBEq α] {l cs : List α} {x c : α}
    (hl : l ∈ cs.splitOn x) (hc : c ∈ l) : c ∈ cs := by
  have hcs : [x].intercalate (cs.splitOn x) = cs := List.intercalate_splitOn x
  rw [← hcs]
  exact mem_intercalate_iff.2 (.inl ⟨l, hl, hc⟩)

end Lists

end RecordLinkage

namespace RecordLinkage

theorem toList_colon_join (a b : String) : (a ++ ":" ++ b).toList = a.toList ++ ':' :: b.toList := by
  simp [String.toList_append]

theorem colon_join_ne_self (a y : String) : a ++ ":" ++ y ≠ a := by
  intro h
  have hlen := congrArg List.length (congrArg String.toList h)
  simp only [toList_colon_join, List.length_append, List.length_cons] at hlen
  omega

theorem colon_join_eq_iff {a b c d : String} :
    a ++ ":" ++ b = c ++ ":" ++ d ↔ (a = c ∧ b = d) ∨
      (∃ y, c = a ++ ":" ++ y ∧ b = y ++ ":" ++ d) ∨ (∃ y, a = c ++ ":" ++ y ∧ d = y ++ ":" ++ b) := by
  rw [← String.toList_inj, toList_colon_join, toList_colon_join, append_cons_eq_append_cons_iff]
  simp only [← String.toList_inj, toList_colon_join]
  constructor
  · rintro (h | ⟨y, hc, hb⟩ | ⟨y, ha, hd⟩)
    · exact .inl h
    · exact .inr (.inl ⟨String.ofList y, by rw [String.toList_ofList]; exact hc,
        by rw [String.toList_ofList]; exact hb⟩)
    · exact .inr (.inr ⟨String.ofList y, by rw [String.toList_ofList]; exact ha,
        by rw [String.toList_ofList]; exact hd⟩)
  · rintro (h | ⟨y, hc, hb⟩ | ⟨y, ha, hd⟩)
    · exact .inl h
    · exact .inr (.inl ⟨y.toList, hc, hb⟩)
    · exact .inr (.inr ⟨y.toList, ha, hd⟩)

theorem mem_joinWords {c : Char} {cs : List Char} (h : c ∈ joinWords cs) : c = ' ' ∨ c ∈ cs := by
  unfold joinWords at h
  rcases mem_intercalate_iff.1 h with ⟨l, hl, hc⟩ | ⟨hc, -⟩
  · exact .inr (mem_of_mem_splitOn (List.mem_filter.1 hl).1 hc)
  · exact .inl (by simpa using hc)

theorem colon_not_mem_normalizeFuzzy (value : List Char) : ':' ∉ normalizeFuzzy value := by
  intro h
  rcases mem_joinWords h with h | h
  · exact absurd h (by decide)
  · obtain ⟨c, hc, hmap⟩ := List.mem_map.1 h
    have hkept := (List.mem_filter.1 hc).2
    split at hmap
    · exact absurd hmap (by decide)
    · subst hmap
      exact absurd hkept (by decide)

namespace Phonetic

theorem digitFor_ne_colon {c d : Char} (h : digitFor c = some d) : d ≠ ':' := by
  unfold digitFor at h
  split_ifs at h <;> (cases h; decide)

theorem colon_not_mem_push {e : Encoder} (h : ':' ∉ e.code) (c : Char) : ':' ∉ (e.push c).code := by
  unfold Encoder.push
  split
  · exact h
  · split
    · next d hd =>
      split
      · exact h
      · rw [List.mem_append, List.mem_singleton]
        rintro (h' | h')
        · exact h h'
        · exact digitFor_ne_colon hd h'.symm
    · exact h

theorem colon_not_mem_encodeLetters {ls : List Char} (h : ':' ∉ ls) : ':' ∉ encodeLetters ls := by
  unfold encodeLetters
  split
  · simp
  · next first rest =>
    have hcode : ∀ (rest : List Char) (e : Encoder), ':' ∉ e.code →
        ':' ∉ (rest.foldl Encoder.push e).code := by
      intro rest
      induction rest with
      | nil => exact fun _ he => he
      | cons c rest ih => exact fun e he => ih _ (colon_not_mem_push he c)
    have hfirst : ':' ∉ [first] := by
      rw [List.mem_singleton]
      rintro rfl
      exact h List.mem_cons_self
    rw [List.mem_append]
    rintro (h' | h')
    · exact hcode rest ⟨[first], none⟩ hfirst h'
    · exact absurd (List.eq_of_mem_replicate h') (by decide)

theorem colon_not_mem_encode (name : String) : ':' ∉ (encode name).toList := by
  rw [encode, String.toList_ofList]
  apply colon_not_mem_encodeLetters
  intro h
  exact absurd (List.mem_filter.1 h).2 (by decide)

end Phonetic

namespace Field

theorem colon_not_mem_normalized {f : Field} (hk : f.kind ≠ .exact) : ':' ∉ f.normalized.toList := by
  obtain ⟨name, kind, value⟩ := f
  cases kind with
  | exact => exact absurd rfl hk
  | fuzzy =>
    rw [normalized, String.toList_ofList]
    exact colon_not_mem_normalizeFuzzy _
  | phonetic => exact Phonetic.colon_not_mem_encode _

theorem digestInput_eq_iff_text (f g : Field) (salt : String) :
    f.digestInput salt = g.digestInput salt ↔
      f.name ++ ":" ++ f.normalized = g.name ++ ":" ++ g.normalized := by
  unfold digestInput
  constructor
  · intro h
    have hbytes : (f.name ++ ":" ++ f.normalized ++ ":" ++ salt).toUTF8 =
        (g.name ++ ":" ++ g.normalized ++ ":" ++ salt).toUTF8 := by
      rw [← Filter.ofList_toList (f.name ++ ":" ++ f.normalized ++ ":" ++ salt).toUTF8, h,
        Filter.ofList_toList]
    rw [String.toUTF8_eq_toByteArray, String.toUTF8_eq_toByteArray, String.toByteArray_inj,
      ← String.toList_inj, toList_colon_join (f.name ++ ":" ++ f.normalized),
      toList_colon_join (g.name ++ ":" ++ g.normalized), List.append_left_inj,
      String.toList_inj] at hbytes
    exact hbytes
  · intro h
    rw [h]

theorem colon_mem_colon_join (a b : String) : ':' ∈ (a ++ ":" ++ b).toList := by
  rw [toList_colon_join]
  exact List.mem_append_right _ List.mem_cons_self

/-- The bytes hashed for two fields coincide exactly when their names and normalized values
    do, or when the colon after one name is the first colon inside the other's name, the rest
    of that name starting the first field's normalized value. -/
theorem digestInput_eq_iff (f g : Field) (salt : String) :
    f.digestInput salt = g.digestInput salt ↔ (f.name = g.name ∧ f.normalized = g.normalized) ∨
      (∃ y, g.name = f.name ++ ":" ++ y ∧ f.normalized = y ++ ":" ++ g.normalized) ∨
      (∃ y, f.name = g.name ++ ":" ++ y ∧ g.normalized = y ++ ":" ++ f.normalized) :=
  (digestInput_eq_iff_text f g salt).trans colon_join_eq_iff

theorem digestInput_ne {f g : Field} (salt : String)
    (hpair : (f.name, f.normalized) ≠ (g.name, g.normalized))
    (hsep : (':' ∉ f.name.toList ∧ ':' ∉ g.name.toList) ∨
      (':' ∉ f.normalized.toList ∧ ':' ∉ g.normalized.toList)) :
    f.digestInput salt ≠ g.digestInput salt := by
  intro h
  rcases (digestInput_eq_iff f g salt).1 h with ⟨hn, hv⟩ | ⟨y, hn, hv⟩ | ⟨y, hn, hv⟩
  · exact hpair (by rw [hn, hv])
  -- otherwise one name and the other normalized value both hold the shifted colon
  · rcases hsep with ⟨-, hg⟩ | ⟨hf, -⟩
    · exact hg (hn ▸ colon_mem_colon_join _ _)
    · exact hf (hv ▸ colon_mem_colon_join _ _)
  · rcases hsep with ⟨hf, -⟩ | ⟨-, hg⟩
    · exact hf (hn ▸ colon_mem_colon_join _ _)
    · exact hg (hv ▸ colon_mem_colon_join _ _)

theorem digest_eq_iff (f g : Field) (salt : String) :
    f.digest salt = g.digest salt ↔
      Hash.Sha256.digest (f.digestInput salt) = Hash.Sha256.digest (g.digestInput salt) := by
  unfold digest
  constructor
  · intro h
    have hdecode := congrArg Hex.decode h
    rw [Hex.decode_encode, Hex.decode_encode] at hdecode
    exact Except.ok.inj hdecode
  · intro h
    rw [h]

/-- Two fields are hashed from the same bytes exactly when their pairs of name and normalized
    value are equal, or a colon moves between them, which needs a colon in a name and an exact
    field. Other fields with different pairs are hashed from different bytes, so equal digests
    of them are a collision of SHA-256. -/
theorem digestInput_binds_pair :
    (∀ (f g : Field) (salt : String), f.digestInput salt = g.digestInput salt ↔
      (f.name = g.name ∧ f.normalized = g.normalized) ∨
      (∃ y, g.name = f.name ++ ":" ++ y ∧ f.normalized = y ++ ":" ++ g.normalized) ∨
      (∃ y, f.name = g.name ++ ":" ++ y ∧ g.normalized = y ++ ":" ++ f.normalized)) ∧
    (∀ f : Field, f.kind ≠ .exact → ':' ∉ f.normalized.toList) ∧
    (∀ (f g : Field) (salt : String), (f.name, f.normalized) ≠ (g.name, g.normalized) →
      ((':' ∉ f.name.toList ∧ ':' ∉ g.name.toList) ∨ (f.kind ≠ .exact ∧ g.kind ≠ .exact)) →
      f.digestInput salt ≠ g.digestInput salt ∧
      (f.digest salt = g.digest salt →
        Hash.Sha256.digest (f.digestInput salt) = Hash.Sha256.digest (g.digestInput salt))) := by
  refine ⟨digestInput_eq_iff, fun f hk => colon_not_mem_normalized hk, fun f g salt hpair hsep => ?_⟩
  have hsep' : (':' ∉ f.name.toList ∧ ':' ∉ g.name.toList) ∨
      (':' ∉ f.normalized.toList ∧ ':' ∉ g.normalized.toList) := by
    rcases hsep with h | ⟨hf, hg⟩
    · exact .inl h
    · exact .inr ⟨colon_not_mem_normalized hf, colon_not_mem_normalized hg⟩
  exact ⟨digestInput_ne salt hpair hsep', (digest_eq_iff f g salt).1⟩

/-- The fields `email` and `phone` with the same value are hashed from different bytes. -/
theorem digestInput_binds_pair_email :
    ((⟨"email", .exact, "x"⟩ : Field).name, (⟨"email", .exact, "x"⟩ : Field).normalized) ≠
        ((⟨"phone", .exact, "x"⟩ : Field).name, (⟨"phone", .exact, "x"⟩ : Field).normalized) ∧
      (⟨"email", .exact, "x"⟩ : Field).digestInput "s" ≠ (⟨"phone", .exact, "x"⟩ : Field).digestInput "s" := by
  have hpair : ((⟨"email", .exact, "x"⟩ : Field).name, (⟨"email", .exact, "x"⟩ : Field).normalized) ≠
      ((⟨"phone", .exact, "x"⟩ : Field).name, (⟨"phone", .exact, "x"⟩ : Field).normalized) :=
    fun h => absurd (congrArg Prod.fst h) (by decide)
  exact ⟨hpair, (digestInput_binds_pair.2.2 _ _ "s" hpair (.inl ⟨by decide, by decide⟩)).1⟩

/-- The exact fields `a:b` = `c` and `a` = `b:c` are hashed from the same bytes `a:b:c:s`, so
    they share a digest although their names differ. -/
theorem digest_colon_shift :
    ((⟨"a:b", .exact, "c"⟩ : Field).name, (⟨"a:b", .exact, "c"⟩ : Field).normalized) ≠
        ((⟨"a", .exact, "b:c"⟩ : Field).name, (⟨"a", .exact, "b:c"⟩ : Field).normalized) ∧
      (⟨"a:b", .exact, "c"⟩ : Field).digestInput "s" = (⟨"a", .exact, "b:c"⟩ : Field).digestInput "s" ∧
      (⟨"a:b", .exact, "c"⟩ : Field).digest "s" = (⟨"a", .exact, "b:c"⟩ : Field).digest "s" := by
  have hc : (⟨"a:b", .exact, "c"⟩ : Field).normalized = "c" := by decide
  have hbc : (⟨"a", .exact, "b:c"⟩ : Field).normalized = "b:c" := by decide
  have hinput : (⟨"a:b", .exact, "c"⟩ : Field).digestInput "s" =
      (⟨"a", .exact, "b:c"⟩ : Field).digestInput "s" := by
    rw [digestInput_eq_iff, hc, hbc]
    exact .inr (.inr ⟨"b", rfl, rfl⟩)
  refine ⟨fun h => absurd (congrArg Prod.fst h) (by decide), hinput, ?_⟩
  rw [digest, hinput]
  rfl

/-! ### Phonetic fields -/

theorem digestInput_eq_iff_of_name_eq {f g : Field} (salt : String) (h : f.name = g.name) :
    f.digestInput salt = g.digestInput salt ↔ f.normalized = g.normalized := by
  rw [digestInput_eq_iff]
  constructor
  · rintro (⟨-, hv⟩ | ⟨y, hn, -⟩ | ⟨y, hn, -⟩)
    · exact hv
    · rw [h] at hn
      exact absurd hn.symm (colon_join_ne_self _ y)
    · rw [h] at hn
      exact absurd hn.symm (colon_join_ne_self _ y)
  · intro hv
    exact .inl ⟨h, hv⟩

theorem normalized_phonetic {name v : String}
    (hv : ∀ c ∈ v.toList, c ∉ Text.lowerChangesCapitals) :
    (⟨name, .phonetic, v⟩ : Field).normalized = Phonetic.encode v := by
  show Phonetic.encode (baseForm v) = Phonetic.encode v
  rw [Phonetic.encode, Phonetic.encode, Text.letters_baseForm hv]

/-- A phonetic field is normalized to the code of its raw value, for a value without the
    three characters whose lower case gains capitals. For such values, two phonetic fields of
    one name are hashed from the same bytes exactly when their values sound alike; values that
    sound alike share a digest, and a digest shared by values that do not is a collision of
    SHA-256. -/
theorem phonetic_digest_iff_similar :
    (∀ name v, (∀ c ∈ v.toList, c ∉ Text.lowerChangesCapitals) →
      (⟨name, .phonetic, v⟩ : Field).normalized = Phonetic.encode v) ∧
    (∀ name a b salt, (∀ c ∈ a.toList, c ∉ Text.lowerChangesCapitals) →
      (∀ c ∈ b.toList, c ∉ Text.lowerChangesCapitals) →
      ((⟨name, .phonetic, a⟩ : Field).digestInput salt =
          (⟨name, .phonetic, b⟩ : Field).digestInput salt ↔ Phonetic.similar a b = true) ∧
      (Phonetic.similar a b = true →
        (⟨name, .phonetic, a⟩ : Field).digest salt = (⟨name, .phonetic, b⟩ : Field).digest salt) ∧
      ((⟨name, .phonetic, a⟩ : Field).digest salt = (⟨name, .phonetic, b⟩ : Field).digest salt →
        Phonetic.similar a b = true ∨
          ((⟨name, .phonetic, a⟩ : Field).digestInput salt ≠
              (⟨name, .phonetic, b⟩ : Field).digestInput salt ∧
            Hash.Sha256.digest ((⟨name, .phonetic, a⟩ : Field).digestInput salt) =
              Hash.Sha256.digest ((⟨name, .phonetic, b⟩ : Field).digestInput salt)))) := by
  refine ⟨fun name v hv => normalized_phonetic hv, fun name a b salt ha hb => ?_⟩
  have hbytes : (⟨name, .phonetic, a⟩ : Field).digestInput salt =
      (⟨name, .phonetic, b⟩ : Field).digestInput salt ↔ Phonetic.similar a b = true := by
    rw [@digestInput_eq_iff_of_name_eq ⟨name, .phonetic, a⟩ ⟨name, .phonetic, b⟩ salt rfl,
      normalized_phonetic ha, normalized_phonetic hb,
      Phonetic.similar, beq_iff_eq]
  refine ⟨hbytes, fun hsim => by rw [digest, hbytes.2 hsim, digest], fun hdigest => ?_⟩
  by_cases hsim : Phonetic.similar a b = true
  · exact .inl hsim
  · exact .inr ⟨mt hbytes.1 hsim, (digest_eq_iff _ _ salt).1 hdigest⟩

/-- `Robert` and ` rupert ` sound alike, so their phonetic fields share a digest. -/
theorem phonetic_digest_iff_similar_robert :
    (∀ c ∈ "Robert".toList, c ∉ Text.lowerChangesCapitals) ∧
      (∀ c ∈ " rupert ".toList, c ∉ Text.lowerChangesCapitals) ∧
      (⟨"surname", .phonetic, "Robert"⟩ : Field).digest "s" =
        (⟨"surname", .phonetic, " rupert "⟩ : Field).digest "s" := by
  have ha : ∀ c ∈ "Robert".toList, c ∉ Text.lowerChangesCapitals := by
    simp [Text.lowerChangesCapitals]
  have hb : ∀ c ∈ " rupert ".toList, c ∉ Text.lowerChangesCapitals := by
    simp [Text.lowerChangesCapitals]
  exact ⟨ha, hb, (phonetic_digest_iff_similar.2 _ _ _ "s" ha hb).2.1 (by decide +kernel)⟩

/-- The Kelvin sign, the capital `I` with dot above and the capital sharp `s` have no capitals
    in their upper case, so their code is empty; their lower case `k`, `i` with a combining dot
    and `ß` have, so a phonetic field holding one of them is normalized to a code. -/
theorem phonetic_lower_gains_code :
    (⟨"n", .phonetic, "K"⟩ : Field).normalized = "K000" ∧ Phonetic.encode "K" = "" ∧
    (⟨"n", .phonetic, "İ"⟩ : Field).normalized = "I000" ∧ Phonetic.encode "İ" = "" ∧
    (⟨"n", .phonetic, "ẞ"⟩ : Field).normalized = "S200" ∧ Phonetic.encode "ẞ" = "" := by
  decide +kernel

end Field

end RecordLinkage
