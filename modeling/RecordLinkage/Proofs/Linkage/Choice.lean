import RecordLinkage.Proofs.Binary64.Order
import RecordLinkage.Linkage.Service

/-! # Choosing the best candidate

`Scored.prefer` keeps the higher score, and of equal scores the lower index. On scores that are
not NaN at distinct indices it is commutative, associative and idempotent, and every bracketing
of a list in any order finds its one leader.
-/

namespace RecordLinkage

/-- A way to combine a non-empty sequence with a binary operation: one element, or the
    combination of two bracketed parts. -/
inductive Bracketing (α : Type) where
  | leaf (a : α)
  | node (left right : Bracketing α)

namespace Bracketing

variable {α : Type}

/-- The elements, left to right. -/
def leaves : Bracketing α → List α
  | leaf a => [a]
  | node l r => l.leaves ++ r.leaves

/-- Combine the elements along the bracketing. -/
def reduce (f : α → α → α) : Bracketing α → α
  | leaf a => a
  | node l r => f (l.reduce f) (r.reduce f)

theorem leaves_ne_nil (t : Bracketing α) : t.leaves ≠ [] := by
  cases t with
  | leaf a => simp [leaves]
  | node l r => simp [leaves, l.leaves_ne_nil]

end Bracketing

theorem reduceHalves_eq_reduce {α : Type} (f : α → α → α) (xs : List α) (h : xs ≠ []) :
    ∃ t : Bracketing α, t.leaves = xs ∧ reduceHalves f xs = some (t.reduce f) := by
  induction xs using reduceHalves.induct f with
  | case1 => exact absurd rfl h
  | case2 x => exact ⟨.leaf x, rfl, by simp [reduceHalves, Bracketing.reduce]⟩
  | case3 x y rest half a b hb ha ihl ihr =>
    obtain ⟨l, hl, hleft⟩ := ihl (by simp [half])
    obtain ⟨r, hr, hright⟩ := ihr (by simp [half]; omega)
    rw [ha, Option.some.injEq] at hleft
    rw [hb, Option.some.injEq] at hright
    subst hleft hright
    have htake : reduceHalves f ((x :: y :: rest).take ((rest.length + 2) / 2)) =
        some (l.reduce f) := ha
    have hdrop : reduceHalves f ((x :: y :: rest).drop ((rest.length + 2) / 2)) =
        some (r.reduce f) := hb
    refine ⟨.node l r, by simp [Bracketing.leaves, hl, hr], ?_⟩
    rw [reduceHalves, htake, hdrop]
    rfl
  | case4 x y rest half a hb ha ihl ihr =>
    obtain ⟨r, -, hright⟩ := ihr (by simp [half]; omega)
    simp [hb] at hright
  | case5 x y rest half ha ihl ihr =>
    obtain ⟨l, -, hleft⟩ := ihl (by simp [half])
    simp [ha] at hleft

theorem reduceHalves_nil {α : Type} (f : α → α → α) : reduceHalves f [] = none := by
  simp [reduceHalves]

namespace Scored

/-- `a` is ahead of `b`: a higher score, or an equal score at a lower index. -/
def Ahead (a b : Scored) : Prop :=
  b.similarity < a.similarity ∨ (a.similarity.eq b.similarity = true ∧ a.index < b.index)

instance (a b : Scored) : Decidable (a.Ahead b) :=
  inferInstanceAs (Decidable (_ ∨ _))

theorem prefer_of_ahead {a b : Scored} (h : b.Ahead a) : a.prefer b = b := by
  simp only [prefer, Bool.or_eq_true, Bool.and_eq_true, decide_eq_true_eq]
  exact if_pos h

theorem prefer_of_not_ahead {a b : Scored} (h : ¬b.Ahead a) : a.prefer b = a := by
  simp only [prefer, Bool.or_eq_true, Bool.and_eq_true, decide_eq_true_eq]
  exact if_neg h

theorem ahead_irrefl (a : Scored) : ¬a.Ahead a := by
  rintro (h | ⟨-, h⟩)
  · exact Binary64.lt_irrefl _ h
  · exact Nat.lt_irrefl _ h

theorem ahead_asymm {a b : Scored} (h : a.Ahead b) : ¬b.Ahead a := by
  rintro (h' | ⟨he', hi'⟩)
  · rcases h with h | ⟨he, -⟩
    · exact Binary64.lt_irrefl _ (Binary64.lt_trans h h')
    · exact Binary64.not_lt_of_eq he h'
  · rcases h with h | ⟨-, hi⟩
    · exact Binary64.not_lt_of_eq he' h
    · omega

theorem ahead_trans {a b c : Scored} (h₁ : a.Ahead b) (h₂ : b.Ahead c) : a.Ahead c := by
  rcases h₁ with h₁ | ⟨he₁, hi₁⟩ <;> rcases h₂ with h₂ | ⟨he₂, hi₂⟩
  · exact .inl (Binary64.lt_trans h₂ h₁)
  · exact .inl (Binary64.lt_of_eq_of_lt (Binary64.eq_symm he₂) h₁)
  · exact .inl (Binary64.lt_of_lt_of_eq h₂ (Binary64.eq_symm he₁))
  · exact .inr ⟨Binary64.eq_trans he₁ he₂, Nat.lt_trans hi₁ hi₂⟩

theorem ahead_total {a b : Scored} (ha : a.similarity.isNaN = false)
    (hb : b.similarity.isNaN = false) (hne : a.index ≠ b.index) : a.Ahead b ∨ b.Ahead a := by
  rcases Binary64.lt_or_eq_or_lt ha hb with h | h | h
  · exact .inr (.inl h)
  · rcases Nat.lt_or_gt_of_ne hne with hi | hi
    · exact .inl (.inr ⟨h, hi⟩)
    · exact .inr (.inr ⟨Binary64.eq_symm h, hi⟩)
  · exact .inl (.inl h)

/-- The scores are not NaN and no two candidates share an index. -/
def Ranked (xs : List Scored) : Prop :=
  (∀ x ∈ xs, x.similarity.isNaN = false) ∧ (xs.map index).Nodup

theorem Ranked.perm {xs ys : List Scored} (hp : xs.Perm ys) (h : Ranked xs) : Ranked ys :=
  ⟨fun x hx => h.1 x (hp.mem_iff.2 hx), (hp.map index).nodup_iff.1 h.2⟩

theorem Ranked.left {xs ys : List Scored} (h : Ranked (xs ++ ys)) : Ranked xs :=
  ⟨fun x hx => h.1 x (List.mem_append_left ys hx), (List.nodup_append.1 (by simpa using h.2)).1⟩

theorem Ranked.right {xs ys : List Scored} (h : Ranked (xs ++ ys)) : Ranked ys :=
  ⟨fun x hx => h.1 x (List.mem_append_right xs hx),
    (List.nodup_append.1 (by simpa using h.2)).2.1⟩

theorem Ranked.index_ne {xs ys : List Scored} (h : Ranked (xs ++ ys)) {a b : Scored}
    (ha : a ∈ xs) (hb : b ∈ ys) : a.index ≠ b.index :=
  (List.nodup_append.1 (by simpa using h.2)).2.2 _ (List.mem_map_of_mem ha) _
    (List.mem_map_of_mem hb)

/-- `w` is one of `xs` and ahead of every other. -/
def Leads (w : Scored) (xs : List Scored) : Prop :=
  w ∈ xs ∧ ∀ x ∈ xs, x ≠ w → w.Ahead x

theorem Leads.unique {v w : Scored} {xs : List Scored} (hv : Leads v xs) (hw : Leads w xs) :
    v = w := by
  by_contra hne
  exact ahead_asymm (hv.2 w hw.1 (Ne.symm hne)) (hw.2 v hv.1 hne)

theorem Leads.singleton (a : Scored) : Leads a [a] :=
  ⟨List.mem_singleton_self a, fun _ hx hne => absurd (List.mem_singleton.1 hx) hne⟩

theorem Leads.perm {w : Scored} {xs ys : List Scored} (hp : xs.Perm ys) (h : Leads w xs) :
    Leads w ys :=
  ⟨hp.mem_iff.1 h.1, fun x hx => h.2 x (hp.mem_iff.2 hx)⟩

theorem Leads.prefer {a b : Scored} {xs ys : List Scored} (hr : Ranked (xs ++ ys))
    (ha : Leads a xs) (hb : Leads b ys) : Leads (a.prefer b) (xs ++ ys) := by
  by_cases h : b.Ahead a
  · rw [prefer_of_ahead h]
    refine ⟨List.mem_append_right xs hb.1, fun x hx hne => ?_⟩
    rcases List.mem_append.1 hx with hx | hx
    · by_cases hxa : x = a
      · exact hxa ▸ h
      · exact ahead_trans h (ha.2 x hx hxa)
    · exact hb.2 x hx hne
  · rw [prefer_of_not_ahead h]
    have hab : a.Ahead b :=
      (ahead_total (hr.1 a (List.mem_append_left ys ha.1)) (hr.1 b (List.mem_append_right xs hb.1))
        (hr.index_ne ha.1 hb.1)).resolve_right h
    refine ⟨List.mem_append_left ys ha.1, fun x hx hne => ?_⟩
    rcases List.mem_append.1 hx with hx | hx
    · exact ha.2 x hx hne
    · by_cases hxb : x = b
      · exact hxb ▸ hab
      · exact ahead_trans hab (hb.2 x hx hxb)

theorem prefer_self (a : Scored) : a.prefer a = a :=
  prefer_of_not_ahead (ahead_irrefl a)

theorem prefer_comm {a b : Scored} (h : Ranked [a, b]) : a.prefer b = b.prefer a := by
  have hab : Leads (a.prefer b) ([a] ++ [b]) := Leads.prefer h (.singleton a) (.singleton b)
  have hba : Leads (b.prefer a) ([b] ++ [a]) :=
    Leads.prefer (h.perm (List.Perm.swap b a [])) (.singleton b) (.singleton a)
  exact hab.unique (hba.perm (List.Perm.swap a b []))

theorem prefer_assoc {a b c : Scored} (h : Ranked [a, b, c]) :
    (a.prefer b).prefer c = a.prefer (b.prefer c) := by
  have hab : Ranked ([a] ++ [b]) := @Ranked.left [a, b] [c] h
  have hbc : Ranked ([b] ++ [c]) := @Ranked.right [a] [b, c] h
  have hl : Leads ((a.prefer b).prefer c) ([a, b] ++ [c]) :=
    Leads.prefer h (Leads.prefer hab (.singleton a) (.singleton b)) (.singleton c)
  have hr : Leads (a.prefer (b.prefer c)) ([a] ++ [b, c]) :=
    Leads.prefer h (.singleton a) (Leads.prefer hbc (.singleton b) (.singleton c))
  exact hl.unique hr

/-- Any bracketing of candidates, combined by `prefer`, gives their leader. -/
theorem leads_reduce (t : Bracketing Scored) (hr : Ranked t.leaves) :
    Leads (t.reduce prefer) t.leaves := by
  induction t with
  | leaf a => exact .singleton a
  | node l r ihl ihr => exact Leads.prefer hr (ihl hr.left) (ihr hr.right)

theorem exists_leads {xs : List Scored} (hr : Ranked xs) (hne : xs ≠ []) : ∃ w, Leads w xs := by
  obtain ⟨t, hleaves, -⟩ := reduceHalves_eq_reduce prefer xs hne
  subst hleaves
  exact ⟨_, leads_reduce t hr⟩

/-- What a scan has found among the candidates `xs` that qualified: nothing when none did,
    and otherwise their leader. -/
def IsBest : Option Scored → List Scored → Prop
  | none, xs => xs = []
  | some w, xs => Leads w xs

@[simp] theorem isBest_none {xs : List Scored} : IsBest none xs ↔ xs = [] := Iff.rfl

@[simp] theorem isBest_some {w : Scored} {xs : List Scored} : IsBest (some w) xs ↔ Leads w xs :=
  Iff.rfl

theorem IsBest.unique {b c : Option Scored} {xs : List Scored} (hb : IsBest b xs)
    (hc : IsBest c xs) : b = c := by
  cases b with
  | none =>
    cases c with
    | none => rfl
    | some w => exact absurd (hb ▸ hc.1) List.not_mem_nil
  | some v =>
    cases c with
    | none => exact absurd (hc ▸ hb.1) List.not_mem_nil
    | some w => rw [Leads.unique hb hc]

theorem IsBest.perm {b : Option Scored} {xs ys : List Scored} (hp : xs.Perm ys)
    (h : IsBest b xs) : IsBest b ys := by
  cases b with
  | none => exact List.Perm.nil_eq (h ▸ hp) |>.symm
  | some w => exact Leads.perm hp h

theorem isNaN_of_qualifies {s : Scored} {threshold : Binary64}
    (h : s.qualifies threshold = true) : s.similarity.isNaN = false :=
  Binary64.isNaN_right_of_le h

theorem isBest_step {threshold : Binary64} {best : Option Scored} {xs : List Scored} (s : Scored)
    (h : IsBest best xs) (hr : Ranked (xs ++ [s].filter (·.qualifies threshold))) :
    IsBest (step threshold best s) (xs ++ [s].filter (·.qualifies threshold)) := by
  by_cases hq : s.qualifies threshold = true
  · have hs : [s].filter (·.qualifies threshold) = [s] := by simp [hq]
    rw [hs] at hr ⊢
    cases best with
    | none =>
      rw [show xs = [] from h]
      simpa [step, hq] using Leads.singleton s
    | some b => simpa [step, hq] using Leads.prefer hr h (.singleton s)
  · have hs : [s].filter (·.qualifies threshold) = [] := by simp [hq]
    rw [hs, List.append_nil, step_of_not_qualifies best (Bool.of_not_eq_true hq)]
    exact h

theorem isBest_foldl {threshold : Binary64} (candidates : List Scored) :
    ∀ {best : Option Scored} {xs : List Scored}, IsBest best xs →
      Ranked (xs ++ candidates.filter (·.qualifies threshold)) →
      IsBest (candidates.foldl (step threshold) best)
        (xs ++ candidates.filter (·.qualifies threshold)) := by
  induction candidates with
  | nil =>
    intro best xs h _
    simpa using h
  | cons s rest ih =>
    intro best xs h hr
    have hsplit : (s :: rest).filter (·.qualifies threshold) =
        [s].filter (·.qualifies threshold) ++ rest.filter (·.qualifies threshold) :=
      List.filter_append [s] rest
    rw [hsplit, ← List.append_assoc] at hr ⊢
    exact ih (isBest_step s h hr.left) hr

end Scored

end RecordLinkage
