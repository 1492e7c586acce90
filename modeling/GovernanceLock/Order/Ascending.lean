/-!
This module contains ascending lists of texts: lists in strictly increasing code point order, which
stand for finite sets. `ofList` is the one ascending list with the members of a given list.
-/

namespace GovernanceLock

/--
Strictly increasing by code point, hence without repeats.
-/
def Ascending (l : List String) : Prop :=
  l.Pairwise (· < ·)

instance (l : List String) : Decidable (Ascending l) :=
  inferInstanceAs (Decidable (l.Pairwise (· < ·)))

namespace Ascending

def insert (x : String) : List String → List String
  | [] => [x]
  | y :: ys => if x < y then x :: y :: ys else if x = y then y :: ys else y :: insert x ys

def ofList (l : List String) : List String :=
  l.foldr insert []

@[simp]
theorem mem_insert {a x : String} {l : List String} : a ∈ insert x l ↔ a = x ∨ a ∈ l := by
  induction l with
  | nil => simp [insert]
  | cons y ys ih =>
    rw [insert]
    split
    · simp
    · split
      · next h => subst h; simp
      · simp only [List.mem_cons, ih]; grind

theorem insert_ascending {x : String} {l : List String} (h : Ascending l) :
    Ascending (insert x l) := by
  induction l with
  | nil => simp [insert, Ascending]
  | cons y ys ih =>
    have hy := List.pairwise_cons.1 h
    rw [insert]
    split
    · next hxy =>
      refine List.pairwise_cons.2 ⟨fun z hz => ?_, h⟩
      rcases List.mem_cons.1 hz with rfl | hz
      · exact hxy
      · exact String.lt_trans hxy (hy.1 z hz)
    · split
      · exact h
      · next hxy hne =>
        refine List.pairwise_cons.2 ⟨fun z hz => ?_, ih hy.2⟩
        rcases mem_insert.1 hz with rfl | hz
        · exact Decidable.byContradiction fun hlt =>
            hne (String.le_antisymm (String.not_lt.1 hlt) (String.not_lt.1 hxy))
        · exact hy.1 z hz

@[simp]
theorem mem_ofList {a : String} {l : List String} : a ∈ ofList l ↔ a ∈ l := by
  induction l with
  | nil => simp [ofList]
  | cons x xs ih =>
    rw [ofList, List.foldr_cons, mem_insert, ← ofList, ih, List.mem_cons]

theorem ofList_ascending (l : List String) : Ascending (ofList l) := by
  induction l with
  | nil => simp [ofList, Ascending]
  | cons x xs ih => exact insert_ascending ih

theorem eq_of_mem_iff {l k : List String} (hl : Ascending l) (hk : Ascending k)
    (h : ∀ a, a ∈ l ↔ a ∈ k) : l = k := by
  induction l generalizing k with
  | nil =>
    cases k with
    | nil => rfl
    | cons y ys => exact absurd ((h y).2 (List.mem_cons_self ..)) List.not_mem_nil
  | cons x xs ih =>
    cases k with
    | nil => exact absurd ((h x).1 (List.mem_cons_self ..)) List.not_mem_nil
    | cons y ys =>
      have hx := List.pairwise_cons.1 hl
      have hy := List.pairwise_cons.1 hk
      have hxy : x = y := by
        rcases List.mem_cons.1 ((h x).1 (List.mem_cons_self ..)) with e | hxs
        · exact e
        · rcases List.mem_cons.1 ((h y).2 (List.mem_cons_self ..)) with e | hys
          · exact e.symm
          · exact absurd (String.lt_trans (hx.1 y hys) (hy.1 x hxs)) (String.lt_irrefl x)
      subst hxy
      refine congrArg (x :: ·) (ih hx.2 hy.2 fun a => ⟨fun ha => ?_, fun ha => ?_⟩)
      · rcases List.mem_cons.1 ((h a).1 (List.mem_cons_of_mem _ ha)) with rfl | h'
        · exact absurd (hx.1 a ha) (String.lt_irrefl a)
        · exact h'
      · rcases List.mem_cons.1 ((h a).2 (List.mem_cons_of_mem _ ha)) with rfl | h'
        · exact absurd (hy.1 a ha) (String.lt_irrefl a)
        · exact h'

theorem nodup {l : List String} (h : Ascending l) : l.Nodup := by
  apply List.Pairwise.imp _ h
  intro a b hlt heq
  rw [heq] at hlt
  exact String.lt_irrefl b hlt

theorem head_le {x a : String} {l : List String} (h : Ascending (x :: l)) (ha : a ∈ x :: l) :
    x ≤ a := by
  rcases List.mem_cons.1 ha with rfl | ha
  · exact String.le_refl _
  · exact String.not_lt.1 (String.lt_asymm ((List.pairwise_cons.1 h).1 a ha))

theorem mem_tail_iff {x a : String} {l : List String} (h : Ascending (x :: l)) :
    a ∈ l ↔ a ∈ x :: l ∧ a ≠ x := by
  constructor
  · intro ha
    refine ⟨List.mem_cons_of_mem _ ha, ?_⟩
    intro heq
    exact String.lt_irrefl _ (heq ▸ (List.pairwise_cons.1 h).1 a ha)
  · rintro ⟨ha, hne⟩
    exact (List.mem_cons.1 ha).resolve_left hne

theorem mem_foldr_insert {a : String} {l rest : List String} :
    a ∈ l.foldr insert rest ↔ a ∈ l ∨ a ∈ rest := by
  induction l with
  | nil => simp
  | cons x l ih => rw [List.foldr_cons, mem_insert, ih, List.mem_cons, or_assoc]

theorem foldr_insert_ascending {l rest : List String} (h : Ascending rest) :
    Ascending (l.foldr insert rest) := by
  induction l with
  | nil => exact h
  | cons x l ih => exact insert_ascending ih

theorem ofList_eq_self {l : List String} (h : Ascending l) : ofList l = l :=
  eq_of_mem_iff (ofList_ascending l) h fun _ => mem_ofList

end Ascending

end GovernanceLock
