import GovernanceLock.Order.Ascending

/-!
This module contains the first member of a list with a property. In an ascending list it is the
least one.
-/

namespace GovernanceLock

/--
The text has the property, and no smaller one does.
-/
structure Least (P : String → Prop) (x : String) : Prop where
  holds : P x
  le : ∀ y, P y → x ≤ y

theorem Least.congr {P Q : String → Prop} {x : String} (h : Least P x) (hiff : ∀ y, P y ↔ Q y) :
    Least Q x where
  holds := (hiff x).1 h.holds
  le y hy := h.le y ((hiff y).2 hy)

theorem Least.unique {P : String → Prop} {x y : String} (hx : Least P x) (hy : Least P y) :
    x = y :=
  String.le_antisymm (hx.le y hy.holds) (hy.le x hx.holds)

/--
The member has the property, and none before it does.
-/
def IsFirst (P : α → Prop) (l : List α) (x : α) : Prop :=
  ∃ before after, l = before ++ x :: after ∧ P x ∧ ∀ y ∈ before, ¬ P y

namespace IsFirst

variable {P : α → Prop} {l : List α} {x a : α}

theorem head (h : P a) : IsFirst P (a :: l) a :=
  ⟨[], l, rfl, h, by simp⟩

theorem tail (ha : ¬ P a) (h : IsFirst P l x) : IsFirst P (a :: l) x := by
  rcases h with ⟨before, after, rfl, hx, hbefore⟩
  refine ⟨a :: before, after, rfl, hx, ?_⟩
  rw [List.forall_mem_cons]
  exact ⟨ha, hbefore⟩

theorem cons_iff : IsFirst P (a :: l) x ↔ P a ∧ x = a ∨ ¬ P a ∧ IsFirst P l x := by
  constructor
  · rintro ⟨before, after, heq, hx, hbefore⟩
    rcases List.cons_eq_append_iff.1 heq with ⟨rfl, heq⟩ | ⟨before, rfl, rfl⟩
    · cases heq
      exact .inl ⟨hx, rfl⟩
    · rw [List.forall_mem_cons] at hbefore
      exact .inr ⟨hbefore.1, before, after, rfl, hx, hbefore.2⟩
  · rintro (⟨ha, rfl⟩ | ⟨ha, h⟩)
    · exact .head ha
    · exact .tail ha h

theorem find?_eq_some_iff {p : α → Bool} : l.find? p = some x ↔ IsFirst (p · = true) l x := by
  rw [List.find?_eq_some_iff_append]
  unfold IsFirst
  simp only [Bool.not_eq_true', Bool.not_eq_true]
  constructor
  · rintro ⟨hx, before, after, hsplit, hbefore⟩
    exact ⟨before, after, hsplit, hx, hbefore⟩
  · rintro ⟨before, after, hsplit, hx, hbefore⟩
    exact ⟨hx, before, after, hsplit, hbefore⟩

theorem mem (h : IsFirst P l x) : x ∈ l := by
  rcases h with ⟨before, after, rfl, _, _⟩
  simp

theorem holds (h : IsFirst P l x) : P x := by
  rcases h with ⟨_, _, _, hx, _⟩
  exact hx

theorem exists_iff : (∃ x, IsFirst P l x) ↔ ∃ x ∈ l, P x := by
  constructor
  · rintro ⟨x, h⟩
    exact ⟨x, h.mem, h.holds⟩
  · rintro ⟨x, hx, hPx⟩
    induction l with
    | nil => cases hx
    | cons a l ih =>
      by_cases ha : P a
      · exact ⟨a, .head ha⟩
      · rcases List.mem_cons.1 hx with rfl | hx
        · exact absurd hPx ha
        · rcases ih hx with ⟨y, hy⟩
          exact ⟨y, hy.tail ha⟩

theorem congr {Q : α → Prop} (h : IsFirst P l x) (hiff : ∀ y ∈ l, P y ↔ Q y) :
    IsFirst Q l x := by
  rcases h with ⟨before, after, rfl, hx, hbefore⟩
  refine ⟨before, after, rfl, (hiff x (by simp)).1 hx, ?_⟩
  intro y hy
  rw [← hiff y (by simp [hy])]
  exact hbefore y hy

theorem le_of_key {key : α → String} (h : IsFirst P l x) (hl : l.Pairwise (key · < key ·)) {y : α}
    (hy : y ∈ l) (hPy : P y) : key x ≤ key y := by
  rcases h with ⟨before, after, rfl, _, hbefore⟩
  rcases List.mem_append.1 hy with hy | hy
  · exact absurd hPy (hbefore y hy)
  · rcases List.mem_cons.1 hy with rfl | hy
    · exact String.le_refl _
    · have hlt := (List.pairwise_cons.1 (List.pairwise_append.1 hl).2.1).1 y hy
      exact String.not_lt.1 (String.lt_asymm hlt)

theorem least {P : String → Prop} {l : List String} {x : String} (h : IsFirst P l x)
    (hl : Ascending l) : Least (fun y => y ∈ l ∧ P y) x where
  holds := ⟨h.mem, h.holds⟩
  le _ hy := h.le_of_key hl hy.1 hy.2

end IsFirst

/--
The member stands in the relation to `y`, and none before it does to anything.
-/
def FirstWith (R : α → β → Prop) (l : List α) (x : α) (y : β) : Prop :=
  IsFirst (fun a => ∃ b, R a b) l x ∧ R x y

namespace FirstWith

variable {R : α → β → Prop} {l : List α} {x a : α} {y : β}

theorem cons_iff :
    FirstWith R (a :: l) x y ↔ R a y ∧ x = a ∨ (∀ b, ¬ R a b) ∧ FirstWith R l x y := by
  unfold FirstWith
  rw [IsFirst.cons_iff, not_exists]
  constructor
  · rintro ⟨⟨_, rfl⟩ | ⟨ha, hx⟩, hy⟩
    · exact .inl ⟨hy, rfl⟩
    · exact .inr ⟨ha, hx, hy⟩
  · rintro (⟨hy, rfl⟩ | ⟨ha, hx, hy⟩)
    · exact ⟨.inl ⟨⟨y, hy⟩, rfl⟩, hy⟩
    · exact ⟨.inr ⟨ha, hx⟩, hy⟩

theorem not_nil : ¬ FirstWith R [] x y := by
  intro h
  exact List.not_mem_nil h.1.mem

theorem exists_iff : (∃ x y, FirstWith R l x y) ↔ ∃ x ∈ l, ∃ y, R x y := by
  rw [← IsFirst.exists_iff]
  constructor
  · rintro ⟨x, _, h, _⟩
    exact ⟨x, h⟩
  · rintro ⟨x, h⟩
    rcases h.holds with ⟨y, hy⟩
    exact ⟨x, y, h, hy⟩

end FirstWith

theorem Ascending.find?_eq_some_iff {l : List String} (hl : Ascending l) {p : String → Bool}
    {x : String} : l.find? p = some x ↔ Least (fun y => y ∈ l ∧ p y = true) x := by
  constructor
  · intro h
    exact (IsFirst.find?_eq_some_iff.1 h).least hl
  · intro h
    cases hfind : l.find? p with
    | none => exact absurd h.holds.2 (List.find?_eq_none.1 hfind x h.holds.1)
    | some y => rw [h.unique ((IsFirst.find?_eq_some_iff.1 hfind).least hl)]

theorem Ascending.mem_before_iff {before after : List String} {x y : String}
    (h : Ascending (before ++ x :: after)) :
    y ∈ before ↔ y ∈ before ++ x :: after ∧ y < x := by
  have hsplit := List.pairwise_append.1 h
  constructor
  · intro hy
    exact ⟨List.mem_append_left _ hy, hsplit.2.2 y hy x List.mem_cons_self⟩
  · rintro ⟨hy, hlt⟩
    rcases List.mem_append.1 hy with hy | hy
    · exact hy
    · rcases List.mem_cons.1 hy with rfl | hy
      · exact absurd hlt (String.lt_irrefl _)
      · exact absurd hlt (String.lt_asymm ((List.pairwise_cons.1 hsplit.2.1).1 y hy))

end GovernanceLock
