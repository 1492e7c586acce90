/-!
This module contains finite maps with text keys, kept in ascending key order. `KeyMap.ext_get?` says
that a map is determined by what it answers, and `get?_insert` and `get?_ofList_eq_some_iff` say
what the operations do to the answers.
-/

namespace GovernanceLock

/--
A list of keyed values, in strictly ascending order of the keys.
-/
structure KeyMap (α : Type u) where
  entries : List (String × α)
  ascending : entries.Pairwise (fun a b => a.1 < b.1)

namespace KeyMap

variable {α : Type u} {β : Type v}

def lookup (key : String) : List (String × α) → Option α
  | [] => none
  | (k, v) :: rest => if key = k then some v else lookup key rest

def put (key : String) (value : α) : List (String × α) → List (String × α)
  | [] => [(key, value)]
  | (k, v) :: rest =>
    if key < k then (key, value) :: (k, v) :: rest
    else if key = k then (key, value) :: rest
    else (k, v) :: put key value rest

theorem lookup_put {key k : String} {value : α} {l : List (String × α)} :
    lookup k (put key value l) = if k = key then some value else lookup k l := by
  induction l with
  | nil => simp [put, lookup]
  | cons e rest ih =>
    obtain ⟨k', v⟩ := e
    rw [put]
    split
    · rw [lookup]
    · split
      · next h => subst h; simp only [lookup]; split <;> rfl
      · next hne =>
        simp only [lookup, ih]
        split
        · next h => subst h; rw [if_neg (fun h => hne h.symm)]
        · rfl

theorem mem_keys_put {key k : String} {value : α} {l : List (String × α)} :
    k ∈ (put key value l).map (·.1) ↔ k = key ∨ k ∈ l.map (·.1) := by
  induction l with
  | nil => simp [put]
  | cons e rest ih =>
    obtain ⟨k', v⟩ := e
    rw [put]
    split
    · simp
    · split
      · next h => subst h; simp
      · simp only [List.map_cons, List.mem_cons, ih]; grind

theorem put_ascending {key : String} {value : α} {l : List (String × α)}
    (h : l.Pairwise (fun a b => a.1 < b.1)) :
    (put key value l).Pairwise (fun a b => a.1 < b.1) := by
  induction l with
  | nil => simp [put]
  | cons e rest ih =>
    obtain ⟨k, v⟩ := e
    have hk := List.pairwise_cons.1 h
    rw [put]
    split
    · next hlt =>
      refine List.pairwise_cons.2 ⟨fun z hz => ?_, h⟩
      rcases List.mem_cons.1 hz with rfl | hz
      · exact hlt
      · exact String.lt_trans hlt (hk.1 z hz)
    · split
      · next heq => subst heq; exact List.pairwise_cons.2 ⟨hk.1, hk.2⟩
      · next hlt hne =>
        refine List.pairwise_cons.2 ⟨fun z hz => ?_, ih hk.2⟩
        have hz' : z.1 ∈ (put key value rest).map (·.1) := List.mem_map_of_mem hz
        rcases mem_keys_put.1 hz' with hz' | hz'
        · rw [hz']
          exact Decidable.byContradiction fun hlt' =>
            hne (String.le_antisymm (String.not_lt.1 hlt') (String.not_lt.1 hlt))
        · obtain ⟨w, hw, hwz⟩ := List.mem_map.1 hz'
          rw [← hwz]
          exact hk.1 w hw

def empty : KeyMap α := ⟨[], .nil⟩

instance : EmptyCollection (KeyMap α) := ⟨empty⟩

instance : Inhabited (KeyMap α) := ⟨empty⟩

def get? (m : KeyMap α) (key : String) : Option α :=
  lookup key m.entries

def insert (m : KeyMap α) (key : String) (value : α) : KeyMap α :=
  ⟨put key value m.entries, put_ascending m.ascending⟩

def keys (m : KeyMap α) : List String :=
  m.entries.map (·.1)

/--
The map of a list of keyed values, in which a later value replaces an earlier one.
-/
def ofList (l : List (String × α)) : KeyMap α :=
  l.foldl (fun m e => m.insert e.1 e.2) empty

def contains (m : KeyMap α) (key : String) : Bool :=
  (m.get? key).isSome

@[simp]
theorem get?_empty (key : String) : (empty : KeyMap α).get? key = none := rfl

theorem get?_insert (m : KeyMap α) (key k : String) (value : α) :
    (m.insert key value).get? k = if k = key then some value else m.get? k :=
  lookup_put

theorem mem_keys_insert {m : KeyMap α} {key k : String} {value : α} :
    k ∈ (m.insert key value).keys ↔ k = key ∨ k ∈ m.keys :=
  mem_keys_put

theorem keys_ascending (m : KeyMap α) : m.keys.Pairwise (· < ·) :=
  List.pairwise_map.2 m.ascending

theorem lookup_eq_none_iff {key : String} {l : List (String × α)} :
    lookup key l = none ↔ key ∉ l.map (·.1) := by
  induction l with
  | nil => simp [lookup]
  | cons e rest ih =>
    obtain ⟨k, v⟩ := e
    rw [lookup]
    split
    · next h => simp [h]
    · next h => simp [h, ih]

theorem mem_keys_iff {m : KeyMap α} {key : String} :
    key ∈ m.keys ↔ (m.get? key).isSome = true := by
  rw [← Decidable.not_iff_not, Bool.not_eq_true, Option.isSome_eq_false_iff,
    Option.isNone_iff_eq_none, get?, lookup_eq_none_iff, keys]

theorem contains_iff {m : KeyMap α} {key : String} :
    m.contains key = true ↔ ∃ value, m.get? key = some value := by
  unfold contains
  rw [Option.isSome_iff_exists]

theorem contains_eq_false_iff {m : KeyMap α} {key : String} :
    m.contains key = false ↔ m.get? key = none := by
  unfold contains
  simp

theorem lookup_map {f : α → β} {key : String} {l : List (String × α)} :
    lookup key (l.map fun e => (e.1, f e.2)) = (lookup key l).map f := by
  induction l with
  | nil => rfl
  | cons e l ih =>
    rw [List.map_cons, lookup, lookup, ih]
    split
    · rfl
    · rfl

theorem mem_of_lookup {key : String} {value : α} {l : List (String × α)}
    (h : lookup key l = some value) : (key, value) ∈ l := by
  induction l with
  | nil => simp [lookup] at h
  | cons e rest ih =>
    obtain ⟨k, v⟩ := e
    rw [lookup] at h
    split at h
    · next hk => simp_all
    · exact List.mem_cons_of_mem _ (ih h)

theorem mem_entries_iff {m : KeyMap α} {key : String} {value : α} :
    (key, value) ∈ m.entries ↔ m.get? key = some value := by
  refine ⟨fun h => ?_, mem_of_lookup⟩
  obtain ⟨l, hl⟩ := m
  simp only [get?] at h ⊢
  induction l with
  | nil => simp at h
  | cons e rest ih =>
    obtain ⟨k, v⟩ := e
    have hk := List.pairwise_cons.1 hl
    rw [lookup]
    rcases List.mem_cons.1 h with h | h
    · cases h; simp
    · have : k < key := hk.1 _ h
      rw [if_neg (fun h' : key = k => String.lt_irrefl k (h' ▸ this))]
      exact ih hk.2 h

theorem mem_put {key : String} {value : α} {l : List (String × α)} {e : String × α}
    (h : e ∈ put key value l) : e = (key, value) ∨ e ∈ l := by
  induction l with
  | nil => simpa [put] using h
  | cons a rest ih =>
    rw [put] at h
    split at h
    · exact List.mem_cons.1 h
    · split at h
      · rcases List.mem_cons.1 h with h | h
        · exact .inl h
        · exact .inr (List.mem_cons_of_mem _ h)
      · rcases List.mem_cons.1 h with h | h
        · exact .inr (h ▸ List.mem_cons_self ..)
        · exact (ih h).imp_right (List.mem_cons_of_mem _)

theorem mem_of_mem_entries_ofList {l : List (String × α)} {e : String × α}
    (h : e ∈ (ofList l).entries) : e ∈ l := by
  have hfold : ∀ m : KeyMap α, e ∈ (l.foldl (fun m e => m.insert e.1 e.2) m).entries →
      e ∈ m.entries ∨ e ∈ l := by
    clear h
    induction l with
    | nil => exact fun m h => .inl h
    | cons a l ih =>
      intro m h
      rcases ih (m.insert a.1 a.2) h with h | h
      · rcases mem_put h with h | h
        · exact .inr (h ▸ List.mem_cons_self ..)
        · exact .inl h
      · exact .inr (List.mem_cons_of_mem _ h)
  exact (hfold empty h).resolve_left List.not_mem_nil

theorem mem_keys_ofList {l : List (String × α)} {key : String} :
    key ∈ (ofList l).keys ↔ key ∈ l.map (·.1) := by
  have hfold : ∀ m : KeyMap α, key ∈ (l.foldl (fun m e => m.insert e.1 e.2) m).keys ↔
      key ∈ l.map (·.1) ∨ key ∈ m.keys := by
    induction l with
    | nil => simp
    | cons e l ih =>
      intro m
      rw [List.foldl_cons, ih, mem_keys_insert, List.map_cons, List.mem_cons, or_left_comm,
        or_assoc]
  have := hfold empty
  simpa [ofList, keys, empty] using this

theorem get?_ofList_eq_some_iff {l : List (String × α)}
    (h : ∀ key value value', (key, value) ∈ l → (key, value') ∈ l → value = value')
    {key : String} {value : α} : (ofList l).get? key = some value ↔ (key, value) ∈ l := by
  constructor
  · intro hget
    exact mem_of_mem_entries_ofList (mem_entries_iff.2 hget)
  · intro hmem
    have hkey : key ∈ (ofList l).keys := mem_keys_ofList.2 (List.mem_map_of_mem hmem)
    rw [mem_keys_iff, Option.isSome_iff_exists] at hkey
    rcases hkey with ⟨value', hget⟩
    rw [hget, h key value value' hmem (mem_of_mem_entries_ofList (mem_entries_iff.2 hget))]

theorem put_eq_append {key : String} {value : α} {l : List (String × α)}
    (h : ∀ e ∈ l, e.1 < key) : put key value l = l ++ [(key, value)] := by
  induction l with
  | nil => rfl
  | cons e rest ih =>
    obtain ⟨k, v⟩ := e
    rw [List.forall_mem_cons] at h
    rw [put, if_neg, if_neg, ih h.2, List.cons_append]
    · intro heq
      exact String.lt_irrefl k (heq ▸ h.1)
    · intro hlt
      exact String.lt_irrefl k (String.lt_trans h.1 hlt)

theorem entries_foldl_insert {l : List (String × α)} {m : KeyMap α}
    (h : (m.entries ++ l).Pairwise fun a b => a.1 < b.1) :
    (l.foldl (fun m e => m.insert e.1 e.2) m).entries = m.entries ++ l := by
  induction l generalizing m with
  | nil => simp
  | cons e l ih =>
    have hput : (m.insert e.1 e.2).entries = m.entries ++ [e] :=
      put_eq_append fun a ha => (List.pairwise_append.1 h).2.2 a ha e (List.mem_cons_self ..)
    rw [List.foldl_cons, ih]
    · rw [hput, List.append_assoc, List.singleton_append]
    · rw [hput, List.append_assoc, List.singleton_append]
      exact h

theorem entries_ofList {l : List (String × α)} (h : l.Pairwise fun a b => a.1 < b.1) :
    (ofList l).entries = l :=
  entries_foldl_insert h

theorem ext_get? {m n : KeyMap α} (h : ∀ k, m.get? k = n.get? k) : m = n := by
  obtain ⟨l, hl⟩ := m
  obtain ⟨r, hr⟩ := n
  have key : l = r := by
    simp only [get?] at h
    induction l generalizing r with
    | nil =>
      cases r with
      | nil => rfl
      | cons e rest => have := h e.1; simp [lookup] at this
    | cons e rest ih =>
      cases r with
      | nil => have := h e.1; simp [lookup] at this
      | cons e' rest' =>
        obtain ⟨k, v⟩ := e
        obtain ⟨k', v'⟩ := e'
        have hk := List.pairwise_cons.1 hl
        have hk' := List.pairwise_cons.1 hr
        have hkk : k = k' := by
          have h1 := h k
          have h2 := h k'
          simp only [lookup, if_true] at h1 h2
          rcases Decidable.em (k = k') with e | hne
          · exact e
          · rw [if_neg hne] at h1
            rw [if_neg (fun e => hne e.symm)] at h2
            have a := hk'.1 _ (mem_of_lookup h1.symm)
            have b := hk.1 _ (mem_of_lookup h2)
            exact absurd (String.lt_trans a b) (String.lt_irrefl _)
        subst hkk
        have hv := h k
        simp only [lookup, if_true, Option.some.injEq] at hv
        subst hv
        refine congrArg _ (ih hk.2 rest' hk'.2 fun x => ?_)
        have hx := h x
        simp only [lookup] at hx
        split at hx
        · next e =>
          subst e
          rw [lookup_eq_none_iff.2 ?_, lookup_eq_none_iff.2 ?_]
          · intro hm
            obtain ⟨w, hw, hwx⟩ := List.mem_map.1 hm
            exact String.lt_irrefl x (hwx ▸ hk'.1 w hw)
          · intro hm
            obtain ⟨w, hw, hwx⟩ := List.mem_map.1 hm
            exact String.lt_irrefl x (hwx ▸ hk.1 w hw)
        · exact hx
  subst key
  rfl

end KeyMap

end GovernanceLock
