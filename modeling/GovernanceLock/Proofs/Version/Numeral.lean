import GovernanceLock.Proofs.Version

/-!
This module contains the statement that a text is a version iff three decimal numerals below `2 ^ 64`
with points between them are left of it without the blanks around it, that a version is printed and
read back without loss, and that versions are compared by the numbers that they are written with.
-/

namespace GovernanceLock

namespace Version

/--
A run of ASCII digits, with any number of zeros in front, that denotes `n` in base ten.
-/
structure IsNumeral (digits : List Char) (n : Nat) : Prop where
  ne_nil : digits ≠ []
  digit : ∀ c ∈ digits, Text.isAsciiDigit c = true
  value : Nat.ofDigitChars 10 digits 0 = n

/--
Three numerals with single points between them, and nothing but blanks around the whole.
-/
def IsTriple (text : String) (x y z : Nat) : Prop :=
  ∃ a b c, Text.IsCore text.toList (a ++ '.' :: (b ++ '.' :: c)) ∧
    IsNumeral a x ∧ IsNumeral b y ∧ IsNumeral c z

theorem ofDigitChars_eq_digitsValue (digits : List Char) :
    Nat.ofDigitChars 10 digits 0 = Text.digitsValue digits := by
  rw [Nat.ofDigitChars_eq_foldl]
  unfold Text.digitsValue
  simp only [Nat.mul_comm]

variable {digits cs : List Char} {text : String} {v w : Version}

theorem IsNumeral.dot_notMem {n : Nat} (h : IsNumeral digits n) : '.' ∉ digits := by
  intro hdot
  exact absurd (h.digit '.' hdot) (by decide)

theorem component?_eq_some_iff {u : UInt64} :
    component? digits = some u ↔ IsNumeral digits u.toNat := by
  unfold component?
  dsimp only
  constructor
  · intro h
    split at h
    · cases h
    · next hdigits =>
      rw [not_or, List.isEmpty_iff, Decidable.not_not, List.all_eq_true] at hdigits
      split at h
      · next hsmall =>
        cases h
        refine ⟨hdigits.1, hdigits.2, ?_⟩
        rw [ofDigitChars_eq_digitsValue, UInt64.toNat_ofNat_of_lt' hsmall]
      · cases h
  · rintro ⟨hne, hdigit, hvalue⟩
    rw [ofDigitChars_eq_digitsValue] at hvalue
    rw [if_neg, hvalue, if_pos u.toNat_lt_size, UInt64.ofNat_toNat]
    rw [not_or, List.isEmpty_iff, Decidable.not_not, List.all_eq_true]
    exact ⟨hne, hdigit⟩

theorem ofParts?_eq_some_iff {parts : List (List Char)} :
    ofParts? parts = some v ↔ ∃ a b c, parts = [a, b, c] ∧ component? a = some v.major ∧
      component? b = some v.minor ∧ component? c = some v.patch := by
  cases v with
  | mk x y z =>
    unfold ofParts?
    split
    · next a b c =>
      simp only [Option.bind_eq_bind, Option.bind_eq_some_iff, Option.some.injEq, mk.injEq,
        List.cons.injEq, and_true]
      constructor
      · rintro ⟨_, ha, _, hb, _, hc, rfl, rfl, rfl⟩
        exact ⟨a, b, c, ⟨rfl, rfl, rfl⟩, ha, hb, hc⟩
      · rintro ⟨_, _, _, ⟨rfl, rfl, rfl⟩, ha, hb, hc⟩
        exact ⟨_, ha, _, hb, _, hc, rfl, rfl, rfl⟩
    · next h =>
      constructor
      · rintro ⟨⟩
      · rintro ⟨a, b, c, hparts, _⟩
        exact absurd hparts (h a b c)

theorem parts_eq_iff {a b c : List Char} (ha : '.' ∉ a) (hb : '.' ∉ b) (hc : '.' ∉ c) :
    Text.parts '.' cs = [a, b, c] ↔ cs = a ++ '.' :: (b ++ '.' :: c) := by
  constructor
  · intro h
    rw [← Text.join_parts '.' cs, h]
    simp [Text.join]
  · rintro rfl
    rw [Text.parts_append_cons ha, Text.parts_append_cons hb, Text.parts_of_not_mem hc]

theorem parse_eq_ok_iff_isTriple :
    parse text = .ok v ↔ IsTriple text v.major.toNat v.minor.toNat v.patch.toNat := by
  rw [parse_eq_ok_iff, ofParts?_eq_some_iff]
  unfold IsTriple
  simp only [component?_eq_some_iff, Text.isCore_iff]
  constructor
  · rintro ⟨a, b, c, hparts, ha, hb, hc⟩
    exact ⟨a, b, c, (parts_eq_iff ha.dot_notMem hb.dot_notMem hc.dot_notMem).1 hparts, ha, hb, hc⟩
  · rintro ⟨a, b, c, htrim, ha, hb, hc⟩
    exact ⟨a, b, c, (parts_eq_iff ha.dot_notMem hb.dot_notMem hc.dot_notMem).2 htrim, ha, hb, hc⟩

theorem exists_parse_iff : (∃ v, parse text = .ok v) ↔
    ∃ x y z, IsTriple text x y z ∧ x < UInt64.size ∧ y < UInt64.size ∧ z < UInt64.size := by
  simp only [parse_eq_ok_iff_isTriple]
  constructor
  · rintro ⟨v, hv⟩
    exact ⟨_, _, _, hv, v.major.toNat_lt_size, v.minor.toNat_lt_size, v.patch.toNat_lt_size⟩
  · rintro ⟨x, y, z, h, hx, hy, hz⟩
    refine ⟨⟨.ofNat x, .ofNat y, .ofNat z⟩, ?_⟩
    dsimp only
    rw [UInt64.toNat_ofNat_of_lt' hx, UInt64.toNat_ofNat_of_lt' hy, UInt64.toNat_ofNat_of_lt' hz]
    exact h

theorem parse_eq_empty_iff : parse text = .error .empty ↔ Text.IsCore text.toList [] := by
  rw [Text.isCore_iff]
  unfold parse
  dsimp only
  split
  · next h => simpa using h
  · next h =>
    rw [List.isEmpty_iff] at h
    split
    · simp [h]
    · simp [h]

theorem parse_eq_malformed_iff {t : String} : parse text = .error (.malformed t) ↔
    Text.IsCore text.toList t.toList ∧ t ≠ "" ∧ ∀ v, parse text ≠ .ok v := by
  rw [Text.isCore_iff]
  unfold parse
  dsimp only
  split
  · next h =>
    rw [List.isEmpty_iff] at h
    constructor
    · intro herror
      cases herror
    · rintro ⟨htrim, ht, _⟩
      rw [h, eq_comm, String.toList_eq_nil_iff] at htrim
      exact absurd htrim ht
  · next h =>
    rw [List.isEmpty_iff] at h
    split
    · simp
    · rw [Except.error.injEq, Error.malformed.injEq]
      constructor
      · rintro rfl
        rw [String.toList_ofList]
        refine ⟨rfl, ?_, by simp⟩
        simpa using h
      · rintro ⟨htrim, _, _⟩
        rw [htrim, String.ofList_toList]

theorem compare_eq_lt_iff : v.compare w = .lt ↔ v.numbers < w.numbers := by
  unfold compare numbers
  rw [compare_component, compare_component, compare_component]
  simp only [Ordering.then_eq_lt, Nat.compare_eq_lt, Nat.compare_eq_eq, Prod.Lex.toLex_lt_toLex]

theorem compare_eq_gt_iff : v.compare w = .gt ↔ w.numbers < v.numbers := by
  unfold compare numbers
  rw [compare_component, compare_component, compare_component]
  simp only [Ordering.then_eq_gt, Nat.compare_eq_gt, Nat.compare_eq_eq, Prod.Lex.toLex_lt_toLex,
    @eq_comm Nat]

theorem compare_eq_eq_iff : v.compare w = .eq ↔ v.numbers = w.numbers := by
  unfold compare numbers
  rw [compare_component, compare_component, compare_component]
  simp

/--
A text is parsed as a version iff it is a triple of numerals below `2 ^ 64`, the version has these
numbers, and a text that is none is refused as empty or with what is left of it without the blanks
around it. Printing loses nothing, and versions are compared by their numbers, the first that
differs deciding, so that a range contains what lies between its bounds or is one of them.
-/
theorem parse_exact :
    (∀ text (v : Version), parse text = .ok v ↔
      IsTriple text v.major.toNat v.minor.toNat v.patch.toNat) ∧
    (∀ text, (∃ v, parse text = .ok v) ↔
      ∃ x y z, IsTriple text x y z ∧ x < UInt64.size ∧ y < UInt64.size ∧ z < UInt64.size) ∧
    (∀ text, parse text = .error .empty ↔ Text.IsCore text.toList []) ∧
    (∀ text t, parse text = .error (.malformed t) ↔
      Text.IsCore text.toList t.toList ∧ t ≠ "" ∧ ∀ v, parse text ≠ .ok v) ∧
    (∀ v : Version, parse v.toString = .ok v) ∧
    (∀ v w : Version, v.toString = w.toString ↔ v = w) ∧
    (∀ v w : Version, (v.compare w = .lt ↔ v.numbers < w.numbers) ∧
      (v.compare w = .eq ↔ v.numbers = w.numbers) ∧
      (v.compare w = .gt ↔ w.numbers < v.numbers) ∧
      (v.numbers = w.numbers ↔ v = w)) ∧
    ∀ (r : CompatRange) (v : Version), r.contains v = true ↔
      r.engineMin.numbers ≤ v.numbers ∧ v.numbers ≤ r.engineMax.numbers :=
  ⟨fun _ _ => parse_eq_ok_iff_isTriple, fun _ => exists_parse_iff, fun _ => parse_eq_empty_iff,
    fun _ _ => parse_eq_malformed_iff, parse_toString, fun _ _ => toString_inj,
    fun _ _ => ⟨compare_eq_lt_iff, compare_eq_eq_iff, compare_eq_gt_iff, numbers_inj⟩,
    fun _ _ => CompatRange.contains_iff⟩

end Version

end GovernanceLock
