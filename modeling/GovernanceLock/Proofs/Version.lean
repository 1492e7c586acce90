import GovernanceLock.Proofs.Except
import GovernanceLock.Proofs.Text.Digits
import GovernanceLock.Proofs.Text.Padding
import GovernanceLock.Version
import Mathlib.Data.List.Forall2
import Mathlib.Data.Prod.Lex

/-!
This module contains the proofs that the printed text of a version is parsed as that version, that
blanks around a version and zeros in front of its components make no difference, and that versions
are compared as the triples of their numbers.
-/

namespace GovernanceLock

namespace Version

theorem component?_toDigits (u : UInt64) : component? (Nat.toDigits 10 u.toNat) = some u := by
  have hall : (Nat.toDigits 10 u.toNat).all Text.isAsciiDigit = true := by
    rw [List.all_eq_true]
    exact fun c hc => Text.isAsciiDigit_of_mem_toDigits hc
  unfold component?
  rw [if_neg]
  · simp only [Text.digitsValue_toDigits]
    rw [if_pos u.toNat_lt_size, UInt64.ofNat_toNat]
  · simp [hall, Nat.toDigits_ne_nil]

theorem toList_toString (v : Version) :
    v.toString.toList = Nat.toDigits 10 v.major.toNat ++ '.' :: (Nat.toDigits 10 v.minor.toNat
      ++ '.' :: Nat.toDigits 10 v.patch.toNat) := by
  unfold toString
  simp [Nat.toList_repr]

theorem dot_notMem_toDigits (n : Nat) : '.' ∉ Nat.toDigits 10 n := by
  intro h
  have := Text.isAsciiDigit_of_mem_toDigits h
  revert this
  decide

theorem trim_toString (v : Version) : Text.trim v.toString.toList = v.toString.toList := by
  apply Text.trim_eq_self
  intro c hc
  rw [toList_toString] at hc
  simp only [List.mem_append, List.mem_cons] at hc
  rcases hc with hc | rfl | hc | rfl | hc
  · exact Text.isBlank_of_mem_toDigits hc
  · decide
  · exact Text.isBlank_of_mem_toDigits hc
  · decide
  · exact Text.isBlank_of_mem_toDigits hc

theorem parts_toString (v : Version) :
    Text.parts '.' v.toString.toList = [Nat.toDigits 10 v.major.toNat,
      Nat.toDigits 10 v.minor.toNat, Nat.toDigits 10 v.patch.toNat] := by
  rw [toList_toString, Text.parts_append_cons (dot_notMem_toDigits _),
    Text.parts_append_cons (dot_notMem_toDigits _), Text.parts_of_not_mem (dot_notMem_toDigits _)]

theorem parse_toString (v : Version) : parse v.toString = .ok v := by
  have hne : v.toString.toList.isEmpty = false := by
    rw [toList_toString]
    simp
  unfold parse
  simp only [trim_toString, parts_toString, hne, ofParts?, component?_toDigits]
  rfl

theorem toString_inj {v w : Version} : v.toString = w.toString ↔ v = w := by
  constructor
  · intro h
    have hv := parse_toString v
    rw [h, parse_toString w] at hv
    exact (Except.ok.inj hv).symm
  · rintro rfl
    rfl

theorem parse_trimmed (text : String) : parse (Text.trimmed text) = parse text := by
  unfold parse Text.trimmed
  rw [String.toList_ofList, Text.trim_trim]

theorem parse_eq_ok_iff {text : String} {v : Version} :
    parse text = .ok v ↔ ofParts? (Text.parts '.' (Text.trim text.toList)) = some v := by
  unfold parse
  dsimp only
  split
  · next h =>
    -- A blank text has a single component, so there is no version in it either.
    rw [List.isEmpty_iff] at h
    simp [h, Text.parts, ofParts?]
  · split
    · next h => simp [h]
    · next h => simp [h]

/--
The same characters, except for zeros in front of a first digit.
-/
inductive SameComponent : List Char → List Char → Prop where
  | same (cs : List Char) : SameComponent cs cs
  | zeros {digit : Char} (h : Text.isAsciiDigit digit = true) (m n : Nat) (rest : List Char) :
    SameComponent (List.replicate m '0' ++ digit :: rest) (List.replicate n '0' ++ digit :: rest)

/--
The same components, except for zeros in front of them and for blanks around the whole.
-/
def Respelled (s t : String) : Prop :=
  ∃ c d, Text.IsCore s.toList c ∧ Text.IsCore t.toList d ∧
    List.Forall₂ SameComponent (Text.parts '.' c) (Text.parts '.' d)

theorem digitsValue_replicate_append (n : Nat) (digits : List Char) :
    Text.digitsValue (List.replicate n '0' ++ digits) = Text.digitsValue digits := by
  induction n with
  | zero => rfl
  | succ n ih =>
    rw [← ih]
    rfl

theorem component?_replicate_append {digit : Char} (n : Nat) (rest : List Char) :
    component? (List.replicate n '0' ++ digit :: rest) = component? (digit :: rest) := by
  have hzeros : (List.replicate n '0').all Text.isAsciiDigit = true := by
    rw [List.all_replicate]
    split
    · rfl
    · rfl
  unfold component?
  rw [List.all_append, hzeros, digitsValue_replicate_append]
  simp

theorem SameComponent.component?_eq {c d : List Char} (h : SameComponent c d) :
    component? c = component? d := by
  cases h with
  | same => rfl
  | zeros _ m n rest => rw [component?_replicate_append, component?_replicate_append]

theorem SameComponent.symm {c d : List Char} (h : SameComponent c d) : SameComponent d c := by
  cases h with
  | same => exact .same c
  | zeros hdigit m n rest => exact .zeros hdigit n m rest

theorem ofParts?_congr {l k : List (List Char)} (h : List.Forall₂ SameComponent l k) :
    ofParts? l = ofParts? k := by
  match h with
  | .nil => rfl
  | .cons _ .nil => rfl
  | .cons _ (.cons _ .nil) => rfl
  | .cons ha (.cons hb (.cons hc .nil)) =>
    simp only [ofParts?, ha.component?_eq, hb.component?_eq, hc.component?_eq]
  | .cons _ (.cons _ (.cons _ (.cons _ _))) => rfl

theorem Respelled.parse_eq_ok_iff {s t : String} (h : Respelled s t) {v : Version} :
    parse s = .ok v ↔ parse t = .ok v := by
  rcases h with ⟨c, d, hs, ht, hparts⟩
  rw [Version.parse_eq_ok_iff, Version.parse_eq_ok_iff, hs.trim_eq, ht.trim_eq,
    ofParts?_congr hparts]

theorem Respelled.symm {s t : String} (h : Respelled s t) : Respelled t s := by
  rcases h with ⟨c, d, hs, ht, hparts⟩
  exact ⟨d, c, ht, hs, hparts.flip.imp fun _ _ hcd => hcd.symm⟩

def numbers (v : Version) : Nat ×ₗ Nat ×ₗ Nat :=
  toLex (v.major.toNat, toLex (v.minor.toNat, v.patch.toNat))

theorem numbers_inj {v w : Version} : v.numbers = w.numbers ↔ v = w := by
  cases v
  cases w
  simp [numbers, UInt64.toNat_inj]

theorem compare_component (a b : UInt64) : Ord.compare a b = Ord.compare a.toNat b.toNat := by
  simp only [Ord.compare, compareOfLessAndEq, UInt64.lt_iff_toNat_lt, ← UInt64.toNat_inj]

theorem isLE_compare_iff {v w : Version} :
    (v.compare w).isLE = true ↔ v.numbers ≤ w.numbers := by
  unfold compare numbers
  rw [compare_component, compare_component, compare_component]
  simp only [Ordering.isLE_then_iff_or, Nat.compare_eq_lt, Nat.compare_eq_eq, Nat.isLE_compare,
    Prod.Lex.toLex_le_toLex]

end Version

theorem CompatRange.contains_iff {r : CompatRange} {v : Version} :
    r.contains v = true ↔ r.engineMin.numbers ≤ v.numbers ∧ v.numbers ≤ r.engineMax.numbers := by
  unfold contains
  rw [Bool.and_eq_true, Version.isLE_compare_iff, Version.isLE_compare_iff]

end GovernanceLock
