import GovernanceLock.Proofs.Text.Digits
import GovernanceLock.Screening.Basic
import Mathlib.Data.List.Basic

/-!
This module contains the findings on the lines of a file as data: the rule, the number of the line
and what the rule names. The violation of a finding tells all three, so the text of a report loses
nothing of what was found.
-/

namespace GovernanceLock.Screening

inductive LineRule where
  | shellSigil
  | executionKey
  | shellFence
  deriving DecidableEq

namespace LineRule

def rule : LineRule → Rule
  | .shellSigil => .shellSigil
  | .executionKey => .executionKey
  | .shellFence => .shellFence

def item? : LineRule → List Char → Option String
  | .shellSigil => Screening.shellSigil
  | .executionKey => Screening.executionKey
  | .shellFence => Screening.shellFence

def phrase : LineRule → String → String
  | .shellSigil, sigil => "starts with shell sigil '" ++ sigil ++ "'"
  | .executionKey, key => "execution key '" ++ key ++ "'"
  | .shellFence, tag => "code fence tagged '" ++ tag ++ "'"

theorem rule_inj {r s : LineRule} : r.rule = s.rule ↔ r = s := by
  cases r <;> cases s <;> decide

theorem phrase_inj {r : LineRule} {item item' : String} :
    r.phrase item = r.phrase item' ↔ item = item' := by
  cases r with
  | shellSigil => exact (String.append_left_inj _).trans (String.append_right_inj _)
  | executionKey => exact (String.append_left_inj _).trans (String.append_right_inj _)
  | shellFence => exact (String.append_left_inj _).trans (String.append_right_inj _)

end LineRule

/--
What a rule has found on the line with a number.
-/
structure Finding where
  rule : LineRule
  number : Nat
  item : String
  deriving DecidableEq

namespace Finding

def violation (path : String) (f : Finding) : Violation :=
  onLine path f.number f.rule.rule (f.rule.phrase f.item)

end Finding

theorem colon_notMem_toDigits (n : Nat) : ':' ∉ Nat.toDigits 10 n := by
  intro h
  exact absurd (Text.isAsciiDigit_of_mem_toDigits h) (by decide)

theorem toDigits_append_colon_inj {n m : Nat} {s t : List Char} :
    Nat.toDigits 10 n ++ ':' :: s = Nat.toDigits 10 m ++ ':' :: t ↔ n = m ∧ s = t := by
  constructor
  · intro h
    have hparts := congrArg (Text.parts ':') h
    rw [Text.parts_append_cons (colon_notMem_toDigits n),
      Text.parts_append_cons (colon_notMem_toDigits m), List.cons.injEq] at hparts
    rw [hparts.1, List.append_cancel_left_eq, List.cons.injEq] at h
    refine ⟨?_, h.2⟩
    rw [← Text.digitsValue_toDigits n, hparts.1, Text.digitsValue_toDigits]
  · rintro ⟨rfl, rfl⟩
    rfl

theorem onLine_inj {path path' what what' : String} {n m : Nat} {r s : Rule} :
    onLine path n r what = onLine path' m s what' ↔
      path = path' ∧ n = m ∧ r = s ∧ what = what' := by
  constructor
  · intro h
    unfold onLine at h
    rw [Violation.mk.injEq] at h
    rcases h with ⟨hpath, hrule, hdetail⟩
    rw [String.append_assoc, String.append_assoc, String.append_assoc, String.append_assoc,
      String.append_right_inj] at hdetail
    have hmark : ": ".toList = [':', ' '] := rfl
    have hchars := congrArg String.toList hdetail
    simp only [String.toList_append, Nat.toList_repr, hmark, List.cons_append, List.nil_append,
      toDigits_append_colon_inj, List.cons.injEq, String.toList_inj] at hchars
    exact ⟨hpath, hchars.1, hrule, hchars.2.2⟩
  · rintro ⟨rfl, rfl, rfl, rfl⟩
    rfl

theorem Finding.violation_inj {path path' : String} {f g : Finding} :
    f.violation path = g.violation path' ↔ path = path' ∧ f = g := by
  unfold violation
  rw [onLine_inj, LineRule.rule_inj]
  constructor
  · rintro ⟨hpath, hnumber, hrule, hphrase⟩
    rw [hrule, LineRule.phrase_inj] at hphrase
    refine ⟨hpath, ?_⟩
    cases f
    cases g
    rw [mk.injEq]
    exact ⟨hrule, hnumber, hphrase⟩
  · rintro ⟨rfl, rfl⟩
    exact ⟨rfl, rfl, rfl, rfl⟩

/--
What the rules find on lines numbered from `number` on.
-/
def IsFound (number : Nat) (lines : List (List Char)) (f : Finding) : Prop :=
  ∃ i line, lines[i]? = some line ∧ f.number = number + i ∧ f.rule.item? line = some f.item

theorem mem_scanLine_iff {path : String} {number : Nat} {line : List Char} {v : Violation} :
    v ∈ scanLine path number line ↔
      ∃ f : Finding, f.number = number ∧ f.rule.item? line = some f.item ∧ v = f.violation path := by
  unfold scanLine
  simp only [List.mem_append, Option.mem_toList, Option.map_eq_some_iff]
  constructor
  · rintro ((⟨item, hitem, rfl⟩ | ⟨item, hitem, rfl⟩) | ⟨item, hitem, rfl⟩)
    · exact ⟨⟨.shellSigil, number, item⟩, rfl, hitem, rfl⟩
    · exact ⟨⟨.executionKey, number, item⟩, rfl, hitem, rfl⟩
    · exact ⟨⟨.shellFence, number, item⟩, rfl, hitem, rfl⟩
  · rintro ⟨⟨rule, _, item⟩, rfl, hitem, rfl⟩
    cases rule with
    | shellSigil => exact .inl (.inl ⟨item, hitem, rfl⟩)
    | executionKey => exact .inl (.inr ⟨item, hitem, rfl⟩)
    | shellFence => exact .inr ⟨item, hitem, rfl⟩

theorem isFound_cons_iff {number : Nat} {line : List Char} {rest : List (List Char)} {f : Finding} :
    IsFound number (line :: rest) f ↔
      f.number = number ∧ f.rule.item? line = some f.item ∨ IsFound (number + 1) rest f := by
  unfold IsFound
  constructor
  · rintro ⟨i, line', hline, hnumber, hitem⟩
    cases i with
    | zero =>
      cases hline
      exact .inl ⟨hnumber, hitem⟩
    | succ i => exact .inr ⟨i, line', hline, by omega, hitem⟩
  · rintro (⟨hnumber, hitem⟩ | ⟨i, line', hline, hnumber, hitem⟩)
    · exact ⟨0, line, rfl, hnumber, hitem⟩
    · exact ⟨i + 1, line', hline, by omega, hitem⟩

theorem mem_scanLines_iff {path : String} {number : Nat} {lines : List (List Char)}
    {v : Violation} :
    v ∈ scanLines path number lines ↔ ∃ f, IsFound number lines f ∧ v = f.violation path := by
  induction lines generalizing number with
  | nil => simp [scanLines, IsFound]
  | cons line rest ih =>
    rw [scanLines, List.mem_append, mem_scanLine_iff, ih]
    simp only [isFound_cons_iff]
    constructor
    · rintro (⟨f, hnumber, hitem, hv⟩ | ⟨f, hf, hv⟩)
      · exact ⟨f, .inl ⟨hnumber, hitem⟩, hv⟩
      · exact ⟨f, .inr hf, hv⟩
    · rintro ⟨f, ⟨hnumber, hitem⟩ | hf, hv⟩
      · exact .inl ⟨f, hnumber, hitem, hv⟩
      · exact .inr ⟨f, hf, hv⟩

end GovernanceLock.Screening
