import GovernanceLock.Proofs.Json.Reader.Text

/-!
This module contains the proof that the reader reads a written integer as its numeral. The reader
knows that a number has ended only when it sees something that does not belong to it.
-/

namespace GovernanceLock.Json.Reader

open Text (isAsciiDigit)

variable {stack : List Frame} {n : Numeral}

def digitValue (c : Char) : Nat :=
  c.toNat - '0'.toNat

theorem digit?_of_isAsciiDigit {c : Char} (h : isAsciiDigit c = true) :
    digit? c = some (digitValue c) := by
  unfold isAsciiDigit at h
  unfold digit?
  rw [if_pos (by simpa using h)]
  rfl

theorem isSpace_of_isAsciiDigit {c : Char} (h : isAsciiDigit c = true) : isSpace c = false := by
  rw [← Bool.not_eq_true]
  intro hspace
  unfold isSpace at hspace
  simp only [Bool.or_eq_true, beq_iff_eq] at hspace
  rcases hspace with ((rfl | rfl) | rfl) | rfl <;> exact absurd h (by decide)

theorem step_value {c : Char} (h : isSpace c = false) :
    step ⟨.value, stack⟩ c = start stack c := by
  simp only [step, between, h, Bool.false_eq_true, if_false]

theorem start_digit {c : Char} (h : isAsciiDigit c = true) (hzero : c ≠ '0') :
    start stack c = some ⟨.numeral .whole ⟨false, [digitValue c], [], none⟩, stack⟩ := by
  unfold start
  split
  · exact absurd h (by decide)
  · exact absurd h (by decide)
  · exact absurd h (by decide)
  · exact absurd h (by decide)
  · exact absurd h (by decide)
  · exact absurd h (by decide)
  · exact absurd h (by decide)
  · exact absurd rfl hzero
  · rw [digit?_of_isAsciiDigit h]
    rfl

theorem extend?_whole_digit {c : Char} (h : isAsciiDigit c = true) :
    extend? .whole n c = some (.whole, { n with whole := n.whole ++ [digitValue c] }) := by
  have hpoint : c ≠ '.' := by
    rintro rfl
    exact absurd h (by decide)
  have hmark : ¬ (c = 'e' ∨ c = 'E') := by
    rintro (rfl | rfl)
    · exact absurd h (by decide)
    · exact absurd h (by decide)
  simp only [extend?]
  rw [if_neg hpoint, if_neg hmark, if_neg (by decide), digit?_of_isAsciiDigit h]
  rfl

theorem run_digits {cs : List Char} (h : ∀ c ∈ cs, isAsciiDigit c = true) (rest : List Char) :
    run ⟨.numeral .whole n, stack⟩ (cs ++ rest)
      = run ⟨.numeral .whole { n with whole := n.whole ++ cs.map digitValue }, stack⟩ rest := by
  induction cs generalizing n with
  | nil => simp
  | cons c cs ih =>
    rw [List.forall_mem_cons] at h
    have hstep : step ⟨.numeral .whole n, stack⟩ c
        = some ⟨.numeral .whole { n with whole := n.whole ++ [digitValue c] }, stack⟩ := by
      simp only [step, extend?_whole_digit h.1]
    rw [List.cons_append, run_cons hstep, ih h.2, List.append_assoc, List.singleton_append,
      List.map_cons]

theorem extend?_delimiter {phase : Phase} (hphase : phase = .zero ∨ phase = .whole) {c : Char}
    (h : isDelimiter c = true) : extend? phase n c = none := by
  unfold isDelimiter isSpace at h
  simp only [Bool.or_eq_true, beq_iff_eq] at h
  rcases hphase with rfl | rfl
  · rcases h with (((((rfl | rfl) | rfl) | rfl) | rfl) | rfl) | rfl <;> rfl
  · rcases h with (((((rfl | rfl) | rfl) | rfl) | rfl) | rfl) | rfl <;> rfl

theorem run_delimited {phase : Phase} (hphase : phase = .zero ∨ phase = .whole)
    {rest : List Char} (h : Delimited rest) :
    run ⟨.numeral phase n, stack⟩ rest = run (complete (.number n) stack) rest := by
  cases rest with
  | nil => exact h.elim
  | cons c cs =>
    have hends : phase.ends = true := by
      rcases hphase with rfl | rfl
      · rfl
      · rfl
    have hstep : step ⟨.numeral phase n, stack⟩ c = step (complete (.number n) stack) c := by
      rw [step_of_isBetween (complete_isBetween _ _)]
      simp only [step, extend?_delimiter hphase h, if_pos hends]
    rw [run, run, hstep]

theorem exists_toDigits_eq_cons {n : Nat} (h : 0 < n) :
    ∃ c cs, Nat.toDigits 10 n = c :: cs ∧ c ≠ '0' := by
  induction n using Nat.strongRecOn with
  | _ n ih =>
    by_cases hlt : n < 10
    · refine ⟨n.digitChar, [], Nat.toDigits_of_lt_base hlt, ?_⟩
      intro hzero
      rw [Nat.digitChar_eq_zero] at hzero
      omega
    · rcases ih (n / 10) (by omega) (by omega) with ⟨c, cs, hcs, hc⟩
      refine ⟨c, cs ++ [(n % 10).digitChar], ?_, hc⟩
      rw [Nat.toDigits_of_base_le (by decide) (by omega), hcs, List.cons_append]

theorem digitValue_ne_zero {c : Char} (h : isAsciiDigit c = true) (hzero : c ≠ '0') :
    digitValue c ≠ 0 := by
  rw [Text.isAsciiDigit_iff] at h
  intro hvalue
  apply hzero
  have : c.toNat = '0'.toNat := by
    unfold digitValue at hvalue
    have : '0'.toNat = 48 := rfl
    omega
  rw [← Char.ofNat_toNat c, this, Char.ofNat_toNat]

theorem step_sign_digit {c : Char} (h : isAsciiDigit c = true) (hzero : c ≠ '0') :
    step ⟨.numeral .sign n, stack⟩ c
      = some ⟨.numeral .whole { n with whole := [digitValue c] }, stack⟩ := by
  simp only [step, extend?, digit?_of_isAsciiDigit h, Option.map_some,
    if_neg (digitValue_ne_zero h hzero)]

theorem run_writeInt (n : Int) {rest : List Char} (h : Delimited rest) :
    run ⟨.value, stack⟩ (writeInt n ++ rest) = run (complete (.number (.ofInt n)) stack) rest := by
  have hall : ∀ c ∈ Nat.toDigits 10 n.natAbs, isAsciiDigit c = true :=
    fun c => Text.isAsciiDigit_of_mem_toDigits
  unfold writeInt Numeral.ofInt Decimal.natDigits
  by_cases hzero : n = 0
  · subst hzero
    exact run_delimited (n := ⟨false, [0], [], none⟩) (.inl rfl) h
  · rcases exists_toDigits_eq_cons (n := n.natAbs) (by omega) with ⟨c, cs, hcs, hc⟩
    rw [hcs, List.forall_mem_cons] at hall
    have hdigits : digitsOf n.natAbs = digitValue c :: cs.map digitValue := by
      rw [digitsOf, hcs, List.map_cons]
      rfl
    rw [hcs, hdigits]
    split
    · next hneg =>
      have hsign : step ⟨.value, stack⟩ '-' = some ⟨.numeral .sign ⟨true, [], [], none⟩, stack⟩ :=
        rfl
      rw [List.cons_append, List.cons_append, run_cons hsign, run_cons (step_sign_digit hall.1 hc),
        run_digits hall.2, run_delimited (.inr rfl) h, decide_eq_true hneg]
      rfl
    · next hneg =>
      have hstart : step ⟨.value, stack⟩ c
          = some ⟨.numeral .whole ⟨false, [digitValue c], [], none⟩, stack⟩ := by
        rw [step_value (isSpace_of_isAsciiDigit hall.1), start_digit hall.1 hc]
      rw [List.cons_append, run_cons hstart, run_digits hall.2, run_delimited (.inr rfl) h,
        decide_eq_false hneg]
      rfl

end GovernanceLock.Json.Reader
