import GovernanceLock.Text.Line

/-!
This module contains what the division into lines makes of texts that are put together: behind a text
of whole lines the division starts anew, and a carriage return in front of every line feed makes no
difference.
-/

namespace GovernanceLock.Text

def WholeLines (cs : List Char) : Prop :=
  cs = [] ∨ cs.getLast? = some '\n'

def withCarriageReturns (cs : List Char) : List Char :=
  cs.flatMap fun c => if c = '\n' then ['\r', '\n'] else [c]

variable {c : Char} {cs : List Char}

theorem WholeLines.tail (h : WholeLines (c :: cs)) : WholeLines cs := by
  rcases h with h | h
  · cases h
  · cases cs with
    | nil => exact .inl rfl
    | cons d cs => exact .inr h

theorem WholeLines.ne_nil_of_ne (h : WholeLines (c :: cs)) (hc : c ≠ '\n') : cs ≠ [] := by
  rintro rfl
  rcases h with h | h
  · cases h
  · exact hc (Option.some.inj h)

theorem lines_cons (hc : c ≠ '\n') (hcs : c = '\r' → cs.head? ≠ some '\n') :
    lines (c :: cs) = consFirst c (lines cs) := by
  rw [lines]
  · exact hc
  · rintro rest rfl rfl
    exact hcs rfl rfl

theorem lines_ne_nil (h : cs ≠ []) : lines cs ≠ [] := by
  fun_cases lines cs with
  | case1 => exact absurd rfl h
  | case2 => simp
  | case3 => simp
  | case4 c rest =>
    unfold consFirst
    split
    · simp
    · simp

theorem consFirst_append {l : List (List Char)} (h : l ≠ []) (k : List (List Char)) :
    consFirst c (l ++ k) = consFirst c l ++ k := by
  cases l with
  | nil => exact absurd rfl h
  | cons line rest => rfl

theorem length_consFirst {l : List (List Char)} (h : l ≠ []) :
    (consFirst c l).length = l.length := by
  cases l with
  | nil => exact absurd rfl h
  | cons line rest => rfl

theorem lines_append (h : WholeLines cs) (ds : List Char) :
    lines (cs ++ ds) = lines cs ++ lines ds := by
  fun_induction lines cs with
  | case1 => rfl
  | case2 cs ih => simp [ih h.tail]
  | case3 cs ih => simp [ih h.tail.tail]
  | case4 c cs hfeed hreturn ih =>
    have hne : cs ≠ [] := h.ne_nil_of_ne hfeed
    rw [List.cons_append, lines_cons hfeed, ih h.tail, consFirst_append (lines_ne_nil hne)]
    intro hc hhead
    cases cs with
    | nil => exact hne rfl
    | cons d rest =>
      rw [List.cons_append, List.head?_cons, Option.some.injEq] at hhead
      exact hreturn rest hc (by rw [hhead])

theorem length_lines (h : WholeLines cs) : (lines cs).length = cs.count '\n' := by
  fun_induction lines cs with
  | case1 => rfl
  | case2 cs ih => simp [ih h.tail]
  | case3 cs ih => simp [ih h.tail.tail]
  | case4 c cs hfeed hreturn ih =>
    have hne : cs ≠ [] := h.ne_nil_of_ne hfeed
    rw [length_consFirst (lines_ne_nil hne), ih h.tail, List.count_cons_of_ne hfeed]

theorem lines_withCarriageReturns (h : '\r' ∉ cs) :
    lines (withCarriageReturns cs) = lines cs := by
  induction cs with
  | nil => rfl
  | cons c cs ih =>
    rw [List.mem_cons, not_or] at h
    rw [withCarriageReturns, List.flatMap_cons, ← withCarriageReturns]
    by_cases hc : c = '\n'
    · simp [hc, ih h.2]
    · have hreturn : c ≠ '\r' := Ne.symm h.1
      rw [if_neg hc, List.singleton_append, lines_cons hc (absurd · hreturn), ih h.2,
        lines_cons hc (absurd · hreturn)]

end GovernanceLock.Text
