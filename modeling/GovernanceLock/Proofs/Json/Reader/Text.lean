import GovernanceLock.Json.Printer
import GovernanceLock.Proofs.Json.Tree

/-!
This module contains the proof that the reader passes over the space between the parts of a text,
and that it reads a written string as the code units of the string.
-/

namespace GovernanceLock.Json.Reader

theorem run_cons {m n : Machine} {c : Char} (h : step m c = some n) (cs : List Char) :
    run m (c :: cs) = run n cs := by
  rw [run, h]
  rfl

def Mode.isBetween : Mode → Bool
  | .word .. | .numeral .. | .text .. | .escape .. | .hex .. => false
  | _ => true

theorem step_of_isBetween {m : Machine} (h : m.mode.isBetween = true) (c : Char) :
    step m c = between m c := by
  unfold step
  split
  · next hm => simp [hm, Mode.isBetween] at h
  · next hm => simp [hm, Mode.isBetween] at h
  · next hm => simp [hm, Mode.isBetween] at h
  · next hm => simp [hm, Mode.isBetween] at h
  · next hm => simp [hm, Mode.isBetween] at h
  · rfl

theorem complete_isBetween (t : Tree) (stack : List Frame) :
    (complete t stack).mode.isBetween = true := by
  unfold complete
  split
  · rfl
  · rfl
  · rfl

theorem run_spaces {m : Machine} (h : m.mode.isBetween = true) {cs : List Char}
    (hcs : ∀ c ∈ cs, isSpace c = true) (rest : List Char) : run m (cs ++ rest) = run m rest := by
  induction cs with
  | nil => rfl
  | cons c cs ih =>
    rw [List.forall_mem_cons] at hcs
    have hstep : step m c = some m := by
      rw [step_of_isBetween h, between, if_pos hcs.1]
    rw [List.cons_append, run_cons hstep, ih hcs.2]

theorem isSpace_of_mem_break {style : Style} {level : Nat} {c : Char}
    (h : c ∈ style.break level) : isSpace c = true := by
  unfold Style.break at h
  split at h
  · simp at h
  · simp only [List.mem_cons, List.mem_replicate] at h
    rcases h with rfl | ⟨_, rfl⟩
    · rfl
    · rfl

theorem run_break {m : Machine} (h : m.mode.isBetween = true) (style : Style) (level : Nat)
    (rest : List Char) : run m (style.break level ++ rest) = run m rest :=
  run_spaces h (fun _ => isSpace_of_mem_break) rest

def isDelimiter (c : Char) : Bool :=
  isSpace c || c == ',' || c == ']' || c == '\x7d'

def Delimited : List Char → Prop
  | [] => False
  | c :: _ => isDelimiter c = true

theorem Delimited.cons {c : Char} (h : isDelimiter c = true) (cs : List Char) :
    Delimited (c :: cs) :=
  h

theorem Delimited.break_append {cs : List Char} (h : Delimited cs) (style : Style) (level : Nat) :
    Delimited (style.break level ++ cs) := by
  unfold Style.break
  split
  · exact h
  · rfl

section

variable {role : Role} {stack : List Frame} {units : Units}

theorem hexDigit?_hexDigit {n : Nat} (h : n < 16) : hexDigit? (hexDigit n) = some n := by
  have hall : ∀ n < 16, hexDigit? (hexDigit n) = some n := by decide
  exact hall n h

theorem run_unitEscape {u : Nat} (h : u < 0x10000) (rest : List Char) :
    run ⟨.text role units, stack⟩ (unitEscape u ++ rest)
      = run ⟨.text role (u :: units), stack⟩ rest := by
  have hhex : ∀ (left code d : Nat) (cs : List Char), d < 16 →
      run ⟨.hex role units (left + 1) code, stack⟩ (hexDigit d :: cs)
        = run ⟨.hex role units left (code * 16 + d), stack⟩ cs := by
    intro left code d cs hd
    apply run_cons
    simp only [step, hexDigit?_hexDigit hd, Option.map_some]
  have hlast : ∀ (code d : Nat) (cs : List Char), d < 16 →
      run ⟨.hex role units 0 code, stack⟩ (hexDigit d :: cs)
        = run ⟨.text role ((code * 16 + d) :: units), stack⟩ cs := by
    intro code d cs hd
    apply run_cons
    simp only [step, hexDigit?_hexDigit hd, Option.map_some]
  have hmark : ∀ cs : List Char, run ⟨.text role units, stack⟩ ('\\' :: 'u' :: cs)
      = run ⟨.hex role units 3 0, stack⟩ cs := fun _ => rfl
  unfold unitEscape
  simp only [List.cons_append, List.nil_append]
  have hvalue : (((0 * 16 + u / 4096 % 16) * 16 + u / 256 % 16) * 16 + u / 16 % 16) * 16 + u % 16
      = u := by
    omega
  rw [hmark, hhex, hhex, hhex, hlast, hvalue]
  · omega
  · omega
  · omega
  · omega

theorem run_charEscape {ascii : Bool} {c : Char} (h : ascii = true ∨ c.toNat < 0x10000)
    (rest : List Char) :
    run ⟨.text role units, stack⟩ (charEscape c ++ rest)
      = run ⟨.text role ((charUnits ascii c).reverse ++ units), stack⟩ rest := by
  have hc := toNat_lt_or_gt_surrogates c
  unfold charEscape charUnits
  by_cases hlt : c.toNat < 0x10000
  · rw [if_pos hlt, if_neg (by omega), run_unitEscape hlt]
    rfl
  · have hpair : ascii = true ∧ 0x10000 ≤ c.toNat := ⟨h.resolve_right hlt, Nat.not_lt.1 hlt⟩
    rw [if_neg hlt, if_pos hpair, List.append_assoc, run_unitEscape, run_unitEscape]
    · rfl
    · omega
    · omega

theorem run_escaped {ascii : Bool} {c e : Char} (h : escaped? e = some c) (hmark : e ≠ 'u')
    (hlt : c.toNat < 0x10000) (rest : List Char) :
    run ⟨.text role units, stack⟩ ('\\' :: e :: rest)
      = run ⟨.text role ((charUnits ascii c).reverse ++ units), stack⟩ rest := by
  have hunits : charUnits ascii c = [c.toNat] := by
    unfold charUnits
    rw [if_neg (by omega)]
  have hslash : step ⟨.text role units, stack⟩ '\\' = some ⟨.escape role units, stack⟩ := rfl
  have hescape : step ⟨.escape role units, stack⟩ e
      = some ⟨.text role (c.toNat :: units), stack⟩ := by
    simp only [step, if_neg hmark, h, Option.map_some]
  rw [run_cons hslash, run_cons hescape, hunits]
  rfl

theorem run_writeChar (ascii : Bool) (c : Char) (rest : List Char) :
    run ⟨.text role units, stack⟩ (writeChar ascii c ++ rest)
      = run ⟨.text role ((charUnits ascii c).reverse ++ units), stack⟩ rest := by
  unfold writeChar
  split
  · exact run_escaped rfl (by decide) (by decide) rest
  · exact run_escaped rfl (by decide) (by decide) rest
  · exact run_escaped rfl (by decide) (by decide) rest
  · exact run_escaped rfl (by decide) (by decide) rest
  · exact run_escaped rfl (by decide) (by decide) rest
  · exact run_escaped rfl (by decide) (by decide) rest
  · exact run_escaped rfl (by decide) (by decide) rest
  · next hquote hslash _ _ _ _ _ =>
    split
    · next h =>
      apply run_charEscape
      rcases h with h | h
      · right
        rw [Char.lt_def, UInt32.lt_iff_toNat_lt, Char.toNat_val, Char.toNat_val] at h
        exact Nat.lt_trans h (by decide)
      · exact .inl h.1
    · next h =>
      have hunits : charUnits ascii c = [c.toNat] := by
        unfold charUnits
        rw [if_neg]
        rintro ⟨hascii, hc⟩
        exact h (.inr ⟨hascii, by omega⟩)
      rw [hunits]
      apply run_cons
      simp only [step]
      rw [if_neg hquote, if_neg hslash, if_neg fun hlt => h (.inl hlt)]
      rfl

theorem run_text (ascii : Bool) (cs : List Char) (rest : List Char) :
    run ⟨.text role units, stack⟩ (cs.flatMap (writeChar ascii) ++ '"' :: rest)
      = run (closeText role (units.reverse ++ cs.flatMap (charUnits ascii)) stack) rest := by
  induction cs generalizing units with
  | nil =>
    rw [List.flatMap_nil, List.nil_append, List.flatMap_nil, List.append_nil]
    apply run_cons
    rfl
  | cons c cs ih =>
    rw [List.flatMap_cons, List.append_assoc, run_writeChar, ih, List.flatMap_cons,
      List.reverse_append, List.reverse_reverse, List.append_assoc]

theorem run_writeString {m : Machine} (role : Role)
    (h : step m '"' = some ⟨.text role [], m.stack⟩) (ascii : Bool) (s : String)
    (rest : List Char) :
    run m (writeString ascii s ++ rest)
      = run (closeText role (textUnits ascii s) m.stack) rest := by
  unfold writeString textUnits
  rw [List.cons_append, List.cons_append, List.append_assoc, List.singleton_append, run_cons h,
    run_text, List.reverse_nil, List.nil_append]

end

end GovernanceLock.Json.Reader
