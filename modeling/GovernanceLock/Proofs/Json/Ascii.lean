import GovernanceLock.Proofs.Json.Reader

/-!
This module contains the proof that a style with escapes writes ASCII characters only.
-/

namespace GovernanceLock.Json

def IsAscii (cs : List Char) : Prop :=
  ∀ c ∈ cs, c.toNat < 128

instance (cs : List Char) : Decidable (IsAscii cs) :=
  List.decidableBAll (fun c : Char => c.toNat < 128) cs

namespace IsAscii

theorem nil : IsAscii [] := by
  simp [IsAscii]

theorem cons_iff {c : Char} {cs : List Char} :
    IsAscii (c :: cs) ↔ c.toNat < 128 ∧ IsAscii cs := by
  unfold IsAscii
  rw [List.forall_mem_cons]

theorem append_iff {cs ds : List Char} : IsAscii (cs ++ ds) ↔ IsAscii cs ∧ IsAscii ds := by
  unfold IsAscii
  rw [List.forall_mem_append]

theorem unitEscape (u : Nat) : IsAscii (unitEscape u) := by
  have hdigit : ∀ n < 16, (hexDigit n).toNat < 128 := by decide
  unfold Json.unitEscape
  simp only [cons_iff]
  refine ⟨by decide, by decide, ?_, ?_, ?_, ?_, nil⟩
  · exact hdigit _ (by omega)
  · exact hdigit _ (by omega)
  · exact hdigit _ (by omega)
  · exact hdigit _ (by omega)

theorem pair {c d : Char} (hc : c.toNat < 128) (hd : d.toNat < 128) : IsAscii [c, d] := by
  simp only [cons_iff]
  exact ⟨hc, hd, nil⟩

theorem charEscape (c : Char) : IsAscii (charEscape c) := by
  unfold Json.charEscape
  dsimp only
  split
  · exact unitEscape _
  · rw [append_iff]
    exact ⟨unitEscape _, unitEscape _⟩

theorem writeChar (c : Char) : IsAscii (writeChar true c) := by
  unfold Json.writeChar
  split
  · exact pair (by decide) (by decide)
  · exact pair (by decide) (by decide)
  · exact pair (by decide) (by decide)
  · exact pair (by decide) (by decide)
  · exact pair (by decide) (by decide)
  · exact pair (by decide) (by decide)
  · exact pair (by decide) (by decide)
  · split
    · exact charEscape _
    · next h =>
      rw [cons_iff]
      exact ⟨Nat.lt_of_not_le fun hc => h (.inr ⟨rfl, hc⟩), nil⟩

theorem writeString (s : String) : IsAscii (writeString true s) := by
  have hchars : IsAscii (s.toList.flatMap (Json.writeChar true)) := by
    intro c hc
    rw [List.mem_flatMap] at hc
    rcases hc with ⟨d, _, hc⟩
    exact writeChar d c hc
  unfold Json.writeString
  rw [append_iff, cons_iff, cons_iff]
  exact ⟨⟨by decide, hchars⟩, by decide, nil⟩

theorem writeInt (n : Int) : IsAscii (writeInt n) := by
  have hdigits : IsAscii (Decimal.natDigits n.natAbs) := by
    intro c hc
    have := Text.isAsciiDigit_iff.1 (Text.isAsciiDigit_of_mem_toDigits hc)
    omega
  unfold Json.writeInt
  split
  · rw [cons_iff]
    exact ⟨by decide, hdigits⟩
  · exact hdigits

theorem styleBreak (style : Style) (level : Nat) : IsAscii (style.break level) := by
  intro c hc
  have := Reader.isSpace_of_mem_break hc
  unfold Reader.isSpace at this
  simp only [Bool.or_eq_true, beq_iff_eq] at this
  rcases this with ((rfl | rfl) | rfl) | rfl
  · decide
  · decide
  · decide
  · decide

theorem join {separator : List Char} (hseparator : IsAscii separator) {parts : List (List Char)}
    (h : ∀ part ∈ parts, IsAscii part) : IsAscii (Text.join separator parts) := by
  induction parts with
  | nil => exact nil
  | cons part parts ih =>
    rw [List.forall_mem_cons] at h
    cases parts with
    | nil => exact h.1
    | cons next parts =>
      rw [Text.join_cons_cons, append_iff, append_iff]
      exact ⟨⟨h.1, hseparator⟩, ih h.2⟩

theorem enclose (style : Style) (level : Nat) {opening closing : Char}
    (hopening : opening.toNat < 128) (hclosing : closing.toNat < 128) {parts : List (List Char)}
    (h : ∀ part ∈ parts, IsAscii part) :
    IsAscii (style.enclose level opening closing parts) := by
  unfold Style.enclose
  split
  · exact pair hopening hclosing
  · have hseparator : IsAscii (',' :: style.break (level + 1)) := by
      rw [cons_iff]
      exact ⟨by decide, styleBreak style _⟩
    simp only [append_iff, cons_iff]
    exact ⟨⟨⟨⟨hopening, styleBreak style _⟩, join hseparator h⟩, styleBreak style _⟩, hclosing,
      nil⟩

theorem styleColon (style : Style) : IsAscii style.colon := by
  unfold Style.colon
  split
  · rw [cons_iff]
    exact ⟨by decide, nil⟩
  · exact pair (by decide) (by decide)

mutual

theorem write {style : Style} (hstyle : style.ascii = true) (level : Nat) (v : Json)
    (hv : v.Integral) : IsAscii (write style level v) := by
  cases v with
  | null => exact (by decide : IsAscii ['n', 'u', 'l', 'l'])
  | bool b =>
    cases b with
    | true => exact (by decide : IsAscii ['t', 'r', 'u', 'e'])
    | false => exact (by decide : IsAscii ['f', 'a', 'l', 's', 'e'])
  | number n =>
    cases n with
    | double bits => exact hv.elim
    | integer n => exact writeInt n
  | string s =>
    rw [Json.write, hstyle]
    exact writeString s
  | array items =>
    exact enclose style level (by decide) (by decide) (writeItems hstyle (level + 1) items hv)
  | object members =>
    exact enclose style level (by decide) (by decide) (writeMembers hstyle (level + 1) members hv)

theorem writeItems {style : Style} (hstyle : style.ascii = true) (level : Nat) (items : List Json)
    (h : IntegralItems items) :
    ∀ part ∈ writeItems style level items, IsAscii part := by
  cases items with
  | nil => simp [Json.writeItems]
  | cons v rest =>
    rw [Json.writeItems, List.forall_mem_cons]
    exact ⟨write hstyle level v h.1, writeItems hstyle level rest h.2⟩

theorem writeMembers {style : Style} (hstyle : style.ascii = true) (level : Nat)
    (members : List (String × Json)) (h : IntegralMembers members) :
    ∀ part ∈ writeMembers style level members, IsAscii part := by
  cases members with
  | nil => simp [Json.writeMembers]
  | cons e rest =>
    rw [Json.writeMembers, List.forall_mem_cons, append_iff, append_iff, hstyle]
    exact ⟨⟨⟨writeString e.1, styleColon style⟩, write hstyle level e.2 h.1⟩,
      writeMembers hstyle level rest h.2⟩

end

end IsAscii

end GovernanceLock.Json
