import GovernanceLock.Proofs.Json.Reader.Numeral

/-!
This module contains the proof that the text of a value is read as the tree of the value, whatever
the style. The induction is on the value: the text of each part is read in the same way whatever is
open around it, as long as something stands behind it that ends a number.
-/

namespace GovernanceLock.Json

namespace Reader

def StartsValue : List Char → Prop
  | [] => False
  | c :: _ => isSpace c = false ∧ c ≠ ']'

theorem startsValue_digits (n : Nat) (rest : List Char) :
    StartsValue (Decimal.natDigits n ++ rest) := by
  have hall : ∀ c ∈ Nat.toDigits 10 n, Text.isAsciiDigit c = true :=
    fun c => Text.isAsciiDigit_of_mem_toDigits
  unfold Decimal.natDigits
  cases hcs : Nat.toDigits 10 n with
  | nil => exact absurd hcs Nat.toDigits_ne_nil
  | cons c cs =>
    rw [hcs, List.forall_mem_cons] at hall
    refine ⟨isSpace_of_isAsciiDigit hall.1, ?_⟩
    rintro rfl
    exact absurd hall.1 (by decide)

theorem run_firstItem {stack : List Frame} {text : List Char} (h : StartsValue text) :
    run ⟨.firstItem, stack⟩ text = run ⟨.value, .array [] :: stack⟩ text := by
  cases text with
  | nil => exact h.elim
  | cons c cs =>
    have hstep : step ⟨.firstItem, stack⟩ c = step ⟨.value, .array [] :: stack⟩ c := by
      rw [step_value h.1]
      simp only [step, between, h.1, Bool.false_eq_true, if_false, if_neg h.2]
    rw [run, run, hstep]

variable (style : Style)

theorem run_colon (members : List (Units × Tree)) (key : Units) (stack : List Frame)
    (rest : List Char) :
    run ⟨.colon members key, stack⟩ (style.colon ++ rest)
      = run ⟨.value, .object members key :: stack⟩ rest := by
  unfold Style.colon
  split
  · rfl
  · rfl

theorem enclose_append (level : Nat) (opening closing : Char) {parts : List (List Char)}
    (h : parts ≠ []) (rest : List Char) :
    style.enclose level opening closing parts ++ rest
      = opening :: (style.break (level + 1)
          ++ (Text.join (',' :: style.break (level + 1)) parts
            ++ (style.break level ++ closing :: rest))) := by
  unfold Style.enclose
  rw [if_neg (by simpa using h)]
  simp

theorem writeItems_ne_nil (level : Nat) (v : Json) (items : List Json) :
    writeItems style level (v :: items) ≠ [] := by
  rw [writeItems]
  exact List.cons_ne_nil _ _

theorem writeMembers_ne_nil (level : Nat) (e : String × Json) (members : List (String × Json)) :
    writeMembers style level (e :: members) ≠ [] := by
  rw [writeMembers]
  exact List.cons_ne_nil _ _

theorem startsValue_write (level : Nat) {v : Json} (h : v.Integral) (rest : List Char) :
    StartsValue (write style level v ++ rest) := by
  cases v with
  | null => exact ⟨rfl, by decide⟩
  | bool b =>
    cases b with
    | true => exact ⟨rfl, by decide⟩
    | false => exact ⟨rfl, by decide⟩
  | number n =>
    cases n with
    | double bits => exact h.elim
    | integer n =>
      rw [write, Number.write, writeInt]
      split
      · exact ⟨rfl, by decide⟩
      · exact startsValue_digits _ rest
  | string s => exact ⟨rfl, by decide⟩
  | array items =>
    rw [write, Style.enclose]
    split
    · exact ⟨rfl, by decide⟩
    · exact ⟨rfl, by decide⟩
  | object members =>
    rw [write, Style.enclose]
    split
    · exact ⟨rfl, by decide⟩
    · exact ⟨rfl, by decide⟩

theorem startsValue_items (level : Nat) {v : Json} {items : List Json}
    (h : IntegralItems (v :: items)) (rest : List Char) :
    StartsValue (Text.join (',' :: style.break level) (writeItems style level (v :: items))
      ++ rest) := by
  cases items with
  | nil => exact startsValue_write style level h.1 rest
  | cons w items =>
    rw [writeItems, writeItems, Text.join_cons_cons, List.append_assoc, List.append_assoc]
    exact startsValue_write style level h.1 _

theorem run_firstKey (level : Nat) (e : String × Json) (members : List (String × Json))
    (stack : List Frame) (rest : List Char) :
    run ⟨.firstKey, stack⟩
        (Text.join (',' :: style.break level) (writeMembers style level (e :: members)) ++ rest)
      = run ⟨.nextKey [], stack⟩
        (Text.join (',' :: style.break level) (writeMembers style level (e :: members))
          ++ rest) := by
  cases members with
  | nil => rfl
  | cons f members => rfl

mutual

theorem run_write (level : Nat) (v : Json) (hv : v.Integral) (stack : List Frame)
    {rest : List Char} (h : Delimited rest) :
    run ⟨.value, stack⟩ (write style level v ++ rest)
      = run (complete (tree style.ascii v) stack) rest := by
  cases v with
  | null => rfl
  | bool b =>
    cases b with
    | true => rfl
    | false => rfl
  | number n =>
    cases n with
    | double bits => exact hv.elim
    | integer n => exact run_writeInt n h
  | string s => exact run_writeString .value rfl style.ascii s rest
  | array items =>
    cases items with
    | nil => rfl
    | cons v items =>
      have hopen : step ⟨.value, stack⟩ '[' = some ⟨.firstItem, stack⟩ := rfl
      have hclose : ∀ done : List Tree, step ⟨.nextItem done, stack⟩ ']'
          = some (complete (.array done.reverse) stack) := fun _ => rfl
      rw [write, enclose_append style level _ _ (writeItems_ne_nil style _ v items),
        run_cons hopen, run_break rfl, run_firstItem (startsValue_items style _ hv _),
        run_writeItems (level + 1) (v :: items) hv (List.cons_ne_nil v items), run_break rfl,
        run_cons (hclose _), List.append_nil, List.reverse_reverse]
      · rfl
      · exact Delimited.break_append (.cons rfl rest) style level
  | object members =>
    cases members with
    | nil => rfl
    | cons e members =>
      have hopen : step ⟨.value, stack⟩ '\x7b' = some ⟨.firstKey, stack⟩ := rfl
      have hclose : ∀ done : List (Units × Tree), step ⟨.nextMember done, stack⟩ '\x7d'
          = some (complete (.object done.reverse) stack) := fun _ => rfl
      rw [write, enclose_append style level _ _ (writeMembers_ne_nil style _ e members),
        run_cons hopen, run_break rfl, run_firstKey style _ e members,
        run_writeMembers (level + 1) (e :: members) hv (List.cons_ne_nil e members), run_break rfl,
        run_cons (hclose _), List.append_nil, List.reverse_reverse]
      · rfl
      · exact Delimited.break_append (.cons rfl rest) style level

theorem run_writeItems (level : Nat) (items : List Json) (hitems : IntegralItems items)
    (hne : items ≠ []) (done : List Tree) (stack : List Frame) {rest : List Char}
    (h : Delimited rest) :
    run ⟨.value, .array done :: stack⟩
        (Text.join (',' :: style.break level) (writeItems style level items) ++ rest)
      = run ⟨.nextItem ((treeItems style.ascii items).reverse ++ done), stack⟩ rest := by
  cases items with
  | nil => exact absurd rfl hne
  | cons v items =>
    cases items with
    | nil =>
      rw [writeItems, writeItems, Text.join, run_write level v hitems.1 _ h]
      rfl
    | cons w items =>
      have hcomma : step (complete (tree style.ascii v) (.array done :: stack)) ','
          = some ⟨.value, .array (tree style.ascii v :: done) :: stack⟩ := rfl
      rw [writeItems, writeItems, Text.join_cons_cons, ← writeItems, List.append_assoc,
        List.append_assoc, run_write level v hitems.1, List.cons_append, run_cons hcomma,
        run_break rfl, run_writeItems level (w :: items) hitems.2 (List.cons_ne_nil w items) _ _ h]
      · simp only [treeItems, List.reverse_cons, List.append_assoc, List.cons_append,
          List.nil_append]
      · rfl

theorem run_writeMembers (level : Nat) (members : List (String × Json))
    (hmembers : IntegralMembers members) (hne : members ≠ []) (done : List (Units × Tree))
    (stack : List Frame) {rest : List Char} (h : Delimited rest) :
    run ⟨.nextKey done, stack⟩
        (Text.join (',' :: style.break level) (writeMembers style level members) ++ rest)
      = run ⟨.nextMember ((treeMembers style.ascii members).reverse ++ done), stack⟩ rest := by
  cases members with
  | nil => exact absurd rfl hne
  | cons e members =>
    rcases e with ⟨key, v⟩
    -- The key and the value up to what stands behind them.
    have hmember : ∀ {rest : List Char}, Delimited rest →
        run ⟨.nextKey done, stack⟩
            ((writeString style.ascii key ++ style.colon ++ write style level v) ++ rest)
          = run ⟨.nextMember ((textUnits style.ascii key, tree style.ascii v) :: done), stack⟩
              rest := by
      intro rest h
      rw [List.append_assoc, List.append_assoc, run_writeString (.key done) rfl, closeText,
        run_colon, run_write level v hmembers.1 _ h]
      rfl
    cases members with
    | nil =>
      rw [writeMembers, writeMembers, Text.join, hmember h]
      rfl
    | cons f members =>
      have hcomma : step ⟨.nextMember ((textUnits style.ascii key, tree style.ascii v) :: done),
          stack⟩ ','
          = some ⟨.nextKey ((textUnits style.ascii key, tree style.ascii v) :: done), stack⟩ := rfl
      rw [writeMembers, writeMembers, Text.join_cons_cons, ← writeMembers, List.append_assoc,
        List.append_assoc, hmember, List.cons_append, run_cons hcomma, run_break rfl,
        run_writeMembers level (f :: members) hmembers.2 (List.cons_ne_nil f members) _ _ h]
      · simp only [treeMembers, List.reverse_cons, List.append_assoc, List.cons_append,
          List.nil_append]
      · rfl

end

end Reader

open Reader

theorem Tree.parse?_write (style : Style) {v : Json} (hv : v.Integral) {tail : List Char}
    (htail : ∀ c ∈ tail, isSpace c = true) :
    Tree.parse? (write style 0 v ++ tail) = some (v.tree style.ascii) := by
  have hspaces : ∀ c ∈ tail ++ [' '], isSpace c = true := by
    intro c hc
    rw [List.mem_append, List.mem_singleton] at hc
    rcases hc with hc | rfl
    · exact htail c hc
    · rfl
  have hdelimited : Delimited (tail ++ [' ']) := by
    cases tail with
    | nil => rfl
    | cons c tail =>
      have hc : isSpace c = true := htail c (List.mem_cons_self ..)
      simp [Delimited, isDelimiter, hc]
  have hrun : run ⟨.value, []⟩ (write style 0 v ++ tail ++ [' '])
      = some ⟨.finished (v.tree style.ascii), []⟩ := by
    rw [List.append_assoc, run_write style 0 v hv [] hdelimited,
      ← List.append_nil (tail ++ [' ']), run_spaces (complete_isBetween _ _) hspaces]
    rfl
  rw [Tree.parse?, hrun]

end GovernanceLock.Json
