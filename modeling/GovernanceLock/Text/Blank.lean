/-!
This module contains the blank characters, which are those with the Unicode property `White_Space`,
and the trimming of text by them.
-/

namespace GovernanceLock.Text

/--
The characters with the Unicode property `White_Space`.
-/
def isBlank (c : Char) : Bool :=
  let n := c.toNat
  (0x9 ≤ n && n ≤ 0xD) || n == 0x20 || n == 0x85 || n == 0xA0 || n == 0x1680
    || (0x2000 ≤ n && n ≤ 0x200A) || n == 0x2028 || n == 0x2029 || n == 0x202F || n == 0x205F
    || n == 0x3000

def trimStart (cs : List Char) : List Char :=
  cs.dropWhile isBlank

def trimEnd (cs : List Char) : List Char :=
  (cs.reverse.dropWhile isBlank).reverse

def trim (cs : List Char) : List Char :=
  trimEnd (trimStart cs)

theorem trimStart_eq_nil_iff {cs : List Char} : trimStart cs = [] ↔ ∀ c ∈ cs, isBlank c = true := by
  induction cs with
  | nil => simp [trimStart]
  | cons c cs ih =>
    rw [trimStart] at ih
    cases h : isBlank c <;> simp [trimStart, h, ih]

theorem trimStart_cons {c : Char} (h : isBlank c = false) (cs : List Char) :
    trimStart (c :: cs) = c :: cs := by
  rw [trimStart, List.dropWhile_cons, h]
  rfl

theorem trimStart_eq_self {cs : List Char} (h : ∀ c, cs.head? = some c → isBlank c = false) :
    trimStart cs = cs := by
  cases cs with
  | nil => rfl
  | cons c cs => exact trimStart_cons (h c rfl) cs

theorem trimEnd_eq_self {cs : List Char} (h : ∀ c, cs.getLast? = some c → isBlank c = false) :
    trimEnd cs = cs := by
  rw [trimEnd, ← trimStart, trimStart_eq_self, List.reverse_reverse]
  intro c hc
  rw [List.head?_reverse] at hc
  exact h c hc

theorem isBlank_of_head?_trimStart {cs : List Char} {c : Char}
    (h : (trimStart cs).head? = some c) : isBlank c = false := by
  have := List.head?_dropWhile_not isBlank cs
  rw [← trimStart, h] at this
  simpa using this

theorem isBlank_of_getLast?_trimEnd {cs : List Char} {c : Char}
    (h : (trimEnd cs).getLast? = some c) : isBlank c = false := by
  rw [trimEnd, List.getLast?_reverse] at h
  exact isBlank_of_head?_trimStart h

theorem trimEnd_prefix (cs : List Char) : trimEnd cs <+: cs := by
  rw [trimEnd, ← List.reverse_suffix, List.reverse_reverse]
  exact List.dropWhile_suffix _

theorem isBlank_of_head?_trim {cs : List Char} {c : Char} (h : (trim cs).head? = some c) :
    isBlank c = false := by
  rcases trimEnd_prefix (trimStart cs) with ⟨rest, hrest⟩
  apply isBlank_of_head?_trimStart
  rw [← hrest, List.head?_append, ← trim, h]
  rfl

theorem trim_trim (cs : List Char) : trim (trim cs) = trim cs := by
  have hstart : trimStart (trim cs) = trim cs :=
    trimStart_eq_self fun _ hc => isBlank_of_head?_trim hc
  rw [trim, hstart]
  apply trimEnd_eq_self
  intro c hc
  exact isBlank_of_getLast?_trimEnd hc

theorem trim_eq_self {cs : List Char} (h : ∀ c ∈ cs, isBlank c = false) : trim cs = cs := by
  have hstart : trimStart cs = cs := trimStart_eq_self fun c hc => h c (List.mem_of_head? hc)
  rw [trim, hstart]
  exact trimEnd_eq_self fun c hc => h c (List.mem_of_getLast? hc)

def trimmed (s : String) : String :=
  String.ofList (trim s.toList)

theorem trimmed_trimmed (s : String) : trimmed (trimmed s) = trimmed s := by
  unfold trimmed
  rw [String.toList_ofList, trim_trim]

end GovernanceLock.Text
