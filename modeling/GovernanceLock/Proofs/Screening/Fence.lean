import GovernanceLock.Proofs.Screening.Grammar

/-!
This module contains the lines that open a code fence, told by the ways to split a line into blanks, a
fence, marks and a language tag. A line that can be split in several ways has the same tag in all of
them, since no character of one part could stand where the next part starts.
-/

namespace GovernanceLock.Screening

open Text (asciiLower isAsciiDigit isAsciiLetter isBlank trimStart)

variable {c : Char} {line cs : List Char}

theorem takeWhile_eq_nil {p : Char → Bool} (h : ∀ c, cs.head? = some c → p c = false) :
    cs.takeWhile p = [] := by
  cases cs with
  | nil => rfl
  | cons c cs => simp [h c rfl]

def IsFenceMark (c : Char) : Prop :=
  c = backtick ∨ c = '~'

def IsFence (cs : List Char) : Prop :=
  ∃ mark n, IsFenceMark mark ∧ 3 ≤ n ∧ cs = List.replicate n mark

def IsOptional (mark : Char) (cs : List Char) : Prop :=
  cs = [] ∨ cs = [mark]

/--
A language tag that ends where no further character belongs to it, and in front of it at most an
opening brace and a point, with blanks before both.
-/
def IsTagged (cs tag : List Char) : Prop :=
  ∃ gap brace gap' point rest,
    cs = gap ++ (brace ++ (gap' ++ (point ++ (tag ++ rest)))) ∧
    AllBlank gap ∧ IsOptional '\x7b' brace ∧ AllBlank gap' ∧ IsOptional '.' point ∧
    tag ≠ [] ∧ (∀ c ∈ tag, isTagChar c = true) ∧ ∀ c, rest.head? = some c → isTagChar c = false

/--
Blanks, a fence, and a language tag for it.
-/
def IsFenceLine (line tag : List Char) : Prop :=
  ∃ before fence cs, line = before ++ (fence ++ cs) ∧ AllBlank before ∧ IsFence fence ∧
    IsTagged cs tag

theorem isBlank_of_isAsciiLetter (h : isAsciiLetter c = true) : isBlank c = false := by
  unfold isAsciiLetter at h
  unfold isBlank
  simp only [Char.le_def, UInt32.le_iff_toNat_le, Char.reduceVal, UInt32.reduceToNat,
    Char.toNat_val, Bool.and_eq_true, Bool.or_eq_true, decide_eq_true_eq] at h
  simp only [Bool.or_eq_false_iff, Bool.and_eq_false_imp, decide_eq_true_eq,
    decide_eq_false_iff_not, Nat.not_le, beq_eq_false_iff_ne, ne_eq]
  omega

theorem isBlank_of_isTagChar (h : isTagChar c = true) : isBlank c = false := by
  unfold isTagChar at h
  simp only [Bool.or_eq_true, beq_iff_eq] at h
  rcases h with (((h | h) | rfl) | rfl) | rfl
  · exact isBlank_of_isAsciiLetter h
  · exact Text.isBlank_of_isAsciiDigit h
  · decide
  · decide
  · decide

theorem exists_skipMark (mark : Char) (cs : List Char) :
    ∃ part, IsOptional mark part ∧ cs = part ++ skipMark mark cs := by
  unfold skipMark
  cases h : after? [mark] cs with
  | none => exact ⟨[], .inl rfl, rfl⟩
  | some rest => exact ⟨[mark], .inr rfl, after?_eq_some_iff.1 h⟩

theorem skipMark_of_ne {mark : Char} (h : c ≠ mark) : skipMark mark (c :: cs) = c :: cs := by
  simp [skipMark, after?, Ne.symm h]

theorem skipMark_self (mark : Char) (cs : List Char) : skipMark mark (mark :: cs) = cs := by
  simp [skipMark, after?]

theorem skipMark_append {mark : Char} {part : List Char} (hpart : IsOptional mark part)
    (h : c ≠ mark) : skipMark mark (part ++ c :: cs) = c :: cs := by
  rcases hpart with rfl | rfl
  · exact skipMark_of_ne h
  · exact skipMark_self mark _

def behindMarks (cs : List Char) : List Char :=
  skipMark '.' (trimStart (skipMark '\x7b' (trimStart cs)))

theorem exists_behindMarks (cs : List Char) :
    ∃ gap brace gap' point, cs = gap ++ (brace ++ (gap' ++ (point ++ behindMarks cs))) ∧
      AllBlank gap ∧ IsOptional '\x7b' brace ∧ AllBlank gap' ∧ IsOptional '.' point := by
  rcases Text.exists_append_trimStart cs with ⟨gap, hcs, hgap⟩
  rcases exists_skipMark '\x7b' (trimStart cs) with ⟨brace, hbraced, hbrace⟩
  rcases Text.exists_append_trimStart (skipMark '\x7b' (trimStart cs)) with ⟨gap', htrim, hgap'⟩
  rcases exists_skipMark '.' (trimStart (skipMark '\x7b' (trimStart cs))) with ⟨point, hpoint, hdot⟩
  refine ⟨gap, brace, gap', point, ?_, hgap, hbraced, hgap', hpoint⟩
  unfold behindMarks
  rw [← hdot, ← htrim, ← hbrace]
  exact hcs

/--
No character of a tag is a blank or one of the marks in front of it, so every way to split off blanks
and marks leaves the same text.
-/
theorem behindMarks_append {gap brace gap' point : List Char} (hgap : AllBlank gap)
    (hbrace : IsOptional '\x7b' brace) (hgap' : AllBlank gap') (hpoint : IsOptional '.' point)
    (hc : isTagChar c = true) :
    behindMarks (gap ++ (brace ++ (gap' ++ (point ++ c :: cs)))) = c :: cs := by
  have hdot : c ≠ '.' := by
    rintro rfl
    exact absurd hc (by decide)
  have hmark : ∃ d ds, point ++ c :: cs = d :: ds ∧ isBlank d = false ∧ d ≠ '\x7b' := by
    rcases hpoint with rfl | rfl
    · refine ⟨c, cs, rfl, isBlank_of_isTagChar hc, ?_⟩
      rintro rfl
      exact absurd hc (by decide)
    · exact ⟨'.', c :: cs, rfl, by decide, by decide⟩
  rcases hmark with ⟨d, ds, hds, hblank, hne⟩
  have htrim : trimStart (skipMark '\x7b' (trimStart (gap ++ (brace ++ (gap' ++ d :: ds)))))
      = d :: ds := by
    rw [Text.trimStart_append hgap]
    rcases hbrace with rfl | rfl
    · rw [List.nil_append, Text.trimStart_append hgap', Text.trimStart_cons hblank,
        skipMark_of_ne hne, Text.trimStart_cons hblank]
    · rw [List.singleton_append, Text.trimStart_cons (by decide), skipMark_self,
        Text.trimStart_append hgap', Text.trimStart_cons hblank]
  unfold behindMarks
  rw [hds, htrim, ← hds, skipMark_append hpoint hdot]

theorem isTagged_iff {tag : List Char} :
    IsTagged cs tag ↔ tag ≠ [] ∧ (behindMarks cs).takeWhile isTagChar = tag := by
  constructor
  · rintro ⟨gap, brace, gap', point, rest, rfl, hgap, hbrace, hgap', hpoint, hne, htag, hrest⟩
    refine ⟨hne, ?_⟩
    cases tag with
    | nil => exact absurd rfl hne
    | cons c tag =>
      rw [List.cons_append, behindMarks_append hgap hbrace hgap' hpoint (htag c List.mem_cons_self),
        ← List.cons_append, List.takeWhile_append_of_pos htag, takeWhile_eq_nil hrest,
        List.append_nil]
  · rintro ⟨hne, rfl⟩
    rcases exists_behindMarks cs with ⟨gap, brace, gap', point, hcs, hgap, hbrace, hgap', hpoint⟩
    refine ⟨gap, brace, gap', point, (behindMarks cs).dropWhile isTagChar, ?_, hgap, hbrace, hgap',
      hpoint, hne, List.all_eq_true.1 List.all_takeWhile, ?_⟩
    · rw [List.takeWhile_append_dropWhile]
      exact hcs
    · intro c hc
      have := List.head?_dropWhile_not isTagChar (behindMarks cs)
      rw [hc] at this
      exact this

theorem IsTagged.unique {tag tag' : List Char} (h : IsTagged cs tag) (h' : IsTagged cs tag') :
    tag = tag' := by
  rw [← (isTagged_iff.1 h).2, (isTagged_iff.1 h').2]

theorem IsFenceMark.isBlank_eq (h : IsFenceMark c) : isBlank c = false := by
  rcases h with rfl | rfl <;> decide

theorem IsTagged.head?_ne {tag : List Char} (h : IsTagged cs tag) (hmark : IsFenceMark c) :
    cs.head? ≠ some c := by
  intro hhead
  rcases List.head?_eq_some_iff.1 hhead with ⟨rest, rfl⟩
  have hbehind : behindMarks (c :: rest) = c :: rest := by
    have hbrace : c ≠ '\x7b' := by
      rcases hmark with rfl | rfl <;> decide
    have hdot : c ≠ '.' := by
      rcases hmark with rfl | rfl <;> decide
    unfold behindMarks
    rw [Text.trimStart_cons hmark.isBlank_eq, skipMark_of_ne hbrace,
      Text.trimStart_cons hmark.isBlank_eq, skipMark_of_ne hdot]
  have htag : isTagChar c = false := by
    rcases hmark with rfl | rfl <;> decide
  rcases isTagged_iff.1 h with ⟨hne, rfl⟩
  rw [hbehind] at hne
  exact hne (takeWhile_eq_nil fun d hd => by rw [← Option.some.inj hd, htag])

theorem afterFence?_eq_some_iff {mark : Char} {rest : List Char} :
    afterFence? mark cs = some rest ↔
      ∃ n, 3 ≤ n ∧ cs = List.replicate n mark ++ rest ∧ rest.head? ≠ some mark := by
  unfold afterFence?
  simp only [Option.map_eq_some_iff, after?_eq_some_iff]
  constructor
  · rintro ⟨marks, rfl, rfl⟩
    have hmarks : marks.takeWhile (· == mark)
        = List.replicate (marks.takeWhile (· == mark)).length mark := by
      rw [List.eq_replicate_iff]
      refine ⟨rfl, ?_⟩
      intro c hc
      exact eq_of_beq (List.all_eq_true.1 List.all_takeWhile c hc)
    refine ⟨3 + (marks.takeWhile (· == mark)).length, Nat.le_add_right .., ?_, ?_⟩
    · rw [List.replicate_add, ← hmarks, List.append_assoc, List.takeWhile_append_dropWhile]
    · intro hhead
      have := List.head?_dropWhile_not (· == mark) marks
      rw [hhead] at this
      simp at this
  · rintro ⟨n, hn, rfl, hhead⟩
    rcases Nat.exists_eq_add_of_le hn with ⟨k, rfl⟩
    refine ⟨List.replicate k mark ++ rest, ?_, ?_⟩
    · rw [List.replicate_add, List.append_assoc]
    · rw [List.dropWhile_append_of_pos (by simp)]
      cases rest with
      | nil => rfl
      | cons c rest =>
        rw [List.dropWhile_cons_of_neg]
        rw [beq_iff_eq]
        rintro rfl
        exact hhead rfl

def fenced? (line : List Char) : Option (List Char) :=
  (afterFence? backtick (trimStart line)).or (afterFence? '~' (trimStart line))

theorem exists_fence_of_fenced? (h : fenced? line = some cs) :
    ∃ before fence, line = before ++ (fence ++ cs) ∧ AllBlank before ∧ IsFence fence := by
  rcases Text.exists_append_trimStart line with ⟨before, hline, hbefore⟩
  have hfence : ∃ mark n, IsFenceMark mark ∧ 3 ≤ n ∧
      trimStart line = List.replicate n mark ++ cs := by
    rcases Option.or_eq_some_iff.1 h with h | ⟨_, h⟩
    · rcases afterFence?_eq_some_iff.1 h with ⟨n, hn, htrim, _⟩
      exact ⟨backtick, n, .inl rfl, hn, htrim⟩
    · rcases afterFence?_eq_some_iff.1 h with ⟨n, hn, htrim, _⟩
      exact ⟨'~', n, .inr rfl, hn, htrim⟩
  rcases hfence with ⟨mark, n, hmark, hn, htrim⟩
  refine ⟨before, List.replicate n mark, ?_, hbefore, mark, n, hmark, hn, rfl⟩
  rw [← htrim]
  exact hline

theorem fenced?_append {before fence tag : List Char} (hbefore : AllBlank before)
    (hfence : IsFence fence) (htag : IsTagged cs tag) :
    fenced? (before ++ (fence ++ cs)) = some cs := by
  rcases hfence with ⟨mark, n, hmark, hn, rfl⟩
  have htrim : trimStart (List.replicate n mark ++ cs) = List.replicate n mark ++ cs := by
    cases n with
    | zero => omega
    | succ n => exact Text.trimStart_cons hmark.isBlank_eq _
  have hafter : afterFence? mark (List.replicate n mark ++ cs) = some cs :=
    afterFence?_eq_some_iff.2 ⟨n, hn, rfl, htag.head?_ne hmark⟩
  unfold fenced?
  rw [Text.trimStart_append hbefore, htrim]
  rcases hmark with rfl | rfl
  · rw [hafter, Option.some_or]
  · have hother : afterFence? backtick (List.replicate n '~' ++ cs) = none := by
      cases n with
      | zero => omega
      | succ n => rfl
    rw [hother, Option.none_or, hafter]

theorem isFenceLine_iff {tag : List Char} :
    IsFenceLine line tag ↔ ∃ cs, fenced? line = some cs ∧ IsTagged cs tag := by
  constructor
  · rintro ⟨before, fence, cs, rfl, hbefore, hfence, htag⟩
    exact ⟨cs, fenced?_append hbefore hfence htag, htag⟩
  · rintro ⟨cs, hcs, htag⟩
    rcases exists_fence_of_fenced? hcs with ⟨before, fence, hline, hbefore, hfence⟩
    exact ⟨before, fence, cs, hline, hbefore, hfence, htag⟩

theorem IsFenceLine.unique {tag tag' : List Char} (h : IsFenceLine line tag)
    (h' : IsFenceLine line tag') : tag = tag' := by
  rcases isFenceLine_iff.1 h with ⟨cs, hcs, htag⟩
  rcases isFenceLine_iff.1 h' with ⟨cs', hcs', htag'⟩
  rw [hcs, Option.some.injEq] at hcs'
  subst hcs'
  exact htag.unique htag'

end GovernanceLock.Screening
