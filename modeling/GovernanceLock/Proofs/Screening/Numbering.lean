import GovernanceLock.Proofs.Screening.Report
import GovernanceLock.Proofs.Text.Lines

/-!
This module contains the statement that the findings on a text carry the numbers of its lines however
the text is put together, and whichever line ends it has.
-/

namespace GovernanceLock.Screening

namespace Finding

def later (n : Nat) (f : Finding) : Finding :=
  { f with number := f.number + n }

end Finding

variable {files : KeyMap String} {path text : String} {f : Finding} {number : Nat}
  {lines : List (List Char)}

theorem isFound_append_iff {rest : List (List Char)} :
    IsFound number (lines ++ rest) f ↔
      IsFound number lines f ∨ IsFound (number + lines.length) rest f := by
  induction lines generalizing number with
  | nil => simp [IsFound]
  | cons line lines ih =>
    rw [List.cons_append, isFound_cons_iff, isFound_cons_iff, ih, or_assoc, List.length_cons,
      Nat.add_right_comm, Nat.add_assoc]

theorem isFound_add_iff {n : Nat} :
    IsFound (number + n) lines f ↔ ∃ g, IsFound number lines g ∧ f = g.later n := by
  constructor
  · rintro ⟨i, line, hline, hnumber, hitem⟩
    refine ⟨{ f with number := number + i }, ⟨i, line, hline, rfl, hitem⟩, ?_⟩
    rw [Nat.add_right_comm] at hnumber
    rw [Finding.later, ← hnumber]
  · rintro ⟨g, ⟨i, line, hline, hnumber, hitem⟩, rfl⟩
    refine ⟨i, line, hline, ?_, hitem⟩
    rw [Finding.later, hnumber, Nat.add_right_comm]

theorem Flagged.exists_finding {v : Violation} {r : LineRule} (h : Flagged path text v)
    (hrule : v.rule = r.rule) :
    ∃ f : Finding, v = f.violation path ∧ (∃ ext, IsExtension path ext ∧ IsAllowed ext) ∧
      IsFound 1 (Text.lines text.toList) f := by
  cases h with
  | unsafePath => exact absurd hrule.symm r.rule_ne.1
  | noExtension => exact absurd hrule.symm r.rule_ne.2
  | otherExtension => exact absurd hrule.symm r.rule_ne.2
  | onLine hext hallowed hf => exact ⟨_, rfl, ⟨_, hext, hallowed⟩, hf⟩

theorem flagged_violation_iff :
    Flagged path text (f.violation path) ↔
      (∃ ext, IsExtension path ext ∧ IsAllowed ext) ∧ IsFound 1 (Text.lines text.toList) f := by
  constructor
  · intro h
    rcases h.exists_finding rfl with ⟨g, hg, hfound⟩
    rcases Finding.violation_inj.1 hg with ⟨_, rfl⟩
    exact hfound
  · rintro ⟨⟨ext, hext, hallowed⟩, hf⟩
    exact .onLine hext hallowed hf

theorem mem_scan_insert_iff {v : Violation} :
    v ∈ scan (files.insert path text) ↔ Flagged path text v ∨
      ∃ path' text', path' ≠ path ∧ files.get? path' = some text' ∧ Flagged path' text' v := by
  rw [mem_scan_iff]
  simp only [KeyMap.get?_insert]
  constructor
  · rintro ⟨path', text', hfile, h⟩
    split at hfile
    · next heq =>
      cases hfile
      exact .inl (heq ▸ h)
    · next hne => exact .inr ⟨path', text', hne, hfile, h⟩
  · rintro (h | ⟨path', text', hne, hfile, h⟩)
    · exact ⟨path, text, if_pos rfl, h⟩
    · exact ⟨path', text', by rw [if_neg hne, hfile], h⟩

theorem violation_mem_scan_insert_iff :
    f.violation path ∈ scan (files.insert path text) ↔ Flagged path text (f.violation path) := by
  rw [mem_scan_insert_iff]
  constructor
  · rintro (h | ⟨path', text', hne, _, h⟩)
    · exact h
    · exact absurd h.path_eq.symm hne
  · exact .inl

theorem violation_mem_scan_append_iff {s t : String} (h : Text.WholeLines s.toList) :
    f.violation path ∈ scan (files.insert path (s ++ t)) ↔
      f.violation path ∈ scan (files.insert path s) ∨
        ∃ g : Finding, g.violation path ∈ scan (files.insert path t) ∧
          f = g.later (s.toList.count '\n') := by
  simp only [violation_mem_scan_insert_iff, flagged_violation_iff]
  rw [String.toList_append, Text.lines_append h, isFound_append_iff, Text.length_lines h,
    isFound_add_iff, and_or_left]
  simp only [and_assoc, exists_and_left]

theorem scanFile_withCarriageReturns (h : '\r' ∉ text.toList) :
    scanFile path (String.ofList (Text.withCarriageReturns text.toList)) = scanFile path text := by
  unfold scanFile scanContent
  rw [String.toList_ofList, Text.lines_withCarriageReturns h]

theorem scan_withCarriageReturns (h : '\r' ∉ text.toList) :
    scan (files.insert path (String.ofList (Text.withCarriageReturns text.toList)))
      = scan (files.insert path text) := by
  apply scan_eq_of_mem_iff
  intro v
  rw [mem_scan_insert_iff, mem_scan_insert_iff, ← mem_scanFile_iff, ← mem_scanFile_iff,
    scanFile_withCarriageReturns h]

theorem existsUnique_finding {v : Violation} {r : LineRule} (hv : v ∈ scan files)
    (hrule : v.rule = r.rule) : ∃! f : Finding, v = f.violation v.path := by
  rcases mem_scan_iff.1 hv with ⟨path, text, _, h⟩
  rcases h.exists_finding hrule with ⟨f, rfl, _⟩
  refine ⟨f, rfl, ?_⟩
  intro g hg
  exact (Finding.violation_inj.1 hg).2.symm

/--
The line findings on a text behind whole lines are those on the lines before it and its own, as many
lines later as there are line feeds before it. Every violation of a line rule is the violation of one
finding, so nothing is lost by speaking of findings. A text without carriage returns is found to hold
the same when all its line feeds get one.
-/
theorem scan_numbers_lines (files : KeyMap String) (path : String) :
    (∀ s t f, Text.WholeLines s.toList →
      (Finding.violation path f ∈ scan (files.insert path (s ++ t)) ↔
        f.violation path ∈ scan (files.insert path s) ∨
          ∃ g : Finding, g.violation path ∈ scan (files.insert path t) ∧
            f = g.later (s.toList.count '\n'))) ∧
      (∀ v (r : LineRule), v ∈ scan files → v.rule = r.rule →
        ∃! f : Finding, v = f.violation v.path) ∧
      ∀ text : String, '\r' ∉ text.toList →
        scan (files.insert path (String.ofList (Text.withCarriageReturns text.toList)))
          = scan (files.insert path text) :=
  ⟨fun _ _ _ => violation_mem_scan_append_iff, fun _ _ => existsUnique_finding,
    fun _ => scan_withCarriageReturns⟩

section

/-!
Two lines of a guide with a sigil on the second of them, and two lines that may stand behind them.
-/

def introText : String :=
  "intro\n$ make\n"

def stepsText : String :=
  "$\n- run: make"

def introFinding : Finding :=
  ⟨.shellSigil, 2, "$"⟩

def stepsFinding : Finding :=
  ⟨.executionKey, 2, "run"⟩

theorem introText_numbers_lines :
    introFinding.violation "guide.md" ∈ scan (.ofList [("guide.md", introText ++ stepsText)]) ∧
      (stepsFinding.later 2).violation "guide.md"
        ∈ scan (.ofList [("guide.md", introText ++ stepsText)]) ∧
      (∃! f : Finding, introFinding.violation "guide.md" = f.violation "guide.md") ∧
      scan (.ofList [("guide.md", "$\r\n- run: make")]) = scan (.ofList [("guide.md", stepsText)]) := by
  rcases scan_numbers_lines (.ofList []) "guide.md" with ⟨happend, _, hreturns⟩
  have hwhole : Text.WholeLines introText.toList := .inr rfl
  have hintro : introFinding.violation "guide.md" ∈ scan (.ofList [("guide.md", introText)]) :=
    Violation.mem_sort.2 (by decide)
  have hsteps : stepsFinding.violation "guide.md" ∈ scan (.ofList [("guide.md", stepsText)]) :=
    Violation.mem_sort.2 (by decide)
  refine ⟨(happend _ stepsText _ hwhole).2 (.inl hintro),
    (happend _ stepsText _ hwhole).2 (.inr ⟨stepsFinding, hsteps, rfl⟩), ?_,
    hreturns stepsText (by decide)⟩
  exact (scan_numbers_lines (.ofList [("guide.md", introText)]) "guide.md").2.1 _ .shellSigil
    hintro rfl

end

end GovernanceLock.Screening
