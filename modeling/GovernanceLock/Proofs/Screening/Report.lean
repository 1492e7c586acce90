import GovernanceLock.Proofs.Screening.Extension
import GovernanceLock.Proofs.Screening.Finding
import Mathlib.Data.List.Sort
import Mathlib.Data.Prod.Lex
import Mathlib.Data.String.Basic

/-!
This module contains the statement that the report on the files of a pack shows exactly what there is
to find in them, each finding once and all in ascending order.
-/

namespace GovernanceLock

namespace KeyMap

variable {α : Type u}

/--
No key is in both maps, and the third map answers what either of them does.
-/
structure IsDisjointUnion (m n both : KeyMap α) : Prop where
  apart : ∀ key, m.get? key = none ∨ n.get? key = none
  get?_eq : ∀ key, both.get? key = (m.get? key).or (n.get? key)

theorem entries_nodup (m : KeyMap α) : m.entries.Nodup := by
  refine m.ascending.imp ?_
  rintro a _ hlt rfl
  exact String.lt_irrefl _ hlt

theorem IsDisjointUnion.entries_perm {m n both : KeyMap α} (h : IsDisjointUnion m n both) :
    both.entries.Perm (m.entries ++ n.entries) := by
  have hdisjoint : (m.entries ++ n.entries).Nodup := by
    rw [List.nodup_append]
    refine ⟨m.entries_nodup, n.entries_nodup, ?_⟩
    rintro ⟨key, value⟩ hm _ hn rfl
    rw [mem_entries_iff] at hm hn
    rcases h.apart key with hnone | hnone
    · rw [hnone] at hm
      cases hm
    · rw [hnone] at hn
      cases hn
  rw [List.perm_ext_iff_of_nodup both.entries_nodup hdisjoint]
  rintro ⟨key, value⟩
  rw [List.mem_append, mem_entries_iff, mem_entries_iff, mem_entries_iff, h.get?_eq,
    Option.or_eq_some_iff]
  rcases h.apart key with hnone | hnone
  · simp [hnone]
  · simp [hnone]

end KeyMap

namespace Screening

theorem Rule.name_inj {r s : Rule} : r.name = s.name ↔ r = s := by
  cases r <;> cases s <;> decide

namespace Violation

/--
The texts of a violation, of which the first that differs decides its place in a report.
-/
def key (v : Violation) : String ×ₗ String ×ₗ String :=
  toLex (v.path, toLex (v.rule.name, v.detail))

variable {v w : Violation} {l k : List Violation}

theorem key_inj : v.key = w.key ↔ v = w := by
  cases v
  cases w
  simp [key, Rule.name_inj]

theorem before_iff : v.before w = true ↔ v.key < w.key := by
  unfold before key
  simp only [Bool.or_eq_true, Bool.and_eq_true, decide_eq_true_eq, Prod.Lex.toLex_lt_toLex]

theorem sort_eq (l : List Violation) : sort l = l.mergeSort fun v w => v.key ≤ w.key := by
  have hle : ∀ v w : Violation, (!w.before v) = decide (v.key ≤ w.key) := by
    intro v w
    rw [Bool.eq_iff_iff, decide_eq_true_iff, Bool.not_eq_true', Bool.eq_false_iff, ne_eq,
      before_iff, not_lt]
  unfold sort
  simp only [hle]

theorem key_le_trans (u v w : Violation) :
    decide (u.key ≤ v.key) = true → decide (v.key ≤ w.key) = true →
      decide (u.key ≤ w.key) = true := by
  simp only [decide_eq_true_eq]
  exact le_trans

theorem key_le_total (u v : Violation) :
    (decide (u.key ≤ v.key) || decide (v.key ≤ u.key)) = true := by
  simp only [Bool.or_eq_true, decide_eq_true_eq]
  exact le_total _ _

theorem sort_perm (l : List Violation) : (sort l).Perm l :=
  List.mergeSort_perm _ _

theorem sort_pairwise (l : List Violation) : (sort l).Pairwise (key · ≤ key ·) := by
  rw [sort_eq]
  simpa using List.pairwise_mergeSort key_le_trans key_le_total l

theorem sort_pairwise_lt (h : l.Nodup) : (sort l).Pairwise (key · < key ·) := by
  have hnodup : (sort l).Nodup := (sort_perm l).nodup_iff.2 h
  refine ((sort_pairwise l).and hnodup).imp ?_
  rintro v w ⟨hle, hne⟩
  exact lt_of_le_of_ne hle fun heq => hne (key_inj.1 heq)

theorem eq_of_perm (hl : l.Pairwise (key · ≤ key ·)) (hk : k.Pairwise (key · ≤ key ·))
    (h : l.Perm k) : l = k := by
  refine h.eq_of_pairwise ?_ hl hk
  intro v w _ _ hvw hwv
  exact key_inj.1 (hvw.antisymm hwv)

theorem sort_eq_of_perm (h : l.Perm k) (hk : k.Pairwise (key · ≤ key ·)) : sort l = k :=
  eq_of_perm (sort_pairwise l) hk ((sort_perm l).trans h)

theorem merge_pairwise (hl : l.Pairwise (key · ≤ key ·)) (hk : k.Pairwise (key · ≤ key ·)) :
    (List.merge l k fun v w => v.key ≤ w.key).Pairwise (key · ≤ key ·) := by
  simpa using List.pairwise_merge key_le_trans key_le_total l k (by simpa using hl)
    (by simpa using hk)

theorem sort_append (l k : List Violation) :
    sort (l ++ k) = List.merge (sort l) (sort k) fun v w => v.key ≤ w.key := by
  refine eq_of_perm (sort_pairwise _) (merge_pairwise (sort_pairwise l) (sort_pairwise k)) ?_
  refine (sort_perm _).trans (.trans ?_ (List.merge_perm_append _).symm)
  exact ((sort_perm l).append (sort_perm k)).symm

theorem sort_congr (h : l.Perm k) : sort l = sort k :=
  eq_of_perm (sort_pairwise l) (sort_pairwise k)
    ((sort_perm l).trans (h.trans (sort_perm k).symm))

end Violation

/--
The extension is on the list of allowed ones, whatever the case of its ASCII letters.
-/
def IsAllowed (ext : List Char) : Prop :=
  String.ofList (ext.map Text.asciiLower) ∈ allowedExtensions

/--
What there is to find in a file.
-/
inductive Flagged (path text : String) : Violation → Prop where
  | unsafePath (h : ArtifactPath.isSafe path = false) :
    Flagged path text ⟨path, .unsafePath, "path must be relative and must not contain '..'"⟩
  | noExtension (h : ∀ ext, ¬ IsExtension path ext) :
    Flagged path text ⟨path, .disallowedExtension, "file has no extension"⟩
  | otherExtension {ext : List Char} (h : IsExtension path ext) (hother : ¬ IsAllowed ext) :
    Flagged path text ⟨path, .disallowedExtension,
      "file type '." ++ String.ofList (ext.map Text.asciiLower) ++ "' is not allowed"⟩
  | onLine {ext : List Char} (h : IsExtension path ext) (hallowed : IsAllowed ext) {f : Finding}
    (hf : IsFound 1 (Text.lines text.toList) f) : Flagged path text (f.violation path)

theorem LineRule.rule_ne (r : LineRule) : r.rule ≠ .unsafePath ∧ r.rule ≠ .disallowedExtension := by
  cases r <;> decide

theorem mem_scanContent_iff {path text : String} {v : Violation} :
    v ∈ scanContent path text ↔ Flagged path text v ∧ v.rule ≠ .unsafePath := by
  unfold scanContent
  constructor
  · intro hv
    split at hv
    · next hsome =>
      rcases extension?_eq_some_iff.1 hsome with ⟨ext, hext, rfl⟩
      split at hv
      · next hallowed =>
        rcases mem_scanLines_iff.1 hv with ⟨f, hf, rfl⟩
        exact ⟨.onLine hext hallowed hf, f.rule.rule_ne.1⟩
      · next hother =>
        cases List.mem_singleton.1 hv
        exact ⟨.otherExtension hext hother, Rule.noConfusion⟩
    · next hnone =>
      cases List.mem_singleton.1 hv
      exact ⟨.noExtension (extension?_eq_none_iff.1 hnone), Rule.noConfusion⟩
  · rintro ⟨h, hrule⟩
    cases h with
    | unsafePath => exact absurd rfl hrule
    | noExtension h =>
      rw [extension?_eq_none_iff.2 h]
      exact List.mem_singleton_self _
    | otherExtension h hother =>
      rw [extension?_eq_some_iff.2 ⟨_, h, rfl⟩]
      unfold IsAllowed at hother
      dsimp only
      rw [if_neg hother]
      exact List.mem_singleton_self _
    | onLine h hallowed hf =>
      rw [extension?_eq_some_iff.2 ⟨_, h, rfl⟩]
      unfold IsAllowed at hallowed
      dsimp only
      rw [if_pos hallowed]
      exact mem_scanLines_iff.2 ⟨_, hf, rfl⟩

theorem mem_scanFile_iff {path text : String} {v : Violation} :
    v ∈ scanFile path text ↔ Flagged path text v := by
  unfold scanFile
  rw [List.mem_append, mem_scanContent_iff]
  constructor
  · rintro (hv | ⟨h, _⟩)
    · split at hv
      · cases hv
      · next hsafe =>
        cases List.mem_singleton.1 hv
        exact .unsafePath (Bool.not_eq_true _ ▸ hsafe)
    · exact h
  · intro h
    by_cases hrule : v.rule = .unsafePath
    · left
      cases h with
      | unsafePath h => simp [h]
      | noExtension => cases hrule
      | otherExtension => cases hrule
      | onLine => exact absurd hrule (LineRule.rule_ne _).1
    · exact .inr ⟨h, hrule⟩

theorem Flagged.path_eq {path text : String} {v : Violation} (h : Flagged path text v) :
    v.path = path := by
  cases h with
  | unsafePath => rfl
  | noExtension => rfl
  | otherExtension => rfl
  | onLine => rfl

theorem scanLine_nodup (path : String) (number : Nat) (line : List Char) :
    (scanLine path number line).Nodup := by
  unfold scanLine onLine
  cases shellSigil line <;> cases executionKey line <;> cases shellFence line <;> simp

theorem scanLines_nodup (path : String) (number : Nat) (lines : List (List Char)) :
    (scanLines path number lines).Nodup := by
  induction lines generalizing number with
  | nil => exact .nil
  | cons line rest ih =>
    rw [scanLines, List.nodup_append]
    refine ⟨scanLine_nodup path number line, ih (number + 1), ?_⟩
    intro v hv w hw
    rcases mem_scanLine_iff.1 hv with ⟨f, hnumber, _, rfl⟩
    rcases mem_scanLines_iff.1 hw with ⟨g, ⟨i, _, _, hnumber', _⟩, rfl⟩
    rintro heq
    rcases Finding.violation_inj.1 heq with ⟨_, rfl⟩
    omega

theorem scanContent_nodup (path text : String) : (scanContent path text).Nodup := by
  unfold scanContent
  split
  · split
    · exact scanLines_nodup _ _ _
    · exact List.nodup_singleton _
  · exact List.nodup_singleton _

theorem scanFile_nodup (path text : String) : (scanFile path text).Nodup := by
  unfold scanFile
  split
  · exact scanContent_nodup path text
  · rw [List.singleton_append, List.nodup_cons]
    refine ⟨?_, scanContent_nodup path text⟩
    intro h
    exact (mem_scanContent_iff.1 h).2 rfl

theorem scanFiles_nodup (files : KeyMap String) :
    (files.entries.flatMap fun file => scanFile file.1 file.2).Nodup := by
  rw [List.nodup_flatMap]
  refine ⟨fun file _ => scanFile_nodup file.1 file.2, files.ascending.imp ?_⟩
  intro file file' hlt v hv hv'
  have hpath := (mem_scanFile_iff.1 hv).path_eq
  rw [(mem_scanFile_iff.1 hv').path_eq] at hpath
  rw [hpath] at hlt
  exact String.lt_irrefl _ hlt

theorem mem_scan_iff {files : KeyMap String} {v : Violation} :
    v ∈ scan files ↔ ∃ path text, files.get? path = some text ∧ Flagged path text v := by
  unfold scan
  rw [Violation.mem_sort, List.mem_flatMap]
  simp only [mem_scanFile_iff, Prod.exists, KeyMap.mem_entries_iff]

theorem scan_eq_of_mem_iff {files others : KeyMap String}
    (h : ∀ v, v ∈ scan files ↔ v ∈ scan others) : scan files = scan others := by
  apply Violation.sort_congr
  rw [List.perm_ext_iff_of_nodup (scanFiles_nodup files) (scanFiles_nodup others)]
  intro v
  have hv := h v
  unfold scan at hv
  rwa [Violation.mem_sort, Violation.mem_sort] at hv

theorem scan_union {files others both : KeyMap String}
    (h : files.IsDisjointUnion others both) :
    scan both = List.merge (scan files) (scan others) fun v w => v.key ≤ w.key := by
  unfold scan
  rw [← Violation.sort_append, ← List.flatMap_append]
  exact Violation.sort_congr (h.entries_perm.flatMap_right _)

theorem scan_eq_nil_iff {files : KeyMap String} :
    scan files = [] ↔ ∀ path text, files.get? path = some text → ∀ v, ¬ Flagged path text v := by
  simp only [List.eq_nil_iff_forall_not_mem, mem_scan_iff, not_exists, not_and]
  constructor
  · intro h path text hfile v
    exact h v path text hfile
  · intro h v path text hfile
    exact h path text hfile v

theorem scan_single_eq_nil_iff {path text : String} :
    scan (.ofList [(path, text)]) = [] ↔ ∀ v, ¬ Flagged path text v := by
  rw [scan_eq_nil_iff]
  constructor
  · intro h
    exact h path text (if_pos rfl)
  · intro h path' text' hfile
    rcases KeyMap.mem_entries_iff.2 hfile with ⟨⟩ | ⟨_, ⟨⟩⟩
    exact h

/--
The report on the files of a pack is strictly ascending by path, rule and detail and shows exactly
what there is to find in the files: findings that differ in anything are different violations. The
report on the files of two packs together is the merge of the two reports, and it is empty iff the
report on every file by itself is.
-/
theorem scan_reports_exactly (files : KeyMap String) :
    (scan files).Pairwise (Violation.key · < Violation.key ·) ∧
      (∀ v, v ∈ scan files ↔
        ∃ path text, files.get? path = some text ∧ Flagged path text v) ∧
      (∀ path path' (f g : Finding),
        f.violation path = g.violation path' ↔ path = path' ∧ f = g) ∧
      (∀ others both, files.IsDisjointUnion others both →
        scan both = List.merge (scan files) (scan others) fun v w => v.key ≤ w.key) ∧
      (scan files = [] ↔ ∀ path text, files.get? path = some text →
        scan (.ofList [(path, text)]) = []) := by
  refine ⟨Violation.sort_pairwise_lt (scanFiles_nodup files), fun _ => mem_scan_iff,
    fun _ _ _ _ => Finding.violation_inj, fun _ _ => scan_union, ?_⟩
  rw [scan_eq_nil_iff]
  simp only [scan_single_eq_nil_iff]

section

/-!
A pack of a guide and of keys that ask for execution, and one with a file that it may not have.
-/

def guideFiles : KeyMap String :=
  .ofList [("guide.md", "```bash\n  $ make\n"), ("run.YAML", "- run : make\n")]

def setupFiles : KeyMap String :=
  .ofList [("../setup.sh", "$ make\n")]

def packFiles : KeyMap String :=
  .ofList [("guide.md", "```bash\n  $ make\n"), ("run.YAML", "- run : make\n"),
    ("../setup.sh", "$ make\n")]

def guideReport : List Violation :=
  [⟨"guide.md", .shellFence, "line 1: code fence tagged 'bash'"⟩,
   ⟨"guide.md", .shellSigil, "line 2: starts with shell sigil '$'"⟩,
   ⟨"run.YAML", .executionKey, "line 1: execution key 'run'"⟩]

def setupReport : List Violation :=
  [⟨"../setup.sh", .disallowedExtension, "file type '.sh' is not allowed"⟩,
   ⟨"../setup.sh", .unsafePath, "path must be relative and must not contain '..'"⟩]

theorem guideFiles_scan : scan guideFiles = guideReport :=
  Violation.sort_eq_of_perm (by decide +kernel) (by decide +kernel)

theorem setupFiles_scan : scan setupFiles = setupReport :=
  Violation.sort_eq_of_perm (by decide +kernel) (by decide +kernel)

theorem packFiles_scan_eq : scan packFiles = setupReport ++ guideReport :=
  Violation.sort_eq_of_perm (by decide +kernel) (by decide +kernel)

theorem packFiles_isDisjointUnion : guideFiles.IsDisjointUnion setupFiles packFiles where
  apart key := by
    by_cases h : key = "../setup.sh"
    · subst h
      exact .inl rfl
    · exact .inr (if_neg h)
  get?_eq key := by
    by_cases h : key = "../setup.sh"
    · subst h
      rfl
    · have hsetup : setupFiles.get? key = none := if_neg h
      have hpack : packFiles.get? key = guideFiles.get? key := if_neg h
      rw [hsetup, hpack, Option.or_none]

theorem packFiles_scan :
    guideFiles.IsDisjointUnion setupFiles packFiles ∧ scan guideFiles = guideReport ∧
      scan setupFiles = setupReport ∧ scan packFiles = setupReport ++ guideReport ∧
      scan packFiles
        = List.merge (scan guideFiles) (scan setupFiles) fun v w => v.key ≤ w.key :=
  ⟨packFiles_isDisjointUnion, guideFiles_scan, setupFiles_scan, packFiles_scan_eq,
    (scan_reports_exactly guideFiles).2.2.2.1 setupFiles packFiles packFiles_isDisjointUnion⟩

end

end Screening

end GovernanceLock
