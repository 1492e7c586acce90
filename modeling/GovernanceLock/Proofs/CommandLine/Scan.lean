import GovernanceLock.Proofs.CommandLine.ExitCode
import GovernanceLock.Proofs.FileTree.Contents
import GovernanceLock.Proofs.FileTree.Walk
import GovernanceLock.Proofs.Json.RoundTrip

/-!
This module contains the statement that the screening of a directory looks at every file inside it
once, and of what it prints about them. Its exit code tells whether all of them are accepted.
-/

namespace GovernanceLock

open Except (mapM_cons_eq_ok_iff)
open FileTree (FileInside pathOf)
open Screening (Violation)

namespace CommandLine

namespace ScanReport

variable (r : ScanReport)

theorem exitCode_eq : r.exitCode = if r.violations = [] then 0 else 4 := by
  unfold exitCode
  simp only [List.isEmpty_iff]
  rfl

theorem text_eq :
    r.text =
      if r.violations = [] then
        r.directory.toString ++ ": " ++ r.files.repr ++ " file(s), no violations\n"
      else
        r.directory.toString ++ ": " ++ r.violations.length.repr ++ " violation(s) in "
          ++ r.files.repr ++ " file(s)\n"
          ++ String.join (r.violations.map fun v =>
            "  " ++ v.path ++ " [" ++ v.rule.name ++ "] " ++ v.detail ++ "\n") := by
  unfold text lines violationLine
  simp only [List.isEmpty_iff, List.map_cons, List.map_nil, List.map_map, String.join_cons,
    String.join_nil, String.append_empty]
  have hend : " file(s)" ++ "\n" = " file(s)\n" := by
    decide
  split
  · simp only [String.append_assoc]
    rfl
  · simp only [Function.comp_def, String.append_assoc, hend]

def value (directory : String) (files : Nat) (violations : List Violation) : Json :=
  .object
    [("dir", .string directory),
     ("files", .natural files),
     ("violations", .array (violations.map fun v => .object
       [("detail", .string v.detail), ("path", .string v.path), ("rule", .string v.rule.name)]))]

theorem json_eq :
    r.json = (value r.directory.toString r.files r.violations).render .report ++ "\n" := by
  unfold json jsonReport Json.ofMembers
  rw [KeyMap.entries_ofList]
  · rfl
  · exact List.pairwise_map.1 (by simp only [List.map_cons, List.map_nil]; decide)

theorem value_fits (directory : String) {files : Nat} (h : files < 2 ^ 64)
    (violations : List Violation) : (value directory files violations).Fits Json.depthLimit := by
  have hword : (Json.Number.integer files).IsWord := by
    unfold Json.Number.IsWord
    omega
  apply Json.Fits.object
  · exact (by decide : Ascending ["dir", "files", "violations"])
  · rw [List.forall_mem_cons, List.forall_mem_cons, List.forall_mem_singleton]
    refine ⟨.string _, ⟨trivial, hword, Nat.zero_le _⟩, .array ?_⟩
    intro v hv
    rcases List.mem_map.1 hv with ⟨violation, _, rfl⟩
    apply Json.Fits.object
    · exact (by decide : Ascending ["detail", "path", "rule"])
    · simp [Json.Fits.string]

theorem parse?_json (h : r.files < 2 ^ 64) :
    Json.parse? r.json = some (value r.directory.toString r.files r.violations) := by
  rw [json_eq]
  exact Json.parse?_render_append .report (value_fits _ h _) (List.forall_mem_singleton.2 rfl)

end ScanReport

namespace Command

variable {directory : Path} {t : FileTree} {here location : Location}

theorem runScan_eq (hlocate : t.locate .target here directory = .ok location)
    (hdirectory : t.holdsDirectory location = true) :
    runScan directory t here =
      match t.texts location directory with
      | .ok texts => .ok ⟨directory, texts.entries.length, Screening.scan texts⟩
      | .error e => .error (.unreadable directory.toString e) := by
  unfold runScan
  rw [hlocate]
  exact if_pos hdirectory

end Command

namespace Invocation

variable {i : Invocation} {directory : Path} {t t' : FileTree} {here location : Location}

theorem journal_scan (hcommand : i.command = .scan directory) (env : Environment) :
    Journal.render (Journal.filter env.log i.verbose i.trace) (i.command.journal t here env) = "" := by
  rw [hcommand]
  rfl

theorem run_scan (hcommand : i.command = .scan directory)
    (hlocate : t.locate .target here directory = .ok location)
    (hdirectory : t.holdsDirectory location = true) (env : Environment) :
    i.run here env t =
      match t.texts location directory with
      | .ok texts =>
        let r : ScanReport := ⟨directory, texts.entries.length, Screening.scan texts⟩
        (⟨r.exitCode, if i.json then r.json else r.text, ""⟩, t)
      | .error e =>
        let f : Failure := .unreadable directory.toString e
        (⟨f.exitCode, "", "error: " ++ f.message ++ "\n"⟩, t) := by
  unfold run
  rw [journal_scan hcommand, hcommand, Command.runOn_perform_scan,
    Command.runScan_eq hlocate hdirectory]
  cases t.texts location directory with
  | ok texts => rfl
  | error e =>
    dsimp only
    rw [String.empty_append]

theorem exitCode_unreadable (path : String) (cause : FileTree.Error) :
    (Failure.unreadable path cause).exitCode = 1 :=
  (Failure.unreadable path cause).begins.ofMessage_eq

theorem message_unreadable (path : String) (cause : FileTree.Error) :
    "error: " ++ (Failure.unreadable path cause).message ++ "\n" =
      "error: failed to read '" ++ path ++ "': " ++ cause.message ++ "\n" := by
  have hmessage : (Failure.unreadable path cause).message =
      "failed to read '" ++ path ++ "': " ++ cause.message :=
    rfl
  have hopening : "error: " ++ "failed to read '" = "error: failed to read '" := by
    decide
  rw [hmessage, ← hopening]
  simp only [String.append_assoc]

/--
The screening of a directory looks at the text of every file that real directories lead to from it,
under the path that their names make, and at nothing else. No two files have the same path, so the
files that are counted are all there are. What is printed tells how many they are and every violation
on their texts, and the exit code is 0 iff there is none, and 4 otherwise. In which order the tree
lists things makes no difference. All this takes that everything inside the directory can be read; if
it cannot, nothing is printed but what stopped the reading, and the exit code is 1.
-/
theorem scan_covers_files (hcommand : i.command = .scan directory)
    (hlocate : t.locate .target here directory = .ok location)
    (hdirectory : t.holdsDirectory location = true) (hnames : t.ProperlyNamed)
    (env : Environment) :
    (t.Readable location directory →
      ∃ texts : KeyMap String, ∃ files : Nat, ∃ violations : List Violation,
        (∀ path text, texts.get? path = some text ↔
          ∃ names bytes, FileInside t location names bytes ∧ path = pathOf names ∧
            text = Text.decodeLossy bytes) ∧
        (∀ names ∈ t.filesInside location, ∀ names' ∈ t.filesInside location,
          pathOf names = pathOf names' → names = names') ∧
        (t.filesInside location).Finite ∧ files = (t.filesInside location).ncard ∧
        violations = Screening.scan texts ∧
        (i.run here env t).1.exitCode = (if violations = [] then 0 else 4) ∧
        (i.json = false → (i.run here env t).1.out =
          if violations = [] then
            directory.toString ++ ": " ++ files.repr ++ " file(s), no violations\n"
          else
            directory.toString ++ ": " ++ violations.length.repr ++ " violation(s) in "
              ++ files.repr ++ " file(s)\n"
              ++ String.join (violations.map fun v =>
                "  " ++ v.path ++ " [" ++ v.rule.name ++ "] " ++ v.detail ++ "\n")) ∧
        (i.json = true → files < 2 ^ 64 → Json.parse? (i.run here env t).1.out =
          some (.object
            [("dir", .string directory.toString),
             ("files", .natural files),
             ("violations", .array (violations.map fun v => .object
               [("detail", .string v.detail), ("path", .string v.path),
                ("rule", .string v.rule.name)]))])) ∧
        (i.run here env t).1.err = "" ∧ (i.run here env t).2 = t ∧
        ∀ t' : FileTree, (∀ l, t'.get? l = t.get? l) →
          (i.run here env t').1 = (i.run here env t).1) ∧
    (¬ t.Readable location directory →
      ∃ cause : FileTree.Error, i.run here env t =
        (⟨1, "", "error: failed to read '" ++ directory.toString ++ "': " ++ cause.message ++ "\n"⟩,
          t)) := by
  constructor
  · intro hreadable
    rcases (FileTree.exists_texts_iff hnames).2 hreadable with ⟨texts, htexts⟩
    have hrun := run_scan hcommand hlocate hdirectory env
    rw [htexts] at hrun
    refine ⟨texts, texts.entries.length, Screening.scan texts,
      fun _ _ => FileTree.get?_texts_eq_some_iff hnames htexts, ?_,
      FileTree.finite_filesInside hnames htexts, (FileTree.ncard_filesInside hnames htexts).symm,
      rfl, ?_⟩
    · intro names h names' h'
      exact FileTree.injOn_pathOf hnames h h'
    rw [hrun]
    refine ⟨ScanReport.exitCode_eq _, ?_, ?_, rfl, rfl, ?_⟩
    · intro hjson
      rw [hjson]
      exact ScanReport.text_eq _
    · intro hjson hfiles
      rw [hjson]
      exact ScanReport.parse?_json _ hfiles
    · intro t' hsame
      have hlocate' : t'.locate .target here directory = .ok location := by
        rw [FileTree.locate_congr hsame, hlocate]
      have hdirectory' : t'.holdsDirectory location = true := by
        unfold FileTree.holdsDirectory
        rw [hsame]
        exact hdirectory
      rw [run_scan hcommand hlocate' hdirectory', FileTree.texts_congr hsame hnames htexts]
  · intro hreadable
    rw [run_scan hcommand hlocate hdirectory]
    cases htexts : t.texts location directory with
    | ok texts => exact absurd ((FileTree.exists_texts_iff hnames).1 ⟨texts, htexts⟩) hreadable
    | error e =>
      refine ⟨e, ?_⟩
      dsimp only
      rw [exitCode_unreadable, message_unreadable]

section

/-!
A pack with files of one name in two directories and bytes that are no text, a link inside it that
leads back to it, and a file beside it; and the same pack with a file that may not be read.
-/

def packTree : FileTree :=
  ⟨[(["pack", "docs", "guide.md"], .file "calm\n".toUTF8),
    (["pack", "docs"], .directory),
    (["pack", "docs", "whole"], .link "/pack"),
    (["pack", "guide.md"], .file ⟨#[36, 32, 255]⟩),
    (["pack"], .directory),
    (["guide.sh"], .file "$ make\n".toUTF8)]⟩

def sealedTree : FileTree :=
  ⟨(["pack", "key.md"], .closedFile) :: packTree.nodes⟩

def packPath : Path := ⟨false, ["pack"]⟩

def packScan : Invocation :=
  ⟨false, false, false, .scan packPath⟩

theorem packTree_properlyNamed : packTree.ProperlyNamed :=
  FileTree.properlyNamed_of_forall (by decide)

theorem sealedTree_properlyNamed : sealedTree.ProperlyNamed :=
  FileTree.properlyNamed_of_forall (by decide)

theorem packTree_collect_docs :
    packTree.collect ["pack", "docs"] ⟨false, ["pack", "docs"]⟩ "docs" =
      .ok [("docs/guide.md", "calm\n")] := by
  have hnames : packTree.names ["pack", "docs"] = ["guide.md", "whole"] := by
    decide
  have hguide : packTree.collectAt ["pack", "docs"] ⟨false, ["pack", "docs"]⟩ "docs" "guide.md" =
      .ok [("docs/guide.md", "calm\n")] :=
    FileTree.collectAt_eq_ok_iff.2 (.inr (.inl ⟨_, rfl, by decide, by decide +kernel⟩))
  have hwhole : packTree.collectAt ["pack", "docs"] ⟨false, ["pack", "docs"]⟩ "docs" "whole" =
      .ok [] := by
    refine FileTree.collectAt_eq_ok_iff.2 (.inr (.inr ⟨?_, rfl⟩))
    rintro node ⟨⟩
    exact ⟨_, rfl⟩
  refine FileTree.collect_eq_ok_iff.2 ⟨by decide, by decide,
    [[("docs/guide.md", "calm\n")], []], ?_, rfl⟩
  rw [hnames]
  exact mapM_cons_eq_ok_iff.2 ⟨_, _, hguide, mapM_cons_eq_ok_iff.2 ⟨_, _, hwhole, rfl, rfl⟩, rfl⟩

theorem packTree_collect :
    packTree.collect ["pack"] packPath "" =
      .ok [("docs/guide.md", "calm\n"), ("guide.md", "$ \uFFFD")] := by
  have hnames : packTree.names ["pack"] = ["docs", "guide.md"] := by
    decide
  have hdocs : packTree.collectAt ["pack"] packPath "" "docs" =
      .ok [("docs/guide.md", "calm\n")] :=
    FileTree.collectAt_eq_ok_iff.2 (.inl ⟨rfl, packTree_collect_docs⟩)
  have hguide : packTree.collectAt ["pack"] packPath "" "guide.md" =
      .ok [("guide.md", "$ \uFFFD")] :=
    FileTree.collectAt_eq_ok_iff.2 (.inr (.inl ⟨_, rfl, by decide, by decide +kernel⟩))
  refine FileTree.collect_eq_ok_iff.2 ⟨by decide, by decide,
    [[("docs/guide.md", "calm\n")], [("guide.md", "$ \uFFFD")]], ?_, rfl⟩
  rw [hnames]
  exact mapM_cons_eq_ok_iff.2 ⟨_, _, hdocs, mapM_cons_eq_ok_iff.2 ⟨_, _, hguide, rfl, rfl⟩, rfl⟩

theorem packTree_texts : packTree.texts ["pack"] packPath =
    .ok (.ofList [("docs/guide.md", "calm\n"), ("guide.md", "$ \uFFFD")]) := by
  unfold FileTree.texts
  rw [packTree_collect]
  rfl

theorem packTree_readable : packTree.Readable ["pack"] packPath :=
  (FileTree.exists_texts_iff packTree_properlyNamed).1 ⟨_, packTree_texts⟩

theorem sealedTree_not_readable : ¬ sealedTree.Readable ["pack"] packPath := by
  intro h
  exact (h.inside ["key.md"] .closedFile (.here rfl) nofun).2.2 rfl

theorem packPath_locate {t : FileTree} (h : t.get? ["pack"] = some .directory)
    (hopen : t.get? [] ≠ some .closedDirectory) : t.locate .target [] packPath = .ok ["pack"] := by
  have hpassable : t.Passable [] ["pack"] :=
    ⟨fun hclosed => hopen hclosed.2, fun _ => ⟨by decide, FileTree.holdsDirectory_of_get? h⟩, trivial⟩
  rw [FileTree.locate_eq_ok_iff]
  exact ⟨by decide, FileTree.walk_of_passable hpassable (by decide)⟩

theorem packTree_scan_covers_files :
    packScan.command = .scan packPath ∧
      packTree.locate .target [] packPath = .ok ["pack"] ∧
      packTree.holdsDirectory ["pack"] = true ∧ packTree.ProperlyNamed ∧
      packTree.Readable ["pack"] packPath ∧
      FileInside packTree ["pack"] ["docs", "guide.md"] "calm\n".toUTF8 ∧
      (packScan.run [] ⟨none, none, none⟩ packTree).1.out =
        "pack: 1 violation(s) in 2 file(s)\n"
          ++ "  guide.md [shell-sigil] line 1: starts with shell sigil '$'\n" ∧
      (packScan.run [] ⟨none, none, none⟩ packTree).1.exitCode = 4 ∧
      sealedTree.ProperlyNamed ∧ ¬ sealedTree.Readable ["pack"] packPath ∧
      (packScan.run [] ⟨none, none, none⟩ sealedTree).1.exitCode = 1 := by
  have hlocate := packPath_locate (t := packTree) rfl (by decide)
  have hsealed := packPath_locate (t := sealedTree) rfl (by decide)
  rcases (scan_covers_files (i := packScan) rfl hlocate rfl packTree_properlyNamed
    ⟨none, none, none⟩).1 packTree_readable with
    ⟨texts, files, violations, htexts, _, _, hfiles, hviolations, hexit, hout, _⟩
  have hagree : texts = .ofList [("docs/guide.md", "calm\n"), ("guide.md", "$ \uFFFD")] := by
    apply KeyMap.ext_get?
    intro key
    ext text
    rw [htexts, FileTree.get?_texts_eq_some_iff packTree_properlyNamed packTree_texts]
  have hcount : files = 2 := by
    rw [hfiles, FileTree.ncard_filesInside packTree_properlyNamed packTree_texts]
    rfl
  have hscan : violations =
      [⟨"guide.md", .shellSigil, "line 1: starts with shell sigil '$'"⟩] := by
    rw [hviolations, hagree]
    exact List.mergeSort_singleton _
  rcases (scan_covers_files (i := packScan) rfl hsealed rfl sealedTree_properlyNamed
    ⟨none, none, none⟩).2 sealedTree_not_readable with ⟨cause, hstop⟩
  refine ⟨rfl, hlocate, rfl, packTree_properlyNamed, packTree_readable, .further rfl (.here rfl),
    ?_, ?_, sealedTree_properlyNamed, sealedTree_not_readable, by rw [hstop]⟩
  · rw [hout rfl, hscan, hcount]
    decide +kernel
  · rw [hexit, hscan]
    rfl

end

end Invocation

end CommandLine

end GovernanceLock
