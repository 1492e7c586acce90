import GovernanceLock.Proofs.FileTree.Path
import GovernanceLock.Proofs.FileTree.Segments
import GovernanceLock.Proofs.Manifest.Faults
import GovernanceLock.Proofs.Manifest.NormalForm
import GovernanceLock.Proofs.Screening.Report

/-!
This module contains the statement that the artifact paths of a manifest stay inside the pack: from
whatever directory they are followed, they only lead further into it, each to a place of its own.
-/

namespace GovernanceLock

open GovernanceLock.Path (IsName follow location)

namespace ArtifactPath

def names (path : String) : List String :=
  (components path).map String.ofList

/--
The path is relative, names no drive, and has only names between its slashes.
-/
structure IsPlain (path : String) : Prop where
  relative : (Path.ofString path).rooted = false
  noBackslash : '\\' ∉ path.toList
  noColon : ':' ∉ path.toList
  isName : ∀ name ∈ names path, IsName name

variable {path other : String} {base : Location}

theorem names_eq_segments (path : String) : names path = Path.segments path :=
  rfl

theorem names_ne_nil (path : String) : names path ≠ [] :=
  Path.segments_ne_nil path

theorem names_inj : names path = names other ↔ path = other := by
  constructor
  · intro h
    rw [← Path.joinTexts_segments path, ← Path.joinTexts_segments other]
    exact congrArg _ h
  · rintro rfl
    rfl

theorem ofString_eq (path : String) :
    Path.ofString path = ⟨true, (names path).tail⟩ ∧ "" ∈ names path ∨
      Path.ofString path = ⟨false, names path⟩ := by
  rw [names_eq_segments]
  rcases Path.ofString_cases path with ⟨rest, rfl, heq⟩ | ⟨_, heq⟩
  · rw [heq, Path.segments_slash]
    exact .inl ⟨rfl, List.mem_cons_self⟩
  · exact .inr heq

theorem isName_ofList_iff {cs : List Char} :
    IsName (String.ofList cs) ↔ cs ≠ [] ∧ cs ≠ ['.'] ∧ cs ≠ ['.', '.'] := by
  have hdot : String.ofList cs = "." ↔ cs = ['.'] := @String.ofList_inj cs ['.']
  have hparent : String.ofList cs = ".." ↔ cs = ['.', '.'] := @String.ofList_inj cs ['.', '.']
  unfold IsName Path.isIdle
  rw [Bool.or_eq_false_iff, beq_eq_false_iff_ne, beq_eq_false_iff_ne, ne_eq, ne_eq, ne_eq, hdot,
    hparent, String.ofList_eq_empty_iff, and_assoc]

theorem isSafe_iff : isSafe path = true ↔ IsPlain path := by
  have hnames :
      (components path).all (fun c => !c.isEmpty && c != ['.'] && c != ['.', '.']) = true ↔
        ∀ name ∈ names path, IsName name := by
    unfold names
    simp [isName_ofList_iff, and_assoc]
  unfold isSafe
  rw [Bool.and_eq_true, Bool.and_eq_true, hnames]
  simp only [Bool.not_eq_true', List.contains_eq_mem, decide_eq_false_iff_not]
  constructor
  · rintro ⟨⟨hbackslash, hcolon⟩, hname⟩
    refine ⟨?_, hbackslash, hcolon, hname⟩
    rcases ofString_eq path with ⟨_, hempty⟩ | heq
    · exact absurd rfl (hname "" hempty).ne_empty
    · rw [heq]
  · intro h
    exact ⟨⟨h.noBackslash, h.noColon⟩, h.isName⟩

namespace IsPlain

theorem ofString_eq (h : IsPlain path) : Path.ofString path = ⟨false, names path⟩ := by
  rcases ArtifactPath.ofString_eq path with ⟨_, hempty⟩ | heq
  · exact absurd rfl (h.isName "" hempty).ne_empty
  · exact heq

end IsPlain

theorem follow_of_forall_isName {pieces : List String} (h : ∀ piece ∈ pieces, IsName piece) :
    follow base pieces = base ++ pieces := by
  induction pieces generalizing base with
  | nil => exact (List.append_nil base).symm
  | cons piece rest ih =>
    rw [List.forall_mem_cons] at h
    have hrest : follow (base ++ [piece]) rest = base ++ [piece] ++ rest := ih h.2
    rw [follow, List.foldl_cons, Path.enter_of_isName h.1, ← follow, hrest, List.append_assoc,
      List.singleton_append]

namespace IsPlain

theorem location_eq (h : IsPlain path) (base : Location) :
    location base (.ofString path) = base ++ names path := by
  rw [h.ofString_eq]
  exact follow_of_forall_isName h.isName

theorem isPrefix_location (h : IsPlain path) (base : Location) {before : List String}
    (hbefore : before <+: (Path.ofString path).pieces) :
    base <+: location base { Path.ofString path with pieces := before } := by
  rw [h.ofString_eq] at hbefore ⊢
  have hnames : ∀ name ∈ before, IsName name := fun name hname =>
    h.isName name (hbefore.subset hname)
  exact ⟨before, (follow_of_forall_isName hnames).symm⟩

theorem location_inj (h : IsPlain path) (hother : IsPlain other) :
    location base (.ofString path) = location base (.ofString other) ↔ path = other := by
  rw [h.location_eq, hother.location_eq, List.append_cancel_left_eq, names_inj]

end IsPlain

end ArtifactPath

theorem Screening.Flagged.isSafe_eq_false {path text : String} {v : Violation}
    (h : Flagged path text v) (hrule : v.rule = .unsafePath) :
    ArtifactPath.isSafe path = false := by
  cases h with
  | unsafePath h => exact h
  | noExtension => cases hrule
  | otherExtension => cases hrule
  | onLine => exact absurd hrule (LineRule.rule_ne _).1

namespace Manifest

open ArtifactPath (IsPlain names)

theorem Condition.isSafe_eq_false_of_violated {r : Json.Record} {path : String} {c : Condition}
    (hc : c ∈ conditions) (h : c.Violated r (.unsafePath path)) :
    ArtifactPath.isSafe path = false := by
  have htext : ∀ v, ¬ TextFault v (.unsafePath path) := nofun
  have hversion : ∀ v, ¬ VersionFault v (.unsafePath path) := by
    rintro v (hfault | _)
    exact htext v hfault
  have hobject : ∀ v, ¬ ObjectFault v (.unsafePath path) := nofun
  have hitem : ∀ v, ¬ ItemFault v (.unsafePath path) := nofun
  have hlist : ∀ v, ¬ ListFault v (.unsafePath path) := by
    rintro v (⟨_, hfirst⟩ | _)
    exact hitem _ hfirst.2
  have hothers : ∀ name, ¬ (others name).Violated r (.unsafePath path) := by
    rintro name ⟨hfault, _⟩
    cases hfault
  have hinner : ∀ field outer name,
      ¬ (innerVersion field outer name).Violated r (.unsafePath path) := by
    rintro field outer name ⟨_, _, hfault⟩
    exact hversion _ hfault
  unfold conditions at hc
  simp only [List.mem_cons, List.not_mem_nil, or_false] at hc
  rcases hc with rfl | rfl | rfl | rfl | rfl | rfl | rfl | rfl | rfl | rfl | rfl | rfl | rfl
  · exact absurd h (htext _)
  · exact absurd h (hversion _)
  · exact absurd h (hobject _)
  · exact absurd h (hinner _ _ _)
  · exact absurd h (hinner _ _ _)
  · exact absurd h (hlist _)
  · exact absurd h (hlist _)
  · exact absurd h (hothers _)
  · exact absurd h (hothers _)
  · exact absurd h (hlist _)
  · rcases h with ⟨_, hfault, hleast⟩
    cases hfault
    exact hleast.holds.2
  · exact absurd h (hlist _)
  · exact absurd h (hlist _)

theorem not_isPlain_of_unsafePath {r : Json.Record} {e : Error} {path : String}
    (h : ofRecord r = .error e) (hfault : e.fault = .unsafePath path) : ¬ IsPlain path := by
  rcases (ofRecord_eq_error_iff.1 h).2 with ⟨c, ⟨hfirst, hviolated⟩, _⟩
  rw [hfault] at hviolated
  rw [← ArtifactPath.isSafe_iff, Condition.isSafe_eq_false_of_violated hfirst.mem hviolated]
  exact Bool.false_ne_true

/--
The artifact paths of a manifest, followed from any directory piece by piece, never leave it and end
inside it, at the place that their names make. They name no drive, and different paths end at
different places. Neither a record nor a pack is ever refused for a path that is plain.
-/
theorem artifacts_stay_inside (r : Json.Record) :
    (∀ m, ofRecord r = .ok m →
      (∀ path ∈ m.artifacts,
        (∀ base before, before <+: (Path.ofString path).pieces →
          base <+: location base { Path.ofString path with pieces := before }) ∧
        (∀ base, location base (.ofString path) = base ++ names path) ∧ names path ≠ [] ∧
        '\\' ∉ path.toList ∧ ':' ∉ path.toList) ∧
      ∀ base, ∀ path ∈ m.artifacts, ∀ other ∈ m.artifacts,
        location base (.ofString path) = location base (.ofString other) → path = other) ∧
    (∀ e path, ofRecord r = .error e → e.fault = .unsafePath path → ¬ IsPlain path) ∧
    ∀ files, ∀ v ∈ Screening.scan files, v.rule = .unsafePath → ¬ IsPlain v.path := by
  refine ⟨?_, fun e path => not_isPlain_of_unsafePath, ?_⟩
  · intro m hm
    have hplain : ∀ path ∈ m.artifacts, IsPlain path := fun path hpath =>
      ArtifactPath.isSafe_iff.1 ((ofRecord_eq_ok_iff.1 hm).safe path hpath)
    refine ⟨?_, ?_⟩
    · intro path hpath
      have h := hplain path hpath
      exact ⟨fun base _ => h.isPrefix_location base, h.location_eq, ArtifactPath.names_ne_nil path,
        h.noBackslash, h.noColon⟩
    · intro base path hpath other hother
      exact ((hplain path hpath).location_inj (hplain other hother)).1
  · intro files v hv hrule hplain
    rcases Screening.mem_scan_iff.1 hv with ⟨path, text, _, hflagged⟩
    rw [hflagged.path_eq, ← ArtifactPath.isSafe_iff, hflagged.isSafe_eq_false hrule] at hplain
    exact Bool.false_ne_true hplain

section

/-!
A record with artifacts that are repeated, and one with an artifact that has two names.
-/

def aliasRecord : Json.Record :=
  untidyRecord.set "artifacts" (.strings ["a.md", " notes//é.md "])

theorem aliasRecord_ofRecord :
    ofRecord aliasRecord = .error ⟨"app", "artifacts", .unsafePath "notes//é.md"⟩ := rfl

theorem untidyRecord_artifacts_stay_inside :
    ofRecord untidyRecord = .ok tidyManifest ∧ tidyManifest.artifacts = ["a.md", "notes/é.md"] ∧
      location ["srv", "app"] (.ofString "notes/é.md") = ["srv", "app", "notes", "é.md"] ∧
      ["srv", "app"] <+: location ["srv", "app"] ⟨false, ["notes"]⟩ ∧
      ¬ IsPlain "notes//é.md" := by
  rcases artifacts_stay_inside untidyRecord with ⟨haccepted, _, _⟩
  rcases (haccepted tidyManifest untidyRecord_ofRecord).1 "notes/é.md" (by decide) with
    ⟨hinside, hend, _⟩
  refine ⟨untidyRecord_ofRecord, rfl, hend _, hinside _ ["notes"] ⟨["é.md"], rfl⟩, ?_⟩
  exact (artifacts_stay_inside aliasRecord).2.1 _ _ aliasRecord_ofRecord rfl

end

end Manifest

end GovernanceLock
