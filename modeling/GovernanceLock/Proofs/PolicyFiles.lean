import GovernanceLock.PolicyFiles
import GovernanceLock.Proofs.FileTree.Existence
import GovernanceLock.Proofs.Order.First
import GovernanceLock.Proofs.RecordFile

/-!
This module contains the characterization of the policy files: which file is consulted, and what is
found there. A file that is not there says nothing, and neither does one that cannot be looked up,
but any other has to hold a record.
-/

namespace GovernanceLock

open Except (map_eq_ok_iff mapError_eq_ok_iff)
open Json (Record)

namespace PolicyFiles

def placesIn (directory : Path) : List Path :=
  fileNames.map fun name => directory.join (.ofString name)

def places (given : Option Path) (directory : Option Path) : List Path :=
  match given with
  | some path => [path]
  | none => (directory.map placesIn).getD []

variable {t t' : FileTree} {here : Location}

theorem find?_isFile_congr {paths : List Path}
    (hsame : ∀ path ∈ paths, t'.at? here path = t.at? here path) :
    paths.find? (t'.isFile here) = paths.find? (t.isFile here) := by
  induction paths with
  | nil => rfl
  | cons path paths ih =>
    rw [List.forall_mem_cons] at hsame
    rw [List.find?_cons, List.find?_cons, FileTree.isFile_congr hsame.1, ih hsame.2]

def chosen (t : FileTree) (here : Location) (given : Option Path) (directory : Option Path) :
    Option Path :=
  given <|> directory.bind (firstIn t here)

theorem chosen_congr {given directory : Option Path}
    (hsame : ∀ path ∈ places given directory, t'.at? here path = t.at? here path) :
    chosen t' here given directory = chosen t here given directory := by
  cases given with
  | some path => rfl
  | none =>
    cases directory with
    | none => rfl
    | some directory => exact find?_isFile_congr hsame

theorem mem_places_of_chosen {given directory : Option Path} {path : Path}
    (h : chosen t here given directory = some path) : path ∈ places given directory := by
  cases given with
  | some given =>
    cases h
    exact List.mem_singleton.2 rfl
  | none =>
    cases directory with
    | none => cases h
    | some directory => exact List.mem_of_find?_eq_some h

/--
The file that is consulted is the one that is given, whatever stands there, or else the first that
is found to be a regular file in the usual places of a directory.
-/
inductive Consulted (t : FileTree) (here : Location) :
    (given directory : Option Path) → Path → Prop where
  | given {path : Path} {directory : Option Path} : Consulted t here (some path) directory path
  | usual {directory path : Path} :
      IsFirst (fun path => ∃ n, t.at? here path = some n ∧ n.isFile = true)
        [directory.join (.ofString "policy.json"), directory.join (.ofString "policy.toml")] path →
      Consulted t here none (some directory) path

/--
What is found in the file that is consulted: nothing, if it is not there or cannot be looked up, and
else the record that it holds.
-/
inductive Found (t : FileTree) (here : Location) (given directory : Option Path) :
    Option Record → Prop where
  | nothing : (∀ path, Consulted t here given directory path →
        ¬ t.IsThere here path ∨ t.Hidden here path) →
      Found t here given directory none
  | record {path : Path} {members : Record} : Consulted t here given directory path →
      RecordFile.Holds t here path members → Found t here given directory (some members)

section

variable {given directory : Option Path} {path : Path} {record : Option Record}

theorem chosen_eq_some_iff :
    chosen t here given directory = some path ↔ Consulted t here given directory path := by
  constructor
  · intro h
    cases given with
    | some given =>
      cases h
      exact .given
    | none =>
      cases directory with
      | none => cases h
      | some directory =>
        refine .usual ((IsFirst.find?_eq_some_iff.1 h).congr ?_)
        exact fun path _ => FileTree.isFile_iff
  · intro h
    cases h with
    | given => rfl
    | usual h =>
      refine IsFirst.find?_eq_some_iff.2 (h.congr ?_)
      exact fun path _ => FileTree.isFile_iff.symm

theorem loadFile_eq_ok_iff :
    loadFile t here (some path) = .ok record ↔
      t.at? here path = none ∧ record = none ∨
        ∃ members, RecordFile.Holds t here path members ∧ record = some members := by
  unfold loadFile FileTree.isPresent
  dsimp only
  cases hat : t.at? here path with
  | none =>
    have hno : ∀ members, ¬ RecordFile.Holds t here path members := by
      intro members h
      exact h.ne_none hat
    simp [hno, eq_comm]
  | some n =>
    rw [if_pos Option.isSome_some, mapError_eq_ok_iff, map_eq_ok_iff]
    simp [RecordFile.read_eq_ok_iff, @eq_comm _ record]

theorem loadFile_chosen_eq_ok_iff :
    loadFile t here (chosen t here given directory) = .ok record ↔
      Found t here given directory record := by
  cases hchosen : chosen t here given directory with
  | none =>
    have hno : ∀ path, ¬ Consulted t here given directory path := by
      intro path h
      rw [← chosen_eq_some_iff, hchosen] at h
      cases h
    constructor
    · intro h
      cases h
      exact .nothing fun path h => absurd h (hno path)
    · intro h
      cases h with
      | nothing => rfl
      | record h => exact absurd h (hno _)
  | some path =>
    have hconsulted := chosen_eq_some_iff.1 hchosen
    have honly : ∀ other, Consulted t here given directory other → other = path := by
      intro other h
      rw [← chosen_eq_some_iff, hchosen, Option.some.injEq] at h
      exact h.symm
    rw [loadFile_eq_ok_iff]
    constructor
    · rintro (⟨hat, rfl⟩ | ⟨members, hholds, rfl⟩)
      · refine .nothing ?_
        intro other h
        rw [honly other h]
        exact FileTree.at?_eq_none_iff.1 hat
      · exact .record hconsulted hholds
    · intro h
      cases h with
      | nothing h => exact .inl ⟨FileTree.at?_eq_none_iff.2 (h path hconsulted), rfl⟩
      | record h hholds =>
        rw [honly _ h] at hholds
        exact .inr ⟨_, hholds, rfl⟩

/--
Something is found unless the file that is consulted is there, can be looked up and holds no record.
-/
theorem exists_found_iff :
    (∃ record, Found t here given directory record) ↔
      ∀ path, Consulted t here given directory path → t.IsThere here path →
        ¬ t.Hidden here path → ∃ members, RecordFile.Holds t here path members := by
  constructor
  · rintro ⟨record, h⟩ path hpath hthere hvisible
    rw [← chosen_eq_some_iff] at hpath
    rw [← loadFile_chosen_eq_ok_iff, hpath, loadFile_eq_ok_iff] at h
    rcases h with ⟨hnone, _⟩ | ⟨members, hholds, _⟩
    · exact absurd hnone (FileTree.at?_ne_none_iff.2 ⟨hthere, hvisible⟩)
    · exact ⟨members, hholds⟩
  · intro h
    by_cases hat : ∃ path, Consulted t here given directory path ∧ t.at? here path ≠ none
    · rcases hat with ⟨path, hpath, hat⟩
      rcases FileTree.at?_ne_none_iff.1 hat with ⟨hthere, hvisible⟩
      rcases h path hpath hthere hvisible with ⟨members, hholds⟩
      exact ⟨some members, .record hpath hholds⟩
    · refine ⟨none, .nothing ?_⟩
      intro path hpath
      rw [← FileTree.at?_eq_none_iff]
      exact Decidable.byContradiction fun hne => hat ⟨path, hpath, hne⟩

theorem exists_parse?_of_loadFile {text : String} (htext : t.readText here path = .ok text)
    (h : loadFile t here (some path) = .ok record) :
    ∃ v, (RecordFile.Format.ofPath path).parse? text = some v := by
  rcases FileTree.readText_eq_ok_iff.1 htext with ⟨bytes, hat, htext⟩
  rcases loadFile_eq_ok_iff.1 h with ⟨hnone, _⟩ | ⟨members, ⟨bytes', text', hat', htext', hv⟩, _⟩
  · rw [hat] at hnone
    cases hnone
  · rw [hat] at hat'
    cases hat'
    rw [htext] at htext'
    cases htext'
    exact ⟨_, hv⟩

end

theorem loadFile_congr {file : Option Path}
    (hsame : ∀ path, file = some path → t'.at? here path = t.at? here path) :
    loadFile t' here file = loadFile t here file := by
  cases file with
  | none => rfl
  | some path =>
    have hsame := hsame path rfl
    unfold loadFile FileTree.isPresent
    dsimp only
    rw [hsame]
    cases hat : t.at? here path with
    | none => rfl
    | some n =>
      unfold RecordFile.read
      rw [RecordFile.readValue_congr hat hsame]

end PolicyFiles

end GovernanceLock
