import GovernanceLock.Proofs.FileTree.Walk
import GovernanceLock.RecordFile

/-!
This module contains the characterization of what is read from files. It is what the file that a
path leads to holds, and depends on nothing else in the tree.
-/

namespace GovernanceLock

open Except (bind_eq_ok_iff mapError_eq_ok_iff pure_eq_ok_iff throw_ne_ok)
open Json (Record)

namespace FileTree

variable {t t' : FileTree} {here : Location} {path : Path}

theorem isFile_iff :
    t.isFile here path = true ↔ ∃ n, t.at? here path = some n ∧ n.isFile = true := by
  unfold isFile
  rw [Option.any_eq_true]

theorem read_eq_ok_iff {bytes : ByteArray} :
    t.read here path = .ok bytes ↔ t.at? here path = some (.file bytes) := by
  unfold read
  rw [bind_eq_ok_iff, at?_eq_some_iff]
  refine exists_congr fun location => and_congr_right fun _ => ?_
  split
  · next h => simp [h, pure_eq_ok_iff]
  · next h => simp [h, throw_ne_ok]
  · next h => simp [h, throw_ne_ok]
  · next h => simp [h, throw_ne_ok]
  · next h => simp [h, throw_ne_ok]
  · next h => simp [h, throw_ne_ok]

theorem readText_eq_ok_iff {text : String} :
    t.readText here path = .ok text ↔
      ∃ bytes, t.at? here path = some (.file bytes) ∧ Text.ofUtf8? bytes = some text := by
  unfold readText
  simp only [bind_eq_ok_iff, read_eq_ok_iff]
  refine exists_congr fun bytes => and_congr_right fun _ => ?_
  split
  · next h => simp [h, pure_eq_ok_iff]
  · next h => simp [h, throw_ne_ok]

theorem read_congr {n : Node} (h : t.at? here path = some n)
    (hsame : t'.at? here path = t.at? here path) : t'.read here path = t.read here path := by
  rcases at?_eq_some_iff.1 h with ⟨location, hlocate, hget⟩
  rcases at?_eq_some_iff.1 (hsame.trans h) with ⟨location', hlocate', hget'⟩
  unfold read
  rw [hlocate, hlocate']
  simp only [bind, Except.bind, hget, hget']

theorem exists_at?_of_readText_eq_ok {text : String} (h : t.readText here path = .ok text) :
    ∃ n, t.at? here path = some n := by
  rcases readText_eq_ok_iff.1 h with ⟨bytes, hat, _⟩
  exact ⟨.file bytes, hat⟩

theorem readText_congr {n : Node} (h : t.at? here path = some n)
    (hsame : t'.at? here path = t.at? here path) :
    t'.readText here path = t.readText here path := by
  unfold readText
  rw [read_congr h hsame]

theorem isFile_congr (hsame : t'.at? here path = t.at? here path) :
    t'.isFile here path = t.isFile here path := by
  unfold isFile
  rw [hsame]

end FileTree

namespace RecordFile

variable {t t' : FileTree} {here : Location} {path : Path}

/--
The path leads to a file whose text denotes a record, in the format that the path tells.
-/
def Holds (t : FileTree) (here : Location) (path : Path) (members : Record) : Prop :=
  ∃ bytes text, t.at? here path = some (.file bytes) ∧ Text.ofUtf8? bytes = some text ∧
    (Format.ofPath path).parse? text = some (.object members)

theorem readValue_congr {n : FileTree.Node} (h : t.at? here path = some n)
    (hsame : t'.at? here path = t.at? here path) :
    readValue t' here path = readValue t here path := by
  unfold readValue
  rw [FileTree.readText_congr h hsame]

theorem readValue_eq_ok_iff {v : Json} :
    readValue t here path = .ok v ↔
      ∃ text, t.readText here path = .ok text ∧ (Format.ofPath path).parse? text = some v := by
  unfold readValue
  simp only [bind_eq_ok_iff, mapError_eq_ok_iff]
  refine exists_congr fun text => and_congr_right fun _ => ?_
  cases (Format.ofPath path).parse? text with
  | none => simp [throw_ne_ok]
  | some w => simp [pure_eq_ok_iff]

theorem recordOf_eq_ok_iff {v : Json} {members : Record} :
    recordOf v = .ok members ↔ v = .object members := by
  unfold recordOf
  split
  · simp
  · next hne => simpa using hne members

theorem read_eq_ok_iff {members : Record} :
    read t here path = .ok members ↔ Holds t here path members := by
  unfold read Holds
  simp only [mapError_eq_ok_iff, bind_eq_ok_iff, readValue_eq_ok_iff, recordOf_eq_ok_iff,
    exists_eq_right, FileTree.readText_eq_ok_iff]
  constructor
  · rintro ⟨text, ⟨bytes, hat, htext⟩, hparse⟩
    exact ⟨bytes, text, hat, htext, hparse⟩
  · rintro ⟨bytes, text, hat, htext, hparse⟩
    exact ⟨text, ⟨bytes, hat, htext⟩, hparse⟩

theorem Holds.ne_none {members : Record} (h : Holds t here path members) :
    t.at? here path ≠ none := by
  rcases h with ⟨bytes, text, hat, _⟩
  rw [hat]
  exact Option.some_ne_none _

theorem readList_eq_ok_iff {items : List Json} :
    readList t here path = .ok items ↔
      ∃ v, readValue t here path = .ok v ∧ listOf v = .ok items := by
  unfold readList
  rw [mapError_eq_ok_iff, bind_eq_ok_iff]

theorem exists_at?_of_readList_eq_ok {items : List Json} (h : readList t here path = .ok items) :
    ∃ n, t.at? here path = some n := by
  rcases readList_eq_ok_iff.1 h with ⟨v, hv, _⟩
  rcases readValue_eq_ok_iff.1 hv with ⟨text, htext, _⟩
  exact FileTree.exists_at?_of_readText_eq_ok htext

end RecordFile

end GovernanceLock
