import GovernanceLock.Lock.File
import GovernanceLock.Proofs.FileTree.Walk
import GovernanceLock.Proofs.Json.Fields
import GovernanceLock.Proofs.Json.RoundTrip
import GovernanceLock.Proofs.Lock.Encoding

/-!
This module contains the statement that reading a lock file undoes writing it.
-/

namespace GovernanceLock

open Json (tree)
open Json.Tree (fields?_tree_object mapM_map_eq_some text?_tree_string texts?_tree_strings)

section

variable (ascii : Bool)

theorem Version.ofTree?_tree (v : Version) : ofTree? (tree ascii v.toJson) = some v := by
  rw [ofTree?, toJson, text?_tree_string, Option.bind_some, parse_toString]
  rfl

theorem CompatRange.ofTree?_tree (r : CompatRange) : ofTree? (tree ascii r.toJson) = some r := by
  have hfields : (tree ascii r.toJson).fields? ["engine_min", "engine_max"]
      = some [tree ascii r.engineMin.toJson, tree ascii r.engineMax.toJson] := by
    rw [toJson, fields?_tree_object ascii (r.toJson_fits : r.toJson.Fits 1).ordered]
    simp [KeyMap.lookup]
  rw [ofTree?, hfields]
  simp [Version.ofTree?_tree]

theorem LockedPack.ofTree?_tree (p : LockedPack) : ofTree? (tree ascii p.toJson) = some p := by
  have hfields : (tree ascii p.toJson).fields? fieldNames
      = some [tree ascii (.string p.id), tree ascii p.version.toJson, tree ascii (.string p.digest),
          tree ascii p.compat.toJson, tree ascii (.strings p.requires),
          tree ascii (.strings p.conflictsWith), tree ascii (.strings p.ownsSurfaces),
          tree ascii (.strings p.touchesSurfaces)] := by
    rw [toJson, fields?_tree_object ascii (p.toJson_fits : p.toJson.Fits 2).ordered]
    simp [fieldNames, KeyMap.lookup]
  rw [ofTree?, hfields]
  simp [Version.ofTree?_tree, CompatRange.ofTree?_tree, text?_tree_string, texts?_tree_strings]

namespace Lock

theorem packsOf?_tree (packs : List LockedPack) :
    packsOf? (tree ascii (.array (packs.map LockedPack.toJson))) = some packs := by
  rw [tree, Json.treeItems_eq_map, List.map_map, packsOf?]
  exact mapM_map_eq_some fun p _ => LockedPack.ofTree?_tree ascii p

theorem ofTree?_tree (l : Lock) : ofTree? (tree ascii l.toJson) = some l := by
  have hfields : (tree ascii l.toJson).fields? fieldNames
      = some [tree ascii (.string l.schema), tree ascii l.engineVersion.toJson,
          tree ascii (.strings l.selected), tree ascii (.strings l.resolvedOrder),
          tree ascii (.array (l.packs.map LockedPack.toJson)),
          tree ascii (.string l.lockHash)] := by
    rw [toJson, fields?_tree_object ascii (l.toJson_fits : l.toJson.Fits 4).ordered]
    simp [fieldNames, KeyMap.lookup]
  rw [ofTree?, hfields]
  simp [Version.ofTree?_tree, packsOf?_tree, text?_tree_string, texts?_tree_strings]

end Lock

end

namespace Lock

theorem parse?_fileText (l : Lock) : parse? l.fileText = some l := by
  have hend : ∀ c ∈ "\n".toList, Json.Reader.isSpace c = true := List.forall_mem_singleton.2 rfl
  have htree : Json.Tree.parse? l.fileText.toList = some (tree true l.toJson) := by
    rw [fileText, Json.render, String.toList_append, String.toList_ofList]
    exact Json.Tree.parse?_write .file (l.toJson_fits : l.toJson.Fits 4).integral hend
  rw [parse?, htree, Option.bind_some, ofTree?_tree]

theorem read_eq_ok_iff {t : FileTree} {here : Location} {path : Path} {l : Lock} :
    read t here path = .ok l ↔ ∃ text, t.readText here path = .ok text ∧ parse? text = some l := by
  unfold read
  simp only [Except.bind_eq_ok_iff, Except.mapError_eq_ok_iff]
  constructor
  · rintro ⟨text, htext, h⟩
    refine ⟨text, htext, ?_⟩
    split at h
    · next lock hlock =>
      cases h
      exact hlock
    · cases h
  · rintro ⟨text, htext, h⟩
    refine ⟨text, htext, ?_⟩
    rw [h]
    rfl

theorem read_of_read_fileText {t : FileTree} {here : Location} {path : Path} {l : Lock}
    (h : t.read here path = .ok l.fileText.toUTF8) : read t here path = .ok l := by
  rw [read_eq_ok_iff]
  exact ⟨l.fileText, FileTree.readText_of_read_eq_ok h, parse?_fileText l⟩

/--
A lock is read back from the text of its file. So whatever text or file a lock was read from, in
whatever spelling, it is the same lock after it has been written and read again, and its text does
not change any more.
-/
theorem fileText_reads_back :
    (∀ l : Lock, parse? l.fileText = some l) ∧
      (∀ (text : String) (l : Lock), parse? text = some l →
        parse? l.fileText = some l ∧ (parse? l.fileText).map fileText = some l.fileText) ∧
      ∀ (t : FileTree) (here : Location) (path : Path) (l : Lock), read t here path = .ok l →
        ∀ (t' : FileTree) (here' : Location) (path' : Path),
          t'.readText here' path' = .ok l.fileText → read t' here' path' = .ok l := by
  refine ⟨parse?_fileText, ?_, ?_⟩
  · intro text l _
    rw [parse?_fileText]
    exact ⟨rfl, rfl⟩
  · intro t here path l _ t' here' path' h
    rw [read_eq_ok_iff]
    exact ⟨l.fileText, h, parse?_fileText l⟩

section

/-!
A lock that is spelled with a field of its own, with structures as arrays, and with versions that
have blanks and zeros.
-/

def respelledText : String :=
  "\x7b\"note\":[1e999,\"\\ud800\"],\"lock_hash\":\"é\",\"schema\":\"\\ud83d\\ude00\","
    ++ "\"packs\":[[\"app\",\"1.2.003\",\"\",[\"\\t1.0.0\",\"3.0.0\\u00a0\"],[],[\"x\"],[],[]]],"
    ++ "\"engine_version\":\" 02.0.0\",\"resolved_order\":[],\"selected\":[\"b\",\"a\",\"b\"]\x7d"

def respelledLock : Lock where
  schema := "😀"
  engineVersion := ⟨2, 0, 0⟩
  selected := ["b", "a", "b"]
  resolvedOrder := []
  packs :=
    [{ (default : LockedPack) with
       id := "app"
       version := ⟨1, 2, 3⟩
       compat := ⟨⟨1, 0, 0⟩, ⟨3, 0, 0⟩⟩
       conflictsWith := ["x"] }]
  lockHash := "é"

theorem respelledText_parse? : parse? respelledText = some respelledLock := by
  decide +kernel

def lockPath : Path := ⟨false, ["lock"]⟩

def lockTree (text : String) : FileTree :=
  ⟨[(["lock"], .file text.toUTF8)]⟩

theorem locate_lockTree (text : String) :
    (lockTree text).locate .target [] lockPath = .ok ["lock"] := by
  have haccept : FileTree.accept lockPath = .ok () := rfl
  have hsize : "lock".utf8ByteSize ≤ FileTree.nameLimit := by decide
  unfold FileTree.locate
  rw [haccept]
  simp [FileTree.walk, lockPath, lockTree, FileTree.get?, FileTree.find?, Path.isIdle,
    FileTree.Purpose.endsBefore, bind, Except.bind, hsize]

theorem readText_lockTree (text : String) :
    (lockTree text).readText [] lockPath = .ok text := by
  have hread : (lockTree text).read [] lockPath = .ok text.toUTF8 := by
    unfold FileTree.read
    rw [locate_lockTree]
    rfl
  exact FileTree.readText_of_read_eq_ok hread

theorem respelledText_reads_back :
    parse? respelledText = some respelledLock ∧
      read (lockTree respelledText) [] lockPath = .ok respelledLock ∧
      parse? respelledLock.fileText = some respelledLock ∧
      (lockTree respelledLock.fileText).readText [] lockPath = .ok respelledLock.fileText ∧
      read (lockTree respelledLock.fileText) [] lockPath = .ok respelledLock := by
  have hread : read (lockTree respelledText) [] lockPath = .ok respelledLock :=
    read_eq_ok_iff.2 ⟨respelledText, readText_lockTree _, respelledText_parse?⟩
  have hagain := readText_lockTree respelledLock.fileText
  rcases fileText_reads_back with ⟨_, htext, hfile⟩
  exact ⟨respelledText_parse?, hread, (htext _ _ respelledText_parse?).1, hagain,
    hfile _ _ _ _ hread _ _ _ hagain⟩

end

end Lock

end GovernanceLock
