import GovernanceLock.Proofs.Lock.Reader
import GovernanceLock.Proofs.Lock.Seal
import GovernanceLock.Proofs.Resolution.Reproduction

/-!
This module contains the statement that the locks which are made here are in order, and stay so when
they are read back.
-/

namespace GovernanceLock

namespace Resolution

open Json (Record)

theorem intact_of_resolve_eq_ok {records : KeyMap Record} {selected : List String}
    {engineText : String} {lock : Lock} (h : resolve records selected engineText = .ok lock) :
    lock.Intact := by
  rcases resolve_eq_ok_iff.1 h with ⟨catalog, engine, packs, order, hres, hplan, rfl⟩
  rw [Lock.intact_assemble_iff]
  intro id hid
  -- The plan goes over all that the selection leads to, so over the selection itself.
  have hreach : catalog.ReachesFrom (Selected selected) id := .of_start (mem_selection_iff.1 hid)
  rcases hres.exists_manifest hreach with ⟨m, hm, hmid⟩
  have horder : id ∈ order := (hplan.mem_order id).2 hreach
  exact ⟨m, List.mem_filterMap.2 ⟨id, horder, hm⟩, hmid⟩

end Resolution

namespace Lock

open Json (Record)
open Resolution (appLock lockedRecords lockedRecords_resolve)

/--
A lock that is assembled passes its own check iff manifests of all that was selected are there, so
every lock of a resolution passes it, and passes it again when it is read back.
-/
theorem verifyIntegrity_assembled :
    (∀ (engine : Version) (selected : List PackId) (ordered : List Manifest),
      (assemble engine selected ordered).verifyIntegrity = .ok () ↔
        ∀ id ∈ selected, ∃ m ∈ ordered, m.id = id) ∧
      ∀ (records : KeyMap Record) (selected : List String) (engineText : String) (l : Lock),
        Resolution.resolve records selected engineText = .ok l →
          l.verifyIntegrity = .ok () ∧
            (∃ again, parse? l.fileText = some again ∧ again.verifyIntegrity = .ok ()) ∧
            ∀ (t : FileTree) (here : Location) (path : Path),
              t.readText here path = .ok l.fileText →
                ∃ again, read t here path = .ok again ∧ again.verifyIntegrity = .ok () := by
  constructor
  · intro engine selected ordered
    rw [verifyIntegrity_eq_ok_iff, intact_assemble_iff]
  · intro records selected engineText l h
    have hok : l.verifyIntegrity = .ok () :=
      verifyIntegrity_eq_ok_iff.2 (Resolution.intact_of_resolve_eq_ok h)
    refine ⟨hok, ⟨l, parse?_fileText l, hok⟩, ?_⟩
    intro t here path htext
    exact ⟨l, read_eq_ok_iff.2 ⟨l.fileText, htext, parse?_fileText l⟩, hok⟩

theorem appLock_verifyIntegrity :
    Resolution.resolve lockedRecords ["app", " ", " app "] "02.0.0" = .ok appLock ∧
      appLock.verifyIntegrity = .ok () ∧
      (lockTree appLock.fileText).readText [] lockPath = .ok appLock.fileText ∧
      ∃ again, read (lockTree appLock.fileText) [] lockPath = .ok again ∧
        again.verifyIntegrity = .ok () := by
  have htext := readText_lockTree appLock.fileText
  rcases verifyIntegrity_assembled.2 _ _ _ _ lockedRecords_resolve with ⟨hok, _, hread⟩
  exact ⟨lockedRecords_resolve, hok, htext, hread _ _ _ htext⟩

end Lock

end GovernanceLock
