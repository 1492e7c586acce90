import GovernanceLock.Proofs.Json.RoundTrip
import GovernanceLock.Proofs.Lock.Encoding
import GovernanceLock.Proofs.Sha256

/-!
This module contains the statement that a sealed lock cannot be changed unnoticed: the text that its
hash is taken of tells everything but the hash.
-/

namespace GovernanceLock.Lock

/--
The lock is in order: it has the known schema and its own hash, lists its packs in installation
order, and orders everything that was selected.
-/
structure Intact (l : Lock) : Prop where
  schema : l.schema = schemaName
  sealed : l.lockHash = l.computeHash
  packs : l.packs.map (·.id) = l.resolvedOrder
  selected : ∀ id ∈ l.selected, id ∈ l.resolvedOrder

theorem verifyIntegrity_eq_ok_iff {l : Lock} {u : Unit} : l.verifyIntegrity = .ok u ↔ l.Intact := by
  have hnone : l.selected.find? (· ∉ l.resolvedOrder) = none ↔
      ∀ id ∈ l.selected, id ∈ l.resolvedOrder := by
    rw [List.find?_eq_none]
    simp
  unfold verifyIntegrity
  split
  · next hschema =>
    constructor
    · intro h
      cases h
    · intro h
      exact absurd h.schema hschema
  · next hschema =>
    split
    · next hhash =>
      constructor
      · intro h
        cases h
      · intro h
        exact absurd h.sealed.symm hhash
    · next hhash =>
      split
      · next hpacks =>
        constructor
        · intro h
          cases h
        · intro h
          exact absurd h.packs hpacks
      · next hpacks =>
        rw [Decidable.not_not] at hschema hhash hpacks
        split
        · next id hfind =>
          constructor
          · intro h
            cases h
          · intro h
            rw [hnone.2 h.selected] at hfind
            cases hfind
        · next hfind =>
          constructor
          · intro _
            exact ⟨hschema, hhash.symm, hpacks, hnone.1 hfind⟩
          · intro _
            rfl

theorem computeHash_sealUp (l : Lock) : (sealUp l).computeHash = l.computeHash := rfl

theorem intact_assemble_iff {engine : Version} {selected : List PackId} {ordered : List Manifest} :
    (assemble engine selected ordered).Intact ↔ ∀ id ∈ selected, ∃ m ∈ ordered, m.id = id := by
  have hcovered : (∀ id ∈ Ascending.ofList selected, id ∈ ordered.map (·.id)) ↔
      ∀ id ∈ selected, ∃ m ∈ ordered, m.id = id := by
    simp
  rw [← hcovered]
  constructor
  · intro h
    exact h.selected
  · intro h
    constructor
    · rfl
    · exact (computeHash_sealUp _).symm
    · simp [assemble, sealUp, LockedPack.ofManifest]
    · exact h

/--
The text that the hash is taken of tells everything but the hash, and nothing of the hash.
-/
theorem canonical_unsealed_eq_iff {l k : Lock} :
    l.unsealed.canonical = k.unsealed.canonical ↔ { l with lockHash := k.lockHash } = k := by
  have hfits : ∀ l : Lock, l.unsealed.Fits Json.depthLimit := fun l => l.unsealed_fits
  rw [← unsealed_inj]
  constructor
  · intro h
    exact Json.render_injective .canonical (hfits l) (hfits k) h
  · intro h
    rw [h]

/--
The SHA-256 values of the texts that the two hashes are taken of do not collide.
-/
def CollisionFree (l k : Lock) : Prop :=
  Sha256.CollisionFree l.unsealed.canonical k.unsealed.canonical

theorem eq_of_computeHash_eq {l k : Lock} (hfree : CollisionFree l k)
    (hcompute : l.computeHash = k.computeHash) (hhash : l.lockHash = k.lockHash) : l = k := by
  unfold computeHash at hcompute
  rw [Digest.ofText_eq_iff hfree, canonical_unsealed_eq_iff, ← hhash] at hcompute
  exact hcompute

def tampering (l : Lock) : Flaw :=
  if l.schema = schemaName then .hashMismatch l.lockHash l.computeHash
  else .unsupportedSchema l.schema

theorem verifyIntegrity_of_ne {l : Lock} (h : l.lockHash ≠ l.computeHash) :
    l.verifyIntegrity = .error l.tampering := by
  unfold verifyIntegrity tampering
  by_cases hschema : l.schema = schemaName
  · rw [if_neg (not_not_intro hschema), if_pos (Ne.symm h), if_pos hschema]
  · rw [if_pos hschema, if_neg hschema]

/--
The text that a lock is sealed with stands for the lock without its hash. So of the locks with one
hash at most one is accepted, unless digests collide: when anything in an accepted lock is changed
and its hash is kept, the lock is refused, for its schema or for its hash.
-/
theorem verifyIntegrity_tamperEvident (l k : Lock) :
    (l.unsealed.canonical = k.unsealed.canonical ↔ { l with lockHash := k.lockHash } = k) ∧
      (CollisionFree l k → l.verifyIntegrity = .ok () → k.verifyIntegrity = .ok () →
        l.lockHash = k.lockHash → l = k) ∧
      (CollisionFree l k → l.verifyIntegrity = .ok () → k.lockHash = l.lockHash → k ≠ l →
        k.verifyIntegrity = .error k.tampering) := by
  refine ⟨canonical_unsealed_eq_iff, ?_, ?_⟩
  · intro hfree hl hk hhash
    rw [verifyIntegrity_eq_ok_iff] at hl hk
    apply eq_of_computeHash_eq hfree _ hhash
    rw [← hl.sealed, hhash, hk.sealed]
  · intro hfree hl hhash hne
    rw [verifyIntegrity_eq_ok_iff] at hl
    apply verifyIntegrity_of_ne
    intro hsealed
    apply hne
    apply Eq.symm
    apply eq_of_computeHash_eq hfree _ hhash.symm
    rw [← hl.sealed, ← hhash, hsealed]

section

/-!
A lock of one pack, and the same lock after the version of the pack was changed to the next.
-/

def plainPack : LockedPack where
  id := "base"
  version := ⟨1, 2, 3⟩
  digest := "c0ffee"
  compat := ⟨⟨1, 0, 0⟩, ⟨3, 0, 0⟩⟩
  requires := []
  conflictsWith := ["rival"]
  ownsSurfaces := ["shell"]
  touchesSurfaces := []

def plainLock : Lock :=
  sealUp
    { schema := schemaName
      engineVersion := ⟨2, 0, 0⟩
      selected := ["base"]
      resolvedOrder := ["base"]
      packs := [plainPack]
      lockHash := "" }

def editedLock : Lock :=
  { plainLock with packs := [{ plainPack with version := ⟨1, 2, 4⟩ }] }

theorem plainLock_intact : plainLock.Intact where
  schema := rfl
  sealed := (computeHash_sealUp _).symm
  packs := rfl
  selected := by
    intro id hid
    exact hid

theorem plainLock_computeHash : plainLock.computeHash =
    "2ffe38f1ab31609b4a1e2ffd900e363d89a2b4eb68f2c24e3142fa5905b6430a" := by
  decide +kernel

theorem editedLock_computeHash : editedLock.computeHash =
    "9e6334cd82a889a6612b34f2529c60d4b5543a0724a78665efc9401398560fad" := by
  decide +kernel

theorem plainLock_editedLock_collisionFree : CollisionFree plainLock editedLock := by
  have hne : plainLock.computeHash ≠ editedLock.computeHash := by
    rw [plainLock_computeHash, editedLock_computeHash]
    decide
  exact .of_hex_ne hne

theorem plainLock_editedLock_tamperEvident :
    CollisionFree plainLock editedLock ∧ plainLock.verifyIntegrity = .ok () ∧
      editedLock.lockHash = plainLock.lockHash ∧ editedLock ≠ plainLock ∧
      editedLock.verifyIntegrity
        = .error (.hashMismatch plainLock.lockHash editedLock.computeHash) := by
  have hplain : plainLock.verifyIntegrity = .ok () :=
    verifyIntegrity_eq_ok_iff.2 plainLock_intact
  have hhash : editedLock.lockHash = plainLock.lockHash := by
    unfold editedLock
    rfl
  have hne : editedLock ≠ plainLock := by
    intro heq
    have hpacks : editedLock.packs = plainLock.packs := by
      rw [heq]
    exact absurd hpacks (by decide)
  have hedited := (verifyIntegrity_tamperEvident plainLock editedLock).2.2
    plainLock_editedLock_collisionFree hplain hhash hne
  exact ⟨plainLock_editedLock_collisionFree, hplain, hhash, hne, hedited⟩

end

end GovernanceLock.Lock
