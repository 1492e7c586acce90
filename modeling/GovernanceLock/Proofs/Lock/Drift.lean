import GovernanceLock.Proofs.Manifest.Encoding
import GovernanceLock.Proofs.Resolution.Reproduction

/-!
This module contains the statement that the manifests of today pass the check against a lock iff
every locked pack still has the manifest it was locked with, and that otherwise the check names the
first pack that does not.
-/

namespace GovernanceLock

open Json (Record)

namespace Lock

/--
What is wrong with a pack that was locked with the manifest `m`.
-/
inductive Drifted (current : KeyMap Manifest) (id : PackId) (m : Manifest) : Flaw → Prop where
  | gone : current.get? id = none → Drifted current id m (.packGone id)
  | changed {n : Manifest} :
      current.get? id = some n → n ≠ m → Drifted current id m (.packChanged id m.digest n.digest)

section

variable {current : KeyMap Manifest} {m : Manifest}

theorem drift?_eq_none_iff (hfree : ∀ n, current.get? m.id = some n → n.CollisionFree m) :
    drift? current (.ofManifest m) = none ↔ current.get? m.id = some m := by
  unfold drift?
  dsimp only [LockedPack.ofManifest]
  cases hn : current.get? m.id with
  | none => simp
  | some n => simp [Manifest.digest_eq_iff (hfree n hn)]

theorem drift?_eq_some_iff (hfree : ∀ n, current.get? m.id = some n → n.CollisionFree m)
    {flaw : Flaw} :
    drift? current (.ofManifest m) = some flaw ↔ Drifted current m.id m flaw := by
  unfold drift?
  dsimp only [LockedPack.ofManifest]
  cases hn : current.get? m.id with
  | none =>
    constructor
    · intro h
      cases h
      exact .gone hn
    · intro h
      cases h with
      | gone => rfl
      | changed hget _ =>
        rw [hn] at hget
        cases hget
  | some n =>
    simp only [Manifest.digest_eq_iff (hfree n hn)]
    constructor
    · intro h
      split at h
      · cases h
      · next hne =>
        cases h
        exact .changed hn hne
    · intro h
      cases h with
      | gone hget =>
        rw [hn] at hget
        cases hget
      | changed hget hne =>
        rw [hn] at hget
        cases hget
        rw [if_neg hne]

theorem verifyManifests_eq_ok_iff {l : Lock} :
    l.verifyManifests current = .ok () ↔ l.packs.findSome? (drift? current) = none := by
  unfold verifyManifests
  split
  · next h => simp [h]
  · next h => simp [h]

theorem verifyManifests_eq_error_iff {l : Lock} {flaw : Flaw} :
    l.verifyManifests current = .error flaw ↔ l.packs.findSome? (drift? current) = some flaw := by
  unfold verifyManifests
  split
  · next h => simp [h]
  · next h => simp [h]

variable {engine : Version} {selected : List PackId} {ordered : List Manifest}

theorem verifyManifests_assemble_eq_ok_iff
    (hfree : ∀ m ∈ ordered, ∀ n, current.get? m.id = some n → n.CollisionFree m) :
    (assemble engine selected ordered).verifyManifests current = .ok () ↔
      ∀ m ∈ ordered, current.get? m.id = some m := by
  have hpacks : (assemble engine selected ordered).packs = ordered.map .ofManifest := rfl
  rw [verifyManifests_eq_ok_iff, hpacks, List.findSome?_map, List.findSome?_eq_none_iff]
  constructor
  · intro h m hm
    exact (drift?_eq_none_iff (hfree m hm)).1 (h m hm)
  · intro h m hm
    exact (drift?_eq_none_iff (hfree m hm)).2 (h m hm)

theorem verifyManifests_assemble_eq_error_iff
    (hfree : ∀ m ∈ ordered, ∀ n, current.get? m.id = some n → n.CollisionFree m) {flaw : Flaw} :
    (assemble engine selected ordered).verifyManifests current = .error flaw ↔
      ∃ before m after, ordered = before ++ m :: after ∧
        Drifted current m.id m flaw ∧ ∀ p ∈ before, current.get? p.id = some p := by
  have hpacks : (assemble engine selected ordered).packs = ordered.map .ofManifest := rfl
  rw [verifyManifests_eq_error_iff, hpacks, List.findSome?_map, List.findSome?_eq_some_iff]
  constructor
  · rintro ⟨before, m, after, rfl, hm, hbefore⟩
    refine ⟨before, m, after, rfl, ?_, ?_⟩
    · exact (drift?_eq_some_iff (hfree m (by simp))).1 hm
    · intro p hp
      exact (drift?_eq_none_iff (hfree p (by simp [hp]))).1 (hbefore p hp)
  · rintro ⟨before, m, after, rfl, hm, hbefore⟩
    refine ⟨before, m, after, rfl, ?_, ?_⟩
    · exact (drift?_eq_some_iff (hfree m (by simp))).2 hm
    · intro p hp
      exact (drift?_eq_none_iff (hfree p (by simp [hp]))).2 (hbefore p hp)

end

end Lock

namespace Resolution

/--
The manifest that a pack was locked with: what its record normalizes to.
-/
def Locked (records : KeyMap Record) (id : PackId) (m : Manifest) : Prop :=
  ∃ r, records.get? id = some r ∧ Manifest.ofRecord r = .ok m

theorem Locked.unique {records : KeyMap Record} {id : PackId} {m n : Manifest}
    (hm : Locked records id m) (hn : Locked records id n) : m = n := by
  rcases hm with ⟨r, hr, hm⟩
  rcases hn with ⟨r', hr', hn⟩
  rw [hr, Option.some.injEq] at hr'
  rw [← hr', hm] at hn
  exact Except.ok.inj hn

variable {records : KeyMap Record} {selected : List String} {engineText : String} {lock : Lock}

theorem exists_assemble_of_resolve_eq_ok (h : resolve records selected engineText = .ok lock) :
    ∃ engine ordered, lock = .assemble engine (selection selected) ordered ∧
      lock.resolvedOrder = ordered.map (·.id) ∧ ∀ m ∈ ordered, Locked records m.id m := by
  rcases resolve_eq_ok_iff.1 h with ⟨catalog, engine, packs, order, hres, _, rfl⟩
  refine ⟨engine, manifestsOf catalog order, rfl, rfl, ?_⟩
  intro m hm
  rcases List.mem_filterMap.1 hm with ⟨id, _, hget⟩
  rcases hres.normalizes.exists_record hget with ⟨r, hr, hofRecord, rfl⟩
  exact ⟨r, hr, hofRecord⟩

theorem exists_locked_of_mem_packs (h : resolve records selected engineText = .ok lock)
    {pack : LockedPack} (hpack : pack ∈ lock.packs) : ∃ m, Locked records pack.id m := by
  rcases exists_assemble_of_resolve_eq_ok h with ⟨engine, ordered, rfl, _, hlocked⟩
  rcases List.mem_map.1 hpack with ⟨m, hm, rfl⟩
  exact ⟨m, hlocked m hm⟩

end Resolution

namespace Lock

open Resolution (Locked)

/--
The manifests of today pass the check against a lock iff every pack of it still has the manifest it
was locked with; otherwise the check blames the first pack, in installation order, that has none or
another one. This takes for granted that the digests which the check compares do not collide.
-/
theorem verifyManifests_exact {records : KeyMap Record} {selected : List String}
    {engineText : String} {lock : Lock} {current : KeyMap Manifest}
    (hlock : Resolution.resolve records selected engineText = .ok lock)
    (hfree : ∀ id ∈ lock.resolvedOrder, ∀ m n, Locked records id m → current.get? id = some n →
      n.CollisionFree m) :
    (lock.verifyManifests current = .ok () ↔
      ∀ id ∈ lock.resolvedOrder, ∃ m, Locked records id m ∧ current.get? id = some m) ∧
      ∀ flaw, lock.verifyManifests current = .error flaw ↔
        ∃ before id after, lock.resolvedOrder = before ++ id :: after ∧
          (∃ m, Locked records id m ∧ Drifted current id m flaw) ∧
          ∀ p ∈ before, ∃ m, Locked records p m ∧ current.get? p = some m := by
  rcases Resolution.exists_assemble_of_resolve_eq_ok hlock
    with ⟨engine, ordered, hassemble, horder, hlocked⟩
  have hfree' : ∀ m ∈ ordered, ∀ n, current.get? m.id = some n → n.CollisionFree m := by
    intro m hm n hn
    apply hfree m.id _ m n (hlocked m hm) hn
    rw [horder]
    exact List.mem_map_of_mem hm
  -- What is said of a locked manifest is said of the one manifest that its pack was locked with.
  have hsame : ∀ m ∈ ordered,
      (∃ n, Locked records m.id n ∧ current.get? m.id = some n) ↔ current.get? m.id = some m := by
    intro m hm
    constructor
    · rintro ⟨n, hn, hget⟩
      cases (hlocked m hm).unique hn
      exact hget
    · intro hget
      exact ⟨m, hlocked m hm, hget⟩
  rw [horder, hassemble]
  constructor
  · rw [verifyManifests_assemble_eq_ok_iff hfree', List.forall_mem_map]
    exact forall₂_congr fun m hm => (hsame m hm).symm
  · intro flaw
    rw [verifyManifests_assemble_eq_error_iff hfree']
    constructor
    · rintro ⟨before, m, after, rfl, hflaw, hbefore⟩
      refine ⟨before.map (·.id), m.id, after.map (·.id), ?_, ⟨m, hlocked m (by simp), hflaw⟩, ?_⟩
      · rw [List.map_append, List.map_cons]
      · rw [List.forall_mem_map]
        intro p hp
        exact (hsame p (by simp [hp])).2 (hbefore p hp)
    · rintro ⟨ids, id, rest, heq, ⟨n, hn, hflaw⟩, hids⟩
      rcases List.map_eq_append_iff.1 heq with ⟨before, tail, rfl, rfl, htail⟩
      rcases List.map_eq_cons_iff.1 htail with ⟨m, after, rfl, rfl, rfl⟩
      rw [hn.unique (hlocked m (by simp))] at hflaw
      rw [List.forall_mem_map] at hids
      refine ⟨before, m, after, rfl, hflaw, ?_⟩
      intro p hp
      exact (hsame p (by simp [hp])).1 (hids p hp)

section

/-!
The manifests of a lock, one of which was given an artifact afterwards, which no lock records.
-/

open Resolution (appClosure appLock lockedRecords lockedRecords_resolve packManifest
  packManifest_base_digest)

def grownBase : Manifest :=
  { packManifest "base" [] with artifacts := ["notes.md"] }

def grownManifests : KeyMap Manifest :=
  appClosure.catalog.insert "base" grownBase

theorem grownBase_digest : grownBase.digest =
    "c064a208846e4e060bca1f260d30e221b63f8b6cb3be962ae5ab8eafa760da9d" := by
  decide +kernel

theorem grownBase_collisionFree : grownBase.CollisionFree (packManifest "base" []) := by
  have hne : grownBase.digest ≠ (packManifest "base" []).digest := by
    rw [grownBase_digest, packManifest_base_digest]
    decide
  exact .of_hex_ne hne

theorem lockedRecords_app : Locked lockedRecords "app" (packManifest "app" ["base"]) :=
  ⟨_, rfl, rfl⟩

theorem lockedRecords_base : Locked lockedRecords "base" (packManifest "base" []) :=
  ⟨_, rfl, rfl⟩

theorem grownManifests_collisionFree : ∀ id ∈ appLock.resolvedOrder, ∀ m n,
    Locked lockedRecords id m → grownManifests.get? id = some n → n.CollisionFree m := by
  have horder : appLock.resolvedOrder = ["base", "app"] := rfl
  rw [horder]
  intro id hid m n hm hn
  simp only [List.mem_cons, List.not_mem_nil, or_false] at hid
  rcases hid with rfl | rfl
  · cases hm.unique lockedRecords_base
    cases (Option.some.inj hn : grownBase = n)
    exact grownBase_collisionFree
  · cases hm.unique lockedRecords_app
    cases (Option.some.inj hn : packManifest "app" ["base"] = n)
    intro _
    rfl

theorem grownManifests_verifyManifests :
    Resolution.resolve lockedRecords ["app", " ", " app "] "02.0.0" = .ok appLock ∧
      (∀ id ∈ appLock.resolvedOrder, ∀ m n, Locked lockedRecords id m →
        grownManifests.get? id = some n → n.CollisionFree m) ∧
      appLock.verifyManifests grownManifests =
        .error (.packChanged "base" (packManifest "base" []).digest grownBase.digest) := by
  refine ⟨lockedRecords_resolve, grownManifests_collisionFree, ?_⟩
  apply ((verifyManifests_exact lockedRecords_resolve grownManifests_collisionFree).2 _).2
  refine ⟨[], "base", ["app"], rfl, ⟨packManifest "base" [], lockedRecords_base, ?_⟩, by simp⟩
  apply Drifted.changed
  · rfl
  · decide

end

end Lock

end GovernanceLock
