import GovernanceLock.Proofs.Manifest.NormalForm

/-!
This module contains the statement that the canonical text and the digest of a manifest stand for
what its record means, and for nothing else in the record.
-/

namespace GovernanceLock

open Json (Record)

attribute [ext] CompatRange Manifest

namespace Manifest

def SameVersion (v w : Json) : Prop :=
  ∃ x y, IsVersion v x ∧ IsVersion w y ∧ x.numbers = y.numbers

def SameRange (v w : Json) : Prop :=
  ∃ range range' : Record, v = .object range ∧ w = .object range' ∧
    ∀ name ∈ ["engine_min", "engine_max"], SameVersion (range.field name) (range'.field name)

/--
The records have the same id, blanks around it aside, the same numbers in their versions, and the
same sets of entries in their lists; a list that is absent or `null` is one without entries.
-/
structure SameMeaning (r r' : Record) : Prop where
  id : ∃ t, IsText (r.field "id") t ∧ IsText (r'.field "id") t
  version : SameVersion (r.field "version") (r'.field "version")
  compat : SameRange (r.field "compat") (r'.field "compat")
  entries : ∀ name ∈
    ["requires", "conflicts_with", "artifacts", "owns_surfaces", "touches_surfaces"],
    ∀ t, IsEntry (r.field name) t ↔ IsEntry (r'.field name) t

section

variable {v w : Json}

theorem IsVersion.unique {x y : Version} (hx : IsVersion v x) (hy : IsVersion v y) : x = y := by
  rcases hx with ⟨s, rfl, _, hparse⟩
  rcases hy with ⟨s', heq, _, hparse'⟩
  cases heq
  rw [hparse, Except.ok.injEq] at hparse'
  exact hparse'

theorem IsVersion.same_iff {x y : Version} (hx : IsVersion v x) (hy : IsVersion w y) :
    SameVersion v w ↔ x = y := by
  constructor
  · rintro ⟨x', y', hx', hy', hnumbers⟩
    rw [hx.unique hx', hy.unique hy']
    exact Version.numbers_inj.1 hnumbers
  · rintro rfl
    exact ⟨x, x, hx, hy, rfl⟩

theorem IsText.same_iff {t u : String} (ht : IsText v t) (hu : IsText w u) :
    (∃ s, IsText v s ∧ IsText w s) ↔ t = u := by
  constructor
  · rintro ⟨s, hv, hw⟩
    rw [ht.unique hv, hu.unique hw]
  · rintro rfl
    exact ⟨t, ht, hu⟩

theorem IsSetOf.same_iff {l k : List String} (hl : IsSetOf l v) (hk : IsSetOf k w) :
    (∀ t, IsEntry v t ↔ IsEntry w t) ↔ l = k := by
  simp only [← hl.mem, ← hk.mem]
  constructor
  · intro h
    exact Ascending.eq_of_mem_iff hl.ascending hk.ascending h
  · rintro rfl t
    rfl

end

theorem Declares.sameRange_iff {r r' : Record} {m n : Manifest} (h : Declares r m)
    (h' : Declares r' n) :
    SameRange (r.field "compat") (r'.field "compat") ↔ m.compat = n.compat := by
  rcases h.compat with ⟨range, hrange, hmin, hmax⟩
  rcases h'.compat with ⟨range', hrange', hmin', hmax'⟩
  have hbounds : m.compat = n.compat ↔ m.compat.engineMin = n.compat.engineMin ∧
      m.compat.engineMax = n.compat.engineMax := CompatRange.ext_iff
  rw [hbounds, ← hmin.same_iff hmin', ← hmax.same_iff hmax']
  unfold SameRange
  simp [hrange, hrange']

theorem Declares.sameMeaning_iff {r r' : Record} {m n : Manifest} (h : Declares r m)
    (h' : Declares r' n) : SameMeaning r r' ↔ m = n := by
  rw [Manifest.ext_iff, ← h.id.same_iff h'.id, ← h.version.same_iff h'.version,
    ← h.sameRange_iff h', ← h.requires.same_iff h'.requires,
    ← h.conflictsWith.same_iff h'.conflictsWith, ← h.artifacts.same_iff h'.artifacts,
    ← h.ownsSurfaces.same_iff h'.ownsSurfaces, ← h.touchesSurfaces.same_iff h'.touchesSurfaces]
  constructor
  · rintro ⟨hid, hversion, hcompat, hentries⟩
    simp only [List.forall_mem_cons, List.not_mem_nil, false_implies, implies_true, and_true]
      at hentries
    rcases hentries with ⟨hrequires, hconflicts, hartifacts, howns, htouches⟩
    exact ⟨hid, hversion, hcompat, hrequires, hconflicts, howns, htouches, hartifacts⟩
  · rintro ⟨hid, hversion, hcompat, hrequires, hconflicts, howns, htouches, hartifacts⟩
    refine ⟨hid, hversion, hcompat, ?_⟩
    simp only [List.forall_mem_cons, List.not_mem_nil, false_implies, implies_true, and_true]
    exact ⟨hrequires, hconflicts, hartifacts, howns, htouches⟩

theorem sameMeaning_iff_eq {r r' : Record} {m n : Manifest} (hm : ofRecord r = .ok m)
    (hn : ofRecord r' = .ok n) : SameMeaning r r' ↔ m = n :=
  (ofRecord_eq_ok_iff_valid.1 hm).2.sameMeaning_iff (ofRecord_eq_ok_iff_valid.1 hn).2

/--
Of two records with manifests, the canonical texts are equal iff the records mean the same, which is
also when the manifests are equal, and, unless the SHA-256 values of the two texts collide, when
their digests are, which are these values in hexadecimal digits. How the records are spelled makes
no difference, and neither do other members.
-/
theorem canonicalText_eq_iff_sameMeaning {r r' : Record} {m n : Manifest}
    (hm : ofRecord r = .ok m) (hn : ofRecord r' = .ok n) :
    (m.canonicalText = n.canonicalText ↔ SameMeaning r r') ∧
      (m = n ↔ m.canonicalText = n.canonicalText) ∧
      m.digest = Sha256.hex m.canonicalText.toUTF8.toList ∧
      (Sha256.CollisionFree m.canonicalText n.canonicalText → (m = n ↔ m.digest = n.digest)) ∧
      (Respelled r r' → SameMeaning r r') := by
  refine ⟨?_, canonicalText_inj.symm, rfl, fun hfree => (digest_eq_iff hfree).symm, ?_⟩
  · rw [canonicalText_inj, sameMeaning_iff_eq hm hn]
  · intro hrel
    rw [sameMeaning_iff_eq hm hn]
    have hm' := hrel.ofRecord_eq_ok hm
    rw [hn] at hm'
    exact (Except.ok.inj hm').symm

section

/-!
The record with blanks, zeros and repeats, the same with another mark, the record of its manifest,
and one without artifacts.
-/

def markedRecord : Record :=
  untidyRecord.set "source" .null

def bareManifest : Manifest :=
  { tidyManifest with artifacts := [] }

theorem tidyManifest_ofRecord : ofRecord tidyManifest.toRecord = .ok tidyManifest := rfl

theorem bareManifest_ofRecord : ofRecord bareManifest.toRecord = .ok bareManifest := rfl

theorem markedRecord_respelled : Respelled untidyRecord markedRecord :=
  (Respelled.refl untidyRecord).set (by decide) .null

theorem tidyManifest_digest : tidyManifest.digest =
    "973696c1d0d2ce4bd641386e93ae89d7f25a5a4bef292ac92da35a2d09ab9fa9" := by
  decide +kernel

theorem bareManifest_digest : bareManifest.digest =
    "603d3f1c4d1ec94e5140e73223dfdba7afe16d8caa093c9464ceed6c676aa641" := by
  decide +kernel

theorem tidyManifest_bareManifest_collisionFree :
    Sha256.CollisionFree tidyManifest.canonicalText bareManifest.canonicalText := by
  have hne : tidyManifest.digest ≠ bareManifest.digest := by
    rw [tidyManifest_digest, bareManifest_digest]
    decide
  exact .of_hex_ne hne

theorem untidyRecord_sameMeaning :
    ofRecord untidyRecord = .ok tidyManifest ∧
      ofRecord tidyManifest.toRecord = .ok tidyManifest ∧
      ofRecord bareManifest.toRecord = .ok bareManifest ∧
      SameMeaning untidyRecord tidyManifest.toRecord ∧
      ¬ SameMeaning untidyRecord bareManifest.toRecord ∧
      Sha256.CollisionFree tidyManifest.canonicalText bareManifest.canonicalText ∧
      tidyManifest ≠ bareManifest ∧ tidyManifest.digest ≠ bareManifest.digest ∧
      tidyManifest.digest = "973696c1d0d2ce4bd641386e93ae89d7f25a5a4bef292ac92da35a2d09ab9fa9" ∧
      Respelled untidyRecord markedRecord ∧ SameMeaning untidyRecord markedRecord := by
  have hne : tidyManifest ≠ bareManifest := by decide
  rcases canonicalText_eq_iff_sameMeaning untidyRecord_ofRecord tidyManifest_ofRecord with
    ⟨hmeaning, _⟩
  rcases canonicalText_eq_iff_sameMeaning untidyRecord_ofRecord bareManifest_ofRecord with
    ⟨hbare, htexts, _, hdigests, _⟩
  have hmarked := markedRecord_respelled.ofRecord_eq_ok untidyRecord_ofRecord
  rcases canonicalText_eq_iff_sameMeaning untidyRecord_ofRecord hmarked with ⟨_, _, _, _, hspelled⟩
  refine ⟨untidyRecord_ofRecord, tidyManifest_ofRecord, bareManifest_ofRecord, hmeaning.1 rfl, ?_,
    tidyManifest_bareManifest_collisionFree, hne, ?_, tidyManifest_digest, markedRecord_respelled,
    hspelled markedRecord_respelled⟩
  · intro hmeans
    exact hne (htexts.2 (hbare.2 hmeans))
  · intro heq
    exact hne ((hdigests tidyManifest_bareManifest_collisionFree).2 heq)

end

end Manifest

end GovernanceLock
