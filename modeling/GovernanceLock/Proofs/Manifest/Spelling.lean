import GovernanceLock.Proofs.Manifest.Normalize
import GovernanceLock.Proofs.Version

/-!
This module contains the proof that a manifest does not depend on how its record is spelled: on
blanks around texts, on zeros in front of version components, on the order of lists and repeats in
them, and on members that are no fields.
-/

namespace GovernanceLock

open Except (map_eq_ok_iff mapError_eq_ok_iff bind_eq_ok_iff)
open Json (Record)

/--
The same value, or two values of one form with related contents.
-/
inductive Json.Rel (form : α → Json) (R : α → α → Prop) : Json → Json → Prop where
  | same (v : Json) : Rel form R v v
  | contents {a b : α} (h : R a b) : Rel form R (form a) (form b)

theorem Json.Rel.symm {form : α → Json} {R : α → α → Prop} {v w : Json} (h : Rel form R v w)
    (hR : ∀ a b, R a b → R b a) : Rel form R w v := by
  cases h with
  | same => exact .same v
  | contents h => exact .contents (hR _ _ h)

namespace Manifest

def CoveredBy (l k : List Json) : Prop :=
  ∀ v ∈ l, ∃ w ∈ k, Json.Rel .string Text.Repadded v w

/--
The same items, in any order and any number of times.
-/
def SameItems (l k : List Json) : Prop :=
  CoveredBy l k ∧ CoveredBy k l

def SameBounds (range range' : Record) : Prop :=
  ∀ name ∈ ["engine_min", "engine_max"],
    Json.Rel .string Version.Respelled (range.field name) (range'.field name)

/--
The same record, spelled in another way.
-/
structure Respelled (r r' : Record) : Prop where
  id : Json.Rel .string Text.Repadded (r.field "id") (r'.field "id")
  version : Json.Rel .string Version.Respelled (r.field "version") (r'.field "version")
  compat : Json.Rel .object SameBounds (r.field "compat") (r'.field "compat")
  lists : ∀ name ∈ ["requires", "conflicts_with", "artifacts", "owns_surfaces", "touches_surfaces"],
    Json.Rel .array SameItems (r.field name) (r'.field name)

theorem Respelled.refl (r : Record) : Respelled r r :=
  ⟨.same _, .same _, .same _, fun _ _ => .same _⟩

theorem Respelled.symm {r r' : Record} (h : Respelled r r') : Respelled r' r where
  id := h.id.symm fun _ _ h => h.symm
  version := h.version.symm fun _ _ h => h.symm
  compat := by
    apply h.compat.symm
    intro range range' hbounds name hname
    exact (hbounds name hname).symm fun _ _ h => h.symm
  lists := by
    intro name hname
    apply (h.lists name hname).symm
    intro l k hitems
    exact ⟨hitems.2, hitems.1⟩

theorem Respelled.set {r r' : Record} (h : Respelled r r') {key : String}
    (hkey : key ∉ fieldNames) (v : Json) : Respelled r (r'.set key v) := by
  have hfield : ∀ name ∈ fieldNames, (r'.set key v).field name = r'.field name := by
    intro name hname
    apply field_set_of_ne
    intro heq
    exact hkey (heq ▸ hname)
  constructor
  · rw [hfield "id" (by decide)]
    exact h.id
  · rw [hfield "version" (by decide)]
    exact h.version
  · rw [hfield "compat" (by decide)]
    exact h.compat
  · intro name hname
    have hmem : name ∈ fieldNames := by
      revert name
      decide
    rw [hfield name hmem]
    exact h.lists name hname

theorem nonBlank_string_eq_ok_iff {s t : String} :
    nonBlank (.string s) = .ok t ↔ Text.trim s.toList ≠ [] ∧ Text.trimmed s = t := by
  rw [nonBlank]
  split
  · next h => simp [List.isEmpty_iff.1 h]
  · next h =>
    rw [List.isEmpty_iff] at h
    simp [h]

theorem nonBlank_congr {v w : Json} (h : Json.Rel .string Text.Repadded v w) :
    nonBlank v = nonBlank w := by
  cases h with
  | same => rfl
  | @contents s t h =>
    rcases h with ⟨core, hs, ht⟩
    simp only [nonBlank, Text.trimmed, hs.trim_eq, ht.trim_eq]

theorem versionText_string_eq_ok_iff {s : String} {v : Version} :
    versionText (.string s) = .ok v ↔ Version.parse s = .ok v := by
  unfold versionText
  simp only [bind_eq_ok_iff, mapError_eq_ok_iff, nonBlank_string_eq_ok_iff]
  constructor
  · rintro ⟨_, ⟨_, rfl⟩, h⟩
    rw [Version.parse_trimmed] at h
    exact h
  · intro h
    refine ⟨Text.trimmed s, ⟨?_, rfl⟩, ?_⟩
    · intro hnil
      rw [Version.parse_eq_ok_iff, hnil] at h
      cases h
    · rw [Version.parse_trimmed]
      exact h

theorem versionText_congr {v w : Json} (h : Json.Rel .string Version.Respelled v w)
    {x : Version} : versionText v = .ok x ↔ versionText w = .ok x := by
  cases h with
  | same => rfl
  | contents h =>
    rw [versionText_string_eq_ok_iff, versionText_string_eq_ok_iff, h.parse_eq_ok_iff]

theorem entries_cons_eq_ok_iff {v : Json} {l : List Json} {ts : List String} :
    entries (v :: l) = .ok ts ↔
      ∃ t rest, nonBlank v = .ok t ∧ entries l = .ok rest ∧ ts = t :: rest := by
  cases v with
  | string s =>
    rw [entries]
    split
    · next h => simp [nonBlank_string_eq_ok_iff, List.isEmpty_iff.1 h]
    · next h =>
      rw [List.isEmpty_iff] at h
      simp only [map_eq_ok_iff, nonBlank_string_eq_ok_iff]
      constructor
      · rintro ⟨rest, hrest, rfl⟩
        exact ⟨Text.trimmed s, rest, ⟨h, rfl⟩, hrest, rfl⟩
      · rintro ⟨t, rest, ⟨_, rfl⟩, hrest, rfl⟩
        exact ⟨rest, hrest, rfl⟩
  | _ => simp [entries, nonBlank]

theorem exists_entries_iff {l : List Json} :
    (∃ ts, entries l = .ok ts) ↔ ∀ v ∈ l, ∃ t, nonBlank v = .ok t := by
  induction l with
  | nil => simp [entries]
  | cons v l ih =>
    rw [List.forall_mem_cons, ← ih]
    simp only [entries_cons_eq_ok_iff]
    constructor
    · rintro ⟨_, t, rest, ht, hrest, rfl⟩
      exact ⟨⟨t, ht⟩, rest, hrest⟩
    · rintro ⟨⟨t, ht⟩, rest, hrest⟩
      exact ⟨t :: rest, t, rest, ht, hrest, rfl⟩

theorem mem_entries_iff {l : List Json} {ts : List String} (h : entries l = .ok ts) {t : String} :
    t ∈ ts ↔ ∃ v ∈ l, nonBlank v = .ok t := by
  induction l generalizing ts with
  | nil =>
    cases h
    simp
  | cons v l ih =>
    rw [entries_cons_eq_ok_iff] at h
    rcases h with ⟨first, rest, hfirst, hrest, rfl⟩
    rw [List.mem_cons, List.exists_mem_cons_iff, ih hrest, hfirst, Except.ok.injEq, eq_comm]

theorem textSet_array_eq_ok_iff {l : List Json} {ts : List String} :
    textSet (.array l) = .ok ts ↔
      Ascending ts ∧ (∀ v ∈ l, ∃ t, nonBlank v = .ok t) ∧
        ∀ t, t ∈ ts ↔ ∃ v ∈ l, nonBlank v = .ok t := by
  rw [textSet, map_eq_ok_iff, ← exists_entries_iff]
  constructor
  · rintro ⟨items, hitems, rfl⟩
    refine ⟨Ascending.ofList_ascending items, ⟨items, hitems⟩, ?_⟩
    intro t
    rw [Ascending.mem_ofList, mem_entries_iff hitems]
  · rintro ⟨hasc, ⟨items, hitems⟩, hmem⟩
    refine ⟨items, hitems, ?_⟩
    apply Ascending.eq_of_mem_iff (Ascending.ofList_ascending items) hasc
    intro t
    rw [Ascending.mem_ofList, mem_entries_iff hitems, hmem]

theorem CoveredBy.exists_nonBlank {l k : List Json} (h : CoveredBy l k) {t : String}
    (ht : ∃ v ∈ l, nonBlank v = .ok t) : ∃ w ∈ k, nonBlank w = .ok t := by
  rcases ht with ⟨v, hv, ht⟩
  rcases h v hv with ⟨w, hw, hrel⟩
  rw [nonBlank_congr hrel] at ht
  exact ⟨w, hw, ht⟩

theorem CoveredBy.forall_nonBlank {l k : List Json} (h : CoveredBy l k)
    (hk : ∀ w ∈ k, ∃ t, nonBlank w = .ok t) : ∀ v ∈ l, ∃ t, nonBlank v = .ok t := by
  intro v hv
  rcases h v hv with ⟨w, hw, hrel⟩
  rw [nonBlank_congr hrel]
  exact hk w hw

theorem textSet_eq_ok_of_rel {v w : Json} (h : Json.Rel .array SameItems v w) {ts : List String}
    (hv : textSet v = .ok ts) : textSet w = .ok ts := by
  cases h with
  | same => exact hv
  | contents h =>
    rw [textSet_array_eq_ok_iff] at hv ⊢
    rcases hv with ⟨hasc, hall, hmem⟩
    refine ⟨hasc, h.2.forall_nonBlank hall, ?_⟩
    intro t
    rw [hmem]
    exact ⟨h.1.exists_nonBlank, h.2.exists_nonBlank⟩

theorem exists_members_of_rel {v w : Json} (h : Json.Rel .object SameBounds v w) {range : Record}
    (hv : members v = .ok range) : ∃ range', members w = .ok range' ∧ SameBounds range range' := by
  cases h with
  | same => exact ⟨range, hv, fun _ _ => .same _⟩
  | contents h =>
    cases hv
    exact ⟨_, rfl, h⟩

theorem Describes.of_respelled {r r' : Record} {m : Manifest} (h : Describes r m)
    (hrel : Respelled r r') : Describes r' m := by
  have hlists := hrel.lists
  simp only [List.forall_mem_cons, List.not_mem_nil, false_implies, implies_true, and_true]
    at hlists
  rcases hlists with ⟨hrequires, hconflicts, hartifacts, howns, htouches⟩
  rcases h.compat with ⟨range, hrange, hmin, hmax⟩
  rcases exists_members_of_rel hrel.compat hrange with ⟨range', hrange', hbounds⟩
  constructor
  · rw [← nonBlank_congr hrel.id]
    exact h.id
  · rw [← versionText_congr hrel.version]
    exact h.version
  · refine ⟨range', hrange', ?_, ?_⟩
    · rw [← versionText_congr (hbounds "engine_min" (by simp))]
      exact hmin
    · rw [← versionText_congr (hbounds "engine_max" (by simp))]
      exact hmax
  · exact textSet_eq_ok_of_rel hrequires h.requires
  · exact textSet_eq_ok_of_rel hconflicts h.conflictsWith
  · exact h.requiresOthers
  · exact h.conflictsWithOthers
  · exact textSet_eq_ok_of_rel hartifacts h.artifacts
  · exact h.safe
  · exact textSet_eq_ok_of_rel howns h.ownsSurfaces
  · exact textSet_eq_ok_of_rel htouches h.touchesSurfaces

theorem Respelled.ofRecord_eq_ok {r r' : Record} (h : Respelled r r') {m : Manifest}
    (hm : ofRecord r = .ok m) : ofRecord r' = .ok m := by
  rw [ofRecord_eq_ok_iff] at hm ⊢
  exact hm.of_respelled h

end Manifest

end GovernanceLock
