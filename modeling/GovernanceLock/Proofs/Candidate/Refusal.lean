import GovernanceLock.Proofs.Candidate
import GovernanceLock.Proofs.Manifest.Validity
import GovernanceLock.Proofs.Order.First

/-!
This module contains what is reported about lists that have no candidates: what is wrong with the
first element, tier by tier, that offers no pack, or one that its tier offers already.
-/

namespace GovernanceLock

open Except (bind_eq_error_iff exists_eq_ok_iff map_eq_error_iff pure_ne_error)
open Json (Record)
open Manifest (IsText)

namespace Candidate

def Names (v : Json) (id : PackId) : Prop :=
  ∃ r : Record, v = .object r ∧ IsText (r.field "id") id

/--
Why a value that stands behind `before` in the list of a tier is no candidate.
-/
inductive Refused (tier : Tier) (before : List Json) (v : Json) : Error → Prop where
  | notAnObject : (∀ r, v ≠ .object r) → Refused tier before v (.notAnObject tier before.length)
  | missingId {r : Record} : v = .object r → (∀ id, ¬ IsText (r.field "id") id) →
      Refused tier before v (.missingId tier before.length)
  | duplicate {id : PackId} : Names v id → (∃ w ∈ before, Names w id) →
      Refused tier before v (.duplicate tier id)

/--
Why the first value that is no candidate is none, of those behind `before` in the list of a tier.
-/
inductive FirstRefused (tier : Tier) : (before l : List Json) → Error → Prop where
  | head {before l : List Json} {v : Json} {e : Error} : Refused tier before v e →
      FirstRefused tier before (v :: l) e
  | tail {before l : List Json} {v : Json} {e : Error} : (∀ e, ¬ Refused tier before v e) →
      FirstRefused tier (before ++ [v]) l e → FirstRefused tier before (v :: l) e

/--
Why the first list with a value that is no candidate has one.
-/
def RefusedIn (offers : Offers) (e : Error) : Prop :=
  ∃ tier, FirstWith (fun tier => FirstRefused tier [] (offers.list tier))
    [.workspace, .installer, .user] tier e

theorem names_object_iff {r : Record} {id : PackId} : Names (.object r) id ↔ idOf? r = some id := by
  rw [idOf?_eq_some_iff, Manifest.nonBlank_eq_ok_iff]
  simp [Names]

section

variable {tier : Tier} {before : List Json} {seen : List PackId} {v : Json}

theorem names_of_next_eq_ok {index : Nat} {c : Candidate} (h : next tier index seen v = .ok c) :
    ∀ id, Names v id ↔ id = c.id := by
  rcases ofJson_eq_ok_iff.1 (next_eq_ok_iff.1 h).1 with ⟨r, id', rfl, hid, rfl⟩
  intro id
  rw [names_object_iff, hid, Option.some.injEq, eq_comm]

theorem next_eq_error_iff (hseen : ∀ id, id ∈ seen ↔ ∃ w ∈ before, Names w id) {e : Error} :
    next tier before.length seen v = .error e ↔ Refused tier before v e := by
  constructor
  · intro h
    unfold next at h
    rw [bind_eq_error_iff] at h
    rcases h with h | ⟨c, hc, h⟩
    · unfold ofJson at h
      split at h
      · next r =>
        split at h
        · cases h
        · next hnone =>
          cases h
          refine .missingId rfl ?_
          intro id hid
          rw [← Manifest.nonBlank_eq_ok_iff, ← idOf?_eq_some_iff, hnone] at hid
          cases hid
      · next hv =>
        cases h
        exact .notAnObject hv
    · rcases ofJson_eq_ok_iff.1 hc with ⟨r, id, rfl, hid, rfl⟩
      split at h
      · next hmem =>
        cases h
        exact .duplicate (names_object_iff.2 hid) ((hseen id).1 hmem)
      · cases h
  · intro h
    cases h with
    | notAnObject hv =>
      cases v with
      | object r => exact absurd rfl (hv r)
      | _ => rfl
    | @missingId r hv hid =>
      have hnone : idOf? r = none := by
        rw [Option.eq_none_iff_forall_ne_some]
        intro id h
        exact hid id (Manifest.nonBlank_eq_ok_iff.1 (idOf?_eq_some_iff.1 h))
      rw [hv, next, ofJson, hnone]
      rfl
    | @duplicate id hnames hbefore =>
      rcases hnames with ⟨r, rfl, hid⟩
      have hsome := names_object_iff.1 ⟨r, rfl, hid⟩
      rw [next, ofJson, hsome]
      exact if_pos ((hseen id).2 hbefore)

theorem collectFrom_eq_error_iff {l : List Json}
    (hseen : ∀ id, id ∈ seen ↔ ∃ w ∈ before, Names w id) {e : Error} :
    collectFrom tier before.length seen l = .error e ↔ FirstRefused tier before l e := by
  induction l generalizing before seen with
  | nil =>
    rw [collectFrom]
    constructor
    · intro h
      cases h
    · intro h
      cases h
  | cons v l ih =>
    rw [collectFrom_cons, bind_eq_error_iff, next_eq_error_iff hseen]
    have hrest : ∀ c, next tier before.length seen v = .ok c →
        ((collectFrom tier (before.length + 1) (c.id :: seen) l).map (c :: ·) = .error e ↔
          FirstRefused tier (before ++ [v]) l e) := by
      intro c hc
      have hseen' : ∀ id, id ∈ c.id :: seen ↔ ∃ w ∈ before ++ [v], Names w id := by
        intro id
        rw [List.mem_cons, hseen, ← names_of_next_eq_ok hc]
        simp [or_and_right, exists_or, or_comm]
      rw [map_eq_error_iff, ← ih hseen', List.length_append, List.length_singleton]
    constructor
    · rintro (h | ⟨c, hc, h⟩)
      · exact .head h
      · refine .tail ?_ ((hrest c hc).1 h)
        intro e' he'
        rw [← next_eq_error_iff hseen, hc] at he'
        cases he'
    · intro h
      cases h with
      | head h => exact .inl h
      | tail hnone h =>
        rcases Except.eq_ok_or_exists_error (next tier before.length seen v) with
          ⟨c, hc⟩ | ⟨e', he'⟩
        · exact .inr ⟨c, hc, (hrest c hc).2 h⟩
        · exact absurd ((next_eq_error_iff hseen).1 he') (hnone e')

end

theorem collectTier_eq_error_iff {offers : Offers} {tier : Tier} {e : Error} :
    collectTier offers tier = .error e ↔ FirstRefused tier [] (offers.list tier) e := by
  change collectFrom tier ([] : List Json).length [] (offers.list tier) = .error e ↔ _
  apply collectFrom_eq_error_iff
  simp

theorem collectTiers_eq_error_iff {offers : Offers} {tiers : List Tier} {e : Error} :
    collectTiers offers tiers = .error e ↔
      ∃ tier, FirstWith (fun tier => FirstRefused tier [] (offers.list tier)) tiers tier e := by
  induction tiers with
  | nil =>
    rw [collectTiers]
    constructor
    · intro h
      cases h
    · rintro ⟨tier, h⟩
      exact absurd h FirstWith.not_nil
  | cons tier tiers ih =>
    have hok : (∃ cs, collectTier offers tier = .ok cs) ↔
        ∀ e, ¬ FirstRefused tier [] (offers.list tier) e := by
      rw [exists_eq_ok_iff]
      simp only [ne_eq, collectTier_eq_error_iff]
    simp only [collectTiers, bind_eq_error_iff, collectTier_eq_error_iff, ih, pure_ne_error,
      and_false, exists_false, or_false, FirstWith.cons_iff, exists_or, exists_and_left,
      exists_and_right, exists_eq, and_true, hok]

theorem collect_eq_error_iff {offers : Offers} {e : Error} :
    collect offers = .error e ↔ RefusedIn offers e :=
  collectTiers_eq_error_iff

theorem exists_collect_iff_not_refusedIn {offers : Offers} :
    (∃ cs, collect offers = .ok cs) ↔ ∀ e, ¬ RefusedIn offers e := by
  rw [exists_eq_ok_iff]
  simp only [ne_eq, collect_eq_error_iff]

theorem exists_firstRefused_iff {tier : Tier} {before l : List Json} :
    (∃ e, FirstRefused tier before l e) ↔
      ∃ passed v rest e, l = passed ++ v :: rest ∧ Refused tier (before ++ passed) v e := by
  constructor
  · rintro ⟨e, h⟩
    induction h with
    | @head before l v e h => exact ⟨[], v, l, e, rfl, by rwa [List.append_nil]⟩
    | @tail before l v e _ _ ih =>
      rcases ih with ⟨passed, w, rest, e', rfl, h⟩
      refine ⟨v :: passed, w, rest, e', rfl, ?_⟩
      rwa [List.append_assoc, List.singleton_append] at h
  · rintro ⟨passed, v, rest, e, rfl, h⟩
    induction passed generalizing before with
    | nil =>
      rw [List.append_nil] at h
      exact ⟨e, .head h⟩
    | cons w passed ih =>
      by_cases hw : ∃ e, Refused tier before w e
      · rcases hw with ⟨e', hw⟩
        exact ⟨e', .head hw⟩
      · rw [← List.singleton_append, ← List.append_assoc] at h
        rcases ih h with ⟨e', h⟩
        exact ⟨e', .tail (not_exists.1 hw) h⟩

theorem exists_refusedIn_iff {offers : Offers} :
    (∃ e, RefusedIn offers e) ↔
      ∃ tier before v rest e, offers.list tier = before ++ v :: rest ∧
        Refused tier before v e := by
  have hmem : ∀ tier, tier ∈ [Tier.workspace, .installer, .user] := by
    intro tier
    cases tier <;> decide
  unfold RefusedIn
  rw [exists_comm, FirstWith.exists_iff]
  simp only [hmem, true_and, exists_firstRefused_iff, List.nil_append]

end Candidate

end GovernanceLock
