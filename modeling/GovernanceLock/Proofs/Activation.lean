import GovernanceLock.Activation
import GovernanceLock.Proofs.Except
import GovernanceLock.Proofs.Order.First

/-!
This module contains the characterization of activation. The installer and the user always come
before the workspace, so that the workspace decides at most about packs that neither of them offers.
-/

namespace GovernanceLock.Activation

open Except (bind_eq_error_iff bind_eq_ok_iff)

def choice? (candidates : List Candidate) (policy : TrustPolicy) (id : PackId) :
    Option Candidate :=
  policy.allowed.findSome? (offer? candidates id)

def trusted? (candidates : List Candidate) (id : PackId) : Option Candidate :=
  [Tier.installer, Tier.user].findSome? (offer? candidates id)

variable {candidates : List Candidate} {policy : TrustPolicy} {id : PackId}

theorem choose_eq_ok_iff {c : Candidate} :
    choose candidates policy id = .ok c ↔ choice? candidates policy id = some c := by
  unfold choose choice?
  split
  · next h => simp [h]
  · next h => simp [h]

theorem offer?_eq_none_iff {tier : Tier} :
    offer? candidates id tier = none ↔ ∀ c ∈ candidates, c.id = id → c.tier ≠ tier := by
  unfold offer?
  rw [List.find?_eq_none]
  simp

theorem mem_of_offer?_eq_some {tier : Tier} {c : Candidate}
    (h : offer? candidates id tier = some c) : c ∈ candidates ∧ c.id = id ∧ c.tier = tier := by
  unfold offer? at h
  refine ⟨List.mem_of_find?_eq_some h, ?_⟩
  simpa using List.find?_some h

theorem exists_offer?_eq_some {c : Candidate} (hc : c ∈ candidates) :
    ∃ d, offer? candidates c.id c.tier = some d := by
  rw [← Option.ne_none_iff_exists', Ne, offer?_eq_none_iff]
  intro h
  exact h c hc rfl rfl

theorem offer?_filter_of_ne {tier : Tier} (htier : tier ≠ .workspace) :
    offer? (candidates.filter (·.tier ≠ .workspace)) id tier = offer? candidates id tier := by
  unfold offer?
  rw [List.find?_filter]
  congr 1
  funext c
  by_cases h : c.tier = tier
  · simp [h, htier]
  · simp [h]

theorem offer?_filter_workspace :
    offer? (candidates.filter (·.tier ≠ .workspace)) id .workspace = none := by
  rw [offer?_eq_none_iff]
  intro c hc _
  simpa using (List.mem_filter.1 hc).2

theorem trusted?_filter :
    trusted? (candidates.filter (·.tier ≠ .workspace)) id = trusted? candidates id := by
  unfold trusted?
  simp only [List.findSome?_cons, List.findSome?_nil]
  rw [offer?_filter_of_ne (by decide), offer?_filter_of_ne (by decide)]

theorem trusted?_eq_none_iff :
    trusted? candidates id = none ↔ ∀ c ∈ candidates, c.id = id → c.tier = .workspace := by
  unfold trusted?
  rw [List.findSome?_eq_none_iff]
  simp only [List.forall_mem_cons, List.not_mem_nil, false_implies, implies_true, and_true,
    offer?_eq_none_iff]
  constructor
  · rintro ⟨hinstaller, huser⟩ c hc hid
    cases htier : c.tier with
    | workspace => rfl
    | installer => exact absurd htier (hinstaller c hc hid)
    | user => exact absurd htier (huser c hc hid)
  · intro h
    constructor
    · intro c hc hid
      simp [h c hc hid]
    · intro c hc hid
      simp [h c hc hid]

theorem choice?_eq :
    choice? candidates policy id =
      (trusted? candidates id).or
        (if policy.workspaceOverrides then offer? candidates id .workspace else none) := by
  unfold choice? trusted? TrustPolicy.allowed
  split
  · rw [show [Tier.installer, .user, .workspace] = [Tier.installer, .user] ++ [Tier.workspace]
      from rfl, List.findSome?_append, List.findSome?_singleton]
  · rw [Option.or_none]

theorem choice?_filter :
    choice? (candidates.filter (·.tier ≠ .workspace)) policy id = trusted? candidates id := by
  rw [choice?_eq, trusted?_filter, offer?_filter_workspace, ite_self, Option.or_none]

theorem choice?_of_disabled (h : policy.workspaceOverrides = false) :
    choice? candidates policy id = trusted? candidates id := by
  rw [choice?_eq, h, if_neg Bool.false_ne_true, Option.or_none]

theorem choice?_of_trusted {c : Candidate} (h : trusted? candidates id = some c) :
    choice? candidates policy id = some c := by
  rw [choice?_eq, h, Option.some_or]

theorem choice?_eq_none_of_not_offered (h : ∀ c ∈ candidates, c.id ≠ id) :
    choice? candidates policy id = none := by
  unfold choice?
  rw [List.findSome?_eq_none_iff]
  intro tier _
  rw [offer?_eq_none_iff]
  intro c hc hid
  exact absurd hid (h c hc)

theorem choice?_rel {others : List Candidate} {R : Candidate → Candidate → Prop}
    (h : ∀ tier, Option.Rel R (offer? candidates id tier) (offer? others id tier)) :
    Option.Rel R (choice? candidates policy id) (choice? others policy id) := by
  unfold choice?
  induction policy.allowed with
  | nil => exact .none
  | cons tier rest ih =>
    rw [List.findSome?_cons, List.findSome?_cons]
    have htier := h tier
    generalize offer? candidates id tier = o at htier ⊢
    generalize offer? others id tier = o' at htier ⊢
    cases htier with
    | none => exact ih
    | some hrel => exact .some hrel

/--
Every offered pack has a candidate that may be used, and these are the active ones.
-/
structure Activates (candidates : List Candidate) (policy : TrustPolicy)
    (active : ActivePacks) : Prop where
  chosen : ∀ c ∈ candidates, ∃ d, choice? candidates policy c.id = some d
  get?_eq : ∀ id, active.get? id = (choice? candidates policy id).map (mark policy)

theorem activateAll_spec {base active : ActivePacks} {ids : List PackId}
    (h : activateAll candidates policy base ids = .ok active) :
    (∀ id ∈ ids, ∃ c, choice? candidates policy id = some c) ∧
      ∀ id, active.get? id =
        if id ∈ ids then (choice? candidates policy id).map (mark policy) else base.get? id := by
  induction ids generalizing base with
  | nil =>
    rw [activateAll] at h
    cases h
    simp
  | cons id ids ih =>
    rw [activateAll, bind_eq_ok_iff] at h
    rcases h with ⟨c, hc, h⟩
    rw [choose_eq_ok_iff] at hc
    rcases ih h with ⟨hchosen, hget⟩
    constructor
    · rw [List.forall_mem_cons]
      exact ⟨⟨c, hc⟩, hchosen⟩
    · intro k
      rw [hget k]
      -- An id that comes again is given the same record again.
      by_cases hk : k ∈ ids
      · rw [if_pos hk, if_pos (List.mem_cons_of_mem id hk)]
      · rw [if_neg hk, KeyMap.get?_insert]
        by_cases heq : k = id
        · subst heq
          rw [if_pos rfl, if_pos List.mem_cons_self, hc, Option.map_some]
        · rw [if_neg heq, if_neg (by simp [heq, hk])]

theorem exists_activateAll (base : ActivePacks) {ids : List PackId}
    (h : ∀ id ∈ ids, ∃ c, choice? candidates policy id = some c) :
    ∃ active, activateAll candidates policy base ids = .ok active := by
  induction ids generalizing base with
  | nil => exact ⟨base, rfl⟩
  | cons id ids ih =>
    rw [List.forall_mem_cons] at h
    rcases h.1 with ⟨c, hc⟩
    rcases ih (base.insert id (mark policy c)) h.2 with ⟨active, hactive⟩
    refine ⟨active, ?_⟩
    rw [activateAll, bind_eq_ok_iff]
    exact ⟨c, choose_eq_ok_iff.2 hc, hactive⟩

theorem mem_offeredIds_iff : id ∈ offeredIds candidates ↔ ∃ c ∈ candidates, c.id = id := by
  unfold offeredIds
  rw [Ascending.mem_ofList, List.mem_map]

theorem exists_select (h : ∀ c ∈ candidates, ∃ d, choice? candidates policy c.id = some d) :
    ∃ active, select candidates policy = .ok active := by
  unfold select
  apply exists_activateAll
  intro id hid
  rcases mem_offeredIds_iff.1 hid with ⟨c, hc, rfl⟩
  exact h c hc

theorem activates_of_select_eq_ok {active : ActivePacks}
    (h : select candidates policy = .ok active) : Activates candidates policy active := by
  unfold select at h
  rcases activateAll_spec h with ⟨hchosen, hget⟩
  constructor
  · intro c hc
    exact hchosen c.id (mem_offeredIds_iff.2 ⟨c, hc, rfl⟩)
  · intro id
    rw [hget]
    split
    · rfl
    · next hid =>
      rw [choice?_eq_none_of_not_offered, KeyMap.get?_empty, Option.map_none]
      intro c hc heq
      exact hid (mem_offeredIds_iff.2 ⟨c, hc, heq⟩)

theorem select_eq_ok_iff {active : ActivePacks} :
    select candidates policy = .ok active ↔ Activates candidates policy active := by
  constructor
  · exact activates_of_select_eq_ok
  · intro h
    rcases exists_select h.chosen with ⟨other, hother⟩
    have heq : other = active := by
      apply KeyMap.ext_get?
      intro id
      rw [(activates_of_select_eq_ok hother).get?_eq, h.get?_eq]
    rw [hother, heq]

theorem exists_select_filter (candidates : List Candidate) (policy : TrustPolicy) :
    ∃ active, select (candidates.filter (·.tier ≠ .workspace)) policy = .ok active := by
  apply exists_select
  intro c hc
  rw [choice?_filter, ← Option.ne_none_iff_exists']
  intro hnone
  rcases List.mem_filter.1 hc with ⟨hc, htier⟩
  rw [trusted?_eq_none_iff] at hnone
  simp [hnone c hc rfl] at htier

theorem lookup_mark {key : String} {c : Candidate} :
    KeyMap.lookup key (mark policy c) =
      if key = "policy_source" then some (.string policy.source.name)
      else if key = "source" then some (.string c.tier.name)
      else KeyMap.lookup key c.record := by
  unfold mark Json.Record.set
  rw [KeyMap.lookup_put, KeyMap.lookup_put]

theorem allowed_prefix (policy : TrustPolicy) :
    ∃ rest, policy.allowed ++ rest = [.installer, .user, .workspace] := by
  unfold TrustPolicy.allowed
  split
  · exact ⟨[], rfl⟩
  · exact ⟨[.workspace], rfl⟩

theorem isFirst_of_choice?_eq_some {c : Candidate} (h : choice? candidates policy id = some c) :
    IsFirst (fun tier => offer? candidates id tier ≠ none) [.installer, .user, .workspace]
      c.tier := by
  unfold choice? at h
  rw [List.findSome?_eq_some_iff] at h
  rcases h with ⟨before, tier, after, hallowed, hoffer, hbefore⟩
  rcases allowed_prefix policy with ⟨rest, hrest⟩
  rcases mem_of_offer?_eq_some hoffer with ⟨_, _, rfl⟩
  refine ⟨before, after ++ rest, ?_, ?_, ?_⟩
  · rw [← hrest, hallowed, List.append_assoc, List.cons_append]
  · intro hnone
    rw [hoffer] at hnone
    cases hnone
  · intro tier htier hsome
    exact hsome (hbefore tier htier)

theorem choose_eq_error_iff {e : Error} :
    choose candidates policy id = .error e ↔
      choice? candidates policy id = none ∧ e = ⟨id, offering candidates id, policy.allowed⟩ := by
  unfold choose choice?
  split
  · next h => simp [h]
  · next h => simp [h, @eq_comm _ e]

theorem offeredIds_ascending : Ascending (offeredIds candidates) :=
  Ascending.ofList_ascending _

theorem activateAll_eq_error_iff {base : ActivePacks} {ids : List PackId} {e : Error} :
    activateAll candidates policy base ids = .error e ↔
      ∃ id, ids.find? (fun id => (choice? candidates policy id).isNone) = some id ∧
        e = ⟨id, offering candidates id, policy.allowed⟩ := by
  induction ids generalizing base with
  | nil =>
    rw [activateAll]
    simp
  | cons id ids ih =>
    simp only [activateAll, bind_eq_error_iff, choose_eq_error_iff, choose_eq_ok_iff, ih]
    cases hid : choice? candidates policy id with
    | none => simp [hid]
    | some c => simp [hid]

theorem select_eq_error_iff {e : Error} :
    select candidates policy = .error e ↔
      ∃ id, Least (fun id => (∃ c ∈ candidates, c.id = id) ∧ choice? candidates policy id = none) id
        ∧ e = ⟨id, offering candidates id, policy.allowed⟩ := by
  unfold select
  simp only [activateAll_eq_error_iff, offeredIds_ascending.find?_eq_some_iff, mem_offeredIds_iff,
    Option.isNone_iff_eq_none]

namespace Activates

variable {active : ActivePacks}

theorem get?_eq_filter {rest : ActivePacks} (h : Activates candidates policy active)
    (hrest : Activates (candidates.filter (·.tier ≠ .workspace)) policy rest)
    (hid : ∃ c ∈ candidates, c.id = id ∧ c.tier ≠ .workspace) :
    ∃ r, active.get? id = some r ∧ rest.get? id = some r := by
  rcases hid with ⟨c, hc, rfl, htier⟩
  cases htrusted : trusted? candidates c.id with
  | none =>
    rw [trusted?_eq_none_iff] at htrusted
    exact absurd (htrusted c hc rfl) htier
  | some d =>
    refine ⟨mark policy d, ?_, ?_⟩
    · rw [h.get?_eq, choice?_of_trusted htrusted, Option.map_some]
    · rw [hrest.get?_eq, choice?_filter, htrusted, Option.map_some]

theorem filter (h : Activates candidates policy active)
    (hdisabled : policy.workspaceOverrides = false) :
    Activates (candidates.filter (·.tier ≠ .workspace)) policy active where
  chosen := by
    intro c hc
    rcases h.chosen c (List.mem_filter.1 hc).1 with ⟨d, hd⟩
    rw [choice?_of_disabled hdisabled] at hd
    exact ⟨d, choice?_filter.trans hd⟩
  get?_eq := by
    intro id
    rw [h.get?_eq, choice?_filter, choice?_of_disabled hdisabled]

theorem choice?_eq_choice? (h : Activates candidates policy active)
    (hdisabled : policy.workspaceOverrides = false) (other : TrustPolicy) (id : PackId) :
    choice? candidates other id = choice? candidates policy id := by
  cases hchoice : choice? candidates policy id with
  | some c =>
    rw [choice?_of_disabled hdisabled] at hchoice
    exact choice?_of_trusted hchoice
  | none =>
    -- Nobody offers this pack, or else it could not have been activated.
    apply choice?_eq_none_of_not_offered
    intro c hc hid
    rcases h.chosen c hc with ⟨d, hd⟩
    rw [hid, hchoice] at hd
    cases hd

end Activates

end GovernanceLock.Activation
