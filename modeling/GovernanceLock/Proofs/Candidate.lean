import GovernanceLock.Candidate
import GovernanceLock.Manifest.Normalize
import GovernanceLock.Proofs.Except
import Mathlib.Data.List.Nodup

/-!
This module contains the characterization of the collected candidates: they are the records that the
lists of the tiers offer, and the candidates of one tier do not depend on the lists of the others.
-/

namespace GovernanceLock

open Except (bind_eq_ok_iff map_eq_ok_iff pure_eq_ok_iff)

def Offers.Offer (offers : Offers) (tier : Tier) (id : PackId) : Prop :=
  ∃ r, .object r ∈ offers.list tier ∧ Candidate.idOf? r = some id

def Offers.withWorkspace (offers : Offers) (l : List Json) : Offers :=
  { offers with workspace := l }

namespace Candidate

theorem idOf?_eq_some_iff {r : Json.Record} {id : PackId} :
    idOf? r = some id ↔ Manifest.nonBlank (Json.Record.field r "id") = .ok id := by
  unfold idOf? Json.Record.field
  cases KeyMap.lookup "id" r with
  | none => simp [Manifest.nonBlank]
  | some v =>
    cases v with
    | string s =>
      rw [Option.getD_some, Manifest.nonBlank]
      dsimp only
      split <;> simp
    | _ => simp [Manifest.nonBlank]

theorem ofJson_eq_ok_iff {tier : Tier} {index : Nat} {v : Json} {c : Candidate} :
    ofJson tier index v = .ok c ↔
      ∃ r id, v = .object r ∧ idOf? r = some id ∧ c = ⟨id, tier, r⟩ := by
  unfold ofJson
  split
  · next r =>
    split
    · next id hid =>
      constructor
      · intro h
        cases h
        exact ⟨r, id, rfl, hid, rfl⟩
      · rintro ⟨r', id', hr, hid', rfl⟩
        cases hr
        rw [hid] at hid'
        cases hid'
        rfl
    · next hid =>
      simp only [reduceCtorEq, false_iff]
      rintro ⟨r', id', hr, hid', _⟩
      cases hr
      rw [hid] at hid'
      cases hid'
  · next hne =>
    simp only [reduceCtorEq, false_iff]
    rintro ⟨r, _, rfl, _⟩
    exact hne r rfl

def next (tier : Tier) (index : Nat) (seen : List PackId) (v : Json) : Except Error Candidate := do
  let c ← ofJson tier index v
  if c.id ∈ seen then .error (.duplicate tier c.id) else .ok c

theorem collectFrom_cons (tier : Tier) (index : Nat) (seen : List PackId) (v : Json)
    (l : List Json) :
    collectFrom tier index seen (v :: l) =
      next tier index seen v >>= fun c =>
        (collectFrom tier (index + 1) (c.id :: seen) l).map (c :: ·) := by
  rw [collectFrom, next]
  cases ofJson tier index v with
  | error e => rfl
  | ok c =>
    change (if c.id ∈ seen then _ else _) = ((if c.id ∈ seen then _ else _) >>= _)
    split
    · rfl
    · change _ = Except.map _ _
      cases collectFrom tier (index + 1) (c.id :: seen) l with
      | error e => rfl
      | ok rest => rfl

theorem next_eq_ok_iff {tier : Tier} {index : Nat} {seen : List PackId} {v : Json}
    {c : Candidate} :
    next tier index seen v = .ok c ↔ ofJson tier index v = .ok c ∧ c.id ∉ seen := by
  unfold next
  rw [bind_eq_ok_iff]
  constructor
  · rintro ⟨d, hd, h⟩
    split at h
    · cases h
    · next hseen =>
      cases h
      exact ⟨hd, hseen⟩
  · rintro ⟨hc, hseen⟩
    exact ⟨c, hc, if_neg hseen⟩

theorem collectFrom_cons_eq_ok_iff {tier : Tier} {index : Nat} {seen : List PackId} {v : Json}
    {l : List Json} {cs : List Candidate} :
    collectFrom tier index seen (v :: l) = .ok cs ↔
      ∃ c rest, ofJson tier index v = .ok c ∧ c.id ∉ seen ∧
        collectFrom tier (index + 1) (c.id :: seen) l = .ok rest ∧ cs = c :: rest := by
  simp only [collectFrom_cons, bind_eq_ok_iff, map_eq_ok_iff, next_eq_ok_iff, and_assoc,
    exists_and_left, @eq_comm _ cs]

theorem mem_collectFrom_iff {tier : Tier} {index : Nat} {seen : List PackId} {l : List Json}
    {cs : List Candidate} (h : collectFrom tier index seen l = .ok cs) (c : Candidate) :
    c ∈ cs ↔ c.tier = tier ∧ .object c.record ∈ l ∧ idOf? c.record = some c.id := by
  induction l generalizing index seen cs with
  | nil =>
    rw [collectFrom] at h
    cases h
    simp
  | cons v l ih =>
    rw [collectFrom_cons_eq_ok_iff] at h
    rcases h with ⟨first, rest, hfirst, _, hrest, rfl⟩
    rw [ofJson_eq_ok_iff] at hfirst
    rcases hfirst with ⟨r, id, rfl, hid, rfl⟩
    rw [List.mem_cons, List.mem_cons, ih hrest]
    constructor
    · rintro (rfl | ⟨htier, hmem, hc⟩)
      · exact ⟨rfl, .inl rfl, hid⟩
      · exact ⟨htier, .inr hmem, hc⟩
    · rintro ⟨htier, hmem | hmem, hc⟩
      · left
        cases hmem
        rw [hid] at hc
        cases hc
        rw [← htier]
      · exact .inr ⟨htier, hmem, hc⟩

theorem mem_collectTier_iff {offers : Offers} {tier : Tier} {cs : List Candidate}
    (h : collectTier offers tier = .ok cs) (c : Candidate) :
    c ∈ cs ↔ c.tier = tier ∧ .object c.record ∈ offers.list tier ∧
      idOf? c.record = some c.id := by
  unfold collectTier at h
  exact mem_collectFrom_iff h c

theorem collect_eq_ok_iff {offers : Offers} {cs : List Candidate} :
    collect offers = .ok cs ↔
      ∃ workspace installer user, collectTier offers .workspace = .ok workspace ∧
        collectTier offers .installer = .ok installer ∧ collectTier offers .user = .ok user ∧
        cs = workspace ++ (installer ++ user) := by
  unfold collect Tier.all
  simp only [collectTiers, bind_eq_ok_iff, pure_eq_ok_iff, Except.ok.injEq]
  constructor
  · rintro ⟨ws, hws, _, ⟨is, his, _, ⟨us, hus, _, rfl, rfl⟩, rfl⟩, rfl⟩
    exact ⟨ws, is, us, hws, his, hus, by rw [List.append_nil]⟩
  · rintro ⟨ws, is, us, hws, his, hus, rfl⟩
    exact ⟨ws, hws, is ++ us, ⟨is, his, us, ⟨us, hus, [], rfl, by rw [List.append_nil]⟩, rfl⟩, rfl⟩

theorem mem_collect_iff {offers : Offers} {cs : List Candidate} (h : collect offers = .ok cs)
    (c : Candidate) :
    c ∈ cs ↔ .object c.record ∈ offers.list c.tier ∧ idOf? c.record = some c.id := by
  rw [collect_eq_ok_iff] at h
  rcases h with ⟨ws, is, us, hws, his, hus, rfl⟩
  rw [List.mem_append, List.mem_append, mem_collectTier_iff hws, mem_collectTier_iff his,
    mem_collectTier_iff hus]
  cases htier : c.tier <;> simp

theorem exists_mem_collect_iff {offers : Offers} {cs : List Candidate}
    (h : collect offers = .ok cs) (tier : Tier) (id : PackId) :
    (∃ c ∈ cs, c.tier = tier ∧ c.id = id) ↔ offers.Offer tier id := by
  constructor
  · rintro ⟨c, hc, rfl, rfl⟩
    exact ⟨c.record, (mem_collect_iff h c).1 hc⟩
  · rintro ⟨r, hr⟩
    exact ⟨⟨id, tier, r⟩, (mem_collect_iff h ⟨id, tier, r⟩).2 hr, rfl, rfl⟩

def offeredId? : Json → Option PackId
  | .object r => idOf? r
  | _ => none

theorem offeredId?_eq_some_iff (tier : Tier) (index : Nat) {v : Json} {id : PackId} :
    offeredId? v = some id ↔ ∃ c, ofJson tier index v = .ok c ∧ c.id = id := by
  simp only [ofJson_eq_ok_iff]
  constructor
  · intro h
    cases v with
    | object r => exact ⟨⟨id, tier, r⟩, ⟨r, id, rfl, h, rfl⟩, rfl⟩
    | _ => cases h
  · rintro ⟨_, ⟨r, id', rfl, hid, rfl⟩, rfl⟩
    exact hid

theorem exists_collectFrom_iff {tier : Tier} {index : Nat} {seen : List PackId} {l : List Json} :
    (∃ cs, collectFrom tier index seen l = .ok cs) ↔
      none ∉ l.map offeredId? ∧ (l.map offeredId?).Nodup ∧
        ∀ id ∈ seen, some id ∉ l.map offeredId? := by
  induction l generalizing index seen with
  | nil => simp [collectFrom]
  | cons v l ih =>
    simp only [collectFrom_cons_eq_ok_iff, List.map_cons, List.nodup_cons, List.mem_cons, not_or]
    constructor
    · rintro ⟨_, c, rest, hc, hseen, hrest, rfl⟩
      rcases ih.1 ⟨rest, hrest⟩ with ⟨hnone, hnodup, hfresh⟩
      rw [List.forall_mem_cons] at hfresh
      have hid : offeredId? v = some c.id := (offeredId?_eq_some_iff tier index).2 ⟨c, hc, rfl⟩
      rw [hid]
      refine ⟨⟨by simp, hnone⟩, ⟨hfresh.1, hnodup⟩, ?_⟩
      intro id hmem
      refine ⟨?_, hfresh.2 id hmem⟩
      intro heq
      cases heq
      exact hseen hmem
    · rintro ⟨⟨hsome, hnone⟩, ⟨hnew, hnodup⟩, hfresh⟩
      rcases Option.ne_none_iff_exists'.1 (Ne.symm hsome) with ⟨id, hid⟩
      rcases (offeredId?_eq_some_iff tier index).1 hid with ⟨c, hc, rfl⟩
      rw [hid] at hnew
      have hrest : ∃ rest, collectFrom tier (index + 1) (c.id :: seen) l = .ok rest := by
        rw [ih, List.forall_mem_cons]
        exact ⟨hnone, hnodup, hnew, fun id hmem => (hfresh id hmem).2⟩
      rcases hrest with ⟨rest, hrest⟩
      refine ⟨c :: rest, c, rest, hc, ?_, hrest, rfl⟩
      intro hmem
      exact (hfresh c.id hmem).1 hid.symm

theorem exists_collectTier_iff {offers : Offers} {tier : Tier} :
    (∃ cs, collectTier offers tier = .ok cs) ↔
      none ∉ (offers.list tier).map offeredId? ∧ ((offers.list tier).map offeredId?).Nodup := by
  unfold collectTier
  simp [exists_collectFrom_iff]

theorem exists_collect_iff {offers : Offers} :
    (∃ cs, collect offers = .ok cs) ↔ ∀ tier, ∃ cs, collectTier offers tier = .ok cs := by
  simp only [collect_eq_ok_iff]
  constructor
  · rintro ⟨_, ws, is, us, hws, his, hus, rfl⟩ tier
    cases tier with
    | workspace => exact ⟨ws, hws⟩
    | installer => exact ⟨is, his⟩
    | user => exact ⟨us, hus⟩
  · intro h
    rcases h .workspace with ⟨ws, hws⟩
    rcases h .installer with ⟨is, his⟩
    rcases h .user with ⟨us, hus⟩
    exact ⟨_, ws, is, us, hws, his, hus, rfl⟩

theorem eq_of_mem_collect {offers : Offers} {cs : List Candidate} (h : collect offers = .ok cs)
    {c d : Candidate} (hc : c ∈ cs) (hd : d ∈ cs) (hid : c.id = d.id) (htier : c.tier = d.tier) :
    c = d := by
  rcases (mem_collect_iff h c).1 hc with ⟨hcmem, hcid⟩
  rcases (mem_collect_iff h d).1 hd with ⟨hdmem, hdid⟩
  have hnodup := (exists_collectTier_iff.1 (exists_collect_iff.1 ⟨cs, h⟩ c.tier)).2
  rw [← htier] at hdmem
  have hsame : offeredId? (.object c.record) = offeredId? (.object d.record) := by
    rw [offeredId?, offeredId?, hcid, hdid, hid]
  have hrecord := List.inj_on_of_nodup_map hnodup hcmem hdmem hsame
  cases c
  cases d
  cases hrecord
  cases hid
  cases htier
  rfl

theorem collect_withWorkspace_nil {offers : Offers} {cs : List Candidate}
    (h : collect offers = .ok cs) :
    collect (offers.withWorkspace []) = .ok (cs.filter (·.tier ≠ .workspace)) := by
  rw [collect_eq_ok_iff] at h
  rcases h with ⟨ws, is, us, hws, his, hus, rfl⟩
  have hdrop : ws.filter (·.tier ≠ .workspace) = [] := by
    rw [List.filter_eq_nil_iff]
    intro c hc
    simp [((mem_collectTier_iff hws c).1 hc).1]
  have hkeep : (is ++ us).filter (·.tier ≠ .workspace) = is ++ us := by
    rw [List.filter_eq_self]
    intro c hc
    rcases List.mem_append.1 hc with hc | hc
    · simp [((mem_collectTier_iff his c).1 hc).1]
    · simp [((mem_collectTier_iff hus c).1 hc).1]
  rw [List.filter_append, hdrop, hkeep, collect_eq_ok_iff]
  exact ⟨[], is, us, rfl, his, hus, rfl⟩

end Candidate

end GovernanceLock
