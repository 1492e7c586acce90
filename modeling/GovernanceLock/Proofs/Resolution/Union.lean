import GovernanceLock.Proofs.Resolution.Restriction
import GovernanceLock.Proofs.Resolution.Violation

/-!
This module contains the statement that two selections that can be locked can be locked together,
unless a pack that only one of them leads to does not get along with a pack that only the other one
leads to.

What either selection leads to has the requirements of all its members, so the two do not make a
cycle of requirements together, and the order of both together is that of each, interleaved.
-/

namespace GovernanceLock

open Relation (TransGen)

namespace Catalog

variable {catalog : Catalog} {C D E : PackId → Prop}

theorem reachesFrom_or_iff {p : PackId} :
    catalog.ReachesFrom (fun s => D s ∨ E s) p ↔
      catalog.ReachesFrom D p ∨ catalog.ReachesFrom E p := by
  constructor
  · rintro ⟨s, hs | hs, hp⟩
    · exact .inl ⟨s, hs, hp⟩
    · exact .inr ⟨s, hs, hp⟩
  · rintro (h | h)
    · exact h.of_forall_start fun s hs => .of_start (.inl hs)
    · exact h.of_forall_start fun s hs => .of_start (.inr hs)

theorem transGen_of_closed (hclosed : ∀ p, D p → ∀ q ∈ catalog.requires p, D q) {p q : PackId}
    (h : TransGen (catalog.RequiresWithin C) p q) (hp : D p) :
    D q ∧ TransGen (catalog.RequiresWithin D) p q := by
  induction h with
  | single hstep =>
    have hq := hclosed _ hp _ hstep.requires
    exact ⟨hq, .single ⟨hp, hq, hstep.requires⟩⟩
  | tail _ hstep ih =>
    have hq := hclosed _ ih.1 _ hstep.requires
    exact ⟨hq, .tail ih.2 ⟨ih.1, hq, hstep.requires⟩⟩

theorem Acyclic.union (hD : catalog.Acyclic D) (hE : catalog.Acyclic E)
    (hclosedD : ∀ p, D p → ∀ q ∈ catalog.requires p, D q)
    (hclosedE : ∀ p, E p → ∀ q ∈ catalog.requires p, E q) (hC : ∀ p, C p → D p ∨ E p) :
    catalog.Acyclic C := by
  intro p hcycle
  rcases TransGen.head'_iff.1 hcycle with ⟨q, hstep, _⟩
  rcases hC p hstep.left with hp | hp
  · exact hD p (transGen_of_closed hclosedD hcycle hp).2
  · exact hE p (transGen_of_closed hclosedE hcycle hp).2

end Catalog

namespace Resolution

open Json (Record)

def Apart (D E : PackId → Prop) (p q : PackId) : Prop :=
  (D p ∧ ¬ E p) ∧ (E q ∧ ¬ D q) ∨ (D q ∧ ¬ E q) ∧ (E p ∧ ¬ D p)

/--
The two packs that do not get along, if that is what the error is about.
-/
def Error.rivals? : Error → Option (PackId × PackId)
  | .conflict id other => some (id, other)
  | .surfaceConflict _ first second => some (first, second)
  | .unrequiredOwner id _ owner => some (id, owner)
  | _ => none

/--
The list `l` consists of the members of `l₁` and of `l₂`, those of either in their order.
-/
structure Interleaves (l l₁ l₂ : List PackId) : Prop where
  nodup : l.Nodup
  left : l₁.Sublist l
  right : l₂.Sublist l
  covered : ∀ p ∈ l, p ∈ l₁ ∨ p ∈ l₂

section

variable {catalog : Catalog} {engine : Version} {C D E : PackId → Prop} {e : Error}

theorem Apart.of_not_both {p q : PackId} (hp : D p ∨ E p) (hq : D q ∨ E q) (hD : D p → ¬ D q)
    (hE : E p → ¬ E q) : Apart D E p q := by
  rcases hp with hp | hp
  · have hq := hq.resolve_left (hD hp)
    exact .inl ⟨⟨hp, fun hp => hE hp hq⟩, hq, hD hp⟩
  · have hq := hq.resolve_right (hE hp)
    exact .inr ⟨⟨hq, hE hp⟩, hp, fun hp => hD hp hq⟩

theorem Dispute.exists_apart (h : Dispute catalog engine C e) (hD : Compatible catalog engine D)
    (hE : Compatible catalog engine E) (hclosedD : ∀ p, D p → ∀ q ∈ catalog.requires p, D q)
    (hclosedE : ∀ p, E p → ∀ q ∈ catalog.requires p, E q) (hC : ∀ p, C p → D p ∨ E p) :
    ∃ p q, e.rivals? = some (p, q) ∧ Apart D E p q := by
  cases h with
  | engine hid _ =>
    exfalso
    rcases hC _ hid.holds.1 with hp | hp
    · exact hid.holds.2 (hD.engine _ hp)
    · exact hid.holds.2 (hE.engine _ hp)
  | @conflict id other _ hid hother =>
    refine ⟨id, other, rfl, ?_⟩
    apply Apart.of_not_both (hC id hid.holds.1) (hC other hother.holds.1)
    · intro hp hq
      exact hD.conflictFree id other hp hq hother.holds.2
    · intro hp hq
      exact hE.conflictFree id other hp hq hother.holds.2
  | @surface first second s _ _ hsecond _ hshares =>
    have hne : first ≠ second := String.ne_of_lt hshares.lt
    refine ⟨first, second, rfl, ?_⟩
    apply Apart.of_not_both (hC first hshares.mem) (hC second hsecond.holds.1)
    · intro hp hq
      exact hne (hD.oneOwner first second s hp hq hshares.owned hshares.owns)
    · intro hp hq
      exact hne (hE.oneOwner first second s hp hq hshares.owned hshares.owns)
  | @trespass id owner s _ _ _ hid _ htrespass =>
    refine ⟨id, owner, rfl, ?_⟩
    have hne : id ≠ owner := Ne.symm htrespass.ne
    apply Apart.of_not_both (hC id hid.holds.1) (hC owner htrespass.mem)
    · intro hp hq
      apply htrespass.notRequired
      exact hD.ownerRequired id owner s hp hq hne htrespass.touches htrespass.owned
    · intro hp hq
      apply htrespass.notRequired
      exact hE.ownerRequired id owner s hp hq hne htrespass.touches htrespass.owned
  | cycle _ _ _ _ hne _ hmem =>
    exfalso
    rcases List.exists_mem_of_ne_nil _ hne with ⟨p, hp⟩
    rcases ((hmem p).1 hp).2 with ⟨q, _, hcycle⟩
    exact hD.acyclic.union hE.acyclic hclosedD hclosedE hC q hcycle

theorem Planned.order_eq {packs packs' order order' : List PackId}
    (h : Planned catalog C packs order) (h' : Planned catalog C packs' order') : order = order' := by
  have hpacks : packs = packs' := by
    apply h.ascending.eq_of_mem_iff h'.ascending
    intro p
    rw [h.mem, h'.mem]
  subst hpacks
  rw [← List.reverse_inj]
  apply h.greedy.eq_of_length_eq h'.greedy
  rw [List.length_reverse, List.length_reverse, h.perm.length_eq, h'.perm.length_eq]

theorem Planned.sublist {packs packs' order order' : List PackId} (h : Planned catalog C packs order)
    (h' : Planned catalog D packs' order') (hsub : ∀ p, D p → C p)
    (hclosed : ∀ p, D p → ∀ q ∈ catalog.requires p, D q) : order'.Sublist order := by
  rw [h'.order_eq (h.restrict hsub hclosed h'.ascending h'.mem)]
  exact List.filter_sublist

end

section

variable {records : KeyMap Record} {selected selected' : List String} {engineText : String}
variable {catalog : Catalog} {engine : Version} {a b : Lock}

theorem selected_append {id : PackId} :
    Selected (selected ++ selected') id ↔ Selected selected id ∨ Selected selected' id := by
  unfold Selected
  rw [← and_or_left]
  simp only [List.mem_append, or_and_right, exists_or]

theorem reachesFrom_append {p : PackId} :
    catalog.ReachesFrom (Selected (selected ++ selected')) p ↔
      catalog.ReachesFrom (Selected selected) p ∨ catalog.ReachesFrom (Selected selected') p := by
  rw [← Catalog.reachesFrom_or_iff]
  simp only [← selected_append]

theorem Resolvable.opened_append (h : Resolvable records selected engineText catalog engine)
    (h' : Resolvable records selected' engineText catalog engine) :
    Opened records (selected ++ selected') engineText catalog engine where
  normalizes := h.normalizes
  nonempty := by
    rcases h.nonempty with ⟨id, hid⟩
    exact ⟨id, selected_append.2 (.inl hid)⟩
  known := by
    intro id hid
    rcases selected_append.1 hid with hid | hid
    · exact h.known id hid
    · exact h'.known id hid
  parses := h.parses

theorem Planned.interleaves {packs packs' all order order' both : List PackId}
    (h : Planned catalog (catalog.ReachesFrom (Selected selected)) packs order)
    (h' : Planned catalog (catalog.ReachesFrom (Selected selected')) packs' order')
    (hboth : Planned catalog (catalog.ReachesFrom (Selected (selected ++ selected'))) all both) :
    Interleaves both order order' where
  nodup := hboth.perm.nodup_iff.2 hboth.ascending.nodup
  left := by
    apply hboth.sublist h
    · exact fun p hp => reachesFrom_append.2 (.inl hp)
    · exact fun p hp q hq => hp.tail hq
  right := by
    apply hboth.sublist h'
    · exact fun p hp => reachesFrom_append.2 (.inr hp)
    · exact fun p hp q hq => hp.tail hq
  covered := by
    intro p hp
    rw [h.mem_order, h'.mem_order, ← reachesFrom_append]
    exact (hboth.mem_order p).1 hp

theorem Resolvable.exists_apart (h : Resolvable records selected engineText catalog engine)
    (h' : Resolvable records selected' engineText catalog engine) {e : Error}
    (he : resolve records (selected ++ selected') engineText = .error e) :
    ∃ p q, e.rivals? = some (p, q) ∧ Apart (catalog.ReachesFrom (Selected selected))
      (catalog.ReachesFrom (Selected selected')) p q := by
  have hcomplete : ∀ p, catalog.ReachesFrom (Selected (selected ++ selected')) p →
      ∀ q ∈ catalog.requires p, q ∈ records.keys := by
    intro p hp
    rcases reachesFrom_append.1 hp with hp | hp
    · exact h.complete p hp
    · exact h'.complete p hp
  have hdispute := (firstViolation_of_resolve he).dispute_of_opened (h.opened_append h') hcomplete
  apply hdispute.exists_apart h.compatible h'.compatible
  · exact fun p hp q hq => hp.tail hq
  · exact fun p hp q hq => hp.tail hq
  · exact fun p hp => reachesFrom_append.1 hp

end

/--
Two selections that are resolved are resolved together, with the orders of the two interleaved,
unless a pack that only one of them locks does not get along with one that only the other one locks.
-/
theorem resolve_append {records : KeyMap Record} {selected selected' : List String}
    {engineText : String} {a b : Lock} (ha : resolve records selected engineText = .ok a)
    (hb : resolve records selected' engineText = .ok b) :
    (∃ c, resolve records (selected ++ selected') engineText = .ok c ∧
      Interleaves c.resolvedOrder a.resolvedOrder b.resolvedOrder) ∨
    ∃ e p q, resolve records (selected ++ selected') engineText = .error e ∧
      e.rivals? = some (p, q) ∧ Apart (· ∈ a.resolvedOrder) (· ∈ b.resolvedOrder) p q := by
  rcases resolve_eq_ok_iff.1 ha with ⟨catalog, engine, packs, order, hres, hplan, rfl⟩
  rcases resolve_eq_ok_iff.1 hb with ⟨catalog', engine', packs', order', hres', hplan', rfl⟩
  have hcatalog := hres'.normalizes.unique hres.normalizes
  subst hcatalog
  have hengine := hres'.parses
  rw [hres.parses, Except.ok.injEq] at hengine
  subst hengine
  rw [hres.resolvedOrder_eq fun p => (hplan.mem_order p).1,
    hres'.resolvedOrder_eq fun p => (hplan'.mem_order p).1]
  rcases Except.eq_ok_or_exists_error (resolve records (selected ++ selected') engineText) with
    ⟨c, hc⟩ | ⟨e, he⟩
  · left
    rcases resolve_eq_ok_iff.1 hc with ⟨other, _, all, both, hboth, hplanned, rfl⟩
    have hother := hboth.normalizes.unique hres.normalizes
    subst hother
    refine ⟨_, hc, ?_⟩
    rw [hboth.resolvedOrder_eq fun p => (hplanned.mem_order p).1]
    exact hplan.interleaves hplan' hplanned
  · right
    rcases hres.exists_apart hres' he with ⟨p, q, hpq, hapart⟩
    refine ⟨e, p, q, he, hpq, ?_⟩
    simpa only [Apart, hplan.mem_order, hplan'.mem_order] using hapart

section

/-!
Two packs that can each be locked, though one of them declares a conflict with the other.
-/

def feudRecords : KeyMap Record :=
  .ofList
    [("app", packRecord "app" []),
     ("tool", (packRecord "tool" []).set "conflicts_with" (.strings ["app"]))]

def toolManifest : Manifest :=
  { packManifest "tool" [] with conflictsWith := ["app"] }

def feudClosure (id : PackId) : Closed where
  catalog := .ofList [("app", packManifest "app" []), ("tool", toolManifest)]
  selection := [id]
  engine := ⟨2, 0, 0⟩
  packs := [id]

theorem feudRecords_normalizes (id : PackId) : Normalizes feudRecords (feudClosure id).catalog :=
  normalizeAll_eq_ok_iff.1 rfl

theorem feudClosure_closure {id : PackId} {m : Manifest}
    (hm : (feudClosure id).catalog.get? id = some m) (hrequires : m.requires = []) :
    (feudClosure id).catalog.closure (feudClosure id).selection = .ok (feudClosure id).packs := by
  have habsent : Closure.absent? (feudClosure id).catalog m = none := by
    unfold Closure.absent?
    rw [hrequires]
    rfl
  have hfresh : Closure.fresh m [id] = [] := by
    unfold Closure.fresh
    rw [hrequires]
    rfl
  have hsearch : Closure.search (feudClosure id).catalog [id] [id] = .ok [id] := by
    rw [Closure.search_scan hm habsent, hfresh]
    exact Closure.search_nil
  unfold Catalog.closure
  rw [Except.map_eq_ok_iff]
  exact ⟨[id], hsearch, rfl⟩

theorem feudRecords_resolve {id : PackId} {m : Manifest} (hselection : selection [id] = [id])
    (hm : (feudClosure id).catalog.get? id = some m) (hrequires : m.requires = [])
    (horder : (feudClosure id).order = .ok [id]) :
    resolve feudRecords [id] "2.0.0" = .ok (.assemble ⟨2, 0, 0⟩ [id] [m]) := by
  have hclose : close feudRecords [id] "2.0.0" = .ok (feudClosure id) := by
    rw [close_eq_ok_iff]
    refine ⟨feudRecords_normalizes id, hselection.symm, List.cons_ne_nil _ _, ?_, rfl,
      feudClosure_closure hm hrequires⟩
    intro p hp
    rw [List.mem_singleton.1 hp, KeyMap.contains_iff]
    exact ⟨m, hm⟩
  have hmanifests : manifestsOf (feudClosure id).catalog [id] = [m] := manifestsOf_cons hm
  unfold resolve
  rw [hclose, Except.bind_eq_ok_iff]
  refine ⟨feudClosure id, rfl, ?_⟩
  rw [horder, Except.bind_eq_ok_iff]
  refine ⟨[id], rfl, ?_⟩
  rw [hmanifests]
  rfl

def feudLock (m : Manifest) : Lock :=
  .assemble ⟨2, 0, 0⟩ [m.id] [m]

theorem feudRecords_resolve_append :
    resolve feudRecords ["app"] "2.0.0" = .ok (feudLock (packManifest "app" [])) ∧
      resolve feudRecords ["tool"] "2.0.0" = .ok (feudLock toolManifest) ∧
      ∃ e p q, resolve feudRecords (["app"] ++ ["tool"]) "2.0.0" = .error e ∧
        e.rivals? = some (p, q) ∧ Apart (· ∈ ["app"]) (· ∈ ["tool"]) p q := by
  have happ : resolve feudRecords ["app"] "2.0.0" = .ok (feudLock (packManifest "app" [])) := by
    apply feudRecords_resolve <;> decide
  have htool : resolve feudRecords ["tool"] "2.0.0" = .ok (feudLock toolManifest) := by
    apply feudRecords_resolve <;> decide
  refine ⟨happ, htool, ?_⟩
  rcases resolve_append happ htool with ⟨c, hc, _⟩ | herror
  · exfalso
    rcases resolve_eq_ok_iff.1 hc with ⟨catalog, engine, _, _, hres, _, _⟩
    rw [hres.normalizes.unique (feudRecords_normalizes "app")] at hres
    apply hres.compatible.conflictFree "tool" "app"
    · exact .of_start (mem_selection_iff.1 (by decide))
    · exact .of_start (mem_selection_iff.1 (by decide))
    · exact ⟨toolManifest, by decide, by decide⟩
  · exact herror

end

end Resolution

end GovernanceLock
