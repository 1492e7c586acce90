import GovernanceLock.Proofs.Resolution.Violation

/-!
This module contains the statement that the engine version of a resolution decides whether there is
a lock, but not what the lock says about packs: the versions for which a selection is resolved form
an interval, with the same packs in the same order for all of them, and whatever else is wrong with
the packs is wrong for every version.
-/

namespace GovernanceLock

open Except (bind_eq_error_iff bind_eq_ok_iff map_eq_error_iff map_eq_ok_iff pure_eq_ok_iff)
open Except (pure_ne_error)
open Json (Record)

/--
The locks differ in the engine version and the hash at most.
-/
def Lock.SamePacks (lock lock' : Lock) : Prop :=
  lock' = { lock with engineVersion := lock'.engineVersion, lockHash := lock'.lockHash }

theorem Lock.samePacks_assemble (engine engine' : Version) (selected : List PackId)
    (ordered : List Manifest) :
    (assemble engine selected ordered).SamePacks (assemble engine' selected ordered) :=
  rfl

theorem Catalog.Supports.between {catalog : Catalog} {p : PackId} {e₁ e e₂ : Version}
    (h₁ : catalog.Supports p e₁) (h₂ : catalog.Supports p e₂) (hle₁ : e₁.numbers ≤ e.numbers)
    (hle₂ : e.numbers ≤ e₂.numbers) : catalog.Supports p e := by
  intro m hm
  have hmin := CompatRange.contains_iff.1 (h₁ m hm)
  have hmax := CompatRange.contains_iff.1 (h₂ m hm)
  rw [CompatRange.contains_iff]
  exact ⟨hmin.1.trans hle₁, hle₂.trans hmax.2⟩

namespace Resolution

def Error.IsAboutEngine (e : Error) : Prop :=
  ∃ id engine range, e = .incompatibleEngine id engine range

namespace Closed

def forEngine (c : Closed) (engine : Version) : Closed :=
  { c with engine }

def arrange (c : Closed) : Except Error (List PackId) := do
  checkConflicts c.catalog c.packs c.packs
  let owners ← ownersOf c.catalog .empty c.packs
  checkTouches c.catalog owners c.packs
  (c.catalog.installOrder c.packs).mapError ofOrderError

theorem order_eq (c : Closed) :
    c.order = checkEngine c.catalog c.engine c.packs >>= fun _ => c.arrange :=
  rfl

theorem arrange_forEngine (c : Closed) (engine : Version) :
    (c.forEngine engine).arrange = c.arrange :=
  rfl

theorem order_eq_ok_iff_arrange {c : Closed} {order : List PackId} :
    c.order = .ok order ↔
      (∀ p ∈ c.packs, c.catalog.Supports p c.engine) ∧ c.arrange = .ok order := by
  rw [order_eq, bind_eq_ok_iff]
  simp only [checkEngine_eq_ok_iff, exists_and_left, exists_const]

theorem order_eq_error {c : Closed} {e : Error} (h : c.order = .error e) :
    e.IsAboutEngine ∨ c.arrange = .error e := by
  rw [order_eq, bind_eq_error_iff] at h
  rcases h with h | ⟨_, _, h⟩
  · left
    rcases checkEngine_eq_error h with ⟨id, m, _, _, rfl⟩
    exact ⟨id, c.engine, m.compat, rfl⟩
  · exact .inr h

theorem exists_order_eq_error {c : Closed} {e : Error} (h : c.arrange = .error e) :
    ∃ e', c.order = .error e' ∧ (e' = e ∨ e'.IsAboutEngine) := by
  rcases Except.eq_ok_or_exists_error c.order with ⟨order, horder⟩ | ⟨e', he'⟩
  · rw [order_eq_ok_iff_arrange, h] at horder
    cases horder.2
  · refine ⟨e', he', ?_⟩
    rcases order_eq_error he' with hengine | harrange
    · exact .inr hengine
    · rw [h, Except.error.injEq] at harrange
      exact .inl harrange.symm

end Closed

section

variable {records : KeyMap Record} {selected : List String} {text text' : String}
variable {engine engine' : Version}

theorem close_forEngine (h : Version.parse text = .ok engine)
    (h' : Version.parse text' = .ok engine') :
    close records selected text' = (close records selected text).map (·.forEngine engine') := by
  unfold close
  rw [h, h']
  dsimp only [bind, Except.bind, Except.mapError_ok]
  split
  · rfl
  · split
    · rfl
    · split
      · rfl
      · rfl

theorem resolve_eq_ok_iff_arrange {lock : Lock} :
    resolve records selected text = .ok lock ↔
      ∃ c order, close records selected text = .ok c ∧
        (∀ p ∈ c.packs, c.catalog.Supports p c.engine) ∧ c.arrange = .ok order ∧
        lock = Lock.assemble c.engine c.selection (manifestsOf c.catalog order) := by
  unfold resolve
  simp only [bind_eq_ok_iff, pure_eq_ok_iff, Closed.order_eq_ok_iff_arrange]
  constructor
  · rintro ⟨c, hclose, order, ⟨hengine, horder⟩, rfl⟩
    exact ⟨c, order, hclose, hengine, horder, rfl⟩
  · rintro ⟨c, order, hclose, hengine, horder, rfl⟩
    exact ⟨c, hclose, order, ⟨hengine, horder⟩, rfl⟩

theorem resolve_eq_error_iff {e : Error} :
    resolve records selected text = .error e ↔
      close records selected text = .error e ∨
        ∃ c, close records selected text = .ok c ∧ c.order = .error e := by
  unfold resolve
  simp only [bind_eq_error_iff, pure_ne_error, and_false, exists_false, or_false]

theorem exists_resolve_between {text₁ text₂ : String} {e₁ e₂ : Version} {lock₁ lock₂ : Lock}
    (hparse₁ : Version.parse text₁ = .ok e₁) (hparse : Version.parse text = .ok engine)
    (hparse₂ : Version.parse text₂ = .ok e₂) (hle₁ : e₁.numbers ≤ engine.numbers)
    (hle₂ : engine.numbers ≤ e₂.numbers) (h₁ : resolve records selected text₁ = .ok lock₁)
    (h₂ : resolve records selected text₂ = .ok lock₂) :
    ∃ lock, resolve records selected text = .ok lock ∧ lock.engineVersion = engine ∧
      lock.SamePacks lock₁ ∧ lock.SamePacks lock₂ := by
  rcases resolve_eq_ok_iff_arrange.1 h₁ with ⟨c, order, hclose, hengine₁, horder, rfl⟩
  rcases resolve_eq_ok_iff_arrange.1 h₂ with ⟨c₂, order₂, hclose₂, hengine₂, horder₂, rfl⟩
  have hengine := (close_eq_ok_iff.1 hclose).2.2.2.2.1
  rw [hparse₁, Except.ok.injEq] at hengine
  rw [close_forEngine hparse₁ hparse₂, hclose, map_eq_ok_iff] at hclose₂
  rcases hclose₂ with ⟨_, hc, rfl⟩
  cases hc
  rw [Closed.arrange_forEngine, horder, Except.ok.injEq] at horder₂
  subst horder₂
  refine ⟨.assemble engine c.selection (manifestsOf c.catalog order), ?_, rfl, ?_, ?_⟩
  · rw [resolve_eq_ok_iff_arrange]
    refine ⟨c.forEngine engine, order, ?_, ?_, horder, rfl⟩
    · rw [close_forEngine hparse₁ hparse, hclose]
      rfl
    · intro p hp
      apply (hengine₁ p hp).between (hengine₂ p hp) _ hle₂
      rw [← hengine]
      exact hle₁
  · apply Lock.samePacks_assemble
  · apply Lock.samePacks_assemble

theorem exists_resolve_eq_error {e : Error} (hparse : Version.parse text = .ok engine)
    (hparse' : Version.parse text' = .ok engine') (h : resolve records selected text = .error e)
    (hengine : ¬ e.IsAboutEngine) :
    ∃ e', resolve records selected text' = .error e' ∧ (e' = e ∨ e'.IsAboutEngine) := by
  rcases resolve_eq_error_iff.1 h with h | ⟨c, hclose, h⟩
  · refine ⟨e, ?_, .inl rfl⟩
    rw [resolve_eq_error_iff, close_forEngine hparse hparse', map_eq_error_iff]
    exact .inl h
  · have harrange := (Closed.order_eq_error h).resolve_left hengine
    rw [← c.arrange_forEngine engine'] at harrange
    rcases Closed.exists_order_eq_error harrange with ⟨e', he', hor⟩
    refine ⟨e', ?_, hor⟩
    rw [resolve_eq_error_iff, close_forEngine hparse hparse', hclose]
    exact .inr ⟨c.forEngine engine', rfl, he'⟩

end

/--
The engine versions for which a selection is resolved form an interval, and the locks for them
differ in nothing but the version and the hash. A selection that is refused for one version, but not
because of it, is refused for all.
-/
theorem resolve_engine_interval (records : KeyMap Record) (selected : List String) :
    (∀ text₁ text text₂ e₁ e e₂, Version.parse text₁ = .ok e₁ → Version.parse text = .ok e →
      Version.parse text₂ = .ok e₂ → e₁.numbers ≤ e.numbers → e.numbers ≤ e₂.numbers →
      ∀ lock₁ lock₂, resolve records selected text₁ = .ok lock₁ →
        resolve records selected text₂ = .ok lock₂ →
        ∃ lock, resolve records selected text = .ok lock ∧ lock.engineVersion = e ∧
          lock.SamePacks lock₁ ∧ lock.SamePacks lock₂) ∧
    ∀ text e cause, Version.parse text = .ok e → resolve records selected text = .error cause →
      ¬ cause.IsAboutEngine → ∀ text' e', Version.parse text' = .ok e' →
        ∃ cause', resolve records selected text' = .error cause' ∧
          (cause' = cause ∨ cause'.IsAboutEngine) := by
  constructor
  · intro text₁ text text₂ e₁ e e₂ hparse₁ hparse hparse₂ hle₁ hle₂ lock₁ lock₂ h₁ h₂
    exact exists_resolve_between hparse₁ hparse hparse₂ hle₁ hle₂ h₁ h₂
  · intro text e cause hparse h hengine text' e' hparse'
    exact exists_resolve_eq_error hparse hparse' h hengine

section

/-!
The lock of `app` and `base` for versions whose texts are in another order than their numbers, and
two packs that do not get along for any version.
-/

def baseAppLock (engine : Version) : Lock :=
  .assemble engine ["app"] [packManifest "base" [], packManifest "app" ["base"]]

theorem lockedRecords_resolve_engine {text : String} {engine : Version}
    (hparse : Version.parse text = .ok engine)
    (hengine : checkEngine appClosure.catalog engine appClosure.packs = .ok ()) :
    resolve lockedRecords ["app", " ", " app "] text = .ok (baseAppLock engine) := by
  have hparse₂ : Version.parse "02.0.0" = .ok ⟨2, 0, 0⟩ := rfl
  have horder : appClosure.arrange = .ok ["base", "app"] := by decide
  rw [resolve_eq_ok_iff_arrange]
  refine ⟨appClosure.forEngine engine, ["base", "app"], ?_, ?_, horder, rfl⟩
  · rw [close_forEngine hparse₂ hparse, lockedRecords_close]
    rfl
  · exact checkEngine_eq_ok_iff.1 hengine

theorem lockedRecords_engine_interval :
    resolve lockedRecords ["app", " ", " app "] "1.9.0" = .ok (baseAppLock ⟨1, 9, 0⟩) ∧
      resolve lockedRecords ["app", " ", " app "] "3.0.0" = .ok (baseAppLock ⟨3, 0, 0⟩) ∧
      (∃ lock, resolve lockedRecords ["app", " ", " app "] "1.10.0" = .ok lock ∧
        lock.engineVersion = ⟨1, 10, 0⟩ ∧ lock.SamePacks (baseAppLock ⟨1, 9, 0⟩) ∧
        lock.SamePacks (baseAppLock ⟨3, 0, 0⟩)) ∧
      resolve rivalRecords ["app"] "2.0.0" = .error (.conflict "app" "base") ∧
      ∃ cause, resolve rivalRecords ["app"] "9.0.0" = .error cause ∧
        (cause = .conflict "app" "base" ∨ cause.IsAboutEngine) := by
  have h₁ : resolve lockedRecords ["app", " ", " app "] "1.9.0" = .ok (baseAppLock ⟨1, 9, 0⟩) :=
    lockedRecords_resolve_engine rfl (by decide)
  have h₂ : resolve lockedRecords ["app", " ", " app "] "3.0.0" = .ok (baseAppLock ⟨3, 0, 0⟩) :=
    lockedRecords_resolve_engine rfl (by decide)
  refine ⟨h₁, h₂, ?_, rivalRecords_resolve, ?_⟩
  · apply (resolve_engine_interval lockedRecords ["app", " ", " app "]).1 "1.9.0" "1.10.0" "3.0.0"
      ⟨1, 9, 0⟩ ⟨1, 10, 0⟩ ⟨3, 0, 0⟩ rfl rfl rfl _ _ _ _ h₁ h₂
    · exact Version.isLE_compare_iff.1 (by decide)
    · exact Version.isLE_compare_iff.1 (by decide)
  · apply (resolve_engine_interval rivalRecords ["app"]).2 "2.0.0" ⟨2, 0, 0⟩
      (.conflict "app" "base") rfl rivalRecords_resolve _ "9.0.0" ⟨9, 0, 0⟩ rfl
    rintro ⟨id, engine, range, h⟩
    cases h

end

end Resolution

end GovernanceLock
