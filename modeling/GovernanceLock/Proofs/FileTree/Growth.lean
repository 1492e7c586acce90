import GovernanceLock.Proofs.FileTree.Action
import GovernanceLock.Proofs.FileTree.Walk

/-!
This module contains the proof that making directories only adds to a tree: whatever stood there
before is left alone, also by an attempt that fails halfway, and once the directories are there a
further attempt does nothing.
-/

namespace GovernanceLock.FileTree

/--
What `t'` has at the location is what `t` has there, or it is new and expected.
-/
def GrowsAt (expected : Location → Node → Prop) (t t' : FileTree) (location : Location) : Prop :=
  t'.get? location = t.get? location ∨
    t.get? location = none ∧ ∃ n, t'.get? location = some n ∧ expected location n

/--
Whatever is in `t` is in `t'` too, and what `t'` has besides is expected.
-/
def Grows (expected : Location → Node → Prop) (t t' : FileTree) : Prop :=
  ∀ location, GrowsAt expected t t' location

/--
A directory at a place that the path, or a beginning of it, names.
-/
def IsAbove (here : Location) (path : Path) (location : Location) (n : Node) : Prop :=
  n = .directory ∧
    ∃ above, above <+: path.pieces ∧ location = Path.location here { path with pieces := above }

def Opens (expected : Location → Node → Prop) : Prop :=
  ∀ location n, expected location n → n = .directory ∨ ∃ bytes, n = .file bytes

namespace Grows

variable {expected : Location → Node → Prop} {t t' t'' : FileTree}

theorem refl (t : FileTree) : Grows expected t t :=
  fun _ => .inl rfl

theorem trans (h : Grows expected t t') (h' : Grows expected t' t'') : Grows expected t t'' := by
  intro location
  rcases h' location with heq' | ⟨hnone', hnew'⟩
  · unfold GrowsAt
    rw [heq']
    exact h location
  · rcases h location with heq | ⟨hnone, n, hn, _⟩
    · rw [heq] at hnone'
      exact .inr ⟨hnone', hnew'⟩
    · rw [hnone'] at hn
      cases hn

theorem mono {expected' : Location → Node → Prop} (h : Grows expected t t')
    (himp : ∀ location n, t.get? location = none → expected location n → expected' location n) :
    Grows expected' t t' := by
  intro location
  rcases h location with heq | ⟨hnone, n, hn, hexpected⟩
  · exact .inl heq
  · exact .inr ⟨hnone, n, hn, himp location n hnone hexpected⟩

theorem get?_eq_some (h : Grows expected t t') {location : Location} {n : Node}
    (hn : t.get? location = some n) : t'.get? location = some n := by
  rcases h location with heq | ⟨hnone, _⟩
  · rw [heq, hn]
  · rw [hnone] at hn
    cases hn

theorem keepsDirectories (h : Grows expected t t') (hopens : Opens expected) :
    t.KeepsDirectories t' where
  directory _ hn := h.get?_eq_some hn
  closed location := by
    rcases h location with heq | ⟨hnone, n, hn, hexpected⟩
    · rw [heq]
    · rw [hnone, hn]
      rcases hopens location n hexpected with rfl | ⟨bytes, rfl⟩ <;> simp

theorem linkFree (h : Grows expected t t') (hlinks : t.LinkFree) (hopens : Opens expected) :
    t'.LinkFree := by
  intro location target hlink
  rcases h location with heq | ⟨_, n, hn, hexpected⟩
  · rw [heq] at hlink
    exact hlinks location target hlink
  · rw [hlink, Option.some.injEq] at hn
    rw [← hn] at hexpected
    rcases hopens location _ hexpected with heq | ⟨bytes, heq⟩ <;> cases heq

theorem at?_eq_some (h : Grows expected t t') (hlinks : t.LinkFree) (hopens : Opens expected)
    {here : Location} {path : Path} {n : Node} (hn : t.at? here path = some n) :
    t'.at? here path = some n := by
  apply at?_eq_some_of_keepsDirectories hlinks (h.linkFree hlinks hopens)
    (h.keepsDirectories hopens) hn
  rcases at?_eq_some_iff.1 hn with ⟨location, hlocate, hget⟩
  rw [← eq_location_of_locate_eq_ok hlinks hlocate]
  exact h.get?_eq_some hget

theorem put {location : Location} {n : Node} (hnone : t.get? location = none)
    (hn : expected location n) : Grows expected t (t.put location n) := by
  intro l
  unfold GrowsAt
  rw [get?_put (ne_nil_of_get?_eq_none hnone)]
  split
  · next heq =>
    subst heq
    exact .inr ⟨hnone, n, rfl, hn⟩
  · exact .inl rfl

end Grows

theorem get?_ne_of_not_holdsDirectory {t : FileTree} {location : Location} {n : Node}
    (h : t.holdsDirectory location = false) (hn : n.isDirectory = true) :
    t.get? location ≠ some n := by
  intro hget
  rw [holdsDirectory_of_get? hget, hn] at h
  cases h

theorem keepsDirectories_put {t : FileTree} {location : Location} (hroot : location ≠ [])
    (h : t.holdsDirectory location = false) (bytes : ByteArray) :
    t.KeepsDirectories (t.put location (.file bytes)) where
  directory l hl := by
    rw [get?_put hroot, if_neg]
    · exact hl
    · rintro rfl
      exact get?_ne_of_not_holdsDirectory h rfl hl
  closed l := by
    rw [get?_put hroot]
    split
    · next heq =>
      subst heq
      exact ⟨nofun, fun hl => absurd hl (get?_ne_of_not_holdsDirectory h rfl)⟩
    · rfl

theorem LinkFree.put {t : FileTree} (h : t.LinkFree) {location : Location}
    (hroot : location ≠ []) {n : Node} (hn : ∀ target, n ≠ .link target) :
    (t.put location n).LinkFree := by
  intro l target
  rw [get?_put hroot]
  split
  · simp [hn]
  · exact h l target

theorem LinkFree.put_file {t : FileTree} (h : t.LinkFree) {location : Location}
    (hroot : location ≠ []) (bytes : ByteArray) : (t.put location (.file bytes)).LinkFree :=
  h.put hroot nofun

variable {t t' : FileTree} {here : Location} {path : Path} {result : Except Error Unit}

theorem IsAbove.opens : Opens (IsAbove here path) :=
  fun _ _ h => .inl h.1

theorem IsAbove.of_isPrefix {parent : Path} (hrooted : parent.rooted = path.rooted)
    (hbegins : parent.pieces <+: path.pieces) {location : Location} {n : Node}
    (h : IsAbove here parent location n) : IsAbove here path location n := by
  rcases h with ⟨hn, above, habove, rfl⟩
  refine ⟨hn, above, habove.trans hbegins, ?_⟩
  unfold Path.location
  rw [hrooted]

theorem makeDirectory_spec (hlinks : t.LinkFree)
    (h : (makeDirectory here path).runOn t = (result, t')) :
    (result = .ok () ∧ Grows (IsAbove here path) t t' ∧ t'.isDirectory here path = true) ∨
      (∃ e, result = .error e) ∧ t' = t := by
  rw [runOn_makeDirectory] at h
  split at h
  · next location hlocate =>
    split at h
    · cases h
      exact .inr ⟨⟨_, rfl⟩, rfl⟩
    · next hsome =>
      cases h
      left
      have hnone : t.get? location = none := by simpa using hsome
      have heq := eq_location_of_locate_eq_ok hlinks hlocate
      rcases locate_eq_ok_iff.1 hlocate with ⟨haccept, hwalk⟩
      have hgrows : Grows (IsAbove here path) t (t.put location .directory) := by
        apply Grows.put hnone
        exact ⟨rfl, path.pieces, List.prefix_rfl, heq⟩
      have hget : (t.put location .directory).get? location = some .directory := by
        rw [get?_put (ne_nil_of_get?_eq_none hnone), if_pos rfl]
      refine ⟨rfl, hgrows, ?_⟩
      have hkeeps := hgrows.keepsDirectories IsAbove.opens
      have hdirectory : (t.put location .directory).holdsDirectory location = true :=
        holdsDirectory_of_get? hget
      rw [isDirectory_iff (hgrows.linkFree hlinks IsAbove.opens), ← heq]
      exact ⟨haccept, passable_of_walk_eq_ok hlinks hwalk hkeeps hdirectory, hdirectory⟩
  · cases h
    exact .inr ⟨⟨_, rfl⟩, rfl⟩

theorem eq_of_makeDirectory_eq_error {e : Error}
    (h : (makeDirectory here path).runOn t = (.error e, t')) : t' = t := by
  rw [runOn_makeDirectory] at h
  split at h
  · split at h
    · cases h
      rfl
    · cases h
  · cases h
    rfl

theorem makeDirectory_of_isDirectory (hlinks : t.LinkFree) (h : t.isDirectory here path = true) :
    (makeDirectory here path).runOn t = (.error .occupied, t) := by
  rw [isDirectory_iff hlinks] at h
  have hlocate : t.locate .place here path = .ok (path.location here) := by
    rw [locate_eq_ok_iff]
    exact ⟨h.1, walk_of_passable h.2.1 (by decide)⟩
  rw [runOn_makeDirectory, hlocate]
  dsimp only
  rw [if_pos (Option.isSome_iff_ne_none.2 (ne_none_of_holdsDirectory h.2.2))]

def provideDirectory (here : Location) (path : Path) : Action Error Unit :=
  tryCatch (makeDirectory here path) (unlessDirectory here path)

theorem provideDirectory_spec (hlinks : t.LinkFree)
    (h : (provideDirectory here path).runOn t = (result, t')) :
    Grows (IsAbove here path) t t' ∧ (result = .ok () → t'.isDirectory here path = true) := by
  unfold provideDirectory at h
  rw [Action.runOn_tryCatch] at h
  rcases hmake : (makeDirectory here path).runOn t with ⟨r, t₁⟩
  rw [hmake] at h
  rcases makeDirectory_spec hlinks hmake with ⟨rfl, hgrows, hdirectory⟩ | ⟨⟨e, rfl⟩, rfl⟩
  · cases h
    exact ⟨hgrows, fun _ => hdirectory⟩
  · dsimp only at h
    rw [runOn_unlessDirectory] at h
    cases h
    refine ⟨.refl _, ?_⟩
    intro hok
    split at hok
    · assumption
    · cases hok

theorem makeDirectories_cases (h : (makeDirectories here path).runOn t = (result, t')) :
    (path.isEmpty = true ∧ result = .ok () ∧ t' = t) ∨
      (provideDirectory here path).runOn t = (result, t') ∨
      ((∃ e, result = .error e) ∧ t' = t) ∨
      ∃ parent r t₁, path.parent? = some parent ∧
        (makeDirectories here parent).runOn t = (r, t₁) ∧
        ((∃ e, r = .error e ∧ result = .error e ∧ t' = t₁) ∨
          r = .ok () ∧ (provideDirectory here path).runOn t₁ = (result, t')) := by
  rw [makeDirectories] at h
  split at h
  · next hempty =>
    cases h
    exact .inl ⟨hempty, rfl, rfl⟩
  · right
    rw [Action.runOn_tryCatch] at h
    unfold provideDirectory
    rw [Action.runOn_tryCatch]
    rcases hmake : (makeDirectory here path).runOn t with ⟨e | _, t₀⟩
    · cases eq_of_makeDirectory_eq_error hmake
      rw [hmake] at h
      dsimp only at h ⊢
      split at h
      · right
        split at h
        · cases h
          exact .inl ⟨⟨_, rfl⟩, rfl⟩
        · next parent hparent =>
          right
          rw [Action.runOn_bind] at h
          rcases hparents : (makeDirectories here parent).runOn t with ⟨e | _, t₁⟩
          · rw [hparents] at h
            cases h
            exact ⟨parent, _, _, hparent, hparents, .inl ⟨e, rfl, rfl, rfl⟩⟩
          · rw [hparents] at h
            exact ⟨parent, _, _, hparent, hparents, .inr ⟨rfl, h⟩⟩
      · exact .inl h
    · rw [hmake] at h
      exact .inl h

def Provided (t : FileTree) (here : Location) (path : Path) : Prop :=
  path.isEmpty = true ∨ t.isDirectory here path = true

theorem Provided.mono (h : t.Provided here path) (hlinks : t.LinkFree) (hlinks' : t'.LinkFree)
    (hkeeps : t.KeepsDirectories t') : t'.Provided here path := by
  rcases h with hempty | hdirectory
  · exact .inl hempty
  · exact .inr (isDirectory_of_keepsDirectories hlinks hlinks' hkeeps hdirectory)

theorem makeDirectories_spec {here : Location} {path : Path} {t t' : FileTree}
    {result : Except Error Unit} (hlinks : t.LinkFree)
    (h : (makeDirectories here path).runOn t = (result, t')) :
    Grows (IsAbove here path) t t' ∧
      (result = .ok () → t'.Provided here path) := by
  rcases makeDirectories_cases h with ⟨hempty, _, rfl⟩ | hprovide | ⟨⟨e, rfl⟩, rfl⟩ |
    ⟨parent, r, t₁, hparent, hparents, hrest⟩
  · exact ⟨.refl _, fun _ => .inl hempty⟩
  · rcases provideDirectory_spec hlinks hprovide with ⟨hgrows, hdirectory⟩
    exact ⟨hgrows, fun hok => .inr (hdirectory hok)⟩
  · exact ⟨.refl _, by simp⟩
  · rcases Path.parent?_isPrefix hparent with ⟨hrooted, hbegins⟩
    have hgrows : Grows (IsAbove here path) t t₁ :=
      (makeDirectories_spec hlinks hparents).1.mono fun _ _ _ => .of_isPrefix hrooted hbegins
    rcases hrest with ⟨e, _, rfl, rfl⟩ | ⟨_, hprovide⟩
    · exact ⟨hgrows, by simp⟩
    · have hlinks₁ : t₁.LinkFree := hgrows.linkFree hlinks IsAbove.opens
      rcases provideDirectory_spec hlinks₁ hprovide with ⟨hgrows₁, hdirectory⟩
      exact ⟨hgrows.trans hgrows₁, fun hok => .inr (hdirectory hok)⟩
termination_by path.pieces.length
decreasing_by exact Path.parent?_pieces_length_lt hparent

theorem makeDirectories_of_provided (hlinks : t.LinkFree) (h : t.Provided here path) :
    (makeDirectories here path).runOn t = (.ok (), t) := by
  rw [makeDirectories]
  split
  · rfl
  · next hempty =>
    have hdirectory := h.resolve_left hempty
    rw [Action.runOn_tryCatch, makeDirectory_of_isDirectory hlinks hdirectory]
    dsimp only
    rw [runOn_unlessDirectory, if_pos hdirectory]

end GovernanceLock.FileTree
