import GovernanceLock.FileTree.Change

/-!
This module contains what actions do to a file tree, by the way in which they are put together.
-/

namespace GovernanceLock.FileTree

namespace Action

variable {t : FileTree}

theorem runOn_get : (get : Action ε FileTree).runOn t = (.ok t, t) :=
  rfl

theorem runOn_set (t' : FileTree) : (set t' : Action ε Unit).runOn t = (.ok (), t') :=
  rfl

theorem runOn_lift (x : Except ε α) : (liftM x : Action ε α).runOn t = (x, t) :=
  rfl

theorem runOn_bind (a : Action ε α) (f : α → Action ε β) :
    (a >>= f).runOn t =
      match a.runOn t with
      | (.ok x, t') => (f x).runOn t'
      | (.error e, t') => (.error e, t') := by
  change ExceptT.bindCont f (a.runOn t).1 (a.runOn t).2 = _
  rcases a.runOn t with ⟨_ | _, _⟩
  · rfl
  · rfl

theorem runOn_tryCatch (a : Action ε α) (handler : ε → Action ε α) :
    (tryCatch a handler).runOn t =
      match a.runOn t with
      | (.ok x, t') => (.ok x, t')
      | (.error e, t') => (handler e).runOn t' := by
  change (match (a.runOn t).1 with
    | .ok x => (pure (.ok x) : StateM FileTree (Except ε α))
    | .error e => handler e) (a.runOn t).2 = _
  rcases a.runOn t with ⟨_ | _, _⟩
  · rfl
  · rfl

theorem runOn_mapError (f : ε → ε') (a : Action ε α) :
    (a.mapError f).runOn t = ((a.runOn t).1.mapError f, (a.runOn t).2) :=
  rfl

end Action

theorem runOn_makeDirectory (here : Location) (path : Path) (t : FileTree) :
    (makeDirectory here path).runOn t =
      match t.locate .place here path with
      | .ok location =>
        if (t.get? location).isSome then (.error .occupied, t)
        else (.ok (), t.put location .directory)
      | .error e => (.error e, t) := by
  unfold makeDirectory
  simp only [Action.runOn_bind, Action.runOn_get, Action.runOn_lift]
  cases t.locate .place here path with
  | error e => rfl
  | ok location =>
    dsimp only
    split
    · rfl
    · rfl

theorem runOn_unlessDirectory (here : Location) (path : Path) (e : Error) (t : FileTree) :
    (unlessDirectory here path e).runOn t =
      (if t.isDirectory here path then .ok () else .error e, t) := by
  unfold unlessDirectory
  simp only [Action.runOn_bind, Action.runOn_get]
  cases t.isDirectory here path
  · rfl
  · rfl

theorem runOn_ensureFile (here : Location) (path : Path) (t : FileTree) :
    (ensureFile here path).runOn t =
      match t.locate .file here path with
      | .ok location =>
        match t.get? location with
        | some (.file _) => (.ok (), t)
        | some .closedFile => (.error .denied, t)
        | some .directory | some .closedDirectory => (.error .isADirectory, t)
        | some (.link _) => (.error .tooManyLinks, t)
        | none => (.ok (), t.put location (.file .empty))
      | .error e => (.error e, t) := by
  unfold ensureFile
  simp only [Action.runOn_bind, Action.runOn_get, Action.runOn_lift]
  cases t.locate .file here path with
  | error e => rfl
  | ok location =>
    dsimp only
    cases t.get? location with
    | none => rfl
    | some n => cases n <;> rfl

theorem runOn_replaceFile (here : Location) (directory path : Path) (bytes : ByteArray)
    (t : FileTree) :
    (replaceFile here directory path bytes).runOn t =
      match t.locate .target here directory with
      | .ok place =>
        if t.get? place = some .directory then
          let draft := place ++ [freshName (t.names place)]
          match (t.put draft (.file bytes)).landing here path with
          | .ok location => (.ok (), (t.erase draft).put location (.file bytes))
          | .error e => (.error e, t.erase draft)
        else (.error (if t.get? place = some .closedDirectory then .denied else .notADirectory), t)
      | .error e => (.error e, t) := by
  unfold replaceFile
  simp only [Action.runOn_bind, Action.runOn_get, Action.runOn_lift]
  cases t.locate .target here directory with
  | error e => rfl
  | ok place =>
    dsimp only
    by_cases hget : t.get? place = some .directory
    · rw [if_pos hget, if_neg (by simp [hget]), if_neg (by simp [hget])]
      simp only [Action.runOn_bind, Action.runOn_set]
      generalize (t.put (place ++ [freshName (t.names place)]) (.file bytes)).landing here path = r
      cases r
      · rfl
      · rfl
    · rw [if_neg hget]
      by_cases hclosed : t.get? place = some .closedDirectory
      · rw [if_pos hclosed, if_pos (by simpa using hclosed)]
        rfl
      · rw [if_neg hclosed, if_neg (by simpa using hclosed), if_pos (by simpa using hget)]
        rfl

end GovernanceLock.FileTree
