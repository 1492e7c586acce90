import GovernanceLock.Proofs.FileTree.Path

/-!
This module contains the components of paths: a path consists of those of its parent and its last
one, which is what it is called if it has a file name. Idle pieces add none, wherever they stand.
-/

namespace GovernanceLock.Path

variable {p q : Path} {rooted : Bool} {above idle behind pieces : List String} {name piece : String}

theorem isIdle_iff : isIdle piece = true ↔ piece = "" ∨ piece = "." := by
  unfold isIdle
  rw [Bool.or_eq_true, beq_iff_eq, beq_iff_eq]

/-!
The pieces that stand for the components of a path are the pieces of the path that are not idle.
-/

/--
What stands for a component in the text of a path, behind the slash that stands for the root.
-/
def Component.piece? : Component → Option String
  | .root => none
  | .current => some "."
  | .parent => some ".."
  | .name text => some text

theorem Component.piece?_ofPiece (piece : String) : (ofPiece piece).piece? = some piece := by
  unfold ofPiece
  split
  · next h => exact congrArg some h.symm
  · rfl

theorem Component.ofPiece_ne_root (piece : String) : ofPiece piece ≠ .root := by
  unfold ofPiece
  split <;> nofun

theorem filterMap_map_ofPiece (pieces : List String) :
    (pieces.map Component.ofPiece).filterMap Component.piece? = pieces := by
  have hsome : Component.piece? ∘ Component.ofPiece = some := funext Component.piece?_ofPiece
  rw [List.filterMap_map, hsome, List.filterMap_some]

theorem head?_map_ofPiece_ne (pieces : List String) :
    (pieces.map Component.ofPiece).head? ≠ some .root := by
  cases pieces with
  | nil => nofun
  | cons piece rest =>
    intro h
    exact Component.ofPiece_ne_root piece (Option.some.inj h)

theorem head?_components_eq_root_iff (p : Path) :
    p.components.head? = some .root ↔ p.rooted = true := by
  unfold components
  split
  · next h => simp [h]
  · next h =>
    split
    · simp [h]
    · rw [List.nil_append]
      exact iff_of_false (head?_map_ofPiece_ne _) h

theorem filter_filterMap_components (p : Path) :
    (p.components.filterMap Component.piece?).filter (!isIdle ·)
      = p.pieces.filter (!isIdle ·) := by
  unfold components
  rw [List.filterMap_append, filterMap_map_ofPiece, List.filter_append, List.filter_filter]
  simp only [Bool.and_self]
  split
  · rfl
  · split
    · rfl
    · rfl

theorem rooted_eq_of_components_eq (h : p.components = q.components) : p.rooted = q.rooted := by
  rw [Bool.eq_iff_iff, ← head?_components_eq_root_iff, h, head?_components_eq_root_iff]

theorem filter_pieces_eq_of_components_eq (h : p.components = q.components) :
    p.pieces.filter (!isIdle ·) = q.pieces.filter (!isIdle ·) := by
  rw [← filter_filterMap_components, h, filter_filterMap_components]

theorem filter_of_forall_isIdle (h : ∀ piece ∈ idle, isIdle piece = true) :
    idle.filter (!isIdle ·) = [] := by
  rw [List.filter_eq_nil_iff]
  intro piece hpiece
  simp [h piece hpiece]

theorem components_insert_idle (hstart : rooted = true ∨ above ≠ [])
    (h : ∀ piece ∈ idle, isIdle piece = true) :
    components ⟨rooted, above ++ (idle ++ behind)⟩ = components ⟨rooted, above ++ behind⟩ := by
  unfold components
  rw [List.filter_append, List.filter_append, filter_of_forall_isIdle h, List.nil_append,
    List.filter_append]
  rcases hstart with rfl | hne
  · rfl
  · cases above with
    | nil => contradiction
    | cons piece above => rfl

theorem components_concat (h : IsName name) :
    components ⟨rooted, above ++ [name]⟩ = components ⟨rooted, above⟩ ++ [.name name] := by
  have hlast : ([name].filter (!isIdle ·)).map Component.ofPiece = [.name name] := by
    simp [h.1, Component.ofPiece, h.2]
  unfold components
  rw [List.filter_append, List.map_append, hlast, ← List.append_assoc]
  cases above with
  | nil => simp [h.ne_dot]
  | cons piece above => rfl

theorem exists_core_append (p : Path) :
    ∃ idle, p.pieces = p.core ++ idle ∧ ∀ piece ∈ idle, isIdle piece = true := by
  have hidle : ∀ piece ∈ p.pieces.reverse.takeWhile isIdle, isIdle piece = true :=
    List.all_eq_true.1 List.all_takeWhile
  have hpieces : (p.pieces.reverse.dropWhile isIdle).reverse
      ++ (p.pieces.reverse.takeWhile isIdle).reverse = p.pieces := by
    rw [← List.reverse_append, List.takeWhile_append_dropWhile, List.reverse_reverse]
  unfold core
  dsimp only
  split
  · next h =>
    simp only [Bool.and_eq_true, List.isEmpty_iff, beq_iff_eq] at h
    rcases h with ⟨⟨hkept, _⟩, hhead⟩
    rw [hkept, List.nil_append] at hpieces
    rcases List.head?_eq_some_iff.1 hhead with ⟨rest, hrest⟩
    refine ⟨rest, hrest, ?_⟩
    intro piece hpiece
    apply hidle
    rw [← List.mem_reverse, hpieces, hrest]
    exact List.mem_cons_of_mem _ hpiece
  · exact ⟨_, hpieces.symm, fun piece hpiece => hidle piece (List.mem_reverse.1 hpiece)⟩

theorem core_cases (p : Path) :
    (p.core = [] ∧ (p.rooted = true ∨ p.pieces.head? ≠ some ".")) ∨
      (p.core = ["."] ∧ p.rooted = false) ∨
      ∃ above last, p.core = above ++ [last] ∧ isIdle last = false := by
  unfold core
  dsimp only
  split
  · next h =>
    simp only [Bool.and_eq_true, Bool.not_eq_true'] at h
    exact .inr (.inl ⟨rfl, h.1.2⟩)
  · next h =>
    rcases hkept : p.pieces.reverse.dropWhile isIdle with _ | ⟨last, above⟩
    · rw [hkept] at h
      refine .inl ⟨rfl, ?_⟩
      cases hrooted : p.rooted with
      | true => exact .inl rfl
      | false => exact .inr fun hhead => h (by simp [hrooted, hhead])
    · refine .inr (.inr ⟨above.reverse, last, List.reverse_cons, ?_⟩)
      have hlast := List.head?_dropWhile_not isIdle p.pieces.reverse
      rw [hkept] at hlast
      simpa using hlast

theorem core_core (p : Path) : core ⟨p.rooted, p.core⟩ = p.core := by
  rcases core_cases p with ⟨hcore, _⟩ | ⟨hcore, hrooted⟩ | ⟨above, last, hcore, hlast⟩
  · rw [hcore]
    simp [core]
  · rw [hcore, hrooted]
    rfl
  · rw [hcore, core_concat hlast]

theorem core_of_parent? (h : p.parent? = some q) : q.core = q.pieces := by
  unfold parent? at h
  split at h
  · cases h
  · cases h
    exact core_core _

theorem components_core (p : Path) : components ⟨p.rooted, p.core⟩ = p.components := by
  rcases exists_core_append p with ⟨idle, hpieces, hidle⟩
  have hinsert : p.rooted = true ∨ p.core ≠ [] →
      components ⟨p.rooted, p.core⟩ = p.components := by
    intro hstart
    have hdrop : components ⟨p.rooted, p.core ++ (idle ++ [])⟩
        = components ⟨p.rooted, p.core ++ []⟩ := components_insert_idle hstart hidle
    rw [List.append_nil, List.append_nil, ← hpieces] at hdrop
    exact hdrop.symm
  rcases core_cases p with ⟨hcore, hrooted | hhead⟩ | ⟨hcore, _⟩ | ⟨above, last, hcore, _⟩
  · exact hinsert (.inl hrooted)
  · rw [hcore, List.nil_append] at hpieces
    unfold components
    rw [if_neg hhead, hpieces, filter_of_forall_isIdle hidle, hcore]
    rfl
  · exact hinsert (.inr (by simp [hcore]))
  · exact hinsert (.inr (by simp [hcore]))

theorem location_core (here : Location) (p : Path) :
    location here ⟨p.rooted, p.core⟩ = p.location here := by
  rcases exists_core_append p with ⟨idle, hpieces, hidle⟩
  unfold location
  rw [hpieces, follow_append, follow_of_forall_isIdle hidle]

theorem fileName?_eq_some_iff_core :
    p.fileName? = some name ↔ IsName name ∧ ∃ above, p.core = above ++ [name] := by
  constructor
  · intro h
    unfold fileName? at h
    split at h
    · cases h
    · cases h
    · next hdot hparent =>
      rcases core_cases p with ⟨hcore, _⟩ | ⟨hcore, _⟩ | ⟨above, last, hcore, hlast⟩
      · rw [hcore] at h
        cases h
      · rw [hcore] at hdot
        exact absurd rfl hdot
      · rw [hcore, List.getLast?_concat] at h hparent
        cases h
        exact ⟨⟨hlast, fun h => hparent (congrArg some h)⟩, above, hcore⟩
  · rintro ⟨hname, above, hcore⟩
    rw [← fileName?_of_isName hname, ← hcore]
    unfold fileName?
    rw [core_core]

theorem exists_parent? (h : p.fileName? = some name) :
    ∃ parent, p.parent? = some parent ∧ p.components = parent.components ++ [.name name] ∧
      ∀ here, p.location here = parent.location here ++ [name] := by
  rcases fileName?_eq_some_iff_core.1 h with ⟨hname, above, hcore⟩
  refine ⟨⟨p.rooted, core ⟨p.rooted, above⟩⟩, ?_, ?_, ?_⟩
  · unfold parent?
    rw [hcore, List.dropLast_concat, if_neg (by simp)]
  · rw [← components_core p, hcore, components_concat hname, ← components_core ⟨p.rooted, above⟩]
  · intro here
    rw [← location_core here p, hcore, location_core here ⟨p.rooted, above⟩]
    exact follow_of_isName hname

end GovernanceLock.Path
