import GovernanceLock.Lock.Guard

/-!
This module contains the locations that paths name by themselves, and the directories on the way:
the parents of a path, and those of the guard of a lock file, are beginnings of the path.
-/

namespace GovernanceLock

namespace Path

def IsName (piece : String) : Prop :=
  isIdle piece = false ∧ piece ≠ ".."

instance (piece : String) : Decidable (IsName piece) :=
  inferInstanceAs (Decidable (_ ∧ _))

theorem IsName.ne_empty {piece : String} (h : IsName piece) : piece ≠ "" := by
  rintro rfl
  exact absurd h.1 (by decide)

theorem IsName.ne_dot {piece : String} (h : IsName piece) : piece ≠ "." := by
  rintro rfl
  exact absurd h.1 (by decide)

theorem isName_of_ne {piece : String} (hempty : piece ≠ "") (hdot : piece ≠ ".")
    (hparent : piece ≠ "..") : IsName piece := by
  refine ⟨?_, hparent⟩
  simp [isIdle, hempty, hdot]

def enter (here : Location) (piece : String) : Location :=
  if isIdle piece then here else if piece = ".." then here.dropLast else here ++ [piece]

def follow (here : Location) (pieces : List String) : Location :=
  pieces.foldl enter here

/--
The location that a path names from the directory `here`, unless links stand in its way.
-/
def location (here : Location) (p : Path) : Location :=
  follow (if p.rooted then [] else here) p.pieces

theorem enter_of_isName {here : Location} {piece : String} (h : IsName piece) :
    enter here piece = here ++ [piece] := by
  unfold enter
  rw [if_neg (by simp [h.1]), if_neg h.2]

theorem enter_of_isIdle {here : Location} {piece : String} (h : isIdle piece = true) :
    enter here piece = here := by
  unfold enter
  rw [if_pos h]

theorem follow_append (here : Location) (l k : List String) :
    follow here (l ++ k) = follow (follow here l) k :=
  List.foldl_append

theorem follow_of_isName {here : Location} {above : List String} {name : String} (h : IsName name) :
    follow here (above ++ [name]) = follow here above ++ [name] := by
  rw [follow_append]
  exact enter_of_isName h

theorem follow_of_forall_isIdle {here : Location} {pieces : List String}
    (h : ∀ piece ∈ pieces, isIdle piece = true) : follow here pieces = here := by
  induction pieces with
  | nil => rfl
  | cons piece rest ih =>
    rw [List.forall_mem_cons] at h
    rw [follow, List.foldl_cons, enter_of_isIdle h.1]
    exact ih h.2

theorem core_isPrefix (p : Path) : p.core <+: p.pieces := by
  unfold core
  dsimp only
  split
  · next h =>
    simp only [Bool.and_eq_true, beq_iff_eq] at h
    cases hpieces : p.pieces with
    | nil => simp [hpieces] at h
    | cons piece rest =>
      rw [hpieces, List.head?_cons, Option.some.injEq] at h
      rw [h.2]
      exact ⟨rest, rfl⟩
  · rw [← List.reverse_suffix, List.reverse_reverse]
    exact List.dropWhile_suffix _

theorem parent?_isPrefix {p parent : Path} (h : p.parent? = some parent) :
    parent.rooted = p.rooted ∧ parent.pieces <+: p.pieces := by
  unfold parent? at h
  split at h
  · cases h
  · cases h
    refine ⟨rfl, ?_⟩
    have hcore := core_isPrefix { p with pieces := p.core.dropLast }
    exact (hcore.trans (List.dropLast_prefix _)).trans (core_isPrefix p)

theorem core_concat {rooted : Bool} {above : List String} {piece : String}
    (h : isIdle piece = false) : core ⟨rooted, above ++ [piece]⟩ = above ++ [piece] := by
  unfold core
  simp [h]

theorem fileName?_of_isName {rooted : Bool} {above : List String} {name : String}
    (h : IsName name) : fileName? ⟨rooted, above ++ [name]⟩ = some name := by
  unfold fileName?
  rw [core_concat h.1, List.getLast?_concat]
  split
  · next heq => exact absurd (Option.some.inj heq) h.ne_dot
  · next heq => exact absurd (Option.some.inj heq) h.2
  · rfl

theorem parent?_of_isName {rooted : Bool} {above : List String} {name : String} (h : IsName name) :
    parent? ⟨rooted, above ++ [name]⟩ = some ⟨rooted, core ⟨rooted, above⟩⟩ := by
  unfold parent?
  rw [core_concat h.1, List.dropLast_concat, if_neg (by simp)]

theorem withFileName_eq (p : Path) (name : String) :
    ∃ above, above <+: p.pieces ∧ p.withFileName name = ⟨p.rooted, above ++ [name]⟩ := by
  have hbase : ∃ base : Path, base.rooted = p.rooted ∧ base.pieces <+: p.pieces ∧
      p.withFileName name = base.join ⟨false, [name]⟩ := by
    unfold withFileName
    split
    · cases hparent : p.parent? with
      | none => exact ⟨p, rfl, List.prefix_rfl, rfl⟩
      | some parent =>
        exact ⟨parent, (parent?_isPrefix hparent).1, (parent?_isPrefix hparent).2, rfl⟩
    · exact ⟨p, rfl, List.prefix_rfl, rfl⟩
  rcases hbase with ⟨base, hrooted, hbegins, heq⟩
  rw [heq, ← hrooted]
  unfold join
  rw [if_neg Bool.false_ne_true]
  split
  · exact ⟨base.pieces.dropLast, (List.dropLast_prefix _).trans hbegins, rfl⟩
  · exact ⟨base.pieces, hbegins, rfl⟩

end Path

namespace Guard

theorem isName_append (name : String) : Path.IsName (name ++ ".guard") := by
  have hlength : 6 ≤ (name ++ ".guard").length := by
    rw [String.length_append]
    exact Nat.le_add_left ..
  constructor
  · unfold Path.isIdle
    simp only [Bool.or_eq_false_iff, beq_eq_false_iff_ne]
    constructor
    · intro h
      rw [h] at hlength
      exact absurd hlength (by decide)
    · intro h
      rw [h] at hlength
      exact absurd hlength (by decide)
  · intro h
    rw [h] at hlength
    exact absurd hlength (by decide)

theorem path_eq (lock : Path) :
    ∃ above, above <+: lock.pieces ∧
      path lock = ⟨lock.rooted, above ++ [lock.fileName?.getD defaultName ++ ".guard"]⟩ :=
  lock.withFileName_eq _

end Guard

end GovernanceLock
