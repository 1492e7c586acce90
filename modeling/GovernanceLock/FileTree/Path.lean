import GovernanceLock.Text.Parts

/-!
This module contains paths as texts name them. Empty pieces and `.` pieces say nothing about the
place that a path names, except for a `.` that stands first; `components` are the pieces that do.
Two paths with the same components are equal as paths.
-/

namespace GovernanceLock

/--
A path: whether it starts at the root, and what stands between its slashes.
-/
structure Path where
  rooted : Bool
  pieces : List String
  deriving DecidableEq, Inhabited

namespace Path

/--
The path that a text names.
-/
def ofString (text : String) : Path :=
  match text.toList with
  | '/' :: cs => ⟨true, (Text.parts '/' cs).map String.ofList⟩
  | cs => ⟨false, (Text.parts '/' cs).map String.ofList⟩

def toString (p : Path) : String :=
  (if p.rooted then "/" else "") ++ Text.joinTexts "/" p.pieces

instance : ToString Path := ⟨toString⟩

/--
What a path consists of.
-/
inductive Component where
  | root
  | current
  | parent
  | name (text : String)
  deriving DecidableEq

def isIdle (piece : String) : Bool :=
  piece == "" || piece == "."

def Component.ofPiece (piece : String) : Component :=
  if piece = ".." then .parent else .name piece

def components (p : Path) : List Component :=
  (if p.rooted then [.root] else if p.pieces.head? = some "." then [.current] else [])
    ++ (p.pieces.filter (!isIdle ·)).map Component.ofPiece

def core (p : Path) : List String :=
  let kept := (p.pieces.reverse.dropWhile isIdle).reverse
  if kept.isEmpty && !p.rooted && p.pieces.head? == some "." then ["."] else kept

def fileName? (p : Path) : Option String :=
  match p.core.getLast? with
  | some "." | some ".." => none
  | last => last

def parent? (p : Path) : Option Path :=
  if p.core.isEmpty then none else some ⟨p.rooted, core { p with pieces := p.core.dropLast }⟩

def join (p q : Path) : Path :=
  if q.rooted then q
  else
    { p with
      pieces := (if p.pieces.getLast? = some "" then p.pieces.dropLast else p.pieces) ++ q.pieces }

def withFileName (p : Path) (name : String) : Path :=
  ((if p.fileName?.isSome then p.parent? else none).getD p).join ⟨false, [name]⟩

def extension? (p : Path) : Option String :=
  p.fileName?.bind fun name =>
    let parts := Text.parts '.' name.toList
    match parts.getLast? with
    | some ext => if ext.length + 1 < name.length then some (String.ofList ext) else none
    | none => none

def empty : Path := ⟨false, []⟩

def isEmpty (p : Path) : Bool :=
  !p.rooted && (p.pieces == [] || p.pieces == [""])

theorem core_length_le (p : Path) : p.core.length ≤ p.pieces.length := by
  have h : (p.pieces.reverse.dropWhile isIdle).reverse.length ≤ p.pieces.length := by
    rw [List.length_reverse]
    exact Nat.le_trans (List.dropWhile_suffix _).length_le (Nat.le_of_eq List.length_reverse)
  rw [core]
  split
  · next hc =>
    cases hp : p.pieces with
    | nil => simp [hp] at hc
    | cons _ _ => simp
  · exact h

theorem parent?_pieces_length_lt {p q : Path} (h : p.parent? = some q) :
    q.pieces.length < p.pieces.length := by
  rw [parent?] at h
  split at h
  · cases h
  · next hne =>
    cases h
    refine Nat.lt_of_le_of_lt (core_length_le _) ?_
    refine Nat.lt_of_lt_of_le ?_ (core_length_le p)
    simp only [List.length_dropLast]
    have : p.core ≠ [] := by simpa using hne
    have := List.length_pos_iff.2 this
    omega

end Path

end GovernanceLock
