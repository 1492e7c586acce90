import GovernanceLock.FileTree.Lookup

/-!
This module contains the changes of a file tree: making directories, making sure that a file is
there, and replacing a file as a whole. A change that is refused keeps what it has done so far, so
an action yields a tree in either case.
-/

namespace GovernanceLock

namespace FileTree

/--
Something that changes a file tree and yields a value or an error.
-/
abbrev Action (ε α : Type) := ExceptT ε (StateM FileTree) α

namespace Action

def runOn (a : Action ε α) (t : FileTree) : Except ε α × FileTree :=
  a.run.run t

def mapError (f : ε → ε') (a : Action ε α) : Action ε' α :=
  ExceptT.mk ((Except.mapError f ·) <$> a.run)

end Action

def makeDirectory (here : Location) (path : Path) : Action Error Unit := do
  let t ← get
  let location ← t.locate .place here path
  if (t.get? location).isSome then throw .occupied
  set (t.put location .directory)

def unlessDirectory (here : Location) (path : Path) (e : Error) : Action Error Unit := do
  if !(← get).isDirectory here path then throw e

def makeDirectories (here : Location) (path : Path) : Action Error Unit :=
  if path.isEmpty then pure ()
  else
    tryCatch (makeDirectory here path) fun e =>
      match e with
      | .notFound =>
        match _h : path.parent? with
        | none => throw .notFound
        | some parent => do
          makeDirectories here parent
          tryCatch (makeDirectory here path) (unlessDirectory here path)
      | e => unlessDirectory here path e
  termination_by path.pieces.length
  decreasing_by exact Path.parent?_pieces_length_lt _h

def ensureFile (here : Location) (path : Path) : Action Error Unit := do
  let t ← get
  let location ← t.locate .file here path
  match t.get? location with
  | some (.file _) => pure ()
  | some .closedFile => throw .denied
  | some .directory | some .closedDirectory => throw .isADirectory
  | some (.link _) => throw .tooManyLinks
  | none => set (t.put location (.file .empty))

def freshName (taken : List String) : String :=
  String.ofList ('.' :: List.replicate (taken.foldl (fun n name => max n name.length) 0) '~')

def splitLast? (path : Path) : Option (Path × String) :=
  match path.pieces.reverse.dropWhile (· == "") with
  | [] => none
  | last :: above => some (⟨path.rooted, above.reverse⟩, last)

def landing (t : FileTree) (here : Location) (path : Path) : Except Error Location := do
  (accept path).mapError fun
    | .nulInName => .invalid
    | e => e
  match splitLast? path with
  | none => throw .busy
  | some (above, last) =>
    let start := if path.rooted then [] else here
    let directory ← t.walk .target linkLimit start (above.pieces ++ ["."])
    if last == "." || last == ".." then throw .busy
    if nameLimit < last.utf8ByteSize then throw .nameTooLong
    if path.pieces.getLast? == some "" then throw .notADirectory
    if t.holdsDirectory (directory ++ [last]) then throw .isADirectory
    return directory ++ [last]

/--
Replace what is at `path` by a file with these bytes: write them to a new file in `directory`, then
move it. The new file does not stay behind if it cannot be moved.
-/
def replaceFile (here : Location) (directory path : Path) (bytes : ByteArray) :
    Action Error Unit := do
  let t ← get
  let place ← t.locate .target here directory
  if t.get? place == some .closedDirectory then throw .denied
  if t.get? place != some .directory then throw .notADirectory
  let draft := place ++ [freshName (t.names place)]
  set (t.put draft (.file bytes))
  match (t.put draft (.file bytes)).landing here path with
  | .ok location => set ((t.erase draft).put location (.file bytes))
  | .error e =>
    set (t.erase draft)
    throw e

end FileTree

end GovernanceLock
