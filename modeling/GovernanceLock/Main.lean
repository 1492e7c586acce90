import GovernanceLock.CommandLine.Run

/-!
This module contains the program. It takes a picture of what a command may look at, runs the command
on the picture, and then carries the changes out.
-/

namespace GovernanceLock.Program

open CommandLine

def textOf (location : Location) : String :=
  "/" ++ Text.joinTexts "/" location

def locationOf (text : String) : Location :=
  (Path.ofString text).pieces.filter (!Path.isIdle ·)

def sourcePaths (s : Sources) (here : Location) (home : Option String) : List Path :=
  let policies (directory : Path) :=
    PolicyFiles.fileNames.map fun name => directory.join (.ofString name)
  [s.workspace, s.installer, s.user, s.repoPolicy, s.globalPolicy].filterMap id
    ++ policies (PolicyFiles.repoDirectory ⟨true, here⟩)
    ++ ((home.map PolicyFiles.globalDirectory).map policies).getD []

def paths (here : Location) (home : Option String) : Command → List Path
  | .lock _ _ sources out _ => out :: Guard.path out :: sourcePaths sources here home
  | .verify lock sources => lock :: sourcePaths sources here home
  | .scan directory => [directory]

def directoryAt (text : String) : IO FileTree.Node := do
  let place ← IO.FS.realPath text
  try
    discard (place / ".").metadata
    return .directory
  catch _ => return .closedDirectory

def fileAt (text : String) : IO FileTree.Node := do
  try return .file (← IO.FS.readBinFile text)
  catch _ => return .closedFile

partial def picture (deep : Bool) (location : Location) (t : FileTree) : IO FileTree := do
  let mut t := t
  for depth in List.range location.length do
    let above := location.take depth
    if (t.get? above).isNone then t := t.put above (← directoryAt (textOf above))
  let place ← IO.FS.realPath (textOf location.dropLast)
  match location.getLast? with
  | none => return t
  | some name =>
    let entry := place / name
    try
      match (← entry.symlinkMetadata).type with
      | .dir =>
        t := t.put location (← directoryAt entry.toString)
        if deep then
          try
            for inner in ← entry.readDir do
              t ← picture deep (location ++ [inner.fileName]) t
          catch _ => t := t.put location .closedDirectory
        return t
      | .file => return t.put location (← fileAt entry.toString)
      | .symlink =>
        try
          let target := (← IO.FS.realPath entry).toString
          picture false (locationOf target) (t.put location (.link target))
        catch _ => return t.put location (.link (textOf location ++ ".absent"))
      | .other => if deep then return t else return t.put location (← fileAt entry.toString)
    catch _ => return t

def look (deep : Bool) (here : Location) (t : FileTree) (path : Path) : IO FileTree := do
  let pieces := (if path.rooted then [] else here) ++ path.pieces
  let mut t := t
  for depth in List.range pieces.length do
    match pieces[depth]? with
    | none => pure ()
    | some piece =>
      unless Path.isIdle piece || piece == ".." do
        try
          let above ← IO.FS.realPath (textOf (pieces.take depth))
          let last := (pieces.drop (depth + 1)).all Path.isIdle
          t ← picture false (locationOf above.toString ++ [piece]) t
          if deep && last then
            let whole ← IO.FS.realPath (textOf pieces)
            t ← picture true (locationOf whole.toString) t
        catch _ => pure ()
  if deep && pieces.all fun piece => Path.isIdle piece || piece == ".." then
    try
      picture true (locationOf (← IO.FS.realPath (textOf pieces)).toString) t
    catch _ => return t
  else return t

def replaceFile (text : String) (bytes : ByteArray) : IO Unit := do
  let draft := text ++ ".draft"
  IO.FS.writeBinFile draft bytes
  try IO.FS.rename draft text
  catch e =>
    IO.FS.removeFile draft
    throw e

def writeFiles (guard : Location) (changes : List (Location × FileTree.Node)) : IO Unit := do
  for (l, n) in changes do
    match n with
    | .file bytes => unless l == guard do replaceFile (textOf l) bytes
    | _ => pure ()

/--
Carry out what has changed. The guard is held while files are written.
-/
def commit (guard : Location) (before after : FileTree) : IO Unit := do
  let changes := after.nodes.filter fun (l, n) => before.get? l != some n
  for (l, n) in changes do
    if n == .directory then IO.FS.createDir (textOf l)
  match after.get? guard with
  | some (.file _) =>
    let handle ← IO.FS.Handle.mk (textOf guard) .append
    handle.lock
    writeFiles guard changes
    handle.unlock
  | _ => pure ()

def guardOf? (here : Location) (after : FileTree) : Command → Option Location
  | .lock _ _ _ out false => (after.locate .target here (Guard.path out)).toOption
  | _ => none

def run (args : List String) : IO Output := do
  match Invocation.parse args with
  | .error stop => return stop.output
  | .ok i =>
    let here := locationOf (← IO.FS.realPath ".").toString
    let env : Environment := {
      home := ← IO.getEnv "HOME"
      workspaceOverrides := ← IO.getEnv Environment.overrideVariable
      log := ← IO.getEnv "PACKLOCK_LOG" }
    let deep := match i.command with
      | .scan _ => true
      | _ => false
    let before ← (paths here env.home i.command).foldlM (look deep here) ⟨[]⟩
    let (output, after) := i.run here env before
    match guardOf? here after i.command with
    | none => return output
    | some guard =>
      if before == after then return output
      try
        commit guard before after
        return output
      catch e =>
        return ⟨ExitCode.failure, "", output.err ++ "error: I/O error: " ++ toString e ++ "\n"⟩

end GovernanceLock.Program

def main (args : List String) : IO UInt32 := do
  let output ← GovernanceLock.Program.run args
  (← IO.getStdout).putStr output.out
  (← IO.getStderr).putStr output.err
  return output.exitCode.toUInt32
