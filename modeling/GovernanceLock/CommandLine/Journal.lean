import GovernanceLock.CommandLine.Journal.Filter
import GovernanceLock.CommandLine.Sources
import GovernanceLock.Text.Quoted

/-!
This module contains the journal of a run: what each stage says about itself, in order, up to the
stage that fails.
-/

namespace GovernanceLock.CommandLine

namespace Journal

structure Entry where
  part : Part
  level : Level
  text : String
  deriving DecidableEq

def debug (part : Part) (text : String) : Entry := ⟨part, .debug, text⟩

def filter (log : Option String) (verbose trace : Bool) : Filter :=
  (log.bind Filter.parse?).getD
    (Filter.ofLevel (if trace then .trace else if verbose then .debug else .warn))

def writeChar (c : Char) : List Char :=
  match c with
  | '\x1b' => ['\\', 'x', '1', 'b']
  | '\x07' => ['\\', 'x', '0', '7']
  | '\x08' => ['\\', 'x', '0', '8']
  | '\x0c' => ['\\', 'x', '0', 'c']
  | '\x7f' => ['\\', 'x', '7', 'f']
  | c => if 0x80 ≤ c.toNat ∧ c.toNat ≤ 0x9F then Text.codeEscape c else [c]

def Entry.line (e : Entry) : String :=
  e.level.label ++ " " ++ String.ofList (e.text.toList.flatMap writeChar) ++ "\n"

def render (filter : Filter) (entries : List Entry) : String :=
  String.join ((entries.filter fun e => filter.shows e.part e.level).map Entry.line)

def stages : List (Except ε (List Entry)) → List Entry
  | [] => []
  | .ok entries :: rest => entries ++ stages rest
  | .error _ :: _ => []

def report (r : Except ε α) (f : α → List Entry) : Except Unit (List Entry) :=
  (r.map f).mapError fun _ => ()

def counted (n : Nat) (noun : String) : String :=
  n.repr ++ " " ++ noun ++ "(s)"

def boolName (b : Bool) : String :=
  if b then "true" else "false"

/-! Loading. -/

def candidatesLoaded (t : FileTree) (here : Location) (path : Option Path) :
    Except Unit (List Entry) :=
  report (Sources.candidates t here path) fun list =>
    match path with
    | some path =>
      [debug .commands ("loaded " ++ counted list.length "candidate" ++ " from " ++ path.toString)]
    | none => []

def pathName : Option Path → String
  | some path => "Some(" ++ Text.quoted path.toString ++ ")"
  | none => "None"

def policyFilesFound (files : PolicyFiles) : Entry :=
  debug .commands
    ("policy files: repo " ++ pathName files.repo ++ ", global " ++ pathName files.global)

def policyConsulted (t : FileTree) (here : Location) : Option Path → List Entry
  | some path =>
    if t.isPresent here path then [debug .trust ("loading policy " ++ path.toString)]
    else [debug .trust ("policy " ++ path.toString ++ " not present")]
  | none => []

def overrideIgnored (s : Sources) (env : Environment) : List Entry :=
  match s.overrides, env.workspaceOverrides, env.runtimeOverride with
  | none, some raw, none =>
    [⟨.trust, .warn, "ignoring " ++ Environment.overrideVariable ++ "=" ++ Text.quoted raw
      ++ ": expected a boolean"⟩]
  | _, _, _ => []

def loading (s : Sources) (t : FileTree) (here : Location) (env : Environment) : List Entry :=
  let files := s.policyFiles t here env.home
  stages
    [candidatesLoaded t here s.workspace,
     candidatesLoaded t here s.installer,
     candidatesLoaded t here s.user,
     .ok (policyFilesFound files :: policyConsulted t here files.repo),
     report (PolicyFiles.loadFile t here files.repo) fun _ =>
       policyConsulted t here files.global,
     report (PolicyFiles.loadFile t here files.global) fun _ => overrideIgnored s env]

/-! Running. -/

def tierCollected (offers : Offers) (tier : Tier) : Except Unit (List Entry) :=
  report (Candidate.collectTier offers tier) fun list =>
    [debug .discovery ("discovered " ++ counted list.length (tier.name ++ " candidate"))]

def allCollected (r : Request) : Except Unit (List Entry) :=
  report (Candidate.collect r.offers) fun list =>
    [debug .pipeline ("collected " ++ counted list.length "candidate"),
     debug .trust ("trust policy: workspace overrides " ++ boolName r.policy.workspaceOverrides
       ++ " (" ++ r.policy.source.name ++ ")")]

def packsActivated (r : Request) : List (Except Unit (List Entry)) :=
  match Candidate.collect r.offers with
  | .error _ => []
  | .ok candidates =>
    (Activation.offeredIds candidates).map fun id =>
      report (Activation.choose candidates r.policy id) fun c =>
        [debug .activation ("activated pack '" ++ id ++ "' from " ++ c.tier.name)]

def allActivated (r : Request) : Except Unit (List Entry) :=
  report r.activate fun (_, active) =>
    [debug .pipeline ("activated " ++ counted active.entries.length "pack")]

def activating (r : Request) : List (Except Unit (List Entry)) :=
  Tier.all.map (tierCollected r.offers) ++ [allCollected r] ++ packsActivated r ++ [allActivated r]

def closed (r : Request) : Except Unit (List Entry) :=
  match r.activate with
  | .error _ => .error ()
  | .ok (_, active) =>
    report (Resolution.close active r.selected r.engineVersion) fun c =>
      [debug .resolution ("closure of " ++ c.selection.length.repr ++ " selected pack(s) has "
        ++ counted c.packs.length "pack")]

def ordered (r : Request) : Except Unit (List Entry) :=
  report r.run fun o =>
    [debug .resolution ("resolved order: " ++ Text.joinTexts ", " o.lock.resolvedOrder)]

def resolving (r : Request) : List (Except Unit (List Entry)) :=
  activating r ++ [closed r, ordered r]

def writing (r : Request) (t : FileTree) (here : Location) (out : Path) :
    List (Except Unit (List Entry)) :=
  [report ((Guard.acquire here out).runOn t).1 fun _ =>
     [debug .guard ("acquired write guard " ++ (Guard.path out).toString)],
   report ((r.write here out).runOn t).1 fun o =>
     [⟨.pipeline, .info, "wrote " ++ out.toString ++ " (" ++ counted o.lock.packs.length "pack"
       ++ ", lock_hash " ++ o.lock.lockHash ++ ")"⟩]]

end Journal

def Command.journal (c : Command) (t : FileTree) (here : Location) (env : Environment) :
    List Journal.Entry :=
  match c with
  | .lock selected engineVersion sources out dryRun =>
    Journal.loading sources t here env ++
      match sources.load t here env selected engineVersion with
      | .error _ => []
      | .ok r =>
        Journal.stages (Journal.resolving r ++ if dryRun then [] else Journal.writing r t here out)
  | .verify path sources =>
    match Lock.read t here path with
    | .error _ => []
    | .ok _ =>
      if sources.haveCandidates then
        Journal.loading sources t here env ++
          match sources.load t here env [] "" with
          | .error _ => []
          | .ok r => Journal.stages (Journal.activating r)
      else []
  | .scan _ => []

end GovernanceLock.CommandLine
