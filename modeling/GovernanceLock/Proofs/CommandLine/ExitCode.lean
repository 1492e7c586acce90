import GovernanceLock.Proofs.CommandLine.Run

/-!
This module contains the statement that the exit code which is read off the message of a failure is
the one for its kind. No text of a user that a message quotes makes a difference, since messages
begin with fixed words, and these tell the kinds apart.
-/

namespace GovernanceLock

namespace CommandLine

inductive Kind where
  /-- Candidates, records, policies or manifests. -/
  | manifest
  /-- Packs that cannot be activated or resolved. -/
  | resolution
  /-- Anything else. -/
  | other
  deriving DecidableEq

def Kind.exitCode : Kind → Nat
  | manifest => 2
  | resolution => 3
  | other => 1

end CommandLine

open CommandLine (Kind)

def Resolution.Error.kind : Resolution.Error → Kind
  | manifest _ | idMismatch _ _ => .manifest
  | _ => .resolution

def Request.Error.kind : Request.Error → Kind
  | discovery _ => .manifest
  | activation _ => .resolution
  | resolution cause => cause.kind

def Request.WriteError.kind : Request.WriteError → Kind
  | request cause => cause.kind
  | guard _ | lock _ => .other

namespace CommandLine

/--
An error of the library, whatever a parser or the system has to say in it.
-/
inductive LibraryError where
  | request (cause : Request.Error)
  /-- The packs are resolved, but there is something wrong with their lock. -/
  | resolvedLock (detail : String)
  | configuration (detail : String)
  | record (detail : String)
  | lock (detail : String)
  | io (detail : String)

namespace LibraryError

def message : LibraryError → String
  | request cause => cause.message
  | resolvedLock detail => "resolution error: lock error: " ++ detail
  | configuration detail => "configuration error: " ++ detail
  | record detail => "record error: " ++ detail
  | lock detail => "lock error: " ++ detail
  | io detail => "I/O error: " ++ detail

def kind : LibraryError → Kind
  | request cause => cause.kind
  | resolvedLock _ => .resolution
  | configuration _ | record _ => .manifest
  | lock _ | io _ => .other

end LibraryError

def Failure.kind : Failure → Kind
  | records _ | policies _ | manifest _ => .manifest
  | request cause => cause.kind
  | write cause => cause.kind
  | badOverride _ | unreadableLock _ _ | notADirectory _ | unreadable _ _ => .other

def openings : List (String × Kind) :=
  [("discovery error: ", .manifest),
   ("record error: ", .manifest),
   ("configuration error: ", .manifest),
   ("manifest error: ", .manifest),
   ("resolution error: manifest error: ", .manifest),
   ("resolution error: manifest registered as '", .manifest),
   ("activation error: ", .resolution),
   ("resolution error: invalid engine version: ", .resolution),
   ("resolution error: no packs selected", .resolution),
   ("resolution error: selected pack '", .resolution),
   ("resolution error: missing required dependency '", .resolution),
   ("resolution error: engine version ", .resolution),
   ("resolution error: pack conflict detected: '", .resolution),
   ("resolution error: surface conflict detected: '", .resolution),
   ("resolution error: pack '", .resolution),
   ("resolution error: dependency cycle detected among required packs: ", .resolution),
   ("resolution error: lock error: ", .resolution),
   ("lock error: ", .other),
   ("I/O error: ", .other),
   ("failed to read lock '", .other),
   ("failed to read '", .other),
   ("invalid --workspace-overrides value '", .other),
   ("'", .other)]

def Apart (s t : String) : Prop :=
  ¬ s.toList <+: t.toList ∧ ¬ t.toList <+: s.toList

instance (s t : String) : Decidable (Apart s t) :=
  inferInstanceAs (Decidable (_ ∧ _))

namespace ExitCode

variable {words : List String} {opening : String}

theorem opens_append {word : String} (hword : word ∈ words) (h : word.toList <+: opening.toList)
    (text : String) : opens words (opening ++ text) = true := by
  unfold opens
  rw [List.any_eq_true]
  refine ⟨word, hword, ?_⟩
  rw [List.isPrefixOf_iff_prefix, String.toList_append]
  exact h.trans (List.prefix_append _ _)

theorem opens_append_of_apart (h : ∀ word ∈ words, Apart word opening) (text : String) :
    opens words (opening ++ text) = false := by
  unfold opens
  rw [List.any_eq_false]
  intro word hword hopens
  rw [List.isPrefixOf_iff_prefix, String.toList_append] at hopens
  rcases List.prefix_or_prefix_of_prefix hopens (List.prefix_append _ _) with hle | hle
  · exact (h word hword).1 hle
  · exact (h word hword).2 hle

def Settles (opening : String) : Kind → Prop
  | .manifest => ∃ word ∈ manifestOpenings, word.toList <+: opening.toList
  | .resolution => (∀ word ∈ manifestOpenings, Apart word opening) ∧
      ∃ word ∈ resolutionOpenings, word.toList <+: opening.toList
  | .other => (∀ word ∈ manifestOpenings, Apart word opening) ∧
      ∀ word ∈ resolutionOpenings, Apart word opening

instance (opening : String) (kind : Kind) : Decidable (Settles opening kind) := by
  cases kind <;> unfold Settles <;> infer_instance

theorem settles_of_mem {kind : Kind} (h : (opening, kind) ∈ openings) : Settles opening kind := by
  have hall : ∀ e ∈ openings, Settles e.1 e.2 := by
    decide +kernel
  exact hall _ h

theorem ofMessage_append {kind : Kind} (h : Settles opening kind) (text : String) :
    ofMessage (opening ++ text) = kind.exitCode := by
  unfold ofMessage
  cases kind with
  | manifest =>
    rcases h with ⟨word, hword, hle⟩
    rw [if_pos (opens_append hword hle text)]
    rfl
  | resolution =>
    rcases h with ⟨hapart, word, hword, hle⟩
    rw [opens_append_of_apart hapart, if_neg Bool.false_ne_true,
      if_pos (opens_append hword hle text)]
    rfl
  | other =>
    rw [opens_append_of_apart h.1, if_neg Bool.false_ne_true, opens_append_of_apart h.2,
      if_neg Bool.false_ne_true]
    rfl

end ExitCode

def Begins (message : String) (kind : Kind) : Prop :=
  ∃ opening text, (opening, kind) ∈ openings ∧ message = opening ++ text

theorem begins_append {opening : String} {kind : Kind} (h : (opening, kind) ∈ openings)
    (text : String) : Begins (opening ++ text) kind :=
  ⟨opening, text, h, rfl⟩

theorem begins_nested {outer inner : String} {kind : Kind} (h : (outer ++ inner, kind) ∈ openings)
    (text : String) : Begins (outer ++ (inner ++ text)) kind :=
  ⟨outer ++ inner, text, h, String.append_assoc.symm⟩

theorem Begins.ofMessage_eq {message : String} {kind : Kind} (h : Begins message kind) :
    ExitCode.ofMessage message = kind.exitCode := by
  rcases h with ⟨opening, text, hmem, rfl⟩
  exact ExitCode.ofMessage_append (ExitCode.settles_of_mem hmem) text

theorem begins_resolution (e : Resolution.Error) :
    Begins ("resolution error: " ++ e.message) e.kind := by
  unfold Resolution.Error.message
  cases e with
  | manifest cause => exact begins_nested (by simp [openings, Resolution.Error.kind]) _
  | emptySelection =>
    rw [← String.append_empty (s := "no packs selected")]
    exact begins_nested (by simp [openings, Resolution.Error.kind]) _
  -- The text of the others is a fixed beginning and then what it quotes.
  | _ =>
    simp only [String.append_assoc]
    exact begins_nested (by simp [openings, Resolution.Error.kind]) _

theorem begins_request (e : Request.Error) : Begins e.message e.kind := by
  cases e with
  | resolution cause => exact begins_resolution cause
  | _ => exact begins_append (by simp [openings, Request.Error.kind]) _

theorem begins_write (e : Request.WriteError) : Begins e.message e.kind := by
  cases e with
  | request cause => exact begins_request cause
  | _ => exact begins_append (by simp [openings, Request.WriteError.kind]) _

theorem LibraryError.begins (e : LibraryError) : Begins e.message e.kind := by
  cases e with
  | request cause => exact begins_request cause
  | _ => exact begins_append (by simp [openings, kind]) _

theorem Failure.begins (f : Failure) : Begins f.message f.kind := by
  unfold message
  cases f with
  | request cause => exact begins_request cause
  | write cause => exact begins_write cause
  | badOverride | unreadableLock | notADirectory | unreadable =>
    simp only [String.append_assoc]
    exact begins_append (by simp [openings, kind]) _
  | _ => exact begins_append (by simp [openings, kind]) _

/--
The exit code of a failure is the one for its kind, whatever ids, paths and other texts its message
quotes. A command that fails exits with it.
-/
theorem exitCode_eq_exitCode_kind :
    (∀ e : LibraryError, ExitCode.ofMessage e.message = e.kind.exitCode) ∧
      (∀ f : Failure, f.exitCode = f.kind.exitCode) ∧
      ∀ (i : Invocation) (here : Location) (env : Environment) (t t' : FileTree) (f : Failure),
        (i.command.perform i.json here env).runOn t = (.error f, t') →
          (i.run here env t).1.exitCode = f.kind.exitCode := by
  refine ⟨fun e => e.begins.ofMessage_eq, fun f => f.begins.ofMessage_eq, ?_⟩
  intro i here env t t' f hfails
  unfold Invocation.run
  rw [hfails]
  exact f.begins.ofMessage_eq

section

/-!
A directory that is not there, whose name begins as the messages about records do.
-/

def strangePath : Path :=
  .ofString "record error: pack"

def strangeScan : Invocation :=
  ⟨false, false, false, .scan strangePath⟩

theorem strangePath_eq : strangePath = ⟨false, ["record error: pack"]⟩ := by
  decide +kernel

theorem strangePath_locate :
    FileTree.locate ⟨[]⟩ .target [] strangePath = .ok ["record error: pack"] := by
  have hwalk : FileTree.walk ⟨[]⟩ .target FileTree.linkLimit [] ["record error: pack"] =
      .ok ["record error: pack"] := by
    unfold FileTree.walk
    rfl
  rw [strangePath_eq]
  exact hwalk

theorem strangeScan_perform :
    (strangeScan.command.perform strangeScan.json [] ⟨none, none, none⟩).runOn ⟨[]⟩ =
      (.error (.notADirectory "record error: pack"), ⟨[]⟩) := by
  unfold strangeScan
  rw [Command.runOn_perform_scan]
  unfold Command.runScan
  rw [strangePath_locate, strangePath_eq]
  rfl

theorem strangeScan_exitCode_eq_exitCode_kind :
    Failure.exitCode (.request (.resolution (.unknownSelection "discovery error: pack"))) = 3 ∧
      (strangeScan.command.perform strangeScan.json [] ⟨none, none, none⟩).runOn ⟨[]⟩ =
        (.error (.notADirectory "record error: pack"), ⟨[]⟩) ∧
      (strangeScan.run [] ⟨none, none, none⟩ ⟨[]⟩).1.exitCode = 1 :=
  ⟨exitCode_eq_exitCode_kind.2.1 _, strangeScan_perform,
    exitCode_eq_exitCode_kind.2.2 _ _ _ _ _ _ strangeScan_perform⟩

end

end CommandLine

end GovernanceLock
