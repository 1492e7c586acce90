import GovernanceLock.Order.KeyMap

/-!
This module contains the reading of options and operands from the arguments of a command. An option
stands alone, has its value attached after `=`, or takes what follows it as long as that does not
look like an option. Behind `--` there are operands only.
-/

namespace GovernanceLock.CommandLine

inductive Stop where
  | usage
  | help
  | version
  deriving DecidableEq

inductive Arity where
  | flag
  | help
  | version
  /-- One value, which may be empty or not. -/
  | once (empty : Bool)
  /-- One or more values, every time it is given. -/
  | repeated
  deriving DecidableEq

structure Grammar where
  options : List (String × Arity)
  letters : List (Char × String)
  operands : Nat

structure Given where
  options : List (String × List String)
  operands : List String
  deriving DecidableEq, Inhabited

namespace Given

def nothing : Given := ⟨[], []⟩

def has (given : Given) (name : String) : Bool :=
  given.options.any (·.1 = name)

def values (given : Given) (name : String) : List String :=
  (given.options.reverse.filter (·.1 = name)).flatMap (·.2)

def value? (given : Given) (name : String) : Option String :=
  (given.values name).head?

def add (given : Given) (name : String) (values : List String) : Given :=
  { given with options := (name, values) :: given.options }

end Given

inductive Token where
  | word
  | divider
  | long (name : String) (attached : Option String)
  | letters (letters : List Char)
  deriving DecidableEq

namespace Token

def ofLong (cs : List Char) : Token :=
  let name := String.ofList (cs.takeWhile (· ≠ '='))
  match cs.dropWhile (· ≠ '=') with
  | [] => long name none
  | _ :: value => long name (some (String.ofList value))

def ofString (text : String) : Token :=
  match text.toList with
  | ['-', '-'] => divider
  | '-' :: '-' :: cs => ofLong cs
  | '-' :: c :: cs => letters (c :: cs)
  | _ => word

end Token

def isWord (text : String) : Bool :=
  Token.ofString text = .word

namespace Grammar

def enter (g : Grammar) (given : Given) (name : String) (attached : Option String)
    (rest : List String) :
    Except Stop (Given × { left : List String // left.length ≤ rest.length }) :=
  match KeyMap.lookup name g.options, attached with
  | none, _ => .error .usage
  | some .help, none => .error .help
  | some .version, none => .error .version
  | some .flag, none =>
    if given.has name then .error .usage else .ok (given.add name [], ⟨rest, Nat.le_refl _⟩)
  | some .help, some _ | some .version, some _ | some .flag, some _ => .error .usage
  | some (.once empty), some value =>
    if given.has name || !(empty || value ≠ "") then .error .usage
    else .ok (given.add name [value], ⟨rest, Nat.le_refl _⟩)
  | some (.once empty), none =>
    match rest with
    | [] => .error .usage
    | value :: left =>
      if given.has name || !isWord value || !(empty || value ≠ "") then .error .usage
      else .ok (given.add name [value], ⟨left, Nat.le_succ _⟩)
  | some .repeated, some value => .ok (given.add name [value], ⟨rest, Nat.le_refl _⟩)
  | some .repeated, none =>
    let values := rest.takeWhile isWord
    if values.isEmpty then .error .usage
    else .ok (given.add name values, ⟨rest.dropWhile isWord, (List.dropWhile_suffix _).length_le⟩)

def enterLetters (g : Grammar) (given : Given) : List Char → Except Stop Given
  | [] => .ok given
  | c :: cs =>
    match g.letters.find? (·.1 = c) with
    | none => .error .usage
    | some (_, name) => do
      let (given, _) ← g.enter given name none []
      g.enterLetters given cs

def enterOperand (g : Grammar) (given : Given) (text : String) : Except Stop Given :=
  if given.operands.length < g.operands && text ≠ "" then
    .ok { given with operands := text :: given.operands }
  else .error .usage

def lead (g : Grammar) (given : Given) : List String → Except Stop (Given × List String)
  | [] => .ok (given, [])
  | text :: rest =>
    match Token.ofString text with
    | .word | .divider => .ok (given, text :: rest)
    | .long name attached =>
      match g.enter given name attached rest with
      | .ok (given, ⟨left, _⟩) => g.lead given left
      | .error stop => .error stop
    | .letters cs =>
      match g.enterLetters given cs with
      | .ok given => g.lead given rest
      | .error stop => .error stop
  termination_by args => args.length

/--
Read all arguments.
-/
def read (g : Grammar) (given : Given) : List String → Except Stop Given
  | [] => .ok given
  | text :: rest =>
    match Token.ofString text with
    | .divider => rest.foldlM g.enterOperand given
    | .word =>
      match g.enterOperand given text with
      | .ok given => g.read given rest
      | .error stop => .error stop
    | .long name attached =>
      match g.enter given name attached rest with
      | .ok (given, ⟨left, _⟩) => g.read given left
      | .error stop => .error stop
    | .letters cs =>
      match g.enterLetters given cs with
      | .ok given => g.read given rest
      | .error stop => .error stop
  termination_by args => args.length

end Grammar

end GovernanceLock.CommandLine
