/-!
# `Gallery.Command.Grammar` — the arguments that a command takes

A grammar declares options, places for plain arguments and the pairs of options that exclude each
other; what is read goes into a record of type `σ`.  An option is written with two hyphens and its
name or with one hyphen and its letter, flags may share a hyphen, a value may be attached or follow as
the next argument, and after two hyphens alone every argument is plain.  A value that follows is
stored only when the next argument is understood, so of two errors the later argument's can win.

## Contents
- `UsageError`, with `UsageError.message`.
- `OptionDecl`, `Place` and `Grammar`.
- `Progress`, how far the reading has come; `settle`, which stores a value that was held back.
- `Grammar.step`, the reading of one argument; `Grammar.read`, that of all.
-/

namespace Gallery.Command

/-- Why arguments are not understood, or what they ask for in place of a command. -/
inductive UsageError where
  | help
  | version
  | missingCommand
  | unknownCommand (word : String)
  | unknownArgument (arg : String)
  | missingArgument (place : String)
  /-- An option without its value. -/
  | missingValue (option : String)
  /-- A value after a flag. -/
  | unexpectedValue (flag : String)
  /-- A value that cannot be read. -/
  | invalidValue (place value : String)
  /-- A value that is none of the allowed words. -/
  | unknownChoice (place value : String)
  | repeated (option : String)
  | conflict (one other : String)
  deriving DecidableEq, Repr

/-- The description of an error. -/
def UsageError.message : UsageError → String
  | help => "help"
  | version => "version"
  | missingCommand => "a command is required"
  | unknownCommand word => s!"unrecognized command '{word}'"
  | unknownArgument arg => s!"unexpected argument '{arg}'"
  | missingArgument place => s!"missing argument <{place}>"
  | missingValue option => s!"a value is required for '--{option}'"
  | unexpectedValue flag => s!"'--{flag}' takes no value"
  | invalidValue place value => s!"invalid value '{value}' for '{place}'"
  | unknownChoice place value => s!"invalid value '{value}' for '{place}'"
  | repeated option => s!"'--{option}' cannot be used twice"
  | conflict one other => s!"'--{one}' cannot be used with '--{other}'"

/-- What becomes of an option. -/
inductive Effect (σ : Type) where
  /-- It is a flag. -/
  | mark (f : σ → σ)
  /-- It takes a value. -/
  | take (f : String → σ → Except UsageError σ)
  /-- It asks for something else than the command. -/
  | divert (e : UsageError)

/-- An option. -/
structure OptionDecl (σ : Type) where
  name : String
  letter : Option Char
  effect : Effect σ
  /-- Whether it may be used more than once. -/
  repeatable : Bool := false
  /-- Whether the argument after it is its value even if it starts with a hyphen. -/
  hyphens : Bool := false

/-- A place for plain arguments. -/
structure Place (σ : Type) where
  name : String
  take : String → σ → Except UsageError σ
  /-- Whether it takes all further plain arguments. -/
  repeatable : Bool := false
  /-- Whether an argument that starts with a hyphen and is no option can stand here. -/
  hyphens : Bool := false

/-- The arguments that a command takes. -/
structure Grammar (σ : Type) where
  options : List (OptionDecl σ)
  places : List (Place σ) := []
  conflicts : List (String × String) := []
  /-- The plain arguments after which another grammar takes over. -/
  commands : List String := []

variable {σ : Type}

/-! ## Progress -/

/-- What is still to be stored. -/
inductive Pending (σ : Type) where
  | nothing
  /-- An option without its value so far. -/
  | awaited (o : OptionDecl σ)
  /-- An option and its value. -/
  | given (o : OptionDecl σ) (value : String)
  /-- A plain argument. -/
  | plain (p : Place σ) (value : String)

/-- How far the reading has come. -/
structure Progress (σ : Type) where
  record : σ
  /-- The options stored so far. -/
  seen : List String := []
  pending : Pending σ := .nothing
  /-- The places for the plain arguments that are still to come. -/
  places : List (Place σ)
  /-- Whether two hyphens alone have been read. -/
  plainOnly : Bool := false

namespace Progress

/-- Notes that an option is used, which may be forbidden. -/
def use (p : Progress σ) (o : OptionDecl σ) : Except UsageError (Progress σ) :=
  if !o.repeatable && p.seen.contains o.name then .error (.repeated o.name)
  else .ok { p with seen := p.seen ++ [o.name] }

/-- Stores a value of an option. -/
def store (p : Progress σ) (o : OptionDecl σ) (value : String) : Except UsageError (Progress σ) := do
  let p ← p.use o
  match o.effect with
  | .take f => return { p with record := ← f value p.record }
  | _ => .error (.unexpectedValue o.name)

/-- Stores what is pending. -/
def settle (p : Progress σ) : Except UsageError (Progress σ) :=
  let free := { p with pending := .nothing }
  match p.pending with
  | .nothing => .ok p
  | .awaited o => .error (.missingValue o.name)
  | .given o value => free.store o value
  | .plain place value => do return { free with record := ← place.take value p.record }

/-- The option whose value should come next. -/
def awaited? (p : Progress σ) : Option (OptionDecl σ) :=
  match p.pending with
  | .awaited o => some o
  | _ => none

/-- Whether the option whose value should come next takes any argument as such. -/
def takesAny (p : Progress σ) : Bool := p.awaited?.any (·.hyphens)

/-- Whether the next plain argument may start with a hyphen. -/
def allowsHyphens (p : Progress σ) : Bool := p.places.head?.any (·.hyphens)

/-- Reads an option, with a value if one is attached. -/
def option (p : Progress σ) (o : OptionDecl σ) (attached : Option String) :
    Except UsageError (Progress σ) :=
  match o.effect, attached with
  | .take _, none => do return { ← p.settle with pending := .awaited o }
  | .take _, some v => do (← p.settle).store o v
  | _, some _ => .error (.unexpectedValue o.name)
  | .mark f, none => do
    let p ← (← p.settle).use o
    return { p with record := f p.record }
  | .divert e, none => do
    let _ ← p.settle
    .error e

end Progress

/-! ## Arguments -/

namespace Grammar

variable (g : Grammar σ)

/-- The option with a name. -/
def named? (name : String) : Option (OptionDecl σ) := g.options.find? fun o => o.name == name

/-- The option with a letter. -/
def lettered? (c : Char) : Option (OptionDecl σ) := g.options.find? fun o => o.letter == some c

/-- Reads a plain argument. -/
def plain (p : Progress σ) (arg : String) : Except UsageError (Progress σ) :=
  match p.places with
  | [] => .error (if g.commands.isEmpty || p.plainOnly && g.commands.contains arg
      then .unknownArgument arg else .unknownCommand arg)
  | place :: rest => do
    let p ← p.settle
    return { p with
      pending := .plain place arg
      -- A repeatable place is the last one and takes all that is still to come.
      places := if place.repeatable then place :: rest else rest }

/-- Reads an argument that is no option: a value that is awaited, or a plain argument. -/
def value (p : Progress σ) (arg : String) : Except UsageError (Progress σ) :=
  match p.awaited? with
  | some o => .ok { p with pending := .given o arg }
  | none => g.plain p arg

/-- Splits at the first equality sign. -/
def attachment : List Char → List Char × Option (List Char)
  | [] => ([], none)
  | c :: rest =>
    if c = '=' then ([], some rest)
    else
      let (name, value) := attachment rest
      (c :: name, value)

/-- Reads the letters after a hyphen: flags, then perhaps an option with the rest as its value. -/
def letters (arg : String) : List Char → Progress σ → Except UsageError (Progress σ)
  | [], p => .ok p
  | c :: rest, p =>
    match g.lettered? c with
    | none => .error (.unknownArgument arg)
    | some o =>
      match o.effect, rest with
      | .take _, [] => p.option o none
      | .take _, '=' :: v => p.option o (some (String.ofList v))
      | .take _, v => p.option o (some (String.ofList v))
      | _, rest => do letters arg rest (← p.option o none)

/-- Reads an argument. -/
def step (p : Progress σ) (arg : String) : Except UsageError (Progress σ) :=
  if p.plainOnly then g.plain p arg
  else if p.takesAny then g.value p arg
  else
    match arg.toList with
    | ['-', '-'] => .ok { p with plainOnly := true }
    | '-' :: '-' :: cs =>
      let (name, attached) := attachment cs
      match g.named? (String.ofList name) with
      | some o => p.option o (attached.map String.ofList)
      | none => if p.allowsHyphens then g.value p arg else .error (.unknownArgument arg)
    | '-' :: c :: cs =>
      -- One letter that is no option makes the whole argument a plain one, where that is allowed.
      if p.allowsHyphens && (c :: cs).any fun d => (g.lettered? d).isNone then g.value p arg
      else g.letters arg (c :: cs) p
    | _ => g.value p arg

/-- Reads arguments up to a command, if there is one; the command and what follows it are left. -/
def consume (p : Progress σ) :
    List String → Except UsageError (Progress σ × Option (String × List String))
  | [] => .ok (p, none)
  | arg :: rest =>
    -- What is pending is stored by the caller after the command has read its own arguments.
    if !p.plainOnly && p.awaited?.isNone && g.commands.contains arg then .ok (p, some (arg, rest))
    else do consume (← g.step p arg) rest

/-- Stores what is pending and refuses options that exclude each other. -/
def finish (p : Progress σ) : Except UsageError σ := do
  let p ← p.settle
  match g.conflicts.find? fun c => p.seen.contains c.1 && p.seen.contains c.2 with
  | some (one, other) => .error (.conflict one other)
  | none => return p.record

/-- Reads all arguments into a record. -/
def read (args : List String) (record : σ) : Except UsageError σ := do
  let (p, _) ← g.consume { record, places := g.places } args
  g.finish p

end Grammar

end Gallery.Command
