import Gallery.Command
import Gallery.Command.Grammar
import Gallery.Similarity
import Gallery.Text.FilePath
import Gallery.Text.Numeral

/-!
# `Gallery.Command.Arguments` — commands as they are written

## Contents
- The readers of values: `readFingerprint`, `readSymbol`, `readColor`, `readThreshold`, `readCount`,
  `readFormat`.
- One grammar for each command.
- `Invocation`, a command and where the gallery is; `Invocation.parse`.
-/

namespace Gallery.Command

open Gallery.Text

/-! ## Values -/

/-- The value that was read, or the error of one that cannot be. -/
def orInvalid {α : Type} (place value : String) (a : Option α) : Except UsageError α :=
  match a with
  | some a => .ok a
  | none => .error (.invalidValue place value)

/-- Reads a fingerprint. -/
def readFingerprint (s : String) : Except UsageError Fingerprint :=
  orInvalid "fingerprint" s (Fingerprint.parse s).toOption

/-- Reads a text of one character. -/
def readSymbol (s : String) : Except UsageError Char :=
  match s.toList with
  | [c] => .ok c
  | _ => .error (.invalidValue "SYMBOL" s)

/-- Reads a color: number signs, then text of six bytes that is a hexadecimal numeral. -/
def readColor (s : String) : Except UsageError UInt32 :=
  let cs := s.toList.dropWhile (· == '#')
  orInvalid "color" s <|
    if (String.ofList cs).utf8ByteSize = 6 then (readSignedHex? cs).map UInt32.ofNat else none

/-- Reads a threshold, from 0 to 64. -/
def readThreshold (s : String) : Except UsageError UInt32 :=
  orInvalid "threshold" s <|
    (readInt? s.toList).bind fun n => if 0 ≤ n ∧ n ≤ 64 then some (UInt32.ofNat n.toNat) else none

/-- Reads a number of 64 bits. -/
def readCount (s : String) : Except UsageError Nat :=
  orInvalid "count" s ((readSignedNat? s.toList).filter (· < UInt64.size))

/-- Reads the name of a format. -/
def readFormat (s : String) : Except UsageError OutputFormat :=
  if s = "json" then .ok .json
  else if s = "table" then .ok .table
  else .error (.unknownChoice "output-format" s)

/-- The value of a place that has to be filled. -/
def required {α : Type} (place : String) : Option α → Except UsageError α
  | some a => .ok a
  | none => .error (.missingArgument place)

/-- A place for a text. -/
def textPlace {σ : Type} (name : String) (f : String → σ → σ) : Place σ :=
  { name, take := fun v s => .ok (f v s) }

/-- The option that asks for help. -/
def helpOption {σ : Type} : OptionDecl σ :=
  { name := "help", letter := some 'h', effect := .divert .help }

/-! ## Commands -/

/-- What is read from the arguments of `add`. -/
structure AddArguments where
  path : Option String := none
  fingerprint : Option Fingerprint := none
  tags : List String := []

/-- What `add` takes. -/
def addGrammar : Grammar AddArguments where
  options := [
    { name := "fingerprint", letter := some 'f'
      effect := .take fun v s => do return { s with fingerprint := some (← readFingerprint v) } },
    { name := "tags", letter := some 't', repeatable := true
      effect := .take fun v s => .ok { s with tags := s.tags ++ splitString ',' v } },
    helpOption]
  places := [textPlace "PATH" fun v s => { s with path := some v }]

/-- Reads the arguments of `add`. -/
def readAdd (args : List String) : Except UsageError Command := do
  let s ← addGrammar.read args {}
  return .add (← required "PATH" s.path) s.fingerprint s.tags

/-- What is read from the arguments of `mv`. -/
structure MoveArguments where
  source : Option String := none
  target : Option String := none

/-- What `mv` takes. -/
def moveGrammar : Grammar MoveArguments where
  options := [helpOption]
  places := [textPlace "FROM" fun v s => { s with source := some v },
    textPlace "TO" fun v s => { s with target := some v }]

/-- Reads the arguments of `mv`. -/
def readMove (args : List String) : Except UsageError Command := do
  let s ← moveGrammar.read args {}
  return .move (← required "FROM" s.source) (← required "TO" s.target)

/-- What `rm` takes. -/
def removeGrammar : Grammar (List String) where
  options := [helpOption]
  places := [{ textPlace "PATHS" fun v s => s ++ [v] with repeatable := true }]

/-- Reads the arguments of `rm`. -/
def readRemove (args : List String) : Except UsageError Command := do
  match ← removeGrammar.read args [] with
  | [] => .error (.missingArgument "PATHS")
  | paths => return .remove paths

/-- What is read from the arguments of `tag`. -/
structure TagArguments where
  path : Option String := none
  tags : List String := []
  mode : TagMode := .replace

/-- What `tag` takes. -/
def tagGrammar : Grammar TagArguments where
  options := [
    { name := "append", letter := some 'a', effect := .mark fun s => { s with mode := .append } },
    { name := "remove", letter := some 'r', effect := .mark fun s => { s with mode := .remove } },
    helpOption]
  places := [textPlace "PATH" fun v s => { s with path := some v },
    { textPlace "TAGS" fun v s => { s with tags := s.tags ++ [v] } with repeatable := true }]
  conflicts := [("remove", "append")]

/-- Reads the arguments of `tag`. -/
def readTag (args : List String) : Except UsageError Command := do
  let s ← tagGrammar.read args {}
  return .tag (← required "PATH" s.path) s.tags s.mode

/-- What is read from the arguments of `define`. -/
structure DefineArguments where
  label : Option String := none
  change : DefinitionChange := .keep
  typeLabel : Option String := none
  remove : Bool := false

/-- What `define` takes. -/
def defineGrammar : Grammar DefineArguments where
  options := [
    { name := "definition", letter := some 'd', hyphens := true
      effect := .take fun v s => .ok { s with change := .set v } },
    { name := "type", letter := some 'T'
      effect := .take fun v s => .ok { s with typeLabel := some v } },
    { name := "plain", letter := none, effect := .mark fun s => { s with change := .drop } },
    { name := "remove", letter := none, effect := .mark fun s => { s with remove := true } },
    helpOption]
  places := [textPlace "LABEL" fun v s => { s with label := some v }]
  conflicts := [("plain", "definition"), ("remove", "definition"), ("remove", "plain"),
    ("remove", "type")]

/-- Reads the arguments of `define`. -/
def readDefine (args : List String) : Except UsageError Command := do
  let s ← defineGrammar.read args {}
  let label ← required "LABEL" s.label
  return if s.remove then .undefine label else .define label s.change s.typeLabel

/-- What is read from the arguments of `define-type`. -/
structure DefineTypeArguments where
  label : Option String := none
  symbol : Option Char := none
  color : UInt32 := 0

/-- What `define-type` takes. -/
def defineTypeGrammar : Grammar DefineTypeArguments where
  options := [
    { name := "color", letter := none
      effect := .take fun v s => do return { s with color := ← readColor v } },
    helpOption]
  places := [textPlace "LABEL" fun v s => { s with label := some v },
    { name := "SYMBOL", take := fun v s => do return { s with symbol := some (← readSymbol v) } }]

/-- Reads the arguments of `define-type`. -/
def readDefineType (args : List String) : Except UsageError Command := do
  let s ← defineTypeGrammar.read args {}
  return .defineType (← required "LABEL" s.label) (← required "SYMBOL" s.symbol) s.color

/-- What is read from the arguments of `query`. -/
structure QueryArguments where
  text : Option String := none
  threshold : UInt32 := Similarity.defaultThreshold
  count : Nat := 0
  format : OutputFormat := .table

/-- What `query` takes. -/
def queryGrammar : Grammar QueryArguments where
  options := [
    { name := "threshold", letter := none
      effect := .take fun v s => do return { s with threshold := ← readThreshold v } },
    { name := "count", letter := none
      effect := .take fun v s => do return { s with count := ← readCount v } },
    { name := "output-format", letter := none
      effect := .take fun v s => do return { s with format := ← readFormat v } },
    helpOption]
  places := [{ textPlace "QUERY" fun v s => { s with text := some v } with hyphens := true }]

/-- Reads the arguments of `query`. -/
def readQuery (args : List String) : Except UsageError Command := do
  let s ← queryGrammar.read args {}
  return .query (← required "QUERY" s.text) s.threshold s.count s.format

/-- The arguments of the commands that take a query alone. -/
def textGrammar : Grammar (Option String) where
  options := [helpOption]
  places := [{ textPlace "QUERY" fun v _ => some v with hyphens := true }]

/-- Reads the arguments of a command that takes a query alone. -/
def readText (command : String → Command) (args : List String) : Except UsageError Command := do
  return command (← required "QUERY" (← textGrammar.read args none))

/-- What `untagged` takes. -/
def untaggedGrammar : Grammar Unit where
  options := [helpOption]

/-- Reads the arguments of `untagged`. -/
def readUntagged (args : List String) : Except UsageError Command := do
  untaggedGrammar.read args ()
  return .untagged

/-- The commands by their words. -/
def readers : List (String × (List String → Except UsageError Command)) :=
  [("add", readAdd), ("mv", readMove), ("rm", readRemove), ("tag", readTag),
    ("define", readDefine), ("define-type", readDefineType), ("query", readQuery),
    ("validate", readText .validate), ("explain", readText .explain), ("untagged", readUntagged)]

/-- Help can be asked for on a command. -/
def readHelp : List String → UsageError
  | [] => .help
  | [word] => if word = "help" || (readers.lookup word).isSome then .help else .unknownCommand word
  | word :: next :: _ =>
    if word = "help" || (readers.lookup word).isSome then .unknownCommand next
    else .unknownCommand word

/-! ## Invocations -/

/-- A command and the directory of the gallery, if it is given. -/
structure Invocation where
  directory : Option String
  command : Command

/-- The arguments in front of the command. -/
def outerGrammar : Grammar (Option String) where
  options := [
    { name := "conf-dir", letter := some 'c', effect := .take fun v _ => .ok (some v) },
    helpOption,
    { name := "version", letter := some 'V', effect := .divert .version }]
  commands := "help" :: readers.map (·.1)

/-- Reads the arguments of the program. -/
def Invocation.parse (args : List String) : Except UsageError Invocation :=
  if args.isEmpty then .error .help
  else do
    let (p, rest) ← outerGrammar.consume { record := none, places := [] } args
    match rest with
    | none =>
      let _ ← outerGrammar.finish p
      .error .missingCommand
    | some (word, args) =>
      match readers.lookup word with
      | none => .error (readHelp args)
      | some reader =>
        -- The errors of the command win over those of the arguments in front of it.
        let command ← reader args
        return ⟨← outerGrammar.finish p, command⟩

end Gallery.Command
