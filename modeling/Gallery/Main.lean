import Gallery.Command.Arguments
import Gallery.Command.Run
import Gallery.Store.Written

/-!
# `Gallery.Main` — the program

The store is a text file in the directory of the gallery.  A command is read from the arguments, run
on the store, and what it has changed is written back, also if it fails.

## Contents
- `usage`, the text that is shown for help.
- `main`, whose result is zero, one if the command failed, or two if there was none.
-/

open Gallery Gallery.Command

/-- How the program is used. -/
def usage : List String := [
  "Usage: gallery [-c DIR] COMMAND",
  "",
  "  add PATH [-f HEX] [-t TAGS]            register an image",
  "  mv FROM TO                             give an image another path",
  "  rm PATHS...                            remove images",
  "  tag PATH [TAGS...] [-a | -r]           change the tags of an image",
  "  define LABEL [-d QUERY] [-T TYPE]      create or change a tag",
  "  define LABEL --plain | --remove        drop a definition or a tag",
  "  define-type LABEL SYMBOL [--color C]   create a tag type",
  "  query [--threshold N] [--count N] [--output-format json|table] QUERY",
  "  validate QUERY                         check a query",
  "  explain QUERY                          show the query that is answered",
  "  untagged                               list the images without tags"]

/-- The directory of the gallery unless another is given. -/
def defaultDirectory : IO String := do
  match ← IO.getEnv "XDG_CONFIG_HOME" with
  | some dir => return dir ++ "/gallery"
  | none => return (← IO.getEnv "HOME").getD "." ++ "/.config/gallery"

/-- The text of a file, which is empty if there is none. -/
def readIfPresent (file : String) : IO String := do
  try IO.FS.readFile file
  catch
    | .noFileOrDirectory .. => return ""
    | e => throw e

/-- Runs a command on the store in a directory. -/
def runIn (directory : String) (c : Command) : IO UInt32 := do
  let file := directory ++ "/gallery.txt"
  match Store.read? (← readIfPresent file) with
  | none =>
    IO.eprintln ("Error: unreadable store " ++ file)
    return 1
  | some store =>
    let (outcome, changed) := c.run store
    if changed ≠ store then
      IO.FS.createDirAll directory
      IO.FS.writeFile file changed.write
    outcome.out.forM (IO.println ·)
    outcome.err.forM (IO.eprintln ·)
    match outcome.failure with
    | none => return 0
    | some failure =>
      IO.eprintln ("Error: " ++ "\n  caused by: ".intercalate (failure.chain Regex.Error.message))
      return 1

/-- Runs the program. -/
def main (args : List String) : IO UInt32 := do
  match Invocation.parse args with
  | .error .help =>
    usage.forM (IO.println ·)
    return 0
  | .error .version =>
    IO.println "gallery 0.3.0"
    return 0
  | .error e =>
    IO.eprintln ("error: " ++ e.message)
    return 2
  | .ok invocation =>
    let directory ← match invocation.directory with
      | some directory => pure directory
      | none => defaultDirectory
    runIn directory invocation.command
