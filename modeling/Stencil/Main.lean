import Stencil.CommandLine.Basic

/-!
# The program
-/

open Stencil

/-- The text of a file, if it can be read. -/
def readText? (path : String) : IO (Option String) := do
  try
    return some (← IO.FS.readFile path)
  catch _ =>
    return none

/-- The configuration of the user. -/
def userConfig? : IO (Option String) := do
  match ← IO.getEnv "XDG_CONFIG_HOME", ← IO.getEnv "HOME" with
  | some directory, _ => readText? (directory ++ "/tplc/tplc.toml")
  | none, some home => readText? (home ++ "/.config/tplc/tplc.toml")
  | none, none => return none

/-- The files that a run may read. -/
def filesOf (arguments : List String) : List String :=
  match CommandLine.Invocation.parse arguments with
  | .ok ⟨_, .check tree template _ _⟩ => [".tplc.toml", "tplc.toml", tree] ++ template.toList
  | _ => []

/-- Reads the files, runs the program and prints what it gives. -/
def main (arguments : List String) : IO UInt32 := do
  let files ← (filesOf arguments).mapM fun path => do
    return (path, ← readText? path)
  let stdout ← IO.getStdout
  let surroundings : CommandLine.Surroundings := {
    read := fun path => (files.lookup path).join
    user := ← userConfig?
    styled := ← stdout.isTty }
  match CommandLine.run surroundings arguments with
  | none =>
    IO.eprintln "The tree holds a cycle."
    return 134
  | some output =>
    IO.print output.stdout
    for line in output.stderr do
      IO.eprintln line
    return UInt32.ofNat output.exit
