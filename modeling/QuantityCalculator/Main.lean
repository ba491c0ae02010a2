import QuantityCalculator.Dialogue

/-!
The command line: a dialogue with a terminal, or over a script.
-/

namespace QuantityCalculator.Console

structure Options where
  script : Option String := none
  constants : Bool := true

def Options.parse (options : Options) : List String → Except String Options
  | [] => .ok options
  | "--no-constants" :: rest => parse { options with constants := false } rest
  | "--script" :: path :: rest => parse { options with script := some path } rest
  | "-s" :: path :: rest => parse { options with script := some path } rest
  | argument :: _ => .error s!"unexpected argument '{argument}'"

def usage : String :=
  "Usage: [--script FILE] [--no-constants]"

def storageError : IO.Error → StorageError
  | .noFileOrDirectory .. => .noSuchFile
  | .inappropriateType _ 20 _ => .notADirectory
  | .inappropriateType _ 21 _ => .isADirectory
  | e => .other e.toString

instance : Storage IO where
  write path text := do
    try
      IO.FS.writeFile path text
      return .ok ()
    catch e => return .error (storageError e)

/-- Reads up to the end of a line; at the end of the input there is none. -/
partial def readLine (input : IO.FS.Stream) (line : ByteArray) : IO (Option Dialogue.Line) := do
  let next ← input.read 1
  match next.toList with
  | [] => return if line.isEmpty then none else some (Dialogue.decodeLine line)
  | 10 :: _ => return some (Dialogue.decodeLine line)
  | _ => readLine input (line ++ next)

def present (written : Transcript) : IO Unit := do
  IO.print written.out
  (← IO.getStdout).flush
  IO.eprint written.err

partial def converse (input : IO.FS.Stream) (interactive : Bool) (s : Session) :
    IO Dialogue.Ending := do
  present (Dialogue.prompt interactive)
  match ← readLine input .empty with
  | none => return .finished
  | some none => return .notText
  | some (some line) =>
    let (goesOn, written, s) ← Dialogue.respond interactive s line
    present written
    if goesOn then converse input interactive s else return .finished

def start (options : Options) : IO UInt32 := do
  let s := Session.start options.constants
  let ending ← match options.script with
    | some path => do
      let input := IO.FS.Stream.ofHandle (← IO.FS.Handle.mk path .read)
      converse input false s
    | none => do
      let input ← IO.getStdin
      converse input (← input.isTty) s
  match ending.message? with
  | none => return 0
  | some message =>
    IO.eprintln s!"Error: {message}"
    return 1

end QuantityCalculator.Console

open QuantityCalculator.Console in
def main (arguments : List String) : IO UInt32 := do
  match Options.parse {} arguments with
  | .error message =>
    IO.eprintln s!"error: {message}"
    IO.eprintln usage
    return 2
  | .ok options =>
    try start options
    catch e =>
      IO.eprintln s!"Error: {e}"
      return 1
