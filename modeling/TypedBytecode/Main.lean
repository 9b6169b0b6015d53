import TypedBytecode.CommandLine

/-!
Contract: the command, which assembles a script file and prints the listing.

Owns: reading the file, writing the streams and the exit code.
-/

namespace TypedBytecode.CommandLine

/-- Read a file; one that cannot be opened counts as missing. -/
def readSource (path : String) : IO SourceFile := do
  try
    return .bytes (← IO.FS.readBinFile path)
  catch _ =>
    return .missing

def usage : String := "usage: typed-bytecode [--frames-only] FILE\n"

def command (arguments : List String) : IO UInt32 := do
  match Options.ofArguments? arguments with
  | none =>
    (← IO.getStderr).putStr usage
    return 2
  | some options =>
    let outcome := run options.framesOnly (← readSource options.path)
    (← IO.getStdout).putStr outcome.output
    (← IO.getStderr).putStr outcome.errorOutput
    return outcome.code.toUInt32

end TypedBytecode.CommandLine

def main (arguments : List String) : IO UInt32 :=
  TypedBytecode.CommandLine.command arguments
