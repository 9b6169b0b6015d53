import TypedBytecode.ClassGraph.Standard
import TypedBytecode.Script

/-!
Contract: what the command prints.

Owns:
- the outcome for a script file, be it readable or not: exit code, output and error output;
- the choice between the whole listing and its labels and frames.

Does not own: reading files and writing streams.
-/

namespace TypedBytecode.CommandLine

/-- What comes of reading a script file. -/
inductive SourceFile where
  | missing
  | bytes (content : ByteArray)

/-- Why a script file is no text. -/
inductive FileFault where
  | notFound
  | notText
deriving DecidableEq, Repr

def FileFault.record : FileFault → String
  | .notFound =>
    Record.single "Io" (Record.fields "Os"
      [("code", "2"), ("kind", "NotFound"),
        ("message", Text.quoted "No such file or directory")])
  | .notText =>
    Record.single "Io" (Record.fields "Error"
      [("kind", "InvalidData"),
        ("message", Text.quoted "stream did not contain valid UTF-8")])

def SourceFile.text : SourceFile → Except FileFault String
  | .missing => .error .notFound
  | .bytes content =>
    match String.fromUTF8? content with
    | some text => .ok text
    | none => .error .notText

/-- What a finished run of the command leaves. -/
structure Outcome where
  code : UInt8
  output : String
  errorOutput : String
deriving DecidableEq, Repr

def Outcome.success (output : String) : Outcome := ⟨0, output, ""⟩

def Outcome.failure (record : String) : Outcome := ⟨1, "", s!"Error: {record}\n"⟩

/-- What a script that was not assembled leaves. An overflow cuts the run off, so that there is no
refusal to print. -/
def Outcome.ofError (error : ScriptError) : Outcome :=
  match error.cause? with
  | some .overflow => ⟨101, "", Error.overflow.message ++ "\n"⟩
  | _ => .failure error.record

/-- Text of a listing, in whole or without its instructions. -/
def listingText (framesOnly : Bool) (listing : Listing) : String :=
  if framesOnly then listing.framesOnly.text else listing.text

/-- Assemble a file against the standard classes. -/
def run (framesOnly : Bool) (file : SourceFile) : Outcome :=
  match file.text with
  | .error fault => .failure fault.record
  | .ok source =>
    match (Script.assemble Standard.graph source).1 with
    | .ok listing => .success (listingText framesOnly listing)
    | .error error => .ofError error

/-- Options of the command. -/
structure Options where
  framesOnly : Bool
  path : String
deriving DecidableEq, Repr

/-- One path, with or without `--frames-only` beside it. -/
def Options.ofArguments? : List String → Option Options
  | ["--frames-only", path] => some ⟨true, path⟩
  | [path, "--frames-only"] => some ⟨true, path⟩
  | [path] => some ⟨false, path⟩
  | _ => none

end TypedBytecode.CommandLine
