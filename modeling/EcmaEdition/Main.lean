import EcmaEdition.Command.Check
import EcmaEdition.Script.Parse

/-!
# The program

Asks the file system about the file that the command line names, runs the command on the answers,
and writes what the command leaves behind. All decisions are the command's.
-/

set_option autoImplicit false

namespace EcmaEdition.Command

/-- The number of an error. Some come negated, as thirty-two bits. -/
def SystemError.number (bits : UInt32) : Nat :=
  if bits.toNat < 0x80000000 then bits.toNat else 0x100000000 - bits.toNat

/-- The wording of the usual errors about files by their numbers, and the given one for others. -/
def SystemError.wording (number : Nat) (given : String) : String :=
  match number with
  | 1 => "Operation not permitted"
  | 2 => "No such file or directory"
  | 5 => "Input/output error"
  | 13 => "Permission denied"
  | 20 => "Not a directory"
  | 21 => "Is a directory"
  | 36 => "File name too long"
  | 40 => "Too many levels of symbolic links"
  | _ => given

/-- The error of the system behind an error about a path. -/
def SystemError.ofError (path : String) (error : IO.Error) : SystemError :=
  let numbered (bits : UInt32) (given : String) : SystemError :=
    ⟨number bits, wording (number bits) given, some path⟩
  match error with
  | .alreadyExists _ bits given | .noFileOrDirectory _ bits given | .interrupted _ bits given
  | .invalidArgument _ bits given | .permissionDenied _ bits given
  | .resourceExhausted _ bits given | .inappropriateType _ bits given | .noSuchThing _ bits given
  | .otherError bits given | .resourceBusy bits given | .resourceVanished bits given
  | .unsupportedOperation bits given | .hardwareFault bits given
  | .unsatisfiedConstraints bits given | .illegalOperation bits given
  | .protocolError bits given | .timeExpired bits given => numbered bits given
  | .unexpectedEof | .userError _ => ⟨5, wording 5 "", none⟩

/-- Follows a path from a working directory, one part at a time. A part that leads nowhere is kept
as it is. -/
def Path.follow (directory path : String) : IO String := do
  let start := if path.startsWith "/" then "/" else directory
  (Path.parts path.toList).foldlM (fun place part => do
    let next := Path.withoutLinks place (String.ofList part)
    try return toString (← IO.FS.realPath next)
    catch _ => return next) start

/-- The error with which the system refuses to say what stands at an absolute path, if it does. -/
def refusalAt? (place : String) : IO (Option SystemError) := do
  try
    let _ ← ((← IO.currentDir) / place).metadata
    return none
  catch error => return some (.ofError place error)

/-- The content of what stands at an absolute path. -/
def contentAt (place : String) : IO (Except SystemError ByteArray) := do
  try return .ok (← IO.FS.readBinFile place)
  catch error => return .error (.ofError place error)

/-- The file system as far as the command will ask it: at most about one path. -/
def snapshot (directory : String) (words : List String) : IO FileSystem := do
  match parse words with
  | .ok (.check options) =>
    let place ← Path.follow directory options.input
    let refusal? ← refusalAt? place
    let content ← contentAt place
    return {
      follow := fun _ _ => .ok place
      refusal? := fun _ => refusal?
      read := fun _ => content }
  | _ => return .linkless (some <| .missing ·) (.error <| .missing ·)

end EcmaEdition.Command

open EcmaEdition in
/-- Runs the command on the words of the command line. -/
def main (words : List String) : IO UInt32 := do
  let directory := toString (← IO.currentDir)
  let files ← Command.snapshot directory words
  let transcript := Command.run Script.parse files directory words
  (← IO.getStdout).putStr transcript.stdout
  (← IO.getStderr).putStr transcript.stderr
  match transcript.exit with
  | .crashed failure => (← IO.getStderr).putStrLn failure.message
  | _ => pure ()
  return UInt32.ofNat transcript.exit.code
