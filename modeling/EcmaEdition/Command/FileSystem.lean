import EcmaEdition.Text.Quoted

/-!
# The file system

The command asks a file system three questions: where a path leads once the links on it are
followed, whether the system refuses to say what stands there, and what the content is. Refusals
have numbers. Some of them only mean that nothing stands at the path, and a content that cannot be
read is something to report. Every other refusal is a failure of the look itself, and so are links
that lead in a circle: a look then has no answer at all.
-/

set_option autoImplicit false

namespace EcmaEdition.Command

/-! ## Refusals -/

/-- An error of the system: its number, its wording, and the path that it is about, if any. -/
structure SystemError where
  code : Nat
  reason : String
  path : Option String
  deriving DecidableEq, Repr

namespace SystemError

/-- An error as a text. -/
def message (error : SystemError) : String :=
  "[Errno " ++ toString error.code ++ "] " ++ error.reason ++
    match error.path with
    | some path => ": " ++ Text.quote path
    | none => ""

/-- The error for a path at which nothing stands. -/
def missing (path : String) : SystemError :=
  ⟨2, "No such file or directory", some path⟩

/-- The system gave up following links. -/
def isLoop (error : SystemError) : Bool :=
  error.code == 40

/-- The errors which mean that nothing stands at a path: there is no such entry, there is no such
descriptor, a part of the path before the last is not a directory, or links lead in a circle. -/
def isAbsence (error : SystemError) : Bool :=
  [2, 9, 20, 40].contains error.code

end SystemError

/-- Why a look at a path has no answer. -/
inductive Failure where
  /-- The system refuses for a reason that does not mean that nothing stands there. -/
  | system (error : SystemError)
  /-- Links lead in a circle. -/
  | loop (path : Option String)
  /-- No question about the path can be put to the system. -/
  | invalid (reason : String)
  deriving DecidableEq, Repr

namespace Failure

/-- A failure as a text. -/
def message : Failure → String
  | .system error => error.message
  | .loop (some path) => "Symlink loop from " ++ Text.quote path
  | .loop none => "Symlink loop from None"
  | .invalid reason => reason

/-- A system that gave up following links has met a circle. -/
def checkLoop : Failure → Failure
  | .system error => if error.isLoop then .loop error.path else .system error
  | failure => failure

end Failure

/-! ## Paths -/

namespace Path

/-- Adds one part of a path to the parts before it, the last of these first. -/
def addPart (parts : List (List Char)) (part : List Char) : List (List Char) :=
  if part = [] || part = ['.'] then parts
  else if part = ['.', '.'] then parts.tail
  else part :: parts

/-- The parts of a path between its slashes. -/
def parts (path : List Char) : List (List Char) :=
  path.splitOn '/'

/-- The absolute path, without empty parts, `.` and `..`, that a path would lead to if none of its
parts were a link, given an absolute working directory. -/
def withoutLinks (directory path : String) : String :=
  let whole :=
    match path.toList with
    | '/' :: rest => rest
    | relative => directory.toList ++ '/' :: relative
  match ((parts whole).foldl addPart []).reverse with
  | [] => "/"
  | first :: rest => String.ofList ((first :: rest).flatMap ('/' :: ·))

end Path

/-! ## Looks -/

/-- What stands at the path that a look comes to. -/
inductive Entry where
  | missing
  /-- Something that cannot be read. -/
  | unreadable (error : SystemError)
  | file (content : ByteArray)

/-- A file system at one moment, as far as the command asks it. -/
structure FileSystem where
  /-- The absolute path that a path leads to from a working directory, with its links followed. -/
  follow : (directory path : String) → Except Failure String
  /-- The error with which the system refuses to say what stands at an absolute path. There is none
  where something stands. -/
  refusal? : String → Option SystemError
  /-- The content of what stands at an absolute path. -/
  read : String → Except SystemError ByteArray

namespace FileSystem

variable (files : FileSystem)

/-- The absolute path that a path leads to. A circle of links, which the path alone does not show,
shows when the system is asked about the path. -/
def resolve (directory path : String) : Except Failure String :=
  match files.follow directory path with
  | .error failure => .error failure.checkLoop
  | .ok place =>
    match files.refusal? place with
    | some error => if error.isLoop then .error (.loop error.path) else .ok place
    | none => .ok place

/-- Whether something stands at an absolute path. -/
def isThere (place : String) : Except Failure Bool :=
  match files.refusal? place with
  | none => .ok true
  | some error => if error.isAbsence then .ok false else .error (.system error)

/-- The absolute path that a path leads to, and what stands there. -/
def look (directory path : String) : Except Failure (String × Entry) :=
  match files.resolve directory path with
  | .error failure => .error failure
  | .ok place =>
    match files.isThere place with
    | .error failure => .error failure
    | .ok false => .ok (place, .missing)
    | .ok true =>
      match files.read place with
      | .error error => .ok (place, .unreadable error)
      | .ok content => .ok (place, .file content)

/-- A file system without links. No question can be put to the system about a path with the null
character. -/
def linkless (refusal? : String → Option SystemError)
    (read : String → Except SystemError ByteArray) : FileSystem where
  follow directory path :=
    if path.toList.contains '\x00' then .error (.invalid "embedded null byte")
    else .ok (Path.withoutLinks directory path)
  refusal?
  read

end FileSystem

end EcmaEdition.Command
