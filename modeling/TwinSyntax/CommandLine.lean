import TwinSyntax.Session
import TwinSyntax.Tree.Render

/-!
# The command line

`dump` compiles a file and shows the outline of its tree, or says what went wrong. It is a function
of the arguments and of what reading the file came to, so nothing here touches a file.

**Arguments** (`Arguments.ofList?`). The flag `--dump`, the option `--syntax` with the name of a
surface, and the name of one file, in any order.
-/

namespace TwinSyntax.CommandLine

/-- Why a file has no text: the system refuses to read it, for a reason that has a number, or its
bytes spell no text. -/
inductive ReadFailure where
  | system (number : Nat) (reason : String)
  | notText
  deriving DecidableEq, Repr, Inhabited

namespace ReadFailure

/-- There is no such file. -/
def notFound : ReadFailure := system 2 "No such file or directory"

/-- It is a directory. -/
def isDirectory : ReadFailure := system 21 "Is a directory"

/-- A name is longer than a file can have. -/
def nameTooLong : ReadFailure := system 36 "File name too long"

/-- The number of bytes that the name of a file can have. -/
def longestName : Nat := 255

/-- The number of bytes that a path can have. -/
def longestPath : Nat := 4095

/-- Why nothing can be read at `path` from inside an empty directory. The first step of the path
that leads to neither the directory it starts from nor the one above cannot be taken; if there is no
such step, the path is that of a directory. -/
def inEmptyDirectory (path : String) : ReadFailure :=
  if path.isEmpty then notFound
  else if longestPath < path.utf8ByteSize then nameTooLong
  else
    match (path.splitOn "/").find? fun step => step ∉ ["", ".", ".."] with
    | none => isDirectory
    | some name => if longestName < name.utf8ByteSize then nameTooLong else notFound

/-- The failure as it is shown. -/
def text : ReadFailure → String
  | system number reason => reason ++ " (os error " ++ toString number ++ ")"
  | notText => "stream did not contain valid UTF-8"

end ReadFailure

/-- The text that the bytes of a file spell. -/
def decode (bytes : ByteArray) : Except ReadFailure String :=
  match String.fromUTF8? bytes with
  | some text => .ok text
  | none => .error .notText

/-- What a run of the program leaves behind. -/
structure Report where
  exitCode : Nat
  standardOutput : String
  standardError : String
  deriving DecidableEq, Repr, Inhabited

/-- A run that shows `output` and succeeds. -/
def Report.success (output : String) : Report := ⟨0, output, ""⟩

/-- A run that shows the lines `complaint` and fails. -/
def Report.failure (complaint : List String) : Report :=
  ⟨1, "", String.join (complaint.map (· ++ "\n"))⟩

/-- The surface that a file is read on unless the user asks for another. -/
def defaultSurfaceName : String := "myrmidon"

/-- What a user asks for. -/
structure Arguments where
  file : String
  surfaceName : String := defaultSurfaceName
  deriving DecidableEq, Repr, Inhabited

namespace Arguments

/-- Reads on in a list of arguments. `file?` and `surfaceName` are what has been given so far. -/
def readFrom (dump : Bool) (file? : Option String) (surfaceName : String) :
    List String → Option Arguments
  | [] => if dump then file?.map fun file => ⟨file, surfaceName⟩ else none
  | "--dump" :: rest | "-d" :: rest => readFrom true file? surfaceName rest
  | "--syntax" :: name :: rest | "-s" :: name :: rest => readFrom dump file? name rest
  | argument :: rest =>
    if argument.startsWith "-" || file?.isSome then none
    else readFrom dump (some argument) surfaceName rest

/-- What a list of arguments asks for, if it makes sense. -/
def ofList? (arguments : List String) : Option Arguments :=
  readFrom false none defaultSurfaceName arguments

end Arguments

/-- Reads `content`, the content of `file`, on the surface called `surfaceName`. The name of the
surface is checked before the file is looked at. -/
def dump (surfaceName file : String) (content : Except ReadFailure String) : Report :=
  match Surface.ofName? surfaceName with
  | none =>
    .failure ["Error: unknown syntax '" ++ surfaceName ++ "'",
      "Available syntaxes: " ++ String.intercalate ", " (Surface.all.map Surface.name)]
  | some surface =>
    match content with
    | .error failure => .failure ["Error: cannot read '" ++ file ++ "': " ++ failure.text]
    | .ok source =>
      match compile surface source with
      | .error e => .failure [e.message]
      | .ok (tree, _) => .success tree.outline

end TwinSyntax.CommandLine
