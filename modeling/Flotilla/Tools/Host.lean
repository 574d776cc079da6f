import Flotilla.Shell.Run
import Flotilla.Tools.SystemError

/-!
# A host with a shell

A host on which there are a shell and some small utilities.  A binary is looked for
by its name among these, and by its path where programs are kept.  Directories and
files that are no programs may not be run, there is nothing below a file, a name may
not be too long, and anything else is not there.

Neither the binary nor an argument may hold a character with the number zero.
-/

namespace Flotilla.Tools

namespace Host

/-- Whether a text holds a character with the number zero. -/
def hasNul (s : String) : Bool := s.toList.contains '\x00'

/-- The directories where programs are kept. -/
def programDirectories : List String := ["/bin/", "/usr/bin/"]

/-- The name of a program, if it is given by a name or by a path where programs are kept. -/
def programName (binary : String) : String :=
  match programDirectories.find? fun (d : String) => d.isPrefixOf binary with
  | some d => String.ofList (binary.toList.drop d.length)
  | none => binary

/-- Directories. -/
def directories : List String :=
  [".", "..", "/", "/bin", "/dev", "/etc", "/home", "/root", "/tmp", "/usr", "/usr/bin", "/var"]

/-- Files that are no programs. -/
def files : List String := ["/dev/null", "/dev/zero", "/etc/hosts", "/etc/passwd"]

/-- The greatest length of a name in bytes. -/
def nameBound : Nat := 255

/-- Whether some part of a path is too long. -/
def isTooLong (binary : String) : Bool :=
  (Text.splitOn '/' binary.toList).any fun part => nameBound < (String.ofList part).utf8ByteSize

/-- The program with a name. -/
def program? (name : String) : Option (List String → Output) :=
  if name == "sh" then some Shell.runShell
  else
    (Shell.utility? name).map fun utility args =>
      let r := utility args {}
      { status := .code r.status, stdout := r.out.once, stderr := Text.encode r.err }

/-- Why there is no program to run. -/
def fault (binary : String) : Int :=
  let below (f : String) : Bool := (f ++ "/").isPrefixOf binary
  if isTooLong binary then nameTooLong
  else if directories.any fun d => binary == d || binary == d ++ "/" then permissionDenied
  else if files.contains binary then permissionDenied
  else if files.any below then notADirectory
  else noSuchFile

/-- What comes of running a binary with some arguments. -/
def run : Machine := fun binary args =>
  if (binary :: args).any hasNul then .error "nul byte found in provided data"
  else
    match program? (programName binary) with
    | some program => .ok (program args)
    | none => .error (systemError (fault binary))

end Host

end Flotilla.Tools
