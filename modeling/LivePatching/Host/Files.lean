/-!
# Files

A file system as far as programs read it: each absolute path names a directory, a file with its
bytes, or nothing.

* `Files.read`: the bytes of a file, or why there are none.
* `Files.readText`: the same as text; the bytes must be UTF-8.
-/

namespace LivePatching

/-- What files hold and processes write. -/
abbrev Bytes := List UInt8

namespace Bytes

/-- The text in UTF-8. -/
def ofString (s : String) : Bytes := s.toUTF8.toList

/-- The text of the bytes, if they are UTF-8. -/
def toString? (b : Bytes) : Option String := String.fromUTF8? ⟨b.toArray⟩

end Bytes

namespace Host

/-- What a path names. -/
inductive Entry where
  | directory
  | file (content : Bytes)
deriving DecidableEq, Repr

/-- Why a file cannot be read. -/
inductive FileError where
  | missing
  | notDirectory
  | isDirectory
  | nameTooLong
  | nulInName
  | notText
deriving DecidableEq, Repr

/-- The text of the error, as the system words it. -/
def FileError.message : FileError → String
  | missing => "No such file or directory (os error 2)"
  | notDirectory => "Not a directory (os error 20)"
  | isDirectory => "Is a directory (os error 21)"
  | nameTooLong => "File name too long (os error 36)"
  | nulInName => "file name contained an unexpected NUL byte"
  | notText => "stream did not contain valid UTF-8"

/-- The files that programs find. -/
structure Files where
  /-- The entries by absolute path, without a slash at the end; the root is the empty path. -/
  entries : List (String × Entry)
  /-- The working directory, written likewise. -/
  here : String
deriving Repr

namespace Files

/-- The longest name of one entry, in bytes. -/
def longestName : Nat := 255

/-- Paths must be shorter than this, in bytes. -/
def longestPath : Nat := 4096

/-- The system that is always there: directories, and a device without content. -/
def standard : Files where
  entries :=
    ["", "/bin", "/dev", "/etc", "/home", "/lib", "/opt", "/proc", "/root", "/run", "/sbin",
        "/srv", "/sys", "/tmp", "/usr", "/usr/bin", "/usr/lib", "/usr/share", "/var", "/var/lib",
        "/var/log", "/var/tmp"].map (·, .directory) ++ [("/dev/null", .file [])]
  here := "/root"

/-- Walks down from a directory; `..` goes up one step. -/
def walk (files : Files) (place : String) : List String → Except FileError String
  | [] => .ok place
  | name :: rest =>
    match files.entries.lookup place with
    | none => .error .missing
    | some (.file _) => .error .notDirectory
    | some .directory =>
      if name = "" ∨ name = "." then walk files place rest
      else if name = ".." then
        walk files ("/".intercalate ((place.splitOn "/").dropLast)) rest
      else if longestName < name.utf8ByteSize then .error .nameTooLong
      else walk files (place ++ "/" ++ name) rest

/-- The bytes of the file at the path; a path that is not absolute starts at the working
directory. -/
def read (files : Files) (path : String) : Except FileError Bytes :=
  if path.contains '\x00' then .error .nulInName
  else if path.isEmpty then .error .missing
  else if longestPath ≤ path.utf8ByteSize then .error .nameTooLong
  else
    match files.walk (if path.startsWith "/" then "" else files.here) (path.splitOn "/") with
    | .error e => .error e
    | .ok place =>
      match files.entries.lookup place with
      | none => .error .missing
      | some .directory => .error .isDirectory
      | some (.file content) => .ok content

/-- The text of the file at the path. -/
def readText (files : Files) (path : String) : Except FileError String :=
  match files.read path with
  | .error e => .error e
  | .ok content =>
    match Bytes.toString? content with
    | some text => .ok text
    | none => .error .notText

end Files

end Host

end LivePatching
