/-!
# Files

What can keep a file from being read, in the words of the system, and a directory held in memory.
-/

namespace UsageGrammar

/-- Why the bytes of a file cannot be had. -/
structure FileError where
  /-- The number that the system gives the cause. -/
  code : Nat
  /-- The system's words for it. -/
  description : String
  deriving Repr, DecidableEq, Inhabited

namespace FileError

/-- The path leads nowhere. -/
def notFound : FileError := ⟨2, "No such file or directory"⟩

/-- The file may not be read. -/
def denied : FileError := ⟨13, "Permission denied"⟩

/-- The path goes on after a file. -/
def notDirectory : FileError := ⟨20, "Not a directory"⟩

/-- The path leads to a directory, which opens but has no bytes. -/
def isDirectory : FileError := ⟨21, "Is a directory"⟩

/-- A name on the path is longer than the system allows. -/
def nameTooLong : FileError := ⟨36, "File name too long"⟩

/-- The cause with a number. One that is not known keeps the words that it comes with. -/
def ofCode (code : Nat) (description : String) : FileError :=
  let known := [notFound, denied, notDirectory, isDirectory, nameTooLong]
  (known.find? (·.code == code)).getD ⟨code, description⟩

/-- The wording of the cause. -/
def message (error : FileError) : String :=
  error.description ++ " (os error " ++ Nat.repr error.code ++ ")"

end FileError

/-- Why the text of a file cannot be had. -/
inductive TextError where
  | file (error : FileError)
  | notText
  deriving Repr, DecidableEq, Inhabited

/-- The wording of the cause. -/
def TextError.message : TextError → String
  | file error => error.message
  | notText => "stream did not contain valid UTF-8"

/-- Files under the paths at which they are read. -/
abbrev Files := String → Except FileError ByteArray

/-- The text of a file, which is in UTF-8. -/
def Files.text (files : Files) (path : String) : Except TextError String :=
  match files path with
  | .error error => .error (.file error)
  | .ok bytes =>
    match String.fromUTF8? bytes with
    | some text => .ok text
    | none => .error .notText

/-- A directory: files under their paths in it. -/
structure Directory where
  entries : List (List String × ByteArray)

namespace Directory

/-- Where a walk along a path stands. -/
inductive Place where
  /-- In the directory or in one below it. -/
  | below (names : List String)
  /-- In a directory further up. -/
  | above
  | file (bytes : ByteArray)

/-- Whether a directory of this path is part of the tree. -/
def hasDirectory (directory : Directory) (names : List String) : Bool :=
  directory.entries.any fun (path, _) =>
    names.isPrefixOf path && decide (names.length < path.length)

/-- The longest name, in bytes. -/
def longestName : Nat := 255

/-- The longest path, in bytes. -/
def longestPath : Nat := 4095

/-- A walk goes one name further. Nothing is known of what lies outside of the directory. -/
def step (directory : Directory) (place : Place) (name : String) : Except FileError Place :=
  match place with
  | .file _ => .error .notDirectory
  | .above =>
    if ["", ".", ".."].contains name then .ok .above
    else .error (if longestName < name.utf8ByteSize then .nameTooLong else .notFound)
  | .below names =>
    if name == "" || name == "." then .ok place
    else if name == ".." then .ok (if names.isEmpty then .above else .below names.dropLast)
    else
      let names := names ++ [name]
      match directory.entries.lookup names with
      | some bytes => .ok (.file bytes)
      | none =>
        if directory.hasDirectory names then .ok (.below names)
        else .error (if longestName < name.utf8ByteSize then .nameTooLong else .notFound)

/-- Where a path leads. It starts in the directory, or with a slash at the top of all. -/
def walk (directory : Directory) (path : String) : Except FileError Place :=
  let start := if path.startsWith "/" then .above else .below []
  if longestPath < path.utf8ByteSize then .error .nameTooLong
  else (path.splitOn "/").foldlM directory.step start

/-- The files of the directory. -/
def files (directory : Directory) : Files := fun path => do
  match ← directory.walk path with
  | .file bytes => return bytes
  | _ => throw .isDirectory

end Directory

end UsageGrammar
