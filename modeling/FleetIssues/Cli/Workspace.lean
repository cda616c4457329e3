import FleetIssues.Config.Basic
/-! Reading files by path, and a working directory of files held in memory. -/

namespace FleetIssues.Cli

/-- What opening a path and reading it whole gives. -/
inductive FileRead where
  | contents (bytes : List UInt8)
  | missing
  | directory
  | notDirectory
  deriving DecidableEq, Repr

/-- Why a directory cannot be read as a file. -/
def directoryReason : String := "Is a directory (os error 21)"

/-- Why a path through a file cannot be opened. -/
def notDirectoryReason : String := "Not a directory (os error 20)"

/-- The bytes read, or the reason reading failed. -/
def FileRead.bytes : FileRead → Except String (List UInt8)
  | .contents bytes => .ok bytes
  | .missing => .error missingFileReason
  | .directory => .error directoryReason
  | .notDirectory => .error notDirectoryReason

/-- What a path names in a workspace. -/
inductive Entry where
  | file (bytes : List UInt8)
  | folder
  | absent
  deriving DecidableEq, Repr

/-- A working directory holding files, each under its path of names below the directory.
Paths given to the program may start with the directory's name, `root`. -/
structure Workspace where
  root : String
  files : List (List String × List UInt8)
  deriving DecidableEq, Repr

namespace Workspace

/-- What the names below the working directory lead to: a file, a directory holding files
further down (the working directory itself included), or nothing. -/
def entryAt (w : Workspace) (names : List String) : Entry :=
  match w.files.find? (·.1 == names) with
  | some (_, bytes) => .file bytes
  | none =>
    if names.isEmpty || w.files.any (fun f => names.isPrefixOf f.1 && names != f.1) then .folder
    else .absent

/-- Follows components from a directory of the workspace. -/
def walk (w : Workspace) (here : List String) : List String → FileRead
  | [] =>
    match w.entryAt here with
    | .file bytes => .contents bytes
    | .folder => .directory
    | .absent => .missing
  | c :: rest =>
    match w.entryAt here with
    | .file _ => .notDirectory
    | .absent => .missing
    | .folder =>
      if c.isEmpty || c == "." then w.walk here rest
      else if c == ".." then
        if here.isEmpty then (if rest.all (fun r => r.isEmpty || r == ".") then .directory else .missing)
        else w.walk here.dropLast rest
      else w.walk (here ++ [c]) rest

/-- Opens and reads a path. -/
def read (w : Workspace) (path : String) : FileRead :=
  if path.isEmpty then .missing
  else
    match path.splitOn "/" with
    | first :: rest =>
      if first == w.root then w.walk [] rest
      else if first.isEmpty then
        if rest.all (fun r => r.isEmpty || r == ".") then .directory else .missing
      else w.walk [] (first :: rest)
    | [] => .missing

end Workspace

end FleetIssues.Cli
