import CrateUsage.Store

namespace CrateUsage

/-- A working folder: the files below it, those of them that may not be read, and folders below it
that may hold none. -/
structure Folder where
  files : List (List String × List UInt8) := []
  locked : List (List String) := []
  folders : List (List String) := []
  deriving Repr

namespace Folder

/-- A place that a path leads to: one below the working folder, or one outside, where nothing is
known but folders on the way up. -/
inductive Place where
  | below (names : List String)
  | outside
  deriving DecidableEq, Repr

def isFolder (f : Folder) : Place → Bool
  | .below names =>
    names.isEmpty || (f.folders.any (names.isPrefixOf ·)
      || f.files.any fun (file, _) => names.isPrefixOf file && names != file)
  | .outside => true

def file? (f : Folder) : Place → Option (List UInt8)
  | .below names => f.files.lookup names
  | .outside => none

def up : Place → Place
  | .below (name :: names) => .below (name :: names).dropLast
  | _ => .outside

def down (name : String) : Place → Option Place
  | .below names => some (.below (names ++ [name]))
  | .outside => none

/-- One name of a path. It is looked for only where there is a folder, and only if a folder can
hold a name of that length. -/
def step (f : Folder) (place : Place) (name : String) : Except OpenFault Place :=
  if !f.isFolder place then .error .notDirectory
  else if name = ".." then .ok (up place)
  else if name.utf8ByteSize > 255 then .error .nameTooLong
  else
    match down name place with
    | some next => if (f.file? next).isSome || f.isFolder next then .ok next else .error .absent
    | none => .error .absent

def find (f : Folder) (path : FilePath) : Except OpenFault Place :=
  if path.text.utf8ByteSize > 4095 then .error .nameTooLong
  else path.names.foldlM f.step (if path.slashes = 0 then .below [] else .outside)

def isLocked (f : Folder) : Place → Bool
  | .below names => f.locked.contains names
  | .outside => false

def store (f : Folder) : Store where
  entry path := do
    return if (f.file? (← f.find path)).isSome then .file else .folder
  bytes path := do
    let place ← f.find path
    match f.file? place with
    | some bytes => if f.isLocked place then .error .denied else .ok (.ok bytes)
    | none => .error .isDirectory

end Folder
end CrateUsage
