import CrateUsage.CommandLine

namespace CrateUsage

/-- The fault with a number. Some calls give the number with a minus sign. -/
def OpenFault.ofNumber (number : UInt32) (details : String) : OpenFault :=
  match min number.toNat (-number).toNat with
  | 2 => .absent
  | 13 => .denied
  | 20 => .notDirectory
  | 21 => .isDirectory
  | 36 => .nameTooLong
  | n => .other n details

def OpenFault.ofError : IO.Error → OpenFault
  | .noFileOrDirectory _ number details => .ofNumber number details
  | .permissionDenied _ number details => .ofNumber number details
  | .inappropriateType _ number details => .ofNumber number details
  | .invalidArgument _ number details => .ofNumber number details
  | .resourceExhausted _ number details => .ofNumber number details
  | .noSuchThing _ number details => .ofNumber number details
  | .hardwareFault number details => .ofNumber number details
  | .otherError number details => .ofNumber number details
  | e => .other 5 (toString e)

def Store.asked {α : Type} (tell : IO α) : IO (Except OpenFault α) := do
  try return .ok (← tell)
  catch e => return .error (.ofError e)

def Store.entryOfSystem (path : FilePath) : IO Entry := do
  let found ← ((← IO.currentDir).join path.text).metadata
  return match found.type with
    | .file => .file
    | .dir => .folder
    | _ => .device

def Store.bytesOfSystem (path : FilePath) : IO (Except OpenFault (List UInt8)) := do
  let file ← IO.FS.Handle.mk path.text .read
  asked do return (← file.readBinToEnd).toList

/-- A store with all that the system has at the given paths, and nothing else. Only what is a file is
opened: a device may never come to an end. -/
def Store.ofSystem (paths : List FilePath) : IO Store := do
  let entries ← paths.mapM fun path => return (path, ← asked (entryOfSystem path))
  let files ← (entries.filter (·.2 matches .ok .file)).mapM fun (path, _) =>
    return (path, ← asked (bytesOfSystem path))
  return {
    entry path := (entries.lookup path).getD (.error .absent)
    bytes path := (files.lookup path).getD (.error .absent) }

end CrateUsage

open CrateUsage in
def main (args : List String) : IO UInt32 := do
  let targets := match CommandLine.Command.ofArguments args with
    | .ok (.run r) => r.targets
    | _ => []
  match (CommandLine.run (← Store.ofSystem targets) args).1 with
  | .ok out =>
    IO.print out.stdout
    IO.eprint out.stderr
    return out.status.toUInt32
  | .error f =>
    IO.eprintln f.message
    return 1
