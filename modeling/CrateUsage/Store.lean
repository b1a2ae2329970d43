import CrateUsage.FilePath
import CrateUsage.Text.Quoted
import CrateUsage.Text.Utf8

namespace CrateUsage

inductive OpenFault where
  | absent
  | denied
  | notDirectory
  | isDirectory
  | nameTooLong
  | other (code : Nat) (text : String)
  deriving DecidableEq, Repr

namespace OpenFault

def code : OpenFault → Nat
  | absent => 2
  | denied => 13
  | notDirectory => 20
  | isDirectory => 21
  | nameTooLong => 36
  | other code _ => code

def text : OpenFault → String
  | absent => "No such file or directory"
  | denied => "Permission denied"
  | notDirectory => "Not a directory"
  | isDirectory => "Is a directory"
  | nameTooLong => "File name too long"
  | other _ text => text

def details (f : OpenFault) : String := s!"[Errno {f.code}] {f.text}"

def message (f : OpenFault) (path : FilePath) : String := s!"{f.details}: {Text.quoted path.text}"

/-- The path leads nowhere: some name on it is missing or no folder, its links go round in a circle,
or it stands for no open file. -/
def leadsNowhere (f : OpenFault) : Bool := [2, 9, 20, 40].contains f.code

end OpenFault

inductive Entry where
  | file
  | folder
  | device
  deriving DecidableEq, Repr

/-- What the system tells of a path: what stands there, and if it can be opened, its bytes. Not all
that stands there may be opened, and not all that is open can be read. -/
structure Store where
  entry : FilePath → Except OpenFault Entry
  bytes : FilePath → Except OpenFault (Except OpenFault (List UInt8))

inductive ReadFault where
  | opening (f : OpenFault)
  | reading (f : OpenFault)
  | decoding (f : Text.Utf8.Fault)
  deriving DecidableEq, Repr

def Text.Utf8.Fault.message (f : Fault) : String :=
  let place :=
    if f.size = 1 then s!"byte 0x{String.ofList (Text.hex 2 f.byte.toNat)} in position {f.position}"
    else s!"bytes in position {f.position}-{f.position + f.size - 1}"
  s!"'utf-8' codec can't decode {place}: {f.reason.message}"

def ReadFault.message (path : FilePath) : ReadFault → String
  | opening f => s!"Could not open file {path.text}: {f.message path}"
  | reading f => s!"Could not open file {path.text}: {f.details}"
  | decoding f => s!"Could not open file {path.text}: {f.message}"

namespace Store

/-- A line ends with one line feed, however its file ends it. -/
def unifyLineEnds : List Char → List Char
  | [] => []
  | '\r' :: '\n' :: cs => '\n' :: unifyLineEnds cs
  | c :: cs => (if c = '\r' then '\n' else c) :: unifyLineEnds cs

def read (store : Store) (path : FilePath) : Except ReadFault String := do
  let file ← (store.bytes path).mapError .opening
  let bytes ← file.mapError .reading
  let text ← (Text.Utf8.decode bytes).mapError .decoding
  return String.ofList (unifyLineEnds text)

end Store
end CrateUsage
