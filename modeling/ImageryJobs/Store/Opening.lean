import ImageryJobs.Text.Percent
import ImageryJobs.Text.Search

/-!
How stores are opened. An address names a file, or says in one of several ways that the store is
kept in memory; parameters behind it tell what may be done.
-/

namespace ImageryJobs

/-- Where a store keeps its records. -/
inductive StorePlace where
  /-- In memory, empty when it is opened; under a name it is found again while it is open. -/
  | memory (name : Option String)
  /-- In a file, by the names on the way to it. -/
  | file (path : List String)
  deriving DecidableEq

/-- How a store is opened. -/
structure StoreOpening where
  place : StorePlace
  /-- Whether a file that is missing is created. -/
  creates : Bool
  /-- Whether anything can be written, be it only the tables of a new store. -/
  writes : Bool
  deriving DecidableEq

namespace StoreOpening

/-! ## Parameters -/

/-- What the parameters of an address say. -/
structure Parameters where
  isReadOnly : Bool
  inMemory : Bool
  /-- Whether what is kept in memory has a name. -/
  isShared : Bool
  isImmutable : Bool
  /-- Which file system is used, if not the usual one. -/
  fileSystem : Option String
  deriving DecidableEq

namespace Parameters

def initial : Parameters := ⟨false, false, false, false, none⟩

/-- Sets a parameter; nothing if it or its value is unknown. -/
def set? (p : Parameters) : (name value : String) → Option Parameters
  | "mode", "ro" => some { p with isReadOnly := true }
  | "mode", "rw" | "mode", "rwc" => some p
  | "mode", "memory" => some { p with inMemory := true, isShared := true }
  | "cache", "private" => some { p with isShared := false }
  | "cache", "shared" => some { p with isShared := true }
  | "immutable", "true" | "immutable", "1" => some { p with isImmutable := true }
  | "immutable", "false" | "immutable", "0" => some { p with isImmutable := false }
  | "vfs", name => some { p with fileSystem := some name }
  | _, _ => none

/-- Reads a name or a value: plus signs are blanks, escapes are octets. -/
def decode (cs : List Char) : String :=
  let blanks := cs.map fun c => if c = '+' then ' ' else c
  Text.ofOctetsLossy (Text.Percent.decodeOctets (Text.octets (String.ofList blanks)))

/-- Sets the parameter that a text names; an empty text names none. -/
def read? (p : Parameters) (cs : List Char) : Option Parameters :=
  if cs = [] then some p
  else
    let (name, value) := (Text.splitAt? '=' cs).getD (cs, [])
    p.set? (decode name) (decode value)

/-- The parameters after the question mark of an address. -/
def readAll? (cs : List Char) : Option Parameters :=
  (cs.splitOn '&').foldlM read? initial

end Parameters

/-! ## Names of files -/

/-- A file system that keeps all files in memory. -/
def memoryFileSystem : String := "memdb"

/-- The file systems that there are. -/
def fileSystems : List String :=
  ["unix", "unix-none", "unix-dotfile", "unix-excl", memoryFileSystem]

/-- Goes from a directory, whose last name comes first, to what a name means there. -/
def enter (place : List String) (name : String) : List String :=
  if name = "" ∨ name = "." then place
  else if name = ".." then place.drop 1
  else name :: place

/-- The way to a file from the root, given the directory that relative names start at. -/
def resolve (directory : List String) (name : String) : List String :=
  let start := if name.startsWith "/" then [] else directory.reverse
  ((name.splitOn "/").foldl enter start).reverse

/-- How many octets the name of a file may have. -/
def nameLimit : Nat := 255

/-- The ending of the file beside a store that is there while something is written. -/
def journalEnding : String := "-journal"

/-- How a store is opened by the name of its file. Names that no file has stand for memory. -/
def ofName? (directory : List String) (p : Parameters) (name : String) : Option StoreOpening :=
  if !p.fileSystem.all fileSystems.contains then none
  else if p.inMemory ∨ name = ":memory:" then
    some ⟨.memory (if p.isShared then some name else none), true, !p.isReadOnly⟩
  else if name = "" then some ⟨.memory none, true, !p.isReadOnly⟩
  else if p.fileSystem = some memoryFileSystem then
    some ⟨.memory (if name.startsWith "/" then some name else none), true,
      !p.isReadOnly && !p.isImmutable⟩
  else
    let path := resolve directory name
    let size := (path.getLast?.getD "").utf8ByteSize
    if nameLimit < size then none
    else some ⟨.file path, !p.isReadOnly,
      !p.isReadOnly && !p.isImmutable && size + journalEnding.utf8ByteSize ≤ nameLimit⟩

/-- The name of a file in an address of files: an authority before it must be this machine, what
follows a number sign or an escaped NUL does not count. -/
def ofFileAddress? (cs : List Char) : Option String := do
  let path ← match Text.after? "//" cs with
    | some rest =>
        let host := rest.takeWhile (· ≠ '/')
        if host = [] ∨ host = "localhost".toList then some (rest.drop host.length) else none
    | none => some cs
  let octets := Text.Percent.decodeOctets
    (Text.octets (String.ofList (path.takeWhile fun c => c ≠ '#' && c ≠ '?')))
  return Text.ofOctetsLossy (octets.takeWhile (· ≠ 0))

/-! ## Addresses -/

/-- Cuts a text from the start as often as it stands there. -/
def dropAll (start : String) (cs : List Char) : List Char :=
  (List.range cs.length).foldl (fun cs _ => (Text.after? start cs).getD cs) cs

/-- How a store is opened by an address, given the directory that relative names start at. -/
def ofAddress? (directory : List String) (address : String) : Option StoreOpening := do
  let cs := dropAll "sqlite:" (dropAll "sqlite://" address.toList)
  let written := String.ofList (cs.takeWhile (· ≠ '?'))
  let p ← Parameters.readAll? ((cs.dropWhile (· ≠ '?')).drop 1)
  if written = ":memory:" then ofName? directory { p with isShared := false } written
  else
    let name ← Text.Percent.decode? written
    guard (!name.toList.contains '\x00')
    match Text.after? "file:" name.toList with
    | some rest =>
        if p.isImmutable || p.fileSystem.isSome then ofName? directory p name
        else ofName? directory p (← ofFileAddress? rest)
    | none => ofName? directory p name

end StoreOpening
end ImageryJobs
