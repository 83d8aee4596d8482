import RecordStore.Storage.Location
import RecordStore.Storage.World
import RecordStore.Text.Utf8

/-! A file system in memory: files and directories by the names that lead to them from the root.
Relative paths start in the directory `home`. Walking a path enters each directory on the way; the
last name need not exist when a file is written or a directory made. -/
namespace RecordStore

inductive Disk.Entry where
  | file (content : ByteArray)
  | directory

structure Disk where
  entries : List (List String × Disk.Entry)

namespace Disk

/-- The directory where relative paths start. -/
def home : List String := ["home"]

def empty : Disk := ⟨[(home, .directory)]⟩

def entry? (disk : Disk) (place : List String) : Option Entry :=
  if place.isEmpty then some .directory else disk.entries.lookup place

def put (disk : Disk) (place : List String) (entry : Entry) : Disk :=
  ⟨(place, entry) :: disk.entries.filter (·.1 != place)⟩

def remove (disk : Disk) (place : List String) : Disk :=
  ⟨disk.entries.filter (·.1 != place)⟩

/-- Names are at most 255 octets long. -/
def tooLong (name : String) : Bool := 255 < name.utf8ByteSize

def look (disk : Disk) (place : List String) (name : String) : Except IoError (Option Entry) :=
  if tooLong name then .error .nameTooLong else .ok (disk.entry? (place ++ [name]))

/-- A path taken apart: where it starts and the names to follow from there. -/
structure Route where
  start : List String
  names : List String
  /-- Whether the path ends in a slash, and so can only name a directory. -/
  slash : Bool

/-- The route of a path. No file system takes an empty path, an overlong one or one with U+0000. -/
def route (path : String) : Except IoError Route :=
  if path.toList.contains '\x00' then .error (.other "file name contained an unexpected NUL byte")
  else if path.isEmpty then .error .notFound
  else if 4096 ≤ path.utf8ByteSize then .error .nameTooLong
  else .ok ⟨if Location.isAbsolute path then [] else home, Location.names path,
    Location.endsInSlash path⟩

/-- The directory that a list of names leads to from another. -/
def walk (disk : Disk) (place : List String) : List String → Except IoError (List String)
  | [] => .ok place
  | name :: rest =>
    if name = "." then walk disk place rest
    else if name = ".." then walk disk place.dropLast rest
    else do
      match ← disk.look place name with
      | some .directory => walk disk (place ++ [name]) rest
      | some (.file _) => throw .notDirectory
      | none => throw .notFound

/-- Where a route ends: in a directory already there, or at a name in a directory. -/
inductive Target where
  | directory (place : List String)
  | name (place : List String) (last : String)

def target (disk : Disk) (start names : List String) : Except IoError Target :=
  match names.getLast? with
  | none => .ok (.directory start)
  | some last => do
    if last = "." ∨ last = ".." then return .directory (← disk.walk start names)
    return .name (← disk.walk start names.dropLast) last

def readBytes (disk : Disk) (path : String) : Except IoError ByteArray := do
  let route ← route path
  match ← disk.target route.start route.names with
  | .directory _ => throw .isDirectory
  | .name place last =>
    match ← disk.look place last with
    | none => throw .notFound
    | some .directory => throw .isDirectory
    | some (.file content) => if route.slash then throw .notDirectory else return content

def read (disk : Disk) (path : String) : Except IoError String := do
  match String.fromUTF8? (← disk.readBytes path) with
  | some text => return text
  | none => throw .notUtf8

/-- Replaces or makes a file. A slash at the end is refused before the last name is looked at. -/
def writeBytes (disk : Disk) (path : String) (content : ByteArray) : Except IoError Disk := do
  let route ← route path
  match ← disk.target route.start route.names with
  | .directory _ => throw .isDirectory
  | .name place last =>
    if route.slash then throw .isDirectory
    match ← disk.look place last with
    | some .directory => throw .isDirectory
    | _ => return disk.put (place ++ [last]) (.file content)

def removeFile (disk : Disk) (path : String) : Except IoError Disk := do
  let route ← route path
  match ← disk.target route.start route.names with
  | .directory _ => throw .isDirectory
  | .name place last =>
    match ← disk.look place last with
    | none => throw .notFound
    | some .directory => throw .isDirectory
    | some (.file _) =>
      if route.slash then throw .notDirectory else return disk.remove (place ++ [last])

def makeDirAt (disk : Disk) (start names : List String) : Except IoError Disk := do
  match ← disk.target start names with
  | .directory _ => throw .alreadyExists
  | .name place last =>
    match ← disk.look place last with
    | some _ => throw .alreadyExists
    | none => return disk.put (place ++ [last]) .directory

def makeDir (disk : Disk) (path : String) : Except IoError Disk := do
  let route ← route path
  disk.makeDirAt route.start route.names

/-- Makes one directory, or leaves the one that is there. -/
def ensureDirAt (disk : Disk) (start names : List String) : Except IoError Disk :=
  match disk.makeDirAt start names with
  | .ok made => .ok made
  | .error error => if (disk.walk start names).toBool then .ok disk else .error error

/-- Makes a directory with all that lead to it; the names come last first. -/
def makeDirsAt (disk : Disk) (start : List String) : List String → Except IoError Unit × Disk
  | [] => (.ok (), disk)
  | last :: above =>
    let names := (last :: above).reverse
    match disk.ensureDirAt start names with
    | .ok made => (.ok (), made)
    | .error error =>
      if error = .notFound then
        match makeDirsAt disk start above with
        | (.error error, made) => (.error error, made)
        | (.ok (), made) =>
          match made.ensureDirAt start names with
          | .ok made => (.ok (), made)
          | .error error => (.error error, made)
      else (.error error, disk)

/-- Makes a directory with all that lead to it, as far as that goes. -/
def makeDirs (disk : Disk) (path : String) : Except IoError Unit × Disk :=
  match route path with
  | .ok route => disk.makeDirsAt route.start route.names.reverse
  | .error error => (.error error, disk)

def isDirectory (disk : Disk) (path : String) : Bool :=
  (do disk.walk (← route path).start (← route path).names).toBool

instance : FileSystem Disk where
  read := read
  write disk path text :=
    match disk.writeBytes path text.toUTF8 with
    | .ok written => (.ok (), written)
    | .error error => (.error error, disk)
  makeDirs := makeDirs

end Disk
end RecordStore
