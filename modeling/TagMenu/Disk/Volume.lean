import TagMenu.Disk.Resolve

/-!
A disk in memory: a tree, the directory that relative paths start from, and what can be done with paths there.

The names in a directory are octets, but paths and the targets of links are texts: what has a name that is no text is
seen only from the directory around it. There are no permissions and no failures of the medium. All directories can be
searched, all files can be read, and new ones can be written everywhere.
-/

namespace TagMenu.Disk

structure Volume where
  root : Node
  here : Place
  now : Timestamp

namespace Volume

def empty (here : Place) (now : Timestamp) : Volume :=
  { root := here.foldr (fun name node => .directory [(.ofText name, node)] now) (.directory [] now),
    here, now }

def workingDirectory (volume : Volume) : Path := ⟨"/" ++ "/".intercalate volume.here⟩

def find (volume : Volume) (follow : Bool) (path : Path) : Except Failure (Place × Node) :=
  Disk.find volume.root volume.here follow path

def put (volume : Volume) (place : Place) (node : Option Node) : Volume :=
  { volume with root := volume.root.put volume.now node place }

def modified (volume : Volume) (path : Path) : Except Failure Timestamp := do
  match ← volume.find true path with
  | (_, .file _ time) | (_, .directory _ time) => return time
  | (_, .link _) => throw .notFound

def read (volume : Volume) (path : Path) : Except Failure ByteArray := do
  match ← volume.find true path with
  | (_, .file content _) => return content
  | (_, .directory _ _) => throw .isADirectory
  | (_, .link _) => throw .notFound

def exists? (volume : Volume) (path : Path) : Bool := (volume.find true path).toOption.isSome

def isFile (volume : Volume) (path : Path) : Bool :=
  match volume.find true path with
  | .ok (_, .file _ _) => true
  | _ => false

def isDirectory (volume : Volume) (path : Path) : Bool :=
  match volume.find true path with
  | .ok (_, node) => node.isDirectory
  | _ => false

def sizeBelow (path : Path) (names : List FileName) : Nat :=
  path.text.utf8ByteSize + names.foldr (·.octets.length + 1 + ·) 0 -
    (if path.text.endsWith "/" && !names.isEmpty then 1 else 0)

/-- What is in the directory that names lead to from a path; nothing is in one that cannot be read. -/
def entries (volume : Volume) (path : Path) (names : List FileName) : List (FileName × Node) :=
  match volume.find true path with
  | .ok (_, node) =>
    if sizeBelow path names > pathLimit then []
    else
      match node.below? names with
      | some (.directory entries _) => entries
      | _ => []
  | .error _ => []

def enter? (volume : Volume) (path : Path) : Option Volume :=
  match volume.find true path with
  | .ok (here, .directory _ _) => some { volume with here }
  | _ => none

def write (volume : Volume) (path : Path) (content : ByteArray) : Except Failure Volume := do
  match ← resolve volume.root volume.here true path with
  | .found place (.file _ _) | .vacant place false =>
    return volume.put place (some (.file content volume.now))
  | .found _ _ | .vacant _ true => throw .isADirectory

def makeDirectory (volume : Volume) (path : Path) : Except Failure Volume := do
  match ← resolve volume.root volume.here false path with
  | .found _ _ => throw .alreadyExists
  | .vacant place _ => return volume.put place (some (.directory [] volume.now))

def ensureDirectory (volume : Volume) (path : Path) : Except Failure Volume :=
  match volume.makeDirectory path with
  | .ok volume => .ok volume
  | .error failure => if volume.isDirectory path then .ok volume else .error failure

/-- Makes a directory, and before it those above it that are missing, of which there are fewer than
    `bound`. -/
def makeDirectoriesWithin (volume : Volume) (path : Path) : Nat → Except Failure Volume
  | 0 => .ok volume
  | bound + 1 =>
    if path.isEmpty then .ok volume
    else
      match volume.ensureDirectory path, path.parent? with
      | .ok volume, _ => .ok volume
      | .error .notFound, some parent => do
        (← volume.makeDirectoriesWithin parent bound).ensureDirectory path
      | .error failure, _ => .error failure

def makeDirectories (volume : Volume) (path : Path) : Except Failure Volume :=
  volume.makeDirectoriesWithin path (path.text.length + 1)

def usualDirectories : List String :=
  ["/bin", "/dev", "/etc", "/home", "/lib", "/mnt", "/opt", "/proc", "/root", "/run", "/sbin", "/srv",
    "/sys", "/tmp", "/usr", "/usr/bin", "/usr/lib", "/usr/local", "/usr/local/bin", "/usr/local/sbin",
    "/usr/sbin", "/usr/share", "/var", "/var/tmp"]

/-- A disk that programs are run from: beside the usual directories, and the file in which nothing is
    kept, there is the directory at a place, where relative paths start. -/
def furnished (here : Place) (now : Timestamp) : Volume :=
  let volume := usualDirectories.foldl (fun volume name =>
    (volume.ensureDirectory ⟨name⟩).toOption.getD volume) (empty here now)
  volume.put ["dev", "null"] (some (.file .empty now))

def remove (volume : Volume) (path : Path) : Except Failure Volume := do
  match ← volume.find false path with
  | (_, .directory _ _) => throw .isADirectory
  | (place, _) => return volume.put place none

def removeAll (volume : Volume) (path : Path) : Except Failure Volume := do
  match ← volume.find false path with
  | (_, .file _ _) => throw .notADirectory
  | (place, _) => return volume.put place none

def link (volume : Volume) (path target : Path) : Except Failure Volume := do
  if target.text.contains '\x00' then throw .nulInPath
  if target.isEmpty then throw .notFound
  match ← resolve volume.root volume.here false path with
  | .found _ _ => throw .alreadyExists
  | .vacant _ true => throw .notFound
  | .vacant place false => return volume.put place (some (.link target.text))

/-- Moves what is at `path` to where `target` leads. A directory can take the place of an empty
    directory only, and anything else that of anything but a directory. -/
def rename (volume : Volume) (path target : Path) : Except Failure Volume := do
  let (source, node) ← volume.find false path
  let goal ← resolve volume.root volume.here false target
  let move (place : Place) : Except Failure Volume :=
    if node.isDirectory && source.isPrefixOf place && source != place then .error .invalidArgument
    else .ok ((volume.put source none).put place (some node))
  match goal with
  | .vacant place asDirectory =>
    if asDirectory && !node.isDirectory then throw .notADirectory
    move place
  | .found place there =>
    if place = source then return volume
    match node.isDirectory, there with
    | true, .directory [] _ => move place
    | true, .directory _ _ =>
      if source.isPrefixOf place then throw .invalidArgument else throw .directoryNotEmpty
    | true, _ => throw .notADirectory
    | false, .directory _ _ => throw .isADirectory
    | false, _ => move place

def touch (volume : Volume) (path : Path) (time : Timestamp) : Except Failure Volume := do
  let (place, node) ← volume.find true path
  return { volume with root := volume.root.put time (some (node.stamp time)) place }

end Volume

end TagMenu.Disk
