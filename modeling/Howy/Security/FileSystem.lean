import Howy.Library.Fallible
import Howy.Library.Tables
import Howy.Provisioning.Objects

/-! The file system as the security runtime sees it, and its descriptor-bound steps, any of which may fail. -/

namespace Howy.Security

open Library Storage Provisioning

inductive SecurityError where
  | refused (message : String)
  | operation (message : String)
  | uncertain (message : String)
deriving DecidableEq

def SecurityError.text : SecurityError → String
  | refused message | operation message => message
  | uncertain message => "uncertain security state: " ++ message

/-- A name in a directory that was opened component by component, without following a link. -/
structure Path where
  directory : List Bytes
  name : Bytes
deriving DecidableEq

structure Node where
  kind : FileObjectType
  device : UInt64
  inode : UInt64
  uid : UInt32
  gid : UInt32
  permissions : UInt32
  nlink : UInt64
  bytes : Bytes
  times : RestorableFileTimestampsV1
deriving DecidableEq

structure DirectoryStat where
  kind : FileObjectType
  device : UInt64
  inode : UInt64
  uid : UInt32
  gid : UInt32
  permissions : UInt32
  nlink : UInt64
deriving DecidableEq

/-- `unnamed` says whether files without a name are supported; `unlinked` is read by no step: it keeps what was
unlinked, and under which name. -/
structure World where
  files : Table Path Node
  directories : List Bytes → Option DirectoryStat
  unlinked : List (Path × Node) := []
  unnamed : Bool := true

/-- What the surroundings decide about one step: whether the system call fails; owner, identity and times of a file
it creates; how much a failing write has written. -/
structure Choice where
  fault : Bool := false
  device : UInt64 := 1
  inode : UInt64 := 1
  owner : UInt32 := 0
  group : UInt32 := 0
  umask : UInt32 := 0o022
  now : RestorableFileTimestampsV1 := ⟨⟨0, 0⟩, ⟨0, 0⟩⟩
  kept : ℕ := 0

abbrev Op (α : Type) := Attempt Choice World SecurityError α

variable {α : Type}

def asOperation : Except ProvisioningContractError α → Except SecurityError α
  | .ok a => .ok a
  | .error e => .error (.operation e.text)

section

variable (e : SecurityError)

def orElse (p : Op α) : Op α := p.adapt fun _ => e

def orMissing : Option α → Op α
  | some a => pure a
  | none => throw e

def system : Op Unit := query fun c _ => if c.fault then .error e else .ok ()

def fstat : Op Unit := system (.operation "descriptor metadata query failed")

def fsyncDirectory : Op Unit := system (.operation "directory fsync failed")

def cstring (bytes : Bytes) : Except SecurityError Bytes :=
  if 0 ∈ bytes then .error (.operation "path contains NUL") else .ok bytes

def Component.isPlain : Component → Bool
  | .rootDir | .normal _ => true
  | .curDir | .parentDir => false

def isPlainPath (path : Bytes) : Bool := isAbsolute path && (components path).all Component.isPlain

def normals (path : Bytes) : List Bytes :=
  (components path).filterMap fun
    | .normal name => some name
    | _ => none

def splitAbsolute (path : Bytes) : Except SecurityError (Bytes × Bytes) :=
  if isPlainPath path then
    match parent path with
    | none => .error (.operation "path has no parent")
    | some directory =>
      match fileName path with
      | none => .error (.operation "path name is not UTF-8")
      | some name => .ok (directory, name)
  else .error (.operation "unsafe absolute path")

def resolve (production : String) : Except SecurityError Bytes :=
  if isPlainPath (utf8Bytes production) then .ok (utf8Bytes production)
  else .error (.operation "unsafe production path")

def openComponents : List Bytes → List Bytes → Op (List Bytes)
  | opened, [] => pure opened
  | opened, component :: rest => do
    let component ← fromExcept (cstring component)
    let stat ← query fun c s =>
      match c.fault, s.directories (opened ++ [component]) with
      | false, some stat => .ok stat
      | _, _ => .error (.operation "atomic no-follow parent traversal failed")
    fstat
    fromExcept (require (stat.kind = .directory ∧ stat.nlink ≠ 0) (.operation "unsafe atomic parent component"))
    openComponents (opened ++ [component]) rest

def openDirectoryPathBound (path : Bytes) : Op (List Bytes) := do
  fromExcept (require (isPlainPath path) (.operation "unsafe atomic parent path"))
  system (.operation "atomic root directory open failed")
  openComponents [] (normals path)

def fstatDirectory (directory : List Bytes) : Op DirectoryStat :=
  query fun c s =>
    match c.fault, s.directories directory with
    | false, some stat => .ok stat
    | _, _ => .error (.operation "descriptor metadata query failed")

def directoryIdentity (path : String) (stat : DirectoryStat) : DirectoryIdentityV1 where
  path := path
  objectType := stat.kind
  deviceId := stat.device
  inode := stat.inode
  uid := stat.uid
  gid := stat.gid
  permissions := stat.permissions
  linkCount := stat.nlink

def validateDirectoryIdentity (directory : List Bytes) (expected : DirectoryIdentityV1) : Op Unit := do
  let stat ← fstatDirectory directory
  fromExcept (require (stat.kind = expected.objectType ∧ stat.device = expected.deviceId ∧
      stat.inode = expected.inode ∧ stat.uid = expected.uid ∧ stat.gid = expected.gid ∧
      stat.permissions = expected.permissions ∧ stat.nlink = expected.linkCount)
    (.operation "atomic parent descriptor identity changed"))

def validateAbsoluteParentIdentity (path : Bytes) (held : List Bytes) (expected : DirectoryIdentityV1) :
    Op Unit := do
  validateDirectoryIdentity held expected
  let resolved ← openDirectoryPathBound path
  orElse (.operation "absolute atomic parent path no longer resolves to held parent")
    (validateDirectoryIdentity resolved expected)

structure ObservedFile where
  bytes : Bytes
  metadata : FileMetadataSnapshotV1
  deviceId : UInt64
  inode : UInt64
  parentDeviceId : UInt64
  parentInode : UInt64
  parentUid : UInt32
  parentGid : UInt32
  parentPermissions : UInt32
  parentLinkCount : UInt64
deriving DecidableEq

def observed (node : Node) (parent : DirectoryIdentityV1) : ObservedFile where
  bytes := node.bytes
  metadata :=
    { schemaVersion := 1
      objectType := node.kind
      uid := node.uid
      gid := node.gid
      permissions := node.permissions
      linkCount := node.nlink
      linkPolicy := .exactlyOne
      byteLength := node.bytes.length.toUInt64
      restorableTimestamps := node.times }
  deviceId := node.device
  inode := node.inode
  parentDeviceId := parent.deviceId
  parentInode := parent.inode
  parentUid := parent.uid
  parentGid := parent.gid
  parentPermissions := parent.permissions
  parentLinkCount := parent.linkCount

def ObservedFile.atomicIdentity (sha256 : Sha256) (file : ObservedFile) : AtomicFileIdentityV1 where
  deviceId := file.deviceId
  inode := file.inode
  objectType := file.metadata.objectType
  uid := file.metadata.uid
  gid := file.metadata.gid
  permissions := file.metadata.permissions
  linkCount := file.metadata.linkCount
  byteLength := file.metadata.byteLength
  sha256 := Sha256Digest.fromBytes sha256 file.bytes

def fstatatNofollow (path : Path) : Op (Option Node) :=
  query fun c s => if c.fault then .error (.operation "path metadata query failed") else .ok (s.files.lookup path)

def observeAtomicAt (path : Path) (maximum : ℕ) (parent : DirectoryIdentityV1) : Op (Option ObservedFile) := do
  match ← fstatatNofollow path with
  | none => return none
  | some entry => do
    fromExcept (require (entry.kind = .regularFile ∧ entry.nlink = 1 ∧ entry.bytes.length ≤ maximum)
      (.operation "unsafe atomic file object"))
    system (.operation "atomic file open failed")
    fstat
    system (.operation "atomic bounded read failed")
    fstat
    return some (observed entry parent)

def isFresh (c : Choice) (files : Table Path Node) : Bool :=
  c.device != 0 && c.inode != 0 && (values files).all fun node =>
    !(node.device == c.device && node.inode == c.inode)

def newNode (c : Choice) (mode : UInt32) (nlink : UInt64) : Node where
  kind := .regularFile
  device := c.device
  inode := c.inode
  uid := c.owner
  gid := c.group
  permissions := mode &&& ~~~c.umask
  nlink := nlink
  bytes := []
  times := c.now

def openExclusive (path : Path) (mode : UInt32) : Op Unit :=
  ExceptT.mk (Prog.atomic fun c s =>
    if c.fault then some (.error e, s)
    else if (s.files.lookup path).isSome then some (.error e, s)
    else if isFresh c s.files then some (.ok (), { s with files := s.files.insert path (newNode c mode 1) })
    else none)

/-- An open file of this process: one that has no name yet, or one under a name. -/
inductive Handle where
  | unnamed (node : Node)
  | named (path : Path)

def onHandle (f : Choice → Node → Node) (failed : Choice → Node → Node) : Handle → Op Handle
  | .unnamed node => query fun c _ => if c.fault then .error e else .ok (.unnamed (f c node))
  | .named path =>
    action fun c s =>
      match s.files.lookup path with
      | none => (.error e, s)
      | some node =>
        if c.fault then (.error e, { s with files := s.files.insert path (failed c node) })
        else (.ok (.named path), { s with files := s.files.insert path (f c node) })

def fchown (uid gid : UInt32) : Handle → Op Handle :=
  onHandle e (fun _ node => { node with uid := uid, gid := gid }) fun _ node => node

def fchmod (mode : UInt32) : Handle → Op Handle :=
  onHandle e (fun _ node => { node with permissions := mode }) fun _ node => node

def writeAll (bytes : Bytes) : Handle → Op Handle :=
  onHandle e (fun c node => { node with bytes := bytes, times := c.now })
    fun c node => { node with bytes := bytes.take c.kept, times := c.now }

def futimens (times : RestorableFileTimestampsV1) : Handle → Op Handle :=
  onHandle e (fun _ node => { node with times := times }) fun _ node => node

def statHandle : Handle → Op Node
  | .unnamed node => do
    fstat
    return node
  | .named path => query fun c s =>
    match c.fault, s.files.lookup path with
    | false, some node => .ok node
    | _, _ => .error (.operation "descriptor metadata query failed")

def exchangeFiles (old new : Path) (files : Table Path Node) : Option (Table Path Node) :=
  match files.lookup old, files.lookup new with
  | some a, some b => some ((files.insert old b).insert new a)
  | _, _ => none

def renameNoReplaceFiles (old new : Path) (files : Table Path Node) : Option (Table Path Node) :=
  match files.lookup old, files.lookup new with
  | some node, none => some ((files.erase old).insert new node)
  | _, _ => none

def renamedFiles (kind : AtomicWriteKindV1) (old new : Path) (files : Table Path Node) :
    Option (Table Path Node) :=
  match kind with
  | .noReplace => renameNoReplaceFiles old new files
  | .exchange => exchangeFiles old new files

def renameat2 (kind : AtomicWriteKindV1) (old new : Path) : Op Unit :=
  action fun c s =>
    match c.fault, renamedFiles kind old new s.files with
    | false, some files => (.ok (), { s with files := files })
    | _, _ => (.error (.operation "atomic rename failed"), s)

def unlinkat (path : Path) : Op Unit :=
  action fun c s =>
    match c.fault, s.files.lookup path with
    | false, some node =>
      if node.kind = .directory then (.error e, s)
      else (.ok (), { s with files := s.files.erase path, unlinked := s.unlinked ++ [(path, node)] })
    | _, _ => (.error e, s)

def openUnnamed (mode : UInt32) : Op (Option Node) :=
  ExceptT.mk (Prog.atomic fun c s =>
    if c.fault then some (.error e, s)
    else if s.unnamed then
      if isFresh c s.files then some (.ok (some (newNode c mode 0)), s) else none
    else some (.ok none, s))

end

def linkat (path : Path) (node : Node) : Op Bool :=
  action fun c s =>
    match c.fault, s.files.lookup path with
    | false, none => (.ok true, { s with files := s.files.insert path { node with nlink := 1 } })
    | _, _ => (.ok false, s)

end Howy.Security
