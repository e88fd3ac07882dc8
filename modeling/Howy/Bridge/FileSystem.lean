import Howy.Storage.Backend
import Howy.Bridge.Documents
import Mathlib.Data.List.Sort

/-! The file system as the package bridge sees it, and its descriptor-bound steps, any of which may fail. -/

namespace Howy.Bridge

open Library Storage
open Provisioning (hexEncode)

inductive Directory where
  | etcHowy
  | state
  | varLib
  | usrShareHowy
  | runLock
deriving DecidableEq

def Directory.text : Directory → String
  | etcHowy => "/etc/howy"
  | state => stateDirectory
  | varLib => "/var/lib"
  | usrShareHowy => "/usr/share/howy"
  | runLock => "/run/lock"

def Directory.components : Directory → List String
  | etcHowy => ["etc", "howy"]
  | state => ["var", "lib", "howy", "config-bridge"]
  | varLib => ["var", "lib"]
  | usrShareHowy => ["usr", "share", "howy"]
  | runLock => ["run", "lock"]

structure Path where
  directory : Directory
  name : Name
deriving DecidableEq

def configFile : Path := ⟨.etcHowy, utf8Bytes "config.toml"⟩
def bootstrapFile : Path := ⟨.usrShareHowy, utf8Bytes "config.bootstrap.toml"⟩
def lockFile : Path := ⟨.runLock, utf8Bytes "howy-config-bridge.lock"⟩
def journalFile : Path := ⟨.state, utf8Bytes "journal-v2.json"⟩
def manifestFile : Path := ⟨.state, utf8Bytes "manifest-v2.json"⟩
def markerFile : Path := ⟨.varLib, utf8Bytes "howy-package-bootstrap.complete"⟩

def resolve (path : String) : Option Path :=
  let start := utf8Bytes (stateDirectory ++ "/")
  if start <+: utf8Bytes path ∧ 47 ∉ (utf8Bytes path).drop start.length then
    some ⟨.state, (utf8Bytes path).drop start.length⟩
  else none

/-- `made` is read by no step: it tells the files that the bridge created. -/
structure Node where
  kind : NodeKind
  device : ℕ
  inode : ℕ
  uid : ℕ
  gid : ℕ
  permissions : ℕ
  nlink : ℕ
  bytes : Bytes
  accessSeconds : ℤ
  accessNanoseconds : ℕ
  modificationSeconds : ℤ
  modificationNanoseconds : ℕ
  made : Bool
deriving DecidableEq

structure DirectoryStat where
  device : ℕ
  inode : ℕ
  uid : ℕ
  gid : ℕ
  permissions : ℕ
  nlink : ℕ
deriving DecidableEq

/-- `directories` gives what a no-follow open of each component finds; `captures` is read by no step: it keeps the
configuration files that a stash took its snapshot of. -/
structure World where
  files : Table Path Node
  directories : List String → Option DirectoryStat
  captures : List Node := []

/-- What the surroundings decide about one step: whether the system call fails, and with which text; the identity
and time of a file it creates; the random bytes of a transaction. -/
structure Choice where
  fault : Option String := none
  tmpfileUnsupported : Bool := false
  device : ℕ := 1
  inode : ℕ := 1
  seconds : ℤ := 0
  nanoseconds : ℕ := 0
  kept : ℕ := 0
  random : FixedArray UInt8 16 := .filled 16 0

/-- What is fixed for one bridge: the paths' owner and the identity of the process. -/
structure ConfigBridge where
  platform : Platform
  expectedUid : ℕ
  expectedGid : ℕ
  requireEuidRoot : Bool
  euid : ℕ
  egid : ℕ

abbrev Op (α : Type) := Attempt Choice World BridgeError α

variable {α : Type}

def refuse (message : String) : Op α := throw (refused message)

def lastError (context text : String) : BridgeError := refused (context ++ ": " ++ text)

def system (context : String) : Op Unit :=
  query fun c _ =>
    match c.fault with
    | some text => .error (lastError context text)
    | none => .ok ()

def quietSystem (message : String) : Op Unit :=
  query fun c _ => if c.fault.isSome then .error (refused message) else .ok ()

def lookup (path : Path) : Op (Option Node) :=
  query fun c s =>
    match c.fault with
    | some text => .error (refused ("bridge path lookup failed: " ++ text))
    | none => .ok (s.files.lookup path)

def fstat : Op Unit := system "bridge descriptor metadata query failed"

def syncDirectory : Op Unit := system "bridge directory fsync failed"

def validateSafeDirectory (stat : DirectoryStat) (uid gid : ℕ) : Check :=
  require (stat.uid = uid ∧ stat.gid = gid ∧ stat.nlink ≠ 0 ∧ stat.permissions &&& 0o022 = 0)
    (refused "bridge directory ownership or metadata is unsafe")

def openComponent (B : ConfigBridge) (context : String) (components : List String) : Op DirectoryStat := do
  let stat ← query fun c s =>
    match c.fault, s.directories components with
    | some text, _ => .error (lastError context text)
    | none, none => .error (lastError context "No such file or directory (os error 2)")
    | none, some stat => .ok stat
  fstat
  fromExcept (validateSafeDirectory stat B.expectedUid B.expectedGid)
  return stat

def openComponents (B : ConfigBridge) : List String → List String → DirectoryStat → Op DirectoryStat
  | _, [], current => pure current
  | done, component :: rest, _ => do
    let next ← openComponent B "no-follow bridge directory traversal failed" (done ++ [component])
    openComponents B (done ++ [component]) rest next

variable (B : ConfigBridge)

def openDirectory (directory : Directory) : Op DirectoryStat := do
  let root ← openComponent B "bridge root open failed" []
  openComponents B [] directory.components root

/-- `record`: what is kept of a regular file with one link. -/
def record (P : Platform) (node : Node) : Except BridgeError FileRecord := do
  require (node.kind = .regular ∧ node.nlink = 1) (refused "bridge file record is not canonical")
  let record : FileRecord := ⟨node.device, node.inode, P.digest node.bytes, node.uid, node.gid, node.permissions,
    node.nlink, node.bytes.length, node.accessSeconds, node.accessNanoseconds, node.modificationSeconds,
    node.modificationNanoseconds⟩
  validateRecord record
  return record

def readRegular (path : Path) (maximum : ℕ) : Op (Option Snapshot) := do
  match ← lookup path with
  | none => return none
  | some node => do
    fromExcept (require (node.kind = .regular ∧ node.nlink = 1 ∧ node.bytes.length ≤ maximum)
      (refused "bridge path is occupied by a non-regular, hard-linked, or oversized object"))
    system "no-follow bridge file open failed"
    fstat
    quietSystem "bounded descriptor read failed"
    fstat
    let record ← fromExcept (record B.platform node)
    return some ⟨node.bytes, record⟩

def readPath (path : Path) (maximum : ℕ) : Op (Option Snapshot) := do
  let _ ← openDirectory B path.directory
  readRegular B path maximum

def pathOccupied (path : Path) : Op Bool := do
  let _ ← openDirectory B path.directory
  return (← lookup path).isSome

def change (context : String) (f : Table Path Node → Except String (Table Path Node)) : Op Unit :=
  action fun c s =>
    match c.fault, f s.files with
    | some text, _ => (.error (lastError context text), s)
    | none, .error text => (.error (lastError context text), s)
    | none, .ok files => (.ok (), { s with files := files })

def notFound : String := "No such file or directory (os error 2)"
def fileExists : String := "File exists (os error 17)"
def isADirectory : String := "Is a directory (os error 21)"

def exchangeFiles (old new : Path) (files : Table Path Node) : Except String (Table Path Node) :=
  match files.lookup old, files.lookup new with
  | some a, some b => .ok ((files.insert old b).insert new a)
  | _, _ => .error notFound

def renameNoReplaceFiles (old new : Path) (files : Table Path Node) : Except String (Table Path Node) :=
  match files.lookup old, files.lookup new with
  | none, _ => .error notFound
  | some _, some _ => .error fileExists
  | some node, none => .ok ((files.erase old).insert new node)

def unlinkFile (path : Path) (files : Table Path Node) : Except String (Table Path Node) :=
  match files.lookup path with
  | none => .error notFound
  | some node => if node.kind = .directory then .error isADirectory else .ok (files.erase path)

def renameExchange (old new : Path) : Op Unit :=
  change "descriptor-bound atomic bridge rename failed" (exchangeFiles old new)

def renameNoReplace (old new : Path) : Op Unit :=
  change "descriptor-bound atomic bridge rename failed" (renameNoReplaceFiles old new)

def unlinkIdentity (path : Path) (device inode : ℕ) : Op Unit := do
  match ← lookup path with
  | none => refuse "exact bridge unlink target is absent"
  | some current => do
    fromExcept (require (current.device = device ∧ current.inode = inode ∧ current.kind = .regular)
      (refused "exact bridge unlink target identity changed"))
    change "exact bridge unlink failed" (unlinkFile path)

def removeExact (path : Path) (expected : FileRecord) : Op Unit := do
  match ← readRegular B path (max maxControlBytes maxConfigBytes) with
  | none => refuse "journal-owned bridge file disappeared"
  | some current => do
    fromExcept (require (sameObject current.record expected = true)
      (refused "journal-owned bridge file was replaced; refusing deletion"))
    unlinkIdentity path expected.device expected.inode

def newNode (c : Choice) (mode nlink : ℕ) : Node where
  kind := .regular
  device := c.device
  inode := c.inode
  uid := B.euid
  gid := B.egid
  permissions := mode
  nlink := nlink
  bytes := []
  accessSeconds := c.seconds
  accessNanoseconds := c.nanoseconds
  modificationSeconds := c.seconds
  modificationNanoseconds := c.nanoseconds
  made := true

/-- `openat` with `O_CREAT | O_EXCL`. -/
def openExclusive (context : String) (path : Path) (mode : ℕ) : Op Unit :=
  action fun c s =>
    match c.fault, s.files.lookup path with
    | some text, _ => (.error (lastError context text), s)
    | none, some _ => (.error (lastError context fileExists), s)
    | none, none => (.ok (), { s with files := s.files.insert path (newNode B c mode 1) })

/-- An open file of this process: one that has no name yet, or one under a name. -/
inductive Handle where
  | unnamed (node : Node)
  | named (path : Path)

def onHandle (e : Choice → BridgeError) (f : Choice → Node → Node) (failed : Choice → Node → Node) :
    Handle → Op Handle
  | .unnamed node =>
    query fun c _ =>
      match c.fault with
      | some _ => .error (e c)
      | none => .ok (.unnamed (f c node))
  | .named path =>
    action fun c s =>
      match s.files.lookup path with
      | none => (.ok (.named path), s)
      | some node =>
        match c.fault with
        | some _ => (.error (e c), { s with files := s.files.insert path (failed c node) })
        | none => (.ok (.named path), { s with files := s.files.insert path (f c node) })

def faultText (context : String) (c : Choice) : BridgeError := lastError context (c.fault.getD "")

def fchown (context : String) (uid gid : ℕ) : Handle → Op Handle :=
  onHandle (faultText context) (fun _ node => { node with uid := uid, gid := gid }) fun _ node => node

def fchmod (context : String) (mode : ℕ) : Handle → Op Handle :=
  onHandle (faultText context) (fun _ node => { node with permissions := mode }) fun _ node => node

/-- `write_all`; a write that fails may have written a part. -/
def writeAll (message : String) (bytes : Bytes) : Handle → Op Handle :=
  onHandle (fun _ => refused message)
    (fun c node => { node with
      bytes := bytes, modificationSeconds := c.seconds, modificationNanoseconds := c.nanoseconds })
    fun c node => { node with
      bytes := bytes.take c.kept, modificationSeconds := c.seconds, modificationNanoseconds := c.nanoseconds }

def setTimestamps (metadata : FileMetadata) : Handle → Op Handle :=
  onHandle (faultText "bridge timestamp restoration failed")
    (fun _ node => { node with
      accessSeconds := metadata.accessSeconds, accessNanoseconds := metadata.accessNanoseconds
      modificationSeconds := metadata.modificationSeconds
      modificationNanoseconds := metadata.modificationNanoseconds })
    fun _ node => node

def setOptionalTimestamps (metadata : Option FileMetadata) (handle : Handle) : Op Handle :=
  match metadata with
  | none => pure handle
  | some metadata => setTimestamps metadata handle

def statHandle : Handle → Op Node
  | .unnamed node => do
    fstat
    return node
  | .named path => do
    fstat
    match ← query fun _ s => .ok (s.files.lookup path) with
    | none => refuse "bridge descriptor metadata query failed"
    | some node => return node

def createExclusive (path : Path) (bytes : Bytes) (uid gid mode : ℕ) (metadata : Option FileMetadata) :
    Op Snapshot := do
  openExclusive B "exclusive journaled bridge stage creation failed" path mode
  let handle ← fchown "bridge stage metadata setup failed" uid gid (.named path)
  let handle ← fchmod "bridge stage metadata setup failed" mode handle
  let handle ← writeAll "bridge stage write failed" bytes handle
  let handle ← setOptionalTimestamps metadata handle
  quietSystem "bridge stage fsync failed"
  let stat ← statHandle handle
  let record ← fromExcept (record B.platform stat)
  fromExcept (require (record.metadata.uid = uid ∧ record.metadata.gid = gid ∧ record.metadata.permissions = mode ∧
      record.metadata.byteLength = bytes.length)
    (refused "created bridge stage metadata verification failed"))
  return ⟨bytes, record⟩

inductive PublishOutcome where
  | published (snapshot : Snapshot)
  | occupied

def privateFile (directory : Directory) (transactionId label : String) : Path :=
  ⟨directory, utf8Bytes (privateStagePrefix ++ transactionId ++ "-" ++ label)⟩

/-- `openat` with `O_TMPFILE`; there is no file when the file system does not support that. -/
def openUnnamed (mode : ℕ) : Op (Option Node) :=
  query fun c _ =>
    match c.fault with
    | some text => .error (lastError "private bridge temporary creation failed" text)
    | none => .ok (if c.tmpfileUnsupported then none else some (newNode B c mode 0))

def openTemporary (privatePath : Path) (mode : ℕ) : Op Handle := do
  match ← openUnnamed B mode with
  | some node => return .unnamed node
  | none => do
    openExclusive B "private bridge temporary creation failed" privatePath mode
    return .named privatePath

def prepareTemporary (bytes : Bytes) (uid gid mode : ℕ) (metadata : Option FileMetadata) (handle : Handle) :
    Op (Handle × Node) := do
  let handle ← fchown "private bridge temporary metadata setup failed" uid gid handle
  let handle ← fchmod "private bridge temporary metadata setup failed" mode handle
  let handle ← writeAll "private bridge temporary write failed" bytes handle
  let handle ← setOptionalTimestamps metadata handle
  quietSystem "private bridge temporary fsync failed"
  let created ← statHandle handle
  return (handle, created)

def linkFile (path : Path) (node : Node) (files : Table Path Node) : Except String (Table Path Node) :=
  match files.lookup path with
  | some _ => .error fileExists
  | none => .ok (files.insert path { node with nlink := 1 })

/-- `linkat` of an unnamed file; whether it linked, and if not whether the name was taken. -/
def linkAt (path : Path) (node : Node) : Op (Except Bool Unit) :=
  action fun c s =>
    match c.fault, linkFile path node s.files with
    | some _, _ => (.ok (.error false), s)
    | none, .error _ => (.ok (.error true), s)
    | none, .ok files => (.ok (.ok ()), { s with files := files })

def giveName (path : Path) : Handle → Op Bool
  | .unnamed node => do
    match ← linkAt path node with
    | .ok () => return true
    | .error true => return false
    | .error false =>
      match ← linkAt path node with
      | .ok () => return true
      | .error _ => return false
  | .named privatePath => do
    match ← ExceptT.lift (renameNoReplace privatePath path).run with
    | .ok () => return true
    | .error e =>
      match ← lookup path with
      | some _ => return false
      | none => throw e

def publishTemporary (path : Path) (bytes : Bytes) (uid gid mode : ℕ) (handle : Handle) (created : Node) :
    Op PublishOutcome := do
  if ← giveName path handle then
    syncDirectory
    match ← readRegular B path (max bytes.length 1) with
    | none => refuse "published bridge file disappeared"
    | some published => do
      fromExcept (require (published.record.device = created.device ∧ published.record.inode = created.inode ∧
          published.bytes = bytes ∧ published.record.metadata.uid = uid ∧ published.record.metadata.gid = gid ∧
          published.record.metadata.permissions = mode)
        (refused "published bridge file identity or bytes changed"))
      return .published published
  else
    match ← lookup path with
    | some _ => return .occupied
    | none => throw (lastError "private bridge temporary publication failed" notFound)

def cleanUpTemporary (created : Node) : Handle → Except BridgeError PublishOutcome → Op Unit
  | .unnamed _, _ => pure ()
  | .named _, .ok (.published _) => pure ()
  | .named privatePath, _ => do
    match ← lookup privatePath with
    | none => pure ()
    | some _ => do
      unlinkIdentity privatePath created.device created.inode
      syncDirectory

def publishNoreplaceAt (path : Path) (bytes : Bytes) (uid gid mode : ℕ) (metadata : Option FileMetadata)
    (transactionId label : String) : Op PublishOutcome := do
  match ← lookup path with
  | some _ => return .occupied
  | none => do
    let handle ← openTemporary B (privateFile path.directory transactionId label) mode
    let (handle, created) ← prepareTemporary bytes uid gid mode metadata handle
    let result ← ExceptT.lift (publishTemporary B path bytes uid gid mode handle created).run
    cleanUpTemporary created handle result
    fromExcept result

def newTransactionId : Op String :=
  query fun c _ =>
    match c.fault with
    | some text => .error (refused ("bridge transaction randomness failed: " ++ text))
    | none => .ok (hexEncode c.random.val)

def isStageName (name : Name) : Bool :=
  (utf8Bytes configStagePrefix).isPrefixOf name || (utf8Bytes controlStagePrefix).isPrefixOf name ||
  (utf8Bytes privateStagePrefix).isPrefixOf name

def listDirectory (directory : Directory) : Op (List Name) := do
  system "bridge directory duplication failed"
  system "bridge directory stream open failed"
  let names ← query fun _ s =>
    let names := (s.files.keys.filter fun path => path.directory == directory).map Path.name
    if names.all fun name => (fromUtf8 name).isSome then .ok (names.insertionSort (· ≤ ·))
    else .error (refused "non-UTF-8 bridge stage was retained")
  system "bridge directory stream close failed"
  return names

def refuseOrphansIn (transactionId : Option String) (directory : Directory) : Op Unit := do
  let _ ← openDirectory B directory
  let names ← listDirectory directory
  let orphan := names.find? fun name => isStageName name &&
    !(transactionId.any fun transaction => decide (utf8Bytes transaction <:+: name))
  match orphan with
  | none => pure ()
  | some name =>
    refuse ("unknown/orphan bridge stage retained: " ++ directory.text ++ "/" ++ (fromUtf8 name).getD "")

def refuseOrphanStages (transactionId : Option String) : Op Unit := do
  refuseOrphansIn B transactionId .etcHowy
  refuseOrphansIn B transactionId .state
  refuseOrphansIn B transactionId .varLib

end Howy.Bridge
