import Howy.Library.Words
import Howy.Storage.Backend

/-! The names of the Mode 1 directory: records, the artifacts of their transactions, and how a scan tells them
apart. -/

namespace Howy.Storage.Mode1

open Library

def dot : UInt8 := 46
def hyeExtension : Bytes := utf8Bytes ".hye"
def tmpMarker : Bytes := utf8Bytes ".tmp."
def stagedMarker : Bytes := utf8Bytes ".staged."
def clearMarker : Bytes := utf8Bytes ".clear."
def rollbackMarker : Bytes := utf8Bytes ".rollback."

def filename (u : CanonicalUsername) : Name := u.bytes ++ hyeExtension

def hexDigit (n : UInt8) : UInt8 := if n < 10 then 48 + n else 87 + n

def hexLower (bytes : Bytes) : Bytes := bytes.flatMap fun b : UInt8 => [hexDigit (b >>> 4), hexDigit (b &&& 15)]

def isHexDigit (b : UInt8) : Bool := (48 ≤ b && b ≤ 57) || (97 ≤ b && b ≤ 102)

def artifactName (marker : Bytes) (u : CanonicalUsername) (suffix : Bytes) : Name :=
  dot :: (filename u ++ (marker ++ suffix))

def temporaryName (u : CanonicalUsername) (random : FixedArray UInt8 16) : Name :=
  artifactName tmpMarker u (hexLower random.val)

def tombstoneName (u : CanonicalUsername) (random : FixedArray UInt8 16) : Name :=
  artifactName clearMarker u (hexLower random.val)

/-- `replace_artifact_marker`: the first occurrence of the marker, wherever it is. -/
def replaceArtifactMarker (name old new : Bytes) : Option Name := replaceFirst old new name

/-- The username of `.<username>.hye<marker><32 hexadecimal digits>`. -/
def parseTransactionArtifact (name marker : Bytes) : Option CanonicalUsername :=
  if name.head? ≠ some dot then none
  else
    (List.range (name.length + 1 - marker.length)).findSome? fun offset =>
      if (name.drop offset).take marker.length = marker ∧ 1 ≤ offset then
        match ((name.take offset).drop 1).dropSuffix? hyeExtension with
        | none => none
        | some username =>
          let suffix := name.drop (offset + marker.length)
          if suffix.length = 32 ∧ suffix.all isHexDigit = true then
            (fromUtf8 username).bind fun text => (CanonicalUsername.new text).toOption
          else none
      else none

inductive NamespaceEntryClassification where
  | authoritative (u : CanonicalUsername)
  | temporary
  | staged
  | clear
  | rollback
  | symlink
  | directory
  | hardlink
  | nonUtf8
  | unknown
deriving DecidableEq

def classifyName (name : Name) : NamespaceEntryClassification :=
  match (name.dropSuffix? hyeExtension).bind fun username =>
      (fromUtf8 username).bind fun text => (CanonicalUsername.new text).toOption with
  | some u => .authoritative u
  | none =>
    if (parseTransactionArtifact name tmpMarker).isSome then .temporary
    else if (parseTransactionArtifact name stagedMarker).isSome then .staged
    else if (parseTransactionArtifact name clearMarker).isSome || (utf8Bytes ".bin").isSuffixOf name ||
        (utf8Bytes ".json").isSuffixOf name then .clear
    else if (parseTransactionArtifact name rollbackMarker).isSome then .rollback
    else .unknown

def classifyMode1NamespaceEntry (name : Name) (kind : NodeKind) (nlink : ℕ) : NamespaceEntryClassification :=
  match fromUtf8 name, kind with
  | none, _ => .nonUtf8
  | some _, .symlink => .symlink
  | some _, .directory => .directory
  | some _, .other => .unknown
  | some _, .regular => if nlink ≠ 1 then .hardlink else classifyName name

def classifiedMode1TransactionUsername (name : Name) (classification : NamespaceEntryClassification) :
    Option CanonicalUsername :=
  match classification with
  | .temporary => parseTransactionArtifact name tmpMarker
  | .staged => parseTransactionArtifact name stagedMarker
  | .clear => parseTransactionArtifact name clearMarker
  | .rollback => parseTransactionArtifact name rollbackMarker
  | _ => none

end Howy.Storage.Mode1
