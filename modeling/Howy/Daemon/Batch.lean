import Howy.Importer.Framing
import Howy.Library.Blocks
import Mathlib.Data.List.Sort

/-! How the daemon admits the images of a staged session: which files it opens, and which BMP files it decodes. -/

namespace Howy.Daemon

open Library Storage Importer

def maxBatchDirectoryEntries : ℕ := 1024
def maxBatchFiles : ℕ := 256
def maxBatchEncodedBytesPerFile : ℕ := 8 * 1024 * 1024
def maxBatchTotalEncodedBytes : ℕ := 64 * 1024 * 1024
def maxBatchImageWidth : ℕ := 4096
def maxBatchImageHeight : ℕ := 4096
def maxBatchDecodedBytesPerFile : ℕ := 32 * 1024 * 1024

structure BmpMetadata where
  width : ℕ
  height : ℕ
  pixelOffset : ℕ
  rowStride : ℕ
deriving DecidableEq

structure BatchImageFile where
  displayName : Name
  contents : Bytes
  encodedLen : ℕ
deriving DecidableEq

structure AdmittedBatchImage where
  displayName : Name
  encoded : Bytes
  bmp : BmpMetadata
  decodedBytes : ℕ
deriving DecidableEq

def readLe (n : ℕ) (bytes : Bytes) (offset : ℕ) : Except String ℕ := do
  let field ← context (getRange bytes offset (offset + n)) "truncated BMP header"
  pure (leValue field)

def readI32Le (bytes : Bytes) (offset : ℕ) : Except String ℤ := do
  let field ← context (getRange bytes offset (offset + 4)) "truncated BMP header"
  pure (i32Value field)

def checkPadding (bytes : Bytes) (pixelOffset activeRowBytes rowStride row : ℕ) : Except String Unit := do
  let start ← context (((checkedMul row rowStride).bind (checkedAdd · activeRowBytes)).bind
    (checkedAdd pixelOffset ·)) "BMP padding offset overflowed"
  let stop ← context (((checkedAdd row 1).bind (checkedMul · rowStride)).bind (checkedAdd pixelOffset ·))
    "BMP padding end overflowed"
  let padding ← context (getRange bytes start stop) "BMP padding is truncated"
  failIf (padding.any (· != 0) = true) "BMP row padding is not canonical"

def checkPaddings (bytes : Bytes) (pixelOffset activeRowBytes rowStride : ℕ) : List ℕ → Except String Unit
  | [] => .ok ()
  | row :: rows => do
    checkPadding bytes pixelOffset activeRowBytes rowStride row
    checkPaddings bytes pixelOffset activeRowBytes rowStride rows

def inspectHeader (bytes : Bytes) : Except String (ℕ × ℕ) := do
  failIf (bytes.length < 54 ∨ getRange bytes 0 2 ≠ some (utf8Bytes "BM")) "invalid BMP header"
  let fileSize ← readLe 4 bytes 2
  failIf (fileSize ≠ bytes.length ∨ getRange bytes 6 10 ≠ some [0, 0, 0, 0])
    "BMP file size or reserved fields are invalid"
  let pixelOffset ← readLe 4 bytes 10
  let headerSize ← readLe 4 bytes 14
  failIf (headerSize ≠ 40 ∨ pixelOffset ≠ 54) "only BITMAPINFOHEADER BMP files are supported"
  let widthSigned ← readI32Le bytes 18
  let heightSigned ← readI32Le bytes 22
  failIf (widthSigned ≤ 0 ∨ heightSigned ≤ 0) "BMP dimensions are invalid"
  let width := widthSigned.toNat
  let height := heightSigned.toNat
  failIf (maxBatchImageWidth < width ∨ maxBatchImageHeight < height) "image dimensions exceed the limit"
  let planes ← readLe 2 bytes 26
  let depth ← readLe 2 bytes 28
  let compression ← readLe 4 bytes 30
  failIf (planes ≠ 1 ∨ depth ≠ 24 ∨ compression ≠ 0) "only uncompressed 24-bit BMP files are supported"
  failIf (getRange bytes 38 54 ≠ some (List.replicate 16 0)) "BMP canonical header fields are invalid"
  pure (width, height)

def inspectStrictBmp (bytes : Bytes) : Except String (BmpMetadata × ℕ) := do
  let (width, height) ← inspectHeader bytes
  let decodedBytes ← context ((checkedMul width height).bind (checkedMul · 3)) "decoded image size overflowed"
  failIf (decodedBytes = 0 ∨ maxBatchDecodedBytesPerFile < decodedBytes) "decoded image bytes exceed the limit"
  let activeRowBytes ← context (checkedMul width 3) "BMP row size overflowed"
  let rowStride ← context (strideOf activeRowBytes) "BMP row stride overflowed"
  let pixelBytes ← context (checkedMul rowStride height) "BMP pixel data size overflowed"
  let stop ← context (checkedAdd 54 pixelBytes) "BMP pixel data end overflowed"
  failIf (stop ≠ bytes.length) "BMP pixel data length is invalid"
  checkPaddings bytes 54 activeRowBytes rowStride (List.range height)
  let declaredImageBytes ← readLe 4 bytes 34
  failIf (declaredImageBytes = 0 ∨ declaredImageBytes ≠ pixelBytes) "BMP declared image size is invalid"
  pure (⟨width, height, 54, rowStride⟩, decodedBytes)

def readAndInspect (image : BatchImageFile) : Except String AdmittedBatchImage := do
  let encoded := image.contents.take (maxBatchEncodedBytesPerFile + 1)
  failIf (encoded.length ≠ image.encodedLen ∨ maxBatchEncodedBytesPerFile < encoded.length)
    "image changed size while being admitted"
  let (bmp, decodedBytes) ← inspectStrictBmp encoded
  pure ⟨image.displayName, encoded, bmp, decodedBytes⟩

def extension (name : Name) : Option Name :=
  let tail := (name.reverse.takeWhile (· != 46)).reverse
  if tail.length + 1 < name.length then some tail else none

def toAsciiLowercase (b : UInt8) : UInt8 := if 65 ≤ b ∧ b ≤ 90 then b + 32 else b

def isNormalizedBmpName (name : Name) : Bool :=
  (extension name).any fun e => e.map toAsciiLowercase == utf8Bytes "bmp"

def readDirectoryNames (files : Table Name Bytes) (order : List Name → List Name) : Except String (List Name) := do
  failIf (maxBatchDirectoryEntries < files.keys.length) "session directory contains too many entries"
  pure (order files.keys)

def openImages (files : Table Name Bytes) (totalEncoded : ℕ) : List Name → Except String (List BatchImageFile)
  | [] => .ok []
  | name :: names => do
    let contents ← context (files.lookup name) "session image is unavailable or unsafe"
    failIf (contents.length = 0 ∨ maxBatchEncodedBytesPerFile < contents.length)
      "session image is not a bounded regular file"
    let totalEncoded ← context ((checkedAdd totalEncoded contents.length).filter (· ≤ maxBatchTotalEncodedBytes))
      "batch encoded byte total exceeds the limit"
    let images ← openImages files totalEncoded names
    pure (⟨name, contents, contents.length⟩ :: images)

def openBatchImages (files : Table Name Bytes) (order : List Name → List Name) :
    Except String (List BatchImageFile) := do
  let names ← readDirectoryNames files order
  let imageNames := (names.filter isNormalizedBmpName).mergeSort fun a b => decide (a ≤ b)
  failIf (maxBatchFiles < imageNames.length) "session directory contains too many image files"
  openImages files 0 imageNames

/-- One row of `decode_bmp_as_bgr`; the file keeps its rows from bottom to top. -/
def copyRow (image : AdmittedBatchImage) (activeRowBytes : ℕ) (bgr : Bytes) (outputRow : ℕ) :
    Except String Bytes := do
  let sourceRow := image.bmp.height - 1 - outputRow
  let sourceOffset ← context (checkedMul sourceRow image.bmp.rowStride) "BMP source row offset overflowed"
  let sourceStart ← context (checkedAdd image.bmp.pixelOffset sourceOffset) "BMP source offset overflowed"
  let sourceEnd ← context (checkedAdd sourceStart activeRowBytes) "BMP source row end overflowed"
  let destinationStart ← context (checkedMul outputRow activeRowBytes) "BMP destination row offset overflowed"
  let destinationEnd ← context (checkedAdd destinationStart activeRowBytes) "BMP destination row end overflowed"
  let source ← indexRange image.encoded sourceStart sourceEnd
  let _ ← indexRange bgr destinationStart destinationEnd
  pure (overwrite destinationStart source bgr)

def decodeBmpAsBgr (image : AdmittedBatchImage) : Except String (Bytes × ℕ × ℕ) := do
  let activeRowBytes ← context (checkedMul image.bmp.width 3) "BMP active row size overflowed"
  let bgr ← (List.range image.bmp.height).foldlM (copyRow image activeRowBytes)
    (List.replicate image.decodedBytes 0)
  pure (bgr, image.bmp.width, image.bmp.height)

end Howy.Daemon
