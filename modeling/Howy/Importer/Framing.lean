import Howy.Importer.Bmp
import Howy.Library.Tables

/-! The framed stream between the sandboxed importer and the process that stages its images. -/

namespace Howy.Importer

open Library Storage

def magic : Bytes := utf8Bytes "HOWYIMP1"
def trailer : Bytes := utf8Bytes "DONEIMP1"
def version : UInt32 := 1
def maxFiles : ℕ := 64
def maxTotalOutputBytes : ℕ := 64 * 1024 * 1024

def addOutput (total length : ℕ) (message : String) : Except String ℕ :=
  context ((checkedAdd total length).filter (· ≤ maxTotalOutputBytes)) message

def emitFrames (index totalOutput : ℕ) : List RgbImage → Except String Bytes
  | [] => .ok []
  | image :: images => do
    let bmpLen ← normalizedBmpLen image.width image.height
    let totalOutput ← addOutput totalOutput bmpLen "normalized image output exceeds aggregate limit"
    let number ← u32TryFrom index
    let bmp ← writeNormalizedBmp image.data image.width image.height
    let frames ← emitFrames (index + 1) totalOutput images
    pure (leBytes 4 number.toNat ++ (leBytes 4 image.width.toNat ++ (leBytes 4 image.height.toNat ++
      (leBytes 8 bmpLen ++ (bmp ++ frames)))))

def runHiddenImporter (images : List RgbImage) : Except String Bytes := do
  let count ← u32TryFrom images.length
  let frames ← emitFrames 0 0 images
  pure (magic ++ (leBytes 4 version.toNat ++ (leBytes 4 count.toNat ++ (frames ++ trailer))))

abbrev Name := Bytes

structure Session where
  input : Bytes
  files : Table Name Bytes

abbrev Consumer := StateT Session (Except String)

def readExact (n : ℕ) : Consumer Bytes := fun s =>
  if s.input.length < n then .error "image importer output ended prematurely"
  else .ok (s.input.take n, { s with input := s.input.drop n })

def readU32 : Consumer UInt32 := do
  let bytes ← readExact 4
  pure (UInt32.ofNat (leValue bytes))

def readU64 : Consumer ℕ := do
  let bytes ← readExact 8
  pure (leValue bytes)

def createNew (name : Name) : Consumer Unit := fun s =>
  match s.files.lookup name with
  | some _ => .error "File exists (os error 17)"
  | none => .ok ((), { s with files := s.files.insert name [] })

def writeAll (name : Name) (bytes : Bytes) : Consumer Unit := fun s =>
  .ok ((), { s with files := s.files.insert name ((s.files.lookup name).getD [] ++ bytes) })

def rename (old new : Name) : Consumer Unit := fun s =>
  match s.files.lookup old with
  | none => .error "No such file or directory (os error 2)"
  | some contents => .ok ((), { s with files := (s.files.erase old).insert new contents })

def fourDigits (n : ℕ) : Bytes :=
  let digits := (Nat.toDigits 10 n).map fun c => UInt8.ofNat c.toNat
  List.replicate (4 - digits.length) 48 ++ digits

def temporaryName (index : ℕ) : Name := utf8Bytes ".frame-" ++ (fourDigits index ++ utf8Bytes ".part")
def frameName (index : ℕ) : Name := utf8Bytes "frame-" ++ (fourDigits index ++ utf8Bytes ".bmp")

def copyBuffer : ℕ := 16 * 1024

def copyRemaining (name : Name) : ℕ → ℕ → Consumer Unit
  | 0, _ => pure ()
  | rounds + 1, remaining =>
    if remaining = 0 then pure ()
    else do
      let chunk ← readExact (min remaining copyBuffer)
      writeAll name chunk
      copyRemaining name rounds (remaining - min remaining copyBuffer)

def writeStagedFrame (index : ℕ) (width height : UInt32) (length : ℕ) : Consumer Unit := do
  createNew (temporaryName index)
  let header ← readExact 54
  liftM (validateNormalizedBmpHeader header width height length)
  writeAll (temporaryName index) header
  let remaining ← liftM (context (if 54 ≤ length then some (length - 54) else none) "BMP length underflow")
  copyRemaining (temporaryName index) remaining remaining
  rename (temporaryName index) (frameName index)

def consumeFrames (expectedIndex total : ℕ) : ℕ → Consumer Unit
  | 0 => pure ()
  | remaining + 1 => do
    let index ← readU32
    let width ← readU32
    let height ← readU32
    let length ← readU64
    failIf (index.toNat ≠ expectedIndex ∨ width = 0 ∨ height = 0 ∨ maxWidth < width ∨ maxHeight < height)
      "image importer emitted invalid frame metadata"
    let expected ← liftM (normalizedBmpLen width height)
    failIf (expected ≠ length) "image importer emitted invalid frame metadata"
    let total ← liftM (addOutput total length "image importer output exceeds aggregate limit")
    writeStagedFrame expectedIndex width height length
    consumeFrames (expectedIndex + 1) total remaining

def expectEof : Consumer Unit := fun s =>
  if s.input = [] then .ok ((), s) else .error "image importer emitted trailing bytes after completion"

def consumeFramedStream : Consumer ℕ := do
  let fixed ← readExact 8
  failIf (fixed ≠ magic) "image importer emitted an invalid framing magic"
  let version ← readU32
  failIf (version ≠ Importer.version) s!"unsupported image importer framing version {version}"
  let count ← readU32
  failIf (count = 0 ∨ maxFiles < count.toNat) "image importer emitted an invalid image count"
  consumeFrames 0 0 count.toNat
  let fixed ← readExact 8
  failIf (fixed ≠ trailer) "image importer did not emit a valid completion trailer"
  expectEof
  pure count.toNat

end Howy.Importer
