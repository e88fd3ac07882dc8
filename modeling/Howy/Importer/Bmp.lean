import Howy.Storage.Howyenc1

/-! The uncompressed BMP files that the importer writes for decoded images. -/

namespace Howy.Importer

open Library Storage

def maxWidth : UInt32 := 4096
def maxHeight : UInt32 := 4096
def maxPixelBytes : ℕ := 32 * 1024 * 1024

structure RgbImage where
  width : UInt32
  height : UInt32
  data : Bytes
  length_data : data.length = height.toNat * (width.toNat * 3)
deriving DecidableEq

def RgbImage.bgr (image : RgbImage) : Bytes :=
  (List.range (image.height.toNat * image.width.toNat)).flatMap fun p =>
    [image.data.getD (p * 3 + 2) 0, image.data.getD (p * 3 + 1) 0, image.data.getD (p * 3) 0]

def context {α : Type} (x : Option α) (message : String) : Except String α :=
  match x with
  | some a => .ok a
  | none => .error message

lemma context_some {α : Type} (a : α) (message : String) : context (some a) message = .ok a := rfl

@[simp] lemma context_eq_ok {α : Type} {x : Option α} {message : String} {a : α} :
    context x message = .ok a ↔ x = some a := by
  cases x with
  | none | some b => simp [context]

def tryFromIntError : String := "out of range integral type conversion attempted"

def u32TryFrom (n : ℕ) : Except String UInt32 :=
  if n < 2 ^ 32 then .ok (UInt32.ofNat n) else .error tryFromIntError

def i32TryFrom (n : UInt32) : Except String ℤ := if n.toNat < 2 ^ 31 then .ok n.toNat else .error tryFromIntError

def clearLowBits (value : ℕ) : ℕ := value / 4 * 4

def strideOf (rowBytes : ℕ) : Option ℕ := (checkedAdd rowBytes 3).map clearLowBits

def normalizedBmpLen (width height : UInt32) : Except String ℕ := do
  failIf (width = 0 ∨ height = 0 ∨ maxWidth < width ∨ maxHeight < height) "invalid normalized image dimensions"
  let row ← context (checkedMul width.toNat 3) "BMP row overflow"
  let stride ← context (strideOf row) "BMP stride overflow"
  let pixels ← context (checkedMul stride height.toNat) "BMP size overflow"
  let activePixels ← context ((checkedMul width.toNat height.toNat).bind (checkedMul · 3))
    "BMP active pixel size overflow"
  failIf (maxPixelBytes < activePixels) "normalized image exceeds pixel limit"
  context (checkedAdd 54 pixels) "BMP length overflow"

def swapPixels : Bytes → Bytes
  | r :: g :: b :: rest => b :: g :: r :: swapPixels rest
  | _ => []

def indexRange (bytes : Bytes) (start stop : ℕ) : Except String Bytes :=
  context (getRange bytes start stop) "range end index out of range for slice"

def writeRow (rgb : Bytes) (rowBytes stride row : ℕ) : Except String Bytes := do
  let start ← context (checkedMul row rowBytes) "row offset overflow"
  let stop ← context (checkedAdd start rowBytes) "row end overflow"
  let pixels ← indexRange rgb start stop
  pure (swapPixels pixels ++ List.replicate (stride - rowBytes) 0)

def writeRows (rgb : Bytes) (rowBytes stride : ℕ) : List ℕ → Except String Bytes
  | [] => .ok []
  | row :: rows => do
    let written ← writeRow rgb rowBytes stride row
    let rest ← writeRows rgb rowBytes stride rows
    pure (written ++ rest)

def bmpHeader (fileSize width height imageSize : UInt32) : Bytes :=
  utf8Bytes "BM" ++ (leBytes 4 fileSize.toNat ++ (leBytes 4 0 ++ (leBytes 4 54 ++ (leBytes 4 40 ++
    (leBytes 4 width.toNat ++ (leBytes 4 height.toNat ++ (leBytes 2 1 ++ (leBytes 2 24 ++ (leBytes 4 0 ++
      (leBytes 4 imageSize.toNat ++ List.replicate 16 0))))))))))

def writeNormalizedBmp (rgb : Bytes) (width height : UInt32) : Except String Bytes := do
  let length ← normalizedBmpLen width height
  let rowBytes ← context (checkedMul width.toNat 3) "row overflow"
  let stride ← context (strideOf rowBytes) "stride overflow"
  let pixels ← context (checkedMul rowBytes height.toNat) "pixel overflow"
  failIf (rgb.length ≠ pixels) "decoded RGB length mismatch"
  let fileSize ← u32TryFrom length
  let _ ← i32TryFrom width
  let _ ← i32TryFrom height
  let imageSize ← u32TryFrom (length - 54)
  let rows ← writeRows rgb rowBytes stride (List.range height.toNat).reverse
  pure (bmpHeader fileSize width height imageSize ++ rows)

def i32Value (bytes : Bytes) : ℤ :=
  if leValue bytes < 2 ^ 31 then (leValue bytes : ℤ) else (leValue bytes : ℤ) - 2 ^ 32

def invalidHeader : String := "image importer emitted an invalid normalized BMP header"

def validateNormalizedBmpHeader (header : Bytes) (width height : UInt32) (length : ℕ) : Except String Unit := do
  let field (start stop : ℕ) := (header.take stop).drop start
  failIf (field 0 2 ≠ utf8Bytes "BM" ∨ leValue (field 2 6) ≠ length ∨ field 6 10 ≠ [0, 0, 0, 0] ∨
    leValue (field 10 14) ≠ 54 ∨ leValue (field 14 18) ≠ 40) invalidHeader
  let w ← i32TryFrom width
  failIf (i32Value (field 18 22) ≠ w) invalidHeader
  let h ← i32TryFrom height
  failIf (i32Value (field 22 26) ≠ h ∨ leValue (field 26 28) ≠ 1 ∨ leValue (field 28 30) ≠ 24 ∨
    leValue (field 30 34) ≠ 0 ∨ leValue (field 34 38) ≠ length - 54 ∨
    field 38 54 ≠ List.replicate 16 0) invalidHeader

end Howy.Importer
