import Howy.Importer.Bmp
import Howy.Library.Blocks

/-! The bytes of a normalized BMP file, in closed form. -/

namespace Howy.Importer

open Library Storage

def stride (width : ℕ) : ℕ := (width * 3 + 3) / 4 * 4

lemma le_stride (width : ℕ) : width * 3 ≤ stride width := by
  rw [stride]
  omega

def bmpLength (width height : ℕ) : ℕ := 54 + stride width * height

structure Acceptable (width height : UInt32) : Prop where
  width_pos : 0 < width.toNat
  height_pos : 0 < height.toNat
  width_le : width.toNat ≤ 4096
  height_le : height.toNat ≤ 4096
  pixels_le : width.toNat * height.toNat * 3 ≤ 33554432

variable {n row width : ℕ} {l : Bytes}

lemma strideOf_eq (h : width ≤ 4096) : strideOf (width * 3) = some (stride width) := by
  have hsum : checkedAdd (width * 3) 3 = some (width * 3 + 3) := checkedAdd_eq_some.mpr ⟨by omega, rfl⟩
  rw [strideOf, hsum]
  rfl

lemma stride_le (h : width ≤ 4096) : stride width ≤ 12288 := by
  rw [stride]
  omega

lemma stride_mul_le {height : ℕ} (hw : width ≤ 4096) (hh : height ≤ 4096) : stride width * height ≤ 50331648 :=
  Nat.mul_le_mul (stride_le hw) hh

lemma normalizedBmpLen_eq_ok {width height : UInt32} {length : ℕ} : normalizedBmpLen width height = .ok length ↔
      Acceptable width height ∧ length = bmpLength width.toNat height.toNat := by
  have hzero (n : UInt32) : n = 0 ↔ n.toNat = 0 := UInt32.toNat_inj.symm
  have hw : maxWidth.toNat = 4096 := rfl
  have hh : maxHeight.toNat = 4096 := rfl
  have hm : maxPixelBytes = 33554432 := rfl
  simp only [normalizedBmpLen, bind_eq_ok, failIf_eq_ok, context_eq_ok, checkedMul_eq_some, checkedAdd_eq_some,
    Option.bind_eq_some_iff, hzero, UInt32.lt_iff_toNat_lt, hw, hh, hm, not_or, Nat.not_lt]
  constructor
  · rintro ⟨⟨⟩, ⟨hw0, hh0, hwle, hhle⟩, _, ⟨-, rfl⟩, s, hs, _, ⟨-, rfl⟩, _, ⟨_, ⟨-, rfl⟩, -, rfl⟩, ⟨⟩, hle, -, rfl⟩
    rw [strideOf_eq hwle, Option.some.injEq] at hs
    subst hs
    exact ⟨⟨Nat.pos_of_ne_zero hw0, Nat.pos_of_ne_zero hh0, hwle, hhle, hle⟩, rfl⟩
  · rintro ⟨⟨hw0, hh0, hwle, hhle, hle⟩, rfl⟩
    have hs := stride_mul_le hwle hhle
    exact ⟨(), ⟨by omega, by omega, hwle, hhle⟩, _, ⟨by omega, rfl⟩, _, strideOf_eq hwle, _, ⟨by omega, rfl⟩, _,
      ⟨_, ⟨by omega, rfl⟩, by omega, rfl⟩, (), hle, by omega, rfl⟩

lemma exists_pixel (h : l.length = (n + 1) * 3) : ∃ r g b rest, l = r :: g :: b :: rest ∧ rest.length = n * 3 := by
  obtain _ | ⟨r, _ | ⟨g, _ | ⟨b, rest⟩⟩⟩ := l
  all_goals simp only [List.length_nil, List.length_cons] at h
  · omega
  · omega
  · omega
  · exact ⟨r, g, b, rest, rfl, by omega⟩

lemma eq_nil_of_no_pixel (h : l.length = 0 * 3) : l = [] := List.eq_nil_of_length_eq_zero (by omega)

lemma length_swapPixels (h : l.length = n * 3) : (swapPixels l).length = n * 3 := by
  induction n generalizing l with
  | zero =>
    rw [eq_nil_of_no_pixel h]
    rfl
  | succ n ih =>
    obtain ⟨r, g, b, rest, rfl, hrest⟩ := exists_pixel h
    simp only [swapPixels, List.length_cons, ih hrest]
    omega

lemma swapPixels_append {a : Bytes} (h : a.length = n * 3) (b : Bytes) :
    swapPixels (a ++ b) = swapPixels a ++ swapPixels b := by
  induction n generalizing a with
  | zero =>
    rw [eq_nil_of_no_pixel h]
    rfl
  | succ n ih =>
    obtain ⟨r, g, c, rest, rfl, hrest⟩ := exists_pixel h
    simp [swapPixels, ih hrest]

lemma swapPixels_flatten {rows : List Bytes} (h : ∀ row ∈ rows, row.length = n * 3) :
    swapPixels rows.flatten = (rows.map swapPixels).flatten := by
  induction rows with
  | nil => rfl
  | cons row rows ih =>
    rw [List.flatten_cons, swapPixels_append (h row List.mem_cons_self), List.map_cons, List.flatten_cons,
      ih fun r hr => h r (List.mem_cons_of_mem row hr)]

lemma swapPixels_eq (h : l.length = n * 3) :
    swapPixels l = (List.range n).flatMap fun p =>
    [l.getD (p * 3 + 2) 0, l.getD (p * 3 + 1) 0, l.getD (p * 3) 0] := by
  induction n generalizing l with
  | zero =>
    rw [eq_nil_of_no_pixel h]
    rfl
  | succ n ih =>
    obtain ⟨r, g, b, rest, rfl, hrest⟩ := exists_pixel h
    have hshift (p k : ℕ) : (r :: g :: b :: rest).getD ((p + 1) * 3 + k) 0 = rest.getD (p * 3 + k) 0 := by
      rw [show (p + 1) * 3 + k = p * 3 + k + 1 + 1 + 1 by omega]
      rfl
    have hshift₀ (p : ℕ) : (r :: g :: b :: rest).getD ((p + 1) * 3) 0 = rest.getD (p * 3) 0 := hshift p 0
    rw [swapPixels, ih hrest, List.range_succ_eq_map, List.flatMap_cons, List.flatMap_map]
    simp only [hshift, hshift₀]
    rfl

lemma swapPixels_data (image : RgbImage) : swapPixels image.data = image.bgr := by
  have h : image.data.length = image.height.toNat * image.width.toNat * 3 := by
    rw [image.length_data, Nat.mul_assoc]
  exact swapPixels_eq h

def storedRow (image : RgbImage) (row : ℕ) : Bytes :=
  swapPixels (block (image.width.toNat * 3) row image.data) ++
    List.replicate (stride image.width.toNat - image.width.toNat * 3) 0

def storedRows (image : RgbImage) : List Bytes := (List.range image.height.toNat).reverse.map (storedRow image)

def imageHeader (image : RgbImage) : Bytes :=
  bmpHeader (UInt32.ofNat (bmpLength image.width.toNat image.height.toNat)) image.width image.height
    (UInt32.ofNat (stride image.width.toNat * image.height.toNat))

def bmpBytes (image : RgbImage) : Bytes := imageHeader image ++ (storedRows image).flatten

variable {image : RgbImage}

lemma length_pixels (h : row < image.height.toNat) :
    (swapPixels (block (image.width.toNat * 3) row image.data)).length = image.width.toNat * 3 :=
  length_swapPixels (length_block image.length_data h)

lemma length_storedRow (h : row < image.height.toNat) :
    (storedRow image row).length = stride image.width.toNat := by
  have hs := le_stride image.width.toNat
  rw [storedRow, List.length_append, length_pixels h, List.length_replicate]
  omega

lemma length_of_mem_storedRows : ∀ row ∈ storedRows image, row.length = stride image.width.toNat := by
  intro row hrow
  obtain ⟨k, hk, rfl⟩ := List.mem_map.mp hrow
  exact length_storedRow (List.mem_range.mp (List.mem_reverse.mp hk))

lemma length_storedRows : (storedRows image).length = image.height.toNat := by
  rw [storedRows, List.length_map, List.length_reverse, List.length_range]

lemma getElem_storedRows {k : ℕ} (h : k < (storedRows image).length) :
    (storedRows image)[k] = storedRow image (image.height.toNat - 1 - k) := by
  simp [storedRows]

lemma length_imageHeader (image : RgbImage) : (imageHeader image).length = 54 := by
  have h : (utf8Bytes "BM").length = 2 := by decide
  simp [imageHeader, bmpHeader, h]

lemma length_bmpBytes : (bmpBytes image).length = bmpLength image.width.toNat image.height.toNat := by
  rw [bmpBytes, List.length_append, length_imageHeader, length_flatten length_of_mem_storedRows, length_storedRows,
    bmpLength, Nat.mul_comm]

lemma writeRow_eq (h : Acceptable image.width image.height) (hr : row < image.height.toNat) :
    writeRow image.data (image.width.toNat * 3) (stride image.width.toNat) row = .ok (storedRow image row) := by
  have hle : (row + 1) * (image.width.toNat * 3) ≤ image.height.toNat * (image.width.toNat * 3) :=
    Nat.mul_le_mul_right _ hr
  have hbound : image.height.toNat * (image.width.toNat * 3) ≤ 4096 * (4096 * 3) :=
    Nat.mul_le_mul h.height_le (Nat.mul_le_mul_right 3 h.width_le)
  rw [Nat.succ_mul] at hle
  have hrange : getRange image.data (row * (image.width.toNat * 3))
      (row * (image.width.toNat * 3) + image.width.toNat * 3) =
        some (block (image.width.toNat * 3) row image.data) := by
    rw [getRange, if_pos ⟨by omega, by rw [image.length_data]; omega⟩, block, List.drop_take,
      Nat.add_sub_cancel_left]
  simp only [writeRow, indexRange, bind_eq_ok, context_eq_ok, checkedMul_eq_some, checkedAdd_eq_some]
  exact ⟨_, ⟨by omega, rfl⟩, _, ⟨by omega, rfl⟩, _, hrange, rfl⟩

lemma writeRows_eq (h : Acceptable image.width image.height) {rows : List ℕ}
    (hr : ∀ row ∈ rows, row < image.height.toNat) :
    writeRows image.data (image.width.toNat * 3) (stride image.width.toNat) rows =
      .ok (rows.map (storedRow image)).flatten := by
  induction rows with
  | nil => rfl
  | cons row rows ih =>
    rw [writeRows, writeRow_eq h (hr row List.mem_cons_self), ok_bind,
      ih fun r hm => hr r (List.mem_cons_of_mem row hm), ok_bind]
    rfl

lemma u32TryFrom_eq (h : n < 2 ^ 32) : u32TryFrom n = .ok (UInt32.ofNat n) := if_pos h

lemma i32TryFrom_eq {n : UInt32} (h : n.toNat ≤ 4096) : i32TryFrom n = .ok (n.toNat : ℤ) := if_pos (by omega)

lemma writeNormalizedBmp_eq (h : Acceptable image.width image.height) :
    writeNormalizedBmp image.data image.width image.height = .ok (bmpBytes image) := by
  have hlen := normalizedBmpLen_eq_ok.mpr ⟨h, rfl⟩
  have hs := stride_mul_le h.width_le h.height_le
  have hb : bmpLength image.width.toNat image.height.toNat = 54 + stride image.width.toNat * image.height.toNat :=
    rfl
  have hpix : image.width.toNat * 3 * image.height.toNat ≤ 4096 * 3 * 4096 :=
    Nat.mul_le_mul (Nat.mul_le_mul_right 3 h.width_le) h.height_le
  have hmem : ∀ row ∈ (List.range image.height.toNat).reverse, row < image.height.toNat :=
    fun row hr => List.mem_range.mp (List.mem_reverse.mp hr)
  have hrows := writeRows_eq h hmem
  have hsize : bmpLength image.width.toNat image.height.toNat - 54 = stride image.width.toNat *
      image.height.toNat := by
    omega
  simp only [writeNormalizedBmp, bind_eq_ok, context_eq_ok, checkedMul_eq_some, failIf_eq_ok, not_not]
  refine ⟨_, hlen, _, ⟨by have := h.width_le; omega, rfl⟩, _, strideOf_eq h.width_le, _,
    ⟨by omega, rfl⟩, (), ?_, _, u32TryFrom_eq (by omega), _, i32TryFrom_eq h.width_le, _,
    i32TryFrom_eq h.height_le, _,
    u32TryFrom_eq (by omega), _, hrows, ?_⟩
  · rw [image.length_data, Nat.mul_comm]
  · rw [hsize]
    rfl

structure Fields (header : Bytes) (fileSize width height imageSize : ℕ) : Prop where
  magic : (header.take 2).drop 0 = utf8Bytes "BM"
  fileSize : (header.take 6).drop 2 = leBytes 4 fileSize
  reserved : (header.take 10).drop 6 = [0, 0, 0, 0]
  pixelOffset : (header.take 14).drop 10 = leBytes 4 54
  headerSize : (header.take 18).drop 14 = leBytes 4 40
  width : (header.take 22).drop 18 = leBytes 4 width
  height : (header.take 26).drop 22 = leBytes 4 height
  planes : (header.take 28).drop 26 = leBytes 2 1
  depth : (header.take 30).drop 28 = leBytes 2 24
  compression : (header.take 34).drop 30 = leBytes 4 0
  imageSize : (header.take 38).drop 34 = leBytes 4 imageSize
  rest : (header.take 54).drop 38 = List.replicate 16 0

lemma fields_bmpHeader (fileSize width height imageSize : UInt32) :
    Fields (bmpHeader fileSize width height imageSize) fileSize.toNat width.toNat height.toNat
    imageSize.toNat := by
  have hmagic : utf8Bytes "BM" = [66, 77] := by decide
  exact ⟨hmagic.symm, rfl, rfl, rfl, rfl, rfl, rfl, rfl, rfl, rfl, rfl, rfl⟩

section

variable (h : Acceptable image.width image.height)

include h

lemma fields_imageHeader :
    Fields (imageHeader image) (bmpLength image.width.toNat image.height.toNat) image.width.toNat
      image.height.toNat (stride image.width.toNat * image.height.toNat) := by
  have hs := stride_mul_le h.width_le h.height_le
  have hfile : (UInt32.ofNat (bmpLength image.width.toNat image.height.toNat)).toNat =
      bmpLength image.width.toNat image.height.toNat := by
    apply UInt32.toNat_ofNat_of_lt'
    change 54 + stride image.width.toNat * image.height.toNat < 2 ^ 32
    omega
  have himage : (UInt32.ofNat (stride image.width.toNat * image.height.toNat)).toNat =
      stride image.width.toNat * image.height.toNat := by
    apply UInt32.toNat_ofNat_of_lt'
    change stride image.width.toNat * image.height.toNat < 2 ^ 32
    omega
  have hf :=
    fields_bmpHeader (UInt32.ofNat (bmpLength image.width.toNat image.height.toNat)) image.width image.height
    (UInt32.ofNat (stride image.width.toNat * image.height.toNat))
  rw [hfile, himage] at hf
  exact hf

lemma leValue_bmpLength : leValue (leBytes 4 (bmpLength image.width.toNat image.height.toNat)) =
      bmpLength image.width.toNat image.height.toNat := by
  have hs := stride_mul_le h.width_le h.height_le
  apply leValue_leBytes
  change 54 + stride image.width.toNat * image.height.toNat < 256 ^ 4
  omega

lemma leValue_imageSize : leValue (leBytes 4 (stride image.width.toNat * image.height.toNat)) =
      stride image.width.toNat * image.height.toNat := by
  have hs := stride_mul_le h.width_le h.height_le
  exact leValue_leBytes (by omega)

end

lemma i32Value_leBytes (h : n ≤ 4096) : i32Value (leBytes 4 n) = (n : ℤ) := by
  rw [i32Value, leValue_leBytes (by omega), if_pos (by omega)]

lemma leValue_small (h : n < 256) : leValue (leBytes 4 n) = n ∧ leValue (leBytes 2 n) = n :=
  ⟨leValue_leBytes (by omega), leValue_leBytes (by omega)⟩

lemma validateNormalizedBmpHeader_eq (h : Acceptable image.width image.height) :
    validateNormalizedBmpHeader (imageHeader image) image.width image.height
      (bmpLength image.width.toNat image.height.toNat) = .ok () := by
  have hf := fields_imageHeader h
  have hb : bmpLength image.width.toNat image.height.toNat - 54 = stride image.width.toNat * image.height.toNat :=
    Nat.add_sub_cancel_left _ _
  simp only [validateNormalizedBmpHeader, hf.magic, hf.fileSize, hf.reserved, hf.pixelOffset,
    hf.headerSize, hf.width, hf.height, hf.planes, hf.depth, hf.compression, hf.imageSize, hf.rest,
    i32Value_leBytes h.width_le,
    i32Value_leBytes h.height_le, i32TryFrom_eq h.width_le, i32TryFrom_eq h.height_le, bind_eq_ok, failIf_eq_ok,
    leValue_bmpLength h, leValue_imageSize h, (leValue_small (by decide : 54 < 256)).1,
    (leValue_small (by decide : 40 < 256)).1, (leValue_small (by decide : 1 < 256)).2,
    (leValue_small (by decide : 24 < 256)).2, (leValue_small (by decide : 0 < 256)).1, hb]
  simp

end Howy.Importer
