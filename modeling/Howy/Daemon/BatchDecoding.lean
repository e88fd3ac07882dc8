import Howy.Daemon.Batch
import Howy.Importer.BmpSpec

namespace Howy.Daemon

open Library Storage Importer

variable {image : RgbImage} {rows : List ℕ} {bgr : Bytes} {row : ℕ}

lemma getRange_header {a b : ℕ} (hab : a ≤ b) (hb : b ≤ 54) :
    getRange (bmpBytes image) a b = some (((imageHeader image).take b).drop a) := by
  have hl := length_imageHeader image
  rw [getRange, bmpBytes, if_pos ⟨hab, by rw [List.length_append]; omega⟩,
    List.take_append_of_le_length (by omega)]

lemma getRange_row {k a m : ℕ} (hk : k < image.height.toNat) (ham : a + m ≤ stride image.width.toNat) :
    getRange (bmpBytes image) (54 + (k * stride image.width.toNat + a))
    (54 + (k * stride image.width.toNat + a) + m) =
      some (((storedRow image (image.height.toNat - 1 - k)).drop a).take m) := by
  have hle : (k + 1) * stride image.width.toNat ≤ stride image.width.toNat * image.height.toNat := by
    rw [Nat.mul_comm (stride _)]
    exact Nat.mul_le_mul_right _ hk
  have hk' : k < (storedRows image).length := by
    rw [length_storedRows]
    exact hk
  have hlength : (bmpBytes image).length = 54 + stride image.width.toNat * image.height.toNat := length_bmpBytes
  rw [Nat.succ_mul] at hle
  rw [getRange, if_pos ⟨by omega, by rw [hlength]; omega⟩, List.drop_take, Nat.add_sub_cancel_left, bmpBytes,
    ← length_imageHeader image, List.drop_append, List.drop_eq_nil_of_le (by omega), List.nil_append,
    Nat.add_sub_cancel_left, slice_flatten length_of_mem_storedRows hk' ham, getElem_storedRows hk']

variable (h : Acceptable image.width image.height)

include h

lemma inspectHeader_eq : inspectHeader (bmpBytes image) = .ok (image.width.toNat, image.height.toNat) := by
  have hf := fields_imageHeader h
  have hlen : (bmpBytes image).length = bmpLength image.width.toNat image.height.toNat := length_bmpBytes
  have h54 : ¬ bmpLength image.width.toNat image.height.toNat < 54 := by
    rw [bmpLength]
    omega
  have hw := h.width_le
  have hh := h.height_le
  have hw0 := h.width_pos
  have hh0 := h.height_pos
  simp only [inspectHeader, readLe, readI32Le, bind_eq_ok, failIf_eq_ok, context_eq_ok]
  refine ⟨(), ?_, _, ⟨_, getRange_header (by omega) (by omega), rfl⟩, (), ?_, _,
    ⟨_, getRange_header (by omega) (by omega), rfl⟩, _, ⟨_, getRange_header (by omega) (by omega), rfl⟩, (), ?_, _,
    ⟨_, getRange_header (by omega) (by omega), rfl⟩, _, ⟨_, getRange_header (by omega) (by omega), rfl⟩,
    (), ?_, (), ?_, _,
    ⟨_, getRange_header (by omega) (by omega), rfl⟩, _, ⟨_, getRange_header (by omega) (by omega), rfl⟩, _,
    ⟨_, getRange_header (by omega) (by omega), rfl⟩, (), ?_, (), ?_, ?_⟩
  · rw [getRange_header (by omega) (by omega), hf.magic, hlen]
    simp [h54]
  · rw [getRange_header (by omega) (by omega), hf.fileSize, hf.reserved, leValue_bmpLength h, hlen]
    simp
  · rw [hf.headerSize, hf.pixelOffset, (leValue_small (by decide)).1, (leValue_small (by decide)).1]
    simp
  · rw [hf.width, hf.height, i32Value_leBytes hw, i32Value_leBytes hh]
    omega
  · rw [hf.width, hf.height, i32Value_leBytes hw, i32Value_leBytes hh, maxBatchImageWidth, maxBatchImageHeight]
    omega
  · rw [hf.planes, hf.depth, hf.compression, (leValue_small (by decide)).2, (leValue_small (by decide)).2,
      (leValue_small (by decide)).1]
    simp
  · rw [getRange_header (by omega) (by omega), hf.rest]
    simp
  · rw [hf.width, hf.height, i32Value_leBytes hw, i32Value_leBytes hh]
    simp

lemma checkPadding_eq (hr : row < image.height.toNat) :
    checkPadding (bmpBytes image) 54 (image.width.toNat * 3) (stride image.width.toNat) row = .ok () := by
  have hs := le_stride image.width.toNat
  have hs' := stride_le h.width_le
  have hsum : image.width.toNat * 3 + (stride image.width.toNat - image.width.toNat * 3) =
      stride image.width.toNat := by
    omega
  have hrow := Nat.mul_le_mul (hr.le.trans h.height_le) hs'
  have hpad := getRange_row hr hsum.le
  have hpadding : ((storedRow image (image.height.toNat - 1 - row)).drop (image.width.toNat * 3)).take
      (stride image.width.toNat - image.width.toNat * 3) =
      List.replicate (stride image.width.toNat - image.width.toNat * 3) 0 := by
    rw [storedRow, List.drop_left' (length_pixels (by omega)), List.take_of_length_le
      (by rw [List.length_replicate])]
  have hend : 54 + (row * stride image.width.toNat + image.width.toNat * 3) +
      (stride image.width.toNat - image.width.toNat * 3) = 54 + (row + 1) * stride image.width.toNat := by
    rw [Nat.succ_mul]
    omega
  rw [hend, hpadding] at hpad
  simp only [checkPadding, bind_eq_ok, context_eq_ok, Option.bind_eq_some_iff, checkedMul_eq_some,
    checkedAdd_eq_some, failIf_eq_ok]
  refine ⟨_, ⟨_, ⟨_, ⟨by omega, rfl⟩, by omega, rfl⟩, by omega, rfl⟩, _,
    ⟨_, ⟨_, ⟨by have := h.height_le; omega, rfl⟩, by omega, rfl⟩, by omega, rfl⟩, _, hpad, ?_⟩
  simp

lemma checkPaddings_eq (hr : ∀ row ∈ rows, row < image.height.toNat) :
    checkPaddings (bmpBytes image) 54 (image.width.toNat * 3) (stride image.width.toNat) rows = .ok () := by
  induction rows with
  | nil => rfl
  | cons row rows ih =>
    rw [checkPaddings, checkPadding_eq h (hr row List.mem_cons_self)]
    exact ih fun r hm => hr r (List.mem_cons_of_mem row hm)

def metadataOf (image : RgbImage) : BmpMetadata :=
  ⟨image.width.toNat, image.height.toNat, 54, stride image.width.toNat⟩

lemma inspectStrictBmp_eq :
    inspectStrictBmp (bmpBytes image) = .ok (metadataOf image, image.width.toNat * image.height.toNat * 3) := by
  have hw := h.width_le
  have hmax : maxBatchDecodedBytesPerFile = 33554432 := rfl
  have hpixels := h.pixels_le
  have hpos := Nat.mul_pos h.width_pos h.height_pos
  have hs := stride_mul_le h.width_le h.height_le
  have hspos : 0 < stride image.width.toNat * image.height.toNat :=
    Nat.mul_pos (by have := le_stride image.width.toNat; have := h.width_pos; omega) h.height_pos
  have hlen : (bmpBytes image).length = 54 + stride image.width.toNat * image.height.toNat := length_bmpBytes
  have hpadding := checkPaddings_eq h fun row hr => List.mem_range.mp hr
  have hdeclared : readLe 4 (bmpBytes image) 34 = .ok (stride image.width.toNat * image.height.toNat) := by
    rw [readLe, getRange_header (by omega) (by omega), (fields_imageHeader h).imageSize]
    exact congrArg Except.ok (leValue_imageSize h)
  simp only [inspectStrictBmp, inspectHeader_eq h, ok_bind, bind_eq_ok, context_eq_ok, Option.bind_eq_some_iff,
    checkedMul_eq_some, checkedAdd_eq_some, failIf_eq_ok, pure_eq_ok, hmax, hlen]
  exact ⟨_, ⟨_, ⟨by omega, rfl⟩, by omega, rfl⟩, (), by omega, _, ⟨by omega, rfl⟩, _, strideOf_eq hw, _,
    ⟨by omega, rfl⟩, _, ⟨by omega, rfl⟩, (), by omega, (), hpadding, _, hdeclared, (), by omega, rfl⟩

variable (name : Importer.Name)

def admittedOf (image : RgbImage) : AdmittedBatchImage :=
  ⟨name, bmpBytes image, metadataOf image, image.width.toNat * image.height.toNat * 3⟩

lemma copyRow_eq
    (hr : row < image.height.toNat) (hb : bgr.length = image.height.toNat * (image.width.toNat * 3)) :
    copyRow (admittedOf name image) (image.width.toNat * 3) bgr row =
      .ok (overwrite (row * (image.width.toNat * 3))
        (swapPixels (block (image.width.toNat * 3) row image.data)) bgr) := by
  have hs := le_stride image.width.toNat
  have hs' := stride_le h.width_le
  have hh := h.height_le
  have hsource : image.height.toNat - 1 - row < image.height.toNat := by omega
  have hback : image.height.toNat - 1 - (image.height.toNat - 1 - row) = row := by omega
  have hslice := getRange_row hsource (a := 0) (m := image.width.toNat * 3) (by omega)
  have hpixels : ((storedRow image row).drop 0).take (image.width.toNat * 3) =
      swapPixels (block (image.width.toNat * 3) row image.data) := by
    rw [List.drop_zero, storedRow, List.take_left' (length_pixels hr)]
  have hle : (row + 1) * (image.width.toNat * 3) ≤ image.height.toNat * (image.width.toNat * 3) :=
    Nat.mul_le_mul_right _ hr
  have hbound : image.height.toNat * (image.width.toNat * 3) ≤ 4096 * 12288 := Nat.mul_le_mul hh (by omega)
  have hoffset : (image.height.toNat - 1 - row) * stride image.width.toNat ≤ 4096 * 12288 :=
    Nat.mul_le_mul (by omega) hs'
  have hdestination : getRange bgr (row * (image.width.toNat * 3))
      (row * (image.width.toNat * 3) + image.width.toNat * 3) ≠ none := by
    rw [Nat.succ_mul] at hle
    rw [getRange, if_pos ⟨by omega, by omega⟩]
    exact Option.some_ne_none _
  obtain ⟨old, hold⟩ := Option.ne_none_iff_exists'.mp hdestination
  rw [hback, hpixels] at hslice
  rw [Nat.succ_mul] at hle
  simp only [copyRow, admittedOf, metadataOf, indexRange, bind_eq_ok, context_eq_ok, checkedMul_eq_some,
    checkedAdd_eq_some, pure_eq_ok]
  exact ⟨_, ⟨by omega, rfl⟩, _, ⟨by omega, rfl⟩, _, ⟨by omega, rfl⟩, _, ⟨by omega, rfl⟩, _,
    ⟨by omega, rfl⟩, _, hslice, _, hold, rfl⟩

lemma foldlM_copyRow (hr : ∀ row ∈ rows, row < image.height.toNat)
    (hb : bgr.length = image.height.toNat * (image.width.toNat * 3)) :
    rows.foldlM (copyRow (admittedOf name image) (image.width.toNat * 3)) bgr =
      .ok (rows.foldl (fun bgr row => overwrite (row * (image.width.toNat * 3))
        (swapPixels (block (image.width.toNat * 3) row image.data)) bgr) bgr) := by
  induction rows generalizing bgr with
  | nil => rfl
  | cons row rows ih =>
    have hrow := hr row List.mem_cons_self
    have hle : (row + 1) * (image.width.toNat * 3) ≤ image.height.toNat * (image.width.toNat * 3) :=
      Nat.mul_le_mul_right _ hrow
    rw [Nat.succ_mul] at hle
    rw [List.foldlM_cons, copyRow_eq h name hrow hb, ok_bind]
    apply ih fun r hm => hr r (List.mem_cons_of_mem row hm)
    rw [length_overwrite, hb]
    rw [length_pixels hrow]
    omega

lemma decodeBmpAsBgr_eq :
    decodeBmpAsBgr (admittedOf name image) = .ok (image.bgr, image.width.toNat, image.height.toNat) := by
  have hw := h.width_le
  have hsize : image.width.toNat * image.height.toNat * 3 = image.height.toNat * (image.width.toNat * 3) := by
    rw [Nat.mul_comm image.width.toNat, Nat.mul_assoc]
  have hfold := foldlM_copyRow h name (fun row hr => List.mem_range.mp hr)
    ((List.length_replicate (a := (0 : UInt8))).trans hsize)
  have hfill := foldl_overwrite (l := List.replicate (image.width.toNat * image.height.toNat * 3) (0 : UInt8))
    (fun row (hr : row < image.height.toNat) => length_pixels hr) le_rfl
  have hrows : ((List.range image.height.toNat).map fun row =>
      swapPixels (block (image.width.toNat * 3) row image.data)).flatten = image.bgr := by
    have hmem : ∀ row ∈ (List.range image.height.toNat).map (block (image.width.toNat * 3) · image.data),
        row.length = image.width.toNat * 3 := by
      intro row hrow
      obtain ⟨k, hk, rfl⟩ := List.mem_map.mp hrow
      exact length_block image.length_data (List.mem_range.mp hk)
    have hflat := swapPixels_flatten hmem
    rw [flatten_blocks image.length_data, swapPixels_data, List.map_map] at hflat
    exact hflat.symm
  rw [hrows, List.drop_eq_nil_of_le (by rw [List.length_replicate, hsize]), List.append_nil] at hfill
  rw [hfill] at hfold
  simp only [decodeBmpAsBgr, bind_eq_ok, context_eq_ok, checkedMul_eq_some]
  exact ⟨_, ⟨by simp only [admittedOf, metadataOf]; omega, rfl⟩, _, hfold, rfl⟩

end Howy.Daemon
