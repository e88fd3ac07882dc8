import Howy.Importer.BmpSpec
import Howy.Importer.Framing

/-! What the staging process makes of the stream that the importer emits. -/

namespace Howy.Importer

open Library Storage

def normalizedLength (image : RgbImage) : ℕ := bmpLength image.width.toNat image.height.toNat

def totalLength (images : List RgbImage) : ℕ := (images.map normalizedLength).sum

def framesBytes (index : ℕ) : List RgbImage → Bytes
  | [] => []
  | image :: images =>
    leBytes 4 index ++ (leBytes 4 image.width.toNat ++ (leBytes 4 image.height.toNat ++
      (leBytes 8 (normalizedLength image) ++ (bmpBytes image ++ framesBytes (index + 1) images))))

def stagedFiles (index : ℕ) (files : Table Name Bytes) : List RgbImage → Table Name Bytes
  | [] => files
  | image :: images => stagedFiles (index + 1) (files.insert (frameName index) (bmpBytes image)) images

variable {image : RgbImage} {images : List RgbImage} {files : Table Name Bytes} {rest input a old : Bytes}
  {index total n : ℕ} {name : Name}

lemma addOutput_eq {length : ℕ} (h : total + length ≤ maxTotalOutputBytes) {message : String} :
    addOutput total length message = .ok (total + length) := by
  have hmax : maxTotalOutputBytes = 67108864 := rfl
  have hsum : checkedAdd total length = some (total + length) := checkedAdd_eq_some.mpr ⟨by omega, rfl⟩
  rw [addOutput, hsum]
  simp [h]

lemma emitFrames_eq (hacc : ∀ image ∈ images, Acceptable image.width image.height)
    (hindex : index + images.length < 2 ^ 32) (htotal : total + totalLength images ≤ maxTotalOutputBytes) :
    emitFrames index total images = .ok (framesBytes index images) := by
  induction images generalizing index total with
  | nil => rfl
  | cons image images ih =>
    have himage := hacc image List.mem_cons_self
    rw [totalLength, List.map_cons, List.sum_cons] at htotal
    rw [List.length_cons] at hindex
    have hrest := @ih (index + 1) (total + normalizedLength image)
      (fun i hi => hacc i (List.mem_cons_of_mem image hi)) (by omega) (by rw [totalLength]; omega)
    have hnumber := UInt32.toNat_ofNat_of_lt' (show index < 2 ^ 32 by omega)
    simp only [emitFrames, bind_eq_ok]
    refine ⟨_, normalizedBmpLen_eq_ok.mpr ⟨himage, rfl⟩, _,
      addOutput_eq (by rw [normalizedLength] at htotal; omega), _,
      u32TryFrom_eq (by omega), _, writeNormalizedBmp_eq himage, _, hrest, ?_⟩
    rw [hnumber]
    rfl

lemma accepts_readExact (h : a.length = n) : Accepts (readExact n) ⟨a ++ rest, files⟩ a ⟨rest, files⟩ := by
  subst h
  simp only [Accepts, StateT.run, readExact, List.length_append, List.take_left', List.drop_left']
  rw [if_neg (by omega)]

lemma accepts_readU32 {v : UInt32} (h : v.toNat = n) :
    Accepts readU32 ⟨leBytes 4 n ++ rest, files⟩ v ⟨rest, files⟩ := by
  rw [readU32, accepts_bind]
  refine ⟨_, _, accepts_readExact (length_leBytes 4 n), ?_⟩
  rw [accepts_pure, leValue_leBytes (h ▸ v.toNat_lt), ← h, UInt32.ofNat_toNat]
  exact ⟨rfl, rfl⟩

lemma accepts_readU64 (h : n < 2 ^ 64) : Accepts readU64 ⟨leBytes 8 n ++ rest, files⟩ n ⟨rest, files⟩ := by
  rw [readU64, accepts_bind]
  refine ⟨_, _, accepts_readExact (length_leBytes 8 n), ?_⟩
  rw [accepts_pure, leValue_leBytes h]
  exact ⟨rfl, rfl⟩

lemma accepts_createNew (h : files.lookup name = none) :
    Accepts (createNew name) ⟨input, files⟩ () ⟨input, files.insert name []⟩ := by
  simp [Accepts, StateT.run, createNew, h]

lemma accepts_writeAll {new : Bytes} :
    Accepts (writeAll name new) ⟨input, files.insert name old⟩ () ⟨input, files.insert name (old ++ new)⟩ := by
  simp [Accepts, StateT.run, writeAll]

lemma accepts_rename {old new : Name} {contents : Bytes} (h : files.lookup old = none) :
    Accepts (rename old new) ⟨input, files.insert old contents⟩ () ⟨input, files.insert new contents⟩ := by
  simp [Accepts, StateT.run, rename, erase_insert_of_none h]

lemma accepts_copyRemaining {rounds : ℕ} (h : a.length ≤ rounds) :
    Accepts (copyRemaining name rounds a.length) ⟨a ++ rest, files.insert name old⟩ ()
      ⟨rest, files.insert name (old ++ a)⟩ := by
  induction rounds generalizing a old with
  | zero =>
    rw [List.eq_nil_of_length_eq_zero (Nat.le_zero.mp h), copyRemaining, accepts_pure, List.append_nil]
    exact ⟨rfl, rfl⟩
  | succ rounds ih =>
    rw [copyRemaining]
    split
    next h0 =>
      rw [List.eq_nil_of_length_eq_zero h0, accepts_pure, List.append_nil]
      exact ⟨rfl, rfl⟩
    have hbuffer : copyBuffer = 16384 := rfl
    have htake : (a.take (min a.length copyBuffer)).length = min a.length copyBuffer := by
      rw [List.length_take]
      omega
    have hdrop : (a.drop (min a.length copyBuffer)).length = a.length - min a.length copyBuffer := List.length_drop
    have hsplit : a ++ rest = a.take (min a.length copyBuffer) ++ (a.drop (min a.length copyBuffer) ++ rest) := by
      rw [← List.append_assoc, List.take_append_drop]
    rw [accepts_bind, hsplit]
    refine ⟨_, _, accepts_readExact htake, accepts_bind.mpr ⟨(), _, accepts_writeAll, ?_⟩⟩
    have hrest := @ih (a.drop (min a.length copyBuffer)) (old ++ a.take (min a.length copyBuffer)) (by omega)
    rw [hdrop, List.append_assoc, List.take_append_drop] at hrest
    exact hrest

lemma accepts_writeStagedFrame (h : Acceptable image.width image.height)
    (hnew : files.lookup (temporaryName index) = none) :
    Accepts (writeStagedFrame index image.width image.height (normalizedLength image))
      ⟨bmpBytes image ++ rest, files⟩ () ⟨rest, files.insert (frameName index) (bmpBytes image)⟩ := by
  have hrows : (storedRows image).flatten.length = normalizedLength image - 54 := by
    have hlen : (imageHeader image ++ (storedRows image).flatten).length = normalizedLength image :=
      length_bmpBytes
    rw [List.length_append, length_imageHeader] at hlen
    omega
  have h54 : 54 ≤ normalizedLength image := by
    rw [normalizedLength, bmpLength]
    omega
  simp only [writeStagedFrame, accepts_bind, accepts_liftM, if_pos h54, context_eq_ok]
  rw [bmpBytes, List.append_assoc]
  refine ⟨(), _, accepts_createNew hnew, _, _, accepts_readExact (length_imageHeader image), (), _,
    ⟨validateNormalizedBmpHeader_eq h, rfl⟩, (), _, accepts_writeAll, _, _, ⟨rfl, rfl⟩,
    (), _, ?_, accepts_rename hnew⟩
  rw [← hrows]
  exact accepts_copyRemaining le_rfl

def Settled (files : Table Name Bytes) : Prop := ∀ i, files.lookup (temporaryName i) = none

lemma Settled.insert (h : Settled files) (index : ℕ) (contents : Bytes) :
    Settled (files.insert (frameName index) contents) := by
  intro i
  rw [lookup_insert_eq]
  exact h i

lemma accepts_consumeFrames (hacc : ∀ image ∈ images, Acceptable image.width image.height)
    (hindex : index + images.length < 2 ^ 32) (htotal : total + totalLength images ≤ maxTotalOutputBytes)
    (hs : Settled files) :
    Accepts (consumeFrames index total images.length) ⟨framesBytes index images ++ rest, files⟩ ()
      ⟨rest, stagedFiles index files images⟩ := by
  induction images generalizing index total files with
  | nil => exact accepts_pure.mpr ⟨rfl, rfl⟩
  | cons image images ih =>
    have himage := hacc image List.mem_cons_self
    have hlen : normalizedBmpLen image.width image.height = .ok (normalizedLength image) :=
      normalizedBmpLen_eq_ok.mpr ⟨himage, rfl⟩
    rw [totalLength, List.map_cons, List.sum_cons] at htotal
    rw [List.length_cons] at hindex
    have hmax : maxTotalOutputBytes = 67108864 := rfl
    have hrest :=
      @ih (files.insert (frameName index) (bmpBytes image)) (index + 1) (total + normalizedLength image)
      (fun i hi => hacc i (List.mem_cons_of_mem image hi)) (by omega) (by rw [totalLength]; omega) (hs.insert _ _)
    have hnumber := UInt32.toNat_ofNat_of_lt' (show index < 2 ^ 32 by omega)
    have hmeta : ¬ ((UInt32.ofNat index).toNat ≠ index ∨ image.width = 0 ∨ image.height = 0 ∨
        maxWidth < image.width ∨ maxHeight < image.height) := by
      have hw : maxWidth.toNat = 4096 := rfl
      have hh : maxHeight.toNat = 4096 := rfl
      have h0 : (0 : UInt32).toNat = 0 := rfl
      simp only [UInt32.lt_iff_toNat_lt, ← UInt32.toNat_inj, hw, hh, hnumber, h0, ne_eq, not_true, false_or]
      have := himage.width_pos
      have := himage.height_pos
      have := himage.width_le
      have := himage.height_le
      omega
    simp only [List.length_cons, consumeFrames, accepts_bind, accepts_failIf, accepts_liftM, framesBytes,
      List.append_assoc]
    exact ⟨_, _, accepts_readU32 hnumber, _, _, accepts_readU32 rfl, _, _, accepts_readU32 rfl, _, _,
      accepts_readU64 (by omega), (), _, ⟨hmeta, rfl⟩, _, _, ⟨hlen, rfl⟩, (), _, ⟨not_not.mpr rfl, rfl⟩, _, _,
      ⟨addOutput_eq (by omega), rfl⟩, (), _, accepts_writeStagedFrame himage (hs index), hrest⟩

lemma accepts_consumeFramedStream (hcount : 1 ≤ images.length ∧ images.length ≤ 64)
    (hacc : ∀ image ∈ images, Acceptable image.width image.height)
    (htotal : totalLength images ≤ maxTotalOutputBytes) :
    ∃ stream, runHiddenImporter images = .ok stream ∧
      Accepts consumeFramedStream ⟨stream, ∅⟩ images.length ⟨[], stagedFiles 0 ∅ images⟩ := by
  have hnumber : (UInt32.ofNat images.length).toNat = images.length :=
    UInt32.toNat_ofNat_of_lt' (show images.length < 2 ^ 32 by omega)
  have hemit := @emitFrames_eq images 0 0 hacc (by omega) (by omega)
  refine ⟨magic ++ (leBytes 4 version.toNat ++ (leBytes 4 images.length ++ (framesBytes 0 images ++ trailer))),
    ?_, ?_⟩
  · simp only [runHiddenImporter, bind_eq_ok, pure_eq_ok]
    exact ⟨_, u32TryFrom_eq (by omega), _, hemit, by rw [hnumber]⟩
  have hframes := @accepts_consumeFrames images ∅ trailer 0 0 hacc (by omega) (by omega) fun i => rfl
  have hnonzero : ¬ (UInt32.ofNat images.length = 0 ∨ maxFiles < (UInt32.ofNat images.length).toNat) := by
    have hmax : maxFiles = 64 := rfl
    have h0 : (0 : UInt32).toNat = 0 := rfl
    rw [← UInt32.toNat_inj, hnumber, hmax]
    omega
  rw [← hnumber] at hframes
  simp only [consumeFramedStream, accepts_bind, accepts_failIf, accepts_pure]
  refine ⟨_, _, accepts_readExact (by decide), (), _, ⟨not_not.mpr rfl, rfl⟩, version, _,
    accepts_readU32 rfl, (), _, ⟨not_not.mpr rfl, rfl⟩, _, _, accepts_readU32 hnumber, (), _, ⟨hnonzero, rfl⟩,
    (), _, hframes, trailer, ⟨[], _⟩,
    ?_, (), _, ⟨not_not.mpr rfl, rfl⟩, (), _, rfl, hnumber, rfl⟩
  · have hend := @accepts_readExact (stagedFiles 0 ∅ images) [] trailer 8 (by decide)
    exact hend

end Howy.Importer
