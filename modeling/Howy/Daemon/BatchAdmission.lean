import Howy.Daemon.BatchDecoding
import Howy.Importer.Staging

namespace Howy.Daemon.BatchAdmission

open Library Storage Importer

lemma pairwise_frameName_lt : ((List.range 64).map frameName).Pairwise (· < ·) := by
  decide +kernel

def names (n : ℕ) : List Name := (List.range n).map frameName

lemma pairwise_names_lt {n : ℕ} (h : n ≤ 64) : (names n).Pairwise (· < ·) :=
  pairwise_frameName_lt.sublist ((List.range_sublist.mpr h).map frameName)

variable {images : List RgbImage} {i : ℕ} {image : RgbImage}

lemma frameName_injOn {j : ℕ} (hi : i < 64) (hj : j < 64) (h : frameName i = frameName j) : i = j := by
  have hnodup : ((List.range 64).map frameName).Nodup :=
    pairwise_frameName_lt.imp fun {a b} hlt (heq : a = b) => List.lt_irrefl b (heq ▸ hlt)
  exact List.inj_on_of_nodup_map hnodup (List.mem_range.mpr hi) (List.mem_range.mpr hj) h

lemma isNormalizedBmpName_frameName (h : i < 64) : isNormalizedBmpName (frameName i) := by
  have hall : ∀ i < 64, isNormalizedBmpName (frameName i) := by decide +kernel
  exact hall i h

lemma sorted_names {n : ℕ} (h : n ≤ 64) {enumerated : List Name} (hperm : enumerated.Perm (names n)) :
    (enumerated.filter isNormalizedBmpName).mergeSort (fun a b => decide (a ≤ b)) = names n := by
  have hfilter : enumerated.filter isNormalizedBmpName = enumerated := by
    rw [List.filter_eq_self]
    intro name hname
    obtain ⟨i, hi, rfl⟩ := List.mem_map.mp (hperm.mem_iff.mp hname)
    exact isNormalizedBmpName_frameName ((List.mem_range.mp hi).trans_le h)
  have hsorted := pairwise_mergeSort id enumerated
  rw [hfilter]
  exact List.Perm.eq_of_pairwise (fun a b _ _ => List.le_antisymm) hsorted
    ((pairwise_names_lt h).imp List.le_of_lt) ((List.mergeSort_perm _ _).trans hperm)

variable {images : List RgbImage} {files : Table Name Bytes} {index : ℕ}

lemma lookup_stagedFiles_of_lt (hi : i < index) (hlength : index + images.length ≤ 64) :
    (stagedFiles index files images).lookup (frameName i) = files.lookup (frameName i) := by
  induction images generalizing index files with
  | nil => rfl
  | cons image images ih =>
    rw [List.length_cons] at hlength
    rw [stagedFiles, ih (by omega) (by omega), lookup_insert_eq, if_neg]
    intro heq
    exact absurd (frameName_injOn (by omega) (by omega) heq) (by omega)

lemma lookup_stagedFiles {k : ℕ} (hlength : index + images.length ≤ 64) (hk : k < images.length) :
    (stagedFiles index files images).lookup (frameName (index + k)) = some (bmpBytes images[k]) := by
  induction images generalizing index files k with
  | nil => exact absurd hk (Nat.not_lt_zero k)
  | cons image images ih =>
    rw [List.length_cons] at hlength hk
    rw [stagedFiles]
    cases k with
    | zero => rw [Nat.add_zero, lookup_stagedFiles_of_lt (by omega) (by omega), lookup_insert_eq, if_pos rfl,
        List.getElem_cons_zero]
    | succ k =>
      have hnext := @ih (files.insert (frameName index) (bmpBytes image)) (index + 1) k (by omega) (by omega)
      rw [show index + 1 + k = index + (k + 1) by omega] at hnext
      rw [hnext, List.getElem_cons_succ]

lemma keys_stagedFiles (hlength : index + images.length ≤ 64) (hfiles : files.keys.Perm (names index)) :
    (stagedFiles index files images).keys.Perm (names (index + images.length)) := by
  induction images generalizing index files with
  | nil => exact hfiles
  | cons image images ih =>
    rw [List.length_cons] at hlength ⊢
    have hnew : frameName index ∉ files.keys := by
      intro hmem
      obtain ⟨i, hi, heq⟩ := List.mem_map.mp (hfiles.mem_iff.mp hmem)
      have hlt := List.mem_range.mp hi
      exact absurd (frameName_injOn (by omega) (by omega) heq) (by omega)
    have hkeys : (files.insert (frameName index) (bmpBytes image)).keys.Perm (names (index + 1)) := by
      rw [AList.keys, AList.entries_insert_of_notMem hnew, names, List.range_succ, List.map_append]
      exact (hfiles.cons _).trans (List.perm_append_singleton _ _).symm
    have hrest := ih (by omega) hkeys
    rw [show index + 1 + images.length = index + (images.length + 1) by omega] at hrest
    exact hrest

def Bounded (images : List RgbImage) : Prop :=
  ∀ image ∈ images, normalizedLength image ≤ maxBatchEncodedBytesPerFile

variable {total : ℕ}

def namesFrom (index : ℕ) (images : List RgbImage) : List Name :=
  (List.range images.length).map fun k => frameName (index + k)

lemma namesFrom_cons (index : ℕ) (image : RgbImage) (images : List RgbImage) :
    namesFrom index (image :: images) = frameName index :: namesFrom (index + 1) images := by
  have hshift : (fun k => frameName (index + (k + 1))) = fun k => frameName (index + 1 + k) :=
    funext fun k => by rw [Nat.add_assoc, Nat.add_comm 1 k]
  rw [namesFrom, namesFrom, List.length_cons, List.range_succ_eq_map, List.map_cons, List.map_map, ← hshift]
  rfl

lemma namesFrom_zero (images : List RgbImage) : namesFrom 0 images = names images.length := by
  simp [namesFrom, names]

def openedFiles (index : ℕ) : List RgbImage → List BatchImageFile
  | [] => []
  | image :: images => ⟨frameName index, bmpBytes image, (bmpBytes image).length⟩ :: openedFiles (index + 1) images

def Stored (files : Table Name Bytes) (index : ℕ) (images : List RgbImage) : Prop :=
  ∀ k (hk : k < images.length), files.lookup (frameName (index + k)) = some (bmpBytes images[k])

lemma Stored.head (h : Stored files index (image :: images)) :
    files.lookup (frameName index) = some (bmpBytes image) := h 0 (Nat.succ_pos _)

lemma Stored.tail (h : Stored files index (image :: images)) : Stored files (index + 1) images := by
  intro k hk
  have hnext := h (k + 1) (Nat.succ_lt_succ hk)
  rw [show index + (k + 1) = index + 1 + k by omega] at hnext
  exact hnext

lemma length_bmpBytes_eq (image : RgbImage) : (bmpBytes image).length = normalizedLength image := length_bmpBytes

lemma openImages_eq (hs : Stored files index images) (hb : Bounded images)
    (ht : total + totalLength images ≤ maxBatchTotalEncodedBytes) :
    openImages files total (namesFrom index images) = .ok (openedFiles index images) := by
  induction images generalizing index total with
  | nil => rfl
  | cons image images ih =>
    rw [totalLength, List.map_cons, List.sum_cons] at ht
    have hmax : maxBatchTotalEncodedBytes = 67108864 := rfl
    have hpos : normalizedLength image ≠ 0 := by
      rw [normalizedLength, bmpLength]
      omega
    have hfile := hb image List.mem_cons_self
    have htotal : ((checkedAdd total (normalizedLength image)).filter (· ≤ maxBatchTotalEncodedBytes)) =
        some (total + normalizedLength image) := by
      have hle : total + normalizedLength image ≤ maxBatchTotalEncodedBytes := by omega
      have hsum : checkedAdd total (normalizedLength image) = some (total + normalizedLength image) :=
        checkedAdd_eq_some.mpr ⟨by omega, rfl⟩
      rw [hsum]
      simp [hle]
    have hrest := @ih (index + 1) (total + normalizedLength image) hs.tail
      (fun i hi => hb i (List.mem_cons_of_mem image hi)) (by rw [totalLength]; omega)
    simp only [namesFrom_cons, openImages, bind_eq_ok, context_eq_ok, failIf_eq_ok, pure_eq_ok]
    refine ⟨_, hs.head, (), ?_, _, by rw [length_bmpBytes_eq]; exact htotal, _, hrest, rfl⟩
    rw [length_bmpBytes_eq]
    omega

lemma bounded_of_openImages {opened : List BatchImageFile} (hs : Stored files index images)
    (h : openImages files total (namesFrom index images) = .ok opened) : Bounded images := by
  induction images generalizing index total opened with
  | nil => exact fun image himage => absurd himage List.not_mem_nil
  | cons image images ih =>
    simp only [namesFrom_cons, openImages, bind_eq_ok, context_eq_ok, failIf_eq_ok, hs.head,
      Option.some.injEq] at h
    obtain ⟨_, rfl, _, hfile, _, -, rest, hrest, -⟩ := h
    rw [length_bmpBytes_eq, not_or, Nat.not_lt] at hfile
    exact List.forall_mem_cons.mpr ⟨hfile.2, ih hs.tail hrest⟩

lemma readAndInspect_eq (h : Acceptable image.width image.height)
    (hb : normalizedLength image ≤ maxBatchEncodedBytesPerFile) (name : Name) :
    readAndInspect ⟨name, bmpBytes image, (bmpBytes image).length⟩ = .ok (admittedOf name image) := by
  have htake : (bmpBytes image).take (maxBatchEncodedBytesPerFile + 1) = bmpBytes image :=
    List.take_of_length_le (by rw [length_bmpBytes_eq]; omega)
  simp only [readAndInspect, htake, inspectStrictBmp_eq h, bind_eq_ok, failIf_eq_ok, ok_bind]
  refine ⟨(), ?_, rfl⟩
  rw [length_bmpBytes_eq]
  omega

def Admits (files : Table Name Bytes) (order : List Name → List Name) (images : List RgbImage) : Prop :=
  ∃ opened admitted, openBatchImages files order = .ok opened ∧
    List.Forall₂ (fun file image => readAndInspect file = .ok image) opened admitted ∧
    List.Forall₂ (fun image decoded => decodeBmpAsBgr decoded = .ok (image.bgr, image.width.toNat,
      image.height.toNat)) images admitted

lemma admitted_openedFiles (index : ℕ)
    (hacc : ∀ image ∈ images, Acceptable image.width image.height) (hb : Bounded images) :
    ∃ admitted, List.Forall₂ (fun file image => readAndInspect file = .ok image)
      (openedFiles index images) admitted ∧ List.Forall₂ (fun image decoded =>
        decodeBmpAsBgr decoded = .ok (image.bgr, image.width.toNat, image.height.toNat)) images admitted := by
  induction images generalizing index with
  | nil => exact ⟨[], .nil, .nil⟩
  | cons image images ih =>
    obtain ⟨himage, hrest⟩ := List.forall_mem_cons.mp hacc
    obtain ⟨hfile, hfiles⟩ := List.forall_mem_cons.mp hb
    obtain ⟨admitted, hinspect, hdecode⟩ := ih (index + 1) hrest hfiles
    exact ⟨admittedOf (frameName index) image :: admitted, .cons (readAndInspect_eq himage hfile _) hinspect,
      .cons (decodeBmpAsBgr_eq himage _) hdecode⟩

lemma stored_stagedFiles (h : images.length ≤ 64) : Stored (stagedFiles 0 ∅ images) 0 images :=
  fun _ hk => lookup_stagedFiles (by omega) hk

lemma openBatchImages_eq {order : List Name → List Name} (h : images.length ≤ 64)
    (horder : ∀ names, (order names).Perm names) : openBatchImages (stagedFiles 0 ∅ images) order =
      openImages (stagedFiles 0 ∅ images) 0 (namesFrom 0 images) := by
  have hkeys : (stagedFiles 0 ∅ images).keys.Perm (names images.length) := by
    have hperm := @keys_stagedFiles images ∅ 0 (by omega) (List.Perm.refl _)
    rw [Nat.zero_add] at hperm
    exact hperm
  have hlength : (names images.length).length = images.length := by rw [names, List.length_map, List.length_range]
  have hentries : ¬ maxBatchDirectoryEntries < (stagedFiles 0 ∅ images).keys.length := by
    rw [hkeys.length_eq, maxBatchDirectoryEntries]
    omega
  have hread : readDirectoryNames (stagedFiles 0 ∅ images) order = .ok (order (stagedFiles 0 ∅ images).keys) := by
    simp only [readDirectoryNames, bind_eq_ok, failIf_eq_ok, pure_eq_ok]
    exact ⟨(), hentries, trivial⟩
  have hcount : (failIf (maxBatchFiles < (names images.length).length)
      "session directory contains too many image files" : Except String Unit) = .ok () := by
    rw [failIf_eq_ok, maxBatchFiles]
    omega
  rw [openBatchImages, hread]
  simp only [sorted_names h ((horder _).trans hkeys), hcount, ok_bind, namesFrom_zero]

lemma lengths_eq {lengths : List ℕ}
    (h : List.Forall₂ (fun image length => normalizedBmpLen image.width image.height = .ok length)
      images lengths) :
    (∀ image ∈ images, Acceptable image.width image.height) ∧ lengths = images.map normalizedLength := by
  induction h with
  | nil => exact ⟨fun image himage => absurd himage List.not_mem_nil, rfl⟩
  | cons hlength _ ih =>
    obtain ⟨hacc, rfl⟩ := normalizedBmpLen_eq_ok.mp hlength
    exact ⟨List.forall_mem_cons.mpr ⟨hacc, ih.1⟩, by rw [ih.2]; rfl⟩

/-- A session that the importer accepts is staged, and the daemon admits it exactly when no file is too large for
it. -/
theorem staged_session_admitted_iff (images : List RgbImage) (lengths : List ℕ)
    (hcount : 1 ≤ images.length ∧ images.length ≤ 64)
    (hlengths : List.Forall₂ (fun image length => normalizedBmpLen image.width image.height = .ok length)
      images lengths) (htotal : lengths.sum ≤ maxTotalOutputBytes) :
    ∃ stream files, runHiddenImporter images = .ok stream ∧
      consumeFramedStream.run ⟨stream, ∅⟩ = .ok (images.length, ⟨[], files⟩) ∧
      ∀ order : List Name → List Name, (∀ names, (order names).Perm names) →
        (Admits files order images ↔ ∀ length ∈ lengths, length ≤ maxBatchEncodedBytesPerFile) := by
  obtain ⟨hacc, rfl⟩ := lengths_eq hlengths
  obtain ⟨stream, hstream, hstaged⟩ := accepts_consumeFramedStream hcount hacc htotal
  refine ⟨stream, stagedFiles 0 ∅ images, hstream, hstaged, fun order horder => ?_⟩
  have hstored := stored_stagedFiles hcount.2
  have hopen := openBatchImages_eq hcount.2 horder
  rw [List.forall_mem_map]
  constructor
  · rintro ⟨opened, -, hopened, -⟩
    rw [hopen] at hopened
    exact bounded_of_openImages hstored hopened
  intro hb
  obtain ⟨admitted, hinspect, hdecode⟩ := admitted_openedFiles 0 hacc hb
  have htotal' : 0 + totalLength images ≤ maxBatchTotalEncodedBytes := by
    rw [Nat.zero_add]
    exact htotal
  exact ⟨_, admitted, hopen.trans (openImages_eq hstored hb htotal'), hinspect, hdecode⟩

def onePixel (r g b : UInt8) : RgbImage := ⟨1, 1, [r, g, b], rfl⟩

theorem staged_session_admitted_iff_two_pixels :
    ∃ stream files, runHiddenImporter [onePixel 1 2 3, onePixel 4 5 6] = .ok stream ∧
      consumeFramedStream.run ⟨stream, ∅⟩ = .ok (2, ⟨[], files⟩) ∧
      Admits files List.reverse [onePixel 1 2 3, onePixel 4 5 6] := by
  obtain ⟨stream, files, hstream, hstaged, hadmits⟩ :=
    staged_session_admitted_iff [onePixel 1 2 3, onePixel 4 5 6] [58, 58] (by decide) (by decide) (by decide)
  exact ⟨stream, files, hstream, hstaged, (hadmits List.reverse List.reverse_perm).mpr (by decide)⟩

def largeImage : RgbImage := ⟨2048, 1536, List.replicate (1536 * (2048 * 3)) 0, List.length_replicate⟩

/-- The importer accepts and stages an image of nine megabytes, which the daemon then refuses to open. -/
theorem large_image_staged_and_refused :
    normalizedBmpLen largeImage.width largeImage.height = .ok 9437238 ∧ 9437238 ≤ maxTotalOutputBytes ∧
    ∃ stream files, runHiddenImporter [largeImage] = .ok stream ∧
      consumeFramedStream.run ⟨stream, ∅⟩ = .ok (1, ⟨[], files⟩) ∧
      openBatchImages files id = .error "session image is not a bounded regular file" := by
  have hlength : normalizedBmpLen largeImage.width largeImage.height = .ok 9437238 := by decide
  obtain ⟨hacc, hsize⟩ := normalizedBmpLen_eq_ok.mp hlength
  have hall : ∀ image ∈ [largeImage], Acceptable image.width image.height := by
    intro image himage
    rw [List.mem_singleton.mp himage]
    exact hacc
  obtain ⟨stream, hstream, hstaged⟩ := @accepts_consumeFramedStream [largeImage] (by decide) hall (by decide)
  refine ⟨hlength, by decide, stream, _, hstream, hstaged, ?_⟩
  have hbytes := length_bmpBytes.trans hsize.symm
  have hfile : (failIf ((bmpBytes largeImage).length = 0 ∨ maxBatchEncodedBytesPerFile <
      (bmpBytes largeImage).length) "session image is not a bounded regular file" : Except String Unit) =
      .error "session image is not a bounded regular file" := by
    rw [hbytes]
    decide
  have hhead := (stored_stagedFiles (by decide : [largeImage].length ≤ 64)).head
  have hopen := @openBatchImages_eq [largeImage] id (by decide) List.Perm.refl
  rw [hopen, namesFrom_cons, openImages, hhead, context_some, ok_bind, hfile, error_bind]

end Howy.Daemon.BatchAdmission
