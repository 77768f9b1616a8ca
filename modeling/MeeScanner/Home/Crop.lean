import Mathlib
import MeeScanner.Clamp
import MeeScanner.Home.ObjectCapture

/-!
This module contains what an object capture crops: the part of the bitmap that lies in the box of
the detected object. Pixels are counted from the corner of the bitmap, as the boxes are.
-/

open Clamp

namespace MeeScanner

namespace Bitmap

def pixels (bitmap : Bitmap) : Set (Int × Int) :=
  Set.Ico 0 bitmap.width ×ˢ Set.Ico 0 bitmap.height

def HasPixel (bitmap : Bitmap) (px py : Int) : Prop :=
  (0 ≤ px ∧ px < bitmap.width) ∧ 0 ≤ py ∧ py < bitmap.height

-- The pixel of `source` is one of `crop`: both show the same pixel of the same picture.
def Shows (crop source : Bitmap) (px py : Int) : Prop :=
  crop.picture = source.picture
    ∧ crop.HasPixel (source.left + px - crop.left) (source.top + py - crop.top)

@[simp]
theorem mem_pixels (bitmap : Bitmap) (px py : Int)
    : (px, py) ∈ bitmap.pixels ↔ bitmap.HasPixel px py := by
  rfl

theorem width_nonneg (bitmap : Bitmap) : 0 ≤ bitmap.width := by
  have := bitmap.hwidth
  omega

theorem height_nonneg (bitmap : Bitmap) : 0 ≤ bitmap.height := by
  have := bitmap.hheight
  omega

theorem shows_createBitmap {source crop : Bitmap} {x y width height : Int}
    (h : source.createBitmap x y width height = some crop) (px py : Int)
    : crop.Shows source px py ↔ (x ≤ px ∧ px < x + width) ∧ y ≤ py ∧ py < y + height := by
  unfold createBitmap at h
  split at h
  . injection h with h
    subst h
    simp only [Shows, HasPixel, true_and]
    omega
  . contradiction

theorem size_createBitmap {source crop : Bitmap} {x y width height : Int}
    (h : source.createBitmap x y width height = some crop)
    : crop.width = width ∧ crop.height = height := by
  unfold createBitmap at h
  split at h
  . injection h with h
    subst h
    exact ⟨rfl, rfl⟩
  . contradiction

end Bitmap

namespace Rect

def pixels (rect : Rect) : Set (Int × Int) :=
  Set.Ico rect.left rect.right ×ˢ Set.Ico rect.top rect.bottom

def HasPixel (rect : Rect) (px py : Int) : Prop :=
  (rect.left ≤ px ∧ px < rect.right) ∧ rect.top ≤ py ∧ py < rect.bottom

@[simp]
theorem mem_pixels (rect : Rect) (px py : Int)
    : (px, py) ∈ rect.pixels ↔ rect.HasPixel px py := by
  rfl

theorem hasPixel_none_iff (rect : Rect)
    : (∀ px py, ¬ rect.HasPixel px py) ↔ ¬ (rect.left < rect.right ∧ rect.top < rect.bottom) := by
  constructor
  . intro h hsize
    apply h rect.left rect.top
    unfold HasPixel
    omega
  . intro hsize px py h
    unfold HasPixel at h
    omega

end Rect

namespace DetectedObjectInfo

def bounding (info : DetectedObjectInfo) : Rect :=
  ⟨info.boundingLeft, info.boundingTop, info.boundingRight, info.boundingBottom⟩

def width (info : DetectedObjectInfo) : Int := info.boundingRight - info.boundingLeft

def height (info : DetectedObjectInfo) : Int := info.boundingBottom - info.boundingTop

end DetectedObjectInfo

-- The box of `info` is that of `obj` with each coordinate coerced into the bitmap, and its image is
-- the part of the bitmap in this box.
structure Coerced (bitmap : Bitmap) (obj : DetectedObject) (info : DetectedObjectInfo)
    : Prop where
  left : coerceIn obj.boundingBox.left 0 bitmap.width = some info.boundingLeft
  top : coerceIn obj.boundingBox.top 0 bitmap.height = some info.boundingTop
  right : coerceIn obj.boundingBox.right 0 bitmap.width = some info.boundingRight
  bottom : coerceIn obj.boundingBox.bottom 0 bitmap.height = some info.boundingBottom
  image : info.croppedImage =
    if 0 < info.width ∧ 0 < info.height then
      bitmap.createBitmap info.boundingLeft info.boundingTop info.width info.height
    else
      none

structure Crops (bitmap : Bitmap) (obj : DetectedObject) (info : DetectedObjectInfo) : Prop where
  coerced : Coerced bitmap obj info
  noOverflow : toInt32 info.width = info.width ∧ toInt32 info.height = info.height
  legal : 0 < info.width → 0 < info.height →
    (0 ≤ info.boundingLeft ∧ 0 ≤ info.boundingTop)
      ∧ info.boundingLeft + info.width ≤ bitmap.width
      ∧ info.boundingTop + info.height ≤ bitmap.height
  pixel : ∀ crop, info.croppedImage = some crop → ∀ px py,
    crop.Shows bitmap px py ↔ bitmap.HasPixel px py ∧ obj.boundingBox.HasPixel px py
  null : info.croppedImage = none
    ↔ ∀ px py, ¬ (bitmap.HasPixel px py ∧ obj.boundingBox.HasPixel px py)
  size : ∀ crop, info.croppedImage = some crop →
    crop.width = info.width ∧ crop.height = info.height

theorem coerceIn_eq_clamp {lo hi : Int} (x : Int) (h : lo ≤ hi)
    : coerceIn x lo hi = some (clamp lo hi x) := by
  unfold coerceIn clamp
  split
  . omega
  . split
    . rw [Option.some.injEq]
      omega
    . split
      . rw [Option.some.injEq]
        omega
      . rw [Option.some.injEq]
        omega

section

variable {bitmap : Bitmap} {obj : DetectedObject} {info : DetectedObjectInfo}

theorem Coerced.eq_clamp (h : Coerced bitmap obj info)
    : info.bounding
        =
      {
        left := clamp 0 bitmap.width obj.boundingBox.left
        top := clamp 0 bitmap.height obj.boundingBox.top
        right := clamp 0 bitmap.width obj.boundingBox.right
        bottom := clamp 0 bitmap.height obj.boundingBox.bottom
      } := by
  have hleft := h.left
  have htop := h.top
  have hright := h.right
  have hbottom := h.bottom
  rw [coerceIn_eq_clamp _ bitmap.width_nonneg, Option.some.injEq] at hleft hright
  rw [coerceIn_eq_clamp _ bitmap.height_nonneg, Option.some.injEq] at htop hbottom
  rw [hleft, htop, hright, hbottom]
  rfl

theorem Coerced.hasPixel_iff (h : Coerced bitmap obj info) (px py : Int)
    : info.bounding.HasPixel px py ↔ bitmap.HasPixel px py ∧ obj.boundingBox.HasPixel px py := by
  have hpixels : info.bounding.pixels = bitmap.pixels ∩ obj.boundingBox.pixels := by
    rw [h.eq_clamp]
    apply clip_eq_inter bitmap.width_nonneg bitmap.height_nonneg
  rw [← Rect.mem_pixels, hpixels]
  simp

theorem Coerced.bounds (h : Coerced bitmap obj info)
    : ((0 ≤ info.boundingLeft ∧ info.boundingLeft ≤ bitmap.width)
        ∧ 0 ≤ info.boundingTop ∧ info.boundingTop ≤ bitmap.height)
        ∧ (0 ≤ info.boundingRight ∧ info.boundingRight ≤ bitmap.width)
        ∧ 0 ≤ info.boundingBottom ∧ info.boundingBottom ≤ bitmap.height := by
  have heq := h.eq_clamp
  simp only [DetectedObjectInfo.bounding, Rect.mk.injEq] at heq
  rcases heq with ⟨hleft, htop, hright, hbottom⟩
  rw [hleft, htop, hright, hbottom]
  have hx := clamp_le bitmap.width_nonneg
  have hy := clamp_le bitmap.height_nonneg
  exact ⟨⟨⟨le_clamp .., hx _⟩, le_clamp .., hy _⟩, ⟨le_clamp .., hx _⟩, le_clamp .., hy _⟩

theorem Coerced.legal (h : Coerced bitmap obj info)
    : (0 ≤ info.boundingLeft ∧ 0 ≤ info.boundingTop)
        ∧ info.boundingLeft + info.width ≤ bitmap.width
        ∧ info.boundingTop + info.height ≤ bitmap.height := by
  have := h.bounds
  unfold DetectedObjectInfo.width DetectedObjectInfo.height
  omega

theorem Coerced.createBitmap (h : Coerced bitmap obj info) {crop : Bitmap}
    (hcrop : info.croppedImage = some crop)
    : bitmap.createBitmap info.boundingLeft info.boundingTop info.width info.height
        =
      some crop := by
  rw [h.image, Option.ite_none_right_eq_some] at hcrop
  exact hcrop.2

theorem Coerced.null_iff (h : Coerced bitmap obj info)
    : info.croppedImage = none ↔ ¬ (0 < info.width ∧ 0 < info.height) := by
  rw [h.image]
  split
  . next hsize =>
    have hsome := createBitmap_isSome h.legal.1 hsize h.legal.2.1 h.legal.2.2
    simp [Option.isSome_iff_ne_none.mp hsome, hsize]
  . next hsize => simp [hsize]

theorem Coerced.crops (h : Coerced bitmap obj info) : Crops bitmap obj info := by
  have hbounds := h.bounds
  have hw := bitmap.hwidth
  have hh := bitmap.hheight
  constructor
  . exact h
  . unfold DetectedObjectInfo.width DetectedObjectInfo.height
    constructor
    . apply toInt32_of_bounds <;> omega
    . apply toInt32_of_bounds <;> omega
  . intro _ _
    exact h.legal
  . intro crop hcrop px py
    rw [Bitmap.shows_createBitmap (h.createBitmap hcrop), ← h.hasPixel_iff]
    simp only [Rect.HasPixel, DetectedObjectInfo.bounding, DetectedObjectInfo.width,
      DetectedObjectInfo.height]
    omega
  . rw [h.null_iff]
    simp only [← h.hasPixel_iff]
    rw [Rect.hasPixel_none_iff]
    simp only [DetectedObjectInfo.bounding, DetectedObjectInfo.width, DetectedObjectInfo.height]
    omega
  . intro crop hcrop
    apply Bitmap.size_createBitmap (h.createBitmap hcrop)

theorem coerceIn_bounds {x lo hi y : Int} (h : lo ≤ hi) (hy : coerceIn x lo hi = some y)
    : lo ≤ y ∧ y ≤ hi := by
  rw [coerceIn_eq_clamp x h, Option.some.injEq] at hy
  rw [← hy]
  exact ⟨le_clamp lo hi x, clamp_le h x⟩

theorem toInt32_sub {x y w : Int} (hw : w < 2 ^ 31) (hx : 0 ≤ x ∧ x ≤ w) (hy : 0 ≤ y ∧ y ≤ w)
    : toInt32 (x - y) = x - y := by
  apply toInt32_of_bounds <;> omega

theorem detectedObject_coerced (bitmap : Bitmap) (obj : DetectedObject)
    : ∃ info, detectedObject bitmap obj = some info ∧ Coerced bitmap obj info := by
  have hsome := detectedObject_isSome bitmap obj
  rw [Option.isSome_iff_exists] at hsome
  rcases hsome with ⟨info, hinfo⟩
  refine ⟨info, hinfo, ?_⟩
  simp only [detectedObject, Option.bind_eq_bind, Option.bind_eq_some_iff] at hinfo
  rcases hinfo with ⟨left, hleft, top, htop, right, hright, bottom, hbottom, hinfo⟩
  have hwidth : toInt32 (right - left) = right - left := by
    apply toInt32_sub bitmap.hwidth.2
    . apply coerceIn_bounds bitmap.width_nonneg hright
    . apply coerceIn_bounds bitmap.width_nonneg hleft
  have hheight : toInt32 (bottom - top) = bottom - top := by
    apply toInt32_sub bitmap.hheight.2
    . apply coerceIn_bounds bitmap.height_nonneg hbottom
    . apply coerceIn_bounds bitmap.height_nonneg htop
  rw [hwidth, hheight] at hinfo
  split at hinfo
  . next hsize =>
    rw [Option.bind_eq_some_iff] at hinfo
    rcases hinfo with ⟨image, himage, hinfo⟩
    rw [Option.map_eq_some_iff] at himage
    rcases himage with ⟨crop, hcrop, himage⟩
    injection hinfo with hinfo
    subst hinfo himage
    refine ⟨hleft, htop, hright, hbottom, ?_⟩
    exact hcrop.symm.trans (if_pos hsize).symm
  . next hsize =>
    injection hinfo with hinfo
    subst hinfo
    refine ⟨hleft, htop, hright, hbottom, ?_⟩
    exact (if_neg hsize).symm

theorem detectedObjects_coerced (bitmap : Bitmap) (objects : List DetectedObject)
    : ∃ infos, detectedObjects bitmap objects = some infos
        ∧ List.Forall₂ (Coerced bitmap) objects infos := by
  unfold detectedObjects
  induction objects with
  | nil => exact ⟨[], rfl, .nil⟩
  | cons obj objects ih =>
    rcases detectedObject_coerced bitmap obj with ⟨info, hinfo, hobj⟩
    rcases ih with ⟨infos, hinfos, hall⟩
    refine ⟨info :: infos, ?_, .cons hobj hall⟩
    simp [List.mapM_cons, hinfo, hinfos]

theorem detectedObjects_crops (bitmap : Bitmap) (objects : List DetectedObject)
    : ∃ infos, detectedObjects bitmap objects = some infos
        ∧ List.Forall₂ (Crops bitmap) objects infos := by
  rcases detectedObjects_coerced bitmap objects with ⟨infos, hinfos, hall⟩
  refine ⟨infos, hinfos, hall.imp ?_⟩
  intro obj info h
  exact h.crops

end
end MeeScanner
