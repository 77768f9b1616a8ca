import MeeScanner.Home.Util

/-!
This module contains the listener of an object capture that turns the objects the detector found in
a bitmap into `DetectedObjectInfo`s. The coordinates of a bounding box are arbitrary.
-/

namespace MeeScanner

def coerceIn (x lo hi : Int) : Option Int :=
  if lo > hi then
    none
  else if x < lo then
    some lo
  else if x > hi then
    some hi
  else
    some x

structure Rect where
  left : Int
  top : Int
  right : Int
  bottom : Int
  deriving DecidableEq, Repr

structure Label where
  text : String
  confidence : BitVec 32
  deriving DecidableEq, Repr

structure DetectedObject where
  boundingBox : Rect
  labels : List Label
  deriving DecidableEq, Repr

def detectedObject (originalBitmap : Bitmap) (obj : DetectedObject)
    : Option DetectedObjectInfo := do
  let box := obj.boundingBox
  let left ← coerceIn box.left 0 originalBitmap.width
  let top ← coerceIn box.top 0 originalBitmap.height
  let right ← coerceIn box.right 0 originalBitmap.width
  let bottom ← coerceIn box.bottom 0 originalBitmap.height
  let width := toInt32 (right - left)
  let height := toInt32 (bottom - top)
  let croppedBitmap ←
    if width > 0 ∧ height > 0 then
      (originalBitmap.createBitmap left top width height).map some
    else
      some none
  some {
    label := (obj.labels.head?.map (·.text)).getD "Unknown"
    confidence := (obj.labels.head?.map (·.confidence)).getD 0
    boundingLeft := left
    boundingTop := top
    boundingRight := right
    boundingBottom := bottom
    croppedImage := croppedBitmap
  }

def detectedObjects (originalBitmap : Bitmap) (objects : List DetectedObject)
    : Option (List DetectedObjectInfo) :=
  objects.mapM (detectedObject originalBitmap)

theorem coerceIn_eq {lo hi : Int} (x : Int) (h : lo ≤ hi)
    : ∃ y, coerceIn x lo hi = some y ∧ lo ≤ y ∧ y ≤ hi := by
  unfold coerceIn
  split
  . omega
  . split
    . exact ⟨lo, rfl, by omega, by omega⟩
    . split
      . exact ⟨hi, rfl, by omega, by omega⟩
      . exact ⟨x, rfl, by omega, by omega⟩

theorem toInt32_of_bounds {x : Int} (hlo : -2 ^ 31 ≤ x) (hhi : x < 2 ^ 31) : toInt32 x = x := by
  unfold toInt32
  apply Int.bmod_eq_of_le <;> omega

theorem createBitmap_isSome {source : Bitmap} {x y width height : Int}
    (hxy : 0 ≤ x ∧ 0 ≤ y) (hsize : 0 < width ∧ 0 < height) (hx : x + width ≤ source.width)
    (hy : y + height ≤ source.height)
    : (source.createBitmap x y width height).isSome := by
  unfold Bitmap.createBitmap
  rw [dif_pos ⟨hxy, hsize, hx, hy⟩]
  rfl

/--
The listener never throws, whatever the bounding box is.
-/
theorem detectedObject_isSome (originalBitmap : Bitmap) (obj : DetectedObject)
    : (detectedObject originalBitmap obj).isSome := by
  have hw := originalBitmap.hwidth
  have hh := originalBitmap.hheight
  rcases coerceIn_eq obj.boundingBox.left (by omega : 0 ≤ originalBitmap.width)
    with ⟨left, hleft, hleft1, hleft2⟩
  rcases coerceIn_eq obj.boundingBox.top (by omega : 0 ≤ originalBitmap.height)
    with ⟨top, htop, htop1, htop2⟩
  rcases coerceIn_eq obj.boundingBox.right (by omega : 0 ≤ originalBitmap.width)
    with ⟨right, hright, hright1, hright2⟩
  rcases coerceIn_eq obj.boundingBox.bottom (by omega : 0 ≤ originalBitmap.height)
    with ⟨bottom, hbottom, hbottom1, hbottom2⟩
  have hwidth : toInt32 (right - left) = right - left := by
    apply toInt32_of_bounds <;> omega
  have hheight : toInt32 (bottom - top) = bottom - top := by
    apply toInt32_of_bounds <;> omega
  unfold detectedObject
  simp only [hleft, htop, hright, hbottom, hwidth, hheight, Option.bind_eq_bind, Option.bind_some]
  split
  . next hcrop =>
    have hsome : (originalBitmap.createBitmap left top (right - left) (bottom - top)).isSome := by
      apply createBitmap_isSome <;> omega
    rw [Option.isSome_iff_exists] at hsome
    rcases hsome with ⟨cropped, hcropped⟩
    simp [hcropped]
  . simp

end MeeScanner
