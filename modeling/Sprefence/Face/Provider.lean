import Mathlib.Data.Rat.Defs
import Mathlib.Tactic.Common

/-! The geometry of `tf_face_image_provider.c`: for each crop type the rectangle
of the camera frame, the size it is resized to, and the padding in front of it
in the 128x128 input of the network. -/

namespace Sprefence.FaceDetect

def faceImageWidth : Int := 320
def faceImageHeight : Int := 240
/-- `FACE_IMG_WIDTH_SAMPLE_REQUIRED` and `FACE_IMG_HEIGHT_SAMPLE_REQUIRED`. -/
def sampleWidth : Int := 128
def sampleHeight : Int := 128

/-- `imageproc_rect_t`: both corners belong to the rectangle. -/
structure Rect where
  x1 : Int
  y1 : Int
  x2 : Int
  y2 : Int
  deriving DecidableEq, Repr

/-- What one of the `convert_image` functions does with the frame. -/
structure Conversion where
  clipRect : Rect
  /-- The size of the output of `imageproc_clip_and_resize`. -/
  outWidth : Int
  outHeight : Int
  /-- The number of floats in front of the picture in `out_data`. -/
  pad : Int
  deriving DecidableEq, Repr

/-- `pad` of the half resolution conversions. -/
def halfPad : Int := sampleWidth * (sampleHeight - faceImageHeight / 2) / 2 * 3

/-- Half resolution, centre. -/
def convertImage0 : Conversion where
  clipRect := ⟨faceImageWidth / 2 - sampleWidth, 0, faceImageWidth / 2 + sampleWidth - 1,
    faceImageHeight - 1⟩
  outWidth := sampleWidth
  outHeight := faceImageHeight / 2
  pad := halfPad

/-- Half resolution, left. -/
def convertImage1 : Conversion where
  clipRect := ⟨0, 0, sampleWidth * 2 - 1, faceImageHeight - 1⟩
  outWidth := sampleWidth
  outHeight := faceImageHeight / 2
  pad := halfPad

/-- Half resolution, right. -/
def convertImage2 : Conversion where
  clipRect := ⟨faceImageWidth - sampleWidth * 2, 0, faceImageWidth - 1, faceImageHeight - 1⟩
  outWidth := sampleWidth
  outHeight := faceImageHeight / 2
  pad := halfPad

/-- Full resolution; `none` is the return value -1. -/
def convertImage3_15 (type : Int) : Option Conversion :=
  if type < 3 ∨ type > 15 then none
  else
    let xOffset := 64 * (type - 3).tmod 4
    let yOffset := 56 * (type - 3).tdiv 4
    some
      { clipRect := ⟨xOffset, yOffset, xOffset + sampleWidth - 1, yOffset + sampleHeight - 1⟩
        outWidth := sampleWidth
        outHeight := sampleHeight
        pad := 0 }

/-- The `switch` of `spresense_getfaceimage`. -/
def getFaceImage (type : Int) : Option Conversion :=
  if type = 0 then some convertImage0
  else if type = 1 then some convertImage1
  else if type = 2 then some convertImage2
  else convertImage3_15 type

/-- The rectangle lies in the 320x240 frame. -/
def Rect.InFrame (r : Rect) : Prop :=
  0 ≤ r.x1 ∧ r.x1 ≤ r.x2 ∧ r.x2 ≤ faceImageWidth - 1 ∧
    0 ≤ r.y1 ∧ r.y1 ≤ r.y2 ∧ r.y2 ≤ faceImageHeight - 1

instance (r : Rect) : Decidable r.InFrame := inferInstanceAs (Decidable (_ ∧ _))

/-- A point of the frame lies in a pixel of the rectangle. -/
def Rect.Contains (r : Rect) (px py : Rat) : Prop :=
  r.x1 ≤ px ∧ px < r.x2 + 1 ∧ r.y1 ≤ py ∧ py < r.y2 + 1

instance (r : Rect) (px py : Rat) : Decidable (r.Contains px py) :=
  inferInstanceAs (Decidable (_ ∧ _))

end Sprefence.FaceDetect
