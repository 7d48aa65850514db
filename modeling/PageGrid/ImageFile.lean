import PageGrid.Files
import PageGrid.Geometry

/-!
# The size of images

The natural size of an image is its number of pixels at a resolution. Two formats are read, and the
extension of the file name tells which. Only the beginning of a file is looked at: of the one format the
chunks before the picture data, of the other the screen descriptor with its table of colours.

## Main definitions

* `ImageFile.pixels?` — width and height in pixels;
* `ImageFile.size?` — width and height in points.
-/

namespace PageGrid.ImageFile

/-- Bytes of a file. -/
abbrev Bytes := List UInt8

/-- The number that bytes stand for, the most significant byte first. -/
def bigEndian (bytes : Bytes) : Nat := bytes.foldl (fun n b => 256 * n + b.toNat) 0

/-- The number that bytes stand for, the least significant byte first. -/
def littleEndian (bytes : Bytes) : Nat := bigEndian bytes.reverse

/-! ### Chunks -/

/-- One bit of the cyclic redundancy check. -/
def checkBit (crc : UInt32) : UInt32 :=
  if crc &&& 1 = 1 then (crc >>> 1) ^^^ 0xEDB88320 else crc >>> 1

/-- Eight bits of the cyclic redundancy check. -/
def checkByte (crc : UInt32) (b : UInt8) : UInt32 :=
  (List.range 8).foldl (fun crc _ => checkBit crc) (crc ^^^ b.toUInt32)

/-- The cyclic redundancy check of thirty-two bits. -/
def checkSum (bytes : Bytes) : UInt32 := bytes.foldl checkByte 0xFFFFFFFF ^^^ 0xFFFFFFFF

/-- A chunk: its type, its data, and whether its check sum is right. -/
structure Chunk where
  type : Bytes
  data : Bytes
  isIntact : Bool

/-- The first chunk and the rest. -/
def chunk? (bytes : Bytes) : Option (Chunk × Bytes) :=
  let length := bigEndian (bytes.take 4)
  let body := bytes.drop 4
  let rest := body.drop (4 + length)
  if bytes.length < 12 + length then none
  else
    some
      ({ type := body.take 4
         data := (body.drop 4).take length
         isIntact := (checkSum (body.take (4 + length))).toNat == bigEndian (rest.take 4) },
        rest.drop 4)

/-- The bytes of a text. -/
def ascii (s : String) : Bytes := s.toUTF8.toList

/-- The bytes that a chunked image begins with. -/
def chunkedSignature : Bytes := [0x89, 0x50, 0x4E, 0x47, 0x0D, 0x0A, 0x1A, 0x0A]

/-- The bit depths of the colour types. -/
def depths : List (Nat × List Nat) :=
  [(0, [1, 2, 4, 8, 16]), (2, [8, 16]), (3, [1, 2, 4, 8]), (4, [8, 16]), (6, [8, 16])]

/-- Whether the picture data begins after some chunks, all of which are whole. A chunk that must not be
skipped, as its type in upper case tells, has to be intact. A colour table is needed if `palette` says
so. -/
def reachesPicture (palette : Bool) : Nat → Bytes → Bool
  | 0, _ => false
  | fuel + 1, bytes =>
    if (bytes.drop 4).take 4 = ascii "IDAT" then !palette
    else
      match chunk? bytes with
      | none => false
      | some (c, rest) =>
        let critical := (c.type.head?.map fun b => b &&& 0x20 == 0).getD false
        (c.isIntact || !critical) && c.type != ascii "IEND" &&
          reachesPicture (palette && c.type != ascii "PLTE") fuel rest

/-- The size of a chunked image in pixels. -/
def chunkedPixels? (bytes : Bytes) : Option (Nat × Nat) :=
  if bytes.take 8 ≠ chunkedSignature then none
  else
    match chunk? (bytes.drop 8) with
    | none => none
    | some (header, rest) =>
      let width := bigEndian (header.data.take 4)
      let height := bigEndian ((header.data.drop 4).take 4)
      match (header.data.drop 8).map UInt8.toNat with
      | [depth, color, compression, filter, interlace] =>
        let isColor := depths.any fun (c, ds) => c == color && ds.contains depth
        if header.type = ascii "IHDR" ∧ header.isIntact ∧ width ≠ 0 ∧ height ≠ 0 ∧ isColor ∧
            compression = 0 ∧ filter = 0 ∧ interlace ≤ 1 ∧
            reachesPicture (color == 3) rest.length rest then
          some (width, height)
        else none
      | _ => none

/-! ### Screens -/

/-- The number of bytes of the colour table that a screen descriptor announces. -/
def tableBytes (flags : UInt8) : Nat :=
  if flags &&& 0x80 = 0 then 0 else 3 * Nat.pow 2 ((flags &&& 7).toNat + 1)

/-- The size of an image with a screen descriptor in pixels. -/
def screenPixels? (bytes : Bytes) : Option (Nat × Nat) :=
  let signature := bytes.take 6
  let flags := ((bytes.drop 10).head?).getD 0
  if (signature = ascii "GIF87a" ∨ signature = ascii "GIF89a") ∧ 13 + tableBytes flags ≤ bytes.length then
    some (littleEndian ((bytes.drop 6).take 2), littleEndian ((bytes.drop 8).take 2))
  else none

/-- The size of an image in pixels, `none` if the file is not an image of the format that its name
tells. -/
def pixels? (path : String) (bytes : Bytes) : Option (Nat × Nat) :=
  match FilePath.extension? path with
  | some "png" | some "apng" => chunkedPixels? bytes
  | some "gif" => screenPixels? bytes
  | _ => none

/-- The size in points of the image at a path, at a resolution in pixels per inch. -/
def size? (t : FileTree) (path : String) (resolution : Float) : Option (Size Float) :=
  match t.content path with
  | .error _ => none
  | .ok content =>
    (pixels? path content.toBytes).map fun (width, height) =>
      let scale := 72 / resolution
      ⟨Float.ofNat width * scale, Float.ofNat height * scale⟩

/-- The resolution at which a pixel is a point. -/
def pointResolution : Float := 72

end PageGrid.ImageFile
