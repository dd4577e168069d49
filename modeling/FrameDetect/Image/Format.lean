import FrameDetect.Image.Avif
import FrameDetect.Image.Bitmap
import FrameDetect.Image.Farbfeld
import FrameDetect.Image.Gif
import FrameDetect.Image.Icon
import FrameDetect.Image.Portable
import FrameDetect.Image.Qoi
import FrameDetect.Image.Targa
import FrameDetect.Image.Tiff
import FrameDetect.Image.Webp

/-!
# Formats of pictures

The formats that the name of a file can tell, and which of them a picture with four parts for each pixel
can be written in and read from.
-/

namespace FrameDetect.Image

/-- A format of files. -/
inductive Format where
  | png | jpeg | gif | webp | tiff | targa | dds | bitmap | icon | hdr | exr | portable | farbfeld | qoi
  | avif
deriving Repr, DecidableEq

namespace Format

/-- The format that the extension of a name tells, in letters of either case. -/
def ofExtension? (extension : String) : Option Format :=
  match extension.toLower with
  | "png" | "apng" => some .png
  | "jpg" | "jpeg" => some .jpeg
  | "gif" => some .gif
  | "webp" => some .webp
  | "tif" | "tiff" => some .tiff
  | "tga" => some .targa
  | "dds" => some .dds
  | "bmp" => some .bitmap
  | "ico" => some .icon
  | "hdr" => some .hdr
  | "exr" => some .exr
  | "pbm" | "pam" | "ppm" | "pgm" | "pnm" => some .portable
  | "ff" => some .farbfeld
  | "qoi" => some .qoi
  | "avif" => some .avif
  | _ => none

/-- The file of a picture, if the format has room for all that belongs to it. -/
def encode? (format : Format) (r : Raster) : Option ByteArray :=
  match format with
  | .png => some (Png.encode r)
  | .gif => Gif.encode? r
  | .webp => Webp.encode? r
  | .tiff => some (Tiff.encode r)
  | .targa => Targa.encode? r
  | .bitmap => some (Bitmap.encode r)
  | .icon => Icon.encode? r
  | .portable => some (Portable.encode r)
  | .qoi => some (Qoi.encode r)
  | .avif => some (Avif.encode r)
  | .jpeg | .dds | .hdr | .exr | .farbfeld => none

/-- The picture in a file of a format that can be read. -/
def read? (format : Format) (file : ByteArray) : Option Raster :=
  match format with
  | .png => Png.read? file
  | .gif => Gif.read? file
  | .webp => Webp.read? file
  | .tiff => Tiff.read? file
  | .targa => Targa.read? file
  | .bitmap => Bitmap.read? file
  | .icon => Icon.read? file
  | .portable => Portable.read? file
  | .farbfeld => Farbfeld.read? file
  | .qoi => Qoi.read? file
  | .jpeg | .dds | .hdr | .exr | .avif => none

end Format

end FrameDetect.Image
