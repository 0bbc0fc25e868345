import Hamstercam.Capture.Stats
import Hamstercam.Lib.Decimal

/-!
# Texts

Text is a list of bytes. Here are the ASCII literals of the source, and the texts that stand for a value
wherever the program writes it: a number, a four-character code, the reason of an error.
-/

namespace Hamstercam

open Decimal

/-- Source: `progress_parser.cpp` (`char`) -/
abbrev Byte : Type := UInt8

/-- The bytes of an ASCII literal. Source: none: infrastructure -/
def text (s : String) : List Byte := s.toList.map fun c => c.toNat.toUInt8

/-- The bytes of a literal, from its characters. Source: none: infrastructure -/
theorem text_ofList (s : List Char) : text (String.ofList s) = s.map fun c => c.toNat.toUInt8 := by
  rw [text, String.toList_ofList]

/-- Literals differ where their characters do. Source: none: infrastructure -/
theorem text_ne {s t : List Char}
    (h : (s.map fun c => c.toNat.toUInt8) ≠ t.map fun c => c.toNat.toUInt8) :
    text (String.ofList s) ≠ text (String.ofList t) := by
  rwa [text_ofList, text_ofList]

/-- `'\n'`. Source: `progress_parser.cpp` -/
abbrev newline : Byte := 10

/-- `std::to_string` of a signed number.
Source: `metrics.cpp` `render_metrics`, `exporter_metrics.cpp` `render_exporter_metrics` -/
def signedDecimal (n : Int) : List Byte := if n < 0 then 45 :: decimal n.natAbs else decimal n.natAbs

/-- The four characters of the code, the low byte first. The bytes are those of the driver, printable
or not.
Source: `capture_device.cpp` `StreamFormat::pixel_format_string` -/
def StreamFormat.pixelFormatString (f : StreamFormat) : List Byte :=
  [(f.pixelFormatFourcc &&& 0xFF).toUInt8, ((f.pixelFormatFourcc >>> 8) &&& 0xFF).toUInt8,
    ((f.pixelFormatFourcc >>> 16) &&& 0xFF).toUInt8, ((f.pixelFormatFourcc >>> 24) &&& 0xFF).toUInt8]

/-- Source: `error_reason.hpp` `to_string` -/
def ErrorReason.toText : ErrorReason → List Byte
  | .open => text "open"
  | .format => text "format"
  | .buffer => text "buffer"
  | .timeout => text "timeout"
  | .dequeue => text "dequeue"
  | .deviceLost => text "device_lost"
  | .geometry => text "geometry"
  | .count => text "unknown"

end Hamstercam
