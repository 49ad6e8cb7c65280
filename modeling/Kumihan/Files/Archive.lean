import Kumihan.Text.Utf8

/-!
# Archives

An archive is a file that holds other files, each with a name, one after the other.
It is written in the ZIP format, without compression.

## Main definitions

* `Archive` — the files of an archive, in their order.
* `checksum` — the CRC-32 of bytes.
* `Archive.encode` — the bytes of an archive.
-/

namespace Kumihan.Files

open Text (Bytes)

/-- The files of an archive. -/
abbrev Archive := List (String × Bytes)

/-- One bit of the division that a checksum is the rest of. -/
def divideBit (r : UInt32) : UInt32 :=
  if r &&& 1 = 1 then (r >>> 1) ^^^ 0xEDB88320 else r >>> 1

/-- The rest with one more byte. -/
def divideByte (r : UInt32) (b : UInt8) : UInt32 :=
  (List.range 8).foldl (fun r _ => divideBit r) (r ^^^ b.toUInt32)

/-- The CRC-32 of bytes. -/
def checksum (bs : Bytes) : UInt32 := ~~~(bs.foldl divideByte 0xFFFFFFFF)

/-- The `n` bytes of a number, the least significant one first. -/
def littleEndian : Nat → Nat → Bytes
  | 0, _ => []
  | n + 1, x => UInt8.ofNat x :: littleEndian n (x / 256)

namespace Archive

/-- What the two headers of a file have in common: how it is stored, its checksum, its size
and the length of its name.  The day is the first one that the format knows. -/
def common (name content : Bytes) : Bytes :=
  littleEndian 2 20 ++ littleEndian 2 0x0800 ++ littleEndian 2 0 ++ littleEndian 2 0
    ++ littleEndian 2 0x21 ++ littleEndian 4 (checksum content).toNat
    ++ littleEndian 4 content.length ++ littleEndian 4 content.length
    ++ littleEndian 2 name.length ++ littleEndian 2 0

/-- A file behind its header. -/
def localPart (name content : Bytes) : Bytes :=
  littleEndian 4 0x04034B50 ++ common name content ++ name ++ content

/-- The line of a file in the directory of the archive. -/
def directoryPart (offset : Nat) (name content : Bytes) : Bytes :=
  littleEndian 4 0x02014B50 ++ littleEndian 2 20 ++ common name content ++ littleEndian 2 0
    ++ littleEndian 2 0 ++ littleEndian 2 0 ++ littleEndian 4 0 ++ littleEndian 4 offset ++ name

/-- The files from an offset on, and the directory of them. -/
def parts (offset : Nat) : Archive → Bytes × Bytes
  | [] => ([], [])
  | (name, content) :: more =>
    let name := Text.encode name.toList
    let here := localPart name content
    let (files, directory) := parts (offset + here.length) more
    (here ++ files, directoryPart offset name content ++ directory)

/-- The bytes of an archive: the files, their directory, and where it stands. -/
def encode (archive : Archive) : Bytes :=
  let (files, directory) := parts 0 archive
  files ++ directory ++ littleEndian 4 0x06054B50 ++ littleEndian 2 0 ++ littleEndian 2 0
    ++ littleEndian 2 archive.length ++ littleEndian 2 archive.length
    ++ littleEndian 4 directory.length ++ littleEndian 4 files.length ++ littleEndian 2 0

end Archive

end Kumihan.Files
