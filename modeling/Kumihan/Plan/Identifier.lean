import Kumihan.Data.Digest
import Kumihan.Text.Letter

/-!
# Derived identifiers

A book whose plan gives no identifier is identified by its title and its author:
by the UUID of version 5 that the two name in the namespace of URLs.

## Main definitions

* `uuid5`, `derivedIdentifier`.
-/

namespace Kumihan

/-- The namespace of URLs. -/
def urlNamespace : List UInt8 :=
  [0x6B, 0xA7, 0xB8, 0x11, 0x9D, 0xAD, 0x11, 0xD1, 0x80, 0xB4, 0x00, 0xC0, 0x4F, 0xD4, 0x30, 0xC8]

/-- A byte with the bits of `mask` set as in `value`. -/
def withBits (mask value b : UInt8) : UInt8 := (b &&& ~~~mask) ||| value

/-- The bytes of the UUID of version 5 of a name. -/
def uuid5 (nameSpace name : List UInt8) : List UInt8 :=
  let digest := (Data.sha1 (nameSpace ++ name)).take 16
  (digest.modify 6 (withBits 0xF0 0x50)).modify 8 (withBits 0xC0 0x80)

/-- Bytes in hexadecimal. -/
def hexBytes (bs : List UInt8) : List Char := bs.flatMap fun b => Text.hexDigits 2 b.toNat

/-- A UUID in its five groups. -/
def uuidText (bs : List UInt8) : List Char :=
  hexBytes (bs.take 4) ++ '-' :: hexBytes ((bs.drop 4).take 2)
    ++ '-' :: hexBytes ((bs.drop 6).take 2) ++ '-' :: hexBytes ((bs.drop 8).take 2)
    ++ '-' :: hexBytes (bs.drop 10)

/-- The identifier of a book that has none of its own.  Titles and authors that cannot be written
give none. -/
def derivedIdentifier (title author : List Text.Letter) : Except Text.EncodeFault String := do
  let name ← Text.encodeLetters (title ++ .char '\n' :: author)
  return "urn:uuid:" ++ String.ofList (uuidText (uuid5 urlNamespace name))

end Kumihan
