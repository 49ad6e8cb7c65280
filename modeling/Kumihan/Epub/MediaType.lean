import Kumihan.Files.Path
import Kumihan.Text.LowerCase

/-!
# Media types by extension

An item of a package that comes without a media type is given the one that goes with the
extension of its file.  Files can be compressed, which a second extension tells; such an item
is given the name of the compression.

## Main definitions

* `knownExtensions` — the extensions of each media type.
* `guessedMediaType file`.
-/

namespace Kumihan.Epub

/-- The extensions that go with each media type. -/
def knownExtensions : List (String × List String) :=
  [ ("application/javascript", ["js", "mjs"]), ("application/json", ["json"]),
    ("application/manifest+json", ["webmanifest"]), ("application/msword", ["doc", "dot", "wiz"]),
    ("application/n-quads", ["nq"]), ("application/n-triples", ["nt"]),
    ("application/octet-stream", ["a", "bin", "dll", "exe", "o", "obj", "so"]),
    ("application/oda", ["oda"]), ("application/pdf", ["pdf"]),
    ("application/pkcs7-mime", ["p7c"]), ("application/postscript", ["ai", "eps", "ps"]),
    ("application/trig", ["trig"]), ("application/vnd.apple.mpegurl", ["m3u", "m3u8"]),
    ("application/vnd.ms-excel", ["xlb", "xls"]),
    ("application/vnd.ms-powerpoint", ["pot", "ppa", "pps", "ppt", "pwz"]),
    ("application/wasm", ["wasm"]), ("application/x-bcpio", ["bcpio"]),
    ("application/x-cpio", ["cpio"]), ("application/x-csh", ["csh"]),
    ("application/x-dvi", ["dvi"]), ("application/x-gtar", ["gtar"]),
    ("application/x-hdf", ["hdf"]), ("application/x-hdf5", ["h5"]),
    ("application/x-latex", ["latex"]), ("application/x-mif", ["mif"]),
    ("application/x-netcdf", ["cdf", "nc"]), ("application/x-pkcs12", ["p12", "pfx"]),
    ("application/x-pn-realaudio", ["ram"]),
    ("application/x-sh", ["sh"]), ("application/x-shar", ["shar"]),
    ("application/x-shockwave-flash", ["swf"]), ("application/x-sv4cpio", ["sv4cpio"]),
    ("application/x-sv4crc", ["sv4crc"]), ("application/x-tar", ["tar"]),
    ("application/x-tcl", ["tcl"]), ("application/x-tex", ["tex"]),
    ("application/x-texinfo", ["texi", "texinfo"]), ("application/x-troff", ["roff", "t", "tr"]),
    ("application/x-troff-man", ["man"]), ("application/x-troff-me", ["me"]),
    ("application/x-troff-ms", ["ms"]), ("application/x-ustar", ["ustar"]),
    ("application/x-wais-source", ["src"]), ("application/xhtml+xml", ["xhtml"]),
    ("application/xml", ["rdf", "wsdl", "xpdl", "xsl"]), ("application/zip", ["zip"]),
    ("audio/3gpp", ["3gp", "3gpp"]), ("audio/3gpp2", ["3g2", "3gpp2"]),
    ("audio/aac", ["aac", "adts", "ass", "loas"]), ("audio/basic", ["au", "snd"]),
    ("audio/mpeg", ["mp2", "mp3"]), ("audio/opus", ["opus"]),
    ("audio/x-aiff", ["aif", "aifc", "aiff"]), ("audio/x-pn-realaudio", ["ra"]),
    ("audio/x-wav", ["wav"]), ("image/avif", ["avif"]), ("image/bmp", ["bmp"]),
    ("image/gif", ["gif"]), ("image/heic", ["heic"]), ("image/heif", ["heif"]),
    ("image/ief", ["ief"]), ("image/jpeg", ["jpe", "jpeg", "jpg"]), ("image/png", ["png"]),
    ("image/svg+xml", ["svg"]), ("image/tiff", ["tif", "tiff"]),
    ("image/vnd.microsoft.icon", ["ico"]), ("image/x-cmu-raster", ["ras"]),
    ("image/x-portable-anymap", ["pnm"]), ("image/x-portable-bitmap", ["pbm"]),
    ("image/x-portable-graymap", ["pgm"]), ("image/x-portable-pixmap", ["ppm"]),
    ("image/x-rgb", ["rgb"]), ("image/x-xbitmap", ["xbm"]), ("image/x-xpixmap", ["xpm"]),
    ("image/x-xwindowdump", ["xwd"]), ("message/rfc822", ["eml", "mht", "mhtml", "nws"]),
    ("text/css", ["css"]), ("text/csv", ["csv"]), ("text/html", ["htm", "html"]),
    ("text/n3", ["n3"]), ("text/plain", ["bat", "c", "h", "ksh", "pl", "srt", "txt"]),
    ("text/richtext", ["rtx"]), ("text/tab-separated-values", ["tsv"]), ("text/vtt", ["vtt"]),
    ("text/x-setext", ["etx"]), ("text/x-sgml", ["sgm", "sgml"]),
    ("text/x-vcard", ["vcf"]), ("text/xml", ["xml"]), ("video/mp4", ["mp4"]),
    ("video/mpeg", ["m1v", "mpa", "mpe", "mpeg", "mpg"]), ("video/quicktime", ["mov", "qt"]),
    ("video/webm", ["webm"]), ("video/x-msvideo", ["avi"]), ("video/x-sgi-movie", ["movie"]) ]

/-- The extensions of compressed files, and what the compressions are called. -/
def compressions : List (String × String) :=
  [(".gz", "gzip"), (".bz2", "bzip2"), (".xz", "xz"), (".br", "br")]

/-- Extensions that stand for two others. -/
def shortExtensions : List (String × String) :=
  [ (".svgz", ".svg.gz"), (".tgz", ".tar.gz"), (".taz", ".tar.gz"), (".tz", ".tar.gz"),
    (".tbz2", ".tar.bz2"), (".txz", ".tar.xz") ]

/-- The media type of a file whose type is not known. -/
def unknownMediaType : String := "application/octet-stream"

/-- The media type that goes with the extension of a file. -/
def knownMediaType? (file : String) : Option String :=
  let extension := (Files.Path.extension file).toList.drop 1
  (knownExtensions.find? (·.2.elem (String.ofList extension))).map (·.1)

/-- A file whose extension stands for two others, with these. -/
def spellOut (file : String) : String :=
  match shortExtensions.lookup (Files.Path.extension file) with
  | some extensions => Files.Path.withoutExtension file ++ extensions
  | none => file

/-- The media type that a file is given for its name, in which case does not count. -/
def guessedMediaType (file : String) : String :=
  let file := spellOut (String.ofList (Text.shown (Text.lowerCase (Text.letters file.toList))))
  match compressions.lookup (Files.Path.extension file) with
  | none => (knownMediaType? file).getD unknownMediaType
  | some compression =>
    match knownMediaType? (Files.Path.withoutExtension file) with
    | some _ => compression
    | none => unknownMediaType

end Kumihan.Epub
