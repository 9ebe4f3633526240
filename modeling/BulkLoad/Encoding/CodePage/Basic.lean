/-!
The single-byte character sets.

Each agrees with ASCII on the bytes below 0x80; `upperHalf` lists what the other 128 bytes stand
for. A byte to which the set gives no character stands for the replacement character. The two sets
for Hebrew differ only in the direction in which their text is laid out, which a decoder ignores.
-/
namespace BulkLoad.Encoding

inductive CodePage where
  | ibm866
  | iso8859n2
  | iso8859n3
  | iso8859n4
  | iso8859n5
  | iso8859n6
  | iso8859n7
  | iso8859n8
  | iso8859n8I
  | iso8859n10
  | iso8859n13
  | iso8859n14
  | iso8859n15
  | iso8859n16
  | koi8R
  | koi8U
  | macintosh
  | windows874
  | windows1250
  | windows1251
  | windows1252
  | windows1253
  | windows1254
  | windows1255
  | windows1256
  | windows1257
  | windows1258
  | macCyrillic
  deriving DecidableEq, Repr

namespace CodePage

def name : CodePage → String
  | .ibm866 => "IBM866"
  | .iso8859n2 => "ISO-8859-2"
  | .iso8859n3 => "ISO-8859-3"
  | .iso8859n4 => "ISO-8859-4"
  | .iso8859n5 => "ISO-8859-5"
  | .iso8859n6 => "ISO-8859-6"
  | .iso8859n7 => "ISO-8859-7"
  | .iso8859n8 => "ISO-8859-8"
  | .iso8859n8I => "ISO-8859-8-I"
  | .iso8859n10 => "ISO-8859-10"
  | .iso8859n13 => "ISO-8859-13"
  | .iso8859n14 => "ISO-8859-14"
  | .iso8859n15 => "ISO-8859-15"
  | .iso8859n16 => "ISO-8859-16"
  | .koi8R => "KOI8-R"
  | .koi8U => "KOI8-U"
  | .macintosh => "macintosh"
  | .windows874 => "windows-874"
  | .windows1250 => "windows-1250"
  | .windows1251 => "windows-1251"
  | .windows1252 => "windows-1252"
  | .windows1253 => "windows-1253"
  | .windows1254 => "windows-1254"
  | .windows1255 => "windows-1255"
  | .windows1256 => "windows-1256"
  | .windows1257 => "windows-1257"
  | .windows1258 => "windows-1258"
  | .macCyrillic => "x-mac-cyrillic"

end CodePage

end BulkLoad.Encoding
