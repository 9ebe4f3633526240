import BulkLoad.Encoding.CodePage.Basic
import BulkLoad.Encoding.Utf16

/-!
The encodings of the Encoding Standard and their names.
-/
namespace BulkLoad.Encoding

inductive EastAsian where
  | gbk
  | gb18030
  | big5
  | eucJp
  | iso2022Jp
  | shiftJis
  | eucKr
  deriving DecidableEq, Repr

def EastAsian.name : EastAsian → String
  | .gbk => "GBK"
  | .gb18030 => "gb18030"
  | .big5 => "Big5"
  | .eucJp => "EUC-JP"
  | .iso2022Jp => "ISO-2022-JP"
  | .shiftJis => "Shift_JIS"
  | .eucKr => "EUC-KR"

end BulkLoad.Encoding

namespace BulkLoad

open Encoding in
inductive Encoding where
  | utf8
  | utf16 (order : ByteOrder)
  | codePage (page : CodePage)
  | eastAsian (set : EastAsian)
  /-- Text that must not be read at all: it is one replacement character. -/
  | replacement
  /-- ASCII, with the bytes from 0x80 up kept apart in the private use area. -/
  | userDefined
  deriving DecidableEq, Repr

namespace Encoding

def name : Encoding → String
  | .utf8 => "UTF-8"
  | .utf16 .littleEndian => "UTF-16LE"
  | .utf16 .bigEndian => "UTF-16BE"
  | .codePage page => page.name
  | .eastAsian set => set.name
  | .replacement => "replacement"
  | .userDefined => "x-user-defined"

end Encoding

end BulkLoad
