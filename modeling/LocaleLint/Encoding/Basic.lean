import LocaleLint.Encoding.CodePage.Iso8859
import LocaleLint.Encoding.CodePage.Other
import LocaleLint.Encoding.CodePage.Windows
import LocaleLint.Text.Basic

namespace LocaleLint

inductive CodePage where
  | ibm866
  | iso8859x2
  | iso8859x3
  | iso8859x4
  | iso8859x5
  | iso8859x6
  | iso8859x7
  | iso8859x8
  | iso8859x8I
  | iso8859x10
  | iso8859x13
  | iso8859x14
  | iso8859x15
  | iso8859x16
  | koi8R
  | koi8U
  | macintosh
  | windows874
  | windows1250
  | windows1251
  | windows1252
  | windows1253
  | windows1254
  | windows1255
  | windows1256
  | windows1257
  | windows1258
  | macCyrillic
  deriving DecidableEq, Repr

namespace CodePage

def name : CodePage → Text
  | ibm866 => "IBM866".toList
  | iso8859x2 => "ISO-8859-2".toList
  | iso8859x3 => "ISO-8859-3".toList
  | iso8859x4 => "ISO-8859-4".toList
  | iso8859x5 => "ISO-8859-5".toList
  | iso8859x6 => "ISO-8859-6".toList
  | iso8859x7 => "ISO-8859-7".toList
  | iso8859x8 => "ISO-8859-8".toList
  | iso8859x8I => "ISO-8859-8-I".toList
  | iso8859x10 => "ISO-8859-10".toList
  | iso8859x13 => "ISO-8859-13".toList
  | iso8859x14 => "ISO-8859-14".toList
  | iso8859x15 => "ISO-8859-15".toList
  | iso8859x16 => "ISO-8859-16".toList
  | koi8R => "KOI8-R".toList
  | koi8U => "KOI8-U".toList
  | macintosh => "macintosh".toList
  | windows874 => "windows-874".toList
  | windows1250 => "windows-1250".toList
  | windows1251 => "windows-1251".toList
  | windows1252 => "windows-1252".toList
  | windows1253 => "windows-1253".toList
  | windows1254 => "windows-1254".toList
  | windows1255 => "windows-1255".toList
  | windows1256 => "windows-1256".toList
  | windows1257 => "windows-1257".toList
  | windows1258 => "windows-1258".toList
  | macCyrillic => "x-mac-cyrillic".toList

/-- Characters for the bytes 80 to FF, 0 where there is none. -/
def table : CodePage → Array Nat
  | ibm866 => ibm866Table
  | iso8859x2 => iso8859x2Table
  | iso8859x3 => iso8859x3Table
  | iso8859x4 => iso8859x4Table
  | iso8859x5 => iso8859x5Table
  | iso8859x6 => iso8859x6Table
  | iso8859x7 => iso8859x7Table
  | iso8859x8 | iso8859x8I => iso8859x8Table
  | iso8859x10 => iso8859x10Table
  | iso8859x13 => iso8859x13Table
  | iso8859x14 => iso8859x14Table
  | iso8859x15 => iso8859x15Table
  | iso8859x16 => iso8859x16Table
  | koi8R => koi8RTable
  | koi8U => koi8UTable
  | macintosh => macintoshTable
  | windows874 => windows874Table
  | windows1250 => windows1250Table
  | windows1251 => windows1251Table
  | windows1252 => windows1252Table
  | windows1253 => windows1253Table
  | windows1254 => windows1254Table
  | windows1255 => windows1255Table
  | windows1256 => windows1256Table
  | windows1257 => windows1257Table
  | windows1258 => windows1258Table
  | macCyrillic => macCyrillicTable

def char? (p : CodePage) (b : UInt8) : Option Char :=
  if b < 0x80 then some (Char.ofNat b.toNat)
  else
    match p.table[b.toNat - 0x80]? with
    | some n => if n = 0 then none else some (Char.ofNat n)
    | none => none

end CodePage

inductive MultiByte where
  | big5
  | eucJp
  | eucKr
  | gbk
  | gb18030
  | iso2022Jp
  | shiftJis
  deriving DecidableEq, Repr

def MultiByte.name : MultiByte → Text
  | big5 => "Big5".toList
  | eucJp => "EUC-JP".toList
  | eucKr => "EUC-KR".toList
  | gbk => "GBK".toList
  | gb18030 => "gb18030".toList
  | iso2022Jp => "ISO-2022-JP".toList
  | shiftJis => "Shift_JIS".toList

inductive Encoding where
  | utf8
  | utf16le
  | utf16be
  | page (p : CodePage)
  | multiByte (m : MultiByte)
  /-- Bytes above ASCII stand for private use characters. -/
  | userDefined
  /-- Stands for encodings that are not decoded at all. -/
  | replacement
  deriving DecidableEq, Repr

def Encoding.name : Encoding → Text
  | utf8 => "UTF-8".toList
  | utf16le => "UTF-16LE".toList
  | utf16be => "UTF-16BE".toList
  | page p => p.name
  | multiByte m => m.name
  | userDefined => "x-user-defined".toList
  | replacement => "replacement".toList

end LocaleLint
