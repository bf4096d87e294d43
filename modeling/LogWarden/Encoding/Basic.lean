import LogWarden.Encoding.CodePage
import LogWarden.Text

/-! # Text encodings

An encoding has a name and labels by which documents call it. Labels are compared up to the case of
ASCII letters, without the white space around them. -/

namespace LogWarden

/-- A text encoding. -/
inductive Encoding
  | utf8 | gbk | gb18030 | big5 | eucJp | iso2022Jp | shiftJis | eucKr | utf16be | utf16le
  /-- Stands for encodings that are not safe to read: a text is one replacement character. -/
  | replacement
  | userDefined
  | codePage (page : Encoding.CodePage)
  deriving DecidableEq, Repr

namespace Encoding

/-- All encodings. -/
def all : List Encoding :=
  [.utf8, .gbk, .gb18030, .big5, .eucJp, .iso2022Jp, .shiftJis, .eucKr, .utf16be, .utf16le,
   .replacement, .userDefined] ++ CodePage.all.map .codePage

/-- The name of an encoding. -/
def name : Encoding → String
  | .utf8 => "UTF-8"
  | .gbk => "GBK"
  | .gb18030 => "gb18030"
  | .big5 => "Big5"
  | .eucJp => "EUC-JP"
  | .iso2022Jp => "ISO-2022-JP"
  | .shiftJis => "Shift_JIS"
  | .eucKr => "EUC-KR"
  | .utf16be => "UTF-16BE"
  | .utf16le => "UTF-16LE"
  | .replacement => "replacement"
  | .userDefined => "x-user-defined"
  | .codePage page => page.name

/-- The labels of an encoding, in lower case. -/
def labels : Encoding → List String
  | .utf8 =>
    ["unicode-1-1-utf-8", "unicode11utf8", "unicode20utf8", "utf-8", "utf8", "x-unicode20utf8"]
  | .gbk =>
    ["chinese", "csgb2312", "csiso58gb231280", "gb2312", "gb_2312", "gb_2312-80", "gbk",
     "iso-ir-58", "x-gbk"]
  | .gb18030 => ["gb18030"]
  | .big5 => ["big5", "big5-hkscs", "cn-big5", "csbig5", "x-x-big5"]
  | .eucJp => ["cseucpkdfmtjapanese", "euc-jp", "x-euc-jp"]
  | .iso2022Jp => ["csiso2022jp", "iso-2022-jp"]
  | .shiftJis =>
    ["csshiftjis", "ms932", "ms_kanji", "shift-jis", "shift_jis", "sjis", "windows-31j", "x-sjis"]
  | .eucKr =>
    ["cseuckr", "csksc56011987", "euc-kr", "iso-ir-149", "korean", "ks_c_5601-1987",
     "ks_c_5601-1989", "ksc5601", "ksc_5601", "windows-949"]
  | .utf16be => ["unicodefffe", "utf-16be"]
  | .utf16le =>
    ["csunicode", "iso-10646-ucs-2", "ucs-2", "unicode", "unicodefeff", "utf-16", "utf-16le"]
  | .replacement =>
    ["csiso2022kr", "hz-gb-2312", "iso-2022-cn", "iso-2022-cn-ext", "iso-2022-kr", "replacement"]
  | .userDefined => ["x-user-defined"]
  | .codePage page => page.labels

/-- A label in the form in which labels are listed. -/
def labelForm (s : String) : String :=
  String.ofList ((Text.trimChars s.toList).map Char.toLower)

/-- The encoding that a label stands for. -/
def ofLabel? (label : String) : Option Encoding :=
  all.find? fun e => e.labels.contains (labelForm label)

end Encoding

end LogWarden
