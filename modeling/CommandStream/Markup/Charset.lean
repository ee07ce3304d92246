import CommandStream.Text.CodePage
import CommandStream.Text.Edit

/-!
# Character sets by name

The encodings that a document may declare beyond those that every reader knows. Each is tried on the
256 bytes: one that gives a character or none for each byte, and the characters of markup for their
own bytes, can be read. The others fail in different ways.
-/

namespace CommandStream.Markup
open Text

/-- How the trial of an encoding ends. -/
inductive Charset where
  | page (p : CodePage)
  /-- Some characters take several bytes. -/
  | multibyte
  /-- Characters of markup stand elsewhere than in ASCII. -/
  | displaced
  /-- The encoding is not made for a trial with replacements. -/
  | untriable
  /-- The encoding cannot decode the bytes. -/
  | undecodable

namespace Charset

/-- The encodings of several bytes, by their own names and by others. -/
def multibyteNames : List String × List String :=
  (["big5", "big5hkscs", "cp932", "cp949", "cp950", "euc_jis_2004", "euc_jisx0213", "euc_jp",
    "euc_kr", "gb18030", "gb2312", "gbk", "iso2022_kr", "johab", "shift_jis", "shift_jis_2004",
    "shift_jisx0213", "utf_16", "utf_16_be", "utf_16_le", "utf_32", "utf_32_be", "utf_32_le",
    "utf_7"],
   ["big5_tw", "csbig5", "x_mac_trad_chinese", "big5_hkscs", "hkscs", "ms932", "ms_kanji",
    "mskanji", "ms949", "uhc", "ms950", "euc_jis2004", "eucjis2004", "jisx0213", "eucjisx0213",
    "eucjp", "u_jis", "ujis", "euckr", "korean", "ks_c_5601", "ks_c_5601_1987", "ks_x_1001",
    "ksc5601", "ksx1001", "x_mac_korean", "gb18030_2000", "chinese", "csiso58gb231280", "euc_cn",
    "euccn", "eucgb2312_cn", "gb2312_1980", "gb2312_80", "iso_ir_58", "x_mac_simp_chinese", "cp936",
    "ms936", "csiso2022kr", "iso2022kr", "iso_2022_kr", "cp1361", "ms1361", "csshiftjis", "s_jis",
    "shiftjis", "sjis", "x_mac_japanese", "s_jis_2004", "shiftjis2004", "sjis_2004", "s_jisx0213",
    "shiftjisx0213", "sjisx0213", "u16", "utf16", "unicodebigunmarked", "utf_16be",
    "unicodelittleunmarked", "utf_16le", "u32", "utf32", "utf_32be", "utf_32le", "u7",
    "unicode_1_1_utf_7", "utf7"])

/-- The encodings of one byte that displace characters of markup, by their own names and by
others. -/
def displacedNames : List String × List String :=
  (["cp037", "cp1026", "cp1140", "cp273", "cp424", "cp500", "cp864", "cp875", "mac_arabic",
    "mac_farsi"],
   ["csibm037", "ebcdic_cp_ca", "ebcdic_cp_nl", "ebcdic_cp_us", "ebcdic_cp_wt", "ibm037", "ibm039",
    "csibm1026", "ibm1026", "ibm1140", "csibm273", "ibm273", "csibm424", "ebcdic_cp_he", "ibm424",
    "csibm500", "ebcdic_cp_be", "ebcdic_cp_ch", "ibm500", "csibm864", "ibm864"])

/-- The encodings that are not made for a trial. -/
def untriableNames : List String × List String := (["idna", "undefined"], [])

/-- The encodings that fail in a trial. -/
def undecodableNames : List String × List String := (["punycode"], [])

/-- Whether a character belongs to a word of a name. -/
def isNameChar (c : Char) : Bool :=
  c.isAlphanum || c == '.'

/-- A name in the form in which names are compared: its words are joined by single low lines. -/
def comparable (name : String) : String :=
  let words := (name.toList.splitBy fun a b => isNameChar a == isNameChar b).filter fun run =>
    run.any isNameChar
  "_".intercalate (words.map fun word => String.ofList (word.map Char.toLower))

/-- Whether a name is among given ones. For names other than an encoding's own, points count as low
lines. -/
def isAmong (name : String) (names : List String × List String) : Bool :=
  let form := comparable name
  names.1.contains form || names.2.contains form || names.2.contains (replaceAll form "." "_")

/-- The character set of a name. -/
def ofName? (name : String) : Option Charset :=
  match CodePage.all.find? fun p => isAmong name (p.titles, p.aliases) with
  | some p => some (.page p)
  | none =>
    if isAmong name multibyteNames then some .multibyte
    else if isAmong name displacedNames then some .displaced
    else if isAmong name untriableNames then some .untriable
    else if isAmong name undecodableNames then some .undecodable
    else none

end Charset

end CommandStream.Markup
