/-
# OwnerCache.Url.Folding -- characters that a domain name spells differently

A domain name has no capitals and no compatibility forms: a capital becomes its
small letter, and a form that exists for the sake of its looks -- wide, circled,
raised, squeezed into one square -- becomes the plain characters that it shows.
Some characters do not show at all; a name is written without them.

The tables hold what UTS #46 maps, by the data of Unicode 17 with the letters
U+0558 and U+058B, which are younger.  Forms that show a space are not among them:
no name has a space.
-/
import OwnerCache.Text.Lowercase
import OwnerCache.Text.Span

namespace OwnerCache.Folding

set_option autoImplicit false
set_option maxRecDepth 4000

open Lowercase (Run)

/-! ## Letters in order -/

def runs : List Run :=
  [ ⟨0xC0, 23, 1, 0xE0⟩, ⟨0xD8, 7, 1, 0xF8⟩, ⟨0x100, 24, 2, 0x101⟩, ⟨0x141, 4, 2, 0x142⟩,
    ⟨0x14A, 23, 2, 0x14B⟩, ⟨0x1CD, 8, 2, 0x1CE⟩, ⟨0x1DE, 9, 2, 0x1DF⟩, ⟨0x1F8, 20, 2, 0x1F9⟩,
    ⟨0x222, 9, 2, 0x223⟩, ⟨0x246, 5, 2, 0x247⟩, ⟨0x391, 17, 1, 0x3B1⟩, ⟨0x3A3, 9, 1, 0x3C3⟩,
    ⟨0x3D8, 12, 2, 0x3D9⟩, ⟨0x400, 16, 1, 0x450⟩, ⟨0x410, 32, 1, 0x430⟩, ⟨0x460, 17, 2, 0x461⟩,
    ⟨0x48A, 27, 2, 0x48B⟩, ⟨0x4C1, 7, 2, 0x4C2⟩, ⟨0x4D0, 48, 2, 0x4D1⟩, ⟨0x531, 38, 1, 0x561⟩,
    ⟨0x10A0, 38, 1, 0x2D00⟩, ⟨0x13F8, 6, 1, 0x13F0⟩, ⟨0x1C90, 43, 1, 0x10D0⟩, ⟨0x1D31, 5, 2, 0x65⟩,
    ⟨0x1D34, 4, 2, 0x68⟩, ⟨0x1DAE, 4, 1, 0x272⟩, ⟨0x1E00, 75, 2, 0x1E01⟩, ⟨0x1EA0, 48, 2, 0x1EA1⟩,
    ⟨0x1F08, 8, 1, 0x1F00⟩, ⟨0x1F18, 6, 1, 0x1F10⟩, ⟨0x1F28, 8, 1, 0x1F20⟩, ⟨0x1F38, 8, 1, 0x1F30⟩,
    ⟨0x1F48, 6, 1, 0x1F40⟩, ⟨0x1F59, 4, 2, 0x1F51⟩, ⟨0x1F68, 8, 1, 0x1F60⟩, ⟨0x2074, 6, 1, 0x34⟩,
    ⟨0x2080, 10, 1, 0x30⟩, ⟨0x2096, 4, 1, 0x6B⟩, ⟨0x2135, 4, 1, 0x5D0⟩, ⟨0x2460, 9, 1, 0x31⟩,
    ⟨0x24B6, 26, 1, 0x61⟩, ⟨0x24D0, 26, 1, 0x61⟩, ⟨0x2C00, 48, 1, 0x2C30⟩, ⟨0x2C80, 50, 2, 0x2C81⟩,
    ⟨0x313A, 6, 1, 0x11B0⟩, ⟨0x3145, 10, 1, 0x1109⟩, ⟨0x314F, 21, 1, 0x1161⟩,
    ⟨0x3178, 5, 1, 0x112B⟩, ⟨0x3269, 5, 1, 0x110E⟩, ⟨0x32E4, 6, 1, 0x30CA⟩, ⟨0x32EE, 5, 1, 0x30DE⟩,
    ⟨0x32F5, 6, 1, 0x30E8⟩, ⟨0x32FB, 4, 1, 0x30EF⟩, ⟨0xA640, 23, 2, 0xA641⟩,
    ⟨0xA680, 14, 2, 0xA681⟩, ⟨0xA722, 7, 2, 0xA723⟩, ⟨0xA732, 31, 2, 0xA733⟩,
    ⟨0xA77E, 5, 2, 0xA77F⟩, ⟨0xA796, 10, 2, 0xA797⟩, ⟨0xA7B4, 8, 2, 0xA7B5⟩, ⟨0xA7CC, 8, 2, 0xA7CD⟩,
    ⟨0xAB70, 80, 1, 0x13A0⟩, ⟨0xFE41, 4, 1, 0x300C⟩, ⟨0xFF01, 32, 1, 0x21⟩, ⟨0xFF21, 26, 1, 0x61⟩,
    ⟨0xFF3B, 36, 1, 0x5B⟩, ⟨0xFF85, 6, 1, 0x30CA⟩, ⟨0xFF8F, 5, 1, 0x30DE⟩, ⟨0xFF96, 6, 1, 0x30E8⟩,
    ⟨0xFFAA, 6, 1, 0x11B0⟩, ⟨0xFFB5, 10, 1, 0x1109⟩, ⟨0xFFC2, 6, 1, 0x1161⟩, ⟨0xFFCA, 6, 1, 0x1167⟩,
    ⟨0xFFD2, 6, 1, 0x116D⟩, ⟨0xFFE9, 4, 1, 0x2190⟩, ⟨0x10400, 40, 1, 0x10428⟩,
    ⟨0x104B0, 36, 1, 0x104D8⟩, ⟨0x10570, 19, 2, 0x10597⟩, ⟨0x10571, 5, 2, 0x10598⟩,
    ⟨0x1057D, 7, 2, 0x105A4⟩, ⟨0x10C80, 51, 1, 0x10CC0⟩, ⟨0x10D50, 22, 1, 0x10D70⟩,
    ⟨0x118A0, 32, 1, 0x118C0⟩, ⟨0x16E40, 32, 1, 0x16E60⟩, ⟨0x16EA0, 25, 1, 0x16EBB⟩,
    ⟨0x1CCD6, 26, 1, 0x61⟩, ⟨0x1CCF0, 10, 1, 0x30⟩, ⟨0x1D400, 26, 1, 0x61⟩, ⟨0x1D41A, 26, 1, 0x61⟩,
    ⟨0x1D434, 26, 1, 0x61⟩, ⟨0x1D44E, 13, 2, 0x61⟩, ⟨0x1D457, 9, 2, 0x6A⟩, ⟨0x1D468, 26, 1, 0x61⟩,
    ⟨0x1D482, 26, 1, 0x61⟩, ⟨0x1D4A9, 4, 1, 0x6E⟩, ⟨0x1D4AE, 8, 1, 0x73⟩, ⟨0x1D4B6, 4, 1, 0x61⟩,
    ⟨0x1D4BB, 11, 2, 0x66⟩, ⟨0x1D4C6, 5, 2, 0x71⟩, ⟨0x1D4D0, 26, 1, 0x61⟩, ⟨0x1D4EA, 26, 1, 0x61⟩,
    ⟨0x1D507, 4, 1, 0x64⟩, ⟨0x1D50D, 8, 1, 0x6A⟩, ⟨0x1D516, 7, 1, 0x73⟩, ⟨0x1D51E, 26, 1, 0x61⟩,
    ⟨0x1D53B, 4, 1, 0x64⟩, ⟨0x1D540, 5, 1, 0x69⟩, ⟨0x1D54A, 7, 1, 0x73⟩, ⟨0x1D552, 26, 1, 0x61⟩,
    ⟨0x1D56C, 26, 1, 0x61⟩, ⟨0x1D586, 26, 1, 0x61⟩, ⟨0x1D5A0, 26, 1, 0x61⟩, ⟨0x1D5BA, 26, 1, 0x61⟩,
    ⟨0x1D5D4, 26, 1, 0x61⟩, ⟨0x1D5EE, 26, 1, 0x61⟩, ⟨0x1D608, 26, 1, 0x61⟩, ⟨0x1D622, 26, 1, 0x61⟩,
    ⟨0x1D63C, 26, 1, 0x61⟩, ⟨0x1D656, 26, 1, 0x61⟩, ⟨0x1D670, 26, 1, 0x61⟩, ⟨0x1D68A, 26, 1, 0x61⟩,
    ⟨0x1D6A8, 17, 1, 0x3B1⟩, ⟨0x1D6BA, 7, 1, 0x3C3⟩, ⟨0x1D6C2, 17, 1, 0x3B1⟩,
    ⟨0x1D6D4, 7, 1, 0x3C3⟩, ⟨0x1D6E2, 17, 1, 0x3B1⟩, ⟨0x1D6F4, 7, 1, 0x3C3⟩,
    ⟨0x1D6FC, 17, 1, 0x3B1⟩, ⟨0x1D70E, 7, 1, 0x3C3⟩, ⟨0x1D71C, 17, 1, 0x3B1⟩,
    ⟨0x1D72E, 7, 1, 0x3C3⟩, ⟨0x1D736, 17, 1, 0x3B1⟩, ⟨0x1D748, 7, 1, 0x3C3⟩,
    ⟨0x1D756, 17, 1, 0x3B1⟩, ⟨0x1D768, 7, 1, 0x3C3⟩, ⟨0x1D770, 17, 1, 0x3B1⟩,
    ⟨0x1D782, 7, 1, 0x3C3⟩, ⟨0x1D790, 17, 1, 0x3B1⟩, ⟨0x1D7A2, 7, 1, 0x3C3⟩,
    ⟨0x1D7AA, 17, 1, 0x3B1⟩, ⟨0x1D7BC, 7, 1, 0x3C3⟩, ⟨0x1D7CE, 10, 1, 0x30⟩, ⟨0x1D7D8, 10, 1, 0x30⟩,
    ⟨0x1D7E2, 10, 1, 0x30⟩, ⟨0x1D7EC, 10, 1, 0x30⟩, ⟨0x1D7F6, 10, 1, 0x30⟩, ⟨0x1E030, 9, 1, 0x430⟩,
    ⟨0x1E03C, 11, 1, 0x43E⟩, ⟨0x1E051, 9, 1, 0x430⟩, ⟨0x1E05F, 6, 1, 0x443⟩,
    ⟨0x1E900, 34, 1, 0x1E922⟩, ⟨0x1EE0A, 4, 1, 0x643⟩, ⟨0x1EE2A, 4, 1, 0x643⟩,
    ⟨0x1F130, 26, 1, 0x61⟩, ⟨0x1FBF0, 10, 1, 0x30⟩ ]

/-! ## Other forms -/

/-- Consecutive characters, each with what a name has in its place. -/
structure Row where
  first : Nat
  images : List (List Char)

/-- A row from its images with spaces between them. -/
def row (first : Nat) (images : String) : Row := ⟨first, images.toList.splitOn ' '⟩

def Row.image? (r : Row) (n : Nat) : Option (List Char) :=
  if r.first ≤ n then r.images[n - r.first]? else none

def rows : List Row :=
  [ row 0xAA "a",
    row 0xB2 "2 3",
    row 0xB5 "μ",
    row 0xB9 "1 o » 1⁄4 1⁄2 3⁄4",
    row 0x130 "i\u0307 ı ij ij ĵ ĵ ķ ķ ĸ ĺ ĺ ļ ļ ľ ľ l· l·",
    row 0x149 "ʼn",
    row 0x178 "ÿ ź ź ż ż ž ž s ƀ ɓ ƃ ƃ ƅ ƅ ɔ ƈ ƈ ɖ ɗ ƌ ƌ ƍ ǝ ə ɛ ƒ ƒ ɠ ɣ ƕ ɩ ɨ ƙ",
    row 0x19C "ɯ ɲ ƞ ɵ ơ ơ ƣ ƣ ƥ ƥ ʀ ƨ ƨ ʃ ƪ ƫ ƭ ƭ ʈ ư ư ʊ ʋ ƴ ƴ ƶ ƶ ʒ ƹ",
    row 0x1BC "ƽ",
    row 0x1C4 "dž dž dž lj lj lj nj nj nj",
    row 0x1F1 "dz dz dz ǵ ǵ ƕ ƿ",
    row 0x220 "ƞ",
    row 0x23A "ⱥ ȼ ȼ ƚ ⱦ ȿ ɀ ɂ ɂ ƀ ʉ ʌ",
    row 0x2B0 "h ɦ j r ɹ ɻ ʁ w y",
    row 0x2E0 "ɣ l s x ʕ",
    row 0x340 "\u0300 \u0301 \u0342 \u0313 \u0308\u0301 ι",
    row 0x370 "ͱ ͱ ͳ ͳ ʹ ͵ ͷ",
    row 0x37E "; ϳ",
    row 0x386 "ά · έ ή ί",
    row 0x38C "ό",
    row 0x38E "ύ ώ",
    row 0x3CF "ϗ β θ υ ύ ϋ φ π",
    row 0x3F0 "κ ρ σ ϳ θ ε ϶ ϸ ϸ σ ϻ ϻ ϼ ͻ ͼ ͽ",
    row 0x4C0 "ӏ",
    row 0x558 "է",
    row 0x587 "եւ",
    row 0x58B "ի",
    row 0x675 "\u0627\u0674 \u0648\u0674 \u06c7\u0674 \u064a\u0674",
    row 0x958 "क\u093c ख\u093c ग\u093c ज\u093c ड\u093c ढ\u093c फ\u093c य\u093c",
    row 0x9DC "ড\u09bc ঢ\u09bc",
    row 0x9DF "য\u09bc",
    row 0xA33 "ਲ\u0a3c",
    row 0xA36 "ਸ\u0a3c",
    row 0xA59 "ਖ\u0a3c ਗ\u0a3c ਜ\u0a3c",
    row 0xA5E "ਫ\u0a3c",
    row 0xB5C "ଡ\u0b3c ଢ\u0b3c",
    row 0xE33 "\u0e4dา",
    row 0xEB3 "\u0ecdາ",
    row 0xEDC "ຫນ ຫມ",
    row 0xF0C "་",
    row 0xF43 "ག\u0fb7",
    row 0xF4D "ཌ\u0fb7",
    row 0xF52 "ད\u0fb7",
    row 0xF57 "བ\u0fb7",
    row 0xF5C "ཛ\u0fb7",
    row 0xF69 "ཀ\u0fb5",
    row 0xF73 "\u0f71\u0f72 \u0f74 \u0f71\u0f74 \u0fb2\u0f80 \u0fb2\u0f71\u0f80 \u0fb3\u0f80",
    row 0xF79 "\u0fb3\u0f71\u0f80",
    row 0xF81 "\u0f71\u0f80",
    row 0xF93 "\u0f92\u0fb7",
    row 0xF9D "\u0f9c\u0fb7",
    row 0xFA2 "\u0fa1\u0fb7",
    row 0xFA7 "\u0fa6\u0fb7",
    row 0xFAC "\u0fab\u0fb7",
    row 0xFB9 "\u0f90\u0fb5",
    row 0x10C7 "ⴧ",
    row 0x10CD "ⴭ",
    row 0x10FC "ნ",
    row 0x1C80 "в д о с т т ъ ѣ ꙋ ᲊ",
    row 0x1CBD "ჽ ჾ ჿ",
    row 0x1D2C "a æ b ᴯ d e ǝ",
    row 0x1D3C "o ȣ p r t u w a ɐ ɑ ᴂ b d e ə ɛ ɜ g ᵎ k m ŋ o ɔ ᴖ ᴗ p t u ᴝ ɯ v ᴥ β γ δ φ χ i r",
    row 0x1D64 "u v β γ ρ φ χ",
    row 0x1D78 "н",
    row 0x1D9B "ɒ c ɕ ð ɜ f ɟ ɡ ɥ ɨ ɩ ɪ ᵻ ʝ ɭ ᶅ ʟ ɱ ɰ",
    row 0x1DB2 "ɸ ʂ ʃ ƫ ʉ ʊ ᴜ ʋ ʌ z ʐ ʑ ʒ θ",
    row 0x1E9A "aʾ ṡ ẜ ẝ ß",
    row 0x1F71 "ά ὲ έ ὴ ή ὶ ί ὸ ό ὺ ύ ὼ ώ",
    row 0x1F80 "ἀι ἁι ἂι ἃι ἄι ἅι ἆι ἇι ἀι ἁι ἂι ἃι ἄι ἅι ἆι ἇι ἠι ἡι ἢι ἣι ἤι ἥι ἦι ἧι ἠι ἡι ἢι",
    row 0x1F9B "ἣι ἤι ἥι ἦι ἧι ὠι ὡι ὢι ὣι ὤι ὥι ὦι ὧι ὠι ὡι ὢι ὣι ὤι ὥι ὦι ὧι ᾰ ᾱ ὰι αι άι",
    row 0x1FB7 "ᾶι ᾰ ᾱ ὰ ά αι",
    row 0x1FBE "ι",
    row 0x1FC2 "ὴι ηι ήι",
    row 0x1FC7 "ῆι ὲ έ ὴ ή ηι",
    row 0x1FD3 "ΐ",
    row 0x1FD8 "ῐ ῑ ὶ ί",
    row 0x1FE3 "ΰ",
    row 0x1FE8 "ῠ ῡ ὺ ύ ῥ",
    row 0x1FEF "\x60",
    row 0x1FF2 "ὼι ωι ώι",
    row 0x1FF7 "ῶι ὸ ό ὼ ώ ωι",
    row 0x2011 "‐",
    row 0x2033 "′′ ′′′ ‵ ‵‵ ‵‵‵",
    row 0x203C "!!",
    row 0x2047 "?? ?! !?",
    row 0x2057 "′′′′",
    row 0x2070 "0 i",
    row 0x207A "+ − = ( ) n",
    row 0x208A "+ − = ( )",
    row 0x2090 "a e o x ə h",
    row 0x209A "p s t",
    row 0x20A8 "rs",
    row 0x2100 "a/c a/s c °c ℄ c/o c/u ɛ ℈ °f g h h h h ħ i i l l ℔ n no ℗ ℘ p q r r r ℞ ℟ sm",
    row 0x2121 "tel tm ℣ z ℥ ω ℧ z ℩ k å b c ℮ e e f ⅎ m o",
    row 0x2139 "i ℺ fax π γ γ π ∑",
    row 0x2145 "d d e i j",
    row 0x2150 "1⁄7 1⁄9 1⁄10 1⁄3 2⁄3 1⁄5 2⁄5 3⁄5 4⁄5 1⁄6 5⁄6 1⁄8 3⁄8 5⁄8 7⁄8 1⁄ i ii iii iv v vi",
    row 0x2166 "vii viii ix x xi xii l c d m i ii iii iv v vi vii viii ix x xi xii l c d m",
    row 0x2183 "ↄ",
    row 0x2189 "0⁄3",
    row 0x222C "∫∫ ∫∫∫ ∮ ∮∮ ∮∮∮",
    row 0x2329 "〈 〉",
    row 0x2469 "10 11 12 13 14 15 16 17 18 19 20 (1) (2) (3) (4) (5) (6) (7) (8) (9) (10) (11)",
    row 0x247F "(12) (13) (14) (15) (16) (17) (18) (19) (20)",
    row 0x249C "(a) (b) (c) (d) (e) (f) (g) (h) (i) (j) (k) (l) (m) (n) (o) (p) (q) (r) (s) (t)",
    row 0x24B0 "(u) (v) (w) (x) (y) (z)",
    row 0x24EA "0",
    row 0x2A0C "∫∫∫∫",
    row 0x2A74 "::= == ===",
    row 0x2ADC "⫝\u0338",
    row 0x2C60 "ⱡ ⱡ ɫ ᵽ ɽ ⱥ ⱦ ⱨ ⱨ ⱪ ⱪ ⱬ ⱬ ɑ ɱ ɐ ɒ ⱱ ⱳ ⱳ ⱴ ⱶ",
    row 0x2C7C "j v ȿ ɀ",
    row 0x2CEB "ⳬ ⳬ ⳮ",
    row 0x2CF2 "ⳳ",
    row 0x2D6F "ⵡ",
    row 0x2E9F "母",
    row 0x2EF3 "龟",
    row 0x2F00 "一 丨 丶 丿 乙 亅 二 亠 人 儿 入 八 冂 冖 冫 几 凵 刀 力 勹 匕 匚 匸 十 卜 卩 厂 厶 又 口 囗 土 士 夂 夊 夕 大 女 子 宀",
    row 0x2F28 "寸 小 尢 尸 屮 山 巛 工 己 巾 干 幺 广 廴 廾 弋 弓 彐 彡 彳 心 戈 戶 手 支 攴 文 斗 斤 方 无 日 曰 月 木 欠 止 歹 殳 毋",
    row 0x2F50 "比 毛 氏 气 水 火 爪 父 爻 爿 片 牙 牛 犬 玄 玉 瓜 瓦 甘 生 用 田 疋 疒 癶 白 皮 皿 目 矛 矢 石 示 禸 禾 穴 立 竹 米 糸",
    row 0x2F78 "缶 网 羊 羽 老 而 耒 耳 聿 肉 臣 自 至 臼 舌 舛 舟 艮 色 艸 虍 虫 血 行 衣 襾 見 角 言 谷 豆 豕 豸 貝 赤 走 足 身 車 辛",
    row 0x2FA0 "辰 辵 邑 酉 釆 里 金 長 門 阜 隶 隹 雨 靑 非 面 革 韋 韭 音 頁 風 飛 食 首 香 馬 骨 高 髟 鬥 鬯 鬲 鬼 魚 鳥 鹵 鹿 麥 麻",
    row 0x2FC8 "黃 黍 黑 黹 黽 鼎 鼓 鼠 鼻 齊 齒 龍 龜 龠",
    row 0x3002 ".",
    row 0x3036 "〒 〷 十 卄 卅",
    row 0x309F "より",
    row 0x30FF "コト",
    row 0x3131 "ᄀ ᄁ ᆪ ᄂ ᆬ ᆭ ᄃ ᄄ ᄅ",
    row 0x3140 "ᄚ ᄆ ᄇ ᄈ ᄡ",
    row 0x3165 "ᄔ ᄕ ᇇ ᇈ ᇌ ᇎ ᇓ ᇗ ᇙ ᄜ ᇝ ᇟ ᄝ ᄞ ᄠ ᄢ ᄣ ᄧ ᄩ",
    row 0x317D "ᄲ ᄶ ᅀ ᅇ ᅌ ᇱ ᇲ ᅗ ᅘ ᅙ ᆄ ᆅ ᆈ ᆑ ᆒ ᆔ ᆞ ᆡ",
    row 0x3192 "一 二 三 四 上 中 下 甲 乙 丙 丁 天 地 人",
    row 0x3200 "(ᄀ) (ᄂ) (ᄃ) (ᄅ) (ᄆ) (ᄇ) (ᄉ) (ᄋ) (ᄌ) (ᄎ) (ᄏ) (ᄐ) (ᄑ) (ᄒ) (가) (나) (다) (라) (마) (바)",
    row 0x3214 "(사) (아) (자) (차) (카) (타) (파) (하) (주) (오전) (오후)",
    row 0x3220 "(一) (二) (三) (四) (五) (六) (七) (八) (九) (十) (月) (火) (水) (木) (金) (土) (日) (株) (有) (社)",
    row 0x3234 "(名) (特) (財) (祝) (労) (代) (呼) (学) (監) (企) (資) (協) (祭) (休) (自) (至) 問 幼 文 箏",
    row 0x3250 "pte 21 22 23 24 25 26 27 28 29 30 31 32 33 34 35 ᄀ ᄂ ᄃ ᄅ ᄆ ᄇ ᄉ ᄋ ᄌ",
    row 0x326E "가 나 다 라 마 바 사 아 자 차 카 타 파 하 참고 주의 우 ㉿ 一 二 三 四 五 六 七 八 九 十 月 火 水 木 金 土 日 株 有 社 名",
    row 0x3295 "特 財 祝 労 秘 男 女 適 優 印 注 項 休 写 正 上 中 下 左 右 医 宗 学 監 企 資 協 夜 36 37 38 39 40 41 42 43",
    row 0x32B9 "44 45 46 47 48 49 50 1月 2月 3月 4月 5月 6月 7月 8月 9月 10月 11月 12月 hg erg ev ltd ア イ ウ",
    row 0x32D3 "エ オ カ キ ク ケ コ サ シ ス セ ソ タ チ ツ テ ト",
    row 0x32EA "ヒ フ ヘ ホ",
    row 0x32F3 "ヤ ユ",
    row 0x32FF "令和 アパート アルファ アンペア アール イニング インチ ウォン エスクード エーカー オンス オーム カイリ カラット カロリー ガロン ガンマ ギガ",
    row 0x3311 "ギニー キュリー ギルダー キロ キログラム キロメートル キロワット グラム グラムトン クルゼイロ クローネ ケース コルナ コーポ サイクル サンチーム",
    row 0x3321 "シリング センチ セント ダース デシ ドル トン ナノ ノット ハイツ パーセント パーツ バーレル ピアストル ピクル ピコ ビル ファラッド フィート",
    row 0x3334 "ブッシェル フラン ヘクタール ペソ ペニヒ ヘルツ ペンス ページ ベータ ポイント ボルト ホン ポンド ホール ホーン マイクロ マイル マッハ マルク",
    row 0x3347 "マンション ミクロン ミリ ミリバール メガ メガトン メートル ヤード ヤール ユアン リットル リラ ルピー ルーブル レム レントゲン ワット 0点 1点",
    row 0x335A "2点 3点 4点 5点 6点 7点 8点 9点 10点 11点 12点 13点 14点 15点 16点 17点 18点 19点 20点 21点 22点 23点",
    row 0x3370 "24点 hpa da au bar ov pc dm dm2 dm3 iu 平成 昭和 大正 明治 株式会社 pa na μa ma ka kb mb gb",
    row 0x3388 "cal kcal pf nf μf μg mg kg hz khz mhz ghz thz μl ml dl kl fm nm μm mm cm km mm2",
    row 0x33A0 "cm2 m2 km2 mm3 cm3 m3 km3 m∕s m∕s2 pa kpa mpa gpa rad rad∕s rad∕s2 ps ns μs ms",
    row 0x33B4 "pv nv μv mv kv mv pw nw μw mw kw mw kω mω",
    row 0x33C3 "bq cc cd c∕kg",
    row 0x33C8 "db gy ha hp in kk km kt lm ln log lx mb mil mol ph",
    row 0x33D9 "ppm pr sr sv wb v∕m a∕m 1日 2日 3日 4日 5日 6日 7日 8日 9日 10日 11日 12日 13日 14日 15日 16日",
    row 0x33F0 "17日 18日 19日 20日 21日 22日 23日 24日 25日 26日 27日 28日 29日 30日 31日 gal",
    row 0xA69C "ъ ь",
    row 0xA770 "ꝯ",
    row 0xA779 "ꝺ ꝺ ꝼ ꝼ ᵹ",
    row 0xA78B "ꞌ ꞌ ɥ ꞎ ꞏ ꞑ ꞑ ꞓ",
    row 0xA7AA "ɦ ɜ ɡ ɬ ɪ ꞯ ʞ ʇ ʝ ꭓ",
    row 0xA7C4 "ꞔ ʂ ᶎ ꟈ ꟈ ꟊ ꟊ ɤ",
    row 0xA7DC "ƛ",
    row 0xA7F1 "s c f q ꟶ ꟶ ꟷ ħ œ",
    row 0xAB5C "ꜧ ꬷ ɫ ꭒ",
    row 0xAB69 "ʍ",
    row 0xF900 "豈 更 車 賈 滑 串 句 龜 龜 契 金 喇 奈 懶 癩 羅 蘿 螺 裸 邏 樂 洛 烙 珞 落 酪 駱 亂 卵 欄 爛 蘭 鸞 嵐 濫 藍 襤 拉 臘 蠟",
    row 0xF928 "廊 朗 浪 狼 郎 來 冷 勞 擄 櫓 爐 盧 老 蘆 虜 路 露 魯 鷺 碌 祿 綠 菉 錄 鹿 論 壟 弄 籠 聾 牢 磊 賂 雷 壘 屢 樓 淚 漏 累",
    row 0xF950 "縷 陋 勒 肋 凜 凌 稜 綾 菱 陵 讀 拏 樂 諾 丹 寧 怒 率 異 北 磻 便 復 不 泌 數 索 參 塞 省 葉 說 殺 辰 沈 拾 若 掠 略 亮",
    row 0xF978 "兩 凉 梁 糧 良 諒 量 勵 呂 女 廬 旅 濾 礪 閭 驪 麗 黎 力 曆 歷 轢 年 憐 戀 撚 漣 煉 璉 秊 練 聯 輦 蓮 連 鍊 列 劣 咽 烈",
    row 0xF9A0 "裂 說 廉 念 捻 殮 簾 獵 令 囹 寧 嶺 怜 玲 瑩 羚 聆 鈴 零 靈 領 例 禮 醴 隸 惡 了 僚 寮 尿 料 樂 燎 療 蓼 遼 龍 暈 阮 劉",
    row 0xF9C8 "杻 柳 流 溜 琉 留 硫 紐 類 六 戮 陸 倫 崙 淪 輪 律 慄 栗 率 隆 利 吏 履 易 李 梨 泥 理 痢 罹 裏 裡 里 離 匿 溺 吝 燐 璘",
    row 0xF9F0 "藺 隣 鱗 麟 林 淋 臨 立 笠 粒 狀 炙 識 什 茶 刺 切 度 拓 糖 宅 洞 暴 輻 行 降 見 廓 兀 嗀 﨎 﨏 塚 﨑 晴 﨓 﨔 凞 猪 益",
    row 0xFA18 "礼 神 祥 福 靖 精 羽 﨟 蘒 﨡 諸 﨣 﨤 逸 都",
    row 0xFA2A "飯 飼 館 鶴 郞 隷 侮 僧 免 勉 勤 卑 喝 嘆 器 塀 墨 層 屮 悔 慨 憎 懲 敏 既 暑 梅 海 渚 漢 煮 爫 琢 碑 社 祉 祈 祐 祖 祝",
    row 0xFA52 "禍 禎 穀 突 節 練 縉 繁 署 者 臭 艹 艹 著 褐 視 謁 謹 賓 贈 辶 逸 難 響 頻 恵 𤋮 舘",
    row 0xFA70 "並 况 全 侀 充 冀 勇 勺 喝 啕 喙 嗢 塚 墳 奄 奔 婢 嬨 廒 廙 彩 徭 惘 慎 愈 憎 慠 懲 戴 揄 搜 摒 敖 晴 朗 望 杖 歹 殺 流",
    row 0xFA98 "滛 滋 漢 瀞 煮 瞧 爵 犯 猪 瑱 甆 画 瘝 瘟 益 盛 直 睊 着 磌 窱 節 类 絛 練 缾 者 荒 華 蝹 襁 覆 視 調 諸 請 謁 諾 諭 謹",
    row 0xFAC0 "變 贈 輸 遲 醙 鉶 陼 難 靖 韛 響 頋 頻 鬒 龜 𢡊 𢡄 𣏕 㮝 䀘 䀹 𥉉 𥳐 𧻓 齃 龎",
    row 0xFB00 "ff fi fl ffi ffl st st",
    row 0xFB13 "մն մե մի վն մխ",
    row 0xFB1D "\u05d9\u05b4 \ufb1e \u05f2\u05b7 \u05e2 \u05d0 \u05d3 \u05d4 \u05db \u05dc",
    row 0xFB26 "\u05dd \u05e8 \u05ea + \u05e9\u05c1 \u05e9\u05c2 \u05e9\u05bc\u05c1",
    row 0xFB2D "\u05e9\u05bc\u05c2 \u05d0\u05b7 \u05d0\u05b8 \u05d0\u05bc \u05d1\u05bc",
    row 0xFB32 "\u05d2\u05bc \u05d3\u05bc \u05d4\u05bc \u05d5\u05bc \u05d6\u05bc",
    row 0xFB38 "\u05d8\u05bc \u05d9\u05bc \u05da\u05bc \u05db\u05bc \u05dc\u05bc",
    row 0xFB3E "\u05de\u05bc",
    row 0xFB40 "\u05e0\u05bc \u05e1\u05bc",
    row 0xFB43 "\u05e3\u05bc \u05e4\u05bc",
    row 0xFB46 "\u05e6\u05bc \u05e7\u05bc \u05e8\u05bc \u05e9\u05bc \u05ea\u05bc \u05d5\u05b9",
    row 0xFB4C "\u05d1\u05bf \u05db\u05bf \u05e4\u05bf \u05d0\u05dc \u0671 \u0671 \u067b \u067b",
    row 0xFB54 "\u067b \u067b \u067e \u067e \u067e \u067e \u0680 \u0680 \u0680 \u0680 \u067a",
    row 0xFB5F "\u067a \u067a \u067a \u067f \u067f \u067f \u067f \u0679 \u0679 \u0679 \u0679",
    row 0xFB6A "\u06a4 \u06a4 \u06a4 \u06a4 \u06a6 \u06a6 \u06a6 \u06a6 \u0684 \u0684 \u0684",
    row 0xFB75 "\u0684 \u0683 \u0683 \u0683 \u0683 \u0686 \u0686 \u0686 \u0686 \u0687 \u0687",
    row 0xFB80 "\u0687 \u0687 \u068d \u068d \u068c \u068c \u068e \u068e \u0688 \u0688 \u0698",
    row 0xFB8B "\u0698 \u0691 \u0691 \u06a9 \u06a9 \u06a9 \u06a9 \u06af \u06af \u06af \u06af",
    row 0xFB96 "\u06b3 \u06b3 \u06b3 \u06b3 \u06b1 \u06b1 \u06b1 \u06b1 \u06ba \u06ba \u06bb",
    row 0xFBA1 "\u06bb \u06bb \u06bb \u06c0 \u06c0 \u06c1 \u06c1 \u06c1 \u06c1 \u06be \u06be",
    row 0xFBAC "\u06be \u06be \u06d2 \u06d2 \u06d3 \u06d3",
    row 0xFBD3 "\u06ad \u06ad \u06ad \u06ad \u06c7 \u06c7 \u06c6 \u06c6 \u06c8 \u06c8",
    row 0xFBDD "\u06c7\u0674 \u06cb \u06cb \u06c5 \u06c5 \u06c9 \u06c9 \u06d0 \u06d0 \u06d0",
    row 0xFBE7 "\u06d0 \u0649 \u0649 \u0626\u0627 \u0626\u0627 \u0626\u06d5 \u0626\u06d5",
    row 0xFBEE "\u0626\u0648 \u0626\u0648 \u0626\u06c7 \u0626\u06c7 \u0626\u06c6 \u0626\u06c6",
    row 0xFBF4 "\u0626\u06c8 \u0626\u06c8 \u0626\u06d0 \u0626\u06d0 \u0626\u06d0 \u0626\u0649",
    row 0xFBFA "\u0626\u0649 \u0626\u0649 \u06cc \u06cc \u06cc \u06cc \u0626\u062c \u0626\u062d",
    row 0xFC02 "\u0626\u0645 \u0626\u0649 \u0626\u064a \u0628\u062c \u0628\u062d \u0628\u062e",
    row 0xFC08 "\u0628\u0645 \u0628\u0649 \u0628\u064a \u062a\u062c \u062a\u062d \u062a\u062e",
    row 0xFC0E "\u062a\u0645 \u062a\u0649 \u062a\u064a \u062b\u062c \u062b\u0645 \u062b\u0649",
    row 0xFC14 "\u062b\u064a \u062c\u062d \u062c\u0645 \u062d\u062c \u062d\u0645 \u062e\u062c",
    row 0xFC1A "\u062e\u062d \u062e\u0645 \u0633\u062c \u0633\u062d \u0633\u062e \u0633\u0645",
    row 0xFC20 "\u0635\u062d \u0635\u0645 \u0636\u062c \u0636\u062d \u0636\u062e \u0636\u0645",
    row 0xFC26 "\u0637\u062d \u0637\u0645 \u0638\u0645 \u0639\u062c \u0639\u0645 \u063a\u062c",
    row 0xFC2C "\u063a\u0645 \u0641\u062c \u0641\u062d \u0641\u062e \u0641\u0645 \u0641\u0649",
    row 0xFC32 "\u0641\u064a \u0642\u062d \u0642\u0645 \u0642\u0649 \u0642\u064a \u0643\u0627",
    row 0xFC38 "\u0643\u062c \u0643\u062d \u0643\u062e \u0643\u0644 \u0643\u0645 \u0643\u0649",
    row 0xFC3E "\u0643\u064a \u0644\u062c \u0644\u062d \u0644\u062e \u0644\u0645 \u0644\u0649",
    row 0xFC44 "\u0644\u064a \u0645\u062c \u0645\u062d \u0645\u062e \u0645\u0645 \u0645\u0649",
    row 0xFC4A "\u0645\u064a \u0646\u062c \u0646\u062d \u0646\u062e \u0646\u0645 \u0646\u0649",
    row 0xFC50 "\u0646\u064a \u0647\u062c \u0647\u0645 \u0647\u0649 \u0647\u064a \u064a\u062c",
    row 0xFC56 "\u064a\u062d \u064a\u062e \u064a\u0645 \u064a\u0649 \u064a\u064a \u0630\u0670",
    row 0xFC5C "\u0631\u0670 \u0649\u0670",
    row 0xFC64 "\u0626\u0631 \u0626\u0632 \u0626\u0645 \u0626\u0646 \u0626\u0649 \u0626\u064a",
    row 0xFC6A "\u0628\u0631 \u0628\u0632 \u0628\u0645 \u0628\u0646 \u0628\u0649 \u0628\u064a",
    row 0xFC70 "\u062a\u0631 \u062a\u0632 \u062a\u0645 \u062a\u0646 \u062a\u0649 \u062a\u064a",
    row 0xFC76 "\u062b\u0631 \u062b\u0632 \u062b\u0645 \u062b\u0646 \u062b\u0649 \u062b\u064a",
    row 0xFC7C "\u0641\u0649 \u0641\u064a \u0642\u0649 \u0642\u064a \u0643\u0627 \u0643\u0644",
    row 0xFC82 "\u0643\u0645 \u0643\u0649 \u0643\u064a \u0644\u0645 \u0644\u0649 \u0644\u064a",
    row 0xFC88 "\u0645\u0627 \u0645\u0645 \u0646\u0631 \u0646\u0632 \u0646\u0645 \u0646\u0646",
    row 0xFC8E "\u0646\u0649 \u0646\u064a \u0649\u0670 \u064a\u0631 \u064a\u0632 \u064a\u0645",
    row 0xFC94 "\u064a\u0646 \u064a\u0649 \u064a\u064a \u0626\u062c \u0626\u062d \u0626\u062e",
    row 0xFC9A "\u0626\u0645 \u0626\u0647 \u0628\u062c \u0628\u062d \u0628\u062e \u0628\u0645",
    row 0xFCA0 "\u0628\u0647 \u062a\u062c \u062a\u062d \u062a\u062e \u062a\u0645 \u062a\u0647",
    row 0xFCA6 "\u062b\u0645 \u062c\u062d \u062c\u0645 \u062d\u062c \u062d\u0645 \u062e\u062c",
    row 0xFCAC "\u062e\u0645 \u0633\u062c \u0633\u062d \u0633\u062e \u0633\u0645 \u0635\u062d",
    row 0xFCB2 "\u0635\u062e \u0635\u0645 \u0636\u062c \u0636\u062d \u0636\u062e \u0636\u0645",
    row 0xFCB8 "\u0637\u062d \u0638\u0645 \u0639\u062c \u0639\u0645 \u063a\u062c \u063a\u0645",
    row 0xFCBE "\u0641\u062c \u0641\u062d \u0641\u062e \u0641\u0645 \u0642\u062d \u0642\u0645",
    row 0xFCC4 "\u0643\u062c \u0643\u062d \u0643\u062e \u0643\u0644 \u0643\u0645 \u0644\u062c",
    row 0xFCCA "\u0644\u062d \u0644\u062e \u0644\u0645 \u0644\u0647 \u0645\u062c \u0645\u062d",
    row 0xFCD0 "\u0645\u062e \u0645\u0645 \u0646\u062c \u0646\u062d \u0646\u062e \u0646\u0645",
    row 0xFCD6 "\u0646\u0647 \u0647\u062c \u0647\u0645 \u0647\u0670 \u064a\u062c \u064a\u062d",
    row 0xFCDC "\u064a\u062e \u064a\u0645 \u064a\u0647 \u0626\u0645 \u0626\u0647 \u0628\u0645",
    row 0xFCE2 "\u0628\u0647 \u062a\u0645 \u062a\u0647 \u062b\u0645 \u062b\u0647 \u0633\u0645",
    row 0xFCE8 "\u0633\u0647 \u0634\u0645 \u0634\u0647 \u0643\u0644 \u0643\u0645 \u0644\u0645",
    row 0xFCEE "\u0646\u0645 \u0646\u0647 \u064a\u0645 \u064a\u0647 \u0640\u064e\u0651",
    row 0xFCF3 "\u0640\u064f\u0651 \u0640\u0650\u0651 \u0637\u0649 \u0637\u064a \u0639\u0649",
    row 0xFCF8 "\u0639\u064a \u063a\u0649 \u063a\u064a \u0633\u0649 \u0633\u064a \u0634\u0649",
    row 0xFCFE "\u0634\u064a \u062d\u0649 \u062d\u064a \u062c\u0649 \u062c\u064a \u062e\u0649",
    row 0xFD04 "\u062e\u064a \u0635\u0649 \u0635\u064a \u0636\u0649 \u0636\u064a \u0634\u062c",
    row 0xFD0A "\u0634\u062d \u0634\u062e \u0634\u0645 \u0634\u0631 \u0633\u0631 \u0635\u0631",
    row 0xFD10 "\u0636\u0631 \u0637\u0649 \u0637\u064a \u0639\u0649 \u0639\u064a \u063a\u0649",
    row 0xFD16 "\u063a\u064a \u0633\u0649 \u0633\u064a \u0634\u0649 \u0634\u064a \u062d\u0649",
    row 0xFD1C "\u062d\u064a \u062c\u0649 \u062c\u064a \u062e\u0649 \u062e\u064a \u0635\u0649",
    row 0xFD22 "\u0635\u064a \u0636\u0649 \u0636\u064a \u0634\u062c \u0634\u062d \u0634\u062e",
    row 0xFD28 "\u0634\u0645 \u0634\u0631 \u0633\u0631 \u0635\u0631 \u0636\u0631 \u0634\u062c",
    row 0xFD2E "\u0634\u062d \u0634\u062e \u0634\u0645 \u0633\u0647 \u0634\u0647 \u0637\u0645",
    row 0xFD34 "\u0633\u062c \u0633\u062d \u0633\u062e \u0634\u062c \u0634\u062d \u0634\u062e",
    row 0xFD3A "\u0637\u0645 \u0638\u0645 \u0627\u064b \u0627\u064b",
    row 0xFD50 "\u062a\u062c\u0645 \u062a\u062d\u062c \u062a\u062d\u062c \u062a\u062d\u0645",
    row 0xFD54 "\u062a\u062e\u0645 \u062a\u0645\u062c \u062a\u0645\u062d \u062a\u0645\u062e",
    row 0xFD58 "\u062c\u0645\u062d \u062c\u0645\u062d \u062d\u0645\u064a \u062d\u0645\u0649",
    row 0xFD5C "\u0633\u062d\u062c \u0633\u062c\u062d \u0633\u062c\u0649 \u0633\u0645\u062d",
    row 0xFD60 "\u0633\u0645\u062d \u0633\u0645\u062c \u0633\u0645\u0645 \u0633\u0645\u0645",
    row 0xFD64 "\u0635\u062d\u062d \u0635\u062d\u062d \u0635\u0645\u0645 \u0634\u062d\u0645",
    row 0xFD68 "\u0634\u062d\u0645 \u0634\u062c\u064a \u0634\u0645\u062e \u0634\u0645\u062e",
    row 0xFD6C "\u0634\u0645\u0645 \u0634\u0645\u0645 \u0636\u062d\u0649 \u0636\u062e\u0645",
    row 0xFD70 "\u0636\u062e\u0645 \u0637\u0645\u062d \u0637\u0645\u062d \u0637\u0645\u0645",
    row 0xFD74 "\u0637\u0645\u064a \u0639\u062c\u0645 \u0639\u0645\u0645 \u0639\u0645\u0645",
    row 0xFD78 "\u0639\u0645\u0649 \u063a\u0645\u0645 \u063a\u0645\u064a \u063a\u0645\u0649",
    row 0xFD7C "\u0641\u062e\u0645 \u0641\u062e\u0645 \u0642\u0645\u062d \u0642\u0645\u0645",
    row 0xFD80 "\u0644\u062d\u0645 \u0644\u062d\u064a \u0644\u062d\u0649 \u0644\u062c\u062c",
    row 0xFD84 "\u0644\u062c\u062c \u0644\u062e\u0645 \u0644\u062e\u0645 \u0644\u0645\u062d",
    row 0xFD88 "\u0644\u0645\u062d \u0645\u062d\u062c \u0645\u062d\u0645 \u0645\u062d\u064a",
    row 0xFD8C "\u0645\u062c\u062d \u0645\u062c\u0645 \u0645\u062e\u062c \u0645\u062e\u0645 ﶐ ﶑",
    row 0xFD92 "\u0645\u062c\u062e \u0647\u0645\u062c \u0647\u0645\u0645 \u0646\u062d\u0645",
    row 0xFD96 "\u0646\u062d\u0649 \u0646\u062c\u0645 \u0646\u062c\u0645 \u0646\u062c\u0649",
    row 0xFD9A "\u0646\u0645\u064a \u0646\u0645\u0649 \u064a\u0645\u0645 \u064a\u0645\u0645",
    row 0xFD9E "\u0628\u062e\u064a \u062a\u062c\u064a \u062a\u062c\u0649 \u062a\u062e\u064a",
    row 0xFDA2 "\u062a\u062e\u0649 \u062a\u0645\u064a \u062a\u0645\u0649 \u062c\u0645\u064a",
    row 0xFDA6 "\u062c\u062d\u0649 \u062c\u0645\u0649 \u0633\u062e\u0649 \u0635\u062d\u064a",
    row 0xFDAA "\u0634\u062d\u064a \u0636\u062d\u064a \u0644\u062c\u064a \u0644\u0645\u064a",
    row 0xFDAE "\u064a\u062d\u064a \u064a\u062c\u064a \u064a\u0645\u064a \u0645\u0645\u064a",
    row 0xFDB2 "\u0642\u0645\u064a \u0646\u062d\u064a \u0642\u0645\u062d \u0644\u062d\u0645",
    row 0xFDB6 "\u0639\u0645\u064a \u0643\u0645\u064a \u0646\u062c\u062d \u0645\u062e\u064a",
    row 0xFDBA "\u0644\u062c\u0645 \u0643\u0645\u0645 \u0644\u062c\u0645 \u0646\u062c\u062d",
    row 0xFDBE "\u062c\u062d\u064a \u062d\u062c\u064a \u0645\u062c\u064a \u0641\u0645\u064a",
    row 0xFDC2 "\u0628\u062d\u064a \u0643\u0645\u0645 \u0639\u062c\u0645 \u0635\u0645\u0645",
    row 0xFDC6 "\u0633\u062e\u064a \u0646\u062c\u064a",
    row 0xFDF0 "\u0635\u0644\u06d2 \u0642\u0644\u06d2 \u0627\u0644\u0644\u0647",
    row 0xFDF3 "\u0627\u0643\u0628\u0631 \u0645\u062d\u0645\u062f \u0635\u0644\u0639\u0645",
    row 0xFDF6 "\u0631\u0633\u0648\u0644 \u0639\u0644\u064a\u0647 \u0648\u0633\u0644\u0645",
    row 0xFDF9 "\u0635\u0644\u0649",
    row 0xFDFC "\u0631\u06cc\u0627\u0644",
    row 0xFE10 ", 、",
    row 0xFE13 ": ; ! ? 〖 〗",
    row 0xFE31 "— – _ _ ( ) \x7b \x7d 〔 〕 【 】 《 》 〈 〉",
    row 0xFE47 "[ ]",
    row 0xFE4D "_ _ _ , 、",
    row 0xFE54 "; : ? ! — ( ) \x7b \x7d 〔 〕 # & * + - < > =",
    row 0xFE68 "\\ $ % @",
    row 0xFE71 "\u0640\u064b",
    row 0xFE77 "\u0640\u064e",
    row 0xFE79 "\u0640\u064f",
    row 0xFE7B "\u0640\u0650",
    row 0xFE7D "\u0640\u0651",
    row 0xFE7F "\u0640\u0652 \u0621 \u0622 \u0622 \u0623 \u0623 \u0624 \u0624 \u0625 \u0625",
    row 0xFE89 "\u0626 \u0626 \u0626 \u0626 \u0627 \u0627 \u0628 \u0628 \u0628 \u0628 \u0629",
    row 0xFE94 "\u0629 \u062a \u062a \u062a \u062a \u062b \u062b \u062b \u062b \u062c \u062c",
    row 0xFE9F "\u062c \u062c \u062d \u062d \u062d \u062d \u062e \u062e \u062e \u062e \u062f",
    row 0xFEAA "\u062f \u0630 \u0630 \u0631 \u0631 \u0632 \u0632 \u0633 \u0633 \u0633 \u0633",
    row 0xFEB5 "\u0634 \u0634 \u0634 \u0634 \u0635 \u0635 \u0635 \u0635 \u0636 \u0636 \u0636",
    row 0xFEC0 "\u0636 \u0637 \u0637 \u0637 \u0637 \u0638 \u0638 \u0638 \u0638 \u0639 \u0639",
    row 0xFECB "\u0639 \u0639 \u063a \u063a \u063a \u063a \u0641 \u0641 \u0641 \u0641 \u0642",
    row 0xFED6 "\u0642 \u0642 \u0642 \u0643 \u0643 \u0643 \u0643 \u0644 \u0644 \u0644 \u0644",
    row 0xFEE1 "\u0645 \u0645 \u0645 \u0645 \u0646 \u0646 \u0646 \u0646 \u0647 \u0647 \u0647",
    row 0xFEEC "\u0647 \u0648 \u0648 \u0649 \u0649 \u064a \u064a \u064a \u064a \u0644\u0622",
    row 0xFEF6 "\u0644\u0622 \u0644\u0623 \u0644\u0623 \u0644\u0625 \u0644\u0625 \u0644\u0627",
    row 0xFEFC "\u0644\u0627",
    row 0xFF5F "⦅ ⦆ . 「 」 、 ・ ヲ ァ ィ ゥ ェ ォ ャ ュ ョ ッ ー ア イ ウ エ オ カ キ ク ケ コ サ シ ス セ ソ タ チ ツ テ ト",
    row 0xFF8B "ヒ フ ヘ ホ",
    row 0xFF94 "ヤ ユ",
    row 0xFF9C "ワ ン \u3099 \u309a",
    row 0xFFA1 "ᄀ ᄁ ᆪ ᄂ ᆬ ᆭ ᄃ ᄄ ᄅ",
    row 0xFFB0 "ᄚ ᄆ ᄇ ᄈ ᄡ",
    row 0xFFDA "ᅳ ᅴ ᅵ",
    row 0xFFE0 "¢ £ ¬",
    row 0xFFE4 "¦ ¥ ₩",
    row 0xFFE8 "│",
    row 0xFFED "■ ○",
    row 0x1058D "𐖴 𐖵 𐖶 𐖷 𐖸",
    row 0x10595 "𐖼",
    row 0x10781 "ː ˑ æ ʙ ɓ",
    row 0x10787 "ʣ ꭦ ʥ ʤ ɖ ɗ ᶑ ɘ ɞ ʩ ɤ ɢ ɠ ʛ ħ ʜ ɧ ʄ ʪ ʫ ɬ 𝼄 ꞎ ɮ 𝼅 ʎ 𝼆 ø ɶ ɷ q ɺ 𝼈 ɽ ɾ ʀ ʨ ʦ ꭧ ʧ",
    row 0x107AF "ʈ ⱱ",
    row 0x107B2 "ʏ ʡ ʢ ʘ ǀ ǁ ǂ 𝼊 𝼞",
    row 0x1D15E "𝅗𝅥 𝅘𝅥 𝅘𝅥𝅮 𝅘𝅥𝅯 𝅘𝅥𝅰 𝅘𝅥𝅱 𝅘𝅥𝅲",
    row 0x1D1BB "𝆹𝅥 𝆺𝅥 𝆹𝅥𝅮 𝆺𝅥𝅮 𝆹𝅥𝅯 𝆺𝅥𝅯",
    row 0x1D44F "b c d e f",
    row 0x1D49C "a",
    row 0x1D49E "c d",
    row 0x1D4A2 "g",
    row 0x1D4A5 "j k",
    row 0x1D4BE "i j k l m",
    row 0x1D504 "a b",
    row 0x1D538 "a b",
    row 0x1D546 "o",
    row 0x1D6A4 "ı ȷ",
    row 0x1D6B9 "θ",
    row 0x1D6C1 "∇",
    row 0x1D6D3 "σ",
    row 0x1D6DB "∂ ε θ κ φ ρ π",
    row 0x1D6F3 "θ",
    row 0x1D6FB "∇",
    row 0x1D70D "σ",
    row 0x1D715 "∂ ε θ κ φ ρ π",
    row 0x1D72D "θ",
    row 0x1D735 "∇",
    row 0x1D747 "σ",
    row 0x1D74F "∂ ε θ κ φ ρ π",
    row 0x1D767 "θ",
    row 0x1D76F "∇",
    row 0x1D781 "σ",
    row 0x1D789 "∂ ε θ κ φ ρ π",
    row 0x1D7A1 "θ",
    row 0x1D7A9 "∇",
    row 0x1D7BB "σ",
    row 0x1D7C3 "∂ ε θ κ φ ρ π ϝ ϝ",
    row 0x1E039 "к л м",
    row 0x1E047 "ы э ю ꚉ ә і ј ө ү ӏ",
    row 0x1E05A "к л о п с",
    row 0x1E065 "ъ ы ґ і ѕ џ ҫ ꙑ ұ",
    row 0x1EE00 "\u0627 \u0628 \u062c \u062f",
    row 0x1EE05 "\u0648 \u0632 \u062d \u0637 \u064a",
    row 0x1EE0E "\u0633 \u0639 \u0641 \u0635 \u0642 \u0631 \u0634 \u062a \u062b \u062e \u0630",
    row 0x1EE19 "\u0636 \u0638 \u063a \u066e \u06ba \u06a1 \u066f",
    row 0x1EE21 "\u0628 \u062c",
    row 0x1EE24 "\u0647",
    row 0x1EE27 "\u062d",
    row 0x1EE29 "\u064a",
    row 0x1EE2E "\u0633 \u0639 \u0641 \u0635 \u0642",
    row 0x1EE34 "\u0634 \u062a \u062b \u062e",
    row 0x1EE39 "\u0636",
    row 0x1EE3B "\u063a",
    row 0x1EE42 "\u062c",
    row 0x1EE47 "\u062d",
    row 0x1EE49 "\u064a",
    row 0x1EE4B "\u0644",
    row 0x1EE4D "\u0646 \u0633 \u0639",
    row 0x1EE51 "\u0635 \u0642",
    row 0x1EE54 "\u0634",
    row 0x1EE57 "\u062e",
    row 0x1EE59 "\u0636",
    row 0x1EE5B "\u063a",
    row 0x1EE5D "\u06ba",
    row 0x1EE5F "\u066f",
    row 0x1EE61 "\u0628 \u062c",
    row 0x1EE64 "\u0647",
    row 0x1EE67 "\u062d \u0637 \u064a \u0643",
    row 0x1EE6C "\u0645 \u0646 \u0633 \u0639 \u0641 \u0635 \u0642",
    row 0x1EE74 "\u0634 \u062a \u062b \u062e",
    row 0x1EE79 "\u0636 \u0638 \u063a \u066e",
    row 0x1EE7E "\u06a1",
    row 0x1EE80 "\u0627 \u0628 \u062c \u062f \u0647 \u0648 \u0632 \u062d \u0637 \u064a",
    row 0x1EE8B "\u0644 \u0645 \u0646 \u0633 \u0639 \u0641 \u0635 \u0642 \u0631 \u0634 \u062a",
    row 0x1EE96 "\u062b \u062e \u0630 \u0636 \u0638 \u063a",
    row 0x1EEA1 "\u0628 \u062c \u062f",
    row 0x1EEA5 "\u0648 \u0632 \u062d \u0637 \u064a",
    row 0x1EEAB "\u0644 \u0645 \u0646 \u0633 \u0639 \u0641 \u0635 \u0642 \u0631 \u0634 \u062a",
    row 0x1EEB6 "\u062b \u062e \u0630 \u0636 \u0638 \u063a",
    row 0x1F101 "0, 1, 2, 3, 4, 5, 6, 7, 8, 9,",
    row 0x1F110 "(a) (b) (c) (d) (e) (f) (g) (h) (i) (j) (k) (l) (m) (n) (o) (p) (q) (r) (s) (t)",
    row 0x1F124 "(u) (v) (w) (x) (y) (z) 〔s〕 c r cd wz",
    row 0x1F14A "hv mv sd ss ppv wc",
    row 0x1F16A "mc md mr",
    row 0x1F190 "dj",
    row 0x1F200 "ほか ココ サ",
    row 0x1F210 "手 字 双 デ 二 多 解 天 交 映 無 料 前 後 再 新 初 終 生 販 声 吹 演 投 捕 一 三 遊 左 中 右 指 走 打 禁 空 合 満 有 月",
    row 0x1F238 "申 割 営 配",
    row 0x1F240 "〔本〕 〔三〕 〔二〕 〔安〕 〔点〕 〔打〕 〔盗〕 〔勝〕 〔敗〕",
    row 0x1F250 "得 可",
    row 0x2F800 "丽 丸 乁 𠄢 你 侮 侻 倂 偺 備 僧 像 㒞 𠘺 免 兔 兤 具 𠔜 㒹 內 再 𠕋 冗 冤 仌 冬 况 𩇟 凵 刃 㓟 刻 剆 割 剷 㔕 勇 勉 勤",
    row 0x2F828 "勺 包 匆 北 卉 卑 博 即 卽 卿 卿 卿 𠨬 灰 及 叟 𠭣 叫 叱 吆 咞 吸 呈 周 咢 哶 唐 啓 啣 善 善 喙 喫 喳 嗂 圖 嘆 圗 噑 噴",
    row 0x2F850 "切 壮 城 埴 堍 型 堲 報 墬 𡓤 売 壷 夆 多 夢 奢 𡚨 𡛪 姬 娛 娧 姘 婦 㛮 㛼 嬈 嬾 嬾 𡧈 寃 寘 寧 寳 𡬘 寿 将 当 尢 㞁 屠",
    row 0x2F878 "屮 峀 岍 𡷤 嵃 𡷦 嵮 嵫 嵼 巡 巢 㠯 巽 帨 帽 幩 㡢 𢆃 㡼 庰 庳 庶 廊 𪎒 廾 𢌱 𢌱 舁 弢 弢 㣇 𣊸 𦇚 形 彫 㣣 徚 忍 志 忹",
    row 0x2F8A0 "悁 㤺 㤜 悔 𢛔 惇 慈 慌 慎 慌 慺 憎 憲 憤 憯 懞 懲 懶 成 戛 扝 抱 拔 捐 𢬌 挽 拼 捨 掃 揤 𢯱 搢 揅 掩 㨮 摩 摾 撝 摷 㩬",
    row 0x2F8C8 "敏 敬 𣀊 旣 書 晉 㬙 暑 㬈 㫤 冒 冕 最 暜 肭 䏙 朗 望 朡 杞 杓 𣏃 㭉 柺 枅 桒 梅 𣑭 梎 栟 椔 㮝 楂 榣 槪 檨 𣚣 櫛 㰘 次",
    row 0x2F8F0 "𣢧 歔 㱎 歲 殟 殺 殻 𣪍 𡴋 𣫺 汎 𣲼 沿 泍 汧 洖 派 海 流 浩 浸 涅 𣴞 洴 港 湮 㴳 滋 滇 𣻑 淹 潮 𣽞 𣾎 濆 瀹 瀞 瀛 㶖 灊",
    row 0x2F918 "災 灷 炭 𠔥 煅 𤉣 熜 𤎫 爨 爵 牐 𤘈 犀 犕 𤜵 𤠔 獺 王 㺬 玥 㺸 㺸 瑇 瑜 瑱 璅 瓊 㼛 甤 𤰶 甾 𤲒 異 𢆟 瘐 𤾡 𤾸 𥁄 㿼 䀈",
    row 0x2F940 "直 𥃳 𥃲 𥄙 𥄳 眞 真 真 睊 䀹 瞋 䁆 䂖 𥐝 硎 碌 磌 䃣 𥘦 祖 𥚚 𥛅 福 秫 䄯 穀 穊 穏 𥥼 𥪧 𥪧 竮 䈂 𥮫 篆 築 䈧 𥲀 糒 䊠",
    row 0x2F968 "糨 糣 紀 𥾆 絣 䌁 緇 縂 繅 䌴 𦈨 𦉇 䍙 𦋙 罺 𦌾 羕 翺 者 𦓚 𦔣 聠 𦖨 聰 𣍟 䏕 育 脃 䐋 脾 媵 𦞧 𦞵 𣎓 𣎜 舁 舄 辞 䑫 芑",
    row 0x2F990 "芋 芝 劳 花 芳 芽 苦 𦬼 若 茝 荣 莭 茣 莽 菧 著 荓 菊 菌 菜 𦰶 𦵫 𦳕 䔫 蓱 蓳 蔖 𧏊 蕤 𦼬 䕝 䕡 𦾱 𧃒 䕫 虐 虜 虧 虩 蚩",
    row 0x2F9B8 "蚈 蜎 蛢 蝹 蜨 蝫 螆 䗗 蟡 蠁 䗹 衠 衣 𧙧 裗 裞 䘵 裺 㒻 𧢮 𧥦 䚾 䛇 誠 諭 變 豕 𧲨 貫 賁 贛 起 𧼯 𠠄 跋 趼 跰 𠣞 軔 輸",
    row 0x2F9E0 "𨗒 𨗭 邔 郱 鄑 𨜮 鄛 鈸 鋗 鋘 鉼 鏹 鐕 𨯺 開 䦕 閷 𨵷 䧦 雃 嶲 霣 𩅅 𩈚 䩮 䩶 韠 𩐊 䪲 𩒖 頋 頋 頩 𩖶 飢 䬳 餩 馧 駂 駾",
    row 0x2FA08 "䯎 𩬰 鬒 鱀 鳽 䳎 䳭 鵧 𪃎 䳸 𪄅 𪈎 𪊑 麻 䵖 黹 黾 鼅 鼏 鼖 鼻 𪘀" ]

/-! ## Characters that do not show -/

/-- Where runs of characters that a name is written without start and end. -/
def dropped : List Nat :=
  [ 0xAD, 0xAE, 0x34F, 0x350, 0x115F, 0x1161, 0x17B4, 0x17B6, 0x180B, 0x1810, 0x200B, 0x200C,
    0x2060, 0x2065, 0x206A, 0x2070, 0x3164, 0x3165, 0xFE00, 0xFE10, 0xFEFF, 0xFF00, 0xFFA0, 0xFFA1,
    0x1BCA0, 0x1BCA4, 0x1D173, 0x1D17B, 0xE0100, 0xE01F0 ]

/-- What a name has in place of a character. -/
def fold (c : Char) : List Char :=
  if c.toNat < 0x80 then [c.toLower]
  else if Span.holds dropped c then []
  else
    match runs.findSome? (·.image? c.toNat) with
    | some n => [Char.ofNat n]
    | none => (rows.findSome? (·.image? c.toNat)).getD [c]

end OwnerCache.Folding
