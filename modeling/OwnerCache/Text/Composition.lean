/-
# OwnerCache.Text.Composition -- one spelling for letters with marks

A letter with a mark may be one character or two.  `compose` spells a text with as
few characters as it can: it takes all letters apart, puts the marks of each into
canonical order, and joins them again one by one.  A mark joins the letter before
it unless a mark that stays alone and sits at the same place is between them.

Characters that stand for just one other character, and those that are never
joined, are left as they are.
-/
import OwnerCache.Text.Combining

namespace OwnerCache.Composition

set_option autoImplicit false
set_option maxRecDepth 4000

/-! ## Pairs -/

/-- What one character joins: what comes before it, and what both become. -/
structure Row where
  second : Nat
  firsts : List Char
  wholes : List Char

def row (second : Nat) (firsts wholes : String) : Row := ⟨second, firsts.toList, wholes.toList⟩

/-- Pairs that are one character together, by the data of Unicode 17. -/
def rows : List Row :=
  [ row 0x300 "AEINOUWYaeinouwy¨ÂÊÔÜâêôüĂăĒēŌōƠơƯưΑΕΗΙ" "ÀÈÌǸÒÙẀỲàèìǹòùẁỳ῭ẦỀỒǛầềồǜẰằḔḕṐṑỜờỪừᾺῈῊῚ",
    row 0x300 "ΟΥΩαεηιουωϊϋЕИеиἀἁἈἉἐἑἘἙἠἡἨἩἰἱἸἹὀὁὈὉὐὑὙ" "ῸῪῺὰὲὴὶὸὺὼῒῢЀЍѐѝἂἃἊἋἒἓἚἛἢἣἪἫἲἳἺἻὂὃὊὋὒὓὛ",
    row 0x300 "ὠὡὨὩ᾿῾" "ὢὣὪὫ῍῝",
    row 0x301 "ACEGIKLMNOPRSUWYZacegiklmnoprsuwyz¨ÂÅÆÇ" "ÁĆÉǴÍḰĹḾŃÓṔŔŚÚẂÝŹáćéǵíḱĺḿńóṕŕśúẃýź΅ẤǺǼḈ",
    row 0x301 "ÊÏÔÕØÜâåæçêïôõøüĂăĒēŌōŨũƠơƯưΑΕΗΙΟΥΩαεηι" "ẾḮỐṌǾǗấǻǽḉếḯốṍǿǘẮắḖḗṒṓṸṹỚớỨứΆΈΉΊΌΎΏάέήί",
    row 0x301 "ουωϊϋϒГКгкἀἁἈἉἐἑἘἙἠἡἨἩἰἱἸἹὀὁὈὉὐὑὙὠὡὨὩ᾿῾" "όύώΐΰϓЃЌѓќἄἅἌἍἔἕἜἝἤἥἬἭἴἵἼἽὄὅὌὍὔὕὝὤὥὬὭ῎῞",
    row 0x302 "ACEGHIJOSUWYZaceghijosuwyzẠạẸẹỌọ" "ÂĈÊĜĤÎĴÔŜÛŴŶẐâĉêĝĥîĵôŝûŵŷẑẬậỆệỘộ",
    row 0x303 "AEINOUVYaeinouvyÂÊÔâêôĂăƠơƯư" "ÃẼĨÑÕŨṼỸãẽĩñõũṽỹẪỄỖẫễỗẴẵỠỡỮữ",
    row 0x304 "AEGIOUYaegiouyÄÆÕÖÜäæõöüǪǫȦȧȮȯΑΙΥαιυИУи" "ĀĒḠĪŌŪȲāēḡīōūȳǞǢȬȪǕǟǣȭȫǖǬǭǠǡȰȱᾹῙῩᾱῑῡӢӮӣ",
    row 0x304 "уḶḷṚṛ" "ӯḸḹṜṝ",
    row 0x306 "AEGIOUaegiouȨȩΑΙΥαιυАЕЖИУаежиуẠạ" "ĂĔĞĬŎŬăĕğĭŏŭḜḝᾸῘῨᾰῐῠӐӖӁЙЎӑӗӂйўẶặ",
    row 0x307 "ABCDEFGHIMNOPRSTWXYZabcdefghmnoprstwxyz" "ȦḂĊḊĖḞĠḢİṀṄȮṖṘṠṪẆẊẎŻȧḃċḋėḟġḣṁṅȯṗṙṡṫẇẋẏż",
    row 0x307 "ŚśŠšſṢṣ𐗒𐗚" "ṤṥṦṧẛṨṩ𐗉𐗤",
    row 0x308 "AEHIOUWXYaehiotuwxyÕõŪūΙΥιυϒІАЕЖЗИОУЧЫЭ" "ÄËḦÏÖÜẄẌŸäëḧïöẗüẅẍÿṎṏṺṻΪΫϊϋϔЇӒЁӜӞӤӦӰӴӸӬ",
    row 0x308 "аежзиоучыэіӘәӨө" "ӓёӝӟӥӧӱӵӹӭїӚӛӪӫ",
    row 0x309 "AEIOUYaeiouyÂÊÔâêôĂăƠơƯư" "ẢẺỈỎỦỶảẻỉỏủỷẨỂỔẩểổẲẳỞởỬử",
    row 0x30A "AUauwy" "ÅŮåůẘẙ",
    row 0x30B "OUouУу" "ŐŰőűӲӳ",
    row 0x30C "ACDEGHIKLNORSTUZacdeghijklnorstuzÜüƷʒ" "ǍČĎĚǦȞǏǨĽŇǑŘŠŤǓŽǎčďěǧȟǐǰǩľňǒřšťǔžǙǚǮǯ",
    row 0x30F "AEIORUaeioruѴѵ" "ȀȄȈȌȐȔȁȅȉȍȑȕѶѷ",
    row 0x311 "AEIORUaeioru" "ȂȆȊȎȒȖȃȇȋȏȓȗ",
    row 0x313 "ΑΕΗΙΟΩαεηιορυω" "ἈἘἨἸὈὨἀἐἠἰὀῤὐὠ",
    row 0x314 "ΑΕΗΙΟΡΥΩαεηιορυω" "ἉἙἩἹὉῬὙὩἁἑἡἱὁῥὑὡ",
    row 0x31B "OUou" "ƠƯơư",
    row 0x323 "ABDEHIKLMNORSTUVWYZabdehiklmnorstuvwyzƠ" "ẠḄḌẸḤỊḲḶṂṆỌṚṢṬỤṾẈỴẒạḅḍẹḥịḳḷṃṇọṛṣṭụṿẉỵẓỢ",
    row 0x323 "ơƯư" "ợỰự",
    row 0x324 "Uu" "Ṳṳ",
    row 0x325 "Aa" "Ḁḁ",
    row 0x326 "STst" "ȘȚșț",
    row 0x327 "CDEGHKLNRSTcdeghklnrst" "ÇḐȨĢḨĶĻŅŖŞŢçḑȩģḩķļņŗşţ",
    row 0x328 "AEIOUaeiou" "ĄĘĮǪŲąęįǫų",
    row 0x32D "DELNTUdelntu" "ḒḘḼṊṰṶḓḙḽṋṱṷ",
    row 0x32E "Hh" "Ḫḫ",
    row 0x330 "EIUeiu" "ḚḬṴḛḭṵ",
    row 0x331 "BDKLNRTZbdhklnrtz" "ḆḎḴḺṈṞṮẔḇḏẖḵḻṉṟṯẕ",
    row 0x338 "<=>←→↔⇐⇒⇔∃∈∋∣∥∼≃≅≈≍≡≤≥≲≳≶≷≺≻≼≽⊂⊃⊆⊇⊑⊒⊢⊨⊩" "≮≠≯↚↛↮⇍⇏⇎∄∉∌∤∦≁≄≇≉≭≢≰≱≴≵≸≹⊀⊁⋠⋡⊄⊅⊈⊉⋢⋣⊬⊭⊮",
    row 0x338 "⊫⊲⊳⊴⊵" "⊯⋪⋫⋬⋭",
    row 0x342 "¨αηιυωϊϋἀἁἈἉἠἡἨἩἰἱἸἹὐὑὙὠὡὨὩ᾿῾" "῁ᾶῆῖῦῶῗῧἆἇἎἏἦἧἮἯἶἷἾἿὖὗὟὦὧὮὯ῏῟",
    row 0x345 "ΑΗΩάήαηωώἀἁἂἃἄἅἆἇἈἉἊἋἌἍἎἏἠἡἢἣἤἥἦἧἨἩἪἫἬἭ" "ᾼῌῼᾴῄᾳῃῳῴᾀᾁᾂᾃᾄᾅᾆᾇᾈᾉᾊᾋᾌᾍᾎᾏᾐᾑᾒᾓᾔᾕᾖᾗᾘᾙᾚᾛᾜᾝ",
    row 0x345 "ἮἯὠὡὢὣὤὥὦὧὨὩὪὫὬὭὮὯὰὴὼᾶῆῶ" "ᾞᾟᾠᾡᾢᾣᾤᾥᾦᾧᾨᾩᾪᾫᾬᾭᾮᾯᾲῂῲᾷῇῷ",
    row 0x653 "\u0627" "\u0622",
    row 0x654 "\u0627\u0648\u064a\u06c1\u06d2\u06d5" "\u0623\u0624\u0626\u06c2\u06d3\u06c0",
    row 0x655 "\u0627" "\u0625",
    row 0x93C "नरळ" "ऩऱऴ",
    row 0x9BE "\u09c7" "\u09cb",
    row 0x9D7 "\u09c7" "\u09cc",
    row 0xB3E "\u0b47" "\u0b4b",
    row 0xB56 "\u0b47" "\u0b48",
    row 0xB57 "\u0b47" "\u0b4c",
    row 0xBBE "\u0bc6\u0bc7" "\u0bca\u0bcb",
    row 0xBD7 "ஒ\u0bc6" "ஔ\u0bcc",
    row 0xC56 "\u0c46" "\u0c48",
    row 0xCC2 "\u0cc6" "\u0cca",
    row 0xCD5 "\u0cbf\u0cc6\u0cca" "\u0cc0\u0cc7\u0ccb",
    row 0xCD6 "\u0cc6" "\u0cc8",
    row 0xD3E "\u0d46\u0d47" "\u0d4a\u0d4b",
    row 0xD57 "\u0d46" "\u0d4c",
    row 0xDCA "\u0dd9\u0ddc" "\u0dda\u0ddd",
    row 0xDCF "\u0dd9" "\u0ddc",
    row 0xDDF "\u0dd9" "\u0dde",
    row 0x102E "ဥ" "ဦ",
    row 0x1B35 "ᬅᬇᬉᬋᬍᬑ\u1b3a\u1b3c\u1b3e\u1b3f\u1b42" "ᬆᬈᬊᬌᬎᬒ\u1b3b\u1b3d\u1b40\u1b41\u1b43",
    row 0x3099 "うかきくけこさしすせそたちつてとはひふへほゝウカキクケコサシスセソタチツテト" "ゔがぎぐげござじずぜぞだぢづでどばびぶべぼゞヴガギグゲゴザジズゼゾダヂヅデド",
    row 0x3099 "ハヒフヘホワヰヱヲヽ" "バビブベボヷヸヹヺヾ",
    row 0x309A "はひふへほハヒフヘホ" "ぱぴぷぺぽパピプペポ",
    row 0x110BA "𑂙𑂛𑂥" "𑂚𑂜𑂫",
    row 0x11127 "𑄱𑄲" "𑄮𑄯",
    row 0x1133E "𑍇" "𑍋",
    row 0x11357 "𑍇" "𑍌",
    row 0x113B8 "𑏂" "𑏇",
    row 0x113BB "𑎄" "𑎅",
    row 0x113C2 "𑎎" "𑎎𑏅",
    row 0x113C9 "𑎂𑎐𑏂" "𑎃𑎑𑏈",
    row 0x114B0 "𑒹" "𑒼",
    row 0x114BA "𑒹" "𑒻",
    row 0x114BD "𑒹" "𑒾",
    row 0x115AF "𑖸𑖹" "𑖺𑖻",
    row 0x11930 "𑤵" "𑤸",
    row 0x1611E "𖄞" "𖄡",
    row 0x1611F "𖄡𖄡𖄩𖄩" "𖄣𖄦𖄧𖄤",
    row 0x16120 "𖄡𖄞" "𖄥𖄨",
    row 0x16129 "𖄞" "𖄢",
    row 0x16D67 "𖵩𖵩" "𖵪𖵧𖵪" ]

/-! ## Syllables of Hangul -/

/-- A syllable is numbered by its lead, of which there are 19, its vowel, of which there are 21,
and its tail; 28 numbers go to the tails, the first of them to none. -/
def firstSyllable : Nat := 0xAC00

/-- The syllable that a lead and a vowel are, or that a syllable and a tail are. -/
def syllable? (first second : Char) : Option Char :=
  let lead := first.toNat - 0x1100
  let vowel := second.toNat - 0x1161
  let number := first.toNat - firstSyllable
  let tail := second.toNat - 0x11A7
  if 0x1100 ≤ first.toNat ∧ lead < 19 ∧ 0x1161 ≤ second.toNat ∧ vowel < 21 then
    some (Char.ofNat (firstSyllable + (lead * 21 + vowel) * 28))
  else if firstSyllable ≤ first.toNat ∧ number < 19 * 21 * 28 ∧ number % 28 = 0 ∧
      0x11A7 < second.toNat ∧ tail < 28 then
    some (Char.ofNat (first.toNat + tail))
  else none

/-- The two characters that a syllable is: one without its tail and the tail, or its lead and its
vowel. -/
def syllableParts? (c : Char) : Option (Char × Char) :=
  let number := c.toNat - firstSyllable
  if c.toNat < firstSyllable ∨ 19 * 21 * 28 ≤ number then none
  else if number % 28 = 0 then
    some (Char.ofNat (0x1100 + number / 28 / 21), Char.ofNat (0x1161 + number / 28 % 21))
  else some (Char.ofNat (c.toNat - number % 28), Char.ofNat (0x11A7 + number % 28))

/-! ## Taking apart and joining -/

/-- What two characters are together.  Nothing before U+0300 joins what is before it. -/
def join? (first second : Char) : Option Char :=
  if second.toNat < 0x300 then none
  else
    (rows.findSome? fun r =>
      if r.second = second.toNat then (r.firsts.zip r.wholes).lookup first else none).or
      (syllable? first second)

/-- The two characters that one is.  Nothing before U+00C0 is two. -/
def parts? (c : Char) : Option (Char × Char) :=
  if c.toNat < 0xC0 then none
  else
    (rows.findSome? fun r =>
      ((r.wholes.zip r.firsts).lookup c).map fun first => (first, Char.ofNat r.second)).or
      (syllableParts? c)

/-- A character taken apart, with at most so many characters after its first. -/
def split : Nat → Char → List Char
  | 0, c => [c]
  | n + 1, c =>
    match parts? c with
    | some (first, second) => split n first ++ [second]
    | none => [c]

/-- The most marks that one character holds. -/
def depth : Nat := 3

/-- A text taken apart, in canonical order. -/
def decompose (cs : List Char) : List Char := Combining.order (cs.flatMap (split depth))

/-! ## Composing -/

/-- A text that is being joined: what is done, last first, the character that marks may join, and
the marks that stay alone after it, last first. -/
structure Joining where
  done : List Char := []
  base : Option Char := none
  alone : List Char := []

namespace Joining

/-- Whether nothing stands between the base and a character that could join it. -/
def reaches (j : Joining) (c : Char) : Bool :=
  match j.alone with
  | [] => true
  | last :: _ => Combining.classOf last < Combining.classOf c

def written (j : Joining) : List Char := j.alone ++ j.base.toList ++ j.done

def add (j : Joining) (c : Char) : Joining :=
  match if j.reaches c then j.base.bind (join? · c) else none with
  | some whole => { j with base := some whole }
  | none =>
    if Combining.classOf c = 0 then { done := j.written, base := some c }
    else { j with alone := c :: j.alone }

end Joining

/-- A text with as few characters as its letters and marks allow. -/
def compose (cs : List Char) : List Char :=
  ((decompose cs).foldl Joining.add {}).written.reverse

end OwnerCache.Composition
