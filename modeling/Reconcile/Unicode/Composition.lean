import Reconcile.Unicode.Combining

namespace Reconcile.Unicode

-- Letters that are written as one character, by the mark they carry: the mark, the letters without
-- it, and in the same order the letters with it.
def composedLetters : List (Nat × String × String) :=
  [(0x300, "AEIOUaeiouÜüNnЕИеиĒēŌōWwÂâĂăÊêÔôƠơ", "ÀÈÌÒÙàèìòùǛǜǸǹЀЍѐѝḔḕṐṑẀẁẦầẰằỀềỒồỜờ"),
    (0x300, "ƯưYyἀἁἈἉἐἑἘἙἠἡἨἩἰἱἸἹὀὁὈὉὐὑὙὠὡὨὩαεη", "ỪừỲỳἂἃἊἋἒἓἚἛἢἣἪἫἲἳἺἻὂὃὊὋὒὓὛὢὣὪὫὰὲὴ"),
    (0x300, "ιουωΑΕΗ᾿ϊΙ῾ϋΥ¨ΟΩ", "ὶὸὺὼᾺῈῊ῍ῒῚ῝ῢῪ῭ῸῺ"),
    (0x301, "AEIOUYaeiouyCcLlNnRrSsZzÜüGgÅåÆæØø", "ÁÉÍÓÚÝáéíóúýĆćĹĺŃńŔŕŚśŹźǗǘǴǵǺǻǼǽǾǿ"),
    (0x301, "¨ΑΕΗΙΟΥΩϊαεηιϋουωϒГКгкÇçĒēÏïKkMmÕõ", "΅ΆΈΉΊΌΎΏΐάέήίΰόύώϓЃЌѓќḈḉḖḗḮḯḰḱḾḿṌṍ"),
    (0x301, "ŌōPpŨũWwÂâĂăÊêÔôƠơƯưἀἁἈἉἐἑἘἙἠἡἨἩἰἱ", "ṒṓṔṕṸṹẂẃẤấẮắẾếỐốỚớỨứἄἅἌἍἔἕἜἝἤἥἬἭἴἵ"),
    (0x301, "ἸἹὀὁὈὉὐὑὙὠὡὨὩ᾿῾", "ἼἽὄὅὌὍὔὕὝὤὥὬὭ῎῞"),
    (0x302, "AEIOUaeiouCcGgHhJjSsWwYyZzẠạẸẹỌọ", "ÂÊÎÔÛâêîôûĈĉĜĝĤĥĴĵŜŝŴŵŶŷẐẑẬậỆệỘộ"),
    (0x303, "ANOanoIiUuVvÂâĂăEeÊêÔôƠơƯưYy", "ÃÑÕãñõĨĩŨũṼṽẪẫẴẵẼẽỄễỖỗỠỡỮữỸỹ"),
    (0x304, "AaEeIiOoUuÜüÄäȦȧÆæǪǫÖöÕõȮȯYyИиУуGg", "ĀāĒēĪīŌōŪūǕǖǞǟǠǡǢǣǬǭȪȫȬȭȰȱȲȳӢӣӮӯḠḡ"),
    (0x304, "ḶḷṚṛαΑιΙυΥ", "ḸḹṜṝᾱᾹῑῙῡῩ"),
    (0x306, "AaEeGgIiOoUuУИиуЖжАаЕеȨȩẠạαΑιΙυΥ", "ĂăĔĕĞğĬĭŎŏŬŭЎЙйўӁӂӐӑӖӗḜḝẶặᾰᾸῐῘῠῨ"),
    (0x307, "CcEeGgIZzAaOoBbDdFfHhMmNnPpRrSsŚśŠ", "ĊċĖėĠġİŻżȦȧȮȯḂḃḊḋḞḟḢḣṀṁṄṅṖṗṘṙṠṡṤṥṦ"),
    (0x307, "šṢṣTtWwXxYyſ𐗒𐗚", "ṧṨṩṪṫẆẇẊẋẎẏẛ𐗉𐗤"),
    (0x308, "AEIOUaeiouyYΙΥιυϒЕІеіАаӘәЖжЗзИиОоӨ", "ÄËÏÖÜäëïöüÿŸΪΫϊϋϔЁЇёїӒӓӚӛӜӝӞӟӤӥӦӧӪ"),
    (0x308, "өЭэУуЧчЫыHhÕõŪūWwXxt", "ӫӬӭӰӱӴӵӸӹḦḧṎṏṺṻẄẅẌẍẗ"),
    (0x309, "AaÂâĂăEeÊêIiOoÔôƠơUuƯưYy", "ẢảẨẩẲẳẺẻỂểỈỉỎỏỔổỞởỦủỬửỶỷ"),
    (0x30A, "AaUuwy", "ÅåŮůẘẙ"),
    (0x30B, "OoUuУу", "ŐőŰűӲӳ"),
    (0x30C, "CcDdEeLlNnRrSsTtZzAaIiOoUuÜüGgKkƷʒ", "ČčĎďĚěĽľŇňŘřŠšŤťŽžǍǎǏǐǑǒǓǔǙǚǦǧǨǩǮǯ"),
    (0x30C, "jHh", "ǰȞȟ"),
    (0x30F, "AaEeIiOoRrUuѴѵ", "ȀȁȄȅȈȉȌȍȐȑȔȕѶѷ"),
    (0x311, "AaEeIiOoRrUu", "ȂȃȆȇȊȋȎȏȒȓȖȗ"),
    (0x313, "αΑεΕηΗιΙοΟυωΩρ", "ἀἈἐἘἠἨἰἸὀὈὐὠὨῤ"),
    (0x314, "αΑεΕηΗιΙοΟυΥωΩρΡ", "ἁἉἑἙἡἩἱἹὁὉὑὙὡὩῥῬ"),
    (0x31B, "OoUu", "ƠơƯư"),
    (0x323, "BbDdHhKkLlMmNnRrSsTtVvWwZzAaEeIiOo", "ḄḅḌḍḤḥḲḳḶḷṂṃṆṇṚṛṢṣṬṭṾṿẈẉẒẓẠạẸẹỊịỌọ"),
    (0x323, "ƠơUuƯưYy", "ỢợỤụỰựỴỵ"),
    (0x324, "Uu", "Ṳṳ"),
    (0x325, "Aa", "Ḁḁ"),
    (0x326, "SsTt", "ȘșȚț"),
    (0x327, "CcGgKkLlNnRrSsTtEeDdHh", "ÇçĢģĶķĻļŅņŖŗŞşŢţȨȩḐḑḨḩ"),
    (0x328, "AaEeIiUuOo", "ĄąĘęĮįŲųǪǫ"),
    (0x32D, "DdEeLlNnTtUu", "ḒḓḘḙḼḽṊṋṰṱṶṷ"),
    (0x32E, "Hh", "Ḫḫ"),
    (0x330, "EeIiUu", "ḚḛḬḭṴṵ"),
    (0x331, "BbDdKkLlNnRrTtZzh", "ḆḇḎḏḴḵḺḻṈṉṞṟṮṯẔẕẖ"),
    (0x338, "←→↔⇐⇔⇒∃∈∋∣∥∼≃≅≈=≡≍<>≤≥≲≳≶≷≺≻⊂⊃⊆⊇⊢⊨", "↚↛↮⇍⇎⇏∄∉∌∤∦≁≄≇≉≠≢≭≮≯≰≱≴≵≸≹⊀⊁⊄⊅⊈⊉⊬⊭"),
    (0x338, "⊩⊫≼≽⊑⊒⊲⊳⊴⊵", "⊮⊯⋠⋡⋢⋣⋪⋫⋬⋭"),
    (0x342, "ἀἁἈἉἠἡἨἩἰἱἸἹὐὑὙὠὡὨὩα¨η᾿ιϊ῾υϋω", "ἆἇἎἏἦἧἮἯἶἷἾἿὖὗὟὦὧὮὯᾶ῁ῆ῏ῖῗ῟ῦῧῶ"),
    (0x345, "ἀἁἂἃἄἅἆἇἈἉἊἋἌἍἎἏἠἡἢἣἤἥἦἧἨἩἪἫἬἭἮἯὠὡ", "ᾀᾁᾂᾃᾄᾅᾆᾇᾈᾉᾊᾋᾌᾍᾎᾏᾐᾑᾒᾓᾔᾕᾖᾗᾘᾙᾚᾛᾜᾝᾞᾟᾠᾡ"),
    (0x345, "ὢὣὤὥὦὧὨὩὪὫὬὭὮὯὰαάᾶΑὴηήῆΗὼωώῶΩ", "ᾢᾣᾤᾥᾦᾧᾨᾩᾪᾫᾬᾭᾮᾯᾲᾳᾴᾷᾼῂῃῄῇῌῲῳῴῷῼ"),
    (0x653, "ا", "آ"),
    (0x654, "اويەہے", "أؤئۀۂۓ"),
    (0x655, "ا", "إ"),
    (0x93C, "नरळ", "ऩऱऴ"),
    (0x9BE, "\u09c7", "\u09cb"),
    (0x9D7, "\u09c7", "\u09cc"),
    (0xB3E, "\u0b47", "\u0b4b"),
    (0xB56, "\u0b47", "\u0b48"),
    (0xB57, "\u0b47", "\u0b4c"),
    (0xBBE, "\u0bc6\u0bc7", "\u0bca\u0bcb"),
    (0xBD7, "ஒ\u0bc6", "ஔ\u0bcc"),
    (0xC56, "\u0c46", "\u0c48"),
    (0xCC2, "\u0cc6", "\u0cca"),
    (0xCD5, "\u0cbf\u0cc6\u0cca", "\u0cc0\u0cc7\u0ccb"),
    (0xCD6, "\u0cc6", "\u0cc8"),
    (0xD3E, "\u0d46\u0d47", "\u0d4a\u0d4b"),
    (0xD57, "\u0d46", "\u0d4c"),
    (0xDCA, "\u0dd9\u0ddc", "\u0dda\u0ddd"),
    (0xDCF, "\u0dd9", "\u0ddc"),
    (0xDDF, "\u0dd9", "\u0dde"),
    (0x102E, "ဥ", "ဦ"),
    (0x1B35, "ᬅᬇᬉᬋᬍᬑ\u1b3a\u1b3c\u1b3e\u1b3f\u1b42", "ᬆᬈᬊᬌᬎᬒ\u1b3b\u1b3d\u1b40\u1b41\u1b43"),
    (0x3099, "かきくけこさしすせそたちつてとはひふへほうゝカキクケコサシスセソタチ", "がぎぐげござじずぜぞだぢづでどばびぶべぼゔゞガギグゲゴザジズゼゾダヂ"),
    (0x3099, "ツテトハヒフヘホウワヰヱヲヽ", "ヅデドバビブベボヴヷヸヹヺヾ"),
    (0x309A, "はひふへほハヒフヘホ", "ぱぴぷぺぽパピプペポ"),
    (0x110BA, "𑂙𑂛𑂥", "𑂚𑂜𑂫"),
    (0x11127, "𑄱𑄲", "𑄮𑄯"),
    (0x1133E, "𑍇", "𑍋"),
    (0x11357, "𑍇", "𑍌"),
    (0x113B8, "𑏂", "𑏇"),
    (0x113BB, "𑎄", "𑎅"),
    (0x113C2, "𑎎", "𑎎𑏅"),
    (0x113C9, "𑎂𑎐𑏂", "𑎃𑎑𑏈"),
    (0x114B0, "𑒹", "𑒼"),
    (0x114BA, "𑒹", "𑒻"),
    (0x114BD, "𑒹", "𑒾"),
    (0x115AF, "𑖸𑖹", "𑖺𑖻"),
    (0x11930, "𑤵", "𑤸"),
    (0x1611E, "𖄞", "𖄡"),
    (0x1611F, "𖄢𖄡𖄢", "𖄣𖄤𖄦𖄧"),
    (0x16120, "𖄡𖄞", "𖄥𖄨"),
    (0x16129, "𖄞", "𖄢"),
    (0x16D67, "𖵧𖵣𖵩", "𖵨𖵩𖵪")]

def compositions : List (Nat × List (Char × Char)) :=
  composedLetters.map fun (mark, plain, marked) => (mark, plain.toList.zip marked.toList)

-- The character that is written for two.
def paired? (a b : Char) : Option Char := do
  let (_, letters) ← compositions.find? fun (mark, letters) =>
    mark = b.toNat && letters.any (·.1 = a)
  letters.lookup a

-- The two characters that one is written for.
def parts? (c : Char) : Option (Char × Char) :=
  compositions.findSome? fun (mark, letters) =>
    (letters.find? (·.2 = c)).map fun (plain, _) => (plain, Char.ofNat mark)

-- A syllable of Hangul is a leading consonant, a vowel and perhaps a trailing consonant, and these
-- are numbered: 19 times 21 times 28 of them, of which the first trailing one is none.
def syllable? (a b : Char) : Option Char :=
  let n := a.toNat
  let m := b.toNat
  if 0x1100 ≤ n && n < 0x1113 && 0x1161 ≤ m && m < 0x1176 then
    some (Char.ofNat (0xAC00 + ((n - 0x1100) * 21 + (m - 0x1161)) * 28))
  else if 0xAC00 ≤ n && n < 0xD7A4 && (n - 0xAC00) % 28 = 0 && 0x11A7 < m && m < 0x11C3 then
    some (Char.ofNat (n + (m - 0x11A7)))
  else none

def jamo? (c : Char) : Option (List Char) :=
  let n := c.toNat
  if 0xAC00 ≤ n && n < 0xD7A4 then
    let k := n - 0xAC00
    let pair := [Char.ofNat (0x1100 + k / 588), Char.ofNat (0x1161 + k / 28 % 21)]
    some (if k % 28 = 0 then pair else pair ++ [Char.ofNat (0x11A7 + k % 28)])
  else none

-- Everything that a character is written for. No letter carries more than three marks.
def decomposed : (depth : Nat) → Char → List Char
  | 0, c => [c]
  | depth + 1, c =>
    if c.toNat < 0x80 then [c]
    else match jamo? c with
      | some letters => letters
      | none =>
        match parts? c with
        | some (plain, mark) => decomposed depth plain ++ [mark]
        | none => [c]

-- Puts a mark behind those of lower classes.
def place (c : Char) : List Char → List Char
  | [] => [c]
  | d :: rest =>
    if 0 < combiningClass d && combiningClass d < combiningClass c then d :: place c rest
    else c :: d :: rest

def arranged (cs : List Char) : List Char := cs.foldr place []

-- What is composed so far: the text before the last letter, from its end on, that letter, and the
-- marks after it that it does not take up.
structure Composed where
  reversed : List Char
  letter : Option Char
  marks : List Char

def Composed.closed (s : Composed) : List Char := s.marks.reverse ++ s.letter.toList ++ s.reversed

-- A letter takes up a character when there is one for the two and no mark of the same class, or
-- letter, is between them.
def Composed.add (s : Composed) (c : Char) : Composed :=
  let k := combiningClass c
  let free := match s.marks.getLast? with
    | none => true
    | some mark => combiningClass mark < k
  let both := if free then s.letter.bind fun letter => syllable? letter c <|> paired? letter c else none
  match both with
  | some letter => { s with letter }
  | none => if k = 0 then ⟨s.closed, some c, []⟩ else { s with marks := s.marks ++ [c] }

-- The form in which letters and their marks are one character where there is one. No character of
-- ASCII is a mark or goes with another.
def composed (cs : List Char) : List Char :=
  if cs.all (·.toNat < 0x80) then cs
  else
    let parts := arranged (cs.flatMap (decomposed 4))
    (parts.foldl Composed.add ⟨[], none, []⟩).closed.reverse

end Reconcile.Unicode
