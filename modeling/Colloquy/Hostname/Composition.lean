import Colloquy.Hostname.Character

/-! # Letters with marks

Many letters with a mark behind them are one character too. A text is composed when it holds no
letter in parts and no marks out of order: taking all its letters apart, putting their marks in
order and joining them again gives the text itself. The tables follow Unicode 14, for characters
that labels of host names may hold.
-/
set_option autoImplicit false

namespace Colloquy.Hostname

/-- Under a mark, letters that it joins, each with what they are together. -/
def letterPairs : List (Char × String) := [
    ('\u0300', "aàeèiìoòuùüǜnǹеѐиѝēḕōṑwẁâầăằêềôồơờưừyỳἀἂἁἃἐἒἑἓἠἢἡἣἰἲἱἳὀὂὁὃὐὒὑὓὠὢὡὣαὰεὲηὴιὶοὸυὺωὼ" ++
      "ϊῒϋῢ"),
    ('\u0301', "aáeéiíoóuúyýcćlĺnńrŕsśzźüǘgǵåǻæǽøǿϊΐαάεέηήιίϋΰοόυύωώгѓкќçḉēḗïḯkḱmḿõṍōṓpṕũṹwẃâấăắ" ++
      "êếôốơớưứἀἄἁἅἐἔἑἕἠἤἡἥἰἴἱἵὀὄὁὅὐὔὑὕὠὤὡὥ"),
    ('\u0302', "aâeêiîoôuûcĉgĝhĥjĵsŝwŵyŷzẑạậẹệọộ"),
    ('\u0303', "aãnñoõiĩuũvṽâẫăẵeẽêễôỗơỡưữyỹ"),
    ('\u0304', "aāeēiīoōuūüǖäǟȧǡæǣǫǭöȫõȭȯȱyȳиӣуӯgḡḷḹṛṝαᾱιῑυῡ"),
    ('\u0306', "aăeĕgğiĭoŏuŭийуўжӂаӑеӗȩḝạặαᾰιῐυῠ"),
    ('\u0307', "cċeėgġzżaȧoȯbḃdḋfḟhḣmṁnṅpṗrṙsṡśṥšṧṣṩtṫwẇxẋyẏ"),
    ('\u0308', "aäeëiïoöuüyÿιϊυϋеёіїаӓәӛжӝзӟиӥоӧөӫэӭуӱчӵыӹhḧõṏūṻwẅxẍtẗ"),
    ('\u0309', "aảâẩăẳeẻêểiỉoỏôổơởuủưửyỷ"),
    ('\u030a', "aåuůwẘyẙ"),
    ('\u030b', "oőuűуӳ"),
    ('\u030c', "cčdďeělľnňrřsštťzžaǎiǐoǒuǔüǚgǧkǩʒǯjǰhȟ"),
    ('\u030f', "aȁeȅiȉoȍrȑuȕѵѷ"),
    ('\u0311', "aȃeȇiȋoȏrȓuȗ"),
    ('\u0313', "αἀεἐηἠιἰοὀυὐωὠρῤ"),
    ('\u0314', "αἁεἑηἡιἱοὁυὑωὡρῥ"),
    ('\u031b', "oơuư"),
    ('\u0323', "bḅdḍhḥkḳlḷmṃnṇrṛsṣtṭvṿwẉzẓaạeẹiịoọơợuụưựyỵ"),
    ('\u0324', "uṳ"),
    ('\u0325', "aḁ"),
    ('\u0326', "sștț"),
    ('\u0327', "cçgģkķlļnņrŗsştţeȩdḑhḩ"),
    ('\u0328', "aąeęiįuųoǫ"),
    ('\u032d', "dḓeḙlḽnṋtṱuṷ"),
    ('\u032e', "hḫ"),
    ('\u0330', "eḛiḭuṵ"),
    ('\u0331', "bḇdḏkḵlḻnṉrṟtṯzẕhẖ"),
    ('\u0342', "ἀἆἁἇἠἦἡἧἰἶἱἷὐὖὑὗὠὦὡὧαᾶηῆιῖϊῗυῦϋῧωῶ"),
    ('\u3099', "かがきぎくぐけげこごさざしじすずせぜそぞただちぢつづてでとどはばひびふぶへべほぼうゔゝゞカガキギクグケゲコゴサザシジスズセゼソゾタダチヂツヅテデトドハバヒビフブ" ++
      "ヘベホボウヴワヷヰヸヱヹヲヺヽヾ"),
    ('\u309a', "はぱひぴふぷへぺほぽハパヒピフプヘペホポ")]

/-- Letters and signs of other scripts, with what they are together. -/
def signPairs : List (Nat × Nat × Nat) := [
    (0x0627, 0x0653, 0x0622), (0x0627, 0x0654, 0x0623), (0x0648, 0x0654, 0x0624),
    (0x064a, 0x0654, 0x0626), (0x06d5, 0x0654, 0x06c0), (0x06c1, 0x0654, 0x06c2),
    (0x06d2, 0x0654, 0x06d3), (0x0627, 0x0655, 0x0625), (0x0928, 0x093c, 0x0929),
    (0x0930, 0x093c, 0x0931), (0x0933, 0x093c, 0x0934), (0x09c7, 0x09be, 0x09cb),
    (0x09c7, 0x09d7, 0x09cc), (0x0b47, 0x0b3e, 0x0b4b), (0x0b47, 0x0b56, 0x0b48),
    (0x0b47, 0x0b57, 0x0b4c), (0x0bc6, 0x0bbe, 0x0bca), (0x0bc7, 0x0bbe, 0x0bcb),
    (0x0b92, 0x0bd7, 0x0b94), (0x0bc6, 0x0bd7, 0x0bcc), (0x0c46, 0x0c56, 0x0c48),
    (0x0cc6, 0x0cc2, 0x0cca), (0x0cbf, 0x0cd5, 0x0cc0), (0x0cc6, 0x0cd5, 0x0cc7),
    (0x0cca, 0x0cd5, 0x0ccb), (0x0cc6, 0x0cd6, 0x0cc8), (0x0d46, 0x0d3e, 0x0d4a),
    (0x0d47, 0x0d3e, 0x0d4b), (0x0d46, 0x0d57, 0x0d4c), (0x0dd9, 0x0dca, 0x0dda),
    (0x0ddc, 0x0dca, 0x0ddd), (0x0dd9, 0x0dcf, 0x0ddc), (0x0dd9, 0x0ddf, 0x0dde),
    (0x1025, 0x102e, 0x1026), (0x1b05, 0x1b35, 0x1b06), (0x1b07, 0x1b35, 0x1b08),
    (0x1b09, 0x1b35, 0x1b0a), (0x1b0b, 0x1b35, 0x1b0c), (0x1b0d, 0x1b35, 0x1b0e),
    (0x1b11, 0x1b35, 0x1b12), (0x1b3a, 0x1b35, 0x1b3b), (0x1b3c, 0x1b35, 0x1b3d),
    (0x1b3e, 0x1b35, 0x1b40), (0x1b3f, 0x1b35, 0x1b41), (0x1b42, 0x1b35, 0x1b43),
    (0x11099, 0x110ba, 0x1109a), (0x1109b, 0x110ba, 0x1109c), (0x110a5, 0x110ba, 0x110ab),
    (0x11131, 0x11127, 0x1112e), (0x11132, 0x11127, 0x1112f), (0x11347, 0x1133e, 0x1134b),
    (0x11347, 0x11357, 0x1134c), (0x114b9, 0x114b0, 0x114bc), (0x114b9, 0x114ba, 0x114bb),
    (0x114b9, 0x114bd, 0x114be), (0x115b8, 0x115af, 0x115ba), (0x115b9, 0x115af, 0x115bb),
    (0x11935, 0x11930, 0x11938)]

/-- Every other character with the one behind it. -/
def twoByTwo : List Char → List (Char × Char)
  | a :: b :: rest => (a, b) :: twoByTwo rest
  | _ => []

structure Joint where
  letter : Char
  mark : Char
  whole : Char

def joints : List Joint :=
  (letterPairs.flatMap fun (mark, pairs) =>
    (twoByTwo pairs.toList).map fun (letter, whole) => Joint.mk letter mark whole) ++
  signPairs.map fun (letter, mark, whole) =>
    Joint.mk (Char.ofNat letter) (Char.ofNat mark) (Char.ofNat whole)

def joined? (letter mark : Char) : Option Char :=
  (joints.find? fun j => j.letter = letter && j.mark = mark).map Joint.whole

def mostMarks : Nat := 3

def takenApart : Nat → Char → List Char
  | 0, c => [c]
  | n + 1, c => match joints.find? fun j => j.whole = c with
    | some j => takenApart n j.letter ++ [j.mark]
    | none => [c]

/-- A character put in front of a text. A mark goes behind marks of lower classes. -/
def insertMark (c : Char) : List Char → List Char
  | [] => [c]
  | d :: rest =>
    if 0 < orderClass d ∧ orderClass d < orderClass c then d :: insertMark c rest
    else c :: d :: rest

def inOrder (cs : List Char) : List Char :=
  cs.foldr insertMark []

/-- A letter and the marks behind it, joined as far as they can be. Those in `kept`, the last first,
did not join; a mark does not reach over one that is not of a lower class. -/
def joinMarks (letter : Char) (kept : List Char) : List Char → List Char
  | [] => letter :: kept.reverse
  | c :: rest =>
    let isBlocked := kept.head?.any fun k => orderClass c ≤ orderClass k
    match if isBlocked then none else joined? letter c with
    | some whole => joinMarks whole kept rest
    | none =>
      if orderClass c = 0 then letter :: (kept.reverse ++ joinMarks c [] rest)
      else joinMarks letter (c :: kept) rest

def compose (cs : List Char) : List Char :=
  match inOrder (cs.flatMap (takenApart mostMarks)) with
  | [] => []
  | c :: rest => joinMarks c [] rest

def isComposed (cs : List Char) : Bool :=
  compose cs == cs

end Colloquy.Hostname
