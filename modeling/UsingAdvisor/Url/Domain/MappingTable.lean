import UsingAdvisor.Url.Domain.Stretch

/-!
# Domain names: the mapping table

What becomes of the characters of a domain name before it is looked up: the mapping of the Unicode
standard on internationalised names, in which the German sharp s, the Greek final sigma and the two
joiners stand for themselves. The stretches are ascending and do not overlap.
-/

namespace UsingAdvisor.Url.Domain

/-- The code points below U+3000 that become something else. -/
def basicStretches : List Stretch := [
  .shift 0x41 0x5A 1 32,
  .chars 0xA0 " ",
  .texts 0xA8 [" \u0308"],
  .chars 0xAA "a",
  .texts 0xAF [" \u0304"],
  .chars 0xB2 "23",
  .texts 0xB4 [" \u0301", "μ"],
  .texts 0xB8 [" \u0327", "1", "o"],
  .texts 0xBC ["1⁄4", "1⁄2", "3⁄4"],
  .shift 0xC0 0xD6 1 32,
  .shift 0xD8 0xDE 1 32,
  .shift 0x100 0x12E 2 1,
  .texts 0x130 ["i\u0307"],
  .texts 0x132 ["ij", "ij", "ĵ"],
  .chars 0x136 "ķ",
  .shift 0x139 0x13D 2 1,
  .texts 0x13F ["l·", "l·"],
  .shift 0x141 0x147 2 1,
  .texts 0x149 ["ʼn"],
  .shift 0x14A 0x176 2 1,
  .chars 0x178 "ÿ",
  .shift 0x179 0x17D 2 1,
  .chars 0x17F "s",
  .chars 0x181 "ɓƃ",
  .chars 0x184 "ƅ",
  .chars 0x186 "ɔƈ",
  .chars 0x189 "ɖɗƌ",
  .chars 0x18E "ǝəɛƒ",
  .chars 0x193 "ɠɣ",
  .chars 0x196 "ɩɨƙ",
  .chars 0x19C "ɯɲ",
  .chars 0x19F "ɵ",
  .shift 0x1A0 0x1A4 2 1,
  .chars 0x1A6 "ʀƨ",
  .chars 0x1A9 "ʃ",
  .chars 0x1AC "ƭ",
  .chars 0x1AE "ʈư",
  .chars 0x1B1 "ʊʋƴ",
  .chars 0x1B5 "ƶ",
  .chars 0x1B7 "ʒƹ",
  .chars 0x1BC "ƽ",
  .texts 0x1C4 ["dž", "dž", "dž", "lj", "lj", "lj", "nj", "nj", "nj"],
  .shift 0x1CD 0x1DB 2 1,
  .shift 0x1DE 0x1EE 2 1,
  .texts 0x1F1 ["dz", "dz", "dz", "ǵ"],
  .chars 0x1F6 "ƕƿ",
  .shift 0x1F8 0x21E 2 1,
  .chars 0x220 "ƞ",
  .shift 0x222 0x232 2 1,
  .chars 0x23A "ⱥȼ",
  .chars 0x23D "ƚⱦ",
  .chars 0x241 "ɂ",
  .chars 0x243 "ƀʉʌ",
  .shift 0x246 0x24E 2 1,
  .chars 0x2B0 "hɦjrɹɻʁwy",
  .texts 0x2D8 [" \u0306", " \u0307", " \u030A", " \u0328", " \u0303", " \u030B"],
  .chars 0x2E0 "ɣlsxʕ",
  .chars 0x340 "\u0300\u0301",
  .chars 0x343 "\u0313",
  .texts 0x344 ["\u0308\u0301", "ι"],
  .chars 0x370 "ͱ",
  .chars 0x372 "ͳ",
  .chars 0x374 "ʹ",
  .chars 0x376 "ͷ",
  .texts 0x37A [" ι"],
  .chars 0x37E ";ϳ",
  .texts 0x384 [" \u0301", " \u0308\u0301", "ά", "·", "έ", "ή", "ί"],
  .chars 0x38C "ό",
  .chars 0x38E "ύώ",
  .shift 0x391 0x3A1 1 32,
  .shift 0x3A3 0x3AB 1 32,
  .chars 0x3CF "ϗβθυύϋφπ",
  .shift 0x3D8 0x3EE 2 1,
  .chars 0x3F0 "κρσ",
  .chars 0x3F4 "θε",
  .chars 0x3F7 "ϸ",
  .chars 0x3F9 "σϻ",
  .chars 0x3FD "ͻͼͽ",
  .shift 0x400 0x40F 1 80,
  .shift 0x410 0x42F 1 32,
  .shift 0x460 0x480 2 1,
  .shift 0x48A 0x4BE 2 1,
  .chars 0x4C0 "ӏ",
  .shift 0x4C1 0x4CD 2 1,
  .shift 0x4D0 0x52E 2 1,
  .shift 0x531 0x556 1 48,
  .texts 0x587 ["եւ"],
  .texts 0x675 ["\u0627\u0674", "\u0648\u0674", "\u06C7\u0674", "\u064A\u0674"],
  .texts 0x958 [
    "क\u093C", "ख\u093C", "ग\u093C", "ज\u093C", "ड\u093C", "ढ\u093C", "फ\u093C", "य\u093C"],
  .texts 0x9DC ["ড\u09BC", "ঢ\u09BC"],
  .texts 0x9DF ["য\u09BC"],
  .texts 0xA33 ["ਲ\u0A3C"],
  .texts 0xA36 ["ਸ\u0A3C"],
  .texts 0xA59 ["ਖ\u0A3C", "ਗ\u0A3C", "ਜ\u0A3C"],
  .texts 0xA5E ["ਫ\u0A3C"],
  .texts 0xB5C ["ଡ\u0B3C", "ଢ\u0B3C"],
  .texts 0xE33 ["\u0E4Dา"],
  .texts 0xEB3 ["\u0ECDາ"],
  .texts 0xEDC ["ຫນ", "ຫມ"],
  .chars 0xF0C "་",
  .texts 0xF43 ["ག\u0FB7"],
  .texts 0xF4D ["ཌ\u0FB7"],
  .texts 0xF52 ["ད\u0FB7"],
  .texts 0xF57 ["བ\u0FB7"],
  .texts 0xF5C ["ཛ\u0FB7"],
  .texts 0xF69 ["ཀ\u0FB5"],
  .texts 0xF73 ["\u0F71\u0F72"],
  .texts 0xF75 [
    "\u0F71\u0F74", "\u0FB2\u0F80", "\u0FB2\u0F71\u0F80", "\u0FB3\u0F80", "\u0FB3\u0F71\u0F80"],
  .texts 0xF81 ["\u0F71\u0F80"],
  .texts 0xF93 ["\u0F92\u0FB7"],
  .texts 0xF9D ["\u0F9C\u0FB7"],
  .texts 0xFA2 ["\u0FA1\u0FB7"],
  .texts 0xFA7 ["\u0FA6\u0FB7"],
  .texts 0xFAC ["\u0FAB\u0FB7"],
  .texts 0xFB9 ["\u0F90\u0FB5"],
  .shift 0x10A0 0x10C5 1 7264,
  .chars 0x10C7 "ⴧ",
  .chars 0x10CD "ⴭ",
  .chars 0x10FC "ნ",
  .shift 0x13F8 0x13FD 1 (-8),
  .chars 0x1C80 "вдосттъѣꙋᲊ",
  .shift 0x1C90 0x1CBA 1 (-3008),
  .chars 0x1CBD "ჽჾჿ",
  .chars 0x1D2C "aæb",
  .chars 0x1D30 "deǝ",
  .shift 0x1D33 0x1D3A 1 (-7372),
  .chars 0x1D3C "oȣprtuwaɐɑᴂbdeəɛɜg",
  .chars 0x1D4F "kmŋoɔᴖᴗptuᴝɯvᴥβγδφχiruvβγρφχ",
  .chars 0x1D78 "н",
  .chars 0x1D9B "ɒcɕðɜfɟɡɥɨɩɪᵻʝɭᶅʟɱɰ",
  .shift 0x1DAE 0x1DB1 1 (-6972),
  .chars 0x1DB2 "ɸʂʃƫʉʊᴜʋʌzʐʑʒθ",
  .shift 0x1E00 0x1E94 2 1,
  .texts 0x1E9A ["aʾ", "ṡ"],
  .chars 0x1E9E "ß",
  .shift 0x1EA0 0x1EFE 2 1,
  .shift 0x1F08 0x1F0F 1 (-8),
  .shift 0x1F18 0x1F1D 1 (-8),
  .shift 0x1F28 0x1F2F 1 (-8),
  .shift 0x1F38 0x1F3F 1 (-8),
  .shift 0x1F48 0x1F4D 1 (-8),
  .shift 0x1F59 0x1F5F 2 (-8),
  .shift 0x1F68 0x1F6F 1 (-8),
  .chars 0x1F71 "ά",
  .chars 0x1F73 "έ",
  .chars 0x1F75 "ή",
  .chars 0x1F77 "ί",
  .chars 0x1F79 "ό",
  .chars 0x1F7B "ύ",
  .chars 0x1F7D "ώ",
  .texts 0x1F80 [
    "ἀι", "ἁι", "ἂι", "ἃι", "ἄι", "ἅι", "ἆι", "ἇι", "ἀι", "ἁι", "ἂι", "ἃι", "ἄι", "ἅι", "ἆι",
    "ἇι", "ἠι", "ἡι", "ἢι", "ἣι", "ἤι", "ἥι", "ἦι", "ἧι", "ἠι", "ἡι", "ἢι", "ἣι", "ἤι", "ἥι",
    "ἦι", "ἧι", "ὠι", "ὡι", "ὢι", "ὣι", "ὤι", "ὥι", "ὦι", "ὧι", "ὠι", "ὡι", "ὢι", "ὣι", "ὤι",
    "ὥι", "ὦι", "ὧι"],
  .texts 0x1FB2 ["ὰι", "αι", "άι"],
  .texts 0x1FB7 [
    "ᾶι", "ᾰ", "ᾱ", "ὰ", "ά", "αι", " \u0313", "ι", " \u0313", " \u0342", " \u0308\u0342", "ὴι",
    "ηι", "ήι"],
  .texts 0x1FC7 [
    "ῆι", "ὲ", "έ", "ὴ", "ή", "ηι", " \u0313\u0300", " \u0313\u0301", " \u0313\u0342"],
  .chars 0x1FD3 "ΐ",
  .chars 0x1FD8 "ῐῑὶί",
  .texts 0x1FDD [" \u0314\u0300", " \u0314\u0301", " \u0314\u0342"],
  .chars 0x1FE3 "ΰ",
  .chars 0x1FE8 "ῠῡὺύῥ",
  .texts 0x1FED [" \u0308\u0300", " \u0308\u0301", "\x60"],
  .texts 0x1FF2 ["ὼι", "ωι", "ώι"],
  .texts 0x1FF7 ["ῶι", "ὸ", "ό", "ὼ", "ώ", "ωι", " \u0301", " \u0314"],
  .chars 0x2000 "           ",
  .chars 0x2011 "‐",
  .texts 0x2017 [" \u0333"],
  .chars 0x202F " ",
  .texts 0x2033 ["′′", "′′′"],
  .texts 0x2036 ["‵‵", "‵‵‵"],
  .texts 0x203C ["!!"],
  .texts 0x203E [" \u0305"],
  .texts 0x2047 ["??", "?!", "!?"],
  .texts 0x2057 ["′′′′"],
  .chars 0x205F " ",
  .chars 0x2070 "0i",
  .shift 0x2074 0x2079 1 (-8256),
  .chars 0x207A "+−=()n",
  .shift 0x2080 0x2089 1 (-8272),
  .chars 0x208A "+−=()",
  .chars 0x2090 "aeoxəh",
  .shift 0x2096 0x2099 1 (-8235),
  .chars 0x209A "pst",
  .texts 0x20A8 ["rs"],
  .texts 0x2100 ["a/c", "a/s", "c", "°c"],
  .texts 0x2105 ["c/o", "c/u", "ɛ"],
  .texts 0x2109 ["°f"],
  .chars 0x210A "ghhhhħiill",
  .chars 0x2115 "n",
  .texts 0x2116 ["no"],
  .chars 0x2119 "pqrrr",
  .texts 0x2120 ["sm", "tel", "tm"],
  .chars 0x2124 "z",
  .chars 0x2126 "ω",
  .chars 0x2128 "z",
  .chars 0x212A "kåbc",
  .chars 0x212F "eefⅎmo",
  .shift 0x2135 0x2138 1 (-7013),
  .chars 0x2139 "i",
  .texts 0x213B ["fax", "π", "γ", "γ", "π", "∑"],
  .chars 0x2145 "ddeij",
  .texts 0x2150 [
    "1⁄7", "1⁄9", "1⁄10", "1⁄3", "2⁄3", "1⁄5", "2⁄5", "3⁄5", "4⁄5", "1⁄6", "5⁄6", "1⁄8", "3⁄8",
    "5⁄8", "7⁄8", "1⁄", "i", "ii", "iii", "iv", "v", "vi", "vii", "viii", "ix", "x", "xi", "xii",
    "l", "c", "d", "m", "i", "ii", "iii", "iv", "v", "vi", "vii", "viii", "ix", "x", "xi", "xii",
    "l", "c", "d", "m"],
  .chars 0x2183 "ↄ",
  .texts 0x2189 ["0⁄3"],
  .texts 0x222C ["∫∫", "∫∫∫"],
  .texts 0x222F ["∮∮", "∮∮∮"],
  .chars 0x2329 "〈〉",
  .shift 0x2460 0x2468 1 (-9263),
  .texts 0x2469 [
    "10", "11", "12", "13", "14", "15", "16", "17", "18", "19", "20", "(1)", "(2)", "(3)", "(4)",
    "(5)", "(6)", "(7)", "(8)", "(9)", "(10)", "(11)", "(12)", "(13)", "(14)", "(15)", "(16)",
    "(17)", "(18)", "(19)", "(20)"],
  .texts 0x249C [
    "(a)", "(b)", "(c)", "(d)", "(e)", "(f)", "(g)", "(h)", "(i)", "(j)", "(k)", "(l)", "(m)",
    "(n)", "(o)", "(p)", "(q)", "(r)", "(s)", "(t)", "(u)", "(v)", "(w)", "(x)", "(y)", "(z)"],
  .shift 0x24B6 0x24CF 1 (-9301),
  .shift 0x24D0 0x24E9 1 (-9327),
  .chars 0x24EA "0",
  .texts 0x2A0C ["∫∫∫∫"],
  .texts 0x2A74 ["::=", "==", "==="],
  .texts 0x2ADC ["⫝\u0338"],
  .shift 0x2C00 0x2C2F 1 48,
  .chars 0x2C60 "ⱡ",
  .chars 0x2C62 "ɫᵽɽ",
  .shift 0x2C67 0x2C6B 2 1,
  .chars 0x2C6D "ɑɱɐɒ",
  .chars 0x2C72 "ⱳ",
  .chars 0x2C75 "ⱶ",
  .chars 0x2C7C "jvȿɀ",
  .shift 0x2C80 0x2CE2 2 1,
  .chars 0x2CEB "ⳬ",
  .chars 0x2CED "ⳮ",
  .chars 0x2CF2 "ⳳ",
  .chars 0x2D6F "ⵡ",
  .chars 0x2E9F "母",
  .chars 0x2EF3 "龟",
  .chars 0x2F00 "一丨丶丿乙亅二亠人儿入八冂冖冫几凵刀力勹匕匚匸十卜卩厂厶又口囗土士夂夊夕大女子宀寸小尢尸屮山巛工己巾干幺广廴廾弋弓彐彡彳心戈戶手",
  .chars 0x2F40 "支攴文斗斤方无日曰月木欠止歹殳毋比毛氏气水火爪父爻爿片牙牛犬玄玉瓜瓦甘生用田疋疒癶白皮皿目矛矢石示禸禾穴立竹米糸缶网羊羽老而耒耳",
  .chars 0x2F80 "聿肉臣自至臼舌舛舟艮色艸虍虫血行衣襾見角言谷豆豕豸貝赤走足身車辛辰辵邑酉釆里金長門阜隶隹雨靑非面革韋韭音頁風飛食首香馬骨高髟鬥鬯",
  .chars 0x2FC0 "鬲鬼魚鳥鹵鹿麥麻黃黍黑黹黽鼎鼓鼠鼻齊齒龍龜龠"]

/-- The code points from U+3000 to U+FFFF that become something else. -/
def wideStretches : List Stretch := [
  .chars 0x3000 " ",
  .chars 0x3002 ".",
  .chars 0x3036 "〒",
  .chars 0x3038 "十卄卅",
  .texts 0x309B [" \u3099", " \u309A"],
  .texts 0x309F ["より"],
  .texts 0x30FF ["コト"],
  .chars 0x3131 "ᄀᄁᆪᄂᆬᆭᄃᄄᄅ",
  .shift 0x313A 0x313F 1 (-8074),
  .chars 0x3140 "ᄚᄆᄇᄈᄡ",
  .shift 0x3145 0x314E 1 (-8252),
  .shift 0x314F 0x3163 1 (-8174),
  .chars 0x3165 "ᄔᄕᇇᇈᇌᇎᇓᇗᇙᄜᇝᇟᄝᄞᄠᄢᄣᄧᄩ",
  .shift 0x3178 0x317C 1 (-8269),
  .chars 0x317D "ᄲᄶᅀᅇᅌᇱᇲᅗᅘᅙᆄᆅᆈᆑᆒᆔᆞᆡ",
  .chars 0x3192 "一二三四上中下甲乙丙丁天地人",
  .texts 0x3200 [
    "(ᄀ)", "(ᄂ)", "(ᄃ)", "(ᄅ)", "(ᄆ)", "(ᄇ)", "(ᄉ)", "(ᄋ)", "(ᄌ)", "(ᄎ)", "(ᄏ)", "(ᄐ)", "(ᄑ)",
    "(ᄒ)", "(가)", "(나)", "(다)", "(라)", "(마)", "(바)", "(사)", "(아)", "(자)", "(차)", "(카)", "(타)",
    "(파)", "(하)", "(주)", "(오전)", "(오후)"],
  .texts 0x3220 [
    "(一)", "(二)", "(三)", "(四)", "(五)", "(六)", "(七)", "(八)", "(九)", "(十)", "(月)", "(火)", "(水)",
    "(木)", "(金)", "(土)", "(日)", "(株)", "(有)", "(社)", "(名)", "(特)", "(財)", "(祝)", "(労)", "(代)",
    "(呼)", "(学)", "(監)", "(企)", "(資)", "(協)", "(祭)", "(休)", "(自)", "(至)", "問", "幼", "文", "箏"],
  .texts 0x3250 [
    "pte", "21", "22", "23", "24", "25", "26", "27", "28", "29", "30", "31", "32", "33", "34",
    "35"],
  .chars 0x3260 "ᄀᄂᄃᄅᄆᄇᄉᄋᄌ",
  .shift 0x3269 0x326D 1 (-8539),
  .chars 0x326E "가나다라마바사아자차카타파하",
  .texts 0x327C ["참고", "주의", "우"],
  .chars 0x3280 "一二三四五六七八九十月火水木金土日株有社名特財祝労秘男女適優印注項休写正上中下左右医宗学監企資協夜",
  .texts 0x32B1 [
    "36", "37", "38", "39", "40", "41", "42", "43", "44", "45", "46", "47", "48", "49", "50",
    "1月", "2月", "3月", "4月", "5月", "6月", "7月", "8月", "9月", "10月", "11月", "12月", "hg", "erg", "ev",
    "ltd"],
  .chars 0x32D0 "アイウエオカキクケコサシスセソタチツテト",
  .shift 0x32E4 0x32E9 1 (-538),
  .chars 0x32EA "ヒフヘホ",
  .shift 0x32EE 0x32F2 1 (-528),
  .chars 0x32F3 "ヤユ",
  .shift 0x32F5 0x32FA 1 (-525),
  .shift 0x32FB 0x32FE 1 (-524),
  .texts 0x32FF [
    "令和", "アパート", "アルファ", "アンペア", "アール", "イニング", "インチ", "ウォン", "エスクード", "エーカー", "オンス", "オーム",
    "カイリ", "カラット", "カロリー", "ガロン", "ガンマ", "ギガ", "ギニー", "キュリー", "ギルダー", "キロ", "キログラム", "キロメートル",
    "キロワット", "グラム", "グラムトン", "クルゼイロ", "クローネ", "ケース", "コルナ", "コーポ", "サイクル", "サンチーム", "シリング",
    "センチ", "セント", "ダース", "デシ", "ドル", "トン", "ナノ", "ノット", "ハイツ", "パーセント", "パーツ", "バーレル", "ピアストル",
    "ピクル", "ピコ", "ビル", "ファラッド", "フィート", "ブッシェル", "フラン", "ヘクタール", "ペソ", "ペニヒ", "ヘルツ", "ペンス",
    "ページ", "ベータ", "ポイント", "ボルト", "ホン", "ポンド", "ホール", "ホーン", "マイクロ", "マイル", "マッハ", "マルク", "マンション",
    "ミクロン", "ミリ", "ミリバール", "メガ", "メガトン", "メートル", "ヤード", "ヤール", "ユアン", "リットル", "リラ", "ルピー",
    "ルーブル", "レム", "レントゲン", "ワット", "0点", "1点", "2点", "3点", "4点", "5点", "6点", "7点", "8点", "9点",
    "10点", "11点", "12点", "13点", "14点", "15点", "16点", "17点", "18点", "19点", "20点", "21点", "22点",
    "23点", "24点", "hpa", "da", "au", "bar", "ov", "pc", "dm", "dm2", "dm3", "iu", "平成", "昭和",
    "大正", "明治", "株式会社", "pa", "na", "μa", "ma", "ka", "kb", "mb", "gb", "cal", "kcal", "pf",
    "nf", "μf", "μg", "mg", "kg", "hz", "khz", "mhz", "ghz", "thz", "μl", "ml", "dl", "kl", "fm",
    "nm", "μm", "mm", "cm", "km", "mm2", "cm2", "m2", "km2", "mm3", "cm3", "m3", "km3", "m∕s",
    "m∕s2", "pa", "kpa", "mpa", "gpa", "rad", "rad∕s", "rad∕s2", "ps", "ns", "μs", "ms", "pv",
    "nv", "μv", "mv", "kv", "mv", "pw", "nw", "μw", "mw", "kw", "mw", "kω", "mω"],
  .texts 0x33C3 ["bq", "cc", "cd", "c∕kg"],
  .texts 0x33C8 [
    "db", "gy", "ha", "hp", "in", "kk", "km", "kt", "lm", "ln", "log", "lx", "mb", "mil", "mol",
    "ph"],
  .texts 0x33D9 [
    "ppm", "pr", "sr", "sv", "wb", "v∕m", "a∕m", "1日", "2日", "3日", "4日", "5日", "6日", "7日", "8日",
    "9日", "10日", "11日", "12日", "13日", "14日", "15日", "16日", "17日", "18日", "19日", "20日", "21日",
    "22日", "23日", "24日", "25日", "26日", "27日", "28日", "29日", "30日", "31日", "gal"],
  .shift 0xA640 0xA66C 2 1,
  .shift 0xA680 0xA69A 2 1,
  .chars 0xA69C "ъь",
  .shift 0xA722 0xA72E 2 1,
  .shift 0xA732 0xA76E 2 1,
  .chars 0xA770 "ꝯ",
  .chars 0xA779 "ꝺ",
  .chars 0xA77B "ꝼ",
  .chars 0xA77D "ᵹ",
  .shift 0xA77E 0xA786 2 1,
  .chars 0xA78B "ꞌ",
  .chars 0xA78D "ɥ",
  .chars 0xA790 "ꞑ",
  .chars 0xA792 "ꞓ",
  .shift 0xA796 0xA7A8 2 1,
  .chars 0xA7AA "ɦɜɡɬɪ",
  .chars 0xA7B0 "ʞʇʝꭓ",
  .shift 0xA7B4 0xA7C2 2 1,
  .chars 0xA7C4 "ꞔʂᶎꟈ",
  .chars 0xA7C9 "ꟊ",
  .chars 0xA7CB "ɤ",
  .shift 0xA7CC 0xA7DA 2 1,
  .chars 0xA7DC "ƛ",
  .chars 0xA7F1 "scfqꟶ",
  .chars 0xA7F8 "ħœ",
  .chars 0xAB5C "ꜧꬷɫꭒ",
  .chars 0xAB69 "ʍ",
  .shift 0xAB70 0xABBF 1 (-38864),
  .chars 0xF900 "豈更車賈滑串句龜龜契金喇奈懶癩羅蘿螺裸邏樂洛烙珞落酪駱亂卵欄爛蘭鸞嵐濫藍襤拉臘蠟廊朗浪狼郎來冷勞擄櫓爐盧老蘆虜路露魯鷺碌祿綠菉錄",
  .chars 0xF940 "鹿論壟弄籠聾牢磊賂雷壘屢樓淚漏累縷陋勒肋凜凌稜綾菱陵讀拏樂諾丹寧怒率異北磻便復不泌數索參塞省葉說殺辰沈拾若掠略亮兩凉梁糧良諒量勵",
  .chars 0xF980 "呂女廬旅濾礪閭驪麗黎力曆歷轢年憐戀撚漣煉璉秊練聯輦蓮連鍊列劣咽烈裂說廉念捻殮簾獵令囹寧嶺怜玲瑩羚聆鈴零靈領例禮醴隸惡了僚寮尿料樂",
  .chars 0xF9C0 "燎療蓼遼龍暈阮劉杻柳流溜琉留硫紐類六戮陸倫崙淪輪律慄栗率隆利吏履易李梨泥理痢罹裏裡里離匿溺吝燐璘藺隣鱗麟林淋臨立笠粒狀炙識什茶刺",
  .chars 0xFA00 "切度拓糖宅洞暴輻行降見廓兀嗀",
  .chars 0xFA10 "塚",
  .chars 0xFA12 "晴",
  .chars 0xFA15 "凞猪益礼神祥福靖精羽",
  .chars 0xFA20 "蘒",
  .chars 0xFA22 "諸",
  .chars 0xFA25 "逸都",
  .chars 0xFA2A "飯飼館鶴郞隷侮僧免勉勤卑喝嘆器塀墨層屮悔慨憎懲敏既暑梅海渚漢煮爫琢碑社祉祈祐祖祝禍禎穀突節練縉繁署者臭艹艹著褐視謁謹賓贈辶逸難響",
  .chars 0xFA6A "頻恵𤋮舘",
  .chars 0xFA70 "並况全侀充冀勇勺喝啕喙嗢塚墳奄奔婢嬨廒廙彩徭惘慎愈憎慠懲戴揄搜摒敖晴朗望杖歹殺流滛滋漢瀞煮瞧爵犯猪瑱甆画瘝瘟益盛直睊着磌窱節类絛",
  .chars 0xFAB0 "練缾者荒華蝹襁覆視調諸請謁諾諭謹變贈輸遲醙鉶陼難靖韛響頋頻鬒龜𢡊𢡄𣏕㮝䀘䀹𥉉𥳐𧻓齃龎",
  .texts 0xFB00 ["ff", "fi", "fl", "ffi", "ffl", "st", "st"],
  .texts 0xFB13 ["մն", "մե", "մի", "վն", "մխ"],
  .texts 0xFB1D ["\u05D9\u05B4"],
  .texts 0xFB1F ["\u05F2\u05B7"],
  .chars 0xFB20 "\u05E2\u05D0\u05D3\u05D4\u05DB\u05DC\u05DD\u05E8\u05EA+",
  .texts 0xFB2A [
    "\u05E9\u05C1", "\u05E9\u05C2", "\u05E9\u05BC\u05C1", "\u05E9\u05BC\u05C2", "\u05D0\u05B7",
    "\u05D0\u05B8", "\u05D0\u05BC", "\u05D1\u05BC", "\u05D2\u05BC", "\u05D3\u05BC",
    "\u05D4\u05BC", "\u05D5\u05BC", "\u05D6\u05BC"],
  .texts 0xFB38 ["\u05D8\u05BC", "\u05D9\u05BC", "\u05DA\u05BC", "\u05DB\u05BC", "\u05DC\u05BC"],
  .texts 0xFB3E ["\u05DE\u05BC"],
  .texts 0xFB40 ["\u05E0\u05BC", "\u05E1\u05BC"],
  .texts 0xFB43 ["\u05E3\u05BC", "\u05E4\u05BC"],
  .texts 0xFB46 [
    "\u05E6\u05BC", "\u05E7\u05BC", "\u05E8\u05BC", "\u05E9\u05BC", "\u05EA\u05BC",
    "\u05D5\u05B9", "\u05D1\u05BF", "\u05DB\u05BF", "\u05E4\u05BF", "\u05D0\u05DC"],
  .chars 0xFB50 "\u0671\u0671\u067B\u067B\u067B\u067B\u067E\u067E\u067E\u067E",
  .chars 0xFB5A "\u0680\u0680\u0680\u0680\u067A\u067A\u067A\u067A\u067F\u067F",
  .chars 0xFB64 "\u067F\u067F\u0679\u0679\u0679\u0679\u06A4\u06A4\u06A4\u06A4",
  .chars 0xFB6E "\u06A6\u06A6\u06A6\u06A6\u0684\u0684\u0684\u0684\u0683\u0683",
  .chars 0xFB78 "\u0683\u0683\u0686\u0686\u0686\u0686\u0687\u0687\u0687\u0687",
  .chars 0xFB82 "\u068D\u068D\u068C\u068C\u068E\u068E\u0688\u0688\u0698\u0698",
  .chars 0xFB8C "\u0691\u0691\u06A9\u06A9\u06A9\u06A9\u06AF\u06AF\u06AF\u06AF",
  .chars 0xFB96 "\u06B3\u06B3\u06B3\u06B3\u06B1\u06B1\u06B1\u06B1\u06BA\u06BA",
  .chars 0xFBA0 "\u06BB\u06BB\u06BB\u06BB\u06C0\u06C0\u06C1\u06C1\u06C1\u06C1",
  .chars 0xFBAA "\u06BE\u06BE\u06BE\u06BE\u06D2\u06D2\u06D3\u06D3",
  .chars 0xFBD3 "\u06AD\u06AD\u06AD\u06AD\u06C7\u06C7\u06C6\u06C6\u06C8\u06C8",
  .texts 0xFBDD ["\u06C7\u0674"],
  .chars 0xFBDE "\u06CB\u06CB\u06C5\u06C5\u06C9\u06C9\u06D0\u06D0\u06D0\u06D0",
  .chars 0xFBE8 "\u0649\u0649",
  .texts 0xFBEA [
    "\u0626\u0627", "\u0626\u0627", "\u0626\u06D5", "\u0626\u06D5", "\u0626\u0648",
    "\u0626\u0648", "\u0626\u06C7", "\u0626\u06C7", "\u0626\u06C6", "\u0626\u06C6",
    "\u0626\u06C8", "\u0626\u06C8", "\u0626\u06D0", "\u0626\u06D0", "\u0626\u06D0",
    "\u0626\u0649", "\u0626\u0649", "\u0626\u0649", "\u06CC", "\u06CC", "\u06CC", "\u06CC",
    "\u0626\u062C", "\u0626\u062D", "\u0626\u0645", "\u0626\u0649", "\u0626\u064A",
    "\u0628\u062C", "\u0628\u062D", "\u0628\u062E", "\u0628\u0645", "\u0628\u0649",
    "\u0628\u064A", "\u062A\u062C", "\u062A\u062D", "\u062A\u062E", "\u062A\u0645",
    "\u062A\u0649", "\u062A\u064A", "\u062B\u062C", "\u062B\u0645", "\u062B\u0649",
    "\u062B\u064A", "\u062C\u062D", "\u062C\u0645", "\u062D\u062C", "\u062D\u0645",
    "\u062E\u062C", "\u062E\u062D", "\u062E\u0645", "\u0633\u062C", "\u0633\u062D",
    "\u0633\u062E", "\u0633\u0645", "\u0635\u062D", "\u0635\u0645", "\u0636\u062C",
    "\u0636\u062D", "\u0636\u062E", "\u0636\u0645", "\u0637\u062D", "\u0637\u0645",
    "\u0638\u0645", "\u0639\u062C", "\u0639\u0645", "\u063A\u062C", "\u063A\u0645",
    "\u0641\u062C", "\u0641\u062D", "\u0641\u062E", "\u0641\u0645", "\u0641\u0649",
    "\u0641\u064A", "\u0642\u062D", "\u0642\u0645", "\u0642\u0649", "\u0642\u064A",
    "\u0643\u0627", "\u0643\u062C", "\u0643\u062D", "\u0643\u062E", "\u0643\u0644",
    "\u0643\u0645", "\u0643\u0649", "\u0643\u064A", "\u0644\u062C", "\u0644\u062D",
    "\u0644\u062E", "\u0644\u0645", "\u0644\u0649", "\u0644\u064A", "\u0645\u062C",
    "\u0645\u062D", "\u0645\u062E", "\u0645\u0645", "\u0645\u0649", "\u0645\u064A",
    "\u0646\u062C", "\u0646\u062D", "\u0646\u062E", "\u0646\u0645", "\u0646\u0649",
    "\u0646\u064A", "\u0647\u062C", "\u0647\u0645", "\u0647\u0649", "\u0647\u064A",
    "\u064A\u062C", "\u064A\u062D", "\u064A\u062E", "\u064A\u0645", "\u064A\u0649",
    "\u064A\u064A", "\u0630\u0670", "\u0631\u0670", "\u0649\u0670", " \u064C\u0651",
    " \u064D\u0651", " \u064E\u0651", " \u064F\u0651", " \u0650\u0651", " \u0651\u0670",
    "\u0626\u0631", "\u0626\u0632", "\u0626\u0645", "\u0626\u0646", "\u0626\u0649",
    "\u0626\u064A", "\u0628\u0631", "\u0628\u0632", "\u0628\u0645", "\u0628\u0646",
    "\u0628\u0649", "\u0628\u064A", "\u062A\u0631", "\u062A\u0632", "\u062A\u0645",
    "\u062A\u0646", "\u062A\u0649", "\u062A\u064A", "\u062B\u0631", "\u062B\u0632",
    "\u062B\u0645", "\u062B\u0646", "\u062B\u0649", "\u062B\u064A", "\u0641\u0649",
    "\u0641\u064A", "\u0642\u0649", "\u0642\u064A", "\u0643\u0627", "\u0643\u0644",
    "\u0643\u0645", "\u0643\u0649", "\u0643\u064A", "\u0644\u0645", "\u0644\u0649",
    "\u0644\u064A", "\u0645\u0627", "\u0645\u0645", "\u0646\u0631", "\u0646\u0632",
    "\u0646\u0645", "\u0646\u0646", "\u0646\u0649", "\u0646\u064A", "\u0649\u0670",
    "\u064A\u0631", "\u064A\u0632", "\u064A\u0645", "\u064A\u0646", "\u064A\u0649",
    "\u064A\u064A", "\u0626\u062C", "\u0626\u062D", "\u0626\u062E", "\u0626\u0645",
    "\u0626\u0647", "\u0628\u062C", "\u0628\u062D", "\u0628\u062E", "\u0628\u0645",
    "\u0628\u0647", "\u062A\u062C", "\u062A\u062D", "\u062A\u062E", "\u062A\u0645",
    "\u062A\u0647", "\u062B\u0645", "\u062C\u062D", "\u062C\u0645", "\u062D\u062C",
    "\u062D\u0645", "\u062E\u062C", "\u062E\u0645", "\u0633\u062C", "\u0633\u062D",
    "\u0633\u062E", "\u0633\u0645", "\u0635\u062D", "\u0635\u062E", "\u0635\u0645",
    "\u0636\u062C", "\u0636\u062D", "\u0636\u062E", "\u0636\u0645", "\u0637\u062D",
    "\u0638\u0645", "\u0639\u062C", "\u0639\u0645", "\u063A\u062C", "\u063A\u0645",
    "\u0641\u062C", "\u0641\u062D", "\u0641\u062E", "\u0641\u0645", "\u0642\u062D",
    "\u0642\u0645", "\u0643\u062C", "\u0643\u062D", "\u0643\u062E", "\u0643\u0644",
    "\u0643\u0645", "\u0644\u062C", "\u0644\u062D", "\u0644\u062E", "\u0644\u0645",
    "\u0644\u0647", "\u0645\u062C", "\u0645\u062D", "\u0645\u062E", "\u0645\u0645",
    "\u0646\u062C", "\u0646\u062D", "\u0646\u062E", "\u0646\u0645", "\u0646\u0647",
    "\u0647\u062C", "\u0647\u0645", "\u0647\u0670", "\u064A\u062C", "\u064A\u062D",
    "\u064A\u062E", "\u064A\u0645", "\u064A\u0647", "\u0626\u0645", "\u0626\u0647",
    "\u0628\u0645", "\u0628\u0647", "\u062A\u0645", "\u062A\u0647", "\u062B\u0645",
    "\u062B\u0647", "\u0633\u0645", "\u0633\u0647", "\u0634\u0645", "\u0634\u0647",
    "\u0643\u0644", "\u0643\u0645", "\u0644\u0645", "\u0646\u0645", "\u0646\u0647",
    "\u064A\u0645", "\u064A\u0647", "\u0640\u064E\u0651", "\u0640\u064F\u0651",
    "\u0640\u0650\u0651", "\u0637\u0649", "\u0637\u064A", "\u0639\u0649", "\u0639\u064A",
    "\u063A\u0649", "\u063A\u064A", "\u0633\u0649", "\u0633\u064A", "\u0634\u0649",
    "\u0634\u064A", "\u062D\u0649", "\u062D\u064A", "\u062C\u0649", "\u062C\u064A",
    "\u062E\u0649", "\u062E\u064A", "\u0635\u0649", "\u0635\u064A", "\u0636\u0649",
    "\u0636\u064A", "\u0634\u062C", "\u0634\u062D", "\u0634\u062E", "\u0634\u0645",
    "\u0634\u0631", "\u0633\u0631", "\u0635\u0631", "\u0636\u0631", "\u0637\u0649",
    "\u0637\u064A", "\u0639\u0649", "\u0639\u064A", "\u063A\u0649", "\u063A\u064A",
    "\u0633\u0649", "\u0633\u064A", "\u0634\u0649", "\u0634\u064A", "\u062D\u0649",
    "\u062D\u064A", "\u062C\u0649", "\u062C\u064A", "\u062E\u0649", "\u062E\u064A",
    "\u0635\u0649", "\u0635\u064A", "\u0636\u0649", "\u0636\u064A", "\u0634\u062C",
    "\u0634\u062D", "\u0634\u062E", "\u0634\u0645", "\u0634\u0631", "\u0633\u0631",
    "\u0635\u0631", "\u0636\u0631", "\u0634\u062C", "\u0634\u062D", "\u0634\u062E",
    "\u0634\u0645", "\u0633\u0647", "\u0634\u0647", "\u0637\u0645", "\u0633\u062C",
    "\u0633\u062D", "\u0633\u062E", "\u0634\u062C", "\u0634\u062D", "\u0634\u062E",
    "\u0637\u0645", "\u0638\u0645", "\u0627\u064B", "\u0627\u064B"],
  .texts 0xFD50 [
    "\u062A\u062C\u0645", "\u062A\u062D\u062C", "\u062A\u062D\u062C", "\u062A\u062D\u0645",
    "\u062A\u062E\u0645", "\u062A\u0645\u062C", "\u062A\u0645\u062D", "\u062A\u0645\u062E",
    "\u062C\u0645\u062D", "\u062C\u0645\u062D", "\u062D\u0645\u064A", "\u062D\u0645\u0649",
    "\u0633\u062D\u062C", "\u0633\u062C\u062D", "\u0633\u062C\u0649", "\u0633\u0645\u062D",
    "\u0633\u0645\u062D", "\u0633\u0645\u062C", "\u0633\u0645\u0645", "\u0633\u0645\u0645",
    "\u0635\u062D\u062D", "\u0635\u062D\u062D", "\u0635\u0645\u0645", "\u0634\u062D\u0645",
    "\u0634\u062D\u0645", "\u0634\u062C\u064A", "\u0634\u0645\u062E", "\u0634\u0645\u062E",
    "\u0634\u0645\u0645", "\u0634\u0645\u0645", "\u0636\u062D\u0649", "\u0636\u062E\u0645",
    "\u0636\u062E\u0645", "\u0637\u0645\u062D", "\u0637\u0645\u062D", "\u0637\u0645\u0645",
    "\u0637\u0645\u064A", "\u0639\u062C\u0645", "\u0639\u0645\u0645", "\u0639\u0645\u0645",
    "\u0639\u0645\u0649", "\u063A\u0645\u0645", "\u063A\u0645\u064A", "\u063A\u0645\u0649",
    "\u0641\u062E\u0645", "\u0641\u062E\u0645", "\u0642\u0645\u062D", "\u0642\u0645\u0645",
    "\u0644\u062D\u0645", "\u0644\u062D\u064A", "\u0644\u062D\u0649", "\u0644\u062C\u062C",
    "\u0644\u062C\u062C", "\u0644\u062E\u0645", "\u0644\u062E\u0645", "\u0644\u0645\u062D",
    "\u0644\u0645\u062D", "\u0645\u062D\u062C", "\u0645\u062D\u0645", "\u0645\u062D\u064A",
    "\u0645\u062C\u062D", "\u0645\u062C\u0645", "\u0645\u062E\u062C", "\u0645\u062E\u0645"],
  .texts 0xFD92 [
    "\u0645\u062C\u062E", "\u0647\u0645\u062C", "\u0647\u0645\u0645", "\u0646\u062D\u0645",
    "\u0646\u062D\u0649", "\u0646\u062C\u0645", "\u0646\u062C\u0645", "\u0646\u062C\u0649",
    "\u0646\u0645\u064A", "\u0646\u0645\u0649", "\u064A\u0645\u0645", "\u064A\u0645\u0645",
    "\u0628\u062E\u064A", "\u062A\u062C\u064A", "\u062A\u062C\u0649", "\u062A\u062E\u064A",
    "\u062A\u062E\u0649", "\u062A\u0645\u064A", "\u062A\u0645\u0649", "\u062C\u0645\u064A",
    "\u062C\u062D\u0649", "\u062C\u0645\u0649", "\u0633\u062E\u0649", "\u0635\u062D\u064A",
    "\u0634\u062D\u064A", "\u0636\u062D\u064A", "\u0644\u062C\u064A", "\u0644\u0645\u064A",
    "\u064A\u062D\u064A", "\u064A\u062C\u064A", "\u064A\u0645\u064A", "\u0645\u0645\u064A",
    "\u0642\u0645\u064A", "\u0646\u062D\u064A", "\u0642\u0645\u062D", "\u0644\u062D\u0645",
    "\u0639\u0645\u064A", "\u0643\u0645\u064A", "\u0646\u062C\u062D", "\u0645\u062E\u064A",
    "\u0644\u062C\u0645", "\u0643\u0645\u0645", "\u0644\u062C\u0645", "\u0646\u062C\u062D",
    "\u062C\u062D\u064A", "\u062D\u062C\u064A", "\u0645\u062C\u064A", "\u0641\u0645\u064A",
    "\u0628\u062D\u064A", "\u0643\u0645\u0645", "\u0639\u062C\u0645", "\u0635\u0645\u0645",
    "\u0633\u062E\u064A", "\u0646\u062C\u064A"],
  .texts 0xFDF0 [
    "\u0635\u0644\u06D2", "\u0642\u0644\u06D2", "\u0627\u0644\u0644\u0647",
    "\u0627\u0643\u0628\u0631", "\u0645\u062D\u0645\u062F", "\u0635\u0644\u0639\u0645",
    "\u0631\u0633\u0648\u0644", "\u0639\u0644\u064A\u0647", "\u0648\u0633\u0644\u0645",
    "\u0635\u0644\u0649",
    "\u0635\u0644\u0649 \u0627\u0644\u0644\u0647 \u0639\u0644\u064A\u0647 \u0648\u0633\u0644\u0645",
    "\u062C\u0644 \u062C\u0644\u0627\u0644\u0647", "\u0631\u06CC\u0627\u0644"],
  .chars 0xFE10 ",、",
  .chars 0xFE13 ":;!?〖〗",
  .chars 0xFE31 "—–__()\x7b\x7d〔〕【】《》〈〉",
  .shift 0xFE41 0xFE44 1 (-52789),
  .chars 0xFE47 "[]",
  .texts 0xFE49 [" \u0305", " \u0305", " \u0305", " \u0305", "_", "_", "_", ",", "、"],
  .chars 0xFE54 ";:?!—()\x7b\x7d〔〕#&*+-<>=",
  .chars 0xFE68 "\\$%@",
  .texts 0xFE70 [" \u064B", "\u0640\u064B", " \u064C"],
  .texts 0xFE74 [" \u064D"],
  .texts 0xFE76 [
    " \u064E", "\u0640\u064E", " \u064F", "\u0640\u064F", " \u0650", "\u0640\u0650", " \u0651",
    "\u0640\u0651", " \u0652", "\u0640\u0652"],
  .chars 0xFE80 "\u0621\u0622\u0622\u0623\u0623\u0624\u0624\u0625\u0625\u0626",
  .chars 0xFE8A "\u0626\u0626\u0626\u0627\u0627\u0628\u0628\u0628\u0628\u0629",
  .chars 0xFE94 "\u0629\u062A\u062A\u062A\u062A\u062B\u062B\u062B\u062B\u062C",
  .chars 0xFE9E "\u062C\u062C\u062C\u062D\u062D\u062D\u062D\u062E\u062E\u062E",
  .chars 0xFEA8 "\u062E\u062F\u062F\u0630\u0630\u0631\u0631\u0632\u0632\u0633",
  .chars 0xFEB2 "\u0633\u0633\u0633\u0634\u0634\u0634\u0634\u0635\u0635\u0635",
  .chars 0xFEBC "\u0635\u0636\u0636\u0636\u0636\u0637\u0637\u0637\u0637\u0638",
  .chars 0xFEC6 "\u0638\u0638\u0638\u0639\u0639\u0639\u0639\u063A\u063A\u063A",
  .chars 0xFED0 "\u063A\u0641\u0641\u0641\u0641\u0642\u0642\u0642\u0642\u0643",
  .chars 0xFEDA "\u0643\u0643\u0643\u0644\u0644\u0644\u0644\u0645\u0645\u0645",
  .chars 0xFEE4 "\u0645\u0646\u0646\u0646\u0646\u0647\u0647\u0647\u0647\u0648",
  .chars 0xFEEE "\u0648\u0649\u0649\u064A\u064A\u064A\u064A",
  .texts 0xFEF5 [
    "\u0644\u0622", "\u0644\u0622", "\u0644\u0623", "\u0644\u0623", "\u0644\u0625",
    "\u0644\u0625", "\u0644\u0627", "\u0644\u0627"],
  .shift 0xFF01 0xFF20 1 (-65248),
  .shift 0xFF21 0xFF3A 1 (-65216),
  .shift 0xFF3B 0xFF5E 1 (-65248),
  .chars 0xFF5F "⦅⦆.「」、・ヲァィゥェォャュョッーアイウエオカキクケコサシスセソタチツテト",
  .shift 0xFF85 0xFF8A 1 (-52923),
  .chars 0xFF8B "ヒフヘホ",
  .shift 0xFF8F 0xFF93 1 (-52913),
  .chars 0xFF94 "ヤユ",
  .shift 0xFF96 0xFF9B 1 (-52910),
  .chars 0xFF9C "ワン\u3099\u309A",
  .chars 0xFFA1 "ᄀᄁᆪᄂᆬᆭᄃᄄᄅ",
  .shift 0xFFAA 0xFFAF 1 (-60922),
  .chars 0xFFB0 "ᄚᄆᄇᄈᄡ",
  .shift 0xFFB5 0xFFBE 1 (-61100),
  .shift 0xFFC2 0xFFC7 1 (-61025),
  .shift 0xFFCA 0xFFCF 1 (-61027),
  .shift 0xFFD2 0xFFD7 1 (-61029),
  .chars 0xFFDA "ᅳᅴᅵ",
  .chars 0xFFE0 "¢£¬",
  .texts 0xFFE3 [" \u0304", "¦", "¥", "₩"],
  .chars 0xFFE8 "│",
  .shift 0xFFE9 0xFFEC 1 (-56921),
  .chars 0xFFED "■○"]

/-- The code points above U+FFFF that become something else. -/
def supplementaryStretches : List Stretch := [
  .shift 0x10400 0x10427 1 40,
  .shift 0x104B0 0x104D3 1 40,
  .shift 0x10570 0x1057A 1 39,
  .shift 0x1057C 0x1058A 1 39,
  .shift 0x1058C 0x10592 1 39,
  .chars 0x10594 "𐖻𐖼",
  .chars 0x10781 "ːˑæʙɓ",
  .chars 0x10787 "ʣꭦʥʤɖɗᶑɘɞʩɤɢɠʛħʜɧʄʪʫɬ𝼄ꞎɮ𝼅ʎ𝼆øɶɷqɺ𝼈ɽɾʀʨʦꭧʧʈⱱ",
  .chars 0x107B2 "ʏʡʢʘǀǁǂ𝼊𝼞",
  .shift 0x10C80 0x10CB2 1 64,
  .shift 0x10D50 0x10D65 1 32,
  .shift 0x118A0 0x118BF 1 32,
  .shift 0x16E40 0x16E5F 1 32,
  .shift 0x16EA0 0x16EB8 1 27,
  .shift 0x1CCD6 0x1CCEF 1 (-117877),
  .shift 0x1CCF0 0x1CCF9 1 (-117952),
  .texts 0x1D15E ["𝅗𝅥", "𝅘𝅥", "𝅘𝅥𝅮", "𝅘𝅥𝅯", "𝅘𝅥𝅰", "𝅘𝅥𝅱", "𝅘𝅥𝅲"],
  .texts 0x1D1BB ["𝆹𝅥", "𝆺𝅥", "𝆹𝅥𝅮", "𝆺𝅥𝅮", "𝆹𝅥𝅯", "𝆺𝅥𝅯"],
  .shift 0x1D400 0x1D419 1 (-119711),
  .shift 0x1D41A 0x1D433 1 (-119737),
  .shift 0x1D434 0x1D44D 1 (-119763),
  .shift 0x1D44E 0x1D454 1 (-119789),
  .shift 0x1D456 0x1D467 1 (-119789),
  .shift 0x1D468 0x1D481 1 (-119815),
  .shift 0x1D482 0x1D49B 1 (-119841),
  .chars 0x1D49C "a",
  .chars 0x1D49E "cd",
  .chars 0x1D4A2 "g",
  .chars 0x1D4A5 "jk",
  .shift 0x1D4A9 0x1D4AC 1 (-119867),
  .shift 0x1D4AE 0x1D4B5 1 (-119867),
  .shift 0x1D4B6 0x1D4B9 1 (-119893),
  .chars 0x1D4BB "f",
  .shift 0x1D4BD 0x1D4C3 1 (-119893),
  .shift 0x1D4C5 0x1D4CF 1 (-119893),
  .shift 0x1D4D0 0x1D4E9 1 (-119919),
  .shift 0x1D4EA 0x1D503 1 (-119945),
  .chars 0x1D504 "ab",
  .shift 0x1D507 0x1D50A 1 (-119971),
  .shift 0x1D50D 0x1D514 1 (-119971),
  .shift 0x1D516 0x1D51C 1 (-119971),
  .shift 0x1D51E 0x1D537 1 (-119997),
  .chars 0x1D538 "ab",
  .shift 0x1D53B 0x1D53E 1 (-120023),
  .shift 0x1D540 0x1D544 1 (-120023),
  .chars 0x1D546 "o",
  .shift 0x1D54A 0x1D550 1 (-120023),
  .shift 0x1D552 0x1D56B 1 (-120049),
  .shift 0x1D56C 0x1D585 1 (-120075),
  .shift 0x1D586 0x1D59F 1 (-120101),
  .shift 0x1D5A0 0x1D5B9 1 (-120127),
  .shift 0x1D5BA 0x1D5D3 1 (-120153),
  .shift 0x1D5D4 0x1D5ED 1 (-120179),
  .shift 0x1D5EE 0x1D607 1 (-120205),
  .shift 0x1D608 0x1D621 1 (-120231),
  .shift 0x1D622 0x1D63B 1 (-120257),
  .shift 0x1D63C 0x1D655 1 (-120283),
  .shift 0x1D656 0x1D66F 1 (-120309),
  .shift 0x1D670 0x1D689 1 (-120335),
  .shift 0x1D68A 0x1D6A3 1 (-120361),
  .chars 0x1D6A4 "ıȷ",
  .shift 0x1D6A8 0x1D6B8 1 (-119543),
  .chars 0x1D6B9 "θ",
  .shift 0x1D6BA 0x1D6C0 1 (-119543),
  .chars 0x1D6C1 "∇",
  .shift 0x1D6C2 0x1D6D2 1 (-119569),
  .chars 0x1D6D3 "σ",
  .shift 0x1D6D4 0x1D6DA 1 (-119569),
  .chars 0x1D6DB "∂εθκφρπ",
  .shift 0x1D6E2 0x1D6F2 1 (-119601),
  .chars 0x1D6F3 "θ",
  .shift 0x1D6F4 0x1D6FA 1 (-119601),
  .chars 0x1D6FB "∇",
  .shift 0x1D6FC 0x1D70C 1 (-119627),
  .chars 0x1D70D "σ",
  .shift 0x1D70E 0x1D714 1 (-119627),
  .chars 0x1D715 "∂εθκφρπ",
  .shift 0x1D71C 0x1D72C 1 (-119659),
  .chars 0x1D72D "θ",
  .shift 0x1D72E 0x1D734 1 (-119659),
  .chars 0x1D735 "∇",
  .shift 0x1D736 0x1D746 1 (-119685),
  .chars 0x1D747 "σ",
  .shift 0x1D748 0x1D74E 1 (-119685),
  .chars 0x1D74F "∂εθκφρπ",
  .shift 0x1D756 0x1D766 1 (-119717),
  .chars 0x1D767 "θ",
  .shift 0x1D768 0x1D76E 1 (-119717),
  .chars 0x1D76F "∇",
  .shift 0x1D770 0x1D780 1 (-119743),
  .chars 0x1D781 "σ",
  .shift 0x1D782 0x1D788 1 (-119743),
  .chars 0x1D789 "∂εθκφρπ",
  .shift 0x1D790 0x1D7A0 1 (-119775),
  .chars 0x1D7A1 "θ",
  .shift 0x1D7A2 0x1D7A8 1 (-119775),
  .chars 0x1D7A9 "∇",
  .shift 0x1D7AA 0x1D7BA 1 (-119801),
  .chars 0x1D7BB "σ",
  .shift 0x1D7BC 0x1D7C2 1 (-119801),
  .chars 0x1D7C3 "∂εθκφρπϝϝ",
  .shift 0x1D7CE 0x1D7D7 1 (-120734),
  .shift 0x1D7D8 0x1D7E1 1 (-120744),
  .shift 0x1D7E2 0x1D7EB 1 (-120754),
  .shift 0x1D7EC 0x1D7F5 1 (-120764),
  .shift 0x1D7F6 0x1D7FF 1 (-120774),
  .shift 0x1E030 0x1E038 1 (-121856),
  .chars 0x1E039 "клм",
  .shift 0x1E03C 0x1E046 1 (-121854),
  .chars 0x1E047 "ыэюꚉәіјөүӏ",
  .shift 0x1E051 0x1E059 1 (-121889),
  .chars 0x1E05A "клопс",
  .shift 0x1E05F 0x1E064 1 (-121884),
  .chars 0x1E065 "ъыґіѕџҫꙑұ",
  .shift 0x1E900 0x1E921 1 34,
  .chars 0x1EE00 "\u0627\u0628\u062C\u062F",
  .chars 0x1EE05 "\u0648\u0632\u062D\u0637\u064A",
  .shift 0x1EE0A 0x1EE0D 1 (-124871),
  .chars 0x1EE0E "\u0633\u0639\u0641\u0635\u0642\u0631\u0634\u062A\u062B\u062E",
  .chars 0x1EE18 "\u0630\u0636\u0638\u063A\u066E\u06BA\u06A1\u066F",
  .chars 0x1EE21 "\u0628\u062C",
  .chars 0x1EE24 "\u0647",
  .chars 0x1EE27 "\u062D",
  .chars 0x1EE29 "\u064A",
  .shift 0x1EE2A 0x1EE2D 1 (-124903),
  .chars 0x1EE2E "\u0633\u0639\u0641\u0635\u0642",
  .chars 0x1EE34 "\u0634\u062A\u062B\u062E",
  .chars 0x1EE39 "\u0636",
  .chars 0x1EE3B "\u063A",
  .chars 0x1EE42 "\u062C",
  .chars 0x1EE47 "\u062D",
  .chars 0x1EE49 "\u064A",
  .chars 0x1EE4B "\u0644",
  .chars 0x1EE4D "\u0646\u0633\u0639",
  .chars 0x1EE51 "\u0635\u0642",
  .chars 0x1EE54 "\u0634",
  .chars 0x1EE57 "\u062E",
  .chars 0x1EE59 "\u0636",
  .chars 0x1EE5B "\u063A",
  .chars 0x1EE5D "\u06BA",
  .chars 0x1EE5F "\u066F",
  .chars 0x1EE61 "\u0628\u062C",
  .chars 0x1EE64 "\u0647",
  .chars 0x1EE67 "\u062D\u0637\u064A\u0643",
  .chars 0x1EE6C "\u0645\u0646\u0633\u0639\u0641\u0635\u0642",
  .chars 0x1EE74 "\u0634\u062A\u062B\u062E",
  .chars 0x1EE79 "\u0636\u0638\u063A\u066E",
  .chars 0x1EE7E "\u06A1",
  .chars 0x1EE80 "\u0627\u0628\u062C\u062F\u0647\u0648\u0632\u062D\u0637\u064A",
  .chars 0x1EE8B "\u0644\u0645\u0646\u0633\u0639\u0641\u0635\u0642\u0631\u0634",
  .chars 0x1EE95 "\u062A\u062B\u062E\u0630\u0636\u0638\u063A",
  .chars 0x1EEA1 "\u0628\u062C\u062F",
  .chars 0x1EEA5 "\u0648\u0632\u062D\u0637\u064A",
  .chars 0x1EEAB "\u0644\u0645\u0646\u0633\u0639\u0641\u0635\u0642\u0631\u0634",
  .chars 0x1EEB5 "\u062A\u062B\u062E\u0630\u0636\u0638\u063A",
  .texts 0x1F101 ["0,", "1,", "2,", "3,", "4,", "5,", "6,", "7,", "8,", "9,"],
  .texts 0x1F110 [
    "(a)", "(b)", "(c)", "(d)", "(e)", "(f)", "(g)", "(h)", "(i)", "(j)", "(k)", "(l)", "(m)",
    "(n)", "(o)", "(p)", "(q)", "(r)", "(s)", "(t)", "(u)", "(v)", "(w)", "(x)", "(y)", "(z)",
    "〔s〕", "c", "r", "cd", "wz"],
  .shift 0x1F130 0x1F149 1 (-127183),
  .texts 0x1F14A ["hv", "mv", "sd", "ss", "ppv", "wc"],
  .texts 0x1F16A ["mc", "md", "mr"],
  .texts 0x1F190 ["dj"],
  .texts 0x1F200 ["ほか", "ココ", "サ"],
  .chars 0x1F210 "手字双デ二多解天交映無料前後再新初終生販声吹演投捕一三遊左中右指走打禁空合満有月申割営配",
  .texts 0x1F240 ["〔本〕", "〔三〕", "〔二〕", "〔安〕", "〔点〕", "〔打〕", "〔盗〕", "〔勝〕", "〔敗〕"],
  .chars 0x1F250 "得可",
  .shift 0x1FBF0 0x1FBF9 1 (-129984),
  .chars 0x2F800 "丽丸乁𠄢你侮侻倂偺備僧像㒞𠘺免兔兤具𠔜㒹內再𠕋冗冤仌冬况𩇟凵刃㓟刻剆割剷㔕勇勉勤勺包匆北卉卑博即卽卿卿卿𠨬灰及叟𠭣叫叱吆咞吸呈周",
  .chars 0x2F840 "咢哶唐啓啣善善喙喫喳嗂圖嘆圗噑噴切壮城埴堍型堲報墬𡓤売壷夆多夢奢𡚨𡛪姬娛娧姘婦㛮㛼嬈嬾嬾𡧈寃寘寧寳𡬘寿将当尢㞁屠屮峀岍𡷤嵃𡷦嵮嵫",
  .chars 0x2F880 "嵼巡巢㠯巽帨帽幩㡢𢆃㡼庰庳庶廊𪎒廾𢌱𢌱舁弢弢㣇𣊸𦇚形彫㣣徚忍志忹悁㤺㤜悔𢛔惇慈慌慎慌慺憎憲憤憯懞懲懶成戛扝抱拔捐𢬌挽拼捨掃揤𢯱搢",
  .chars 0x2F8C0 "揅掩㨮摩摾撝摷㩬敏敬𣀊旣書晉㬙暑㬈㫤冒冕最暜肭䏙朗望朡杞杓𣏃㭉柺枅桒梅𣑭梎栟椔㮝楂榣槪檨𣚣櫛㰘次𣢧歔㱎歲殟殺殻𣪍𡴋𣫺汎𣲼沿泍汧洖",
  .chars 0x2F900 "派海流浩浸涅𣴞洴港湮㴳滋滇𣻑淹潮𣽞𣾎濆瀹瀞瀛㶖灊災灷炭𠔥煅𤉣熜𤎫爨爵牐𤘈犀犕𤜵𤠔獺王㺬玥㺸㺸瑇瑜瑱璅瓊㼛甤𤰶甾𤲒異𢆟瘐𤾡𤾸𥁄㿼䀈",
  .chars 0x2F940 "直𥃳𥃲𥄙𥄳眞真真睊䀹瞋䁆䂖𥐝硎碌磌䃣𥘦祖𥚚𥛅福秫䄯穀穊穏𥥼𥪧𥪧竮䈂𥮫篆築䈧𥲀糒䊠糨糣紀𥾆絣䌁緇縂繅䌴𦈨𦉇䍙𦋙罺𦌾羕翺者𦓚𦔣聠𦖨聰",
  .chars 0x2F980 "𣍟䏕育脃䐋脾媵𦞧𦞵𣎓𣎜舁舄辞䑫芑芋芝劳花芳芽苦𦬼若茝荣莭茣莽菧著荓菊菌菜𦰶𦵫𦳕䔫蓱蓳蔖𧏊蕤𦼬䕝䕡𦾱𧃒䕫虐虜虧虩蚩蚈蜎蛢蝹蜨蝫螆䗗",
  .chars 0x2F9C0 "蟡蠁䗹衠衣𧙧裗裞䘵裺㒻𧢮𧥦䚾䛇誠諭變豕𧲨貫賁贛起𧼯𠠄跋趼跰𠣞軔輸𨗒𨗭邔郱鄑𨜮鄛鈸鋗鋘鉼鏹鐕𨯺開䦕閷𨵷䧦雃嶲霣𩅅𩈚䩮䩶韠𩐊䪲𩒖頋頋",
  .chars 0x2FA00 "頩𩖶飢䬳餩馧駂駾䯎𩬰鬒鱀鳽䳎䳭鵧𪃎䳸𪄅𪈎𪊑麻䵖黹黾鼅鼏鼖鼻𪘀"]

/-- The code points that are left out, first and last of each range. -/
def ignoredRanges : List (Nat × Nat) := [
  (0xAD, 0xAD), (0x34F, 0x34F), (0x115F, 0x1160), (0x17B4, 0x17B5), (0x180B, 0x180F),
  (0x200B, 0x200B), (0x2060, 0x2064), (0x206A, 0x206F), (0x3164, 0x3164), (0xFE00, 0xFE0F),
  (0xFEFF, 0xFEFF), (0xFFA0, 0xFFA0), (0x1BCA0, 0x1BCA3), (0x1D173, 0x1D17A), (0xE0100, 0xE01EF)]

end UsingAdvisor.Url.Domain
