import NameTag.Text.CharacterName.Block

/-!
# Names of characters of South-East Asia

Thai, Lao, Khmer, Myanmar, and the scripts of Indonesia and the Philippines.
-/

namespace NameTag.CharacterName

def southEastAsiaBlocks : List Block := [
  ⟨0xe01, "THAI CHARACTER ", "KO KAI, KHO KHAI, KHO KHUAT, KHO KHWAI, KHO KHON, KHO RAKHANG,
    NGO NGU, CHO CHAN, CHO CHING, CHO CHANG, SO SO, CHO CHOE, YO YING, DO CHADA, TO PATAK,
    THO THAN, THO NANGMONTHO, THO PHUTHAO, NO NEN, DO DEK, TO TAO, THO THUNG, THO THAHAN,
    THO THONG, NO NU, BO BAIMAI, PO PLA, PHO PHUNG, FO FA, PHO PHAN, FO FAN, PHO SAMPHAO, MO MA,
    YO YAK, RO RUA, RU, LO LING, LU, WO WAEN, SO SALA, SO RUSI, SO SUA, HO HIP, LO CHULA, O ANG,
    HO NOKHUK, PAIYANNOI, SARA A, MAI HAN-AKAT, SARA AA, SARA AM, SARA I, SARA II, SARA UE,
    SARA UEE, SARA U, SARA UU, PHINTHU"⟩,
  ⟨0xe3f, "THAI CURRENCY SYMBOL ", "BAHT"⟩,
  ⟨0xe40, "THAI CHARACTER ", "SARA E, SARA AE, SARA O, SARA AI MAIMUAN, SARA AI MAIMALAI,
    LAKKHANGYAO, MAIYAMOK, MAITAIKHU, MAI EK, MAI THO, MAI TRI, MAI CHATTAWA, THANTHAKHAT,
    NIKHAHIT, YAMAKKAN, FONGMAN"⟩,
  ⟨0xe50, "THAI DIGIT ", "ZERO, ONE, TWO, THREE, FOUR, FIVE, SIX, SEVEN, EIGHT, NINE"⟩,
  ⟨0xe5a, "THAI CHARACTER ", "ANGKHANKHU, KHOMUT"⟩,
  ⟨0xe81, "LAO LETTER ", "KO, KHO SUNG, , KHO TAM, , PALI GHA, NGO, CO, PALI CHA, SO TAM, ,
    PALI JHA, NYO, PALI NYA, PALI TTA, PALI TTHA, PALI DDA, PALI DDHA, PALI NNA, DO, TO,
    THO SUNG, THO TAM, PALI DHA, NO, BO, PO, PHO SUNG, FO TAM, PHO TAM, FO SUNG, PALI BHA, MO,
    YO, LO LING, , LO LOOT, , WO, SANSKRIT SHA, SANSKRIT SSA, SO SUNG, HO SUNG, PALI LLA, O,
    HO TAM"⟩,
  ⟨0xeaf, "LAO ", "ELLIPSIS"⟩,
  ⟨0xeb0, "LAO VOWEL SIGN ", "A, MAI KAN, AA, AM, I, II, Y, YY, U, UU"⟩,
  ⟨0xeba, "LAO ", "SIGN PALI VIRAMA, VOWEL SIGN MAI KON, SEMIVOWEL SIGN LO, SEMIVOWEL SIGN NYO, ,
    , VOWEL SIGN E, VOWEL SIGN EI, VOWEL SIGN O, VOWEL SIGN AY, VOWEL SIGN AI, , KO LA, ,
    TONE MAI EK, TONE MAI THO, TONE MAI TI, TONE MAI CATAWA, CANCELLATION MARK, NIGGAHITA, , ,
    DIGIT ZERO, DIGIT ONE, DIGIT TWO, DIGIT THREE, DIGIT FOUR, DIGIT FIVE, DIGIT SIX,
    DIGIT SEVEN, DIGIT EIGHT, DIGIT NINE, , , HO NO, HO MO, LETTER KHMU GO, LETTER KHMU NYO"⟩,
  ⟨0x1000, "MYANMAR LETTER ", "KA, KHA, GA, GHA, NGA, CA, CHA, JA, JHA, NYA, NNYA, TTA, TTHA,
    DDA, DDHA, NNA, TA, THA, DA, DHA, NA, PA, PHA, BA, BHA, MA, YA, RA, LA, WA, SA, HA, LLA, A,
    SHAN A, I, II, U, UU, E, MON E, O, AU"⟩,
  ⟨0x102b, "MYANMAR VOWEL SIGN ", "TALL AA, AA, I, II, U, UU, E, AI, MON II, MON O, E ABOVE"⟩,
  ⟨0x1036, "MYANMAR SIGN ", "ANUSVARA, DOT BELOW, VISARGA, VIRAMA, ASAT"⟩,
  ⟨0x103b, "MYANMAR CONSONANT SIGN MEDIAL ", "YA, RA, WA, HA"⟩,
  ⟨0x103f, "MYANMAR ", "LETTER GREAT SA, DIGIT ZERO, DIGIT ONE, DIGIT TWO, DIGIT THREE,
    DIGIT FOUR, DIGIT FIVE, DIGIT SIX, DIGIT SEVEN, DIGIT EIGHT, DIGIT NINE, SIGN LITTLE SECTION,
    SIGN SECTION, SYMBOL LOCATIVE, SYMBOL COMPLETED, SYMBOL AFOREMENTIONED, SYMBOL GENITIVE,
    LETTER SHA, LETTER SSA"⟩,
  ⟨0x1052, "MYANMAR LETTER VOCALIC ", "R, RR, L, LL"⟩,
  ⟨0x1056, "MYANMAR VOWEL SIGN VOCALIC ", "R, RR, L, LL"⟩,
  ⟨0x105a, "MYANMAR LETTER MON ", "NGA, JHA, BBA, BBE"⟩,
  ⟨0x105e, "MYANMAR CONSONANT SIGN MON MEDIAL ", "NA, MA, LA"⟩,
  ⟨0x1061, "MYANMAR ", "LETTER SGAW KAREN SHA, VOWEL SIGN SGAW KAREN EU,
    TONE MARK SGAW KAREN HATHI, TONE MARK SGAW KAREN KE PHO, LETTER WESTERN PWO KAREN THA,
    LETTER WESTERN PWO KAREN PWA, VOWEL SIGN WESTERN PWO KAREN EU,
    VOWEL SIGN WESTERN PWO KAREN UE"⟩,
  ⟨0x1069, "MYANMAR SIGN WESTERN PWO KAREN TONE-", "1, 2, 3, 4, 5"⟩,
  ⟨0x106e, "MYANMAR LETTER EASTERN PWO KAREN ", "NNA, YWA, GHWA"⟩,
  ⟨0x1071, "MYANMAR VOWEL SIGN ", "GEBA KAREN I, KAYAH OE, KAYAH U, KAYAH EE"⟩,
  ⟨0x1075, "MYANMAR LETTER SHAN ", "KA, KHA, GA, CA, ZA, NYA, DA, NA, PHA, FA, BA, THA, HA"⟩,
  ⟨0x1082, "MYANMAR ", "CONSONANT SIGN SHAN MEDIAL WA, VOWEL SIGN SHAN AA, VOWEL SIGN SHAN E,
    VOWEL SIGN SHAN E ABOVE, VOWEL SIGN SHAN FINAL Y, SIGN SHAN TONE-2, SIGN SHAN TONE-3,
    SIGN SHAN TONE-5, SIGN SHAN TONE-6, SIGN SHAN COUNCIL TONE-2, SIGN SHAN COUNCIL TONE-3,
    SIGN SHAN COUNCIL EMPHATIC TONE, LETTER RUMAI PALAUNG FA, SIGN RUMAI PALAUNG TONE-5"⟩,
  ⟨0x1090, "MYANMAR SHAN DIGIT ", "ZERO, ONE, TWO, THREE, FOUR, FIVE, SIX, SEVEN, EIGHT, NINE"⟩,
  ⟨0x109a, "MYANMAR ", "SIGN KHAMTI TONE-1, SIGN KHAMTI TONE-3, VOWEL SIGN AITON A,
    VOWEL SIGN AITON AI, SYMBOL SHAN ONE, SYMBOL SHAN EXCLAMATION"⟩,
  ⟨0x1700, "TAGALOG LETTER ", "A, I, U, KA, GA, NGA, TA, DA, NA, PA, BA, MA, YA, RA, LA, WA, SA,
    HA"⟩,
  ⟨0x1712, "TAGALOG ", "VOWEL SIGN I, VOWEL SIGN U, SIGN VIRAMA, SIGN PAMUDPOD"⟩,
  ⟨0x171f, "TAGALOG LETTER ARCHAIC ", "RA"⟩,
  ⟨0x1720, "HANUNOO LETTER ", "A, I, U, KA, GA, NGA, TA, DA, NA, PA, BA, MA, YA, RA, LA, WA, SA,
    HA"⟩,
  ⟨0x1732, "", "HANUNOO VOWEL SIGN I, HANUNOO VOWEL SIGN U, HANUNOO SIGN PAMUDPOD,
    PHILIPPINE SINGLE PUNCTUATION, PHILIPPINE DOUBLE PUNCTUATION"⟩,
  ⟨0x1740, "BUHID LETTER ", "A, I, U, KA, GA, NGA, TA, DA, NA, PA, BA, MA, YA, RA, LA, WA, SA, HA"⟩,
  ⟨0x1752, "BUHID VOWEL SIGN ", "I, U"⟩,
  ⟨0x1760, "TAGBANWA LETTER ", "A, I, U, KA, GA, NGA, TA, DA, NA, PA, BA, MA, YA, , LA, WA, SA"⟩,
  ⟨0x1772, "TAGBANWA VOWEL SIGN ", "I, U"⟩,
  ⟨0x1780, "KHMER LETTER ", "KA, KHA, KO, KHO, NGO, CA, CHA, CO, CHO, NYO, DA, TTHA, DO, TTHO,
    NNO, TA, THA, TO, THO, NO, BA, PHA, PO, PHO, MO, YO, RO, LO, VO, SHA, SSO, SA, HA, LA, QA"⟩,
  ⟨0x17a3, "KHMER INDEPENDENT VOWEL ", "QAQ, QAA, QI, QII, QU, QUK, QUU, QUUV, RY, RYY, LY, LYY,
    QE, QAI, QOO TYPE ONE, QOO TYPE TWO, QAU"⟩,
  ⟨0x17b4, "KHMER VOWEL INHERENT ", "AQ, AA"⟩,
  ⟨0x17b6, "KHMER VOWEL SIGN ", "AA, I, II, Y, YY, U, UU, UA, OE, YA, IE, E, AE, AI, OO, AU"⟩,
  ⟨0x17c6, "KHMER SIGN ", "NIKAHIT, REAHMUK, YUUKALEAPINTU, MUUSIKATOAN, TRIISAP, BANTOC, ROBAT,
    TOANDAKHIAT, KAKABAT, AHSDA, SAMYOK SANNYA, VIRIAM, COENG, BATHAMASAT, KHAN, BARIYOOSAN,
    CAMNUC PII KUUH, LEK TOO, BEYYAL, PHNAEK MUAN, KOOMUUT"⟩,
  ⟨0x17db, "KHMER ", "CURRENCY SYMBOL RIEL, SIGN AVAKRAHASANYA, SIGN ATTHACAN"⟩,
  ⟨0x17e0, "KHMER DIGIT ", "ZERO, ONE, TWO, THREE, FOUR, FIVE, SIX, SEVEN, EIGHT, NINE"⟩,
  ⟨0x17f0, "KHMER SYMBOL LEK ATTAK ", "SON, MUOY, PII, BEI, BUON, PRAM, PRAM-MUOY, PRAM-PII,
    PRAM-BEI, PRAM-BUON"⟩,
  ⟨0x1950, "TAI LE LETTER ", "KA, XA, NGA, TSA, SA, YA, TA, THA, LA, PA, PHA, MA, FA, VA, HA, QA,
    KHA, TSHA, NA, A, I, EE, EH, U, OO, O, UE, E, AUE, AI, , , TONE-2, TONE-3, TONE-4, TONE-5,
    TONE-6"⟩,
  ⟨0x1980, "NEW TAI LUE LETTER ", "HIGH QA, LOW QA, HIGH KA, HIGH XA, HIGH NGA, LOW KA, LOW XA,
    LOW NGA, HIGH TSA, HIGH SA, HIGH YA, LOW TSA, LOW SA, LOW YA, HIGH TA, HIGH THA, HIGH NA,
    LOW TA, LOW THA, LOW NA, HIGH PA, HIGH PHA, HIGH MA, LOW PA, LOW PHA, LOW MA, HIGH FA,
    HIGH VA, HIGH LA, LOW FA, LOW VA, LOW LA, HIGH HA, HIGH DA, HIGH BA, LOW HA, LOW DA, LOW BA,
    HIGH KVA, HIGH XVA, LOW KVA, LOW XVA, HIGH SUA, LOW SUA"⟩,
  ⟨0x19b0, "NEW TAI LUE VOWEL SIGN ", "VOWEL SHORTENER, AA, II, U, UU, E, AE, O, OA, UE, AY, AAY,
    UY, OY, OAY, UEY, IY"⟩,
  ⟨0x19c1, "NEW TAI LUE LETTER FINAL ", "V, NG, N, M, K, D, B"⟩,
  ⟨0x19c8, "NEW TAI LUE ", "TONE MARK-1, TONE MARK-2, , , , , , , DIGIT ZERO, DIGIT ONE,
    DIGIT TWO, DIGIT THREE, DIGIT FOUR, DIGIT FIVE, DIGIT SIX, DIGIT SEVEN, DIGIT EIGHT,
    DIGIT NINE, THAM DIGIT ONE, , , , SIGN LAE, SIGN LAEV"⟩,
  ⟨0x19e0, "KHMER SYMBOL ", "PATHAMASAT, MUOY KOET, PII KOET, BEI KOET, BUON KOET, PRAM KOET,
    PRAM-MUOY KOET, PRAM-PII KOET, PRAM-BEI KOET, PRAM-BUON KOET, DAP KOET, DAP-MUOY KOET,
    DAP-PII KOET, DAP-BEI KOET, DAP-BUON KOET, DAP-PRAM KOET, TUTEYASAT, MUOY ROC, PII ROC,
    BEI ROC, BUON ROC, PRAM ROC, PRAM-MUOY ROC, PRAM-PII ROC, PRAM-BEI ROC, PRAM-BUON ROC,
    DAP ROC, DAP-MUOY ROC, DAP-PII ROC, DAP-BEI ROC, DAP-BUON ROC, DAP-PRAM ROC"⟩,
  ⟨0x1a00, "BUGINESE LETTER ", "KA, GA, NGA, NGKA, PA, BA, MA, MPA, TA, DA, NA, NRA, CA, JA, NYA,
    NYCA, YA, RA, LA, VA, SA, A, HA"⟩,
  ⟨0x1a17, "BUGINESE VOWEL SIGN ", "I, U, E, O, AE"⟩,
  ⟨0x1a1e, "BUGINESE ", "PALLAWA, END OF SECTION"⟩,
  ⟨0x1a20, "TAI THAM LETTER ", "HIGH KA, HIGH KHA, HIGH KXA, LOW KA, LOW KXA, LOW KHA, NGA,
    HIGH CA, HIGH CHA, LOW CA, LOW SA, LOW CHA, NYA, RATA, HIGH RATHA, DA, LOW RATHA, RANA,
    HIGH TA, HIGH THA, LOW TA, LOW THA, NA, BA, HIGH PA, HIGH PHA, HIGH FA, LOW PA, LOW FA,
    LOW PHA, MA, LOW YA, HIGH YA, RA, RUE, LA, LUE, WA, HIGH SHA, HIGH SSA, HIGH SA, HIGH HA,
    LLA, A, LOW HA, I, II, U, UU, EE, OO, LAE, GREAT SA"⟩,
  ⟨0x1a55, "TAI THAM ", "CONSONANT SIGN MEDIAL RA, CONSONANT SIGN MEDIAL LA,
    CONSONANT SIGN LA TANG LAI, SIGN MAI KANG LAI"⟩,
  ⟨0x1a59, "TAI THAM CONSONANT SIGN ", "FINAL NGA, LOW PA, HIGH RATHA OR LOW PA, MA, BA, SA"⟩,
  ⟨0x1a60, "TAI THAM SIGN ", "SAKOT"⟩,
  ⟨0x1a61, "TAI THAM VOWEL SIGN ", "A, MAI SAT, AA, TALL AA, I, II, UE, UUE, U, UU, O, OA BELOW,
    OY, E, AE, OO, AI, THAM AI, OA ABOVE"⟩,
  ⟨0x1a74, "TAI THAM SIGN ", "MAI KANG, TONE-1, TONE-2, KHUEN TONE-3, KHUEN TONE-4, KHUEN TONE-5,
    RA HAAM, MAI SAM, KHUEN-LUE KARAN"⟩,
  ⟨0x1a7f, "TAI THAM COMBINING CRYPTOGRAMMIC ", "DOT"⟩,
  ⟨0x1a80, "TAI THAM HORA DIGIT ", "ZERO, ONE, TWO, THREE, FOUR, FIVE, SIX, SEVEN, EIGHT, NINE"⟩,
  ⟨0x1a90, "TAI THAM THAM DIGIT ", "ZERO, ONE, TWO, THREE, FOUR, FIVE, SIX, SEVEN, EIGHT, NINE"⟩,
  ⟨0x1aa0, "TAI THAM SIGN ", "WIANG, WIANGWAAK, SAWAN, KEOW, HOY, DOKMAI, REVERSED ROTATED RANA,
    MAI YAMOK, KAAN, KAANKUU, SATKAAN, SATKAANKUU, HANG, CAANG"⟩,
  ⟨0x1b00, "BALINESE SIGN ", "ULU RICEM, ULU CANDRA, CECEK, SURANG, BISAH"⟩,
  ⟨0x1b05, "BALINESE LETTER ", "AKARA, AKARA TEDUNG, IKARA, IKARA TEDUNG, UKARA, UKARA TEDUNG,
    RA REPA, RA REPA TEDUNG, LA LENGA, LA LENGA TEDUNG, EKARA, AIKARA, OKARA, OKARA TEDUNG, KA,
    KA MAHAPRANA, GA, GA GORA, NGA, CA, CA LACA, JA, JA JERA, NYA, TA LATIK, TA MURDA MAHAPRANA,
    DA MURDA ALPAPRANA, DA MURDA MAHAPRANA, NA RAMBAT, TA, TA TAWA, DA, DA MADU, NA, PA,
    PA KAPAL, BA, BA KEMBANG, MA, YA, RA, LA, WA, SA SAGA, SA SAPA, SA, HA"⟩,
  ⟨0x1b34, "BALINESE SIGN ", "REREKAN"⟩,
  ⟨0x1b35, "BALINESE VOWEL SIGN ", "TEDUNG, ULU, ULU SARI, SUKU, SUKU ILUT, RA REPA,
    RA REPA TEDUNG, LA LENGA, LA LENGA TEDUNG, TALING, TALING REPA, TALING TEDUNG,
    TALING REPA TEDUNG, PEPET, PEPET TEDUNG"⟩,
  ⟨0x1b44, "BALINESE ", "ADEG ADEG, LETTER KAF SASAK, LETTER KHOT SASAK, LETTER TZIR SASAK,
    LETTER EF SASAK, LETTER VE SASAK, LETTER ZAL SASAK, LETTER ASYURA SASAK, LETTER ARCHAIC JNYA,
    , , , DIGIT ZERO, DIGIT ONE, DIGIT TWO, DIGIT THREE, DIGIT FOUR, DIGIT FIVE, DIGIT SIX,
    DIGIT SEVEN, DIGIT EIGHT, DIGIT NINE, PANTI, PAMADA, WINDU, CARIK PAMUNGKAH, CARIK SIKI,
    CARIK PAREREN, PAMENENG"⟩,
  ⟨0x1b61, "BALINESE MUSICAL SYMBOL ", "DONG, DENG, DUNG, DANG, DANG SURANG, DING, DAENG, DEUNG,
    DAING, DANG GEDE, COMBINING TEGEH, COMBINING ENDEP, COMBINING KEMPUL, COMBINING KEMPLI,
    COMBINING JEGOGAN, COMBINING KEMPUL WITH JEGOGAN, COMBINING KEMPLI WITH JEGOGAN,
    COMBINING BENDE, COMBINING GONG, RIGHT-HAND OPEN DUG, RIGHT-HAND OPEN DAG,
    RIGHT-HAND CLOSED TUK, RIGHT-HAND CLOSED TAK, LEFT-HAND OPEN PANG, LEFT-HAND OPEN PUNG,
    LEFT-HAND CLOSED PLAK, LEFT-HAND CLOSED PLUK, LEFT-HAND OPEN PING"⟩,
  ⟨0x1b7d, "BALINESE ", "PANTI LANTANG, PAMADA LANTANG"⟩,
  ⟨0x1b80, "SUNDANESE SIGN ", "PANYECEK, PANGLAYAR, PANGWISAD"⟩,
  ⟨0x1b83, "SUNDANESE LETTER ", "A, I, U, AE, O, E, EU, KA, QA, GA, NGA, CA, JA, ZA, NYA, TA, DA,
    NA, PA, FA, VA, BA, MA, YA, RA, LA, WA, SA, XA, HA"⟩,
  ⟨0x1ba1, "SUNDANESE CONSONANT SIGN ", "PAMINGKAL, PANYAKRA, PANYIKU"⟩,
  ⟨0x1ba4, "SUNDANESE VOWEL SIGN ", "PANGHULU, PANYUKU, PANAELAENG, PANOLONG, PAMEPET, PANEULEUNG"⟩,
  ⟨0x1baa, "SUNDANESE ", "SIGN PAMAAEH, SIGN VIRAMA, CONSONANT SIGN PASANGAN MA,
    CONSONANT SIGN PASANGAN WA, LETTER KHA, LETTER SYA, DIGIT ZERO, DIGIT ONE, DIGIT TWO,
    DIGIT THREE, DIGIT FOUR, DIGIT FIVE, DIGIT SIX, DIGIT SEVEN, DIGIT EIGHT, DIGIT NINE,
    AVAGRAHA, LETTER REU, LETTER LEU, LETTER BHA, LETTER FINAL K, LETTER FINAL M"⟩,
  ⟨0x1bc0, "BATAK LETTER ", "A, SIMALUNGUN A, HA, SIMALUNGUN HA, MANDAILING HA, BA, KARO BA, PA,
    SIMALUNGUN PA, NA, MANDAILING NA, WA, SIMALUNGUN WA, PAKPAK WA, GA, SIMALUNGUN GA, JA, DA,
    RA, SIMALUNGUN RA, MA, SIMALUNGUN MA, SOUTHERN TA, NORTHERN TA, SA, SIMALUNGUN SA,
    MANDAILING SA, YA, SIMALUNGUN YA, NGA, LA, SIMALUNGUN LA, NYA, CA, NDA, MBA, I, U"⟩,
  ⟨0x1be6, "BATAK SIGN ", "TOMPI"⟩,
  ⟨0x1be7, "BATAK VOWEL SIGN ", "E, PAKPAK E, EE, I, KARO I, O, KARO O, U, U FOR SIMALUNGUN SA"⟩,
  ⟨0x1bf0, "BATAK ", "CONSONANT SIGN NG, CONSONANT SIGN H, PANGOLAT, PANONGONAN"⟩,
  ⟨0x1bfc, "BATAK SYMBOL BINDU ", "NA METEK, PINARBORAS, JUDUL, PANGOLAT"⟩,
  ⟨0xa900, "KAYAH LI DIGIT ", "ZERO, ONE, TWO, THREE, FOUR, FIVE, SIX, SEVEN, EIGHT, NINE"⟩,
  ⟨0xa90a, "KAYAH LI LETTER ", "KA, KHA, GA, NGA, SA, SHA, ZA, NYA, TA, HTA, NA, PA, PHA, MA, DA,
    BA, RA, YA, LA, WA, THA, HA, VA, CA, A, OE, I, OO"⟩,
  ⟨0xa926, "KAYAH LI ", "VOWEL UE, VOWEL E, VOWEL U, VOWEL EE, VOWEL O, TONE PLOPHU, TONE CALYA,
    TONE CALYA PLOPHU, SIGN CWI, SIGN SHYA"⟩,
  ⟨0xa930, "REJANG LETTER ", "KA, GA, NGA, TA, DA, NA, PA, BA, MA, CA, JA, NYA, SA, RA, LA, YA,
    WA, HA, MBA, NGGA, NDA, NYJA, A"⟩,
  ⟨0xa947, "REJANG VOWEL SIGN ", "I, U, E, AI, O, AU, EU, EA"⟩,
  ⟨0xa94f, "REJANG CONSONANT SIGN ", "NG, N, R, H"⟩,
  ⟨0xa953, "REJANG ", "VIRAMA"⟩,
  ⟨0xa95f, "REJANG SECTION ", "MARK"⟩,
  ⟨0xa980, "JAVANESE SIGN ", "PANYANGGA, CECAK, LAYAR, WIGNYAN"⟩,
  ⟨0xa984, "JAVANESE LETTER ", "A, I KAWI, I, II, U, PA CEREK, NGA LELET, NGA LELET RASWADI, E,
    AI, O, KA, KA SASAK, KA MURDA, GA, GA MURDA, NGA, CA, CA MURDA, JA, NYA MURDA, JA MAHAPRANA,
    NYA, TTA, TTA MAHAPRANA, DDA, DDA MAHAPRANA, NA MURDA, TA, TA MURDA, DA, DA MAHAPRANA, NA,
    PA, PA MURDA, BA, BA MURDA, MA, YA, RA, RA AGUNG, LA, WA, SA MURDA, SA MAHAPRANA, SA, HA"⟩,
  ⟨0xa9b3, "JAVANESE SIGN CECAK ", "TELU"⟩,
  ⟨0xa9b4, "JAVANESE VOWEL SIGN ", "TARUNG, TOLONG, WULU, WULU MELIK, SUKU, SUKU MENDUT, TALING,
    DIRGA MURE, PEPET"⟩,
  ⟨0xa9bd, "JAVANESE ", "CONSONANT SIGN KERET, CONSONANT SIGN PENGKAL, CONSONANT SIGN CAKRA,
    PANGKON, LEFT RERENGGAN, RIGHT RERENGGAN, PADA ANDAP, PADA MADYA, PADA LUHUR, PADA WINDU,
    PADA PANGKAT, PADA LINGSA, PADA LUNGSI, PADA ADEG, PADA ADEG ADEG, PADA PISELEH,
    TURNED PADA PISELEH, , PANGRANGKEP, DIGIT ZERO, DIGIT ONE, DIGIT TWO, DIGIT THREE,
    DIGIT FOUR, DIGIT FIVE, DIGIT SIX, DIGIT SEVEN, DIGIT EIGHT, DIGIT NINE, , , , ,
    PADA TIRTA TUMETES, PADA ISEN-ISEN"⟩,
  ⟨0xa9e0, "MYANMAR LETTER SHAN ", "GHA, CHA, JHA, NNA, BHA"⟩,
  ⟨0xa9e5, "MYANMAR ", "SIGN SHAN SAW, MODIFIER LETTER SHAN REDUPLICATION"⟩,
  ⟨0xa9e7, "MYANMAR LETTER TAI LAING ", "NYA, FA, GA, GHA, JA, JHA, DDA, DDHA, NNA"⟩,
  ⟨0xa9f0, "MYANMAR TAI LAING DIGIT ", "ZERO, ONE, TWO, THREE, FOUR, FIVE, SIX, SEVEN, EIGHT,
    NINE"⟩,
  ⟨0xa9fa, "MYANMAR LETTER TAI LAING ", "LLA, DA, DHA, BA, BHA"⟩,
  ⟨0xaa00, "CHAM LETTER ", "A, I, U, E, AI, O, KA, KHA, GA, GHA, NGUE, NGA, CHA, CHHA, JA, JHA,
    NHUE, NHA, NHJA, TA, THA, DA, DHA, NUE, NA, DDA, PA, PPA, PHA, BA, BHA, MUE, MA, BBA, YA, RA,
    LA, VA, SSA, SA, HA"⟩,
  ⟨0xaa29, "CHAM VOWEL SIGN ", "AA, I, II, EI, U, OE, O, AI, AU, UE"⟩,
  ⟨0xaa33, "CHAM CONSONANT SIGN ", "YA, RA, LA, WA"⟩,
  ⟨0xaa40, "CHAM ", "LETTER FINAL K, LETTER FINAL G, LETTER FINAL NG, CONSONANT SIGN FINAL NG"⟩,
  ⟨0xaa44, "CHAM LETTER FINAL ", "CH, T, N, P, Y, R, L, SS"⟩,
  ⟨0xaa4c, "CHAM CONSONANT SIGN FINAL ", "M, H"⟩,
  ⟨0xaa50, "CHAM DIGIT ", "ZERO, ONE, TWO, THREE, FOUR, FIVE, SIX, SEVEN, EIGHT, NINE"⟩,
  ⟨0xaa5c, "CHAM PUNCTUATION ", "SPIRAL, DANDA, DOUBLE DANDA, TRIPLE DANDA"⟩,
  ⟨0xaa60, "MYANMAR LETTER KHAMTI ", "GA, CA, CHA, JA, JHA, NYA, TTA, TTHA, DDA, DDHA, DHA, NA,
    SA, HA, HHA, FA"⟩,
  ⟨0xaa70, "MYANMAR ", "MODIFIER LETTER KHAMTI REDUPLICATION, LETTER KHAMTI XA, LETTER KHAMTI ZA,
    LETTER KHAMTI RA, LOGOGRAM KHAMTI OAY, LOGOGRAM KHAMTI QN, LOGOGRAM KHAMTI HM,
    SYMBOL AITON EXCLAMATION, SYMBOL AITON ONE, SYMBOL AITON TWO, LETTER AITON RA,
    SIGN PAO KAREN TONE, SIGN TAI LAING TONE-2, SIGN TAI LAING TONE-5, LETTER SHWE PALAUNG CHA,
    LETTER SHWE PALAUNG SHA"⟩,
  ⟨0xaa80, "TAI VIET LETTER ", "LOW KO, HIGH KO, LOW KHO, HIGH KHO, LOW KHHO, HIGH KHHO, LOW GO,
    HIGH GO, LOW NGO, HIGH NGO, LOW CO, HIGH CO, LOW CHO, HIGH CHO, LOW SO, HIGH SO, LOW NYO,
    HIGH NYO, LOW DO, HIGH DO, LOW TO, HIGH TO, LOW THO, HIGH THO, LOW NO, HIGH NO, LOW BO,
    HIGH BO, LOW PO, HIGH PO, LOW PHO, HIGH PHO, LOW FO, HIGH FO, LOW MO, HIGH MO, LOW YO,
    HIGH YO, LOW RO, HIGH RO, LOW LO, HIGH LO, LOW VO, HIGH VO, LOW HO, HIGH HO, LOW O, HIGH O"⟩,
  ⟨0xaab0, "TAI VIET ", "MAI KANG, VOWEL AA, VOWEL I, VOWEL UE, VOWEL U, VOWEL E, VOWEL O,
    MAI KHIT, VOWEL IA, VOWEL UEA, VOWEL UA, VOWEL AUE, VOWEL AY, VOWEL AN, VOWEL AM,
    TONE MAI EK, TONE MAI NUENG, TONE MAI THO, TONE MAI SONG"⟩,
  ⟨0xaadb, "TAI VIET SYMBOL ", "KON, NUENG, SAM, HO HOI, KOI KOI"⟩,
  ⟨0x10d00, "HANIFI ROHINGYA LETTER ", "A, BA, PA, TA, TTA, JA, CA, HA, KHA, FA, DA, DDA, RA,
    RRA, ZA, SA, SHA, KA, GA, LA, MA, NA, WA, KINNA WA, YA, KINNA YA, NGA, NYA, VA"⟩,
  ⟨0x10d1d, "HANIFI ROHINGYA ", "VOWEL A, VOWEL I, VOWEL U, VOWEL E, VOWEL O, MARK SAKIN,
    MARK NA KHONNA, SIGN HARBAHAY, SIGN TAHALA, SIGN TANA, SIGN TASSI"⟩,
  ⟨0x10d30, "HANIFI ROHINGYA DIGIT ", "ZERO, ONE, TWO, THREE, FOUR, FIVE, SIX, SEVEN, EIGHT, NINE"⟩,
  ⟨0x16b00, "PAHAWH HMONG VOWEL ", "KEEB, KEEV, KIB, KIV, KAUB, KAUV, KUB, KUV, KEB, KEV, KAIB,
    KAIV, KOOB, KOOV, KAWB, KAWV, KUAB, KUAV, KOB, KOV, KIAB, KIAV, KAB, KAV, KWB, KWV, KAAB,
    KAAV"⟩,
  ⟨0x16b1c, "PAHAWH HMONG CONSONANT ", "VAU, NTSAU, LAU, HAU, NLAU, RAU, NKAU, QHAU, YAU, HLAU,
    MAU, CHAU, NCHAU, HNAU, PLHAU, NTHAU, NAU, AU, XAU, CAU"⟩,
  ⟨0x16b30, "PAHAWH HMONG MARK CIM ", "TUB, SO, KES, KHAV, SUAM, HOM, TAUM"⟩,
  ⟨0x16b37, "PAHAWH HMONG SIGN ", "VOS THOM, VOS TSHAB CEEB, CIM CHEEM, VOS THIAB, VOS FEEM,
    XYEEM NTXIV, XYEEM RHO, XYEEM TOV, XYEEM FAIB, VOS SEEV, MEEJ SUAB, VOS NRUA, IB YAM, XAUS,
    CIM TSOV ROG"⟩,
  ⟨0x16b50, "PAHAWH HMONG DIGIT ", "ZERO, ONE, TWO, THREE, FOUR, FIVE, SIX, SEVEN, EIGHT, NINE"⟩,
  ⟨0x16b5b, "PAHAWH HMONG NUMBER ", "TENS, HUNDREDS, TEN THOUSANDS, MILLIONS, HUNDRED MILLIONS,
    TEN BILLIONS, TRILLIONS"⟩,
  ⟨0x16b63, "PAHAWH HMONG SIGN ", "VOS LUB, XYOO, HLI, THIRD-STAGE HLI, ZWJ THAJ, HNUB, NQIG,
    XIAB, NTUJ, AV, TXHEEJ CEEV, MEEJ TSEEB, TAU, LOS, MUS, CIM HAIS LUS NTOG NTOG,
    CIM CUAM TSHOOJ, CIM TXWV, CIM TXWV CHWV, CIM PUB DAWB, CIM NRES TOS"⟩,
  ⟨0x16b7d, "PAHAWH HMONG CLAN SIGN ", "TSHEEJ, YEEG, LIS, LAUJ, XYOOJ, KOO, HAWJ, MUAS, THOJ,
    TSAB, PHAB, KHAB, HAM, VAJ, FAJ, YAJ, TSWB, KWM, VWJ"⟩,
  ⟨0x1e100, "NYIAKENG PUACHUE HMONG LETTER ", "MA, TSA, NTA, TA, HA, NA, XA, NKA, CA, LA, SA, ZA,
    NCA, NTSA, KA, DA, NYA, NRA, VA, NTXA, TXA, FA, RA, QA, YA, NQA, PA, XYA, NPA, DLA, NPLA,
    HAH, MLA, PLA, GA, RRA, A, AA, I, U, O, OO, E, EE, W"⟩,
  ⟨0x1e130, "NYIAKENG PUACHUE HMONG ", "TONE-B, TONE-M, TONE-J, TONE-V, TONE-S, TONE-G, TONE-D,
    SIGN FOR PERSON, SIGN FOR THING, SIGN FOR LOCATION, SIGN FOR ANIMAL, SIGN FOR INVERTEBRATE,
    SIGN XW XW, SYLLABLE LENGTHENER, , , DIGIT ZERO, DIGIT ONE, DIGIT TWO, DIGIT THREE,
    DIGIT FOUR, DIGIT FIVE, DIGIT SIX, DIGIT SEVEN, DIGIT EIGHT, DIGIT NINE, , , , ,
    LOGOGRAM NYAJ, CIRCLED CA"⟩]

end NameTag.CharacterName
