import NameTag.Text.CharacterName.Block

/-!
# Names of ancient characters

Ogham, Runic, Linear A and B, Gothic, and the old alphabets of Italy, the Near East and Central Asia.
-/

namespace NameTag.CharacterName

def ancientBlocks : List Block := [
  ⟨0x1680, "OGHAM SPACE ", "MARK"⟩,
  ⟨0x1681, "OGHAM LETTER ", "BEITH, LUIS, FEARN, SAIL, NION, UATH, DAIR, TINNE, COLL, CEIRT,
    MUIN, GORT, NGEADAL, STRAIF, RUIS, AILM, ONN, UR, EADHADH, IODHADH, EABHADH, OR, UILLEANN,
    IFIN, EAMHANCHOLL, PEITH"⟩,
  ⟨0x169b, "OGHAM ", "FEATHER MARK, REVERSED FEATHER MARK"⟩,
  ⟨0x16a0, "RUNIC LETTER ", "FEHU FEOH FE F, V, URUZ UR U, YR, Y, W, THURISAZ THURS THORN, ETH,
    ANSUZ A, OS O, AC A, AESC, LONG-BRANCH-OSS O, SHORT-TWIG-OSS O, O, OE, ON, RAIDO RAD REID R,
    KAUNA, CEN, KAUN K, G, ENG, GEBO GYFU G, GAR, WUNJO WYNN W, HAGLAZ H, HAEGL H,
    LONG-BRANCH-HAGALL H, SHORT-TWIG-HAGALL H, NAUDIZ NYD NAUD N, SHORT-TWIG-NAUD N, DOTTED-N,
    ISAZ IS ISS I, E, JERAN J, GER, LONG-BRANCH-AR AE, SHORT-TWIG-AR A, IWAZ EOH,
    PERTHO PEORTH P, ALGIZ EOLHX, SOWILO S, SIGEL LONG-BRANCH-SOL S, SHORT-TWIG-SOL S, C, Z,
    TIWAZ TIR TYR T, SHORT-TWIG-TYR T, D, BERKANAN BEORC BJARKAN B, SHORT-TWIG-BJARKAN B,
    DOTTED-P, OPEN-P, EHWAZ EH E, MANNAZ MAN M, LONG-BRANCH-MADR M, SHORT-TWIG-MADR M,
    LAUKAZ LAGU LOGR L, DOTTED-L, INGWAZ, ING, DAGAZ DAEG D, OTHALAN ETHEL O, EAR, IOR, CWEORTH,
    CALC, CEALC, STAN, LONG-BRANCH-YR, SHORT-TWIG-YR, ICELANDIC-YR, Q, X"⟩,
  ⟨0x16eb, "RUNIC ", "SINGLE PUNCTUATION, MULTIPLE PUNCTUATION, CROSS PUNCTUATION, ARLAUG SYMBOL,
    TVIMADUR SYMBOL, BELGTHOR SYMBOL, LETTER K, LETTER SH, LETTER OO"⟩,
  ⟨0x16f4, "RUNIC LETTER FRANKS CASKET ", "OS, IS, EH, AC, AESC"⟩,
  ⟨0x10000, "LINEAR B SYLLABLE ", "B008 A, B038 E, B028 I, B061 O, B010 U, B001 DA, B045 DE,
    B007 DI, B014 DO, B051 DU, B057 JA, B046 JE, , B036 JO, B065 JU, B077 KA, B044 KE, B067 KI,
    B070 KO, B081 KU, B080 MA, B013 ME, B073 MI, B015 MO, B023 MU, B006 NA, B024 NE, B030 NI,
    B052 NO, B055 NU, B003 PA, B072 PE, B039 PI, B011 PO, B050 PU, B016 QA, B078 QE, B021 QI,
    B032 QO, , B060 RA, B027 RE, B053 RI, B002 RO, B026 RU, B031 SA, B009 SE, B041 SI, B012 SO,
    B058 SU, B059 TA, B004 TE, B037 TI, B005 TO, B069 TU, B054 WA, B075 WE, B040 WI, B042 WO, ,
    B017 ZA, B074 ZE, , B020 ZO, B025 A2, B043 A3, B085 AU, B071 DWE, B090 DWO, B048 NWA,
    B029 PU2, B062 PTE, B076 RA2, B033 RA3, B068 RO2, B066 TA2, B087 TWE, B091 TWO"⟩,
  ⟨0x10050, "LINEAR B SYMBOL ", "B018, B019, B022, B034, B047, B049, B056, B063, B064, B079,
    B082, B083, B086, B089"⟩,
  ⟨0x10080, "LINEAR B IDEOGRAM ", "B100 MAN, B102 WOMAN, B104 DEER, B105 EQUID, B105F MARE,
    B105M STALLION, B106F EWE, B106M RAM, B107F SHE-GOAT, B107M HE-GOAT, B108F SOW, B108M BOAR,
    B109F COW, B109M BULL, B120 WHEAT, B121 BARLEY, B122 OLIVE, B123 SPICE, B125 CYPERUS"⟩,
  ⟨0x10093, "LINEAR B ", "MONOGRAM B127 KAPO, MONOGRAM B128 KANAKO, IDEOGRAM B130 OIL,
    IDEOGRAM B131 WINE, IDEOGRAM B132, MONOGRAM B133 AREPA, MONOGRAM B135 MERI"⟩,
  ⟨0x1009a, "LINEAR B IDEOGRAM ", "B140 BRONZE, B141 GOLD, B142, B145 WOOL, B146, B150,
    B151 HORN, B152, B153, B154"⟩,
  ⟨0x100a4, "LINEAR B MONOGRAM B156 ", "TURO2"⟩,
  ⟨0x100a5, "LINEAR B IDEOGRAM ", "B157, B158, B159 CLOTH, B160, B161, B162 GARMENT, B163 ARMOUR,
    B164, B165, B166, B167, B168, B169, B170, B171, B172, B173 MONTH, B174, B176 TREE, B177,
    B178, B179, B180, B181, B182, B183, B184, B185, B189, B190, B191 HELMET, B220 FOOTSTOOL,
    B225 BATHTUB, B230 SPEAR, B231 ARROW, B232, B233 SWORD, B234, B236, B240 WHEELED CHARIOT,
    B241 CHARIOT, B242 CHARIOT FRAME, B243 WHEEL, B245, B246"⟩,
  ⟨0x100d2, "LINEAR B MONOGRAM B247 ", "DIPTE"⟩,
  ⟨0x100d3, "LINEAR B IDEOGRAM ", "B248, B249, B251, B252, B253, B254 DART, B255, B256, B257,
    B258, B259"⟩,
  ⟨0x100de, "LINEAR B IDEOGRAM VESSEL ", "B155, B200, B201, B202, B203, B204, B205, B206, B207,
    B208, B209, B210, B211, B212, B213, B214, B215, B216, B217, B218, B219, B221, B222, B226,
    B227, B228, B229, B250, B305"⟩,
  ⟨0x10100, "AEGEAN ", "WORD SEPARATOR LINE, WORD SEPARATOR DOT, CHECK MARK"⟩,
  ⟨0x10107, "AEGEAN NUMBER ", "ONE, TWO, THREE, FOUR, FIVE, SIX, SEVEN, EIGHT, NINE, TEN, TWENTY,
    THIRTY, FORTY, FIFTY, SIXTY, SEVENTY, EIGHTY, NINETY, ONE HUNDRED, TWO HUNDRED,
    THREE HUNDRED, FOUR HUNDRED, FIVE HUNDRED, SIX HUNDRED, SEVEN HUNDRED, EIGHT HUNDRED,
    NINE HUNDRED, ONE THOUSAND, TWO THOUSAND, THREE THOUSAND, FOUR THOUSAND, FIVE THOUSAND,
    SIX THOUSAND, SEVEN THOUSAND, EIGHT THOUSAND, NINE THOUSAND, TEN THOUSAND, TWENTY THOUSAND,
    THIRTY THOUSAND, FORTY THOUSAND, FIFTY THOUSAND, SIXTY THOUSAND, SEVENTY THOUSAND,
    EIGHTY THOUSAND, NINETY THOUSAND"⟩,
  ⟨0x10137, "AEGEAN ", "WEIGHT BASE UNIT, WEIGHT FIRST SUBUNIT, WEIGHT SECOND SUBUNIT,
    WEIGHT THIRD SUBUNIT, WEIGHT FOURTH SUBUNIT, DRY MEASURE FIRST SUBUNIT,
    LIQUID MEASURE FIRST SUBUNIT, MEASURE SECOND SUBUNIT, MEASURE THIRD SUBUNIT"⟩,
  ⟨0x10190, "ROMAN ", "SEXTANS SIGN, UNCIA SIGN, SEMUNCIA SIGN, SEXTULA SIGN,
    DIMIDIA SEXTULA SIGN, SILIQUA SIGN, DENARIUS SIGN, QUINARIUS SIGN, SESTERTIUS SIGN,
    DUPONDIUS SIGN, AS SIGN, CENTURIAL SIGN"⟩,
  ⟨0x1019c, "", "ASCIA SYMBOL, , , , GREEK SYMBOL TAU RHO"⟩,
  ⟨0x101d0, "PHAISTOS DISC SIGN ", "PEDESTRIAN, PLUMED HEAD, TATTOOED HEAD, CAPTIVE, CHILD,
    WOMAN, HELMET, GAUNTLET, TIARA, ARROW, BOW, SHIELD, CLUB, MANACLES, MATTOCK, SAW, LID,
    BOOMERANG, CARPENTRY PLANE, DOLIUM, COMB, SLING, COLUMN, BEEHIVE, SHIP, HORN, HIDE,
    BULLS LEG, CAT, RAM, EAGLE, DOVE, TUNNY, BEE, PLANE TREE, VINE, PAPYRUS, ROSETTE, LILY,
    OX BACK, FLUTE, GRATER, STRAINER, SMALL AXE, WAVY BAND, COMBINING OBLIQUE STROKE"⟩,
  ⟨0x10280, "LYCIAN LETTER ", "A, E, B, BH, G, D, I, W, Z, TH, J, K, Q, L, M, N, MM, NN, U, P,
    KK, R, S, T, TT, AN, EN, H, X"⟩,
  ⟨0x102a0, "CARIAN LETTER ", "A, P2, D, L, UUU, R, LD, A2, Q, B, M, O, D2, T, SH, SH2, S, C-18,
    U, NN, X, N, TT2, P, SS, I, E, UUUU, K, K2, ND, UU, G, G2, ST, ST2, NG, II, C-39, TT, UUU2,
    RR, MB, MB2, MB3, MB4, LD2, E2, UUU3"⟩,
  ⟨0x10300, "OLD ITALIC LETTER ", "A, BE, KE, DE, E, VE, ZE, HE, THE, I, KA, EL, EM, EN, ESH, O,
    PE, SHE, KU, ER, ES, TE, U, EKS, PHE, KHE, EF, ERS, CHE, II, UU, ESS"⟩,
  ⟨0x10320, "OLD ITALIC NUMERAL ", "ONE, FIVE, TEN, FIFTY"⟩,
  ⟨0x1032d, "OLD ITALIC LETTER ", "YE, NORTHERN TSE, SOUTHERN TSE"⟩,
  ⟨0x10330, "GOTHIC LETTER ", "AHSA, BAIRKAN, GIBA, DAGS, AIHVUS, QAIRTHRA, IUJA, HAGL, THIUTH,
    EIS, KUSMA, LAGUS, MANNA, NAUTHS, JER, URUS, PAIRTHRA, NINETY, RAIDA, SAUIL, TEIWS, WINJA,
    FAIHU, IGGWS, HWAIR, OTHAL, NINE HUNDRED"⟩,
  ⟨0x10380, "UGARITIC LETTER ", "ALPA, BETA, GAMLA, KHA, DELTA, HO, WO, ZETA, HOTA, TET, YOD,
    KAF, SHIN, LAMDA, MEM, DHAL, NUN, ZU, SAMKA, AIN, PU, SADE, QOPA, RASHA, THANNA, GHAIN, TO,
    I, U, SSU"⟩,
  ⟨0x1039f, "UGARITIC WORD ", "DIVIDER"⟩,
  ⟨0x103a0, "OLD PERSIAN SIGN ", "A, I, U, KA, KU, GA, GU, XA, CA, JA, JI, TA, TU, DA, DI, DU,
    THA, PA, BA, FA, NA, NU, MA, MI, MU, YA, VA, VI, RA, RU, LA, SA, ZA, SHA, SSA, HA, , , , ,
    AURAMAZDAA, AURAMAZDAA-2, AURAMAZDAAHA, XSHAAYATHIYA, DAHYAAUSH, DAHYAAUSH-2, BAGA, BUUMISH"⟩,
  ⟨0x103d0, "OLD PERSIAN ", "WORD DIVIDER, NUMBER ONE, NUMBER TWO, NUMBER TEN, NUMBER TWENTY,
    NUMBER HUNDRED"⟩,
  ⟨0x10600, "LINEAR A SIGN ", "AB001, AB002, AB003, AB004, AB005, AB006, AB007, AB008, AB009,
    AB010, AB011, AB013, AB016, AB017, AB020, AB021, AB021F, AB021M, AB022, AB022F, AB022M,
    AB023, AB023M, AB024, AB026, AB027, AB028, A028B, AB029, AB030, AB031, AB034, AB037, AB038,
    AB039, AB040, AB041, AB044, AB045, AB046, AB047, AB048, AB049, AB050, AB051, AB053, AB054,
    AB055, AB056, AB057, AB058, AB059, AB060, AB061, AB065, AB066, AB067, AB069, AB070, AB073,
    AB074, AB076, AB077, AB078, AB079, AB080, AB081, AB082, AB085, AB086, AB087, A100-102, AB118,
    AB120, A120B, AB122, AB123, AB131A, AB131B, A131C, AB164, AB171, AB180, AB188, AB191, A301,
    A302, A303, A304, A305, A306, A307, A308, A309A, A309B, A309C, A310, A311, A312, A313A,
    A313B, A313C, A314, A315, A316, A317, A318, A319, A320, A321, A322, A323, A324, A325, A326,
    A327, A328, A329, A330, A331, A332, A333, A334, A335, A336, A337, A338, A339, A340, A341,
    A342, A343, A344, A345, A346, A347, A348, A349, A350, A351, A352, A353, A354, A355, A356,
    A357, A358, A359, A360, A361, A362, A363, A364, A365, A366, A367, A368, A369, A370, A371,
    A400-VAS, A401-VAS, A402-VAS, A403-VAS, A404-VAS, A405-VAS, A406-VAS, A407-VAS, A408-VAS,
    A409-VAS, A410-VAS, A411-VAS, A412-VAS, A413-VAS, A414-VAS, A415-VAS, A416-VAS, A417-VAS,
    A418-VAS, A501, A502, A503, A504, A505, A506, A508, A509, A510, A511, A512, A513, A515, A516,
    A520, A521, A523, A524, A525, A526, A527, A528, A529, A530, A531, A532, A534, A535, A536,
    A537, A538, A539, A540, A541, A542, A545, A547, A548, A549, A550, A551, A552, A553, A554,
    A555, A556, A557, A559, A563, A564, A565, A566, A568, A569, A570, A571, A572, A573, A574,
    A575, A576, A577, A578, A579, A580, A581, A582, A583, A584, A585, A586, A587, A588, A589,
    A591, A592, A594, A595, A596, A598, A600, A601, A602, A603, A604, A606, A608, A609, A610,
    A611, A612, A613, A614, A615, A616, A617, A618, A619, A620, A621, A622, A623, A624, A626,
    A627, A628, A629, A634, A637, A638, A640, A642, A643, A644, A645, A646, A648, A649, A651,
    A652, A653, A654, A655, A656, A657, A658, A659, A660, A661, A662, A663, A664"⟩,
  ⟨0x10740, "LINEAR A SIGN ", "A701 A, A702 B, A703 D, A704 E, A705 F, A706 H, A707 J, A708 K,
    A709 L, A709-2 L2, A709-3 L3, A709-4 L4, A709-6 L6, A710 W, A711 X, A712 Y, A713 OMEGA,
    A714 ABB, A715 BB, A717 DD, A726 EYYY, A732 JE"⟩,
  ⟨0x10760, "LINEAR A SIGN ", "A800, A801, A802, A803, A804, A805, A806, A807"⟩,
  ⟨0x10800, "CYPRIOT SYLLABLE ", "A, E, I, O, U, JA, , , JO, , KA, KE, KI, KO, KU, LA, LE, LI,
    LO, LU, MA, ME, MI, MO, MU, NA, NE, NI, NO, NU, PA, PE, PI, PO, PU, RA, RE, RI, RO, RU, SA,
    SE, SI, SO, SU, TA, TE, TI, TO, TU, WA, WE, WI, WO, , XA, XE, , , , ZA, , , ZO"⟩,
  ⟨0x10840, "IMPERIAL ARAMAIC LETTER ", "ALEPH, BETH, GIMEL, DALETH, HE, WAW, ZAYIN, HETH, TETH,
    YODH, KAPH, LAMEDH, MEM, NUN, SAMEKH, AYIN, PE, SADHE, QOPH, RESH, SHIN, TAW"⟩,
  ⟨0x10857, "IMPERIAL ARAMAIC SECTION ", "SIGN"⟩,
  ⟨0x10858, "IMPERIAL ARAMAIC NUMBER ", "ONE, TWO, THREE, TEN, TWENTY, ONE HUNDRED, ONE THOUSAND,
    TEN THOUSAND"⟩,
  ⟨0x10860, "PALMYRENE LETTER ", "ALEPH, BETH, GIMEL, DALETH, HE, WAW, ZAYIN, HETH, TETH, YODH,
    KAPH, LAMEDH, MEM, FINAL NUN, NUN, SAMEKH, AYIN, PE, SADHE, QOPH, RESH, SHIN, TAW"⟩,
  ⟨0x10877, "PALMYRENE ", "LEFT-POINTING FLEURON, RIGHT-POINTING FLEURON"⟩,
  ⟨0x10879, "PALMYRENE NUMBER ", "ONE, TWO, THREE, FOUR, FIVE, TEN, TWENTY"⟩,
  ⟨0x10880, "NABATAEAN LETTER ", "FINAL ALEPH, ALEPH, FINAL BETH, BETH, GIMEL, DALETH, FINAL HE,
    HE, WAW, ZAYIN, HETH, TETH, FINAL YODH, YODH, FINAL KAPH, KAPH, FINAL LAMEDH, LAMEDH,
    FINAL MEM, MEM, FINAL NUN, NUN, SAMEKH, AYIN, PE, SADHE, QOPH, RESH, FINAL SHIN, SHIN, TAW"⟩,
  ⟨0x108a7, "NABATAEAN ", "NUMBER ONE, NUMBER TWO, NUMBER THREE, NUMBER FOUR,
    CRUCIFORM NUMBER FOUR, NUMBER FIVE, NUMBER TEN, NUMBER TWENTY, NUMBER ONE HUNDRED"⟩,
  ⟨0x108e0, "HATRAN LETTER ", "ALEPH, BETH, GIMEL, DALETH-RESH, HE, WAW, ZAYN, HETH, TETH, YODH,
    KAPH, LAMEDH, MEM, NUN, SAMEKH, AYN, PE, SADHE, QOPH, , SHIN, TAW"⟩,
  ⟨0x108fb, "HATRAN NUMBER ", "ONE, FIVE, TEN, TWENTY, ONE HUNDRED"⟩,
  ⟨0x10900, "PHOENICIAN LETTER ", "ALF, BET, GAML, DELT, HE, WAU, ZAI, HET, TET, YOD, KAF, LAMD,
    MEM, NUN, SEMK, AIN, PE, SADE, QOF, ROSH, SHIN, TAU"⟩,
  ⟨0x10916, "PHOENICIAN NUMBER ", "ONE, TEN, TWENTY, ONE HUNDRED, TWO, THREE"⟩,
  ⟨0x1091f, "PHOENICIAN WORD ", "SEPARATOR"⟩,
  ⟨0x10920, "LYDIAN LETTER ", "A, B, G, D, E, V, I, Y, K, L, M, N, O, R, SS, T, U, F, Q, S, TT,
    AN, EN, LY, NN, C"⟩,
  ⟨0x1093f, "LYDIAN TRIANGULAR ", "MARK"⟩,
  ⟨0x10980, "MEROITIC HIEROGLYPHIC LETTER ", "A, E, I, O, YA, WA, BA, BA-2, PA, MA, NA, NA-2, NE,
    NE-2, RA, RA-2, LA, KHA, HHA, SA, SA-2, SE, KA, QA, TA, TA-2, TE, TE-2, TO, DA"⟩,
  ⟨0x1099e, "MEROITIC HIEROGLYPHIC SYMBOL ", "VIDJ, VIDJ-2"⟩,
  ⟨0x109a0, "MEROITIC CURSIVE LETTER ", "A, E, I, O, YA, WA, BA, PA, MA, NA, NE, RA, LA, KHA,
    HHA, SA, ARCHAIC SA, SE, KA, QA, TA, TE, TO, DA"⟩,
  ⟨0x109bc, "MEROITIC CURSIVE ", "FRACTION ELEVEN TWELFTHS, FRACTION ONE HALF, LOGOGRAM RMT,
    LOGOGRAM IMN"⟩,
  ⟨0x109c0, "MEROITIC CURSIVE NUMBER ", "ONE, TWO, THREE, FOUR, FIVE, SIX, SEVEN, EIGHT, NINE,
    TEN, TWENTY, THIRTY, FORTY, FIFTY, SIXTY, SEVENTY, , , ONE HUNDRED, TWO HUNDRED,
    THREE HUNDRED, FOUR HUNDRED, FIVE HUNDRED, SIX HUNDRED, SEVEN HUNDRED, EIGHT HUNDRED,
    NINE HUNDRED, ONE THOUSAND, TWO THOUSAND, THREE THOUSAND, FOUR THOUSAND, FIVE THOUSAND,
    SIX THOUSAND, SEVEN THOUSAND, EIGHT THOUSAND, NINE THOUSAND, TEN THOUSAND, TWENTY THOUSAND,
    THIRTY THOUSAND, FORTY THOUSAND, FIFTY THOUSAND, SIXTY THOUSAND, SEVENTY THOUSAND,
    EIGHTY THOUSAND, NINETY THOUSAND, ONE HUNDRED THOUSAND, TWO HUNDRED THOUSAND,
    THREE HUNDRED THOUSAND, FOUR HUNDRED THOUSAND, FIVE HUNDRED THOUSAND, SIX HUNDRED THOUSAND,
    SEVEN HUNDRED THOUSAND, EIGHT HUNDRED THOUSAND, NINE HUNDRED THOUSAND"⟩,
  ⟨0x109f6, "MEROITIC CURSIVE FRACTION ", "ONE TWELFTH, TWO TWELFTHS, THREE TWELFTHS,
    FOUR TWELFTHS, FIVE TWELFTHS, SIX TWELFTHS, SEVEN TWELFTHS, EIGHT TWELFTHS, NINE TWELFTHS,
    TEN TWELFTHS"⟩,
  ⟨0x10a60, "OLD SOUTH ARABIAN LETTER ", "HE, LAMEDH, HETH, MEM, QOPH, WAW, SHIN, RESH, BETH,
    TAW, SAT, KAPH, NUN, KHETH, SADHE, SAMEKH, FE, ALEF, AYN, DHADHE, GIMEL, DALETH, GHAYN, TETH,
    ZAYN, DHALETH, YODH, THAW, THETH"⟩,
  ⟨0x10a7d, "OLD SOUTH ARABIAN ", "NUMBER ONE, NUMBER FIFTY, NUMERIC INDICATOR"⟩,
  ⟨0x10a80, "OLD NORTH ARABIAN LETTER ", "HEH, LAM, HAH, MEEM, QAF, WAW, ES-2, REH, BEH, TEH,
    ES-1, KAF, NOON, KHAH, SAD, ES-3, FEH, ALEF, AIN, DAD, GEEM, DAL, GHAIN, TAH, ZAIN, THAL,
    YEH, THEH, ZAH"⟩,
  ⟨0x10a9d, "OLD NORTH ARABIAN NUMBER ", "ONE, TEN, TWENTY"⟩,
  ⟨0x10ac0, "MANICHAEAN LETTER ", "ALEPH, BETH, BHETH, GIMEL, GHIMEL, DALETH, HE, WAW"⟩,
  ⟨0x10ac8, "MANICHAEAN SIGN ", "UD"⟩,
  ⟨0x10ac9, "MANICHAEAN LETTER ", "ZAYIN, ZHAYIN, JAYIN, JHAYIN, HETH, TETH, YODH, KAPH, XAPH,
    KHAPH, LAMEDH, DHAMEDH, THAMEDH, MEM, NUN, SAMEKH, AYIN, AAYIN, PE, FE, SADHE, QOPH, XOPH,
    QHOPH, RESH, SHIN, SSHIN, TAW"⟩,
  ⟨0x10ae5, "MANICHAEAN ABBREVIATION MARK ", "ABOVE, BELOW"⟩,
  ⟨0x10aeb, "MANICHAEAN NUMBER ", "ONE, FIVE, TEN, TWENTY, ONE HUNDRED"⟩,
  ⟨0x10af0, "MANICHAEAN PUNCTUATION ", "STAR, FLEURON, DOUBLE DOT WITHIN DOT, DOT WITHIN DOT,
    DOT, TWO DOTS, LINE FILLER"⟩,
  ⟨0x10b00, "AVESTAN LETTER ", "A, AA, AO, AAO, AN, AAN, AE, AEE, E, EE, O, OO, I, II, U, UU, KE,
    XE, XYE, XVE, GE, GGE, GHE, CE, JE, TE, THE, DE, DHE, TTE, PE, FE, BE, BHE, NGE, NGYE, NGVE,
    NE, NYE, NNE, ME, HME, YYE, YE, VE, RE, LE, SE, ZE, SHE, ZHE, SHYE, SSHE, HE"⟩,
  ⟨0x10b39, "", "AVESTAN ABBREVIATION MARK, TINY TWO DOTS OVER ONE DOT PUNCTUATION,
    SMALL TWO DOTS OVER ONE DOT PUNCTUATION, LARGE TWO DOTS OVER ONE DOT PUNCTUATION,
    LARGE ONE DOT OVER TWO DOTS PUNCTUATION, LARGE TWO RINGS OVER ONE RING PUNCTUATION,
    LARGE ONE RING OVER TWO RINGS PUNCTUATION"⟩,
  ⟨0x10b40, "INSCRIPTIONAL PARTHIAN LETTER ", "ALEPH, BETH, GIMEL, DALETH, HE, WAW, ZAYIN, HETH,
    TETH, YODH, KAPH, LAMEDH, MEM, NUN, SAMEKH, AYIN, PE, SADHE, QOPH, RESH, SHIN, TAW"⟩,
  ⟨0x10b58, "INSCRIPTIONAL PARTHIAN NUMBER ", "ONE, TWO, THREE, FOUR, TEN, TWENTY, ONE HUNDRED,
    ONE THOUSAND"⟩,
  ⟨0x10b60, "INSCRIPTIONAL PAHLAVI LETTER ", "ALEPH, BETH, GIMEL, DALETH, HE, WAW-AYIN-RESH,
    ZAYIN, HETH, TETH, YODH, KAPH, LAMEDH, MEM-QOPH, NUN, SAMEKH, PE, SADHE, SHIN, TAW"⟩,
  ⟨0x10b78, "INSCRIPTIONAL PAHLAVI NUMBER ", "ONE, TWO, THREE, FOUR, TEN, TWENTY, ONE HUNDRED,
    ONE THOUSAND"⟩,
  ⟨0x10b80, "PSALTER PAHLAVI LETTER ", "ALEPH, BETH, GIMEL, DALETH, HE, WAW-AYIN-RESH, ZAYIN,
    HETH, YODH, KAPH, LAMEDH, MEM-QOPH, NUN, SAMEKH, PE, SADHE, SHIN, TAW"⟩,
  ⟨0x10b99, "PSALTER PAHLAVI ", "SECTION MARK, TURNED SECTION MARK, FOUR DOTS WITH CROSS,
    FOUR DOTS WITH DOT"⟩,
  ⟨0x10ba9, "PSALTER PAHLAVI NUMBER ", "ONE, TWO, THREE, FOUR, TEN, TWENTY, ONE HUNDRED"⟩,
  ⟨0x10c00, "OLD TURKIC LETTER ", "ORKHON A, YENISEI A, YENISEI AE, ORKHON I, YENISEI I,
    YENISEI E, ORKHON O, ORKHON OE, YENISEI OE, ORKHON AB, YENISEI AB, ORKHON AEB, YENISEI AEB,
    ORKHON AG, YENISEI AG, ORKHON AEG, YENISEI AEG, ORKHON AD, YENISEI AD, ORKHON AED, ORKHON EZ,
    YENISEI EZ, ORKHON AY, YENISEI AY, ORKHON AEY, YENISEI AEY, ORKHON AEK, YENISEI AEK,
    ORKHON OEK, YENISEI OEK, ORKHON AL, YENISEI AL, ORKHON AEL, ORKHON ELT, ORKHON EM, ORKHON AN,
    ORKHON AEN, YENISEI AEN, ORKHON ENT, YENISEI ENT, ORKHON ENC, YENISEI ENC, ORKHON ENY,
    YENISEI ENY, YENISEI ANG, ORKHON ENG, YENISEI AENG, ORKHON EP, ORKHON OP, ORKHON IC,
    ORKHON EC, YENISEI EC, ORKHON AQ, YENISEI AQ, ORKHON IQ, YENISEI IQ, ORKHON OQ, YENISEI OQ,
    ORKHON AR, YENISEI AR, ORKHON AER, ORKHON AS, ORKHON AES, ORKHON ASH, YENISEI ASH,
    ORKHON ESH, YENISEI ESH, ORKHON AT, YENISEI AT, ORKHON AET, YENISEI AET, ORKHON OT,
    ORKHON BASH"⟩,
  ⟨0x10e60, "RUMI DIGIT ", "ONE, TWO, THREE, FOUR, FIVE, SIX, SEVEN, EIGHT, NINE"⟩,
  ⟨0x10e69, "RUMI NUMBER ", "TEN, TWENTY, THIRTY, FORTY, FIFTY, SIXTY, SEVENTY, EIGHTY, NINETY,
    ONE HUNDRED, TWO HUNDRED, THREE HUNDRED, FOUR HUNDRED, FIVE HUNDRED, SIX HUNDRED,
    SEVEN HUNDRED, EIGHT HUNDRED, NINE HUNDRED"⟩,
  ⟨0x10e7b, "RUMI FRACTION ", "ONE HALF, ONE QUARTER, ONE THIRD, TWO THIRDS"⟩,
  ⟨0x10f00, "OLD SOGDIAN LETTER ", "ALEPH, FINAL ALEPH, BETH, FINAL BETH, GIMEL, HE, FINAL HE,
    WAW, ZAYIN, HETH, YODH, KAPH, LAMEDH, MEM, NUN, FINAL NUN, FINAL NUN WITH VERTICAL TAIL,
    SAMEKH, AYIN, ALTERNATE AYIN, PE, SADHE, FINAL SADHE, FINAL SADHE WITH VERTICAL TAIL,
    RESH-AYIN-DALETH, SHIN, TAW, FINAL TAW, FINAL TAW WITH VERTICAL TAIL"⟩,
  ⟨0x10f1d, "OLD SOGDIAN NUMBER ", "ONE, TWO, THREE, FOUR, FIVE, TEN, TWENTY, THIRTY, ONE HUNDRED"⟩,
  ⟨0x10f26, "OLD SOGDIAN ", "FRACTION ONE HALF, LIGATURE AYIN-DALETH"⟩,
  ⟨0x10f30, "SOGDIAN LETTER ", "ALEPH, BETH, GIMEL, HE, WAW, ZAYIN, HETH, YODH, KAPH, LAMEDH,
    MEM, NUN, SAMEKH, AYIN, PE, SADHE, RESH-AYIN, SHIN, TAW, FETH, LESH"⟩,
  ⟨0x10f45, "SOGDIAN INDEPENDENT ", "SHIN"⟩,
  ⟨0x10f46, "SOGDIAN COMBINING ", "DOT BELOW, TWO DOTS BELOW, DOT ABOVE, TWO DOTS ABOVE,
    CURVE ABOVE, CURVE BELOW, HOOK ABOVE, HOOK BELOW, LONG HOOK BELOW, RESH BELOW, STROKE BELOW"⟩,
  ⟨0x10f51, "SOGDIAN NUMBER ", "ONE, TEN, TWENTY, ONE HUNDRED"⟩,
  ⟨0x10f55, "SOGDIAN PUNCTUATION ", "TWO VERTICAL BARS, TWO VERTICAL BARS WITH DOTS,
    CIRCLE WITH DOT, TWO CIRCLES WITH DOTS, HALF CIRCLE WITH DOT"⟩,
  ⟨0x10f70, "OLD UYGHUR LETTER ", "ALEPH, BETH, GIMEL-HETH, WAW, ZAYIN, FINAL HETH, YODH, KAPH,
    LAMEDH, MEM, NUN, SAMEKH, PE, SADHE, RESH, SHIN, TAW, LESH"⟩,
  ⟨0x10f82, "OLD UYGHUR COMBINING ", "DOT ABOVE, DOT BELOW, TWO DOTS ABOVE, TWO DOTS BELOW"⟩,
  ⟨0x10f86, "OLD UYGHUR PUNCTUATION ", "BAR, TWO BARS, TWO DOTS, FOUR DOTS"⟩,
  ⟨0x10fb0, "CHORASMIAN LETTER ", "ALEPH, SMALL ALEPH, BETH, GIMEL, DALETH, HE, WAW, CURLED WAW,
    ZAYIN, HETH, YODH, KAPH, LAMEDH, MEM, NUN, SAMEKH, AYIN, PE, RESH, SHIN, TAW"⟩,
  ⟨0x10fc5, "CHORASMIAN NUMBER ", "ONE, TWO, THREE, FOUR, TEN, TWENTY, ONE HUNDRED"⟩,
  ⟨0x10fe0, "ELYMAIC LETTER ", "ALEPH, BETH, GIMEL, DALETH, HE, WAW, ZAYIN, HETH, TETH, YODH,
    KAPH, LAMEDH, MEM, NUN, SAMEKH, AYIN, PE, SADHE, QOPH, RESH, SHIN, TAW"⟩,
  ⟨0x10ff6, "ELYMAIC LIGATURE ZAYIN-", "YODH"⟩]

end NameTag.CharacterName
