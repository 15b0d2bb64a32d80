import NameTag.Text.CharacterName.Block

/-!
# Names of characters of South Asia

The scripts of India and its neighbours, Tibetan, Sinhala and Vedic signs.
-/

namespace NameTag.CharacterName

def southAsiaBlocks : List Block := [
  ⟨0x900, "DEVANAGARI SIGN ", "INVERTED CANDRABINDU, CANDRABINDU, ANUSVARA, VISARGA"⟩,
  ⟨0x904, "DEVANAGARI LETTER ", "SHORT A, A, AA, I, II, U, UU, VOCALIC R, VOCALIC L, CANDRA E,
    SHORT E, E, AI, CANDRA O, SHORT O, O, AU, KA, KHA, GA, GHA, NGA, CA, CHA, JA, JHA, NYA, TTA,
    TTHA, DDA, DDHA, NNA, TA, THA, DA, DHA, NA, NNNA, PA, PHA, BA, BHA, MA, YA, RA, RRA, LA, LLA,
    LLLA, VA, SHA, SSA, SA, HA"⟩,
  ⟨0x93a, "DEVANAGARI ", "VOWEL SIGN OE, VOWEL SIGN OOE, SIGN NUKTA, SIGN AVAGRAHA"⟩,
  ⟨0x93e, "DEVANAGARI VOWEL SIGN ", "AA, I, II, U, UU, VOCALIC R, VOCALIC RR, CANDRA E, SHORT E,
    E, AI, CANDRA O, SHORT O, O, AU"⟩,
  ⟨0x94d, "DEVANAGARI ", "SIGN VIRAMA, VOWEL SIGN PRISHTHAMATRA E, VOWEL SIGN AW, OM,
    STRESS SIGN UDATTA, STRESS SIGN ANUDATTA, GRAVE ACCENT, ACUTE ACCENT,
    VOWEL SIGN CANDRA LONG E, VOWEL SIGN UE, VOWEL SIGN UUE, LETTER QA, LETTER KHHA, LETTER GHHA,
    LETTER ZA, LETTER DDDHA, LETTER RHA, LETTER FA, LETTER YYA, LETTER VOCALIC RR,
    LETTER VOCALIC LL, VOWEL SIGN VOCALIC L, VOWEL SIGN VOCALIC LL, DANDA, DOUBLE DANDA,
    DIGIT ZERO, DIGIT ONE, DIGIT TWO, DIGIT THREE, DIGIT FOUR, DIGIT FIVE, DIGIT SIX,
    DIGIT SEVEN, DIGIT EIGHT, DIGIT NINE, ABBREVIATION SIGN, SIGN HIGH SPACING DOT"⟩,
  ⟨0x972, "DEVANAGARI LETTER ", "CANDRA A, OE, OOE, AW, UE, UUE, MARWARI DDA, ZHA, HEAVY YA, GGA,
    JJA, GLOTTAL STOP, DDDA, BBA"⟩,
  ⟨0x980, "BENGALI ", "ANJI, SIGN CANDRABINDU, SIGN ANUSVARA, SIGN VISARGA"⟩,
  ⟨0x985, "BENGALI LETTER ", "A, AA, I, II, U, UU, VOCALIC R, VOCALIC L, , , E, AI, , , O, AU,
    KA, KHA, GA, GHA, NGA, CA, CHA, JA, JHA, NYA, TTA, TTHA, DDA, DDHA, NNA, TA, THA, DA, DHA,
    NA, , PA, PHA, BA, BHA, MA, YA, RA, , LA, , , , SHA, SSA, SA, HA"⟩,
  ⟨0x9bc, "BENGALI SIGN ", "NUKTA, AVAGRAHA"⟩,
  ⟨0x9be, "BENGALI VOWEL SIGN ", "AA, I, II, U, UU, VOCALIC R, VOCALIC RR, , , E, AI, , , O, AU"⟩,
  ⟨0x9cd, "BENGALI ", "SIGN VIRAMA, LETTER KHANDA TA"⟩,
  ⟨0x9d7, "BENGALI ", "AU LENGTH MARK, , , , , LETTER RRA, LETTER RHA, , LETTER YYA,
    LETTER VOCALIC RR, LETTER VOCALIC LL, VOWEL SIGN VOCALIC L, VOWEL SIGN VOCALIC LL, , ,
    DIGIT ZERO, DIGIT ONE, DIGIT TWO, DIGIT THREE, DIGIT FOUR, DIGIT FIVE, DIGIT SIX,
    DIGIT SEVEN, DIGIT EIGHT, DIGIT NINE, LETTER RA WITH MIDDLE DIAGONAL,
    LETTER RA WITH LOWER DIAGONAL, RUPEE MARK, RUPEE SIGN"⟩,
  ⟨0x9f4, "BENGALI CURRENCY NUMERATOR ", "ONE, TWO, THREE, FOUR, ONE LESS THAN THE DENOMINATOR"⟩,
  ⟨0x9f9, "BENGALI ", "CURRENCY DENOMINATOR SIXTEEN, ISSHAR, GANDA MARK, LETTER VEDIC ANUSVARA,
    ABBREVIATION SIGN, SANDHI MARK"⟩,
  ⟨0xa01, "GURMUKHI SIGN ", "ADAK BINDI, BINDI, VISARGA"⟩,
  ⟨0xa05, "GURMUKHI LETTER ", "A, AA, I, II, U, UU, , , , , EE, AI, , , OO, AU, KA, KHA, GA, GHA,
    NGA, CA, CHA, JA, JHA, NYA, TTA, TTHA, DDA, DDHA, NNA, TA, THA, DA, DHA, NA, , PA, PHA, BA,
    BHA, MA, YA, RA, , LA, LLA, , VA, SHA, , SA, HA"⟩,
  ⟨0xa3c, "GURMUKHI SIGN ", "NUKTA"⟩,
  ⟨0xa3e, "GURMUKHI VOWEL SIGN ", "AA, I, II, U, UU, , , , , EE, AI, , , OO, AU"⟩,
  ⟨0xa4d, "GURMUKHI SIGN ", "VIRAMA, , , , UDAAT"⟩,
  ⟨0xa59, "GURMUKHI LETTER ", "KHHA, GHHA, ZA, RRA, , FA"⟩,
  ⟨0xa66, "GURMUKHI DIGIT ", "ZERO, ONE, TWO, THREE, FOUR, FIVE, SIX, SEVEN, EIGHT, NINE"⟩,
  ⟨0xa70, "GURMUKHI ", "TIPPI, ADDAK, IRI, URA, EK ONKAR, SIGN YAKASH, ABBREVIATION SIGN"⟩,
  ⟨0xa81, "GUJARATI ", "SIGN CANDRABINDU, SIGN ANUSVARA, SIGN VISARGA, , LETTER A, LETTER AA,
    LETTER I, LETTER II, LETTER U, LETTER UU, LETTER VOCALIC R, LETTER VOCALIC L, VOWEL CANDRA E,
    , LETTER E, LETTER AI, VOWEL CANDRA O"⟩,
  ⟨0xa93, "GUJARATI LETTER ", "O, AU, KA, KHA, GA, GHA, NGA, CA, CHA, JA, JHA, NYA, TTA, TTHA,
    DDA, DDHA, NNA, TA, THA, DA, DHA, NA, , PA, PHA, BA, BHA, MA, YA, RA, , LA, LLA, , VA, SHA,
    SSA, SA, HA"⟩,
  ⟨0xabc, "GUJARATI SIGN ", "NUKTA, AVAGRAHA"⟩,
  ⟨0xabe, "GUJARATI VOWEL SIGN ", "AA, I, II, U, UU, VOCALIC R, VOCALIC RR, CANDRA E, , E, AI,
    CANDRA O, , O, AU"⟩,
  ⟨0xacd, "GUJARATI ", "SIGN VIRAMA, , , OM"⟩,
  ⟨0xae0, "GUJARATI ", "LETTER VOCALIC RR, LETTER VOCALIC LL, VOWEL SIGN VOCALIC L,
    VOWEL SIGN VOCALIC LL, , , DIGIT ZERO, DIGIT ONE, DIGIT TWO, DIGIT THREE, DIGIT FOUR,
    DIGIT FIVE, DIGIT SIX, DIGIT SEVEN, DIGIT EIGHT, DIGIT NINE, ABBREVIATION SIGN, RUPEE SIGN"⟩,
  ⟨0xaf9, "GUJARATI ", "LETTER ZHA, SIGN SUKUN, SIGN SHADDA, SIGN MADDAH,
    SIGN THREE-DOT NUKTA ABOVE, SIGN CIRCLE NUKTA ABOVE, SIGN TWO-CIRCLE NUKTA ABOVE"⟩,
  ⟨0xb01, "ORIYA SIGN ", "CANDRABINDU, ANUSVARA, VISARGA"⟩,
  ⟨0xb05, "ORIYA LETTER ", "A, AA, I, II, U, UU, VOCALIC R, VOCALIC L, , , E, AI, , , O, AU, KA,
    KHA, GA, GHA, NGA, CA, CHA, JA, JHA, NYA, TTA, TTHA, DDA, DDHA, NNA, TA, THA, DA, DHA, NA, ,
    PA, PHA, BA, BHA, MA, YA, RA, , LA, LLA, , VA, SHA, SSA, SA, HA"⟩,
  ⟨0xb3c, "ORIYA SIGN ", "NUKTA, AVAGRAHA"⟩,
  ⟨0xb3e, "ORIYA VOWEL SIGN ", "AA, I, II, U, UU, VOCALIC R, VOCALIC RR, , , E, AI, , , O, AU"⟩,
  ⟨0xb4d, "ORIYA SIGN ", "VIRAMA"⟩,
  ⟨0xb55, "ORIYA ", "SIGN OVERLINE, AI LENGTH MARK, AU LENGTH MARK, , , , , LETTER RRA,
    LETTER RHA, , LETTER YYA, LETTER VOCALIC RR, LETTER VOCALIC LL, VOWEL SIGN VOCALIC L,
    VOWEL SIGN VOCALIC LL, , , DIGIT ZERO, DIGIT ONE, DIGIT TWO, DIGIT THREE, DIGIT FOUR,
    DIGIT FIVE, DIGIT SIX, DIGIT SEVEN, DIGIT EIGHT, DIGIT NINE, ISSHAR, LETTER WA"⟩,
  ⟨0xb72, "ORIYA FRACTION ", "ONE QUARTER, ONE HALF, THREE QUARTERS, ONE SIXTEENTH, ONE EIGHTH,
    THREE SIXTEENTHS"⟩,
  ⟨0xb82, "TAMIL SIGN ", "ANUSVARA, VISARGA"⟩,
  ⟨0xb85, "TAMIL LETTER ", "A, AA, I, II, U, UU, , , , E, EE, AI, , O, OO, AU, KA, , , , NGA, CA,
    , JA, , NYA, TTA, , , , NNA, TA, , , , NA, NNNA, PA, , , , MA, YA, RA, RRA, LA, LLA, LLLA,
    VA, SHA, SSA, SA, HA"⟩,
  ⟨0xbbe, "TAMIL VOWEL SIGN ", "AA, I, II, U, UU, , , , E, EE, AI, , O, OO, AU"⟩,
  ⟨0xbcd, "TAMIL ", "SIGN VIRAMA, , , OM, , , , , , , AU LENGTH MARK"⟩,
  ⟨0xbe6, "TAMIL DIGIT ", "ZERO, ONE, TWO, THREE, FOUR, FIVE, SIX, SEVEN, EIGHT, NINE"⟩,
  ⟨0xbf0, "TAMIL ", "NUMBER TEN, NUMBER ONE HUNDRED, NUMBER ONE THOUSAND, DAY SIGN, MONTH SIGN,
    YEAR SIGN, DEBIT SIGN, CREDIT SIGN, AS ABOVE SIGN, RUPEE SIGN, NUMBER SIGN"⟩,
  ⟨0xc00, "TELUGU SIGN ", "COMBINING CANDRABINDU ABOVE, CANDRABINDU, ANUSVARA, VISARGA,
    COMBINING ANUSVARA ABOVE"⟩,
  ⟨0xc05, "TELUGU LETTER ", "A, AA, I, II, U, UU, VOCALIC R, VOCALIC L, , E, EE, AI, , O, OO, AU,
    KA, KHA, GA, GHA, NGA, CA, CHA, JA, JHA, NYA, TTA, TTHA, DDA, DDHA, NNA, TA, THA, DA, DHA,
    NA, , PA, PHA, BA, BHA, MA, YA, RA, RRA, LA, LLA, LLLA, VA, SHA, SSA, SA, HA"⟩,
  ⟨0xc3c, "TELUGU SIGN ", "NUKTA, AVAGRAHA"⟩,
  ⟨0xc3e, "TELUGU VOWEL SIGN ", "AA, I, II, U, UU, VOCALIC R, VOCALIC RR, , E, EE, AI, , O, OO,
    AU"⟩,
  ⟨0xc4d, "TELUGU SIGN ", "VIRAMA"⟩,
  ⟨0xc55, "TELUGU ", "LENGTH MARK, AI LENGTH MARK, , LETTER TSA, LETTER DZA, LETTER RRRA, , ,
    LETTER NAKAARA POLLU, , , LETTER VOCALIC RR, LETTER VOCALIC LL, VOWEL SIGN VOCALIC L,
    VOWEL SIGN VOCALIC LL"⟩,
  ⟨0xc66, "TELUGU DIGIT ", "ZERO, ONE, TWO, THREE, FOUR, FIVE, SIX, SEVEN, EIGHT, NINE"⟩,
  ⟨0xc77, "TELUGU SIGN ", "SIDDHAM"⟩,
  ⟨0xc78, "TELUGU FRACTION DIGIT ", "ZERO FOR ODD POWERS OF FOUR, ONE FOR ODD POWERS OF FOUR,
    TWO FOR ODD POWERS OF FOUR, THREE FOR ODD POWERS OF FOUR, ONE FOR EVEN POWERS OF FOUR,
    TWO FOR EVEN POWERS OF FOUR, THREE FOR EVEN POWERS OF FOUR"⟩,
  ⟨0xc7f, "TELUGU SIGN ", "TUUMU"⟩,
  ⟨0xc80, "KANNADA SIGN ", "SPACING CANDRABINDU, CANDRABINDU, ANUSVARA, VISARGA, SIDDHAM"⟩,
  ⟨0xc85, "KANNADA LETTER ", "A, AA, I, II, U, UU, VOCALIC R, VOCALIC L, , E, EE, AI, , O, OO,
    AU, KA, KHA, GA, GHA, NGA, CA, CHA, JA, JHA, NYA, TTA, TTHA, DDA, DDHA, NNA, TA, THA, DA,
    DHA, NA, , PA, PHA, BA, BHA, MA, YA, RA, RRA, LA, LLA, , VA, SHA, SSA, SA, HA"⟩,
  ⟨0xcbc, "KANNADA SIGN ", "NUKTA, AVAGRAHA"⟩,
  ⟨0xcbe, "KANNADA VOWEL SIGN ", "AA, I, II, U, UU, VOCALIC R, VOCALIC RR, , E, EE, AI, , O, OO,
    AU"⟩,
  ⟨0xccd, "KANNADA SIGN ", "VIRAMA"⟩,
  ⟨0xcd5, "KANNADA ", "LENGTH MARK, AI LENGTH MARK, , , , , , , LETTER NAKAARA POLLU, LETTER FA,
    , LETTER VOCALIC RR, LETTER VOCALIC LL, VOWEL SIGN VOCALIC L, VOWEL SIGN VOCALIC LL, , ,
    DIGIT ZERO, DIGIT ONE, DIGIT TWO, DIGIT THREE, DIGIT FOUR, DIGIT FIVE, DIGIT SIX,
    DIGIT SEVEN, DIGIT EIGHT, DIGIT NINE, , SIGN JIHVAMULIYA, SIGN UPADHMANIYA"⟩,
  ⟨0xd00, "MALAYALAM SIGN ", "COMBINING ANUSVARA ABOVE, CANDRABINDU, ANUSVARA, VISARGA"⟩,
  ⟨0xd04, "MALAYALAM LETTER ", "VEDIC ANUSVARA, A, AA, I, II, U, UU, VOCALIC R, VOCALIC L, , E,
    EE, AI, , O, OO, AU, KA, KHA, GA, GHA, NGA, CA, CHA, JA, JHA, NYA, TTA, TTHA, DDA, DDHA, NNA,
    TA, THA, DA, DHA, NA, NNNA, PA, PHA, BA, BHA, MA, YA, RA, RRA, LA, LLA, LLLA, VA, SHA, SSA,
    SA, HA, TTTA"⟩,
  ⟨0xd3b, "MALAYALAM SIGN ", "VERTICAL BAR VIRAMA, CIRCULAR VIRAMA, AVAGRAHA"⟩,
  ⟨0xd3e, "MALAYALAM VOWEL SIGN ", "AA, I, II, U, UU, VOCALIC R, VOCALIC RR, , E, EE, AI, , O,
    OO, AU"⟩,
  ⟨0xd4d, "MALAYALAM ", "SIGN VIRAMA, LETTER DOT REPH, SIGN PARA, , , , , LETTER CHILLU M,
    LETTER CHILLU Y, LETTER CHILLU LLL, AU LENGTH MARK, FRACTION ONE ONE-HUNDRED-AND-SIXTIETH,
    FRACTION ONE FORTIETH, FRACTION THREE EIGHTIETHS, FRACTION ONE TWENTIETH, FRACTION ONE TENTH,
    FRACTION THREE TWENTIETHS, FRACTION ONE FIFTH, LETTER ARCHAIC II, LETTER VOCALIC RR,
    LETTER VOCALIC LL, VOWEL SIGN VOCALIC L, VOWEL SIGN VOCALIC LL, , , DIGIT ZERO, DIGIT ONE,
    DIGIT TWO, DIGIT THREE, DIGIT FOUR, DIGIT FIVE, DIGIT SIX, DIGIT SEVEN, DIGIT EIGHT,
    DIGIT NINE, NUMBER TEN, NUMBER ONE HUNDRED, NUMBER ONE THOUSAND, FRACTION ONE QUARTER,
    FRACTION ONE HALF, FRACTION THREE QUARTERS, FRACTION ONE SIXTEENTH, FRACTION ONE EIGHTH,
    FRACTION THREE SIXTEENTHS, DATE MARK"⟩,
  ⟨0xd7a, "MALAYALAM LETTER CHILLU ", "NN, N, RR, L, LL, K"⟩,
  ⟨0xd81, "SINHALA SIGN ", "CANDRABINDU, ANUSVARAYA, VISARGAYA"⟩,
  ⟨0xd85, "SINHALA LETTER ", "AYANNA, AAYANNA, AEYANNA, AEEYANNA, IYANNA, IIYANNA, UYANNA,
    UUYANNA, IRUYANNA, IRUUYANNA, ILUYANNA, ILUUYANNA, EYANNA, EEYANNA, AIYANNA, OYANNA, OOYANNA,
    AUYANNA, , , , ALPAPRAANA KAYANNA, MAHAAPRAANA KAYANNA, ALPAPRAANA GAYANNA,
    MAHAAPRAANA GAYANNA, KANTAJA NAASIKYAYA, SANYAKA GAYANNA, ALPAPRAANA CAYANNA,
    MAHAAPRAANA CAYANNA, ALPAPRAANA JAYANNA, MAHAAPRAANA JAYANNA, TAALUJA NAASIKYAYA,
    TAALUJA SANYOOGA NAAKSIKYAYA, SANYAKA JAYANNA, ALPAPRAANA TTAYANNA, MAHAAPRAANA TTAYANNA,
    ALPAPRAANA DDAYANNA, MAHAAPRAANA DDAYANNA, MUURDHAJA NAYANNA, SANYAKA DDAYANNA,
    ALPAPRAANA TAYANNA, MAHAAPRAANA TAYANNA, ALPAPRAANA DAYANNA, MAHAAPRAANA DAYANNA,
    DANTAJA NAYANNA, , SANYAKA DAYANNA, ALPAPRAANA PAYANNA, MAHAAPRAANA PAYANNA,
    ALPAPRAANA BAYANNA, MAHAAPRAANA BAYANNA, MAYANNA, AMBA BAYANNA, YAYANNA, RAYANNA, ,
    DANTAJA LAYANNA, , , VAYANNA, TAALUJA SAYANNA, MUURDHAJA SAYANNA, DANTAJA SAYANNA, HAYANNA,
    MUURDHAJA LAYANNA, FAYANNA"⟩,
  ⟨0xdca, "SINHALA SIGN AL-", "LAKUNA"⟩,
  ⟨0xdcf, "SINHALA VOWEL SIGN ", "AELA-PILLA, KETTI AEDA-PILLA, DIGA AEDA-PILLA, KETTI IS-PILLA,
    DIGA IS-PILLA, KETTI PAA-PILLA, , DIGA PAA-PILLA, , GAETTA-PILLA, KOMBUVA, DIGA KOMBUVA,
    KOMBU DEKA, KOMBUVA HAA AELA-PILLA, KOMBUVA HAA DIGA AELA-PILLA, KOMBUVA HAA GAYANUKITTA,
    GAYANUKITTA"⟩,
  ⟨0xde6, "SINHALA LITH DIGIT ", "ZERO, ONE, TWO, THREE, FOUR, FIVE, SIX, SEVEN, EIGHT, NINE"⟩,
  ⟨0xdf2, "SINHALA ", "VOWEL SIGN DIGA GAETTA-PILLA, VOWEL SIGN DIGA GAYANUKITTA,
    PUNCTUATION KUNDDALIYA"⟩,
  ⟨0xf00, "TIBETAN SYLLABLE ", "OM"⟩,
  ⟨0xf01, "TIBETAN MARK ", "GTER YIG MGO TRUNCATED A, GTER YIG MGO -UM RNAM BCAD MA,
    GTER YIG MGO -UM GTER TSHEG MA, INITIAL YIG MGO MDUN MA, CLOSING YIG MGO SGAB MA,
    CARET YIG MGO PHUR SHAD MA, YIG MGO TSHEG SHAD MA, SBRUL SHAD, BSKUR YIG MGO,
    BKA- SHOG YIG MGO, INTERSYLLABIC TSHEG, DELIMITER TSHEG BSTAR, SHAD, NYIS SHAD, TSHEG SHAD,
    NYIS TSHEG SHAD, RIN CHEN SPUNGS SHAD, RGYA GRAM SHAD, CARET -DZUD RTAGS ME LONG CAN,
    GTER TSHEG"⟩,
  ⟨0xf15, "TIBETAN LOGOTYPE SIGN ", "CHAD RTAGS, LHAG RTAGS"⟩,
  ⟨0xf17, "TIBETAN ASTROLOGICAL SIGN ", "SGRA GCAN -CHAR RTAGS, -KHYUD PA, SDONG TSHUGS"⟩,
  ⟨0xf1a, "TIBETAN SIGN RDEL ", "DKAR GCIG, DKAR GNYIS, DKAR GSUM, NAG GCIG, NAG GNYIS,
    DKAR RDEL NAG"⟩,
  ⟨0xf20, "TIBETAN DIGIT ", "ZERO, ONE, TWO, THREE, FOUR, FIVE, SIX, SEVEN, EIGHT, NINE"⟩,
  ⟨0xf2a, "TIBETAN DIGIT HALF ", "ONE, TWO, THREE, FOUR, FIVE, SIX, SEVEN, EIGHT, NINE, ZERO"⟩,
  ⟨0xf34, "TIBETAN MARK ", "BSDUS RTAGS, NGAS BZUNG NYI ZLA, CARET -DZUD RTAGS BZHI MIG CAN,
    NGAS BZUNG SGOR RTAGS, CHE MGO, TSA -PHRU, GUG RTAGS GYON, GUG RTAGS GYAS, ANG KHANG GYON,
    ANG KHANG GYAS"⟩,
  ⟨0xf3e, "TIBETAN SIGN ", "YAR TSHES, MAR TSHES"⟩,
  ⟨0xf40, "TIBETAN LETTER ", "KA, KHA, GA, GHA, NGA, CA, CHA, JA, , NYA, TTA, TTHA, DDA, DDHA,
    NNA, TA, THA, DA, DHA, NA, PA, PHA, BA, BHA, MA, TSA, TSHA, DZA, DZHA, WA, ZHA, ZA, -A, YA,
    RA, LA, SHA, SSA, SA, HA, A, KSSA, FIXED-FORM RA, KKA, RRA"⟩,
  ⟨0xf71, "TIBETAN VOWEL SIGN ", "AA, I, II, U, UU, VOCALIC R, VOCALIC RR, VOCALIC L, VOCALIC LL,
    E, EE, O, OO"⟩,
  ⟨0xf7e, "TIBETAN ", "SIGN RJES SU NGA RO, SIGN RNAM BCAD, VOWEL SIGN REVERSED I,
    VOWEL SIGN REVERSED II, SIGN NYI ZLA NAA DA, SIGN SNA LDAN, MARK HALANTA, MARK PALUTA,
    SIGN LCI RTAGS, SIGN YANG RTAGS, SIGN LCE TSA CAN, SIGN MCHU CAN, SIGN GRU CAN RGYINGS,
    SIGN GRU MED RGYINGS, SIGN INVERTED MCHU CAN, SUBJOINED SIGN LCE TSA CAN,
    SUBJOINED SIGN MCHU CAN, SUBJOINED SIGN INVERTED MCHU CAN"⟩,
  ⟨0xf90, "TIBETAN SUBJOINED LETTER ", "KA, KHA, GA, GHA, NGA, CA, CHA, JA, , NYA, TTA, TTHA,
    DDA, DDHA, NNA, TA, THA, DA, DHA, NA, PA, PHA, BA, BHA, MA, TSA, TSHA, DZA, DZHA, WA, ZHA,
    ZA, -A, YA, RA, LA, SHA, SSA, SA, HA, A, KSSA, FIXED-FORM WA, FIXED-FORM YA, FIXED-FORM RA"⟩,
  ⟨0xfbe, "TIBETAN KU RU ", "KHA, KHA BZHI MIG CAN"⟩,
  ⟨0xfc0, "TIBETAN CANTILLATION SIGN ", "HEAVY BEAT, LIGHT BEAT, CANG TE-U, SBUB -CHAL"⟩,
  ⟨0xfc4, "TIBETAN SYMBOL ", "DRIL BU, RDO RJE, PADMA GDAN, RDO RJE RGYA GRAM, PHUR PA, NOR BU,
    NOR BU NYIS -KHYIL, NOR BU GSUM -KHYIL, NOR BU BZHI -KHYIL"⟩,
  ⟨0xfce, "TIBETAN ", "SIGN RDEL NAG RDEL DKAR, SIGN RDEL NAG GSUM, MARK BSKA- SHOG GI MGO RGYAN,
    MARK MNYAM YIG GI MGO RGYAN, MARK NYIS TSHEG, MARK INITIAL BRDA RNYING YIG MGO MDUN MA,
    MARK CLOSING BRDA RNYING YIG MGO SGAB MA"⟩,
  ⟨0xfd5, "", "RIGHT-FACING SVASTI SIGN, LEFT-FACING SVASTI SIGN,
    RIGHT-FACING SVASTI SIGN WITH DOTS, LEFT-FACING SVASTI SIGN WITH DOTS,
    TIBETAN MARK LEADING MCHAN RTAGS, TIBETAN MARK TRAILING MCHAN RTAGS"⟩,
  ⟨0x1900, "LIMBU VOWEL-CARRIER ", "LETTER"⟩,
  ⟨0x1901, "LIMBU LETTER ", "KA, KHA, GA, GHA, NGA, CA, CHA, JA, JHA, YAN, TA, THA, DA, DHA, NA,
    PA, PHA, BA, BHA, MA, YA, RA, LA, WA, SHA, SSA, SA, HA, GYAN, TRA"⟩,
  ⟨0x1920, "LIMBU VOWEL SIGN ", "A, I, U, EE, AI, OO, AU, E, O"⟩,
  ⟨0x1929, "LIMBU SUBJOINED LETTER ", "YA, RA, WA"⟩,
  ⟨0x1930, "LIMBU SMALL LETTER ", "KA, NGA, ANUSVARA, TA, NA, PA, MA, RA, LA"⟩,
  ⟨0x1939, "LIMBU ", "SIGN MUKPHRENG, SIGN KEMPHRENG, SIGN SA-I, , , , , SIGN LOO, , , ,
    EXCLAMATION MARK, QUESTION MARK"⟩,
  ⟨0x1946, "LIMBU DIGIT ", "ZERO, ONE, TWO, THREE, FOUR, FIVE, SIX, SEVEN, EIGHT, NINE"⟩,
  ⟨0x1c00, "LEPCHA LETTER ", "KA, KLA, KHA, GA, GLA, NGA, CA, CHA, JA, NYA, TA, THA, DA, NA, PA,
    PLA, PHA, FA, FLA, BA, BLA, MA, MLA, TSA, TSHA, DZA, YA, RA, LA, HA, HLA, VA, SA, SHA, WA, A"⟩,
  ⟨0x1c24, "LEPCHA SUBJOINED LETTER ", "YA, RA"⟩,
  ⟨0x1c26, "LEPCHA VOWEL SIGN ", "AA, I, O, OO, U, UU, E"⟩,
  ⟨0x1c2d, "LEPCHA CONSONANT SIGN ", "K, M, L, N, P, R, T, NYIN-DO, KANG"⟩,
  ⟨0x1c36, "LEPCHA SIGN ", "RAN, NUKTA"⟩,
  ⟨0x1c3b, "LEPCHA PUNCTUATION ", "TA-ROL, NYET THYOOM TA-ROL, CER-WA, TSHOOK CER-WA, TSHOOK"⟩,
  ⟨0x1c40, "LEPCHA DIGIT ", "ZERO, ONE, TWO, THREE, FOUR, FIVE, SIX, SEVEN, EIGHT, NINE"⟩,
  ⟨0x1c4d, "LEPCHA LETTER ", "TTA, TTHA, DDA"⟩,
  ⟨0x1c50, "OL CHIKI DIGIT ", "ZERO, ONE, TWO, THREE, FOUR, FIVE, SIX, SEVEN, EIGHT, NINE"⟩,
  ⟨0x1c5a, "OL CHIKI LETTER ", "LA, AT, AG, ANG, AL, LAA, AAK, AAJ, AAM, AAW, LI, IS, IH, INY,
    IR, LU, UC, UD, UNN, UY, LE, EP, EDD, EN, ERR, LO, OTT, OB, OV, OH"⟩,
  ⟨0x1c78, "OL CHIKI ", "MU TTUDDAG, GAAHLAA TTUDDAAG, MU-GAAHLAA TTUDDAAG, RELAA, PHAARKAA,
    AHAD, PUNCTUATION MUCAAD, PUNCTUATION DOUBLE MUCAAD"⟩,
  ⟨0x1cc0, "SUNDANESE PUNCTUATION BINDU ", "SURYA, PANGLONG, PURNAMA, CAKRA, LEU SATANGA,
    KA SATANGA, DA SATANGA, BA SATANGA"⟩,
  ⟨0x1cd0, "VEDIC ", "TONE KARSHANA, TONE SHARA, TONE PRENKHA, SIGN NIHSHVASA,
    SIGN YAJURVEDIC MIDLINE SVARITA"⟩,
  ⟨0x1cd5, "VEDIC TONE ", "YAJURVEDIC AGGRAVATED INDEPENDENT SVARITA,
    YAJURVEDIC INDEPENDENT SVARITA, YAJURVEDIC KATHAKA INDEPENDENT SVARITA, CANDRA BELOW,
    YAJURVEDIC KATHAKA INDEPENDENT SVARITA SCHROEDER, DOUBLE SVARITA, TRIPLE SVARITA,
    KATHAKA ANUDATTA, DOT BELOW, TWO DOTS BELOW, THREE DOTS BELOW,
    RIGVEDIC KASHMIRI INDEPENDENT SVARITA, ATHARVAVEDIC INDEPENDENT SVARITA"⟩,
  ⟨0x1ce2, "VEDIC SIGN ", "VISARGA SVARITA, VISARGA UDATTA, REVERSED VISARGA UDATTA,
    VISARGA ANUDATTA, REVERSED VISARGA ANUDATTA, VISARGA UDATTA WITH TAIL,
    VISARGA ANUDATTA WITH TAIL, ANUSVARA ANTARGOMUKHA, ANUSVARA BAHIRGOMUKHA,
    ANUSVARA VAMAGOMUKHA, ANUSVARA VAMAGOMUKHA WITH TAIL, TIRYAK, HEXIFORM LONG ANUSVARA,
    LONG ANUSVARA, RTHANG LONG ANUSVARA, ANUSVARA UBHAYATO MUKHA, ARDHAVISARGA,
    ROTATED ARDHAVISARGA"⟩,
  ⟨0x1cf4, "VEDIC ", "TONE CANDRA ABOVE, SIGN JIHVAMULIYA, SIGN UPADHMANIYA, SIGN ATIKRAMA,
    TONE RING ABOVE, TONE DOUBLE RING ABOVE, SIGN DOUBLE ANUSVARA ANTARGOMUKHA"⟩,
  ⟨0xa800, "SYLOTI NAGRI ", "LETTER A, LETTER I, SIGN DVISVARA, LETTER U, LETTER E, LETTER O,
    SIGN HASANTA, LETTER KO, LETTER KHO, LETTER GO, LETTER GHO, SIGN ANUSVARA"⟩,
  ⟨0xa80c, "SYLOTI NAGRI LETTER ", "CO, CHO, JO, JHO, TTO, TTHO, DDO, DDHO, TO, THO, DO, DHO, NO,
    PO, PHO, BO, BHO, MO, RO, LO, RRO, SO, HO"⟩,
  ⟨0xa823, "SYLOTI NAGRI VOWEL SIGN ", "A, I, U, E, OO"⟩,
  ⟨0xa828, "SYLOTI NAGRI ", "POETRY MARK-1, POETRY MARK-2, POETRY MARK-3, POETRY MARK-4,
    SIGN ALTERNATE HASANTA"⟩,
  ⟨0xa830, "NORTH INDIC FRACTION ", "ONE QUARTER, ONE HALF, THREE QUARTERS, ONE SIXTEENTH,
    ONE EIGHTH, THREE SIXTEENTHS"⟩,
  ⟨0xa836, "NORTH INDIC ", "QUARTER MARK, PLACEHOLDER MARK, RUPEE MARK, QUANTITY MARK"⟩,
  ⟨0xa880, "SAURASHTRA SIGN ", "ANUSVARA, VISARGA"⟩,
  ⟨0xa882, "SAURASHTRA LETTER ", "A, AA, I, II, U, UU, VOCALIC R, VOCALIC RR, VOCALIC L,
    VOCALIC LL, E, EE, AI, O, OO, AU, KA, KHA, GA, GHA, NGA, CA, CHA, JA, JHA, NYA, TTA, TTHA,
    DDA, DDHA, NNA, TA, THA, DA, DHA, NA, PA, PHA, BA, BHA, MA, YA, RA, LA, VA, SHA, SSA, SA, HA,
    LLA"⟩,
  ⟨0xa8b4, "SAURASHTRA CONSONANT SIGN ", "HAARU"⟩,
  ⟨0xa8b5, "SAURASHTRA VOWEL SIGN ", "AA, I, II, U, UU, VOCALIC R, VOCALIC RR, VOCALIC L,
    VOCALIC LL, E, EE, AI, O, OO, AU"⟩,
  ⟨0xa8c4, "SAURASHTRA SIGN ", "VIRAMA, CANDRABINDU"⟩,
  ⟨0xa8ce, "SAURASHTRA ", "DANDA, DOUBLE DANDA"⟩,
  ⟨0xa8d0, "SAURASHTRA DIGIT ", "ZERO, ONE, TWO, THREE, FOUR, FIVE, SIX, SEVEN, EIGHT, NINE"⟩,
  ⟨0xa8e0, "COMBINING DEVANAGARI DIGIT ", "ZERO, ONE, TWO, THREE, FOUR, FIVE, SIX, SEVEN, EIGHT,
    NINE"⟩,
  ⟨0xa8ea, "COMBINING DEVANAGARI ", "LETTER A, LETTER U, LETTER KA, LETTER NA, LETTER PA,
    LETTER RA, LETTER VI, SIGN AVAGRAHA"⟩,
  ⟨0xa8f2, "DEVANAGARI ", "SIGN SPACING CANDRABINDU, SIGN CANDRABINDU VIRAMA,
    SIGN DOUBLE CANDRABINDU VIRAMA, SIGN CANDRABINDU TWO, SIGN CANDRABINDU THREE,
    SIGN CANDRABINDU AVAGRAHA, SIGN PUSHPIKA, GAP FILLER, CARET, HEADSTROKE, SIGN SIDDHAM,
    JAIN OM, LETTER AY, VOWEL SIGN AY"⟩,
  ⟨0xaae0, "MEETEI MAYEK LETTER ", "E, O, CHA, NYA, TTA, TTHA, DDA, DDHA, NNA, SHA, SSA"⟩,
  ⟨0xaaeb, "MEETEI MAYEK VOWEL SIGN ", "II, UU, AAI, AU, AAU"⟩,
  ⟨0xaaf0, "MEETEI MAYEK ", "CHEIKHAN, AHANG KHUDAM, ANJI, SYLLABLE REPETITION MARK,
    WORD REPETITION MARK, VOWEL SIGN VISARGA, VIRAMA"⟩,
  ⟨0xabc0, "MEETEI MAYEK LETTER ", "KOK, SAM, LAI, MIT, PA, NA, CHIL, TIL, KHOU, NGOU, THOU, WAI,
    YANG, HUK, UN, I, PHAM, ATIYA, GOK, JHAM, RAI, BA, JIL, DIL, GHOU, DHOU, BHAM, KOK LONSUM,
    LAI LONSUM, MIT LONSUM, PA LONSUM, NA LONSUM, TIL LONSUM, NGOU LONSUM, I LONSUM"⟩,
  ⟨0xabe3, "MEETEI MAYEK VOWEL SIGN ", "ONAP, INAP, ANAP, YENAP, SOUNAP, UNAP, CHEINAP, NUNG"⟩,
  ⟨0xabeb, "MEETEI MAYEK ", "CHEIKHEI, LUM IYEK, APUN IYEK"⟩,
  ⟨0xabf0, "MEETEI MAYEK DIGIT ", "ZERO, ONE, TWO, THREE, FOUR, FIVE, SIX, SEVEN, EIGHT, NINE"⟩,
  ⟨0x10a00, "KHAROSHTHI ", "LETTER A, VOWEL SIGN I, VOWEL SIGN U, VOWEL SIGN VOCALIC R, ,
    VOWEL SIGN E, VOWEL SIGN O, , , , , , VOWEL LENGTH MARK, SIGN DOUBLE RING BELOW,
    SIGN ANUSVARA, SIGN VISARGA"⟩,
  ⟨0x10a10, "KHAROSHTHI LETTER ", "KA, KHA, GA, GHA, , CA, CHA, JA, , NYA, TTA, TTHA, DDA, DDHA,
    NNA, TA, THA, DA, DHA, NA, PA, PHA, BA, BHA, MA, YA, RA, LA, VA, SHA, SSA, SA, ZA, HA, KKA,
    TTTHA, TTTA, VHA"⟩,
  ⟨0x10a38, "KHAROSHTHI ", "SIGN BAR ABOVE, SIGN CAUDA, SIGN DOT BELOW, , , , , VIRAMA,
    DIGIT ONE, DIGIT TWO, DIGIT THREE, DIGIT FOUR, NUMBER TEN, NUMBER TWENTY, NUMBER ONE HUNDRED,
    NUMBER ONE THOUSAND, FRACTION ONE HALF"⟩,
  ⟨0x10a50, "KHAROSHTHI PUNCTUATION ", "DOT, SMALL CIRCLE, CIRCLE, CRESCENT BAR, MANGALAM, LOTUS,
    DANDA, DOUBLE DANDA, LINES"⟩,
  ⟨0x11000, "BRAHMI SIGN ", "CANDRABINDU, ANUSVARA, VISARGA, JIHVAMULIYA, UPADHMANIYA"⟩,
  ⟨0x11005, "BRAHMI LETTER ", "A, AA, I, II, U, UU, VOCALIC R, VOCALIC RR, VOCALIC L, VOCALIC LL,
    E, AI, O, AU, KA, KHA, GA, GHA, NGA, CA, CHA, JA, JHA, NYA, TTA, TTHA, DDA, DDHA, NNA, TA,
    THA, DA, DHA, NA, PA, PHA, BA, BHA, MA, YA, RA, LA, VA, SHA, SSA, SA, HA, LLA,
    OLD TAMIL LLLA, OLD TAMIL RRA, OLD TAMIL NNNA"⟩,
  ⟨0x11038, "BRAHMI VOWEL SIGN ", "AA, BHATTIPROLU AA, I, II, U, UU, VOCALIC R, VOCALIC RR,
    VOCALIC L, VOCALIC LL, E, AI, O, AU"⟩,
  ⟨0x11046, "BRAHMI ", "VIRAMA, DANDA, DOUBLE DANDA"⟩,
  ⟨0x11049, "BRAHMI PUNCTUATION ", "DOT, DOUBLE DOT, LINE, CRESCENT BAR, LOTUS"⟩,
  ⟨0x11052, "BRAHMI NUMBER ", "ONE, TWO, THREE, FOUR, FIVE, SIX, SEVEN, EIGHT, NINE, TEN, TWENTY,
    THIRTY, FORTY, FIFTY, SIXTY, SEVENTY, EIGHTY, NINETY, ONE HUNDRED, ONE THOUSAND"⟩,
  ⟨0x11066, "BRAHMI DIGIT ", "ZERO, ONE, TWO, THREE, FOUR, FIVE, SIX, SEVEN, EIGHT, NINE"⟩,
  ⟨0x11070, "BRAHMI ", "SIGN OLD TAMIL VIRAMA, LETTER OLD TAMIL SHORT E,
    LETTER OLD TAMIL SHORT O, VOWEL SIGN OLD TAMIL SHORT E, VOWEL SIGN OLD TAMIL SHORT O,
    LETTER OLD TAMIL LLA"⟩,
  ⟨0x1107f, "", "BRAHMI NUMBER JOINER, KAITHI SIGN CANDRABINDU, KAITHI SIGN ANUSVARA,
    KAITHI SIGN VISARGA"⟩,
  ⟨0x11083, "KAITHI LETTER ", "A, AA, I, II, U, UU, E, AI, O, AU, KA, KHA, GA, GHA, NGA, CA, CHA,
    JA, JHA, NYA, TTA, TTHA, DDA, DDDHA, DDHA, RHA, NNA, TA, THA, DA, DHA, NA, PA, PHA, BA, BHA,
    MA, YA, RA, LA, VA, SHA, SSA, SA, HA"⟩,
  ⟨0x110b0, "KAITHI VOWEL SIGN ", "AA, I, II, U, UU, E, AI, O, AU"⟩,
  ⟨0x110b9, "KAITHI ", "SIGN VIRAMA, SIGN NUKTA, ABBREVIATION SIGN, ENUMERATION SIGN,
    NUMBER SIGN, SECTION MARK, DOUBLE SECTION MARK, DANDA, DOUBLE DANDA, VOWEL SIGN VOCALIC R"⟩,
  ⟨0x110cd, "KAITHI NUMBER SIGN ", "ABOVE"⟩,
  ⟨0x110d0, "SORA SOMPENG LETTER ", "SAH, TAH, BAH, CAH, DAH, GAH, MAH, NGAH, LAH, NAH, VAH, PAH,
    YAH, RAH, HAH, KAH, JAH, NYAH, AH, EEH, IH, UH, OH, EH, MAE"⟩,
  ⟨0x110f0, "SORA SOMPENG DIGIT ", "ZERO, ONE, TWO, THREE, FOUR, FIVE, SIX, SEVEN, EIGHT, NINE"⟩,
  ⟨0x11100, "CHAKMA SIGN ", "CANDRABINDU, ANUSVARA, VISARGA"⟩,
  ⟨0x11103, "CHAKMA LETTER ", "AA, I, U, E, KAA, KHAA, GAA, GHAA, NGAA, CAA, CHAA, JAA, JHAA,
    NYAA, TTAA, TTHAA, DDAA, DDHAA, NNAA, TAA, THAA, DAA, DHAA, NAA, PAA, PHAA, BAA, BHAA, MAA,
    YYAA, YAA, RAA, LAA, WAA, SAA, HAA"⟩,
  ⟨0x11127, "CHAKMA VOWEL SIGN ", "A, I, II, U, UU, E, AI, O, AU, OI"⟩,
  ⟨0x11131, "CHAKMA ", "O MARK, AU MARK, VIRAMA, MAAYYAA, , DIGIT ZERO, DIGIT ONE, DIGIT TWO,
    DIGIT THREE, DIGIT FOUR, DIGIT FIVE, DIGIT SIX, DIGIT SEVEN, DIGIT EIGHT, DIGIT NINE,
    SECTION MARK, DANDA, DOUBLE DANDA, QUESTION MARK, LETTER LHAA, VOWEL SIGN AA, VOWEL SIGN EI,
    LETTER VAA"⟩,
  ⟨0x11150, "MAHAJANI LETTER ", "A, I, U, E, O, KA, KHA, GA, GHA, CA, CHA, JA, JHA, NYA, TTA,
    TTHA, DDA, DDHA, NNA, TA, THA, DA, DHA, NA, PA, PHA, BA, BHA, MA, RA, LA, VA, SA, HA, RRA"⟩,
  ⟨0x11173, "MAHAJANI ", "SIGN NUKTA, ABBREVIATION SIGN, SECTION MARK, LIGATURE SHRI"⟩,
  ⟨0x11180, "SHARADA SIGN ", "CANDRABINDU, ANUSVARA, VISARGA"⟩,
  ⟨0x11183, "SHARADA LETTER ", "A, AA, I, II, U, UU, VOCALIC R, VOCALIC RR, VOCALIC L,
    VOCALIC LL, E, AI, O, AU, KA, KHA, GA, GHA, NGA, CA, CHA, JA, JHA, NYA, TTA, TTHA, DDA, DDHA,
    NNA, TA, THA, DA, DHA, NA, PA, PHA, BA, BHA, MA, YA, RA, LA, LLA, VA, SHA, SSA, SA, HA"⟩,
  ⟨0x111b3, "SHARADA VOWEL SIGN ", "AA, I, II, U, UU, VOCALIC R, VOCALIC RR, VOCALIC L,
    VOCALIC LL, E, AI, O, AU"⟩,
  ⟨0x111c0, "SHARADA ", "SIGN VIRAMA, SIGN AVAGRAHA, SIGN JIHVAMULIYA, SIGN UPADHMANIYA, OM,
    DANDA, DOUBLE DANDA, ABBREVIATION SIGN, SEPARATOR, SANDHI MARK, SIGN NUKTA,
    VOWEL MODIFIER MARK, EXTRA SHORT VOWEL MARK, SUTRA MARK, VOWEL SIGN PRISHTHAMATRA E,
    SIGN INVERTED CANDRABINDU, DIGIT ZERO, DIGIT ONE, DIGIT TWO, DIGIT THREE, DIGIT FOUR,
    DIGIT FIVE, DIGIT SIX, DIGIT SEVEN, DIGIT EIGHT, DIGIT NINE, EKAM, SIGN SIDDHAM, HEADSTROKE,
    CONTINUATION SIGN, SECTION MARK-1, SECTION MARK-2"⟩,
  ⟨0x111e1, "SINHALA ARCHAIC DIGIT ", "ONE, TWO, THREE, FOUR, FIVE, SIX, SEVEN, EIGHT, NINE"⟩,
  ⟨0x111ea, "SINHALA ARCHAIC NUMBER ", "TEN, TWENTY, THIRTY, FORTY, FIFTY, SIXTY, SEVENTY,
    EIGHTY, NINETY, ONE HUNDRED, ONE THOUSAND"⟩,
  ⟨0x11200, "KHOJKI LETTER ", "A, AA, I, U, E, AI, O, AU, KA, KHA, GA, GGA, GHA, NGA, CA, CHA,
    JA, JJA, , NYA, TTA, TTHA, DDA, DDHA, NNA, TA, THA, DA, DDDA, DHA, NA, PA, PHA, BA, BBA, BHA,
    MA, YA, RA, LA, VA, SA, HA, LLA"⟩,
  ⟨0x1122c, "KHOJKI VOWEL SIGN ", "AA, I, II, U, E, AI, O, AU"⟩,
  ⟨0x11234, "KHOJKI ", "SIGN ANUSVARA, SIGN VIRAMA, SIGN NUKTA, SIGN SHADDA, DANDA, DOUBLE DANDA,
    WORD SEPARATOR, SECTION MARK, DOUBLE SECTION MARK, ABBREVIATION SIGN, SIGN SUKUN"⟩,
  ⟨0x11280, "MULTANI LETTER ", "A, I, U, E, KA, KHA, GA, , GHA, , CA, CHA, JA, JJA, , NYA, TTA,
    TTHA, DDA, DDDA, DDHA, NNA, TA, THA, DA, DHA, NA, PA, PHA, BA, , BHA, MA, YA, RA, LA, VA, SA,
    HA, RRA, RHA"⟩,
  ⟨0x112a9, "MULTANI SECTION ", "MARK"⟩,
  ⟨0x112b0, "KHUDAWADI LETTER ", "A, AA, I, II, U, UU, E, AI, O, AU, KA, KHA, GA, GGA, GHA, NGA,
    CA, CHA, JA, JJA, JHA, NYA, TTA, TTHA, DDA, DDDA, RRA, DDHA, NNA, TA, THA, DA, DHA, NA, PA,
    PHA, BA, BBA, BHA, MA, YA, RA, LA, VA, SHA, SA, HA"⟩,
  ⟨0x112df, "KHUDAWADI SIGN ", "ANUSVARA"⟩,
  ⟨0x112e0, "KHUDAWADI VOWEL SIGN ", "AA, I, II, U, UU, E, AI, O, AU"⟩,
  ⟨0x112e9, "KHUDAWADI SIGN ", "NUKTA, VIRAMA"⟩,
  ⟨0x112f0, "KHUDAWADI DIGIT ", "ZERO, ONE, TWO, THREE, FOUR, FIVE, SIX, SEVEN, EIGHT, NINE"⟩,
  ⟨0x11300, "GRANTHA SIGN ", "COMBINING ANUSVARA ABOVE, CANDRABINDU, ANUSVARA, VISARGA"⟩,
  ⟨0x11305, "GRANTHA LETTER ", "A, AA, I, II, U, UU, VOCALIC R, VOCALIC L, , , EE, AI, , , OO,
    AU, KA, KHA, GA, GHA, NGA, CA, CHA, JA, JHA, NYA, TTA, TTHA, DDA, DDHA, NNA, TA, THA, DA,
    DHA, NA, , PA, PHA, BA, BHA, MA, YA, RA, , LA, LLA, , VA, SHA, SSA, SA, HA"⟩,
  ⟨0x1133b, "", "COMBINING BINDU BELOW, GRANTHA SIGN NUKTA, GRANTHA SIGN AVAGRAHA"⟩,
  ⟨0x1133e, "GRANTHA VOWEL SIGN ", "AA, I, II, U, UU, VOCALIC R, VOCALIC RR, , , EE, AI, , , OO,
    AU"⟩,
  ⟨0x1134d, "GRANTHA ", "SIGN VIRAMA, , , OM, , , , , , , AU LENGTH MARK, , , , , , SIGN PLUTA,
    LETTER VEDIC ANUSVARA, LETTER VEDIC DOUBLE ANUSVARA, LETTER VOCALIC RR, LETTER VOCALIC LL,
    VOWEL SIGN VOCALIC L, VOWEL SIGN VOCALIC LL"⟩,
  ⟨0x11366, "COMBINING GRANTHA DIGIT ", "ZERO, ONE, TWO, THREE, FOUR, FIVE, SIX"⟩,
  ⟨0x11370, "COMBINING GRANTHA LETTER ", "A, KA, NA, VI, PA"⟩,
  ⟨0x11400, "NEWA LETTER ", "A, AA, I, II, U, UU, VOCALIC R, VOCALIC RR, VOCALIC L, VOCALIC LL,
    E, AI, O, AU, KA, KHA, GA, GHA, NGA, NGHA, CA, CHA, JA, JHA, NYA, NYHA, TTA, TTHA, DDA, DDHA,
    NNA, TA, THA, DA, DHA, NA, NHA, PA, PHA, BA, BHA, MA, MHA, YA, RA, RHA, LA, LHA, WA, SHA,
    SSA, SA, HA"⟩,
  ⟨0x11435, "NEWA VOWEL SIGN ", "AA, I, II, U, UU, VOCALIC R, VOCALIC RR, VOCALIC L, VOCALIC LL,
    E, AI, O, AU"⟩,
  ⟨0x11442, "NEWA ", "SIGN VIRAMA, SIGN CANDRABINDU, SIGN ANUSVARA, SIGN VISARGA, SIGN NUKTA,
    SIGN AVAGRAHA, SIGN FINAL ANUSVARA, OM, SIDDHI, DANDA, DOUBLE DANDA, COMMA, GAP FILLER,
    ABBREVIATION SIGN, DIGIT ZERO, DIGIT ONE, DIGIT TWO, DIGIT THREE, DIGIT FOUR, DIGIT FIVE,
    DIGIT SIX, DIGIT SEVEN, DIGIT EIGHT, DIGIT NINE, DOUBLE COMMA, PLACEHOLDER MARK, ,
    INSERTION SIGN, SANDHI MARK, LETTER VEDIC ANUSVARA, SIGN JIHVAMULIYA, SIGN UPADHMANIYA"⟩,
  ⟨0x11480, "TIRHUTA ", "ANJI"⟩,
  ⟨0x11481, "TIRHUTA LETTER ", "A, AA, I, II, U, UU, VOCALIC R, VOCALIC RR, VOCALIC L,
    VOCALIC LL, E, AI, O, AU, KA, KHA, GA, GHA, NGA, CA, CHA, JA, JHA, NYA, TTA, TTHA, DDA, DDHA,
    NNA, TA, THA, DA, DHA, NA, PA, PHA, BA, BHA, MA, YA, RA, LA, VA, SHA, SSA, SA, HA"⟩,
  ⟨0x114b0, "TIRHUTA VOWEL SIGN ", "AA, I, II, U, UU, VOCALIC R, VOCALIC RR, VOCALIC L,
    VOCALIC LL, E, SHORT E, AI, O, SHORT O, AU"⟩,
  ⟨0x114bf, "TIRHUTA ", "SIGN CANDRABINDU, SIGN ANUSVARA, SIGN VISARGA, SIGN VIRAMA, SIGN NUKTA,
    SIGN AVAGRAHA, GVANG, ABBREVIATION SIGN, OM"⟩,
  ⟨0x114d0, "TIRHUTA DIGIT ", "ZERO, ONE, TWO, THREE, FOUR, FIVE, SIX, SEVEN, EIGHT, NINE"⟩,
  ⟨0x11580, "SIDDHAM LETTER ", "A, AA, I, II, U, UU, VOCALIC R, VOCALIC RR, VOCALIC L,
    VOCALIC LL, E, AI, O, AU, KA, KHA, GA, GHA, NGA, CA, CHA, JA, JHA, NYA, TTA, TTHA, DDA, DDHA,
    NNA, TA, THA, DA, DHA, NA, PA, PHA, BA, BHA, MA, YA, RA, LA, VA, SHA, SSA, SA, HA"⟩,
  ⟨0x115af, "SIDDHAM VOWEL SIGN ", "AA, I, II, U, UU, VOCALIC R, VOCALIC RR, , , E, AI, O, AU"⟩,
  ⟨0x115bc, "SIDDHAM ", "SIGN CANDRABINDU, SIGN ANUSVARA, SIGN VISARGA, SIGN VIRAMA, SIGN NUKTA,
    SIGN SIDDHAM, DANDA, DOUBLE DANDA, SEPARATOR DOT, SEPARATOR BAR, REPETITION MARK-1,
    REPETITION MARK-2, REPETITION MARK-3, END OF TEXT MARK"⟩,
  ⟨0x115ca, "SIDDHAM SECTION MARK ", "WITH TRIDENT AND U-SHAPED ORNAMENTS,
    WITH TRIDENT AND DOTTED CRESCENTS, WITH RAYS AND DOTTED CRESCENTS,
    WITH RAYS AND DOTTED DOUBLE CRESCENTS, WITH RAYS AND DOTTED TRIPLE CRESCENTS, DOUBLE RING,
    DOUBLE RING WITH RAYS, WITH DOUBLE CRESCENTS, WITH TRIPLE CRESCENTS,
    WITH QUADRUPLE CRESCENTS, WITH SEPTUPLE CRESCENTS, WITH CIRCLES AND RAYS,
    WITH CIRCLES AND TWO ENCLOSURES, WITH CIRCLES AND FOUR ENCLOSURES"⟩,
  ⟨0x115d8, "SIDDHAM LETTER ", "THREE-CIRCLE ALTERNATE I, TWO-CIRCLE ALTERNATE I,
    TWO-CIRCLE ALTERNATE II, ALTERNATE U"⟩,
  ⟨0x115dc, "SIDDHAM VOWEL SIGN ALTERNATE ", "U, UU"⟩,
  ⟨0x11600, "MODI LETTER ", "A, AA, I, II, U, UU, VOCALIC R, VOCALIC RR, VOCALIC L, VOCALIC LL,
    E, AI, O, AU, KA, KHA, GA, GHA, NGA, CA, CHA, JA, JHA, NYA, TTA, TTHA, DDA, DDHA, NNA, TA,
    THA, DA, DHA, NA, PA, PHA, BA, BHA, MA, YA, RA, LA, VA, SHA, SSA, SA, HA, LLA"⟩,
  ⟨0x11630, "MODI VOWEL SIGN ", "AA, I, II, U, UU, VOCALIC R, VOCALIC RR, VOCALIC L, VOCALIC LL,
    E, AI, O, AU"⟩,
  ⟨0x1163d, "MODI ", "SIGN ANUSVARA, SIGN VISARGA, SIGN VIRAMA, SIGN ARDHACANDRA, DANDA,
    DOUBLE DANDA, ABBREVIATION SIGN, SIGN HUVA"⟩,
  ⟨0x11650, "MODI DIGIT ", "ZERO, ONE, TWO, THREE, FOUR, FIVE, SIX, SEVEN, EIGHT, NINE"⟩,
  ⟨0x11660, "MONGOLIAN ", "BIRGA WITH ORNAMENT, ROTATED BIRGA, DOUBLE BIRGA WITH ORNAMENT,
    TRIPLE BIRGA WITH ORNAMENT, BIRGA WITH DOUBLE ORNAMENT, ROTATED BIRGA WITH ORNAMENT,
    ROTATED BIRGA WITH DOUBLE ORNAMENT, INVERTED BIRGA, INVERTED BIRGA WITH DOUBLE ORNAMENT,
    SWIRL BIRGA, SWIRL BIRGA WITH ORNAMENT, SWIRL BIRGA WITH DOUBLE ORNAMENT,
    TURNED SWIRL BIRGA WITH DOUBLE ORNAMENT"⟩,
  ⟨0x11680, "TAKRI LETTER ", "A, AA, I, II, U, UU, E, AI, O, AU, KA, KHA, GA, GHA, NGA, CA, CHA,
    JA, JHA, NYA, TTA, TTHA, DDA, DDHA, NNA, TA, THA, DA, DHA, NA, PA, PHA, BA, BHA, MA, YA, RA,
    LA, VA, SHA, SA, HA, RRA"⟩,
  ⟨0x116ab, "TAKRI SIGN ", "ANUSVARA, VISARGA"⟩,
  ⟨0x116ad, "TAKRI VOWEL SIGN ", "AA, I, II, U, UU, E, AI, O, AU"⟩,
  ⟨0x116b6, "TAKRI ", "SIGN VIRAMA, SIGN NUKTA, LETTER ARCHAIC KHA, ABBREVIATION SIGN"⟩,
  ⟨0x116c0, "TAKRI DIGIT ", "ZERO, ONE, TWO, THREE, FOUR, FIVE, SIX, SEVEN, EIGHT, NINE"⟩,
  ⟨0x11700, "AHOM LETTER ", "KA, KHA, NGA, NA, TA, ALTERNATE TA, PA, PHA, BA, MA, JA, CHA, THA,
    RA, LA, SA, NYA, HA, A, DA, DHA, GA, ALTERNATE GA, GHA, BHA, JHA, ALTERNATE BA"⟩,
  ⟨0x1171d, "AHOM CONSONANT SIGN MEDIAL ", "LA, RA, LIGATING RA"⟩,
  ⟨0x11720, "AHOM VOWEL SIGN ", "A, AA, I, II, U, UU, E, AW, O, AI, AM"⟩,
  ⟨0x1172b, "AHOM ", "SIGN KILLER, , , , , DIGIT ZERO, DIGIT ONE, DIGIT TWO, DIGIT THREE,
    DIGIT FOUR, DIGIT FIVE, DIGIT SIX, DIGIT SEVEN, DIGIT EIGHT, DIGIT NINE, NUMBER TEN,
    NUMBER TWENTY, SIGN SMALL SECTION, SIGN SECTION, SIGN RULAI, SYMBOL VI"⟩,
  ⟨0x11740, "AHOM LETTER ", "CA, TTA, TTHA, DDA, DDHA, NNA, LLA"⟩,
  ⟨0x11800, "DOGRA LETTER ", "A, AA, I, II, U, UU, E, AI, O, AU, KA, KHA, GA, GHA, NGA, CA, CHA,
    JA, JHA, NYA, TTA, TTHA, DDA, DDHA, NNA, TA, THA, DA, DHA, NA, PA, PHA, BA, BHA, MA, YA, RA,
    LA, VA, SHA, SSA, SA, HA, RRA"⟩,
  ⟨0x1182c, "DOGRA VOWEL SIGN ", "AA, I, II, U, UU, VOCALIC R, VOCALIC RR, E, AI, O, AU"⟩,
  ⟨0x11837, "DOGRA ", "SIGN ANUSVARA, SIGN VISARGA, SIGN VIRAMA, SIGN NUKTA, ABBREVIATION SIGN"⟩,
  ⟨0x118a0, "WARANG CITI CAPITAL LETTER ", "NGAA, A, WI, YU, YA, YO, II, UU, E, O, ANG, GA, KO,
    ENY, YUJ, UC, ENN, ODD, TTE, NUNG, DA, AT, AM, BU, PU, HIYO, HOLO, HORR, HAR, SSUU, SII, VIYO"⟩,
  ⟨0x118c0, "WARANG CITI SMALL LETTER ", "NGAA, A, WI, YU, YA, YO, II, UU, E, O, ANG, GA, KO,
    ENY, YUJ, UC, ENN, ODD, TTE, NUNG, DA, AT, AM, BU, PU, HIYO, HOLO, HORR, HAR, SSUU, SII, VIYO"⟩,
  ⟨0x118e0, "WARANG CITI DIGIT ", "ZERO, ONE, TWO, THREE, FOUR, FIVE, SIX, SEVEN, EIGHT, NINE"⟩,
  ⟨0x118ea, "WARANG CITI NUMBER ", "TEN, TWENTY, THIRTY, FORTY, FIFTY, SIXTY, SEVENTY, EIGHTY,
    NINETY"⟩,
  ⟨0x118ff, "WARANG CITI ", "OM"⟩,
  ⟨0x11900, "DIVES AKURU LETTER ", "A, AA, I, II, U, UU, E, , , O, , , KA, KHA, GA, GHA, NGA, CA,
    CHA, JA, , NYA, TTA, , DDA, DDHA, NNA, TA, THA, DA, DHA, NA, PA, PHA, BA, BHA, MA, YA, YYA,
    RA, LA, VA, SHA, SSA, SA, HA, LLA, ZA"⟩,
  ⟨0x11930, "DIVES AKURU VOWEL SIGN ", "AA, I, II, U, UU, E, , AI, O"⟩,
  ⟨0x1193b, "DIVES AKURU ", "SIGN ANUSVARA, SIGN CANDRABINDU, SIGN HALANTA, VIRAMA,
    PREFIXED NASAL SIGN, MEDIAL YA, INITIAL RA, MEDIAL RA, SIGN NUKTA, DOUBLE DANDA, GAP FILLER,
    END OF TEXT MARK"⟩,
  ⟨0x11950, "DIVES AKURU DIGIT ", "ZERO, ONE, TWO, THREE, FOUR, FIVE, SIX, SEVEN, EIGHT, NINE"⟩,
  ⟨0x119a0, "NANDINAGARI LETTER ", "A, AA, I, II, U, UU, VOCALIC R, VOCALIC RR, , , E, AI, O, AU,
    KA, KHA, GA, GHA, NGA, CA, CHA, JA, JHA, NYA, TTA, TTHA, DDA, DDHA, NNA, TA, THA, DA, DHA,
    NA, PA, PHA, BA, BHA, MA, YA, RA, LA, VA, SHA, SSA, SA, HA, LLA, RRA"⟩,
  ⟨0x119d1, "NANDINAGARI VOWEL SIGN ", "AA, I, II, U, UU, VOCALIC R, VOCALIC RR, , , E, AI, O, AU"⟩,
  ⟨0x119de, "NANDINAGARI ", "SIGN ANUSVARA, SIGN VISARGA, SIGN VIRAMA, SIGN AVAGRAHA,
    SIGN SIDDHAM, HEADSTROKE, VOWEL SIGN PRISHTHAMATRA E"⟩,
  ⟨0x11a00, "ZANABAZAR SQUARE LETTER ", "A"⟩,
  ⟨0x11a01, "ZANABAZAR SQUARE VOWEL ", "SIGN I, SIGN UE, SIGN U, SIGN E, SIGN OE, SIGN O,
    SIGN AI, SIGN AU, SIGN REVERSED I, LENGTH MARK"⟩,
  ⟨0x11a0b, "ZANABAZAR SQUARE LETTER ", "KA, KHA, GA, GHA, NGA, CA, CHA, JA, NYA, TTA, TTHA, DDA,
    DDHA, NNA, TA, THA, DA, DHA, NA, PA, PHA, BA, BHA, MA, TSA, TSHA, DZA, DZHA, ZHA, ZA, -A, YA,
    RA, LA, VA, SHA, SSA, SA, HA, KSSA"⟩,
  ⟨0x11a33, "ZANABAZAR SQUARE ", "FINAL CONSONANT MARK, SIGN VIRAMA, SIGN CANDRABINDU,
    SIGN CANDRABINDU WITH ORNAMENT, SIGN CANDRA WITH ORNAMENT, SIGN ANUSVARA, SIGN VISARGA,
    CLUSTER-INITIAL LETTER RA, CLUSTER-FINAL LETTER YA, CLUSTER-FINAL LETTER RA,
    CLUSTER-FINAL LETTER LA, CLUSTER-FINAL LETTER VA, INITIAL HEAD MARK, CLOSING HEAD MARK,
    MARK TSHEG, MARK SHAD, MARK DOUBLE SHAD, MARK LONG TSHEG, INITIAL DOUBLE-LINED HEAD MARK,
    CLOSING DOUBLE-LINED HEAD MARK, SUBJOINER"⟩,
  ⟨0x11a50, "SOYOMBO LETTER ", "A"⟩,
  ⟨0x11a51, "SOYOMBO VOWEL SIGN ", "I, UE, U, E, O, OE, AI, AU, VOCALIC R, VOCALIC L"⟩,
  ⟨0x11a5b, "SOYOMBO VOWEL LENGTH ", "MARK"⟩,
  ⟨0x11a5c, "SOYOMBO LETTER ", "KA, KHA, GA, GHA, NGA, CA, CHA, JA, JHA, NYA, TTA, TTHA, DDA,
    DDHA, NNA, TA, THA, DA, DHA, NA, PA, PHA, BA, BHA, MA, TSA, TSHA, DZA, ZHA, ZA, -A, YA, RA,
    LA, VA, SHA, SSA, SA, HA, KSSA"⟩,
  ⟨0x11a84, "SOYOMBO SIGN ", "JIHVAMULIYA, UPADHMANIYA"⟩,
  ⟨0x11a86, "SOYOMBO CLUSTER-INITIAL LETTER ", "RA, LA, SHA, SA"⟩,
  ⟨0x11a8a, "SOYOMBO FINAL CONSONANT SIGN ", "G, K, NG, D, N, B, M, R, L, SH, S, -A"⟩,
  ⟨0x11a96, "SOYOMBO ", "SIGN ANUSVARA, SIGN VISARGA, GEMINATION MARK, SUBJOINER, MARK TSHEG,
    MARK SHAD, MARK DOUBLE SHAD, MARK PLUTA, HEAD MARK WITH MOON AND SUN AND TRIPLE FLAME,
    HEAD MARK WITH MOON AND SUN AND FLAME, HEAD MARK WITH MOON AND SUN, TERMINAL MARK-1,
    TERMINAL MARK-2"⟩,
  ⟨0x11ac0, "PAU CIN HAU LETTER ", "PA, KA, LA, MA, DA, ZA, VA, NGA, HA, GA, KHA, SA, BA, CA, TA,
    THA, NA, PHA, RA, FA, CHA, A, E, I, O, U, UA, IA"⟩,
  ⟨0x11adc, "PAU CIN HAU LETTER FINAL ", "P, K, T, M, N, L, W, NG, Y"⟩,
  ⟨0x11ae5, "PAU CIN HAU ", "RISING TONE LONG, RISING TONE, SANDHI GLOTTAL STOP,
    RISING TONE LONG FINAL, RISING TONE FINAL, SANDHI GLOTTAL STOP FINAL, SANDHI TONE LONG,
    SANDHI TONE, SANDHI TONE LONG FINAL, SANDHI TONE FINAL, MID-LEVEL TONE, GLOTTAL STOP VARIANT,
    MID-LEVEL TONE LONG FINAL, MID-LEVEL TONE FINAL, LOW-FALLING TONE LONG, LOW-FALLING TONE,
    GLOTTAL STOP, LOW-FALLING TONE LONG FINAL, LOW-FALLING TONE FINAL, GLOTTAL STOP FINAL"⟩,
  ⟨0x11c00, "BHAIKSUKI LETTER ", "A, AA, I, II, U, UU, VOCALIC R, VOCALIC RR, VOCALIC L, , E, AI,
    O, AU, KA, KHA, GA, GHA, NGA, CA, CHA, JA, JHA, NYA, TTA, TTHA, DDA, DDHA, NNA, TA, THA, DA,
    DHA, NA, PA, PHA, BA, BHA, MA, YA, RA, LA, VA, SHA, SSA, SA, HA"⟩,
  ⟨0x11c2f, "BHAIKSUKI VOWEL SIGN ", "AA, I, II, U, UU, VOCALIC R, VOCALIC RR, VOCALIC L, , E,
    AI, O, AU"⟩,
  ⟨0x11c3c, "BHAIKSUKI ", "SIGN CANDRABINDU, SIGN ANUSVARA, SIGN VISARGA, SIGN VIRAMA,
    SIGN AVAGRAHA, DANDA, DOUBLE DANDA, WORD SEPARATOR, GAP FILLER-1, GAP FILLER-2"⟩,
  ⟨0x11c50, "BHAIKSUKI DIGIT ", "ZERO, ONE, TWO, THREE, FOUR, FIVE, SIX, SEVEN, EIGHT, NINE"⟩,
  ⟨0x11c5a, "BHAIKSUKI NUMBER ", "ONE, TWO, THREE, FOUR, FIVE, SIX, SEVEN, EIGHT, NINE, TEN,
    TWENTY, THIRTY, FORTY, FIFTY, SIXTY, SEVENTY, EIGHTY, NINETY"⟩,
  ⟨0x11c6c, "", "BHAIKSUKI HUNDREDS UNIT MARK, , , , MARCHEN HEAD MARK, MARCHEN MARK SHAD"⟩,
  ⟨0x11c72, "MARCHEN LETTER ", "KA, KHA, GA, NGA, CA, CHA, JA, NYA, TA, THA, DA, NA, PA, PHA, BA,
    MA, TSA, TSHA, DZA, WA, ZHA, ZA, -A, YA, RA, LA, SHA, SA, HA, A"⟩,
  ⟨0x11c92, "MARCHEN SUBJOINED LETTER ", "KA, KHA, GA, NGA, CA, CHA, JA, NYA, TA, THA, DA, NA,
    PA, PHA, BA, MA, TSA, TSHA, DZA, WA, ZHA, ZA, , YA, RA, LA, SHA, SA, HA, A"⟩,
  ⟨0x11cb0, "MARCHEN VOWEL SIGN ", "AA, I, U, E, O"⟩,
  ⟨0x11cb5, "MARCHEN SIGN ", "ANUSVARA, CANDRABINDU"⟩,
  ⟨0x11d00, "MASARAM GONDI LETTER ", "A, AA, I, II, U, UU, E, , AI, O, , AU, KA, KHA, GA, GHA,
    NGA, CA, CHA, JA, JHA, NYA, TTA, TTHA, DDA, DDHA, NNA, TA, THA, DA, DHA, NA, PA, PHA, BA,
    BHA, MA, YA, RA, LA, VA, SHA, SSA, SA, HA, LLA, KSSA, JNYA, TRA"⟩,
  ⟨0x11d31, "MASARAM GONDI VOWEL SIGN ", "AA, I, II, U, UU, VOCALIC R, , , , E, , AI, O, , AU"⟩,
  ⟨0x11d40, "MASARAM GONDI ", "SIGN ANUSVARA, SIGN VISARGA, SIGN NUKTA, SIGN CANDRA,
    SIGN HALANTA, VIRAMA, REPHA, RA-KARA"⟩,
  ⟨0x11d50, "MASARAM GONDI DIGIT ", "ZERO, ONE, TWO, THREE, FOUR, FIVE, SIX, SEVEN, EIGHT, NINE"⟩,
  ⟨0x11d60, "GUNJALA GONDI LETTER ", "A, AA, I, II, U, UU, , EE, AI, , OO, AU, YA, VA, BA, BHA,
    MA, KA, KHA, TA, THA, LA, GA, GHA, DA, DHA, NA, CA, CHA, TTA, TTHA, LLA, JA, JHA, DDA, DDHA,
    NGA, PA, PHA, HA, RA, SA"⟩,
  ⟨0x11d8a, "GUNJALA GONDI VOWEL SIGN ", "AA, I, II, U, UU, , EE, AI, , OO, AU"⟩,
  ⟨0x11d95, "GUNJALA GONDI ", "SIGN ANUSVARA, SIGN VISARGA, VIRAMA, OM"⟩,
  ⟨0x11da0, "GUNJALA GONDI DIGIT ", "ZERO, ONE, TWO, THREE, FOUR, FIVE, SIX, SEVEN, EIGHT, NINE"⟩,
  ⟨0x11ee0, "MAKASAR LETTER ", "KA, GA, NGA, PA, BA, MA, TA, DA, NA, CA, JA, NYA, YA, RA, LA, VA,
    SA, A"⟩,
  ⟨0x11ef2, "MAKASAR ", "ANGKA, VOWEL SIGN I, VOWEL SIGN U, VOWEL SIGN E, VOWEL SIGN O,
    PASSIMBANG, END OF SECTION"⟩,
  ⟨0x11fb0, "LISU LETTER ", "YHA"⟩,
  ⟨0x11fc0, "TAMIL FRACTION ", "ONE THREE-HUNDRED-AND-TWENTIETH, ONE ONE-HUNDRED-AND-SIXTIETH,
    ONE EIGHTIETH, ONE SIXTY-FOURTH, ONE FORTIETH, ONE THIRTY-SECOND, THREE EIGHTIETHS,
    THREE SIXTY-FOURTHS, ONE TWENTIETH, ONE SIXTEENTH-1, ONE SIXTEENTH-2, ONE TENTH, ONE EIGHTH,
    THREE TWENTIETHS, THREE SIXTEENTHS, ONE FIFTH, ONE QUARTER, ONE HALF-1, ONE HALF-2,
    THREE QUARTERS, DOWNSCALING FACTOR KIIZH"⟩,
  ⟨0x11fd5, "TAMIL SIGN ", "NEL, CEVITU, AAZHAAKKU, UZHAKKU, MUUVUZHAKKU, KURUNI, PATHAKKU,
    MUKKURUNI, KAACU, PANAM, PON, VARAAKAN, PAARAM, KUZHI, VELI"⟩,
  ⟨0x11fe4, "TAMIL ", "WET CULTIVATION SIGN, DRY CULTIVATION SIGN, LAND SIGN, SALT PAN SIGN,
    TRADITIONAL CREDIT SIGN, TRADITIONAL NUMBER SIGN, CURRENT SIGN, AND ODD SIGN, SPENT SIGN,
    TOTAL SIGN, IN POSSESSION SIGN, STARTING FROM SIGN, SIGN MUTHALIYA, SIGN VAKAIYARAA"⟩,
  ⟨0x11fff, "TAMIL PUNCTUATION END OF ", "TEXT"⟩,
  ⟨0x16a40, "MRO LETTER ", "TA, NGI, YO, MIM, BA, DA, A, PHI, KHAI, HAO, DAI, CHU, KEAAE, OL,
    MAEM, NIN, PA, OO, O, RO, SHI, THEA, EA, WA, E, KO, LAN, LA, HAI, RI, TEK"⟩,
  ⟨0x16a60, "MRO DIGIT ", "ZERO, ONE, TWO, THREE, FOUR, FIVE, SIX, SEVEN, EIGHT, NINE"⟩,
  ⟨0x16a6e, "MRO ", "DANDA, DOUBLE DANDA"⟩,
  ⟨0x16a70, "TANGSA LETTER ", "OZ, OC, OQ, OX, AZ, AC, AQ, AX, VZ, VC, VQ, VX, EZ, EC, EQ, EX,
    IZ, IC, IQ, IX, UZ, UC, UQ, UX, AWZ, AWC, AWQ, AWX, UIZ, UIC, UIQ, UIX, FINAL NG, LONG UEX,
    SHORT UEZ, SHORT AWX, UEC, UEZ, UEQ, UEX, UIUZ, UIUC, UIUQ, UIUX, MZ, MC, MQ, MX, KA, KHA,
    GA, NGA, SA, YA, WA, PA, NYA, PHA, BA, MA, NA, HA, LA, HTA, TA, DA, RA, NHA, SHA, CA, TSA,
    GHA, HTTA, THA, XA, FA, DHA, CHA, ZA"⟩,
  ⟨0x16ac0, "TANGSA DIGIT ", "ZERO, ONE, TWO, THREE, FOUR, FIVE, SIX, SEVEN, EIGHT, NINE"⟩,
  ⟨0x1e290, "TOTO LETTER ", "PA, BA, TA, DA, KA, GA, MA, NA, NGA, SA, CHA, YA, WA, JA, HA, RA,
    LA, I, BREATHY I, IU, BREATHY IU, U, E, BREATHY E, EO, BREATHY EO, O, AE, BREATHY AE, A"⟩,
  ⟨0x1e2ae, "TOTO SIGN RISING ", "TONE"⟩,
  ⟨0x1e2c0, "WANCHO LETTER ", "AA, A, BA, CA, DA, GA, YA, PHA, LA, NA, PA, TA, THA, FA, SA, SHA,
    JA, ZA, WA, VA, KA, O, AU, RA, MA, KHA, HA, E, I, NGA, U, LLHA, TSA, TRA, ONG, AANG, ANG,
    ING, ON, EN, AAN, NYA, UEN, YIH"⟩,
  ⟨0x1e2ec, "WANCHO TONE ", "TUP, TUPNI, KOI, KOINI"⟩,
  ⟨0x1e2f0, "WANCHO DIGIT ", "ZERO, ONE, TWO, THREE, FOUR, FIVE, SIX, SEVEN, EIGHT, NINE"⟩,
  ⟨0x1e2ff, "WANCHO NGUN ", "SIGN"⟩]

end NameTag.CharacterName
