import NameTag.Text.CharacterName.Block

/-!
# Names of characters of Eastern Europe and the Caucasus

Cyrillic, Glagolitic, Armenian, Georgian and scripts that are no longer written, such as Old Hungarian.
-/

namespace NameTag.CharacterName

def eastEuropeBlocks : List Block := [
  ⟨0x400, "CYRILLIC CAPITAL LETTER ", "IE WITH GRAVE, IO, DJE, GJE, UKRAINIAN IE, DZE,
    BYELORUSSIAN-UKRAINIAN I, YI, JE, LJE, NJE, TSHE, KJE, I WITH GRAVE, SHORT U, DZHE, A, BE,
    VE, GHE, DE, IE, ZHE, ZE, I, SHORT I, KA, EL, EM, EN, O, PE, ER, ES, TE, U, EF, HA, TSE, CHE,
    SHA, SHCHA, HARD SIGN, YERU, SOFT SIGN, E, YU, YA"⟩,
  ⟨0x430, "CYRILLIC SMALL LETTER ", "A, BE, VE, GHE, DE, IE, ZHE, ZE, I, SHORT I, KA, EL, EM, EN,
    O, PE, ER, ES, TE, U, EF, HA, TSE, CHE, SHA, SHCHA, HARD SIGN, YERU, SOFT SIGN, E, YU, YA,
    IE WITH GRAVE, IO, DJE, GJE, UKRAINIAN IE, DZE, BYELORUSSIAN-UKRAINIAN I, YI, JE, LJE, NJE,
    TSHE, KJE, I WITH GRAVE, SHORT U, DZHE"⟩,
  ⟨0x460, "CYRILLIC ", "CAPITAL LETTER OMEGA, SMALL LETTER OMEGA, CAPITAL LETTER YAT,
    SMALL LETTER YAT, CAPITAL LETTER IOTIFIED E, SMALL LETTER IOTIFIED E,
    CAPITAL LETTER LITTLE YUS, SMALL LETTER LITTLE YUS, CAPITAL LETTER IOTIFIED LITTLE YUS,
    SMALL LETTER IOTIFIED LITTLE YUS, CAPITAL LETTER BIG YUS, SMALL LETTER BIG YUS,
    CAPITAL LETTER IOTIFIED BIG YUS, SMALL LETTER IOTIFIED BIG YUS, CAPITAL LETTER KSI,
    SMALL LETTER KSI, CAPITAL LETTER PSI, SMALL LETTER PSI, CAPITAL LETTER FITA,
    SMALL LETTER FITA, CAPITAL LETTER IZHITSA, SMALL LETTER IZHITSA,
    CAPITAL LETTER IZHITSA WITH DOUBLE GRAVE ACCENT,
    SMALL LETTER IZHITSA WITH DOUBLE GRAVE ACCENT, CAPITAL LETTER UK, SMALL LETTER UK,
    CAPITAL LETTER ROUND OMEGA, SMALL LETTER ROUND OMEGA, CAPITAL LETTER OMEGA WITH TITLO,
    SMALL LETTER OMEGA WITH TITLO, CAPITAL LETTER OT, SMALL LETTER OT, CAPITAL LETTER KOPPA,
    SMALL LETTER KOPPA, THOUSANDS SIGN"⟩,
  ⟨0x483, "COMBINING CYRILLIC ", "TITLO, PALATALIZATION, DASIA PNEUMATA, PSILI PNEUMATA,
    POKRYTIE, HUNDRED THOUSANDS SIGN, MILLIONS SIGN"⟩,
  ⟨0x48a, "CYRILLIC ", "CAPITAL LETTER SHORT I WITH TAIL, SMALL LETTER SHORT I WITH TAIL,
    CAPITAL LETTER SEMISOFT SIGN, SMALL LETTER SEMISOFT SIGN, CAPITAL LETTER ER WITH TICK,
    SMALL LETTER ER WITH TICK, CAPITAL LETTER GHE WITH UPTURN, SMALL LETTER GHE WITH UPTURN,
    CAPITAL LETTER GHE WITH STROKE, SMALL LETTER GHE WITH STROKE,
    CAPITAL LETTER GHE WITH MIDDLE HOOK, SMALL LETTER GHE WITH MIDDLE HOOK,
    CAPITAL LETTER ZHE WITH DESCENDER, SMALL LETTER ZHE WITH DESCENDER,
    CAPITAL LETTER ZE WITH DESCENDER, SMALL LETTER ZE WITH DESCENDER,
    CAPITAL LETTER KA WITH DESCENDER, SMALL LETTER KA WITH DESCENDER,
    CAPITAL LETTER KA WITH VERTICAL STROKE, SMALL LETTER KA WITH VERTICAL STROKE,
    CAPITAL LETTER KA WITH STROKE, SMALL LETTER KA WITH STROKE, CAPITAL LETTER BASHKIR KA,
    SMALL LETTER BASHKIR KA, CAPITAL LETTER EN WITH DESCENDER, SMALL LETTER EN WITH DESCENDER,
    CAPITAL LIGATURE EN GHE, SMALL LIGATURE EN GHE, CAPITAL LETTER PE WITH MIDDLE HOOK,
    SMALL LETTER PE WITH MIDDLE HOOK, CAPITAL LETTER ABKHASIAN HA, SMALL LETTER ABKHASIAN HA,
    CAPITAL LETTER ES WITH DESCENDER, SMALL LETTER ES WITH DESCENDER,
    CAPITAL LETTER TE WITH DESCENDER, SMALL LETTER TE WITH DESCENDER, CAPITAL LETTER STRAIGHT U,
    SMALL LETTER STRAIGHT U, CAPITAL LETTER STRAIGHT U WITH STROKE,
    SMALL LETTER STRAIGHT U WITH STROKE, CAPITAL LETTER HA WITH DESCENDER,
    SMALL LETTER HA WITH DESCENDER, CAPITAL LIGATURE TE TSE, SMALL LIGATURE TE TSE,
    CAPITAL LETTER CHE WITH DESCENDER, SMALL LETTER CHE WITH DESCENDER,
    CAPITAL LETTER CHE WITH VERTICAL STROKE, SMALL LETTER CHE WITH VERTICAL STROKE,
    CAPITAL LETTER SHHA, SMALL LETTER SHHA, CAPITAL LETTER ABKHASIAN CHE,
    SMALL LETTER ABKHASIAN CHE, CAPITAL LETTER ABKHASIAN CHE WITH DESCENDER,
    SMALL LETTER ABKHASIAN CHE WITH DESCENDER, LETTER PALOCHKA, CAPITAL LETTER ZHE WITH BREVE,
    SMALL LETTER ZHE WITH BREVE, CAPITAL LETTER KA WITH HOOK, SMALL LETTER KA WITH HOOK,
    CAPITAL LETTER EL WITH TAIL, SMALL LETTER EL WITH TAIL, CAPITAL LETTER EN WITH HOOK,
    SMALL LETTER EN WITH HOOK, CAPITAL LETTER EN WITH TAIL, SMALL LETTER EN WITH TAIL,
    CAPITAL LETTER KHAKASSIAN CHE, SMALL LETTER KHAKASSIAN CHE, CAPITAL LETTER EM WITH TAIL,
    SMALL LETTER EM WITH TAIL, SMALL LETTER PALOCHKA, CAPITAL LETTER A WITH BREVE,
    SMALL LETTER A WITH BREVE, CAPITAL LETTER A WITH DIAERESIS, SMALL LETTER A WITH DIAERESIS,
    CAPITAL LIGATURE A IE, SMALL LIGATURE A IE, CAPITAL LETTER IE WITH BREVE,
    SMALL LETTER IE WITH BREVE, CAPITAL LETTER SCHWA, SMALL LETTER SCHWA,
    CAPITAL LETTER SCHWA WITH DIAERESIS, SMALL LETTER SCHWA WITH DIAERESIS,
    CAPITAL LETTER ZHE WITH DIAERESIS, SMALL LETTER ZHE WITH DIAERESIS,
    CAPITAL LETTER ZE WITH DIAERESIS, SMALL LETTER ZE WITH DIAERESIS,
    CAPITAL LETTER ABKHASIAN DZE, SMALL LETTER ABKHASIAN DZE, CAPITAL LETTER I WITH MACRON,
    SMALL LETTER I WITH MACRON, CAPITAL LETTER I WITH DIAERESIS, SMALL LETTER I WITH DIAERESIS,
    CAPITAL LETTER O WITH DIAERESIS, SMALL LETTER O WITH DIAERESIS, CAPITAL LETTER BARRED O,
    SMALL LETTER BARRED O, CAPITAL LETTER BARRED O WITH DIAERESIS,
    SMALL LETTER BARRED O WITH DIAERESIS, CAPITAL LETTER E WITH DIAERESIS,
    SMALL LETTER E WITH DIAERESIS, CAPITAL LETTER U WITH MACRON, SMALL LETTER U WITH MACRON,
    CAPITAL LETTER U WITH DIAERESIS, SMALL LETTER U WITH DIAERESIS,
    CAPITAL LETTER U WITH DOUBLE ACUTE, SMALL LETTER U WITH DOUBLE ACUTE,
    CAPITAL LETTER CHE WITH DIAERESIS, SMALL LETTER CHE WITH DIAERESIS,
    CAPITAL LETTER GHE WITH DESCENDER, SMALL LETTER GHE WITH DESCENDER,
    CAPITAL LETTER YERU WITH DIAERESIS, SMALL LETTER YERU WITH DIAERESIS,
    CAPITAL LETTER GHE WITH STROKE AND HOOK, SMALL LETTER GHE WITH STROKE AND HOOK,
    CAPITAL LETTER HA WITH HOOK, SMALL LETTER HA WITH HOOK, CAPITAL LETTER HA WITH STROKE,
    SMALL LETTER HA WITH STROKE, CAPITAL LETTER KOMI DE, SMALL LETTER KOMI DE,
    CAPITAL LETTER KOMI DJE, SMALL LETTER KOMI DJE, CAPITAL LETTER KOMI ZJE,
    SMALL LETTER KOMI ZJE, CAPITAL LETTER KOMI DZJE, SMALL LETTER KOMI DZJE,
    CAPITAL LETTER KOMI LJE, SMALL LETTER KOMI LJE, CAPITAL LETTER KOMI NJE,
    SMALL LETTER KOMI NJE, CAPITAL LETTER KOMI SJE, SMALL LETTER KOMI SJE,
    CAPITAL LETTER KOMI TJE, SMALL LETTER KOMI TJE, CAPITAL LETTER REVERSED ZE,
    SMALL LETTER REVERSED ZE, CAPITAL LETTER EL WITH HOOK, SMALL LETTER EL WITH HOOK,
    CAPITAL LETTER LHA, SMALL LETTER LHA, CAPITAL LETTER RHA, SMALL LETTER RHA,
    CAPITAL LETTER YAE, SMALL LETTER YAE, CAPITAL LETTER QA, SMALL LETTER QA, CAPITAL LETTER WE,
    SMALL LETTER WE, CAPITAL LETTER ALEUT KA, SMALL LETTER ALEUT KA,
    CAPITAL LETTER EL WITH MIDDLE HOOK, SMALL LETTER EL WITH MIDDLE HOOK,
    CAPITAL LETTER EN WITH MIDDLE HOOK, SMALL LETTER EN WITH MIDDLE HOOK,
    CAPITAL LETTER PE WITH DESCENDER, SMALL LETTER PE WITH DESCENDER,
    CAPITAL LETTER SHHA WITH DESCENDER, SMALL LETTER SHHA WITH DESCENDER,
    CAPITAL LETTER EN WITH LEFT HOOK, SMALL LETTER EN WITH LEFT HOOK, CAPITAL LETTER DZZHE,
    SMALL LETTER DZZHE, CAPITAL LETTER DCHE, SMALL LETTER DCHE, CAPITAL LETTER EL WITH DESCENDER,
    SMALL LETTER EL WITH DESCENDER"⟩,
  ⟨0x531, "ARMENIAN CAPITAL LETTER ", "AYB, BEN, GIM, DA, ECH, ZA, EH, ET, TO, ZHE, INI, LIWN,
    XEH, CA, KEN, HO, JA, GHAD, CHEH, MEN, YI, NOW, SHA, VO, CHA, PEH, JHEH, RA, SEH, VEW, TIWN,
    REH, CO, YIWN, PIWR, KEH, OH, FEH"⟩,
  ⟨0x559, "ARMENIAN ", "MODIFIER LETTER LEFT HALF RING, APOSTROPHE, EMPHASIS MARK,
    EXCLAMATION MARK, COMMA, QUESTION MARK, ABBREVIATION MARK"⟩,
  ⟨0x560, "ARMENIAN SMALL LETTER ", "TURNED AYB, AYB, BEN, GIM, DA, ECH, ZA, EH, ET, TO, ZHE,
    INI, LIWN, XEH, CA, KEN, HO, JA, GHAD, CHEH, MEN, YI, NOW, SHA, VO, CHA, PEH, JHEH, RA, SEH,
    VEW, TIWN, REH, CO, YIWN, PIWR, KEH, OH, FEH"⟩,
  ⟨0x587, "ARMENIAN ", "SMALL LIGATURE ECH YIWN, SMALL LETTER YI WITH STROKE, FULL STOP, HYPHEN"⟩,
  ⟨0x58d, "", "RIGHT-FACING ARMENIAN ETERNITY SIGN, LEFT-FACING ARMENIAN ETERNITY SIGN,
    ARMENIAN DRAM SIGN"⟩,
  ⟨0x10a0, "GEORGIAN CAPITAL LETTER ", "AN, BAN, GAN, DON, EN, VIN, ZEN, TAN, IN, KAN, LAS, MAN,
    NAR, ON, PAR, ZHAR, RAE, SAN, TAR, UN, PHAR, KHAR, GHAN, QAR, SHIN, CHIN, CAN, JIL, CIL,
    CHAR, XAN, JHAN, HAE, HE, HIE, WE, HAR, HOE, , YN, , , , , , AEN"⟩,
  ⟨0x10d0, "GEORGIAN LETTER ", "AN, BAN, GAN, DON, EN, VIN, ZEN, TAN, IN, KAN, LAS, MAN, NAR, ON,
    PAR, ZHAR, RAE, SAN, TAR, UN, PHAR, KHAR, GHAN, QAR, SHIN, CHIN, CAN, JIL, CIL, CHAR, XAN,
    JHAN, HAE, HE, HIE, WE, HAR, HOE, FI, YN, ELIFI, TURNED GAN, AIN"⟩,
  ⟨0x10fb, "", "GEORGIAN PARAGRAPH SEPARATOR, MODIFIER LETTER GEORGIAN NAR"⟩,
  ⟨0x10fd, "GEORGIAN LETTER ", "AEN, HARD SIGN, LABIAL SIGN"⟩,
  ⟨0x1c80, "CYRILLIC SMALL LETTER ", "ROUNDED VE, LONG-LEGGED DE, NARROW O, WIDE ES, TALL TE,
    THREE-LEGGED TE, TALL HARD SIGN, TALL YAT, UNBLENDED UK"⟩,
  ⟨0x1c90, "GEORGIAN MTAVRULI CAPITAL LETTER ", "AN, BAN, GAN, DON, EN, VIN, ZEN, TAN, IN, KAN,
    LAS, MAN, NAR, ON, PAR, ZHAR, RAE, SAN, TAR, UN, PHAR, KHAR, GHAN, QAR, SHIN, CHIN, CAN, JIL,
    CIL, CHAR, XAN, JHAN, HAE, HE, HIE, WE, HAR, HOE, FI, YN, ELIFI, TURNED GAN, AIN, , , AEN,
    HARD SIGN, LABIAL SIGN"⟩,
  ⟨0x2c00, "GLAGOLITIC CAPITAL LETTER ", "AZU, BUKY, VEDE, GLAGOLI, DOBRO, YESTU, ZHIVETE, DZELO,
    ZEMLJA, IZHE, INITIAL IZHE, I, DJERVI, KAKO, LJUDIJE, MYSLITE, NASHI, ONU, POKOJI, RITSI,
    SLOVO, TVRIDO, UKU, FRITU, HERU, OTU, PE, SHTA, TSI, CHRIVI, SHA, YERU, YERI, YATI,
    SPIDERY HA, YU, SMALL YUS, SMALL YUS WITH TAIL, YO, IOTATED SMALL YUS, BIG YUS,
    IOTATED BIG YUS, FITA, IZHITSA, SHTAPIC, TROKUTASTI A, LATINATE MYSLITE, CAUDATE CHRIVI"⟩,
  ⟨0x2c30, "GLAGOLITIC SMALL LETTER ", "AZU, BUKY, VEDE, GLAGOLI, DOBRO, YESTU, ZHIVETE, DZELO,
    ZEMLJA, IZHE, INITIAL IZHE, I, DJERVI, KAKO, LJUDIJE, MYSLITE, NASHI, ONU, POKOJI, RITSI,
    SLOVO, TVRIDO, UKU, FRITU, HERU, OTU, PE, SHTA, TSI, CHRIVI, SHA, YERU, YERI, YATI,
    SPIDERY HA, YU, SMALL YUS, SMALL YUS WITH TAIL, YO, IOTATED SMALL YUS, BIG YUS,
    IOTATED BIG YUS, FITA, IZHITSA, SHTAPIC, TROKUTASTI A, LATINATE MYSLITE, CAUDATE CHRIVI"⟩,
  ⟨0x2d00, "GEORGIAN SMALL LETTER ", "AN, BAN, GAN, DON, EN, VIN, ZEN, TAN, IN, KAN, LAS, MAN,
    NAR, ON, PAR, ZHAR, RAE, SAN, TAR, UN, PHAR, KHAR, GHAN, QAR, SHIN, CHIN, CAN, JIL, CIL,
    CHAR, XAN, JHAN, HAE, HE, HIE, WE, HAR, HOE, , YN, , , , , , AEN"⟩,
  ⟨0x2de0, "COMBINING CYRILLIC LETTER ", "BE, VE, GHE, DE, ZHE, ZE, KA, EL, EM, EN, O, PE, ER,
    ES, TE, HA, TSE, CHE, SHA, SHCHA, FITA, ES-TE, A, IE, DJERV, MONOGRAPH UK, YAT, YU,
    IOTIFIED A, LITTLE YUS, BIG YUS, IOTIFIED BIG YUS"⟩,
  ⟨0xa640, "CYRILLIC ", "CAPITAL LETTER ZEMLYA, SMALL LETTER ZEMLYA, CAPITAL LETTER DZELO,
    SMALL LETTER DZELO, CAPITAL LETTER REVERSED DZE, SMALL LETTER REVERSED DZE,
    CAPITAL LETTER IOTA, SMALL LETTER IOTA, CAPITAL LETTER DJERV, SMALL LETTER DJERV,
    CAPITAL LETTER MONOGRAPH UK, SMALL LETTER MONOGRAPH UK, CAPITAL LETTER BROAD OMEGA,
    SMALL LETTER BROAD OMEGA, CAPITAL LETTER NEUTRAL YER, SMALL LETTER NEUTRAL YER,
    CAPITAL LETTER YERU WITH BACK YER, SMALL LETTER YERU WITH BACK YER,
    CAPITAL LETTER IOTIFIED YAT, SMALL LETTER IOTIFIED YAT, CAPITAL LETTER REVERSED YU,
    SMALL LETTER REVERSED YU, CAPITAL LETTER IOTIFIED A, SMALL LETTER IOTIFIED A,
    CAPITAL LETTER CLOSED LITTLE YUS, SMALL LETTER CLOSED LITTLE YUS, CAPITAL LETTER BLENDED YUS,
    SMALL LETTER BLENDED YUS, CAPITAL LETTER IOTIFIED CLOSED LITTLE YUS,
    SMALL LETTER IOTIFIED CLOSED LITTLE YUS, CAPITAL LETTER YN, SMALL LETTER YN,
    CAPITAL LETTER REVERSED TSE, SMALL LETTER REVERSED TSE, CAPITAL LETTER SOFT DE,
    SMALL LETTER SOFT DE, CAPITAL LETTER SOFT EL, SMALL LETTER SOFT EL, CAPITAL LETTER SOFT EM,
    SMALL LETTER SOFT EM, CAPITAL LETTER MONOCULAR O, SMALL LETTER MONOCULAR O,
    CAPITAL LETTER BINOCULAR O, SMALL LETTER BINOCULAR O, CAPITAL LETTER DOUBLE MONOCULAR O,
    SMALL LETTER DOUBLE MONOCULAR O, LETTER MULTIOCULAR O"⟩,
  ⟨0xa66f, "COMBINING CYRILLIC ", "VZMET, TEN MILLIONS SIGN, HUNDRED MILLIONS SIGN,
    THOUSAND MILLIONS SIGN"⟩,
  ⟨0xa673, "SLAVONIC ", "ASTERISK"⟩,
  ⟨0xa674, "COMBINING CYRILLIC LETTER ", "UKRAINIAN IE, I, YI, U, HARD SIGN, YERU, SOFT SIGN,
    OMEGA"⟩,
  ⟨0xa67c, "COMBINING CYRILLIC ", "KAVYKA, PAYEROK"⟩,
  ⟨0xa67e, "CYRILLIC ", "KAVYKA, PAYEROK, CAPITAL LETTER DWE, SMALL LETTER DWE,
    CAPITAL LETTER DZWE, SMALL LETTER DZWE, CAPITAL LETTER ZHWE, SMALL LETTER ZHWE,
    CAPITAL LETTER CCHE, SMALL LETTER CCHE, CAPITAL LETTER DZZE, SMALL LETTER DZZE,
    CAPITAL LETTER TE WITH MIDDLE HOOK, SMALL LETTER TE WITH MIDDLE HOOK, CAPITAL LETTER TWE,
    SMALL LETTER TWE, CAPITAL LETTER TSWE, SMALL LETTER TSWE, CAPITAL LETTER TSSE,
    SMALL LETTER TSSE, CAPITAL LETTER TCHE, SMALL LETTER TCHE, CAPITAL LETTER HWE,
    SMALL LETTER HWE, CAPITAL LETTER SHWE, SMALL LETTER SHWE, CAPITAL LETTER DOUBLE O,
    SMALL LETTER DOUBLE O, CAPITAL LETTER CROSSED O, SMALL LETTER CROSSED O"⟩,
  ⟨0xa69c, "MODIFIER LETTER CYRILLIC ", "HARD SIGN, SOFT SIGN"⟩,
  ⟨0xa69e, "COMBINING CYRILLIC LETTER ", "EF, IOTIFIED E"⟩,
  ⟨0xfb13, "ARMENIAN SMALL LIGATURE ", "MEN NOW, MEN ECH, MEN INI, VEW NOW, MEN XEH"⟩,
  ⟨0x10350, "OLD PERMIC LETTER ", "AN, BUR, GAI, DOI, E, ZHOI, DZHOI, ZATA, DZITA, I, KOKE, LEI,
    MENOE, NENOE, VOOI, PEEI, REI, SII, TAI, U, CHERY, SHOOI, SHCHOOI, YRY, YERU, O, OO, EF, HA,
    TSIU, VER, YER, YERI, YAT, IE, YU, YA, IA"⟩,
  ⟨0x10376, "COMBINING OLD PERMIC LETTER ", "AN, DOI, ZATA, NENOE, SII"⟩,
  ⟨0x10500, "ELBASAN LETTER ", "A, BE, CE, CHE, DE, NDE, DHE, EI, E, FE, GE, GJE, HE, I, JE, KE,
    LE, LLE, ME, NE, NA, NJE, O, PE, QE, RE, RRE, SE, SHE, TE, THE, U, VE, XE, Y, ZE, ZHE, GHE,
    GHAMMA, KHE"⟩,
  ⟨0x10530, "CAUCASIAN ALBANIAN LETTER ", "ALT, BET, GIM, DAT, EB, ZARL, EYN, ZHIL, TAS, CHA,
    YOWD, ZHA, IRB, SHA, LAN, INYA, XEYN, DYAN, CAR, JHOX, KAR, LYIT, HEYT, QAY, AOR, CHOY, CHI,
    CYAY, MAQ, QAR, NOWC, DZYAY, SHAK, JAYN, ON, TYAY, FAM, DZAY, CHAT, PEN, GHEYS, RAT, SEYK,
    VEYZ, TIWR, SHOY, IWN, CYAW, CAYN, YAYD, PIWR, KIW"⟩,
  ⟨0x1056f, "CAUCASIAN ALBANIAN CITATION ", "MARK"⟩,
  ⟨0x10570, "VITHKUQI CAPITAL LETTER ", "A, BBE, BE, CE, CHE, DE, DHE, EI, E, FE, GA, , HA, HHA,
    I, IJE, JE, KA, LA, LLA, ME, NE, NJE, O, PE, QA, RE, , SE, SHE, TE, THE, U, VE, XE, , Y, ZE"⟩,
  ⟨0x10597, "VITHKUQI SMALL LETTER ", "A, BBE, BE, CE, CHE, DE, DHE, EI, E, FE, GA, , HA, HHA, I,
    IJE, JE, KA, LA, LLA, ME, NE, NJE, O, PE, QA, RE, , SE, SHE, TE, THE, U, VE, XE, , Y, ZE"⟩,
  ⟨0x10c80, "OLD HUNGARIAN CAPITAL LETTER ", "A, AA, EB, AMB, EC, ENC, ECS, ED, AND, E, CLOSE E,
    EE, EF, EG, EGY, EH, I, II, EJ, EK, AK, UNK, EL, ELY, EM, EN, ENY, O, OO, NIKOLSBURG OE,
    RUDIMENTA OE, OEE, EP, EMP, ER, SHORT ER, ES, ESZ, ET, ENT, ETY, ECH, U, UU, NIKOLSBURG UE,
    RUDIMENTA UE, EV, EZ, EZS, ENT-SHAPED SIGN, US"⟩,
  ⟨0x10cc0, "OLD HUNGARIAN SMALL LETTER ", "A, AA, EB, AMB, EC, ENC, ECS, ED, AND, E, CLOSE E,
    EE, EF, EG, EGY, EH, I, II, EJ, EK, AK, UNK, EL, ELY, EM, EN, ENY, O, OO, NIKOLSBURG OE,
    RUDIMENTA OE, OEE, EP, EMP, ER, SHORT ER, ES, ESZ, ET, ENT, ETY, ECH, U, UU, NIKOLSBURG UE,
    RUDIMENTA UE, EV, EZ, EZS, ENT-SHAPED SIGN, US"⟩,
  ⟨0x10cfa, "OLD HUNGARIAN NUMBER ", "ONE, FIVE, TEN, FIFTY, ONE HUNDRED, ONE THOUSAND"⟩,
  ⟨0x1e000, "COMBINING GLAGOLITIC LETTER ", "AZU, BUKY, VEDE, GLAGOLI, DOBRO, YESTU, ZHIVETE, ,
    ZEMLJA, IZHE, INITIAL IZHE, I, DJERVI, KAKO, LJUDIJE, MYSLITE, NASHI, ONU, POKOJI, RITSI,
    SLOVO, TVRIDO, UKU, FRITU, HERU, , , SHTA, TSI, CHRIVI, SHA, YERU, YERI, YATI, , YU,
    SMALL YUS, , YO, IOTATED SMALL YUS, BIG YUS, IOTATED BIG YUS, FITA"⟩]

end NameTag.CharacterName
