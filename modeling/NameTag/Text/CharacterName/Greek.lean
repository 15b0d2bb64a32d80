import NameTag.Text.CharacterName.Block

/-!
# Names of Greek and Coptic characters

Letters, Greek numbers and the signs of Greek music.
-/

namespace NameTag.CharacterName

def greekBlocks : List Block := [
  ⟨0x370, "GREEK ", "CAPITAL LETTER HETA, SMALL LETTER HETA, CAPITAL LETTER ARCHAIC SAMPI,
    SMALL LETTER ARCHAIC SAMPI, NUMERAL SIGN, LOWER NUMERAL SIGN,
    CAPITAL LETTER PAMPHYLIAN DIGAMMA, SMALL LETTER PAMPHYLIAN DIGAMMA, , , YPOGEGRAMMENI,
    SMALL REVERSED LUNATE SIGMA SYMBOL, SMALL DOTTED LUNATE SIGMA SYMBOL,
    SMALL REVERSED DOTTED LUNATE SIGMA SYMBOL, QUESTION MARK, CAPITAL LETTER YOT, , , , , TONOS,
    DIALYTIKA TONOS, CAPITAL LETTER ALPHA WITH TONOS, ANO TELEIA"⟩,
  ⟨0x388, "GREEK CAPITAL LETTER ", "EPSILON WITH TONOS, ETA WITH TONOS, IOTA WITH TONOS, ,
    OMICRON WITH TONOS, , UPSILON WITH TONOS, OMEGA WITH TONOS"⟩,
  ⟨0x390, "GREEK SMALL LETTER IOTA WITH DIALYTIKA AND ", "TONOS"⟩,
  ⟨0x391, "GREEK CAPITAL LETTER ", "ALPHA, BETA, GAMMA, DELTA, EPSILON, ZETA, ETA, THETA, IOTA,
    KAPPA, LAMDA, MU, NU, XI, OMICRON, PI, RHO, , SIGMA, TAU, UPSILON, PHI, CHI, PSI, OMEGA,
    IOTA WITH DIALYTIKA, UPSILON WITH DIALYTIKA"⟩,
  ⟨0x3ac, "GREEK SMALL LETTER ", "ALPHA WITH TONOS, EPSILON WITH TONOS, ETA WITH TONOS,
    IOTA WITH TONOS, UPSILON WITH DIALYTIKA AND TONOS, ALPHA, BETA, GAMMA, DELTA, EPSILON, ZETA,
    ETA, THETA, IOTA, KAPPA, LAMDA, MU, NU, XI, OMICRON, PI, RHO, FINAL SIGMA, SIGMA, TAU,
    UPSILON, PHI, CHI, PSI, OMEGA, IOTA WITH DIALYTIKA, UPSILON WITH DIALYTIKA,
    OMICRON WITH TONOS, UPSILON WITH TONOS, OMEGA WITH TONOS"⟩,
  ⟨0x3cf, "GREEK ", "CAPITAL KAI SYMBOL, BETA SYMBOL, THETA SYMBOL, UPSILON WITH HOOK SYMBOL,
    UPSILON WITH ACUTE AND HOOK SYMBOL, UPSILON WITH DIAERESIS AND HOOK SYMBOL, PHI SYMBOL,
    PI SYMBOL, KAI SYMBOL, LETTER ARCHAIC KOPPA, SMALL LETTER ARCHAIC KOPPA, LETTER STIGMA,
    SMALL LETTER STIGMA, LETTER DIGAMMA, SMALL LETTER DIGAMMA, LETTER KOPPA, SMALL LETTER KOPPA,
    LETTER SAMPI, SMALL LETTER SAMPI"⟩,
  ⟨0x3e2, "COPTIC ", "CAPITAL LETTER SHEI, SMALL LETTER SHEI, CAPITAL LETTER FEI,
    SMALL LETTER FEI, CAPITAL LETTER KHEI, SMALL LETTER KHEI, CAPITAL LETTER HORI,
    SMALL LETTER HORI, CAPITAL LETTER GANGIA, SMALL LETTER GANGIA, CAPITAL LETTER SHIMA,
    SMALL LETTER SHIMA, CAPITAL LETTER DEI, SMALL LETTER DEI"⟩,
  ⟨0x3f0, "GREEK ", "KAPPA SYMBOL, RHO SYMBOL, LUNATE SIGMA SYMBOL, LETTER YOT,
    CAPITAL THETA SYMBOL, LUNATE EPSILON SYMBOL, REVERSED LUNATE EPSILON SYMBOL,
    CAPITAL LETTER SHO, SMALL LETTER SHO, CAPITAL LUNATE SIGMA SYMBOL, CAPITAL LETTER SAN,
    SMALL LETTER SAN, RHO WITH STROKE SYMBOL, CAPITAL REVERSED LUNATE SIGMA SYMBOL,
    CAPITAL DOTTED LUNATE SIGMA SYMBOL, CAPITAL REVERSED DOTTED LUNATE SIGMA SYMBOL"⟩,
  ⟨0x1f00, "GREEK SMALL LETTER ALPHA WITH ", "PSILI, DASIA, PSILI AND VARIA, DASIA AND VARIA,
    PSILI AND OXIA, DASIA AND OXIA, PSILI AND PERISPOMENI, DASIA AND PERISPOMENI"⟩,
  ⟨0x1f08, "GREEK CAPITAL LETTER ALPHA WITH ", "PSILI, DASIA, PSILI AND VARIA, DASIA AND VARIA,
    PSILI AND OXIA, DASIA AND OXIA, PSILI AND PERISPOMENI, DASIA AND PERISPOMENI"⟩,
  ⟨0x1f10, "GREEK SMALL LETTER EPSILON WITH ", "PSILI, DASIA, PSILI AND VARIA, DASIA AND VARIA,
    PSILI AND OXIA, DASIA AND OXIA"⟩,
  ⟨0x1f18, "GREEK CAPITAL LETTER EPSILON WITH ", "PSILI, DASIA, PSILI AND VARIA, DASIA AND VARIA,
    PSILI AND OXIA, DASIA AND OXIA"⟩,
  ⟨0x1f20, "GREEK SMALL LETTER ETA WITH ", "PSILI, DASIA, PSILI AND VARIA, DASIA AND VARIA,
    PSILI AND OXIA, DASIA AND OXIA, PSILI AND PERISPOMENI, DASIA AND PERISPOMENI"⟩,
  ⟨0x1f28, "GREEK CAPITAL LETTER ETA WITH ", "PSILI, DASIA, PSILI AND VARIA, DASIA AND VARIA,
    PSILI AND OXIA, DASIA AND OXIA, PSILI AND PERISPOMENI, DASIA AND PERISPOMENI"⟩,
  ⟨0x1f30, "GREEK SMALL LETTER IOTA WITH ", "PSILI, DASIA, PSILI AND VARIA, DASIA AND VARIA,
    PSILI AND OXIA, DASIA AND OXIA, PSILI AND PERISPOMENI, DASIA AND PERISPOMENI"⟩,
  ⟨0x1f38, "GREEK CAPITAL LETTER IOTA WITH ", "PSILI, DASIA, PSILI AND VARIA, DASIA AND VARIA,
    PSILI AND OXIA, DASIA AND OXIA, PSILI AND PERISPOMENI, DASIA AND PERISPOMENI"⟩,
  ⟨0x1f40, "GREEK SMALL LETTER OMICRON WITH ", "PSILI, DASIA, PSILI AND VARIA, DASIA AND VARIA,
    PSILI AND OXIA, DASIA AND OXIA"⟩,
  ⟨0x1f48, "GREEK CAPITAL LETTER OMICRON WITH ", "PSILI, DASIA, PSILI AND VARIA, DASIA AND VARIA,
    PSILI AND OXIA, DASIA AND OXIA"⟩,
  ⟨0x1f50, "GREEK SMALL LETTER UPSILON WITH ", "PSILI, DASIA, PSILI AND VARIA, DASIA AND VARIA,
    PSILI AND OXIA, DASIA AND OXIA, PSILI AND PERISPOMENI, DASIA AND PERISPOMENI"⟩,
  ⟨0x1f59, "GREEK CAPITAL LETTER UPSILON WITH ", "DASIA, , DASIA AND VARIA, , DASIA AND OXIA, ,
    DASIA AND PERISPOMENI"⟩,
  ⟨0x1f60, "GREEK SMALL LETTER OMEGA WITH ", "PSILI, DASIA, PSILI AND VARIA, DASIA AND VARIA,
    PSILI AND OXIA, DASIA AND OXIA, PSILI AND PERISPOMENI, DASIA AND PERISPOMENI"⟩,
  ⟨0x1f68, "GREEK CAPITAL LETTER OMEGA WITH ", "PSILI, DASIA, PSILI AND VARIA, DASIA AND VARIA,
    PSILI AND OXIA, DASIA AND OXIA, PSILI AND PERISPOMENI, DASIA AND PERISPOMENI"⟩,
  ⟨0x1f70, "GREEK SMALL LETTER ", "ALPHA WITH VARIA, ALPHA WITH OXIA, EPSILON WITH VARIA,
    EPSILON WITH OXIA, ETA WITH VARIA, ETA WITH OXIA, IOTA WITH VARIA, IOTA WITH OXIA,
    OMICRON WITH VARIA, OMICRON WITH OXIA, UPSILON WITH VARIA, UPSILON WITH OXIA,
    OMEGA WITH VARIA, OMEGA WITH OXIA"⟩,
  ⟨0x1f80, "GREEK SMALL LETTER ALPHA WITH ", "PSILI AND YPOGEGRAMMENI, DASIA AND YPOGEGRAMMENI,
    PSILI AND VARIA AND YPOGEGRAMMENI, DASIA AND VARIA AND YPOGEGRAMMENI,
    PSILI AND OXIA AND YPOGEGRAMMENI, DASIA AND OXIA AND YPOGEGRAMMENI,
    PSILI AND PERISPOMENI AND YPOGEGRAMMENI, DASIA AND PERISPOMENI AND YPOGEGRAMMENI"⟩,
  ⟨0x1f88, "GREEK CAPITAL LETTER ALPHA WITH ", "PSILI AND PROSGEGRAMMENI,
    DASIA AND PROSGEGRAMMENI, PSILI AND VARIA AND PROSGEGRAMMENI,
    DASIA AND VARIA AND PROSGEGRAMMENI, PSILI AND OXIA AND PROSGEGRAMMENI,
    DASIA AND OXIA AND PROSGEGRAMMENI, PSILI AND PERISPOMENI AND PROSGEGRAMMENI,
    DASIA AND PERISPOMENI AND PROSGEGRAMMENI"⟩,
  ⟨0x1f90, "GREEK SMALL LETTER ETA WITH ", "PSILI AND YPOGEGRAMMENI, DASIA AND YPOGEGRAMMENI,
    PSILI AND VARIA AND YPOGEGRAMMENI, DASIA AND VARIA AND YPOGEGRAMMENI,
    PSILI AND OXIA AND YPOGEGRAMMENI, DASIA AND OXIA AND YPOGEGRAMMENI,
    PSILI AND PERISPOMENI AND YPOGEGRAMMENI, DASIA AND PERISPOMENI AND YPOGEGRAMMENI"⟩,
  ⟨0x1f98, "GREEK CAPITAL LETTER ETA WITH ", "PSILI AND PROSGEGRAMMENI, DASIA AND PROSGEGRAMMENI,
    PSILI AND VARIA AND PROSGEGRAMMENI, DASIA AND VARIA AND PROSGEGRAMMENI,
    PSILI AND OXIA AND PROSGEGRAMMENI, DASIA AND OXIA AND PROSGEGRAMMENI,
    PSILI AND PERISPOMENI AND PROSGEGRAMMENI, DASIA AND PERISPOMENI AND PROSGEGRAMMENI"⟩,
  ⟨0x1fa0, "GREEK SMALL LETTER OMEGA WITH ", "PSILI AND YPOGEGRAMMENI, DASIA AND YPOGEGRAMMENI,
    PSILI AND VARIA AND YPOGEGRAMMENI, DASIA AND VARIA AND YPOGEGRAMMENI,
    PSILI AND OXIA AND YPOGEGRAMMENI, DASIA AND OXIA AND YPOGEGRAMMENI,
    PSILI AND PERISPOMENI AND YPOGEGRAMMENI, DASIA AND PERISPOMENI AND YPOGEGRAMMENI"⟩,
  ⟨0x1fa8, "GREEK CAPITAL LETTER OMEGA WITH ", "PSILI AND PROSGEGRAMMENI,
    DASIA AND PROSGEGRAMMENI, PSILI AND VARIA AND PROSGEGRAMMENI,
    DASIA AND VARIA AND PROSGEGRAMMENI, PSILI AND OXIA AND PROSGEGRAMMENI,
    DASIA AND OXIA AND PROSGEGRAMMENI, PSILI AND PERISPOMENI AND PROSGEGRAMMENI,
    DASIA AND PERISPOMENI AND PROSGEGRAMMENI"⟩,
  ⟨0x1fb0, "GREEK SMALL LETTER ALPHA WITH ", "VRACHY, MACRON, VARIA AND YPOGEGRAMMENI,
    YPOGEGRAMMENI, OXIA AND YPOGEGRAMMENI, , PERISPOMENI, PERISPOMENI AND YPOGEGRAMMENI"⟩,
  ⟨0x1fb8, "GREEK CAPITAL LETTER ALPHA WITH ", "VRACHY, MACRON, VARIA, OXIA, PROSGEGRAMMENI"⟩,
  ⟨0x1fbd, "GREEK ", "KORONIS, PROSGEGRAMMENI, PSILI, PERISPOMENI, DIALYTIKA AND PERISPOMENI"⟩,
  ⟨0x1fc2, "GREEK SMALL LETTER ETA WITH ", "VARIA AND YPOGEGRAMMENI, YPOGEGRAMMENI,
    OXIA AND YPOGEGRAMMENI, , PERISPOMENI, PERISPOMENI AND YPOGEGRAMMENI"⟩,
  ⟨0x1fc8, "GREEK CAPITAL LETTER ", "EPSILON WITH VARIA, EPSILON WITH OXIA, ETA WITH VARIA,
    ETA WITH OXIA, ETA WITH PROSGEGRAMMENI"⟩,
  ⟨0x1fcd, "GREEK PSILI AND ", "VARIA, OXIA, PERISPOMENI"⟩,
  ⟨0x1fd0, "GREEK SMALL LETTER IOTA WITH ", "VRACHY, MACRON, DIALYTIKA AND VARIA,
    DIALYTIKA AND OXIA, , , PERISPOMENI, DIALYTIKA AND PERISPOMENI"⟩,
  ⟨0x1fd8, "GREEK CAPITAL LETTER IOTA WITH ", "VRACHY, MACRON, VARIA, OXIA"⟩,
  ⟨0x1fdd, "GREEK DASIA AND ", "VARIA, OXIA, PERISPOMENI"⟩,
  ⟨0x1fe0, "GREEK SMALL LETTER ", "UPSILON WITH VRACHY, UPSILON WITH MACRON,
    UPSILON WITH DIALYTIKA AND VARIA, UPSILON WITH DIALYTIKA AND OXIA, RHO WITH PSILI,
    RHO WITH DASIA, UPSILON WITH PERISPOMENI, UPSILON WITH DIALYTIKA AND PERISPOMENI"⟩,
  ⟨0x1fe8, "GREEK CAPITAL LETTER UPSILON WITH ", "VRACHY, MACRON, VARIA, OXIA"⟩,
  ⟨0x1fec, "GREEK ", "CAPITAL LETTER RHO WITH DASIA, DIALYTIKA AND VARIA, DIALYTIKA AND OXIA,
    VARIA"⟩,
  ⟨0x1ff2, "GREEK SMALL LETTER OMEGA WITH ", "VARIA AND YPOGEGRAMMENI, YPOGEGRAMMENI,
    OXIA AND YPOGEGRAMMENI, , PERISPOMENI, PERISPOMENI AND YPOGEGRAMMENI"⟩,
  ⟨0x1ff8, "GREEK CAPITAL LETTER ", "OMICRON WITH VARIA, OMICRON WITH OXIA, OMEGA WITH VARIA,
    OMEGA WITH OXIA, OMEGA WITH PROSGEGRAMMENI"⟩,
  ⟨0x1ffd, "GREEK ", "OXIA, DASIA"⟩,
  ⟨0x2c80, "COPTIC ", "CAPITAL LETTER ALFA, SMALL LETTER ALFA, CAPITAL LETTER VIDA,
    SMALL LETTER VIDA, CAPITAL LETTER GAMMA, SMALL LETTER GAMMA, CAPITAL LETTER DALDA,
    SMALL LETTER DALDA, CAPITAL LETTER EIE, SMALL LETTER EIE, CAPITAL LETTER SOU,
    SMALL LETTER SOU, CAPITAL LETTER ZATA, SMALL LETTER ZATA, CAPITAL LETTER HATE,
    SMALL LETTER HATE, CAPITAL LETTER THETHE, SMALL LETTER THETHE, CAPITAL LETTER IAUDA,
    SMALL LETTER IAUDA, CAPITAL LETTER KAPA, SMALL LETTER KAPA, CAPITAL LETTER LAULA,
    SMALL LETTER LAULA, CAPITAL LETTER MI, SMALL LETTER MI, CAPITAL LETTER NI, SMALL LETTER NI,
    CAPITAL LETTER KSI, SMALL LETTER KSI, CAPITAL LETTER O, SMALL LETTER O, CAPITAL LETTER PI,
    SMALL LETTER PI, CAPITAL LETTER RO, SMALL LETTER RO, CAPITAL LETTER SIMA, SMALL LETTER SIMA,
    CAPITAL LETTER TAU, SMALL LETTER TAU, CAPITAL LETTER UA, SMALL LETTER UA, CAPITAL LETTER FI,
    SMALL LETTER FI, CAPITAL LETTER KHI, SMALL LETTER KHI, CAPITAL LETTER PSI, SMALL LETTER PSI,
    CAPITAL LETTER OOU, SMALL LETTER OOU, CAPITAL LETTER DIALECT-P ALEF,
    SMALL LETTER DIALECT-P ALEF, CAPITAL LETTER OLD COPTIC AIN, SMALL LETTER OLD COPTIC AIN,
    CAPITAL LETTER CRYPTOGRAMMIC EIE, SMALL LETTER CRYPTOGRAMMIC EIE,
    CAPITAL LETTER DIALECT-P KAPA, SMALL LETTER DIALECT-P KAPA, CAPITAL LETTER DIALECT-P NI,
    SMALL LETTER DIALECT-P NI, CAPITAL LETTER CRYPTOGRAMMIC NI, SMALL LETTER CRYPTOGRAMMIC NI,
    CAPITAL LETTER OLD COPTIC OOU, SMALL LETTER OLD COPTIC OOU, CAPITAL LETTER SAMPI,
    SMALL LETTER SAMPI, CAPITAL LETTER CROSSED SHEI, SMALL LETTER CROSSED SHEI,
    CAPITAL LETTER OLD COPTIC SHEI, SMALL LETTER OLD COPTIC SHEI, CAPITAL LETTER OLD COPTIC ESH,
    SMALL LETTER OLD COPTIC ESH, CAPITAL LETTER AKHMIMIC KHEI, SMALL LETTER AKHMIMIC KHEI,
    CAPITAL LETTER DIALECT-P HORI, SMALL LETTER DIALECT-P HORI, CAPITAL LETTER OLD COPTIC HORI,
    SMALL LETTER OLD COPTIC HORI, CAPITAL LETTER OLD COPTIC HA, SMALL LETTER OLD COPTIC HA,
    CAPITAL LETTER L-SHAPED HA, SMALL LETTER L-SHAPED HA, CAPITAL LETTER OLD COPTIC HEI,
    SMALL LETTER OLD COPTIC HEI, CAPITAL LETTER OLD COPTIC HAT, SMALL LETTER OLD COPTIC HAT,
    CAPITAL LETTER OLD COPTIC GANGIA, SMALL LETTER OLD COPTIC GANGIA,
    CAPITAL LETTER OLD COPTIC DJA, SMALL LETTER OLD COPTIC DJA, CAPITAL LETTER OLD COPTIC SHIMA,
    SMALL LETTER OLD COPTIC SHIMA, CAPITAL LETTER OLD NUBIAN SHIMA,
    SMALL LETTER OLD NUBIAN SHIMA, CAPITAL LETTER OLD NUBIAN NGI, SMALL LETTER OLD NUBIAN NGI,
    CAPITAL LETTER OLD NUBIAN NYI, SMALL LETTER OLD NUBIAN NYI, CAPITAL LETTER OLD NUBIAN WAU,
    SMALL LETTER OLD NUBIAN WAU, SYMBOL KAI, SYMBOL MI RO, SYMBOL PI RO, SYMBOL STAUROS,
    SYMBOL TAU RO, SYMBOL KHI RO, SYMBOL SHIMA SIMA, CAPITAL LETTER CRYPTOGRAMMIC SHEI,
    SMALL LETTER CRYPTOGRAMMIC SHEI, CAPITAL LETTER CRYPTOGRAMMIC GANGIA,
    SMALL LETTER CRYPTOGRAMMIC GANGIA, COMBINING NI ABOVE, COMBINING SPIRITUS ASPER,
    COMBINING SPIRITUS LENIS, CAPITAL LETTER BOHAIRIC KHEI, SMALL LETTER BOHAIRIC KHEI, , , , , ,
    OLD NUBIAN FULL STOP, OLD NUBIAN DIRECT QUESTION MARK, OLD NUBIAN INDIRECT QUESTION MARK,
    OLD NUBIAN VERSE DIVIDER, FRACTION ONE HALF, FULL STOP, MORPHOLOGICAL DIVIDER"⟩,
  ⟨0x10140, "GREEK ACROPHONIC ATTIC ", "ONE QUARTER, ONE HALF, ONE DRACHMA, FIVE, FIFTY,
    FIVE HUNDRED, FIVE THOUSAND, FIFTY THOUSAND, FIVE TALENTS, TEN TALENTS, FIFTY TALENTS,
    ONE HUNDRED TALENTS, FIVE HUNDRED TALENTS, ONE THOUSAND TALENTS, FIVE THOUSAND TALENTS,
    FIVE STATERS, TEN STATERS, FIFTY STATERS, ONE HUNDRED STATERS, FIVE HUNDRED STATERS,
    ONE THOUSAND STATERS, TEN THOUSAND STATERS, FIFTY THOUSAND STATERS, TEN MNAS"⟩,
  ⟨0x10158, "GREEK ACROPHONIC ", "HERAEUM ONE PLETHRON, THESPIAN ONE, HERMIONIAN ONE,
    EPIDAUREAN TWO, THESPIAN TWO, CYRENAIC TWO DRACHMAS, EPIDAUREAN TWO DRACHMAS,
    TROEZENIAN FIVE, TROEZENIAN TEN, TROEZENIAN TEN ALTERNATE FORM, HERMIONIAN TEN,
    MESSENIAN TEN, THESPIAN TEN, THESPIAN THIRTY, TROEZENIAN FIFTY,
    TROEZENIAN FIFTY ALTERNATE FORM, HERMIONIAN FIFTY, THESPIAN FIFTY, THESPIAN ONE HUNDRED,
    THESPIAN THREE HUNDRED, EPIDAUREAN FIVE HUNDRED, TROEZENIAN FIVE HUNDRED,
    THESPIAN FIVE HUNDRED, CARYSTIAN FIVE HUNDRED, NAXIAN FIVE HUNDRED, THESPIAN ONE THOUSAND,
    THESPIAN FIVE THOUSAND, DELPHIC FIVE MNAS, STRATIAN FIFTY MNAS"⟩,
  ⟨0x10175, "GREEK ", "ONE HALF SIGN, ONE HALF SIGN ALTERNATE FORM, TWO THIRDS SIGN,
    THREE QUARTERS SIGN, YEAR SIGN, TALENT SIGN, DRACHMA SIGN, OBOL SIGN, TWO OBOLS SIGN,
    THREE OBOLS SIGN, FOUR OBOLS SIGN, FIVE OBOLS SIGN, METRETES SIGN, KYATHOS BASE SIGN,
    LITRA SIGN, OUNKIA SIGN, XESTES SIGN, ARTABE SIGN, AROURA SIGN, GRAMMA SIGN,
    TRYBLION BASE SIGN, ZERO SIGN, ONE QUARTER SIGN, SINUSOID SIGN, INDICTION SIGN"⟩,
  ⟨0x1018e, "NOMISMA ", "SIGN"⟩,
  ⟨0x102e0, "COPTIC EPACT THOUSANDS ", "MARK"⟩,
  ⟨0x102e1, "COPTIC EPACT DIGIT ", "ONE, TWO, THREE, FOUR, FIVE, SIX, SEVEN, EIGHT, NINE"⟩,
  ⟨0x102ea, "COPTIC EPACT NUMBER ", "TEN, TWENTY, THIRTY, FORTY, FIFTY, SIXTY, SEVENTY, EIGHTY,
    NINETY, ONE HUNDRED, TWO HUNDRED, THREE HUNDRED, FOUR HUNDRED, FIVE HUNDRED, SIX HUNDRED,
    SEVEN HUNDRED, EIGHT HUNDRED, NINE HUNDRED"⟩,
  ⟨0x1d200, "GREEK VOCAL NOTATION SYMBOL-", "1, 2, 3, 4, 5, 6, 7, 8, 9, 10, 11, 12, 13, 14, 15,
    16, 17, 18, 19, 20, 21, 22, 23, 24, 50, 51, 52, 53, 54"⟩,
  ⟨0x1d21d, "GREEK INSTRUMENTAL NOTATION SYMBOL-", "1, 2, 4, 5, 7, 8, 11, 12, 13, 14, 17, 18, 19,
    23, 24, 25, 26, 27, 29, 30, 32, 36, 37, 38, 39, 40, 42, 43, 45, 47, 48, 49, 50, 51, 52, 53,
    54"⟩,
  ⟨0x1d242, "COMBINING GREEK MUSICAL ", "TRISEME, TETRASEME, PENTASEME"⟩,
  ⟨0x1d245, "GREEK MUSICAL ", "LEIMMA"⟩]

end NameTag.CharacterName
