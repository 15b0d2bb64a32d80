import NameTag.Text.CharacterName.Block

/-!
# Names of punctuation and format characters

General punctuation, currency signs, small forms, tags and variation selectors.
-/

namespace NameTag.CharacterName

def punctuationBlocks : List Block := [
  ⟨0x2000, "", "EN QUAD, EM QUAD, EN SPACE, EM SPACE, THREE-PER-EM SPACE, FOUR-PER-EM SPACE,
    SIX-PER-EM SPACE, FIGURE SPACE, PUNCTUATION SPACE, THIN SPACE, HAIR SPACE, ZERO WIDTH SPACE,
    ZERO WIDTH NON-JOINER, ZERO WIDTH JOINER, LEFT-TO-RIGHT MARK, RIGHT-TO-LEFT MARK, HYPHEN,
    NON-BREAKING HYPHEN, FIGURE DASH, EN DASH, EM DASH, HORIZONTAL BAR, DOUBLE VERTICAL LINE,
    DOUBLE LOW LINE, LEFT SINGLE QUOTATION MARK, RIGHT SINGLE QUOTATION MARK,
    SINGLE LOW-9 QUOTATION MARK, SINGLE HIGH-REVERSED-9 QUOTATION MARK,
    LEFT DOUBLE QUOTATION MARK, RIGHT DOUBLE QUOTATION MARK, DOUBLE LOW-9 QUOTATION MARK,
    DOUBLE HIGH-REVERSED-9 QUOTATION MARK, DAGGER, DOUBLE DAGGER, BULLET, TRIANGULAR BULLET,
    ONE DOT LEADER, TWO DOT LEADER, HORIZONTAL ELLIPSIS, HYPHENATION POINT, LINE SEPARATOR,
    PARAGRAPH SEPARATOR, LEFT-TO-RIGHT EMBEDDING, RIGHT-TO-LEFT EMBEDDING,
    POP DIRECTIONAL FORMATTING, LEFT-TO-RIGHT OVERRIDE, RIGHT-TO-LEFT OVERRIDE,
    NARROW NO-BREAK SPACE, PER MILLE SIGN, PER TEN THOUSAND SIGN, PRIME, DOUBLE PRIME,
    TRIPLE PRIME, REVERSED PRIME, REVERSED DOUBLE PRIME, REVERSED TRIPLE PRIME, CARET,
    SINGLE LEFT-POINTING ANGLE QUOTATION MARK, SINGLE RIGHT-POINTING ANGLE QUOTATION MARK,
    REFERENCE MARK, DOUBLE EXCLAMATION MARK, INTERROBANG, OVERLINE, UNDERTIE, CHARACTER TIE,
    CARET INSERTION POINT, ASTERISM, HYPHEN BULLET, FRACTION SLASH,
    LEFT SQUARE BRACKET WITH QUILL, RIGHT SQUARE BRACKET WITH QUILL, DOUBLE QUESTION MARK,
    QUESTION EXCLAMATION MARK, EXCLAMATION QUESTION MARK, TIRONIAN SIGN ET,
    REVERSED PILCROW SIGN, BLACK LEFTWARDS BULLET, BLACK RIGHTWARDS BULLET, LOW ASTERISK,
    REVERSED SEMICOLON, CLOSE UP, TWO ASTERISKS ALIGNED VERTICALLY, COMMERCIAL MINUS SIGN,
    SWUNG DASH, INVERTED UNDERTIE, FLOWER PUNCTUATION MARK, THREE DOT PUNCTUATION,
    QUADRUPLE PRIME, FOUR DOT PUNCTUATION, FIVE DOT PUNCTUATION, TWO DOT PUNCTUATION,
    FOUR DOT MARK, DOTTED CROSS, TRICOLON, VERTICAL FOUR DOTS, MEDIUM MATHEMATICAL SPACE,
    WORD JOINER, FUNCTION APPLICATION, INVISIBLE TIMES, INVISIBLE SEPARATOR, INVISIBLE PLUS, ,
    LEFT-TO-RIGHT ISOLATE, RIGHT-TO-LEFT ISOLATE, FIRST STRONG ISOLATE, POP DIRECTIONAL ISOLATE,
    INHIBIT SYMMETRIC SWAPPING, ACTIVATE SYMMETRIC SWAPPING, INHIBIT ARABIC FORM SHAPING,
    ACTIVATE ARABIC FORM SHAPING, NATIONAL DIGIT SHAPES, NOMINAL DIGIT SHAPES"⟩,
  ⟨0x2070, "SUPERSCRIPT ", "ZERO, LATIN SMALL LETTER I, , , FOUR, FIVE, SIX, SEVEN, EIGHT, NINE,
    PLUS SIGN, MINUS, EQUALS SIGN, LEFT PARENTHESIS, RIGHT PARENTHESIS, LATIN SMALL LETTER N"⟩,
  ⟨0x2080, "SUBSCRIPT ", "ZERO, ONE, TWO, THREE, FOUR, FIVE, SIX, SEVEN, EIGHT, NINE, PLUS SIGN,
    MINUS, EQUALS SIGN, LEFT PARENTHESIS, RIGHT PARENTHESIS"⟩,
  ⟨0x2090, "LATIN SUBSCRIPT SMALL LETTER ", "A, E, O, X, SCHWA, H, K, L, M, N, P, S, T"⟩,
  ⟨0x20a0, "", "EURO-CURRENCY SIGN, COLON SIGN, CRUZEIRO SIGN, FRENCH FRANC SIGN, LIRA SIGN,
    MILL SIGN, NAIRA SIGN, PESETA SIGN, RUPEE SIGN, WON SIGN, NEW SHEQEL SIGN, DONG SIGN,
    EURO SIGN, KIP SIGN, TUGRIK SIGN, DRACHMA SIGN, GERMAN PENNY SIGN, PESO SIGN, GUARANI SIGN,
    AUSTRAL SIGN, HRYVNIA SIGN, CEDI SIGN, LIVRE TOURNOIS SIGN, SPESMILO SIGN, TENGE SIGN,
    INDIAN RUPEE SIGN, TURKISH LIRA SIGN, NORDIC MARK SIGN, MANAT SIGN, RUBLE SIGN, LARI SIGN,
    BITCOIN SIGN, SOM SIGN"⟩,
  ⟨0x2e00, "", "RIGHT ANGLE SUBSTITUTION MARKER, RIGHT ANGLE DOTTED SUBSTITUTION MARKER,
    LEFT SUBSTITUTION BRACKET, RIGHT SUBSTITUTION BRACKET, LEFT DOTTED SUBSTITUTION BRACKET,
    RIGHT DOTTED SUBSTITUTION BRACKET, RAISED INTERPOLATION MARKER,
    RAISED DOTTED INTERPOLATION MARKER, DOTTED TRANSPOSITION MARKER, LEFT TRANSPOSITION BRACKET,
    RIGHT TRANSPOSITION BRACKET, RAISED SQUARE, LEFT RAISED OMISSION BRACKET,
    RIGHT RAISED OMISSION BRACKET, EDITORIAL CORONIS, PARAGRAPHOS, FORKED PARAGRAPHOS,
    REVERSED FORKED PARAGRAPHOS, HYPODIASTOLE, DOTTED OBELOS, DOWNWARDS ANCORA, UPWARDS ANCORA,
    DOTTED RIGHT-POINTING ANGLE, DOUBLE OBLIQUE HYPHEN, INVERTED INTERROBANG, PALM BRANCH,
    HYPHEN WITH DIAERESIS, TILDE WITH RING ABOVE, LEFT LOW PARAPHRASE BRACKET,
    RIGHT LOW PARAPHRASE BRACKET, TILDE WITH DOT ABOVE, TILDE WITH DOT BELOW,
    LEFT VERTICAL BAR WITH QUILL, RIGHT VERTICAL BAR WITH QUILL, TOP LEFT HALF BRACKET,
    TOP RIGHT HALF BRACKET, BOTTOM LEFT HALF BRACKET, BOTTOM RIGHT HALF BRACKET,
    LEFT SIDEWAYS U BRACKET, RIGHT SIDEWAYS U BRACKET, LEFT DOUBLE PARENTHESIS,
    RIGHT DOUBLE PARENTHESIS, TWO DOTS OVER ONE DOT PUNCTUATION,
    ONE DOT OVER TWO DOTS PUNCTUATION, SQUARED FOUR DOT PUNCTUATION, FIVE DOT MARK,
    REVERSED QUESTION MARK, VERTICAL TILDE, RING POINT, WORD SEPARATOR MIDDLE DOT, TURNED COMMA,
    RAISED DOT, RAISED COMMA, TURNED SEMICOLON, DAGGER WITH LEFT GUARD, DAGGER WITH RIGHT GUARD,
    TURNED DAGGER, TOP HALF SECTION SIGN, TWO-EM DASH, THREE-EM DASH, STENOGRAPHIC FULL STOP,
    VERTICAL SIX DOTS, WIGGLY VERTICAL LINE, CAPITULUM, DOUBLE HYPHEN, REVERSED COMMA,
    DOUBLE LOW-REVERSED-9 QUOTATION MARK, DASH WITH LEFT UPTURN, DOUBLE SUSPENSION MARK,
    INVERTED LOW KAVYKA, INVERTED LOW KAVYKA WITH KAVYKA ABOVE, LOW KAVYKA, LOW KAVYKA WITH DOT,
    DOUBLE STACKED COMMA, DOTTED SOLIDUS, TRIPLE DAGGER, MEDIEVAL COMMA, PARAGRAPHUS MARK,
    PUNCTUS ELEVATUS MARK, CORNISH VERSE DIVIDER, CROSS PATTY WITH RIGHT CROSSBAR,
    CROSS PATTY WITH LEFT CROSSBAR, TIRONIAN SIGN CAPITAL ET, MEDIEVAL EXCLAMATION MARK,
    MEDIEVAL QUESTION MARK, LEFT SQUARE BRACKET WITH STROKE, RIGHT SQUARE BRACKET WITH STROKE,
    LEFT SQUARE BRACKET WITH DOUBLE STROKE, RIGHT SQUARE BRACKET WITH DOUBLE STROKE,
    TOP HALF LEFT PARENTHESIS, TOP HALF RIGHT PARENTHESIS, BOTTOM HALF LEFT PARENTHESIS,
    BOTTOM HALF RIGHT PARENTHESIS, OBLIQUE HYPHEN"⟩,
  ⟨0xfe00, "VARIATION SELECTOR-", "1, 2, 3, 4, 5, 6, 7, 8, 9, 10, 11, 12, 13, 14, 15, 16"⟩,
  ⟨0xfe10, "PRESENTATION FORM FOR VERTICAL ", "COMMA, IDEOGRAPHIC COMMA, IDEOGRAPHIC FULL STOP,
    COLON, SEMICOLON, EXCLAMATION MARK, QUESTION MARK, LEFT WHITE LENTICULAR BRACKET,
    RIGHT WHITE LENTICULAR BRAKCET, HORIZONTAL ELLIPSIS"⟩,
  ⟨0xfe20, "COMBINING ", "LIGATURE LEFT HALF, LIGATURE RIGHT HALF, DOUBLE TILDE LEFT HALF,
    DOUBLE TILDE RIGHT HALF, MACRON LEFT HALF, MACRON RIGHT HALF, CONJOINING MACRON,
    LIGATURE LEFT HALF BELOW, LIGATURE RIGHT HALF BELOW, TILDE LEFT HALF BELOW,
    TILDE RIGHT HALF BELOW, MACRON LEFT HALF BELOW, MACRON RIGHT HALF BELOW,
    CONJOINING MACRON BELOW, CYRILLIC TITLO LEFT HALF, CYRILLIC TITLO RIGHT HALF"⟩,
  ⟨0xfe50, "SMALL ", "COMMA, IDEOGRAPHIC COMMA, FULL STOP, , SEMICOLON, COLON, QUESTION MARK,
    EXCLAMATION MARK, EM DASH, LEFT PARENTHESIS, RIGHT PARENTHESIS, LEFT CURLY BRACKET,
    RIGHT CURLY BRACKET, LEFT TORTOISE SHELL BRACKET, RIGHT TORTOISE SHELL BRACKET, NUMBER SIGN,
    AMPERSAND, ASTERISK, PLUS SIGN, HYPHEN-MINUS, LESS-THAN SIGN, GREATER-THAN SIGN, EQUALS SIGN,
    , REVERSE SOLIDUS, DOLLAR SIGN, PERCENT SIGN, COMMERCIAL AT"⟩,
  ⟨0xfff9, "INTERLINEAR ANNOTATION ", "ANCHOR, SEPARATOR, TERMINATOR"⟩,
  ⟨0xfffc, "", "OBJECT REPLACEMENT CHARACTER, REPLACEMENT CHARACTER"⟩,
  ⟨0xe0001, "LANGUAGE ", "TAG"⟩,
  ⟨0xe0020, "TAG ", "SPACE, EXCLAMATION MARK, QUOTATION MARK, NUMBER SIGN, DOLLAR SIGN,
    PERCENT SIGN, AMPERSAND, APOSTROPHE, LEFT PARENTHESIS, RIGHT PARENTHESIS, ASTERISK,
    PLUS SIGN, COMMA, HYPHEN-MINUS, FULL STOP, SOLIDUS, DIGIT ZERO, DIGIT ONE, DIGIT TWO,
    DIGIT THREE, DIGIT FOUR, DIGIT FIVE, DIGIT SIX, DIGIT SEVEN, DIGIT EIGHT, DIGIT NINE, COLON,
    SEMICOLON, LESS-THAN SIGN, EQUALS SIGN, GREATER-THAN SIGN, QUESTION MARK, COMMERCIAL AT"⟩,
  ⟨0xe0041, "TAG LATIN CAPITAL LETTER ", "A, B, C, D, E, F, G, H, I, J, K, L, M, N, O, P, Q, R,
    S, T, U, V, W, X, Y, Z"⟩,
  ⟨0xe005b, "TAG ", "LEFT SQUARE BRACKET, REVERSE SOLIDUS, RIGHT SQUARE BRACKET,
    CIRCUMFLEX ACCENT, LOW LINE, GRAVE ACCENT"⟩,
  ⟨0xe0061, "TAG LATIN SMALL LETTER ", "A, B, C, D, E, F, G, H, I, J, K, L, M, N, O, P, Q, R, S,
    T, U, V, W, X, Y, Z"⟩,
  ⟨0xe007b, "", "TAG LEFT CURLY BRACKET, TAG VERTICAL LINE, TAG RIGHT CURLY BRACKET, TAG TILDE,
    CANCEL TAG"⟩,
  ⟨0xe0100, "VARIATION SELECTOR-", "17, 18, 19, 20, 21, 22, 23, 24, 25, 26, 27, 28, 29, 30, 31,
    32, 33, 34, 35, 36, 37, 38, 39, 40, 41, 42, 43, 44, 45, 46, 47, 48, 49, 50, 51, 52, 53, 54,
    55, 56, 57, 58, 59, 60, 61, 62, 63, 64, 65, 66, 67, 68, 69, 70, 71, 72, 73, 74, 75, 76, 77,
    78, 79, 80, 81, 82, 83, 84, 85, 86, 87, 88, 89, 90, 91, 92, 93, 94, 95, 96, 97, 98, 99, 100,
    101, 102, 103, 104, 105, 106, 107, 108, 109, 110, 111, 112, 113, 114, 115, 116, 117, 118,
    119, 120, 121, 122, 123, 124, 125, 126, 127, 128, 129, 130, 131, 132, 133, 134, 135, 136,
    137, 138, 139, 140, 141, 142, 143, 144, 145, 146, 147, 148, 149, 150, 151, 152, 153, 154,
    155, 156, 157, 158, 159, 160, 161, 162, 163, 164, 165, 166, 167, 168, 169, 170, 171, 172,
    173, 174, 175, 176, 177, 178, 179, 180, 181, 182, 183, 184, 185, 186, 187, 188, 189, 190,
    191, 192, 193, 194, 195, 196, 197, 198, 199, 200, 201, 202, 203, 204, 205, 206, 207, 208,
    209, 210, 211, 212, 213, 214, 215, 216, 217, 218, 219, 220, 221, 222, 223, 224, 225, 226,
    227, 228, 229, 230, 231, 232, 233, 234, 235, 236, 237, 238, 239, 240, 241, 242, 243, 244,
    245, 246, 247, 248, 249, 250, 251, 252, 253, 254, 255, 256"⟩]

end NameTag.CharacterName
