import NameTag.Text.CharacterName.Block

/-!
# Names of symbols

Arrows, number forms, technical and geometric symbols, boxes and dingbats.
-/

namespace NameTag.CharacterName

def symbolBlocks : List Block := [
  ⟨0x20d0, "COMBINING ", "LEFT HARPOON ABOVE, RIGHT HARPOON ABOVE, LONG VERTICAL LINE OVERLAY,
    SHORT VERTICAL LINE OVERLAY, ANTICLOCKWISE ARROW ABOVE, CLOCKWISE ARROW ABOVE,
    LEFT ARROW ABOVE, RIGHT ARROW ABOVE, RING OVERLAY, CLOCKWISE RING OVERLAY,
    ANTICLOCKWISE RING OVERLAY, THREE DOTS ABOVE, FOUR DOTS ABOVE, ENCLOSING CIRCLE,
    ENCLOSING SQUARE, ENCLOSING DIAMOND, ENCLOSING CIRCLE BACKSLASH, LEFT RIGHT ARROW ABOVE,
    ENCLOSING SCREEN, ENCLOSING KEYCAP, ENCLOSING UPWARD POINTING TRIANGLE,
    REVERSE SOLIDUS OVERLAY, DOUBLE VERTICAL STROKE OVERLAY, ANNUITY SYMBOL, TRIPLE UNDERDOT,
    WIDE BRIDGE ABOVE, LEFTWARDS ARROW OVERLAY, LONG DOUBLE SOLIDUS OVERLAY,
    RIGHTWARDS HARPOON WITH BARB DOWNWARDS, LEFTWARDS HARPOON WITH BARB DOWNWARDS,
    LEFT ARROW BELOW, RIGHT ARROW BELOW, ASTERISK ABOVE"⟩,
  ⟨0x2150, "VULGAR FRACTION ", "ONE SEVENTH, ONE NINTH, ONE TENTH, ONE THIRD, TWO THIRDS,
    ONE FIFTH, TWO FIFTHS, THREE FIFTHS, FOUR FIFTHS, ONE SIXTH, FIVE SIXTHS, ONE EIGHTH,
    THREE EIGHTHS, FIVE EIGHTHS, SEVEN EIGHTHS"⟩,
  ⟨0x215f, "FRACTION NUMERATOR ", "ONE"⟩,
  ⟨0x2160, "ROMAN NUMERAL ", "ONE, TWO, THREE, FOUR, FIVE, SIX, SEVEN, EIGHT, NINE, TEN, ELEVEN,
    TWELVE, FIFTY, ONE HUNDRED, FIVE HUNDRED, ONE THOUSAND"⟩,
  ⟨0x2170, "SMALL ROMAN NUMERAL ", "ONE, TWO, THREE, FOUR, FIVE, SIX, SEVEN, EIGHT, NINE, TEN,
    ELEVEN, TWELVE, FIFTY, ONE HUNDRED, FIVE HUNDRED, ONE THOUSAND"⟩,
  ⟨0x2180, "ROMAN NUMERAL ", "ONE THOUSAND C D, FIVE THOUSAND, TEN THOUSAND, REVERSED ONE HUNDRED"⟩,
  ⟨0x2184, "", "LATIN SMALL LETTER REVERSED C, ROMAN NUMERAL SIX LATE FORM,
    ROMAN NUMERAL FIFTY EARLY FORM, ROMAN NUMERAL FIFTY THOUSAND,
    ROMAN NUMERAL ONE HUNDRED THOUSAND, VULGAR FRACTION ZERO THIRDS, TURNED DIGIT TWO,
    TURNED DIGIT THREE, , , , , LEFTWARDS ARROW, UPWARDS ARROW, RIGHTWARDS ARROW,
    DOWNWARDS ARROW, LEFT RIGHT ARROW, UP DOWN ARROW, NORTH WEST ARROW, NORTH EAST ARROW,
    SOUTH EAST ARROW, SOUTH WEST ARROW, LEFTWARDS ARROW WITH STROKE,
    RIGHTWARDS ARROW WITH STROKE, LEFTWARDS WAVE ARROW, RIGHTWARDS WAVE ARROW,
    LEFTWARDS TWO HEADED ARROW, UPWARDS TWO HEADED ARROW, RIGHTWARDS TWO HEADED ARROW,
    DOWNWARDS TWO HEADED ARROW, LEFTWARDS ARROW WITH TAIL, RIGHTWARDS ARROW WITH TAIL,
    LEFTWARDS ARROW FROM BAR, UPWARDS ARROW FROM BAR, RIGHTWARDS ARROW FROM BAR,
    DOWNWARDS ARROW FROM BAR, UP DOWN ARROW WITH BASE, LEFTWARDS ARROW WITH HOOK,
    RIGHTWARDS ARROW WITH HOOK, LEFTWARDS ARROW WITH LOOP, RIGHTWARDS ARROW WITH LOOP,
    LEFT RIGHT WAVE ARROW, LEFT RIGHT ARROW WITH STROKE, DOWNWARDS ZIGZAG ARROW,
    UPWARDS ARROW WITH TIP LEFTWARDS, UPWARDS ARROW WITH TIP RIGHTWARDS,
    DOWNWARDS ARROW WITH TIP LEFTWARDS, DOWNWARDS ARROW WITH TIP RIGHTWARDS,
    RIGHTWARDS ARROW WITH CORNER DOWNWARDS, DOWNWARDS ARROW WITH CORNER LEFTWARDS,
    ANTICLOCKWISE TOP SEMICIRCLE ARROW, CLOCKWISE TOP SEMICIRCLE ARROW,
    NORTH WEST ARROW TO LONG BAR, LEFTWARDS ARROW TO BAR OVER RIGHTWARDS ARROW TO BAR,
    ANTICLOCKWISE OPEN CIRCLE ARROW, CLOCKWISE OPEN CIRCLE ARROW,
    LEFTWARDS HARPOON WITH BARB UPWARDS, LEFTWARDS HARPOON WITH BARB DOWNWARDS,
    UPWARDS HARPOON WITH BARB RIGHTWARDS, UPWARDS HARPOON WITH BARB LEFTWARDS,
    RIGHTWARDS HARPOON WITH BARB UPWARDS, RIGHTWARDS HARPOON WITH BARB DOWNWARDS,
    DOWNWARDS HARPOON WITH BARB RIGHTWARDS, DOWNWARDS HARPOON WITH BARB LEFTWARDS,
    RIGHTWARDS ARROW OVER LEFTWARDS ARROW, UPWARDS ARROW LEFTWARDS OF DOWNWARDS ARROW,
    LEFTWARDS ARROW OVER RIGHTWARDS ARROW, LEFTWARDS PAIRED ARROWS, UPWARDS PAIRED ARROWS,
    RIGHTWARDS PAIRED ARROWS, DOWNWARDS PAIRED ARROWS, LEFTWARDS HARPOON OVER RIGHTWARDS HARPOON,
    RIGHTWARDS HARPOON OVER LEFTWARDS HARPOON, LEFTWARDS DOUBLE ARROW WITH STROKE,
    LEFT RIGHT DOUBLE ARROW WITH STROKE, RIGHTWARDS DOUBLE ARROW WITH STROKE,
    LEFTWARDS DOUBLE ARROW, UPWARDS DOUBLE ARROW, RIGHTWARDS DOUBLE ARROW,
    DOWNWARDS DOUBLE ARROW, LEFT RIGHT DOUBLE ARROW, UP DOWN DOUBLE ARROW,
    NORTH WEST DOUBLE ARROW, NORTH EAST DOUBLE ARROW, SOUTH EAST DOUBLE ARROW,
    SOUTH WEST DOUBLE ARROW, LEFTWARDS TRIPLE ARROW, RIGHTWARDS TRIPLE ARROW,
    LEFTWARDS SQUIGGLE ARROW, RIGHTWARDS SQUIGGLE ARROW, UPWARDS ARROW WITH DOUBLE STROKE,
    DOWNWARDS ARROW WITH DOUBLE STROKE, LEFTWARDS DASHED ARROW, UPWARDS DASHED ARROW,
    RIGHTWARDS DASHED ARROW, DOWNWARDS DASHED ARROW, LEFTWARDS ARROW TO BAR,
    RIGHTWARDS ARROW TO BAR, LEFTWARDS WHITE ARROW, UPWARDS WHITE ARROW, RIGHTWARDS WHITE ARROW,
    DOWNWARDS WHITE ARROW"⟩,
  ⟨0x21ea, "UPWARDS WHITE ", "ARROW FROM BAR, ARROW ON PEDESTAL,
    ARROW ON PEDESTAL WITH HORIZONTAL BAR, ARROW ON PEDESTAL WITH VERTICAL BAR, DOUBLE ARROW,
    DOUBLE ARROW ON PEDESTAL"⟩,
  ⟨0x21f0, "", "RIGHTWARDS WHITE ARROW FROM WALL, NORTH WEST ARROW TO CORNER,
    SOUTH EAST ARROW TO CORNER, UP DOWN WHITE ARROW, RIGHT ARROW WITH SMALL CIRCLE,
    DOWNWARDS ARROW LEFTWARDS OF UPWARDS ARROW, THREE RIGHTWARDS ARROWS,
    LEFTWARDS ARROW WITH VERTICAL STROKE, RIGHTWARDS ARROW WITH VERTICAL STROKE,
    LEFT RIGHT ARROW WITH VERTICAL STROKE, LEFTWARDS ARROW WITH DOUBLE VERTICAL STROKE,
    RIGHTWARDS ARROW WITH DOUBLE VERTICAL STROKE, LEFT RIGHT ARROW WITH DOUBLE VERTICAL STROKE,
    LEFTWARDS OPEN-HEADED ARROW, RIGHTWARDS OPEN-HEADED ARROW, LEFT RIGHT OPEN-HEADED ARROW"⟩,
  ⟨0x2300, "", "DIAMETER SIGN, ELECTRIC ARROW, HOUSE, UP ARROWHEAD, DOWN ARROWHEAD, PROJECTIVE,
    PERSPECTIVE, WAVY LINE, LEFT CEILING, RIGHT CEILING, LEFT FLOOR, RIGHT FLOOR,
    BOTTOM RIGHT CROP, BOTTOM LEFT CROP, TOP RIGHT CROP, TOP LEFT CROP, REVERSED NOT SIGN,
    SQUARE LOZENGE, ARC, SEGMENT, SECTOR, TELEPHONE RECORDER, POSITION INDICATOR,
    VIEWDATA SQUARE, PLACE OF INTEREST SIGN, TURNED NOT SIGN, WATCH, HOURGLASS, TOP LEFT CORNER,
    TOP RIGHT CORNER, BOTTOM LEFT CORNER, BOTTOM RIGHT CORNER, TOP HALF INTEGRAL,
    BOTTOM HALF INTEGRAL, FROWN, SMILE, UP ARROWHEAD BETWEEN TWO HORIZONTAL BARS, OPTION KEY,
    ERASE TO THE RIGHT, X IN A RECTANGLE BOX, KEYBOARD, LEFT-POINTING ANGLE BRACKET,
    RIGHT-POINTING ANGLE BRACKET, ERASE TO THE LEFT, BENZENE RING, CYLINDRICITY,
    ALL AROUND-PROFILE, SYMMETRY, TOTAL RUNOUT, DIMENSION ORIGIN, CONICAL TAPER, SLOPE,
    COUNTERBORE, COUNTERSINK"⟩,
  ⟨0x2336, "APL FUNCTIONAL SYMBOL ", "I-BEAM, SQUISH QUAD, QUAD EQUAL, QUAD DIVIDE, QUAD DIAMOND,
    QUAD JOT, QUAD CIRCLE, CIRCLE STILE, CIRCLE JOT, SLASH BAR, BACKSLASH BAR, QUAD SLASH,
    QUAD BACKSLASH, QUAD LESS-THAN, QUAD GREATER-THAN, LEFTWARDS VANE, RIGHTWARDS VANE,
    QUAD LEFTWARDS ARROW, QUAD RIGHTWARDS ARROW, CIRCLE BACKSLASH, DOWN TACK UNDERBAR,
    DELTA STILE, QUAD DOWN CARET, QUAD DELTA, DOWN TACK JOT, UPWARDS VANE, QUAD UPWARDS ARROW,
    UP TACK OVERBAR, DEL STILE, QUAD UP CARET, QUAD DEL, UP TACK JOT, DOWNWARDS VANE,
    QUAD DOWNWARDS ARROW, QUOTE UNDERBAR, DELTA UNDERBAR, DIAMOND UNDERBAR, JOT UNDERBAR,
    CIRCLE UNDERBAR, UP SHOE JOT, QUOTE QUAD, CIRCLE STAR, QUAD COLON, UP TACK DIAERESIS,
    DEL DIAERESIS, STAR DIAERESIS, JOT DIAERESIS, CIRCLE DIAERESIS, DOWN SHOE STILE,
    LEFT SHOE STILE, TILDE DIAERESIS, GREATER-THAN DIAERESIS, COMMA BAR, DEL TILDE, ZILDE,
    STILE TILDE, SEMICOLON UNDERBAR, QUAD NOT EQUAL, QUAD QUESTION, DOWN CARET TILDE,
    UP CARET TILDE, IOTA, RHO, OMEGA, ALPHA UNDERBAR, EPSILON UNDERBAR, IOTA UNDERBAR,
    OMEGA UNDERBAR, ALPHA"⟩,
  ⟨0x237b, "", "NOT CHECK MARK, RIGHT ANGLE WITH DOWNWARDS ZIGZAG ARROW, SHOULDERED OPEN BOX,
    BELL SYMBOL, VERTICAL LINE WITH MIDDLE DOT, INSERTION SYMBOL, CONTINUOUS UNDERLINE SYMBOL,
    DISCONTINUOUS UNDERLINE SYMBOL, EMPHASIS SYMBOL, COMPOSITION SYMBOL,
    WHITE SQUARE WITH CENTRE VERTICAL LINE, ENTER SYMBOL, ALTERNATIVE KEY SYMBOL, HELM SYMBOL,
    CIRCLED HORIZONTAL BAR WITH NOTCH, CIRCLED TRIANGLE DOWN, BROKEN CIRCLE WITH NORTHWEST ARROW,
    UNDO SYMBOL, MONOSTABLE SYMBOL, HYSTERESIS SYMBOL, OPEN-CIRCUIT-OUTPUT H-TYPE SYMBOL,
    OPEN-CIRCUIT-OUTPUT L-TYPE SYMBOL, PASSIVE-PULL-DOWN-OUTPUT SYMBOL,
    PASSIVE-PULL-UP-OUTPUT SYMBOL, DIRECT CURRENT SYMBOL FORM TWO, SOFTWARE-FUNCTION SYMBOL,
    APL FUNCTIONAL SYMBOL QUAD, DECIMAL SEPARATOR KEY SYMBOL, PREVIOUS PAGE, NEXT PAGE,
    PRINT SCREEN SYMBOL, CLEAR SCREEN SYMBOL"⟩,
  ⟨0x239b, "LEFT PARENTHESIS ", "UPPER HOOK, EXTENSION, LOWER HOOK"⟩,
  ⟨0x239e, "RIGHT PARENTHESIS ", "UPPER HOOK, EXTENSION, LOWER HOOK"⟩,
  ⟨0x23a1, "LEFT SQUARE BRACKET ", "UPPER CORNER, EXTENSION, LOWER CORNER"⟩,
  ⟨0x23a4, "RIGHT SQUARE BRACKET ", "UPPER CORNER, EXTENSION, LOWER CORNER"⟩,
  ⟨0x23a7, "LEFT CURLY BRACKET ", "UPPER HOOK, MIDDLE PIECE, LOWER HOOK"⟩,
  ⟨0x23aa, "", "CURLY BRACKET EXTENSION, RIGHT CURLY BRACKET UPPER HOOK,
    RIGHT CURLY BRACKET MIDDLE PIECE, RIGHT CURLY BRACKET LOWER HOOK, INTEGRAL EXTENSION,
    HORIZONTAL LINE EXTENSION, UPPER LEFT OR LOWER RIGHT CURLY BRACKET SECTION,
    UPPER RIGHT OR LOWER LEFT CURLY BRACKET SECTION, SUMMATION TOP, SUMMATION BOTTOM,
    TOP SQUARE BRACKET, BOTTOM SQUARE BRACKET, BOTTOM SQUARE BRACKET OVER TOP SQUARE BRACKET,
    RADICAL SYMBOL BOTTOM, LEFT VERTICAL BOX LINE, RIGHT VERTICAL BOX LINE"⟩,
  ⟨0x23ba, "HORIZONTAL SCAN LINE-", "1, 3, 7, 9"⟩,
  ⟨0x23be, "DENTISTRY SYMBOL LIGHT ", "VERTICAL AND TOP RIGHT, VERTICAL AND BOTTOM RIGHT,
    VERTICAL WITH CIRCLE, DOWN AND HORIZONTAL WITH CIRCLE, UP AND HORIZONTAL WITH CIRCLE,
    VERTICAL WITH TRIANGLE, DOWN AND HORIZONTAL WITH TRIANGLE, UP AND HORIZONTAL WITH TRIANGLE,
    VERTICAL AND WAVE, DOWN AND HORIZONTAL WITH WAVE, UP AND HORIZONTAL WITH WAVE,
    DOWN AND HORIZONTAL, UP AND HORIZONTAL, VERTICAL AND TOP LEFT, VERTICAL AND BOTTOM LEFT"⟩,
  ⟨0x23cd, "", "SQUARE FOOT, RETURN SYMBOL, EJECT SYMBOL, VERTICAL LINE EXTENSION"⟩,
  ⟨0x23d1, "METRICAL ", "BREVE, LONG OVER SHORT, SHORT OVER LONG, LONG OVER TWO SHORTS,
    TWO SHORTS OVER LONG, TWO SHORTS JOINED, TRISEME, TETRASEME, PENTASEME"⟩,
  ⟨0x23da, "", "EARTH GROUND, FUSE, TOP PARENTHESIS, BOTTOM PARENTHESIS, TOP CURLY BRACKET,
    BOTTOM CURLY BRACKET, TOP TORTOISE SHELL BRACKET, BOTTOM TORTOISE SHELL BRACKET,
    WHITE TRAPEZIUM, BENZENE RING WITH CIRCLE, STRAIGHTNESS, FLATNESS, AC CURRENT,
    ELECTRICAL INTERSECTION, DECIMAL EXPONENT SYMBOL, BLACK RIGHT-POINTING DOUBLE TRIANGLE,
    BLACK LEFT-POINTING DOUBLE TRIANGLE, BLACK UP-POINTING DOUBLE TRIANGLE,
    BLACK DOWN-POINTING DOUBLE TRIANGLE, BLACK RIGHT-POINTING DOUBLE TRIANGLE WITH VERTICAL BAR,
    BLACK LEFT-POINTING DOUBLE TRIANGLE WITH VERTICAL BAR,
    BLACK RIGHT-POINTING TRIANGLE WITH DOUBLE VERTICAL BAR, ALARM CLOCK, STOPWATCH, TIMER CLOCK,
    HOURGLASS WITH FLOWING SAND, BLACK MEDIUM LEFT-POINTING TRIANGLE,
    BLACK MEDIUM RIGHT-POINTING TRIANGLE, BLACK MEDIUM UP-POINTING TRIANGLE,
    BLACK MEDIUM DOWN-POINTING TRIANGLE, DOUBLE VERTICAL BAR, BLACK SQUARE FOR STOP,
    BLACK CIRCLE FOR RECORD, POWER SYMBOL, POWER ON-OFF SYMBOL, POWER ON SYMBOL,
    POWER SLEEP SYMBOL, OBSERVER EYE SYMBOL"⟩,
  ⟨0x2400, "SYMBOL FOR ", "NULL, START OF HEADING, START OF TEXT, END OF TEXT,
    END OF TRANSMISSION, ENQUIRY, ACKNOWLEDGE, BELL, BACKSPACE, HORIZONTAL TABULATION, LINE FEED,
    VERTICAL TABULATION, FORM FEED, CARRIAGE RETURN, SHIFT OUT, SHIFT IN, DATA LINK ESCAPE,
    DEVICE CONTROL ONE, DEVICE CONTROL TWO, DEVICE CONTROL THREE, DEVICE CONTROL FOUR,
    NEGATIVE ACKNOWLEDGE, SYNCHRONOUS IDLE, END OF TRANSMISSION BLOCK, CANCEL, END OF MEDIUM,
    SUBSTITUTE, ESCAPE, FILE SEPARATOR, GROUP SEPARATOR, RECORD SEPARATOR, UNIT SEPARATOR, SPACE,
    DELETE"⟩,
  ⟨0x2422, "", "BLANK SYMBOL, OPEN BOX, SYMBOL FOR NEWLINE, SYMBOL FOR DELETE FORM TWO,
    SYMBOL FOR SUBSTITUTE FORM TWO"⟩,
  ⟨0x2440, "OCR ", "HOOK, CHAIR, FORK, INVERTED FORK, BELT BUCKLE, BOW TIE,
    BRANCH BANK IDENTIFICATION, AMOUNT OF CHECK, DASH, CUSTOMER ACCOUNT NUMBER, DOUBLE BACKSLASH"⟩,
  ⟨0x2460, "CIRCLED DIGIT ", "ONE, TWO, THREE, FOUR, FIVE, SIX, SEVEN, EIGHT, NINE"⟩,
  ⟨0x2469, "CIRCLED NUMBER ", "TEN, ELEVEN, TWELVE, THIRTEEN, FOURTEEN, FIFTEEN, SIXTEEN,
    SEVENTEEN, EIGHTEEN, NINETEEN, TWENTY"⟩,
  ⟨0x2474, "PARENTHESIZED DIGIT ", "ONE, TWO, THREE, FOUR, FIVE, SIX, SEVEN, EIGHT, NINE"⟩,
  ⟨0x247d, "PARENTHESIZED NUMBER ", "TEN, ELEVEN, TWELVE, THIRTEEN, FOURTEEN, FIFTEEN, SIXTEEN,
    SEVENTEEN, EIGHTEEN, NINETEEN, TWENTY"⟩,
  ⟨0x2488, "DIGIT ", "ONE FULL STOP, TWO FULL STOP, THREE FULL STOP, FOUR FULL STOP,
    FIVE FULL STOP, SIX FULL STOP, SEVEN FULL STOP, EIGHT FULL STOP, NINE FULL STOP"⟩,
  ⟨0x2491, "NUMBER ", "TEN FULL STOP, ELEVEN FULL STOP, TWELVE FULL STOP, THIRTEEN FULL STOP,
    FOURTEEN FULL STOP, FIFTEEN FULL STOP, SIXTEEN FULL STOP, SEVENTEEN FULL STOP,
    EIGHTEEN FULL STOP, NINETEEN FULL STOP, TWENTY FULL STOP"⟩,
  ⟨0x249c, "PARENTHESIZED LATIN SMALL LETTER ", "A, B, C, D, E, F, G, H, I, J, K, L, M, N, O, P,
    Q, R, S, T, U, V, W, X, Y, Z"⟩,
  ⟨0x24b6, "CIRCLED LATIN CAPITAL LETTER ", "A, B, C, D, E, F, G, H, I, J, K, L, M, N, O, P, Q,
    R, S, T, U, V, W, X, Y, Z"⟩,
  ⟨0x24d0, "CIRCLED LATIN SMALL LETTER ", "A, B, C, D, E, F, G, H, I, J, K, L, M, N, O, P, Q, R,
    S, T, U, V, W, X, Y, Z"⟩,
  ⟨0x24ea, "CIRCLED DIGIT ", "ZERO"⟩,
  ⟨0x24eb, "NEGATIVE CIRCLED NUMBER ", "ELEVEN, TWELVE, THIRTEEN, FOURTEEN, FIFTEEN, SIXTEEN,
    SEVENTEEN, EIGHTEEN, NINETEEN, TWENTY"⟩,
  ⟨0x24f5, "DOUBLE CIRCLED DIGIT ", "ONE, TWO, THREE, FOUR, FIVE, SIX, SEVEN, EIGHT, NINE"⟩,
  ⟨0x24fe, "", "DOUBLE CIRCLED NUMBER TEN, NEGATIVE CIRCLED DIGIT ZERO"⟩,
  ⟨0x2500, "BOX DRAWINGS ", "LIGHT HORIZONTAL, HEAVY HORIZONTAL, LIGHT VERTICAL, HEAVY VERTICAL,
    LIGHT TRIPLE DASH HORIZONTAL, HEAVY TRIPLE DASH HORIZONTAL, LIGHT TRIPLE DASH VERTICAL,
    HEAVY TRIPLE DASH VERTICAL, LIGHT QUADRUPLE DASH HORIZONTAL, HEAVY QUADRUPLE DASH HORIZONTAL,
    LIGHT QUADRUPLE DASH VERTICAL, HEAVY QUADRUPLE DASH VERTICAL, LIGHT DOWN AND RIGHT,
    DOWN LIGHT AND RIGHT HEAVY, DOWN HEAVY AND RIGHT LIGHT, HEAVY DOWN AND RIGHT,
    LIGHT DOWN AND LEFT, DOWN LIGHT AND LEFT HEAVY, DOWN HEAVY AND LEFT LIGHT,
    HEAVY DOWN AND LEFT, LIGHT UP AND RIGHT, UP LIGHT AND RIGHT HEAVY, UP HEAVY AND RIGHT LIGHT,
    HEAVY UP AND RIGHT, LIGHT UP AND LEFT, UP LIGHT AND LEFT HEAVY, UP HEAVY AND LEFT LIGHT,
    HEAVY UP AND LEFT, LIGHT VERTICAL AND RIGHT, VERTICAL LIGHT AND RIGHT HEAVY,
    UP HEAVY AND RIGHT DOWN LIGHT, DOWN HEAVY AND RIGHT UP LIGHT, VERTICAL HEAVY AND RIGHT LIGHT,
    DOWN LIGHT AND RIGHT UP HEAVY, UP LIGHT AND RIGHT DOWN HEAVY, HEAVY VERTICAL AND RIGHT,
    LIGHT VERTICAL AND LEFT, VERTICAL LIGHT AND LEFT HEAVY, UP HEAVY AND LEFT DOWN LIGHT,
    DOWN HEAVY AND LEFT UP LIGHT, VERTICAL HEAVY AND LEFT LIGHT, DOWN LIGHT AND LEFT UP HEAVY,
    UP LIGHT AND LEFT DOWN HEAVY, HEAVY VERTICAL AND LEFT, LIGHT DOWN AND HORIZONTAL,
    LEFT HEAVY AND RIGHT DOWN LIGHT, RIGHT HEAVY AND LEFT DOWN LIGHT,
    DOWN LIGHT AND HORIZONTAL HEAVY, DOWN HEAVY AND HORIZONTAL LIGHT,
    RIGHT LIGHT AND LEFT DOWN HEAVY, LEFT LIGHT AND RIGHT DOWN HEAVY, HEAVY DOWN AND HORIZONTAL,
    LIGHT UP AND HORIZONTAL, LEFT HEAVY AND RIGHT UP LIGHT, RIGHT HEAVY AND LEFT UP LIGHT,
    UP LIGHT AND HORIZONTAL HEAVY, UP HEAVY AND HORIZONTAL LIGHT, RIGHT LIGHT AND LEFT UP HEAVY,
    LEFT LIGHT AND RIGHT UP HEAVY, HEAVY UP AND HORIZONTAL, LIGHT VERTICAL AND HORIZONTAL,
    LEFT HEAVY AND RIGHT VERTICAL LIGHT, RIGHT HEAVY AND LEFT VERTICAL LIGHT,
    VERTICAL LIGHT AND HORIZONTAL HEAVY, UP HEAVY AND DOWN HORIZONTAL LIGHT,
    DOWN HEAVY AND UP HORIZONTAL LIGHT, VERTICAL HEAVY AND HORIZONTAL LIGHT,
    LEFT UP HEAVY AND RIGHT DOWN LIGHT, RIGHT UP HEAVY AND LEFT DOWN LIGHT,
    LEFT DOWN HEAVY AND RIGHT UP LIGHT, RIGHT DOWN HEAVY AND LEFT UP LIGHT,
    DOWN LIGHT AND UP HORIZONTAL HEAVY, UP LIGHT AND DOWN HORIZONTAL HEAVY,
    RIGHT LIGHT AND LEFT VERTICAL HEAVY, LEFT LIGHT AND RIGHT VERTICAL HEAVY,
    HEAVY VERTICAL AND HORIZONTAL, LIGHT DOUBLE DASH HORIZONTAL, HEAVY DOUBLE DASH HORIZONTAL,
    LIGHT DOUBLE DASH VERTICAL, HEAVY DOUBLE DASH VERTICAL, DOUBLE HORIZONTAL, DOUBLE VERTICAL,
    DOWN SINGLE AND RIGHT DOUBLE, DOWN DOUBLE AND RIGHT SINGLE, DOUBLE DOWN AND RIGHT,
    DOWN SINGLE AND LEFT DOUBLE, DOWN DOUBLE AND LEFT SINGLE, DOUBLE DOWN AND LEFT,
    UP SINGLE AND RIGHT DOUBLE, UP DOUBLE AND RIGHT SINGLE, DOUBLE UP AND RIGHT,
    UP SINGLE AND LEFT DOUBLE, UP DOUBLE AND LEFT SINGLE, DOUBLE UP AND LEFT,
    VERTICAL SINGLE AND RIGHT DOUBLE, VERTICAL DOUBLE AND RIGHT SINGLE,
    DOUBLE VERTICAL AND RIGHT, VERTICAL SINGLE AND LEFT DOUBLE, VERTICAL DOUBLE AND LEFT SINGLE,
    DOUBLE VERTICAL AND LEFT, DOWN SINGLE AND HORIZONTAL DOUBLE,
    DOWN DOUBLE AND HORIZONTAL SINGLE, DOUBLE DOWN AND HORIZONTAL,
    UP SINGLE AND HORIZONTAL DOUBLE, UP DOUBLE AND HORIZONTAL SINGLE, DOUBLE UP AND HORIZONTAL,
    VERTICAL SINGLE AND HORIZONTAL DOUBLE, VERTICAL DOUBLE AND HORIZONTAL SINGLE,
    DOUBLE VERTICAL AND HORIZONTAL, LIGHT ARC DOWN AND RIGHT, LIGHT ARC DOWN AND LEFT,
    LIGHT ARC UP AND LEFT, LIGHT ARC UP AND RIGHT, LIGHT DIAGONAL UPPER RIGHT TO LOWER LEFT,
    LIGHT DIAGONAL UPPER LEFT TO LOWER RIGHT, LIGHT DIAGONAL CROSS, LIGHT LEFT, LIGHT UP,
    LIGHT RIGHT, LIGHT DOWN, HEAVY LEFT, HEAVY UP, HEAVY RIGHT, HEAVY DOWN,
    LIGHT LEFT AND HEAVY RIGHT, LIGHT UP AND HEAVY DOWN, HEAVY LEFT AND LIGHT RIGHT,
    HEAVY UP AND LIGHT DOWN"⟩,
  ⟨0x2580, "", "UPPER HALF BLOCK, LOWER ONE EIGHTH BLOCK, LOWER ONE QUARTER BLOCK,
    LOWER THREE EIGHTHS BLOCK, LOWER HALF BLOCK, LOWER FIVE EIGHTHS BLOCK,
    LOWER THREE QUARTERS BLOCK, LOWER SEVEN EIGHTHS BLOCK, FULL BLOCK, LEFT SEVEN EIGHTHS BLOCK,
    LEFT THREE QUARTERS BLOCK, LEFT FIVE EIGHTHS BLOCK, LEFT HALF BLOCK,
    LEFT THREE EIGHTHS BLOCK, LEFT ONE QUARTER BLOCK, LEFT ONE EIGHTH BLOCK, RIGHT HALF BLOCK,
    LIGHT SHADE, MEDIUM SHADE, DARK SHADE, UPPER ONE EIGHTH BLOCK, RIGHT ONE EIGHTH BLOCK,
    QUADRANT LOWER LEFT, QUADRANT LOWER RIGHT"⟩,
  ⟨0x2598, "QUADRANT UPPER ", "LEFT, LEFT AND LOWER LEFT AND LOWER RIGHT, LEFT AND LOWER RIGHT,
    LEFT AND UPPER RIGHT AND LOWER LEFT, LEFT AND UPPER RIGHT AND LOWER RIGHT, RIGHT,
    RIGHT AND LOWER LEFT, RIGHT AND LOWER LEFT AND LOWER RIGHT"⟩,
  ⟨0x25a0, "", "BLACK SQUARE, WHITE SQUARE, WHITE SQUARE WITH ROUNDED CORNERS,
    WHITE SQUARE CONTAINING BLACK SMALL SQUARE"⟩,
  ⟨0x25a4, "SQUARE WITH ", "HORIZONTAL FILL, VERTICAL FILL, ORTHOGONAL CROSSHATCH FILL,
    UPPER LEFT TO LOWER RIGHT FILL, UPPER RIGHT TO LOWER LEFT FILL, DIAGONAL CROSSHATCH FILL"⟩,
  ⟨0x25aa, "", "BLACK SMALL SQUARE, WHITE SMALL SQUARE, BLACK RECTANGLE, WHITE RECTANGLE,
    BLACK VERTICAL RECTANGLE, WHITE VERTICAL RECTANGLE, BLACK PARALLELOGRAM, WHITE PARALLELOGRAM,
    BLACK UP-POINTING TRIANGLE, WHITE UP-POINTING TRIANGLE, BLACK UP-POINTING SMALL TRIANGLE,
    WHITE UP-POINTING SMALL TRIANGLE, BLACK RIGHT-POINTING TRIANGLE,
    WHITE RIGHT-POINTING TRIANGLE, BLACK RIGHT-POINTING SMALL TRIANGLE,
    WHITE RIGHT-POINTING SMALL TRIANGLE, BLACK RIGHT-POINTING POINTER,
    WHITE RIGHT-POINTING POINTER, BLACK DOWN-POINTING TRIANGLE, WHITE DOWN-POINTING TRIANGLE,
    BLACK DOWN-POINTING SMALL TRIANGLE, WHITE DOWN-POINTING SMALL TRIANGLE,
    BLACK LEFT-POINTING TRIANGLE, WHITE LEFT-POINTING TRIANGLE,
    BLACK LEFT-POINTING SMALL TRIANGLE, WHITE LEFT-POINTING SMALL TRIANGLE,
    BLACK LEFT-POINTING POINTER, WHITE LEFT-POINTING POINTER, BLACK DIAMOND, WHITE DIAMOND,
    WHITE DIAMOND CONTAINING BLACK SMALL DIAMOND, FISHEYE, LOZENGE, WHITE CIRCLE, DOTTED CIRCLE,
    CIRCLE WITH VERTICAL FILL, BULLSEYE, BLACK CIRCLE"⟩,
  ⟨0x25d0, "CIRCLE WITH ", "LEFT HALF BLACK, RIGHT HALF BLACK, LOWER HALF BLACK,
    UPPER HALF BLACK, UPPER RIGHT QUADRANT BLACK, ALL BUT UPPER LEFT QUADRANT BLACK"⟩,
  ⟨0x25d6, "", "LEFT HALF BLACK CIRCLE, RIGHT HALF BLACK CIRCLE, INVERSE BULLET,
    INVERSE WHITE CIRCLE, UPPER HALF INVERSE WHITE CIRCLE, LOWER HALF INVERSE WHITE CIRCLE,
    UPPER LEFT QUADRANT CIRCULAR ARC, UPPER RIGHT QUADRANT CIRCULAR ARC,
    LOWER RIGHT QUADRANT CIRCULAR ARC, LOWER LEFT QUADRANT CIRCULAR ARC, UPPER HALF CIRCLE,
    LOWER HALF CIRCLE, BLACK LOWER RIGHT TRIANGLE, BLACK LOWER LEFT TRIANGLE,
    BLACK UPPER LEFT TRIANGLE, BLACK UPPER RIGHT TRIANGLE, WHITE BULLET,
    SQUARE WITH LEFT HALF BLACK, SQUARE WITH RIGHT HALF BLACK,
    SQUARE WITH UPPER LEFT DIAGONAL HALF BLACK, SQUARE WITH LOWER RIGHT DIAGONAL HALF BLACK,
    WHITE SQUARE WITH VERTICAL BISECTING LINE, WHITE UP-POINTING TRIANGLE WITH DOT,
    UP-POINTING TRIANGLE WITH LEFT HALF BLACK, UP-POINTING TRIANGLE WITH RIGHT HALF BLACK,
    LARGE CIRCLE"⟩,
  ⟨0x25f0, "WHITE SQUARE WITH ", "UPPER LEFT QUADRANT, LOWER LEFT QUADRANT, LOWER RIGHT QUADRANT,
    UPPER RIGHT QUADRANT"⟩,
  ⟨0x25f4, "WHITE CIRCLE WITH ", "UPPER LEFT QUADRANT, LOWER LEFT QUADRANT, LOWER RIGHT QUADRANT,
    UPPER RIGHT QUADRANT"⟩,
  ⟨0x25f8, "", "UPPER LEFT TRIANGLE, UPPER RIGHT TRIANGLE, LOWER LEFT TRIANGLE,
    WHITE MEDIUM SQUARE, BLACK MEDIUM SQUARE, WHITE MEDIUM SMALL SQUARE,
    BLACK MEDIUM SMALL SQUARE, LOWER RIGHT TRIANGLE, BLACK SUN WITH RAYS, CLOUD, UMBRELLA,
    SNOWMAN, COMET, BLACK STAR, WHITE STAR, LIGHTNING, THUNDERSTORM, SUN, ASCENDING NODE,
    DESCENDING NODE, CONJUNCTION, OPPOSITION, BLACK TELEPHONE, WHITE TELEPHONE, BALLOT BOX,
    BALLOT BOX WITH CHECK, BALLOT BOX WITH X, SALTIRE, UMBRELLA WITH RAIN DROPS, HOT BEVERAGE,
    WHITE SHOGI PIECE, BLACK SHOGI PIECE, SHAMROCK, REVERSED ROTATED FLORAL HEART BULLET,
    BLACK LEFT POINTING INDEX, BLACK RIGHT POINTING INDEX, WHITE LEFT POINTING INDEX,
    WHITE UP POINTING INDEX, WHITE RIGHT POINTING INDEX, WHITE DOWN POINTING INDEX,
    SKULL AND CROSSBONES, CAUTION SIGN, RADIOACTIVE SIGN, BIOHAZARD SIGN, CADUCEUS, ANKH,
    ORTHODOX CROSS, CHI RHO, CROSS OF LORRAINE, CROSS OF JERUSALEM, STAR AND CRESCENT,
    FARSI SYMBOL, ADI SHAKTI, HAMMER AND SICKLE, PEACE SYMBOL, YIN YANG"⟩,
  ⟨0x2630, "TRIGRAM FOR ", "HEAVEN, LAKE, FIRE, THUNDER, WIND, WATER, MOUNTAIN, EARTH"⟩,
  ⟨0x2638, "", "WHEEL OF DHARMA, WHITE FROWNING FACE, WHITE SMILING FACE, BLACK SMILING FACE,
    WHITE SUN WITH RAYS, FIRST QUARTER MOON, LAST QUARTER MOON, MERCURY, FEMALE SIGN, EARTH,
    MALE SIGN, JUPITER, SATURN, URANUS, NEPTUNE, PLUTO, ARIES, TAURUS, GEMINI, CANCER, LEO,
    VIRGO, LIBRA, SCORPIUS, SAGITTARIUS, CAPRICORN, AQUARIUS, PISCES"⟩,
  ⟨0x2654, "WHITE CHESS ", "KING, QUEEN, ROOK, BISHOP, KNIGHT, PAWN"⟩,
  ⟨0x265a, "BLACK CHESS ", "KING, QUEEN, ROOK, BISHOP, KNIGHT, PAWN"⟩,
  ⟨0x2660, "", "BLACK SPADE SUIT, WHITE HEART SUIT, WHITE DIAMOND SUIT, BLACK CLUB SUIT,
    WHITE SPADE SUIT, BLACK HEART SUIT, BLACK DIAMOND SUIT, WHITE CLUB SUIT, HOT SPRINGS,
    QUARTER NOTE, EIGHTH NOTE, BEAMED EIGHTH NOTES, BEAMED SIXTEENTH NOTES, MUSIC FLAT SIGN,
    MUSIC NATURAL SIGN, MUSIC SHARP SIGN, WEST SYRIAC CROSS, EAST SYRIAC CROSS,
    UNIVERSAL RECYCLING SYMBOL"⟩,
  ⟨0x2673, "RECYCLING SYMBOL FOR TYPE-", "1 PLASTICS, 2 PLASTICS, 3 PLASTICS, 4 PLASTICS,
    5 PLASTICS, 6 PLASTICS, 7 PLASTICS"⟩,
  ⟨0x267a, "", "RECYCLING SYMBOL FOR GENERIC MATERIALS, BLACK UNIVERSAL RECYCLING SYMBOL,
    RECYCLED PAPER SYMBOL, PARTIALLY-RECYCLED PAPER SYMBOL, PERMANENT PAPER SIGN,
    WHEELCHAIR SYMBOL, DIE FACE-1, DIE FACE-2, DIE FACE-3, DIE FACE-4, DIE FACE-5, DIE FACE-6,
    WHITE CIRCLE WITH DOT RIGHT, WHITE CIRCLE WITH TWO DOTS, BLACK CIRCLE WITH WHITE DOT RIGHT,
    BLACK CIRCLE WITH TWO WHITE DOTS, MONOGRAM FOR YANG, MONOGRAM FOR YIN,
    DIGRAM FOR GREATER YANG, DIGRAM FOR LESSER YIN, DIGRAM FOR LESSER YANG,
    DIGRAM FOR GREATER YIN, WHITE FLAG, BLACK FLAG, HAMMER AND PICK, ANCHOR, CROSSED SWORDS,
    STAFF OF AESCULAPIUS, SCALES, ALEMBIC, FLOWER, GEAR, STAFF OF HERMES, ATOM SYMBOL,
    FLEUR-DE-LIS, OUTLINED WHITE STAR, THREE LINES CONVERGING RIGHT, THREE LINES CONVERGING LEFT,
    WARNING SIGN, HIGH VOLTAGE SIGN, DOUBLED FEMALE SIGN, DOUBLED MALE SIGN,
    INTERLOCKED FEMALE AND MALE SIGN, MALE AND FEMALE SIGN, MALE WITH STROKE SIGN,
    MALE WITH STROKE AND MALE AND FEMALE SIGN, VERTICAL MALE WITH STROKE SIGN,
    HORIZONTAL MALE WITH STROKE SIGN, MEDIUM WHITE CIRCLE, MEDIUM BLACK CIRCLE,
    MEDIUM SMALL WHITE CIRCLE, MARRIAGE SYMBOL, DIVORCE SYMBOL, UNMARRIED PARTNERSHIP SYMBOL,
    COFFIN, FUNERAL URN, NEUTER, CERES, PALLAS, JUNO, VESTA, CHIRON, BLACK MOON LILITH, SEXTILE,
    SEMISEXTILE, QUINCUNX, SESQUIQUADRATE, SOCCER BALL, BASEBALL, SQUARED KEY,
    WHITE DRAUGHTS MAN, WHITE DRAUGHTS KING, BLACK DRAUGHTS MAN, BLACK DRAUGHTS KING,
    SNOWMAN WITHOUT SNOW, SUN BEHIND CLOUD, RAIN, BLACK SNOWMAN, THUNDER CLOUD AND RAIN,
    TURNED WHITE SHOGI PIECE, TURNED BLACK SHOGI PIECE, WHITE DIAMOND IN SQUARE, CROSSING LANES,
    DISABLED CAR, OPHIUCHUS, PICK, CAR SLIDING, HELMET WITH WHITE CROSS, CIRCLED CROSSING LANES,
    CHAINS, NO ENTRY, ALTERNATE ONE-WAY LEFT WAY TRAFFIC, BLACK TWO-WAY LEFT WAY TRAFFIC,
    WHITE TWO-WAY LEFT WAY TRAFFIC, BLACK LEFT LANE MERGE, WHITE LEFT LANE MERGE,
    DRIVE SLOW SIGN, HEAVY WHITE DOWN-POINTING TRIANGLE, LEFT CLOSED ENTRY, SQUARED SALTIRE,
    FALLING DIAGONAL IN WHITE CIRCLE IN BLACK SQUARE, BLACK TRUCK, RESTRICTED LEFT ENTRY-1,
    RESTRICTED LEFT ENTRY-2, ASTRONOMICAL SYMBOL FOR URANUS,
    HEAVY CIRCLE WITH STROKE AND TWO DOTS ABOVE, PENTAGRAM, RIGHT-HANDED INTERLACED PENTAGRAM,
    LEFT-HANDED INTERLACED PENTAGRAM, INVERTED PENTAGRAM, BLACK CROSS ON SHIELD, SHINTO SHRINE,
    CHURCH, CASTLE, HISTORIC SITE, GEAR WITHOUT HUB, GEAR WITH HANDLES,
    MAP SYMBOL FOR LIGHTHOUSE, MOUNTAIN, UMBRELLA ON GROUND, FOUNTAIN, FLAG IN HOLE, FERRY,
    SAILBOAT, SQUARE FOUR CORNERS, SKIER, ICE SKATE, PERSON WITH BALL, TENT,
    JAPANESE BANK SYMBOL, HEADSTONE GRAVEYARD SYMBOL, FUEL PUMP, CUP ON BLACK SQUARE,
    WHITE FLAG WITH HORIZONTAL MIDDLE BLACK STRIPE, BLACK SAFETY SCISSORS, UPPER BLADE SCISSORS,
    BLACK SCISSORS, LOWER BLADE SCISSORS, WHITE SCISSORS, WHITE HEAVY CHECK MARK,
    TELEPHONE LOCATION SIGN, TAPE DRIVE, AIRPLANE, ENVELOPE, RAISED FIST, RAISED HAND,
    VICTORY HAND, WRITING HAND, LOWER RIGHT PENCIL, PENCIL, UPPER RIGHT PENCIL, WHITE NIB,
    BLACK NIB, CHECK MARK, HEAVY CHECK MARK, MULTIPLICATION X, HEAVY MULTIPLICATION X, BALLOT X,
    HEAVY BALLOT X, OUTLINED GREEK CROSS, HEAVY GREEK CROSS, OPEN CENTRE CROSS,
    HEAVY OPEN CENTRE CROSS, LATIN CROSS, SHADOWED WHITE LATIN CROSS, OUTLINED LATIN CROSS,
    MALTESE CROSS, STAR OF DAVID, FOUR TEARDROP-SPOKED ASTERISK, FOUR BALLOON-SPOKED ASTERISK,
    HEAVY FOUR BALLOON-SPOKED ASTERISK, FOUR CLUB-SPOKED ASTERISK, BLACK FOUR POINTED STAR,
    WHITE FOUR POINTED STAR, SPARKLES, STRESS OUTLINED WHITE STAR, CIRCLED WHITE STAR,
    OPEN CENTRE BLACK STAR, BLACK CENTRE WHITE STAR, OUTLINED BLACK STAR,
    HEAVY OUTLINED BLACK STAR, PINWHEEL STAR, SHADOWED WHITE STAR, HEAVY ASTERISK,
    OPEN CENTRE ASTERISK, EIGHT SPOKED ASTERISK, EIGHT POINTED BLACK STAR,
    EIGHT POINTED PINWHEEL STAR, SIX POINTED BLACK STAR, EIGHT POINTED RECTILINEAR BLACK STAR,
    HEAVY EIGHT POINTED RECTILINEAR BLACK STAR, TWELVE POINTED BLACK STAR,
    SIXTEEN POINTED ASTERISK, TEARDROP-SPOKED ASTERISK, OPEN CENTRE TEARDROP-SPOKED ASTERISK,
    HEAVY TEARDROP-SPOKED ASTERISK, SIX PETALLED BLACK AND WHITE FLORETTE, BLACK FLORETTE,
    WHITE FLORETTE, EIGHT PETALLED OUTLINED BLACK FLORETTE,
    CIRCLED OPEN CENTRE EIGHT POINTED STAR, HEAVY TEARDROP-SPOKED PINWHEEL ASTERISK, SNOWFLAKE,
    TIGHT TRIFOLIATE SNOWFLAKE, HEAVY CHEVRON SNOWFLAKE, SPARKLE, HEAVY SPARKLE,
    BALLOON-SPOKED ASTERISK, EIGHT TEARDROP-SPOKED PROPELLER ASTERISK,
    HEAVY EIGHT TEARDROP-SPOKED PROPELLER ASTERISK, CROSS MARK, SHADOWED WHITE CIRCLE,
    NEGATIVE SQUARED CROSS MARK, LOWER RIGHT DROP-SHADOWED WHITE SQUARE,
    UPPER RIGHT DROP-SHADOWED WHITE SQUARE, LOWER RIGHT SHADOWED WHITE SQUARE,
    UPPER RIGHT SHADOWED WHITE SQUARE, BLACK QUESTION MARK ORNAMENT,
    WHITE QUESTION MARK ORNAMENT, WHITE EXCLAMATION MARK ORNAMENT, BLACK DIAMOND MINUS WHITE X,
    HEAVY EXCLAMATION MARK SYMBOL, LIGHT VERTICAL BAR, MEDIUM VERTICAL BAR, HEAVY VERTICAL BAR,
    HEAVY SINGLE TURNED COMMA QUOTATION MARK ORNAMENT,
    HEAVY SINGLE COMMA QUOTATION MARK ORNAMENT,
    HEAVY DOUBLE TURNED COMMA QUOTATION MARK ORNAMENT,
    HEAVY DOUBLE COMMA QUOTATION MARK ORNAMENT, HEAVY LOW SINGLE COMMA QUOTATION MARK ORNAMENT,
    HEAVY LOW DOUBLE COMMA QUOTATION MARK ORNAMENT, CURVED STEM PARAGRAPH SIGN ORNAMENT,
    HEAVY EXCLAMATION MARK ORNAMENT, HEAVY HEART EXCLAMATION MARK ORNAMENT, HEAVY BLACK HEART,
    ROTATED HEAVY BLACK HEART BULLET, FLORAL HEART, ROTATED FLORAL HEART BULLET,
    MEDIUM LEFT PARENTHESIS ORNAMENT, MEDIUM RIGHT PARENTHESIS ORNAMENT,
    MEDIUM FLATTENED LEFT PARENTHESIS ORNAMENT, MEDIUM FLATTENED RIGHT PARENTHESIS ORNAMENT,
    MEDIUM LEFT-POINTING ANGLE BRACKET ORNAMENT, MEDIUM RIGHT-POINTING ANGLE BRACKET ORNAMENT,
    HEAVY LEFT-POINTING ANGLE QUOTATION MARK ORNAMENT,
    HEAVY RIGHT-POINTING ANGLE QUOTATION MARK ORNAMENT,
    HEAVY LEFT-POINTING ANGLE BRACKET ORNAMENT, HEAVY RIGHT-POINTING ANGLE BRACKET ORNAMENT,
    LIGHT LEFT TORTOISE SHELL BRACKET ORNAMENT, LIGHT RIGHT TORTOISE SHELL BRACKET ORNAMENT,
    MEDIUM LEFT CURLY BRACKET ORNAMENT, MEDIUM RIGHT CURLY BRACKET ORNAMENT"⟩,
  ⟨0x2776, "DINGBAT NEGATIVE CIRCLED ", "DIGIT ONE, DIGIT TWO, DIGIT THREE, DIGIT FOUR,
    DIGIT FIVE, DIGIT SIX, DIGIT SEVEN, DIGIT EIGHT, DIGIT NINE, NUMBER TEN"⟩,
  ⟨0x2780, "DINGBAT CIRCLED SANS-SERIF ", "DIGIT ONE, DIGIT TWO, DIGIT THREE, DIGIT FOUR,
    DIGIT FIVE, DIGIT SIX, DIGIT SEVEN, DIGIT EIGHT, DIGIT NINE, NUMBER TEN"⟩,
  ⟨0x278a, "DINGBAT NEGATIVE CIRCLED SANS-SERIF DIGIT ", "ONE, TWO, THREE, FOUR, FIVE, SIX,
    SEVEN, EIGHT, NINE"⟩,
  ⟨0x2793, "", "DINGBAT NEGATIVE CIRCLED SANS-SERIF NUMBER TEN,
    HEAVY WIDE-HEADED RIGHTWARDS ARROW, HEAVY PLUS SIGN, HEAVY MINUS SIGN, HEAVY DIVISION SIGN,
    HEAVY SOUTH EAST ARROW, HEAVY RIGHTWARDS ARROW, HEAVY NORTH EAST ARROW,
    DRAFTING POINT RIGHTWARDS ARROW, HEAVY ROUND-TIPPED RIGHTWARDS ARROW,
    TRIANGLE-HEADED RIGHTWARDS ARROW, HEAVY TRIANGLE-HEADED RIGHTWARDS ARROW,
    DASHED TRIANGLE-HEADED RIGHTWARDS ARROW, HEAVY DASHED TRIANGLE-HEADED RIGHTWARDS ARROW,
    BLACK RIGHTWARDS ARROW, THREE-D TOP-LIGHTED RIGHTWARDS ARROWHEAD,
    THREE-D BOTTOM-LIGHTED RIGHTWARDS ARROWHEAD, BLACK RIGHTWARDS ARROWHEAD,
    HEAVY BLACK CURVED DOWNWARDS AND RIGHTWARDS ARROW,
    HEAVY BLACK CURVED UPWARDS AND RIGHTWARDS ARROW, SQUAT BLACK RIGHTWARDS ARROW,
    HEAVY CONCAVE-POINTED BLACK RIGHTWARDS ARROW, RIGHT-SHADED WHITE RIGHTWARDS ARROW,
    LEFT-SHADED WHITE RIGHTWARDS ARROW, BACK-TILTED SHADOWED WHITE RIGHTWARDS ARROW,
    FRONT-TILTED SHADOWED WHITE RIGHTWARDS ARROW,
    HEAVY LOWER RIGHT-SHADOWED WHITE RIGHTWARDS ARROW,
    HEAVY UPPER RIGHT-SHADOWED WHITE RIGHTWARDS ARROW,
    NOTCHED LOWER RIGHT-SHADOWED WHITE RIGHTWARDS ARROW, CURLY LOOP,
    NOTCHED UPPER RIGHT-SHADOWED WHITE RIGHTWARDS ARROW, CIRCLED HEAVY WHITE RIGHTWARDS ARROW,
    WHITE-FEATHERED RIGHTWARDS ARROW, BLACK-FEATHERED SOUTH EAST ARROW,
    BLACK-FEATHERED RIGHTWARDS ARROW, BLACK-FEATHERED NORTH EAST ARROW,
    HEAVY BLACK-FEATHERED SOUTH EAST ARROW, HEAVY BLACK-FEATHERED RIGHTWARDS ARROW,
    HEAVY BLACK-FEATHERED NORTH EAST ARROW, TEARDROP-BARBED RIGHTWARDS ARROW,
    HEAVY TEARDROP-SHANKED RIGHTWARDS ARROW, WEDGE-TAILED RIGHTWARDS ARROW,
    HEAVY WEDGE-TAILED RIGHTWARDS ARROW, OPEN-OUTLINED RIGHTWARDS ARROW, DOUBLE CURLY LOOP"⟩,
  ⟨0x27f0, "", "UPWARDS QUADRUPLE ARROW, DOWNWARDS QUADRUPLE ARROW,
    ANTICLOCKWISE GAPPED CIRCLE ARROW, CLOCKWISE GAPPED CIRCLE ARROW,
    RIGHT ARROW WITH CIRCLED PLUS"⟩,
  ⟨0x27f5, "LONG ", "LEFTWARDS ARROW, RIGHTWARDS ARROW, LEFT RIGHT ARROW, LEFTWARDS DOUBLE ARROW,
    RIGHTWARDS DOUBLE ARROW, LEFT RIGHT DOUBLE ARROW, LEFTWARDS ARROW FROM BAR,
    RIGHTWARDS ARROW FROM BAR, LEFTWARDS DOUBLE ARROW FROM BAR, RIGHTWARDS DOUBLE ARROW FROM BAR,
    RIGHTWARDS SQUIGGLE ARROW"⟩,
  ⟨0x2900, "RIGHTWARDS TWO-HEADED ARROW WITH ", "VERTICAL STROKE, DOUBLE VERTICAL STROKE"⟩,
  ⟨0x2902, "", "LEFTWARDS DOUBLE ARROW WITH VERTICAL STROKE,
    RIGHTWARDS DOUBLE ARROW WITH VERTICAL STROKE, LEFT RIGHT DOUBLE ARROW WITH VERTICAL STROKE,
    RIGHTWARDS TWO-HEADED ARROW FROM BAR, LEFTWARDS DOUBLE ARROW FROM BAR,
    RIGHTWARDS DOUBLE ARROW FROM BAR, DOWNWARDS ARROW WITH HORIZONTAL STROKE,
    UPWARDS ARROW WITH HORIZONTAL STROKE, UPWARDS TRIPLE ARROW, DOWNWARDS TRIPLE ARROW,
    LEFTWARDS DOUBLE DASH ARROW, RIGHTWARDS DOUBLE DASH ARROW, LEFTWARDS TRIPLE DASH ARROW,
    RIGHTWARDS TRIPLE DASH ARROW, RIGHTWARDS TWO-HEADED TRIPLE DASH ARROW,
    RIGHTWARDS ARROW WITH DOTTED STEM, UPWARDS ARROW TO BAR, DOWNWARDS ARROW TO BAR"⟩,
  ⟨0x2914, "RIGHTWARDS ARROW WITH TAIL WITH ", "VERTICAL STROKE, DOUBLE VERTICAL STROKE"⟩,
  ⟨0x2916, "RIGHTWARDS TWO-HEADED ARROW WITH ", "TAIL, TAIL WITH VERTICAL STROKE,
    TAIL WITH DOUBLE VERTICAL STROKE"⟩,
  ⟨0x2919, "", "LEFTWARDS ARROW-TAIL, RIGHTWARDS ARROW-TAIL, LEFTWARDS DOUBLE ARROW-TAIL,
    RIGHTWARDS DOUBLE ARROW-TAIL, LEFTWARDS ARROW TO BLACK DIAMOND,
    RIGHTWARDS ARROW TO BLACK DIAMOND, LEFTWARDS ARROW FROM BAR TO BLACK DIAMOND,
    RIGHTWARDS ARROW FROM BAR TO BLACK DIAMOND, NORTH WEST AND SOUTH EAST ARROW,
    NORTH EAST AND SOUTH WEST ARROW, NORTH WEST ARROW WITH HOOK, NORTH EAST ARROW WITH HOOK,
    SOUTH EAST ARROW WITH HOOK, SOUTH WEST ARROW WITH HOOK,
    NORTH WEST ARROW AND NORTH EAST ARROW, NORTH EAST ARROW AND SOUTH EAST ARROW,
    SOUTH EAST ARROW AND SOUTH WEST ARROW, SOUTH WEST ARROW AND NORTH WEST ARROW,
    RISING DIAGONAL CROSSING FALLING DIAGONAL, FALLING DIAGONAL CROSSING RISING DIAGONAL,
    SOUTH EAST ARROW CROSSING NORTH EAST ARROW, NORTH EAST ARROW CROSSING SOUTH EAST ARROW,
    FALLING DIAGONAL CROSSING NORTH EAST ARROW, RISING DIAGONAL CROSSING SOUTH EAST ARROW,
    NORTH EAST ARROW CROSSING NORTH WEST ARROW, NORTH WEST ARROW CROSSING NORTH EAST ARROW,
    WAVE ARROW POINTING DIRECTLY RIGHT, ARROW POINTING RIGHTWARDS THEN CURVING UPWARDS,
    ARROW POINTING RIGHTWARDS THEN CURVING DOWNWARDS,
    ARROW POINTING DOWNWARDS THEN CURVING LEFTWARDS,
    ARROW POINTING DOWNWARDS THEN CURVING RIGHTWARDS, RIGHT-SIDE ARC CLOCKWISE ARROW,
    LEFT-SIDE ARC ANTICLOCKWISE ARROW, TOP ARC ANTICLOCKWISE ARROW,
    BOTTOM ARC ANTICLOCKWISE ARROW, TOP ARC CLOCKWISE ARROW WITH MINUS,
    TOP ARC ANTICLOCKWISE ARROW WITH PLUS, LOWER RIGHT SEMICIRCULAR CLOCKWISE ARROW,
    LOWER LEFT SEMICIRCULAR ANTICLOCKWISE ARROW, ANTICLOCKWISE CLOSED CIRCLE ARROW,
    CLOCKWISE CLOSED CIRCLE ARROW, RIGHTWARDS ARROW ABOVE SHORT LEFTWARDS ARROW,
    LEFTWARDS ARROW ABOVE SHORT RIGHTWARDS ARROW, SHORT RIGHTWARDS ARROW ABOVE LEFTWARDS ARROW,
    RIGHTWARDS ARROW WITH PLUS BELOW, LEFTWARDS ARROW WITH PLUS BELOW,
    RIGHTWARDS ARROW THROUGH X, LEFT RIGHT ARROW THROUGH SMALL CIRCLE,
    UPWARDS TWO-HEADED ARROW FROM SMALL CIRCLE, LEFT BARB UP RIGHT BARB DOWN HARPOON,
    LEFT BARB DOWN RIGHT BARB UP HARPOON, UP BARB RIGHT DOWN BARB LEFT HARPOON,
    UP BARB LEFT DOWN BARB RIGHT HARPOON, LEFT BARB UP RIGHT BARB UP HARPOON,
    UP BARB RIGHT DOWN BARB RIGHT HARPOON, LEFT BARB DOWN RIGHT BARB DOWN HARPOON,
    UP BARB LEFT DOWN BARB LEFT HARPOON, LEFTWARDS HARPOON WITH BARB UP TO BAR,
    RIGHTWARDS HARPOON WITH BARB UP TO BAR, UPWARDS HARPOON WITH BARB RIGHT TO BAR,
    DOWNWARDS HARPOON WITH BARB RIGHT TO BAR, LEFTWARDS HARPOON WITH BARB DOWN TO BAR,
    RIGHTWARDS HARPOON WITH BARB DOWN TO BAR, UPWARDS HARPOON WITH BARB LEFT TO BAR,
    DOWNWARDS HARPOON WITH BARB LEFT TO BAR, LEFTWARDS HARPOON WITH BARB UP FROM BAR,
    RIGHTWARDS HARPOON WITH BARB UP FROM BAR, UPWARDS HARPOON WITH BARB RIGHT FROM BAR,
    DOWNWARDS HARPOON WITH BARB RIGHT FROM BAR, LEFTWARDS HARPOON WITH BARB DOWN FROM BAR,
    RIGHTWARDS HARPOON WITH BARB DOWN FROM BAR, UPWARDS HARPOON WITH BARB LEFT FROM BAR,
    DOWNWARDS HARPOON WITH BARB LEFT FROM BAR,
    LEFTWARDS HARPOON WITH BARB UP ABOVE LEFTWARDS HARPOON WITH BARB DOWN,
    UPWARDS HARPOON WITH BARB LEFT BESIDE UPWARDS HARPOON WITH BARB RIGHT,
    RIGHTWARDS HARPOON WITH BARB UP ABOVE RIGHTWARDS HARPOON WITH BARB DOWN,
    DOWNWARDS HARPOON WITH BARB LEFT BESIDE DOWNWARDS HARPOON WITH BARB RIGHT,
    LEFTWARDS HARPOON WITH BARB UP ABOVE RIGHTWARDS HARPOON WITH BARB UP,
    LEFTWARDS HARPOON WITH BARB DOWN ABOVE RIGHTWARDS HARPOON WITH BARB DOWN,
    RIGHTWARDS HARPOON WITH BARB UP ABOVE LEFTWARDS HARPOON WITH BARB UP,
    RIGHTWARDS HARPOON WITH BARB DOWN ABOVE LEFTWARDS HARPOON WITH BARB DOWN,
    LEFTWARDS HARPOON WITH BARB UP ABOVE LONG DASH,
    LEFTWARDS HARPOON WITH BARB DOWN BELOW LONG DASH,
    RIGHTWARDS HARPOON WITH BARB UP ABOVE LONG DASH,
    RIGHTWARDS HARPOON WITH BARB DOWN BELOW LONG DASH,
    UPWARDS HARPOON WITH BARB LEFT BESIDE DOWNWARDS HARPOON WITH BARB RIGHT,
    DOWNWARDS HARPOON WITH BARB LEFT BESIDE UPWARDS HARPOON WITH BARB RIGHT,
    RIGHT DOUBLE ARROW WITH ROUNDED HEAD, EQUALS SIGN ABOVE RIGHTWARDS ARROW,
    TILDE OPERATOR ABOVE RIGHTWARDS ARROW, LEFTWARDS ARROW ABOVE TILDE OPERATOR,
    RIGHTWARDS ARROW ABOVE TILDE OPERATOR, RIGHTWARDS ARROW ABOVE ALMOST EQUAL TO,
    LESS-THAN ABOVE LEFTWARDS ARROW, LEFTWARDS ARROW THROUGH LESS-THAN,
    GREATER-THAN ABOVE RIGHTWARDS ARROW, SUBSET ABOVE RIGHTWARDS ARROW,
    LEFTWARDS ARROW THROUGH SUBSET, SUPERSET ABOVE LEFTWARDS ARROW, LEFT FISH TAIL,
    RIGHT FISH TAIL, UP FISH TAIL, DOWN FISH TAIL"⟩,
  ⟨0x2b00, "", "NORTH EAST WHITE ARROW, NORTH WEST WHITE ARROW, SOUTH EAST WHITE ARROW,
    SOUTH WEST WHITE ARROW, LEFT RIGHT WHITE ARROW, LEFTWARDS BLACK ARROW, UPWARDS BLACK ARROW,
    DOWNWARDS BLACK ARROW, NORTH EAST BLACK ARROW, NORTH WEST BLACK ARROW,
    SOUTH EAST BLACK ARROW, SOUTH WEST BLACK ARROW, LEFT RIGHT BLACK ARROW, UP DOWN BLACK ARROW,
    RIGHTWARDS ARROW WITH TIP DOWNWARDS, RIGHTWARDS ARROW WITH TIP UPWARDS,
    LEFTWARDS ARROW WITH TIP DOWNWARDS, LEFTWARDS ARROW WITH TIP UPWARDS,
    SQUARE WITH TOP HALF BLACK, SQUARE WITH BOTTOM HALF BLACK,
    SQUARE WITH UPPER RIGHT DIAGONAL HALF BLACK, SQUARE WITH LOWER LEFT DIAGONAL HALF BLACK,
    DIAMOND WITH LEFT HALF BLACK, DIAMOND WITH RIGHT HALF BLACK, DIAMOND WITH TOP HALF BLACK,
    DIAMOND WITH BOTTOM HALF BLACK, DOTTED SQUARE, BLACK LARGE SQUARE, WHITE LARGE SQUARE,
    BLACK VERY SMALL SQUARE, WHITE VERY SMALL SQUARE, BLACK PENTAGON, WHITE PENTAGON,
    WHITE HEXAGON, BLACK HEXAGON, HORIZONTAL BLACK HEXAGON, BLACK LARGE CIRCLE,
    BLACK MEDIUM DIAMOND, WHITE MEDIUM DIAMOND, BLACK MEDIUM LOZENGE, WHITE MEDIUM LOZENGE,
    BLACK SMALL DIAMOND, BLACK SMALL LOZENGE, WHITE SMALL LOZENGE, BLACK HORIZONTAL ELLIPSE,
    WHITE HORIZONTAL ELLIPSE, BLACK VERTICAL ELLIPSE, WHITE VERTICAL ELLIPSE,
    LEFT ARROW WITH SMALL CIRCLE, THREE LEFTWARDS ARROWS, LEFT ARROW WITH CIRCLED PLUS,
    LONG LEFTWARDS SQUIGGLE ARROW"⟩,
  ⟨0x2b34, "LEFTWARDS TWO-HEADED ", "ARROW WITH VERTICAL STROKE,
    ARROW WITH DOUBLE VERTICAL STROKE, ARROW FROM BAR, TRIPLE DASH ARROW"⟩,
  ⟨0x2b38, "LEFTWARDS ARROW WITH ", "DOTTED STEM, TAIL WITH VERTICAL STROKE,
    TAIL WITH DOUBLE VERTICAL STROKE"⟩,
  ⟨0x2b3b, "LEFTWARDS TWO-HEADED ARROW WITH ", "TAIL, TAIL WITH VERTICAL STROKE,
    TAIL WITH DOUBLE VERTICAL STROKE"⟩,
  ⟨0x2b3e, "", "LEFTWARDS ARROW THROUGH X, WAVE ARROW POINTING DIRECTLY LEFT,
    EQUALS SIGN ABOVE LEFTWARDS ARROW, REVERSE TILDE OPERATOR ABOVE LEFTWARDS ARROW,
    LEFTWARDS ARROW ABOVE REVERSE ALMOST EQUAL TO, RIGHTWARDS ARROW THROUGH GREATER-THAN,
    RIGHTWARDS ARROW THROUGH SUPERSET, LEFTWARDS QUADRUPLE ARROW, RIGHTWARDS QUADRUPLE ARROW,
    REVERSE TILDE OPERATOR ABOVE RIGHTWARDS ARROW,
    RIGHTWARDS ARROW ABOVE REVERSE ALMOST EQUAL TO, TILDE OPERATOR ABOVE LEFTWARDS ARROW,
    LEFTWARDS ARROW ABOVE ALMOST EQUAL TO, LEFTWARDS ARROW ABOVE REVERSE TILDE OPERATOR,
    RIGHTWARDS ARROW ABOVE REVERSE TILDE OPERATOR, DOWNWARDS TRIANGLE-HEADED ZIGZAG ARROW,
    SHORT SLANTED NORTH ARROW, SHORT BACKSLANTED SOUTH ARROW, WHITE MEDIUM STAR,
    BLACK SMALL STAR, WHITE SMALL STAR, BLACK RIGHT-POINTING PENTAGON,
    WHITE RIGHT-POINTING PENTAGON, HEAVY LARGE CIRCLE, HEAVY OVAL WITH OVAL INSIDE,
    HEAVY CIRCLE WITH CIRCLE INSIDE, HEAVY CIRCLE, HEAVY CIRCLED SALTIRE,
    SLANTED NORTH ARROW WITH HOOKED HEAD, BACKSLANTED SOUTH ARROW WITH HOOKED TAIL,
    SLANTED NORTH ARROW WITH HORIZONTAL TAIL, BACKSLANTED SOUTH ARROW WITH HORIZONTAL TAIL,
    BENT ARROW POINTING DOWNWARDS THEN NORTH EAST,
    SHORT BENT ARROW POINTING DOWNWARDS THEN NORTH EAST, LEFTWARDS TRIANGLE-HEADED ARROW,
    UPWARDS TRIANGLE-HEADED ARROW, RIGHTWARDS TRIANGLE-HEADED ARROW,
    DOWNWARDS TRIANGLE-HEADED ARROW, LEFT RIGHT TRIANGLE-HEADED ARROW,
    UP DOWN TRIANGLE-HEADED ARROW, NORTH WEST TRIANGLE-HEADED ARROW,
    NORTH EAST TRIANGLE-HEADED ARROW, SOUTH EAST TRIANGLE-HEADED ARROW,
    SOUTH WEST TRIANGLE-HEADED ARROW, LEFTWARDS TRIANGLE-HEADED DASHED ARROW,
    UPWARDS TRIANGLE-HEADED DASHED ARROW, RIGHTWARDS TRIANGLE-HEADED DASHED ARROW,
    DOWNWARDS TRIANGLE-HEADED DASHED ARROW, CLOCKWISE TRIANGLE-HEADED OPEN CIRCLE ARROW,
    ANTICLOCKWISE TRIANGLE-HEADED OPEN CIRCLE ARROW, LEFTWARDS TRIANGLE-HEADED ARROW TO BAR,
    UPWARDS TRIANGLE-HEADED ARROW TO BAR, RIGHTWARDS TRIANGLE-HEADED ARROW TO BAR,
    DOWNWARDS TRIANGLE-HEADED ARROW TO BAR, , , NORTH WEST TRIANGLE-HEADED ARROW TO BAR,
    NORTH EAST TRIANGLE-HEADED ARROW TO BAR, SOUTH EAST TRIANGLE-HEADED ARROW TO BAR,
    SOUTH WEST TRIANGLE-HEADED ARROW TO BAR,
    LEFTWARDS TRIANGLE-HEADED ARROW WITH DOUBLE HORIZONTAL STROKE,
    UPWARDS TRIANGLE-HEADED ARROW WITH DOUBLE HORIZONTAL STROKE,
    RIGHTWARDS TRIANGLE-HEADED ARROW WITH DOUBLE HORIZONTAL STROKE,
    DOWNWARDS TRIANGLE-HEADED ARROW WITH DOUBLE HORIZONTAL STROKE, HORIZONTAL TAB KEY,
    VERTICAL TAB KEY, LEFTWARDS TRIANGLE-HEADED ARROW OVER RIGHTWARDS TRIANGLE-HEADED ARROW,
    UPWARDS TRIANGLE-HEADED ARROW LEFTWARDS OF DOWNWARDS TRIANGLE-HEADED ARROW,
    RIGHTWARDS TRIANGLE-HEADED ARROW OVER LEFTWARDS TRIANGLE-HEADED ARROW,
    DOWNWARDS TRIANGLE-HEADED ARROW LEFTWARDS OF UPWARDS TRIANGLE-HEADED ARROW,
    LEFTWARDS TRIANGLE-HEADED PAIRED ARROWS, UPWARDS TRIANGLE-HEADED PAIRED ARROWS,
    RIGHTWARDS TRIANGLE-HEADED PAIRED ARROWS, DOWNWARDS TRIANGLE-HEADED PAIRED ARROWS,
    LEFTWARDS BLACK CIRCLED WHITE ARROW, UPWARDS BLACK CIRCLED WHITE ARROW,
    RIGHTWARDS BLACK CIRCLED WHITE ARROW, DOWNWARDS BLACK CIRCLED WHITE ARROW"⟩,
  ⟨0x2b8c, "ANTICLOCKWISE TRIANGLE-HEADED ", "RIGHT U-SHAPED ARROW, BOTTOM U-SHAPED ARROW,
    LEFT U-SHAPED ARROW, TOP U-SHAPED ARROW"⟩,
  ⟨0x2b90, "", "RETURN LEFT, RETURN RIGHT, NEWLINE LEFT, NEWLINE RIGHT,
    FOUR CORNER ARROWS CIRCLING ANTICLOCKWISE, RIGHTWARDS BLACK ARROW, ,
    SYMBOL FOR TYPE A ELECTRONICS, THREE-D TOP-LIGHTED LEFTWARDS EQUILATERAL ARROWHEAD,
    THREE-D RIGHT-LIGHTED UPWARDS EQUILATERAL ARROWHEAD,
    THREE-D TOP-LIGHTED RIGHTWARDS EQUILATERAL ARROWHEAD,
    THREE-D LEFT-LIGHTED DOWNWARDS EQUILATERAL ARROWHEAD, BLACK LEFTWARDS EQUILATERAL ARROWHEAD,
    BLACK UPWARDS EQUILATERAL ARROWHEAD, BLACK RIGHTWARDS EQUILATERAL ARROWHEAD,
    BLACK DOWNWARDS EQUILATERAL ARROWHEAD"⟩,
  ⟨0x2ba0, "DOWNWARDS TRIANGLE-HEADED ARROW WITH LONG TIP ", "LEFTWARDS, RIGHTWARDS"⟩,
  ⟨0x2ba2, "UPWARDS TRIANGLE-HEADED ARROW WITH LONG TIP ", "LEFTWARDS, RIGHTWARDS"⟩,
  ⟨0x2ba4, "", "LEFTWARDS TRIANGLE-HEADED ARROW WITH LONG TIP UPWARDS,
    RIGHTWARDS TRIANGLE-HEADED ARROW WITH LONG TIP UPWARDS,
    LEFTWARDS TRIANGLE-HEADED ARROW WITH LONG TIP DOWNWARDS,
    RIGHTWARDS TRIANGLE-HEADED ARROW WITH LONG TIP DOWNWARDS"⟩,
  ⟨0x2ba8, "BLACK CURVED ", "DOWNWARDS AND LEFTWARDS ARROW, DOWNWARDS AND RIGHTWARDS ARROW,
    UPWARDS AND LEFTWARDS ARROW, UPWARDS AND RIGHTWARDS ARROW, LEFTWARDS AND UPWARDS ARROW,
    RIGHTWARDS AND UPWARDS ARROW, LEFTWARDS AND DOWNWARDS ARROW, RIGHTWARDS AND DOWNWARDS ARROW"⟩,
  ⟨0x2bb0, "RIBBON ARROW ", "DOWN LEFT, DOWN RIGHT, UP LEFT, UP RIGHT, LEFT UP, RIGHT UP,
    LEFT DOWN, RIGHT DOWN"⟩,
  ⟨0x2bb8, "", "UPWARDS WHITE ARROW FROM BAR WITH HORIZONTAL BAR,
    UP ARROWHEAD IN A RECTANGLE BOX, OVERLAPPING WHITE SQUARES,
    OVERLAPPING WHITE AND BLACK SQUARES, OVERLAPPING BLACK SQUARES, BALLOT BOX WITH LIGHT X,
    CIRCLED X, CIRCLED BOLD X, BLACK SQUARE CENTRED, BLACK DIAMOND CENTRED,
    TURNED BLACK PENTAGON, HORIZONTAL BLACK OCTAGON, BLACK OCTAGON,
    BLACK MEDIUM UP-POINTING TRIANGLE CENTRED, BLACK MEDIUM DOWN-POINTING TRIANGLE CENTRED,
    BLACK MEDIUM LEFT-POINTING TRIANGLE CENTRED, BLACK MEDIUM RIGHT-POINTING TRIANGLE CENTRED,
    NEPTUNE FORM TWO, TOP HALF BLACK CIRCLE, BOTTOM HALF BLACK CIRCLE,
    LIGHT FOUR POINTED BLACK CUSP, ROTATED LIGHT FOUR POINTED BLACK CUSP,
    WHITE FOUR POINTED CUSP, ROTATED WHITE FOUR POINTED CUSP, SQUARE POSITION INDICATOR,
    UNCERTAINTY SIGN, GROUP MARK, PLUTO FORM TWO, PLUTO FORM THREE, PLUTO FORM FOUR,
    PLUTO FORM FIVE, TRANSPLUTO, PROSERPINA, ASTRAEA, HYGIEA, PHOLUS, NESSUS, WHITE MOON SELENA,
    BLACK DIAMOND ON CROSS, TRUE LIGHT MOON ARTA, CUPIDO, HADES, ZEUS, KRONOS, APOLLON, ADMETOS,
    VULCANUS, POSEIDON, LEFT HALF BLACK STAR, RIGHT HALF BLACK STAR, STAR WITH LEFT HALF BLACK,
    STAR WITH RIGHT HALF BLACK, LEFTWARDS TWO-HEADED ARROW WITH TRIANGLE ARROWHEADS,
    UPWARDS TWO-HEADED ARROW WITH TRIANGLE ARROWHEADS,
    RIGHTWARDS TWO-HEADED ARROW WITH TRIANGLE ARROWHEADS,
    DOWNWARDS TWO-HEADED ARROW WITH TRIANGLE ARROWHEADS, ERIS FORM ONE, ERIS FORM TWO, SEDNA"⟩,
  ⟨0x2bf3, "RUSSIAN ASTROLOGICAL SYMBOL ", "VIGINTILE, NOVILE, QUINTILE, BINOVILE, SENTAGON,
    TREDECILE"⟩,
  ⟨0x2bf9, "", "EQUALS SIGN WITH INFINITY BELOW, UNITED SYMBOL, SEPARATED SYMBOL, DOUBLED SYMBOL,
    PASSED SYMBOL, REVERSED RIGHT ANGLE, HELLSCHREIBER PAUSE SYMBOL"⟩]

end NameTag.CharacterName
