import NameTag.Text.CharacterName.Block

/-!
# Names of mathematical characters

Letterlike symbols, operators, and letters and digits in mathematical styles.
-/

namespace NameTag.CharacterName

def mathematicsBlocks : List Block := [
  ⟨0x2100, "", "ACCOUNT OF, ADDRESSED TO THE SUBJECT, DOUBLE-STRUCK CAPITAL C, DEGREE CELSIUS,
    CENTRE LINE SYMBOL, CARE OF, CADA UNA, EULER CONSTANT, SCRUPLE, DEGREE FAHRENHEIT,
    SCRIPT SMALL G, SCRIPT CAPITAL H, BLACK-LETTER CAPITAL H, DOUBLE-STRUCK CAPITAL H,
    PLANCK CONSTANT, PLANCK CONSTANT OVER TWO PI, SCRIPT CAPITAL I, BLACK-LETTER CAPITAL I,
    SCRIPT CAPITAL L, SCRIPT SMALL L, L B BAR SYMBOL, DOUBLE-STRUCK CAPITAL N, NUMERO SIGN,
    SOUND RECORDING COPYRIGHT, SCRIPT CAPITAL P, DOUBLE-STRUCK CAPITAL P,
    DOUBLE-STRUCK CAPITAL Q, SCRIPT CAPITAL R, BLACK-LETTER CAPITAL R, DOUBLE-STRUCK CAPITAL R,
    PRESCRIPTION TAKE, RESPONSE, SERVICE MARK, TELEPHONE SIGN, TRADE MARK SIGN, VERSICLE,
    DOUBLE-STRUCK CAPITAL Z, OUNCE SIGN, OHM SIGN, INVERTED OHM SIGN, BLACK-LETTER CAPITAL Z,
    TURNED GREEK SMALL LETTER IOTA, KELVIN SIGN, ANGSTROM SIGN, SCRIPT CAPITAL B,
    BLACK-LETTER CAPITAL C, ESTIMATED SYMBOL, SCRIPT SMALL E, SCRIPT CAPITAL E, SCRIPT CAPITAL F,
    TURNED CAPITAL F, SCRIPT CAPITAL M, SCRIPT SMALL O, ALEF SYMBOL, BET SYMBOL, GIMEL SYMBOL,
    DALET SYMBOL, INFORMATION SOURCE, ROTATED CAPITAL Q, FACSIMILE SIGN, DOUBLE-STRUCK SMALL PI,
    DOUBLE-STRUCK SMALL GAMMA, DOUBLE-STRUCK CAPITAL GAMMA, DOUBLE-STRUCK CAPITAL PI,
    DOUBLE-STRUCK N-ARY SUMMATION, TURNED SANS-SERIF CAPITAL G, TURNED SANS-SERIF CAPITAL L,
    REVERSED SANS-SERIF CAPITAL L, TURNED SANS-SERIF CAPITAL Y"⟩,
  ⟨0x2145, "DOUBLE-STRUCK ITALIC ", "CAPITAL D, SMALL D, SMALL E, SMALL I, SMALL J"⟩,
  ⟨0x214a, "", "PROPERTY LINE, TURNED AMPERSAND, PER SIGN, AKTIESELSKAB, TURNED SMALL F,
    SYMBOL FOR SAMARITAN SOURCE"⟩,
  ⟨0x2200, "", "FOR ALL, COMPLEMENT, PARTIAL DIFFERENTIAL, THERE EXISTS, THERE DOES NOT EXIST,
    EMPTY SET, INCREMENT, NABLA, ELEMENT OF, NOT AN ELEMENT OF, SMALL ELEMENT OF,
    CONTAINS AS MEMBER, DOES NOT CONTAIN AS MEMBER, SMALL CONTAINS AS MEMBER, END OF PROOF,
    N-ARY PRODUCT, N-ARY COPRODUCT, N-ARY SUMMATION, MINUS SIGN, MINUS-OR-PLUS SIGN, DOT PLUS,
    DIVISION SLASH, SET MINUS, ASTERISK OPERATOR, RING OPERATOR, BULLET OPERATOR, SQUARE ROOT,
    CUBE ROOT, FOURTH ROOT, PROPORTIONAL TO, INFINITY, RIGHT ANGLE, ANGLE, MEASURED ANGLE,
    SPHERICAL ANGLE, DIVIDES, DOES NOT DIVIDE, PARALLEL TO, NOT PARALLEL TO, LOGICAL AND,
    LOGICAL OR, INTERSECTION, UNION, INTEGRAL, DOUBLE INTEGRAL, TRIPLE INTEGRAL,
    CONTOUR INTEGRAL, SURFACE INTEGRAL, VOLUME INTEGRAL, CLOCKWISE INTEGRAL,
    CLOCKWISE CONTOUR INTEGRAL, ANTICLOCKWISE CONTOUR INTEGRAL, THEREFORE, BECAUSE, RATIO,
    PROPORTION, DOT MINUS, EXCESS, GEOMETRIC PROPORTION, HOMOTHETIC, TILDE OPERATOR,
    REVERSED TILDE, INVERTED LAZY S, SINE WAVE, WREATH PRODUCT, NOT TILDE, MINUS TILDE,
    ASYMPTOTICALLY EQUAL TO, NOT ASYMPTOTICALLY EQUAL TO, APPROXIMATELY EQUAL TO,
    APPROXIMATELY BUT NOT ACTUALLY EQUAL TO, NEITHER APPROXIMATELY NOR ACTUALLY EQUAL TO,
    ALMOST EQUAL TO, NOT ALMOST EQUAL TO, ALMOST EQUAL OR EQUAL TO, TRIPLE TILDE, ALL EQUAL TO,
    EQUIVALENT TO, GEOMETRICALLY EQUIVALENT TO, DIFFERENCE BETWEEN, APPROACHES THE LIMIT,
    GEOMETRICALLY EQUAL TO, APPROXIMATELY EQUAL TO OR THE IMAGE OF,
    IMAGE OF OR APPROXIMATELY EQUAL TO, COLON EQUALS, EQUALS COLON, RING IN EQUAL TO,
    RING EQUAL TO, CORRESPONDS TO, ESTIMATES, EQUIANGULAR TO, STAR EQUALS, DELTA EQUAL TO,
    EQUAL TO BY DEFINITION, MEASURED BY, QUESTIONED EQUAL TO, NOT EQUAL TO, IDENTICAL TO,
    NOT IDENTICAL TO, STRICTLY EQUIVALENT TO, LESS-THAN OR EQUAL TO, GREATER-THAN OR EQUAL TO,
    LESS-THAN OVER EQUAL TO, GREATER-THAN OVER EQUAL TO, LESS-THAN BUT NOT EQUAL TO,
    GREATER-THAN BUT NOT EQUAL TO, MUCH LESS-THAN, MUCH GREATER-THAN, BETWEEN, NOT EQUIVALENT TO,
    NOT LESS-THAN, NOT GREATER-THAN, NEITHER LESS-THAN NOR EQUAL TO,
    NEITHER GREATER-THAN NOR EQUAL TO, LESS-THAN OR EQUIVALENT TO, GREATER-THAN OR EQUIVALENT TO,
    NEITHER LESS-THAN NOR EQUIVALENT TO, NEITHER GREATER-THAN NOR EQUIVALENT TO,
    LESS-THAN OR GREATER-THAN, GREATER-THAN OR LESS-THAN, NEITHER LESS-THAN NOR GREATER-THAN,
    NEITHER GREATER-THAN NOR LESS-THAN, PRECEDES, SUCCEEDS, PRECEDES OR EQUAL TO,
    SUCCEEDS OR EQUAL TO, PRECEDES OR EQUIVALENT TO, SUCCEEDS OR EQUIVALENT TO, DOES NOT PRECEDE,
    DOES NOT SUCCEED, SUBSET OF, SUPERSET OF, NOT A SUBSET OF, NOT A SUPERSET OF,
    SUBSET OF OR EQUAL TO, SUPERSET OF OR EQUAL TO, NEITHER A SUBSET OF NOR EQUAL TO,
    NEITHER A SUPERSET OF NOR EQUAL TO, SUBSET OF WITH NOT EQUAL TO,
    SUPERSET OF WITH NOT EQUAL TO, MULTISET, MULTISET MULTIPLICATION, MULTISET UNION"⟩,
  ⟨0x228f, "SQUARE ", "IMAGE OF, ORIGINAL OF, IMAGE OF OR EQUAL TO, ORIGINAL OF OR EQUAL TO, CAP,
    CUP"⟩,
  ⟨0x2295, "CIRCLED ", "PLUS, MINUS, TIMES, DIVISION SLASH, DOT OPERATOR, RING OPERATOR,
    ASTERISK OPERATOR, EQUALS, DASH"⟩,
  ⟨0x229e, "", "SQUARED PLUS, SQUARED MINUS, SQUARED TIMES, SQUARED DOT OPERATOR, RIGHT TACK,
    LEFT TACK, DOWN TACK, UP TACK, ASSERTION, MODELS, TRUE, FORCES,
    TRIPLE VERTICAL BAR RIGHT TURNSTILE, DOUBLE VERTICAL BAR DOUBLE RIGHT TURNSTILE,
    DOES NOT PROVE, NOT TRUE, DOES NOT FORCE, NEGATED DOUBLE VERTICAL BAR DOUBLE RIGHT TURNSTILE,
    PRECEDES UNDER RELATION, SUCCEEDS UNDER RELATION, NORMAL SUBGROUP OF,
    CONTAINS AS NORMAL SUBGROUP, NORMAL SUBGROUP OF OR EQUAL TO,
    CONTAINS AS NORMAL SUBGROUP OR EQUAL TO, ORIGINAL OF, IMAGE OF, MULTIMAP,
    HERMITIAN CONJUGATE MATRIX, INTERCALATE, XOR, NAND, NOR, RIGHT ANGLE WITH ARC,
    RIGHT TRIANGLE, N-ARY LOGICAL AND, N-ARY LOGICAL OR, N-ARY INTERSECTION, N-ARY UNION,
    DIAMOND OPERATOR, DOT OPERATOR, STAR OPERATOR, DIVISION TIMES, BOWTIE,
    LEFT NORMAL FACTOR SEMIDIRECT PRODUCT, RIGHT NORMAL FACTOR SEMIDIRECT PRODUCT,
    LEFT SEMIDIRECT PRODUCT, RIGHT SEMIDIRECT PRODUCT, REVERSED TILDE EQUALS, CURLY LOGICAL OR,
    CURLY LOGICAL AND, DOUBLE SUBSET, DOUBLE SUPERSET, DOUBLE INTERSECTION, DOUBLE UNION,
    PITCHFORK, EQUAL AND PARALLEL TO, LESS-THAN WITH DOT, GREATER-THAN WITH DOT,
    VERY MUCH LESS-THAN, VERY MUCH GREATER-THAN, LESS-THAN EQUAL TO OR GREATER-THAN,
    GREATER-THAN EQUAL TO OR LESS-THAN, EQUAL TO OR LESS-THAN, EQUAL TO OR GREATER-THAN,
    EQUAL TO OR PRECEDES, EQUAL TO OR SUCCEEDS, DOES NOT PRECEDE OR EQUAL,
    DOES NOT SUCCEED OR EQUAL, NOT SQUARE IMAGE OF OR EQUAL TO,
    NOT SQUARE ORIGINAL OF OR EQUAL TO, SQUARE IMAGE OF OR NOT EQUAL TO,
    SQUARE ORIGINAL OF OR NOT EQUAL TO, LESS-THAN BUT NOT EQUIVALENT TO,
    GREATER-THAN BUT NOT EQUIVALENT TO, PRECEDES BUT NOT EQUIVALENT TO,
    SUCCEEDS BUT NOT EQUIVALENT TO, NOT NORMAL SUBGROUP OF, DOES NOT CONTAIN AS NORMAL SUBGROUP,
    NOT NORMAL SUBGROUP OF OR EQUAL TO, DOES NOT CONTAIN AS NORMAL SUBGROUP OR EQUAL,
    VERTICAL ELLIPSIS, MIDLINE HORIZONTAL ELLIPSIS, UP RIGHT DIAGONAL ELLIPSIS,
    DOWN RIGHT DIAGONAL ELLIPSIS, ELEMENT OF WITH LONG HORIZONTAL STROKE,
    ELEMENT OF WITH VERTICAL BAR AT END OF HORIZONTAL STROKE,
    SMALL ELEMENT OF WITH VERTICAL BAR AT END OF HORIZONTAL STROKE, ELEMENT OF WITH DOT ABOVE,
    ELEMENT OF WITH OVERBAR, SMALL ELEMENT OF WITH OVERBAR, ELEMENT OF WITH UNDERBAR,
    ELEMENT OF WITH TWO HORIZONTAL STROKES, CONTAINS WITH LONG HORIZONTAL STROKE,
    CONTAINS WITH VERTICAL BAR AT END OF HORIZONTAL STROKE,
    SMALL CONTAINS WITH VERTICAL BAR AT END OF HORIZONTAL STROKE, CONTAINS WITH OVERBAR,
    SMALL CONTAINS WITH OVERBAR, Z NOTATION BAG MEMBERSHIP"⟩,
  ⟨0x27c0, "", "THREE DIMENSIONAL ANGLE, WHITE TRIANGLE CONTAINING SMALL WHITE TRIANGLE,
    PERPENDICULAR, OPEN SUBSET, OPEN SUPERSET, LEFT S-SHAPED BAG DELIMITER,
    RIGHT S-SHAPED BAG DELIMITER, OR WITH DOT INSIDE, REVERSE SOLIDUS PRECEDING SUBSET,
    SUPERSET PRECEDING SOLIDUS, VERTICAL BAR WITH HORIZONTAL STROKE,
    MATHEMATICAL RISING DIAGONAL, LONG DIVISION, MATHEMATICAL FALLING DIAGONAL,
    SQUARED LOGICAL AND, SQUARED LOGICAL OR, WHITE DIAMOND WITH CENTRED DOT, AND WITH DOT,
    ELEMENT OF OPENING UPWARDS, LOWER RIGHT CORNER WITH DOT, UPPER LEFT CORNER WITH DOT,
    LEFT OUTER JOIN, RIGHT OUTER JOIN, FULL OUTER JOIN, LARGE UP TACK, LARGE DOWN TACK,
    LEFT AND RIGHT DOUBLE TURNSTILE, LEFT AND RIGHT TACK, LEFT MULTIMAP, LONG RIGHT TACK,
    LONG LEFT TACK, UP TACK WITH CIRCLE ABOVE, LOZENGE DIVIDED BY HORIZONTAL RULE"⟩,
  ⟨0x27e1, "WHITE CONCAVE-SIDED ", "DIAMOND, DIAMOND WITH LEFTWARDS TICK,
    DIAMOND WITH RIGHTWARDS TICK"⟩,
  ⟨0x27e4, "WHITE SQUARE WITH ", "LEFTWARDS TICK, RIGHTWARDS TICK"⟩,
  ⟨0x27e6, "MATHEMATICAL ", "LEFT WHITE SQUARE BRACKET, RIGHT WHITE SQUARE BRACKET,
    LEFT ANGLE BRACKET, RIGHT ANGLE BRACKET, LEFT DOUBLE ANGLE BRACKET,
    RIGHT DOUBLE ANGLE BRACKET, LEFT WHITE TORTOISE SHELL BRACKET,
    RIGHT WHITE TORTOISE SHELL BRACKET, LEFT FLATTENED PARENTHESIS, RIGHT FLATTENED PARENTHESIS"⟩,
  ⟨0x2980, "", "TRIPLE VERTICAL BAR DELIMITER, Z NOTATION SPOT, Z NOTATION TYPE COLON,
    LEFT WHITE CURLY BRACKET, RIGHT WHITE CURLY BRACKET, LEFT WHITE PARENTHESIS,
    RIGHT WHITE PARENTHESIS, Z NOTATION LEFT IMAGE BRACKET, Z NOTATION RIGHT IMAGE BRACKET,
    Z NOTATION LEFT BINDING BRACKET, Z NOTATION RIGHT BINDING BRACKET,
    LEFT SQUARE BRACKET WITH UNDERBAR, RIGHT SQUARE BRACKET WITH UNDERBAR,
    LEFT SQUARE BRACKET WITH TICK IN TOP CORNER, RIGHT SQUARE BRACKET WITH TICK IN BOTTOM CORNER,
    LEFT SQUARE BRACKET WITH TICK IN BOTTOM CORNER, RIGHT SQUARE BRACKET WITH TICK IN TOP CORNER,
    LEFT ANGLE BRACKET WITH DOT, RIGHT ANGLE BRACKET WITH DOT, LEFT ARC LESS-THAN BRACKET,
    RIGHT ARC GREATER-THAN BRACKET, DOUBLE LEFT ARC GREATER-THAN BRACKET,
    DOUBLE RIGHT ARC LESS-THAN BRACKET, LEFT BLACK TORTOISE SHELL BRACKET,
    RIGHT BLACK TORTOISE SHELL BRACKET, DOTTED FENCE, VERTICAL ZIGZAG LINE,
    MEASURED ANGLE OPENING LEFT, RIGHT ANGLE VARIANT WITH SQUARE, MEASURED RIGHT ANGLE WITH DOT,
    ANGLE WITH S INSIDE, ACUTE ANGLE, SPHERICAL ANGLE OPENING LEFT, SPHERICAL ANGLE OPENING UP,
    TURNED ANGLE, REVERSED ANGLE, ANGLE WITH UNDERBAR, REVERSED ANGLE WITH UNDERBAR,
    OBLIQUE ANGLE OPENING UP, OBLIQUE ANGLE OPENING DOWN"⟩,
  ⟨0x29a8, "MEASURED ANGLE WITH OPEN ARM ENDING IN ARROW POINTING ", "UP AND RIGHT, UP AND LEFT,
    DOWN AND RIGHT, DOWN AND LEFT, RIGHT AND UP, LEFT AND UP, RIGHT AND DOWN, LEFT AND DOWN"⟩,
  ⟨0x29b0, "", "REVERSED EMPTY SET, EMPTY SET WITH OVERBAR, EMPTY SET WITH SMALL CIRCLE ABOVE,
    EMPTY SET WITH RIGHT ARROW ABOVE, EMPTY SET WITH LEFT ARROW ABOVE,
    CIRCLE WITH HORIZONTAL BAR, CIRCLED VERTICAL BAR, CIRCLED PARALLEL, CIRCLED REVERSE SOLIDUS,
    CIRCLED PERPENDICULAR, CIRCLE DIVIDED BY HORIZONTAL BAR AND TOP HALF DIVIDED BY VERTICAL BAR,
    CIRCLE WITH SUPERIMPOSED X, CIRCLED ANTICLOCKWISE-ROTATED DIVISION SIGN,
    UP ARROW THROUGH CIRCLE, CIRCLED WHITE BULLET, CIRCLED BULLET, CIRCLED LESS-THAN,
    CIRCLED GREATER-THAN, CIRCLE WITH SMALL CIRCLE TO THE RIGHT,
    CIRCLE WITH TWO HORIZONTAL STROKES TO THE RIGHT, SQUARED RISING DIAGONAL SLASH,
    SQUARED FALLING DIAGONAL SLASH, SQUARED ASTERISK, SQUARED SMALL CIRCLE, SQUARED SQUARE,
    TWO JOINED SQUARES, TRIANGLE WITH DOT ABOVE, TRIANGLE WITH UNDERBAR, S IN TRIANGLE,
    TRIANGLE WITH SERIFS AT BOTTOM, RIGHT TRIANGLE ABOVE LEFT TRIANGLE,
    LEFT TRIANGLE BESIDE VERTICAL BAR, VERTICAL BAR BESIDE RIGHT TRIANGLE,
    BOWTIE WITH LEFT HALF BLACK, BOWTIE WITH RIGHT HALF BLACK, BLACK BOWTIE,
    TIMES WITH LEFT HALF BLACK, TIMES WITH RIGHT HALF BLACK, WHITE HOURGLASS, BLACK HOURGLASS,
    LEFT WIGGLY FENCE, RIGHT WIGGLY FENCE, LEFT DOUBLE WIGGLY FENCE, RIGHT DOUBLE WIGGLY FENCE,
    INCOMPLETE INFINITY, TIE OVER INFINITY, INFINITY NEGATED WITH VERTICAL BAR,
    DOUBLE-ENDED MULTIMAP, SQUARE WITH CONTOURED OUTLINE, INCREASES AS, SHUFFLE PRODUCT,
    EQUALS SIGN AND SLANTED PARALLEL, EQUALS SIGN AND SLANTED PARALLEL WITH TILDE ABOVE,
    IDENTICAL TO AND SLANTED PARALLEL, GLEICH STARK, THERMODYNAMIC,
    DOWN-POINTING TRIANGLE WITH LEFT HALF BLACK, DOWN-POINTING TRIANGLE WITH RIGHT HALF BLACK,
    BLACK DIAMOND WITH DOWN ARROW, BLACK LOZENGE, WHITE CIRCLE WITH DOWN ARROW,
    BLACK CIRCLE WITH DOWN ARROW"⟩,
  ⟨0x29ee, "ERROR-BARRED ", "WHITE SQUARE, BLACK SQUARE, WHITE DIAMOND, BLACK DIAMOND,
    WHITE CIRCLE, BLACK CIRCLE"⟩,
  ⟨0x29f4, "", "RULE-DELAYED, REVERSE SOLIDUS OPERATOR, SOLIDUS WITH OVERBAR,
    REVERSE SOLIDUS WITH HORIZONTAL STROKE, BIG SOLIDUS, BIG REVERSE SOLIDUS, DOUBLE PLUS,
    TRIPLE PLUS, LEFT-POINTING CURVED ANGLE BRACKET, RIGHT-POINTING CURVED ANGLE BRACKET, TINY,
    MINY, N-ARY CIRCLED DOT OPERATOR, N-ARY CIRCLED PLUS OPERATOR, N-ARY CIRCLED TIMES OPERATOR,
    N-ARY UNION OPERATOR WITH DOT, N-ARY UNION OPERATOR WITH PLUS,
    N-ARY SQUARE INTERSECTION OPERATOR, N-ARY SQUARE UNION OPERATOR, TWO LOGICAL AND OPERATOR,
    TWO LOGICAL OR OPERATOR, N-ARY TIMES OPERATOR, MODULO TWO SUM, SUMMATION WITH INTEGRAL,
    QUADRUPLE INTEGRAL OPERATOR, FINITE PART INTEGRAL, INTEGRAL WITH DOUBLE STROKE,
    INTEGRAL AVERAGE WITH SLASH, CIRCULATION FUNCTION, ANTICLOCKWISE INTEGRATION,
    LINE INTEGRATION WITH RECTANGULAR PATH AROUND POLE,
    LINE INTEGRATION WITH SEMICIRCULAR PATH AROUND POLE, LINE INTEGRATION NOT INCLUDING THE POLE,
    INTEGRAL AROUND A POINT OPERATOR, QUATERNION INTEGRAL OPERATOR"⟩,
  ⟨0x2a17, "INTEGRAL WITH ", "LEFTWARDS ARROW WITH HOOK, TIMES SIGN, INTERSECTION, UNION,
    OVERBAR, UNDERBAR"⟩,
  ⟨0x2a1d, "", "JOIN, LARGE LEFT TRIANGLE OPERATOR"⟩,
  ⟨0x2a1f, "Z NOTATION SCHEMA ", "COMPOSITION, PIPING, PROJECTION"⟩,
  ⟨0x2a22, "PLUS SIGN WITH ", "SMALL CIRCLE ABOVE, CIRCUMFLEX ACCENT ABOVE, TILDE ABOVE,
    DOT BELOW, TILDE BELOW, SUBSCRIPT TWO, BLACK TRIANGLE"⟩,
  ⟨0x2a29, "MINUS SIGN WITH ", "COMMA ABOVE, DOT BELOW, FALLING DOTS, RISING DOTS"⟩,
  ⟨0x2a2d, "", "PLUS SIGN IN LEFT HALF CIRCLE, PLUS SIGN IN RIGHT HALF CIRCLE,
    VECTOR OR CROSS PRODUCT, MULTIPLICATION SIGN WITH DOT ABOVE,
    MULTIPLICATION SIGN WITH UNDERBAR, SEMIDIRECT PRODUCT WITH BOTTOM CLOSED, SMASH PRODUCT,
    MULTIPLICATION SIGN IN LEFT HALF CIRCLE, MULTIPLICATION SIGN IN RIGHT HALF CIRCLE,
    CIRCLED MULTIPLICATION SIGN WITH CIRCUMFLEX ACCENT, MULTIPLICATION SIGN IN DOUBLE CIRCLE,
    CIRCLED DIVISION SIGN, PLUS SIGN IN TRIANGLE, MINUS SIGN IN TRIANGLE,
    MULTIPLICATION SIGN IN TRIANGLE, INTERIOR PRODUCT, RIGHTHAND INTERIOR PRODUCT,
    Z NOTATION RELATIONAL COMPOSITION, AMALGAMATION OR COPRODUCT, INTERSECTION WITH DOT,
    UNION WITH MINUS SIGN, UNION WITH OVERBAR, INTERSECTION WITH OVERBAR,
    INTERSECTION WITH LOGICAL AND, UNION WITH LOGICAL OR, UNION ABOVE INTERSECTION,
    INTERSECTION ABOVE UNION, UNION ABOVE BAR ABOVE INTERSECTION,
    INTERSECTION ABOVE BAR ABOVE UNION, UNION BESIDE AND JOINED WITH UNION,
    INTERSECTION BESIDE AND JOINED WITH INTERSECTION, CLOSED UNION WITH SERIFS,
    CLOSED INTERSECTION WITH SERIFS, DOUBLE SQUARE INTERSECTION, DOUBLE SQUARE UNION,
    CLOSED UNION WITH SERIFS AND SMASH PRODUCT, LOGICAL AND WITH DOT ABOVE,
    LOGICAL OR WITH DOT ABOVE, DOUBLE LOGICAL AND, DOUBLE LOGICAL OR,
    TWO INTERSECTING LOGICAL AND, TWO INTERSECTING LOGICAL OR, SLOPING LARGE OR,
    SLOPING LARGE AND, LOGICAL OR OVERLAPPING LOGICAL AND, LOGICAL AND WITH MIDDLE STEM,
    LOGICAL OR WITH MIDDLE STEM, LOGICAL AND WITH HORIZONTAL DASH,
    LOGICAL OR WITH HORIZONTAL DASH, LOGICAL AND WITH DOUBLE OVERBAR, LOGICAL AND WITH UNDERBAR,
    LOGICAL AND WITH DOUBLE UNDERBAR, SMALL VEE WITH UNDERBAR, LOGICAL OR WITH DOUBLE OVERBAR,
    LOGICAL OR WITH DOUBLE UNDERBAR, Z NOTATION DOMAIN ANTIRESTRICTION,
    Z NOTATION RANGE ANTIRESTRICTION, EQUALS SIGN WITH DOT BELOW, IDENTICAL WITH DOT ABOVE,
    TRIPLE HORIZONTAL BAR WITH DOUBLE VERTICAL STROKE,
    TRIPLE HORIZONTAL BAR WITH TRIPLE VERTICAL STROKE, TILDE OPERATOR WITH DOT ABOVE,
    TILDE OPERATOR WITH RISING DOTS, SIMILAR MINUS SIMILAR, CONGRUENT WITH DOT ABOVE,
    EQUALS WITH ASTERISK, ALMOST EQUAL TO WITH CIRCUMFLEX ACCENT,
    APPROXIMATELY EQUAL OR EQUAL TO, EQUALS SIGN ABOVE PLUS SIGN, PLUS SIGN ABOVE EQUALS SIGN,
    EQUALS SIGN ABOVE TILDE OPERATOR, DOUBLE COLON EQUAL, TWO CONSECUTIVE EQUALS SIGNS,
    THREE CONSECUTIVE EQUALS SIGNS, EQUALS SIGN WITH TWO DOTS ABOVE AND TWO DOTS BELOW,
    EQUIVALENT WITH FOUR DOTS ABOVE, LESS-THAN WITH CIRCLE INSIDE,
    GREATER-THAN WITH CIRCLE INSIDE, LESS-THAN WITH QUESTION MARK ABOVE,
    GREATER-THAN WITH QUESTION MARK ABOVE, LESS-THAN OR SLANTED EQUAL TO,
    GREATER-THAN OR SLANTED EQUAL TO, LESS-THAN OR SLANTED EQUAL TO WITH DOT INSIDE,
    GREATER-THAN OR SLANTED EQUAL TO WITH DOT INSIDE,
    LESS-THAN OR SLANTED EQUAL TO WITH DOT ABOVE,
    GREATER-THAN OR SLANTED EQUAL TO WITH DOT ABOVE,
    LESS-THAN OR SLANTED EQUAL TO WITH DOT ABOVE RIGHT,
    GREATER-THAN OR SLANTED EQUAL TO WITH DOT ABOVE LEFT, LESS-THAN OR APPROXIMATE,
    GREATER-THAN OR APPROXIMATE, LESS-THAN AND SINGLE-LINE NOT EQUAL TO,
    GREATER-THAN AND SINGLE-LINE NOT EQUAL TO, LESS-THAN AND NOT APPROXIMATE,
    GREATER-THAN AND NOT APPROXIMATE, LESS-THAN ABOVE DOUBLE-LINE EQUAL ABOVE GREATER-THAN,
    GREATER-THAN ABOVE DOUBLE-LINE EQUAL ABOVE LESS-THAN, LESS-THAN ABOVE SIMILAR OR EQUAL,
    GREATER-THAN ABOVE SIMILAR OR EQUAL, LESS-THAN ABOVE SIMILAR ABOVE GREATER-THAN,
    GREATER-THAN ABOVE SIMILAR ABOVE LESS-THAN,
    LESS-THAN ABOVE GREATER-THAN ABOVE DOUBLE-LINE EQUAL,
    GREATER-THAN ABOVE LESS-THAN ABOVE DOUBLE-LINE EQUAL,
    LESS-THAN ABOVE SLANTED EQUAL ABOVE GREATER-THAN ABOVE SLANTED EQUAL,
    GREATER-THAN ABOVE SLANTED EQUAL ABOVE LESS-THAN ABOVE SLANTED EQUAL"⟩,
  ⟨0x2a95, "SLANTED EQUAL TO OR ", "LESS-THAN, GREATER-THAN, LESS-THAN WITH DOT INSIDE,
    GREATER-THAN WITH DOT INSIDE"⟩,
  ⟨0x2a99, "DOUBLE-LINE ", "EQUAL TO OR LESS-THAN, EQUAL TO OR GREATER-THAN,
    SLANTED EQUAL TO OR LESS-THAN, SLANTED EQUAL TO OR GREATER-THAN"⟩,
  ⟨0x2a9d, "", "SIMILAR OR LESS-THAN, SIMILAR OR GREATER-THAN,
    SIMILAR ABOVE LESS-THAN ABOVE EQUALS SIGN, SIMILAR ABOVE GREATER-THAN ABOVE EQUALS SIGN,
    DOUBLE NESTED LESS-THAN, DOUBLE NESTED GREATER-THAN, DOUBLE NESTED LESS-THAN WITH UNDERBAR,
    GREATER-THAN OVERLAPPING LESS-THAN, GREATER-THAN BESIDE LESS-THAN, LESS-THAN CLOSED BY CURVE,
    GREATER-THAN CLOSED BY CURVE, LESS-THAN CLOSED BY CURVE ABOVE SLANTED EQUAL,
    GREATER-THAN CLOSED BY CURVE ABOVE SLANTED EQUAL, SMALLER THAN, LARGER THAN,
    SMALLER THAN OR EQUAL TO, LARGER THAN OR EQUAL TO, EQUALS SIGN WITH BUMPY ABOVE,
    PRECEDES ABOVE SINGLE-LINE EQUALS SIGN, SUCCEEDS ABOVE SINGLE-LINE EQUALS SIGN,
    PRECEDES ABOVE SINGLE-LINE NOT EQUAL TO, SUCCEEDS ABOVE SINGLE-LINE NOT EQUAL TO,
    PRECEDES ABOVE EQUALS SIGN, SUCCEEDS ABOVE EQUALS SIGN, PRECEDES ABOVE NOT EQUAL TO,
    SUCCEEDS ABOVE NOT EQUAL TO, PRECEDES ABOVE ALMOST EQUAL TO, SUCCEEDS ABOVE ALMOST EQUAL TO,
    PRECEDES ABOVE NOT ALMOST EQUAL TO, SUCCEEDS ABOVE NOT ALMOST EQUAL TO, DOUBLE PRECEDES,
    DOUBLE SUCCEEDS, SUBSET WITH DOT, SUPERSET WITH DOT, SUBSET WITH PLUS SIGN BELOW,
    SUPERSET WITH PLUS SIGN BELOW, SUBSET WITH MULTIPLICATION SIGN BELOW,
    SUPERSET WITH MULTIPLICATION SIGN BELOW, SUBSET OF OR EQUAL TO WITH DOT ABOVE,
    SUPERSET OF OR EQUAL TO WITH DOT ABOVE, SUBSET OF ABOVE EQUALS SIGN,
    SUPERSET OF ABOVE EQUALS SIGN, SUBSET OF ABOVE TILDE OPERATOR,
    SUPERSET OF ABOVE TILDE OPERATOR, SUBSET OF ABOVE ALMOST EQUAL TO,
    SUPERSET OF ABOVE ALMOST EQUAL TO, SUBSET OF ABOVE NOT EQUAL TO,
    SUPERSET OF ABOVE NOT EQUAL TO, SQUARE LEFT OPEN BOX OPERATOR,
    SQUARE RIGHT OPEN BOX OPERATOR, CLOSED SUBSET, CLOSED SUPERSET, CLOSED SUBSET OR EQUAL TO,
    CLOSED SUPERSET OR EQUAL TO, SUBSET ABOVE SUPERSET, SUPERSET ABOVE SUBSET,
    SUBSET ABOVE SUBSET, SUPERSET ABOVE SUPERSET, SUPERSET BESIDE SUBSET,
    SUPERSET BESIDE AND JOINED BY DASH WITH SUBSET, ELEMENT OF OPENING DOWNWARDS,
    PITCHFORK WITH TEE TOP, TRANSVERSAL INTERSECTION, FORKING, NONFORKING, SHORT LEFT TACK,
    SHORT DOWN TACK, SHORT UP TACK, PERPENDICULAR WITH S, VERTICAL BAR TRIPLE RIGHT TURNSTILE,
    DOUBLE VERTICAL BAR LEFT TURNSTILE, VERTICAL BAR DOUBLE LEFT TURNSTILE,
    DOUBLE VERTICAL BAR DOUBLE LEFT TURNSTILE, LONG DASH FROM LEFT MEMBER OF DOUBLE VERTICAL,
    SHORT DOWN TACK WITH OVERBAR, SHORT UP TACK WITH UNDERBAR,
    SHORT UP TACK ABOVE SHORT DOWN TACK, DOUBLE DOWN TACK, DOUBLE UP TACK,
    DOUBLE STROKE NOT SIGN, REVERSED DOUBLE STROKE NOT SIGN,
    DOES NOT DIVIDE WITH REVERSED NEGATION SLASH, VERTICAL LINE WITH CIRCLE ABOVE,
    VERTICAL LINE WITH CIRCLE BELOW, DOWN TACK WITH CIRCLE BELOW,
    PARALLEL WITH HORIZONTAL STROKE, PARALLEL WITH TILDE OPERATOR,
    TRIPLE VERTICAL BAR BINARY RELATION, TRIPLE VERTICAL BAR WITH HORIZONTAL STROKE,
    TRIPLE COLON OPERATOR, TRIPLE NESTED LESS-THAN, TRIPLE NESTED GREATER-THAN,
    DOUBLE-LINE SLANTED LESS-THAN OR EQUAL TO, DOUBLE-LINE SLANTED GREATER-THAN OR EQUAL TO,
    TRIPLE SOLIDUS BINARY RELATION, LARGE TRIPLE VERTICAL BAR OPERATOR, DOUBLE SOLIDUS OPERATOR,
    WHITE VERTICAL BAR, N-ARY WHITE VERTICAL BAR"⟩,
  ⟨0x1d400, "MATHEMATICAL BOLD CAPITAL ", "A, B, C, D, E, F, G, H, I, J, K, L, M, N, O, P, Q, R,
    S, T, U, V, W, X, Y, Z"⟩,
  ⟨0x1d41a, "MATHEMATICAL BOLD SMALL ", "A, B, C, D, E, F, G, H, I, J, K, L, M, N, O, P, Q, R, S,
    T, U, V, W, X, Y, Z"⟩,
  ⟨0x1d434, "MATHEMATICAL ITALIC CAPITAL ", "A, B, C, D, E, F, G, H, I, J, K, L, M, N, O, P, Q,
    R, S, T, U, V, W, X, Y, Z"⟩,
  ⟨0x1d44e, "MATHEMATICAL ITALIC SMALL ", "A, B, C, D, E, F, G, , I, J, K, L, M, N, O, P, Q, R,
    S, T, U, V, W, X, Y, Z"⟩,
  ⟨0x1d468, "MATHEMATICAL BOLD ITALIC CAPITAL ", "A, B, C, D, E, F, G, H, I, J, K, L, M, N, O, P,
    Q, R, S, T, U, V, W, X, Y, Z"⟩,
  ⟨0x1d482, "MATHEMATICAL BOLD ITALIC SMALL ", "A, B, C, D, E, F, G, H, I, J, K, L, M, N, O, P,
    Q, R, S, T, U, V, W, X, Y, Z"⟩,
  ⟨0x1d49c, "MATHEMATICAL SCRIPT CAPITAL ", "A, , C, D, , , G, , , J, K, , , N, O, P, Q, , S, T,
    U, V, W, X, Y, Z"⟩,
  ⟨0x1d4b6, "MATHEMATICAL SCRIPT SMALL ", "A, B, C, D, , F, , H, I, J, K, L, M, N, , P, Q, R, S,
    T, U, V, W, X, Y, Z"⟩,
  ⟨0x1d4d0, "MATHEMATICAL BOLD SCRIPT CAPITAL ", "A, B, C, D, E, F, G, H, I, J, K, L, M, N, O, P,
    Q, R, S, T, U, V, W, X, Y, Z"⟩,
  ⟨0x1d4ea, "MATHEMATICAL BOLD SCRIPT SMALL ", "A, B, C, D, E, F, G, H, I, J, K, L, M, N, O, P,
    Q, R, S, T, U, V, W, X, Y, Z"⟩,
  ⟨0x1d504, "MATHEMATICAL FRAKTUR CAPITAL ", "A, B, , D, E, F, G, , , J, K, L, M, N, O, P, Q, ,
    S, T, U, V, W, X, Y"⟩,
  ⟨0x1d51e, "MATHEMATICAL FRAKTUR SMALL ", "A, B, C, D, E, F, G, H, I, J, K, L, M, N, O, P, Q, R,
    S, T, U, V, W, X, Y, Z"⟩,
  ⟨0x1d538, "MATHEMATICAL DOUBLE-STRUCK CAPITAL ", "A, B, , D, E, F, G, , I, J, K, L, M, , O, , ,
    , S, T, U, V, W, X, Y"⟩,
  ⟨0x1d552, "MATHEMATICAL DOUBLE-STRUCK SMALL ", "A, B, C, D, E, F, G, H, I, J, K, L, M, N, O, P,
    Q, R, S, T, U, V, W, X, Y, Z"⟩,
  ⟨0x1d56c, "MATHEMATICAL BOLD FRAKTUR CAPITAL ", "A, B, C, D, E, F, G, H, I, J, K, L, M, N, O,
    P, Q, R, S, T, U, V, W, X, Y, Z"⟩,
  ⟨0x1d586, "MATHEMATICAL BOLD FRAKTUR SMALL ", "A, B, C, D, E, F, G, H, I, J, K, L, M, N, O, P,
    Q, R, S, T, U, V, W, X, Y, Z"⟩,
  ⟨0x1d5a0, "MATHEMATICAL SANS-SERIF CAPITAL ", "A, B, C, D, E, F, G, H, I, J, K, L, M, N, O, P,
    Q, R, S, T, U, V, W, X, Y, Z"⟩,
  ⟨0x1d5ba, "MATHEMATICAL SANS-SERIF SMALL ", "A, B, C, D, E, F, G, H, I, J, K, L, M, N, O, P, Q,
    R, S, T, U, V, W, X, Y, Z"⟩,
  ⟨0x1d5d4, "MATHEMATICAL SANS-SERIF BOLD CAPITAL ", "A, B, C, D, E, F, G, H, I, J, K, L, M, N,
    O, P, Q, R, S, T, U, V, W, X, Y, Z"⟩,
  ⟨0x1d5ee, "MATHEMATICAL SANS-SERIF BOLD SMALL ", "A, B, C, D, E, F, G, H, I, J, K, L, M, N, O,
    P, Q, R, S, T, U, V, W, X, Y, Z"⟩,
  ⟨0x1d608, "MATHEMATICAL SANS-SERIF ITALIC CAPITAL ", "A, B, C, D, E, F, G, H, I, J, K, L, M, N,
    O, P, Q, R, S, T, U, V, W, X, Y, Z"⟩,
  ⟨0x1d622, "MATHEMATICAL SANS-SERIF ITALIC SMALL ", "A, B, C, D, E, F, G, H, I, J, K, L, M, N,
    O, P, Q, R, S, T, U, V, W, X, Y, Z"⟩,
  ⟨0x1d63c, "MATHEMATICAL SANS-SERIF BOLD ITALIC CAPITAL ", "A, B, C, D, E, F, G, H, I, J, K, L,
    M, N, O, P, Q, R, S, T, U, V, W, X, Y, Z"⟩,
  ⟨0x1d656, "MATHEMATICAL SANS-SERIF BOLD ITALIC SMALL ", "A, B, C, D, E, F, G, H, I, J, K, L, M,
    N, O, P, Q, R, S, T, U, V, W, X, Y, Z"⟩,
  ⟨0x1d670, "MATHEMATICAL MONOSPACE CAPITAL ", "A, B, C, D, E, F, G, H, I, J, K, L, M, N, O, P,
    Q, R, S, T, U, V, W, X, Y, Z"⟩,
  ⟨0x1d68a, "MATHEMATICAL MONOSPACE SMALL ", "A, B, C, D, E, F, G, H, I, J, K, L, M, N, O, P, Q,
    R, S, T, U, V, W, X, Y, Z"⟩,
  ⟨0x1d6a4, "MATHEMATICAL ITALIC SMALL DOTLESS ", "I, J"⟩,
  ⟨0x1d6a8, "MATHEMATICAL BOLD CAPITAL ", "ALPHA, BETA, GAMMA, DELTA, EPSILON, ZETA, ETA, THETA,
    IOTA, KAPPA, LAMDA, MU, NU, XI, OMICRON, PI, RHO, THETA SYMBOL, SIGMA, TAU, UPSILON, PHI,
    CHI, PSI, OMEGA"⟩,
  ⟨0x1d6c1, "MATHEMATICAL BOLD ", "NABLA"⟩,
  ⟨0x1d6c2, "MATHEMATICAL BOLD SMALL ", "ALPHA, BETA, GAMMA, DELTA, EPSILON, ZETA, ETA, THETA,
    IOTA, KAPPA, LAMDA, MU, NU, XI, OMICRON, PI, RHO, FINAL SIGMA, SIGMA, TAU, UPSILON, PHI, CHI,
    PSI, OMEGA"⟩,
  ⟨0x1d6db, "MATHEMATICAL BOLD ", "PARTIAL DIFFERENTIAL, EPSILON SYMBOL, THETA SYMBOL,
    KAPPA SYMBOL, PHI SYMBOL, RHO SYMBOL, PI SYMBOL"⟩,
  ⟨0x1d6e2, "MATHEMATICAL ITALIC CAPITAL ", "ALPHA, BETA, GAMMA, DELTA, EPSILON, ZETA, ETA,
    THETA, IOTA, KAPPA, LAMDA, MU, NU, XI, OMICRON, PI, RHO, THETA SYMBOL, SIGMA, TAU, UPSILON,
    PHI, CHI, PSI, OMEGA"⟩,
  ⟨0x1d6fb, "MATHEMATICAL ITALIC ", "NABLA"⟩,
  ⟨0x1d6fc, "MATHEMATICAL ITALIC SMALL ", "ALPHA, BETA, GAMMA, DELTA, EPSILON, ZETA, ETA, THETA,
    IOTA, KAPPA, LAMDA, MU, NU, XI, OMICRON, PI, RHO, FINAL SIGMA, SIGMA, TAU, UPSILON, PHI, CHI,
    PSI, OMEGA"⟩,
  ⟨0x1d715, "MATHEMATICAL ITALIC ", "PARTIAL DIFFERENTIAL, EPSILON SYMBOL, THETA SYMBOL,
    KAPPA SYMBOL, PHI SYMBOL, RHO SYMBOL, PI SYMBOL"⟩,
  ⟨0x1d71c, "MATHEMATICAL BOLD ITALIC CAPITAL ", "ALPHA, BETA, GAMMA, DELTA, EPSILON, ZETA, ETA,
    THETA, IOTA, KAPPA, LAMDA, MU, NU, XI, OMICRON, PI, RHO, THETA SYMBOL, SIGMA, TAU, UPSILON,
    PHI, CHI, PSI, OMEGA"⟩,
  ⟨0x1d735, "MATHEMATICAL BOLD ITALIC ", "NABLA"⟩,
  ⟨0x1d736, "MATHEMATICAL BOLD ITALIC SMALL ", "ALPHA, BETA, GAMMA, DELTA, EPSILON, ZETA, ETA,
    THETA, IOTA, KAPPA, LAMDA, MU, NU, XI, OMICRON, PI, RHO, FINAL SIGMA, SIGMA, TAU, UPSILON,
    PHI, CHI, PSI, OMEGA"⟩,
  ⟨0x1d74f, "MATHEMATICAL BOLD ITALIC ", "PARTIAL DIFFERENTIAL, EPSILON SYMBOL, THETA SYMBOL,
    KAPPA SYMBOL, PHI SYMBOL, RHO SYMBOL, PI SYMBOL"⟩,
  ⟨0x1d756, "MATHEMATICAL SANS-SERIF BOLD CAPITAL ", "ALPHA, BETA, GAMMA, DELTA, EPSILON, ZETA,
    ETA, THETA, IOTA, KAPPA, LAMDA, MU, NU, XI, OMICRON, PI, RHO, THETA SYMBOL, SIGMA, TAU,
    UPSILON, PHI, CHI, PSI, OMEGA"⟩,
  ⟨0x1d76f, "MATHEMATICAL SANS-SERIF BOLD ", "NABLA"⟩,
  ⟨0x1d770, "MATHEMATICAL SANS-SERIF BOLD SMALL ", "ALPHA, BETA, GAMMA, DELTA, EPSILON, ZETA,
    ETA, THETA, IOTA, KAPPA, LAMDA, MU, NU, XI, OMICRON, PI, RHO, FINAL SIGMA, SIGMA, TAU,
    UPSILON, PHI, CHI, PSI, OMEGA"⟩,
  ⟨0x1d789, "MATHEMATICAL SANS-SERIF BOLD ", "PARTIAL DIFFERENTIAL, EPSILON SYMBOL, THETA SYMBOL,
    KAPPA SYMBOL, PHI SYMBOL, RHO SYMBOL, PI SYMBOL"⟩,
  ⟨0x1d790, "MATHEMATICAL SANS-SERIF BOLD ITALIC CAPITAL ", "ALPHA, BETA, GAMMA, DELTA, EPSILON,
    ZETA, ETA, THETA, IOTA, KAPPA, LAMDA, MU, NU, XI, OMICRON, PI, RHO, THETA SYMBOL, SIGMA, TAU,
    UPSILON, PHI, CHI, PSI, OMEGA"⟩,
  ⟨0x1d7a9, "MATHEMATICAL SANS-SERIF BOLD ITALIC ", "NABLA"⟩,
  ⟨0x1d7aa, "MATHEMATICAL SANS-SERIF BOLD ITALIC SMALL ", "ALPHA, BETA, GAMMA, DELTA, EPSILON,
    ZETA, ETA, THETA, IOTA, KAPPA, LAMDA, MU, NU, XI, OMICRON, PI, RHO, FINAL SIGMA, SIGMA, TAU,
    UPSILON, PHI, CHI, PSI, OMEGA"⟩,
  ⟨0x1d7c3, "MATHEMATICAL SANS-SERIF BOLD ITALIC ", "PARTIAL DIFFERENTIAL, EPSILON SYMBOL,
    THETA SYMBOL, KAPPA SYMBOL, PHI SYMBOL, RHO SYMBOL, PI SYMBOL"⟩,
  ⟨0x1d7ca, "MATHEMATICAL BOLD ", "CAPITAL DIGAMMA, SMALL DIGAMMA"⟩,
  ⟨0x1d7ce, "MATHEMATICAL BOLD DIGIT ", "ZERO, ONE, TWO, THREE, FOUR, FIVE, SIX, SEVEN, EIGHT,
    NINE"⟩,
  ⟨0x1d7d8, "MATHEMATICAL DOUBLE-STRUCK DIGIT ", "ZERO, ONE, TWO, THREE, FOUR, FIVE, SIX, SEVEN,
    EIGHT, NINE"⟩,
  ⟨0x1d7e2, "MATHEMATICAL SANS-SERIF DIGIT ", "ZERO, ONE, TWO, THREE, FOUR, FIVE, SIX, SEVEN,
    EIGHT, NINE"⟩,
  ⟨0x1d7ec, "MATHEMATICAL SANS-SERIF BOLD DIGIT ", "ZERO, ONE, TWO, THREE, FOUR, FIVE, SIX,
    SEVEN, EIGHT, NINE"⟩,
  ⟨0x1d7f6, "MATHEMATICAL MONOSPACE DIGIT ", "ZERO, ONE, TWO, THREE, FOUR, FIVE, SIX, SEVEN,
    EIGHT, NINE"⟩]

end NameTag.CharacterName
