set_option autoImplicit false

/-! # Names of characters

The names of characters in Unicode 14, for the alphabets of Europe, punctuation, signs, symbols,
kana and pictures, and the second names that some characters have.
-/

namespace TestSkeleton.Text.Table

/-- The names of characters in the order of their numbers, with semicolons between them. Each starts
with the number of words that it shares with the name before it, and has its other words behind
that. A word that starts with `@` is the hexadecimal number of the character of this name; all other
characters follow the one before. -/
def characterNames : String := "
@20 0 SPACE; 0 EXCLAMATION MARK; 0 QUOTATION MARK; 0 NUMBER SIGN; 0 DOLLAR SIGN; 0 PERCENT SIGN; 0
AMPERSAND; 0 APOSTROPHE; 0 LEFT PARENTHESIS; 0 RIGHT PARENTHESIS; 0 ASTERISK; 0 PLUS SIGN; 0 COMMA;
0 HYPHEN-MINUS; 0 FULL STOP; 0 SOLIDUS; 0 DIGIT ZERO; 1 ONE; 1 TWO; 1 THREE; 1 FOUR; 1 FIVE; 1 SIX;
1 SEVEN; 1 EIGHT; 1 NINE; 0 COLON; 0 SEMICOLON; 0 LESS-THAN SIGN; 0 EQUALS SIGN; 0 GREATER-THAN
SIGN; 0 QUESTION MARK; 0 COMMERCIAL AT; 0 LATIN CAPITAL LETTER A; 3 B; 3 C; 3 D; 3 E; 3 F; 3 G; 3
H; 3 I; 3 J; 3 K; 3 L; 3 M; 3 N; 3 O; 3 P; 3 Q; 3 R; 3 S; 3 T; 3 U; 3 V; 3 W; 3 X; 3 Y; 3 Z; 0 LEFT
SQUARE BRACKET; 0 REVERSE SOLIDUS; 0 RIGHT SQUARE BRACKET; 0 CIRCUMFLEX ACCENT; 0 LOW LINE; 0 GRAVE
ACCENT; 0 LATIN SMALL LETTER A; 3 B; 3 C; 3 D; 3 E; 3 F; 3 G; 3 H; 3 I; 3 J; 3 K; 3 L; 3 M; 3 N; 3
O; 3 P; 3 Q; 3 R; 3 S; 3 T; 3 U; 3 V; 3 W; 3 X; 3 Y; 3 Z; 0 LEFT CURLY BRACKET; 0 VERTICAL LINE; 0
RIGHT CURLY BRACKET; 0 TILDE; @A0 0 NO-BREAK SPACE; 0 INVERTED EXCLAMATION MARK; 0 CENT SIGN; 0
POUND SIGN; 0 CURRENCY SIGN; 0 YEN SIGN; 0 BROKEN BAR; 0 SECTION SIGN; 0 DIAERESIS; 0 COPYRIGHT
SIGN; 0 FEMININE ORDINAL INDICATOR; 0 LEFT-POINTING DOUBLE ANGLE QUOTATION MARK; 0 NOT SIGN; 0 SOFT
HYPHEN; 0 REGISTERED SIGN; 0 MACRON; 0 DEGREE SIGN; 0 PLUS-MINUS SIGN; 0 SUPERSCRIPT TWO; 1 THREE;
0 ACUTE ACCENT; 0 MICRO SIGN; 0 PILCROW SIGN; 0 MIDDLE DOT; 0 CEDILLA; 0 SUPERSCRIPT ONE; 0
MASCULINE ORDINAL INDICATOR; 0 RIGHT-POINTING DOUBLE ANGLE QUOTATION MARK; 0 VULGAR FRACTION ONE
QUARTER; 3 HALF; 2 THREE QUARTERS; 0 INVERTED QUESTION MARK; 0 LATIN CAPITAL LETTER A WITH GRAVE; 5
ACUTE; 5 CIRCUMFLEX; 5 TILDE; 5 DIAERESIS; 5 RING ABOVE; 3 AE; 3 C WITH CEDILLA; 3 E WITH GRAVE; 5
ACUTE; 5 CIRCUMFLEX; 5 DIAERESIS; 3 I WITH GRAVE; 5 ACUTE; 5 CIRCUMFLEX; 5 DIAERESIS; 3 ETH; 3 N
WITH TILDE; 3 O WITH GRAVE; 5 ACUTE; 5 CIRCUMFLEX; 5 TILDE; 5 DIAERESIS; 0 MULTIPLICATION SIGN; 0
LATIN CAPITAL LETTER O WITH STROKE; 3 U WITH GRAVE; 5 ACUTE; 5 CIRCUMFLEX; 5 DIAERESIS; 3 Y WITH
ACUTE; 3 THORN; 1 SMALL LETTER SHARP S; 3 A WITH GRAVE; 5 ACUTE; 5 CIRCUMFLEX; 5 TILDE; 5
DIAERESIS; 5 RING ABOVE; 3 AE; 3 C WITH CEDILLA; 3 E WITH GRAVE; 5 ACUTE; 5 CIRCUMFLEX; 5
DIAERESIS; 3 I WITH GRAVE; 5 ACUTE; 5 CIRCUMFLEX; 5 DIAERESIS; 3 ETH; 3 N WITH TILDE; 3 O WITH
GRAVE; 5 ACUTE; 5 CIRCUMFLEX; 5 TILDE; 5 DIAERESIS; 0 DIVISION SIGN; 0 LATIN SMALL LETTER O WITH
STROKE; 3 U WITH GRAVE; 5 ACUTE; 5 CIRCUMFLEX; 5 DIAERESIS; 3 Y WITH ACUTE; 3 THORN; 3 Y WITH
DIAERESIS; 1 CAPITAL LETTER A WITH MACRON; 1 SMALL LETTER A WITH MACRON; 1 CAPITAL LETTER A WITH
BREVE; 1 SMALL LETTER A WITH BREVE; 1 CAPITAL LETTER A WITH OGONEK; 1 SMALL LETTER A WITH OGONEK; 1
CAPITAL LETTER C WITH ACUTE; 1 SMALL LETTER C WITH ACUTE; 1 CAPITAL LETTER C WITH CIRCUMFLEX; 1
SMALL LETTER C WITH CIRCUMFLEX; 1 CAPITAL LETTER C WITH DOT ABOVE; 1 SMALL LETTER C WITH DOT ABOVE;
1 CAPITAL LETTER C WITH CARON; 1 SMALL LETTER C WITH CARON; 1 CAPITAL LETTER D WITH CARON; 1 SMALL
LETTER D WITH CARON; 1 CAPITAL LETTER D WITH STROKE; 1 SMALL LETTER D WITH STROKE; 1 CAPITAL LETTER
E WITH MACRON; 1 SMALL LETTER E WITH MACRON; 1 CAPITAL LETTER E WITH BREVE; 1 SMALL LETTER E WITH
BREVE; 1 CAPITAL LETTER E WITH DOT ABOVE; 1 SMALL LETTER E WITH DOT ABOVE; 1 CAPITAL LETTER E WITH
OGONEK; 1 SMALL LETTER E WITH OGONEK; 1 CAPITAL LETTER E WITH CARON; 1 SMALL LETTER E WITH CARON; 1
CAPITAL LETTER G WITH CIRCUMFLEX; 1 SMALL LETTER G WITH CIRCUMFLEX; 1 CAPITAL LETTER G WITH BREVE;
1 SMALL LETTER G WITH BREVE; 1 CAPITAL LETTER G WITH DOT ABOVE; 1 SMALL LETTER G WITH DOT ABOVE; 1
CAPITAL LETTER G WITH CEDILLA; 1 SMALL LETTER G WITH CEDILLA; 1 CAPITAL LETTER H WITH CIRCUMFLEX; 1
SMALL LETTER H WITH CIRCUMFLEX; 1 CAPITAL LETTER H WITH STROKE; 1 SMALL LETTER H WITH STROKE; 1
CAPITAL LETTER I WITH TILDE; 1 SMALL LETTER I WITH TILDE; 1 CAPITAL LETTER I WITH MACRON; 1 SMALL
LETTER I WITH MACRON; 1 CAPITAL LETTER I WITH BREVE; 1 SMALL LETTER I WITH BREVE; 1 CAPITAL LETTER
I WITH OGONEK; 1 SMALL LETTER I WITH OGONEK; 1 CAPITAL LETTER I WITH DOT ABOVE; 1 SMALL LETTER
DOTLESS I; 1 CAPITAL LIGATURE IJ; 1 SMALL LIGATURE IJ; 1 CAPITAL LETTER J WITH CIRCUMFLEX; 1 SMALL
LETTER J WITH CIRCUMFLEX; 1 CAPITAL LETTER K WITH CEDILLA; 1 SMALL LETTER K WITH CEDILLA; 3 KRA; 1
CAPITAL LETTER L WITH ACUTE; 1 SMALL LETTER L WITH ACUTE; 1 CAPITAL LETTER L WITH CEDILLA; 1 SMALL
LETTER L WITH CEDILLA; 1 CAPITAL LETTER L WITH CARON; 1 SMALL LETTER L WITH CARON; 1 CAPITAL LETTER
L WITH MIDDLE DOT; 1 SMALL LETTER L WITH MIDDLE DOT; 1 CAPITAL LETTER L WITH STROKE; 1 SMALL LETTER
L WITH STROKE; 1 CAPITAL LETTER N WITH ACUTE; 1 SMALL LETTER N WITH ACUTE; 1 CAPITAL LETTER N WITH
CEDILLA; 1 SMALL LETTER N WITH CEDILLA; 1 CAPITAL LETTER N WITH CARON; 1 SMALL LETTER N WITH CARON;
4 PRECEDED BY APOSTROPHE; 1 CAPITAL LETTER ENG; 1 SMALL LETTER ENG; 1 CAPITAL LETTER O WITH MACRON;
1 SMALL LETTER O WITH MACRON; 1 CAPITAL LETTER O WITH BREVE; 1 SMALL LETTER O WITH BREVE; 1 CAPITAL
LETTER O WITH DOUBLE ACUTE; 1 SMALL LETTER O WITH DOUBLE ACUTE; 1 CAPITAL LIGATURE OE; 1 SMALL
LIGATURE OE; 1 CAPITAL LETTER R WITH ACUTE; 1 SMALL LETTER R WITH ACUTE; 1 CAPITAL LETTER R WITH
CEDILLA; 1 SMALL LETTER R WITH CEDILLA; 1 CAPITAL LETTER R WITH CARON; 1 SMALL LETTER R WITH CARON;
1 CAPITAL LETTER S WITH ACUTE; 1 SMALL LETTER S WITH ACUTE; 1 CAPITAL LETTER S WITH CIRCUMFLEX; 1
SMALL LETTER S WITH CIRCUMFLEX; 1 CAPITAL LETTER S WITH CEDILLA; 1 SMALL LETTER S WITH CEDILLA; 1
CAPITAL LETTER S WITH CARON; 1 SMALL LETTER S WITH CARON; 1 CAPITAL LETTER T WITH CEDILLA; 1 SMALL
LETTER T WITH CEDILLA; 1 CAPITAL LETTER T WITH CARON; 1 SMALL LETTER T WITH CARON; 1 CAPITAL LETTER
T WITH STROKE; 1 SMALL LETTER T WITH STROKE; 1 CAPITAL LETTER U WITH TILDE; 1 SMALL LETTER U WITH
TILDE; 1 CAPITAL LETTER U WITH MACRON; 1 SMALL LETTER U WITH MACRON; 1 CAPITAL LETTER U WITH BREVE;
1 SMALL LETTER U WITH BREVE; 1 CAPITAL LETTER U WITH RING ABOVE; 1 SMALL LETTER U WITH RING ABOVE;
1 CAPITAL LETTER U WITH DOUBLE ACUTE; 1 SMALL LETTER U WITH DOUBLE ACUTE; 1 CAPITAL LETTER U WITH
OGONEK; 1 SMALL LETTER U WITH OGONEK; 1 CAPITAL LETTER W WITH CIRCUMFLEX; 1 SMALL LETTER W WITH
CIRCUMFLEX; 1 CAPITAL LETTER Y WITH CIRCUMFLEX; 1 SMALL LETTER Y WITH CIRCUMFLEX; 1 CAPITAL LETTER
Y WITH DIAERESIS; 3 Z WITH ACUTE; 1 SMALL LETTER Z WITH ACUTE; 1 CAPITAL LETTER Z WITH DOT ABOVE; 1
SMALL LETTER Z WITH DOT ABOVE; 1 CAPITAL LETTER Z WITH CARON; 1 SMALL LETTER Z WITH CARON; 3 LONG
S; 3 B WITH STROKE; 1 CAPITAL LETTER B WITH HOOK; 5 TOPBAR; 1 SMALL LETTER B WITH TOPBAR; 1 CAPITAL
LETTER TONE SIX; 1 SMALL LETTER TONE SIX; 1 CAPITAL LETTER OPEN O; 3 C WITH HOOK; 1 SMALL LETTER C
WITH HOOK; 1 CAPITAL LETTER AFRICAN D; 3 D WITH HOOK; 5 TOPBAR; 1 SMALL LETTER D WITH TOPBAR; 3
TURNED DELTA; 1 CAPITAL LETTER REVERSED E; 3 SCHWA; 3 OPEN E; 3 F WITH HOOK; 1 SMALL LETTER F WITH
HOOK; 1 CAPITAL LETTER G WITH HOOK; 3 GAMMA; 1 SMALL LETTER HV; 1 CAPITAL LETTER IOTA; 3 I WITH
STROKE; 3 K WITH HOOK; 1 SMALL LETTER K WITH HOOK; 3 L WITH BAR; 3 LAMBDA WITH STROKE; 1 CAPITAL
LETTER TURNED M; 3 N WITH LEFT HOOK; 1 SMALL LETTER N WITH LONG RIGHT LEG; 1 CAPITAL LETTER O WITH
MIDDLE TILDE; 5 HORN; 1 SMALL LETTER O WITH HORN; 1 CAPITAL LETTER OI; 1 SMALL LETTER OI; 1 CAPITAL
LETTER P WITH HOOK; 1 SMALL LETTER P WITH HOOK; 1 LETTER YR; 1 CAPITAL LETTER TONE TWO; 1 SMALL
LETTER TONE TWO; 1 CAPITAL LETTER ESH; 1 LETTER REVERSED ESH LOOP; 1 SMALL LETTER T WITH PALATAL
HOOK; 1 CAPITAL LETTER T WITH HOOK; 1 SMALL LETTER T WITH HOOK; 1 CAPITAL LETTER T WITH RETROFLEX
HOOK; 3 U WITH HORN; 1 SMALL LETTER U WITH HORN; 1 CAPITAL LETTER UPSILON; 3 V WITH HOOK; 3 Y WITH
HOOK; 1 SMALL LETTER Y WITH HOOK; 1 CAPITAL LETTER Z WITH STROKE; 1 SMALL LETTER Z WITH STROKE; 1
CAPITAL LETTER EZH; 4 REVERSED; 1 SMALL LETTER EZH REVERSED; 4 WITH TAIL; 1 LETTER TWO WITH STROKE;
1 CAPITAL LETTER TONE FIVE; 1 SMALL LETTER TONE FIVE; 1 LETTER INVERTED GLOTTAL STOP WITH STROKE; 2
WYNN; 2 DENTAL CLICK; 2 LATERAL CLICK; 2 ALVEOLAR CLICK; 2 RETROFLEX CLICK; 1 CAPITAL LETTER DZ
WITH CARON; 3 D WITH SMALL LETTER Z WITH CARON; 1 SMALL LETTER DZ WITH CARON; 1 CAPITAL LETTER LJ;
3 L WITH SMALL LETTER J; 1 SMALL LETTER LJ; 1 CAPITAL LETTER NJ; 3 N WITH SMALL LETTER J; 1 SMALL
LETTER NJ; 1 CAPITAL LETTER A WITH CARON; 1 SMALL LETTER A WITH CARON; 1 CAPITAL LETTER I WITH
CARON; 1 SMALL LETTER I WITH CARON; 1 CAPITAL LETTER O WITH CARON; 1 SMALL LETTER O WITH CARON; 1
CAPITAL LETTER U WITH CARON; 1 SMALL LETTER U WITH CARON; 1 CAPITAL LETTER U WITH DIAERESIS AND
MACRON; 1 SMALL LETTER U WITH DIAERESIS AND MACRON; 1 CAPITAL LETTER U WITH DIAERESIS AND ACUTE; 1
SMALL LETTER U WITH DIAERESIS AND ACUTE; 1 CAPITAL LETTER U WITH DIAERESIS AND CARON; 1 SMALL
LETTER U WITH DIAERESIS AND CARON; 1 CAPITAL LETTER U WITH DIAERESIS AND GRAVE; 1 SMALL LETTER U
WITH DIAERESIS AND GRAVE; 3 TURNED E; 1 CAPITAL LETTER A WITH DIAERESIS AND MACRON; 1 SMALL LETTER
A WITH DIAERESIS AND MACRON; 1 CAPITAL LETTER A WITH DOT ABOVE AND MACRON; 1 SMALL LETTER A WITH
DOT ABOVE AND MACRON; 1 CAPITAL LETTER AE WITH MACRON; 1 SMALL LETTER AE WITH MACRON; 1 CAPITAL
LETTER G WITH STROKE; 1 SMALL LETTER G WITH STROKE; 1 CAPITAL LETTER G WITH CARON; 1 SMALL LETTER G
WITH CARON; 1 CAPITAL LETTER K WITH CARON; 1 SMALL LETTER K WITH CARON; 1 CAPITAL LETTER O WITH
OGONEK; 1 SMALL LETTER O WITH OGONEK; 1 CAPITAL LETTER O WITH OGONEK AND MACRON; 1 SMALL LETTER O
WITH OGONEK AND MACRON; 1 CAPITAL LETTER EZH WITH CARON; 1 SMALL LETTER EZH WITH CARON; 3 J WITH
CARON; 1 CAPITAL LETTER DZ; 3 D WITH SMALL LETTER Z; 1 SMALL LETTER DZ; 1 CAPITAL LETTER G WITH
ACUTE; 1 SMALL LETTER G WITH ACUTE; 1 CAPITAL LETTER HWAIR; 3 WYNN; 3 N WITH GRAVE; 1 SMALL LETTER
N WITH GRAVE; 1 CAPITAL LETTER A WITH RING ABOVE AND ACUTE; 1 SMALL LETTER A WITH RING ABOVE AND
ACUTE; 1 CAPITAL LETTER AE WITH ACUTE; 1 SMALL LETTER AE WITH ACUTE; 1 CAPITAL LETTER O WITH STROKE
AND ACUTE; 1 SMALL LETTER O WITH STROKE AND ACUTE; 1 CAPITAL LETTER A WITH DOUBLE GRAVE; 1 SMALL
LETTER A WITH DOUBLE GRAVE; 1 CAPITAL LETTER A WITH INVERTED BREVE; 1 SMALL LETTER A WITH INVERTED
BREVE; 1 CAPITAL LETTER E WITH DOUBLE GRAVE; 1 SMALL LETTER E WITH DOUBLE GRAVE; 1 CAPITAL LETTER E
WITH INVERTED BREVE; 1 SMALL LETTER E WITH INVERTED BREVE; 1 CAPITAL LETTER I WITH DOUBLE GRAVE; 1
SMALL LETTER I WITH DOUBLE GRAVE; 1 CAPITAL LETTER I WITH INVERTED BREVE; 1 SMALL LETTER I WITH
INVERTED BREVE; 1 CAPITAL LETTER O WITH DOUBLE GRAVE; 1 SMALL LETTER O WITH DOUBLE GRAVE; 1 CAPITAL
LETTER O WITH INVERTED BREVE; 1 SMALL LETTER O WITH INVERTED BREVE; 1 CAPITAL LETTER R WITH DOUBLE
GRAVE; 1 SMALL LETTER R WITH DOUBLE GRAVE; 1 CAPITAL LETTER R WITH INVERTED BREVE; 1 SMALL LETTER R
WITH INVERTED BREVE; 1 CAPITAL LETTER U WITH DOUBLE GRAVE; 1 SMALL LETTER U WITH DOUBLE GRAVE; 1
CAPITAL LETTER U WITH INVERTED BREVE; 1 SMALL LETTER U WITH INVERTED BREVE; 1 CAPITAL LETTER S WITH
COMMA BELOW; 1 SMALL LETTER S WITH COMMA BELOW; 1 CAPITAL LETTER T WITH COMMA BELOW; 1 SMALL LETTER
T WITH COMMA BELOW; 1 CAPITAL LETTER YOGH; 1 SMALL LETTER YOGH; 1 CAPITAL LETTER H WITH CARON; 1
SMALL LETTER H WITH CARON; 1 CAPITAL LETTER N WITH LONG RIGHT LEG; 1 SMALL LETTER D WITH CURL; 1
CAPITAL LETTER OU; 1 SMALL LETTER OU; 1 CAPITAL LETTER Z WITH HOOK; 1 SMALL LETTER Z WITH HOOK; 1
CAPITAL LETTER A WITH DOT ABOVE; 1 SMALL LETTER A WITH DOT ABOVE; 1 CAPITAL LETTER E WITH CEDILLA;
1 SMALL LETTER E WITH CEDILLA; 1 CAPITAL LETTER O WITH DIAERESIS AND MACRON; 1 SMALL LETTER O WITH
DIAERESIS AND MACRON; 1 CAPITAL LETTER O WITH TILDE AND MACRON; 1 SMALL LETTER O WITH TILDE AND
MACRON; 1 CAPITAL LETTER O WITH DOT ABOVE; 1 SMALL LETTER O WITH DOT ABOVE; 1 CAPITAL LETTER O WITH
DOT ABOVE AND MACRON; 1 SMALL LETTER O WITH DOT ABOVE AND MACRON; 1 CAPITAL LETTER Y WITH MACRON; 1
SMALL LETTER Y WITH MACRON; 3 L WITH CURL; 3 N WITH CURL; 3 T WITH CURL; 3 DOTLESS J; 3 DB DIGRAPH;
3 QP DIGRAPH; 1 CAPITAL LETTER A WITH STROKE; 3 C WITH STROKE; 1 SMALL LETTER C WITH STROKE; 1
CAPITAL LETTER L WITH BAR; 3 T WITH DIAGONAL STROKE; 1 SMALL LETTER S WITH SWASH TAIL; 3 Z WITH
SWASH TAIL; 1 CAPITAL LETTER GLOTTAL STOP; 1 SMALL LETTER GLOTTAL STOP; 1 CAPITAL LETTER B WITH
STROKE; 3 U BAR; 3 TURNED V; 3 E WITH STROKE; 1 SMALL LETTER E WITH STROKE; 1 CAPITAL LETTER J WITH
STROKE; 1 SMALL LETTER J WITH STROKE; 1 CAPITAL LETTER SMALL Q WITH HOOK TAIL; 1 SMALL LETTER Q
WITH HOOK TAIL; 1 CAPITAL LETTER R WITH STROKE; 1 SMALL LETTER R WITH STROKE; 1 CAPITAL LETTER Y
WITH STROKE; 1 SMALL LETTER Y WITH STROKE; @2B0 0 MODIFIER LETTER SMALL H; 4 WITH HOOK; 3 J; 3 R; 3
TURNED R; 5 WITH HOOK; 3 CAPITAL INVERTED R; 3 W; 3 Y; 2 PRIME; 2 DOUBLE PRIME; 2 TURNED COMMA; 2
APOSTROPHE; 2 REVERSED COMMA; 2 RIGHT HALF RING; 2 LEFT HALF RING; 2 GLOTTAL STOP; 2 REVERSED
GLOTTAL STOP; 2 LEFT ARROWHEAD; 2 RIGHT ARROWHEAD; 2 UP ARROWHEAD; 2 DOWN ARROWHEAD; 2 CIRCUMFLEX
ACCENT; 0 CARON; 0 MODIFIER LETTER VERTICAL LINE; 2 MACRON; 2 ACUTE ACCENT; 2 GRAVE ACCENT; 2 LOW
VERTICAL LINE; 3 MACRON; 3 GRAVE ACCENT; 3 ACUTE ACCENT; 2 TRIANGULAR COLON; 2 HALF TRIANGULAR
COLON; 2 CENTRED RIGHT HALF RING; 3 LEFT HALF RING; 2 UP TACK; 2 DOWN TACK; 2 PLUS SIGN; 2 MINUS
SIGN; 0 BREVE; 0 DOT ABOVE; 0 RING ABOVE; 0 OGONEK; 0 SMALL TILDE; 0 DOUBLE ACUTE ACCENT; 0
MODIFIER LETTER RHOTIC HOOK; 2 CROSS ACCENT; 2 SMALL GAMMA; 3 L; 3 S; 3 X; 3 REVERSED GLOTTAL STOP;
2 EXTRA-HIGH TONE BAR; 2 HIGH TONE BAR; 2 MID TONE BAR; 2 LOW TONE BAR; 2 EXTRA-LOW TONE BAR; 2 YIN
DEPARTING TONE MARK; 2 YANG DEPARTING TONE MARK; 2 VOICING; 2 UNASPIRATED; 2 DOUBLE APOSTROPHE; 2
LOW DOWN ARROWHEAD; 3 UP ARROWHEAD; 3 LEFT ARROWHEAD; 3 RIGHT ARROWHEAD; 3 RING; 2 MIDDLE GRAVE
ACCENT; 3 DOUBLE GRAVE ACCENT; 4 ACUTE ACCENT; 2 LOW TILDE; 2 RAISED COLON; 2 BEGIN HIGH TONE; 2
END HIGH TONE; 2 BEGIN LOW TONE; 2 END LOW TONE; 2 SHELF; 2 OPEN SHELF; 2 LOW LEFT ARROW; 0
COMBINING GRAVE ACCENT; 1 ACUTE ACCENT; 1 CIRCUMFLEX ACCENT; 1 TILDE; 1 MACRON; 1 OVERLINE; 1
BREVE; 1 DOT ABOVE; 1 DIAERESIS; 1 HOOK ABOVE; 1 RING ABOVE; 1 DOUBLE ACUTE ACCENT; 1 CARON; 1
VERTICAL LINE ABOVE; 1 DOUBLE VERTICAL LINE ABOVE; 2 GRAVE ACCENT; 1 CANDRABINDU; 1 INVERTED BREVE;
1 TURNED COMMA ABOVE; 1 COMMA ABOVE; 1 REVERSED COMMA ABOVE; 1 COMMA ABOVE RIGHT; 1 GRAVE ACCENT
BELOW; 1 ACUTE ACCENT BELOW; 1 LEFT TACK BELOW; 1 RIGHT TACK BELOW; 1 LEFT ANGLE ABOVE; 1 HORN; 1
LEFT HALF RING BELOW; 1 UP TACK BELOW; 1 DOWN TACK BELOW; 1 PLUS SIGN BELOW; 1 MINUS SIGN BELOW; 1
PALATALIZED HOOK BELOW; 1 RETROFLEX HOOK BELOW; 1 DOT BELOW; 1 DIAERESIS BELOW; 1 RING BELOW; 1
COMMA BELOW; 1 CEDILLA; 1 OGONEK; 1 VERTICAL LINE BELOW; 1 BRIDGE BELOW; 1 INVERTED DOUBLE ARCH
BELOW; 1 CARON BELOW; 1 CIRCUMFLEX ACCENT BELOW; 1 BREVE BELOW; 1 INVERTED BREVE BELOW; 1 TILDE
BELOW; 1 MACRON BELOW; 1 LOW LINE; 1 DOUBLE LOW LINE; 1 TILDE OVERLAY; 1 SHORT STROKE OVERLAY; 1
LONG STROKE OVERLAY; 1 SHORT SOLIDUS OVERLAY; 1 LONG SOLIDUS OVERLAY; 1 RIGHT HALF RING BELOW; 1
INVERTED BRIDGE BELOW; 1 SQUARE BELOW; 1 SEAGULL BELOW; 1 X ABOVE; 1 VERTICAL TILDE; 1 DOUBLE
OVERLINE; 1 GRAVE TONE MARK; 1 ACUTE TONE MARK; 1 GREEK PERISPOMENI; 2 KORONIS; 2 DIALYTIKA TONOS;
2 YPOGEGRAMMENI; 1 BRIDGE ABOVE; 1 EQUALS SIGN BELOW; 1 DOUBLE VERTICAL LINE BELOW; 1 LEFT ANGLE
BELOW; 1 NOT TILDE ABOVE; 1 HOMOTHETIC ABOVE; 1 ALMOST EQUAL TO ABOVE; 1 LEFT RIGHT ARROW BELOW; 1
UPWARDS ARROW BELOW; 1 GRAPHEME JOINER; 1 RIGHT ARROWHEAD ABOVE; 1 LEFT HALF RING ABOVE; 1 FERMATA;
1 X BELOW; 1 LEFT ARROWHEAD BELOW; 1 RIGHT ARROWHEAD BELOW; 3 AND UP ARROWHEAD BELOW; 2 HALF RING
ABOVE; 1 DOT ABOVE RIGHT; 1 ASTERISK BELOW; 1 DOUBLE RING BELOW; 1 ZIGZAG ABOVE; 1 DOUBLE BREVE
BELOW; 2 BREVE; 2 MACRON; 3 BELOW; 2 TILDE; 2 INVERTED BREVE; 2 RIGHTWARDS ARROW BELOW; 1 LATIN
SMALL LETTER A; 4 E; 4 I; 4 O; 4 U; 4 C; 4 D; 4 H; 4 M; 4 R; 4 T; 4 V; 4 X; 0 GREEK CAPITAL LETTER
HETA; 1 SMALL LETTER HETA; 1 CAPITAL LETTER ARCHAIC SAMPI; 1 SMALL LETTER ARCHAIC SAMPI; 1 NUMERAL
SIGN; 1 LOWER NUMERAL SIGN; 1 CAPITAL LETTER PAMPHYLIAN DIGAMMA; 1 SMALL LETTER PAMPHYLIAN DIGAMMA;
@37A 1 YPOGEGRAMMENI; 1 SMALL REVERSED LUNATE SIGMA SYMBOL; 2 DOTTED LUNATE SIGMA SYMBOL; 2
REVERSED DOTTED LUNATE SIGMA SYMBOL; 1 QUESTION MARK; 1 CAPITAL LETTER YOT; @384 1 TONOS; 1
DIALYTIKA TONOS; 1 CAPITAL LETTER ALPHA WITH TONOS; 1 ANO TELEIA; 1 CAPITAL LETTER EPSILON WITH
TONOS; 3 ETA WITH TONOS; 3 IOTA WITH TONOS; @38C 3 OMICRON WITH TONOS; @38E 3 UPSILON WITH TONOS; 3
OMEGA WITH TONOS; 1 SMALL LETTER IOTA WITH DIALYTIKA AND TONOS; 1 CAPITAL LETTER ALPHA; 3 BETA; 3
GAMMA; 3 DELTA; 3 EPSILON; 3 ZETA; 3 ETA; 3 THETA; 3 IOTA; 3 KAPPA; 3 LAMDA; 3 MU; 3 NU; 3 XI; 3
OMICRON; 3 PI; 3 RHO; @3A3 3 SIGMA; 3 TAU; 3 UPSILON; 3 PHI; 3 CHI; 3 PSI; 3 OMEGA; 3 IOTA WITH
DIALYTIKA; 3 UPSILON WITH DIALYTIKA; 1 SMALL LETTER ALPHA WITH TONOS; 3 EPSILON WITH TONOS; 3 ETA
WITH TONOS; 3 IOTA WITH TONOS; 3 UPSILON WITH DIALYTIKA AND TONOS; 3 ALPHA; 3 BETA; 3 GAMMA; 3
DELTA; 3 EPSILON; 3 ZETA; 3 ETA; 3 THETA; 3 IOTA; 3 KAPPA; 3 LAMDA; 3 MU; 3 NU; 3 XI; 3 OMICRON; 3
PI; 3 RHO; 3 FINAL SIGMA; 3 SIGMA; 3 TAU; 3 UPSILON; 3 PHI; 3 CHI; 3 PSI; 3 OMEGA; 3 IOTA WITH
DIALYTIKA; 3 UPSILON WITH DIALYTIKA; 3 OMICRON WITH TONOS; 3 UPSILON WITH TONOS; 3 OMEGA WITH
TONOS; 1 CAPITAL KAI SYMBOL; 1 BETA SYMBOL; 1 THETA SYMBOL; 1 UPSILON WITH HOOK SYMBOL; 3 ACUTE AND
HOOK SYMBOL; 3 DIAERESIS AND HOOK SYMBOL; 1 PHI SYMBOL; 1 PI SYMBOL; 1 KAI SYMBOL; 1 LETTER ARCHAIC
KOPPA; 1 SMALL LETTER ARCHAIC KOPPA; 1 LETTER STIGMA; 1 SMALL LETTER STIGMA; 1 LETTER DIGAMMA; 1
SMALL LETTER DIGAMMA; 1 LETTER KOPPA; 1 SMALL LETTER KOPPA; 1 LETTER SAMPI; 1 SMALL LETTER SAMPI; 0
COPTIC CAPITAL LETTER SHEI; 1 SMALL LETTER SHEI; 1 CAPITAL LETTER FEI; 1 SMALL LETTER FEI; 1
CAPITAL LETTER KHEI; 1 SMALL LETTER KHEI; 1 CAPITAL LETTER HORI; 1 SMALL LETTER HORI; 1 CAPITAL
LETTER GANGIA; 1 SMALL LETTER GANGIA; 1 CAPITAL LETTER SHIMA; 1 SMALL LETTER SHIMA; 1 CAPITAL
LETTER DEI; 1 SMALL LETTER DEI; 0 GREEK KAPPA SYMBOL; 1 RHO SYMBOL; 1 LUNATE SIGMA SYMBOL; 1 LETTER
YOT; 1 CAPITAL THETA SYMBOL; 1 LUNATE EPSILON SYMBOL; 1 REVERSED LUNATE EPSILON SYMBOL; 1 CAPITAL
LETTER SHO; 1 SMALL LETTER SHO; 1 CAPITAL LUNATE SIGMA SYMBOL; 2 LETTER SAN; 1 SMALL LETTER SAN; 1
RHO WITH STROKE SYMBOL; 1 CAPITAL REVERSED LUNATE SIGMA SYMBOL; 2 DOTTED LUNATE SIGMA SYMBOL; 2
REVERSED DOTTED LUNATE SIGMA SYMBOL; 0 CYRILLIC CAPITAL LETTER IE WITH GRAVE; 3 IO; 3 DJE; 3 GJE; 3
UKRAINIAN IE; 3 DZE; 3 BYELORUSSIAN-UKRAINIAN I; 3 YI; 3 JE; 3 LJE; 3 NJE; 3 TSHE; 3 KJE; 3 I WITH
GRAVE; 3 SHORT U; 3 DZHE; 3 A; 3 BE; 3 VE; 3 GHE; 3 DE; 3 IE; 3 ZHE; 3 ZE; 3 I; 3 SHORT I; 3 KA; 3
EL; 3 EM; 3 EN; 3 O; 3 PE; 3 ER; 3 ES; 3 TE; 3 U; 3 EF; 3 HA; 3 TSE; 3 CHE; 3 SHA; 3 SHCHA; 3 HARD
SIGN; 3 YERU; 3 SOFT SIGN; 3 E; 3 YU; 3 YA; 1 SMALL LETTER A; 3 BE; 3 VE; 3 GHE; 3 DE; 3 IE; 3 ZHE;
3 ZE; 3 I; 3 SHORT I; 3 KA; 3 EL; 3 EM; 3 EN; 3 O; 3 PE; 3 ER; 3 ES; 3 TE; 3 U; 3 EF; 3 HA; 3 TSE;
3 CHE; 3 SHA; 3 SHCHA; 3 HARD SIGN; 3 YERU; 3 SOFT SIGN; 3 E; 3 YU; 3 YA; 3 IE WITH GRAVE; 3 IO; 3
DJE; 3 GJE; 3 UKRAINIAN IE; 3 DZE; 3 BYELORUSSIAN-UKRAINIAN I; 3 YI; 3 JE; 3 LJE; 3 NJE; 3 TSHE; 3
KJE; 3 I WITH GRAVE; 3 SHORT U; 3 DZHE; @2000 0 EN QUAD; 0 EM QUAD; 0 EN SPACE; 0 EM SPACE; 0
THREE-PER-EM SPACE; 0 FOUR-PER-EM SPACE; 0 SIX-PER-EM SPACE; 0 FIGURE SPACE; 0 PUNCTUATION SPACE; 0
THIN SPACE; 0 HAIR SPACE; 0 ZERO WIDTH SPACE; 2 NON-JOINER; 2 JOINER; 0 LEFT-TO-RIGHT MARK; 0
RIGHT-TO-LEFT MARK; 0 HYPHEN; 0 NON-BREAKING HYPHEN; 0 FIGURE DASH; 0 EN DASH; 0 EM DASH; 0
HORIZONTAL BAR; 0 DOUBLE VERTICAL LINE; 1 LOW LINE; 0 LEFT SINGLE QUOTATION MARK; 0 RIGHT SINGLE
QUOTATION MARK; 0 SINGLE LOW-9 QUOTATION MARK; 1 HIGH-REVERSED-9 QUOTATION MARK; 0 LEFT DOUBLE
QUOTATION MARK; 0 RIGHT DOUBLE QUOTATION MARK; 0 DOUBLE LOW-9 QUOTATION MARK; 1 HIGH-REVERSED-9
QUOTATION MARK; 0 DAGGER; 0 DOUBLE DAGGER; 0 BULLET; 0 TRIANGULAR BULLET; 0 ONE DOT LEADER; 0 TWO
DOT LEADER; 0 HORIZONTAL ELLIPSIS; 0 HYPHENATION POINT; 0 LINE SEPARATOR; 0 PARAGRAPH SEPARATOR; 0
LEFT-TO-RIGHT EMBEDDING; 0 RIGHT-TO-LEFT EMBEDDING; 0 POP DIRECTIONAL FORMATTING; 0 LEFT-TO-RIGHT
OVERRIDE; 0 RIGHT-TO-LEFT OVERRIDE; 0 NARROW NO-BREAK SPACE; 0 PER MILLE SIGN; 1 TEN THOUSAND SIGN;
0 PRIME; 0 DOUBLE PRIME; 0 TRIPLE PRIME; 0 REVERSED PRIME; 1 DOUBLE PRIME; 1 TRIPLE PRIME; 0 CARET;
0 SINGLE LEFT-POINTING ANGLE QUOTATION MARK; 1 RIGHT-POINTING ANGLE QUOTATION MARK; 0 REFERENCE
MARK; 0 DOUBLE EXCLAMATION MARK; 0 INTERROBANG; 0 OVERLINE; 0 UNDERTIE; 0 CHARACTER TIE; 0 CARET
INSERTION POINT; 0 ASTERISM; 0 HYPHEN BULLET; 0 FRACTION SLASH; 0 LEFT SQUARE BRACKET WITH QUILL; 0
RIGHT SQUARE BRACKET WITH QUILL; 0 DOUBLE QUESTION MARK; 0 QUESTION EXCLAMATION MARK; 0 EXCLAMATION
QUESTION MARK; 0 TIRONIAN SIGN ET; 0 REVERSED PILCROW SIGN; 0 BLACK LEFTWARDS BULLET; 1 RIGHTWARDS
BULLET; 0 LOW ASTERISK; 0 REVERSED SEMICOLON; 0 CLOSE UP; 0 TWO ASTERISKS ALIGNED VERTICALLY; 0
COMMERCIAL MINUS SIGN; 0 SWUNG DASH; 0 INVERTED UNDERTIE; 0 FLOWER PUNCTUATION MARK; 0 THREE DOT
PUNCTUATION; 0 QUADRUPLE PRIME; 0 FOUR DOT PUNCTUATION; 0 FIVE DOT PUNCTUATION; 0 TWO DOT
PUNCTUATION; 0 FOUR DOT MARK; 0 DOTTED CROSS; 0 TRICOLON; 0 VERTICAL FOUR DOTS; 0 MEDIUM
MATHEMATICAL SPACE; 0 WORD JOINER; 0 FUNCTION APPLICATION; 0 INVISIBLE TIMES; 1 SEPARATOR; 1 PLUS;
@2066 0 LEFT-TO-RIGHT ISOLATE; 0 RIGHT-TO-LEFT ISOLATE; 0 FIRST STRONG ISOLATE; 0 POP DIRECTIONAL
ISOLATE; 0 INHIBIT SYMMETRIC SWAPPING; 0 ACTIVATE SYMMETRIC SWAPPING; 0 INHIBIT ARABIC FORM
SHAPING; 0 ACTIVATE ARABIC FORM SHAPING; 0 NATIONAL DIGIT SHAPES; 0 NOMINAL DIGIT SHAPES; 0
SUPERSCRIPT ZERO; 1 LATIN SMALL LETTER I; @2074 1 FOUR; 1 FIVE; 1 SIX; 1 SEVEN; 1 EIGHT; 1 NINE; 1
PLUS SIGN; 1 MINUS; 1 EQUALS SIGN; 1 LEFT PARENTHESIS; 1 RIGHT PARENTHESIS; 1 LATIN SMALL LETTER N;
0 SUBSCRIPT ZERO; 1 ONE; 1 TWO; 1 THREE; 1 FOUR; 1 FIVE; 1 SIX; 1 SEVEN; 1 EIGHT; 1 NINE; 1 PLUS
SIGN; 1 MINUS; 1 EQUALS SIGN; 1 LEFT PARENTHESIS; 1 RIGHT PARENTHESIS; @2090 0 LATIN SUBSCRIPT
SMALL LETTER A; 4 E; 4 O; 4 X; 4 SCHWA; 4 H; 4 K; 4 L; 4 M; 4 N; 4 P; 4 S; 4 T; @20A0 0
EURO-CURRENCY SIGN; 0 COLON SIGN; 0 CRUZEIRO SIGN; 0 FRENCH FRANC SIGN; 0 LIRA SIGN; 0 MILL SIGN; 0
NAIRA SIGN; 0 PESETA SIGN; 0 RUPEE SIGN; 0 WON SIGN; 0 NEW SHEQEL SIGN; 0 DONG SIGN; 0 EURO SIGN; 0
KIP SIGN; 0 TUGRIK SIGN; 0 DRACHMA SIGN; 0 GERMAN PENNY SIGN; 0 PESO SIGN; 0 GUARANI SIGN; 0
AUSTRAL SIGN; 0 HRYVNIA SIGN; 0 CEDI SIGN; 0 LIVRE TOURNOIS SIGN; 0 SPESMILO SIGN; 0 TENGE SIGN; 0
INDIAN RUPEE SIGN; 0 TURKISH LIRA SIGN; 0 NORDIC MARK SIGN; 0 MANAT SIGN; 0 RUBLE SIGN; 0 LARI
SIGN; 0 BITCOIN SIGN; 0 SOM SIGN; @20D0 0 COMBINING LEFT HARPOON ABOVE; 1 RIGHT HARPOON ABOVE; 1
LONG VERTICAL LINE OVERLAY; 1 SHORT VERTICAL LINE OVERLAY; 1 ANTICLOCKWISE ARROW ABOVE; 1 CLOCKWISE
ARROW ABOVE; 1 LEFT ARROW ABOVE; 1 RIGHT ARROW ABOVE; 1 RING OVERLAY; 1 CLOCKWISE RING OVERLAY; 1
ANTICLOCKWISE RING OVERLAY; 1 THREE DOTS ABOVE; 1 FOUR DOTS ABOVE; 1 ENCLOSING CIRCLE; 2 SQUARE; 2
DIAMOND; 2 CIRCLE BACKSLASH; 1 LEFT RIGHT ARROW ABOVE; 1 ENCLOSING SCREEN; 2 KEYCAP; 2 UPWARD
POINTING TRIANGLE; 1 REVERSE SOLIDUS OVERLAY; 1 DOUBLE VERTICAL STROKE OVERLAY; 1 ANNUITY SYMBOL; 1
TRIPLE UNDERDOT; 1 WIDE BRIDGE ABOVE; 1 LEFTWARDS ARROW OVERLAY; 1 LONG DOUBLE SOLIDUS OVERLAY; 1
RIGHTWARDS HARPOON WITH BARB DOWNWARDS; 1 LEFTWARDS HARPOON WITH BARB DOWNWARDS; 1 LEFT ARROW
BELOW; 1 RIGHT ARROW BELOW; 1 ASTERISK ABOVE; @2100 0 ACCOUNT OF; 0 ADDRESSED TO THE SUBJECT; 0
DOUBLE-STRUCK CAPITAL C; 0 DEGREE CELSIUS; 0 CENTRE LINE SYMBOL; 0 CARE OF; 0 CADA UNA; 0 EULER
CONSTANT; 0 SCRUPLE; 0 DEGREE FAHRENHEIT; 0 SCRIPT SMALL G; 1 CAPITAL H; 0 BLACK-LETTER CAPITAL H;
0 DOUBLE-STRUCK CAPITAL H; 0 PLANCK CONSTANT; 2 OVER TWO PI; 0 SCRIPT CAPITAL I; 0 BLACK-LETTER
CAPITAL I; 0 SCRIPT CAPITAL L; 1 SMALL L; 0 L B BAR SYMBOL; 0 DOUBLE-STRUCK CAPITAL N; 0 NUMERO
SIGN; 0 SOUND RECORDING COPYRIGHT; 0 SCRIPT CAPITAL P; 0 DOUBLE-STRUCK CAPITAL P; 2 Q; 0 SCRIPT
CAPITAL R; 0 BLACK-LETTER CAPITAL R; 0 DOUBLE-STRUCK CAPITAL R; 0 PRESCRIPTION TAKE; 0 RESPONSE; 0
SERVICE MARK; 0 TELEPHONE SIGN; 0 TRADE MARK SIGN; 0 VERSICLE; 0 DOUBLE-STRUCK CAPITAL Z; 0 OUNCE
SIGN; 0 OHM SIGN; 0 INVERTED OHM SIGN; 0 BLACK-LETTER CAPITAL Z; 0 TURNED GREEK SMALL LETTER IOTA;
0 KELVIN SIGN; 0 ANGSTROM SIGN; 0 SCRIPT CAPITAL B; 0 BLACK-LETTER CAPITAL C; 0 ESTIMATED SYMBOL; 0
SCRIPT SMALL E; 1 CAPITAL E; 2 F; 0 TURNED CAPITAL F; 0 SCRIPT CAPITAL M; 1 SMALL O; 0 ALEF SYMBOL;
0 BET SYMBOL; 0 GIMEL SYMBOL; 0 DALET SYMBOL; 0 INFORMATION SOURCE; 0 ROTATED CAPITAL Q; 0
FACSIMILE SIGN; 0 DOUBLE-STRUCK SMALL PI; 2 GAMMA; 1 CAPITAL GAMMA; 2 PI; 1 N-ARY SUMMATION; 0
TURNED SANS-SERIF CAPITAL G; 3 L; 0 REVERSED SANS-SERIF CAPITAL L; 0 TURNED SANS-SERIF CAPITAL Y; 0
DOUBLE-STRUCK ITALIC CAPITAL D; 2 SMALL D; 3 E; 3 I; 3 J; 0 PROPERTY LINE; 0 TURNED AMPERSAND; 0
PER SIGN; 0 AKTIESELSKAB; 0 TURNED SMALL F; 0 SYMBOL FOR SAMARITAN SOURCE; 0 VULGAR FRACTION ONE
SEVENTH; 3 NINTH; 3 TENTH; 3 THIRD; 2 TWO THIRDS; 2 ONE FIFTH; 2 TWO FIFTHS; 2 THREE FIFTHS; 2 FOUR
FIFTHS; 2 ONE SIXTH; 2 FIVE SIXTHS; 2 ONE EIGHTH; 2 THREE EIGHTHS; 2 FIVE EIGHTHS; 2 SEVEN EIGHTHS;
0 FRACTION NUMERATOR ONE; 0 ROMAN NUMERAL ONE; 2 TWO; 2 THREE; 2 FOUR; 2 FIVE; 2 SIX; 2 SEVEN; 2
EIGHT; 2 NINE; 2 TEN; 2 ELEVEN; 2 TWELVE; 2 FIFTY; 2 ONE HUNDRED; 2 FIVE HUNDRED; 2 ONE THOUSAND; 0
SMALL ROMAN NUMERAL ONE; 3 TWO; 3 THREE; 3 FOUR; 3 FIVE; 3 SIX; 3 SEVEN; 3 EIGHT; 3 NINE; 3 TEN; 3
ELEVEN; 3 TWELVE; 3 FIFTY; 3 ONE HUNDRED; 3 FIVE HUNDRED; 3 ONE THOUSAND; 0 ROMAN NUMERAL ONE
THOUSAND C D; 2 FIVE THOUSAND; 2 TEN THOUSAND; 2 REVERSED ONE HUNDRED; 0 LATIN SMALL LETTER
REVERSED C; 0 ROMAN NUMERAL SIX LATE FORM; 2 FIFTY EARLY FORM; 3 THOUSAND; 2 ONE HUNDRED THOUSAND;
0 VULGAR FRACTION ZERO THIRDS; 0 TURNED DIGIT TWO; 2 THREE; @2190 0 LEFTWARDS ARROW; 0 UPWARDS
ARROW; 0 RIGHTWARDS ARROW; 0 DOWNWARDS ARROW; 0 LEFT RIGHT ARROW; 0 UP DOWN ARROW; 0 NORTH WEST
ARROW; 1 EAST ARROW; 0 SOUTH EAST ARROW; 1 WEST ARROW; 0 LEFTWARDS ARROW WITH STROKE; 0 RIGHTWARDS
ARROW WITH STROKE; 0 LEFTWARDS WAVE ARROW; 0 RIGHTWARDS WAVE ARROW; 0 LEFTWARDS TWO HEADED ARROW; 0
UPWARDS TWO HEADED ARROW; 0 RIGHTWARDS TWO HEADED ARROW; 0 DOWNWARDS TWO HEADED ARROW; 0 LEFTWARDS
ARROW WITH TAIL; 0 RIGHTWARDS ARROW WITH TAIL; 0 LEFTWARDS ARROW FROM BAR; 0 UPWARDS ARROW FROM
BAR; 0 RIGHTWARDS ARROW FROM BAR; 0 DOWNWARDS ARROW FROM BAR; 0 UP DOWN ARROW WITH BASE; 0
LEFTWARDS ARROW WITH HOOK; 0 RIGHTWARDS ARROW WITH HOOK; 0 LEFTWARDS ARROW WITH LOOP; 0 RIGHTWARDS
ARROW WITH LOOP; 0 LEFT RIGHT WAVE ARROW; 2 ARROW WITH STROKE; 0 DOWNWARDS ZIGZAG ARROW; 0 UPWARDS
ARROW WITH TIP LEFTWARDS; 4 RIGHTWARDS; 0 DOWNWARDS ARROW WITH TIP LEFTWARDS; 4 RIGHTWARDS; 0
RIGHTWARDS ARROW WITH CORNER DOWNWARDS; 0 DOWNWARDS ARROW WITH CORNER LEFTWARDS; 0 ANTICLOCKWISE
TOP SEMICIRCLE ARROW; 0 CLOCKWISE TOP SEMICIRCLE ARROW; 0 NORTH WEST ARROW TO LONG BAR; 0 LEFTWARDS
ARROW TO BAR OVER RIGHTWARDS ARROW TO BAR; 0 ANTICLOCKWISE OPEN CIRCLE ARROW; 0 CLOCKWISE OPEN
CIRCLE ARROW; 0 LEFTWARDS HARPOON WITH BARB UPWARDS; 4 DOWNWARDS; 0 UPWARDS HARPOON WITH BARB
RIGHTWARDS; 4 LEFTWARDS; 0 RIGHTWARDS HARPOON WITH BARB UPWARDS; 4 DOWNWARDS; 0 DOWNWARDS HARPOON
WITH BARB RIGHTWARDS; 4 LEFTWARDS; 0 RIGHTWARDS ARROW OVER LEFTWARDS ARROW; 0 UPWARDS ARROW
LEFTWARDS OF DOWNWARDS ARROW; 0 LEFTWARDS ARROW OVER RIGHTWARDS ARROW; 1 PAIRED ARROWS; 0 UPWARDS
PAIRED ARROWS; 0 RIGHTWARDS PAIRED ARROWS; 0 DOWNWARDS PAIRED ARROWS; 0 LEFTWARDS HARPOON OVER
RIGHTWARDS HARPOON; 0 RIGHTWARDS HARPOON OVER LEFTWARDS HARPOON; 0 LEFTWARDS DOUBLE ARROW WITH
STROKE; 0 LEFT RIGHT DOUBLE ARROW WITH STROKE; 0 RIGHTWARDS DOUBLE ARROW WITH STROKE; 0 LEFTWARDS
DOUBLE ARROW; 0 UPWARDS DOUBLE ARROW; 0 RIGHTWARDS DOUBLE ARROW; 0 DOWNWARDS DOUBLE ARROW; 0 LEFT
RIGHT DOUBLE ARROW; 0 UP DOWN DOUBLE ARROW; 0 NORTH WEST DOUBLE ARROW; 1 EAST DOUBLE ARROW; 0 SOUTH
EAST DOUBLE ARROW; 1 WEST DOUBLE ARROW; 0 LEFTWARDS TRIPLE ARROW; 0 RIGHTWARDS TRIPLE ARROW; 0
LEFTWARDS SQUIGGLE ARROW; 0 RIGHTWARDS SQUIGGLE ARROW; 0 UPWARDS ARROW WITH DOUBLE STROKE; 0
DOWNWARDS ARROW WITH DOUBLE STROKE; 0 LEFTWARDS DASHED ARROW; 0 UPWARDS DASHED ARROW; 0 RIGHTWARDS
DASHED ARROW; 0 DOWNWARDS DASHED ARROW; 0 LEFTWARDS ARROW TO BAR; 0 RIGHTWARDS ARROW TO BAR; 0
LEFTWARDS WHITE ARROW; 0 UPWARDS WHITE ARROW; 0 RIGHTWARDS WHITE ARROW; 0 DOWNWARDS WHITE ARROW; 0
UPWARDS WHITE ARROW FROM BAR; 3 ON PEDESTAL; 5 WITH HORIZONTAL BAR; 6 VERTICAL BAR; 2 DOUBLE ARROW;
4 ON PEDESTAL; 0 RIGHTWARDS WHITE ARROW FROM WALL; 0 NORTH WEST ARROW TO CORNER; 0 SOUTH EAST ARROW
TO CORNER; 0 UP DOWN WHITE ARROW; 0 RIGHT ARROW WITH SMALL CIRCLE; 0 DOWNWARDS ARROW LEFTWARDS OF
UPWARDS ARROW; 0 THREE RIGHTWARDS ARROWS; 0 LEFTWARDS ARROW WITH VERTICAL STROKE; 0 RIGHTWARDS
ARROW WITH VERTICAL STROKE; 0 LEFT RIGHT ARROW WITH VERTICAL STROKE; 0 LEFTWARDS ARROW WITH DOUBLE
VERTICAL STROKE; 0 RIGHTWARDS ARROW WITH DOUBLE VERTICAL STROKE; 0 LEFT RIGHT ARROW WITH DOUBLE
VERTICAL STROKE; 0 LEFTWARDS OPEN-HEADED ARROW; 0 RIGHTWARDS OPEN-HEADED ARROW; 0 LEFT RIGHT
OPEN-HEADED ARROW; 0 FOR ALL; 0 COMPLEMENT; 0 PARTIAL DIFFERENTIAL; 0 THERE EXISTS; 1 DOES NOT
EXIST; 0 EMPTY SET; 0 INCREMENT; 0 NABLA; 0 ELEMENT OF; 0 NOT AN ELEMENT OF; 0 SMALL ELEMENT OF; 0
CONTAINS AS MEMBER; 0 DOES NOT CONTAIN AS MEMBER; 0 SMALL CONTAINS AS MEMBER; 0 END OF PROOF; 0
N-ARY PRODUCT; 1 COPRODUCT; 1 SUMMATION; 0 MINUS SIGN; 0 MINUS-OR-PLUS SIGN; 0 DOT PLUS; 0 DIVISION
SLASH; 0 SET MINUS; 0 ASTERISK OPERATOR; 0 RING OPERATOR; 0 BULLET OPERATOR; 0 SQUARE ROOT; 0 CUBE
ROOT; 0 FOURTH ROOT; 0 PROPORTIONAL TO; 0 INFINITY; 0 RIGHT ANGLE; 0 ANGLE; 0 MEASURED ANGLE; 0
SPHERICAL ANGLE; 0 DIVIDES; 0 DOES NOT DIVIDE; 0 PARALLEL TO; 0 NOT PARALLEL TO; 0 LOGICAL AND; 1
OR; 0 INTERSECTION; 0 UNION; 0 INTEGRAL; 0 DOUBLE INTEGRAL; 0 TRIPLE INTEGRAL; 0 CONTOUR INTEGRAL;
0 SURFACE INTEGRAL; 0 VOLUME INTEGRAL; 0 CLOCKWISE INTEGRAL; 1 CONTOUR INTEGRAL; 0 ANTICLOCKWISE
CONTOUR INTEGRAL; 0 THEREFORE; 0 BECAUSE; 0 RATIO; 0 PROPORTION; 0 DOT MINUS; 0 EXCESS; 0 GEOMETRIC
PROPORTION; 0 HOMOTHETIC; 0 TILDE OPERATOR; 0 REVERSED TILDE; 0 INVERTED LAZY S; 0 SINE WAVE; 0
WREATH PRODUCT; 0 NOT TILDE; 0 MINUS TILDE; 0 ASYMPTOTICALLY EQUAL TO; 0 NOT ASYMPTOTICALLY EQUAL
TO; 0 APPROXIMATELY EQUAL TO; 1 BUT NOT ACTUALLY EQUAL TO; 0 NEITHER APPROXIMATELY NOR ACTUALLY
EQUAL TO; 0 ALMOST EQUAL TO; 0 NOT ALMOST EQUAL TO; 0 ALMOST EQUAL OR EQUAL TO; 0 TRIPLE TILDE; 0
ALL EQUAL TO; 0 EQUIVALENT TO; 0 GEOMETRICALLY EQUIVALENT TO; 0 DIFFERENCE BETWEEN; 0 APPROACHES
THE LIMIT; 0 GEOMETRICALLY EQUAL TO; 0 APPROXIMATELY EQUAL TO OR THE IMAGE OF; 0 IMAGE OF OR
APPROXIMATELY EQUAL TO; 0 COLON EQUALS; 0 EQUALS COLON; 0 RING IN EQUAL TO; 1 EQUAL TO; 0
CORRESPONDS TO; 0 ESTIMATES; 0 EQUIANGULAR TO; 0 STAR EQUALS; 0 DELTA EQUAL TO; 0 EQUAL TO BY
DEFINITION; 0 MEASURED BY; 0 QUESTIONED EQUAL TO; 0 NOT EQUAL TO; 0 IDENTICAL TO; 0 NOT IDENTICAL
TO; 0 STRICTLY EQUIVALENT TO; 0 LESS-THAN OR EQUAL TO; 0 GREATER-THAN OR EQUAL TO; 0 LESS-THAN OVER
EQUAL TO; 0 GREATER-THAN OVER EQUAL TO; 0 LESS-THAN BUT NOT EQUAL TO; 0 GREATER-THAN BUT NOT EQUAL
TO; 0 MUCH LESS-THAN; 1 GREATER-THAN; 0 BETWEEN; 0 NOT EQUIVALENT TO; 1 LESS-THAN; 1 GREATER-THAN;
0 NEITHER LESS-THAN NOR EQUAL TO; 1 GREATER-THAN NOR EQUAL TO; 0 LESS-THAN OR EQUIVALENT TO; 0
GREATER-THAN OR EQUIVALENT TO; 0 NEITHER LESS-THAN NOR EQUIVALENT TO; 1 GREATER-THAN NOR EQUIVALENT
TO; 0 LESS-THAN OR GREATER-THAN; 0 GREATER-THAN OR LESS-THAN; 0 NEITHER LESS-THAN NOR GREATER-THAN;
1 GREATER-THAN NOR LESS-THAN; 0 PRECEDES; 0 SUCCEEDS; 0 PRECEDES OR EQUAL TO; 0 SUCCEEDS OR EQUAL
TO; 0 PRECEDES OR EQUIVALENT TO; 0 SUCCEEDS OR EQUIVALENT TO; 0 DOES NOT PRECEDE; 2 SUCCEED; 0
SUBSET OF; 0 SUPERSET OF; 0 NOT A SUBSET OF; 2 SUPERSET OF; 0 SUBSET OF OR EQUAL TO; 0 SUPERSET OF
OR EQUAL TO; 0 NEITHER A SUBSET OF NOR EQUAL TO; 2 SUPERSET OF NOR EQUAL TO; 0 SUBSET OF WITH NOT
EQUAL TO; 0 SUPERSET OF WITH NOT EQUAL TO; 0 MULTISET; 1 MULTIPLICATION; 1 UNION; 0 SQUARE IMAGE
OF; 1 ORIGINAL OF; 1 IMAGE OF OR EQUAL TO; 1 ORIGINAL OF OR EQUAL TO; 1 CAP; 1 CUP; 0 CIRCLED PLUS;
1 MINUS; 1 TIMES; 1 DIVISION SLASH; 1 DOT OPERATOR; 1 RING OPERATOR; 1 ASTERISK OPERATOR; 1 EQUALS;
1 DASH; 0 SQUARED PLUS; 1 MINUS; 1 TIMES; 1 DOT OPERATOR; 0 RIGHT TACK; 0 LEFT TACK; 0 DOWN TACK; 0
UP TACK; 0 ASSERTION; 0 MODELS; 0 TRUE; 0 FORCES; 0 TRIPLE VERTICAL BAR RIGHT TURNSTILE; 0 DOUBLE
VERTICAL BAR DOUBLE RIGHT TURNSTILE; 0 DOES NOT PROVE; 0 NOT TRUE; 0 DOES NOT FORCE; 0 NEGATED
DOUBLE VERTICAL BAR DOUBLE RIGHT TURNSTILE; 0 PRECEDES UNDER RELATION; 0 SUCCEEDS UNDER RELATION; 0
NORMAL SUBGROUP OF; 0 CONTAINS AS NORMAL SUBGROUP; 0 NORMAL SUBGROUP OF OR EQUAL TO; 0 CONTAINS AS
NORMAL SUBGROUP OR EQUAL TO; 0 ORIGINAL OF; 0 IMAGE OF; 0 MULTIMAP; 0 HERMITIAN CONJUGATE MATRIX; 0
INTERCALATE; 0 XOR; 0 NAND; 0 NOR; 0 RIGHT ANGLE WITH ARC; 1 TRIANGLE; 0 N-ARY LOGICAL AND; 2 OR; 1
INTERSECTION; 1 UNION; 0 DIAMOND OPERATOR; 0 DOT OPERATOR; 0 STAR OPERATOR; 0 DIVISION TIMES; 0
BOWTIE; 0 LEFT NORMAL FACTOR SEMIDIRECT PRODUCT; 0 RIGHT NORMAL FACTOR SEMIDIRECT PRODUCT; 0 LEFT
SEMIDIRECT PRODUCT; 0 RIGHT SEMIDIRECT PRODUCT; 0 REVERSED TILDE EQUALS; 0 CURLY LOGICAL OR; 2 AND;
0 DOUBLE SUBSET; 1 SUPERSET; 1 INTERSECTION; 1 UNION; 0 PITCHFORK; 0 EQUAL AND PARALLEL TO; 0
LESS-THAN WITH DOT; 0 GREATER-THAN WITH DOT; 0 VERY MUCH LESS-THAN; 2 GREATER-THAN; 0 LESS-THAN
EQUAL TO OR GREATER-THAN; 0 GREATER-THAN EQUAL TO OR LESS-THAN; 0 EQUAL TO OR LESS-THAN; 3
GREATER-THAN; 3 PRECEDES; 3 SUCCEEDS; 0 DOES NOT PRECEDE OR EQUAL; 2 SUCCEED OR EQUAL; 0 NOT SQUARE
IMAGE OF OR EQUAL TO; 2 ORIGINAL OF OR EQUAL TO; 0 SQUARE IMAGE OF OR NOT EQUAL TO; 1 ORIGINAL OF
OR NOT EQUAL TO; 0 LESS-THAN BUT NOT EQUIVALENT TO; 0 GREATER-THAN BUT NOT EQUIVALENT TO; 0
PRECEDES BUT NOT EQUIVALENT TO; 0 SUCCEEDS BUT NOT EQUIVALENT TO; 0 NOT NORMAL SUBGROUP OF; 0 DOES
NOT CONTAIN AS NORMAL SUBGROUP; 0 NOT NORMAL SUBGROUP OF OR EQUAL TO; 0 DOES NOT CONTAIN AS NORMAL
SUBGROUP OR EQUAL; 0 VERTICAL ELLIPSIS; 0 MIDLINE HORIZONTAL ELLIPSIS; 0 UP RIGHT DIAGONAL
ELLIPSIS; 0 DOWN RIGHT DIAGONAL ELLIPSIS; 0 ELEMENT OF WITH LONG HORIZONTAL STROKE; 3 VERTICAL BAR
AT END OF HORIZONTAL STROKE; 0 SMALL ELEMENT OF WITH VERTICAL BAR AT END OF HORIZONTAL STROKE; 0
ELEMENT OF WITH DOT ABOVE; 3 OVERBAR; 0 SMALL ELEMENT OF WITH OVERBAR; 0 ELEMENT OF WITH UNDERBAR;
3 TWO HORIZONTAL STROKES; 0 CONTAINS WITH LONG HORIZONTAL STROKE; 2 VERTICAL BAR AT END OF
HORIZONTAL STROKE; 0 SMALL CONTAINS WITH VERTICAL BAR AT END OF HORIZONTAL STROKE; 0 CONTAINS WITH
OVERBAR; 0 SMALL CONTAINS WITH OVERBAR; 0 Z NOTATION BAG MEMBERSHIP; 0 DIAMETER SIGN; 0 ELECTRIC
ARROW; 0 HOUSE; 0 UP ARROWHEAD; 0 DOWN ARROWHEAD; 0 PROJECTIVE; 0 PERSPECTIVE; 0 WAVY LINE; 0 LEFT
CEILING; 0 RIGHT CEILING; 0 LEFT FLOOR; 0 RIGHT FLOOR; 0 BOTTOM RIGHT CROP; 1 LEFT CROP; 0 TOP
RIGHT CROP; 1 LEFT CROP; 0 REVERSED NOT SIGN; 0 SQUARE LOZENGE; 0 ARC; 0 SEGMENT; 0 SECTOR; 0
TELEPHONE RECORDER; 0 POSITION INDICATOR; 0 VIEWDATA SQUARE; 0 PLACE OF INTEREST SIGN; 0 TURNED NOT
SIGN; 0 WATCH; 0 HOURGLASS; 0 TOP LEFT CORNER; 1 RIGHT CORNER; 0 BOTTOM LEFT CORNER; 1 RIGHT
CORNER; 0 TOP HALF INTEGRAL; 0 BOTTOM HALF INTEGRAL; 0 FROWN; 0 SMILE; 0 UP ARROWHEAD BETWEEN TWO
HORIZONTAL BARS; 0 OPTION KEY; 0 ERASE TO THE RIGHT; 0 X IN A RECTANGLE BOX; 0 KEYBOARD; 0
LEFT-POINTING ANGLE BRACKET; 0 RIGHT-POINTING ANGLE BRACKET; 0 ERASE TO THE LEFT; 0 BENZENE RING; 0
CYLINDRICITY; 0 ALL AROUND-PROFILE; 0 SYMMETRY; 0 TOTAL RUNOUT; 0 DIMENSION ORIGIN; 0 CONICAL
TAPER; 0 SLOPE; 0 COUNTERBORE; 0 COUNTERSINK; 0 APL FUNCTIONAL SYMBOL I-BEAM; 3 SQUISH QUAD; 3 QUAD
EQUAL; 4 DIVIDE; 4 DIAMOND; 4 JOT; 4 CIRCLE; 3 CIRCLE STILE; 4 JOT; 3 SLASH BAR; 3 BACKSLASH BAR; 3
QUAD SLASH; 4 BACKSLASH; 4 LESS-THAN; 4 GREATER-THAN; 3 LEFTWARDS VANE; 3 RIGHTWARDS VANE; 3 QUAD
LEFTWARDS ARROW; 4 RIGHTWARDS ARROW; 3 CIRCLE BACKSLASH; 3 DOWN TACK UNDERBAR; 3 DELTA STILE; 3
QUAD DOWN CARET; 4 DELTA; 3 DOWN TACK JOT; 3 UPWARDS VANE; 3 QUAD UPWARDS ARROW; 3 UP TACK OVERBAR;
3 DEL STILE; 3 QUAD UP CARET; 4 DEL; 3 UP TACK JOT; 3 DOWNWARDS VANE; 3 QUAD DOWNWARDS ARROW; 3
QUOTE UNDERBAR; 3 DELTA UNDERBAR; 3 DIAMOND UNDERBAR; 3 JOT UNDERBAR; 3 CIRCLE UNDERBAR; 3 UP SHOE
JOT; 3 QUOTE QUAD; 3 CIRCLE STAR; 3 QUAD COLON; 3 UP TACK DIAERESIS; 3 DEL DIAERESIS; 3 STAR
DIAERESIS; 3 JOT DIAERESIS; 3 CIRCLE DIAERESIS; 3 DOWN SHOE STILE; 3 LEFT SHOE STILE; 3 TILDE
DIAERESIS; 3 GREATER-THAN DIAERESIS; 3 COMMA BAR; 3 DEL TILDE; 3 ZILDE; 3 STILE TILDE; 3 SEMICOLON
UNDERBAR; 3 QUAD NOT EQUAL; 4 QUESTION; 3 DOWN CARET TILDE; 3 UP CARET TILDE; 3 IOTA; 3 RHO; 3
OMEGA; 3 ALPHA UNDERBAR; 3 EPSILON UNDERBAR; 3 IOTA UNDERBAR; 3 OMEGA UNDERBAR; 3 ALPHA; 0 NOT
CHECK MARK; 0 RIGHT ANGLE WITH DOWNWARDS ZIGZAG ARROW; 0 SHOULDERED OPEN BOX; 0 BELL SYMBOL; 0
VERTICAL LINE WITH MIDDLE DOT; 0 INSERTION SYMBOL; 0 CONTINUOUS UNDERLINE SYMBOL; 0 DISCONTINUOUS
UNDERLINE SYMBOL; 0 EMPHASIS SYMBOL; 0 COMPOSITION SYMBOL; 0 WHITE SQUARE WITH CENTRE VERTICAL
LINE; 0 ENTER SYMBOL; 0 ALTERNATIVE KEY SYMBOL; 0 HELM SYMBOL; 0 CIRCLED HORIZONTAL BAR WITH NOTCH;
1 TRIANGLE DOWN; 0 BROKEN CIRCLE WITH NORTHWEST ARROW; 0 UNDO SYMBOL; 0 MONOSTABLE SYMBOL; 0
HYSTERESIS SYMBOL; 0 OPEN-CIRCUIT-OUTPUT H-TYPE SYMBOL; 1 L-TYPE SYMBOL; 0 PASSIVE-PULL-DOWN-OUTPUT
SYMBOL; 0 PASSIVE-PULL-UP-OUTPUT SYMBOL; 0 DIRECT CURRENT SYMBOL FORM TWO; 0 SOFTWARE-FUNCTION
SYMBOL; 0 APL FUNCTIONAL SYMBOL QUAD; 0 DECIMAL SEPARATOR KEY SYMBOL; 0 PREVIOUS PAGE; 0 NEXT PAGE;
0 PRINT SCREEN SYMBOL; 0 CLEAR SCREEN SYMBOL; 0 LEFT PARENTHESIS UPPER HOOK; 2 EXTENSION; 2 LOWER
HOOK; 0 RIGHT PARENTHESIS UPPER HOOK; 2 EXTENSION; 2 LOWER HOOK; 0 LEFT SQUARE BRACKET UPPER
CORNER; 3 EXTENSION; 3 LOWER CORNER; 0 RIGHT SQUARE BRACKET UPPER CORNER; 3 EXTENSION; 3 LOWER
CORNER; 0 LEFT CURLY BRACKET UPPER HOOK; 3 MIDDLE PIECE; 3 LOWER HOOK; 0 CURLY BRACKET EXTENSION; 0
RIGHT CURLY BRACKET UPPER HOOK; 3 MIDDLE PIECE; 3 LOWER HOOK; 0 INTEGRAL EXTENSION; 0 HORIZONTAL
LINE EXTENSION; 0 UPPER LEFT OR LOWER RIGHT CURLY BRACKET SECTION; 1 RIGHT OR LOWER LEFT CURLY
BRACKET SECTION; 0 SUMMATION TOP; 1 BOTTOM; 0 TOP SQUARE BRACKET; 0 BOTTOM SQUARE BRACKET; 3 OVER
TOP SQUARE BRACKET; 0 RADICAL SYMBOL BOTTOM; 0 LEFT VERTICAL BOX LINE; 0 RIGHT VERTICAL BOX LINE; 0
HORIZONTAL SCAN LINE-1; 2 LINE-3; 2 LINE-7; 2 LINE-9; 0 DENTISTRY SYMBOL LIGHT VERTICAL AND TOP
RIGHT; 5 BOTTOM RIGHT; 4 WITH CIRCLE; 3 DOWN AND HORIZONTAL WITH CIRCLE; 3 UP AND HORIZONTAL WITH
CIRCLE; 3 VERTICAL WITH TRIANGLE; 3 DOWN AND HORIZONTAL WITH TRIANGLE; 3 UP AND HORIZONTAL WITH
TRIANGLE; 3 VERTICAL AND WAVE; 3 DOWN AND HORIZONTAL WITH WAVE; 3 UP AND HORIZONTAL WITH WAVE; 3
DOWN AND HORIZONTAL; 3 UP AND HORIZONTAL; 3 VERTICAL AND TOP LEFT; 5 BOTTOM LEFT; 0 SQUARE FOOT; 0
RETURN SYMBOL; 0 EJECT SYMBOL; 0 VERTICAL LINE EXTENSION; 0 METRICAL BREVE; 1 LONG OVER SHORT; 1
SHORT OVER LONG; 1 LONG OVER TWO SHORTS; 1 TWO SHORTS OVER LONG; 3 JOINED; 1 TRISEME; 1 TETRASEME;
1 PENTASEME; 0 EARTH GROUND; 0 FUSE; 0 TOP PARENTHESIS; 0 BOTTOM PARENTHESIS; 0 TOP CURLY BRACKET;
0 BOTTOM CURLY BRACKET; 0 TOP TORTOISE SHELL BRACKET; 0 BOTTOM TORTOISE SHELL BRACKET; 0 WHITE
TRAPEZIUM; 0 BENZENE RING WITH CIRCLE; 0 STRAIGHTNESS; 0 FLATNESS; 0 AC CURRENT; 0 ELECTRICAL
INTERSECTION; 0 DECIMAL EXPONENT SYMBOL; 0 BLACK RIGHT-POINTING DOUBLE TRIANGLE; 1 LEFT-POINTING
DOUBLE TRIANGLE; 1 UP-POINTING DOUBLE TRIANGLE; 1 DOWN-POINTING DOUBLE TRIANGLE; 1 RIGHT-POINTING
DOUBLE TRIANGLE WITH VERTICAL BAR; 1 LEFT-POINTING DOUBLE TRIANGLE WITH VERTICAL BAR; 1
RIGHT-POINTING TRIANGLE WITH DOUBLE VERTICAL BAR; 0 ALARM CLOCK; 0 STOPWATCH; 0 TIMER CLOCK; 0
HOURGLASS WITH FLOWING SAND; 0 BLACK MEDIUM LEFT-POINTING TRIANGLE; 2 RIGHT-POINTING TRIANGLE; 2
UP-POINTING TRIANGLE; 2 DOWN-POINTING TRIANGLE; 0 DOUBLE VERTICAL BAR; 0 BLACK SQUARE FOR STOP; 1
CIRCLE FOR RECORD; 0 POWER SYMBOL; 1 ON-OFF SYMBOL; 1 ON SYMBOL; 1 SLEEP SYMBOL; 0 OBSERVER EYE
SYMBOL; 0 SYMBOL FOR NULL; 2 START OF HEADING; 4 TEXT; 2 END OF TEXT; 4 TRANSMISSION; 2 ENQUIRY; 2
ACKNOWLEDGE; 2 BELL; 2 BACKSPACE; 2 HORIZONTAL TABULATION; 2 LINE FEED; 2 VERTICAL TABULATION; 2
FORM FEED; 2 CARRIAGE RETURN; 2 SHIFT OUT; 3 IN; 2 DATA LINK ESCAPE; 2 DEVICE CONTROL ONE; 4 TWO; 4
THREE; 4 FOUR; 2 NEGATIVE ACKNOWLEDGE; 2 SYNCHRONOUS IDLE; 2 END OF TRANSMISSION BLOCK; 2 CANCEL; 2
END OF MEDIUM; 2 SUBSTITUTE; 2 ESCAPE; 2 FILE SEPARATOR; 2 GROUP SEPARATOR; 2 RECORD SEPARATOR; 2
UNIT SEPARATOR; 2 SPACE; 2 DELETE; 0 BLANK SYMBOL; 0 OPEN BOX; 0 SYMBOL FOR NEWLINE; 2 DELETE FORM
TWO; 2 SUBSTITUTE FORM TWO; @2440 0 OCR HOOK; 1 CHAIR; 1 FORK; 1 INVERTED FORK; 1 BELT BUCKLE; 1
BOW TIE; 1 BRANCH BANK IDENTIFICATION; 1 AMOUNT OF CHECK; 1 DASH; 1 CUSTOMER ACCOUNT NUMBER; 1
DOUBLE BACKSLASH; @2460 0 CIRCLED DIGIT ONE; 2 TWO; 2 THREE; 2 FOUR; 2 FIVE; 2 SIX; 2 SEVEN; 2
EIGHT; 2 NINE; 1 NUMBER TEN; 2 ELEVEN; 2 TWELVE; 2 THIRTEEN; 2 FOURTEEN; 2 FIFTEEN; 2 SIXTEEN; 2
SEVENTEEN; 2 EIGHTEEN; 2 NINETEEN; 2 TWENTY; 0 PARENTHESIZED DIGIT ONE; 2 TWO; 2 THREE; 2 FOUR; 2
FIVE; 2 SIX; 2 SEVEN; 2 EIGHT; 2 NINE; 1 NUMBER TEN; 2 ELEVEN; 2 TWELVE; 2 THIRTEEN; 2 FOURTEEN; 2
FIFTEEN; 2 SIXTEEN; 2 SEVENTEEN; 2 EIGHTEEN; 2 NINETEEN; 2 TWENTY; 0 DIGIT ONE FULL STOP; 1 TWO
FULL STOP; 1 THREE FULL STOP; 1 FOUR FULL STOP; 1 FIVE FULL STOP; 1 SIX FULL STOP; 1 SEVEN FULL
STOP; 1 EIGHT FULL STOP; 1 NINE FULL STOP; 0 NUMBER TEN FULL STOP; 1 ELEVEN FULL STOP; 1 TWELVE
FULL STOP; 1 THIRTEEN FULL STOP; 1 FOURTEEN FULL STOP; 1 FIFTEEN FULL STOP; 1 SIXTEEN FULL STOP; 1
SEVENTEEN FULL STOP; 1 EIGHTEEN FULL STOP; 1 NINETEEN FULL STOP; 1 TWENTY FULL STOP; 0
PARENTHESIZED LATIN SMALL LETTER A; 4 B; 4 C; 4 D; 4 E; 4 F; 4 G; 4 H; 4 I; 4 J; 4 K; 4 L; 4 M; 4
N; 4 O; 4 P; 4 Q; 4 R; 4 S; 4 T; 4 U; 4 V; 4 W; 4 X; 4 Y; 4 Z; 0 CIRCLED LATIN CAPITAL LETTER A; 4
B; 4 C; 4 D; 4 E; 4 F; 4 G; 4 H; 4 I; 4 J; 4 K; 4 L; 4 M; 4 N; 4 O; 4 P; 4 Q; 4 R; 4 S; 4 T; 4 U; 4
V; 4 W; 4 X; 4 Y; 4 Z; 2 SMALL LETTER A; 4 B; 4 C; 4 D; 4 E; 4 F; 4 G; 4 H; 4 I; 4 J; 4 K; 4 L; 4
M; 4 N; 4 O; 4 P; 4 Q; 4 R; 4 S; 4 T; 4 U; 4 V; 4 W; 4 X; 4 Y; 4 Z; 1 DIGIT ZERO; 0 NEGATIVE
CIRCLED NUMBER ELEVEN; 3 TWELVE; 3 THIRTEEN; 3 FOURTEEN; 3 FIFTEEN; 3 SIXTEEN; 3 SEVENTEEN; 3
EIGHTEEN; 3 NINETEEN; 3 TWENTY; 0 DOUBLE CIRCLED DIGIT ONE; 3 TWO; 3 THREE; 3 FOUR; 3 FIVE; 3 SIX;
3 SEVEN; 3 EIGHT; 3 NINE; 2 NUMBER TEN; 0 NEGATIVE CIRCLED DIGIT ZERO; 0 BOX DRAWINGS LIGHT
HORIZONTAL; 2 HEAVY HORIZONTAL; 2 LIGHT VERTICAL; 2 HEAVY VERTICAL; 2 LIGHT TRIPLE DASH HORIZONTAL;
2 HEAVY TRIPLE DASH HORIZONTAL; 2 LIGHT TRIPLE DASH VERTICAL; 2 HEAVY TRIPLE DASH VERTICAL; 2 LIGHT
QUADRUPLE DASH HORIZONTAL; 2 HEAVY QUADRUPLE DASH HORIZONTAL; 2 LIGHT QUADRUPLE DASH VERTICAL; 2
HEAVY QUADRUPLE DASH VERTICAL; 2 LIGHT DOWN AND RIGHT; 2 DOWN LIGHT AND RIGHT HEAVY; 3 HEAVY AND
RIGHT LIGHT; 2 HEAVY DOWN AND RIGHT; 2 LIGHT DOWN AND LEFT; 2 DOWN LIGHT AND LEFT HEAVY; 3 HEAVY
AND LEFT LIGHT; 2 HEAVY DOWN AND LEFT; 2 LIGHT UP AND RIGHT; 2 UP LIGHT AND RIGHT HEAVY; 3 HEAVY
AND RIGHT LIGHT; 2 HEAVY UP AND RIGHT; 2 LIGHT UP AND LEFT; 2 UP LIGHT AND LEFT HEAVY; 3 HEAVY AND
LEFT LIGHT; 2 HEAVY UP AND LEFT; 2 LIGHT VERTICAL AND RIGHT; 2 VERTICAL LIGHT AND RIGHT HEAVY; 2 UP
HEAVY AND RIGHT DOWN LIGHT; 2 DOWN HEAVY AND RIGHT UP LIGHT; 2 VERTICAL HEAVY AND RIGHT LIGHT; 2
DOWN LIGHT AND RIGHT UP HEAVY; 2 UP LIGHT AND RIGHT DOWN HEAVY; 2 HEAVY VERTICAL AND RIGHT; 2 LIGHT
VERTICAL AND LEFT; 2 VERTICAL LIGHT AND LEFT HEAVY; 2 UP HEAVY AND LEFT DOWN LIGHT; 2 DOWN HEAVY
AND LEFT UP LIGHT; 2 VERTICAL HEAVY AND LEFT LIGHT; 2 DOWN LIGHT AND LEFT UP HEAVY; 2 UP LIGHT AND
LEFT DOWN HEAVY; 2 HEAVY VERTICAL AND LEFT; 2 LIGHT DOWN AND HORIZONTAL; 2 LEFT HEAVY AND RIGHT
DOWN LIGHT; 2 RIGHT HEAVY AND LEFT DOWN LIGHT; 2 DOWN LIGHT AND HORIZONTAL HEAVY; 3 HEAVY AND
HORIZONTAL LIGHT; 2 RIGHT LIGHT AND LEFT DOWN HEAVY; 2 LEFT LIGHT AND RIGHT DOWN HEAVY; 2 HEAVY
DOWN AND HORIZONTAL; 2 LIGHT UP AND HORIZONTAL; 2 LEFT HEAVY AND RIGHT UP LIGHT; 2 RIGHT HEAVY AND
LEFT UP LIGHT; 2 UP LIGHT AND HORIZONTAL HEAVY; 3 HEAVY AND HORIZONTAL LIGHT; 2 RIGHT LIGHT AND
LEFT UP HEAVY; 2 LEFT LIGHT AND RIGHT UP HEAVY; 2 HEAVY UP AND HORIZONTAL; 2 LIGHT VERTICAL AND
HORIZONTAL; 2 LEFT HEAVY AND RIGHT VERTICAL LIGHT; 2 RIGHT HEAVY AND LEFT VERTICAL LIGHT; 2
VERTICAL LIGHT AND HORIZONTAL HEAVY; 2 UP HEAVY AND DOWN HORIZONTAL LIGHT; 2 DOWN HEAVY AND UP
HORIZONTAL LIGHT; 2 VERTICAL HEAVY AND HORIZONTAL LIGHT; 2 LEFT UP HEAVY AND RIGHT DOWN LIGHT; 2
RIGHT UP HEAVY AND LEFT DOWN LIGHT; 2 LEFT DOWN HEAVY AND RIGHT UP LIGHT; 2 RIGHT DOWN HEAVY AND
LEFT UP LIGHT; 2 DOWN LIGHT AND UP HORIZONTAL HEAVY; 2 UP LIGHT AND DOWN HORIZONTAL HEAVY; 2 RIGHT
LIGHT AND LEFT VERTICAL HEAVY; 2 LEFT LIGHT AND RIGHT VERTICAL HEAVY; 2 HEAVY VERTICAL AND
HORIZONTAL; 2 LIGHT DOUBLE DASH HORIZONTAL; 2 HEAVY DOUBLE DASH HORIZONTAL; 2 LIGHT DOUBLE DASH
VERTICAL; 2 HEAVY DOUBLE DASH VERTICAL; 2 DOUBLE HORIZONTAL; 3 VERTICAL; 2 DOWN SINGLE AND RIGHT
DOUBLE; 3 DOUBLE AND RIGHT SINGLE; 2 DOUBLE DOWN AND RIGHT; 2 DOWN SINGLE AND LEFT DOUBLE; 3 DOUBLE
AND LEFT SINGLE; 2 DOUBLE DOWN AND LEFT; 2 UP SINGLE AND RIGHT DOUBLE; 3 DOUBLE AND RIGHT SINGLE; 2
DOUBLE UP AND RIGHT; 2 UP SINGLE AND LEFT DOUBLE; 3 DOUBLE AND LEFT SINGLE; 2 DOUBLE UP AND LEFT; 2
VERTICAL SINGLE AND RIGHT DOUBLE; 3 DOUBLE AND RIGHT SINGLE; 2 DOUBLE VERTICAL AND RIGHT; 2
VERTICAL SINGLE AND LEFT DOUBLE; 3 DOUBLE AND LEFT SINGLE; 2 DOUBLE VERTICAL AND LEFT; 2 DOWN
SINGLE AND HORIZONTAL DOUBLE; 3 DOUBLE AND HORIZONTAL SINGLE; 2 DOUBLE DOWN AND HORIZONTAL; 2 UP
SINGLE AND HORIZONTAL DOUBLE; 3 DOUBLE AND HORIZONTAL SINGLE; 2 DOUBLE UP AND HORIZONTAL; 2
VERTICAL SINGLE AND HORIZONTAL DOUBLE; 3 DOUBLE AND HORIZONTAL SINGLE; 2 DOUBLE VERTICAL AND
HORIZONTAL; 2 LIGHT ARC DOWN AND RIGHT; 6 LEFT; 4 UP AND LEFT; 6 RIGHT; 3 DIAGONAL UPPER RIGHT TO
LOWER LEFT; 5 LEFT TO LOWER RIGHT; 4 CROSS; 3 LEFT; 3 UP; 3 RIGHT; 3 DOWN; 2 HEAVY LEFT; 3 UP; 3
RIGHT; 3 DOWN; 2 LIGHT LEFT AND HEAVY RIGHT; 3 UP AND HEAVY DOWN; 2 HEAVY LEFT AND LIGHT RIGHT; 3
UP AND LIGHT DOWN; 0 UPPER HALF BLOCK; 0 LOWER ONE EIGHTH BLOCK; 2 QUARTER BLOCK; 1 THREE EIGHTHS
BLOCK; 1 HALF BLOCK; 1 FIVE EIGHTHS BLOCK; 1 THREE QUARTERS BLOCK; 1 SEVEN EIGHTHS BLOCK; 0 FULL
BLOCK; 0 LEFT SEVEN EIGHTHS BLOCK; 1 THREE QUARTERS BLOCK; 1 FIVE EIGHTHS BLOCK; 1 HALF BLOCK; 1
THREE EIGHTHS BLOCK; 1 ONE QUARTER BLOCK; 2 EIGHTH BLOCK; 0 RIGHT HALF BLOCK; 0 LIGHT SHADE; 0
MEDIUM SHADE; 0 DARK SHADE; 0 UPPER ONE EIGHTH BLOCK; 0 RIGHT ONE EIGHTH BLOCK; 0 QUADRANT LOWER
LEFT; 2 RIGHT; 1 UPPER LEFT; 3 AND LOWER LEFT AND LOWER RIGHT; 5 RIGHT; 4 UPPER RIGHT AND LOWER
LEFT; 8 RIGHT; 2 RIGHT; 3 AND LOWER LEFT; 6 AND LOWER RIGHT; 0 BLACK SQUARE; 0 WHITE SQUARE; 2 WITH
ROUNDED CORNERS; 2 CONTAINING BLACK SMALL SQUARE; 0 SQUARE WITH HORIZONTAL FILL; 2 VERTICAL FILL; 2
ORTHOGONAL CROSSHATCH FILL; 2 UPPER LEFT TO LOWER RIGHT FILL; 3 RIGHT TO LOWER LEFT FILL; 2
DIAGONAL CROSSHATCH FILL; 0 BLACK SMALL SQUARE; 0 WHITE SMALL SQUARE; 0 BLACK RECTANGLE; 0 WHITE
RECTANGLE; 0 BLACK VERTICAL RECTANGLE; 0 WHITE VERTICAL RECTANGLE; 0 BLACK PARALLELOGRAM; 0 WHITE
PARALLELOGRAM; 0 BLACK UP-POINTING TRIANGLE; 0 WHITE UP-POINTING TRIANGLE; 0 BLACK UP-POINTING
SMALL TRIANGLE; 0 WHITE UP-POINTING SMALL TRIANGLE; 0 BLACK RIGHT-POINTING TRIANGLE; 0 WHITE
RIGHT-POINTING TRIANGLE; 0 BLACK RIGHT-POINTING SMALL TRIANGLE; 0 WHITE RIGHT-POINTING SMALL
TRIANGLE; 0 BLACK RIGHT-POINTING POINTER; 0 WHITE RIGHT-POINTING POINTER; 0 BLACK DOWN-POINTING
TRIANGLE; 0 WHITE DOWN-POINTING TRIANGLE; 0 BLACK DOWN-POINTING SMALL TRIANGLE; 0 WHITE
DOWN-POINTING SMALL TRIANGLE; 0 BLACK LEFT-POINTING TRIANGLE; 0 WHITE LEFT-POINTING TRIANGLE; 0
BLACK LEFT-POINTING SMALL TRIANGLE; 0 WHITE LEFT-POINTING SMALL TRIANGLE; 0 BLACK LEFT-POINTING
POINTER; 0 WHITE LEFT-POINTING POINTER; 0 BLACK DIAMOND; 0 WHITE DIAMOND; 2 CONTAINING BLACK SMALL
DIAMOND; 0 FISHEYE; 0 LOZENGE; 0 WHITE CIRCLE; 0 DOTTED CIRCLE; 0 CIRCLE WITH VERTICAL FILL; 0
BULLSEYE; 0 BLACK CIRCLE; 0 CIRCLE WITH LEFT HALF BLACK; 2 RIGHT HALF BLACK; 2 LOWER HALF BLACK; 2
UPPER HALF BLACK; 3 RIGHT QUADRANT BLACK; 2 ALL BUT UPPER LEFT QUADRANT BLACK; 0 LEFT HALF BLACK
CIRCLE; 0 RIGHT HALF BLACK CIRCLE; 0 INVERSE BULLET; 1 WHITE CIRCLE; 0 UPPER HALF INVERSE WHITE
CIRCLE; 0 LOWER HALF INVERSE WHITE CIRCLE; 0 UPPER LEFT QUADRANT CIRCULAR ARC; 1 RIGHT QUADRANT
CIRCULAR ARC; 0 LOWER RIGHT QUADRANT CIRCULAR ARC; 1 LEFT QUADRANT CIRCULAR ARC; 0 UPPER HALF
CIRCLE; 0 LOWER HALF CIRCLE; 0 BLACK LOWER RIGHT TRIANGLE; 2 LEFT TRIANGLE; 1 UPPER LEFT TRIANGLE;
2 RIGHT TRIANGLE; 0 WHITE BULLET; 0 SQUARE WITH LEFT HALF BLACK; 2 RIGHT HALF BLACK; 2 UPPER LEFT
DIAGONAL HALF BLACK; 2 LOWER RIGHT DIAGONAL HALF BLACK; 0 WHITE SQUARE WITH VERTICAL BISECTING
LINE; 1 UP-POINTING TRIANGLE WITH DOT; 0 UP-POINTING TRIANGLE WITH LEFT HALF BLACK; 3 RIGHT HALF
BLACK; 0 LARGE CIRCLE; 0 WHITE SQUARE WITH UPPER LEFT QUADRANT; 3 LOWER LEFT QUADRANT; 4 RIGHT
QUADRANT; 3 UPPER RIGHT QUADRANT; 1 CIRCLE WITH UPPER LEFT QUADRANT; 3 LOWER LEFT QUADRANT; 4 RIGHT
QUADRANT; 3 UPPER RIGHT QUADRANT; 0 UPPER LEFT TRIANGLE; 1 RIGHT TRIANGLE; 0 LOWER LEFT TRIANGLE; 0
WHITE MEDIUM SQUARE; 0 BLACK MEDIUM SQUARE; 0 WHITE MEDIUM SMALL SQUARE; 0 BLACK MEDIUM SMALL
SQUARE; 0 LOWER RIGHT TRIANGLE; 0 BLACK SUN WITH RAYS; 0 CLOUD; 0 UMBRELLA; 0 SNOWMAN; 0 COMET; 0
BLACK STAR; 0 WHITE STAR; 0 LIGHTNING; 0 THUNDERSTORM; 0 SUN; 0 ASCENDING NODE; 0 DESCENDING NODE;
0 CONJUNCTION; 0 OPPOSITION; 0 BLACK TELEPHONE; 0 WHITE TELEPHONE; 0 BALLOT BOX; 2 WITH CHECK; 3 X;
0 SALTIRE; 0 UMBRELLA WITH RAIN DROPS; 0 HOT BEVERAGE; 0 WHITE SHOGI PIECE; 0 BLACK SHOGI PIECE; 0
SHAMROCK; 0 REVERSED ROTATED FLORAL HEART BULLET; 0 BLACK LEFT POINTING INDEX; 1 RIGHT POINTING
INDEX; 0 WHITE LEFT POINTING INDEX; 1 UP POINTING INDEX; 1 RIGHT POINTING INDEX; 1 DOWN POINTING
INDEX; 0 SKULL AND CROSSBONES; 0 CAUTION SIGN; 0 RADIOACTIVE SIGN; 0 BIOHAZARD SIGN; 0 CADUCEUS; 0
ANKH; 0 ORTHODOX CROSS; 0 CHI RHO; 0 CROSS OF LORRAINE; 2 JERUSALEM; 0 STAR AND CRESCENT; 0 FARSI
SYMBOL; 0 ADI SHAKTI; 0 HAMMER AND SICKLE; 0 PEACE SYMBOL; 0 YIN YANG; 0 TRIGRAM FOR HEAVEN; 2
LAKE; 2 FIRE; 2 THUNDER; 2 WIND; 2 WATER; 2 MOUNTAIN; 2 EARTH; 0 WHEEL OF DHARMA; 0 WHITE FROWNING
FACE; 1 SMILING FACE; 0 BLACK SMILING FACE; 0 WHITE SUN WITH RAYS; 0 FIRST QUARTER MOON; 0 LAST
QUARTER MOON; 0 MERCURY; 0 FEMALE SIGN; 0 EARTH; 0 MALE SIGN; 0 JUPITER; 0 SATURN; 0 URANUS; 0
NEPTUNE; 0 PLUTO; 0 ARIES; 0 TAURUS; 0 GEMINI; 0 CANCER; 0 LEO; 0 VIRGO; 0 LIBRA; 0 SCORPIUS; 0
SAGITTARIUS; 0 CAPRICORN; 0 AQUARIUS; 0 PISCES; 0 WHITE CHESS KING; 2 QUEEN; 2 ROOK; 2 BISHOP; 2
KNIGHT; 2 PAWN; 0 BLACK CHESS KING; 2 QUEEN; 2 ROOK; 2 BISHOP; 2 KNIGHT; 2 PAWN; 1 SPADE SUIT; 0
WHITE HEART SUIT; 1 DIAMOND SUIT; 0 BLACK CLUB SUIT; 0 WHITE SPADE SUIT; 0 BLACK HEART SUIT; 1
DIAMOND SUIT; 0 WHITE CLUB SUIT; 0 HOT SPRINGS; 0 QUARTER NOTE; 0 EIGHTH NOTE; 0 BEAMED EIGHTH
NOTES; 1 SIXTEENTH NOTES; 0 MUSIC FLAT SIGN; 1 NATURAL SIGN; 1 SHARP SIGN; 0 WEST SYRIAC CROSS; 0
EAST SYRIAC CROSS; 0 UNIVERSAL RECYCLING SYMBOL; 0 RECYCLING SYMBOL FOR TYPE-1 PLASTICS; 3 TYPE-2
PLASTICS; 3 TYPE-3 PLASTICS; 3 TYPE-4 PLASTICS; 3 TYPE-5 PLASTICS; 3 TYPE-6 PLASTICS; 3 TYPE-7
PLASTICS; 3 GENERIC MATERIALS; 0 BLACK UNIVERSAL RECYCLING SYMBOL; 0 RECYCLED PAPER SYMBOL; 0
PARTIALLY-RECYCLED PAPER SYMBOL; 0 PERMANENT PAPER SIGN; 0 WHEELCHAIR SYMBOL; 0 DIE FACE-1; 1
FACE-2; 1 FACE-3; 1 FACE-4; 1 FACE-5; 1 FACE-6; 0 WHITE CIRCLE WITH DOT RIGHT; 3 TWO DOTS; 0 BLACK
CIRCLE WITH WHITE DOT RIGHT; 3 TWO WHITE DOTS; 0 MONOGRAM FOR YANG; 2 YIN; 0 DIGRAM FOR GREATER
YANG; 2 LESSER YIN; 3 YANG; 2 GREATER YIN; 0 WHITE FLAG; 0 BLACK FLAG; 0 HAMMER AND PICK; 0 ANCHOR;
0 CROSSED SWORDS; 0 STAFF OF AESCULAPIUS; 0 SCALES; 0 ALEMBIC; 0 FLOWER; 0 GEAR; 0 STAFF OF HERMES;
0 ATOM SYMBOL; 0 FLEUR-DE-LIS; 0 OUTLINED WHITE STAR; 0 THREE LINES CONVERGING RIGHT; 3 LEFT; 0
WARNING SIGN; 0 HIGH VOLTAGE SIGN; 0 DOUBLED FEMALE SIGN; 1 MALE SIGN; 0 INTERLOCKED FEMALE AND
MALE SIGN; 0 MALE AND FEMALE SIGN; 1 WITH STROKE SIGN; 3 AND MALE AND FEMALE SIGN; 0 VERTICAL MALE
WITH STROKE SIGN; 0 HORIZONTAL MALE WITH STROKE SIGN; 0 MEDIUM WHITE CIRCLE; 1 BLACK CIRCLE; 1
SMALL WHITE CIRCLE; 0 MARRIAGE SYMBOL; 0 DIVORCE SYMBOL; 0 UNMARRIED PARTNERSHIP SYMBOL; 0 COFFIN;
0 FUNERAL URN; 0 NEUTER; 0 CERES; 0 PALLAS; 0 JUNO; 0 VESTA; 0 CHIRON; 0 BLACK MOON LILITH; 0
SEXTILE; 0 SEMISEXTILE; 0 QUINCUNX; 0 SESQUIQUADRATE; 0 SOCCER BALL; 0 BASEBALL; 0 SQUARED KEY; 0
WHITE DRAUGHTS MAN; 2 KING; 0 BLACK DRAUGHTS MAN; 2 KING; 0 SNOWMAN WITHOUT SNOW; 0 SUN BEHIND
CLOUD; 0 RAIN; 0 BLACK SNOWMAN; 0 THUNDER CLOUD AND RAIN; 0 TURNED WHITE SHOGI PIECE; 1 BLACK SHOGI
PIECE; 0 WHITE DIAMOND IN SQUARE; 0 CROSSING LANES; 0 DISABLED CAR; 0 OPHIUCHUS; 0 PICK; 0 CAR
SLIDING; 0 HELMET WITH WHITE CROSS; 0 CIRCLED CROSSING LANES; 0 CHAINS; 0 NO ENTRY; 0 ALTERNATE
ONE-WAY LEFT WAY TRAFFIC; 0 BLACK TWO-WAY LEFT WAY TRAFFIC; 0 WHITE TWO-WAY LEFT WAY TRAFFIC; 0
BLACK LEFT LANE MERGE; 0 WHITE LEFT LANE MERGE; 0 DRIVE SLOW SIGN; 0 HEAVY WHITE DOWN-POINTING
TRIANGLE; 0 LEFT CLOSED ENTRY; 0 SQUARED SALTIRE; 0 FALLING DIAGONAL IN WHITE CIRCLE IN BLACK
SQUARE; 0 BLACK TRUCK; 0 RESTRICTED LEFT ENTRY-1; 2 ENTRY-2; 0 ASTRONOMICAL SYMBOL FOR URANUS; 0
HEAVY CIRCLE WITH STROKE AND TWO DOTS ABOVE; 0 PENTAGRAM; 0 RIGHT-HANDED INTERLACED PENTAGRAM; 0
LEFT-HANDED INTERLACED PENTAGRAM; 0 INVERTED PENTAGRAM; 0 BLACK CROSS ON SHIELD; 0 SHINTO SHRINE; 0
CHURCH; 0 CASTLE; 0 HISTORIC SITE; 0 GEAR WITHOUT HUB; 1 WITH HANDLES; 0 MAP SYMBOL FOR LIGHTHOUSE;
0 MOUNTAIN; 0 UMBRELLA ON GROUND; 0 FOUNTAIN; 0 FLAG IN HOLE; 0 FERRY; 0 SAILBOAT; 0 SQUARE FOUR
CORNERS; 0 SKIER; 0 ICE SKATE; 0 PERSON WITH BALL; 0 TENT; 0 JAPANESE BANK SYMBOL; 0 HEADSTONE
GRAVEYARD SYMBOL; 0 FUEL PUMP; 0 CUP ON BLACK SQUARE; 0 WHITE FLAG WITH HORIZONTAL MIDDLE BLACK
STRIPE; 0 BLACK SAFETY SCISSORS; 0 UPPER BLADE SCISSORS; 0 BLACK SCISSORS; 0 LOWER BLADE SCISSORS;
0 WHITE SCISSORS; 1 HEAVY CHECK MARK; 0 TELEPHONE LOCATION SIGN; 0 TAPE DRIVE; 0 AIRPLANE; 0
ENVELOPE; 0 RAISED FIST; 1 HAND; 0 VICTORY HAND; 0 WRITING HAND; 0 LOWER RIGHT PENCIL; 0 PENCIL; 0
UPPER RIGHT PENCIL; 0 WHITE NIB; 0 BLACK NIB; 0 CHECK MARK; 0 HEAVY CHECK MARK; 0 MULTIPLICATION X;
0 HEAVY MULTIPLICATION X; 0 BALLOT X; 0 HEAVY BALLOT X; 0 OUTLINED GREEK CROSS; 0 HEAVY GREEK
CROSS; 0 OPEN CENTRE CROSS; 0 HEAVY OPEN CENTRE CROSS; 0 LATIN CROSS; 0 SHADOWED WHITE LATIN CROSS;
0 OUTLINED LATIN CROSS; 0 MALTESE CROSS; 0 STAR OF DAVID; 0 FOUR TEARDROP-SPOKED ASTERISK; 1
BALLOON-SPOKED ASTERISK; 0 HEAVY FOUR BALLOON-SPOKED ASTERISK; 0 FOUR CLUB-SPOKED ASTERISK; 0 BLACK
FOUR POINTED STAR; 0 WHITE FOUR POINTED STAR; 0 SPARKLES; 0 STRESS OUTLINED WHITE STAR; 0 CIRCLED
WHITE STAR; 0 OPEN CENTRE BLACK STAR; 0 BLACK CENTRE WHITE STAR; 0 OUTLINED BLACK STAR; 0 HEAVY
OUTLINED BLACK STAR; 0 PINWHEEL STAR; 0 SHADOWED WHITE STAR; 0 HEAVY ASTERISK; 0 OPEN CENTRE
ASTERISK; 0 EIGHT SPOKED ASTERISK; 1 POINTED BLACK STAR; 2 PINWHEEL STAR; 0 SIX POINTED BLACK STAR;
0 EIGHT POINTED RECTILINEAR BLACK STAR; 0 HEAVY EIGHT POINTED RECTILINEAR BLACK STAR; 0 TWELVE
POINTED BLACK STAR; 0 SIXTEEN POINTED ASTERISK; 0 TEARDROP-SPOKED ASTERISK; 0 OPEN CENTRE
TEARDROP-SPOKED ASTERISK; 0 HEAVY TEARDROP-SPOKED ASTERISK; 0 SIX PETALLED BLACK AND WHITE
FLORETTE; 0 BLACK FLORETTE; 0 WHITE FLORETTE; 0 EIGHT PETALLED OUTLINED BLACK FLORETTE; 0 CIRCLED
OPEN CENTRE EIGHT POINTED STAR; 0 HEAVY TEARDROP-SPOKED PINWHEEL ASTERISK; 0 SNOWFLAKE; 0 TIGHT
TRIFOLIATE SNOWFLAKE; 0 HEAVY CHEVRON SNOWFLAKE; 0 SPARKLE; 0 HEAVY SPARKLE; 0 BALLOON-SPOKED
ASTERISK; 0 EIGHT TEARDROP-SPOKED PROPELLER ASTERISK; 0 HEAVY EIGHT TEARDROP-SPOKED PROPELLER
ASTERISK; 0 CROSS MARK; 0 SHADOWED WHITE CIRCLE; 0 NEGATIVE SQUARED CROSS MARK; 0 LOWER RIGHT
DROP-SHADOWED WHITE SQUARE; 0 UPPER RIGHT DROP-SHADOWED WHITE SQUARE; 0 LOWER RIGHT SHADOWED WHITE
SQUARE; 0 UPPER RIGHT SHADOWED WHITE SQUARE; 0 BLACK QUESTION MARK ORNAMENT; 0 WHITE QUESTION MARK
ORNAMENT; 1 EXCLAMATION MARK ORNAMENT; 0 BLACK DIAMOND MINUS WHITE X; 0 HEAVY EXCLAMATION MARK
SYMBOL; 0 LIGHT VERTICAL BAR; 0 MEDIUM VERTICAL BAR; 0 HEAVY VERTICAL BAR; 1 SINGLE TURNED COMMA
QUOTATION MARK ORNAMENT; 2 COMMA QUOTATION MARK ORNAMENT; 1 DOUBLE TURNED COMMA QUOTATION MARK
ORNAMENT; 2 COMMA QUOTATION MARK ORNAMENT; 1 LOW SINGLE COMMA QUOTATION MARK ORNAMENT; 2 DOUBLE
COMMA QUOTATION MARK ORNAMENT; 0 CURVED STEM PARAGRAPH SIGN ORNAMENT; 0 HEAVY EXCLAMATION MARK
ORNAMENT; 1 HEART EXCLAMATION MARK ORNAMENT; 1 BLACK HEART; 0 ROTATED HEAVY BLACK HEART BULLET; 0
FLORAL HEART; 0 ROTATED FLORAL HEART BULLET; 0 MEDIUM LEFT PARENTHESIS ORNAMENT; 1 RIGHT
PARENTHESIS ORNAMENT; 1 FLATTENED LEFT PARENTHESIS ORNAMENT; 2 RIGHT PARENTHESIS ORNAMENT; 1
LEFT-POINTING ANGLE BRACKET ORNAMENT; 1 RIGHT-POINTING ANGLE BRACKET ORNAMENT; 0 HEAVY
LEFT-POINTING ANGLE QUOTATION MARK ORNAMENT; 1 RIGHT-POINTING ANGLE QUOTATION MARK ORNAMENT; 1
LEFT-POINTING ANGLE BRACKET ORNAMENT; 1 RIGHT-POINTING ANGLE BRACKET ORNAMENT; 0 LIGHT LEFT
TORTOISE SHELL BRACKET ORNAMENT; 1 RIGHT TORTOISE SHELL BRACKET ORNAMENT; 0 MEDIUM LEFT CURLY
BRACKET ORNAMENT; 1 RIGHT CURLY BRACKET ORNAMENT; 0 DINGBAT NEGATIVE CIRCLED DIGIT ONE; 4 TWO; 4
THREE; 4 FOUR; 4 FIVE; 4 SIX; 4 SEVEN; 4 EIGHT; 4 NINE; 3 NUMBER TEN; 1 CIRCLED SANS-SERIF DIGIT
ONE; 4 TWO; 4 THREE; 4 FOUR; 4 FIVE; 4 SIX; 4 SEVEN; 4 EIGHT; 4 NINE; 3 NUMBER TEN; 1 NEGATIVE
CIRCLED SANS-SERIF DIGIT ONE; 5 TWO; 5 THREE; 5 FOUR; 5 FIVE; 5 SIX; 5 SEVEN; 5 EIGHT; 5 NINE; 4
NUMBER TEN; 0 HEAVY WIDE-HEADED RIGHTWARDS ARROW; 1 PLUS SIGN; 1 MINUS SIGN; 1 DIVISION SIGN; 1
SOUTH EAST ARROW; 1 RIGHTWARDS ARROW; 1 NORTH EAST ARROW; 0 DRAFTING POINT RIGHTWARDS ARROW; 0
HEAVY ROUND-TIPPED RIGHTWARDS ARROW; 0 TRIANGLE-HEADED RIGHTWARDS ARROW; 0 HEAVY TRIANGLE-HEADED
RIGHTWARDS ARROW; 0 DASHED TRIANGLE-HEADED RIGHTWARDS ARROW; 0 HEAVY DASHED TRIANGLE-HEADED
RIGHTWARDS ARROW; 0 BLACK RIGHTWARDS ARROW; 0 THREE-D TOP-LIGHTED RIGHTWARDS ARROWHEAD; 1
BOTTOM-LIGHTED RIGHTWARDS ARROWHEAD; 0 BLACK RIGHTWARDS ARROWHEAD; 0 HEAVY BLACK CURVED DOWNWARDS
AND RIGHTWARDS ARROW; 3 UPWARDS AND RIGHTWARDS ARROW; 0 SQUAT BLACK RIGHTWARDS ARROW; 0 HEAVY
CONCAVE-POINTED BLACK RIGHTWARDS ARROW; 0 RIGHT-SHADED WHITE RIGHTWARDS ARROW; 0 LEFT-SHADED WHITE
RIGHTWARDS ARROW; 0 BACK-TILTED SHADOWED WHITE RIGHTWARDS ARROW; 0 FRONT-TILTED SHADOWED WHITE
RIGHTWARDS ARROW; 0 HEAVY LOWER RIGHT-SHADOWED WHITE RIGHTWARDS ARROW; 1 UPPER RIGHT-SHADOWED WHITE
RIGHTWARDS ARROW; 0 NOTCHED LOWER RIGHT-SHADOWED WHITE RIGHTWARDS ARROW; 0 CURLY LOOP; 0 NOTCHED
UPPER RIGHT-SHADOWED WHITE RIGHTWARDS ARROW; 0 CIRCLED HEAVY WHITE RIGHTWARDS ARROW; 0
WHITE-FEATHERED RIGHTWARDS ARROW; 0 BLACK-FEATHERED SOUTH EAST ARROW; 1 RIGHTWARDS ARROW; 1 NORTH
EAST ARROW; 0 HEAVY BLACK-FEATHERED SOUTH EAST ARROW; 2 RIGHTWARDS ARROW; 2 NORTH EAST ARROW; 0
TEARDROP-BARBED RIGHTWARDS ARROW; 0 HEAVY TEARDROP-SHANKED RIGHTWARDS ARROW; 0 WEDGE-TAILED
RIGHTWARDS ARROW; 0 HEAVY WEDGE-TAILED RIGHTWARDS ARROW; 0 OPEN-OUTLINED RIGHTWARDS ARROW; 0 DOUBLE
CURLY LOOP; @2B00 0 NORTH EAST WHITE ARROW; 1 WEST WHITE ARROW; 0 SOUTH EAST WHITE ARROW; 1 WEST
WHITE ARROW; 0 LEFT RIGHT WHITE ARROW; 0 LEFTWARDS BLACK ARROW; 0 UPWARDS BLACK ARROW; 0 DOWNWARDS
BLACK ARROW; 0 NORTH EAST BLACK ARROW; 1 WEST BLACK ARROW; 0 SOUTH EAST BLACK ARROW; 1 WEST BLACK
ARROW; 0 LEFT RIGHT BLACK ARROW; 0 UP DOWN BLACK ARROW; 0 RIGHTWARDS ARROW WITH TIP DOWNWARDS; 4
UPWARDS; 0 LEFTWARDS ARROW WITH TIP DOWNWARDS; 4 UPWARDS; 0 SQUARE WITH TOP HALF BLACK; 2 BOTTOM
HALF BLACK; 2 UPPER RIGHT DIAGONAL HALF BLACK; 2 LOWER LEFT DIAGONAL HALF BLACK; 0 DIAMOND WITH
LEFT HALF BLACK; 2 RIGHT HALF BLACK; 2 TOP HALF BLACK; 2 BOTTOM HALF BLACK; 0 DOTTED SQUARE; 0
BLACK LARGE SQUARE; 0 WHITE LARGE SQUARE; 0 BLACK VERY SMALL SQUARE; 0 WHITE VERY SMALL SQUARE; 0
BLACK PENTAGON; 0 WHITE PENTAGON; 1 HEXAGON; 0 BLACK HEXAGON; 0 HORIZONTAL BLACK HEXAGON; 0 BLACK
LARGE CIRCLE; 1 MEDIUM DIAMOND; 0 WHITE MEDIUM DIAMOND; 0 BLACK MEDIUM LOZENGE; 0 WHITE MEDIUM
LOZENGE; 0 BLACK SMALL DIAMOND; 2 LOZENGE; 0 WHITE SMALL LOZENGE; 0 BLACK HORIZONTAL ELLIPSE; 0
WHITE HORIZONTAL ELLIPSE; 0 BLACK VERTICAL ELLIPSE; 0 WHITE VERTICAL ELLIPSE; 0 LEFT ARROW WITH
SMALL CIRCLE; 0 THREE LEFTWARDS ARROWS; 0 LEFT ARROW WITH CIRCLED PLUS; 0 LONG LEFTWARDS SQUIGGLE
ARROW; 0 LEFTWARDS TWO-HEADED ARROW WITH VERTICAL STROKE; 4 DOUBLE VERTICAL STROKE; 3 FROM BAR; 2
TRIPLE DASH ARROW; 1 ARROW WITH DOTTED STEM; 3 TAIL WITH VERTICAL STROKE; 5 DOUBLE VERTICAL STROKE;
1 TWO-HEADED ARROW WITH TAIL; 5 WITH VERTICAL STROKE; 6 DOUBLE VERTICAL STROKE; 1 ARROW THROUGH X;
0 WAVE ARROW POINTING DIRECTLY LEFT; 0 EQUALS SIGN ABOVE LEFTWARDS ARROW; 0 REVERSE TILDE OPERATOR
ABOVE LEFTWARDS ARROW; 0 LEFTWARDS ARROW ABOVE REVERSE ALMOST EQUAL TO; 0 RIGHTWARDS ARROW THROUGH
GREATER-THAN; 3 SUPERSET; 0 LEFTWARDS QUADRUPLE ARROW; 0 RIGHTWARDS QUADRUPLE ARROW; 0 REVERSE
TILDE OPERATOR ABOVE RIGHTWARDS ARROW; 0 RIGHTWARDS ARROW ABOVE REVERSE ALMOST EQUAL TO; 0 TILDE
OPERATOR ABOVE LEFTWARDS ARROW; 0 LEFTWARDS ARROW ABOVE ALMOST EQUAL TO; 3 REVERSE TILDE OPERATOR;
0 RIGHTWARDS ARROW ABOVE REVERSE TILDE OPERATOR; 0 DOWNWARDS TRIANGLE-HEADED ZIGZAG ARROW; 0 SHORT
SLANTED NORTH ARROW; 1 BACKSLANTED SOUTH ARROW; 0 WHITE MEDIUM STAR; 0 BLACK SMALL STAR; 0 WHITE
SMALL STAR; 0 BLACK RIGHT-POINTING PENTAGON; 0 WHITE RIGHT-POINTING PENTAGON; 0 HEAVY LARGE CIRCLE;
1 OVAL WITH OVAL INSIDE; 1 CIRCLE WITH CIRCLE INSIDE; 1 CIRCLE; 1 CIRCLED SALTIRE; 0 SLANTED NORTH
ARROW WITH HOOKED HEAD; 0 BACKSLANTED SOUTH ARROW WITH HOOKED TAIL; 0 SLANTED NORTH ARROW WITH
HORIZONTAL TAIL; 0 BACKSLANTED SOUTH ARROW WITH HORIZONTAL TAIL; 0 BENT ARROW POINTING DOWNWARDS
THEN NORTH EAST; 0 SHORT BENT ARROW POINTING DOWNWARDS THEN NORTH EAST; 0 LEFTWARDS TRIANGLE-HEADED
ARROW; 0 UPWARDS TRIANGLE-HEADED ARROW; 0 RIGHTWARDS TRIANGLE-HEADED ARROW; 0 DOWNWARDS
TRIANGLE-HEADED ARROW; 0 LEFT RIGHT TRIANGLE-HEADED ARROW; 0 UP DOWN TRIANGLE-HEADED ARROW; 0 NORTH
WEST TRIANGLE-HEADED ARROW; 1 EAST TRIANGLE-HEADED ARROW; 0 SOUTH EAST TRIANGLE-HEADED ARROW; 1
WEST TRIANGLE-HEADED ARROW; 0 LEFTWARDS TRIANGLE-HEADED DASHED ARROW; 0 UPWARDS TRIANGLE-HEADED
DASHED ARROW; 0 RIGHTWARDS TRIANGLE-HEADED DASHED ARROW; 0 DOWNWARDS TRIANGLE-HEADED DASHED ARROW;
0 CLOCKWISE TRIANGLE-HEADED OPEN CIRCLE ARROW; 0 ANTICLOCKWISE TRIANGLE-HEADED OPEN CIRCLE ARROW; 0
LEFTWARDS TRIANGLE-HEADED ARROW TO BAR; 0 UPWARDS TRIANGLE-HEADED ARROW TO BAR; 0 RIGHTWARDS
TRIANGLE-HEADED ARROW TO BAR; 0 DOWNWARDS TRIANGLE-HEADED ARROW TO BAR; @2B76 0 NORTH WEST
TRIANGLE-HEADED ARROW TO BAR; 1 EAST TRIANGLE-HEADED ARROW TO BAR; 0 SOUTH EAST TRIANGLE-HEADED
ARROW TO BAR; 1 WEST TRIANGLE-HEADED ARROW TO BAR; 0 LEFTWARDS TRIANGLE-HEADED ARROW WITH DOUBLE
HORIZONTAL STROKE; 0 UPWARDS TRIANGLE-HEADED ARROW WITH DOUBLE HORIZONTAL STROKE; 0 RIGHTWARDS
TRIANGLE-HEADED ARROW WITH DOUBLE HORIZONTAL STROKE; 0 DOWNWARDS TRIANGLE-HEADED ARROW WITH DOUBLE
HORIZONTAL STROKE; 0 HORIZONTAL TAB KEY; 0 VERTICAL TAB KEY; 0 LEFTWARDS TRIANGLE-HEADED ARROW OVER
RIGHTWARDS TRIANGLE-HEADED ARROW; 0 UPWARDS TRIANGLE-HEADED ARROW LEFTWARDS OF DOWNWARDS
TRIANGLE-HEADED ARROW; 0 RIGHTWARDS TRIANGLE-HEADED ARROW OVER LEFTWARDS TRIANGLE-HEADED ARROW; 0
DOWNWARDS TRIANGLE-HEADED ARROW LEFTWARDS OF UPWARDS TRIANGLE-HEADED ARROW; 0 LEFTWARDS
TRIANGLE-HEADED PAIRED ARROWS; 0 UPWARDS TRIANGLE-HEADED PAIRED ARROWS; 0 RIGHTWARDS
TRIANGLE-HEADED PAIRED ARROWS; 0 DOWNWARDS TRIANGLE-HEADED PAIRED ARROWS; 0 LEFTWARDS BLACK CIRCLED
WHITE ARROW; 0 UPWARDS BLACK CIRCLED WHITE ARROW; 0 RIGHTWARDS BLACK CIRCLED WHITE ARROW; 0
DOWNWARDS BLACK CIRCLED WHITE ARROW; 0 ANTICLOCKWISE TRIANGLE-HEADED RIGHT U-SHAPED ARROW; 2 BOTTOM
U-SHAPED ARROW; 2 LEFT U-SHAPED ARROW; 2 TOP U-SHAPED ARROW; 0 RETURN LEFT; 1 RIGHT; 0 NEWLINE
LEFT; 1 RIGHT; 0 FOUR CORNER ARROWS CIRCLING ANTICLOCKWISE; 0 RIGHTWARDS BLACK ARROW; @2B97 0
SYMBOL FOR TYPE A ELECTRONICS; 0 THREE-D TOP-LIGHTED LEFTWARDS EQUILATERAL ARROWHEAD; 1
RIGHT-LIGHTED UPWARDS EQUILATERAL ARROWHEAD; 1 TOP-LIGHTED RIGHTWARDS EQUILATERAL ARROWHEAD; 1
LEFT-LIGHTED DOWNWARDS EQUILATERAL ARROWHEAD; 0 BLACK LEFTWARDS EQUILATERAL ARROWHEAD; 1 UPWARDS
EQUILATERAL ARROWHEAD; 1 RIGHTWARDS EQUILATERAL ARROWHEAD; 1 DOWNWARDS EQUILATERAL ARROWHEAD; 0
DOWNWARDS TRIANGLE-HEADED ARROW WITH LONG TIP LEFTWARDS; 6 RIGHTWARDS; 0 UPWARDS TRIANGLE-HEADED
ARROW WITH LONG TIP LEFTWARDS; 6 RIGHTWARDS; 0 LEFTWARDS TRIANGLE-HEADED ARROW WITH LONG TIP
UPWARDS; 0 RIGHTWARDS TRIANGLE-HEADED ARROW WITH LONG TIP UPWARDS; 0 LEFTWARDS TRIANGLE-HEADED
ARROW WITH LONG TIP DOWNWARDS; 0 RIGHTWARDS TRIANGLE-HEADED ARROW WITH LONG TIP DOWNWARDS; 0 BLACK
CURVED DOWNWARDS AND LEFTWARDS ARROW; 4 RIGHTWARDS ARROW; 2 UPWARDS AND LEFTWARDS ARROW; 4
RIGHTWARDS ARROW; 2 LEFTWARDS AND UPWARDS ARROW; 2 RIGHTWARDS AND UPWARDS ARROW; 2 LEFTWARDS AND
DOWNWARDS ARROW; 2 RIGHTWARDS AND DOWNWARDS ARROW; 0 RIBBON ARROW DOWN LEFT; 3 RIGHT; 2 UP LEFT; 3
RIGHT; 2 LEFT UP; 2 RIGHT UP; 2 LEFT DOWN; 2 RIGHT DOWN; 0 UPWARDS WHITE ARROW FROM BAR WITH
HORIZONTAL BAR; 0 UP ARROWHEAD IN A RECTANGLE BOX; 0 OVERLAPPING WHITE SQUARES; 2 AND BLACK
SQUARES; 1 BLACK SQUARES; 0 BALLOT BOX WITH LIGHT X; 0 CIRCLED X; 1 BOLD X; 0 BLACK SQUARE CENTRED;
1 DIAMOND CENTRED; 0 TURNED BLACK PENTAGON; 0 HORIZONTAL BLACK OCTAGON; 0 BLACK OCTAGON; 1 MEDIUM
UP-POINTING TRIANGLE CENTRED; 2 DOWN-POINTING TRIANGLE CENTRED; 2 LEFT-POINTING TRIANGLE CENTRED; 2
RIGHT-POINTING TRIANGLE CENTRED; 0 NEPTUNE FORM TWO; 0 TOP HALF BLACK CIRCLE; 0 BOTTOM HALF BLACK
CIRCLE; 0 LIGHT FOUR POINTED BLACK CUSP; 0 ROTATED LIGHT FOUR POINTED BLACK CUSP; 0 WHITE FOUR
POINTED CUSP; 0 ROTATED WHITE FOUR POINTED CUSP; 0 SQUARE POSITION INDICATOR; 0 UNCERTAINTY SIGN; 0
GROUP MARK; 0 PLUTO FORM TWO; 2 THREE; 2 FOUR; 2 FIVE; 0 TRANSPLUTO; 0 PROSERPINA; 0 ASTRAEA; 0
HYGIEA; 0 PHOLUS; 0 NESSUS; 0 WHITE MOON SELENA; 0 BLACK DIAMOND ON CROSS; 0 TRUE LIGHT MOON ARTA;
0 CUPIDO; 0 HADES; 0 ZEUS; 0 KRONOS; 0 APOLLON; 0 ADMETOS; 0 VULCANUS; 0 POSEIDON; 0 LEFT HALF
BLACK STAR; 0 RIGHT HALF BLACK STAR; 0 STAR WITH LEFT HALF BLACK; 2 RIGHT HALF BLACK; 0 LEFTWARDS
TWO-HEADED ARROW WITH TRIANGLE ARROWHEADS; 0 UPWARDS TWO-HEADED ARROW WITH TRIANGLE ARROWHEADS; 0
RIGHTWARDS TWO-HEADED ARROW WITH TRIANGLE ARROWHEADS; 0 DOWNWARDS TWO-HEADED ARROW WITH TRIANGLE
ARROWHEADS; 0 ERIS FORM ONE; 2 TWO; 0 SEDNA; 0 RUSSIAN ASTROLOGICAL SYMBOL VIGINTILE; 3 NOVILE; 3
QUINTILE; 3 BINOVILE; 3 SENTAGON; 3 TREDECILE; 0 EQUALS SIGN WITH INFINITY BELOW; 0 UNITED SYMBOL;
0 SEPARATED SYMBOL; 0 DOUBLED SYMBOL; 0 PASSED SYMBOL; 0 REVERSED RIGHT ANGLE; 0 HELLSCHREIBER
PAUSE SYMBOL; @3000 0 IDEOGRAPHIC SPACE; 1 COMMA; 1 FULL STOP; 0 DITTO MARK; 0 JAPANESE INDUSTRIAL
STANDARD SYMBOL; 0 IDEOGRAPHIC ITERATION MARK; 1 CLOSING MARK; 1 NUMBER ZERO; 0 LEFT ANGLE BRACKET;
0 RIGHT ANGLE BRACKET; 0 LEFT DOUBLE ANGLE BRACKET; 0 RIGHT DOUBLE ANGLE BRACKET; 0 LEFT CORNER
BRACKET; 0 RIGHT CORNER BRACKET; 0 LEFT WHITE CORNER BRACKET; 0 RIGHT WHITE CORNER BRACKET; 0 LEFT
BLACK LENTICULAR BRACKET; 0 RIGHT BLACK LENTICULAR BRACKET; 0 POSTAL MARK; 0 GETA MARK; 0 LEFT
TORTOISE SHELL BRACKET; 0 RIGHT TORTOISE SHELL BRACKET; 0 LEFT WHITE LENTICULAR BRACKET; 0 RIGHT
WHITE LENTICULAR BRACKET; 0 LEFT WHITE TORTOISE SHELL BRACKET; 0 RIGHT WHITE TORTOISE SHELL
BRACKET; 0 LEFT WHITE SQUARE BRACKET; 0 RIGHT WHITE SQUARE BRACKET; 0 WAVE DASH; 0 REVERSED DOUBLE
PRIME QUOTATION MARK; 0 DOUBLE PRIME QUOTATION MARK; 0 LOW DOUBLE PRIME QUOTATION MARK; 0 POSTAL
MARK FACE; 0 HANGZHOU NUMERAL ONE; 2 TWO; 2 THREE; 2 FOUR; 2 FIVE; 2 SIX; 2 SEVEN; 2 EIGHT; 2 NINE;
0 IDEOGRAPHIC LEVEL TONE MARK; 1 RISING TONE MARK; 1 DEPARTING TONE MARK; 1 ENTERING TONE MARK; 0
HANGUL SINGLE DOT TONE MARK; 1 DOUBLE DOT TONE MARK; 0 WAVY DASH; 0 VERTICAL KANA REPEAT MARK; 3
WITH VOICED SOUND MARK; 3 MARK UPPER HALF; 3 WITH VOICED SOUND MARK UPPER HALF; 3 MARK LOWER HALF;
0 CIRCLED POSTAL MARK; 0 IDEOGRAPHIC TELEGRAPH LINE FEED SEPARATOR SYMBOL; 0 HANGZHOU NUMERAL TEN;
2 TWENTY; 2 THIRTY; 0 VERTICAL IDEOGRAPHIC ITERATION MARK; 0 MASU MARK; 0 PART ALTERNATION MARK; 0
IDEOGRAPHIC VARIATION INDICATOR; 1 HALF FILL SPACE; @3041 0 HIRAGANA LETTER SMALL A; 2 A; 2 SMALL
I; 2 I; 2 SMALL U; 2 U; 2 SMALL E; 2 E; 2 SMALL O; 2 O; 2 KA; 2 GA; 2 KI; 2 GI; 2 KU; 2 GU; 2 KE; 2
GE; 2 KO; 2 GO; 2 SA; 2 ZA; 2 SI; 2 ZI; 2 SU; 2 ZU; 2 SE; 2 ZE; 2 SO; 2 ZO; 2 TA; 2 DA; 2 TI; 2 DI;
2 SMALL TU; 2 TU; 2 DU; 2 TE; 2 DE; 2 TO; 2 DO; 2 NA; 2 NI; 2 NU; 2 NE; 2 NO; 2 HA; 2 BA; 2 PA; 2
HI; 2 BI; 2 PI; 2 HU; 2 BU; 2 PU; 2 HE; 2 BE; 2 PE; 2 HO; 2 BO; 2 PO; 2 MA; 2 MI; 2 MU; 2 ME; 2 MO;
2 SMALL YA; 2 YA; 2 SMALL YU; 2 YU; 2 SMALL YO; 2 YO; 2 RA; 2 RI; 2 RU; 2 RE; 2 RO; 2 SMALL WA; 2
WA; 2 WI; 2 WE; 2 WO; 2 N; 2 VU; 2 SMALL KA; 3 KE; @3099 0 COMBINING KATAKANA-HIRAGANA VOICED SOUND
MARK; 2 SEMI-VOICED SOUND MARK; 0 KATAKANA-HIRAGANA VOICED SOUND MARK; 1 SEMI-VOICED SOUND MARK; 0
HIRAGANA ITERATION MARK; 1 VOICED ITERATION MARK; 1 DIGRAPH YORI; 0 KATAKANA-HIRAGANA DOUBLE
HYPHEN; 0 KATAKANA LETTER SMALL A; 2 A; 2 SMALL I; 2 I; 2 SMALL U; 2 U; 2 SMALL E; 2 E; 2 SMALL O;
2 O; 2 KA; 2 GA; 2 KI; 2 GI; 2 KU; 2 GU; 2 KE; 2 GE; 2 KO; 2 GO; 2 SA; 2 ZA; 2 SI; 2 ZI; 2 SU; 2
ZU; 2 SE; 2 ZE; 2 SO; 2 ZO; 2 TA; 2 DA; 2 TI; 2 DI; 2 SMALL TU; 2 TU; 2 DU; 2 TE; 2 DE; 2 TO; 2 DO;
2 NA; 2 NI; 2 NU; 2 NE; 2 NO; 2 HA; 2 BA; 2 PA; 2 HI; 2 BI; 2 PI; 2 HU; 2 BU; 2 PU; 2 HE; 2 BE; 2
PE; 2 HO; 2 BO; 2 PO; 2 MA; 2 MI; 2 MU; 2 ME; 2 MO; 2 SMALL YA; 2 YA; 2 SMALL YU; 2 YU; 2 SMALL YO;
2 YO; 2 RA; 2 RI; 2 RU; 2 RE; 2 RO; 2 SMALL WA; 2 WA; 2 WI; 2 WE; 2 WO; 2 N; 2 VU; 2 SMALL KA; 3
KE; 2 VA; 2 VI; 2 VE; 2 VO; 1 MIDDLE DOT; 0 KATAKANA-HIRAGANA PROLONGED SOUND MARK; 0 KATAKANA
ITERATION MARK; 1 VOICED ITERATION MARK; 1 DIGRAPH KOTO; @FE0E 0 VARIATION SELECTOR-15; 1
SELECTOR-16; @FEFF 0 ZERO WIDTH NO-BREAK SPACE; @FFFC 0 OBJECT REPLACEMENT CHARACTER; 0 REPLACEMENT
CHARACTER; @1F300 0 CYCLONE; 0 FOGGY; 0 CLOSED UMBRELLA; 0 NIGHT WITH STARS; 0 SUNRISE OVER
MOUNTAINS; 0 SUNRISE; 0 CITYSCAPE AT DUSK; 0 SUNSET OVER BUILDINGS; 0 RAINBOW; 0 BRIDGE AT NIGHT; 0
WATER WAVE; 0 VOLCANO; 0 MILKY WAY; 0 EARTH GLOBE EUROPE-AFRICA; 2 AMERICAS; 2 ASIA-AUSTRALIA; 0
GLOBE WITH MERIDIANS; 0 NEW MOON SYMBOL; 0 WAXING CRESCENT MOON SYMBOL; 0 FIRST QUARTER MOON
SYMBOL; 0 WAXING GIBBOUS MOON SYMBOL; 0 FULL MOON SYMBOL; 0 WANING GIBBOUS MOON SYMBOL; 0 LAST
QUARTER MOON SYMBOL; 0 WANING CRESCENT MOON SYMBOL; 0 CRESCENT MOON; 0 NEW MOON WITH FACE; 0 FIRST
QUARTER MOON WITH FACE; 0 LAST QUARTER MOON WITH FACE; 0 FULL MOON WITH FACE; 0 SUN WITH FACE; 0
GLOWING STAR; 0 SHOOTING STAR; 0 THERMOMETER; 0 BLACK DROPLET; 0 WHITE SUN; 2 WITH SMALL CLOUD; 2
BEHIND CLOUD; 4 WITH RAIN; 0 CLOUD WITH RAIN; 2 SNOW; 2 LIGHTNING; 2 TORNADO; 0 FOG; 0 WIND BLOWING
FACE; 0 HOT DOG; 0 TACO; 0 BURRITO; 0 CHESTNUT; 0 SEEDLING; 0 EVERGREEN TREE; 0 DECIDUOUS TREE; 0
PALM TREE; 0 CACTUS; 0 HOT PEPPER; 0 TULIP; 0 CHERRY BLOSSOM; 0 ROSE; 0 HIBISCUS; 0 SUNFLOWER; 0
BLOSSOM; 0 EAR OF MAIZE; 2 RICE; 0 HERB; 0 FOUR LEAF CLOVER; 0 MAPLE LEAF; 0 FALLEN LEAF; 0 LEAF
FLUTTERING IN WIND; 0 MUSHROOM; 0 TOMATO; 0 AUBERGINE; 0 GRAPES; 0 MELON; 0 WATERMELON; 0
TANGERINE; 0 LEMON; 0 BANANA; 0 PINEAPPLE; 0 RED APPLE; 0 GREEN APPLE; 0 PEAR; 0 PEACH; 0 CHERRIES;
0 STRAWBERRY; 0 HAMBURGER; 0 SLICE OF PIZZA; 0 MEAT ON BONE; 0 POULTRY LEG; 0 RICE CRACKER; 1 BALL;
0 COOKED RICE; 0 CURRY AND RICE; 0 STEAMING BOWL; 0 SPAGHETTI; 0 BREAD; 0 FRENCH FRIES; 0 ROASTED
SWEET POTATO; 0 DANGO; 0 ODEN; 0 SUSHI; 0 FRIED SHRIMP; 0 FISH CAKE WITH SWIRL DESIGN; 0 SOFT ICE
CREAM; 0 SHAVED ICE; 0 ICE CREAM; 0 DOUGHNUT; 0 COOKIE; 0 CHOCOLATE BAR; 0 CANDY; 0 LOLLIPOP; 0
CUSTARD; 0 HONEY POT; 0 SHORTCAKE; 0 BENTO BOX; 0 POT OF FOOD; 0 COOKING; 0 FORK AND KNIFE; 0
TEACUP WITHOUT HANDLE; 0 SAKE BOTTLE AND CUP; 0 WINE GLASS; 0 COCKTAIL GLASS; 0 TROPICAL DRINK; 0
BEER MUG; 0 CLINKING BEER MUGS; 0 BABY BOTTLE; 0 FORK AND KNIFE WITH PLATE; 0 BOTTLE WITH POPPING
CORK; 0 POPCORN; 0 RIBBON; 0 WRAPPED PRESENT; 0 BIRTHDAY CAKE; 0 JACK-O-LANTERN; 0 CHRISTMAS TREE;
0 FATHER CHRISTMAS; 0 FIREWORKS; 0 FIREWORK SPARKLER; 0 BALLOON; 0 PARTY POPPER; 0 CONFETTI BALL; 0
TANABATA TREE; 0 CROSSED FLAGS; 0 PINE DECORATION; 0 JAPANESE DOLLS; 0 CARP STREAMER; 0 WIND CHIME;
0 MOON VIEWING CEREMONY; 0 SCHOOL SATCHEL; 0 GRADUATION CAP; 0 HEART WITH TIP ON THE LEFT; 0
BOUQUET OF FLOWERS; 0 MILITARY MEDAL; 0 REMINDER RIBBON; 0 MUSICAL KEYBOARD WITH JACKS; 0 STUDIO
MICROPHONE; 0 LEVEL SLIDER; 0 CONTROL KNOBS; 0 BEAMED ASCENDING MUSICAL NOTES; 1 DESCENDING MUSICAL
NOTES; 0 FILM FRAMES; 0 ADMISSION TICKETS; 0 CAROUSEL HORSE; 0 FERRIS WHEEL; 0 ROLLER COASTER; 0
FISHING POLE AND FISH; 0 MICROPHONE; 0 MOVIE CAMERA; 0 CINEMA; 0 HEADPHONE; 0 ARTIST PALETTE; 0 TOP
HAT; 0 CIRCUS TENT; 0 TICKET; 0 CLAPPER BOARD; 0 PERFORMING ARTS; 0 VIDEO GAME; 0 DIRECT HIT; 0
SLOT MACHINE; 0 BILLIARDS; 0 GAME DIE; 0 BOWLING; 0 FLOWER PLAYING CARDS; 0 MUSICAL NOTE; 0
MULTIPLE MUSICAL NOTES; 0 SAXOPHONE; 0 GUITAR; 0 MUSICAL KEYBOARD; 0 TRUMPET; 0 VIOLIN; 0 MUSICAL
SCORE; 0 RUNNING SHIRT WITH SASH; 0 TENNIS RACQUET AND BALL; 0 SKI AND SKI BOOT; 0 BASKETBALL AND
HOOP; 0 CHEQUERED FLAG; 0 SNOWBOARDER; 0 RUNNER; 0 SURFER; 0 SPORTS MEDAL; 0 TROPHY; 0 HORSE
RACING; 0 AMERICAN FOOTBALL; 0 RUGBY FOOTBALL; 0 SWIMMER; 0 WEIGHT LIFTER; 0 GOLFER; 0 RACING
MOTORCYCLE; 1 CAR; 0 CRICKET BAT AND BALL; 0 VOLLEYBALL; 0 FIELD HOCKEY STICK AND BALL; 0 ICE
HOCKEY STICK AND PUCK; 0 TABLE TENNIS PADDLE AND BALL; 0 SNOW CAPPED MOUNTAIN; 0 CAMPING; 0 BEACH
WITH UMBRELLA; 0 BUILDING CONSTRUCTION; 0 HOUSE BUILDINGS; 0 CITYSCAPE; 0 DERELICT HOUSE BUILDING;
0 CLASSICAL BUILDING; 0 DESERT; 1 ISLAND; 0 NATIONAL PARK; 0 STADIUM; 0 HOUSE BUILDING; 1 WITH
GARDEN; 0 OFFICE BUILDING; 0 JAPANESE POST OFFICE; 0 EUROPEAN POST OFFICE; 0 HOSPITAL; 0 BANK; 0
AUTOMATED TELLER MACHINE; 0 HOTEL; 0 LOVE HOTEL; 0 CONVENIENCE STORE; 0 SCHOOL; 0 DEPARTMENT STORE;
0 FACTORY; 0 IZAKAYA LANTERN; 0 JAPANESE CASTLE; 0 EUROPEAN CASTLE; 0 WHITE PENNANT; 0 BLACK
PENNANT; 0 WAVING WHITE FLAG; 1 BLACK FLAG; 0 ROSETTE; 0 BLACK ROSETTE; 0 LABEL; 0 BADMINTON
RACQUET AND SHUTTLECOCK; 0 BOW AND ARROW; 0 AMPHORA; 0 EMOJI MODIFIER FITZPATRICK TYPE-1-2; 3
TYPE-3; 3 TYPE-4; 3 TYPE-5; 3 TYPE-6; 0 RAT; 0 MOUSE; 0 OX; 0 WATER BUFFALO; 0 COW; 0 TIGER; 0
LEOPARD; 0 RABBIT; 0 CAT; 0 DRAGON; 0 CROCODILE; 0 WHALE; 0 SNAIL; 0 SNAKE; 0 HORSE; 0 RAM; 0 GOAT;
0 SHEEP; 0 MONKEY; 0 ROOSTER; 0 CHICKEN; 0 DOG; 0 PIG; 0 BOAR; 0 ELEPHANT; 0 OCTOPUS; 0 SPIRAL
SHELL; 0 BUG; 0 ANT; 0 HONEYBEE; 0 LADY BEETLE; 0 FISH; 0 TROPICAL FISH; 0 BLOWFISH; 0 TURTLE; 0
HATCHING CHICK; 0 BABY CHICK; 0 FRONT-FACING BABY CHICK; 0 BIRD; 0 PENGUIN; 0 KOALA; 0 POODLE; 0
DROMEDARY CAMEL; 0 BACTRIAN CAMEL; 0 DOLPHIN; 0 MOUSE FACE; 0 COW FACE; 0 TIGER FACE; 0 RABBIT
FACE; 0 CAT FACE; 0 DRAGON FACE; 0 SPOUTING WHALE; 0 HORSE FACE; 0 MONKEY FACE; 0 DOG FACE; 0 PIG
FACE; 0 FROG FACE; 0 HAMSTER FACE; 0 WOLF FACE; 0 BEAR FACE; 0 PANDA FACE; 0 PIG NOSE; 0 PAW
PRINTS; 0 CHIPMUNK; 0 EYES; 0 EYE; 0 EAR; 0 NOSE; 0 MOUTH; 0 TONGUE; 0 WHITE UP POINTING BACKHAND
INDEX; 1 DOWN POINTING BACKHAND INDEX; 1 LEFT POINTING BACKHAND INDEX; 1 RIGHT POINTING BACKHAND
INDEX; 0 FISTED HAND SIGN; 0 WAVING HAND SIGN; 0 OK HAND SIGN; 0 THUMBS UP SIGN; 1 DOWN SIGN; 0
CLAPPING HANDS SIGN; 0 OPEN HANDS SIGN; 0 CROWN; 0 WOMANS HAT; 0 EYEGLASSES; 0 NECKTIE; 0 T-SHIRT;
0 JEANS; 0 DRESS; 0 KIMONO; 0 BIKINI; 0 WOMANS CLOTHES; 0 PURSE; 0 HANDBAG; 0 POUCH; 0 MANS SHOE; 0
ATHLETIC SHOE; 0 HIGH-HEELED SHOE; 0 WOMANS SANDAL; 1 BOOTS; 0 FOOTPRINTS; 0 BUST IN SILHOUETTE; 0
BUSTS IN SILHOUETTE; 0 BOY; 0 GIRL; 0 MAN; 0 WOMAN; 0 FAMILY; 0 MAN AND WOMAN HOLDING HANDS; 0 TWO
MEN HOLDING HANDS; 1 WOMEN HOLDING HANDS; 0 POLICE OFFICER; 0 WOMAN WITH BUNNY EARS; 0 BRIDE WITH
VEIL; 0 PERSON WITH BLOND HAIR; 0 MAN WITH GUA PI MAO; 2 TURBAN; 0 OLDER MAN; 1 WOMAN; 0 BABY; 0
CONSTRUCTION WORKER; 0 PRINCESS; 0 JAPANESE OGRE; 1 GOBLIN; 0 GHOST; 0 BABY ANGEL; 0
EXTRATERRESTRIAL ALIEN; 0 ALIEN MONSTER; 0 IMP; 0 SKULL; 0 INFORMATION DESK PERSON; 0 GUARDSMAN; 0
DANCER; 0 LIPSTICK; 0 NAIL POLISH; 0 FACE MASSAGE; 0 HAIRCUT; 0 BARBER POLE; 0 SYRINGE; 0 PILL; 0
KISS MARK; 0 LOVE LETTER; 0 RING; 0 GEM STONE; 0 KISS; 0 BOUQUET; 0 COUPLE WITH HEART; 0 WEDDING; 0
BEATING HEART; 0 BROKEN HEART; 0 TWO HEARTS; 0 SPARKLING HEART; 0 GROWING HEART; 0 HEART WITH
ARROW; 0 BLUE HEART; 0 GREEN HEART; 0 YELLOW HEART; 0 PURPLE HEART; 0 HEART WITH RIBBON; 0
REVOLVING HEARTS; 0 HEART DECORATION; 0 DIAMOND SHAPE WITH A DOT INSIDE; 0 ELECTRIC LIGHT BULB; 0
ANGER SYMBOL; 0 BOMB; 0 SLEEPING SYMBOL; 0 COLLISION SYMBOL; 0 SPLASHING SWEAT SYMBOL; 0 DROPLET; 0
DASH SYMBOL; 0 PILE OF POO; 0 FLEXED BICEPS; 0 DIZZY SYMBOL; 0 SPEECH BALLOON; 0 THOUGHT BALLOON; 0
WHITE FLOWER; 0 HUNDRED POINTS SYMBOL; 0 MONEY BAG; 0 CURRENCY EXCHANGE; 0 HEAVY DOLLAR SIGN; 0
CREDIT CARD; 0 BANKNOTE WITH YEN SIGN; 2 DOLLAR SIGN; 2 EURO SIGN; 2 POUND SIGN; 0 MONEY WITH
WINGS; 0 CHART WITH UPWARDS TREND AND YEN SIGN; 0 SEAT; 0 PERSONAL COMPUTER; 0 BRIEFCASE; 0
MINIDISC; 0 FLOPPY DISK; 0 OPTICAL DISC; 0 DVD; 0 FILE FOLDER; 0 OPEN FILE FOLDER; 0 PAGE WITH
CURL; 1 FACING UP; 0 CALENDAR; 0 TEAR-OFF CALENDAR; 0 CARD INDEX; 0 CHART WITH UPWARDS TREND; 2
DOWNWARDS TREND; 0 BAR CHART; 0 CLIPBOARD; 0 PUSHPIN; 0 ROUND PUSHPIN; 0 PAPERCLIP; 0 STRAIGHT
RULER; 0 TRIANGULAR RULER; 0 BOOKMARK TABS; 0 LEDGER; 0 NOTEBOOK; 1 WITH DECORATIVE COVER; 0 CLOSED
BOOK; 0 OPEN BOOK; 0 GREEN BOOK; 0 BLUE BOOK; 0 ORANGE BOOK; 0 BOOKS; 0 NAME BADGE; 0 SCROLL; 0
MEMO; 0 TELEPHONE RECEIVER; 0 PAGER; 0 FAX MACHINE; 0 SATELLITE ANTENNA; 0 PUBLIC ADDRESS
LOUDSPEAKER; 0 CHEERING MEGAPHONE; 0 OUTBOX TRAY; 0 INBOX TRAY; 0 PACKAGE; 0 E-MAIL SYMBOL; 0
INCOMING ENVELOPE; 0 ENVELOPE WITH DOWNWARDS ARROW ABOVE; 0 CLOSED MAILBOX WITH LOWERED FLAG; 3
RAISED FLAG; 0 OPEN MAILBOX WITH RAISED FLAG; 3 LOWERED FLAG; 0 POSTBOX; 0 POSTAL HORN; 0
NEWSPAPER; 0 MOBILE PHONE; 2 WITH RIGHTWARDS ARROW AT LEFT; 0 VIBRATION MODE; 0 MOBILE PHONE OFF; 0
NO MOBILE PHONES; 0 ANTENNA WITH BARS; 0 CAMERA; 1 WITH FLASH; 0 VIDEO CAMERA; 0 TELEVISION; 0
RADIO; 0 VIDEOCASSETTE; 0 FILM PROJECTOR; 0 PORTABLE STEREO; 0 PRAYER BEADS; 0 TWISTED RIGHTWARDS
ARROWS; 0 CLOCKWISE RIGHTWARDS AND LEFTWARDS OPEN CIRCLE ARROWS; 7 WITH CIRCLED ONE OVERLAY; 1
DOWNWARDS AND UPWARDS OPEN CIRCLE ARROWS; 0 ANTICLOCKWISE DOWNWARDS AND UPWARDS OPEN CIRCLE ARROWS;
0 LOW BRIGHTNESS SYMBOL; 0 HIGH BRIGHTNESS SYMBOL; 0 SPEAKER WITH CANCELLATION STROKE; 0 SPEAKER; 1
WITH ONE SOUND WAVE; 2 THREE SOUND WAVES; 0 BATTERY; 0 ELECTRIC PLUG; 0 LEFT-POINTING MAGNIFYING
GLASS; 0 RIGHT-POINTING MAGNIFYING GLASS; 0 LOCK WITH INK PEN; 0 CLOSED LOCK WITH KEY; 0 KEY; 0
LOCK; 0 OPEN LOCK; 0 BELL; 1 WITH CANCELLATION STROKE; 0 BOOKMARK; 0 LINK SYMBOL; 0 RADIO BUTTON; 0
BACK WITH LEFTWARDS ARROW ABOVE; 0 END WITH LEFTWARDS ARROW ABOVE; 0 ON WITH EXCLAMATION MARK WITH
LEFT RIGHT ARROW ABOVE; 0 SOON WITH RIGHTWARDS ARROW ABOVE; 0 TOP WITH UPWARDS ARROW ABOVE; 0 NO
ONE UNDER EIGHTEEN SYMBOL; 0 KEYCAP TEN; 0 INPUT SYMBOL FOR LATIN CAPITAL LETTERS; 4 SMALL LETTERS;
3 NUMBERS; 3 SYMBOLS; 3 LATIN LETTERS; 0 FIRE; 0 ELECTRIC TORCH; 0 WRENCH; 0 HAMMER; 0 NUT AND
BOLT; 0 HOCHO; 0 PISTOL; 0 MICROSCOPE; 0 TELESCOPE; 0 CRYSTAL BALL; 0 SIX POINTED STAR WITH MIDDLE
DOT; 0 JAPANESE SYMBOL FOR BEGINNER; 0 TRIDENT EMBLEM; 0 BLACK SQUARE BUTTON; 0 WHITE SQUARE
BUTTON; 0 LARGE RED CIRCLE; 1 BLUE CIRCLE; 1 ORANGE DIAMOND; 1 BLUE DIAMOND; 0 SMALL ORANGE
DIAMOND; 1 BLUE DIAMOND; 0 UP-POINTING RED TRIANGLE; 0 DOWN-POINTING RED TRIANGLE; 0 UP-POINTING
SMALL RED TRIANGLE; 0 DOWN-POINTING SMALL RED TRIANGLE; 0 LOWER RIGHT SHADOWED WHITE CIRCLE; 0
UPPER RIGHT SHADOWED WHITE CIRCLE; 0 CIRCLED CROSS POMMEE; 0 CROSS POMMEE WITH HALF-CIRCLE BELOW; 1
POMMEE; 0 NOTCHED LEFT SEMICIRCLE WITH THREE DOTS; 1 RIGHT SEMICIRCLE WITH THREE DOTS; 0 SYMBOL FOR
MARKS CHAPTER; 0 WHITE LATIN CROSS; 0 HEAVY LATIN CROSS; 0 CELTIC CROSS; 0 OM SYMBOL; 0 DOVE OF
PEACE; 0 KAABA; 0 MOSQUE; 0 SYNAGOGUE; 0 MENORAH WITH NINE BRANCHES; 0 BOWL OF HYGIEIA; 0 CLOCK
FACE ONE OCLOCK; 2 TWO OCLOCK; 2 THREE OCLOCK; 2 FOUR OCLOCK; 2 FIVE OCLOCK; 2 SIX OCLOCK; 2 SEVEN
OCLOCK; 2 EIGHT OCLOCK; 2 NINE OCLOCK; 2 TEN OCLOCK; 2 ELEVEN OCLOCK; 2 TWELVE OCLOCK; 2
ONE-THIRTY; 2 TWO-THIRTY; 2 THREE-THIRTY; 2 FOUR-THIRTY; 2 FIVE-THIRTY; 2 SIX-THIRTY; 2
SEVEN-THIRTY; 2 EIGHT-THIRTY; 2 NINE-THIRTY; 2 TEN-THIRTY; 2 ELEVEN-THIRTY; 2 TWELVE-THIRTY; 0
RIGHT SPEAKER; 2 WITH ONE SOUND WAVE; 3 THREE SOUND WAVES; 0 BULLHORN; 1 WITH SOUND WAVES; 0
RINGING BELL; 0 BOOK; 0 CANDLE; 0 MANTELPIECE CLOCK; 0 BLACK SKULL AND CROSSBONES; 0 NO PIRACY; 0
HOLE; 0 MAN IN BUSINESS SUIT LEVITATING; 0 SLEUTH OR SPY; 0 DARK SUNGLASSES; 0 SPIDER; 1 WEB; 0
JOYSTICK; 0 MAN DANCING; 0 LEFT HAND TELEPHONE RECEIVER; 0 TELEPHONE RECEIVER WITH PAGE; 0 RIGHT
HAND TELEPHONE RECEIVER; 0 WHITE TOUCHTONE TELEPHONE; 0 BLACK TOUCHTONE TELEPHONE; 0 TELEPHONE ON
TOP OF MODEM; 0 CLAMSHELL MOBILE PHONE; 0 BACK OF ENVELOPE; 0 STAMPED ENVELOPE; 0 ENVELOPE WITH
LIGHTNING; 0 FLYING ENVELOPE; 0 PEN OVER STAMPED ENVELOPE; 0 LINKED PAPERCLIPS; 0 BLACK PUSHPIN; 0
LOWER LEFT PENCIL; 2 BALLPOINT PEN; 2 FOUNTAIN PEN; 2 PAINTBRUSH; 2 CRAYON; 0 LEFT WRITING HAND; 0
TURNED OK HAND SIGN; 0 RAISED HAND WITH FINGERS SPLAYED; 0 REVERSED RAISED HAND WITH FINGERS
SPLAYED; 1 THUMBS UP SIGN; 2 DOWN SIGN; 1 VICTORY HAND; 1 HAND WITH MIDDLE FINGER EXTENDED; 0
RAISED HAND WITH PART BETWEEN MIDDLE AND RING FINGERS; 0 WHITE DOWN POINTING LEFT HAND INDEX; 0
SIDEWAYS WHITE LEFT POINTING INDEX; 2 RIGHT POINTING INDEX; 1 BLACK LEFT POINTING INDEX; 2 RIGHT
POINTING INDEX; 0 BLACK LEFT POINTING BACKHAND INDEX; 1 RIGHT POINTING BACKHAND INDEX; 0 SIDEWAYS
WHITE UP POINTING INDEX; 2 DOWN POINTING INDEX; 1 BLACK UP POINTING INDEX; 2 DOWN POINTING INDEX; 0
BLACK UP POINTING BACKHAND INDEX; 1 DOWN POINTING BACKHAND INDEX; 1 HEART; 0 DESKTOP COMPUTER; 0
KEYBOARD AND MOUSE; 0 THREE NETWORKED COMPUTERS; 0 PRINTER; 0 POCKET CALCULATOR; 0 BLACK HARD SHELL
FLOPPY DISK; 0 WHITE HARD SHELL FLOPPY DISK; 0 SOFT SHELL FLOPPY DISK; 0 TAPE CARTRIDGE; 0 WIRED
KEYBOARD; 0 ONE BUTTON MOUSE; 0 TWO BUTTON MOUSE; 0 THREE BUTTON MOUSE; 0 TRACKBALL; 0 OLD PERSONAL
COMPUTER; 0 HARD DISK; 0 SCREEN; 0 PRINTER ICON; 0 FAX ICON; 0 OPTICAL DISC ICON; 0 DOCUMENT WITH
TEXT; 3 AND PICTURE; 2 PICTURE; 0 FRAME WITH PICTURE; 2 TILES; 2 AN X; 0 BLACK FOLDER; 0 FOLDER; 0
OPEN FOLDER; 0 CARD INDEX DIVIDERS; 1 FILE BOX; 0 FILE CABINET; 0 EMPTY NOTE; 2 PAGE; 2 PAD; 0
NOTE; 1 PAGE; 1 PAD; 0 EMPTY DOCUMENT; 1 PAGE; 1 PAGES; 0 DOCUMENT; 0 PAGE; 0 PAGES; 0 WASTEBASKET;
0 SPIRAL NOTE PAD; 1 CALENDAR PAD; 0 DESKTOP WINDOW; 0 MINIMIZE; 0 MAXIMIZE; 0 OVERLAP; 0 CLOCKWISE
RIGHT AND LEFT SEMICIRCLE ARROWS; 0 CANCELLATION X; 0 INCREASE FONT SIZE SYMBOL; 0 DECREASE FONT
SIZE SYMBOL; 0 COMPRESSION; 0 OLD KEY; 0 ROLLED-UP NEWSPAPER; 0 PAGE WITH CIRCLED TEXT; 0 STOCK
CHART; 0 DAGGER KNIFE; 0 LIPS; 0 SPEAKING HEAD IN SILHOUETTE; 0 THREE RAYS ABOVE; 2 BELOW; 2 LEFT;
2 RIGHT; 0 LEFT SPEECH BUBBLE; 0 RIGHT SPEECH BUBBLE; 0 TWO SPEECH BUBBLES; 0 THREE SPEECH BUBBLES;
0 LEFT THOUGHT BUBBLE; 0 RIGHT THOUGHT BUBBLE; 0 LEFT ANGER BUBBLE; 0 RIGHT ANGER BUBBLE; 0 MOOD
BUBBLE; 0 LIGHTNING MOOD BUBBLE; 1 MOOD; 0 BALLOT BOX WITH BALLOT; 1 SCRIPT X; 1 BOX WITH SCRIPT X;
1 BOLD SCRIPT X; 1 BOX WITH BOLD SCRIPT X; 0 LIGHT CHECK MARK; 0 BALLOT BOX WITH BOLD CHECK; 0
WORLD MAP; 0 MOUNT FUJI; 0 TOKYO TOWER; 0 STATUE OF LIBERTY; 0 SILHOUETTE OF JAPAN; 0 MOYAI; 0
GRINNING FACE; 2 WITH SMILING EYES; 0 FACE WITH TEARS OF JOY; 0 SMILING FACE WITH OPEN MOUTH; 5 AND
SMILING EYES; 6 COLD SWEAT; 6 TIGHTLY-CLOSED EYES; 3 HALO; 3 HORNS; 0 WINKING FACE; 0 SMILING FACE
WITH SMILING EYES; 0 FACE SAVOURING DELICIOUS FOOD; 0 RELIEVED FACE; 0 SMILING FACE WITH
HEART-SHAPED EYES; 3 SUNGLASSES; 0 SMIRKING FACE; 0 NEUTRAL FACE; 0 EXPRESSIONLESS FACE; 0 UNAMUSED
FACE; 0 FACE WITH COLD SWEAT; 0 PENSIVE FACE; 0 CONFUSED FACE; 0 CONFOUNDED FACE; 0 KISSING FACE; 0
FACE THROWING A KISS; 0 KISSING FACE WITH SMILING EYES; 3 CLOSED EYES; 0 FACE WITH STUCK-OUT
TONGUE; 4 AND WINKING EYE; 5 TIGHTLY-CLOSED EYES; 0 DISAPPOINTED FACE; 0 WORRIED FACE; 0 ANGRY
FACE; 0 POUTING FACE; 0 CRYING FACE; 0 PERSEVERING FACE; 0 FACE WITH LOOK OF TRIUMPH; 0
DISAPPOINTED BUT RELIEVED FACE; 0 FROWNING FACE WITH OPEN MOUTH; 0 ANGUISHED FACE; 0 FEARFUL FACE;
0 WEARY FACE; 0 SLEEPY FACE; 0 TIRED FACE; 0 GRIMACING FACE; 0 LOUDLY CRYING FACE; 0 FACE WITH OPEN
MOUTH; 0 HUSHED FACE; 0 FACE WITH OPEN MOUTH AND COLD SWEAT; 1 SCREAMING IN FEAR; 0 ASTONISHED
FACE; 0 FLUSHED FACE; 0 SLEEPING FACE; 0 DIZZY FACE; 0 FACE WITHOUT MOUTH; 1 WITH MEDICAL MASK; 0
GRINNING CAT FACE WITH SMILING EYES; 0 CAT FACE WITH TEARS OF JOY; 0 SMILING CAT FACE WITH OPEN
MOUTH; 4 HEART-SHAPED EYES; 0 CAT FACE WITH WRY SMILE; 0 KISSING CAT FACE WITH CLOSED EYES; 0
POUTING CAT FACE; 0 CRYING CAT FACE; 0 WEARY CAT FACE; 0 SLIGHTLY FROWNING FACE; 1 SMILING FACE; 0
UPSIDE-DOWN FACE; 0 FACE WITH ROLLING EYES; 2 NO GOOD GESTURE; 2 OK GESTURE; 0 PERSON BOWING
DEEPLY; 0 SEE-NO-EVIL MONKEY; 0 HEAR-NO-EVIL MONKEY; 0 SPEAK-NO-EVIL MONKEY; 0 HAPPY PERSON RAISING
ONE HAND; 0 PERSON RAISING BOTH HANDS IN CELEBRATION; 1 FROWNING; 1 WITH POUTING FACE; 2 FOLDED
HANDS; @1F680 0 ROCKET; 0 HELICOPTER; 0 STEAM LOCOMOTIVE; 0 RAILWAY CAR; 0 HIGH-SPEED TRAIN; 2 WITH
BULLET NOSE; 0 TRAIN; 0 METRO; 0 LIGHT RAIL; 0 STATION; 0 TRAM; 1 CAR; 0 BUS; 0 ONCOMING BUS; 0
TROLLEYBUS; 0 BUS STOP; 0 MINIBUS; 0 AMBULANCE; 0 FIRE ENGINE; 0 POLICE CAR; 0 ONCOMING POLICE CAR;
0 TAXI; 0 ONCOMING TAXI; 0 AUTOMOBILE; 0 ONCOMING AUTOMOBILE; 0 RECREATIONAL VEHICLE; 0 DELIVERY
TRUCK; 0 ARTICULATED LORRY; 0 TRACTOR; 0 MONORAIL; 0 MOUNTAIN RAILWAY; 0 SUSPENSION RAILWAY; 0
MOUNTAIN CABLEWAY; 0 AERIAL TRAMWAY; 0 SHIP; 0 ROWBOAT; 0 SPEEDBOAT; 0 HORIZONTAL TRAFFIC LIGHT; 0
VERTICAL TRAFFIC LIGHT; 0 CONSTRUCTION SIGN; 0 POLICE CARS REVOLVING LIGHT; 0 TRIANGULAR FLAG ON
POST; 0 DOOR; 0 NO ENTRY SIGN; 0 SMOKING SYMBOL; 0 NO SMOKING SYMBOL; 0 PUT LITTER IN ITS PLACE
SYMBOL; 0 DO NOT LITTER SYMBOL; 0 POTABLE WATER SYMBOL; 0 NON-POTABLE WATER SYMBOL; 0 BICYCLE; 0 NO
BICYCLES; 0 BICYCLIST; 0 MOUNTAIN BICYCLIST; 0 PEDESTRIAN; 0 NO PEDESTRIANS; 0 CHILDREN CROSSING; 0
MENS SYMBOL; 0 WOMENS SYMBOL; 0 RESTROOM; 0 BABY SYMBOL; 0 TOILET; 0 WATER CLOSET; 0 SHOWER; 0
BATH; 0 BATHTUB; 0 PASSPORT CONTROL; 0 CUSTOMS; 0 BAGGAGE CLAIM; 0 LEFT LUGGAGE; 0 TRIANGLE WITH
ROUNDED CORNERS; 0 PROHIBITED SIGN; 0 CIRCLED INFORMATION SOURCE; 0 BOYS SYMBOL; 0 GIRLS SYMBOL; 0
COUCH AND LAMP; 0 SLEEPING ACCOMMODATION; 0 SHOPPING BAGS; 0 BELLHOP BELL; 0 BED; 0 PLACE OF
WORSHIP; 0 OCTAGONAL SIGN; 0 SHOPPING TROLLEY; 0 STUPA; 0 PAGODA; 0 HINDU TEMPLE; 0 HUT; 0
ELEVATOR; @1F6DD 0 PLAYGROUND SLIDE; 0 WHEEL; 0 RING BUOY; 0 HAMMER AND WRENCH; 0 SHIELD; 0 OIL
DRUM; 0 MOTORWAY; 0 RAILWAY TRACK; 0 MOTOR BOAT; 0 UP-POINTING MILITARY AIRPLANE; 1 AIRPLANE; 1
SMALL AIRPLANE; 0 SMALL AIRPLANE; 0 NORTHEAST-POINTING AIRPLANE; 0 AIRPLANE DEPARTURE; 1 ARRIVING;
@1F6F0 0 SATELLITE; 0 ONCOMING FIRE ENGINE; 0 DIESEL LOCOMOTIVE; 0 PASSENGER SHIP; 0 SCOOTER; 0
MOTOR SCOOTER; 0 CANOE; 0 SLED; 0 FLYING SAUCER; 0 SKATEBOARD; 0 AUTO RICKSHAW; 0 PICKUP TRUCK; 0
ROLLER SKATE; @1F900 0 CIRCLED CROSS FORMEE WITH FOUR DOTS; 4 TWO DOTS; 2 FORMEE; 0 LEFT HALF
CIRCLE WITH FOUR DOTS; 4 THREE DOTS; 4 TWO DOTS; 4 DOT; 2 CIRCLE; 0 DOWNWARD FACING HOOK; 2 NOTCHED
HOOK; 2 HOOK WITH DOT; 2 NOTCHED HOOK WITH DOT; 0 PINCHED FINGERS; 0 WHITE HEART; 0 BROWN HEART; 0
PINCHING HAND; 0 ZIPPER-MOUTH FACE; 0 MONEY-MOUTH FACE; 0 FACE WITH THERMOMETER; 0 NERD FACE; 0
THINKING FACE; 0 FACE WITH HEAD-BANDAGE; 0 ROBOT FACE; 0 HUGGING FACE; 0 SIGN OF THE HORNS; 0 CALL
ME HAND; 0 RAISED BACK OF HAND; 0 LEFT-FACING FIST; 0 RIGHT-FACING FIST; 0 HANDSHAKE; 0 HAND WITH
INDEX AND MIDDLE FINGERS CROSSED; 0 I LOVE YOU HAND SIGN; 0 FACE WITH COWBOY HAT; 0 CLOWN FACE; 0
NAUSEATED FACE; 0 ROLLING ON THE FLOOR LAUGHING; 0 DROOLING FACE; 0 LYING FACE; 0 FACE PALM; 0
SNEEZING FACE; 0 FACE WITH ONE EYEBROW RAISED; 0 GRINNING FACE WITH STAR EYES; 3 ONE LARGE AND ONE
SMALL EYE; 0 FACE WITH FINGER COVERING CLOSED LIPS; 0 SERIOUS FACE WITH SYMBOLS COVERING MOUTH; 0
SMILING FACE WITH SMILING EYES AND HAND COVERING MOUTH; 0 FACE WITH OPEN MOUTH VOMITING; 0 SHOCKED
FACE WITH EXPLODING HEAD; 0 PREGNANT WOMAN; 0 BREAST-FEEDING; 0 PALMS UP TOGETHER; 0 SELFIE; 0
PRINCE; 0 MAN IN TUXEDO; 0 MOTHER CHRISTMAS; 0 SHRUG; 0 PERSON DOING CARTWHEEL; 0 JUGGLING; 0
FENCER; 0 MODERN PENTATHLON; 0 WRESTLERS; 0 WATER POLO; 0 HANDBALL; 0 DIVING MASK; 0 WILTED FLOWER;
0 DRUM WITH DRUMSTICKS; 0 CLINKING GLASSES; 0 TUMBLER GLASS; 0 SPOON; 0 GOAL NET; 0 RIFLE; 0 FIRST
PLACE MEDAL; 0 SECOND PLACE MEDAL; 0 THIRD PLACE MEDAL; 0 BOXING GLOVE; 0 MARTIAL ARTS UNIFORM; 0
CURLING STONE; 0 LACROSSE STICK AND BALL; 0 SOFTBALL; 0 FLYING DISC; 0 CROISSANT; 0 AVOCADO; 0
CUCUMBER; 0 BACON; 0 POTATO; 0 CARROT; 0 BAGUETTE BREAD; 0 GREEN SALAD; 0 SHALLOW PAN OF FOOD; 0
STUFFED FLATBREAD; 0 EGG; 0 GLASS OF MILK; 0 PEANUTS; 0 KIWIFRUIT; 0 PANCAKES; 0 DUMPLING; 0
FORTUNE COOKIE; 0 TAKEOUT BOX; 0 CHOPSTICKS; 0 BOWL WITH SPOON; 0 CUP WITH STRAW; 0 COCONUT; 0
BROCCOLI; 0 PIE; 0 PRETZEL; 0 CUT OF MEAT; 0 SANDWICH; 0 CANNED FOOD; 0 LEAFY GREEN; 0 MANGO; 0
MOON CAKE; 0 BAGEL; 0 SMILING FACE WITH SMILING EYES AND THREE HEARTS; 0 YAWNING FACE; 0 SMILING
FACE WITH TEAR; 0 FACE WITH PARTY HORN AND PARTY HAT; 2 UNEVEN EYES AND WAVY MOUTH; 0 OVERHEATED
FACE; 0 FREEZING FACE; 0 NINJA; 0 DISGUISED FACE; 0 FACE HOLDING BACK TEARS; 1 WITH PLEADING EYES;
0 SARI; 0 LAB COAT; 0 GOGGLES; 0 HIKING BOOT; 0 FLAT SHOE; 0 CRAB; 0 LION FACE; 0 SCORPION; 0
TURKEY; 0 UNICORN FACE; 0 EAGLE; 0 DUCK; 0 BAT; 0 SHARK; 0 OWL; 0 FOX FACE; 0 BUTTERFLY; 0 DEER; 0
GORILLA; 0 LIZARD; 0 RHINOCEROS; 0 SHRIMP; 0 SQUID; 0 GIRAFFE FACE; 0 ZEBRA FACE; 0 HEDGEHOG; 0
SAUROPOD; 0 T-REX; 0 CRICKET; 0 KANGAROO; 0 LLAMA; 0 PEACOCK; 0 HIPPOPOTAMUS; 0 PARROT; 0 RACCOON;
0 LOBSTER; 0 MOSQUITO; 0 MICROBE; 0 BADGER; 0 SWAN; 0 MAMMOTH; 0 DODO; 0 SLOTH; 0 OTTER; 0
ORANGUTAN; 0 SKUNK; 0 FLAMINGO; 0 OYSTER; 0 BEAVER; 0 BISON; 0 SEAL; 0 GUIDE DOG; 0 PROBING CANE; 0
EMOJI COMPONENT RED HAIR; 2 CURLY HAIR; 2 BALD; 2 WHITE HAIR; 0 BONE; 0 LEG; 0 FOOT; 0 TOOTH; 0
SUPERHERO; 0 SUPERVILLAIN; 0 SAFETY VEST; 0 EAR WITH HEARING AID; 0 MOTORIZED WHEELCHAIR; 0 MANUAL
WHEELCHAIR; 0 MECHANICAL ARM; 1 LEG; 0 CHEESE WEDGE; 0 CUPCAKE; 0 SALT SHAKER; 0 BEVERAGE BOX; 0
GARLIC; 0 ONION; 0 FALAFEL; 0 WAFFLE; 0 BUTTER; 0 MATE DRINK; 0 ICE CUBE; 0 BUBBLE TEA; 0 TROLL; 0
STANDING PERSON; 0 KNEELING PERSON; 0 DEAF PERSON; 0 FACE WITH MONOCLE; 0 ADULT; 0 CHILD; 0 OLDER
ADULT; 0 BEARDED PERSON; 0 PERSON WITH HEADSCARF; 1 IN STEAMY ROOM; 1 CLIMBING; 1 IN LOTUS
POSITION; 0 MAGE; 0 FAIRY; 0 VAMPIRE; 0 MERPERSON; 0 ELF; 0 GENIE; 0 ZOMBIE; 0 BRAIN; 0 ORANGE
HEART; 0 BILLED CAP; 0 SCARF; 0 GLOVES; 0 COAT; 0 SOCKS; 0 RED GIFT ENVELOPE; 0 FIRECRACKER; 0
JIGSAW PUZZLE PIECE; 0 TEST TUBE; 0 PETRI DISH; 0 DNA DOUBLE HELIX; 0 COMPASS; 0 ABACUS; 0 FIRE
EXTINGUISHER; 0 TOOLBOX; 0 BRICK; 0 MAGNET; 0 LUGGAGE; 0 LOTION BOTTLE; 0 SPOOL OF THREAD; 0 BALL
OF YARN; 0 SAFETY PIN; 0 TEDDY BEAR; 0 BROOM; 0 BASKET; 0 ROLL OF PAPER; 0 BAR OF SOAP; 0 SPONGE; 0
RECEIPT; 0 NAZAR AMULET"

/-- The second names of characters, and the numbers of the characters. -/
def otherCharacterNames : List (String × Nat) := [
  ("NULL", 0), ("NUL", 0), ("START OF HEADING", 1), ("SOH", 1), ("START OF TEXT", 2), ("STX", 2),
  ("END OF TEXT", 3), ("ETX", 3), ("END OF TRANSMISSION", 4), ("EOT", 4), ("ENQUIRY", 5),
  ("ENQ", 5), ("ACKNOWLEDGE", 6), ("ACK", 6), ("ALERT", 7), ("BEL", 7), ("BACKSPACE", 8),
  ("BS", 8), ("CHARACTER TABULATION", 9), ("HORIZONTAL TABULATION", 9), ("HT", 9), ("TAB", 9),
  ("LINE FEED", 10), ("NEW LINE", 10), ("END OF LINE", 10), ("LF", 10), ("NL", 10), ("EOL", 10),
  ("LINE TABULATION", 11), ("VERTICAL TABULATION", 11), ("VT", 11), ("FORM FEED", 12), ("FF", 12),
  ("CARRIAGE RETURN", 13), ("CR", 13), ("SHIFT OUT", 14), ("SO", 14), ("LOCKING-SHIFT ONE", 14),
  ("SHIFT IN", 15), ("SI", 15), ("LOCKING-SHIFT ZERO", 15), ("DATA LINK ESCAPE", 16), ("DLE", 16),
  ("DEVICE CONTROL ONE", 17), ("DC1", 17), ("DEVICE CONTROL TWO", 18), ("DC2", 18),
  ("DEVICE CONTROL THREE", 19), ("DC3", 19), ("DEVICE CONTROL FOUR", 20), ("DC4", 20),
  ("NEGATIVE ACKNOWLEDGE", 21), ("NAK", 21), ("SYNCHRONOUS IDLE", 22), ("SYN", 22),
  ("END OF TRANSMISSION BLOCK", 23), ("ETB", 23), ("CANCEL", 24), ("CAN", 24),
  ("END OF MEDIUM", 25), ("EOM", 25), ("SUBSTITUTE", 26), ("SUB", 26), ("ESCAPE", 27),
  ("ESC", 27), ("INFORMATION SEPARATOR FOUR", 28), ("FILE SEPARATOR", 28), ("FS", 28),
  ("INFORMATION SEPARATOR THREE", 29), ("GROUP SEPARATOR", 29), ("GS", 29),
  ("INFORMATION SEPARATOR TWO", 30), ("RECORD SEPARATOR", 30), ("RS", 30),
  ("INFORMATION SEPARATOR ONE", 31), ("UNIT SEPARATOR", 31), ("US", 31), ("SP", 32),
  ("DELETE", 127), ("DEL", 127), ("PADDING CHARACTER", 128), ("PAD", 128),
  ("HIGH OCTET PRESET", 129), ("HOP", 129), ("BREAK PERMITTED HERE", 130), ("BPH", 130),
  ("NO BREAK HERE", 131), ("NBH", 131), ("INDEX", 132), ("IND", 132), ("NEXT LINE", 133),
  ("NEL", 133), ("START OF SELECTED AREA", 134), ("SSA", 134), ("END OF SELECTED AREA", 135),
  ("ESA", 135), ("SINGLE SHIFT TWO", 142), ("SS2", 142), ("SINGLE SHIFT THREE", 143),
  ("SS3", 143), ("CONTROL SEQUENCE INTRODUCER", 155), ("CSI", 155), ("STRING TERMINATOR", 156),
  ("ST", 156), ("OPERATING SYSTEM COMMAND", 157), ("OSC", 157), ("PRIVACY MESSAGE", 158),
  ("PM", 158), ("APPLICATION PROGRAM COMMAND", 159), ("APC", 159), ("NBSP", 160), ("SHY", 173),
  ("BYTE ORDER MARK", 65279), ("BOM", 65279), ("ZWNBSP", 65279), ("ZWSP", 8203), ("ZWNJ", 8204),
  ("ZWJ", 8205), ("LRM", 8206), ("RLM", 8207), ("LRE", 8234), ("RLE", 8235), ("PDF", 8236),
  ("LRO", 8237), ("RLO", 8238), ("NNBSP", 8239), ("WJ", 8288), ("CGJ", 847), ("ALM", 1564),
  ("MMSP", 8287), ("LRI", 8294), ("RLI", 8295), ("FSI", 8296), ("PDI", 8297),
  ("LATIN SMALL LETTER GHA", 419), ("LATIN CAPITAL LETTER GHA", 418),
  ("WEIERSTRASS ELLIPTIC FUNCTION", 8472)]

end TestSkeleton.Text.Table
