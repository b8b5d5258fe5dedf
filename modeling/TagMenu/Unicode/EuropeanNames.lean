namespace TagMenu.Unicode

def europeanNames : String :=
"0 |NUL|SOH|STX|ETX|EOT|ENQ|ACK
7 |BEL|BS|TAB|NL|VT|FF|CR|SO|SI|DLE|DC1|DC2|DC3|DC4|NAK|SYN|ETB|CAN|EOM|SUB|ESC|FS|GS|RS|US|SPACE
21 |EXCLAMATION MARK|QUOTATION MARK|NUMBER SIGN|DOLLAR SIGN|PERCENT SIGN|AMPERSAND|APOSTROPHE
28 |LEFT PARENTHESIS|RIGHT PARENTHESIS|ASTERISK|PLUS SIGN|COMMA|HYPHEN-MINUS|FULL STOP|SOLIDUS
30 DIGIT |ZERO|ONE|TWO|THREE|FOUR|FIVE|SIX|SEVEN|EIGHT|NINE
3A |COLON|SEMICOLON|LESS-THAN SIGN|EQUALS SIGN|GREATER-THAN SIGN|QUESTION MARK|COMMERCIAL AT
41 LATIN CAPITAL LETTER |A|B|C|D|E|F|G|H|I|J|K|L|M|N|O|P|Q|R|S|T|U|V|W|X|Y|Z
5B |LEFT SQUARE BRACKET
5C |REVERSE SOLIDUS|RIGHT SQUARE BRACKET|CIRCUMFLEX ACCENT|LOW LINE|GRAVE ACCENT
61 LATIN SMALL LETTER |A|B|C|D|E|F|G|H|I|J|K|L|M|N|O|P|Q|R|S|T|U|V|W|X|Y|Z
7B |LEFT CURLY BRACKET
7C |VERTICAL LINE|RIGHT CURLY BRACKET|TILDE|DEL|PAD|HOP|BPH|NBH|IND|NEL|SSA|ESA|HTS|HTJ|VTS
8B |PLD|PLU|RI|SS2|SS3|DCS|PU1|PU2|STS|CCH|MW|SPA|EPA|SOS|SGC|SCI|CSI|ST|OSC|PM|APC|NO-BREAK SPACE
A1 |INVERTED EXCLAMATION MARK|CENT SIGN|POUND SIGN|CURRENCY SIGN|YEN SIGN|BROKEN BAR|SECTION SIGN
A8 |DIAERESIS|COPYRIGHT SIGN|FEMININE ORDINAL INDICATOR|LEFT-POINTING DOUBLE ANGLE QUOTATION MARK
AC |NOT SIGN|SOFT HYPHEN|REGISTERED SIGN|MACRON|DEGREE SIGN|PLUS-MINUS SIGN
B2 SUPERSCRIPT |TWO|THREE
B4 |ACUTE ACCENT|MICRO SIGN|PILCROW SIGN|MIDDLE DOT
B8 |CEDILLA|SUPERSCRIPT ONE|MASCULINE ORDINAL INDICATOR|RIGHT-POINTING DOUBLE ANGLE QUOTATION MARK
BC VULGAR FRACTION |ONE QUARTER|ONE HALF|THREE QUARTERS
BF |INVERTED QUESTION MARK
C0 LATIN CAPITAL LETTER A WITH |GRAVE|ACUTE|CIRCUMFLEX|TILDE|DIAERESIS|RING ABOVE
C6 LATIN CAPITAL LETTER |AE|C WITH CEDILLA
C8 LATIN CAPITAL LETTER E WITH |GRAVE|ACUTE|CIRCUMFLEX|DIAERESIS
CC LATIN CAPITAL LETTER I WITH |GRAVE|ACUTE|CIRCUMFLEX|DIAERESIS
D0 LATIN CAPITAL LETTER |ETH|N WITH TILDE
D2 LATIN CAPITAL LETTER O WITH |GRAVE|ACUTE|CIRCUMFLEX|TILDE|DIAERESIS
D7 |MULTIPLICATION SIGN
D8 LATIN CAPITAL LETTER |O WITH STROKE|U WITH GRAVE
DA LATIN CAPITAL LETTER |U WITH ACUTE|U WITH CIRCUMFLEX|U WITH DIAERESIS|Y WITH ACUTE|THORN
DF |LATIN SMALL LETTER SHARP S
E0 LATIN SMALL LETTER A WITH |GRAVE|ACUTE|CIRCUMFLEX|TILDE|DIAERESIS|RING ABOVE
E6 LATIN SMALL LETTER |AE|C WITH CEDILLA
E8 LATIN SMALL LETTER E WITH |GRAVE|ACUTE|CIRCUMFLEX|DIAERESIS
EC LATIN SMALL LETTER I WITH |GRAVE|ACUTE|CIRCUMFLEX|DIAERESIS
F0 LATIN SMALL LETTER |ETH|N WITH TILDE
F2 LATIN SMALL LETTER O WITH |GRAVE|ACUTE|CIRCUMFLEX|TILDE|DIAERESIS
F7 |DIVISION SIGN|LATIN SMALL LETTER O WITH STROKE
F9 LATIN SMALL LETTER U WITH |GRAVE|ACUTE|CIRCUMFLEX|DIAERESIS
FD LATIN SMALL LETTER |Y WITH ACUTE|THORN|Y WITH DIAERESIS
100 LATIN |CAPITAL LETTER A WITH MACRON|SMALL LETTER A WITH MACRON|CAPITAL LETTER A WITH BREVE
103 LATIN |SMALL LETTER A WITH BREVE|CAPITAL LETTER A WITH OGONEK|SMALL LETTER A WITH OGONEK
106 LATIN |CAPITAL LETTER C WITH ACUTE|SMALL LETTER C WITH ACUTE|CAPITAL LETTER C WITH CIRCUMFLEX
109 LATIN |SMALL LETTER C WITH CIRCUMFLEX|CAPITAL LETTER C WITH DOT ABOVE
10B LATIN |SMALL LETTER C WITH DOT ABOVE|CAPITAL LETTER C WITH CARON|SMALL LETTER C WITH CARON
10E LATIN |CAPITAL LETTER D WITH CARON|SMALL LETTER D WITH CARON|CAPITAL LETTER D WITH STROKE
111 LATIN |SMALL LETTER D WITH STROKE|CAPITAL LETTER E WITH MACRON|SMALL LETTER E WITH MACRON
114 LATIN |CAPITAL LETTER E WITH BREVE|SMALL LETTER E WITH BREVE|CAPITAL LETTER E WITH DOT ABOVE
117 LATIN |SMALL LETTER E WITH DOT ABOVE|CAPITAL LETTER E WITH OGONEK
119 LATIN |SMALL LETTER E WITH OGONEK|CAPITAL LETTER E WITH CARON|SMALL LETTER E WITH CARON
11C LATIN |CAPITAL LETTER G WITH CIRCUMFLEX|SMALL LETTER G WITH CIRCUMFLEX
11E LATIN |CAPITAL LETTER G WITH BREVE|SMALL LETTER G WITH BREVE|CAPITAL LETTER G WITH DOT ABOVE
121 LATIN |SMALL LETTER G WITH DOT ABOVE|CAPITAL LETTER G WITH CEDILLA|SMALL LETTER G WITH CEDILLA
124 LATIN |CAPITAL LETTER H WITH CIRCUMFLEX|SMALL LETTER H WITH CIRCUMFLEX
126 LATIN |CAPITAL LETTER H WITH STROKE|SMALL LETTER H WITH STROKE|CAPITAL LETTER I WITH TILDE
129 LATIN |SMALL LETTER I WITH TILDE|CAPITAL LETTER I WITH MACRON|SMALL LETTER I WITH MACRON
12C LATIN |CAPITAL LETTER I WITH BREVE|SMALL LETTER I WITH BREVE|CAPITAL LETTER I WITH OGONEK
12F LATIN |SMALL LETTER I WITH OGONEK|CAPITAL LETTER I WITH DOT ABOVE|SMALL LETTER DOTLESS I
132 LATIN |CAPITAL LIGATURE IJ|SMALL LIGATURE IJ|CAPITAL LETTER J WITH CIRCUMFLEX
135 LATIN |SMALL LETTER J WITH CIRCUMFLEX|CAPITAL LETTER K WITH CEDILLA
137 LATIN SMALL LETTER |K WITH CEDILLA|KRA
139 |LATIN CAPITAL LETTER L WITH ACUTE
13A LATIN |SMALL LETTER L WITH ACUTE|CAPITAL LETTER L WITH CEDILLA|SMALL LETTER L WITH CEDILLA
13D LATIN |CAPITAL LETTER L WITH CARON|SMALL LETTER L WITH CARON|CAPITAL LETTER L WITH MIDDLE DOT
140 LATIN |SMALL LETTER L WITH MIDDLE DOT|CAPITAL LETTER L WITH STROKE
142 LATIN |SMALL LETTER L WITH STROKE|CAPITAL LETTER N WITH ACUTE|SMALL LETTER N WITH ACUTE
145 LATIN |CAPITAL LETTER N WITH CEDILLA|SMALL LETTER N WITH CEDILLA|CAPITAL LETTER N WITH CARON
148 LATIN SMALL LETTER N |WITH CARON|PRECEDED BY APOSTROPHE
14A LATIN |CAPITAL LETTER ENG|SMALL LETTER ENG
14C LATIN |CAPITAL LETTER O WITH MACRON|SMALL LETTER O WITH MACRON|CAPITAL LETTER O WITH BREVE
14F LATIN |SMALL LETTER O WITH BREVE|CAPITAL LETTER O WITH DOUBLE ACUTE
151 LATIN |SMALL LETTER O WITH DOUBLE ACUTE|CAPITAL LIGATURE OE|SMALL LIGATURE OE
154 LATIN |CAPITAL LETTER R WITH ACUTE|SMALL LETTER R WITH ACUTE|CAPITAL LETTER R WITH CEDILLA
157 LATIN |SMALL LETTER R WITH CEDILLA|CAPITAL LETTER R WITH CARON|SMALL LETTER R WITH CARON
15A LATIN |CAPITAL LETTER S WITH ACUTE|SMALL LETTER S WITH ACUTE|CAPITAL LETTER S WITH CIRCUMFLEX
15D LATIN |SMALL LETTER S WITH CIRCUMFLEX|CAPITAL LETTER S WITH CEDILLA
15F LATIN |SMALL LETTER S WITH CEDILLA|CAPITAL LETTER S WITH CARON|SMALL LETTER S WITH CARON
162 LATIN |CAPITAL LETTER T WITH CEDILLA|SMALL LETTER T WITH CEDILLA|CAPITAL LETTER T WITH CARON
165 LATIN |SMALL LETTER T WITH CARON|CAPITAL LETTER T WITH STROKE|SMALL LETTER T WITH STROKE
168 LATIN |CAPITAL LETTER U WITH TILDE|SMALL LETTER U WITH TILDE|CAPITAL LETTER U WITH MACRON
16B LATIN |SMALL LETTER U WITH MACRON|CAPITAL LETTER U WITH BREVE|SMALL LETTER U WITH BREVE
16E LATIN |CAPITAL LETTER U WITH RING ABOVE|SMALL LETTER U WITH RING ABOVE
170 LATIN |CAPITAL LETTER U WITH DOUBLE ACUTE|SMALL LETTER U WITH DOUBLE ACUTE
172 LATIN |CAPITAL LETTER U WITH OGONEK|SMALL LETTER U WITH OGONEK
174 LATIN |CAPITAL LETTER W WITH CIRCUMFLEX|SMALL LETTER W WITH CIRCUMFLEX
176 LATIN |CAPITAL LETTER Y WITH CIRCUMFLEX|SMALL LETTER Y WITH CIRCUMFLEX
178 LATIN CAPITAL LETTER |Y WITH DIAERESIS|Z WITH ACUTE
17A LATIN |SMALL LETTER Z WITH ACUTE|CAPITAL LETTER Z WITH DOT ABOVE
17C LATIN |SMALL LETTER Z WITH DOT ABOVE|CAPITAL LETTER Z WITH CARON
17E LATIN SMALL LETTER |Z WITH CARON|LONG S|B WITH STROKE
181 LATIN CAPITAL LETTER B WITH |HOOK|TOPBAR
183 LATIN |SMALL LETTER B WITH TOPBAR|CAPITAL LETTER TONE SIX|SMALL LETTER TONE SIX
186 LATIN CAPITAL LETTER |OPEN O|C WITH HOOK
188 |LATIN SMALL LETTER C WITH HOOK
189 LATIN CAPITAL LETTER |AFRICAN D|D WITH HOOK|D WITH TOPBAR
18C LATIN SMALL LETTER |D WITH TOPBAR|TURNED DELTA
18E LATIN CAPITAL LETTER |REVERSED E|SCHWA|OPEN E|F WITH HOOK
192 |LATIN SMALL LETTER F WITH HOOK
193 LATIN CAPITAL LETTER |G WITH HOOK|GAMMA
195 |LATIN SMALL LETTER HV
196 LATIN CAPITAL LETTER |IOTA|I WITH STROKE|K WITH HOOK
199 LATIN SMALL LETTER |K WITH HOOK|L WITH BAR|LAMBDA WITH STROKE
19C LATIN CAPITAL LETTER |TURNED M|N WITH LEFT HOOK
19E |LATIN SMALL LETTER N WITH LONG RIGHT LEG
19F LATIN CAPITAL LETTER O WITH |MIDDLE TILDE|HORN
1A1 LATIN |SMALL LETTER O WITH HORN|CAPITAL LETTER OI|SMALL LETTER OI
1A4 LATIN |CAPITAL LETTER P WITH HOOK|SMALL LETTER P WITH HOOK|LETTER YR|CAPITAL LETTER TONE TWO
1A8 LATIN |SMALL LETTER TONE TWO|CAPITAL LETTER ESH|LETTER REVERSED ESH LOOP
1AB LATIN |SMALL LETTER T WITH PALATAL HOOK|CAPITAL LETTER T WITH HOOK|SMALL LETTER T WITH HOOK
1AE LATIN CAPITAL LETTER |T WITH RETROFLEX HOOK|U WITH HORN
1B0 |LATIN SMALL LETTER U WITH HORN
1B1 LATIN CAPITAL LETTER |UPSILON|V WITH HOOK|Y WITH HOOK
1B4 LATIN |SMALL LETTER Y WITH HOOK|CAPITAL LETTER Z WITH STROKE|SMALL LETTER Z WITH STROKE
1B7 LATIN CAPITAL LETTER |EZH|EZH REVERSED
1B9 LATIN SMALL LETTER EZH |REVERSED|WITH TAIL
1BB LATIN |LETTER TWO WITH STROKE|CAPITAL LETTER TONE FIVE
1BD LATIN |SMALL LETTER TONE FIVE|LETTER INVERTED GLOTTAL STOP WITH STROKE
1BF LATIN LETTER |WYNN|DENTAL CLICK|LATERAL CLICK|ALVEOLAR CLICK|RETROFLEX CLICK
1C4 LATIN CAPITAL LETTER |DZ WITH CARON|D WITH SMALL LETTER Z WITH CARON
1C6 |LATIN SMALL LETTER DZ WITH CARON
1C7 LATIN CAPITAL LETTER |LJ|L WITH SMALL LETTER J
1C9 |LATIN SMALL LETTER LJ
1CA LATIN CAPITAL LETTER |NJ|N WITH SMALL LETTER J
1CC LATIN |SMALL LETTER NJ|CAPITAL LETTER A WITH CARON
1CE LATIN |SMALL LETTER A WITH CARON|CAPITAL LETTER I WITH CARON|SMALL LETTER I WITH CARON
1D1 LATIN |CAPITAL LETTER O WITH CARON|SMALL LETTER O WITH CARON|CAPITAL LETTER U WITH CARON
1D4 LATIN |SMALL LETTER U WITH CARON|CAPITAL LETTER U WITH DIAERESIS AND MACRON
1D6 LATIN |SMALL LETTER U WITH DIAERESIS AND MACRON|CAPITAL LETTER U WITH DIAERESIS AND ACUTE
1D8 LATIN |SMALL LETTER U WITH DIAERESIS AND ACUTE|CAPITAL LETTER U WITH DIAERESIS AND CARON
1DA LATIN |SMALL LETTER U WITH DIAERESIS AND CARON|CAPITAL LETTER U WITH DIAERESIS AND GRAVE
1DC LATIN SMALL LETTER |U WITH DIAERESIS AND GRAVE|TURNED E
1DE LATIN |CAPITAL LETTER A WITH DIAERESIS AND MACRON|SMALL LETTER A WITH DIAERESIS AND MACRON
1E0 LATIN |CAPITAL LETTER A WITH DOT ABOVE AND MACRON|SMALL LETTER A WITH DOT ABOVE AND MACRON
1E2 LATIN |CAPITAL LETTER AE WITH MACRON|SMALL LETTER AE WITH MACRON|CAPITAL LETTER G WITH STROKE
1E5 LATIN |SMALL LETTER G WITH STROKE|CAPITAL LETTER G WITH CARON|SMALL LETTER G WITH CARON
1E8 LATIN |CAPITAL LETTER K WITH CARON|SMALL LETTER K WITH CARON|CAPITAL LETTER O WITH OGONEK
1EB LATIN |SMALL LETTER O WITH OGONEK|CAPITAL LETTER O WITH OGONEK AND MACRON
1ED LATIN |SMALL LETTER O WITH OGONEK AND MACRON|CAPITAL LETTER EZH WITH CARON
1EF LATIN SMALL LETTER |EZH WITH CARON|J WITH CARON
1F1 LATIN CAPITAL LETTER |DZ|D WITH SMALL LETTER Z
1F3 LATIN |SMALL LETTER DZ|CAPITAL LETTER G WITH ACUTE|SMALL LETTER G WITH ACUTE
1F6 LATIN CAPITAL LETTER |HWAIR|WYNN|N WITH GRAVE
1F9 |LATIN SMALL LETTER N WITH GRAVE
1FA LATIN |CAPITAL LETTER A WITH RING ABOVE AND ACUTE|SMALL LETTER A WITH RING ABOVE AND ACUTE
1FC LATIN |CAPITAL LETTER AE WITH ACUTE|SMALL LETTER AE WITH ACUTE
1FE LATIN |CAPITAL LETTER O WITH STROKE AND ACUTE|SMALL LETTER O WITH STROKE AND ACUTE
200 LATIN |CAPITAL LETTER A WITH DOUBLE GRAVE|SMALL LETTER A WITH DOUBLE GRAVE
202 LATIN |CAPITAL LETTER A WITH INVERTED BREVE|SMALL LETTER A WITH INVERTED BREVE
204 LATIN |CAPITAL LETTER E WITH DOUBLE GRAVE|SMALL LETTER E WITH DOUBLE GRAVE
206 LATIN |CAPITAL LETTER E WITH INVERTED BREVE|SMALL LETTER E WITH INVERTED BREVE
208 LATIN |CAPITAL LETTER I WITH DOUBLE GRAVE|SMALL LETTER I WITH DOUBLE GRAVE
20A LATIN |CAPITAL LETTER I WITH INVERTED BREVE|SMALL LETTER I WITH INVERTED BREVE
20C LATIN |CAPITAL LETTER O WITH DOUBLE GRAVE|SMALL LETTER O WITH DOUBLE GRAVE
20E LATIN |CAPITAL LETTER O WITH INVERTED BREVE|SMALL LETTER O WITH INVERTED BREVE
210 LATIN |CAPITAL LETTER R WITH DOUBLE GRAVE|SMALL LETTER R WITH DOUBLE GRAVE
212 LATIN |CAPITAL LETTER R WITH INVERTED BREVE|SMALL LETTER R WITH INVERTED BREVE
214 LATIN |CAPITAL LETTER U WITH DOUBLE GRAVE|SMALL LETTER U WITH DOUBLE GRAVE
216 LATIN |CAPITAL LETTER U WITH INVERTED BREVE|SMALL LETTER U WITH INVERTED BREVE
218 LATIN |CAPITAL LETTER S WITH COMMA BELOW|SMALL LETTER S WITH COMMA BELOW
21A LATIN |CAPITAL LETTER T WITH COMMA BELOW|SMALL LETTER T WITH COMMA BELOW
21C LATIN |CAPITAL LETTER YOGH|SMALL LETTER YOGH|CAPITAL LETTER H WITH CARON
21F LATIN |SMALL LETTER H WITH CARON|CAPITAL LETTER N WITH LONG RIGHT LEG
221 LATIN |SMALL LETTER D WITH CURL|CAPITAL LETTER OU|SMALL LETTER OU
224 LATIN |CAPITAL LETTER Z WITH HOOK|SMALL LETTER Z WITH HOOK|CAPITAL LETTER A WITH DOT ABOVE
227 LATIN |SMALL LETTER A WITH DOT ABOVE|CAPITAL LETTER E WITH CEDILLA|SMALL LETTER E WITH CEDILLA
22A LATIN |CAPITAL LETTER O WITH DIAERESIS AND MACRON|SMALL LETTER O WITH DIAERESIS AND MACRON
22C LATIN |CAPITAL LETTER O WITH TILDE AND MACRON|SMALL LETTER O WITH TILDE AND MACRON
22E LATIN |CAPITAL LETTER O WITH DOT ABOVE|SMALL LETTER O WITH DOT ABOVE
230 LATIN |CAPITAL LETTER O WITH DOT ABOVE AND MACRON|SMALL LETTER O WITH DOT ABOVE AND MACRON
232 LATIN |CAPITAL LETTER Y WITH MACRON|SMALL LETTER Y WITH MACRON
234 LATIN SMALL LETTER |L WITH CURL|N WITH CURL|T WITH CURL|DOTLESS J|DB DIGRAPH|QP DIGRAPH
23A LATIN CAPITAL LETTER |A WITH STROKE|C WITH STROKE
23C |LATIN SMALL LETTER C WITH STROKE
23D LATIN CAPITAL LETTER |L WITH BAR|T WITH DIAGONAL STROKE
23F LATIN SMALL LETTER |S WITH SWASH TAIL|Z WITH SWASH TAIL
241 LATIN |CAPITAL LETTER GLOTTAL STOP|SMALL LETTER GLOTTAL STOP
243 LATIN CAPITAL LETTER |B WITH STROKE|U BAR|TURNED V|E WITH STROKE
247 LATIN |SMALL LETTER E WITH STROKE|CAPITAL LETTER J WITH STROKE|SMALL LETTER J WITH STROKE
24A LATIN |CAPITAL LETTER SMALL Q WITH HOOK TAIL|SMALL LETTER Q WITH HOOK TAIL
24C LATIN |CAPITAL LETTER R WITH STROKE|SMALL LETTER R WITH STROKE|CAPITAL LETTER Y WITH STROKE
24F LATIN SMALL LETTER |Y WITH STROKE|TURNED A|ALPHA|TURNED ALPHA|B WITH HOOK|OPEN O|C WITH CURL
256 LATIN SMALL LETTER |D WITH TAIL|D WITH HOOK|REVERSED E|SCHWA|SCHWA WITH HOOK|OPEN E
25C LATIN SMALL LETTER REVERSED OPEN |E|E WITH HOOK
25E LATIN SMALL LETTER |CLOSED REVERSED OPEN E|DOTLESS J WITH STROKE|G WITH HOOK|SCRIPT G
262 |LATIN LETTER SMALL CAPITAL G
263 LATIN SMALL LETTER |GAMMA|RAMS HORN|TURNED H|H WITH HOOK|HENG WITH HOOK|I WITH STROKE|IOTA
26A |LATIN LETTER SMALL CAPITAL I
26B LATIN SMALL LETTER |L WITH MIDDLE TILDE|L WITH BELT|L WITH RETROFLEX HOOK|LEZH|TURNED M
270 LATIN SMALL LETTER |TURNED M WITH LONG LEG|M WITH HOOK|N WITH LEFT HOOK|N WITH RETROFLEX HOOK
274 LATIN |LETTER SMALL CAPITAL N|SMALL LETTER BARRED O|LETTER SMALL CAPITAL OE
277 LATIN SMALL LETTER |CLOSED OMEGA|PHI|TURNED R|TURNED R WITH LONG LEG|TURNED R WITH HOOK
27C LATIN SMALL LETTER |R WITH LONG LEG|R WITH TAIL|R WITH FISHHOOK|REVERSED R WITH FISHHOOK
280 LATIN LETTER SMALL CAPITAL |R|INVERTED R
282 LATIN SMALL LETTER |S WITH HOOK|ESH|DOTLESS J WITH STROKE AND HOOK|SQUAT REVERSED ESH
286 LATIN SMALL LETTER |ESH WITH CURL|TURNED T|T WITH RETROFLEX HOOK|U BAR|UPSILON|V WITH HOOK
28C LATIN SMALL LETTER TURNED |V|W|Y
28F |LATIN LETTER SMALL CAPITAL Y
290 LATIN SMALL LETTER |Z WITH RETROFLEX HOOK|Z WITH CURL|EZH|EZH WITH CURL
294 LATIN LETTER |GLOTTAL STOP|PHARYNGEAL VOICED FRICATIVE|INVERTED GLOTTAL STOP|STRETCHED C
298 LATIN |LETTER BILABIAL CLICK|LETTER SMALL CAPITAL B|SMALL LETTER CLOSED OPEN E
29B LATIN LETTER SMALL CAPITAL |G WITH HOOK|H
29D LATIN SMALL LETTER |J WITH CROSSED-TAIL|TURNED K
29F LATIN |LETTER SMALL CAPITAL L|SMALL LETTER Q WITH HOOK
2A1 LATIN LETTER |GLOTTAL STOP WITH STROKE|REVERSED GLOTTAL STOP WITH STROKE
2A3 LATIN SMALL LETTER |DZ DIGRAPH|DEZH DIGRAPH|DZ DIGRAPH WITH CURL|TS DIGRAPH
2A7 LATIN SMALL LETTER |TESH DIGRAPH|TC DIGRAPH WITH CURL|FENG DIGRAPH|LS DIGRAPH|LZ DIGRAPH
2AC LATIN LETTER |BILABIAL PERCUSSIVE|BIDENTAL PERCUSSIVE
2AE LATIN SMALL LETTER TURNED H WITH |FISHHOOK|FISHHOOK AND TAIL
2B0 MODIFIER LETTER SMALL |H|H WITH HOOK|J|R|TURNED R|TURNED R WITH HOOK|CAPITAL INVERTED R|W|Y
2B9 MODIFIER LETTER |PRIME|DOUBLE PRIME|TURNED COMMA|APOSTROPHE|REVERSED COMMA
2BE MODIFIER LETTER |RIGHT HALF RING|LEFT HALF RING|GLOTTAL STOP|REVERSED GLOTTAL STOP
2C2 MODIFIER LETTER |LEFT ARROWHEAD|RIGHT ARROWHEAD|UP ARROWHEAD|DOWN ARROWHEAD|CIRCUMFLEX ACCENT
2C7 |CARON
2C8 MODIFIER LETTER |VERTICAL LINE|MACRON|ACUTE ACCENT|GRAVE ACCENT
2CC MODIFIER LETTER LOW |VERTICAL LINE|MACRON|GRAVE ACCENT|ACUTE ACCENT
2D0 MODIFIER LETTER |TRIANGULAR COLON|HALF TRIANGULAR COLON|CENTRED RIGHT HALF RING
2D3 MODIFIER LETTER |CENTRED LEFT HALF RING|UP TACK|DOWN TACK|PLUS SIGN|MINUS SIGN
2D8 |BREVE|DOT ABOVE|RING ABOVE|OGONEK|SMALL TILDE|DOUBLE ACUTE ACCENT
2DE MODIFIER LETTER |RHOTIC HOOK|CROSS ACCENT
2E0 MODIFIER LETTER SMALL |GAMMA|L|S|X|REVERSED GLOTTAL STOP
2E5 MODIFIER LETTER |EXTRA-HIGH TONE BAR|HIGH TONE BAR
2E7 MODIFIER LETTER |MID TONE BAR|LOW TONE BAR|EXTRA-LOW TONE BAR|YIN DEPARTING TONE MARK
2EB MODIFIER LETTER |YANG DEPARTING TONE MARK|VOICING|UNASPIRATED|DOUBLE APOSTROPHE
2EF MODIFIER LETTER LOW |DOWN ARROWHEAD|UP ARROWHEAD|LEFT ARROWHEAD|RIGHT ARROWHEAD|RING
2F4 MODIFIER LETTER MIDDLE |GRAVE ACCENT|DOUBLE GRAVE ACCENT|DOUBLE ACUTE ACCENT
2F7 MODIFIER LETTER |LOW TILDE|RAISED COLON|BEGIN HIGH TONE
2FA MODIFIER LETTER |END HIGH TONE|BEGIN LOW TONE|END LOW TONE|SHELF|OPEN SHELF|LOW LEFT ARROW
300 COMBINING |GRAVE ACCENT|ACUTE ACCENT|CIRCUMFLEX ACCENT|TILDE|MACRON|OVERLINE|BREVE|DOT ABOVE
308 COMBINING |DIAERESIS|HOOK ABOVE|RING ABOVE|DOUBLE ACUTE ACCENT|CARON|VERTICAL LINE ABOVE
30E COMBINING DOUBLE |VERTICAL LINE ABOVE|GRAVE ACCENT
310 COMBINING |CANDRABINDU|INVERTED BREVE|TURNED COMMA ABOVE|COMMA ABOVE|REVERSED COMMA ABOVE
315 COMBINING |COMMA ABOVE RIGHT|GRAVE ACCENT BELOW|ACUTE ACCENT BELOW|LEFT TACK BELOW
319 COMBINING |RIGHT TACK BELOW|LEFT ANGLE ABOVE|HORN|LEFT HALF RING BELOW|UP TACK BELOW
31E COMBINING |DOWN TACK BELOW|PLUS SIGN BELOW|MINUS SIGN BELOW|PALATALIZED HOOK BELOW
322 COMBINING |RETROFLEX HOOK BELOW|DOT BELOW|DIAERESIS BELOW|RING BELOW|COMMA BELOW
327 COMBINING |CEDILLA|OGONEK|VERTICAL LINE BELOW|BRIDGE BELOW|INVERTED DOUBLE ARCH BELOW
32C COMBINING |CARON BELOW|CIRCUMFLEX ACCENT BELOW|BREVE BELOW|INVERTED BREVE BELOW
330 COMBINING |TILDE BELOW|MACRON BELOW|LOW LINE|DOUBLE LOW LINE|TILDE OVERLAY
335 COMBINING |SHORT STROKE OVERLAY|LONG STROKE OVERLAY|SHORT SOLIDUS OVERLAY|LONG SOLIDUS OVERLAY
339 COMBINING |RIGHT HALF RING BELOW|INVERTED BRIDGE BELOW|SQUARE BELOW|SEAGULL BELOW
33D COMBINING |X ABOVE|VERTICAL TILDE|DOUBLE OVERLINE|GRAVE TONE MARK|ACUTE TONE MARK
342 COMBINING GREEK |PERISPOMENI|KORONIS|DIALYTIKA TONOS|YPOGEGRAMMENI
346 COMBINING |BRIDGE ABOVE|EQUALS SIGN BELOW
348 COMBINING |DOUBLE VERTICAL LINE BELOW|LEFT ANGLE BELOW|NOT TILDE ABOVE|HOMOTHETIC ABOVE
34C COMBINING |ALMOST EQUAL TO ABOVE|LEFT RIGHT ARROW BELOW|UPWARDS ARROW BELOW|GRAPHEME JOINER
350 COMBINING |RIGHT ARROWHEAD ABOVE|LEFT HALF RING ABOVE|FERMATA|X BELOW|LEFT ARROWHEAD BELOW
355 COMBINING RIGHT |ARROWHEAD BELOW|ARROWHEAD AND UP ARROWHEAD BELOW|HALF RING ABOVE
358 COMBINING |DOT ABOVE RIGHT|ASTERISK BELOW|DOUBLE RING BELOW|ZIGZAG ABOVE|DOUBLE BREVE BELOW
35D COMBINING DOUBLE |BREVE|MACRON|MACRON BELOW|TILDE|INVERTED BREVE|RIGHTWARDS ARROW BELOW
363 COMBINING LATIN SMALL LETTER |A|E|I|O|U|C|D|H|M|R|T|V|X
370 |GREEK CAPITAL LETTER HETA
371 GREEK |SMALL LETTER HETA|CAPITAL LETTER ARCHAIC SAMPI|SMALL LETTER ARCHAIC SAMPI|NUMERAL SIGN
375 GREEK |LOWER NUMERAL SIGN|CAPITAL LETTER PAMPHYLIAN DIGAMMA|SMALL LETTER PAMPHYLIAN DIGAMMA
37A GREEK |YPOGEGRAMMENI|SMALL REVERSED LUNATE SIGMA SYMBOL|SMALL DOTTED LUNATE SIGMA SYMBOL
37D GREEK |SMALL REVERSED DOTTED LUNATE SIGMA SYMBOL|QUESTION MARK|CAPITAL LETTER YOT
384 GREEK |TONOS|DIALYTIKA TONOS|CAPITAL LETTER ALPHA WITH TONOS|ANO TELEIA
388 GREEK CAPITAL LETTER |EPSILON WITH TONOS|ETA WITH TONOS|IOTA WITH TONOS
38C |GREEK CAPITAL LETTER OMICRON WITH TONOS
38E GREEK CAPITAL LETTER |UPSILON WITH TONOS|OMEGA WITH TONOS
390 |GREEK SMALL LETTER IOTA WITH DIALYTIKA AND TONOS
391 GREEK CAPITAL LETTER |ALPHA|BETA|GAMMA
394 GREEK CAPITAL LETTER |DELTA|EPSILON|ZETA|ETA|THETA|IOTA|KAPPA|LAMDA|MU|NU|XI|OMICRON|PI|RHO
3A3 |GREEK CAPITAL LETTER SIGMA
3A4 GREEK CAPITAL LETTER |TAU|UPSILON|PHI|CHI|PSI|OMEGA|IOTA WITH DIALYTIKA|UPSILON WITH DIALYTIKA
3AC GREEK SMALL LETTER |ALPHA WITH TONOS|EPSILON WITH TONOS|ETA WITH TONOS|IOTA WITH TONOS
3B0 GREEK SMALL LETTER |UPSILON WITH DIALYTIKA AND TONOS|ALPHA|BETA|GAMMA|DELTA|EPSILON
3B6 GREEK SMALL LETTER |ZETA|ETA|THETA|IOTA|KAPPA|LAMDA|MU|NU|XI|OMICRON|PI|RHO|FINAL SIGMA|SIGMA
3C4 GREEK SMALL LETTER |TAU|UPSILON|PHI|CHI|PSI|OMEGA|IOTA WITH DIALYTIKA|UPSILON WITH DIALYTIKA
3CC GREEK SMALL LETTER |OMICRON WITH TONOS|UPSILON WITH TONOS|OMEGA WITH TONOS
3CF GREEK |CAPITAL KAI SYMBOL|BETA SYMBOL|THETA SYMBOL
3D2 GREEK UPSILON WITH |HOOK SYMBOL|ACUTE AND HOOK SYMBOL|DIAERESIS AND HOOK SYMBOL
3D5 GREEK |PHI SYMBOL|PI SYMBOL|KAI SYMBOL|LETTER ARCHAIC KOPPA
3D9 GREEK |SMALL LETTER ARCHAIC KOPPA|LETTER STIGMA|SMALL LETTER STIGMA|LETTER DIGAMMA
3DD GREEK |SMALL LETTER DIGAMMA|LETTER KOPPA|SMALL LETTER KOPPA|LETTER SAMPI|SMALL LETTER SAMPI
3E2 COPTIC |CAPITAL LETTER SHEI|SMALL LETTER SHEI
3E4 COPTIC |CAPITAL LETTER FEI|SMALL LETTER FEI|CAPITAL LETTER KHEI|SMALL LETTER KHEI
3E8 COPTIC |CAPITAL LETTER HORI|SMALL LETTER HORI|CAPITAL LETTER GANGIA|SMALL LETTER GANGIA
3EC COPTIC |CAPITAL LETTER SHIMA|SMALL LETTER SHIMA|CAPITAL LETTER DEI|SMALL LETTER DEI
3F0 GREEK |KAPPA SYMBOL|RHO SYMBOL|LUNATE SIGMA SYMBOL
3F3 GREEK |LETTER YOT|CAPITAL THETA SYMBOL|LUNATE EPSILON SYMBOL|REVERSED LUNATE EPSILON SYMBOL
3F7 GREEK |CAPITAL LETTER SHO|SMALL LETTER SHO|CAPITAL LUNATE SIGMA SYMBOL|CAPITAL LETTER SAN
3FB GREEK |SMALL LETTER SAN|RHO WITH STROKE SYMBOL|CAPITAL REVERSED LUNATE SIGMA SYMBOL
3FE GREEK CAPITAL |DOTTED LUNATE SIGMA SYMBOL|REVERSED DOTTED LUNATE SIGMA SYMBOL
400 CYRILLIC CAPITAL LETTER |IE WITH GRAVE|IO|DJE|GJE|UKRAINIAN IE
405 CYRILLIC CAPITAL LETTER |DZE|BYELORUSSIAN-UKRAINIAN I|YI|JE|LJE|NJE|TSHE|KJE|I WITH GRAVE
40E CYRILLIC CAPITAL LETTER |SHORT U|DZHE|A|BE|VE|GHE|DE|IE|ZHE|ZE|I|SHORT I|KA|EL|EM|EN|O|PE
420 CYRILLIC CAPITAL LETTER |ER|ES|TE|U|EF|HA|TSE|CHE|SHA|SHCHA|HARD SIGN|YERU|SOFT SIGN|E|YU|YA
430 CYRILLIC SMALL LETTER |A|BE|VE|GHE|DE|IE|ZHE|ZE|I|SHORT I|KA|EL|EM|EN
43E CYRILLIC SMALL LETTER |O|PE|ER|ES|TE|U|EF|HA|TSE|CHE|SHA|SHCHA|HARD SIGN|YERU|SOFT SIGN|E|YU
44F CYRILLIC SMALL LETTER |YA|IE WITH GRAVE|IO|DJE|GJE|UKRAINIAN IE|DZE|BYELORUSSIAN-UKRAINIAN I
457 CYRILLIC SMALL LETTER |YI|JE|LJE|NJE|TSHE|KJE|I WITH GRAVE|SHORT U|DZHE
460 |CYRILLIC CAPITAL LETTER OMEGA
461 CYRILLIC |SMALL LETTER OMEGA|CAPITAL LETTER YAT|SMALL LETTER YAT|CAPITAL LETTER IOTIFIED E
465 CYRILLIC |SMALL LETTER IOTIFIED E|CAPITAL LETTER LITTLE YUS|SMALL LETTER LITTLE YUS
468 CYRILLIC |CAPITAL LETTER IOTIFIED LITTLE YUS|SMALL LETTER IOTIFIED LITTLE YUS
46A CYRILLIC |CAPITAL LETTER BIG YUS|SMALL LETTER BIG YUS|CAPITAL LETTER IOTIFIED BIG YUS
46D CYRILLIC |SMALL LETTER IOTIFIED BIG YUS|CAPITAL LETTER KSI|SMALL LETTER KSI|CAPITAL LETTER PSI
471 CYRILLIC |SMALL LETTER PSI|CAPITAL LETTER FITA|SMALL LETTER FITA|CAPITAL LETTER IZHITSA
475 CYRILLIC |SMALL LETTER IZHITSA|CAPITAL LETTER IZHITSA WITH DOUBLE GRAVE ACCENT
477 CYRILLIC |SMALL LETTER IZHITSA WITH DOUBLE GRAVE ACCENT|CAPITAL LETTER UK
479 CYRILLIC |SMALL LETTER UK|CAPITAL LETTER ROUND OMEGA|SMALL LETTER ROUND OMEGA
47C CYRILLIC |CAPITAL LETTER OMEGA WITH TITLO|SMALL LETTER OMEGA WITH TITLO|CAPITAL LETTER OT
47F CYRILLIC |SMALL LETTER OT|CAPITAL LETTER KOPPA|SMALL LETTER KOPPA|THOUSANDS SIGN
483 COMBINING CYRILLIC |TITLO|PALATALIZATION|DASIA PNEUMATA
486 COMBINING CYRILLIC |PSILI PNEUMATA|POKRYTIE|HUNDRED THOUSANDS SIGN|MILLIONS SIGN
48A CYRILLIC |CAPITAL LETTER SHORT I WITH TAIL|SMALL LETTER SHORT I WITH TAIL
48C CYRILLIC |CAPITAL LETTER SEMISOFT SIGN|SMALL LETTER SEMISOFT SIGN
48E CYRILLIC |CAPITAL LETTER ER WITH TICK|SMALL LETTER ER WITH TICK|CAPITAL LETTER GHE WITH UPTURN
491 CYRILLIC |SMALL LETTER GHE WITH UPTURN|CAPITAL LETTER GHE WITH STROKE
493 CYRILLIC |SMALL LETTER GHE WITH STROKE|CAPITAL LETTER GHE WITH MIDDLE HOOK
495 CYRILLIC |SMALL LETTER GHE WITH MIDDLE HOOK|CAPITAL LETTER ZHE WITH DESCENDER
497 CYRILLIC |SMALL LETTER ZHE WITH DESCENDER|CAPITAL LETTER ZE WITH DESCENDER
499 CYRILLIC |SMALL LETTER ZE WITH DESCENDER|CAPITAL LETTER KA WITH DESCENDER
49B CYRILLIC |SMALL LETTER KA WITH DESCENDER|CAPITAL LETTER KA WITH VERTICAL STROKE
49D CYRILLIC |SMALL LETTER KA WITH VERTICAL STROKE|CAPITAL LETTER KA WITH STROKE
49F CYRILLIC |SMALL LETTER KA WITH STROKE|CAPITAL LETTER BASHKIR KA|SMALL LETTER BASHKIR KA
4A2 CYRILLIC |CAPITAL LETTER EN WITH DESCENDER|SMALL LETTER EN WITH DESCENDER
4A4 CYRILLIC |CAPITAL LIGATURE EN GHE|SMALL LIGATURE EN GHE|CAPITAL LETTER PE WITH MIDDLE HOOK
4A7 CYRILLIC |SMALL LETTER PE WITH MIDDLE HOOK|CAPITAL LETTER ABKHASIAN HA
4A9 CYRILLIC |SMALL LETTER ABKHASIAN HA|CAPITAL LETTER ES WITH DESCENDER
4AB CYRILLIC |SMALL LETTER ES WITH DESCENDER|CAPITAL LETTER TE WITH DESCENDER
4AD CYRILLIC |SMALL LETTER TE WITH DESCENDER|CAPITAL LETTER STRAIGHT U
4AF CYRILLIC |SMALL LETTER STRAIGHT U|CAPITAL LETTER STRAIGHT U WITH STROKE
4B1 CYRILLIC |SMALL LETTER STRAIGHT U WITH STROKE|CAPITAL LETTER HA WITH DESCENDER
4B3 CYRILLIC |SMALL LETTER HA WITH DESCENDER|CAPITAL LIGATURE TE TSE|SMALL LIGATURE TE TSE
4B6 CYRILLIC |CAPITAL LETTER CHE WITH DESCENDER|SMALL LETTER CHE WITH DESCENDER
4B8 CYRILLIC |CAPITAL LETTER CHE WITH VERTICAL STROKE|SMALL LETTER CHE WITH VERTICAL STROKE
4BA CYRILLIC |CAPITAL LETTER SHHA|SMALL LETTER SHHA|CAPITAL LETTER ABKHASIAN CHE
4BD CYRILLIC |SMALL LETTER ABKHASIAN CHE|CAPITAL LETTER ABKHASIAN CHE WITH DESCENDER
4BF |CYRILLIC SMALL LETTER ABKHASIAN CHE WITH DESCENDER
4C0 CYRILLIC |LETTER PALOCHKA|CAPITAL LETTER ZHE WITH BREVE|SMALL LETTER ZHE WITH BREVE
4C3 CYRILLIC |CAPITAL LETTER KA WITH HOOK|SMALL LETTER KA WITH HOOK|CAPITAL LETTER EL WITH TAIL
4C6 CYRILLIC |SMALL LETTER EL WITH TAIL|CAPITAL LETTER EN WITH HOOK|SMALL LETTER EN WITH HOOK
4C9 CYRILLIC |CAPITAL LETTER EN WITH TAIL|SMALL LETTER EN WITH TAIL|CAPITAL LETTER KHAKASSIAN CHE
4CC CYRILLIC |SMALL LETTER KHAKASSIAN CHE|CAPITAL LETTER EM WITH TAIL|SMALL LETTER EM WITH TAIL
4CF CYRILLIC |SMALL LETTER PALOCHKA|CAPITAL LETTER A WITH BREVE|SMALL LETTER A WITH BREVE
4D2 CYRILLIC |CAPITAL LETTER A WITH DIAERESIS|SMALL LETTER A WITH DIAERESIS
4D4 CYRILLIC |CAPITAL LIGATURE A IE|SMALL LIGATURE A IE|CAPITAL LETTER IE WITH BREVE
4D7 CYRILLIC |SMALL LETTER IE WITH BREVE|CAPITAL LETTER SCHWA|SMALL LETTER SCHWA
4DA CYRILLIC |CAPITAL LETTER SCHWA WITH DIAERESIS|SMALL LETTER SCHWA WITH DIAERESIS
4DC CYRILLIC |CAPITAL LETTER ZHE WITH DIAERESIS|SMALL LETTER ZHE WITH DIAERESIS
4DE CYRILLIC |CAPITAL LETTER ZE WITH DIAERESIS|SMALL LETTER ZE WITH DIAERESIS
4E0 CYRILLIC |CAPITAL LETTER ABKHASIAN DZE|SMALL LETTER ABKHASIAN DZE|CAPITAL LETTER I WITH MACRON
4E3 CYRILLIC |SMALL LETTER I WITH MACRON|CAPITAL LETTER I WITH DIAERESIS
4E5 CYRILLIC |SMALL LETTER I WITH DIAERESIS|CAPITAL LETTER O WITH DIAERESIS
4E7 CYRILLIC |SMALL LETTER O WITH DIAERESIS|CAPITAL LETTER BARRED O|SMALL LETTER BARRED O
4EA CYRILLIC |CAPITAL LETTER BARRED O WITH DIAERESIS|SMALL LETTER BARRED O WITH DIAERESIS
4EC CYRILLIC |CAPITAL LETTER E WITH DIAERESIS|SMALL LETTER E WITH DIAERESIS
4EE CYRILLIC |CAPITAL LETTER U WITH MACRON|SMALL LETTER U WITH MACRON
4F0 CYRILLIC |CAPITAL LETTER U WITH DIAERESIS|SMALL LETTER U WITH DIAERESIS
4F2 CYRILLIC |CAPITAL LETTER U WITH DOUBLE ACUTE|SMALL LETTER U WITH DOUBLE ACUTE
4F4 CYRILLIC |CAPITAL LETTER CHE WITH DIAERESIS|SMALL LETTER CHE WITH DIAERESIS
4F6 CYRILLIC |CAPITAL LETTER GHE WITH DESCENDER|SMALL LETTER GHE WITH DESCENDER
4F8 CYRILLIC |CAPITAL LETTER YERU WITH DIAERESIS|SMALL LETTER YERU WITH DIAERESIS
4FA CYRILLIC |CAPITAL LETTER GHE WITH STROKE AND HOOK|SMALL LETTER GHE WITH STROKE AND HOOK
4FC CYRILLIC |CAPITAL LETTER HA WITH HOOK|SMALL LETTER HA WITH HOOK|CAPITAL LETTER HA WITH STROKE
4FF CYRILLIC |SMALL LETTER HA WITH STROKE|CAPITAL LETTER KOMI DE|SMALL LETTER KOMI DE
502 CYRILLIC |CAPITAL LETTER KOMI DJE|SMALL LETTER KOMI DJE|CAPITAL LETTER KOMI ZJE
505 CYRILLIC |SMALL LETTER KOMI ZJE|CAPITAL LETTER KOMI DZJE|SMALL LETTER KOMI DZJE
508 CYRILLIC |CAPITAL LETTER KOMI LJE|SMALL LETTER KOMI LJE|CAPITAL LETTER KOMI NJE
50B CYRILLIC |SMALL LETTER KOMI NJE|CAPITAL LETTER KOMI SJE|SMALL LETTER KOMI SJE
50E CYRILLIC |CAPITAL LETTER KOMI TJE|SMALL LETTER KOMI TJE|CAPITAL LETTER REVERSED ZE
511 CYRILLIC |SMALL LETTER REVERSED ZE|CAPITAL LETTER EL WITH HOOK|SMALL LETTER EL WITH HOOK
514 CYRILLIC |CAPITAL LETTER LHA|SMALL LETTER LHA|CAPITAL LETTER RHA|SMALL LETTER RHA
518 CYRILLIC |CAPITAL LETTER YAE|SMALL LETTER YAE|CAPITAL LETTER QA|SMALL LETTER QA
51C CYRILLIC |CAPITAL LETTER WE|SMALL LETTER WE|CAPITAL LETTER ALEUT KA|SMALL LETTER ALEUT KA
520 CYRILLIC |CAPITAL LETTER EL WITH MIDDLE HOOK|SMALL LETTER EL WITH MIDDLE HOOK
522 CYRILLIC |CAPITAL LETTER EN WITH MIDDLE HOOK|SMALL LETTER EN WITH MIDDLE HOOK
524 CYRILLIC |CAPITAL LETTER PE WITH DESCENDER|SMALL LETTER PE WITH DESCENDER
526 CYRILLIC |CAPITAL LETTER SHHA WITH DESCENDER|SMALL LETTER SHHA WITH DESCENDER
528 CYRILLIC |CAPITAL LETTER EN WITH LEFT HOOK|SMALL LETTER EN WITH LEFT HOOK
52A CYRILLIC |CAPITAL LETTER DZZHE|SMALL LETTER DZZHE|CAPITAL LETTER DCHE
52D CYRILLIC |SMALL LETTER DCHE|CAPITAL LETTER EL WITH DESCENDER|SMALL LETTER EL WITH DESCENDER
531 ARMENIAN CAPITAL LETTER |AYB|BEN
533 ARMENIAN CAPITAL LETTER |GIM|DA|ECH|ZA|EH|ET|TO|ZHE|INI|LIWN|XEH|CA|KEN|HO|JA|GHAD|CHEH|MEN|YI
546 ARMENIAN CAPITAL LETTER |NOW|SHA|VO|CHA|PEH|JHEH|RA|SEH|VEW|TIWN|REH|CO|YIWN|PIWR|KEH|OH|FEH
559 ARMENIAN |MODIFIER LETTER LEFT HALF RING|APOSTROPHE|EMPHASIS MARK|EXCLAMATION MARK
55D ARMENIAN |COMMA|QUESTION MARK|ABBREVIATION MARK|SMALL LETTER TURNED AYB|SMALL LETTER AYB
562 ARMENIAN SMALL LETTER |BEN|GIM|DA|ECH|ZA|EH|ET|TO|ZHE|INI|LIWN|XEH|CA|KEN|HO|JA|GHAD|CHEH|MEN
575 ARMENIAN SMALL LETTER |YI|NOW|SHA|VO|CHA|PEH|JHEH|RA|SEH|VEW|TIWN|REH|CO|YIWN|PIWR|KEH|OH|FEH
587 ARMENIAN |SMALL LIGATURE ECH YIWN|SMALL LETTER YI WITH STROKE|FULL STOP|HYPHEN
58D |RIGHT-FACING ARMENIAN ETERNITY SIGN|LEFT-FACING ARMENIAN ETERNITY SIGN|ARMENIAN DRAM SIGN
0 |NULL
1 |START OF HEADING
2 |START OF TEXT
3 |END OF TEXT
4 |END OF TRANSMISSION
5 |ENQUIRY
6 |ACKNOWLEDGE
7 |ALERT
8 |BACKSPACE
9 |CHARACTER TABULATION
9 |HORIZONTAL TABULATION
9 |HT
A |END OF LINE
A |EOL
A |LF
A |LINE FEED
A |NEW LINE
B |LINE TABULATION
B |VERTICAL TABULATION
C |FORM FEED
D |CARRIAGE RETURN
E |LOCKING-SHIFT ONE
E |SHIFT OUT
F |LOCKING-SHIFT ZERO
F |SHIFT IN
10 |DATA LINK ESCAPE
11 |DEVICE CONTROL ONE
12 |DEVICE CONTROL TWO
13 |DEVICE CONTROL THREE
14 |DEVICE CONTROL FOUR
15 |NEGATIVE ACKNOWLEDGE
16 |SYNCHRONOUS IDLE
17 |END OF TRANSMISSION BLOCK
18 |CANCEL
19 |EM
19 |END OF MEDIUM
1A |SUBSTITUTE
1B |ESCAPE
1C |FILE SEPARATOR
1C |INFORMATION SEPARATOR FOUR
1D |GROUP SEPARATOR
1D |INFORMATION SEPARATOR THREE
1E |INFORMATION SEPARATOR TWO
1E |RECORD SEPARATOR
1F |INFORMATION SEPARATOR ONE
1F |UNIT SEPARATOR
20 |SP
7F |DELETE
80 |PADDING CHARACTER
81 |HIGH OCTET PRESET
82 |BREAK PERMITTED HERE
83 |NO BREAK HERE
84 |INDEX
85 |NEXT LINE
86 |START OF SELECTED AREA
87 |END OF SELECTED AREA
88 |CHARACTER TABULATION SET
88 |HORIZONTAL TABULATION SET
89 |CHARACTER TABULATION WITH JUSTIFICATION
89 |HORIZONTAL TABULATION WITH JUSTIFICATION
8A |LINE TABULATION SET
8A |VERTICAL TABULATION SET
8B |PARTIAL LINE DOWN
8B |PARTIAL LINE FORWARD
8C |PARTIAL LINE BACKWARD
8C |PARTIAL LINE UP
8D |REVERSE INDEX
8D |REVERSE LINE FEED
8E |SINGLE SHIFT TWO
8E |SINGLE-SHIFT-2
8F |SINGLE SHIFT THREE
8F |SINGLE-SHIFT-3
90 |DEVICE CONTROL STRING
91 |PRIVATE USE ONE
91 |PRIVATE USE-1
92 |PRIVATE USE TWO
92 |PRIVATE USE-2
93 |SET TRANSMIT STATE
94 |CANCEL CHARACTER
95 |MESSAGE WAITING
96 |START OF GUARDED AREA
96 |START OF PROTECTED AREA
97 |END OF GUARDED AREA
97 |END OF PROTECTED AREA
98 |START OF STRING
99 |SINGLE GRAPHIC CHARACTER INTRODUCER
9A |SINGLE CHARACTER INTRODUCER
9B |CONTROL SEQUENCE INTRODUCER
9C |STRING TERMINATOR
9D |OPERATING SYSTEM COMMAND
9E |PRIVACY MESSAGE
9F |APPLICATION PROGRAM COMMAND
A0 |NBSP
AD |SHY
1A2 |LATIN CAPITAL LETTER GHA
1A3 |LATIN SMALL LETTER GHA
34F |CGJ"

end TagMenu.Unicode
