namespace TagMenu.Unicode

def eastAsianNames : String :=
"2C00 GLAGOLITIC CAPITAL LETTER |AZU|BUKY|VEDE|GLAGOLI
2C04 GLAGOLITIC CAPITAL LETTER |DOBRO|YESTU|ZHIVETE|DZELO|ZEMLJA|IZHE|INITIAL IZHE|I|DJERVI|KAKO
2C0E GLAGOLITIC CAPITAL LETTER |LJUDIJE|MYSLITE|NASHI|ONU|POKOJI|RITSI|SLOVO|TVRIDO|UKU|FRITU|HERU
2C19 GLAGOLITIC CAPITAL LETTER |OTU|PE|SHTA|TSI|CHRIVI|SHA|YERU|YERI|YATI|SPIDERY HA|YU|SMALL YUS
2C25 GLAGOLITIC CAPITAL LETTER |SMALL YUS WITH TAIL|YO|IOTATED SMALL YUS|BIG YUS|IOTATED BIG YUS
2C2A GLAGOLITIC CAPITAL LETTER |FITA|IZHITSA|SHTAPIC|TROKUTASTI A|LATINATE MYSLITE|CAUDATE CHRIVI
2C30 GLAGOLITIC SMALL LETTER |AZU|BUKY|VEDE|GLAGOLI
2C34 GLAGOLITIC SMALL LETTER |DOBRO|YESTU|ZHIVETE|DZELO|ZEMLJA|IZHE|INITIAL IZHE|I|DJERVI|KAKO
2C3E GLAGOLITIC SMALL LETTER |LJUDIJE|MYSLITE|NASHI|ONU|POKOJI|RITSI|SLOVO|TVRIDO|UKU|FRITU|HERU
2C49 GLAGOLITIC SMALL LETTER |OTU|PE|SHTA|TSI|CHRIVI|SHA|YERU|YERI|YATI|SPIDERY HA|YU|SMALL YUS
2C55 GLAGOLITIC SMALL LETTER |SMALL YUS WITH TAIL|YO|IOTATED SMALL YUS|BIG YUS|IOTATED BIG YUS
2C5A GLAGOLITIC SMALL LETTER |FITA|IZHITSA|SHTAPIC|TROKUTASTI A|LATINATE MYSLITE|CAUDATE CHRIVI
2C60 LATIN |CAPITAL LETTER L WITH DOUBLE BAR|SMALL LETTER L WITH DOUBLE BAR
2C62 LATIN CAPITAL LETTER |L WITH MIDDLE TILDE|P WITH STROKE|R WITH TAIL
2C65 LATIN SMALL LETTER |A WITH STROKE|T WITH DIAGONAL STROKE
2C67 LATIN |CAPITAL LETTER H WITH DESCENDER|SMALL LETTER H WITH DESCENDER
2C69 LATIN |CAPITAL LETTER K WITH DESCENDER|SMALL LETTER K WITH DESCENDER
2C6B LATIN |CAPITAL LETTER Z WITH DESCENDER|SMALL LETTER Z WITH DESCENDER
2C6D LATIN CAPITAL LETTER |ALPHA|M WITH HOOK|TURNED A|TURNED ALPHA
2C71 LATIN |SMALL LETTER V WITH RIGHT HOOK|CAPITAL LETTER W WITH HOOK|SMALL LETTER W WITH HOOK
2C74 LATIN |SMALL LETTER V WITH CURL|CAPITAL LETTER HALF H|SMALL LETTER HALF H
2C77 LATIN SMALL LETTER |TAILLESS PHI|E WITH NOTCH|TURNED R WITH TAIL|O WITH LOW RING INSIDE
2C7B |LATIN LETTER SMALL CAPITAL TURNED E|LATIN SUBSCRIPT SMALL LETTER J|MODIFIER LETTER CAPITAL V
2C7E LATIN CAPITAL LETTER |S WITH SWASH TAIL|Z WITH SWASH TAIL
2C80 |COPTIC CAPITAL LETTER ALFA
2C81 COPTIC |SMALL LETTER ALFA|CAPITAL LETTER VIDA|SMALL LETTER VIDA|CAPITAL LETTER GAMMA
2C85 COPTIC |SMALL LETTER GAMMA|CAPITAL LETTER DALDA|SMALL LETTER DALDA|CAPITAL LETTER EIE
2C89 COPTIC |SMALL LETTER EIE|CAPITAL LETTER SOU|SMALL LETTER SOU|CAPITAL LETTER ZATA
2C8D COPTIC |SMALL LETTER ZATA|CAPITAL LETTER HATE|SMALL LETTER HATE|CAPITAL LETTER THETHE
2C91 COPTIC |SMALL LETTER THETHE|CAPITAL LETTER IAUDA|SMALL LETTER IAUDA|CAPITAL LETTER KAPA
2C95 COPTIC |SMALL LETTER KAPA|CAPITAL LETTER LAULA|SMALL LETTER LAULA|CAPITAL LETTER MI
2C99 COPTIC |SMALL LETTER MI|CAPITAL LETTER NI|SMALL LETTER NI|CAPITAL LETTER KSI|SMALL LETTER KSI
2C9E COPTIC |CAPITAL LETTER O|SMALL LETTER O|CAPITAL LETTER PI|SMALL LETTER PI|CAPITAL LETTER RO
2CA3 COPTIC |SMALL LETTER RO|CAPITAL LETTER SIMA|SMALL LETTER SIMA|CAPITAL LETTER TAU
2CA7 COPTIC |SMALL LETTER TAU|CAPITAL LETTER UA|SMALL LETTER UA|CAPITAL LETTER FI
2CAB COPTIC |SMALL LETTER FI|CAPITAL LETTER KHI|SMALL LETTER KHI|CAPITAL LETTER PSI
2CAF COPTIC |SMALL LETTER PSI|CAPITAL LETTER OOU|SMALL LETTER OOU|CAPITAL LETTER DIALECT-P ALEF
2CB3 COPTIC |SMALL LETTER DIALECT-P ALEF|CAPITAL LETTER OLD COPTIC AIN
2CB5 COPTIC |SMALL LETTER OLD COPTIC AIN|CAPITAL LETTER CRYPTOGRAMMIC EIE
2CB7 COPTIC |SMALL LETTER CRYPTOGRAMMIC EIE|CAPITAL LETTER DIALECT-P KAPA
2CB9 COPTIC |SMALL LETTER DIALECT-P KAPA|CAPITAL LETTER DIALECT-P NI|SMALL LETTER DIALECT-P NI
2CBC COPTIC |CAPITAL LETTER CRYPTOGRAMMIC NI|SMALL LETTER CRYPTOGRAMMIC NI
2CBE COPTIC |CAPITAL LETTER OLD COPTIC OOU|SMALL LETTER OLD COPTIC OOU
2CC0 COPTIC |CAPITAL LETTER SAMPI|SMALL LETTER SAMPI|CAPITAL LETTER CROSSED SHEI
2CC3 COPTIC |SMALL LETTER CROSSED SHEI|CAPITAL LETTER OLD COPTIC SHEI|SMALL LETTER OLD COPTIC SHEI
2CC6 COPTIC |CAPITAL LETTER OLD COPTIC ESH|SMALL LETTER OLD COPTIC ESH
2CC8 COPTIC |CAPITAL LETTER AKHMIMIC KHEI|SMALL LETTER AKHMIMIC KHEI|CAPITAL LETTER DIALECT-P HORI
2CCB COPTIC |SMALL LETTER DIALECT-P HORI|CAPITAL LETTER OLD COPTIC HORI
2CCD COPTIC |SMALL LETTER OLD COPTIC HORI|CAPITAL LETTER OLD COPTIC HA|SMALL LETTER OLD COPTIC HA
2CD0 COPTIC |CAPITAL LETTER L-SHAPED HA|SMALL LETTER L-SHAPED HA|CAPITAL LETTER OLD COPTIC HEI
2CD3 COPTIC |SMALL LETTER OLD COPTIC HEI|CAPITAL LETTER OLD COPTIC HAT
2CD5 COPTIC |SMALL LETTER OLD COPTIC HAT|CAPITAL LETTER OLD COPTIC GANGIA
2CD7 COPTIC |SMALL LETTER OLD COPTIC GANGIA|CAPITAL LETTER OLD COPTIC DJA
2CD9 COPTIC |SMALL LETTER OLD COPTIC DJA|CAPITAL LETTER OLD COPTIC SHIMA
2CDB COPTIC |SMALL LETTER OLD COPTIC SHIMA|CAPITAL LETTER OLD NUBIAN SHIMA
2CDD COPTIC |SMALL LETTER OLD NUBIAN SHIMA|CAPITAL LETTER OLD NUBIAN NGI
2CDF COPTIC |SMALL LETTER OLD NUBIAN NGI|CAPITAL LETTER OLD NUBIAN NYI
2CE1 COPTIC |SMALL LETTER OLD NUBIAN NYI|CAPITAL LETTER OLD NUBIAN WAU|SMALL LETTER OLD NUBIAN WAU
2CE4 COPTIC SYMBOL |KAI|MI RO|PI RO|STAUROS|TAU RO|KHI RO|SHIMA SIMA
2CEB COPTIC |CAPITAL LETTER CRYPTOGRAMMIC SHEI|SMALL LETTER CRYPTOGRAMMIC SHEI
2CED COPTIC |CAPITAL LETTER CRYPTOGRAMMIC GANGIA|SMALL LETTER CRYPTOGRAMMIC GANGIA
2CEF COPTIC COMBINING |NI ABOVE|SPIRITUS ASPER|SPIRITUS LENIS
2CF2 COPTIC |CAPITAL LETTER BOHAIRIC KHEI|SMALL LETTER BOHAIRIC KHEI
2CF9 COPTIC OLD NUBIAN |FULL STOP|DIRECT QUESTION MARK|INDIRECT QUESTION MARK|VERSE DIVIDER
2CFD COPTIC |FRACTION ONE HALF|FULL STOP|MORPHOLOGICAL DIVIDER
2D00 GEORGIAN SMALL LETTER |AN|BAN|GAN|DON
2D04 GEORGIAN SMALL LETTER |EN|VIN|ZEN|TAN|IN|KAN|LAS|MAN|NAR|ON|PAR|ZHAR|RAE|SAN|TAR|UN|PHAR|KHAR
2D16 GEORGIAN SMALL LETTER |GHAN|QAR|SHIN|CHIN|CAN|JIL|CIL|CHAR|XAN|JHAN|HAE|HE|HIE|WE|HAR|HOE
2D27 |GEORGIAN SMALL LETTER YN
2D2D |GEORGIAN SMALL LETTER AEN
2D30 TIFINAGH LETTER |YA|YAB|YABH|YAG|YAGHH|BERBER ACADEMY YAJ|YAJ|YAD|YADH|YADD
2D3A TIFINAGH LETTER |YADDH|YEY|YAF|YAK|TUAREG YAK|YAKHH|YAH|BERBER ACADEMY YAH|TUAREG YAH|YAHH
2D44 TIFINAGH LETTER |YAA|YAKH|TUAREG YAKH|YAQ|TUAREG YAQ|YI|YAZH|AHAGGAR YAZH|TUAREG YAZH|YAL
2D4E TIFINAGH LETTER |YAM|YAN|TUAREG YAGN|TUAREG YANG|YAP|YU|YAR|YARR|YAGH|TUAREG YAGH|AYER YAGH
2D59 TIFINAGH LETTER |YAS|YASS|YASH|YAT|YATH|YACH|YATT|YAV|YAW|YAY|YAZ|TAWELLEMET YAZ|YAZZ|YE|YO
2D6F TIFINAGH |MODIFIER LETTER LABIALIZATION MARK|SEPARATOR MARK
2D7F |TIFINAGH CONSONANT JOINER
2D80 ETHIOPIC SYLLABLE |LOA|MOA|ROA|SOA|SHOA|BOA|TOA|COA|NOA
2D89 ETHIOPIC SYLLABLE |NYOA|GLOTTAL OA|ZOA|DOA|DDOA|JOA|THOA|CHOA|PHOA|POA|GGWA|GGWI|GGWEE|GGWE
2DA0 ETHIOPIC SYLLABLE |SSA|SSU|SSI|SSAA|SSEE|SSE|SSO
2DA8 ETHIOPIC SYLLABLE |CCA|CCU|CCI|CCAA|CCEE|CCE|CCO
2DB0 ETHIOPIC SYLLABLE |ZZA|ZZU|ZZI|ZZAA|ZZEE|ZZE|ZZO
2DB8 ETHIOPIC SYLLABLE |CCHA|CCHU|CCHI|CCHAA|CCHEE|CCHE|CCHO
2DC0 ETHIOPIC SYLLABLE |QYA|QYU|QYI|QYAA|QYEE|QYE|QYO
2DC8 ETHIOPIC SYLLABLE |KYA|KYU|KYI|KYAA|KYEE|KYE|KYO
2DD0 ETHIOPIC SYLLABLE |XYA|XYU|XYI|XYAA|XYEE|XYE|XYO
2DD8 ETHIOPIC SYLLABLE |GYA|GYU|GYI|GYAA|GYEE|GYE|GYO
2DE0 COMBINING CYRILLIC LETTER |BE|VE|GHE|DE|ZHE|ZE|KA
2DE7 COMBINING CYRILLIC LETTER |EL|EM|EN|O|PE|ER|ES|TE|HA|TSE|CHE|SHA|SHCHA|FITA|ES-TE|A|IE|DJERV
2DF9 COMBINING CYRILLIC LETTER |MONOGRAPH UK|YAT|YU|IOTIFIED A|LITTLE YUS|BIG YUS|IOTIFIED BIG YUS
2E00 RIGHT ANGLE |SUBSTITUTION MARKER|DOTTED SUBSTITUTION MARKER
2E02 |LEFT SUBSTITUTION BRACKET|RIGHT SUBSTITUTION BRACKET
2E04 |LEFT DOTTED SUBSTITUTION BRACKET|RIGHT DOTTED SUBSTITUTION BRACKET
2E06 RAISED |INTERPOLATION MARKER|DOTTED INTERPOLATION MARKER
2E08 |DOTTED TRANSPOSITION MARKER|LEFT TRANSPOSITION BRACKET|RIGHT TRANSPOSITION BRACKET
2E0B |RAISED SQUARE|LEFT RAISED OMISSION BRACKET|RIGHT RAISED OMISSION BRACKET
2E0E |EDITORIAL CORONIS|PARAGRAPHOS|FORKED PARAGRAPHOS|REVERSED FORKED PARAGRAPHOS
2E12 |HYPODIASTOLE|DOTTED OBELOS|DOWNWARDS ANCORA|UPWARDS ANCORA|DOTTED RIGHT-POINTING ANGLE
2E17 |DOUBLE OBLIQUE HYPHEN|INVERTED INTERROBANG|PALM BRANCH|HYPHEN WITH DIAERESIS
2E1B |TILDE WITH RING ABOVE|LEFT LOW PARAPHRASE BRACKET|RIGHT LOW PARAPHRASE BRACKET
2E1E TILDE WITH DOT |ABOVE|BELOW
2E20 |LEFT VERTICAL BAR WITH QUILL|RIGHT VERTICAL BAR WITH QUILL
2E22 TOP |LEFT HALF BRACKET|RIGHT HALF BRACKET
2E24 BOTTOM |LEFT HALF BRACKET|RIGHT HALF BRACKET
2E26 |LEFT SIDEWAYS U BRACKET|RIGHT SIDEWAYS U BRACKET|LEFT DOUBLE PARENTHESIS
2E29 |RIGHT DOUBLE PARENTHESIS|TWO DOTS OVER ONE DOT PUNCTUATION|ONE DOT OVER TWO DOTS PUNCTUATION
2E2C |SQUARED FOUR DOT PUNCTUATION|FIVE DOT MARK|REVERSED QUESTION MARK|VERTICAL TILDE
2E30 |RING POINT|WORD SEPARATOR MIDDLE DOT|TURNED COMMA|RAISED DOT|RAISED COMMA|TURNED SEMICOLON
2E36 DAGGER WITH |LEFT GUARD|RIGHT GUARD
2E38 |TURNED DAGGER|TOP HALF SECTION SIGN|TWO-EM DASH|THREE-EM DASH|STENOGRAPHIC FULL STOP
2E3D |VERTICAL SIX DOTS|WIGGLY VERTICAL LINE|CAPITULUM|DOUBLE HYPHEN|REVERSED COMMA
2E42 |DOUBLE LOW-REVERSED-9 QUOTATION MARK|DASH WITH LEFT UPTURN|DOUBLE SUSPENSION MARK
2E45 INVERTED LOW |KAVYKA|KAVYKA WITH KAVYKA ABOVE
2E47 |LOW KAVYKA|LOW KAVYKA WITH DOT|DOUBLE STACKED COMMA|DOTTED SOLIDUS
2E4B |TRIPLE DAGGER|MEDIEVAL COMMA|PARAGRAPHUS MARK|PUNCTUS ELEVATUS MARK|CORNISH VERSE DIVIDER
2E50 CROSS PATTY WITH |RIGHT CROSSBAR|LEFT CROSSBAR
2E52 |TIRONIAN SIGN CAPITAL ET
2E53 MEDIEVAL |EXCLAMATION MARK|QUESTION MARK
2E55 |LEFT SQUARE BRACKET WITH STROKE|RIGHT SQUARE BRACKET WITH STROKE
2E57 |LEFT SQUARE BRACKET WITH DOUBLE STROKE|RIGHT SQUARE BRACKET WITH DOUBLE STROKE
2E59 TOP HALF |LEFT PARENTHESIS|RIGHT PARENTHESIS
2E5B BOTTOM HALF |LEFT PARENTHESIS|RIGHT PARENTHESIS
2E5D |OBLIQUE HYPHEN
2E80 CJK RADICAL |REPEAT|CLIFF|SECOND ONE|SECOND TWO|SECOND THREE|PERSON|BOX|TABLE|KNIFE ONE
2E89 CJK RADICAL |KNIFE TWO|DIVINATION|SEAL|SMALL ONE|SMALL TWO|LAME ONE|LAME TWO|LAME THREE
2E91 CJK RADICAL |LAME FOUR|SNAKE|THREAD|SNOUT ONE|SNOUT TWO|HEART ONE|HEART TWO|HAND|RAP
2E9B CJK RADICAL |CHOKE|SUN|MOON|DEATH|MOTHER|CIVILIAN|WATER ONE|WATER TWO|FIRE|PAW ONE
2EA5 CJK RADICAL |PAW TWO|SIMPLIFIED HALF TREE TRUNK|COW|DOG|JADE|BOLT OF CLOTH|EYE|SPIRIT ONE
2EAD CJK RADICAL |SPIRIT TWO|BAMBOO|SILK|C-SIMPLIFIED SILK|NET ONE|NET TWO|NET THREE|NET FOUR
2EB5 CJK RADICAL |MESH|SHEEP|RAM|EWE|OLD|BRUSH ONE|BRUSH TWO|MEAT|MORTAR|GRASS ONE|GRASS TWO
2EC0 CJK RADICAL |GRASS THREE|TIGER|CLOTHES|WEST ONE|WEST TWO|C-SIMPLIFIED SEE|SIMPLIFIED HORN
2EC7 CJK RADICAL |HORN|C-SIMPLIFIED SPEECH|C-SIMPLIFIED SHELL|FOOT|C-SIMPLIFIED CART
2ECC CJK RADICAL |SIMPLIFIED WALK|WALK ONE|WALK TWO|CITY|C-SIMPLIFIED GOLD|LONG ONE
2ED2 CJK RADICAL |LONG TWO|C-SIMPLIFIED LONG|C-SIMPLIFIED GATE|MOUND ONE|MOUND TWO|RAIN|BLUE
2ED9 CJK RADICAL C-SIMPLIFIED |TANNED LEATHER|LEAF|WIND|FLY
2EDD CJK RADICAL |EAT ONE|EAT TWO|EAT THREE|C-SIMPLIFIED EAT|HEAD|C-SIMPLIFIED HORSE|BONE|GHOST
2EE5 CJK RADICAL C-SIMPLIFIED |FISH|BIRD|SALT
2EE8 CJK RADICAL |SIMPLIFIED WHEAT|SIMPLIFIED YELLOW|C-SIMPLIFIED FROG|J-SIMPLIFIED EVEN
2EEC CJK RADICAL |C-SIMPLIFIED EVEN|J-SIMPLIFIED TOOTH|C-SIMPLIFIED TOOTH|J-SIMPLIFIED DRAGON
2EF0 CJK RADICAL |C-SIMPLIFIED DRAGON|TURTLE|J-SIMPLIFIED TURTLE|C-SIMPLIFIED TURTLE
2F00 KANGXI RADICAL |ONE|LINE|DOT|SLASH
2F04 KANGXI RADICAL |SECOND|HOOK|TWO|LID|MAN|LEGS|ENTER|EIGHT|DOWN BOX|COVER|ICE|TABLE|OPEN BOX
2F11 KANGXI RADICAL |KNIFE|POWER|WRAP|SPOON|RIGHT OPEN BOX|HIDING ENCLOSURE|TEN|DIVINATION|SEAL
2F1A KANGXI RADICAL |CLIFF|PRIVATE|AGAIN|MOUTH|ENCLOSURE|EARTH|SCHOLAR|GO|GO SLOWLY|EVENING|BIG
2F25 KANGXI RADICAL |WOMAN|CHILD|ROOF|INCH|SMALL|LAME|CORPSE|SPROUT|MOUNTAIN|RIVER|WORK|ONESELF
2F31 KANGXI RADICAL |TURBAN|DRY|SHORT THREAD|DOTTED CLIFF|LONG STRIDE|TWO HANDS|SHOOT|BOW|SNOUT
2F3A KANGXI RADICAL |BRISTLE|STEP|HEART|HALBERD|DOOR|HAND|BRANCH|RAP|SCRIPT|DIPPER|AXE|SQUARE|NOT
2F47 KANGXI RADICAL |SUN|SAY|MOON|TREE|LACK|STOP|DEATH|WEAPON|DO NOT|COMPARE|FUR|CLAN|STEAM|WATER
2F55 KANGXI RADICAL |FIRE|CLAW|FATHER|DOUBLE X|HALF TREE TRUNK|SLICE|FANG|COW|DOG|PROFOUND|JADE
2F60 KANGXI RADICAL |MELON|TILE|SWEET|LIFE|USE|FIELD|BOLT OF CLOTH|SICKNESS|DOTTED TENT|WHITE|SKIN
2F6B KANGXI RADICAL |DISH|EYE|SPEAR|ARROW|STONE|SPIRIT|TRACK|GRAIN|CAVE|STAND|BAMBOO|RICE|SILK
2F78 KANGXI RADICAL |JAR|NET|SHEEP|FEATHER|OLD|AND|PLOW|EAR|BRUSH|MEAT|MINISTER|SELF|ARRIVE|MORTAR
2F86 KANGXI RADICAL |TONGUE|OPPOSE|BOAT|STOPPING|COLOR|GRASS|TIGER|INSECT|BLOOD|WALK ENCLOSURE
2F90 KANGXI RADICAL |CLOTHES|WEST|SEE|HORN|SPEECH|VALLEY|BEAN|PIG|BADGER|SHELL|RED|RUN|FOOT
2F9D KANGXI RADICAL |BODY|CART|BITTER|MORNING|WALK|CITY|WINE|DISTINGUISH|VILLAGE|GOLD|LONG|GATE
2FA9 KANGXI RADICAL |MOUND|SLAVE|SHORT TAILED BIRD|RAIN|BLUE|WRONG|FACE|LEATHER|TANNED LEATHER
2FB2 KANGXI RADICAL |LEEK|SOUND|LEAF|WIND|FLY|EAT|HEAD|FRAGRANT|HORSE|BONE|TALL|HAIR|FIGHT
2FBF KANGXI RADICAL |SACRIFICIAL WINE|CAULDRON|GHOST|FISH|BIRD|SALT|DEER|WHEAT|HEMP|YELLOW|MILLET
2FCA KANGXI RADICAL |BLACK|EMBROIDERY|FROG|TRIPOD|DRUM|RAT|NOSE|EVEN|TOOTH|DRAGON|TURTLE|FLUTE
2FF0 IDEOGRAPHIC DESCRIPTION CHARACTER |LEFT TO RIGHT|ABOVE TO BELOW|LEFT TO MIDDLE AND RIGHT
2FF3 IDEOGRAPHIC DESCRIPTION CHARACTER |ABOVE TO MIDDLE AND BELOW|FULL SURROUND
2FF5 IDEOGRAPHIC DESCRIPTION CHARACTER SURROUND FROM |ABOVE|BELOW|LEFT|UPPER LEFT|UPPER RIGHT
2FFA IDEOGRAPHIC DESCRIPTION CHARACTER |SURROUND FROM LOWER LEFT|OVERLAID|SURROUND FROM RIGHT
2FFD IDEOGRAPHIC DESCRIPTION CHARACTER |SURROUND FROM LOWER RIGHT|HORIZONTAL REFLECTION|ROTATION
3000 IDEOGRAPHIC |SPACE|COMMA|FULL STOP
3003 |DITTO MARK|JAPANESE INDUSTRIAL STANDARD SYMBOL
3005 IDEOGRAPHIC |ITERATION MARK|CLOSING MARK|NUMBER ZERO
3008 |LEFT ANGLE BRACKET
3009 |RIGHT ANGLE BRACKET|LEFT DOUBLE ANGLE BRACKET|RIGHT DOUBLE ANGLE BRACKET|LEFT CORNER BRACKET
300D |RIGHT CORNER BRACKET|LEFT WHITE CORNER BRACKET|RIGHT WHITE CORNER BRACKET
3010 |LEFT BLACK LENTICULAR BRACKET|RIGHT BLACK LENTICULAR BRACKET|POSTAL MARK|GETA MARK
3014 |LEFT TORTOISE SHELL BRACKET|RIGHT TORTOISE SHELL BRACKET|LEFT WHITE LENTICULAR BRACKET
3017 |RIGHT WHITE LENTICULAR BRACKET|LEFT WHITE TORTOISE SHELL BRACKET
3019 |RIGHT WHITE TORTOISE SHELL BRACKET|LEFT WHITE SQUARE BRACKET
301B |RIGHT WHITE SQUARE BRACKET|WAVE DASH|REVERSED DOUBLE PRIME QUOTATION MARK
301E |DOUBLE PRIME QUOTATION MARK|LOW DOUBLE PRIME QUOTATION MARK|POSTAL MARK FACE
3021 HANGZHOU NUMERAL |ONE|TWO|THREE|FOUR|FIVE|SIX|SEVEN|EIGHT|NINE
302A IDEOGRAPHIC |LEVEL TONE MARK|RISING TONE MARK|DEPARTING TONE MARK|ENTERING TONE MARK
302E |HANGUL SINGLE DOT TONE MARK|HANGUL DOUBLE DOT TONE MARK|WAVY DASH
3031 VERTICAL KANA REPEAT |MARK|WITH VOICED SOUND MARK
3033 VERTICAL KANA REPEAT |MARK UPPER HALF|WITH VOICED SOUND MARK UPPER HALF|MARK LOWER HALF
3036 |CIRCLED POSTAL MARK|IDEOGRAPHIC TELEGRAPH LINE FEED SEPARATOR SYMBOL
3038 HANGZHOU NUMERAL |TEN|TWENTY|THIRTY
303B |VERTICAL IDEOGRAPHIC ITERATION MARK|MASU MARK|PART ALTERNATION MARK
303E IDEOGRAPHIC |VARIATION INDICATOR|HALF FILL SPACE
3041 HIRAGANA LETTER |SMALL A|A|SMALL I|I|SMALL U|U|SMALL E|E|SMALL O|O|KA|GA|KI|GI|KU|GU|KE|GE
3053 HIRAGANA LETTER |KO|GO|SA|ZA|SI|ZI|SU|ZU|SE|ZE|SO|ZO|TA|DA|TI|DI|SMALL TU|TU|DU|TE|DE|TO|DO
306A HIRAGANA LETTER |NA|NI|NU|NE|NO|HA|BA|PA|HI|BI|PI|HU|BU|PU|HE|BE|PE|HO|BO|PO|MA|MI|MU|ME|MO
3083 HIRAGANA LETTER |SMALL YA|YA|SMALL YU|YU|SMALL YO|YO|RA|RI|RU|RE|RO|SMALL WA|WA|WI|WE|WO|N|VU
3095 HIRAGANA LETTER SMALL |KA|KE
3099 COMBINING KATAKANA-HIRAGANA |VOICED SOUND MARK|SEMI-VOICED SOUND MARK
309B KATAKANA-HIRAGANA |VOICED SOUND MARK|SEMI-VOICED SOUND MARK
309D HIRAGANA |ITERATION MARK|VOICED ITERATION MARK|DIGRAPH YORI
30A0 |KATAKANA-HIRAGANA DOUBLE HYPHEN
30A1 KATAKANA LETTER |SMALL A|A|SMALL I|I|SMALL U|U
30A7 KATAKANA LETTER |SMALL E|E|SMALL O|O|KA|GA|KI|GI|KU|GU|KE|GE|KO|GO|SA|ZA|SI|ZI|SU|ZU|SE|ZE|SO
30BE KATAKANA LETTER |ZO|TA|DA|TI|DI|SMALL TU|TU|DU|TE|DE|TO|DO|NA|NI|NU|NE|NO|HA|BA|PA|HI|BI|PI
30D5 KATAKANA LETTER |HU|BU|PU|HE|BE|PE|HO|BO|PO|MA|MI|MU|ME|MO|SMALL YA|YA|SMALL YU|YU|SMALL YO
30E8 KATAKANA LETTER |YO|RA|RI|RU|RE|RO|SMALL WA|WA|WI|WE|WO|N|VU|SMALL KA|SMALL KE|VA|VI|VE|VO
30FB |KATAKANA MIDDLE DOT|KATAKANA-HIRAGANA PROLONGED SOUND MARK
30FD KATAKANA |ITERATION MARK|VOICED ITERATION MARK|DIGRAPH KOTO
3105 BOPOMOFO LETTER |B|P|M|F|D|T|N|L|G|K|H|J|Q|X|ZH|CH|SH|R|Z|C|S
311A BOPOMOFO LETTER |A|O|E|EH|AI|EI|AU|OU|AN|EN|ANG|ENG|ER|I|U|IU|V|NG|GN|IH|O WITH DOT ABOVE|NN
3131 |HANGUL LETTER KIYEOK
3132 HANGUL LETTER |SSANGKIYEOK|KIYEOK-SIOS|NIEUN|NIEUN-CIEUC|NIEUN-HIEUH|TIKEUT|SSANGTIKEUT|RIEUL
313A HANGUL LETTER RIEUL-|KIYEOK|MIEUM|PIEUP|SIOS|THIEUTH|PHIEUPH|HIEUH
3141 HANGUL LETTER |MIEUM|PIEUP|SSANGPIEUP
3144 HANGUL LETTER |PIEUP-SIOS|SIOS|SSANGSIOS|IEUNG|CIEUC|SSANGCIEUC|CHIEUCH|KHIEUKH|THIEUTH
314D HANGUL LETTER |PHIEUPH|HIEUH|A|AE|YA|YAE|EO|E|YEO|YE|O|WA|WAE|OE|YO|U|WEO|WE|WI|YU|EU|YI|I
3164 HANGUL |FILLER|LETTER SSANGNIEUN
3166 HANGUL LETTER NIEUN-|TIKEUT|SIOS|PANSIOS
3169 HANGUL LETTER RIEUL-|KIYEOK-SIOS|TIKEUT|PIEUP-SIOS|PANSIOS|YEORINHIEUH
316E HANGUL LETTER |MIEUM-PIEUP|MIEUM-SIOS|MIEUM-PANSIOS|KAPYEOUNMIEUM
3172 HANGUL LETTER PIEUP-|KIYEOK|TIKEUT|SIOS-KIYEOK|SIOS-TIKEUT|CIEUC|THIEUTH
3178 HANGUL LETTER |KAPYEOUNPIEUP|KAPYEOUNSSANGPIEUP
317A HANGUL LETTER SIOS-|KIYEOK|NIEUN|TIKEUT|PIEUP|CIEUC
317F HANGUL LETTER |PANSIOS|SSANGIEUNG|YESIEUNG|YESIEUNG-SIOS|YESIEUNG-PANSIOS|KAPYEOUNPHIEUPH
3185 HANGUL LETTER |SSANGHIEUH|YEORINHIEUH|YO-YA|YO-YAE|YO-I|YU-YEO|YU-YE|YU-I|ARAEA|ARAEAE
3190 IDEOGRAPHIC ANNOTATION |LINKING MARK|REVERSE MARK|ONE MARK|TWO MARK
3194 IDEOGRAPHIC ANNOTATION |THREE MARK|FOUR MARK|TOP MARK|MIDDLE MARK|BOTTOM MARK|FIRST MARK
319A IDEOGRAPHIC ANNOTATION |SECOND MARK|THIRD MARK|FOURTH MARK|HEAVEN MARK|EARTH MARK|MAN MARK
31A0 BOPOMOFO LETTER |BU|ZI|JI|GU|EE|ENN|OO|ONN|IR|ANN|INN|UNN|IM|NGG|AINN|AUNN|AM|OM|ONG|INNN
31B4 BOPOMOFO FINAL LETTER |P|T|K|H
31B8 BOPOMOFO |LETTER GH|LETTER LH|LETTER ZY|FINAL LETTER G
31BC BOPOMOFO LETTER |GW|KW|OE|AH
31C0 CJK STROKE |T|WG|XG|BXG|SW|HZZ|HZG|HP|HZWG|SZWG|HZT|HZZP|HPWG
31CD CJK STROKE |HZW|HZZZ|N|H|S|P|SP|D|HZ|HG|SZ|SWZ|ST|SG|PD|PZ|TN|SZZ|SWG|HXWG|HZZZG|PG|Q|HXG|SZP
31EF |IDEOGRAPHIC DESCRIPTION CHARACTER SUBTRACTION
31F0 KATAKANA LETTER SMALL |KU|SI|SU|TO|NU|HA|HI|HU|HE|HO|MU|RA|RI|RU|RE|RO
3200 PARENTHESIZED HANGUL |KIYEOK|NIEUN|TIKEUT|RIEUL|MIEUM|PIEUP|SIOS|IEUNG|CIEUC|CHIEUCH|KHIEUKH
320B PARENTHESIZED HANGUL |THIEUTH|PHIEUPH|HIEUH|KIYEOK A|NIEUN A|TIKEUT A|RIEUL A|MIEUM A|PIEUP A
3214 PARENTHESIZED HANGUL |SIOS A|IEUNG A|CIEUC A|CHIEUCH A|KHIEUKH A|THIEUTH A|PHIEUPH A|HIEUH A
321C PARENTHESIZED |HANGUL CIEUC U|KOREAN CHARACTER OJEON|KOREAN CHARACTER O HU
3220 PARENTHESIZED IDEOGRAPH |ONE|TWO|THREE|FOUR|FIVE|SIX|SEVEN|EIGHT
3228 PARENTHESIZED IDEOGRAPH |NINE|TEN|MOON|FIRE|WATER|WOOD|METAL|EARTH|SUN|STOCK|HAVE|SOCIETY
3234 PARENTHESIZED IDEOGRAPH |NAME|SPECIAL|FINANCIAL|CONGRATULATION|LABOR|REPRESENT|CALL|STUDY
323C PARENTHESIZED IDEOGRAPH |SUPERVISE|ENTERPRISE|RESOURCE|ALLIANCE|FESTIVAL|REST|SELF|REACH
3244 CIRCLED IDEOGRAPH |QUESTION|KINDERGARTEN|SCHOOL|KOTO
3248 CIRCLED NUMBER |TEN ON BLACK SQUARE|TWENTY ON BLACK SQUARE
324A CIRCLED NUMBER |THIRTY ON BLACK SQUARE|FORTY ON BLACK SQUARE|FIFTY ON BLACK SQUARE
324D CIRCLED NUMBER |SIXTY ON BLACK SQUARE|SEVENTY ON BLACK SQUARE|EIGHTY ON BLACK SQUARE
3250 |PARTNERSHIP SIGN
3251 CIRCLED NUMBER TWENTY |ONE|TWO|THREE|FOUR|FIVE|SIX|SEVEN|EIGHT|NINE
325A |CIRCLED NUMBER THIRTY
325B CIRCLED NUMBER THIRTY |ONE|TWO|THREE|FOUR|FIVE
3260 CIRCLED HANGUL |KIYEOK|NIEUN|TIKEUT|RIEUL|MIEUM|PIEUP|SIOS|IEUNG|CIEUC|CHIEUCH|KHIEUKH
326B CIRCLED HANGUL |THIEUTH|PHIEUPH|HIEUH|KIYEOK A|NIEUN A|TIKEUT A|RIEUL A|MIEUM A|PIEUP A
3274 CIRCLED HANGUL |SIOS A|IEUNG A|CIEUC A|CHIEUCH A|KHIEUKH A|THIEUTH A|PHIEUPH A|HIEUH A
327C CIRCLED KOREAN CHARACTER |CHAMKO|JUEUI
327E |CIRCLED HANGUL IEUNG U|KOREAN STANDARD SYMBOL
3280 CIRCLED IDEOGRAPH |ONE|TWO|THREE|FOUR|FIVE|SIX|SEVEN
3287 CIRCLED IDEOGRAPH |EIGHT|NINE|TEN|MOON|FIRE|WATER|WOOD|METAL|EARTH|SUN|STOCK|HAVE|SOCIETY
3294 CIRCLED IDEOGRAPH |NAME|SPECIAL|FINANCIAL|CONGRATULATION|LABOR|SECRET|MALE|FEMALE|SUITABLE
329D CIRCLED IDEOGRAPH |EXCELLENT|PRINT|ATTENTION|ITEM|REST|COPY|CORRECT|HIGH|CENTRE|LOW|LEFT
32A8 CIRCLED IDEOGRAPH |RIGHT|MEDICINE|RELIGION|STUDY|SUPERVISE|ENTERPRISE|RESOURCE|ALLIANCE|NIGHT
32B1 CIRCLED NUMBER |THIRTY SIX|THIRTY SEVEN|THIRTY EIGHT|THIRTY NINE|FORTY
32B6 CIRCLED NUMBER FORTY |ONE|TWO|THREE|FOUR|FIVE|SIX|SEVEN|EIGHT|NINE
32BF |CIRCLED NUMBER FIFTY
32C0 IDEOGRAPHIC TELEGRAPH SYMBOL FOR |JANUARY|FEBRUARY|MARCH|APRIL
32C4 IDEOGRAPHIC TELEGRAPH SYMBOL FOR |MAY|JUNE|JULY|AUGUST|SEPTEMBER|OCTOBER|NOVEMBER|DECEMBER
32CC SQUARE |HG|ERG|EV
32CF |LIMITED LIABILITY SIGN
32D0 CIRCLED KATAKANA |A|I|U|E|O|KA|KI|KU|KE|KO|SA|SI|SU|SE|SO|TA|TI|TU|TE|TO|NA|NI
32E6 CIRCLED KATAKANA |NU|NE|NO|HA|HI|HU|HE|HO|MA|MI|MU|ME|MO|YA|YU|YO|RA|RI|RU|RE|RO|WA|WI|WE|WO
32FF SQUARE |ERA NAME REIWA|APAATO|ARUHUA
3302 SQUARE |ANPEA|AARU|ININGU|INTI|UON|ESUKUUDO|EEKAA|ONSU|OOMU|KAIRI|KARATTO|KARORII|GARON|GANMA
3310 SQUARE |GIGA|GINII|KYURII|GIRUDAA|KIRO|KIROGURAMU|KIROMEETORU|KIROWATTO|GURAMU|GURAMUTON
331A SQUARE |KURUZEIRO|KUROONE|KEESU|KORUNA|KOOPO|SAIKURU|SANTIIMU|SIRINGU|SENTI|SENTO|DAASU
3325 SQUARE |DESI|DORU|TON|NANO|NOTTO|HAITU|PAASENTO|PAATU|BAARERU|PIASUTORU|PIKURU|PIKO|BIRU
3332 SQUARE |HUARADDO|HUIITO|BUSSYERU|HURAN|HEKUTAARU|PESO|PENIHI|HERUTU|PENSU|PEEZI|BEETA|POINTO
333E SQUARE |BORUTO|HON|PONDO|HOORU|HOON|MAIKURO|MAIRU|MAHHA|MARUKU|MANSYON|MIKURON|MIRI|MIRIBAARU
334B SQUARE |MEGA|MEGATON|MEETORU|YAADO|YAARU|YUAN|RITTORU|RIRA|RUPII|RUUBURU|REMU|RENTOGEN|WATTO
3358 IDEOGRAPHIC TELEGRAPH SYMBOL FOR HOUR |ZERO|ONE|TWO|THREE|FOUR|FIVE|SIX
335F IDEOGRAPHIC TELEGRAPH SYMBOL FOR HOUR |SEVEN|EIGHT|NINE|TEN|ELEVEN|TWELVE|THIRTEEN|FOURTEEN
3367 IDEOGRAPHIC TELEGRAPH SYMBOL FOR HOUR |FIFTEEN|SIXTEEN|SEVENTEEN|EIGHTEEN|NINETEEN|TWENTY
336D IDEOGRAPHIC TELEGRAPH SYMBOL FOR HOUR TWENTY-|ONE|TWO|THREE|FOUR
3371 SQUARE |HPA|DA|AU|BAR|OV|PC|DM|DM SQUARED|DM CUBED|IU
337B SQUARE ERA NAME |HEISEI|SYOUWA|TAISYOU|MEIZI
337F SQUARE |CORPORATION|PA AMPS|NA|MU A|MA|KA|KB|MB|GB|CAL|KCAL|PF|NF|MU F
338D SQUARE |MU G|MG|KG|HZ|KHZ|MHZ|GHZ|THZ|MU L|ML|DL|KL|FM|NM|MU M|MM|CM|KM|MM SQUARED|CM SQUARED
33A1 SQUARE |M SQUARED|KM SQUARED|MM CUBED|CM CUBED|M CUBED|KM CUBED|M OVER S|M OVER S SQUARED|PA
33AA SQUARE |KPA|MPA|GPA|RAD|RAD OVER S|RAD OVER S SQUARED|PS|NS|MU S|MS|PV|NV|MU V|MV|KV|MV MEGA
33BA SQUARE |PW|NW|MU W|MW|KW|MW MEGA|K OHM|M OHM|AM|BQ|CC|CD|C OVER KG|CO|DB|GY|HA|HP|IN|KK
33CE SQUARE |KM CAPITAL|KT|LM|LN|LOG|LX|MB SMALL|MIL|MOL|PH|PM|PPM|PR|SR|SV|WB|V OVER M|A OVER M
33E0 IDEOGRAPHIC TELEGRAPH SYMBOL FOR DAY |ONE|TWO|THREE|FOUR|FIVE|SIX
33E6 IDEOGRAPHIC TELEGRAPH SYMBOL FOR DAY |SEVEN|EIGHT|NINE|TEN|ELEVEN|TWELVE|THIRTEEN|FOURTEEN
33EE IDEOGRAPHIC TELEGRAPH SYMBOL FOR DAY |FIFTEEN|SIXTEEN|SEVENTEEN|EIGHTEEN|NINETEEN|TWENTY
33F4 IDEOGRAPHIC TELEGRAPH SYMBOL FOR DAY TWENTY-|ONE|TWO|THREE|FOUR|FIVE|SIX|SEVEN|EIGHT|NINE
33FD IDEOGRAPHIC TELEGRAPH SYMBOL FOR DAY |THIRTY|THIRTY-ONE
33FF |SQUARE GAL
4DC0 HEXAGRAM FOR |THE CREATIVE HEAVEN|THE RECEPTIVE EARTH|DIFFICULTY AT THE BEGINNING
4DC3 HEXAGRAM FOR |YOUTHFUL FOLLY|WAITING|CONFLICT|THE ARMY|HOLDING TOGETHER
4DC8 HEXAGRAM FOR |SMALL TAMING|TREADING|PEACE|STANDSTILL|FELLOWSHIP|GREAT POSSESSION|MODESTY
4DCF HEXAGRAM FOR |ENTHUSIASM|FOLLOWING|WORK ON THE DECAYED|APPROACH|CONTEMPLATION|BITING THROUGH
4DD5 HEXAGRAM FOR |GRACE|SPLITTING APART|RETURN|INNOCENCE|GREAT TAMING|MOUTH CORNERS
4DDB HEXAGRAM FOR |GREAT PREPONDERANCE|THE ABYSMAL WATER|THE CLINGING FIRE|INFLUENCE|DURATION
4DE0 HEXAGRAM FOR |RETREAT|GREAT POWER|PROGRESS|DARKENING OF THE LIGHT|THE FAMILY|OPPOSITION
4DE6 HEXAGRAM FOR |OBSTRUCTION|DELIVERANCE|DECREASE|INCREASE|BREAKTHROUGH|COMING TO MEET
4DEC HEXAGRAM FOR |GATHERING TOGETHER|PUSHING UPWARD|OPPRESSION|THE WELL|REVOLUTION|THE CAULDRON
4DF2 HEXAGRAM FOR |THE AROUSING THUNDER|THE KEEPING STILL MOUNTAIN|DEVELOPMENT|THE MARRYING MAIDEN
4DF6 HEXAGRAM FOR |ABUNDANCE|THE WANDERER|THE GENTLE WIND|THE JOYOUS LAKE|DISPERSION
4DFB HEXAGRAM FOR |LIMITATION|INNER TRUTH|SMALL PREPONDERANCE|AFTER COMPLETION|BEFORE COMPLETION
A000 YI SYLLABLE |IT|IX|I|IP|IET
A005 YI SYLLABLE |IEX|IE|IEP|AT|AX|A|AP|UOX|UO|UOP|OT|OX|O|OP|EX|E|WU|BIT|BIX|BI|BIP|BIET|BIEX|BIE
A01D YI SYLLABLE |BIEP|BAT|BAX|BA|BAP|BUOX|BUO|BUOP|BOT|BOX|BO|BOP|BEX|BE|BEP|BUT|BUX|BU|BUP|BURX
A031 YI SYLLABLE |BUR|BYT|BYX|BY|BYP|BYRX|BYR|PIT|PIX|PI|PIP|PIEX|PIE|PIEP|PAT|PAX|PA|PAP|PUOX
A044 YI SYLLABLE |PUO|PUOP|POT|POX|PO|POP|PUT|PUX|PU|PUP|PURX|PUR|PYT|PYX|PY|PYP|PYRX|PYR|BBIT
A057 YI SYLLABLE |BBIX|BBI|BBIP|BBIET|BBIEX|BBIE|BBIEP|BBAT|BBAX|BBA|BBAP|BBUOX|BBUO|BBUOP|BBOT
A066 YI SYLLABLE |BBOX|BBO|BBOP|BBEX|BBE|BBEP|BBUT|BBUX|BBU|BBUP|BBURX|BBUR|BBYT|BBYX|BBY|BBYP
A076 YI SYLLABLE |NBIT|NBIX|NBI|NBIP|NBIEX|NBIE|NBIEP|NBAT|NBAX|NBA|NBAP|NBOT|NBOX|NBO|NBOP|NBUT
A086 YI SYLLABLE |NBUX|NBU|NBUP|NBURX|NBUR|NBYT|NBYX|NBY|NBYP|NBYRX|NBYR|HMIT|HMIX|HMI|HMIP|HMIEX
A096 YI SYLLABLE |HMIE|HMIEP|HMAT|HMAX|HMA|HMAP|HMUOX|HMUO|HMUOP|HMOT|HMOX|HMO|HMOP|HMUT|HMUX|HMU
A0A6 YI SYLLABLE |HMUP|HMURX|HMUR|HMYX|HMY|HMYP|HMYRX|HMYR|MIT|MIX|MI|MIP|MIEX|MIE|MIEP|MAT|MAX|MA
A0B8 YI SYLLABLE |MAP|MUOT|MUOX|MUO|MUOP|MOT|MOX|MO|MOP|MEX|ME|MUT|MUX|MU|MUP|MURX|MUR|MYT|MYX|MY
A0CC YI SYLLABLE |MYP|FIT|FIX|FI|FIP|FAT|FAX|FA|FAP|FOX|FO|FOP|FUT|FUX|FU|FUP|FURX|FUR|FYT|FYX|FY
A0E1 YI SYLLABLE |FYP|VIT|VIX|VI|VIP|VIET|VIEX|VIE|VIEP|VAT|VAX|VA|VAP|VOT|VOX|VO|VOP|VEX|VEP|VUT
A0F5 YI SYLLABLE |VUX|VU|VUP|VURX|VUR|VYT|VYX|VY|VYP|VYRX|VYR|DIT|DIX|DI|DIP|DIEX|DIE|DIEP|DAT|DAX
A109 YI SYLLABLE |DA|DAP|DUOX|DUO|DOT|DOX|DO|DOP|DEX|DE|DEP|DUT|DUX|DU|DUP|DURX|DUR|TIT|TIX|TI|TIP
A11E YI SYLLABLE |TIEX|TIE|TIEP|TAT|TAX|TA|TAP|TUOT|TUOX|TUO|TUOP|TOT|TOX|TO|TOP|TEX|TE|TEP|TUT
A131 YI SYLLABLE |TUX|TU|TUP|TURX|TUR|DDIT|DDIX|DDI|DDIP|DDIEX|DDIE|DDIEP|DDAT|DDAX|DDA|DDAP|DDUOX
A142 YI SYLLABLE |DDUO|DDUOP|DDOT|DDOX|DDO|DDOP|DDEX|DDE|DDEP|DDUT|DDUX|DDU|DDUP|DDURX|DDUR|NDIT
A152 YI SYLLABLE |NDIX|NDI|NDIP|NDIEX|NDIE|NDAT|NDAX|NDA|NDAP|NDOT|NDOX|NDO|NDOP|NDEX|NDE|NDEP
A162 YI SYLLABLE |NDUT|NDUX|NDU|NDUP|NDURX|NDUR|HNIT|HNIX|HNI|HNIP|HNIET|HNIEX|HNIE|HNIEP|HNAT
A171 YI SYLLABLE |HNAX|HNA|HNAP|HNUOX|HNUO|HNOT|HNOX|HNOP|HNEX|HNE|HNEP|HNUT|NIT|NIX|NI|NIP|NIEX
A182 YI SYLLABLE |NIE|NIEP|NAX|NA|NAP|NUOX|NUO|NUOP|NOT|NOX|NO|NOP|NEX|NE|NEP|NUT|NUX|NU|NUP|NURX
A196 YI SYLLABLE |NUR|HLIT|HLIX|HLI|HLIP|HLIEX|HLIE|HLIEP|HLAT|HLAX|HLA|HLAP|HLUOX|HLUO|HLUOP|HLOX
A1A6 YI SYLLABLE |HLO|HLOP|HLEX|HLE|HLEP|HLUT|HLUX|HLU|HLUP|HLURX|HLUR|HLYT|HLYX|HLY|HLYP|HLYRX
A1B6 YI SYLLABLE |HLYR|LIT|LIX|LI|LIP|LIET|LIEX|LIE|LIEP|LAT|LAX|LA|LAP|LUOT|LUOX|LUO|LUOP|LOT
A1C8 YI SYLLABLE |LOX|LO|LOP|LEX|LE|LEP|LUT|LUX|LU|LUP|LURX|LUR|LYT|LYX|LY|LYP|LYRX|LYR|GIT|GIX
A1DC YI SYLLABLE |GI|GIP|GIET|GIEX|GIE|GIEP|GAT|GAX|GA|GAP|GUOT|GUOX|GUO|GUOP|GOT|GOX|GO|GOP|GET
A1EF YI SYLLABLE |GEX|GE|GEP|GUT|GUX|GU|GUP|GURX|GUR|KIT|KIX|KI|KIP|KIEX|KIE|KIEP|KAT|KAX|KA|KAP
A203 YI SYLLABLE |KUOX|KUO|KUOP|KOT|KOX|KO|KOP|KET|KEX|KE|KEP|KUT|KUX|KU|KUP|KURX|KUR|GGIT|GGIX
A216 YI SYLLABLE |GGI|GGIEX|GGIE|GGIEP|GGAT|GGAX|GGA|GGAP|GGUOT|GGUOX|GGUO|GGUOP|GGOT|GGOX|GGO
A225 YI SYLLABLE |GGOP|GGET|GGEX|GGE|GGEP|GGUT|GGUX|GGU|GGUP|GGURX|GGUR|MGIEX|MGIE|MGAT|MGAX|MGA
A235 YI SYLLABLE |MGAP|MGUOX|MGUO|MGUOP|MGOT|MGOX|MGO|MGOP|MGEX|MGE|MGEP|MGUT|MGUX|MGU|MGUP|MGURX
A245 YI SYLLABLE |MGUR|HXIT|HXIX|HXI|HXIP|HXIET|HXIEX|HXIE|HXIEP|HXAT|HXAX|HXA|HXAP|HXUOT|HXUOX
A254 YI SYLLABLE |HXUO|HXUOP|HXOT|HXOX|HXO|HXOP|HXEX|HXE|HXEP|NGIEX|NGIE|NGIEP|NGAT|NGAX|NGA|NGAP
A264 YI SYLLABLE |NGUOT|NGUOX|NGUO|NGOT|NGOX|NGO|NGOP|NGEX|NGE|NGEP|HIT|HIEX|HIE|HAT|HAX|HA|HAP
A275 YI SYLLABLE |HUOT|HUOX|HUO|HUOP|HOT|HOX|HO|HOP|HEX|HE|HEP|WAT|WAX|WA|WAP|WUOX|WUO|WUOP|WOX
A288 YI SYLLABLE |WO|WOP|WEX|WE|WEP|ZIT|ZIX|ZI|ZIP|ZIEX|ZIE|ZIEP|ZAT|ZAX|ZA|ZAP|ZUOX|ZUO|ZUOP|ZOT
A29C YI SYLLABLE |ZOX|ZO|ZOP|ZEX|ZE|ZEP|ZUT|ZUX|ZU|ZUP|ZURX|ZUR|ZYT|ZYX|ZY|ZYP|ZYRX|ZYR|CIT|CIX
A2B0 YI SYLLABLE |CI|CIP|CIET|CIEX|CIE|CIEP|CAT|CAX|CA|CAP|CUOX|CUO|CUOP|COT|COX|CO|COP|CEX|CE|CEP
A2C4 YI SYLLABLE |CUT|CUX|CU|CUP|CURX|CUR|CYT|CYX|CY|CYP|CYRX|CYR|ZZIT|ZZIX|ZZI|ZZIP|ZZIET|ZZIEX
A2D6 YI SYLLABLE |ZZIE|ZZIEP|ZZAT|ZZAX|ZZA|ZZAP|ZZOX|ZZO|ZZOP|ZZEX|ZZE|ZZEP|ZZUX|ZZU|ZZUP|ZZURX
A2E6 YI SYLLABLE |ZZUR|ZZYT|ZZYX|ZZY|ZZYP|ZZYRX|ZZYR|NZIT|NZIX|NZI|NZIP|NZIEX|NZIE|NZIEP|NZAT
A2F5 YI SYLLABLE |NZAX|NZA|NZAP|NZUOX|NZUO|NZOX|NZOP|NZEX|NZE|NZUX|NZU|NZUP|NZURX|NZUR|NZYT|NZYX
A305 YI SYLLABLE |NZY|NZYP|NZYRX|NZYR|SIT|SIX|SI|SIP|SIEX|SIE|SIEP|SAT|SAX|SA|SAP|SUOX|SUO|SUOP
A317 YI SYLLABLE |SOT|SOX|SO|SOP|SEX|SE|SEP|SUT|SUX|SU|SUP|SURX|SUR|SYT|SYX|SY|SYP|SYRX|SYR|SSIT
A32B YI SYLLABLE |SSIX|SSI|SSIP|SSIEX|SSIE|SSIEP|SSAT|SSAX|SSA|SSAP|SSOT|SSOX|SSO|SSOP|SSEX|SSE
A33B YI SYLLABLE |SSEP|SSUT|SSUX|SSU|SSUP|SSYT|SSYX|SSY|SSYP|SSYRX|SSYR|ZHAT|ZHAX|ZHA|ZHAP|ZHUOX
A34B YI SYLLABLE |ZHUO|ZHUOP|ZHOT|ZHOX|ZHO|ZHOP|ZHET|ZHEX|ZHE|ZHEP|ZHUT|ZHUX|ZHU|ZHUP|ZHURX|ZHUR
A35B YI SYLLABLE |ZHYT|ZHYX|ZHY|ZHYP|ZHYRX|ZHYR|CHAT|CHAX|CHA|CHAP|CHUOT|CHUOX|CHUO|CHUOP|CHOT
A36A YI SYLLABLE |CHOX|CHO|CHOP|CHET|CHEX|CHE|CHEP|CHUX|CHU|CHUP|CHURX|CHUR|CHYT|CHYX|CHY|CHYP
A37A YI SYLLABLE |CHYRX|CHYR|RRAX|RRA|RRUOX|RRUO|RROT|RROX|RRO|RROP|RRET|RREX|RRE|RREP|RRUT|RRUX
A38A YI SYLLABLE |RRU|RRUP|RRURX|RRUR|RRYT|RRYX|RRY|RRYP|RRYRX|RRYR|NRAT|NRAX|NRA|NRAP|NROX|NRO
A39A YI SYLLABLE |NROP|NRET|NREX|NRE|NREP|NRUT|NRUX|NRU|NRUP|NRURX|NRUR|NRYT|NRYX|NRY|NRYP|NRYRX
A3AA YI SYLLABLE |NRYR|SHAT|SHAX|SHA|SHAP|SHUOX|SHUO|SHUOP|SHOT|SHOX|SHO|SHOP|SHET|SHEX|SHE|SHEP
A3BA YI SYLLABLE |SHUT|SHUX|SHU|SHUP|SHURX|SHUR|SHYT|SHYX|SHY|SHYP|SHYRX|SHYR|RAT|RAX|RA|RAP|RUOX
A3CB YI SYLLABLE |RUO|RUOP|ROT|ROX|RO|ROP|REX|RE|REP|RUT|RUX|RU|RUP|RURX|RUR|RYT|RYX|RY|RYP|RYRX
A3DF YI SYLLABLE |RYR|JIT|JIX|JI|JIP|JIET|JIEX|JIE|JIEP|JUOT|JUOX|JUO|JUOP|JOT|JOX|JO|JOP|JUT|JUX
A3F2 YI SYLLABLE |JU|JUP|JURX|JUR|JYT|JYX|JY|JYP|JYRX|JYR|QIT|QIX|QI|QIP|QIET|QIEX|QIE|QIEP|QUOT
A405 YI SYLLABLE |QUOX|QUO|QUOP|QOT|QOX|QO|QOP|QUT|QUX|QU|QUP|QURX|QUR|QYT|QYX|QY|QYP|QYRX|QYR
A418 YI SYLLABLE |JJIT|JJIX|JJI|JJIP|JJIET|JJIEX|JJIE|JJIEP|JJUOX|JJUO|JJUOP|JJOT|JJOX|JJO|JJOP
A427 YI SYLLABLE |JJUT|JJUX|JJU|JJUP|JJURX|JJUR|JJYT|JJYX|JJY|JJYP|NJIT|NJIX|NJI|NJIP|NJIET|NJIEX
A437 YI SYLLABLE |NJIE|NJIEP|NJUOX|NJUO|NJOT|NJOX|NJO|NJOP|NJUX|NJU|NJUP|NJURX|NJUR|NJYT|NJYX
A446 YI SYLLABLE |NJY|NJYP|NJYRX|NJYR|NYIT|NYIX|NYI|NYIP|NYIET|NYIEX|NYIE|NYIEP|NYUOX|NYUO|NYUOP
A455 YI SYLLABLE |NYOT|NYOX|NYO|NYOP|NYUT|NYUX|NYU|NYUP|XIT|XIX|XI|XIP|XIET|XIEX|XIE|XIEP|XUOX|XUO
A467 YI SYLLABLE |XOT|XOX|XO|XOP|XYT|XYX|XY|XYP|XYRX|XYR|YIT|YIX|YI|YIP|YIET|YIEX|YIE|YIEP|YUOT
A47A YI SYLLABLE |YUOX|YUO|YUOP|YOT|YOX|YO|YOP|YUT|YUX|YU|YUP|YURX|YUR|YYT|YYX|YY|YYP|YYRX|YYR
A490 YI RADICAL |QOT|LI|KIT|NYIP|CYP|SSI|GGOP|GEP|MI|HXIT|LYR|BBUT|MOP|YO|PUT|HXUO
A4A0 YI RADICAL |TAT|GA|ZUP|CYT|DDUR|BUR|GGUO|NYOP|TU|OP|JJUT|ZOT|PYT|HMO|YIT|VUR|SHY|VEP|ZA|JO
A4B4 YI RADICAL |NZUP|JJY|GOT|JJIE|WO|DU|SHUR|LIE|CY|CUOP|CIP|HXOP|SHAT|ZUR|SHOP|CHE|ZZIET|NBIE|KE
A4D0 LISU LETTER |BA|PA|PHA|DA|TA|THA|GA|KA|KHA|JA|CA|CHA|DZA|TSA|TSHA|MA|NA|LA|SA|ZHA|ZA
A4E5 LISU LETTER |NGA|HA|XA|HHA|FA|WA|SHA|YA|GHA|A|AE|E|EU|I|O|U|UE|UH|OE|TONE MYA TI|TONE NA PO
A4FA LISU LETTER TONE MYA |CYA|BO|NA|JEU
A4FE LISU PUNCTUATION |COMMA|FULL STOP
A500 VAI SYLLABLE |EE|EEN|HEE|WEE|WEEN|PEE|BHEE|BEE|MBEE|KPEE|MGBEE|GBEE|FEE|VEE|TEE|THEE|DHEE
A511 VAI SYLLABLE |DHHEE|LEE|REE|DEE|NDEE|SEE|SHEE|ZEE|ZHEE|CEE|JEE|NJEE|YEE|KEE|NGGEE|GEE|MEE
A522 VAI SYLLABLE |NEE|NYEE|I|IN|HI|HIN|WI|WIN|PI|BHI|BI|MBI|KPI|MGBI|GBI|FI|VI|TI|THI|DHI|DHHI|LI
A538 VAI SYLLABLE |RI|DI|NDI|SI|SHI|ZI|ZHI|CI|JI|NJI|YI|KI|NGGI|GI|MI|NI|NYI|A|AN|NGAN|HA|HAN|WA
A54F VAI SYLLABLE |WAN|PA|BHA|BA|MBA|KPA|KPAN|MGBA|GBA|FA|VA|TA|THA|DHA|DHHA|LA|RA|DA|NDA|SA|SHA
A564 VAI SYLLABLE |ZA|ZHA|CA|JA|NJA|YA|KA|KAN|NGGA|GA|MA|NA|NYA|OO|OON|HOO|WOO|WOON|POO|BHOO|BOO
A579 VAI SYLLABLE |MBOO|KPOO|MGBOO|GBOO|FOO|VOO|TOO|THOO|DHOO|DHHOO|LOO|ROO|DOO|NDOO|SOO|SHOO|ZOO
A58A VAI SYLLABLE |ZHOO|COO|JOO|NJOO|YOO|KOO|NGGOO|GOO|MOO|NOO|NYOO|U|UN|HU|HUN|WU|WUN|PU|BHU|BU
A59E VAI SYLLABLE |MBU|KPU|MGBU|GBU|FU|VU|TU|THU|DHU|DHHU|LU|RU|DU|NDU|SU|SHU|ZU|ZHU|CU|JU|NJU|YU
A5B4 VAI SYLLABLE |KU|NGGU|GU|MU|NU|NYU|O|ON|NGON|HO|HON|WO|WON|PO|BHO|BO|MBO|KPO|MGBO|GBO|GBON|FO
A5CA VAI SYLLABLE |VO|TO|THO|DHO|DHHO|LO|RO|DO|NDO|SO|SHO|ZO|ZHO|CO|JO|NJO|YO|KO|NGGO|GO|MO|NO|NYO
A5E1 VAI SYLLABLE |E|EN|NGEN|HE|HEN|WE|WEN|PE|BHE|BE|MBE|KPE|KPEN|MGBE|GBE|GBEN|FE|VE|TE|THE|DHE
A5F6 VAI SYLLABLE |DHHE|LE|RE|DE|NDE|SE|SHE|ZE|ZHE|CE|JE|NJE|YE|KE|NGGE|NGGEN|GE|GEN|ME|NE|NYE|NG
A60C VAI |SYLLABLE LENGTHENER|COMMA|FULL STOP|QUESTION MARK
A610 VAI SYLLABLE NDOLE |FA|KA|SOO
A613 VAI SYMBOL |FEENG|KEENG|TING|NII|BANG|FAA|TAA|DANG|DOONG|KUNG|TONG|DO-O|JONG
A620 VAI DIGIT |ZERO|ONE|TWO|THREE|FOUR|FIVE|SIX|SEVEN|EIGHT|NINE
A62A VAI SYLLABLE NDOLE |MA|DO
A640 CYRILLIC |CAPITAL LETTER ZEMLYA|SMALL LETTER ZEMLYA|CAPITAL LETTER DZELO
A643 CYRILLIC |SMALL LETTER DZELO|CAPITAL LETTER REVERSED DZE|SMALL LETTER REVERSED DZE
A646 CYRILLIC |CAPITAL LETTER IOTA|SMALL LETTER IOTA|CAPITAL LETTER DJERV
A649 CYRILLIC |SMALL LETTER DJERV|CAPITAL LETTER MONOGRAPH UK|SMALL LETTER MONOGRAPH UK
A64C CYRILLIC |CAPITAL LETTER BROAD OMEGA|SMALL LETTER BROAD OMEGA|CAPITAL LETTER NEUTRAL YER
A64F CYRILLIC |SMALL LETTER NEUTRAL YER|CAPITAL LETTER YERU WITH BACK YER
A651 CYRILLIC |SMALL LETTER YERU WITH BACK YER|CAPITAL LETTER IOTIFIED YAT
A653 CYRILLIC |SMALL LETTER IOTIFIED YAT|CAPITAL LETTER REVERSED YU|SMALL LETTER REVERSED YU
A656 CYRILLIC |CAPITAL LETTER IOTIFIED A|SMALL LETTER IOTIFIED A|CAPITAL LETTER CLOSED LITTLE YUS
A659 CYRILLIC |SMALL LETTER CLOSED LITTLE YUS|CAPITAL LETTER BLENDED YUS
A65B CYRILLIC |SMALL LETTER BLENDED YUS|CAPITAL LETTER IOTIFIED CLOSED LITTLE YUS
A65D CYRILLIC |SMALL LETTER IOTIFIED CLOSED LITTLE YUS|CAPITAL LETTER YN
A65F CYRILLIC |SMALL LETTER YN|CAPITAL LETTER REVERSED TSE|SMALL LETTER REVERSED TSE
A662 CYRILLIC |CAPITAL LETTER SOFT DE|SMALL LETTER SOFT DE|CAPITAL LETTER SOFT EL
A665 CYRILLIC |SMALL LETTER SOFT EL|CAPITAL LETTER SOFT EM|SMALL LETTER SOFT EM
A668 CYRILLIC |CAPITAL LETTER MONOCULAR O|SMALL LETTER MONOCULAR O|CAPITAL LETTER BINOCULAR O
A66B CYRILLIC |SMALL LETTER BINOCULAR O|CAPITAL LETTER DOUBLE MONOCULAR O
A66D CYRILLIC |SMALL LETTER DOUBLE MONOCULAR O|LETTER MULTIOCULAR O
A66F COMBINING CYRILLIC |VZMET|TEN MILLIONS SIGN|HUNDRED MILLIONS SIGN|THOUSAND MILLIONS SIGN
A673 |SLAVONIC ASTERISK
A674 COMBINING CYRILLIC LETTER |UKRAINIAN IE|I|YI|U|HARD SIGN|YERU|SOFT SIGN|OMEGA
A67C COMBINING CYRILLIC |KAVYKA|PAYEROK
A67E |CYRILLIC KAVYKA
A67F CYRILLIC |PAYEROK|CAPITAL LETTER DWE|SMALL LETTER DWE|CAPITAL LETTER DZWE|SMALL LETTER DZWE
A684 CYRILLIC |CAPITAL LETTER ZHWE|SMALL LETTER ZHWE|CAPITAL LETTER CCHE|SMALL LETTER CCHE
A688 CYRILLIC |CAPITAL LETTER DZZE|SMALL LETTER DZZE|CAPITAL LETTER TE WITH MIDDLE HOOK
A68B CYRILLIC |SMALL LETTER TE WITH MIDDLE HOOK|CAPITAL LETTER TWE
A68D CYRILLIC |SMALL LETTER TWE|CAPITAL LETTER TSWE|SMALL LETTER TSWE|CAPITAL LETTER TSSE
A691 CYRILLIC |SMALL LETTER TSSE|CAPITAL LETTER TCHE|SMALL LETTER TCHE|CAPITAL LETTER HWE
A695 CYRILLIC |SMALL LETTER HWE|CAPITAL LETTER SHWE|SMALL LETTER SHWE|CAPITAL LETTER DOUBLE O
A699 CYRILLIC |SMALL LETTER DOUBLE O|CAPITAL LETTER CROSSED O|SMALL LETTER CROSSED O
A69C MODIFIER LETTER CYRILLIC |HARD SIGN|SOFT SIGN
A69E COMBINING CYRILLIC LETTER |EF|IOTIFIED E
A6A0 BAMUM LETTER |A|KA|U|KU|EE|REE
A6A6 BAMUM LETTER |TAE|O|NYI|I|LA|PA|RII|RIEE|LEEEE|MEEEE|TAA|NDAA|NJAEM|M|SUU|MU|SHII|SI|SHEUX
A6B9 BAMUM LETTER |SEUX|KYEE|KET|NUAE|NU|NJUAE|YOQ|SHU|YUQ|YA|NSHA|KEUX|PEUX|NJEE|NTEE|PUE|WUE
A6CA BAMUM LETTER |PEE|FEE|RU|LU|MI|NI|REUX|RAE|KEN|NGKWAEN|NGGA|NGA|SHO|PUAE|FU|FOM|WA|NA|LI|PI
A6DE BAMUM LETTER |LOQ|KO|MBEN|REN|MEN|MA|TI|KI|MO|MBAA|TET|KPA|TEN|NTUU|SAMBA|FAAMAE|KOVUU|KOGHOM
A6F0 BAMUM COMBINING MARK |KOQNDON|TUKWENTIS
A6F2 BAMUM |NJAEMLI|FULL STOP|COLON|COMMA|SEMICOLON|QUESTION MARK
A700 MODIFIER LETTER CHINESE TONE |YIN PING|YANG PING|YIN SHANG|YANG SHANG|YIN QU|YANG QU|YIN RU
A707 MODIFIER LETTER |CHINESE TONE YANG RU|EXTRA-HIGH DOTTED TONE BAR
A709 MODIFIER LETTER |HIGH DOTTED TONE BAR|MID DOTTED TONE BAR|LOW DOTTED TONE BAR
A70C MODIFIER LETTER EXTRA-|LOW DOTTED TONE BAR|HIGH DOTTED LEFT-STEM TONE BAR
A70E MODIFIER LETTER |HIGH DOTTED LEFT-STEM TONE BAR|MID DOTTED LEFT-STEM TONE BAR
A710 MODIFIER LETTER |LOW DOTTED LEFT-STEM TONE BAR|EXTRA-LOW DOTTED LEFT-STEM TONE BAR
A712 MODIFIER LETTER |EXTRA-HIGH LEFT-STEM TONE BAR|HIGH LEFT-STEM TONE BAR
A714 MODIFIER LETTER |MID LEFT-STEM TONE BAR|LOW LEFT-STEM TONE BAR|EXTRA-LOW LEFT-STEM TONE BAR
A717 MODIFIER LETTER |DOT VERTICAL BAR|DOT SLASH|DOT HORIZONTAL BAR|LOWER RIGHT CORNER ANGLE
A71B MODIFIER LETTER RAISED |UP ARROW|DOWN ARROW|EXCLAMATION MARK|INVERTED EXCLAMATION MARK
A71F MODIFIER LETTER |LOW INVERTED EXCLAMATION MARK|STRESS AND HIGH TONE|STRESS AND LOW TONE
A722 LATIN |CAPITAL LETTER EGYPTOLOGICAL ALEF|SMALL LETTER EGYPTOLOGICAL ALEF
A724 LATIN |CAPITAL LETTER EGYPTOLOGICAL AIN|SMALL LETTER EGYPTOLOGICAL AIN|CAPITAL LETTER HENG
A727 LATIN |SMALL LETTER HENG|CAPITAL LETTER TZ|SMALL LETTER TZ|CAPITAL LETTER TRESILLO
A72B LATIN |SMALL LETTER TRESILLO|CAPITAL LETTER CUATRILLO|SMALL LETTER CUATRILLO
A72E LATIN |CAPITAL LETTER CUATRILLO WITH COMMA|SMALL LETTER CUATRILLO WITH COMMA
A730 LATIN LETTER SMALL CAPITAL |F|S
A732 LATIN |CAPITAL LETTER AA|SMALL LETTER AA|CAPITAL LETTER AO
A735 LATIN |SMALL LETTER AO|CAPITAL LETTER AU|SMALL LETTER AU|CAPITAL LETTER AV|SMALL LETTER AV
A73A LATIN |CAPITAL LETTER AV WITH HORIZONTAL BAR|SMALL LETTER AV WITH HORIZONTAL BAR
A73C LATIN |CAPITAL LETTER AY|SMALL LETTER AY|CAPITAL LETTER REVERSED C WITH DOT
A73F LATIN |SMALL LETTER REVERSED C WITH DOT|CAPITAL LETTER K WITH STROKE
A741 LATIN |SMALL LETTER K WITH STROKE|CAPITAL LETTER K WITH DIAGONAL STROKE
A743 LATIN |SMALL LETTER K WITH DIAGONAL STROKE|CAPITAL LETTER K WITH STROKE AND DIAGONAL STROKE
A745 |LATIN SMALL LETTER K WITH STROKE AND DIAGONAL STROKE
A746 LATIN |CAPITAL LETTER BROKEN L|SMALL LETTER BROKEN L
A748 LATIN |CAPITAL LETTER L WITH HIGH STROKE|SMALL LETTER L WITH HIGH STROKE
A74A LATIN |CAPITAL LETTER O WITH LONG STROKE OVERLAY|SMALL LETTER O WITH LONG STROKE OVERLAY
A74C LATIN |CAPITAL LETTER O WITH LOOP|SMALL LETTER O WITH LOOP
A74E LATIN |CAPITAL LETTER OO|SMALL LETTER OO|CAPITAL LETTER P WITH STROKE THROUGH DESCENDER
A751 LATIN |SMALL LETTER P WITH STROKE THROUGH DESCENDER|CAPITAL LETTER P WITH FLOURISH
A753 LATIN |SMALL LETTER P WITH FLOURISH|CAPITAL LETTER P WITH SQUIRREL TAIL
A755 LATIN |SMALL LETTER P WITH SQUIRREL TAIL|CAPITAL LETTER Q WITH STROKE THROUGH DESCENDER
A757 |LATIN SMALL LETTER Q WITH STROKE THROUGH DESCENDER
A758 LATIN |CAPITAL LETTER Q WITH DIAGONAL STROKE|SMALL LETTER Q WITH DIAGONAL STROKE
A75A LATIN |CAPITAL LETTER R ROTUNDA|SMALL LETTER R ROTUNDA|CAPITAL LETTER RUM ROTUNDA
A75D LATIN |SMALL LETTER RUM ROTUNDA|CAPITAL LETTER V WITH DIAGONAL STROKE
A75F LATIN |SMALL LETTER V WITH DIAGONAL STROKE|CAPITAL LETTER VY|SMALL LETTER VY
A762 LATIN |CAPITAL LETTER VISIGOTHIC Z|SMALL LETTER VISIGOTHIC Z|CAPITAL LETTER THORN WITH STROKE
A765 LATIN |SMALL LETTER THORN WITH STROKE|CAPITAL LETTER THORN WITH STROKE THROUGH DESCENDER
A767 LATIN |SMALL LETTER THORN WITH STROKE THROUGH DESCENDER|CAPITAL LETTER VEND|SMALL LETTER VEND
A76A LATIN |CAPITAL LETTER ET|SMALL LETTER ET|CAPITAL LETTER IS|SMALL LETTER IS|CAPITAL LETTER CON
A76F |LATIN SMALL LETTER CON|MODIFIER LETTER US
A771 LATIN SMALL LETTER |DUM|LUM|MUM|NUM|RUM
A776 LATIN |LETTER SMALL CAPITAL RUM|SMALL LETTER TUM|SMALL LETTER UM|CAPITAL LETTER INSULAR D
A77A LATIN |SMALL LETTER INSULAR D|CAPITAL LETTER INSULAR F|SMALL LETTER INSULAR F
A77D LATIN CAPITAL LETTER |INSULAR G|TURNED INSULAR G
A77F LATIN |SMALL LETTER TURNED INSULAR G|CAPITAL LETTER TURNED L|SMALL LETTER TURNED L
A782 LATIN |CAPITAL LETTER INSULAR R|SMALL LETTER INSULAR R|CAPITAL LETTER INSULAR S
A785 LATIN |SMALL LETTER INSULAR S|CAPITAL LETTER INSULAR T|SMALL LETTER INSULAR T
A788 MODIFIER LETTER |LOW CIRCUMFLEX ACCENT|COLON|SHORT EQUALS SIGN
A78B LATIN |CAPITAL LETTER SALTILLO|SMALL LETTER SALTILLO
A78D LATIN |CAPITAL LETTER TURNED H|SMALL LETTER L WITH RETROFLEX HOOK AND BELT
A78F LATIN |LETTER SINOLOGICAL DOT|CAPITAL LETTER N WITH DESCENDER
A791 LATIN |SMALL LETTER N WITH DESCENDER|CAPITAL LETTER C WITH BAR
A793 LATIN SMALL LETTER |C WITH BAR|C WITH PALATAL HOOK|H WITH PALATAL HOOK
A796 |LATIN CAPITAL LETTER B WITH FLOURISH
A797 LATIN |SMALL LETTER B WITH FLOURISH|CAPITAL LETTER F WITH STROKE|SMALL LETTER F WITH STROKE
A79A LATIN |CAPITAL LETTER VOLAPUK AE|SMALL LETTER VOLAPUK AE|CAPITAL LETTER VOLAPUK OE
A79D LATIN |SMALL LETTER VOLAPUK OE|CAPITAL LETTER VOLAPUK UE|SMALL LETTER VOLAPUK UE
A7A0 LATIN |CAPITAL LETTER G WITH OBLIQUE STROKE|SMALL LETTER G WITH OBLIQUE STROKE
A7A2 LATIN |CAPITAL LETTER K WITH OBLIQUE STROKE|SMALL LETTER K WITH OBLIQUE STROKE
A7A4 LATIN |CAPITAL LETTER N WITH OBLIQUE STROKE|SMALL LETTER N WITH OBLIQUE STROKE
A7A6 LATIN |CAPITAL LETTER R WITH OBLIQUE STROKE|SMALL LETTER R WITH OBLIQUE STROKE
A7A8 LATIN |CAPITAL LETTER S WITH OBLIQUE STROKE|SMALL LETTER S WITH OBLIQUE STROKE
A7AA LATIN CAPITAL LETTER |H WITH HOOK|REVERSED OPEN E|SCRIPT G|L WITH BELT|SMALL CAPITAL I
A7AF |LATIN LETTER SMALL CAPITAL Q
A7B0 LATIN CAPITAL LETTER |TURNED K|TURNED T|J WITH CROSSED-TAIL|CHI|BETA
A7B5 LATIN |SMALL LETTER BETA|CAPITAL LETTER OMEGA|SMALL LETTER OMEGA
A7B8 LATIN |CAPITAL LETTER U WITH STROKE|SMALL LETTER U WITH STROKE|CAPITAL LETTER GLOTTAL A
A7BB LATIN |SMALL LETTER GLOTTAL A|CAPITAL LETTER GLOTTAL I|SMALL LETTER GLOTTAL I
A7BE LATIN |CAPITAL LETTER GLOTTAL U|SMALL LETTER GLOTTAL U|CAPITAL LETTER OLD POLISH O
A7C1 LATIN |SMALL LETTER OLD POLISH O|CAPITAL LETTER ANGLICANA W|SMALL LETTER ANGLICANA W
A7C4 LATIN CAPITAL LETTER |C WITH PALATAL HOOK|S WITH HOOK|Z WITH PALATAL HOOK
A7C7 LATIN |CAPITAL LETTER D WITH SHORT STROKE OVERLAY|SMALL LETTER D WITH SHORT STROKE OVERLAY
A7C9 LATIN |CAPITAL LETTER S WITH SHORT STROKE OVERLAY|SMALL LETTER S WITH SHORT STROKE OVERLAY
A7CB LATIN CAPITAL LETTER |RAMS HORN|S WITH DIAGONAL STROKE
A7CD |LATIN SMALL LETTER S WITH DIAGONAL STROKE
A7D0 LATIN |CAPITAL LETTER CLOSED INSULAR G|SMALL LETTER CLOSED INSULAR G
A7D3 |LATIN SMALL LETTER DOUBLE THORN
A7D5 LATIN |SMALL LETTER DOUBLE WYNN|CAPITAL LETTER MIDDLE SCOTS S
A7D7 LATIN |SMALL LETTER MIDDLE SCOTS S|CAPITAL LETTER SIGMOID S|SMALL LETTER SIGMOID S
A7DA LATIN |CAPITAL LETTER LAMBDA|SMALL LETTER LAMBDA|CAPITAL LETTER LAMBDA WITH STROKE
A7F2 MODIFIER LETTER CAPITAL |C|F|Q
A7F5 |LATIN CAPITAL LETTER REVERSED HALF H
A7F6 LATIN |SMALL LETTER REVERSED HALF H|EPIGRAPHIC LETTER SIDEWAYS I
A7F8 MODIFIER LETTER |CAPITAL H WITH STROKE|SMALL LIGATURE OE
A7FA |LATIN LETTER SMALL CAPITAL TURNED M
A7FB LATIN EPIGRAPHIC LETTER |REVERSED F|REVERSED P|INVERTED M|I LONGA|ARCHAIC M
A800 SYLOTI NAGRI |LETTER A|LETTER I|SIGN DVISVARA|LETTER U|LETTER E|LETTER O|SIGN HASANTA
A807 SYLOTI NAGRI LETTER |KO|KHO|GO|GHO
A80B SYLOTI NAGRI |SIGN ANUSVARA|LETTER CO|LETTER CHO|LETTER JO
A80F SYLOTI NAGRI LETTER |JHO|TTO|TTHO|DDO|DDHO|TO|THO|DO|DHO|NO|PO|PHO|BO|BHO|MO|RO|LO|RRO|SO|HO
A823 SYLOTI NAGRI VOWEL SIGN |A|I|U|E|OO
A828 SYLOTI NAGRI POETRY MARK-|1|2|3|4
A82C |SYLOTI NAGRI SIGN ALTERNATE HASANTA
A830 NORTH INDIC FRACTION |ONE QUARTER|ONE HALF|THREE QUARTERS|ONE SIXTEENTH|ONE EIGHTH
A835 NORTH INDIC |FRACTION THREE SIXTEENTHS|QUARTER MARK|PLACEHOLDER MARK|RUPEE MARK|QUANTITY MARK
A840 PHAGS-PA LETTER |KA|KHA|GA|NGA|CA|CHA|JA|NYA|TA|THA|DA|NA|PA|PHA|BA|MA
A850 PHAGS-PA LETTER |TSA|TSHA|DZA|WA|ZHA|ZA|SMALL A|YA|RA|LA|SHA|SA|HA|A|I|U|E|O|QA|XA|FA|GGA|EE
A867 PHAGS-PA SUBJOINED LETTER |WA|YA
A869 PHAGS-PA LETTER |TTA|TTHA|DDA|NNA|ALTERNATE YA|VOICELESS SHA|VOICED HA|ASPIRATED FA
A871 PHAGS-PA |SUBJOINED LETTER RA|SUPERFIXED LETTER RA
A873 PHAGS-PA |LETTER CANDRABINDU|SINGLE HEAD MARK|DOUBLE HEAD MARK|MARK SHAD|MARK DOUBLE SHAD
A880 SAURASHTRA SIGN |ANUSVARA|VISARGA
A882 SAURASHTRA LETTER |A|AA|I|II|U|UU|VOCALIC R|VOCALIC RR|VOCALIC L|VOCALIC LL
A88C SAURASHTRA LETTER |E|EE|AI|O|OO|AU|KA|KHA|GA|GHA|NGA|CA|CHA|JA|JHA|NYA|TTA|TTHA|DDA
A89F SAURASHTRA LETTER |DDHA|NNA|TA|THA|DA|DHA|NA|PA|PHA|BA|BHA|MA|YA|RA|LA|VA|SHA|SSA|SA|HA|LLA
A8B4 |SAURASHTRA CONSONANT SIGN HAARU
A8B5 SAURASHTRA VOWEL SIGN |AA|I|II|U|UU|VOCALIC R|VOCALIC RR|VOCALIC L|VOCALIC LL|E|EE|AI|O|OO|AU
A8C4 SAURASHTRA SIGN |VIRAMA|CANDRABINDU
A8CE SAURASHTRA |DANDA|DOUBLE DANDA
A8D0 SAURASHTRA DIGIT |ZERO|ONE|TWO|THREE|FOUR|FIVE|SIX|SEVEN|EIGHT|NINE
A8E0 COMBINING DEVANAGARI DIGIT |ZERO|ONE|TWO|THREE|FOUR|FIVE|SIX|SEVEN|EIGHT|NINE
A8EA COMBINING DEVANAGARI LETTER |A|U|KA|NA|PA|RA|VI
A8F1 |COMBINING DEVANAGARI SIGN AVAGRAHA
A8F2 DEVANAGARI SIGN |SPACING CANDRABINDU|CANDRABINDU VIRAMA|DOUBLE CANDRABINDU VIRAMA
A8F5 DEVANAGARI SIGN CANDRABINDU |TWO|THREE|AVAGRAHA
A8F8 |DEVANAGARI SIGN PUSHPIKA
A8F9 DEVANAGARI |GAP FILLER|CARET|HEADSTROKE|SIGN SIDDHAM|JAIN OM|LETTER AY|VOWEL SIGN AY
A900 KAYAH LI DIGIT |ZERO|ONE|TWO|THREE|FOUR|FIVE|SIX|SEVEN|EIGHT|NINE
A90A KAYAH LI LETTER |KA|KHA|GA|NGA
A90E KAYAH LI LETTER |SA|SHA|ZA|NYA|TA|HTA|NA|PA|PHA|MA|DA|BA|RA|YA|LA|WA|THA|HA|VA|CA|A|OE|I|OO
A926 KAYAH LI VOWEL |UE|E|U|EE|O
A92B KAYAH LI |TONE PLOPHU|TONE CALYA|TONE CALYA PLOPHU|SIGN CWI|SIGN SHYA
A930 REJANG LETTER |KA|GA|NGA|TA|DA|NA|PA|BA|MA|CA|JA|NYA|SA|RA|LA|YA|WA|HA|MBA|NGGA|NDA|NYJA|A
A947 REJANG VOWEL SIGN |I|U|E|AI|O|AU|EU|EA
A94F REJANG CONSONANT SIGN |NG|N|R|H
A953 |REJANG VIRAMA
A95F |REJANG SECTION MARK
A960 HANGUL CHOSEONG TIKEUT-|MIEUM|PIEUP|SIOS|CIEUC
A964 HANGUL CHOSEONG RIEUL-|KIYEOK|SSANGKIYEOK|TIKEUT
A967 HANGUL CHOSEONG RIEUL-|SSANGTIKEUT|MIEUM|PIEUP|SSANGPIEUP|KAPYEOUNPIEUP|SIOS|CIEUC|KHIEUKH
A96F HANGUL CHOSEONG MIEUM-|KIYEOK|TIKEUT|SIOS
A972 HANGUL CHOSEONG PIEUP-|SIOS-THIEUTH|KHIEUKH|HIEUH
A975 HANGUL CHOSEONG |SSANGSIOS-PIEUP|IEUNG-RIEUL|IEUNG-HIEUH
A978 HANGUL CHOSEONG |SSANGCIEUC-HIEUH|SSANGTHIEUTH|PHIEUPH-HIEUH|HIEUH-SIOS|SSANGYEORINHIEUH
A980 JAVANESE SIGN |PANYANGGA|CECAK|LAYAR|WIGNYAN
A984 JAVANESE LETTER |A|I KAWI|I|II|U|PA CEREK|NGA LELET|NGA LELET RASWADI|E|AI|O|KA
A990 JAVANESE LETTER |KA SASAK|KA MURDA|GA|GA MURDA|NGA|CA|CA MURDA|JA|NYA MURDA|JA MAHAPRANA|NYA
A99B JAVANESE LETTER |TTA|TTA MAHAPRANA|DDA|DDA MAHAPRANA|NA MURDA|TA|TA MURDA|DA|DA MAHAPRANA|NA
A9A5 JAVANESE LETTER |PA|PA MURDA|BA|BA MURDA|MA|YA|RA|RA AGUNG|LA|WA|SA MURDA|SA MAHAPRANA|SA|HA
A9B3 |JAVANESE SIGN CECAK TELU
A9B4 JAVANESE VOWEL SIGN |TARUNG|TOLONG|WULU|WULU MELIK|SUKU|SUKU MENDUT|TALING|DIRGA MURE|PEPET
A9BD JAVANESE CONSONANT SIGN |KERET|PENGKAL|CAKRA
A9C0 JAVANESE |PANGKON|LEFT RERENGGAN|RIGHT RERENGGAN
A9C3 JAVANESE PADA |ANDAP|MADYA|LUHUR|WINDU|PANGKAT|LINGSA|LUNGSI|ADEG|ADEG ADEG|PISELEH
A9CD |JAVANESE TURNED PADA PISELEH
A9CF |JAVANESE PANGRANGKEP
A9D0 JAVANESE DIGIT |ZERO|ONE|TWO|THREE|FOUR|FIVE|SIX|SEVEN|EIGHT|NINE
A9DE JAVANESE PADA |TIRTA TUMETES|ISEN-ISEN
A9E0 MYANMAR LETTER SHAN |GHA|CHA|JHA|NNA|BHA
A9E5 MYANMAR |SIGN SHAN SAW|MODIFIER LETTER SHAN REDUPLICATION
A9E7 MYANMAR LETTER TAI LAING |NYA|FA|GA|GHA|JA|JHA|DDA|DDHA|NNA
A9F0 MYANMAR TAI LAING DIGIT |ZERO|ONE|TWO|THREE|FOUR|FIVE|SIX|SEVEN|EIGHT|NINE
A9FA MYANMAR LETTER TAI LAING |LLA|DA|DHA|BA|BHA
AA00 CHAM LETTER |A|I|U|E|AI|O|KA|KHA|GA|GHA|NGUE|NGA|CHA|CHHA|JA|JHA|NHUE|NHA
AA12 CHAM LETTER |NHJA|TA|THA|DA|DHA|NUE|NA|DDA|PA|PPA|PHA|BA|BHA|MUE|MA|BBA|YA|RA|LA|VA|SSA|SA|HA
AA29 CHAM VOWEL SIGN |AA|I|II|EI|U|OE|O|AI|AU|UE
AA33 CHAM CONSONANT SIGN |YA|RA|LA|WA
AA40 CHAM LETTER FINAL |K|G|NG
AA43 |CHAM CONSONANT SIGN FINAL NG
AA44 CHAM LETTER FINAL |CH|T|N|P|Y|R|L|SS
AA4C CHAM CONSONANT SIGN FINAL |M|H
AA50 CHAM DIGIT |ZERO|ONE|TWO|THREE|FOUR|FIVE|SIX|SEVEN|EIGHT|NINE
AA5C CHAM PUNCTUATION |SPIRAL|DANDA|DOUBLE DANDA|TRIPLE DANDA
AA60 MYANMAR LETTER KHAMTI |GA|CA|CHA|JA|JHA|NYA|TTA|TTHA|DDA|DDHA|DHA|NA|SA|HA|HHA|FA
AA70 |MYANMAR MODIFIER LETTER KHAMTI REDUPLICATION
AA71 MYANMAR LETTER KHAMTI |XA|ZA|RA
AA74 MYANMAR LOGOGRAM KHAMTI |OAY|QN|HM
AA77 MYANMAR SYMBOL AITON |EXCLAMATION|ONE|TWO
AA7A MYANMAR |LETTER AITON RA|SIGN PAO KAREN TONE
AA7C MYANMAR SIGN TAI LAING TONE-|2|5
AA7E MYANMAR LETTER SHWE PALAUNG |CHA|SHA
AA80 TAI VIET LETTER |LOW KO|HIGH KO|LOW KHO|HIGH KHO|LOW KHHO|HIGH KHHO|LOW GO|HIGH GO|LOW NGO
AA89 TAI VIET LETTER |HIGH NGO|LOW CO|HIGH CO|LOW CHO|HIGH CHO|LOW SO|HIGH SO|LOW NYO|HIGH NYO
AA92 TAI VIET LETTER |LOW DO|HIGH DO|LOW TO|HIGH TO|LOW THO|HIGH THO|LOW NO|HIGH NO|LOW BO|HIGH BO
AA9C TAI VIET LETTER |LOW PO|HIGH PO|LOW PHO|HIGH PHO|LOW FO|HIGH FO|LOW MO|HIGH MO|LOW YO|HIGH YO
AAA6 TAI VIET LETTER |LOW RO|HIGH RO|LOW LO|HIGH LO|LOW VO|HIGH VO|LOW HO|HIGH HO|LOW O|HIGH O
AAB0 TAI VIET |MAI KANG|VOWEL AA|VOWEL I|VOWEL UE|VOWEL U|VOWEL E|VOWEL O|MAI KHIT
AAB8 TAI VIET VOWEL |IA|UEA|UA|AUE|AY|AN|AM
AABF TAI VIET TONE MAI |EK|NUENG|THO|SONG
AADB TAI VIET SYMBOL |KON|NUENG|SAM|HO HOI|KOI KOI
AAE0 MEETEI MAYEK LETTER |E|O|CHA|NYA|TTA|TTHA|DDA|DDHA|NNA|SHA|SSA
AAEB MEETEI MAYEK VOWEL SIGN |II|UU|AAI|AU|AAU
AAF0 MEETEI MAYEK |CHEIKHAN|AHANG KHUDAM
AAF2 MEETEI MAYEK |ANJI|SYLLABLE REPETITION MARK|WORD REPETITION MARK|VOWEL SIGN VISARGA|VIRAMA
AB01 ETHIOPIC SYLLABLE |TTHU|TTHI|TTHAA|TTHEE|TTHE|TTHO
AB09 ETHIOPIC SYLLABLE |DDHU|DDHI|DDHAA|DDHEE|DDHE|DDHO
AB11 ETHIOPIC SYLLABLE |DZU|DZI|DZAA|DZEE|DZE|DZO
AB20 ETHIOPIC SYLLABLE |CCHHA|CCHHU|CCHHI|CCHHAA|CCHHEE|CCHHE|CCHHO
AB28 ETHIOPIC SYLLABLE |BBA|BBU|BBI|BBAA|BBEE|BBE|BBO
AB30 LATIN SMALL LETTER |BARRED ALPHA|A REVERSED-SCHWA
AB32 LATIN SMALL LETTER |BLACKLETTER E|BARRED E|E WITH FLOURISH|LENIS F|SCRIPT G WITH CROSSED-TAIL
AB37 LATIN SMALL LETTER L WITH |INVERTED LAZY S|DOUBLE MIDDLE TILDE|MIDDLE RING
AB3A LATIN SMALL LETTER |M WITH CROSSED-TAIL|N WITH CROSSED-TAIL|ENG WITH CROSSED-TAIL
AB3D LATIN SMALL LETTER |BLACKLETTER O|BLACKLETTER O WITH STROKE|OPEN O WITH STROKE|INVERTED OE
AB41 LATIN SMALL LETTER TURNED OE WITH |STROKE|HORIZONTAL STROKE
AB43 LATIN SMALL LETTER TURNED O OPEN-|O|O WITH STROKE
AB45 LATIN |SMALL LETTER STIRRUP R|LETTER SMALL CAPITAL R WITH RIGHT LEG
AB47 LATIN SMALL LETTER |R WITHOUT HANDLE|DOUBLE R|R WITH CROSSED-TAIL|DOUBLE R WITH CROSSED-TAIL
AB4B LATIN SMALL LETTER |SCRIPT R|SCRIPT R WITH RING|BASELINE ESH|U WITH SHORT RIGHT LEG
AB4F LATIN SMALL LETTER |U BAR WITH SHORT RIGHT LEG|UI|TURNED UI|U WITH LEFT HOOK
AB53 LATIN SMALL LETTER |CHI|CHI WITH LOW RIGHT RING|CHI WITH LOW LEFT SERIF|X WITH LOW RIGHT RING
AB57 LATIN SMALL LETTER X WITH LONG LEFT |LEG|LEG AND LOW RIGHT RING|LEG WITH SERIF
AB5A |LATIN SMALL LETTER Y WITH SHORT RIGHT LEG|MODIFIER BREVE WITH INVERTED BREVE
AB5C MODIFIER LETTER SMALL |HENG|L WITH INVERTED LAZY S|L WITH MIDDLE TILDE|U WITH LEFT HOOK
AB60 LATIN SMALL LETTER |SAKHA YAT|IOTIFIED E|OPEN OE|UO|INVERTED ALPHA
AB65 |GREEK LETTER SMALL CAPITAL OMEGA|LATIN SMALL LETTER DZ DIGRAPH WITH RETROFLEX HOOK
AB67 LATIN SMALL LETTER |TS DIGRAPH WITH RETROFLEX HOOK|TURNED R WITH MIDDLE TILDE
AB69 MODIFIER LETTER |SMALL TURNED W|LEFT TACK|RIGHT TACK
AB70 CHEROKEE SMALL LETTER |A|E|I|O|U|V|GA|KA|GE|GI|GO|GU|GV|HA|HE|HI|HO
AB81 CHEROKEE SMALL LETTER |HU|HV|LA|LE|LI|LO|LU|LV|MA|ME|MI|MO|MU|NA|HNA|NAH|NE|NI|NO|NU|NV|QUA
AB97 CHEROKEE SMALL LETTER |QUE|QUI|QUO|QUU|QUV|SA|S|SE|SI|SO|SU|SV|DA|TA|DE|TE|DI|TI|DO|DU|DV|DLA
ABAD CHEROKEE SMALL LETTER |TLA|TLE|TLI|TLO|TLU|TLV|TSA|TSE|TSI|TSO|TSU|TSV|WA|WE|WI|WO|WU|WV|YA
ABC0 MEETEI MAYEK LETTER |KOK|SAM|LAI|MIT|PA|NA|CHIL|TIL|KHOU|NGOU|THOU|WAI|YANG|HUK|UN|I
ABD0 MEETEI MAYEK LETTER |PHAM|ATIYA|GOK|JHAM|RAI|BA|JIL|DIL|GHOU|DHOU|BHAM|KOK LONSUM|LAI LONSUM
ABDD MEETEI MAYEK LETTER |MIT LONSUM|PA LONSUM|NA LONSUM|TIL LONSUM|NGOU LONSUM|I LONSUM
ABE3 MEETEI MAYEK VOWEL SIGN |ONAP|INAP|ANAP|YENAP|SOUNAP|UNAP|CHEINAP|NUNG
ABEB MEETEI MAYEK |CHEIKHEI|LUM IYEK|APUN IYEK
ABF0 MEETEI MAYEK DIGIT |ZERO|ONE|TWO|THREE|FOUR|FIVE|SIX|SEVEN|EIGHT|NINE
A015 |YI SYLLABLE ITERATION MARK
AA6E |MYANMAR LETTER KHAMTI LLA"

end TagMenu.Unicode
