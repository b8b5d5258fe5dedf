namespace TagMenu.Unicode

def pictographNames : String :=
"1E000 COMBINING GLAGOLITIC LETTER |AZU|BUKY|VEDE|GLAGOLI|DOBRO|YESTU|ZHIVETE
1E008 COMBINING GLAGOLITIC LETTER |ZEMLJA|IZHE|INITIAL IZHE|I|DJERVI|KAKO|LJUDIJE
1E00F COMBINING GLAGOLITIC LETTER |MYSLITE|NASHI|ONU|POKOJI|RITSI|SLOVO|TVRIDO|UKU|FRITU|HERU
1E01B COMBINING GLAGOLITIC LETTER |SHTA|TSI|CHRIVI|SHA|YERU|YERI|YATI
1E023 COMBINING GLAGOLITIC LETTER |YU|SMALL YUS
1E026 COMBINING GLAGOLITIC LETTER |YO|IOTATED SMALL YUS|BIG YUS|IOTATED BIG YUS|FITA
1E030 MODIFIER LETTER CYRILLIC SMALL |A|BE|VE|GHE|DE|IE|ZHE|ZE|I|KA
1E03A MODIFIER LETTER CYRILLIC SMALL |EL|EM|O|PE|ER|ES|TE|U|EF|HA|TSE|CHE|SHA|YERU|E|YU|DZZE|SCHWA
1E04C MODIFIER LETTER CYRILLIC SMALL |BYELORUSSIAN-UKRAINIAN I|JE|BARRED O|STRAIGHT U|PALOCHKA
1E051 CYRILLIC SUBSCRIPT SMALL LETTER |A|BE|VE|GHE
1E055 CYRILLIC SUBSCRIPT SMALL LETTER |DE|IE|ZHE|ZE|I|KA|EL|O|PE|ES|U|EF|HA|TSE|CHE|SHA|HARD SIGN
1E066 CYRILLIC SUBSCRIPT SMALL LETTER |YERU|GHE WITH UPTURN|BYELORUSSIAN-UKRAINIAN I|DZE|DZHE
1E06B MODIFIER LETTER CYRILLIC SMALL |ES WITH DESCENDER|YERU WITH BACK YER|STRAIGHT U WITH STROKE
1E08F |COMBINING CYRILLIC SMALL LETTER BYELORUSSIAN-UKRAINIAN I
1E100 NYIAKENG PUACHUE HMONG LETTER |MA|TSA|NTA|TA|HA|NA|XA|NKA|CA
1E109 NYIAKENG PUACHUE HMONG LETTER |LA|SA|ZA|NCA|NTSA|KA|DA|NYA|NRA|VA|NTXA|TXA|FA|RA|QA|YA|NQA
1E11A NYIAKENG PUACHUE HMONG LETTER |PA|XYA|NPA|DLA|NPLA|HAH|MLA|PLA|GA|RRA|A|AA|I|U|O|OO|E|EE|W
1E130 NYIAKENG PUACHUE HMONG TONE-|B|M|J|V|S|G|D
1E137 NYIAKENG PUACHUE HMONG SIGN FOR |PERSON|THING|LOCATION|ANIMAL|INVERTEBRATE
1E13C NYIAKENG PUACHUE HMONG |SIGN XW XW|SYLLABLE LENGTHENER
1E140 NYIAKENG PUACHUE HMONG DIGIT |ZERO|ONE|TWO|THREE|FOUR|FIVE|SIX|SEVEN|EIGHT|NINE
1E14E NYIAKENG PUACHUE HMONG |LOGOGRAM NYAJ|CIRCLED CA
1E290 TOTO LETTER |PA|BA|TA|DA|KA|GA|MA|NA|NGA|SA|CHA|YA|WA|JA|HA
1E29F TOTO LETTER |RA|LA|I|BREATHY I|IU|BREATHY IU|U|E|BREATHY E|EO|BREATHY EO|O|AE|BREATHY AE|A
1E2AE |TOTO SIGN RISING TONE
1E2C0 WANCHO LETTER |AA|A|BA|CA|DA|GA|YA|PHA|LA|NA|PA|TA|THA|FA|SA|SHA|JA|ZA|WA|VA|KA|O
1E2D6 WANCHO LETTER |AU|RA|MA|KHA|HA|E|I|NGA|U|LLHA|TSA|TRA|ONG|AANG|ANG|ING|ON|EN|AAN|NYA|UEN|YIH
1E2EC WANCHO TONE |TUP|TUPNI|KOI|KOINI
1E2F0 WANCHO DIGIT |ZERO|ONE|TWO|THREE|FOUR|FIVE|SIX|SEVEN|EIGHT|NINE
1E2FF |WANCHO NGUN SIGN
1E4D0 NAG MUNDARI LETTER |O|OP|OL|OY
1E4D4 NAG MUNDARI LETTER |ONG|A|AJ|AB|ANY|AH|I|IS|IDD|IT|IH|U|UC|UD|UK|UR|E|ENN|EG|EM|EN|ETT|ELL
1E4EB NAG MUNDARI SIGN |OJOD|MUHOR|TOYOR|IKIR|SUTUH
1E4F0 NAG MUNDARI DIGIT |ZERO|ONE|TWO|THREE|FOUR|FIVE|SIX|SEVEN|EIGHT|NINE
1E5D0 OL ONAL LETTER |O|OM|ONG|ORR|OO
1E5D5 OL ONAL LETTER |OY|A|AD|AB|AH|AL|AW|I|IH|IDD|IMM|INY|IR|U|UC|UD|UK|UNN|UY|E|EP|EDD|EN|ETT|OH
1E5EE OL ONAL SIGN |MU|IKIR|HODDOND
1E5F1 OL ONAL DIGIT |ZERO|ONE|TWO|THREE|FOUR|FIVE|SIX|SEVEN|EIGHT|NINE
1E5FF |OL ONAL ABBREVIATION SIGN
1E7E0 ETHIOPIC SYLLABLE |HHYA|HHYU|HHYI|HHYAA|HHYEE|HHYE|HHYO
1E7E8 ETHIOPIC SYLLABLE |GURAGE HHWA|HHWI|HHWEE|HHWE
1E7ED ETHIOPIC SYLLABLE GURAGE |MWI|MWEE
1E7F0 ETHIOPIC SYLLABLE GURAGE |QWI|QWEE|QWE|BWI|BWEE|KWI|KWEE|KWE|GWI|GWEE|GWE|FWI|FWEE|PWI|PWEE
1E800 MENDE KIKAKUI SYLLABLE |M001 KI|M002 KA|M003 KU|M065 KEE
1E804 MENDE KIKAKUI SYLLABLE |M095 KE|M076 KOO|M048 KO|M179 KUA|M004 WI|M005 WA|M006 WU|M126 WEE
1E80C MENDE KIKAKUI SYLLABLE |M118 WE|M114 WOO|M045 WO|M194 WUI|M143 WEI|M061 WVI|M049 WVA
1E813 MENDE KIKAKUI SYLLABLE |M139 WVE|M007 MIN|M008 MAN|M009 MUN|M059 MEN|M094 MON|M154 MUAN
1E81A MENDE KIKAKUI SYLLABLE |M189 MUEN|M010 BI|M011 BA|M012 BU|M150 BEE|M097 BE|M103 BOO|M138 BO
1E822 MENDE KIKAKUI SYLLABLE |M013 I|M014 A|M015 U|M163 EE|M100 E|M165 OO|M147 O|M137 EI|M131 IN
1E82B MENDE KIKAKUI SYLLABLE |M135 IN|M195 AN|M178 EN|M019 SI|M020 SA|M021 SU|M162 SEE|M116 SE
1E833 MENDE KIKAKUI SYLLABLE |M136 SOO|M079 SO|M196 SIA|M025 LI|M026 LA|M027 LU|M084 LEE|M073 LE
1E83B MENDE KIKAKUI SYLLABLE |M054 LOO|M153 LO|M110 LONG LE|M016 DI|M017 DA|M018 DU|M089 DEE
1E842 MENDE KIKAKUI SYLLABLE |M180 DOO|M181 DO|M022 TI|M023 TA|M024 TU|M091 TEE|M055 TE|M104 TOO
1E84A MENDE KIKAKUI SYLLABLE |M069 TO|M028 JI|M029 JA|M030 JU|M157 JEE|M113 JE|M160 JOO|M063 JO
1E852 MENDE KIKAKUI SYLLABLE |M175 LONG JO|M031 YI|M032 YA|M033 YU|M109 YEE|M080 YE|M141 YOO
1E859 MENDE KIKAKUI SYLLABLE |M121 YO|M034 FI|M035 FA|M036 FU|M078 FEE|M075 FE|M133 FOO|M088 FO
1E861 MENDE KIKAKUI SYLLABLE |M197 FUA|M101 FAN|M037 NIN|M038 NAN|M039 NUN|M117 NEN|M169 NON
1E868 MENDE KIKAKUI SYLLABLE |M176 HI|M041 HA|M186 HU|M040 HEE|M096 HE|M042 HOO|M140 HO|M083 HEEI
1E870 MENDE KIKAKUI SYLLABLE |M128 HOOU|M053 HIN|M130 HAN|M087 HUN|M052 HEN|M193 HON|M046 HUAN
1E877 MENDE KIKAKUI SYLLABLE |M090 NGGI|M043 NGGA|M082 NGGU|M115 NGGEE|M146 NGGE|M156 NGGOO
1E87D MENDE KIKAKUI SYLLABLE |M120 NGGO|M159 NGGAA|M127 NGGUA|M086 LONG NGGE|M106 LONG NGGOO
1E882 MENDE KIKAKUI SYLLABLE |M183 LONG NGGO|M155 GI|M111 GA|M168 GU|M190 GEE|M166 GUEI|M167 GUAN
1E889 MENDE KIKAKUI SYLLABLE |M184 NGEN|M057 NGON|M177 NGUAN|M068 PI|M099 PA|M050 PU|M081 PEE
1E890 MENDE KIKAKUI SYLLABLE |M051 PE|M102 POO|M066 PO|M145 MBI|M062 MBA|M122 MBU|M047 MBEE
1E897 MENDE KIKAKUI SYLLABLE |M188 MBEE|M072 MBE|M172 MBOO|M174 MBO|M187 MBUU|M161 LONG MBE
1E89D MENDE KIKAKUI SYLLABLE |M105 LONG MBOO|M142 LONG MBO|M132 KPI|M092 KPA|M074 KPU
1E8A2 MENDE KIKAKUI SYLLABLE |M044 KPEE|M108 KPE|M112 KPOO|M158 KPO|M124 GBI|M056 GBA|M148 GBU
1E8A9 MENDE KIKAKUI SYLLABLE |M093 GBEE|M107 GBE|M071 GBOO|M070 GBO|M171 RA|M123 NDI|M129 NDA
1E8B0 MENDE KIKAKUI SYLLABLE |M125 NDU|M191 NDEE|M119 NDE|M067 NDOO|M064 NDO|M152 NJA|M192 NJU
1E8B7 MENDE KIKAKUI SYLLABLE |M149 NJEE|M134 NJOO|M182 VI|M185 VA|M151 VU|M173 VEE|M085 VE
1E8BE MENDE KIKAKUI SYLLABLE |M144 VOO|M077 VO|M164 NYIN|M058 NYAN|M170 NYUN|M098 NYEN|M060 NYON
1E8C7 MENDE KIKAKUI DIGIT |ONE|TWO|THREE|FOUR|FIVE|SIX|SEVEN|EIGHT|NINE
1E8D0 MENDE KIKAKUI COMBINING NUMBER |TEENS|TENS
1E8D2 MENDE KIKAKUI COMBINING NUMBER |HUNDREDS|THOUSANDS|TEN THOUSANDS|HUNDRED THOUSANDS|MILLIONS
1E900 ADLAM CAPITAL LETTER |ALIF|DAALI|LAAM|MIIM|BA|SINNYIIYHE|PE|BHE|RA|E|FA|I|O|DHA|YHE
1E90F ADLAM CAPITAL LETTER |WAW|NUN|KAF|YA|U|JIIM|CHI|HA|QAAF|GA|NYA|TU|NHA|VA|KHA|GBE|ZAL|KPO|SHA
1E922 ADLAM SMALL LETTER |ALIF|DAALI|LAAM|MIIM|BA|SINNYIIYHE|PE|BHE|RA|E|FA|I|O|DHA|YHE
1E931 ADLAM SMALL LETTER |WAW|NUN|KAF|YA|U|JIIM|CHI|HA|QAAF|GA|NYA|TU|NHA|VA|KHA|GBE|ZAL|KPO|SHA
1E944 ADLAM |ALIF LENGTHENER|VOWEL LENGTHENER|GEMINATION MARK
1E947 ADLAM |HAMZA|CONSONANT MODIFIER|GEMINATE CONSONANT MODIFIER|NUKTA|NASALIZATION MARK
1E950 ADLAM DIGIT |ZERO|ONE|TWO|THREE|FOUR|FIVE|SIX|SEVEN|EIGHT|NINE
1E95E ADLAM INITIAL |EXCLAMATION MARK|QUESTION MARK
1EC71 INDIC SIYAQ NUMBER |ONE|TWO|THREE|FOUR|FIVE
1EC76 INDIC SIYAQ NUMBER |SIX|SEVEN|EIGHT|NINE|TEN|TWENTY|THIRTY|FORTY|FIFTY|SIXTY|SEVENTY|EIGHTY
1EC82 INDIC SIYAQ NUMBER |NINETY|ONE HUNDRED|TWO HUNDRED|THREE HUNDRED|FOUR HUNDRED|FIVE HUNDRED
1EC88 INDIC SIYAQ NUMBER |SIX HUNDRED|SEVEN HUNDRED|EIGHT HUNDRED|NINE HUNDRED|ONE THOUSAND
1EC8D INDIC SIYAQ NUMBER |TWO THOUSAND|THREE THOUSAND|FOUR THOUSAND|FIVE THOUSAND|SIX THOUSAND
1EC92 INDIC SIYAQ NUMBER |SEVEN THOUSAND|EIGHT THOUSAND|NINE THOUSAND|TEN THOUSAND|TWENTY THOUSAND
1EC97 INDIC SIYAQ NUMBER |THIRTY THOUSAND|FORTY THOUSAND|FIFTY THOUSAND|SIXTY THOUSAND
1EC9B INDIC SIYAQ NUMBER |SEVENTY THOUSAND|EIGHTY THOUSAND|NINETY THOUSAND|LAKH|LAKHAN
1ECA0 INDIC SIYAQ |LAKH MARK|NUMBER KAROR|NUMBER KARORAN
1ECA3 INDIC SIYAQ NUMBER PREFIXED |ONE|TWO|THREE|FOUR|FIVE|SIX|SEVEN|EIGHT|NINE
1ECAC |INDIC SIYAQ PLACEHOLDER
1ECAD INDIC SIYAQ |FRACTION ONE QUARTER|FRACTION ONE HALF|FRACTION THREE QUARTERS|RUPEE MARK
1ECB1 INDIC SIYAQ NUMBER ALTERNATE |ONE|TWO|TEN THOUSAND
1ECB4 |INDIC SIYAQ ALTERNATE LAKH MARK
1ED01 OTTOMAN SIYAQ NUMBER |ONE|TWO|THREE|FOUR|FIVE|SIX|SEVEN|EIGHT|NINE|TEN|TWENTY
1ED0C OTTOMAN SIYAQ NUMBER |THIRTY|FORTY|FIFTY|SIXTY|SEVENTY|EIGHTY|NINETY|ONE HUNDRED|TWO HUNDRED
1ED15 OTTOMAN SIYAQ NUMBER |THREE HUNDRED|FOUR HUNDRED|FIVE HUNDRED|SIX HUNDRED|SEVEN HUNDRED
1ED1A OTTOMAN SIYAQ NUMBER |EIGHT HUNDRED|NINE HUNDRED|ONE THOUSAND|TWO THOUSAND|THREE THOUSAND
1ED1F OTTOMAN SIYAQ NUMBER |FOUR THOUSAND|FIVE THOUSAND|SIX THOUSAND|SEVEN THOUSAND|EIGHT THOUSAND
1ED24 OTTOMAN SIYAQ NUMBER |NINE THOUSAND|TEN THOUSAND|TWENTY THOUSAND|THIRTY THOUSAND
1ED28 OTTOMAN SIYAQ NUMBER |FORTY THOUSAND|FIFTY THOUSAND|SIXTY THOUSAND|SEVENTY THOUSAND
1ED2C OTTOMAN SIYAQ |NUMBER EIGHTY THOUSAND|NUMBER NINETY THOUSAND|MARRATAN
1ED2F OTTOMAN SIYAQ ALTERNATE NUMBER |TWO|THREE|FOUR|FIVE|SIX|SEVEN|EIGHT
1ED36 OTTOMAN SIYAQ ALTERNATE NUMBER |NINE|TEN|FOUR HUNDRED|SIX HUNDRED|TWO THOUSAND|TEN THOUSAND
1ED3C OTTOMAN SIYAQ FRACTION ONE |HALF|SIXTH
1EE00 ARABIC MATHEMATICAL |ALEF|BEH|JEEM|DAL
1EE05 ARABIC MATHEMATICAL |WAW|ZAIN|HAH|TAH|YEH|KAF|LAM|MEEM
1EE0D ARABIC MATHEMATICAL |NOON|SEEN|AIN|FEH|SAD|QAF|REH|SHEEN|TEH|THEH|KHAH|THAL|DAD|ZAH|GHAIN
1EE1C ARABIC MATHEMATICAL DOTLESS |BEH|NOON|FEH|QAF
1EE21 ARABIC MATHEMATICAL INITIAL |BEH|JEEM
1EE24 |ARABIC MATHEMATICAL INITIAL HEH
1EE27 |ARABIC MATHEMATICAL INITIAL HAH
1EE29 ARABIC MATHEMATICAL INITIAL |YEH|KAF|LAM|MEEM|NOON|SEEN|AIN|FEH|SAD|QAF
1EE34 ARABIC MATHEMATICAL INITIAL |SHEEN|TEH|THEH|KHAH
1EE39 |ARABIC MATHEMATICAL INITIAL DAD
1EE3B |ARABIC MATHEMATICAL INITIAL GHAIN
1EE42 |ARABIC MATHEMATICAL TAILED JEEM
1EE47 |ARABIC MATHEMATICAL TAILED HAH
1EE49 |ARABIC MATHEMATICAL TAILED YEH
1EE4B |ARABIC MATHEMATICAL TAILED LAM
1EE4D ARABIC MATHEMATICAL TAILED |NOON|SEEN|AIN
1EE51 ARABIC MATHEMATICAL TAILED |SAD|QAF
1EE54 |ARABIC MATHEMATICAL TAILED SHEEN
1EE57 |ARABIC MATHEMATICAL TAILED KHAH
1EE59 |ARABIC MATHEMATICAL TAILED DAD
1EE5B |ARABIC MATHEMATICAL TAILED GHAIN
1EE5D |ARABIC MATHEMATICAL TAILED DOTLESS NOON
1EE5F |ARABIC MATHEMATICAL TAILED DOTLESS QAF
1EE61 ARABIC MATHEMATICAL STRETCHED |BEH|JEEM
1EE64 |ARABIC MATHEMATICAL STRETCHED HEH
1EE67 ARABIC MATHEMATICAL STRETCHED |HAH|TAH|YEH|KAF
1EE6C ARABIC MATHEMATICAL STRETCHED |MEEM|NOON|SEEN|AIN|FEH|SAD|QAF
1EE74 ARABIC MATHEMATICAL STRETCHED |SHEEN|TEH|THEH|KHAH
1EE79 ARABIC MATHEMATICAL STRETCHED |DAD|ZAH|GHAIN|DOTLESS BEH
1EE7E |ARABIC MATHEMATICAL STRETCHED DOTLESS FEH
1EE80 ARABIC MATHEMATICAL LOOPED |ALEF|BEH|JEEM|DAL|HEH|WAW|ZAIN|HAH|TAH|YEH
1EE8B ARABIC MATHEMATICAL LOOPED |LAM|MEEM|NOON
1EE8E ARABIC MATHEMATICAL LOOPED |SEEN|AIN|FEH|SAD|QAF|REH|SHEEN|TEH|THEH|KHAH|THAL|DAD|ZAH|GHAIN
1EEA1 ARABIC MATHEMATICAL DOUBLE-STRUCK |BEH|JEEM|DAL
1EEA5 ARABIC MATHEMATICAL DOUBLE-STRUCK |WAW|ZAIN|HAH|TAH|YEH
1EEAB ARABIC MATHEMATICAL DOUBLE-STRUCK |LAM|MEEM|NOON|SEEN|AIN
1EEB0 ARABIC MATHEMATICAL DOUBLE-STRUCK |FEH|SAD|QAF|REH|SHEEN|TEH|THEH|KHAH|THAL|DAD|ZAH|GHAIN
1EEF0 ARABIC MATHEMATICAL OPERATOR |MEEM WITH HAH WITH TATWEEL|HAH WITH DAL
1F000 MAHJONG TILE |EAST WIND|SOUTH WIND
1F002 MAHJONG TILE |WEST WIND|NORTH WIND|RED DRAGON|GREEN DRAGON|WHITE DRAGON|ONE OF CHARACTERS
1F008 MAHJONG TILE |TWO OF CHARACTERS|THREE OF CHARACTERS|FOUR OF CHARACTERS|FIVE OF CHARACTERS
1F00C MAHJONG TILE |SIX OF CHARACTERS|SEVEN OF CHARACTERS|EIGHT OF CHARACTERS|NINE OF CHARACTERS
1F010 MAHJONG TILE |ONE OF BAMBOOS|TWO OF BAMBOOS|THREE OF BAMBOOS|FOUR OF BAMBOOS|FIVE OF BAMBOOS
1F015 MAHJONG TILE |SIX OF BAMBOOS|SEVEN OF BAMBOOS|EIGHT OF BAMBOOS|NINE OF BAMBOOS
1F019 MAHJONG TILE |ONE OF CIRCLES|TWO OF CIRCLES|THREE OF CIRCLES|FOUR OF CIRCLES|FIVE OF CIRCLES
1F01E MAHJONG TILE |SIX OF CIRCLES|SEVEN OF CIRCLES|EIGHT OF CIRCLES|NINE OF CIRCLES
1F022 MAHJONG TILE |PLUM|ORCHID|BAMBOO|CHRYSANTHEMUM|SPRING|SUMMER|AUTUMN|WINTER|JOKER|BACK
1F030 |DOMINO TILE HORIZONTAL BACK
1F031 DOMINO TILE HORIZONTAL-00-|00|01|02|03|04|05|06
1F038 DOMINO TILE HORIZONTAL-01-|00|01|02|03|04|05|06
1F03F DOMINO TILE HORIZONTAL-02-|00|01|02|03|04|05|06
1F046 DOMINO TILE HORIZONTAL-03-|00|01|02|03|04|05|06
1F04D DOMINO TILE HORIZONTAL-04-|00|01|02|03|04|05|06
1F054 DOMINO TILE HORIZONTAL-05-|00|01|02|03|04|05|06
1F05B DOMINO TILE HORIZONTAL-06-|00|01|02|03|04|05|06
1F062 |DOMINO TILE VERTICAL BACK
1F063 DOMINO TILE VERTICAL-00-|00|01|02|03|04|05|06
1F06A DOMINO TILE VERTICAL-01-|00|01|02|03|04|05|06
1F071 DOMINO TILE VERTICAL-02-|00|01|02|03|04|05|06
1F078 DOMINO TILE VERTICAL-03-|00|01|02|03|04|05|06
1F07F DOMINO TILE VERTICAL-04-|00|01|02|03|04|05|06
1F086 DOMINO TILE VERTICAL-05-|00|01|02|03|04|05|06
1F08D DOMINO TILE VERTICAL-06-|00|01|02|03|04|05|06
1F0A0 PLAYING CARD |BACK|ACE OF SPADES|TWO OF SPADES|THREE OF SPADES|FOUR OF SPADES
1F0A5 PLAYING CARD |FIVE OF SPADES|SIX OF SPADES|SEVEN OF SPADES|EIGHT OF SPADES|NINE OF SPADES
1F0AA PLAYING CARD |TEN OF SPADES|JACK OF SPADES|KNIGHT OF SPADES|QUEEN OF SPADES|KING OF SPADES
1F0B1 PLAYING CARD |ACE OF HEARTS|TWO OF HEARTS|THREE OF HEARTS|FOUR OF HEARTS|FIVE OF HEARTS
1F0B6 PLAYING CARD |SIX OF HEARTS|SEVEN OF HEARTS|EIGHT OF HEARTS|NINE OF HEARTS|TEN OF HEARTS
1F0BB PLAYING CARD |JACK OF HEARTS|KNIGHT OF HEARTS|QUEEN OF HEARTS|KING OF HEARTS|RED JOKER
1F0C1 PLAYING CARD |ACE OF DIAMONDS|TWO OF DIAMONDS|THREE OF DIAMONDS
1F0C4 PLAYING CARD |FOUR OF DIAMONDS|FIVE OF DIAMONDS|SIX OF DIAMONDS|SEVEN OF DIAMONDS
1F0C8 PLAYING CARD |EIGHT OF DIAMONDS|NINE OF DIAMONDS|TEN OF DIAMONDS|JACK OF DIAMONDS
1F0CC PLAYING CARD |KNIGHT OF DIAMONDS|QUEEN OF DIAMONDS|KING OF DIAMONDS|BLACK JOKER
1F0D1 PLAYING CARD |ACE OF CLUBS|TWO OF CLUBS|THREE OF CLUBS|FOUR OF CLUBS|FIVE OF CLUBS
1F0D6 PLAYING CARD |SIX OF CLUBS|SEVEN OF CLUBS|EIGHT OF CLUBS|NINE OF CLUBS|TEN OF CLUBS
1F0DB PLAYING CARD |JACK OF CLUBS|KNIGHT OF CLUBS|QUEEN OF CLUBS|KING OF CLUBS|WHITE JOKER|FOOL
1F0E1 PLAYING CARD TRUMP-|1|2|3|4|5|6|7|8|9|10|11|12|13|14|15|16|17|18|19|20|21
1F100 DIGIT |ZERO FULL STOP|ZERO COMMA|ONE COMMA|TWO COMMA
1F104 DIGIT |THREE COMMA|FOUR COMMA|FIVE COMMA|SIX COMMA|SEVEN COMMA|EIGHT COMMA|NINE COMMA
1F10B DINGBAT |CIRCLED SANS-SERIF DIGIT ZERO|NEGATIVE CIRCLED SANS-SERIF DIGIT ZERO
1F10D CIRCLED |ZERO WITH SLASH|ANTICLOCKWISE ARROW|DOLLAR SIGN WITH OVERLAID BACKSLASH
1F110 PARENTHESIZED LATIN CAPITAL LETTER |A|B|C|D|E|F|G|H|I|J|K|L|M|N|O|P|Q|R|S|T|U|V|W|X|Y|Z
1F12A |TORTOISE SHELL BRACKETED LATIN CAPITAL LETTER S
1F12B CIRCLED ITALIC LATIN CAPITAL LETTER |C|R
1F12D |CIRCLED CD|CIRCLED WZ|COPYLEFT SYMBOL
1F130 SQUARED LATIN CAPITAL LETTER |A|B|C|D|E|F|G|H|I|J|K|L|M|N|O|P|Q|R|S|T|U|V|W|X|Y|Z
1F14A SQUARED |HV|MV|SD|SS|PPV|WC
1F150 NEGATIVE CIRCLED LATIN CAPITAL LETTER |A|B|C|D|E|F|G|H|I|J|K|L|M|N|O|P|Q|R|S|T|U|V|W|X|Y|Z
1F16A RAISED |MC SIGN|MD SIGN|MR SIGN
1F16D CIRCLED |CC|C WITH OVERLAID BACKSLASH|HUMAN FIGURE
1F170 NEGATIVE SQUARED LATIN CAPITAL LETTER |A|B|C|D|E|F|G|H|I|J|K|L|M|N|O|P|Q|R|S|T|U|V|W|X|Y|Z
1F18A |CROSSED NEGATIVE SQUARED LATIN CAPITAL LETTER P
1F18B NEGATIVE SQUARED |IC|PA|SA|AB|WC
1F190 |SQUARE DJ
1F191 SQUARED |CL|COOL|FREE|ID|NEW|NG|OK|SOS|UP WITH EXCLAMATION MARK|VS|THREE D|SECOND SCREEN
1F19D SQUARED |TWO K|FOUR K|EIGHT K|FIVE POINT ONE|SEVEN POINT ONE|TWENTY-TWO POINT TWO|SIXTY P
1F1A4 SQUARED |ONE HUNDRED TWENTY P|LATIN SMALL LETTER D|HC|HDR|HI-RES|LOSSLESS|SHV|UHD|VOD
1F1AD |MASK WORK SYMBOL
1F1E6 REGIONAL INDICATOR SYMBOL LETTER |A|B|C|D|E|F|G|H|I|J|K|L|M|N|O|P|Q|R|S|T|U|V|W|X|Y|Z
1F200 |SQUARE HIRAGANA HOKA
1F201 SQUARED KATAKANA |KOKO|SA
1F210 SQUARED CJK UNIFIED IDEOGRAPH-|624B|5B57|53CC
1F213 |SQUARED KATAKANA DE
1F214 SQUARED CJK UNIFIED IDEOGRAPH-|4E8C|591A|89E3|5929
1F218 SQUARED CJK UNIFIED IDEOGRAPH-|4EA4|6620|7121|6599|524D|5F8C|518D|65B0|521D|7D42|751F|8CA9
1F224 SQUARED CJK UNIFIED IDEOGRAPH-|58F0|5439|6F14|6295|6355|4E00|4E09|904A|5DE6|4E2D|53F3|6307
1F230 SQUARED CJK UNIFIED IDEOGRAPH-|8D70|6253|7981|7A7A|5408|6E80|6709|6708|7533|5272|55B6|914D
1F240 TORTOISE SHELL BRACKETED CJK UNIFIED IDEOGRAPH-|672C|4E09|4E8C|5B89|70B9|6253|76D7|52DD|6557
1F250 CIRCLED IDEOGRAPH |ADVANTAGE|ACCEPT
1F260 ROUNDED SYMBOL FOR |FU|LU|SHOU|XI|SHUANGXI|CAI
1F300 |CYCLONE
1F301 |FOGGY|CLOSED UMBRELLA|NIGHT WITH STARS|SUNRISE OVER MOUNTAINS|SUNRISE|CITYSCAPE AT DUSK
1F307 |SUNSET OVER BUILDINGS|RAINBOW|BRIDGE AT NIGHT|WATER WAVE|VOLCANO|MILKY WAY
1F30D EARTH GLOBE |EUROPE-AFRICA|AMERICAS|ASIA-AUSTRALIA
1F310 |GLOBE WITH MERIDIANS|NEW MOON SYMBOL|WAXING CRESCENT MOON SYMBOL|FIRST QUARTER MOON SYMBOL
1F314 |WAXING GIBBOUS MOON SYMBOL|FULL MOON SYMBOL|WANING GIBBOUS MOON SYMBOL
1F317 |LAST QUARTER MOON SYMBOL|WANING CRESCENT MOON SYMBOL|CRESCENT MOON|NEW MOON WITH FACE
1F31B |FIRST QUARTER MOON WITH FACE|LAST QUARTER MOON WITH FACE|FULL MOON WITH FACE
1F31E |SUN WITH FACE|GLOWING STAR|SHOOTING STAR|THERMOMETER|BLACK DROPLET|WHITE SUN
1F324 WHITE SUN |WITH SMALL CLOUD|BEHIND CLOUD|BEHIND CLOUD WITH RAIN
1F327 CLOUD WITH |RAIN|SNOW|LIGHTNING|TORNADO
1F32B |FOG|WIND BLOWING FACE|HOT DOG|TACO|BURRITO|CHESTNUT|SEEDLING|EVERGREEN TREE|DECIDUOUS TREE
1F334 |PALM TREE|CACTUS|HOT PEPPER|TULIP|CHERRY BLOSSOM|ROSE|HIBISCUS|SUNFLOWER|BLOSSOM
1F33D EAR OF |MAIZE|RICE
1F33F |HERB|FOUR LEAF CLOVER|MAPLE LEAF|FALLEN LEAF|LEAF FLUTTERING IN WIND
1F344 |MUSHROOM|TOMATO|AUBERGINE|GRAPES|MELON|WATERMELON|TANGERINE|LEMON|BANANA|PINEAPPLE
1F34E |RED APPLE|GREEN APPLE|PEAR|PEACH|CHERRIES|STRAWBERRY|HAMBURGER|SLICE OF PIZZA|MEAT ON BONE
1F357 |POULTRY LEG|RICE CRACKER|RICE BALL|COOKED RICE|CURRY AND RICE|STEAMING BOWL|SPAGHETTI|BREAD
1F35F |FRENCH FRIES|ROASTED SWEET POTATO|DANGO|ODEN|SUSHI|FRIED SHRIMP|FISH CAKE WITH SWIRL DESIGN
1F366 |SOFT ICE CREAM|SHAVED ICE|ICE CREAM|DOUGHNUT|COOKIE|CHOCOLATE BAR
1F36C |CANDY|LOLLIPOP|CUSTARD|HONEY POT|SHORTCAKE|BENTO BOX|POT OF FOOD|COOKING|FORK AND KNIFE
1F375 |TEACUP WITHOUT HANDLE|SAKE BOTTLE AND CUP|WINE GLASS|COCKTAIL GLASS|TROPICAL DRINK
1F37A |BEER MUG|CLINKING BEER MUGS|BABY BOTTLE|FORK AND KNIFE WITH PLATE|BOTTLE WITH POPPING CORK
1F37F |POPCORN|RIBBON|WRAPPED PRESENT|BIRTHDAY CAKE|JACK-O-LANTERN|CHRISTMAS TREE|FATHER CHRISTMAS
1F386 |FIREWORKS|FIREWORK SPARKLER|BALLOON|PARTY POPPER|CONFETTI BALL|TANABATA TREE
1F38C |CROSSED FLAGS|PINE DECORATION|JAPANESE DOLLS|CARP STREAMER|WIND CHIME|MOON VIEWING CEREMONY
1F392 |SCHOOL SATCHEL|GRADUATION CAP|HEART WITH TIP ON THE LEFT|BOUQUET OF FLOWERS|MILITARY MEDAL
1F397 |REMINDER RIBBON|MUSICAL KEYBOARD WITH JACKS|STUDIO MICROPHONE|LEVEL SLIDER|CONTROL KNOBS
1F39C BEAMED |ASCENDING MUSICAL NOTES|DESCENDING MUSICAL NOTES
1F39E |FILM FRAMES|ADMISSION TICKETS|CAROUSEL HORSE|FERRIS WHEEL|ROLLER COASTER
1F3A3 |FISHING POLE AND FISH|MICROPHONE|MOVIE CAMERA|CINEMA|HEADPHONE|ARTIST PALETTE
1F3A9 |TOP HAT|CIRCUS TENT|TICKET|CLAPPER BOARD|PERFORMING ARTS|VIDEO GAME|DIRECT HIT|SLOT MACHINE
1F3B1 |BILLIARDS|GAME DIE|BOWLING|FLOWER PLAYING CARDS|MUSICAL NOTE|MULTIPLE MUSICAL NOTES
1F3B7 |SAXOPHONE|GUITAR|MUSICAL KEYBOARD|TRUMPET|VIOLIN|MUSICAL SCORE|RUNNING SHIRT WITH SASH
1F3BE |TENNIS RACQUET AND BALL|SKI AND SKI BOOT|BASKETBALL AND HOOP|CHEQUERED FLAG
1F3C2 |SNOWBOARDER|RUNNER|SURFER|SPORTS MEDAL|TROPHY|HORSE RACING|AMERICAN FOOTBALL|RUGBY FOOTBALL
1F3CA |SWIMMER|WEIGHT LIFTER|GOLFER|RACING MOTORCYCLE|RACING CAR|CRICKET BAT AND BALL|VOLLEYBALL
1F3D1 |FIELD HOCKEY STICK AND BALL|ICE HOCKEY STICK AND PUCK|TABLE TENNIS PADDLE AND BALL
1F3D4 |SNOW CAPPED MOUNTAIN|CAMPING|BEACH WITH UMBRELLA|BUILDING CONSTRUCTION
1F3D8 |HOUSE BUILDINGS|CITYSCAPE|DERELICT HOUSE BUILDING|CLASSICAL BUILDING|DESERT|DESERT ISLAND
1F3DE |NATIONAL PARK|STADIUM|HOUSE BUILDING|HOUSE WITH GARDEN|OFFICE BUILDING|JAPANESE POST OFFICE
1F3E4 |EUROPEAN POST OFFICE|HOSPITAL|BANK|AUTOMATED TELLER MACHINE|HOTEL|LOVE HOTEL
1F3EA |CONVENIENCE STORE|SCHOOL|DEPARTMENT STORE|FACTORY|IZAKAYA LANTERN|JAPANESE CASTLE
1F3F0 |EUROPEAN CASTLE|WHITE PENNANT|BLACK PENNANT|WAVING WHITE FLAG|WAVING BLACK FLAG
1F3F5 |ROSETTE|BLACK ROSETTE|LABEL|BADMINTON RACQUET AND SHUTTLECOCK|BOW AND ARROW|AMPHORA
1F3FB EMOJI MODIFIER FITZPATRICK TYPE-|1-2|3|4|5|6
1F400 |RAT|MOUSE|OX|WATER BUFFALO|COW|TIGER|LEOPARD
1F407 |RABBIT|CAT|DRAGON|CROCODILE|WHALE|SNAIL|SNAKE|HORSE|RAM|GOAT|SHEEP|MONKEY|ROOSTER|CHICKEN
1F415 |DOG|PIG|BOAR|ELEPHANT|OCTOPUS|SPIRAL SHELL|BUG|ANT|HONEYBEE|LADY BEETLE|FISH|TROPICAL FISH
1F421 |BLOWFISH|TURTLE|HATCHING CHICK|BABY CHICK|FRONT-FACING BABY CHICK|BIRD|PENGUIN|KOALA|POODLE
1F42A |DROMEDARY CAMEL|BACTRIAN CAMEL|DOLPHIN|MOUSE FACE|COW FACE|TIGER FACE|RABBIT FACE|CAT FACE
1F432 |DRAGON FACE|SPOUTING WHALE|HORSE FACE|MONKEY FACE|DOG FACE|PIG FACE|FROG FACE|HAMSTER FACE
1F43A |WOLF FACE|BEAR FACE|PANDA FACE|PIG NOSE|PAW PRINTS|CHIPMUNK|EYES|EYE|EAR|NOSE|MOUTH|TONGUE
1F446 WHITE |UP POINTING BACKHAND INDEX|DOWN POINTING BACKHAND INDEX|LEFT POINTING BACKHAND INDEX
1F449 |WHITE RIGHT POINTING BACKHAND INDEX|FISTED HAND SIGN|WAVING HAND SIGN|OK HAND SIGN
1F44D THUMBS |UP SIGN|DOWN SIGN
1F44F |CLAPPING HANDS SIGN|OPEN HANDS SIGN|CROWN|WOMANS HAT|EYEGLASSES|NECKTIE|T-SHIRT|JEANS|DRESS
1F458 |KIMONO|BIKINI|WOMANS CLOTHES|PURSE|HANDBAG|POUCH|MANS SHOE|ATHLETIC SHOE|HIGH-HEELED SHOE
1F461 |WOMANS SANDAL|WOMANS BOOTS|FOOTPRINTS|BUST IN SILHOUETTE|BUSTS IN SILHOUETTE|BOY|GIRL
1F468 |MAN|WOMAN|FAMILY|MAN AND WOMAN HOLDING HANDS|TWO MEN HOLDING HANDS|TWO WOMEN HOLDING HANDS
1F46E |POLICE OFFICER|WOMAN WITH BUNNY EARS|BRIDE WITH VEIL|PERSON WITH BLOND HAIR
1F472 MAN WITH |GUA PI MAO|TURBAN
1F474 |OLDER MAN|OLDER WOMAN|BABY|CONSTRUCTION WORKER|PRINCESS
1F479 JAPANESE |OGRE|GOBLIN
1F47B |GHOST|BABY ANGEL|EXTRATERRESTRIAL ALIEN|ALIEN MONSTER|IMP|SKULL|INFORMATION DESK PERSON
1F482 |GUARDSMAN|DANCER|LIPSTICK|NAIL POLISH|FACE MASSAGE|HAIRCUT|BARBER POLE
1F489 |SYRINGE|PILL|KISS MARK|LOVE LETTER|RING|GEM STONE|KISS|BOUQUET|COUPLE WITH HEART|WEDDING
1F493 |BEATING HEART|BROKEN HEART|TWO HEARTS|SPARKLING HEART|GROWING HEART|HEART WITH ARROW
1F499 |BLUE HEART|GREEN HEART|YELLOW HEART|PURPLE HEART|HEART WITH RIBBON|REVOLVING HEARTS
1F49F |HEART DECORATION|DIAMOND SHAPE WITH A DOT INSIDE|ELECTRIC LIGHT BULB|ANGER SYMBOL
1F4A3 |BOMB|SLEEPING SYMBOL|COLLISION SYMBOL|SPLASHING SWEAT SYMBOL|DROPLET|DASH SYMBOL
1F4A9 |PILE OF POO|FLEXED BICEPS|DIZZY SYMBOL|SPEECH BALLOON|THOUGHT BALLOON|WHITE FLOWER
1F4AF |HUNDRED POINTS SYMBOL|MONEY BAG|CURRENCY EXCHANGE|HEAVY DOLLAR SIGN|CREDIT CARD
1F4B4 BANKNOTE WITH |YEN SIGN|DOLLAR SIGN|EURO SIGN|POUND SIGN
1F4B8 |MONEY WITH WINGS|CHART WITH UPWARDS TREND AND YEN SIGN
1F4BA |SEAT|PERSONAL COMPUTER|BRIEFCASE|MINIDISC|FLOPPY DISK|OPTICAL DISC|DVD|FILE FOLDER
1F4C2 |OPEN FILE FOLDER|PAGE WITH CURL|PAGE FACING UP|CALENDAR|TEAR-OFF CALENDAR|CARD INDEX
1F4C8 CHART WITH |UPWARDS TREND|DOWNWARDS TREND
1F4CA |BAR CHART|CLIPBOARD|PUSHPIN|ROUND PUSHPIN|PAPERCLIP|STRAIGHT RULER|TRIANGULAR RULER
1F4D1 |BOOKMARK TABS|LEDGER|NOTEBOOK|NOTEBOOK WITH DECORATIVE COVER|CLOSED BOOK|OPEN BOOK
1F4D7 |GREEN BOOK|BLUE BOOK|ORANGE BOOK|BOOKS|NAME BADGE|SCROLL|MEMO|TELEPHONE RECEIVER|PAGER
1F4E0 |FAX MACHINE|SATELLITE ANTENNA|PUBLIC ADDRESS LOUDSPEAKER|CHEERING MEGAPHONE|OUTBOX TRAY
1F4E5 |INBOX TRAY|PACKAGE|E-MAIL SYMBOL|INCOMING ENVELOPE|ENVELOPE WITH DOWNWARDS ARROW ABOVE
1F4EA CLOSED MAILBOX WITH |LOWERED FLAG|RAISED FLAG
1F4EC OPEN MAILBOX WITH |RAISED FLAG|LOWERED FLAG
1F4EE |POSTBOX|POSTAL HORN|NEWSPAPER
1F4F1 |MOBILE PHONE|MOBILE PHONE WITH RIGHTWARDS ARROW AT LEFT|VIBRATION MODE|MOBILE PHONE OFF
1F4F5 |NO MOBILE PHONES|ANTENNA WITH BARS|CAMERA|CAMERA WITH FLASH|VIDEO CAMERA|TELEVISION
1F4FB |RADIO|VIDEOCASSETTE|FILM PROJECTOR|PORTABLE STEREO|PRAYER BEADS|TWISTED RIGHTWARDS ARROWS
1F501 CLOCKWISE RIGHTWARDS AND LEFTWARDS OPEN CIRCLE |ARROWS|ARROWS WITH CIRCLED ONE OVERLAY
1F503 |CLOCKWISE DOWNWARDS AND UPWARDS OPEN CIRCLE ARROWS
1F504 |ANTICLOCKWISE DOWNWARDS AND UPWARDS OPEN CIRCLE ARROWS
1F505 |LOW BRIGHTNESS SYMBOL|HIGH BRIGHTNESS SYMBOL|SPEAKER WITH CANCELLATION STROKE|SPEAKER
1F509 SPEAKER WITH |ONE SOUND WAVE|THREE SOUND WAVES
1F50B |BATTERY|ELECTRIC PLUG
1F50D |LEFT-POINTING MAGNIFYING GLASS|RIGHT-POINTING MAGNIFYING GLASS|LOCK WITH INK PEN
1F510 |CLOSED LOCK WITH KEY|KEY|LOCK|OPEN LOCK|BELL|BELL WITH CANCELLATION STROKE|BOOKMARK
1F517 |LINK SYMBOL|RADIO BUTTON|BACK WITH LEFTWARDS ARROW ABOVE|END WITH LEFTWARDS ARROW ABOVE
1F51B |ON WITH EXCLAMATION MARK WITH LEFT RIGHT ARROW ABOVE|SOON WITH RIGHTWARDS ARROW ABOVE
1F51D |TOP WITH UPWARDS ARROW ABOVE|NO ONE UNDER EIGHTEEN SYMBOL|KEYCAP TEN
1F520 INPUT SYMBOL FOR |LATIN CAPITAL LETTERS|LATIN SMALL LETTERS|NUMBERS|SYMBOLS|LATIN LETTERS
1F525 |FIRE|ELECTRIC TORCH|WRENCH|HAMMER|NUT AND BOLT
1F52A |HOCHO|PISTOL|MICROSCOPE|TELESCOPE|CRYSTAL BALL|SIX POINTED STAR WITH MIDDLE DOT
1F530 |JAPANESE SYMBOL FOR BEGINNER|TRIDENT EMBLEM|BLACK SQUARE BUTTON|WHITE SQUARE BUTTON
1F534 LARGE |RED CIRCLE|BLUE CIRCLE|ORANGE DIAMOND|BLUE DIAMOND
1F538 |SMALL ORANGE DIAMOND|SMALL BLUE DIAMOND|UP-POINTING RED TRIANGLE
1F53B |DOWN-POINTING RED TRIANGLE|UP-POINTING SMALL RED TRIANGLE|DOWN-POINTING SMALL RED TRIANGLE
1F53E |LOWER RIGHT SHADOWED WHITE CIRCLE|UPPER RIGHT SHADOWED WHITE CIRCLE|CIRCLED CROSS POMMEE
1F541 CROSS |POMMEE WITH HALF-CIRCLE BELOW|POMMEE
1F543 NOTCHED |LEFT SEMICIRCLE WITH THREE DOTS|RIGHT SEMICIRCLE WITH THREE DOTS
1F545 |SYMBOL FOR MARKS CHAPTER|WHITE LATIN CROSS|HEAVY LATIN CROSS|CELTIC CROSS
1F549 |OM SYMBOL|DOVE OF PEACE|KAABA|MOSQUE|SYNAGOGUE|MENORAH WITH NINE BRANCHES|BOWL OF HYGIEIA
1F550 CLOCK FACE |ONE OCLOCK|TWO OCLOCK|THREE OCLOCK|FOUR OCLOCK|FIVE OCLOCK|SIX OCLOCK
1F556 CLOCK FACE |SEVEN OCLOCK|EIGHT OCLOCK|NINE OCLOCK|TEN OCLOCK|ELEVEN OCLOCK|TWELVE OCLOCK
1F55C CLOCK FACE |ONE-THIRTY|TWO-THIRTY|THREE-THIRTY|FOUR-THIRTY|FIVE-THIRTY|SIX-THIRTY
1F562 CLOCK FACE |SEVEN-THIRTY|EIGHT-THIRTY|NINE-THIRTY|TEN-THIRTY|ELEVEN-THIRTY|TWELVE-THIRTY
1F568 RIGHT |SPEAKER|SPEAKER WITH ONE SOUND WAVE|SPEAKER WITH THREE SOUND WAVES
1F56B |BULLHORN|BULLHORN WITH SOUND WAVES|RINGING BELL|BOOK|CANDLE
1F570 |MANTELPIECE CLOCK|BLACK SKULL AND CROSSBONES|NO PIRACY|HOLE|MAN IN BUSINESS SUIT LEVITATING
1F575 |SLEUTH OR SPY|DARK SUNGLASSES|SPIDER|SPIDER WEB|JOYSTICK|MAN DANCING
1F57B |LEFT HAND TELEPHONE RECEIVER|TELEPHONE RECEIVER WITH PAGE|RIGHT HAND TELEPHONE RECEIVER
1F57E |WHITE TOUCHTONE TELEPHONE|BLACK TOUCHTONE TELEPHONE|TELEPHONE ON TOP OF MODEM
1F581 |CLAMSHELL MOBILE PHONE|BACK OF ENVELOPE|STAMPED ENVELOPE|ENVELOPE WITH LIGHTNING
1F585 |FLYING ENVELOPE|PEN OVER STAMPED ENVELOPE|LINKED PAPERCLIPS|BLACK PUSHPIN
1F589 LOWER LEFT |PENCIL|BALLPOINT PEN|FOUNTAIN PEN|PAINTBRUSH|CRAYON
1F58E |LEFT WRITING HAND|TURNED OK HAND SIGN
1F590 |RAISED HAND WITH FINGERS SPLAYED|REVERSED RAISED HAND WITH FINGERS SPLAYED
1F592 REVERSED |THUMBS UP SIGN|THUMBS DOWN SIGN|VICTORY HAND|HAND WITH MIDDLE FINGER EXTENDED
1F596 |RAISED HAND WITH PART BETWEEN MIDDLE AND RING FINGERS|WHITE DOWN POINTING LEFT HAND INDEX
1F598 SIDEWAYS WHITE |LEFT POINTING INDEX|RIGHT POINTING INDEX
1F59A SIDEWAYS BLACK |LEFT POINTING INDEX|RIGHT POINTING INDEX
1F59C BLACK |LEFT POINTING BACKHAND INDEX|RIGHT POINTING BACKHAND INDEX
1F59E SIDEWAYS WHITE |UP POINTING INDEX|DOWN POINTING INDEX
1F5A0 SIDEWAYS BLACK |UP POINTING INDEX|DOWN POINTING INDEX
1F5A2 BLACK |UP POINTING BACKHAND INDEX|DOWN POINTING BACKHAND INDEX|HEART
1F5A5 |DESKTOP COMPUTER|KEYBOARD AND MOUSE|THREE NETWORKED COMPUTERS|PRINTER|POCKET CALCULATOR
1F5AA |BLACK HARD SHELL FLOPPY DISK|WHITE HARD SHELL FLOPPY DISK|SOFT SHELL FLOPPY DISK
1F5AD |TAPE CARTRIDGE|WIRED KEYBOARD|ONE BUTTON MOUSE|TWO BUTTON MOUSE|THREE BUTTON MOUSE
1F5B2 |TRACKBALL|OLD PERSONAL COMPUTER|HARD DISK|SCREEN|PRINTER ICON|FAX ICON|OPTICAL DISC ICON
1F5B9 DOCUMENT WITH |TEXT|TEXT AND PICTURE|PICTURE
1F5BC FRAME WITH |PICTURE|TILES|AN X
1F5BF |BLACK FOLDER|FOLDER|OPEN FOLDER|CARD INDEX DIVIDERS|CARD FILE BOX|FILE CABINET
1F5C5 EMPTY |NOTE|NOTE PAGE|NOTE PAD
1F5C8 |NOTE|NOTE PAGE|NOTE PAD
1F5CB EMPTY |DOCUMENT|PAGE|PAGES
1F5CE |DOCUMENT|PAGE|PAGES|WASTEBASKET|SPIRAL NOTE PAD|SPIRAL CALENDAR PAD|DESKTOP WINDOW
1F5D5 |MINIMIZE|MAXIMIZE|OVERLAP|CLOCKWISE RIGHT AND LEFT SEMICIRCLE ARROWS|CANCELLATION X
1F5DA |INCREASE FONT SIZE SYMBOL|DECREASE FONT SIZE SYMBOL|COMPRESSION|OLD KEY|ROLLED-UP NEWSPAPER
1F5DF |PAGE WITH CIRCLED TEXT|STOCK CHART|DAGGER KNIFE|LIPS|SPEAKING HEAD IN SILHOUETTE
1F5E4 THREE RAYS |ABOVE|BELOW|LEFT|RIGHT
1F5E8 |LEFT SPEECH BUBBLE|RIGHT SPEECH BUBBLE|TWO SPEECH BUBBLES|THREE SPEECH BUBBLES
1F5EC |LEFT THOUGHT BUBBLE|RIGHT THOUGHT BUBBLE|LEFT ANGER BUBBLE|RIGHT ANGER BUBBLE|MOOD BUBBLE
1F5F1 LIGHTNING |MOOD BUBBLE|MOOD
1F5F3 BALLOT |BOX WITH BALLOT|SCRIPT X|BOX WITH SCRIPT X|BOLD SCRIPT X|BOX WITH BOLD SCRIPT X
1F5F8 |LIGHT CHECK MARK|BALLOT BOX WITH BOLD CHECK
1F5FA |WORLD MAP|MOUNT FUJI|TOKYO TOWER|STATUE OF LIBERTY|SILHOUETTE OF JAPAN|MOYAI
1F600 GRINNING |FACE|FACE WITH SMILING EYES
1F602 |FACE WITH TEARS OF JOY|SMILING FACE WITH OPEN MOUTH
1F604 SMILING FACE WITH OPEN MOUTH AND |SMILING EYES|COLD SWEAT|TIGHTLY-CLOSED EYES
1F607 SMILING FACE WITH |HALO|HORNS
1F609 |WINKING FACE|SMILING FACE WITH SMILING EYES|FACE SAVOURING DELICIOUS FOOD|RELIEVED FACE
1F60D SMILING FACE WITH |HEART-SHAPED EYES|SUNGLASSES
1F60F |SMIRKING FACE|NEUTRAL FACE|EXPRESSIONLESS FACE|UNAMUSED FACE|FACE WITH COLD SWEAT
1F614 |PENSIVE FACE|CONFUSED FACE|CONFOUNDED FACE|KISSING FACE|FACE THROWING A KISS
1F619 KISSING FACE WITH |SMILING EYES|CLOSED EYES
1F61B FACE WITH STUCK-OUT |TONGUE|TONGUE AND WINKING EYE|TONGUE AND TIGHTLY-CLOSED EYES
1F61E |DISAPPOINTED FACE|WORRIED FACE|ANGRY FACE|POUTING FACE
1F622 |CRYING FACE|PERSEVERING FACE|FACE WITH LOOK OF TRIUMPH|DISAPPOINTED BUT RELIEVED FACE
1F626 |FROWNING FACE WITH OPEN MOUTH|ANGUISHED FACE|FEARFUL FACE|WEARY FACE
1F62A |SLEEPY FACE|TIRED FACE|GRIMACING FACE|LOUDLY CRYING FACE|FACE WITH OPEN MOUTH|HUSHED FACE
1F630 FACE |WITH OPEN MOUTH AND COLD SWEAT|SCREAMING IN FEAR
1F632 |ASTONISHED FACE|FLUSHED FACE|SLEEPING FACE|DIZZY FACE|FACE WITHOUT MOUTH
1F637 |FACE WITH MEDICAL MASK|GRINNING CAT FACE WITH SMILING EYES|CAT FACE WITH TEARS OF JOY
1F63A SMILING CAT FACE WITH |OPEN MOUTH|HEART-SHAPED EYES
1F63C |CAT FACE WITH WRY SMILE|KISSING CAT FACE WITH CLOSED EYES|POUTING CAT FACE|CRYING CAT FACE
1F640 |WEARY CAT FACE|SLIGHTLY FROWNING FACE|SLIGHTLY SMILING FACE|UPSIDE-DOWN FACE
1F644 FACE WITH |ROLLING EYES|NO GOOD GESTURE|OK GESTURE
1F647 |PERSON BOWING DEEPLY
1F648 |SEE-NO-EVIL MONKEY|HEAR-NO-EVIL MONKEY|SPEAK-NO-EVIL MONKEY|HAPPY PERSON RAISING ONE HAND
1F64C PERSON |RAISING BOTH HANDS IN CELEBRATION|FROWNING|WITH POUTING FACE|WITH FOLDED HANDS
1F650 |NORTH WEST POINTING LEAF|SOUTH WEST POINTING LEAF
1F652 |NORTH EAST POINTING LEAF|SOUTH EAST POINTING LEAF|TURNED NORTH WEST POINTING LEAF
1F655 TURNED |SOUTH WEST POINTING LEAF|NORTH EAST POINTING LEAF|SOUTH EAST POINTING LEAF
1F658 |NORTH WEST POINTING VINE LEAF|SOUTH WEST POINTING VINE LEAF|NORTH EAST POINTING VINE LEAF
1F65B |SOUTH EAST POINTING VINE LEAF|HEAVY NORTH WEST POINTING VINE LEAF
1F65D HEAVY |SOUTH WEST POINTING VINE LEAF|NORTH EAST POINTING VINE LEAF
1F65F |HEAVY SOUTH EAST POINTING VINE LEAF|NORTH WEST POINTING BUD|SOUTH WEST POINTING BUD
1F662 |NORTH EAST POINTING BUD|SOUTH EAST POINTING BUD|HEAVY NORTH WEST POINTING BUD
1F665 HEAVY |SOUTH WEST POINTING BUD|NORTH EAST POINTING BUD|SOUTH EAST POINTING BUD
1F668 HOLLOW QUILT SQUARE |ORNAMENT|ORNAMENT IN BLACK SQUARE
1F66A SOLID QUILT SQUARE |ORNAMENT|ORNAMENT IN BLACK SQUARE
1F66C |LEFTWARDS ROCKET|UPWARDS ROCKET|RIGHTWARDS ROCKET|DOWNWARDS ROCKET
1F670 |SCRIPT LIGATURE ET ORNAMENT|HEAVY SCRIPT LIGATURE ET ORNAMENT|LIGATURE OPEN ET ORNAMENT
1F673 |HEAVY LIGATURE OPEN ET ORNAMENT|HEAVY AMPERSAND ORNAMENT|SWASH AMPERSAND ORNAMENT
1F676 SANS-SERIF HEAVY DOUBLE |TURNED COMMA QUOTATION MARK ORNAMENT|COMMA QUOTATION MARK ORNAMENT
1F678 |SANS-SERIF HEAVY LOW DOUBLE COMMA QUOTATION MARK ORNAMENT|HEAVY INTERROBANG ORNAMENT
1F67A |SANS-SERIF INTERROBANG ORNAMENT|HEAVY SANS-SERIF INTERROBANG ORNAMENT
1F67C VERY HEAVY |SOLIDUS|REVERSE SOLIDUS
1F67E |CHECKER BOARD|REVERSE CHECKER BOARD|ROCKET|HELICOPTER|STEAM LOCOMOTIVE|RAILWAY CAR
1F684 HIGH-SPEED |TRAIN|TRAIN WITH BULLET NOSE
1F686 |TRAIN|METRO|LIGHT RAIL|STATION|TRAM|TRAM CAR|BUS|ONCOMING BUS|TROLLEYBUS
1F68F |BUS STOP|MINIBUS|AMBULANCE|FIRE ENGINE|POLICE CAR|ONCOMING POLICE CAR|TAXI|ONCOMING TAXI
1F697 |AUTOMOBILE|ONCOMING AUTOMOBILE|RECREATIONAL VEHICLE|DELIVERY TRUCK|ARTICULATED LORRY
1F69C |TRACTOR|MONORAIL|MOUNTAIN RAILWAY|SUSPENSION RAILWAY|MOUNTAIN CABLEWAY|AERIAL TRAMWAY
1F6A2 |SHIP|ROWBOAT|SPEEDBOAT|HORIZONTAL TRAFFIC LIGHT|VERTICAL TRAFFIC LIGHT|CONSTRUCTION SIGN
1F6A8 |POLICE CARS REVOLVING LIGHT|TRIANGULAR FLAG ON POST|DOOR|NO ENTRY SIGN|SMOKING SYMBOL
1F6AD |NO SMOKING SYMBOL|PUT LITTER IN ITS PLACE SYMBOL|DO NOT LITTER SYMBOL|POTABLE WATER SYMBOL
1F6B1 |NON-POTABLE WATER SYMBOL|BICYCLE|NO BICYCLES|BICYCLIST|MOUNTAIN BICYCLIST
1F6B6 |PEDESTRIAN|NO PEDESTRIANS|CHILDREN CROSSING|MENS SYMBOL|WOMENS SYMBOL|RESTROOM
1F6BC |BABY SYMBOL|TOILET|WATER CLOSET|SHOWER|BATH|BATHTUB|PASSPORT CONTROL|CUSTOMS|BAGGAGE CLAIM
1F6C5 |LEFT LUGGAGE|TRIANGLE WITH ROUNDED CORNERS|PROHIBITED SIGN|CIRCLED INFORMATION SOURCE
1F6C9 |BOYS SYMBOL|GIRLS SYMBOL|COUCH AND LAMP|SLEEPING ACCOMMODATION|SHOPPING BAGS|BELLHOP BELL
1F6CF |BED|PLACE OF WORSHIP|OCTAGONAL SIGN|SHOPPING TROLLEY|STUPA|PAGODA|HINDU TEMPLE|HUT|ELEVATOR
1F6DC |WIRELESS|PLAYGROUND SLIDE
1F6DE |WHEEL|RING BUOY|HAMMER AND WRENCH|SHIELD|OIL DRUM|MOTORWAY|RAILWAY TRACK|MOTOR BOAT
1F6E6 UP-POINTING |MILITARY AIRPLANE|AIRPLANE|SMALL AIRPLANE
1F6E9 |SMALL AIRPLANE|NORTHEAST-POINTING AIRPLANE
1F6EB AIRPLANE |DEPARTURE|ARRIVING
1F6F0 |SATELLITE|ONCOMING FIRE ENGINE|DIESEL LOCOMOTIVE|PASSENGER SHIP|SCOOTER
1F6F5 |MOTOR SCOOTER|CANOE|SLED|FLYING SAUCER|SKATEBOARD|AUTO RICKSHAW|PICKUP TRUCK|ROLLER SKATE
1F700 ALCHEMICAL SYMBOL FOR |QUINTESSENCE|AIR|FIRE|EARTH|WATER|AQUAFORTIS
1F706 ALCHEMICAL SYMBOL FOR AQUA |REGIA|REGIA-2|VITAE|VITAE-2
1F70A ALCHEMICAL SYMBOL FOR |VINEGAR|VINEGAR-2|VINEGAR-3|SULFUR|PHILOSOPHERS SULFUR|BLACK SULFUR
1F710 ALCHEMICAL SYMBOL FOR MERCURY |SUBLIMATE|SUBLIMATE-2|SUBLIMATE-3
1F713 ALCHEMICAL SYMBOL FOR |CINNABAR|SALT|NITRE|VITRIOL|VITRIOL-2|ROCK SALT|ROCK SALT-2
1F71A ALCHEMICAL SYMBOL FOR |GOLD|SILVER|IRON ORE|IRON ORE-2|CROCUS OF IRON|REGULUS OF IRON
1F720 ALCHEMICAL SYMBOL FOR |COPPER ORE|IRON-COPPER ORE|SUBLIMATE OF COPPER|CROCUS OF COPPER
1F724 ALCHEMICAL SYMBOL FOR |CROCUS OF COPPER-2|COPPER ANTIMONIATE|SALT OF COPPER ANTIMONIATE
1F727 ALCHEMICAL SYMBOL FOR |SUBLIMATE OF SALT OF COPPER|VERDIGRIS|TIN ORE|LEAD ORE|ANTIMONY ORE
1F72C ALCHEMICAL SYMBOL FOR |SUBLIMATE OF ANTIMONY|SALT OF ANTIMONY|SUBLIMATE OF SALT OF ANTIMONY
1F72F ALCHEMICAL SYMBOL FOR |VINEGAR OF ANTIMONY|REGULUS OF ANTIMONY|REGULUS OF ANTIMONY-2|REGULUS
1F733 ALCHEMICAL SYMBOL FOR REGULUS-|2|3|4
1F736 ALCHEMICAL SYMBOL FOR |ALKALI|ALKALI-2|MARCASITE|SAL-AMMONIAC|ARSENIC
1F73B ALCHEMICAL SYMBOL FOR |REALGAR|REALGAR-2|AURIPIGMENT|BISMUTH ORE|TARTAR|TARTAR-2|QUICK LIME
1F742 ALCHEMICAL SYMBOL FOR |BORAX|BORAX-2|BORAX-3|ALUM|OIL|SPIRIT|TINCTURE|GUM|WAX|POWDER|CALX
1F74D ALCHEMICAL SYMBOL FOR |TUTTY|CAPUT MORTUUM|SCEPTER OF JOVE|CADUCEUS|TRIDENT|STARRED TRIDENT
1F753 ALCHEMICAL SYMBOL FOR |LODESTONE|SOAP|URINE|HORSE DUNG|ASHES|POT ASHES|BRICK|POWDERED BRICK
1F75B ALCHEMICAL SYMBOL FOR |AMALGAM|STRATUM SUPER STRATUM|STRATUM SUPER STRATUM-2|SUBLIMATION
1F75F ALCHEMICAL SYMBOL FOR |PRECIPITATE|DISTILL|DISSOLVE|DISSOLVE-2|PURIFY|PUTREFACTION|CRUCIBLE
1F766 ALCHEMICAL SYMBOL FOR CRUCIBLE-|2|3|4|5
1F76A ALCHEMICAL SYMBOL FOR |ALEMBIC|BATH OF MARY|BATH OF VAPOURS
1F76D ALCHEMICAL SYMBOL FOR |RETORT|HOUR|NIGHT|DAY-NIGHT|MONTH|HALF DRAM|HALF OUNCE
1F774 |LOT OF FORTUNE|OCCULTATION|LUNAR ECLIPSE
1F77B |HAUMEA|MAKEMAKE|GONGGONG|QUAOAR|ORCUS|BLACK LEFT-POINTING ISOSCELES RIGHT TRIANGLE
1F781 BLACK |UP-POINTING ISOSCELES RIGHT TRIANGLE|RIGHT-POINTING ISOSCELES RIGHT TRIANGLE
1F783 BLACK |DOWN-POINTING ISOSCELES RIGHT TRIANGLE|SLIGHTLY SMALL CIRCLE
1F785 |MEDIUM BOLD WHITE CIRCLE|BOLD WHITE CIRCLE|HEAVY WHITE CIRCLE|VERY HEAVY WHITE CIRCLE
1F789 |EXTREMELY HEAVY WHITE CIRCLE|WHITE CIRCLE CONTAINING BLACK SMALL CIRCLE|ROUND TARGET
1F78C |BLACK TINY SQUARE|BLACK SLIGHTLY SMALL SQUARE|LIGHT WHITE SQUARE|MEDIUM WHITE SQUARE
1F790 |BOLD WHITE SQUARE|HEAVY WHITE SQUARE|VERY HEAVY WHITE SQUARE|EXTREMELY HEAVY WHITE SQUARE
1F794 WHITE SQUARE CONTAINING BLACK |VERY SMALL SQUARE|MEDIUM SQUARE
1F796 |SQUARE TARGET
1F797 BLACK |TINY DIAMOND|VERY SMALL DIAMOND|MEDIUM SMALL DIAMOND
1F79A WHITE DIAMOND CONTAINING BLACK |VERY SMALL DIAMOND|MEDIUM DIAMOND
1F79C |DIAMOND TARGET
1F79D BLACK |TINY LOZENGE|VERY SMALL LOZENGE|MEDIUM SMALL LOZENGE
1F7A0 |WHITE LOZENGE CONTAINING BLACK SMALL LOZENGE
1F7A1 |THIN GREEK CROSS|LIGHT GREEK CROSS|MEDIUM GREEK CROSS
1F7A4 |BOLD GREEK CROSS|VERY BOLD GREEK CROSS|VERY HEAVY GREEK CROSS|EXTREMELY HEAVY GREEK CROSS
1F7A8 |THIN SALTIRE|LIGHT SALTIRE|MEDIUM SALTIRE|BOLD SALTIRE|HEAVY SALTIRE|VERY HEAVY SALTIRE
1F7AE |EXTREMELY HEAVY SALTIRE|LIGHT FIVE SPOKED ASTERISK|MEDIUM FIVE SPOKED ASTERISK
1F7B1 |BOLD FIVE SPOKED ASTERISK|HEAVY FIVE SPOKED ASTERISK|VERY HEAVY FIVE SPOKED ASTERISK
1F7B4 |EXTREMELY HEAVY FIVE SPOKED ASTERISK|LIGHT SIX SPOKED ASTERISK
1F7B6 |MEDIUM SIX SPOKED ASTERISK|BOLD SIX SPOKED ASTERISK|HEAVY SIX SPOKED ASTERISK
1F7B9 |VERY HEAVY SIX SPOKED ASTERISK|EXTREMELY HEAVY SIX SPOKED ASTERISK
1F7BB |LIGHT EIGHT SPOKED ASTERISK|MEDIUM EIGHT SPOKED ASTERISK|BOLD EIGHT SPOKED ASTERISK
1F7BE |HEAVY EIGHT SPOKED ASTERISK|VERY HEAVY EIGHT SPOKED ASTERISK|LIGHT THREE POINTED BLACK STAR
1F7C1 |MEDIUM THREE POINTED BLACK STAR|THREE POINTED BLACK STAR|MEDIUM THREE POINTED PINWHEEL STAR
1F7C4 |LIGHT FOUR POINTED BLACK STAR|MEDIUM FOUR POINTED BLACK STAR|FOUR POINTED BLACK STAR
1F7C7 |MEDIUM FOUR POINTED PINWHEEL STAR|REVERSE LIGHT FOUR POINTED PINWHEEL STAR
1F7C9 |LIGHT FIVE POINTED BLACK STAR|HEAVY FIVE POINTED BLACK STAR|MEDIUM SIX POINTED BLACK STAR
1F7CC |HEAVY SIX POINTED BLACK STAR|SIX POINTED PINWHEEL STAR|MEDIUM EIGHT POINTED BLACK STAR
1F7CF |HEAVY EIGHT POINTED BLACK STAR|VERY HEAVY EIGHT POINTED BLACK STAR
1F7D1 |HEAVY EIGHT POINTED PINWHEEL STAR|LIGHT TWELVE POINTED BLACK STAR
1F7D3 HEAVY TWELVE POINTED |BLACK STAR|PINWHEEL STAR
1F7D5 |CIRCLED TRIANGLE
1F7D6 |NEGATIVE CIRCLED TRIANGLE|CIRCLED SQUARE|NEGATIVE CIRCLED SQUARE|NINE POINTED WHITE STAR
1F7E0 LARGE |ORANGE CIRCLE|YELLOW CIRCLE|GREEN CIRCLE|PURPLE CIRCLE|BROWN CIRCLE|RED SQUARE
1F7E6 LARGE |BLUE SQUARE|ORANGE SQUARE|YELLOW SQUARE|GREEN SQUARE|PURPLE SQUARE|BROWN SQUARE
1F7F0 |HEAVY EQUALS SIGN
1F800 |LEFTWARDS ARROW WITH SMALL TRIANGLE ARROWHEAD
1F801 |UPWARDS ARROW WITH SMALL TRIANGLE ARROWHEAD|RIGHTWARDS ARROW WITH SMALL TRIANGLE ARROWHEAD
1F803 |DOWNWARDS ARROW WITH SMALL TRIANGLE ARROWHEAD
1F804 |LEFTWARDS ARROW WITH MEDIUM TRIANGLE ARROWHEAD|UPWARDS ARROW WITH MEDIUM TRIANGLE ARROWHEAD
1F806 |RIGHTWARDS ARROW WITH MEDIUM TRIANGLE ARROWHEAD
1F807 |DOWNWARDS ARROW WITH MEDIUM TRIANGLE ARROWHEAD
1F808 |LEFTWARDS ARROW WITH LARGE TRIANGLE ARROWHEAD
1F809 |UPWARDS ARROW WITH LARGE TRIANGLE ARROWHEAD|RIGHTWARDS ARROW WITH LARGE TRIANGLE ARROWHEAD
1F80B |DOWNWARDS ARROW WITH LARGE TRIANGLE ARROWHEAD
1F810 |LEFTWARDS ARROW WITH SMALL EQUILATERAL ARROWHEAD
1F811 |UPWARDS ARROW WITH SMALL EQUILATERAL ARROWHEAD
1F812 |RIGHTWARDS ARROW WITH SMALL EQUILATERAL ARROWHEAD
1F813 |DOWNWARDS ARROW WITH SMALL EQUILATERAL ARROWHEAD|LEFTWARDS ARROW WITH EQUILATERAL ARROWHEAD
1F815 |UPWARDS ARROW WITH EQUILATERAL ARROWHEAD|RIGHTWARDS ARROW WITH EQUILATERAL ARROWHEAD
1F817 |DOWNWARDS ARROW WITH EQUILATERAL ARROWHEAD|HEAVY LEFTWARDS ARROW WITH EQUILATERAL ARROWHEAD
1F819 HEAVY |UPWARDS ARROW WITH EQUILATERAL ARROWHEAD|RIGHTWARDS ARROW WITH EQUILATERAL ARROWHEAD
1F81B |HEAVY DOWNWARDS ARROW WITH EQUILATERAL ARROWHEAD
1F81C |HEAVY LEFTWARDS ARROW WITH LARGE EQUILATERAL ARROWHEAD
1F81D |HEAVY UPWARDS ARROW WITH LARGE EQUILATERAL ARROWHEAD
1F81E |HEAVY RIGHTWARDS ARROW WITH LARGE EQUILATERAL ARROWHEAD
1F81F |HEAVY DOWNWARDS ARROW WITH LARGE EQUILATERAL ARROWHEAD
1F820 |LEFTWARDS TRIANGLE-HEADED ARROW WITH NARROW SHAFT
1F821 |UPWARDS TRIANGLE-HEADED ARROW WITH NARROW SHAFT
1F822 |RIGHTWARDS TRIANGLE-HEADED ARROW WITH NARROW SHAFT
1F823 |DOWNWARDS TRIANGLE-HEADED ARROW WITH NARROW SHAFT
1F824 |LEFTWARDS TRIANGLE-HEADED ARROW WITH MEDIUM SHAFT
1F825 |UPWARDS TRIANGLE-HEADED ARROW WITH MEDIUM SHAFT
1F826 |RIGHTWARDS TRIANGLE-HEADED ARROW WITH MEDIUM SHAFT
1F827 |DOWNWARDS TRIANGLE-HEADED ARROW WITH MEDIUM SHAFT
1F828 |LEFTWARDS TRIANGLE-HEADED ARROW WITH BOLD SHAFT
1F829 |UPWARDS TRIANGLE-HEADED ARROW WITH BOLD SHAFT
1F82A |RIGHTWARDS TRIANGLE-HEADED ARROW WITH BOLD SHAFT
1F82B |DOWNWARDS TRIANGLE-HEADED ARROW WITH BOLD SHAFT
1F82C |LEFTWARDS TRIANGLE-HEADED ARROW WITH HEAVY SHAFT
1F82D |UPWARDS TRIANGLE-HEADED ARROW WITH HEAVY SHAFT
1F82E |RIGHTWARDS TRIANGLE-HEADED ARROW WITH HEAVY SHAFT
1F82F |DOWNWARDS TRIANGLE-HEADED ARROW WITH HEAVY SHAFT
1F830 |LEFTWARDS TRIANGLE-HEADED ARROW WITH VERY HEAVY SHAFT
1F831 |UPWARDS TRIANGLE-HEADED ARROW WITH VERY HEAVY SHAFT
1F832 |RIGHTWARDS TRIANGLE-HEADED ARROW WITH VERY HEAVY SHAFT
1F833 |DOWNWARDS TRIANGLE-HEADED ARROW WITH VERY HEAVY SHAFT
1F834 |LEFTWARDS FINGER-POST ARROW|UPWARDS FINGER-POST ARROW
1F836 |RIGHTWARDS FINGER-POST ARROW|DOWNWARDS FINGER-POST ARROW|LEFTWARDS SQUARED ARROW
1F839 |UPWARDS SQUARED ARROW|RIGHTWARDS SQUARED ARROW|DOWNWARDS SQUARED ARROW
1F83C |LEFTWARDS COMPRESSED ARROW|UPWARDS COMPRESSED ARROW|RIGHTWARDS COMPRESSED ARROW
1F83F |DOWNWARDS COMPRESSED ARROW|LEFTWARDS HEAVY COMPRESSED ARROW|UPWARDS HEAVY COMPRESSED ARROW
1F842 |RIGHTWARDS HEAVY COMPRESSED ARROW|DOWNWARDS HEAVY COMPRESSED ARROW
1F844 |LEFTWARDS HEAVY ARROW|UPWARDS HEAVY ARROW|RIGHTWARDS HEAVY ARROW|DOWNWARDS HEAVY ARROW
1F850 |LEFTWARDS SANS-SERIF ARROW|UPWARDS SANS-SERIF ARROW|RIGHTWARDS SANS-SERIF ARROW
1F853 |DOWNWARDS SANS-SERIF ARROW|NORTH WEST SANS-SERIF ARROW|NORTH EAST SANS-SERIF ARROW
1F856 SOUTH |EAST SANS-SERIF ARROW|WEST SANS-SERIF ARROW
1F858 |LEFT RIGHT SANS-SERIF ARROW|UP DOWN SANS-SERIF ARROW
1F860 |WIDE-HEADED LEFTWARDS LIGHT BARB ARROW
1F861 WIDE-HEADED |UPWARDS LIGHT BARB ARROW|RIGHTWARDS LIGHT BARB ARROW|DOWNWARDS LIGHT BARB ARROW
1F864 WIDE-HEADED NORTH |WEST LIGHT BARB ARROW|EAST LIGHT BARB ARROW
1F866 WIDE-HEADED |SOUTH EAST LIGHT BARB ARROW|SOUTH WEST LIGHT BARB ARROW|LEFTWARDS BARB ARROW
1F869 WIDE-HEADED |UPWARDS BARB ARROW|RIGHTWARDS BARB ARROW|DOWNWARDS BARB ARROW
1F86C WIDE-HEADED |NORTH WEST BARB ARROW|NORTH EAST BARB ARROW|SOUTH EAST BARB ARROW
1F86F WIDE-HEADED |SOUTH WEST BARB ARROW|LEFTWARDS MEDIUM BARB ARROW|UPWARDS MEDIUM BARB ARROW
1F872 WIDE-HEADED |RIGHTWARDS MEDIUM BARB ARROW|DOWNWARDS MEDIUM BARB ARROW
1F874 WIDE-HEADED NORTH |WEST MEDIUM BARB ARROW|EAST MEDIUM BARB ARROW
1F876 WIDE-HEADED SOUTH |EAST MEDIUM BARB ARROW|WEST MEDIUM BARB ARROW
1F878 |WIDE-HEADED LEFTWARDS HEAVY BARB ARROW
1F879 WIDE-HEADED |UPWARDS HEAVY BARB ARROW|RIGHTWARDS HEAVY BARB ARROW|DOWNWARDS HEAVY BARB ARROW
1F87C WIDE-HEADED NORTH |WEST HEAVY BARB ARROW|EAST HEAVY BARB ARROW
1F87E WIDE-HEADED SOUTH |EAST HEAVY BARB ARROW|WEST HEAVY BARB ARROW
1F880 WIDE-HEADED |LEFTWARDS VERY HEAVY BARB ARROW|UPWARDS VERY HEAVY BARB ARROW
1F882 WIDE-HEADED |RIGHTWARDS VERY HEAVY BARB ARROW|DOWNWARDS VERY HEAVY BARB ARROW
1F884 WIDE-HEADED NORTH |WEST VERY HEAVY BARB ARROW|EAST VERY HEAVY BARB ARROW
1F886 WIDE-HEADED SOUTH |EAST VERY HEAVY BARB ARROW|WEST VERY HEAVY BARB ARROW
1F890 |LEFTWARDS TRIANGLE ARROWHEAD|UPWARDS TRIANGLE ARROWHEAD|RIGHTWARDS TRIANGLE ARROWHEAD
1F893 |DOWNWARDS TRIANGLE ARROWHEAD|LEFTWARDS WHITE ARROW WITHIN TRIANGLE ARROWHEAD
1F895 |UPWARDS WHITE ARROW WITHIN TRIANGLE ARROWHEAD
1F896 |RIGHTWARDS WHITE ARROW WITHIN TRIANGLE ARROWHEAD
1F897 |DOWNWARDS WHITE ARROW WITHIN TRIANGLE ARROWHEAD
1F898 |LEFTWARDS ARROW WITH NOTCHED TAIL|UPWARDS ARROW WITH NOTCHED TAIL
1F89A |RIGHTWARDS ARROW WITH NOTCHED TAIL|DOWNWARDS ARROW WITH NOTCHED TAIL
1F89C HEAVY ARROW SHAFT WIDTH |ONE|TWO THIRDS|ONE HALF|ONE THIRD
1F8A0 |LEFTWARDS BOTTOM-SHADED WHITE ARROW|RIGHTWARDS BOTTOM SHADED WHITE ARROW
1F8A2 |LEFTWARDS TOP SHADED WHITE ARROW|RIGHTWARDS TOP SHADED WHITE ARROW
1F8A4 |LEFTWARDS LEFT-SHADED WHITE ARROW|RIGHTWARDS RIGHT-SHADED WHITE ARROW
1F8A6 |LEFTWARDS RIGHT-SHADED WHITE ARROW|RIGHTWARDS LEFT-SHADED WHITE ARROW
1F8A8 |LEFTWARDS BACK-TILTED SHADOWED WHITE ARROW|RIGHTWARDS BACK-TILTED SHADOWED WHITE ARROW
1F8AA |LEFTWARDS FRONT-TILTED SHADOWED WHITE ARROW|RIGHTWARDS FRONT-TILTED SHADOWED WHITE ARROW
1F8AC WHITE ARROW SHAFT WIDTH |ONE|TWO THIRDS
1F8B0 ARROW POINTING |UPWARDS THEN NORTH WEST|RIGHTWARDS THEN CURVING SOUTH WEST
1F8B2 |RIGHTWARDS ARROW WITH LOWER HOOK|DOWNWARDS BLACK ARROW TO BAR
1F8B4 NEGATIVE SQUARED |LEFTWARDS ARROW|UPWARDS ARROW|RIGHTWARDS ARROW|DOWNWARDS ARROW
1F8B8 NORTH |WEST ARROW FROM BAR|EAST ARROW FROM BAR
1F8BA SOUTH |EAST ARROW FROM BAR|WEST ARROW FROM BAR
1F8C0 |LEFTWARDS ARROW FROM DOWNWARDS ARROW|RIGHTWARDS ARROW FROM DOWNWARDS ARROW
1F900 CIRCLED CROSS |FORMEE WITH FOUR DOTS|FORMEE WITH TWO DOTS|FORMEE
1F903 LEFT HALF CIRCLE WITH |FOUR DOTS|THREE DOTS|TWO DOTS|DOT
1F907 |LEFT HALF CIRCLE
1F908 DOWNWARD FACING |HOOK|NOTCHED HOOK|HOOK WITH DOT|NOTCHED HOOK WITH DOT
1F90C |PINCHED FINGERS|WHITE HEART|BROWN HEART|PINCHING HAND|ZIPPER-MOUTH FACE
1F911 |MONEY-MOUTH FACE|FACE WITH THERMOMETER|NERD FACE|THINKING FACE|FACE WITH HEAD-BANDAGE
1F916 |ROBOT FACE|HUGGING FACE|SIGN OF THE HORNS|CALL ME HAND|RAISED BACK OF HAND|LEFT-FACING FIST
1F91C |RIGHT-FACING FIST|HANDSHAKE|HAND WITH INDEX AND MIDDLE FINGERS CROSSED|I LOVE YOU HAND SIGN
1F920 |FACE WITH COWBOY HAT|CLOWN FACE|NAUSEATED FACE|ROLLING ON THE FLOOR LAUGHING
1F924 |DROOLING FACE|LYING FACE|FACE PALM|SNEEZING FACE|FACE WITH ONE EYEBROW RAISED
1F929 GRINNING FACE WITH |STAR EYES|ONE LARGE AND ONE SMALL EYE
1F92B |FACE WITH FINGER COVERING CLOSED LIPS|SERIOUS FACE WITH SYMBOLS COVERING MOUTH
1F92D |SMILING FACE WITH SMILING EYES AND HAND COVERING MOUTH
1F92E |FACE WITH OPEN MOUTH VOMITING|SHOCKED FACE WITH EXPLODING HEAD
1F930 |PREGNANT WOMAN|BREAST-FEEDING|PALMS UP TOGETHER|SELFIE|PRINCE|MAN IN TUXEDO
1F936 |MOTHER CHRISTMAS|SHRUG|PERSON DOING CARTWHEEL|JUGGLING|FENCER|MODERN PENTATHLON
1F93C |WRESTLERS|WATER POLO|HANDBALL|DIVING MASK|WILTED FLOWER|DRUM WITH DRUMSTICKS
1F942 |CLINKING GLASSES|TUMBLER GLASS|SPOON|GOAL NET|RIFLE|FIRST PLACE MEDAL|SECOND PLACE MEDAL
1F949 |THIRD PLACE MEDAL|BOXING GLOVE|MARTIAL ARTS UNIFORM|CURLING STONE|LACROSSE STICK AND BALL
1F94E |SOFTBALL|FLYING DISC|CROISSANT|AVOCADO|CUCUMBER|BACON|POTATO|CARROT|BAGUETTE BREAD
1F957 |GREEN SALAD|SHALLOW PAN OF FOOD|STUFFED FLATBREAD|EGG|GLASS OF MILK|PEANUTS|KIWIFRUIT
1F95E |PANCAKES|DUMPLING|FORTUNE COOKIE|TAKEOUT BOX|CHOPSTICKS|BOWL WITH SPOON|CUP WITH STRAW
1F965 |COCONUT|BROCCOLI|PIE|PRETZEL|CUT OF MEAT|SANDWICH|CANNED FOOD|LEAFY GREEN|MANGO|MOON CAKE
1F96F |BAGEL|SMILING FACE WITH SMILING EYES AND THREE HEARTS|YAWNING FACE|SMILING FACE WITH TEAR
1F973 FACE WITH |PARTY HORN AND PARTY HAT|UNEVEN EYES AND WAVY MOUTH
1F975 |OVERHEATED FACE|FREEZING FACE|NINJA|DISGUISED FACE|FACE HOLDING BACK TEARS
1F97A |FACE WITH PLEADING EYES|SARI|LAB COAT|GOGGLES|HIKING BOOT|FLAT SHOE|CRAB|LION FACE|SCORPION
1F983 |TURKEY|UNICORN FACE|EAGLE|DUCK|BAT|SHARK|OWL|FOX FACE|BUTTERFLY|DEER|GORILLA|LIZARD
1F98F |RHINOCEROS|SHRIMP|SQUID|GIRAFFE FACE|ZEBRA FACE|HEDGEHOG|SAUROPOD|T-REX|CRICKET|KANGAROO
1F999 |LLAMA|PEACOCK|HIPPOPOTAMUS|PARROT|RACCOON|LOBSTER|MOSQUITO|MICROBE|BADGER|SWAN|MAMMOTH
1F9A4 |DODO|SLOTH|OTTER|ORANGUTAN|SKUNK|FLAMINGO|OYSTER|BEAVER|BISON|SEAL|GUIDE DOG|PROBING CANE
1F9B0 EMOJI COMPONENT |RED HAIR|CURLY HAIR|BALD|WHITE HAIR
1F9B4 |BONE|LEG|FOOT|TOOTH|SUPERHERO
1F9B9 |SUPERVILLAIN|SAFETY VEST|EAR WITH HEARING AID|MOTORIZED WHEELCHAIR|MANUAL WHEELCHAIR
1F9BE MECHANICAL |ARM|LEG
1F9C0 |CHEESE WEDGE|CUPCAKE|SALT SHAKER|BEVERAGE BOX
1F9C4 |GARLIC|ONION|FALAFEL|WAFFLE|BUTTER|MATE DRINK|ICE CUBE|BUBBLE TEA|TROLL|STANDING PERSON
1F9CE |KNEELING PERSON|DEAF PERSON|FACE WITH MONOCLE|ADULT|CHILD|OLDER ADULT|BEARDED PERSON
1F9D5 PERSON |WITH HEADSCARF|IN STEAMY ROOM|CLIMBING|IN LOTUS POSITION
1F9D9 |MAGE|FAIRY|VAMPIRE|MERPERSON
1F9DD |ELF|GENIE|ZOMBIE|BRAIN|ORANGE HEART|BILLED CAP|SCARF|GLOVES|COAT|SOCKS|RED GIFT ENVELOPE
1F9E8 |FIRECRACKER|JIGSAW PUZZLE PIECE|TEST TUBE|PETRI DISH|DNA DOUBLE HELIX|COMPASS|ABACUS
1F9EF |FIRE EXTINGUISHER|TOOLBOX|BRICK|MAGNET|LUGGAGE|LOTION BOTTLE|SPOOL OF THREAD|BALL OF YARN
1F9F7 |SAFETY PIN|TEDDY BEAR|BROOM|BASKET|ROLL OF PAPER|BAR OF SOAP|SPONGE|RECEIPT|NAZAR AMULET
1FA00 NEUTRAL CHESS |KING|QUEEN|ROOK|BISHOP|KNIGHT|PAWN
1FA06 |WHITE CHESS KNIGHT ROTATED FORTY-FIVE DEGREES|BLACK CHESS KNIGHT ROTATED FORTY-FIVE DEGREES
1FA08 |NEUTRAL CHESS KNIGHT ROTATED FORTY-FIVE DEGREES
1FA09 WHITE CHESS |KING ROTATED NINETY DEGREES|QUEEN ROTATED NINETY DEGREES
1FA0B WHITE CHESS |ROOK ROTATED NINETY DEGREES|BISHOP ROTATED NINETY DEGREES
1FA0D WHITE CHESS |KNIGHT ROTATED NINETY DEGREES|PAWN ROTATED NINETY DEGREES
1FA0F BLACK CHESS |KING ROTATED NINETY DEGREES|QUEEN ROTATED NINETY DEGREES
1FA11 BLACK CHESS |ROOK ROTATED NINETY DEGREES|BISHOP ROTATED NINETY DEGREES
1FA13 BLACK CHESS |KNIGHT ROTATED NINETY DEGREES|PAWN ROTATED NINETY DEGREES
1FA15 NEUTRAL CHESS |KING ROTATED NINETY DEGREES|QUEEN ROTATED NINETY DEGREES
1FA17 NEUTRAL CHESS |ROOK ROTATED NINETY DEGREES|BISHOP ROTATED NINETY DEGREES
1FA19 NEUTRAL CHESS |KNIGHT ROTATED NINETY DEGREES|PAWN ROTATED NINETY DEGREES
1FA1B |WHITE CHESS KNIGHT ROTATED ONE HUNDRED THIRTY-FIVE DEGREES
1FA1C |BLACK CHESS KNIGHT ROTATED ONE HUNDRED THIRTY-FIVE DEGREES
1FA1D |NEUTRAL CHESS KNIGHT ROTATED ONE HUNDRED THIRTY-FIVE DEGREES
1FA1E WHITE CHESS TURNED |KING|QUEEN|ROOK|BISHOP|KNIGHT|PAWN
1FA24 BLACK CHESS TURNED |KING|QUEEN|ROOK|BISHOP|KNIGHT|PAWN
1FA2A NEUTRAL CHESS TURNED |KING|QUEEN|ROOK|BISHOP|KNIGHT|PAWN
1FA30 |WHITE CHESS KNIGHT ROTATED TWO HUNDRED TWENTY-FIVE DEGREES
1FA31 |BLACK CHESS KNIGHT ROTATED TWO HUNDRED TWENTY-FIVE DEGREES
1FA32 |NEUTRAL CHESS KNIGHT ROTATED TWO HUNDRED TWENTY-FIVE DEGREES
1FA33 |WHITE CHESS KING ROTATED TWO HUNDRED SEVENTY DEGREES
1FA34 |WHITE CHESS QUEEN ROTATED TWO HUNDRED SEVENTY DEGREES
1FA35 |WHITE CHESS ROOK ROTATED TWO HUNDRED SEVENTY DEGREES
1FA36 |WHITE CHESS BISHOP ROTATED TWO HUNDRED SEVENTY DEGREES
1FA37 |WHITE CHESS KNIGHT ROTATED TWO HUNDRED SEVENTY DEGREES
1FA38 |WHITE CHESS PAWN ROTATED TWO HUNDRED SEVENTY DEGREES
1FA39 |BLACK CHESS KING ROTATED TWO HUNDRED SEVENTY DEGREES
1FA3A |BLACK CHESS QUEEN ROTATED TWO HUNDRED SEVENTY DEGREES
1FA3B |BLACK CHESS ROOK ROTATED TWO HUNDRED SEVENTY DEGREES
1FA3C |BLACK CHESS BISHOP ROTATED TWO HUNDRED SEVENTY DEGREES
1FA3D |BLACK CHESS KNIGHT ROTATED TWO HUNDRED SEVENTY DEGREES
1FA3E |BLACK CHESS PAWN ROTATED TWO HUNDRED SEVENTY DEGREES
1FA3F |NEUTRAL CHESS KING ROTATED TWO HUNDRED SEVENTY DEGREES
1FA40 |NEUTRAL CHESS QUEEN ROTATED TWO HUNDRED SEVENTY DEGREES
1FA41 |NEUTRAL CHESS ROOK ROTATED TWO HUNDRED SEVENTY DEGREES
1FA42 |NEUTRAL CHESS BISHOP ROTATED TWO HUNDRED SEVENTY DEGREES
1FA43 |NEUTRAL CHESS KNIGHT ROTATED TWO HUNDRED SEVENTY DEGREES
1FA44 |NEUTRAL CHESS PAWN ROTATED TWO HUNDRED SEVENTY DEGREES
1FA45 |WHITE CHESS KNIGHT ROTATED THREE HUNDRED FIFTEEN DEGREES
1FA46 |BLACK CHESS KNIGHT ROTATED THREE HUNDRED FIFTEEN DEGREES
1FA47 |NEUTRAL CHESS KNIGHT ROTATED THREE HUNDRED FIFTEEN DEGREES
1FA48 |WHITE CHESS EQUIHOPPER|BLACK CHESS EQUIHOPPER|NEUTRAL CHESS EQUIHOPPER
1FA4B |WHITE CHESS EQUIHOPPER ROTATED NINETY DEGREES|BLACK CHESS EQUIHOPPER ROTATED NINETY DEGREES
1FA4D |NEUTRAL CHESS EQUIHOPPER ROTATED NINETY DEGREES
1FA4E WHITE CHESS KNIGHT-|QUEEN|ROOK|BISHOP
1FA51 BLACK CHESS KNIGHT-|QUEEN|ROOK|BISHOP
1FA60 XIANGQI RED |GENERAL|MANDARIN|ELEPHANT|HORSE|CHARIOT|CANNON|SOLDIER
1FA67 XIANGQI BLACK |GENERAL|MANDARIN|ELEPHANT|HORSE|CHARIOT|CANNON|SOLDIER
1FA70 |BALLET SHOES|ONE-PIECE SWIMSUIT|BRIEFS|SHORTS|THONG SANDAL|LIGHT BLUE HEART
1FA76 |GREY HEART|PINK HEART|DROP OF BLOOD|ADHESIVE BANDAGE|STETHOSCOPE|X-RAY|CRUTCH
1FA80 |YO-YO|KITE|PARACHUTE|BOOMERANG|MAGIC WAND|PINATA|NESTING DOLLS|MARACAS|FLUTE|HARP
1FA8F |SHOVEL|RINGED PLANET|CHAIR|RAZOR|AXE|DIYA LAMP
1FA95 |BANJO|MILITARY HELMET|ACCORDION|LONG DRUM|COIN|CARPENTRY SAW|SCREWDRIVER|LADDER|HOOK
1FA9E |MIRROR|WINDOW|PLUNGER|SEWING NEEDLE|KNOT|BUCKET|MOUSE TRAP|TOOTHBRUSH|HEADSTONE|PLACARD
1FAA8 |ROCK|MIRROR BALL|IDENTIFICATION CARD|LOW BATTERY|HAMSA|FOLDING HAND FAN|HAIR PICK|KHANDA
1FAB0 |FLY|WORM|BEETLE|COCKROACH|POTTED PLANT|WOOD|FEATHER|LOTUS|CORAL|EMPTY NEST|NEST WITH EGGS
1FABB |HYACINTH|JELLYFISH|WING|LEAFLESS TREE|GOOSE|ANATOMICAL HEART|LUNGS|PEOPLE HUGGING
1FAC3 PREGNANT |MAN|PERSON
1FAC5 |PERSON WITH CROWN|FINGERPRINT
1FACE |MOOSE|DONKEY|BLUEBERRIES|BELL PEPPER|OLIVE
1FAD3 |FLATBREAD|TAMALE|FONDUE|TEAPOT|POURING LIQUID|BEANS|JAR|GINGER ROOT|PEA POD|ROOT VEGETABLE
1FADF |SPLATTER|MELTING FACE|SALUTING FACE
1FAE2 FACE WITH |OPEN EYES AND HAND OVER MOUTH|PEEKING EYE|DIAGONAL MOUTH
1FAE5 |DOTTED LINE FACE|BITING LIP|BUBBLES|SHAKING FACE|FACE WITH BAGS UNDER EYES
1FAF0 |HAND WITH INDEX FINGER AND THUMB CROSSED|RIGHTWARDS HAND|LEFTWARDS HAND
1FAF3 PALM |DOWN HAND|UP HAND
1FAF5 |INDEX POINTING AT THE VIEWER|HEART HANDS|LEFTWARDS PUSHING HAND|RIGHTWARDS PUSHING HAND
1FB00 BLOCK SEXTANT-|1|2|12|3|13|23
1FB06 BLOCK SEXTANT-|123|4|14|24|124|34|134|234|1234|5|15|25|125|35|235|1235|45|145|245|1245|345
1FB1B BLOCK SEXTANT-|1345|2345|12345|6|16|26|126|36|136|236|1236|46|146|1246|346|1346|2346|12346
1FB2D BLOCK SEXTANT-|56|156|256|1256|356|1356|2356|12356|456|1456|2456|12456|3456|13456|23456
1FB3C LOWER LEFT BLOCK DIAGONAL LOWER MIDDLE LEFT TO LOWER |CENTRE|RIGHT
1FB3E LOWER LEFT BLOCK DIAGONAL UPPER MIDDLE LEFT TO LOWER |CENTRE|RIGHT
1FB40 |LOWER LEFT BLOCK DIAGONAL UPPER LEFT TO LOWER CENTRE
1FB41 LOWER RIGHT BLOCK DIAGONAL UPPER MIDDLE LEFT TO UPPER |CENTRE|RIGHT
1FB43 LOWER RIGHT BLOCK DIAGONAL LOWER MIDDLE LEFT TO UPPER |CENTRE|RIGHT
1FB45 LOWER RIGHT BLOCK DIAGONAL LOWER |LEFT TO UPPER CENTRE|MIDDLE LEFT TO UPPER MIDDLE RIGHT
1FB47 |LOWER RIGHT BLOCK DIAGONAL LOWER CENTRE TO LOWER MIDDLE RIGHT
1FB48 LOWER RIGHT BLOCK DIAGONAL LOWER |LEFT TO LOWER MIDDLE RIGHT|CENTRE TO UPPER MIDDLE RIGHT
1FB4A LOWER RIGHT BLOCK DIAGONAL LOWER |LEFT TO UPPER MIDDLE RIGHT|CENTRE TO UPPER RIGHT
1FB4C LOWER LEFT BLOCK DIAGONAL UPPER |CENTRE TO UPPER MIDDLE RIGHT|LEFT TO UPPER MIDDLE RIGHT
1FB4E LOWER LEFT BLOCK DIAGONAL UPPER |CENTRE TO LOWER MIDDLE RIGHT|LEFT TO LOWER MIDDLE RIGHT
1FB50 LOWER LEFT BLOCK DIAGONAL UPPER |CENTRE TO LOWER RIGHT|MIDDLE LEFT TO LOWER MIDDLE RIGHT
1FB52 UPPER RIGHT BLOCK DIAGONAL LOWER MIDDLE LEFT TO LOWER |CENTRE|RIGHT
1FB54 UPPER RIGHT BLOCK DIAGONAL UPPER MIDDLE LEFT TO LOWER |CENTRE|RIGHT
1FB56 |UPPER RIGHT BLOCK DIAGONAL UPPER LEFT TO LOWER CENTRE
1FB57 UPPER LEFT BLOCK DIAGONAL UPPER MIDDLE LEFT TO UPPER |CENTRE|RIGHT
1FB59 UPPER LEFT BLOCK DIAGONAL LOWER MIDDLE LEFT TO UPPER |CENTRE|RIGHT
1FB5B UPPER LEFT BLOCK DIAGONAL LOWER |LEFT TO UPPER CENTRE|MIDDLE LEFT TO UPPER MIDDLE RIGHT
1FB5D |UPPER LEFT BLOCK DIAGONAL LOWER CENTRE TO LOWER MIDDLE RIGHT
1FB5E UPPER LEFT BLOCK DIAGONAL LOWER |LEFT TO LOWER MIDDLE RIGHT|CENTRE TO UPPER MIDDLE RIGHT
1FB60 UPPER LEFT BLOCK DIAGONAL LOWER |LEFT TO UPPER MIDDLE RIGHT|CENTRE TO UPPER RIGHT
1FB62 UPPER RIGHT BLOCK DIAGONAL UPPER |CENTRE TO UPPER MIDDLE RIGHT|LEFT TO UPPER MIDDLE RIGHT
1FB64 UPPER RIGHT BLOCK DIAGONAL UPPER |CENTRE TO LOWER MIDDLE RIGHT|LEFT TO LOWER MIDDLE RIGHT
1FB66 UPPER RIGHT BLOCK DIAGONAL UPPER |CENTRE TO LOWER RIGHT|MIDDLE LEFT TO LOWER MIDDLE RIGHT
1FB68 |UPPER AND RIGHT AND LOWER TRIANGULAR THREE QUARTERS BLOCK
1FB69 |LEFT AND LOWER AND RIGHT TRIANGULAR THREE QUARTERS BLOCK
1FB6A |UPPER AND LEFT AND LOWER TRIANGULAR THREE QUARTERS BLOCK
1FB6B LEFT |AND UPPER AND RIGHT TRIANGULAR THREE QUARTERS BLOCK|TRIANGULAR ONE QUARTER BLOCK
1FB6D |UPPER TRIANGULAR ONE QUARTER BLOCK
1FB6E |RIGHT TRIANGULAR ONE QUARTER BLOCK|LOWER TRIANGULAR ONE QUARTER BLOCK
1FB70 VERTICAL ONE EIGHTH BLOCK-|2|3|4|5|6|7
1FB76 HORIZONTAL ONE EIGHTH BLOCK-|2|3|4|5|6|7
1FB7C LEFT AND |LOWER ONE EIGHTH BLOCK|UPPER ONE EIGHTH BLOCK
1FB7E RIGHT AND |UPPER ONE EIGHTH BLOCK|LOWER ONE EIGHTH BLOCK
1FB80 |UPPER AND LOWER ONE EIGHTH BLOCK|HORIZONTAL ONE EIGHTH BLOCK-1358|UPPER ONE QUARTER BLOCK
1FB83 UPPER |THREE EIGHTHS BLOCK|FIVE EIGHTHS BLOCK|THREE QUARTERS BLOCK|SEVEN EIGHTHS BLOCK
1FB87 RIGHT |ONE QUARTER BLOCK|THREE EIGHTHS BLOCK|FIVE EIGHTHS BLOCK|THREE QUARTERS BLOCK
1FB8B |RIGHT SEVEN EIGHTHS BLOCK|LEFT HALF MEDIUM SHADE
1FB8D |RIGHT HALF MEDIUM SHADE|UPPER HALF MEDIUM SHADE|LOWER HALF MEDIUM SHADE
1FB90 |INVERSE MEDIUM SHADE|UPPER HALF BLOCK AND LOWER HALF INVERSE MEDIUM SHADE
1FB92 |UPPER HALF INVERSE MEDIUM SHADE AND LOWER HALF BLOCK
1FB94 |LEFT HALF INVERSE MEDIUM SHADE AND RIGHT HALF BLOCK
1FB95 |CHECKER BOARD FILL|INVERSE CHECKER BOARD FILL|HEAVY HORIZONTAL FILL
1FB98 UPPER |LEFT TO LOWER RIGHT FILL|RIGHT TO LOWER LEFT FILL|AND LOWER TRIANGULAR HALF BLOCK
1FB9B |LEFT AND RIGHT TRIANGULAR HALF BLOCK
1FB9C UPPER |LEFT TRIANGULAR MEDIUM SHADE|RIGHT TRIANGULAR MEDIUM SHADE
1FB9E LOWER |RIGHT TRIANGULAR MEDIUM SHADE|LEFT TRIANGULAR MEDIUM SHADE
1FBA0 BOX DRAWINGS LIGHT DIAGONAL UPPER CENTRE TO MIDDLE |LEFT|RIGHT
1FBA2 BOX DRAWINGS LIGHT DIAGONAL MIDDLE |LEFT TO LOWER CENTRE|RIGHT TO LOWER CENTRE
1FBA4 |BOX DRAWINGS LIGHT DIAGONAL UPPER CENTRE TO MIDDLE LEFT TO LOWER CENTRE
1FBA5 |BOX DRAWINGS LIGHT DIAGONAL UPPER CENTRE TO MIDDLE RIGHT TO LOWER CENTRE
1FBA6 |BOX DRAWINGS LIGHT DIAGONAL MIDDLE LEFT TO LOWER CENTRE TO MIDDLE RIGHT
1FBA7 |BOX DRAWINGS LIGHT DIAGONAL MIDDLE LEFT TO UPPER CENTRE TO MIDDLE RIGHT
1FBA8 |BOX DRAWINGS LIGHT DIAGONAL UPPER CENTRE TO MIDDLE LEFT AND MIDDLE RIGHT TO LOWER CENTRE
1FBA9 |BOX DRAWINGS LIGHT DIAGONAL UPPER CENTRE TO MIDDLE RIGHT AND MIDDLE LEFT TO LOWER CENTRE
1FBAA |BOX DRAWINGS LIGHT DIAGONAL UPPER CENTRE TO MIDDLE RIGHT TO LOWER CENTRE TO MIDDLE LEFT
1FBAB |BOX DRAWINGS LIGHT DIAGONAL UPPER CENTRE TO MIDDLE LEFT TO LOWER CENTRE TO MIDDLE RIGHT
1FBAC |BOX DRAWINGS LIGHT DIAGONAL MIDDLE LEFT TO UPPER CENTRE TO MIDDLE RIGHT TO LOWER CENTRE
1FBAD |BOX DRAWINGS LIGHT DIAGONAL MIDDLE RIGHT TO UPPER CENTRE TO MIDDLE LEFT TO LOWER CENTRE
1FBAE BOX DRAWINGS LIGHT |DIAGONAL DIAMOND|HORIZONTAL WITH VERTICAL STROKE
1FBB0 |ARROWHEAD-SHAPED POINTER|INVERSE CHECK MARK
1FBB2 |LEFT HALF RUNNING MAN|RIGHT HALF RUNNING MAN|INVERSE DOWNWARDS ARROW WITH TIP LEFTWARDS
1FBB5 |LEFTWARDS ARROW AND UPPER AND LOWER ONE EIGHTH BLOCK
1FBB6 |RIGHTWARDS ARROW AND UPPER AND LOWER ONE EIGHTH BLOCK
1FBB7 |DOWNWARDS ARROW AND RIGHT ONE EIGHTH BLOCK|UPWARDS ARROW AND RIGHT ONE EIGHTH BLOCK
1FBB9 |LEFT HALF FOLDER|RIGHT HALF FOLDER|VOIDED GREEK CROSS|RIGHT OPEN SQUARED DOT
1FBBD NEGATIVE DIAGONAL |CROSS|MIDDLE RIGHT TO LOWER CENTRE|DIAMOND
1FBC0 |WHITE HEAVY SALTIRE WITH ROUNDED CORNERS
1FBC1 |LEFT THIRD WHITE RIGHT POINTING INDEX|MIDDLE THIRD WHITE RIGHT POINTING INDEX
1FBC3 |RIGHT THIRD WHITE RIGHT POINTING INDEX|NEGATIVE SQUARED QUESTION MARK|STICK FIGURE
1FBC6 STICK FIGURE |WITH ARMS RAISED|LEANING LEFT|LEANING RIGHT|WITH DRESS
1FBCA WHITE |UP-POINTING CHEVRON|CROSS MARK
1FBCC |RAISED SMALL LEFT SQUARE BRACKET|BLACK SMALL UP-POINTING CHEVRON|LEFT TWO THIRDS BLOCK
1FBCF |LEFT ONE THIRD BLOCK|BOX DRAWINGS LIGHT DIAGONAL MIDDLE RIGHT TO LOWER LEFT
1FBD1 BOX DRAWINGS LIGHT DIAGONAL UPPER |RIGHT TO MIDDLE LEFT|LEFT TO MIDDLE RIGHT
1FBD3 BOX DRAWINGS LIGHT DIAGONAL |MIDDLE LEFT TO LOWER RIGHT|UPPER LEFT TO LOWER CENTRE
1FBD5 BOX DRAWINGS LIGHT DIAGONAL UPPER |CENTRE TO LOWER RIGHT|RIGHT TO LOWER CENTRE
1FBD7 BOX DRAWINGS LIGHT DIAGONAL UPPER |CENTRE TO LOWER LEFT|LEFT TO MIDDLE CENTRE TO UPPER RIGHT
1FBD9 |BOX DRAWINGS LIGHT DIAGONAL UPPER RIGHT TO MIDDLE CENTRE TO LOWER RIGHT
1FBDA |BOX DRAWINGS LIGHT DIAGONAL LOWER LEFT TO MIDDLE CENTRE TO LOWER RIGHT
1FBDB |BOX DRAWINGS LIGHT DIAGONAL UPPER LEFT TO MIDDLE CENTRE TO LOWER LEFT
1FBDC |BOX DRAWINGS LIGHT DIAGONAL UPPER LEFT TO LOWER CENTRE TO UPPER RIGHT
1FBDD |BOX DRAWINGS LIGHT DIAGONAL UPPER RIGHT TO MIDDLE LEFT TO LOWER RIGHT
1FBDE |BOX DRAWINGS LIGHT DIAGONAL LOWER LEFT TO UPPER CENTRE TO LOWER RIGHT
1FBDF |BOX DRAWINGS LIGHT DIAGONAL UPPER LEFT TO MIDDLE RIGHT TO LOWER LEFT
1FBE0 |TOP JUSTIFIED LOWER HALF WHITE CIRCLE|RIGHT JUSTIFIED LEFT HALF WHITE CIRCLE
1FBE2 |BOTTOM JUSTIFIED UPPER HALF WHITE CIRCLE|LEFT JUSTIFIED RIGHT HALF WHITE CIRCLE
1FBE4 |UPPER CENTRE ONE QUARTER BLOCK|LOWER CENTRE ONE QUARTER BLOCK|MIDDLE LEFT ONE QUARTER BLOCK
1FBE7 |MIDDLE RIGHT ONE QUARTER BLOCK|TOP JUSTIFIED LOWER HALF BLACK CIRCLE
1FBE9 |RIGHT JUSTIFIED LEFT HALF BLACK CIRCLE|BOTTOM JUSTIFIED UPPER HALF BLACK CIRCLE
1FBEB |LEFT JUSTIFIED RIGHT HALF BLACK CIRCLE|TOP RIGHT JUSTIFIED LOWER LEFT QUARTER BLACK CIRCLE
1FBED |BOTTOM LEFT JUSTIFIED UPPER RIGHT QUARTER BLACK CIRCLE
1FBEE |BOTTOM RIGHT JUSTIFIED UPPER LEFT QUARTER BLACK CIRCLE
1FBEF |TOP LEFT JUSTIFIED LOWER RIGHT QUARTER BLACK CIRCLE
1FBF0 SEGMENTED DIGIT |ZERO|ONE|TWO|THREE|FOUR|FIVE|SIX|SEVEN|EIGHT|NINE
2F800 CJK COMPATIBILITY IDEOGRAPH-|2F800|2F801
2F802 CJK COMPATIBILITY IDEOGRAPH-|2F802|2F803|2F804|2F805|2F806|2F807|2F808|2F809|2F80A|2F80B
2F80C CJK COMPATIBILITY IDEOGRAPH-|2F80C|2F80D|2F80E|2F80F|2F810|2F811|2F812|2F813|2F814|2F815
2F816 CJK COMPATIBILITY IDEOGRAPH-|2F816|2F817|2F818|2F819|2F81A|2F81B|2F81C|2F81D|2F81E|2F81F
2F820 CJK COMPATIBILITY IDEOGRAPH-|2F820|2F821|2F822|2F823|2F824|2F825|2F826|2F827|2F828|2F829
2F82A CJK COMPATIBILITY IDEOGRAPH-|2F82A|2F82B|2F82C|2F82D|2F82E|2F82F|2F830|2F831|2F832|2F833
2F834 CJK COMPATIBILITY IDEOGRAPH-|2F834|2F835|2F836|2F837|2F838|2F839|2F83A|2F83B|2F83C|2F83D
2F83E CJK COMPATIBILITY IDEOGRAPH-|2F83E|2F83F|2F840|2F841|2F842|2F843|2F844|2F845|2F846|2F847
2F848 CJK COMPATIBILITY IDEOGRAPH-|2F848|2F849|2F84A|2F84B|2F84C|2F84D|2F84E|2F84F|2F850|2F851
2F852 CJK COMPATIBILITY IDEOGRAPH-|2F852|2F853|2F854|2F855|2F856|2F857|2F858|2F859|2F85A|2F85B
2F85C CJK COMPATIBILITY IDEOGRAPH-|2F85C|2F85D|2F85E|2F85F|2F860|2F861|2F862|2F863|2F864|2F865
2F866 CJK COMPATIBILITY IDEOGRAPH-|2F866|2F867|2F868|2F869|2F86A|2F86B|2F86C|2F86D|2F86E|2F86F
2F870 CJK COMPATIBILITY IDEOGRAPH-|2F870|2F871|2F872|2F873|2F874|2F875|2F876|2F877|2F878|2F879
2F87A CJK COMPATIBILITY IDEOGRAPH-|2F87A|2F87B|2F87C|2F87D|2F87E|2F87F|2F880|2F881|2F882|2F883
2F884 CJK COMPATIBILITY IDEOGRAPH-|2F884|2F885|2F886|2F887|2F888|2F889|2F88A|2F88B|2F88C|2F88D
2F88E CJK COMPATIBILITY IDEOGRAPH-|2F88E|2F88F|2F890|2F891|2F892|2F893|2F894|2F895|2F896|2F897
2F898 CJK COMPATIBILITY IDEOGRAPH-|2F898|2F899|2F89A|2F89B|2F89C|2F89D|2F89E|2F89F|2F8A0|2F8A1
2F8A2 CJK COMPATIBILITY IDEOGRAPH-|2F8A2|2F8A3|2F8A4|2F8A5|2F8A6|2F8A7|2F8A8|2F8A9|2F8AA|2F8AB
2F8AC CJK COMPATIBILITY IDEOGRAPH-|2F8AC|2F8AD|2F8AE|2F8AF|2F8B0|2F8B1|2F8B2|2F8B3|2F8B4|2F8B5
2F8B6 CJK COMPATIBILITY IDEOGRAPH-|2F8B6|2F8B7|2F8B8|2F8B9|2F8BA|2F8BB|2F8BC|2F8BD|2F8BE|2F8BF
2F8C0 CJK COMPATIBILITY IDEOGRAPH-|2F8C0|2F8C1|2F8C2|2F8C3|2F8C4|2F8C5|2F8C6|2F8C7|2F8C8|2F8C9
2F8CA CJK COMPATIBILITY IDEOGRAPH-|2F8CA|2F8CB|2F8CC|2F8CD|2F8CE|2F8CF|2F8D0|2F8D1|2F8D2|2F8D3
2F8D4 CJK COMPATIBILITY IDEOGRAPH-|2F8D4|2F8D5|2F8D6|2F8D7|2F8D8|2F8D9|2F8DA|2F8DB|2F8DC|2F8DD
2F8DE CJK COMPATIBILITY IDEOGRAPH-|2F8DE|2F8DF|2F8E0|2F8E1|2F8E2|2F8E3|2F8E4|2F8E5|2F8E6|2F8E7
2F8E8 CJK COMPATIBILITY IDEOGRAPH-|2F8E8|2F8E9|2F8EA|2F8EB|2F8EC|2F8ED|2F8EE|2F8EF|2F8F0|2F8F1
2F8F2 CJK COMPATIBILITY IDEOGRAPH-|2F8F2|2F8F3|2F8F4|2F8F5|2F8F6|2F8F7|2F8F8|2F8F9|2F8FA|2F8FB
2F8FC CJK COMPATIBILITY IDEOGRAPH-|2F8FC|2F8FD|2F8FE|2F8FF|2F900|2F901|2F902|2F903|2F904|2F905
2F906 CJK COMPATIBILITY IDEOGRAPH-|2F906|2F907|2F908|2F909|2F90A|2F90B|2F90C|2F90D|2F90E|2F90F
2F910 CJK COMPATIBILITY IDEOGRAPH-|2F910|2F911|2F912|2F913|2F914|2F915|2F916|2F917|2F918|2F919
2F91A CJK COMPATIBILITY IDEOGRAPH-|2F91A|2F91B|2F91C|2F91D|2F91E|2F91F|2F920|2F921|2F922|2F923
2F924 CJK COMPATIBILITY IDEOGRAPH-|2F924|2F925|2F926|2F927|2F928|2F929|2F92A|2F92B|2F92C|2F92D
2F92E CJK COMPATIBILITY IDEOGRAPH-|2F92E|2F92F|2F930|2F931|2F932|2F933|2F934|2F935|2F936|2F937
2F938 CJK COMPATIBILITY IDEOGRAPH-|2F938|2F939|2F93A|2F93B|2F93C|2F93D|2F93E|2F93F|2F940|2F941
2F942 CJK COMPATIBILITY IDEOGRAPH-|2F942|2F943|2F944|2F945|2F946|2F947|2F948|2F949|2F94A|2F94B
2F94C CJK COMPATIBILITY IDEOGRAPH-|2F94C|2F94D|2F94E|2F94F|2F950|2F951|2F952|2F953|2F954|2F955
2F956 CJK COMPATIBILITY IDEOGRAPH-|2F956|2F957|2F958|2F959|2F95A|2F95B|2F95C|2F95D|2F95E|2F95F
2F960 CJK COMPATIBILITY IDEOGRAPH-|2F960|2F961|2F962|2F963|2F964|2F965|2F966|2F967|2F968|2F969
2F96A CJK COMPATIBILITY IDEOGRAPH-|2F96A|2F96B|2F96C|2F96D|2F96E|2F96F|2F970|2F971|2F972|2F973
2F974 CJK COMPATIBILITY IDEOGRAPH-|2F974|2F975|2F976|2F977|2F978|2F979|2F97A|2F97B|2F97C|2F97D
2F97E CJK COMPATIBILITY IDEOGRAPH-|2F97E|2F97F|2F980|2F981|2F982|2F983|2F984|2F985|2F986|2F987
2F988 CJK COMPATIBILITY IDEOGRAPH-|2F988|2F989|2F98A|2F98B|2F98C|2F98D|2F98E|2F98F|2F990|2F991
2F992 CJK COMPATIBILITY IDEOGRAPH-|2F992|2F993|2F994|2F995|2F996|2F997|2F998|2F999|2F99A|2F99B
2F99C CJK COMPATIBILITY IDEOGRAPH-|2F99C|2F99D|2F99E|2F99F|2F9A0|2F9A1|2F9A2|2F9A3|2F9A4|2F9A5
2F9A6 CJK COMPATIBILITY IDEOGRAPH-|2F9A6|2F9A7|2F9A8|2F9A9|2F9AA|2F9AB|2F9AC|2F9AD|2F9AE|2F9AF
2F9B0 CJK COMPATIBILITY IDEOGRAPH-|2F9B0|2F9B1|2F9B2|2F9B3|2F9B4|2F9B5|2F9B6|2F9B7|2F9B8|2F9B9
2F9BA CJK COMPATIBILITY IDEOGRAPH-|2F9BA|2F9BB|2F9BC|2F9BD|2F9BE|2F9BF|2F9C0|2F9C1|2F9C2|2F9C3
2F9C4 CJK COMPATIBILITY IDEOGRAPH-|2F9C4|2F9C5|2F9C6|2F9C7|2F9C8|2F9C9|2F9CA|2F9CB|2F9CC|2F9CD
2F9CE CJK COMPATIBILITY IDEOGRAPH-|2F9CE|2F9CF|2F9D0|2F9D1|2F9D2|2F9D3|2F9D4|2F9D5|2F9D6|2F9D7
2F9D8 CJK COMPATIBILITY IDEOGRAPH-|2F9D8|2F9D9|2F9DA|2F9DB|2F9DC|2F9DD|2F9DE|2F9DF|2F9E0|2F9E1
2F9E2 CJK COMPATIBILITY IDEOGRAPH-|2F9E2|2F9E3|2F9E4|2F9E5|2F9E6|2F9E7|2F9E8|2F9E9|2F9EA|2F9EB
2F9EC CJK COMPATIBILITY IDEOGRAPH-|2F9EC|2F9ED|2F9EE|2F9EF|2F9F0|2F9F1|2F9F2|2F9F3|2F9F4|2F9F5
2F9F6 CJK COMPATIBILITY IDEOGRAPH-|2F9F6|2F9F7|2F9F8|2F9F9|2F9FA|2F9FB|2F9FC|2F9FD|2F9FE|2F9FF
2FA00 CJK COMPATIBILITY IDEOGRAPH-|2FA00|2FA01|2FA02|2FA03|2FA04|2FA05|2FA06|2FA07|2FA08|2FA09
2FA0A CJK COMPATIBILITY IDEOGRAPH-|2FA0A|2FA0B|2FA0C|2FA0D|2FA0E|2FA0F|2FA10|2FA11|2FA12|2FA13
2FA14 CJK COMPATIBILITY IDEOGRAPH-|2FA14|2FA15|2FA16|2FA17|2FA18|2FA19|2FA1A|2FA1B|2FA1C|2FA1D
E0001 |LANGUAGE TAG
E0020 TAG |SPACE|EXCLAMATION MARK|QUOTATION MARK
E0023 TAG |NUMBER SIGN|DOLLAR SIGN|PERCENT SIGN|AMPERSAND|APOSTROPHE|LEFT PARENTHESIS
E0029 TAG |RIGHT PARENTHESIS|ASTERISK|PLUS SIGN|COMMA|HYPHEN-MINUS|FULL STOP|SOLIDUS
E0030 TAG DIGIT |ZERO|ONE|TWO|THREE|FOUR|FIVE|SIX|SEVEN|EIGHT|NINE
E003A |TAG COLON
E003B TAG |SEMICOLON|LESS-THAN SIGN|EQUALS SIGN|GREATER-THAN SIGN|QUESTION MARK|COMMERCIAL AT
E0041 TAG LATIN CAPITAL LETTER |A|B|C|D|E|F|G|H|I|J|K|L|M|N|O|P|Q|R|S|T|U|V|W|X|Y|Z
E005B |TAG LEFT SQUARE BRACKET
E005C TAG |REVERSE SOLIDUS|RIGHT SQUARE BRACKET|CIRCUMFLEX ACCENT|LOW LINE|GRAVE ACCENT
E0061 TAG LATIN SMALL LETTER |A|B|C|D|E|F|G|H|I|J|K|L|M|N|O|P|Q|R|S|T|U|V|W|X|Y|Z
E007B TAG |LEFT CURLY BRACKET|VERTICAL LINE|RIGHT CURLY BRACKET|TILDE
E007F |CANCEL TAG
E0100 VARIATION SELECTOR-|17|18|19|20
E0104 VARIATION SELECTOR-|21|22|23|24|25|26|27|28|29|30|31|32|33|34|35|36|37|38|39|40|41|42|43|44
E011C VARIATION SELECTOR-|45|46|47|48|49|50|51|52|53|54|55|56|57|58|59|60|61|62|63|64|65|66|67|68
E0134 VARIATION SELECTOR-|69|70|71|72|73|74|75|76|77|78|79|80|81|82|83|84|85|86|87|88|89|90|91|92
E014C VARIATION SELECTOR-|93|94|95|96|97|98|99|100|101|102|103|104|105|106|107|108|109|110|111|112
E0160 VARIATION SELECTOR-|113|114|115|116|117|118|119|120|121|122|123|124|125|126|127|128|129|130
E0172 VARIATION SELECTOR-|131|132|133|134|135|136|137|138|139|140|141|142|143|144|145|146|147|148
E0184 VARIATION SELECTOR-|149|150|151|152|153|154|155|156|157|158|159|160|161|162|163|164|165|166
E0196 VARIATION SELECTOR-|167|168|169|170|171|172|173|174|175|176|177|178|179|180|181|182|183|184
E01A8 VARIATION SELECTOR-|185|186|187|188|189|190|191|192|193|194|195|196|197|198|199|200|201|202
E01BA VARIATION SELECTOR-|203|204|205|206|207|208|209|210|211|212|213|214|215|216|217|218|219|220
E01CC VARIATION SELECTOR-|221|222|223|224|225|226|227|228|229|230|231|232|233|234|235|236|237|238
E01DE VARIATION SELECTOR-|239|240|241|242|243|244|245|246|247|248|249|250|251|252|253|254|255|256
1E899 |MENDE KIKAKUI SYLLABLE M172 MBO
1E89A |MENDE KIKAKUI SYLLABLE M174 MBOO
E0100 |VS17
E0101 |VS18
E0102 |VS19
E0103 |VS20
E0104 |VS21
E0105 |VS22
E0106 |VS23
E0107 |VS24
E0108 |VS25
E0109 |VS26
E010A |VS27
E010B |VS28
E010C |VS29
E010D |VS30
E010E |VS31
E010F |VS32
E0110 |VS33
E0111 |VS34
E0112 |VS35
E0113 |VS36
E0114 |VS37
E0115 |VS38
E0116 |VS39
E0117 |VS40
E0118 |VS41
E0119 |VS42
E011A |VS43
E011B |VS44
E011C |VS45
E011D |VS46
E011E |VS47
E011F |VS48
E0120 |VS49
E0121 |VS50
E0122 |VS51
E0123 |VS52
E0124 |VS53
E0125 |VS54
E0126 |VS55
E0127 |VS56
E0128 |VS57
E0129 |VS58
E012A |VS59
E012B |VS60
E012C |VS61
E012D |VS62
E012E |VS63
E012F |VS64
E0130 |VS65
E0131 |VS66
E0132 |VS67
E0133 |VS68
E0134 |VS69
E0135 |VS70
E0136 |VS71
E0137 |VS72
E0138 |VS73
E0139 |VS74
E013A |VS75
E013B |VS76
E013C |VS77
E013D |VS78
E013E |VS79
E013F |VS80
E0140 |VS81
E0141 |VS82
E0142 |VS83
E0143 |VS84
E0144 |VS85
E0145 |VS86
E0146 |VS87
E0147 |VS88
E0148 |VS89
E0149 |VS90
E014A |VS91
E014B |VS92
E014C |VS93
E014D |VS94
E014E |VS95
E014F |VS96
E0150 |VS97
E0151 |VS98
E0152 |VS99
E0153 |VS100
E0154 |VS101
E0155 |VS102
E0156 |VS103
E0157 |VS104
E0158 |VS105
E0159 |VS106
E015A |VS107
E015B |VS108
E015C |VS109
E015D |VS110
E015E |VS111
E015F |VS112
E0160 |VS113
E0161 |VS114
E0162 |VS115
E0163 |VS116
E0164 |VS117
E0165 |VS118
E0166 |VS119
E0167 |VS120
E0168 |VS121
E0169 |VS122
E016A |VS123
E016B |VS124
E016C |VS125
E016D |VS126
E016E |VS127
E016F |VS128
E0170 |VS129
E0171 |VS130
E0172 |VS131
E0173 |VS132
E0174 |VS133
E0175 |VS134
E0176 |VS135
E0177 |VS136
E0178 |VS137
E0179 |VS138
E017A |VS139
E017B |VS140
E017C |VS141
E017D |VS142
E017E |VS143
E017F |VS144
E0180 |VS145
E0181 |VS146
E0182 |VS147
E0183 |VS148
E0184 |VS149
E0185 |VS150
E0186 |VS151
E0187 |VS152
E0188 |VS153
E0189 |VS154
E018A |VS155
E018B |VS156
E018C |VS157
E018D |VS158
E018E |VS159
E018F |VS160
E0190 |VS161
E0191 |VS162
E0192 |VS163
E0193 |VS164
E0194 |VS165
E0195 |VS166
E0196 |VS167
E0197 |VS168
E0198 |VS169
E0199 |VS170
E019A |VS171
E019B |VS172
E019C |VS173
E019D |VS174
E019E |VS175
E019F |VS176
E01A0 |VS177
E01A1 |VS178
E01A2 |VS179
E01A3 |VS180
E01A4 |VS181
E01A5 |VS182
E01A6 |VS183
E01A7 |VS184
E01A8 |VS185
E01A9 |VS186
E01AA |VS187
E01AB |VS188
E01AC |VS189
E01AD |VS190
E01AE |VS191
E01AF |VS192
E01B0 |VS193
E01B1 |VS194
E01B2 |VS195
E01B3 |VS196
E01B4 |VS197
E01B5 |VS198
E01B6 |VS199
E01B7 |VS200
E01B8 |VS201
E01B9 |VS202
E01BA |VS203
E01BB |VS204
E01BC |VS205
E01BD |VS206
E01BE |VS207
E01BF |VS208
E01C0 |VS209
E01C1 |VS210
E01C2 |VS211
E01C3 |VS212
E01C4 |VS213
E01C5 |VS214
E01C6 |VS215
E01C7 |VS216
E01C8 |VS217
E01C9 |VS218
E01CA |VS219
E01CB |VS220
E01CC |VS221
E01CD |VS222
E01CE |VS223
E01CF |VS224
E01D0 |VS225
E01D1 |VS226
E01D2 |VS227
E01D3 |VS228
E01D4 |VS229
E01D5 |VS230
E01D6 |VS231
E01D7 |VS232
E01D8 |VS233
E01D9 |VS234
E01DA |VS235
E01DB |VS236
E01DC |VS237
E01DD |VS238
E01DE |VS239
E01DF |VS240
E01E0 |VS241
E01E1 |VS242
E01E2 |VS243
E01E3 |VS244
E01E4 |VS245
E01E5 |VS246
E01E6 |VS247
E01E7 |VS248
E01E8 |VS249
E01E9 |VS250
E01EA |VS251
E01EB |VS252
E01EC |VS253
E01ED |VS254
E01EE |VS255
E01EF |VS256"

end TagMenu.Unicode
