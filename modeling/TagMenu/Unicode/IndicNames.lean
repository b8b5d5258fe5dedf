namespace TagMenu.Unicode

def indicNames : String :=
"591 HEBREW ACCENT |ETNAHTA|SEGOL|SHALSHELET|ZAQEF QATAN
595 HEBREW ACCENT |ZAQEF GADOL|TIPEHA|REVIA|ZARQA|PASHTA|YETIV|TEVIR|GERESH|GERESH MUQDAM
59E HEBREW ACCENT |GERSHAYIM|QARNEY PARA|TELISHA GEDOLA|PAZER|ATNAH HAFUKH|MUNAH|MAHAPAKH|MERKHA
5A6 HEBREW ACCENT |MERKHA KEFULA|DARGA|QADMA|TELISHA QETANA|YERAH BEN YOMO|OLE|ILUY|DEHI|ZINOR
5AF HEBREW |MARK MASORA CIRCLE|POINT SHEVA
5B1 HEBREW POINT HATAF |SEGOL|PATAH|QAMATS
5B4 HEBREW POINT |HIRIQ|TSERE|SEGOL|PATAH|QAMATS|HOLAM|HOLAM HASER FOR VAV|QUBUTS|DAGESH OR MAPIQ
5BD HEBREW |POINT METEG|PUNCTUATION MAQAF
5BF HEBREW |POINT RAFE|PUNCTUATION PASEQ|POINT SHIN DOT|POINT SIN DOT|PUNCTUATION SOF PASUQ
5C4 HEBREW |MARK UPPER DOT|MARK LOWER DOT|PUNCTUATION NUN HAFUKHA|POINT QAMATS QATAN
5D0 HEBREW LETTER |ALEF|BET|GIMEL|DALET|HE|VAV|ZAYIN|HET|TET|YOD|FINAL KAF|KAF|LAMED|FINAL MEM
5DE HEBREW LETTER |MEM|FINAL NUN|NUN|SAMEKH|AYIN|FINAL PE|PE|FINAL TSADI|TSADI|QOF|RESH|SHIN|TAV
5EF |HEBREW YOD TRIANGLE
5F0 HEBREW LIGATURE YIDDISH |DOUBLE VAV|VAV YOD|DOUBLE YOD
5F3 HEBREW PUNCTUATION |GERESH|GERSHAYIM
600 ARABIC |NUMBER SIGN|SIGN SANAH|FOOTNOTE MARKER|SIGN SAFHA|SIGN SAMVAT|NUMBER MARK ABOVE
606 ARABIC-INDIC |CUBE ROOT|FOURTH ROOT
608 |ARABIC RAY
609 ARABIC-INDIC PER |MILLE SIGN|TEN THOUSAND SIGN
60B |AFGHANI SIGN
60C ARABIC |COMMA|DATE SEPARATOR|POETIC VERSE SIGN|SIGN MISRA|SIGN SALLALLAHOU ALAYHE WASSALLAM
611 ARABIC SIGN |ALAYHE ASSALLAM|RAHMATULLAH ALAYHE|RADI ALLAHOU ANHU|TAKHALLUS
615 ARABIC SMALL |HIGH TAH|HIGH LIGATURE ALEF WITH LAM WITH YEH|HIGH ZAIN|FATHA|DAMMA|KASRA
61B ARABIC |SEMICOLON|LETTER MARK|END OF TEXT MARK|TRIPLE DOT PUNCTUATION MARK|QUESTION MARK
620 ARABIC LETTER |KASHMIRI YEH|HAMZA|ALEF WITH MADDA ABOVE|ALEF WITH HAMZA ABOVE
624 ARABIC LETTER |WAW WITH HAMZA ABOVE|ALEF WITH HAMZA BELOW|YEH WITH HAMZA ABOVE
627 ARABIC LETTER |ALEF|BEH|TEH MARBUTA|TEH|THEH|JEEM|HAH|KHAH|DAL|THAL|REH|ZAIN|SEEN|SHEEN
635 ARABIC LETTER |SAD|DAD|TAH|ZAH|AIN|GHAIN|KEHEH WITH TWO DOTS ABOVE|KEHEH WITH THREE DOTS BELOW
63D ARABIC LETTER FARSI YEH WITH |INVERTED V|TWO DOTS ABOVE|THREE DOTS ABOVE
640 |ARABIC TATWEEL
641 ARABIC LETTER |FEH|QAF|KAF|LAM|MEEM|NOON|HEH|WAW|ALEF MAKSURA|YEH
64B ARABIC |FATHATAN|DAMMATAN|KASRATAN|FATHA|DAMMA|KASRA|SHADDA|SUKUN|MADDAH ABOVE
654 ARABIC |HAMZA ABOVE|HAMZA BELOW|SUBSCRIPT ALEF|INVERTED DAMMA|MARK NOON GHUNNA|ZWARAKAY
65A ARABIC VOWEL SIGN |SMALL V ABOVE|INVERTED SMALL V ABOVE|DOT BELOW
65D ARABIC |REVERSED DAMMA|FATHA WITH TWO DOTS|WAVY HAMZA BELOW
660 ARABIC-INDIC DIGIT |ZERO|ONE|TWO|THREE|FOUR|FIVE|SIX|SEVEN|EIGHT|NINE
66A ARABIC |PERCENT SIGN|DECIMAL SEPARATOR|THOUSANDS SEPARATOR|FIVE POINTED STAR
66E ARABIC LETTER |DOTLESS BEH|DOTLESS QAF|SUPERSCRIPT ALEF|ALEF WASLA
672 ARABIC LETTER ALEF WITH WAVY HAMZA |ABOVE|BELOW
674 ARABIC LETTER |HIGH HAMZA|HIGH HAMZA ALEF|HIGH HAMZA WAW|U WITH HAMZA ABOVE|HIGH HAMZA YEH
679 ARABIC LETTER |TTEH|TTEHEH|BEEH|TEH WITH RING|TEH WITH THREE DOTS ABOVE DOWNWARDS
67E ARABIC LETTER |PEH|TEHEH|BEHEH|HAH WITH HAMZA ABOVE|HAH WITH TWO DOTS VERTICAL ABOVE
683 ARABIC LETTER |NYEH|DYEH|HAH WITH THREE DOTS ABOVE|TCHEH|TCHEHEH|DDAL
689 ARABIC LETTER DAL WITH |RING|DOT BELOW|DOT BELOW AND SMALL TAH
68C ARABIC LETTER |DAHAL|DDAHAL|DUL|DAL WITH THREE DOTS ABOVE DOWNWARDS
690 ARABIC LETTER |DAL WITH FOUR DOTS ABOVE|RREH|REH WITH SMALL V
693 ARABIC LETTER REH WITH |RING|DOT BELOW|SMALL V BELOW|DOT BELOW AND DOT ABOVE|TWO DOTS ABOVE
698 ARABIC LETTER |JEH|REH WITH FOUR DOTS ABOVE|SEEN WITH DOT BELOW AND DOT ABOVE
69B ARABIC LETTER SEEN WITH THREE DOTS |BELOW|BELOW AND THREE DOTS ABOVE
69D ARABIC LETTER SAD WITH |TWO DOTS BELOW|THREE DOTS ABOVE
69F ARABIC LETTER |TAH WITH THREE DOTS ABOVE|AIN WITH THREE DOTS ABOVE|DOTLESS FEH
6A2 ARABIC LETTER |FEH WITH DOT MOVED BELOW|FEH WITH DOT BELOW|VEH|FEH WITH THREE DOTS BELOW|PEHEH
6A7 ARABIC LETTER QAF WITH |DOT ABOVE|THREE DOTS ABOVE
6A9 ARABIC LETTER |KEHEH|SWASH KAF|KAF WITH RING|KAF WITH DOT ABOVE|NG|KAF WITH THREE DOTS BELOW
6AF ARABIC LETTER |GAF|GAF WITH RING|NGOEH|GAF WITH TWO DOTS BELOW|GUEH|GAF WITH THREE DOTS ABOVE
6B5 ARABIC LETTER LAM WITH |SMALL V|DOT ABOVE|THREE DOTS ABOVE|THREE DOTS BELOW
6B9 ARABIC LETTER |NOON WITH DOT BELOW|NOON GHUNNA|RNOON|NOON WITH RING|NOON WITH THREE DOTS ABOVE
6BE ARABIC LETTER |HEH DOACHASHMEE|TCHEH WITH DOT ABOVE|HEH WITH YEH ABOVE
6C1 ARABIC LETTER |HEH GOAL|HEH GOAL WITH HAMZA ABOVE|TEH MARBUTA GOAL|WAW WITH RING|KIRGHIZ OE
6C6 ARABIC LETTER |OE|U|YU|KIRGHIZ YU|WAW WITH TWO DOTS ABOVE|VE|FARSI YEH|YEH WITH TAIL
6CE ARABIC LETTER |YEH WITH SMALL V|WAW WITH DOT ABOVE|E|YEH WITH THREE DOTS BELOW|YEH BARREE
6D3 ARABIC |LETTER YEH BARREE WITH HAMZA ABOVE|FULL STOP|LETTER AE
6D6 ARABIC SMALL HIGH LIGATURE |SAD WITH LAM WITH ALEF MAKSURA|QAF WITH LAM WITH ALEF MAKSURA
6D8 ARABIC SMALL HIGH |MEEM INITIAL FORM|LAM ALEF|JEEM|THREE DOTS|SEEN
6DD ARABIC |END OF AYAH|START OF RUB EL HIZB
6DF ARABIC SMALL HIGH |ROUNDED ZERO|UPRIGHT RECTANGULAR ZERO|DOTLESS HEAD OF KHAH
6E2 ARABIC SMALL |HIGH MEEM ISOLATED FORM|LOW SEEN|HIGH MADDA|WAW|YEH|HIGH YEH|HIGH NOON
6E9 ARABIC |PLACE OF SAJDAH|EMPTY CENTRE LOW STOP
6EB ARABIC |EMPTY CENTRE HIGH STOP|ROUNDED HIGH STOP WITH FILLED CENTRE|SMALL LOW MEEM
6EE ARABIC LETTER |DAL WITH INVERTED V|REH WITH INVERTED V
6F0 EXTENDED ARABIC-INDIC DIGIT |ZERO|ONE|TWO|THREE|FOUR|FIVE|SIX|SEVEN|EIGHT|NINE
6FA ARABIC LETTER |SHEEN WITH DOT BELOW|DAD WITH DOT BELOW|GHAIN WITH DOT BELOW
6FD ARABIC |SIGN SINDHI AMPERSAND|SIGN SINDHI POSTPOSITION MEN|LETTER HEH WITH INVERTED V
700 SYRIAC |END OF PARAGRAPH|SUPRALINEAR FULL STOP|SUBLINEAR FULL STOP|SUPRALINEAR COLON
704 SYRIAC |SUBLINEAR COLON|HORIZONTAL COLON|COLON SKEWED LEFT|COLON SKEWED RIGHT
708 SYRIAC |SUPRALINEAR COLON SKEWED LEFT|SUBLINEAR COLON SKEWED RIGHT|CONTRACTION
70B SYRIAC HARKLEAN |OBELUS|METOBELUS|ASTERISCUS
70F |SYRIAC ABBREVIATION MARK
710 SYRIAC LETTER |ALAPH|SUPERSCRIPT ALAPH|BETH|GAMAL|GAMAL GARSHUNI|DALATH
716 SYRIAC LETTER |DOTLESS DALATH RISH|HE|WAW|ZAIN|HETH|TETH|TETH GARSHUNI|YUDH|YUDH HE|KAPH
720 SYRIAC LETTER |LAMADH|MIM|NUN|SEMKATH|FINAL SEMKATH|E|PE|REVERSED PE|SADHE|QAPH|RISH|SHIN|TAW
72D SYRIAC LETTER PERSIAN |BHETH|GHAMAL|DHALATH
730 SYRIAC PTHAHA |ABOVE|BELOW|DOTTED
733 SYRIAC ZQAPHA |ABOVE|BELOW|DOTTED
736 SYRIAC RBASA |ABOVE|BELOW
738 SYRIAC DOTTED ZLAMA |HORIZONTAL|ANGULAR
73A SYRIAC HBASA |ABOVE|BELOW
73C SYRIAC |HBASA-ESASA DOTTED|ESASA ABOVE|ESASA BELOW|RWAHA|FEMININE DOT|QUSHSHAYA|RUKKAKHA
743 SYRIAC TWO VERTICAL DOTS |ABOVE|BELOW
745 SYRIAC |THREE DOTS ABOVE|THREE DOTS BELOW|OBLIQUE LINE ABOVE|OBLIQUE LINE BELOW|MUSIC|BARREKH
74D SYRIAC LETTER SOGDIAN |ZHAIN|KHAPH|FE
750 ARABIC LETTER BEH WITH |THREE DOTS HORIZONTALLY BELOW|DOT BELOW AND THREE DOTS ABOVE
752 ARABIC LETTER BEH WITH THREE DOTS POINTING UPWARDS |BELOW|BELOW AND TWO DOTS ABOVE
754 ARABIC LETTER BEH WITH |TWO DOTS BELOW AND DOT ABOVE|INVERTED SMALL V BELOW|SMALL V
757 ARABIC LETTER HAH WITH |TWO DOTS ABOVE|THREE DOTS POINTING UPWARDS BELOW
759 ARABIC LETTER DAL WITH |TWO DOTS VERTICALLY BELOW AND SMALL TAH|INVERTED SMALL V BELOW
75B ARABIC LETTER |REH WITH STROKE|SEEN WITH FOUR DOTS ABOVE|AIN WITH TWO DOTS ABOVE
75E ARABIC LETTER AIN WITH |THREE DOTS POINTING DOWNWARDS ABOVE|TWO DOTS VERTICALLY ABOVE
760 ARABIC LETTER FEH WITH |TWO DOTS BELOW|THREE DOTS POINTING UPWARDS BELOW
762 ARABIC LETTER KEHEH WITH |DOT ABOVE|THREE DOTS ABOVE|THREE DOTS POINTING UPWARDS BELOW
765 ARABIC LETTER MEEM WITH DOT |ABOVE|BELOW
767 ARABIC LETTER NOON WITH |TWO DOTS BELOW|SMALL TAH|SMALL V
76A ARABIC LETTER |LAM WITH BAR|REH WITH TWO DOTS VERTICALLY ABOVE
76C ARABIC LETTER |REH WITH HAMZA ABOVE|SEEN WITH TWO DOTS VERTICALLY ABOVE
76E ARABIC LETTER HAH WITH SMALL ARABIC LETTER TAH |BELOW|AND TWO DOTS
770 |ARABIC LETTER SEEN WITH SMALL ARABIC LETTER TAH AND TWO DOTS
771 |ARABIC LETTER REH WITH SMALL ARABIC LETTER TAH AND TWO DOTS
772 |ARABIC LETTER HAH WITH SMALL ARABIC LETTER TAH ABOVE
773 ARABIC LETTER ALEF WITH EXTENDED ARABIC-INDIC DIGIT |TWO ABOVE|THREE ABOVE
775 ARABIC LETTER FARSI YEH WITH EXTENDED ARABIC-INDIC DIGIT |TWO ABOVE|THREE ABOVE|FOUR BELOW
778 ARABIC LETTER WAW WITH EXTENDED ARABIC-INDIC DIGIT |TWO ABOVE|THREE ABOVE
77A ARABIC LETTER YEH BARREE WITH EXTENDED ARABIC-INDIC DIGIT |TWO ABOVE|THREE ABOVE
77C |ARABIC LETTER HAH WITH EXTENDED ARABIC-INDIC DIGIT FOUR BELOW
77D ARABIC LETTER SEEN WITH |EXTENDED ARABIC-INDIC DIGIT FOUR ABOVE|INVERTED V
77F |ARABIC LETTER KAF WITH TWO DOTS ABOVE
780 THAANA LETTER |HAA|SHAVIYANI|NOONU|RAA|BAA|LHAVIYANI|KAAFU|ALIFU|VAAVU|MEEMU|FAAFU|DHAALU|THAA
78D THAANA LETTER |LAAMU|GAAFU|GNAVIYANI|SEENU|DAVIYANI|ZAVIYANI|TAVIYANI|YAA|PAVIYANI|JAVIYANI
797 THAANA LETTER |CHAVIYANI|TTAA|HHAA|KHAA|THAALU|ZAA|SHEENU|SAADHU|DAADHU|TO|ZO|AINU|GHAINU
7A4 THAANA |LETTER QAAFU|LETTER WAAVU|ABAFILI|AABAAFILI|IBIFILI
7A9 THAANA |EEBEEFILI|UBUFILI|OOBOOFILI|EBEFILI|EYBEYFILI|OBOFILI|OABOAFILI|SUKUN|LETTER NAA
7C0 NKO DIGIT |ZERO|ONE|TWO|THREE|FOUR|FIVE|SIX|SEVEN|EIGHT|NINE
7CA NKO LETTER |A|EE|I|E|U|OO|O|DAGBASINNA|N|BA|PA|TA|JA|CHA|DA|RA|RRA
7DB NKO LETTER |SA|GBA|FA|KA|LA|NA WOLOSO|MA|NYA|NA|HA|WA|YA|NYA WOLOSO|JONA JA|JONA CHA|JONA RA
7EB NKO COMBINING SHORT |HIGH TONE|LOW TONE|RISING TONE
7EE NKO COMBINING LONG |DESCENDING TONE|HIGH TONE|LOW TONE|RISING TONE
7F2 NKO |COMBINING NASALIZATION MARK|COMBINING DOUBLE DOT ABOVE|HIGH TONE APOSTROPHE
7F5 NKO |LOW TONE APOSTROPHE|SYMBOL OO DENNEN|SYMBOL GBAKURUNEN|COMMA|EXCLAMATION MARK|LAJANYALAN
7FD NKO |DANTAYALAN|DOROME SIGN|TAMAN SIGN
800 SAMARITAN LETTER |ALAF|BIT|GAMAN|DALAT|IY|BAA
806 SAMARITAN LETTER |ZEN|IT|TIT|YUT|KAAF|LABAT|MIM|NUN|SINGAAT|IN|FI|TSAADIY|QUF|RISH|SHAN|TAAF
816 SAMARITAN MARK |IN|IN-ALAF|OCCLUSION|DAGESH
81A SAMARITAN |MODIFIER LETTER EPENTHETIC YUT|MARK EPENTHETIC YUT
81C SAMARITAN VOWEL SIGN |LONG E|E|OVERLONG AA|LONG AA|AA|OVERLONG A|LONG A|A
824 |SAMARITAN MODIFIER LETTER SHORT A
825 SAMARITAN VOWEL SIGN |SHORT A|LONG U|U
828 |SAMARITAN MODIFIER LETTER I
829 SAMARITAN VOWEL SIGN |LONG I|I|O|SUKUN
82D |SAMARITAN MARK NEQUDAA
830 SAMARITAN PUNCTUATION |NEQUDAA|AFSAAQ|ANGED|BAU|ATMAAU|SHIYYAALAA
836 |SAMARITAN ABBREVIATION MARK
837 SAMARITAN PUNCTUATION |MELODIC QITSA|ZIQAA|QITSA|ZAEF|TURU|ARKAANU|SOF MASHFAAT|ANNAAU
840 MANDAIC LETTER |HALQA|AB|AG|AD|AH
845 MANDAIC LETTER |USHENNA|AZ|IT|ATT|AKSA|AK|AL|AM|AN|AS|IN|AP|ASZ|AQ|AR|ASH|AT|DUSHENNA|KAD|AIN
859 MANDAIC |AFFRICATION MARK|VOCALIZATION MARK|GEMINATION MARK
85E |MANDAIC PUNCTUATION
860 SYRIAC LETTER MALAYALAM |NGA|JA|NYA|TTA|NNA|NNNA|BHA|RA|LLA|LLLA|SSA
870 ARABIC LETTER ALEF WITH ATTACHED |FATHA|TOP RIGHT FATHA
872 ARABIC LETTER ALEF WITH |RIGHT MIDDLE STROKE|LEFT MIDDLE STROKE
874 ARABIC LETTER ALEF WITH ATTACHED |KASRA|BOTTOM RIGHT KASRA|ROUND DOT ABOVE
877 ARABIC LETTER ALEF WITH ATTACHED |RIGHT ROUND DOT|LEFT ROUND DOT|ROUND DOT BELOW
87A ARABIC LETTER ALEF WITH |DOT ABOVE|ATTACHED TOP RIGHT FATHA AND DOT ABOVE
87C |ARABIC LETTER ALEF WITH RIGHT MIDDLE STROKE AND DOT ABOVE
87D |ARABIC LETTER ALEF WITH ATTACHED BOTTOM RIGHT KASRA AND DOT ABOVE
87E |ARABIC LETTER ALEF WITH ATTACHED TOP RIGHT FATHA AND LEFT RING
87F |ARABIC LETTER ALEF WITH RIGHT MIDDLE STROKE AND LEFT RING
880 ARABIC LETTER ALEF WITH ATTACHED |BOTTOM RIGHT KASRA AND LEFT RING|RIGHT HAMZA|LEFT HAMZA
883 ARABIC TATWEEL WITH |OVERSTRUCK HAMZA|OVERSTRUCK WAW|TWO DOTS BELOW
886 ARABIC |LETTER THIN YEH|BASELINE ROUND DOT|RAISED ROUND DOT|LETTER NOON WITH INVERTED SMALL V
88A ARABIC LETTER |HAH WITH INVERTED SMALL V BELOW|TAH WITH DOT BELOW|TAH WITH THREE DOTS BELOW
88D ARABIC |LETTER KEHEH WITH TWO DOTS VERTICALLY BELOW|VERTICAL TAIL
890 ARABIC |POUND MARK ABOVE|PIASTRE MARK ABOVE
897 ARABIC |PEPET|SMALL HIGH WORD AL-JUZ
899 ARABIC SMALL LOW WORD |ISHMAAM|IMAALA|TASHEEL
89C ARABIC |MADDA WAAJIB|SUPERSCRIPT ALEF MOKHASSAS|DOUBLED MADDA|HALF MADDA OVER MADDA
8A0 ARABIC LETTER |BEH WITH SMALL V BELOW|BEH WITH HAMZA ABOVE|JEEM WITH TWO DOTS ABOVE
8A3 ARABIC LETTER |TAH WITH TWO DOTS ABOVE|FEH WITH DOT BELOW AND THREE DOTS ABOVE
8A5 ARABIC LETTER |QAF WITH DOT BELOW|LAM WITH DOUBLE BAR|MEEM WITH THREE DOTS ABOVE
8A8 ARABIC LETTER YEH WITH TWO DOTS BELOW AND |HAMZA ABOVE|DOT ABOVE
8AA ARABIC LETTER |REH WITH LOOP|WAW WITH DOT WITHIN|ROHINGYA YEH|LOW ALEF
8AE ARABIC LETTER |DAL WITH THREE DOTS BELOW|SAD WITH THREE DOTS BELOW|GAF WITH INVERTED STROKE
8B1 ARABIC LETTER |STRAIGHT WAW|ZAIN WITH INVERTED V ABOVE|AIN WITH THREE DOTS BELOW
8B4 ARABIC LETTER |KAF WITH DOT BELOW|QAF WITH DOT BELOW AND NO DOTS ABOVE
8B6 ARABIC LETTER |BEH WITH SMALL MEEM ABOVE|PEH WITH SMALL MEEM ABOVE|TEH WITH SMALL TEH ABOVE
8B9 ARABIC LETTER |REH WITH SMALL NOON ABOVE|YEH WITH TWO DOTS BELOW AND SMALL NOON ABOVE
8BB ARABIC LETTER |AFRICAN FEH|AFRICAN QAF|AFRICAN NOON|PEH WITH SMALL V
8BF ARABIC LETTER |TEH WITH SMALL V|TTEH WITH SMALL V|TCHEH WITH SMALL V|KEHEH WITH SMALL V
8C3 ARABIC LETTER |GHAIN WITH THREE DOTS ABOVE|AFRICAN QAF WITH THREE DOTS ABOVE
8C5 ARABIC LETTER JEEM WITH THREE DOTS |ABOVE|BELOW
8C7 ARABIC |LETTER LAM WITH SMALL ARABIC LETTER TAH ABOVE|LETTER GRAF|SMALL FARSI YEH
8CA ARABIC SMALL HIGH |FARSI YEH|YEH BARREE WITH TWO DOTS BELOW|WORD SAH|ZAH
8CE ARABIC LARGE ROUND DOT |ABOVE|BELOW
8D0 ARABIC |SUKUN BELOW|LARGE CIRCLE BELOW|LARGE ROUND DOT INSIDE CIRCLE BELOW|SMALL LOW WAW
8D4 ARABIC SMALL HIGH |WORD AR-RUB|SAD|AIN|QAF|NOON WITH KASRA
8D9 |ARABIC SMALL LOW NOON WITH KASRA
8DA ARABIC SMALL HIGH WORD |ATH-THALATHA|AS-SAJDA|AN-NISF|SAKTA|QIF|WAQFA
8E0 ARABIC SMALL HIGH |FOOTNOTE MARKER|SIGN SAFHA
8E2 ARABIC |DISPUTED END OF AYAH|TURNED DAMMA BELOW
8E4 ARABIC CURLY |FATHA|DAMMA|KASRA|FATHATAN|DAMMATAN|KASRATAN
8EA ARABIC TONE |ONE DOT ABOVE|TWO DOTS ABOVE|LOOP ABOVE|ONE DOT BELOW|TWO DOTS BELOW|LOOP BELOW
8F0 ARABIC OPEN |FATHATAN|DAMMATAN|KASRATAN
8F3 ARABIC |SMALL HIGH WAW|FATHA WITH RING|FATHA WITH DOT ABOVE|KASRA WITH DOT BELOW
8F7 ARABIC |LEFT ARROWHEAD ABOVE|RIGHT ARROWHEAD ABOVE|LEFT ARROWHEAD BELOW|RIGHT ARROWHEAD BELOW
8FB ARABIC DOUBLE RIGHT ARROWHEAD |ABOVE|ABOVE WITH DOT
8FD ARABIC |RIGHT ARROWHEAD ABOVE WITH DOT|DAMMA WITH DOT|MARK SIDEWAYS NOON GHUNNA
900 DEVANAGARI SIGN |INVERTED CANDRABINDU|CANDRABINDU|ANUSVARA|VISARGA
904 DEVANAGARI LETTER |SHORT A|A|AA|I|II|U|UU|VOCALIC R|VOCALIC L|CANDRA E|SHORT E|E|AI|CANDRA O
912 DEVANAGARI LETTER |SHORT O|O|AU|KA|KHA|GA|GHA|NGA|CA|CHA|JA|JHA|NYA|TTA|TTHA|DDA|DDHA|NNA|TA
925 DEVANAGARI LETTER |THA|DA|DHA|NA|NNNA|PA|PHA|BA|BHA|MA|YA|RA|RRA|LA|LLA|LLLA|VA|SHA|SSA|SA|HA
93A DEVANAGARI |VOWEL SIGN OE|VOWEL SIGN OOE|SIGN NUKTA|SIGN AVAGRAHA|VOWEL SIGN AA
93F DEVANAGARI VOWEL SIGN |I|II|U|UU|VOCALIC R|VOCALIC RR|CANDRA E|SHORT E|E|AI|CANDRA O|SHORT O|O
94C DEVANAGARI |VOWEL SIGN AU|SIGN VIRAMA|VOWEL SIGN PRISHTHAMATRA E
94F DEVANAGARI |VOWEL SIGN AW|OM|STRESS SIGN UDATTA|STRESS SIGN ANUDATTA|GRAVE ACCENT|ACUTE ACCENT
955 DEVANAGARI VOWEL SIGN |CANDRA LONG E|UE|UUE
958 DEVANAGARI LETTER |QA|KHHA|GHHA|ZA|DDDHA|RHA|FA|YYA|VOCALIC RR|VOCALIC LL
962 DEVANAGARI VOWEL SIGN VOCALIC |L|LL
964 DEVANAGARI |DANDA|DOUBLE DANDA
966 DEVANAGARI DIGIT |ZERO|ONE|TWO|THREE|FOUR|FIVE|SIX|SEVEN|EIGHT|NINE
970 DEVANAGARI |ABBREVIATION SIGN|SIGN HIGH SPACING DOT|LETTER CANDRA A
973 DEVANAGARI LETTER |OE|OOE|AW|UE|UUE|MARWARI DDA|ZHA|HEAVY YA|GGA|JJA|GLOTTAL STOP|DDDA|BBA
980 BENGALI |ANJI|SIGN CANDRABINDU|SIGN ANUSVARA|SIGN VISARGA
985 BENGALI LETTER |A|AA|I|II|U|UU|VOCALIC R|VOCALIC L
98F BENGALI LETTER |E|AI
993 |BENGALI LETTER O
994 BENGALI LETTER |AU|KA|KHA|GA|GHA|NGA|CA|CHA|JA|JHA|NYA|TTA|TTHA|DDA|DDHA|NNA|TA|THA|DA|DHA|NA
9AA BENGALI LETTER |PA|PHA|BA|BHA|MA|YA|RA
9B2 |BENGALI LETTER LA
9B6 BENGALI LETTER |SHA|SSA|SA|HA
9BC BENGALI SIGN |NUKTA|AVAGRAHA
9BE BENGALI VOWEL SIGN |AA|I|II|U|UU|VOCALIC R|VOCALIC RR
9C7 BENGALI VOWEL SIGN |E|AI
9CB BENGALI |VOWEL SIGN O|VOWEL SIGN AU|SIGN VIRAMA|LETTER KHANDA TA
9D7 |BENGALI AU LENGTH MARK
9DC BENGALI LETTER |RRA|RHA
9DF BENGALI LETTER |YYA|VOCALIC RR|VOCALIC LL
9E2 BENGALI VOWEL SIGN VOCALIC |L|LL
9E6 BENGALI DIGIT |ZERO|ONE|TWO|THREE|FOUR|FIVE|SIX|SEVEN|EIGHT|NINE
9F0 BENGALI LETTER RA WITH |MIDDLE DIAGONAL|LOWER DIAGONAL
9F2 BENGALI RUPEE |MARK|SIGN
9F4 BENGALI CURRENCY NUMERATOR |ONE|TWO|THREE|FOUR|ONE LESS THAN THE DENOMINATOR
9F9 |BENGALI CURRENCY DENOMINATOR SIXTEEN
9FA BENGALI |ISSHAR|GANDA MARK|LETTER VEDIC ANUSVARA|ABBREVIATION SIGN|SANDHI MARK
A01 GURMUKHI SIGN |ADAK BINDI|BINDI|VISARGA
A05 GURMUKHI LETTER |A|AA|I|II|U|UU
A0F GURMUKHI LETTER |EE|AI
A13 |GURMUKHI LETTER OO
A14 GURMUKHI LETTER |AU|KA|KHA|GA|GHA|NGA|CA|CHA|JA|JHA|NYA|TTA|TTHA|DDA|DDHA|NNA|TA|THA|DA|DHA|NA
A2A GURMUKHI LETTER |PA|PHA|BA|BHA|MA|YA|RA
A32 GURMUKHI LETTER |LA|LLA
A35 GURMUKHI LETTER |VA|SHA
A38 GURMUKHI LETTER |SA|HA
A3C |GURMUKHI SIGN NUKTA
A3E GURMUKHI VOWEL SIGN |AA|I|II|U|UU
A47 GURMUKHI VOWEL SIGN |EE|AI
A4B GURMUKHI |VOWEL SIGN OO|VOWEL SIGN AU|SIGN VIRAMA
A51 |GURMUKHI SIGN UDAAT
A59 GURMUKHI LETTER |KHHA|GHHA|ZA|RRA
A5E |GURMUKHI LETTER FA
A66 GURMUKHI DIGIT |ZERO|ONE|TWO|THREE|FOUR|FIVE|SIX|SEVEN|EIGHT|NINE
A70 GURMUKHI |TIPPI|ADDAK|IRI|URA|EK ONKAR|SIGN YAKASH|ABBREVIATION SIGN
A81 GUJARATI SIGN |CANDRABINDU|ANUSVARA|VISARGA
A85 GUJARATI LETTER |A|AA|I|II|U|UU|VOCALIC R|VOCALIC L
A8D |GUJARATI VOWEL CANDRA E
A8F GUJARATI |LETTER E|LETTER AI|VOWEL CANDRA O
A93 |GUJARATI LETTER O
A94 GUJARATI LETTER |AU|KA|KHA|GA|GHA|NGA|CA|CHA|JA|JHA|NYA|TTA|TTHA|DDA|DDHA|NNA|TA|THA|DA|DHA|NA
AAA GUJARATI LETTER |PA|PHA|BA|BHA|MA|YA|RA
AB2 GUJARATI LETTER |LA|LLA
AB5 GUJARATI LETTER |VA|SHA|SSA|SA|HA
ABC GUJARATI SIGN |NUKTA|AVAGRAHA
ABE GUJARATI VOWEL SIGN |AA|I|II|U|UU|VOCALIC R|VOCALIC RR|CANDRA E
AC7 GUJARATI VOWEL SIGN |E|AI|CANDRA O
ACB GUJARATI |VOWEL SIGN O|VOWEL SIGN AU|SIGN VIRAMA
AD0 |GUJARATI OM
AE0 GUJARATI LETTER VOCALIC |RR|LL
AE2 GUJARATI VOWEL SIGN VOCALIC |L|LL
AE6 GUJARATI DIGIT |ZERO|ONE|TWO|THREE|FOUR|FIVE|SIX|SEVEN|EIGHT|NINE
AF0 GUJARATI |ABBREVIATION SIGN|RUPEE SIGN
AF9 GUJARATI |LETTER ZHA|SIGN SUKUN
AFB GUJARATI SIGN |SHADDA|MADDAH|THREE-DOT NUKTA ABOVE|CIRCLE NUKTA ABOVE|TWO-CIRCLE NUKTA ABOVE
B01 ORIYA SIGN |CANDRABINDU|ANUSVARA|VISARGA
B05 ORIYA LETTER |A|AA|I|II|U|UU|VOCALIC R|VOCALIC L
B0F ORIYA LETTER |E|AI
B13 ORIYA LETTER |O|AU|KA|KHA|GA|GHA|NGA|CA|CHA|JA|JHA|NYA|TTA|TTHA|DDA|DDHA|NNA|TA|THA|DA|DHA|NA
B2A ORIYA LETTER |PA|PHA|BA|BHA|MA|YA|RA
B32 ORIYA LETTER |LA|LLA
B35 ORIYA LETTER |VA|SHA|SSA|SA|HA
B3C ORIYA SIGN |NUKTA|AVAGRAHA
B3E ORIYA VOWEL SIGN |AA|I|II|U|UU|VOCALIC R|VOCALIC RR
B47 ORIYA VOWEL SIGN |E|AI
B4B ORIYA |VOWEL SIGN O|VOWEL SIGN AU|SIGN VIRAMA
B55 ORIYA |SIGN OVERLINE|AI LENGTH MARK|AU LENGTH MARK
B5C ORIYA LETTER |RRA|RHA
B5F ORIYA LETTER |YYA|VOCALIC RR|VOCALIC LL
B62 ORIYA VOWEL SIGN VOCALIC |L|LL
B66 ORIYA DIGIT |ZERO|ONE|TWO|THREE|FOUR|FIVE|SIX|SEVEN|EIGHT|NINE
B70 ORIYA |ISSHAR|LETTER WA
B72 ORIYA FRACTION |ONE QUARTER|ONE HALF|THREE QUARTERS|ONE SIXTEENTH|ONE EIGHTH|THREE SIXTEENTHS
B82 TAMIL SIGN |ANUSVARA|VISARGA
B85 TAMIL LETTER |A|AA|I|II|U|UU
B8E TAMIL LETTER |E|EE|AI
B92 TAMIL LETTER |O|OO|AU|KA
B99 TAMIL LETTER |NGA|CA
B9C |TAMIL LETTER JA
B9E TAMIL LETTER |NYA|TTA
BA3 TAMIL LETTER |NNA|TA
BA8 TAMIL LETTER |NA|NNNA|PA
BAE TAMIL LETTER |MA|YA|RA|RRA|LA|LLA|LLLA|VA|SHA|SSA|SA|HA
BBE TAMIL VOWEL SIGN |AA|I|II|U|UU
BC6 TAMIL VOWEL SIGN |E|EE|AI
BCA TAMIL VOWEL SIGN |O|OO|AU
BCD |TAMIL SIGN VIRAMA
BD0 |TAMIL OM
BD7 |TAMIL AU LENGTH MARK
BE6 TAMIL DIGIT |ZERO|ONE|TWO|THREE|FOUR|FIVE|SIX|SEVEN|EIGHT|NINE
BF0 TAMIL NUMBER |TEN|ONE HUNDRED|ONE THOUSAND
BF3 |TAMIL DAY SIGN
BF4 TAMIL |MONTH SIGN|YEAR SIGN|DEBIT SIGN|CREDIT SIGN|AS ABOVE SIGN|RUPEE SIGN|NUMBER SIGN
C00 TELUGU SIGN |COMBINING CANDRABINDU ABOVE|CANDRABINDU|ANUSVARA|VISARGA|COMBINING ANUSVARA ABOVE
C05 TELUGU LETTER |A|AA|I|II|U|UU|VOCALIC R|VOCALIC L
C0E TELUGU LETTER |E|EE|AI
C12 TELUGU LETTER |O|OO
C14 TELUGU LETTER |AU|KA|KHA|GA|GHA|NGA|CA|CHA|JA|JHA|NYA|TTA|TTHA|DDA|DDHA|NNA|TA|THA|DA|DHA|NA
C2A TELUGU LETTER |PA|PHA|BA|BHA|MA|YA|RA|RRA|LA|LLA|LLLA|VA|SHA|SSA|SA|HA
C3C TELUGU SIGN |NUKTA|AVAGRAHA
C3E TELUGU VOWEL SIGN |AA|I|II|U|UU|VOCALIC R|VOCALIC RR
C46 TELUGU VOWEL SIGN |E|EE|AI
C4A TELUGU VOWEL SIGN |O|OO|AU
C4D |TELUGU SIGN VIRAMA
C55 TELUGU |LENGTH MARK|AI LENGTH MARK
C58 TELUGU LETTER |TSA|DZA|RRRA
C5D |TELUGU LETTER NAKAARA POLLU
C60 TELUGU LETTER VOCALIC |RR|LL
C62 TELUGU VOWEL SIGN VOCALIC |L|LL
C66 TELUGU DIGIT |ZERO|ONE|TWO|THREE|FOUR|FIVE|SIX|SEVEN|EIGHT|NINE
C77 |TELUGU SIGN SIDDHAM
C78 TELUGU FRACTION DIGIT |ZERO FOR ODD POWERS OF FOUR|ONE FOR ODD POWERS OF FOUR
C7A TELUGU FRACTION DIGIT |TWO FOR ODD POWERS OF FOUR|THREE FOR ODD POWERS OF FOUR
C7C TELUGU FRACTION DIGIT |ONE FOR EVEN POWERS OF FOUR|TWO FOR EVEN POWERS OF FOUR
C7E TELUGU |FRACTION DIGIT THREE FOR EVEN POWERS OF FOUR|SIGN TUUMU
C80 KANNADA SIGN |SPACING CANDRABINDU|CANDRABINDU|ANUSVARA|VISARGA|SIDDHAM
C85 KANNADA LETTER |A|AA|I|II|U|UU|VOCALIC R|VOCALIC L
C8E KANNADA LETTER |E|EE|AI
C92 KANNADA LETTER |O|OO
C94 KANNADA LETTER |AU|KA|KHA|GA|GHA|NGA|CA|CHA|JA|JHA|NYA|TTA|TTHA|DDA|DDHA|NNA|TA|THA|DA|DHA|NA
CAA KANNADA LETTER |PA|PHA|BA|BHA|MA|YA|RA|RRA|LA|LLA
CB5 KANNADA LETTER |VA|SHA|SSA|SA|HA
CBC KANNADA SIGN |NUKTA|AVAGRAHA
CBE KANNADA VOWEL SIGN |AA|I|II|U|UU|VOCALIC R|VOCALIC RR
CC6 KANNADA VOWEL SIGN |E|EE|AI
CCA KANNADA VOWEL SIGN |O|OO|AU
CCD |KANNADA SIGN VIRAMA
CD5 KANNADA |LENGTH MARK|AI LENGTH MARK
CDD KANNADA LETTER |NAKAARA POLLU|FA
CE0 KANNADA LETTER VOCALIC |RR|LL
CE2 KANNADA VOWEL SIGN VOCALIC |L|LL
CE6 KANNADA DIGIT |ZERO|ONE|TWO|THREE|FOUR|FIVE|SIX|SEVEN|EIGHT|NINE
CF1 KANNADA SIGN |JIHVAMULIYA|UPADHMANIYA|COMBINING ANUSVARA ABOVE RIGHT
D00 MALAYALAM SIGN |COMBINING ANUSVARA ABOVE|CANDRABINDU|ANUSVARA|VISARGA
D04 MALAYALAM LETTER |VEDIC ANUSVARA|A|AA|I|II|U|UU|VOCALIC R|VOCALIC L
D0E MALAYALAM LETTER |E|EE|AI
D12 MALAYALAM LETTER |O|OO|AU|KA|KHA|GA|GHA|NGA|CA|CHA|JA|JHA|NYA|TTA|TTHA|DDA|DDHA|NNA|TA|THA
D26 MALAYALAM LETTER |DA|DHA|NA|NNNA|PA|PHA|BA|BHA|MA|YA|RA|RRA|LA|LLA|LLLA|VA|SHA|SSA|SA|HA|TTTA
D3B MALAYALAM SIGN |VERTICAL BAR VIRAMA|CIRCULAR VIRAMA|AVAGRAHA
D3E MALAYALAM VOWEL SIGN |AA|I|II|U|UU|VOCALIC R|VOCALIC RR
D46 MALAYALAM VOWEL SIGN |E|EE|AI
D4A MALAYALAM VOWEL SIGN |O|OO|AU
D4D MALAYALAM |SIGN VIRAMA|LETTER DOT REPH|SIGN PARA
D54 MALAYALAM LETTER CHILLU |M|Y|LLL
D57 MALAYALAM |AU LENGTH MARK|FRACTION ONE ONE-HUNDRED-AND-SIXTIETH|FRACTION ONE FORTIETH
D5A MALAYALAM FRACTION |THREE EIGHTIETHS|ONE TWENTIETH|ONE TENTH|THREE TWENTIETHS|ONE FIFTH
D5F MALAYALAM LETTER |ARCHAIC II|VOCALIC RR|VOCALIC LL
D62 MALAYALAM VOWEL SIGN VOCALIC |L|LL
D66 MALAYALAM DIGIT |ZERO|ONE|TWO|THREE|FOUR|FIVE|SIX|SEVEN|EIGHT|NINE
D70 MALAYALAM NUMBER |TEN|ONE HUNDRED|ONE THOUSAND
D73 MALAYALAM FRACTION |ONE QUARTER|ONE HALF|THREE QUARTERS|ONE SIXTEENTH|ONE EIGHTH
D78 MALAYALAM |FRACTION THREE SIXTEENTHS|DATE MARK
D7A MALAYALAM LETTER CHILLU |NN|N|RR|L|LL|K
D81 SINHALA SIGN |CANDRABINDU|ANUSVARAYA|VISARGAYA
D85 SINHALA LETTER |AYANNA|AAYANNA|AEYANNA|AEEYANNA|IYANNA|IIYANNA|UYANNA|UUYANNA|IRUYANNA
D8E SINHALA LETTER |IRUUYANNA|ILUYANNA|ILUUYANNA|EYANNA|EEYANNA|AIYANNA|OYANNA|OOYANNA|AUYANNA
D9A SINHALA LETTER |ALPAPRAANA KAYANNA|MAHAAPRAANA KAYANNA
D9C SINHALA LETTER |ALPAPRAANA GAYANNA|MAHAAPRAANA GAYANNA|KANTAJA NAASIKYAYA|SANYAKA GAYANNA
DA0 SINHALA LETTER |ALPAPRAANA CAYANNA|MAHAAPRAANA CAYANNA|ALPAPRAANA JAYANNA|MAHAAPRAANA JAYANNA
DA4 SINHALA LETTER TAALUJA |NAASIKYAYA|SANYOOGA NAAKSIKYAYA
DA6 SINHALA LETTER |SANYAKA JAYANNA|ALPAPRAANA TTAYANNA|MAHAAPRAANA TTAYANNA|ALPAPRAANA DDAYANNA
DAA SINHALA LETTER |MAHAAPRAANA DDAYANNA|MUURDHAJA NAYANNA|SANYAKA DDAYANNA|ALPAPRAANA TAYANNA
DAE SINHALA LETTER |MAHAAPRAANA TAYANNA|ALPAPRAANA DAYANNA|MAHAAPRAANA DAYANNA|DANTAJA NAYANNA
DB3 SINHALA LETTER |SANYAKA DAYANNA|ALPAPRAANA PAYANNA|MAHAAPRAANA PAYANNA
DB6 SINHALA LETTER |ALPAPRAANA BAYANNA|MAHAAPRAANA BAYANNA|MAYANNA|AMBA BAYANNA|YAYANNA|RAYANNA
DBD |SINHALA LETTER DANTAJA LAYANNA
DC0 SINHALA LETTER |VAYANNA|TAALUJA SAYANNA
DC2 SINHALA LETTER |MUURDHAJA SAYANNA|DANTAJA SAYANNA|HAYANNA|MUURDHAJA LAYANNA|FAYANNA
DCA |SINHALA SIGN AL-LAKUNA
DCF SINHALA VOWEL SIGN |AELA-PILLA|KETTI AEDA-PILLA
DD1 SINHALA VOWEL SIGN |DIGA AEDA-PILLA|KETTI IS-PILLA|DIGA IS-PILLA|KETTI PAA-PILLA
DD6 |SINHALA VOWEL SIGN DIGA PAA-PILLA
DD8 SINHALA VOWEL SIGN |GAETTA-PILLA|KOMBUVA|DIGA KOMBUVA|KOMBU DEKA|KOMBUVA HAA AELA-PILLA
DDD SINHALA VOWEL SIGN |KOMBUVA HAA DIGA AELA-PILLA|KOMBUVA HAA GAYANUKITTA|GAYANUKITTA
DE6 SINHALA LITH DIGIT |ZERO|ONE|TWO|THREE|FOUR|FIVE|SIX|SEVEN|EIGHT|NINE
DF2 SINHALA VOWEL SIGN DIGA |GAETTA-PILLA|GAYANUKITTA
DF4 |SINHALA PUNCTUATION KUNDDALIYA
E01 THAI CHARACTER |KO KAI|KHO KHAI|KHO KHUAT|KHO KHWAI
E05 THAI CHARACTER |KHO KHON|KHO RAKHANG|NGO NGU|CHO CHAN|CHO CHING|CHO CHANG|SO SO|CHO CHOE
E0D THAI CHARACTER |YO YING|DO CHADA|TO PATAK|THO THAN|THO NANGMONTHO|THO PHUTHAO|NO NEN|DO DEK
E15 THAI CHARACTER |TO TAO|THO THUNG|THO THAHAN|THO THONG|NO NU|BO BAIMAI|PO PLA|PHO PHUNG|FO FA
E1E THAI CHARACTER |PHO PHAN|FO FAN|PHO SAMPHAO|MO MA|YO YAK|RO RUA|RU|LO LING|LU|WO WAEN|SO SALA
E29 THAI CHARACTER |SO RUSI|SO SUA|HO HIP|LO CHULA|O ANG|HO NOKHUK|PAIYANNOI|SARA A|MAI HAN-AKAT
E32 THAI CHARACTER SARA |AA|AM|I|II|UE|UEE|U|UU
E3A |THAI CHARACTER PHINTHU
E3F |THAI CURRENCY SYMBOL BAHT
E40 THAI CHARACTER SARA |E|AE|O|AI MAIMUAN|AI MAIMALAI
E45 THAI CHARACTER |LAKKHANGYAO|MAIYAMOK|MAITAIKHU
E48 THAI CHARACTER |MAI EK|MAI THO|MAI TRI|MAI CHATTAWA|THANTHAKHAT|NIKHAHIT|YAMAKKAN|FONGMAN
E50 THAI DIGIT |ZERO|ONE|TWO|THREE|FOUR|FIVE|SIX|SEVEN|EIGHT|NINE
E5A THAI CHARACTER |ANGKHANKHU|KHOMUT
E81 LAO LETTER |KO|KHO SUNG
E84 |LAO LETTER KHO TAM
E86 LAO LETTER |PALI GHA|NGO|CO|PALI CHA|SO TAM
E8C LAO LETTER |PALI JHA|NYO
E8E LAO LETTER PALI |NYA|TTA|TTHA|DDA|DDHA|NNA
E94 LAO LETTER |DO|TO|THO SUNG
E97 LAO LETTER |THO TAM|PALI DHA|NO|BO|PO|PHO SUNG|FO TAM|PHO TAM|FO SUNG|PALI BHA|MO|YO|LO LING
EA5 |LAO LETTER LO LOOT
EA7 LAO LETTER |WO|SANSKRIT SHA|SANSKRIT SSA|SO SUNG|HO SUNG|PALI LLA|O|HO TAM
EAF |LAO ELLIPSIS
EB0 LAO VOWEL SIGN |A|MAI KAN|AA|AM|I|II|Y|YY|U|UU
EBA LAO |SIGN PALI VIRAMA|VOWEL SIGN MAI KON
EBC LAO SEMIVOWEL SIGN |LO|NYO
EC0 LAO VOWEL SIGN |E|EI|O|AY|AI
EC6 |LAO KO LA
EC8 LAO TONE MAI |EK|THO|TI|CATAWA
ECC LAO |CANCELLATION MARK|NIGGAHITA|YAMAKKAN
ED0 LAO DIGIT |ZERO|ONE|TWO|THREE|FOUR|FIVE|SIX|SEVEN|EIGHT|NINE
EDC LAO HO |NO|MO
EDE LAO LETTER KHMU |GO|NYO
F00 |TIBETAN SYLLABLE OM
F01 TIBETAN MARK GTER YIG MGO |TRUNCATED A|-UM RNAM BCAD MA|-UM GTER TSHEG MA
F04 |TIBETAN MARK INITIAL YIG MGO MDUN MA
F05 TIBETAN MARK |CLOSING YIG MGO SGAB MA|CARET YIG MGO PHUR SHAD MA|YIG MGO TSHEG SHAD MA
F08 TIBETAN MARK |SBRUL SHAD|BSKUR YIG MGO|BKA- SHOG YIG MGO|INTERSYLLABIC TSHEG
F0C TIBETAN MARK |DELIMITER TSHEG BSTAR|SHAD|NYIS SHAD|TSHEG SHAD|NYIS TSHEG SHAD
F11 TIBETAN MARK |RIN CHEN SPUNGS SHAD|RGYA GRAM SHAD|CARET -DZUD RTAGS ME LONG CAN|GTER TSHEG
F15 TIBETAN LOGOTYPE SIGN |CHAD RTAGS|LHAG RTAGS
F17 TIBETAN ASTROLOGICAL SIGN |SGRA GCAN -CHAR RTAGS|-KHYUD PA|SDONG TSHUGS
F1A TIBETAN SIGN RDEL |DKAR GCIG|DKAR GNYIS|DKAR GSUM|NAG GCIG|NAG GNYIS|DKAR RDEL NAG
F20 TIBETAN DIGIT |ZERO|ONE|TWO|THREE|FOUR|FIVE|SIX|SEVEN|EIGHT|NINE
F2A TIBETAN DIGIT HALF |ONE|TWO|THREE|FOUR|FIVE|SIX|SEVEN|EIGHT|NINE|ZERO
F34 TIBETAN MARK |BSDUS RTAGS|NGAS BZUNG NYI ZLA|CARET -DZUD RTAGS BZHI MIG CAN
F37 TIBETAN MARK |NGAS BZUNG SGOR RTAGS|CHE MGO|TSA -PHRU|GUG RTAGS GYON|GUG RTAGS GYAS
F3C TIBETAN MARK ANG KHANG |GYON|GYAS
F3E TIBETAN SIGN |YAR TSHES|MAR TSHES
F40 TIBETAN LETTER |KA|KHA|GA|GHA|NGA|CA|CHA|JA
F49 TIBETAN LETTER |NYA|TTA|TTHA|DDA|DDHA|NNA|TA|THA|DA|DHA|NA|PA|PHA|BA|BHA|MA|TSA
F5A TIBETAN LETTER |TSHA|DZA|DZHA|WA|ZHA|ZA|-A|YA|RA|LA|SHA|SSA|SA|HA|A|KSSA|FIXED-FORM RA|KKA|RRA
F71 TIBETAN VOWEL SIGN |AA|I|II|U|UU|VOCALIC R|VOCALIC RR|VOCALIC L|VOCALIC LL|E|EE|O|OO
F7E TIBETAN SIGN |RJES SU NGA RO|RNAM BCAD
F80 TIBETAN VOWEL SIGN REVERSED |I|II
F82 TIBETAN SIGN |NYI ZLA NAA DA|SNA LDAN
F84 TIBETAN |MARK HALANTA|MARK PALUTA|SIGN LCI RTAGS|SIGN YANG RTAGS
F88 TIBETAN SIGN |LCE TSA CAN|MCHU CAN|GRU CAN RGYINGS|GRU MED RGYINGS|INVERTED MCHU CAN
F8D TIBETAN SUBJOINED SIGN |LCE TSA CAN|MCHU CAN|INVERTED MCHU CAN
F90 TIBETAN SUBJOINED LETTER |KA|KHA|GA|GHA|NGA|CA|CHA|JA
F99 TIBETAN SUBJOINED LETTER |NYA|TTA|TTHA|DDA|DDHA|NNA|TA|THA|DA|DHA|NA|PA|PHA|BA
FA7 TIBETAN SUBJOINED LETTER |BHA|MA|TSA|TSHA|DZA|DZHA|WA|ZHA|ZA|-A|YA|RA|LA|SHA|SSA|SA|HA|A|KSSA
FBA TIBETAN SUBJOINED LETTER FIXED-FORM |WA|YA|RA
FBE TIBETAN KU RU |KHA|KHA BZHI MIG CAN
FC0 TIBETAN CANTILLATION SIGN |HEAVY BEAT|LIGHT BEAT|CANG TE-U|SBUB -CHAL
FC4 TIBETAN SYMBOL |DRIL BU|RDO RJE|PADMA GDAN|RDO RJE RGYA GRAM|PHUR PA|NOR BU
FCA TIBETAN SYMBOL NOR BU |NYIS -KHYIL|GSUM -KHYIL|BZHI -KHYIL
FCE TIBETAN SIGN RDEL NAG |RDEL DKAR|GSUM
FD0 TIBETAN MARK |BSKA- SHOG GI MGO RGYAN|MNYAM YIG GI MGO RGYAN|NYIS TSHEG
FD3 TIBETAN MARK |INITIAL BRDA RNYING YIG MGO MDUN MA|CLOSING BRDA RNYING YIG MGO SGAB MA
FD5 |RIGHT-FACING SVASTI SIGN
FD6 |LEFT-FACING SVASTI SIGN|RIGHT-FACING SVASTI SIGN WITH DOTS|LEFT-FACING SVASTI SIGN WITH DOTS
FD9 TIBETAN MARK |LEADING MCHAN RTAGS|TRAILING MCHAN RTAGS
616 |ARABIC SMALL HIGH LIGATURE ALEF WITH YEH BARREE
61C |ALM
709 |SYRIAC SUBLINEAR COLON SKEWED LEFT
CDE |KANNADA LETTER LLLA
E9D |LAO LETTER FO FON
E9F |LAO LETTER FO FAY
EA3 |LAO LETTER RO
EA5 |LAO LETTER LO
FD0 |TIBETAN MARK BKA- SHOG GI MGO RGYAN"

end TagMenu.Unicode
