namespace TagMenu.Unicode

def ancientNames : String :=
"10000 LINEAR B SYLLABLE |B008 A|B038 E|B028 I
10003 LINEAR B SYLLABLE |B061 O|B010 U|B001 DA|B045 DE|B007 DI|B014 DO|B051 DU|B057 JA|B046 JE
1000D LINEAR B SYLLABLE |B036 JO|B065 JU|B077 KA|B044 KE|B067 KI|B070 KO|B081 KU|B080 MA
10015 LINEAR B SYLLABLE |B013 ME|B073 MI|B015 MO|B023 MU|B006 NA|B024 NE|B030 NI|B052 NO|B055 NU
1001E LINEAR B SYLLABLE |B003 PA|B072 PE|B039 PI|B011 PO|B050 PU|B016 QA|B078 QE|B021 QI|B032 QO
10028 |LINEAR B SYLLABLE B060 RA
10029 LINEAR B SYLLABLE |B027 RE|B053 RI|B002 RO|B026 RU|B031 SA|B009 SE|B041 SI|B012 SO|B058 SU
10032 LINEAR B SYLLABLE |B059 TA|B004 TE|B037 TI|B005 TO|B069 TU|B054 WA|B075 WE|B040 WI|B042 WO
1003C LINEAR B SYLLABLE |B017 ZA|B074 ZE
1003F LINEAR B SYLLABLE |B020 ZO|B025 A2|B043 A3|B085 AU|B071 DWE|B090 DWO|B048 NWA
10046 LINEAR B SYLLABLE |B029 PU2|B062 PTE|B076 RA2|B033 RA3|B068 RO2|B066 TA2|B087 TWE|B091 TWO
10050 LINEAR B SYMBOL |B018|B019|B022|B034|B047|B049|B056|B063|B064|B079|B082|B083|B086|B089
10080 LINEAR B IDEOGRAM |B100 MAN|B102 WOMAN|B104 DEER|B105 EQUID|B105F MARE|B105M STALLION
10086 LINEAR B IDEOGRAM |B106F EWE|B106M RAM|B107F SHE-GOAT|B107M HE-GOAT|B108F SOW|B108M BOAR
1008C LINEAR B IDEOGRAM |B109F COW|B109M BULL|B120 WHEAT|B121 BARLEY|B122 OLIVE|B123 SPICE
10092 LINEAR B |IDEOGRAM B125 CYPERUS|MONOGRAM B127 KAPO|MONOGRAM B128 KANAKO
10095 LINEAR B IDEOGRAM |B130 OIL|B131 WINE|B132
10098 LINEAR B MONOGRAM |B133 AREPA|B135 MERI
1009A LINEAR B IDEOGRAM |B140 BRONZE|B141 GOLD|B142|B145 WOOL|B146|B150|B151 HORN|B152|B153|B154
100A4 |LINEAR B MONOGRAM B156 TURO2
100A5 LINEAR B IDEOGRAM |B157|B158|B159 CLOTH|B160|B161|B162 GARMENT|B163 ARMOUR|B164|B165
100AE LINEAR B IDEOGRAM |B166|B167|B168|B169|B170|B171|B172|B173 MONTH|B174|B176 TREE|B177|B178
100BA LINEAR B IDEOGRAM |B179|B180|B181|B182|B183|B184|B185|B189|B190|B191 HELMET|B220 FOOTSTOOL
100C5 LINEAR B IDEOGRAM |B225 BATHTUB|B230 SPEAR|B231 ARROW|B232|B233 SWORD|B234|B236
100CC LINEAR B IDEOGRAM |B240 WHEELED CHARIOT|B241 CHARIOT|B242 CHARIOT FRAME|B243 WHEEL|B245|B246
100D2 |LINEAR B MONOGRAM B247 DIPTE
100D3 LINEAR B IDEOGRAM |B248|B249|B251|B252|B253|B254 DART|B255|B256|B257|B258|B259
100DE LINEAR B IDEOGRAM VESSEL |B155|B200|B201
100E1 LINEAR B IDEOGRAM VESSEL |B202|B203|B204|B205|B206|B207|B208|B209|B210|B211|B212|B213|B214
100EE LINEAR B IDEOGRAM VESSEL |B215|B216|B217|B218|B219|B221|B222|B226|B227|B228|B229|B250|B305
10100 AEGEAN |WORD SEPARATOR LINE|WORD SEPARATOR DOT|CHECK MARK
10107 AEGEAN NUMBER |ONE|TWO|THREE|FOUR|FIVE|SIX|SEVEN|EIGHT|NINE|TEN|TWENTY|THIRTY
10113 AEGEAN NUMBER |FORTY|FIFTY|SIXTY|SEVENTY|EIGHTY|NINETY|ONE HUNDRED|TWO HUNDRED|THREE HUNDRED
1011C AEGEAN NUMBER |FOUR HUNDRED|FIVE HUNDRED|SIX HUNDRED|SEVEN HUNDRED|EIGHT HUNDRED
10121 AEGEAN NUMBER |NINE HUNDRED|ONE THOUSAND|TWO THOUSAND|THREE THOUSAND|FOUR THOUSAND
10126 AEGEAN NUMBER |FIVE THOUSAND|SIX THOUSAND|SEVEN THOUSAND|EIGHT THOUSAND|NINE THOUSAND
1012B AEGEAN NUMBER |TEN THOUSAND|TWENTY THOUSAND|THIRTY THOUSAND|FORTY THOUSAND|FIFTY THOUSAND
10130 AEGEAN NUMBER |SIXTY THOUSAND|SEVENTY THOUSAND|EIGHTY THOUSAND|NINETY THOUSAND
10137 AEGEAN WEIGHT |BASE UNIT|FIRST SUBUNIT|SECOND SUBUNIT|THIRD SUBUNIT|FOURTH SUBUNIT
1013C AEGEAN |DRY MEASURE FIRST SUBUNIT|LIQUID MEASURE FIRST SUBUNIT
1013E AEGEAN MEASURE |SECOND SUBUNIT|THIRD SUBUNIT
10140 GREEK ACROPHONIC ATTIC ONE |QUARTER|HALF|DRACHMA
10143 GREEK ACROPHONIC ATTIC |FIVE|FIFTY|FIVE HUNDRED|FIVE THOUSAND|FIFTY THOUSAND|FIVE TALENTS
10149 GREEK ACROPHONIC ATTIC |TEN TALENTS|FIFTY TALENTS|ONE HUNDRED TALENTS|FIVE HUNDRED TALENTS
1014D GREEK ACROPHONIC ATTIC |ONE THOUSAND TALENTS|FIVE THOUSAND TALENTS|FIVE STATERS
10150 GREEK ACROPHONIC ATTIC |TEN STATERS|FIFTY STATERS|ONE HUNDRED STATERS|FIVE HUNDRED STATERS
10154 GREEK ACROPHONIC ATTIC |ONE THOUSAND STATERS|TEN THOUSAND STATERS|FIFTY THOUSAND STATERS
10157 GREEK ACROPHONIC |ATTIC TEN MNAS|HERAEUM ONE PLETHRON|THESPIAN ONE|HERMIONIAN ONE
1015B GREEK ACROPHONIC |EPIDAUREAN TWO|THESPIAN TWO|CYRENAIC TWO DRACHMAS|EPIDAUREAN TWO DRACHMAS
1015F GREEK ACROPHONIC TROEZENIAN |FIVE|TEN|TEN ALTERNATE FORM
10162 GREEK ACROPHONIC |HERMIONIAN TEN|MESSENIAN TEN|THESPIAN TEN|THESPIAN THIRTY
10166 GREEK ACROPHONIC |TROEZENIAN FIFTY|TROEZENIAN FIFTY ALTERNATE FORM|HERMIONIAN FIFTY
10169 GREEK ACROPHONIC THESPIAN |FIFTY|ONE HUNDRED|THREE HUNDRED
1016C GREEK ACROPHONIC |EPIDAUREAN FIVE HUNDRED|TROEZENIAN FIVE HUNDRED|THESPIAN FIVE HUNDRED
1016F GREEK ACROPHONIC |CARYSTIAN FIVE HUNDRED|NAXIAN FIVE HUNDRED|THESPIAN ONE THOUSAND
10172 GREEK ACROPHONIC |THESPIAN FIVE THOUSAND|DELPHIC FIVE MNAS|STRATIAN FIFTY MNAS
10175 GREEK ONE HALF |SIGN|SIGN ALTERNATE FORM
10177 GREEK |TWO THIRDS SIGN|THREE QUARTERS SIGN|YEAR SIGN|TALENT SIGN|DRACHMA SIGN
1017C GREEK |OBOL SIGN|TWO OBOLS SIGN|THREE OBOLS SIGN|FOUR OBOLS SIGN|FIVE OBOLS SIGN
10181 GREEK |METRETES SIGN|KYATHOS BASE SIGN|LITRA SIGN|OUNKIA SIGN|XESTES SIGN|ARTABE SIGN
10187 GREEK |AROURA SIGN|GRAMMA SIGN|TRYBLION BASE SIGN|ZERO SIGN|ONE QUARTER SIGN|SINUSOID SIGN
1018D |GREEK INDICTION SIGN|NOMISMA SIGN
10190 ROMAN |SEXTANS SIGN|UNCIA SIGN|SEMUNCIA SIGN|SEXTULA SIGN|DIMIDIA SEXTULA SIGN|SILIQUA SIGN
10196 ROMAN |DENARIUS SIGN|QUINARIUS SIGN|SESTERTIUS SIGN|DUPONDIUS SIGN|AS SIGN|CENTURIAL SIGN
1019C |ASCIA SYMBOL
101A0 |GREEK SYMBOL TAU RHO
101D0 |PHAISTOS DISC SIGN PEDESTRIAN
101D1 PHAISTOS DISC SIGN |PLUMED HEAD|TATTOOED HEAD|CAPTIVE|CHILD|WOMAN|HELMET|GAUNTLET|TIARA
101D9 PHAISTOS DISC SIGN |ARROW|BOW|SHIELD|CLUB|MANACLES|MATTOCK|SAW|LID|BOOMERANG|CARPENTRY PLANE
101E3 PHAISTOS DISC SIGN |DOLIUM|COMB|SLING|COLUMN|BEEHIVE|SHIP|HORN|HIDE|BULLS LEG|CAT
101ED PHAISTOS DISC SIGN |RAM|EAGLE|DOVE|TUNNY|BEE|PLANE TREE|VINE|PAPYRUS|ROSETTE|LILY|OX BACK
101F8 PHAISTOS DISC SIGN |FLUTE|GRATER|STRAINER|SMALL AXE|WAVY BAND|COMBINING OBLIQUE STROKE
10280 LYCIAN LETTER |A|E|B|BH|G|D|I|W|Z|TH|J|K|Q|L|M|N|MM|NN|U|P|KK|R|S|T|TT|AN|EN|H|X
102A0 CARIAN LETTER |A|P2|D|L|UUU|R|LD|A2|Q|B|M|O|D2|T|SH|SH2|S|C-18|U|NN|X|N|TT2|P|SS|I|E
102BB CARIAN LETTER |UUUU|K|K2|ND|UU|G|G2|ST|ST2|NG|II|C-39|TT|UUU2|RR|MB|MB2|MB3|MB4|LD2|E2|UUU3
102E0 |COPTIC EPACT THOUSANDS MARK
102E1 COPTIC EPACT DIGIT |ONE|TWO|THREE|FOUR|FIVE|SIX|SEVEN|EIGHT|NINE
102EA COPTIC EPACT NUMBER |TEN|TWENTY|THIRTY|FORTY|FIFTY|SIXTY|SEVENTY
102F1 COPTIC EPACT NUMBER |EIGHTY|NINETY|ONE HUNDRED|TWO HUNDRED|THREE HUNDRED|FOUR HUNDRED
102F7 COPTIC EPACT NUMBER |FIVE HUNDRED|SIX HUNDRED|SEVEN HUNDRED|EIGHT HUNDRED|NINE HUNDRED
10300 OLD ITALIC LETTER |A|BE|KE|DE|E|VE|ZE|HE|THE
10309 OLD ITALIC LETTER |I|KA|EL|EM|EN|ESH|O|PE|SHE|KU|ER|ES|TE|U|EKS|PHE|KHE|EF|ERS|CHE|II|UU|ESS
10320 OLD ITALIC NUMERAL |ONE|FIVE|TEN|FIFTY
1032D OLD ITALIC LETTER |YE|NORTHERN TSE|SOUTHERN TSE
10330 GOTHIC LETTER |AHSA|BAIRKAN|GIBA
10333 GOTHIC LETTER |DAGS|AIHVUS|QAIRTHRA|IUJA|HAGL|THIUTH|EIS|KUSMA|LAGUS|MANNA|NAUTHS|JER|URUS
10340 GOTHIC LETTER |PAIRTHRA|NINETY|RAIDA|SAUIL|TEIWS|WINJA|FAIHU|IGGWS|HWAIR|OTHAL|NINE HUNDRED
10350 OLD PERMIC LETTER |AN|BUR|GAI|DOI
10354 OLD PERMIC LETTER |E|ZHOI|DZHOI|ZATA|DZITA|I|KOKE|LEI|MENOE|NENOE|VOOI|PEEI|REI|SII|TAI|U
10364 OLD PERMIC LETTER |CHERY|SHOOI|SHCHOOI|YRY|YERU|O|OO|EF|HA|TSIU|VER|YER|YERI|YAT|IE|YU|YA|IA
10376 COMBINING OLD PERMIC LETTER |AN|DOI|ZATA|NENOE|SII
10380 UGARITIC LETTER |ALPA|BETA|GAMLA|KHA|DELTA|HO|WO|ZETA|HOTA|TET|YOD|KAF|SHIN
1038D UGARITIC LETTER |LAMDA|MEM|DHAL|NUN|ZU|SAMKA|AIN|PU|SADE|QOPA|RASHA|THANNA|GHAIN|TO|I|U|SSU
1039F |UGARITIC WORD DIVIDER
103A0 OLD PERSIAN SIGN |A|I|U|KA|KU|GA|GU|XA|CA|JA|JI|TA
103AC OLD PERSIAN SIGN |TU|DA|DI|DU|THA|PA|BA|FA|NA|NU|MA|MI|MU|YA|VA|VI|RA|RU|LA|SA|ZA|SHA|SSA|HA
103C8 OLD PERSIAN SIGN |AURAMAZDAA|AURAMAZDAA-2|AURAMAZDAAHA|XSHAAYATHIYA|DAHYAAUSH|DAHYAAUSH-2
103CE OLD PERSIAN |SIGN BAGA|SIGN BUUMISH|WORD DIVIDER
103D1 OLD PERSIAN NUMBER |ONE|TWO|TEN|TWENTY|HUNDRED
10400 DESERET CAPITAL LETTER LONG |I|E|A|AH|O|OO
10406 DESERET CAPITAL LETTER SHORT |I|E|A|AH|O|OO
1040C DESERET CAPITAL LETTER |AY|OW|WU|YEE|H|PEE|BEE|TEE|DEE|CHEE
10416 DESERET CAPITAL LETTER |JEE|KAY|GAY|EF|VEE|ETH|THEE|ES|ZEE|ESH|ZHEE|ER|EL|EM|EN|ENG|OI|EW
10428 DESERET SMALL LETTER LONG |I|E|A|AH|O|OO
1042E DESERET SMALL LETTER SHORT |I|E|A|AH|O|OO
10434 DESERET SMALL LETTER |AY|OW|WU|YEE|H|PEE|BEE|TEE|DEE
1043D DESERET SMALL LETTER |CHEE|JEE|KAY|GAY|EF|VEE|ETH|THEE|ES|ZEE|ESH|ZHEE|ER|EL|EM|EN|ENG|OI|EW
10450 SHAVIAN LETTER |PEEP|TOT|KICK|FEE|THIGH|SO|SURE|CHURCH|YEA|HUNG|BIB|DEAD|GAG
1045D SHAVIAN LETTER |VOW|THEY|ZOO|MEASURE|JUDGE|WOE|HA-HA|LOLL|MIME|IF|EGG|ASH|ADO|ON|WOOL|OUT
1046D SHAVIAN LETTER |AH|ROAR|NUN|EAT|AGE|ICE|UP|OAK|OOZE|OIL|AWE|ARE|OR|AIR|ERR|ARRAY|EAR|IAN|YEW
10480 OSMANYA LETTER |ALEF|BA|TA|JA|XA|KHA|DEEL|RA|SA
10489 OSMANYA LETTER |SHIIN|DHA|CAYN|GA|FA|QAAF|KAAF|LAAN|MIIN|NUUN|WAW|HA|YA|A|E|I|O|U|AA|EE|OO
104A0 OSMANYA DIGIT |ZERO|ONE|TWO|THREE|FOUR|FIVE|SIX|SEVEN|EIGHT|NINE
104B0 OSAGE CAPITAL LETTER |A|AI|AIN|AH|BRA|CHA|EHCHA|E|EIN|HA|HYA|I|KA|EHKA|KYA|LA|MA
104C1 OSAGE CAPITAL LETTER |NA|O|OIN|PA|EHPA|SA|SHA|TA|EHTA|TSA|EHTSA|TSHA|DHA|U|WA|KHA|GHA|ZA|ZHA
104D8 OSAGE SMALL LETTER |A|AI|AIN|AH|BRA|CHA|EHCHA|E|EIN|HA|HYA|I|KA|EHKA|KYA|LA|MA
104E9 OSAGE SMALL LETTER |NA|O|OIN|PA|EHPA|SA|SHA|TA|EHTA|TSA|EHTSA|TSHA|DHA|U|WA|KHA|GHA|ZA|ZHA
10500 ELBASAN LETTER |A|BE|CE|CHE|DE|NDE|DHE|EI|E|FE|GE|GJE|HE|I|JE|KE|LE|LLE
10512 ELBASAN LETTER |ME|NE|NA|NJE|O|PE|QE|RE|RRE|SE|SHE|TE|THE|U|VE|XE|Y|ZE|ZHE|GHE|GHAMMA|KHE
10530 CAUCASIAN ALBANIAN LETTER |ALT|BET|GIM|DAT|EB|ZARL|EYN|ZHIL|TAS|CHA|YOWD
1053B CAUCASIAN ALBANIAN LETTER |ZHA|IRB|SHA|LAN|INYA|XEYN|DYAN|CAR|JHOX|KAR|LYIT|HEYT|QAY|AOR
10549 CAUCASIAN ALBANIAN LETTER |CHOY|CHI|CYAY|MAQ|QAR|NOWC|DZYAY|SHAK|JAYN|ON|TYAY|FAM|DZAY|CHAT
10557 CAUCASIAN ALBANIAN LETTER |PEN|GHEYS|RAT|SEYK|VEYZ|TIWR|SHOY|IWN|CYAW|CAYN|YAYD|PIWR|KIW
1056F |CAUCASIAN ALBANIAN CITATION MARK
10570 VITHKUQI CAPITAL LETTER |A|BBE|BE|CE|CHE|DE|DHE|EI|E|FE|GA
1057C VITHKUQI CAPITAL LETTER |HA|HHA|I|IJE|JE|KA|LA|LLA|ME|NE|NJE|O|PE|QA|RE
1058C VITHKUQI CAPITAL LETTER |SE|SHE|TE|THE|U|VE|XE
10594 VITHKUQI CAPITAL LETTER |Y|ZE
10597 VITHKUQI SMALL LETTER |A|BBE|BE|CE|CHE|DE|DHE|EI|E|FE|GA
105A3 VITHKUQI SMALL LETTER |HA|HHA|I|IJE|JE|KA|LA|LLA|ME|NE|NJE|O|PE|QA|RE
105B3 VITHKUQI SMALL LETTER |SE|SHE|TE|THE|U|VE|XE
105BB VITHKUQI SMALL LETTER |Y|ZE
105C0 TODHRI LETTER |A|AS|BA
105C3 TODHRI LETTER |BE|CA|CHA|DA|DE|DHA|EI|E|FA|GA|GJA|GHA|NGA|HA|HJA|I|JA|KA|LA|LLA|MA|NA|NJAN|O
105E4 |TODHRI LETTER OO
10600 LINEAR A SIGN |AB001|AB002|AB003|AB004|AB005|AB006|AB007|AB008|AB009|AB010|AB011|AB013
1060C LINEAR A SIGN |AB016|AB017|AB020|AB021|AB021F|AB021M|AB022|AB022F|AB022M|AB023|AB023M|AB024
10618 LINEAR A SIGN |AB026|AB027|AB028|A028B|AB029|AB030|AB031|AB034|AB037|AB038|AB039|AB040|AB041
10625 LINEAR A SIGN |AB044|AB045|AB046|AB047|AB048|AB049|AB050|AB051|AB053|AB054|AB055|AB056|AB057
10632 LINEAR A SIGN |AB058|AB059|AB060|AB061|AB065|AB066|AB067|AB069|AB070|AB073|AB074|AB076|AB077
1063F LINEAR A SIGN |AB078|AB079|AB080|AB081|AB082|AB085|AB086|AB087|A100-102|AB118|AB120|A120B
1064B LINEAR A SIGN |AB122|AB123|AB131A|AB131B|A131C|AB164|AB171|AB180|AB188|AB191|A301|A302|A303
10658 LINEAR A SIGN |A304|A305|A306|A307|A308|A309A|A309B|A309C|A310|A311|A312|A313A|A313B|A313C
10666 LINEAR A SIGN |A314|A315|A316|A317|A318|A319|A320|A321|A322|A323|A324|A325|A326|A327|A328
10675 LINEAR A SIGN |A329|A330|A331|A332|A333|A334|A335|A336|A337|A338|A339|A340|A341|A342|A343
10684 LINEAR A SIGN |A344|A345|A346|A347|A348|A349|A350|A351|A352|A353|A354|A355|A356|A357|A358
10693 LINEAR A SIGN |A359|A360|A361|A362|A363|A364|A365|A366|A367|A368|A369|A370|A371|A400-VAS
106A1 LINEAR A SIGN |A401-VAS|A402-VAS|A403-VAS|A404-VAS|A405-VAS|A406-VAS|A407-VAS|A408-VAS
106A9 LINEAR A SIGN |A409-VAS|A410-VAS|A411-VAS|A412-VAS|A413-VAS|A414-VAS|A415-VAS|A416-VAS
106B1 LINEAR A SIGN |A417-VAS|A418-VAS|A501|A502|A503|A504|A505|A506|A508|A509|A510|A511|A512|A513
106BF LINEAR A SIGN |A515|A516|A520|A521|A523|A524|A525|A526|A527|A528|A529|A530|A531|A532|A534
106CE LINEAR A SIGN |A535|A536|A537|A538|A539|A540|A541|A542|A545|A547|A548|A549|A550|A551|A552
106DD LINEAR A SIGN |A553|A554|A555|A556|A557|A559|A563|A564|A565|A566|A568|A569|A570|A571|A572
106EC LINEAR A SIGN |A573|A574|A575|A576|A577|A578|A579|A580|A581|A582|A583|A584|A585|A586|A587
106FB LINEAR A SIGN |A588|A589|A591|A592|A594|A595|A596|A598|A600|A601|A602|A603|A604|A606|A608
1070A LINEAR A SIGN |A609|A610|A611|A612|A613|A614|A615|A616|A617|A618|A619|A620|A621|A622|A623
10719 LINEAR A SIGN |A624|A626|A627|A628|A629|A634|A637|A638|A640|A642|A643|A644|A645|A646|A648
10728 LINEAR A SIGN |A649|A651|A652|A653|A654|A655|A656|A657|A658|A659|A660|A661|A662|A663|A664
10740 LINEAR A SIGN |A701 A|A702 B|A703 D|A704 E|A705 F|A706 H|A707 J|A708 K|A709 L
10749 LINEAR A SIGN A709-|2 L2|3 L3|4 L4|6 L6
1074D LINEAR A SIGN |A710 W|A711 X|A712 Y|A713 OMEGA|A714 ABB|A715 BB|A717 DD|A726 EYYY|A732 JE
10760 LINEAR A SIGN |A800|A801|A802|A803|A804|A805|A806|A807
10780 |MODIFIER LETTER SMALL CAPITAL AA
10781 MODIFIER LETTER SUPERSCRIPT |TRIANGULAR COLON|HALF TRIANGULAR COLON
10783 MODIFIER LETTER SMALL |AE|CAPITAL B|B WITH HOOK
10787 MODIFIER LETTER SMALL DZ |DIGRAPH|DIGRAPH WITH RETROFLEX HOOK|DIGRAPH WITH CURL
1078A MODIFIER LETTER SMALL |DEZH DIGRAPH|D WITH TAIL
1078C MODIFIER LETTER SMALL |D WITH HOOK|D WITH HOOK AND TAIL|REVERSED E|CLOSED REVERSED OPEN E
10790 MODIFIER LETTER SMALL |FENG DIGRAPH|RAMS HORN|CAPITAL G|G WITH HOOK|CAPITAL G WITH HOOK
10795 MODIFIER LETTER SMALL |H WITH STROKE|CAPITAL H|HENG WITH HOOK|DOTLESS J WITH STROKE AND HOOK
10799 MODIFIER LETTER SMALL |LS DIGRAPH|LZ DIGRAPH|L WITH BELT|CAPITAL L WITH BELT
1079D MODIFIER LETTER SMALL |L WITH RETROFLEX HOOK AND BELT|LEZH|LEZH WITH RETROFLEX HOOK
107A0 MODIFIER LETTER SMALL |TURNED Y|TURNED Y WITH BELT|O WITH STROKE|CAPITAL OE|CLOSED OMEGA|Q
107A6 MODIFIER LETTER SMALL TURNED R WITH LONG |LEG|LEG AND RETROFLEX HOOK
107A8 MODIFIER LETTER SMALL |R WITH TAIL|R WITH FISHHOOK|CAPITAL R|TC DIGRAPH WITH CURL
107AC MODIFIER LETTER SMALL TS |DIGRAPH|DIGRAPH WITH RETROFLEX HOOK
107AE MODIFIER LETTER SMALL |TESH DIGRAPH|T WITH RETROFLEX HOOK|V WITH RIGHT HOOK
107B2 MODIFIER LETTER |SMALL CAPITAL Y|GLOTTAL STOP WITH STROKE
107B4 MODIFIER LETTER |REVERSED GLOTTAL STOP WITH STROKE|BILABIAL CLICK|DENTAL CLICK|LATERAL CLICK
107B8 MODIFIER LETTER |ALVEOLAR CLICK|RETROFLEX CLICK WITH RETROFLEX HOOK|SMALL S WITH CURL
10800 CYPRIOT SYLLABLE |A|E|I|O|U|JA
10808 |CYPRIOT SYLLABLE JO
1080A CYPRIOT SYLLABLE |KA|KE|KI|KO|KU|LA|LE|LI|LO|LU|MA|ME|MI|MO|MU|NA|NE|NI|NO
1081D CYPRIOT SYLLABLE |NU|PA|PE|PI|PO|PU|RA|RE|RI|RO|RU|SA|SE|SI|SO|SU|TA|TE|TI|TO|TU|WA|WE|WI|WO
10837 CYPRIOT SYLLABLE |XA|XE
1083C |CYPRIOT SYLLABLE ZA
1083F |CYPRIOT SYLLABLE ZO
10840 IMPERIAL ARAMAIC LETTER |ALEPH|BETH|GIMEL|DALETH|HE|WAW|ZAYIN|HETH|TETH
10849 IMPERIAL ARAMAIC LETTER |YODH|KAPH|LAMEDH|MEM|NUN|SAMEKH|AYIN|PE|SADHE|QOPH|RESH|SHIN|TAW
10857 |IMPERIAL ARAMAIC SECTION SIGN
10858 IMPERIAL ARAMAIC NUMBER |ONE|TWO|THREE|TEN|TWENTY|ONE HUNDRED|ONE THOUSAND|TEN THOUSAND
10860 PALMYRENE LETTER |ALEPH|BETH|GIMEL|DALETH|HE|WAW|ZAYIN|HETH|TETH
10869 PALMYRENE LETTER |YODH|KAPH|LAMEDH|MEM|FINAL NUN|NUN|SAMEKH|AYIN|PE|SADHE|QOPH|RESH|SHIN|TAW
10877 PALMYRENE |LEFT-POINTING FLEURON|RIGHT-POINTING FLEURON
10879 PALMYRENE NUMBER |ONE|TWO|THREE|FOUR|FIVE|TEN|TWENTY
10880 NABATAEAN LETTER |FINAL ALEPH|ALEPH|FINAL BETH|BETH|GIMEL|DALETH|FINAL HE|HE|WAW|ZAYIN
1088A NABATAEAN LETTER |HETH|TETH|FINAL YODH|YODH|FINAL KAPH|KAPH|FINAL LAMEDH|LAMEDH|FINAL MEM
10893 NABATAEAN LETTER |MEM|FINAL NUN|NUN|SAMEKH|AYIN|PE|SADHE|QOPH|RESH|FINAL SHIN|SHIN|TAW
108A7 NABATAEAN NUMBER |ONE|TWO|THREE|FOUR
108AB |NABATAEAN CRUCIFORM NUMBER FOUR
108AC NABATAEAN NUMBER |FIVE|TEN|TWENTY|ONE HUNDRED
108E0 HATRAN LETTER |ALEPH|BETH|GIMEL|DALETH-RESH
108E4 HATRAN LETTER |HE|WAW|ZAYN|HETH|TETH|YODH|KAPH|LAMEDH|MEM|NUN|SAMEKH|AYN|PE|SADHE|QOPH
108F4 HATRAN LETTER |SHIN|TAW
108FB HATRAN NUMBER |ONE|FIVE|TEN|TWENTY|ONE HUNDRED
10900 PHOENICIAN LETTER |ALF|BET|GAML|DELT|HE
10905 PHOENICIAN LETTER |WAU|ZAI|HET|TET|YOD|KAF|LAMD|MEM|NUN|SEMK|AIN|PE|SADE|QOF|ROSH|SHIN|TAU
10916 PHOENICIAN NUMBER |ONE|TEN|TWENTY|ONE HUNDRED|TWO|THREE
1091F |PHOENICIAN WORD SEPARATOR
10920 LYDIAN LETTER |A|B|G|D|E|V|I|Y|K|L|M|N|O|R|SS|T|U|F|Q|S|TT|AN|EN|LY|NN|C
1093F |LYDIAN TRIANGULAR MARK
10980 MEROITIC HIEROGLYPHIC LETTER |A|E|I|O|YA|WA|BA|BA-2|PA|MA|NA|NA-2|NE
1098D MEROITIC HIEROGLYPHIC LETTER |NE-2|RA|RA-2|LA|KHA|HHA|SA|SA-2|SE|KA|QA|TA|TA-2|TE|TE-2|TO|DA
1099E MEROITIC HIEROGLYPHIC SYMBOL |VIDJ|VIDJ-2
109A0 MEROITIC CURSIVE LETTER |A|E|I|O|YA
109A5 MEROITIC CURSIVE LETTER |WA|BA|PA|MA|NA|NE|RA|LA|KHA|HHA|SA|ARCHAIC SA|SE|KA|QA|TA|TE|TO|DA
109BC MEROITIC CURSIVE |FRACTION ELEVEN TWELFTHS|FRACTION ONE HALF|LOGOGRAM RMT|LOGOGRAM IMN
109C0 MEROITIC CURSIVE NUMBER |ONE|TWO|THREE|FOUR|FIVE
109C5 MEROITIC CURSIVE NUMBER |SIX|SEVEN|EIGHT|NINE|TEN|TWENTY|THIRTY|FORTY|FIFTY|SIXTY|SEVENTY
109D2 MEROITIC CURSIVE NUMBER |ONE HUNDRED|TWO HUNDRED|THREE HUNDRED|FOUR HUNDRED|FIVE HUNDRED
109D7 MEROITIC CURSIVE NUMBER |SIX HUNDRED|SEVEN HUNDRED|EIGHT HUNDRED|NINE HUNDRED|ONE THOUSAND
109DC MEROITIC CURSIVE NUMBER |TWO THOUSAND|THREE THOUSAND|FOUR THOUSAND|FIVE THOUSAND
109E0 MEROITIC CURSIVE NUMBER |SIX THOUSAND|SEVEN THOUSAND|EIGHT THOUSAND|NINE THOUSAND
109E4 MEROITIC CURSIVE NUMBER |TEN THOUSAND|TWENTY THOUSAND|THIRTY THOUSAND|FORTY THOUSAND
109E8 MEROITIC CURSIVE NUMBER |FIFTY THOUSAND|SIXTY THOUSAND|SEVENTY THOUSAND|EIGHTY THOUSAND
109EC MEROITIC CURSIVE NUMBER |NINETY THOUSAND|ONE HUNDRED THOUSAND|TWO HUNDRED THOUSAND
109EF MEROITIC CURSIVE NUMBER |THREE HUNDRED THOUSAND|FOUR HUNDRED THOUSAND|FIVE HUNDRED THOUSAND
109F2 MEROITIC CURSIVE NUMBER |SIX HUNDRED THOUSAND|SEVEN HUNDRED THOUSAND|EIGHT HUNDRED THOUSAND
109F5 MEROITIC CURSIVE |NUMBER NINE HUNDRED THOUSAND|FRACTION ONE TWELFTH|FRACTION TWO TWELFTHS
109F8 MEROITIC CURSIVE FRACTION |THREE TWELFTHS|FOUR TWELFTHS|FIVE TWELFTHS|SIX TWELFTHS
109FC MEROITIC CURSIVE FRACTION |SEVEN TWELFTHS|EIGHT TWELFTHS|NINE TWELFTHS|TEN TWELFTHS
10A00 |KHAROSHTHI LETTER A
10A01 KHAROSHTHI VOWEL SIGN |I|U|VOCALIC R
10A05 KHAROSHTHI VOWEL SIGN |E|O
10A0C KHAROSHTHI |VOWEL LENGTH MARK|SIGN DOUBLE RING BELOW|SIGN ANUSVARA|SIGN VISARGA
10A10 KHAROSHTHI LETTER |KA|KHA|GA|GHA
10A15 KHAROSHTHI LETTER |CA|CHA|JA
10A19 KHAROSHTHI LETTER |NYA|TTA|TTHA|DDA|DDHA|NNA|TA|THA|DA
10A22 KHAROSHTHI LETTER |DHA|NA|PA|PHA|BA|BHA|MA|YA|RA|LA|VA|SHA|SSA|SA|ZA|HA|KKA|TTTHA|TTTA|VHA
10A38 KHAROSHTHI SIGN |BAR ABOVE|CAUDA|DOT BELOW
10A3F KHAROSHTHI |VIRAMA|DIGIT ONE|DIGIT TWO|DIGIT THREE|DIGIT FOUR
10A44 KHAROSHTHI NUMBER |TEN|TWENTY|ONE HUNDRED|ONE THOUSAND
10A48 |KHAROSHTHI FRACTION ONE HALF
10A50 KHAROSHTHI PUNCTUATION |DOT|SMALL CIRCLE
10A52 KHAROSHTHI PUNCTUATION |CIRCLE|CRESCENT BAR|MANGALAM|LOTUS|DANDA|DOUBLE DANDA|LINES
10A60 OLD SOUTH ARABIAN LETTER |HE|LAMEDH|HETH|MEM|QOPH
10A65 OLD SOUTH ARABIAN LETTER |WAW|SHIN|RESH|BETH|TAW|SAT|KAPH|NUN|KHETH|SADHE|SAMEKH|FE|ALEF
10A72 OLD SOUTH ARABIAN LETTER |AYN|DHADHE|GIMEL|DALETH|GHAYN|TETH|ZAYN|DHALETH|YODH|THAW|THETH
10A7D OLD SOUTH ARABIAN |NUMBER ONE|NUMBER FIFTY|NUMERIC INDICATOR
10A80 OLD NORTH ARABIAN LETTER |HEH|LAM|HAH|MEEM|QAF|WAW|ES-2|REH|BEH|TEH|ES-1|KAF|NOON|KHAH|SAD
10A8F OLD NORTH ARABIAN LETTER |ES-3|FEH|ALEF|AIN|DAD|GEEM|DAL|GHAIN|TAH|ZAIN|THAL|YEH|THEH|ZAH
10A9D OLD NORTH ARABIAN NUMBER |ONE|TEN|TWENTY
10AC0 MANICHAEAN LETTER |ALEPH|BETH|BHETH|GIMEL|GHIMEL|DALETH|HE|WAW
10AC8 MANICHAEAN |SIGN UD|LETTER ZAYIN
10ACA MANICHAEAN LETTER |ZHAYIN|JAYIN|JHAYIN|HETH|TETH|YODH|KAPH|XAPH|KHAPH|LAMEDH|DHAMEDH|THAMEDH
10AD6 MANICHAEAN LETTER |MEM|NUN|SAMEKH|AYIN|AAYIN|PE|FE|SADHE|QOPH|XOPH|QHOPH|RESH|SHIN|SSHIN|TAW
10AE5 MANICHAEAN ABBREVIATION MARK |ABOVE|BELOW
10AEB MANICHAEAN NUMBER |ONE|FIVE|TEN|TWENTY|ONE HUNDRED
10AF0 MANICHAEAN PUNCTUATION |STAR|FLEURON
10AF2 MANICHAEAN PUNCTUATION |DOUBLE DOT WITHIN DOT|DOT WITHIN DOT|DOT|TWO DOTS|LINE FILLER
10B00 AVESTAN LETTER |A|AA|AO|AAO|AN|AAN|AE|AEE|E|EE
10B0A AVESTAN LETTER |O|OO|I|II|U|UU|KE|XE|XYE|XVE|GE|GGE|GHE|CE|JE|TE|THE|DE|DHE|TTE|PE|FE|BE|BHE
10B22 AVESTAN LETTER |NGE|NGYE|NGVE|NE|NYE|NNE|ME|HME|YYE|YE|VE|RE|LE|SE|ZE|SHE|ZHE|SHYE|SSHE|HE
10B39 |AVESTAN ABBREVIATION MARK
10B3A |TINY TWO DOTS OVER ONE DOT PUNCTUATION|SMALL TWO DOTS OVER ONE DOT PUNCTUATION
10B3C LARGE |TWO DOTS OVER ONE DOT PUNCTUATION|ONE DOT OVER TWO DOTS PUNCTUATION
10B3E LARGE |TWO RINGS OVER ONE RING PUNCTUATION|ONE RING OVER TWO RINGS PUNCTUATION
10B40 INSCRIPTIONAL PARTHIAN LETTER |ALEPH|BETH|GIMEL|DALETH|HE|WAW|ZAYIN|HETH|TETH|YODH
10B4A INSCRIPTIONAL PARTHIAN LETTER |KAPH|LAMEDH|MEM|NUN|SAMEKH|AYIN|PE|SADHE|QOPH|RESH|SHIN|TAW
10B58 INSCRIPTIONAL PARTHIAN NUMBER |ONE|TWO|THREE|FOUR|TEN|TWENTY|ONE HUNDRED|ONE THOUSAND
10B60 INSCRIPTIONAL PAHLAVI LETTER |ALEPH|BETH|GIMEL|DALETH|HE|WAW-AYIN-RESH|ZAYIN|HETH
10B68 INSCRIPTIONAL PAHLAVI LETTER |TETH|YODH|KAPH|LAMEDH|MEM-QOPH|NUN|SAMEKH|PE|SADHE|SHIN|TAW
10B78 INSCRIPTIONAL PAHLAVI NUMBER |ONE|TWO|THREE|FOUR|TEN|TWENTY|ONE HUNDRED|ONE THOUSAND
10B80 PSALTER PAHLAVI LETTER |ALEPH|BETH|GIMEL|DALETH|HE|WAW-AYIN-RESH
10B86 PSALTER PAHLAVI LETTER |ZAYIN|HETH|YODH|KAPH|LAMEDH|MEM-QOPH|NUN|SAMEKH|PE|SADHE|SHIN|TAW
10B99 PSALTER PAHLAVI |SECTION MARK|TURNED SECTION MARK|FOUR DOTS WITH CROSS|FOUR DOTS WITH DOT
10BA9 PSALTER PAHLAVI NUMBER |ONE|TWO|THREE|FOUR|TEN|TWENTY|ONE HUNDRED
10C00 OLD TURKIC LETTER |ORKHON A|YENISEI A|YENISEI AE|ORKHON I|YENISEI I|YENISEI E
10C06 OLD TURKIC LETTER ORKHON |O|OE
10C08 OLD TURKIC LETTER |YENISEI OE|ORKHON AB|YENISEI AB|ORKHON AEB|YENISEI AEB|ORKHON AG
10C0E OLD TURKIC LETTER |YENISEI AG|ORKHON AEG|YENISEI AEG|ORKHON AD|YENISEI AD|ORKHON AED
10C14 OLD TURKIC LETTER |ORKHON EZ|YENISEI EZ|ORKHON AY|YENISEI AY|ORKHON AEY|YENISEI AEY
10C1A OLD TURKIC LETTER |ORKHON AEK|YENISEI AEK|ORKHON OEK|YENISEI OEK|ORKHON AL|YENISEI AL
10C20 OLD TURKIC LETTER ORKHON |AEL|ELT|EM|AN|AEN
10C25 OLD TURKIC LETTER |YENISEI AEN|ORKHON ENT|YENISEI ENT|ORKHON ENC
10C29 OLD TURKIC LETTER |YENISEI ENC|ORKHON ENY|YENISEI ENY|YENISEI ANG|ORKHON ENG|YENISEI AENG
10C2F OLD TURKIC LETTER |ORKHON EP|ORKHON OP|ORKHON IC|ORKHON EC|YENISEI EC|ORKHON AQ|YENISEI AQ
10C36 OLD TURKIC LETTER |ORKHON IQ|YENISEI IQ|ORKHON OQ|YENISEI OQ|ORKHON AR|YENISEI AR|ORKHON AER
10C3D OLD TURKIC LETTER |ORKHON AS|ORKHON AES|ORKHON ASH|YENISEI ASH|ORKHON ESH|YENISEI ESH
10C43 OLD TURKIC LETTER |ORKHON AT|YENISEI AT|ORKHON AET|YENISEI AET|ORKHON OT|ORKHON BASH
10C80 OLD HUNGARIAN CAPITAL LETTER |A|AA|EB|AMB|EC|ENC|ECS|ED|AND|E|CLOSE E|EE|EF|EG
10C8E OLD HUNGARIAN CAPITAL LETTER |EGY|EH|I|II|EJ|EK|AK|UNK|EL|ELY|EM|EN|ENY|O|OO|NIKOLSBURG OE
10C9E OLD HUNGARIAN CAPITAL LETTER |RUDIMENTA OE|OEE|EP|EMP|ER|SHORT ER|ES|ESZ|ET|ENT|ETY|ECH
10CAA OLD HUNGARIAN CAPITAL LETTER |U|UU|NIKOLSBURG UE|RUDIMENTA UE|EV|EZ|EZS|ENT-SHAPED SIGN|US
10CC0 OLD HUNGARIAN SMALL LETTER |A|AA|EB|AMB|EC|ENC|ECS|ED|AND|E|CLOSE E|EE|EF
10CCD OLD HUNGARIAN SMALL LETTER |EG|EGY|EH|I|II|EJ|EK|AK|UNK|EL|ELY|EM|EN|ENY|O|OO|NIKOLSBURG OE
10CDE OLD HUNGARIAN SMALL LETTER |RUDIMENTA OE|OEE|EP|EMP|ER|SHORT ER|ES|ESZ|ET|ENT|ETY
10CE9 OLD HUNGARIAN SMALL LETTER |ECH|U|UU|NIKOLSBURG UE|RUDIMENTA UE|EV|EZ|EZS|ENT-SHAPED SIGN|US
10CFA OLD HUNGARIAN NUMBER |ONE|FIVE|TEN|FIFTY|ONE HUNDRED|ONE THOUSAND
10D00 HANIFI ROHINGYA LETTER |A|BA|PA|TA|TTA|JA|CA|HA|KHA|FA|DA|DDA
10D0C HANIFI ROHINGYA LETTER |RA|RRA|ZA|SA|SHA|KA|GA|LA|MA|NA|WA|KINNA WA|YA|KINNA YA|NGA|NYA|VA
10D1D HANIFI ROHINGYA VOWEL |A|I|U|E|O
10D22 HANIFI ROHINGYA |MARK SAKIN|MARK NA KHONNA|SIGN HARBAHAY|SIGN TAHALA|SIGN TANA|SIGN TASSI
10D30 HANIFI ROHINGYA DIGIT |ZERO|ONE|TWO|THREE|FOUR|FIVE|SIX|SEVEN|EIGHT|NINE
10D40 GARAY DIGIT |ZERO|ONE|TWO|THREE|FOUR|FIVE|SIX|SEVEN|EIGHT|NINE
10D4A GARAY VOWEL SIGN |A|I|O|EE
10D4E GARAY |VOWEL LENGTH MARK|SUKUN
10D50 GARAY CAPITAL LETTER |A|CA|MA|KA|BA|JA|SA|WA|LA|GA|DA|XA|YA|TA|RA|NYA|FA|NA|PA|HA
10D64 GARAY CAPITAL LETTER OLD |KA|NA
10D69 GARAY |VOWEL SIGN E|CONSONANT GEMINATION MARK|COMBINING DOT ABOVE|COMBINING DOUBLE DOT ABOVE
10D6D GARAY |CONSONANT NASALIZATION MARK|HYPHEN|REDUPLICATION MARK|SMALL LETTER A
10D71 GARAY SMALL LETTER |CA|MA|KA|BA|JA|SA|WA|LA|GA|DA|XA|YA|TA|RA|NYA|FA|NA|PA|HA|OLD KA|OLD NA
10D8E GARAY |PLUS SIGN|MINUS SIGN
10E60 RUMI DIGIT |ONE|TWO|THREE|FOUR|FIVE|SIX|SEVEN|EIGHT|NINE
10E69 RUMI NUMBER |TEN|TWENTY|THIRTY
10E6C RUMI NUMBER |FORTY|FIFTY|SIXTY|SEVENTY|EIGHTY|NINETY|ONE HUNDRED|TWO HUNDRED|THREE HUNDRED
10E75 RUMI NUMBER |FOUR HUNDRED|FIVE HUNDRED|SIX HUNDRED|SEVEN HUNDRED|EIGHT HUNDRED|NINE HUNDRED
10E7B RUMI FRACTION |ONE HALF|ONE QUARTER|ONE THIRD|TWO THIRDS
10E80 YEZIDI LETTER |ELIF|BE|PE|PHE|THE|SE
10E86 YEZIDI LETTER |CIM|CHIM|CHHIM|HHA|XA|DAL|ZAL|RA|RHA|ZA|JA|SIN|SHIN|SAD|DAD|TA|ZE|EYN|XHEYN
10E99 YEZIDI LETTER |FA|VA|VA ALTERNATE FORM|QAF|KAF|KHAF|GAF|LAM|MIM|NUN|UM|WAW|OW|EW|HAY|YOT|ET
10EAB YEZIDI |COMBINING HAMZA MARK|COMBINING MADDA MARK|HYPHENATION MARK
10EB0 YEZIDI LETTER |LAM WITH DOT ABOVE|YOT WITH CIRCUMFLEX ABOVE
10EC2 |ARABIC LETTER DAL WITH TWO DOTS VERTICALLY BELOW
10EC3 ARABIC LETTER |TAH WITH TWO DOTS VERTICALLY BELOW|KAF WITH TWO DOTS VERTICALLY BELOW
10EFC |ARABIC COMBINING ALEF OVERLAY
10EFD ARABIC SMALL LOW WORD |SAKTA|QASR|MADDA
10F00 OLD SOGDIAN LETTER |ALEPH|FINAL ALEPH|BETH|FINAL BETH|GIMEL|HE|FINAL HE|WAW|ZAYIN|HETH
10F0A OLD SOGDIAN LETTER |YODH|KAPH|LAMEDH|MEM|NUN|FINAL NUN|FINAL NUN WITH VERTICAL TAIL|SAMEKH
10F12 OLD SOGDIAN LETTER |AYIN|ALTERNATE AYIN|PE|SADHE|FINAL SADHE|FINAL SADHE WITH VERTICAL TAIL
10F18 OLD SOGDIAN LETTER |RESH-AYIN-DALETH|SHIN|TAW|FINAL TAW|FINAL TAW WITH VERTICAL TAIL
10F1D OLD SOGDIAN NUMBER |ONE|TWO|THREE|FOUR|FIVE|TEN|TWENTY|THIRTY|ONE HUNDRED
10F26 OLD SOGDIAN |FRACTION ONE HALF|LIGATURE AYIN-DALETH
10F30 SOGDIAN LETTER |ALEPH|BETH|GIMEL|HE|WAW|ZAYIN|HETH
10F37 SOGDIAN LETTER |YODH|KAPH|LAMEDH|MEM|NUN|SAMEKH|AYIN|PE|SADHE|RESH-AYIN|SHIN|TAW|FETH|LESH
10F45 |SOGDIAN INDEPENDENT SHIN
10F46 SOGDIAN COMBINING |DOT BELOW|TWO DOTS BELOW|DOT ABOVE|TWO DOTS ABOVE|CURVE ABOVE
10F4B SOGDIAN COMBINING |CURVE BELOW|HOOK ABOVE|HOOK BELOW|LONG HOOK BELOW|RESH BELOW|STROKE BELOW
10F51 SOGDIAN NUMBER |ONE|TEN|TWENTY|ONE HUNDRED
10F55 SOGDIAN PUNCTUATION TWO VERTICAL |BARS|BARS WITH DOTS
10F57 SOGDIAN PUNCTUATION |CIRCLE WITH DOT|TWO CIRCLES WITH DOTS|HALF CIRCLE WITH DOT
10F70 OLD UYGHUR LETTER |ALEPH|BETH|GIMEL-HETH|WAW|ZAYIN
10F75 OLD UYGHUR LETTER |FINAL HETH|YODH|KAPH|LAMEDH|MEM|NUN|SAMEKH|PE|SADHE|RESH|SHIN|TAW|LESH
10F82 OLD UYGHUR COMBINING |DOT ABOVE|DOT BELOW|TWO DOTS ABOVE|TWO DOTS BELOW
10F86 OLD UYGHUR PUNCTUATION |BAR|TWO BARS|TWO DOTS|FOUR DOTS
10FB0 CHORASMIAN LETTER |ALEPH|SMALL ALEPH|BETH|GIMEL|DALETH|HE|WAW|CURLED WAW
10FB8 CHORASMIAN LETTER |ZAYIN|HETH|YODH|KAPH|LAMEDH|MEM|NUN|SAMEKH|AYIN|PE|RESH|SHIN|TAW
10FC5 CHORASMIAN NUMBER |ONE|TWO|THREE|FOUR|TEN|TWENTY|ONE HUNDRED
10FE0 ELYMAIC LETTER |ALEPH|BETH|GIMEL|DALETH|HE|WAW|ZAYIN
10FE7 ELYMAIC LETTER |HETH|TETH|YODH|KAPH|LAMEDH|MEM|NUN|SAMEKH|AYIN|PE|SADHE|QOPH|RESH|SHIN|TAW
10FF6 |ELYMAIC LIGATURE ZAYIN-YODH
11000 BRAHMI SIGN |CANDRABINDU|ANUSVARA|VISARGA|JIHVAMULIYA|UPADHMANIYA
11005 BRAHMI LETTER |A|AA|I|II|U|UU
1100B BRAHMI LETTER VOCALIC |R|RR|L|LL
1100F BRAHMI LETTER |E|AI|O|AU|KA|KHA|GA|GHA|NGA|CA|CHA|JA|JHA|NYA|TTA|TTHA
1101F BRAHMI LETTER |DDA|DDHA|NNA|TA|THA|DA|DHA|NA|PA|PHA|BA|BHA|MA|YA|RA|LA|VA|SHA|SSA|SA|HA|LLA
11035 BRAHMI LETTER OLD TAMIL |LLLA|RRA|NNNA
11038 BRAHMI VOWEL SIGN |AA|BHATTIPROLU AA
1103A BRAHMI VOWEL SIGN |I|II|U|UU|VOCALIC R|VOCALIC RR|VOCALIC L|VOCALIC LL|E|AI|O|AU
11046 BRAHMI |VIRAMA|DANDA|DOUBLE DANDA
11049 BRAHMI PUNCTUATION |DOT|DOUBLE DOT|LINE|CRESCENT BAR|LOTUS
11052 BRAHMI NUMBER |ONE|TWO|THREE|FOUR|FIVE|SIX|SEVEN|EIGHT|NINE|TEN|TWENTY
1105D BRAHMI NUMBER |THIRTY|FORTY|FIFTY|SIXTY|SEVENTY|EIGHTY|NINETY|ONE HUNDRED|ONE THOUSAND
11066 BRAHMI DIGIT |ZERO|ONE|TWO|THREE|FOUR|FIVE|SIX|SEVEN|EIGHT|NINE
11070 |BRAHMI SIGN OLD TAMIL VIRAMA
11071 BRAHMI LETTER OLD TAMIL SHORT |E|O
11073 BRAHMI VOWEL SIGN OLD TAMIL SHORT |E|O
11075 |BRAHMI LETTER OLD TAMIL LLA
1107F |BRAHMI NUMBER JOINER
11080 KAITHI |SIGN CANDRABINDU|SIGN ANUSVARA|SIGN VISARGA|LETTER A
11084 KAITHI LETTER |AA|I|II|U|UU|E|AI|O|AU|KA|KHA|GA|GHA|NGA|CA|CHA|JA|JHA|NYA|TTA|TTHA|DDA|DDDHA
1109B KAITHI LETTER |DDHA|RHA|NNA|TA|THA|DA|DHA|NA|PA|PHA|BA|BHA|MA|YA|RA|LA|VA|SHA|SSA|SA|HA
110B0 KAITHI VOWEL SIGN |AA|I|II|U|UU|E|AI|O|AU
110B9 KAITHI |SIGN VIRAMA|SIGN NUKTA|ABBREVIATION SIGN|ENUMERATION SIGN
110BD KAITHI |NUMBER SIGN|SECTION MARK|DOUBLE SECTION MARK|DANDA|DOUBLE DANDA|VOWEL SIGN VOCALIC R
110CD |KAITHI NUMBER SIGN ABOVE
110D0 SORA SOMPENG LETTER |SAH|TAH|BAH|CAH|DAH|GAH|MAH
110D7 SORA SOMPENG LETTER |NGAH|LAH|NAH|VAH|PAH|YAH|RAH|HAH|KAH|JAH|NYAH|AH|EEH|IH|UH|OH|EH|MAE
110F0 SORA SOMPENG DIGIT |ZERO|ONE|TWO|THREE|FOUR|FIVE|SIX|SEVEN|EIGHT|NINE
11100 CHAKMA SIGN |CANDRABINDU|ANUSVARA|VISARGA
11103 CHAKMA LETTER |AA|I|U|E|KAA|KHAA|GAA|GHAA|NGAA|CAA|CHAA|JAA|JHAA|NYAA|TTAA|TTHAA|DDAA|DDHAA
11115 CHAKMA LETTER |NNAA|TAA|THAA|DAA|DHAA|NAA|PAA|PHAA|BAA|BHAA|MAA|YYAA|YAA|RAA|LAA|WAA|SAA|HAA
11127 CHAKMA VOWEL SIGN |A|I|II|U|UU|E|AI|O|AU|OI
11131 CHAKMA |O MARK|AU MARK|VIRAMA|MAAYYAA
11136 CHAKMA DIGIT |ZERO|ONE|TWO|THREE|FOUR|FIVE|SIX|SEVEN|EIGHT|NINE
11140 |CHAKMA SECTION MARK
11141 CHAKMA |DANDA|DOUBLE DANDA|QUESTION MARK|LETTER LHAA|VOWEL SIGN AA|VOWEL SIGN EI|LETTER VAA
11150 MAHAJANI LETTER |A|I|U|E|O|KA|KHA|GA|GHA|CA|CHA|JA|JHA|NYA
1115E MAHAJANI LETTER |TTA|TTHA|DDA|DDHA|NNA|TA|THA|DA|DHA|NA|PA|PHA|BA|BHA|MA|RA|LA|VA|SA|HA|RRA
11173 MAHAJANI |SIGN NUKTA|ABBREVIATION SIGN|SECTION MARK|LIGATURE SHRI
11180 SHARADA SIGN |CANDRABINDU|ANUSVARA|VISARGA
11183 SHARADA LETTER |A|AA|I|II|U|UU
11189 SHARADA LETTER VOCALIC |R|RR|L|LL
1118D SHARADA LETTER |E|AI|O|AU|KA|KHA|GA|GHA|NGA|CA|CHA|JA|JHA|NYA|TTA|TTHA
1119D SHARADA LETTER |DDA|DDHA|NNA|TA|THA|DA|DHA|NA|PA|PHA|BA|BHA|MA|YA|RA|LA|LLA|VA|SHA|SSA|SA|HA
111B3 SHARADA VOWEL SIGN |AA|I|II|U|UU|VOCALIC R|VOCALIC RR|VOCALIC L|VOCALIC LL|E|AI|O|AU
111C0 SHARADA SIGN |VIRAMA|AVAGRAHA|JIHVAMULIYA|UPADHMANIYA
111C4 SHARADA |OM|DANDA|DOUBLE DANDA|ABBREVIATION SIGN
111C8 SHARADA |SEPARATOR|SANDHI MARK|SIGN NUKTA|VOWEL MODIFIER MARK|EXTRA SHORT VOWEL MARK
111CD SHARADA |SUTRA MARK|VOWEL SIGN PRISHTHAMATRA E|SIGN INVERTED CANDRABINDU
111D0 SHARADA DIGIT |ZERO|ONE|TWO|THREE|FOUR|FIVE|SIX|SEVEN|EIGHT|NINE
111DA SHARADA |EKAM|SIGN SIDDHAM|HEADSTROKE|CONTINUATION SIGN|SECTION MARK-1|SECTION MARK-2
111E1 SINHALA ARCHAIC DIGIT |ONE|TWO|THREE|FOUR|FIVE|SIX|SEVEN|EIGHT|NINE
111EA SINHALA ARCHAIC NUMBER |TEN|TWENTY|THIRTY|FORTY|FIFTY|SIXTY|SEVENTY|EIGHTY|NINETY
111F3 SINHALA ARCHAIC NUMBER ONE |HUNDRED|THOUSAND
11200 KHOJKI LETTER |A|AA|I|U|E|AI|O|AU|KA|KHA|GA|GGA|GHA|NGA|CA|CHA|JA|JJA
11213 KHOJKI LETTER |NYA|TTA|TTHA
11216 KHOJKI LETTER |DDA|DDHA|NNA|TA|THA|DA|DDDA|DHA|NA|PA|PHA|BA|BBA|BHA|MA|YA|RA|LA|VA|SA|HA|LLA
1122C KHOJKI VOWEL SIGN |AA|I|II|U|E|AI|O|AU
11234 KHOJKI SIGN |ANUSVARA|VIRAMA|NUKTA|SHADDA
11238 KHOJKI |DANDA|DOUBLE DANDA|WORD SEPARATOR|SECTION MARK|DOUBLE SECTION MARK
1123D KHOJKI |ABBREVIATION SIGN|SIGN SUKUN|LETTER QA|LETTER SHORT I|VOWEL SIGN VOCALIC R
11280 MULTANI LETTER |A|I|U|E|KA|KHA|GA
11288 |MULTANI LETTER GHA
1128A MULTANI LETTER |CA|CHA|JA|JJA
1128F MULTANI LETTER |NYA|TTA|TTHA|DDA|DDDA|DDHA|NNA|TA|THA|DA|DHA|NA|PA|PHA|BA
1129F MULTANI LETTER |BHA|MA|YA|RA|LA|VA|SA|HA|RRA|RHA
112A9 |MULTANI SECTION MARK
112B0 KHUDAWADI LETTER |A|AA|I|II|U
112B5 KHUDAWADI LETTER |UU|E|AI|O|AU|KA|KHA|GA|GGA|GHA|NGA|CA|CHA|JA|JJA|JHA|NYA|TTA|TTHA|DDA|DDDA
112CA KHUDAWADI LETTER |RRA|DDHA|NNA|TA|THA|DA|DHA|NA|PA|PHA|BA|BBA|BHA|MA|YA|RA|LA|VA|SHA|SA|HA
112DF |KHUDAWADI SIGN ANUSVARA
112E0 KHUDAWADI VOWEL SIGN |AA|I|II|U|UU|E|AI|O|AU
112E9 KHUDAWADI SIGN |NUKTA|VIRAMA
112F0 KHUDAWADI DIGIT |ZERO|ONE|TWO|THREE|FOUR|FIVE|SIX|SEVEN|EIGHT|NINE
11300 GRANTHA SIGN |COMBINING ANUSVARA ABOVE|CANDRABINDU|ANUSVARA|VISARGA
11305 GRANTHA LETTER |A|AA|I|II|U|UU|VOCALIC R|VOCALIC L
1130F GRANTHA LETTER |EE|AI
11313 GRANTHA LETTER |OO|AU
11315 GRANTHA LETTER |KA|KHA|GA|GHA|NGA|CA|CHA|JA|JHA|NYA|TTA|TTHA|DDA|DDHA|NNA|TA|THA|DA|DHA|NA
1132A GRANTHA LETTER |PA|PHA|BA|BHA|MA|YA|RA
11332 GRANTHA LETTER |LA|LLA
11335 GRANTHA LETTER |VA|SHA|SSA|SA|HA
1133B |COMBINING BINDU BELOW
1133C GRANTHA SIGN |NUKTA|AVAGRAHA
1133E GRANTHA VOWEL SIGN |AA|I|II|U|UU|VOCALIC R|VOCALIC RR
11347 GRANTHA VOWEL SIGN |EE|AI
1134B GRANTHA |VOWEL SIGN OO|VOWEL SIGN AU|SIGN VIRAMA
11350 |GRANTHA OM
11357 |GRANTHA AU LENGTH MARK
1135D |GRANTHA SIGN PLUTA
1135E GRANTHA LETTER |VEDIC ANUSVARA|VEDIC DOUBLE ANUSVARA|VOCALIC RR|VOCALIC LL
11362 GRANTHA VOWEL SIGN VOCALIC |L|LL
11366 COMBINING GRANTHA DIGIT |ZERO|ONE|TWO|THREE|FOUR|FIVE|SIX
11370 COMBINING GRANTHA LETTER |A|KA|NA|VI|PA
11380 TULU-TIGALARI LETTER |A|AA|I|II|U|UU|VOCALIC R|VOCALIC RR|VOCALIC L|VOCALIC LL
1138B |TULU-TIGALARI LETTER EE
1138E |TULU-TIGALARI LETTER AI
11390 TULU-TIGALARI LETTER |OO|AU|KA|KHA|GA|GHA|NGA|CA|CHA|JA|JHA|NYA|TTA|TTHA|DDA|DDHA|NNA|TA
113A2 TULU-TIGALARI LETTER |THA|DA|DHA|NA|PA|PHA|BA|BHA|MA|YA|RA|LA|VA|SHA|SSA|SA|HA|LLA|RRA|LLLA
113B7 |TULU-TIGALARI SIGN AVAGRAHA
113B8 TULU-TIGALARI VOWEL SIGN |AA|I|II|U|UU|VOCALIC R|VOCALIC RR|VOCALIC L|VOCALIC LL
113C2 |TULU-TIGALARI VOWEL SIGN EE
113C5 |TULU-TIGALARI VOWEL SIGN AI
113C7 TULU-TIGALARI |VOWEL SIGN OO|VOWEL SIGN AU|AU LENGTH MARK|SIGN CANDRA ANUNASIKA
113CC TULU-TIGALARI SIGN |ANUSVARA|VISARGA|VIRAMA|LOOPED VIRAMA
113D0 TULU-TIGALARI |CONJOINER|REPHA|GEMINATION MARK|SIGN PLUTA|DANDA|DOUBLE DANDA
113D7 TULU-TIGALARI SIGN |OM PUSHPIKA|SHRII PUSHPIKA
113E1 TULU-TIGALARI VEDIC TONE |SVARITA|ANUDATTA
11400 NEWA LETTER |A|AA|I|II|U|UU
11406 NEWA LETTER VOCALIC |R|RR|L|LL
1140A NEWA LETTER |E|AI|O|AU|KA|KHA|GA|GHA|NGA|NGHA|CA|CHA|JA|JHA|NYA|NYHA|TTA|TTHA|DDA|DDHA
1141E NEWA LETTER |NNA|TA|THA|DA|DHA|NA|NHA|PA|PHA|BA|BHA|MA|MHA|YA|RA|RHA|LA|LHA|WA|SHA|SSA|SA|HA
11435 NEWA VOWEL SIGN |AA|I|II|U|UU|VOCALIC R|VOCALIC RR|VOCALIC L|VOCALIC LL|E|AI|O|AU
11442 NEWA SIGN |VIRAMA|CANDRABINDU|ANUSVARA|VISARGA|NUKTA|AVAGRAHA|FINAL ANUSVARA
11449 NEWA |OM|SIDDHI|DANDA|DOUBLE DANDA|COMMA|GAP FILLER|ABBREVIATION SIGN
11450 NEWA DIGIT |ZERO|ONE|TWO|THREE|FOUR|FIVE|SIX|SEVEN|EIGHT|NINE
1145A NEWA |DOUBLE COMMA|PLACEHOLDER MARK
1145D NEWA |INSERTION SIGN|SANDHI MARK|LETTER VEDIC ANUSVARA|SIGN JIHVAMULIYA|SIGN UPADHMANIYA
11480 |TIRHUTA ANJI
11481 TIRHUTA LETTER |A|AA|I|II|U|UU
11487 TIRHUTA LETTER VOCALIC |R|RR|L|LL
1148B TIRHUTA LETTER |E|AI|O|AU|KA|KHA|GA|GHA|NGA|CA|CHA|JA|JHA|NYA|TTA|TTHA
1149B TIRHUTA LETTER |DDA|DDHA|NNA|TA|THA|DA|DHA|NA|PA|PHA|BA|BHA|MA|YA|RA|LA|VA|SHA|SSA|SA|HA
114B0 TIRHUTA VOWEL SIGN |AA|I|II
114B3 TIRHUTA VOWEL SIGN |U|UU|VOCALIC R|VOCALIC RR|VOCALIC L|VOCALIC LL|E|SHORT E|AI|O|SHORT O|AU
114BF TIRHUTA SIGN |CANDRABINDU|ANUSVARA|VISARGA|VIRAMA|NUKTA|AVAGRAHA
114C5 TIRHUTA |GVANG|ABBREVIATION SIGN|OM
114D0 TIRHUTA DIGIT |ZERO|ONE|TWO|THREE|FOUR|FIVE|SIX|SEVEN|EIGHT|NINE
11580 SIDDHAM LETTER |A|AA|I|II|U|UU
11586 SIDDHAM LETTER VOCALIC |R|RR|L|LL
1158A SIDDHAM LETTER |E|AI|O|AU|KA|KHA|GA|GHA|NGA|CA|CHA|JA|JHA|NYA|TTA|TTHA
1159A SIDDHAM LETTER |DDA|DDHA|NNA|TA|THA|DA|DHA|NA|PA|PHA|BA|BHA|MA|YA|RA|LA|VA|SHA|SSA|SA|HA
115AF SIDDHAM VOWEL SIGN |AA|I|II|U|UU|VOCALIC R|VOCALIC RR
115B8 SIDDHAM VOWEL SIGN |E|AI|O|AU
115BC SIDDHAM SIGN |CANDRABINDU|ANUSVARA|VISARGA|VIRAMA|NUKTA|SIDDHAM
115C2 SIDDHAM |DANDA|DOUBLE DANDA|SEPARATOR DOT|SEPARATOR BAR
115C6 SIDDHAM REPETITION MARK-|1|2|3
115C9 |SIDDHAM END OF TEXT MARK
115CA SIDDHAM SECTION MARK WITH TRIDENT AND |U-SHAPED ORNAMENTS|DOTTED CRESCENTS
115CC SIDDHAM SECTION MARK WITH RAYS AND DOTTED |CRESCENTS|DOUBLE CRESCENTS|TRIPLE CRESCENTS
115CF SIDDHAM SECTION MARK |DOUBLE RING|DOUBLE RING WITH RAYS|WITH DOUBLE CRESCENTS
115D2 SIDDHAM SECTION MARK WITH |TRIPLE CRESCENTS|QUADRUPLE CRESCENTS|SEPTUPLE CRESCENTS
115D5 SIDDHAM SECTION MARK WITH CIRCLES AND |RAYS|TWO ENCLOSURES|FOUR ENCLOSURES
115D8 |SIDDHAM LETTER THREE-CIRCLE ALTERNATE I
115D9 SIDDHAM LETTER |TWO-CIRCLE ALTERNATE I|TWO-CIRCLE ALTERNATE II|ALTERNATE U
115DC SIDDHAM VOWEL SIGN ALTERNATE |U|UU
11600 MODI LETTER |A|AA|I|II|U|UU
11606 MODI LETTER VOCALIC |R|RR|L|LL
1160A MODI LETTER |E|AI|O|AU|KA|KHA|GA|GHA|NGA|CA|CHA|JA|JHA|NYA|TTA|TTHA
1161A MODI LETTER |DDA|DDHA|NNA|TA|THA|DA|DHA|NA|PA|PHA|BA|BHA|MA|YA|RA|LA|VA|SHA|SSA|SA|HA|LLA
11630 MODI VOWEL SIGN |AA|I|II|U|UU|VOCALIC R|VOCALIC RR|VOCALIC L|VOCALIC LL|E|AI|O|AU
1163D MODI SIGN |ANUSVARA|VISARGA|VIRAMA|ARDHACANDRA
11641 MODI |DANDA|DOUBLE DANDA|ABBREVIATION SIGN|SIGN HUVA
11650 MODI DIGIT |ZERO|ONE|TWO|THREE|FOUR|FIVE|SIX|SEVEN|EIGHT|NINE
11660 MONGOLIAN |BIRGA WITH ORNAMENT|ROTATED BIRGA
11662 MONGOLIAN |DOUBLE BIRGA WITH ORNAMENT|TRIPLE BIRGA WITH ORNAMENT|BIRGA WITH DOUBLE ORNAMENT
11665 MONGOLIAN ROTATED BIRGA WITH |ORNAMENT|DOUBLE ORNAMENT
11667 MONGOLIAN INVERTED |BIRGA|BIRGA WITH DOUBLE ORNAMENT
11669 MONGOLIAN SWIRL |BIRGA|BIRGA WITH ORNAMENT|BIRGA WITH DOUBLE ORNAMENT
1166C |MONGOLIAN TURNED SWIRL BIRGA WITH DOUBLE ORNAMENT
11680 TAKRI LETTER |A|AA|I|II|U|UU|E|AI|O|AU|KA|KHA|GA|GHA|NGA|CA|CHA|JA|JHA|NYA|TTA
11695 TAKRI LETTER |TTHA|DDA|DDHA|NNA|TA|THA|DA|DHA|NA|PA|PHA|BA|BHA|MA|YA|RA|LA|VA|SHA|SA|HA|RRA
116AB TAKRI SIGN |ANUSVARA|VISARGA
116AD TAKRI VOWEL SIGN |AA|I|II|U|UU|E|AI|O|AU
116B6 TAKRI |SIGN VIRAMA|SIGN NUKTA|LETTER ARCHAIC KHA|ABBREVIATION SIGN
116C0 TAKRI DIGIT |ZERO|ONE|TWO|THREE|FOUR|FIVE|SIX|SEVEN|EIGHT|NINE
116D0 MYANMAR PAO KAREN DIGIT |ZERO|ONE|TWO|THREE|FOUR|FIVE|SIX|SEVEN|EIGHT|NINE
116DA MYANMAR EASTERN PWO KAREN DIGIT |ZERO|ONE|TWO|THREE|FOUR|FIVE|SIX|SEVEN|EIGHT|NINE
11700 AHOM LETTER |KA|KHA|NGA|NA|TA|ALTERNATE TA|PA|PHA|BA
11709 AHOM LETTER |MA|JA|CHA|THA|RA|LA|SA|NYA|HA|A|DA|DHA|GA|ALTERNATE GA|GHA|BHA|JHA|ALTERNATE BA
1171D AHOM CONSONANT SIGN MEDIAL |LA|RA|LIGATING RA
11720 AHOM VOWEL SIGN |A|AA|I|II|U|UU|E|AW|O|AI|AM
1172B |AHOM SIGN KILLER
11730 AHOM DIGIT |ZERO|ONE|TWO|THREE|FOUR|FIVE|SIX|SEVEN|EIGHT|NINE
1173A AHOM |NUMBER TEN|NUMBER TWENTY|SIGN SMALL SECTION|SIGN SECTION|SIGN RULAI|SYMBOL VI
11740 AHOM LETTER |CA|TTA|TTHA|DDA|DDHA|NNA|LLA
11800 DOGRA LETTER |A|AA|I|II|U|UU|E|AI|O|AU|KA|KHA|GA|GHA|NGA|CA|CHA|JA|JHA|NYA|TTA|TTHA
11816 DOGRA LETTER |DDA|DDHA|NNA|TA|THA|DA|DHA|NA|PA|PHA|BA|BHA|MA|YA|RA|LA|VA|SHA|SSA|SA|HA|RRA
1182C DOGRA VOWEL SIGN |AA|I|II|U|UU|VOCALIC R|VOCALIC RR|E|AI|O|AU
11837 DOGRA SIGN |ANUSVARA|VISARGA|VIRAMA|NUKTA
1183B |DOGRA ABBREVIATION SIGN
118A0 WARANG CITI CAPITAL LETTER |NGAA|A|WI|YU|YA|YO|II|UU|E|O|ANG|GA|KO|ENY|YUJ|UC
118B0 WARANG CITI CAPITAL LETTER |ENN|ODD|TTE|NUNG|DA|AT|AM|BU|PU|HIYO|HOLO|HORR|HAR|SSUU|SII|VIYO
118C0 WARANG CITI SMALL LETTER |NGAA|A|WI|YU|YA|YO|II|UU|E|O|ANG|GA|KO|ENY|YUJ|UC
118D0 WARANG CITI SMALL LETTER |ENN|ODD|TTE|NUNG|DA|AT|AM|BU|PU|HIYO|HOLO|HORR|HAR|SSUU|SII|VIYO
118E0 WARANG CITI DIGIT |ZERO|ONE|TWO|THREE|FOUR|FIVE|SIX|SEVEN|EIGHT|NINE
118EA WARANG CITI NUMBER |TEN|TWENTY|THIRTY|FORTY|FIFTY|SIXTY|SEVENTY|EIGHTY|NINETY
118FF |WARANG CITI OM
11900 DIVES AKURU LETTER |A|AA|I|II|U|UU|E
11909 |DIVES AKURU LETTER O
1190C DIVES AKURU LETTER |KA|KHA|GA|GHA|NGA|CA|CHA|JA
11915 DIVES AKURU LETTER |NYA|TTA
11918 DIVES AKURU LETTER |DDA|DDHA|NNA
1191B DIVES AKURU LETTER |TA|THA|DA|DHA|NA|PA|PHA|BA|BHA|MA|YA|YYA|RA|LA|VA|SHA|SSA|SA|HA|LLA|ZA
11930 DIVES AKURU VOWEL SIGN |AA|I|II|U|UU|E
11937 DIVES AKURU VOWEL SIGN |AI|O
1193B DIVES AKURU SIGN |ANUSVARA|CANDRABINDU|HALANTA
1193E DIVES AKURU |VIRAMA|PREFIXED NASAL SIGN|MEDIAL YA
11941 DIVES AKURU |INITIAL RA|MEDIAL RA|SIGN NUKTA|DOUBLE DANDA|GAP FILLER|END OF TEXT MARK
11950 DIVES AKURU DIGIT |ZERO|ONE|TWO|THREE|FOUR|FIVE|SIX|SEVEN|EIGHT|NINE
119A0 NANDINAGARI LETTER |A|AA|I|II|U|UU|VOCALIC R|VOCALIC RR
119AA NANDINAGARI LETTER |E|AI|O|AU|KA|KHA|GA|GHA|NGA|CA|CHA|JA|JHA|NYA|TTA|TTHA|DDA|DDHA
119BC NANDINAGARI LETTER |NNA|TA|THA|DA|DHA|NA|PA|PHA|BA|BHA|MA|YA|RA|LA|VA|SHA|SSA|SA|HA|LLA|RRA
119D1 NANDINAGARI VOWEL SIGN |AA|I|II|U|UU|VOCALIC R|VOCALIC RR
119DA NANDINAGARI VOWEL SIGN |E|AI|O|AU
119DE NANDINAGARI SIGN |ANUSVARA|VISARGA|VIRAMA|AVAGRAHA|SIDDHAM
119E3 NANDINAGARI |HEADSTROKE|VOWEL SIGN PRISHTHAMATRA E
11A00 |ZANABAZAR SQUARE LETTER A
11A01 ZANABAZAR SQUARE VOWEL SIGN |I|UE|U|E|OE|O|AI|AU|REVERSED I
11A0A |ZANABAZAR SQUARE VOWEL LENGTH MARK
11A0B ZANABAZAR SQUARE LETTER |KA|KHA|GA|GHA|NGA|CA|CHA|JA|NYA|TTA|TTHA|DDA|DDHA|NNA|TA|THA|DA|DHA
11A1D ZANABAZAR SQUARE LETTER |NA|PA|PHA|BA|BHA|MA|TSA|TSHA|DZA|DZHA|ZHA|ZA|-A|YA|RA|LA|VA|SHA|SSA
11A30 ZANABAZAR SQUARE |LETTER SA|LETTER HA|LETTER KSSA|FINAL CONSONANT MARK
11A34 ZANABAZAR SQUARE SIGN |VIRAMA|CANDRABINDU|CANDRABINDU WITH ORNAMENT|CANDRA WITH ORNAMENT
11A38 ZANABAZAR SQUARE |SIGN ANUSVARA|SIGN VISARGA|CLUSTER-INITIAL LETTER RA
11A3B ZANABAZAR SQUARE CLUSTER-FINAL LETTER |YA|RA|LA|VA
11A3F ZANABAZAR SQUARE |INITIAL HEAD MARK|CLOSING HEAD MARK
11A41 ZANABAZAR SQUARE MARK |TSHEG|SHAD|DOUBLE SHAD|LONG TSHEG
11A45 ZANABAZAR SQUARE |INITIAL DOUBLE-LINED HEAD MARK|CLOSING DOUBLE-LINED HEAD MARK|SUBJOINER
11A50 |SOYOMBO LETTER A
11A51 SOYOMBO VOWEL SIGN |I|UE|U|E|O|OE|AI|AU|VOCALIC R|VOCALIC L
11A5B |SOYOMBO VOWEL LENGTH MARK
11A5C SOYOMBO LETTER |KA|KHA|GA|GHA|NGA|CA|CHA|JA|JHA|NYA|TTA|TTHA|DDA|DDHA|NNA|TA|THA|DA|DHA
11A6F SOYOMBO LETTER |NA|PA|PHA|BA|BHA|MA|TSA|TSHA|DZA|ZHA|ZA|-A|YA|RA|LA|VA|SHA|SSA|SA|HA|KSSA
11A84 SOYOMBO SIGN |JIHVAMULIYA|UPADHMANIYA
11A86 SOYOMBO CLUSTER-INITIAL LETTER |RA|LA|SHA|SA
11A8A SOYOMBO FINAL CONSONANT SIGN |G|K|NG|D|N|B|M|R|L|SH|S|-A
11A96 SOYOMBO |SIGN ANUSVARA|SIGN VISARGA|GEMINATION MARK|SUBJOINER
11A9A SOYOMBO MARK |TSHEG|SHAD|DOUBLE SHAD|PLUTA
11A9E SOYOMBO HEAD MARK WITH MOON AND |SUN AND TRIPLE FLAME|SUN AND FLAME|SUN
11AA1 SOYOMBO TERMINAL MARK-|1|2
11AB0 CANADIAN SYLLABICS NATTILIK |HI|HII|HO|HOO|HA|HAA|SHRI|SHRII|SHRO|SHROO|SHRA|SHRAA
11ABC CANADIAN SYLLABICS |SPE|SPI|SPO|SPA
11AC0 PAU CIN HAU LETTER |PA|KA|LA|MA
11AC4 PAU CIN HAU LETTER |DA|ZA|VA|NGA|HA|GA|KHA|SA|BA|CA|TA|THA|NA|PHA|RA|FA|CHA|A|E|I|O|U|UA|IA
11ADC PAU CIN HAU LETTER FINAL |P|K|T|M|N|L|W|NG|Y
11AE5 PAU CIN HAU |RISING TONE LONG|RISING TONE|SANDHI GLOTTAL STOP
11AE8 PAU CIN HAU RISING TONE |LONG FINAL|FINAL
11AEA PAU CIN HAU SANDHI |GLOTTAL STOP FINAL|TONE LONG|TONE|TONE LONG FINAL|TONE FINAL
11AEF PAU CIN HAU |MID-LEVEL TONE|GLOTTAL STOP VARIANT|MID-LEVEL TONE LONG FINAL
11AF2 PAU CIN HAU |MID-LEVEL TONE FINAL|LOW-FALLING TONE LONG|LOW-FALLING TONE|GLOTTAL STOP
11AF6 PAU CIN HAU |LOW-FALLING TONE LONG FINAL|LOW-FALLING TONE FINAL|GLOTTAL STOP FINAL
11B00 DEVANAGARI |HEAD MARK|HEAD MARK WITH HEADSTROKE|SIGN BHALE|SIGN BHALE WITH HOOK
11B04 DEVANAGARI SIGN |EXTENDED BHALE|EXTENDED BHALE WITH HOOK|WESTERN FIVE-LIKE BHALE
11B07 DEVANAGARI SIGN |WESTERN NINE-LIKE BHALE|REVERSED NINE-LIKE BHALE|MINDU
11BC0 SUNUWAR LETTER |DEVI|TASLA|EKO|IMAR|REU|UTTHI|KIK|MA|APPHO|PIP|GIL|HAMSO|CARMI|NAH|BUR|JYAH
11BD0 SUNUWAR LETTER |LOACHA|OTTHI|SHYELE|VARCA|YAT|AVA|AAL|DONGA|THARI|PHAR|NGAR|KHA|SHYER|CHELAP
11BDE SUNUWAR |LETTER TENTU|LETTER THELE|LETTER KLOKO|SIGN PVO
11BF0 SUNUWAR DIGIT |ZERO|ONE|TWO|THREE|FOUR|FIVE|SIX|SEVEN|EIGHT|NINE
11C00 BHAIKSUKI LETTER |A|AA|I|II|U|UU|VOCALIC R|VOCALIC RR|VOCALIC L
11C0A BHAIKSUKI LETTER |E|AI|O|AU|KA|KHA|GA|GHA|NGA|CA|CHA|JA|JHA|NYA|TTA|TTHA
11C1A BHAIKSUKI LETTER |DDA|DDHA|NNA|TA|THA|DA|DHA|NA|PA|PHA|BA|BHA|MA|YA|RA|LA|VA|SHA|SSA|SA|HA
11C2F BHAIKSUKI VOWEL SIGN |AA|I|II|U|UU|VOCALIC R|VOCALIC RR|VOCALIC L
11C38 BHAIKSUKI VOWEL SIGN |E|AI|O|AU
11C3C BHAIKSUKI SIGN |CANDRABINDU|ANUSVARA|VISARGA|VIRAMA|AVAGRAHA
11C41 BHAIKSUKI |DANDA|DOUBLE DANDA|WORD SEPARATOR|GAP FILLER-1|GAP FILLER-2
11C50 BHAIKSUKI DIGIT |ZERO|ONE|TWO|THREE|FOUR|FIVE|SIX|SEVEN|EIGHT|NINE
11C5A BHAIKSUKI NUMBER |ONE|TWO|THREE|FOUR|FIVE|SIX
11C60 BHAIKSUKI NUMBER |SEVEN|EIGHT|NINE|TEN|TWENTY|THIRTY|FORTY|FIFTY|SIXTY|SEVENTY|EIGHTY|NINETY
11C6C |BHAIKSUKI HUNDREDS UNIT MARK
11C70 MARCHEN |HEAD MARK|MARK SHAD
11C72 MARCHEN LETTER |KA|KHA|GA|NGA|CA|CHA|JA
11C79 MARCHEN LETTER |NYA|TA|THA|DA|NA|PA|PHA|BA|MA|TSA|TSHA|DZA|WA|ZHA|ZA|-A|YA|RA|LA|SHA|SA|HA|A
11C92 MARCHEN SUBJOINED LETTER |KA|KHA|GA
11C95 MARCHEN SUBJOINED LETTER |NGA|CA|CHA|JA|NYA|TA|THA|DA|NA|PA|PHA|BA|MA|TSA|TSHA|DZA|WA|ZHA|ZA
11CA9 MARCHEN SUBJOINED LETTER |YA|RA|LA|SHA|SA|HA|A
11CB0 MARCHEN VOWEL SIGN |AA|I|U|E|O
11CB5 MARCHEN SIGN |ANUSVARA|CANDRABINDU
11D00 MASARAM GONDI LETTER |A|AA|I|II|U|UU|E
11D08 MASARAM GONDI LETTER |AI|O
11D0B MASARAM GONDI LETTER |AU|KA|KHA|GA|GHA|NGA|CA|CHA|JA|JHA|NYA|TTA|TTHA|DDA|DDHA|NNA|TA|THA
11D1D MASARAM GONDI LETTER |DA|DHA|NA|PA|PHA|BA|BHA|MA|YA|RA|LA|VA|SHA|SSA|SA|HA|LLA|KSSA|JNYA|TRA
11D31 MASARAM GONDI VOWEL SIGN |AA|I|II|U|UU|VOCALIC R
11D3A |MASARAM GONDI VOWEL SIGN E
11D3C MASARAM GONDI VOWEL SIGN |AI|O
11D3F MASARAM GONDI |VOWEL SIGN AU|SIGN ANUSVARA
11D41 MASARAM GONDI |SIGN VISARGA|SIGN NUKTA|SIGN CANDRA|SIGN HALANTA|VIRAMA|REPHA|RA-KARA
11D50 MASARAM GONDI DIGIT |ZERO|ONE|TWO|THREE|FOUR|FIVE|SIX|SEVEN|EIGHT|NINE
11D60 GUNJALA GONDI LETTER |A|AA|I|II|U|UU
11D67 GUNJALA GONDI LETTER |EE|AI
11D6A GUNJALA GONDI LETTER |OO|AU|YA|VA|BA|BHA|MA|KA|KHA|TA|THA|LA|GA
11D77 GUNJALA GONDI LETTER |GHA|DA|DHA|NA|CA|CHA|TTA|TTHA|LLA|JA|JHA|DDA|DDHA|NGA|PA|PHA|HA|RA|SA
11D8A GUNJALA GONDI VOWEL SIGN |AA|I|II|U|UU
11D90 GUNJALA GONDI VOWEL SIGN |EE|AI
11D93 GUNJALA GONDI |VOWEL SIGN OO|VOWEL SIGN AU|SIGN ANUSVARA|SIGN VISARGA|VIRAMA|OM
11DA0 GUNJALA GONDI DIGIT |ZERO|ONE|TWO|THREE|FOUR|FIVE|SIX|SEVEN|EIGHT|NINE
11EE0 MAKASAR LETTER |KA|GA|NGA|PA|BA|MA|TA|DA|NA|CA|JA|NYA|YA|RA|LA|VA|SA|A
11EF2 |MAKASAR ANGKA
11EF3 MAKASAR VOWEL SIGN |I|U|E|O
11EF7 MAKASAR |PASSIMBANG|END OF SECTION
11F00 KAWI SIGN |CANDRABINDU|ANUSVARA|REPHA|VISARGA
11F04 KAWI LETTER |A|AA|I|II|U|UU|VOCALIC R|VOCALIC RR|VOCALIC L|VOCALIC LL|E|AI|O
11F12 KAWI LETTER |KA|KHA|GA|GHA|NGA|CA|CHA|JA|JHA|NYA|TTA|TTHA
11F1E KAWI LETTER |DDA|DDHA|NNA|TA|THA|DA|DHA|NA|PA|PHA|BA|BHA|MA|YA|RA|LA|WA|SHA|SSA|SA|HA|JNYA
11F34 KAWI VOWEL SIGN |AA|ALTERNATE AA|I|II|U|UU|VOCALIC R
11F3E KAWI VOWEL SIGN |E|AI|EU
11F41 KAWI |SIGN KILLER|CONJOINER|DANDA|DOUBLE DANDA
11F45 KAWI PUNCTUATION |SECTION MARKER|ALTERNATE SECTION MARKER|FLOWER|SPACE FILLER
11F49 KAWI PUNCTUATION |DOT|DOUBLE DOT|TRIPLE DOT|CIRCLE|FILLED CIRCLE|SPIRAL|CLOSING SPIRAL
11F50 KAWI DIGIT |ZERO|ONE|TWO|THREE|FOUR|FIVE|SIX|SEVEN|EIGHT|NINE
11F5A |KAWI SIGN NUKTA
11FB0 |LISU LETTER YHA
11FC0 |TAMIL FRACTION ONE THREE-HUNDRED-AND-TWENTIETH
11FC1 TAMIL FRACTION ONE |ONE-HUNDRED-AND-SIXTIETH|EIGHTIETH|SIXTY-FOURTH|FORTIETH|THIRTY-SECOND
11FC6 TAMIL FRACTION THREE |EIGHTIETHS|SIXTY-FOURTHS
11FC8 TAMIL FRACTION ONE |TWENTIETH|SIXTEENTH-1|SIXTEENTH-2|TENTH|EIGHTH
11FCD TAMIL FRACTION |THREE TWENTIETHS|THREE SIXTEENTHS|ONE FIFTH
11FD0 TAMIL FRACTION |ONE QUARTER|ONE HALF-1|ONE HALF-2|THREE QUARTERS|DOWNSCALING FACTOR KIIZH
11FD5 TAMIL SIGN |NEL|CEVITU|AAZHAAKKU|UZHAKKU
11FD9 TAMIL SIGN |MUUVUZHAKKU|KURUNI|PATHAKKU|MUKKURUNI|KAACU|PANAM|PON|VARAAKAN|PAARAM|KUZHI|VELI
11FE4 TAMIL |WET CULTIVATION SIGN|DRY CULTIVATION SIGN|LAND SIGN|SALT PAN SIGN
11FE8 TAMIL TRADITIONAL |CREDIT SIGN|NUMBER SIGN
11FEA TAMIL |CURRENT SIGN|AND ODD SIGN|SPENT SIGN|TOTAL SIGN|IN POSSESSION SIGN|STARTING FROM SIGN
11FF0 TAMIL SIGN |MUTHALIYA|VAKAIYARAA
11FFF |TAMIL PUNCTUATION END OF TEXT|CUNEIFORM SIGN A
12001 CUNEIFORM SIGN A TIMES |A|BAD|GAN2 TENU|HA|IGI|LAGAR GUNU|MUSH|SAG
12009 CUNEIFORM SIGN |A2|AB
1200B CUNEIFORM SIGN AB TIMES |ASH2|DUN3 GUNU|GAL|GAN2 TENU|HA|IGI GUNU|IMIN|LAGAB|SHESH
12014 CUNEIFORM SIGN |AB TIMES U PLUS U PLUS U|AB GUNU|AB2
12017 CUNEIFORM SIGN AB2 TIMES |BALAG|GAN2 TENU|ME PLUS EN|SHA3|TAK4
1201C CUNEIFORM SIGN |AD|AK|AK TIMES ERIN2|AK TIMES SHITA PLUS GISH|AL
12021 CUNEIFORM SIGN AL TIMES |AL|DIM2|GISH|HA|KAD3|KI|SHE|USH
12029 CUNEIFORM SIGN |ALAN|ALEPH|AMAR|AMAR TIMES SHE|AN|AN OVER AN|AN THREE TIMES
12030 CUNEIFORM SIGN AN PLUS NAGA |OPPOSING AN PLUS NAGA|SQUARED
12032 CUNEIFORM SIGN |ANSHE|APIN|ARAD|ARAD TIMES KUR|ARKAB|ASAL2|ASH
12039 CUNEIFORM SIGN ASH |ZIDA TENU|KABA TENU|OVER ASH TUG2 OVER TUG2 TUG2 OVER TUG2 PAP
1203C CUNEIFORM SIGN ASH OVER ASH OVER |ASH|ASH CROSSING ASH OVER ASH OVER ASH
1203E CUNEIFORM SIGN |ASH2|ASHGAB|BA|BAD|BAG3|BAHAR2|BAL|BAL OVER BAL|BALAG
12047 CUNEIFORM SIGN |BAR|BARA2|BI|BI TIMES A|BI TIMES GAR|BI TIMES IGI GUNU|BU|BU OVER BU AB
1204F CUNEIFORM SIGN |BU OVER BU UN|BU CROSSING BU|BULUG|BULUG OVER BULUG|BUR|BUR2|DA|DAG
12057 CUNEIFORM SIGN DAG KISIM5 TIMES |A PLUS MASH|AMAR|BALAG
1205A CUNEIFORM SIGN DAG KISIM5 TIMES |BI|GA|GA PLUS MASH|GI|GIR2|GUD|HA|IR|IR PLUS LU|KAK|LA|LU
12066 CUNEIFORM SIGN DAG KISIM5 TIMES |LU PLUS MASH2|LUM|NE|PAP PLUS PAP|SI|TAK4|U2 PLUS GIR2|USH
1206E CUNEIFORM SIGN |DAM|DAR
12070 CUNEIFORM SIGN |DARA3|DARA4|DI|DIB|DIM|DIM TIMES SHE|DIM2|DIN|DIN KASKAL U GUNU DISH|DISH|DU
1207B CUNEIFORM SIGN |DU OVER DU|DU GUNU|DU SHESHIG|DUB|DUB TIMES ESH2|DUB2|DUG|DUGUD|DUH|DUN|DUN3
12086 CUNEIFORM SIGN |DUN3 GUNU|DUN3 GUNU GUNU|DUN4|DUR2|E|E TIMES PAP|E OVER E NUN OVER NUN|E2
1208E CUNEIFORM SIGN E2 TIMES |A PLUS HA PLUS DA|GAR|MI|SAL|SHE|U
12094 CUNEIFORM SIGN |EDIN|EGIR|EL|EN
12098 CUNEIFORM SIGN EN |TIMES GAN2|TIMES GAN2 TENU|TIMES ME|CROSSING EN|OPPOSING EN|SQUARED
1209E CUNEIFORM SIGN |EREN|ERIN2|ESH2|EZEN|EZEN TIMES A|EZEN TIMES A PLUS LAL
120A4 CUNEIFORM SIGN EZEN TIMES |A PLUS LAL TIMES LAL|AN|BAD|DUN3 GUNU|DUN3 GUNU GUNU|HA|HA GUNU
120AB CUNEIFORM SIGN EZEN TIMES |IGI GUNU|KASKAL|KASKAL SQUARED|KU3|LA|LAL TIMES LAL|LI|LU|U2|UD
120B5 CUNEIFORM SIGN |GA|GA GUNU|GA2
120B8 CUNEIFORM SIGN GA2 TIMES |A PLUS DA PLUS HA|A PLUS HA|A PLUS IGI|AB2 TENU PLUS TAB|AN|ASH
120BE CUNEIFORM SIGN GA2 TIMES |ASH2 PLUS GAL|BAD|BAR PLUS RA|BUR|BUR PLUS RA|DA|DI|DIM TIMES SHE
120C6 CUNEIFORM SIGN GA2 TIMES |DUB|EL|EL PLUS LA|EN|EN TIMES GAN2 TENU|GAN2 TENU|GAR|GI
120CE CUNEIFORM SIGN GA2 TIMES |GI4|GI4 PLUS A|GIR2 PLUS SU|HA PLUS LU PLUS ESH2|HAL|HAL PLUS LA
120D4 CUNEIFORM SIGN GA2 TIMES |HI PLUS LI|HUB2|IGI GUNU|ISH PLUS HU PLUS ASH|KAK|KASKAL
120DA CUNEIFORM SIGN GA2 TIMES |KID|KID PLUS LAL|KU3 PLUS AN|LA|ME PLUS EN|MI|NUN|NUN OVER NUN
120E2 CUNEIFORM SIGN GA2 TIMES |PA|SAL|SAR|SHE|SHE PLUS TUR|SHID|SUM|TAK4|U|UD|UD PLUS DU
120ED CUNEIFORM SIGN |GA2 OVER GA2|GABA|GABA CROSSING GABA|GAD|GAD OVER GAD GAR OVER GAR
120F2 CUNEIFORM SIGN |GAL|GAL GAD OVER GAD GAR OVER GAR|GALAM|GAM|GAN|GAN2
120F8 CUNEIFORM SIGN GAN2 |TENU|OVER GAN2|CROSSING GAN2
120FB CUNEIFORM SIGN |GAR|GAR3|GASHAN|GESHTIN|GESHTIN TIMES KUR|GI|GI TIMES E|GI TIMES U
12103 CUNEIFORM SIGN |GI CROSSING GI|GI4|GI4 OVER GI4|GI4 CROSSING GI4|GIDIM|GIR2|GIR2 GUNU|GIR3
1210B CUNEIFORM SIGN GIR3 TIMES |A PLUS IGI|GAN2 TENU|IGI|LU PLUS IGI|PA
12110 CUNEIFORM SIGN |GISAL|GISH|GISH CROSSING GISH
12113 CUNEIFORM SIGN |GISH TIMES BAD|GISH TIMES TAK4|GISH TENU|GU|GU CROSSING GU|GU2
12119 CUNEIFORM SIGN GU2 TIMES |KAK|KAK TIMES IGI GUNU|NUN|SAL PLUS TUG2
1211D CUNEIFORM SIGN |GU2 GUNU|GUD|GUD TIMES A PLUS KUR|GUD TIMES KUR|GUD OVER GUD LUGAL
12122 CUNEIFORM SIGN |GUL|GUM|GUM TIMES SHE|GUR|GUR7|GURUN|GURUSH|HA|HA TENU|HA GUNU|HAL|HI
1212E CUNEIFORM SIGN HI TIMES |ASH|ASH2|BAD|DISH|GAD|KIN|NUN|SHE|U
12137 CUNEIFORM SIGN |HU|HUB2
12139 CUNEIFORM SIGN HUB2 TIMES |AN|HAL|KASKAL|LISH|UD
1213E CUNEIFORM SIGN |HUL2|I|I A|IB|IDIM|IDIM OVER IDIM BUR|IDIM OVER IDIM SQUARED|IG|IGI
12147 CUNEIFORM SIGN IGI |DIB|RI|OVER IGI SHIR OVER SHIR UD OVER UD|GUNU
1214B CUNEIFORM SIGN |IL|IL TIMES GAN2 TENU|IL2
1214E CUNEIFORM SIGN |IM|IM TIMES TAK4|IM CROSSING IM|IM OPPOSING IM|IM SQUARED|IMIN|IN|IR|ISH|KA
12158 CUNEIFORM SIGN KA TIMES |A|AD|AD PLUS KU3|ASH2|BAD|BALAG
1215E CUNEIFORM SIGN KA TIMES |BAR|BI|ERIN2|ESH2|GA|GAL|GAN2 TENU|GAR|GAR PLUS SHA3 PLUS A|GI|GIR2
12169 CUNEIFORM SIGN KA TIMES |GISH PLUS SAR|GISH CROSSING GISH|GU|GUR7|IGI|IM|KAK|KI|KID|LI|LU
12174 CUNEIFORM SIGN KA TIMES |ME|ME PLUS DU|ME PLUS GI|ME PLUS TE|MI|MI PLUS NUNUZ|NE|NUN|PI|RU
1217E CUNEIFORM SIGN KA TIMES |SA|SAR|SHA|SHE|SHID|SHU|SIG|SUHUR|TAR|U|U2|UD|UMUM TIMES PA|USH|ZI
1218D CUNEIFORM SIGN |KA2|KA2 CROSSING KA2|KAB
12190 CUNEIFORM SIGN |KAD2|KAD3|KAD4|KAD5|KAD5 OVER KAD5|KAK|KAK TIMES IGI GUNU|KAL|KAL TIMES BAD
12199 CUNEIFORM SIGN |KAL CROSSING KAL|KAM2|KAM4|KASKAL|KASKAL LAGAB TIMES U OVER LAGAB TIMES U
1219E CUNEIFORM SIGN |KASKAL OVER KASKAL LAGAB TIMES U OVER LAGAB TIMES U|KESH2|KI|KI TIMES BAD
121A2 CUNEIFORM SIGN |KI TIMES U|KI TIMES UD|KID|KIN|KISAL|KISH|KISIM5|KISIM5 OVER KISIM5
121AA CUNEIFORM SIGN |KU|KU OVER HI TIMES ASH2 KU OVER HI TIMES ASH2|KU3|KU4|KU4 VARIANT FORM|KU7
121B0 CUNEIFORM SIGN |KUL|KUL GUNU|KUN|KUR|KUR OPPOSING KUR|KUSHU2|KWU318|LA|LAGAB|LAGAB TIMES A
121BA CUNEIFORM SIGN LAGAB TIMES |A PLUS DA PLUS HA|A PLUS GAR|A PLUS LAL|AL|AN|ASH ZIDA TENU|BAD
121C1 CUNEIFORM SIGN LAGAB TIMES |BI|DAR|EN|GA|GAR|GUD|GUD PLUS GUD|HA|HAL|HI TIMES NUN|IGI GUNU
121CC CUNEIFORM SIGN LAGAB TIMES |IM|IM PLUS HA|IM PLUS LU|KI|KIN|KU3|KUL|KUL PLUS HI PLUS A
121D4 CUNEIFORM SIGN LAGAB TIMES |LAGAB|LISH|LU|LUL|ME|ME PLUS EN|MUSH|NE|SHE PLUS SUM
121DD CUNEIFORM SIGN LAGAB TIMES SHITA PLUS GISH |PLUS ERIN2|TENU
121DF CUNEIFORM SIGN LAGAB TIMES |SHU2|SHU2 PLUS SHU2|SUM|TAG|TAK4|TE PLUS A PLUS SU PLUS NA
121E5 CUNEIFORM SIGN LAGAB TIMES |U|U PLUS A|U PLUS U PLUS U|U2 PLUS ASH|UD|USH
121EB CUNEIFORM SIGN |LAGAB SQUARED|LAGAR
121ED CUNEIFORM SIGN LAGAR |TIMES SHE|TIMES SHE PLUS SUM|GUNU|GUNU OVER LAGAR GUNU SHE
121F1 CUNEIFORM SIGN |LAHSHU|LAL|LAL TIMES LAL|LAM|LAM TIMES KUR|LAM TIMES KUR PLUS RU
121F7 CUNEIFORM SIGN |LI|LIL|LIMMU2|LISH|LU|LU TIMES BAD|LU2|LU2 TIMES AL|LU2 TIMES BAD
12200 CUNEIFORM SIGN LU2 TIMES |ESH2|ESH2 TENU|GAN2 TENU|HI TIMES BAD|IM|KAD2|KAD3|KAD3 PLUS ASH
12208 CUNEIFORM SIGN LU2 TIMES |KI|LA PLUS ASH|LAGAB|ME PLUS EN|NE|NU|SI PLUS ASH|SIK2 PLUS BU
12210 CUNEIFORM SIGN LU2 |TIMES TUG2|TENU|CROSSING LU2|OPPOSING LU2|SQUARED|SHESHIG
12216 CUNEIFORM SIGN |LU3|LUGAL|LUGAL OVER LUGAL|LUGAL OPPOSING LUGAL|LUGAL SHESHIG|LUH|LUL
1221D CUNEIFORM SIGN |LUM|LUM OVER LUM|LUM OVER LUM GAR OVER GAR|MA|MA TIMES TAK4|MA GUNU|MA2|MAH
12225 CUNEIFORM SIGN |MAR|MASH|MASH2|ME|MES|MI|MIN|MU|MU OVER MU|MUG|MUG GUNU|MUNSUB|MURGU2|MUSH
12233 CUNEIFORM SIGN MUSH TIMES |A|KUR|ZA
12236 CUNEIFORM SIGN |MUSH OVER MUSH|MUSH OVER MUSH TIMES A PLUS NA|MUSH CROSSING MUSH|MUSH3
1223A CUNEIFORM SIGN MUSH3 TIMES |A|A PLUS DI|DI
1223D CUNEIFORM SIGN |MUSH3 GUNU|NA|NA2|NAGA|NAGA INVERTED|NAGA TIMES SHU TENU|NAGA OPPOSING NAGA
12244 CUNEIFORM SIGN |NAGAR|NAM NUTILLU|NAM|NAM2|NE|NE TIMES A|NE TIMES UD|NE SHESHIG|NI
1224D CUNEIFORM SIGN |NI TIMES E|NI2|NIM|NIM TIMES GAN2 TENU|NIM TIMES GAR PLUS GAN2 TENU|NINDA2
12253 CUNEIFORM SIGN NINDA2 TIMES |AN|ASH|ASH PLUS ASH|GUD|ME PLUS GAN2 TENU|NE|NUN|SHE
1225B CUNEIFORM SIGN NINDA2 TIMES SHE PLUS |A AN|ASH|ASH PLUS ASH
1225E CUNEIFORM SIGN |NINDA2 TIMES U2 PLUS ASH|NINDA2 TIMES USH|NISAG|NU|NU11|NUN
12264 CUNEIFORM SIGN NUN LAGAR TIMES |GAR|MASH|SAL|SAL OVER NUN LAGAR TIMES SAL|USH
12269 CUNEIFORM SIGN NUN |TENU|OVER NUN|CROSSING NUN|CROSSING NUN LAGAR OVER LAGAR
1226D |CUNEIFORM SIGN NUNUZ
1226E CUNEIFORM SIGN NUNUZ AB2 TIMES |ASHGAB|BI|DUG|GUD|IGI GUNU|KAD3|LA|NE|SILA3|U2
12278 CUNEIFORM SIGN |NUNUZ KISIM5 TIMES BI|NUNUZ KISIM5 TIMES BI U|PA|PAD|PAN|PAP|PESH2|PI
12280 CUNEIFORM SIGN PI TIMES |A|AB|BI|BU|E|I|IB|U|U2
12289 CUNEIFORM SIGN |PI CROSSING PI|PIRIG
1228B CUNEIFORM SIGN PIRIG TIMES |KAL|UD|ZA
1228E CUNEIFORM SIGN |PIRIG OPPOSING PIRIG|RA|RAB|RI|RU|SA|SAG NUTILLU|SAG
12296 CUNEIFORM SIGN SAG TIMES |A|DU|DUB|HA|KAK|KUR|LUM|MI|NUN|SAL|SHID|TAB|U2|UB|UM|UR|USH
122A7 CUNEIFORM SIGN |SAG OVER SAG|SAG GUNU|SAL|SAL LAGAB TIMES ASH2|SANGA2|SAR|SHA|SHA3
122AF CUNEIFORM SIGN SHA3 TIMES |A|BAD|GISH|NE|SHU2|TUR|U|U PLUS A
122B7 CUNEIFORM SIGN |SHA6|SHAB6|SHAR2|SHE|SHE HU
122BC CUNEIFORM SIGN SHE OVER SHE |GAD OVER GAD GAR OVER GAR|TAB OVER TAB GAR OVER GAR
122BE CUNEIFORM SIGN |SHEG9|SHEN|SHESH|SHESH2|SHESHLAM|SHID|SHID TIMES A|SHID TIMES IM|SHIM
122C7 CUNEIFORM SIGN SHIM TIMES |A|BAL|BULUG|DIN|GAR|IGI|IGI GUNU|KUSHU2|LUL|MUG|SAL
122D2 CUNEIFORM SIGN |SHINIG|SHIR|SHIR TENU|SHIR OVER SHIR BUR OVER BUR|SHITA|SHU
122D8 CUNEIFORM SIGN |SHU OVER INVERTED SHU|SHU2|SHUBUR|SI|SI GUNU|SIG|SIG4|SIG4 OVER SIG4 SHU2
122E0 CUNEIFORM SIGN |SIK2|SILA3|SU|SU OVER SU|SUD|SUD2|SUHUR|SUM|SUMASH|SUR|SUR9|TA|TA ASTERISK
122ED CUNEIFORM SIGN TA TIMES |HI|MI
122EF CUNEIFORM SIGN |TA GUNU|TAB|TAB OVER TAB NI OVER NI DISH OVER DISH|TAB SQUARED|TAG
122F4 CUNEIFORM SIGN TAG TIMES |BI|GUD|SHE|SHU|TUG2|UD
122FA CUNEIFORM SIGN |TAK4|TAR|TE|TE GUNU|TI|TI TENU|TIL|TIR|TIR TIMES TAK4
12303 CUNEIFORM SIGN TIR OVER |TIR|TIR GAD OVER GAD GAR OVER GAR
12305 CUNEIFORM SIGN |TU|TUG2|TUK|TUM|TUR|TUR OVER TUR ZA OVER ZA|U|U GUD|U U U
1230E CUNEIFORM SIGN U OVER U |PA OVER PA GAR OVER GAR|SUR OVER SUR|U REVERSED OVER U REVERSED
12311 CUNEIFORM SIGN |U2|UB|UD|UD KUSHU2
12315 CUNEIFORM SIGN UD TIMES |BAD|MI|U PLUS U PLUS U|U PLUS U PLUS U GUNU
12319 CUNEIFORM SIGN |UD GUNU|UD SHESHIG|UD SHESHIG TIMES BAD|UDUG|UM
1231E CUNEIFORM SIGN UM TIMES |LAGAB|ME PLUS DA|SHA3|U
12322 CUNEIFORM SIGN |UMBIN|UMUM
12324 CUNEIFORM SIGN |UMUM TIMES KASKAL|UMUM TIMES PA|UN|UN GUNU|UR|UR CROSSING UR|UR SHESHIG|UR2
1232C CUNEIFORM SIGN UR2 TIMES |A PLUS HA|A PLUS NA|AL|HA|NUN|U2|U2 PLUS ASH|U2 PLUS BI
12334 CUNEIFORM SIGN |UR4|URI|URI3|URU
12338 CUNEIFORM SIGN URU TIMES |A|ASHGAB|BAR|DUN|GA|GAL|GAN2 TENU
1233F CUNEIFORM SIGN URU TIMES |GAR|GU|HA|IGI|IM|ISH|KI|LUM|MIN|PA|SHE|SIG4|TU|U PLUS GUD|UD|URUDA
1234F CUNEIFORM SIGN |URUDA|URUDA TIMES U|USH
12352 CUNEIFORM SIGN USH TIMES |A|KU|KUR|TAK4
12356 CUNEIFORM SIGN |USHX|USH2|USHUMX|UTUKI|UZ3|UZ3 TIMES KASKAL
1235C CUNEIFORM SIGN |UZU|ZA|ZA TENU|ZA SQUARED TIMES KUR|ZAG|ZAMX|ZE2|ZI|ZI OVER ZI
12365 CUNEIFORM SIGN |ZI3|ZIB|ZIB KABA TENU|ZIG|ZIZ2|ZU|ZU5|ZU5 TIMES A|ZUBUR|ZUM|KAP ELAMITE
12370 CUNEIFORM SIGN |AB TIMES NUN|AB2 TIMES A|AMAR TIMES KUG|DAG KISIM5 TIMES U2 PLUS MASH
12374 CUNEIFORM SIGN |DAG3|DISH PLUS SHU|DUB TIMES SHE|EZEN TIMES GUD
12378 CUNEIFORM SIGN |EZEN TIMES SHE|GA2 TIMES AN PLUS KAK PLUS A|GA2 TIMES ASH2|GE22|GIG|HUSH
1237E CUNEIFORM SIGN KA TIMES |ANSHE|ASH3|GISH|GUD|HI TIMES ASH2|LUM|PA|SHUL|TU|UR2
12388 CUNEIFORM SIGN |LAGAB TIMES GI|LU2 SHESHIG TIMES BAD
1238A CUNEIFORM SIGN |LU2 TIMES ESH2 PLUS LAL|LU2 TIMES SHU|MESH|MUSH3 TIMES ZA
1238E CUNEIFORM SIGN |NA4|NIN|NIN9|NINDA2 TIMES BAL|NINDA2 TIMES GI|NU11 ROTATED NINETY DEGREES
12394 CUNEIFORM SIGN |PESH2 ASTERISK|PIR2|SAG TIMES IGI GUNU|TI2|UM TIMES ME|U U
12400 CUNEIFORM NUMERIC SIGN |TWO ASH|THREE ASH|FOUR ASH|FIVE ASH|SIX ASH|SEVEN ASH|EIGHT ASH
12407 CUNEIFORM NUMERIC SIGN |NINE ASH|THREE DISH|FOUR DISH|FIVE DISH|SIX DISH|SEVEN DISH
1240D CUNEIFORM NUMERIC SIGN |EIGHT DISH|NINE DISH|FOUR U|FIVE U|SIX U|SEVEN U|EIGHT U|NINE U
12415 CUNEIFORM NUMERIC SIGN |ONE GESH2|TWO GESH2|THREE GESH2|FOUR GESH2|FIVE GESH2|SIX GESH2
1241B CUNEIFORM NUMERIC SIGN |SEVEN GESH2|EIGHT GESH2|NINE GESH2|ONE GESHU|TWO GESHU|THREE GESHU
12421 CUNEIFORM NUMERIC SIGN |FOUR GESHU|FIVE GESHU|TWO SHAR2|THREE SHAR2|THREE SHAR2 VARIANT FORM
12426 CUNEIFORM NUMERIC SIGN |FOUR SHAR2|FIVE SHAR2|SIX SHAR2|SEVEN SHAR2|EIGHT SHAR2|NINE SHAR2
1242C CUNEIFORM NUMERIC SIGN |ONE SHARU|TWO SHARU|THREE SHARU|THREE SHARU VARIANT FORM|FOUR SHARU
12431 CUNEIFORM NUMERIC SIGN |FIVE SHARU|SHAR2 TIMES GAL PLUS DISH|SHAR2 TIMES GAL PLUS MIN
12434 CUNEIFORM NUMERIC SIGN |ONE BURU|TWO BURU|THREE BURU|THREE BURU VARIANT FORM|FOUR BURU
12439 CUNEIFORM NUMERIC SIGN |FIVE BURU|THREE VARIANT FORM ESH16|THREE VARIANT FORM ESH21
1243C CUNEIFORM NUMERIC SIGN FOUR VARIANT FORM |LIMMU|LIMMU4|LIMMU A|LIMMU B
12440 |CUNEIFORM NUMERIC SIGN SIX VARIANT FORM ASH9
12441 CUNEIFORM NUMERIC SIGN SEVEN VARIANT FORM |IMIN3|IMIN A|IMIN B
12444 CUNEIFORM NUMERIC SIGN EIGHT VARIANT FORM |USSU|USSU3
12446 CUNEIFORM NUMERIC SIGN NINE VARIANT FORM |ILIMMU|ILIMMU3|ILIMMU4|ILIMMU A
1244A CUNEIFORM NUMERIC SIGN |TWO ASH TENU|THREE ASH TENU|FOUR ASH TENU|FIVE ASH TENU|SIX ASH TENU
1244F CUNEIFORM NUMERIC SIGN |ONE BAN2|TWO BAN2|THREE BAN2|FOUR BAN2|FOUR BAN2 VARIANT FORM
12454 CUNEIFORM NUMERIC SIGN |FIVE BAN2|FIVE BAN2 VARIANT FORM|NIGIDAMIN|NIGIDAESH
12458 CUNEIFORM NUMERIC SIGN |ONE ESHE3|TWO ESHE3|ONE THIRD DISH|TWO THIRDS DISH|FIVE SIXTHS DISH
1245D CUNEIFORM NUMERIC SIGN |ONE THIRD VARIANT FORM A|TWO THIRDS VARIANT FORM A|ONE EIGHTH ASH
12460 CUNEIFORM NUMERIC SIGN |ONE QUARTER ASH|OLD ASSYRIAN ONE SIXTH|OLD ASSYRIAN ONE QUARTER
12463 CUNEIFORM NUMERIC SIGN ONE |QUARTER GUR|HALF GUR
12465 CUNEIFORM NUMERIC SIGN ELAMITE |ONE THIRD|TWO THIRDS|FORTY|FIFTY
12469 CUNEIFORM NUMERIC SIGN |FOUR U VARIANT FORM|FIVE U VARIANT FORM|SIX U VARIANT FORM
1246C CUNEIFORM NUMERIC SIGN |SEVEN U VARIANT FORM|EIGHT U VARIANT FORM|NINE U VARIANT FORM
12470 CUNEIFORM PUNCTUATION SIGN |OLD ASSYRIAN WORD DIVIDER|VERTICAL COLON
12472 CUNEIFORM PUNCTUATION SIGN DIAGONAL |COLON|TRICOLON|QUADCOLON
12480 CUNEIFORM SIGN |AB TIMES NUN TENU|AB TIMES SHU2|AD TIMES ESH2|BAD TIMES DISH TENU
12484 CUNEIFORM SIGN BAHAR2 TIMES |AB2|NI|ZA
12487 |CUNEIFORM SIGN BU OVER BU TIMES NA2
12488 CUNEIFORM SIGN |DA TIMES TAK4|DAG TIMES KUR|DIM TIMES IGI|DIM TIMES U U U|DIM2 TIMES UD
1248D CUNEIFORM SIGN DUG TIMES |ANSHE|ASH|ASH AT LEFT|DIN|DUN|ERIN2|GA|GI|GIR2 GUNU
12496 CUNEIFORM SIGN DUG TIMES |GISH|HA|HI|IGI GUNU|KASKAL|KUR|KUSHU2|KUSHU2 PLUS KASKAL|LAK-020
1249F CUNEIFORM SIGN DUG TIMES |LAM|LAM TIMES KUR|LUH PLUS GISH|MASH|MES|MI|NI|PI|SHE|SI GUNU
124A9 CUNEIFORM SIGN |E2 TIMES KUR|E2 TIMES PAP|ERIN2 X|ESH2 CROSSING ESH2
124AD CUNEIFORM SIGN EZEN SHESHIG TIMES |ASH|HI|IGI GUNU|LA|LAL|ME|MES|SU
124B5 |CUNEIFORM SIGN EZEN TIMES SU
124B6 CUNEIFORM SIGN GA2 TIMES |BAHAR2|DIM GUNU|DUG TIMES IGI GUNU|DUG TIMES KASKAL
124BA CUNEIFORM SIGN GA2 TIMES |EREN|GA|GAR PLUS DI|GAR PLUS NE|HA PLUS A|KUSHU2 PLUS KASKAL
124C0 CUNEIFORM SIGN GA2 TIMES |LAM|LAM TIMES KUR|LUH|MUSH|NE|NE PLUS E2|NE PLUS GI|SHIM|ZIZ2
124C9 |CUNEIFORM SIGN GABA ROTATED NINETY DEGREES
124CA CUNEIFORM SIGN |GESHTIN TIMES U|GISH TIMES GISH CROSSING GISH|GU2 TIMES IGI GUNU
124CD CUNEIFORM SIGN |GUD PLUS GISH TIMES TAK4|HA TENU GUNU|HI TIMES ASH OVER HI TIMES ASH
124D0 CUNEIFORM SIGN KA TIMES |BU|KA|U U U|UR
124D4 CUNEIFORM SIGN |LAGAB TIMES ZU OVER ZU|LAK-003
124D6 CUNEIFORM SIGN LAK-|021|025|030|050|051|062|079 OVER LAK-079 GUNU|080|081 OVER LAK-081|092
124E0 CUNEIFORM SIGN LAK-|130|142|210|219|220|225|228|238|265|266|343|347|348|383|384|390|441|449
124F2 CUNEIFORM SIGN LAK-449 TIMES |GU|IGI|PAP PLUS LU3|PAP PLUS PAP PLUS LU3|U2 PLUS BA
124F7 CUNEIFORM SIGN LAK-|450|457|470|483|490|492|493|495|550|608|617
12502 CUNEIFORM SIGN LAK-617 TIMES |ASH|BAD|DUN3 GUNU GUNU|KU3|LA|TAR|TE|U2|UD|URUDA
1250C CUNEIFORM SIGN LAK-|636|648
1250E CUNEIFORM SIGN LAK-648 TIMES |DUB|GA|IGI|IGI GUNU|NI|PAP PLUS PAP PLUS LU3|SHESH PLUS KI|UD
12516 CUNEIFORM SIGN |LAK-648 TIMES URUDA|LAK-724|LAK-749|LU2 GUNU TIMES ASH
1251A CUNEIFORM SIGN LU2 TIMES |DISH|HAL|PAP|PAP PLUS PAP PLUS LU3|TAK4
1251F CUNEIFORM SIGN |MI PLUS ZA7|MUSH OVER MUSH TIMES GA|MUSH OVER MUSH TIMES KAK
12522 CUNEIFORM SIGN NINDA2 TIMES |DIM GUNU|GISH|GUL|HI|KESH2|LAK-050|MASH|PAP PLUS PAP|U|U PLUS U
1252C CUNEIFORM SIGN |NINDA2 TIMES URUDA|SAG GUNU TIMES HA
1252E CUNEIFORM SIGN SAG TIMES |EN|SHE AT LEFT|TAK4
12531 CUNEIFORM SIGN |SHA6 TENU|SHE OVER SHE|SHE PLUS HUB2|SHE PLUS NAM2|SHE PLUS SAR
12536 CUNEIFORM SIGN |SHU2 PLUS DUG TIMES NI|SHU2 PLUS E2 TIMES AN|SI TIMES TAK4|TAK4 PLUS SAG
1253A CUNEIFORM SIGN |TUM TIMES GAN2 TENU|TUM TIMES THREE DISH|UR2 INVERTED|UR2 TIMES UD
1253E CUNEIFORM SIGN URU TIMES |DARA3|LAK-668|LU3
12541 CUNEIFORM SIGN |ZA7|ZU OVER ZU PLUS SAR|ZU5 TIMES THREE DISH TENU
12F90 CYPRO-MINOAN SIGN |CM001|CM002|CM004
12F93 CYPRO-MINOAN SIGN |CM005|CM006|CM007|CM008|CM009|CM010|CM011|CM012|CM012B|CM013|CM015|CM017
12F9F CYPRO-MINOAN SIGN |CM019|CM021|CM023|CM024|CM025|CM026|CM027|CM028|CM029|CM030|CM033|CM034
12FAB CYPRO-MINOAN SIGN |CM035|CM036|CM037|CM038|CM039|CM040|CM041|CM044|CM046|CM047|CM049|CM050
12FB7 CYPRO-MINOAN SIGN |CM051|CM052|CM053|CM054|CM055|CM056|CM058|CM059|CM060|CM061|CM062|CM063
12FC3 CYPRO-MINOAN SIGN |CM064|CM066|CM067|CM068|CM069|CM070|CM071|CM072|CM073|CM074|CM075|CM075B
12FCF CYPRO-MINOAN SIGN |CM076|CM078|CM079|CM080|CM081|CM082|CM083|CM084|CM085|CM086|CM087|CM088
12FDB CYPRO-MINOAN SIGN |CM089|CM090|CM091|CM092|CM094|CM095|CM096|CM097|CM098|CM099|CM100|CM101
12FE7 CYPRO-MINOAN SIGN |CM102|CM103|CM104|CM105|CM107|CM108|CM109|CM110|CM112|CM114|CM301|CM302
122D4 |CUNEIFORM SIGN NU11 TENU
122D5 |CUNEIFORM SIGN NU11 OVER NU11 BUR OVER BUR
12327 |CUNEIFORM SIGN KALAM"

end TagMenu.Unicode
