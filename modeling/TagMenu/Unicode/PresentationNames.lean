namespace TagMenu.Unicode

def presentationNames : String :=
"D7B0 HANGUL JUNGSEONG |O-YEO|O-O-I|YO-A|YO-AE|YO-EO|U-YEO|U-I-I|YU-AE|YU-O|EU-A
D7BA HANGUL JUNGSEONG |EU-EO|EU-E|EU-O|I-YA-O|I-YAE|I-YEO|I-YE|I-O-I|I-YO|I-YU|I-I|ARAEA-A|ARAEA-E
D7CB HANGUL JONGSEONG |NIEUN-RIEUL|NIEUN-CHIEUCH|SSANGTIKEUT|SSANGTIKEUT-PIEUP
D7CF HANGUL JONGSEONG TIKEUT-|PIEUP|SIOS|SIOS-KIYEOK|CIEUC|CHIEUCH|THIEUTH
D7D5 HANGUL JONGSEONG |RIEUL-SSANGKIYEOK|RIEUL-KIYEOK-HIEUH|SSANGRIEUL-KHIEUKH
D7D8 HANGUL JONGSEONG RIEUL-|MIEUM-HIEUH|PIEUP-TIKEUT|PIEUP-PHIEUPH|YESIEUNG|YEORINHIEUH-HIEUH
D7DD HANGUL JONGSEONG |KAPYEOUNRIEUL|MIEUM-NIEUN|MIEUM-SSANGNIEUN|SSANGMIEUM|MIEUM-PIEUP-SIOS
D7E2 HANGUL JONGSEONG |MIEUM-CIEUC|PIEUP-TIKEUT|PIEUP-RIEUL-PHIEUPH|PIEUP-MIEUM|SSANGPIEUP
D7E7 HANGUL JONGSEONG PIEUP-|SIOS-TIKEUT|CIEUC|CHIEUCH
D7EA HANGUL JONGSEONG |SIOS-MIEUM|SIOS-KAPYEOUNPIEUP|SSANGSIOS-KIYEOK|SSANGSIOS-TIKEUT
D7EE HANGUL JONGSEONG SIOS-|PANSIOS|CIEUC|CHIEUCH|THIEUTH|HIEUH
D7F3 HANGUL JONGSEONG |PANSIOS-PIEUP|PANSIOS-KAPYEOUNPIEUP|YESIEUNG-MIEUM|YESIEUNG-HIEUH
D7F7 HANGUL JONGSEONG |CIEUC-PIEUP|CIEUC-SSANGPIEUP|SSANGCIEUC|PHIEUPH-SIOS|PHIEUPH-THIEUTH
F900 CJK COMPATIBILITY IDEOGRAPH-|F900|F901
F902 CJK COMPATIBILITY IDEOGRAPH-|F902|F903|F904|F905|F906|F907|F908|F909|F90A|F90B|F90C|F90D|F90E
F90F CJK COMPATIBILITY IDEOGRAPH-|F90F|F910|F911|F912|F913|F914|F915|F916|F917|F918|F919|F91A|F91B
F91C CJK COMPATIBILITY IDEOGRAPH-|F91C|F91D|F91E|F91F|F920|F921|F922|F923|F924|F925|F926|F927|F928
F929 CJK COMPATIBILITY IDEOGRAPH-|F929|F92A|F92B|F92C|F92D|F92E|F92F|F930|F931|F932|F933|F934|F935
F936 CJK COMPATIBILITY IDEOGRAPH-|F936|F937|F938|F939|F93A|F93B|F93C|F93D|F93E|F93F|F940|F941|F942
F943 CJK COMPATIBILITY IDEOGRAPH-|F943|F944|F945|F946|F947|F948|F949|F94A|F94B|F94C|F94D|F94E|F94F
F950 CJK COMPATIBILITY IDEOGRAPH-|F950|F951|F952|F953|F954|F955|F956|F957|F958|F959|F95A|F95B|F95C
F95D CJK COMPATIBILITY IDEOGRAPH-|F95D|F95E|F95F|F960|F961|F962|F963|F964|F965|F966|F967|F968|F969
F96A CJK COMPATIBILITY IDEOGRAPH-|F96A|F96B|F96C|F96D|F96E|F96F|F970|F971|F972|F973|F974|F975|F976
F977 CJK COMPATIBILITY IDEOGRAPH-|F977|F978|F979|F97A|F97B|F97C|F97D|F97E|F97F|F980|F981|F982|F983
F984 CJK COMPATIBILITY IDEOGRAPH-|F984|F985|F986|F987|F988|F989|F98A|F98B|F98C|F98D|F98E|F98F|F990
F991 CJK COMPATIBILITY IDEOGRAPH-|F991|F992|F993|F994|F995|F996|F997|F998|F999|F99A|F99B|F99C|F99D
F99E CJK COMPATIBILITY IDEOGRAPH-|F99E|F99F|F9A0|F9A1|F9A2|F9A3|F9A4|F9A5|F9A6|F9A7|F9A8|F9A9|F9AA
F9AB CJK COMPATIBILITY IDEOGRAPH-|F9AB|F9AC|F9AD|F9AE|F9AF|F9B0|F9B1|F9B2|F9B3|F9B4|F9B5|F9B6|F9B7
F9B8 CJK COMPATIBILITY IDEOGRAPH-|F9B8|F9B9|F9BA|F9BB|F9BC|F9BD|F9BE|F9BF|F9C0|F9C1|F9C2|F9C3|F9C4
F9C5 CJK COMPATIBILITY IDEOGRAPH-|F9C5|F9C6|F9C7|F9C8|F9C9|F9CA|F9CB|F9CC|F9CD|F9CE|F9CF|F9D0|F9D1
F9D2 CJK COMPATIBILITY IDEOGRAPH-|F9D2|F9D3|F9D4|F9D5|F9D6|F9D7|F9D8|F9D9|F9DA|F9DB|F9DC|F9DD|F9DE
F9DF CJK COMPATIBILITY IDEOGRAPH-|F9DF|F9E0|F9E1|F9E2|F9E3|F9E4|F9E5|F9E6|F9E7|F9E8|F9E9|F9EA|F9EB
F9EC CJK COMPATIBILITY IDEOGRAPH-|F9EC|F9ED|F9EE|F9EF|F9F0|F9F1|F9F2|F9F3|F9F4|F9F5|F9F6|F9F7|F9F8
F9F9 CJK COMPATIBILITY IDEOGRAPH-|F9F9|F9FA|F9FB|F9FC|F9FD|F9FE|F9FF|FA00|FA01|FA02|FA03|FA04|FA05
FA06 CJK COMPATIBILITY IDEOGRAPH-|FA06|FA07|FA08|FA09|FA0A|FA0B|FA0C|FA0D|FA0E|FA0F|FA10|FA11|FA12
FA13 CJK COMPATIBILITY IDEOGRAPH-|FA13|FA14|FA15|FA16|FA17|FA18|FA19|FA1A|FA1B|FA1C|FA1D|FA1E|FA1F
FA20 CJK COMPATIBILITY IDEOGRAPH-|FA20|FA21|FA22|FA23|FA24|FA25|FA26|FA27|FA28|FA29|FA2A|FA2B|FA2C
FA2D CJK COMPATIBILITY IDEOGRAPH-|FA2D|FA2E|FA2F|FA30|FA31|FA32|FA33|FA34|FA35|FA36|FA37|FA38|FA39
FA3A CJK COMPATIBILITY IDEOGRAPH-|FA3A|FA3B|FA3C|FA3D|FA3E|FA3F|FA40|FA41|FA42|FA43|FA44|FA45|FA46
FA47 CJK COMPATIBILITY IDEOGRAPH-|FA47|FA48|FA49|FA4A|FA4B|FA4C|FA4D|FA4E|FA4F|FA50|FA51|FA52|FA53
FA54 CJK COMPATIBILITY IDEOGRAPH-|FA54|FA55|FA56|FA57|FA58|FA59|FA5A|FA5B|FA5C|FA5D|FA5E|FA5F|FA60
FA61 CJK COMPATIBILITY IDEOGRAPH-|FA61|FA62|FA63|FA64|FA65|FA66|FA67|FA68|FA69|FA6A|FA6B|FA6C|FA6D
FA70 CJK COMPATIBILITY IDEOGRAPH-|FA70|FA71
FA72 CJK COMPATIBILITY IDEOGRAPH-|FA72|FA73|FA74|FA75|FA76|FA77|FA78|FA79|FA7A|FA7B|FA7C|FA7D|FA7E
FA7F CJK COMPATIBILITY IDEOGRAPH-|FA7F|FA80|FA81|FA82|FA83|FA84|FA85|FA86|FA87|FA88|FA89|FA8A|FA8B
FA8C CJK COMPATIBILITY IDEOGRAPH-|FA8C|FA8D|FA8E|FA8F|FA90|FA91|FA92|FA93|FA94|FA95|FA96|FA97|FA98
FA99 CJK COMPATIBILITY IDEOGRAPH-|FA99|FA9A|FA9B|FA9C|FA9D|FA9E|FA9F|FAA0|FAA1|FAA2|FAA3|FAA4|FAA5
FAA6 CJK COMPATIBILITY IDEOGRAPH-|FAA6|FAA7|FAA8|FAA9|FAAA|FAAB|FAAC|FAAD|FAAE|FAAF|FAB0|FAB1|FAB2
FAB3 CJK COMPATIBILITY IDEOGRAPH-|FAB3|FAB4|FAB5|FAB6|FAB7|FAB8|FAB9|FABA|FABB|FABC|FABD|FABE|FABF
FAC0 CJK COMPATIBILITY IDEOGRAPH-|FAC0|FAC1|FAC2|FAC3|FAC4|FAC5|FAC6|FAC7|FAC8|FAC9|FACA|FACB|FACC
FACD CJK COMPATIBILITY IDEOGRAPH-|FACD|FACE|FACF|FAD0|FAD1|FAD2|FAD3|FAD4|FAD5|FAD6|FAD7|FAD8|FAD9
FB00 LATIN SMALL LIGATURE |FF|FI|FL|FFI|FFL|LONG S T|ST
FB13 ARMENIAN SMALL LIGATURE |MEN NOW|MEN ECH|MEN INI|VEW NOW|MEN XEH
FB1D |HEBREW LETTER YOD WITH HIRIQ
FB1E HEBREW |POINT JUDEO-SPANISH VARIKA|LIGATURE YIDDISH YOD YOD PATAH|LETTER ALTERNATIVE AYIN
FB21 HEBREW LETTER WIDE |ALEF|DALET|HE|KAF|LAMED|FINAL MEM|RESH|TAV
FB29 |HEBREW LETTER ALTERNATIVE PLUS SIGN
FB2A HEBREW LETTER SHIN WITH |SHIN DOT|SIN DOT|DAGESH AND SHIN DOT|DAGESH AND SIN DOT
FB2E HEBREW LETTER ALEF WITH |PATAH|QAMATS|MAPIQ
FB31 HEBREW LETTER |BET WITH DAGESH|GIMEL WITH DAGESH
FB33 HEBREW LETTER |DALET WITH DAGESH|HE WITH MAPIQ|VAV WITH DAGESH|ZAYIN WITH DAGESH
FB38 |HEBREW LETTER TET WITH DAGESH
FB39 HEBREW LETTER |YOD WITH DAGESH|FINAL KAF WITH DAGESH|KAF WITH DAGESH|LAMED WITH DAGESH
FB3E |HEBREW LETTER MEM WITH DAGESH
FB40 HEBREW LETTER |NUN WITH DAGESH|SAMEKH WITH DAGESH
FB43 HEBREW LETTER |FINAL PE WITH DAGESH|PE WITH DAGESH
FB46 HEBREW LETTER |TSADI WITH DAGESH|QOF WITH DAGESH|RESH WITH DAGESH|SHIN WITH DAGESH
FB4A HEBREW LETTER |TAV WITH DAGESH|VAV WITH HOLAM|BET WITH RAFE|KAF WITH RAFE|PE WITH RAFE
FB4F |HEBREW LIGATURE ALEF LAMED
FB50 ARABIC LETTER ALEF WASLA |ISOLATED FORM|FINAL FORM
FB52 ARABIC LETTER BEEH |ISOLATED FORM|FINAL FORM|INITIAL FORM|MEDIAL FORM
FB56 ARABIC LETTER PEH |ISOLATED FORM|FINAL FORM|INITIAL FORM|MEDIAL FORM
FB5A ARABIC LETTER BEHEH |ISOLATED FORM|FINAL FORM|INITIAL FORM|MEDIAL FORM
FB5E ARABIC LETTER TTEHEH |ISOLATED FORM|FINAL FORM|INITIAL FORM|MEDIAL FORM
FB62 ARABIC LETTER TEHEH |ISOLATED FORM|FINAL FORM|INITIAL FORM|MEDIAL FORM
FB66 ARABIC LETTER TTEH |ISOLATED FORM|FINAL FORM|INITIAL FORM|MEDIAL FORM
FB6A ARABIC LETTER VEH |ISOLATED FORM|FINAL FORM|INITIAL FORM|MEDIAL FORM
FB6E ARABIC LETTER PEHEH |ISOLATED FORM|FINAL FORM|INITIAL FORM|MEDIAL FORM
FB72 ARABIC LETTER DYEH |ISOLATED FORM|FINAL FORM|INITIAL FORM|MEDIAL FORM
FB76 ARABIC LETTER NYEH |ISOLATED FORM|FINAL FORM|INITIAL FORM|MEDIAL FORM
FB7A ARABIC LETTER TCHEH |ISOLATED FORM|FINAL FORM|INITIAL FORM|MEDIAL FORM
FB7E ARABIC LETTER TCHEHEH |ISOLATED FORM|FINAL FORM|INITIAL FORM|MEDIAL FORM
FB82 ARABIC LETTER |DDAHAL ISOLATED FORM|DDAHAL FINAL FORM|DAHAL ISOLATED FORM|DAHAL FINAL FORM
FB86 ARABIC LETTER |DUL ISOLATED FORM|DUL FINAL FORM|DDAL ISOLATED FORM|DDAL FINAL FORM
FB8A ARABIC LETTER |JEH ISOLATED FORM|JEH FINAL FORM|RREH ISOLATED FORM|RREH FINAL FORM
FB8E ARABIC LETTER KEHEH |ISOLATED FORM|FINAL FORM|INITIAL FORM|MEDIAL FORM
FB92 ARABIC LETTER GAF |ISOLATED FORM|FINAL FORM|INITIAL FORM|MEDIAL FORM
FB96 ARABIC LETTER GUEH |ISOLATED FORM|FINAL FORM|INITIAL FORM|MEDIAL FORM
FB9A ARABIC LETTER NGOEH |ISOLATED FORM|FINAL FORM|INITIAL FORM|MEDIAL FORM
FB9E ARABIC LETTER NOON GHUNNA |ISOLATED FORM|FINAL FORM
FBA0 ARABIC LETTER RNOON |ISOLATED FORM|FINAL FORM|INITIAL FORM|MEDIAL FORM
FBA4 ARABIC LETTER HEH WITH YEH ABOVE |ISOLATED FORM|FINAL FORM
FBA6 ARABIC LETTER HEH GOAL |ISOLATED FORM|FINAL FORM|INITIAL FORM|MEDIAL FORM
FBAA ARABIC LETTER HEH DOACHASHMEE |ISOLATED FORM|FINAL FORM|INITIAL FORM|MEDIAL FORM
FBAE ARABIC LETTER YEH BARREE |ISOLATED FORM|FINAL FORM
FBB0 ARABIC LETTER YEH BARREE WITH HAMZA ABOVE |ISOLATED FORM|FINAL FORM
FBB2 ARABIC SYMBOL |DOT ABOVE|DOT BELOW|TWO DOTS ABOVE|TWO DOTS BELOW
FBB6 ARABIC SYMBOL THREE DOTS |ABOVE|BELOW|POINTING DOWNWARDS ABOVE|POINTING DOWNWARDS BELOW
FBBA ARABIC SYMBOL |FOUR DOTS ABOVE|FOUR DOTS BELOW|DOUBLE VERTICAL BAR BELOW
FBBD ARABIC SYMBOL TWO DOTS VERTICALLY |ABOVE|BELOW
FBBF ARABIC SYMBOL |RING|SMALL TAH ABOVE|SMALL TAH BELOW|WASLA ABOVE
FBD3 ARABIC LETTER NG |ISOLATED FORM|FINAL FORM|INITIAL FORM|MEDIAL FORM
FBD7 ARABIC LETTER |U ISOLATED FORM|U FINAL FORM|OE ISOLATED FORM|OE FINAL FORM|YU ISOLATED FORM
FBDC ARABIC LETTER |YU FINAL FORM|U WITH HAMZA ABOVE ISOLATED FORM|VE ISOLATED FORM|VE FINAL FORM
FBE0 ARABIC LETTER KIRGHIZ |OE ISOLATED FORM|OE FINAL FORM|YU ISOLATED FORM|YU FINAL FORM
FBE4 ARABIC LETTER E |ISOLATED FORM|FINAL FORM|INITIAL FORM|MEDIAL FORM
FBE8 ARABIC LETTER UIGHUR KAZAKH KIRGHIZ ALEF MAKSURA |INITIAL FORM|MEDIAL FORM
FBEA ARABIC LIGATURE YEH WITH HAMZA ABOVE WITH ALEF |ISOLATED FORM|FINAL FORM
FBEC ARABIC LIGATURE YEH WITH HAMZA ABOVE WITH AE |ISOLATED FORM|FINAL FORM
FBEE ARABIC LIGATURE YEH WITH HAMZA ABOVE WITH WAW |ISOLATED FORM|FINAL FORM
FBF0 ARABIC LIGATURE YEH WITH HAMZA ABOVE WITH |U ISOLATED FORM|U FINAL FORM|OE ISOLATED FORM
FBF3 ARABIC LIGATURE YEH WITH HAMZA ABOVE WITH |OE FINAL FORM|YU ISOLATED FORM|YU FINAL FORM
FBF6 ARABIC LIGATURE YEH WITH HAMZA ABOVE WITH E |ISOLATED FORM|FINAL FORM|INITIAL FORM
FBF9 |ARABIC LIGATURE UIGHUR KIRGHIZ YEH WITH HAMZA ABOVE WITH ALEF MAKSURA ISOLATED FORM
FBFA |ARABIC LIGATURE UIGHUR KIRGHIZ YEH WITH HAMZA ABOVE WITH ALEF MAKSURA FINAL FORM
FBFB |ARABIC LIGATURE UIGHUR KIRGHIZ YEH WITH HAMZA ABOVE WITH ALEF MAKSURA INITIAL FORM
FBFC ARABIC LETTER FARSI YEH |ISOLATED FORM|FINAL FORM|INITIAL FORM|MEDIAL FORM
FC00 |ARABIC LIGATURE YEH WITH HAMZA ABOVE WITH JEEM ISOLATED FORM
FC01 ARABIC LIGATURE YEH WITH HAMZA ABOVE WITH |HAH ISOLATED FORM|MEEM ISOLATED FORM
FC03 ARABIC LIGATURE YEH WITH HAMZA ABOVE WITH |ALEF MAKSURA ISOLATED FORM|YEH ISOLATED FORM
FC05 ARABIC LIGATURE BEH WITH |JEEM ISOLATED FORM|HAH ISOLATED FORM|KHAH ISOLATED FORM
FC08 ARABIC LIGATURE BEH WITH |MEEM ISOLATED FORM|ALEF MAKSURA ISOLATED FORM|YEH ISOLATED FORM
FC0B ARABIC LIGATURE TEH WITH |JEEM ISOLATED FORM|HAH ISOLATED FORM|KHAH ISOLATED FORM
FC0E ARABIC LIGATURE TEH WITH |MEEM ISOLATED FORM|ALEF MAKSURA ISOLATED FORM|YEH ISOLATED FORM
FC11 |ARABIC LIGATURE THEH WITH JEEM ISOLATED FORM
FC12 ARABIC LIGATURE THEH WITH |MEEM ISOLATED FORM|ALEF MAKSURA ISOLATED FORM|YEH ISOLATED FORM
FC15 ARABIC LIGATURE JEEM WITH |HAH ISOLATED FORM|MEEM ISOLATED FORM
FC17 ARABIC LIGATURE HAH WITH |JEEM ISOLATED FORM|MEEM ISOLATED FORM
FC19 ARABIC LIGATURE KHAH WITH |JEEM ISOLATED FORM|HAH ISOLATED FORM|MEEM ISOLATED FORM
FC1C |ARABIC LIGATURE SEEN WITH JEEM ISOLATED FORM
FC1D ARABIC LIGATURE SEEN WITH |HAH ISOLATED FORM|KHAH ISOLATED FORM|MEEM ISOLATED FORM
FC20 ARABIC LIGATURE SAD WITH |HAH ISOLATED FORM|MEEM ISOLATED FORM
FC22 ARABIC LIGATURE DAD WITH |JEEM ISOLATED FORM|HAH ISOLATED FORM|KHAH ISOLATED FORM
FC25 ARABIC LIGATURE |DAD WITH MEEM ISOLATED FORM|TAH WITH HAH ISOLATED FORM
FC27 ARABIC LIGATURE |TAH WITH MEEM ISOLATED FORM|ZAH WITH MEEM ISOLATED FORM
FC29 ARABIC LIGATURE AIN WITH |JEEM ISOLATED FORM|MEEM ISOLATED FORM
FC2B ARABIC LIGATURE GHAIN WITH |JEEM ISOLATED FORM|MEEM ISOLATED FORM
FC2D ARABIC LIGATURE FEH WITH |JEEM ISOLATED FORM|HAH ISOLATED FORM|KHAH ISOLATED FORM
FC30 ARABIC LIGATURE FEH WITH |MEEM ISOLATED FORM|ALEF MAKSURA ISOLATED FORM|YEH ISOLATED FORM
FC33 |ARABIC LIGATURE QAF WITH HAH ISOLATED FORM
FC34 ARABIC LIGATURE QAF WITH |MEEM ISOLATED FORM|ALEF MAKSURA ISOLATED FORM|YEH ISOLATED FORM
FC37 ARABIC LIGATURE KAF WITH |ALEF ISOLATED FORM|JEEM ISOLATED FORM
FC39 ARABIC LIGATURE KAF WITH |HAH ISOLATED FORM|KHAH ISOLATED FORM|LAM ISOLATED FORM
FC3C ARABIC LIGATURE KAF WITH |MEEM ISOLATED FORM|ALEF MAKSURA ISOLATED FORM|YEH ISOLATED FORM
FC3F ARABIC LIGATURE LAM WITH |JEEM ISOLATED FORM|HAH ISOLATED FORM|KHAH ISOLATED FORM
FC42 ARABIC LIGATURE LAM WITH |MEEM ISOLATED FORM|ALEF MAKSURA ISOLATED FORM|YEH ISOLATED FORM
FC45 ARABIC LIGATURE MEEM WITH |JEEM ISOLATED FORM|HAH ISOLATED FORM|KHAH ISOLATED FORM
FC48 ARABIC LIGATURE MEEM WITH |MEEM ISOLATED FORM|ALEF MAKSURA ISOLATED FORM|YEH ISOLATED FORM
FC4B ARABIC LIGATURE NOON WITH |JEEM ISOLATED FORM|HAH ISOLATED FORM|KHAH ISOLATED FORM
FC4E ARABIC LIGATURE NOON WITH |MEEM ISOLATED FORM|ALEF MAKSURA ISOLATED FORM|YEH ISOLATED FORM
FC51 |ARABIC LIGATURE HEH WITH JEEM ISOLATED FORM
FC52 ARABIC LIGATURE HEH WITH |MEEM ISOLATED FORM|ALEF MAKSURA ISOLATED FORM|YEH ISOLATED FORM
FC55 ARABIC LIGATURE YEH WITH |JEEM ISOLATED FORM|HAH ISOLATED FORM|KHAH ISOLATED FORM
FC58 ARABIC LIGATURE YEH WITH |MEEM ISOLATED FORM|ALEF MAKSURA ISOLATED FORM|YEH ISOLATED FORM
FC5B |ARABIC LIGATURE THAL WITH SUPERSCRIPT ALEF ISOLATED FORM
FC5C |ARABIC LIGATURE REH WITH SUPERSCRIPT ALEF ISOLATED FORM
FC5D |ARABIC LIGATURE ALEF MAKSURA WITH SUPERSCRIPT ALEF ISOLATED FORM
FC5E |ARABIC LIGATURE SHADDA WITH DAMMATAN ISOLATED FORM
FC5F ARABIC LIGATURE SHADDA WITH |KASRATAN ISOLATED FORM|FATHA ISOLATED FORM|DAMMA ISOLATED FORM
FC62 ARABIC LIGATURE SHADDA WITH |KASRA ISOLATED FORM|SUPERSCRIPT ALEF ISOLATED FORM
FC64 |ARABIC LIGATURE YEH WITH HAMZA ABOVE WITH REH FINAL FORM
FC65 ARABIC LIGATURE YEH WITH HAMZA ABOVE WITH |ZAIN FINAL FORM|MEEM FINAL FORM|NOON FINAL FORM
FC68 ARABIC LIGATURE YEH WITH HAMZA ABOVE WITH |ALEF MAKSURA FINAL FORM|YEH FINAL FORM
FC6A ARABIC LIGATURE BEH WITH |REH FINAL FORM|ZAIN FINAL FORM|MEEM FINAL FORM
FC6D ARABIC LIGATURE BEH WITH |NOON FINAL FORM|ALEF MAKSURA FINAL FORM|YEH FINAL FORM
FC70 ARABIC LIGATURE TEH WITH |REH FINAL FORM|ZAIN FINAL FORM|MEEM FINAL FORM
FC73 ARABIC LIGATURE TEH WITH |NOON FINAL FORM|ALEF MAKSURA FINAL FORM|YEH FINAL FORM
FC76 ARABIC LIGATURE THEH WITH |REH FINAL FORM|ZAIN FINAL FORM|MEEM FINAL FORM
FC79 ARABIC LIGATURE THEH WITH |NOON FINAL FORM|ALEF MAKSURA FINAL FORM|YEH FINAL FORM
FC7C ARABIC LIGATURE FEH WITH |ALEF MAKSURA FINAL FORM|YEH FINAL FORM
FC7E ARABIC LIGATURE QAF WITH |ALEF MAKSURA FINAL FORM|YEH FINAL FORM
FC80 ARABIC LIGATURE KAF WITH |ALEF FINAL FORM|LAM FINAL FORM
FC82 ARABIC LIGATURE KAF WITH |MEEM FINAL FORM|ALEF MAKSURA FINAL FORM|YEH FINAL FORM
FC85 ARABIC LIGATURE LAM WITH |MEEM FINAL FORM|ALEF MAKSURA FINAL FORM|YEH FINAL FORM
FC88 ARABIC LIGATURE MEEM WITH |ALEF FINAL FORM|MEEM FINAL FORM
FC8A ARABIC LIGATURE NOON WITH |REH FINAL FORM|ZAIN FINAL FORM|MEEM FINAL FORM
FC8D ARABIC LIGATURE NOON WITH |NOON FINAL FORM|ALEF MAKSURA FINAL FORM|YEH FINAL FORM
FC90 |ARABIC LIGATURE ALEF MAKSURA WITH SUPERSCRIPT ALEF FINAL FORM
FC91 ARABIC LIGATURE YEH WITH |REH FINAL FORM|ZAIN FINAL FORM|MEEM FINAL FORM
FC94 ARABIC LIGATURE YEH WITH |NOON FINAL FORM|ALEF MAKSURA FINAL FORM|YEH FINAL FORM
FC97 ARABIC LIGATURE YEH WITH HAMZA ABOVE WITH |JEEM INITIAL FORM|HAH INITIAL FORM
FC99 ARABIC LIGATURE YEH WITH HAMZA ABOVE WITH |KHAH INITIAL FORM|MEEM INITIAL FORM
FC9B ARABIC LIGATURE |YEH WITH HAMZA ABOVE WITH HEH INITIAL FORM|BEH WITH JEEM INITIAL FORM
FC9D ARABIC LIGATURE BEH WITH |HAH INITIAL FORM|KHAH INITIAL FORM|MEEM INITIAL FORM
FCA0 ARABIC LIGATURE |BEH WITH HEH INITIAL FORM|TEH WITH JEEM INITIAL FORM
FCA2 ARABIC LIGATURE TEH WITH |HAH INITIAL FORM|KHAH INITIAL FORM|MEEM INITIAL FORM
FCA5 ARABIC LIGATURE |TEH WITH HEH INITIAL FORM|THEH WITH MEEM INITIAL FORM
FCA7 ARABIC LIGATURE JEEM WITH |HAH INITIAL FORM|MEEM INITIAL FORM
FCA9 ARABIC LIGATURE HAH WITH |JEEM INITIAL FORM|MEEM INITIAL FORM
FCAB ARABIC LIGATURE KHAH WITH |JEEM INITIAL FORM|MEEM INITIAL FORM
FCAD |ARABIC LIGATURE SEEN WITH JEEM INITIAL FORM
FCAE ARABIC LIGATURE SEEN WITH |HAH INITIAL FORM|KHAH INITIAL FORM|MEEM INITIAL FORM
FCB1 ARABIC LIGATURE SAD WITH |HAH INITIAL FORM|KHAH INITIAL FORM|MEEM INITIAL FORM
FCB4 ARABIC LIGATURE DAD WITH |JEEM INITIAL FORM|HAH INITIAL FORM|KHAH INITIAL FORM
FCB7 ARABIC LIGATURE |DAD WITH MEEM INITIAL FORM|TAH WITH HAH INITIAL FORM
FCB9 ARABIC LIGATURE |ZAH WITH MEEM INITIAL FORM|AIN WITH JEEM INITIAL FORM
FCBB ARABIC LIGATURE |AIN WITH MEEM INITIAL FORM|GHAIN WITH JEEM INITIAL FORM
FCBD ARABIC LIGATURE |GHAIN WITH MEEM INITIAL FORM|FEH WITH JEEM INITIAL FORM
FCBF ARABIC LIGATURE FEH WITH |HAH INITIAL FORM|KHAH INITIAL FORM|MEEM INITIAL FORM
FCC2 ARABIC LIGATURE QAF WITH |HAH INITIAL FORM|MEEM INITIAL FORM
FCC4 ARABIC LIGATURE KAF WITH |JEEM INITIAL FORM|HAH INITIAL FORM
FCC6 ARABIC LIGATURE KAF WITH |KHAH INITIAL FORM|LAM INITIAL FORM|MEEM INITIAL FORM
FCC9 ARABIC LIGATURE LAM WITH |JEEM INITIAL FORM|HAH INITIAL FORM
FCCB ARABIC LIGATURE LAM WITH |KHAH INITIAL FORM|MEEM INITIAL FORM|HEH INITIAL FORM
FCCE |ARABIC LIGATURE MEEM WITH JEEM INITIAL FORM
FCCF ARABIC LIGATURE MEEM WITH |HAH INITIAL FORM|KHAH INITIAL FORM|MEEM INITIAL FORM
FCD2 ARABIC LIGATURE NOON WITH |JEEM INITIAL FORM|HAH INITIAL FORM
FCD4 ARABIC LIGATURE NOON WITH |KHAH INITIAL FORM|MEEM INITIAL FORM|HEH INITIAL FORM
FCD7 ARABIC LIGATURE HEH WITH |JEEM INITIAL FORM|MEEM INITIAL FORM|SUPERSCRIPT ALEF INITIAL FORM
FCDA ARABIC LIGATURE YEH WITH |JEEM INITIAL FORM|HAH INITIAL FORM
FCDC ARABIC LIGATURE YEH WITH |KHAH INITIAL FORM|MEEM INITIAL FORM|HEH INITIAL FORM
FCDF ARABIC LIGATURE YEH WITH HAMZA ABOVE WITH |MEEM MEDIAL FORM|HEH MEDIAL FORM
FCE1 ARABIC LIGATURE BEH WITH |MEEM MEDIAL FORM|HEH MEDIAL FORM
FCE3 ARABIC LIGATURE TEH WITH |MEEM MEDIAL FORM|HEH MEDIAL FORM
FCE5 ARABIC LIGATURE THEH WITH |MEEM MEDIAL FORM|HEH MEDIAL FORM
FCE7 ARABIC LIGATURE SEEN WITH |MEEM MEDIAL FORM|HEH MEDIAL FORM
FCE9 ARABIC LIGATURE SHEEN WITH |MEEM MEDIAL FORM|HEH MEDIAL FORM
FCEB ARABIC LIGATURE |KAF WITH LAM MEDIAL FORM|KAF WITH MEEM MEDIAL FORM|LAM WITH MEEM MEDIAL FORM
FCEE ARABIC LIGATURE NOON WITH |MEEM MEDIAL FORM|HEH MEDIAL FORM
FCF0 ARABIC LIGATURE YEH WITH |MEEM MEDIAL FORM|HEH MEDIAL FORM
FCF2 ARABIC LIGATURE SHADDA WITH |FATHA MEDIAL FORM|DAMMA MEDIAL FORM|KASRA MEDIAL FORM
FCF5 ARABIC LIGATURE TAH WITH |ALEF MAKSURA ISOLATED FORM|YEH ISOLATED FORM
FCF7 ARABIC LIGATURE AIN WITH |ALEF MAKSURA ISOLATED FORM|YEH ISOLATED FORM
FCF9 ARABIC LIGATURE GHAIN WITH |ALEF MAKSURA ISOLATED FORM|YEH ISOLATED FORM
FCFB ARABIC LIGATURE SEEN WITH |ALEF MAKSURA ISOLATED FORM|YEH ISOLATED FORM
FCFD ARABIC LIGATURE SHEEN WITH |ALEF MAKSURA ISOLATED FORM|YEH ISOLATED FORM
FCFF ARABIC LIGATURE HAH WITH |ALEF MAKSURA ISOLATED FORM|YEH ISOLATED FORM
FD01 ARABIC LIGATURE JEEM WITH |ALEF MAKSURA ISOLATED FORM|YEH ISOLATED FORM
FD03 ARABIC LIGATURE KHAH WITH |ALEF MAKSURA ISOLATED FORM|YEH ISOLATED FORM
FD05 ARABIC LIGATURE SAD WITH |ALEF MAKSURA ISOLATED FORM|YEH ISOLATED FORM
FD07 ARABIC LIGATURE DAD WITH |ALEF MAKSURA ISOLATED FORM|YEH ISOLATED FORM
FD09 ARABIC LIGATURE SHEEN WITH |JEEM ISOLATED FORM|HAH ISOLATED FORM
FD0B ARABIC LIGATURE SHEEN WITH |KHAH ISOLATED FORM|MEEM ISOLATED FORM|REH ISOLATED FORM
FD0E |ARABIC LIGATURE SEEN WITH REH ISOLATED FORM
FD0F ARABIC LIGATURE |SAD WITH REH ISOLATED FORM|DAD WITH REH ISOLATED FORM
FD11 ARABIC LIGATURE TAH WITH |ALEF MAKSURA FINAL FORM|YEH FINAL FORM
FD13 ARABIC LIGATURE AIN WITH |ALEF MAKSURA FINAL FORM|YEH FINAL FORM
FD15 ARABIC LIGATURE GHAIN WITH |ALEF MAKSURA FINAL FORM|YEH FINAL FORM
FD17 ARABIC LIGATURE SEEN WITH |ALEF MAKSURA FINAL FORM|YEH FINAL FORM
FD19 ARABIC LIGATURE SHEEN WITH |ALEF MAKSURA FINAL FORM|YEH FINAL FORM
FD1B ARABIC LIGATURE HAH WITH |ALEF MAKSURA FINAL FORM|YEH FINAL FORM
FD1D ARABIC LIGATURE JEEM WITH |ALEF MAKSURA FINAL FORM|YEH FINAL FORM
FD1F ARABIC LIGATURE KHAH WITH |ALEF MAKSURA FINAL FORM|YEH FINAL FORM
FD21 ARABIC LIGATURE SAD WITH |ALEF MAKSURA FINAL FORM|YEH FINAL FORM
FD23 ARABIC LIGATURE DAD WITH |ALEF MAKSURA FINAL FORM|YEH FINAL FORM
FD25 |ARABIC LIGATURE SHEEN WITH JEEM FINAL FORM
FD26 ARABIC LIGATURE SHEEN WITH |HAH FINAL FORM|KHAH FINAL FORM|MEEM FINAL FORM|REH FINAL FORM
FD2A ARABIC LIGATURE |SEEN WITH REH FINAL FORM|SAD WITH REH FINAL FORM|DAD WITH REH FINAL FORM
FD2D ARABIC LIGATURE SHEEN WITH |JEEM INITIAL FORM|HAH INITIAL FORM|KHAH INITIAL FORM
FD30 ARABIC LIGATURE |SHEEN WITH MEEM INITIAL FORM|SEEN WITH HEH INITIAL FORM
FD32 ARABIC LIGATURE |SHEEN WITH HEH INITIAL FORM|TAH WITH MEEM INITIAL FORM
FD34 ARABIC LIGATURE SEEN WITH |JEEM MEDIAL FORM|HAH MEDIAL FORM|KHAH MEDIAL FORM
FD37 ARABIC LIGATURE SHEEN WITH |JEEM MEDIAL FORM|HAH MEDIAL FORM|KHAH MEDIAL FORM
FD3A ARABIC LIGATURE |TAH WITH MEEM MEDIAL FORM|ZAH WITH MEEM MEDIAL FORM
FD3C ARABIC LIGATURE ALEF WITH FATHATAN |FINAL FORM|ISOLATED FORM
FD3E |ORNATE LEFT PARENTHESIS|ORNATE RIGHT PARENTHESIS|ARABIC LIGATURE RAHIMAHU ALLAAH
FD41 ARABIC LIGATURE RADI ALLAAHU |ANH|ANHAA|ANHUM|ANHUMAA|ANHUNNA
FD46 ARABIC LIGATURE |SALLALLAAHU ALAYHI WA-AALIH|ALAYHI AS-SALAAM
FD48 ARABIC LIGATURE |ALAYHIM AS-SALAAM|ALAYHIMAA AS-SALAAM|ALAYHI AS-SALAATU WAS-SALAAM
FD4B ARABIC LIGATURE |QUDDISA SIRRAH|SALLALLAHU ALAYHI WAAALIHEE WA-SALLAM|ALAYHAA AS-SALAAM
FD4E ARABIC LIGATURE |TABAARAKA WA-TAAALAA|RAHIMAHUM ALLAAH|TEH WITH JEEM WITH MEEM INITIAL FORM
FD51 ARABIC LIGATURE TEH WITH HAH WITH |JEEM FINAL FORM|JEEM INITIAL FORM|MEEM INITIAL FORM
FD54 |ARABIC LIGATURE TEH WITH KHAH WITH MEEM INITIAL FORM
FD55 ARABIC LIGATURE TEH WITH MEEM WITH |JEEM INITIAL FORM|HAH INITIAL FORM|KHAH INITIAL FORM
FD58 ARABIC LIGATURE JEEM WITH MEEM WITH HAH |FINAL FORM|INITIAL FORM
FD5A ARABIC LIGATURE HAH WITH MEEM WITH |YEH FINAL FORM|ALEF MAKSURA FINAL FORM
FD5C |ARABIC LIGATURE SEEN WITH HAH WITH JEEM INITIAL FORM
FD5D ARABIC LIGATURE SEEN WITH JEEM WITH |HAH INITIAL FORM|ALEF MAKSURA FINAL FORM
FD5F ARABIC LIGATURE SEEN WITH MEEM WITH |HAH FINAL FORM|HAH INITIAL FORM|JEEM INITIAL FORM
FD62 ARABIC LIGATURE SEEN WITH MEEM WITH MEEM |FINAL FORM|INITIAL FORM
FD64 ARABIC LIGATURE SAD WITH HAH WITH HAH |FINAL FORM|INITIAL FORM
FD66 |ARABIC LIGATURE SAD WITH MEEM WITH MEEM FINAL FORM
FD67 ARABIC LIGATURE SHEEN WITH HAH WITH MEEM |FINAL FORM|INITIAL FORM
FD69 ARABIC LIGATURE SHEEN WITH |JEEM WITH YEH FINAL FORM|MEEM WITH KHAH FINAL FORM
FD6B ARABIC LIGATURE SHEEN WITH MEEM WITH |KHAH INITIAL FORM|MEEM FINAL FORM|MEEM INITIAL FORM
FD6E |ARABIC LIGATURE DAD WITH HAH WITH ALEF MAKSURA FINAL FORM
FD6F ARABIC LIGATURE DAD WITH KHAH WITH MEEM |FINAL FORM|INITIAL FORM
FD71 ARABIC LIGATURE TAH WITH MEEM WITH |HAH FINAL FORM|HAH INITIAL FORM|MEEM INITIAL FORM
FD74 ARABIC LIGATURE |TAH WITH MEEM WITH YEH FINAL FORM|AIN WITH JEEM WITH MEEM FINAL FORM
FD76 ARABIC LIGATURE AIN WITH MEEM WITH |MEEM FINAL FORM|MEEM INITIAL FORM|ALEF MAKSURA FINAL FORM
FD79 ARABIC LIGATURE GHAIN WITH MEEM WITH |MEEM FINAL FORM|YEH FINAL FORM|ALEF MAKSURA FINAL FORM
FD7C ARABIC LIGATURE FEH WITH KHAH WITH MEEM |FINAL FORM|INITIAL FORM
FD7E ARABIC LIGATURE QAF WITH MEEM WITH |HAH FINAL FORM|MEEM FINAL FORM
FD80 ARABIC LIGATURE LAM WITH HAH WITH |MEEM FINAL FORM|YEH FINAL FORM|ALEF MAKSURA FINAL FORM
FD83 ARABIC LIGATURE LAM WITH JEEM WITH JEEM |INITIAL FORM|FINAL FORM
FD85 ARABIC LIGATURE LAM WITH KHAH WITH MEEM |FINAL FORM|INITIAL FORM
FD87 ARABIC LIGATURE LAM WITH MEEM WITH HAH |FINAL FORM|INITIAL FORM
FD89 ARABIC LIGATURE MEEM WITH HAH WITH |JEEM INITIAL FORM|MEEM INITIAL FORM|YEH FINAL FORM
FD8C ARABIC LIGATURE MEEM WITH JEEM WITH |HAH INITIAL FORM|MEEM INITIAL FORM
FD8E ARABIC LIGATURE MEEM WITH KHAH WITH |JEEM INITIAL FORM|MEEM INITIAL FORM
FD92 |ARABIC LIGATURE MEEM WITH JEEM WITH KHAH INITIAL FORM
FD93 ARABIC LIGATURE HEH WITH MEEM WITH |JEEM INITIAL FORM|MEEM INITIAL FORM
FD95 ARABIC LIGATURE NOON WITH HAH WITH |MEEM INITIAL FORM|ALEF MAKSURA FINAL FORM
FD97 ARABIC LIGATURE NOON WITH JEEM WITH MEEM |FINAL FORM|INITIAL FORM
FD99 |ARABIC LIGATURE NOON WITH JEEM WITH ALEF MAKSURA FINAL FORM
FD9A ARABIC LIGATURE NOON WITH MEEM WITH |YEH FINAL FORM|ALEF MAKSURA FINAL FORM
FD9C ARABIC LIGATURE YEH WITH MEEM WITH MEEM |FINAL FORM|INITIAL FORM
FD9E |ARABIC LIGATURE BEH WITH KHAH WITH YEH FINAL FORM
FD9F ARABIC LIGATURE TEH WITH JEEM WITH |YEH FINAL FORM|ALEF MAKSURA FINAL FORM
FDA1 ARABIC LIGATURE TEH WITH KHAH WITH |YEH FINAL FORM|ALEF MAKSURA FINAL FORM
FDA3 ARABIC LIGATURE TEH WITH MEEM WITH |YEH FINAL FORM|ALEF MAKSURA FINAL FORM
FDA5 |ARABIC LIGATURE JEEM WITH MEEM WITH YEH FINAL FORM
FDA6 ARABIC LIGATURE JEEM WITH |HAH WITH ALEF MAKSURA FINAL FORM|MEEM WITH ALEF MAKSURA FINAL FORM
FDA8 ARABIC LIGATURE |SEEN WITH KHAH WITH ALEF MAKSURA FINAL FORM|SAD WITH HAH WITH YEH FINAL FORM
FDAA ARABIC LIGATURE |SHEEN WITH HAH WITH YEH FINAL FORM|DAD WITH HAH WITH YEH FINAL FORM
FDAC ARABIC LIGATURE LAM WITH |JEEM WITH YEH FINAL FORM|MEEM WITH YEH FINAL FORM
FDAE ARABIC LIGATURE YEH WITH |HAH WITH YEH FINAL FORM|JEEM WITH YEH FINAL FORM
FDB0 ARABIC LIGATURE |YEH WITH MEEM WITH YEH FINAL FORM|MEEM WITH MEEM WITH YEH FINAL FORM
FDB2 ARABIC LIGATURE |QAF WITH MEEM WITH YEH FINAL FORM|NOON WITH HAH WITH YEH FINAL FORM
FDB4 ARABIC LIGATURE |QAF WITH MEEM WITH HAH INITIAL FORM|LAM WITH HAH WITH MEEM INITIAL FORM
FDB6 ARABIC LIGATURE |AIN WITH MEEM WITH YEH FINAL FORM|KAF WITH MEEM WITH YEH FINAL FORM
FDB8 ARABIC LIGATURE |NOON WITH JEEM WITH HAH INITIAL FORM|MEEM WITH KHAH WITH YEH FINAL FORM
FDBA ARABIC LIGATURE |LAM WITH JEEM WITH MEEM INITIAL FORM|KAF WITH MEEM WITH MEEM FINAL FORM
FDBC ARABIC LIGATURE |LAM WITH JEEM WITH MEEM FINAL FORM|NOON WITH JEEM WITH HAH FINAL FORM
FDBE ARABIC LIGATURE |JEEM WITH HAH WITH YEH FINAL FORM|HAH WITH JEEM WITH YEH FINAL FORM
FDC0 ARABIC LIGATURE |MEEM WITH JEEM WITH YEH FINAL FORM|FEH WITH MEEM WITH YEH FINAL FORM
FDC2 ARABIC LIGATURE |BEH WITH HAH WITH YEH FINAL FORM|KAF WITH MEEM WITH MEEM INITIAL FORM
FDC4 ARABIC LIGATURE |AIN WITH JEEM WITH MEEM INITIAL FORM|SAD WITH MEEM WITH MEEM INITIAL FORM
FDC6 ARABIC LIGATURE |SEEN WITH KHAH WITH YEH FINAL FORM|NOON WITH JEEM WITH YEH FINAL FORM
FDCF |ARABIC LIGATURE SALAAMUHU ALAYNAA
FDF0 |ARABIC LIGATURE SALLA USED AS KORANIC STOP SIGN ISOLATED FORM
FDF1 ARABIC LIGATURE |QALA USED AS KORANIC STOP SIGN ISOLATED FORM|ALLAH ISOLATED FORM
FDF3 ARABIC LIGATURE |AKBAR ISOLATED FORM|MOHAMMAD ISOLATED FORM|SALAM ISOLATED FORM
FDF6 ARABIC LIGATURE |RASOUL ISOLATED FORM|ALAYHE ISOLATED FORM|WASALLAM ISOLATED FORM
FDF9 ARABIC LIGATURE |SALLA ISOLATED FORM|SALLALLAHOU ALAYHE WASALLAM|JALLAJALALOUHOU
FDFC |RIAL SIGN
FDFD ARABIC LIGATURE |BISMILLAH AR-RAHMAN AR-RAHEEM|SUBHAANAHU WA TAAALAA|AZZA WA JALL
FE00 VARIATION SELECTOR-|1|2|3|4|5|6|7|8|9|10|11|12|13|14|15|16
FE10 PRESENTATION FORM FOR VERTICAL |COMMA|IDEOGRAPHIC COMMA|IDEOGRAPHIC FULL STOP|COLON|SEMICOLON
FE15 PRESENTATION FORM FOR VERTICAL |EXCLAMATION MARK|QUESTION MARK|LEFT WHITE LENTICULAR BRACKET
FE18 PRESENTATION FORM FOR VERTICAL |RIGHT WHITE LENTICULAR BRAKCET|HORIZONTAL ELLIPSIS
FE20 COMBINING LIGATURE |LEFT HALF|RIGHT HALF
FE22 COMBINING DOUBLE TILDE |LEFT HALF|RIGHT HALF
FE24 COMBINING |MACRON LEFT HALF|MACRON RIGHT HALF|CONJOINING MACRON|LIGATURE LEFT HALF BELOW
FE28 COMBINING |LIGATURE RIGHT HALF BELOW|TILDE LEFT HALF BELOW|TILDE RIGHT HALF BELOW
FE2B COMBINING |MACRON LEFT HALF BELOW|MACRON RIGHT HALF BELOW|CONJOINING MACRON BELOW
FE2E COMBINING CYRILLIC TITLO |LEFT HALF|RIGHT HALF
FE30 PRESENTATION FORM FOR VERTICAL |TWO DOT LEADER|EM DASH|EN DASH|LOW LINE|WAVY LOW LINE
FE35 PRESENTATION FORM FOR VERTICAL |LEFT PARENTHESIS|RIGHT PARENTHESIS|LEFT CURLY BRACKET
FE38 PRESENTATION FORM FOR VERTICAL |RIGHT CURLY BRACKET|LEFT TORTOISE SHELL BRACKET
FE3A PRESENTATION FORM FOR VERTICAL |RIGHT TORTOISE SHELL BRACKET|LEFT BLACK LENTICULAR BRACKET
FE3C PRESENTATION FORM FOR VERTICAL |RIGHT BLACK LENTICULAR BRACKET|LEFT DOUBLE ANGLE BRACKET
FE3E PRESENTATION FORM FOR VERTICAL |RIGHT DOUBLE ANGLE BRACKET|LEFT ANGLE BRACKET
FE40 PRESENTATION FORM FOR VERTICAL |RIGHT ANGLE BRACKET|LEFT CORNER BRACKET|RIGHT CORNER BRACKET
FE43 PRESENTATION FORM FOR VERTICAL |LEFT WHITE CORNER BRACKET|RIGHT WHITE CORNER BRACKET
FE45 |SESAME DOT|WHITE SESAME DOT
FE47 PRESENTATION FORM FOR VERTICAL |LEFT SQUARE BRACKET|RIGHT SQUARE BRACKET
FE49 |DASHED OVERLINE|CENTRELINE OVERLINE
FE4B |WAVY OVERLINE|DOUBLE WAVY OVERLINE|DASHED LOW LINE|CENTRELINE LOW LINE|WAVY LOW LINE
FE50 SMALL |COMMA|IDEOGRAPHIC COMMA|FULL STOP
FE54 SMALL |SEMICOLON|COLON|QUESTION MARK|EXCLAMATION MARK
FE58 SMALL |EM DASH|LEFT PARENTHESIS|RIGHT PARENTHESIS|LEFT CURLY BRACKET|RIGHT CURLY BRACKET
FE5D SMALL |LEFT TORTOISE SHELL BRACKET|RIGHT TORTOISE SHELL BRACKET|NUMBER SIGN
FE60 SMALL |AMPERSAND|ASTERISK|PLUS SIGN|HYPHEN-MINUS|LESS-THAN SIGN|GREATER-THAN SIGN|EQUALS SIGN
FE68 SMALL |REVERSE SOLIDUS|DOLLAR SIGN|PERCENT SIGN|COMMERCIAL AT
FE70 ARABIC |FATHATAN ISOLATED FORM|TATWEEL WITH FATHATAN ABOVE
FE72 ARABIC |DAMMATAN ISOLATED FORM|TAIL FRAGMENT|KASRATAN ISOLATED FORM
FE76 ARABIC |FATHA ISOLATED FORM|FATHA MEDIAL FORM|DAMMA ISOLATED FORM
FE79 ARABIC |DAMMA MEDIAL FORM|KASRA ISOLATED FORM|KASRA MEDIAL FORM|SHADDA ISOLATED FORM
FE7D ARABIC |SHADDA MEDIAL FORM|SUKUN ISOLATED FORM|SUKUN MEDIAL FORM|LETTER HAMZA ISOLATED FORM
FE81 ARABIC LETTER ALEF WITH MADDA ABOVE |ISOLATED FORM|FINAL FORM
FE83 ARABIC LETTER ALEF WITH HAMZA ABOVE |ISOLATED FORM|FINAL FORM
FE85 ARABIC LETTER WAW WITH HAMZA ABOVE |ISOLATED FORM|FINAL FORM
FE87 ARABIC LETTER ALEF WITH HAMZA BELOW |ISOLATED FORM|FINAL FORM
FE89 ARABIC LETTER YEH WITH HAMZA ABOVE |ISOLATED FORM|FINAL FORM|INITIAL FORM|MEDIAL FORM
FE8D ARABIC LETTER ALEF |ISOLATED FORM|FINAL FORM
FE8F ARABIC LETTER BEH |ISOLATED FORM|FINAL FORM|INITIAL FORM|MEDIAL FORM
FE93 ARABIC LETTER TEH MARBUTA |ISOLATED FORM|FINAL FORM
FE95 ARABIC LETTER TEH |ISOLATED FORM|FINAL FORM|INITIAL FORM|MEDIAL FORM
FE99 ARABIC LETTER THEH |ISOLATED FORM|FINAL FORM|INITIAL FORM|MEDIAL FORM
FE9D ARABIC LETTER JEEM |ISOLATED FORM|FINAL FORM|INITIAL FORM|MEDIAL FORM
FEA1 ARABIC LETTER HAH |ISOLATED FORM|FINAL FORM|INITIAL FORM|MEDIAL FORM
FEA5 ARABIC LETTER KHAH |ISOLATED FORM|FINAL FORM|INITIAL FORM|MEDIAL FORM
FEA9 ARABIC LETTER |DAL ISOLATED FORM|DAL FINAL FORM|THAL ISOLATED FORM|THAL FINAL FORM
FEAD ARABIC LETTER |REH ISOLATED FORM|REH FINAL FORM|ZAIN ISOLATED FORM|ZAIN FINAL FORM
FEB1 ARABIC LETTER SEEN |ISOLATED FORM|FINAL FORM|INITIAL FORM|MEDIAL FORM
FEB5 ARABIC LETTER SHEEN |ISOLATED FORM|FINAL FORM|INITIAL FORM|MEDIAL FORM
FEB9 ARABIC LETTER SAD |ISOLATED FORM|FINAL FORM|INITIAL FORM|MEDIAL FORM
FEBD ARABIC LETTER DAD |ISOLATED FORM|FINAL FORM|INITIAL FORM|MEDIAL FORM
FEC1 ARABIC LETTER TAH |ISOLATED FORM|FINAL FORM|INITIAL FORM|MEDIAL FORM
FEC5 ARABIC LETTER ZAH |ISOLATED FORM|FINAL FORM|INITIAL FORM|MEDIAL FORM
FEC9 ARABIC LETTER AIN |ISOLATED FORM|FINAL FORM|INITIAL FORM|MEDIAL FORM
FECD ARABIC LETTER GHAIN |ISOLATED FORM|FINAL FORM|INITIAL FORM|MEDIAL FORM
FED1 ARABIC LETTER FEH |ISOLATED FORM|FINAL FORM|INITIAL FORM|MEDIAL FORM
FED5 ARABIC LETTER QAF |ISOLATED FORM|FINAL FORM|INITIAL FORM|MEDIAL FORM
FED9 ARABIC LETTER KAF |ISOLATED FORM|FINAL FORM|INITIAL FORM|MEDIAL FORM
FEDD ARABIC LETTER LAM |ISOLATED FORM|FINAL FORM|INITIAL FORM|MEDIAL FORM
FEE1 ARABIC LETTER MEEM |ISOLATED FORM|FINAL FORM|INITIAL FORM|MEDIAL FORM
FEE5 ARABIC LETTER NOON |ISOLATED FORM|FINAL FORM|INITIAL FORM|MEDIAL FORM
FEE9 ARABIC LETTER HEH |ISOLATED FORM|FINAL FORM|INITIAL FORM|MEDIAL FORM
FEED ARABIC LETTER WAW |ISOLATED FORM|FINAL FORM
FEEF ARABIC LETTER ALEF MAKSURA |ISOLATED FORM|FINAL FORM
FEF1 ARABIC LETTER YEH |ISOLATED FORM|FINAL FORM|INITIAL FORM|MEDIAL FORM
FEF5 ARABIC LIGATURE LAM WITH ALEF WITH MADDA ABOVE |ISOLATED FORM|FINAL FORM
FEF7 ARABIC LIGATURE LAM WITH ALEF WITH HAMZA ABOVE |ISOLATED FORM|FINAL FORM
FEF9 ARABIC LIGATURE LAM WITH ALEF WITH HAMZA BELOW |ISOLATED FORM|FINAL FORM
FEFB ARABIC LIGATURE LAM WITH ALEF |ISOLATED FORM|FINAL FORM
FEFF |ZERO WIDTH NO-BREAK SPACE
FF01 FULLWIDTH |EXCLAMATION MARK|QUOTATION MARK
FF03 FULLWIDTH |NUMBER SIGN|DOLLAR SIGN|PERCENT SIGN|AMPERSAND|APOSTROPHE|LEFT PARENTHESIS
FF09 FULLWIDTH |RIGHT PARENTHESIS|ASTERISK|PLUS SIGN|COMMA|HYPHEN-MINUS|FULL STOP|SOLIDUS
FF10 FULLWIDTH DIGIT |ZERO|ONE|TWO|THREE|FOUR|FIVE|SIX|SEVEN|EIGHT|NINE
FF1A |FULLWIDTH COLON
FF1B FULLWIDTH |SEMICOLON|LESS-THAN SIGN|EQUALS SIGN|GREATER-THAN SIGN|QUESTION MARK|COMMERCIAL AT
FF21 FULLWIDTH LATIN CAPITAL LETTER |A|B|C|D|E|F|G|H|I|J|K|L|M|N|O|P|Q|R|S|T|U|V|W|X|Y|Z
FF3B |FULLWIDTH LEFT SQUARE BRACKET
FF3C FULLWIDTH |REVERSE SOLIDUS|RIGHT SQUARE BRACKET|CIRCUMFLEX ACCENT|LOW LINE|GRAVE ACCENT
FF41 FULLWIDTH LATIN SMALL LETTER |A|B|C|D|E|F|G|H|I|J|K|L|M|N|O|P|Q|R|S|T|U|V|W|X|Y|Z
FF5B FULLWIDTH |LEFT CURLY BRACKET|VERTICAL LINE
FF5D FULLWIDTH |RIGHT CURLY BRACKET|TILDE|LEFT WHITE PARENTHESIS|RIGHT WHITE PARENTHESIS
FF61 HALFWIDTH |IDEOGRAPHIC FULL STOP|LEFT CORNER BRACKET|RIGHT CORNER BRACKET|IDEOGRAPHIC COMMA
FF65 HALFWIDTH KATAKANA |MIDDLE DOT|LETTER WO
FF67 HALFWIDTH KATAKANA LETTER SMALL |A|I|U|E|O|YA|YU|YO|TU
FF70 |HALFWIDTH KATAKANA-HIRAGANA PROLONGED SOUND MARK
FF71 HALFWIDTH KATAKANA LETTER |A|I|U|E|O|KA|KI|KU|KE|KO|SA|SI|SU|SE|SO|TA|TI|TU|TE|TO|NA|NI|NU
FF88 HALFWIDTH KATAKANA LETTER |NE|NO|HA|HI|HU|HE|HO|MA|MI|MU|ME|MO|YA|YU|YO|RA|RI|RU|RE|RO|WA|N
FF9E HALFWIDTH KATAKANA |VOICED SOUND MARK|SEMI-VOICED SOUND MARK
FFA0 HALFWIDTH HANGUL |FILLER|LETTER KIYEOK|LETTER SSANGKIYEOK
FFA3 HALFWIDTH HANGUL LETTER |KIYEOK-SIOS|NIEUN|NIEUN-CIEUC|NIEUN-HIEUH|TIKEUT|SSANGTIKEUT|RIEUL
FFAA HALFWIDTH HANGUL LETTER RIEUL-|KIYEOK|MIEUM|PIEUP|SIOS|THIEUTH|PHIEUPH|HIEUH
FFB1 HALFWIDTH HANGUL LETTER |MIEUM|PIEUP|SSANGPIEUP|PIEUP-SIOS|SIOS|SSANGSIOS
FFB7 HALFWIDTH HANGUL LETTER |IEUNG|CIEUC|SSANGCIEUC|CHIEUCH|KHIEUKH|THIEUTH|PHIEUPH|HIEUH
FFC2 HALFWIDTH HANGUL LETTER |A|AE|YA|YAE|EO|E
FFCA HALFWIDTH HANGUL LETTER |YEO|YE|O|WA|WAE|OE
FFD2 HALFWIDTH HANGUL LETTER |YO|U|WEO|WE|WI|YU
FFDA HALFWIDTH HANGUL LETTER |EU|YI|I
FFE0 FULLWIDTH |CENT SIGN|POUND SIGN|NOT SIGN|MACRON|BROKEN BAR|YEN SIGN|WON SIGN
FFE8 HALFWIDTH |FORMS LIGHT VERTICAL|LEFTWARDS ARROW
FFEA HALFWIDTH |UPWARDS ARROW|RIGHTWARDS ARROW|DOWNWARDS ARROW|BLACK SQUARE|WHITE CIRCLE
FFF9 INTERLINEAR ANNOTATION |ANCHOR|SEPARATOR|TERMINATOR
FFFC |OBJECT REPLACEMENT CHARACTER|REPLACEMENT CHARACTER
FE00 |VS1
FE01 |VS2
FE02 |VS3
FE03 |VS4
FE04 |VS5
FE05 |VS6
FE06 |VS7
FE07 |VS8
FE08 |VS9
FE09 |VS10
FE0A |VS11
FE0B |VS12
FE0C |VS13
FE0D |VS14
FE0E |VS15
FE0F |VS16
FE18 |PRESENTATION FORM FOR VERTICAL RIGHT WHITE LENTICULAR BRACKET
FEFF |BOM
FEFF |BYTE ORDER MARK
FEFF |ZWNBSP"

end TagMenu.Unicode
