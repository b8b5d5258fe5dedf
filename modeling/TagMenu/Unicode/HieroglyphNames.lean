namespace TagMenu.Unicode

def hieroglyphNames : String :=
"13000 |EGYPTIAN HIEROGLYPH A001
13001 EGYPTIAN HIEROGLYPH |A002|A003|A004|A005|A005A|A006|A006A|A006B|A007|A008|A009|A010|A011
1300E EGYPTIAN HIEROGLYPH |A012|A013|A014|A014A|A015|A016|A017|A017A|A018|A019|A020|A021|A022|A023
1301C EGYPTIAN HIEROGLYPH |A024|A025|A026|A027|A028|A029|A030|A031|A032|A032A|A033|A034|A035|A036
1302A EGYPTIAN HIEROGLYPH |A037|A038|A039|A040|A040A|A041|A042|A042A|A043|A043A|A044|A045|A045A
13037 EGYPTIAN HIEROGLYPH |A046|A047|A048|A049|A050|A051|A052|A053|A054|A055|A056|A057|A058|A059
13045 EGYPTIAN HIEROGLYPH |A060|A061|A062|A063|A064|A065|A066|A067|A068|A069|A070|B001|B002|B003
13053 EGYPTIAN HIEROGLYPH |B004|B005|B005A|B006|B007|B008|B009|C001|C002|C002A|C002B|C002C|C003
13060 EGYPTIAN HIEROGLYPH |C004|C005|C006|C007|C008|C009|C010|C010A|C011|C012|C013|C014|C015|C016
1306E EGYPTIAN HIEROGLYPH |C017|C018|C019|C020|C021|C022|C023|C024|D001|D002|D003|D004|D005|D006
1307C EGYPTIAN HIEROGLYPH |D007|D008|D008A|D009|D010|D011|D012|D013|D014|D015|D016|D017|D018|D019
1308A EGYPTIAN HIEROGLYPH |D020|D021|D022|D023|D024|D025|D026|D027|D027A|D028|D029|D030|D031|D031A
13098 EGYPTIAN HIEROGLYPH |D032|D033|D034|D034A|D035|D036|D037|D038|D039|D040|D041|D042|D043|D044
130A6 EGYPTIAN HIEROGLYPH |D045|D046|D046A|D047|D048|D048A|D049|D050|D050A|D050B|D050C|D050D|D050E
130B3 EGYPTIAN HIEROGLYPH |D050F|D050G|D050H|D050I|D051|D052|D052A|D053|D054|D054A|D055|D056|D057
130C0 EGYPTIAN HIEROGLYPH |D058|D059|D060|D061|D062|D063|D064|D065|D066|D067|D067A|D067B|D067C
130CD EGYPTIAN HIEROGLYPH |D067D|D067E|D067F|D067G|D067H|E001|E002|E003|E004|E005|E006|E007|E008
130DA EGYPTIAN HIEROGLYPH |E008A|E009|E009A|E010|E011|E012|E013|E014|E015|E016|E016A|E017|E017A
130E7 EGYPTIAN HIEROGLYPH |E018|E019|E020|E020A|E021|E022|E023|E024|E025|E026|E027|E028|E028A
130F4 EGYPTIAN HIEROGLYPH |E029|E030|E031|E032|E033|E034|E034A|E036|E037|E038|F001|F001A|F002
13101 EGYPTIAN HIEROGLYPH |F003|F004|F005|F006|F007|F008|F009|F010|F011|F012|F013|F013A|F014|F015
1310F EGYPTIAN HIEROGLYPH |F016|F017|F018|F019|F020|F021|F021A|F022|F023|F024|F025|F026|F027|F028
1311D EGYPTIAN HIEROGLYPH |F029|F030|F031|F031A|F032|F033|F034|F035|F036|F037|F037A|F038|F038A
1312A EGYPTIAN HIEROGLYPH |F039|F040|F041|F042|F043|F044|F045|F045A|F046|F046A|F047|F047A|F048
13137 EGYPTIAN HIEROGLYPH |F049|F050|F051|F051A|F051B|F051C|F052|F053|G001|G002|G003|G004|G005
13144 EGYPTIAN HIEROGLYPH |G006|G006A|G007|G007A|G007B|G008|G009|G010|G011|G011A|G012|G013|G014
13151 EGYPTIAN HIEROGLYPH |G015|G016|G017|G018|G019|G020|G020A|G021|G022|G023|G024|G025|G026|G026A
1315F EGYPTIAN HIEROGLYPH |G027|G028|G029|G030|G031|G032|G033|G034|G035|G036|G036A|G037|G037A|G038
1316D EGYPTIAN HIEROGLYPH |G039|G040|G041|G042|G043|G043A|G044|G045|G045A|G046|G047|G048|G049|G050
1317B EGYPTIAN HIEROGLYPH |G051|G052|G053|G054|H001|H002|H003|H004|H005|H006|H006A|H007|H008|I001
13189 EGYPTIAN HIEROGLYPH |I002|I003|I004|I005|I005A|I006|I007|I008|I009|I009A|I010|I010A|I011
13196 EGYPTIAN HIEROGLYPH |I011A|I012|I013|I014|I015|K001|K002|K003|K004|K005|K006|K007|K008|L001
131A4 EGYPTIAN HIEROGLYPH |L002|L002A|L003|L004|L005|L006|L006A|L007|L008|M001|M001A|M001B|M002
131B1 EGYPTIAN HIEROGLYPH |M003|M003A|M004|M005|M006|M007|M008|M009|M010|M010A|M011|M012|M012A
131BE EGYPTIAN HIEROGLYPH |M012B|M012C|M012D|M012E|M012F|M012G|M012H|M013|M014|M015|M015A|M016
131CA EGYPTIAN HIEROGLYPH |M016A|M017|M017A|M018|M019|M020|M021|M022|M022A|M023|M024|M024A|M025
131D7 EGYPTIAN HIEROGLYPH |M026|M027|M028|M028A|M029|M030|M031|M031A|M032|M033|M033A|M033B|M034
131E4 EGYPTIAN HIEROGLYPH |M035|M036|M037|M038|M039|M040|M040A|M041|M042|M043|M044|N001|N002|N003
131F2 EGYPTIAN HIEROGLYPH |N004|N005|N006|N007|N008|N009|N010|N011|N012|N013|N014|N015|N016|N017
13200 EGYPTIAN HIEROGLYPH |N018|N018A|N018B|N019|N020|N021|N022|N023|N024|N025|N025A|N026|N027
1320D EGYPTIAN HIEROGLYPH |N028|N029|N030|N031|N032|N033|N033A|N034|N034A|N035|N035A|N036|N037
1321A EGYPTIAN HIEROGLYPH |N037A|N038|N039|N040|N041|N042|NL001|NL002|NL003|NL004|NL005|NL005A
13226 EGYPTIAN HIEROGLYPH |NL006|NL007|NL008|NL009|NL010|NL011|NL012|NL013|NL014|NL015|NL016
13231 EGYPTIAN HIEROGLYPH |NL017|NL017A|NL018|NL019|NL020|NU001|NU002|NU003|NU004|NU005|NU006
1323C EGYPTIAN HIEROGLYPH |NU007|NU008|NU009|NU010|NU010A|NU011|NU011A|NU012|NU013|NU014|NU015
13247 EGYPTIAN HIEROGLYPH |NU016|NU017|NU018|NU018A|NU019|NU020|NU021|NU022|NU022A|O001|O001A
13252 EGYPTIAN HIEROGLYPH |O002|O003|O004|O005|O005A|O006|O006A|O006B|O006C|O006D|O006E|O006F
1325E EGYPTIAN HIEROGLYPH |O007|O008|O009|O010|O010A|O010B|O010C|O011|O012|O013|O014|O015|O016
1326B EGYPTIAN HIEROGLYPH |O017|O018|O019|O019A|O020|O020A|O021|O022|O023|O024|O024A|O025|O025A
13278 EGYPTIAN HIEROGLYPH |O026|O027|O028|O029|O029A|O030|O030A|O031|O032|O033|O033A|O034|O035
13285 EGYPTIAN HIEROGLYPH |O036|O036A|O036B|O036C|O036D|O037|O038|O039|O040|O041|O042|O043|O044
13292 EGYPTIAN HIEROGLYPH |O045|O046|O047|O048|O049|O050|O050A|O050B|O051|P001|P001A|P002|P003
1329F EGYPTIAN HIEROGLYPH |P003A|P004|P005|P006|P007|P008|P009|P010|P011|Q001|Q002|Q003|Q004|Q005
132AD EGYPTIAN HIEROGLYPH |Q006|Q007|R001|R002|R002A|R003|R003A|R003B|R004|R005|R006|R007|R008
132BA EGYPTIAN HIEROGLYPH |R009|R010|R010A|R011|R012|R013|R014|R015|R016|R016A|R017|R018|R019|R020
132C8 EGYPTIAN HIEROGLYPH |R021|R022|R023|R024|R025|R026|R027|R028|R029|S001|S002|S002A|S003|S004
132D6 EGYPTIAN HIEROGLYPH |S005|S006|S006A|S007|S008|S009|S010|S011|S012|S013|S014|S014A|S014B
132E3 EGYPTIAN HIEROGLYPH |S015|S016|S017|S017A|S018|S019|S020|S021|S022|S023|S024|S025|S026|S026A
132F1 EGYPTIAN HIEROGLYPH |S026B|S027|S028|S029|S030|S031|S032|S033|S034|S035|S035A|S036|S037
132FE EGYPTIAN HIEROGLYPH |S038|S039|S040|S041|S042|S043|S044|S045|S046|T001|T002|T003|T003A|T004
1330C EGYPTIAN HIEROGLYPH |T005|T006|T007|T007A|T008|T008A|T009|T009A|T010|T011|T011A|T012|T013
13319 EGYPTIAN HIEROGLYPH |T014|T015|T016|T016A|T017|T018|T019|T020|T021|T022|T023|T024|T025|T026
13327 EGYPTIAN HIEROGLYPH |T027|T028|T029|T030|T031|T032|T032A|T033|T033A|T034|T035|T036|U001|U002
13335 EGYPTIAN HIEROGLYPH |U003|U004|U005|U006|U006A|U006B|U007|U008|U009|U010|U011|U012|U013|U014
13343 EGYPTIAN HIEROGLYPH |U015|U016|U017|U018|U019|U020|U021|U022|U023|U023A|U024|U025|U026|U027
13351 EGYPTIAN HIEROGLYPH |U028|U029|U029A|U030|U031|U032|U032A|U033|U034|U035|U036|U037|U038|U039
1335F EGYPTIAN HIEROGLYPH |U040|U041|U042|V001|V001A|V001B|V001C|V001D|V001E|V001F|V001G|V001H
1336B EGYPTIAN HIEROGLYPH |V001I|V002|V002A|V003|V004|V005|V006|V007|V007A|V007B|V008|V009|V010
13378 EGYPTIAN HIEROGLYPH |V011|V011A|V011B|V011C|V012|V012A|V012B|V013|V014|V015|V016|V017|V018
13385 EGYPTIAN HIEROGLYPH |V019|V020|V020A|V020B|V020C|V020D|V020E|V020F|V020G|V020H|V020I|V020J
13391 EGYPTIAN HIEROGLYPH |V020K|V020L|V021|V022|V023|V023A|V024|V025|V026|V027|V028|V028A|V029
1339E EGYPTIAN HIEROGLYPH |V029A|V030|V030A|V031|V031A|V032|V033|V033A|V034|V035|V036|V037|V037A
133AB EGYPTIAN HIEROGLYPH |V038|V039|V040|V040A|W001|W002|W003|W003A|W004|W005|W006|W007|W008
133B8 EGYPTIAN HIEROGLYPH |W009|W009A|W010|W010A|W011|W012|W013|W014|W014A|W015|W016|W017|W017A
133C5 EGYPTIAN HIEROGLYPH |W018|W018A|W019|W020|W021|W022|W023|W024|W024A|W025|X001|X002|X003|X004
133D3 EGYPTIAN HIEROGLYPH |X004A|X004B|X005|X006|X006A|X007|X008|X008A|Y001|Y001A|Y002|Y003|Y004
133E0 EGYPTIAN HIEROGLYPH |Y005|Y006|Y007|Y008|Z001|Z002|Z002A|Z002B|Z002C|Z002D|Z003|Z003A|Z003B
133ED EGYPTIAN HIEROGLYPH |Z004|Z004A|Z005|Z005A|Z006|Z007|Z008|Z009|Z010|Z011|Z012|Z013|Z014|Z015
133FB EGYPTIAN HIEROGLYPH |Z015A|Z015B|Z015C|Z015D|Z015E|Z015F|Z015G|Z015H|Z015I|Z016|Z016A|Z016B
13407 EGYPTIAN HIEROGLYPH |Z016C|Z016D|Z016E|Z016F|Z016G|Z016H|AA001|AA002|AA003|AA004|AA005|AA006
13413 EGYPTIAN HIEROGLYPH |AA007|AA007A|AA007B|AA008|AA009|AA010|AA011|AA012|AA013|AA014|AA015
1341E EGYPTIAN HIEROGLYPH |AA016|AA017|AA018|AA019|AA020|AA021|AA022|AA023|AA024|AA025|AA026|AA027
1342A EGYPTIAN HIEROGLYPH |AA028|AA029|AA030|AA031|AA032|V011D|VERTICAL JOINER|HORIZONTAL JOINER
13432 EGYPTIAN HIEROGLYPH INSERT AT |TOP START|BOTTOM START|TOP END|BOTTOM END
13436 EGYPTIAN HIEROGLYPH |OVERLAY MIDDLE|BEGIN SEGMENT|END SEGMENT|INSERT AT MIDDLE|INSERT AT TOP
1343B EGYPTIAN HIEROGLYPH |INSERT AT BOTTOM|BEGIN ENCLOSURE|END ENCLOSURE|BEGIN WALLED ENCLOSURE
1343F EGYPTIAN HIEROGLYPH |END WALLED ENCLOSURE|MIRROR HORIZONTALLY|FULL BLANK
13442 EGYPTIAN HIEROGLYPH |HALF BLANK|LOST SIGN|HALF LOST SIGN|TALL LOST SIGN|WIDE LOST SIGN
13447 EGYPTIAN HIEROGLYPH MODIFIER DAMAGED AT |TOP START|BOTTOM START|START
1344A EGYPTIAN HIEROGLYPH MODIFIER DAMAGED AT |TOP END|TOP|BOTTOM START AND TOP END|START AND TOP
1344E EGYPTIAN HIEROGLYPH MODIFIER DAMAGED AT |BOTTOM END|TOP START AND BOTTOM END|BOTTOM
13451 EGYPTIAN HIEROGLYPH MODIFIER DAMAGED AT |START AND BOTTOM|END|TOP AND END|BOTTOM AND END
13455 |EGYPTIAN HIEROGLYPH MODIFIER DAMAGED
14400 ANATOLIAN HIEROGLYPH |A001|A002|A003|A004|A005|A006|A007|A008|A009|A010
1440A ANATOLIAN HIEROGLYPH |A010A|A011|A012|A013|A014|A015|A016|A017|A018|A019|A020|A021|A022|A023
14418 ANATOLIAN HIEROGLYPH |A024|A025|A026|A026A|A027|A028|A029|A030|A031|A032|A033|A034|A035|A036
14426 ANATOLIAN HIEROGLYPH |A037|A038|A039|A039A|A040|A041|A041A|A042|A043|A044|A045|A045A|A046
14433 ANATOLIAN HIEROGLYPH |A046A|A046B|A047|A048|A049|A050|A051|A052|A053|A054|A055|A056|A057
14440 ANATOLIAN HIEROGLYPH |A058|A059|A060|A061|A062|A063|A064|A065|A066|A066A|A066B|A066C|A067
1444D ANATOLIAN HIEROGLYPH |A068|A069|A070|A071|A072|A073|A074|A075|A076|A077|A078|A079|A080|A081
1445B ANATOLIAN HIEROGLYPH |A082|A083|A084|A085|A086|A087|A088|A089|A090|A091|A092|A093|A094|A095
14469 ANATOLIAN HIEROGLYPH |A096|A097|A097A|A098|A098A|A099|A100|A100A|A101|A101A|A102|A102A|A103
14476 ANATOLIAN HIEROGLYPH |A104|A104A|A104B|A104C|A105|A105A|A105B|A106|A107|A107A|A107B|A107C
14482 ANATOLIAN HIEROGLYPH |A108|A109|A110|A110A|A110B|A111|A112|A113|A114|A115|A115A|A116|A117
1448F ANATOLIAN HIEROGLYPH |A118|A119|A120|A121|A122|A123|A124|A125|A125A|A126|A127|A128|A129|A130
1449D ANATOLIAN HIEROGLYPH |A131|A132|A133|A134|A135|A135A|A136|A137|A138|A139|A140|A141|A142|A143
144AB ANATOLIAN HIEROGLYPH |A144|A145|A146|A147|A148|A149|A150|A151|A152|A153|A154|A155|A156|A157
144B9 ANATOLIAN HIEROGLYPH |A158|A159|A160|A161|A162|A163|A164|A165|A166|A167|A168|A169|A170|A171
144C7 ANATOLIAN HIEROGLYPH |A172|A173|A174|A175|A176|A177|A178|A179|A180|A181|A182|A183|A184|A185
144D5 ANATOLIAN HIEROGLYPH |A186|A187|A188|A189|A190|A191|A192|A193|A194|A195|A196|A197|A198|A199
144E3 ANATOLIAN HIEROGLYPH |A200|A201|A202|A202A|A202B|A203|A204|A205|A206|A207|A207A|A208|A209
144F0 ANATOLIAN HIEROGLYPH |A209A|A210|A211|A212|A213|A214|A215|A215A|A216|A216A|A217|A218|A219
144FD ANATOLIAN HIEROGLYPH |A220|A221|A222|A223|A224|A225|A226|A227|A227A|A228|A229|A230|A231|A232
1450B ANATOLIAN HIEROGLYPH |A233|A234|A235|A236|A237|A238|A239|A240|A241|A242|A243|A244|A245|A246
14519 ANATOLIAN HIEROGLYPH |A247|A248|A249|A250|A251|A252|A253|A254|A255|A256|A257|A258|A259|A260
14527 ANATOLIAN HIEROGLYPH |A261|A262|A263|A264|A265|A266|A267|A267A|A268|A269|A270|A271|A272|A273
14535 ANATOLIAN HIEROGLYPH |A274|A275|A276|A277|A278|A279|A280|A281|A282|A283|A284|A285|A286|A287
14543 ANATOLIAN HIEROGLYPH |A288|A289|A289A|A290|A291|A292|A293|A294|A294A|A295|A296|A297|A298
14550 ANATOLIAN HIEROGLYPH |A299|A299A|A300|A301|A302|A303|A304|A305|A306|A307|A308|A309|A309A
1455D ANATOLIAN HIEROGLYPH |A310|A311|A312|A313|A314|A315|A316|A317|A318|A319|A320|A321|A322|A323
1456B ANATOLIAN HIEROGLYPH |A324|A325|A326|A327|A328|A329|A329A|A330|A331|A332A|A332B|A332C|A333
14578 ANATOLIAN HIEROGLYPH |A334|A335|A336|A336A|A336B|A336C|A337|A338|A339|A340|A341|A342|A343
14585 ANATOLIAN HIEROGLYPH |A344|A345|A346|A347|A348|A349|A350|A351|A352|A353|A354|A355|A356|A357
14593 ANATOLIAN HIEROGLYPH |A358|A359|A359A|A360|A361|A362|A363|A364|A364A|A365|A366|A367|A368
145A0 ANATOLIAN HIEROGLYPH |A368A|A369|A370|A371|A371A|A372|A373|A374|A375|A376|A377|A378|A379
145AD ANATOLIAN HIEROGLYPH |A380|A381|A381A|A382|A383 RA OR RI|A383A|A384|A385|A386|A386A|A387
145B8 ANATOLIAN HIEROGLYPH |A388|A389|A390|A391|A392|A393 EIGHT|A394|A395|A396|A397|A398|A399|A400
145C5 ANATOLIAN HIEROGLYPH |A401|A402|A403|A404|A405|A406|A407|A408|A409|A410 BEGIN LOGOGRAM MARK
145CF ANATOLIAN HIEROGLYPH |A410A END LOGOGRAM MARK|A411|A412|A413|A414|A415|A416|A417|A418
145D8 ANATOLIAN HIEROGLYPH |A419|A420|A421|A422|A423|A424|A425|A426|A427|A428|A429|A430|A431|A432
145E6 ANATOLIAN HIEROGLYPH |A433|A434|A435|A436|A437|A438|A439|A440|A441|A442|A443|A444|A445|A446
145F4 ANATOLIAN HIEROGLYPH |A447|A448|A449|A450|A450A|A451|A452|A453|A454|A455|A456|A457|A457A
14601 ANATOLIAN HIEROGLYPH |A458|A459|A460|A461|A462|A463|A464|A465|A466|A467|A468|A469|A470|A471
1460F ANATOLIAN HIEROGLYPH |A472|A473|A474|A475|A476|A477|A478|A479|A480|A481|A482|A483|A484|A485
1461D ANATOLIAN HIEROGLYPH |A486|A487|A488|A489|A490|A491|A492|A493|A494|A495|A496|A497|A501|A502
1462B ANATOLIAN HIEROGLYPH |A503|A504|A505|A506|A507|A508|A509|A510|A511|A512|A513|A514|A515|A516
14639 ANATOLIAN HIEROGLYPH |A517|A518|A519|A520|A521|A522|A523|A524|A525|A526|A527|A528|A529|A530
16100 GURUNG KHEMA LETTER |A|KA|KHA|GA|GHA|NGA|CA|CHA|JA|JHA
1610A GURUNG KHEMA LETTER |HA|TTA|TTHA|DDA|DDHA|VA|TA|THA|DA|DHA|NA|PA|PHA|BA|BHA|MA|YA|RA|LA|SA
1611E GURUNG KHEMA VOWEL SIGN |AA|I|II|U|UU|E|EE|AI|O|OO|AU
16129 |GURUNG KHEMA VOWEL LENGTH MARK
1612A GURUNG KHEMA CONSONANT SIGN MEDIAL |YA|VA|HA
1612D GURUNG KHEMA |SIGN ANUSVARA|CONSONANT SIGN MEDIAL RA|SIGN THOLHOMA
16130 GURUNG KHEMA DIGIT |ZERO|ONE|TWO|THREE|FOUR|FIVE|SIX|SEVEN|EIGHT|NINE
16800 BAMUM LETTER PHASE-A |NGKUE MFON|GBIEE FON|PON MFON PIPAEMGBIEE
16803 BAMUM LETTER PHASE-A |PON MFON PIPAEMBA|NAA MFON|SHUENSHUET|TITA MFON|NZA MFON|SHINDA PA NJI
16809 BAMUM LETTER PHASE-A |PON PA NJI PIPAEMGBIEE|PON PA NJI PIPAEMBA|MAEMBGBIEE|TU MAEMBA|NGANGU
1680E BAMUM LETTER PHASE-A |MAEMVEUX|MANSUAE|MVEUAENGAM|SEUNYAM|NTOQPEN|KEUKEUTNDA|NKINDI|SUU
16816 BAMUM LETTER PHASE-A |NGKUENZEUM|LAPAQ|LET KUT|NTAP MFAA|MAEKEUP|PASHAE|GHEUAERAE|PAMSHAE
1681E BAMUM LETTER PHASE-A |MON NGGEUAET|NZUN MEUT|U YUQ NAE|GHEUAEGHEUAE|NTAP NTAA|SISA|MGBASA
16825 BAMUM LETTER PHASE-A |MEUNJOMNDEUQ|MOOMPUQ|KAFA|PA LEERAEWA|NDA LEERAEWA|PET|MAEMKPEN|NIKA
1682D BAMUM LETTER PHASE-A |PUP|TUAEP|LUAEP|SONJAM|TEUTEUWEN|MAENYI|KET|NDAANGGEUAET|KUOQ|MOOMEUT
16837 BAMUM LETTER PHASE-A |SHUM|LOMMAE|FIRI|ROM|KPOQ|SOQ|MAP PIEET|SHIRAE|NTAP|SHOQ NSHUT YUM
16841 BAMUM LETTER PHASE-A |NYIT MONGKEUAEQ|PAARAE|NKAARAE|UNKNOWN|NGGEN|MAESI|NJAM|MBANYI
16849 BAMUM LETTER PHASE-A |NYET|TEUAEN|SOT|PAAM|NSHIEE|MAEM|NYI|KAQ|NSHA|VEE|LU|NEN|NAQ|MBAQ
16857 BAMUM LETTER PHASE-B |NSHUET|TU MAEMGBIEE|SIEE|SET TU|LOM NTEUM|MBA MAELEE
1685D BAMUM LETTER PHASE-B |KIEEM|YEURAE|MBAARAE|KAM|PEESHI|YAFU LEERAEWA|LAM NSHUT NYAM
16864 BAMUM LETTER PHASE-B |NTIEE SHEUOQ|NDU NJAA|GHEUGHEUAEM|PIT|TU NSIEE|SHET NJAQ|SHEUAEQTU
1686B BAMUM LETTER PHASE-B |MFON TEUAEQ|MBIT MBAAKET|NYI NTEUM|KEUPUQ|GHEUGHEN|KEUYEUX|LAANAE
16872 BAMUM LETTER PHASE-B |PARUM|VEUM|NGKINDI MVOP|NGGEU MBU|WUAET|SAKEUAE|TAAM|MEUQ|NGGUOQ
1687B BAMUM LETTER PHASE-B |NGGUOQ LARGE|MFIYAQ|SUE|MBEURI|MONTIEEN|NYAEMAE|PUNGAAM|MEUT NGGEET
16883 BAMUM LETTER PHASE-B |FEUX|MBUOQ|FEE|KEUAEM|MA NJEUAENA|MA NJUQA|LET|NGGAAM|NSEN|MA|KIQ|NGOM
1688F BAMUM LETTER PHASE-C |NGKUE MAEMBA|NZA|YUM|WANGKUOQ|NGGEN|NDEUAEREE
16895 BAMUM LETTER PHASE-C |NGKAQ|GHARAE|MBEEKEET|GBAYI|NYIR MKPARAQ MEUN|NTU MBIT|MBEUM|PIRIEEN
1689D BAMUM LETTER PHASE-C |NDOMBU|MBAA CABBAGE-TREE|KEUSHEUAEP|GHAP|KEUKAQ|YU MUOMAE|NZEUM|MBUE
168A5 BAMUM LETTER PHASE-C |NSEUAEN|MBIT|YEUQ|KPARAQ|KAA|SEUX|NDIDA|TAASHAE|NJUEQ|TITA YUE|SUAET
168B0 BAMUM LETTER PHASE-C |NGGUAEN NYAM|VEUX|NANSANAQ|MA KEUAERI|NTAA|NGGUON|LAP|MBIRIEEN|MGBASAQ
168B9 BAMUM LETTER PHASE-C |NTEUNGBA|TEUTEUX|NGGUM|FUE|NDEUT|NSA|NSHAQ|BUNG|VEUAEPEN|MBERAE|RU
168C4 BAMUM LETTER PHASE-C |NJAEM|LAM|TITUAEP|NSUOT NGOM|NJEEEE|KET|NGGU|MAESI|MBUAEM|LU|KUT|NJAM
168D0 BAMUM LETTER PHASE-C |NGOM|WUP|NGGUEET|NSOM|NTEN|KUOP NKAARAE|NSUN|NDAM|MA NSIEE|YAA|NDAP
168DB BAMUM LETTER PHASE-C |SHUEQ|SETFON|MBI|MAEMBA|MBANYI|KEUSEUX|MBEUX|KEUM|MBAA PICKET|YUWOQ
168E5 BAMUM LETTER PHASE-C |NJEUX|MIEE|MUAE|SHIQ|KEN LAW|KEN FATIGUE|NGAQ|NAQ|LIQ|PIN|PEN|TET
168F1 BAMUM LETTER PHASE-D |MBUO|WAP|NJI|MFON|NJIEE|LIEE|NJEUT
168F8 BAMUM LETTER PHASE-D |NSHEE|NGGAAMAE|NYAM|WUAEN|NGKUN|SHEE|NGKAP|KEUAETMEUN|TEUT|SHEUAE|NJAP
16903 BAMUM LETTER PHASE-D |SUE|KET|YAEMMAE|KUOM|SAP|MFEUT|NDEUX|MALEERI|MEUT|SEUAEQ|YEN|NJEUAEM
1690F BAMUM LETTER PHASE-D |KEUOT MBUAE|NGKEURI|TU|GHAA|NGKYEE|FEUFEUAET|NDEE|MGBOFUM|LEUAEP
16918 BAMUM LETTER PHASE-D |NDON|MONI|MGBEUN|PUUT|MGBIEE|MFO|LUM|NSIEEP|MBAA|KWAET|NYET|TEUAEN|SOT
16925 BAMUM LETTER PHASE-D |YUWOQ|KEUM|RAEM|TEEEE|NGKEUAEQ|MFEUAE|NSIEET|KEUP|PIP|PEUTAE|NYUE|LET
16931 BAMUM LETTER PHASE-D |NGGAAM|MFIEE|NGGWAEN|YUOM|PAP|YUOP|NDAM|NTEUM|SUAE|KUN|NGGEUX|NGKIEE
1693D BAMUM LETTER PHASE-D |TUOT|MEUN|KUQ|NSUM|TEUN|MAENJET|NGGAP|LEUM|NGGUOM|NSHUT|NJUEQ|GHEUAE
16949 BAMUM LETTER PHASE-D |KU|REN OLD|TAE|TOQ|NYI|RII|LEEEE|MEEEE|M|SUU|MU|SHII|SHEUX|KYEE|NU
16958 BAMUM LETTER PHASE-D |SHU|NTEE|PEE|NI|SHOQ|PUQ|MVOP|LOQ|REN MUCH|TI|NTUU|MBAA SEVEN|SAQ|FAA
16966 BAMUM LETTER PHASE-E |NDAP|TOON|MBEUM|LAP|VOM|LOON|PAA|SOM|RAQ|NSHUOP|NDUN|PUAE
16972 BAMUM LETTER PHASE-E |TAM|NGKA|KPEUX|WUO|SEE|NGGEUAET|PAAM|TOO|KUOP|LOM|NSHIEE|NGOP|MAEM
1697F BAMUM LETTER PHASE-E |NGKEUX|NGOQ|NSHUE|RIMGBA|NJEUX|PEEM|SAA|NGGURAE|MGBA|GHEUX|NGKEUAEM
1698A BAMUM LETTER PHASE-E |NJAEMLI|MAP|LOOT|NGGEEEE|NDIQ|TAEN NTEUM|SET|PUM|NDAA SOFTNESS
16993 BAMUM LETTER PHASE-E |NGGUAESHAE NYAM|YIEE|GHEUN|TUAE|YEUAE|PO|TUMAE|KEUAE|SUAEN|TEUAEQ
1699D BAMUM LETTER PHASE-E |VEUAE|WEUX|LAAM|PU|TAAQ|GHAAMAE|NGEUREUT|SHEUAEQ|MGBEN|MBEE|NZAQ|NKOM
169A9 BAMUM LETTER PHASE-E |GBET|TUM|KUET|YAP|NYI CLEAVER|YIT|MFEUQ|NDIAQ|PIEEQ|YUEQ|LEUAEM|FUE
169B5 BAMUM LETTER PHASE-E |GBEUX|NGKUP|KET|MAE|NGKAAMI|GHET|FA|NTUM|PEUT|YEUM|NGGEUAE|NYI BETWEEN
169C1 BAMUM LETTER PHASE-E |NZUQ|POON|MIEE|FUET|NAE|MUAE|GHEUAE|FU I|MVI|PUAQ|NGKUM|KUT|PIET
169CE BAMUM LETTER PHASE-E |NTAP|YEUAET|NGGUP|PA PEOPLE|FU CALL|FOM|NJEE|A|TOQ|O|I|LAQ|PA PLURAL
169DB BAMUM LETTER PHASE-E |TAA|TAQ|NDAA MY HOUSE|SHIQ|YEUX|NGUAE|YUAEN|YOQ SWIMMING|YOQ COVER
169E4 BAMUM LETTER PHASE-E |YUQ|YUN|KEUX|PEUX|NJEE EPOCH|PUE|WUE|FEE|VEE|LU|MI|REUX|RAE|NGUAET
169F2 BAMUM LETTER PHASE-E |NGA|SHO|SHOQ|FU REMEDY|NA|PI|LOQ|KO|MEN|MA|MAQ|TEU|KI|MON|TEN|FAQ|GHOM
16A03 BAMUM LETTER PHASE-F |KA|U|KU|EE|REE
16A08 BAMUM LETTER PHASE-F |TAE|NYI|LA|RII|RIEE|MEEEE|TAA|NDAA|NJAEM|M|SUU|SHII|SI|SEUX|KYEE|KET
16A18 BAMUM LETTER PHASE-F |NUAE|NU|NJUAE|YOQ|SHU|YA|NSHA|PEUX|NTEE|WUE|PEE|RU|NI|REUX|KEN|NGKWAEN
16A28 BAMUM LETTER PHASE-F |NGGA|SHO|PUAE|FOM|WA|LI|LOQ|KO|MBEN|REN|MA|MO|MBAA|TET|KPA|SAMBA|VUEQ
16A40 MRO LETTER |TA|NGI|YO|MIM|BA|DA|A|PHI|KHAI
16A49 MRO LETTER |HAO|DAI|CHU|KEAAE|OL|MAEM|NIN|PA|OO|O|RO|SHI|THEA|EA|WA|E|KO|LAN|LA|HAI|RI|TEK
16A60 MRO DIGIT |ZERO|ONE|TWO|THREE|FOUR|FIVE|SIX|SEVEN|EIGHT|NINE
16A6E MRO |DANDA|DOUBLE DANDA
16A70 TANGSA LETTER |OZ|OC|OQ|OX|AZ|AC|AQ|AX|VZ|VC|VQ|VX|EZ|EC|EQ|EX|IZ|IC|IQ|IX|UZ|UC
16A86 TANGSA LETTER |UQ|UX|AWZ|AWC|AWQ|AWX|UIZ|UIC|UIQ|UIX|FINAL NG|LONG UEX|SHORT UEZ|SHORT AWX
16A94 TANGSA LETTER |UEC|UEZ|UEQ|UEX|UIUZ|UIUC|UIUQ|UIUX|MZ|MC|MQ|MX|KA|KHA|GA|NGA|SA|YA|WA|PA|NYA
16AA9 TANGSA LETTER |PHA|BA|MA|NA|HA|LA|HTA|TA|DA|RA|NHA|SHA|CA|TSA|GHA|HTTA|THA|XA|FA|DHA|CHA|ZA
16AC0 TANGSA DIGIT |ZERO|ONE|TWO|THREE|FOUR|FIVE|SIX|SEVEN|EIGHT|NINE
16AD0 BASSA VAH LETTER |ENNI|KA|SE|FA|MBE|YIE|GAH|DHII
16AD8 BASSA VAH LETTER |KPAH|JO|HWAH|WA|ZO|GBU|DO|CE|UWU|TO|BA|VU|YEIN|PA|WADDA|A|O|OO|U|EE|E|I
16AF0 BASSA VAH COMBINING |HIGH TONE|LOW TONE|MID TONE|LOW-MID TONE|HIGH-LOW TONE
16AF5 |BASSA VAH FULL STOP
16B00 PAHAWH HMONG VOWEL |KEEB|KEEV|KIB|KIV|KAUB|KAUV|KUB|KUV|KEB|KEV|KAIB|KAIV|KOOB
16B0D PAHAWH HMONG VOWEL |KOOV|KAWB|KAWV|KUAB|KUAV|KOB|KOV|KIAB|KIAV|KAB|KAV|KWB|KWV|KAAB|KAAV
16B1C PAHAWH HMONG CONSONANT |VAU|NTSAU|LAU|HAU|NLAU|RAU
16B22 PAHAWH HMONG CONSONANT |NKAU|QHAU|YAU|HLAU|MAU|CHAU|NCHAU|HNAU|PLHAU|NTHAU|NAU|AU|XAU|CAU
16B30 PAHAWH HMONG MARK CIM |TUB|SO|KES|KHAV|SUAM|HOM|TAUM
16B37 PAHAWH HMONG SIGN |VOS THOM|VOS TSHAB CEEB|CIM CHEEM|VOS THIAB|VOS FEEM
16B3C PAHAWH HMONG SIGN XYEEM |NTXIV|RHO|TOV|FAIB
16B40 PAHAWH HMONG SIGN |VOS SEEV|MEEJ SUAB|VOS NRUA|IB YAM|XAUS|CIM TSOV ROG
16B50 PAHAWH HMONG DIGIT |ZERO|ONE|TWO|THREE|FOUR|FIVE|SIX|SEVEN|EIGHT|NINE
16B5B |PAHAWH HMONG NUMBER TENS
16B5C PAHAWH HMONG NUMBER |HUNDREDS|TEN THOUSANDS|MILLIONS|HUNDRED MILLIONS|TEN BILLIONS|TRILLIONS
16B63 PAHAWH HMONG SIGN |VOS LUB|XYOO|HLI|THIRD-STAGE HLI
16B67 PAHAWH HMONG SIGN |ZWJ THAJ|HNUB|NQIG|XIAB|NTUJ|AV|TXHEEJ CEEV|MEEJ TSEEB|TAU|LOS|MUS
16B72 PAHAWH HMONG SIGN CIM |HAIS LUS NTOG NTOG|CUAM TSHOOJ|TXWV|TXWV CHWV|PUB DAWB|NRES TOS
16B7D PAHAWH HMONG CLAN SIGN |TSHEEJ|YEEG|LIS|LAUJ
16B81 PAHAWH HMONG CLAN SIGN |XYOOJ|KOO|HAWJ|MUAS|THOJ|TSAB|PHAB|KHAB|HAM|VAJ|FAJ|YAJ|TSWB|KWM|VWJ
16D40 KIRAT RAI SIGN |ANUSVARA|TONPI|VISARGA
16D43 KIRAT RAI LETTER |A|KA|KHA|GA|GHA|NGA|CA|CHA|JA|JHA|NYA
16D4E KIRAT RAI LETTER |TTA|TTHA|DDA|DDHA|TA|THA|DA|DHA|NA|PA|PHA|BA|BHA|MA|YA|RA|LA|VA|SA|SHA|HA
16D63 KIRAT RAI VOWEL SIGN |AA|I|U|UE|E|AI|O|AU
16D6B KIRAT RAI |SIGN VIRAMA|SIGN SAAT|SIGN YUPI|DANDA|DOUBLE DANDA
16D70 KIRAT RAI DIGIT |ZERO|ONE|TWO|THREE|FOUR|FIVE|SIX|SEVEN|EIGHT|NINE
16E40 MEDEFAIDRIN CAPITAL LETTER |M|S|V|W
16E44 MEDEFAIDRIN CAPITAL LETTER |ATIU|Z|KP|P|T|G|F|I|K|A|J|E|B|C|U|YU|L|Q|HP|NY|X|D|OE|N|R|O|AI|Y
16E60 MEDEFAIDRIN SMALL LETTER |M|S|V
16E63 MEDEFAIDRIN SMALL LETTER |W|ATIU|Z|KP|P|T|G|F|I|K|A|J|E|B|C|U|YU|L|Q|HP|NY|X|D|OE|N|R|O|AI|Y
16E80 MEDEFAIDRIN DIGIT |ZERO|ONE|TWO|THREE|FOUR|FIVE|SIX|SEVEN|EIGHT|NINE
16E8A MEDEFAIDRIN NUMBER |TEN|ELEVEN|TWELVE|THIRTEEN|FOURTEEN|FIFTEEN|SIXTEEN|SEVENTEEN|EIGHTEEN
16E93 MEDEFAIDRIN |NUMBER NINETEEN|DIGIT ONE ALTERNATE FORM|DIGIT TWO ALTERNATE FORM
16E96 MEDEFAIDRIN |DIGIT THREE ALTERNATE FORM|COMMA|FULL STOP|SYMBOL AIVA|EXCLAMATION OH
16F00 MIAO LETTER |PA|BA|YI PA|PLA|MA|MHA|ARCHAIC MA|FA|VA|VFA|TA|DA|YI TTA
16F0D MIAO LETTER |YI TA|TTA|DDA|NA|NHA|YI NNA|ARCHAIC NA|NNA|NNHA|LA|LYA|LHA|LHYA|TLHA|DLHA|TLHYA
16F1D MIAO LETTER |DLHYA|KA|GA|YI KA|QA|QGA|NGA|NGHA|ARCHAIC NGA|HA|XA|GHA|GHHA|TSSA|DZZA|NYA
16F2D MIAO LETTER |NYHA|TSHA|DZHA|YI TSHA|YI DZHA|REFORMED TSHA|SHA|SSA|ZHA|ZSHA|TSA|DZA|YI TSA
16F3A MIAO LETTER |SA|ZA|ZSA|ZZA|ZZSA|ARCHAIC ZZA|ZZYA|ZZSYA|WA|AH|HHA|BRI|SYI|DZYI|TE|TSE|RTE
16F4F MIAO |SIGN CONSONANT MODIFIER BAR|LETTER NASALIZATION|SIGN ASPIRATION
16F52 MIAO SIGN REFORMED |VOICING|ASPIRATION
16F54 MIAO VOWEL SIGN |A|AA|AHH|AN|ANG|O|OO|WO|W|E|EN|ENG
16F60 MIAO VOWEL SIGN |OEY|I|IA|IAN|IANG|IO|IE|II|IU|ING|U|UA|UAN|UANG|UU|UEI|UNG|Y|YI|AE|AEE|ERR
16F76 MIAO VOWEL SIGN |ROUNDED ERR|ER|ROUNDED ER|AI|EI|AU|OU|N|NG|UOG|YUI|OG|OER|VW|IG|EA|IONG|UI
16F8F MIAO TONE |RIGHT|TOP RIGHT|ABOVE|BELOW
16F93 MIAO LETTER TONE-|2|3|4|5|6|7|8
16F9A MIAO LETTER REFORMED TONE-|1|2|4|5|6|8
16FE0 |TANGUT ITERATION MARK|NUSHU ITERATION MARK
16FE2 OLD CHINESE |HOOK MARK|ITERATION MARK
16FE4 |KHITAN SMALL SCRIPT FILLER
16FF0 VIETNAMESE ALTERNATE READING MARK |CA|NHAY
18800 TANGUT COMPONENT-|001|002|003|004|005|006|007|008|009|010|011|012
1880C TANGUT COMPONENT-|013|014|015|016|017|018|019|020|021|022|023|024|025|026|027|028|029|030
1881E TANGUT COMPONENT-|031|032|033|034|035|036|037|038|039|040|041|042|043|044|045|046|047|048
18830 TANGUT COMPONENT-|049|050|051|052|053|054|055|056|057|058|059|060|061|062|063|064|065|066
18842 TANGUT COMPONENT-|067|068|069|070|071|072|073|074|075|076|077|078|079|080|081|082|083|084
18854 TANGUT COMPONENT-|085|086|087|088|089|090|091|092|093|094|095|096|097|098|099|100|101|102
18866 TANGUT COMPONENT-|103|104|105|106|107|108|109|110|111|112|113|114|115|116|117|118|119|120
18878 TANGUT COMPONENT-|121|122|123|124|125|126|127|128|129|130|131|132|133|134|135|136|137|138
1888A TANGUT COMPONENT-|139|140|141|142|143|144|145|146|147|148|149|150|151|152|153|154|155|156
1889C TANGUT COMPONENT-|157|158|159|160|161|162|163|164|165|166|167|168|169|170|171|172|173|174
188AE TANGUT COMPONENT-|175|176|177|178|179|180|181|182|183|184|185|186|187|188|189|190|191|192
188C0 TANGUT COMPONENT-|193|194|195|196|197|198|199|200|201|202|203|204|205|206|207|208|209|210
188D2 TANGUT COMPONENT-|211|212|213|214|215|216|217|218|219|220|221|222|223|224|225|226|227|228
188E4 TANGUT COMPONENT-|229|230|231|232|233|234|235|236|237|238|239|240|241|242|243|244|245|246
188F6 TANGUT COMPONENT-|247|248|249|250|251|252|253|254|255|256|257|258|259|260|261|262|263|264
18908 TANGUT COMPONENT-|265|266|267|268|269|270|271|272|273|274|275|276|277|278|279|280|281|282
1891A TANGUT COMPONENT-|283|284|285|286|287|288|289|290|291|292|293|294|295|296|297|298|299|300
1892C TANGUT COMPONENT-|301|302|303|304|305|306|307|308|309|310|311|312|313|314|315|316|317|318
1893E TANGUT COMPONENT-|319|320|321|322|323|324|325|326|327|328|329|330|331|332|333|334|335|336
18950 TANGUT COMPONENT-|337|338|339|340|341|342|343|344|345|346|347|348|349|350|351|352|353|354
18962 TANGUT COMPONENT-|355|356|357|358|359|360|361|362|363|364|365|366|367|368|369|370|371|372
18974 TANGUT COMPONENT-|373|374|375|376|377|378|379|380|381|382|383|384|385|386|387|388|389|390
18986 TANGUT COMPONENT-|391|392|393|394|395|396|397|398|399|400|401|402|403|404|405|406|407|408
18998 TANGUT COMPONENT-|409|410|411|412|413|414|415|416|417|418|419|420|421|422|423|424|425|426
189AA TANGUT COMPONENT-|427|428|429|430|431|432|433|434|435|436|437|438|439|440|441|442|443|444
189BC TANGUT COMPONENT-|445|446|447|448|449|450|451|452|453|454|455|456|457|458|459|460|461|462
189CE TANGUT COMPONENT-|463|464|465|466|467|468|469|470|471|472|473|474|475|476|477|478|479|480
189E0 TANGUT COMPONENT-|481|482|483|484|485|486|487|488|489|490|491|492|493|494|495|496|497|498
189F2 TANGUT COMPONENT-|499|500|501|502|503|504|505|506|507|508|509|510|511|512|513|514|515|516
18A04 TANGUT COMPONENT-|517|518|519|520|521|522|523|524|525|526|527|528|529|530|531|532|533|534
18A16 TANGUT COMPONENT-|535|536|537|538|539|540|541|542|543|544|545|546|547|548|549|550|551|552
18A28 TANGUT COMPONENT-|553|554|555|556|557|558|559|560|561|562|563|564|565|566|567|568|569|570
18A3A TANGUT COMPONENT-|571|572|573|574|575|576|577|578|579|580|581|582|583|584|585|586|587|588
18A4C TANGUT COMPONENT-|589|590|591|592|593|594|595|596|597|598|599|600|601|602|603|604|605|606
18A5E TANGUT COMPONENT-|607|608|609|610|611|612|613|614|615|616|617|618|619|620|621|622|623|624
18A70 TANGUT COMPONENT-|625|626|627|628|629|630|631|632|633|634|635|636|637|638|639|640|641|642
18A82 TANGUT COMPONENT-|643|644|645|646|647|648|649|650|651|652|653|654|655|656|657|658|659|660
18A94 TANGUT COMPONENT-|661|662|663|664|665|666|667|668|669|670|671|672|673|674|675|676|677|678
18AA6 TANGUT COMPONENT-|679|680|681|682|683|684|685|686|687|688|689|690|691|692|693|694|695|696
18AB8 TANGUT COMPONENT-|697|698|699|700|701|702|703|704|705|706|707|708|709|710|711|712|713|714
18ACA TANGUT COMPONENT-|715|716|717|718|719|720|721|722|723|724|725|726|727|728|729|730|731|732
18ADC TANGUT COMPONENT-|733|734|735|736|737|738|739|740|741|742|743|744|745|746|747|748|749|750
18AEE TANGUT COMPONENT-|751|752|753|754|755|756|757|758|759|760|761|762|763|764|765|766|767|768
18B00 KHITAN SMALL SCRIPT CHARACTER-|18B00|18B01|18B02|18B03|18B04|18B05|18B06|18B07|18B08|18B09
18B0A KHITAN SMALL SCRIPT CHARACTER-|18B0A|18B0B|18B0C|18B0D|18B0E|18B0F|18B10|18B11|18B12|18B13
18B14 KHITAN SMALL SCRIPT CHARACTER-|18B14|18B15|18B16|18B17|18B18|18B19|18B1A|18B1B|18B1C|18B1D
18B1E KHITAN SMALL SCRIPT CHARACTER-|18B1E|18B1F|18B20|18B21|18B22|18B23|18B24|18B25|18B26|18B27
18B28 KHITAN SMALL SCRIPT CHARACTER-|18B28|18B29|18B2A|18B2B|18B2C|18B2D|18B2E|18B2F|18B30|18B31
18B32 KHITAN SMALL SCRIPT CHARACTER-|18B32|18B33|18B34|18B35|18B36|18B37|18B38|18B39|18B3A|18B3B
18B3C KHITAN SMALL SCRIPT CHARACTER-|18B3C|18B3D|18B3E|18B3F|18B40|18B41|18B42|18B43|18B44|18B45
18B46 KHITAN SMALL SCRIPT CHARACTER-|18B46|18B47|18B48|18B49|18B4A|18B4B|18B4C|18B4D|18B4E|18B4F
18B50 KHITAN SMALL SCRIPT CHARACTER-|18B50|18B51|18B52|18B53|18B54|18B55|18B56|18B57|18B58|18B59
18B5A KHITAN SMALL SCRIPT CHARACTER-|18B5A|18B5B|18B5C|18B5D|18B5E|18B5F|18B60|18B61|18B62|18B63
18B64 KHITAN SMALL SCRIPT CHARACTER-|18B64|18B65|18B66|18B67|18B68|18B69|18B6A|18B6B|18B6C|18B6D
18B6E KHITAN SMALL SCRIPT CHARACTER-|18B6E|18B6F|18B70|18B71|18B72|18B73|18B74|18B75|18B76|18B77
18B78 KHITAN SMALL SCRIPT CHARACTER-|18B78|18B79|18B7A|18B7B|18B7C|18B7D|18B7E|18B7F|18B80|18B81
18B82 KHITAN SMALL SCRIPT CHARACTER-|18B82|18B83|18B84|18B85|18B86|18B87|18B88|18B89|18B8A|18B8B
18B8C KHITAN SMALL SCRIPT CHARACTER-|18B8C|18B8D|18B8E|18B8F|18B90|18B91|18B92|18B93|18B94|18B95
18B96 KHITAN SMALL SCRIPT CHARACTER-|18B96|18B97|18B98|18B99|18B9A|18B9B|18B9C|18B9D|18B9E|18B9F
18BA0 KHITAN SMALL SCRIPT CHARACTER-|18BA0|18BA1|18BA2|18BA3|18BA4|18BA5|18BA6|18BA7|18BA8|18BA9
18BAA KHITAN SMALL SCRIPT CHARACTER-|18BAA|18BAB|18BAC|18BAD|18BAE|18BAF|18BB0|18BB1|18BB2|18BB3
18BB4 KHITAN SMALL SCRIPT CHARACTER-|18BB4|18BB5|18BB6|18BB7|18BB8|18BB9|18BBA|18BBB|18BBC|18BBD
18BBE KHITAN SMALL SCRIPT CHARACTER-|18BBE|18BBF|18BC0|18BC1|18BC2|18BC3|18BC4|18BC5|18BC6|18BC7
18BC8 KHITAN SMALL SCRIPT CHARACTER-|18BC8|18BC9|18BCA|18BCB|18BCC|18BCD|18BCE|18BCF|18BD0|18BD1
18BD2 KHITAN SMALL SCRIPT CHARACTER-|18BD2|18BD3|18BD4|18BD5|18BD6|18BD7|18BD8|18BD9|18BDA|18BDB
18BDC KHITAN SMALL SCRIPT CHARACTER-|18BDC|18BDD|18BDE|18BDF|18BE0|18BE1|18BE2|18BE3|18BE4|18BE5
18BE6 KHITAN SMALL SCRIPT CHARACTER-|18BE6|18BE7|18BE8|18BE9|18BEA|18BEB|18BEC|18BED|18BEE|18BEF
18BF0 KHITAN SMALL SCRIPT CHARACTER-|18BF0|18BF1|18BF2|18BF3|18BF4|18BF5|18BF6|18BF7|18BF8|18BF9
18BFA KHITAN SMALL SCRIPT CHARACTER-|18BFA|18BFB|18BFC|18BFD|18BFE|18BFF|18C00|18C01|18C02|18C03
18C04 KHITAN SMALL SCRIPT CHARACTER-|18C04|18C05|18C06|18C07|18C08|18C09|18C0A|18C0B|18C0C|18C0D
18C0E KHITAN SMALL SCRIPT CHARACTER-|18C0E|18C0F|18C10|18C11|18C12|18C13|18C14|18C15|18C16|18C17
18C18 KHITAN SMALL SCRIPT CHARACTER-|18C18|18C19|18C1A|18C1B|18C1C|18C1D|18C1E|18C1F|18C20|18C21
18C22 KHITAN SMALL SCRIPT CHARACTER-|18C22|18C23|18C24|18C25|18C26|18C27|18C28|18C29|18C2A|18C2B
18C2C KHITAN SMALL SCRIPT CHARACTER-|18C2C|18C2D|18C2E|18C2F|18C30|18C31|18C32|18C33|18C34|18C35
18C36 KHITAN SMALL SCRIPT CHARACTER-|18C36|18C37|18C38|18C39|18C3A|18C3B|18C3C|18C3D|18C3E|18C3F
18C40 KHITAN SMALL SCRIPT CHARACTER-|18C40|18C41|18C42|18C43|18C44|18C45|18C46|18C47|18C48|18C49
18C4A KHITAN SMALL SCRIPT CHARACTER-|18C4A|18C4B|18C4C|18C4D|18C4E|18C4F|18C50|18C51|18C52|18C53
18C54 KHITAN SMALL SCRIPT CHARACTER-|18C54|18C55|18C56|18C57|18C58|18C59|18C5A|18C5B|18C5C|18C5D
18C5E KHITAN SMALL SCRIPT CHARACTER-|18C5E|18C5F|18C60|18C61|18C62|18C63|18C64|18C65|18C66|18C67
18C68 KHITAN SMALL SCRIPT CHARACTER-|18C68|18C69|18C6A|18C6B|18C6C|18C6D|18C6E|18C6F|18C70|18C71
18C72 KHITAN SMALL SCRIPT CHARACTER-|18C72|18C73|18C74|18C75|18C76|18C77|18C78|18C79|18C7A|18C7B
18C7C KHITAN SMALL SCRIPT CHARACTER-|18C7C|18C7D|18C7E|18C7F|18C80|18C81|18C82|18C83|18C84|18C85
18C86 KHITAN SMALL SCRIPT CHARACTER-|18C86|18C87|18C88|18C89|18C8A|18C8B|18C8C|18C8D|18C8E|18C8F
18C90 KHITAN SMALL SCRIPT CHARACTER-|18C90|18C91|18C92|18C93|18C94|18C95|18C96|18C97|18C98|18C99
18C9A KHITAN SMALL SCRIPT CHARACTER-|18C9A|18C9B|18C9C|18C9D|18C9E|18C9F|18CA0|18CA1|18CA2|18CA3
18CA4 KHITAN SMALL SCRIPT CHARACTER-|18CA4|18CA5|18CA6|18CA7|18CA8|18CA9|18CAA|18CAB|18CAC|18CAD
18CAE KHITAN SMALL SCRIPT CHARACTER-|18CAE|18CAF|18CB0|18CB1|18CB2|18CB3|18CB4|18CB5|18CB6|18CB7
18CB8 KHITAN SMALL SCRIPT CHARACTER-|18CB8|18CB9|18CBA|18CBB|18CBC|18CBD|18CBE|18CBF|18CC0|18CC1
18CC2 KHITAN SMALL SCRIPT CHARACTER-|18CC2|18CC3|18CC4|18CC5|18CC6|18CC7|18CC8|18CC9|18CCA|18CCB
18CCC KHITAN SMALL SCRIPT CHARACTER-|18CCC|18CCD|18CCE|18CCF|18CD0|18CD1|18CD2|18CD3|18CD4|18CD5
18CFF |KHITAN SMALL SCRIPT CHARACTER-18CFF
1AFF0 KATAKANA LETTER MINNAN TONE-|2|3|4|5
1AFF5 KATAKANA LETTER MINNAN TONE-|7|8
1AFF7 KATAKANA LETTER MINNAN NASALIZED TONE-|1|2|3|4|5
1AFFD KATAKANA LETTER MINNAN NASALIZED TONE-|7|8
1B000 |KATAKANA LETTER ARCHAIC E|HIRAGANA LETTER ARCHAIC YE
1B002 HENTAIGANA LETTER A-|1|2|3|WO
1B006 HENTAIGANA LETTER |I-1|I-2|I-3|I-4|U-1|U-2|U-3|U-4|U-5|E-2|E-3|E-4|E-5|E-6|O-1|O-2|O-3
1B017 HENTAIGANA LETTER KA-|1|2|3|4|5|6|7|8|9|10|11|KE
1B023 HENTAIGANA LETTER KI-|1|2|3|4|5|6|7|8
1B02B HENTAIGANA LETTER KU-|1|2|3|4|5|6|7
1B032 HENTAIGANA LETTER |KE-1|KE-2|KE-3|KE-4|KE-5|KE-6|KO-1|KO-2|KO-3|KO-KI
1B03C HENTAIGANA LETTER SA-|1|2|3|4|5|6|7|8
1B044 HENTAIGANA LETTER SI-|1|2|3|4|5|6
1B04A HENTAIGANA LETTER SU-|1|2|3|4|5|6|7|8
1B052 HENTAIGANA LETTER |SE-1|SE-2|SE-3|SE-4|SE-5|SO-1|SO-2|SO-3|SO-4|SO-5|SO-6|SO-7|TA-1|TA-2
1B060 HENTAIGANA LETTER |TA-3|TA-4|TI-1|TI-2|TI-3|TI-4|TI-5|TI-6|TI-7|TU-1|TU-2|TU-3|TU-4|TU-TO
1B06E HENTAIGANA LETTER TE-|1|2|3|4|5|6|7|8|9
1B077 HENTAIGANA LETTER TO-|1|2|3|4|5|6|RA
1B07E HENTAIGANA LETTER NA-|1|2|3|4|5|6|7|8|9
1B087 HENTAIGANA LETTER NI-|1|2|3|4|5|6|7|TE
1B08F HENTAIGANA LETTER |NU-1|NU-2|NU-3|NE-1|NE-2|NE-3|NE-4|NE-5|NE-6|NE-KO
1B099 HENTAIGANA LETTER NO-|1|2|3|4|5
1B09E HENTAIGANA LETTER HA-|1|2|3|4|5|6|7|8|9|10|11
1B0A9 HENTAIGANA LETTER HI-|1|2|3|4|5|6|7
1B0B0 HENTAIGANA LETTER |HU-1|HU-2|HU-3|HE-1|HE-2|HE-3|HE-4|HE-5|HE-6|HE-7
1B0BA HENTAIGANA LETTER HO-|1|2|3|4|5|6|7|8
1B0C2 HENTAIGANA LETTER MA-|1|2|3|4|5|6|7
1B0C9 HENTAIGANA LETTER MI-|1|2|3|4|5|6|7
1B0D0 HENTAIGANA LETTER |MU-1|MU-2|MU-3|MU-4|ME-1|ME-2|ME-MA|MO-1|MO-2|MO-3|MO-4|MO-5|MO-6
1B0DD HENTAIGANA LETTER YA-|1|2|3|4|5|YO
1B0E3 HENTAIGANA LETTER |YU-1|YU-2|YU-3|YU-4|YO-1|YO-2|YO-3|YO-4|YO-5|YO-6|RA-1|RA-2|RA-3|RA-4
1B0F1 HENTAIGANA LETTER RI-|1|2|3|4|5|6|7
1B0F8 HENTAIGANA LETTER |RU-1|RU-2|RU-3|RU-4|RU-5|RU-6|RE-1|RE-2|RE-3|RE-4|RO-1|RO-2|RO-3
1B105 HENTAIGANA LETTER |RO-4|RO-5|RO-6|WA-1|WA-2|WA-3|WA-4|WA-5|WI-1|WI-2|WI-3|WI-4|WI-5|WE-1
1B113 HENTAIGANA LETTER |WE-2|WE-3|WE-4|WO-1|WO-2|WO-3|WO-4|WO-5|WO-6|WO-7|N-MU-MO-1|N-MU-MO-2
1B11F |HIRAGANA LETTER ARCHAIC WU
1B120 KATAKANA LETTER ARCHAIC |YI|YE|WU
1B132 |HIRAGANA LETTER SMALL KO
1B150 HIRAGANA LETTER SMALL |WI|WE|WO
1B155 |KATAKANA LETTER SMALL KO
1B164 KATAKANA LETTER SMALL |WI|WE|WO|N
1B170 NUSHU CHARACTER-|1B170|1B171|1B172|1B173|1B174|1B175|1B176|1B177|1B178|1B179|1B17A|1B17B
1B17C NUSHU CHARACTER-|1B17C|1B17D|1B17E|1B17F|1B180|1B181|1B182|1B183|1B184|1B185|1B186|1B187
1B188 NUSHU CHARACTER-|1B188|1B189|1B18A|1B18B|1B18C|1B18D|1B18E|1B18F|1B190|1B191|1B192|1B193
1B194 NUSHU CHARACTER-|1B194|1B195|1B196|1B197|1B198|1B199|1B19A|1B19B|1B19C|1B19D|1B19E|1B19F
1B1A0 NUSHU CHARACTER-|1B1A0|1B1A1|1B1A2|1B1A3|1B1A4|1B1A5|1B1A6|1B1A7|1B1A8|1B1A9|1B1AA|1B1AB
1B1AC NUSHU CHARACTER-|1B1AC|1B1AD|1B1AE|1B1AF|1B1B0|1B1B1|1B1B2|1B1B3|1B1B4|1B1B5|1B1B6|1B1B7
1B1B8 NUSHU CHARACTER-|1B1B8|1B1B9|1B1BA|1B1BB|1B1BC|1B1BD|1B1BE|1B1BF|1B1C0|1B1C1|1B1C2|1B1C3
1B1C4 NUSHU CHARACTER-|1B1C4|1B1C5|1B1C6|1B1C7|1B1C8|1B1C9|1B1CA|1B1CB|1B1CC|1B1CD|1B1CE|1B1CF
1B1D0 NUSHU CHARACTER-|1B1D0|1B1D1|1B1D2|1B1D3|1B1D4|1B1D5|1B1D6|1B1D7|1B1D8|1B1D9|1B1DA|1B1DB
1B1DC NUSHU CHARACTER-|1B1DC|1B1DD|1B1DE|1B1DF|1B1E0|1B1E1|1B1E2|1B1E3|1B1E4|1B1E5|1B1E6|1B1E7
1B1E8 NUSHU CHARACTER-|1B1E8|1B1E9|1B1EA|1B1EB|1B1EC|1B1ED|1B1EE|1B1EF|1B1F0|1B1F1|1B1F2|1B1F3
1B1F4 NUSHU CHARACTER-|1B1F4|1B1F5|1B1F6|1B1F7|1B1F8|1B1F9|1B1FA|1B1FB|1B1FC|1B1FD|1B1FE|1B1FF
1B200 NUSHU CHARACTER-|1B200|1B201|1B202|1B203|1B204|1B205|1B206|1B207|1B208|1B209|1B20A|1B20B
1B20C NUSHU CHARACTER-|1B20C|1B20D|1B20E|1B20F|1B210|1B211|1B212|1B213|1B214|1B215|1B216|1B217
1B218 NUSHU CHARACTER-|1B218|1B219|1B21A|1B21B|1B21C|1B21D|1B21E|1B21F|1B220|1B221|1B222|1B223
1B224 NUSHU CHARACTER-|1B224|1B225|1B226|1B227|1B228|1B229|1B22A|1B22B|1B22C|1B22D|1B22E|1B22F
1B230 NUSHU CHARACTER-|1B230|1B231|1B232|1B233|1B234|1B235|1B236|1B237|1B238|1B239|1B23A|1B23B
1B23C NUSHU CHARACTER-|1B23C|1B23D|1B23E|1B23F|1B240|1B241|1B242|1B243|1B244|1B245|1B246|1B247
1B248 NUSHU CHARACTER-|1B248|1B249|1B24A|1B24B|1B24C|1B24D|1B24E|1B24F|1B250|1B251|1B252|1B253
1B254 NUSHU CHARACTER-|1B254|1B255|1B256|1B257|1B258|1B259|1B25A|1B25B|1B25C|1B25D|1B25E|1B25F
1B260 NUSHU CHARACTER-|1B260|1B261|1B262|1B263|1B264|1B265|1B266|1B267|1B268|1B269|1B26A|1B26B
1B26C NUSHU CHARACTER-|1B26C|1B26D|1B26E|1B26F|1B270|1B271|1B272|1B273|1B274|1B275|1B276|1B277
1B278 NUSHU CHARACTER-|1B278|1B279|1B27A|1B27B|1B27C|1B27D|1B27E|1B27F|1B280|1B281|1B282|1B283
1B284 NUSHU CHARACTER-|1B284|1B285|1B286|1B287|1B288|1B289|1B28A|1B28B|1B28C|1B28D|1B28E|1B28F
1B290 NUSHU CHARACTER-|1B290|1B291|1B292|1B293|1B294|1B295|1B296|1B297|1B298|1B299|1B29A|1B29B
1B29C NUSHU CHARACTER-|1B29C|1B29D|1B29E|1B29F|1B2A0|1B2A1|1B2A2|1B2A3|1B2A4|1B2A5|1B2A6|1B2A7
1B2A8 NUSHU CHARACTER-|1B2A8|1B2A9|1B2AA|1B2AB|1B2AC|1B2AD|1B2AE|1B2AF|1B2B0|1B2B1|1B2B2|1B2B3
1B2B4 NUSHU CHARACTER-|1B2B4|1B2B5|1B2B6|1B2B7|1B2B8|1B2B9|1B2BA|1B2BB|1B2BC|1B2BD|1B2BE|1B2BF
1B2C0 NUSHU CHARACTER-|1B2C0|1B2C1|1B2C2|1B2C3|1B2C4|1B2C5|1B2C6|1B2C7|1B2C8|1B2C9|1B2CA|1B2CB
1B2CC NUSHU CHARACTER-|1B2CC|1B2CD|1B2CE|1B2CF|1B2D0|1B2D1|1B2D2|1B2D3|1B2D4|1B2D5|1B2D6|1B2D7
1B2D8 NUSHU CHARACTER-|1B2D8|1B2D9|1B2DA|1B2DB|1B2DC|1B2DD|1B2DE|1B2DF|1B2E0|1B2E1|1B2E2|1B2E3
1B2E4 NUSHU CHARACTER-|1B2E4|1B2E5|1B2E6|1B2E7|1B2E8|1B2E9|1B2EA|1B2EB|1B2EC|1B2ED|1B2EE|1B2EF
1B2F0 NUSHU CHARACTER-|1B2F0|1B2F1|1B2F2|1B2F3|1B2F4|1B2F5|1B2F6|1B2F7|1B2F8|1B2F9|1B2FA|1B2FB
1BC00 DUPLOYAN LETTER |H|X|P|T|F|K|L|B|D|V|G|R|P N|D S|F N|K M|R S|TH|SLOAN DH
1BC13 DUPLOYAN LETTER |DH|KK|SLOAN J|HL|LH|RH|M|N|J|S|M N|N M|J M|S J|M WITH DOT|N WITH DOT
1BC23 DUPLOYAN LETTER |J WITH DOT|J WITH DOTS INSIDE AND ABOVE|S WITH DOT|S WITH DOT BELOW
1BC27 DUPLOYAN LETTER |M S|N S|J S|S S|M N S|N M S|J M S|S J S|J S WITH DOT|J N|J N S|S T|S T R
1BC34 DUPLOYAN LETTER |S P|S P R|T S|T R S|W|WH|W R|S N|S M|K R S|G R S|S K|S K R|A|SLOAN OW|OA
1BC44 DUPLOYAN LETTER |O|AOU|I|E|IE|SHORT I|UI|EE|SLOAN EH|ROMANIAN I|SLOAN EE|LONG I|YE|U|EU|XW
1BC54 DUPLOYAN LETTER |U N|LONG U|ROMANIAN U|UH|SLOAN U|OOH|OW|OU|WA|WO|WI|WEI|WOW|NASAL U|NASAL O
1BC63 DUPLOYAN LETTER |NASAL I|NASAL A|PERNIN AN|PERNIN AM|SLOAN EN|SLOAN AN|SLOAN ON|VOCALIC M
1BC70 DUPLOYAN AFFIX |LEFT HORIZONTAL SECANT|MID HORIZONTAL SECANT|RIGHT HORIZONTAL SECANT
1BC73 DUPLOYAN AFFIX |LOW VERTICAL SECANT|MID VERTICAL SECANT|HIGH VERTICAL SECANT
1BC76 DUPLOYAN AFFIX ATTACHED |SECANT|LEFT-TO-RIGHT SECANT|TANGENT|TAIL|E HOOK|I HOOK|TANGENT HOOK
1BC80 DUPLOYAN AFFIX HIGH |ACUTE|TIGHT ACUTE|GRAVE|LONG GRAVE|DOT|CIRCLE|LINE|WAVE|VERTICAL
1BC90 DUPLOYAN AFFIX LOW |ACUTE|TIGHT ACUTE|GRAVE|LONG GRAVE|DOT|CIRCLE|LINE|WAVE|VERTICAL|ARROW
1BC9C DUPLOYAN |SIGN O WITH CROSS|THICK LETTER SELECTOR|DOUBLE MARK|PUNCTUATION CHINOOK FULL STOP
1BCA0 SHORTHAND FORMAT |LETTER OVERLAP|CONTINUING OVERLAP|DOWN STEP|UP STEP
1CC00 |UP-POINTING GO-KART|RIGHT-POINTING GO-KART
1CC02 |LEFT-POINTING STICK FIGURE|RIGHT-POINTING STICK FIGURE|DOWN-POINTING STICK FIGURE
1CC05 |LOWER HORIZONTAL RULER SEGMENT|RIGHT VERTICAL RULER SEGMENT|LOWER RIGHT RULER SEGMENT
1CC08 |ANTENNA|HORIZONTAL RESISTOR SEGMENT|VERTICAL RESISTOR SEGMENT|LEFT THIRD INDUCTOR
1CC0C |MIDDLE THIRD INDUCTOR|RIGHT THIRD INDUCTOR|LEFT-POINTING DIODE|RIGHT-POINTING DIODE
1CC10 |NPN TRANSISTOR|PNP TRANSISTOR|RECEPTACLE|HORIZONTAL CAPACITOR|VERTICAL CAPACITOR
1CC15 LOGIC GATE |OR|AND|INVERTED INPUTS|INVERTED OUTPUT|BUFFER|BUFFER WITH INVERTED INPUT
1CC1B BOX DRAWINGS LIGHT HORIZONTAL AND |UPPER RIGHT|LOWER RIGHT
1CC1D BOX DRAWINGS LIGHT |TOP AND UPPER LEFT|BOTTOM AND LOWER LEFT
1CC1F BOX DRAWINGS DOUBLE DIAGONAL UPPER |RIGHT TO LOWER LEFT|LEFT TO LOWER RIGHT
1CC21 SEPARATED BLOCK QUADRANT-|1|2|12|3|13|23|123|4|14|24|124|34|134|234|1234
1CC30 UPPER |LEFT TWELFTH CIRCLE|CENTRE LEFT TWELFTH CIRCLE
1CC32 UPPER |CENTRE RIGHT TWELFTH CIRCLE|RIGHT TWELFTH CIRCLE|MIDDLE LEFT TWELFTH CIRCLE
1CC35 UPPER |LEFT QUARTER CIRCLE|RIGHT QUARTER CIRCLE|MIDDLE RIGHT TWELFTH CIRCLE
1CC38 LOWER |MIDDLE LEFT TWELFTH CIRCLE|LEFT QUARTER CIRCLE
1CC3A LOWER |RIGHT QUARTER CIRCLE|MIDDLE RIGHT TWELFTH CIRCLE|LEFT TWELFTH CIRCLE
1CC3D LOWER |CENTRE LEFT TWELFTH CIRCLE|CENTRE RIGHT TWELFTH CIRCLE|RIGHT TWELFTH CIRCLE
1CC40 SPARSE |HORIZONTAL FILL|VERTICAL FILL
1CC42 |ORTHOGONAL CROSSHATCH FILL|DIAGONAL CROSSHATCH FILL
1CC44 DENSE |VERTICAL FILL|HORIZONTAL FILL
1CC46 SPECKLE FILL FRAME-|1|2
1CC48 |LEFT-FACING BASSINET|RIGHT-FACING BASSINET
1CC4A FLYING SAUCER |WITH BEAMS|WITHOUT BEAMS
1CC4C ALIEN |MONSTER OPEN JAWS|MONSTER CLOSED JAWS|SQUID OPEN TENTACLES|SQUID CLOSED TENTACLES
1CC50 ALIEN CRAB STEPPING |RIGHT|LEFT
1CC52 ALIEN SPIDER |CROUCHING|SPREAD
1CC54 ALIEN MONSTER STEP-|1|2
1CC56 |LEFT-POINTING ROCKET SHIP
1CC57 |UP-POINTING ROCKET SHIP|RIGHT-POINTING ROCKET SHIP|DOWN-POINTING ROCKET SHIP
1CC5A TOP HALF |LEFT-FACING ROBOT|FORWARD-FACING ROBOT|RIGHT-FACING ROBOT
1CC5D BOTTOM HALF |LEFT-FACING ROBOT|FORWARD-FACING ROBOT|RIGHT-FACING ROBOT
1CC60 |LEFT-POINTING ATOMIC BOMB
1CC61 |UP-POINTING ATOMIC BOMB|RIGHT-POINTING ATOMIC BOMB|DOWN-POINTING ATOMIC BOMB|MUSHROOM CLOUD
1CC65 |LEFT-POINTING RIFLE|UP-POINTING RIFLE|RIGHT-POINTING RIFLE|DOWN-POINTING RIFLE
1CC69 EIGHT RAYS |INWARD|OUTWARD
1CC6B BLACK LARGE CIRCLE MINUS |LEFT QUARTER SECTION|UPPER QUARTER SECTION|RIGHT QUARTER SECTION
1CC6E BLACK |LARGE CIRCLE MINUS LOWER QUARTER SECTION|NEUTRAL FACE
1CC70 |LEFT-FACING SNAKE HEAD WITH OPEN MOUTH
1CC71 |UP-FACING SNAKE HEAD WITH OPEN MOUTH|RIGHT-FACING SNAKE HEAD WITH OPEN MOUTH
1CC73 |DOWN-FACING SNAKE HEAD WITH OPEN MOUTH|LEFT-FACING SNAKE HEAD WITH CLOSED MOUTH
1CC75 |UP-FACING SNAKE HEAD WITH CLOSED MOUTH|RIGHT-FACING SNAKE HEAD WITH CLOSED MOUTH
1CC77 |DOWN-FACING SNAKE HEAD WITH CLOSED MOUTH|LEFT-POINTING ENERGY WAVE
1CC79 |UP-POINTING ENERGY WAVE|RIGHT-POINTING ENERGY WAVE|DOWN-POINTING ENERGY WAVE
1CC7C SQUARE SPIRAL FROM |TOP LEFT|TOP RIGHT|BOTTOM RIGHT|BOTTOM LEFT
1CC80 STRIPED |LEFT-POINTING TRIANGLE|UP-POINTING TRIANGLE|RIGHT-POINTING TRIANGLE
1CC83 |STRIPED DOWN-POINTING TRIANGLE|VERTICAL LADDER|HORIZONTAL LADDER
1CC86 WHITE LOWER |LEFT POINTER|RIGHT POINTER
1CC88 |TWO RINGS ALIGNED HORIZONTALLY
1CC89 SQUARE FOUR CORNER |SALTIRES|DIAGONALS|BLACK TRIANGLES
1CC8C |SQUARE APERTURE|INVERSE BLACK DIAMOND
1CC8E |LEFT AND UPPER ONE EIGHTH BLOCK CONTAINING BLACK SMALL SQUARE|INVERSE BLACK SMALL SQUARE
1CC90 |VERTICAL LINE WITH FOUR TICK MARKS|HORIZONTAL LINE WITH FOUR TICK MARKS|LEFT-FACING FISH
1CC93 |RIGHT-FACING FISH|LEFT-FACING FISH WITH OPEN MOUTH|RIGHT-FACING FISH WITH OPEN MOUTH
1CC96 |FLAPPING BIRD|LEFT-POINTING RACING CAR|UP-POINTING RACING CAR
1CC99 |RIGHT-POINTING RACING CAR|DOWN-POINTING RACING CAR|HORIZONTAL RACING CAR
1CC9C VERTICAL |RACING CAR|GO-KART
1CC9E |LEFT-POINTING TANK|RIGHT-POINTING TANK
1CCA0 |LEFT-POINTING ROCKET BOOSTER|RIGHT-POINTING ROCKET BOOSTER|LEFT-POINTING ROLLER COASTER CAR
1CCA3 |RIGHT-POINTING ROLLER COASTER CAR|LEFT HALF FLYING SAUCER|RIGHT HALF FLYING SAUCER
1CCA6 UPPER |LEFT QUADRANT FACE WITH OPEN EYES|RIGHT QUADRANT FACE WITH OPEN EYES
1CCA8 UPPER |LEFT QUADRANT FACE WITH CLOSED EYES|RIGHT QUADRANT FACE WITH CLOSED EYES
1CCAA |LOWER LEFT QUADRANT SMILING FACE
1CCAB LOWER |RIGHT QUADRANT SMILING FACE|LEFT QUADRANT NEUTRAL FACE|RIGHT QUADRANT NEUTRAL FACE
1CCAE LOWER |LEFT QUADRANT FACE WITH OPEN MOUTH|RIGHT QUADRANT FACE WITH OPEN MOUTH
1CCB0 LOWER |LEFT QUADRANT FROWNING FACE|RIGHT QUADRANT FROWNING FACE
1CCB2 UPPER |LEFT QUADRANT TELEVISION|RIGHT QUADRANT TELEVISION
1CCB4 LOWER |LEFT QUADRANT TELEVISION|RIGHT QUADRANT TELEVISION
1CCB6 UPPER |LEFT QUADRANT MICROCOMPUTER|RIGHT QUADRANT MICROCOMPUTER
1CCB8 LOWER |LEFT QUADRANT MICROCOMPUTER|RIGHT QUADRANT MICROCOMPUTER
1CCBA UPPER |LEFT QUADRANT CHESS KING|RIGHT QUADRANT CHESS KING
1CCBC LOWER |LEFT QUADRANT CHESS KING|RIGHT QUADRANT CHESS KING
1CCBE UPPER |LEFT QUADRANT CHESS QUEEN|RIGHT QUADRANT CHESS QUEEN
1CCC0 LOWER |LEFT QUADRANT CHESS QUEEN|RIGHT QUADRANT CHESS QUEEN
1CCC2 UPPER |LEFT QUADRANT CHESS ROOK|RIGHT QUADRANT CHESS ROOK
1CCC4 LOWER |LEFT QUADRANT CHESS ROOK|RIGHT QUADRANT CHESS ROOK
1CCC6 UPPER |LEFT QUADRANT CHESS BISHOP|RIGHT QUADRANT CHESS BISHOP
1CCC8 LOWER |LEFT QUADRANT CHESS BISHOP|RIGHT QUADRANT CHESS BISHOP
1CCCA UPPER |LEFT QUADRANT CHESS KNIGHT|RIGHT QUADRANT CHESS KNIGHT
1CCCC LOWER |LEFT QUADRANT CHESS KNIGHT|RIGHT QUADRANT CHESS KNIGHT
1CCCE UPPER |LEFT QUADRANT CHESS PAWN|RIGHT QUADRANT CHESS PAWN
1CCD0 LOWER |LEFT QUADRANT CHESS PAWN|RIGHT QUADRANT CHESS PAWN
1CCD6 OUTLINED LATIN CAPITAL LETTER |A|B|C|D|E|F|G|H|I|J|K|L|M|N|O|P|Q|R|S|T|U|V|W|X|Y|Z
1CCF0 OUTLINED DIGIT |ZERO|ONE|TWO|THREE|FOUR|FIVE|SIX|SEVEN|EIGHT|NINE
1CD00 BLOCK OCTANT-|3|23|123|4|14|124|34|134|234|5|15|25|125|135|235|1235|45|145|245|1245|345|1345
1CD16 BLOCK OCTANT-|2345|12345|6|16|26|126|36|136|236|1236|146|246|1246|346|1346|2346|12346|56|156
1CD29 BLOCK OCTANT-|256|1256|356|1356|2356|12356|456|1456|2456|12456|3456|13456|23456|17|27|127|37
1CD3A BLOCK OCTANT-|137|237|1237|47|147|247|1247|347|1347|2347|12347|157|257|1257|357|2357|12357
1CD4B BLOCK OCTANT-|457|1457|12457|3457|13457|23457|67|167|267|1267|367|1367|2367|12367|467|1467
1CD5B BLOCK OCTANT-|2467|12467|3467|13467|23467|123467|567|1567|2567|12567|3567|13567|23567|123567
1CD69 BLOCK OCTANT-|4567|14567|24567|124567|34567|134567|234567|1234567|18|28|128|38|138|238|1238
1CD78 BLOCK OCTANT-|48|148|248|1248|348|1348|2348|12348|58|158|258|1258|358|1358|2358|12358|458
1CD89 BLOCK OCTANT-|1458|2458|12458|3458|13458|23458|123458|168|268|1268|368|2368|12368|468|1468
1CD98 BLOCK OCTANT-|12468|3468|13468|23468|568|1568|2568|12568|3568|13568|23568|123568|4568|14568
1CDA6 BLOCK OCTANT-|24568|124568|34568|134568|234568|1234568|178|278|1278|378|1378|2378|12378|478
1CDB4 BLOCK OCTANT-|1478|2478|12478|3478|13478|23478|123478|578|1578|2578|12578|3578|13578|23578
1CDC2 BLOCK OCTANT-|123578|4578|14578|24578|124578|34578|134578|234578|1234578|678|1678|2678|12678
1CDCF BLOCK OCTANT-|3678|13678|23678|123678|4678|14678|24678|124678|34678|134678|234678|1234678
1CDDB BLOCK OCTANT-|15678|25678|125678|35678|235678|1235678|45678|145678|1245678|1345678|2345678
1CDF5 |MOON LANDER
1CE51 SEPARATED BLOCK SEXTANT-|1|2|12|3|13|23|123|4|14|24|124|34|134|234|1234|5|15|25
1CE63 SEPARATED BLOCK SEXTANT-|125|35|135|235|1235|45|145|245|1245|345|1345|2345|12345|6|16|26|126
1CE74 SEPARATED BLOCK SEXTANT-|36|136|236|1236|46|146|246|1246|346|1346|2346|12346|56|156|256|1256
1CE84 SEPARATED BLOCK SEXTANT-|356|1356|2356|12356|456|1456|2456|12456|3456|13456|23456|123456
1CE90 UPPER |LEFT ONE SIXTEENTH BLOCK|CENTRE LEFT ONE SIXTEENTH BLOCK
1CE92 UPPER |CENTRE RIGHT ONE SIXTEENTH BLOCK|RIGHT ONE SIXTEENTH BLOCK
1CE94 UPPER MIDDLE |LEFT ONE SIXTEENTH BLOCK|CENTRE LEFT ONE SIXTEENTH BLOCK
1CE96 UPPER MIDDLE |CENTRE RIGHT ONE SIXTEENTH BLOCK|RIGHT ONE SIXTEENTH BLOCK
1CE98 LOWER MIDDLE |LEFT ONE SIXTEENTH BLOCK|CENTRE LEFT ONE SIXTEENTH BLOCK
1CE9A LOWER MIDDLE |CENTRE RIGHT ONE SIXTEENTH BLOCK|RIGHT ONE SIXTEENTH BLOCK
1CE9C LOWER |LEFT ONE SIXTEENTH BLOCK|CENTRE LEFT ONE SIXTEENTH BLOCK
1CE9E LOWER |CENTRE RIGHT ONE SIXTEENTH BLOCK|RIGHT ONE SIXTEENTH BLOCK
1CEA0 RIGHT |HALF LOWER ONE QUARTER BLOCK|THREE QUARTERS LOWER ONE QUARTER BLOCK
1CEA2 LEFT |THREE QUARTERS LOWER ONE QUARTER BLOCK|HALF LOWER ONE QUARTER BLOCK
1CEA4 LOWER |HALF LEFT ONE QUARTER BLOCK|THREE QUARTERS LEFT ONE QUARTER BLOCK
1CEA6 UPPER |THREE QUARTERS LEFT ONE QUARTER BLOCK|HALF LEFT ONE QUARTER BLOCK
1CEA8 LEFT |HALF UPPER ONE QUARTER BLOCK|THREE QUARTERS UPPER ONE QUARTER BLOCK
1CEAA RIGHT |THREE QUARTERS UPPER ONE QUARTER BLOCK|HALF UPPER ONE QUARTER BLOCK
1CEAC UPPER |HALF RIGHT ONE QUARTER BLOCK|THREE QUARTERS RIGHT ONE QUARTER BLOCK
1CEAE LOWER |THREE QUARTERS RIGHT ONE QUARTER BLOCK|HALF RIGHT ONE QUARTER BLOCK
1CEB0 |HORIZONTAL ZIGZAG LINE|KEYHOLE
1CEB2 |OLD PERSONAL COMPUTER WITH MONITOR IN PORTRAIT ORIENTATION|BLACK RIGHT TRIANGLE CARET
1CF00 ZNAMENNY COMBINING MARK |GORAZDO NIZKO S KRYZHEM ON LEFT|NIZKO S KRYZHEM ON LEFT
1CF02 ZNAMENNY COMBINING MARK |TSATA ON LEFT|GORAZDO NIZKO ON LEFT|NIZKO ON LEFT
1CF05 ZNAMENNY COMBINING MARK |SREDNE ON LEFT|MALO POVYSHE ON LEFT|POVYSHE ON LEFT|VYSOKO ON LEFT
1CF09 ZNAMENNY COMBINING MARK |MALO POVYSHE S KHOKHLOM ON LEFT|POVYSHE S KHOKHLOM ON LEFT
1CF0B ZNAMENNY COMBINING MARK |VYSOKO S KHOKHLOM ON LEFT|GORAZDO NIZKO S KRYZHEM ON RIGHT
1CF0D ZNAMENNY COMBINING MARK |NIZKO S KRYZHEM ON RIGHT|TSATA ON RIGHT|GORAZDO NIZKO ON RIGHT
1CF10 ZNAMENNY COMBINING MARK |NIZKO ON RIGHT|SREDNE ON RIGHT|MALO POVYSHE ON RIGHT
1CF13 ZNAMENNY COMBINING MARK |POVYSHE ON RIGHT|VYSOKO ON RIGHT|MALO POVYSHE S KHOKHLOM ON RIGHT
1CF16 ZNAMENNY COMBINING MARK |POVYSHE S KHOKHLOM ON RIGHT|VYSOKO S KHOKHLOM ON RIGHT
1CF18 ZNAMENNY COMBINING MARK |TSATA S KRYZHEM|MALO POVYSHE S KRYZHEM|STRANNO MALO POVYSHE
1CF1B ZNAMENNY COMBINING MARK POVYSHE |S KRYZHEM|STRANNO
1CF1D ZNAMENNY COMBINING MARK |VYSOKO S KRYZHEM|MALO POVYSHE STRANNO
1CF1F ZNAMENNY COMBINING MARK |GORAZDO VYSOKO|ZELO|ON|RAVNO|TIKHAYA|BORZAYA|UDARKA
1CF26 ZNAMENNY COMBINING MARK |PODVERTKA|LOMKA|KUPNAYA|KACHKA|ZEVOK|SKOBA|RAZSEKA|KRYZH ON LEFT
1CF30 ZNAMENNY COMBINING TONAL RANGE MARK |MRACHNO|SVETLO|TRESVETLO
1CF33 ZNAMENNY COMBINING MARK |ZADERZHKA|DEMESTVENNY ZADERZHKA|OTSECHKA|PODCHASHIE
1CF37 ZNAMENNY COMBINING MARK |PODCHASHIE WITH VERTICAL STROKE|CHASHKA|CHASHKA POLNAYA|OBLACHKO
1CF3B ZNAMENNY COMBINING |MARK SOROCHYA NOZHKA|MARK TOCHKA|MARK DVOETOCHIE|ATTACHING VERTICAL OMET
1CF3F ZNAMENNY COMBINING |MARK CURVED OMET|MARK KRYZH|LOWER TONAL RANGE INDICATOR
1CF42 ZNAMENNY PRIZNAK MODIFIER |LEVEL-2|LEVEL-3|DIRECTION FLIP|KRYZH|ROG
1CF50 ZNAMENNY NEUME |KRYUK|KRYUK TIKHY|PARAKLIT|DVA V CHELNU|KLYUCH
1CF55 ZNAMENNY NEUME |ZANOZHEK|STOPITSA|STOPITSA S OCHKOM|PEREVODKA|PEREVODKA NEPOSTOYANNAYA
1CF5A ZNAMENNY NEUME |STOPITSA WITH SOROCHYA NOZHKA|CHELYUSTKA|PALKA|ZAPYATAYA
1CF5E ZNAMENNY NEUME GOLUBCHIK |BORZY|TIKHY|MRACHNY|SVETLY|TRESVETLY
1CF63 ZNAMENNY NEUME VRAKHIYA |PROSTAYA|MRACHNAYA|SVETLAYA|TRESVETLAYA
1CF67 ZNAMENNY NEUME VRAKHIYA KLYUCHEVAYA |PROSTAYA|MRACHNAYA|SVETLAYA|TRESVETLAYA
1CF6B ZNAMENNY NEUME |DOUBLE ZAPYATAYA|REVERSED CHELYUSTKA|DERBITSA|KHAMILO|CHASHKA|PODCHASHIE
1CF71 ZNAMENNY NEUME SKAMEYTSA |MRACHNAYA|SVETLAYA|TRESVETLAYA|TIKHAYA
1CF75 |ZNAMENNY NEUME DEMESTVENNY KLYUCH
1CF76 ZNAMENNY NEUME SKAMEYTSA |KLYUCHEVAYA SVETLAYA|KLYUCHENEPOSTOYANNAYA|KLYUCHEVAYA TIKHAYA
1CF79 ZNAMENNY NEUME SKAMEYTSA DVOECHELNAYA |PROSTAYA|SVETLAYA|NEPOSTOYANNAYA|KLYUCHEVAYA
1CF7D ZNAMENNY NEUME |SLOZHITIE|SLOZHITIE S ZAPYATOY
1CF7F ZNAMENNY NEUME |SLOZHITIE ZAKRYTOE|SLOZHITIE S KRYZHEM|KRYZH|ROG|FITA|KOBYLA|ZMEYTSA|STATYA
1CF87 ZNAMENNY NEUME STATYA S |ZAPYATOY|KRYZHEM|ZAPYATOY I KRYZHEM|KRYZHEM I ZAPYATOY
1CF8B ZNAMENNY NEUME STATYA |ZAKRYTAYA|ZAKRYTAYA S ZAPYATOY|S ROGOM|S DVUMYA ZAPYATYMI
1CF8F ZNAMENNY NEUME |STATYA S ZAPYATOY I PODCHASHIEM|POLKULIZMY|STATYA NEPOSTOYANNAYA
1CF92 ZNAMENNY NEUME STRELA |PROSTAYA|MRACHNOTIKHAYA|KRYZHEVAYA|POLUPOVODNAYA
1CF96 ZNAMENNY NEUME STRELA |POVODNAYA|NEPOSTOYANNAYA|KLYUCHEPOVODNAYA|KLYUCHENEPOSTOYANNAYA
1CF9A ZNAMENNY NEUME STRELA |TIKHAYA PUTNAYA|DVOECHELNAYA|DVOECHELNOKRYZHEVAYA|DVOECHELNOPOVODNAYA
1CF9E ZNAMENNY NEUME STRELA |DVOECHELNAYA KLYUCHEVAYA|DVOECHELNOPOVODNAYA KLYUCHEVAYA
1CFA0 ZNAMENNY NEUME STRELA |GROMNAYA WITH SINGLE ZAPYATAYA|GROMOPOVODNAYA WITH SINGLE ZAPYATAYA
1CFA2 ZNAMENNY NEUME STRELA |GROMNAYA|GROMOPOVODNAYA|GROMOPOVODNAYA WITH DOUBLE ZAPYATAYA
1CFA5 ZNAMENNY NEUME |STRELA GROMOKRYZHEVAYA|STRELA GROMOKRYZHEVAYA POVODNAYA|MECHIK
1CFA8 ZNAMENNY NEUME MECHIK |POVODNY|KLYUCHEVOY|KLYUCHEPOVODNY|KLYUCHENEPOSTOYANNY
1CFAC ZNAMENNY NEUME |STRELA TRYASOGLASNAYA|STRELA TRYASOPOVODNAYA|STRELA TRYASOSTRELNAYA|OSOKA
1CFB0 ZNAMENNY NEUME OSOKA |SVETLAYA|TRESVETLAYA|KRYUKOVAYA SVETLAYA|KLYUCHEVAYA SVETLAYA
1CFB4 ZNAMENNY NEUME |OSOKA KLYUCHEVAYA NEPOSTOYANNAYA|STRELA KRYUKOVAYA
1CFB6 ZNAMENNY NEUME STRELA KRYUKOVAYA |POVODNAYA|GROMNAYA WITH SINGLE ZAPYATAYA
1CFB8 ZNAMENNY NEUME STRELA KRYUKOVAYA |GROMOPOVODNAYA WITH SINGLE ZAPYATAYA|GROMNAYA
1CFBA ZNAMENNY NEUME STRELA KRYUKOVAYA |GROMOPOVODNAYA|GROMOPOVODNAYA WITH DOUBLE ZAPYATAYA
1CFBC ZNAMENNY NEUME STRELA KRYUKOVAYA |GROMOKRYZHEVAYA|GROMOKRYZHEVAYA POVODNAYA|TRYASKA
1CFBF ZNAMENNY NEUME |KUFISMA|OBLAKO|DUDA|NEMKA|PAUK
16E56 |MEDEFAIDRIN CAPITAL LETTER H
16E57 |MEDEFAIDRIN CAPITAL LETTER NG
16E76 |MEDEFAIDRIN SMALL LETTER H
16E77 |MEDEFAIDRIN SMALL LETTER NG
1B001 |HENTAIGANA LETTER E-1"

end TagMenu.Unicode
