namespace TagMenu.Unicode

def notationNames : String :=
"1D000 BYZANTINE MUSICAL SYMBOL |PSILI|DASEIA|PERISPOMENI|OXEIA EKFONITIKON|OXEIA DIPLI
1D005 BYZANTINE MUSICAL SYMBOL VAREIA |EKFONITIKON|DIPLI
1D007 BYZANTINE MUSICAL SYMBOL |KATHISTI|SYRMATIKI|PARAKLITIKI|YPOKRISIS|YPOKRISIS DIPLI|KREMASTI
1D00D BYZANTINE MUSICAL SYMBOL |APESO EKFONITIKON|EXO EKFONITIKON|TELEIA|KENTIMATA|APOSTROFOS
1D012 BYZANTINE MUSICAL SYMBOL |APOSTROFOS DIPLI|SYNEVMA|THITA|OLIGON ARCHAION|GORGON ARCHAION
1D017 BYZANTINE MUSICAL SYMBOL |PSILON|CHAMILON|VATHY|ISON ARCHAION|KENTIMA ARCHAION
1D01C BYZANTINE MUSICAL SYMBOL |KENTIMATA ARCHAION|SAXIMATA|PARICHON|STAVROS APODEXIA
1D020 BYZANTINE MUSICAL SYMBOL |OXEIAI ARCHAION|VAREIAI ARCHAION|APODERMA ARCHAION
1D023 BYZANTINE MUSICAL SYMBOL |APOTHEMA|KLASMA|REVMA|PIASMA ARCHAION|TINAGMA|ANATRICHISMA|SEISMA
1D02A BYZANTINE MUSICAL SYMBOL |SYNAGMA ARCHAION|SYNAGMA META STAVROU|OYRANISMA ARCHAION|THEMA
1D02E BYZANTINE MUSICAL SYMBOL |LEMOI|DYO|TRIA|TESSERA|KRATIMATA|APESO EXO NEO|FTHORA ARCHAION
1D035 BYZANTINE MUSICAL SYMBOL |IMIFTHORA|TROMIKON ARCHAION|KATAVA TROMIKON|PELASTON
1D039 BYZANTINE MUSICAL SYMBOL |PSIFISTON|KONTEVMA|CHOREVMA ARCHAION|RAPISMA|PARAKALESMA ARCHAION
1D03E BYZANTINE MUSICAL SYMBOL |PARAKLITIKI ARCHAION|ICHADIN|NANA|PETASMA|KONTEVMA ALLO
1D043 BYZANTINE MUSICAL SYMBOL |TROMIKON ALLO|STRAGGISMATA|GRONTHISMATA|ISON NEO|OLIGON NEO
1D048 BYZANTINE MUSICAL SYMBOL |OXEIA NEO|PETASTI|KOUFISMA|PETASTOKOUFISMA|KRATIMOKOUFISMA
1D04D BYZANTINE MUSICAL SYMBOL |PELASTON NEO|KENTIMATA NEO ANO|KENTIMA NEO ANO|YPSILI
1D051 BYZANTINE MUSICAL SYMBOL |APOSTROFOS NEO|APOSTROFOI SYNDESMOS NEO|YPORROI|KRATIMOYPORROON
1D055 BYZANTINE MUSICAL SYMBOL |ELAFRON|CHAMILI|MIKRON ISON|VAREIA NEO|PIASMA NEO|PSIFISTON NEO
1D05B BYZANTINE MUSICAL SYMBOL |OMALON|ANTIKENOMA|LYGISMA|PARAKLITIKI NEO|PARAKALESMA NEO
1D060 BYZANTINE MUSICAL SYMBOL |ETERON PARAKALESMA|KYLISMA|ANTIKENOKYLISMA|TROMIKON NEO|EKSTREPTON
1D065 BYZANTINE MUSICAL SYMBOL |SYNAGMA NEO|SYRMA|CHOREVMA NEO|EPEGERMA|SEISMA NEO|XIRON KLASMA
1D06B BYZANTINE MUSICAL SYMBOL |TROMIKOPSIFISTON|PSIFISTOLYGISMA|TROMIKOLYGISMA|TROMIKOPARAKALESMA
1D06F BYZANTINE MUSICAL SYMBOL |PSIFISTOPARAKALESMA|TROMIKOSYNAGMA|PSIFISTOSYNAGMA|GORGOSYNTHETON
1D073 BYZANTINE MUSICAL SYMBOL |ARGOSYNTHETON|ETERON ARGOSYNTHETON|OYRANISMA NEO|THEMATISMOS ESO
1D077 BYZANTINE MUSICAL SYMBOL |THEMATISMOS EXO|THEMA APLOUN|THES KAI APOTHES|KATAVASMA
1D07B BYZANTINE MUSICAL SYMBOL |ENDOFONON|YFEN KATO|YFEN ANO|STAVROS|KLASMA ANO|DIPLI ARCHAION
1D081 BYZANTINE MUSICAL SYMBOL KRATIMA |ARCHAION|ALLO|NEO
1D084 BYZANTINE MUSICAL SYMBOL |APODERMA NEO|APLI|DIPLI|TRIPLI|TETRAPLI|KORONIS
1D08A BYZANTINE MUSICAL SYMBOL LEIMMA |ENOS CHRONOU|DYO CHRONON|TRION CHRONON|TESSARON CHRONON
1D08E BYZANTINE MUSICAL SYMBOL |LEIMMA IMISEOS CHRONOU|GORGON NEO ANO
1D090 BYZANTINE MUSICAL SYMBOL |GORGON PARESTIGMENON ARISTERA|GORGON PARESTIGMENON DEXIA|DIGORGON
1D093 BYZANTINE MUSICAL SYMBOL DIGORGON PARESTIGMENON |ARISTERA KATO|ARISTERA ANO|DEXIA
1D096 BYZANTINE MUSICAL SYMBOL |TRIGORGON|ARGON|IMIDIARGON|DIARGON|AGOGI POLI ARGI
1D09B BYZANTINE MUSICAL SYMBOL AGOGI |ARGOTERI|ARGI|METRIA|MESI|GORGI|GORGOTERI|POLI GORGI
1D0A2 BYZANTINE MUSICAL SYMBOL MARTYRIA |PROTOS ICHOS|ALLI PROTOS ICHOS|DEYTEROS ICHOS
1D0A5 BYZANTINE MUSICAL SYMBOL MARTYRIA |ALLI DEYTEROS ICHOS|TRITOS ICHOS|TRIFONIAS|TETARTOS ICHOS
1D0A9 BYZANTINE MUSICAL SYMBOL MARTYRIA |TETARTOS LEGETOS ICHOS|LEGETOS ICHOS|PLAGIOS ICHOS
1D0AC BYZANTINE MUSICAL SYMBOL |ISAKIA TELOUS ICHIMATOS|APOSTROFOI TELOUS ICHIMATOS
1D0AE BYZANTINE MUSICAL SYMBOL FANEROSIS |TETRAFONIAS|MONOFONIAS|DIFONIAS
1D0B1 BYZANTINE MUSICAL SYMBOL MARTYRIA |VARYS ICHOS|PROTOVARYS ICHOS|PLAGIOS TETARTOS ICHOS
1D0B4 BYZANTINE MUSICAL SYMBOL GORTHMIKON N |APLOUN|DIPLOUN
1D0B6 BYZANTINE MUSICAL SYMBOL |ENARXIS KAI FTHORA VOU|IMIFONON|IMIFTHORON
1D0B9 BYZANTINE MUSICAL SYMBOL FTHORA |ARCHAION DEYTEROU ICHOU|DIATONIKI PA
1D0BB BYZANTINE MUSICAL SYMBOL FTHORA |DIATONIKI NANA|NAOS ICHOS|DIATONIKI DI|SKLIRON DIATONON DI
1D0BF BYZANTINE MUSICAL SYMBOL FTHORA DIATONIKI |KE|ZO|NI KATO|NI ANO
1D0C3 BYZANTINE MUSICAL SYMBOL FTHORA MALAKON CHROMA |DIFONIAS|MONOFONIAS
1D0C5 BYZANTINE MUSICAL SYMBOL |FHTORA SKLIRON CHROMA VASIS|FTHORA SKLIRON CHROMA SYNAFI
1D0C7 BYZANTINE MUSICAL SYMBOL |FTHORA NENANO|CHROA ZYGOS|CHROA KLITON|CHROA SPATHI
1D0CB BYZANTINE MUSICAL SYMBOL FTHORA |I YFESIS TETARTIMORION|ENARMONIOS ANTIFONIA
1D0CD BYZANTINE MUSICAL SYMBOL |YFESIS TRITIMORION|DIESIS TRITIMORION|DIESIS TETARTIMORION
1D0D0 BYZANTINE MUSICAL SYMBOL DIESIS |APLI DYO DODEKATA|MONOGRAMMOS TESSERA DODEKATA
1D0D2 BYZANTINE MUSICAL SYMBOL DIESIS |DIGRAMMOS EX DODEKATA|TRIGRAMMOS OKTO DODEKATA
1D0D4 BYZANTINE MUSICAL SYMBOL YFESIS |APLI DYO DODEKATA|MONOGRAMMOS TESSERA DODEKATA
1D0D6 BYZANTINE MUSICAL SYMBOL YFESIS |DIGRAMMOS EX DODEKATA|TRIGRAMMOS OKTO DODEKATA
1D0D8 BYZANTINE MUSICAL SYMBOL GENIKI |DIESIS|YFESIS
1D0DA BYZANTINE MUSICAL SYMBOL DIASTOLI |APLI MIKRI|APLI MEGALI|DIPLI|THESEOS
1D0DE BYZANTINE MUSICAL SYMBOL SIMANSIS |THESEOS|THESEOS DISIMOU|THESEOS TRISIMOU
1D0E1 BYZANTINE MUSICAL SYMBOL SIMANSIS |THESEOS TETRASIMOU|ARSEOS|ARSEOS DISIMOU|ARSEOS TRISIMOU
1D0E5 BYZANTINE MUSICAL SYMBOL |SIMANSIS ARSEOS TETRASIMOU|DIGRAMMA GG|DIFTOGGOS OU|STIGMA
1D0E9 BYZANTINE MUSICAL SYMBOL ARKTIKO |PA|VOU|GA|DI|KE|ZO|NI
1D0F0 BYZANTINE MUSICAL SYMBOL |KENTIMATA NEO MESO|KENTIMA NEO MESO
1D0F2 BYZANTINE MUSICAL SYMBOL |KENTIMATA NEO KATO|KENTIMA NEO KATO|KLASMA KATO|GORGON NEO KATO
1D100 MUSICAL SYMBOL |SINGLE BARLINE|DOUBLE BARLINE
1D102 MUSICAL SYMBOL |FINAL BARLINE|REVERSE FINAL BARLINE|DASHED BARLINE|SHORT BARLINE
1D106 MUSICAL SYMBOL |LEFT REPEAT SIGN|RIGHT REPEAT SIGN|REPEAT DOTS|DAL SEGNO|DA CAPO|SEGNO|CODA
1D10D MUSICAL SYMBOL REPEATED FIGURE-|1|2|3
1D110 MUSICAL SYMBOL |FERMATA|FERMATA BELOW|BREATH MARK|CAESURA|BRACE|BRACKET|ONE-LINE STAFF
1D117 MUSICAL SYMBOL |TWO-LINE STAFF|THREE-LINE STAFF|FOUR-LINE STAFF|FIVE-LINE STAFF
1D11B MUSICAL SYMBOL |SIX-LINE STAFF|SIX-STRING FRETBOARD|FOUR-STRING FRETBOARD|G CLEF
1D11F MUSICAL SYMBOL G CLEF OTTAVA |ALTA|BASSA
1D121 MUSICAL SYMBOL |C CLEF|F CLEF|F CLEF OTTAVA ALTA|F CLEF OTTAVA BASSA|DRUM CLEF-1|DRUM CLEF-2
1D129 MUSICAL SYMBOL |MULTIPLE MEASURE REST|DOUBLE SHARP|DOUBLE FLAT|FLAT UP
1D12D MUSICAL SYMBOL |FLAT DOWN|NATURAL UP|NATURAL DOWN|SHARP UP|SHARP DOWN|QUARTER TONE SHARP
1D133 MUSICAL SYMBOL |QUARTER TONE FLAT|COMMON TIME|CUT TIME|OTTAVA ALTA|OTTAVA BASSA
1D138 MUSICAL SYMBOL |QUINDICESIMA ALTA|QUINDICESIMA BASSA|MULTI REST|WHOLE REST|HALF REST
1D13D MUSICAL SYMBOL |QUARTER REST|EIGHTH REST|SIXTEENTH REST|THIRTY-SECOND REST|SIXTY-FOURTH REST
1D142 MUSICAL SYMBOL |ONE HUNDRED TWENTY-EIGHTH REST|X NOTEHEAD|PLUS NOTEHEAD|CIRCLE X NOTEHEAD
1D146 MUSICAL SYMBOL SQUARE NOTEHEAD |WHITE|BLACK
1D148 MUSICAL SYMBOL TRIANGLE NOTEHEAD |UP WHITE|UP BLACK|LEFT WHITE|LEFT BLACK|RIGHT WHITE
1D14D MUSICAL SYMBOL TRIANGLE NOTEHEAD |RIGHT BLACK|DOWN WHITE|DOWN BLACK|UP RIGHT WHITE
1D151 MUSICAL SYMBOL |TRIANGLE NOTEHEAD UP RIGHT BLACK|MOON NOTEHEAD WHITE|MOON NOTEHEAD BLACK
1D154 MUSICAL SYMBOL TRIANGLE-ROUND NOTEHEAD DOWN |WHITE|BLACK
1D156 MUSICAL SYMBOL |PARENTHESIS NOTEHEAD|VOID NOTEHEAD|NOTEHEAD BLACK|NULL NOTEHEAD
1D15A MUSICAL SYMBOL CLUSTER NOTEHEAD |WHITE|BLACK
1D15C MUSICAL SYMBOL |BREVE|WHOLE NOTE|HALF NOTE|QUARTER NOTE|EIGHTH NOTE|SIXTEENTH NOTE
1D162 MUSICAL SYMBOL |THIRTY-SECOND NOTE|SIXTY-FOURTH NOTE|ONE HUNDRED TWENTY-EIGHTH NOTE
1D165 MUSICAL SYMBOL COMBINING |STEM|SPRECHGESANG STEM|TREMOLO-1|TREMOLO-2|TREMOLO-3
1D16A MUSICAL SYMBOL FINGERED TREMOLO-|1|2|3
1D16D MUSICAL SYMBOL COMBINING |AUGMENTATION DOT|FLAG-1|FLAG-2|FLAG-3|FLAG-4|FLAG-5
1D173 MUSICAL SYMBOL |BEGIN BEAM|END BEAM|BEGIN TIE|END TIE|BEGIN SLUR|END SLUR
1D179 MUSICAL SYMBOL |BEGIN PHRASE|END PHRASE|COMBINING ACCENT|COMBINING STACCATO|COMBINING TENUTO
1D17E MUSICAL SYMBOL COMBINING |STACCATISSIMO|MARCATO|MARCATO-STACCATO|ACCENT-STACCATO|LOURE
1D183 MUSICAL SYMBOL ARPEGGIATO |UP|DOWN
1D185 MUSICAL SYMBOL COMBINING |DOIT|RIP|FLIP|SMEAR|BEND|DOUBLE TONGUE|TRIPLE TONGUE
1D18C MUSICAL SYMBOL |RINFORZANDO|SUBITO|Z|PIANO|MEZZO|FORTE|CRESCENDO|DECRESCENDO
1D194 MUSICAL SYMBOL GRACE NOTE |SLASH|NO SLASH
1D196 MUSICAL SYMBOL |TR|TURN|INVERTED TURN|TURN SLASH|TURN UP
1D19B MUSICAL SYMBOL ORNAMENT STROKE-|1|2|3|4|5|6|7|8|9|10|11
1D1A6 MUSICAL SYMBOL |HAUPTSTIMME|NEBENSTIMME|END OF STIMME|DEGREE SLASH
1D1AA MUSICAL SYMBOL COMBINING |DOWN BOW|UP BOW|HARMONIC|SNAP PIZZICATO
1D1AE MUSICAL SYMBOL |PEDAL MARK|PEDAL UP MARK|HALF PEDAL MARK|GLISSANDO UP|GLISSANDO DOWN
1D1B3 MUSICAL SYMBOL |WITH FINGERNAILS|DAMP|DAMP ALL|MAXIMA|LONGA|BREVIS|SEMIBREVIS WHITE
1D1BA MUSICAL SYMBOL |SEMIBREVIS BLACK|MINIMA|MINIMA BLACK|SEMIMINIMA WHITE|SEMIMINIMA BLACK
1D1BF MUSICAL SYMBOL |FUSA WHITE|FUSA BLACK|LONGA PERFECTA REST|LONGA IMPERFECTA REST
1D1C3 MUSICAL SYMBOL |BREVIS REST|SEMIBREVIS REST|MINIMA REST|SEMIMINIMA REST
1D1C7 MUSICAL SYMBOL TEMPUS PERFECTUM CUM PROLATIONE |PERFECTA|IMPERFECTA|PERFECTA DIMINUTION-1
1D1CA MUSICAL SYMBOL TEMPUS IMPERFECTUM CUM PROLATIONE |PERFECTA|IMPERFECTA
1D1CC MUSICAL SYMBOL TEMPUS IMPERFECTUM CUM PROLATIONE IMPERFECTA DIMINUTION-|1|2|3
1D1CF MUSICAL SYMBOL |CROIX|GREGORIAN C CLEF|GREGORIAN F CLEF
1D1D2 MUSICAL SYMBOL |SQUARE B|VIRGA|PODATUS|CLIVIS|SCANDICUS|CLIMACUS|TORCULUS|PORRECTUS
1D1DA MUSICAL SYMBOL |PORRECTUS FLEXUS|SCANDICUS FLEXUS|TORCULUS RESUPINUS|PES SUBPUNCTIS
1D1DE MUSICAL SYMBOL KIEVAN |C CLEF|END OF PIECE|FINAL NOTE|RECITATIVE MARK|WHOLE NOTE|HALF NOTE
1D1E4 MUSICAL SYMBOL KIEVAN QUARTER NOTE STEM |DOWN|UP
1D1E6 MUSICAL SYMBOL KIEVAN EIGHTH NOTE STEM |DOWN|UP
1D1E8 MUSICAL SYMBOL |KIEVAN FLAT SIGN|SORI|KORON
1D200 GREEK VOCAL NOTATION SYMBOL-|1|2|3|4|5|6|7
1D207 GREEK VOCAL NOTATION SYMBOL-|8|9|10|11|12|13|14|15|16|17|18|19|20|21|22|23|24|50|51|52|53|54
1D21D GREEK INSTRUMENTAL NOTATION SYMBOL-|1|2|4|5|7|8|11|12|13|14|17|18|19|23|24|25|26|27
1D22F GREEK INSTRUMENTAL NOTATION SYMBOL-|29|30|32|36|37|38|39|40|42|43|45|47|48|49|50|51|52|53|54
1D242 COMBINING GREEK MUSICAL |TRISEME|TETRASEME|PENTASEME
1D245 |GREEK MUSICAL LEIMMA
1D2C0 KAKTOVIK NUMERAL |ZERO|ONE|TWO|THREE|FOUR|FIVE|SIX|SEVEN|EIGHT|NINE|TEN|ELEVEN
1D2CC KAKTOVIK NUMERAL |TWELVE|THIRTEEN|FOURTEEN|FIFTEEN|SIXTEEN|SEVENTEEN|EIGHTEEN|NINETEEN
1D2E0 MAYAN NUMERAL |ZERO|ONE|TWO|THREE|FOUR|FIVE|SIX|SEVEN|EIGHT|NINE|TEN
1D2EB MAYAN NUMERAL |ELEVEN|TWELVE|THIRTEEN|FOURTEEN|FIFTEEN|SIXTEEN|SEVENTEEN|EIGHTEEN|NINETEEN
1D300 |MONOGRAM FOR EARTH
1D301 DIGRAM FOR |HEAVENLY EARTH|HUMAN EARTH|EARTHLY HEAVEN|EARTHLY HUMAN|EARTH
1D306 TETRAGRAM FOR |CENTRE|FULL CIRCLE|MIRED|BARRIER|KEEPING SMALL|CONTRARIETY|ASCENT
1D30D TETRAGRAM FOR |OPPOSITION|BRANCHING OUT|DEFECTIVENESS OR DISTORTION|DIVERGENCE|YOUTHFULNESS
1D312 TETRAGRAM FOR |INCREASE|PENETRATION|REACH|CONTACT|HOLDING BACK|WAITING|FOLLOWING|ADVANCE
1D31A TETRAGRAM FOR |RELEASE|RESISTANCE|EASE|JOY|CONTENTION|ENDEAVOUR|DUTIES|CHANGE|DECISIVENESS
1D323 TETRAGRAM FOR |BOLD RESOLUTION|PACKING|LEGION|CLOSENESS|KINSHIP|GATHERING|STRENGTH|PURITY
1D32B TETRAGRAM FOR |FULLNESS|RESIDENCE|LAW OR MODEL|RESPONSE|GOING TO MEET|ENCOUNTERS|STOVE
1D332 TETRAGRAM FOR |GREATNESS|ENLARGEMENT|PATTERN|RITUAL|FLIGHT|VASTNESS OR WASTING|CONSTANCY
1D339 TETRAGRAM FOR |MEASURE|ETERNITY|UNITY|DIMINISHMENT|CLOSED MOUTH|GUARDEDNESS|GATHERING IN
1D340 TETRAGRAM FOR |MASSING|ACCUMULATION|EMBELLISHMENT|DOUBT|WATCH|SINKING|INNER|DEPARTURE
1D348 TETRAGRAM FOR |DARKENING|DIMMING|EXHAUSTION|SEVERANCE|STOPPAGE|HARDNESS|COMPLETION|CLOSURE
1D350 TETRAGRAM FOR |FAILURE|AGGRAVATION|COMPLIANCE|ON THE VERGE|DIFFICULTIES|LABOURING|FOSTERING
1D360 COUNTING ROD UNIT DIGIT |ONE|TWO|THREE|FOUR|FIVE|SIX|SEVEN|EIGHT|NINE
1D369 COUNTING ROD TENS DIGIT |ONE|TWO|THREE|FOUR|FIVE|SIX|SEVEN|EIGHT|NINE
1D372 IDEOGRAPHIC TALLY MARK |ONE|TWO|THREE|FOUR|FIVE
1D377 TALLY MARK |ONE|FIVE
1D400 MATHEMATICAL BOLD CAPITAL |A|B|C|D|E|F|G|H|I|J|K|L|M|N|O|P|Q|R|S|T|U|V|W|X|Y|Z
1D41A MATHEMATICAL BOLD SMALL |A|B|C|D|E|F|G|H|I|J|K|L|M|N|O|P|Q|R|S|T|U|V|W|X|Y|Z
1D434 MATHEMATICAL ITALIC CAPITAL |A|B|C|D|E|F|G|H|I|J|K|L|M|N|O|P|Q|R|S|T|U|V|W|X|Y|Z
1D44E MATHEMATICAL ITALIC SMALL |A|B|C|D|E|F|G
1D456 MATHEMATICAL ITALIC SMALL |I|J|K|L|M|N|O|P|Q|R|S|T|U|V|W|X|Y|Z
1D468 MATHEMATICAL BOLD ITALIC CAPITAL |A|B|C|D|E|F|G|H|I|J|K|L|M|N|O|P|Q|R|S|T|U|V|W|X|Y|Z
1D482 MATHEMATICAL BOLD ITALIC SMALL |A|B|C|D|E|F|G|H|I|J|K|L|M|N|O|P|Q|R|S|T|U|V|W|X|Y|Z
1D49C |MATHEMATICAL SCRIPT CAPITAL A
1D49E MATHEMATICAL SCRIPT CAPITAL |C|D
1D4A2 |MATHEMATICAL SCRIPT CAPITAL G
1D4A5 MATHEMATICAL SCRIPT CAPITAL |J|K
1D4A9 MATHEMATICAL SCRIPT CAPITAL |N|O|P|Q
1D4AE MATHEMATICAL SCRIPT CAPITAL |S|T|U|V|W|X|Y|Z
1D4B6 MATHEMATICAL SCRIPT SMALL |A|B|C|D
1D4BB |MATHEMATICAL SCRIPT SMALL F
1D4BD MATHEMATICAL SCRIPT SMALL |H|I|J|K|L|M|N
1D4C5 MATHEMATICAL SCRIPT SMALL |P|Q|R|S|T|U|V|W|X|Y|Z
1D4D0 MATHEMATICAL BOLD SCRIPT CAPITAL |A|B|C|D|E|F|G|H|I|J|K|L|M|N|O|P|Q|R|S|T|U|V|W|X|Y|Z
1D4EA MATHEMATICAL BOLD SCRIPT SMALL |A|B|C|D|E|F|G|H|I|J|K|L|M|N|O|P|Q|R|S|T|U|V|W|X|Y|Z
1D504 MATHEMATICAL FRAKTUR CAPITAL |A|B
1D507 MATHEMATICAL FRAKTUR CAPITAL |D|E|F|G
1D50D MATHEMATICAL FRAKTUR CAPITAL |J|K|L|M|N|O|P|Q
1D516 MATHEMATICAL FRAKTUR CAPITAL |S|T|U|V|W|X|Y
1D51E MATHEMATICAL FRAKTUR SMALL |A|B|C|D|E|F|G|H|I|J|K|L|M|N|O|P|Q|R|S|T|U|V|W|X|Y|Z
1D538 MATHEMATICAL DOUBLE-STRUCK CAPITAL |A|B
1D53B MATHEMATICAL DOUBLE-STRUCK CAPITAL |D|E|F|G
1D540 MATHEMATICAL DOUBLE-STRUCK CAPITAL |I|J|K|L|M
1D546 |MATHEMATICAL DOUBLE-STRUCK CAPITAL O
1D54A MATHEMATICAL DOUBLE-STRUCK CAPITAL |S|T|U|V|W|X|Y
1D552 MATHEMATICAL DOUBLE-STRUCK SMALL |A|B|C|D|E|F|G|H|I|J|K|L|M|N|O|P|Q|R|S|T|U|V|W|X|Y|Z
1D56C MATHEMATICAL BOLD FRAKTUR CAPITAL |A|B|C|D|E|F|G|H|I|J|K|L|M|N|O|P|Q|R|S|T|U|V|W|X|Y|Z
1D586 MATHEMATICAL BOLD FRAKTUR SMALL |A|B|C|D|E|F|G|H|I|J|K|L|M|N|O|P|Q|R|S|T|U|V|W|X|Y|Z
1D5A0 MATHEMATICAL SANS-SERIF CAPITAL |A|B|C|D|E|F|G|H|I|J|K|L|M|N|O|P|Q|R|S|T|U|V|W|X|Y|Z
1D5BA MATHEMATICAL SANS-SERIF SMALL |A|B|C|D|E|F|G|H|I|J|K|L|M|N|O|P|Q|R|S|T|U|V|W|X|Y|Z
1D5D4 MATHEMATICAL SANS-SERIF BOLD CAPITAL |A|B|C|D|E|F|G|H|I|J|K|L|M|N|O|P|Q|R|S|T|U|V|W|X|Y|Z
1D5EE MATHEMATICAL SANS-SERIF BOLD SMALL |A|B|C|D|E|F|G|H|I|J|K|L|M|N|O|P|Q|R|S|T|U|V|W|X|Y|Z
1D608 MATHEMATICAL SANS-SERIF ITALIC CAPITAL |A|B|C|D|E|F|G|H|I|J|K|L|M|N|O|P|Q|R|S|T|U|V|W|X|Y|Z
1D622 MATHEMATICAL SANS-SERIF ITALIC SMALL |A|B|C|D|E|F|G|H|I|J|K|L|M|N|O|P|Q|R|S|T|U|V|W|X|Y|Z
1D63C MATHEMATICAL SANS-SERIF BOLD ITALIC CAPITAL |A|B|C|D|E|F|G|H|I|J|K|L|M|N|O|P|Q|R|S|T|U|V|W|X
1D654 MATHEMATICAL SANS-SERIF BOLD ITALIC |CAPITAL Y|CAPITAL Z|SMALL A
1D657 MATHEMATICAL SANS-SERIF BOLD ITALIC SMALL |B|C|D|E|F|G|H|I|J|K|L|M|N|O|P|Q|R|S|T|U|V|W|X|Y|Z
1D670 MATHEMATICAL MONOSPACE CAPITAL |A|B|C|D|E|F|G|H|I|J|K|L|M|N|O|P|Q|R|S|T|U|V|W|X|Y|Z
1D68A MATHEMATICAL MONOSPACE SMALL |A|B|C|D|E|F|G|H|I|J|K|L|M|N|O|P|Q|R|S|T|U|V|W|X|Y|Z
1D6A4 MATHEMATICAL ITALIC SMALL DOTLESS |I|J
1D6A8 MATHEMATICAL BOLD CAPITAL |ALPHA|BETA|GAMMA|DELTA|EPSILON|ZETA|ETA|THETA|IOTA|KAPPA|LAMDA|MU
1D6B4 MATHEMATICAL BOLD CAPITAL |NU|XI|OMICRON|PI|RHO|THETA SYMBOL|SIGMA|TAU|UPSILON|PHI|CHI|PSI
1D6C0 MATHEMATICAL BOLD |CAPITAL OMEGA|NABLA
1D6C2 MATHEMATICAL BOLD SMALL |ALPHA|BETA|GAMMA|DELTA|EPSILON|ZETA|ETA|THETA|IOTA|KAPPA|LAMDA
1D6CD MATHEMATICAL BOLD SMALL |MU|NU|XI|OMICRON|PI|RHO|FINAL SIGMA|SIGMA|TAU|UPSILON|PHI|CHI|PSI
1D6DA MATHEMATICAL BOLD |SMALL OMEGA|PARTIAL DIFFERENTIAL
1D6DC MATHEMATICAL BOLD |EPSILON SYMBOL|THETA SYMBOL|KAPPA SYMBOL|PHI SYMBOL|RHO SYMBOL|PI SYMBOL
1D6E2 MATHEMATICAL ITALIC CAPITAL |ALPHA|BETA|GAMMA|DELTA|EPSILON|ZETA|ETA|THETA|IOTA|KAPPA|LAMDA
1D6ED MATHEMATICAL ITALIC CAPITAL |MU|NU|XI|OMICRON|PI|RHO|THETA SYMBOL|SIGMA|TAU|UPSILON|PHI|CHI
1D6F9 MATHEMATICAL ITALIC |CAPITAL PSI|CAPITAL OMEGA|NABLA
1D6FC MATHEMATICAL ITALIC SMALL |ALPHA|BETA|GAMMA|DELTA|EPSILON|ZETA|ETA|THETA|IOTA|KAPPA|LAMDA
1D707 MATHEMATICAL ITALIC SMALL |MU|NU|XI|OMICRON|PI|RHO|FINAL SIGMA|SIGMA|TAU|UPSILON|PHI|CHI|PSI
1D714 MATHEMATICAL ITALIC |SMALL OMEGA|PARTIAL DIFFERENTIAL|EPSILON SYMBOL
1D717 MATHEMATICAL ITALIC |THETA SYMBOL|KAPPA SYMBOL|PHI SYMBOL|RHO SYMBOL|PI SYMBOL
1D71C MATHEMATICAL BOLD ITALIC CAPITAL |ALPHA|BETA|GAMMA|DELTA
1D720 MATHEMATICAL BOLD ITALIC CAPITAL |EPSILON|ZETA|ETA|THETA|IOTA|KAPPA|LAMDA|MU|NU|XI|OMICRON
1D72B MATHEMATICAL BOLD ITALIC CAPITAL |PI|RHO|THETA SYMBOL|SIGMA|TAU|UPSILON|PHI|CHI|PSI|OMEGA
1D735 MATHEMATICAL BOLD ITALIC |NABLA|SMALL ALPHA
1D737 MATHEMATICAL BOLD ITALIC SMALL |BETA|GAMMA|DELTA|EPSILON|ZETA|ETA|THETA|IOTA|KAPPA|LAMDA|MU
1D742 MATHEMATICAL BOLD ITALIC SMALL |NU|XI|OMICRON|PI|RHO|FINAL SIGMA|SIGMA|TAU|UPSILON|PHI|CHI
1D74D MATHEMATICAL BOLD ITALIC |SMALL PSI|SMALL OMEGA|PARTIAL DIFFERENTIAL|EPSILON SYMBOL
1D751 MATHEMATICAL BOLD ITALIC |THETA SYMBOL|KAPPA SYMBOL|PHI SYMBOL|RHO SYMBOL|PI SYMBOL
1D756 MATHEMATICAL SANS-SERIF BOLD CAPITAL |ALPHA|BETA|GAMMA|DELTA|EPSILON
1D75B MATHEMATICAL SANS-SERIF BOLD CAPITAL |ZETA|ETA|THETA|IOTA|KAPPA|LAMDA|MU|NU|XI|OMICRON|PI
1D766 MATHEMATICAL SANS-SERIF BOLD CAPITAL |RHO|THETA SYMBOL|SIGMA|TAU|UPSILON|PHI|CHI|PSI|OMEGA
1D76F MATHEMATICAL SANS-SERIF BOLD |NABLA|SMALL ALPHA|SMALL BETA|SMALL GAMMA
1D773 MATHEMATICAL SANS-SERIF BOLD SMALL |DELTA|EPSILON|ZETA|ETA|THETA|IOTA|KAPPA|LAMDA|MU|NU|XI
1D77E MATHEMATICAL SANS-SERIF BOLD SMALL |OMICRON|PI|RHO|FINAL SIGMA|SIGMA|TAU|UPSILON|PHI|CHI|PSI
1D788 MATHEMATICAL SANS-SERIF BOLD |SMALL OMEGA|PARTIAL DIFFERENTIAL|EPSILON SYMBOL
1D78B MATHEMATICAL SANS-SERIF BOLD |THETA SYMBOL|KAPPA SYMBOL|PHI SYMBOL|RHO SYMBOL|PI SYMBOL
1D790 MATHEMATICAL SANS-SERIF BOLD ITALIC CAPITAL |ALPHA|BETA|GAMMA|DELTA|EPSILON|ZETA
1D796 MATHEMATICAL SANS-SERIF BOLD ITALIC CAPITAL |ETA|THETA|IOTA|KAPPA|LAMDA|MU|NU|XI|OMICRON|PI
1D7A0 MATHEMATICAL SANS-SERIF BOLD ITALIC CAPITAL |RHO|THETA SYMBOL|SIGMA|TAU|UPSILON|PHI|CHI|PSI
1D7A8 MATHEMATICAL SANS-SERIF BOLD ITALIC |CAPITAL OMEGA|NABLA
1D7AA MATHEMATICAL SANS-SERIF BOLD ITALIC SMALL |ALPHA|BETA|GAMMA|DELTA|EPSILON|ZETA|ETA
1D7B1 MATHEMATICAL SANS-SERIF BOLD ITALIC SMALL |THETA|IOTA|KAPPA|LAMDA|MU|NU|XI|OMICRON|PI|RHO
1D7BB MATHEMATICAL SANS-SERIF BOLD ITALIC SMALL |FINAL SIGMA|SIGMA|TAU|UPSILON|PHI|CHI|PSI|OMEGA
1D7C3 MATHEMATICAL SANS-SERIF BOLD ITALIC |PARTIAL DIFFERENTIAL|EPSILON SYMBOL|THETA SYMBOL
1D7C6 MATHEMATICAL SANS-SERIF BOLD ITALIC |KAPPA SYMBOL|PHI SYMBOL|RHO SYMBOL|PI SYMBOL
1D7CA MATHEMATICAL BOLD |CAPITAL DIGAMMA|SMALL DIGAMMA
1D7CE MATHEMATICAL BOLD DIGIT |ZERO|ONE|TWO|THREE|FOUR|FIVE|SIX|SEVEN|EIGHT|NINE
1D7D8 MATHEMATICAL DOUBLE-STRUCK DIGIT |ZERO|ONE|TWO|THREE|FOUR|FIVE|SIX|SEVEN|EIGHT|NINE
1D7E2 MATHEMATICAL SANS-SERIF DIGIT |ZERO|ONE|TWO|THREE|FOUR|FIVE|SIX|SEVEN|EIGHT|NINE
1D7EC MATHEMATICAL SANS-SERIF BOLD DIGIT |ZERO|ONE|TWO|THREE|FOUR|FIVE|SIX|SEVEN|EIGHT|NINE
1D7F6 MATHEMATICAL MONOSPACE DIGIT |ZERO|ONE|TWO|THREE|FOUR|FIVE|SIX|SEVEN|EIGHT|NINE
1D800 SIGNWRITING HAND-|FIST INDEX|CIRCLE INDEX|CUP INDEX|OVAL INDEX|HINGE INDEX
1D805 SIGNWRITING HAND-|ANGLE INDEX|FIST INDEX BENT|CIRCLE INDEX BENT|FIST THUMB UNDER INDEX BENT
1D809 SIGNWRITING HAND-FIST INDEX |RAISED KNUCKLE|CUPPED|HINGED|HINGED LOW
1D80D SIGNWRITING HAND-|CIRCLE INDEX HINGE|FIST INDEX MIDDLE|CIRCLE INDEX MIDDLE
1D810 SIGNWRITING HAND-FIST INDEX MIDDLE |BENT|RAISED KNUCKLES|HINGED
1D813 SIGNWRITING HAND-FIST INDEX |UP MIDDLE HINGED|HINGED MIDDLE UP|MIDDLE CONJOINED
1D816 SIGNWRITING HAND-FIST INDEX MIDDLE CONJOINED |INDEX BENT|MIDDLE BENT|CUPPED|HINGED
1D81A SIGNWRITING HAND-|FIST INDEX MIDDLE CROSSED|CIRCLE INDEX MIDDLE CROSSED
1D81C SIGNWRITING HAND-FIST |MIDDLE BENT OVER INDEX|INDEX BENT OVER MIDDLE|INDEX MIDDLE THUMB
1D81F SIGNWRITING HAND-|CIRCLE INDEX MIDDLE THUMB|FIST INDEX MIDDLE STRAIGHT THUMB BENT
1D821 SIGNWRITING HAND-FIST INDEX MIDDLE |BENT THUMB STRAIGHT|THUMB BENT|HINGED SPREAD THUMB SIDE
1D824 SIGNWRITING HAND-FIST INDEX UP MIDDLE HINGED THUMB |SIDE|CONJOINED
1D826 SIGNWRITING HAND-FIST INDEX |HINGED MIDDLE UP THUMB SIDE|MIDDLE UP SPREAD THUMB FORWARD
1D828 SIGNWRITING HAND-FIST INDEX MIDDLE THUMB |CUPPED|CIRCLED|HOOKED|HINGED
1D82C |SIGNWRITING HAND-FIST THUMB BETWEEN INDEX MIDDLE STRAIGHT
1D82D SIGNWRITING HAND-FIST INDEX MIDDLE CONJOINED THUMB |SIDE|SIDE CONJOINED|SIDE BENT
1D830 SIGNWRITING HAND-FIST |MIDDLE THUMB HOOKED INDEX UP|INDEX THUMB HOOKED MIDDLE UP
1D832 SIGNWRITING HAND-FIST INDEX MIDDLE |CONJOINED HINGED THUMB SIDE|CROSSED THUMB SIDE
1D834 SIGNWRITING HAND-FIST INDEX MIDDLE CONJOINED |THUMB FORWARD|CUPPED THUMB FORWARD
1D836 SIGNWRITING HAND-FIST |MIDDLE THUMB CUPPED INDEX UP|INDEX THUMB CUPPED MIDDLE UP
1D838 SIGNWRITING HAND-FIST MIDDLE THUMB CIRCLED INDEX |UP|HINGED
1D83A SIGNWRITING HAND-FIST INDEX THUMB ANGLED |OUT MIDDLE UP|IN MIDDLE UP
1D83C |SIGNWRITING HAND-FIST INDEX THUMB CIRCLED MIDDLE UP
1D83D SIGNWRITING HAND-FIST INDEX MIDDLE THUMB |CONJOINED HINGED|ANGLED OUT|ANGLED
1D840 SIGNWRITING HAND-FIST MIDDLE THUMB ANGLED |OUT INDEX UP|OUT INDEX CROSSED|INDEX UP
1D843 SIGNWRITING HAND-|FIST INDEX THUMB HOOKED MIDDLE HINGED|FLAT FOUR FINGERS
1D845 SIGNWRITING HAND-FLAT FOUR FINGERS |BENT|HINGED|CONJOINED|CONJOINED SPLIT
1D849 SIGNWRITING HAND-|CLAW FOUR FINGERS CONJOINED|FIST FOUR FINGERS CONJOINED BENT
1D84B SIGNWRITING HAND-|HINGE FOUR FINGERS CONJOINED|FLAT FIVE FINGERS SPREAD
1D84D SIGNWRITING HAND-FLAT |HEEL FIVE FINGERS SPREAD|FIVE FINGERS SPREAD FOUR BENT
1D84F SIGNWRITING HAND-FLAT |HEEL FIVE FINGERS SPREAD FOUR BENT|FIVE FINGERS SPREAD BENT
1D851 SIGNWRITING HAND-FLAT |HEEL FIVE FINGERS SPREAD BENT|FIVE FINGERS SPREAD THUMB FORWARD
1D853 SIGNWRITING HAND-CUP FIVE FINGERS |SPREAD|SPREAD OPEN
1D855 SIGNWRITING HAND-|HINGE FIVE FINGERS SPREAD OPEN|OVAL FIVE FINGERS SPREAD
1D857 SIGNWRITING HAND-FLAT FIVE FINGERS SPREAD |HINGED|HINGED THUMB SIDE|HINGED NO THUMB
1D85A SIGNWRITING HAND-|FLAT|FLAT BETWEEN PALM FACINGS|FLAT HEEL|FLAT THUMB SIDE
1D85E SIGNWRITING HAND-FLAT |HEEL THUMB SIDE|THUMB BENT|THUMB FORWARD|SPLIT INDEX THUMB SIDE
1D862 SIGNWRITING HAND-FLAT SPLIT |CENTRE|CENTRE THUMB SIDE|CENTRE THUMB SIDE BENT|LITTLE
1D866 SIGNWRITING HAND-|CLAW|CLAW THUMB SIDE
1D868 SIGNWRITING HAND-|CLAW NO THUMB|CLAW THUMB FORWARD|HOOK CURLICUE|HOOK|CUP OPEN|CUP
1D86E SIGNWRITING HAND-CUP |OPEN THUMB SIDE|THUMB SIDE|OPEN NO THUMB|NO THUMB|OPEN THUMB FORWARD
1D873 SIGNWRITING HAND-|CUP THUMB FORWARD|CURLICUE OPEN|CURLICUE|CIRCLE|OVAL|OVAL THUMB SIDE
1D879 SIGNWRITING HAND-|OVAL NO THUMB|OVAL THUMB FORWARD|HINGE OPEN|HINGE OPEN THUMB FORWARD|HINGE
1D87E SIGNWRITING HAND-HINGE |SMALL|OPEN THUMB SIDE|THUMB SIDE|OPEN NO THUMB|NO THUMB
1D883 SIGNWRITING HAND-HINGE THUMB |SIDE TOUCHING INDEX|BETWEEN MIDDLE RING
1D885 SIGNWRITING HAND-|ANGLE|FIST INDEX MIDDLE RING|CIRCLE INDEX MIDDLE RING
1D888 SIGNWRITING HAND-|HINGE INDEX MIDDLE RING|ANGLE INDEX MIDDLE RING|HINGE LITTLE
1D88B SIGNWRITING HAND-FIST INDEX MIDDLE RING |BENT|CONJOINED
1D88D SIGNWRITING HAND-|HINGE INDEX MIDDLE RING CONJOINED|FIST LITTLE DOWN
1D88F SIGNWRITING HAND-FIST LITTLE |DOWN RIPPLE STRAIGHT|DOWN RIPPLE CURVED|DOWN OTHERS CIRCLED|UP
1D893 SIGNWRITING HAND-|FIST THUMB UNDER LITTLE UP|CIRCLE LITTLE UP|OVAL LITTLE UP|ANGLE LITTLE UP
1D897 SIGNWRITING HAND-FIST LITTLE |RAISED KNUCKLE|BENT|TOUCHES THUMB|THUMB
1D89B SIGNWRITING HAND-|HINGE LITTLE THUMB|FIST LITTLE INDEX THUMB|HINGE LITTLE INDEX THUMB
1D89E SIGNWRITING HAND-ANGLE LITTLE INDEX THUMB INDEX |THUMB OUT|THUMB
1D8A0 SIGNWRITING HAND-|FIST LITTLE INDEX|CIRCLE LITTLE INDEX|HINGE LITTLE INDEX
1D8A3 SIGNWRITING HAND-|ANGLE LITTLE INDEX|FIST INDEX MIDDLE LITTLE|CIRCLE INDEX MIDDLE LITTLE
1D8A6 SIGNWRITING HAND-|HINGE INDEX MIDDLE LITTLE|HINGE RING|ANGLE INDEX MIDDLE LITTLE
1D8A9 SIGNWRITING HAND-|FIST INDEX MIDDLE CROSS LITTLE|CIRCLE INDEX MIDDLE CROSS LITTLE
1D8AB SIGNWRITING HAND-|FIST RING DOWN|HINGE RING DOWN INDEX THUMB HOOK MIDDLE
1D8AD |SIGNWRITING HAND-ANGLE RING DOWN MIDDLE THUMB INDEX CROSS
1D8AE SIGNWRITING HAND-FIST RING |UP|RAISED KNUCKLE|LITTLE
1D8B1 SIGNWRITING HAND-|CIRCLE RING LITTLE|OVAL RING LITTLE|ANGLE RING LITTLE
1D8B4 SIGNWRITING HAND-FIST RING |MIDDLE|MIDDLE CONJOINED|MIDDLE RAISED KNUCKLES|INDEX|THUMB
1D8B9 SIGNWRITING HAND-|HOOK RING THUMB|FIST INDEX RING LITTLE
1D8BB SIGNWRITING HAND-|CIRCLE INDEX RING LITTLE|CURLICUE INDEX RING LITTLE ON
1D8BD SIGNWRITING HAND-HOOK INDEX RING LITTLE |OUT|IN|UNDER
1D8C0 SIGNWRITING HAND-|CUP INDEX RING LITTLE|HINGE INDEX RING LITTLE
1D8C2 SIGNWRITING HAND-ANGLE INDEX RING |LITTLE OUT|LITTLE
1D8C4 SIGNWRITING HAND-|FIST MIDDLE DOWN|HINGE MIDDLE|FIST MIDDLE UP|CIRCLE MIDDLE UP
1D8C8 SIGNWRITING HAND-|FIST MIDDLE RAISED KNUCKLE|FIST MIDDLE UP THUMB SIDE|HOOK MIDDLE THUMB
1D8CB SIGNWRITING HAND-FIST MIDDLE |THUMB LITTLE|LITTLE|RING LITTLE
1D8CE SIGNWRITING HAND-|CIRCLE MIDDLE RING LITTLE|CURLICUE MIDDLE RING LITTLE ON
1D8D0 SIGNWRITING HAND-|CUP MIDDLE RING LITTLE|HINGE MIDDLE RING LITTLE
1D8D2 SIGNWRITING HAND-ANGLE MIDDLE RING |LITTLE OUT|LITTLE IN|LITTLE
1D8D5 |SIGNWRITING HAND-CIRCLE MIDDLE RING LITTLE BENT
1D8D6 SIGNWRITING HAND-CLAW MIDDLE RING LITTLE |CONJOINED|CONJOINED SIDE
1D8D8 SIGNWRITING HAND-HOOK MIDDLE RING LITTLE |CONJOINED OUT|CONJOINED IN|CONJOINED
1D8DB SIGNWRITING HAND-|HINGE INDEX HINGED|FIST INDEX THUMB SIDE|HINGE INDEX THUMB SIDE
1D8DE SIGNWRITING HAND-FIST INDEX THUMB SIDE THUMB |DIAGONAL|CONJOINED|BENT
1D8E1 SIGNWRITING HAND-FIST INDEX THUMB SIDE |INDEX BENT|BOTH BENT|INDEX HINGE
1D8E4 SIGNWRITING HAND-FIST INDEX THUMB |FORWARD INDEX STRAIGHT|FORWARD INDEX BENT|HOOK|CURLICUE
1D8E8 SIGNWRITING HAND-|FIST INDEX THUMB CURVE THUMB INSIDE|CLAW INDEX THUMB CURVE THUMB INSIDE
1D8EA SIGNWRITING HAND-FIST INDEX THUMB |CURVE THUMB UNDER|CIRCLE
1D8EC SIGNWRITING HAND-CUP INDEX |THUMB|THUMB OPEN
1D8EE SIGNWRITING HAND-HINGE INDEX |THUMB OPEN|THUMB LARGE|THUMB|THUMB SMALL
1D8F2 SIGNWRITING HAND-|ANGLE INDEX THUMB OUT|ANGLE INDEX THUMB IN|ANGLE INDEX THUMB|FIST THUMB
1D8F6 SIGNWRITING HAND-FIST THUMB |HEEL|SIDE DIAGONAL|SIDE CONJOINED|SIDE BENT|FORWARD
1D8FB SIGNWRITING HAND-FIST THUMB BETWEEN |INDEX MIDDLE|MIDDLE RING|RING LITTLE
1D8FE SIGNWRITING HAND-FIST THUMB |UNDER TWO FINGERS|OVER TWO FINGERS|UNDER THREE FINGERS
1D901 SIGNWRITING HAND-FIST THUMB |UNDER FOUR FINGERS|OVER FOUR RAISED KNUCKLES
1D903 SIGNWRITING |HAND-FIST|HAND-FIST HEEL|TOUCH SINGLE|TOUCH MULTIPLE|TOUCH BETWEEN
1D908 SIGNWRITING GRASP |SINGLE|MULTIPLE|BETWEEN
1D90B SIGNWRITING STRIKE |SINGLE|MULTIPLE|BETWEEN
1D90E SIGNWRITING BRUSH |SINGLE|MULTIPLE|BETWEEN
1D911 SIGNWRITING |RUB SINGLE|RUB MULTIPLE|RUB BETWEEN|SURFACE SYMBOLS|SURFACE BETWEEN
1D916 SIGNWRITING SQUEEZE |LARGE SINGLE|SMALL SINGLE|LARGE MULTIPLE|SMALL MULTIPLE|SEQUENTIAL
1D91B SIGNWRITING FLICK |LARGE SINGLE|SMALL SINGLE|LARGE MULTIPLE|SMALL MULTIPLE|SEQUENTIAL
1D920 |SIGNWRITING SQUEEZE FLICK ALTERNATING
1D921 SIGNWRITING MOVEMENT-HINGE |UP DOWN LARGE|UP DOWN SMALL|UP SEQUENTIAL|DOWN SEQUENTIAL
1D925 SIGNWRITING MOVEMENT-HINGE UP DOWN ALTERNATING |LARGE|SMALL
1D927 |SIGNWRITING MOVEMENT-HINGE SIDE TO SIDE SCISSORS
1D928 SIGNWRITING MOVEMENT-|WALLPLANE FINGER CONTACT|FLOORPLANE FINGER CONTACT
1D92A SIGNWRITING MOVEMENT-WALLPLANE SINGLE STRAIGHT |SMALL|MEDIUM|LARGE|LARGEST
1D92E |SIGNWRITING MOVEMENT-WALLPLANE SINGLE WRIST FLEX
1D92F SIGNWRITING MOVEMENT-WALLPLANE DOUBLE |STRAIGHT|WRIST FLEX|ALTERNATING
1D932 SIGNWRITING MOVEMENT-WALLPLANE |DOUBLE ALTERNATING WRIST FLEX|CROSS|TRIPLE STRAIGHT MOVEMENT
1D935 SIGNWRITING MOVEMENT-WALLPLANE TRIPLE |WRIST FLEX|ALTERNATING|ALTERNATING WRIST FLEX
1D938 SIGNWRITING MOVEMENT-WALLPLANE BEND |SMALL|MEDIUM|LARGE
1D93B SIGNWRITING MOVEMENT-WALLPLANE CORNER |SMALL|MEDIUM|LARGE|ROTATION
1D93F SIGNWRITING MOVEMENT-WALLPLANE CHECK |SMALL|MEDIUM|LARGE
1D942 SIGNWRITING MOVEMENT-WALLPLANE |BOX SMALL|BOX MEDIUM|BOX LARGE|ZIGZAG SMALL|ZIGZAG MEDIUM
1D947 SIGNWRITING MOVEMENT-WALLPLANE |ZIGZAG LARGE|PEAKS SMALL|PEAKS MEDIUM|PEAKS LARGE
1D94B SIGNWRITING TRAVEL-WALLPLANE ROTATION-WALLPLANE |SINGLE|DOUBLE|ALTERNATING
1D94E SIGNWRITING TRAVEL-WALLPLANE ROTATION-FLOORPLANE |SINGLE|DOUBLE|ALTERNATING
1D951 SIGNWRITING TRAVEL-WALLPLANE |SHAKING|ARM SPIRAL SINGLE|ARM SPIRAL DOUBLE|ARM SPIRAL TRIPLE
1D955 SIGNWRITING MOVEMENT-DIAGONAL AWAY |SMALL|MEDIUM|LARGE|LARGEST
1D959 SIGNWRITING MOVEMENT-DIAGONAL TOWARDS |SMALL|MEDIUM|LARGE|LARGEST
1D95D SIGNWRITING MOVEMENT-DIAGONAL BETWEEN AWAY |SMALL|MEDIUM|LARGE|LARGEST
1D961 SIGNWRITING MOVEMENT-DIAGONAL BETWEEN TOWARDS |SMALL|MEDIUM|LARGE|LARGEST
1D965 SIGNWRITING MOVEMENT-FLOORPLANE SINGLE STRAIGHT |SMALL|MEDIUM|LARGE|LARGEST
1D969 SIGNWRITING MOVEMENT-FLOORPLANE |SINGLE WRIST FLEX|DOUBLE STRAIGHT
1D96B SIGNWRITING MOVEMENT-FLOORPLANE DOUBLE |WRIST FLEX|ALTERNATING|ALTERNATING WRIST FLEX
1D96E SIGNWRITING MOVEMENT-FLOORPLANE |CROSS|TRIPLE STRAIGHT MOVEMENT|TRIPLE WRIST FLEX
1D971 SIGNWRITING MOVEMENT-FLOORPLANE TRIPLE ALTERNATING |MOVEMENT|WRIST FLEX
1D973 SIGNWRITING MOVEMENT-FLOORPLANE |BEND|CORNER SMALL|CORNER MEDIUM|CORNER LARGE|CHECK
1D978 SIGNWRITING MOVEMENT-FLOORPLANE |BOX SMALL|BOX MEDIUM|BOX LARGE|ZIGZAG SMALL|ZIGZAG MEDIUM
1D97D SIGNWRITING MOVEMENT-FLOORPLANE |ZIGZAG LARGE|PEAKS SMALL|PEAKS MEDIUM|PEAKS LARGE
1D981 SIGNWRITING TRAVEL-FLOORPLANE ROTATION-FLOORPLANE |SINGLE|DOUBLE|ALTERNATING
1D984 SIGNWRITING TRAVEL-FLOORPLANE ROTATION-WALLPLANE |SINGLE|DOUBLE|ALTERNATING
1D987 |SIGNWRITING TRAVEL-FLOORPLANE SHAKING
1D988 SIGNWRITING MOVEMENT-WALLPLANE CURVE QUARTER |SMALL|MEDIUM|LARGE|LARGEST
1D98C SIGNWRITING MOVEMENT-WALLPLANE CURVE HALF-CIRCLE |SMALL|MEDIUM|LARGE|LARGEST
1D990 SIGNWRITING MOVEMENT-WALLPLANE CURVE THREE-QUARTER CIRCLE |SMALL|MEDIUM
1D992 SIGNWRITING MOVEMENT-WALLPLANE HUMP |SMALL|MEDIUM|LARGE
1D995 SIGNWRITING MOVEMENT-WALLPLANE LOOP |SMALL|MEDIUM|LARGE|SMALL DOUBLE
1D999 SIGNWRITING MOVEMENT-WALLPLANE WAVE CURVE DOUBLE |SMALL|MEDIUM|LARGE
1D99C SIGNWRITING MOVEMENT-WALLPLANE WAVE CURVE TRIPLE |SMALL|MEDIUM|LARGE
1D99F SIGNWRITING MOVEMENT-WALLPLANE |CURVE THEN STRAIGHT|CURVED CROSS SMALL|CURVED CROSS MEDIUM
1D9A2 SIGNWRITING ROTATION-WALLPLANE |SINGLE|DOUBLE|ALTERNATE
1D9A5 SIGNWRITING MOVEMENT-WALLPLANE |SHAKING|CURVE HITTING FRONT WALL|HUMP HITTING FRONT WALL
1D9A8 SIGNWRITING MOVEMENT-WALLPLANE |LOOP HITTING FRONT WALL|WAVE HITTING FRONT WALL
1D9AA |SIGNWRITING ROTATION-WALLPLANE SINGLE HITTING FRONT WALL
1D9AB SIGNWRITING ROTATION-WALLPLANE |DOUBLE HITTING FRONT WALL|ALTERNATING HITTING FRONT WALL
1D9AD SIGNWRITING MOVEMENT-WALLPLANE |CURVE HITTING CHEST|HUMP HITTING CHEST|LOOP HITTING CHEST
1D9B0 SIGNWRITING |MOVEMENT-WALLPLANE WAVE HITTING CHEST|ROTATION-WALLPLANE SINGLE HITTING CHEST
1D9B2 SIGNWRITING ROTATION-WALLPLANE |DOUBLE HITTING CHEST|ALTERNATING HITTING CHEST
1D9B4 SIGNWRITING MOVEMENT-WALLPLANE WAVE DIAGONAL PATH |SMALL|MEDIUM|LARGE
1D9B7 SIGNWRITING MOVEMENT-FLOORPLANE CURVE HITTING CEILING |SMALL|LARGE
1D9B9 |SIGNWRITING MOVEMENT-FLOORPLANE HUMP HITTING CEILING SMALL DOUBLE
1D9BA SIGNWRITING MOVEMENT-FLOORPLANE HUMP HITTING CEILING |LARGE DOUBLE|SMALL TRIPLE|LARGE TRIPLE
1D9BD |SIGNWRITING MOVEMENT-FLOORPLANE LOOP HITTING CEILING SMALL SINGLE
1D9BE SIGNWRITING MOVEMENT-FLOORPLANE LOOP HITTING CEILING |LARGE SINGLE|SMALL DOUBLE|LARGE DOUBLE
1D9C1 SIGNWRITING MOVEMENT-FLOORPLANE WAVE HITTING CEILING |SMALL|LARGE
1D9C3 |SIGNWRITING ROTATION-FLOORPLANE SINGLE HITTING CEILING
1D9C4 SIGNWRITING ROTATION-FLOORPLANE |DOUBLE HITTING CEILING|ALTERNATING HITTING CEILING
1D9C6 SIGNWRITING MOVEMENT-FLOORPLANE CURVE HITTING FLOOR |SMALL|LARGE
1D9C8 SIGNWRITING MOVEMENT-FLOORPLANE HUMP HITTING FLOOR |SMALL DOUBLE|LARGE DOUBLE
1D9CA SIGNWRITING MOVEMENT-FLOORPLANE HUMP HITTING FLOOR TRIPLE |SMALL TRIPLE|LARGE TRIPLE
1D9CC |SIGNWRITING MOVEMENT-FLOORPLANE LOOP HITTING FLOOR SMALL SINGLE
1D9CD SIGNWRITING MOVEMENT-FLOORPLANE LOOP HITTING FLOOR |LARGE SINGLE|SMALL DOUBLE|LARGE DOUBLE
1D9D0 SIGNWRITING MOVEMENT-FLOORPLANE WAVE HITTING FLOOR |SMALL|LARGE
1D9D2 |SIGNWRITING ROTATION-FLOORPLANE SINGLE HITTING FLOOR
1D9D3 SIGNWRITING ROTATION-FLOORPLANE |DOUBLE HITTING FLOOR|ALTERNATING HITTING FLOOR
1D9D5 SIGNWRITING MOVEMENT-FLOORPLANE CURVE |SMALL|MEDIUM|LARGE|LARGEST|COMBINED
1D9DA SIGNWRITING MOVEMENT-FLOORPLANE |HUMP SMALL|LOOP SMALL|WAVE SNAKE|WAVE SMALL|WAVE LARGE
1D9DF SIGNWRITING ROTATION-FLOORPLANE |SINGLE|DOUBLE|ALTERNATING
1D9E2 SIGNWRITING MOVEMENT-|FLOORPLANE SHAKING PARALLEL|WALLPLANE ARM CIRCLE SMALL SINGLE
1D9E4 SIGNWRITING MOVEMENT-WALLPLANE ARM CIRCLE |MEDIUM SINGLE|SMALL DOUBLE|MEDIUM DOUBLE
1D9E7 SIGNWRITING MOVEMENT-FLOORPLANE ARM CIRCLE HITTING WALL |SMALL SINGLE|MEDIUM SINGLE
1D9E9 SIGNWRITING MOVEMENT-FLOORPLANE ARM CIRCLE HITTING WALL |LARGE SINGLE|SMALL DOUBLE
1D9EB SIGNWRITING MOVEMENT-FLOORPLANE ARM CIRCLE HITTING WALL |MEDIUM DOUBLE|LARGE DOUBLE
1D9ED SIGNWRITING MOVEMENT-WALLPLANE WRIST CIRCLE FRONT |SINGLE|DOUBLE
1D9EF SIGNWRITING MOVEMENT-FLOORPLANE WRIST CIRCLE HITTING WALL |SINGLE|DOUBLE
1D9F1 SIGNWRITING MOVEMENT-WALLPLANE FINGER CIRCLES |SINGLE|DOUBLE
1D9F3 SIGNWRITING MOVEMENT-FLOORPLANE FINGER CIRCLES HITTING WALL |SINGLE|DOUBLE
1D9F5 SIGNWRITING DYNAMIC |ARROWHEAD SMALL|ARROWHEAD LARGE|FAST|SLOW|TENSE
1D9FA SIGNWRITING DYNAMIC |RELAXED|SIMULTANEOUS|SIMULTANEOUS ALTERNATING|EVERY OTHER TIME|GRADUAL
1D9FF SIGNWRITING |HEAD|HEAD RIM
1DA01 SIGNWRITING HEAD MOVEMENT-|WALLPLANE STRAIGHT|WALLPLANE TILT|FLOORPLANE STRAIGHT
1DA04 SIGNWRITING HEAD |MOVEMENT-WALLPLANE CURVE|MOVEMENT-FLOORPLANE CURVE|MOVEMENT CIRCLE
1DA07 SIGNWRITING FACE DIRECTION POSITION NOSE |FORWARD TILTING|UP OR DOWN|UP OR DOWN TILTING
1DA0A SIGNWRITING EYEBROWS STRAIGHT |UP|NEUTRAL|DOWN
1DA0D SIGNWRITING DREAMY EYEBROWS |NEUTRAL DOWN|DOWN NEUTRAL|UP NEUTRAL|NEUTRAL UP
1DA11 SIGNWRITING FOREHEAD |NEUTRAL|CONTACT|WRINKLED
1DA14 SIGNWRITING |EYES OPEN|EYES SQUEEZED|EYES CLOSED|EYE BLINK SINGLE|EYE BLINK MULTIPLE
1DA19 SIGNWRITING |EYES HALF OPEN|EYES WIDE OPEN|EYES HALF CLOSED|EYES WIDENING MOVEMENT|EYE WINK
1DA1E SIGNWRITING EYELASHES |UP|DOWN|FLUTTERING
1DA21 SIGNWRITING EYEGAZE-WALLPLANE |STRAIGHT|STRAIGHT DOUBLE|STRAIGHT ALTERNATING
1DA24 SIGNWRITING EYEGAZE-FLOORPLANE |STRAIGHT|STRAIGHT DOUBLE|STRAIGHT ALTERNATING
1DA27 SIGNWRITING EYEGAZE-|WALLPLANE CURVED|FLOORPLANE CURVED|WALLPLANE CIRCLING
1DA2A SIGNWRITING CHEEKS |PUFFED|NEUTRAL|SUCKED
1DA2D SIGNWRITING TENSE CHEEKS |HIGH|MIDDLE|LOW
1DA30 SIGNWRITING |EARS|NOSE NEUTRAL|NOSE CONTACT|NOSE WRINKLES|NOSE WIGGLES
1DA35 SIGNWRITING AIR |BLOWING OUT|SUCKING IN|BLOW SMALL ROTATIONS|SUCK SMALL ROTATIONS
1DA39 SIGNWRITING BREATH |INHALE|EXHALE
1DA3B SIGNWRITING MOUTH CLOSED |NEUTRAL|FORWARD|CONTACT
1DA3E SIGNWRITING MOUTH |SMILE|SMILE WRINKLED|SMILE OPEN|FROWN|FROWN WRINKLED|FROWN OPEN
1DA44 SIGNWRITING MOUTH OPEN |CIRCLE|FORWARD|WRINKLED|OVAL|OVAL WRINKLED|OVAL YAWN|RECTANGLE
1DA4B SIGNWRITING MOUTH OPEN RECTANGLE |WRINKLED|YAWN
1DA4D SIGNWRITING MOUTH |KISS|KISS FORWARD|KISS WRINKLED|TENSE|TENSE FORWARD|TENSE SUCKED
1DA53 SIGNWRITING |LIPS PRESSED TOGETHER|LIP LOWER OVER UPPER|LIP UPPER OVER LOWER|MOUTH CORNERS
1DA57 SIGNWRITING MOUTH WRINKLES |SINGLE|DOUBLE
1DA59 SIGNWRITING TONGUE |STICKING OUT FAR|LICKING LIPS|TIP BETWEEN LIPS|TIP TOUCHING INSIDE MOUTH
1DA5D SIGNWRITING TONGUE |INSIDE MOUTH RELAXED|MOVES AGAINST CHEEK|CENTRE STICKING OUT
1DA60 SIGNWRITING |TONGUE CENTRE INSIDE MOUTH|TEETH
1DA62 SIGNWRITING TEETH |MOVEMENT|ON TONGUE|ON TONGUE MOVEMENT|ON LIPS|ON LIPS MOVEMENT|BITE LIPS
1DA68 SIGNWRITING |MOVEMENT-WALLPLANE JAW|MOVEMENT-FLOORPLANE JAW|NECK|HAIR|EXCITEMENT
1DA6D SIGNWRITING |SHOULDER HIP SPINE|SHOULDER HIP POSITIONS|WALLPLANE SHOULDER HIP MOVE
1DA70 SIGNWRITING |FLOORPLANE SHOULDER HIP MOVE|SHOULDER TILTING FROM WAIST
1DA72 SIGNWRITING TORSO-WALLPLANE |STRAIGHT STRETCH|CURVED BEND
1DA74 SIGNWRITING |TORSO-FLOORPLANE TWISTING|UPPER BODY TILTING FROM HIP JOINTS|LIMB COMBINATION
1DA77 SIGNWRITING LIMB LENGTH-|1|2|3|4|5|6|7
1DA7E SIGNWRITING |FINGER|LOCATION-WALLPLANE SPACE|LOCATION-FLOORPLANE SPACE
1DA81 SIGNWRITING LOCATION |HEIGHT|WIDTH|DEPTH|HEAD NECK|TORSO|LIMBS DIGITS
1DA87 SIGNWRITING |COMMA|FULL STOP|SEMICOLON|COLON|PARENTHESIS
1DA9B SIGNWRITING FILL MODIFIER-|2|3|4|5|6
1DAA1 SIGNWRITING ROTATION MODIFIER-|2|3|4|5|6|7|8|9|10|11|12|13|14|15|16
1DF00 LATIN SMALL LETTER |FENG DIGRAPH WITH TRILL|REVERSED SCRIPT G
1DF02 |LATIN LETTER SMALL CAPITAL TURNED G
1DF03 LATIN |SMALL LETTER REVERSED K|LETTER SMALL CAPITAL L WITH BELT
1DF05 LATIN SMALL LETTER |LEZH WITH RETROFLEX HOOK|TURNED Y WITH BELT|REVERSED ENG
1DF08 LATIN SMALL LETTER |TURNED R WITH LONG LEG AND RETROFLEX HOOK|T WITH HOOK AND RETROFLEX HOOK
1DF0A |LATIN LETTER RETROFLEX CLICK WITH RETROFLEX HOOK
1DF0B LATIN SMALL LETTER |ESH WITH DOUBLE BAR|ESH WITH DOUBLE BAR AND CURL|TURNED T WITH CURL
1DF0E LATIN LETTER |INVERTED GLOTTAL STOP WITH CURL|STRETCHED C WITH CURL|SMALL CAPITAL TURNED K
1DF11 |LATIN SMALL LETTER L WITH FISHHOOK
1DF12 LATIN SMALL LETTER |DEZH DIGRAPH WITH PALATAL HOOK|L WITH BELT AND PALATAL HOOK
1DF14 LATIN SMALL LETTER |ENG WITH PALATAL HOOK|TURNED R WITH PALATAL HOOK
1DF16 LATIN SMALL LETTER |R WITH FISHHOOK AND PALATAL HOOK|TESH DIGRAPH WITH PALATAL HOOK
1DF18 LATIN SMALL LETTER |EZH WITH PALATAL HOOK|DEZH DIGRAPH WITH RETROFLEX HOOK
1DF1A LATIN SMALL LETTER |I WITH STROKE AND RETROFLEX HOOK|O WITH RETROFLEX HOOK
1DF1C LATIN SMALL LETTER |TESH DIGRAPH WITH RETROFLEX HOOK|C WITH RETROFLEX HOOK|S WITH CURL
1DF25 LATIN SMALL LETTER |D WITH MID-HEIGHT LEFT HOOK|L WITH MID-HEIGHT LEFT HOOK
1DF27 LATIN SMALL LETTER |N WITH MID-HEIGHT LEFT HOOK|R WITH MID-HEIGHT LEFT HOOK
1DF29 LATIN SMALL LETTER |S WITH MID-HEIGHT LEFT HOOK|T WITH MID-HEIGHT LEFT HOOK
1D0C5 |BYZANTINE MUSICAL SYMBOL FTHORA SKLIRON CHROMA VASIS"

end TagMenu.Unicode
