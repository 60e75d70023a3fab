import LineTally.Charset.CharNames.Basic

namespace LineTally.CharNames

/-!
# Names of pictures

The names of the characters from 0x1CE00 on: notes, mathematical alphabets,
game pieces, pictures and tags.
-/

/-- The names of these characters, in their order. -/
def pictures : List NameRun :=
  [ ⟨0x1CF00, "ZNAMENNY ",
      ["COMBINING MARK GORAZDO NIZKO S KRYZHEM ON LEFT,be,bTSATAb,bGORAZDO NIZKOb,bc,bSREDNEb",
       "bMALO POVYSHEb,bc,bVYSOKOb,bMALO POVYSHE S KHOKHLOMb,be,bVYSOKOd",
       "bGORAZDO NIZKO S KRYZHEM ON RIGHT,be,bTSATAb,bGORAZDO NIZKOb,bc,bSREDNEb,bMALO POVYSHEb",
       "bc,bVYSOKOb,bMALO POVYSHE S KHOKHLOMb,be,bVYSOKOd,bTSATA S KRYZHEM,bMALO POVYSHEb",
       "bSTRANNO MALO POVYSHE,bPOVYSHE S KRYZHEM,cSTRANNO,bVYSOKO S KRYZHEM",
       "bMALO POVYSHE STRANNO,bGORAZDO VYSOKO,bZELO,bON,bRAVNO,bTIKHAYA,bBORZAYA,bUDARKA",
       "bPODVERTKA,bLOMKA,bKUPNAYA,bKACHKA,bZEVOK,bSKOBA,bRAZSEKA,bKRYZH ON LEFT,,",
       "aTONAL RANGE MARK MRACHNO,dSVETLO,dTRESVETLO,aMARK ZADERZHKA,bDEMESTVENNYa,bOTSECHKA",
       "bPODCHASHIE,cWITH VERTICAL STROKE,bCHASHKA,cPOLNAYA,bOBLACHKO,bSOROCHYA NOZHKA,bTOCHKA",
       "bDVOETOCHIE,aATTACHING VERTICAL OMET,aMARK CURVEDa,bKRYZH,aLOWER TONAL RANGE INDICATOR",
       "PRIZNAK MODIFIER LEVEL-2,bLEVEL-3,bDIRECTION FLIP,bKRYZH,bROG"]⟩,
    ⟨0x1CF50, "ZNAMENNY NEUME ",
      ["KRYUK,aTIKHY,PARAKLIT,DVA V CHELNU,KLYUCH,ZANOZHEK,STOPITSA,aS OCHKOM,PEREVODKA",
       "aNEPOSTOYANNAYA,STOPITSA WITH SOROCHYA NOZHKA,CHELYUSTKA,PALKA,ZAPYATAYA",
       "GOLUBCHIK BORZY,aTIKHY,aMRACHNY,aSVETLY,aTRESVETLY,VRAKHIYA PROSTAYA,aMRACHNAYA",
       "aSVETLAYA,aTRESVETLAYA,aKLYUCHEVAYA PROSTAYA,bMRACHNAYA,bSVETLAYA,bTRESVETLAYA",
       "DOUBLE ZAPYATAYA,REVERSED CHELYUSTKA,DERBITSA,KHAMILO,CHASHKA,PODCHASHIE",
       "SKAMEYTSA MRACHNAYA,aSVETLAYA,aTRESVETLAYA,aTIKHAYA,DEMESTVENNY KLYUCH",
       "SKAMEYTSA KLYUCHEVAYA SVETLAYA,aKLYUCHENEPOSTOYANNAYA,aKLYUCHEVAYA TIKHAYA",
       "aDVOECHELNAYA PROSTAYA,bSVETLAYA,bNEPOSTOYANNAYA,bKLYUCHEVAYA,SLOZHITIE,aS ZAPYATOY",
       "aZAKRYTOE,aS KRYZHEM,KRYZH,ROG,FITA,KOBYLA,ZMEYTSA,STATYA,aS ZAPYATOY,bKRYZHEM",
       "bZAPYATOY Ia,bKRYZHEM I ZAPYATOY,aZAKRYTAYA,bS ZAPYATOY,aS ROGOM,bDVUMYA ZAPYATYMI",
       "bZAPYATOY I PODCHASHIEM,POLKULIZMY,STATYA NEPOSTOYANNAYA,STRELA PROSTAYA",
       "aMRACHNOTIKHAYA,aKRYZHEVAYA,aPOLUPOVODNAYA,aPOVODNAYA,aNEPOSTOYANNAYA,aKLYUCHEPOVODNAYA",
       "aKLYUCHENEPOSTOYANNAYA,aTIKHAYA PUTNAYA,aDVOECHELNAYA,aDVOECHELNOKRYZHEVAYA",
       "aDVOECHELNOPOVODNAYA,aDVOECHELNAYA KLYUCHEVAYA,aDVOECHELNOPOVODNAYAa",
       "aGROMNAYA WITH SINGLE ZAPYATAYA,aGROMOPOVODNAYAc,aGROMNAYA,aGROMOPOVODNAYA",
       "bWITH DOUBLE ZAPYATAYA,aGROMOKRYZHEVAYA,bPOVODNAYA,MECHIK,aPOVODNY,aKLYUCHEVOY",
       "aKLYUCHEPOVODNY,aKLYUCHENEPOSTOYANNY,STRELA TRYASOGLASNAYA,aTRYASOPOVODNAYA",
       "aTRYASOSTRELNAYA,OSOKA,aSVETLAYA,aTRESVETLAYA,aKRYUKOVAYA SVETLAYA,aKLYUCHEVAYAa",
       "bNEPOSTOYANNAYA,STRELA KRYUKOVAYA,bPOVODNAYA,bGROMNAYA WITH SINGLE ZAPYATAYA",
       "bGROMOPOVODNAYAc,bGROMNAYA,bGROMOPOVODNAYA,cWITH DOUBLE ZAPYATAYA,bGROMOKRYZHEVAYA",
       "cPOVODNAYA,bTRYASKA,KUFISMA,OBLAKO,DUDA,NEMKA,PAUK"]⟩,
    ⟨0x1D000, "BYZANTINE MUSICAL SYMBOL ",
      ["PSILI,DASEIA,PERISPOMENI,OXEIA EKFONITIKON,aDIPLI,VAREIA EKFONITIKON,aDIPLI,KATHISTI",
       "SYRMATIKI,PARAKLITIKI,YPOKRISIS,aDIPLI,KREMASTI,APESO EKFONITIKON,EXOa,TELEIA,KENTIMATA",
       "APOSTROFOS,aDIPLI,SYNEVMA,THITA,OLIGON ARCHAION,GORGONa,PSILON,CHAMILON,VATHY",
       "ISON ARCHAION,KENTIMAa,KENTIMATAa,SAXIMATA,PARICHON,STAVROS APODEXIA,OXEIAI ARCHAION",
       "VAREIAIa,APODERMAa,APOTHEMA,KLASMA,REVMA,PIASMA ARCHAION,TINAGMA,ANATRICHISMA,SEISMA",
       "SYNAGMA ARCHAION,aMETA STAVROU,OYRANISMA ARCHAION,THEMA,LEMOI,DYO,TRIA,TESSERA",
       "KRATIMATA,APESO EXO NEO,FTHORA ARCHAION,IMIFTHORA,TROMIKON ARCHAION,KATAVA TROMIKON",
       "PELASTON,PSIFISTON,KONTEVMA,CHOREVMA ARCHAION,RAPISMA,PARAKALESMA ARCHAION,PARAKLITIKIa",
       "ICHADIN,NANA,PETASMA,KONTEVMA ALLO,TROMIKONa,STRAGGISMATA,GRONTHISMATA,ISON NEO,OLIGONa",
       "OXEIAa,PETASTI,KOUFISMA,PETASTOKOUFISMA,KRATIMOKOUFISMA,PELASTON NEO,KENTIMATA NEO ANO",
       "KENTIMAb,YPSILI,APOSTROFOS NEO,APOSTROFOI SYNDESMOSa,YPORROI,KRATIMOYPORROON,ELAFRON",
       "CHAMILI,MIKRON ISON,VAREIA NEO,PIASMAa,PSIFISTONa,OMALON,ANTIKENOMA,LYGISMA",
       "PARAKLITIKI NEO,PARAKALESMAa,ETERON PARAKALESMA,KYLISMA,ANTIKENOKYLISMA,TROMIKON NEO",
       "EKSTREPTON,SYNAGMA NEO,SYRMA,CHOREVMA NEO,EPEGERMA,SEISMA NEO,XIRON KLASMA",
       "TROMIKOPSIFISTON,PSIFISTOLYGISMA,TROMIKOLYGISMA,TROMIKOPARAKALESMA,PSIFISTOPARAKALESMA",
       "TROMIKOSYNAGMA,PSIFISTOSYNAGMA,GORGOSYNTHETON,ARGOSYNTHETON,ETERONa,OYRANISMA NEO",
       "THEMATISMOS ESO,aEXO,THEMA APLOUN,THES KAI APOTHES,KATAVASMA,ENDOFONON,YFEN KATO,aANO",
       "STAVROS,KLASMA ANO,DIPLI ARCHAION,KRATIMAa,aALLO,aNEO,APODERMAa,APLI,DIPLI,TRIPLI",
       "TETRAPLI,KORONIS,LEIMMA ENOS CHRONOU,aDYO CHRONON,aTRIONa,aTESSARONa,aIMISEOS CHRONOU",
       "GORGON NEO ANO,aPARESTIGMENON ARISTERA,bDEXIA,DIGORGON,aPARESTIGMENON ARISTERA KATO",
       "cANO,bDEXIA,TRIGORGON,ARGON,IMIDIARGON,DIARGON,AGOGI POLI ARGI,aARGOTERI,aARGI,aMETRIA",
       "aMESI,aGORGI,aGORGOTERI,aPOLI GORGI,MARTYRIA PROTOS ICHOS,aALLIb,aDEYTEROSa,aALLIb",
       "aTRITOSa,aTRIFONIAS,aTETARTOS ICHOS,bLEGETOSa,ab,aPLAGIOSa,ISAKIA TELOUS ICHIMATOS",
       "APOSTROFOIb,FANEROSIS TETRAFONIAS,aMONOFONIAS,aDIFONIAS,MARTYRIA VARYS ICHOS",
       "aPROTOVARYSa,aPLAGIOS TETARTOSa,GORTHMIKON N APLOUN,bDIPLOUN,ENARXIS KAI FTHORA VOU",
       "IMIFONON,IMIFTHORON,FTHORA ARCHAION DEYTEROU ICHOU,aDIATONIKI PA,bNANA,aNAOS ICHOS",
       "aDIATONIKI DI,aSKLIRON DIATONONa,aDIATONIKI KE,bZO,bNI KATO,cANO",
       "aMALAKON CHROMA DIFONIAS,cMONOFONIAS,FHTORA SKLIRON CHROMA VASIS",
       "FTHORA SKLIRON CHROMA SYNAFI,aNENANO,CHROA ZYGOS,aKLITON,aSPATHI",
       "FTHORA I YFESIS TETARTIMORION,aENARMONIOS ANTIFONIA,YFESIS TRITIMORION,DIESISa",
       "aTETARTIMORION,aAPLI DYO DODEKATA,aMONOGRAMMOS TESSERAa,aDIGRAMMOS EXa",
       "aTRIGRAMMOS OKTOa,YFESIS APLI DYOa,aMONOGRAMMOS TESSERAa,aDIGRAMMOS EXa",
       "aTRIGRAMMOS OKTOa,GENIKI DIESIS,aYFESIS,DIASTOLI APLI MIKRI,bMEGALI,aDIPLI,aTHESEOS",
       "SIMANSISa,bDISIMOU,bTRISIMOU,bTETRASIMOU,aARSEOS,bDISIMOU,bTRISIMOU,bTETRASIMOU",
       "DIGRAMMA GG,DIFTOGGOS OU,STIGMA,ARKTIKO PA,aVOU,aGA,aDI,aKE,aZO,aNI,KENTIMATA NEO MESO",
       "KENTIMAb,KENTIMATA NEO KATO,KENTIMAb,KLASMAa,GORGON NEOa"]⟩,
    ⟨0x1D100, "MUSICAL SYMBOL ",
      ["SINGLE BARLINE,DOUBLEa,FINALa,REVERSEb,DASHEDa,SHORTa,LEFT REPEAT SIGN,RIGHTb",
       "REPEAT DOTS,DAL SEGNO,DA CAPO,SEGNO,CODA,REPEATED FIGURE-1,aFIGURE-2,aFIGURE-3,FERMATA",
       "aBELOW,BREATH MARK,CAESURA,BRACE,BRACKET,ONE-LINE STAFF,TWO-LINEa,THREE-LINEa",
       "FOUR-LINEa,FIVE-LINEa,SIX-LINEa,SIX-STRING FRETBOARD,FOUR-STRINGa,G CLEF,bOTTAVA ALTA",
       "cBASSA,C CLEF,Fa,bOTTAVA ALTA,cBASSA,DRUM CLEF-1,aCLEF-2,,,MULTIPLE MEASURE REST",
       "DOUBLE SHARP,aFLAT,FLAT UP,aDOWN,NATURAL UP,aDOWN,SHARP UP,aDOWN,QUARTER TONE SHARP",
       "bFLAT,COMMON TIME,CUTa,OTTAVA ALTA,aBASSA,QUINDICESIMA ALTA,aBASSA,MULTI REST,WHOLEa",
       "HALFa,QUARTERa,EIGHTHa,SIXTEENTHa,THIRTY-SECONDa,SIXTY-FOURTHa",
       "ONE HUNDRED TWENTY-EIGHTHa,X NOTEHEAD,PLUSa,CIRCLE Xa,SQUARE NOTEHEAD WHITE,bBLACK",
       "TRIANGLE NOTEHEAD UP WHITE,cBLACK,bLEFT WHITE,cBLACK,bRIGHT WHITE,cBLACK,bDOWN WHITE",
       "cBLACK,bUP RIGHT WHITE,dBLACK,MOON NOTEHEAD WHITE,bBLACK",
       "TRIANGLE-ROUND NOTEHEAD DOWN WHITE,cBLACK,PARENTHESIS NOTEHEAD,VOIDa,NOTEHEAD BLACK",
       "NULL NOTEHEAD,CLUSTER NOTEHEAD WHITE,bBLACK,BREVE,WHOLE NOTE,HALFa,QUARTERa,EIGHTHa",
       "SIXTEENTHa,THIRTY-SECONDa,SIXTY-FOURTHa,ONE HUNDRED TWENTY-EIGHTHa,COMBINING STEM",
       "aSPRECHGESANGa,aTREMOLO-1,aTREMOLO-2,aTREMOLO-3,FINGERED TREMOLO-1,aTREMOLO-2",
       "aTREMOLO-3,COMBINING AUGMENTATION DOT,aFLAG-1,aFLAG-2,aFLAG-3,aFLAG-4,aFLAG-5",
       "BEGIN BEAM,ENDa,BEGIN TIE,ENDa,BEGIN SLUR,ENDa,BEGIN PHRASE,ENDa,COMBINING ACCENT",
       "aSTACCATO,aTENUTO,aSTACCATISSIMO,aMARCATO,aMARCATO-STACCATO,aACCENT-STACCATO,aLOURE",
       "ARPEGGIATO UP,aDOWN,COMBINING DOIT,aRIP,aFLIP,aSMEAR,aBEND,aDOUBLE TONGUE,aTRIPLEa",
       "RINFORZANDO,SUBITO,Z,PIANO,MEZZO,FORTE,CRESCENDO,DECRESCENDO,GRACE NOTE SLASH,bNOa,TR",
       "TURN,INVERTEDa,TURN SLASH,aUP,ORNAMENT STROKE-1,aSTROKE-2,aSTROKE-3,aSTROKE-4,aSTROKE-5",
       "aSTROKE-6,aSTROKE-7,aSTROKE-8,aSTROKE-9,aSTROKE-10,aSTROKE-11,HAUPTSTIMME,NEBENSTIMME",
       "END OF STIMME,DEGREE SLASH,COMBINING DOWN BOW,aUPa,aHARMONIC,aSNAP PIZZICATO,PEDAL MARK",
       "aUPa,HALF PEDALa,GLISSANDO UP,aDOWN,WITH FINGERNAILS,DAMP,aALL,MAXIMA,LONGA,BREVIS",
       "SEMIBREVIS WHITE,aBLACK,MINIMA,aBLACK,SEMIMINIMA WHITE,aBLACK,FUSA WHITE,aBLACK",
       "LONGA PERFECTA REST,aIMPERFECTAa,BREVISa,SEMIBREVISa,MINIMAa,SEMIMINIMAa",
       "TEMPUS PERFECTUM CUM PROLATIONE PERFECTA,dIMPERFECTA,dPERFECTA DIMINUTION-1",
       "aIMPERFECTUM CUM PROLATIONE PERFECTA,dIMPERFECTA,eDIMINUTION-1,eDIMINUTION-2",
       "eDIMINUTION-3,CROIX,GREGORIAN C CLEF,aFa,SQUARE B,VIRGA,PODATUS,CLIVIS,SCANDICUS",
       "CLIMACUS,TORCULUS,PORRECTUS,aFLEXUS,SCANDICUSa,TORCULUS RESUPINUS,PES SUBPUNCTIS",
       "KIEVAN C CLEF,aEND OF PIECE,aFINAL NOTE,aRECITATIVE MARK,aWHOLE NOTE,aHALFa",
       "aQUARTER NOTE STEM DOWN,dUP,aEIGHTH NOTE STEM DOWN,dUP,aFLAT SIGN,SORI,KORON"]⟩,
    ⟨0x1D200, "GREEK VOCAL NOTATION ",
      ["SYMBOL-1,SYMBOL-2,SYMBOL-3,SYMBOL-4,SYMBOL-5,SYMBOL-6,SYMBOL-7,SYMBOL-8,SYMBOL-9",
       "SYMBOL-10,SYMBOL-11,SYMBOL-12,SYMBOL-13,SYMBOL-14,SYMBOL-15,SYMBOL-16,SYMBOL-17",
       "SYMBOL-18,SYMBOL-19,SYMBOL-20,SYMBOL-21,SYMBOL-22,SYMBOL-23,SYMBOL-24,SYMBOL-50",
       "SYMBOL-51,SYMBOL-52,SYMBOL-53,SYMBOL-54"]⟩,
    ⟨0x1D21D, "GREEK INSTRUMENTAL NOTATION ",
      ["SYMBOL-1,SYMBOL-2,SYMBOL-4,SYMBOL-5,SYMBOL-7,SYMBOL-8,SYMBOL-11,SYMBOL-12,SYMBOL-13",
       "SYMBOL-14,SYMBOL-17,SYMBOL-18,SYMBOL-19,SYMBOL-23,SYMBOL-24,SYMBOL-25,SYMBOL-26",
       "SYMBOL-27,SYMBOL-29,SYMBOL-30,SYMBOL-32,SYMBOL-36,SYMBOL-37,SYMBOL-38,SYMBOL-39",
       "SYMBOL-40,SYMBOL-42,SYMBOL-43,SYMBOL-45,SYMBOL-47,SYMBOL-48,SYMBOL-49,SYMBOL-50",
       "SYMBOL-51,SYMBOL-52,SYMBOL-53,SYMBOL-54"]⟩,
    ⟨0x1D242, "COMBINING GREEK MUSICAL ",
      ["TRISEME,TETRASEME,PENTASEME"]⟩,
    ⟨0x1D245, "GREEK MUSICAL ",
      ["LEIMMA"]⟩,
    ⟨0x1D2E0, "MAYAN NUMERAL ",
      ["ZERO,ONE,TWO,THREE,FOUR,FIVE,SIX,SEVEN,EIGHT,NINE,TEN,ELEVEN,TWELVE,THIRTEEN,FOURTEEN",
       "FIFTEEN,SIXTEEN,SEVENTEEN,EIGHTEEN,NINETEEN"]⟩,
    ⟨0x1D300, "MONOGRAM FOR ",
      ["EARTH"]⟩,
    ⟨0x1D301, "DIGRAM FOR ",
      ["HEAVENLY EARTH,HUMANa,EARTHLY HEAVEN,aHUMAN,EARTH"]⟩,
    ⟨0x1D306, "TETRAGRAM FOR ",
      ["CENTRE,FULL CIRCLE,MIRED,BARRIER,KEEPING SMALL,CONTRARIETY,ASCENT,OPPOSITION",
       "BRANCHING OUT,DEFECTIVENESS OR DISTORTION,DIVERGENCE,YOUTHFULNESS,INCREASE,PENETRATION",
       "REACH,CONTACT,HOLDING BACK,WAITING,FOLLOWING,ADVANCE,RELEASE,RESISTANCE,EASE,JOY",
       "CONTENTION,ENDEAVOUR,DUTIES,CHANGE,DECISIVENESS,BOLD RESOLUTION,PACKING,LEGION",
       "CLOSENESS,KINSHIP,GATHERING,STRENGTH,PURITY,FULLNESS,RESIDENCE,LAW OR MODEL,RESPONSE",
       "GOING TO MEET,ENCOUNTERS,STOVE,GREATNESS,ENLARGEMENT,PATTERN,RITUAL,FLIGHT",
       "VASTNESS OR WASTING,CONSTANCY,MEASURE,ETERNITY,UNITY,DIMINISHMENT,CLOSED MOUTH",
       "GUARDEDNESS,GATHERING IN,MASSING,ACCUMULATION,EMBELLISHMENT,DOUBT,WATCH,SINKING,INNER",
       "DEPARTURE,DARKENING,DIMMING,EXHAUSTION,SEVERANCE,STOPPAGE,HARDNESS,COMPLETION,CLOSURE",
       "FAILURE,AGGRAVATION,COMPLIANCE,ON THE VERGE,DIFFICULTIES,LABOURING,FOSTERING"]⟩,
    ⟨0x1D360, "COUNTING ROD ",
      ["UNIT DIGIT ONE,bTWO,bTHREE,bFOUR,bFIVE,bSIX,bSEVEN,bEIGHT,bNINE,TENS DIGIT ONE,bTWO",
       "bTHREE,bFOUR,bFIVE,bSIX,bSEVEN,bEIGHT,bNINE"]⟩,
    ⟨0x1D372, "IDEOGRAPHIC TALLY MARK ",
      ["ONE,TWO,THREE,FOUR,FIVE"]⟩,
    ⟨0x1D377, "TALLY MARK ",
      ["ONE,FIVE"]⟩,
    ⟨0x1D400, "MATHEMATICAL ",
      ["BOLD CAPITAL A,bB,bC,bD,bE,bF,bG,bH,bI,bJ,bK,bL,bM,bN,bO,bP,bQ,bR,bS,bT,bU,bV,bW,bX,bY",
       "bZ,aSMALL A,bB,bC,bD,bE,bF,bG,bH,bI,bJ,bK,bL,bM,bN,bO,bP,bQ,bR,bS,bT,bU,bV,bW,bX,bY,bZ",
       "ITALIC CAPITAL A,bB,bC,bD,bE,bF,bG,bH,bI,bJ,bK,bL,bM,bN,bO,bP,bQ,bR,bS,bT,bU,bV,bW,bX",
       "bY,bZ,aSMALL A,bB,bC,bD,bE,bF,bG,,bI,bJ,bK,bL,bM,bN,bO,bP,bQ,bR,bS,bT,bU,bV,bW,bX,bY,bZ",
       "BOLD ITALIC CAPITAL A,cB,cC,cD,cE,cF,cG,cH,cI,cJ,cK,cL,cM,cN,cO,cP,cQ,cR,cS,cT,cU,cV,cW",
       "cX,cY,cZ,bSMALL A,cB,cC,cD,cE,cF,cG,cH,cI,cJ,cK,cL,cM,cN,cO,cP,cQ,cR,cS,cT,cU,cV,cW,cX",
       "cY,cZ,SCRIPT CAPITAL A,,bC,bD,,,bG,,,bJ,bK,,,bN,bO,bP,bQ,,bS,bT,bU,bV,bW,bX,bY,bZ",
       "aSMALL A,bB,bC,bD,,bF,,bH,bI,bJ,bK,bL,bM,bN,,bP,bQ,bR,bS,bT,bU,bV,bW,bX,bY,bZ",
       "BOLD SCRIPT CAPITAL A,cB,cC,cD,cE,cF,cG,cH,cI,cJ,cK,cL,cM,cN,cO,cP,cQ,cR,cS,cT,cU,cV,cW",
       "cX,cY,cZ,bSMALL A,cB,cC,cD,cE,cF,cG,cH,cI,cJ,cK,cL,cM,cN,cO,cP,cQ,cR,cS,cT,cU,cV,cW,cX",
       "cY,cZ"]⟩,
    ⟨0x1D504, "MATHEMATICAL ",
      ["FRAKTUR CAPITAL A,bB,,bD,bE,bF,bG,,,bJ,bK,bL,bM,bN,bO,bP,bQ,,bS,bT,bU,bV,bW,bX,bY,",
       "aSMALL A,bB,bC,bD,bE,bF,bG,bH,bI,bJ,bK,bL,bM,bN,bO,bP,bQ,bR,bS,bT,bU,bV,bW,bX,bY,bZ",
       "DOUBLE-STRUCK CAPITAL A,bB,,bD,bE,bF,bG,,bI,bJ,bK,bL,bM,,bO,,,,bS,bT,bU,bV,bW,bX,bY,",
       "aSMALL A,bB,bC,bD,bE,bF,bG,bH,bI,bJ,bK,bL,bM,bN,bO,bP,bQ,bR,bS,bT,bU,bV,bW,bX,bY,bZ",
       "BOLD FRAKTUR CAPITAL A,cB,cC,cD,cE,cF,cG,cH,cI,cJ,cK,cL,cM,cN,cO,cP,cQ,cR,cS,cT,cU,cV",
       "cW,cX,cY,cZ,bSMALL A,cB,cC,cD,cE,cF,cG,cH,cI,cJ,cK,cL,cM,cN,cO,cP,cQ,cR,cS,cT,cU,cV,cW",
       "cX,cY,cZ,SANS-SERIF CAPITAL A,bB,bC,bD,bE,bF,bG,bH,bI,bJ,bK,bL,bM,bN,bO,bP,bQ,bR,bS,bT",
       "bU,bV,bW,bX,bY,bZ,aSMALL A,bB,bC,bD,bE,bF,bG,bH,bI,bJ,bK,bL,bM,bN,bO,bP,bQ,bR,bS,bT,bU",
       "bV,bW,bX,bY,bZ,aBOLD CAPITAL A,cB,cC,cD,cE,cF,cG,cH,cI,cJ,cK,cL,cM,cN,cO,cP,cQ,cR,cS,cT",
       "cU,cV,cW,cX,cY,cZ,bSMALL A,cB,cC,cD,cE,cF,cG,cH,cI,cJ,cK,cL,cM,cN,cO,cP,cQ,cR,cS,cT,cU",
       "cV,cW,cX,cY,cZ"]⟩,
    ⟨0x1D608, "MATHEMATICAL ",
      ["SANS-SERIF ITALIC CAPITAL A,cB,cC,cD,cE,cF,cG,cH,cI,cJ,cK,cL,cM,cN,cO,cP,cQ,cR,cS,cT,cU",
       "cV,cW,cX,cY,cZ,bSMALL A,cB,cC,cD,cE,cF,cG,cH,cI,cJ,cK,cL,cM,cN,cO,cP,cQ,cR,cS,cT,cU,cV",
       "cW,cX,cY,cZ,aBOLD ITALIC CAPITAL A,dB,dC,dD,dE,dF,dG,dH,dI,dJ,dK,dL,dM,dN,dO,dP,dQ,dR",
       "dS,dT,dU,dV,dW,dX,dY,dZ,cSMALL A,dB,dC,dD,dE,dF,dG,dH,dI,dJ,dK,dL,dM,dN,dO,dP,dQ,dR,dS",
       "dT,dU,dV,dW,dX,dY,dZ,MONOSPACE CAPITAL A,bB,bC,bD,bE,bF,bG,bH,bI,bJ,bK,bL,bM,bN,bO,bP",
       "bQ,bR,bS,bT,bU,bV,bW,bX,bY,bZ,aSMALL A,bB,bC,bD,bE,bF,bG,bH,bI,bJ,bK,bL,bM,bN,bO,bP,bQ",
       "bR,bS,bT,bU,bV,bW,bX,bY,bZ,ITALIC SMALL DOTLESS I,cJ,,,BOLD CAPITAL ALPHA,bBETA,bGAMMA",
       "bDELTA,bEPSILON,bZETA,bETA,bTHETA,bIOTA,bKAPPA,bLAMDA,bMU,bNU,bXI,bOMICRON,bPI,bRHO",
       "bTHETA SYMBOL,bSIGMA,bTAU,bUPSILON,bPHI,bCHI,bPSI,bOMEGA,aNABLA,aSMALL ALPHA,bBETA",
       "bGAMMA,bDELTA,bEPSILON,bZETA,bETA,bTHETA,bIOTA,bKAPPA,bLAMDA,bMU,bNU,bXI,bOMICRON,bPI",
       "bRHO,bFINAL SIGMA,ba,bTAU,bUPSILON,bPHI,bCHI,bPSI,bOMEGA,aPARTIAL DIFFERENTIAL",
       "aEPSILON SYMBOL,aTHETAa,aKAPPAa,aPHIa,aRHOa,aPIa,ITALIC CAPITAL ALPHA,bBETA,bGAMMA",
       "bDELTA,bEPSILON,bZETA,bETA,bTHETA,bIOTA,bKAPPA,bLAMDA,bMU,bNU,bXI,bOMICRON,bPI,bRHO",
       "bTHETA SYMBOL,bSIGMA,bTAU,bUPSILON,bPHI,bCHI,bPSI,bOMEGA"]⟩,
    ⟨0x1D6FB, "MATHEMATICAL ",
      ["ITALIC NABLA,aSMALL ALPHA,bBETA,bGAMMA,bDELTA,bEPSILON,bZETA,bETA,bTHETA,bIOTA,bKAPPA",
       "bLAMDA,bMU,bNU,bXI,bOMICRON,bPI,bRHO,bFINAL SIGMA,ba,bTAU,bUPSILON,bPHI,bCHI,bPSI",
       "bOMEGA,aPARTIAL DIFFERENTIAL,aEPSILON SYMBOL,aTHETAa,aKAPPAa,aPHIa,aRHOa,aPIa",
       "BOLD ITALIC CAPITAL ALPHA,cBETA,cGAMMA,cDELTA,cEPSILON,cZETA,cETA,cTHETA,cIOTA,cKAPPA",
       "cLAMDA,cMU,cNU,cXI,cOMICRON,cPI,cRHO,cTHETA SYMBOL,cSIGMA,cTAU,cUPSILON,cPHI,cCHI,cPSI",
       "cOMEGA,bNABLA,bSMALL ALPHA,cBETA,cGAMMA,cDELTA,cEPSILON,cZETA,cETA,cTHETA,cIOTA,cKAPPA",
       "cLAMDA,cMU,cNU,cXI,cOMICRON,cPI,cRHO,cFINAL SIGMA,ca,cTAU,cUPSILON,cPHI,cCHI,cPSI",
       "cOMEGA,bPARTIAL DIFFERENTIAL,bEPSILON SYMBOL,bTHETAa,bKAPPAa,bPHIa,bRHOa,bPIa",
       "SANS-SERIF BOLD CAPITAL ALPHA,cBETA,cGAMMA,cDELTA,cEPSILON,cZETA,cETA,cTHETA,cIOTA",
       "cKAPPA,cLAMDA,cMU,cNU,cXI,cOMICRON,cPI,cRHO,cTHETA SYMBOL,cSIGMA,cTAU,cUPSILON,cPHI",
       "cCHI,cPSI,cOMEGA,bNABLA,bSMALL ALPHA,cBETA,cGAMMA,cDELTA,cEPSILON,cZETA,cETA,cTHETA",
       "cIOTA,cKAPPA,cLAMDA,cMU,cNU,cXI,cOMICRON,cPI,cRHO,cFINAL SIGMA,ca,cTAU,cUPSILON,cPHI",
       "cCHI,cPSI,cOMEGA,bPARTIAL DIFFERENTIAL,bEPSILON SYMBOL,bTHETAa,bKAPPAa,bPHIa,bRHOa,bPIa",
       "bITALIC CAPITAL ALPHA,dBETA,dGAMMA,dDELTA,dEPSILON,dZETA,dETA,dTHETA,dIOTA,dKAPPA",
       "dLAMDA,dMU,dNU,dXI,dOMICRON,dPI,dRHO,dTHETA SYMBOL,dSIGMA,dTAU,dUPSILON,dPHI,dCHI,dPSI",
       "dOMEGA,cNABLA,cSMALL ALPHA,dBETA,dGAMMA,dDELTA,dEPSILON,dZETA,dETA,dTHETA,dIOTA,dKAPPA",
       "dLAMDA,dMU,dNU,dXI,dOMICRON,dPI,dRHO,dFINAL SIGMA,da,dTAU,dUPSILON,dPHI,dCHI,dPSI",
       "dOMEGA,cPARTIAL DIFFERENTIAL,cEPSILON SYMBOL,cTHETAa,cKAPPAa,cPHIa,cRHOa,cPIa",
       "BOLD CAPITAL DIGAMMA,aSMALLa,,,aDIGIT ZERO,bONE,bTWO,bTHREE,bFOUR,bFIVE,bSIX,bSEVEN",
       "bEIGHT,bNINE,DOUBLE-STRUCK DIGIT ZERO,bONE,bTWO,bTHREE,bFOUR,bFIVE,bSIX,bSEVEN,bEIGHT",
       "bNINE,SANS-SERIF DIGIT ZERO,bONE,bTWO,bTHREE,bFOUR,bFIVE,bSIX,bSEVEN,bEIGHT,bNINE",
       "aBOLD DIGIT ZERO,cONE,cTWO,cTHREE,cFOUR,cFIVE,cSIX,cSEVEN,cEIGHT,cNINE",
       "MONOSPACE DIGIT ZERO,bONE,bTWO,bTHREE,bFOUR,bFIVE,bSIX,bSEVEN,bEIGHT,bNINE"]⟩,
    ⟨0x1D800, "SIGNWRITING ",
      ["HAND-FIST INDEX,HAND-CIRCLEa,HAND-CUPa,HAND-OVALa,HAND-HINGEa,HAND-ANGLEa",
       "HAND-FIST INDEX BENT,HAND-CIRCLEb,HAND-FIST THUMB UNDERb,aINDEX RAISED KNUCKLE,bCUPPED",
       "bHINGED,cLOW,HAND-CIRCLE INDEX HINGE,HAND-FIST INDEX MIDDLE,HAND-CIRCLEb",
       "HAND-FIST INDEX MIDDLE BENT,cRAISED KNUCKLES,cHINGED,bUPb,bHINGED MIDDLE UP",
       "bMIDDLE CONJOINED,dINDEX BENT,dMIDDLEa,dCUPPED,dHINGED,cCROSSED,HAND-CIRCLEc",
       "HAND-FIST MIDDLE BENT OVER INDEX,aINDEX BENT OVER MIDDLE,bMIDDLE THUMB,HAND-CIRCLEc",
       "HAND-FIST INDEX MIDDLE STRAIGHT THUMB BENT,cBENT THUMB STRAIGHT,cTHUMB BENT",
       "cHINGED SPREAD THUMB SIDE,bUP MIDDLE HINGEDb,fCONJOINED,bHINGED MIDDLE UP THUMB SIDE",
       "bMIDDLE UP SPREAD THUMB FORWARD,cTHUMB CUPPED,dCIRCLED,dHOOKED,dHINGED",
       "aTHUMB BETWEEN INDEX MIDDLE STRAIGHT,aINDEX MIDDLE CONJOINED THUMB SIDE,fCONJOINED",
       "fBENT,aMIDDLE THUMB HOOKED INDEX UP,aINDEX THUMB HOOKED MIDDLEa",
       "bMIDDLE CONJOINED HINGED THUMB SIDE,cCROSSEDb,cCONJOINED THUMB FORWARD,dCUPPEDb",
       "aMIDDLE THUMB CUPPED INDEX UP,aINDEX THUMB CUPPED MIDDLEa,aMIDDLE THUMB CIRCLED INDEXa",
       "eHINGED,aINDEX THUMB ANGLED OUT MIDDLE UP,dINb,cCIRCLEDb,bMIDDLE THUMB CONJOINED HINGED",
       "dANGLED OUT,e,aMIDDLE THUMB ANGLED OUT INDEX UP,fCROSSED,dINDEX UP",
       "aINDEX THUMB HOOKED MIDDLE HINGED,HAND-FLAT FOUR FINGERS,cBENT,cHINGED,cCONJOINED",
       "dSPLIT,HAND-CLAW FOUR FINGERS CONJOINED,HAND-FIST FOUR FINGERS CONJOINED BENT",
       "HAND-HINGE FOUR FINGERS CONJOINED,HAND-FLAT FIVE FINGERS SPREAD,aHEELc",
       "aFIVE FINGERS SPREAD FOUR BENT,aHEELe,aFIVE FINGERS SPREADa,aHEELd",
       "aFIVE FINGERS SPREAD THUMB FORWARD,HAND-CUP FIVE FINGERS SPREAD,dOPEN,HAND-HINGEd",
       "HAND-OVAL FIVE FINGERS SPREAD,HAND-FLAT FIVE FINGERS SPREAD HINGED,eTHUMB SIDE",
       "eNO THUMB,a,aBETWEEN PALM FACINGS,aHEEL,aTHUMB SIDE,aHEELb,aTHUMB BENT,bFORWARD",
       "aSPLIT INDEX THUMB SIDE,bCENTRE,cTHUMB SIDE,eBENT,bLITTLE,HAND-CLAW,aTHUMB SIDE",
       "aNO THUMB,aTHUMB FORWARD,HAND-HOOK CURLICUE,a,HAND-CUP OPEN,a,aOPEN THUMB SIDE,ab",
       "aOPEN NO THUMB,ab,aOPEN THUMB FORWARD,ab,HAND-CURLICUE OPEN,a,HAND-CIRCLE,HAND-OVAL",
       "aTHUMB SIDE,aNO THUMB,aTHUMB FORWARD,HAND-HINGE OPEN,bTHUMB FORWARD,a,aSMALL",
       "aOPEN THUMB SIDE,ab,aOPEN NO THUMB,ab,aTHUMB SIDE TOUCHING INDEX,bBETWEEN MIDDLE RING"]⟩,
    ⟨0x1D885, "SIGNWRITING ",
      ["HAND-ANGLE,HAND-FIST INDEX MIDDLE RING,HAND-CIRCLEc,HAND-HINGEc,HAND-ANGLEc",
       "HAND-HINGE LITTLE,HAND-FIST INDEX MIDDLE RING BENT,dCONJOINED,HAND-HINGEd",
       "HAND-FIST LITTLE DOWN,cRIPPLE STRAIGHT,dCURVED,cOTHERS CIRCLED,bUP,aTHUMB UNDERb",
       "HAND-CIRCLEb,HAND-OVALb,HAND-ANGLEb,HAND-FIST LITTLE RAISED KNUCKLE,bBENT",
       "bTOUCHES THUMB,ba,HAND-HINGEb,HAND-FIST LITTLE INDEXa,HAND-HINGEc",
       "HAND-ANGLE LITTLE INDEX THUMB INDEX THUMB OUT,f,HAND-FIST LITTLE INDEX,HAND-CIRCLEb",
       "HAND-HINGEb,HAND-ANGLEb,HAND-FIST INDEX MIDDLE LITTLE,HAND-CIRCLEc,HAND-HINGEc,aRING",
       "HAND-ANGLE INDEX MIDDLE LITTLE,HAND-FIST INDEX MIDDLE CROSSa,HAND-CIRCLEd",
       "HAND-FIST RING DOWN,HAND-HINGE RING DOWN INDEX THUMB HOOK MIDDLE",
       "HAND-ANGLE RING DOWN MIDDLE THUMB INDEX CROSS,HAND-FIST RING UP,bRAISED KNUCKLE,bLITTLE",
       "HAND-CIRCLEb,HAND-OVALb,HAND-ANGLEb,HAND-FIST RING MIDDLE,cCONJOINED,cRAISED KNUCKLES",
       "bINDEX,bTHUMB,HAND-HOOKb,HAND-FIST INDEX RING LITTLE,HAND-CIRCLEc",
       "HAND-CURLICUE INDEX RING LITTLE ON,HAND-HOOK INDEX RING LITTLE OUT,dIN,dUNDER",
       "HAND-CUP INDEX RING LITTLE,HAND-HINGEc,HAND-ANGLE INDEX RING LITTLE OUT,d",
       "HAND-FIST MIDDLE DOWN,HAND-HINGE MIDDLE,HAND-FIST MIDDLE UP,HAND-CIRCLEb",
       "HAND-FIST MIDDLE RAISED KNUCKLE,bUP THUMB SIDE,HAND-HOOK MIDDLE THUMB",
       "HAND-FIST MIDDLE THUMB LITTLE,ba,bRINGa,HAND-CIRCLEc",
       "HAND-CURLICUE MIDDLE RING LITTLE ON,HAND-CUP MIDDLE RING LITTLE,HAND-HINGEc",
       "HAND-ANGLE MIDDLE RING LITTLE OUT,dIN,d,HAND-CIRCLE MIDDLE RING LITTLE BENT",
       "HAND-CLAW MIDDLE RING LITTLE CONJOINED,eSIDE,HAND-HOOK MIDDLE RING LITTLE CONJOINED OUT",
       "eIN,e,HAND-HINGE INDEX HINGED,HAND-FIST INDEX THUMB SIDE,HAND-HINGEc",
       "HAND-FIST INDEX THUMB SIDE THUMB DIAGONAL,eCONJOINED,eBENT,dINDEXa,dBOTHa,dINDEX HINGE",
       "cFORWARD INDEX STRAIGHT,eBENT,cHOOK,cCURLICUE,cCURVE THUMB INSIDE,HAND-CLAWe",
       "HAND-FIST INDEX THUMB CURVE THUMB UNDER,cCIRCLE,HAND-CUP INDEX THUMB,cOPEN,HAND-HINGEc",
       "cLARGE,c,cSMALL,HAND-ANGLE INDEX THUMB OUT,cIN,c,HAND-FISTa,bHEEL,bSIDE DIAGONAL",
       "cCONJOINED,cBENT,bFORWARD,bBETWEEN INDEX MIDDLE,cMIDDLE RING,cRING LITTLE",
       "bUNDER TWO FINGERS,bOVERb,bUNDER THREEa,cFOURa,bOVER FOUR RAISED KNUCKLES,a,aHEEL",
       "TOUCH SINGLE,aMULTIPLE,aBETWEEN,GRASP SINGLE,aMULTIPLE,aBETWEEN,STRIKE SINGLE,aMULTIPLE",
       "aBETWEEN,BRUSH SINGLE,aMULTIPLE,aBETWEEN,RUB SINGLE,aMULTIPLE,aBETWEEN,SURFACE SYMBOLS",
       "aBETWEEN,SQUEEZE LARGE SINGLE,aSMALLa,aLARGE MULTIPLE,aSMALLa,aSEQUENTIAL",
       "FLICK LARGE SINGLE,aSMALLa,aLARGE MULTIPLE,aSMALLa,aSEQUENTIAL",
       "SQUEEZE FLICK ALTERNATING,MOVEMENT-HINGE UP DOWN LARGE,cSMALL,bSEQUENTIAL,aDOWNa",
       "aUP DOWN ALTERNATING LARGE,dSMALL,aSIDE TO SIDE SCISSORS",
       "MOVEMENT-WALLPLANE FINGER CONTACT,MOVEMENT-FLOORPLANEb",
       "MOVEMENT-WALLPLANE SINGLE STRAIGHT SMALL,cMEDIUM,cLARGE,cLARGEST,bWRIST FLEX",
       "aDOUBLE STRAIGHT,bWRIST FLEX,bALTERNATING,cWRIST FLEX,aCROSS,aTRIPLE STRAIGHT MOVEMENT",
       "bWRIST FLEX,bALTERNATING,cWRIST FLEX,aBEND SMALL,bMEDIUM,bLARGE,aCORNER SMALL,bMEDIUM",
       "bLARGE,bROTATION,aCHECK SMALL,bMEDIUM,bLARGE,aBOX SMALL,bMEDIUM,bLARGE,aZIGZAG SMALL",
       "bMEDIUM,bLARGE,aPEAKS SMALL,bMEDIUM,bLARGE,TRAVEL-WALLPLANE ROTATION-WALLPLANE SINGLE",
       "bDOUBLE,bALTERNATING,aROTATION-FLOORPLANE SINGLE,bDOUBLE,bALTERNATING,aSHAKING",
       "aARM SPIRAL SINGLE,cDOUBLE,cTRIPLE,MOVEMENT-DIAGONAL AWAY SMALL,bMEDIUM,bLARGE,bLARGEST",
       "aTOWARDS SMALL,bMEDIUM,bLARGE,bLARGEST,aBETWEEN AWAY SMALL,cMEDIUM,cLARGE,cLARGEST",
       "bTOWARDS SMALL,cMEDIUM,cLARGE,cLARGEST,MOVEMENT-FLOORPLANE SINGLE STRAIGHT SMALL",
       "cMEDIUM,cLARGE,cLARGEST,bWRIST FLEX,aDOUBLE STRAIGHT,bWRIST FLEX,bALTERNATING",
       "cWRIST FLEX,aCROSS,aTRIPLE STRAIGHT MOVEMENT,bWRIST FLEX,bALTERNATING MOVEMENT",
       "cWRIST FLEX,aBEND,aCORNER SMALL,bMEDIUM,bLARGE,aCHECK,aBOX SMALL,bMEDIUM,bLARGE",
       "aZIGZAG SMALL,bMEDIUM,bLARGE,aPEAKS SMALL,bMEDIUM,bLARGE",
       "TRAVEL-FLOORPLANE ROTATION-FLOORPLANE SINGLE,bDOUBLE,bALTERNATING",
       "aROTATION-WALLPLANE SINGLE,bDOUBLE,bALTERNATING,aSHAKING"]⟩,
    ⟨0x1D988, "SIGNWRITING ",
      ["MOVEMENT-WALLPLANE CURVE QUARTER SMALL,cMEDIUM,cLARGE,cLARGEST,bHALF-CIRCLE SMALL",
       "cMEDIUM,cLARGE,cLARGEST,bTHREE-QUARTER CIRCLE SMALL,dMEDIUM,aHUMP SMALL,bMEDIUM,bLARGE",
       "aLOOP SMALL,bMEDIUM,bLARGE,bSMALL DOUBLE,aWAVE CURVE DOUBLE SMALL,dMEDIUM,dLARGE",
       "cTRIPLE SMALL,dMEDIUM,dLARGE,aCURVE THEN STRAIGHT,aCURVED CROSS SMALL,cMEDIUM",
       "ROTATION-WALLPLANE SINGLE,aDOUBLE,aALTERNATE,MOVEMENT-WALLPLANE SHAKING",
       "aCURVE HITTING FRONT WALL,aHUMPc,aLOOPc,aWAVEc,ROTATION-WALLPLANE SINGLEc,aDOUBLEc",
       "aALTERNATINGc,MOVEMENT-WALLPLANE CURVE HITTING CHEST,aHUMPb,aLOOPb,aWAVEb",
       "ROTATION-WALLPLANE SINGLEb,aDOUBLEb,aALTERNATINGb",
       "MOVEMENT-WALLPLANE WAVE DIAGONAL PATH SMALL,dMEDIUM,dLARGE",
       "MOVEMENT-FLOORPLANE CURVE HITTING CEILING SMALL,dLARGE",
       "aHUMP HITTING CEILING SMALL DOUBLE,dLARGEa,dSMALL TRIPLE,dLARGEa",
       "aLOOP HITTING CEILING SMALL SINGLE,dLARGEa,dSMALL DOUBLE,dLARGEa",
       "aWAVE HITTING CEILING SMALL,dLARGE,ROTATION-FLOORPLANE SINGLE HITTING CEILING,aDOUBLEb",
       "aALTERNATINGb,MOVEMENT-FLOORPLANE CURVE HITTING FLOOR SMALL,dLARGE",
       "aHUMP HITTING FLOOR SMALL DOUBLE,dLARGEa,dTRIPLE SMALL TRIPLE,eLARGEa",
       "aLOOP HITTING FLOOR SMALL SINGLE,dLARGEa,dSMALL DOUBLE,dLARGEa",
       "aWAVE HITTING FLOOR SMALL,dLARGE,ROTATION-FLOORPLANE SINGLE HITTING FLOOR,aDOUBLEb",
       "aALTERNATINGb,MOVEMENT-FLOORPLANE CURVE SMALL,bMEDIUM,bLARGE,bLARGEST,bCOMBINED",
       "aHUMP SMALL,aLOOPa,aWAVE SNAKE,bSMALL,bLARGE,ROTATION-FLOORPLANE SINGLE,aDOUBLE",
       "aALTERNATING,MOVEMENT-FLOORPLANE SHAKING PARALLEL",
       "MOVEMENT-WALLPLANE ARM CIRCLE SMALL SINGLE,cMEDIUMa,cSMALL DOUBLE,cMEDIUMa",
       "MOVEMENT-FLOORPLANE ARM CIRCLE HITTING WALL SMALL SINGLE,eMEDIUMa,eLARGEa,eSMALL DOUBLE",
       "eMEDIUMa,eLARGEa,MOVEMENT-WALLPLANE WRIST CIRCLE FRONT SINGLE,dDOUBLE",
       "MOVEMENT-FLOORPLANE WRIST CIRCLE HITTING WALL SINGLE,eDOUBLE",
       "MOVEMENT-WALLPLANE FINGER CIRCLES SINGLE,cDOUBLE",
       "MOVEMENT-FLOORPLANE FINGER CIRCLES HITTING WALL SINGLE,eDOUBLE,DYNAMIC ARROWHEAD SMALL",
       "bLARGE,aFAST,aSLOW,aTENSE,aRELAXED,aSIMULTANEOUS,bALTERNATING,aEVERY OTHER TIME",
       "aGRADUAL,HEAD,aRIM,aMOVEMENT-WALLPLANE STRAIGHT,bTILT,aMOVEMENT-FLOORPLANE STRAIGHT",
       "aMOVEMENT-WALLPLANE CURVE,aMOVEMENT-FLOORPLANEa,aMOVEMENT CIRCLE",
       "FACE DIRECTION POSITION NOSE FORWARD TILTING,dUP OR DOWN,gTILTING,EYEBROWS STRAIGHT UP",
       "bNEUTRAL,bDOWN,DREAMY EYEBROWS NEUTRALa,bDOWN NEUTRAL,bUPa,bNEUTRAL UP,FOREHEAD NEUTRAL",
       "aCONTACT,aWRINKLED,EYES OPEN,aSQUEEZED,aCLOSED,EYE BLINK SINGLE,bMULTIPLE",
       "EYES HALF OPEN,aWIDEa,aHALF CLOSED,aWIDENING MOVEMENT,EYE WINK,EYELASHES UP,aDOWN",
       "aFLUTTERING,EYEGAZE-WALLPLANE STRAIGHT,bDOUBLE,bALTERNATING,EYEGAZE-FLOORPLANE STRAIGHT",
       "bDOUBLE,bALTERNATING,EYEGAZE-WALLPLANE CURVED,EYEGAZE-FLOORPLANEa",
       "EYEGAZE-WALLPLANE CIRCLING,CHEEKS PUFFED,aNEUTRAL,aSUCKED,TENSE CHEEKS HIGH,bMIDDLE",
       "bLOW,EARS,NOSE NEUTRAL,aCONTACT,aWRINKLES,aWIGGLES,AIR BLOWING OUT,aSUCKING IN",
       "aBLOW SMALL ROTATIONS,aSUCKb,BREATH INHALE,aEXHALE,MOUTH CLOSED NEUTRAL,bFORWARD",
       "bCONTACT,aSMILE,bWRINKLED,bOPEN,aFROWN,bWRINKLED,bOPEN,aOPEN CIRCLE,bFORWARD,bWRINKLED",
       "bOVAL,cWRINKLED,cYAWN,bRECTANGLE,cWRINKLED,cYAWN,aKISS,bFORWARD,bWRINKLED,aTENSE",
       "bFORWARD,bSUCKED,LIPS PRESSED TOGETHER,LIP LOWER OVER UPPER,aUPPER OVER LOWER",
       "MOUTH CORNERS,aWRINKLES SINGLE,bDOUBLE,TONGUE STICKING OUT FAR,aLICKING LIPS",
       "aTIP BETWEENa,bTOUCHING INSIDE MOUTH,aINSIDE MOUTH RELAXED,aMOVES AGAINST CHEEK",
       "aCENTRE STICKING OUT,bINSIDE MOUTH,TEETH,aMOVEMENT,aON TONGUE,cMOVEMENT,bLIPS,cMOVEMENT",
       "aBITE LIPS,MOVEMENT-WALLPLANE JAW,MOVEMENT-FLOORPLANEa,NECK,HAIR,EXCITEMENT",
       "SHOULDER HIP SPINE,bPOSITIONS,WALLPLANE SHOULDER HIP MOVE,FLOORPLANEc",
       "SHOULDER TILTING FROM WAIST,TORSO-WALLPLANE STRAIGHT STRETCH,aCURVED BEND",
       "TORSO-FLOORPLANE TWISTING,UPPER BODY TILTING FROM HIP JOINTS,LIMB COMBINATION,aLENGTH-1",
       "aLENGTH-2,aLENGTH-3,aLENGTH-4,aLENGTH-5,aLENGTH-6,aLENGTH-7,FINGER",
       "LOCATION-WALLPLANE SPACE,LOCATION-FLOORPLANEa,LOCATION HEIGHT,aWIDTH,aDEPTH,aHEAD NECK",
       "aTORSO,aLIMBS DIGITS,COMMA,FULL STOP,SEMICOLON,COLON,PARENTHESIS"]⟩,
    ⟨0x1DA9B, "SIGNWRITING ",
      ["FILL MODIFIER-2,aMODIFIER-3,aMODIFIER-4,aMODIFIER-5,aMODIFIER-6,,ROTATION MODIFIER-2",
       "aMODIFIER-3,aMODIFIER-4,aMODIFIER-5,aMODIFIER-6,aMODIFIER-7,aMODIFIER-8,aMODIFIER-9",
       "aMODIFIER-10,aMODIFIER-11,aMODIFIER-12,aMODIFIER-13,aMODIFIER-14,aMODIFIER-15",
       "aMODIFIER-16"]⟩,
    ⟨0x1DF00, "LATIN ",
      ["SMALL LETTER FENG DIGRAPH WITH TRILL,bREVERSED SCRIPT G,LETTER SMALL CAPITAL TURNEDa",
       "SMALL LETTER REVERSED K,LETTER SMALL CAPITAL L WITH BELT",
       "SMALL LETTER LEZH WITH RETROFLEX HOOK,bTURNED Y WITH BELT,bREVERSED ENG",
       "bTURNED R WITH LONG LEG AND RETROFLEX HOOK,bT WITH HOOKc,LETTER RETROFLEX CLICK WITHb",
       "SMALL LETTER ESH WITH DOUBLE BAR,fAND CURL,bTURNED T WITHa",
       "LETTER INVERTED GLOTTAL STOPb,aSTRETCHED Cb,aSMALL CAPITAL TURNED K",
       "SMALL LETTER L WITH FISHHOOK,bDEZH DIGRAPH WITH PALATAL HOOK,bL WITH BELT ANDb",
       "bENG WITHb,bTURNED Rc,bR WITH FISHHOOK ANDb,bTESH DIGRAPH WITHb,bEZHc",
       "bDEZH DIGRAPH WITH RETROFLEXa,bI WITH STROKE ANDb,bO WITHb,bTESH DIGRAPHc,bCc",
       "bS WITH CURL"]⟩,
    ⟨0x1E000, "COMBINING GLAGOLITIC LETTER ",
      ["AZU,BUKY,VEDE,GLAGOLI,DOBRO,YESTU,ZHIVETE,,ZEMLJA,IZHE,INITIALa,I,DJERVI,KAKO,LJUDIJE",
       "MYSLITE,NASHI,ONU,POKOJI,RITSI,SLOVO,TVRIDO,UKU,FRITU,HERU,,,SHTA,TSI,CHRIVI,SHA,YERU",
       "YERI,YATI,,YU,SMALL YUS,,YO,IOTATED SMALL YUS,BIGa,IOTATEDb,FITA"]⟩,
    ⟨0x1E100, "NYIAKENG PUACHUE HMONG LETTER ",
      ["MA,TSA,NTA,TA,HA,NA,XA,NKA,CA,LA,SA,ZA,NCA,NTSA,KA,DA,NYA,NRA,VA,NTXA,TXA,FA,RA,QA,YA",
       "NQA,PA,XYA,NPA,DLA,NPLA,HAH,MLA,PLA,GA,RRA,A,AA,I,U,O,OO,E,EE,W"]⟩,
    ⟨0x1E130, "NYIAKENG PUACHUE HMONG ",
      ["TONE-B,TONE-M,TONE-J,TONE-V,TONE-S,TONE-G,TONE-D,SIGN FOR PERSON,bTHING,bLOCATION",
       "bANIMAL,bINVERTEBRATE,aXW XW,SYLLABLE LENGTHENER,,,DIGIT ZERO,aONE,aTWO,aTHREE,aFOUR",
       "aFIVE,aSIX,aSEVEN,aEIGHT,aNINE,,,,,LOGOGRAM NYAJ,CIRCLED CA"]⟩,
    ⟨0x1E290, "TOTO LETTER ",
      ["PA,BA,TA,DA,KA,GA,MA,NA,NGA,SA,CHA,YA,WA,JA,HA,RA,LA,I,BREATHYa,IU,BREATHYa,U,E",
       "BREATHYa,EO,BREATHYa,O,AE,BREATHYa,A"]⟩,
    ⟨0x1E2AE, "TOTO SIGN RISING ",
      ["TONE"]⟩,
    ⟨0x1E2C0, "WANCHO LETTER ",
      ["AA,A,BA,CA,DA,GA,YA,PHA,LA,NA,PA,TA,THA,FA,SA,SHA,JA,ZA,WA,VA,KA,O,AU,RA,MA,KHA,HA,E,I",
       "NGA,U,LLHA,TSA,TRA,ONG,AANG,ANG,ING,ON,EN,AAN,NYA,UEN,YIH"]⟩,
    ⟨0x1E2EC, "WANCHO ",
      ["TONE TUP,aTUPNI,aKOI,aKOINI,DIGIT ZERO,aONE,aTWO,aTHREE,aFOUR,aFIVE,aSIX,aSEVEN,aEIGHT",
       "aNINE,,,,,,NGUN SIGN"]⟩,
    ⟨0x1E7E0, "ETHIOPIC SYLLABLE ",
      ["HHYA,HHYU,HHYI,HHYAA,HHYEE,HHYE,HHYO,,GURAGE HHWA,HHWI,HHWEE,HHWE,,GURAGE MWI,aMWEE,",
       "aQWI,aQWEE,aQWE,aBWI,aBWEE,aKWI,aKWEE,aKWE,aGWI,aGWEE,aGWE,aFWI,aFWEE,aPWI,aPWEE"]⟩,
    ⟨0x1E800, "MENDE KIKAKUI SYLLABLE ",
      ["M001 KI,M002 KA,M003 KU,M065 KEE,M095 KE,M076 KOO,M048 KO,M179 KUA,M004 WI,M005 WA",
       "M006 WU,M126 WEE,M118 WE,M114 WOO,M045 WO,M194 WUI,M143 WEI,M061 WVI,M049 WVA,M139 WVE",
       "M007 MIN,M008 MAN,M009 MUN,M059 MEN,M094 MON,M154 MUAN,M189 MUEN,M010 BI,M011 BA",
       "M012 BU,M150 BEE,M097 BE,M103 BOO,M138 BO,M013 I,M014 A,M015 U,M163 EE,M100 E,M165 OO",
       "M147 O,M137 EI,M131 IN,M135a,M195 AN,M178 EN,M019 SI,M020 SA,M021 SU,M162 SEE,M116 SE",
       "M136 SOO,M079 SO,M196 SIA,M025 LI,M026 LA,M027 LU,M084 LEE,M073 LE,M054 LOO,M153 LO",
       "M110 LONG LE,M016 DI,M017 DA,M018 DU,M089 DEE,M180 DOO,M181 DO,M022 TI,M023 TA,M024 TU",
       "M091 TEE,M055 TE,M104 TOO,M069 TO,M028 JI,M029 JA,M030 JU,M157 JEE,M113 JE,M160 JOO",
       "M063 JO,M175 LONGa,M031 YI,M032 YA,M033 YU,M109 YEE,M080 YE,M141 YOO,M121 YO,M034 FI",
       "M035 FA,M036 FU,M078 FEE,M075 FE,M133 FOO,M088 FO,M197 FUA,M101 FAN,M037 NIN,M038 NAN",
       "M039 NUN,M117 NEN,M169 NON,M176 HI,M041 HA,M186 HU,M040 HEE,M096 HE,M042 HOO,M140 HO",
       "M083 HEEI,M128 HOOU,M053 HIN,M130 HAN,M087 HUN,M052 HEN,M193 HON,M046 HUAN,M090 NGGI",
       "M043 NGGA,M082 NGGU,M115 NGGEE,M146 NGGE,M156 NGGOO,M120 NGGO,M159 NGGAA,M127 NGGUA",
       "M086 LONG NGGE,M106 LONG NGGOO,M183 LONG NGGO,M155 GI,M111 GA,M168 GU,M190 GEE",
       "M166 GUEI,M167 GUAN,M184 NGEN,M057 NGON,M177 NGUAN,M068 PI,M099 PA,M050 PU,M081 PEE",
       "M051 PE,M102 POO,M066 PO,M145 MBI,M062 MBA,M122 MBU,M047 MBEE,M188a,M072 MBE,M172 MBOO",
       "M174 MBO,M187 MBUU,M161 LONG MBE,M105 LONG MBOO,M142 LONG MBO,M132 KPI,M092 KPA",
       "M074 KPU,M044 KPEE,M108 KPE,M112 KPOO,M158 KPO,M124 GBI,M056 GBA,M148 GBU,M093 GBEE",
       "M107 GBE,M071 GBOO,M070 GBO,M171 RA,M123 NDI,M129 NDA,M125 NDU,M191 NDEE,M119 NDE",
       "M067 NDOO,M064 NDO,M152 NJA,M192 NJU,M149 NJEE,M134 NJOO,M182 VI,M185 VA,M151 VU",
       "M173 VEE,M085 VE,M144 VOO,M077 VO,M164 NYIN,M058 NYAN,M170 NYUN,M098 NYEN,M060 NYON"]⟩,
    ⟨0x1E8C7, "MENDE KIKAKUI ",
      ["DIGIT ONE,aTWO,aTHREE,aFOUR,aFIVE,aSIX,aSEVEN,aEIGHT,aNINE,COMBINING NUMBER TEENS,bTENS",
       "bHUNDREDS,bTHOUSANDS,bTENa,bHUNDREDa,bMILLIONS"]⟩,
    ⟨0x1E900, "ADLAM CAPITAL LETTER ",
      ["ALIF,DAALI,LAAM,MIIM,BA,SINNYIIYHE,PE,BHE,RA,E,FA,I,O,DHA,YHE,WAW,NUN,KAF,YA,U,JIIM,CHI",
       "HA,QAAF,GA,NYA,TU,NHA,VA,KHA,GBE,ZAL,KPO,SHA"]⟩,
    ⟨0x1E922, "ADLAM SMALL LETTER ",
      ["ALIF,DAALI,LAAM,MIIM,BA,SINNYIIYHE,PE,BHE,RA,E,FA,I,O,DHA,YHE,WAW,NUN,KAF,YA,U,JIIM,CHI",
       "HA,QAAF,GA,NYA,TU,NHA,VA,KHA,GBE,ZAL,KPO,SHA"]⟩,
    ⟨0x1E944, "ADLAM ",
      ["ALIF LENGTHENER,VOWELa,GEMINATION MARK,HAMZA,CONSONANT MODIFIER,GEMINATEb,NUKTA",
       "NASALIZATION MARK,,,,,DIGIT ZERO,aONE,aTWO,aTHREE,aFOUR,aFIVE,aSIX,aSEVEN,aEIGHT,aNINE,",
       ",,,INITIAL EXCLAMATION MARK,aQUESTIONa"]⟩,
    ⟨0x1EC71, "INDIC SIYAQ NUMBER ",
      ["ONE,TWO,THREE,FOUR,FIVE,SIX,SEVEN,EIGHT,NINE,TEN,TWENTY,THIRTY,FORTY,FIFTY,SIXTY",
       "SEVENTY,EIGHTY,NINETY,ONE HUNDRED,TWOa,THREEa,FOURa,FIVEa,SIXa,SEVENa,EIGHTa,NINEa",
       "ONE THOUSAND,TWOa,THREEa,FOURa,FIVEa,SIXa,SEVENa,EIGHTa,NINEa,TENa,TWENTYa,THIRTYa",
       "FORTYa,FIFTYa,SIXTYa,SEVENTYa,EIGHTYa,NINETYa,LAKH,LAKHAN"]⟩,
    ⟨0x1ECA0, "INDIC SIYAQ ",
      ["LAKH MARK,NUMBER KAROR,aKARORAN,aPREFIXED ONE,bTWO,bTHREE,bFOUR,bFIVE,bSIX,bSEVEN",
       "bEIGHT,bNINE,PLACEHOLDER,FRACTION ONE QUARTER,bHALF,aTHREE QUARTERS,RUPEE MARK",
       "NUMBER ALTERNATE ONE,bTWO,bTEN THOUSAND,ALTERNATE LAKH MARK"]⟩,
    ⟨0x1ED01, "OTTOMAN SIYAQ NUMBER ",
      ["ONE,TWO,THREE,FOUR,FIVE,SIX,SEVEN,EIGHT,NINE,TEN,TWENTY,THIRTY,FORTY,FIFTY,SIXTY",
       "SEVENTY,EIGHTY,NINETY,ONE HUNDRED,TWOa,THREEa,FOURa,FIVEa,SIXa,SEVENa,EIGHTa,NINEa",
       "ONE THOUSAND,TWOa,THREEa,FOURa,FIVEa,SIXa,SEVENa,EIGHTa,NINEa,TENa,TWENTYa,THIRTYa",
       "FORTYa,FIFTYa,SIXTYa,SEVENTYa,EIGHTYa,NINETYa"]⟩,
    ⟨0x1ED2E, "OTTOMAN SIYAQ ",
      ["MARRATAN,ALTERNATE NUMBER TWO,bTHREE,bFOUR,bFIVE,bSIX,bSEVEN,bEIGHT,bNINE,bTEN",
       "bFOUR HUNDRED,bSIXa,bTWO THOUSAND,bTENa,FRACTION ONE HALF,bSIXTH"]⟩,
    ⟨0x1EE00, "ARABIC MATHEMATICAL ",
      ["ALEF,BEH,JEEM,DAL,,WAW,ZAIN,HAH,TAH,YEH,KAF,LAM,MEEM,NOON,SEEN,AIN,FEH,SAD,QAF,REH",
       "SHEEN,TEH,THEH,KHAH,THAL,DAD,ZAH,GHAIN,DOTLESS BEH,aNOON,aFEH,aQAF,,INITIAL BEH,aJEEM,",
       "aHEH,,,aHAH,,aYEH,aKAF,aLAM,aMEEM,aNOON,aSEEN,aAIN,aFEH,aSAD,aQAF,,aSHEEN,aTEH,aTHEH",
       "aKHAH,,aDAD,,aGHAIN,,,,,,,TAILED JEEM,,,,,aHAH,,aYEH,,aLAM,,aNOON,aSEEN,aAIN,,aSAD,aQAF",
       ",aSHEEN,,,aKHAH,,aDAD,,aGHAIN,,aDOTLESS NOON,,bQAF,,STRETCHED BEH,aJEEM,,aHEH,,,aHAH",
       "aTAH,aYEH,aKAF,,aMEEM,aNOON,aSEEN,aAIN,aFEH,aSAD,aQAF,,aSHEEN,aTEH,aTHEH,aKHAH,,aDAD",
       "aZAH,aGHAIN,aDOTLESS BEH,,bFEH,,LOOPED ALEF,aBEH,aJEEM,aDAL,aHEH,aWAW,aZAIN,aHAH,aTAH",
       "aYEH,,aLAM,aMEEM,aNOON,aSEEN,aAIN,aFEH,aSAD,aQAF,aREH,aSHEEN,aTEH,aTHEH,aKHAH,aTHAL",
       "aDAD,aZAH,aGHAIN,,,,,,DOUBLE-STRUCK BEH,aJEEM,aDAL,,aWAW,aZAIN,aHAH,aTAH,aYEH,,aLAM",
       "aMEEM,aNOON,aSEEN,aAIN,aFEH,aSAD,aQAF,aREH,aSHEEN,aTEH,aTHEH,aKHAH,aTHAL,aDAD,aZAH",
       "aGHAIN"]⟩,
    ⟨0x1EEF0, "ARABIC MATHEMATICAL OPERATOR ",
      ["MEEM WITH HAH WITH TATWEEL,HAH WITH DAL"]⟩,
    ⟨0x1F000, "MAHJONG TILE ",
      ["EAST WIND,SOUTHa,WESTa,NORTHa,RED DRAGON,GREENa,WHITEa,ONE OF CHARACTERS,TWOb,THREEb",
       "FOURb,FIVEb,SIXb,SEVENb,EIGHTb,NINEb,ONE OF BAMBOOS,TWOb,THREEb,FOURb,FIVEb,SIXb,SEVENb",
       "EIGHTb,NINEb,ONE OF CIRCLES,TWOb,THREEb,FOURb,FIVEb,SIXb,SEVENb,EIGHTb,NINEb,PLUM",
       "ORCHID,BAMBOO,CHRYSANTHEMUM,SPRING,SUMMER,AUTUMN,WINTER,JOKER,BACK"]⟩,
    ⟨0x1F030, "DOMINO TILE ",
      ["HORIZONTAL BACK,HORIZONTAL-00-00,HORIZONTAL-00-01,HORIZONTAL-00-02,HORIZONTAL-00-03",
       "HORIZONTAL-00-04,HORIZONTAL-00-05,HORIZONTAL-00-06,HORIZONTAL-01-00,HORIZONTAL-01-01",
       "HORIZONTAL-01-02,HORIZONTAL-01-03,HORIZONTAL-01-04,HORIZONTAL-01-05,HORIZONTAL-01-06",
       "HORIZONTAL-02-00,HORIZONTAL-02-01,HORIZONTAL-02-02,HORIZONTAL-02-03,HORIZONTAL-02-04",
       "HORIZONTAL-02-05,HORIZONTAL-02-06,HORIZONTAL-03-00,HORIZONTAL-03-01,HORIZONTAL-03-02",
       "HORIZONTAL-03-03,HORIZONTAL-03-04,HORIZONTAL-03-05,HORIZONTAL-03-06,HORIZONTAL-04-00",
       "HORIZONTAL-04-01,HORIZONTAL-04-02,HORIZONTAL-04-03,HORIZONTAL-04-04,HORIZONTAL-04-05",
       "HORIZONTAL-04-06,HORIZONTAL-05-00,HORIZONTAL-05-01,HORIZONTAL-05-02,HORIZONTAL-05-03",
       "HORIZONTAL-05-04,HORIZONTAL-05-05,HORIZONTAL-05-06,HORIZONTAL-06-00,HORIZONTAL-06-01",
       "HORIZONTAL-06-02,HORIZONTAL-06-03,HORIZONTAL-06-04,HORIZONTAL-06-05,HORIZONTAL-06-06",
       "VERTICAL BACK,VERTICAL-00-00,VERTICAL-00-01,VERTICAL-00-02,VERTICAL-00-03",
       "VERTICAL-00-04,VERTICAL-00-05,VERTICAL-00-06,VERTICAL-01-00,VERTICAL-01-01",
       "VERTICAL-01-02,VERTICAL-01-03,VERTICAL-01-04,VERTICAL-01-05,VERTICAL-01-06",
       "VERTICAL-02-00,VERTICAL-02-01,VERTICAL-02-02,VERTICAL-02-03,VERTICAL-02-04",
       "VERTICAL-02-05,VERTICAL-02-06,VERTICAL-03-00,VERTICAL-03-01,VERTICAL-03-02",
       "VERTICAL-03-03,VERTICAL-03-04,VERTICAL-03-05,VERTICAL-03-06,VERTICAL-04-00",
       "VERTICAL-04-01,VERTICAL-04-02,VERTICAL-04-03,VERTICAL-04-04,VERTICAL-04-05",
       "VERTICAL-04-06,VERTICAL-05-00,VERTICAL-05-01,VERTICAL-05-02,VERTICAL-05-03",
       "VERTICAL-05-04,VERTICAL-05-05,VERTICAL-05-06,VERTICAL-06-00,VERTICAL-06-01",
       "VERTICAL-06-02,VERTICAL-06-03,VERTICAL-06-04,VERTICAL-06-05,VERTICAL-06-06"]⟩,
    ⟨0x1F0A0, "PLAYING CARD ",
      ["BACK,ACE OF SPADES,TWOb,THREEb,FOURb,FIVEb,SIXb,SEVENb,EIGHTb,NINEb,TENb,JACKb,KNIGHTb",
       "QUEENb,KINGb,,,ACE OF HEARTS,TWOb,THREEb,FOURb,FIVEb,SIXb,SEVENb,EIGHTb,NINEb,TENb",
       "JACKb,KNIGHTb,QUEENb,KINGb,RED JOKER,,ACE OF DIAMONDS,TWOb,THREEb,FOURb,FIVEb,SIXb",
       "SEVENb,EIGHTb,NINEb,TENb,JACKb,KNIGHTb,QUEENb,KINGb,BLACK JOKER,,ACE OF CLUBS,TWOb",
       "THREEb,FOURb,FIVEb,SIXb,SEVENb,EIGHTb,NINEb,TENb,JACKb,KNIGHTb,QUEENb,KINGb,WHITE JOKER",
       "FOOL,TRUMP-1,TRUMP-2,TRUMP-3,TRUMP-4,TRUMP-5,TRUMP-6,TRUMP-7,TRUMP-8,TRUMP-9,TRUMP-10",
       "TRUMP-11,TRUMP-12,TRUMP-13,TRUMP-14,TRUMP-15,TRUMP-16,TRUMP-17,TRUMP-18,TRUMP-19",
       "TRUMP-20,TRUMP-21"]⟩,
    ⟨0x1F100, "DIGIT ",
      ["ZERO FULL STOP,aCOMMA,ONEa,TWOa,THREEa,FOURa,FIVEa,SIXa,SEVENa,EIGHTa,NINEa"]⟩,
    ⟨0x1F10B, "DINGBAT ",
      ["CIRCLED SANS-SERIF DIGIT ZERO,NEGATIVEd"]⟩,
    ⟨0x1F10D, "CIRCLED ",
      ["ZERO WITH SLASH,ANTICLOCKWISE ARROW,DOLLAR SIGN WITH OVERLAID BACKSLASH"]⟩,
    ⟨0x1F110, "PARENTHESIZED LATIN CAPITAL LETTER ",
      ["A,B,C,D,E,F,G,H,I,J,K,L,M,N,O,P,Q,R,S,T,U,V,W,X,Y,Z"]⟩,
    ⟨0x1F12A, "TORTOISE SHELL BRACKETED LATIN CAPITAL LETTER ",
      ["S"]⟩,
    ⟨0x1F12B, "CIRCLED ",
      ["ITALIC LATIN CAPITAL LETTER C,dR,CD,WZ"]⟩,
    ⟨0x1F12F, "COPYLEFT ",
      ["SYMBOL"]⟩,
    ⟨0x1F130, "SQUARED ",
      ["LATIN CAPITAL LETTER A,cB,cC,cD,cE,cF,cG,cH,cI,cJ,cK,cL,cM,cN,cO,cP,cQ,cR,cS,cT,cU,cV",
       "cW,cX,cY,cZ,HV,MV,SD,SS,PPV,WC"]⟩,
    ⟨0x1F150, "NEGATIVE CIRCLED LATIN CAPITAL LETTER ",
      ["A,B,C,D,E,F,G,H,I,J,K,L,M,N,O,P,Q,R,S,T,U,V,W,X,Y,Z"]⟩,
    ⟨0x1F16A, "RAISED ",
      ["MC SIGN,MDa,MRa"]⟩,
    ⟨0x1F16D, "CIRCLED ",
      ["CC,C WITH OVERLAID BACKSLASH,HUMAN FIGURE"]⟩,
    ⟨0x1F170, "NEGATIVE SQUARED LATIN CAPITAL LETTER ",
      ["A,B,C,D,E,F,G,H,I,J,K,L,M,N,O,P,Q,R,S,T,U,V,W,X,Y,Z"]⟩,
    ⟨0x1F18A, "CROSSED NEGATIVE SQUARED LATIN CAPITAL LETTER ",
      ["P"]⟩,
    ⟨0x1F18B, "NEGATIVE SQUARED ",
      ["IC,PA,SA,AB,WC"]⟩,
    ⟨0x1F190, "SQUARE ",
      ["DJ"]⟩,
    ⟨0x1F191, "SQUARED ",
      ["CL,COOL,FREE,ID,NEW,NG,OK,SOS,UP WITH EXCLAMATION MARK,VS,THREE D,SECOND SCREEN,TWO K",
       "FOURa,EIGHTa,FIVE POINT ONE,SEVENb,TWENTY-TWO POINT TWO,SIXTY P,ONE HUNDRED TWENTYa",
       "LATIN SMALL LETTER D,HC,HDR,HI-RES,LOSSLESS,SHV,UHD,VOD"]⟩,
    ⟨0x1F1AD, "MASK WORK ",
      ["SYMBOL"]⟩,
    ⟨0x1F1E6, "REGIONAL INDICATOR SYMBOL LETTER ",
      ["A,B,C,D,E,F,G,H,I,J,K,L,M,N,O,P,Q,R,S,T,U,V,W,X,Y,Z"]⟩,
    ⟨0x1F200, "SQUARE HIRAGANA ",
      ["HOKA"]⟩,
    ⟨0x1F201, "SQUARED KATAKANA ",
      ["KOKO,SA"]⟩,
    ⟨0x1F210, "SQUARED ",
      ["CJK UNIFIED IDEOGRAPH-624B,bIDEOGRAPH-5B57,bIDEOGRAPH-53CC,KATAKANA DE"]⟩,
    ⟨0x1F214, "SQUARED CJK UNIFIED ",
      ["IDEOGRAPH-4E8C,IDEOGRAPH-591A,IDEOGRAPH-89E3,IDEOGRAPH-5929,IDEOGRAPH-4EA4",
       "IDEOGRAPH-6620,IDEOGRAPH-7121,IDEOGRAPH-6599,IDEOGRAPH-524D,IDEOGRAPH-5F8C",
       "IDEOGRAPH-518D,IDEOGRAPH-65B0,IDEOGRAPH-521D,IDEOGRAPH-7D42,IDEOGRAPH-751F",
       "IDEOGRAPH-8CA9,IDEOGRAPH-58F0,IDEOGRAPH-5439,IDEOGRAPH-6F14,IDEOGRAPH-6295",
       "IDEOGRAPH-6355,IDEOGRAPH-4E00,IDEOGRAPH-4E09,IDEOGRAPH-904A,IDEOGRAPH-5DE6",
       "IDEOGRAPH-4E2D,IDEOGRAPH-53F3,IDEOGRAPH-6307,IDEOGRAPH-8D70,IDEOGRAPH-6253",
       "IDEOGRAPH-7981,IDEOGRAPH-7A7A,IDEOGRAPH-5408,IDEOGRAPH-6E80,IDEOGRAPH-6709",
       "IDEOGRAPH-6708,IDEOGRAPH-7533,IDEOGRAPH-5272,IDEOGRAPH-55B6,IDEOGRAPH-914D"]⟩,
    ⟨0x1F240, "TORTOISE SHELL BRACKETED CJK UNIFIED ",
      ["IDEOGRAPH-672C,IDEOGRAPH-4E09,IDEOGRAPH-4E8C,IDEOGRAPH-5B89,IDEOGRAPH-70B9",
       "IDEOGRAPH-6253,IDEOGRAPH-76D7,IDEOGRAPH-52DD,IDEOGRAPH-6557"]⟩,
    ⟨0x1F250, "CIRCLED IDEOGRAPH ",
      ["ADVANTAGE,ACCEPT"]⟩,
    ⟨0x1F260, "ROUNDED SYMBOL FOR ",
      ["FU,LU,SHOU,XI,SHUANGXI,CAI"]⟩,
    ⟨0x1F300, "",
      ["CYCLONE,FOGGY,CLOSED UMBRELLA,NIGHT WITH STARS,SUNRISE OVER MOUNTAINS,a",
       "CITYSCAPE AT DUSK,SUNSET OVER BUILDINGS,RAINBOW,BRIDGE AT NIGHT,WATER WAVE,VOLCANO",
       "MILKY WAY,EARTH GLOBE EUROPE-AFRICA,bAMERICAS,bASIA-AUSTRALIA,GLOBE WITH MERIDIANS",
       "NEW MOON SYMBOL,WAXING CRESCENTb,FIRST QUARTERb,WAXING GIBBOUSb,FULLb,WANING GIBBOUSb",
       "LAST QUARTERb,WANING CRESCENTb,CRESCENT MOON,NEW MOON WITH FACE,FIRST QUARTERc,LASTd",
       "FULLc,SUNb,GLOWING STAR,SHOOTINGa,THERMOMETER,BLACK DROPLET,WHITE SUN,bWITH SMALL CLOUD",
       "bBEHINDa,dWITH RAIN,CLOUD WITH RAIN,bSNOW,bLIGHTNING,bTORNADO,FOG,WIND BLOWING FACE",
       "HOT DOG,TACO,BURRITO,CHESTNUT,SEEDLING,EVERGREEN TREE,DECIDUOUSa,PALMa,CACTUS",
       "HOT PEPPER,TULIP,CHERRY BLOSSOM,ROSE,HIBISCUS,SUNFLOWER,BLOSSOM,EAR OF MAIZE,bRICE,HERB",
       "FOUR LEAF CLOVER,MAPLE LEAF,FALLENa,LEAF FLUTTERING IN WIND,MUSHROOM,TOMATO,AUBERGINE",
       "GRAPES,MELON,WATERMELON,TANGERINE,LEMON,BANANA,PINEAPPLE,RED APPLE,GREENa,PEAR,PEACH",
       "CHERRIES,STRAWBERRY,HAMBURGER,SLICE OF PIZZA,MEAT ON BONE,POULTRY LEG,RICE CRACKER",
       "aBALL,COOKED RICE,CURRY ANDa,STEAMING BOWL,SPAGHETTI,BREAD,FRENCH FRIES",
       "ROASTED SWEET POTATO,DANGO,ODEN,SUSHI,FRIED SHRIMP,FISH CAKE WITH SWIRL DESIGN",
       "SOFT ICE CREAM,SHAVED ICE,ICE CREAM,DOUGHNUT,COOKIE,CHOCOLATE BAR,CANDY,LOLLIPOP",
       "CUSTARD,HONEY POT,SHORTCAKE,BENTO BOX,POT OF FOOD,COOKING,FORK AND KNIFE",
       "TEACUP WITHOUT HANDLE,SAKE BOTTLE AND CUP,WINE GLASS,COCKTAILa,TROPICAL DRINK,BEER MUG",
       "CLINKING BEER MUGS,BABY BOTTLE,FORK AND KNIFE WITH PLATE,BOTTLE WITH POPPING CORK",
       "POPCORN,RIBBON,WRAPPED PRESENT,BIRTHDAY CAKE,JACK-O-LANTERN,CHRISTMAS TREE",
       "FATHER CHRISTMAS,FIREWORKS,FIREWORK SPARKLER,BALLOON,PARTY POPPER,CONFETTI BALL",
       "TANABATA TREE,CROSSED FLAGS,PINE DECORATION,JAPANESE DOLLS,CARP STREAMER,WIND CHIME",
       "MOON VIEWING CEREMONY,SCHOOL SATCHEL,GRADUATION CAP,HEART WITH TIP ON THE LEFT",
       "BOUQUET OF FLOWERS,MILITARY MEDAL,REMINDER RIBBON,MUSICAL KEYBOARD WITH JACKS",
       "STUDIO MICROPHONE,LEVEL SLIDER,CONTROL KNOBS,BEAMED ASCENDING MUSICAL NOTES",
       "aDESCENDINGb,FILM FRAMES,ADMISSION TICKETS,CAROUSEL HORSE,FERRIS WHEEL,ROLLER COASTER",
       "FISHING POLE AND FISH,MICROPHONE,MOVIE CAMERA,CINEMA,HEADPHONE,ARTIST PALETTE,TOP HAT",
       "CIRCUS TENT,TICKET,CLAPPER BOARD,PERFORMING ARTS,VIDEO GAME,DIRECT HIT,SLOT MACHINE",
       "BILLIARDS,GAME DIE,BOWLING,FLOWER PLAYING CARDS,MUSICAL NOTE,MULTIPLE MUSICAL NOTES",
       "SAXOPHONE,GUITAR,MUSICAL KEYBOARD,TRUMPET,VIOLIN,MUSICAL SCORE,RUNNING SHIRT WITH SASH",
       "TENNIS RACQUET AND BALL,SKI AND SKI BOOT,BASKETBALL AND HOOP,CHEQUERED FLAG,SNOWBOARDER",
       "RUNNER,SURFER,SPORTS MEDAL,TROPHY,HORSE RACING,AMERICAN FOOTBALL,RUGBYa,SWIMMER",
       "WEIGHT LIFTER,GOLFER,RACING MOTORCYCLE,aCAR,CRICKET BAT AND BALL,VOLLEYBALL",
       "FIELD HOCKEY STICK AND BALL,ICE HOCKEY STICK AND PUCK,TABLE TENNIS PADDLE AND BALL",
       "SNOW CAPPED MOUNTAIN,CAMPING,BEACH WITH UMBRELLA,BUILDING CONSTRUCTION,HOUSE BUILDINGS",
       "CITYSCAPE,DERELICT HOUSE BUILDING,CLASSICALa,DESERT,aISLAND,NATIONAL PARK,STADIUM",
       "HOUSE BUILDING,aWITH GARDEN,OFFICE BUILDING,JAPANESE POST OFFICE,EUROPEANb,HOSPITAL",
       "BANK,AUTOMATED TELLER MACHINE,HOTEL,LOVEa,CONVENIENCE STORE,SCHOOL,DEPARTMENT STORE",
       "FACTORY,IZAKAYA LANTERN,JAPANESE CASTLE,EUROPEANa,WHITE PENNANT,BLACKa",
       "WAVING WHITE FLAG,aBLACKa,ROSETTE,BLACKa,LABEL,BADMINTON RACQUET AND SHUTTLECOCK",
       "BOW AND ARROW,AMPHORA"]⟩,
    ⟨0x1F3FB, "EMOJI MODIFIER FITZPATRICK ",
      ["TYPE-1-2,TYPE-3,TYPE-4,TYPE-5,TYPE-6"]⟩,
    ⟨0x1F400, "",
      ["RAT,MOUSE,OX,WATER BUFFALO,COW,TIGER,LEOPARD,RABBIT,CAT,DRAGON,CROCODILE,WHALE,SNAIL",
       "SNAKE,HORSE,RAM,GOAT,SHEEP,MONKEY,ROOSTER,CHICKEN,DOG,PIG,BOAR,ELEPHANT,OCTOPUS",
       "SPIRAL SHELL,BUG,ANT,HONEYBEE,LADY BEETLE,FISH,TROPICALa,BLOWFISH,TURTLE,HATCHING CHICK",
       "BABYa,FRONT-FACINGb,BIRD,PENGUIN,KOALA,POODLE,DROMEDARY CAMEL,BACTRIANa,DOLPHIN",
       "MOUSE FACE,COWa,TIGERa,RABBITa,CATa,DRAGONa,SPOUTING WHALE,HORSE FACE,MONKEYa,DOGa,PIGa",
       "FROGa,HAMSTERa,WOLFa,BEARa,PANDAa,PIG NOSE,PAW PRINTS,CHIPMUNK,EYES,EYE,EAR,NOSE,MOUTH",
       "TONGUE"]⟩,
    ⟨0x1F446, "WHITE ",
      ["UP POINTING BACKHAND INDEX,DOWNc,LEFTc,RIGHTc"]⟩,
    ⟨0x1F44A, "",
      ["FISTED HAND SIGN,WAVINGb,OKb,THUMBS UPa,aDOWNa,CLAPPING HANDSa,OPENb,CROWN,WOMANS HAT",
       "EYEGLASSES,NECKTIE,T-SHIRT,JEANS,DRESS,KIMONO,BIKINI,WOMANS CLOTHES,PURSE,HANDBAG,POUCH",
       "MANS SHOE,ATHLETICa,HIGH-HEELEDa,WOMANS SANDAL,aBOOTS,FOOTPRINTS,BUST IN SILHOUETTE",
       "BUSTSb,BOY,GIRL,MAN,WOMAN,FAMILY,MAN AND WOMAN HOLDING HANDS,TWO MENb,aWOMENb",
       "POLICE OFFICER,WOMAN WITH BUNNY EARS,BRIDE WITH VEIL,PERSON WITH BLOND HAIR",
       "MAN WITH GUA PI MAO,bTURBAN,OLDER MAN,aWOMAN,BABY,CONSTRUCTION WORKER,PRINCESS",
       "JAPANESE OGRE,aGOBLIN,GHOST,BABY ANGEL,EXTRATERRESTRIAL ALIEN,ALIEN MONSTER,IMP,SKULL",
       "INFORMATION DESK PERSON,GUARDSMAN,DANCER,LIPSTICK,NAIL POLISH,FACE MASSAGE,HAIRCUT",
       "BARBER POLE,SYRINGE,PILL,KISS MARK,LOVE LETTER,RING,GEM STONE,KISS,BOUQUET",
       "COUPLE WITH HEART,WEDDING,BEATING HEART,BROKENa,TWO HEARTS,SPARKLING HEART,GROWINGa",
       "HEART WITH ARROW,BLUE HEART,GREENa,YELLOWa,PURPLEa,HEART WITH RIBBON,REVOLVING HEARTS",
       "HEART DECORATION,DIAMOND SHAPE WITH A DOT INSIDE,ELECTRIC LIGHT BULB,ANGER SYMBOL,BOMB",
       "SLEEPING SYMBOL,COLLISIONa,SPLASHING SWEATa,DROPLET,DASH SYMBOL,PILE OF POO",
       "FLEXED BICEPS,DIZZY SYMBOL,SPEECH BALLOON,THOUGHTa,WHITE FLOWER,HUNDRED POINTS SYMBOL",
       "MONEY BAG,CURRENCY EXCHANGE,HEAVY DOLLAR SIGN,CREDIT CARD,BANKNOTE WITH YEN SIGN",
       "bDOLLARa,bEUROa,bPOUNDa,MONEY WITH WINGS,CHART WITH UPWARDS TREND AND YEN SIGN,SEAT",
       "PERSONAL COMPUTER,BRIEFCASE,MINIDISC,FLOPPY DISK,OPTICAL DISC,DVD,FILE FOLDER,OPENb",
       "PAGE WITH CURL,aFACING UP,CALENDAR,TEAR-OFFa,CARD INDEX,CHART WITH UPWARDS TREND",
       "bDOWNWARDSa,BAR CHART,CLIPBOARD,PUSHPIN,ROUNDa,PAPERCLIP,STRAIGHT RULER,TRIANGULARa",
       "BOOKMARK TABS,LEDGER,NOTEBOOK,aWITH DECORATIVE COVER,CLOSED BOOK,OPENa,GREENa,BLUEa",
       "ORANGEa,BOOKS,NAME BADGE,SCROLL,MEMO,TELEPHONE RECEIVER,PAGER,FAX MACHINE",
       "SATELLITE ANTENNA,PUBLIC ADDRESS LOUDSPEAKER,CHEERING MEGAPHONE,OUTBOX TRAY,INBOXa",
       "PACKAGE,E-MAIL SYMBOL,INCOMING ENVELOPE,ENVELOPE WITH DOWNWARDS ARROW ABOVE",
       "CLOSED MAILBOX WITH LOWERED FLAG,cRAISEDa,OPENd,cLOWEREDa,POSTBOX,POSTAL HORN,NEWSPAPER",
       "MOBILE PHONE,bWITH RIGHTWARDS ARROW AT LEFT,VIBRATION MODE,MOBILE PHONE OFF",
       "NO MOBILE PHONES,ANTENNA WITH BARS,CAMERA,aWITH FLASH,VIDEO CAMERA,TELEVISION,RADIO",
       "VIDEOCASSETTE,FILM PROJECTOR,PORTABLE STEREO,PRAYER BEADS,TWISTED RIGHTWARDS ARROWS",
       "CLOCKWISE RIGHTWARDS AND LEFTWARDS OPEN CIRCLEa,gWITH CIRCLED ONE OVERLAY",
       "aDOWNWARDS AND UPWARDS OPEN CIRCLE ARROWS,ANTICLOCKWISEf,LOW BRIGHTNESS SYMBOL,HIGHb",
       "SPEAKER WITH CANCELLATION STROKE,a,aWITH ONE SOUND WAVE,bTHREE SOUND WAVES,BATTERY",
       "ELECTRIC PLUG,LEFT-POINTING MAGNIFYING GLASS,RIGHT-POINTINGb,LOCK WITH INK PEN",
       "CLOSED LOCK WITH KEY,KEY,LOCK,OPENa,BELL,aWITH CANCELLATION STROKE,BOOKMARK,LINK SYMBOL",
       "RADIO BUTTON,BACK WITH LEFTWARDS ARROW ABOVE,ENDd",
       "ON WITH EXCLAMATION MARK WITH LEFT RIGHTb,SOON WITH RIGHTWARDSb,TOP WITH UPWARDSb",
       "NO ONE UNDER EIGHTEEN SYMBOL,KEYCAP TEN"]⟩,
    ⟨0x1F520, "INPUT SYMBOL FOR ",
      ["LATIN CAPITAL LETTERS,aSMALLa,NUMBERS,SYMBOLS,LATIN LETTERS"]⟩,
    ⟨0x1F525, "",
      ["FIRE,ELECTRIC TORCH,WRENCH,HAMMER,NUT AND BOLT,HOCHO,PISTOL,MICROSCOPE,TELESCOPE",
       "CRYSTAL BALL,SIX POINTED STAR WITH MIDDLE DOT,JAPANESE SYMBOL FOR BEGINNER",
       "TRIDENT EMBLEM,BLACK SQUARE BUTTON,WHITEb,LARGE RED CIRCLE,aBLUEa,aORANGE DIAMOND",
       "aBLUEa,SMALL ORANGEa,aBLUEa,UP-POINTING RED TRIANGLE,DOWN-POINTINGb,UP-POINTING SMALLb",
       "DOWN-POINTINGc,LOWER RIGHT SHADOWED WHITE CIRCLE,UPPERd,CIRCLED CROSS POMMEE",
       "CROSS POMMEE WITH HALF-CIRCLE BELOW,b,NOTCHED LEFT SEMICIRCLE WITH THREE DOTS,aRIGHTd",
       "SYMBOL FOR MARKS CHAPTER,WHITE LATIN CROSS,HEAVYb,CELTICa,OM SYMBOL,DOVE OF PEACE,KAABA",
       "MOSQUE,SYNAGOGUE,MENORAH WITH NINE BRANCHES,BOWL OF HYGIEIA"]⟩,
    ⟨0x1F550, "CLOCK FACE ",
      ["ONE OCLOCK,TWOa,THREEa,FOURa,FIVEa,SIXa,SEVENa,EIGHTa,NINEa,TENa,ELEVENa,TWELVEa",
       "ONE-THIRTY,TWO-THIRTY,THREE-THIRTY,FOUR-THIRTY,FIVE-THIRTY,SIX-THIRTY,SEVEN-THIRTY",
       "EIGHT-THIRTY,NINE-THIRTY,TEN-THIRTY,ELEVEN-THIRTY,TWELVE-THIRTY"]⟩,
    ⟨0x1F568, "RIGHT ",
      ["SPEAKER,aWITH ONE SOUND WAVE,bTHREE SOUND WAVES"]⟩,
    ⟨0x1F56B, "",
      ["BULLHORN,aWITH SOUND WAVES,RINGING BELL,BOOK,CANDLE,MANTELPIECE CLOCK",
       "BLACK SKULL AND CROSSBONES,NO PIRACY,HOLE,MAN IN BUSINESS SUIT LEVITATING,SLEUTH OR SPY",
       "DARK SUNGLASSES,SPIDER,aWEB,JOYSTICK,MAN DANCING,LEFT HAND TELEPHONE RECEIVER",
       "TELEPHONE RECEIVER WITH PAGE,RIGHT HAND TELEPHONE RECEIVER,WHITE TOUCHTONE TELEPHONE",
       "BLACKb,TELEPHONE ON TOP OF MODEM,CLAMSHELL MOBILE PHONE,BACK OF ENVELOPE,STAMPEDa",
       "ENVELOPE WITH LIGHTNING,FLYING ENVELOPE,PEN OVER STAMPEDa,LINKED PAPERCLIPS",
       "BLACK PUSHPIN,LOWER LEFT PENCIL,bBALLPOINT PEN,bFOUNTAINa,bPAINTBRUSH,bCRAYON",
       "LEFT WRITING HAND,TURNED OK HAND SIGN,RAISED HAND WITH FINGERS SPLAYED,REVERSEDe",
       "aTHUMBS UP SIGN,bDOWNa,aVICTORY HAND,aHAND WITH MIDDLE FINGER EXTENDED",
       "RAISED HAND WITH PART BETWEEN MIDDLE AND RING FINGERS",
       "WHITE DOWN POINTING LEFT HAND INDEX,SIDEWAYS WHITE LEFT POINTINGa,bRIGHTb,aBLACK LEFTb",
       "bRIGHTb,BLACK LEFT POINTING BACKHANDa,aRIGHTc,SIDEWAYS WHITE UP POINTINGa,bDOWNb",
       "aBLACK UPb,bDOWNb,BLACK UP POINTING BACKHANDa,aDOWNc,aHEART,DESKTOP COMPUTER",
       "KEYBOARD AND MOUSE,THREE NETWORKED COMPUTERS,PRINTER,POCKET CALCULATOR",
       "BLACK HARD SHELL FLOPPY DISK,WHITEd,SOFTc,TAPE CARTRIDGE,WIRED KEYBOARD",
       "ONE BUTTON MOUSE,TWOb,THREEb,TRACKBALL,OLD PERSONAL COMPUTER,HARD DISK,SCREEN",
       "PRINTER ICON,FAXa,OPTICAL DISCa,DOCUMENT WITH TEXT,cAND PICTURE,ba,FRAMEb,bTILES,bAN X",
       "BLACK FOLDER,FOLDER,OPENa,CARD INDEX DIVIDERS,aFILE BOX,FILE CABINET,EMPTY NOTE,bPAGE",
       "bPAD,NOTE,aPAGE,aPAD,EMPTY DOCUMENT,aPAGE,aPAGES,DOCUMENT,PAGE,PAGES,WASTEBASKET",
       "SPIRAL NOTE PAD,aCALENDARa,DESKTOP WINDOW,MINIMIZE,MAXIMIZE,OVERLAP",
       "CLOCKWISE RIGHT AND LEFT SEMICIRCLE ARROWS,CANCELLATION X,INCREASE FONT SIZE SYMBOL",
       "DECREASEc,COMPRESSION,OLD KEY,ROLLED-UP NEWSPAPER,PAGE WITH CIRCLED TEXT,STOCK CHART",
       "DAGGER KNIFE,LIPS,SPEAKING HEAD IN SILHOUETTE,THREE RAYS ABOVE,bBELOW,bLEFT,bRIGHT",
       "LEFT SPEECH BUBBLE,RIGHTb,TWO SPEECH BUBBLES,THREEb,LEFT THOUGHT BUBBLE,RIGHTb",
       "LEFT ANGERa,RIGHTb,MOODa,LIGHTNINGb,b,BALLOT BOX WITH BALLOT,aSCRIPT X,aBOX WITHb",
       "aBOLDb,aBOX WITHc,LIGHT CHECK MARK,BALLOT BOX WITH BOLD CHECK,WORLD MAP,MOUNT FUJI",
       "TOKYO TOWER,STATUE OF LIBERTY,SILHOUETTE OF JAPAN,MOYAI,GRINNING FACE",
       "bWITH SMILING EYES,FACE WITH TEARS OF JOY"]⟩,
    ⟨0x1F603, "SMILING FACE WITH ",
      ["OPEN MOUTH,bAND SMILING EYES,cCOLD SWEAT,cTIGHTLY-CLOSED EYES,HALO,HORNS"]⟩,
    ⟨0x1F609, "",
      ["WINKING FACE,SMILING FACE WITH SMILING EYES,FACE SAVOURING DELICIOUS FOOD,RELIEVED FACE",
       "SMILING FACE WITH HEART-SHAPED EYES,cSUNGLASSES,SMIRKING FACE,NEUTRALa,EXPRESSIONLESSa",
       "UNAMUSEDa,FACE WITH COLD SWEAT,PENSIVE FACE,CONFUSEDa,CONFOUNDEDa,KISSINGa",
       "FACE THROWING A KISS,KISSING FACE WITH SMILING EYES,cCLOSEDa,FACE WITH STUCK-OUT TONGUE",
       "dAND WINKING EYE,eTIGHTLY-CLOSED EYES,DISAPPOINTED FACE,WORRIEDa,ANGRYa,POUTINGa",
       "CRYINGa,PERSEVERINGa,FACE WITH LOOK OF TRIUMPH,DISAPPOINTED BUT RELIEVED FACE",
       "FROWNING FACE WITH OPEN MOUTH,ANGUISHED FACE,FEARFULa,WEARYa,SLEEPYa,TIREDa,GRIMACINGa",
       "LOUDLY CRYINGa,FACE WITH OPEN MOUTH,HUSHED FACE,FACE WITH OPEN MOUTH AND COLD SWEAT",
       "aSCREAMING IN FEAR,ASTONISHED FACE,FLUSHEDa,SLEEPINGa,DIZZYa,FACE WITHOUT MOUTH",
       "aWITH MEDICAL MASK,GRINNING CAT FACE WITH SMILING EYES,CAT FACE WITH TEARS OF JOY",
       "SMILING CAT FACE WITH OPEN MOUTH,dHEART-SHAPED EYES,CAT FACE WITH WRY SMILE",
       "KISSING CAT FACE WITH CLOSED EYES,POUTING CAT FACE,CRYINGb,WEARYb,SLIGHTLY FROWNINGa",
       "aSMILINGa,UPSIDE-DOWNa,FACE WITH ROLLING EYES,bNO GOOD GESTURE,bOKa",
       "PERSON BOWING DEEPLY,SEE-NO-EVIL MONKEY,HEAR-NO-EVILa,SPEAK-NO-EVILa",
       "HAPPY PERSON RAISING ONE HAND"]⟩,
    ⟨0x1F64C, "PERSON ",
      ["RAISING BOTH HANDS IN CELEBRATION,FROWNING,WITH POUTING FACE,aFOLDED HANDS"]⟩,
    ⟨0x1F650, "",
      ["NORTH WEST POINTING LEAF,SOUTHc,NORTH EASTb,SOUTHc,TURNED NORTH WESTb,aSOUTHc",
       "aNORTH EASTb,aSOUTHc,NORTH WEST POINTING VINEa,SOUTHd,NORTH EASTc,SOUTHd",
       "HEAVY NORTH WESTc,aSOUTHd,aNORTH EASTc,aSOUTHd,NORTH WEST POINTING BUD,SOUTHc",
       "NORTH EASTb,SOUTHc,HEAVY NORTH WESTb,aSOUTHc,aNORTH EASTb,aSOUTHc",
       "HOLLOW QUILT SQUARE ORNAMENT,dIN BLACK SQUARE,SOLID QUILT SQUARE ORNAMENT",
       "dIN BLACK SQUARE,LEFTWARDS ROCKET,UPWARDSa,RIGHTWARDSa,DOWNWARDSa",
       "SCRIPT LIGATURE ET ORNAMENT,HEAVYd,LIGATURE OPENb,HEAVYd,aAMPERSANDa,SWASHb",
       "SANS-SERIF HEAVY DOUBLE TURNED COMMA QUOTATION MARKa,cd,bLOWe,HEAVY INTERROBANGa",
       "SANS-SERIFb,HEAVYc,VERY HEAVY SOLIDUS,bREVERSEa,CHECKER BOARD,REVERSEb,ROCKET",
       "HELICOPTER,STEAM LOCOMOTIVE,RAILWAY CAR,HIGH-SPEED TRAIN,bWITH BULLET NOSE,TRAIN,METRO",
       "LIGHT RAIL,STATION,TRAM,aCAR,BUS,ONCOMINGa,TROLLEYBUS,BUS STOP,MINIBUS,AMBULANCE",
       "FIRE ENGINE,POLICE CAR,ONCOMINGb,TAXI,ONCOMINGa,AUTOMOBILE,ONCOMINGa",
       "RECREATIONAL VEHICLE,DELIVERY TRUCK,ARTICULATED LORRY,TRACTOR,MONORAIL,MOUNTAIN RAILWAY",
       "SUSPENSIONa,MOUNTAIN CABLEWAY,AERIAL TRAMWAY,SHIP,ROWBOAT,SPEEDBOAT",
       "HORIZONTAL TRAFFIC LIGHT,VERTICALb,CONSTRUCTION SIGN,POLICE CARS REVOLVING LIGHT",
       "TRIANGULAR FLAG ON POST,DOOR,NO ENTRY SIGN,SMOKING SYMBOL,NOb,PUT LITTER IN ITS PLACEa",
       "DO NOT LITTERa,POTABLE WATERa,NON-POTABLEb,BICYCLE,NO BICYCLES,BICYCLIST,MOUNTAINa",
       "PEDESTRIAN,NO PEDESTRIANS,CHILDREN CROSSING,MENS SYMBOL,WOMENSa,RESTROOM,BABY SYMBOL",
       "TOILET,WATER CLOSET,SHOWER,BATH,BATHTUB,PASSPORT CONTROL,CUSTOMS,BAGGAGE CLAIM",
       "LEFT LUGGAGE,TRIANGLE WITH ROUNDED CORNERS,PROHIBITED SIGN,CIRCLED INFORMATION SOURCE",
       "BOYS SYMBOL,GIRLSa,COUCH AND LAMP,SLEEPING ACCOMMODATION,SHOPPING BAGS,BELLHOP BELL,BED",
       "PLACE OF WORSHIP,OCTAGONAL SIGN,SHOPPING TROLLEY,STUPA,PAGODA,HINDU TEMPLE,HUT,ELEVATOR",
       ",,,,,PLAYGROUND SLIDE,WHEEL,RING BUOY,HAMMER AND WRENCH,SHIELD,OIL DRUM,MOTORWAY",
       "RAILWAY TRACK,MOTOR BOAT,UP-POINTING MILITARY AIRPLANE,aa,aSMALLa,SMALL AIRPLANE",
       "NORTHEAST-POINTINGa,AIRPLANE DEPARTURE,aARRIVING,,,,SATELLITE,ONCOMING FIRE ENGINE",
       "DIESEL LOCOMOTIVE,PASSENGER SHIP,SCOOTER,MOTORa,CANOE,SLED,FLYING SAUCER,SKATEBOARD",
       "AUTO RICKSHAW,PICKUP TRUCK,ROLLER SKATE"]⟩,
    ⟨0x1F700, "ALCHEMICAL SYMBOL FOR ",
      ["QUINTESSENCE,AIR,FIRE,EARTH,WATER,AQUAFORTIS,AQUA REGIA,aREGIA-2,aVITAE,aVITAE-2",
       "VINEGAR,VINEGAR-2,VINEGAR-3,SULFUR,PHILOSOPHERSa,BLACKa,MERCURY SUBLIMATE,aSUBLIMATE-2",
       "aSUBLIMATE-3,CINNABAR,SALT,NITRE,VITRIOL,VITRIOL-2,ROCK SALT,aSALT-2,GOLD,SILVER",
       "IRON ORE,aORE-2,CROCUS OF IRON,REGULUSb,COPPER ORE,IRON-COPPERa,SUBLIMATE OF COPPER",
       "CROCUSb,bCOPPER-2,COPPER ANTIMONIATE,SALT OFb,SUBLIMATE OF SALT OF COPPER,VERDIGRIS",
       "TIN ORE,LEADa,ANTIMONYa,SUBLIMATE OF ANTIMONY,SALTb,SUBLIMATE OFc,VINEGARb,REGULUSb",
       "bANTIMONY-2,a,REGULUS-2,REGULUS-3,REGULUS-4,ALKALI,ALKALI-2,MARCASITE,SAL-AMMONIAC",
       "ARSENIC,REALGAR,REALGAR-2,AURIPIGMENT,BISMUTH ORE,TARTAR,TARTAR-2,QUICK LIME,BORAX",
       "BORAX-2,BORAX-3,ALUM,OIL,SPIRIT,TINCTURE,GUM,WAX,POWDER,CALX,TUTTY,CAPUT MORTUUM",
       "SCEPTER OF JOVE,CADUCEUS,TRIDENT,STARREDa,LODESTONE,SOAP,URINE,HORSE DUNG,ASHES,POTa",
       "BRICK,POWDEREDa,AMALGAM,STRATUM SUPER STRATUM,bSTRATUM-2,SUBLIMATION,PRECIPITATE",
       "DISTILL,DISSOLVE,DISSOLVE-2,PURIFY,PUTREFACTION,CRUCIBLE,CRUCIBLE-2,CRUCIBLE-3",
       "CRUCIBLE-4,CRUCIBLE-5,ALEMBIC,BATH OF MARY,bVAPOURS,RETORT,HOUR,NIGHT,DAY-NIGHT,MONTH",
       "HALF DRAM,aOUNCE"]⟩,
    ⟨0x1F780, "BLACK ",
      ["LEFT-POINTING ISOSCELES RIGHT TRIANGLE,UP-POINTINGc,RIGHT-POINTINGc,DOWN-POINTINGc",
       "SLIGHTLY SMALL CIRCLE"]⟩,
    ⟨0x1F785, "",
      ["MEDIUM BOLD WHITE CIRCLE,BOLD WHITE CIRCLE,HEAVYb,VERYc,EXTREMELYc",
       "WHITE CIRCLE CONTAINING BLACK SMALLa,ROUND TARGET,BLACK TINY SQUARE,aSLIGHTLY SMALLa",
       "LIGHT WHITEa,MEDIUMb,BOLDb,HEAVYb,VERYc,EXTREMELYc",
       "WHITE SQUARE CONTAINING BLACK VERY SMALLa,dMEDIUMa,SQUARE TARGET,BLACK TINY DIAMOND",
       "aVERY SMALLa,aMEDIUMb,WHITE DIAMOND CONTAINING BLACK VERYb,dMEDIUMa,DIAMOND TARGET",
       "BLACK TINY LOZENGE,aVERY SMALLa,aMEDIUMb,WHITE LOZENGE CONTAINING BLACKb",
       "THIN GREEK CROSS,LIGHTb,MEDIUMb,BOLDb,VERYc,aHEAVYb,EXTREMELYc,THIN SALTIRE,LIGHTa",
       "MEDIUMa,BOLDa,HEAVYa,VERYb,EXTREMELYb,LIGHT FIVE SPOKED ASTERISK,MEDIUMc,BOLDc,HEAVYc",
       "VERYd,EXTREMELYd,LIGHT SIXb,MEDIUMc,BOLDc,HEAVYc,VERYd,EXTREMELYd,LIGHT EIGHTb,MEDIUMc",
       "BOLDc,HEAVYc,VERYd,LIGHT THREE POINTED BLACK STAR,MEDIUMd,THREE POINTED BLACK STAR",
       "MEDIUM THREE POINTED PINWHEELa,LIGHT FOUR POINTED BLACKa,MEDIUMd",
       "FOUR POINTED BLACK STAR,MEDIUM FOUR POINTED PINWHEELa,REVERSE LIGHTd",
       "LIGHT FIVE POINTED BLACKa,HEAVYd,MEDIUM SIXc,HEAVYd,SIX POINTED PINWHEELa",
       "MEDIUM EIGHT POINTED BLACKa,HEAVYd,VERYe,HEAVY EIGHT POINTED PINWHEELa",
       "LIGHT TWELVE POINTED BLACKa,HEAVYd,cPINWHEELa,CIRCLED TRIANGLE,NEGATIVEb,CIRCLED SQUARE",
       "NEGATIVEb"]⟩,
    ⟨0x1F7E0, "LARGE ",
      ["ORANGE CIRCLE,YELLOWa,GREENa,PURPLEa,BROWNa,RED SQUARE,BLUEa,ORANGEa,YELLOWa,GREENa",
       "PURPLEa,BROWNa"]⟩,
    ⟨0x1F7F0, "HEAVY EQUALS ",
      ["SIGN"]⟩,
    ⟨0x1F800, "",
      ["LEFTWARDS ARROW WITH SMALL TRIANGLE ARROWHEAD,UPWARDSe,RIGHTWARDSe,DOWNWARDSe",
       "LEFTWARDS ARROW WITH MEDIUMb,UPWARDSe,RIGHTWARDSe,DOWNWARDSe",
       "LEFTWARDS ARROW WITH LARGEb,UPWARDSe,RIGHTWARDSe,DOWNWARDSe,,,,",
       "LEFTWARDS ARROW WITH SMALL EQUILATERALa,UPWARDSe,RIGHTWARDSe,DOWNWARDSe",
       "LEFTWARDS ARROW WITHb,UPWARDSd,RIGHTWARDSd,DOWNWARDSd,HEAVY LEFTWARDSd,aUPWARDSd",
       "aRIGHTWARDSd,aDOWNWARDSd,aLEFTWARDS ARROW WITH LARGEb,aUPWARDSe,aRIGHTWARDSe",
       "aDOWNWARDSe,LEFTWARDS TRIANGLE-HEADED ARROW WITH NARROW SHAFT,UPWARDSe,RIGHTWARDSe",
       "DOWNWARDSe,LEFTWARDS TRIANGLE-HEADED ARROW WITH MEDIUMa,UPWARDSe,RIGHTWARDSe,DOWNWARDSe",
       "LEFTWARDS TRIANGLE-HEADED ARROW WITH BOLDa,UPWARDSe,RIGHTWARDSe,DOWNWARDSe",
       "LEFTWARDS TRIANGLE-HEADED ARROW WITH HEAVYa,UPWARDSe,RIGHTWARDSe,DOWNWARDSe",
       "LEFTWARDS TRIANGLE-HEADED ARROW WITH VERYb,UPWARDSf,RIGHTWARDSf,DOWNWARDSf",
       "LEFTWARDS FINGER-POST ARROW,UPWARDSb,RIGHTWARDSb,DOWNWARDSb,LEFTWARDS SQUAREDa,UPWARDSb",
       "RIGHTWARDSb,DOWNWARDSb,LEFTWARDS COMPRESSEDa,UPWARDSb,RIGHTWARDSb,DOWNWARDSb",
       "LEFTWARDS HEAVYb,UPWARDSc,RIGHTWARDSc,DOWNWARDSc,LEFTWARDS HEAVYa,UPWARDSb,RIGHTWARDSb",
       "DOWNWARDSb,,,,,,,,,LEFTWARDS SANS-SERIFa,UPWARDSb,RIGHTWARDSb,DOWNWARDSb,NORTH WESTb",
       "aEASTb,SOUTHc,aWESTb,LEFT RIGHTb,UP DOWNb"]⟩,
    ⟨0x1F860, "WIDE-HEADED ",
      ["LEFTWARDS LIGHT BARB ARROW,UPWARDSc,RIGHTWARDSc,DOWNWARDSc,NORTH WESTc,aEASTc,SOUTHd",
       "aWESTc,LEFTWARDSb,UPWARDSb,RIGHTWARDSb,DOWNWARDSb,NORTH WESTb,aEASTb,SOUTHc,aWESTb",
       "LEFTWARDS MEDIUMb,UPWARDSc,RIGHTWARDSc,DOWNWARDSc,NORTH WESTc,aEASTc,SOUTHd,aWESTc",
       "LEFTWARDS HEAVYb,UPWARDSc,RIGHTWARDSc,DOWNWARDSc,NORTH WESTc,aEASTc,SOUTHd,aWESTc",
       "LEFTWARDS VERYc,UPWARDSd,RIGHTWARDSd,DOWNWARDSd,NORTH WESTd,aEASTd,SOUTHe,aWESTd"]⟩,
    ⟨0x1F890, "",
      ["LEFTWARDS TRIANGLE ARROWHEAD,UPWARDSb,RIGHTWARDSb,DOWNWARDSb",
       "LEFTWARDS WHITE ARROW WITHINb,UPWARDSe,RIGHTWARDSe,DOWNWARDSe",
       "LEFTWARDS ARROW WITH NOTCHED TAIL,UPWARDSd,RIGHTWARDSd,DOWNWARDSd",
       "HEAVY ARROW SHAFT WIDTH ONE,dTWO THIRDS,dONE HALF,eTHIRD",
       "LEFTWARDS BOTTOM-SHADED WHITE ARROW,RIGHTWARDS BOTTOM SHADEDb,LEFTWARDS TOPc",
       "RIGHTWARDSd,LEFTWARDS LEFT-SHADEDb,RIGHTWARDS RIGHT-SHADEDb,LEFTWARDSc",
       "RIGHTWARDS LEFT-SHADEDb,LEFTWARDS BACK-TILTED SHADOWEDb,RIGHTWARDSd",
       "LEFTWARDS FRONT-TILTEDc,RIGHTWARDSd,WHITE ARROW SHAFT WIDTH ONE,dTWO THIRDS"]⟩,
    ⟨0x1F8B0, "ARROW POINTING ",
      ["UPWARDS THEN NORTH WEST,RIGHTWARDS THEN CURVING SOUTHa"]⟩,
    ⟨0x1F900, "CIRCLED CROSS ",
      ["FORMEE WITH FOUR DOTS,bTWOa,a"]⟩,
    ⟨0x1F903, "LEFT HALF ",
      ["CIRCLE WITH FOUR DOTS,bTHREEa,bTWOa,bDOT,a"]⟩,
    ⟨0x1F908, "DOWNWARD FACING ",
      ["HOOK,NOTCHEDa,HOOK WITH DOT,NOTCHEDc"]⟩,
    ⟨0x1F90C, "",
      ["PINCHED FINGERS,WHITE HEART,BROWNa,PINCHING HAND,ZIPPER-MOUTH FACE,MONEY-MOUTHa",
       "FACE WITH THERMOMETER,NERD FACE,THINKINGa,FACE WITH HEAD-BANDAGE,ROBOT FACE,HUGGINGa",
       "SIGN OF THE HORNS,CALL ME HAND,RAISED BACK OFa,LEFT-FACING FIST,RIGHT-FACINGa,HANDSHAKE",
       "HAND WITH INDEX AND MIDDLE FINGERS CROSSED,I LOVE YOU HAND SIGN,FACE WITH COWBOY HAT",
       "CLOWN FACE,NAUSEATEDa,ROLLING ON THE FLOOR LAUGHING,DROOLING FACE,LYINGa,FACE PALM",
       "SNEEZING FACE,FACE WITH ONE EYEBROW RAISED,GRINNING FACE WITH STAR EYES",
       "cONE LARGE AND ONE SMALL EYE,FACE WITH FINGER COVERING CLOSED LIPS",
       "SERIOUS FACE WITH SYMBOLS COVERING MOUTH,SMILING FACE WITH SMILING EYES AND HANDb",
       "FACE WITH OPEN MOUTH VOMITING,SHOCKED FACE WITH EXPLODING HEAD,PREGNANT WOMAN",
       "BREAST-FEEDING,PALMS UP TOGETHER,SELFIE,PRINCE,MAN IN TUXEDO,MOTHER CHRISTMAS,SHRUG",
       "PERSON DOING CARTWHEEL,JUGGLING,FENCER,MODERN PENTATHLON,WRESTLERS,WATER POLO,HANDBALL",
       "DIVING MASK,WILTED FLOWER,DRUM WITH DRUMSTICKS,CLINKING GLASSES,TUMBLER GLASS,SPOON",
       "GOAL NET,RIFLE,FIRST PLACE MEDAL,SECONDb,THIRDb,BOXING GLOVE,MARTIAL ARTS UNIFORM",
       "CURLING STONE,LACROSSE STICK AND BALL,SOFTBALL,FLYING DISC,CROISSANT,AVOCADO,CUCUMBER",
       "BACON,POTATO,CARROT,BAGUETTE BREAD,GREEN SALAD,SHALLOW PAN OF FOOD,STUFFED FLATBREAD",
       "EGG,GLASS OF MILK,PEANUTS,KIWIFRUIT,PANCAKES,DUMPLING,FORTUNE COOKIE,TAKEOUT BOX",
       "CHOPSTICKS,BOWL WITH SPOON,CUP WITH STRAW,COCONUT,BROCCOLI,PIE,PRETZEL,CUT OF MEAT",
       "SANDWICH,CANNED FOOD,LEAFY GREEN,MANGO,MOON CAKE,BAGEL",
       "SMILING FACE WITH SMILING EYES AND THREE HEARTS,YAWNING FACE,SMILING FACE WITH TEAR",
       "FACE WITH PARTY HORN AND PARTY HAT,bUNEVEN EYES AND WAVY MOUTH,OVERHEATED FACE",
       "FREEZINGa,NINJA,DISGUISED FACE,FACE HOLDING BACK TEARS,aWITH PLEADING EYES,SARI",
       "LAB COAT,GOGGLES,HIKING BOOT,FLAT SHOE,CRAB,LION FACE,SCORPION,TURKEY,UNICORN FACE",
       "EAGLE,DUCK,BAT,SHARK,OWL,FOX FACE,BUTTERFLY,DEER,GORILLA,LIZARD,RHINOCEROS,SHRIMP,SQUID",
       "GIRAFFE FACE,ZEBRAa,HEDGEHOG,SAUROPOD,T-REX,CRICKET,KANGAROO,LLAMA,PEACOCK,HIPPOPOTAMUS",
       "PARROT,RACCOON,LOBSTER,MOSQUITO,MICROBE,BADGER,SWAN,MAMMOTH,DODO,SLOTH,OTTER,ORANGUTAN",
       "SKUNK,FLAMINGO,OYSTER,BEAVER,BISON,SEAL,GUIDE DOG,PROBING CANE,EMOJI COMPONENT RED HAIR",
       "bCURLYa,bBALD,bWHITE HAIR,BONE,LEG,FOOT,TOOTH,SUPERHERO,SUPERVILLAIN,SAFETY VEST",
       "EAR WITH HEARING AID,MOTORIZED WHEELCHAIR,MANUALa,MECHANICAL ARM,aLEG,CHEESE WEDGE",
       "CUPCAKE,SALT SHAKER,BEVERAGE BOX,GARLIC,ONION,FALAFEL,WAFFLE,BUTTER,MATE DRINK,ICE CUBE",
       "BUBBLE TEA,TROLL,STANDING PERSON,KNEELINGa,DEAFa,FACE WITH MONOCLE,ADULT,CHILD",
       "OLDER ADULT,BEARDED PERSON"]⟩,
    ⟨0x1F9D5, "PERSON ",
      ["WITH HEADSCARF,IN STEAMY ROOM,CLIMBING,IN LOTUS POSITION"]⟩,
    ⟨0x1F9D9, "",
      ["MAGE,FAIRY,VAMPIRE,MERPERSON,ELF,GENIE,ZOMBIE,BRAIN,ORANGE HEART,BILLED CAP,SCARF",
       "GLOVES,COAT,SOCKS,RED GIFT ENVELOPE,FIRECRACKER,JIGSAW PUZZLE PIECE,TEST TUBE",
       "PETRI DISH,DNA DOUBLE HELIX,COMPASS,ABACUS,FIRE EXTINGUISHER,TOOLBOX,BRICK,MAGNET",
       "LUGGAGE,LOTION BOTTLE,SPOOL OF THREAD,BALL OF YARN,SAFETY PIN,TEDDY BEAR,BROOM,BASKET",
       "ROLL OF PAPER,BAR OF SOAP,SPONGE,RECEIPT,NAZAR AMULET,NEUTRAL CHESS KING,bQUEEN,bROOK",
       "bBISHOP,bKNIGHT,bPAWN,WHITE CHESS KNIGHT ROTATED FORTY-FIVE DEGREES,BLACKe,NEUTRALe",
       "WHITE CHESS KING ROTATED NINETYa,bQUEENc,bROOKc,bBISHOPc,bKNIGHTc,bPAWNc",
       "BLACK CHESS KINGc,bQUEENc,bROOKc,bBISHOPc,bKNIGHTc,bPAWNc,NEUTRAL CHESS KINGc,bQUEENc",
       "bROOKc,bBISHOPc,bKNIGHTc,bPAWNc,WHITE CHESS KNIGHT ROTATED ONE HUNDRED THIRTY-FIVEa",
       "BLACKg,NEUTRALg"]⟩,
    ⟨0x1FA1E, "WHITE CHESS TURNED ",
      ["KING,QUEEN,ROOK,BISHOP,KNIGHT,PAWN"]⟩,
    ⟨0x1FA24, "BLACK CHESS TURNED ",
      ["KING,QUEEN,ROOK,BISHOP,KNIGHT,PAWN"]⟩,
    ⟨0x1FA2A, "NEUTRAL CHESS TURNED ",
      ["KING,QUEEN,ROOK,BISHOP,KNIGHT,PAWN"]⟩,
    ⟨0x1FA30, "",
      ["WHITE CHESS KNIGHT ROTATED TWO HUNDRED TWENTY-FIVE DEGREES,BLACKg,NEUTRALg",
       "WHITE CHESS KING ROTATED TWO HUNDRED SEVENTYa,bQUEENe,bROOKe,bBISHOPe,bKNIGHTe,bPAWNe",
       "BLACK CHESS KINGe,bQUEENe,bROOKe,bBISHOPe,bKNIGHTe,bPAWNe,NEUTRAL CHESS KINGe,bQUEENe",
       "bROOKe,bBISHOPe,bKNIGHTe,bPAWNe,WHITE CHESS KNIGHT ROTATED THREE HUNDRED FIFTEENa",
       "BLACKg,NEUTRALg,WHITE CHESS EQUIHOPPER,BLACKb,NEUTRALb",
       "WHITE CHESS EQUIHOPPER ROTATED NINETY DEGREES,BLACKe,NEUTRALe"]⟩,
    ⟨0x1FA4E, "WHITE CHESS ",
      ["KNIGHT-QUEEN,KNIGHT-ROOK,KNIGHT-BISHOP"]⟩,
    ⟨0x1FA51, "BLACK CHESS ",
      ["KNIGHT-QUEEN,KNIGHT-ROOK,KNIGHT-BISHOP"]⟩,
    ⟨0x1FA60, "XIANGQI ",
      ["RED GENERAL,aMANDARIN,aELEPHANT,aHORSE,aCHARIOT,aCANNON,aSOLDIER,BLACK GENERAL",
       "aMANDARIN,aELEPHANT,aHORSE,aCHARIOT,aCANNON,aSOLDIER"]⟩,
    ⟨0x1FA70, "",
      ["BALLET SHOES,ONE-PIECE SWIMSUIT,BRIEFS,SHORTS,THONG SANDAL,,,,DROP OF BLOOD",
       "ADHESIVE BANDAGE,STETHOSCOPE,X-RAY,CRUTCH,,,,YO-YO,KITE,PARACHUTE,BOOMERANG,MAGIC WAND",
       "PINATA,NESTING DOLLS,,,,,,,,,,RINGED PLANET,CHAIR,RAZOR,AXE,DIYA LAMP,BANJO",
       "MILITARY HELMET,ACCORDION,LONG DRUM,COIN,CARPENTRY SAW,SCREWDRIVER,LADDER,HOOK,MIRROR",
       "WINDOW,PLUNGER,SEWING NEEDLE,KNOT,BUCKET,MOUSE TRAP,TOOTHBRUSH,HEADSTONE,PLACARD,ROCK",
       "MIRROR BALL,IDENTIFICATION CARD,LOW BATTERY,HAMSA,,,,FLY,WORM,BEETLE,COCKROACH",
       "POTTED PLANT,WOOD,FEATHER,LOTUS,CORAL,EMPTY NEST,NEST WITH EGGS,,,,,,ANATOMICAL HEART",
       "LUNGS,PEOPLE HUGGING,PREGNANT MAN,aPERSON,PERSON WITH CROWN,,,,,,,,,,,BLUEBERRIES",
       "BELL PEPPER,OLIVE,FLATBREAD,TAMALE,FONDUE,TEAPOT,POURING LIQUID,BEANS,JAR,,,,,,",
       "MELTING FACE,SALUTINGa,FACE WITH OPEN EYES AND HAND OVER MOUTH,bPEEKING EYE",
       "bDIAGONAL MOUTH,DOTTED LINE FACE,BITING LIP,BUBBLES,,,,,,,,",
       "HAND WITH INDEX FINGER AND THUMB CROSSED,RIGHTWARDS HAND,LEFTWARDSa,PALM DOWNa,aUPa",
       "INDEX POINTING AT THE VIEWER,HEART HANDS"]⟩,
    ⟨0x1FB00, "BLOCK ",
      ["SEXTANT-1,SEXTANT-2,SEXTANT-12,SEXTANT-3,SEXTANT-13,SEXTANT-23,SEXTANT-123,SEXTANT-4",
       "SEXTANT-14,SEXTANT-24,SEXTANT-124,SEXTANT-34,SEXTANT-134,SEXTANT-234,SEXTANT-1234",
       "SEXTANT-5,SEXTANT-15,SEXTANT-25,SEXTANT-125,SEXTANT-35,SEXTANT-235,SEXTANT-1235",
       "SEXTANT-45,SEXTANT-145,SEXTANT-245,SEXTANT-1245,SEXTANT-345,SEXTANT-1345,SEXTANT-2345",
       "SEXTANT-12345,SEXTANT-6,SEXTANT-16,SEXTANT-26,SEXTANT-126,SEXTANT-36,SEXTANT-136",
       "SEXTANT-236,SEXTANT-1236,SEXTANT-46,SEXTANT-146,SEXTANT-1246,SEXTANT-346,SEXTANT-1346",
       "SEXTANT-2346,SEXTANT-12346,SEXTANT-56,SEXTANT-156,SEXTANT-256,SEXTANT-1256,SEXTANT-356",
       "SEXTANT-1356,SEXTANT-2356,SEXTANT-12356,SEXTANT-456,SEXTANT-1456,SEXTANT-2456",
       "SEXTANT-12456,SEXTANT-3456,SEXTANT-13456,SEXTANT-23456"]⟩,
    ⟨0x1FB3C, "LOWER ",
      ["LEFT BLOCK DIAGONAL LOWER MIDDLE LEFT TO LOWER CENTRE,hRIGHT",
       "cUPPER MIDDLE LEFT TO LOWER CENTRE,hRIGHT,dLEFT TO LOWER CENTRE",
       "RIGHT BLOCK DIAGONAL UPPER MIDDLE LEFT TO UPPERa,hRIGHT",
       "cLOWER MIDDLE LEFT TO UPPER CENTRE,hRIGHT,dLEFT TO UPPER CENTRE",
       "dMIDDLE LEFT TO UPPER MIDDLE RIGHT,dCENTRE TO LOWERb,dLEFTd,dCENTRE TO UPPERb,dLEFTd",
       "dCENTRE TO UPPERa,LEFT BLOCK DIAGONAL UPPER CENTRE TO UPPER MIDDLEa,dLEFTd",
       "dCENTRE TO LOWERb,dLEFTd,dCENTRE TO LOWERa,dMIDDLE LEFT TO LOWER MIDDLEa"]⟩,
    ⟨0x1FB52, "UPPER ",
      ["RIGHT BLOCK DIAGONAL LOWER MIDDLE LEFT TO LOWER CENTRE,hRIGHT",
       "cUPPER MIDDLE LEFT TO LOWER CENTRE,hRIGHT,dLEFT TO LOWER CENTRE",
       "LEFT BLOCK DIAGONAL UPPER MIDDLE LEFT TO UPPERa,hRIGHT",
       "cLOWER MIDDLE LEFT TO UPPER CENTRE,hRIGHT,dLEFT TO UPPER CENTRE",
       "dMIDDLE LEFT TO UPPER MIDDLE RIGHT,dCENTRE TO LOWERb,dLEFTd,dCENTRE TO UPPERb,dLEFTd",
       "dCENTRE TO UPPERa,RIGHT BLOCK DIAGONAL UPPER CENTRE TO UPPER MIDDLEa,dLEFTd",
       "dCENTRE TO LOWERb,dLEFTd,dCENTRE TO LOWERa,dMIDDLE LEFT TO LOWER MIDDLEa"]⟩,
    ⟨0x1FB68, "",
      ["UPPER AND RIGHT AND LOWER TRIANGULAR THREE QUARTERS BLOCK,LEFT AND LOWER AND RIGHTd",
       "UPPER AND LEFT AND LOWERd,LEFT AND UPPER AND RIGHTd,aTRIANGULAR ONE QUARTERa,UPPERd",
       "RIGHTd,LOWERd"]⟩,
    ⟨0x1FB70, "VERTICAL ONE EIGHTH ",
      ["BLOCK-2,BLOCK-3,BLOCK-4,BLOCK-5,BLOCK-6,BLOCK-7"]⟩,
    ⟨0x1FB76, "HORIZONTAL ONE EIGHTH ",
      ["BLOCK-2,BLOCK-3,BLOCK-4,BLOCK-5,BLOCK-6,BLOCK-7"]⟩,
    ⟨0x1FB7C, "",
      ["LEFT AND LOWER ONE EIGHTH BLOCK,bUPPERc,RIGHTe,bLOWERc,UPPERe",
       "HORIZONTAL ONE EIGHTH BLOCK-1358"]⟩,
    ⟨0x1FB82, "UPPER ",
      ["ONE QUARTER BLOCK,THREE EIGHTHSa,FIVEb,THREE QUARTERSa,SEVEN EIGHTHSa"]⟩,
    ⟨0x1FB87, "RIGHT ",
      ["ONE QUARTER BLOCK,THREE EIGHTHSa,FIVEb,THREE QUARTERSa,SEVEN EIGHTHSa"]⟩,
    ⟨0x1FB8C, "",
      ["LEFT HALF MEDIUM SHADE,RIGHTc,UPPERc,LOWERc,INVERSEb,UPPER HALF BLOCK AND LOWER HALFc",
       "bINVERSE MEDIUM SHADE AND LOWER HALF BLOCK,,LEFT HALF INVERSE MEDIUM SHADE AND RIGHTb",
       "CHECKER BOARD FILL,INVERSEc,HEAVY HORIZONTALa,UPPER LEFT TO LOWER RIGHTa",
       "aRIGHT TO LOWER LEFTa,aAND LOWER TRIANGULAR HALF BLOCK,LEFT AND RIGHTc",
       "UPPER LEFT TRIANGULAR MEDIUM SHADE,aRIGHTc,LOWERd,aLEFTc"]⟩,
    ⟨0x1FBA0, "BOX DRAWINGS LIGHT ",
      ["DIAGONAL UPPER CENTRE TO MIDDLE LEFT,eRIGHT,aMIDDLE LEFT TO LOWER CENTRE,bRIGHTc",
       "aUPPER CENTRE TO MIDDLE LEFTc,eRIGHTc,aMIDDLE LEFT TO LOWER CENTRE TO MIDDLE RIGHT",
       "dUPPERd,aUPPER CENTRE TO MIDDLE LEFT AND MIDDLE RIGHT TO LOWER CENTRE",
       "eRIGHT AND MIDDLE LEFTc,fTO LOWER CENTRE TO MIDDLE LEFT",
       "eLEFT TO LOWER CENTRE TO MIDDLE RIGHT",
       "aMIDDLE LEFT TO UPPER CENTRE TO MIDDLE RIGHT TO LOWER CENTRE",
       "bRIGHT TO UPPER CENTRE TO MIDDLE LEFTc,aDIAMOND,HORIZONTAL WITH VERTICAL STROKE"]⟩,
    ⟨0x1FBB0, "",
      ["ARROWHEAD-SHAPED POINTER,INVERSE CHECK MARK,LEFT HALF RUNNING MAN,RIGHTc",
       "INVERSE DOWNWARDS ARROW WITH TIP LEFTWARDS",
       "LEFTWARDS ARROW AND UPPER AND LOWER ONE EIGHTH BLOCK,RIGHTWARDSh",
       "DOWNWARDS ARROW AND RIGHTc,UPWARDSf,LEFT HALF FOLDER,RIGHTb,VOIDED GREEK CROSS",
       "RIGHT OPEN SQUARED DOT,NEGATIVE DIAGONAL CROSS,bMIDDLE RIGHT TO LOWER CENTRE,bDIAMOND",
       "WHITE HEAVY SALTIRE WITH ROUNDED CORNERS,LEFT THIRD WHITE RIGHT POINTING INDEX,MIDDLEe",
       "RIGHTe,NEGATIVE SQUARED QUESTION MARK"]⟩,
    ⟨0x1FBC5, "STICK ",
      ["FIGURE,aWITH ARMS RAISED,aLEANING LEFT,bRIGHT,aWITH DRESS"]⟩,
    ⟨0x1FBCA, "WHITE UP-POINTING ",
      ["CHEVRON"]⟩,
    ⟨0x1FBF0, "SEGMENTED DIGIT ",
      ["ZERO,ONE,TWO,THREE,FOUR,FIVE,SIX,SEVEN,EIGHT,NINE"]⟩,
    ⟨0xE0001, "LANGUAGE ",
      ["TAG"]⟩,
    ⟨0xE0020, "TAG ",
      ["SPACE,EXCLAMATION MARK,QUOTATIONa,NUMBER SIGN,DOLLARa,PERCENTa,AMPERSAND,APOSTROPHE",
       "LEFT PARENTHESIS,RIGHTa,ASTERISK,PLUS SIGN,COMMA,HYPHEN-MINUS,FULL STOP,SOLIDUS",
       "DIGIT ZERO,aONE,aTWO,aTHREE,aFOUR,aFIVE,aSIX,aSEVEN,aEIGHT,aNINE,COLON,SEMICOLON",
       "LESS-THAN SIGN,EQUALSa,GREATER-THANa,QUESTION MARK,COMMERCIAL AT,LATIN CAPITAL LETTER A",
       "cB,cC,cD,cE,cF,cG,cH,cI,cJ,cK,cL,cM,cN,cO,cP,cQ,cR,cS,cT,cU,cV,cW,cX,cY,cZ",
       "LEFT SQUARE BRACKET,REVERSE SOLIDUS,RIGHT SQUARE BRACKET,CIRCUMFLEX ACCENT,LOW LINE",
       "GRAVE ACCENT,LATIN SMALL LETTER A,cB,cC,cD,cE,cF,cG,cH,cI,cJ,cK,cL,cM,cN,cO,cP,cQ,cR,cS",
       "cT,cU,cV,cW,cX,cY,cZ,LEFT CURLY BRACKET,VERTICAL LINE,RIGHT CURLY BRACKET,TILDE"]⟩,
    ⟨0xE007F, "CANCEL ",
      ["TAG"]⟩ ]

end LineTally.CharNames
