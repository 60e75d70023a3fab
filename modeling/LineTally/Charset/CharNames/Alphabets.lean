import LineTally.Charset.CharNames.Basic

namespace LineTally.CharNames

/-!
# Names of letters

The names of the characters up to 0x1FFF: the alphabets and syllabaries of the
living languages, with their digits, marks and signs.
-/

/-- The names of these characters, in their order. -/
def alphabets : List NameRun :=
  [ ⟨0x20, "",
      ["SPACE,EXCLAMATION MARK,QUOTATIONa,NUMBER SIGN,DOLLARa,PERCENTa,AMPERSAND,APOSTROPHE",
       "LEFT PARENTHESIS,RIGHTa,ASTERISK,PLUS SIGN,COMMA,HYPHEN-MINUS,FULL STOP,SOLIDUS",
       "DIGIT ZERO,aONE,aTWO,aTHREE,aFOUR,aFIVE,aSIX,aSEVEN,aEIGHT,aNINE,COLON,SEMICOLON",
       "LESS-THAN SIGN,EQUALSa,GREATER-THANa,QUESTION MARK,COMMERCIAL AT"]⟩,
    ⟨0x41, "LATIN CAPITAL LETTER ",
      ["A,B,C,D,E,F,G,H,I,J,K,L,M,N,O,P,Q,R,S,T,U,V,W,X,Y,Z"]⟩,
    ⟨0x5B, "",
      ["LEFT SQUARE BRACKET,REVERSE SOLIDUS,RIGHT SQUARE BRACKET,CIRCUMFLEX ACCENT,LOW LINE",
       "GRAVE ACCENT"]⟩,
    ⟨0x61, "LATIN SMALL LETTER ",
      ["A,B,C,D,E,F,G,H,I,J,K,L,M,N,O,P,Q,R,S,T,U,V,W,X,Y,Z"]⟩,
    ⟨0x7B, "",
      ["LEFT CURLY BRACKET,VERTICAL LINE,RIGHT CURLY BRACKET,TILDE"]⟩,
    ⟨0xA0, "",
      ["NO-BREAK SPACE,INVERTED EXCLAMATION MARK,CENT SIGN,POUNDa,CURRENCYa,YENa,BROKEN BAR",
       "SECTION SIGN,DIAERESIS,COPYRIGHT SIGN,FEMININE ORDINAL INDICATOR",
       "LEFT-POINTING DOUBLE ANGLE QUOTATION MARK,NOT SIGN,SOFT HYPHEN,REGISTERED SIGN,MACRON",
       "DEGREE SIGN,PLUS-MINUSa,SUPERSCRIPT TWO,aTHREE,ACUTE ACCENT,MICRO SIGN,PILCROWa",
       "MIDDLE DOT,CEDILLA,SUPERSCRIPT ONE,MASCULINE ORDINAL INDICATOR",
       "RIGHT-POINTING DOUBLE ANGLE QUOTATION MARK,VULGAR FRACTION ONE QUARTER,cHALF",
       "bTHREE QUARTERS,INVERTED QUESTION MARK"]⟩,
    ⟨0xC0, "LATIN CAPITAL LETTER ",
      ["A WITH GRAVE,bACUTE,bCIRCUMFLEX,bTILDE,bDIAERESIS,bRING ABOVE,AE,C WITH CEDILLA",
       "E WITH GRAVE,bACUTE,bCIRCUMFLEX,bDIAERESIS,I WITH GRAVE,bACUTE,bCIRCUMFLEX,bDIAERESIS",
       "ETH,N WITH TILDE,O WITH GRAVE,bACUTE,bCIRCUMFLEX,bTILDE,bDIAERESIS"]⟩,
    ⟨0xD7, "MULTIPLICATION ",
      ["SIGN"]⟩,
    ⟨0xD8, "LATIN ",
      ["CAPITAL LETTER O WITH STROKE,bU WITH GRAVE,dACUTE,dCIRCUMFLEX,dDIAERESIS,bY WITH ACUTE",
       "bTHORN,SMALL LETTER SHARP S,bA WITH GRAVE,dACUTE,dCIRCUMFLEX,dTILDE,dDIAERESIS",
       "dRING ABOVE,bAE,bC WITH CEDILLA,bE WITH GRAVE,dACUTE,dCIRCUMFLEX,dDIAERESIS",
       "bI WITH GRAVE,dACUTE,dCIRCUMFLEX,dDIAERESIS,bETH,bN WITH TILDE,bO WITH GRAVE,dACUTE",
       "dCIRCUMFLEX,dTILDE,dDIAERESIS"]⟩,
    ⟨0xF7, "DIVISION ",
      ["SIGN"]⟩,
    ⟨0xF8, "LATIN ",
      ["SMALL LETTER O WITH STROKE,bU WITH GRAVE,dACUTE,dCIRCUMFLEX,dDIAERESIS,bY WITH ACUTE",
       "bTHORN,bY WITH DIAERESIS,CAPITAL LETTER A WITH MACRON,SMALLd",
       "CAPITAL LETTER A WITH BREVE,SMALLd,CAPITAL LETTER A WITH OGONEK,SMALLd",
       "CAPITAL LETTER C WITH ACUTE,SMALLd,CAPITAL LETTER C WITH CIRCUMFLEX,SMALLd",
       "CAPITAL LETTER C WITH DOT ABOVE,SMALLe,CAPITAL LETTER C WITH CARON,SMALLd",
       "CAPITAL LETTER Db,SMALLd,CAPITAL LETTER D WITH STROKE,SMALLd",
       "CAPITAL LETTER E WITH MACRON,SMALLd,CAPITAL LETTER E WITH BREVE,SMALLd",
       "CAPITAL LETTER E WITH DOT ABOVE,SMALLe,CAPITAL LETTER E WITH OGONEK,SMALLd",
       "CAPITAL LETTER E WITH CARON,SMALLd,CAPITAL LETTER G WITH CIRCUMFLEX,SMALLd",
       "CAPITAL LETTER G WITH BREVE,SMALLd,CAPITAL LETTER G WITH DOT ABOVE,SMALLe",
       "CAPITAL LETTER G WITH CEDILLA,SMALLd,CAPITAL LETTER H WITH CIRCUMFLEX,SMALLd",
       "CAPITAL LETTER H WITH STROKE,SMALLd,CAPITAL LETTER I WITH TILDE,SMALLd",
       "CAPITAL LETTER I WITH MACRON,SMALLd,CAPITAL LETTER I WITH BREVE,SMALLd",
       "CAPITAL LETTER I WITH OGONEK,SMALLd,CAPITAL LETTER I WITH DOT ABOVE",
       "SMALL LETTER DOTLESS I,CAPITAL LIGATURE IJ,SMALLb,CAPITAL LETTER J WITH CIRCUMFLEX",
       "SMALLd,CAPITAL LETTER K WITH CEDILLA,SMALLd,bKRA,CAPITAL LETTER L WITH ACUTE,SMALLd",
       "CAPITAL LETTER L WITH CEDILLA,SMALLd,CAPITAL LETTER L WITH CARON,SMALLd",
       "CAPITAL LETTER L WITH MIDDLE DOT,SMALLe,CAPITAL LETTER L WITH STROKE,SMALLd",
       "CAPITAL LETTER N WITH ACUTE,SMALLd,CAPITAL LETTER N WITH CEDILLA,SMALLd",
       "CAPITAL LETTER N WITH CARON,SMALLd,cPRECEDED BY APOSTROPHE,CAPITAL LETTER ENG,SMALLb",
       "CAPITAL LETTER O WITH MACRON,SMALLd,CAPITAL LETTER O WITH BREVE,SMALLd",
       "CAPITAL LETTER O WITH DOUBLE ACUTE,SMALLe,CAPITAL LIGATURE OE,SMALLb",
       "CAPITAL LETTER R WITH ACUTE,SMALLd,CAPITAL LETTER R WITH CEDILLA,SMALLd",
       "CAPITAL LETTER R WITH CARON,SMALLd,CAPITAL LETTER S WITH ACUTE,SMALLd",
       "CAPITAL LETTER S WITH CIRCUMFLEX,SMALLd,CAPITAL LETTER S WITH CEDILLA,SMALLd",
       "CAPITAL LETTER S WITH CARON,SMALLd,CAPITAL LETTER T WITH CEDILLA,SMALLd",
       "CAPITAL LETTER T WITH CARON,SMALLd,CAPITAL LETTER T WITH STROKE,SMALLd",
       "CAPITAL LETTER U WITH TILDE,SMALLd,CAPITAL LETTER U WITH MACRON,SMALLd",
       "CAPITAL LETTER U WITH BREVE,SMALLd,CAPITAL LETTER U WITH RING ABOVE,SMALLe",
       "CAPITAL LETTER U WITH DOUBLE ACUTE,SMALLe,CAPITAL LETTER U WITH OGONEK,SMALLd",
       "CAPITAL LETTER W WITH CIRCUMFLEX,SMALLd,CAPITAL LETTER Yb,SMALLd",
       "CAPITAL LETTER Y WITH DIAERESIS,bZ WITH ACUTE,SMALLd,CAPITAL LETTER Z WITH DOT ABOVE",
       "SMALLe,CAPITAL LETTER Z WITH CARON,SMALLd,bLONG S,bB WITH STROKE",
       "CAPITAL LETTER B WITH HOOK,dTOPBAR,SMALLd,CAPITAL LETTER TONE SIX,SMALLc",
       "CAPITAL LETTER OPEN O,bC WITH HOOK,SMALLd,CAPITAL LETTER AFRICAN D,bD WITH HOOK,dTOPBAR",
       "SMALLd,bTURNED DELTA,CAPITAL LETTER REVERSED E,bSCHWA,bOPEN E,bF WITH HOOK,SMALLd",
       "CAPITAL LETTER Gb,bGAMMA,SMALL LETTER HV,CAPITAL LETTER IOTA,bI WITH STROKE",
       "bK WITH HOOK,SMALLd,bL WITH BAR,bLAMBDA WITH STROKE,CAPITAL LETTER TURNED M",
       "bN WITH LEFT HOOK,SMALL LETTER N WITH LONG RIGHT LEG,CAPITAL LETTER O WITH MIDDLE TILDE",
       "dHORN,SMALLd,CAPITAL LETTER OI,SMALLb,CAPITAL LETTER P WITH HOOK,SMALLd,LETTER YR",
       "CAPITAL LETTER TONE TWO,SMALLc,CAPITAL LETTER ESH,LETTER REVERSED ESH LOOP",
       "SMALL LETTER T WITH PALATAL HOOK,CAPITAL LETTER T WITHa,SMALLd",
       "CAPITAL LETTER T WITH RETROFLEXa,bU WITH HORN,SMALLd"]⟩,
    ⟨0x1B1, "LATIN ",
      ["CAPITAL LETTER UPSILON,bV WITH HOOK,bYb,SMALLd,CAPITAL LETTER Z WITH STROKE,SMALLd",
       "CAPITAL LETTER EZH,cREVERSED,SMALLc,cWITH TAIL,LETTER TWO WITH STROKE",
       "CAPITAL LETTER TONE FIVE,SMALLc,LETTER INVERTED GLOTTAL STOP WITH STROKE,aWYNN",
       "aDENTAL CLICK,aLATERALa,aALVEOLARa,aRETROFLEXa,CAPITAL LETTER DZ WITH CARON",
       "bD WITH SMALL LETTER Zb,SMALL LETTER DZb,CAPITAL LETTER LJ,bL WITH SMALL LETTER J",
       "SMALL LETTER LJ,CAPITAL LETTER NJ,bN WITH SMALL LETTER J,SMALL LETTER NJ",
       "CAPITAL LETTER A WITH CARON,SMALLd,CAPITAL LETTER Ib,SMALLd,CAPITAL LETTER Ob,SMALLd",
       "CAPITAL LETTER Ub,SMALLd,CAPITAL LETTER U WITH DIAERESIS AND MACRON,SMALLf",
       "CAPITAL LETTER U WITH DIAERESIS AND ACUTE,SMALLf",
       "CAPITAL LETTER U WITH DIAERESIS AND CARON,SMALLf",
       "CAPITAL LETTER U WITH DIAERESIS AND GRAVE,SMALLf,bTURNED E",
       "CAPITAL LETTER A WITH DIAERESIS AND MACRON,SMALLf,CAPITAL LETTER A WITH DOT ABOVEb",
       "SMALLg,CAPITAL LETTER AE WITHa,SMALLd,CAPITAL LETTER G WITH STROKE,SMALLd",
       "CAPITAL LETTER G WITH CARON,SMALLd,CAPITAL LETTER Kb,SMALLd",
       "CAPITAL LETTER O WITH OGONEK,SMALLd,CAPITAL LETTER O WITH OGONEK AND MACRON,SMALLf",
       "CAPITAL LETTER EZH WITH CARON,SMALLd,bJb,CAPITAL LETTER DZ,bD WITH SMALL LETTER Z",
       "SMALL LETTER DZ,CAPITAL LETTER G WITH ACUTE,SMALLd,CAPITAL LETTER HWAIR,bWYNN",
       "bN WITH GRAVE,SMALLd,CAPITAL LETTER A WITH RING ABOVE AND ACUTE,SMALLg",
       "CAPITAL LETTER AE WITHa,SMALLd,CAPITAL LETTER O WITH STROKE ANDa,SMALLf",
       "CAPITAL LETTER A WITH DOUBLE GRAVE,SMALLe,CAPITAL LETTER A WITH INVERTED BREVE,SMALLe",
       "CAPITAL LETTER E WITH DOUBLE GRAVE,SMALLe,CAPITAL LETTER E WITH INVERTED BREVE,SMALLe",
       "CAPITAL LETTER I WITH DOUBLE GRAVE,SMALLe,CAPITAL LETTER I WITH INVERTED BREVE,SMALLe",
       "CAPITAL LETTER O WITH DOUBLE GRAVE,SMALLe,CAPITAL LETTER O WITH INVERTED BREVE,SMALLe",
       "CAPITAL LETTER R WITH DOUBLE GRAVE,SMALLe,CAPITAL LETTER R WITH INVERTED BREVE,SMALLe",
       "CAPITAL LETTER U WITH DOUBLE GRAVE,SMALLe,CAPITAL LETTER U WITH INVERTED BREVE,SMALLe",
       "CAPITAL LETTER S WITH COMMA BELOW,SMALLe,CAPITAL LETTER Tc,SMALLe,CAPITAL LETTER YOGH",
       "SMALLb,CAPITAL LETTER H WITH CARON,SMALLd,CAPITAL LETTER N WITH LONG RIGHT LEG",
       "SMALL LETTER D WITH CURL,CAPITAL LETTER OU,SMALLb,CAPITAL LETTER Z WITH HOOK,SMALLd",
       "CAPITAL LETTER A WITH DOT ABOVE,SMALLe,CAPITAL LETTER E WITH CEDILLA,SMALLd",
       "CAPITAL LETTER O WITH DIAERESIS AND MACRON,SMALLf,CAPITAL LETTER O WITH TILDEb,SMALLf",
       "CAPITAL LETTER O WITH DOT ABOVE,SMALLe,CAPITAL LETTER O WITH DOT ABOVE AND MACRON",
       "SMALLg,CAPITAL LETTER Y WITHa,SMALLd,bL WITH CURL,bNb,bTb,bDOTLESS J,bDB DIGRAPH,bQPa",
       "CAPITAL LETTER A WITH STROKE,bCb,SMALLd,CAPITAL LETTER L WITH BAR",
       "bT WITH DIAGONAL STROKE,SMALL LETTER S WITH SWASH TAIL,bZc,CAPITAL LETTER GLOTTAL STOP",
       "SMALLc,CAPITAL LETTER B WITH STROKE,bU BAR,bTURNED V,bE WITH STROKE,SMALLd",
       "CAPITAL LETTER Jb,SMALLd,CAPITAL LETTER SMALL Q WITH HOOK TAIL,SMALL LETTERd",
       "CAPITAL LETTER R WITH STROKE,SMALLd,CAPITAL LETTER Yb,SMALLd,bTURNED A,bALPHA,bTURNEDa",
       "bB WITH HOOK,bOPEN O,bC WITH CURL,bD WITH TAIL,dHOOK,bREVERSED E,bSCHWA,cWITH HOOK",
       "bOPEN E,bREVERSEDb,eWITH HOOK,bCLOSED REVERSED OPEN E,bDOTLESS J WITH STROKE",
       "bG WITH HOOK,bSCRIPT G,LETTER SMALL CAPITALa,SMALL LETTER GAMMA,bRAMS HORN,bTURNED H",
       "bH WITH HOOK,bHENGb,bI WITH STROKE,bIOTA,LETTER SMALL CAPITAL I",
       "SMALL LETTER L WITH MIDDLE TILDE,dBELT,dRETROFLEX HOOK,bLEZH,bTURNED M,dWITH LONG LEG",
       "bM WITH HOOK,bN WITH LEFTa,dRETROFLEXa,LETTER SMALL CAPITAL N,SMALL LETTER BARRED O",
       "LETTER SMALL CAPITAL OE,SMALL LETTER CLOSED OMEGA,bPHI,bTURNED R,dWITH LONG LEG,eHOOK",
       "bR WITH LONG LEG,dTAIL,dFISHHOOK,bREVERSEDc,LETTER SMALL CAPITAL R,cINVERTEDa",
       "SMALL LETTER S WITH HOOK,bESH,bDOTLESS J WITH STROKE AND HOOK,bSQUAT REVERSED ESH",
       "bESH WITH CURL,bTURNED T,bT WITH RETROFLEX HOOK,bU BAR,bUPSILON,bV WITH HOOK,bTURNED V",
       "cW,cY,LETTER SMALL CAPITALa,SMALL LETTER Z WITH RETROFLEX HOOK,dCURL,bEZH,cWITH CURL",
       "LETTER GLOTTAL STOP,aPHARYNGEAL VOICED FRICATIVE,aINVERTED GLOTTAL STOP,aSTRETCHED C",
       "aBILABIAL CLICK,aSMALL CAPITAL B,SMALL LETTER CLOSED OPEN E",
       "LETTER SMALL CAPITAL G WITH HOOK,cH,SMALL LETTER J WITH CROSSED-TAIL,bTURNED K",
       "LETTER SMALL CAPITAL L,SMALL LETTER Q WITH HOOK,LETTER GLOTTAL STOP WITH STROKE",
       "aREVERSEDd,SMALL LETTER DZ DIGRAPH,bDEZHa,bDZ DIGRAPH WITH CURL,bTS DIGRAPH,bTESHa",
       "bTC DIGRAPH WITH CURL,bFENG DIGRAPH,bLSa,bLZa,LETTER BILABIAL PERCUSSIVE,aBIDENTALa",
       "SMALL LETTER TURNED H WITH FISHHOOK,fAND TAIL"]⟩,
    ⟨0x2B0, "MODIFIER LETTER ",
      ["SMALL H,bWITH HOOK,aJ,aR,aTURNEDa,cWITH HOOK,aCAPITAL INVERTED R,aW,aY,PRIME,DOUBLEa",
       "TURNED COMMA,APOSTROPHE,REVERSED COMMA,RIGHT HALF RING,LEFTb,GLOTTAL STOP,REVERSEDb",
       "LEFT ARROWHEAD,RIGHTa,UPa,DOWNa,CIRCUMFLEX ACCENT"]⟩,
    ⟨0x2C7, "",
      ["CARON"]⟩,
    ⟨0x2C8, "MODIFIER LETTER ",
      ["VERTICAL LINE,MACRON,ACUTE ACCENT,GRAVEa,LOW VERTICAL LINE,aMACRON,aGRAVE ACCENT",
       "aACUTEa,TRIANGULAR COLON,HALFb,CENTRED RIGHT HALF RING,aLEFTb,UP TACK,DOWNa,PLUS SIGN",
       "MINUSa"]⟩,
    ⟨0x2D8, "",
      ["BREVE,DOT ABOVE,RINGa,OGONEK,SMALL TILDE,DOUBLE ACUTE ACCENT"]⟩,
    ⟨0x2DE, "MODIFIER LETTER ",
      ["RHOTIC HOOK,CROSS ACCENT,SMALL GAMMA,aL,aS,aX,aREVERSED GLOTTAL STOP",
       "EXTRA-HIGH TONE BAR,HIGHb,MIDb,LOWb,EXTRA-LOWb,YIN DEPARTING TONE MARK,YANGc,VOICING",
       "UNASPIRATED,DOUBLE APOSTROPHE,LOW DOWN ARROWHEAD,aUPa,aLEFTa,aRIGHTa,aRING",
       "MIDDLE GRAVE ACCENT,aDOUBLEb,bACUTEa,LOW TILDE,RAISED COLON,BEGIN HIGH TONE,ENDb",
       "BEGIN LOWa,ENDb,SHELF,OPENa,LOW LEFT ARROW"]⟩,
    ⟨0x300, "COMBINING ",
      ["GRAVE ACCENT,ACUTEa,CIRCUMFLEXa,TILDE,MACRON,OVERLINE,BREVE,DOT ABOVE,DIAERESIS",
       "HOOK ABOVE,RINGa,DOUBLE ACUTE ACCENT,CARON,VERTICAL LINE ABOVE,DOUBLEc,aGRAVE ACCENT",
       "CANDRABINDU,INVERTED BREVE,TURNED COMMA ABOVE,COMMA ABOVE,REVERSEDb,COMMA ABOVE RIGHT",
       "GRAVE ACCENT BELOW,ACUTEb,LEFT TACKa,RIGHTb,LEFT ANGLE ABOVE,HORN,LEFT HALF RING BELOW",
       "UP TACKa,DOWNb,PLUS SIGNa,MINUSb,PALATALIZED HOOKa,RETROFLEXb,DOTa,DIAERESISa,RINGa",
       "COMMAa,CEDILLA,OGONEK,VERTICAL LINE BELOW,BRIDGEa,INVERTED DOUBLE ARCHa,CARONa",
       "CIRCUMFLEX ACCENTa,BREVEa,INVERTEDb,TILDEa,MACRONa,LOW LINE,DOUBLEb,TILDE OVERLAY",
       "SHORT STROKEa,LONGb,SHORT SOLIDUSa,LONGb,RIGHT HALF RING BELOW,INVERTED BRIDGEa,SQUAREa",
       "SEAGULLa,X ABOVE,VERTICAL TILDE,DOUBLE OVERLINE,GRAVE TONE MARK,ACUTEb",
       "GREEK PERISPOMENI,aKORONIS,aDIALYTIKA TONOS,aYPOGEGRAMMENI,BRIDGE ABOVE",
       "EQUALS SIGN BELOW,DOUBLE VERTICAL LINEa,LEFT ANGLEa,NOT TILDE ABOVE,HOMOTHETICa",
       "ALMOST EQUAL TOa,LEFT RIGHT ARROW BELOW,UPWARDSb,GRAPHEME JOINER,RIGHT ARROWHEAD ABOVE",
       "LEFT HALF RINGa,FERMATA,X BELOW,LEFT ARROWHEADa,RIGHTb,bAND UP ARROWHEADa",
       "aHALF RING ABOVE,DOT ABOVE RIGHT,ASTERISK BELOW,DOUBLE RINGa,ZIGZAG ABOVE",
       "DOUBLE BREVE BELOW,b,aMACRON,bBELOW,aTILDE,aINVERTED BREVE,aRIGHTWARDS ARROW BELOW",
       "LATIN SMALL LETTER A,cE,cI,cO,cU,cC,cD,cH,cM,cR,cT,cV,cX"]⟩,
    ⟨0x370, "GREEK ",
      ["CAPITAL LETTER HETA,SMALLb,CAPITAL LETTER ARCHAIC SAMPI,SMALLc,NUMERAL SIGN,LOWERb",
       "CAPITAL LETTER PAMPHYLIAN DIGAMMA,SMALLc,,,YPOGEGRAMMENI",
       "SMALL REVERSED LUNATE SIGMA SYMBOL,aDOTTEDc,aREVERSEDd,QUESTION MARK,CAPITAL LETTER YOT",
       ",,,,TONOS,DIALYTIKAa,CAPITAL LETTER ALPHA WITHa,ANO TELEIA",
       "CAPITAL LETTER EPSILON WITH TONOS,bETAb,bIOTAb,,bOMICRONb,,bUPSILONb,bOMEGAb",
       "SMALL LETTER IOTA WITH DIALYTIKA ANDa,CAPITAL LETTER ALPHA,bBETA,bGAMMA,bDELTA,bEPSILON",
       "bZETA,bETA,bTHETA,bIOTA,bKAPPA,bLAMDA,bMU,bNU,bXI,bOMICRON,bPI,bRHO,,bSIGMA,bTAU",
       "bUPSILON,bPHI,bCHI,bPSI,bOMEGA,bIOTA WITH DIALYTIKA,bUPSILONb",
       "SMALL LETTER ALPHA WITH TONOS,bEPSILONb,bETAb,bIOTAb,bUPSILON WITH DIALYTIKA ANDa",
       "bALPHA,bBETA,bGAMMA,bDELTA,bEPSILON,bZETA,bETA,bTHETA,bIOTA,bKAPPA,bLAMDA,bMU,bNU,bXI",
       "bOMICRON,bPI,bRHO,bFINAL SIGMA,ba,bTAU,bUPSILON,bPHI,bCHI,bPSI,bOMEGA",
       "bIOTA WITH DIALYTIKA,bUPSILONb,bOMICRON WITH TONOS,bUPSILONb,bOMEGAb,CAPITAL KAI SYMBOL",
       "BETAa,THETAa,UPSILON WITH HOOKa,bACUTE ANDb,bDIAERESISc,PHIa,PIa,KAIa",
       "LETTER ARCHAIC KOPPA,SMALLc,LETTER STIGMA,SMALLb,LETTER DIGAMMA,SMALLb,LETTER KOPPA",
       "SMALLb,LETTER SAMPI,SMALLb"]⟩,
    ⟨0x3E2, "COPTIC ",
      ["CAPITAL LETTER SHEI,SMALLb,CAPITAL LETTER FEI,SMALLb,CAPITAL LETTER KHEI,SMALLb",
       "CAPITAL LETTER HORI,SMALLb,CAPITAL LETTER GANGIA,SMALLb,CAPITAL LETTER SHIMA,SMALLb",
       "CAPITAL LETTER DEI,SMALLb"]⟩,
    ⟨0x3F0, "GREEK ",
      ["KAPPA SYMBOL,RHOa,LUNATE SIGMAa,LETTER YOT,CAPITAL THETA SYMBOL,LUNATE EPSILONa",
       "REVERSEDc,CAPITAL LETTER SHO,SMALLb,CAPITAL LUNATE SIGMA SYMBOL,aLETTER SAN,SMALLb",
       "RHO WITH STROKE SYMBOL,CAPITAL REVERSED LUNATE SIGMAa,aDOTTEDc,aREVERSEDd"]⟩,
    ⟨0x400, "CYRILLIC CAPITAL LETTER ",
      ["IE WITH GRAVE,IO,DJE,GJE,UKRAINIAN IE,DZE,BYELORUSSIAN-UKRAINIAN I,YI,JE,LJE,NJE,TSHE",
       "KJE,I WITH GRAVE,SHORT U,DZHE,A,BE,VE,GHE,DE,IE,ZHE,ZE,I,SHORTa,KA,EL,EM,EN,O,PE,ER,ES",
       "TE,U,EF,HA,TSE,CHE,SHA,SHCHA,HARD SIGN,YERU,SOFT SIGN,E,YU,YA"]⟩,
    ⟨0x430, "CYRILLIC SMALL LETTER ",
      ["A,BE,VE,GHE,DE,IE,ZHE,ZE,I,SHORTa,KA,EL,EM,EN,O,PE,ER,ES,TE,U,EF,HA,TSE,CHE,SHA,SHCHA",
       "HARD SIGN,YERU,SOFT SIGN,E,YU,YA,IE WITH GRAVE,IO,DJE,GJE,UKRAINIAN IE,DZE",
       "BYELORUSSIAN-UKRAINIAN I,YI,JE,LJE,NJE,TSHE,KJE,I WITH GRAVE,SHORT U,DZHE"]⟩,
    ⟨0x460, "CYRILLIC ",
      ["CAPITAL LETTER OMEGA,SMALLb,CAPITAL LETTER YAT,SMALLb,CAPITAL LETTER IOTIFIED E,SMALLc",
       "CAPITAL LETTER LITTLE YUS,SMALLc,CAPITAL LETTER IOTIFIEDb,SMALLd,CAPITAL LETTER BIGa",
       "SMALLc,CAPITAL LETTER IOTIFIEDb,SMALLd,CAPITAL LETTER KSI,SMALLb,CAPITAL LETTER PSI",
       "SMALLb,CAPITAL LETTER FITA,SMALLb,CAPITAL LETTER IZHITSA,SMALLb",
       "CAPITAL LETTER IZHITSA WITH DOUBLE GRAVE ACCENT,SMALLf,CAPITAL LETTER UK,SMALLb",
       "CAPITAL LETTER ROUND OMEGA,SMALLc,CAPITAL LETTER OMEGA WITH TITLO,SMALLd",
       "CAPITAL LETTER OT,SMALLb,CAPITAL LETTER KOPPA,SMALLb,THOUSANDS SIGN"]⟩,
    ⟨0x483, "COMBINING CYRILLIC ",
      ["TITLO,PALATALIZATION,DASIA PNEUMATA,PSILIa,POKRYTIE,HUNDRED THOUSANDS SIGN,MILLIONSa"]⟩,
    ⟨0x48A, "CYRILLIC ",
      ["CAPITAL LETTER SHORT I WITH TAIL,SMALLe,CAPITAL LETTER SEMISOFT SIGN,SMALLc",
       "CAPITAL LETTER ER WITH TICK,SMALLd,CAPITAL LETTER GHE WITH UPTURN,SMALLd",
       "CAPITAL LETTER GHE WITH STROKE,SMALLd,CAPITAL LETTER GHE WITH MIDDLE HOOK,SMALLe",
       "CAPITAL LETTER ZHE WITH DESCENDER,SMALLd,CAPITAL LETTER ZEb,SMALLd,CAPITAL LETTER KAb",
       "SMALLd,CAPITAL LETTER KA WITH VERTICAL STROKE,SMALLe,CAPITAL LETTER KA WITHa,SMALLd",
       "CAPITAL LETTER BASHKIR KA,SMALLc,CAPITAL LETTER EN WITH DESCENDER,SMALLd",
       "CAPITAL LIGATURE EN GHE,SMALLc,CAPITAL LETTER PE WITH MIDDLE HOOK,SMALLe",
       "CAPITAL LETTER ABKHASIAN HA,SMALLc,CAPITAL LETTER ES WITH DESCENDER,SMALLd",
       "CAPITAL LETTER TEb,SMALLd,CAPITAL LETTER STRAIGHT U,SMALLc",
       "CAPITAL LETTER STRAIGHT U WITH STROKE,SMALLe,CAPITAL LETTER HA WITH DESCENDER,SMALLd",
       "CAPITAL LIGATURE TE TSE,SMALLc,CAPITAL LETTER CHE WITH DESCENDER,SMALLd",
       "CAPITAL LETTER CHE WITH VERTICAL STROKE,SMALLe,CAPITAL LETTER SHHA,SMALLb",
       "CAPITAL LETTER ABKHASIAN CHE,SMALLc,CAPITAL LETTER ABKHASIAN CHE WITH DESCENDER,SMALLe",
       "LETTER PALOCHKA,CAPITAL LETTER ZHE WITH BREVE,SMALLd,CAPITAL LETTER KA WITH HOOK,SMALLd",
       "CAPITAL LETTER EL WITH TAIL,SMALLd,CAPITAL LETTER EN WITH HOOK,SMALLd",
       "CAPITAL LETTER EN WITH TAIL,SMALLd,CAPITAL LETTER KHAKASSIAN CHE,SMALLc",
       "CAPITAL LETTER EM WITH TAIL,SMALLd,bPALOCHKA,CAPITAL LETTER A WITH BREVE,SMALLd",
       "CAPITAL LETTER A WITH DIAERESIS,SMALLd,CAPITAL LIGATURE A IE,SMALLc",
       "CAPITAL LETTER IE WITH BREVE,SMALLd,CAPITAL LETTER SCHWA,SMALLb",
       "CAPITAL LETTER SCHWA WITH DIAERESIS,SMALLd,CAPITAL LETTER ZHEb,SMALLd",
       "CAPITAL LETTER ZEb,SMALLd,CAPITAL LETTER ABKHASIAN DZE,SMALLc",
       "CAPITAL LETTER I WITH MACRON,SMALLd,CAPITAL LETTER I WITH DIAERESIS,SMALLd",
       "CAPITAL LETTER Ob,SMALLd,CAPITAL LETTER BARRED O,SMALLc",
       "CAPITAL LETTER BARRED O WITH DIAERESIS,SMALLe,CAPITAL LETTER Eb,SMALLd",
       "CAPITAL LETTER U WITH MACRON,SMALLd,CAPITAL LETTER U WITH DIAERESIS,SMALLd",
       "CAPITAL LETTER U WITH DOUBLE ACUTE,SMALLe,CAPITAL LETTER CHE WITH DIAERESIS,SMALLd",
       "CAPITAL LETTER GHE WITH DESCENDER,SMALLd,CAPITAL LETTER YERU WITH DIAERESIS,SMALLd",
       "CAPITAL LETTER GHE WITH STROKE AND HOOK,SMALLf,CAPITAL LETTER HA WITHa,SMALLd",
       "CAPITAL LETTER HA WITH STROKE,SMALLd,CAPITAL LETTER KOMI DE,SMALLc",
       "CAPITAL LETTER KOMI DJE,SMALLc,CAPITAL LETTER KOMI ZJE,SMALLc,CAPITAL LETTER KOMI DZJE",
       "SMALLc,CAPITAL LETTER KOMI LJE,SMALLc,CAPITAL LETTER KOMI NJE,SMALLc",
       "CAPITAL LETTER KOMI SJE,SMALLc,CAPITAL LETTER KOMI TJE,SMALLc",
       "CAPITAL LETTER REVERSED ZE,SMALLc,CAPITAL LETTER EL WITH HOOK,SMALLd,CAPITAL LETTER LHA",
       "SMALLb,CAPITAL LETTER RHA,SMALLb,CAPITAL LETTER YAE,SMALLb,CAPITAL LETTER QA,SMALLb",
       "CAPITAL LETTER WE,SMALLb,CAPITAL LETTER ALEUT KA,SMALLc",
       "CAPITAL LETTER EL WITH MIDDLE HOOK,SMALLe,CAPITAL LETTER ENc,SMALLe",
       "CAPITAL LETTER PE WITH DESCENDER,SMALLd,CAPITAL LETTER SHHAb,SMALLd",
       "CAPITAL LETTER EN WITH LEFT HOOK,SMALLe,CAPITAL LETTER DZZHE,SMALLb,CAPITAL LETTER DCHE",
       "SMALLb,CAPITAL LETTER EL WITH DESCENDER,SMALLd"]⟩,
    ⟨0x531, "ARMENIAN CAPITAL LETTER ",
      ["AYB,BEN,GIM,DA,ECH,ZA,EH,ET,TO,ZHE,INI,LIWN,XEH,CA,KEN,HO,JA,GHAD,CHEH,MEN,YI,NOW,SHA",
       "VO,CHA,PEH,JHEH,RA,SEH,VEW,TIWN,REH,CO,YIWN,PIWR,KEH,OH,FEH"]⟩,
    ⟨0x559, "ARMENIAN ",
      ["MODIFIER LETTER LEFT HALF RING,APOSTROPHE,EMPHASIS MARK,EXCLAMATIONa,COMMA",
       "QUESTION MARK,ABBREVIATIONa,SMALL LETTER TURNED AYB,ba,bBEN,bGIM,bDA,bECH,bZA,bEH,bET",
       "bTO,bZHE,bINI,bLIWN,bXEH,bCA,bKEN,bHO,bJA,bGHAD,bCHEH,bMEN,bYI,bNOW,bSHA,bVO,bCHA,bPEH",
       "bJHEH,bRA,bSEH,bVEW,bTIWN,bREH,bCO,bYIWN,bPIWR,bKEH,bOH,bFEH,aLIGATURE ECH YIWN",
       "aLETTER YI WITH STROKE,FULL STOP,HYPHEN"]⟩,
    ⟨0x58D, "",
      ["RIGHT-FACING ARMENIAN ETERNITY SIGN,LEFT-FACINGc,ARMENIAN DRAMa"]⟩,
    ⟨0x591, "HEBREW ",
      ["ACCENT ETNAHTA,aSEGOL,aSHALSHELET,aZAQEF QATAN,bGADOL,aTIPEHA,aREVIA,aZARQA,aPASHTA",
       "aYETIV,aTEVIR,aGERESH,bMUQDAM,aGERSHAYIM,aQARNEY PARA,aTELISHA GEDOLA,aPAZER",
       "aATNAH HAFUKH,aMUNAH,aMAHAPAKH,aMERKHA,bKEFULA,aDARGA,aQADMA,aTELISHA QETANA",
       "aYERAH BEN YOMO,aOLE,aILUY,aDEHI,aZINOR,MARK MASORA CIRCLE,POINT SHEVA,aHATAF SEGOL",
       "bPATAH,bQAMATS,aHIRIQ,aTSERE,aSEGOL,aPATAH,aQAMATS,aHOLAM,bHASER FOR VAV,aQUBUTS",
       "aDAGESH OR MAPIQ,aMETEG,PUNCTUATION MAQAF,POINT RAFE,PUNCTUATION PASEQ,POINT SHIN DOT",
       "aSINa,PUNCTUATION SOF PASUQ,MARK UPPER DOT,aLOWERa,PUNCTUATION NUN HAFUKHA",
       "POINT QAMATS QATAN,,,,,,,,,LETTER ALEF,aBET,aGIMEL,aDALET,aHE,aVAV,aZAYIN,aHET,aTET",
       "aYOD,aFINAL KAF,aa,aLAMED,aFINAL MEM,aa,aFINAL NUN,aa,aSAMEKH,aAYIN,aFINAL PE,aa",
       "aFINAL TSADI,aa,aQOF,aRESH,aSHIN,aTAV,,,,,YOD TRIANGLE,LIGATURE YIDDISH DOUBLE VAV",
       "bVAV YOD,bDOUBLEa,PUNCTUATION GERESH,aGERSHAYIM"]⟩,
    ⟨0x600, "ARABIC ",
      ["NUMBER SIGN,SIGN SANAH,FOOTNOTE MARKER,SIGN SAFHA,aSAMVAT,NUMBER MARK ABOVE"]⟩,
    ⟨0x606, "",
      ["ARABIC-INDIC CUBE ROOT,aFOURTHa,ARABIC RAY,ARABIC-INDIC PER MILLE SIGN,bTEN THOUSANDa",
       "AFGHANIa"]⟩,
    ⟨0x60C, "ARABIC ",
      ["COMMA,DATE SEPARATOR,POETIC VERSE SIGN,SIGN MISRA,aSALLALLAHOU ALAYHE WASSALLAM",
       "aALAYHE ASSALLAM,aRAHMATULLAH ALAYHE,aRADI ALLAHOU ANHU,aTAKHALLUS,SMALL HIGH TAH",
       "bLIGATURE ALEF WITH LAM WITH YEH,bZAIN,aFATHA,aDAMMA,aKASRA,SEMICOLON,LETTER MARK",
       "END OF TEXTa,TRIPLE DOT PUNCTUATIONa,QUESTIONa,LETTER KASHMIRI YEH,aHAMZA",
       "aALEF WITH MADDA ABOVE,cHAMZAa,aWAWc,aALEF WITH HAMZA BELOW,aYEH WITH HAMZA ABOVE,aALEF",
       "aBEH,aTEH MARBUTA,b,aTHEH,aJEEM,aHAH,aKHAH,aDAL,aTHAL,aREH,aZAIN,aSEEN,aSHEEN,aSAD,aDAD",
       "aTAH,aZAH,aAIN,aGHAIN,aKEHEH WITH TWO DOTS ABOVE,cTHREE DOTS BELOW",
       "aFARSI YEH WITH INVERTED V,dTWO DOTS ABOVE,dTHREEb,TATWEEL,LETTER FEH,aQAF,aKAF,aLAM",
       "aMEEM,aNOON,aHEH,aWAW,aALEF MAKSURA,aYEH,FATHATAN,DAMMATAN,KASRATAN,FATHA,DAMMA,KASRA",
       "SHADDA,SUKUN,MADDAH ABOVE,HAMZAa,aBELOW,SUBSCRIPT ALEF,INVERTED DAMMA,MARK NOON GHUNNA",
       "ZWARAKAY,VOWEL SIGN SMALL V ABOVE,bINVERTEDc,bDOT BELOW,REVERSED DAMMA",
       "FATHA WITH TWO DOTS,WAVY HAMZA BELOW"]⟩,
    ⟨0x660, "ARABIC-INDIC DIGIT ",
      ["ZERO,ONE,TWO,THREE,FOUR,FIVE,SIX,SEVEN,EIGHT,NINE"]⟩,
    ⟨0x66A, "ARABIC ",
      ["PERCENT SIGN,DECIMAL SEPARATOR,THOUSANDSa,FIVE POINTED STAR"]⟩,
    ⟨0x66E, "ARABIC LETTER ",
      ["DOTLESS BEH,aQAF,SUPERSCRIPT ALEF,ALEF WASLA,aWITH WAVY HAMZA ABOVE,dBELOW,HIGH HAMZA",
       "bALEF,bWAW,U WITH HAMZA ABOVE,HIGH HAMZA YEH,TTEH,TTEHEH,BEEH,TEH WITH RING",
       "bTHREE DOTS ABOVE DOWNWARDS,PEH,TEHEH,BEHEH,HAH WITH HAMZA ABOVE,bTWO DOTS VERTICALa",
       "NYEH,DYEH,HAH WITH THREE DOTS ABOVE,TCHEH,TCHEHEH,DDAL,DAL WITH RING,bDOT BELOW",
       "dAND SMALL TAH,DAHAL,DDAHAL,DUL,DAL WITH THREE DOTS ABOVE DOWNWARDS,bFOUR DOTS ABOVE",
       "RREH,REH WITH SMALL V,bRING,bDOT BELOW,bSMALL Va,bDOT BELOW AND DOT ABOVE,bTWO DOTSa",
       "JEH,REH WITH FOUR DOTS ABOVE,SEEN WITH DOT BELOW AND DOTa,bTHREE DOTS BELOW",
       "eAND THREE DOTS ABOVE,SAD WITH TWO DOTS BELOW,bTHREE DOTS ABOVE,TAHd,AINd,DOTLESS FEH",
       "FEH WITH DOT MOVED BELOW,ca,VEH,FEH WITH THREE DOTS BELOW,PEHEH,QAF WITH DOT ABOVE",
       "bTHREE DOTSa,KEHEH,SWASH KAF,KAF WITH RING,bDOT ABOVE,NG,KAF WITH THREE DOTS BELOW,GAF",
       "aWITH RING,NGOEH,GAF WITH TWO DOTS BELOW,GUEH,GAF WITH THREE DOTS ABOVE",
       "LAM WITH SMALL V,bDOT ABOVE,bTHREE DOTSa,dBELOW,NOON WITH DOTa,aGHUNNA,RNOON",
       "NOON WITH RING,bTHREE DOTS ABOVE,HEH DOACHASHMEE,TCHEH WITH DOT ABOVE,HEH WITH YEHa",
       "aGOAL,bWITH HAMZA ABOVE,TEH MARBUTA GOAL,WAW WITH RING,KIRGHIZ OE,OE,U,YU,KIRGHIZa",
       "WAW WITH TWO DOTS ABOVE,VE,FARSI YEH,YEH WITH TAIL,bSMALL V,WAW WITH DOT ABOVE,E",
       "YEH WITH THREE DOTS BELOW,aBARREE,bWITH HAMZA ABOVE"]⟩,
    ⟨0x6D4, "ARABIC ",
      ["FULL STOP,LETTER AE,SMALL HIGH LIGATURE SAD WITH LAM WITH ALEF MAKSURA,cQAFe",
       "bMEEM INITIAL FORM,bLAM ALEF,bJEEM,bTHREE DOTS,bSEEN,END OF AYAH,START OF RUB EL HIZB",
       "SMALL HIGH ROUNDED ZERO,bUPRIGHT RECTANGULARa,bDOTLESS HEAD OF KHAH,bMEEM ISOLATED FORM",
       "aLOW SEEN,aHIGH MADDA,aWAW,aYEH,aHIGHa,bNOON,PLACE OF SAJDAH,EMPTY CENTRE LOW STOP",
       "bHIGHa,ROUNDED HIGH STOP WITH FILLED CENTRE,SMALL LOW MEEM,LETTER DAL WITH INVERTED V",
       "aREHc"]⟩,
    ⟨0x6F0, "EXTENDED ARABIC-INDIC DIGIT ",
      ["ZERO,ONE,TWO,THREE,FOUR,FIVE,SIX,SEVEN,EIGHT,NINE"]⟩,
    ⟨0x6FA, "ARABIC ",
      ["LETTER SHEEN WITH DOT BELOW,aDADc,aGHAINc,SIGN SINDHI AMPERSAND,bPOSTPOSITION MEN",
       "LETTER HEH WITH INVERTED V"]⟩,
    ⟨0x700, "SYRIAC ",
      ["END OF PARAGRAPH,SUPRALINEAR FULL STOP,SUBLINEARb,SUPRALINEAR COLON,SUBLINEARa",
       "HORIZONTALa,COLON SKEWED LEFT,bRIGHT,SUPRALINEAR COLON SKEWED LEFT",
       "SUBLINEAR COLON SKEWED RIGHT,CONTRACTION,HARKLEAN OBELUS,aMETOBELUS,aASTERISCUS,",
       "ABBREVIATION MARK,LETTER ALAPH,aSUPERSCRIPTa,aBETH,aGAMAL,bGARSHUNI,aDALATH",
       "aDOTLESS DALATH RISH,aHE,aWAW,aZAIN,aHETH,aTETH,bGARSHUNI,aYUDH,bHE,aKAPH,aLAMADH,aMIM",
       "aNUN,aSEMKATH,aFINALa,aE,aPE,aREVERSEDa,aSADHE,aQAPH,aRISH,aSHIN,aTAW,aPERSIAN BHETH",
       "bGHAMAL,bDHALATH,PTHAHA ABOVE,aBELOW,aDOTTED,ZQAPHA ABOVE,aBELOW,aDOTTED,RBASA ABOVE",
       "aBELOW,DOTTED ZLAMA HORIZONTAL,bANGULAR,HBASA ABOVE,aBELOW,HBASA-ESASA DOTTED",
       "ESASA ABOVE,aBELOW,RWAHA,FEMININE DOT,QUSHSHAYA,RUKKAKHA,TWO VERTICAL DOTS ABOVE,cBELOW",
       "THREE DOTS ABOVE,bBELOW,OBLIQUE LINE ABOVE,bBELOW,MUSIC,BARREKH,,,LETTER SOGDIAN ZHAIN",
       "bKHAPH,bFE"]⟩,
    ⟨0x750, "ARABIC LETTER ",
      ["BEH WITH THREE DOTS HORIZONTALLY BELOW,bDOT BELOW AND THREE DOTS ABOVE",
       "bTHREE DOTS POINTING UPWARDS BELOW,gAND TWO DOTS ABOVE,bTWO DOTS BELOW AND DOTa",
       "bINVERTED SMALL V BELOW,bSMALL V,HAH WITH TWO DOTS ABOVE",
       "bTHREE DOTS POINTING UPWARDS BELOW,DAL WITH TWO DOTS VERTICALLY BELOW AND SMALL TAH",
       "bINVERTED SMALL V BELOW,REH WITH STROKE,SEEN WITH FOUR DOTS ABOVE,AIN WITH TWOb",
       "bTHREE DOTS POINTING DOWNWARDSa,bTWO DOTS VERTICALLYa,FEH WITH TWO DOTS BELOW",
       "bTHREE DOTS POINTING UPWARDSa,KEHEH WITH DOT ABOVE,bTHREE DOTSa,dPOINTING UPWARDS BELOW",
       "MEEM WITH DOT ABOVE,cBELOW,NOON WITH TWO DOTSa,bSMALL TAH,cV,LAM WITH BAR",
       "REH WITH TWO DOTS VERTICALLY ABOVE,bHAMZAa,SEEN WITH TWO DOTS VERTICALLYa",
       "HAH WITH SMALL ARABIC LETTER TAH BELOW,fAND TWO DOTS,SEENh,REHh",
       "HAH WITH SMALL ARABIC LETTER TAH ABOVE,ALEF WITH EXTENDED ARABIC-INDIC DIGIT TWOa",
       "eTHREEa,FARSI YEH WITH EXTENDED ARABIC-INDIC DIGIT TWOa,fTHREEa,fFOUR BELOW",
       "WAW WITH EXTENDED ARABIC-INDIC DIGIT TWO ABOVE,eTHREEa",
       "YEH BARREE WITH EXTENDED ARABIC-INDIC DIGIT TWOa,fTHREEa",
       "HAH WITH EXTENDED ARABIC-INDIC DIGIT FOUR BELOW",
       "SEEN WITH EXTENDED ARABIC-INDIC DIGIT FOUR ABOVE,bINVERTED V,KAF WITH TWO DOTS ABOVE"]⟩,
    ⟨0x780, "THAANA LETTER ",
      ["HAA,SHAVIYANI,NOONU,RAA,BAA,LHAVIYANI,KAAFU,ALIFU,VAAVU,MEEMU,FAAFU,DHAALU,THAA,LAAMU",
       "GAAFU,GNAVIYANI,SEENU,DAVIYANI,ZAVIYANI,TAVIYANI,YAA,PAVIYANI,JAVIYANI,CHAVIYANI,TTAA",
       "HHAA,KHAA,THAALU,ZAA,SHEENU,SAADHU,DAADHU,TO,ZO,AINU,GHAINU,QAAFU,WAAVU"]⟩,
    ⟨0x7A6, "THAANA ",
      ["ABAFILI,AABAAFILI,IBIFILI,EEBEEFILI,UBUFILI,OOBOOFILI,EBEFILI,EYBEYFILI,OBOFILI",
       "OABOAFILI,SUKUN,LETTER NAA"]⟩,
    ⟨0x7C0, "NKO ",
      ["DIGIT ZERO,aONE,aTWO,aTHREE,aFOUR,aFIVE,aSIX,aSEVEN,aEIGHT,aNINE,LETTER A,aEE,aI,aE,aU",
       "aOO,aO,aDAGBASINNA,aN,aBA,aPA,aTA,aJA,aCHA,aDA,aRA,aRRA,aSA,aGBA,aFA,aKA,aLA,aNA WOLOSO",
       "aMA,aNYA,aNA,aHA,aWA,aYA,aNYA WOLOSO,aJONA JA,bCHA,bRA,COMBINING SHORT HIGH TONE,bLOWa",
       "bRISINGa,aLONG DESCENDINGa,bHIGHa,bLOWa,bRISINGa,aNASALIZATION MARK,aDOUBLE DOT ABOVE",
       "HIGH TONE APOSTROPHE,LOWb,SYMBOL OO DENNEN,aGBAKURUNEN,COMMA,EXCLAMATION MARK",
       "LAJANYALAN,,,DANTAYALAN,DOROME SIGN,TAMANa"]⟩,
    ⟨0x800, "SAMARITAN ",
      ["LETTER ALAF,aBIT,aGAMAN,aDALAT,aIY,aBAA,aZEN,aIT,aTIT,aYUT,aKAAF,aLABAT,aMIM,aNUN",
       "aSINGAAT,aIN,aFI,aTSAADIY,aQUF,aRISH,aSHAN,aTAAF,MARK IN,aIN-ALAF,aOCCLUSION,aDAGESH",
       "MODIFIER LETTER EPENTHETIC YUT,MARKb,VOWEL SIGN LONG E,ba,bOVERLONG AA,bLONGa,ba",
       "bOVERLONG A,bLONGa,ba,MODIFIER LETTER SHORTa,VOWEL SIGNb,bLONG U,ba,MODIFIER LETTER I",
       "VOWEL SIGN LONGa,ba,bO,bSUKUN,MARK NEQUDAA,,,PUNCTUATIONa,aAFSAAQ,aANGED,aBAU,aATMAAU",
       "aSHIYYAALAA,ABBREVIATION MARK,PUNCTUATION MELODIC QITSA,aZIQAA,aQITSA,aZAEF,aTURU",
       "aARKAANU,aSOF MASHFAAT,aANNAAU"]⟩,
    ⟨0x840, "MANDAIC ",
      ["LETTER HALQA,aAB,aAG,aAD,aAH,aUSHENNA,aAZ,aIT,aATT,aAKSA,aAK,aAL,aAM,aAN,aAS,aIN,aAP",
       "aASZ,aAQ,aAR,aASH,aAT,aDUSHENNA,aKAD,aAIN,AFFRICATION MARK,VOCALIZATIONa,GEMINATIONa,,",
       "PUNCTUATION"]⟩,
    ⟨0x860, "SYRIAC LETTER MALAYALAM ",
      ["NGA,JA,NYA,TTA,NNA,NNNA,BHA,RA,LLA,LLLA,SSA"]⟩,
    ⟨0x870, "ARABIC ",
      ["LETTER ALEF WITH ATTACHED FATHA,dTOP RIGHTa,cRIGHT MIDDLE STROKE,cLEFTb,cATTACHED KASRA",
       "dBOTTOM RIGHTa,dROUND DOT ABOVE,dRIGHT ROUND DOT,dLEFTb,dROUND DOT BELOW,cDOT ABOVE",
       "cATTACHED TOP RIGHT FATHA ANDb,cRIGHT MIDDLE STROKEc,cATTACHED BOTTOM RIGHT KASRAc",
       "dTOP RIGHT FATHA AND LEFT RING,cRIGHT MIDDLE STROKEc,cATTACHED BOTTOM RIGHT KASRAc",
       "dRIGHT HAMZA,dLEFTa,TATWEEL WITH OVERSTRUCKa,cWAW,bTWO DOTS BELOW,LETTER THIN YEH",
       "BASELINE ROUND DOT,RAISEDb,LETTER NOON WITH INVERTED SMALL V",
       "aHAH WITH INVERTED SMALL V BELOW,aTAH WITH DOTa,cTHREE DOTSa",
       "aKEHEH WITH TWO DOTS VERTICALLYa,VERTICAL TAIL,,POUND MARK ABOVE,PIASTREb,,,,,,",
       "SMALL HIGH WORD AL-JUZ,aLOW WORD ISHMAAM,cIMAALA,cTASHEEL,MADDA WAAJIB",
       "SUPERSCRIPT ALEF MOKHASSAS,DOUBLED MADDA,HALF MADDA OVERa,LETTER BEH WITH SMALL V BELOW",
       "cHAMZA ABOVE,aJEEM WITH TWO DOTSa,aTAHd,aFEH WITH DOT BELOW AND THREEb",
       "aQAF WITH DOT BELOW,aLAM WITH DOUBLE BAR,aMEEM WITH THREE DOTS ABOVE",
       "aYEH WITH TWO DOTS BELOW AND HAMZAa,gDOTa,aREH WITH LOOP,aWAW WITH DOT WITHIN",
       "aROHINGYA YEH,aLOW ALEF,aDAL WITH THREE DOTS BELOW,aSADd,aGAF WITH INVERTED STROKE",
       "aSTRAIGHT WAW,aZAIN WITH INVERTED V ABOVE,aAIN WITH THREE DOTS BELOW,aKAF WITH DOTa",
       "aQAF WITH DOT BELOW AND NO DOTS ABOVE,aBEH WITH SMALL MEEMa,aPEHd,aTEH WITH SMALL TEHa",
       "aREH WITH SMALL NOONa,aYEH WITH TWO DOTS BELOW ANDc,aAFRICAN FEH,bQAF,bNOON",
       "aPEH WITH SMALL V,aTEHc,aTTEHc,aTCHEHc,aKEHEHc,aGHAIN WITH THREE DOTS ABOVE",
       "aAFRICAN QAFd,aJEEMd,eBELOW,aLAM WITH SMALL ARABIC LETTER TAH ABOVE,aGRAF",
       "SMALL FARSI YEH,aHIGHb,bYEH BARREE WITH TWO DOTS BELOW,bWORD SAH,bZAH",
       "LARGE ROUND DOT ABOVE,cBELOW,SUKUNa,LARGE CIRCLEa,aROUND DOT INSIDEb,SMALL LOW WAW",
       "aHIGH WORD AR-RUB,bSAD,bAIN,bQAF,bNOON WITH KASRA,aLOWc,aHIGH WORD ATH-THALATHA",
       "cAS-SAJDA,cAN-NISF,cSAKTA,cQIF,cWAQFA,bFOOTNOTE MARKER,bSIGN SAFHA,DISPUTED END OF AYAH",
       "TURNED DAMMA BELOW,CURLY FATHA,aDAMMA,aKASRA,aFATHATAN,aDAMMATAN,aKASRATAN",
       "TONE ONE DOT ABOVE,aTWO DOTSa,aLOOPa,aONE DOT BELOW,aTWO DOTSa,aLOOPa,OPEN FATHATAN",
       "aDAMMATAN,aKASRATAN,SMALL HIGH WAW,FATHA WITH RING,bDOT ABOVE,KASRA WITH DOT BELOW",
       "LEFT ARROWHEAD ABOVE,RIGHTb,LEFT ARROWHEAD BELOW,RIGHTb,DOUBLE RIGHT ARROWHEAD ABOVE",
       "dWITH DOT,RIGHT ARROWHEAD ABOVE WITH DOT,DAMMAb,MARK SIDEWAYS NOON GHUNNA"]⟩,
    ⟨0x900, "DEVANAGARI ",
      ["SIGN INVERTED CANDRABINDU,aa,aANUSVARA,aVISARGA,LETTER SHORT A,aa,aAA,aI,aII,aU,aUU",
       "aVOCALIC R,bL,aCANDRA E,aSHORTa,aa,aAI,aCANDRA O,aSHORTa,aa,aAU,aKA,aKHA,aGA,aGHA,aNGA",
       "aCA,aCHA,aJA,aJHA,aNYA,aTTA,aTTHA,aDDA,aDDHA,aNNA,aTA,aTHA,aDA,aDHA,aNA,aNNNA,aPA,aPHA",
       "aBA,aBHA,aMA,aYA,aRA,aRRA,aLA,aLLA,aLLLA,aVA,aSHA,aSSA,aSA,aHA,VOWEL SIGN OE,bOOE",
       "SIGN NUKTA,aAVAGRAHA,VOWEL SIGN AA,bI,bII,bU,bUU,bVOCALIC R,cRR,bCANDRA E,bSHORTa,ba",
       "bAI,bCANDRA O,bSHORTa,ba,bAU,SIGN VIRAMA,VOWEL SIGN PRISHTHAMATRA E,bAW,OM",
       "STRESS SIGN UDATTA,bANUDATTA,GRAVE ACCENT,ACUTEa,VOWEL SIGN CANDRA LONG E,bUE,bUUE",
       "LETTER QA,aKHHA,aGHHA,aZA,aDDDHA,aRHA,aFA,aYYA,aVOCALIC RR,bLL,VOWEL SIGN VOCALIC L,cLL",
       "DANDA,DOUBLEa,DIGIT ZERO,aONE,aTWO,aTHREE,aFOUR,aFIVE,aSIX,aSEVEN,aEIGHT,aNINE",
       "ABBREVIATION SIGN,SIGN HIGH SPACING DOT,LETTER CANDRA A,aOE,aOOE,aAW,aUE,aUUE",
       "aMARWARI DDA,aZHA,aHEAVY YA,aGGA,aJJA,aGLOTTAL STOP,aDDDA,aBBA"]⟩,
    ⟨0x980, "BENGALI ",
      ["ANJI,SIGN CANDRABINDU,aANUSVARA,aVISARGA,,LETTER A,aAA,aI,aII,aU,aUU,aVOCALIC R,bL,,,aE",
       "aAI,,,aO,aAU,aKA,aKHA,aGA,aGHA,aNGA,aCA,aCHA,aJA,aJHA,aNYA,aTTA,aTTHA,aDDA,aDDHA,aNNA",
       "aTA,aTHA,aDA,aDHA,aNA,,aPA,aPHA,aBA,aBHA,aMA,aYA,aRA,,aLA,,,,aSHA,aSSA,aSA,aHA,,",
       "SIGN NUKTA,aAVAGRAHA,VOWEL SIGN AA,bI,bII,bU,bUU,bVOCALIC R,cRR,,,bE,bAI,,,bO,bAU",
       "SIGN VIRAMA,LETTER KHANDA TA,,,,,,,,,AU LENGTH MARK,,,,,LETTER RRA,aRHA,,aYYA",
       "aVOCALIC RR,bLL,VOWEL SIGN VOCALIC L,cLL,,,DIGIT ZERO,aONE,aTWO,aTHREE,aFOUR,aFIVE,aSIX",
       "aSEVEN,aEIGHT,aNINE,LETTER RA WITH MIDDLE DIAGONAL,cLOWERa,RUPEE MARK,aSIGN",
       "CURRENCY NUMERATOR ONE,bTWO,bTHREE,bFOUR,bONE LESS THAN THE DENOMINATOR",
       "aDENOMINATOR SIXTEEN,ISSHAR,GANDA MARK,LETTER VEDIC ANUSVARA,ABBREVIATION SIGN",
       "SANDHI MARK"]⟩,
    ⟨0xA01, "GURMUKHI ",
      ["SIGN ADAK BINDI,aa,aVISARGA,,LETTER A,aAA,aI,aII,aU,aUU,,,,,aEE,aAI,,,aOO,aAU,aKA,aKHA",
       "aGA,aGHA,aNGA,aCA,aCHA,aJA,aJHA,aNYA,aTTA,aTTHA,aDDA,aDDHA,aNNA,aTA,aTHA,aDA,aDHA,aNA,",
       "aPA,aPHA,aBA,aBHA,aMA,aYA,aRA,,aLA,aLLA,,aVA,aSHA,,aSA,aHA,,,SIGN NUKTA,,VOWEL SIGN AA",
       "bI,bII,bU,bUU,,,,,bEE,bAI,,,bOO,bAU,SIGN VIRAMA,,,,aUDAAT,,,,,,,,LETTER KHHA,aGHHA,aZA",
       "aRRA,,aFA,,,,,,,,DIGIT ZERO,aONE,aTWO,aTHREE,aFOUR,aFIVE,aSIX,aSEVEN,aEIGHT,aNINE,TIPPI",
       "ADDAK,IRI,URA,EK ONKAR,SIGN YAKASH,ABBREVIATION SIGN"]⟩,
    ⟨0xA81, "GUJARATI ",
      ["SIGN CANDRABINDU,aANUSVARA,aVISARGA,,LETTER A,aAA,aI,aII,aU,aUU,aVOCALIC R,bL",
       "VOWEL CANDRA E,,LETTERa,aAI,VOWEL CANDRA O,,LETTERa,aAU,aKA,aKHA,aGA,aGHA,aNGA,aCA,aCHA",
       "aJA,aJHA,aNYA,aTTA,aTTHA,aDDA,aDDHA,aNNA,aTA,aTHA,aDA,aDHA,aNA,,aPA,aPHA,aBA,aBHA,aMA",
       "aYA,aRA,,aLA,aLLA,,aVA,aSHA,aSSA,aSA,aHA,,,SIGN NUKTA,aAVAGRAHA,VOWEL SIGN AA,bI,bII,bU",
       "bUU,bVOCALIC R,cRR,bCANDRA E,,ba,bAI,bCANDRA O,,ba,bAU,SIGN VIRAMA,,,OM"]⟩,
    ⟨0xAE0, "GUJARATI ",
      ["LETTER VOCALIC RR,bLL,VOWEL SIGN VOCALIC L,cLL,,,DIGIT ZERO,aONE,aTWO,aTHREE,aFOUR",
       "aFIVE,aSIX,aSEVEN,aEIGHT,aNINE,ABBREVIATION SIGN,RUPEEa,,,,,,,,LETTER ZHA,SIGN SUKUN",
       "aSHADDA,aMADDAH,aTHREE-DOT NUKTA ABOVE,aCIRCLEb,aTWO-CIRCLEb"]⟩,
    ⟨0xB01, "ORIYA ",
      ["SIGN CANDRABINDU,aANUSVARA,aVISARGA,,LETTER A,aAA,aI,aII,aU,aUU,aVOCALIC R,bL,,,aE,aAI,",
       ",aO,aAU,aKA,aKHA,aGA,aGHA,aNGA,aCA,aCHA,aJA,aJHA,aNYA,aTTA,aTTHA,aDDA,aDDHA,aNNA,aTA",
       "aTHA,aDA,aDHA,aNA,,aPA,aPHA,aBA,aBHA,aMA,aYA,aRA,,aLA,aLLA,,aVA,aSHA,aSSA,aSA,aHA,,",
       "SIGN NUKTA,aAVAGRAHA,VOWEL SIGN AA,bI,bII,bU,bUU,bVOCALIC R,cRR,,,bE,bAI,,,bO,bAU",
       "SIGN VIRAMA,,,,,,,,aOVERLINE,AI LENGTH MARK,AUb,,,,,LETTER RRA,aRHA,,aYYA,aVOCALIC RR",
       "bLL,VOWEL SIGN VOCALIC L,cLL,,,DIGIT ZERO,aONE,aTWO,aTHREE,aFOUR,aFIVE,aSIX,aSEVEN",
       "aEIGHT,aNINE,ISSHAR,LETTER WA,FRACTION ONE QUARTER,bHALF,aTHREE QUARTERS,aONE SIXTEENTH",
       "bEIGHTH,aTHREE SIXTEENTHS"]⟩,
    ⟨0xB82, "TAMIL ",
      ["SIGN ANUSVARA,aVISARGA,,LETTER A,aAA,aI,aII,aU,aUU,,,,aE,aEE,aAI,,aO,aOO,aAU,aKA,,,",
       "aNGA,aCA,,aJA,,aNYA,aTTA,,,,aNNA,aTA,,,,aNA,aNNNA,aPA,,,,aMA,aYA,aRA,aRRA,aLA,aLLA",
       "aLLLA,aVA,aSHA,aSSA,aSA,aHA,,,,,VOWEL SIGN AA,bI,bII,bU,bUU,,,,bE,bEE,bAI,,bO,bOO,bAU",
       "SIGN VIRAMA,,,OM,,,,,,,AU LENGTH MARK"]⟩,
    ⟨0xBE6, "TAMIL ",
      ["DIGIT ZERO,aONE,aTWO,aTHREE,aFOUR,aFIVE,aSIX,aSEVEN,aEIGHT,aNINE,NUMBER TEN",
       "aONE HUNDRED,bTHOUSAND,DAY SIGN,MONTHa,YEARa,DEBITa,CREDITa,AS ABOVEa,RUPEEa,NUMBERa"]⟩,
    ⟨0xC00, "TELUGU ",
      ["SIGN COMBINING CANDRABINDU ABOVE,aCANDRABINDU,aANUSVARA,aVISARGA",
       "aCOMBINING ANUSVARA ABOVE,LETTER A,aAA,aI,aII,aU,aUU,aVOCALIC R,bL,,aE,aEE,aAI,,aO,aOO",
       "aAU,aKA,aKHA,aGA,aGHA,aNGA,aCA,aCHA,aJA,aJHA,aNYA,aTTA,aTTHA,aDDA,aDDHA,aNNA,aTA,aTHA",
       "aDA,aDHA,aNA,,aPA,aPHA,aBA,aBHA,aMA,aYA,aRA,aRRA,aLA,aLLA,aLLLA,aVA,aSHA,aSSA,aSA,aHA,,",
       "SIGN NUKTA,aAVAGRAHA,VOWEL SIGN AA,bI,bII,bU,bUU,bVOCALIC R,cRR,,bE,bEE,bAI,,bO,bOO,bAU",
       "SIGN VIRAMA,,,,,,,,LENGTH MARK,AIb,,LETTER TSA,aDZA,aRRRA,,,aNAKAARA POLLU,,",
       "aVOCALIC RR,bLL,VOWEL SIGN VOCALIC L,cLL,,,DIGIT ZERO,aONE,aTWO,aTHREE,aFOUR,aFIVE,aSIX",
       "aSEVEN,aEIGHT,aNINE,,,,,,,,SIGN SIDDHAM,FRACTION DIGIT ZERO FOR ODD POWERS OF FOUR",
       "bONEe,bTWOe,bTHREEe,bONE FOR EVENc,bTWOe,bTHREEe,SIGN TUUMU"]⟩,
    ⟨0xC80, "KANNADA ",
      ["SIGN SPACING CANDRABINDU,aa,aANUSVARA,aVISARGA,aSIDDHAM,LETTER A,aAA,aI,aII,aU,aUU",
       "aVOCALIC R,bL,,aE,aEE,aAI,,aO,aOO,aAU,aKA,aKHA,aGA,aGHA,aNGA,aCA,aCHA,aJA,aJHA,aNYA",
       "aTTA,aTTHA,aDDA,aDDHA,aNNA,aTA,aTHA,aDA,aDHA,aNA,,aPA,aPHA,aBA,aBHA,aMA,aYA,aRA,aRRA",
       "aLA,aLLA,,aVA,aSHA,aSSA,aSA,aHA,,,SIGN NUKTA,aAVAGRAHA,VOWEL SIGN AA,bI,bII,bU,bUU",
       "bVOCALIC R,cRR,,bE,bEE,bAI,,bO,bOO,bAU,SIGN VIRAMA,,,,,,,,LENGTH MARK,AIb,,,,,,",
       "LETTER NAKAARA POLLU,aFA,,aVOCALIC RR,bLL,VOWEL SIGN VOCALIC L,cLL,,,DIGIT ZERO,aONE",
       "aTWO,aTHREE,aFOUR,aFIVE,aSIX,aSEVEN,aEIGHT,aNINE,,SIGN JIHVAMULIYA,aUPADHMANIYA"]⟩,
    ⟨0xD00, "MALAYALAM ",
      ["SIGN COMBINING ANUSVARA ABOVE,aCANDRABINDU,aANUSVARA,aVISARGA,LETTER VEDIC ANUSVARA,aA",
       "aAA,aI,aII,aU,aUU,aVOCALIC R,bL,,aE,aEE,aAI,,aO,aOO,aAU,aKA,aKHA,aGA,aGHA,aNGA,aCA,aCHA",
       "aJA,aJHA,aNYA,aTTA,aTTHA,aDDA,aDDHA,aNNA,aTA,aTHA,aDA,aDHA,aNA,aNNNA,aPA,aPHA,aBA,aBHA",
       "aMA,aYA,aRA,aRRA,aLA,aLLA,aLLLA,aVA,aSHA,aSSA,aSA,aHA,aTTTA,SIGN VERTICAL BAR VIRAMA",
       "aCIRCULARa,aAVAGRAHA,VOWEL SIGN AA,bI,bII,bU,bUU,bVOCALIC R,cRR,,bE,bEE,bAI,,bO,bOO,bAU",
       "SIGN VIRAMA,LETTER DOT REPH,SIGN PARA,,,,,LETTER CHILLU M,bY,bLLL,AU LENGTH MARK",
       "FRACTION ONE ONE-HUNDRED-AND-SIXTIETH,bFORTIETH,aTHREE EIGHTIETHS,aONE TWENTIETH,bTENTH",
       "aTHREE TWENTIETHS,aONE FIFTH,LETTER ARCHAIC II,aVOCALIC RR,bLL,VOWEL SIGN VOCALIC L,cLL",
       ",,DIGIT ZERO,aONE,aTWO,aTHREE,aFOUR,aFIVE,aSIX,aSEVEN,aEIGHT,aNINE,NUMBER TEN",
       "aONE HUNDRED,bTHOUSAND,FRACTION ONE QUARTER,bHALF,aTHREE QUARTERS,aONE SIXTEENTH",
       "bEIGHTH,aTHREE SIXTEENTHS,DATE MARK,LETTER CHILLU NN,bN,bRR,bL,bLL,bK"]⟩,
    ⟨0xD81, "SINHALA SIGN ",
      ["CANDRABINDU,ANUSVARAYA,VISARGAYA"]⟩,
    ⟨0xD85, "SINHALA LETTER ",
      ["AYANNA,AAYANNA,AEYANNA,AEEYANNA,IYANNA,IIYANNA,UYANNA,UUYANNA,IRUYANNA,IRUUYANNA",
       "ILUYANNA,ILUUYANNA,EYANNA,EEYANNA,AIYANNA,OYANNA,OOYANNA,AUYANNA,,,,ALPAPRAANA KAYANNA",
       "MAHAAPRAANAa,ALPAPRAANA GAYANNA,MAHAAPRAANAa,KANTAJA NAASIKYAYA,SANYAKA GAYANNA",
       "ALPAPRAANA CAYANNA,MAHAAPRAANAa,ALPAPRAANA JAYANNA,MAHAAPRAANAa,TAALUJA NAASIKYAYA",
       "aSANYOOGA NAAKSIKYAYA,SANYAKA JAYANNA,ALPAPRAANA TTAYANNA,MAHAAPRAANAa",
       "ALPAPRAANA DDAYANNA,MAHAAPRAANAa,MUURDHAJA NAYANNA,SANYAKA DDAYANNA,ALPAPRAANA TAYANNA",
       "MAHAAPRAANAa,ALPAPRAANA DAYANNA,MAHAAPRAANAa,DANTAJA NAYANNA,,SANYAKA DAYANNA",
       "ALPAPRAANA PAYANNA,MAHAAPRAANAa,ALPAPRAANA BAYANNA,MAHAAPRAANAa,MAYANNA,AMBA BAYANNA",
       "YAYANNA,RAYANNA,,DANTAJA LAYANNA,,,VAYANNA,TAALUJA SAYANNA,MUURDHAJAa,DANTAJAa,HAYANNA",
       "MUURDHAJA LAYANNA,FAYANNA"]⟩,
    ⟨0xDCA, "SINHALA ",
      ["SIGN AL-LAKUNA,,,,,VOWEL SIGN AELA-PILLA,bKETTI AEDA-PILLA,bDIGAa,bKETTI IS-PILLA",
       "bDIGAa,bKETTI PAA-PILLA,,bDIGAa,,bGAETTA-PILLA,bKOMBUVA,bDIGAa,bKOMBU DEKA",
       "bKOMBUVA HAA AELA-PILLA,dDIGAa,dGAYANUKITTA,ba,,,,,,,LITH DIGIT ZERO,bONE,bTWO,bTHREE",
       "bFOUR,bFIVE,bSIX,bSEVEN,bEIGHT,bNINE,,,VOWEL SIGN DIGA GAETTA-PILLA,cGAYANUKITTA",
       "PUNCTUATION KUNDDALIYA"]⟩,
    ⟨0xE01, "THAI CHARACTER ",
      ["KO KAI,KHO KHAI,aKHUAT,aKHWAI,aKHON,aRAKHANG,NGO NGU,CHO CHAN,aCHING,aCHANG,SO SO",
       "CHO CHOE,YO YING,DO CHADA,TO PATAK,THO THAN,aNANGMONTHO,aPHUTHAO,NO NEN,DO DEK,TO TAO",
       "THO THUNG,aTHAHAN,aTHONG,NO NU,BO BAIMAI,PO PLA,PHO PHUNG,FO FA,PHO PHAN,FO FAN",
       "PHO SAMPHAO,MO MA,YO YAK,RO RUA,RU,LO LING,LU,WO WAEN,SO SALA,aRUSI,aSUA,HO HIP",
       "LO CHULA,O ANG,HO NOKHUK,PAIYANNOI,SARA A,MAI HAN-AKAT,SARA AA,aAM,aI,aII,aUE,aUEE,aU",
       "aUU,PHINTHU"]⟩,
    ⟨0xE3F, "THAI ",
      ["CURRENCY SYMBOL BAHT,CHARACTER SARA E,bAE,bO,bAI MAIMUAN,cMAIMALAI,aLAKKHANGYAO",
       "aMAIYAMOK,aMAITAIKHU,aMAI EK,bTHO,bTRI,bCHATTAWA,aTHANTHAKHAT,aNIKHAHIT,aYAMAKKAN",
       "aFONGMAN,DIGIT ZERO,aONE,aTWO,aTHREE,aFOUR,aFIVE,aSIX,aSEVEN,aEIGHT,aNINE",
       "CHARACTER ANGKHANKHU,aKHOMUT"]⟩,
    ⟨0xE81, "LAO LETTER ",
      ["KO,KHO SUNG,,aTAM,,PALI GHA,NGO,CO,PALI CHA,SO TAM,,PALI JHA,NYO,PALI NYA,aTTA,aTTHA",
       "aDDA,aDDHA,aNNA,DO,TO,THO SUNG,aTAM,PALI DHA,NO,BO,PO,PHO SUNG,FO TAM,PHOa,FO SUNG",
       "PALI BHA,MO,YO,LO LING,,aLOOT,,WO,SANSKRIT SHA,aSSA,SO SUNG,HOa,PALI LLA,O,HO TAM"]⟩,
    ⟨0xEAF, "LAO ",
      ["ELLIPSIS,VOWEL SIGN A,bMAI KAN,bAA,bAM,bI,bII,bY,bYY,bU,bUU,SIGN PALI VIRAMA",
       "VOWEL SIGN MAI KON,SEMIVOWEL SIGN LO,bNYO,,,VOWEL SIGN E,bEI,bO,bAY,bAI,,KO LA,",
       "TONE MAI EK,bTHO,bTI,bCATAWA,CANCELLATION MARK,NIGGAHITA,,,DIGIT ZERO,aONE,aTWO,aTHREE",
       "aFOUR,aFIVE,aSIX,aSEVEN,aEIGHT,aNINE,,,HO NO,aMO,LETTER KHMU GO,bNYO"]⟩,
    ⟨0xF00, "TIBETAN ",
      ["SYLLABLE OM,MARK GTER YIG MGO TRUNCATED A,d-UM RNAM BCAD MA,eGTER TSHEGa",
       "aINITIAL YIG MGO MDUNa,aCLOSING YIG MGO SGABa,aCARET YIG MGO PHUR SHADa,aYIG MGO TSHEGb",
       "aSBRUL SHAD,aBSKUR YIG MGO,aBKA- SHOGb,aINTERSYLLABIC TSHEG,aDELIMITER TSHEG BSTAR",
       "aSHAD,aNYISa,aTSHEGa,aNYISb,aRIN CHEN SPUNGSa,aRGYA GRAMa",
       "aCARET -DZUD RTAGS ME LONG CAN,aGTER TSHEG,LOGOTYPE SIGN CHAD RTAGS,bLHAGa",
       "ASTROLOGICAL SIGN SGRA GCAN -CHARa,b-KHYUD PA,bSDONG TSHUGS,SIGN RDEL DKAR GCIG,cGNYIS",
       "cGSUM,bNAG GCIG,cGNYIS,bDKAR RDEL NAG,DIGIT ZERO,aONE,aTWO,aTHREE,aFOUR,aFIVE,aSIX",
       "aSEVEN,aEIGHT,aNINE,aHALF ONE,bTWO,bTHREE,bFOUR,bFIVE,bSIX,bSEVEN,bEIGHT,bNINE,bZERO",
       "MARK BSDUS RTAGS,aNGAS BZUNG NYI ZLA,aCARET -DZUD RTAGS BZHI MIG CAN",
       "aNGAS BZUNG SGOR RTAGS,aCHE MGO,aTSA -PHRU,aGUG RTAGS GYON,cGYAS,aANG KHANG GYON,cGYAS",
       "SIGN YAR TSHES,aMARa,LETTER KA,aKHA,aGA,aGHA,aNGA,aCA,aCHA,aJA,,aNYA,aTTA,aTTHA,aDDA",
       "aDDHA,aNNA,aTA,aTHA,aDA,aDHA,aNA,aPA,aPHA,aBA,aBHA,aMA,aTSA,aTSHA,aDZA,aDZHA,aWA,aZHA",
       "aZA,a-A,aYA,aRA,aLA,aSHA,aSSA,aSA,aHA,aA,aKSSA,aFIXED-FORM RA,aKKA,aRRA,,,,",
       "VOWEL SIGN AA,bI,bII,bU,bUU,bVOCALIC R,cRR,cL,cLL,bE,bEE,bO,bOO,SIGN RJES SU NGA RO",
       "aRNAM BCAD,VOWEL SIGN REVERSED I,cII,SIGN NYI ZLA NAA DA,aSNA LDAN,MARK HALANTA,aPALUTA",
       "SIGN LCI RTAGS,aYANGa,aLCE TSA CAN,aMCHUa,aGRU CAN RGYINGS,bMEDa,aINVERTED MCHU CAN",
       "SUBJOINED SIGN LCE TSAa,bMCHUa,bINVERTEDb,aLETTER KA,bKHA,bGA,bGHA,bNGA,bCA,bCHA,bJA,",
       "bNYA,bTTA,bTTHA,bDDA,bDDHA,bNNA,bTA,bTHA,bDA,bDHA,bNA,bPA,bPHA,bBA,bBHA,bMA,bTSA,bTSHA",
       "bDZA,bDZHA,bWA,bZHA,bZA,b-A,bYA,bRA,bLA,bSHA,bSSA,bSA,bHA,bA,bKSSA,bFIXED-FORM WA,cYA",
       "cRA,,KU RU KHA,cBZHI MIG CAN,CANTILLATION SIGN HEAVY BEAT,bLIGHTa,bCANG TE-U",
       "bSBUB -CHAL,SYMBOL DRIL BU,aRDO RJE,aPADMA GDAN,aRDO RJE RGYA GRAM,aPHUR PA,aNOR BU",
       "cNYIS -KHYIL,cGSUMa,cBZHIa,,SIGN RDEL NAG RDEL DKAR,cGSUM,MARK BSKA- SHOG GI MGO RGYAN",
       "aMNYAM YIGc,aNYIS TSHEG,aINITIAL BRDA RNYING YIG MGO MDUN MA",
       "aCLOSING BRDA RNYING YIG MGO SGABa"]⟩,
    ⟨0xFD5, "",
      ["RIGHT-FACING SVASTI SIGN,LEFT-FACINGb,RIGHT-FACING SVASTI SIGN WITH DOTS,LEFT-FACINGd"]⟩,
    ⟨0xFD9, "TIBETAN MARK ",
      ["LEADING MCHAN RTAGS,TRAILINGb"]⟩,
    ⟨0x1000, "MYANMAR LETTER ",
      ["KA,KHA,GA,GHA,NGA,CA,CHA,JA,JHA,NYA,NNYA,TTA,TTHA,DDA,DDHA,NNA,TA,THA,DA,DHA,NA,PA,PHA",
       "BA,BHA,MA,YA,RA,LA,WA,SA,HA,LLA,A,SHANa,I,II,U,UU,E,MONa,O,AU"]⟩,
    ⟨0x102B, "MYANMAR ",
      ["VOWEL SIGN TALL AA,ba,bI,bII,bU,bUU,bE,bAI,bMON II,cO,bE ABOVE,SIGN ANUSVARA,aDOT BELOW",
       "aVISARGA,aVIRAMA,aASAT,CONSONANT SIGN MEDIAL YA,cRA,cWA,cHA,LETTER GREAT SA,DIGIT ZERO",
       "aONE,aTWO,aTHREE,aFOUR,aFIVE,aSIX,aSEVEN,aEIGHT,aNINE,SIGN LITTLE SECTION,aa",
       "SYMBOL LOCATIVE,aCOMPLETED,aAFOREMENTIONED,aGENITIVE,LETTER SHA,aSSA,aVOCALIC R,bRR,bL",
       "bLL,VOWEL SIGN VOCALIC R,cRR,cL,cLL,LETTER MON NGA,bJHA,bBBA,bBBE",
       "CONSONANT SIGN MON MEDIAL NA,dMA,dLA,LETTER SGAW KAREN SHA,VOWEL SIGN SGAW KAREN EU",
       "TONE MARK SGAW KAREN HATHI,dKE PHO,LETTER WESTERN PWO KAREN THA,dPWA",
       "VOWEL SIGN WESTERN PWO KAREN EU,eUE,SIGN WESTERN PWO KAREN TONE-1,dTONE-2,dTONE-3",
       "dTONE-4,dTONE-5,LETTER EASTERN PWO KAREN NNA,dYWA,dGHWA,VOWEL SIGN GEBA KAREN I",
       "bKAYAH OE,cU,cEE,LETTER SHAN KA,bKHA,bGA,bCA,bZA,bNYA,bDA,bNA,bPHA,bFA,bBA,bTHA,bHA",
       "CONSONANT SIGN SHAN MEDIAL WA,VOWEL SIGN SHAN AA,cE,dABOVE,cFINAL Y,SIGN SHAN TONE-2",
       "bTONE-3,bTONE-5,bTONE-6,bCOUNCIL TONE-2,cTONE-3,cEMPHATIC TONE,LETTER RUMAI PALAUNG FA",
       "SIGN RUMAI PALAUNG TONE-5,SHAN DIGIT ZERO,bONE,bTWO,bTHREE,bFOUR,bFIVE,bSIX,bSEVEN",
       "bEIGHT,bNINE,SIGN KHAMTI TONE-1,bTONE-3,VOWEL SIGN AITON A,cAI,SYMBOL SHAN ONE",
       "bEXCLAMATION"]⟩,
    ⟨0x10A0, "GEORGIAN CAPITAL LETTER ",
      ["AN,BAN,GAN,DON,EN,VIN,ZEN,TAN,IN,KAN,LAS,MAN,NAR,ON,PAR,ZHAR,RAE,SAN,TAR,UN,PHAR,KHAR",
       "GHAN,QAR,SHIN,CHIN,CAN,JIL,CIL,CHAR,XAN,JHAN,HAE,HE,HIE,WE,HAR,HOE,,YN,,,,,,AEN"]⟩,
    ⟨0x10D0, "GEORGIAN LETTER ",
      ["AN,BAN,GAN,DON,EN,VIN,ZEN,TAN,IN,KAN,LAS,MAN,NAR,ON,PAR,ZHAR,RAE,SAN,TAR,UN,PHAR,KHAR",
       "GHAN,QAR,SHIN,CHIN,CAN,JIL,CIL,CHAR,XAN,JHAN,HAE,HE,HIE,WE,HAR,HOE,FI,YN,ELIFI",
       "TURNED GAN,AIN"]⟩,
    ⟨0x10FB, "GEORGIAN PARAGRAPH ",
      ["SEPARATOR"]⟩,
    ⟨0x10FC, "MODIFIER LETTER GEORGIAN ",
      ["NAR"]⟩,
    ⟨0x10FD, "GEORGIAN LETTER ",
      ["AEN,HARD SIGN,LABIALa"]⟩,
    ⟨0x1100, "HANGUL CHOSEONG ",
      ["KIYEOK,SSANGKIYEOK,NIEUN,TIKEUT,SSANGTIKEUT,RIEUL,MIEUM,PIEUP,SSANGPIEUP,SIOS,SSANGSIOS",
       "IEUNG,CIEUC,SSANGCIEUC,CHIEUCH,KHIEUKH,THIEUTH,PHIEUPH,HIEUH,NIEUN-KIYEOK,SSANGNIEUN",
       "NIEUN-TIKEUT,NIEUN-PIEUP,TIKEUT-KIYEOK,RIEUL-NIEUN,SSANGRIEUL,RIEUL-HIEUH,KAPYEOUNRIEUL",
       "MIEUM-PIEUP,KAPYEOUNMIEUM,PIEUP-KIYEOK,PIEUP-NIEUN,PIEUP-TIKEUT,PIEUP-SIOS",
       "PIEUP-SIOS-KIYEOK,PIEUP-SIOS-TIKEUT,PIEUP-SIOS-PIEUP,PIEUP-SSANGSIOS,PIEUP-SIOS-CIEUC",
       "PIEUP-CIEUC,PIEUP-CHIEUCH,PIEUP-THIEUTH,PIEUP-PHIEUPH,KAPYEOUNPIEUP,KAPYEOUNSSANGPIEUP",
       "SIOS-KIYEOK,SIOS-NIEUN,SIOS-TIKEUT,SIOS-RIEUL,SIOS-MIEUM,SIOS-PIEUP,SIOS-PIEUP-KIYEOK",
       "SIOS-SSANGSIOS,SIOS-IEUNG,SIOS-CIEUC,SIOS-CHIEUCH,SIOS-KHIEUKH,SIOS-THIEUTH",
       "SIOS-PHIEUPH,SIOS-HIEUH,CHITUEUMSIOS,CHITUEUMSSANGSIOS,CEONGCHIEUMSIOS",
       "CEONGCHIEUMSSANGSIOS,PANSIOS,IEUNG-KIYEOK,IEUNG-TIKEUT,IEUNG-MIEUM,IEUNG-PIEUP",
       "IEUNG-SIOS,IEUNG-PANSIOS,SSANGIEUNG,IEUNG-CIEUC,IEUNG-CHIEUCH,IEUNG-THIEUTH",
       "IEUNG-PHIEUPH,YESIEUNG,CIEUC-IEUNG,CHITUEUMCIEUC,CHITUEUMSSANGCIEUC,CEONGCHIEUMCIEUC",
       "CEONGCHIEUMSSANGCIEUC,CHIEUCH-KHIEUKH,CHIEUCH-HIEUH,CHITUEUMCHIEUCH,CEONGCHIEUMCHIEUCH",
       "PHIEUPH-PIEUP,KAPYEOUNPHIEUPH,SSANGHIEUH,YEORINHIEUH,KIYEOK-TIKEUT,NIEUN-SIOS",
       "NIEUN-CIEUC,NIEUN-HIEUH,TIKEUT-RIEUL,FILLER"]⟩,
    ⟨0x1160, "HANGUL JUNGSEONG ",
      ["FILLER,A,AE,YA,YAE,EO,E,YEO,YE,O,WA,WAE,OE,YO,U,WEO,WE,WI,YU,EU,YI,I,A-O,A-U,YA-O,YA-YO",
       "EO-O,EO-U,EO-EU,YEO-O,YEO-U,O-EO,O-E,O-YE,O-O,O-U,YO-YA,YO-YAE,YO-YEO,YO-O,YO-I,U-A",
       "U-AE,U-EO-EU,U-YE,U-U,YU-A,YU-EO,YU-E,YU-YEO,YU-YE,YU-U,YU-I,EU-U,EU-EU,YI-U,I-A,I-YA",
       "I-O,I-U,I-EU,I-ARAEA,ARAEA,ARAEA-EO,ARAEA-U,ARAEA-I,SSANGARAEA,A-EU,YA-U,YEO-YA,O-YA",
       "O-YAE"]⟩,
    ⟨0x11A8, "HANGUL JONGSEONG ",
      ["KIYEOK,SSANGKIYEOK,KIYEOK-SIOS,NIEUN,NIEUN-CIEUC,NIEUN-HIEUH,TIKEUT,RIEUL,RIEUL-KIYEOK",
       "RIEUL-MIEUM,RIEUL-PIEUP,RIEUL-SIOS,RIEUL-THIEUTH,RIEUL-PHIEUPH,RIEUL-HIEUH,MIEUM,PIEUP",
       "PIEUP-SIOS,SIOS,SSANGSIOS,IEUNG,CIEUC,CHIEUCH,KHIEUKH,THIEUTH,PHIEUPH,HIEUH",
       "KIYEOK-RIEUL,KIYEOK-SIOS-KIYEOK,NIEUN-KIYEOK,NIEUN-TIKEUT,NIEUN-SIOS,NIEUN-PANSIOS",
       "NIEUN-THIEUTH,TIKEUT-KIYEOK,TIKEUT-RIEUL,RIEUL-KIYEOK-SIOS,RIEUL-NIEUN,RIEUL-TIKEUT",
       "RIEUL-TIKEUT-HIEUH,SSANGRIEUL,RIEUL-MIEUM-KIYEOK,RIEUL-MIEUM-SIOS,RIEUL-PIEUP-SIOS",
       "RIEUL-PIEUP-HIEUH,RIEUL-KAPYEOUNPIEUP,RIEUL-SSANGSIOS,RIEUL-PANSIOS,RIEUL-KHIEUKH",
       "RIEUL-YEORINHIEUH,MIEUM-KIYEOK,MIEUM-RIEUL,MIEUM-PIEUP,MIEUM-SIOS,MIEUM-SSANGSIOS",
       "MIEUM-PANSIOS,MIEUM-CHIEUCH,MIEUM-HIEUH,KAPYEOUNMIEUM,PIEUP-RIEUL,PIEUP-PHIEUPH",
       "PIEUP-HIEUH,KAPYEOUNPIEUP,SIOS-KIYEOK,SIOS-TIKEUT,SIOS-RIEUL,SIOS-PIEUP,PANSIOS",
       "IEUNG-KIYEOK,IEUNG-SSANGKIYEOK,SSANGIEUNG,IEUNG-KHIEUKH,YESIEUNG,YESIEUNG-SIOS",
       "YESIEUNG-PANSIOS,PHIEUPH-PIEUP,KAPYEOUNPHIEUPH,HIEUH-NIEUN,HIEUH-RIEUL,HIEUH-MIEUM",
       "HIEUH-PIEUP,YEORINHIEUH,KIYEOK-NIEUN,KIYEOK-PIEUP,KIYEOK-CHIEUCH,KIYEOK-KHIEUKH",
       "KIYEOK-HIEUH,SSANGNIEUN"]⟩,
    ⟨0x1200, "ETHIOPIC SYLLABLE ",
      ["HA,HU,HI,HAA,HEE,HE,HO,HOA,LA,LU,LI,LAA,LEE,LE,LO,LWA,HHA,HHU,HHI,HHAA,HHEE,HHE,HHO",
       "HHWA,MA,MU,MI,MAA,MEE,ME,MO,MWA,SZA,SZU,SZI,SZAA,SZEE,SZE,SZO,SZWA,RA,RU,RI,RAA,REE,RE",
       "RO,RWA,SA,SU,SI,SAA,SEE,SE,SO,SWA,SHA,SHU,SHI,SHAA,SHEE,SHE,SHO,SHWA,QA,QU,QI,QAA,QEE",
       "QE,QO,QOA,QWA,,QWI,QWAA,QWEE,QWE"]⟩,
    ⟨0x1250, "ETHIOPIC SYLLABLE ",
      ["QHA,QHU,QHI,QHAA,QHEE,QHE,QHO,,QHWA,,QHWI,QHWAA,QHWEE,QHWE,,,BA,BU,BI,BAA,BEE,BE,BO,BWA",
       "VA,VU,VI,VAA,VEE,VE,VO,VWA,TA,TU,TI,TAA,TEE,TE,TO,TWA,CA,CU,CI,CAA,CEE,CE,CO,CWA,XA,XU",
       "XI,XAA,XEE,XE,XO,XOA,XWA,,XWI,XWAA,XWEE,XWE,,,NA,NU,NI,NAA,NEE,NE,NO,NWA,NYA,NYU,NYI",
       "NYAA,NYEE,NYE,NYO,NYWA,GLOTTAL A,aU,aI,aAA,aEE,aE,aO,aWA,KA,KU,KI,KAA,KEE,KE,KO,KOA,KWA",
       ",KWI,KWAA,KWEE,KWE,,,KXA,KXU,KXI,KXAA,KXEE,KXE,KXO,,KXWA,,KXWI,KXWAA,KXWEE,KXWE,,,WA,WU",
       "WI,WAA,WEE,WE,WO,WOA,PHARYNGEAL A,aU,aI,aAA,aEE,aE,aO,,ZA,ZU,ZI,ZAA,ZEE,ZE,ZO,ZWA,ZHA",
       "ZHU,ZHI,ZHAA,ZHEE,ZHE,ZHO,ZHWA,YA,YU,YI,YAA,YEE,YE,YO,YOA,DA,DU,DI,DAA,DEE,DE,DO,DWA",
       "DDA,DDU,DDI,DDAA,DDEE,DDE,DDO,DDWA,JA,JU,JI,JAA,JEE,JE,JO,JWA,GA,GU,GI,GAA,GEE,GE,GO",
       "GOA,GWA,,GWI,GWAA,GWEE,GWE,,,GGA,GGU,GGI,GGAA,GGEE,GGE,GGO,GGWAA,THA,THU,THI,THAA,THEE",
       "THE,THO,THWA,CHA,CHU,CHI,CHAA,CHEE,CHE,CHO,CHWA,PHA,PHU,PHI,PHAA,PHEE,PHE,PHO,PHWA,TSA",
       "TSU,TSI,TSAA,TSEE,TSE,TSO,TSWA,TZA,TZU,TZI,TZAA,TZEE,TZE,TZO,TZOA,FA,FU,FI,FAA,FEE,FE",
       "FO,FWA,PA,PU,PI,PAA,PEE,PE,PO,PWA,RYA,MYA,FYA"]⟩,
    ⟨0x135D, "ETHIOPIC ",
      ["COMBINING GEMINATION AND VOWEL LENGTH MARK,ac,aGEMINATIONa,SECTIONa,WORDSPACE,FULL STOP",
       "COMMA,SEMICOLON,COLON,PREFACEa,QUESTION MARK,PARAGRAPH SEPARATOR,DIGIT ONE,aTWO,aTHREE",
       "aFOUR,aFIVE,aSIX,aSEVEN,aEIGHT,aNINE,NUMBER TEN,aTWENTY,aTHIRTY,aFORTY,aFIFTY,aSIXTY",
       "aSEVENTY,aEIGHTY,aNINETY,aHUNDRED,aTEN THOUSAND,,,,SYLLABLE SEBATBEIT MWA,aMWI,aMWEE",
       "aMWE,aSEBATBEIT BWA,aBWI,aBWEE,aBWE,aSEBATBEIT FWA,aFWI,aFWEE,aFWE,aSEBATBEIT PWA,aPWI",
       "aPWEE,aPWE,TONAL MARK YIZET,bDERET,bRIKRIK,bSHORTa,bDIFAT,bKENAT,bCHIRET,bHIDET",
       "bDERET-HIDET,bKURT"]⟩,
    ⟨0x13A0, "CHEROKEE LETTER ",
      ["A,E,I,O,U,V,GA,KA,GE,GI,GO,GU,GV,HA,HE,HI,HO,HU,HV,LA,LE,LI,LO,LU,LV,MA,ME,MI,MO,MU,NA",
       "HNA,NAH,NE,NI,NO,NU,NV,QUA,QUE,QUI,QUO,QUU,QUV,SA,S,SE,SI,SO,SU,SV,DA,TA,DE,TE,DI,TI,DO",
       "DU,DV,DLA,TLA,TLE,TLI,TLO,TLU,TLV,TSA,TSE,TSI,TSO,TSU,TSV,WA,WE,WI,WO,WU,WV,YA,YE,YI,YO",
       "YU,YV,MV"]⟩,
    ⟨0x13F8, "CHEROKEE SMALL LETTER ",
      ["YE,YI,YO,YU,YV,MV"]⟩,
    ⟨0x1400, "CANADIAN SYLLABICS ",
      ["HYPHEN,E,AAI,I,II,O,OO,Y-CREEa,CARRIER EE,aI,A,AA,WE,WEST-CREEa,WI,WEST-CREEa,WII",
       "WEST-CREEa,WO,WEST-CREEa,WOO,WEST-CREEa,NASKAPIa,WA,WEST-CREEa,WAA,WEST-CREEa,NASKAPIa",
       "AI,Y-CREE W,GLOTTAL STOP,FINAL ACUTE,aGRAVE,aBOTTOM HALF RING,aTOPb,aRIGHTb,aa",
       "aDOUBLE ACUTE,bSHORT VERTICAL STROKES,aMIDDLE DOT,aSHORT HORIZONTAL STROKE,aPLUS",
       "aDOWN TACK,EN,IN,ON,AN,PE,PAAI,PI,PII,PO,POO,Y-CREEa,CARRIER HEE,aHI,PA,PAA,PWE",
       "WEST-CREEa,PWI,WEST-CREEa,PWII,WEST-CREEa,PWO,WEST-CREEa,PWOO,WEST-CREEa,PWA,WEST-CREEa",
       "PWAA,WEST-CREEa,Y-CREEa,P,WEST-CREEa,CARRIER H,TE,TAAI,TI,TII,TO,TOO,Y-CREEa",
       "CARRIER DEE,aDI,TA,TAA,TWE,WEST-CREEa,TWI,WEST-CREEa,TWII,WEST-CREEa,TWO,WEST-CREEa",
       "TWOO,WEST-CREEa,TWA,WEST-CREEa,TWAA,WEST-CREEa,NASKAPIa,T,TTE,TTI,TTO,TTA,KE,KAAI,KI",
       "KII,KO,KOO,Y-CREEa,KA,KAA,KWE,WEST-CREEa,KWI,WEST-CREEa,KWII,WEST-CREEa,KWO,WEST-CREEa",
       "KWOO,WEST-CREEa,KWA,WEST-CREEa,KWAA,WEST-CREEa,NASKAPIa,K,KW,SOUTH-SLAVEY KEH,aKIH,aKOH",
       "aKAH,CE,CAAI,CI,CII,CO,COO,Y-CREEa,CA,CAA,CWE,WEST-CREEa,CWI,WEST-CREEa,CWII,WEST-CREEa",
       "CWO,WEST-CREEa,CWOO,WEST-CREEa,CWA,WEST-CREEa,CWAA,WEST-CREEa,NASKAPIa,C,SAYISI TH,ME",
       "MAAI,MI,MII,MO,MOO,Y-CREEa,MA,MAA,MWE,WEST-CREEa,MWI,WEST-CREEa,MWII,WEST-CREEa,MWO",
       "WEST-CREEa,MWOO,WEST-CREEa,MWA,WEST-CREEa,MWAA,WEST-CREEa,NASKAPIa,M,WEST-CREEa,MH",
       "ATHAPASCAN M,SAYISIa"]⟩,
    ⟨0x14C0, "CANADIAN SYLLABICS ",
      ["NE,NAAI,NI,NII,NO,NOO,Y-CREEa,NA,NAA,NWE,WEST-CREEa,NWA,WEST-CREEa,NWAA,WEST-CREEa",
       "NASKAPIa,N,CARRIER NG,NH,LE,LAAI,LI,LII,LO,LOO,Y-CREEa,LA,LAA,LWE,WEST-CREEa,LWI",
       "WEST-CREEa,LWII,WEST-CREEa,LWO,WEST-CREEa,LWOO,WEST-CREEa,LWA,WEST-CREEa,LWAA",
       "WEST-CREEa,L,WEST-CREEa,MEDIALa,SE,SAAI,SI,SII,SO,SOO,Y-CREEa,SA,SAA,SWE,WEST-CREEa,SWI",
       "WEST-CREEa,SWII,WEST-CREEa,SWO,WEST-CREEa,SWOO,WEST-CREEa,SWA,WEST-CREEa,SWAA",
       "WEST-CREEa,NASKAPIa,S,ATHAPASCANa,SW,BLACKFOOT S,MOOSE-CREE SK,NASKAPI SKW,aS-W,aSPWA",
       "aSTWA,aSKWA,aSCWA,SHE,SHI,SHII,SHO,SHOO,SHA,SHAA,SHWE,WEST-CREEa,SHWI,WEST-CREEa,SHWII",
       "WEST-CREEa,SHWO,WEST-CREEa,SHWOO,WEST-CREEa,SHWA,WEST-CREEa,SHWAA,WEST-CREEa,SH,YE,YAAI",
       "YI,YII,YO,YOO,Y-CREEa,YA,YAA,YWE,WEST-CREEa,YWI,WEST-CREEa,YWII,WEST-CREEa,YWO",
       "WEST-CREEa,YWOO,WEST-CREEa,YWA,WEST-CREEa,YWAA,WEST-CREEa,NASKAPIa,Y,BIBLE-CREEa",
       "WEST-CREEa,SAYISI YI,RE,R-CREEa,WEST-CREE LE,RAAI,RI,RII,RO,ROO,WEST-CREE LO,RA,RAA",
       "WEST-CREE LA,RWAA,WEST-CREEa,R,WEST-CREEa,MEDIALa,FE,FAAI,FI,FII,FO,FOO,FA,FAA,FWAA",
       "WEST-CREEa,F,THE,N-CREEa,THI,N-CREEa,THII,N-CREEa,THO,THOO,THA,THAA,THWAA,WEST-CREEa,TH",
       "TTHE,TTHI,TTHO,TTHA,TTH,TYE,TYI,TYO,TYA,NUNAVIK HE,aHI,aHII,aHO,aHOO,aHA,aHAA,aH",
       "NUNAVUTa,HK,QAAI,QI,QII,QO,QOO,QA,QAA,Q,TLHE,TLHI,TLHO,TLHA,WEST-CREE RE,aRI,aRO,aRA",
       "NGAAI,NGI,NGII,NGO,NGOO,NGA,NGAA,NG,NNG,SAYISI SHE,aSHI,aSHO,aSHA,WOODS-CREE THE,aTHI",
       "aTHO,aTHA,aTH,LHI,LHII,LHO,LHOO,LHA,LHAA,LH,TH-CREE THE,aTHI,aTHII,aTHO,aTHOO,aTHA",
       "aTHAA,aTH,AIVILIK B,BLACKFOOT E,aI,aO,aA,aWE,aWI,aWO,aWA,aNE,aNI,aNO,aNA,aKE,aKI,aKO",
       "aKA,SAYISI HE,aHI,aHO,aHA"]⟩,
    ⟨0x15C4, "CANADIAN SYLLABICS CARRIER ",
      ["GHU,GHO,GHE,GHEE,GHI,GHA,RU,RO,RE,REE,RI,RA,WU,WO,WE,WEE,WI,WA,HWU,HWO,HWE,HWEE,HWI,HWA",
       "THU,THO,THE,THEE,THI,THA,TTU,TTO,TTE,TTEE,TTI,TTA,PU,PO,PE,PEE,PI,PA,P,GU,GO,GE,GEE,GI",
       "GA,KHU,KHO,KHE,KHEE,KHI,KHA,KKU,KKO,KKE,KKEE,KKI,KKA,KK,NU,NO,NE,NEE,NI,NA,MU,MO,ME,MEE",
       "MI,MA,YU,YO,YE,YEE,YI,YA,JU"]⟩,
    ⟨0x1615, "CANADIAN SYLLABICS ",
      ["SAYISI JU,CARRIER JO,aJE,aJEE,aJI,SAYISIa"]⟩,
    ⟨0x161B, "CANADIAN SYLLABICS CARRIER ",
      ["JA,JJU,JJO,JJE,JJEE,JJI,JJA,LU,LO,LE,LEE,LI,LA,DLU,DLO,DLE,DLEE,DLI,DLA,LHU,LHO,LHE",
       "LHEE,LHI,LHA,TLHU,TLHO,TLHE,TLHEE,TLHI,TLHA,TLU,TLO,TLE,TLEE,TLI,TLA,ZU,ZO,ZE,ZEE,ZI,ZA",
       "Z,INITIALa,DZU,DZO,DZE,DZEE,DZI,DZA,SU,SO,SE,SEE,SI,SA,SHU,SHO,SHE,SHEE,SHI,SHA,SH,TSU",
       "TSO,TSE,TSEE,TSI,TSA,CHU,CHO,CHE,CHEE,CHI,CHA,TTSU,TTSO,TTSE,TTSEE,TTSI,TTSA"]⟩,
    ⟨0x166D, "CANADIAN SYLLABICS ",
      ["CHI SIGN,FULL STOP,QAI,NGAI,NNGI,NNGII,NNGO,NNGOO,NNGA,NNGAA,WOODS-CREE THWEE,aTHWI",
       "aTHWII,aTHWO,aTHWOO,aTHWA,aTHWAA,aFINAL TH,BLACKFOOT W"]⟩,
    ⟨0x1680, "OGHAM ",
      ["SPACE MARK,LETTER BEITH,aLUIS,aFEARN,aSAIL,aNION,aUATH,aDAIR,aTINNE,aCOLL,aCEIRT,aMUIN",
       "aGORT,aNGEADAL,aSTRAIF,aRUIS,aAILM,aONN,aUR,aEADHADH,aIODHADH,aEABHADH,aOR,aUILLEANN",
       "aIFIN,aEAMHANCHOLL,aPEITH,FEATHER MARK,REVERSEDb"]⟩,
    ⟨0x16A0, "RUNIC LETTER ",
      ["FEHU FEOH FE F,V,URUZ UR U,YR,Y,W,THURISAZ THURS THORN,ETH,ANSUZ A,OS O,AC A,AESC",
       "LONG-BRANCH-OSS O,SHORT-TWIG-OSSa,O,OE,ON,RAIDO RAD REID R,KAUNA,CEN,KAUN K,G,ENG",
       "GEBO GYFU G,GAR,WUNJO WYNN W,HAGLAZ H,HAEGLa,LONG-BRANCH-HAGALLa,SHORT-TWIG-HAGALLa",
       "NAUDIZ NYD NAUD N,SHORT-TWIG-NAUDa,DOTTED-N,ISAZ IS ISS I,E,JERAN J,GER",
       "LONG-BRANCH-AR AE,SHORT-TWIG-AR A,IWAZ EOH,PERTHO PEORTH P,ALGIZ EOLHX,SOWILO S",
       "SIGEL LONG-BRANCH-SOLa,SHORT-TWIG-SOLa,C,Z,TIWAZ TIR TYR T,SHORT-TWIG-TYRa,D",
       "BERKANAN BEORC BJARKAN B,SHORT-TWIG-BJARKANa,DOTTED-P,OPEN-P,EHWAZ EH E,MANNAZ MAN M",
       "LONG-BRANCH-MADRa,SHORT-TWIG-MADRa,LAUKAZ LAGU LOGR L,DOTTED-L,INGWAZ,ING,DAGAZ DAEG D",
       "OTHALAN ETHEL O,EAR,IOR,CWEORTH,CALC,CEALC,STAN,LONG-BRANCH-YR,SHORT-TWIG-YR",
       "ICELANDIC-YR,Q,X"]⟩,
    ⟨0x16EB, "RUNIC ",
      ["SINGLE PUNCTUATION,MULTIPLEa,CROSSa,ARLAUG SYMBOL,TVIMADURa,BELGTHORa,LETTER K,aSH,aOO",
       "aFRANKS CASKET OS,cIS,cEH,cAC,cAESC"]⟩,
    ⟨0x1700, "TAGALOG ",
      ["LETTER A,aI,aU,aKA,aGA,aNGA,aTA,aDA,aNA,aPA,aBA,aMA,aYA,aRA,aLA,aWA,aSA,aHA",
       "VOWEL SIGN I,bU,SIGN VIRAMA,aPAMUDPOD,,,,,,,,,,LETTER ARCHAIC RA"]⟩,
    ⟨0x1720, "HANUNOO ",
      ["LETTER A,aI,aU,aKA,aGA,aNGA,aTA,aDA,aNA,aPA,aBA,aMA,aYA,aRA,aLA,aWA,aSA,aHA",
       "VOWEL SIGN I,bU,SIGN PAMUDPOD"]⟩,
    ⟨0x1735, "PHILIPPINE ",
      ["SINGLE PUNCTUATION,DOUBLEa"]⟩,
    ⟨0x1740, "BUHID ",
      ["LETTER A,aI,aU,aKA,aGA,aNGA,aTA,aDA,aNA,aPA,aBA,aMA,aYA,aRA,aLA,aWA,aSA,aHA",
       "VOWEL SIGN I,bU"]⟩,
    ⟨0x1760, "TAGBANWA ",
      ["LETTER A,aI,aU,aKA,aGA,aNGA,aTA,aDA,aNA,aPA,aBA,aMA,aYA,,aLA,aWA,aSA,,VOWEL SIGN I,bU"]⟩,
    ⟨0x1780, "KHMER LETTER ",
      ["KA,KHA,KO,KHO,NGO,CA,CHA,CO,CHO,NYO,DA,TTHA,DO,TTHO,NNO,TA,THA,TO,THO,NO,BA,PHA,PO,PHO",
       "MO,YO,RO,LO,VO,SHA,SSO,SA,HA,LA,QA"]⟩,
    ⟨0x17A3, "KHMER ",
      ["INDEPENDENT VOWEL QAQ,bQAA,bQI,bQII,bQU,bQUK,bQUU,bQUUV,bRY,bRYY,bLY,bLYY,bQE,bQAI",
       "bQOO TYPE ONE,dTWO,bQAU,VOWEL INHERENT AQ,bAA,aSIGNa,bI,bII,bY,bYY,bU,bUU,bUA,bOE,bYA",
       "bIE,bE,bAE,bAI,bOO,bAU,SIGN NIKAHIT,aREAHMUK,aYUUKALEAPINTU,aMUUSIKATOAN,aTRIISAP",
       "aBANTOC,aROBAT,aTOANDAKHIAT,aKAKABAT,aAHSDA,aSAMYOK SANNYA,aVIRIAM,aCOENG,aBATHAMASAT",
       "aKHAN,aBARIYOOSAN,aCAMNUC PII KUUH,aLEK TOO,aBEYYAL,aPHNAEK MUAN,aKOOMUUT",
       "CURRENCY SYMBOL RIEL,SIGN AVAKRAHASANYA,aATTHACAN,,,DIGIT ZERO,aONE,aTWO,aTHREE,aFOUR",
       "aFIVE,aSIX,aSEVEN,aEIGHT,aNINE,,,,,,,SYMBOL LEK ATTAK SON,cMUOY,cPII,cBEI,cBUON,cPRAM",
       "cPRAM-MUOY,cPRAM-PII,cPRAM-BEI,cPRAM-BUON"]⟩,
    ⟨0x1800, "MONGOLIAN ",
      ["BIRGA,ELLIPSIS,COMMA,FULL STOP,COLON,FOUR DOTS,TODO SOFT HYPHEN",
       "SIBE SYLLABLE BOUNDARY MARKER,MANCHU COMMA,aFULL STOP,NIRUGU",
       "FREE VARIATION SELECTOR ONE,cTWO,cTHREE,VOWEL SEPARATOR,FREE VARIATION SELECTOR FOUR",
       "DIGIT ZERO,aONE,aTWO,aTHREE,aFOUR,aFIVE,aSIX,aSEVEN,aEIGHT,aNINE"]⟩,
    ⟨0x1820, "MONGOLIAN LETTER ",
      ["A,E,I,O,U,OE,UE,EE,NA,ANG,BA,PA,QA,GA,MA,LA,SA,SHA,TA,DA,CHA,JA,YA,RA,WA,FA,KA,KHA,TSA",
       "ZA,HAA,ZRA,LHA,ZHI,CHI,TODO LONG VOWEL SIGN,aE,aI,aO,aU,aOE,aUE,aANG,aBA,aPA,aQA,aGA",
       "aMA,aTA,aDA,aCHA,aJA,aTSA,aYA,aWA,aKA,aGAA,aHAA,aJIA,aNIA,aDZA,SIBE E,aI,aIY,aUE,aU",
       "aANG,aKA,aGA,aHA,aPA,aSHA,aTA,aDA,aJA,aFA,aGAA,aHAA,aTSA,aZA,aRAA,aCHA,aZHA,MANCHU I",
       "aKA,aRA,aFA,aZHA,CHA WITH TWO DOTS,,,,,,,,ALI GALI ANUSVARA ONE,bVISARGAa,bDAMARU",
       "bUBADAMA,bINVERTEDa,bBALUDA,bTHREEa,bA,bI,bKA,bNGA,bCA,bTTA,bTTHA,bDDA,bNNA,bTA,bDA,bPA",
       "bPHA,bSSA,bZHA,bZA,bAH,TODO ALI GALI TA,cZHA,MANCHU ALI GALI GHA,cNGA,cCA,cJHA,cTTA",
       "cDDHA,cTA,cDHA,cSSA,cCYA,cZHA,cZA,ALI GALI HALF U,cYA,MANCHU ALI GALI BHA",
       "ALI GALI DAGALGA,MANCHU ALI GALI LHA"]⟩,
    ⟨0x18B0, "CANADIAN SYLLABICS ",
      ["OY,AY,AAY,WAY,POY,PAY,PWOY,TAY,KAY,KWAY,MAY,NOY,NAY,LAY,SOY,SAY,SHOY,SHAY,SHWOY,YOY,YAY",
       "RAY,NWI,OJIBWAYa,NWII,OJIBWAYa,NWO,OJIBWAYa,NWOO,OJIBWAYa,RWEE,RWI,RWII,RWO,RWOO,RWA",
       "OJIBWAY P,aT,aK,aC,aM,aN,aS,aSH,EASTERN W,WESTERNa,FINAL SMALL RING,aRAISED DOT",
       "R-CREE RWE,WEST-CREE LOO,aLAA,THWE,THWA,TTHWE,TTHOO,TTHAA,TLHWE,TLHOO,SAYISI SHWE,aSHOO",
       "aHOO,CARRIER GWU,aDENE GEE,aGAA,aGWA,SAYISI JUU,CARRIER JWA,BEAVER DENE L,bR",
       "CARRIER DENTAL S"]⟩,
    ⟨0x1900, "LIMBU ",
      ["VOWEL-CARRIER LETTER,LETTER KA,aKHA,aGA,aGHA,aNGA,aCA,aCHA,aJA,aJHA,aYAN,aTA,aTHA,aDA",
       "aDHA,aNA,aPA,aPHA,aBA,aBHA,aMA,aYA,aRA,aLA,aWA,aSHA,aSSA,aSA,aHA,aGYAN,aTRA,",
       "VOWEL SIGN A,bI,bU,bEE,bAI,bOO,bAU,bE,bO,SUBJOINED LETTER YA,bRA,bWA,,,,",
       "SMALL LETTER KA,bNGA,bANUSVARA,bTA,bNA,bPA,bMA,bRA,bLA,SIGN MUKPHRENG,aKEMPHRENG,aSA-I,",
       ",,,aLOO,,,,EXCLAMATION MARK,QUESTIONa,DIGIT ZERO,aONE,aTWO,aTHREE,aFOUR,aFIVE,aSIX",
       "aSEVEN,aEIGHT,aNINE"]⟩,
    ⟨0x1950, "TAI LE LETTER ",
      ["KA,XA,NGA,TSA,SA,YA,TA,THA,LA,PA,PHA,MA,FA,VA,HA,QA,KHA,TSHA,NA,A,I,EE,EH,U,OO,O,UE,E",
       "AUE,AI,,,TONE-2,TONE-3,TONE-4,TONE-5,TONE-6"]⟩,
    ⟨0x1980, "NEW TAI LUE ",
      ["LETTER HIGH QA,aLOWa,aHIGH KA,bXA,bNGA,aLOW KA,bXA,bNGA,aHIGH TSA,bSA,bYA,aLOW TSA,bSA",
       "bYA,aHIGH TA,bTHA,bNA,aLOW TA,bTHA,bNA,aHIGH PA,bPHA,bMA,aLOW PA,bPHA,bMA,aHIGH FA,bVA",
       "bLA,aLOW FA,bVA,bLA,aHIGH HA,bDA,bBA,aLOW HA,bDA,bBA,aHIGH KVA,bXVA,aLOW KVA,bXVA",
       "aHIGH SUA,aLOWa,,,,,VOWEL SIGN VOWEL SHORTENER,bAA,bII,bU,bUU,bE,bAE,bO,bOA,bUE,bAY",
       "bAAY,bUY,bOY,bOAY,bUEY,bIY,LETTER FINAL V,bNG,bN,bM,bK,bD,bB,TONE MARK-1,aMARK-2,,,,,,",
       "DIGIT ZERO,aONE,aTWO,aTHREE,aFOUR,aFIVE,aSIX,aSEVEN,aEIGHT,aNINE,THAM DIGIT ONE,,,",
       "SIGN LAE,aLAEV"]⟩,
    ⟨0x19E0, "KHMER SYMBOL ",
      ["PATHAMASAT,MUOY KOET,PIIa,BEIa,BUONa,PRAMa,PRAM-MUOYa,PRAM-PIIa,PRAM-BEIa,PRAM-BUONa",
       "DAPa,DAP-MUOYa,DAP-PIIa,DAP-BEIa,DAP-BUONa,DAP-PRAMa,TUTEYASAT,MUOY ROC,PIIa,BEIa,BUONa",
       "PRAMa,PRAM-MUOYa,PRAM-PIIa,PRAM-BEIa,PRAM-BUONa,DAPa,DAP-MUOYa,DAP-PIIa,DAP-BEIa",
       "DAP-BUONa,DAP-PRAMa"]⟩,
    ⟨0x1A00, "BUGINESE ",
      ["LETTER KA,aGA,aNGA,aNGKA,aPA,aBA,aMA,aMPA,aTA,aDA,aNA,aNRA,aCA,aJA,aNYA,aNYCA,aYA,aRA",
       "aLA,aVA,aSA,aA,aHA,VOWEL SIGN I,bU,bE,bO,bAE,,,PALLAWA,END OF SECTION"]⟩,
    ⟨0x1A20, "TAI THAM LETTER ",
      ["HIGH KA,aKHA,aKXA,LOW KA,aKXA,aKHA,NGA,HIGH CA,aCHA,LOW CA,aSA,aCHA,NYA,RATA,HIGH RATHA",
       "DA,LOW RATHA,RANA,HIGH TA,aTHA,LOW TA,aTHA,NA,BA,HIGH PA,aPHA,aFA,LOW PA,aFA,aPHA,MA",
       "LOW YA,HIGHa,RA,RUE,LA,LUE,WA,HIGH SHA,aSSA,aSA,aHA,LLA,A,LOW HA,I,II,U,UU,EE,OO,LAE",
       "GREAT SA"]⟩,
    ⟨0x1A55, "TAI THAM ",
      ["CONSONANT SIGN MEDIAL RA,cLA,bLA TANG LAI,SIGN MAI KANGa,CONSONANT SIGN FINAL NGA",
       "bLOW PA,bHIGH RATHA ORb,bMA,bBA,bSA,,SIGN SAKOT,VOWEL SIGN A,bMAI SAT,bAA,bTALLa,bI,bII",
       "bUE,bUUE,bU,bUU,bO,bOA BELOW,bOY,bE,bAE,bOO,bAI,bTHAMa,bOA ABOVE,SIGN MAI KANG,aTONE-1",
       "aTONE-2,aKHUEN TONE-3,bTONE-4,bTONE-5,aRA HAAM,aMAI SAM,aKHUEN-LUE KARAN,,",
       "COMBINING CRYPTOGRAMMIC DOT,HORA DIGIT ZERO,bONE,bTWO,bTHREE,bFOUR,bFIVE,bSIX,bSEVEN",
       "bEIGHT,bNINE,,,,,,,THAM DIGIT ZERO,bONE,bTWO,bTHREE,bFOUR,bFIVE,bSIX,bSEVEN,bEIGHT",
       "bNINE,,,,,,,SIGN WIANG,aWIANGWAAK,aSAWAN,aKEOW,aHOY,aDOKMAI,aREVERSED ROTATED RANA",
       "aMAI YAMOK,aKAAN,aKAANKUU,aSATKAAN,aSATKAANKUU,aHANG,aCAANG"]⟩,
    ⟨0x1AB0, "COMBINING ",
      ["DOUBLED CIRCUMFLEX ACCENT,DIAERESIS-RING,INFINITY,DOWNWARDS ARROW,TRIPLE DOT,X-X BELOW",
       "WIGGLY LINEa,OPEN MARKa,DOUBLEc,LIGHT CENTRALIZATION STROKEa,STRONGc,PARENTHESES ABOVE",
       "DOUBLEb,PARENTHESES BELOW,aOVERLAY,LATIN SMALL LETTER W BELOW,cTURNEDb",
       "LEFT PARENTHESIS ABOVE LEFT,RIGHT PARENTHESIS ABOVE RIGHT,LEFT PARENTHESIS BELOW LEFT",
       "RIGHT PARENTHESIS BELOW RIGHT,SQUARE BRACKETS ABOVE,NUMBER SIGNa,INVERTED DOUBLE ARCHa",
       "PLUS SIGNa,DOUBLEc,cBELOW,TRIPLE ACUTE ACCENT,LATIN SMALL LETTER INSULAR G,dR,dT"]⟩,
    ⟨0x1B00, "BALINESE ",
      ["SIGN ULU RICEM,bCANDRA,aCECEK,aSURANG,aBISAH,LETTER AKARA,bTEDUNG,aIKARA,bTEDUNG,aUKARA",
       "bTEDUNG,aRA REPA,cTEDUNG,aLA LENGA,cTEDUNG,aEKARA,aAIKARA,aOKARA,bTEDUNG,aKA,bMAHAPRANA",
       "aGA,bGORA,aNGA,aCA,bLACA,aJA,bJERA,aNYA,aTA LATIK,bMURDA MAHAPRANA,aDA MURDA ALPAPRANA",
       "cMAHAPRANA,aNA RAMBAT,aTA,bTAWA,aDA,bMADU,aNA,aPA,bKAPAL,aBA,bKEMBANG,aMA,aYA,aRA,aLA",
       "aWA,aSA SAGA,bSAPA,b,aHA,SIGN REREKAN,VOWEL SIGN TEDUNG,bULU,cSARI,bSUKU,cILUT,bRA REPA",
       "dTEDUNG,bLA LENGA,dTEDUNG,bTALING,cREPA,cTEDUNG,cREPAa,bPEPET,cTEDUNG,ADEG ADEG",
       "LETTER KAF SASAK,aKHOTa,aTZIRa,aEFa,aVEa,aZALa,aASYURAa,aARCHAIC JNYA,,,,DIGIT ZERO",
       "aONE,aTWO,aTHREE,aFOUR,aFIVE,aSIX,aSEVEN,aEIGHT,aNINE,PANTI,PAMADA,WINDU",
       "CARIK PAMUNGKAH,aSIKI,aPAREREN,PAMENENG,MUSICAL SYMBOL DONG,bDENG,bDUNG,bDANG,cSURANG",
       "bDING,bDAENG,bDEUNG,bDAING,bDANG GEDE,bCOMBINING TEGEH,cENDEP,cKEMPUL,cKEMPLI,cJEGOGAN",
       "cKEMPUL WITHa,cKEMPLIb,cBENDE,cGONG,bRIGHT-HAND OPEN DUG,dDAG,cCLOSED TUK,dTAK",
       "bLEFT-HAND OPEN PANG,dPUNG,cCLOSED PLAK,dPLUK,cOPEN PING,PANTI LANTANG,PAMADAa"]⟩,
    ⟨0x1B80, "SUNDANESE ",
      ["SIGN PANYECEK,aPANGLAYAR,aPANGWISAD,LETTER A,aI,aU,aAE,aO,aE,aEU,aKA,aQA,aGA,aNGA,aCA",
       "aJA,aZA,aNYA,aTA,aDA,aNA,aPA,aFA,aVA,aBA,aMA,aYA,aRA,aLA,aWA,aSA,aXA,aHA",
       "CONSONANT SIGN PAMINGKAL,bPANYAKRA,bPANYIKU,VOWEL SIGN PANGHULU,bPANYUKU,bPANAELAENG",
       "bPANOLONG,bPAMEPET,bPANEULEUNG,SIGN PAMAAEH,aVIRAMA,CONSONANT SIGN PASANGAN MA,cWA",
       "LETTER KHA,aSYA,DIGIT ZERO,aONE,aTWO,aTHREE,aFOUR,aFIVE,aSIX,aSEVEN,aEIGHT,aNINE",
       "AVAGRAHA,LETTER REU,aLEU,aBHA,aFINAL K,bM"]⟩,
    ⟨0x1BC0, "BATAK LETTER ",
      ["A,SIMALUNGUNa,HA,SIMALUNGUNa,MANDAILINGa,BA,KAROa,PA,SIMALUNGUNa,NA,MANDAILINGa,WA",
       "SIMALUNGUNa,PAKPAKa,GA,SIMALUNGUNa,JA,DA,RA,SIMALUNGUNa,MA,SIMALUNGUNa,SOUTHERN TA",
       "NORTHERNa,SA,SIMALUNGUNa,MANDAILINGa,YA,SIMALUNGUNa,NGA,LA,SIMALUNGUNa,NYA,CA,NDA,MBA,I",
       "U"]⟩,
    ⟨0x1BE6, "BATAK ",
      ["SIGN TOMPI,VOWEL SIGN E,bPAKPAKa,bEE,bI,bKAROa,bO,bKAROa,bU,cFOR SIMALUNGUN SA",
       "CONSONANT SIGN NG,bH,PANGOLAT,PANONGONAN,,,,,,,,,SYMBOL BINDU NA METEK,bPINARBORAS",
       "bJUDUL,bPANGOLAT"]⟩,
    ⟨0x1C00, "LEPCHA LETTER ",
      ["KA,KLA,KHA,GA,GLA,NGA,CA,CHA,JA,NYA,TA,THA,DA,NA,PA,PLA,PHA,FA,FLA,BA,BLA,MA,MLA,TSA",
       "TSHA,DZA,YA,RA,LA,HA,HLA,VA,SA,SHA,WA,A"]⟩,
    ⟨0x1C24, "LEPCHA ",
      ["SUBJOINED LETTER YA,bRA,VOWEL SIGN AA,bI,bO,bOO,bU,bUU,bE,CONSONANT SIGN K,bM,bL,bN,bP",
       "bR,bT,bNYIN-DO,bKANG,SIGN RAN,aNUKTA,,,,PUNCTUATION TA-ROL,aNYET THYOOMa,aCER-WA",
       "aTSHOOKa,b,DIGIT ZERO,aONE,aTWO,aTHREE,aFOUR,aFIVE,aSIX,aSEVEN,aEIGHT,aNINE,,,",
       "LETTER TTA,aTTHA,aDDA"]⟩,
    ⟨0x1C50, "OL CHIKI ",
      ["DIGIT ZERO,aONE,aTWO,aTHREE,aFOUR,aFIVE,aSIX,aSEVEN,aEIGHT,aNINE,LETTER LA,aAT,aAG,aANG",
       "aAL,aLAA,aAAK,aAAJ,aAAM,aAAW,aLI,aIS,aIH,aINY,aIR,aLU,aUC,aUD,aUNN,aUY,aLE,aEP,aEDD,aEN",
       "aERR,aLO,aOTT,aOB,aOV,aOH,MU TTUDDAG,GAAHLAA TTUDDAAG,MU-GAAHLAAa,RELAA,PHAARKAA,AHAD",
       "PUNCTUATION MUCAAD,aDOUBLEa"]⟩,
    ⟨0x1C80, "CYRILLIC SMALL LETTER ",
      ["ROUNDED VE,LONG-LEGGED DE,NARROW O,WIDE ES,TALL TE,THREE-LEGGEDa,TALL HARD SIGN,aYAT",
       "UNBLENDED UK"]⟩,
    ⟨0x1C90, "GEORGIAN MTAVRULI CAPITAL LETTER ",
      ["AN,BAN,GAN,DON,EN,VIN,ZEN,TAN,IN,KAN,LAS,MAN,NAR,ON,PAR,ZHAR,RAE,SAN,TAR,UN,PHAR,KHAR",
       "GHAN,QAR,SHIN,CHIN,CAN,JIL,CIL,CHAR,XAN,JHAN,HAE,HE,HIE,WE,HAR,HOE,FI,YN,ELIFI",
       "TURNED GAN,AIN,,,AEN,HARD SIGN,LABIALa"]⟩,
    ⟨0x1CC0, "SUNDANESE PUNCTUATION BINDU ",
      ["SURYA,PANGLONG,PURNAMA,CAKRA,LEU SATANGA,KAa,DAa,BAa"]⟩,
    ⟨0x1CD0, "VEDIC ",
      ["TONE KARSHANA,aSHARA,aPRENKHA,SIGN NIHSHVASA,aYAJURVEDIC MIDLINE SVARITA",
       "TONE YAJURVEDIC AGGRAVATED INDEPENDENTa,bb,bKATHAKAb,aCANDRA BELOW",
       "aYAJURVEDIC KATHAKA INDEPENDENT SVARITA SCHROEDER,aDOUBLE SVARITA,aTRIPLEa",
       "aKATHAKA ANUDATTA,aDOT BELOW,aTWO DOTSa,aTHREEb,aRIGVEDIC KASHMIRI INDEPENDENT SVARITA",
       "aATHARVAVEDICb,SIGN VISARGAa,bUDATTA,aREVERSEDb,aVISARGA ANUDATTA,aREVERSEDb",
       "aVISARGA UDATTA WITH TAIL,bANUDATTAb,aANUSVARA ANTARGOMUKHA,bBAHIRGOMUKHA,bVAMAGOMUKHA",
       "cWITH TAIL,aTIRYAK,aHEXIFORM LONG ANUSVARA,ab,aRTHANGb,aANUSVARA UBHAYATO MUKHA",
       "aARDHAVISARGA,aROTATEDa,TONE CANDRA ABOVE,SIGN JIHVAMULIYA,aUPADHMANIYA,aATIKRAMA",
       "TONE RING ABOVE,aDOUBLEb,SIGN DOUBLE ANUSVARA ANTARGOMUKHA"]⟩,
    ⟨0x1D00, "LATIN ",
      ["LETTER SMALL CAPITAL A,cAE,SMALL LETTER TURNEDa,LETTER SMALL CAPITAL BARRED B,cC,cD",
       "cETH,cE,SMALL LETTER TURNED OPENa,cI,LETTER SMALL CAPITAL J,cK,cL WITH STROKE,cM",
       "cREVERSED N,cO,cOPENa,SMALL LETTER SIDEWAYSa,cOPENa,cO WITH STROKE,bTURNED OE",
       "LETTER SMALL CAPITAL OU,SMALL LETTER TOP HALF O,bBOTTOMb,LETTER SMALL CAPITAL P",
       "cREVERSED R,cTURNEDa,cT,cU,SMALL LETTER SIDEWAYSa,cDIAERESIZEDa,cTURNED M",
       "LETTER SMALL CAPITAL V,cW,cZ,cEZH,aVOICED LARYNGEAL SPIRANT,aAIN"]⟩,
    ⟨0x1D26, "GREEK LETTER SMALL CAPITAL ",
      ["GAMMA,LAMDA,PI,RHO,PSI"]⟩,
    ⟨0x1D2B, "CYRILLIC LETTER SMALL CAPITAL ",
      ["EL"]⟩,
    ⟨0x1D2C, "MODIFIER LETTER CAPITAL ",
      ["A,AE,B,BARREDa,D,E,REVERSEDa,G,H,I,J,K,L,M,N,REVERSEDa,O,OU,P,R,T,U,W"]⟩,
    ⟨0x1D43, "MODIFIER LETTER SMALL ",
      ["A,TURNEDa,ALPHA,TURNED AE,B,D,E,SCHWA,OPEN E,TURNEDb,G,TURNED I,K,M,ENG,O,OPENa",
       "TOP HALFa,BOTTOMb,P,T,U,SIDEWAYSa,TURNED M,V,AIN,BETA,GREEK GAMMA,DELTA,GREEK PHI,CHI"]⟩,
    ⟨0x1D62, "LATIN SUBSCRIPT SMALL LETTER ",
      ["I,R,U,V"]⟩,
    ⟨0x1D66, "GREEK SUBSCRIPT SMALL LETTER ",
      ["BETA,GAMMA,RHO,PHI,CHI"]⟩,
    ⟨0x1D6B, "LATIN SMALL LETTER ",
      ["UE,B WITH MIDDLE TILDE,Dc,Fc,Mc,Nc,Pc,Rc,bFISHHOOK ANDb,S WITHb,Tc,Zc,TURNED G"]⟩,
    ⟨0x1D78, "MODIFIER LETTER CYRILLIC ",
      ["EN"]⟩,
    ⟨0x1D79, "LATIN SMALL ",
      ["LETTER INSULAR G,aTH WITH STRIKETHROUGH,CAPITAL LETTER I WITH STROKE,LETTER IOTAb,aPb",
       "CAPITAL LETTER Ub,LETTER UPSILONb,aB WITH PALATAL HOOK,aDc,aFc,aGc,aKc,aLc,aMc,aNc,aPc",
       "aRc,aSc,aESHc,aVc,aXc,aZc,aA WITH RETROFLEXa,aALPHAc,aD WITH HOOK AND TAIL",
       "aE WITH RETROFLEX HOOK,aOPENd,aREVERSEDe,aSCHWAc,aIc,aOPEN Oc,aESHc,aUc,aEZHc"]⟩,
    ⟨0x1D9B, "MODIFIER LETTER SMALL ",
      ["TURNED ALPHA,C,aWITH CURL,ETH,REVERSED OPEN E,F,DOTLESS J WITH STROKE,SCRIPT G,TURNED H",
       "I WITH STROKE,IOTA,CAPITAL I,bWITH STROKE,J WITH CROSSED-TAIL,L WITH RETROFLEX HOOK",
       "bPALATALa,CAPITAL L,M WITH HOOK,TURNED M WITH LONG LEG,N WITH LEFT HOOK,bRETROFLEXa",
       "CAPITAL N,BARRED O,PHI,S WITH HOOK,ESH,T WITH PALATAL HOOK,U BAR,UPSILON,CAPITAL U",
       "V WITH HOOK,TURNED V,Z,aWITH RETROFLEX HOOK,bCURL,EZH,THETA"]⟩,
    ⟨0x1DC0, "COMBINING ",
      ["DOTTED GRAVE ACCENT,aACUTEa,SNAKE BELOW,SUSPENSION MARK,MACRON-ACUTE,GRAVE-MACRON",
       "MACRON-GRAVE,ACUTE-MACRON,GRAVE-ACUTE-GRAVE,ACUTE-GRAVE-ACUTE",
       "LATIN SMALL LETTER R BELOW,BREVE-MACRON,MACRON-BREVE,DOUBLE CIRCUMFLEX ABOVE,OGONEKa",
       "ZIGZAG BELOW,ISa,UR ABOVE,USa,LATIN SMALL LETTER FLATTENED OPEN Aa,cAE,cAO,cAV",
       "cC CEDILLA,cINSULAR D,cETH,cG,aLETTER SMALL CAPITALa,aSMALL LETTER K,cL",
       "aLETTER SMALL CAPITALa,dM,aSMALL LETTER N,aLETTER SMALL CAPITALa,dR",
       "aSMALL LETTER R ROTUNDA,cS,cLONGa,cZ,cALPHA,cB,cBETA,cSCHWA,cF",
       "cL WITH DOUBLE MIDDLE TILDE,cO WITH LIGHT CENTRALIZATION STROKE,cP,cESH",
       "cU WITH LIGHT CENTRALIZATION STROKE,cW,cA WITH DIAERESIS,cOb,cUb,UP TACK ABOVE",
       "KAVYKA ABOVE RIGHT,bLEFT,DOTb,WIDE INVERTED BRIDGE BELOW,DOT BELOW LEFT,DELETION MARK",
       "DOUBLE INVERTED BREVE BELOW,ALMOST EQUAL TOa,LEFT ARROWHEAD ABOVE",
       "RIGHT ARROWHEAD AND DOWN ARROWHEAD BELOW"]⟩,
    ⟨0x1E00, "LATIN ",
      ["CAPITAL LETTER A WITH RING BELOW,SMALLe,CAPITAL LETTER B WITH DOT ABOVE,SMALLe",
       "CAPITAL LETTER B WITH DOT BELOW,SMALLe,CAPITAL LETTER B WITH LINEa,SMALLe",
       "CAPITAL LETTER C WITH CEDILLA AND ACUTE,SMALLf,CAPITAL LETTER D WITH DOT ABOVE,SMALLe",
       "CAPITAL LETTER D WITH DOT BELOW,SMALLe,CAPITAL LETTER D WITH LINEa,SMALLe",
       "CAPITAL LETTER D WITH CEDILLA,SMALLd,CAPITAL LETTER D WITH CIRCUMFLEX BELOW,SMALLe",
       "CAPITAL LETTER E WITH MACRON AND GRAVE,SMALLf,CAPITAL LETTER E WITH MACRON AND ACUTE",
       "SMALLf,CAPITAL LETTER E WITH CIRCUMFLEX BELOW,SMALLe,CAPITAL LETTER E WITH TILDEa",
       "SMALLe,CAPITAL LETTER E WITH CEDILLA AND BREVE,SMALLf,CAPITAL LETTER F WITH DOT ABOVE",
       "SMALLe,CAPITAL LETTER G WITH MACRON,SMALLd,CAPITAL LETTER H WITH DOT ABOVE,SMALLe",
       "CAPITAL LETTER H WITH DOT BELOW,SMALLe,CAPITAL LETTER H WITH DIAERESIS,SMALLd",
       "CAPITAL LETTER H WITH CEDILLA,SMALLd,CAPITAL LETTER H WITH BREVE BELOW,SMALLe",
       "CAPITAL LETTER I WITH TILDEa,SMALLe,CAPITAL LETTER I WITH DIAERESIS AND ACUTE,SMALLf",
       "CAPITAL LETTER K WITHa,SMALLd,CAPITAL LETTER K WITH DOT BELOW,SMALLe",
       "CAPITAL LETTER K WITH LINEa,SMALLe,CAPITAL LETTER L WITH DOTa,SMALLe",
       "CAPITAL LETTER L WITH DOT BELOW AND MACRON,SMALLg,CAPITAL LETTER L WITH LINE BELOW",
       "SMALLe,CAPITAL LETTER L WITH CIRCUMFLEXa,SMALLe,CAPITAL LETTER M WITH ACUTE,SMALLd",
       "CAPITAL LETTER M WITH DOT ABOVE,SMALLe,CAPITAL LETTER M WITH DOT BELOW,SMALLe",
       "CAPITAL LETTER N WITH DOT ABOVE,SMALLe,CAPITAL LETTER N WITH DOT BELOW,SMALLe",
       "CAPITAL LETTER N WITH LINEa,SMALLe,CAPITAL LETTER N WITH CIRCUMFLEXa,SMALLe",
       "CAPITAL LETTER O WITH TILDE AND ACUTE,SMALLf,CAPITAL LETTER O WITH TILDE AND DIAERESIS",
       "SMALLf,CAPITAL LETTER O WITH MACRON AND GRAVE,SMALLf",
       "CAPITAL LETTER O WITH MACRON AND ACUTE,SMALLf,CAPITAL LETTER P WITHa,SMALLd",
       "CAPITAL LETTER P WITH DOT ABOVE,SMALLe,CAPITAL LETTER Rc,SMALLe",
       "CAPITAL LETTER R WITH DOT BELOW,SMALLe,CAPITAL LETTER R WITH DOT BELOW AND MACRON",
       "SMALLg,CAPITAL LETTER R WITH LINE BELOW,SMALLe,CAPITAL LETTER S WITH DOT ABOVE,SMALLe",
       "CAPITAL LETTER S WITH DOT BELOW,SMALLe,CAPITAL LETTER S WITH ACUTE AND DOT ABOVE,SMALLg",
       "CAPITAL LETTER S WITH CARONc,SMALLg,CAPITAL LETTER S WITH DOT BELOWc,SMALLh",
       "CAPITAL LETTER T WITHb,SMALLe,CAPITAL LETTER T WITH DOT BELOW,SMALLe",
       "CAPITAL LETTER T WITH LINEa,SMALLe,CAPITAL LETTER T WITH CIRCUMFLEXa,SMALLe",
       "CAPITAL LETTER U WITH DIAERESISa,SMALLe,CAPITAL LETTER U WITH TILDEa,SMALLe",
       "CAPITAL LETTER U WITH CIRCUMFLEXa,SMALLe,CAPITAL LETTER U WITH TILDE AND ACUTE,SMALLf",
       "CAPITAL LETTER U WITH MACRON AND DIAERESIS,SMALLf,CAPITAL LETTER V WITH TILDE,SMALLd",
       "CAPITAL LETTER V WITH DOT BELOW,SMALLe,CAPITAL LETTER W WITH GRAVE,SMALLd",
       "CAPITAL LETTER W WITH ACUTE,SMALLd,CAPITAL LETTER W WITH DIAERESIS,SMALLd",
       "CAPITAL LETTER W WITH DOT ABOVE,SMALLe,CAPITAL LETTER W WITH DOT BELOW,SMALLe",
       "CAPITAL LETTER X WITH DOT ABOVE,SMALLe,CAPITAL LETTER X WITH DIAERESIS,SMALLd",
       "CAPITAL LETTER Y WITH DOT ABOVE,SMALLe,CAPITAL LETTER Z WITH CIRCUMFLEX,SMALLd",
       "CAPITAL LETTER Z WITH DOT BELOW,SMALLe,CAPITAL LETTER Z WITH LINEa,SMALLe,bHc",
       "bT WITH DIAERESIS,bW WITH RING ABOVE,bYc,bA WITH RIGHT HALF RING,bLONG S WITH DOT ABOVE",
       "eDIAGONAL STROKE,eHIGHa,CAPITAL LETTER SHARP S,SMALL LETTER DELTA",
       "CAPITAL LETTER A WITH DOT BELOW,SMALLe,CAPITAL LETTER A WITH HOOK ABOVE,SMALLe",
       "CAPITAL LETTER A WITH CIRCUMFLEX AND ACUTE,SMALLf",
       "CAPITAL LETTER A WITH CIRCUMFLEX AND GRAVE,SMALLf",
       "CAPITAL LETTER A WITH CIRCUMFLEX AND HOOK ABOVE,SMALLg",
       "CAPITAL LETTER A WITH CIRCUMFLEX AND TILDE,SMALLf",
       "CAPITAL LETTER A WITH CIRCUMFLEX AND DOT BELOW,SMALLg",
       "CAPITAL LETTER A WITH BREVE AND ACUTE,SMALLf,CAPITAL LETTER A WITH BREVE AND GRAVE",
       "SMALLf,CAPITAL LETTER A WITH BREVE AND HOOK ABOVE,SMALLg",
       "CAPITAL LETTER A WITH BREVE AND TILDE,SMALLf,CAPITAL LETTER A WITH BREVE AND DOT BELOW",
       "SMALLg,CAPITAL LETTER E WITHb,SMALLe,CAPITAL LETTER E WITH HOOK ABOVE,SMALLe",
       "CAPITAL LETTER E WITH TILDE,SMALLd,CAPITAL LETTER E WITH CIRCUMFLEX AND ACUTE,SMALLf",
       "CAPITAL LETTER E WITH CIRCUMFLEX AND GRAVE,SMALLf",
       "CAPITAL LETTER E WITH CIRCUMFLEX AND HOOK ABOVE,SMALLg",
       "CAPITAL LETTER E WITH CIRCUMFLEX AND TILDE,SMALLf",
       "CAPITAL LETTER E WITH CIRCUMFLEX AND DOT BELOW,SMALLg,CAPITAL LETTER I WITH HOOK ABOVE",
       "SMALLe,CAPITAL LETTER I WITH DOT BELOW,SMALLe,CAPITAL LETTER Oc,SMALLe",
       "CAPITAL LETTER O WITH HOOK ABOVE,SMALLe,CAPITAL LETTER O WITH CIRCUMFLEX AND ACUTE",
       "SMALLf,CAPITAL LETTER O WITH CIRCUMFLEX AND GRAVE,SMALLf",
       "CAPITAL LETTER O WITH CIRCUMFLEX AND HOOK ABOVE,SMALLg",
       "CAPITAL LETTER O WITH CIRCUMFLEX AND TILDE,SMALLf",
       "CAPITAL LETTER O WITH CIRCUMFLEX AND DOT BELOW,SMALLg",
       "CAPITAL LETTER O WITH HORN AND ACUTE,SMALLf,CAPITAL LETTER O WITH HORN AND GRAVE,SMALLf",
       "CAPITAL LETTER O WITH HORN AND HOOK ABOVE,SMALLg,CAPITAL LETTER O WITH HORN AND TILDE",
       "SMALLf,CAPITAL LETTER O WITH HORN AND DOT BELOW,SMALLg,CAPITAL LETTER U WITHb,SMALLe",
       "CAPITAL LETTER U WITH HOOK ABOVE,SMALLe,CAPITAL LETTER U WITH HORN AND ACUTE,SMALLf",
       "CAPITAL LETTER U WITH HORN AND GRAVE,SMALLf,CAPITAL LETTER U WITH HORN AND HOOK ABOVE",
       "SMALLg,CAPITAL LETTER U WITH HORN AND TILDE,SMALLf",
       "CAPITAL LETTER U WITH HORN AND DOT BELOW,SMALLg,CAPITAL LETTER Y WITH GRAVE,SMALLd",
       "CAPITAL LETTER Y WITH DOT BELOW,SMALLe,CAPITAL LETTER Y WITH HOOK ABOVE,SMALLe",
       "CAPITAL LETTER Y WITH TILDE,SMALLd,CAPITAL LETTER MIDDLE-WELSH LL,SMALLc",
       "CAPITAL LETTER MIDDLE-WELSH V,SMALLc,CAPITAL LETTER Y WITH LOOP,SMALLd"]⟩,
    ⟨0x1F00, "GREEK ",
      ["SMALL LETTER ALPHA WITH PSILI,dDASIA,dPSILI AND VARIA,dDASIAb,dPSILI AND OXIA,dDASIAb",
       "dPSILI AND PERISPOMENI,dDASIAb,CAPITAL LETTER ALPHA WITH PSILI,dDASIA,dPSILI AND VARIA",
       "dDASIAb,dPSILI AND OXIA,dDASIAb,dPSILI AND PERISPOMENI,dDASIAb",
       "SMALL LETTER EPSILON WITH PSILI,dDASIA,dPSILI AND VARIA,dDASIAb,dPSILI AND OXIA,dDASIAb",
       ",,CAPITAL LETTER EPSILON WITH PSILI,dDASIA,dPSILI AND VARIA,dDASIAb,dPSILI AND OXIA",
       "dDASIAb,,,SMALL LETTER ETA WITH PSILI,dDASIA,dPSILI AND VARIA,dDASIAb,dPSILI AND OXIA",
       "dDASIAb,dPSILI AND PERISPOMENI,dDASIAb,CAPITAL LETTER ETA WITH PSILI,dDASIA",
       "dPSILI AND VARIA,dDASIAb,dPSILI AND OXIA,dDASIAb,dPSILI AND PERISPOMENI,dDASIAb",
       "SMALL LETTER IOTA WITH PSILI,dDASIA,dPSILI AND VARIA,dDASIAb,dPSILI AND OXIA,dDASIAb",
       "dPSILI AND PERISPOMENI,dDASIAb,CAPITAL LETTER IOTA WITH PSILI,dDASIA,dPSILI AND VARIA",
       "dDASIAb,dPSILI AND OXIA,dDASIAb,dPSILI AND PERISPOMENI,dDASIAb",
       "SMALL LETTER OMICRON WITH PSILI,dDASIA,dPSILI AND VARIA,dDASIAb,dPSILI AND OXIA,dDASIAb",
       ",,CAPITAL LETTER OMICRON WITH PSILI,dDASIA,dPSILI AND VARIA,dDASIAb,dPSILI AND OXIA",
       "dDASIAb,,,SMALL LETTER UPSILON WITH PSILI,dDASIA,dPSILI AND VARIA,dDASIAb",
       "dPSILI AND OXIA,dDASIAb,dPSILI AND PERISPOMENI,dDASIAb,",
       "CAPITAL LETTER UPSILON WITH DASIA,,eAND VARIA,,fOXIA,,fPERISPOMENI",
       "SMALL LETTER OMEGA WITH PSILI,dDASIA,dPSILI AND VARIA,dDASIAb,dPSILI AND OXIA,dDASIAb",
       "dPSILI AND PERISPOMENI,dDASIAb,CAPITAL LETTER OMEGA WITH PSILI,dDASIA,dPSILI AND VARIA",
       "dDASIAb,dPSILI AND OXIA,dDASIAb,dPSILI AND PERISPOMENI,dDASIAb",
       "SMALL LETTER ALPHA WITH VARIA,dOXIA,bEPSILON WITH VARIA,dOXIA,bETA WITH VARIA,dOXIA",
       "bIOTA WITH VARIA,dOXIA,bOMICRON WITH VARIA,dOXIA,bUPSILON WITH VARIA,dOXIA",
       "bOMEGA WITH VARIA,dOXIA,,,bALPHA WITH PSILI AND YPOGEGRAMMENI,dDASIAb,dPSILI AND VARIAb",
       "dDASIAd,dPSILI AND OXIAb,dDASIAd,dPSILI AND PERISPOMENIb,dDASIAd",
       "CAPITAL LETTER ALPHA WITH PSILI AND PROSGEGRAMMENI,dDASIAb,dPSILI AND VARIAb,dDASIAd",
       "dPSILI AND OXIAb,dDASIAd,dPSILI AND PERISPOMENIb,dDASIAd",
       "SMALL LETTER ETA WITH PSILI AND YPOGEGRAMMENI,dDASIAb,dPSILI AND VARIAb,dDASIAd",
       "dPSILI AND OXIAb,dDASIAd,dPSILI AND PERISPOMENIb,dDASIAd",
       "CAPITAL LETTER ETA WITH PSILI AND PROSGEGRAMMENI,dDASIAb,dPSILI AND VARIAb,dDASIAd",
       "dPSILI AND OXIAb,dDASIAd,dPSILI AND PERISPOMENIb,dDASIAd",
       "SMALL LETTER OMEGA WITH PSILI AND YPOGEGRAMMENI,dDASIAb,dPSILI AND VARIAb,dDASIAd",
       "dPSILI AND OXIAb,dDASIAd,dPSILI AND PERISPOMENIb,dDASIAd",
       "CAPITAL LETTER OMEGA WITH PSILI AND PROSGEGRAMMENI,dDASIAb,dPSILI AND VARIAb,dDASIAd",
       "dPSILI AND OXIAb,dDASIAd,dPSILI AND PERISPOMENIb,dDASIAd,SMALL LETTER ALPHA WITH VRACHY",
       "dMACRON,dVARIA AND YPOGEGRAMMENI,da,dOXIA ANDa,,dPERISPOMENI,eAND YPOGEGRAMMENI",
       "CAPITAL LETTER ALPHA WITH VRACHY,dMACRON,dVARIA,dOXIA,dPROSGEGRAMMENI,KORONIS",
       "PROSGEGRAMMENI,PSILI,PERISPOMENI,DIALYTIKA ANDa",
       "SMALL LETTER ETA WITH VARIA AND YPOGEGRAMMENI,da,dOXIA ANDa,,dPERISPOMENI",
       "eAND YPOGEGRAMMENI,CAPITAL LETTER EPSILON WITH VARIA,dOXIA,bETA WITH VARIA,dOXIA",
       "dPROSGEGRAMMENI,PSILI AND VARIA,bOXIA,bPERISPOMENI,SMALL LETTER IOTA WITH VRACHY",
       "dMACRON,dDIALYTIKA AND VARIA,fOXIA,,,dPERISPOMENI,dDIALYTIKA ANDa",
       "CAPITAL LETTER IOTA WITH VRACHY,dMACRON,dVARIA,dOXIA,,DASIA AND VARIA,bOXIA",
       "bPERISPOMENI,SMALL LETTER UPSILON WITH VRACHY,dMACRON,dDIALYTIKA AND VARIA,fOXIA",
       "bRHO WITH PSILI,dDASIA,bUPSILON WITH PERISPOMENI,dDIALYTIKA ANDa",
       "CAPITAL LETTER UPSILON WITH VRACHY,dMACRON,dVARIA,dOXIA,bRHO WITH DASIA",
       "DIALYTIKA AND VARIA,bOXIA,VARIA,,,SMALL LETTER OMEGA WITH VARIA AND YPOGEGRAMMENI,da",
       "dOXIA ANDa,,dPERISPOMENI,eAND YPOGEGRAMMENI,CAPITAL LETTER OMICRON WITH VARIA,dOXIA",
       "bOMEGA WITH VARIA,dOXIA,dPROSGEGRAMMENI,OXIA,DASIA"]⟩ ]

end LineTally.CharNames
