import LineTally.Charset.CharNames.Basic

namespace LineTally.CharNames

/-!
# Names of signs

The names of the characters from 0x2000 to 0x2FFF: punctuation, currencies,
arrows, mathematical and technical signs, shapes and dingbats.
-/

/-- The names of these characters, in their order. -/
def signs : List NameRun :=
  [ ⟨0x2000, "",
      ["EN QUAD,EMa,EN SPACE,EMa,THREE-PER-EMa,FOUR-PER-EMa,SIX-PER-EMa,FIGUREa,PUNCTUATIONa",
       "THINa,HAIRa,ZERO WIDTHa,bNON-JOINER,bJOINER,LEFT-TO-RIGHT MARK,RIGHT-TO-LEFTa,HYPHEN",
       "NON-BREAKINGa,FIGURE DASH,ENa,EMa,HORIZONTAL BAR,DOUBLE VERTICAL LINE,aLOWa",
       "LEFT SINGLE QUOTATION MARK,RIGHTc,SINGLE LOW-9b,aHIGH-REVERSED-9b,LEFT DOUBLEb,RIGHTc",
       "DOUBLE LOW-9b,aHIGH-REVERSED-9b,DAGGER,DOUBLEa,BULLET,TRIANGULARa,ONE DOT LEADER,TWOb",
       "HORIZONTAL ELLIPSIS,HYPHENATION POINT,LINE SEPARATOR,PARAGRAPHa,LEFT-TO-RIGHT EMBEDDING",
       "RIGHT-TO-LEFTa,POP DIRECTIONAL FORMATTING,LEFT-TO-RIGHT OVERRIDE,RIGHT-TO-LEFTa",
       "NARROW NO-BREAK SPACE,PER MILLE SIGN,aTEN THOUSANDa,PRIME,DOUBLEa,TRIPLEa,REVERSEDa",
       "aDOUBLEa,aTRIPLEa,CARET,SINGLE LEFT-POINTING ANGLE QUOTATION MARK,aRIGHT-POINTINGc",
       "REFERENCEa,DOUBLE EXCLAMATIONa,INTERROBANG,OVERLINE,UNDERTIE,CHARACTER TIE",
       "CARET INSERTION POINT,ASTERISM,HYPHEN BULLET,FRACTION SLASH",
       "LEFT SQUARE BRACKET WITH QUILL,RIGHTd,DOUBLE QUESTION MARK,QUESTION EXCLAMATIONa",
       "EXCLAMATION QUESTIONa,TIRONIAN SIGN ET,REVERSED PILCROW SIGN,BLACK LEFTWARDS BULLET",
       "aRIGHTWARDSa,LOW ASTERISK,REVERSED SEMICOLON,CLOSE UP,TWO ASTERISKS ALIGNED VERTICALLY",
       "COMMERCIAL MINUS SIGN,SWUNG DASH,INVERTED UNDERTIE,FLOWER PUNCTUATION MARK",
       "THREE DOT PUNCTUATION,QUADRUPLE PRIME,FOUR DOT PUNCTUATION,FIVEb,TWOb,FOUR DOT MARK",
       "DOTTED CROSS,TRICOLON,VERTICAL FOUR DOTS,MEDIUM MATHEMATICAL SPACE,WORD JOINER",
       "FUNCTION APPLICATION,INVISIBLE TIMES,aSEPARATOR,aPLUS,,LEFT-TO-RIGHT ISOLATE",
       "RIGHT-TO-LEFTa,FIRST STRONGa,POP DIRECTIONALa,INHIBIT SYMMETRIC SWAPPING,ACTIVATEb",
       "INHIBIT ARABIC FORM SHAPING,ACTIVATEc,NATIONAL DIGIT SHAPES,NOMINALb"]⟩,
    ⟨0x2070, "SUPERSCRIPT ",
      ["ZERO,LATIN SMALL LETTER I,,,FOUR,FIVE,SIX,SEVEN,EIGHT,NINE,PLUS SIGN,MINUS,EQUALS SIGN",
       "LEFT PARENTHESIS,RIGHTa,LATIN SMALL LETTER N"]⟩,
    ⟨0x2080, "SUBSCRIPT ",
      ["ZERO,ONE,TWO,THREE,FOUR,FIVE,SIX,SEVEN,EIGHT,NINE,PLUS SIGN,MINUS,EQUALS SIGN",
       "LEFT PARENTHESIS,RIGHTa"]⟩,
    ⟨0x2090, "LATIN SUBSCRIPT SMALL LETTER ",
      ["A,E,O,X,SCHWA,H,K,L,M,N,P,S,T"]⟩,
    ⟨0x20A0, "",
      ["EURO-CURRENCY SIGN,COLONa,CRUZEIROa,FRENCH FRANCa,LIRAa,MILLa,NAIRAa,PESETAa,RUPEEa",
       "WONa,NEW SHEQELa,DONGa,EUROa,KIPa,TUGRIKa,DRACHMAa,GERMAN PENNYa,PESOa,GUARANIa",
       "AUSTRALa,HRYVNIAa,CEDIa,LIVRE TOURNOISa,SPESMILOa,TENGEa,INDIAN RUPEEa,TURKISH LIRAa",
       "NORDIC MARKa,MANATa,RUBLEa,LARIa,BITCOINa,SOMa"]⟩,
    ⟨0x20D0, "COMBINING ",
      ["LEFT HARPOON ABOVE,RIGHTb,LONG VERTICAL LINE OVERLAY,SHORTc,ANTICLOCKWISE ARROW ABOVE",
       "CLOCKWISEb,LEFTb,RIGHTb,RING OVERLAY,CLOCKWISEb,ANTICLOCKWISEb,THREE DOTS ABOVE,FOURb",
       "ENCLOSING CIRCLE,aSQUARE,aDIAMOND,aCIRCLE BACKSLASH,LEFT RIGHT ARROW ABOVE",
       "ENCLOSING SCREEN,aKEYCAP,aUPWARD POINTING TRIANGLE,REVERSE SOLIDUS OVERLAY",
       "DOUBLE VERTICAL STROKEa,ANNUITY SYMBOL,TRIPLE UNDERDOT,WIDE BRIDGE ABOVE",
       "LEFTWARDS ARROW OVERLAY,LONG DOUBLE SOLIDUSa,RIGHTWARDS HARPOON WITH BARB DOWNWARDS",
       "LEFTWARDSd,LEFT ARROW BELOW,RIGHTb,ASTERISK ABOVE"]⟩,
    ⟨0x2100, "",
      ["ACCOUNT OF,ADDRESSED TO THE SUBJECT,DOUBLE-STRUCK CAPITAL C,DEGREE CELSIUS",
       "CENTRE LINE SYMBOL,CARE OF,CADA UNA,EULER CONSTANT,SCRUPLE,DEGREE FAHRENHEIT",
       "SCRIPT SMALL G,aCAPITAL H,BLACK-LETTERb,DOUBLE-STRUCKb,PLANCK CONSTANT,bOVER TWO PI",
       "SCRIPT CAPITAL I,BLACK-LETTERb,SCRIPT CAPITAL L,aSMALLa,L B BAR SYMBOL",
       "DOUBLE-STRUCK CAPITAL N,NUMERO SIGN,SOUND RECORDING COPYRIGHT,SCRIPT CAPITAL P",
       "DOUBLE-STRUCKb,bQ,SCRIPT CAPITAL R,BLACK-LETTERb,DOUBLE-STRUCKb,PRESCRIPTION TAKE",
       "RESPONSE,SERVICE MARK,TELEPHONE SIGN,TRADE MARKa,VERSICLE,DOUBLE-STRUCK CAPITAL Z",
       "OUNCE SIGN,OHMa,INVERTEDb,BLACK-LETTER CAPITAL Z,TURNED GREEK SMALL LETTER IOTA",
       "KELVIN SIGN,ANGSTROMa,SCRIPT CAPITAL B,BLACK-LETTER CAPITAL C,ESTIMATED SYMBOL",
       "SCRIPT SMALL E,aCAPITALa,bF,TURNEDb,SCRIPT CAPITAL M,aSMALL O,ALEF SYMBOL,BETa,GIMELa",
       "DALETa,INFORMATION SOURCE,ROTATED CAPITAL Q,FACSIMILE SIGN,DOUBLE-STRUCK SMALL PI",
       "bGAMMA,aCAPITALa,bPI,aN-ARY SUMMATION,TURNED SANS-SERIF CAPITAL G,cL,REVERSEDc",
       "TURNED SANS-SERIF CAPITAL Y,DOUBLE-STRUCK ITALIC CAPITAL D,bSMALLa,cE,cI,cJ",
       "PROPERTY LINE,TURNED AMPERSAND,PER SIGN,AKTIESELSKAB,TURNED SMALL F",
       "SYMBOL FOR SAMARITAN SOURCE"]⟩,
    ⟨0x2150, "VULGAR FRACTION ",
      ["ONE SEVENTH,aNINTH,aTENTH,aTHIRD,TWO THIRDS,ONE FIFTH,TWO FIFTHS,THREEa,FOURa,ONE SIXTH",
       "FIVE SIXTHS,ONE EIGHTH,THREE EIGHTHS,FIVEa,SEVENa"]⟩,
    ⟨0x215F, "FRACTION NUMERATOR ",
      ["ONE"]⟩,
    ⟨0x2160, "ROMAN NUMERAL ",
      ["ONE,TWO,THREE,FOUR,FIVE,SIX,SEVEN,EIGHT,NINE,TEN,ELEVEN,TWELVE,FIFTY,ONE HUNDRED,FIVEa",
       "ONE THOUSAND"]⟩,
    ⟨0x2170, "SMALL ROMAN NUMERAL ",
      ["ONE,TWO,THREE,FOUR,FIVE,SIX,SEVEN,EIGHT,NINE,TEN,ELEVEN,TWELVE,FIFTY,ONE HUNDRED,FIVEa",
       "ONE THOUSAND"]⟩,
    ⟨0x2180, "ROMAN NUMERAL ",
      ["ONE THOUSAND C D,FIVE THOUSAND,TENa,REVERSED ONE HUNDRED"]⟩,
    ⟨0x2184, "LATIN SMALL LETTER REVERSED ",
      ["C"]⟩,
    ⟨0x2185, "ROMAN NUMERAL ",
      ["SIX LATE FORM,FIFTY EARLYa,aTHOUSAND,ONE HUNDREDa"]⟩,
    ⟨0x2189, "",
      ["VULGAR FRACTION ZERO THIRDS,TURNED DIGIT TWO,bTHREE,,,,,LEFTWARDS ARROW,UPWARDSa",
       "RIGHTWARDSa,DOWNWARDSa,LEFT RIGHTa,UP DOWNa,NORTH WESTa,aEASTa,SOUTHb,aWESTa",
       "LEFTWARDS ARROW WITH STROKE,RIGHTWARDSc,LEFTWARDS WAVE ARROW,RIGHTWARDSb",
       "LEFTWARDS TWO HEADEDa,UPWARDSc,RIGHTWARDSc,DOWNWARDSc,LEFTWARDS ARROW WITH TAIL",
       "RIGHTWARDSc,LEFTWARDS ARROW FROM BAR,UPWARDSc,RIGHTWARDSc,DOWNWARDSc",
       "UP DOWN ARROW WITH BASE,LEFTWARDS ARROW WITH HOOK,RIGHTWARDSc,LEFTWARDS ARROW WITH LOOP",
       "RIGHTWARDSc,LEFT RIGHT WAVE ARROW,bARROW WITH STROKE,DOWNWARDS ZIGZAG ARROW",
       "UPWARDS ARROW WITH TIP LEFTWARDS,dRIGHTWARDS,DOWNWARDS ARROW WITH TIP LEFTWARDS",
       "dRIGHTWARDS,RIGHTWARDS ARROW WITH CORNER DOWNWARDS",
       "DOWNWARDS ARROW WITH CORNER LEFTWARDS,ANTICLOCKWISE TOP SEMICIRCLE ARROW,CLOCKWISEc",
       "NORTH WEST ARROW TO LONG BAR,LEFTWARDS ARROW TO BAR OVER RIGHTWARDS ARROW TOa",
       "ANTICLOCKWISE OPEN CIRCLE ARROW,CLOCKWISEc,LEFTWARDS HARPOON WITH BARB UPWARDS",
       "dDOWNWARDS,UPWARDS HARPOON WITH BARB RIGHTWARDS,dLEFTWARDS",
       "RIGHTWARDS HARPOON WITH BARB UPWARDS,dDOWNWARDS,DOWNWARDS HARPOON WITH BARB RIGHTWARDS",
       "dLEFTWARDS,RIGHTWARDS ARROW OVER LEFTWARDS ARROW,UPWARDS ARROW LEFTWARDS OF DOWNWARDSa",
       "LEFTWARDS ARROW OVER RIGHTWARDSa,aPAIRED ARROWS,UPWARDSb,RIGHTWARDSb,DOWNWARDSb",
       "LEFTWARDS HARPOON OVER RIGHTWARDS HARPOON,RIGHTWARDS HARPOON OVER LEFTWARDSa",
       "LEFTWARDS DOUBLE ARROW WITH STROKE,LEFT RIGHTd,RIGHTWARDSd,LEFTWARDS DOUBLE ARROW",
       "UPWARDSb,RIGHTWARDSb,DOWNWARDSb,LEFT RIGHTb,UP DOWNb,NORTH WESTb,aEASTb,SOUTHc,aWESTb",
       "LEFTWARDS TRIPLEa,RIGHTWARDSb,LEFTWARDS SQUIGGLEa,RIGHTWARDSb",
       "UPWARDS ARROW WITH DOUBLE STROKE,DOWNWARDSd,LEFTWARDS DASHED ARROW,UPWARDSb,RIGHTWARDSb",
       "DOWNWARDSb,LEFTWARDS ARROW TO BAR,RIGHTWARDSc,LEFTWARDS WHITE ARROW,UPWARDSb",
       "RIGHTWARDSb,DOWNWARDSb"]⟩,
    ⟨0x21EA, "UPWARDS WHITE ",
      ["ARROW FROM BAR,aON PEDESTAL,cWITH HORIZONTAL BAR,dVERTICALa,DOUBLE ARROW,bON PEDESTAL"]⟩,
    ⟨0x21F0, "",
      ["RIGHTWARDS WHITE ARROW FROM WALL,NORTH WEST ARROW TO CORNER,SOUTH EASTc",
       "UP DOWN WHITE ARROW,RIGHT ARROW WITH SMALL CIRCLE",
       "DOWNWARDS ARROW LEFTWARDS OF UPWARDS ARROW,THREE RIGHTWARDS ARROWS",
       "LEFTWARDS ARROW WITH VERTICAL STROKE,RIGHTWARDSd,LEFT RIGHTd",
       "LEFTWARDS ARROW WITH DOUBLEb,RIGHTWARDSe,LEFT RIGHTe,LEFTWARDS OPEN-HEADED ARROW",
       "RIGHTWARDSb,LEFT RIGHTb,FOR ALL,COMPLEMENT,PARTIAL DIFFERENTIAL,THERE EXISTS",
       "aDOES NOT EXIST,EMPTY SET,INCREMENT,NABLA,ELEMENT OF,NOT ANb,SMALLb,CONTAINS AS MEMBER",
       "DOES NOT CONTAINb,SMALL CONTAINSb,END OF PROOF,N-ARY PRODUCT,aCOPRODUCT,aSUMMATION",
       "MINUS SIGN,MINUS-OR-PLUSa,DOT PLUS,DIVISION SLASH,SET MINUS,ASTERISK OPERATOR,RINGa",
       "BULLETa,SQUARE ROOT,CUBEa,FOURTHa,PROPORTIONAL TO,INFINITY,RIGHT ANGLE,ANGLE,MEASUREDa",
       "SPHERICALa,DIVIDES,DOES NOT DIVIDE,PARALLEL TO,NOTb,LOGICAL AND,aOR,INTERSECTION,UNION",
       "INTEGRAL,DOUBLEa,TRIPLEa,CONTOURa,SURFACEa,VOLUMEa,CLOCKWISEa,aCONTOURa,ANTICLOCKWISEb",
       "THEREFORE,BECAUSE,RATIO,PROPORTION,DOT MINUS,EXCESS,GEOMETRIC PROPORTION,HOMOTHETIC",
       "TILDE OPERATOR,REVERSED TILDE,INVERTED LAZY S,SINE WAVE,WREATH PRODUCT,NOT TILDE,MINUSa",
       "ASYMPTOTICALLY EQUAL TO,NOTc,APPROXIMATELYb,aBUT NOT ACTUALLYb",
       "NEITHER APPROXIMATELY NORc,ALMOSTb,NOTc,ALMOST EQUAL ORb,TRIPLE TILDE,ALL EQUAL TO",
       "EQUIVALENTa,GEOMETRICALLYb,DIFFERENCE BETWEEN,APPROACHES THE LIMIT",
       "GEOMETRICALLY EQUAL TO,APPROXIMATELY EQUAL TO OR THE IMAGE OF",
       "IMAGE OF OR APPROXIMATELY EQUAL TO,COLON EQUALS,EQUALS COLON,RING IN EQUAL TO,ab",
       "CORRESPONDSa,ESTIMATES,EQUIANGULAR TO,STAR EQUALS,DELTA EQUAL TO,EQUAL TO BY DEFINITION",
       "MEASURED BY,QUESTIONED EQUAL TO,NOTb,IDENTICALa,NOTb,STRICTLY EQUIVALENTa",
       "LESS-THAN OR EQUALa,GREATER-THANc,LESS-THAN OVERb,GREATER-THANc,LESS-THAN BUT NOTb",
       "GREATER-THANd,MUCH LESS-THAN,aGREATER-THAN,BETWEEN,NOT EQUIVALENT TO,aLESS-THAN",
       "aGREATER-THAN,NEITHER LESS-THAN NOR EQUAL TO,aGREATER-THANc,LESS-THAN OR EQUIVALENTa",
       "GREATER-THANc,NEITHER LESS-THAN NORb,aGREATER-THANc,LESS-THAN OR GREATER-THAN",
       "GREATER-THAN OR LESS-THAN,NEITHER LESS-THAN NOR GREATER-THAN",
       "aGREATER-THAN NOR LESS-THAN,PRECEDES,SUCCEEDS,PRECEDES OR EQUAL TO,SUCCEEDSc",
       "PRECEDES OR EQUIVALENTa,SUCCEEDSc,DOES NOT PRECEDE,bSUCCEED,SUBSET OF,SUPERSETa",
       "NOT A SUBSETa,bSUPERSETa,SUBSET OF OR EQUAL TO,SUPERSETd,NEITHER A SUBSET OF NORb",
       "bSUPERSETd,SUBSET OF WITH NOTb,SUPERSETe,MULTISET,aMULTIPLICATION,aUNION"]⟩,
    ⟨0x228F, "SQUARE ",
      ["IMAGE OF,ORIGINALa,IMAGE OF OR EQUAL TO,ORIGINALd,CAP,CUP"]⟩,
    ⟨0x2295, "CIRCLED ",
      ["PLUS,MINUS,TIMES,DIVISION SLASH,DOT OPERATOR,RINGa,ASTERISKa,EQUALS,DASH"]⟩,
    ⟨0x229E, "SQUARED ",
      ["PLUS,MINUS,TIMES,DOT OPERATOR"]⟩,
    ⟨0x22A2, "",
      ["RIGHT TACK,LEFTa,DOWNa,UPa,ASSERTION,MODELS,TRUE,FORCES",
       "TRIPLE VERTICAL BAR RIGHT TURNSTILE,DOUBLE VERTICAL BAR DOUBLEb,DOES NOT PROVE,NOT TRUE",
       "DOES NOT FORCE,NEGATED DOUBLE VERTICAL BAR DOUBLE RIGHT TURNSTILE",
       "PRECEDES UNDER RELATION,SUCCEEDSb,NORMAL SUBGROUP OF,CONTAINS AS NORMAL SUBGROUP",
       "NORMAL SUBGROUP OF OR EQUAL TO,CONTAINS AS NORMAL SUBGROUPc,ORIGINAL OF,IMAGEa,MULTIMAP",
       "HERMITIAN CONJUGATE MATRIX,INTERCALATE,XOR,NAND,NOR,RIGHT ANGLE WITH ARC,aTRIANGLE",
       "N-ARY LOGICAL AND,bOR,aINTERSECTION,aUNION,DIAMOND OPERATOR,DOTa,STARa,DIVISION TIMES",
       "BOWTIE,LEFT NORMAL FACTOR SEMIDIRECT PRODUCT,RIGHTd,LEFTb,RIGHTb,REVERSED TILDE EQUALS",
       "CURLY LOGICAL OR,bAND,DOUBLE SUBSET,aSUPERSET,aINTERSECTION,aUNION,PITCHFORK",
       "EQUAL AND PARALLEL TO,LESS-THAN WITH DOT,GREATER-THANb,VERY MUCH LESS-THAN",
       "bGREATER-THAN,LESS-THAN EQUAL TO ORa,GREATER-THAN EQUAL TO OR LESS-THAN",
       "EQUAL TO OR LESS-THAN,cGREATER-THAN,cPRECEDES,cSUCCEEDS,DOES NOT PRECEDE OR EQUAL",
       "bSUCCEEDb,NOT SQUARE IMAGE OF OR EQUAL TO,bORIGINALd,SQUARE IMAGE OF OR NOTb,aORIGINALe",
       "LESS-THAN BUT NOT EQUIVALENTa,GREATER-THANd,PRECEDESd,SUCCEEDSd,NOT NORMAL SUBGROUP OF",
       "DOES NOT CONTAIN AS NORMAL SUBGROUP,NOT NORMAL SUBGROUP OF OR EQUAL TO",
       "DOES NOT CONTAIN AS NORMAL SUBGROUP OR EQUAL,VERTICAL ELLIPSIS,MIDLINE HORIZONTALa",
       "UP RIGHT DIAGONALa,DOWNc,ELEMENT OF WITH LONG HORIZONTAL STROKE",
       "cVERTICAL BAR AT END OFb,SMALLj,ELEMENT OF WITH DOT ABOVE,cOVERBAR,SMALLd",
       "ELEMENT OF WITH UNDERBAR,cTWO HORIZONTAL STROKES,CONTAINS WITH LONG HORIZONTAL STROKE",
       "bVERTICAL BAR AT END OFb,SMALLi,CONTAINS WITH OVERBAR,SMALLc,Z NOTATION BAG MEMBERSHIP",
       "DIAMETER SIGN,ELECTRIC ARROW,HOUSE,UP ARROWHEAD,DOWNa,PROJECTIVE,PERSPECTIVE,WAVY LINE",
       "LEFT CEILING,RIGHTa,LEFT FLOOR,RIGHTa,BOTTOM RIGHT CROP,aLEFTa,TOP RIGHTa,aLEFTa",
       "REVERSED NOT SIGN,SQUARE LOZENGE,ARC,SEGMENT,SECTOR,TELEPHONE RECORDER",
       "POSITION INDICATOR,VIEWDATA SQUARE,PLACE OF INTEREST SIGN,TURNED NOTa,WATCH,HOURGLASS",
       "TOP LEFT CORNER,aRIGHTa,BOTTOM LEFTa,aRIGHTa,TOP HALF INTEGRAL,BOTTOMb,FROWN,SMILE",
       "UP ARROWHEAD BETWEEN TWO HORIZONTAL BARS,OPTION KEY,ERASE TO THE RIGHT",
       "X IN A RECTANGLE BOX,KEYBOARD,LEFT-POINTING ANGLE BRACKET,RIGHT-POINTINGb",
       "ERASE TO THE LEFT,BENZENE RING,CYLINDRICITY,ALL AROUND-PROFILE,SYMMETRY,TOTAL RUNOUT",
       "DIMENSION ORIGIN,CONICAL TAPER,SLOPE,COUNTERBORE,COUNTERSINK"]⟩,
    ⟨0x2336, "APL FUNCTIONAL SYMBOL ",
      ["I-BEAM,SQUISH QUAD,QUAD EQUAL,aDIVIDE,aDIAMOND,aJOT,aCIRCLE,CIRCLE STILE,aJOT,SLASH BAR",
       "BACKSLASHa,QUAD SLASH,aBACKSLASH,aLESS-THAN,aGREATER-THAN,LEFTWARDS VANE,RIGHTWARDSa",
       "QUAD LEFTWARDS ARROW,aRIGHTWARDSa,CIRCLE BACKSLASH,DOWN TACK UNDERBAR,DELTA STILE",
       "QUAD DOWN CARET,aDELTA,DOWN TACK JOT,UPWARDS VANE,QUAD UPWARDS ARROW,UP TACK OVERBAR",
       "DEL STILE,QUAD UP CARET,aDEL,UP TACK JOT,DOWNWARDS VANE,QUAD DOWNWARDS ARROW",
       "QUOTE UNDERBAR,DELTAa,DIAMONDa,JOTa,CIRCLEa,UP SHOE JOT,QUOTE QUAD,CIRCLE STAR",
       "QUAD COLON,UP TACK DIAERESIS,DELa,STARa,JOTa,CIRCLEa,DOWN SHOE STILE,LEFTb",
       "TILDE DIAERESIS,GREATER-THANa,COMMA BAR,DEL TILDE,ZILDE,STILE TILDE,SEMICOLON UNDERBAR",
       "QUAD NOT EQUAL,aQUESTION,DOWN CARET TILDE,UPb,IOTA,RHO,OMEGA,ALPHA UNDERBAR,EPSILONa",
       "IOTAa,OMEGAa,ALPHA"]⟩,
    ⟨0x237B, "",
      ["NOT CHECK MARK,RIGHT ANGLE WITH DOWNWARDS ZIGZAG ARROW,SHOULDERED OPEN BOX,BELL SYMBOL",
       "VERTICAL LINE WITH MIDDLE DOT,INSERTION SYMBOL,CONTINUOUS UNDERLINEa,DISCONTINUOUSb",
       "EMPHASISa,COMPOSITIONa,WHITE SQUARE WITH CENTRE VERTICAL LINE,ENTER SYMBOL",
       "ALTERNATIVE KEYa,HELMa,CIRCLED HORIZONTAL BAR WITH NOTCH,aTRIANGLE DOWN",
       "BROKEN CIRCLE WITH NORTHWEST ARROW,UNDO SYMBOL,MONOSTABLEa,HYSTERESISa",
       "OPEN-CIRCUIT-OUTPUT H-TYPEa,aL-TYPEa,PASSIVE-PULL-DOWN-OUTPUTa,PASSIVE-PULL-UP-OUTPUTa",
       "DIRECT CURRENT SYMBOL FORM TWO,SOFTWARE-FUNCTION SYMBOL,APL FUNCTIONAL SYMBOL QUAD",
       "DECIMAL SEPARATOR KEY SYMBOL,PREVIOUS PAGE,NEXTa,PRINT SCREEN SYMBOL,CLEARb"]⟩,
    ⟨0x239B, "LEFT PARENTHESIS ",
      ["UPPER HOOK,EXTENSION,LOWER HOOK"]⟩,
    ⟨0x239E, "RIGHT PARENTHESIS ",
      ["UPPER HOOK,EXTENSION,LOWER HOOK"]⟩,
    ⟨0x23A1, "LEFT SQUARE BRACKET ",
      ["UPPER CORNER,EXTENSION,LOWER CORNER"]⟩,
    ⟨0x23A4, "RIGHT SQUARE BRACKET ",
      ["UPPER CORNER,EXTENSION,LOWER CORNER"]⟩,
    ⟨0x23A7, "LEFT CURLY BRACKET ",
      ["UPPER HOOK,MIDDLE PIECE,LOWER HOOK"]⟩,
    ⟨0x23AA, "CURLY BRACKET ",
      ["EXTENSION"]⟩,
    ⟨0x23AB, "RIGHT CURLY BRACKET ",
      ["UPPER HOOK,MIDDLE PIECE,LOWER HOOK"]⟩,
    ⟨0x23AE, "",
      ["INTEGRAL EXTENSION,HORIZONTAL LINEa,UPPER LEFT OR LOWER RIGHT CURLY BRACKET SECTION",
       "aRIGHT OR LOWER LEFTc,SUMMATION TOP,aBOTTOM,TOP SQUARE BRACKET,BOTTOMb",
       "cOVER TOP SQUARE BRACKET,RADICAL SYMBOL BOTTOM,LEFT VERTICAL BOX LINE,RIGHTc"]⟩,
    ⟨0x23BA, "HORIZONTAL SCAN ",
      ["LINE-1,LINE-3,LINE-7,LINE-9"]⟩,
    ⟨0x23BE, "DENTISTRY SYMBOL LIGHT ",
      ["VERTICAL AND TOP RIGHT,bBOTTOMa,aWITH CIRCLE,DOWN AND HORIZONTALb,UPd",
       "VERTICAL WITH TRIANGLE,DOWN AND HORIZONTALb,UPd,VERTICAL AND WAVE",
       "DOWN AND HORIZONTAL WITHa,UPd,DOWN AND HORIZONTAL,UPb,VERTICAL AND TOP LEFT,bBOTTOMa"]⟩,
    ⟨0x23CD, "",
      ["SQUARE FOOT,RETURN SYMBOL,EJECTa,VERTICAL LINE EXTENSION"]⟩,
    ⟨0x23D1, "METRICAL ",
      ["BREVE,LONG OVER SHORT,SHORT OVER LONG,LONG OVER TWO SHORTS,TWO SHORTS OVER LONG,bJOINED",
       "TRISEME,TETRASEME,PENTASEME"]⟩,
    ⟨0x23DA, "",
      ["EARTH GROUND,FUSE,TOP PARENTHESIS,BOTTOMa,TOP CURLY BRACKET,BOTTOMb,TOP TORTOISE SHELLa",
       "BOTTOMc,WHITE TRAPEZIUM,BENZENE RING WITH CIRCLE,STRAIGHTNESS,FLATNESS,AC CURRENT",
       "ELECTRICAL INTERSECTION,DECIMAL EXPONENT SYMBOL"]⟩,
    ⟨0x23E9, "BLACK ",
      ["RIGHT-POINTING DOUBLE TRIANGLE,LEFT-POINTINGb,UP-POINTINGb,DOWN-POINTINGb",
       "RIGHT-POINTING DOUBLE TRIANGLE WITH VERTICAL BAR,LEFT-POINTINGe",
       "RIGHT-POINTING TRIANGLE WITH DOUBLEb"]⟩,
    ⟨0x23F0, "",
      ["ALARM CLOCK,STOPWATCH,TIMER CLOCK,HOURGLASS WITH FLOWING SAND"]⟩,
    ⟨0x23F4, "BLACK MEDIUM ",
      ["LEFT-POINTING TRIANGLE,RIGHT-POINTINGa,UP-POINTINGa,DOWN-POINTINGa"]⟩,
    ⟨0x23F8, "",
      ["DOUBLE VERTICAL BAR,BLACK SQUARE FOR STOP,aCIRCLE FOR RECORD,POWER SYMBOL,aON-OFFa,aONa",
       "aSLEEPa,OBSERVER EYEa"]⟩,
    ⟨0x2400, "SYMBOL FOR ",
      ["NULL,START OF HEADING,bTEXT,ENDb,bTRANSMISSION,ENQUIRY,ACKNOWLEDGE,BELL,BACKSPACE",
       "HORIZONTAL TABULATION,LINE FEED,VERTICAL TABULATION,FORM FEED,CARRIAGE RETURN,SHIFT OUT",
       "aIN,DATA LINK ESCAPE,DEVICE CONTROL ONE,bTWO,bTHREE,bFOUR,NEGATIVE ACKNOWLEDGE",
       "SYNCHRONOUS IDLE,END OF TRANSMISSION BLOCK,CANCEL,END OF MEDIUM,SUBSTITUTE,ESCAPE",
       "FILE SEPARATOR,GROUPa,RECORDa,UNITa,SPACE,DELETE"]⟩,
    ⟨0x2422, "",
      ["BLANK SYMBOL,OPEN BOX"]⟩,
    ⟨0x2424, "SYMBOL FOR ",
      ["NEWLINE,DELETE FORM TWO,SUBSTITUTEb"]⟩,
    ⟨0x2440, "OCR ",
      ["HOOK,CHAIR,FORK,INVERTEDa,BELT BUCKLE,BOW TIE,BRANCH BANK IDENTIFICATION",
       "AMOUNT OF CHECK,DASH,CUSTOMER ACCOUNT NUMBER,DOUBLE BACKSLASH"]⟩,
    ⟨0x2460, "CIRCLED ",
      ["DIGIT ONE,aTWO,aTHREE,aFOUR,aFIVE,aSIX,aSEVEN,aEIGHT,aNINE,NUMBER TEN,aELEVEN,aTWELVE",
       "aTHIRTEEN,aFOURTEEN,aFIFTEEN,aSIXTEEN,aSEVENTEEN,aEIGHTEEN,aNINETEEN,aTWENTY"]⟩,
    ⟨0x2474, "PARENTHESIZED ",
      ["DIGIT ONE,aTWO,aTHREE,aFOUR,aFIVE,aSIX,aSEVEN,aEIGHT,aNINE,NUMBER TEN,aELEVEN,aTWELVE",
       "aTHIRTEEN,aFOURTEEN,aFIFTEEN,aSIXTEEN,aSEVENTEEN,aEIGHTEEN,aNINETEEN,aTWENTY"]⟩,
    ⟨0x2488, "DIGIT ",
      ["ONE FULL STOP,TWOb,THREEb,FOURb,FIVEb,SIXb,SEVENb,EIGHTb,NINEb"]⟩,
    ⟨0x2491, "NUMBER ",
      ["TEN FULL STOP,ELEVENb,TWELVEb,THIRTEENb,FOURTEENb,FIFTEENb,SIXTEENb,SEVENTEENb",
       "EIGHTEENb,NINETEENb,TWENTYb"]⟩,
    ⟨0x249C, "PARENTHESIZED LATIN SMALL LETTER ",
      ["A,B,C,D,E,F,G,H,I,J,K,L,M,N,O,P,Q,R,S,T,U,V,W,X,Y,Z"]⟩,
    ⟨0x24B6, "CIRCLED ",
      ["LATIN CAPITAL LETTER A,cB,cC,cD,cE,cF,cG,cH,cI,cJ,cK,cL,cM,cN,cO,cP,cQ,cR,cS,cT,cU,cV",
       "cW,cX,cY,cZ,aSMALL LETTER A,cB,cC,cD,cE,cF,cG,cH,cI,cJ,cK,cL,cM,cN,cO,cP,cQ,cR,cS,cT,cU",
       "cV,cW,cX,cY,cZ,DIGIT ZERO"]⟩,
    ⟨0x24EB, "NEGATIVE CIRCLED NUMBER ",
      ["ELEVEN,TWELVE,THIRTEEN,FOURTEEN,FIFTEEN,SIXTEEN,SEVENTEEN,EIGHTEEN,NINETEEN,TWENTY"]⟩,
    ⟨0x24F5, "DOUBLE CIRCLED ",
      ["DIGIT ONE,aTWO,aTHREE,aFOUR,aFIVE,aSIX,aSEVEN,aEIGHT,aNINE,NUMBER TEN"]⟩,
    ⟨0x24FF, "NEGATIVE CIRCLED DIGIT ",
      ["ZERO"]⟩,
    ⟨0x2500, "BOX DRAWINGS ",
      ["LIGHT HORIZONTAL,HEAVYa,LIGHT VERTICAL,HEAVYa,LIGHT TRIPLE DASH HORIZONTAL,HEAVYc",
       "LIGHT TRIPLE DASH VERTICAL,HEAVYc,LIGHT QUADRUPLE DASH HORIZONTAL,HEAVYc",
       "LIGHT QUADRUPLE DASH VERTICAL,HEAVYc,LIGHT DOWN AND RIGHT,DOWN LIGHT AND RIGHT HEAVY",
       "aHEAVY AND RIGHT LIGHT,HEAVY DOWN AND RIGHT,LIGHT DOWN AND LEFT",
       "DOWN LIGHT AND LEFT HEAVY,aHEAVY AND LEFT LIGHT,HEAVY DOWN AND LEFT,LIGHT UP AND RIGHT",
       "UP LIGHT AND RIGHT HEAVY,aHEAVY AND RIGHT LIGHT,HEAVY UP AND RIGHT,LIGHT UP AND LEFT",
       "UP LIGHT AND LEFT HEAVY,aHEAVY AND LEFT LIGHT,HEAVY UP AND LEFT",
       "LIGHT VERTICAL AND RIGHT,VERTICAL LIGHT AND RIGHT HEAVY,UP HEAVY AND RIGHT DOWN LIGHT",
       "DOWN HEAVY AND RIGHT UPa,VERTICAL HEAVY AND RIGHTa,DOWN LIGHT AND RIGHT UP HEAVY",
       "UP LIGHT AND RIGHT DOWNa,HEAVY VERTICAL AND RIGHT,LIGHT VERTICAL AND LEFT",
       "VERTICAL LIGHT AND LEFT HEAVY,UP HEAVY AND LEFT DOWN LIGHT,DOWN HEAVY AND LEFT UPa",
       "VERTICAL HEAVY AND LEFTa,DOWN LIGHT AND LEFT UP HEAVY,UP LIGHT AND LEFT DOWNa",
       "HEAVY VERTICAL AND LEFT,LIGHT DOWN AND HORIZONTAL,LEFT HEAVY AND RIGHT DOWN LIGHT",
       "RIGHT HEAVY AND LEFTb,DOWN LIGHT AND HORIZONTAL HEAVY,aHEAVY AND HORIZONTAL LIGHT",
       "RIGHT LIGHT AND LEFT DOWN HEAVY,LEFT LIGHT AND RIGHTb,HEAVY DOWN AND HORIZONTAL",
       "LIGHT UPb,LEFT HEAVY AND RIGHT UP LIGHT,RIGHT HEAVY AND LEFTb",
       "UP LIGHT AND HORIZONTAL HEAVY,aHEAVY AND HORIZONTAL LIGHT,RIGHT LIGHT AND LEFT UP HEAVY",
       "LEFT LIGHT AND RIGHTb,HEAVY UP AND HORIZONTAL,LIGHT VERTICALb",
       "LEFT HEAVY AND RIGHT VERTICAL LIGHT,RIGHT HEAVY AND LEFTb",
       "VERTICAL LIGHT AND HORIZONTAL HEAVY,UP HEAVY AND DOWN HORIZONTAL LIGHT",
       "DOWN HEAVY AND UPb,VERTICAL HEAVY ANDb,LEFT UP HEAVY AND RIGHT DOWNa",
       "RIGHT UP HEAVY AND LEFTb,LEFT DOWN HEAVY AND RIGHT UPa,RIGHT DOWN HEAVY AND LEFTb",
       "DOWN LIGHT AND UP HORIZONTAL HEAVY,UP LIGHT AND DOWNb,RIGHT LIGHT AND LEFT VERTICALa",
       "LEFT LIGHT AND RIGHTb,HEAVY VERTICAL AND HORIZONTAL,LIGHT DOUBLE DASHa,HEAVYc",
       "LIGHT DOUBLE DASH VERTICAL,HEAVYc,DOUBLE HORIZONTAL,aVERTICAL",
       "DOWN SINGLE AND RIGHT DOUBLE,aDOUBLE AND RIGHT SINGLE,DOUBLE DOWN AND RIGHT",
       "DOWN SINGLE AND LEFT DOUBLE,aDOUBLE AND LEFT SINGLE,DOUBLE DOWN AND LEFT",
       "UP SINGLE AND RIGHT DOUBLE,aDOUBLE AND RIGHT SINGLE,DOUBLE UP AND RIGHT",
       "UP SINGLE AND LEFT DOUBLE,aDOUBLE AND LEFT SINGLE,DOUBLE UP AND LEFT",
       "VERTICAL SINGLE AND RIGHT DOUBLE,aDOUBLE AND RIGHT SINGLE,DOUBLE VERTICAL AND RIGHT",
       "VERTICAL SINGLE AND LEFT DOUBLE,aDOUBLE AND LEFT SINGLE,DOUBLE VERTICAL AND LEFT",
       "DOWN SINGLE AND HORIZONTAL DOUBLE,aDOUBLE AND HORIZONTAL SINGLE",
       "DOUBLE DOWN AND HORIZONTAL,UP SINGLE AND HORIZONTAL DOUBLE",
       "aDOUBLE AND HORIZONTAL SINGLE,DOUBLE UP AND HORIZONTAL",
       "VERTICAL SINGLE AND HORIZONTAL DOUBLE,aDOUBLE AND HORIZONTAL SINGLE",
       "DOUBLE VERTICAL AND HORIZONTAL,LIGHT ARC DOWN AND RIGHT,dLEFT,bUPb,dRIGHT",
       "aDIAGONAL UPPER RIGHT TO LOWER LEFT,cLEFT TO LOWER RIGHT,bCROSS,aLEFT,aUP,aRIGHT,aDOWN",
       "HEAVY LEFT,aUP,aRIGHT,aDOWN,LIGHT LEFT AND HEAVY RIGHT,aUP AND HEAVY DOWN",
       "HEAVY LEFT AND LIGHT RIGHT,aUP AND LIGHT DOWN"]⟩,
    ⟨0x2580, "UPPER HALF ",
      ["BLOCK"]⟩,
    ⟨0x2581, "LOWER ",
      ["ONE EIGHTH BLOCK,aQUARTERa,THREE EIGHTHSa,HALFa,FIVE EIGHTHSa,THREE QUARTERSa",
       "SEVEN EIGHTHSa"]⟩,
    ⟨0x2588, "FULL ",
      ["BLOCK"]⟩,
    ⟨0x2589, "LEFT ",
      ["SEVEN EIGHTHS BLOCK,THREE QUARTERSa,FIVE EIGHTHSa,HALFa,THREE EIGHTHSa,ONE QUARTERa",
       "aEIGHTHa"]⟩,
    ⟨0x2590, "",
      ["RIGHT HALF BLOCK,LIGHT SHADE,MEDIUMa,DARKa,UPPER ONE EIGHTH BLOCK,RIGHTc"]⟩,
    ⟨0x2596, "QUADRANT ",
      ["LOWER LEFT,aRIGHT,UPPER LEFT,bAND LOWER LEFT AND LOWER RIGHT,da",
       "cUPPER RIGHT AND LOWER LEFT,gRIGHT,aa,bAND LOWER LEFT,eAND LOWER RIGHT"]⟩,
    ⟨0x25A0, "BLACK ",
      ["SQUARE"]⟩,
    ⟨0x25A1, "WHITE ",
      ["SQUARE,aWITH ROUNDED CORNERS,aCONTAINING BLACK SMALL SQUARE"]⟩,
    ⟨0x25A4, "SQUARE WITH ",
      ["HORIZONTAL FILL,VERTICALa,ORTHOGONAL CROSSHATCHa,UPPER LEFT TO LOWER RIGHTa",
       "aRIGHT TO LOWER LEFTa,DIAGONAL CROSSHATCHa"]⟩,
    ⟨0x25AA, "",
      ["BLACK SMALL SQUARE,WHITEb,BLACK RECTANGLE,WHITEa,BLACK VERTICALa,WHITEb",
       "BLACK PARALLELOGRAM,WHITEa,BLACK UP-POINTING TRIANGLE,WHITEb,BLACK UP-POINTING SMALLa",
       "WHITEc,BLACK RIGHT-POINTINGa,WHITEb,BLACK RIGHT-POINTING SMALLa,WHITEc",
       "BLACK RIGHT-POINTING POINTER,WHITEb,BLACK DOWN-POINTING TRIANGLE,WHITEb",
       "BLACK DOWN-POINTING SMALLa,WHITEc,BLACK LEFT-POINTINGa,WHITEb",
       "BLACK LEFT-POINTING SMALLa,WHITEc,BLACK LEFT-POINTING POINTER,WHITEb,BLACK DIAMOND",
       "WHITEa,bCONTAINING BLACK SMALL DIAMOND,FISHEYE,LOZENGE,WHITE CIRCLE,DOTTEDa",
       "CIRCLE WITH VERTICAL FILL,BULLSEYE,BLACK CIRCLE"]⟩,
    ⟨0x25D0, "CIRCLE WITH ",
      ["LEFT HALF BLACK,RIGHTb,LOWERb,UPPERb,aRIGHT QUADRANTa,ALL BUT UPPER LEFTb"]⟩,
    ⟨0x25D6, "",
      ["LEFT HALF BLACK CIRCLE,RIGHTc,INVERSE BULLET,aWHITE CIRCLE,UPPER HALFc,LOWERd",
       "UPPER LEFT QUADRANT CIRCULAR ARC,aRIGHTc,LOWERd,aLEFTc,UPPER HALF CIRCLE,LOWERb",
       "BLACK LOWER RIGHT TRIANGLE,bLEFTa,aUPPERb,bRIGHTa,WHITE BULLET"]⟩,
    ⟨0x25E7, "SQUARE WITH ",
      ["LEFT HALF BLACK,RIGHTb,UPPER LEFT DIAGONALb,LOWER RIGHTc"]⟩,
    ⟨0x25EB, "WHITE ",
      ["SQUARE WITH VERTICAL BISECTING LINE,UP-POINTING TRIANGLE WITH DOT"]⟩,
    ⟨0x25ED, "UP-POINTING TRIANGLE WITH ",
      ["LEFT HALF BLACK,RIGHTb"]⟩,
    ⟨0x25EF, "LARGE ",
      ["CIRCLE"]⟩,
    ⟨0x25F0, "WHITE ",
      ["SQUARE WITH UPPER LEFT QUADRANT,bLOWERb,cRIGHTa,bUPPERb,CIRCLE WITH UPPER LEFTa,bLOWERb",
       "cRIGHTa,bUPPERb"]⟩,
    ⟨0x25F8, "",
      ["UPPER LEFT TRIANGLE,aRIGHTa,LOWER LEFTa,WHITE MEDIUM SQUARE,BLACKb,WHITE MEDIUM SMALLa",
       "BLACKc,LOWER RIGHT TRIANGLE,BLACK SUN WITH RAYS,CLOUD,UMBRELLA,SNOWMAN,COMET,BLACK STAR",
       "WHITEa,LIGHTNING,THUNDERSTORM,SUN,ASCENDING NODE,DESCENDINGa,CONJUNCTION,OPPOSITION",
       "BLACK TELEPHONE,WHITEa,BALLOT BOX,bWITH CHECK,cX,SALTIRE,UMBRELLA WITH RAIN DROPS",
       "HOT BEVERAGE,WHITE SHOGI PIECE,BLACKb,SHAMROCK,REVERSED ROTATED FLORAL HEART BULLET",
       "BLACK LEFT POINTING INDEX,aRIGHTb,WHITE LEFTb,aUPb,aRIGHTb,aDOWNb,SKULL AND CROSSBONES",
       "CAUTION SIGN,RADIOACTIVEa,BIOHAZARDa,CADUCEUS,ANKH,ORTHODOX CROSS,CHI RHO",
       "CROSS OF LORRAINE,bJERUSALEM,STAR AND CRESCENT,FARSI SYMBOL,ADI SHAKTI",
       "HAMMER AND SICKLE,PEACE SYMBOL,YIN YANG,TRIGRAM FOR HEAVEN,bLAKE,bFIRE,bTHUNDER,bWIND",
       "bWATER,bMOUNTAIN,bEARTH,WHEEL OF DHARMA,WHITE FROWNING FACE,aSMILINGa,BLACKb",
       "WHITE SUN WITH RAYS,FIRST QUARTER MOON,LASTb,MERCURY,FEMALE SIGN,EARTH,MALE SIGN",
       "JUPITER,SATURN,URANUS,NEPTUNE,PLUTO,ARIES,TAURUS,GEMINI,CANCER,LEO,VIRGO,LIBRA,SCORPIUS",
       "SAGITTARIUS,CAPRICORN,AQUARIUS,PISCES,WHITE CHESS KING,bQUEEN,bROOK,bBISHOP,bKNIGHT",
       "bPAWN,BLACK CHESS KING,bQUEEN,bROOK,bBISHOP,bKNIGHT,bPAWN,aSPADE SUIT,WHITE HEARTa",
       "aDIAMONDa,BLACK CLUBa,WHITE SPADEa,BLACK HEARTa,aDIAMONDa,WHITE CLUBa,HOT SPRINGS",
       "QUARTER NOTE,EIGHTHa,BEAMED EIGHTH NOTES,aSIXTEENTHa,MUSIC FLAT SIGN,aNATURALa,aSHARPa",
       "WEST SYRIAC CROSS,EASTb,UNIVERSAL RECYCLING SYMBOL"]⟩,
    ⟨0x2673, "RECYCLING SYMBOL FOR ",
      ["TYPE-1 PLASTICS,TYPE-2a,TYPE-3a,TYPE-4a,TYPE-5a,TYPE-6a,TYPE-7a,GENERIC MATERIALS"]⟩,
    ⟨0x267B, "",
      ["BLACK UNIVERSAL RECYCLING SYMBOL,RECYCLED PAPERa,PARTIALLY-RECYCLEDb",
       "PERMANENT PAPER SIGN,WHEELCHAIR SYMBOL,DIE FACE-1,aFACE-2,aFACE-3,aFACE-4,aFACE-5",
       "aFACE-6,WHITE CIRCLE WITH DOT RIGHT,cTWO DOTS,BLACK CIRCLE WITH WHITE DOT RIGHT",
       "cTWO WHITE DOTS,MONOGRAM FOR YANG,bYIN,DIGRAM FOR GREATER YANG,bLESSER YIN,cYANG",
       "bGREATER YIN,WHITE FLAG,BLACKa,HAMMER AND PICK,ANCHOR,CROSSED SWORDS",
       "STAFF OF AESCULAPIUS,SCALES,ALEMBIC,FLOWER,GEAR,STAFF OF HERMES,ATOM SYMBOL",
       "FLEUR-DE-LIS,OUTLINED WHITE STAR,THREE LINES CONVERGING RIGHT,cLEFT,WARNING SIGN",
       "HIGH VOLTAGEa,DOUBLED FEMALEa,aMALEa,INTERLOCKED FEMALE ANDb,MALE AND FEMALEa",
       "aWITH STROKEa,cAND MALE AND FEMALEa,VERTICAL MALE WITH STROKEa,HORIZONTALd",
       "MEDIUM WHITE CIRCLE,aBLACKa,aSMALL WHITEa,MARRIAGE SYMBOL,DIVORCEa",
       "UNMARRIED PARTNERSHIPa,COFFIN,FUNERAL URN,NEUTER,CERES,PALLAS,JUNO,VESTA,CHIRON",
       "BLACK MOON LILITH,SEXTILE,SEMISEXTILE,QUINCUNX,SESQUIQUADRATE,SOCCER BALL,BASEBALL",
       "SQUARED KEY,WHITE DRAUGHTS MAN,bKING,BLACK DRAUGHTS MAN,bKING,SNOWMAN WITHOUT SNOW",
       "SUN BEHIND CLOUD,RAIN,BLACK SNOWMAN,THUNDER CLOUD AND RAIN,TURNED WHITE SHOGI PIECE",
       "aBLACKb,WHITE DIAMOND IN SQUARE,CROSSING LANES,DISABLED CAR,OPHIUCHUS,PICK,CAR SLIDING",
       "HELMET WITH WHITE CROSS,CIRCLED CROSSING LANES,CHAINS,NO ENTRY",
       "ALTERNATE ONE-WAY LEFT WAY TRAFFIC,BLACK TWO-WAYc,WHITEd,BLACK LEFT LANE MERGE,WHITEc",
       "DRIVE SLOW SIGN,HEAVY WHITE DOWN-POINTING TRIANGLE,LEFT CLOSED ENTRY,SQUARED SALTIRE",
       "FALLING DIAGONAL IN WHITE CIRCLE IN BLACK SQUARE,BLACK TRUCK,RESTRICTED LEFT ENTRY-1",
       "bENTRY-2,ASTRONOMICAL SYMBOL FOR URANUS,HEAVY CIRCLE WITH STROKE AND TWO DOTS ABOVE",
       "PENTAGRAM,RIGHT-HANDED INTERLACEDa,LEFT-HANDEDb,INVERTEDa,BLACK CROSS ON SHIELD",
       "SHINTO SHRINE,CHURCH,CASTLE,HISTORIC SITE,GEAR WITHOUT HUB,aWITH HANDLES",
       "MAP SYMBOL FOR LIGHTHOUSE,MOUNTAIN,UMBRELLA ON GROUND,FOUNTAIN,FLAG IN HOLE,FERRY",
       "SAILBOAT,SQUARE FOUR CORNERS,SKIER,ICE SKATE,PERSON WITH BALL,TENT,JAPANESE BANK SYMBOL",
       "HEADSTONE GRAVEYARDa,FUEL PUMP,CUP ON BLACK SQUARE",
       "WHITE FLAG WITH HORIZONTAL MIDDLE BLACK STRIPE,BLACK SAFETY SCISSORS,UPPER BLADEa",
       "BLACKa,LOWER BLADEa,WHITEa,aHEAVY CHECK MARK,TELEPHONE LOCATION SIGN,TAPE DRIVE",
       "AIRPLANE,ENVELOPE,RAISED FIST,aHAND,VICTORYa,WRITINGa,LOWER RIGHT PENCIL,PENCIL",
       "UPPER RIGHTa,WHITE NIB,BLACKa,CHECK MARK,HEAVYb,MULTIPLICATION X,HEAVYb,BALLOTa,HEAVYb",
       "OUTLINED GREEK CROSS,HEAVYb,OPEN CENTREa,HEAVYc,LATINa,SHADOWED WHITEb,OUTLINEDb",
       "MALTESEa,STAR OF DAVID,FOUR TEARDROP-SPOKED ASTERISK,aBALLOON-SPOKEDa,HEAVYc",
       "FOUR CLUB-SPOKEDa,BLACK FOUR POINTED STAR,WHITEc,SPARKLES,STRESS OUTLINED WHITE STAR",
       "CIRCLEDb,OPEN CENTRE BLACKa,BLACK CENTRE WHITEa,OUTLINED BLACKa,HEAVYc,PINWHEELa",
       "SHADOWED WHITEa,HEAVY ASTERISK,OPEN CENTREa,EIGHT SPOKEDa,aPOINTED BLACK STAR",
       "bPINWHEELa,SIX POINTED BLACKa,EIGHT POINTED RECTILINEARb,HEAVYe,TWELVE POINTEDb",
       "SIXTEEN POINTED ASTERISK,TEARDROP-SPOKEDa,OPEN CENTREb,HEAVYb",
       "SIX PETALLED BLACK AND WHITE FLORETTE,BLACKa,WHITEa,EIGHT PETALLED OUTLINED BLACKa",
       "CIRCLED OPEN CENTRE EIGHT POINTED STAR,HEAVY TEARDROP-SPOKED PINWHEEL ASTERISK",
       "SNOWFLAKE,TIGHT TRIFOLIATEa,HEAVY CHEVRONa,SPARKLE,HEAVYa,BALLOON-SPOKED ASTERISK",
       "EIGHT TEARDROP-SPOKED PROPELLERa,HEAVYd,CROSS MARK,SHADOWED WHITE CIRCLE",
       "NEGATIVE SQUARED CROSS MARK,LOWER RIGHT DROP-SHADOWED WHITE SQUARE,UPPERd",
       "LOWER RIGHT SHADOWEDb,UPPERd,BLACK QUESTION MARK ORNAMENT,WHITEc,aEXCLAMATIONb",
       "BLACK DIAMOND MINUS WHITE X,HEAVY EXCLAMATION MARK SYMBOL,LIGHT VERTICAL BAR,MEDIUMb",
       "HEAVYb,aSINGLE TURNED COMMA QUOTATION MARK ORNAMENT,bd,aDOUBLE TURNEDd,bd,aLOW SINGLEd",
       "bDOUBLEd,CURVED STEM PARAGRAPH SIGNa,HEAVY EXCLAMATION MARKa,aHEARTc,aBLACK HEART",
       "ROTATED HEAVY BLACK HEART BULLET,FLORAL HEART,ROTATED FLORAL HEART BULLET"]⟩,
    ⟨0x2768, "MEDIUM ",
      ["LEFT PARENTHESIS ORNAMENT,RIGHTb,FLATTENED LEFTb,aRIGHTb,LEFT-POINTING ANGLE BRACKETa",
       "RIGHT-POINTINGc"]⟩,
    ⟨0x276E, "HEAVY ",
      ["LEFT-POINTING ANGLE QUOTATION MARK ORNAMENT,RIGHT-POINTINGd",
       "LEFT-POINTING ANGLE BRACKETa,RIGHT-POINTINGc"]⟩,
    ⟨0x2772, "LIGHT ",
      ["LEFT TORTOISE SHELL BRACKET ORNAMENT,RIGHTd"]⟩,
    ⟨0x2774, "MEDIUM ",
      ["LEFT CURLY BRACKET ORNAMENT,RIGHTc"]⟩,
    ⟨0x2776, "DINGBAT ",
      ["NEGATIVE CIRCLED DIGIT ONE,cTWO,cTHREE,cFOUR,cFIVE,cSIX,cSEVEN,cEIGHT,cNINE,bNUMBER TEN",
       "CIRCLED SANS-SERIF DIGIT ONE,cTWO,cTHREE,cFOUR,cFIVE,cSIX,cSEVEN,cEIGHT,cNINE",
       "bNUMBER TEN,NEGATIVE CIRCLED SANS-SERIF DIGIT ONE,dTWO,dTHREE,dFOUR,dFIVE,dSIX,dSEVEN",
       "dEIGHT,dNINE,cNUMBER TEN"]⟩,
    ⟨0x2794, "HEAVY ",
      ["WIDE-HEADED RIGHTWARDS ARROW,PLUS SIGN,MINUSa,DIVISIONa,SOUTH EAST ARROW,RIGHTWARDSa",
       "NORTH EASTa"]⟩,
    ⟨0x279B, "",
      ["DRAFTING POINT RIGHTWARDS ARROW,HEAVY ROUND-TIPPEDb,TRIANGLE-HEADEDb,HEAVYc,DASHEDc",
       "HEAVYd,BLACKb,THREE-D TOP-LIGHTED RIGHTWARDS ARROWHEAD,aBOTTOM-LIGHTEDb,BLACKb",
       "HEAVY BLACK CURVED DOWNWARDS AND RIGHTWARDS ARROW,cUPWARDSc,SQUAT BLACKb",
       "HEAVY CONCAVE-POINTEDc,RIGHT-SHADED WHITEb,LEFT-SHADEDc,BACK-TILTED SHADOWEDc",
       "FRONT-TILTEDd,HEAVY LOWER RIGHT-SHADOWEDc,aUPPERd,NOTCHED LOWERd,CURLY LOOP",
       "NOTCHED UPPER RIGHT-SHADOWED WHITE RIGHTWARDS ARROW,CIRCLED HEAVYc,WHITE-FEATHEREDb",
       "BLACK-FEATHERED SOUTH EASTa,aRIGHTWARDSa,aNORTH EASTa,HEAVY BLACK-FEATHERED SOUTHb",
       "bRIGHTWARDSa,bNORTH EASTa,TEARDROP-BARBED RIGHTWARDSa,HEAVY TEARDROP-SHANKEDb",
       "WEDGE-TAILEDb,HEAVYc,OPEN-OUTLINEDb,DOUBLE CURLY LOOP,THREE DIMENSIONAL ANGLE",
       "WHITE TRIANGLE CONTAINING SMALL WHITE TRIANGLE,PERPENDICULAR,OPEN SUBSET,aSUPERSET",
       "LEFT S-SHAPED BAG DELIMITER,RIGHTc,OR WITH DOT INSIDE,REVERSE SOLIDUS PRECEDING SUBSET",
       "SUPERSET PRECEDING SOLIDUS,VERTICAL BAR WITH HORIZONTAL STROKE",
       "MATHEMATICAL RISING DIAGONAL,LONG DIVISION,MATHEMATICAL FALLING DIAGONAL",
       "SQUARED LOGICAL AND,bOR,WHITE DIAMOND WITH CENTRED DOT,AND WITHa",
       "ELEMENT OF OPENING UPWARDS,LOWER RIGHT CORNER WITH DOT,UPPER LEFTc,LEFT OUTER JOIN",
       "RIGHTb,FULLb,LARGE UP TACK,aDOWNa,LEFT AND RIGHT DOUBLE TURNSTILE,cTACK,aMULTIMAP",
       "LONG RIGHT TACK,aLEFTa,UP TACK WITH CIRCLE ABOVE,LOZENGE DIVIDED BY HORIZONTAL RULE"]⟩,
    ⟨0x27E1, "WHITE ",
      ["CONCAVE-SIDED DIAMOND,bWITH LEFTWARDS TICK,cRIGHTWARDSa,SQUARE WITH LEFTWARDSa",
       "bRIGHTWARDSa"]⟩,
    ⟨0x27E6, "MATHEMATICAL ",
      ["LEFT WHITE SQUARE BRACKET,RIGHTc,LEFT ANGLEa,RIGHTb,LEFT DOUBLEb,RIGHTc",
       "LEFT WHITE TORTOISE SHELLa,RIGHTd,LEFT FLATTENED PARENTHESIS,RIGHTb"]⟩,
    ⟨0x27F0, "",
      ["UPWARDS QUADRUPLE ARROW,DOWNWARDSb,ANTICLOCKWISE GAPPED CIRCLEa,CLOCKWISEc",
       "RIGHT ARROW WITH CIRCLED PLUS"]⟩,
    ⟨0x27F5, "LONG ",
      ["LEFTWARDS ARROW,RIGHTWARDSa,LEFT RIGHTa,LEFTWARDS DOUBLEa,RIGHTWARDSb,LEFT RIGHTb",
       "LEFTWARDS ARROW FROM BAR,RIGHTWARDSc,LEFTWARDS DOUBLEc,RIGHTWARDSd,aSQUIGGLE ARROW"]⟩,
    ⟨0x2800, "BRAILLE PATTERN ",
      ["BLANK"]⟩,
    ⟨0x2900, "",
      ["RIGHTWARDS TWO-HEADED ARROW WITH VERTICAL STROKE,dDOUBLEb,LEFTWARDS DOUBLE ARROW WITHb",
       "RIGHTWARDSe,LEFT RIGHTe,RIGHTWARDS TWO-HEADED ARROW FROM BAR,LEFTWARDS DOUBLEc",
       "RIGHTWARDSd,DOWNWARDS ARROW WITH HORIZONTAL STROKE,UPWARDSd,aTRIPLE ARROW,DOWNWARDSb",
       "LEFTWARDS DOUBLE DASHa,RIGHTWARDSc,LEFTWARDS TRIPLEb,RIGHTWARDSc,aTWO-HEADEDc",
       "aARROW WITH DOTTED STEM,UPWARDS ARROW TO BAR,DOWNWARDSc"]⟩,
    ⟨0x2914, "RIGHTWARDS ",
      ["ARROW WITH TAIL WITH VERTICAL STROKE,dDOUBLEb,TWO-HEADED ARROW WITH TAIL",
       "dWITH VERTICAL STROKE,eDOUBLEb"]⟩,
    ⟨0x2919, "",
      ["LEFTWARDS ARROW-TAIL,RIGHTWARDSa,LEFTWARDS DOUBLEa,RIGHTWARDSb",
       "LEFTWARDS ARROW TO BLACK DIAMOND,RIGHTWARDSd,LEFTWARDS ARROW FROM BARc,RIGHTWARDSf",
       "NORTH WEST AND SOUTH EAST ARROW,aEAST AND SOUTH WESTa,aWEST ARROW WITH HOOK,aEASTc",
       "SOUTHd,aWESTc,NORTH WEST ARROW AND NORTH EAST ARROW,aEAST ARROW AND SOUTHb",
       "SOUTH EAST ARROW AND SOUTH WESTa,aWEST ARROW AND NORTHb",
       "RISING DIAGONAL CROSSING FALLING DIAGONAL,FALLING DIAGONAL CROSSING RISINGa",
       "SOUTH EAST ARROW CROSSING NORTH EAST ARROW,NORTH EAST ARROW CROSSING SOUTHb",
       "FALLING DIAGONAL CROSSING NORTHb,RISING DIAGONAL CROSSING SOUTHb"]⟩,
    ⟨0x2931, "NORTH ",
      ["EAST ARROW CROSSING NORTH WEST ARROW,WEST ARROW CROSSING NORTH EASTa"]⟩,
    ⟨0x2933, "WAVE ARROW POINTING DIRECTLY ",
      ["RIGHT"]⟩,
    ⟨0x2934, "ARROW POINTING ",
      ["RIGHTWARDS THEN CURVING UPWARDS,cDOWNWARDS,DOWNWARDS THEN CURVING LEFTWARDS,cRIGHTWARDS"]⟩,
    ⟨0x2938, "",
      ["RIGHT-SIDE ARC CLOCKWISE ARROW,LEFT-SIDE ARC ANTICLOCKWISEa,TOPc,BOTTOMc"]⟩,
    ⟨0x293C, "TOP ARC ",
      ["CLOCKWISE ARROW WITH MINUS,ANTICLOCKWISE ARROW WITH PLUS"]⟩,
    ⟨0x293E, "LOWER ",
      ["RIGHT SEMICIRCULAR CLOCKWISE ARROW,LEFT SEMICIRCULAR ANTICLOCKWISEa"]⟩,
    ⟨0x2940, "",
      ["ANTICLOCKWISE CLOSED CIRCLE ARROW,CLOCKWISEc,RIGHTWARDS ARROW ABOVE SHORT LEFTWARDSa",
       "LEFTWARDS ARROW ABOVE SHORT RIGHTWARDSa,SHORT RIGHTWARDS ARROW ABOVE LEFTWARDSa",
       "RIGHTWARDS ARROW WITH PLUS BELOW,LEFTWARDSd,RIGHTWARDS ARROW THROUGH X",
       "LEFT RIGHT ARROW THROUGH SMALL CIRCLE,UPWARDS TWO-HEADED ARROW FROMb",
       "LEFT BARB UP RIGHT BARB DOWN HARPOON,bDOWN RIGHT BARB UPa,UP BARB RIGHT DOWN BARB LEFTa",
       "bLEFT DOWN BARB RIGHTa,LEFT BARB UP RIGHT BARB UPa,UP BARB RIGHT DOWN BARB RIGHTa",
       "LEFT BARB DOWN RIGHT BARB DOWNa,UP BARB LEFT DOWN BARB LEFTa",
       "LEFTWARDS HARPOON WITH BARB UP TO BAR,RIGHTWARDSf,UPWARDS HARPOON WITH BARB RIGHTb",
       "DOWNWARDSf,LEFTWARDS HARPOON WITH BARB DOWNb,RIGHTWARDSf",
       "UPWARDS HARPOON WITH BARB LEFTb,DOWNWARDSf,LEFTWARDS HARPOON WITH BARB UP FROMa",
       "RIGHTWARDSf,UPWARDS HARPOON WITH BARB RIGHTb,DOWNWARDSf",
       "LEFTWARDS HARPOON WITH BARB DOWNb,RIGHTWARDSf,UPWARDS HARPOON WITH BARB LEFTb",
       "DOWNWARDSf"]⟩,
    ⟨0x2962, "LEFTWARDS HARPOON WITH BARB UP ABOVE LEFTWARDS HARPOON WITH BARB ",
      ["DOWN"]⟩,
    ⟨0x2963, "UPWARDS HARPOON WITH BARB LEFT BESIDE UPWARDS HARPOON WITH BARB ",
      ["RIGHT"]⟩,
    ⟨0x2964, "RIGHTWARDS HARPOON WITH BARB UP ABOVE RIGHTWARDS HARPOON WITH BARB ",
      ["DOWN"]⟩,
    ⟨0x2965, "DOWNWARDS HARPOON WITH BARB LEFT BESIDE DOWNWARDS HARPOON WITH BARB ",
      ["RIGHT"]⟩,
    ⟨0x2966, "LEFTWARDS HARPOON WITH BARB ",
      ["UP ABOVE RIGHTWARDS HARPOON WITH BARB UP,DOWN ABOVE RIGHTWARDS HARPOON WITH BARB DOWN"]⟩,
    ⟨0x2968, "RIGHTWARDS HARPOON WITH BARB ",
      ["UP ABOVE LEFTWARDS HARPOON WITH BARB UP,DOWN ABOVE LEFTWARDS HARPOON WITH BARB DOWN"]⟩,
    ⟨0x296A, "LEFTWARDS HARPOON WITH BARB ",
      ["UP ABOVE LONG DASH,DOWN BELOWb"]⟩,
    ⟨0x296C, "RIGHTWARDS HARPOON WITH BARB ",
      ["UP ABOVE LONG DASH,DOWN BELOWb"]⟩,
    ⟨0x296E, "",
      ["UPWARDS HARPOON WITH BARB LEFT BESIDE DOWNWARDS HARPOON WITH BARB RIGHT",
       "DOWNWARDS HARPOON WITH BARB LEFT BESIDE UPWARDSd,RIGHT DOUBLE ARROW WITH ROUNDED HEAD",
       "EQUALS SIGN ABOVE RIGHTWARDS ARROW,TILDE OPERATORc,LEFTWARDS ARROW ABOVE TILDE OPERATOR",
       "RIGHTWARDSd,cALMOST EQUAL TO,LESS-THAN ABOVE LEFTWARDS ARROW",
       "LEFTWARDS ARROW THROUGH LESS-THAN,GREATER-THAN ABOVE RIGHTWARDS ARROW,SUBSETc",
       "LEFTWARDS ARROW THROUGH SUBSET,SUPERSET ABOVE LEFTWARDS ARROW,LEFT FISH TAIL,RIGHTb,UPb",
       "DOWNb,TRIPLE VERTICAL BAR DELIMITER,Z NOTATION SPOT,bTYPE COLON",
       "LEFT WHITE CURLY BRACKET,RIGHTc,LEFT WHITE PARENTHESIS,RIGHTb",
       "Z NOTATION LEFT IMAGE BRACKET,bRIGHTb,bLEFT BINDINGa,bRIGHTb",
       "LEFT SQUARE BRACKET WITH UNDERBAR,RIGHTd,LEFT SQUARE BRACKET WITH TICK IN TOP CORNER",
       "RIGHT SQUARE BRACKET WITH TICK IN BOTTOMa,LEFTg,RIGHT SQUARE BRACKET WITH TICK IN TOPa",
       "LEFT ANGLE BRACKET WITH DOT,RIGHTd,LEFT ARC LESS-THAN BRACKET,RIGHT ARC GREATER-THANa",
       "DOUBLE LEFTc,aRIGHT ARC LESS-THANa,LEFT BLACK TORTOISE SHELLa,RIGHTd,DOTTED FENCE",
       "VERTICAL ZIGZAG LINE,MEASURED ANGLE OPENING LEFT,RIGHT ANGLE VARIANT WITH SQUARE",
       "MEASURED RIGHT ANGLE WITH DOT,ANGLE WITH S INSIDE,ACUTE ANGLE",
       "SPHERICAL ANGLE OPENING LEFT,cUP,TURNED ANGLE,REVERSEDa,ANGLE WITH UNDERBAR,REVERSEDc",
       "OBLIQUE ANGLE OPENING UP,cDOWN"]⟩,
    ⟨0x29A8, "MEASURED ANGLE WITH OPEN ARM ENDING IN ARROW POINTING ",
      ["UP AND RIGHT,bLEFT,DOWN AND RIGHT,bLEFT,RIGHT AND UP,LEFTb,RIGHT AND DOWN,LEFTb"]⟩,
    ⟨0x29B0, "REVERSED EMPTY ",
      ["SET"]⟩,
    ⟨0x29B1, "EMPTY SET WITH ",
      ["OVERBAR,SMALL CIRCLE ABOVE,RIGHT ARROWa,LEFTb"]⟩,
    ⟨0x29B5, "CIRCLE WITH HORIZONTAL ",
      ["BAR"]⟩,
    ⟨0x29B6, "CIRCLED ",
      ["VERTICAL BAR,PARALLEL,REVERSE SOLIDUS,PERPENDICULAR"]⟩,
    ⟨0x29BA, "CIRCLE ",
      ["DIVIDED BY HORIZONTAL BAR AND TOP HALF DIVIDED BY VERTICAL BAR,WITH SUPERIMPOSED X"]⟩,
    ⟨0x29BC, "CIRCLED ANTICLOCKWISE-ROTATED DIVISION ",
      ["SIGN"]⟩,
    ⟨0x29BD, "UP ARROW THROUGH ",
      ["CIRCLE"]⟩,
    ⟨0x29BE, "CIRCLED ",
      ["WHITE BULLET,BULLET,LESS-THAN,GREATER-THAN"]⟩,
    ⟨0x29C2, "CIRCLE WITH ",
      ["SMALL CIRCLE TO THE RIGHT,TWO HORIZONTAL STROKESc"]⟩,
    ⟨0x29C4, "SQUARED ",
      ["RISING DIAGONAL SLASH,FALLINGb,ASTERISK,SMALL CIRCLE,SQUARE"]⟩,
    ⟨0x29C9, "",
      ["TWO JOINED SQUARES,TRIANGLE WITH DOT ABOVE,bUNDERBAR,S IN TRIANGLE",
       "TRIANGLE WITH SERIFS AT BOTTOM,RIGHT TRIANGLE ABOVE LEFT TRIANGLE",
       "LEFT TRIANGLE BESIDE VERTICAL BAR,VERTICAL BAR BESIDE RIGHT TRIANGLE",
       "BOWTIE WITH LEFT HALF BLACK,bRIGHTb,BLACK BOWTIE,TIMES WITH LEFT HALF BLACK,bRIGHTb",
       "WHITE HOURGLASS,BLACKa,LEFT WIGGLY FENCE,RIGHTb,LEFT DOUBLEb,RIGHTc,INCOMPLETE INFINITY",
       "TIE OVERa,INFINITY NEGATED WITH VERTICAL BAR,DOUBLE-ENDED MULTIMAP",
       "SQUARE WITH CONTOURED OUTLINE,INCREASES AS,SHUFFLE PRODUCT",
       "EQUALS SIGN AND SLANTED PARALLEL,eWITH TILDE ABOVE,IDENTICAL TO AND SLANTED PARALLEL",
       "GLEICH STARK,THERMODYNAMIC,DOWN-POINTING TRIANGLE WITH LEFT HALF BLACK,cRIGHTb",
       "BLACK DIAMOND WITH DOWN ARROW,aLOZENGE,WHITE CIRCLE WITH DOWN ARROW,BLACKd"]⟩,
    ⟨0x29EE, "ERROR-BARRED ",
      ["WHITE SQUARE,BLACKa,WHITE DIAMOND,BLACKa,WHITE CIRCLE,BLACKa"]⟩,
    ⟨0x29F4, "",
      ["RULE-DELAYED,REVERSE SOLIDUS OPERATOR,SOLIDUS WITH OVERBAR",
       "REVERSE SOLIDUS WITH HORIZONTAL STROKE,BIG SOLIDUS,aREVERSEa,DOUBLE PLUS,TRIPLEa",
       "LEFT-POINTING CURVED ANGLE BRACKET,RIGHT-POINTINGc,TINY,MINY"]⟩,
    ⟨0x2A00, "N-ARY ",
      ["CIRCLED DOT OPERATOR,aPLUSa,aTIMESa,UNION OPERATOR WITH DOT,cPLUS",
       "SQUARE INTERSECTION OPERATOR,aUNIONa"]⟩,
    ⟨0x2A07, "",
      ["TWO LOGICAL AND OPERATOR,bORa,N-ARY TIMESa,MODULO TWO SUM,SUMMATION WITH INTEGRAL",
       "QUADRUPLE INTEGRAL OPERATOR,FINITE PART INTEGRAL,INTEGRAL WITH DOUBLE STROKE",
       "aAVERAGE WITH SLASH,CIRCULATION FUNCTION,ANTICLOCKWISE INTEGRATION"]⟩,
    ⟨0x2A12, "LINE INTEGRATION ",
      ["WITH RECTANGULAR PATH AROUND POLE,aSEMICIRCULARc,NOT INCLUDING THEa"]⟩,
    ⟨0x2A15, "",
      ["INTEGRAL AROUND A POINT OPERATOR,QUATERNION INTEGRALa"]⟩,
    ⟨0x2A17, "INTEGRAL WITH ",
      ["LEFTWARDS ARROW WITH HOOK,TIMES SIGN,INTERSECTION,UNION,OVERBAR,UNDERBAR"]⟩,
    ⟨0x2A1D, "",
      ["JOIN,LARGE LEFT TRIANGLE OPERATOR"]⟩,
    ⟨0x2A1F, "Z NOTATION SCHEMA ",
      ["COMPOSITION,PIPING,PROJECTION"]⟩,
    ⟨0x2A22, "PLUS SIGN WITH ",
      ["SMALL CIRCLE ABOVE,CIRCUMFLEX ACCENTa,TILDEa,DOT BELOW,TILDEa,SUBSCRIPT TWO",
       "BLACK TRIANGLE"]⟩,
    ⟨0x2A29, "MINUS SIGN WITH ",
      ["COMMA ABOVE,DOT BELOW,FALLING DOTS,RISINGa"]⟩,
    ⟨0x2A2D, "",
      ["PLUS SIGN IN LEFT HALF CIRCLE,cRIGHTb,VECTOR OR CROSS PRODUCT",
       "MULTIPLICATION SIGN WITH DOT ABOVE,cUNDERBAR,SEMIDIRECT PRODUCT WITH BOTTOM CLOSED",
       "SMASH PRODUCT,MULTIPLICATION SIGN IN LEFT HALF CIRCLE,cRIGHTb",
       "CIRCLED MULTIPLICATION SIGN WITH CIRCUMFLEX ACCENT,MULTIPLICATION SIGN IN DOUBLE CIRCLE",
       "CIRCLED DIVISION SIGN,PLUS SIGN IN TRIANGLE,MINUSc,MULTIPLICATIONc,INTERIOR PRODUCT",
       "RIGHTHANDb,Z NOTATION RELATIONAL COMPOSITION,AMALGAMATION OR COPRODUCT",
       "INTERSECTION WITH DOT,UNION WITH MINUS SIGN,bOVERBAR,INTERSECTIONb,bLOGICAL AND",
       "UNION WITH LOGICAL OR,aABOVE INTERSECTION,INTERSECTION ABOVE UNION",
       "UNION ABOVE BAR ABOVE INTERSECTION,INTERSECTION ABOVE BAR ABOVE UNION",
       "UNION BESIDE AND JOINED WITHa,INTERSECTION BESIDE AND JOINED WITH INTERSECTION",
       "CLOSED UNION WITH SERIFS,aINTERSECTIONb,DOUBLE SQUARE INTERSECTION,bUNION",
       "CLOSED UNION WITH SERIFS AND SMASH PRODUCT,LOGICAL AND WITH DOT ABOVE,aORc",
       "DOUBLE LOGICAL AND,bOR,TWO INTERSECTING LOGICAL AND,cOR,SLOPING LARGEa,bAND"]⟩,
    ⟨0x2A59, "LOGICAL ",
      ["OR OVERLAPPING LOGICAL AND,AND WITH MIDDLE STEM,ORc,AND WITH HORIZONTAL DASH,ORc",
       "AND WITH DOUBLE OVERBAR,bUNDERBAR,bDOUBLEa"]⟩,
    ⟨0x2A61, "",
      ["SMALL VEE WITH UNDERBAR,LOGICAL OR WITH DOUBLE OVERBAR,dUNDERBAR",
       "Z NOTATION DOMAIN ANTIRESTRICTION,bRANGEa,EQUALS SIGN WITH DOT BELOW",
       "IDENTICAL WITH DOT ABOVE,TRIPLE HORIZONTAL BAR WITH DOUBLE VERTICAL STROKE,dTRIPLEb",
       "TILDE OPERATOR WITH DOT ABOVE,cRISING DOTS,SIMILAR MINUS SIMILAR",
       "CONGRUENT WITH DOT ABOVE,EQUALS WITH ASTERISK,ALMOST EQUAL TO WITH CIRCUMFLEX ACCENT",
       "APPROXIMATELY EQUAL OR EQUAL TO,EQUALS SIGN ABOVE PLUS SIGN,PLUS SIGN ABOVE EQUALSa",
       "EQUALS SIGN ABOVE TILDE OPERATOR,DOUBLE COLON EQUAL,TWO CONSECUTIVE EQUALS SIGNS,THREEc",
       "EQUALS SIGN WITH TWO DOTS ABOVE AND TWO DOTS BELOW,EQUIVALENT WITH FOUR DOTS ABOVE",
       "LESS-THAN WITH CIRCLE INSIDE,GREATER-THANc,LESS-THAN WITH QUESTION MARK ABOVE",
       "GREATER-THANd,LESS-THAN OR SLANTED EQUAL TO,GREATER-THANd",
       "LESS-THAN OR SLANTED EQUAL TO WITH DOT INSIDE,GREATER-THANg",
       "LESS-THAN OR SLANTED EQUAL TO WITH DOT ABOVE,GREATER-THANg",
       "LESS-THAN OR SLANTED EQUAL TO WITH DOT ABOVE RIGHT",
       "GREATER-THAN OR SLANTED EQUAL TO WITH DOT ABOVE LEFT,LESS-THAN OR APPROXIMATE",
       "GREATER-THANb,LESS-THAN AND SINGLE-LINE NOT EQUAL TO,GREATER-THANe",
       "LESS-THAN AND NOT APPROXIMATE,GREATER-THANc",
       "LESS-THAN ABOVE DOUBLE-LINE EQUAL ABOVE GREATER-THAN",
       "GREATER-THAN ABOVE DOUBLE-LINE EQUAL ABOVE LESS-THAN,LESS-THAN ABOVE SIMILAR OR EQUAL",
       "GREATER-THANd,LESS-THAN ABOVE SIMILAR ABOVE GREATER-THAN",
       "GREATER-THAN ABOVE SIMILAR ABOVE LESS-THAN",
       "LESS-THAN ABOVE GREATER-THAN ABOVE DOUBLE-LINE EQUAL,GREATER-THAN ABOVE LESS-THANc",
       "LESS-THAN ABOVE SLANTED EQUAL ABOVE GREATER-THAN ABOVE SLANTEDa",
       "GREATER-THAN ABOVE SLANTED EQUAL ABOVE LESS-THANc"]⟩,
    ⟨0x2A95, "SLANTED EQUAL TO OR ",
      ["LESS-THAN,GREATER-THAN,LESS-THAN WITH DOT INSIDE,GREATER-THANc"]⟩,
    ⟨0x2A99, "DOUBLE-LINE ",
      ["EQUAL TO OR LESS-THAN,cGREATER-THAN,SLANTED EQUAL TO OR LESS-THAN,dGREATER-THAN"]⟩,
    ⟨0x2A9D, "SIMILAR ",
      ["OR LESS-THAN,aGREATER-THAN,ABOVE LESS-THAN ABOVE EQUALS SIGN,aGREATER-THANc"]⟩,
    ⟨0x2AA1, "DOUBLE NESTED ",
      ["LESS-THAN,GREATER-THAN,LESS-THAN WITH UNDERBAR"]⟩,
    ⟨0x2AA4, "GREATER-THAN ",
      ["OVERLAPPING LESS-THAN,BESIDEa"]⟩,
    ⟨0x2AA6, "",
      ["LESS-THAN CLOSED BY CURVE,GREATER-THANc,LESS-THAN CLOSED BY CURVE ABOVE SLANTED EQUAL",
       "GREATER-THANf,SMALLER THAN,LARGERa,SMALLER THAN OR EQUAL TO,LARGERd",
       "EQUALS SIGN WITH BUMPY ABOVE,PRECEDES ABOVE SINGLE-LINE EQUALS SIGN,SUCCEEDSd",
       "PRECEDES ABOVE SINGLE-LINE NOT EQUAL TO,SUCCEEDSe,PRECEDES ABOVE EQUALS SIGN,SUCCEEDSc",
       "PRECEDES ABOVE NOT EQUAL TO,SUCCEEDSd,PRECEDES ABOVE ALMOSTb,SUCCEEDSd",
       "PRECEDES ABOVE NOTc,SUCCEEDSe,DOUBLE PRECEDES,aSUCCEEDS,SUBSET WITH DOT,SUPERSETb",
       "SUBSET WITH PLUS SIGN BELOW,SUPERSETd,SUBSET WITH MULTIPLICATIONb,SUPERSETd",
       "SUBSET OF OR EQUAL TO WITH DOT ABOVE,SUPERSETg,SUBSET OF ABOVE EQUALS SIGN,SUPERSETd",
       "SUBSET OF ABOVE TILDE OPERATOR,SUPERSETd,SUBSET OF ABOVE ALMOST EQUAL TO,SUPERSETe",
       "SUBSET OF ABOVE NOTb,SUPERSETe,SQUARE LEFT OPEN BOX OPERATOR,aRIGHTc,CLOSED SUBSET",
       "aSUPERSET,aSUBSET OR EQUAL TO,aSUPERSETc,SUBSET ABOVE SUPERSET,SUPERSET ABOVE SUBSET",
       "SUBSETb,SUPERSET ABOVE SUPERSET,aBESIDE SUBSET,bAND JOINED BY DASH WITHa",
       "ELEMENT OF OPENING DOWNWARDS,PITCHFORK WITH TEE TOP,TRANSVERSAL INTERSECTION,FORKING",
       "NONFORKING,SHORT LEFT TACK,aDOWNa,aUPa,PERPENDICULAR WITH S",
       "VERTICAL BAR TRIPLE RIGHT TURNSTILE,DOUBLE VERTICAL BAR LEFTa,VERTICAL BAR DOUBLEb",
       "DOUBLEe,LONG DASH FROM LEFT MEMBER OF DOUBLE VERTICAL,SHORT DOWN TACK WITH OVERBAR",
       "aUP TACK WITH UNDERBAR,cABOVE SHORT DOWN TACK,DOUBLEb,aUPa,aSTROKE NOT SIGN,REVERSEDd",
       "DOES NOT DIVIDE WITH REVERSED NEGATION SLASH,VERTICAL LINE WITH CIRCLE ABOVE,dBELOW",
       "DOWN TACKc"]⟩,
    ⟨0x2AF2, "PARALLEL WITH ",
      ["HORIZONTAL STROKE,TILDE OPERATOR"]⟩,
    ⟨0x2AF4, "TRIPLE ",
      ["VERTICAL BAR BINARY RELATION,bWITH HORIZONTAL STROKE,COLON OPERATOR,NESTED LESS-THAN",
       "aGREATER-THAN"]⟩,
    ⟨0x2AF9, "DOUBLE-LINE SLANTED ",
      ["LESS-THAN OR EQUAL TO,GREATER-THANc"]⟩,
    ⟨0x2AFB, "",
      ["TRIPLE SOLIDUS BINARY RELATION,LARGE TRIPLE VERTICAL BAR OPERATOR,DOUBLE SOLIDUSa",
       "WHITE VERTICAL BAR,N-ARYc,NORTH EAST WHITE ARROW,aWESTb,SOUTH EASTb,aWESTb,LEFT RIGHTb",
       "LEFTWARDS BLACKa,UPWARDSb,DOWNWARDSb,NORTH EASTb,aWESTb,SOUTH EASTb,aWESTb,LEFT RIGHTb",
       "UP DOWNb,RIGHTWARDS ARROW WITH TIP DOWNWARDS,dUPWARDS",
       "LEFTWARDS ARROW WITH TIP DOWNWARDS,dUPWARDS,SQUARE WITH TOP HALF BLACK,bBOTTOMb",
       "bUPPER RIGHT DIAGONALb,bLOWER LEFTc,DIAMOND WITH LEFTb,bRIGHTb,bTOPb,bBOTTOMb",
       "DOTTED SQUARE,BLACK LARGEa,WHITEb,BLACK VERY SMALLa,WHITEc,BLACK PENTAGON,WHITEa",
       "aHEXAGON,BLACKa,HORIZONTALb,BLACK LARGE CIRCLE,aMEDIUM DIAMOND,WHITEb",
       "BLACK MEDIUM LOZENGE,WHITEb,BLACK SMALL DIAMOND,bLOZENGE,WHITEb",
       "BLACK HORIZONTAL ELLIPSE,WHITEb,BLACK VERTICALa,WHITEb,LEFT ARROW WITH SMALL CIRCLE",
       "THREE LEFTWARDS ARROWS,LEFT ARROW WITH CIRCLED PLUS,LONG LEFTWARDS SQUIGGLE ARROW"]⟩,
    ⟨0x2B34, "LEFTWARDS ",
      ["TWO-HEADED ARROW WITH VERTICAL STROKE,cDOUBLEb,bFROM BAR,aTRIPLE DASH ARROW",
       "ARROW WITH DOTTED STEM,bTAIL WITH VERTICAL STROKE,dDOUBLEb,TWO-HEADED ARROW WITH TAIL",
       "dWITH VERTICAL STROKE,eDOUBLEb,ARROW THROUGH X"]⟩,
    ⟨0x2B3F, "",
      ["WAVE ARROW POINTING DIRECTLY LEFT,EQUALS SIGN ABOVE LEFTWARDS ARROW",
       "REVERSE TILDE OPERATORc,LEFTWARDS ARROW ABOVE REVERSE ALMOST EQUAL TO",
       "RIGHTWARDS ARROW THROUGH GREATER-THAN,cSUPERSET,LEFTWARDS QUADRUPLE ARROW,RIGHTWARDSb",
       "REVERSE TILDE OPERATOR ABOVE RIGHTWARDSa,RIGHTWARDS ARROW ABOVE REVERSE ALMOST EQUAL TO",
       "TILDE OPERATOR ABOVE LEFTWARDS ARROW,LEFTWARDS ARROW ABOVE ALMOST EQUAL TO",
       "cREVERSE TILDE OPERATOR,RIGHTWARDSe,DOWNWARDS TRIANGLE-HEADED ZIGZAG ARROW",
       "SHORT SLANTED NORTHa,aBACKSLANTED SOUTHa,WHITE MEDIUM STAR,BLACK SMALLa,WHITEb",
       "BLACK RIGHT-POINTING PENTAGON,WHITEb"]⟩,
    ⟨0x2B55, "HEAVY ",
      ["LARGE CIRCLE,OVAL WITH OVAL INSIDE,CIRCLE WITH CIRCLEa,a,CIRCLED SALTIRE"]⟩,
    ⟨0x2B5A, "",
      ["SLANTED NORTH ARROW WITH HOOKED HEAD,BACKSLANTED SOUTH ARROW WITH HOOKED TAIL",
       "SLANTED NORTH ARROW WITH HORIZONTALa,BACKSLANTED SOUTHd",
       "BENT ARROW POINTING DOWNWARDS THEN NORTH EAST,SHORTg,LEFTWARDS TRIANGLE-HEADED ARROW",
       "UPWARDSb,RIGHTWARDSb,DOWNWARDSb,LEFT RIGHTb,UP DOWNb,NORTH WESTb,aEASTb,SOUTHc,aWESTb",
       "LEFTWARDS TRIANGLE-HEADED DASHEDa,UPWARDSc,RIGHTWARDSc,DOWNWARDSc",
       "CLOCKWISE TRIANGLE-HEADED OPEN CIRCLEa,ANTICLOCKWISEd",
       "LEFTWARDS TRIANGLE-HEADED ARROW TO BAR,UPWARDSd,RIGHTWARDSd,DOWNWARDSd,,,NORTH WESTd",
       "aEASTd,SOUTHe,aWESTd,LEFTWARDS TRIANGLE-HEADED ARROW WITH DOUBLE HORIZONTAL STROKE",
       "UPWARDSf,RIGHTWARDSf,DOWNWARDSf,HORIZONTAL TAB KEY,VERTICALb",
       "LEFTWARDS TRIANGLE-HEADED ARROW OVER RIGHTWARDS TRIANGLE-HEADED ARROW",
       "UPWARDS TRIANGLE-HEADED ARROW LEFTWARDS OF DOWNWARDSb",
       "RIGHTWARDS TRIANGLE-HEADED ARROW OVER LEFTWARDSb",
       "DOWNWARDS TRIANGLE-HEADED ARROW LEFTWARDS OF UPWARDSb",
       "LEFTWARDS TRIANGLE-HEADED PAIRED ARROWS,UPWARDSc,RIGHTWARDSc,DOWNWARDSc",
       "LEFTWARDS BLACK CIRCLED WHITE ARROW,UPWARDSd,RIGHTWARDSd,DOWNWARDSd",
       "ANTICLOCKWISE TRIANGLE-HEADED RIGHT U-SHAPEDa,bBOTTOMb,bLEFTb,bTOPb,RETURN LEFT,aRIGHT",
       "NEWLINE LEFT,aRIGHT,FOUR CORNER ARROWS CIRCLING ANTICLOCKWISE,RIGHTWARDS BLACK ARROW,",
       "SYMBOL FOR TYPE A ELECTRONICS"]⟩,
    ⟨0x2B98, "THREE-D ",
      ["TOP-LIGHTED LEFTWARDS EQUILATERAL ARROWHEAD,RIGHT-LIGHTED UPWARDSb",
       "TOP-LIGHTED RIGHTWARDSb,LEFT-LIGHTED DOWNWARDSb"]⟩,
    ⟨0x2B9C, "BLACK ",
      ["LEFTWARDS EQUILATERAL ARROWHEAD,UPWARDSb,RIGHTWARDSb,DOWNWARDSb"]⟩,
    ⟨0x2BA0, "DOWNWARDS TRIANGLE-HEADED ARROW WITH LONG TIP ",
      ["LEFTWARDS,RIGHTWARDS"]⟩,
    ⟨0x2BA2, "UPWARDS TRIANGLE-HEADED ARROW WITH LONG TIP ",
      ["LEFTWARDS,RIGHTWARDS"]⟩,
    ⟨0x2BA4, "",
      ["LEFTWARDS TRIANGLE-HEADED ARROW WITH LONG TIP UPWARDS,RIGHTWARDSf",
       "LEFTWARDS TRIANGLE-HEADED ARROW WITH LONG TIP DOWNWARDS,RIGHTWARDSf"]⟩,
    ⟨0x2BA8, "BLACK CURVED ",
      ["DOWNWARDS AND LEFTWARDS ARROW,bRIGHTWARDSa,UPWARDS AND LEFTWARDSa,bRIGHTWARDSa",
       "LEFTWARDS AND UPWARDSa,RIGHTWARDSc,LEFTWARDS AND DOWNWARDSa,RIGHTWARDSc"]⟩,
    ⟨0x2BB0, "RIBBON ARROW ",
      ["DOWN LEFT,aRIGHT,UP LEFT,aRIGHT,LEFT UP,RIGHTa,LEFT DOWN,RIGHTa"]⟩,
    ⟨0x2BB8, "UPWARDS WHITE ARROW FROM BAR WITH HORIZONTAL ",
      ["BAR"]⟩,
    ⟨0x2BB9, "",
      ["UP ARROWHEAD IN A RECTANGLE BOX,OVERLAPPING WHITE SQUARES,bAND BLACKa,ab",
       "BALLOT BOX WITH LIGHT X,CIRCLEDa,aBOLDa,BLACK SQUARE CENTRED,aDIAMONDa",
       "TURNED BLACK PENTAGON,HORIZONTAL BLACK OCTAGON"]⟩,
    ⟨0x2BC4, "BLACK ",
      ["OCTAGON,MEDIUM UP-POINTING TRIANGLE CENTRED,aDOWN-POINTINGb,aLEFT-POINTINGb",
       "aRIGHT-POINTINGb"]⟩,
    ⟨0x2BC9, "",
      ["NEPTUNE FORM TWO,TOP HALF BLACK CIRCLE,BOTTOMc,LIGHT FOUR POINTED BLACK CUSP,ROTATEDe",
       "WHITE FOUR POINTEDa,ROTATEDd,SQUARE POSITION INDICATOR,UNCERTAINTY SIGN,GROUP MARK",
       "PLUTO FORM TWO,bTHREE,bFOUR,bFIVE,TRANSPLUTO,PROSERPINA,ASTRAEA,HYGIEA,PHOLUS,NESSUS",
       "WHITE MOON SELENA,BLACK DIAMOND ON CROSS,TRUE LIGHT MOON ARTA,CUPIDO,HADES,ZEUS,KRONOS",
       "APOLLON,ADMETOS,VULCANUS,POSEIDON,LEFT HALF BLACK STAR,RIGHTc,STAR WITH LEFT HALF BLACK",
       "bRIGHTb,LEFTWARDS TWO-HEADED ARROW WITH TRIANGLE ARROWHEADS,UPWARDSe,RIGHTWARDSe",
       "DOWNWARDSe,ERIS FORM ONE,bTWO,SEDNA"]⟩,
    ⟨0x2BF3, "RUSSIAN ASTROLOGICAL SYMBOL ",
      ["VIGINTILE,NOVILE,QUINTILE,BINOVILE,SENTAGON,TREDECILE"]⟩,
    ⟨0x2BF9, "",
      ["EQUALS SIGN WITH INFINITY BELOW,UNITED SYMBOL,SEPARATEDa,DOUBLEDa,PASSEDa",
       "REVERSED RIGHT ANGLE,HELLSCHREIBER PAUSE SYMBOL"]⟩,
    ⟨0x2C00, "GLAGOLITIC CAPITAL LETTER ",
      ["AZU,BUKY,VEDE,GLAGOLI,DOBRO,YESTU,ZHIVETE,DZELO,ZEMLJA,IZHE,INITIALa,I,DJERVI,KAKO",
       "LJUDIJE,MYSLITE,NASHI,ONU,POKOJI,RITSI,SLOVO,TVRIDO,UKU,FRITU,HERU,OTU,PE,SHTA,TSI",
       "CHRIVI,SHA,YERU,YERI,YATI,SPIDERY HA,YU,SMALL YUS,bWITH TAIL,YO,IOTATED SMALL YUS,BIGa",
       "IOTATEDb,FITA,IZHITSA,SHTAPIC,TROKUTASTI A,LATINATE MYSLITE,CAUDATE CHRIVI"]⟩,
    ⟨0x2C30, "GLAGOLITIC SMALL LETTER ",
      ["AZU,BUKY,VEDE,GLAGOLI,DOBRO,YESTU,ZHIVETE,DZELO,ZEMLJA,IZHE,INITIALa,I,DJERVI,KAKO",
       "LJUDIJE,MYSLITE,NASHI,ONU,POKOJI,RITSI,SLOVO,TVRIDO,UKU,FRITU,HERU,OTU,PE,SHTA,TSI",
       "CHRIVI,SHA,YERU,YERI,YATI,SPIDERY HA,YU,SMALL YUS,bWITH TAIL,YO,IOTATED SMALL YUS,BIGa",
       "IOTATEDb,FITA,IZHITSA,SHTAPIC,TROKUTASTI A,LATINATE MYSLITE,CAUDATE CHRIVI"]⟩,
    ⟨0x2C60, "LATIN ",
      ["CAPITAL LETTER L WITH DOUBLE BAR,SMALLe,CAPITAL LETTER L WITH MIDDLE TILDE",
       "bP WITH STROKE,bR WITH TAIL,SMALL LETTER A WITH STROKE,bT WITH DIAGONALa",
       "CAPITAL LETTER H WITH DESCENDER,SMALLd,CAPITAL LETTER Kb,SMALLd,CAPITAL LETTER Zb",
       "SMALLd,CAPITAL LETTER ALPHA,bM WITH HOOK,bTURNED A,cALPHA",
       "SMALL LETTER V WITH RIGHT HOOK,CAPITAL LETTER W WITHa,SMALLd,bV WITH CURL",
       "CAPITAL LETTER HALF H,SMALLc,bTAILLESS PHI,bE WITH NOTCH,bTURNED R WITH TAIL",
       "bO WITH LOW RING INSIDE,LETTER SMALL CAPITAL TURNED E,SUBSCRIPT SMALL LETTER J"]⟩,
    ⟨0x2C7D, "MODIFIER LETTER CAPITAL ",
      ["V"]⟩,
    ⟨0x2C7E, "LATIN CAPITAL LETTER ",
      ["S WITH SWASH TAIL,Zc"]⟩,
    ⟨0x2C80, "COPTIC ",
      ["CAPITAL LETTER ALFA,SMALLb,CAPITAL LETTER VIDA,SMALLb,CAPITAL LETTER GAMMA,SMALLb",
       "CAPITAL LETTER DALDA,SMALLb,CAPITAL LETTER EIE,SMALLb,CAPITAL LETTER SOU,SMALLb",
       "CAPITAL LETTER ZATA,SMALLb,CAPITAL LETTER HATE,SMALLb,CAPITAL LETTER THETHE,SMALLb",
       "CAPITAL LETTER IAUDA,SMALLb,CAPITAL LETTER KAPA,SMALLb,CAPITAL LETTER LAULA,SMALLb",
       "CAPITAL LETTER MI,SMALLb,CAPITAL LETTER NI,SMALLb,CAPITAL LETTER KSI,SMALLb",
       "CAPITAL LETTER O,SMALLb,CAPITAL LETTER PI,SMALLb,CAPITAL LETTER RO,SMALLb",
       "CAPITAL LETTER SIMA,SMALLb,CAPITAL LETTER TAU,SMALLb,CAPITAL LETTER UA,SMALLb",
       "CAPITAL LETTER FI,SMALLb,CAPITAL LETTER KHI,SMALLb,CAPITAL LETTER PSI,SMALLb",
       "CAPITAL LETTER OOU,SMALLb,CAPITAL LETTER DIALECT-P ALEF,SMALLc",
       "CAPITAL LETTER OLD COPTIC AIN,SMALLd,CAPITAL LETTER CRYPTOGRAMMIC EIE,SMALLc",
       "CAPITAL LETTER DIALECT-P KAPA,SMALLc,CAPITAL LETTER DIALECT-P NI,SMALLc",
       "CAPITAL LETTER CRYPTOGRAMMICa,SMALLc,CAPITAL LETTER OLD COPTIC OOU,SMALLd",
       "CAPITAL LETTER SAMPI,SMALLb,CAPITAL LETTER CROSSED SHEI,SMALLc",
       "CAPITAL LETTER OLD COPTICa,SMALLd,CAPITAL LETTER OLD COPTIC ESH,SMALLd",
       "CAPITAL LETTER AKHMIMIC KHEI,SMALLc,CAPITAL LETTER DIALECT-P HORI,SMALLc",
       "CAPITAL LETTER OLD COPTICa,SMALLd,CAPITAL LETTER OLD COPTIC HA,SMALLd",
       "CAPITAL LETTER L-SHAPEDa,SMALLc,CAPITAL LETTER OLD COPTIC HEI,SMALLd",
       "CAPITAL LETTER OLD COPTIC HAT,SMALLd,CAPITAL LETTER OLD COPTIC GANGIA,SMALLd",
       "CAPITAL LETTER OLD COPTIC DJA,SMALLd,CAPITAL LETTER OLD COPTIC SHIMA,SMALLd",
       "CAPITAL LETTER OLD NUBIANa,SMALLd,CAPITAL LETTER OLD NUBIAN NGI,SMALLd",
       "CAPITAL LETTER OLD NUBIAN NYI,SMALLd,CAPITAL LETTER OLD NUBIAN WAU,SMALLd,SYMBOL KAI",
       "aMI RO,aPIa,aSTAUROS,aTAU RO,aKHIa,aSHIMA SIMA,CAPITAL LETTER CRYPTOGRAMMIC SHEI,SMALLc",
       "CAPITAL LETTER CRYPTOGRAMMIC GANGIA,SMALLc,COMBINING NI ABOVE,aSPIRITUS ASPER,bLENIS",
       "CAPITAL LETTER BOHAIRIC KHEI,SMALLc,,,,,,OLD NUBIAN FULL STOP,bDIRECT QUESTION MARK",
       "bINDIRECTb,bVERSE DIVIDER,FRACTION ONE HALF,FULL STOP,MORPHOLOGICAL DIVIDER"]⟩,
    ⟨0x2D00, "GEORGIAN SMALL LETTER ",
      ["AN,BAN,GAN,DON,EN,VIN,ZEN,TAN,IN,KAN,LAS,MAN,NAR,ON,PAR,ZHAR,RAE,SAN,TAR,UN,PHAR,KHAR",
       "GHAN,QAR,SHIN,CHIN,CAN,JIL,CIL,CHAR,XAN,JHAN,HAE,HE,HIE,WE,HAR,HOE,,YN,,,,,,AEN"]⟩,
    ⟨0x2D30, "TIFINAGH LETTER ",
      ["YA,YAB,YABH,YAG,YAGHH,BERBER ACADEMY YAJ,YAJ,YAD,YADH,YADD,YADDH,YEY,YAF,YAK,TUAREGa",
       "YAKHH,YAH,BERBER ACADEMYa,TUAREGa,YAHH,YAA,YAKH,TUAREGa,YAQ,TUAREGa,YI,YAZH,AHAGGARa",
       "TUAREGa,YAL,YAM,YAN,TUAREG YAGN,aYANG,YAP,YU,YAR,YARR,YAGH,TUAREGa,AYERa,YAS,YASS,YASH",
       "YAT,YATH,YACH,YATT,YAV,YAW,YAY,YAZ,TAWELLEMETa,YAZZ,YE,YO"]⟩,
    ⟨0x2D6F, "TIFINAGH ",
      ["MODIFIER LETTER LABIALIZATION MARK,SEPARATORa"]⟩,
    ⟨0x2D7F, "TIFINAGH CONSONANT ",
      ["JOINER"]⟩,
    ⟨0x2D80, "ETHIOPIC SYLLABLE ",
      ["LOA,MOA,ROA,SOA,SHOA,BOA,TOA,COA,NOA,NYOA,GLOTTAL OA,ZOA,DOA,DDOA,JOA,THOA,CHOA,PHOA",
       "POA,GGWA,GGWI,GGWEE,GGWE,,,,,,,,,,SSA,SSU,SSI,SSAA,SSEE,SSE,SSO,,CCA,CCU,CCI,CCAA,CCEE",
       "CCE,CCO,,ZZA,ZZU,ZZI,ZZAA,ZZEE,ZZE,ZZO,,CCHA,CCHU,CCHI,CCHAA,CCHEE,CCHE,CCHO,,QYA,QYU",
       "QYI,QYAA,QYEE,QYE,QYO,,KYA,KYU,KYI,KYAA,KYEE,KYE,KYO,,XYA,XYU,XYI,XYAA,XYEE,XYE,XYO,",
       "GYA,GYU,GYI,GYAA,GYEE,GYE,GYO"]⟩,
    ⟨0x2DE0, "COMBINING CYRILLIC LETTER ",
      ["BE,VE,GHE,DE,ZHE,ZE,KA,EL,EM,EN,O,PE,ER,ES,TE,HA,TSE,CHE,SHA,SHCHA,FITA,ES-TE,A,IE",
       "DJERV,MONOGRAPH UK,YAT,YU,IOTIFIED A,LITTLE YUS,BIGa,IOTIFIEDb"]⟩,
    ⟨0x2E00, "RIGHT ANGLE ",
      ["SUBSTITUTION MARKER,DOTTEDb"]⟩,
    ⟨0x2E02, "",
      ["LEFT SUBSTITUTION BRACKET,RIGHTb,LEFT DOTTEDb,RIGHTc,RAISED INTERPOLATION MARKER",
       "aDOTTEDb,DOTTED TRANSPOSITIONa,LEFT TRANSPOSITION BRACKET,RIGHTb,RAISED SQUARE",
       "LEFT RAISED OMISSION BRACKET,RIGHTc,EDITORIAL CORONIS,PARAGRAPHOS,FORKEDa,REVERSEDb",
       "HYPODIASTOLE,DOTTED OBELOS,DOWNWARDS ANCORA,UPWARDSa,DOTTED RIGHT-POINTING ANGLE",
       "DOUBLE OBLIQUE HYPHEN,INVERTED INTERROBANG,PALM BRANCH,HYPHEN WITH DIAERESIS",
       "TILDE WITH RING ABOVE,LEFT LOW PARAPHRASE BRACKET,RIGHTc,TILDE WITH DOT ABOVE,cBELOW",
       "LEFT VERTICAL BAR WITH QUILL,RIGHTd,TOP LEFT HALF BRACKET,aRIGHTb,BOTTOM LEFTb,aRIGHTb",
       "LEFT SIDEWAYS Ua,RIGHTc,LEFT DOUBLE PARENTHESIS,RIGHTb",
       "TWO DOTS OVER ONE DOT PUNCTUATION,ONE DOT OVER TWO DOTSa,SQUARED FOUR DOTa",
       "FIVE DOT MARK,REVERSED QUESTIONa,VERTICAL TILDE,RING POINT,WORD SEPARATOR MIDDLE DOT",
       "TURNED COMMA,RAISED DOT,aCOMMA,TURNED SEMICOLON,DAGGER WITH LEFT GUARD,bRIGHTa",
       "TURNED DAGGER,TOP HALF SECTION SIGN,TWO-EM DASH,THREE-EMa,STENOGRAPHIC FULL STOP",
       "VERTICAL SIX DOTS,WIGGLY VERTICAL LINE,CAPITULUM,DOUBLE HYPHEN,REVERSED COMMA",
       "DOUBLE LOW-REVERSED-9 QUOTATION MARK,DASH WITH LEFT UPTURN,DOUBLE SUSPENSION MARK",
       "INVERTED LOW KAVYKA,cWITH KAVYKA ABOVE,LOW KAVYKA,bWITH DOT,DOUBLE STACKED COMMA",
       "DOTTED SOLIDUS,TRIPLE DAGGER,MEDIEVAL COMMA,PARAGRAPHUS MARK,PUNCTUS ELEVATUSa",
       "CORNISH VERSE DIVIDER,CROSS PATTY WITH RIGHT CROSSBAR,cLEFTa,TIRONIAN SIGN CAPITAL ET",
       "MEDIEVAL EXCLAMATION MARK,aQUESTIONa,LEFT SQUARE BRACKET WITH STROKE,RIGHTd",
       "LEFT SQUARE BRACKET WITH DOUBLEa,RIGHTe,TOP HALF LEFT PARENTHESIS,bRIGHTa",
       "BOTTOM HALF LEFTa,bRIGHTa,OBLIQUE HYPHEN"]⟩,
    ⟨0x2E80, "CJK RADICAL ",
      ["REPEAT,CLIFF,SECOND ONE,aTWO,aTHREE,PERSON,BOX,TABLE,KNIFE ONE,aTWO,DIVINATION,SEAL",
       "SMALL ONE,aTWO,LAME ONE,aTWO,aTHREE,aFOUR,SNAKE,THREAD,SNOUT ONE,aTWO,HEART ONE,aTWO",
       "HAND,RAP,,CHOKE,SUN,MOON,DEATH,MOTHER,CIVILIAN,WATER ONE,aTWO,FIRE,PAW ONE,aTWO",
       "SIMPLIFIED HALF TREE TRUNK,COW,DOG,JADE,BOLT OF CLOTH,EYE,SPIRIT ONE,aTWO,BAMBOO,SILK",
       "C-SIMPLIFIEDa,NET ONE,aTWO,aTHREE,aFOUR,MESH,SHEEP,RAM,EWE,OLD,BRUSH ONE,aTWO,MEAT",
       "MORTAR,GRASS ONE,aTWO,aTHREE,TIGER,CLOTHES,WEST ONE,aTWO,C-SIMPLIFIED SEE",
       "SIMPLIFIED HORN,HORN,C-SIMPLIFIED SPEECH,aSHELL,FOOT,C-SIMPLIFIED CART,SIMPLIFIED WALK",
       "WALK ONE,aTWO,CITY,C-SIMPLIFIED GOLD,LONG ONE,aTWO,C-SIMPLIFIED LONG,aGATE,MOUND ONE",
       "aTWO,RAIN,BLUE,C-SIMPLIFIED TANNED LEATHER,aLEAF,aWIND,aFLY,EAT ONE,aTWO,aTHREE",
       "C-SIMPLIFIED EAT,HEAD,C-SIMPLIFIED HORSE,BONE,GHOST,C-SIMPLIFIED FISH,aBIRD,aSALT",
       "SIMPLIFIED WHEAT,aYELLOW,C-SIMPLIFIED FROG,J-SIMPLIFIED EVEN,C-SIMPLIFIEDa",
       "J-SIMPLIFIED TOOTH,C-SIMPLIFIEDa,J-SIMPLIFIED DRAGON,C-SIMPLIFIEDa,TURTLE,J-SIMPLIFIEDa",
       "C-SIMPLIFIEDa"]⟩,
    ⟨0x2F00, "KANGXI RADICAL ",
      ["ONE,LINE,DOT,SLASH,SECOND,HOOK,TWO,LID,MAN,LEGS,ENTER,EIGHT,DOWN BOX,COVER,ICE,TABLE",
       "OPEN BOX,KNIFE,POWER,WRAP,SPOON,RIGHT OPEN BOX,HIDING ENCLOSURE,TEN,DIVINATION,SEAL",
       "CLIFF,PRIVATE,AGAIN,MOUTH,ENCLOSURE,EARTH,SCHOLAR,GO,aSLOWLY,EVENING,BIG,WOMAN,CHILD",
       "ROOF,INCH,SMALL,LAME,CORPSE,SPROUT,MOUNTAIN,RIVER,WORK,ONESELF,TURBAN,DRY,SHORT THREAD",
       "DOTTED CLIFF,LONG STRIDE,TWO HANDS,SHOOT,BOW,SNOUT,BRISTLE,STEP,HEART,HALBERD,DOOR,HAND",
       "BRANCH,RAP,SCRIPT,DIPPER,AXE,SQUARE,NOT,SUN,SAY,MOON,TREE,LACK,STOP,DEATH,WEAPON,DO NOT",
       "COMPARE,FUR,CLAN,STEAM,WATER,FIRE,CLAW,FATHER,DOUBLE X,HALF TREE TRUNK,SLICE,FANG,COW",
       "DOG,PROFOUND,JADE,MELON,TILE,SWEET,LIFE,USE,FIELD,BOLT OF CLOTH,SICKNESS,DOTTED TENT",
       "WHITE,SKIN,DISH,EYE,SPEAR,ARROW,STONE,SPIRIT,TRACK,GRAIN,CAVE,STAND,BAMBOO,RICE,SILK",
       "JAR,NET,SHEEP,FEATHER,OLD,AND,PLOW,EAR,BRUSH,MEAT,MINISTER,SELF,ARRIVE,MORTAR,TONGUE",
       "OPPOSE,BOAT,STOPPING,COLOR,GRASS,TIGER,INSECT,BLOOD,WALK ENCLOSURE,CLOTHES,WEST,SEE",
       "HORN,SPEECH,VALLEY,BEAN,PIG,BADGER,SHELL,RED,RUN,FOOT,BODY,CART,BITTER,MORNING,WALK",
       "CITY,WINE,DISTINGUISH,VILLAGE,GOLD,LONG,GATE,MOUND,SLAVE,SHORT TAILED BIRD,RAIN,BLUE",
       "WRONG,FACE,LEATHER,TANNEDa,LEEK,SOUND,LEAF,WIND,FLY,EAT,HEAD,FRAGRANT,HORSE,BONE,TALL",
       "HAIR,FIGHT,SACRIFICIAL WINE,CAULDRON,GHOST,FISH,BIRD,SALT,DEER,WHEAT,HEMP,YELLOW,MILLET",
       "BLACK,EMBROIDERY,FROG,TRIPOD,DRUM,RAT,NOSE,EVEN,TOOTH,DRAGON,TURTLE,FLUTE"]⟩,
    ⟨0x2FF0, "IDEOGRAPHIC DESCRIPTION CHARACTER ",
      ["LEFT TO RIGHT,ABOVE TO BELOW,LEFT TO MIDDLE AND RIGHT,ABOVE TO MIDDLE AND BELOW",
       "FULL SURROUND,SURROUND FROM ABOVE,bBELOW,bLEFT,bUPPERa,cRIGHT,bLOWER LEFT,OVERLAID"]⟩ ]

end LineTally.CharNames
