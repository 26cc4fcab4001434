/-!
# Names of symbols

The names of the characters from the general punctuation to the Han description signs, in the
form that `CharacterName.find?` reads.
-/

namespace AccessControl

/-- The names of the characters from the general punctuation to the Han description signs. -/
def symbolNames : List String :=
  ["2000aEN QUADaEM QUADaEN SPACEaEM SPACEaTHREE-PER-EM SPACEaFOUR-PER-EM SPACEaSIX-PER-EM SPACE",
   "aFIGURE SPACEaPUNCTUATION SPACEaTHIN SPACEaHAIR SPACEaZERO WIDTH SPACEcNON-JOINERcJOINER",
   "aLEFT-TO-RIGHT paRIGHT-TO-LEFT paHYPHENaNON-BREAKING HYPHENaFIGURE DASHaEN DASHaEM DASHanBAR",
   "a:@LINEbLOW LINEa<SINGLE QUOTATION pa*SINGLE QUOTATION paSINGLE LOW-9 QUOTATION p",
   "bHIGH-REVERSED-9 QUOTATION pa<:QUOTATION pa*:QUOTATION pa:LOW-9 QUOTATION p",
   "bHIGH-REVERSED-9 QUOTATION paDAGGERa:DAGGERaBULLETaTRIANGULAR BULLETaONE vLEADERawvLEADER",
   "anELLIPSISaHYPHENATION POINTaLINE SEPARATORaPARAGRAPH SEPARATORaLEFT-TO-RIGHT EMBEDDING",
   "aRIGHT-TO-LEFT EMBEDDINGaPOP DIRECTIONAL FORMATTINGaLEFT-TO-RIGHT OVERRIDE",
   "aRIGHT-TO-LEFT OVERRIDEaNARROW NO-BREAK SPACEaPER MILLE )bTEN u)aPRIMEa:PRIMEaTRIPLE PRIME",
   "aREVERSED PRIMEb:PRIMEbTRIPLE PRIMEaCARETaSINGLE LEFT-POINTING ANGLE QUOTATION p",
   "bRIGHT-POINTING ANGLE QUOTATION paREFERENCE pa:EXCLAMATION paINTERROBANGaOVERLINEaUNDERTIE",
   "aCHARACTER TIEaCARET INSERTION POINTaASTERISMaHYPHEN BULLETaFRACTION SLASHa<SQUARE t#QUILL",
   "a*SQUARE t#QUILLa:QUESTION paQUESTION EXCLAMATION paEXCLAMATION QUESTION paTIRONIAN )ET",
   "aREVERSED PILCROW )a^?BULLETb.BULLETaLOW ASTERISKaREVERSED SEMICOLONaCLOSE UP",
   "awASTERISKS ALIGNED VERTICALLYaCOMMERCIAL MINUS )aSWUNG DASHaINVERTED UNDERTIE",
   "aFLOWER PUNCTUATION pa]vPUNCTUATIONaQUADRUPLE PRIMEaFOUR vPUNCTUATIONaFIVE vPUNCTUATION",
   "awvPUNCTUATIONaFOUR vpaDOTTED CROSSaTRICOLONa@FOUR DOTSaMEDIUM MATHEMATICAL SPACEaWORD JOINER",
   "aFUNCTION APPLICATIONaINVISIBLE zbSEPARATORbPLUS",
   "2066aLEFT-TO-RIGHT ISOLATEaRIGHT-TO-LEFT ISOLATEaFIRST STRONG ISOLATEaPOP DIRECTIONAL ISOLATE",
   "aINHIBIT SYMMETRIC SWAPPINGaACTIVATE SYMMETRIC SWAPPINGaINHIBIT ARABIC (SHAPING",
   "aACTIVATE ARABIC (SHAPINGaNATIONAL DIGIT SHAPESaNOMINAL DIGIT SHAPESaSUPERSCRIPT ZERO",
   "bLATIN %!I",
   "2074bFOURbFIVEbSIXbSEVENbEIGHTbNINEbPLUS )bMINUSbEQUALS )b<PARENTHESISb*PARENTHESISbLATIN %!N",
   "aSUBSCRIPT ZERObONEbwb]bFOURbFIVEbSIXbSEVENbEIGHTbNINEbPLUS )bMINUSbEQUALS )b<PARENTHESIS",
   "b*PARENTHESIS",
   "2090aLATIN SUBSCRIPT %!AeEeOeXeSCHWAeHeKeLeMeNePeSeT",
   "20A0aEURO-CURRENCY )aCOLON )aCRUZEIRO )aFRENCH FRANC )aLIRA )aMILL )aNAIRA )aPESETA )aRUPEE )",
   "aWON )aNEW SHEQEL )aDONG )aEURO )aKIP )aTUGRIK )aDRACHMA )aGERMAN PENNY )aPESO )aGUARANI )",
   "aAUSTRAL )aHRYVNIA )aCEDI )aLIVRE TOURNOIS )aSPESMILO )aTENGE )aINDIAN RUPEE )aTURKISH LIRA )",
   "aNORDIC p)aMANAT )aRUBLE )aLARI )aBITCOIN )aSOM )",
   "20D0aCOMBINING <HARPOON ,b*HARPOON ,bLONG @LINE OVERLAYbSHORT @LINE OVERLAYbANTICLOCKWISE &,",
   "bCLOCKWISE &,b<&,b*&,bRING OVERLAYbCLOCKWISE RING OVERLAYbANTICLOCKWISE RING OVERLAYb]DOTS ,",
   "bFOUR DOTS ,bENCLOSING CIRCLEcSQUAREcDIAMONDcCIRCLE BACKSLASHb<*&,bENCLOSING SCREENcKEYCAP",
   "cUPWARD POINTING TRIANGLEbREVERSE SOLIDUS OVERLAYb:@~OVERLAYbANNUITY mbTRIPLE UNDERDOT",
   "bWIDE BRIDGE ,b?&OVERLAYbLONG :SOLIDUS OVERLAYb.HARPOON #BARB qb?HARPOON #BARB qb<&[b*&[",
   "bASTERISK ,",
   "2100aACCOUNT OFaADDRESSED TO THE SUBJECTaDOUBLE-STRUCK $CaDEGREE CELSIUSaCENTRE LINE maCARE OF",
   "aCADA UNAaEULER CONSTANTaSCRUPLEaDEGREE FAHRENHEITaSCRIPT %Gb$HaBLACK-LETTER $H",
   "aDOUBLE-STRUCK $HaPLANCK CONSTANTcOVER wPIaSCRIPT $IaBLACK-LETTER $IaSCRIPT $Lb%LaL B BAR m",
   "aDOUBLE-STRUCK $NaNUMERO )aSOUND RECORDING COPYRIGHTaSCRIPT $PaDOUBLE-STRUCK $PcQaSCRIPT $R",
   "aBLACK-LETTER $RaDOUBLE-STRUCK $RaPRESCRIPTION TAKEaRESPONSEaSERVICE paTELEPHONE )aTRADE p)",
   "aVERSICLEaDOUBLE-STRUCK $ZaOUNCE )aOHM )aINVERTED OHM )aBLACK-LETTER $ZaTURNED GREEK %!IOTA",
   "aKELVIN )aANGSTROM )aSCRIPT $BaBLACK-LETTER $CaESTIMATED maSCRIPT %Eb$EcFaTURNED $FaSCRIPT $M",
   "b%OaALEF maBET maGIMEL maDALET maINFORMATION SOURCEaROTATED $QaFACSIMILE )aDOUBLE-STRUCK %PI",
   "cGAMMAb$GAMMAcPIbN-ARY SUMMATIONaTURNED SANS-SERIF $GdLaREVERSED SANS-SERIF $L",
   "aTURNED SANS-SERIF $YaDOUBLE-STRUCK ITALIC $Dc%DdEdIdJaPROPERTY LINEaTURNED AMPERSANDaPER )",
   "aAKTIESELSKABaTURNED %FamFOR SAMARITAN SOURCEaVULGAR FRACTION ONE SEVENTHdNINTHdTENTHdTHIRD",
   "cwTHIRDScONE FIFTHcwFIFTHSc]FIFTHScFOUR FIFTHScONE SIXTHcFIVE SIXTHScONE EIGHTHc]EIGHTHS",
   "cFIVE EIGHTHScSEVEN EIGHTHSaFRACTION NUMERATOR ONEaROMAN NUMERAL ONEcwc]cFOURcFIVEcSIXcSEVEN",
   "cEIGHTcNINEcTENcELEVENcTWELVEcFIFTYcONE rcFIVE rcONE ua%ROMAN NUMERAL ONEdwd]dFOURdFIVEdSIX",
   "dSEVENdEIGHTdNINEdTENdELEVENdTWELVEdFIFTYdONE rdFIVE rdONE uaROMAN NUMERAL ONE uC DcFIVE u",
   "cTEN ucREVERSED ONE raLATIN %!REVERSED CaROMAN NUMERAL SIX LATE (cFIFTY EARLY (ducONE ru",
   "aVULGAR FRACTION ZERO THIRDSaTURNED DIGIT wc]",
   "2190a?&aUPWARDS &a.&aq&a<*&aUP DOWN &aNORTH WEST &bEAST &aSOUTH EAST &bWEST &a?&#~a.&#~",
   "a?WAVE &a.WAVE &a?wHEADED &aUPWARDS wHEADED &a.wHEADED &aqwHEADED &a?&#TAILa.&#TAILa?&FROM BAR",
   "aUPWARDS &FROM BARa.&FROM BARaq&FROM BARaUP DOWN &#BASEa?&#HOOKa.&#HOOKa?&#LOOPa.&#LOOP",
   "a<*WAVE &c&#~aqZIGZAG &aUPWARDS &#TIP ?e.aq&#TIP ?e.a.&#CORNER qaq&#CORNER ?",
   "aANTICLOCKWISE TOP SEMICIRCLE &aCLOCKWISE TOP SEMICIRCLE &aNORTH WEST &TO LONG BAR",
   "a?&TO BAR OVER .&TO BARaANTICLOCKWISE OPEN CIRCLE &aCLOCKWISE OPEN CIRCLE &",
   "a?HARPOON #BARB UPWARDSeqaUPWARDS HARPOON #BARB .e?a.HARPOON #BARB UPWARDSeqaqHARPOON #BARB .",
   "e?a.&OVER ?&aUPWARDS &?OF q&a?&OVER .&bPAIRED ARROWSaUPWARDS PAIRED ARROWSa.PAIRED ARROWS",
   "aqPAIRED ARROWSa?HARPOON OVER .HARPOONa.HARPOON OVER ?HARPOONa?:&#~a<*:&#~a.:&#~a?:&",
   "aUPWARDS :&a.:&aq:&a<*:&aUP DOWN :&aNORTH WEST :&bEAST :&aSOUTH EAST :&bWEST :&a?TRIPLE &",
   "a.TRIPLE &a?SQUIGGLE &a.SQUIGGLE &aUPWARDS &#:~aq&#:~a?DASHED &aUPWARDS DASHED &a.DASHED &",
   "aqDASHED &a?&TO BARa.&TO BARa?_&aUPWARDS _&a._&aq_&aUPWARDS _&FROM BARdON PEDESTALf#nBARg@BAR",
   "c:&eON PEDESTALa._&FROM WALLaNORTH WEST &TO CORNERaSOUTH EAST &TO CORNERaUP DOWN _&a*&#%CIRCLE",
   "aq&?OF UPWARDS &a].ARROWSa?&#@~a.&#@~a<*&#@~a?&#:@~a.&#:@~a<*&#:@~a?OPEN-HEADED &",
   "a.OPEN-HEADED &a<*OPEN-HEADED &aFOR ALLaCOMPLEMENTaPARTIAL DIFFERENTIALaTHERE EXISTS",
   "bDOES NOT EXISTaEMPTY SETaINCREMENTaNABLAaELEMENT OFaNOT AN ELEMENT OFa%ELEMENT OF",
   "aCONTAINS AS MEMBERaDOES NOT CONTAIN AS MEMBERa%CONTAINS AS MEMBERaEND OF PROOFaN-ARY PRODUCT",
   "bCOPRODUCTbSUMMATIONaMINUS )aMINUS-OR-PLUS )avPLUSaDIVISION SLASHaSET MINUSaASTERISK OPERATOR",
   "aRING OPERATORaBULLET OPERATORaSQUARE ROOTaCUBE ROOTaFOURTH ROOTaPROPORTIONAL TOaINFINITY",
   "a*ANGLEaANGLEaMEASURED ANGLEaSPHERICAL ANGLEaDIVIDESaDOES NOT DIVIDEaPARALLEL TO",
   "aNOT PARALLEL TOaLOGICAL ;bORaINTERSECTIONaUNIONaINTEGRALa:INTEGRALaTRIPLE INTEGRAL",
   "aCONTOUR INTEGRALaSURFACE INTEGRALaVOLUME INTEGRALaCLOCKWISE INTEGRALbCONTOUR INTEGRAL",
   "aANTICLOCKWISE CONTOUR INTEGRALaTHEREFOREaBECAUSEaRATIOaPROPORTIONavMINUSaEXCESS",
   "aGEOMETRIC PROPORTIONaHOMOTHETICaTILDE OPERATORaREVERSED TILDEaINVERTED LAZY SaSINE WAVE",
   "aWREATH PRODUCTaNOT TILDEaMINUS TILDEaASYMPTOTICALLY EQUAL TOaNOT ASYMPTOTICALLY EQUAL TO",
   "aAPPROXIMATELY EQUAL TObBUT NOT ACTUALLY EQUAL TOaNEITHER APPROXIMATELY NOR ACTUALLY EQUAL TO",
   "aALMOST EQUAL TOaNOT ALMOST EQUAL TOaALMOST EQUAL OR EQUAL TOaTRIPLE TILDEaALL EQUAL TO",
   "aEQUIVALENT TOaGEOMETRICALLY EQUIVALENT TOaDIFFERENCE BETWEENaAPPROACHES THE LIMIT",
   "aGEOMETRICALLY EQUAL TOaAPPROXIMATELY EQUAL TO OR THE IMAGE OF",
   "aIMAGE OF OR APPROXIMATELY EQUAL TOaCOLON EQUALSaEQUALS COLONaRING IN EQUAL TObEQUAL TO",
   "aCORRESPONDS TOaESTIMATESaEQUIANGULAR TOaSTAR EQUALSaDELTA EQUAL TOaEQUAL TO BY DEFINITION",
   "aMEASURED BYaQUESTIONED EQUAL TOaNOT EQUAL TOaIDENTICAL TOaNOT IDENTICAL TO",
   "aSTRICTLY EQUIVALENT TOaLESS-THAN OR EQUAL TOaGREATER-THAN OR EQUAL TOaLESS-THAN OVER EQUAL TO",
   "aGREATER-THAN OVER EQUAL TOaLESS-THAN BUT NOT EQUAL TOaGREATER-THAN BUT NOT EQUAL TO",
   "aMUCH LESS-THANbGREATER-THANaBETWEENaNOT EQUIVALENT TObLESS-THANbGREATER-THAN",
   "aNEITHER LESS-THAN NOR EQUAL TObGREATER-THAN NOR EQUAL TOaLESS-THAN OR EQUIVALENT TO",
   "aGREATER-THAN OR EQUIVALENT TOaNEITHER LESS-THAN NOR EQUIVALENT TO",
   "bGREATER-THAN NOR EQUIVALENT TOaLESS-THAN OR GREATER-THANaGREATER-THAN OR LESS-THAN",
   "aNEITHER LESS-THAN NOR GREATER-THANbGREATER-THAN NOR LESS-THANaPRECEDESaSUCCEEDS",
   "aPRECEDES OR EQUAL TOaSUCCEEDS OR EQUAL TOaPRECEDES OR EQUIVALENT TOaSUCCEEDS OR EQUIVALENT TO",
   "aDOES NOT PRECEDEcSUCCEEDaSUBSET OFaSUPERSET OFaNOT A SUBSET OFcSUPERSET OF",
   "aSUBSET OF OR EQUAL TOaSUPERSET OF OR EQUAL TOaNEITHER A SUBSET OF NOR EQUAL TO",
   "cSUPERSET OF NOR EQUAL TOaSUBSET OF #NOT EQUAL TOaSUPERSET OF #NOT EQUAL TOaMULTISET",
   "bMULTIPLICATIONbUNIONaSQUARE IMAGE OFbORIGINAL OFbIMAGE OF OR EQUAL TObORIGINAL OF OR EQUAL TO",
   "bCAPbCUPaCIRCLED PLUSbMINUSbzbDIVISION SLASHbvOPERATORbRING OPERATORbASTERISK OPERATORbEQUALS",
   "bDASHaSQUARED PLUSbMINUSbzbvOPERATORa*TACKa<TACKaDOWN TACKaUP TACKaASSERTIONaMODELSaTRUE",
   "aFORCESaTRIPLE @BAR *TURNSTILEa:@BAR :*TURNSTILEaDOES NOT PROVEaNOT TRUEaDOES NOT FORCE",
   "aNEGATED :@BAR :*TURNSTILEaPRECEDES UNDER RELATIONaSUCCEEDS UNDER RELATIONaNORMAL SUBGROUP OF",
   "aCONTAINS AS NORMAL SUBGROUPaNORMAL SUBGROUP OF OR EQUAL TO",
   "aCONTAINS AS NORMAL SUBGROUP OR EQUAL TOaORIGINAL OFaIMAGE OFaMULTIMAP",
   "aHERMITIAN CONJUGATE MATRIXaINTERCALATEaXORaNANDaNORa*ANGLE #ARCbTRIANGLEaN-ARY LOGICAL ;cOR",
   "bINTERSECTIONbUNIONaDIAMOND OPERATORavOPERATORaSTAR OPERATORaDIVISION zaBOWTIE",
   "a<NORMAL FACTOR SEMIDIRECT PRODUCTa*NORMAL FACTOR SEMIDIRECT PRODUCTa<SEMIDIRECT PRODUCT",
   "a*SEMIDIRECT PRODUCTaREVERSED TILDE EQUALSaCURLY LOGICAL ORc;a:SUBSETbSUPERSETbINTERSECTION",
   "bUNIONaPITCHFORKaEQUAL ;PARALLEL TOaLESS-THAN #vaGREATER-THAN #vaVERY MUCH LESS-THAN",
   "cGREATER-THANaLESS-THAN EQUAL TO OR GREATER-THANaGREATER-THAN EQUAL TO OR LESS-THAN",
   "aEQUAL TO OR LESS-THANdGREATER-THANdPRECEDESdSUCCEEDSaDOES NOT PRECEDE OR EQUAL",
   "cSUCCEED OR EQUALaNOT SQUARE IMAGE OF OR EQUAL TOcORIGINAL OF OR EQUAL TO",
   "aSQUARE IMAGE OF OR NOT EQUAL TObORIGINAL OF OR NOT EQUAL TOaLESS-THAN BUT NOT EQUIVALENT TO",
   "aGREATER-THAN BUT NOT EQUIVALENT TOaPRECEDES BUT NOT EQUIVALENT TO",
   "aSUCCEEDS BUT NOT EQUIVALENT TOaNOT NORMAL SUBGROUP OFaDOES NOT CONTAIN AS NORMAL SUBGROUP",
   "aNOT NORMAL SUBGROUP OF OR EQUAL TOaDOES NOT CONTAIN AS NORMAL SUBGROUP OR EQUALa@ELLIPSIS",
   "aMIDLINE nELLIPSISaUP *DIAGONAL ELLIPSISaDOWN *DIAGONAL ELLIPSISaELEMENT OF #LONG n~",
   "d@BAR AT END OF n~a%ELEMENT OF #@BAR AT END OF n~aELEMENT OF #v,dOVERBARa%ELEMENT OF #OVERBAR",
   "aELEMENT OF #UNDERBARdwnSTROKESaCONTAINS #LONG n~c@BAR AT END OF n~",
   "a%CONTAINS #@BAR AT END OF n~aCONTAINS #OVERBARa%CONTAINS #OVERBARaZ NOTATION BAG MEMBERSHIP",
   "aDIAMETER )aELECTRIC &aHOUSEaUP ARROWHEADaDOWN ARROWHEADaPROJECTIVEaPERSPECTIVEaWAVY LINE",
   "a<CEILINGa*CEILINGa<FLOORa*FLOORaBOTTOM *CROPb<CROPaTOP *CROPb<CROPaREVERSED NOT )",
   "aSQUARE LOZENGEaARCaSEGMENTaSECTORaTELEPHONE RECORDERaPOSITION INDICATORaVIEWDATA SQUARE",
   "aPLACE OF INTEREST )aTURNED NOT )aWATCHaHOURGLASSaTOP <CORNERb*CORNERaBOTTOM <CORNERb*CORNER",
   "aTOP HALF INTEGRALaBOTTOM HALF INTEGRALaFROWNaSMILEaUP ARROWHEAD BETWEEN wnBARSaOPTION KEY",
   "aERASE TO THE *aX IN A RECTANGLE BOXaKEYBOARDaLEFT-POINTING ANGLE taRIGHT-POINTING ANGLE t",
   "aERASE TO THE <aBENZENE RINGaCYLINDRICITYaALL AROUND-PROFILEaSYMMETRYaTOTAL RUNOUT",
   "aDIMENSION ORIGINaCONICAL TAPERaSLOPEaCOUNTERBOREaCOUNTERSINKaAPL FUNCTIONAL mI-BEAM",
   "dSQUISH QUADdQUAD EQUALeDIVIDEeDIAMONDeJOTeCIRCLEdCIRCLE STILEeJOTdSLASH BARdBACKSLASH BAR",
   "dQUAD SLASHeBACKSLASHeLESS-THANeGREATER-THANd?VANEd.VANEdQUAD ?&e.&dCIRCLE BACKSLASH",
   "dDOWN TACK UNDERBARdDELTA STILEdQUAD DOWN CARETeDELTAdDOWN TACK JOTdUPWARDS VANE",
   "dQUAD UPWARDS &dUP TACK OVERBARdDEL STILEdQUAD UP CARETeDELdUP TACK JOTdqVANEdQUAD q&",
   "dQUOTE UNDERBARdDELTA UNDERBARdDIAMOND UNDERBARdJOT UNDERBARdCIRCLE UNDERBARdUP SHOE JOT",
   "dQUOTE QUADdCIRCLE STARdQUAD COLONdUP TACK DIAERESISdDEL DIAERESISdSTAR DIAERESIS",
   "dJOT DIAERESISdCIRCLE DIAERESISdDOWN SHOE STILEd<SHOE STILEdTILDE DIAERESIS",
   "dGREATER-THAN DIAERESISdCOMMA BARdDEL TILDEdZILDEdSTILE TILDEdSEMICOLON UNDERBAR",
   "dQUAD NOT EQUALeQUESTIONdDOWN CARET TILDEdUP CARET TILDEdIOTAdRHOdOMEGAdALPHA UNDERBAR",
   "dEPSILON UNDERBARdIOTA UNDERBARdOMEGA UNDERBARdALPHAaNOT CHECK pa*ANGLE #qZIGZAG &",
   "aSHOULDERED OPEN BOXaBELL ma@LINE #ovaINSERTION maCONTINUOUS UNDERLINE m",
   "aDISCONTINUOUS UNDERLINE maEMPHASIS maCOMPOSITION ma_SQUARE #CENTRE @LINEaENTER m",
   "aALTERNATIVE KEY maHELM maCIRCLED nBAR #NOTCHbTRIANGLE DOWNaBROKEN CIRCLE #NORTHWEST &aUNDO m",
   "aMONOSTABLE maHYSTERESIS maOPEN-CIRCUIT-OUTPUT H-TYPE mbL-TYPE maPASSIVE-PULL-DOWN-OUTPUT m",
   "aPASSIVE-PULL-UP-OUTPUT maDIRECT CURRENT m(waSOFTWARE-FUNCTION maAPL FUNCTIONAL mQUAD",
   "aDECIMAL SEPARATOR KEY maPREVIOUS PAGEaNEXT PAGEaPRINT SCREEN maCLEAR SCREEN m",
   "a<PARENTHESIS UPPER HOOKcEXTENSIONcLOWER HOOKa*PARENTHESIS UPPER HOOKcEXTENSIONcLOWER HOOK",
   "a<SQUARE tUPPER CORNERdEXTENSIONdLOWER CORNERa*SQUARE tUPPER CORNERdEXTENSIONdLOWER CORNER",
   "a<CURLY tUPPER HOOKdoPIECEdLOWER HOOKaCURLY tEXTENSIONa*CURLY tUPPER HOOKdoPIECEdLOWER HOOK",
   "aINTEGRAL EXTENSIONanLINE EXTENSIONaUPPER <OR LOWER *CURLY tSECTIONb*OR LOWER <CURLY tSECTION",
   "aSUMMATION TOPbBOTTOMaTOP SQUARE taBOTTOM SQUARE tdOVER TOP SQUARE taRADICAL mBOTTOM",
   "a<@BOX LINEa*@BOX LINEanSCAN LINE-1cLINE-3cLINE-7cLINE-9aDENTISTRY mLIGHT @;TOP *fBOTTOM *",
   "e#CIRCLEdDOWN ;n#CIRCLEdUP ;n#CIRCLEd@#TRIANGLEdDOWN ;n#TRIANGLEdUP ;n#TRIANGLEd@;WAVE",
   "dDOWN ;n#WAVEdUP ;n#WAVEdDOWN ;ndUP ;nd@;TOP <fBOTTOM <aSQUARE FOOTaRETURN maEJECT m",
   "a@LINE EXTENSIONaMETRICAL BREVEbLONG OVER SHORTbSHORT OVER LONGbLONG OVER wSHORTS",
   "bwSHORTS OVER LONGdJOINEDbTRISEMEbTETRASEMEbPENTASEMEaEARTH GROUNDaFUSEaTOP PARENTHESIS",
   "aBOTTOM PARENTHESISaTOP CURLY taBOTTOM CURLY taTOP TORTOISE SHELL taBOTTOM TORTOISE SHELL t",
   "a_TRAPEZIUMaBENZENE RING #CIRCLEaSTRAIGHTNESSaFLATNESSaAC CURRENTaELECTRICAL INTERSECTION",
   "aDECIMAL EXPONENT ma^RIGHT-POINTING :TRIANGLEbLEFT-POINTING :TRIANGLEbUP-POINTING :TRIANGLE",
   "bDOWN-POINTING :TRIANGLEbRIGHT-POINTING :TRIANGLE #@BARbLEFT-POINTING :TRIANGLE #@BAR",
   "bRIGHT-POINTING TRIANGLE #:@BARaALARM CLOCKaSTOPWATCHaTIMER CLOCKaHOURGLASS #FLOWING SAND",
   "a^MEDIUM LEFT-POINTING TRIANGLEcRIGHT-POINTING TRIANGLEcUP-POINTING TRIANGLE",
   "cDOWN-POINTING TRIANGLEa:@BARa^SQUARE FOR STOPbCIRCLE FOR RECORDaPOWER mbON-OFF mbON mbSLEEP m",
   "aOBSERVER EYE mamFOR NULLcSTART OF HEADINGeTEXTcEND OF TEXTeTRANSMISSIONcENQUIRYcACKNOWLEDGE",
   "cBELLcBACKSPACEcnTABULATIONcLINE FEEDc@TABULATIONc(FEEDcCARRIAGE RETURNcSHIFT OUTdIN",
   "cDATA LINK ESCAPEcDEVICE CONTROL ONEewe]eFOURcNEGATIVE ACKNOWLEDGEcSYNCHRONOUS IDLE",
   "cEND OF TRANSMISSION BLOCKcCANCELcEND OF MEDIUMcSUBSTITUTEcESCAPEcFILE SEPARATOR",
   "cGROUP SEPARATORcRECORD SEPARATORcUNIT SEPARATORcSPACEcDELETEaBLANK maOPEN BOXamFOR NEWLINE",
   "cDELETE (wcSUBSTITUTE (w",
   "2440aOCR HOOKbCHAIRbFORKbINVERTED FORKbBELT BUCKLEbBOW TIEbBRANCH BANK IDENTIFICATION",
   "bAMOUNT OF CHECKbDASHbCUSTOMER ACCOUNT NUMBERb:BACKSLASH",
   "2460aCIRCLED DIGIT ONEcwc]cFOURcFIVEcSIXcSEVENcEIGHTcNINEbNUMBER TENcELEVENcTWELVEcTHIRTEEN",
   "cFOURTEENcFIFTEENcSIXTEENcSEVENTEENcEIGHTEENcNINETEENcTWENTYaPARENTHESIZED DIGIT ONEcwc]cFOUR",
   "cFIVEcSIXcSEVENcEIGHTcNINEbNUMBER TENcELEVENcTWELVEcTHIRTEENcFOURTEENcFIFTEENcSIXTEEN",
   "cSEVENTEENcEIGHTEENcNINETEENcTWENTYaDIGIT ONE FULL STOPbwFULL STOPb]FULL STOPbFOUR FULL STOP",
   "bFIVE FULL STOPbSIX FULL STOPbSEVEN FULL STOPbEIGHT FULL STOPbNINE FULL STOP",
   "aNUMBER TEN FULL STOPbELEVEN FULL STOPbTWELVE FULL STOPbTHIRTEEN FULL STOPbFOURTEEN FULL STOP",
   "bFIFTEEN FULL STOPbSIXTEEN FULL STOPbSEVENTEEN FULL STOPbEIGHTEEN FULL STOPbNINETEEN FULL STOP",
   "bTWENTY FULL STOPaPARENTHESIZED LATIN %!AeBeCeDeEeFeGeHeIeJeKeLeMeNeOePeQeReSeTeUeVeWeXeYeZ",
   "aCIRCLED LATIN $!AeBeCeDeEeFeGeHeIeJeKeLeMeNeOePeQeReSeTeUeVeWeXeYeZc%!AeBeCeDeEeFeGeHeIeJeKeL",
   "eMeNeOePeQeReSeTeUeVeWeXeYeZbDIGIT ZEROaNEGATIVE CIRCLED NUMBER ELEVENdTWELVEdTHIRTEEN",
   "dFOURTEENdFIFTEENdSIXTEENdSEVENTEENdEIGHTEENdNINETEENdTWENTYa:CIRCLED DIGIT ONEdwd]dFOURdFIVE",
   "dSIXdSEVENdEIGHTdNINEcNUMBER TENaNEGATIVE CIRCLED DIGIT ZEROaBOX DRAWINGS LIGHT ncsncLIGHT @",
   "cs@cLIGHT TRIPLE DASH ncsTRIPLE DASH ncLIGHT TRIPLE DASH @csTRIPLE DASH @",
   "cLIGHT QUADRUPLE DASH ncsQUADRUPLE DASH ncLIGHT QUADRUPLE DASH @csQUADRUPLE DASH @",
   "cLIGHT DOWN ;*cDOWN LIGHT ;*sds;*LIGHTcsDOWN ;*cLIGHT DOWN ;<cDOWN LIGHT ;<sds;<LIGHTcsDOWN ;<",
   "cLIGHT UP ;*cUP LIGHT ;*sds;*LIGHTcsUP ;*cLIGHT UP ;<cUP LIGHT ;<sds;<LIGHTcsUP ;<cLIGHT @;*",
   "c@LIGHT ;*scUP s;*DOWN LIGHTcDOWN s;*UP LIGHTc@s;*LIGHTcDOWN LIGHT ;*UP scUP LIGHT ;*DOWN s",
   "cs@;*cLIGHT @;<c@LIGHT ;<scUP s;<DOWN LIGHTcDOWN s;<UP LIGHTc@s;<LIGHTcDOWN LIGHT ;<UP s",
   "cUP LIGHT ;<DOWN scs@;<cLIGHT DOWN ;nc<s;*DOWN LIGHTc*s;<DOWN LIGHTcDOWN LIGHT ;nsds;nLIGHT",
   "c*LIGHT ;<DOWN sc<LIGHT ;*DOWN scsDOWN ;ncLIGHT UP ;nc<s;*UP LIGHTc*s;<UP LIGHTcUP LIGHT ;ns",
   "ds;nLIGHTc*LIGHT ;<UP sc<LIGHT ;*UP scsUP ;ncLIGHT @;nc<s;*@LIGHTc*s;<@LIGHTc@LIGHT ;ns",
   "cUP s;DOWN nLIGHTcDOWN s;UP nLIGHTc@s;nLIGHTc<UP s;*DOWN LIGHTc*UP s;<DOWN LIGHT",
   "c<DOWN s;*UP LIGHTc*DOWN s;<UP LIGHTcDOWN LIGHT ;UP nscUP LIGHT ;DOWN nsc*LIGHT ;<@s",
   "c<LIGHT ;*@scs@;ncLIGHT :DASH ncs:DASH ncLIGHT :DASH @cs:DASH @c:nd@cDOWN SINGLE ;*:d:;*SINGLE",
   "c:DOWN ;*cDOWN SINGLE ;<:d:;<SINGLEc:DOWN ;<cUP SINGLE ;*:d:;*SINGLEc:UP ;*cUP SINGLE ;<:",
   "d:;<SINGLEc:UP ;<c@SINGLE ;*:d:;*SINGLEc:@;*c@SINGLE ;<:d:;<SINGLEc:@;<cDOWN SINGLE ;n:",
   "d:;nSINGLEc:DOWN ;ncUP SINGLE ;n:d:;nSINGLEc:UP ;nc@SINGLE ;n:d:;nSINGLEc:@;n",
   "cLIGHT ARC DOWN ;*g<eUP ;<g*dDIAGONAL UPPER *TO LOWER <f<TO LOWER *eCROSSd<dUPd*dDOWNcs<dUPd*",
   "dDOWNcLIGHT <;s*dUP ;sDOWNcs<;LIGHT *dUP ;LIGHT DOWNaUPPER HALF BLOCKaLOWER ONE EIGHTH BLOCK",
   "cQUARTER BLOCKb]EIGHTHS BLOCKbHALF BLOCKbFIVE EIGHTHS BLOCKb]QUARTERS BLOCK",
   "bSEVEN EIGHTHS BLOCKaFULL BLOCKa<SEVEN EIGHTHS BLOCKb]QUARTERS BLOCKbFIVE EIGHTHS BLOCK",
   "bHALF BLOCKb]EIGHTHS BLOCKbONE QUARTER BLOCKcEIGHTH BLOCKa*HALF BLOCKaLIGHT SHADEaMEDIUM SHADE",
   "aDARK SHADEaUPPER ONE EIGHTH BLOCKa*ONE EIGHTH BLOCKaQUADRANT LOWER <c*bUPPER <",
   "d;LOWER <;LOWER *f*eUPPER *;LOWER <i*c*d;LOWER <g;LOWER *a^SQUAREa_SQUAREc#ROUNDED CORNERS",
   "cCONTAINING ^%SQUAREaSQUARE #nFILLc@FILLcORTHOGONAL CROSSHATCH FILLcUPPER <TO LOWER *FILL",
   "d*TO LOWER <FILLcDIAGONAL CROSSHATCH FILLa^%SQUAREa_%SQUAREa^RECTANGLEa_RECTANGLEa^@RECTANGLE",
   "a_@RECTANGLEa^PARALLELOGRAMa_PARALLELOGRAMa^UP-POINTING TRIANGLEa_UP-POINTING TRIANGLE",
   "a^UP-POINTING %TRIANGLEa_UP-POINTING %TRIANGLEa^RIGHT-POINTING TRIANGLE",
   "a_RIGHT-POINTING TRIANGLEa^RIGHT-POINTING %TRIANGLEa_RIGHT-POINTING %TRIANGLE",
   "a^RIGHT-POINTING POINTERa_RIGHT-POINTING POINTERa^DOWN-POINTING TRIANGLE",
   "a_DOWN-POINTING TRIANGLEa^DOWN-POINTING %TRIANGLEa_DOWN-POINTING %TRIANGLE",
   "a^LEFT-POINTING TRIANGLEa_LEFT-POINTING TRIANGLEa^LEFT-POINTING %TRIANGLE",
   "a_LEFT-POINTING %TRIANGLEa^LEFT-POINTING POINTERa_LEFT-POINTING POINTERa^DIAMONDa_DIAMOND",
   "cCONTAINING ^%DIAMONDaFISHEYEaLOZENGEa_CIRCLEaDOTTED CIRCLEaCIRCLE #@FILLaBULLSEYEa^CIRCLE",
   "aCIRCLE #<HALF ^c*HALF ^cLOWER HALF ^cUPPER HALF ^d*QUADRANT ^cALL BUT UPPER <QUADRANT ^",
   "a<HALF ^CIRCLEa*HALF ^CIRCLEaINVERSE BULLETb_CIRCLEaUPPER HALF INVERSE _CIRCLE",
   "aLOWER HALF INVERSE _CIRCLEaUPPER <QUADRANT CIRCULAR ARCb*QUADRANT CIRCULAR ARC",
   "aLOWER *QUADRANT CIRCULAR ARCb<QUADRANT CIRCULAR ARCaUPPER HALF CIRCLEaLOWER HALF CIRCLE",
   "a^LOWER *TRIANGLEc<TRIANGLEbUPPER <TRIANGLEc*TRIANGLEa_BULLETaSQUARE #<HALF ^c*HALF ^",
   "cUPPER <DIAGONAL HALF ^cLOWER *DIAGONAL HALF ^a_SQUARE #@BISECTING LINE",
   "bUP-POINTING TRIANGLE #vaUP-POINTING TRIANGLE #<HALF ^d*HALF ^aLARGE CIRCLE",
   "a_SQUARE #UPPER <QUADRANTdLOWER <QUADRANTe*QUADRANTdUPPER *QUADRANTbCIRCLE #UPPER <QUADRANT",
   "dLOWER <QUADRANTe*QUADRANTdUPPER *QUADRANTaUPPER <TRIANGLEb*TRIANGLEaLOWER <TRIANGLE",
   "a_MEDIUM SQUAREa^MEDIUM SQUAREa_MEDIUM %SQUAREa^MEDIUM %SQUAREaLOWER *TRIANGLEa^SUN #RAYS",
   "aCLOUDaUMBRELLAaSNOWMANaCOMETa^STARa_STARaLIGHTNINGaTHUNDERSTORMaSUNaASCENDING NODE",
   "aDESCENDING NODEaCONJUNCTIONaOPPOSITIONa^TELEPHONEa_TELEPHONEaBALLOT BOXc#CHECKdXaSALTIRE",
   "aUMBRELLA #RAIN DROPSaHOT BEVERAGEa_SHOGI PIECEa^SHOGI PIECEaSHAMROCK",
   "aREVERSED ROTATED FLORAL HEART BULLETa^<POINTING INDEXb*POINTING INDEXa_<POINTING INDEX",
   "bUP POINTING INDEXb*POINTING INDEXbDOWN POINTING INDEXaSKULL ;CROSSBONESaCAUTION )",
   "aRADIOACTIVE )aBIOHAZARD )aCADUCEUSaANKHaORTHODOX CROSSaCHI RHOaCROSS OF LORRAINEcJERUSALEM",
   "aSTAR ;CRESCENTaFARSI maADI SHAKTIaHAMMER ;SICKLEaPEACE maYIN YANGaTRIGRAM FOR HEAVENcLAKE",
   "cFIREcTHUNDERcWINDcWATERcMOUNTAINcEARTHaWHEEL OF DHARMAa_FROWNING FACEbSMILING FACE",
   "a^SMILING FACEa_SUN #RAYSaFIRST QUARTER MOONaLAST QUARTER MOONaMERCURYaFEMALE )aEARTHaMALE )",
   "aJUPITERaSATURNaURANUSaNEPTUNEaPLUTOaARIESaTAURUSaGEMINIaCANCERaLEOaVIRGOaLIBRAaSCORPIUS",
   "aSAGITTARIUSaCAPRICORNaAQUARIUSaPISCESa_CHESS KINGcQUEENcROOKcBISHOPcKNIGHTcPAWNa^CHESS KING",
   "cQUEENcROOKcBISHOPcKNIGHTcPAWNbSPADE SUITa_HEART SUITbDIAMOND SUITa^CLUB SUITa_SPADE SUIT",
   "a^HEART SUITbDIAMOND SUITa_CLUB SUITaHOT SPRINGSaQUARTER NOTEaEIGHTH NOTEaBEAMED EIGHTH NOTES",
   "bSIXTEENTH NOTESaMUSIC FLAT )bNATURAL )bSHARP )aWEST SYRIAC CROSSaEAST SYRIAC CROSS",
   "aUNIVERSAL RECYCLING maRECYCLING mFOR TYPE-1 PLASTICSdTYPE-2 PLASTICSdTYPE-3 PLASTICS",
   "dTYPE-4 PLASTICSdTYPE-5 PLASTICSdTYPE-6 PLASTICSdTYPE-7 PLASTICSdGENERIC MATERIALS",
   "a^UNIVERSAL RECYCLING maRECYCLED PAPER maPARTIALLY-RECYCLED PAPER maPERMANENT PAPER )",
   "aWHEELCHAIR maDIE FACE-1bFACE-2bFACE-3bFACE-4bFACE-5bFACE-6a_CIRCLE #v*dwDOTSa^CIRCLE #_v*",
   "dw_DOTSaMONOGRAM FOR YANGcYINaDIGRAM FOR GREATER YANGcLESSER YINdYANGcGREATER YINa_FLAGa^FLAG",
   "aHAMMER ;PICKaANCHORaCROSSED SWORDSaSTAFF OF AESCULAPIUSaSCALESaALEMBICaFLOWERaGEAR",
   "aSTAFF OF HERMESaATOM maFLEUR-DE-LISaOUTLINED _STARa]LINES CONVERGING *d<aWARNING )",
   "aHIGH VOLTAGE )aDOUBLED FEMALE )bMALE )aINTERLOCKED FEMALE ;MALE )aMALE ;FEMALE )b#~)",
   "d;MALE ;FEMALE )a@MALE #~)anMALE #~)aMEDIUM _CIRCLEb^CIRCLEb%_CIRCLEaMARRIAGE maDIVORCE m",
   "aUNMARRIED PARTNERSHIP maCOFFINaFUNERAL URNaNEUTERaCERESaPALLASaJUNOaVESTAaCHIRONa^MOON LILITH",
   "aSEXTILEaSEMISEXTILEaQUINCUNXaSESQUIQUADRATEaSOCCER BALLaBASEBALLaSQUARED KEYa_DRAUGHTS MAN",
   "cKINGa^DRAUGHTS MANcKINGaSNOWMAN WITHOUT SNOWaSUN BEHIND CLOUDaRAINa^SNOWMAN",
   "aTHUNDER CLOUD ;RAINaTURNED _SHOGI PIECEb^SHOGI PIECEa_DIAMOND IN SQUAREaCROSSING LANES",
   "aDISABLED CARaOPHIUCHUSaPICKaCAR SLIDINGaHELMET #_CROSSaCIRCLED CROSSING LANESaCHAINSaNO ENTRY",
   "aALTERNATE ONE-WAY <WAY TRAFFICa^TWO-WAY <WAY TRAFFICa_TWO-WAY <WAY TRAFFICa^<LANE MERGE",
   "a_<LANE MERGEaDRIVE SLOW )as_DOWN-POINTING TRIANGLEa<CLOSED ENTRYaSQUARED SALTIRE",
   "aFALLING DIAGONAL IN _CIRCLE IN ^SQUAREa^TRUCKaRESTRICTED <ENTRY-1cENTRY-2",
   "aASTRONOMICAL mFOR URANUSasCIRCLE #~;wDOTS ,aPENTAGRAMaRIGHT-HANDED INTERLACED PENTAGRAM",
   "aLEFT-HANDED INTERLACED PENTAGRAMaINVERTED PENTAGRAMa^CROSS ON SHIELDaSHINTO SHRINEaCHURCH",
   "aCASTLEaHISTORIC SITEaGEAR WITHOUT HUBb#HANDLESaMAP mFOR LIGHTHOUSEaMOUNTAIN",
   "aUMBRELLA ON GROUNDaFOUNTAINaFLAG IN HOLEaFERRYaSAILBOATaSQUARE FOUR CORNERSaSKIERaICE SKATE",
   "aPERSON #BALLaTENTaJAPANESE BANK maHEADSTONE GRAVEYARD maFUEL PUMPaCUP ON ^SQUARE",
   "a_FLAG #no^STRIPEa^SAFETY SCISSORSaUPPER BLADE SCISSORSa^SCISSORSaLOWER BLADE SCISSORS",
   "a_SCISSORSbsCHECK paTELEPHONE LOCATION )aTAPE DRIVEaAIRPLANEaENVELOPEaRAISED FISTbHAND",
   "aVICTORY HANDaWRITING HANDaLOWER *PENCILaPENCILaUPPER *PENCILa_NIBa^NIBaCHECK pasCHECK p",
   "aMULTIPLICATION XasMULTIPLICATION XaBALLOT XasBALLOT XaOUTLINED GREEK CROSSasGREEK CROSS",
   "aOPEN CENTRE CROSSasOPEN CENTRE CROSSaLATIN CROSSaSHADOWED _LATIN CROSSaOUTLINED LATIN CROSS",
   "aMALTESE CROSSaSTAR OF DAVIDaFOUR TEARDROP-SPOKED ASTERISKbBALLOON-SPOKED ASTERISK",
   "asFOUR BALLOON-SPOKED ASTERISKaFOUR CLUB-SPOKED ASTERISKa^FOUR POINTED STARa_FOUR POINTED STAR",
   "aSPARKLESaSTRESS OUTLINED _STARaCIRCLED _STARaOPEN CENTRE ^STARa^CENTRE _STARaOUTLINED ^STAR",
   "asOUTLINED ^STARaPINWHEEL STARaSHADOWED _STARasASTERISKaOPEN CENTRE ASTERISK",
   "aEIGHT SPOKED ASTERISKbPOINTED ^STARcPINWHEEL STARaSIX POINTED ^STAR",
   "aEIGHT POINTED RECTILINEAR ^STARasEIGHT POINTED RECTILINEAR ^STARaTWELVE POINTED ^STAR",
   "aSIXTEEN POINTED ASTERISKaTEARDROP-SPOKED ASTERISKaOPEN CENTRE TEARDROP-SPOKED ASTERISK",
   "asTEARDROP-SPOKED ASTERISKaSIX PETALLED ^;_FLORETTEa^FLORETTEa_FLORETTE",
   "aEIGHT PETALLED OUTLINED ^FLORETTEaCIRCLED OPEN CENTRE EIGHT POINTED STAR",
   "asTEARDROP-SPOKED PINWHEEL ASTERISKaSNOWFLAKEaTIGHT TRIFOLIATE SNOWFLAKEasCHEVRON SNOWFLAKE",
   "aSPARKLEasSPARKLEaBALLOON-SPOKED ASTERISKaEIGHT TEARDROP-SPOKED PROPELLER ASTERISK",
   "asEIGHT TEARDROP-SPOKED PROPELLER ASTERISKaCROSS paSHADOWED _CIRCLEaNEGATIVE SQUARED CROSS p",
   "aLOWER *DROP-SHADOWED _SQUAREaUPPER *DROP-SHADOWED _SQUAREaLOWER *SHADOWED _SQUARE",
   "aUPPER *SHADOWED _SQUAREa^QUESTION pORNAMENTa_QUESTION pORNAMENTbEXCLAMATION pORNAMENT",
   "a^DIAMOND MINUS _XasEXCLAMATION pmaLIGHT @BARaMEDIUM @BARas@BAR",
   "bSINGLE TURNED COMMA QUOTATION pORNAMENTcCOMMA QUOTATION pORNAMENT",
   "b:TURNED COMMA QUOTATION pORNAMENTcCOMMA QUOTATION pORNAMENT",
   "bLOW SINGLE COMMA QUOTATION pORNAMENTc:COMMA QUOTATION pORNAMENT",
   "aCURVED STEM PARAGRAPH )ORNAMENTasEXCLAMATION pORNAMENTbHEART EXCLAMATION pORNAMENTb^HEART",
   "aROTATED s^HEART BULLETaFLORAL HEARTaROTATED FLORAL HEART BULLETaMEDIUM <PARENTHESIS ORNAMENT",
   "b*PARENTHESIS ORNAMENTbFLATTENED <PARENTHESIS ORNAMENTc*PARENTHESIS ORNAMENT",
   "bLEFT-POINTING ANGLE tORNAMENTbRIGHT-POINTING ANGLE tORNAMENT",
   "asLEFT-POINTING ANGLE QUOTATION pORNAMENTbRIGHT-POINTING ANGLE QUOTATION pORNAMENT",
   "bLEFT-POINTING ANGLE tORNAMENTbRIGHT-POINTING ANGLE tORNAMENTaLIGHT <TORTOISE SHELL tORNAMENT",
   "b*TORTOISE SHELL tORNAMENTaMEDIUM <CURLY tORNAMENTb*CURLY tORNAMENT",
   "aDINGBAT NEGATIVE CIRCLED DIGIT ONEewe]eFOUReFIVEeSIXeSEVENeEIGHTeNINEdNUMBER TEN",
   "bCIRCLED SANS-SERIF DIGIT ONEewe]eFOUReFIVEeSIXeSEVENeEIGHTeNINEdNUMBER TEN",
   "bNEGATIVE CIRCLED SANS-SERIF DIGIT ONEfwf]fFOURfFIVEfSIXfSEVENfEIGHTfNINEeNUMBER TEN",
   "asWIDE-HEADED .&bPLUS )bMINUS )bDIVISION )bSOUTH EAST &b.&bNORTH EAST &aDRAFTING POINT .&",
   "asROUND-TIPPED .&a|.&as|.&aDASHED |.&asDASHED |.&a^.&aTHREE-D TOP-LIGHTED .ARROWHEAD",
   "bBOTTOM-LIGHTED .ARROWHEADa^.ARROWHEADas^CURVED q;.&dUPWARDS ;.&aSQUAT ^.&",
   "asCONCAVE-POINTED ^.&aRIGHT-SHADED _.&aLEFT-SHADED _.&aBACK-TILTED SHADOWED _.&",
   "aFRONT-TILTED SHADOWED _.&asLOWER RIGHT-SHADOWED _.&bUPPER RIGHT-SHADOWED _.&",
   "aNOTCHED LOWER RIGHT-SHADOWED _.&aCURLY LOOPaNOTCHED UPPER RIGHT-SHADOWED _.&aCIRCLED s_.&",
   "aWHITE-FEATHERED .&aBLACK-FEATHERED SOUTH EAST &b.&bNORTH EAST &asBLACK-FEATHERED SOUTH EAST &",
   "c.&cNORTH EAST &aTEARDROP-BARBED .&asTEARDROP-SHANKED .&aWEDGE-TAILED .&asWEDGE-TAILED .&",
   "aOPEN-OUTLINED .&a:CURLY LOOPa]DIMENSIONAL ANGLEa_TRIANGLE CONTAINING %_TRIANGLEaPERPENDICULAR",
   "aOPEN SUBSETbSUPERSETa<S-SHAPED BAG DELIMITERa*S-SHAPED BAG DELIMITERaOR #vINSIDE",
   "aREVERSE SOLIDUS PRECEDING SUBSETaSUPERSET PRECEDING SOLIDUSa@BAR #n~",
   "aMATHEMATICAL RISING DIAGONALaLONG DIVISIONaMATHEMATICAL FALLING DIAGONALaSQUARED LOGICAL ;cOR",
   "a_DIAMOND #CENTRED va;#vaELEMENT OF OPENING UPWARDSaLOWER *CORNER #vaUPPER <CORNER #v",
   "a<OUTER JOINa*OUTER JOINaFULL OUTER JOINaLARGE UP TACKbDOWN TACKa<;*:TURNSTILEdTACKbMULTIMAP",
   "aLONG *TACKb<TACKaUP TACK #CIRCLE ,aLOZENGE DIVIDED BY nRULEa_CONCAVE-SIDED DIAMONDd#?TICK",
   "e.TICKbSQUARE #?TICKd.TICKaMATHEMATICAL <_SQUARE tb*_SQUARE tb<ANGLE tb*ANGLE tb<:ANGLE t",
   "b*:ANGLE tb<_TORTOISE SHELL tb*_TORTOISE SHELL tb<FLATTENED PARENTHESISb*FLATTENED PARENTHESIS",
   "aUPWARDS QUADRUPLE &aqQUADRUPLE &aANTICLOCKWISE GAPPED CIRCLE &aCLOCKWISE GAPPED CIRCLE &",
   "a*&#CIRCLED PLUSaLONG ?&b.&b<*&b?:&b.:&b<*:&b?&FROM BARb.&FROM BARb?:&FROM BARb.:&FROM BAR",
   "cSQUIGGLE &aBRAILLE PATTERN BLANKcDOTS-1cDOTS-2cDOTS-12cDOTS-3cDOTS-13cDOTS-23cDOTS-123cDOTS-4",
   "cDOTS-14cDOTS-24cDOTS-124cDOTS-34cDOTS-134cDOTS-234cDOTS-1234cDOTS-5cDOTS-15cDOTS-25cDOTS-125",
   "cDOTS-35cDOTS-135cDOTS-235cDOTS-1235cDOTS-45cDOTS-145cDOTS-245cDOTS-1245cDOTS-345cDOTS-1345",
   "cDOTS-2345cDOTS-12345cDOTS-6cDOTS-16cDOTS-26cDOTS-126cDOTS-36cDOTS-136cDOTS-236cDOTS-1236",
   "cDOTS-46cDOTS-146cDOTS-246cDOTS-1246cDOTS-346cDOTS-1346cDOTS-2346cDOTS-12346cDOTS-56cDOTS-156",
   "cDOTS-256cDOTS-1256cDOTS-356cDOTS-1356cDOTS-2356cDOTS-12356cDOTS-456cDOTS-1456cDOTS-2456",
   "cDOTS-12456cDOTS-3456cDOTS-13456cDOTS-23456cDOTS-123456cDOTS-7cDOTS-17cDOTS-27cDOTS-127",
   "cDOTS-37cDOTS-137cDOTS-237cDOTS-1237cDOTS-47cDOTS-147cDOTS-247cDOTS-1247cDOTS-347cDOTS-1347",
   "cDOTS-2347cDOTS-12347cDOTS-57cDOTS-157cDOTS-257cDOTS-1257cDOTS-357cDOTS-1357cDOTS-2357",
   "cDOTS-12357cDOTS-457cDOTS-1457cDOTS-2457cDOTS-12457cDOTS-3457cDOTS-13457cDOTS-23457",
   "cDOTS-123457cDOTS-67cDOTS-167cDOTS-267cDOTS-1267cDOTS-367cDOTS-1367cDOTS-2367cDOTS-12367",
   "cDOTS-467cDOTS-1467cDOTS-2467cDOTS-12467cDOTS-3467cDOTS-13467cDOTS-23467cDOTS-123467cDOTS-567",
   "cDOTS-1567cDOTS-2567cDOTS-12567cDOTS-3567cDOTS-13567cDOTS-23567cDOTS-123567cDOTS-4567",
   "cDOTS-14567cDOTS-24567cDOTS-124567cDOTS-34567cDOTS-134567cDOTS-234567cDOTS-1234567cDOTS-8",
   "cDOTS-18cDOTS-28cDOTS-128cDOTS-38cDOTS-138cDOTS-238cDOTS-1238cDOTS-48cDOTS-148cDOTS-248",
   "cDOTS-1248cDOTS-348cDOTS-1348cDOTS-2348cDOTS-12348cDOTS-58cDOTS-158cDOTS-258cDOTS-1258",
   "cDOTS-358cDOTS-1358cDOTS-2358cDOTS-12358cDOTS-458cDOTS-1458cDOTS-2458cDOTS-12458cDOTS-3458",
   "cDOTS-13458cDOTS-23458cDOTS-123458cDOTS-68cDOTS-168cDOTS-268cDOTS-1268cDOTS-368cDOTS-1368",
   "cDOTS-2368cDOTS-12368cDOTS-468cDOTS-1468cDOTS-2468cDOTS-12468cDOTS-3468cDOTS-13468cDOTS-23468",
   "cDOTS-123468cDOTS-568cDOTS-1568cDOTS-2568cDOTS-12568cDOTS-3568cDOTS-13568cDOTS-23568",
   "cDOTS-123568cDOTS-4568cDOTS-14568cDOTS-24568cDOTS-124568cDOTS-34568cDOTS-134568cDOTS-234568",
   "cDOTS-1234568cDOTS-78cDOTS-178cDOTS-278cDOTS-1278cDOTS-378cDOTS-1378cDOTS-2378cDOTS-12378",
   "cDOTS-478cDOTS-1478cDOTS-2478cDOTS-12478cDOTS-3478cDOTS-13478cDOTS-23478cDOTS-123478cDOTS-578",
   "cDOTS-1578cDOTS-2578cDOTS-12578cDOTS-3578cDOTS-13578cDOTS-23578cDOTS-123578cDOTS-4578",
   "cDOTS-14578cDOTS-24578cDOTS-124578cDOTS-34578cDOTS-134578cDOTS-234578cDOTS-1234578cDOTS-678",
   "cDOTS-1678cDOTS-2678cDOTS-12678cDOTS-3678cDOTS-13678cDOTS-23678cDOTS-123678cDOTS-4678",
   "cDOTS-14678cDOTS-24678cDOTS-124678cDOTS-34678cDOTS-134678cDOTS-234678cDOTS-1234678cDOTS-5678",
   "cDOTS-15678cDOTS-25678cDOTS-125678cDOTS-35678cDOTS-135678cDOTS-235678cDOTS-1235678cDOTS-45678",
   "cDOTS-145678cDOTS-245678cDOTS-1245678cDOTS-345678cDOTS-1345678cDOTS-2345678cDOTS-12345678",
   "a.TWO-HEADED &#@~e:@~a?:&#@~a.:&#@~a<*:&#@~a.TWO-HEADED &FROM BARa?:&FROM BARa.:&FROM BAR",
   "aq&#n~aUPWARDS &#n~bTRIPLE &aqTRIPLE &a?:DASH &a.:DASH &a?TRIPLE DASH &a.TRIPLE DASH &",
   "bTWO-HEADED TRIPLE DASH &b&#DOTTED STEMaUPWARDS &TO BARaq&TO BARa.&#TAIL #@~f:@~",
   "bTWO-HEADED &#TAILf#@~g:@~a?ARROW-TAILa.ARROW-TAILa?:ARROW-TAILa.:ARROW-TAILa?&TO ^DIAMOND",
   "a.&TO ^DIAMONDa?&FROM BAR TO ^DIAMONDa.&FROM BAR TO ^DIAMONDaNORTH WEST ;SOUTH EAST &",
   "bEAST ;SOUTH WEST &bWEST &#HOOKbEAST &#HOOKaSOUTH EAST &#HOOKbWEST &#HOOK",
   "aNORTH WEST &;NORTH EAST &bEAST &;SOUTH EAST &aSOUTH EAST &;SOUTH WEST &bWEST &;NORTH WEST &",
   "aRISING DIAGONAL CROSSING FALLING DIAGONALaFALLING DIAGONAL CROSSING RISING DIAGONAL",
   "aSOUTH EAST &CROSSING NORTH EAST &aNORTH EAST &CROSSING SOUTH EAST &",
   "aFALLING DIAGONAL CROSSING NORTH EAST &aRISING DIAGONAL CROSSING SOUTH EAST &",
   "aNORTH EAST &CROSSING NORTH WEST &bWEST &CROSSING NORTH EAST &aWAVE &POINTING DIRECTLY *",
   "a&POINTING .THEN CURVING UPWARDSfqcqTHEN CURVING ?f.aRIGHT-SIDE ARC CLOCKWISE &",
   "aLEFT-SIDE ARC ANTICLOCKWISE &aTOP ARC ANTICLOCKWISE &aBOTTOM ARC ANTICLOCKWISE &",
   "aTOP ARC CLOCKWISE &#MINUScANTICLOCKWISE &#PLUSaLOWER *SEMICIRCULAR CLOCKWISE &",
   "b<SEMICIRCULAR ANTICLOCKWISE &aANTICLOCKWISE CLOSED CIRCLE &aCLOCKWISE CLOSED CIRCLE &",
   "a.&,SHORT ?&a?&,SHORT .&aSHORT .&,?&a.&#PLUS [a?&#PLUS [a.&THROUGH Xa<*&THROUGH %CIRCLE",
   "aUPWARDS TWO-HEADED &FROM %CIRCLEa<BARB UP *BARB DOWN HARPOONcDOWN *BARB UP HARPOON",
   "aUP BARB *DOWN BARB <HARPOONc<DOWN BARB *HARPOONa<BARB UP *BARB UP HARPOON",
   "aUP BARB *DOWN BARB *HARPOONa<BARB DOWN *BARB DOWN HARPOONaUP BARB <DOWN BARB <HARPOON",
   "a?HARPOON #BARB UP TO BARa.HARPOON #BARB UP TO BARaUPWARDS HARPOON #BARB *TO BAR",
   "aqHARPOON #BARB *TO BARa?HARPOON #BARB DOWN TO BARa.HARPOON #BARB DOWN TO BAR",
   "aUPWARDS HARPOON #BARB <TO BARaqHARPOON #BARB <TO BARa?HARPOON #BARB UP FROM BAR",
   "a.HARPOON #BARB UP FROM BARaUPWARDS HARPOON #BARB *FROM BARaqHARPOON #BARB *FROM BAR",
   "a?HARPOON #BARB DOWN FROM BARa.HARPOON #BARB DOWN FROM BARaUPWARDS HARPOON #BARB <FROM BAR",
   "aqHARPOON #BARB <FROM BARa?HARPOON #BARB UP ,?HARPOON #BARB DOWN",
   "aUPWARDS HARPOON #BARB <BESIDE UPWARDS HARPOON #BARB *a.HARPOON #BARB UP ,.HARPOON #BARB DOWN",
   "aqHARPOON #BARB <BESIDE qHARPOON #BARB *a?HARPOON #BARB UP ,.HARPOON #BARB UP",
   "eDOWN ,.HARPOON #BARB DOWNa.HARPOON #BARB UP ,?HARPOON #BARB UPeDOWN ,?HARPOON #BARB DOWN",
   "a?HARPOON #BARB UP ,LONG DASHeDOWN [LONG DASHa.HARPOON #BARB UP ,LONG DASHeDOWN [LONG DASH",
   "aUPWARDS HARPOON #BARB <BESIDE qHARPOON #BARB *aqHARPOON #BARB <BESIDE UPWARDS HARPOON #BARB *",
   "a*:&#ROUNDED HEADaEQUALS ),.&aTILDE OPERATOR ,.&a?&,TILDE OPERATORa.&,TILDE OPERATOR",
   "dALMOST EQUAL TOaLESS-THAN ,?&a?&THROUGH LESS-THANaGREATER-THAN ,.&aSUBSET ,.&",
   "a?&THROUGH SUBSETaSUPERSET ,?&a<FISH TAILa*FISH TAILaUP FISH TAILaDOWN FISH TAIL",
   "aTRIPLE @BAR DELIMITERaZ NOTATION SPOTcTYPE COLONa<_CURLY ta*_CURLY ta<_PARENTHESIS",
   "a*_PARENTHESISaZ NOTATION <IMAGE tc*IMAGE tc<BINDING tc*BINDING ta<SQUARE t#UNDERBAR",
   "a*SQUARE t#UNDERBARa<SQUARE t#TICK IN TOP CORNERa*SQUARE t#TICK IN BOTTOM CORNER",
   "a<SQUARE t#TICK IN BOTTOM CORNERa*SQUARE t#TICK IN TOP CORNERa<ANGLE t#va*ANGLE t#v",
   "a<ARC LESS-THAN ta*ARC GREATER-THAN ta:<ARC GREATER-THAN tb*ARC LESS-THAN ta<^TORTOISE SHELL t",
   "a*^TORTOISE SHELL taDOTTED FENCEa@ZIGZAG LINEaMEASURED ANGLE OPENING <a*ANGLE VARIANT #SQUARE",
   "aMEASURED *ANGLE #vaANGLE #S INSIDEaACUTE ANGLEaSPHERICAL ANGLE OPENING <dUPaTURNED ANGLE",
   "aREVERSED ANGLEaANGLE #UNDERBARaREVERSED ANGLE #UNDERBARaOBLIQUE ANGLE OPENING UPdDOWN",
   "aMEASURED ANGLE #OPEN ARM ENDING IN &POINTING UP ;*l<jDOWN ;*l<j*;UPj<;UPj*;DOWNj<;DOWN",
   "aREVERSED EMPTY SETaEMPTY SET #OVERBARd%CIRCLE ,d*&,d<&,aCIRCLE #nBARaCIRCLED @BARbPARALLEL",
   "bREVERSE SOLIDUSbPERPENDICULARaCIRCLE DIVIDED BY nBAR ;TOP HALF DIVIDED BY @BAR",
   "b#SUPERIMPOSED XaCIRCLED ANTICLOCKWISE-ROTATED DIVISION )aUP &THROUGH CIRCLEaCIRCLED _BULLET",
   "bBULLETbLESS-THANbGREATER-THANaCIRCLE #%CIRCLE TO THE *cwnSTROKES TO THE *",
   "aSQUARED RISING DIAGONAL SLASHbFALLING DIAGONAL SLASHbASTERISKb%CIRCLEbSQUAREawJOINED SQUARES",
   "aTRIANGLE #v,cUNDERBARaS IN TRIANGLEaTRIANGLE #SERIFS AT BOTTOMa*TRIANGLE ,<TRIANGLE",
   "a<TRIANGLE BESIDE @BARa@BAR BESIDE *TRIANGLEaBOWTIE #<HALF ^c*HALF ^a^BOWTIEaz#<HALF ^c*HALF ^",
   "a_HOURGLASSa^HOURGLASSa<WIGGLY FENCEa*WIGGLY FENCEa<:WIGGLY FENCEa*:WIGGLY FENCE",
   "aINCOMPLETE INFINITYaTIE OVER INFINITYaINFINITY NEGATED #@BARaDOUBLE-ENDED MULTIMAP",
   "aSQUARE #CONTOURED OUTLINEaINCREASES ASaSHUFFLE PRODUCTaEQUALS );SLANTED PARALLELf#TILDE ,",
   "aIDENTICAL TO ;SLANTED PARALLELaGLEICH STARKaTHERMODYNAMICaDOWN-POINTING TRIANGLE #<HALF ^",
   "d*HALF ^a^DIAMOND #DOWN &bLOZENGEa_CIRCLE #DOWN &a^CIRCLE #DOWN &aERROR-BARRED _SQUAREb^SQUARE",
   "b_DIAMONDb^DIAMONDb_CIRCLEb^CIRCLEaRULE-DELAYEDaREVERSE SOLIDUS OPERATORaSOLIDUS #OVERBAR",
   "aREVERSE SOLIDUS #n~aBIG SOLIDUSbREVERSE SOLIDUSa:PLUSaTRIPLE PLUS",
   "aLEFT-POINTING CURVED ANGLE taRIGHT-POINTING CURVED ANGLE taTINYaMINYaN-ARY CIRCLED vOPERATOR",
   "cPLUS OPERATORczOPERATORbUNION OPERATOR #vePLUSbSQUARE INTERSECTION OPERATORcUNION OPERATOR",
   "awLOGICAL ;OPERATORcOR OPERATORaN-ARY zOPERATORaMODULO wSUMaSUMMATION #INTEGRAL",
   "aQUADRUPLE INTEGRAL OPERATORaFINITE PART INTEGRALaINTEGRAL #:~bAVERAGE #SLASH",
   "aCIRCULATION FUNCTIONaANTICLOCKWISE INTEGRATIONaLINE INTEGRATION #RECTANGULAR PATH AROUND POLE",
   "dSEMICIRCULAR PATH AROUND POLEcNOT INCLUDING THE POLEaINTEGRAL AROUND A POINT OPERATOR",
   "aQUATERNION INTEGRAL OPERATORaINTEGRAL #?&#HOOKcz)cINTERSECTIONcUNIONcOVERBARcUNDERBARaJOIN",
   "aLARGE <TRIANGLE OPERATORaZ NOTATION SCHEMA COMPOSITIONdPIPINGdPROJECTIONaPLUS )#%CIRCLE ,",
   "dxACCENT ,dTILDE ,dv[dTILDE [dSUBSCRIPT wd^TRIANGLEaMINUS )#COMMA ,dv[dFALLING DOTS",
   "dRISING DOTSaPLUS )IN <HALF CIRCLEd*HALF CIRCLEaVECTOR OR CROSS PRODUCTaMULTIPLICATION )#v,",
   "dUNDERBARaSEMIDIRECT PRODUCT #BOTTOM CLOSEDaSMASH PRODUCTaMULTIPLICATION )IN <HALF CIRCLE",
   "d*HALF CIRCLEaCIRCLED MULTIPLICATION )#xACCENTaMULTIPLICATION )IN :CIRCLEaCIRCLED DIVISION )",
   "aPLUS )IN TRIANGLEaMINUS )IN TRIANGLEaMULTIPLICATION )IN TRIANGLEaINTERIOR PRODUCT",
   "aRIGHTHAND INTERIOR PRODUCTaZ NOTATION RELATIONAL COMPOSITIONaAMALGAMATION OR COPRODUCT",
   "aINTERSECTION #vaUNION #MINUS )cOVERBARaINTERSECTION #OVERBARcLOGICAL ;aUNION #LOGICAL OR",
   "b,INTERSECTIONaINTERSECTION ,UNIONaUNION ,BAR ,INTERSECTIONaINTERSECTION ,BAR ,UNION",
   "aUNION BESIDE ;JOINED #UNIONaINTERSECTION BESIDE ;JOINED #INTERSECTIONaCLOSED UNION #SERIFS",
   "bINTERSECTION #SERIFSa:SQUARE INTERSECTIONcUNIONaCLOSED UNION #SERIFS ;SMASH PRODUCT",
   "aLOGICAL ;#v,bOR #v,a:LOGICAL ;cORawINTERSECTING LOGICAL ;dORaSLOPING LARGE ORc;",
   "aLOGICAL OR OVERLAPPING LOGICAL ;b;#oSTEMbOR #oSTEMb;#nDASHbOR #nDASHb;#:OVERBARdUNDERBAR",
   "d:UNDERBARa%VEE #UNDERBARaLOGICAL OR #:OVERBAReUNDERBARaZ NOTATION DOMAIN ANTIRESTRICTION",
   "cRANGE ANTIRESTRICTIONaEQUALS )#v[aIDENTICAL #v,aTRIPLE nBAR #:@~eTRIPLE @~aTILDE OPERATOR #v,",
   "dRISING DOTSaSIMILAR MINUS SIMILARaCONGRUENT #v,aEQUALS #ASTERISKaALMOST EQUAL TO #xACCENT",
   "aAPPROXIMATELY EQUAL OR EQUAL TOaEQUALS ),PLUS )aPLUS ),EQUALS )aEQUALS ),TILDE OPERATOR",
   "a:COLON EQUALawCONSECUTIVE EQUALS SIGNSa]CONSECUTIVE EQUALS SIGNSaEQUALS )#wDOTS ,;wDOTS [",
   "aEQUIVALENT #FOUR DOTS ,aLESS-THAN #CIRCLE INSIDEaGREATER-THAN #CIRCLE INSIDE",
   "aLESS-THAN #QUESTION p,aGREATER-THAN #QUESTION p,aLESS-THAN OR SLANTED EQUAL TO",
   "aGREATER-THAN OR SLANTED EQUAL TOaLESS-THAN OR SLANTED EQUAL TO #vINSIDE",
   "aGREATER-THAN OR SLANTED EQUAL TO #vINSIDEaLESS-THAN OR SLANTED EQUAL TO #v,",
   "aGREATER-THAN OR SLANTED EQUAL TO #v,aLESS-THAN OR SLANTED EQUAL TO #v,*",
   "aGREATER-THAN OR SLANTED EQUAL TO #v,<aLESS-THAN OR APPROXIMATEaGREATER-THAN OR APPROXIMATE",
   "aLESS-THAN ;SINGLE-LINE NOT EQUAL TOaGREATER-THAN ;SINGLE-LINE NOT EQUAL TO",
   "aLESS-THAN ;NOT APPROXIMATEaGREATER-THAN ;NOT APPROXIMATE",
   "aLESS-THAN ,DOUBLE-LINE EQUAL ,GREATER-THANaGREATER-THAN ,DOUBLE-LINE EQUAL ,LESS-THAN",
   "aLESS-THAN ,SIMILAR OR EQUALaGREATER-THAN ,SIMILAR OR EQUALaLESS-THAN ,SIMILAR ,GREATER-THAN",
   "aGREATER-THAN ,SIMILAR ,LESS-THANaLESS-THAN ,GREATER-THAN ,DOUBLE-LINE EQUAL",
   "aGREATER-THAN ,LESS-THAN ,DOUBLE-LINE EQUAL",
   "aLESS-THAN ,SLANTED EQUAL ,GREATER-THAN ,SLANTED EQUAL",
   "aGREATER-THAN ,SLANTED EQUAL ,LESS-THAN ,SLANTED EQUALaSLANTED EQUAL TO OR LESS-THAN",
   "eGREATER-THANeLESS-THAN #vINSIDEeGREATER-THAN #vINSIDEaDOUBLE-LINE EQUAL TO OR LESS-THAN",
   "eGREATER-THANbSLANTED EQUAL TO OR LESS-THANfGREATER-THANaSIMILAR OR LESS-THANcGREATER-THAN",
   "b,LESS-THAN ,EQUALS )cGREATER-THAN ,EQUALS )a:NESTED LESS-THANcGREATER-THAN",
   "cLESS-THAN #UNDERBARaGREATER-THAN OVERLAPPING LESS-THANbBESIDE LESS-THAN",
   "aLESS-THAN CLOSED BY CURVEaGREATER-THAN CLOSED BY CURVE",
   "aLESS-THAN CLOSED BY CURVE ,SLANTED EQUALaGREATER-THAN CLOSED BY CURVE ,SLANTED EQUAL",
   "aSMALLER THANaLARGER THANaSMALLER THAN OR EQUAL TOaLARGER THAN OR EQUAL TOaEQUALS )#BUMPY ,",
   "aPRECEDES ,SINGLE-LINE EQUALS )aSUCCEEDS ,SINGLE-LINE EQUALS )",
   "aPRECEDES ,SINGLE-LINE NOT EQUAL TOaSUCCEEDS ,SINGLE-LINE NOT EQUAL TOaPRECEDES ,EQUALS )",
   "aSUCCEEDS ,EQUALS )aPRECEDES ,NOT EQUAL TOaSUCCEEDS ,NOT EQUAL TOaPRECEDES ,ALMOST EQUAL TO",
   "aSUCCEEDS ,ALMOST EQUAL TOaPRECEDES ,NOT ALMOST EQUAL TOaSUCCEEDS ,NOT ALMOST EQUAL TO",
   "a:PRECEDESbSUCCEEDSaSUBSET #vaSUPERSET #vaSUBSET #PLUS )[aSUPERSET #PLUS )[",
   "aSUBSET #MULTIPLICATION )[aSUPERSET #MULTIPLICATION )[aSUBSET OF OR EQUAL TO #v,",
   "aSUPERSET OF OR EQUAL TO #v,aSUBSET OF ,EQUALS )aSUPERSET OF ,EQUALS )",
   "aSUBSET OF ,TILDE OPERATORaSUPERSET OF ,TILDE OPERATORaSUBSET OF ,ALMOST EQUAL TO",
   "aSUPERSET OF ,ALMOST EQUAL TOaSUBSET OF ,NOT EQUAL TOaSUPERSET OF ,NOT EQUAL TO",
   "aSQUARE <OPEN BOX OPERATORb*OPEN BOX OPERATORaCLOSED SUBSETbSUPERSETbSUBSET OR EQUAL TO",
   "bSUPERSET OR EQUAL TOaSUBSET ,SUPERSETaSUPERSET ,SUBSETaSUBSET ,SUBSETaSUPERSET ,SUPERSET",
   "bBESIDE SUBSETc;JOINED BY DASH #SUBSETaELEMENT OF OPENING qaPITCHFORK #TEE TOP",
   "aTRANSVERSAL INTERSECTIONaFORKINGaNONFORKINGaSHORT <TACKbDOWN TACKbUP TACKaPERPENDICULAR #S",
   "a@BAR TRIPLE *TURNSTILEa:@BAR <TURNSTILEa@BAR :<TURNSTILEa:@BAR :<TURNSTILE",
   "aLONG DASH FROM <MEMBER OF :@aSHORT DOWN TACK #OVERBARbUP TACK #UNDERBARd,SHORT DOWN TACK",
   "a:DOWN TACKbUP TACKb~NOT )aREVERSED :~NOT )aDOES NOT DIVIDE #REVERSED NEGATION SLASH",
   "a@LINE #CIRCLE ,e[aDOWN TACK #CIRCLE [aPARALLEL #n~cTILDE OPERATORaTRIPLE @BAR BINARY RELATION",
   "d#n~bCOLON OPERATORbNESTED LESS-THANcGREATER-THANaDOUBLE-LINE SLANTED LESS-THAN OR EQUAL TO",
   "cGREATER-THAN OR EQUAL TOaTRIPLE SOLIDUS BINARY RELATIONaLARGE TRIPLE @BAR OPERATOR",
   "a:SOLIDUS OPERATORa_@BARaN-ARY _@BARaNORTH EAST _&bWEST _&aSOUTH EAST _&bWEST _&a<*_&a?^&",
   "aUPWARDS ^&aq^&aNORTH EAST ^&bWEST ^&aSOUTH EAST ^&bWEST ^&a<*^&aUP DOWN ^&a.&#TIP qeUPWARDS",
   "a?&#TIP qeUPWARDSaSQUARE #TOP HALF ^cBOTTOM HALF ^cUPPER *DIAGONAL HALF ^",
   "cLOWER <DIAGONAL HALF ^aDIAMOND #<HALF ^c*HALF ^cTOP HALF ^cBOTTOM HALF ^aDOTTED SQUARE",
   "a^LARGE SQUAREa_LARGE SQUAREa^VERY %SQUAREa_VERY %SQUAREa^PENTAGONa_PENTAGONbHEXAGONa^HEXAGON",
   "an^HEXAGONa^LARGE CIRCLEbMEDIUM DIAMONDa_MEDIUM DIAMONDa^MEDIUM LOZENGEa_MEDIUM LOZENGE",
   "a^%DIAMONDcLOZENGEa_%LOZENGEa^nELLIPSEa_nELLIPSEa^@ELLIPSEa_@ELLIPSEa<&#%CIRCLEa]?ARROWS",
   "a<&#CIRCLED PLUSaLONG ?SQUIGGLE &a?TWO-HEADED &#@~e:@~dFROM BARcTRIPLE DASH &b&#DOTTED STEM",
   "dTAIL #@~f:@~bTWO-HEADED &#TAILf#@~g:@~b&THROUGH XaWAVE &POINTING DIRECTLY <aEQUALS ),?&",
   "aREVERSE TILDE OPERATOR ,?&a?&,REVERSE ALMOST EQUAL TOa.&THROUGH GREATER-THANdSUPERSET",
   "a?QUADRUPLE &a.QUADRUPLE &aREVERSE TILDE OPERATOR ,.&a.&,REVERSE ALMOST EQUAL TO",
   "aTILDE OPERATOR ,?&a?&,ALMOST EQUAL TOdREVERSE TILDE OPERATORa.&,REVERSE TILDE OPERATOR",
   "aq|ZIGZAG &aSHORT SLANTED NORTH &bBACKSLANTED SOUTH &a_MEDIUM STARa^%STARa_%STAR",
   "a^RIGHT-POINTING PENTAGONa_RIGHT-POINTING PENTAGONasLARGE CIRCLEbOVAL #OVAL INSIDE",
   "bCIRCLE #CIRCLE INSIDEbCIRCLEbCIRCLED SALTIREaSLANTED NORTH &#HOOKED HEAD",
   "aBACKSLANTED SOUTH &#HOOKED TAILaSLANTED NORTH &#nTAILaBACKSLANTED SOUTH &#nTAIL",
   "aBENT &POINTING qTHEN NORTH EASTaSHORT BENT &POINTING qTHEN NORTH EASTa?|&aUPWARDS |&a.|&aq|&",
   "a<*|&aUP DOWN |&aNORTH WEST |&bEAST |&aSOUTH EAST |&bWEST |&a?|DASHED &aUPWARDS |DASHED &",
   "a.|DASHED &aq|DASHED &aCLOCKWISE |OPEN CIRCLE &aANTICLOCKWISE |OPEN CIRCLE &a?|&TO BAR",
   "aUPWARDS |&TO BARa.|&TO BARaq|&TO BAR",
   "2B76aNORTH WEST |&TO BARbEAST |&TO BARaSOUTH EAST |&TO BARbWEST |&TO BARa?|&#:n~",
   "aUPWARDS |&#:n~a.|&#:n~aq|&#:n~anTAB KEYa@TAB KEYa?|&OVER .|&aUPWARDS |&?OF q|&a.|&OVER ?|&",
   "aq|&?OF UPWARDS |&a?|PAIRED ARROWSaUPWARDS |PAIRED ARROWSa.|PAIRED ARROWSaq|PAIRED ARROWS",
   "a?^CIRCLED _&aUPWARDS ^CIRCLED _&a.^CIRCLED _&aq^CIRCLED _&aANTICLOCKWISE |*U-SHAPED &",
   "cBOTTOM U-SHAPED &c<U-SHAPED &cTOP U-SHAPED &aRETURN <b*aNEWLINE <b*",
   "aFOUR CORNER ARROWS CIRCLING ANTICLOCKWISEa.^&",
   "2B97amFOR TYPE A ELECTRONICSaTHREE-D TOP-LIGHTED ?EQUILATERAL ARROWHEAD",
   "bRIGHT-LIGHTED UPWARDS EQUILATERAL ARROWHEADbTOP-LIGHTED .EQUILATERAL ARROWHEAD",
   "bLEFT-LIGHTED qEQUILATERAL ARROWHEADa^?EQUILATERAL ARROWHEADbUPWARDS EQUILATERAL ARROWHEAD",
   "b.EQUILATERAL ARROWHEADbqEQUILATERAL ARROWHEADaq|&#LONG TIP ?g.aUPWARDS |&#LONG TIP ?g.",
   "a?|&#LONG TIP UPWARDSa.|&#LONG TIP UPWARDSa?|&#LONG TIP qa.|&#LONG TIP qa^CURVED q;?&e.&",
   "cUPWARDS ;?&e.&c?;UPWARDS &c.;UPWARDS &c?;q&c.;q&aRIBBON &DOWN <d*cUP <d*c<UPc*UPc<DOWNc*DOWN",
   "aUPWARDS _&FROM BAR #nBARaUP ARROWHEAD IN A RECTANGLE BOXaOVERLAPPING _SQUARESc;^SQUARES",
   "b^SQUARESaBALLOT BOX #LIGHT XaCIRCLED XbBOLD Xa^SQUARE CENTREDbDIAMOND CENTRED",
   "aTURNED ^PENTAGONan^OCTAGONa^OCTAGONbMEDIUM UP-POINTING TRIANGLE CENTRED",
   "cDOWN-POINTING TRIANGLE CENTREDcLEFT-POINTING TRIANGLE CENTREDcRIGHT-POINTING TRIANGLE CENTRED",
   "aNEPTUNE (waTOP HALF ^CIRCLEaBOTTOM HALF ^CIRCLEaLIGHT FOUR POINTED ^CUSP",
   "aROTATED LIGHT FOUR POINTED ^CUSPa_FOUR POINTED CUSPaROTATED _FOUR POINTED CUSP",
   "aSQUARE POSITION INDICATORaUNCERTAINTY )aGROUP paPLUTO (wc]cFOURcFIVEaTRANSPLUTOaPROSERPINA",
   "aASTRAEAaHYGIEAaPHOLUSaNESSUSa_MOON SELENAa^DIAMOND ON CROSSaTRUE LIGHT MOON ARTAaCUPIDOaHADES",
   "aZEUSaKRONOSaAPOLLONaADMETOSaVULCANUSaPOSEIDONa<HALF ^STARa*HALF ^STARaSTAR #<HALF ^c*HALF ^",
   "a?TWO-HEADED &#TRIANGLE ARROWHEADSaUPWARDS TWO-HEADED &#TRIANGLE ARROWHEADS",
   "a.TWO-HEADED &#TRIANGLE ARROWHEADSaqTWO-HEADED &#TRIANGLE ARROWHEADSaERIS (ONEcwaSEDNA",
   "aRUSSIAN ASTROLOGICAL mVIGINTILEdNOVILEdQUINTILEdBINOVILEdSENTAGONdTREDECILE",
   "aEQUALS )#INFINITY [aUNITED maSEPARATED maDOUBLED maPASSED maREVERSED *ANGLE",
   "aHELLSCHREIBER PAUSE maGLAGOLITIC $!AZUdBUKYdVEDEdGLAGOLIdDOBROdYESTUdZHIVETEdDZELOdZEMLJA",
   "dIZHEd>IZHEdIdDJERVIdKAKOdLJUDIJEdMYSLITEdNASHIdONUdPOKOJIdRITSIdSLOVOdTVRIDOdUKUdFRITUdHERU",
   "dOTUdPEdSHTAdTSIdCHRIVIdSHAdYERUdYERIdYATIdSPIDERY HAdYUd%YUSf#TAILdYOdIOTATED %YUSdBIG YUS",
   "dIOTATED BIG YUSdFITAdIZHITSAdSHTAPICdTROKUTASTI AdLATINATE MYSLITEdCAUDATE CHRIVIb%!AZUdBUKY",
   "dVEDEdGLAGOLIdDOBROdYESTUdZHIVETEdDZELOdZEMLJAdIZHEd>IZHEdIdDJERVIdKAKOdLJUDIJEdMYSLITEdNASHI",
   "dONUdPOKOJIdRITSIdSLOVOdTVRIDOdUKUdFRITUdHERUdOTUdPEdSHTAdTSIdCHRIVIdSHAdYERUdYERIdYATI",
   "dSPIDERY HAdYUd%YUSf#TAILdYOdIOTATED %YUSdBIG YUSdIOTATED BIG YUSdFITAdIZHITSAdSHTAPIC",
   "dTROKUTASTI AdLATINATE MYSLITEdCAUDATE CHRIVIaLATIN $!L #:BARb%!L #:BARb$!L #oTILDEdP #~",
   "dR #TAILb%!A #~dT #DIAGONAL ~b$!H #DESCENDERb%!H #DESCENDERb$!K #DESCENDERb%!K #DESCENDER",
   "b$!Z #DESCENDERb%!Z #DESCENDERb$!ALPHAdM #HOOKdTURNED AeALPHAb%!V #*HOOKb$!W #HOOKb%!W #HOOK",
   "dV #CURLb$!HALF Hb%!HALF HdTAILLESS PHIdE #NOTCHdTURNED R #TAILdO #LOW RING INSIDEb!%$TURNED E",
   "bSUBSCRIPT %!JaMODIFIER !$VaLATIN $!S #SWASH TAILdZ #SWASH TAILaCOPTIC $!ALFAb%!ALFAb$!VIDA",
   "b%!VIDAb$!GAMMAb%!GAMMAb$!DALDAb%!DALDAb$!EIEb%!EIEb$!SOUb%!SOUb$!ZATAb%!ZATAb$!HATEb%!HATE",
   "b$!THETHEb%!THETHEb$!IAUDAb%!IAUDAb$!KAPAb%!KAPAb$!LAULAb%!LAULAb$!MIb%!MIb$!NIb%!NIb$!KSI",
   "b%!KSIb$!Ob%!Ob$!PIb%!PIb$!ROb%!ROb$!SIMAb%!SIMAb$!TAUb%!TAUb$!UAb%!UAb$!FIb%!FIb$!KHIb%!KHI",
   "b$!PSIb%!PSIb$!OOUb%!OOUb$!DIALECT-P ALEFb%!DIALECT-P ALEFb$!OLD COPTIC AINb%!OLD COPTIC AIN",
   "b$!CRYPTOGRAMMIC EIEb%!CRYPTOGRAMMIC EIEb$!DIALECT-P KAPAb%!DIALECT-P KAPAb$!DIALECT-P NI",
   "b%!DIALECT-P NIb$!CRYPTOGRAMMIC NIb%!CRYPTOGRAMMIC NIb$!OLD COPTIC OOUb%!OLD COPTIC OOU",
   "b$!SAMPIb%!SAMPIb$!CROSSED SHEIb%!CROSSED SHEIb$!OLD COPTIC SHEIb%!OLD COPTIC SHEI",
   "b$!OLD COPTIC ESHb%!OLD COPTIC ESHb$!AKHMIMIC KHEIb%!AKHMIMIC KHEIb$!DIALECT-P HORI",
   "b%!DIALECT-P HORIb$!OLD COPTIC HORIb%!OLD COPTIC HORIb$!OLD COPTIC HAb%!OLD COPTIC HA",
   "b$!L-SHAPED HAb%!L-SHAPED HAb$!OLD COPTIC HEIb%!OLD COPTIC HEIb$!OLD COPTIC HAT",
   "b%!OLD COPTIC HATb$!OLD COPTIC GANGIAb%!OLD COPTIC GANGIAb$!OLD COPTIC DJAb%!OLD COPTIC DJA",
   "b$!OLD COPTIC SHIMAb%!OLD COPTIC SHIMAb$!OLD NUBIAN SHIMAb%!OLD NUBIAN SHIMAb$!OLD NUBIAN NGI",
   "b%!OLD NUBIAN NGIb$!OLD NUBIAN NYIb%!OLD NUBIAN NYIb$!OLD NUBIAN WAUb%!OLD NUBIAN WAUbmKAI",
   "cMI ROcPI ROcSTAUROScTAU ROcKHI ROcSHIMA SIMAb$!CRYPTOGRAMMIC SHEIb%!CRYPTOGRAMMIC SHEI",
   "b$!CRYPTOGRAMMIC GANGIAb%!CRYPTOGRAMMIC GANGIAbCOMBINING NI ,cSPIRITUS ASPERdLENIS",
   "b$!BOHAIRIC KHEIb%!BOHAIRIC KHEI",
   "2CF9bOLD NUBIAN FULL STOPdDIRECT QUESTION pdINDIRECT QUESTION pdVERSE DIVIDER",
   "bFRACTION ONE HALFbFULL STOPbMORPHOLOGICAL DIVIDERaGEORGIAN %!ANdBANdGANdDONdENdVINdZENdTANdIN",
   "dKANdLASdMANdNARdONdPARdZHARdRAEdSANdTARdUNdPHARdKHARdGHANdQARdSHINdCHINdCANdJILdCILdCHARdXAN",
   "dJHANdHAEdHEdHIEdWEdHARdHOE",
   "2D27dYN",
   "2D2DdAEN",
   "2D30aTIFINAGH !YAcYABcYABHcYAGcYAGHHcBERBER ACADEMY YAJcYAJcYADcYADHcYADDcYADDHcYEYcYAFcYAK",
   "cTUAREG YAKcYAKHHcYAHcBERBER ACADEMY YAHcTUAREG YAHcYAHHcYAAcYAKHcTUAREG YAKHcYAQcTUAREG YAQ",
   "cYIcYAZHcAHAGGAR YAZHcTUAREG YAZHcYALcYAMcYANcTUAREG YAGNdYANGcYAPcYUcYARcYARRcYAGH",
   "cTUAREG YAGHcAYER YAGHcYAScYASScYASHcYATcYATHcYACHcYATTcYAVcYAWcYAYcYAZcTAWELLEMET YAZcYAZZcYE",
   "cYO",
   "2D6FbMODIFIER !LABIALIZATION pbSEPARATOR p",
   "2D7FbCONSONANT JOINERaETHIOPIC SYLLABLE LOAcMOAcROAcSOAcSHOAcBOAcTOAcCOAcNOAcNYOAcGLOTTAL OA",
   "cZOAcDOAcDDOAcJOAcTHOAcCHOAcPHOAcPOAcGGWAcGGWIcGGWEEcGGWE",
   "2DA0cSSAcSSUcSSIcSSAAcSSEEcSSEcSSO",
   "2DA8cCCAcCCUcCCIcCCAAcCCEEcCCEcCCO",
   "2DB0cZZAcZZUcZZIcZZAAcZZEEcZZEcZZO",
   "2DB8cCCHAcCCHUcCCHIcCCHAAcCCHEEcCCHEcCCHO",
   "2DC0cQYAcQYUcQYIcQYAAcQYEEcQYEcQYO",
   "2DC8cKYAcKYUcKYIcKYAAcKYEEcKYEcKYO",
   "2DD0cXYAcXYUcXYIcXYAAcXYEEcXYEcXYO",
   "2DD8cGYAcGYUcGYIcGYAAcGYEEcGYEcGYO",
   "2DE0aCOMBINING CYRILLIC !BEdVEdGHEdDEdZHEdZEdKAdELdEMdENdOdPEdERdESdTEdHAdTSEdCHEdSHAdSHCHA",
   "dFITAdES-TEdAdIEdDJERVdMONOGRAPH UKdYATdYUdIOTIFIED AdLITTLE YUSdBIG YUSdIOTIFIED BIG YUS",
   "a*ANGLE SUBSTITUTION MARKERcDOTTED SUBSTITUTION MARKERa<SUBSTITUTION ta*SUBSTITUTION t",
   "a<DOTTED SUBSTITUTION ta*DOTTED SUBSTITUTION taRAISED INTERPOLATION MARKER",
   "bDOTTED INTERPOLATION MARKERaDOTTED TRANSPOSITION MARKERa<TRANSPOSITION ta*TRANSPOSITION t",
   "aRAISED SQUAREa<RAISED OMISSION ta*RAISED OMISSION taEDITORIAL CORONISaPARAGRAPHOS",
   "aFORKED PARAGRAPHOSaREVERSED FORKED PARAGRAPHOSaHYPODIASTOLEaDOTTED OBELOSaqANCORA",
   "aUPWARDS ANCORAaDOTTED RIGHT-POINTING ANGLEa:OBLIQUE HYPHENaINVERTED INTERROBANGaPALM BRANCH",
   "aHYPHEN #DIAERESISaTILDE #RING ,a<LOW PARAPHRASE ta*LOW PARAPHRASE taTILDE #v,d[a<@BAR #QUILL",
   "a*@BAR #QUILLaTOP <HALF tb*HALF taBOTTOM <HALF tb*HALF ta<SIDEWAYS U ta*SIDEWAYS U t",
   "a<:PARENTHESISa*:PARENTHESISawDOTS OVER ONE vPUNCTUATIONaONE vOVER wDOTS PUNCTUATION",
   "aSQUARED FOUR vPUNCTUATIONaFIVE vpaREVERSED QUESTION pa@TILDEaRING POINTaWORD SEPARATOR ov",
   "aTURNED COMMAaRAISED vbCOMMAaTURNED SEMICOLONaDAGGER #<GUARDc*GUARDaTURNED DAGGER",
   "aTOP HALF SECTION )aTWO-EM DASHaTHREE-EM DASHaSTENOGRAPHIC FULL STOPa@SIX DOTSaWIGGLY @LINE",
   "aCAPITULUMa:HYPHENaREVERSED COMMAa:LOW-REVERSED-9 QUOTATION paDASH #<UPTURNa:SUSPENSION p",
   "aINVERTED LOW KAVYKAd#KAVYKA ,aLOW KAVYKAc#va:STACKED COMMAaDOTTED SOLIDUSaTRIPLE DAGGER",
   "aMEDIEVAL COMMAaPARAGRAPHUS paPUNCTUS ELEVATUS paCORNISH VERSE DIVIDERaCROSS PATTY #*CROSSBAR",
   "d<CROSSBARaTIRONIAN )$ETaMEDIEVAL EXCLAMATION pbQUESTION pa<SQUARE t#~a*SQUARE t#~",
   "a<SQUARE t#:~a*SQUARE t#:~aTOP HALF <PARENTHESISc*PARENTHESISaBOTTOM HALF <PARENTHESIS",
   "c*PARENTHESISaOBLIQUE HYPHEN",
   "2E80aCJK RADICAL REPEATcCLIFFcSECOND ONEdwd]cPERSONcBOXcTABLEcKNIFE ONEdwcDIVINATIONcSEALc%ONE",
   "dwcLAME ONEdwd]dFOURcSNAKEcTHREADcSNOUT ONEdwcHEART ONEdwcHANDcRAP",
   "2E9BcCHOKEcSUNcMOONcDEATHcMOTHERcCIVILIANcWATER ONEdwcFIREcPAW ONEdw",
   "cSIMPLIFIED HALF TREE TRUNKcCOWcDOGcJADEcBOLT OF CLOTHcEYEcSPIRIT ONEdwcBAMBOOcSILK",
   "cC-SIMPLIFIED SILKcNET ONEdwd]dFOURcMESHcSHEEPcRAMcEWEcOLDcBRUSH ONEdwcMEATcMORTARcGRASS ONEdw",
   "d]cTIGERcCLOTHEScWEST ONEdwcC-SIMPLIFIED SEEcSIMPLIFIED HORNcHORNcC-SIMPLIFIED SPEECHdSHELL",
   "cFOOTcC-SIMPLIFIED CARTcSIMPLIFIED WALKcWALK ONEdwcCITYcC-SIMPLIFIED GOLDcLONG ONEdw",
   "cC-SIMPLIFIED LONGdGATEcMOUND ONEdwcRAINcBLUEcC-SIMPLIFIED TANNED LEATHERdLEAFdWINDdFLY",
   "cEAT ONEdwd]cC-SIMPLIFIED EATcHEADcC-SIMPLIFIED HORSEcBONEcGHOSTcC-SIMPLIFIED FISHdBIRDdSALT",
   "cSIMPLIFIED WHEATdYELLOWcC-SIMPLIFIED FROGcJ-SIMPLIFIED EVENcC-SIMPLIFIED EVEN",
   "cJ-SIMPLIFIED TOOTHcC-SIMPLIFIED TOOTHcJ-SIMPLIFIED DRAGONcC-SIMPLIFIED DRAGONcTURTLE",
   "cJ-SIMPLIFIED TURTLEcC-SIMPLIFIED TURTLE",
   "2F00aKANGXI RADICAL ONEcLINEcvcSLASHcSECONDcHOOKcwcLIDcMANcLEGScENTERcEIGHTcDOWN BOXcCOVERcICE",
   "cTABLEcOPEN BOXcKNIFEcPOWERcWRAPcSPOONc*OPEN BOXcHIDING ENCLOSUREcTENcDIVINATIONcSEALcCLIFF",
   "cPRIVATEcAGAINcMOUTHcENCLOSUREcEARTHcSCHOLARcGOdSLOWLYcEVENINGcBIGcWOMANcCHILDcROOFcINCHc%",
   "cLAMEcCORPSEcSPROUTcMOUNTAINcRIVERcWORKcONESELFcTURBANcDRYcSHORT THREADcDOTTED CLIFF",
   "cLONG STRIDEcwHANDScSHOOTcBOWcSNOUTcBRISTLEcSTEPcHEARTcHALBERDcDOORcHANDcBRANCHcRAPcSCRIPT",
   "cDIPPERcAXEcSQUAREcNOTcSUNcSAYcMOONcTREEcLACKcSTOPcDEATHcWEAPONcDO NOTcCOMPAREcFURcCLANcSTEAM",
   "cWATERcFIREcCLAWcFATHERc:XcHALF TREE TRUNKcSLICEcFANGcCOWcDOGcPROFOUNDcJADEcMELONcTILEcSWEET",
   "cLIFEcUSEcFIELDcBOLT OF CLOTHcSICKNESScDOTTED TENTc_cSKINcDISHcEYEcSPEARc&cSTONEcSPIRITcTRACK",
   "cGRAINcCAVEcSTANDcBAMBOOcRICEcSILKcJARcNETcSHEEPcFEATHERcOLDc;cPLOWcEARcBRUSHcMEATcMINISTER",
   "cSELFcARRIVEcMORTARcTONGUEcOPPOSEcBOATcSTOPPINGcCOLORcGRASScTIGERcINSECTcBLOODcWALK ENCLOSURE",
   "cCLOTHEScWESTcSEEcHORNcSPEECHcVALLEYcBEANcPIGcBADGERcSHELLcREDcRUNcFOOTcBODYcCARTcBITTER",
   "cMORNINGcWALKcCITYcWINEcDISTINGUISHcVILLAGEcGOLDcLONGcGATEcMOUNDcSLAVEcSHORT TAILED BIRDcRAIN",
   "cBLUEcWRONGcFACEcLEATHERcTANNED LEATHERcLEEKcSOUNDcLEAFcWINDcFLYcEATcHEADcFRAGRANTcHORSEcBONE",
   "cTALLcHAIRcFIGHTcSACRIFICIAL WINEcCAULDRONcGHOSTcFISHcBIRDcSALTcDEERcWHEATcHEMPcYELLOWcMILLET",
   "c^cEMBROIDERYcFROGcTRIPODcDRUMcRATcNOSEcEVENcTOOTHcDRAGONcTURTLEcFLUTE",
   "2FF0aIDEOGRAPHIC DESCRIPTION CHARACTER <TO *d,TO [d<TO o;*d,TO o;[dFULL SURROUND",
   "dSURROUND FROM ,f[f<fUPPER <g*fLOWER <dOVERLAID"]

end AccessControl
