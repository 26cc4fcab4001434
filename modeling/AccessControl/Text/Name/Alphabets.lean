/-!
# Names of alphabetic characters

The names of the characters from the space to the Greek letters with two marks, in the
form that `CharacterName.find?` reads.
-/

namespace AccessControl

/-- The names of the characters from the space to the Greek letters with two marks. -/
def alphabetNames : List String :=
  ["20aSPACEaEXCLAMATION paQUOTATION paNUMBER )aDOLLAR )aPERCENT )aAMPERSANDaAPOSTROPHE",
   "a<PARENTHESISa*PARENTHESISaASTERISKaPLUS )aCOMMAaHYPHEN-MINUSaFULL STOPaSOLIDUSaDIGIT ZERObONE",
   "bwb]bFOURbFIVEbSIXbSEVENbEIGHTbNINEaCOLONaSEMICOLONaLESS-THAN )aEQUALS )aGREATER-THAN )",
   "aQUESTION paCOMMERCIAL ATaLATIN $!AdBdCdDdEdFdGdHdIdJdKdLdMdNdOdPdQdRdSdTdUdVdWdXdYdZ",
   "a<SQUARE taREVERSE SOLIDUSa*SQUARE taxACCENTaLOW LINEaGRAVE ACCENTaLATIN %!AdBdCdDdEdFdGdHdIdJ",
   "dKdLdMdNdOdPdQdRdSdTdUdVdWdXdYdZa<CURLY ta@LINEa*CURLY taTILDE",
   "A0aNO-BREAK SPACEaINVERTED EXCLAMATION paCENT )aPOUND )aCURRENCY )aYEN )aBROKEN BARaSECTION )",
   "aDIAERESISaCOPYRIGHT )aFEMININE ORDINAL INDICATORaLEFT-POINTING :ANGLE QUOTATION paNOT )",
   "aSOFT HYPHENaREGISTERED )aMACRONaDEGREE )aPLUS-MINUS )aSUPERSCRIPT wb]aACUTE ACCENTaMICRO )",
   "aPILCROW )aovaCEDILLAaSUPERSCRIPT ONEaMASCULINE ORDINAL INDICATOR",
   "aRIGHT-POINTING :ANGLE QUOTATION paVULGAR FRACTION ONE QUARTERdHALFc]QUARTERS",
   "aINVERTED QUESTION paLATIN $!A #GRAVEfACUTEfxfTILDEfDIAERESISfRING ,dAEdC #CEDILLAdE #GRAVE",
   "fACUTEfxfDIAERESISdI #GRAVEfACUTEfxfDIAERESISdETHdN #TILDEdO #GRAVEfACUTEfxfTILDEfDIAERESIS",
   "aMULTIPLICATION )aLATIN $!O #~dU #GRAVEfACUTEfxfDIAERESISdY #ACUTEdTHORNb%!SHARP SdA #GRAVE",
   "fACUTEfxfTILDEfDIAERESISfRING ,dAEdC #CEDILLAdE #GRAVEfACUTEfxfDIAERESISdI #GRAVEfACUTEfx",
   "fDIAERESISdETHdN #TILDEdO #GRAVEfACUTEfxfTILDEfDIAERESISaDIVISION )aLATIN %!O #~dU #GRAVE",
   "fACUTEfxfDIAERESISdY #ACUTEdTHORNdY #DIAERESISb$!A #MACRONb%!A #MACRONb$!A #BREVEb%!A #BREVE",
   "b$!A #OGONEKb%!A #OGONEKb$!C #ACUTEb%!C #ACUTEb$!C #xb%!C #xb$!C #v,b%!C #v,b$!C #CARON",
   "b%!C #CARONb$!D #CARONb%!D #CARONb$!D #~b%!D #~b$!E #MACRONb%!E #MACRONb$!E #BREVEb%!E #BREVE",
   "b$!E #v,b%!E #v,b$!E #OGONEKb%!E #OGONEKb$!E #CARONb%!E #CARONb$!G #xb%!G #xb$!G #BREVE",
   "b%!G #BREVEb$!G #v,b%!G #v,b$!G #CEDILLAb%!G #CEDILLAb$!H #xb%!H #xb$!H #~b%!H #~b$!I #TILDE",
   "b%!I #TILDEb$!I #MACRONb%!I #MACRONb$!I #BREVEb%!I #BREVEb$!I #OGONEKb%!I #OGONEKb$!I #v,",
   "b%!DOTLESS Ib$LIGATURE IJb%LIGATURE IJb$!J #xb%!J #xb$!K #CEDILLAb%!K #CEDILLAdKRAb$!L #ACUTE",
   "b%!L #ACUTEb$!L #CEDILLAb%!L #CEDILLAb$!L #CARONb%!L #CARONb$!L #ovb%!L #ovb$!L #~b%!L #~",
   "b$!N #ACUTEb%!N #ACUTEb$!N #CEDILLAb%!N #CEDILLAb$!N #CARONb%!N #CARONePRECEDED BY APOSTROPHE",
   "b$!ENGb%!ENGb$!O #MACRONb%!O #MACRONb$!O #BREVEb%!O #BREVEb$!O #:ACUTEb%!O #:ACUTE",
   "b$LIGATURE OEb%LIGATURE OEb$!R #ACUTEb%!R #ACUTEb$!R #CEDILLAb%!R #CEDILLAb$!R #CARON",
   "b%!R #CARONb$!S #ACUTEb%!S #ACUTEb$!S #xb%!S #xb$!S #CEDILLAb%!S #CEDILLAb$!S #CARON",
   "b%!S #CARONb$!T #CEDILLAb%!T #CEDILLAb$!T #CARONb%!T #CARONb$!T #~b%!T #~b$!U #TILDE",
   "b%!U #TILDEb$!U #MACRONb%!U #MACRONb$!U #BREVEb%!U #BREVEb$!U #RING ,b%!U #RING ,b$!U #:ACUTE",
   "b%!U #:ACUTEb$!U #OGONEKb%!U #OGONEKb$!W #xb%!W #xb$!Y #xb%!Y #xb$!Y #DIAERESISdZ #ACUTE",
   "b%!Z #ACUTEb$!Z #v,b%!Z #v,b$!Z #CARONb%!Z #CARONdLONG SdB #~b$!B #HOOKfTOPBARb%!B #TOPBAR",
   "b$!TONE SIXb%!TONE SIXb$!OPEN OdC #HOOKb%!C #HOOKb$!AFRICAN DdD #HOOKfTOPBARb%!D #TOPBAR",
   "dTURNED DELTAb$!REVERSED EdSCHWAdOPEN EdF #HOOKb%!F #HOOKb$!G #HOOKdGAMMAb%!HVb$!IOTAdI #~",
   "dK #HOOKb%!K #HOOKdL #BARdLAMBDA #~b$!TURNED MdN #<HOOKb%!N #LONG *LEGb$!O #oTILDEfHORN",
   "b%!O #HORNb$!OIb%!OIb$!P #HOOKb%!P #HOOKb!YRb$!TONE wb%!TONE wb$!ESHb!REVERSED ESH LOOP",
   "b%!T #PALATAL HOOKb$!T #HOOKb%!T #HOOKb$!T #RETROFLEX HOOKdU #HORNb%!U #HORNb$!UPSILONdV #HOOK",
   "dY #HOOKb%!Y #HOOKb$!Z #~b%!Z #~b$!EZHeREVERSEDb%!EZH REVERSEDe#TAILb!w#~b$!TONE FIVE",
   "b%!TONE FIVEb!INVERTED GLOTTAL STOP #~cWYNNcDENTAL CLICKcLATERAL CLICKcALVEOLAR CLICK",
   "cRETROFLEX CLICKb$!DZ #CARONdD #%!Z #CARONb%!DZ #CARONb$!LJdL #%!Jb%!LJb$!NJdN #%!Jb%!NJ",
   "b$!A #CARONb%!A #CARONb$!I #CARONb%!I #CARONb$!O #CARONb%!O #CARONb$!U #CARONb%!U #CARON",
   "b$!U #DIAERESIS ;MACRONb%!U #DIAERESIS ;MACRONb$!U #DIAERESIS ;ACUTEb%!U #DIAERESIS ;ACUTE",
   "b$!U #DIAERESIS ;CARONb%!U #DIAERESIS ;CARONb$!U #DIAERESIS ;GRAVEb%!U #DIAERESIS ;GRAVE",
   "dTURNED Eb$!A #DIAERESIS ;MACRONb%!A #DIAERESIS ;MACRONb$!A #v,;MACRONb%!A #v,;MACRON",
   "b$!AE #MACRONb%!AE #MACRONb$!G #~b%!G #~b$!G #CARONb%!G #CARONb$!K #CARONb%!K #CARON",
   "b$!O #OGONEKb%!O #OGONEKb$!O #OGONEK ;MACRONb%!O #OGONEK ;MACRONb$!EZH #CARONb%!EZH #CARON",
   "dJ #CARONb$!DZdD #%!Zb%!DZb$!G #ACUTEb%!G #ACUTEb$!HWAIRdWYNNdN #GRAVEb%!N #GRAVE",
   "b$!A #RING ,;ACUTEb%!A #RING ,;ACUTEb$!AE #ACUTEb%!AE #ACUTEb$!O #~;ACUTEb%!O #~;ACUTE",
   "b$!A #:GRAVEb%!A #:GRAVEb$!A #INVERTED BREVEb%!A #INVERTED BREVEb$!E #:GRAVEb%!E #:GRAVE",
   "b$!E #INVERTED BREVEb%!E #INVERTED BREVEb$!I #:GRAVEb%!I #:GRAVEb$!I #INVERTED BREVE",
   "b%!I #INVERTED BREVEb$!O #:GRAVEb%!O #:GRAVEb$!O #INVERTED BREVEb%!O #INVERTED BREVE",
   "b$!R #:GRAVEb%!R #:GRAVEb$!R #INVERTED BREVEb%!R #INVERTED BREVEb$!U #:GRAVEb%!U #:GRAVE",
   "b$!U #INVERTED BREVEb%!U #INVERTED BREVEb$!S #COMMA [b%!S #COMMA [b$!T #COMMA [b%!T #COMMA [",
   "b$!YOGHb%!YOGHb$!H #CARONb%!H #CARONb$!N #LONG *LEGb%!D #CURLb$!OUb%!OUb$!Z #HOOKb%!Z #HOOK",
   "b$!A #v,b%!A #v,b$!E #CEDILLAb%!E #CEDILLAb$!O #DIAERESIS ;MACRONb%!O #DIAERESIS ;MACRON",
   "b$!O #TILDE ;MACRONb%!O #TILDE ;MACRONb$!O #v,b%!O #v,b$!O #v,;MACRONb%!O #v,;MACRON",
   "b$!Y #MACRONb%!Y #MACRONdL #CURLdN #CURLdT #CURLdDOTLESS JdDB DIGRAPHdQP DIGRAPHb$!A #~dC #~",
   "b%!C #~b$!L #BARdT #DIAGONAL ~b%!S #SWASH TAILdZ #SWASH TAILb$!GLOTTAL STOPb%!GLOTTAL STOP",
   "b$!B #~dU BARdTURNED VdE #~b%!E #~b$!J #~b%!J #~b$!%Q #HOOK TAILb%!Q #HOOK TAILb$!R #~b%!R #~",
   "b$!Y #~b%!Y #~dTURNED AdALPHAdTURNED ALPHAdB #HOOKdOPEN OdC #CURLdD #TAILfHOOKdREVERSED E",
   "dSCHWAe#HOOKdOPEN EdREVERSED OPEN Eg#HOOKdCLOSED REVERSED OPEN EdDOTLESS J #~dG #HOOKdSCRIPT G",
   "b!%$Gb%!GAMMAdRAMS HORNdTURNED HdH #HOOKdHENG #HOOKdI #~dIOTAb!%$Ib%!L #oTILDEfBELT",
   "fRETROFLEX HOOKdLEZHdTURNED Mf#LONG LEGdM #HOOKdN #<HOOKfRETROFLEX HOOKb!%$Nb%!BARRED Ob!%$OE",
   "b%!CLOSED OMEGAdPHIdTURNED Rf#LONG LEGgHOOKdR #LONG LEGfTAILfFISHHOOKdREVERSED R #FISHHOOK",
   "b!%$ReINVERTED Rb%!S #HOOKdESHdDOTLESS J #~;HOOKdSQUAT REVERSED ESHdESH #CURLdTURNED T",
   "dT #RETROFLEX HOOKdU BARdUPSILONdV #HOOKdTURNED VeWeYb!%$Yb%!Z #RETROFLEX HOOKfCURLdEZHe#CURL",
   "b!GLOTTAL STOPcPHARYNGEAL VOICED FRICATIVEcINVERTED GLOTTAL STOPcSTRETCHED CcBILABIAL CLICK",
   "c%$Bb%!CLOSED OPEN Eb!%$G #HOOKeHb%!J #CROSSED-TAILdTURNED Kb!%$Lb%!Q #HOOKb!GLOTTAL STOP #~",
   "cREVERSED GLOTTAL STOP #~b%!DZ DIGRAPHdDEZH DIGRAPHdDZ DIGRAPH #CURLdTS DIGRAPHdTESH DIGRAPH",
   "dTC DIGRAPH #CURLdFENG DIGRAPHdLS DIGRAPHdLZ DIGRAPHb!BILABIAL PERCUSSIVEcBIDENTAL PERCUSSIVE",
   "b%!TURNED H #FISHHOOKh;TAILaMODIFIER !%He#HOOKdJdRdTURNED Rf#HOOKd$INVERTED RdWdYcPRIMEc:PRIME",
   "cTURNED COMMAcAPOSTROPHEcREVERSED COMMAc*HALF RINGc<HALF RINGcGLOTTAL STOP",
   "cREVERSED GLOTTAL STOPc<ARROWHEADc*ARROWHEADcUP ARROWHEADcDOWN ARROWHEADcxACCENTaCARON",
   "aMODIFIER !@LINEcMACRONcACUTE ACCENTcGRAVE ACCENTcLOW @LINEdMACRONdGRAVE ACCENTdACUTE ACCENT",
   "cTRIANGULAR COLONcHALF TRIANGULAR COLONcCENTRED *HALF RINGd<HALF RINGcUP TACKcDOWN TACKcPLUS )",
   "cMINUS )aBREVEav,aRING ,aOGONEKa%TILDEa:ACUTE ACCENTaMODIFIER !RHOTIC HOOKcCROSS ACCENTc%GAMMA",
   "dLdSdXdREVERSED GLOTTAL STOPcEXTRA-HIGH TONE BARcHIGH TONE BARcMID TONE BARcLOW TONE BAR",
   "cEXTRA-LOW TONE BARcYIN DEPARTING TONE pcYANG DEPARTING TONE pcVOICINGcUNASPIRATEDc:APOSTROPHE",
   "cLOW DOWN ARROWHEADdUP ARROWHEADd<ARROWHEADd*ARROWHEADdRINGcoGRAVE ACCENTd:GRAVE ACCENT",
   "eACUTE ACCENTcLOW TILDEcRAISED COLONcBEGIN HIGH TONEcEND HIGH TONEcBEGIN LOW TONEcEND LOW TONE",
   "cSHELFcOPEN SHELFcLOW <&aCOMBINING GRAVE ACCENTbACUTE ACCENTbxACCENTbTILDEbMACRONbOVERLINE",
   "bBREVEbv,bDIAERESISbHOOK ,bRING ,b:ACUTE ACCENTbCARONb@LINE ,b:@LINE ,cGRAVE ACCENT",
   "bCANDRABINDUbINVERTED BREVEbTURNED COMMA ,bCOMMA ,bREVERSED COMMA ,bCOMMA ,*bGRAVE ACCENT [",
   "bACUTE ACCENT [b<TACK [b*TACK [b<ANGLE ,bHORNb<HALF RING [bUP TACK [bDOWN TACK [bPLUS )[",
   "bMINUS )[bPALATALIZED HOOK [bRETROFLEX HOOK [bv[bDIAERESIS [bRING [bCOMMA [bCEDILLAbOGONEK",
   "b@LINE [bBRIDGE [bINVERTED :ARCH [bCARON [bxACCENT [bBREVE [bINVERTED BREVE [bTILDE [bMACRON [",
   "bLOW LINEb:LOW LINEbTILDE OVERLAYbSHORT ~OVERLAYbLONG ~OVERLAYbSHORT SOLIDUS OVERLAY",
   "bLONG SOLIDUS OVERLAYb*HALF RING [bINVERTED BRIDGE [bSQUARE [bSEAGULL [bX ,b@TILDEb:OVERLINE",
   "bGRAVE TONE pbACUTE TONE pbGREEK PERISPOMENIcKORONIScDIALYTIKA TONOScYPOGEGRAMMENIbBRIDGE ,",
   "bEQUALS )[b:@LINE [b<ANGLE [bNOT TILDE ,bHOMOTHETIC ,bALMOST EQUAL TO ,b<*&[bUPWARDS &[",
   "bGRAPHEME JOINERb*ARROWHEAD ,b<HALF RING ,bFERMATAbX [b<ARROWHEAD [b*ARROWHEAD [",
   "d;UP ARROWHEAD [cHALF RING ,bv,*bASTERISK [b:RING [bZIGZAG ,b:BREVE [cBREVEcMACRONd[cTILDE",
   "cINVERTED BREVEc.&[bLATIN %!AeEeIeOeUeCeDeHeMeReTeVeXaGREEK $!HETAb%!HETAb$!ARCHAIC SAMPI",
   "b%!ARCHAIC SAMPIbNUMERAL )bLOWER NUMERAL )b$!PAMPHYLIAN DIGAMMAb%!PAMPHYLIAN DIGAMMA",
   "37AbYPOGEGRAMMENIb%REVERSED LUNATE SIGMA mcDOTTED LUNATE SIGMA m",
   "cREVERSED DOTTED LUNATE SIGMA mbQUESTION pb$!YOT",
   "384bTONOSbDIALYTIKA TONOSb$!ALPHA #TONOSbANO TELEIAb$!EPSILON #TONOSdETA #TONOSdIOTA #TONOS",
   "38CdOMICRON #TONOS",
   "38EdUPSILON #TONOSdOMEGA #TONOSb%!IOTA #DIALYTIKA ;TONOSb$!ALPHAdBETAdGAMMAdDELTAdEPSILONdZETA",
   "dETAdTHETAdIOTAdKAPPAdLAMDAdMUdNUdXIdOMICRONdPIdRHO",
   "3A3dSIGMAdTAUdUPSILONdPHIdCHIdPSIdOMEGAdIOTA #DIALYTIKAdUPSILON #DIALYTIKAb%!ALPHA #TONOS",
   "dEPSILON #TONOSdETA #TONOSdIOTA #TONOSdUPSILON #DIALYTIKA ;TONOSdALPHAdBETAdGAMMAdDELTA",
   "dEPSILONdZETAdETAdTHETAdIOTAdKAPPAdLAMDAdMUdNUdXIdOMICRONdPIdRHOd=SIGMAdSIGMAdTAUdUPSILONdPHI",
   "dCHIdPSIdOMEGAdIOTA #DIALYTIKAdUPSILON #DIALYTIKAdOMICRON #TONOSdUPSILON #TONOSdOMEGA #TONOS",
   "b$KAI mbBETA mbTHETA mbUPSILON #HOOK mdACUTE ;HOOK mdDIAERESIS ;HOOK mbPHI mbPI mbKAI m",
   "b!ARCHAIC KOPPAb%!ARCHAIC KOPPAb!STIGMAb%!STIGMAb!DIGAMMAb%!DIGAMMAb!KOPPAb%!KOPPAb!SAMPI",
   "b%!SAMPIaCOPTIC $!SHEIb%!SHEIb$!FEIb%!FEIb$!KHEIb%!KHEIb$!HORIb%!HORIb$!GANGIAb%!GANGIA",
   "b$!SHIMAb%!SHIMAb$!DEIb%!DEIaGREEK KAPPA mbRHO mbLUNATE SIGMA mb!YOTb$THETA mbLUNATE EPSILON m",
   "bREVERSED LUNATE EPSILON mb$!SHOb%!SHOb$LUNATE SIGMA mc!SANb%!SANbRHO #~m",
   "b$REVERSED LUNATE SIGMA mcDOTTED LUNATE SIGMA mcREVERSED DOTTED LUNATE SIGMA m",
   "aCYRILLIC $!IE #GRAVEdIOdDJEdGJEdUKRAINIAN IEdDZEdBYELORUSSIAN-UKRAINIAN IdYIdJEdLJEdNJEdTSHE",
   "dKJEdI #GRAVEdSHORT UdDZHEdAdBEdVEdGHEdDEdIEdZHEdZEdIdSHORT IdKAdELdEMdENdOdPEdERdESdTEdUdEF",
   "dHAdTSEdCHEdSHAdSHCHAdHARD )dYERUdSOFT )dEdYUdYAb%!AdBEdVEdGHEdDEdIEdZHEdZEdIdSHORT IdKAdELdEM",
   "dENdOdPEdERdESdTEdUdEFdHAdTSEdCHEdSHAdSHCHAdHARD )dYERUdSOFT )dEdYUdYAdIE #GRAVEdIOdDJEdGJE",
   "dUKRAINIAN IEdDZEdBYELORUSSIAN-UKRAINIAN IdYIdJEdLJEdNJEdTSHEdKJEdI #GRAVEdSHORT UdDZHE",
   "b$!OMEGAb%!OMEGAb$!YATb%!YATb$!IOTIFIED Eb%!IOTIFIED Eb$!LITTLE YUSb%!LITTLE YUS",
   "b$!IOTIFIED LITTLE YUSb%!IOTIFIED LITTLE YUSb$!BIG YUSb%!BIG YUSb$!IOTIFIED BIG YUS",
   "b%!IOTIFIED BIG YUSb$!KSIb%!KSIb$!PSIb%!PSIb$!FITAb%!FITAb$!IZHITSAb%!IZHITSA",
   "b$!IZHITSA #:GRAVE ACCENTb%!IZHITSA #:GRAVE ACCENTb$!UKb%!UKb$!ROUND OMEGAb%!ROUND OMEGA",
   "b$!OMEGA #TITLOb%!OMEGA #TITLOb$!OTb%!OTb$!KOPPAb%!KOPPAbTHOUSANDS )aCOMBINING CYRILLIC TITLO",
   "cPALATALIZATIONcDASIA PNEUMATAcPSILI PNEUMATAcPOKRYTIEcrTHOUSANDS )cMILLIONS )",
   "aCYRILLIC $!SHORT I #TAILb%!SHORT I #TAILb$!SEMISOFT )b%!SEMISOFT )b$!ER #TICKb%!ER #TICK",
   "b$!GHE #UPTURNb%!GHE #UPTURNb$!GHE #~b%!GHE #~b$!GHE #oHOOKb%!GHE #oHOOKb$!ZHE #DESCENDER",
   "b%!ZHE #DESCENDERb$!ZE #DESCENDERb%!ZE #DESCENDERb$!KA #DESCENDERb%!KA #DESCENDERb$!KA #@~",
   "b%!KA #@~b$!KA #~b%!KA #~b$!BASHKIR KAb%!BASHKIR KAb$!EN #DESCENDERb%!EN #DESCENDER",
   "b$LIGATURE EN GHEb%LIGATURE EN GHEb$!PE #oHOOKb%!PE #oHOOKb$!ABKHASIAN HAb%!ABKHASIAN HA",
   "b$!ES #DESCENDERb%!ES #DESCENDERb$!TE #DESCENDERb%!TE #DESCENDERb$!STRAIGHT Ub%!STRAIGHT U",
   "b$!STRAIGHT U #~b%!STRAIGHT U #~b$!HA #DESCENDERb%!HA #DESCENDERb$LIGATURE TE TSE",
   "b%LIGATURE TE TSEb$!CHE #DESCENDERb%!CHE #DESCENDERb$!CHE #@~b%!CHE #@~b$!SHHAb%!SHHA",
   "b$!ABKHASIAN CHEb%!ABKHASIAN CHEb$!ABKHASIAN CHE #DESCENDERb%!ABKHASIAN CHE #DESCENDER",
   "b!PALOCHKAb$!ZHE #BREVEb%!ZHE #BREVEb$!KA #HOOKb%!KA #HOOKb$!EL #TAILb%!EL #TAILb$!EN #HOOK",
   "b%!EN #HOOKb$!EN #TAILb%!EN #TAILb$!KHAKASSIAN CHEb%!KHAKASSIAN CHEb$!EM #TAILb%!EM #TAIL",
   "dPALOCHKAb$!A #BREVEb%!A #BREVEb$!A #DIAERESISb%!A #DIAERESISb$LIGATURE A IEb%LIGATURE A IE",
   "b$!IE #BREVEb%!IE #BREVEb$!SCHWAb%!SCHWAb$!SCHWA #DIAERESISb%!SCHWA #DIAERESIS",
   "b$!ZHE #DIAERESISb%!ZHE #DIAERESISb$!ZE #DIAERESISb%!ZE #DIAERESISb$!ABKHASIAN DZE",
   "b%!ABKHASIAN DZEb$!I #MACRONb%!I #MACRONb$!I #DIAERESISb%!I #DIAERESISb$!O #DIAERESIS",
   "b%!O #DIAERESISb$!BARRED Ob%!BARRED Ob$!BARRED O #DIAERESISb%!BARRED O #DIAERESIS",
   "b$!E #DIAERESISb%!E #DIAERESISb$!U #MACRONb%!U #MACRONb$!U #DIAERESISb%!U #DIAERESIS",
   "b$!U #:ACUTEb%!U #:ACUTEb$!CHE #DIAERESISb%!CHE #DIAERESISb$!GHE #DESCENDERb%!GHE #DESCENDER",
   "b$!YERU #DIAERESISb%!YERU #DIAERESISb$!GHE #~;HOOKb%!GHE #~;HOOKb$!HA #HOOKb%!HA #HOOKb$!HA #~",
   "b%!HA #~b$!KOMI DEb%!KOMI DEb$!KOMI DJEb%!KOMI DJEb$!KOMI ZJEb%!KOMI ZJEb$!KOMI DZJE",
   "b%!KOMI DZJEb$!KOMI LJEb%!KOMI LJEb$!KOMI NJEb%!KOMI NJEb$!KOMI SJEb%!KOMI SJEb$!KOMI TJE",
   "b%!KOMI TJEb$!REVERSED ZEb%!REVERSED ZEb$!EL #HOOKb%!EL #HOOKb$!LHAb%!LHAb$!RHAb%!RHAb$!YAE",
   "b%!YAEb$!QAb%!QAb$!WEb%!WEb$!ALEUT KAb%!ALEUT KAb$!EL #oHOOKb%!EL #oHOOKb$!EN #oHOOK",
   "b%!EN #oHOOKb$!PE #DESCENDERb%!PE #DESCENDERb$!SHHA #DESCENDERb%!SHHA #DESCENDERb$!EN #<HOOK",
   "b%!EN #<HOOKb$!DZZHEb%!DZZHEb$!DCHEb%!DCHEb$!EL #DESCENDERb%!EL #DESCENDER",
   "531aARMENIAN $!AYBdBENdGIMdDAdECHdZAdEHdETdTOdZHEdINIdLIWNdXEHdCAdKENdHOdJAdGHADdCHEHdMENdYI",
   "dNOWdSHAdVOdCHAdPEHdJHEHdRAdSEHdVEWdTIWNdREHdCOdYIWNdPIWRdKEHdOHdFEH",
   "559bMODIFIER !<HALF RINGbAPOSTROPHEbEMPHASIS pbEXCLAMATION pbCOMMAbQUESTION pbABBREVIATION p",
   "b%!TURNED AYBdAYBdBENdGIMdDAdECHdZAdEHdETdTOdZHEdINIdLIWNdXEHdCAdKENdHOdJAdGHADdCHEHdMENdYI",
   "dNOWdSHAdVOdCHAdPEHdJHEHdRAdSEHdVEWdTIWNdREHdCOdYIWNdPIWRdKEHdOHdFEHcLIGATURE ECH YIWNc!YI #~",
   "bFULL STOPbHYPHEN",
   "58DaRIGHT-FACING ARMENIAN ETERNITY )aLEFT-FACING ARMENIAN ETERNITY )aARMENIAN DRAM )",
   "591aHEBREW ACCENT ETNAHTAcSEGOLcSHALSHELETcZAQEF QATANdGADOLcTIPEHAcREVIAcZARQAcPASHTAcYETIV",
   "cTEVIRcGERESHdMUQDAMcGERSHAYIMcQARNEY PARAcTELISHA GEDOLAcPAZERcATNAH HAFUKHcMUNAHcMAHAPAKH",
   "cMERKHAdKEFULAcDARGAcQADMAcTELISHA QETANAcYERAH BEN YOMOcOLEcILUYcDEHIcZINORbpMASORA CIRCLE",
   "bPOINT SHEVAcHATAF SEGOLdPATAHdQAMATScHIRIQcTSEREcSEGOLcPATAHcQAMATScHOLAMdHASER FOR VAV",
   "cQUBUTScDAGESH OR MAPIQcMETEGbPUNCTUATION MAQAFbPOINT RAFEbPUNCTUATION PASEQbPOINT SHIN v",
   "cSIN vbPUNCTUATION SOF PASUQbpUPPER vcLOWER vbPUNCTUATION NUN HAFUKHAbPOINT QAMATS QATAN",
   "5D0b!ALEFcBETcGIMELcDALETcHEcVAVcZAYINcHETcTETcYODc=KAFcKAFcLAMEDc=MEMcMEMc=NUNcNUNcSAMEKH",
   "cAYINc=PEcPEc=TSADIcTSADIcQOFcRESHcSHINcTAV",
   "5EFbYOD TRIANGLEbLIGATURE YIDDISH :VAVdVAV YODd:YODbPUNCTUATION GERESHcGERSHAYIM",
   "600aARABIC NUMBER )b)SANAHbFOOTNOTE MARKERb)SAFHAcSAMVATbNUMBER p,aARABIC-INDIC CUBE ROOT",
   "bFOURTH ROOTaARABIC RAYaARABIC-INDIC PER MILLE )cTEN u)aAFGHANI )aARABIC COMMAbDATE SEPARATOR",
   "bPOETIC VERSE )b)MISRAcSALLALLAHOU ALAYHE WASSALLAMcALAYHE ASSALLAMcRAHMATULLAH ALAYHE",
   "cRADI ALLAHOU ANHUcTAKHALLUSb%HIGH TAHdLIGATURE ALEF #LAM #YEHdZAINcFATHAcDAMMAcKASRA",
   "bSEMICOLONb!pbEND OF TEXT pbTRIPLE vPUNCTUATION pbQUESTION pb!KASHMIRI YEHcHAMZAcALEF #MADDA ,",
   "eHAMZA ,cWAW #HAMZA ,cALEF #HAMZA [cYEH #HAMZA ,cALEFcBEHcTEH MARBUTAcTEHcTHEHcJEEMcHAHcKHAH",
   "cDALcTHALcREHcZAINcSEENcSHEENcSADcDADcTAHcZAHcAINcGHAINcKEHEH #wDOTS ,e]DOTS [",
   "cFARSI YEH #INVERTED VfwDOTS ,f]DOTS ,bTATWEELb!FEHcQAFcKAFcLAMcMEEMcNOONcHEHcWAWcALEF MAKSURA",
   "cYEHbFATHATANbDAMMATANbKASRATANbFATHAbDAMMAbKASRAbSHADDAbSUKUNbMADDAH ,bHAMZA ,c[",
   "bSUBSCRIPT ALEFbINVERTED DAMMAbpNOON GHUNNAbZWARAKAYbVOWEL )%V ,dINVERTED %V ,dv[",
   "bREVERSED DAMMAbFATHA #wDOTSbWAVY HAMZA [aARABIC-INDIC DIGIT ZEROcONEcwc]cFOURcFIVEcSIXcSEVEN",
   "cEIGHTcNINEaARABIC PERCENT )bDECIMAL SEPARATORbTHOUSANDS SEPARATORbFIVE POINTED STAR",
   "b!DOTLESS BEHdQAFcSUPERSCRIPT ALEFcALEF WASLAd#WAVY HAMZA ,g[cHIGH HAMZAeALEFeWAWcU #HAMZA ,",
   "cHIGH HAMZA YEHcTTEHcTTEHEHcBEEHcTEH #RINGe]DOTS ,qcPEHcTEHEHcBEHEHcHAH #HAMZA ,ewDOTS @,cNYEH",
   "cDYEHcHAH #]DOTS ,cTCHEHcTCHEHEHcDDALcDAL #RINGev[g;%TAHcDAHALcDDAHALcDULcDAL #]DOTS ,q",
   "eFOUR DOTS ,cRREHcREH #%VeRINGev[e%V [ev[;v,ewDOTS ,cJEHcREH #FOUR DOTS ,cSEEN #v[;v,e]DOTS [",
   "h;]DOTS ,cSAD #wDOTS [e]DOTS ,cTAH #]DOTS ,cAIN #]DOTS ,cDOTLESS FEHcFEH #vMOVED [f[cVEH",
   "cFEH #]DOTS [cPEHEHcQAF #v,e]DOTS ,cKEHEHcSWASH KAFcKAF #RINGev,cNGcKAF #]DOTS [cGAFd#RING",
   "cNGOEHcGAF #wDOTS [cGUEHcGAF #]DOTS ,cLAM #%Vev,e]DOTS ,g[cNOON #v[dGHUNNAcRNOONcNOON #RING",
   "e]DOTS ,cHEH DOACHASHMEEcTCHEH #v,cHEH #YEH ,dGOALe#HAMZA ,cTEH MARBUTA GOALcWAW #RING",
   "cKIRGHIZ OEcOEcUcYUcKIRGHIZ YUcWAW #wDOTS ,cVEcFARSI YEHcYEH #TAILe%VcWAW #v,cEcYEH #]DOTS [",
   "dBARREEe#HAMZA ,bFULL STOPb!AEb%HIGH LIGATURE SAD #LAM #ALEF MAKSURAeQAF #LAM #ALEF MAKSURA",
   "dMEEM >(dLAM ALEFdJEEMd]DOTSdSEENbEND OF AYAHbSTART OF RUB EL HIZBb%HIGH ROUNDED ZERO",
   "dUPRIGHT RECTANGULAR ZEROdDOTLESS HEAD OF KHAHdMEEM +(cLOW SEENcHIGH MADDAcWAWcYEHcHIGH YEH",
   "dNOONbPLACE OF SAJDAHbEMPTY CENTRE LOW STOPdHIGH STOPbROUNDED HIGH STOP #FILLED CENTRE",
   "b%LOW MEEMb!DAL #INVERTED VcREH #INVERTED VaEXTENDED ARABIC-INDIC DIGIT ZEROdONEdwd]dFOURdFIVE",
   "dSIXdSEVENdEIGHTdNINEaARABIC !SHEEN #v[cDAD #v[cGHAIN #v[b)SINDHI AMPERSANDdPOSTPOSITION MEN",
   "b!HEH #INVERTED VaSYRIAC END OF PARAGRAPHbSUPRALINEAR FULL STOPbSUBLINEAR FULL STOP",
   "bSUPRALINEAR COLONbSUBLINEAR COLONbnCOLONbCOLON SKEWED <d*bSUPRALINEAR COLON SKEWED <",
   "bSUBLINEAR COLON SKEWED *bCONTRACTIONbHARKLEAN OBELUScMETOBELUScASTERISCUS",
   "70FbABBREVIATION pb!ALAPHcSUPERSCRIPT ALAPHcBETHcGAMALdGARSHUNIcDALATHcDOTLESS DALATH RISHcHE",
   "cWAWcZAINcHETHcTETHdGARSHUNIcYUDHdHEcKAPHcLAMADHcMIMcNUNcSEMKATHc=SEMKATHcEcPEcREVERSED PE",
   "cSADHEcQAPHcRISHcSHINcTAWcPERSIAN BHETHdGHAMALdDHALATHbPTHAHA ,c[cDOTTEDbZQAPHA ,c[cDOTTED",
   "bRBASA ,c[bDOTTED ZLAMA ndANGULARbHBASA ,c[bHBASA-ESASA DOTTEDbESASA ,c[bRWAHAbFEMININE v",
   "bQUSHSHAYAbRUKKAKHAbw@DOTS ,e[b]DOTS ,d[bOBLIQUE LINE ,d[bMUSICbBARREKH",
   "74Db!SOGDIAN ZHAINdKHAPHdFEaARABIC !BEH #]DOTS HORIZONTALLY [ev[;]DOTS ,",
   "e]DOTS POINTING UPWARDS [j;wDOTS ,ewDOTS [;v,eINVERTED %V [e%VcHAH #wDOTS ,",
   "e]DOTS POINTING UPWARDS [cDAL #wDOTS VERTICALLY [;%TAHeINVERTED %V [cREH #~cSEEN #FOUR DOTS ,",
   "cAIN #wDOTS ,e]DOTS POINTING q,ewDOTS VERTICALLY ,cFEH #wDOTS [e]DOTS POINTING UPWARDS [",
   "cKEHEH #v,e]DOTS ,gPOINTING UPWARDS [cMEEM #v,f[cNOON #wDOTS [e%TAHfVcLAM #BAR",
   "cREH #wDOTS VERTICALLY ,eHAMZA ,cSEEN #wDOTS VERTICALLY ,cHAH #%ARABIC !TAH [i;wDOTS",
   "cSEEN #%ARABIC !TAH ;wDOTScREH #%ARABIC !TAH ;wDOTScHAH #%ARABIC !TAH ,",
   "cALEF #EXTENDED ARABIC-INDIC DIGIT w,h],cFARSI YEH #EXTENDED ARABIC-INDIC DIGIT w,i],iFOUR [",
   "cWAW #EXTENDED ARABIC-INDIC DIGIT w,h],cYEH BARREE #EXTENDED ARABIC-INDIC DIGIT w,i],",
   "cHAH #EXTENDED ARABIC-INDIC DIGIT FOUR [cSEEN #EXTENDED ARABIC-INDIC DIGIT FOUR ,eINVERTED V",
   "cKAF #wDOTS ,aTHAANA !HAAcSHAVIYANIcNOONUcRAAcBAAcLHAVIYANIcKAAFUcALIFUcVAAVUcMEEMUcFAAFU",
   "cDHAALUcTHAAcLAAMUcGAAFUcGNAVIYANIcSEENUcDAVIYANIcZAVIYANIcTAVIYANIcYAAcPAVIYANIcJAVIYANI",
   "cCHAVIYANIcTTAAcHHAAcKHAAcTHAALUcZAAcSHEENUcSAADHUcDAADHUcTOcZOcAINUcGHAINUcQAAFUcWAAVU",
   "bABAFILIbAABAAFILIbIBIFILIbEEBEEFILIbUBUFILIbOOBOOFILIbEBEFILIbEYBEYFILIbOBOFILIbOABOAFILI",
   "bSUKUNb!NAA",
   "7C0aNKO DIGIT ZEROcONEcwc]cFOURcFIVEcSIXcSEVENcEIGHTcNINEb!AcEEcIcEcUcOOcOcDAGBASINNAcNcBAcPA",
   "cTAcJAcCHAcDAcRAcRRAcSAcGBAcFAcKAcLAcNA WOLOSOcMAcNYAcNAcHAcWAcYAcNYA WOLOSOcJONA JAdCHAdRA",
   "bCOMBINING SHORT HIGH TONEdLOW TONEdRISING TONEcLONG DESCENDING TONEdHIGH TONEdLOW TONE",
   "dRISING TONEcNASALIZATION pc:v,bHIGH TONE APOSTROPHEbLOW TONE APOSTROPHEbmOO DENNENcGBAKURUNEN",
   "bCOMMAbEXCLAMATION pbLAJANYALAN",
   "7FDbDANTAYALANbDOROME )bTAMAN )aSAMARITAN !ALAFcBITcGAMANcDALATcIYcBAAcZENcITcTITcYUTcKAAF",
   "cLABATcMIMcNUNcSINGAATcINcFIcTSAADIYcQUFcRISHcSHANcTAAFbpINcIN-ALAFcOCCLUSIONcDAGESH",
   "bMODIFIER !EPENTHETIC YUTbpEPENTHETIC YUTbVOWEL )LONG EdEdOVERLONG AAdLONG AAdAAdOVERLONG A",
   "dLONG AdAbMODIFIER !SHORT AbVOWEL )SHORT AdLONG UdUbMODIFIER !IbVOWEL )LONG IdIdOdSUKUN",
   "bpNEQUDAA",
   "830bPUNCTUATION NEQUDAAcAFSAAQcANGEDcBAUcATMAAUcSHIYYAALAAbABBREVIATION p",
   "bPUNCTUATION MELODIC QITSAcZIQAAcQITSAcZAEFcTURUcARKAANUcSOF MASHFAATcANNAAU",
   "840aMANDAIC !HALQAcABcAGcADcAHcUSHENNAcAZcITcATTcAKSAcAKcALcAMcANcAScINcAPcASZcAQcARcASHcAT",
   "cDUSHENNAcKADcAINbAFFRICATION pbVOCALIZATION pbGEMINATION p",
   "85EbPUNCTUATION",
   "860aSYRIAC !MALAYALAM NGAdJAdNYAdTTAdNNAdNNNAdBHAdRAdLLAdLLLAdSSA",
   "870aARABIC !ALEF #ATTACHED FATHAfTOP *FATHAe*o~e<o~eATTACHED KASRAfBOTTOM *KASRAfROUND v,",
   "f*ROUND vf<ROUND vfROUND v[ev,eATTACHED TOP *FATHA ;v,e*o~;v,eATTACHED BOTTOM *KASRA ;v,",
   "fTOP *FATHA ;<RINGe*o~;<RINGeATTACHED BOTTOM *KASRA ;<RINGf*HAMZAf<HAMZA",
   "bTATWEEL #OVERSTRUCK HAMZAeWAWdwDOTS [b!THIN YEHbBASELINE ROUND vbRAISED ROUND v",
   "b!NOON #INVERTED %VcHAH #INVERTED %V [cTAH #v[e]DOTS [cKEHEH #wDOTS VERTICALLY [b@TAIL",
   "890bPOUND p,bPIASTRE p,",
   "898b%HIGH WORD AL-JUZcLOW WORD ISHMAAMeIMAALAeTASHEELbMADDA WAAJIBbSUPERSCRIPT ALEF MOKHASSAS",
   "bDOUBLED MADDAbHALF MADDA OVER MADDAb!BEH #%V [eHAMZA ,cJEEM #wDOTS ,cTAH #wDOTS ,",
   "cFEH #v[;]DOTS ,cQAF #v[cLAM #:BARcMEEM #]DOTS ,cYEH #wDOTS [;HAMZA ,iv,cREH #LOOP",
   "cWAW #vWITHINcROHINGYA YEHcLOW ALEFcDAL #]DOTS [cSAD #]DOTS [cGAF #INVERTED ~cSTRAIGHT WAW",
   "cZAIN #INVERTED V ,cAIN #]DOTS [cKAF #v[cQAF #v[;NO DOTS ,cBEH #%MEEM ,cPEH #%MEEM ,",
   "cTEH #%TEH ,cREH #%NOON ,cYEH #wDOTS [;%NOON ,cAFRICAN FEHdQAFdNOONcPEH #%VcTEH #%VcTTEH #%V",
   "cTCHEH #%VcKEHEH #%VcGHAIN #]DOTS ,cAFRICAN QAF #]DOTS ,cJEEM #]DOTS ,g[cLAM #%ARABIC !TAH ,",
   "cGRAFb%FARSI YEHcHIGH FARSI YEHdYEH BARREE #wDOTS [dWORD SAHdZAHbLARGE ROUND v,e[bSUKUN [",
   "bLARGE CIRCLE [cROUND vINSIDE CIRCLE [b%LOW WAWcHIGH WORD AR-RUBdSADdAINdQAFdNOON #KASRA",
   "cLOW NOON #KASRAcHIGH WORD ATH-THALATHAeAS-SAJDAeAN-NISFeSAKTAeQIFeWAQFAdFOOTNOTE MARKER",
   "d)SAFHAbDISPUTED END OF AYAHbTURNED DAMMA [bCURLY FATHAcDAMMAcKASRAcFATHATANcDAMMATANcKASRATAN",
   "bTONE ONE v,cwDOTS ,cLOOP ,cONE v[cwDOTS [cLOOP [bOPEN FATHATANcDAMMATANcKASRATANb%HIGH WAW",
   "bFATHA #RINGdv,bKASRA #v[b<ARROWHEAD ,b*ARROWHEAD ,b<ARROWHEAD [b*ARROWHEAD [b:*ARROWHEAD ,f#v",
   "b*ARROWHEAD ,#vbDAMMA #vbpSIDEWAYS NOON GHUNNAaDEVANAGARI )INVERTED CANDRABINDUcCANDRABINDU",
   "cANUSVARAcVISARGAb!SHORT AcAcAAcIcIIcUcUUcVOCALIC RdLcCANDRA EcSHORT EcEcAIcCANDRA OcSHORT OcO",
   "cAUcKAcKHAcGAcGHAcNGAcCAcCHAcJAcJHAcNYAcTTAcTTHAcDDAcDDHAcNNAcTAcTHAcDAcDHAcNAcNNNAcPAcPHAcBA",
   "cBHAcMAcYAcRAcRRAcLAcLLAcLLLAcVAcSHAcSSAcSAcHAbVOWEL )OEdOOEb)NUKTAcAVAGRAHAbVOWEL )AAdIdIIdU",
   "dUUdVOCALIC ReRRdCANDRA EdSHORT EdEdAIdCANDRA OdSHORT OdOdAUb)VIRAMAbVOWEL )PRISHTHAMATRA EdAW",
   "bOMbSTRESS )UDATTAdANUDATTAbGRAVE ACCENTbACUTE ACCENTbVOWEL )CANDRA LONG EdUEdUUEb!QAcKHHA",
   "cGHHAcZAcDDDHAcRHAcFAcYYAcVOCALIC RRdLLbVOWEL )VOCALIC LeLLbDANDAb:DANDAbDIGIT ZEROcONEcwc]",
   "cFOURcFIVEcSIXcSEVENcEIGHTcNINEbABBREVIATION )b)HIGH SPACING vb!CANDRA AcOEcOOEcAWcUEcUUE",
   "cMARWARI DDAcZHAcsYAcGGAcJJAcGLOTTAL STOPcDDDAcBBAaBENGALI ANJIb)CANDRABINDUcANUSVARAcVISARGA",
   "985b!AcAAcIcIIcUcUUcVOCALIC RdL",
   "98FcEcAI",
   "993cOcAUcKAcKHAcGAcGHAcNGAcCAcCHAcJAcJHAcNYAcTTAcTTHAcDDAcDDHAcNNAcTAcTHAcDAcDHAcNA",
   "9AAcPAcPHAcBAcBHAcMAcYAcRA",
   "9B2cLA",
   "9B6cSHAcSSAcSAcHA",
   "9BCb)NUKTAcAVAGRAHAbVOWEL )AAdIdIIdUdUUdVOCALIC ReRR",
   "9C7dEdAI",
   "9CBdOdAUb)VIRAMAb!KHANDA TA",
   "9D7bAU LENGTH p",
   "9DCb!RRAcRHA",
   "9DFcYYAcVOCALIC RRdLLbVOWEL )VOCALIC LeLL",
   "9E6bDIGIT ZEROcONEcwc]cFOURcFIVEcSIXcSEVENcEIGHTcNINEb!RA #oDIAGONALeLOWER DIAGONALbRUPEE pc)",
   "bCURRENCY NUMERATOR ONEdwd]dFOURdONE LESS THAN THE DENOMINATORcDENOMINATOR SIXTEENbISSHAR",
   "bGANDA pb!VEDIC ANUSVARAbABBREVIATION )bSANDHI p",
   "A01aGURMUKHI )ADAK BINDIcBINDIcVISARGA",
   "A05b!AcAAcIcIIcUcUU",
   "A0FcEEcAI",
   "A13cOOcAUcKAcKHAcGAcGHAcNGAcCAcCHAcJAcJHAcNYAcTTAcTTHAcDDAcDDHAcNNAcTAcTHAcDAcDHAcNA",
   "A2AcPAcPHAcBAcBHAcMAcYAcRA",
   "A32cLAcLLA",
   "A35cVAcSHA",
   "A38cSAcHA",
   "A3Cb)NUKTA",
   "A3EbVOWEL )AAdIdIIdUdUU",
   "A47dEEdAI",
   "A4BdOOdAUb)VIRAMA",
   "A51cUDAAT",
   "A59b!KHHAcGHHAcZAcRRA",
   "A5EcFA",
   "A66bDIGIT ZEROcONEcwc]cFOURcFIVEcSIXcSEVENcEIGHTcNINEbTIPPIbADDAKbIRIbURAbEK ONKARb)YAKASH",
   "bABBREVIATION )",
   "A81aGUJARATI )CANDRABINDUcANUSVARAcVISARGA",
   "A85b!AcAAcIcIIcUcUUcVOCALIC RdLbVOWEL CANDRA E",
   "A8Fb!EcAIbVOWEL CANDRA O",
   "A93b!OcAUcKAcKHAcGAcGHAcNGAcCAcCHAcJAcJHAcNYAcTTAcTTHAcDDAcDDHAcNNAcTAcTHAcDAcDHAcNA",
   "AAAcPAcPHAcBAcBHAcMAcYAcRA",
   "AB2cLAcLLA",
   "AB5cVAcSHAcSSAcSAcHA",
   "ABCb)NUKTAcAVAGRAHAbVOWEL )AAdIdIIdUdUUdVOCALIC ReRRdCANDRA E",
   "AC7dEdAIdCANDRA O",
   "ACBdOdAUb)VIRAMA",
   "AD0bOM",
   "AE0b!VOCALIC RRdLLbVOWEL )VOCALIC LeLL",
   "AE6bDIGIT ZEROcONEcwc]cFOURcFIVEcSIXcSEVENcEIGHTcNINEbABBREVIATION )bRUPEE )",
   "AF9b!ZHAb)SUKUNcSHADDAcMADDAHcTHREE-DOT NUKTA ,cCIRCLE NUKTA ,cTWO-CIRCLE NUKTA ,",
   "B01aORIYA )CANDRABINDUcANUSVARAcVISARGA",
   "B05b!AcAAcIcIIcUcUUcVOCALIC RdL",
   "B0FcEcAI",
   "B13cOcAUcKAcKHAcGAcGHAcNGAcCAcCHAcJAcJHAcNYAcTTAcTTHAcDDAcDDHAcNNAcTAcTHAcDAcDHAcNA",
   "B2AcPAcPHAcBAcBHAcMAcYAcRA",
   "B32cLAcLLA",
   "B35cVAcSHAcSSAcSAcHA",
   "B3Cb)NUKTAcAVAGRAHAbVOWEL )AAdIdIIdUdUUdVOCALIC ReRR",
   "B47dEdAI",
   "B4BdOdAUb)VIRAMA",
   "B55cOVERLINEbAI LENGTH pbAU LENGTH p",
   "B5Cb!RRAcRHA",
   "B5FcYYAcVOCALIC RRdLLbVOWEL )VOCALIC LeLL",
   "B66bDIGIT ZEROcONEcwc]cFOURcFIVEcSIXcSEVENcEIGHTcNINEbISSHARb!WAbFRACTION ONE QUARTERdHALF",
   "c]QUARTERScONE SIXTEENTHdEIGHTHc]SIXTEENTHS",
   "B82aTAMIL )ANUSVARAcVISARGA",
   "B85b!AcAAcIcIIcUcUU",
   "B8EcEcEEcAI",
   "B92cOcOOcAUcKA",
   "B99cNGAcCA",
   "B9CcJA",
   "B9EcNYAcTTA",
   "BA3cNNAcTA",
   "BA8cNAcNNNAcPA",
   "BAEcMAcYAcRAcRRAcLAcLLAcLLLAcVAcSHAcSSAcSAcHA",
   "BBEbVOWEL )AAdIdIIdUdUU",
   "BC6dEdEEdAI",
   "BCAdOdOOdAUb)VIRAMA",
   "BD0bOM",
   "BD7bAU LENGTH p",
   "BE6bDIGIT ZEROcONEcwc]cFOURcFIVEcSIXcSEVENcEIGHTcNINEbNUMBER TENcONE rdubDAY )bMONTH )bYEAR )",
   "bDEBIT )bCREDIT )bAS ,)bRUPEE )bNUMBER )",
   "C00aTELUGU )COMBINING CANDRABINDU ,cCANDRABINDUcANUSVARAcVISARGAcCOMBINING ANUSVARA ,b!AcAAcI",
   "cIIcUcUUcVOCALIC RdL",
   "C0EcEcEEcAI",
   "C12cOcOOcAUcKAcKHAcGAcGHAcNGAcCAcCHAcJAcJHAcNYAcTTAcTTHAcDDAcDDHAcNNAcTAcTHAcDAcDHAcNA",
   "C2AcPAcPHAcBAcBHAcMAcYAcRAcRRAcLAcLLAcLLLAcVAcSHAcSSAcSAcHA",
   "C3Cb)NUKTAcAVAGRAHAbVOWEL )AAdIdIIdUdUUdVOCALIC ReRR",
   "C46dEdEEdAI",
   "C4AdOdOOdAUb)VIRAMA",
   "C55bLENGTH pbAI LENGTH p",
   "C58b!TSAcDZAcRRRA",
   "C5DcNAKAARA POLLU",
   "C60cVOCALIC RRdLLbVOWEL )VOCALIC LeLL",
   "C66bDIGIT ZEROcONEcwc]cFOURcFIVEcSIXcSEVENcEIGHTcNINE",
   "C77b)SIDDHAMbFRACTION DIGIT ZERO FOR ODD POWERS OF FOURdONE FOR ODD POWERS OF FOUR",
   "dwFOR ODD POWERS OF FOURd]FOR ODD POWERS OF FOURdONE FOR EVEN POWERS OF FOUR",
   "dwFOR EVEN POWERS OF FOURd]FOR EVEN POWERS OF FOURb)TUUMUaKANNADA )SPACING CANDRABINDU",
   "cCANDRABINDUcANUSVARAcVISARGAcSIDDHAMb!AcAAcIcIIcUcUUcVOCALIC RdL",
   "C8EcEcEEcAI",
   "C92cOcOOcAUcKAcKHAcGAcGHAcNGAcCAcCHAcJAcJHAcNYAcTTAcTTHAcDDAcDDHAcNNAcTAcTHAcDAcDHAcNA",
   "CAAcPAcPHAcBAcBHAcMAcYAcRAcRRAcLAcLLA",
   "CB5cVAcSHAcSSAcSAcHA",
   "CBCb)NUKTAcAVAGRAHAbVOWEL )AAdIdIIdUdUUdVOCALIC ReRR",
   "CC6dEdEEdAI",
   "CCAdOdOOdAUb)VIRAMA",
   "CD5bLENGTH pbAI LENGTH p",
   "CDDb!NAKAARA POLLUcFA",
   "CE0cVOCALIC RRdLLbVOWEL )VOCALIC LeLL",
   "CE6bDIGIT ZEROcONEcwc]cFOURcFIVEcSIXcSEVENcEIGHTcNINE",
   "CF1b)JIHVAMULIYAcUPADHMANIYA",
   "D00aMALAYALAM )COMBINING ANUSVARA ,cCANDRABINDUcANUSVARAcVISARGAb!VEDIC ANUSVARAcAcAAcIcIIcU",
   "cUUcVOCALIC RdL",
   "D0EcEcEEcAI",
   "D12cOcOOcAUcKAcKHAcGAcGHAcNGAcCAcCHAcJAcJHAcNYAcTTAcTTHAcDDAcDDHAcNNAcTAcTHAcDAcDHAcNAcNNNAcPA",
   "cPHAcBAcBHAcMAcYAcRAcRRAcLAcLLAcLLLAcVAcSHAcSSAcSAcHAcTTTAb)@BAR VIRAMAcCIRCULAR VIRAMA",
   "cAVAGRAHAbVOWEL )AAdIdIIdUdUUdVOCALIC ReRR",
   "D46dEdEEdAI",
   "D4AdOdOOdAUb)VIRAMAb!vREPHb)PARA",
   "D54b!CHILLU MdYdLLLbAU LENGTH pbFRACTION ONE ONE-HUNDRED-AND-SIXTIETHdFORTIETHc]EIGHTIETHS",
   "cONE TWENTIETHdTENTHc]TWENTIETHScONE FIFTHb!ARCHAIC IIcVOCALIC RRdLLbVOWEL )VOCALIC LeLL",
   "D66bDIGIT ZEROcONEcwc]cFOURcFIVEcSIXcSEVENcEIGHTcNINEbNUMBER TENcONE rdubFRACTION ONE QUARTER",
   "dHALFc]QUARTERScONE SIXTEENTHdEIGHTHc]SIXTEENTHSbDATE pb!CHILLU NNdNdRRdLdLLdK",
   "D81aSINHALA )CANDRABINDUcANUSVARAYAcVISARGAYA",
   "D85b!AYANNAcAAYANNAcAEYANNAcAEEYANNAcIYANNAcIIYANNAcUYANNAcUUYANNAcIRUYANNAcIRUUYANNAcILUYANNA",
   "cILUUYANNAcEYANNAcEEYANNAcAIYANNAcOYANNAcOOYANNAcAUYANNA",
   "D9AcALPAPRAANA KAYANNAcMAHAAPRAANA KAYANNAcALPAPRAANA GAYANNAcMAHAAPRAANA GAYANNA",
   "cKANTAJA NAASIKYAYAcSANYAKA GAYANNAcALPAPRAANA CAYANNAcMAHAAPRAANA CAYANNAcALPAPRAANA JAYANNA",
   "cMAHAAPRAANA JAYANNAcTAALUJA NAASIKYAYAdSANYOOGA NAAKSIKYAYAcSANYAKA JAYANNA",
   "cALPAPRAANA TTAYANNAcMAHAAPRAANA TTAYANNAcALPAPRAANA DDAYANNAcMAHAAPRAANA DDAYANNA",
   "cMUURDHAJA NAYANNAcSANYAKA DDAYANNAcALPAPRAANA TAYANNAcMAHAAPRAANA TAYANNAcALPAPRAANA DAYANNA",
   "cMAHAAPRAANA DAYANNAcDANTAJA NAYANNA",
   "DB3cSANYAKA DAYANNAcALPAPRAANA PAYANNAcMAHAAPRAANA PAYANNAcALPAPRAANA BAYANNA",
   "cMAHAAPRAANA BAYANNAcMAYANNAcAMBA BAYANNAcYAYANNAcRAYANNA",
   "DBDcDANTAJA LAYANNA",
   "DC0cVAYANNAcTAALUJA SAYANNAcMUURDHAJA SAYANNAcDANTAJA SAYANNAcHAYANNAcMUURDHAJA LAYANNA",
   "cFAYANNA",
   "DCAb)AL-LAKUNA",
   "DCFbVOWEL )AELA-PILLAdKETTI AEDA-PILLAdDIGA AEDA-PILLAdKETTI IS-PILLAdDIGA IS-PILLA",
   "dKETTI PAA-PILLA",
   "DD6dDIGA PAA-PILLA",
   "DD8dGAETTA-PILLAdKOMBUVAdDIGA KOMBUVAdKOMBU DEKAdKOMBUVA HAA AELA-PILLAfDIGA AELA-PILLA",
   "fGAYANUKITTAdGAYANUKITTA",
   "DE6bLITH DIGIT ZEROdONEdwd]dFOURdFIVEdSIXdSEVENdEIGHTdNINE",
   "DF2bVOWEL )DIGA GAETTA-PILLAeGAYANUKITTAbPUNCTUATION KUNDDALIYA",
   "E01aTHAI CHARACTER KO KAIcKHO KHAIdKHUATdKHWAIdKHONdRAKHANGcNGO NGUcCHO CHANdCHINGdCHANGcSO SO",
   "cCHO CHOEcYO YINGcDO CHADAcTO PATAKcTHO THANdNANGMONTHOdPHUTHAOcNO NENcDO DEKcTO TAOcTHO THUNG",
   "dTHAHANdTHONGcNO NUcBO BAIMAIcPO PLAcPHO PHUNGcFO FAcPHO PHANcFO FANcPHO SAMPHAOcMO MAcYO YAK",
   "cRO RUAcRUcLO LINGcLUcWO WAENcSO SALAdRUSIdSUAcHO HIPcLO CHULAcO ANGcHO NOKHUKcPAIYANNOI",
   "cSARA AcMAI HAN-AKATcSARA AAdAMdIdIIdUEdUEEdUdUUcPHINTHU",
   "E3FbCURRENCY mBAHTbCHARACTER SARA EdAEdOdAI MAIMUANeMAIMALAIcLAKKHANGYAOcMAIYAMOKcMAITAIKHU",
   "cMAI EKdTHOdTRIdCHATTAWAcTHANTHAKHATcNIKHAHITcYAMAKKANcFONGMANbDIGIT ZEROcONEcwc]cFOURcFIVE",
   "cSIXcSEVENcEIGHTcNINEbCHARACTER ANGKHANKHUcKHOMUT",
   "E81aLAO !KOcKHO SUNG",
   "E84dTAM",
   "E86cPALI GHAcNGOcCOcPALI CHAcSO TAM",
   "E8CcPALI JHAcNYOcPALI NYAdTTAdTTHAdDDAdDDHAdNNAcDOcTOcTHO SUNGdTAMcPALI DHAcNOcBOcPOcPHO SUNG",
   "cFO TAMcPHO TAMcFO SUNGcPALI BHAcMOcYOcLO LING",
   "EA5dLOOT",
   "EA7cWOcSANSKRIT SHAdSSAcSO SUNGcHO SUNGcPALI LLAcOcHO TAMbELLIPSISbVOWEL )AdMAI KANdAAdAMdIdII",
   "dYdYYdUdUUb)PALI VIRAMAbVOWEL )MAI KONbSEMIVOWEL )LOdNYO",
   "EC0bVOWEL )EdEIdOdAYdAI",
   "EC6bKO LA",
   "EC8bTONE MAI EKdTHOdTIdCATAWAbCANCELLATION pbNIGGAHITA",
   "ED0bDIGIT ZEROcONEcwc]cFOURcFIVEcSIXcSEVENcEIGHTcNINE",
   "EDCbHO NOcMOb!KHMU GOdNYO",
   "F00aTIBETAN SYLLABLE OMbpGTER YIG MGO TRUNCATED Af-UM RNAM BCAD MAgGTER TSHEG MA",
   "c>YIG MGO MDUN MAcCLOSING YIG MGO SGAB MAcCARET YIG MGO PHUR SHAD MAcYIG MGO TSHEG SHAD MA",
   "cSBRUL SHADcBSKUR YIG MGOcBKA- SHOG YIG MGOcINTERSYLLABIC TSHEGcDELIMITER TSHEG BSTARcSHAD",
   "cNYIS SHADcTSHEG SHADcNYIS TSHEG SHADcRIN CHEN SPUNGS SHADcRGYA GRAM SHAD",
   "cCARET -DZUD RTAGS ME LONG CANcGTER TSHEGbLOGOTYPE )CHAD RTAGSdLHAG RTAGS",
   "bASTROLOGICAL )SGRA GCAN -CHAR RTAGSd-KHYUD PAdSDONG TSHUGSb)RDEL DKAR GCIGeGNYISeGSUM",
   "dNAG GCIGeGNYISdDKAR RDEL NAGbDIGIT ZEROcONEcwc]cFOURcFIVEcSIXcSEVENcEIGHTcNINEcHALF ONEdwd]",
   "dFOURdFIVEdSIXdSEVENdEIGHTdNINEdZERObpBSDUS RTAGScNGAS BZUNG NYI ZLA",
   "cCARET -DZUD RTAGS BZHI MIG CANcNGAS BZUNG SGOR RTAGScCHE MGOcTSA -PHRUcGUG RTAGS GYONeGYAS",
   "cANG KHANG GYONeGYASb)YAR TSHEScMAR TSHESb!KAcKHAcGAcGHAcNGAcCAcCHAcJA",
   "F49cNYAcTTAcTTHAcDDAcDDHAcNNAcTAcTHAcDAcDHAcNAcPAcPHAcBAcBHAcMAcTSAcTSHAcDZAcDZHAcWAcZHAcZAc-A",
   "cYAcRAcLAcSHAcSSAcSAcHAcAcKSSAcFIXED-FORM RAcKKAcRRA",
   "F71bVOWEL )AAdIdIIdUdUUdVOCALIC ReRReLeLLdEdEEdOdOOb)RJES SU NGA ROcRNAM BCAD",
   "bVOWEL )REVERSED IeIIb)NYI ZLA NAA DAcSNA LDANbpHALANTAcPALUTAb)LCI RTAGScYANG RTAGS",
   "cLCE TSA CANcMCHU CANcGRU CAN RGYINGSdMED RGYINGScINVERTED MCHU CANbSUBJOINED )LCE TSA CAN",
   "dMCHU CANdINVERTED MCHU CANc!KAdKHAdGAdGHAdNGAdCAdCHAdJA",
   "F99dNYAdTTAdTTHAdDDAdDDHAdNNAdTAdTHAdDAdDHAdNAdPAdPHAdBAdBHAdMAdTSAdTSHAdDZAdDZHAdWAdZHAdZAd-A",
   "dYAdRAdLAdSHAdSSAdSAdHAdAdKSSAdFIXED-FORM WAeYAeRA",
   "FBEbKU RU KHAeBZHI MIG CANbCANTILLATION )sBEATdLIGHT BEATdCANG TE-UdSBUB -CHALbmDRIL BU",
   "cRDO RJEcPADMA GDANcRDO RJE RGYA GRAMcPHUR PAcNOR BUeNYIS -KHYILeGSUM -KHYILeBZHI -KHYIL",
   "FCEb)RDEL NAG RDEL DKAReGSUMbpBSKA- SHOG GI MGO RGYANcMNYAM YIG GI MGO RGYANcNYIS TSHEG",
   "c>BRDA RNYING YIG MGO MDUN MAcCLOSING BRDA RNYING YIG MGO SGAB MAaRIGHT-FACING SVASTI )",
   "aLEFT-FACING SVASTI )aRIGHT-FACING SVASTI )#DOTSaLEFT-FACING SVASTI )#DOTS",
   "aTIBETAN pLEADING MCHAN RTAGScTRAILING MCHAN RTAGS",
   "1000aMYANMAR !KAcKHAcGAcGHAcNGAcCAcCHAcJAcJHAcNYAcNNYAcTTAcTTHAcDDAcDDHAcNNAcTAcTHAcDAcDHAcNA",
   "cPAcPHAcBAcBHAcMAcYAcRAcLAcWAcSAcHAcLLAcAcSHAN AcIcIIcUcUUcEcMON EcOcAUbVOWEL )TALL AAdAAdIdII",
   "dUdUUdEdAIdMON IIeOdE ,b)ANUSVARAcv[cVISARGAcVIRAMAcASATbCONSONANT )MEDIAL YAeRAeWAeHA",
   "b!GREAT SAbDIGIT ZEROcONEcwc]cFOURcFIVEcSIXcSEVENcEIGHTcNINEb)LITTLE SECTIONcSECTIONbmLOCATIVE",
   "cCOMPLETEDcAFOREMENTIONEDcGENITIVEb!SHAcSSAcVOCALIC RdRRdLdLLbVOWEL )VOCALIC ReRReLeLL",
   "b!MON NGAdJHAdBBAdBBEbCONSONANT )MON MEDIAL NAfMAfLAb!SGAW KAREN SHAbVOWEL )SGAW KAREN EU",
   "bTONE pSGAW KAREN HATHIfKE PHOb!WESTERN PWO KAREN THAfPWAbVOWEL )WESTERN PWO KAREN EUgUE",
   "b)WESTERN PWO KAREN TONE-1fTONE-2fTONE-3fTONE-4fTONE-5b!EASTERN PWO KAREN NNAfYWAfGHWA",
   "bVOWEL )GEBA KAREN IdKAYAH OEeUeEEb!SHAN KAdKHAdGAdCAdZAdNYAdDAdNAdPHAdFAdBAdTHAdHA",
   "bCONSONANT )SHAN MEDIAL WAbVOWEL )SHAN AAeEf,e=Yb)SHAN TONE-2dTONE-3dTONE-5dTONE-6",
   "dCOUNCIL TONE-2eTONE-3eEMPHATIC TONEb!RUMAI PALAUNG FAb)RUMAI PALAUNG TONE-5bSHAN DIGIT ZERO",
   "dONEdwd]dFOURdFIVEdSIXdSEVENdEIGHTdNINEb)KHAMTI TONE-1dTONE-3bVOWEL )AITON AeAIbmSHAN ONE",
   "dEXCLAMATIONaGEORGIAN $!ANdBANdGANdDONdENdVINdZENdTANdINdKANdLASdMANdNARdONdPARdZHARdRAEdSAN",
   "dTARdUNdPHARdKHARdGHANdQARdSHINdCHINdCANdJILdCILdCHARdXANdJHANdHAEdHEdHIEdWEdHARdHOE",
   "10C7dYN",
   "10CDdAEN",
   "10D0b!ANcBANcGANcDONcENcVINcZENcTANcINcKANcLAScMANcNARcONcPARcZHARcRAEcSANcTARcUNcPHARcKHAR",
   "cGHANcQARcSHINcCHINcCANcJILcCILcCHARcXANcJHANcHAEcHEcHIEcWEcHARcHOEcFIcYNcELIFIcTURNED GANcAIN",
   "bPARAGRAPH SEPARATORaMODIFIER !GEORGIAN NARaGEORGIAN !AENcHARD )cLABIAL )",
   "aHANGUL CHOSEONG KIYEOKcSSANGKIYEOKcNIEUNcTIKEUTcSSANGTIKEUTcRIEULcMIEUMcPIEUPcSSANGPIEUPcSIOS",
   "cSSANGSIOScIEUNGcCIEUCcSSANGCIEUCcCHIEUCHcKHIEUKHcTHIEUTHcPHIEUPHcHIEUHcNIEUN-KIYEOK",
   "cSSANGNIEUNcNIEUN-TIKEUTcNIEUN-PIEUPcTIKEUT-KIYEOKcRIEUL-NIEUNcSSANGRIEULcRIEUL-HIEUH",
   "cKAPYEOUNRIEULcMIEUM-PIEUPcKAPYEOUNMIEUMcPIEUP-KIYEOKcPIEUP-NIEUNcPIEUP-TIKEUTcPIEUP-SIOS",
   "cPIEUP-SIOS-KIYEOKcPIEUP-SIOS-TIKEUTcPIEUP-SIOS-PIEUPcPIEUP-SSANGSIOScPIEUP-SIOS-CIEUC",
   "cPIEUP-CIEUCcPIEUP-CHIEUCHcPIEUP-THIEUTHcPIEUP-PHIEUPHcKAPYEOUNPIEUPcKAPYEOUNSSANGPIEUP",
   "cSIOS-KIYEOKcSIOS-NIEUNcSIOS-TIKEUTcSIOS-RIEULcSIOS-MIEUMcSIOS-PIEUPcSIOS-PIEUP-KIYEOK",
   "cSIOS-SSANGSIOScSIOS-IEUNGcSIOS-CIEUCcSIOS-CHIEUCHcSIOS-KHIEUKHcSIOS-THIEUTHcSIOS-PHIEUPH",
   "cSIOS-HIEUHcCHITUEUMSIOScCHITUEUMSSANGSIOScCEONGCHIEUMSIOScCEONGCHIEUMSSANGSIOScPANSIOS",
   "cIEUNG-KIYEOKcIEUNG-TIKEUTcIEUNG-MIEUMcIEUNG-PIEUPcIEUNG-SIOScIEUNG-PANSIOScSSANGIEUNG",
   "cIEUNG-CIEUCcIEUNG-CHIEUCHcIEUNG-THIEUTHcIEUNG-PHIEUPHcYESIEUNGcCIEUC-IEUNGcCHITUEUMCIEUC",
   "cCHITUEUMSSANGCIEUCcCEONGCHIEUMCIEUCcCEONGCHIEUMSSANGCIEUCcCHIEUCH-KHIEUKHcCHIEUCH-HIEUH",
   "cCHITUEUMCHIEUCHcCEONGCHIEUMCHIEUCHcPHIEUPH-PIEUPcKAPYEOUNPHIEUPHcSSANGHIEUHcYEORINHIEUH",
   "cKIYEOK-TIKEUTcNIEUN-SIOScNIEUN-CIEUCcNIEUN-HIEUHcTIKEUT-RIEULcFILLERbJUNGSEONG FILLERcAcAEcYA",
   "cYAEcEOcEcYEOcYEcOcWAcWAEcOEcYOcUcWEOcWEcWIcYUcEUcYIcIcA-OcA-UcYA-OcYA-YOcEO-OcEO-UcEO-EU",
   "cYEO-OcYEO-UcO-EOcO-EcO-YEcO-OcO-UcYO-YAcYO-YAEcYO-YEOcYO-OcYO-IcU-AcU-AEcU-EO-EUcU-YEcU-U",
   "cYU-AcYU-EOcYU-EcYU-YEOcYU-YEcYU-UcYU-IcEU-UcEU-EUcYI-UcI-AcI-YAcI-OcI-UcI-EUcI-ARAEAcARAEA",
   "cARAEA-EOcARAEA-UcARAEA-IcSSANGARAEAcA-EUcYA-UcYEO-YAcO-YAcO-YAEbJONGSEONG KIYEOKcSSANGKIYEOK",
   "cKIYEOK-SIOScNIEUNcNIEUN-CIEUCcNIEUN-HIEUHcTIKEUTcRIEULcRIEUL-KIYEOKcRIEUL-MIEUMcRIEUL-PIEUP",
   "cRIEUL-SIOScRIEUL-THIEUTHcRIEUL-PHIEUPHcRIEUL-HIEUHcMIEUMcPIEUPcPIEUP-SIOScSIOScSSANGSIOS",
   "cIEUNGcCIEUCcCHIEUCHcKHIEUKHcTHIEUTHcPHIEUPHcHIEUHcKIYEOK-RIEULcKIYEOK-SIOS-KIYEOK",
   "cNIEUN-KIYEOKcNIEUN-TIKEUTcNIEUN-SIOScNIEUN-PANSIOScNIEUN-THIEUTHcTIKEUT-KIYEOKcTIKEUT-RIEUL",
   "cRIEUL-KIYEOK-SIOScRIEUL-NIEUNcRIEUL-TIKEUTcRIEUL-TIKEUT-HIEUHcSSANGRIEULcRIEUL-MIEUM-KIYEOK",
   "cRIEUL-MIEUM-SIOScRIEUL-PIEUP-SIOScRIEUL-PIEUP-HIEUHcRIEUL-KAPYEOUNPIEUPcRIEUL-SSANGSIOS",
   "cRIEUL-PANSIOScRIEUL-KHIEUKHcRIEUL-YEORINHIEUHcMIEUM-KIYEOKcMIEUM-RIEULcMIEUM-PIEUPcMIEUM-SIOS",
   "cMIEUM-SSANGSIOScMIEUM-PANSIOScMIEUM-CHIEUCHcMIEUM-HIEUHcKAPYEOUNMIEUMcPIEUP-RIEUL",
   "cPIEUP-PHIEUPHcPIEUP-HIEUHcKAPYEOUNPIEUPcSIOS-KIYEOKcSIOS-TIKEUTcSIOS-RIEULcSIOS-PIEUPcPANSIOS",
   "cIEUNG-KIYEOKcIEUNG-SSANGKIYEOKcSSANGIEUNGcIEUNG-KHIEUKHcYESIEUNGcYESIEUNG-SIOS",
   "cYESIEUNG-PANSIOScPHIEUPH-PIEUPcKAPYEOUNPHIEUPHcHIEUH-NIEUNcHIEUH-RIEULcHIEUH-MIEUM",
   "cHIEUH-PIEUPcYEORINHIEUHcKIYEOK-NIEUNcKIYEOK-PIEUPcKIYEOK-CHIEUCHcKIYEOK-KHIEUKHcKIYEOK-HIEUH",
   "cSSANGNIEUNaETHIOPIC SYLLABLE HAcHUcHIcHAAcHEEcHEcHOcHOAcLAcLUcLIcLAAcLEEcLEcLOcLWAcHHAcHHU",
   "cHHIcHHAAcHHEEcHHEcHHOcHHWAcMAcMUcMIcMAAcMEEcMEcMOcMWAcSZAcSZUcSZIcSZAAcSZEEcSZEcSZOcSZWAcRA",
   "cRUcRIcRAAcREEcREcROcRWAcSAcSUcSIcSAAcSEEcSEcSOcSWAcSHAcSHUcSHIcSHAAcSHEEcSHEcSHOcSHWAcQAcQU",
   "cQIcQAAcQEEcQEcQOcQOAcQWA",
   "124AcQWIcQWAAcQWEEcQWE",
   "1250cQHAcQHUcQHIcQHAAcQHEEcQHEcQHO",
   "1258cQHWA",
   "125AcQHWIcQHWAAcQHWEEcQHWE",
   "1260cBAcBUcBIcBAAcBEEcBEcBOcBWAcVAcVUcVIcVAAcVEEcVEcVOcVWAcTAcTUcTIcTAAcTEEcTEcTOcTWAcCAcCUcCI",
   "cCAAcCEEcCEcCOcCWAcXAcXUcXIcXAAcXEEcXEcXOcXOAcXWA",
   "128AcXWIcXWAAcXWEEcXWE",
   "1290cNAcNUcNIcNAAcNEEcNEcNOcNWAcNYAcNYUcNYIcNYAAcNYEEcNYEcNYOcNYWAcGLOTTAL AdUdIdAAdEEdEdOdWA",
   "cKAcKUcKIcKAAcKEEcKEcKOcKOAcKWA",
   "12B2cKWIcKWAAcKWEEcKWE",
   "12B8cKXAcKXUcKXIcKXAAcKXEEcKXEcKXO",
   "12C0cKXWA",
   "12C2cKXWIcKXWAAcKXWEEcKXWE",
   "12C8cWAcWUcWIcWAAcWEEcWEcWOcWOAcPHARYNGEAL AdUdIdAAdEEdEdO",
   "12D8cZAcZUcZIcZAAcZEEcZEcZOcZWAcZHAcZHUcZHIcZHAAcZHEEcZHEcZHOcZHWAcYAcYUcYIcYAAcYEEcYEcYOcYOA",
   "cDAcDUcDIcDAAcDEEcDEcDOcDWAcDDAcDDUcDDIcDDAAcDDEEcDDEcDDOcDDWAcJAcJUcJIcJAAcJEEcJEcJOcJWAcGA",
   "cGUcGIcGAAcGEEcGEcGOcGOAcGWA",
   "1312cGWIcGWAAcGWEEcGWE",
   "1318cGGAcGGUcGGIcGGAAcGGEEcGGEcGGOcGGWAAcTHAcTHUcTHIcTHAAcTHEEcTHEcTHOcTHWAcCHAcCHUcCHIcCHAA",
   "cCHEEcCHEcCHOcCHWAcPHAcPHUcPHIcPHAAcPHEEcPHEcPHOcPHWAcTSAcTSUcTSIcTSAAcTSEEcTSEcTSOcTSWAcTZA",
   "cTZUcTZIcTZAAcTZEEcTZEcTZOcTZOAcFAcFUcFIcFAAcFEEcFEcFOcFWAcPAcPUcPIcPAAcPEEcPEcPOcPWAcRYAcMYA",
   "cFYA",
   "135DbCOMBINING GEMINATION ;VOWEL LENGTH pcVOWEL LENGTH pcGEMINATION pbSECTION pbWORDSPACE",
   "bFULL STOPbCOMMAbSEMICOLONbCOLONbPREFACE COLONbQUESTION pbPARAGRAPH SEPARATORbDIGIT ONEcwc]",
   "cFOURcFIVEcSIXcSEVENcEIGHTcNINEbNUMBER TENcTWENTYcTHIRTYcFORTYcFIFTYcSIXTYcSEVENTYcEIGHTY",
   "cNINETYcrcTEN u",
   "1380bSYLLABLE SEBATBEIT MWAcMWIcMWEEcMWEcSEBATBEIT BWAcBWIcBWEEcBWEcSEBATBEIT FWAcFWIcFWEEcFWE",
   "cSEBATBEIT PWAcPWIcPWEEcPWEbTONAL pYIZETdDERETdRIKRIKdSHORT RIKRIKdDIFATdKENATdCHIRETdHIDET",
   "dDERET-HIDETdKURT",
   "13A0aCHEROKEE !AcEcIcOcUcVcGAcKAcGEcGIcGOcGUcGVcHAcHEcHIcHOcHUcHVcLAcLEcLIcLOcLUcLVcMAcMEcMI",
   "cMOcMUcNAcHNAcNAHcNEcNIcNOcNUcNVcQUAcQUEcQUIcQUOcQUUcQUVcSAcScSEcSIcSOcSUcSVcDAcTAcDEcTEcDIcTI",
   "cDOcDUcDVcDLAcTLAcTLEcTLIcTLOcTLUcTLVcTSAcTSEcTSIcTSOcTSUcTSVcWAcWEcWIcWOcWUcWVcYAcYEcYIcYOcYU",
   "cYVcMV",
   "13F8b%!YEdYIdYOdYUdYVdMV",
   "1400aCANADIAN SYLLABICS HYPHENcEcAAIcIcIIcOcOOcY-CREE OOcCARRIER EEdIcAcAAcWEcyWEcWIcyWIcWII",
   "cyWIIcWOcyWOcWOOcyWOOcNASKAPI WOOcWAcyWAcWAAcyWAAcNASKAPI WAAcAIcY-CREE WcGLOTTAL STOPc=ACUTE",
   "dGRAVEdBOTTOM HALF RINGdTOP HALF RINGd*HALF RINGdRINGd:ACUTEeSHORT @STROKESdovdSHORT n~dPLUS",
   "dDOWN TACKcENcINcONcANcPEcPAAIcPIcPIIcPOcPOOcY-CREE POOcCARRIER HEEdHIcPAcPAAcPWEcyPWEcPWI",
   "cyPWIcPWIIcyPWIIcPWOcyPWOcPWOOcyPWOOcPWAcyPWAcPWAAcyPWAAcY-CREE PWAAcPcyPcCARRIER HcTEcTAAIcTI",
   "cTIIcTOcTOOcY-CREE TOOcCARRIER DEEdDIcTAcTAAcTWEcyTWEcTWIcyTWIcTWIIcyTWIIcwcywcTWOOcyTWOOcTWA",
   "cyTWAcTWAAcyTWAAcNASKAPI TWAAcTcTTEcTTIcTTOcTTAcKEcKAAIcKIcKIIcKOcKOOcY-CREE KOOcKAcKAAcKWE",
   "cyKWEcKWIcyKWIcKWIIcyKWIIcKWOcyKWOcKWOOcyKWOOcKWAcyKWAcKWAAcyKWAAcNASKAPI KWAAcKcKW",
   "cSOUTH-SLAVEY KEHdKIHdKOHdKAHcCEcCAAIcCIcCIIcCOcCOOcY-CREE COOcCAcCAAcCWEcyCWEcCWIcyCWIcCWII",
   "cyCWIIcCWOcyCWOcCWOOcyCWOOcCWAcyCWAcCWAAcyCWAAcNASKAPI CWAAcCcSAYISI THcMEcMAAIcMIcMIIcMOcMOO",
   "cY-CREE MOOcMAcMAAcMWEcyMWEcMWIcyMWIcMWIIcyMWIIcMWOcyMWOcMWOOcyMWOOcMWAcyMWAcMWAAcyMWAA",
   "cNASKAPI MWAAcMcyMcMHcATHAPASCAN McSAYISI McNEcNAAIcNIcNIIcNOcNOOcY-CREE NOOcNAcNAAcNWEcyNWE",
   "cNWAcyNWAcNWAAcyNWAAcNASKAPI NWAAcNcCARRIER NGcNHcLEcLAAIcLIcLIIcLOcLOOcY-CREE LOOcLAcLAAcLWE",
   "cyLWEcLWIcyLWIcLWIIcyLWIIcLWOcyLWOcLWOOcyLWOOcLWAcyLWAcLWAAcyLWAAcLcyLcMEDIAL LcSEcSAAIcSIcSII",
   "cSOcSOOcY-CREE SOOcSAcSAAcSWEcySWEcSWIcySWIcSWIIcySWIIcSWOcySWOcSWOOcySWOOcSWAcySWAcSWAAcySWAA",
   "cNASKAPI SWAAcScATHAPASCAN ScSWcBLACKFOOT ScMOOSE-CREE SKcNASKAPI SKWdS-WdSPWAdSTWAdSKWAdSCWA",
   "cSHEcSHIcSHIIcSHOcSHOOcSHAcSHAAcSHWEcySHWEcSHWIcySHWIcSHWIIcySHWIIcSHWOcySHWOcSHWOOcySHWOO",
   "cSHWAcySHWAcSHWAAcySHWAAcSHcYEcYAAIcYIcYIIcYOcYOOcY-CREE YOOcYAcYAAcYWEcyYWEcYWIcyYWIcYWII",
   "cyYWIIcYWOcyYWOcYWOOcyYWOOcYWAcyYWAcYWAAcyYWAAcNASKAPI YWAAcYcBIBLE-CREE YcyYcSAYISI YIcRE",
   "cR-CREE REcyLEcRAAIcRIcRIIcROcROOcyLOcRAcRAAcyLAcRWAAcyRWAAcRcyRcMEDIAL RcFEcFAAIcFIcFIIcFO",
   "cFOOcFAcFAAcFWAAcyFWAAcFcTHEcN-CREE THEcTHIcN-CREE THIcTHIIcN-CREE THIIcTHOcTHOOcTHAcTHAA",
   "cTHWAAcyTHWAAcTHcTTHEcTTHIcTTHOcTTHAcTTHcTYEcTYIcTYOcTYAcNUNAVIK HEdHIdHIIdHOdHOOdHAdHAAdH",
   "cNUNAVUT HcHKcQAAIcQIcQIIcQOcQOOcQAcQAAcQcTLHEcTLHIcTLHOcTLHAcyREdRIdROdRAcNGAAIcNGIcNGIIcNGO",
   "cNGOOcNGAcNGAAcNGcNNGcSAYISI SHEdSHIdSHOdSHAcWOODS-CREE THEdTHIdTHOdTHAdTHcLHIcLHIIcLHOcLHOO",
   "cLHAcLHAAcLHcTH-CREE THEdTHIdTHIIdTHOdTHOOdTHAdTHAAdTHcAIVILIK BcBLACKFOOT EdIdOdAdWEdWIdWOdWA",
   "dNEdNIdNOdNAdKEdKIdKOdKAcSAYISI HEdHIdHOdHAcCARRIER GHUdGHOdGHEdGHEEdGHIdGHAdRUdROdREdREEdRI",
   "dRAdWUdWOdWEdWEEdWIdWAdHWUdHWOdHWEdHWEEdHWIdHWAdTHUdTHOdTHEdTHEEdTHIdTHAdTTUdTTOdTTEdTTEEdTTI",
   "dTTAdPUdPOdPEdPEEdPIdPAdPdGUdGOdGEdGEEdGIdGAdKHUdKHOdKHEdKHEEdKHIdKHAdKKUdKKOdKKEdKKEEdKKIdKKA",
   "dKKdNUdNOdNEdNEEdNIdNAdMUdMOdMEdMEEdMIdMAdYUdYOdYEdYEEdYIdYAdJUcSAYISI JUcCARRIER JOdJEdJEEdJI",
   "cSAYISI JIcCARRIER JAdJJUdJJOdJJEdJJEEdJJIdJJAdLUdLOdLEdLEEdLIdLAdDLUdDLOdDLEdDLEEdDLIdDLAdLHU",
   "dLHOdLHEdLHEEdLHIdLHAdTLHUdTLHOdTLHEdTLHEEdTLHIdTLHAdTLUdTLOdTLEdTLEEdTLIdTLAdZUdZOdZEdZEEdZI",
   "dZAdZd>ZdDZUdDZOdDZEdDZEEdDZIdDZAdSUdSOdSEdSEEdSIdSAdSHUdSHOdSHEdSHEEdSHIdSHAdSHdTSUdTSOdTSE",
   "dTSEEdTSIdTSAdCHUdCHOdCHEdCHEEdCHIdCHAdTTSUdTTSOdTTSEdTTSEEdTTSIdTTSAcCHI )cFULL STOPcQAIcNGAI",
   "cNNGIcNNGIIcNNGOcNNGOOcNNGAcNNGAAcWOODS-CREE THWEEdTHWIdTHWIIdTHWOdTHWOOdTHWAdTHWAAd=TH",
   "cBLACKFOOT WaOGHAM SPACE pb!BEITHcLUIScFEARNcSAILcNIONcUATHcDAIRcTINNEcCOLLcCEIRTcMUINcGORT",
   "cNGEADALcSTRAIFcRUIScAILMcONNcURcEADHADHcIODHADHcEABHADHcORcUILLEANNcIFINcEAMHANCHOLLcPEITH",
   "bFEATHER pbREVERSED FEATHER p",
   "16A0aRUNIC !FEHU FEOH FE FcVcURUZ UR UcYRcYcWcTHURISAZ THURS THORNcETHcANSUZ AcOS OcAC AcAESC",
   "cLONG-BRANCH-OSS OcSHORT-TWIG-OSS OcOcOEcONcRAIDO RAD REID RcKAUNAcCENcKAUN KcGcENG",
   "cGEBO GYFU GcGARcWUNJO WYNN WcHAGLAZ HcHAEGL HcLONG-BRANCH-HAGALL HcSHORT-TWIG-HAGALL H",
   "cNAUDIZ NYD NAUD NcSHORT-TWIG-NAUD NcDOTTED-NcISAZ IS ISS IcEcJERAN JcGERcLONG-BRANCH-AR AE",
   "cSHORT-TWIG-AR AcIWAZ EOHcPERTHO PEORTH PcALGIZ EOLHXcSOWILO ScSIGEL LONG-BRANCH-SOL S",
   "cSHORT-TWIG-SOL ScCcZcTIWAZ TIR TYR TcSHORT-TWIG-TYR TcDcBERKANAN BEORC BJARKAN B",
   "cSHORT-TWIG-BJARKAN BcDOTTED-PcOPEN-PcEHWAZ EH EcMANNAZ MAN McLONG-BRANCH-MADR M",
   "cSHORT-TWIG-MADR McLAUKAZ LAGU LOGR LcDOTTED-LcINGWAZcINGcDAGAZ DAEG DcOTHALAN ETHEL OcEARcIOR",
   "cCWEORTHcCALCcCEALCcSTANcLONG-BRANCH-YRcSHORT-TWIG-YRcICELANDIC-YRcQcXbSINGLE PUNCTUATION",
   "bMULTIPLE PUNCTUATIONbCROSS PUNCTUATIONbARLAUG mbTVIMADUR mbBELGTHOR mb!KcSHcOO",
   "cFRANKS CASKET OSeISeEHeACeAESC",
   "1700aTAGALOG !AcIcUcKAcGAcNGAcTAcDAcNAcPAcBAcMAcYAcRAcLAcWAcSAcHAbVOWEL )IdUb)VIRAMAcPAMUDPOD",
   "171Fb!ARCHAIC RAaHANUNOO !AcIcUcKAcGAcNGAcTAcDAcNAcPAcBAcMAcYAcRAcLAcWAcSAcHAbVOWEL )IdU",
   "b)PAMUDPODaPHILIPPINE SINGLE PUNCTUATIONb:PUNCTUATION",
   "1740aBUHID !AcIcUcKAcGAcNGAcTAcDAcNAcPAcBAcMAcYAcRAcLAcWAcSAcHAbVOWEL )IdU",
   "1760aTAGBANWA !AcIcUcKAcGAcNGAcTAcDAcNAcPAcBAcMAcYA",
   "176EcLAcWAcSA",
   "1772bVOWEL )IdU",
   "1780aKHMER !KAcKHAcKOcKHOcNGOcCAcCHAcCOcCHOcNYOcDAcTTHAcDOcTTHOcNNOcTAcTHAcTOcTHOcNOcBAcPHAcPO",
   "cPHOcMOcYOcROcLOcVOcSHAcSSOcSAcHAcLAcQAbINDEPENDENT VOWEL QAQdQAAdQIdQIIdQUdQUKdQUUdQUUVdRY",
   "dRYYdLYdLYYdQEdQAIdQOO TYPE ONEfwdQAUbVOWEL INHERENT AQdAAc)AAdIdIIdYdYYdUdUUdUAdOEdYAdIEdEdAE",
   "dAIdOOdAUb)NIKAHITcREAHMUKcYUUKALEAPINTUcMUUSIKATOANcTRIISAPcBANTOCcROBATcTOANDAKHIATcKAKABAT",
   "cAHSDAcSAMYOK SANNYAcVIRIAMcCOENGcBATHAMASATcKHANcBARIYOOSANcCAMNUC PII KUUHcLEK TOOcBEYYAL",
   "cPHNAEK MUANcKOOMUUTbCURRENCY mRIELb)AVAKRAHASANYAcATTHACAN",
   "17E0bDIGIT ZEROcONEcwc]cFOURcFIVEcSIXcSEVENcEIGHTcNINE",
   "17F0bmLEK ATTAK SONeMUOYePIIeBEIeBUONePRAMePRAM-MUOYePRAM-PIIePRAM-BEIePRAM-BUON",
   "1800aMONGOLIAN BIRGAbELLIPSISbCOMMAbFULL STOPbCOLONbFOUR DOTSbTODO SOFT HYPHEN",
   "bSIBE SYLLABLE BOUNDARY MARKERbMANCHU COMMAcFULL STOPbNIRUGUbFREE VARIATION SELECTOR ONEewe]",
   "bVOWEL SEPARATORbFREE VARIATION SELECTOR FOURbDIGIT ZEROcONEcwc]cFOURcFIVEcSIXcSEVENcEIGHT",
   "cNINE",
   "1820b!AcEcIcOcUcOEcUEcEEcNAcANGcBAcPAcQAcGAcMAcLAcSAcSHAcTAcDAcCHAcJAcYAcRAcWAcFAcKAcKHAcTSA",
   "cZAcHAAcZRAcLHAcZHIcCHIcTODO LONG VOWEL )dEdIdOdUdOEdUEdANGdBAdPAdQAdGAdMAdTAdDAdCHAdJAdTSAdYA",
   "dWAdKAdGAAdHAAdJIAdNIAdDZAcSIBE EdIdIYdUEdUdANGdKAdGAdHAdPAdSHAdTAdDAdJAdFAdGAAdHAAdTSAdZAdRAA",
   "dCHAdZHAcMANCHU IdKAdRAdFAdZHAcCHA #wDOTS",
   "1880cALI GALI ANUSVARA ONEeVISARGA ONEeDAMARUeUBADAMAeINVERTED UBADAMAeBALUDAe]BALUDAeAeIeKA",
   "eNGAeCAeTTAeTTHAeDDAeNNAeTAeDAePAePHAeSSAeZHAeZAeAHcTODO ALI GALI TAfZHAcMANCHU ALI GALI GHA",
   "fNGAfCAfJHAfTTAfDDHAfTAfDHAfSSAfCYAfZHAfZAcALI GALI HALF UfYAcMANCHU ALI GALI BHA",
   "cALI GALI DAGALGAcMANCHU ALI GALI LHA",
   "18B0aCANADIAN SYLLABICS OYcAYcAAYcWAYcPOYcPAYcPWOYcTAYcKAYcKWAYcMAYcNOYcNAYcLAYcSOYcSAYcSHOY",
   "cSHAYcSHWOYcYOYcYAYcRAYcNWIcOJIBWAY NWIcNWIIcOJIBWAY NWIIcNWOcOJIBWAY NWOcNWOOcOJIBWAY NWOO",
   "cRWEEcRWIcRWIIcRWOcRWOOcRWAcOJIBWAY PdTdKdCdMdNdSdSHcEASTERN WcWESTERN Wc=%RINGdRAISED v",
   "cR-CREE RWEcyLOOdLAAcTHWEcTHWAcTTHWEcTTHOOcTTHAAcTLHWEcTLHOOcSAYISI SHWEdSHOOdHOOcCARRIER GWU",
   "dDENE GEEdGAAdGWAcSAYISI JUUcCARRIER JWAcBEAVER DENE LeRcCARRIER DENTAL S",
   "1900aLIMBU VOWEL-CARRIER !b!KAcKHAcGAcGHAcNGAcCAcCHAcJAcJHAcYANcTAcTHAcDAcDHAcNAcPAcPHAcBAcBHA",
   "cMAcYAcRAcLAcWAcSHAcSSAcSAcHAcGYANcTRA",
   "1920bVOWEL )AdIdUdEEdAIdOOdAUdEdObSUBJOINED !YAdRAdWA",
   "1930b%!KAdNGAdANUSVARAdTAdNAdPAdMAdRAdLAb)MUKPHRENGcKEMPHRENGcSA-I",
   "1940cLOO",
   "1944bEXCLAMATION pbQUESTION pbDIGIT ZEROcONEcwc]cFOURcFIVEcSIXcSEVENcEIGHTcNINEaTAI LE !KAdXA",
   "dNGAdTSAdSAdYAdTAdTHAdLAdPAdPHAdMAdFAdVAdHAdQAdKHAdTSHAdNAdAdIdEEdEHdUdOOdOdUEdEdAUEdAI",
   "1970dTONE-2dTONE-3dTONE-4dTONE-5dTONE-6",
   "1980aNEW TAI LUE !HIGH QAeLOW QAeHIGH KAfXAfNGAeLOW KAfXAfNGAeHIGH TSAfSAfYAeLOW TSAfSAfYA",
   "eHIGH TAfTHAfNAeLOW TAfTHAfNAeHIGH PAfPHAfMAeLOW PAfPHAfMAeHIGH FAfVAfLAeLOW FAfVAfLAeHIGH HA",
   "fDAfBAeLOW HAfDAfBAeHIGH KVAfXVAeLOW KVAfXVAeHIGH SUAeLOW SUA",
   "19B0dVOWEL )VOWEL SHORTENERfAAfIIfUfUUfEfAEfOfOAfUEfAYfAAYfUYfOYfOAYfUEYfIYd!=VfNGfNfMfKfDfB",
   "dTONE MARK-1eMARK-2",
   "19D0dDIGIT ZEROeONEewe]eFOUReFIVEeSIXeSEVENeEIGHTeNINEdTHAM DIGIT ONE",
   "19DEd)LAEeLAEVaKHMER mPATHAMASATcMUOY KOETcPII KOETcBEI KOETcBUON KOETcPRAM KOET",
   "cPRAM-MUOY KOETcPRAM-PII KOETcPRAM-BEI KOETcPRAM-BUON KOETcDAP KOETcDAP-MUOY KOETcDAP-PII KOET",
   "cDAP-BEI KOETcDAP-BUON KOETcDAP-PRAM KOETcTUTEYASATcMUOY ROCcPII ROCcBEI ROCcBUON ROCcPRAM ROC",
   "cPRAM-MUOY ROCcPRAM-PII ROCcPRAM-BEI ROCcPRAM-BUON ROCcDAP ROCcDAP-MUOY ROCcDAP-PII ROC",
   "cDAP-BEI ROCcDAP-BUON ROCcDAP-PRAM ROCaBUGINESE !KAcGAcNGAcNGKAcPAcBAcMAcMPAcTAcDAcNAcNRAcCA",
   "cJAcNYAcNYCAcYAcRAcLAcVAcSAcAcHAbVOWEL )IdUdEdOdAE",
   "1A1EbPALLAWAbEND OF SECTIONaTAI THAM !HIGH KAeKHAeKXAdLOW KAeKXAeKHAdNGAdHIGH CAeCHAdLOW CAeSA",
   "eCHAdNYAdRATAdHIGH RATHAdDAdLOW RATHAdRANAdHIGH TAeTHAdLOW TAeTHAdNAdBAdHIGH PAePHAeFAdLOW PA",
   "eFAePHAdMAdLOW YAdHIGH YAdRAdRUEdLAdLUEdWAdHIGH SHAeSSAeSAeHAdLLAdAdLOW HAdIdIIdUdUUdEEdOOdLAE",
   "dGREAT SAcCONSONANT )MEDIAL RAfLAeLA TANG LAIc)MAI KANG LAIcCONSONANT )=NGAeLOW PA",
   "eHIGH RATHA OR LOW PAeMAeBAeSA",
   "1A60c)SAKOTcVOWEL )AeMAI SATeAAeTALL AAeIeIIeUEeUUEeUeUUeOeOA [eOYeEeAEeOOeAIeTHAM AIeOA ,",
   "c)MAI KANGdTONE-1dTONE-2dKHUEN TONE-3eTONE-4eTONE-5dRA HAAMdMAI SAMdKHUEN-LUE KARAN",
   "1A7FcCOMBINING CRYPTOGRAMMIC vcHORA DIGIT ZEROeONEewe]eFOUReFIVEeSIXeSEVENeEIGHTeNINE",
   "1A90cTHAM DIGIT ZEROeONEewe]eFOUReFIVEeSIXeSEVENeEIGHTeNINE",
   "1AA0c)WIANGdWIANGWAAKdSAWANdKEOWdHOYdDOKMAIdREVERSED ROTATED RANAdMAI YAMOKdKAANdKAANKUU",
   "dSATKAANdSATKAANKUUdHANGdCAANG",
   "1AB0aCOMBINING DOUBLED xACCENTbDIAERESIS-RINGbINFINITYbq&bTRIPLE vbX-X [bWIGGLY LINE [bOPEN p[",
   "b:OPEN p[bLIGHT CENTRALIZATION ~[bSTRONG CENTRALIZATION ~[bPARENTHESES ,b:PARENTHESES ,",
   "bPARENTHESES [cOVERLAYbLATIN %!W [eTURNED W [b<PARENTHESIS ,<b*PARENTHESIS ,*b<PARENTHESIS [<",
   "b*PARENTHESIS [*bSQUARE BRACKETS ,bNUMBER ),bINVERTED :ARCH ,bPLUS ),b:PLUS ),e[",
   "bTRIPLE ACUTE ACCENTbLATIN %!INSULAR GfRfT",
   "1B00aBALINESE )ULU RICEMdCANDRAcCECEKcSURANGcBISAHb!AKARAdTEDUNGcIKARAdTEDUNGcUKARAdTEDUNG",
   "cRA REPAeTEDUNGcLA LENGAeTEDUNGcEKARAcAIKARAcOKARAdTEDUNGcKAdMAHAPRANAcGAdGORAcNGAcCAdLACAcJA",
   "dJERAcNYAcTA LATIKdMURDA MAHAPRANAcDA MURDA ALPAPRANAeMAHAPRANAcNA RAMBATcTAdTAWAcDAdMADUcNA",
   "cPAdKAPALcBAdKEMBANGcMAcYAcRAcLAcWAcSA SAGAdSAPAcSAcHAb)REREKANbVOWEL )TEDUNGdULUeSARIdSUKU",
   "eILUTdRA REPAfTEDUNGdLA LENGAfTEDUNGdTALINGeREPAeTEDUNGeREPA TEDUNGdPEPETeTEDUNGbADEG ADEG",
   "b!KAF SASAKcKHOT SASAKcTZIR SASAKcEF SASAKcVE SASAKcZAL SASAKcASYURA SASAKcARCHAIC JNYA",
   "1B50bDIGIT ZEROcONEcwc]cFOURcFIVEcSIXcSEVENcEIGHTcNINEbPANTIbPAMADAbWINDUbCARIK PAMUNGKAHcSIKI",
   "cPARERENbPAMENENGbMUSICAL mDONGdDENGdDUNGdDANGeSURANGdDINGdDAENGdDEUNGdDAINGdDANG GEDE",
   "dCOMBINING TEGEHeENDEPeKEMPULeKEMPLIeJEGOGANeKEMPUL #JEGOGANeKEMPLI #JEGOGANeBENDEeGONG",
   "dRIGHT-HAND OPEN DUGfDAGeCLOSED TUKfTAKdLEFT-HAND OPEN PANGfPUNGeCLOSED PLAKfPLUKeOPEN PING",
   "bPANTI LANTANGbPAMADA LANTANG",
   "1B80aSUNDANESE )PANYECEKcPANGLAYARcPANGWISADb!AcIcUcAEcOcEcEUcKAcQAcGAcNGAcCAcJAcZAcNYAcTAcDA",
   "cNAcPAcFAcVAcBAcMAcYAcRAcLAcWAcSAcXAcHAbCONSONANT )PAMINGKALdPANYAKRAdPANYIKUbVOWEL )PANGHULU",
   "dPANYUKUdPANAELAENGdPANOLONGdPAMEPETdPANEULEUNGb)PAMAAEHcVIRAMAbCONSONANT )PASANGAN MAeWAb!KHA",
   "cSYAbDIGIT ZEROcONEcwc]cFOURcFIVEcSIXcSEVENcEIGHTcNINEbAVAGRAHAb!REUcLEUcBHAc=KdMaBATAK !A",
   "cSIMALUNGUN AcHAcSIMALUNGUN HAcMANDAILING HAcBAcKARO BAcPAcSIMALUNGUN PAcNAcMANDAILING NAcWA",
   "cSIMALUNGUN WAcPAKPAK WAcGAcSIMALUNGUN GAcJAcDAcRAcSIMALUNGUN RAcMAcSIMALUNGUN MAcSOUTHERN TA",
   "cNORTHERN TAcSAcSIMALUNGUN SAcMANDAILING SAcYAcSIMALUNGUN YAcNGAcLAcSIMALUNGUN LAcNYAcCAcNDA",
   "cMBAcIcUb)TOMPIbVOWEL )EdPAKPAK EdEEdIdKARO IdOdKARO OdUeFOR SIMALUNGUN SAbCONSONANT )NGdH",
   "bPANGOLATbPANONGONAN",
   "1BFCbmBINDU NA METEKdPINARBORASdJUDULdPANGOLATaLEPCHA !KAcKLAcKHAcGAcGLAcNGAcCAcCHAcJAcNYAcTA",
   "cTHAcDAcNAcPAcPLAcPHAcFAcFLAcBAcBLAcMAcMLAcTSAcTSHAcDZAcYAcRAcLAcHAcHLAcVAcSAcSHAcWAcA",
   "bSUBJOINED !YAdRAbVOWEL )AAdIdOdOOdUdUUdEbCONSONANT )KdMdLdNdPdRdTdNYIN-DOdKANGb)RANcNUKTA",
   "1C3BbPUNCTUATION TA-ROLcNYET THYOOM TA-ROLcCER-WAcTSHOOK CER-WAcTSHOOKbDIGIT ZEROcONEcwc]cFOUR",
   "cFIVEcSIXcSEVENcEIGHTcNINE",
   "1C4Db!TTAcTTHAcDDAaOL CHIKI DIGIT ZEROdONEdwd]dFOURdFIVEdSIXdSEVENdEIGHTdNINEc!LAdATdAGdANGdAL",
   "dLAAdAAKdAAJdAAMdAAWdLIdISdIHdINYdIRdLUdUCdUDdUNNdUYdLEdEPdEDDdENdERRdLOdOTTdOBdOVdOH",
   "cMU TTUDDAGcGAAHLAA TTUDDAAGcMU-GAAHLAA TTUDDAAGcRELAAcPHAARKAAcAHADcPUNCTUATION MUCAAD",
   "d:MUCAADaCYRILLIC %!ROUNDED VEdLONG-LEGGED DEdNARROW OdWIDE ESdTALL TEdTHREE-LEGGED TE",
   "dTALL HARD )eYATdUNBLENDED UK",
   "1C90aGEORGIAN MTAVRULI $!ANeBANeGANeDONeENeVINeZENeTANeINeKANeLASeMANeNAReONePAReZHAReRAEeSAN",
   "eTAReUNePHAReKHAReGHANeQAReSHINeCHINeCANeJILeCILeCHAReXANeJHANeHAEeHEeHIEeWEeHAReHOEeFIeYN",
   "eELIFIeTURNED GANeAIN",
   "1CBDeAENeHARD )eLABIAL )aSUNDANESE PUNCTUATION BINDU SURYAdPANGLONGdPURNAMAdCAKRAdLEU SATANGA",
   "dKA SATANGAdDA SATANGAdBA SATANGA",
   "1CD0aVEDIC TONE KARSHANAcSHARAcPRENKHAb)NIHSHVASAcYAJURVEDIC MIDLINE SVARITA",
   "bTONE YAJURVEDIC AGGRAVATED INDEPENDENT SVARITAdINDEPENDENT SVARITA",
   "dKATHAKA INDEPENDENT SVARITAcCANDRA [cYAJURVEDIC KATHAKA INDEPENDENT SVARITA SCHROEDER",
   "c:SVARITAcTRIPLE SVARITAcKATHAKA ANUDATTAcv[cwDOTS [c]DOTS [",
   "cRIGVEDIC KASHMIRI INDEPENDENT SVARITAcATHARVAVEDIC INDEPENDENT SVARITAb)VISARGA SVARITA",
   "dUDATTAcREVERSED VISARGA UDATTAcVISARGA ANUDATTAcREVERSED VISARGA ANUDATTA",
   "cVISARGA UDATTA #TAILdANUDATTA #TAILcANUSVARA ANTARGOMUKHAdBAHIRGOMUKHAdVAMAGOMUKHAe#TAIL",
   "cTIRYAKcHEXIFORM LONG ANUSVARAcLONG ANUSVARAcRTHANG LONG ANUSVARAcANUSVARA UBHAYATO MUKHA",
   "cARDHAVISARGAcROTATED ARDHAVISARGAbTONE CANDRA ,b)JIHVAMULIYAcUPADHMANIYAcATIKRAMAbTONE RING ,",
   "c:RING ,b):ANUSVARA ANTARGOMUKHA",
   "1D00aLATIN !%$AeAEb%!TURNED AEb!%$BARRED BeCeDeETHeEb%!TURNED OPEN EeIb!%$JeKeL #~eM",
   "eREVERSED NeOeOPEN Ob%!SIDEWAYS OeOPEN OeO #~dTURNED OEb!%$OUb%!TOP HALF OdBOTTOM HALF Ob!%$P",
   "eREVERSED ReTURNED ReTeUb%!SIDEWAYS UeDIAERESIZED UeTURNED Mb!%$VeWeZeEZH",
   "cVOICED LARYNGEAL SPIRANTcAINaGREEK !%$GAMMAeLAMDAePIeRHOePSIaCYRILLIC !%$ELaMODIFIER !$AdAEdB",
   "dBARRED BdDdEdREVERSED EdGdHdIdJdKdLdMdNdREVERSED NdOdOUdPdRdTdUdWc%AdTURNED AdALPHAdTURNED AE",
   "dBdDdEdSCHWAdOPEN EdTURNED OPEN EdGdTURNED IdKdMdENGdOdOPEN OdTOP HALF OdBOTTOM HALF OdPdTdU",
   "dSIDEWAYS UdTURNED MdVdAINdBETAdGREEK GAMMAdDELTAdGREEK PHIdCHIaLATIN SUBSCRIPT %!IeReUeV",
   "aGREEK SUBSCRIPT %!BETAeGAMMAeRHOePHIeCHIaLATIN %!UEdB #oTILDEdD #oTILDEdF #oTILDEdM #oTILDE",
   "dN #oTILDEdP #oTILDEdR #oTILDEfFISHHOOK ;oTILDEdS #oTILDEdT #oTILDEdZ #oTILDEdTURNED G",
   "aMODIFIER !CYRILLIC ENaLATIN %!INSULAR GdTH #STRIKETHROUGHc$!I #~c!IOTA #~dP #~c$!U #~",
   "c!UPSILON #~dB #PALATAL HOOKdD #PALATAL HOOKdF #PALATAL HOOKdG #PALATAL HOOKdK #PALATAL HOOK",
   "dL #PALATAL HOOKdM #PALATAL HOOKdN #PALATAL HOOKdP #PALATAL HOOKdR #PALATAL HOOK",
   "dS #PALATAL HOOKdESH #PALATAL HOOKdV #PALATAL HOOKdX #PALATAL HOOKdZ #PALATAL HOOK",
   "dA #RETROFLEX HOOKdALPHA #RETROFLEX HOOKdD #HOOK ;TAILdE #RETROFLEX HOOK",
   "dOPEN E #RETROFLEX HOOKdREVERSED OPEN E #RETROFLEX HOOKdSCHWA #RETROFLEX HOOK",
   "dI #RETROFLEX HOOKdOPEN O #RETROFLEX HOOKdESH #RETROFLEX HOOKdU #RETROFLEX HOOK",
   "dEZH #RETROFLEX HOOKaMODIFIER !%TURNED ALPHAdCe#CURLdETHdREVERSED OPEN EdFdDOTLESS J #~",
   "dSCRIPT GdTURNED HdI #~dIOTAd$If#~dJ #CROSSED-TAILdL #RETROFLEX HOOKfPALATAL HOOKd$LdM #HOOK",
   "dTURNED M #LONG LEGdN #<HOOKfRETROFLEX HOOKd$NdBARRED OdPHIdS #HOOKdESHdT #PALATAL HOOKdU BAR",
   "dUPSILONd$UdV #HOOKdTURNED VdZe#RETROFLEX HOOKfCURLdEZHdTHETAaCOMBINING DOTTED GRAVE ACCENT",
   "cACUTE ACCENTbSNAKE [bSUSPENSION pbMACRON-ACUTEbGRAVE-MACRONbMACRON-GRAVEbACUTE-MACRON",
   "bGRAVE-ACUTE-GRAVEbACUTE-GRAVE-ACUTEbLATIN %!R [bBREVE-MACRONbMACRON-BREVEb:x,bOGONEK ,",
   "bZIGZAG [bIS [bUR ,bUS ,bLATIN %!FLATTENED OPEN A ,eAEeAOeAVeC CEDILLAeINSULAR DeETHeGc!%$G",
   "c%!KeLc!%$LfMc%!Nc!%$NfRc%!R ROTUNDAeSeLONG SeZeALPHAeBeBETAeSCHWAeFeL #:oTILDE",
   "eO #LIGHT CENTRALIZATION ~ePeESHeU #LIGHT CENTRALIZATION ~eWeA #DIAERESISeO #DIAERESIS",
   "eU #DIAERESISbUP TACK ,bKAVYKA ,*d<bv,<bWIDE INVERTED BRIDGE [bv[<bDELETION p",
   "b:INVERTED BREVE [bALMOST EQUAL TO [b<ARROWHEAD ,b*ARROWHEAD ;DOWN ARROWHEAD [",
   "aLATIN $!A #RING [b%!A #RING [b$!B #v,b%!B #v,b$!B #v[b%!B #v[b$!B #LINE [b%!B #LINE [",
   "b$!C #CEDILLA ;ACUTEb%!C #CEDILLA ;ACUTEb$!D #v,b%!D #v,b$!D #v[b%!D #v[b$!D #LINE [",
   "b%!D #LINE [b$!D #CEDILLAb%!D #CEDILLAb$!D #x[b%!D #x[b$!E #MACRON ;GRAVEb%!E #MACRON ;GRAVE",
   "b$!E #MACRON ;ACUTEb%!E #MACRON ;ACUTEb$!E #x[b%!E #x[b$!E #TILDE [b%!E #TILDE [",
   "b$!E #CEDILLA ;BREVEb%!E #CEDILLA ;BREVEb$!F #v,b%!F #v,b$!G #MACRONb%!G #MACRONb$!H #v,",
   "b%!H #v,b$!H #v[b%!H #v[b$!H #DIAERESISb%!H #DIAERESISb$!H #CEDILLAb%!H #CEDILLAb$!H #BREVE [",
   "b%!H #BREVE [b$!I #TILDE [b%!I #TILDE [b$!I #DIAERESIS ;ACUTEb%!I #DIAERESIS ;ACUTEb$!K #ACUTE",
   "b%!K #ACUTEb$!K #v[b%!K #v[b$!K #LINE [b%!K #LINE [b$!L #v[b%!L #v[b$!L #v[;MACRON",
   "b%!L #v[;MACRONb$!L #LINE [b%!L #LINE [b$!L #x[b%!L #x[b$!M #ACUTEb%!M #ACUTEb$!M #v,b%!M #v,",
   "b$!M #v[b%!M #v[b$!N #v,b%!N #v,b$!N #v[b%!N #v[b$!N #LINE [b%!N #LINE [b$!N #x[b%!N #x[",
   "b$!O #TILDE ;ACUTEb%!O #TILDE ;ACUTEb$!O #TILDE ;DIAERESISb%!O #TILDE ;DIAERESIS",
   "b$!O #MACRON ;GRAVEb%!O #MACRON ;GRAVEb$!O #MACRON ;ACUTEb%!O #MACRON ;ACUTEb$!P #ACUTE",
   "b%!P #ACUTEb$!P #v,b%!P #v,b$!R #v,b%!R #v,b$!R #v[b%!R #v[b$!R #v[;MACRONb%!R #v[;MACRON",
   "b$!R #LINE [b%!R #LINE [b$!S #v,b%!S #v,b$!S #v[b%!S #v[b$!S #ACUTE ;v,b%!S #ACUTE ;v,",
   "b$!S #CARON ;v,b%!S #CARON ;v,b$!S #v[;v,b%!S #v[;v,b$!T #v,b%!T #v,b$!T #v[b%!T #v[",
   "b$!T #LINE [b%!T #LINE [b$!T #x[b%!T #x[b$!U #DIAERESIS [b%!U #DIAERESIS [b$!U #TILDE [",
   "b%!U #TILDE [b$!U #x[b%!U #x[b$!U #TILDE ;ACUTEb%!U #TILDE ;ACUTEb$!U #MACRON ;DIAERESIS",
   "b%!U #MACRON ;DIAERESISb$!V #TILDEb%!V #TILDEb$!V #v[b%!V #v[b$!W #GRAVEb%!W #GRAVEb$!W #ACUTE",
   "b%!W #ACUTEb$!W #DIAERESISb%!W #DIAERESISb$!W #v,b%!W #v,b$!W #v[b%!W #v[b$!X #v,b%!X #v,",
   "b$!X #DIAERESISb%!X #DIAERESISb$!Y #v,b%!Y #v,b$!Z #xb%!Z #xb$!Z #v[b%!Z #v[b$!Z #LINE [",
   "b%!Z #LINE [dH #LINE [dT #DIAERESISdW #RING ,dY #RING ,dA #*HALF RINGdLONG S #v,gDIAGONAL ~",
   "gHIGH ~b$!SHARP Sb%!DELTAb$!A #v[b%!A #v[b$!A #HOOK ,b%!A #HOOK ,b$!A #x;ACUTEb%!A #x;ACUTE",
   "b$!A #x;GRAVEb%!A #x;GRAVEb$!A #x;HOOK ,b%!A #x;HOOK ,b$!A #x;TILDEb%!A #x;TILDEb$!A #x;v[",
   "b%!A #x;v[b$!A #BREVE ;ACUTEb%!A #BREVE ;ACUTEb$!A #BREVE ;GRAVEb%!A #BREVE ;GRAVE",
   "b$!A #BREVE ;HOOK ,b%!A #BREVE ;HOOK ,b$!A #BREVE ;TILDEb%!A #BREVE ;TILDEb$!A #BREVE ;v[",
   "b%!A #BREVE ;v[b$!E #v[b%!E #v[b$!E #HOOK ,b%!E #HOOK ,b$!E #TILDEb%!E #TILDEb$!E #x;ACUTE",
   "b%!E #x;ACUTEb$!E #x;GRAVEb%!E #x;GRAVEb$!E #x;HOOK ,b%!E #x;HOOK ,b$!E #x;TILDEb%!E #x;TILDE",
   "b$!E #x;v[b%!E #x;v[b$!I #HOOK ,b%!I #HOOK ,b$!I #v[b%!I #v[b$!O #v[b%!O #v[b$!O #HOOK ,",
   "b%!O #HOOK ,b$!O #x;ACUTEb%!O #x;ACUTEb$!O #x;GRAVEb%!O #x;GRAVEb$!O #x;HOOK ,b%!O #x;HOOK ,",
   "b$!O #x;TILDEb%!O #x;TILDEb$!O #x;v[b%!O #x;v[b$!O #HORN ;ACUTEb%!O #HORN ;ACUTE",
   "b$!O #HORN ;GRAVEb%!O #HORN ;GRAVEb$!O #HORN ;HOOK ,b%!O #HORN ;HOOK ,b$!O #HORN ;TILDE",
   "b%!O #HORN ;TILDEb$!O #HORN ;v[b%!O #HORN ;v[b$!U #v[b%!U #v[b$!U #HOOK ,b%!U #HOOK ,",
   "b$!U #HORN ;ACUTEb%!U #HORN ;ACUTEb$!U #HORN ;GRAVEb%!U #HORN ;GRAVEb$!U #HORN ;HOOK ,",
   "b%!U #HORN ;HOOK ,b$!U #HORN ;TILDEb%!U #HORN ;TILDEb$!U #HORN ;v[b%!U #HORN ;v[b$!Y #GRAVE",
   "b%!Y #GRAVEb$!Y #v[b%!Y #v[b$!Y #HOOK ,b%!Y #HOOK ,b$!Y #TILDEb%!Y #TILDEb$!MIDDLE-WELSH LL",
   "b%!MIDDLE-WELSH LLb$!MIDDLE-WELSH Vb%!MIDDLE-WELSH Vb$!Y #LOOPb%!Y #LOOPaGREEK %!ALPHA #PSILI",
   "fDASIAfPSILI ;VARIAfDASIA ;VARIAfPSILI ;OXIAfDASIA ;OXIAfPSILI ;PERISPOMENIfDASIA ;PERISPOMENI",
   "b$!ALPHA #PSILIfDASIAfPSILI ;VARIAfDASIA ;VARIAfPSILI ;OXIAfDASIA ;OXIAfPSILI ;PERISPOMENI",
   "fDASIA ;PERISPOMENIb%!EPSILON #PSILIfDASIAfPSILI ;VARIAfDASIA ;VARIAfPSILI ;OXIAfDASIA ;OXIA",
   "1F18b$!EPSILON #PSILIfDASIAfPSILI ;VARIAfDASIA ;VARIAfPSILI ;OXIAfDASIA ;OXIA",
   "1F20b%!ETA #PSILIfDASIAfPSILI ;VARIAfDASIA ;VARIAfPSILI ;OXIAfDASIA ;OXIAfPSILI ;PERISPOMENI",
   "fDASIA ;PERISPOMENIb$!ETA #PSILIfDASIAfPSILI ;VARIAfDASIA ;VARIAfPSILI ;OXIAfDASIA ;OXIA",
   "fPSILI ;PERISPOMENIfDASIA ;PERISPOMENIb%!IOTA #PSILIfDASIAfPSILI ;VARIAfDASIA ;VARIA",
   "fPSILI ;OXIAfDASIA ;OXIAfPSILI ;PERISPOMENIfDASIA ;PERISPOMENIb$!IOTA #PSILIfDASIA",
   "fPSILI ;VARIAfDASIA ;VARIAfPSILI ;OXIAfDASIA ;OXIAfPSILI ;PERISPOMENIfDASIA ;PERISPOMENI",
   "b%!OMICRON #PSILIfDASIAfPSILI ;VARIAfDASIA ;VARIAfPSILI ;OXIAfDASIA ;OXIA",
   "1F48b$!OMICRON #PSILIfDASIAfPSILI ;VARIAfDASIA ;VARIAfPSILI ;OXIAfDASIA ;OXIA",
   "1F50b%!UPSILON #PSILIfDASIAfPSILI ;VARIAfDASIA ;VARIAfPSILI ;OXIAfDASIA ;OXIA",
   "fPSILI ;PERISPOMENIfDASIA ;PERISPOMENI",
   "1F59b$!UPSILON #DASIA",
   "1F5Bg;VARIA",
   "1F5DhOXIA",
   "1F5FhPERISPOMENIb%!OMEGA #PSILIfDASIAfPSILI ;VARIAfDASIA ;VARIAfPSILI ;OXIAfDASIA ;OXIA",
   "fPSILI ;PERISPOMENIfDASIA ;PERISPOMENIb$!OMEGA #PSILIfDASIAfPSILI ;VARIAfDASIA ;VARIA",
   "fPSILI ;OXIAfDASIA ;OXIAfPSILI ;PERISPOMENIfDASIA ;PERISPOMENIb%!ALPHA #VARIAfOXIA",
   "dEPSILON #VARIAfOXIAdETA #VARIAfOXIAdIOTA #VARIAfOXIAdOMICRON #VARIAfOXIAdUPSILON #VARIAfOXIA",
   "dOMEGA #VARIAfOXIA",
   "1F80dALPHA #PSILI ;YPOGEGRAMMENIfDASIA ;YPOGEGRAMMENIfPSILI ;VARIA ;YPOGEGRAMMENI",
   "fDASIA ;VARIA ;YPOGEGRAMMENIfPSILI ;OXIA ;YPOGEGRAMMENIfDASIA ;OXIA ;YPOGEGRAMMENI",
   "fPSILI ;PERISPOMENI ;YPOGEGRAMMENIfDASIA ;PERISPOMENI ;YPOGEGRAMMENI",
   "b$!ALPHA #PSILI ;PROSGEGRAMMENIfDASIA ;PROSGEGRAMMENIfPSILI ;VARIA ;PROSGEGRAMMENI",
   "fDASIA ;VARIA ;PROSGEGRAMMENIfPSILI ;OXIA ;PROSGEGRAMMENIfDASIA ;OXIA ;PROSGEGRAMMENI",
   "fPSILI ;PERISPOMENI ;PROSGEGRAMMENIfDASIA ;PERISPOMENI ;PROSGEGRAMMENI",
   "b%!ETA #PSILI ;YPOGEGRAMMENIfDASIA ;YPOGEGRAMMENIfPSILI ;VARIA ;YPOGEGRAMMENI",
   "fDASIA ;VARIA ;YPOGEGRAMMENIfPSILI ;OXIA ;YPOGEGRAMMENIfDASIA ;OXIA ;YPOGEGRAMMENI",
   "fPSILI ;PERISPOMENI ;YPOGEGRAMMENIfDASIA ;PERISPOMENI ;YPOGEGRAMMENI",
   "b$!ETA #PSILI ;PROSGEGRAMMENIfDASIA ;PROSGEGRAMMENIfPSILI ;VARIA ;PROSGEGRAMMENI",
   "fDASIA ;VARIA ;PROSGEGRAMMENIfPSILI ;OXIA ;PROSGEGRAMMENIfDASIA ;OXIA ;PROSGEGRAMMENI",
   "fPSILI ;PERISPOMENI ;PROSGEGRAMMENIfDASIA ;PERISPOMENI ;PROSGEGRAMMENI",
   "b%!OMEGA #PSILI ;YPOGEGRAMMENIfDASIA ;YPOGEGRAMMENIfPSILI ;VARIA ;YPOGEGRAMMENI",
   "fDASIA ;VARIA ;YPOGEGRAMMENIfPSILI ;OXIA ;YPOGEGRAMMENIfDASIA ;OXIA ;YPOGEGRAMMENI",
   "fPSILI ;PERISPOMENI ;YPOGEGRAMMENIfDASIA ;PERISPOMENI ;YPOGEGRAMMENI",
   "b$!OMEGA #PSILI ;PROSGEGRAMMENIfDASIA ;PROSGEGRAMMENIfPSILI ;VARIA ;PROSGEGRAMMENI",
   "fDASIA ;VARIA ;PROSGEGRAMMENIfPSILI ;OXIA ;PROSGEGRAMMENIfDASIA ;OXIA ;PROSGEGRAMMENI",
   "fPSILI ;PERISPOMENI ;PROSGEGRAMMENIfDASIA ;PERISPOMENI ;PROSGEGRAMMENIb%!ALPHA #VRACHYfMACRON",
   "fVARIA ;YPOGEGRAMMENIfYPOGEGRAMMENIfOXIA ;YPOGEGRAMMENI",
   "1FB6fPERISPOMENIg;YPOGEGRAMMENIb$!ALPHA #VRACHYfMACRONfVARIAfOXIAfPROSGEGRAMMENIbKORONIS",
   "bPROSGEGRAMMENIbPSILIbPERISPOMENIbDIALYTIKA ;PERISPOMENIb%!ETA #VARIA ;YPOGEGRAMMENI",
   "fYPOGEGRAMMENIfOXIA ;YPOGEGRAMMENI",
   "1FC6fPERISPOMENIg;YPOGEGRAMMENIb$!EPSILON #VARIAfOXIAdETA #VARIAfOXIAfPROSGEGRAMMENI",
   "bPSILI ;VARIAdOXIAdPERISPOMENIb%!IOTA #VRACHYfMACRONfDIALYTIKA ;VARIAhOXIA",
   "1FD6fPERISPOMENIfDIALYTIKA ;PERISPOMENIb$!IOTA #VRACHYfMACRONfVARIAfOXIA",
   "1FDDbDASIA ;VARIAdOXIAdPERISPOMENIb%!UPSILON #VRACHYfMACRONfDIALYTIKA ;VARIAhOXIAdRHO #PSILI",
   "fDASIAdUPSILON #PERISPOMENIfDIALYTIKA ;PERISPOMENIb$!UPSILON #VRACHYfMACRONfVARIAfOXIA",
   "dRHO #DASIAbDIALYTIKA ;VARIAdOXIAbVARIA",
   "1FF2b%!OMEGA #VARIA ;YPOGEGRAMMENIfYPOGEGRAMMENIfOXIA ;YPOGEGRAMMENI",
   "1FF6fPERISPOMENIg;YPOGEGRAMMENIb$!OMICRON #VARIAfOXIAdOMEGA #VARIAfOXIAfPROSGEGRAMMENIbOXIA",
   "bDASIA"]

end AccessControl
