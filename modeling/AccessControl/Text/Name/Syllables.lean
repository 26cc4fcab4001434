/-!
# Names of East Asian characters and of forms

The names of the characters from the East Asian punctuation to the end of the basic plane, in the
form that `CharacterName.find?` reads.
-/

namespace AccessControl

/-- The names of the characters from the East Asian punctuation to the end of the basic plane. -/
def syllableNames : List String :=
  ["3000aIDEOGRAPHIC SPACEbCOMMAbFULL STOPaDITTO paJAPANESE INDUSTRIAL STANDARD m",
   "aIDEOGRAPHIC ITERATION pbCLOSING pbNUMBER ZEROa<ANGLE ta*ANGLE ta<:ANGLE ta*:ANGLE ta<CORNER t",
   "a*CORNER ta<_CORNER ta*_CORNER ta<^LENTICULAR ta*^LENTICULAR taPOSTAL paGETA p",
   "a<TORTOISE SHELL ta*TORTOISE SHELL ta<_LENTICULAR ta*_LENTICULAR ta<_TORTOISE SHELL t",
   "a*_TORTOISE SHELL ta<_SQUARE ta*_SQUARE taWAVE DASHaREVERSED :PRIME QUOTATION p",
   "a:PRIME QUOTATION paLOW :PRIME QUOTATION paPOSTAL pFACEaHANGZHOU NUMERAL ONEcwc]cFOURcFIVEcSIX",
   "cSEVENcEIGHTcNINEaIDEOGRAPHIC LEVEL TONE pbRISING TONE pbDEPARTING TONE pbENTERING TONE p",
   "aHANGUL SINGLE vTONE pb:vTONE paWAVY DASHa@KANA REPEAT pd#VOICED SOUND pdpUPPER HALF",
   "d#VOICED SOUND pUPPER HALFdpLOWER HALFaCIRCLED POSTAL p",
   "aIDEOGRAPHIC TELEGRAPH LINE FEED SEPARATOR maHANGZHOU NUMERAL TENcTWENTYcTHIRTY",
   "a@IDEOGRAPHIC ITERATION paMASU paPART ALTERNATION paIDEOGRAPHIC VARIATION INDICATOR",
   "bHALF FILL SPACE",
   "3041aHIRAGANA !%AcAc%IcIc%UcUc%EcEc%OcOcKAcGAcKIcGIcKUcGUcKEcGEcKOcGOcSAcZAcSIcZIcSUcZUcSEcZE",
   "cSOcZOcTAcDAcTIcDIc%TUcTUcDUcTEcDEcTOcDOcNAcNIcNUcNEcNOcHAcBAcPAcHIcBIcPIcHUcBUcPUcHEcBEcPEcHO",
   "cBOcPOcMAcMIcMUcMEcMOc%YAcYAc%YUcYUc%YOcYOcRAcRIcRUcREcROc%WAcWAcWIcWEcWOcNcVUc%KAdKE",
   "3099aCOMBINING KATAKANA-HIRAGANA VOICED SOUND pcSEMI-VOICED SOUND p",
   "aKATAKANA-HIRAGANA VOICED SOUND pbSEMI-VOICED SOUND paHIRAGANA ITERATION pbVOICED ITERATION p",
   "bDIGRAPH YORIaKATAKANA-HIRAGANA :HYPHENaKATAKANA !%AcAc%IcIc%UcUc%EcEc%OcOcKAcGAcKIcGIcKUcGU",
   "cKEcGEcKOcGOcSAcZAcSIcZIcSUcZUcSEcZEcSOcZOcTAcDAcTIcDIc%TUcTUcDUcTEcDEcTOcDOcNAcNIcNUcNEcNOcHA",
   "cBAcPAcHIcBIcPIcHUcBUcPUcHEcBEcPEcHOcBOcPOcMAcMIcMUcMEcMOc%YAcYAc%YUcYUc%YOcYOcRAcRIcRUcREcRO",
   "c%WAcWAcWIcWEcWOcNcVUc%KAdKEcVAcVIcVEcVObovaKATAKANA-HIRAGANA PROLONGED SOUND p",
   "aKATAKANA ITERATION pbVOICED ITERATION pbDIGRAPH KOTO",
   "3105aBOPOMOFO !BcPcMcFcDcTcNcLcGcKcHcJcQcXcZHcCHcSHcRcZcCcScAcOcEcEHcAIcEIcAUcOUcANcENcANGcENG",
   "cERcIcUcIUcVcNGcGNcIHcO #v,cNN",
   "3131aHANGUL !KIYEOKcSSANGKIYEOKcKIYEOK-SIOScNIEUNcNIEUN-CIEUCcNIEUN-HIEUHcTIKEUTcSSANGTIKEUT",
   "cRIEULcRIEUL-KIYEOKcRIEUL-MIEUMcRIEUL-PIEUPcRIEUL-SIOScRIEUL-THIEUTHcRIEUL-PHIEUPHcRIEUL-HIEUH",
   "cMIEUMcPIEUPcSSANGPIEUPcPIEUP-SIOScSIOScSSANGSIOScIEUNGcCIEUCcSSANGCIEUCcCHIEUCHcKHIEUKH",
   "cTHIEUTHcPHIEUPHcHIEUHcAcAEcYAcYAEcEOcEcYEOcYEcOcWAcWAEcOEcYOcUcWEOcWEcWIcYUcEUcYIcIbFILLER",
   "b!SSANGNIEUNcNIEUN-TIKEUTcNIEUN-SIOScNIEUN-PANSIOScRIEUL-KIYEOK-SIOScRIEUL-TIKEUT",
   "cRIEUL-PIEUP-SIOScRIEUL-PANSIOScRIEUL-YEORINHIEUHcMIEUM-PIEUPcMIEUM-SIOScMIEUM-PANSIOS",
   "cKAPYEOUNMIEUMcPIEUP-KIYEOKcPIEUP-TIKEUTcPIEUP-SIOS-KIYEOKcPIEUP-SIOS-TIKEUTcPIEUP-CIEUC",
   "cPIEUP-THIEUTHcKAPYEOUNPIEUPcKAPYEOUNSSANGPIEUPcSIOS-KIYEOKcSIOS-NIEUNcSIOS-TIKEUTcSIOS-PIEUP",
   "cSIOS-CIEUCcPANSIOScSSANGIEUNGcYESIEUNGcYESIEUNG-SIOScYESIEUNG-PANSIOScKAPYEOUNPHIEUPH",
   "cSSANGHIEUHcYEORINHIEUHcYO-YAcYO-YAEcYO-IcYU-YEOcYU-YEcYU-IcARAEAcARAEAE",
   "3190aIDEOGRAPHIC ANNOTATION LINKING pcREVERSE pcONE pcwpc]pcFOUR pcTOP pcopcBOTTOM pcFIRST p",
   "cSECOND pcTHIRD pcFOURTH pcHEAVEN pcEARTH pcMAN paBOPOMOFO !BUcZIcJIcGUcEEcENNcOOcONNcIRcANN",
   "cINNcUNNcIMcNGGcAINNcAUNNcAMcOMcONGcINNNb=!PdTdKdHb!GHcLHcZYb=!Gb!GWcKWcOEcAHaCJK ~TcWGcXGcBXG",
   "cSWcHZZcHZGcHPcHZWGcSZWGcHZTcHZZPcHPWGcHZWcHZZZcNcHcScPcSPcDcHZcHGcSZcSWZcSTcSGcPDcPZcTNcSZZ",
   "cSWGcHXWGcHZZZGcPGcQ",
   "31F0aKATAKANA !%KUdSIdSUdTOdNUdHAdHIdHUdHEdHOdMUdRAdRIdRUdREdROaPARENTHESIZED HANGUL KIYEOK",
   "cNIEUNcTIKEUTcRIEULcMIEUMcPIEUPcSIOScIEUNGcCIEUCcCHIEUCHcKHIEUKHcTHIEUTHcPHIEUPHcHIEUH",
   "cKIYEOK AcNIEUN AcTIKEUT AcRIEUL AcMIEUM AcPIEUP AcSIOS AcIEUNG AcCIEUC AcCHIEUCH AcKHIEUKH A",
   "cTHIEUTH AcPHIEUPH AcHIEUH AcCIEUC UbKOREAN CHARACTER OJEONdO HU",
   "3220bIDEOGRAPH ONEcwc]cFOURcFIVEcSIXcSEVENcEIGHTcNINEcTENcMOONcFIREcWATERcWOODcMETALcEARTHcSUN",
   "cSTOCKcHAVEcSOCIETYcNAMEcSPECIALcFINANCIALcCONGRATULATIONcLABORcREPRESENTcCALLcSTUDYcSUPERVISE",
   "cENTERPRISEcRESOURCEcALLIANCEcFESTIVALcRESTcSELFcREACHaCIRCLED IDEOGRAPH QUESTIONcKINDERGARTEN",
   "cSCHOOLcKOTObNUMBER TEN ON ^SQUAREcTWENTY ON ^SQUAREcTHIRTY ON ^SQUAREcFORTY ON ^SQUARE",
   "cFIFTY ON ^SQUAREcSIXTY ON ^SQUAREcSEVENTY ON ^SQUAREcEIGHTY ON ^SQUAREaPARTNERSHIP )",
   "aCIRCLED NUMBER TWENTY ONEdwd]dFOURdFIVEdSIXdSEVENdEIGHTdNINEcTHIRTYdONEdwd]dFOURdFIVE",
   "bHANGUL KIYEOKcNIEUNcTIKEUTcRIEULcMIEUMcPIEUPcSIOScIEUNGcCIEUCcCHIEUCHcKHIEUKHcTHIEUTHcPHIEUPH",
   "cHIEUHcKIYEOK AcNIEUN AcTIKEUT AcRIEUL AcMIEUM AcPIEUP AcSIOS AcIEUNG AcCIEUC AcCHIEUCH A",
   "cKHIEUKH AcTHIEUTH AcPHIEUPH AcHIEUH AbKOREAN CHARACTER CHAMKOdJUEUIbHANGUL IEUNG U",
   "aKOREAN STANDARD maCIRCLED IDEOGRAPH ONEcwc]cFOURcFIVEcSIXcSEVENcEIGHTcNINEcTENcMOONcFIRE",
   "cWATERcWOODcMETALcEARTHcSUNcSTOCKcHAVEcSOCIETYcNAMEcSPECIALcFINANCIALcCONGRATULATIONcLABOR",
   "cSECRETcMALEcFEMALEcSUITABLEcEXCELLENTcPRINTcATTENTIONcITEMcRESTcCOPYcCORRECTcHIGHcCENTREcLOW",
   "c<c*cMEDICINEcRELIGIONcSTUDYcSUPERVISEcENTERPRISEcRESOURCEcALLIANCEcNIGHTbNUMBER THIRTY SIX",
   "dSEVENdEIGHTdNINEcFORTYdONEdwd]dFOURdFIVEdSIXdSEVENdEIGHTdNINEcFIFTY",
   "aIDEOGRAPHIC TELEGRAPH mFOR JANUARYeFEBRUARYeMARCHeAPRILeMAYeJUNEeJULYeAUGUSTeSEPTEMBER",
   "eOCTOBEReNOVEMBEReDECEMBERaSQUARE HGbERGbEVaLIMITED LIABILITY )aCIRCLED KATAKANA AcIcUcEcOcKA",
   "cKIcKUcKEcKOcSAcSIcSUcSEcSOcTAcTIcTUcTEcTOcNAcNIcNUcNEcNOcHAcHIcHUcHEcHOcMAcMIcMUcMEcMOcYAcYU",
   "cYOcRAcRIcRUcREcROcWAcWIcWEcWOaSQUARE ERA NAME REIWAbAPAATObARUHUAbANPEAbAARUbININGUbINTIbUON",
   "bESUKUUDObEEKAAbONSUbOOMUbKAIRIbKARATTObKARORIIbGARONbGANMAbGIGAbGINIIbKYURIIbGIRUDAAbKIRO",
   "bKIROGURAMUbKIROMEETORUbKIROWATTObGURAMUbGURAMUTONbKURUZEIRObKUROONEbKEESUbKORUNAbKOOPO",
   "bSAIKURUbSANTIIMUbSIRINGUbSENTIbSENTObDAASUbDESIbDORUbTONbNANObNOTTObHAITUbPAASENTObPAATU",
   "bBAARERUbPIASUTORUbPIKURUbPIKObBIRUbHUARADDObHUIITObBUSSYERUbHURANbHEKUTAARUbPESObPENIHI",
   "bHERUTUbPENSUbPEEZIbBEETAbPOINTObBORUTObHONbPONDObHOORUbHOONbMAIKURObMAIRUbMAHHAbMARUKU",
   "bMANSYONbMIKURONbMIRIbMIRIBAARUbMEGAbMEGATONbMEETORUbYAADObYAARUbYUANbRITTORUbRIRAbRUPII",
   "bRUUBURUbREMUbRENTOGENbWATTOaIDEOGRAPHIC TELEGRAPH mFOR HOUR ZEROfONEfwf]fFOURfFIVEfSIXfSEVEN",
   "fEIGHTfNINEfTENfELEVENfTWELVEfTHIRTEENfFOURTEENfFIFTEENfSIXTEENfSEVENTEENfEIGHTEENfNINETEEN",
   "fTWENTYfTWENTY-ONEfTWENTY-TWOfTWENTY-THREEfTWENTY-FOURaSQUARE HPAbDAbAUbBARbOVbPCbDMcSQUARED",
   "cCUBEDbIUbERA NAME HEISEIdSYOUWAdTAISYOUdMEIZIbCORPORATIONbPA AMPSbNAbMU AbMAbKAbKBbMBbGBbCAL",
   "bKCALbPFbNFbMU FcGbMGbKGbHZbKHZbMHZbGHZbTHZbMU LbMLbDLbKLbFMbNMbMU MbMMbCMbKMbMM SQUARED",
   "bCM SQUAREDbM SQUAREDbKM SQUAREDbMM CUBEDbCM CUBEDbM CUBEDbKM CUBEDbM OVER SeSQUAREDbPAbKPA",
   "bMPAbGPAbRADcOVER SeSQUAREDbPSbNSbMU SbMSbPVbNVbMU VbMVbKVbMV MEGAbPWbNWbMU WbMWbKWbMW MEGA",
   "bK OHMbM OHMbAMbBQbCCbCDbC OVER KGbCObDBbGYbHAbHPbINbKKbKM $bKTbLMbLNbLOGbLXbMB %bMILbMOLbPH",
   "bPMbPPMbPRbSRbSVbWBbV OVER MbA OVER MaIDEOGRAPHIC TELEGRAPH mFOR DAY ONEfwf]fFOURfFIVEfSIX",
   "fSEVENfEIGHTfNINEfTENfELEVENfTWELVEfTHIRTEENfFOURTEENfFIFTEENfSIXTEENfSEVENTEENfEIGHTEEN",
   "fNINETEENfTWENTYfTWENTY-ONEfTWENTY-TWOfTWENTY-THREEfTWENTY-FOURfTWENTY-FIVEfTWENTY-SIX",
   "fTWENTY-SEVENfTWENTY-EIGHTfTWENTY-NINEfTHIRTYfTHIRTY-ONEaSQUARE GAL",
   "4DC0aHEXAGRAM FOR THE CREATIVE HEAVENdRECEPTIVE EARTHcDIFFICULTY AT THE BEGINNING",
   "cYOUTHFUL FOLLYcWAITINGcCONFLICTcTHE ARMYcHOLDING TOGETHERc%TAMINGcTREADINGcPEACEcSTANDSTILL",
   "cFELLOWSHIPcGREAT POSSESSIONcMODESTYcENTHUSIASMcFOLLOWINGcWORK ON THE DECAYEDcAPPROACH",
   "cCONTEMPLATIONcBITING THROUGHcGRACEcSPLITTING APARTcRETURNcINNOCENCEcGREAT TAMING",
   "cMOUTH CORNERScGREAT PREPONDERANCEcTHE ABYSMAL WATERdCLINGING FIREcINFLUENCEcDURATIONcRETREAT",
   "cGREAT POWERcPROGRESScDARKENING OF THE LIGHTcTHE FAMILYcOPPOSITIONcOBSTRUCTIONcDELIVERANCE",
   "cDECREASEcINCREASEcBREAKTHROUGHcCOMING TO MEETcGATHERING TOGETHERcPUSHING UPWARDcOPPRESSION",
   "cTHE WELLcREVOLUTIONcTHE CAULDRONdAROUSING THUNDERdKEEPING STILL MOUNTAINcDEVELOPMENT",
   "cTHE MARRYING MAIDENcABUNDANCEcTHE WANDERERdGENTLE WINDdJOYOUS LAKEcDISPERSIONcLIMITATION",
   "cINNER TRUTHc%PREPONDERANCEcAFTER COMPLETIONcBEFORE COMPLETION",
   "A000aYI SYLLABLE ITcIXcIcIPcIETcIEXcIEcIEPcATcAXcAcAPcUOXcUOcUOPcOTcOXcOcOPcEXcEcWUcBITcBIXcBI",
   "cBIPcBIETcBIEXcBIEcBIEPcBATcBAXcBAcBAPcBUOXcBUOcBUOPcBOTcBOXcBOcBOPcBEXcBEcBEPcBUTcBUXcBUcBUP",
   "cBURXcBURcBYTcBYXcBYcBYPcBYRXcBYRcPITcPIXcPIcPIPcPIEXcPIEcPIEPcPATcPAXcPAcPAPcPUOXcPUOcPUOP",
   "cPOTcPOXcPOcPOPcPUTcPUXcPUcPUPcPURXcPURcPYTcPYXcPYcPYPcPYRXcPYRcBBITcBBIXcBBIcBBIPcBBIETcBBIEX",
   "cBBIEcBBIEPcBBATcBBAXcBBAcBBAPcBBUOXcBBUOcBBUOPcBBOTcBBOXcBBOcBBOPcBBEXcBBEcBBEPcBBUTcBBUXcBBU",
   "cBBUPcBBURXcBBURcBBYTcBBYXcBBYcBBYPcNBITcNBIXcNBIcNBIPcNBIEXcNBIEcNBIEPcNBATcNBAXcNBAcNBAP",
   "cNBOTcNBOXcNBOcNBOPcNBUTcNBUXcNBUcNBUPcNBURXcNBURcNBYTcNBYXcNBYcNBYPcNBYRXcNBYRcHMITcHMIXcHMI",
   "cHMIPcHMIEXcHMIEcHMIEPcHMATcHMAXcHMAcHMAPcHMUOXcHMUOcHMUOPcHMOTcHMOXcHMOcHMOPcHMUTcHMUXcHMU",
   "cHMUPcHMURXcHMURcHMYXcHMYcHMYPcHMYRXcHMYRcMITcMIXcMIcMIPcMIEXcMIEcMIEPcMATcMAXcMAcMAPcMUOT",
   "cMUOXcMUOcMUOPcMOTcMOXcMOcMOPcMEXcMEcMUTcMUXcMUcMUPcMURXcMURcMYTcMYXcMYcMYPcFITcFIXcFIcFIPcFAT",
   "cFAXcFAcFAPcFOXcFOcFOPcFUTcFUXcFUcFUPcFURXcFURcFYTcFYXcFYcFYPcVITcVIXcVIcVIPcVIETcVIEXcVIE",
   "cVIEPcVATcVAXcVAcVAPcVOTcVOXcVOcVOPcVEXcVEPcVUTcVUXcVUcVUPcVURXcVURcVYTcVYXcVYcVYPcVYRXcVYR",
   "cDITcDIXcDIcDIPcDIEXcDIEcDIEPcDATcDAXcDAcDAPcDUOXcDUOcvcDOXcDOcDOPcDEXcDEcDEPcDUTcDUXcDUcDUP",
   "cDURXcDURcTITcTIXcTIcTIPcTIEXcTIEcTIEPcTATcTAXcTAcTAPcTUOTcTUOXcTUOcTUOPcTOTcTOXcTOcTOPcTEXcTE",
   "cTEPcTUTcTUXcTUcTUPcTURXcTURcDDITcDDIXcDDIcDDIPcDDIEXcDDIEcDDIEPcDDATcDDAXcDDAcDDAPcDDUOXcDDUO",
   "cDDUOPcDDOTcDDOXcDDOcDDOPcDDEXcDDEcDDEPcDDUTcDDUXcDDUcDDUPcDDURXcDDURcNDITcNDIXcNDIcNDIPcNDIEX",
   "cNDIEcNDATcNDAXcNDAcNDAPcNDOTcNDOXcNDOcNDOPcNDEXcNDEcNDEPcNDUTcNDUXcNDUcNDUPcNDURXcNDURcHNIT",
   "cHNIXcHNIcHNIPcHNIETcHNIEXcHNIEcHNIEPcHNATcHNAXcHNAcHNAPcHNUOXcHNUOcHNOTcHNOXcHNOPcHNEXcHNE",
   "cHNEPcHNUTcNITcNIXcNIcNIPcNIEXcNIEcNIEPcNAXcNAcNAPcNUOXcNUOcNUOPcNOTcNOXcNOcNOPcNEXcNEcNEPcNUT",
   "cNUXcNUcNUPcNURXcNURcHLITcHLIXcHLIcHLIPcHLIEXcHLIEcHLIEPcHLATcHLAXcHLAcHLAPcHLUOXcHLUOcHLUOP",
   "cHLOXcHLOcHLOPcHLEXcHLEcHLEPcHLUTcHLUXcHLUcHLUPcHLURXcHLURcHLYTcHLYXcHLYcHLYPcHLYRXcHLYRcLIT",
   "cLIXcLIcLIPcLIETcLIEXcLIEcLIEPcLATcLAXcLAcLAPcLUOTcLUOXcLUOcLUOPcLOTcLOXcLOcLOPcLEXcLEcLEPcLUT",
   "cLUXcLUcLUPcLURXcLURcLYTcLYXcLYcLYPcLYRXcLYRcGITcGIXcGIcGIPcGIETcGIEXcGIEcGIEPcGATcGAXcGAcGAP",
   "cGUOTcGUOXcGUOcGUOPcGOTcGOXcGOcGOPcGETcGEXcGEcGEPcGUTcGUXcGUcGUPcGURXcGURcKITcKIXcKIcKIPcKIEX",
   "cKIEcKIEPcKATcKAXcKAcKAPcKUOXcKUOcKUOPcKOTcKOXcKOcKOPcKETcKEXcKEcKEPcKUTcKUXcKUcKUPcKURXcKUR",
   "cGGITcGGIXcGGIcGGIEXcGGIEcGGIEPcGGATcGGAXcGGAcGGAPcGGUOTcGGUOXcGGUOcGGUOPcGGOTcGGOXcGGOcGGOP",
   "cGGETcGGEXcGGEcGGEPcGGUTcGGUXcGGUcGGUPcGGURXcGGURcMGIEXcMGIEcMGATcMGAXcMGAcMGAPcMGUOXcMGUO",
   "cMGUOPcMGOTcMGOXcMGOcMGOPcMGEXcMGEcMGEPcMGUTcMGUXcMGUcMGUPcMGURXcMGURcHXITcHXIXcHXIcHXIPcHXIET",
   "cHXIEXcHXIEcHXIEPcHXATcHXAXcHXAcHXAPcHXUOTcHXUOXcHXUOcHXUOPcHXOTcHXOXcHXOcHXOPcHXEXcHXEcHXEP",
   "cNGIEXcNGIEcNGIEPcNGATcNGAXcNGAcNGAPcNGUOTcNGUOXcNGUOcNGOTcNGOXcNGOcNGOPcNGEXcNGEcNGEPcHIT",
   "cHIEXcHIEcHATcHAXcHAcHAPcHUOTcHUOXcHUOcHUOPcHOTcHOXcHOcHOPcHEXcHEcHEPcWATcWAXcWAcWAPcWUOXcWUO",
   "cWUOPcWOXcWOcWOPcWEXcWEcWEPcZITcZIXcZIcZIPcZIEXcZIEcZIEPcZATcZAXcZAcZAPcZUOXcZUOcZUOPcZOTcZOX",
   "cZOcZOPcZEXcZEcZEPcZUTcZUXcZUcZUPcZURXcZURcZYTcZYXcZYcZYPcZYRXcZYRcCITcCIXcCIcCIPcCIETcCIEX",
   "cCIEcCIEPcCATcCAXcCAcCAPcCUOXcCUOcCUOPcCOTcCOXcCOcCOPcCEXcCEcCEPcCUTcCUXcCUcCUPcCURXcCURcCYT",
   "cCYXcCYcCYPcCYRXcCYRcZZITcZZIXcZZIcZZIPcZZIETcZZIEXcZZIEcZZIEPcZZATcZZAXcZZAcZZAPcZZOXcZZO",
   "cZZOPcZZEXcZZEcZZEPcZZUXcZZUcZZUPcZZURXcZZURcZZYTcZZYXcZZYcZZYPcZZYRXcZZYRcNZITcNZIXcNZIcNZIP",
   "cNZIEXcNZIEcNZIEPcNZATcNZAXcNZAcNZAPcNZUOXcNZUOcNZOXcNZOPcNZEXcNZEcNZUXcNZUcNZUPcNZURXcNZUR",
   "cNZYTcNZYXcNZYcNZYPcNZYRXcNZYRcSITcSIXcSIcSIPcSIEXcSIEcSIEPcSATcSAXcSAcSAPcSUOXcSUOcSUOPcSOT",
   "cSOXcSOcSOPcSEXcSEcSEPcSUTcSUXcSUcSUPcSURXcSURcSYTcSYXcSYcSYPcSYRXcSYRcSSITcSSIXcSSIcSSIP",
   "cSSIEXcSSIEcSSIEPcSSATcSSAXcSSAcSSAPcSSOTcSSOXcSSOcSSOPcSSEXcSSEcSSEPcSSUTcSSUXcSSUcSSUPcSSYT",
   "cSSYXcSSYcSSYPcSSYRXcSSYRcZHATcZHAXcZHAcZHAPcZHUOXcZHUOcZHUOPcZHOTcZHOXcZHOcZHOPcZHETcZHEXcZHE",
   "cZHEPcZHUTcZHUXcZHUcZHUPcZHURXcZHURcZHYTcZHYXcZHYcZHYPcZHYRXcZHYRcCHATcCHAXcCHAcCHAPcCHUOT",
   "cCHUOXcCHUOcCHUOPcCHOTcCHOXcCHOcCHOPcCHETcCHEXcCHEcCHEPcCHUXcCHUcCHUPcCHURXcCHURcCHYTcCHYXcCHY",
   "cCHYPcCHYRXcCHYRcRRAXcRRAcRRUOXcRRUOcRROTcRROXcRROcRROPcRRETcRREXcRREcRREPcRRUTcRRUXcRRUcRRUP",
   "cRRURXcRRURcRRYTcRRYXcRRYcRRYPcRRYRXcRRYRcNRATcNRAXcNRAcNRAPcNROXcNROcNROPcNRETcNREXcNREcNREP",
   "cNRUTcNRUXcNRUcNRUPcNRURXcNRURcNRYTcNRYXcNRYcNRYPcNRYRXcNRYRcSHATcSHAXcSHAcSHAPcSHUOXcSHUO",
   "cSHUOPcSHOTcSHOXcSHOcSHOPcSHETcSHEXcSHEcSHEPcSHUTcSHUXcSHUcSHUPcSHURXcSHURcSHYTcSHYXcSHYcSHYP",
   "cSHYRXcSHYRcRATcRAXcRAcRAPcRUOXcRUOcRUOPcROTcROXcROcROPcREXcREcREPcRUTcRUXcRUcRUPcRURXcRURcRYT",
   "cRYXcRYcRYPcRYRXcRYRcJITcJIXcJIcJIPcJIETcJIEXcJIEcJIEPcJUOTcJUOXcJUOcJUOPcJOTcJOXcJOcJOPcJUT",
   "cJUXcJUcJUPcJURXcJURcJYTcJYXcJYcJYPcJYRXcJYRcQITcQIXcQIcQIPcQIETcQIEXcQIEcQIEPcQUOTcQUOXcQUO",
   "cQUOPcQOTcQOXcQOcQOPcQUTcQUXcQUcQUPcQURXcQURcQYTcQYXcQYcQYPcQYRXcQYRcJJITcJJIXcJJIcJJIPcJJIET",
   "cJJIEXcJJIEcJJIEPcJJUOXcJJUOcJJUOPcJJOTcJJOXcJJOcJJOPcJJUTcJJUXcJJUcJJUPcJJURXcJJURcJJYTcJJYX",
   "cJJYcJJYPcNJITcNJIXcNJIcNJIPcNJIETcNJIEXcNJIEcNJIEPcNJUOXcNJUOcNJOTcNJOXcNJOcNJOPcNJUXcNJU",
   "cNJUPcNJURXcNJURcNJYTcNJYXcNJYcNJYPcNJYRXcNJYRcNYITcNYIXcNYIcNYIPcNYIETcNYIEXcNYIEcNYIEPcNYUOX",
   "cNYUOcNYUOPcNYOTcNYOXcNYOcNYOPcNYUTcNYUXcNYUcNYUPcXITcXIXcXIcXIPcXIETcXIEXcXIEcXIEPcXUOXcXUO",
   "cXOTcXOXcXOcXOPcXYTcXYXcXYcXYPcXYRXcXYRcYITcYIXcYIcYIPcYIETcYIEXcYIEcYIEPcYUOTcYUOXcYUOcYUOP",
   "cYOTcYOXcYOcYOPcYUTcYUXcYUcYUPcYURXcYURcYYTcYYXcYYcYYPcYYRXcYYR",
   "A490bRADICAL QOTcLIcKITcNYIPcCYPcSSIcGGOPcGEPcMIcHXITcLYRcBBUTcMOPcYOcPUTcHXUOcTATcGAcZUPcCYT",
   "cDDURcBURcGGUOcNYOPcTUcOPcJJUTcZOTcPYTcHMOcYITcVURcSHYcVEPcZAcJOcNZUPcJJYcGOTcJJIEcWOcDUcSHUR",
   "cLIEcCYcCUOPcCIPcHXOPcSHATcZURcSHOPcCHEcZZIETcNBIEcKE",
   "A4D0aLISU !BAcPAcPHAcDAcTAcTHAcGAcKAcKHAcJAcCAcCHAcDZAcTSAcTSHAcMAcNAcLAcSAcZHAcZAcNGAcHAcXA",
   "cHHAcFAcWAcSHAcYAcGHAcAcAEcEcEUcIcOcUcUEcUHcOEcTONE MYA TIdNA POdMYA CYAeBOeNAeJEU",
   "bPUNCTUATION COMMAcFULL STOPaVAI SYLLABLE EEcEENcHEEcWEEcWEENcPEEcBHEEcBEEcMBEEcKPEEcMGBEE",
   "cGBEEcFEEcVEEcTEEcTHEEcDHEEcDHHEEcLEEcREEcDEEcNDEEcSEEcSHEEcZEEcZHEEcCEEcJEEcNJEEcYEEcKEE",
   "cNGGEEcGEEcMEEcNEEcNYEEcIcINcHIcHINcWIcWINcPIcBHIcBIcMBIcKPIcMGBIcGBIcFIcVIcTIcTHIcDHIcDHHIcLI",
   "cRIcDIcNDIcSIcSHIcZIcZHIcCIcJIcNJIcYIcKIcNGGIcGIcMIcNIcNYIcAcANcNGANcHAcHANcWAcWANcPAcBHAcBA",
   "cMBAcKPAcKPANcMGBAcGBAcFAcVAcTAcTHAcDHAcDHHAcLAcRAcDAcNDAcSAcSHAcZAcZHAcCAcJAcNJAcYAcKAcKAN",
   "cNGGAcGAcMAcNAcNYAcOOcOONcHOOcWOOcWOONcPOOcBHOOcBOOcMBOOcKPOOcMGBOOcGBOOcFOOcVOOcTOOcTHOOcDHOO",
   "cDHHOOcLOOcROOcDOOcNDOOcSOOcSHOOcZOOcZHOOcCOOcJOOcNJOOcYOOcKOOcNGGOOcGOOcMOOcNOOcNYOOcUcUNcHU",
   "cHUNcWUcWUNcPUcBHUcBUcMBUcKPUcMGBUcGBUcFUcVUcTUcTHUcDHUcDHHUcLUcRUcDUcNDUcSUcSHUcZUcZHUcCUcJU",
   "cNJUcYUcKUcNGGUcGUcMUcNUcNYUcOcONcNGONcHOcHONcWOcWONcPOcBHOcBOcMBOcKPOcMGBOcGBOcGBONcFOcVOcTO",
   "cTHOcDHOcDHHOcLOcROcDOcNDOcSOcSHOcZOcZHOcCOcJOcNJOcYOcKOcNGGOcGOcMOcNOcNYOcEcENcNGENcHEcHENcWE",
   "cWENcPEcBHEcBEcMBEcKPEcKPENcMGBEcGBEcGBENcFEcVEcTEcTHEcDHEcDHHEcLEcREcDEcNDEcSEcSHEcZEcZHEcCE",
   "cJEcNJEcYEcKEcNGGEcNGGENcGEcGENcMEcNEcNYEcNGcLENGTHENERbCOMMAbFULL STOPbQUESTION p",
   "bSYLLABLE NDOLE FAdKAdSOObmFEENGcKEENGcTINGcNIIcBANGcFAAcTAAcDANGcDOONGcKUNGcTONGcDO-OcJONG",
   "bDIGIT ZEROcONEcwc]cFOURcFIVEcSIXcSEVENcEIGHTcNINEbSYLLABLE NDOLE MAdDO",
   "A640aCYRILLIC $!ZEMLYAb%!ZEMLYAb$!DZELOb%!DZELOb$!REVERSED DZEb%!REVERSED DZEb$!IOTAb%!IOTA",
   "b$!DJERVb%!DJERVb$!MONOGRAPH UKb%!MONOGRAPH UKb$!BROAD OMEGAb%!BROAD OMEGAb$!NEUTRAL YER",
   "b%!NEUTRAL YERb$!YERU #BACK YERb%!YERU #BACK YERb$!IOTIFIED YATb%!IOTIFIED YATb$!REVERSED YU",
   "b%!REVERSED YUb$!IOTIFIED Ab%!IOTIFIED Ab$!CLOSED LITTLE YUSb%!CLOSED LITTLE YUSb$!BLENDED YUS",
   "b%!BLENDED YUSb$!IOTIFIED CLOSED LITTLE YUSb%!IOTIFIED CLOSED LITTLE YUSb$!YNb%!YN",
   "b$!REVERSED TSEb%!REVERSED TSEb$!SOFT DEb%!SOFT DEb$!SOFT ELb%!SOFT ELb$!SOFT EMb%!SOFT EM",
   "b$!MONOCULAR Ob%!MONOCULAR Ob$!BINOCULAR Ob%!BINOCULAR Ob$!:MONOCULAR Ob%!:MONOCULAR O",
   "b!MULTIOCULAR OaCOMBINING CYRILLIC VZMETcTEN MILLIONS )crMILLIONS )cuMILLIONS )",
   "aSLAVONIC ASTERISKaCOMBINING CYRILLIC !UKRAINIAN IEdIdYIdUdHARD )dYERUdSOFT )dOMEGAcKAVYKA",
   "cPAYEROKaCYRILLIC KAVYKAbPAYEROKb$!DWEb%!DWEb$!DZWEb%!DZWEb$!ZHWEb%!ZHWEb$!CCHEb%!CCHEb$!DZZE",
   "b%!DZZEb$!TE #oHOOKb%!TE #oHOOKb$!TWEb%!TWEb$!TSWEb%!TSWEb$!TSSEb%!TSSEb$!TCHEb%!TCHEb$!HWE",
   "b%!HWEb$!SHWEb%!SHWEb$!:Ob%!:Ob$!CROSSED Ob%!CROSSED OaMODIFIER !CYRILLIC HARD )dSOFT )",
   "aCOMBINING CYRILLIC !EFdIOTIFIED EaBAMUM !AcKAcUcKUcEEcREEcTAEcOcNYIcIcLAcPAcRIIcRIEEcLEEEE",
   "cMEEEEcTAAcNDAAcNJAEMcMcSUUcMUcSHIIcSIcSHEUXcSEUXcKYEEcKETcNUAEcNUcNJUAEcYOQcSHUcYUQcYAcNSHA",
   "cKEUXcPEUXcNJEEcNTEEcPUEcWUEcPEEcFEEcRUcLUcMIcNIcREUXcRAEcKENcNGKWAENcNGGAcNGAcSHOcPUAEcFUcFOM",
   "cWAcNAcLIcPIcLOQcKOcMBENcRENcMENcMAcTIcKIcMOcMBAAcTETcKPAcTENcNTUUcSAMBAcFAAMAEcKOVUUcKOGHOM",
   "bCOMBINING pKOQNDONdTUKWENTISbNJAEMLIbFULL STOPbCOLONbCOMMAbSEMICOLONbQUESTION p",
   "A700aMODIFIER !CHINESE TONE YIN PINGeYANG PINGeYIN SHANGeYANG SHANGeYIN QUeYANG QUeYIN RU",
   "eYANG RUcEXTRA-HIGH DOTTED TONE BARcHIGH DOTTED TONE BARcMID DOTTED TONE BAR",
   "cLOW DOTTED TONE BARcEXTRA-LOW DOTTED TONE BARcEXTRA-HIGH DOTTED LEFT-STEM TONE BAR",
   "cHIGH DOTTED LEFT-STEM TONE BARcMID DOTTED LEFT-STEM TONE BARcLOW DOTTED LEFT-STEM TONE BAR",
   "cEXTRA-LOW DOTTED LEFT-STEM TONE BARcEXTRA-HIGH LEFT-STEM TONE BARcHIGH LEFT-STEM TONE BAR",
   "cMID LEFT-STEM TONE BARcLOW LEFT-STEM TONE BARcEXTRA-LOW LEFT-STEM TONE BARcv@BARdSLASHdnBAR",
   "cLOWER *CORNER ANGLEcRAISED UP &dDOWN &dEXCLAMATION pdINVERTED EXCLAMATION p",
   "cLOW INVERTED EXCLAMATION pcSTRESS ;HIGH TONEeLOW TONEaLATIN $!EGYPTOLOGICAL ALEF",
   "b%!EGYPTOLOGICAL ALEFb$!EGYPTOLOGICAL AINb%!EGYPTOLOGICAL AINb$!HENGb%!HENGb$!TZb%!TZ",
   "b$!TRESILLOb%!TRESILLOb$!CUATRILLOb%!CUATRILLOb$!CUATRILLO #COMMAb%!CUATRILLO #COMMAb!%$FeS",
   "b$!AAb%!AAb$!AOb%!AOb$!AUb%!AUb$!AVb%!AVb$!AV #nBARb%!AV #nBARb$!AYb%!AYb$!REVERSED C #v",
   "b%!REVERSED C #vb$!K #~b%!K #~b$!K #DIAGONAL ~b%!K #DIAGONAL ~b$!K #~;DIAGONAL ~",
   "b%!K #~;DIAGONAL ~b$!BROKEN Lb%!BROKEN Lb$!L #HIGH ~b%!L #HIGH ~b$!O #LONG ~OVERLAY",
   "b%!O #LONG ~OVERLAYb$!O #LOOPb%!O #LOOPb$!OOb%!OOb$!P #~THROUGH DESCENDER",
   "b%!P #~THROUGH DESCENDERb$!P #FLOURISHb%!P #FLOURISHb$!P #SQUIRREL TAILb%!P #SQUIRREL TAIL",
   "b$!Q #~THROUGH DESCENDERb%!Q #~THROUGH DESCENDERb$!Q #DIAGONAL ~b%!Q #DIAGONAL ~b$!R ROTUNDA",
   "b%!R ROTUNDAb$!RUM ROTUNDAb%!RUM ROTUNDAb$!V #DIAGONAL ~b%!V #DIAGONAL ~b$!VYb%!VY",
   "b$!VISIGOTHIC Zb%!VISIGOTHIC Zb$!THORN #~b%!THORN #~b$!THORN #~THROUGH DESCENDER",
   "b%!THORN #~THROUGH DESCENDERb$!VENDb%!VENDb$!ETb%!ETb$!ISb%!ISb$!CONb%!CONaMODIFIER !US",
   "aLATIN %!DUMdLUMdMUMdNUMdRUMb!%$RUMb%!TUMdUMb$!INSULAR Db%!INSULAR Db$!INSULAR Fb%!INSULAR F",
   "b$!INSULAR GdTURNED INSULAR Gb%!TURNED INSULAR Gb$!TURNED Lb%!TURNED Lb$!INSULAR Rb%!INSULAR R",
   "b$!INSULAR Sb%!INSULAR Sb$!INSULAR Tb%!INSULAR TaMODIFIER !LOW xACCENTcCOLONcSHORT EQUALS )",
   "aLATIN $!SALTILLOb%!SALTILLOb$!TURNED Hb%!L #RETROFLEX HOOK ;BELTb!SINOLOGICAL v",
   "b$!N #DESCENDERb%!N #DESCENDERb$!C #BARb%!C #BARfPALATAL HOOKdH #PALATAL HOOKb$!B #FLOURISH",
   "b%!B #FLOURISHb$!F #~b%!F #~b$!VOLAPUK AEb%!VOLAPUK AEb$!VOLAPUK OEb%!VOLAPUK OEb$!VOLAPUK UE",
   "b%!VOLAPUK UEb$!G #OBLIQUE ~b%!G #OBLIQUE ~b$!K #OBLIQUE ~b%!K #OBLIQUE ~b$!N #OBLIQUE ~",
   "b%!N #OBLIQUE ~b$!R #OBLIQUE ~b%!R #OBLIQUE ~b$!S #OBLIQUE ~b%!S #OBLIQUE ~b$!H #HOOK",
   "dREVERSED OPEN EdSCRIPT GdL #BELTd%$Ib!%$Qb$!TURNED KeTdJ #CROSSED-TAILdCHIdBETAb%!BETA",
   "b$!OMEGAb%!OMEGAb$!U #~b%!U #~b$!GLOTTAL Ab%!GLOTTAL Ab$!GLOTTAL Ib%!GLOTTAL Ib$!GLOTTAL U",
   "b%!GLOTTAL Ub$!OLD POLISH Ob%!OLD POLISH Ob$!ANGLICANA Wb%!ANGLICANA Wb$!C #PALATAL HOOK",
   "dS #HOOKdZ #PALATAL HOOKdD #SHORT ~OVERLAYb%!D #SHORT ~OVERLAYb$!S #SHORT ~OVERLAY",
   "b%!S #SHORT ~OVERLAY",
   "A7D0b$!CLOSED INSULAR Gb%!CLOSED INSULAR G",
   "A7D3d:THORN",
   "A7D5eWYNNb$!oSCOTS Sb%!oSCOTS Sb$!SIGMOID Sb%!SIGMOID S",
   "A7F2aMODIFIER !$CdFdQaLATIN $!REVERSED HALF Hb%!REVERSED HALF HbEPIGRAPHIC !SIDEWAYS I",
   "aMODIFIER !$H #~c%LIGATURE OEaLATIN !%$TURNED MbEPIGRAPHIC !REVERSED FePdINVERTED MdI LONGA",
   "dARCHAIC MaSYLOTI NAGRI !AdIc)DVISVARAc!UdEdOc)HASANTAc!KOdKHOdGOdGHOc)ANUSVARAc!COdCHOdJOdJHO",
   "dTTOdTTHOdDDOdDDHOdTOdTHOdDOdDHOdNOdPOdPHOdBOdBHOdMOdROdLOdRROdSOdHOcVOWEL )AeIeUeEeOO",
   "cPOETRY MARK-1dMARK-2dMARK-3dMARK-4c)ALTERNATE HASANTA",
   "A830aNORTH INDIC FRACTION ONE QUARTEReHALFd]QUARTERSdONE SIXTEENTHeEIGHTHd]SIXTEENTHS",
   "cQUARTER pcPLACEHOLDER pcRUPEE pcQUANTITY p",
   "A840aPHAGS-PA !KAcKHAcGAcNGAcCAcCHAcJAcNYAcTAcTHAcDAcNAcPAcPHAcBAcMAcTSAcTSHAcDZAcWAcZHAcZAc%A",
   "cYAcRAcLAcSHAcSAcHAcAcIcUcEcOcQAcXAcFAcGGAcEEbSUBJOINED !WAdYAb!TTAcTTHAcDDAcNNAcALTERNATE YA",
   "cVOICELESS SHAcVOICED HAcASPIRATED FAbSUBJOINED !RAbSUPERFIXED !RAb!CANDRABINDUbSINGLE HEAD p",
   "b:HEAD pbpSHADc:SHAD",
   "A880aSAURASHTRA )ANUSVARAcVISARGAb!AcAAcIcIIcUcUUcVOCALIC RdRRdLdLLcEcEEcAIcOcOOcAUcKAcKHAcGA",
   "cGHAcNGAcCAcCHAcJAcJHAcNYAcTTAcTTHAcDDAcDDHAcNNAcTAcTHAcDAcDHAcNAcPAcPHAcBAcBHAcMAcYAcRAcLAcVA",
   "cSHAcSSAcSAcHAcLLAbCONSONANT )HAARUbVOWEL )AAdIdIIdUdUUdVOCALIC ReRReLeLLdEdEEdAIdOdOOdAU",
   "b)VIRAMAcCANDRABINDU",
   "A8CEbDANDAb:DANDAbDIGIT ZEROcONEcwc]cFOURcFIVEcSIXcSEVENcEIGHTcNINE",
   "A8E0aCOMBINING DEVANAGARI DIGIT ZEROdONEdwd]dFOURdFIVEdSIXdSEVENdEIGHTdNINEc!AdUdKAdNAdPAdRA",
   "dVIc)AVAGRAHAaDEVANAGARI )SPACING CANDRABINDUcCANDRABINDU VIRAMAc:CANDRABINDU VIRAMA",
   "cCANDRABINDU wd]dAVAGRAHAcPUSHPIKAbGAP FILLERbCARETbHEADSTROKEb)SIDDHAMbJAIN OMb!AYbVOWEL )AY",
   "aKAYAH LI DIGIT ZEROdONEdwd]dFOURdFIVEdSIXdSEVENdEIGHTdNINEc!KAdKHAdGAdNGAdSAdSHAdZAdNYAdTA",
   "dHTAdNAdPAdPHAdMAdDAdBAdRAdYAdLAdWAdTHAdHAdVAdCAdAdOEdIdOOcVOWEL UEdEdUdEEdOcTONE PLOPHUdCALYA",
   "ePLOPHUc)CWIdSHYAaREJANG !KAcGAcNGAcTAcDAcNAcPAcBAcMAcCAcJAcNYAcSAcRAcLAcYAcWAcHAcMBAcNGGAcNDA",
   "cNYJAcAbVOWEL )IdUdEdAIdOdAUdEUdEAbCONSONANT )NGdNdRdHbVIRAMA",
   "A95FbSECTION paHANGUL CHOSEONG TIKEUT-MIEUMcTIKEUT-PIEUPcTIKEUT-SIOScTIKEUT-CIEUCcRIEUL-KIYEOK",
   "cRIEUL-SSANGKIYEOKcRIEUL-TIKEUTcRIEUL-SSANGTIKEUTcRIEUL-MIEUMcRIEUL-PIEUPcRIEUL-SSANGPIEUP",
   "cRIEUL-KAPYEOUNPIEUPcRIEUL-SIOScRIEUL-CIEUCcRIEUL-KHIEUKHcMIEUM-KIYEOKcMIEUM-TIKEUTcMIEUM-SIOS",
   "cPIEUP-SIOS-THIEUTHcPIEUP-KHIEUKHcPIEUP-HIEUHcSSANGSIOS-PIEUPcIEUNG-RIEULcIEUNG-HIEUH",
   "cSSANGCIEUC-HIEUHcSSANGTHIEUTHcPHIEUPH-HIEUHcHIEUH-SIOScSSANGYEORINHIEUH",
   "A980aJAVANESE )PANYANGGAcCECAKcLAYARcWIGNYANb!AcI KAWIcIcIIcUcPA CEREKcNGA LELETeRASWADIcEcAI",
   "cOcKAdSASAKdMURDAcGAdMURDAcNGAcCAdMURDAcJAcNYA MURDAcJA MAHAPRANAcNYAcTTAdMAHAPRANAcDDA",
   "dMAHAPRANAcNA MURDAcTAdMURDAcDAdMAHAPRANAcNAcPAdMURDAcBAdMURDAcMAcYAcRAdAGUNGcLAcWAcSA MURDA",
   "dMAHAPRANAcSAcHAb)CECAK TELUbVOWEL )TARUNGdTOLONGdWULUeMELIKdSUKUeMENDUTdTALINGdDIRGA MURE",
   "dPEPETbCONSONANT )KERETdPENGKALdCAKRAbPANGKONb<RERENGGANb*RERENGGANbPADA ANDAPcMADYAcLUHUR",
   "cWINDUcPANGKATcLINGSAcLUNGSIcADEGdADEGcPISELEHbTURNED PADA PISELEH",
   "A9CFbPANGRANGKEPbDIGIT ZEROcONEcwc]cFOURcFIVEcSIXcSEVENcEIGHTcNINE",
   "A9DEbPADA TIRTA TUMETEScISEN-ISENaMYANMAR !SHAN GHAdCHAdJHAdNNAdBHAb)SHAN SAW",
   "bMODIFIER !SHAN REDUPLICATIONb!TAI LAING NYAeFAeGAeGHAeJAeJHAeDDAeDDHAeNNA",
   "bTAI LAING DIGIT ZEROeONEewe]eFOUReFIVEeSIXeSEVENeEIGHTeNINEb!TAI LAING LLAeDAeDHAeBAeBHA",
   "AA00aCHAM !AcIcUcEcAIcOcKAcKHAcGAcGHAcNGUEcNGAcCHAcCHHAcJAcJHAcNHUEcNHAcNHJAcTAcTHAcDAcDHAcNUE",
   "cNAcDDAcPAcPPAcPHAcBAcBHAcMUEcMAcBBAcYAcRAcLAcVAcSSAcSAcHAbVOWEL )AAdIdIIdEIdUdOEdOdAIdAUdUE",
   "bCONSONANT )YAdRAdLAdWA",
   "AA40b!=KdGdNGbCONSONANT )=NGb!=CHdTdNdPdYdRdLdSSbCONSONANT )=MeH",
   "AA50bDIGIT ZEROcONEcwc]cFOURcFIVEcSIXcSEVENcEIGHTcNINE",
   "AA5CbPUNCTUATION SPIRALcDANDAc:DANDAcTRIPLE DANDAaMYANMAR !KHAMTI GAdCAdCHAdJAdJHAdNYAdTTA",
   "dTTHAdDDAdDDHAdDHAdNAdSAdHAdHHAdFAbMODIFIER !KHAMTI REDUPLICATIONb!KHAMTI XAdZAdRA",
   "bLOGOGRAM KHAMTI OAYdQNdHMbmAITON EXCLAMATIONdONEdwb!AITON RAb)PAO KAREN TONEcTAI LAING TONE-2",
   "eTONE-5b!SHWE PALAUNG CHAeSHAaTAI VIET !LOW KOdHIGH KOdLOW KHOdHIGH KHOdLOW KHHOdHIGH KHHO",
   "dLOW GOdHIGH GOdLOW NGOdHIGH NGOdLOW COdHIGH COdLOW CHOdHIGH CHOdLOW SOdHIGH SOdLOW NYO",
   "dHIGH NYOdLOW DOdHIGH DOdLOW TOdHIGH TOdLOW THOdHIGH THOdLOW NOdHIGH NOdLOW BOdHIGH BOdLOW PO",
   "dHIGH POdLOW PHOdHIGH PHOdLOW FOdHIGH FOdLOW MOdHIGH MOdLOW YOdHIGH YOdLOW ROdHIGH ROdLOW LO",
   "dHIGH LOdLOW VOdHIGH VOdLOW HOdHIGH HOdLOW OdHIGH OcMAI KANGcVOWEL AAdIdUEdUdEdOcMAI KHIT",
   "cVOWEL IAdUEAdUAdAUEdAYdANdAMcTONE MAI EKeNUENGeTHOeSONG",
   "AADBcmKONdNUENGdSAMdHO HOIdKOI KOIaMEETEI MAYEK !EdOdCHAdNYAdTTAdTTHAdDDAdDDHAdNNAdSHAdSSA",
   "cVOWEL )IIeUUeAAIeAUeAAUcCHEIKHANcAHANG KHUDAMcANJIcSYLLABLE REPETITION pcWORD REPETITION p",
   "cVOWEL )VISARGAcVIRAMA",
   "AB01aETHIOPIC SYLLABLE TTHUcTTHIcTTHAAcTTHEEcTTHEcTTHO",
   "AB09cDDHUcDDHIcDDHAAcDDHEEcDDHEcDDHO",
   "AB11cDZUcDZIcDZAAcDZEEcDZEcDZO",
   "AB20cCCHHAcCCHHUcCCHHIcCCHHAAcCCHHEEcCCHHEcCCHHO",
   "AB28cBBAcBBUcBBIcBBAAcBBEEcBBEcBBO",
   "AB30aLATIN %!BARRED ALPHAdA REVERSED-SCHWAdBLACKLETTER EdBARRED EdE #FLOURISHdLENIS F",
   "dSCRIPT G #CROSSED-TAILdL #INVERTED LAZY Sf:oTILDEfoRINGdM #CROSSED-TAILdN #CROSSED-TAIL",
   "dENG #CROSSED-TAILdBLACKLETTER Of#~dOPEN O #~dINVERTED OEdTURNED OE #~gn~eO OPEN-Og#~",
   "dSTIRRUP Rb!%$R #*LEGb%!R WITHOUT HANDLEd:RdR #CROSSED-TAILd:R #CROSSED-TAILdSCRIPT Rf#RING",
   "dBASELINE ESHdU #SHORT *LEGeBAR #SHORT *LEGdUIdTURNED UIdU #<HOOKdCHIe#LOW *RINGg<SERIF",
   "dX #LOW *RINGfLONG <LEGi;LOW *RINGi#SERIFdY #SHORT *LEGaMODIFIER BREVE #INVERTED BREVEb!%HENG",
   "dL #INVERTED LAZY SfoTILDEdU #<HOOKaLATIN %!SAKHA YATdIOTIFIED EdOPEN OEdUOdINVERTED ALPHA",
   "aGREEK !%$OMEGAaLATIN %!DZ DIGRAPH #RETROFLEX HOOKdTS DIGRAPH #RETROFLEX HOOKdTURNED R #oTILDE",
   "aMODIFIER !%TURNED Wc<TACKc*TACK",
   "AB70aCHEROKEE %!AdEdIdOdUdVdGAdKAdGEdGIdGOdGUdGVdHAdHEdHIdHOdHUdHVdLAdLEdLIdLOdLUdLVdMAdMEdMI",
   "dMOdMUdNAdHNAdNAHdNEdNIdNOdNUdNVdQUAdQUEdQUIdQUOdQUUdQUVdSAdSdSEdSIdSOdSUdSVdDAdTAdDEdTEdDIdTI",
   "dDOdDUdDVdDLAdTLAdTLEdTLIdTLOdTLUdTLVdTSAdTSEdTSIdTSOdTSUdTSVdWAdWEdWIdWOdWUdWVdYA",
   "aMEETEI MAYEK !KOKdSAMdLAIdMITdPAdNAdCHILdTILdKHOUdNGOUdTHOUdWAIdYANGdHUKdUNdIdPHAMdATIYAdGOK",
   "dJHAMdRAIdBAdJILdDILdGHOUdDHOUdBHAMdKOK LONSUMdLAI LONSUMdMIT LONSUMdPA LONSUMdNA LONSUM",
   "dTIL LONSUMdNGOU LONSUMdI LONSUMcVOWEL )ONAPeINAPeANAPeYENAPeSOUNAPeUNAPeCHEINAPeNUNGcCHEIKHEI",
   "cLUM IYEKcAPUN IYEK",
   "ABF0cDIGIT ZEROdONEdwd]dFOURdFIVEdSIXdSEVENdEIGHTdNINE",
   "D7B0aHANGUL JUNGSEONG O-YEOcO-O-IcYO-AcYO-AEcYO-EOcU-YEOcU-I-IcYU-AEcYU-OcEU-AcEU-EOcEU-EcEU-O",
   "cI-YA-OcI-YAEcI-YEOcI-YEcI-O-IcI-YOcI-YUcI-IcARAEA-AcARAEA-E",
   "D7CBbJONGSEONG NIEUN-RIEULcNIEUN-CHIEUCHcSSANGTIKEUTcSSANGTIKEUT-PIEUPcTIKEUT-PIEUP",
   "cTIKEUT-SIOScTIKEUT-SIOS-KIYEOKcTIKEUT-CIEUCcTIKEUT-CHIEUCHcTIKEUT-THIEUTHcRIEUL-SSANGKIYEOK",
   "cRIEUL-KIYEOK-HIEUHcSSANGRIEUL-KHIEUKHcRIEUL-MIEUM-HIEUHcRIEUL-PIEUP-TIKEUT",
   "cRIEUL-PIEUP-PHIEUPHcRIEUL-YESIEUNGcRIEUL-YEORINHIEUH-HIEUHcKAPYEOUNRIEULcMIEUM-NIEUN",
   "cMIEUM-SSANGNIEUNcSSANGMIEUMcMIEUM-PIEUP-SIOScMIEUM-CIEUCcPIEUP-TIKEUTcPIEUP-RIEUL-PHIEUPH",
   "cPIEUP-MIEUMcSSANGPIEUPcPIEUP-SIOS-TIKEUTcPIEUP-CIEUCcPIEUP-CHIEUCHcSIOS-MIEUM",
   "cSIOS-KAPYEOUNPIEUPcSSANGSIOS-KIYEOKcSSANGSIOS-TIKEUTcSIOS-PANSIOScSIOS-CIEUCcSIOS-CHIEUCH",
   "cSIOS-THIEUTHcSIOS-HIEUHcPANSIOS-PIEUPcPANSIOS-KAPYEOUNPIEUPcYESIEUNG-MIEUMcYESIEUNG-HIEUH",
   "cCIEUC-PIEUPcCIEUC-SSANGPIEUPcSSANGCIEUCcPHIEUPH-SIOScPHIEUPH-THIEUTH",
   "FB00aLATIN %LIGATURE FFdFIdFLdFFIdFFLdLONG S TdST",
   "FB13aARMENIAN %LIGATURE MEN NOWeECHeINIdVEW NOWdMEN XEH",
   "FB1DaHEBREW !YOD #HIRIQbPOINT JUDEO-SPANISH VARIKAbLIGATURE YIDDISH YOD YOD PATAH",
   "b!ALTERNATIVE AYINcWIDE ALEFdDALETdHEdKAFdLAMEDd=MEMdRESHdTAVcALTERNATIVE PLUS )cSHIN #SHIN v",
   "eSIN veDAGESH ;SHIN vgSIN vcALEF #PATAHeQAMATSeMAPIQcBET #DAGESHcGIMEL #DAGESHcDALET #DAGESH",
   "cHE #MAPIQcVAV #DAGESHcZAYIN #DAGESH",
   "FB38cTET #DAGESHcYOD #DAGESHc=KAF #DAGESHcKAF #DAGESHcLAMED #DAGESH",
   "FB3EcMEM #DAGESH",
   "FB40cNUN #DAGESHcSAMEKH #DAGESH",
   "FB43c=PE #DAGESHcPE #DAGESH",
   "FB46cTSADI #DAGESHcQOF #DAGESHcRESH #DAGESHcSHIN #DAGESHcTAV #DAGESHcVAV #HOLAMcBET #RAFE",
   "cKAF #RAFEcPE #RAFEbLIGATURE ALEF LAMEDaARABIC !ALEF WASLA +(e=(cBEEH +(d=(d>(dMEDIAL (cPEH +(",
   "d=(d>(dMEDIAL (cBEHEH +(d=(d>(dMEDIAL (cTTEHEH +(d=(d>(dMEDIAL (cTEHEH +(d=(d>(dMEDIAL (",
   "cTTEH +(d=(d>(dMEDIAL (cVEH +(d=(d>(dMEDIAL (cPEHEH +(d=(d>(dMEDIAL (cDYEH +(d=(d>(dMEDIAL (",
   "cNYEH +(d=(d>(dMEDIAL (cTCHEH +(d=(d>(dMEDIAL (cTCHEHEH +(d=(d>(dMEDIAL (cDDAHAL +(d=(",
   "cDAHAL +(d=(cDUL +(d=(cDDAL +(d=(cJEH +(d=(cRREH +(d=(cKEHEH +(d=(d>(dMEDIAL (cGAF +(d=(d>(",
   "dMEDIAL (cGUEH +(d=(d>(dMEDIAL (cNGOEH +(d=(d>(dMEDIAL (cNOON GHUNNA +(e=(cRNOON +(d=(d>(",
   "dMEDIAL (cHEH #YEH ,+(g=(dGOAL +(e=(e>(eMEDIAL (dDOACHASHMEE +(e=(e>(eMEDIAL (cYEH BARREE +(",
   "e=(e#HAMZA ,+(h=(bmv,d[cwDOTS ,e[c]DOTS ,e[ePOINTING q,g[cFOUR DOTS ,e[c:@BAR [",
   "cwDOTS VERTICALLY ,f[cRINGc%TAH ,e[cWASLA ,",
   "FBD3b!NG +(d=(d>(dMEDIAL (cU +(d=(cOE +(d=(cYU +(d=(cU #HAMZA ,+(cVE +(d=(cKIRGHIZ OE +(e=(",
   "dYU +(e=(cE +(d=(d>(dMEDIAL (cUIGHUR KAZAKH KIRGHIZ ALEF MAKSURA >(hMEDIAL (",
   "bLIGATURE YEH #HAMZA ,#ALEF +(i=(hAE +(i=(hWAW +(i=(hU +(i=(hOE +(i=(hYU +(i=(hE +(i=(i>(",
   "cUIGHUR KIRGHIZ YEH #HAMZA ,#ALEF MAKSURA +(l=(l>(b!FARSI YEH +(e=(e>(eMEDIAL (",
   "bLIGATURE YEH #HAMZA ,#JEEM +(hHAH +(hMEEM +(hALEF MAKSURA +(hYEH +(cBEH #JEEM +(eHAH +(",
   "eKHAH +(eMEEM +(eALEF MAKSURA +(eYEH +(cTEH #JEEM +(eHAH +(eKHAH +(eMEEM +(eALEF MAKSURA +(",
   "eYEH +(cTHEH #JEEM +(eMEEM +(eALEF MAKSURA +(eYEH +(cJEEM #HAH +(eMEEM +(cHAH #JEEM +(eMEEM +(",
   "cKHAH #JEEM +(eHAH +(eMEEM +(cSEEN #JEEM +(eHAH +(eKHAH +(eMEEM +(cSAD #HAH +(eMEEM +(",
   "cDAD #JEEM +(eHAH +(eKHAH +(eMEEM +(cTAH #HAH +(eMEEM +(cZAH #MEEM +(cAIN #JEEM +(eMEEM +(",
   "cGHAIN #JEEM +(eMEEM +(cFEH #JEEM +(eHAH +(eKHAH +(eMEEM +(eALEF MAKSURA +(eYEH +(cQAF #HAH +(",
   "eMEEM +(eALEF MAKSURA +(eYEH +(cKAF #ALEF +(eJEEM +(eHAH +(eKHAH +(eLAM +(eMEEM +(",
   "eALEF MAKSURA +(eYEH +(cLAM #JEEM +(eHAH +(eKHAH +(eMEEM +(eALEF MAKSURA +(eYEH +(",
   "cMEEM #JEEM +(eHAH +(eKHAH +(eMEEM +(eALEF MAKSURA +(eYEH +(cNOON #JEEM +(eHAH +(eKHAH +(",
   "eMEEM +(eALEF MAKSURA +(eYEH +(cHEH #JEEM +(eMEEM +(eALEF MAKSURA +(eYEH +(cYEH #JEEM +(",
   "eHAH +(eKHAH +(eMEEM +(eALEF MAKSURA +(eYEH +(cTHAL #SUPERSCRIPT ALEF +(",
   "cREH #SUPERSCRIPT ALEF +(cALEF MAKSURA #SUPERSCRIPT ALEF +(cSHADDA #DAMMATAN +(eKASRATAN +(",
   "eFATHA +(eDAMMA +(eKASRA +(eSUPERSCRIPT ALEF +(cYEH #HAMZA ,#REH =(hZAIN =(hMEEM =(hNOON =(",
   "hALEF MAKSURA =(hYEH =(cBEH #REH =(eZAIN =(eMEEM =(eNOON =(eALEF MAKSURA =(eYEH =(cTEH #REH =(",
   "eZAIN =(eMEEM =(eNOON =(eALEF MAKSURA =(eYEH =(cTHEH #REH =(eZAIN =(eMEEM =(eNOON =(",
   "eALEF MAKSURA =(eYEH =(cFEH #ALEF MAKSURA =(eYEH =(cQAF #ALEF MAKSURA =(eYEH =(cKAF #ALEF =(",
   "eLAM =(eMEEM =(eALEF MAKSURA =(eYEH =(cLAM #MEEM =(eALEF MAKSURA =(eYEH =(cMEEM #ALEF =(",
   "eMEEM =(cNOON #REH =(eZAIN =(eMEEM =(eNOON =(eALEF MAKSURA =(eYEH =(",
   "cALEF MAKSURA #SUPERSCRIPT ALEF =(cYEH #REH =(eZAIN =(eMEEM =(eNOON =(eALEF MAKSURA =(eYEH =(",
   "eHAMZA ,#JEEM >(hHAH >(hKHAH >(hMEEM >(hHEH >(cBEH #JEEM >(eHAH >(eKHAH >(eMEEM >(eHEH >(",
   "cTEH #JEEM >(eHAH >(eKHAH >(eMEEM >(eHEH >(cTHEH #MEEM >(cJEEM #HAH >(eMEEM >(cHAH #JEEM >(",
   "eMEEM >(cKHAH #JEEM >(eMEEM >(cSEEN #JEEM >(eHAH >(eKHAH >(eMEEM >(cSAD #HAH >(eKHAH >(",
   "eMEEM >(cDAD #JEEM >(eHAH >(eKHAH >(eMEEM >(cTAH #HAH >(cZAH #MEEM >(cAIN #JEEM >(eMEEM >(",
   "cGHAIN #JEEM >(eMEEM >(cFEH #JEEM >(eHAH >(eKHAH >(eMEEM >(cQAF #HAH >(eMEEM >(cKAF #JEEM >(",
   "eHAH >(eKHAH >(eLAM >(eMEEM >(cLAM #JEEM >(eHAH >(eKHAH >(eMEEM >(eHEH >(cMEEM #JEEM >(eHAH >(",
   "eKHAH >(eMEEM >(cNOON #JEEM >(eHAH >(eKHAH >(eMEEM >(eHEH >(cHEH #JEEM >(eMEEM >(",
   "eSUPERSCRIPT ALEF >(cYEH #JEEM >(eHAH >(eKHAH >(eMEEM >(eHEH >(eHAMZA ,#MEEM MEDIAL (",
   "hHEH MEDIAL (cBEH #MEEM MEDIAL (eHEH MEDIAL (cTEH #MEEM MEDIAL (eHEH MEDIAL (",
   "cTHEH #MEEM MEDIAL (eHEH MEDIAL (cSEEN #MEEM MEDIAL (eHEH MEDIAL (cSHEEN #MEEM MEDIAL (",
   "eHEH MEDIAL (cKAF #LAM MEDIAL (eMEEM MEDIAL (cLAM #MEEM MEDIAL (cNOON #MEEM MEDIAL (",
   "eHEH MEDIAL (cYEH #MEEM MEDIAL (eHEH MEDIAL (cSHADDA #FATHA MEDIAL (eDAMMA MEDIAL (",
   "eKASRA MEDIAL (cTAH #ALEF MAKSURA +(eYEH +(cAIN #ALEF MAKSURA +(eYEH +(cGHAIN #ALEF MAKSURA +(",
   "eYEH +(cSEEN #ALEF MAKSURA +(eYEH +(cSHEEN #ALEF MAKSURA +(eYEH +(cHAH #ALEF MAKSURA +(eYEH +(",
   "cJEEM #ALEF MAKSURA +(eYEH +(cKHAH #ALEF MAKSURA +(eYEH +(cSAD #ALEF MAKSURA +(eYEH +(",
   "cDAD #ALEF MAKSURA +(eYEH +(cSHEEN #JEEM +(eHAH +(eKHAH +(eMEEM +(eREH +(cSEEN #REH +(",
   "cSAD #REH +(cDAD #REH +(cTAH #ALEF MAKSURA =(eYEH =(cAIN #ALEF MAKSURA =(eYEH =(",
   "cGHAIN #ALEF MAKSURA =(eYEH =(cSEEN #ALEF MAKSURA =(eYEH =(cSHEEN #ALEF MAKSURA =(eYEH =(",
   "cHAH #ALEF MAKSURA =(eYEH =(cJEEM #ALEF MAKSURA =(eYEH =(cKHAH #ALEF MAKSURA =(eYEH =(",
   "cSAD #ALEF MAKSURA =(eYEH =(cDAD #ALEF MAKSURA =(eYEH =(cSHEEN #JEEM =(eHAH =(eKHAH =(eMEEM =(",
   "eREH =(cSEEN #REH =(cSAD #REH =(cDAD #REH =(cSHEEN #JEEM >(eHAH >(eKHAH >(eMEEM >(",
   "cSEEN #HEH >(cSHEEN #HEH >(cTAH #MEEM >(cSEEN #JEEM MEDIAL (eHAH MEDIAL (eKHAH MEDIAL (",
   "cSHEEN #JEEM MEDIAL (eHAH MEDIAL (eKHAH MEDIAL (cTAH #MEEM MEDIAL (cZAH #MEEM MEDIAL (",
   "cALEF #FATHATAN =(f+(aORNATE <PARENTHESISb*PARENTHESISaARABIC LIGATURE RAHIMAHU ALLAAH",
   "cRADI ALLAAHU ANHeANHAAeANHUMeANHUMAAeANHUNNAcSALLALLAAHU ALAYHI WA-AALIHcALAYHI AS-SALAAM",
   "cALAYHIM AS-SALAAMcALAYHIMAA AS-SALAAMcALAYHI AS-SALAATU WAS-SALAAMcQUDDISA SIRRAH",
   "cSALLALLAHU ALAYHI WAAALIHEE WA-SALLAMcALAYHAA AS-SALAAMcTABAARAKA WA-TAAALAAcRAHIMAHUM ALLAAH",
   "cTEH #JEEM #MEEM >(eHAH #JEEM =(h>(gMEEM >(eKHAH #MEEM >(eMEEM #JEEM >(gHAH >(gKHAH >(",
   "cJEEM #MEEM #HAH =(h>(cHAH #MEEM #YEH =(gALEF MAKSURA =(cSEEN #HAH #JEEM >(eJEEM #HAH >(",
   "gALEF MAKSURA =(eMEEM #HAH =(h>(gJEEM >(gMEEM =(h>(cSAD #HAH #HAH =(h>(eMEEM #MEEM =(",
   "cSHEEN #HAH #MEEM =(h>(eJEEM #YEH =(eMEEM #KHAH =(h>(gMEEM =(h>(cDAD #HAH #ALEF MAKSURA =(",
   "eKHAH #MEEM =(h>(cTAH #MEEM #HAH =(h>(gMEEM >(gYEH =(cAIN #JEEM #MEEM =(eMEEM #MEEM =(h>(",
   "gALEF MAKSURA =(cGHAIN #MEEM #MEEM =(gYEH =(gALEF MAKSURA =(cFEH #KHAH #MEEM =(h>(",
   "cQAF #MEEM #HAH =(gMEEM =(cLAM #HAH #MEEM =(gYEH =(gALEF MAKSURA =(eJEEM #JEEM >(h=(",
   "eKHAH #MEEM =(h>(eMEEM #HAH =(h>(cMEEM #HAH #JEEM >(gMEEM >(gYEH =(eJEEM #HAH >(gMEEM >(",
   "eKHAH #JEEM >(gMEEM >(",
   "FD92eJEEM #KHAH >(cHEH #MEEM #JEEM >(gMEEM >(cNOON #HAH #MEEM >(gALEF MAKSURA =(eJEEM #MEEM =(",
   "h>(gALEF MAKSURA =(eMEEM #YEH =(gALEF MAKSURA =(cYEH #MEEM #MEEM =(h>(cBEH #KHAH #YEH =(",
   "cTEH #JEEM #YEH =(gALEF MAKSURA =(eKHAH #YEH =(gALEF MAKSURA =(eMEEM #YEH =(gALEF MAKSURA =(",
   "cJEEM #MEEM #YEH =(eHAH #ALEF MAKSURA =(eMEEM #ALEF MAKSURA =(cSEEN #KHAH #ALEF MAKSURA =(",
   "cSAD #HAH #YEH =(cSHEEN #HAH #YEH =(cDAD #HAH #YEH =(cLAM #JEEM #YEH =(eMEEM #YEH =(",
   "cYEH #HAH #YEH =(eJEEM #YEH =(eMEEM #YEH =(cMEEM #MEEM #YEH =(cQAF #MEEM #YEH =(",
   "cNOON #HAH #YEH =(cQAF #MEEM #HAH >(cLAM #HAH #MEEM >(cAIN #MEEM #YEH =(cKAF #MEEM #YEH =(",
   "cNOON #JEEM #HAH >(cMEEM #KHAH #YEH =(cLAM #JEEM #MEEM >(cKAF #MEEM #MEEM =(",
   "cLAM #JEEM #MEEM =(cNOON #JEEM #HAH =(cJEEM #HAH #YEH =(cHAH #JEEM #YEH =(cMEEM #JEEM #YEH =(",
   "cFEH #MEEM #YEH =(cBEH #HAH #YEH =(cKAF #MEEM #MEEM >(cAIN #JEEM #MEEM >(cSAD #MEEM #MEEM >(",
   "cSEEN #KHAH #YEH =(cNOON #JEEM #YEH =(",
   "FDCFcSALAAMUHU ALAYNAA",
   "FDF0cSALLA USED AS KORANIC STOP )+(cQALA USED AS KORANIC STOP )+(cALLAH +(cAKBAR +(",
   "cMOHAMMAD +(cSALAM +(cRASOUL +(cALAYHE +(cWASALLAM +(cSALLA +(cSALLALLAHOU ALAYHE WASALLAM",
   "cJALLAJALALOUHOUaRIAL )aARABIC LIGATURE BISMILLAH AR-RAHMAN AR-RAHEEMcSUBHAANAHU WA TAAALAA",
   "cAZZA WA JALLaVARIATION SELECTOR-1bSELECTOR-2bSELECTOR-3bSELECTOR-4bSELECTOR-5bSELECTOR-6",
   "bSELECTOR-7bSELECTOR-8bSELECTOR-9bSELECTOR-10bSELECTOR-11bSELECTOR-12bSELECTOR-13bSELECTOR-14",
   "bSELECTOR-15bSELECTOR-16aPRESENTATION (FOR @COMMAeIDEOGRAPHIC COMMAfFULL STOPeCOLONeSEMICOLON",
   "eEXCLAMATION peQUESTION pe<_LENTICULAR te*_LENTICULAR BRAKCETenELLIPSIS",
   "FE20aCOMBINING LIGATURE <HALFc*HALFb:TILDE <HALFd*HALFbMACRON <HALFc*HALFbCONJOINING MACRON",
   "bLIGATURE <HALF [c*HALF [bTILDE <HALF [c*HALF [bMACRON <HALF [c*HALF [bCONJOINING MACRON [",
   "bCYRILLIC TITLO <HALFd*HALFaPRESENTATION (FOR @wvLEADEReEM DASHeEN DASHeLOW LINEeWAVY LOW LINE",
   "e<PARENTHESISe*PARENTHESISe<CURLY te*CURLY te<TORTOISE SHELL te*TORTOISE SHELL t",
   "e<^LENTICULAR te*^LENTICULAR te<:ANGLE te*:ANGLE te<ANGLE te*ANGLE te<CORNER te*CORNER t",
   "e<_CORNER te*_CORNER taSESAME va_SESAME vaPRESENTATION (FOR @<SQUARE te*SQUARE t",
   "aDASHED OVERLINEaCENTRELINE OVERLINEaWAVY OVERLINEa:WAVY OVERLINEaDASHED LOW LINE",
   "aCENTRELINE LOW LINEaWAVY LOW LINEa%COMMAbIDEOGRAPHIC COMMAbFULL STOP",
   "FE54bSEMICOLONbCOLONbQUESTION pbEXCLAMATION pbEM DASHb<PARENTHESISb*PARENTHESISb<CURLY t",
   "b*CURLY tb<TORTOISE SHELL tb*TORTOISE SHELL tbNUMBER )bAMPERSANDbASTERISKbPLUS )bHYPHEN-MINUS",
   "bLESS-THAN )bGREATER-THAN )bEQUALS )",
   "FE68bREVERSE SOLIDUSbDOLLAR )bPERCENT )bCOMMERCIAL AT",
   "FE70aARABIC FATHATAN +(bTATWEEL #FATHATAN ,bDAMMATAN +(bTAIL FRAGMENTbKASRATAN +(",
   "FE76bFATHA +(cMEDIAL (bDAMMA +(cMEDIAL (bKASRA +(cMEDIAL (bSHADDA +(cMEDIAL (bSUKUN +(",
   "cMEDIAL (b!HAMZA +(cALEF #MADDA ,+(g=(eHAMZA ,+(g=(cWAW #HAMZA ,+(g=(cALEF #HAMZA [+(g=(",
   "cYEH #HAMZA ,+(g=(g>(gMEDIAL (cALEF +(d=(cBEH +(d=(d>(dMEDIAL (cTEH MARBUTA +(e=(d+(d=(d>(",
   "dMEDIAL (cTHEH +(d=(d>(dMEDIAL (cJEEM +(d=(d>(dMEDIAL (cHAH +(d=(d>(dMEDIAL (cKHAH +(d=(d>(",
   "dMEDIAL (cDAL +(d=(cTHAL +(d=(cREH +(d=(cZAIN +(d=(cSEEN +(d=(d>(dMEDIAL (cSHEEN +(d=(d>(",
   "dMEDIAL (cSAD +(d=(d>(dMEDIAL (cDAD +(d=(d>(dMEDIAL (cTAH +(d=(d>(dMEDIAL (cZAH +(d=(d>(",
   "dMEDIAL (cAIN +(d=(d>(dMEDIAL (cGHAIN +(d=(d>(dMEDIAL (cFEH +(d=(d>(dMEDIAL (cQAF +(d=(d>(",
   "dMEDIAL (cKAF +(d=(d>(dMEDIAL (cLAM +(d=(d>(dMEDIAL (cMEEM +(d=(d>(dMEDIAL (cNOON +(d=(d>(",
   "dMEDIAL (cHEH +(d=(d>(dMEDIAL (cWAW +(d=(cALEF MAKSURA +(e=(cYEH +(d=(d>(dMEDIAL (",
   "bLIGATURE LAM #ALEF #MADDA ,+(i=(gHAMZA ,+(i=(h[+(i=(f+(f=(",
   "FEFFaZERO WIDTH NO-BREAK SPACE",
   "FF01aFULLWIDTH EXCLAMATION pbQUOTATION pbNUMBER )bDOLLAR )bPERCENT )bAMPERSANDbAPOSTROPHE",
   "b<PARENTHESISb*PARENTHESISbASTERISKbPLUS )bCOMMAbHYPHEN-MINUSbFULL STOPbSOLIDUSbDIGIT ZEROcONE",
   "cwc]cFOURcFIVEcSIXcSEVENcEIGHTcNINEbCOLONbSEMICOLONbLESS-THAN )bEQUALS )bGREATER-THAN )",
   "bQUESTION pbCOMMERCIAL ATbLATIN $!AeBeCeDeEeFeGeHeIeJeKeLeMeNeOePeQeReSeTeUeVeWeXeYeZ",
   "b<SQUARE tbREVERSE SOLIDUSb*SQUARE tbxACCENTbLOW LINEbGRAVE ACCENTbLATIN %!AeBeCeDeEeFeGeHeIeJ",
   "eKeLeMeNeOePeQeReSeTeUeVeWeXeYeZb<CURLY tb@LINEb*CURLY tbTILDEb<_PARENTHESISb*_PARENTHESIS",
   "aHALFWIDTH IDEOGRAPHIC FULL STOPb<CORNER tb*CORNER tbIDEOGRAPHIC COMMAbKATAKANA ovc!WOd%AeIeU",
   "eEeOeYAeYUeYOeTUbKATAKANA-HIRAGANA PROLONGED SOUND pbKATAKANA !AdIdUdEdOdKAdKIdKUdKEdKOdSAdSI",
   "dSUdSEdSOdTAdTIdTUdTEdTOdNAdNIdNUdNEdNOdHAdHIdHUdHEdHOdMAdMIdMUdMEdMOdYAdYUdYOdRAdRIdRUdREdRO",
   "dWAdNcVOICED SOUND pcSEMI-VOICED SOUND pbHANGUL FILLERc!KIYEOKdSSANGKIYEOKdKIYEOK-SIOSdNIEUN",
   "dNIEUN-CIEUCdNIEUN-HIEUHdTIKEUTdSSANGTIKEUTdRIEULdRIEUL-KIYEOKdRIEUL-MIEUMdRIEUL-PIEUP",
   "dRIEUL-SIOSdRIEUL-THIEUTHdRIEUL-PHIEUPHdRIEUL-HIEUHdMIEUMdPIEUPdSSANGPIEUPdPIEUP-SIOSdSIOS",
   "dSSANGSIOSdIEUNGdCIEUCdSSANGCIEUCdCHIEUCHdKHIEUKHdTHIEUTHdPHIEUPHdHIEUH",
   "FFC2dAdAEdYAdYAEdEOdE",
   "FFCAdYEOdYEdOdWAdWAEdOE",
   "FFD2dYOdUdWEOdWEdWIdYU",
   "FFDAdEUdYIdI",
   "FFE0aFULLWIDTH CENT )bPOUND )bNOT )bMACRONbBROKEN BARbYEN )bWON )",
   "FFE8aHALFWIDTH FORMS LIGHT @b?&bUPWARDS &b.&bq&b^SQUAREb_CIRCLE",
   "FFF9aINTERLINEAR ANNOTATION ANCHORcSEPARATORcTERMINATORaOBJECT REPLACEMENT CHARACTER",
   "aREPLACEMENT CHARACTER"]

end AccessControl
