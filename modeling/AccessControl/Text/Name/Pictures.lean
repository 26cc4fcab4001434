/-!
# Names of signs and pictures

The names of the characters from the signs of musical notation on, in the
form that `CharacterName.find?` reads.
-/

namespace AccessControl

/-- The names of the characters from the signs of musical notation on. -/
def pictureNames : List String :=
  ["1D000aBYZANTINE MUSICAL mPSILIdDASEIAdPERISPOMENIdOXEIA EKFONITIKONeDIPLIdVAREIA EKFONITIKON",
   "eDIPLIdKATHISTIdSYRMATIKIdPARAKLITIKIdYPOKRISISeDIPLIdKREMASTIdAPESO EKFONITIKON",
   "dEXO EKFONITIKONdTELEIAdKENTIMATAdAPOSTROFOSeDIPLIdSYNEVMAdTHITAdOLIGON ARCHAION",
   "dGORGON ARCHAIONdPSILONdCHAMILONdVATHYdISON ARCHAIONdKENTIMA ARCHAIONdKENTIMATA ARCHAION",
   "dSAXIMATAdPARICHONdSTAVROS APODEXIAdOXEIAI ARCHAIONdVAREIAI ARCHAIONdAPODERMA ARCHAION",
   "dAPOTHEMAdKLASMAdREVMAdPIASMA ARCHAIONdTINAGMAdANATRICHISMAdSEISMAdSYNAGMA ARCHAION",
   "eMETA STAVROUdOYRANISMA ARCHAIONdTHEMAdLEMOIdDYOdTRIAdTESSERAdKRATIMATAdAPESO EXO NEO",
   "dFTHORA ARCHAIONdIMIFTHORAdTROMIKON ARCHAIONdKATAVA TROMIKONdPELASTONdPSIFISTONdKONTEVMA",
   "dCHOREVMA ARCHAIONdRAPISMAdPARAKALESMA ARCHAIONdPARAKLITIKI ARCHAIONdICHADINdNANAdPETASMA",
   "dKONTEVMA ALLOdTROMIKON ALLOdSTRAGGISMATAdGRONTHISMATAdISON NEOdOLIGON NEOdOXEIA NEOdPETASTI",
   "dKOUFISMAdPETASTOKOUFISMAdKRATIMOKOUFISMAdPELASTON NEOdKENTIMATA NEO ANOdKENTIMA NEO ANO",
   "dYPSILIdAPOSTROFOS NEOdAPOSTROFOI SYNDESMOS NEOdYPORROIdKRATIMOYPORROONdELAFRONdCHAMILI",
   "dMIKRON ISONdVAREIA NEOdPIASMA NEOdPSIFISTON NEOdOMALONdANTIKENOMAdLYGISMAdPARAKLITIKI NEO",
   "dPARAKALESMA NEOdETERON PARAKALESMAdKYLISMAdANTIKENOKYLISMAdTROMIKON NEOdEKSTREPTON",
   "dSYNAGMA NEOdSYRMAdCHOREVMA NEOdEPEGERMAdSEISMA NEOdXIRON KLASMAdTROMIKOPSIFISTON",
   "dPSIFISTOLYGISMAdTROMIKOLYGISMAdTROMIKOPARAKALESMAdPSIFISTOPARAKALESMAdTROMIKOSYNAGMA",
   "dPSIFISTOSYNAGMAdGORGOSYNTHETONdARGOSYNTHETONdETERON ARGOSYNTHETONdOYRANISMA NEO",
   "dTHEMATISMOS ESOeEXOdTHEMA APLOUNdTHES KAI APOTHESdKATAVASMAdENDOFONONdYFEN KATOeANOdSTAVROS",
   "dKLASMA ANOdDIPLI ARCHAIONdKRATIMA ARCHAIONeALLOeNEOdAPODERMA NEOdAPLIdDIPLIdTRIPLIdTETRAPLI",
   "dKORONISdLEIMMA ENOS CHRONOUeDYO CHRONONeTRION CHRONONeTESSARON CHRONONeIMISEOS CHRONOU",
   "dGORGON NEO ANOePARESTIGMENON ARISTERAfDEXIAdDIGORGONePARESTIGMENON ARISTERA KATOgANOfDEXIA",
   "dTRIGORGONdARGONdIMIDIARGONdDIARGONdAGOGI POLI ARGIeARGOTERIeARGIeMETRIAeMESIeGORGIeGORGOTERI",
   "ePOLI GORGIdMARTYRIA PROTOS ICHOSeALLI PROTOS ICHOSeDEYTEROS ICHOSeALLI DEYTEROS ICHOS",
   "eTRITOS ICHOSeTRIFONIASeTETARTOS ICHOSfLEGETOS ICHOSeLEGETOS ICHOSePLAGIOS ICHOS",
   "dISAKIA TELOUS ICHIMATOSdAPOSTROFOI TELOUS ICHIMATOSdFANEROSIS TETRAFONIASeMONOFONIASeDIFONIAS",
   "dMARTYRIA VARYS ICHOSePROTOVARYS ICHOSePLAGIOS TETARTOS ICHOSdGORTHMIKON N APLOUNfDIPLOUN",
   "dENARXIS KAI FTHORA VOUdIMIFONONdIMIFTHORONdFTHORA ARCHAION DEYTEROU ICHOUeDIATONIKI PAfNANA",
   "eNAOS ICHOSeDIATONIKI DIeSKLIRON DIATONON DIeDIATONIKI KEfZOfNI KATOgANO",
   "eMALAKON CHROMA DIFONIASgMONOFONIASdFHTORA SKLIRON CHROMA VASISdFTHORA SKLIRON CHROMA SYNAFI",
   "eNENANOdCHROA ZYGOSeKLITONeSPATHIdFTHORA I YFESIS TETARTIMORIONeENARMONIOS ANTIFONIA",
   "dYFESIS TRITIMORIONdDIESIS TRITIMORIONeTETARTIMORIONeAPLI DYO DODEKATA",
   "eMONOGRAMMOS TESSERA DODEKATAeDIGRAMMOS EX DODEKATAeTRIGRAMMOS OKTO DODEKATA",
   "dYFESIS APLI DYO DODEKATAeMONOGRAMMOS TESSERA DODEKATAeDIGRAMMOS EX DODEKATA",
   "eTRIGRAMMOS OKTO DODEKATAdGENIKI DIESISeYFESISdDIASTOLI APLI MIKRIfMEGALIeDIPLIeTHESEOS",
   "dSIMANSIS THESEOSfDISIMOUfTRISIMOUfTETRASIMOUeARSEOSfDISIMOUfTRISIMOUfTETRASIMOUdDIGRAMMA GG",
   "dDIFTOGGOS OUdSTIGMAdARKTIKO PAeVOUeGAeDIeKEeZOeNIdKENTIMATA NEO MESOdKENTIMA NEO MESO",
   "dKENTIMATA NEO KATOdKENTIMA NEO KATOdKLASMA KATOdGORGON NEO KATO",
   "1D100aMUSICAL mSINGLE BARLINEc:BARLINEc=BARLINEcREVERSE =BARLINEcDASHED BARLINEcSHORT BARLINE",
   "c<REPEAT )c*REPEAT )cREPEAT DOTScDAL SEGNOcDA CAPOcSEGNOcCODAcREPEATED FIGURE-1dFIGURE-2",
   "dFIGURE-3cFERMATAd[cBREATH pcCAESURAcBRACEctcONE-LINE STAFFcTWO-LINE STAFFcTHREE-LINE STAFF",
   "cFOUR-LINE STAFFcFIVE-LINE STAFFcSIX-LINE STAFFcSIX-STRING FRETBOARDcFOUR-STRING FRETBOARD",
   "cG CLEFeOTTAVA ALTAfBASSAcC CLEFcF CLEFeOTTAVA ALTAfBASSAcDRUM CLEF-1dCLEF-2",
   "1D129cMULTIPLE MEASURE RESTc:SHARPdFLATcFLAT UPdDOWNcNATURAL UPdDOWNcSHARP UPdDOWN",
   "cQUARTER TONE SHARPeFLATcCOMMON TIMEcCUT TIMEcOTTAVA ALTAdBASSAcQUINDICESIMA ALTAdBASSA",
   "cMULTI RESTcWHOLE RESTcHALF RESTcQUARTER RESTcEIGHTH RESTcSIXTEENTH RESTcTHIRTY-SECOND REST",
   "cSIXTY-FOURTH RESTcONE rTWENTY-EIGHTH RESTcX NOTEHEADcPLUS NOTEHEADcCIRCLE X NOTEHEAD",
   "cSQUARE NOTEHEAD _e^cTRIANGLE NOTEHEAD UP _f^e<_f^e*_f^eDOWN _f^eUP *_g^cMOON NOTEHEAD _e^",
   "cTRIANGLE-ROUND NOTEHEAD DOWN _f^cPARENTHESIS NOTEHEADcVOID NOTEHEADcNOTEHEAD ^cNULL NOTEHEAD",
   "cCLUSTER NOTEHEAD _e^cBREVEcWHOLE NOTEcHALF NOTEcQUARTER NOTEcEIGHTH NOTEcSIXTEENTH NOTE",
   "cTHIRTY-SECOND NOTEcSIXTY-FOURTH NOTEcONE rTWENTY-EIGHTH NOTEcCOMBINING STEMdSPRECHGESANG STEM",
   "dTREMOLO-1dTREMOLO-2dTREMOLO-3cFINGERED TREMOLO-1dTREMOLO-2dTREMOLO-3cCOMBINING AUGMENTATION v",
   "dFLAG-1dFLAG-2dFLAG-3dFLAG-4dFLAG-5cBEGIN BEAMcEND BEAMcBEGIN TIEcEND TIEcBEGIN SLURcEND SLUR",
   "cBEGIN PHRASEcEND PHRASEcCOMBINING ACCENTdSTACCATOdTENUTOdSTACCATISSIMOdMARCATO",
   "dMARCATO-STACCATOdACCENT-STACCATOdLOUREcARPEGGIATO UPdDOWNcCOMBINING DOITdRIPdFLIPdSMEARdBEND",
   "d:TONGUEdTRIPLE TONGUEcRINFORZANDOcSUBITOcZcPIANOcMEZZOcFORTEcCRESCENDOcDECRESCENDO",
   "cGRACE NOTE SLASHeNO SLASHcTRcTURNcINVERTED TURNcTURN SLASHdUPcORNAMENT STROKE-1dSTROKE-2",
   "dSTROKE-3dSTROKE-4dSTROKE-5dSTROKE-6dSTROKE-7dSTROKE-8dSTROKE-9dSTROKE-10dSTROKE-11",
   "cHAUPTSTIMMEcNEBENSTIMMEcEND OF STIMMEcDEGREE SLASHcCOMBINING DOWN BOWdUP BOWdHARMONIC",
   "dSNAP PIZZICATOcPEDAL pdUP pcHALF PEDAL pcGLISSANDO UPdDOWNc#FINGERNAILScDAMPdALLcMAXIMAcLONGA",
   "cBREVIScSEMIBREVIS _d^cMINIMAd^cSEMIMINIMA _d^cFUSA _d^cLONGA PERFECTA RESTdIMPERFECTA REST",
   "cBREVIS RESTcSEMIBREVIS RESTcMINIMA RESTcSEMIMINIMA REST",
   "cTEMPUS PERFECTUM CUM PROLATIONE PERFECTAgIMPERFECTAgPERFECTA DIMINUTION-1",
   "dIMPERFECTUM CUM PROLATIONE PERFECTAgIMPERFECTAhDIMINUTION-1hDIMINUTION-2hDIMINUTION-3cCROIX",
   "cGREGORIAN C CLEFdF CLEFcSQUARE BcVIRGAcPODATUScCLIVIScSCANDICUScCLIMACUScTORCULUScPORRECTUS",
   "dFLEXUScSCANDICUS FLEXUScTORCULUS RESUPINUScPES SUBPUNCTIScKIEVAN C CLEFdEND OF PIECEd=NOTE",
   "dRECITATIVE pdWHOLE NOTEdHALF NOTEdQUARTER NOTE STEM DOWNgUPdEIGHTH NOTE STEM DOWNgUPdFLAT )",
   "cSORIcKORON",
   "1D200aGREEK VOCAL NOTATION SYMBOL-1dSYMBOL-2dSYMBOL-3dSYMBOL-4dSYMBOL-5dSYMBOL-6dSYMBOL-7",
   "dSYMBOL-8dSYMBOL-9dSYMBOL-10dSYMBOL-11dSYMBOL-12dSYMBOL-13dSYMBOL-14dSYMBOL-15dSYMBOL-16",
   "dSYMBOL-17dSYMBOL-18dSYMBOL-19dSYMBOL-20dSYMBOL-21dSYMBOL-22dSYMBOL-23dSYMBOL-24dSYMBOL-50",
   "dSYMBOL-51dSYMBOL-52dSYMBOL-53dSYMBOL-54bINSTRUMENTAL NOTATION SYMBOL-1dSYMBOL-2dSYMBOL-4",
   "dSYMBOL-5dSYMBOL-7dSYMBOL-8dSYMBOL-11dSYMBOL-12dSYMBOL-13dSYMBOL-14dSYMBOL-17dSYMBOL-18",
   "dSYMBOL-19dSYMBOL-23dSYMBOL-24dSYMBOL-25dSYMBOL-26dSYMBOL-27dSYMBOL-29dSYMBOL-30dSYMBOL-32",
   "dSYMBOL-36dSYMBOL-37dSYMBOL-38dSYMBOL-39dSYMBOL-40dSYMBOL-42dSYMBOL-43dSYMBOL-45dSYMBOL-47",
   "dSYMBOL-48dSYMBOL-49dSYMBOL-50dSYMBOL-51dSYMBOL-52dSYMBOL-53dSYMBOL-54",
   "aCOMBINING GREEK MUSICAL TRISEMEdTETRASEMEdPENTASEMEaGREEK MUSICAL LEIMMA",
   "1D2E0aMAYAN NUMERAL ZEROcONEcwc]cFOURcFIVEcSIXcSEVENcEIGHTcNINEcTENcELEVENcTWELVEcTHIRTEEN",
   "cFOURTEENcFIFTEENcSIXTEENcSEVENTEENcEIGHTEENcNINETEEN",
   "1D300aMONOGRAM FOR EARTHaDIGRAM FOR HEAVENLY EARTHcHUMAN EARTHcEARTHLY HEAVENdHUMANcEARTH",
   "aTETRAGRAM FOR CENTREcFULL CIRCLEcMIREDcBARRIERcKEEPING %cCONTRARIETYcASCENTcOPPOSITION",
   "cBRANCHING OUTcDEFECTIVENESS OR DISTORTIONcDIVERGENCEcYOUTHFULNESScINCREASEcPENETRATIONcREACH",
   "cCONTACTcHOLDING BACKcWAITINGcFOLLOWINGcADVANCEcRELEASEcRESISTANCEcEASEcJOYcCONTENTION",
   "cENDEAVOURcDUTIEScCHANGEcDECISIVENESScBOLD RESOLUTIONcPACKINGcLEGIONcCLOSENESScKINSHIP",
   "cGATHERINGcSTRENGTHcPURITYcFULLNESScRESIDENCEcLAW OR MODELcRESPONSEcGOING TO MEETcENCOUNTERS",
   "cSTOVEcGREATNESScENLARGEMENTcPATTERNcRITUALcFLIGHTcVASTNESS OR WASTINGcCONSTANCYcMEASURE",
   "cETERNITYcUNITYcDIMINISHMENTcCLOSED MOUTHcGUARDEDNESScGATHERING INcMASSINGcACCUMULATION",
   "cEMBELLISHMENTcDOUBTcWATCHcSINKINGcINNERcDEPARTUREcDARKENINGcDIMMINGcEXHAUSTIONcSEVERANCE",
   "cSTOPPAGEcHARDNESScCOMPLETIONcCLOSUREcFAILUREcAGGRAVATIONcCOMPLIANCEcON THE VERGEcDIFFICULTIES",
   "cLABOURINGcFOSTERING",
   "1D360aCOUNTING ROD UNIT DIGIT ONEewe]eFOUReFIVEeSIXeSEVENeEIGHTeNINEcTENS DIGIT ONEewe]eFOUR",
   "eFIVEeSIXeSEVENeEIGHTeNINEaIDEOGRAPHIC TALLY pONEdwd]dFOURdFIVEaTALLY pONEcFIVE",
   "1D400aMATHEMATICAL BOLD $AdBdCdDdEdFdGdHdIdJdKdLdMdNdOdPdQdRdSdTdUdVdWdXdYdZc%AdBdCdDdEdFdGdH",
   "dIdJdKdLdMdNdOdPdQdRdSdTdUdVdWdXdYdZbITALIC $AdBdCdDdEdFdGdHdIdJdKdLdMdNdOdPdQdRdSdTdUdVdWdXdY",
   "dZc%AdBdCdDdEdFdG",
   "1D456dIdJdKdLdMdNdOdPdQdRdSdTdUdVdWdXdYdZbBOLD ITALIC $AeBeCeDeEeFeGeHeIeJeKeLeMeNeOePeQeReSeT",
   "eUeVeWeXeYeZd%AeBeCeDeEeFeGeHeIeJeKeLeMeNeOePeQeReSeTeUeVeWeXeYeZbSCRIPT $A",
   "1D49EdCdD",
   "1D4A2dG",
   "1D4A5dJdK",
   "1D4A9dNdOdPdQ",
   "1D4AEdSdTdUdVdWdXdYdZc%AdBdCdD",
   "1D4BBdF",
   "1D4BDdHdIdJdKdLdMdN",
   "1D4C5dPdQdRdSdTdUdVdWdXdYdZbBOLD SCRIPT $AeBeCeDeEeFeGeHeIeJeKeLeMeNeOePeQeReSeTeUeVeWeXeYeZ",
   "d%AeBeCeDeEeFeGeHeIeJeKeLeMeNeOePeQeReSeTeUeVeWeXeYeZbFRAKTUR $AdB",
   "1D507dDdEdFdG",
   "1D50DdJdKdLdMdNdOdPdQ",
   "1D516dSdTdUdVdWdXdY",
   "1D51Ec%AdBdCdDdEdFdGdHdIdJdKdLdMdNdOdPdQdRdSdTdUdVdWdXdYdZbDOUBLE-STRUCK $AdB",
   "1D53BdDdEdFdG",
   "1D540dIdJdKdLdM",
   "1D546dO",
   "1D54AdSdTdUdVdWdXdY",
   "1D552c%AdBdCdDdEdFdGdHdIdJdKdLdMdNdOdPdQdRdSdTdUdVdWdXdYdZbBOLD FRAKTUR $AeBeCeDeEeFeGeHeIeJeK",
   "eLeMeNeOePeQeReSeTeUeVeWeXeYeZd%AeBeCeDeEeFeGeHeIeJeKeLeMeNeOePeQeReSeTeUeVeWeXeYeZ",
   "bSANS-SERIF $AdBdCdDdEdFdGdHdIdJdKdLdMdNdOdPdQdRdSdTdUdVdWdXdYdZc%AdBdCdDdEdFdGdHdIdJdKdLdMdN",
   "dOdPdQdRdSdTdUdVdWdXdYdZcBOLD $AeBeCeDeEeFeGeHeIeJeKeLeMeNeOePeQeReSeTeUeVeWeXeYeZd%AeBeCeDeE",
   "eFeGeHeIeJeKeLeMeNeOePeQeReSeTeUeVeWeXeYeZcITALIC $AeBeCeDeEeFeGeHeIeJeKeLeMeNeOePeQeReSeTeUeV",
   "eWeXeYeZd%AeBeCeDeEeFeGeHeIeJeKeLeMeNeOePeQeReSeTeUeVeWeXeYeZcBOLD ITALIC $AfBfCfDfEfFfGfHfIfJ",
   "fKfLfMfNfOfPfQfRfSfTfUfVfWfXfYfZe%AfBfCfDfEfFfGfHfIfJfKfLfMfNfOfPfQfRfSfTfUfVfWfXfYfZ",
   "bMONOSPACE $AdBdCdDdEdFdGdHdIdJdKdLdMdNdOdPdQdRdSdTdUdVdWdXdYdZc%AdBdCdDdEdFdGdHdIdJdKdLdMdNdO",
   "dPdQdRdSdTdUdVdWdXdYdZbITALIC %DOTLESS IeJ",
   "1D6A8bBOLD $ALPHAdBETAdGAMMAdDELTAdEPSILONdZETAdETAdTHETAdIOTAdKAPPAdLAMDAdMUdNUdXIdOMICRONdPI",
   "dRHOdTHETA mdSIGMAdTAUdUPSILONdPHIdCHIdPSIdOMEGAcNABLAc%ALPHAdBETAdGAMMAdDELTAdEPSILONdZETA",
   "dETAdTHETAdIOTAdKAPPAdLAMDAdMUdNUdXIdOMICRONdPIdRHOd=SIGMAdSIGMAdTAUdUPSILONdPHIdCHIdPSIdOMEGA",
   "cPARTIAL DIFFERENTIALcEPSILON mcTHETA mcKAPPA mcPHI mcRHO mcPI mbITALIC $ALPHAdBETAdGAMMA",
   "dDELTAdEPSILONdZETAdETAdTHETAdIOTAdKAPPAdLAMDAdMUdNUdXIdOMICRONdPIdRHOdTHETA mdSIGMAdTAU",
   "dUPSILONdPHIdCHIdPSIdOMEGAcNABLAc%ALPHAdBETAdGAMMAdDELTAdEPSILONdZETAdETAdTHETAdIOTAdKAPPA",
   "dLAMDAdMUdNUdXIdOMICRONdPIdRHOd=SIGMAdSIGMAdTAUdUPSILONdPHIdCHIdPSIdOMEGAcPARTIAL DIFFERENTIAL",
   "cEPSILON mcTHETA mcKAPPA mcPHI mcRHO mcPI mbBOLD ITALIC $ALPHAeBETAeGAMMAeDELTAeEPSILONeZETA",
   "eETAeTHETAeIOTAeKAPPAeLAMDAeMUeNUeXIeOMICRONePIeRHOeTHETA meSIGMAeTAUeUPSILONePHIeCHIePSI",
   "eOMEGAdNABLAd%ALPHAeBETAeGAMMAeDELTAeEPSILONeZETAeETAeTHETAeIOTAeKAPPAeLAMDAeMUeNUeXIeOMICRON",
   "ePIeRHOe=SIGMAeSIGMAeTAUeUPSILONePHIeCHIePSIeOMEGAdPARTIAL DIFFERENTIALdEPSILON mdTHETA m",
   "dKAPPA mdPHI mdRHO mdPI mbSANS-SERIF BOLD $ALPHAeBETAeGAMMAeDELTAeEPSILONeZETAeETAeTHETAeIOTA",
   "eKAPPAeLAMDAeMUeNUeXIeOMICRONePIeRHOeTHETA meSIGMAeTAUeUPSILONePHIeCHIePSIeOMEGAdNABLAd%ALPHA",
   "eBETAeGAMMAeDELTAeEPSILONeZETAeETAeTHETAeIOTAeKAPPAeLAMDAeMUeNUeXIeOMICRONePIeRHOe=SIGMAeSIGMA",
   "eTAUeUPSILONePHIeCHIePSIeOMEGAdPARTIAL DIFFERENTIALdEPSILON mdTHETA mdKAPPA mdPHI mdRHO mdPI m",
   "dITALIC $ALPHAfBETAfGAMMAfDELTAfEPSILONfZETAfETAfTHETAfIOTAfKAPPAfLAMDAfMUfNUfXIfOMICRONfPI",
   "fRHOfTHETA mfSIGMAfTAUfUPSILONfPHIfCHIfPSIfOMEGAeNABLAe%ALPHAfBETAfGAMMAfDELTAfEPSILONfZETA",
   "fETAfTHETAfIOTAfKAPPAfLAMDAfMUfNUfXIfOMICRONfPIfRHOf=SIGMAfSIGMAfTAUfUPSILONfPHIfCHIfPSIfOMEGA",
   "ePARTIAL DIFFERENTIALeEPSILON meTHETA meKAPPA mePHI meRHO mePI mbBOLD $DIGAMMAc%DIGAMMA",
   "1D7CEcDIGIT ZEROdONEdwd]dFOURdFIVEdSIXdSEVENdEIGHTdNINEbDOUBLE-STRUCK DIGIT ZEROdONEdwd]dFOUR",
   "dFIVEdSIXdSEVENdEIGHTdNINEbSANS-SERIF DIGIT ZEROdONEdwd]dFOURdFIVEdSIXdSEVENdEIGHTdNINE",
   "cBOLD DIGIT ZEROeONEewe]eFOUReFIVEeSIXeSEVENeEIGHTeNINEbMONOSPACE DIGIT ZEROdONEdwd]dFOURdFIVE",
   "dSIXdSEVENdEIGHTdNINEaSIGNWRITING HAND-FIST INDEXbHAND-CIRCLE INDEXbHAND-CUP INDEX",
   "bHAND-OVAL INDEXbHAND-HINGE INDEXbHAND-ANGLE INDEXbHAND-FIST INDEX BENTbHAND-CIRCLE INDEX BENT",
   "bHAND-FIST THUMB UNDER INDEX BENTcINDEX RAISED KNUCKLEdCUPPEDdHINGEDeLOW",
   "bHAND-CIRCLE INDEX HINGEbHAND-FIST INDEX obHAND-CIRCLE INDEX obHAND-FIST INDEX oBENT",
   "eRAISED KNUCKLESeHINGEDdUP oHINGEDdHINGED oUPdoCONJOINEDfINDEX BENTfoBENTfCUPPEDfHINGED",
   "eCROSSEDbHAND-CIRCLE INDEX oCROSSEDbHAND-FIST oBENT OVER INDEXcINDEX BENT OVER odoTHUMB",
   "bHAND-CIRCLE INDEX oTHUMBbHAND-FIST INDEX oSTRAIGHT THUMB BENTeBENT THUMB STRAIGHTeTHUMB BENT",
   "eHINGED SPREAD THUMB SIDEdUP oHINGED THUMB SIDEhCONJOINEDdHINGED oUP THUMB SIDE",
   "doUP SPREAD THUMB FORWARDeTHUMB CUPPEDfCIRCLEDfHOOKEDfHINGEDcTHUMB BETWEEN INDEX oSTRAIGHT",
   "cINDEX oCONJOINED THUMB SIDEhCONJOINEDhBENTcoTHUMB HOOKED INDEX UPcINDEX THUMB HOOKED oUP",
   "doCONJOINED HINGED THUMB SIDEeCROSSED THUMB SIDEeCONJOINED THUMB FORWARDfCUPPED THUMB FORWARD",
   "coTHUMB CUPPED INDEX UPcINDEX THUMB CUPPED oUPcoTHUMB CIRCLED INDEX UPgHINGED",
   "cINDEX THUMB ANGLED OUT oUPfIN oUPeCIRCLED oUPdoTHUMB CONJOINED HINGEDfANGLED OUTfANGLED",
   "coTHUMB ANGLED OUT INDEX UPhCROSSEDfINDEX UPcINDEX THUMB HOOKED oHINGEDbHAND-FLAT FOUR FINGERS",
   "eBENTeHINGEDeCONJOINEDfSPLITbHAND-CLAW FOUR FINGERS CONJOINED",
   "bHAND-FIST FOUR FINGERS CONJOINED BENTbHAND-HINGE FOUR FINGERS CONJOINED",
   "bHAND-FLAT FIVE FINGERS SPREADcHEEL FIVE FINGERS SPREADcFIVE FINGERS SPREAD FOUR BENT",
   "cHEEL FIVE FINGERS SPREAD FOUR BENTcFIVE FINGERS SPREAD BENTcHEEL FIVE FINGERS SPREAD BENT",
   "cFIVE FINGERS SPREAD THUMB FORWARDbHAND-CUP FIVE FINGERS SPREADfOPEN",
   "bHAND-HINGE FIVE FINGERS SPREAD OPENbHAND-OVAL FIVE FINGERS SPREAD",
   "bHAND-FLAT FIVE FINGERS SPREAD HINGEDgTHUMB SIDEgNO THUMBbHAND-FLATcBETWEEN PALM FACINGScHEEL",
   "cTHUMB SIDEcHEEL THUMB SIDEcTHUMB BENTdFORWARDcSPLIT INDEX THUMB SIDEdCENTREeTHUMB SIDEgBENT",
   "dLITTLEbHAND-CLAWcTHUMB SIDEcNO THUMBcTHUMB FORWARDbHAND-HOOK CURLICUEbHAND-HOOKbHAND-CUP OPEN",
   "bHAND-CUPcOPEN THUMB SIDEcTHUMB SIDEcOPEN NO THUMBcNO THUMBcOPEN THUMB FORWARDcTHUMB FORWARD",
   "bHAND-CURLICUE OPENbHAND-CURLICUEbHAND-CIRCLEbHAND-OVALcTHUMB SIDEcNO THUMBcTHUMB FORWARD",
   "bHAND-HINGE OPENdTHUMB FORWARDbHAND-HINGEc%cOPEN THUMB SIDEcTHUMB SIDEcOPEN NO THUMBcNO THUMB",
   "cTHUMB SIDE TOUCHING INDEXdBETWEEN oRINGbHAND-ANGLEbHAND-FIST INDEX oRING",
   "bHAND-CIRCLE INDEX oRINGbHAND-HINGE INDEX oRINGbHAND-ANGLE INDEX oRINGbHAND-HINGE LITTLE",
   "bHAND-FIST INDEX oRING BENTfCONJOINEDbHAND-HINGE INDEX oRING CONJOINEDbHAND-FIST LITTLE DOWN",
   "eRIPPLE STRAIGHTfCURVEDeOTHERS CIRCLEDdUPcTHUMB UNDER LITTLE UPbHAND-CIRCLE LITTLE UP",
   "bHAND-OVAL LITTLE UPbHAND-ANGLE LITTLE UPbHAND-FIST LITTLE RAISED KNUCKLEdBENTdTOUCHES THUMB",
   "dTHUMBbHAND-HINGE LITTLE THUMBbHAND-FIST LITTLE INDEX THUMBbHAND-HINGE LITTLE INDEX THUMB",
   "bHAND-ANGLE LITTLE INDEX THUMB INDEX THUMB OUTgTHUMBbHAND-FIST LITTLE INDEX",
   "bHAND-CIRCLE LITTLE INDEXbHAND-HINGE LITTLE INDEXbHAND-ANGLE LITTLE INDEX",
   "bHAND-FIST INDEX oLITTLEbHAND-CIRCLE INDEX oLITTLEbHAND-HINGE INDEX oLITTLEcRING",
   "bHAND-ANGLE INDEX oLITTLEbHAND-FIST INDEX oCROSS LITTLEbHAND-CIRCLE INDEX oCROSS LITTLE",
   "bHAND-FIST RING DOWNbHAND-HINGE RING DOWN INDEX THUMB HOOK o",
   "bHAND-ANGLE RING DOWN oTHUMB INDEX CROSSbHAND-FIST RING UPdRAISED KNUCKLEdLITTLE",
   "bHAND-CIRCLE RING LITTLEbHAND-OVAL RING LITTLEbHAND-ANGLE RING LITTLEbHAND-FIST RING o",
   "eCONJOINEDeRAISED KNUCKLESdINDEXdTHUMBbHAND-HOOK RING THUMBbHAND-FIST INDEX RING LITTLE",
   "bHAND-CIRCLE INDEX RING LITTLEbHAND-CURLICUE INDEX RING LITTLE ON",
   "bHAND-HOOK INDEX RING LITTLE OUTfINfUNDERbHAND-CUP INDEX RING LITTLE",
   "bHAND-HINGE INDEX RING LITTLEbHAND-ANGLE INDEX RING LITTLE OUTeLITTLEbHAND-FIST oDOWN",
   "bHAND-HINGE obHAND-FIST oUPbHAND-CIRCLE oUPbHAND-FIST oRAISED KNUCKLEdUP THUMB SIDE",
   "bHAND-HOOK oTHUMBbHAND-FIST oTHUMB LITTLEdLITTLEdRING LITTLEbHAND-CIRCLE oRING LITTLE",
   "bHAND-CURLICUE oRING LITTLE ONbHAND-CUP oRING LITTLEbHAND-HINGE oRING LITTLE",
   "bHAND-ANGLE oRING LITTLE OUTfINeLITTLEbHAND-CIRCLE oRING LITTLE BENT",
   "bHAND-CLAW oRING LITTLE CONJOINEDgSIDEbHAND-HOOK oRING LITTLE CONJOINED OUTgINfCONJOINED",
   "bHAND-HINGE INDEX HINGEDbHAND-FIST INDEX THUMB SIDEbHAND-HINGE INDEX THUMB SIDE",
   "bHAND-FIST INDEX THUMB SIDE THUMB DIAGONALgCONJOINEDgBENTfINDEX BENTfBOTH BENTfINDEX HINGE",
   "eFORWARD INDEX STRAIGHTgBENTeHOOKeCURLICUEeCURVE THUMB INSIDE",
   "bHAND-CLAW INDEX THUMB CURVE THUMB INSIDEbHAND-FIST INDEX THUMB CURVE THUMB UNDEReCIRCLE",
   "bHAND-CUP INDEX THUMBeOPENbHAND-HINGE INDEX THUMB OPENeLARGEdTHUMBe%",
   "bHAND-ANGLE INDEX THUMB OUTeINdTHUMBbHAND-FIST THUMBdHEELdSIDE DIAGONALeCONJOINEDeBENTdFORWARD",
   "dBETWEEN INDEX oeoRINGeRING LITTLEdUNDER wFINGERSdOVER wFINGERSdUNDER ]FINGERSeFOUR FINGERS",
   "dOVER FOUR RAISED KNUCKLESbHAND-FISTcHEELbTOUCH SINGLEcMULTIPLEcBETWEENbGRASP SINGLEcMULTIPLE",
   "cBETWEENbSTRIKE SINGLEcMULTIPLEcBETWEENbBRUSH SINGLEcMULTIPLEcBETWEENbRUB SINGLEcMULTIPLE",
   "cBETWEENbSURFACE SYMBOLScBETWEENbSQUEEZE LARGE SINGLEc%SINGLEcLARGE MULTIPLEc%MULTIPLE",
   "cSEQUENTIALbFLICK LARGE SINGLEc%SINGLEcLARGE MULTIPLEc%MULTIPLEcSEQUENTIAL",
   "bSQUEEZE FLICK ALTERNATINGbMOVEMENT-HINGE UP DOWN LARGEe%dSEQUENTIALcDOWN SEQUENTIAL",
   "cUP DOWN ALTERNATING LARGEf%cSIDE TO SIDE SCISSORSbMOVEMENT-WALLPLANE FINGER CONTACT",
   "bMOVEMENT-FLOORPLANE FINGER CONTACTbMOVEMENT-WALLPLANE SINGLE STRAIGHT %eMEDIUMeLARGEeLARGEST",
   "dWRIST FLEXc:STRAIGHTdWRIST FLEXdALTERNATINGeWRIST FLEXcCROSScTRIPLE STRAIGHT MOVEMENT",
   "dWRIST FLEXdALTERNATINGeWRIST FLEXcBEND %dMEDIUMdLARGEcCORNER %dMEDIUMdLARGEdROTATIONcCHECK %",
   "dMEDIUMdLARGEcBOX %dMEDIUMdLARGEcZIGZAG %dMEDIUMdLARGEcPEAKS %dMEDIUMdLARGE",
   "bTRAVEL-WALLPLANE ROTATION-WALLPLANE SINGLEd:dALTERNATINGcROTATION-FLOORPLANE SINGLEd:",
   "dALTERNATINGcSHAKINGcARM SPIRAL SINGLEe:eTRIPLEbMOVEMENT-DIAGONAL AWAY %dMEDIUMdLARGEdLARGEST",
   "cTOWARDS %dMEDIUMdLARGEdLARGESTcBETWEEN AWAY %eMEDIUMeLARGEeLARGESTdTOWARDS %eMEDIUMeLARGE",
   "eLARGESTbMOVEMENT-FLOORPLANE SINGLE STRAIGHT %eMEDIUMeLARGEeLARGESTdWRIST FLEXc:STRAIGHT",
   "dWRIST FLEXdALTERNATINGeWRIST FLEXcCROSScTRIPLE STRAIGHT MOVEMENTdWRIST FLEX",
   "dALTERNATING MOVEMENTeWRIST FLEXcBENDcCORNER %dMEDIUMdLARGEcCHECKcBOX %dMEDIUMdLARGEcZIGZAG %",
   "dMEDIUMdLARGEcPEAKS %dMEDIUMdLARGEbTRAVEL-FLOORPLANE ROTATION-FLOORPLANE SINGLEd:dALTERNATING",
   "cROTATION-WALLPLANE SINGLEd:dALTERNATINGcSHAKINGbMOVEMENT-WALLPLANE CURVE QUARTER %eMEDIUM",
   "eLARGEeLARGESTdHALF-CIRCLE %eMEDIUMeLARGEeLARGESTdTHREE-QUARTER CIRCLE %fMEDIUMcHUMP %dMEDIUM",
   "dLARGEcLOOP %dMEDIUMdLARGEd%:cWAVE CURVE :%fMEDIUMfLARGEeTRIPLE %fMEDIUMfLARGE",
   "cCURVE THEN STRAIGHTcCURVED CROSS %eMEDIUMbROTATION-WALLPLANE SINGLEc:cALTERNATE",
   "bMOVEMENT-WALLPLANE SHAKINGcCURVE HITTING FRONT WALLcHUMP HITTING FRONT WALL",
   "cLOOP HITTING FRONT WALLcWAVE HITTING FRONT WALLbROTATION-WALLPLANE SINGLE HITTING FRONT WALL",
   "c:HITTING FRONT WALLcALTERNATING HITTING FRONT WALLbMOVEMENT-WALLPLANE CURVE HITTING CHEST",
   "cHUMP HITTING CHESTcLOOP HITTING CHESTcWAVE HITTING CHEST",
   "bROTATION-WALLPLANE SINGLE HITTING CHESTc:HITTING CHESTcALTERNATING HITTING CHEST",
   "bMOVEMENT-WALLPLANE WAVE DIAGONAL PATH %fMEDIUMfLARGE",
   "bMOVEMENT-FLOORPLANE CURVE HITTING CEILING %fLARGEcHUMP HITTING CEILING %:fLARGE :f%TRIPLE",
   "fLARGE TRIPLEcLOOP HITTING CEILING %SINGLEfLARGE SINGLEf%:fLARGE :cWAVE HITTING CEILING %",
   "fLARGEbROTATION-FLOORPLANE SINGLE HITTING CEILINGc:HITTING CEILINGcALTERNATING HITTING CEILING",
   "bMOVEMENT-FLOORPLANE CURVE HITTING FLOOR %fLARGEcHUMP HITTING FLOOR %:fLARGE :fTRIPLE %TRIPLE",
   "gLARGE TRIPLEcLOOP HITTING FLOOR %SINGLEfLARGE SINGLEf%:fLARGE :cWAVE HITTING FLOOR %fLARGE",
   "bROTATION-FLOORPLANE SINGLE HITTING FLOORc:HITTING FLOORcALTERNATING HITTING FLOOR",
   "bMOVEMENT-FLOORPLANE CURVE %dMEDIUMdLARGEdLARGESTdCOMBINEDcHUMP %cLOOP %cWAVE SNAKEd%dLARGE",
   "bROTATION-FLOORPLANE SINGLEc:cALTERNATINGbMOVEMENT-FLOORPLANE SHAKING PARALLEL",
   "bMOVEMENT-WALLPLANE ARM CIRCLE %SINGLEeMEDIUM SINGLEe%:eMEDIUM :",
   "bMOVEMENT-FLOORPLANE ARM CIRCLE HITTING WALL %SINGLEgMEDIUM SINGLEgLARGE SINGLEg%:gMEDIUM :",
   "gLARGE :bMOVEMENT-WALLPLANE WRIST CIRCLE FRONT SINGLEf:",
   "bMOVEMENT-FLOORPLANE WRIST CIRCLE HITTING WALL SINGLEg:",
   "bMOVEMENT-WALLPLANE FINGER CIRCLES SINGLEe:",
   "bMOVEMENT-FLOORPLANE FINGER CIRCLES HITTING WALL SINGLEg:bDYNAMIC ARROWHEAD %dLARGEcFASTcSLOW",
   "cTENSEcRELAXEDcSIMULTANEOUSdALTERNATINGcEVERY OTHER TIMEcGRADUALbHEADcRIM",
   "cMOVEMENT-WALLPLANE STRAIGHTdTILTcMOVEMENT-FLOORPLANE STRAIGHTcMOVEMENT-WALLPLANE CURVE",
   "cMOVEMENT-FLOORPLANE CURVEcMOVEMENT CIRCLEbFACE DIRECTION POSITION NOSE FORWARD TILTING",
   "fUP OR DOWNiTILTINGbEYEBROWS STRAIGHT UPdNEUTRALdDOWNbDREAMY EYEBROWS NEUTRAL DOWN",
   "dDOWN NEUTRALdUP NEUTRALdNEUTRAL UPbFOREHEAD NEUTRALcCONTACTcWRINKLEDbEYES OPENcSQUEEZED",
   "cCLOSEDbEYE BLINK SINGLEdMULTIPLEbEYES HALF OPENcWIDE OPENcHALF CLOSEDcWIDENING MOVEMENT",
   "bEYE WINKbEYELASHES UPcDOWNcFLUTTERINGbEYEGAZE-WALLPLANE STRAIGHTd:dALTERNATING",
   "bEYEGAZE-FLOORPLANE STRAIGHTd:dALTERNATINGbEYEGAZE-WALLPLANE CURVEDbEYEGAZE-FLOORPLANE CURVED",
   "bEYEGAZE-WALLPLANE CIRCLINGbCHEEKS PUFFEDcNEUTRALcSUCKEDbTENSE CHEEKS HIGHdodLOWbEARS",
   "bNOSE NEUTRALcCONTACTcWRINKLEScWIGGLESbAIR BLOWING OUTcSUCKING INcBLOW %ROTATIONS",
   "cSUCK %ROTATIONSbBREATH INHALEcEXHALEbMOUTH CLOSED NEUTRALdFORWARDdCONTACTcSMILEdWRINKLEDdOPEN",
   "cFROWNdWRINKLEDdOPENcOPEN CIRCLEdFORWARDdWRINKLEDdOVALeWRINKLEDeYAWNdRECTANGLEeWRINKLEDeYAWN",
   "cKISSdFORWARDdWRINKLEDcTENSEdFORWARDdSUCKEDbLIPS PRESSED TOGETHERbLIP LOWER OVER UPPER",
   "cUPPER OVER LOWERbMOUTH CORNERScWRINKLES SINGLEd:bTONGUE STICKING OUT FARcLICKING LIPS",
   "cTIP BETWEEN LIPSdTOUCHING INSIDE MOUTHcINSIDE MOUTH RELAXEDcMOVES AGAINST CHEEK",
   "cCENTRE STICKING OUTdINSIDE MOUTHbTEETHcMOVEMENTcON TONGUEeMOVEMENTdLIPSeMOVEMENTcBITE LIPS",
   "bMOVEMENT-WALLPLANE JAWbMOVEMENT-FLOORPLANE JAWbNECKbHAIRbEXCITEMENTbSHOULDER HIP SPINE",
   "dPOSITIONSbWALLPLANE SHOULDER HIP MOVEbFLOORPLANE SHOULDER HIP MOVE",
   "bSHOULDER TILTING FROM WAISTbTORSO-WALLPLANE STRAIGHT STRETCHcCURVED BEND",
   "bTORSO-FLOORPLANE TWISTINGbUPPER BODY TILTING FROM HIP JOINTSbLIMB COMBINATIONcLENGTH-1",
   "cLENGTH-2cLENGTH-3cLENGTH-4cLENGTH-5cLENGTH-6cLENGTH-7bFINGERbLOCATION-WALLPLANE SPACE",
   "bLOCATION-FLOORPLANE SPACEbLOCATION HEIGHTcWIDTHcDEPTHcHEAD NECKcTORSOcLIMBS DIGITSbCOMMA",
   "bFULL STOPbSEMICOLONbCOLONbPARENTHESIS",
   "1DA9BbFILL MODIFIER-2cMODIFIER-3cMODIFIER-4cMODIFIER-5cMODIFIER-6",
   "1DAA1bROTATION MODIFIER-2cMODIFIER-3cMODIFIER-4cMODIFIER-5cMODIFIER-6cMODIFIER-7cMODIFIER-8",
   "cMODIFIER-9cMODIFIER-10cMODIFIER-11cMODIFIER-12cMODIFIER-13cMODIFIER-14cMODIFIER-15",
   "cMODIFIER-16",
   "1DF00aLATIN %!FENG DIGRAPH #TRILLdREVERSED SCRIPT Gb!%$TURNED Gb%!REVERSED Kb!%$L #BELT",
   "b%!LEZH #RETROFLEX HOOKdTURNED Y #BELTdREVERSED ENGdTURNED R #LONG LEG ;RETROFLEX HOOK",
   "dT #HOOK ;RETROFLEX HOOKb!RETROFLEX CLICK #RETROFLEX HOOKb%!ESH #:BARh;CURLdTURNED T #CURL",
   "b!INVERTED GLOTTAL STOP #CURLcSTRETCHED C #CURLc%$TURNED Kb%!L #FISHHOOK",
   "dDEZH DIGRAPH #PALATAL HOOKdL #BELT ;PALATAL HOOKdENG #PALATAL HOOKdTURNED R #PALATAL HOOK",
   "dR #FISHHOOK ;PALATAL HOOKdTESH DIGRAPH #PALATAL HOOKdEZH #PALATAL HOOK",
   "dDEZH DIGRAPH #RETROFLEX HOOKdI #~;RETROFLEX HOOKdO #RETROFLEX HOOK",
   "dTESH DIGRAPH #RETROFLEX HOOKdC #RETROFLEX HOOKdS #CURL",
   "1E000aCOMBINING GLAGOLITIC !AZUdBUKYdVEDEdGLAGOLIdDOBROdYESTUdZHIVETE",
   "1E008dZEMLJAdIZHEd>IZHEdIdDJERVIdKAKOdLJUDIJEdMYSLITEdNASHIdONUdPOKOJIdRITSIdSLOVOdTVRIDOdUKU",
   "dFRITUdHERU",
   "1E01BdSHTAdTSIdCHRIVIdSHAdYERUdYERIdYATI",
   "1E023dYUd%YUS",
   "1E026dYOdIOTATED %YUSdBIG YUSdIOTATED BIG YUSdFITA",
   "1E100aNYIAKENG PUACHUE HMONG !MAeTSAeNTAeTAeHAeNAeXAeNKAeCAeLAeSAeZAeNCAeNTSAeKAeDAeNYAeNRAeVA",
   "eNTXAeTXAeFAeRAeQAeYAeNQAePAeXYAeNPAeDLAeNPLAeHAHeMLAePLAeGAeRRAeAeAAeIeUeOeOOeEeEEeW",
   "1E130dTONE-BdTONE-MdTONE-JdTONE-VdTONE-SdTONE-GdTONE-Dd)FOR PERSONfTHINGfLOCATIONfANIMAL",
   "fINVERTEBRATEeXW XWdSYLLABLE LENGTHENER",
   "1E140dDIGIT ZEROeONEewe]eFOUReFIVEeSIXeSEVENeEIGHTeNINE",
   "1E14EdLOGOGRAM NYAJdCIRCLED CA",
   "1E290aTOTO !PAcBAcTAcDAcKAcGAcMAcNAcNGAcSAcCHAcYAcWAcJAcHAcRAcLAcIcBREATHY IcIUcBREATHY IUcUcE",
   "cBREATHY EcEOcBREATHY EOcOcAEcBREATHY AEcAb)RISING TONE",
   "1E2C0aWANCHO !AAcAcBAcCAcDAcGAcYAcPHAcLAcNAcPAcTAcTHAcFAcSAcSHAcJAcZAcWAcVAcKAcOcAUcRAcMAcKHA",
   "cHAcEcIcNGAcUcLLHAcTSAcTRAcONGcAANGcANGcINGcONcENcAANcNYAcUENcYIHbTONE TUPcTUPNIcKOIcKOINI",
   "bDIGIT ZEROcONEcwc]cFOURcFIVEcSIXcSEVENcEIGHTcNINE",
   "1E2FFbNGUN )",
   "1E7E0aETHIOPIC SYLLABLE HHYAcHHYUcHHYIcHHYAAcHHYEEcHHYEcHHYO",
   "1E7E8cGURAGE HHWAcHHWIcHHWEEcHHWE",
   "1E7EDcGURAGE MWIdMWEE",
   "1E7F0dQWIdQWEEdQWEdBWIdBWEEdKWIdKWEEdKWEdGWIdGWEEdGWEdFWIdFWEEdPWIdPWEE",
   "1E800aMENDE KIKAKUI SYLLABLE M001 KIdM002 KAdM003 KUdM065 KEEdM095 KEdM076 KOOdM048 KO",
   "dM179 KUAdM004 WIdM005 WAdM006 WUdM126 WEEdM118 WEdM114 WOOdM045 WOdM194 WUIdM143 WEIdM061 WVI",
   "dM049 WVAdM139 WVEdM007 MINdM008 MANdM009 MUNdM059 MENdM094 MONdM154 MUANdM189 MUENdM010 BI",
   "dM011 BAdM012 BUdM150 BEEdM097 BEdM103 BOOdM138 BOdM013 IdM014 AdM015 UdM163 EEdM100 EdM165 OO",
   "dM147 OdM137 EIdM131 INdM135 INdM195 ANdM178 ENdM019 SIdM020 SAdM021 SUdM162 SEEdM116 SE",
   "dM136 SOOdM079 SOdM196 SIAdM025 LIdM026 LAdM027 LUdM084 LEEdM073 LEdM054 LOOdM153 LO",
   "dM110 LONG LEdM016 DIdM017 DAdM018 DUdM089 DEEdM180 DOOdM181 DOdM022 TIdM023 TAdM024 TU",
   "dM091 TEEdM055 TEdM104 TOOdM069 TOdM028 JIdM029 JAdM030 JUdM157 JEEdM113 JEdM160 JOOdM063 JO",
   "dM175 LONG JOdM031 YIdM032 YAdM033 YUdM109 YEEdM080 YEdM141 YOOdM121 YOdM034 FIdM035 FA",
   "dM036 FUdM078 FEEdM075 FEdM133 FOOdM088 FOdM197 FUAdM101 FANdM037 NINdM038 NANdM039 NUN",
   "dM117 NENdM169 NONdM176 HIdM041 HAdM186 HUdM040 HEEdM096 HEdM042 HOOdM140 HOdM083 HEEI",
   "dM128 HOOUdM053 HINdM130 HANdM087 HUNdM052 HENdM193 HONdM046 HUANdM090 NGGIdM043 NGGA",
   "dM082 NGGUdM115 NGGEEdM146 NGGEdM156 NGGOOdM120 NGGOdM159 NGGAAdM127 NGGUAdM086 LONG NGGE",
   "dM106 LONG NGGOOdM183 LONG NGGOdM155 GIdM111 GAdM168 GUdM190 GEEdM166 GUEIdM167 GUANdM184 NGEN",
   "dM057 NGONdM177 NGUANdM068 PIdM099 PAdM050 PUdM081 PEEdM051 PEdM102 POOdM066 POdM145 MBI",
   "dM062 MBAdM122 MBUdM047 MBEEdM188 MBEEdM072 MBEdM172 MBOOdM174 MBOdM187 MBUUdM161 LONG MBE",
   "dM105 LONG MBOOdM142 LONG MBOdM132 KPIdM092 KPAdM074 KPUdM044 KPEEdM108 KPEdM112 KPOOdM158 KPO",
   "dM124 GBIdM056 GBAdM148 GBUdM093 GBEEdM107 GBEdM071 GBOOdM070 GBOdM171 RAdM123 NDIdM129 NDA",
   "dM125 NDUdM191 NDEEdM119 NDEdM067 NDOOdM064 NDOdM152 NJAdM192 NJUdM149 NJEEdM134 NJOOdM182 VI",
   "dM185 VAdM151 VUdM173 VEEdM085 VEdM144 VOOdM077 VOdM164 NYINdM058 NYANdM170 NYUNdM098 NYEN",
   "dM060 NYON",
   "1E8C7cDIGIT ONEdwd]dFOURdFIVEdSIXdSEVENdEIGHTdNINEcCOMBINING NUMBER TEENSeTENSeHUNDREDS",
   "eTHOUSANDSeTEN THOUSANDSerTHOUSANDSeMILLIONS",
   "1E900aADLAM $!ALIFdDAALIdLAAMdMIIMdBAdSINNYIIYHEdPEdBHEdRAdEdFAdIdOdDHAdYHEdWAWdNUNdKAFdYAdU",
   "dJIIMdCHIdHAdQAAFdGAdNYAdTUdNHAdVAdKHAdGBEdZALdKPOdSHAb%!ALIFdDAALIdLAAMdMIIMdBAdSINNYIIYHEdPE",
   "dBHEdRAdEdFAdIdOdDHAdYHEdWAWdNUNdKAFdYAdUdJIIMdCHIdHAdQAAFdGAdNYAdTUdNHAdVAdKHAdGBEdZALdKPO",
   "dSHAbALIF LENGTHENERbVOWEL LENGTHENERbGEMINATION pbHAMZAbCONSONANT MODIFIER",
   "bGEMINATE CONSONANT MODIFIERbNUKTAbNASALIZATION p",
   "1E950bDIGIT ZEROcONEcwc]cFOURcFIVEcSIXcSEVENcEIGHTcNINE",
   "1E95Eb>EXCLAMATION pcQUESTION p",
   "1EC71aINDIC SIYAQ NUMBER ONEdwd]dFOURdFIVEdSIXdSEVENdEIGHTdNINEdTENdTWENTYdTHIRTYdFORTYdFIFTY",
   "dSIXTYdSEVENTYdEIGHTYdNINETYdONE rdwrd]rdFOUR rdFIVE rdSIX rdSEVEN rdEIGHT rdNINE rdONE udwu",
   "d]udFOUR udFIVE udSIX udSEVEN udEIGHT udNINE udTEN udTWENTY udTHIRTY udFORTY udFIFTY udSIXTY u",
   "dSEVENTY udEIGHTY udNINETY udLAKHdLAKHANcLAKH pcNUMBER KARORdKARORANdPREFIXED ONEewe]eFOUR",
   "eFIVEeSIXeSEVENeEIGHTeNINEcPLACEHOLDERcFRACTION ONE QUARTEReHALFd]QUARTERScRUPEE p",
   "cNUMBER ALTERNATE ONEeweTEN ucALTERNATE LAKH p",
   "1ED01aOTTOMAN SIYAQ NUMBER ONEdwd]dFOURdFIVEdSIXdSEVENdEIGHTdNINEdTENdTWENTYdTHIRTYdFORTY",
   "dFIFTYdSIXTYdSEVENTYdEIGHTYdNINETYdONE rdwrd]rdFOUR rdFIVE rdSIX rdSEVEN rdEIGHT rdNINE r",
   "dONE udwud]udFOUR udFIVE udSIX udSEVEN udEIGHT udNINE udTEN udTWENTY udTHIRTY udFORTY u",
   "dFIFTY udSIXTY udSEVENTY udEIGHTY udNINETY ucMARRATANcALTERNATE NUMBER we]eFOUReFIVEeSIXeSEVEN",
   "eEIGHTeNINEeTENeFOUR reSIX rewueTEN ucFRACTION ONE HALFeSIXTH",
   "1EE00aARABIC MATHEMATICAL ALEFcBEHcJEEMcDAL",
   "1EE05cWAWcZAINcHAHcTAHcYEHcKAFcLAMcMEEMcNOONcSEENcAINcFEHcSADcQAFcREHcSHEENcTEHcTHEHcKHAHcTHAL",
   "cDADcZAHcGHAINcDOTLESS BEHdNOONdFEHdQAF",
   "1EE21c>BEHdJEEM",
   "1EE24dHEH",
   "1EE27dHAH",
   "1EE29dYEHdKAFdLAMdMEEMdNOONdSEENdAINdFEHdSADdQAF",
   "1EE34dSHEENdTEHdTHEHdKHAH",
   "1EE39dDAD",
   "1EE3BdGHAIN",
   "1EE42cTAILED JEEM",
   "1EE47dHAH",
   "1EE49dYEH",
   "1EE4BdLAM",
   "1EE4DdNOONdSEENdAIN",
   "1EE51dSADdQAF",
   "1EE54dSHEEN",
   "1EE57dKHAH",
   "1EE59dDAD",
   "1EE5BdGHAIN",
   "1EE5DdDOTLESS NOON",
   "1EE5FeQAF",
   "1EE61cSTRETCHED BEHdJEEM",
   "1EE64dHEH",
   "1EE67dHAHdTAHdYEHdKAF",
   "1EE6CdMEEMdNOONdSEENdAINdFEHdSADdQAF",
   "1EE74dSHEENdTEHdTHEHdKHAH",
   "1EE79dDADdZAHdGHAINdDOTLESS BEH",
   "1EE7EeFEH",
   "1EE80cLOOPED ALEFdBEHdJEEMdDALdHEHdWAWdZAINdHAHdTAHdYEH",
   "1EE8BdLAMdMEEMdNOONdSEENdAINdFEHdSADdQAFdREHdSHEENdTEHdTHEHdKHAHdTHALdDADdZAHdGHAIN",
   "1EEA1cDOUBLE-STRUCK BEHdJEEMdDAL",
   "1EEA5dWAWdZAINdHAHdTAHdYEH",
   "1EEABdLAMdMEEMdNOONdSEENdAINdFEHdSADdQAFdREHdSHEENdTEHdTHEHdKHAHdTHALdDADdZAHdGHAIN",
   "1EEF0cOPERATOR MEEM #HAH #TATWEELdHAH #DAL",
   "1F000aMAHJONG TILE EAST WINDcSOUTH WINDcWEST WINDcNORTH WINDcRED DRAGONcGREEN DRAGONc_DRAGON",
   "cONE OF CHARACTERScwOF CHARACTERSc]OF CHARACTERScFOUR OF CHARACTERScFIVE OF CHARACTERS",
   "cSIX OF CHARACTERScSEVEN OF CHARACTERScEIGHT OF CHARACTERScNINE OF CHARACTERScONE OF BAMBOOS",
   "cwOF BAMBOOSc]OF BAMBOOScFOUR OF BAMBOOScFIVE OF BAMBOOScSIX OF BAMBOOScSEVEN OF BAMBOOS",
   "cEIGHT OF BAMBOOScNINE OF BAMBOOScONE OF CIRCLEScwOF CIRCLESc]OF CIRCLEScFOUR OF CIRCLES",
   "cFIVE OF CIRCLEScSIX OF CIRCLEScSEVEN OF CIRCLEScEIGHT OF CIRCLEScNINE OF CIRCLEScPLUMcORCHID",
   "cBAMBOOcCHRYSANTHEMUMcSPRINGcSUMMERcAUTUMNcWINTERcJOKERcBACK",
   "1F030aDOMINO TILE nBACKcHORIZONTAL-00-00cHORIZONTAL-00-01cHORIZONTAL-00-02cHORIZONTAL-00-03",
   "cHORIZONTAL-00-04cHORIZONTAL-00-05cHORIZONTAL-00-06cHORIZONTAL-01-00cHORIZONTAL-01-01",
   "cHORIZONTAL-01-02cHORIZONTAL-01-03cHORIZONTAL-01-04cHORIZONTAL-01-05cHORIZONTAL-01-06",
   "cHORIZONTAL-02-00cHORIZONTAL-02-01cHORIZONTAL-02-02cHORIZONTAL-02-03cHORIZONTAL-02-04",
   "cHORIZONTAL-02-05cHORIZONTAL-02-06cHORIZONTAL-03-00cHORIZONTAL-03-01cHORIZONTAL-03-02",
   "cHORIZONTAL-03-03cHORIZONTAL-03-04cHORIZONTAL-03-05cHORIZONTAL-03-06cHORIZONTAL-04-00",
   "cHORIZONTAL-04-01cHORIZONTAL-04-02cHORIZONTAL-04-03cHORIZONTAL-04-04cHORIZONTAL-04-05",
   "cHORIZONTAL-04-06cHORIZONTAL-05-00cHORIZONTAL-05-01cHORIZONTAL-05-02cHORIZONTAL-05-03",
   "cHORIZONTAL-05-04cHORIZONTAL-05-05cHORIZONTAL-05-06cHORIZONTAL-06-00cHORIZONTAL-06-01",
   "cHORIZONTAL-06-02cHORIZONTAL-06-03cHORIZONTAL-06-04cHORIZONTAL-06-05cHORIZONTAL-06-06c@BACK",
   "cVERTICAL-00-00cVERTICAL-00-01cVERTICAL-00-02cVERTICAL-00-03cVERTICAL-00-04cVERTICAL-00-05",
   "cVERTICAL-00-06cVERTICAL-01-00cVERTICAL-01-01cVERTICAL-01-02cVERTICAL-01-03cVERTICAL-01-04",
   "cVERTICAL-01-05cVERTICAL-01-06cVERTICAL-02-00cVERTICAL-02-01cVERTICAL-02-02cVERTICAL-02-03",
   "cVERTICAL-02-04cVERTICAL-02-05cVERTICAL-02-06cVERTICAL-03-00cVERTICAL-03-01cVERTICAL-03-02",
   "cVERTICAL-03-03cVERTICAL-03-04cVERTICAL-03-05cVERTICAL-03-06cVERTICAL-04-00cVERTICAL-04-01",
   "cVERTICAL-04-02cVERTICAL-04-03cVERTICAL-04-04cVERTICAL-04-05cVERTICAL-04-06cVERTICAL-05-00",
   "cVERTICAL-05-01cVERTICAL-05-02cVERTICAL-05-03cVERTICAL-05-04cVERTICAL-05-05cVERTICAL-05-06",
   "cVERTICAL-06-00cVERTICAL-06-01cVERTICAL-06-02cVERTICAL-06-03cVERTICAL-06-04cVERTICAL-06-05",
   "cVERTICAL-06-06",
   "1F0A0aPLAYING CARD BACKcACE OF SPADEScwOF SPADESc]OF SPADEScFOUR OF SPADEScFIVE OF SPADES",
   "cSIX OF SPADEScSEVEN OF SPADEScEIGHT OF SPADEScNINE OF SPADEScTEN OF SPADEScJACK OF SPADES",
   "cKNIGHT OF SPADEScQUEEN OF SPADEScKING OF SPADES",
   "1F0B1cACE OF HEARTScwOF HEARTSc]OF HEARTScFOUR OF HEARTScFIVE OF HEARTScSIX OF HEARTS",
   "cSEVEN OF HEARTScEIGHT OF HEARTScNINE OF HEARTScTEN OF HEARTScJACK OF HEARTScKNIGHT OF HEARTS",
   "cQUEEN OF HEARTScKING OF HEARTScRED JOKER",
   "1F0C1cACE OF DIAMONDScwOF DIAMONDSc]OF DIAMONDScFOUR OF DIAMONDScFIVE OF DIAMONDS",
   "cSIX OF DIAMONDScSEVEN OF DIAMONDScEIGHT OF DIAMONDScNINE OF DIAMONDScTEN OF DIAMONDS",
   "cJACK OF DIAMONDScKNIGHT OF DIAMONDScQUEEN OF DIAMONDScKING OF DIAMONDSc^JOKER",
   "1F0D1cACE OF CLUBScwOF CLUBSc]OF CLUBScFOUR OF CLUBScFIVE OF CLUBScSIX OF CLUBScSEVEN OF CLUBS",
   "cEIGHT OF CLUBScNINE OF CLUBScTEN OF CLUBScJACK OF CLUBScKNIGHT OF CLUBScQUEEN OF CLUBS",
   "cKING OF CLUBSc_JOKERcFOOLcTRUMP-1cTRUMP-2cTRUMP-3cTRUMP-4cTRUMP-5cTRUMP-6cTRUMP-7cTRUMP-8",
   "cTRUMP-9cTRUMP-10cTRUMP-11cTRUMP-12cTRUMP-13cTRUMP-14cTRUMP-15cTRUMP-16cTRUMP-17cTRUMP-18",
   "cTRUMP-19cTRUMP-20cTRUMP-21",
   "1F100aDIGIT ZERO FULL STOPcCOMMAbONE COMMAbwCOMMAb]COMMAbFOUR COMMAbFIVE COMMAbSIX COMMA",
   "bSEVEN COMMAbEIGHT COMMAbNINE COMMAaDINGBAT CIRCLED SANS-SERIF DIGIT ZERO",
   "bNEGATIVE CIRCLED SANS-SERIF DIGIT ZEROaCIRCLED ZERO #SLASHbANTICLOCKWISE &",
   "bDOLLAR )#OVERLAID BACKSLASHaPARENTHESIZED LATIN $!AeBeCeDeEeFeGeHeIeJeKeLeMeNeOePeQeReSeTeUeV",
   "eWeXeYeZaTORTOISE SHELL BRACKETED LATIN $!SaCIRCLED ITALIC LATIN $!CfRbCDbWZaCOPYLEFT m",
   "aSQUARED LATIN $!AeBeCeDeEeFeGeHeIeJeKeLeMeNeOePeQeReSeTeUeVeWeXeYeZbHVbMVbSDbSSbPPVbWC",
   "aNEGATIVE CIRCLED LATIN $!AfBfCfDfEfFfGfHfIfJfKfLfMfNfOfPfQfRfSfTfUfVfWfXfYfZaRAISED MC )bMD )",
   "bMR )aCIRCLED CCbC #OVERLAID BACKSLASHbHUMAN FIGUREaNEGATIVE SQUARED LATIN $!AfBfCfDfEfFfGfHfI",
   "fJfKfLfMfNfOfPfQfRfSfTfUfVfWfXfYfZaCROSSED NEGATIVE SQUARED LATIN $!PaNEGATIVE SQUARED ICcPA",
   "cSAcABcWCaSQUARE DJaSQUARED CLbCOOLbFREEbIDbNEWbNGbOKbSOSbUP #EXCLAMATION pbVSb]D",
   "bSECOND SCREENbwKbFOUR KbEIGHT KbFIVE POINT ONEbSEVEN POINT ONEbTWENTY-TWO POINT wbSIXTY P",
   "bONE rTWENTY PbLATIN %!DbHCbHDRbHI-RESbLOSSLESSbSHVbUHDbVODaMASK WORK m",
   "1F1E6aREGIONAL INDICATOR m!AeBeCeDeEeFeGeHeIeJeKeLeMeNeOePeQeReSeTeUeVeWeXeYeZ",
   "aSQUARE HIRAGANA HOKAaSQUARED KATAKANA KOKOcSA",
   "1F210bCJK UNIFIED IDEOGRAPH-624BdIDEOGRAPH-5B57dIDEOGRAPH-53CCbKATAKANA DE",
   "bCJK UNIFIED IDEOGRAPH-4E8CdIDEOGRAPH-591AdIDEOGRAPH-89E3dIDEOGRAPH-5929dIDEOGRAPH-4EA4",
   "dIDEOGRAPH-6620dIDEOGRAPH-7121dIDEOGRAPH-6599dIDEOGRAPH-524DdIDEOGRAPH-5F8CdIDEOGRAPH-518D",
   "dIDEOGRAPH-65B0dIDEOGRAPH-521DdIDEOGRAPH-7D42dIDEOGRAPH-751FdIDEOGRAPH-8CA9dIDEOGRAPH-58F0",
   "dIDEOGRAPH-5439dIDEOGRAPH-6F14dIDEOGRAPH-6295dIDEOGRAPH-6355dIDEOGRAPH-4E00dIDEOGRAPH-4E09",
   "dIDEOGRAPH-904AdIDEOGRAPH-5DE6dIDEOGRAPH-4E2DdIDEOGRAPH-53F3dIDEOGRAPH-6307dIDEOGRAPH-8D70",
   "dIDEOGRAPH-6253dIDEOGRAPH-7981dIDEOGRAPH-7A7AdIDEOGRAPH-5408dIDEOGRAPH-6E80dIDEOGRAPH-6709",
   "dIDEOGRAPH-6708dIDEOGRAPH-7533dIDEOGRAPH-5272dIDEOGRAPH-55B6dIDEOGRAPH-914D",
   "1F240aTORTOISE SHELL BRACKETED CJK UNIFIED IDEOGRAPH-672CfIDEOGRAPH-4E09fIDEOGRAPH-4E8C",
   "fIDEOGRAPH-5B89fIDEOGRAPH-70B9fIDEOGRAPH-6253fIDEOGRAPH-76D7fIDEOGRAPH-52DDfIDEOGRAPH-6557",
   "1F250aCIRCLED IDEOGRAPH ADVANTAGEcACCEPT",
   "1F260aROUNDED mFOR FUdLUdSHOUdXIdSHUANGXIdCAI",
   "1F300aCYCLONEaFOGGYaCLOSED UMBRELLAaNIGHT #STARSaSUNRISE OVER MOUNTAINSaSUNRISE",
   "aCITYSCAPE AT DUSKaSUNSET OVER BUILDINGSaRAINBOWaBRIDGE AT NIGHTaWATER WAVEaVOLCANOaMILKY WAY",
   "aEARTH GLOBE EUROPE-AFRICAcAMERICAScASIA-AUSTRALIAaGLOBE #MERIDIANSaNEW MOON m",
   "aWAXING CRESCENT MOON maFIRST QUARTER MOON maWAXING GIBBOUS MOON maFULL MOON m",
   "aWANING GIBBOUS MOON maLAST QUARTER MOON maWANING CRESCENT MOON maCRESCENT MOONaNEW MOON #FACE",
   "aFIRST QUARTER MOON #FACEaLAST QUARTER MOON #FACEaFULL MOON #FACEaSUN #FACEaGLOWING STAR",
   "aSHOOTING STARaTHERMOMETERa^DROPLETa_SUNc#%CLOUDcBEHIND CLOUDe#RAINaCLOUD #RAINcSNOWcLIGHTNING",
   "cTORNADOaFOGaWIND BLOWING FACEaHOT DOGaTACOaBURRITOaCHESTNUTaSEEDLINGaEVERGREEN TREE",
   "aDECIDUOUS TREEaPALM TREEaCACTUSaHOT PEPPERaTULIPaCHERRY BLOSSOMaROSEaHIBISCUSaSUNFLOWER",
   "aBLOSSOMaEAR OF MAIZEcRICEaHERBaFOUR LEAF CLOVERaMAPLE LEAFaFALLEN LEAF",
   "aLEAF FLUTTERING IN WINDaMUSHROOMaTOMATOaAUBERGINEaGRAPESaMELONaWATERMELONaTANGERINEaLEMON",
   "aBANANAaPINEAPPLEaRED APPLEaGREEN APPLEaPEARaPEACHaCHERRIESaSTRAWBERRYaHAMBURGER",
   "aSLICE OF PIZZAaMEAT ON BONEaPOULTRY LEGaRICE CRACKERbBALLaCOOKED RICEaCURRY ;RICE",
   "aSTEAMING BOWLaSPAGHETTIaBREADaFRENCH FRIESaROASTED SWEET POTATOaDANGOaODENaSUSHIaFRIED SHRIMP",
   "aFISH CAKE #SWIRL DESIGNaSOFT ICE CREAMaSHAVED ICEaICE CREAMaDOUGHNUTaCOOKIEaCHOCOLATE BAR",
   "aCANDYaLOLLIPOPaCUSTARDaHONEY POTaSHORTCAKEaBENTO BOXaPOT OF FOODaCOOKINGaFORK ;KNIFE",
   "aTEACUP WITHOUT HANDLEaSAKE BOTTLE ;CUPaWINE GLASSaCOCKTAIL GLASSaTROPICAL DRINKaBEER MUG",
   "aCLINKING BEER MUGSaBABY BOTTLEaFORK ;KNIFE #PLATEaBOTTLE #POPPING CORKaPOPCORNaRIBBON",
   "aWRAPPED PRESENTaBIRTHDAY CAKEaJACK-O-LANTERNaCHRISTMAS TREEaFATHER CHRISTMASaFIREWORKS",
   "aFIREWORK SPARKLERaBALLOONaPARTY POPPERaCONFETTI BALLaTANABATA TREEaCROSSED FLAGS",
   "aPINE DECORATIONaJAPANESE DOLLSaCARP STREAMERaWIND CHIMEaMOON VIEWING CEREMONYaSCHOOL SATCHEL",
   "aGRADUATION CAPaHEART #TIP ON THE <aBOUQUET OF FLOWERSaMILITARY MEDALaREMINDER RIBBON",
   "aMUSICAL KEYBOARD #JACKSaSTUDIO MICROPHONEaLEVEL SLIDERaCONTROL KNOBS",
   "aBEAMED ASCENDING MUSICAL NOTESbDESCENDING MUSICAL NOTESaFILM FRAMESaADMISSION TICKETS",
   "aCAROUSEL HORSEaFERRIS WHEELaROLLER COASTERaFISHING POLE ;FISHaMICROPHONEaMOVIE CAMERAaCINEMA",
   "aHEADPHONEaARTIST PALETTEaTOP HATaCIRCUS TENTaTICKETaCLAPPER BOARDaPERFORMING ARTSaVIDEO GAME",
   "aDIRECT HITaSLOT MACHINEaBILLIARDSaGAME DIEaBOWLINGaFLOWER PLAYING CARDSaMUSICAL NOTE",
   "aMULTIPLE MUSICAL NOTESaSAXOPHONEaGUITARaMUSICAL KEYBOARDaTRUMPETaVIOLINaMUSICAL SCORE",
   "aRUNNING SHIRT #SASHaTENNIS RACQUET ;BALLaSKI ;SKI BOOTaBASKETBALL ;HOOPaCHEQUERED FLAG",
   "aSNOWBOARDERaRUNNERaSURFERaSPORTS MEDALaTROPHYaHORSE RACINGaAMERICAN FOOTBALLaRUGBY FOOTBALL",
   "aSWIMMERaWEIGHT LIFTERaGOLFERaRACING MOTORCYCLEbCARaCRICKET BAT ;BALLaVOLLEYBALL",
   "aFIELD HOCKEY STICK ;BALLaICE HOCKEY STICK ;PUCKaTABLE TENNIS PADDLE ;BALL",
   "aSNOW CAPPED MOUNTAINaCAMPINGaBEACH #UMBRELLAaBUILDING CONSTRUCTIONaHOUSE BUILDINGSaCITYSCAPE",
   "aDERELICT HOUSE BUILDINGaCLASSICAL BUILDINGaDESERTbISLANDaNATIONAL PARKaSTADIUMaHOUSE BUILDING",
   "b#GARDENaOFFICE BUILDINGaJAPANESE POST OFFICEaEUROPEAN POST OFFICEaHOSPITALaBANK",
   "aAUTOMATED TELLER MACHINEaHOTELaLOVE HOTELaCONVENIENCE STOREaSCHOOLaDEPARTMENT STOREaFACTORY",
   "aIZAKAYA LANTERNaJAPANESE CASTLEaEUROPEAN CASTLEa_PENNANTa^PENNANTaWAVING _FLAGb^FLAGaROSETTE",
   "a^ROSETTEaLABELaBADMINTON RACQUET ;SHUTTLECOCKaBOW ;&aAMPHORA",
   "aEMOJI MODIFIER FITZPATRICK TYPE-1-2dTYPE-3dTYPE-4dTYPE-5dTYPE-6aRATaMOUSEaOXaWATER BUFFALO",
   "aCOWaTIGERaLEOPARDaRABBITaCATaDRAGONaCROCODILEaWHALEaSNAILaSNAKEaHORSEaRAMaGOATaSHEEPaMONKEY",
   "aROOSTERaCHICKENaDOGaPIGaBOARaELEPHANTaOCTOPUSaSPIRAL SHELLaBUGaANTaHONEYBEEaLADY BEETLEaFISH",
   "aTROPICAL FISHaBLOWFISHaTURTLEaHATCHING CHICKaBABY CHICKaFRONT-FACING BABY CHICKaBIRDaPENGUIN",
   "aKOALAaPOODLEaDROMEDARY CAMELaBACTRIAN CAMELaDOLPHINaMOUSE FACEaCOW FACEaTIGER FACE",
   "aRABBIT FACEaCAT FACEaDRAGON FACEaSPOUTING WHALEaHORSE FACEaMONKEY FACEaDOG FACEaPIG FACE",
   "aFROG FACEaHAMSTER FACEaWOLF FACEaBEAR FACEaPANDA FACEaPIG NOSEaPAW PRINTSaCHIPMUNKaEYESaEYE",
   "aEARaNOSEaMOUTHaTONGUEa_UP POINTING BACKHAND INDEXbDOWN POINTING BACKHAND INDEX",
   "b<POINTING BACKHAND INDEXb*POINTING BACKHAND INDEXaFISTED HAND )aWAVING HAND )aOK HAND )",
   "aTHUMBS UP )bDOWN )aCLAPPING HANDS )aOPEN HANDS )aCROWNaWOMANS HATaEYEGLASSESaNECKTIEaT-SHIRT",
   "aJEANSaDRESSaKIMONOaBIKINIaWOMANS CLOTHESaPURSEaHANDBAGaPOUCHaMANS SHOEaATHLETIC SHOE",
   "aHIGH-HEELED SHOEaWOMANS SANDALbBOOTSaFOOTPRINTSaBUST IN SILHOUETTEaBUSTS IN SILHOUETTEaBOY",
   "aGIRLaMANaWOMANaFAMILYaMAN ;WOMAN HOLDING HANDSawMEN HOLDING HANDSbWOMEN HOLDING HANDS",
   "aPOLICE OFFICERaWOMAN #BUNNY EARSaBRIDE #VEILaPERSON #BLOND HAIRaMAN #GUA PI MAOcTURBAN",
   "aOLDER MANbWOMANaBABYaCONSTRUCTION WORKERaPRINCESSaJAPANESE OGREbGOBLINaGHOSTaBABY ANGEL",
   "aEXTRATERRESTRIAL ALIENaALIEN MONSTERaIMPaSKULLaINFORMATION DESK PERSONaGUARDSMANaDANCER",
   "aLIPSTICKaNAIL POLISHaFACE MASSAGEaHAIRCUTaBARBER POLEaSYRINGEaPILLaKISS paLOVE !aRING",
   "aGEM STONEaKISSaBOUQUETaCOUPLE #HEARTaWEDDINGaBEATING HEARTaBROKEN HEARTawHEARTS",
   "aSPARKLING HEARTaGROWING HEARTaHEART #&aBLUE HEARTaGREEN HEARTaYELLOW HEARTaPURPLE HEART",
   "aHEART #RIBBONaREVOLVING HEARTSaHEART DECORATIONaDIAMOND SHAPE #A vINSIDEaELECTRIC LIGHT BULB",
   "aANGER maBOMBaSLEEPING maCOLLISION maSPLASHING SWEAT maDROPLETaDASH maPILE OF POO",
   "aFLEXED BICEPSaDIZZY maSPEECH BALLOONaTHOUGHT BALLOONa_FLOWERarPOINTS maMONEY BAG",
   "aCURRENCY EXCHANGEasDOLLAR )aCREDIT CARDaBANKNOTE #YEN )cDOLLAR )cEURO )cPOUND )aMONEY #WINGS",
   "aCHART #UPWARDS TREND ;YEN )aSEATaPERSONAL COMPUTERaBRIEFCASEaMINIDISCaFLOPPY DISK",
   "aOPTICAL DISCaDVDaFILE FOLDERaOPEN FILE FOLDERaPAGE #CURLbFACING UPaCALENDARaTEAR-OFF CALENDAR",
   "aCARD INDEXaCHART #UPWARDS TRENDcqTRENDaBAR CHARTaCLIPBOARDaPUSHPINaROUND PUSHPINaPAPERCLIP",
   "aSTRAIGHT RULERaTRIANGULAR RULERaBOOKMARK TABSaLEDGERaNOTEBOOKb#DECORATIVE COVERaCLOSED BOOK",
   "aOPEN BOOKaGREEN BOOKaBLUE BOOKaORANGE BOOKaBOOKSaNAME BADGEaSCROLLaMEMOaTELEPHONE RECEIVER",
   "aPAGERaFAX MACHINEaSATELLITE ANTENNAaPUBLIC ADDRESS LOUDSPEAKERaCHEERING MEGAPHONEaOUTBOX TRAY",
   "aINBOX TRAYaPACKAGEaE-MAIL maINCOMING ENVELOPEaENVELOPE #q&,aCLOSED MAILBOX #LOWERED FLAG",
   "dRAISED FLAGaOPEN MAILBOX #RAISED FLAGdLOWERED FLAGaPOSTBOXaPOSTAL HORNaNEWSPAPERaMOBILE PHONE",
   "c#.&AT <aVIBRATION MODEaMOBILE PHONE OFFaNO MOBILE PHONESaANTENNA #BARSaCAMERAb#FLASH",
   "aVIDEO CAMERAaTELEVISIONaRADIOaVIDEOCASSETTEaFILM PROJECTORaPORTABLE STEREOaPRAYER BEADS",
   "aTWISTED .ARROWSaCLOCKWISE .;?OPEN CIRCLE ARROWSh#CIRCLED ONE OVERLAY",
   "bq;UPWARDS OPEN CIRCLE ARROWSaANTICLOCKWISE q;UPWARDS OPEN CIRCLE ARROWSaLOW BRIGHTNESS m",
   "aHIGH BRIGHTNESS maSPEAKER #CANCELLATION ~aSPEAKERb#ONE SOUND WAVEc]SOUND WAVESaBATTERY",
   "aELECTRIC PLUGaLEFT-POINTING MAGNIFYING GLASSaRIGHT-POINTING MAGNIFYING GLASSaLOCK #INK PEN",
   "aCLOSED LOCK #KEYaKEYaLOCKaOPEN LOCKaBELLb#CANCELLATION ~aBOOKMARKaLINK maRADIO BUTTON",
   "aBACK #?&,aEND #?&,aON #EXCLAMATION p#<*&,aSOON #.&,aTOP #UPWARDS &,aNO ONE UNDER EIGHTEEN m",
   "aKEYCAP TENaINPUT mFOR LATIN $LETTERSe%LETTERSdNUMBERSdSYMBOLSdLATIN LETTERSaFIRE",
   "aELECTRIC TORCHaWRENCHaHAMMERaNUT ;BOLTaHOCHOaPISTOLaMICROSCOPEaTELESCOPEaCRYSTAL BALL",
   "aSIX POINTED STAR #ovaJAPANESE mFOR BEGINNERaTRIDENT EMBLEMa^SQUARE BUTTONa_SQUARE BUTTON",
   "aLARGE RED CIRCLEbBLUE CIRCLEbORANGE DIAMONDbBLUE DIAMONDa%ORANGE DIAMONDbBLUE DIAMOND",
   "aUP-POINTING RED TRIANGLEaDOWN-POINTING RED TRIANGLEaUP-POINTING %RED TRIANGLE",
   "aDOWN-POINTING %RED TRIANGLEaLOWER *SHADOWED _CIRCLEaUPPER *SHADOWED _CIRCLE",
   "aCIRCLED CROSS POMMEEaCROSS POMMEE #HALF-CIRCLE [bPOMMEEaNOTCHED <SEMICIRCLE #]DOTS",
   "b*SEMICIRCLE #]DOTSamFOR MARKS CHAPTERa_LATIN CROSSasLATIN CROSSaCELTIC CROSSaOM m",
   "aDOVE OF PEACEaKAABAaMOSQUEaSYNAGOGUEaMENORAH #NINE BRANCHESaBOWL OF HYGIEIA",
   "aCLOCK FACE ONE OCLOCKcwOCLOCKc]OCLOCKcFOUR OCLOCKcFIVE OCLOCKcSIX OCLOCKcSEVEN OCLOCK",
   "cEIGHT OCLOCKcNINE OCLOCKcTEN OCLOCKcELEVEN OCLOCKcTWELVE OCLOCKcONE-THIRTYcTWO-THIRTY",
   "cTHREE-THIRTYcFOUR-THIRTYcFIVE-THIRTYcSIX-THIRTYcSEVEN-THIRTYcEIGHT-THIRTYcNINE-THIRTY",
   "cTEN-THIRTYcELEVEN-THIRTYcTWELVE-THIRTYa*SPEAKERc#ONE SOUND WAVEd]SOUND WAVESaBULLHORN",
   "b#SOUND WAVESaRINGING BELLaBOOKaCANDLEaMANTELPIECE CLOCKa^SKULL ;CROSSBONESaNO PIRACYaHOLE",
   "aMAN IN BUSINESS SUIT LEVITATINGaSLEUTH OR SPYaDARK SUNGLASSESaSPIDERbWEBaJOYSTICKaMAN DANCING",
   "a<HAND TELEPHONE RECEIVERaTELEPHONE RECEIVER #PAGEa*HAND TELEPHONE RECEIVER",
   "a_TOUCHTONE TELEPHONEa^TOUCHTONE TELEPHONEaTELEPHONE ON TOP OF MODEMaCLAMSHELL MOBILE PHONE",
   "aBACK OF ENVELOPEaSTAMPED ENVELOPEaENVELOPE #LIGHTNINGaFLYING ENVELOPE",
   "aPEN OVER STAMPED ENVELOPEaLINKED PAPERCLIPSa^PUSHPINaLOWER <PENCILcBALLPOINT PENcFOUNTAIN PEN",
   "cPAINTBRUSHcCRAYONa<WRITING HANDaTURNED OK HAND )aRAISED HAND #FINGERS SPLAYED",
   "aREVERSED RAISED HAND #FINGERS SPLAYEDbTHUMBS UP )cDOWN )bVICTORY HANDbHAND #oFINGER EXTENDED",
   "aRAISED HAND #PART BETWEEN o;RING FINGERSa_DOWN POINTING <HAND INDEXaSIDEWAYS _<POINTING INDEX",
   "c*POINTING INDEXb^<POINTING INDEXc*POINTING INDEXa^<POINTING BACKHAND INDEX",
   "b*POINTING BACKHAND INDEXaSIDEWAYS _UP POINTING INDEXcDOWN POINTING INDEXb^UP POINTING INDEX",
   "cDOWN POINTING INDEXa^UP POINTING BACKHAND INDEXbDOWN POINTING BACKHAND INDEXbHEART",
   "aDESKTOP COMPUTERaKEYBOARD ;MOUSEa]NETWORKED COMPUTERSaPRINTERaPOCKET CALCULATOR",
   "a^HARD SHELL FLOPPY DISKa_HARD SHELL FLOPPY DISKaSOFT SHELL FLOPPY DISKaTAPE CARTRIDGE",
   "aWIRED KEYBOARDaONE BUTTON MOUSEawBUTTON MOUSEa]BUTTON MOUSEaTRACKBALLaOLD PERSONAL COMPUTER",
   "aHARD DISKaSCREENaPRINTER ICONaFAX ICONaOPTICAL DISC ICONaDOCUMENT #TEXTd;PICTUREcPICTURE",
   "aFRAME #PICTUREcTILEScAN Xa^FOLDERaFOLDERaOPEN FOLDERaCARD INDEX DIVIDERSbFILE BOX",
   "aFILE CABINETaEMPTY NOTEcPAGEcPADaNOTEbPAGEbPADaEMPTY DOCUMENTbPAGEbPAGESaDOCUMENTaPAGEaPAGES",
   "aWASTEBASKETaSPIRAL NOTE PADbCALENDAR PADaDESKTOP WINDOWaMINIMIZEaMAXIMIZEaOVERLAP",
   "aCLOCKWISE *;<SEMICIRCLE ARROWSaCANCELLATION XaINCREASE FONT SIZE maDECREASE FONT SIZE m",
   "aCOMPRESSIONaOLD KEYaROLLED-UP NEWSPAPERaPAGE #CIRCLED TEXTaSTOCK CHARTaDAGGER KNIFEaLIPS",
   "aSPEAKING HEAD IN SILHOUETTEa]RAYS ,c[c<c*a<SPEECH BUBBLEa*SPEECH BUBBLEawSPEECH BUBBLES",
   "a]SPEECH BUBBLESa<THOUGHT BUBBLEa*THOUGHT BUBBLEa<ANGER BUBBLEa*ANGER BUBBLEaMOOD BUBBLE",
   "aLIGHTNING MOOD BUBBLEbMOODaBALLOT BOX #BALLOTbSCRIPT XbBOX #SCRIPT XbBOLD SCRIPT X",
   "bBOX #BOLD SCRIPT XaLIGHT CHECK paBALLOT BOX #BOLD CHECKaWORLD MAPaMOUNT FUJIaTOKYO TOWER",
   "aSTATUE OF LIBERTYaSILHOUETTE OF JAPANaMOYAIaGRINNING FACEc#SMILING EYESaFACE #TEARS OF JOY",
   "aSMILING FACE #OPEN MOUTHf;SMILING EYESgCOLD SWEATgTIGHTLY-CLOSED EYESdHALOdHORNSaWINKING FACE",
   "aSMILING FACE #SMILING EYESaFACE SAVOURING DELICIOUS FOODaRELIEVED FACE",
   "aSMILING FACE #HEART-SHAPED EYESdSUNGLASSESaSMIRKING FACEaNEUTRAL FACEaEXPRESSIONLESS FACE",
   "aUNAMUSED FACEaFACE #COLD SWEATaPENSIVE FACEaCONFUSED FACEaCONFOUNDED FACEaKISSING FACE",
   "aFACE THROWING A KISSaKISSING FACE #SMILING EYESdCLOSED EYESaFACE #STUCK-OUT TONGUE",
   "e;WINKING EYEfTIGHTLY-CLOSED EYESaDISAPPOINTED FACEaWORRIED FACEaANGRY FACEaPOUTING FACE",
   "aCRYING FACEaPERSEVERING FACEaFACE #LOOK OF TRIUMPHaDISAPPOINTED BUT RELIEVED FACE",
   "aFROWNING FACE #OPEN MOUTHaANGUISHED FACEaFEARFUL FACEaWEARY FACEaSLEEPY FACEaTIRED FACE",
   "aGRIMACING FACEaLOUDLY CRYING FACEaFACE #OPEN MOUTHaHUSHED FACEaFACE #OPEN MOUTH ;COLD SWEAT",
   "bSCREAMING IN FEARaASTONISHED FACEaFLUSHED FACEaSLEEPING FACEaDIZZY FACEaFACE WITHOUT MOUTH",
   "b#MEDICAL MASKaGRINNING CAT FACE #SMILING EYESaCAT FACE #TEARS OF JOY",
   "aSMILING CAT FACE #OPEN MOUTHeHEART-SHAPED EYESaCAT FACE #WRY SMILE",
   "aKISSING CAT FACE #CLOSED EYESaPOUTING CAT FACEaCRYING CAT FACEaWEARY CAT FACE",
   "aSLIGHTLY FROWNING FACEbSMILING FACEaUPSIDE-DOWN FACEaFACE #ROLLING EYEScNO GOOD GESTURE",
   "cOK GESTUREaPERSON BOWING DEEPLYaSEE-NO-EVIL MONKEYaHEAR-NO-EVIL MONKEYaSPEAK-NO-EVIL MONKEY",
   "aHAPPY PERSON RAISING ONE HANDaPERSON RAISING BOTH HANDS IN CELEBRATIONbFROWNINGb#POUTING FACE",
   "cFOLDED HANDSaNORTH WEST POINTING LEAFaSOUTH WEST POINTING LEAFaNORTH EAST POINTING LEAF",
   "aSOUTH EAST POINTING LEAFaTURNED NORTH WEST POINTING LEAFbSOUTH WEST POINTING LEAF",
   "bNORTH EAST POINTING LEAFbSOUTH EAST POINTING LEAFaNORTH WEST POINTING VINE LEAF",
   "aSOUTH WEST POINTING VINE LEAFaNORTH EAST POINTING VINE LEAFaSOUTH EAST POINTING VINE LEAF",
   "asNORTH WEST POINTING VINE LEAFbSOUTH WEST POINTING VINE LEAFbNORTH EAST POINTING VINE LEAF",
   "bSOUTH EAST POINTING VINE LEAFaNORTH WEST POINTING BUDaSOUTH WEST POINTING BUD",
   "aNORTH EAST POINTING BUDaSOUTH EAST POINTING BUDasNORTH WEST POINTING BUD",
   "bSOUTH WEST POINTING BUDbNORTH EAST POINTING BUDbSOUTH EAST POINTING BUD",
   "aHOLLOW QUILT SQUARE ORNAMENTeIN ^SQUAREaSOLID QUILT SQUARE ORNAMENTeIN ^SQUAREa?ROCKET",
   "aUPWARDS ROCKETa.ROCKETaqROCKETaSCRIPT LIGATURE ET ORNAMENTasSCRIPT LIGATURE ET ORNAMENT",
   "aLIGATURE OPEN ET ORNAMENTasLIGATURE OPEN ET ORNAMENTbAMPERSAND ORNAMENT",
   "aSWASH AMPERSAND ORNAMENTaSANS-SERIF s:TURNED COMMA QUOTATION pORNAMENT",
   "dCOMMA QUOTATION pORNAMENTcLOW :COMMA QUOTATION pORNAMENTasINTERROBANG ORNAMENT",
   "aSANS-SERIF INTERROBANG ORNAMENTasSANS-SERIF INTERROBANG ORNAMENTaVERY sSOLIDUS",
   "cREVERSE SOLIDUSaCHECKER BOARDaREVERSE CHECKER BOARDaROCKETaHELICOPTERaSTEAM LOCOMOTIVE",
   "aRAILWAY CARaHIGH-SPEED TRAINc#BULLET NOSEaTRAINaMETROaLIGHT RAILaSTATIONaTRAMbCARaBUS",
   "aONCOMING BUSaTROLLEYBUSaBUS STOPaMINIBUSaAMBULANCEaFIRE ENGINEaPOLICE CARaONCOMING POLICE CAR",
   "aTAXIaONCOMING TAXIaAUTOMOBILEaONCOMING AUTOMOBILEaRECREATIONAL VEHICLEaDELIVERY TRUCK",
   "aARTICULATED LORRYaTRACTORaMONORAILaMOUNTAIN RAILWAYaSUSPENSION RAILWAYaMOUNTAIN CABLEWAY",
   "aAERIAL TRAMWAYaSHIPaROWBOATaSPEEDBOATanTRAFFIC LIGHTa@TRAFFIC LIGHTaCONSTRUCTION )",
   "aPOLICE CARS REVOLVING LIGHTaTRIANGULAR FLAG ON POSTaDOORaNO ENTRY )aSMOKING maNO SMOKING m",
   "aPUT LITTER IN ITS PLACE maDO NOT LITTER maPOTABLE WATER maNON-POTABLE WATER maBICYCLE",
   "aNO BICYCLESaBICYCLISTaMOUNTAIN BICYCLISTaPEDESTRIANaNO PEDESTRIANSaCHILDREN CROSSINGaMENS m",
   "aWOMENS maRESTROOMaBABY maTOILETaWATER CLOSETaSHOWERaBATHaBATHTUBaPASSPORT CONTROLaCUSTOMS",
   "aBAGGAGE CLAIMa<LUGGAGEaTRIANGLE #ROUNDED CORNERSaPROHIBITED )aCIRCLED INFORMATION SOURCE",
   "aBOYS maGIRLS maCOUCH ;LAMPaSLEEPING ACCOMMODATIONaSHOPPING BAGSaBELLHOP BELLaBED",
   "aPLACE OF WORSHIPaOCTAGONAL )aSHOPPING TROLLEYaSTUPAaPAGODAaHINDU TEMPLEaHUTaELEVATOR",
   "1F6DDaPLAYGROUND SLIDEaWHEELaRING BUOYaHAMMER ;WRENCHaSHIELDaOIL DRUMaMOTORWAYaRAILWAY TRACK",
   "aMOTOR BOATaUP-POINTING MILITARY AIRPLANEbAIRPLANEb%AIRPLANEa%AIRPLANE",
   "aNORTHEAST-POINTING AIRPLANEaAIRPLANE DEPARTUREbARRIVING",
   "1F6F0aSATELLITEaONCOMING FIRE ENGINEaDIESEL LOCOMOTIVEaPASSENGER SHIPaSCOOTERaMOTOR SCOOTER",
   "aCANOEaSLEDaFLYING SAUCERaSKATEBOARDaAUTO RICKSHAWaPICKUP TRUCKaROLLER SKATE",
   "1F700aALCHEMICAL mFOR QUINTESSENCEdAIRdFIREdEARTHdWATERdAQUAFORTISdAQUA REGIAeREGIA-2eVITAE",
   "eVITAE-2dVINEGARdVINEGAR-2dVINEGAR-3dSULFURdPHILOSOPHERS SULFURd^SULFURdMERCURY SUBLIMATE",
   "eSUBLIMATE-2eSUBLIMATE-3dCINNABARdSALTdNITREdVITRIOLdVITRIOL-2dROCK SALTeSALT-2dGOLDdSILVER",
   "dIRON OREeORE-2dCROCUS OF IRONdREGULUS OF IRONdCOPPER OREdIRON-COPPER OREdSUBLIMATE OF COPPER",
   "dCROCUS OF COPPERfCOPPER-2dCOPPER ANTIMONIATEdSALT OF COPPER ANTIMONIATE",
   "dSUBLIMATE OF SALT OF COPPERdVERDIGRISdTIN OREdLEAD OREdANTIMONY OREdSUBLIMATE OF ANTIMONY",
   "dSALT OF ANTIMONYdSUBLIMATE OF SALT OF ANTIMONYdVINEGAR OF ANTIMONYdREGULUS OF ANTIMONY",
   "fANTIMONY-2dREGULUSdREGULUS-2dREGULUS-3dREGULUS-4dALKALIdALKALI-2dMARCASITEdSAL-AMMONIAC",
   "dARSENICdREALGARdREALGAR-2dAURIPIGMENTdBISMUTH OREdTARTARdTARTAR-2dQUICK LIMEdBORAXdBORAX-2",
   "dBORAX-3dALUMdOILdSPIRITdTINCTUREdGUMdWAXdPOWDERdCALXdTUTTYdCAPUT MORTUUMdSCEPTER OF JOVE",
   "dCADUCEUSdTRIDENTdSTARRED TRIDENTdLODESTONEdSOAPdURINEdHORSE DUNGdASHESdPOT ASHESdBRICK",
   "dPOWDERED BRICKdAMALGAMdSTRATUM SUPER STRATUMfSTRATUM-2dSUBLIMATIONdPRECIPITATEdDISTILL",
   "dDISSOLVEdDISSOLVE-2dPURIFYdPUTREFACTIONdCRUCIBLEdCRUCIBLE-2dCRUCIBLE-3dCRUCIBLE-4dCRUCIBLE-5",
   "dALEMBICdBATH OF MARYfVAPOURSdRETORTdHOURdNIGHTdDAY-NIGHTdMONTHdHALF DRAMeOUNCE",
   "1F780a^LEFT-POINTING ISOSCELES *TRIANGLEbUP-POINTING ISOSCELES *TRIANGLE",
   "bRIGHT-POINTING ISOSCELES *TRIANGLEbDOWN-POINTING ISOSCELES *TRIANGLEbSLIGHTLY %CIRCLE",
   "aMEDIUM BOLD _CIRCLEaBOLD _CIRCLEas_CIRCLEaVERY s_CIRCLEaEXTREMELY s_CIRCLE",
   "a_CIRCLE CONTAINING ^%CIRCLEaROUND TARGETa^TINY SQUAREbSLIGHTLY %SQUAREaLIGHT _SQUARE",
   "aMEDIUM _SQUAREaBOLD _SQUAREas_SQUAREaVERY s_SQUAREaEXTREMELY s_SQUARE",
   "a_SQUARE CONTAINING ^VERY %SQUAREeMEDIUM SQUAREaSQUARE TARGETa^TINY DIAMONDbVERY %DIAMOND",
   "bMEDIUM %DIAMONDa_DIAMOND CONTAINING ^VERY %DIAMONDeMEDIUM DIAMONDaDIAMOND TARGET",
   "a^TINY LOZENGEbVERY %LOZENGEbMEDIUM %LOZENGEa_LOZENGE CONTAINING ^%LOZENGEaTHIN GREEK CROSS",
   "aLIGHT GREEK CROSSaMEDIUM GREEK CROSSaBOLD GREEK CROSSaVERY BOLD GREEK CROSSbsGREEK CROSS",
   "aEXTREMELY sGREEK CROSSaTHIN SALTIREaLIGHT SALTIREaMEDIUM SALTIREaBOLD SALTIREasSALTIRE",
   "aVERY sSALTIREaEXTREMELY sSALTIREaLIGHT FIVE SPOKED ASTERISKaMEDIUM FIVE SPOKED ASTERISK",
   "aBOLD FIVE SPOKED ASTERISKasFIVE SPOKED ASTERISKaVERY sFIVE SPOKED ASTERISK",
   "aEXTREMELY sFIVE SPOKED ASTERISKaLIGHT SIX SPOKED ASTERISKaMEDIUM SIX SPOKED ASTERISK",
   "aBOLD SIX SPOKED ASTERISKasSIX SPOKED ASTERISKaVERY sSIX SPOKED ASTERISK",
   "aEXTREMELY sSIX SPOKED ASTERISKaLIGHT EIGHT SPOKED ASTERISKaMEDIUM EIGHT SPOKED ASTERISK",
   "aBOLD EIGHT SPOKED ASTERISKasEIGHT SPOKED ASTERISKaVERY sEIGHT SPOKED ASTERISK",
   "aLIGHT ]POINTED ^STARaMEDIUM ]POINTED ^STARa]POINTED ^STARaMEDIUM ]POINTED PINWHEEL STAR",
   "aLIGHT FOUR POINTED ^STARaMEDIUM FOUR POINTED ^STARaFOUR POINTED ^STAR",
   "aMEDIUM FOUR POINTED PINWHEEL STARaREVERSE LIGHT FOUR POINTED PINWHEEL STAR",
   "aLIGHT FIVE POINTED ^STARasFIVE POINTED ^STARaMEDIUM SIX POINTED ^STARasSIX POINTED ^STAR",
   "aSIX POINTED PINWHEEL STARaMEDIUM EIGHT POINTED ^STARasEIGHT POINTED ^STAR",
   "aVERY sEIGHT POINTED ^STARasEIGHT POINTED PINWHEEL STARaLIGHT TWELVE POINTED ^STAR",
   "asTWELVE POINTED ^STARdPINWHEEL STARaCIRCLED TRIANGLEaNEGATIVE CIRCLED TRIANGLEaCIRCLED SQUARE",
   "aNEGATIVE CIRCLED SQUARE",
   "1F7E0aLARGE ORANGE CIRCLEbYELLOW CIRCLEbGREEN CIRCLEbPURPLE CIRCLEbBROWN CIRCLEbRED SQUARE",
   "bBLUE SQUAREbORANGE SQUAREbYELLOW SQUAREbGREEN SQUAREbPURPLE SQUAREbBROWN SQUARE",
   "1F7F0asEQUALS )",
   "1F800a?&#%TRIANGLE ARROWHEADaUPWARDS &#%TRIANGLE ARROWHEADa.&#%TRIANGLE ARROWHEAD",
   "aq&#%TRIANGLE ARROWHEADa?&#MEDIUM TRIANGLE ARROWHEADaUPWARDS &#MEDIUM TRIANGLE ARROWHEAD",
   "a.&#MEDIUM TRIANGLE ARROWHEADaq&#MEDIUM TRIANGLE ARROWHEADa?&#LARGE TRIANGLE ARROWHEAD",
   "aUPWARDS &#LARGE TRIANGLE ARROWHEADa.&#LARGE TRIANGLE ARROWHEADaq&#LARGE TRIANGLE ARROWHEAD",
   "1F810a?&#%EQUILATERAL ARROWHEADaUPWARDS &#%EQUILATERAL ARROWHEADa.&#%EQUILATERAL ARROWHEAD",
   "aq&#%EQUILATERAL ARROWHEADa?&#EQUILATERAL ARROWHEADaUPWARDS &#EQUILATERAL ARROWHEAD",
   "a.&#EQUILATERAL ARROWHEADaq&#EQUILATERAL ARROWHEADas?&#EQUILATERAL ARROWHEAD",
   "bUPWARDS &#EQUILATERAL ARROWHEADb.&#EQUILATERAL ARROWHEADbq&#EQUILATERAL ARROWHEAD",
   "b?&#LARGE EQUILATERAL ARROWHEADbUPWARDS &#LARGE EQUILATERAL ARROWHEAD",
   "b.&#LARGE EQUILATERAL ARROWHEADbq&#LARGE EQUILATERAL ARROWHEADa?|&#NARROW SHAFT",
   "aUPWARDS |&#NARROW SHAFTa.|&#NARROW SHAFTaq|&#NARROW SHAFTa?|&#MEDIUM SHAFT",
   "aUPWARDS |&#MEDIUM SHAFTa.|&#MEDIUM SHAFTaq|&#MEDIUM SHAFTa?|&#BOLD SHAFT",
   "aUPWARDS |&#BOLD SHAFTa.|&#BOLD SHAFTaq|&#BOLD SHAFTa?|&#sSHAFTaUPWARDS |&#sSHAFTa.|&#sSHAFT",
   "aq|&#sSHAFTa?|&#VERY sSHAFTaUPWARDS |&#VERY sSHAFTa.|&#VERY sSHAFTaq|&#VERY sSHAFT",
   "a?FINGER-POST &aUPWARDS FINGER-POST &a.FINGER-POST &aqFINGER-POST &a?SQUARED &",
   "aUPWARDS SQUARED &a.SQUARED &aqSQUARED &a?COMPRESSED &aUPWARDS COMPRESSED &a.COMPRESSED &",
   "aqCOMPRESSED &a?sCOMPRESSED &aUPWARDS sCOMPRESSED &a.sCOMPRESSED &aqsCOMPRESSED &a?s&",
   "aUPWARDS s&a.s&aqs&",
   "1F850a?SANS-SERIF &aUPWARDS SANS-SERIF &a.SANS-SERIF &aqSANS-SERIF &aNORTH WEST SANS-SERIF &",
   "bEAST SANS-SERIF &aSOUTH EAST SANS-SERIF &bWEST SANS-SERIF &a<*SANS-SERIF &",
   "aUP DOWN SANS-SERIF &",
   "1F860aWIDE-HEADED ?LIGHT BARB &bUPWARDS LIGHT BARB &b.LIGHT BARB &bqLIGHT BARB &",
   "bNORTH WEST LIGHT BARB &cEAST LIGHT BARB &bSOUTH EAST LIGHT BARB &cWEST LIGHT BARB &b?BARB &",
   "bUPWARDS BARB &b.BARB &bqBARB &bNORTH WEST BARB &cEAST BARB &bSOUTH EAST BARB &cWEST BARB &",
   "b?MEDIUM BARB &bUPWARDS MEDIUM BARB &b.MEDIUM BARB &bqMEDIUM BARB &bNORTH WEST MEDIUM BARB &",
   "cEAST MEDIUM BARB &bSOUTH EAST MEDIUM BARB &cWEST MEDIUM BARB &b?sBARB &bUPWARDS sBARB &",
   "b.sBARB &bqsBARB &bNORTH WEST sBARB &cEAST sBARB &bSOUTH EAST sBARB &cWEST sBARB &",
   "b?VERY sBARB &bUPWARDS VERY sBARB &b.VERY sBARB &bqVERY sBARB &bNORTH WEST VERY sBARB &",
   "cEAST VERY sBARB &bSOUTH EAST VERY sBARB &cWEST VERY sBARB &",
   "1F890a?TRIANGLE ARROWHEADaUPWARDS TRIANGLE ARROWHEADa.TRIANGLE ARROWHEADaqTRIANGLE ARROWHEAD",
   "a?_&WITHIN TRIANGLE ARROWHEADaUPWARDS _&WITHIN TRIANGLE ARROWHEADa._&WITHIN TRIANGLE ARROWHEAD",
   "aq_&WITHIN TRIANGLE ARROWHEADa?&#NOTCHED TAILaUPWARDS &#NOTCHED TAILa.&#NOTCHED TAIL",
   "aq&#NOTCHED TAILas&SHAFT WIDTH ONEewTHIRDSeONE HALFfTHIRDa?BOTTOM-SHADED _&a.BOTTOM SHADED _&",
   "a?TOP SHADED _&a.TOP SHADED _&a?LEFT-SHADED _&a.RIGHT-SHADED _&a?RIGHT-SHADED _&",
   "a.LEFT-SHADED _&a?BACK-TILTED SHADOWED _&a.BACK-TILTED SHADOWED _&a?FRONT-TILTED SHADOWED _&",
   "a.FRONT-TILTED SHADOWED _&a_&SHAFT WIDTH ONEewTHIRDS",
   "1F8B0a&POINTING UPWARDS THEN NORTH WESTc.THEN CURVING SOUTH WEST",
   "1F900aCIRCLED CROSS FORMEE #FOUR DOTSewDOTScFORMEEa<HALF CIRCLE #FOUR DOTSe]DOTSewDOTSev",
   "cCIRCLEaDOWNWARD FACING HOOKcNOTCHED HOOKcHOOK #vcNOTCHED HOOK #vaPINCHED FINGERSa_HEART",
   "aBROWN HEARTaPINCHING HANDaZIPPER-MOUTH FACEaMONEY-MOUTH FACEaFACE #THERMOMETERaNERD FACE",
   "aTHINKING FACEaFACE #HEAD-BANDAGEaROBOT FACEaHUGGING FACEa)OF THE HORNSaCALL ME HAND",
   "aRAISED BACK OF HANDaLEFT-FACING FISTaRIGHT-FACING FISTaHANDSHAKE",
   "aHAND #INDEX ;oFINGERS CROSSEDaI LOVE YOU HAND )aFACE #COWBOY HATaCLOWN FACEaNAUSEATED FACE",
   "aROLLING ON THE FLOOR LAUGHINGaDROOLING FACEaLYING FACEaFACE PALMaSNEEZING FACE",
   "aFACE #ONE EYEBROW RAISEDaGRINNING FACE #STAR EYESdONE LARGE ;ONE %EYE",
   "aFACE #FINGER COVERING CLOSED LIPSaSERIOUS FACE #SYMBOLS COVERING MOUTH",
   "aSMILING FACE #SMILING EYES ;HAND COVERING MOUTHaFACE #OPEN MOUTH VOMITING",
   "aSHOCKED FACE #EXPLODING HEADaPREGNANT WOMANaBREAST-FEEDINGaPALMS UP TOGETHERaSELFIEaPRINCE",
   "aMAN IN TUXEDOaMOTHER CHRISTMASaSHRUGaPERSON DOING CARTWHEELaJUGGLINGaFENCERaMODERN PENTATHLON",
   "aWRESTLERSaWATER POLOaHANDBALLaDIVING MASKaWILTED FLOWERaDRUM #DRUMSTICKSaCLINKING GLASSES",
   "aTUMBLER GLASSaSPOONaGOAL NETaRIFLEaFIRST PLACE MEDALaSECOND PLACE MEDALaTHIRD PLACE MEDAL",
   "aBOXING GLOVEaMARTIAL ARTS UNIFORMaCURLING STONEaLACROSSE STICK ;BALLaSOFTBALLaFLYING DISC",
   "aCROISSANTaAVOCADOaCUCUMBERaBACONaPOTATOaCARROTaBAGUETTE BREADaGREEN SALADaSHALLOW PAN OF FOOD",
   "aSTUFFED FLATBREADaEGGaGLASS OF MILKaPEANUTSaKIWIFRUITaPANCAKESaDUMPLINGaFORTUNE COOKIE",
   "aTAKEOUT BOXaCHOPSTICKSaBOWL #SPOONaCUP #STRAWaCOCONUTaBROCCOLIaPIEaPRETZELaCUT OF MEAT",
   "aSANDWICHaCANNED FOODaLEAFY GREENaMANGOaMOON CAKEaBAGELaSMILING FACE #SMILING EYES ;]HEARTS",
   "aYAWNING FACEaSMILING FACE #TEARaFACE #PARTY HORN ;PARTY HATcUNEVEN EYES ;WAVY MOUTH",
   "aOVERHEATED FACEaFREEZING FACEaNINJAaDISGUISED FACEaFACE HOLDING BACK TEARSb#PLEADING EYES",
   "aSARIaLAB COATaGOGGLESaHIKING BOOTaFLAT SHOEaCRABaLION FACEaSCORPIONaTURKEYaUNICORN FACEaEAGLE",
   "aDUCKaBATaSHARKaOWLaFOX FACEaBUTTERFLYaDEERaGORILLAaLIZARDaRHINOCEROSaSHRIMPaSQUID",
   "aGIRAFFE FACEaZEBRA FACEaHEDGEHOGaSAUROPODaT-REXaCRICKETaKANGAROOaLLAMAaPEACOCKaHIPPOPOTAMUS",
   "aPARROTaRACCOONaLOBSTERaMOSQUITOaMICROBEaBADGERaSWANaMAMMOTHaDODOaSLOTHaOTTERaORANGUTANaSKUNK",
   "aFLAMINGOaOYSTERaBEAVERaBISONaSEALaGUIDE DOGaPROBING CANEaEMOJI COMPONENT RED HAIRcCURLY HAIR",
   "cBALDc_HAIRaBONEaLEGaFOOTaTOOTHaSUPERHEROaSUPERVILLAINaSAFETY VESTaEAR #HEARING AID",
   "aMOTORIZED WHEELCHAIRaMANUAL WHEELCHAIRaMECHANICAL ARMbLEGaCHEESE WEDGEaCUPCAKEaSALT SHAKER",
   "aBEVERAGE BOXaGARLICaONIONaFALAFELaWAFFLEaBUTTERaMATE DRINKaICE CUBEaBUBBLE TEAaTROLL",
   "aSTANDING PERSONaKNEELING PERSONaDEAF PERSONaFACE #MONOCLEaADULTaCHILDaOLDER ADULT",
   "aBEARDED PERSONaPERSON #HEADSCARFbIN STEAMY ROOMbCLIMBINGbIN LOTUS POSITIONaMAGEaFAIRYaVAMPIRE",
   "aMERPERSONaELFaGENIEaZOMBIEaBRAINaORANGE HEARTaBILLED CAPaSCARFaGLOVESaCOATaSOCKS",
   "aRED GIFT ENVELOPEaFIRECRACKERaJIGSAW PUZZLE PIECEaTEST TUBEaPETRI DISHaDNA :HELIXaCOMPASS",
   "aABACUSaFIRE EXTINGUISHERaTOOLBOXaBRICKaMAGNETaLUGGAGEaLOTION BOTTLEaSPOOL OF THREAD",
   "aBALL OF YARNaSAFETY PINaTEDDY BEARaBROOMaBASKETaROLL OF PAPERaBAR OF SOAPaSPONGEaRECEIPT",
   "aNAZAR AMULETaNEUTRAL CHESS KINGcQUEENcROOKcBISHOPcKNIGHTcPAWN",
   "a_CHESS KNIGHT ROTATED FORTY-FIVE DEGREESa^CHESS KNIGHT ROTATED FORTY-FIVE DEGREES",
   "aNEUTRAL CHESS KNIGHT ROTATED FORTY-FIVE DEGREESa_CHESS KING ROTATED NINETY DEGREES",
   "cQUEEN ROTATED NINETY DEGREEScROOK ROTATED NINETY DEGREEScBISHOP ROTATED NINETY DEGREES",
   "cKNIGHT ROTATED NINETY DEGREEScPAWN ROTATED NINETY DEGREESa^CHESS KING ROTATED NINETY DEGREES",
   "cQUEEN ROTATED NINETY DEGREEScROOK ROTATED NINETY DEGREEScBISHOP ROTATED NINETY DEGREES",
   "cKNIGHT ROTATED NINETY DEGREEScPAWN ROTATED NINETY DEGREES",
   "aNEUTRAL CHESS KING ROTATED NINETY DEGREEScQUEEN ROTATED NINETY DEGREES",
   "cROOK ROTATED NINETY DEGREEScBISHOP ROTATED NINETY DEGREEScKNIGHT ROTATED NINETY DEGREES",
   "cPAWN ROTATED NINETY DEGREESa_CHESS KNIGHT ROTATED ONE rTHIRTY-FIVE DEGREES",
   "a^CHESS KNIGHT ROTATED ONE rTHIRTY-FIVE DEGREES",
   "aNEUTRAL CHESS KNIGHT ROTATED ONE rTHIRTY-FIVE DEGREESa_CHESS TURNED KINGdQUEENdROOKdBISHOP",
   "dKNIGHTdPAWNa^CHESS TURNED KINGdQUEENdROOKdBISHOPdKNIGHTdPAWNaNEUTRAL CHESS TURNED KINGdQUEEN",
   "dROOKdBISHOPdKNIGHTdPAWNa_CHESS KNIGHT ROTATED wrTWENTY-FIVE DEGREES",
   "a^CHESS KNIGHT ROTATED wrTWENTY-FIVE DEGREES",
   "aNEUTRAL CHESS KNIGHT ROTATED wrTWENTY-FIVE DEGREESa_CHESS KING ROTATED wrSEVENTY DEGREES",
   "cQUEEN ROTATED wrSEVENTY DEGREEScROOK ROTATED wrSEVENTY DEGREES",
   "cBISHOP ROTATED wrSEVENTY DEGREEScKNIGHT ROTATED wrSEVENTY DEGREES",
   "cPAWN ROTATED wrSEVENTY DEGREESa^CHESS KING ROTATED wrSEVENTY DEGREES",
   "cQUEEN ROTATED wrSEVENTY DEGREEScROOK ROTATED wrSEVENTY DEGREES",
   "cBISHOP ROTATED wrSEVENTY DEGREEScKNIGHT ROTATED wrSEVENTY DEGREES",
   "cPAWN ROTATED wrSEVENTY DEGREESaNEUTRAL CHESS KING ROTATED wrSEVENTY DEGREES",
   "cQUEEN ROTATED wrSEVENTY DEGREEScROOK ROTATED wrSEVENTY DEGREES",
   "cBISHOP ROTATED wrSEVENTY DEGREEScKNIGHT ROTATED wrSEVENTY DEGREES",
   "cPAWN ROTATED wrSEVENTY DEGREESa_CHESS KNIGHT ROTATED ]rFIFTEEN DEGREES",
   "a^CHESS KNIGHT ROTATED ]rFIFTEEN DEGREESaNEUTRAL CHESS KNIGHT ROTATED ]rFIFTEEN DEGREES",
   "a_CHESS EQUIHOPPERa^CHESS EQUIHOPPERaNEUTRAL CHESS EQUIHOPPER",
   "a_CHESS EQUIHOPPER ROTATED NINETY DEGREESa^CHESS EQUIHOPPER ROTATED NINETY DEGREES",
   "aNEUTRAL CHESS EQUIHOPPER ROTATED NINETY DEGREESa_CHESS KNIGHT-QUEENcKNIGHT-ROOKcKNIGHT-BISHOP",
   "a^CHESS KNIGHT-QUEENcKNIGHT-ROOKcKNIGHT-BISHOP",
   "1FA60aXIANGQI RED GENERALcMANDARINcELEPHANTcHORSEcCHARIOTcCANNONcSOLDIERb^GENERALcMANDARIN",
   "cELEPHANTcHORSEcCHARIOTcCANNONcSOLDIER",
   "1FA70aBALLET SHOESaONE-PIECE SWIMSUITaBRIEFSaSHORTSaTHONG SANDAL",
   "1FA78aDROP OF BLOODaADHESIVE BANDAGEaSTETHOSCOPEaX-RAYaCRUTCH",
   "1FA80aYO-YOaKITEaPARACHUTEaBOOMERANGaMAGIC WANDaPINATAaNESTING DOLLS",
   "1FA90aRINGED PLANETaCHAIRaRAZORaAXEaDIYA LAMPaBANJOaMILITARY HELMETaACCORDIONaLONG DRUMaCOIN",
   "aCARPENTRY SAWaSCREWDRIVERaLADDERaHOOKaMIRRORaWINDOWaPLUNGERaSEWING NEEDLEaKNOTaBUCKET",
   "aMOUSE TRAPaTOOTHBRUSHaHEADSTONEaPLACARDaROCKaMIRROR BALLaIDENTIFICATION CARDaLOW BATTERY",
   "aHAMSA",
   "1FAB0aFLYaWORMaBEETLEaCOCKROACHaPOTTED PLANTaWOODaFEATHERaLOTUSaCORALaEMPTY NESTaNEST #EGGS",
   "1FAC0aANATOMICAL HEARTaLUNGSaPEOPLE HUGGINGaPREGNANT MANbPERSONaPERSON #CROWN",
   "1FAD0aBLUEBERRIESaBELL PEPPERaOLIVEaFLATBREADaTAMALEaFONDUEaTEAPOTaPOURING LIQUIDaBEANSaJAR",
   "1FAE0aMELTING FACEaSALUTING FACEaFACE #OPEN EYES ;HAND OVER MOUTHcPEEKING EYEcDIAGONAL MOUTH",
   "aDOTTED LINE FACEaBITING LIPaBUBBLES",
   "1FAF0aHAND #INDEX FINGER ;THUMB CROSSEDa.HANDa?HANDaPALM DOWN HANDbUP HAND",
   "aINDEX POINTING AT THE VIEWERaHEART HANDS",
   "1FB00aBLOCK SEXTANT-1bSEXTANT-2bSEXTANT-12bSEXTANT-3bSEXTANT-13bSEXTANT-23bSEXTANT-123",
   "bSEXTANT-4bSEXTANT-14bSEXTANT-24bSEXTANT-124bSEXTANT-34bSEXTANT-134bSEXTANT-234bSEXTANT-1234",
   "bSEXTANT-5bSEXTANT-15bSEXTANT-25bSEXTANT-125bSEXTANT-35bSEXTANT-235bSEXTANT-1235bSEXTANT-45",
   "bSEXTANT-145bSEXTANT-245bSEXTANT-1245bSEXTANT-345bSEXTANT-1345bSEXTANT-2345bSEXTANT-12345",
   "bSEXTANT-6bSEXTANT-16bSEXTANT-26bSEXTANT-126bSEXTANT-36bSEXTANT-136bSEXTANT-236bSEXTANT-1236",
   "bSEXTANT-46bSEXTANT-146bSEXTANT-1246bSEXTANT-346bSEXTANT-1346bSEXTANT-2346bSEXTANT-12346",
   "bSEXTANT-56bSEXTANT-156bSEXTANT-256bSEXTANT-1256bSEXTANT-356bSEXTANT-1356bSEXTANT-2356",
   "bSEXTANT-12356bSEXTANT-456bSEXTANT-1456bSEXTANT-2456bSEXTANT-12456bSEXTANT-3456bSEXTANT-13456",
   "bSEXTANT-23456aLOWER <BLOCK DIAGONAL LOWER o<TO LOWER CENTREj*eUPPER o<TO LOWER CENTREj*",
   "f<TO LOWER CENTREb*BLOCK DIAGONAL UPPER o<TO UPPER CENTREj*eLOWER o<TO UPPER CENTREj*",
   "f<TO UPPER CENTREfo<TO UPPER o*fCENTRE TO LOWER o*f<TO LOWER o*fCENTRE TO UPPER o*",
   "f<TO UPPER o*fCENTRE TO UPPER *b<BLOCK DIAGONAL UPPER CENTRE TO UPPER o*f<TO UPPER o*",
   "fCENTRE TO LOWER o*f<TO LOWER o*fCENTRE TO LOWER *fo<TO LOWER o*",
   "aUPPER *BLOCK DIAGONAL LOWER o<TO LOWER CENTREj*eUPPER o<TO LOWER CENTREj*f<TO LOWER CENTRE",
   "b<BLOCK DIAGONAL UPPER o<TO UPPER CENTREj*eLOWER o<TO UPPER CENTREj*f<TO UPPER CENTRE",
   "fo<TO UPPER o*fCENTRE TO LOWER o*f<TO LOWER o*fCENTRE TO UPPER o*f<TO UPPER o*",
   "fCENTRE TO UPPER *b*BLOCK DIAGONAL UPPER CENTRE TO UPPER o*f<TO UPPER o*fCENTRE TO LOWER o*",
   "f<TO LOWER o*fCENTRE TO LOWER *fo<TO LOWER o*b;*;LOWER TRIANGULAR ]QUARTERS BLOCK",
   "a<;LOWER ;*TRIANGULAR ]QUARTERS BLOCKaUPPER ;<;LOWER TRIANGULAR ]QUARTERS BLOCK",
   "a<;UPPER ;*TRIANGULAR ]QUARTERS BLOCKbTRIANGULAR ONE QUARTER BLOCK",
   "aUPPER TRIANGULAR ONE QUARTER BLOCKa*TRIANGULAR ONE QUARTER BLOCK",
   "aLOWER TRIANGULAR ONE QUARTER BLOCKa@ONE EIGHTH BLOCK-2dBLOCK-3dBLOCK-4dBLOCK-5dBLOCK-6",
   "dBLOCK-7anONE EIGHTH BLOCK-2dBLOCK-3dBLOCK-4dBLOCK-5dBLOCK-6dBLOCK-7a<;LOWER ONE EIGHTH BLOCK",
   "cUPPER ONE EIGHTH BLOCKa*;UPPER ONE EIGHTH BLOCKcLOWER ONE EIGHTH BLOCK",
   "aUPPER ;LOWER ONE EIGHTH BLOCKanONE EIGHTH BLOCK-1358aUPPER ONE QUARTER BLOCKb]EIGHTHS BLOCK",
   "bFIVE EIGHTHS BLOCKb]QUARTERS BLOCKbSEVEN EIGHTHS BLOCKa*ONE QUARTER BLOCKb]EIGHTHS BLOCK",
   "bFIVE EIGHTHS BLOCKb]QUARTERS BLOCKbSEVEN EIGHTHS BLOCKa<HALF MEDIUM SHADEa*HALF MEDIUM SHADE",
   "aUPPER HALF MEDIUM SHADEaLOWER HALF MEDIUM SHADEaINVERSE MEDIUM SHADE",
   "aUPPER HALF BLOCK ;LOWER HALF INVERSE MEDIUM SHADEcINVERSE MEDIUM SHADE ;LOWER HALF BLOCK",
   "1FB94a<HALF INVERSE MEDIUM SHADE ;*HALF BLOCKaCHECKER BOARD FILLaINVERSE CHECKER BOARD FILL",
   "asnFILLaUPPER <TO LOWER *FILLb*TO LOWER <FILLb;LOWER TRIANGULAR HALF BLOCK",
   "a<;*TRIANGULAR HALF BLOCKaUPPER <TRIANGULAR MEDIUM SHADEb*TRIANGULAR MEDIUM SHADE",
   "aLOWER *TRIANGULAR MEDIUM SHADEb<TRIANGULAR MEDIUM SHADE",
   "aBOX DRAWINGS LIGHT DIAGONAL UPPER CENTRE TO o<i*eo<TO LOWER CENTREf*TO LOWER CENTRE",
   "eUPPER CENTRE TO o<TO LOWER CENTREi*TO LOWER CENTREeo<TO LOWER CENTRE TO o*hUPPER CENTRE TO o*",
   "eUPPER CENTRE TO o<;o*TO LOWER CENTREi*;o<TO LOWER CENTREjTO LOWER CENTRE TO o<",
   "i<TO LOWER CENTRE TO o*eo<TO UPPER CENTRE TO o*TO LOWER CENTRE",
   "f*TO UPPER CENTRE TO o<TO LOWER CENTREeDIAMONDdn#@~aARROWHEAD-SHAPED POINTERaINVERSE CHECK p",
   "a<HALF RUNNING MANa*HALF RUNNING MANaINVERSE q&#TIP ?a?&;UPPER ;LOWER ONE EIGHTH BLOCK",
   "a.&;UPPER ;LOWER ONE EIGHTH BLOCKaq&;*ONE EIGHTH BLOCKaUPWARDS &;*ONE EIGHTH BLOCK",
   "a<HALF FOLDERa*HALF FOLDERaVOIDED GREEK CROSSa*OPEN SQUARED vaNEGATIVE DIAGONAL CROSS",
   "co*TO LOWER CENTREcDIAMONDa_sSALTIRE #ROUNDED CORNERSa<THIRD _*POINTING INDEX",
   "aoTHIRD _*POINTING INDEXa*THIRD _*POINTING INDEXaNEGATIVE SQUARED QUESTION paSTICK FIGURE",
   "c#ARMS RAISEDcLEANING <d*c#DRESSa_UP-POINTING CHEVRON",
   "1FBF0aSEGMENTED DIGIT ZEROcONEcwc]cFOURcFIVEcSIXcSEVENcEIGHTcNINE",
   "E0001aLANGUAGE TAG",
   "E0020aTAG SPACEbEXCLAMATION pbQUOTATION pbNUMBER )bDOLLAR )bPERCENT )bAMPERSANDbAPOSTROPHE",
   "b<PARENTHESISb*PARENTHESISbASTERISKbPLUS )bCOMMAbHYPHEN-MINUSbFULL STOPbSOLIDUSbDIGIT ZEROcONE",
   "cwc]cFOURcFIVEcSIXcSEVENcEIGHTcNINEbCOLONbSEMICOLONbLESS-THAN )bEQUALS )bGREATER-THAN )",
   "bQUESTION pbCOMMERCIAL ATbLATIN $!AeBeCeDeEeFeGeHeIeJeKeLeMeNeOePeQeReSeTeUeVeWeXeYeZ",
   "b<SQUARE tbREVERSE SOLIDUSb*SQUARE tbxACCENTbLOW LINEbGRAVE ACCENTbLATIN %!AeBeCeDeEeFeGeHeIeJ",
   "eKeLeMeNeOePeQeReSeTeUeVeWeXeYeZb<CURLY tb@LINEb*CURLY tbTILDEaCANCEL TAG",
   "E0100aVARIATION SELECTOR-17bSELECTOR-18bSELECTOR-19bSELECTOR-20bSELECTOR-21bSELECTOR-22",
   "bSELECTOR-23bSELECTOR-24bSELECTOR-25bSELECTOR-26bSELECTOR-27bSELECTOR-28bSELECTOR-29",
   "bSELECTOR-30bSELECTOR-31bSELECTOR-32bSELECTOR-33bSELECTOR-34bSELECTOR-35bSELECTOR-36",
   "bSELECTOR-37bSELECTOR-38bSELECTOR-39bSELECTOR-40bSELECTOR-41bSELECTOR-42bSELECTOR-43",
   "bSELECTOR-44bSELECTOR-45bSELECTOR-46bSELECTOR-47bSELECTOR-48bSELECTOR-49bSELECTOR-50",
   "bSELECTOR-51bSELECTOR-52bSELECTOR-53bSELECTOR-54bSELECTOR-55bSELECTOR-56bSELECTOR-57",
   "bSELECTOR-58bSELECTOR-59bSELECTOR-60bSELECTOR-61bSELECTOR-62bSELECTOR-63bSELECTOR-64",
   "bSELECTOR-65bSELECTOR-66bSELECTOR-67bSELECTOR-68bSELECTOR-69bSELECTOR-70bSELECTOR-71",
   "bSELECTOR-72bSELECTOR-73bSELECTOR-74bSELECTOR-75bSELECTOR-76bSELECTOR-77bSELECTOR-78",
   "bSELECTOR-79bSELECTOR-80bSELECTOR-81bSELECTOR-82bSELECTOR-83bSELECTOR-84bSELECTOR-85",
   "bSELECTOR-86bSELECTOR-87bSELECTOR-88bSELECTOR-89bSELECTOR-90bSELECTOR-91bSELECTOR-92",
   "bSELECTOR-93bSELECTOR-94bSELECTOR-95bSELECTOR-96bSELECTOR-97bSELECTOR-98bSELECTOR-99",
   "bSELECTOR-100bSELECTOR-101bSELECTOR-102bSELECTOR-103bSELECTOR-104bSELECTOR-105bSELECTOR-106",
   "bSELECTOR-107bSELECTOR-108bSELECTOR-109bSELECTOR-110bSELECTOR-111bSELECTOR-112bSELECTOR-113",
   "bSELECTOR-114bSELECTOR-115bSELECTOR-116bSELECTOR-117bSELECTOR-118bSELECTOR-119bSELECTOR-120",
   "bSELECTOR-121bSELECTOR-122bSELECTOR-123bSELECTOR-124bSELECTOR-125bSELECTOR-126bSELECTOR-127",
   "bSELECTOR-128bSELECTOR-129bSELECTOR-130bSELECTOR-131bSELECTOR-132bSELECTOR-133bSELECTOR-134",
   "bSELECTOR-135bSELECTOR-136bSELECTOR-137bSELECTOR-138bSELECTOR-139bSELECTOR-140bSELECTOR-141",
   "bSELECTOR-142bSELECTOR-143bSELECTOR-144bSELECTOR-145bSELECTOR-146bSELECTOR-147bSELECTOR-148",
   "bSELECTOR-149bSELECTOR-150bSELECTOR-151bSELECTOR-152bSELECTOR-153bSELECTOR-154bSELECTOR-155",
   "bSELECTOR-156bSELECTOR-157bSELECTOR-158bSELECTOR-159bSELECTOR-160bSELECTOR-161bSELECTOR-162",
   "bSELECTOR-163bSELECTOR-164bSELECTOR-165bSELECTOR-166bSELECTOR-167bSELECTOR-168bSELECTOR-169",
   "bSELECTOR-170bSELECTOR-171bSELECTOR-172bSELECTOR-173bSELECTOR-174bSELECTOR-175bSELECTOR-176",
   "bSELECTOR-177bSELECTOR-178bSELECTOR-179bSELECTOR-180bSELECTOR-181bSELECTOR-182bSELECTOR-183",
   "bSELECTOR-184bSELECTOR-185bSELECTOR-186bSELECTOR-187bSELECTOR-188bSELECTOR-189bSELECTOR-190",
   "bSELECTOR-191bSELECTOR-192bSELECTOR-193bSELECTOR-194bSELECTOR-195bSELECTOR-196bSELECTOR-197",
   "bSELECTOR-198bSELECTOR-199bSELECTOR-200bSELECTOR-201bSELECTOR-202bSELECTOR-203bSELECTOR-204",
   "bSELECTOR-205bSELECTOR-206bSELECTOR-207bSELECTOR-208bSELECTOR-209bSELECTOR-210bSELECTOR-211",
   "bSELECTOR-212bSELECTOR-213bSELECTOR-214bSELECTOR-215bSELECTOR-216bSELECTOR-217bSELECTOR-218",
   "bSELECTOR-219bSELECTOR-220bSELECTOR-221bSELECTOR-222bSELECTOR-223bSELECTOR-224bSELECTOR-225",
   "bSELECTOR-226bSELECTOR-227bSELECTOR-228bSELECTOR-229bSELECTOR-230bSELECTOR-231bSELECTOR-232",
   "bSELECTOR-233bSELECTOR-234bSELECTOR-235bSELECTOR-236bSELECTOR-237bSELECTOR-238bSELECTOR-239",
   "bSELECTOR-240bSELECTOR-241bSELECTOR-242bSELECTOR-243bSELECTOR-244bSELECTOR-245bSELECTOR-246",
   "bSELECTOR-247bSELECTOR-248bSELECTOR-249bSELECTOR-250bSELECTOR-251bSELECTOR-252bSELECTOR-253",
   "bSELECTOR-254bSELECTOR-255bSELECTOR-256"]

end AccessControl
