/-!
# Names of characters of further scripts

The names of the characters of the scripts beyond the basic plane, in the
form that `CharacterName.find?` reads.
-/

namespace AccessControl

/-- The names of the characters of the scripts beyond the basic plane. -/
def scriptNames : List String :=
  ["10000aLINEAR B SYLLABLE B008 AdB038 EdB028 IdB061 OdB010 UdB001 DAdB045 DEdB007 DIdB014 DO",
   "dB051 DUdB057 JAdB046 JE",
   "1000DdB036 JOdB065 JUdB077 KAdB044 KEdB067 KIdB070 KOdB081 KUdB080 MAdB013 MEdB073 MIdB015 MO",
   "dB023 MUdB006 NAdB024 NEdB030 NIdB052 NOdB055 NUdB003 PAdB072 PEdB039 PIdB011 POdB050 PU",
   "dB016 QAdB078 QEdB021 QIdB032 QO",
   "10028dB060 RAdB027 REdB053 RIdB002 ROdB026 RUdB031 SAdB009 SEdB041 SIdB012 SOdB058 SUdB059 TA",
   "dB004 TEdB037 TIdB005 TOdB069 TUdB054 WAdB075 WEdB040 WIdB042 WO",
   "1003CdB017 ZAdB074 ZE",
   "1003FdB020 ZOdB025 A2dB043 A3dB085 AUdB071 DWEdB090 DWOdB048 NWAdB029 PU2dB062 PTEdB076 RA2",
   "dB033 RA3dB068 RO2dB066 TA2dB087 TWEdB091 w",
   "10050cmB018dB019dB022dB034dB047dB049dB056dB063dB064dB079dB082dB083dB086dB089",
   "10080cIDEOGRAM B100 MANdB102 WOMANdB104 DEERdB105 EQUIDdB105F MAREdB105M STALLIONdB106F EWE",
   "dB106M RAMdB107F SHE-GOATdB107M HE-GOATdB108F SOWdB108M BOARdB109F COWdB109M BULLdB120 WHEAT",
   "dB121 BARLEYdB122 OLIVEdB123 SPICEdB125 CYPERUScMONOGRAM B127 KAPOdB128 KANAKO",
   "cIDEOGRAM B130 OILdB131 WINEdB132cMONOGRAM B133 AREPAdB135 MERIcIDEOGRAM B140 BRONZEdB141 GOLD",
   "dB142dB145 WOOLdB146dB150dB151 HORNdB152dB153dB154cMONOGRAM B156 TURO2cIDEOGRAM B157dB158",
   "dB159 CLOTHdB160dB161dB162 GARMENTdB163 ARMOURdB164dB165dB166dB167dB168dB169dB170dB171dB172",
   "dB173 MONTHdB174dB176 TREEdB177dB178dB179dB180dB181dB182dB183dB184dB185dB189dB190dB191 HELMET",
   "dB220 FOOTSTOOLdB225 BATHTUBdB230 SPEARdB231 &dB232dB233 SWORDdB234dB236dB240 WHEELED CHARIOT",
   "dB241 CHARIOTdB242 CHARIOT FRAMEdB243 WHEELdB245dB246cMONOGRAM B247 DIPTEcIDEOGRAM B248dB249",
   "dB251dB252dB253dB254 DARTdB255dB256dB257dB258dB259dVESSEL B155eB200eB201eB202eB203eB204eB205",
   "eB206eB207eB208eB209eB210eB211eB212eB213eB214eB215eB216eB217eB218eB219eB221eB222eB226eB227",
   "eB228eB229eB250eB305",
   "10100aAEGEAN WORD SEPARATOR LINEdvbCHECK p",
   "10107bNUMBER ONEcwc]cFOURcFIVEcSIXcSEVENcEIGHTcNINEcTENcTWENTYcTHIRTYcFORTYcFIFTYcSIXTY",
   "cSEVENTYcEIGHTYcNINETYcONE rcwrc]rcFOUR rcFIVE rcSIX rcSEVEN rcEIGHT rcNINE rcONE ucwuc]u",
   "cFOUR ucFIVE ucSIX ucSEVEN ucEIGHT ucNINE ucTEN ucTWENTY ucTHIRTY ucFORTY ucFIFTY ucSIXTY u",
   "cSEVENTY ucEIGHTY ucNINETY u",
   "10137bWEIGHT BASE UNITcFIRST SUBUNITcSECOND SUBUNITcTHIRD SUBUNITcFOURTH SUBUNIT",
   "bDRY MEASURE FIRST SUBUNITbLIQUID MEASURE FIRST SUBUNITbMEASURE SECOND SUBUNITcTHIRD SUBUNIT",
   "aGREEK ACROPHONIC ATTIC ONE QUARTEReHALFeDRACHMAdFIVEdFIFTYdFIVE reudFIFTY udFIVE TALENTS",
   "dTEN TALENTSdFIFTY TALENTSdONE rTALENTSdFIVE rTALENTSdONE uTALENTSdFIVE uTALENTSeSTATERS",
   "dTEN STATERSdFIFTY STATERSdONE rSTATERSdFIVE rSTATERSdONE uSTATERSdTEN uSTATERSdFIFTY uSTATERS",
   "dTEN MNAScHERAEUM ONE PLETHRONcTHESPIAN ONEcHERMIONIAN ONEcEPIDAUREAN wcTHESPIAN w",
   "cCYRENAIC wDRACHMAScEPIDAUREAN wDRACHMAScTROEZENIAN FIVEdTENeALTERNATE (cHERMIONIAN TEN",
   "cMESSENIAN TENcTHESPIAN TENdTHIRTYcTROEZENIAN FIFTYeALTERNATE (cHERMIONIAN FIFTY",
   "cTHESPIAN FIFTYdONE rd]rcEPIDAUREAN FIVE rcTROEZENIAN FIVE rcTHESPIAN FIVE rcCARYSTIAN FIVE r",
   "cNAXIAN FIVE rcTHESPIAN ONE udFIVE ucDELPHIC FIVE MNAScSTRATIAN FIFTY MNASbONE HALF )",
   "eALTERNATE (bwTHIRDS )b]QUARTERS )bYEAR )bTALENT )bDRACHMA )bOBOL )bwOBOLS )b]OBOLS )",
   "bFOUR OBOLS )bFIVE OBOLS )bMETRETES )bKYATHOS BASE )bLITRA )bOUNKIA )bXESTES )bARTABE )",
   "bAROURA )bGRAMMA )bTRYBLION BASE )bZERO )bONE QUARTER )bSINUSOID )bINDICTION )aNOMISMA )",
   "10190aROMAN SEXTANS )bUNCIA )bSEMUNCIA )bSEXTULA )bDIMIDIA SEXTULA )bSILIQUA )bDENARIUS )",
   "bQUINARIUS )bSESTERTIUS )bDUPONDIUS )bAS )bCENTURIAL )aASCIA m",
   "101A0aGREEK mTAU RHO",
   "101D0aPHAISTOS DISC )PEDESTRIANdPLUMED HEADdTATTOOED HEADdCAPTIVEdCHILDdWOMANdHELMETdGAUNTLET",
   "dTIARAd&dBOWdSHIELDdCLUBdMANACLESdMATTOCKdSAWdLIDdBOOMERANGdCARPENTRY PLANEdDOLIUMdCOMBdSLING",
   "dCOLUMNdBEEHIVEdSHIPdHORNdHIDEdBULLS LEGdCATdRAMdEAGLEdDOVEdTUNNYdBEEdPLANE TREEdVINEdPAPYRUS",
   "dROSETTEdLILYdOX BACKdFLUTEdGRATERdSTRAINERd%AXEdWAVY BANDdCOMBINING OBLIQUE ~",
   "10280aLYCIAN !AcEcBcBHcGcDcIcWcZcTHcJcKcQcLcMcNcMMcNNcUcPcKKcRcScTcTTcANcENcHcX",
   "102A0aCARIAN !AcP2cDcLcUUUcRcLDcA2cQcBcMcOcD2cTcSHcSH2cScC-18cUcNNcXcNcTT2cPcSScIcEcUUUUcKcK2",
   "cNDcUUcGcG2cSTcST2cNGcIIcC-39cTTcUUU2cRRcMBcMB2cMB3cMB4cLD2cE2cUUU3",
   "102E0aCOPTIC EPACT THOUSANDS pcDIGIT ONEdwd]dFOURdFIVEdSIXdSEVENdEIGHTdNINEcNUMBER TENdTWENTY",
   "dTHIRTYdFORTYdFIFTYdSIXTYdSEVENTYdEIGHTYdNINETYdONE rdwrd]rdFOUR rdFIVE rdSIX rdSEVEN r",
   "dEIGHT rdNINE r",
   "10300aOLD ITALIC !AdBEdKEdDEdEdVEdZEdHEdTHEdIdKAdELdEMdENdESHdOdPEdSHEdKUdERdESdTEdUdEKSdPHE",
   "dKHEdEFdERSdCHEdIIdUUdESScNUMERAL ONEdFIVEdTENdFIFTY",
   "1032Dc!YEdNORTHERN TSEdSOUTHERN TSEaGOTHIC !AHSAcBAIRKANcGIBAcDAGScAIHVUScQAIRTHRAcIUJAcHAGL",
   "cTHIUTHcEIScKUSMAcLAGUScMANNAcNAUTHScJERcURUScPAIRTHRAcNINETYcRAIDAcSAUILcTEIWScWINJAcFAIHU",
   "cIGGWScHWAIRcOTHALcNINE r",
   "10350aOLD PERMIC !ANdBURdGAIdDOIdEdZHOIdDZHOIdZATAdDZITAdIdKOKEdLEIdMENOEdNENOEdVOOIdPEEIdREI",
   "dSIIdTAIdUdCHERYdSHOOIdSHCHOOIdYRYdYERUdOdOOdEFdHAdTSIUdVERdYERdYERIdYATdIEdYUdYAdIA",
   "aCOMBINING OLD PERMIC !ANeDOIeZATAeNENOEeSII",
   "10380aUGARITIC !ALPAcBETAcGAMLAcKHAcDELTAcHOcWOcZETAcHOTAcTETcYODcKAFcSHINcLAMDAcMEMcDHALcNUN",
   "cZUcSAMKAcAINcPUcSADEcQOPAcRASHAcTHANNAcGHAINcTOcIcUcSSU",
   "1039FbWORD DIVIDERaOLD PERSIAN )AdIdUdKAdKUdGAdGUdXAdCAdJAdJIdTAdTUdDAdDIdDUdTHAdPAdBAdFAdNA",
   "dNUdMAdMIdMUdYAdVAdVIdRAdRUdLAdSAdZAdSHAdSSAdHA",
   "103C8dAURAMAZDAAdAURAMAZDAA-2dAURAMAZDAAHAdXSHAAYATHIYAdDAHYAAUSHdDAHYAAUSH-2dBAGAdBUUMISH",
   "cWORD DIVIDERcNUMBER ONEdwdTENdTWENTYdr",
   "10400aDESERET $!LONG IeEeAeAHeOeOOdSHORT IeEeAeAHeOeOOdAYdOWdWUdYEEdHdPEEdBEEdTEEdDEEdCHEEdJEE",
   "dKAYdGAYdEFdVEEdETHdTHEEdESdZEEdESHdZHEEdERdELdEMdENdENGdOIdEWb%!LONG IeEeAeAHeOeOOdSHORT IeE",
   "eAeAHeOeOOdAYdOWdWUdYEEdHdPEEdBEEdTEEdDEEdCHEEdJEEdKAYdGAYdEFdVEEdETHdTHEEdESdZEEdESHdZHEEdER",
   "dELdEMdENdENGdOIdEWaSHAVIAN !PEEPcTOTcKICKcFEEcTHIGHcSOcSUREcCHURCHcYEAcHUNGcBIBcDEADcGAGcVOW",
   "cTHEYcZOOcMEASUREcJUDGEcWOEcHA-HAcLOLLcMIMEcIFcEGGcASHcADOcONcWOOLcOUTcAHcROARcNUNcEATcAGEcICE",
   "cUPcOAKcOOZEcOILcAWEcAREcORcAIRcERRcARRAYcEARcIANcYEWaOSMANYA !ALEFcBAcTAcJAcXAcKHAcDEELcRAcSA",
   "cSHIINcDHAcCAYNcGAcFAcQAAFcKAAFcLAANcMIINcNUUNcWAWcHAcYAcAcEcIcOcUcAAcEEcOO",
   "104A0bDIGIT ZEROcONEcwc]cFOURcFIVEcSIXcSEVENcEIGHTcNINE",
   "104B0aOSAGE $!AdAIdAINdAHdBRAdCHAdEHCHAdEdEINdHAdHYAdIdKAdEHKAdKYAdLAdMAdNAdOdOINdPAdEHPAdSA",
   "dSHAdTAdEHTAdTSAdEHTSAdTSHAdDHAdUdWAdKHAdGHAdZAdZHA",
   "104D8b%!AdAIdAINdAHdBRAdCHAdEHCHAdEdEINdHAdHYAdIdKAdEHKAdKYAdLAdMAdNAdOdOINdPAdEHPAdSAdSHAdTA",
   "dEHTAdTSAdEHTSAdTSHAdDHAdUdWAdKHAdGHAdZAdZHA",
   "10500aELBASAN !AcBEcCEcCHEcDEcNDEcDHEcEIcEcFEcGEcGJEcHEcIcJEcKEcLEcLLEcMEcNEcNAcNJEcOcPEcQEcRE",
   "cRREcSEcSHEcTEcTHEcUcVEcXEcYcZEcZHEcGHEcGHAMMAcKHE",
   "10530aCAUCASIAN ALBANIAN !ALTdBETdGIMdDATdEBdZARLdEYNdZHILdTASdCHAdYOWDdZHAdIRBdSHAdLANdINYA",
   "dXEYNdDYANdCARdJHOXdKARdLYITdHEYTdQAYdAORdCHOYdCHIdCYAYdMAQdQARdNOWCdDZYAYdSHAKdJAYNdONdTYAY",
   "dFAMdDZAYdCHATdPENdGHEYSdRATdSEYKdVEYZdTIWRdSHOYdIWNdCYAWdCAYNdYAYDdPIWRdKIW",
   "1056FcCITATION paVITHKUQI $!AdBBEdBEdCEdCHEdDEdDHEdEIdEdFEdGA",
   "1057CdHAdHHAdIdIJEdJEdKAdLAdLLAdMEdNEdNJEdOdPEdQAdRE",
   "1058CdSEdSHEdTEdTHEdUdVEdXE",
   "10594dYdZE",
   "10597b%!AdBBEdBEdCEdCHEdDEdDHEdEIdEdFEdGA",
   "105A3dHAdHHAdIdIJEdJEdKAdLAdLLAdMEdNEdNJEdOdPEdQAdRE",
   "105B3dSEdSHEdTEdTHEdUdVEdXE",
   "105BBdYdZE",
   "10600aLINEAR A )AB001dAB002dAB003dAB004dAB005dAB006dAB007dAB008dAB009dAB010dAB011dAB013dAB016",
   "dAB017dAB020dAB021dAB021FdAB021MdAB022dAB022FdAB022MdAB023dAB023MdAB024dAB026dAB027dAB028",
   "dA028BdAB029dAB030dAB031dAB034dAB037dAB038dAB039dAB040dAB041dAB044dAB045dAB046dAB047dAB048",
   "dAB049dAB050dAB051dAB053dAB054dAB055dAB056dAB057dAB058dAB059dAB060dAB061dAB065dAB066dAB067",
   "dAB069dAB070dAB073dAB074dAB076dAB077dAB078dAB079dAB080dAB081dAB082dAB085dAB086dAB087dA100-102",
   "dAB118dAB120dA120BdAB122dAB123dAB131AdAB131BdA131CdAB164dAB171dAB180dAB188dAB191dA301dA302",
   "dA303dA304dA305dA306dA307dA308dA309AdA309BdA309CdA310dA311dA312dA313AdA313BdA313CdA314dA315",
   "dA316dA317dA318dA319dA320dA321dA322dA323dA324dA325dA326dA327dA328dA329dA330dA331dA332dA333",
   "dA334dA335dA336dA337dA338dA339dA340dA341dA342dA343dA344dA345dA346dA347dA348dA349dA350dA351",
   "dA352dA353dA354dA355dA356dA357dA358dA359dA360dA361dA362dA363dA364dA365dA366dA367dA368dA369",
   "dA370dA371dA400-VASdA401-VASdA402-VASdA403-VASdA404-VASdA405-VASdA406-VASdA407-VASdA408-VAS",
   "dA409-VASdA410-VASdA411-VASdA412-VASdA413-VASdA414-VASdA415-VASdA416-VASdA417-VASdA418-VAS",
   "dA501dA502dA503dA504dA505dA506dA508dA509dA510dA511dA512dA513dA515dA516dA520dA521dA523dA524",
   "dA525dA526dA527dA528dA529dA530dA531dA532dA534dA535dA536dA537dA538dA539dA540dA541dA542dA545",
   "dA547dA548dA549dA550dA551dA552dA553dA554dA555dA556dA557dA559dA563dA564dA565dA566dA568dA569",
   "dA570dA571dA572dA573dA574dA575dA576dA577dA578dA579dA580dA581dA582dA583dA584dA585dA586dA587",
   "dA588dA589dA591dA592dA594dA595dA596dA598dA600dA601dA602dA603dA604dA606dA608dA609dA610dA611",
   "dA612dA613dA614dA615dA616dA617dA618dA619dA620dA621dA622dA623dA624dA626dA627dA628dA629dA634",
   "dA637dA638dA640dA642dA643dA644dA645dA646dA648dA649dA651dA652dA653dA654dA655dA656dA657dA658",
   "dA659dA660dA661dA662dA663dA664",
   "10740dA701 AdA702 BdA703 DdA704 EdA705 FdA706 HdA707 JdA708 KdA709 LdA709-2 L2dA709-3 L3",
   "dA709-4 L4dA709-6 L6dA710 WdA711 XdA712 YdA713 OMEGAdA714 ABBdA715 BBdA717 DDdA726 EYYY",
   "dA732 JE",
   "10760dA800dA801dA802dA803dA804dA805dA806dA807",
   "10780aMODIFIER !%$AAcSUPERSCRIPT TRIANGULAR COLONdHALF TRIANGULAR COLONc%AEd$BdB #HOOK",
   "10787dDZ DIGRAPHf#RETROFLEX HOOKgCURLdDEZH DIGRAPHdD #TAILfHOOKg;TAILdREVERSED E",
   "dCLOSED REVERSED OPEN EdFENG DIGRAPHdRAMS HORNd$GdG #HOOKd$G #HOOKdH #~d$HdHENG #HOOK",
   "dDOTLESS J #~;HOOKdLS DIGRAPHdLZ DIGRAPHdL #BELTd$L #BELTdL #RETROFLEX HOOK ;BELTdLEZH",
   "e#RETROFLEX HOOKdTURNED Yf#BELTdO #~d$OEdCLOSED OMEGAdQdTURNED R #LONG LEGi;RETROFLEX HOOK",
   "dR #TAILfFISHHOOKd$RdTC DIGRAPH #CURLdTS DIGRAPHf#RETROFLEX HOOKdTESH DIGRAPH",
   "dT #RETROFLEX HOOKdV #*HOOK",
   "107B2d$YcGLOTTAL STOP #~cREVERSED GLOTTAL STOP #~cBILABIAL CLICKcDENTAL CLICKcLATERAL CLICK",
   "cALVEOLAR CLICKcRETROFLEX CLICK #RETROFLEX HOOKc%S #CURL",
   "10800aCYPRIOT SYLLABLE AcEcIcOcUcJA",
   "10808cJO",
   "1080AcKAcKEcKIcKOcKUcLAcLEcLIcLOcLUcMAcMEcMIcMOcMUcNAcNEcNIcNOcNUcPAcPEcPIcPOcPUcRAcREcRIcRO",
   "cRUcSAcSEcSIcSOcSUcTAcTEcTIcTOcTUcWAcWEcWIcWO",
   "10837cXAcXE",
   "1083CcZA",
   "1083FcZOaIMPERIAL ARAMAIC !ALEPHdBETHdGIMELdDALETHdHEdWAWdZAYINdHETHdTETHdYODHdKAPHdLAMEDHdMEM",
   "dNUNdSAMEKHdAYINdPEdSADHEdQOPHdRESHdSHINdTAW",
   "10857cSECTION )cNUMBER ONEdwd]dTENdTWENTYdONE reudTEN uaPALMYRENE !ALEPHcBETHcGIMELcDALETHcHE",
   "cWAWcZAYINcHETHcTETHcYODHcKAPHcLAMEDHcMEMc=NUNcNUNcSAMEKHcAYINcPEcSADHEcQOPHcRESHcSHINcTAW",
   "bLEFT-POINTING FLEURONbRIGHT-POINTING FLEURONbNUMBER ONEcwc]cFOURcFIVEcTENcTWENTY",
   "aNABATAEAN !=ALEPHcALEPHc=BETHcBETHcGIMELcDALETHc=HEcHEcWAWcZAYINcHETHcTETHc=YODHcYODHc=KAPH",
   "cKAPHc=LAMEDHcLAMEDHc=MEMcMEMc=NUNcNUNcSAMEKHcAYINcPEcSADHEcQOPHcRESHc=SHINcSHINcTAW",
   "108A7bNUMBER ONEcwc]cFOURbCRUCIFORM NUMBER FOURbNUMBER FIVEcTENcTWENTYcONE r",
   "108E0aHATRAN !ALEPHcBETHcGIMELcDALETH-RESHcHEcWAWcZAYNcHETHcTETHcYODHcKAPHcLAMEDHcMEMcNUN",
   "cSAMEKHcAYNcPEcSADHEcQOPH",
   "108F4cSHINcTAW",
   "108FBbNUMBER ONEcFIVEcTENcTWENTYcONE raPHOENICIAN !ALFcBETcGAMLcDELTcHEcWAUcZAIcHETcTETcYOD",
   "cKAFcLAMDcMEMcNUNcSEMKcAINcPEcSADEcQOFcROSHcSHINcTAUbNUMBER ONEcTENcTWENTYcONE rcwc]",
   "1091FbWORD SEPARATORaLYDIAN !AcBcGcDcEcVcIcYcKcLcMcNcOcRcSScTcUcFcQcScTTcANcENcLYcNNcC",
   "1093FbTRIANGULAR p",
   "10980aMEROITIC HIEROGLYPHIC !AdEdIdOdYAdWAdBAdBA-2dPAdMAdNAdNA-2dNEdNE-2dRAdRA-2dLAdKHAdHHAdSA",
   "dSA-2dSEdKAdQAdTAdTA-2dTEdTE-2dTOdDAcmVIDJdVIDJ-2bCURSIVE !AdEdIdOdYAdWAdBAdPAdMAdNAdNEdRAdLA",
   "dKHAdHHAdSAdARCHAIC SAdSEdKAdQAdTAdTEdTOdDA",
   "109BCcFRACTION ELEVEN TWELFTHSdONE HALFcLOGOGRAM RMTdIMNcNUMBER ONEdwd]dFOURdFIVEdSIXdSEVEN",
   "dEIGHTdNINEdTENdTWENTYdTHIRTYdFORTYdFIFTYdSIXTYdSEVENTY",
   "109D2dONE rdwrd]rdFOUR rdFIVE rdSIX rdSEVEN rdEIGHT rdNINE rdONE udwud]udFOUR udFIVE udSIX u",
   "dSEVEN udEIGHT udNINE udTEN udTWENTY udTHIRTY udFORTY udFIFTY udSIXTY udSEVENTY udEIGHTY u",
   "dNINETY udONE rudwrud]rudFOUR rudFIVE rudSIX rudSEVEN rudEIGHT rudNINE rucFRACTION ONE TWELFTH",
   "dwTWELFTHSd]TWELFTHSdFOUR TWELFTHSdFIVE TWELFTHSdSIX TWELFTHSdSEVEN TWELFTHSdEIGHT TWELFTHS",
   "dNINE TWELFTHSdTEN TWELFTHSaKHAROSHTHI !AbVOWEL )IdUdVOCALIC R",
   "10A05dEdO",
   "10A0CcLENGTH pb):RING [cANUSVARAcVISARGAb!KAcKHAcGAcGHA",
   "10A15cCAcCHAcJA",
   "10A19cNYAcTTAcTTHAcDDAcDDHAcNNAcTAcTHAcDAcDHAcNAcPAcPHAcBAcBHAcMAcYAcRAcLAcVAcSHAcSSAcSAcZAcHA",
   "cKKAcTTTHAcTTTAcVHA",
   "10A38b)BAR ,cCAUDAcv[",
   "10A3FbVIRAMAbDIGIT ONEcwc]cFOURbNUMBER TENcTWENTYcONE rdubFRACTION ONE HALF",
   "10A50bPUNCTUATION vc%CIRCLEcCIRCLEcCRESCENT BARcMANGALAMcLOTUScDANDAc:DANDAcLINES",
   "10A60aOLD SOUTH ARABIAN !HEeLAMEDHeHETHeMEMeQOPHeWAWeSHINeRESHeBETHeTAWeSATeKAPHeNUNeKHETH",
   "eSADHEeSAMEKHeFEeALEFeAYNeDHADHEeGIMELeDALETHeGHAYNeTETHeZAYNeDHALETHeYODHeTHAWeTHETH",
   "dNUMBER ONEeFIFTYdNUMERIC INDICATORbNORTH ARABIAN !HEHeLAMeHAHeMEEMeQAFeWAWeES-2eREHeBEHeTEH",
   "eES-1eKAFeNOONeKHAHeSADeES-3eFEHeALEFeAINeDADeGEEMeDALeGHAINeTAHeZAINeTHALeYEHeTHEHeZAH",
   "dNUMBER ONEeTENeTWENTY",
   "10AC0aMANICHAEAN !ALEPHcBETHcBHETHcGIMELcGHIMELcDALETHcHEcWAWb)UDb!ZAYINcZHAYINcJAYINcJHAYIN",
   "cHETHcTETHcYODHcKAPHcXAPHcKHAPHcLAMEDHcDHAMEDHcTHAMEDHcMEMcNUNcSAMEKHcAYINcAAYINcPEcFEcSADHE",
   "cQOPHcXOPHcQHOPHcRESHcSHINcSSHINcTAWbABBREVIATION p,d[",
   "10AEBbNUMBER ONEcFIVEcTENcTWENTYcONE rbPUNCTUATION STARcFLEURONc:vWITHIN vcvWITHIN vcvcwDOTS",
   "cLINE FILLER",
   "10B00aAVESTAN !AcAAcAOcAAOcANcAANcAEcAEEcEcEEcOcOOcIcIIcUcUUcKEcXEcXYEcXVEcGEcGGEcGHEcCEcJEcTE",
   "cTHEcDEcDHEcTTEcPEcFEcBEcBHEcNGEcNGYEcNGVEcNEcNYEcNNEcMEcHMEcYYEcYEcVEcREcLEcSEcZEcSHEcZHE",
   "cSHYEcSSHEcHE",
   "10B39bABBREVIATION paTINY wDOTS OVER ONE vPUNCTUATIONa%wDOTS OVER ONE vPUNCTUATION",
   "aLARGE wDOTS OVER ONE vPUNCTUATIONbONE vOVER wDOTS PUNCTUATION",
   "bwRINGS OVER ONE RING PUNCTUATIONbONE RING OVER wRINGS PUNCTUATION",
   "aINSCRIPTIONAL PARTHIAN !ALEPHdBETHdGIMELdDALETHdHEdWAWdZAYINdHETHdTETHdYODHdKAPHdLAMEDHdMEM",
   "dNUNdSAMEKHdAYINdPEdSADHEdQOPHdRESHdSHINdTAW",
   "10B58cNUMBER ONEdwd]dFOURdTENdTWENTYdONE reubPAHLAVI !ALEPHdBETHdGIMELdDALETHdHEdWAW-AYIN-RESH",
   "dZAYINdHETHdTETHdYODHdKAPHdLAMEDHdMEM-QOPHdNUNdSAMEKHdPEdSADHEdSHINdTAW",
   "10B78cNUMBER ONEdwd]dFOURdTENdTWENTYdONE reuaPSALTER PAHLAVI !ALEPHdBETHdGIMELdDALETHdHE",
   "dWAW-AYIN-RESHdZAYINdHETHdYODHdKAPHdLAMEDHdMEM-QOPHdNUNdSAMEKHdPEdSADHEdSHINdTAW",
   "10B99cSECTION pcTURNED SECTION pcFOUR DOTS #CROSSfv",
   "10BA9cNUMBER ONEdwd]dFOURdTENdTWENTYdONE r",
   "10C00aOLD TURKIC !ORKHON AdYENISEI AeAEdORKHON IdYENISEI IeEdORKHON OeOEdYENISEI OEdORKHON AB",
   "dYENISEI ABdORKHON AEBdYENISEI AEBdORKHON AGdYENISEI AGdORKHON AEGdYENISEI AEGdORKHON AD",
   "dYENISEI ADdORKHON AEDeEZdYENISEI EZdORKHON AYdYENISEI AYdORKHON AEYdYENISEI AEYdORKHON AEK",
   "dYENISEI AEKdORKHON OEKdYENISEI OEKdORKHON ALdYENISEI ALdORKHON AELeELTeEMeANeAENdYENISEI AEN",
   "dORKHON ENTdYENISEI ENTdORKHON ENCdYENISEI ENCdORKHON ENYdYENISEI ENYeANGdORKHON ENG",
   "dYENISEI AENGdORKHON EPeOPeICeECdYENISEI ECdORKHON AQdYENISEI AQdORKHON IQdYENISEI IQ",
   "dORKHON OQdYENISEI OQdORKHON ARdYENISEI ARdORKHON AEReASeAESeASHdYENISEI ASHdORKHON ESH",
   "dYENISEI ESHdORKHON ATdYENISEI ATdORKHON AETdYENISEI AETdORKHON OTeBASH",
   "10C80bHUNGARIAN $!AeAAeEBeAMBeECeENCeECSeEDe;eEeCLOSE EeEEeEFeEGeEGYeEHeIeIIeEJeEKeAKeUNKeEL",
   "eELYeEMeENeENYeOeOOeNIKOLSBURG OEeRUDIMENTA OEeOEEeEPeEMPeEReSHORT EReESeESZeETeENTeETYeECHeU",
   "eUUeNIKOLSBURG UEeRUDIMENTA UEeEVeEZeEZSeENT-SHAPED )eUS",
   "10CC0c%!AeAAeEBeAMBeECeENCeECSeEDe;eEeCLOSE EeEEeEFeEGeEGYeEHeIeIIeEJeEKeAKeUNKeELeELYeEMeEN",
   "eENYeOeOOeNIKOLSBURG OEeRUDIMENTA OEeOEEeEPeEMPeEReSHORT EReESeESZeETeENTeETYeECHeUeUU",
   "eNIKOLSBURG UEeRUDIMENTA UEeEVeEZeEZSeENT-SHAPED )eUS",
   "10CFAcNUMBER ONEdFIVEdTENdFIFTYdONE reuaHANIFI ROHINGYA !AdBAdPAdTAdTTAdJAdCAdHAdKHAdFAdDAdDDA",
   "dRAdRRAdZAdSAdSHAdKAdGAdLAdMAdNAdWAdKINNA WAdYAdKINNA YAdNGAdNYAdVAcVOWEL AdIdUdEdOcpSAKIN",
   "dNA KHONNAc)HARBAHAYdTAHALAdTANAdTASSI",
   "10D30cDIGIT ZEROdONEdwd]dFOURdFIVEdSIXdSEVENdEIGHTdNINE",
   "10E60aRUMI DIGIT ONEcwc]cFOURcFIVEcSIXcSEVENcEIGHTcNINEbNUMBER TENcTWENTYcTHIRTYcFORTYcFIFTY",
   "cSIXTYcSEVENTYcEIGHTYcNINETYcONE rcwrc]rcFOUR rcFIVE rcSIX rcSEVEN rcEIGHT rcNINE r",
   "bFRACTION ONE HALFdQUARTERdTHIRDcwTHIRDS",
   "10E80aYEZIDI !ELIFcBEcPEcPHEcTHEcSEcCIMcCHIMcCHHIMcHHAcXAcDALcZALcRAcRHAcZAcJAcSINcSHINcSAD",
   "cDADcTAcZEcEYNcXHEYNcFAcVAdALTERNATE (cQAFcKAFcKHAFcGAFcLAMcMIMcNUNcUMcWAWcOWcEWcHAYcYOTcET",
   "10EABbCOMBINING HAMZA pcMADDA pbHYPHENATION p",
   "10EB0b!LAM #v,cYOT #x,",
   "10F00aOLD SOGDIAN !ALEPHd=ALEPHdBETHd=BETHdGIMELdHEd=HEdWAWdZAYINdHETHdYODHdKAPHdLAMEDHdMEM",
   "dNUNd=NUNf#@TAILdSAMEKHdAYINdALTERNATE AYINdPEdSADHEd=SADHEf#@TAILdRESH-AYIN-DALETHdSHINdTAW",
   "d=TAWf#@TAILcNUMBER ONEdwd]dFOURdFIVEdTENdTWENTYdTHIRTYdONE rcFRACTION ONE HALF",
   "cLIGATURE AYIN-DALETH",
   "10F30aSOGDIAN !ALEPHcBETHcGIMELcHEcWAWcZAYINcHETHcYODHcKAPHcLAMEDHcMEMcNUNcSAMEKHcAYINcPE",
   "cSADHEcRESH-AYINcSHINcTAWcFETHcLESHbINDEPENDENT SHINbCOMBINING v[cwDOTS [cv,cwDOTS ,cCURVE ,d[",
   "cHOOK ,d[cLONG HOOK [cRESH [c~[bNUMBER ONEcTENcTWENTYcONE rbPUNCTUATION w@BARSf#DOTScCIRCLE #v",
   "cwCIRCLES #DOTScHALF CIRCLE #v",
   "10F70aOLD UYGHUR !ALEPHdBETHdGIMEL-HETHdWAWdZAYINd=HETHdYODHdKAPHdLAMEDHdMEMdNUNdSAMEKHdPE",
   "dSADHEdRESHdSHINdTAWdLESHcCOMBINING v,e[dwDOTS ,f[cPUNCTUATION BARdwBARSeDOTSdFOUR DOTS",
   "10FB0aCHORASMIAN !ALEPHc%ALEPHcBETHcGIMELcDALETHcHEcWAWcCURLED WAWcZAYINcHETHcYODHcKAPHcLAMEDH",
   "cMEMcNUNcSAMEKHcAYINcPEcRESHcSHINcTAWbNUMBER ONEcwc]cFOURcTENcTWENTYcONE r",
   "10FE0aELYMAIC !ALEPHcBETHcGIMELcDALETHcHEcWAWcZAYINcHETHcTETHcYODHcKAPHcLAMEDHcMEMcNUNcSAMEKH",
   "cAYINcPEcSADHEcQOPHcRESHcSHINcTAWbLIGATURE ZAYIN-YODH",
   "11000aBRAHMI )CANDRABINDUcANUSVARAcVISARGAcJIHVAMULIYAcUPADHMANIYAb!AcAAcIcIIcUcUUcVOCALIC R",
   "dRRdLdLLcEcAIcOcAUcKAcKHAcGAcGHAcNGAcCAcCHAcJAcJHAcNYAcTTAcTTHAcDDAcDDHAcNNAcTAcTHAcDAcDHAcNA",
   "cPAcPHAcBAcBHAcMAcYAcRAcLAcVAcSHAcSSAcSAcHAcLLAcOLD TAMIL LLLAeRRAeNNNAbVOWEL )AA",
   "dBHATTIPROLU AAdIdIIdUdUUdVOCALIC ReRReLeLLdEdAIdOdAUbVIRAMAbDANDAb:DANDAbPUNCTUATION vc:v",
   "cLINEcCRESCENT BARcLOTUS",
   "11052bNUMBER ONEcwc]cFOURcFIVEcSIXcSEVENcEIGHTcNINEcTENcTWENTYcTHIRTYcFORTYcFIFTYcSIXTY",
   "cSEVENTYcEIGHTYcNINETYcONE rdubDIGIT ZEROcONEcwc]cFOURcFIVEcSIXcSEVENcEIGHTcNINE",
   "b)OLD TAMIL VIRAMAb!OLD TAMIL SHORT EfObVOWEL )OLD TAMIL SHORT EgOb!OLD TAMIL LLA",
   "1107FbNUMBER JOINERaKAITHI )CANDRABINDUcANUSVARAcVISARGAb!AcAAcIcIIcUcUUcEcAIcOcAUcKAcKHAcGA",
   "cGHAcNGAcCAcCHAcJAcJHAcNYAcTTAcTTHAcDDAcDDDHAcDDHAcRHAcNNAcTAcTHAcDAcDHAcNAcPAcPHAcBAcBHAcMA",
   "cYAcRAcLAcVAcSHAcSSAcSAcHAbVOWEL )AAdIdIIdUdUUdEdAIdOdAUb)VIRAMAcNUKTAbABBREVIATION )",
   "bENUMERATION )bNUMBER )bSECTION pb:SECTION pbDANDAb:DANDAbVOWEL )VOCALIC R",
   "110CDbNUMBER ),",
   "110D0aSORA SOMPENG !SAHdTAHdBAHdCAHdDAHdGAHdMAHdNGAHdLAHdNAHdVAHdPAHdYAHdRAHdHAHdKAHdJAHdNYAH",
   "dAHdEEHdIHdUHdOHdEHdMAE",
   "110F0cDIGIT ZEROdONEdwd]dFOURdFIVEdSIXdSEVENdEIGHTdNINE",
   "11100aCHAKMA )CANDRABINDUcANUSVARAcVISARGAb!AAcIcUcEcKAAcKHAAcGAAcGHAAcNGAAcCAAcCHAAcJAAcJHAA",
   "cNYAAcTTAAcTTHAAcDDAAcDDHAAcNNAAcTAAcTHAAcDAAcDHAAcNAAcPAAcPHAAcBAAcBHAAcMAAcYYAAcYAAcRAAcLAA",
   "cWAAcSAAcHAAbVOWEL )AdIdIIdUdUUdEdAIdOdAUdOIbO pbAU pbVIRAMAbMAAYYAA",
   "11136bDIGIT ZEROcONEcwc]cFOURcFIVEcSIXcSEVENcEIGHTcNINEbSECTION pbDANDAb:DANDAbQUESTION p",
   "b!LHAAbVOWEL )AAdEIb!VAA",
   "11150aMAHAJANI !AcIcUcEcOcKAcKHAcGAcGHAcCAcCHAcJAcJHAcNYAcTTAcTTHAcDDAcDDHAcNNAcTAcTHAcDAcDHA",
   "cNAcPAcPHAcBAcBHAcMAcRAcLAcVAcSAcHAcRRAb)NUKTAbABBREVIATION )bSECTION pbLIGATURE SHRI",
   "11180aSHARADA )CANDRABINDUcANUSVARAcVISARGAb!AcAAcIcIIcUcUUcVOCALIC RdRRdLdLLcEcAIcOcAUcKAcKHA",
   "cGAcGHAcNGAcCAcCHAcJAcJHAcNYAcTTAcTTHAcDDAcDDHAcNNAcTAcTHAcDAcDHAcNAcPAcPHAcBAcBHAcMAcYAcRAcLA",
   "cLLAcVAcSHAcSSAcSAcHAbVOWEL )AAdIdIIdUdUUdVOCALIC ReRReLeLLdEdAIdOdAUb)VIRAMAcAVAGRAHA",
   "cJIHVAMULIYAcUPADHMANIYAbOMbDANDAb:DANDAbABBREVIATION )bSEPARATORbSANDHI pb)NUKTA",
   "bVOWEL MODIFIER pbEXTRA SHORT VOWEL pbSUTRA pbVOWEL )PRISHTHAMATRA Eb)INVERTED CANDRABINDU",
   "bDIGIT ZEROcONEcwc]cFOURcFIVEcSIXcSEVENcEIGHTcNINEbEKAMb)SIDDHAMbHEADSTROKEbCONTINUATION )",
   "bSECTION MARK-1cMARK-2",
   "111E1aSINHALA ARCHAIC DIGIT ONEdwd]dFOURdFIVEdSIXdSEVENdEIGHTdNINEcNUMBER TENdTWENTYdTHIRTY",
   "dFORTYdFIFTYdSIXTYdSEVENTYdEIGHTYdNINETYdONE reu",
   "11200aKHOJKI !AcAAcIcUcEcAIcOcAUcKAcKHAcGAcGGAcGHAcNGAcCAcCHAcJAcJJA",
   "11213cNYAcTTAcTTHAcDDAcDDHAcNNAcTAcTHAcDAcDDDAcDHAcNAcPAcPHAcBAcBBAcBHAcMAcYAcRAcLAcVAcSAcHA",
   "cLLAbVOWEL )AAdIdIIdUdEdAIdOdAUb)ANUSVARAcVIRAMAcNUKTAcSHADDAbDANDAb:DANDAbWORD SEPARATOR",
   "bSECTION pb:SECTION pbABBREVIATION )b)SUKUN",
   "11280aMULTANI !AcIcUcEcKAcKHAcGA",
   "11288cGHA",
   "1128AcCAcCHAcJAcJJA",
   "1128FcNYAcTTAcTTHAcDDAcDDDAcDDHAcNNAcTAcTHAcDAcDHAcNAcPAcPHAcBA",
   "1129FcBHAcMAcYAcRAcLAcVAcSAcHAcRRAcRHAbSECTION p",
   "112B0aKHUDAWADI !AcAAcIcIIcUcUUcEcAIcOcAUcKAcKHAcGAcGGAcGHAcNGAcCAcCHAcJAcJJAcJHAcNYAcTTAcTTHA",
   "cDDAcDDDAcRRAcDDHAcNNAcTAcTHAcDAcDHAcNAcPAcPHAcBAcBBAcBHAcMAcYAcRAcLAcVAcSHAcSAcHAb)ANUSVARA",
   "bVOWEL )AAdIdIIdUdUUdEdAIdOdAUb)NUKTAcVIRAMA",
   "112F0bDIGIT ZEROcONEcwc]cFOURcFIVEcSIXcSEVENcEIGHTcNINE",
   "11300aGRANTHA )COMBINING ANUSVARA ,cCANDRABINDUcANUSVARAcVISARGA",
   "11305b!AcAAcIcIIcUcUUcVOCALIC RdL",
   "1130FcEEcAI",
   "11313cOOcAUcKAcKHAcGAcGHAcNGAcCAcCHAcJAcJHAcNYAcTTAcTTHAcDDAcDDHAcNNAcTAcTHAcDAcDHAcNA",
   "1132AcPAcPHAcBAcBHAcMAcYAcRA",
   "11332cLAcLLA",
   "11335cVAcSHAcSSAcSAcHA",
   "1133BaCOMBINING BINDU [aGRANTHA )NUKTAcAVAGRAHAbVOWEL )AAdIdIIdUdUUdVOCALIC ReRR",
   "11347dEEdAI",
   "1134BdOOdAUb)VIRAMA",
   "11350bOM",
   "11357bAU LENGTH p",
   "1135Db)PLUTAb!VEDIC ANUSVARAd:ANUSVARAcVOCALIC RRdLLbVOWEL )VOCALIC LeLL",
   "11366aCOMBINING GRANTHA DIGIT ZEROdONEdwd]dFOURdFIVEdSIX",
   "11370c!AdKAdNAdVIdPA",
   "11400aNEWA !AcAAcIcIIcUcUUcVOCALIC RdRRdLdLLcEcAIcOcAUcKAcKHAcGAcGHAcNGAcNGHAcCAcCHAcJAcJHA",
   "cNYAcNYHAcTTAcTTHAcDDAcDDHAcNNAcTAcTHAcDAcDHAcNAcNHAcPAcPHAcBAcBHAcMAcMHAcYAcRAcRHAcLAcLHAcWA",
   "cSHAcSSAcSAcHAbVOWEL )AAdIdIIdUdUUdVOCALIC ReRReLeLLdEdAIdOdAUb)VIRAMAcCANDRABINDUcANUSVARA",
   "cVISARGAcNUKTAcAVAGRAHAc=ANUSVARAbOMbSIDDHIbDANDAb:DANDAbCOMMAbGAP FILLERbABBREVIATION )",
   "bDIGIT ZEROcONEcwc]cFOURcFIVEcSIXcSEVENcEIGHTcNINEb:COMMAbPLACEHOLDER p",
   "1145DbINSERTION )bSANDHI pb!VEDIC ANUSVARAb)JIHVAMULIYAcUPADHMANIYA",
   "11480aTIRHUTA ANJIb!AcAAcIcIIcUcUUcVOCALIC RdRRdLdLLcEcAIcOcAUcKAcKHAcGAcGHAcNGAcCAcCHAcJAcJHA",
   "cNYAcTTAcTTHAcDDAcDDHAcNNAcTAcTHAcDAcDHAcNAcPAcPHAcBAcBHAcMAcYAcRAcLAcVAcSHAcSSAcSAcHA",
   "bVOWEL )AAdIdIIdUdUUdVOCALIC ReRReLeLLdEdSHORT EdAIdOdSHORT OdAUb)CANDRABINDUcANUSVARAcVISARGA",
   "cVIRAMAcNUKTAcAVAGRAHAbGVANGbABBREVIATION )bOM",
   "114D0bDIGIT ZEROcONEcwc]cFOURcFIVEcSIXcSEVENcEIGHTcNINE",
   "11580aSIDDHAM !AcAAcIcIIcUcUUcVOCALIC RdRRdLdLLcEcAIcOcAUcKAcKHAcGAcGHAcNGAcCAcCHAcJAcJHAcNYA",
   "cTTAcTTHAcDDAcDDHAcNNAcTAcTHAcDAcDHAcNAcPAcPHAcBAcBHAcMAcYAcRAcLAcVAcSHAcSSAcSAcHAbVOWEL )AAdI",
   "dIIdUdUUdVOCALIC ReRR",
   "115B8dEdAIdOdAUb)CANDRABINDUcANUSVARAcVISARGAcVIRAMAcNUKTAcSIDDHAMbDANDAb:DANDAbSEPARATOR v",
   "cBARbREPETITION MARK-1cMARK-2cMARK-3bEND OF TEXT pbSECTION p#TRIDENT ;U-SHAPED ORNAMENTS",
   "gDOTTED CRESCENTSeRAYS ;DOTTED CRESCENTSh:CRESCENTShTRIPLE CRESCENTSd:RINGf#RAYSd#:CRESCENTS",
   "eTRIPLE CRESCENTSeQUADRUPLE CRESCENTSeSEPTUPLE CRESCENTSeCIRCLES ;RAYSgwENCLOSURES",
   "gFOUR ENCLOSURESb!THREE-CIRCLE ALTERNATE IcTWO-CIRCLE ALTERNATE IeIIcALTERNATE U",
   "bVOWEL )ALTERNATE UeUU",
   "11600aMODI !AcAAcIcIIcUcUUcVOCALIC RdRRdLdLLcEcAIcOcAUcKAcKHAcGAcGHAcNGAcCAcCHAcJAcJHAcNYAcTTA",
   "cTTHAcDDAcDDHAcNNAcTAcTHAcDAcDHAcNAcPAcPHAcBAcBHAcMAcYAcRAcLAcVAcSHAcSSAcSAcHAcLLAbVOWEL )AAdI",
   "dIIdUdUUdVOCALIC ReRReLeLLdEdAIdOdAUb)ANUSVARAcVISARGAcVIRAMAcARDHACANDRAbDANDAb:DANDA",
   "bABBREVIATION )b)HUVA",
   "11650bDIGIT ZEROcONEcwc]cFOURcFIVEcSIXcSEVENcEIGHTcNINE",
   "11660aMONGOLIAN BIRGA #ORNAMENTbROTATED BIRGAb:BIRGA #ORNAMENTbTRIPLE BIRGA #ORNAMENT",
   "bBIRGA #:ORNAMENTbROTATED BIRGA #ORNAMENTe:ORNAMENTbINVERTED BIRGAd#:ORNAMENTbSWIRL BIRGA",
   "d#ORNAMENTe:ORNAMENTbTURNED SWIRL BIRGA #:ORNAMENT",
   "11680aTAKRI !AcAAcIcIIcUcUUcEcAIcOcAUcKAcKHAcGAcGHAcNGAcCAcCHAcJAcJHAcNYAcTTAcTTHAcDDAcDDHA",
   "cNNAcTAcTHAcDAcDHAcNAcPAcPHAcBAcBHAcMAcYAcRAcLAcVAcSHAcSAcHAcRRAb)ANUSVARAcVISARGAbVOWEL )AAdI",
   "dIIdUdUUdEdAIdOdAUb)VIRAMAcNUKTAb!ARCHAIC KHAbABBREVIATION )",
   "116C0bDIGIT ZEROcONEcwc]cFOURcFIVEcSIXcSEVENcEIGHTcNINE",
   "11700aAHOM !KAcKHAcNGAcNAcTAcALTERNATE TAcPAcPHAcBAcMAcJAcCHAcTHAcRAcLAcSAcNYAcHAcAcDAcDHAcGA",
   "cALTERNATE GAcGHAcBHAcJHAcALTERNATE BA",
   "1171DbCONSONANT )MEDIAL LAeRAeLIGATING RAbVOWEL )AdAAdIdIIdUdUUdEdAWdOdAIdAMb)KILLER",
   "11730bDIGIT ZEROcONEcwc]cFOURcFIVEcSIXcSEVENcEIGHTcNINEbNUMBER TENcTWENTYb)%SECTIONcSECTION",
   "cRULAIbmVIb!CAcTTAcTTHAcDDAcDDHAcNNAcLLA",
   "11800aDOGRA !AcAAcIcIIcUcUUcEcAIcOcAUcKAcKHAcGAcGHAcNGAcCAcCHAcJAcJHAcNYAcTTAcTTHAcDDAcDDHA",
   "cNNAcTAcTHAcDAcDHAcNAcPAcPHAcBAcBHAcMAcYAcRAcLAcVAcSHAcSSAcSAcHAcRRAbVOWEL )AAdIdIIdUdUU",
   "dVOCALIC ReRRdEdAIdOdAUb)ANUSVARAcVISARGAcVIRAMAcNUKTAbABBREVIATION )",
   "118A0aWARANG CITI $!NGAAeAeWIeYUeYAeYOeIIeUUeEeOeANGeGAeKOeENYeYUJeUCeENNeODDeTTEeNUNGeDAeAT",
   "eAMeBUePUeHIYOeHOLOeHORReHAReSSUUeSIIeVIYOc%!NGAAeAeWIeYUeYAeYOeIIeUUeEeOeANGeGAeKOeENYeYUJeUC",
   "eENNeODDeTTEeNUNGeDAeATeAMeBUePUeHIYOeHOLOeHORReHAReSSUUeSIIeVIYOcDIGIT ZEROdONEdwd]dFOURdFIVE",
   "dSIXdSEVENdEIGHTdNINEcNUMBER TENdTWENTYdTHIRTYdFORTYdFIFTYdSIXTYdSEVENTYdEIGHTYdNINETY",
   "118FFcOMaDIVES AKURU !AdAAdIdIIdUdUUdE",
   "11909dO",
   "1190CdKAdKHAdGAdGHAdNGAdCAdCHAdJA",
   "11915dNYAdTTA",
   "11918dDDAdDDHAdNNAdTAdTHAdDAdDHAdNAdPAdPHAdBAdBHAdMAdYAdYYAdRAdLAdVAdSHAdSSAdSAdHAdLLAdZA",
   "cVOWEL )AAeIeIIeUeUUeE",
   "11937eAIeO",
   "1193Bc)ANUSVARAdCANDRABINDUdHALANTAcVIRAMAcPREFIXED NASAL )cMEDIAL YAc>RAcMEDIAL RAc)NUKTA",
   "c:DANDAcGAP FILLERcEND OF TEXT p",
   "11950cDIGIT ZEROdONEdwd]dFOURdFIVEdSIXdSEVENdEIGHTdNINE",
   "119A0aNANDINAGARI !AcAAcIcIIcUcUUcVOCALIC RdRR",
   "119AAcEcAIcOcAUcKAcKHAcGAcGHAcNGAcCAcCHAcJAcJHAcNYAcTTAcTTHAcDDAcDDHAcNNAcTAcTHAcDAcDHAcNAcPA",
   "cPHAcBAcBHAcMAcYAcRAcLAcVAcSHAcSSAcSAcHAcLLAcRRAbVOWEL )AAdIdIIdUdUUdVOCALIC ReRR",
   "119DAdEdAIdOdAUb)ANUSVARAcVISARGAcVIRAMAcAVAGRAHAcSIDDHAMbHEADSTROKEbVOWEL )PRISHTHAMATRA E",
   "11A00aZANABAZAR SQUARE !AcVOWEL )IeUEeUeEeOEeOeAIeAUeREVERSED IdLENGTH pc!KAdKHAdGAdGHAdNGAdCA",
   "dCHAdJAdNYAdTTAdTTHAdDDAdDDHAdNNAdTAdTHAdDAdDHAdNAdPAdPHAdBAdBHAdMAdTSAdTSHAdDZAdDZHAdZHAdZA",
   "d-AdYAdRAdLAdVAdSHAdSSAdSAdHAdKSSAc=CONSONANT pc)VIRAMAdCANDRABINDUe#ORNAMENTdCANDRA #ORNAMENT",
   "dANUSVARAdVISARGAcCLUSTER-INITIAL !RAcCLUSTER-FINAL !YAeRAeLAeVAc>HEAD pcCLOSING HEAD pcpTSHEG",
   "dSHADd:SHADdLONG TSHEGc>DOUBLE-LINED HEAD pcCLOSING DOUBLE-LINED HEAD pcSUBJOINER",
   "11A50aSOYOMBO !AbVOWEL )IdUEdUdEdOdOEdAIdAUdVOCALIC ReLcLENGTH pb!KAcKHAcGAcGHAcNGAcCAcCHAcJA",
   "cJHAcNYAcTTAcTTHAcDDAcDDHAcNNAcTAcTHAcDAcDHAcNAcPAcPHAcBAcBHAcMAcTSAcTSHAcDZAcZHAcZAc-AcYAcRA",
   "cLAcVAcSHAcSSAcSAcHAcKSSAb)JIHVAMULIYAcUPADHMANIYAbCLUSTER-INITIAL !RAdLAdSHAdSAb=CONSONANT )G",
   "eKeNGeDeNeBeMeReLeSHeSe-Ab)ANUSVARAcVISARGAbGEMINATION pbSUBJOINERbpTSHEGcSHADc:SHADcPLUTA",
   "bHEAD p#MOON ;SUN ;TRIPLE FLAMEiFLAMEgSUNbTERMINAL MARK-1cMARK-2",
   "11AB0aCANADIAN SYLLABICS NATTILIK HIdHIIdHOdHOOdHAdHAAdSHRIdSHRIIdSHROdSHROOdSHRAdSHRAAcSPE",
   "cSPIcSPOcSPAaPAU CIN HAU !PAeKAeLAeMAeDAeZAeVAeNGAeHAeGAeKHAeSAeBAeCAeTAeTHAeNAePHAeRAeFAeCHA",
   "eAeEeIeOeUeUAeIAe=PfKfTfMfNfLfWfNGfYdRISING TONE LONGeTONEdSANDHI GLOTTAL STOP",
   "dRISING TONE LONG =f=dSANDHI GLOTTAL STOP =eTONE LONGeTONEfLONG =f=dMID-LEVEL TONE",
   "dGLOTTAL STOP VARIANTdMID-LEVEL TONE LONG =f=dLOW-FALLING TONE LONGeTONEdGLOTTAL STOP",
   "dLOW-FALLING TONE LONG =f=dGLOTTAL STOP =",
   "11C00aBHAIKSUKI !AcAAcIcIIcUcUUcVOCALIC RdRRdL",
   "11C0AcEcAIcOcAUcKAcKHAcGAcGHAcNGAcCAcCHAcJAcJHAcNYAcTTAcTTHAcDDAcDDHAcNNAcTAcTHAcDAcDHAcNAcPA",
   "cPHAcBAcBHAcMAcYAcRAcLAcVAcSHAcSSAcSAcHAbVOWEL )AAdIdIIdUdUUdVOCALIC ReRReL",
   "11C38dEdAIdOdAUb)CANDRABINDUcANUSVARAcVISARGAcVIRAMAcAVAGRAHAbDANDAb:DANDAbWORD SEPARATOR",
   "bGAP FILLER-1cFILLER-2",
   "11C50bDIGIT ZEROcONEcwc]cFOURcFIVEcSIXcSEVENcEIGHTcNINEbNUMBER ONEcwc]cFOURcFIVEcSIXcSEVEN",
   "cEIGHTcNINEcTENcTWENTYcTHIRTYcFORTYcFIFTYcSIXTYcSEVENTYcEIGHTYcNINETYbHUNDREDS UNIT p",
   "11C70aMARCHEN HEAD pbpSHADb!KAcKHAcGAcNGAcCAcCHAcJAcNYAcTAcTHAcDAcNAcPAcPHAcBAcMAcTSAcTSHAcDZA",
   "cWAcZHAcZAc-AcYAcRAcLAcSHAcSAcHAcA",
   "11C92bSUBJOINED !KAdKHAdGAdNGAdCAdCHAdJAdNYAdTAdTHAdDAdNAdPAdPHAdBAdMAdTSAdTSHAdDZAdWAdZHAdZA",
   "11CA9dYAdRAdLAdSHAdSAdHAdAbVOWEL )AAdIdUdEdOb)ANUSVARAcCANDRABINDU",
   "11D00aMASARAM GONDI !AdAAdIdIIdUdUUdE",
   "11D08dAIdO",
   "11D0BdAUdKAdKHAdGAdGHAdNGAdCAdCHAdJAdJHAdNYAdTTAdTTHAdDDAdDDHAdNNAdTAdTHAdDAdDHAdNAdPAdPHAdBA",
   "dBHAdMAdYAdRAdLAdVAdSHAdSSAdSAdHAdLLAdKSSAdJNYAdTRAcVOWEL )AAeIeIIeUeUUeVOCALIC R",
   "11D3AeE",
   "11D3CeAIeO",
   "11D3FeAUc)ANUSVARAdVISARGAdNUKTAdCANDRAdHALANTAcVIRAMAcREPHAcRA-KARA",
   "11D50cDIGIT ZEROdONEdwd]dFOURdFIVEdSIXdSEVENdEIGHTdNINE",
   "11D60aGUNJALA GONDI !AdAAdIdIIdUdUU",
   "11D67dEEdAI",
   "11D6AdOOdAUdYAdVAdBAdBHAdMAdKAdKHAdTAdTHAdLAdGAdGHAdDAdDHAdNAdCAdCHAdTTAdTTHAdLLAdJAdJHAdDDA",
   "dDDHAdNGAdPAdPHAdHAdRAdSAcVOWEL )AAeIeIIeUeUU",
   "11D90eEEeAI",
   "11D93eOOeAUc)ANUSVARAdVISARGAcVIRAMAcOM",
   "11DA0cDIGIT ZEROdONEdwd]dFOURdFIVEdSIXdSEVENdEIGHTdNINE",
   "11EE0aMAKASAR !KAcGAcNGAcPAcBAcMAcTAcDAcNAcCAcJAcNYAcYAcRAcLAcVAcSAcAbANGKAbVOWEL )IdUdEdO",
   "bPASSIMBANGbEND OF SECTION",
   "11FB0aLISU !YHA",
   "11FC0aTAMIL FRACTION ONE THREE-HUNDRED-AND-TWENTIETHdONE-HUNDRED-AND-SIXTIETHdEIGHTIETH",
   "dSIXTY-FOURTHdFORTIETHdTHIRTY-SECONDc]EIGHTIETHSdSIXTY-FOURTHScONE TWENTIETHdSIXTEENTH-1",
   "dSIXTEENTH-2dTENTHdEIGHTHc]TWENTIETHSdSIXTEENTHScONE FIFTHdQUARTERdHALF-1dHALF-2c]QUARTERS",
   "cDOWNSCALING FACTOR KIIZHb)NELcCEVITUcAAZHAAKKUcUZHAKKUcMUUVUZHAKKUcKURUNIcPATHAKKUcMUKKURUNI",
   "cKAACUcPANAMcPONcVARAAKANcPAARAMcKUZHIcVELIbWET CULTIVATION )bDRY CULTIVATION )bLAND )",
   "bSALT PAN )bTRADITIONAL CREDIT )cNUMBER )bCURRENT )b;ODD )bSPENT )bTOTAL )bIN POSSESSION )",
   "bSTARTING FROM )b)MUTHALIYAcVAKAIYARAA",
   "11FFFbPUNCTUATION END OF TEXTaCUNEIFORM )AdzAeBADeGAN2 TENUeHAeIGIeLAGAR GUNUeMUSHeSAGcA2cAB",
   "dzASH2eDUN3 GUNUeGALeGAN2 TENUeHAeIGI GUNUeIMINeLAGABeSHESHeU PLUS U PLUS UdGUNUcAB2dzBALAG",
   "eGAN2 TENUeME PLUS ENeSHA3eTAK4cADcAKdzERIN2eSHITA PLUS GISHcALdzALeDIM2eGISHeHAeKAD3eKIeSHE",
   "eUSHcALANcALEPHcAMARdzSHEcANdOVER ANd]zdPLUS NAGA OPPOSING AN PLUS NAGAfSQUAREDcANSHEcAPIN",
   "cARADdzKURcARKABcASAL2cASHdZIDA TENUdKABA TENUdOVER ASH TUG2 OVER TUG2 TUG2 OVER TUG2 PAP",
   "fOVER ASHhCROSSING ASH OVER ASH OVER ASHcASH2cASHGABcBAcBADcBAG3cBAHAR2cBALdOVER BALcBALAGcBAR",
   "cBARA2cBIdzAeGAReIGI GUNUcBUdOVER BU ABfUNdCROSSING BUcBULUGdOVER BULUGcBURcBUR2cDAcDAG",
   "dKISIM5 zA PLUS MASHfAMARfBALAGfBIfGAgPLUS MASHfGIfGIR2fGUDfHAfIRgPLUS LUfKAKfLAfLUgPLUS MASH2",
   "fLUMfNEfPAP PLUS PAPfSIfTAK4fU2 PLUS GIR2fUSHcDAMcDARcDARA3cDARA4cDIcDIBcDIMdzSHEcDIM2cDIN",
   "dKASKAL U GUNU DISHcDISHcDUdOVER DUdGUNUdSHESHIGcDUBdzESH2cDUB2cDUGcDUGUDcDUHcDUNcDUN3dGUNU",
   "eGUNUcDUN4cDUR2cEdzPAPdOVER E NUN OVER NUNcE2dzA PLUS HA PLUS DAeGAReMIeSALeSHEeUcEDINcEGIRcEL",
   "cENdzGAN2fTENUeMEdCROSSING ENdOPPOSING ENdSQUAREDcERENcERIN2cESH2cEZENdzAfPLUS LALhzLALeANeBAD",
   "eDUN3 GUNUgGUNUeHAfGUNUeIGI GUNUeKASKALfSQUAREDeKU3eLAeLAL zLALeLIeLUeU2eUDcGAdGUNUcGA2",
   "dzA PLUS DA PLUS HAgHAgIGIeAB2 TENU PLUS TABeANeASHeASH2 PLUS GALeBADeBAR PLUS RAeBURfPLUS RA",
   "eDAeDIeDIM zSHEeDUBeELfPLUS LAeENfzGAN2 TENUeGAN2 TENUeGAReGIeGI4fPLUS AeGIR2 PLUS SU",
   "eHA PLUS LU PLUS ESH2eHALfPLUS LAeHI PLUS LIeHUB2eIGI GUNUeISH PLUS HU PLUS ASHeKAKeKASKALeKID",
   "fPLUS LALeKU3 PLUS ANeLAeME PLUS ENeMIeNUNfOVER NUNePAeSALeSAReSHEfPLUS TUReSHIDeSUMeTAK4eUeUD",
   "fPLUS DUdOVER GA2cGABAdCROSSING GABAcGADdOVER GAD GAR OVER GARcGALdGAD OVER GAD GAR OVER GAR",
   "cGALAMcGAMcGANcGAN2dTENUdOVER GAN2dCROSSING GAN2cGARcGAR3cGASHANcGESHTINdzKURcGIdzEeU",
   "dCROSSING GIcGI4dOVER GI4dCROSSING GI4cGIDIMcGIR2dGUNUcGIR3dzA PLUS IGIeGAN2 TENUeIGI",
   "eLU PLUS IGIePAcGISALcGISHdCROSSING GISHdzBADeTAK4dTENUcGUdCROSSING GUcGU2dzKAKfzIGI GUNUeNUN",
   "eSAL PLUS TUG2dGUNUcGUDdzA PLUS KUReKURdOVER GUD LUGALcGULcGUMdzSHEcGURcGUR7cGURUNcGURUSHcHA",
   "dTENUdGUNUcHALcHIdzASHeASH2eBADeDISHeGADeKINeNUNeSHEeUcHUcHUB2dzANeHALeKASKALeLISHeUDcHUL2cIdA",
   "cIBcIDIMdOVER IDIM BURfSQUAREDcIGcIGIdDIBdRIdOVER IGI SHIR OVER SHIR UD OVER UDdGUNUcIL",
   "dzGAN2 TENUcIL2cIMdzTAK4dCROSSING IMdOPPOSING IMdSQUAREDcIMINcINcIRcISHcKAdzAeADfPLUS KU3eASH2",
   "eBADeBALAGeBAReBIeERIN2eESH2eGAeGALeGAN2 TENUeGARfPLUS SHA3 PLUS AeGIeGIR2eGISH PLUS SAR",
   "fCROSSING GISHeGUeGUR7eIGIeIMeKAKeKIeKIDeLIeLUeMEfPLUS DUgGIgTEeMIfPLUS NUNUZeNEeNUNePIeRUeSA",
   "eSAReSHAeSHEeSHIDeSHUeSIGeSUHUReTAReUeU2eUDeUMUM zPAeUSHeZIcKA2dCROSSING KA2cKABcKAD2cKAD3",
   "cKAD4cKAD5dOVER KAD5cKAKdzIGI GUNUcKALdzBADdCROSSING KALcKAM2cKAM4cKASKAL",
   "dLAGAB zU OVER LAGAB zUdOVER KASKAL LAGAB zU OVER LAGAB zUcKESH2cKIdzBADeUeUDcKIDcKINcKISAL",
   "cKISHcKISIM5dOVER KISIM5cKUdOVER HI zASH2 KU OVER HI zASH2cKU3cKU4dVARIANT (cKU7cKULdGUNUcKUN",
   "cKURdOPPOSING KURcKUSHU2cKWU318cLAcLAGABdzAfPLUS DA PLUS HAgGARgLALeALeANeASH ZIDA TENUeBADeBI",
   "eDAReENeGAeGAReGUDfPLUS GUDeHAeHALeHI zNUNeIGI GUNUeIMfPLUS HAgLUeKIeKINeKU3eKUL",
   "fPLUS HI PLUS AeLAGABeLISHeLUeLULeMEfPLUS ENeMUSHeNEeSHE PLUS SUMeSHITA PLUS GISH PLUS ERIN2",
   "hTENUeSHU2fPLUS SHU2eSUMeTAGeTAK4eTE PLUS A PLUS SU PLUS NAeUfPLUS AgU PLUS UeU2 PLUS ASHeUD",
   "eUSHdSQUAREDcLAGARdzSHEfPLUS SUMdGUNUeOVER LAGAR GUNU SHEcLAHSHUcLALdzLALcLAMdzKURfPLUS RUcLI",
   "cLILcLIMMU2cLISHcLUdzBADcLU2dzALeBADeESH2fTENUeGAN2 TENUeHI zBADeIMeKAD2eKAD3fPLUS ASHeKI",
   "eLA PLUS ASHeLAGABeME PLUS ENeNEeNUeSI PLUS ASHeSIK2 PLUS BUeTUG2dTENUdCROSSING LU2",
   "dOPPOSING LU2dSQUAREDdSHESHIGcLU3cLUGALdOVER LUGALdOPPOSING LUGALdSHESHIGcLUHcLULcLUMdOVER LUM",
   "fGAR OVER GARcMAdzTAK4dGUNUcMA2cMAHcMARcMASHcMASH2cMEcMEScMIcMINcMUdOVER MUcMUGdGUNUcMUNSUB",
   "cMURGU2cMUSHdzAeKUReZAdOVER MUSHfzA PLUS NAdCROSSING MUSHcMUSH3dzAfPLUS DIeDIdGUNUcNAcNA2cNAGA",
   "dINVERTEDdzSHU TENUdOPPOSING NAGAcNAGARcNAM NUTILLUcNAMcNAM2cNEdzAeUDdSHESHIGcNIdzEcNI2cNIM",
   "dzGAN2 TENUeGAR PLUS GAN2 TENUcNINDA2dzANeASHfPLUS ASHeGUDeME PLUS GAN2 TENUeNEeNUNeSHE",
   "fPLUS A ANgASHhPLUS ASHeU2 PLUS ASHeUSHcNISAGcNUcNU11cNUNdLAGAR zGARfMASHfSAL",
   "gOVER NUN LAGAR zSALfUSHdTENUdOVER NUNdCROSSING NUNfLAGAR OVER LAGARcNUNUZdAB2 zASHGABfBIfDUG",
   "fGUDfIGI GUNUfKAD3fLAfNEfSILA3fU2dKISIM5 zBIgUcPAcPADcPANcPAPcPESH2cPIdzAeABeBIeBUeEeIeIBeUeU2",
   "dCROSSING PIcPIRIGdzKALeUDeZAdOPPOSING PIRIGcRAcRABcRIcRUcSAcSAG NUTILLUcSAGdzAeDUeDUBeHAeKAK",
   "eKUReLUMeMIeNUNeSALeSHIDeTABeU2eUBeUMeUReUSHdOVER SAGdGUNUcSALdLAGAB zASH2cSANGA2cSARcSHAcSHA3",
   "dzAeBADeGISHeNEeSHU2eTUReUfPLUS AcSHA6cSHAB6cSHAR2cSHEdHUdOVER SHE GAD OVER GAD GAR OVER GAR",
   "fTAB OVER TAB GAR OVER GARcSHEG9cSHENcSHESHcSHESH2cSHESHLAMcSHIDdzAeIMcSHIMdzAeBALeBULUGeDIN",
   "eGAReIGIfGUNUeKUSHU2eLULeMUGeSALcSHINIGcSHIRdTENUdOVER SHIR BUR OVER BURcSHITAcSHU",
   "dOVER INVERTED SHUcSHU2cSHUBURcSIdGUNUcSIGcSIG4dOVER SIG4 SHU2cSIK2cSILA3cSUdOVER SUcSUDcSUD2",
   "cSUHURcSUMcSUMASHcSURcSUR9cTAdASTERISKdzHIeMIdGUNUcTABdOVER TAB NI OVER NI DISH OVER DISH",
   "dSQUAREDcTAGdzBIeGUDeSHEeSHUeTUG2eUDcTAK4cTARcTEdGUNUcTIdTENUcTILcTIRdzTAK4dOVER TIR",
   "fGAD OVER GAD GAR OVER GARcTUcTUG2cTUKcTUMcTURdOVER TUR ZA OVER ZAcUdGUDdU U",
   "dOVER U PA OVER PA GAR OVER GARfSUR OVER SURfU REVERSED OVER U REVERSEDcU2cUBcUDdKUSHU2dzBAD",
   "eMIeU PLUS U PLUS UjGUNUdGUNUdSHESHIGezBADcUDUGcUMdzLAGABeME PLUS DAeSHA3eUcUMBINcUMUMdzKASKAL",
   "ePAcUNdGUNUcURdCROSSING URdSHESHIGcUR2dzA PLUS HAgNAeALeHAeNUNeU2fPLUS ASHgBIcUR4cURIcURI3cURU",
   "dzAeASHGABeBAReDUNeGAeGALeGAN2 TENUeGAReGUeHAeIGIeIMeISHeKIeLUMeMINePAeSHEeSIG4eTUeU PLUS GUD",
   "eUDeURUDAcURUDAdzUcUSHdzAeKUeKUReTAK4cUSHXcUSH2cUSHUMXcUTUKIcUZ3dzKASKALcUZUcZAdTENU",
   "dSQUARED zKURcZAGcZAMXcZE2cZIdOVER ZIcZI3cZIBdKABA TENUcZIGcZIZ2cZUcZU5dzAcZUBURcZUM",
   "cKAP ELAMITEcAB zNUNcAB2 zAcAMAR zKUGcDAG KISIM5 zU2 PLUS MASHcDAG3cDISH PLUS SHUcDUB zSHE",
   "cEZEN zGUDeSHEcGA2 zAN PLUS KAK PLUS AeASH2cGE22cGIGcHUSHcKA zANSHEeASH3eGISHeGUDeHI zASH2eLUM",
   "ePAeSHULeTUeUR2cLAGAB zGIcLU2 SHESHIG zBADdzESH2 PLUS LALeSHUcMESHcMUSH3 zZAcNA4cNINcNIN9",
   "cNINDA2 zBALeGIcNU11 ROTATED NINETY DEGREEScPESH2 ASTERISKcPIR2cSAG zIGI GUNUcTI2cUM zMEcU U",
   "12400bNUMERIC )wASHd]ASHdFOUR ASHdFIVE ASHdSIX ASHdSEVEN ASHdEIGHT ASHdNINE ASHd]DISH",
   "dFOUR DISHdFIVE DISHdSIX DISHdSEVEN DISHdEIGHT DISHdNINE DISHdFOUR UdFIVE UdSIX UdSEVEN U",
   "dEIGHT UdNINE UdONE GESH2dwGESH2d]GESH2dFOUR GESH2dFIVE GESH2dSIX GESH2dSEVEN GESH2",
   "dEIGHT GESH2dNINE GESH2dONE GESHUdwGESHUd]GESHUdFOUR GESHUdFIVE GESHUdwSHAR2d]SHAR2fVARIANT (",
   "dFOUR SHAR2dFIVE SHAR2dSIX SHAR2dSEVEN SHAR2dEIGHT SHAR2dNINE SHAR2dONE SHARUdwSHARUd]SHARU",
   "fVARIANT (dFOUR SHARUdFIVE SHARUdSHAR2 zGAL PLUS DISHhMINdONE BURUdwBURUd]BURUfVARIANT (",
   "dFOUR BURUdFIVE BURUd]VARIANT (ESH16gESH21dFOUR VARIANT (LIMMUgLIMMU4gLIMMU AhB",
   "dSIX VARIANT (ASH9dSEVEN VARIANT (IMIN3gIMIN AhBdEIGHT VARIANT (USSUgUSSU3",
   "dNINE VARIANT (ILIMMUgILIMMU3gILIMMU4gILIMMU AdwASH TENUd]ASH TENUdFOUR ASH TENUdFIVE ASH TENU",
   "dSIX ASH TENUdONE BAN2dwBAN2d]BAN2dFOUR BAN2fVARIANT (dFIVE BAN2fVARIANT (dNIGIDAMINdNIGIDAESH",
   "dONE ESHE3dwESHE3dONE THIRD DISHdwTHIRDS DISHdFIVE SIXTHS DISHdONE THIRD VARIANT (A",
   "dwTHIRDS VARIANT (AdONE EIGHTH ASHeQUARTER ASHdOLD ASSYRIAN ONE SIXTHgQUARTERdONE QUARTER GUR",
   "eHALF GURdELAMITE ONE THIRDewTHIRDSeFORTYeFIFTYdFOUR U VARIANT (dFIVE U VARIANT (",
   "dSIX U VARIANT (dSEVEN U VARIANT (dEIGHT U VARIANT (dNINE U VARIANT (",
   "12470bPUNCTUATION )OLD ASSYRIAN WORD DIVIDERd@COLONdDIAGONAL COLONeTRICOLONeQUADCOLON",
   "12480b)AB zNUN TENUeSHU2cAD zESH2cBAD zDISH TENUcBAHAR2 zAB2eNIeZAcBU OVER BU zNA2cDA zTAK4",
   "cDAG zKURcDIM zIGIeU U UcDIM2 zUDcDUG zANSHEeASHfAT <eDINeDUNeERIN2eGAeGIeGIR2 GUNUeGISHeHAeHI",
   "eIGI GUNUeKASKALeKUReKUSHU2fPLUS KASKALeLAK-020eLAMfzKUReLUH PLUS GISHeMASHeMESeMIeNIePIeSHE",
   "eSI GUNUcE2 zKURePAPcERIN2 XcESH2 CROSSING ESH2cEZEN SHESHIG zASHfHIfIGI GUNUfLAfLALfMEfMESfSU",
   "dzSUcGA2 zBAHAR2eDIM GUNUeDUG zIGI GUNUgKASKALeERENeGAeGAR PLUS DIgNEeHA PLUS A",
   "eKUSHU2 PLUS KASKALeLAMfzKUReLUHeMUSHeNEfPLUS E2gGIeSHIMeZIZ2cGABA ROTATED NINETY DEGREES",
   "cGESHTIN zUcGISH zGISH CROSSING GISHcGU2 zIGI GUNUcGUD PLUS GISH zTAK4cHA TENU GUNU",
   "cHI zASH OVER HI zASHcKA zBUeKAeU U UeURcLAGAB zZU OVER ZUcLAK-003cLAK-021cLAK-025cLAK-030",
   "cLAK-050cLAK-051cLAK-062cLAK-079 OVER LAK-079 GUNUcLAK-080cLAK-081 OVER LAK-081cLAK-092",
   "cLAK-130cLAK-142cLAK-210cLAK-219cLAK-220cLAK-225cLAK-228cLAK-238cLAK-265cLAK-266cLAK-343",
   "cLAK-347cLAK-348cLAK-383cLAK-384cLAK-390cLAK-441cLAK-449dzGUeIGIePAP PLUS LU3gPAP PLUS LU3",
   "eU2 PLUS BAcLAK-450cLAK-457cLAK-470cLAK-483cLAK-490cLAK-492cLAK-493cLAK-495cLAK-550cLAK-608",
   "cLAK-617dzASHeBADeDUN3 GUNU GUNUeKU3eLAeTAReTEeU2eUDeURUDAcLAK-636cLAK-648dzDUBeGAeIGIfGUNUeNI",
   "ePAP PLUS PAP PLUS LU3eSHESH PLUS KIeUDeURUDAcLAK-724cLAK-749cLU2 GUNU zASHdzDISHeHALePAP",
   "fPLUS PAP PLUS LU3eTAK4cMI PLUS ZA7cMUSH OVER MUSH zGAgKAKcNINDA2 zDIM GUNUeGISHeGULeHIeKESH2",
   "eLAK-050eMASHePAP PLUS PAPeUfPLUS UeURUDAcSAG GUNU zHAdzENeSHE AT <eTAK4cSHA6 TENU",
   "cSHE OVER SHEdPLUS HUB2eNAM2eSARcSHU2 PLUS DUG zNIeE2 zANcSI zTAK4cTAK4 PLUS SAG",
   "cTUM zGAN2 TENUe]DISHcUR2 INVERTEDdzUDcURU zDARA3eLAK-668eLU3cZA7cZU OVER ZU PLUS SAR",
   "cZU5 z]DISH TENU",
   "12F90aCYPRO-MINOAN )CM001cCM002cCM004cCM005cCM006cCM007cCM008cCM009cCM010cCM011cCM012cCM012B",
   "cCM013cCM015cCM017cCM019cCM021cCM023cCM024cCM025cCM026cCM027cCM028cCM029cCM030cCM033cCM034",
   "cCM035cCM036cCM037cCM038cCM039cCM040cCM041cCM044cCM046cCM047cCM049cCM050cCM051cCM052cCM053",
   "cCM054cCM055cCM056cCM058cCM059cCM060cCM061cCM062cCM063cCM064cCM066cCM067cCM068cCM069cCM070",
   "cCM071cCM072cCM073cCM074cCM075cCM075BcCM076cCM078cCM079cCM080cCM081cCM082cCM083cCM084cCM085",
   "cCM086cCM087cCM088cCM089cCM090cCM091cCM092cCM094cCM095cCM096cCM097cCM098cCM099cCM100cCM101",
   "cCM102cCM103cCM104cCM105cCM107cCM108cCM109cCM110cCM112cCM114cCM301cCM302",
   "13000aEGYPTIAN HIEROGLYPH A001cA002cA003cA004cA005cA005AcA006cA006AcA006BcA007cA008cA009cA010",
   "cA011cA012cA013cA014cA014AcA015cA016cA017cA017AcA018cA019cA020cA021cA022cA023cA024cA025cA026",
   "cA027cA028cA029cA030cA031cA032cA032AcA033cA034cA035cA036cA037cA038cA039cA040cA040AcA041cA042",
   "cA042AcA043cA043AcA044cA045cA045AcA046cA047cA048cA049cA050cA051cA052cA053cA054cA055cA056cA057",
   "cA058cA059cA060cA061cA062cA063cA064cA065cA066cA067cA068cA069cA070cB001cB002cB003cB004cB005",
   "cB005AcB006cB007cB008cB009cC001cC002cC002AcC002BcC002CcC003cC004cC005cC006cC007cC008cC009cC010",
   "cC010AcC011cC012cC013cC014cC015cC016cC017cC018cC019cC020cC021cC022cC023cC024cD001cD002cD003",
   "cD004cD005cD006cD007cD008cD008AcD009cD010cD011cD012cD013cD014cD015cD016cD017cD018cD019cD020",
   "cD021cD022cD023cD024cD025cD026cD027cD027AcD028cD029cD030cD031cD031AcD032cD033cD034cD034AcD035",
   "cD036cD037cD038cD039cD040cD041cD042cD043cD044cD045cD046cD046AcD047cD048cD048AcD049cD050cD050A",
   "cD050BcD050CcD050DcD050EcD050FcD050GcD050HcD050IcD051cD052cD052AcD053cD054cD054AcD055cD056",
   "cD057cD058cD059cD060cD061cD062cD063cD064cD065cD066cD067cD067AcD067BcD067CcD067DcD067EcD067F",
   "cD067GcD067HcE001cE002cE003cE004cE005cE006cE007cE008cE008AcE009cE009AcE010cE011cE012cE013cE014",
   "cE015cE016cE016AcE017cE017AcE018cE019cE020cE020AcE021cE022cE023cE024cE025cE026cE027cE028cE028A",
   "cE029cE030cE031cE032cE033cE034cE034AcE036cE037cE038cF001cF001AcF002cF003cF004cF005cF006cF007",
   "cF008cF009cF010cF011cF012cF013cF013AcF014cF015cF016cF017cF018cF019cF020cF021cF021AcF022cF023",
   "cF024cF025cF026cF027cF028cF029cF030cF031cF031AcF032cF033cF034cF035cF036cF037cF037AcF038cF038A",
   "cF039cF040cF041cF042cF043cF044cF045cF045AcF046cF046AcF047cF047AcF048cF049cF050cF051cF051A",
   "cF051BcF051CcF052cF053cG001cG002cG003cG004cG005cG006cG006AcG007cG007AcG007BcG008cG009cG010",
   "cG011cG011AcG012cG013cG014cG015cG016cG017cG018cG019cG020cG020AcG021cG022cG023cG024cG025cG026",
   "cG026AcG027cG028cG029cG030cG031cG032cG033cG034cG035cG036cG036AcG037cG037AcG038cG039cG040cG041",
   "cG042cG043cG043AcG044cG045cG045AcG046cG047cG048cG049cG050cG051cG052cG053cG054cH001cH002cH003",
   "cH004cH005cH006cH006AcH007cH008cI001cI002cI003cI004cI005cI005AcI006cI007cI008cI009cI009AcI010",
   "cI010AcI011cI011AcI012cI013cI014cI015cK001cK002cK003cK004cK005cK006cK007cK008cL001cL002cL002A",
   "cL003cL004cL005cL006cL006AcL007cL008cM001cM001AcM001BcM002cM003cM003AcM004cM005cM006cM007cM008",
   "cM009cM010cM010AcM011cM012cM012AcM012BcM012CcM012DcM012EcM012FcM012GcM012HcM013cM014cM015",
   "cM015AcM016cM016AcM017cM017AcM018cM019cM020cM021cM022cM022AcM023cM024cM024AcM025cM026cM027",
   "cM028cM028AcM029cM030cM031cM031AcM032cM033cM033AcM033BcM034cM035cM036cM037cM038cM039cM040",
   "cM040AcM041cM042cM043cM044cN001cN002cN003cN004cN005cN006cN007cN008cN009cN010cN011cN012cN013",
   "cN014cN015cN016cN017cN018cN018AcN018BcN019cN020cN021cN022cN023cN024cN025cN025AcN026cN027cN028",
   "cN029cN030cN031cN032cN033cN033AcN034cN034AcN035cN035AcN036cN037cN037AcN038cN039cN040cN041cN042",
   "cNL001cNL002cNL003cNL004cNL005cNL005AcNL006cNL007cNL008cNL009cNL010cNL011cNL012cNL013cNL014",
   "cNL015cNL016cNL017cNL017AcNL018cNL019cNL020cNU001cNU002cNU003cNU004cNU005cNU006cNU007cNU008",
   "cNU009cNU010cNU010AcNU011cNU011AcNU012cNU013cNU014cNU015cNU016cNU017cNU018cNU018AcNU019cNU020",
   "cNU021cNU022cNU022AcO001cO001AcO002cO003cO004cO005cO005AcO006cO006AcO006BcO006CcO006DcO006E",
   "cO006FcO007cO008cO009cO010cO010AcO010BcO010CcO011cO012cO013cO014cO015cO016cO017cO018cO019",
   "cO019AcO020cO020AcO021cO022cO023cO024cO024AcO025cO025AcO026cO027cO028cO029cO029AcO030cO030A",
   "cO031cO032cO033cO033AcO034cO035cO036cO036AcO036BcO036CcO036DcO037cO038cO039cO040cO041cO042",
   "cO043cO044cO045cO046cO047cO048cO049cO050cO050AcO050BcO051cP001cP001AcP002cP003cP003AcP004cP005",
   "cP006cP007cP008cP009cP010cP011cQ001cQ002cQ003cQ004cQ005cQ006cQ007cR001cR002cR002AcR003cR003A",
   "cR003BcR004cR005cR006cR007cR008cR009cR010cR010AcR011cR012cR013cR014cR015cR016cR016AcR017cR018",
   "cR019cR020cR021cR022cR023cR024cR025cR026cR027cR028cR029cS001cS002cS002AcS003cS004cS005cS006",
   "cS006AcS007cS008cS009cS010cS011cS012cS013cS014cS014AcS014BcS015cS016cS017cS017AcS018cS019cS020",
   "cS021cS022cS023cS024cS025cS026cS026AcS026BcS027cS028cS029cS030cS031cS032cS033cS034cS035cS035A",
   "cS036cS037cS038cS039cS040cS041cS042cS043cS044cS045cS046cT001cT002cT003cT003AcT004cT005cT006",
   "cT007cT007AcT008cT008AcT009cT009AcT010cT011cT011AcT012cT013cT014cT015cT016cT016AcT017cT018",
   "cT019cT020cT021cT022cT023cT024cT025cT026cT027cT028cT029cT030cT031cT032cT032AcT033cT033AcT034",
   "cT035cT036cU001cU002cU003cU004cU005cU006cU006AcU006BcU007cU008cU009cU010cU011cU012cU013cU014",
   "cU015cU016cU017cU018cU019cU020cU021cU022cU023cU023AcU024cU025cU026cU027cU028cU029cU029AcU030",
   "cU031cU032cU032AcU033cU034cU035cU036cU037cU038cU039cU040cU041cU042cV001cV001AcV001BcV001C",
   "cV001DcV001EcV001FcV001GcV001HcV001IcV002cV002AcV003cV004cV005cV006cV007cV007AcV007BcV008cV009",
   "cV010cV011cV011AcV011BcV011CcV012cV012AcV012BcV013cV014cV015cV016cV017cV018cV019cV020cV020A",
   "cV020BcV020CcV020DcV020EcV020FcV020GcV020HcV020IcV020JcV020KcV020LcV021cV022cV023cV023AcV024",
   "cV025cV026cV027cV028cV028AcV029cV029AcV030cV030AcV031cV031AcV032cV033cV033AcV034cV035cV036",
   "cV037cV037AcV038cV039cV040cV040AcW001cW002cW003cW003AcW004cW005cW006cW007cW008cW009cW009AcW010",
   "cW010AcW011cW012cW013cW014cW014AcW015cW016cW017cW017AcW018cW018AcW019cW020cW021cW022cW023cW024",
   "cW024AcW025cX001cX002cX003cX004cX004AcX004BcX005cX006cX006AcX007cX008cX008AcY001cY001AcY002",
   "cY003cY004cY005cY006cY007cY008cZ001cZ002cZ002AcZ002BcZ002CcZ002DcZ003cZ003AcZ003BcZ004cZ004A",
   "cZ005cZ005AcZ006cZ007cZ008cZ009cZ010cZ011cZ012cZ013cZ014cZ015cZ015AcZ015BcZ015CcZ015DcZ015E",
   "cZ015FcZ015GcZ015HcZ015IcZ016cZ016AcZ016BcZ016CcZ016DcZ016EcZ016FcZ016GcZ016HcAA001cAA002",
   "cAA003cAA004cAA005cAA006cAA007cAA007AcAA007BcAA008cAA009cAA010cAA011cAA012cAA013cAA014cAA015",
   "cAA016cAA017cAA018cAA019cAA020cAA021cAA022cAA023cAA024cAA025cAA026cAA027cAA028cAA029cAA030",
   "cAA031cAA032",
   "13430c@JOINERcnJOINERcINSERT AT TOP STARTeBOTTOM STARTeTOP ENDeBOTTOM ENDcOVERLAY o",
   "cBEGIN SEGMENTcEND SEGMENT",
   "14400aANATOLIAN HIEROGLYPH A001cA002cA003cA004cA005cA006cA007cA008cA009cA010cA010AcA011cA012",
   "cA013cA014cA015cA016cA017cA018cA019cA020cA021cA022cA023cA024cA025cA026cA026AcA027cA028cA029",
   "cA030cA031cA032cA033cA034cA035cA036cA037cA038cA039cA039AcA040cA041cA041AcA042cA043cA044cA045",
   "cA045AcA046cA046AcA046BcA047cA048cA049cA050cA051cA052cA053cA054cA055cA056cA057cA058cA059cA060",
   "cA061cA062cA063cA064cA065cA066cA066AcA066BcA066CcA067cA068cA069cA070cA071cA072cA073cA074cA075",
   "cA076cA077cA078cA079cA080cA081cA082cA083cA084cA085cA086cA087cA088cA089cA090cA091cA092cA093",
   "cA094cA095cA096cA097cA097AcA098cA098AcA099cA100cA100AcA101cA101AcA102cA102AcA103cA104cA104A",
   "cA104BcA104CcA105cA105AcA105BcA106cA107cA107AcA107BcA107CcA108cA109cA110cA110AcA110BcA111cA112",
   "cA113cA114cA115cA115AcA116cA117cA118cA119cA120cA121cA122cA123cA124cA125cA125AcA126cA127cA128",
   "cA129cA130cA131cA132cA133cA134cA135cA135AcA136cA137cA138cA139cA140cA141cA142cA143cA144cA145",
   "cA146cA147cA148cA149cA150cA151cA152cA153cA154cA155cA156cA157cA158cA159cA160cA161cA162cA163",
   "cA164cA165cA166cA167cA168cA169cA170cA171cA172cA173cA174cA175cA176cA177cA178cA179cA180cA181",
   "cA182cA183cA184cA185cA186cA187cA188cA189cA190cA191cA192cA193cA194cA195cA196cA197cA198cA199",
   "cA200cA201cA202cA202AcA202BcA203cA204cA205cA206cA207cA207AcA208cA209cA209AcA210cA211cA212cA213",
   "cA214cA215cA215AcA216cA216AcA217cA218cA219cA220cA221cA222cA223cA224cA225cA226cA227cA227AcA228",
   "cA229cA230cA231cA232cA233cA234cA235cA236cA237cA238cA239cA240cA241cA242cA243cA244cA245cA246",
   "cA247cA248cA249cA250cA251cA252cA253cA254cA255cA256cA257cA258cA259cA260cA261cA262cA263cA264",
   "cA265cA266cA267cA267AcA268cA269cA270cA271cA272cA273cA274cA275cA276cA277cA278cA279cA280cA281",
   "cA282cA283cA284cA285cA286cA287cA288cA289cA289AcA290cA291cA292cA293cA294cA294AcA295cA296cA297",
   "cA298cA299cA299AcA300cA301cA302cA303cA304cA305cA306cA307cA308cA309cA309AcA310cA311cA312cA313",
   "cA314cA315cA316cA317cA318cA319cA320cA321cA322cA323cA324cA325cA326cA327cA328cA329cA329AcA330",
   "cA331cA332AcA332BcA332CcA333cA334cA335cA336cA336AcA336BcA336CcA337cA338cA339cA340cA341cA342",
   "cA343cA344cA345cA346cA347cA348cA349cA350cA351cA352cA353cA354cA355cA356cA357cA358cA359cA359A",
   "cA360cA361cA362cA363cA364cA364AcA365cA366cA367cA368cA368AcA369cA370cA371cA371AcA372cA373cA374",
   "cA375cA376cA377cA378cA379cA380cA381cA381AcA382cA383 RA OR RIcA383AcA384cA385cA386cA386AcA387",
   "cA388cA389cA390cA391cA392cA393 EIGHTcA394cA395cA396cA397cA398cA399cA400cA401cA402cA403cA404",
   "cA405cA406cA407cA408cA409cA410 BEGIN LOGOGRAM pcA410A END LOGOGRAM pcA411cA412cA413cA414cA415",
   "cA416cA417cA418cA419cA420cA421cA422cA423cA424cA425cA426cA427cA428cA429cA430cA431cA432cA433",
   "cA434cA435cA436cA437cA438cA439cA440cA441cA442cA443cA444cA445cA446cA447cA448cA449cA450cA450A",
   "cA451cA452cA453cA454cA455cA456cA457cA457AcA458cA459cA460cA461cA462cA463cA464cA465cA466cA467",
   "cA468cA469cA470cA471cA472cA473cA474cA475cA476cA477cA478cA479cA480cA481cA482cA483cA484cA485",
   "cA486cA487cA488cA489cA490cA491cA492cA493cA494cA495cA496cA497cA501cA502cA503cA504cA505cA506",
   "cA507cA508cA509cA510cA511cA512cA513cA514cA515cA516cA517cA518cA519cA520cA521cA522cA523cA524",
   "cA525cA526cA527cA528cA529cA530",
   "16800aBAMUM !PHASE-A NGKUE MFONdGBIEE FONdPON MFON PIPAEMGBIEEfPIPAEMBAdNAA MFONdSHUENSHUET",
   "dTITA MFONdNZA MFONdSHINDA PA NJIdPON PA NJI PIPAEMGBIEEgPIPAEMBAdMAEMBGBIEEdTU MAEMBAdNGANGU",
   "dMAEMVEUXdMANSUAEdMVEUAENGAMdSEUNYAMdNTOQPENdKEUKEUTNDAdNKINDIdSUUdNGKUENZEUMdLAPAQdLET KUT",
   "dNTAP MFAAdMAEKEUPdPASHAEdGHEUAERAEdPAMSHAEdMON NGGEUAETdNZUN MEUTdU YUQ NAEdGHEUAEGHEUAE",
   "dNTAP NTAAdSISAdMGBASAdMEUNJOMNDEUQdMOOMPUQdKAFAdPA LEERAEWAdNDA LEERAEWAdPETdMAEMKPENdNIKA",
   "dPUPdTUAEPdLUAEPdSONJAMdTEUTEUWENdMAENYIdKETdNDAANGGEUAETdKUOQdMOOMEUTdSHUMdLOMMAEdFIRIdROM",
   "dKPOQdSOQdMAP PIEETdSHIRAEdNTAPdSHOQ NSHUT YUMdNYIT MONGKEUAEQdPAARAEdNKAARAEdUNKNOWNdNGGEN",
   "dMAESIdNJAMdMBANYIdNYETdTEUAENdSOTdPAAMdNSHIEEdMAEMdNYIdKAQdNSHAdVEEdLUdNENdNAQdMBAQ",
   "cPHASE-B NSHUETdTU MAEMGBIEEdSIEEdSET TUdLOM NTEUMdMBA MAELEEdKIEEMdYEURAEdMBAARAEdKAMdPEESHI",
   "dYAFU LEERAEWAdLAM NSHUT NYAMdNTIEE SHEUOQdNDU NJAAdGHEUGHEUAEMdPITdTU NSIEEdSHET NJAQ",
   "dSHEUAEQTUdMFON TEUAEQdMBIT MBAAKETdNYI NTEUMdKEUPUQdGHEUGHENdKEUYEUXdLAANAEdPARUMdVEUM",
   "dNGKINDI MVOPdNGGEU MBUdWUAETdSAKEUAEdTAAMdMEUQdNGGUOQeLARGEdMFIYAQdSUEdMBEURIdMONTIEEN",
   "dNYAEMAEdPUNGAAMdMEUT NGGEETdFEUXdMBUOQdFEEdKEUAEMdMA NJEUAENAeNJUQAdLETdNGGAAMdNSENdMAdKIQ",
   "dNGOMcPHASE-C NGKUE MAEMBAdNZAdYUMdWANGKUOQdNGGENdNDEUAEREEdNGKAQdGHARAEdMBEEKEETdGBAYI",
   "dNYIR MKPARAQ MEUNdNTU MBITdMBEUMdPIRIEENdNDOMBUdMBAA CABBAGE-TREEdKEUSHEUAEPdGHAPdKEUKAQ",
   "dYU MUOMAEdNZEUMdMBUEdNSEUAENdMBITdYEUQdKPARAQdKAAdSEUXdNDIDAdTAASHAEdNJUEQdTITA YUEdSUAET",
   "dNGGUAEN NYAMdVEUXdNANSANAQdMA KEUAERIdNTAAdNGGUONdLAPdMBIRIEENdMGBASAQdNTEUNGBAdTEUTEUXdNGGUM",
   "dFUEdNDEUTdNSAdNSHAQdBUNGdVEUAEPENdMBERAEdRUdNJAEMdLAMdTITUAEPdNSUOT NGOMdNJEEEEdKETdNGGU",
   "dMAESIdMBUAEMdLUdKUTdNJAMdNGOMdWUPdNGGUEETdNSOMdNTENdKUOP NKAARAEdNSUNdNDAMdMA NSIEEdYAAdNDAP",
   "dSHUEQdSETFONdMBIdMAEMBAdMBANYIdKEUSEUXdMBEUXdKEUMdMBAA PICKETdYUWOQdNJEUXdMIEEdMUAEdSHIQ",
   "dKEN LAWeFATIGUEdNGAQdNAQdLIQdPINdPENdTETcPHASE-D MBUOdWAPdNJIdMFONdNJIEEdLIEEdNJEUTdNSHEE",
   "dNGGAAMAEdNYAMdWUAENdNGKUNdSHEEdNGKAPdKEUAETMEUNdTEUTdSHEUAEdNJAPdSUEdKETdYAEMMAEdKUOMdSAP",
   "dMFEUTdNDEUXdMALEERIdMEUTdSEUAEQdYENdNJEUAEMdKEUOT MBUAEdNGKEURIdTUdGHAAdNGKYEEdFEUFEUAETdNDEE",
   "dMGBOFUMdLEUAEPdNDONdMONIdMGBEUNdPUUTdMGBIEEdMFOdLUMdNSIEEPdMBAAdKWAETdNYETdTEUAENdSOTdYUWOQ",
   "dKEUMdRAEMdTEEEEdNGKEUAEQdMFEUAEdNSIEETdKEUPdPIPdPEUTAEdNYUEdLETdNGGAAMdMFIEEdNGGWAENdYUOMdPAP",
   "dYUOPdNDAMdNTEUMdSUAEdKUNdNGGEUXdNGKIEEdTUOTdMEUNdKUQdNSUMdTEUNdMAENJETdNGGAPdLEUMdNGGUOM",
   "dNSHUTdNJUEQdGHEUAEdKUdREN OLDdTAEdTOQdNYIdRIIdLEEEEdMEEEEdMdSUUdMUdSHIIdSHEUXdKYEEdNUdSHU",
   "dNTEEdPEEdNIdSHOQdPUQdMVOPdLOQdREN MUCHdTIdNTUUdMBAA SEVENdSAQdFAAcPHASE-E NDAPdTOONdMBEUMdLAP",
   "dVOMdLOONdPAAdSOMdRAQdNSHUOPdNDUNdPUAEdTAMdNGKAdKPEUXdWUOdSEEdNGGEUAETdPAAMdTOOdKUOPdLOM",
   "dNSHIEEdNGOPdMAEMdNGKEUXdNGOQdNSHUEdRIMGBAdNJEUXdPEEMdSAAdNGGURAEdMGBAdGHEUXdNGKEUAEMdNJAEMLI",
   "dMAPdLOOTdNGGEEEEdNDIQdTAEN NTEUMdSETdPUMdNDAA SOFTNESSdNGGUAESHAE NYAMdYIEEdGHEUNdTUAEdYEUAE",
   "dPOdTUMAEdKEUAEdSUAENdTEUAEQdVEUAEdWEUXdLAAMdPUdTAAQdGHAAMAEdNGEUREUTdSHEUAEQdMGBENdMBEEdNZAQ",
   "dNKOMdGBETdTUMdKUETdYAPdNYI CLEAVERdYITdMFEUQdNDIAQdPIEEQdYUEQdLEUAEMdFUEdGBEUXdNGKUPdKETdMAE",
   "dNGKAAMIdGHETdFAdNTUMdPEUTdYEUMdNGGEUAEdNYI BETWEENdNZUQdPOONdMIEEdFUETdNAEdMUAEdGHEUAEdFU I",
   "dMVIdPUAQdNGKUMdKUTdPIETdNTAPdYEUAETdNGGUPdPA PEOPLEdFU CALLdFOMdNJEEdAdTOQdOdIdLAQdPA PLURAL",
   "dTAAdTAQdNDAA MY HOUSEdSHIQdYEUXdNGUAEdYUAENdYOQ SWIMMINGeCOVERdYUQdYUNdKEUXdPEUXdNJEE EPOCH",
   "dPUEdWUEdFEEdVEEdLUdMIdREUXdRAEdNGUAETdNGAdSHOdSHOQdFU REMEDYdNAdPIdLOQdKOdMENdMAdMAQdTEUdKI",
   "dMONdTENdFAQdGHOMcPHASE-F KAdUdKUdEEdREEdTAEdNYIdLAdRIIdRIEEdMEEEEdTAAdNDAAdNJAEMdMdSUUdSHII",
   "dSIdSEUXdKYEEdKETdNUAEdNUdNJUAEdYOQdSHUdYAdNSHAdPEUXdNTEEdWUEdPEEdRUdNIdREUXdKENdNGKWAENdNGGA",
   "dSHOdPUAEdFOMdWAdLIdLOQdKOdMBENdRENdMAdMOdMBAAdTETdKPAdSAMBAdVUEQ",
   "16A40aMRO !TAcNGIcYOcMIMcBAcDAcAcPHIcKHAIcHAOcDAIcCHUcKEAAEcOLcMAEMcNINcPAcOOcOcROcSHIcTHEAcEA",
   "cWAcEcKOcLANcLAcHAIcRIcTEK",
   "16A60bDIGIT ZEROcONEcwc]cFOURcFIVEcSIXcSEVENcEIGHTcNINE",
   "16A6EbDANDAb:DANDAaTANGSA !OZcOCcOQcOXcAZcACcAQcAXcVZcVCcVQcVXcEZcECcEQcEXcIZcICcIQcIXcUZcUC",
   "cUQcUXcAWZcAWCcAWQcAWXcUIZcUICcUIQcUIXc=NGcLONG UEXcSHORT UEZdAWXcUECcUEZcUEQcUEXcUIUZcUIUC",
   "cUIUQcUIUXcMZcMCcMQcMXcKAcKHAcGAcNGAcSAcYAcWAcPAcNYAcPHAcBAcMAcNAcHAcLAcHTAcTAcDAcRAcNHAcSHA",
   "cCAcTSAcGHAcHTTAcTHAcXAcFAcDHAcCHAcZA",
   "16AC0bDIGIT ZEROcONEcwc]cFOURcFIVEcSIXcSEVENcEIGHTcNINE",
   "16AD0aBASSA VAH !ENNIdKAdSEdFAdMBEdYIEdGAHdDHIIdKPAHdJOdHWAHdWAdZOdGBUdDOdCEdUWUdTOdBAdVUdYEIN",
   "dPAdWADDAdAdOdOOdUdEEdEdI",
   "16AF0cCOMBINING HIGH TONEdLOW TONEdMID TONEdLOW-MID TONEdHIGH-LOW TONEcFULL STOP",
   "16B00aPAHAWH HMONG VOWEL KEEBdKEEVdKIBdKIVdKAUBdKAUVdKUBdKUVdKEBdKEVdKAIBdKAIVdKOOBdKOOVdKAWB",
   "dKAWVdKUABdKUAVdKOBdKOVdKIABdKIAVdKABdKAVdKWBdKWVdKAABdKAAVcCONSONANT VAUdNTSAUdLAUdHAUdNLAU",
   "dRAUdNKAUdQHAUdYAUdHLAUdMAUdCHAUdNCHAUdHNAUdPLHAUdNTHAUdNAUdAUdXAUdCAUcpCIM TUBeSOeKESeKHAV",
   "eSUAMeHOMeTAUMc)VOS THOMeTSHAB CEEBdCIM CHEEMdVOS THIABeFEEMdXYEEM NTXIVeRHOeTOVeFAIBdVOS SEEV",
   "dMEEJ SUABdVOS NRUAdIB YAMdXAUSdCIM TSOV ROG",
   "16B50cDIGIT ZEROdONEdwd]dFOURdFIVEdSIXdSEVENdEIGHTdNINE",
   "16B5BcNUMBER TENSdHUNDREDSdTEN THOUSANDSdMILLIONSdrMILLIONSdTEN BILLIONSdTRILLIONS",
   "16B63c)VOS LUBdXYOOdHLIdTHIRD-STAGE HLIdZWJ THAJdHNUBdNQIGdXIABdNTUJdAVdTXHEEJ CEEVdMEEJ TSEEB",
   "dTAUdLOSdMUSdCIM HAIS LUS NTOG NTOGeCUAM TSHOOJeTXWVfCHWVePUB DAWBeNRES TOS",
   "16B7DcCLAN )TSHEEJeYEEGeLISeLAUJeXYOOJeKOOeHAWJeMUASeTHOJeTSABePHABeKHABeHAMeVAJeFAJeYAJeTSWB",
   "eKWMeVWJ",
   "16E40aMEDEFAIDRIN $!MdSdVdWdATIUdZdKPdPdTdGdFdIdKdAdJdEdBdCdUdYUdLdQdHPdNYdXdDdOEdNdRdOdAIdY",
   "b%!MdSdVdWdATIUdZdKPdPdTdGdFdIdKdAdJdEdBdCdUdYUdLdQdHPdNYdXdDdOEdNdRdOdAIdYbDIGIT ZEROcONEcwc]",
   "cFOURcFIVEcSIXcSEVENcEIGHTcNINEbNUMBER TENcELEVENcTWELVEcTHIRTEENcFOURTEENcFIFTEENcSIXTEEN",
   "cSEVENTEENcEIGHTEENcNINETEENbDIGIT ONE ALTERNATE (cwALTERNATE (c]ALTERNATE (bCOMMAbFULL STOP",
   "bmAIVAbEXCLAMATION OH",
   "16F00aMIAO !PAcBAcYI PAcPLAcMAcMHAcARCHAIC MAcFAcVAcVFAcTAcDAcYI TTAdTAcTTAcDDAcNAcNHAcYI NNA",
   "cARCHAIC NAcNNAcNNHAcLAcLYAcLHAcLHYAcTLHAcDLHAcTLHYAcDLHYAcKAcGAcYI KAcQAcQGAcNGAcNGHA",
   "cARCHAIC NGAcHAcXAcGHAcGHHAcTSSAcDZZAcNYAcNYHAcTSHAcDZHAcYI TSHAdDZHAcREFORMED TSHAcSHAcSSA",
   "cZHAcZSHAcTSAcDZAcYI TSAcSAcZAcZSAcZZAcZZSAcARCHAIC ZZAcZZYAcZZSYAcWAcAHcHHAcBRIcSYIcDZYIcTE",
   "cTSEcRTE",
   "16F4Fb)CONSONANT MODIFIER BARb!NASALIZATIONb)ASPIRATIONcREFORMED VOICINGdASPIRATIONbVOWEL )A",
   "dAAdAHHdANdANGdOdOOdWOdWdEdENdENGdOEYdIdIAdIANdIANGdIOdIEdIIdIUdINGdUdUAdUANdUANGdUUdUEIdUNGdY",
   "dYIdAEdAEEdERRdROUNDED ERRdERdROUNDED ERdAIdEIdAUdOUdNdNGdUOGdYUIdOGdOERdVWdIGdEAdIONGdUI",
   "16F8FbTONE *cTOP *c,c[b!TONE-2cTONE-3cTONE-4cTONE-5cTONE-6cTONE-7cTONE-8cREFORMED TONE-1",
   "dTONE-2dTONE-4dTONE-5dTONE-6dTONE-8",
   "16FE0aTANGUT ITERATION paNUSHU ITERATION paOLD CHINESE HOOK pcITERATION p",
   "aKHITAN %SCRIPT FILLER",
   "16FF0aVIETNAMESE ALTERNATE READING pCAeNHAY",
   "18800aTANGUT COMPONENT-001bCOMPONENT-002bCOMPONENT-003bCOMPONENT-004bCOMPONENT-005",
   "bCOMPONENT-006bCOMPONENT-007bCOMPONENT-008bCOMPONENT-009bCOMPONENT-010bCOMPONENT-011",
   "bCOMPONENT-012bCOMPONENT-013bCOMPONENT-014bCOMPONENT-015bCOMPONENT-016bCOMPONENT-017",
   "bCOMPONENT-018bCOMPONENT-019bCOMPONENT-020bCOMPONENT-021bCOMPONENT-022bCOMPONENT-023",
   "bCOMPONENT-024bCOMPONENT-025bCOMPONENT-026bCOMPONENT-027bCOMPONENT-028bCOMPONENT-029",
   "bCOMPONENT-030bCOMPONENT-031bCOMPONENT-032bCOMPONENT-033bCOMPONENT-034bCOMPONENT-035",
   "bCOMPONENT-036bCOMPONENT-037bCOMPONENT-038bCOMPONENT-039bCOMPONENT-040bCOMPONENT-041",
   "bCOMPONENT-042bCOMPONENT-043bCOMPONENT-044bCOMPONENT-045bCOMPONENT-046bCOMPONENT-047",
   "bCOMPONENT-048bCOMPONENT-049bCOMPONENT-050bCOMPONENT-051bCOMPONENT-052bCOMPONENT-053",
   "bCOMPONENT-054bCOMPONENT-055bCOMPONENT-056bCOMPONENT-057bCOMPONENT-058bCOMPONENT-059",
   "bCOMPONENT-060bCOMPONENT-061bCOMPONENT-062bCOMPONENT-063bCOMPONENT-064bCOMPONENT-065",
   "bCOMPONENT-066bCOMPONENT-067bCOMPONENT-068bCOMPONENT-069bCOMPONENT-070bCOMPONENT-071",
   "bCOMPONENT-072bCOMPONENT-073bCOMPONENT-074bCOMPONENT-075bCOMPONENT-076bCOMPONENT-077",
   "bCOMPONENT-078bCOMPONENT-079bCOMPONENT-080bCOMPONENT-081bCOMPONENT-082bCOMPONENT-083",
   "bCOMPONENT-084bCOMPONENT-085bCOMPONENT-086bCOMPONENT-087bCOMPONENT-088bCOMPONENT-089",
   "bCOMPONENT-090bCOMPONENT-091bCOMPONENT-092bCOMPONENT-093bCOMPONENT-094bCOMPONENT-095",
   "bCOMPONENT-096bCOMPONENT-097bCOMPONENT-098bCOMPONENT-099bCOMPONENT-100bCOMPONENT-101",
   "bCOMPONENT-102bCOMPONENT-103bCOMPONENT-104bCOMPONENT-105bCOMPONENT-106bCOMPONENT-107",
   "bCOMPONENT-108bCOMPONENT-109bCOMPONENT-110bCOMPONENT-111bCOMPONENT-112bCOMPONENT-113",
   "bCOMPONENT-114bCOMPONENT-115bCOMPONENT-116bCOMPONENT-117bCOMPONENT-118bCOMPONENT-119",
   "bCOMPONENT-120bCOMPONENT-121bCOMPONENT-122bCOMPONENT-123bCOMPONENT-124bCOMPONENT-125",
   "bCOMPONENT-126bCOMPONENT-127bCOMPONENT-128bCOMPONENT-129bCOMPONENT-130bCOMPONENT-131",
   "bCOMPONENT-132bCOMPONENT-133bCOMPONENT-134bCOMPONENT-135bCOMPONENT-136bCOMPONENT-137",
   "bCOMPONENT-138bCOMPONENT-139bCOMPONENT-140bCOMPONENT-141bCOMPONENT-142bCOMPONENT-143",
   "bCOMPONENT-144bCOMPONENT-145bCOMPONENT-146bCOMPONENT-147bCOMPONENT-148bCOMPONENT-149",
   "bCOMPONENT-150bCOMPONENT-151bCOMPONENT-152bCOMPONENT-153bCOMPONENT-154bCOMPONENT-155",
   "bCOMPONENT-156bCOMPONENT-157bCOMPONENT-158bCOMPONENT-159bCOMPONENT-160bCOMPONENT-161",
   "bCOMPONENT-162bCOMPONENT-163bCOMPONENT-164bCOMPONENT-165bCOMPONENT-166bCOMPONENT-167",
   "bCOMPONENT-168bCOMPONENT-169bCOMPONENT-170bCOMPONENT-171bCOMPONENT-172bCOMPONENT-173",
   "bCOMPONENT-174bCOMPONENT-175bCOMPONENT-176bCOMPONENT-177bCOMPONENT-178bCOMPONENT-179",
   "bCOMPONENT-180bCOMPONENT-181bCOMPONENT-182bCOMPONENT-183bCOMPONENT-184bCOMPONENT-185",
   "bCOMPONENT-186bCOMPONENT-187bCOMPONENT-188bCOMPONENT-189bCOMPONENT-190bCOMPONENT-191",
   "bCOMPONENT-192bCOMPONENT-193bCOMPONENT-194bCOMPONENT-195bCOMPONENT-196bCOMPONENT-197",
   "bCOMPONENT-198bCOMPONENT-199bCOMPONENT-200bCOMPONENT-201bCOMPONENT-202bCOMPONENT-203",
   "bCOMPONENT-204bCOMPONENT-205bCOMPONENT-206bCOMPONENT-207bCOMPONENT-208bCOMPONENT-209",
   "bCOMPONENT-210bCOMPONENT-211bCOMPONENT-212bCOMPONENT-213bCOMPONENT-214bCOMPONENT-215",
   "bCOMPONENT-216bCOMPONENT-217bCOMPONENT-218bCOMPONENT-219bCOMPONENT-220bCOMPONENT-221",
   "bCOMPONENT-222bCOMPONENT-223bCOMPONENT-224bCOMPONENT-225bCOMPONENT-226bCOMPONENT-227",
   "bCOMPONENT-228bCOMPONENT-229bCOMPONENT-230bCOMPONENT-231bCOMPONENT-232bCOMPONENT-233",
   "bCOMPONENT-234bCOMPONENT-235bCOMPONENT-236bCOMPONENT-237bCOMPONENT-238bCOMPONENT-239",
   "bCOMPONENT-240bCOMPONENT-241bCOMPONENT-242bCOMPONENT-243bCOMPONENT-244bCOMPONENT-245",
   "bCOMPONENT-246bCOMPONENT-247bCOMPONENT-248bCOMPONENT-249bCOMPONENT-250bCOMPONENT-251",
   "bCOMPONENT-252bCOMPONENT-253bCOMPONENT-254bCOMPONENT-255bCOMPONENT-256bCOMPONENT-257",
   "bCOMPONENT-258bCOMPONENT-259bCOMPONENT-260bCOMPONENT-261bCOMPONENT-262bCOMPONENT-263",
   "bCOMPONENT-264bCOMPONENT-265bCOMPONENT-266bCOMPONENT-267bCOMPONENT-268bCOMPONENT-269",
   "bCOMPONENT-270bCOMPONENT-271bCOMPONENT-272bCOMPONENT-273bCOMPONENT-274bCOMPONENT-275",
   "bCOMPONENT-276bCOMPONENT-277bCOMPONENT-278bCOMPONENT-279bCOMPONENT-280bCOMPONENT-281",
   "bCOMPONENT-282bCOMPONENT-283bCOMPONENT-284bCOMPONENT-285bCOMPONENT-286bCOMPONENT-287",
   "bCOMPONENT-288bCOMPONENT-289bCOMPONENT-290bCOMPONENT-291bCOMPONENT-292bCOMPONENT-293",
   "bCOMPONENT-294bCOMPONENT-295bCOMPONENT-296bCOMPONENT-297bCOMPONENT-298bCOMPONENT-299",
   "bCOMPONENT-300bCOMPONENT-301bCOMPONENT-302bCOMPONENT-303bCOMPONENT-304bCOMPONENT-305",
   "bCOMPONENT-306bCOMPONENT-307bCOMPONENT-308bCOMPONENT-309bCOMPONENT-310bCOMPONENT-311",
   "bCOMPONENT-312bCOMPONENT-313bCOMPONENT-314bCOMPONENT-315bCOMPONENT-316bCOMPONENT-317",
   "bCOMPONENT-318bCOMPONENT-319bCOMPONENT-320bCOMPONENT-321bCOMPONENT-322bCOMPONENT-323",
   "bCOMPONENT-324bCOMPONENT-325bCOMPONENT-326bCOMPONENT-327bCOMPONENT-328bCOMPONENT-329",
   "bCOMPONENT-330bCOMPONENT-331bCOMPONENT-332bCOMPONENT-333bCOMPONENT-334bCOMPONENT-335",
   "bCOMPONENT-336bCOMPONENT-337bCOMPONENT-338bCOMPONENT-339bCOMPONENT-340bCOMPONENT-341",
   "bCOMPONENT-342bCOMPONENT-343bCOMPONENT-344bCOMPONENT-345bCOMPONENT-346bCOMPONENT-347",
   "bCOMPONENT-348bCOMPONENT-349bCOMPONENT-350bCOMPONENT-351bCOMPONENT-352bCOMPONENT-353",
   "bCOMPONENT-354bCOMPONENT-355bCOMPONENT-356bCOMPONENT-357bCOMPONENT-358bCOMPONENT-359",
   "bCOMPONENT-360bCOMPONENT-361bCOMPONENT-362bCOMPONENT-363bCOMPONENT-364bCOMPONENT-365",
   "bCOMPONENT-366bCOMPONENT-367bCOMPONENT-368bCOMPONENT-369bCOMPONENT-370bCOMPONENT-371",
   "bCOMPONENT-372bCOMPONENT-373bCOMPONENT-374bCOMPONENT-375bCOMPONENT-376bCOMPONENT-377",
   "bCOMPONENT-378bCOMPONENT-379bCOMPONENT-380bCOMPONENT-381bCOMPONENT-382bCOMPONENT-383",
   "bCOMPONENT-384bCOMPONENT-385bCOMPONENT-386bCOMPONENT-387bCOMPONENT-388bCOMPONENT-389",
   "bCOMPONENT-390bCOMPONENT-391bCOMPONENT-392bCOMPONENT-393bCOMPONENT-394bCOMPONENT-395",
   "bCOMPONENT-396bCOMPONENT-397bCOMPONENT-398bCOMPONENT-399bCOMPONENT-400bCOMPONENT-401",
   "bCOMPONENT-402bCOMPONENT-403bCOMPONENT-404bCOMPONENT-405bCOMPONENT-406bCOMPONENT-407",
   "bCOMPONENT-408bCOMPONENT-409bCOMPONENT-410bCOMPONENT-411bCOMPONENT-412bCOMPONENT-413",
   "bCOMPONENT-414bCOMPONENT-415bCOMPONENT-416bCOMPONENT-417bCOMPONENT-418bCOMPONENT-419",
   "bCOMPONENT-420bCOMPONENT-421bCOMPONENT-422bCOMPONENT-423bCOMPONENT-424bCOMPONENT-425",
   "bCOMPONENT-426bCOMPONENT-427bCOMPONENT-428bCOMPONENT-429bCOMPONENT-430bCOMPONENT-431",
   "bCOMPONENT-432bCOMPONENT-433bCOMPONENT-434bCOMPONENT-435bCOMPONENT-436bCOMPONENT-437",
   "bCOMPONENT-438bCOMPONENT-439bCOMPONENT-440bCOMPONENT-441bCOMPONENT-442bCOMPONENT-443",
   "bCOMPONENT-444bCOMPONENT-445bCOMPONENT-446bCOMPONENT-447bCOMPONENT-448bCOMPONENT-449",
   "bCOMPONENT-450bCOMPONENT-451bCOMPONENT-452bCOMPONENT-453bCOMPONENT-454bCOMPONENT-455",
   "bCOMPONENT-456bCOMPONENT-457bCOMPONENT-458bCOMPONENT-459bCOMPONENT-460bCOMPONENT-461",
   "bCOMPONENT-462bCOMPONENT-463bCOMPONENT-464bCOMPONENT-465bCOMPONENT-466bCOMPONENT-467",
   "bCOMPONENT-468bCOMPONENT-469bCOMPONENT-470bCOMPONENT-471bCOMPONENT-472bCOMPONENT-473",
   "bCOMPONENT-474bCOMPONENT-475bCOMPONENT-476bCOMPONENT-477bCOMPONENT-478bCOMPONENT-479",
   "bCOMPONENT-480bCOMPONENT-481bCOMPONENT-482bCOMPONENT-483bCOMPONENT-484bCOMPONENT-485",
   "bCOMPONENT-486bCOMPONENT-487bCOMPONENT-488bCOMPONENT-489bCOMPONENT-490bCOMPONENT-491",
   "bCOMPONENT-492bCOMPONENT-493bCOMPONENT-494bCOMPONENT-495bCOMPONENT-496bCOMPONENT-497",
   "bCOMPONENT-498bCOMPONENT-499bCOMPONENT-500bCOMPONENT-501bCOMPONENT-502bCOMPONENT-503",
   "bCOMPONENT-504bCOMPONENT-505bCOMPONENT-506bCOMPONENT-507bCOMPONENT-508bCOMPONENT-509",
   "bCOMPONENT-510bCOMPONENT-511bCOMPONENT-512bCOMPONENT-513bCOMPONENT-514bCOMPONENT-515",
   "bCOMPONENT-516bCOMPONENT-517bCOMPONENT-518bCOMPONENT-519bCOMPONENT-520bCOMPONENT-521",
   "bCOMPONENT-522bCOMPONENT-523bCOMPONENT-524bCOMPONENT-525bCOMPONENT-526bCOMPONENT-527",
   "bCOMPONENT-528bCOMPONENT-529bCOMPONENT-530bCOMPONENT-531bCOMPONENT-532bCOMPONENT-533",
   "bCOMPONENT-534bCOMPONENT-535bCOMPONENT-536bCOMPONENT-537bCOMPONENT-538bCOMPONENT-539",
   "bCOMPONENT-540bCOMPONENT-541bCOMPONENT-542bCOMPONENT-543bCOMPONENT-544bCOMPONENT-545",
   "bCOMPONENT-546bCOMPONENT-547bCOMPONENT-548bCOMPONENT-549bCOMPONENT-550bCOMPONENT-551",
   "bCOMPONENT-552bCOMPONENT-553bCOMPONENT-554bCOMPONENT-555bCOMPONENT-556bCOMPONENT-557",
   "bCOMPONENT-558bCOMPONENT-559bCOMPONENT-560bCOMPONENT-561bCOMPONENT-562bCOMPONENT-563",
   "bCOMPONENT-564bCOMPONENT-565bCOMPONENT-566bCOMPONENT-567bCOMPONENT-568bCOMPONENT-569",
   "bCOMPONENT-570bCOMPONENT-571bCOMPONENT-572bCOMPONENT-573bCOMPONENT-574bCOMPONENT-575",
   "bCOMPONENT-576bCOMPONENT-577bCOMPONENT-578bCOMPONENT-579bCOMPONENT-580bCOMPONENT-581",
   "bCOMPONENT-582bCOMPONENT-583bCOMPONENT-584bCOMPONENT-585bCOMPONENT-586bCOMPONENT-587",
   "bCOMPONENT-588bCOMPONENT-589bCOMPONENT-590bCOMPONENT-591bCOMPONENT-592bCOMPONENT-593",
   "bCOMPONENT-594bCOMPONENT-595bCOMPONENT-596bCOMPONENT-597bCOMPONENT-598bCOMPONENT-599",
   "bCOMPONENT-600bCOMPONENT-601bCOMPONENT-602bCOMPONENT-603bCOMPONENT-604bCOMPONENT-605",
   "bCOMPONENT-606bCOMPONENT-607bCOMPONENT-608bCOMPONENT-609bCOMPONENT-610bCOMPONENT-611",
   "bCOMPONENT-612bCOMPONENT-613bCOMPONENT-614bCOMPONENT-615bCOMPONENT-616bCOMPONENT-617",
   "bCOMPONENT-618bCOMPONENT-619bCOMPONENT-620bCOMPONENT-621bCOMPONENT-622bCOMPONENT-623",
   "bCOMPONENT-624bCOMPONENT-625bCOMPONENT-626bCOMPONENT-627bCOMPONENT-628bCOMPONENT-629",
   "bCOMPONENT-630bCOMPONENT-631bCOMPONENT-632bCOMPONENT-633bCOMPONENT-634bCOMPONENT-635",
   "bCOMPONENT-636bCOMPONENT-637bCOMPONENT-638bCOMPONENT-639bCOMPONENT-640bCOMPONENT-641",
   "bCOMPONENT-642bCOMPONENT-643bCOMPONENT-644bCOMPONENT-645bCOMPONENT-646bCOMPONENT-647",
   "bCOMPONENT-648bCOMPONENT-649bCOMPONENT-650bCOMPONENT-651bCOMPONENT-652bCOMPONENT-653",
   "bCOMPONENT-654bCOMPONENT-655bCOMPONENT-656bCOMPONENT-657bCOMPONENT-658bCOMPONENT-659",
   "bCOMPONENT-660bCOMPONENT-661bCOMPONENT-662bCOMPONENT-663bCOMPONENT-664bCOMPONENT-665",
   "bCOMPONENT-666bCOMPONENT-667bCOMPONENT-668bCOMPONENT-669bCOMPONENT-670bCOMPONENT-671",
   "bCOMPONENT-672bCOMPONENT-673bCOMPONENT-674bCOMPONENT-675bCOMPONENT-676bCOMPONENT-677",
   "bCOMPONENT-678bCOMPONENT-679bCOMPONENT-680bCOMPONENT-681bCOMPONENT-682bCOMPONENT-683",
   "bCOMPONENT-684bCOMPONENT-685bCOMPONENT-686bCOMPONENT-687bCOMPONENT-688bCOMPONENT-689",
   "bCOMPONENT-690bCOMPONENT-691bCOMPONENT-692bCOMPONENT-693bCOMPONENT-694bCOMPONENT-695",
   "bCOMPONENT-696bCOMPONENT-697bCOMPONENT-698bCOMPONENT-699bCOMPONENT-700bCOMPONENT-701",
   "bCOMPONENT-702bCOMPONENT-703bCOMPONENT-704bCOMPONENT-705bCOMPONENT-706bCOMPONENT-707",
   "bCOMPONENT-708bCOMPONENT-709bCOMPONENT-710bCOMPONENT-711bCOMPONENT-712bCOMPONENT-713",
   "bCOMPONENT-714bCOMPONENT-715bCOMPONENT-716bCOMPONENT-717bCOMPONENT-718bCOMPONENT-719",
   "bCOMPONENT-720bCOMPONENT-721bCOMPONENT-722bCOMPONENT-723bCOMPONENT-724bCOMPONENT-725",
   "bCOMPONENT-726bCOMPONENT-727bCOMPONENT-728bCOMPONENT-729bCOMPONENT-730bCOMPONENT-731",
   "bCOMPONENT-732bCOMPONENT-733bCOMPONENT-734bCOMPONENT-735bCOMPONENT-736bCOMPONENT-737",
   "bCOMPONENT-738bCOMPONENT-739bCOMPONENT-740bCOMPONENT-741bCOMPONENT-742bCOMPONENT-743",
   "bCOMPONENT-744bCOMPONENT-745bCOMPONENT-746bCOMPONENT-747bCOMPONENT-748bCOMPONENT-749",
   "bCOMPONENT-750bCOMPONENT-751bCOMPONENT-752bCOMPONENT-753bCOMPONENT-754bCOMPONENT-755",
   "bCOMPONENT-756bCOMPONENT-757bCOMPONENT-758bCOMPONENT-759bCOMPONENT-760bCOMPONENT-761",
   "bCOMPONENT-762bCOMPONENT-763bCOMPONENT-764bCOMPONENT-765bCOMPONENT-766bCOMPONENT-767",
   "bCOMPONENT-768",
   "1AFF0aKATAKANA !MINNAN TONE-2dTONE-3dTONE-4dTONE-5",
   "1AFF5dTONE-7dTONE-8dNASALIZED TONE-1eTONE-2eTONE-3eTONE-4eTONE-5",
   "1AFFDeTONE-7eTONE-8",
   "1B000cARCHAIC EaHIRAGANA !ARCHAIC YEaHENTAIGANA !A-1cA-2cA-3cA-WOcI-1cI-2cI-3cI-4cU-1cU-2cU-3",
   "cU-4cU-5cE-2cE-3cE-4cE-5cE-6cO-1cO-2cO-3cKA-1cKA-2cKA-3cKA-4cKA-5cKA-6cKA-7cKA-8cKA-9cKA-10",
   "cKA-11cKA-KEcKI-1cKI-2cKI-3cKI-4cKI-5cKI-6cKI-7cKI-8cKU-1cKU-2cKU-3cKU-4cKU-5cKU-6cKU-7cKE-1",
   "cKE-2cKE-3cKE-4cKE-5cKE-6cKO-1cKO-2cKO-3cKO-KIcSA-1cSA-2cSA-3cSA-4cSA-5cSA-6cSA-7cSA-8cSI-1",
   "cSI-2cSI-3cSI-4cSI-5cSI-6cSU-1cSU-2cSU-3cSU-4cSU-5cSU-6cSU-7cSU-8cSE-1cSE-2cSE-3cSE-4cSE-5",
   "cSO-1cSO-2cSO-3cSO-4cSO-5cSO-6cSO-7cTA-1cTA-2cTA-3cTA-4cTI-1cTI-2cTI-3cTI-4cTI-5cTI-6cTI-7",
   "cTU-1cTU-2cTU-3cTU-4cTU-TOcTE-1cTE-2cTE-3cTE-4cTE-5cTE-6cTE-7cTE-8cTE-9cTO-1cTO-2cTO-3cTO-4",
   "cTO-5cTO-6cTO-RAcNA-1cNA-2cNA-3cNA-4cNA-5cNA-6cNA-7cNA-8cNA-9cNI-1cNI-2cNI-3cNI-4cNI-5cNI-6",
   "cNI-7cNI-TEcNU-1cNU-2cNU-3cNE-1cNE-2cNE-3cNE-4cNE-5cNE-6cNE-KOcNO-1cNO-2cNO-3cNO-4cNO-5cHA-1",
   "cHA-2cHA-3cHA-4cHA-5cHA-6cHA-7cHA-8cHA-9cHA-10cHA-11cHI-1cHI-2cHI-3cHI-4cHI-5cHI-6cHI-7cHU-1",
   "cHU-2cHU-3cHE-1cHE-2cHE-3cHE-4cHE-5cHE-6cHE-7cHO-1cHO-2cHO-3cHO-4cHO-5cHO-6cHO-7cHO-8cMA-1",
   "cMA-2cMA-3cMA-4cMA-5cMA-6cMA-7cMI-1cMI-2cMI-3cMI-4cMI-5cMI-6cMI-7cMU-1cMU-2cMU-3cMU-4cME-1",
   "cME-2cME-MAcMO-1cMO-2cMO-3cMO-4cMO-5cMO-6cYA-1cYA-2cYA-3cYA-4cYA-5cYA-YOcYU-1cYU-2cYU-3cYU-4",
   "cYO-1cYO-2cYO-3cYO-4cYO-5cYO-6cRA-1cRA-2cRA-3cRA-4cRI-1cRI-2cRI-3cRI-4cRI-5cRI-6cRI-7cRU-1",
   "cRU-2cRU-3cRU-4cRU-5cRU-6cRE-1cRE-2cRE-3cRE-4cRO-1cRO-2cRO-3cRO-4cRO-5cRO-6cWA-1cWA-2cWA-3",
   "cWA-4cWA-5cWI-1cWI-2cWI-3cWI-4cWI-5cWE-1cWE-2cWE-3cWE-4cWO-1cWO-2cWO-3cWO-4cWO-5cWO-6cWO-7",
   "cN-MU-MO-1cN-MU-MO-2aHIRAGANA !ARCHAIC WUaKATAKANA !ARCHAIC YIdYEdWU",
   "1B150aHIRAGANA !%WIdWEdWO",
   "1B164aKATAKANA !%WIdWEdWOdN",
   "1BC00aDUPLOYAN !HcXcPcTcFcKcLcBcDcVcGcRcP NcD ScF NcK McR ScTHcSLOAN DHcDHcKKcSLOAN JcHLcLHcRH",
   "cMcNcJcScM NcN McJ McS JcM #vcN #vcJ #veDOTS INSIDE ;,cS #vf[cM ScN ScJ ScS ScM N ScN M S",
   "cJ M ScS J ScJ S #vdNeScS TeRdPeRcT SdR ScWcWHcW RcS NdMcK R ScG R ScS KeRcAcSLOAN OWcOAcOcAOU",
   "cIcEcIEcSHORT IcUIcEEcSLOAN EHcROMANIAN IcSLOAN EEcLONG IcYEcUcEUcXWcU NcLONG UcROMANIAN UcUH",
   "cSLOAN UcOOHcOWcOUcWAcWOcWIcWEIcWOWcNASAL UdOdIdAcPERNIN ANdAMcSLOAN ENdANdONcVOCALIC M",
   "1BC70bAFFIX <nSECANTcMID nSECANTc*nSECANTcLOW @SECANTcMID @SECANTcHIGH @SECANTcATTACHED SECANT",
   "dLEFT-TO-RIGHT SECANTdTANGENTdTAILdE HOOKdI HOOKdTANGENT HOOK",
   "1BC80cHIGH ACUTEdTIGHT ACUTEdGRAVEdLONG GRAVEdvdCIRCLEdLINEdWAVEd@",
   "1BC90cLOW ACUTEdTIGHT ACUTEdGRAVEdLONG GRAVEdvdCIRCLEdLINEdWAVEd@d&",
   "1BC9Cb)O #CROSSbTHICK !SELECTORb:pbPUNCTUATION CHINOOK FULL STOPaSHORTHAND FORMAT !OVERLAP",
   "cCONTINUING OVERLAPcDOWN STEPcUP STEP",
   "1CF00aZNAMENNY COMBINING pGORAZDO NIZKO S KRYZHEM ON <dNIZKO S KRYZHEM ON <dTSATA ON <",
   "dGORAZDO NIZKO ON <dNIZKO ON <dSREDNE ON <dMALO POVYSHE ON <dPOVYSHE ON <dVYSOKO ON <",
   "dMALO POVYSHE S KHOKHLOM ON <dPOVYSHE S KHOKHLOM ON <dVYSOKO S KHOKHLOM ON <",
   "dGORAZDO NIZKO S KRYZHEM ON *dNIZKO S KRYZHEM ON *dTSATA ON *dGORAZDO NIZKO ON *dNIZKO ON *",
   "dSREDNE ON *dMALO POVYSHE ON *dPOVYSHE ON *dVYSOKO ON *dMALO POVYSHE S KHOKHLOM ON *",
   "dPOVYSHE S KHOKHLOM ON *dVYSOKO S KHOKHLOM ON *dTSATA S KRYZHEMdMALO POVYSHE S KRYZHEM",
   "dSTRANNO MALO POVYSHEdPOVYSHE S KRYZHEMeSTRANNOdVYSOKO S KRYZHEMdMALO POVYSHE STRANNO",
   "dGORAZDO VYSOKOdZELOdONdRAVNOdTIKHAYAdBORZAYAdUDARKAdPODVERTKAdLOMKAdKUPNAYAdKACHKAdZEVOK",
   "dSKOBAdRAZSEKAdKRYZH ON <",
   "1CF30cTONAL RANGE pMRACHNOfSVETLOfTRESVETLOcpZADERZHKAdDEMESTVENNY ZADERZHKAdOTSECHKA",
   "dPODCHASHIEe#@~dCHASHKAePOLNAYAdOBLACHKOdSOROCHYA NOZHKAdTOCHKAdDVOETOCHIEcATTACHING @OMET",
   "cpCURVED OMETdKRYZHcLOWER TONAL RANGE INDICATORbPRIZNAK MODIFIER LEVEL-2dLEVEL-3",
   "dDIRECTION FLIPdKRYZHdROG",
   "1CF50bNEUME KRYUKdTIKHYcPARAKLITcDVA V CHELNUcKLYUCHcZANOZHEKcSTOPITSAdS OCHKOMcPEREVODKA",
   "dNEPOSTOYANNAYAcSTOPITSA #SOROCHYA NOZHKAcCHELYUSTKAcPALKAcZAPYATAYAcGOLUBCHIK BORZYdTIKHY",
   "dMRACHNYdSVETLYdTRESVETLYcVRAKHIYA PROSTAYAdMRACHNAYAdSVETLAYAdTRESVETLAYA",
   "dKLYUCHEVAYA PROSTAYAeMRACHNAYAeSVETLAYAeTRESVETLAYAc:ZAPYATAYAcREVERSED CHELYUSTKAcDERBITSA",
   "cKHAMILOcCHASHKAcPODCHASHIEcSKAMEYTSA MRACHNAYAdSVETLAYAdTRESVETLAYAdTIKHAYA",
   "cDEMESTVENNY KLYUCHcSKAMEYTSA KLYUCHEVAYA SVETLAYAdKLYUCHENEPOSTOYANNAYAdKLYUCHEVAYA TIKHAYA",
   "dDVOECHELNAYA PROSTAYAeSVETLAYAeNEPOSTOYANNAYAeKLYUCHEVAYAcSLOZHITIEdS ZAPYATOYdZAKRYTOE",
   "dS KRYZHEMcKRYZHcROGcFITAcKOBYLAcZMEYTSAcSTATYAdS ZAPYATOYeKRYZHEMeZAPYATOY I KRYZHEM",
   "eKRYZHEM I ZAPYATOYdZAKRYTAYAeS ZAPYATOYdS ROGOMeDVUMYA ZAPYATYMIeZAPYATOY I PODCHASHIEM",
   "cPOLKULIZMYcSTATYA NEPOSTOYANNAYAcSTRELA PROSTAYAdMRACHNOTIKHAYAdKRYZHEVAYAdPOLUPOVODNAYA",
   "dPOVODNAYAdNEPOSTOYANNAYAdKLYUCHEPOVODNAYAdKLYUCHENEPOSTOYANNAYAdTIKHAYA PUTNAYAdDVOECHELNAYA",
   "dDVOECHELNOKRYZHEVAYAdDVOECHELNOPOVODNAYAdDVOECHELNAYA KLYUCHEVAYA",
   "dDVOECHELNOPOVODNAYA KLYUCHEVAYAdGROMNAYA #SINGLE ZAPYATAYAdGROMOPOVODNAYA #SINGLE ZAPYATAYA",
   "dGROMNAYAdGROMOPOVODNAYAe#:ZAPYATAYAdGROMOKRYZHEVAYAePOVODNAYAcMECHIKdPOVODNYdKLYUCHEVOY",
   "dKLYUCHEPOVODNYdKLYUCHENEPOSTOYANNYcSTRELA TRYASOGLASNAYAdTRYASOPOVODNAYAdTRYASOSTRELNAYA",
   "cOSOKAdSVETLAYAdTRESVETLAYAdKRYUKOVAYA SVETLAYAdKLYUCHEVAYA SVETLAYAeNEPOSTOYANNAYA",
   "cSTRELA KRYUKOVAYAePOVODNAYAeGROMNAYA #SINGLE ZAPYATAYAeGROMOPOVODNAYA #SINGLE ZAPYATAYA",
   "eGROMNAYAeGROMOPOVODNAYAf#:ZAPYATAYAeGROMOKRYZHEVAYAfPOVODNAYAeTRYASKAcKUFISMAcOBLAKOcDUDA",
   "cNEMKAcPAUK"]

end AccessControl
