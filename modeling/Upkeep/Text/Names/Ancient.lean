import Upkeep.Text.Names.Packed

/-!
Names of characters: ancient and minority scripts.
-/
namespace Upkeep.Text.Names

def ancient : List Run :=
  [⟨0x10000, [
      "aLvEs B SYLLABu B008 AdB038 EdB028 IdB061 OdB010 UdB001 DAdB045 DEdB007 DIdB014 DOdB051 DU",
      "dB057 JAdB046 JE.dB036 JOdB065 JUdB077 KAdB044 KEdB067 KIdB070 KOdB081 KUdB080 MAdB013 MEd",
      "B073 MIdB015 MOdB023 MUdB006 NAdB024 NEdB030 NIdB052 NOdB055 NUdB003 PAdB072 PEdB039 PIdB0",
      "11 POdB050 PUdB016 QAdB078 QEdB021 QIdB032 QO.dB060 RAdB027 REdB053 RIdB002 ROdB026 RUdB03",
      "1 SAdB009 SEdB041 SIdB012 SOdB058 SUdB059 TAdB004 TEdB037 TIdB005 TOdB069 TUdB054 WAdB075 ",
      "WEdB040 WIdB042 WO.dB017 ZAdB074 ZE.dB020 ZOdB025 A2dB043 A3dB085 AUdB071 DWEdB090 DWOdB04",
      "8 NWAdB029 PU2dB062 PTEdB076 RA2dB033 RA3dB068 RO2dB066 TA2dB087 TWEdB091 TWO..cSYMBOL B01",
      "8dB019dB022dB034dB047dB049dB056dB063dB064dB079dB082dB083dB086dB089"]⟩,
   ⟨0x10080, [
      "aLvEs B IDEOGRAM B100 MydB102 WOMydB104 DEzdB105 EQUIDdB105F MsEdB105M STrLIONdB106F EWEdB",
      "106M RAMdB107F SHE-GOATdB107M HE-GOATdB108F SOWdB108M BOsdB109F COWdB109M BULLdB120 WHEATd",
      "B121 BsuYdB122 OLIVEdB123 SPICEdB125 CYPzUScMONOGRAM B127 KAPOdB128 KyAKOcIDEOGRAM B130 OI",
      "LdB131 WvEdB132cMONOGRAM B133 sEPAdB135 MzIcIDEOGRAM B140 BRONZEdB141 GOLDdB142dB145 WOOLd",
      "B146dB150dB151 HORNdB152dB153dB154cMONOGRAM B156 TURO2cIDEOGRAM B157dB158dB159 CLOTHdB160d",
      "B161dB162 GsMENTdB163 sMOURdB164dB165dB166dB167dB168dB169dB170dB171dB172dB173 MONTHdB174dB",
      "176 TREEdB177dB178dB179dB180dB181dB182dB183dB184dB185dB189dB190dB191 HELMETdB220 FOOTSTOOL",
      "dB225 BATHTUBdB230 SPEsdB231 sROWdB232dB233 SWORDdB234dB236dB240 WHEEuD CHsIOTdB241 CHsIOT",
      "dB242 CHsIOT FRAMEdB243 WHEELdB245dB246cMONOGRAM B247 DIPTEcIDEOGRAM B248dB249dB251dB252dB",
      "253dB254 DsTdB255dB256dB257dB258dB259dVESSEL B155eB200eB201eB202eB203eB204eB205eB206eB207e",
      "B208eB209eB210eB211eB212eB213eB214eB215eB216eB217eB218eB219eB221eB222eB226eB227eB228eB229e",
      "B250eB305.....aAEGEy WORD SEPsATOR LvEdDOTbCHECK MsK....bNUMBz ONEcTWOcTHREEcFOURcFIVEcSIX",
      "cSEVENcEtcNvEcTENcTWENTYcTHIRTYcFORTYcFIFTYcSIXTYcSEVENTYcEtYcNvETYcONE HUNDREDcTWO HUNDRE",
      "DcTHREE HUNDREDcFOUR HUNDREDcFIVE HUNDREDcSIX HUNDREDcSEVEN HUNDREDcEt HUNDREDcNvE HUNDRED",
      "cONE THOUSyDcTWO THOUSyDcTHREE THOUSyDcFOUR THOUSyDcFIVE THOUSyDcSIX THOUSyDcSEVEN THOUSyD",
      "cEt THOUSyDcNvE THOUSyDcTEN THOUSyDcTWENTY THOUSyDcTHIRTY THOUSyDcFORTY THOUSyDcFIFTY THOU",
      "SyDcSIXTY THOUSyDcSEVENTY THOUSyDcEtY THOUSyDcNvETY THOUSyD...bWEt BASE UNITcFIRST SUBUNIT",
      "cSECOND SUBUNITcTHIRD SUBUNITcFOURTH SUBUNITbDRY MEASURE FIRST SUBUNITbLIQUID MEASURE FIRS",
      "T SUBUNITbMEASURE SECOND SUBUNITcTHIRD SUBUNITaGREEK ACROPHONIC ATTIC ONE QUsTzeHrFeDRACHM",
      "AdFIVEdFIFTYdFIVE HUNDREDeTHOUSyDdFIFTY THOUSyDdFIVE TrENTSdTEN TrENTSdFIFTY TrENTSdONE HU",
      "NDRED TrENTSdFIVE HUNDRED TrENTSdONE THOUSyD TrENTSdFIVE THOUSyD TrENTSeSTATzSdTEN STATzSd",
      "FIFTY STATzSdONE HUNDRED STATzSdFIVE HUNDRED STATzSdONE THOUSyD STATzSdTEN THOUSyD STATzSd",
      "FIFTY THOUSyD STATzSdTEN MNAScHzAEUM ONE PuTHRONcTHESPIy ONEcHzMIONIy ONEcEPIDAUREy TWOcTH",
      "ESPIy TWOcCYRENAIC TWO DRACHMAScEPIDAUREy TWO DRACHMAScTROEZENIy FIVEdTENerTzNATEwcHzMIONI",
      "y TENcMESSENIy TENcTHESPIy TENdTHIRTYcTROEZENIy FIFTYerTzNATEwcHzMIONIy FIFTYcTHESPIy FIFT",
      "YdONE HUNDREDdTHREE HUNDREDcEPIDAUREy FIVE HUNDREDcTROEZENIy FIVE HUNDREDcTHESPIy FIVE HUN",
      "DREDcCsYSTIy FIVE HUNDREDcNAXIy FIVE HUNDREDcTHESPIy ONE THOUSyDdFIVE THOUSyDcDELPHIC FIVE",
      " MNAScSTRATIy FIFTY MNASbONE HrF SIGNerTzNATEwbTWO THIRDS SIGNbTHREE QUsTzS SIGNbYEs SIGNb",
      "TrENT SIGNbDRACHMA SIGNbOBOL SIGNbTWO OBOLS SIGNbTHREE OBOLS SIGNbFOUR OBOLS SIGNbFIVE OBO",
      "LS SIGNbMETRETES SIGNbKYATHOS BASE SIGNbLITRA SIGNbOUNKIA SIGNbXESTES SIGNbsTABE SIGNbsOUR",
      "A SIGNbGRAMMA SIGNbTRYBLION BASE SIGNbZzO SIGNbONE QUsTz SIGNbSvUSOID SIGNbvDICTION SIGNaN",
      "OMISMA SIGN.aROMy SEXTyS SIGNbUNCIA SIGNbSEMUNCIA SIGNbSEXTULA SIGNbDIMIDIA SEXTULA SIGNbS",
      "ILIQUA SIGNbDENsIUS SIGNbQUvsIUS SIGNbSESTzTIUS SIGNbDUPONDIUS SIGNbAS SIGNbCENTURIr SIGNa",
      "ASCIA SYMBOL...aGREEK SYMBOL TAU RHO"]⟩,
   ⟨0x101D0, [
      "aPHAISTOS DISC SIGN PEDESTRIydPLUMED HEADdTATTOOED HEADdCAPTIVEdCHILDdWOMydHELMETdGAUNTuTd",
      "TIsAdsROWdBOWdSHIELDdCLUBdMyACuSdMATTOCKdSAWdLIDdBOOMzyGdCsPENTRY PLyEdDOLIUMdCOMBdSLvGdCO",
      "LUMNdBEEHIVEdSHIPdHORNdHIDEdBULLS uGdCATdRAMdEAGudDOVEdTUNNYdBEEdPLyE TREEdVvEdPAPYRUSdROS",
      "ETTEdLILYdOX BACKdFLUTEdGRATzdSTRAvzdSMrL AXEdWAVY ByDdCOMBvvG OBLIQUE STROKE"]⟩,
   ⟨0x10280, [
      "aLYCIypAcEcBcBHcGcDcIcWcZcTHcJcKcQcLcMcNcMMcNNcUcPcKKcRcScTcTTcycENcHcX...aCsIypAcP2cDcLcU",
      "UUcRcLDcA2cQcBcMcOcD2cTcSHcSH2cScC-18cUcNNcXcNcTT2cPcSScIcEcUUUUcKcK2cNDcUUcGcG2cSTcST2cNG",
      "cIIcC-39cTTcUUU2cRRcMBcMB2cMB3cMB4cLD2cE2cUUU3"]⟩,
   ⟨0x102E0, [
      "aCOPTIC EPACT THOUSyDS MsKcDIGIT ONEdTWOdTHREEdFOURdFIVEdSIXdSEVENdEtdNvEcNUMBz TENdTWENTY",
      "dTHIRTYdFORTYdFIFTYdSIXTYdSEVENTYdEtYdNvETYdONE HUNDREDdTWO HUNDREDdTHREE HUNDREDdFOUR HUN",
      "DREDdFIVE HUNDREDdSIX HUNDREDdSEVEN HUNDREDdEt HUNDREDdNvE HUNDRED....aOLD ITrICpAdBEdKEdD",
      "EdEdVEdZEdHEdTHEdIdKAdELdEMdENdESHdOdPEdSHEdKUdzdESdTEdUdEKSdPHEdKHEdEFdzSdCHEdIIdUUdESScN",
      "UMzr ONEdFIVEdTENdFIFTY"]⟩,
   ⟨0x1032D, [
      "aOLD ITrICpYEdNORTHzN TSEdSOUTHzN TSEaGOTHICpAHSAcBAIRKycGIBAcDAGScAIHVUScQAIRTHRAcIUJAcHA",
      "GLcTHIUTHcEIScKUSMAcLAGUScMyNAcNAUTHScJzcURUScPAIRTHRAcNvETYcRAIDAcSAUILcTEIWScWvJAcFAIHUc",
      "IGGWScHWAIRcOTHrcNvE HUNDRED.....aOLD PzMICpydBURdGAIdDOIdEdZHOIdDZHOIdZATAdDZITAdIdKOKEdu",
      "IdMENOEdNENOEdVOOIdPEEIdREIdSIIdTAIdUdCHzYdSHOOIdSHCHOOIdYRYdYzUdOdOOdEFdHAdTSIUdVzdYzdYzI",
      "dYATdIEdYUdYAdIAaCOMBvvG OLD PzMICpyeDOIeZATAeNENOEeSII.....aUGsITICprPAcBETAcGAMLAcKHAcDE",
      "LTAcHOcWOcZETAcHOTAcTETcYODcKAFcSHvcLAMDAcMEMcDHrcNUNcZUcSAMKAcAvcPUcSADEcQOPAcRASHAcTHyNA",
      "cGHAvcTOcIcUcSSU.bWORD DIVIDzaOLD PzSIy SIGN AdIdUdKAdKUdGAdGUdXAdCAdJAdJIdTAdTUdDAdDIdDUd",
      "THAdPAdBAdFAdNAdNUdMAdMIdMUdYAdVAdVIdRAdRUdLAdSAdZAdSHAdSSAdHA....dAURAMAZDAAdAURAMAZDAA-2",
      "dAURAMAZDAAHAdXSHAAYATHIYAdDAHYAAUSHdDAHYAAUSH-2dBAGAdBUUMISHcWORD DIVIDzcNUMBz ONEdTWOdTE",
      "NdTWENTYdHUNDRED"]⟩,
   ⟨0x10400, [
      "aDESzET xLpLONG IeEeAeAHeOeOOdSHORT IeEeAeAHeOeOOdAYdOWdWUdYEEdHdPEEdBEEdTEEdDEEdCHEEdJEEd",
      "KAYdGAYdEFdVEEdETHdTHEEdESdZEEdESHdZHEEdzdELdEMdENdENGdOIdEWbSMrLpLONG IeEeAeAHeOeOOdSHORT",
      " IeEeAeAHeOeOOdAYdOWdWUdYEEdHdPEEdBEEdTEEdDEEdCHEEdJEEdKAYdGAYdEFdVEEdETHdTHEEdESdZEEdESHd",
      "ZHEEdzdELdEMdENdENGdOIdEWaSHAVIypPEEPcTOTcKICKcFEEcTHIGHcSOcSUREcCHURCHcYEAcHUNGcBIBcDEADc",
      "GAGcVOWcTHEYcZOOcMEASUREcJUDGEcWOEcHA-HAcLOLLcMIMEcIFcEGGcASHcADOcONcWOOLcOUTcAHcROscNUNcE",
      "ATcAGEcICEcUPcOAKcOOZEcOILcAWEcsEcORcAIRczRcsRAYcEscIycYEWaOSMyYAprEFcBAcTAcJAcXAcKHAcDEEL",
      "cRAcSAcSHIvcDHAcCAYNcGAcFAcQAAFcKAAFcLAycMIvcNUUNcWAWcHAcYAcAcEcIcOcUcAAcEEcOO..bDIGIT ZzO",
      "cONEcTWOcTHREEcFOURcFIVEcSIXcSEVENcEtcNvE"]⟩,
   ⟨0x104B0, [
      "aOSAGE xLpAdAIdAvdAHdBRAdCHAdEHCHAdEdEvdHAdHYAdIdKAdEHKAdKYAdLAdMAdNAdOdOvdPAdEHPAdSAdSHAd",
      "TAdEHTAdTSAdEHTSAdTSHAdDHAdUdWAdKHAdGHAdZAdZHA....bSMrLpAdAIdAvdAHdBRAdCHAdEHCHAdEdEvdHAdH",
      "YAdIdKAdEHKAdKYAdLAdMAdNAdOdOvdPAdEHPAdSAdSHAdTAdEHTAdTSAdEHTSAdTSHAdDHAdUdWAdKHAdGHAdZAdZ",
      "HA....aELBASypAcBEcCEcCHEcDEcNDEcDHEcEIcEcFEcGEcGJEcHEcIcJEcKEcucLucMEcNEcNAcNJEcOcPEcQEcR",
      "EcRREcSEcSHEcTEcTHEcUcVEcXEcYcZEcZHEcGHEcGHAMMAcKHE"]⟩,
   ⟨0x10530, [
      "aCAUCASIy rByIyprTdBETdGIMdDATdEBdZsLdEYNdZHILdTASdCHAdYOWDdZHAdIRBdSHAdLydvYAdXEYNdDYydCs",
      "dJHOXdKsdLYITdHEYTdQAYdAORdCHOYdCHIdCYAYdMAQdQsdNOWCdDZYAYdSHAKdJAYNdONdTYAYdFAMdDZAYdCHAT",
      "dPENdGHEYSdRATdSEYKdVEYZdTIWRdSHOYdIWNdCYAWdCAYNdYAYDdPIWRdKIW"]⟩,
   ⟨0x1056F, [
      "aCAUCASIy rByIy CITATION MsKaVITHKUQI xLpAdBBEdBEdCEdCHEdDEdDHEdEIdEdFEdGA.dHAdHHAdIdIJEdJ",
      "EdKAdLAdLLAdMEdNEdNJEdOdPEdQAdRE.dSEdSHEdTEdTHEdUdVEdXE.dYdZE.bSMrLpAdBBEdBEdCEdCHEdDEdDHE",
      "dEIdEdFEdGA.dHAdHHAdIdIJEdJEdKAdLAdLLAdMEdNEdNJEdOdPEdQAdRE.dSEdSHEdTEdTHEdUdVEdXE.dYdZE"]⟩,
   ⟨0x10600, [
      "aLvEs A SIGN AB001dAB002dAB003dAB004dAB005dAB006dAB007dAB008dAB009dAB010dAB011dAB013dAB016",
      "dAB017dAB020dAB021dAB021FdAB021MdAB022dAB022FdAB022MdAB023dAB023MdAB024dAB026dAB027dAB028d",
      "A028BdAB029dAB030dAB031dAB034dAB037dAB038dAB039dAB040dAB041dAB044dAB045dAB046dAB047dAB048d",
      "AB049dAB050dAB051dAB053dAB054dAB055dAB056dAB057dAB058dAB059dAB060dAB061dAB065dAB066dAB067d",
      "AB069dAB070dAB073dAB074dAB076dAB077dAB078dAB079dAB080dAB081dAB082dAB085dAB086dAB087dA100-1",
      "02dAB118dAB120dA120BdAB122dAB123dAB131AdAB131BdA131CdAB164dAB171dAB180dAB188dAB191dA301dA3",
      "02dA303dA304dA305dA306dA307dA308dA309AdA309BdA309CdA310dA311dA312dA313AdA313BdA313CdA314dA",
      "315dA316dA317dA318dA319dA320dA321dA322dA323dA324dA325dA326dA327dA328dA329dA330dA331dA332dA",
      "333dA334dA335dA336dA337dA338dA339dA340dA341dA342dA343dA344dA345dA346dA347dA348dA349dA350dA",
      "351dA352dA353dA354dA355dA356dA357dA358dA359dA360dA361dA362dA363dA364dA365dA366dA367dA368dA",
      "369dA370dA371dA400-VASdA401-VASdA402-VASdA403-VASdA404-VASdA405-VASdA406-VASdA407-VASdA408",
      "-VASdA409-VASdA410-VASdA411-VASdA412-VASdA413-VASdA414-VASdA415-VASdA416-VASdA417-VASdA418",
      "-VASdA501dA502dA503dA504dA505dA506dA508dA509dA510dA511dA512dA513dA515dA516dA520dA521dA523d",
      "A524dA525dA526dA527dA528dA529dA530dA531dA532dA534dA535dA536dA537dA538dA539dA540dA541dA542d",
      "A545dA547dA548dA549dA550dA551dA552dA553dA554dA555dA556dA557dA559dA563dA564dA565dA566dA568d",
      "A569dA570dA571dA572dA573dA574dA575dA576dA577dA578dA579dA580dA581dA582dA583dA584dA585dA586d",
      "A587dA588dA589dA591dA592dA594dA595dA596dA598dA600dA601dA602dA603dA604dA606dA608dA609dA610d",
      "A611dA612dA613dA614dA615dA616dA617dA618dA619dA620dA621dA622dA623dA624dA626dA627dA628dA629d",
      "A634dA637dA638dA640dA642dA643dA644dA645dA646dA648dA649dA651dA652dA653dA654dA655dA656dA657d",
      "A658dA659dA660dA661dA662dA663dA664"]⟩,
   ⟨0x10740, [
      "aLvEs A SIGN A701 AdA702 BdA703 DdA704 EdA705 FdA706 HdA707 JdA708 KdA709 LdA709-2 L2dA709",
      "-3 L3dA709-4 L4dA709-6 L6dA710 WdA711 XdA712 YdA713 OMEGAdA714 ABBdA715 BBdA717 DDdA726 EY",
      "YYdA732 JE"]⟩,
   ⟨0x10760, ["aLvEs A SIGN A800dA801dA802dA803dA804dA805dA806dA807"]⟩,
   ⟨0x10780, [
      "aMODIFIzpSMrL xL AAcSUPzSCRIPT TRIyGULs COLONdHrF TRIyGULs COLONcSMrL AEdxL BdBqHOOK.dDZ D",
      "IGRAPHfWITH RETROFuX HOOKgCURLdDEZH DIGRAPHdDqTAILfHOOKgyD TAILdREVzSED EdCLOSED REVzSED O",
      "PEN EdFENG DIGRAPHdRAMS HORNdxL GdGqHOOKdxL GqHOOKdHqSTROKEdxL HdHENGqHOOKdDOTuSS JqSTROKE",
      " yD HOOKdLS DIGRAPHdLZ DIGRAPHdLqBELTdxL LqBELTdLqRETROFuX HOOK yD BELTduZHeWITH RETROFuX ",
      "HOOKdTURNED YfWITH BELTdOqSTROKEdxL OEdCLOSED OMEGAdQdTURNED RqLONG uGiyD RETROFuX HOOKdRq",
      "TAILfFISHHOOKdxL RdTC DIGRAPHqCURLdTS DIGRAPHfWITH RETROFuX HOOKdTESH DIGRAPHdTqRETROFuX H",
      "OOKdVqRt HOOK.dxL YcGLOTTr STOPqSTROKEcREVzSED GLOTTr STOPqSTROKEcBILABIr CLICKcDENTr CLIC",
      "KcLATzr CLICKcrVEOLs CLICKcRETROFuX CLICKqRETROFuX HOOKcSMrL SqCURL"]⟩,
   ⟨0x10800, [
      "aCYPRIOT SYLLABu AcEcIcOcUcJA..cJO.cKAcKEcKIcKOcKUcLAcucLIcLOcLUcMAcMEcMIcMOcMUcNAcNEcNIcN",
      "OcNUcPAcPEcPIcPOcPUcRAcREcRIcROcRUcSAcSEcSIcSOcSUcTAcTEcTIcTOcTUcWAcWEcWIcWO.cXAcXE...cZA.",
      ".cZOaIMPzIr sAMAICprEPHdBETHdGIMELdDrETHdHEdWAWdZAYvdHETHdTETHdYODHdKAPHdLAMEDHdMEMdNUNdSA",
      "MEKHdAYvdPEdSADHEdQOPHdRESHdSHvdTAW.cSECTION SIGNcNUMBz ONEdTWOdTHREEdTENdTWENTYdONE HUNDR",
      "EDeTHOUSyDdTEN THOUSyDaPrMYRENEprEPHcBETHcGIMELcDrETHcHEcWAWcZAYvcHETHcTETHcYODHcKAPHcLAME",
      "DHcMEMcFvr NUNcNUNcSAMEKHcAYvcPEcSADHEcQOPHcRESHcSHvcTAWbuFT-POvTvG FuURONbRt-POvTvG FuURO",
      "NbNUMBz ONEcTWOcTHREEcFOURcFIVEcTENcTWENTYaNABATAEypFvr rEPHcrEPHcFvr BETHcBETHcGIMELcDrET",
      "HcFvr HEcHEcWAWcZAYvcHETHcTETHcFvr YODHcYODHcFvr KAPHcKAPHcFvr LAMEDHcLAMEDHcFvr MEMcMEMcF",
      "vr NUNcNUNcSAMEKHcAYvcPEcSADHEcQOPHcRESHcFvr SHvcSHvcTAW"]⟩,
   ⟨0x108A7, [
      "aNABATAEy NUMBz ONEcTWOcTHREEcFOURbCRUCIFORM NUMBz FOURbNUMBz FIVEcTENcTWENTYcONE HUNDRED"]⟩,
   ⟨0x108E0, [
      "aHATRyprEPHcBETHcGIMELcDrETH-RESHcHEcWAWcZAYNcHETHcTETHcYODHcKAPHcLAMEDHcMEMcNUNcSAMEKHcAY",
      "NcPEcSADHEcQOPH.cSHvcTAW.....bNUMBz ONEcFIVEcTENcTWENTYcONE HUNDREDaPHOENICIyprFcBETcGAMLc",
      "DELTcHEcWAUcZAIcHETcTETcYODcKAFcLAMDcMEMcNUNcSEMKcAvcPEcSADEcQOFcROSHcSHvcTAUbNUMBz ONEcTE",
      "NcTWENTYcONE HUNDREDcTWOcTHREE...bWORD SEPsATORaLYDIypAcBcGcDcEcVcIcYcKcLcMcNcOcRcSScTcUcF",
      "cQcScTTcycENcLYcNNcC.....bTRIyGULs MsK"]⟩,
   ⟨0x10980, [
      "aMzOITIC HIzOGLYPHICpAdEdIdOdYAdWAdBAdBA-2dPAdMAdNAdNA-2dNEdNE-2dRAdRA-2dLAdKHAdHHAdSAdSA-",
      "2dSEdKAdQAdTAdTA-2dTEdTE-2dTOdDAcSYMBOL VIDJdVIDJ-2bCURSIVEpAdEdIdOdYAdWAdBAdPAdMAdNAdNEdR",
      "AdLAdKHAdHHAdSAdsCHAIC SAdSEdKAdQAdTAdTEdTOdDA....cFRACTION EuVEN TWELFTHSdONE HrFcLOGOGRA",
      "M RMTdIMNcNUMBz ONEdTWOdTHREEdFOURdFIVEdSIXdSEVENdEtdNvEdTENdTWENTYdTHIRTYdFORTYdFIFTYdSIX",
      "TYdSEVENTY..dONE HUNDREDdTWO HUNDREDdTHREE HUNDREDdFOUR HUNDREDdFIVE HUNDREDdSIX HUNDREDdS",
      "EVEN HUNDREDdEt HUNDREDdNvE HUNDREDdONE THOUSyDdTWO THOUSyDdTHREE THOUSyDdFOUR THOUSyDdFIV",
      "E THOUSyDdSIX THOUSyDdSEVEN THOUSyDdEt THOUSyDdNvE THOUSyDdTEN THOUSyDdTWENTY THOUSyDdTHIR",
      "TY THOUSyDdFORTY THOUSyDdFIFTY THOUSyDdSIXTY THOUSyDdSEVENTY THOUSyDdEtY THOUSyDdNvETY THO",
      "USyDdONE HUNDRED THOUSyDdTWO HUNDRED THOUSyDdTHREE HUNDRED THOUSyDdFOUR HUNDRED THOUSyDdFI",
      "VE HUNDRED THOUSyDdSIX HUNDRED THOUSyDdSEVEN HUNDRED THOUSyDdEt HUNDRED THOUSyDdNvE HUNDRE",
      "D THOUSyDcFRACTION ONE TWELFTHdTWO TWELFTHSdTHREE TWELFTHSdFOUR TWELFTHSdFIVE TWELFTHSdSIX",
      " TWELFTHSdSEVEN TWELFTHSdEt TWELFTHSdNvE TWELFTHSdTEN TWELFTHSaKHsOSHTHIpAbVOWEL SIGN IdUd",
      "VOCrIC R.dEdO.....cuNGTH MsKbSIGN DOUBu RvG BELOWcyUSVsAcVISsGAbuTTz KAcKHAcGAcGHA.cCAcCHA",
      "cJA.cNYAcTTAcTTHAcDDAcDDHAcNNAcTAcTHAcDAcDHAcNAcPAcPHAcBAcBHAcMAcYAcRAcLAcVAcSHAcSSAcSAcZA",
      "cHAcKKAcTTTHAcTTTAcVHA..bSIGN Bs ABOVEcCAUDAcDOT BELOW....bVIRAMAbDIGIT ONEcTWOcTHREEcFOUR",
      "bNUMBz TENcTWENTYcONE HUNDREDdTHOUSyDbFRACTION ONE HrF"]⟩,
   ⟨0x10A50, [
      "aKHsOSHTHI PUNCTUATION DOTcSMrL CIRCucCIRCucCRESCENT BscMyGrAMcLOTUScDyDAcDOUBu DyDAcLvES"]⟩,
   ⟨0x10A60, [
      "aOLD SOUTH sABIypHEeLAMEDHeHETHeMEMeQOPHeWAWeSHveRESHeBETHeTAWeSATeKAPHeNUNeKHETHeSADHEeSA",
      "MEKHeFEerEFeAYNeDHADHEeGIMELeDrETHeGHAYNeTETHeZAYNeDHrETHeYODHeTHAWeTHETHdNUMBz ONEeFIFTYd",
      "NUMzIC vDICATORbNORTH sABIypHEHeLAMeHAHeMEEMeQAFeWAWeES-2eREHeBEHeTEHeES-1eKAFeNOONeKHAHeS",
      "ADeES-3eFEHerEFeAveDADeGEEMeDreGHAveTAHeZAveTHreYEHeTHEHeZAHdNUMBz ONEeTENeTWENTY"]⟩,
   ⟨0x10AC0, [
      "aMyICHAEyprEPHcBETHcBHETHcGIMELcGHIMELcDrETHcHEcWAWbSIGN UDbuTTz ZAYvcZHAYvcJAYvcJHAYvcHET",
      "HcTETHcYODHcKAPHcXAPHcKHAPHcLAMEDHcDHAMEDHcTHAMEDHcMEMcNUNcSAMEKHcAYvcAAYvcPEcFEcSADHEcQOP",
      "HcXOPHcQHOPHcRESHcSHvcSSHvcTAWbABBREVIATION MsK ABOVEdBELOW....bNUMBz ONEcFIVEcTENcTWENTYc",
      "ONE HUNDREDbPUNCTUATION STscFuURONcDOUBu DOT WITHv DOTcDOT WITHv DOTcDOTcTWO DOTScLvE FILu",
      "R"]⟩,
   ⟨0x10B00, [
      "aAVESTypAcAAcAOcAAOcycAycAEcAEEcEcEEcOcOOcIcIIcUcUUcKEcXEcXYEcXVEcGEcGGEcGHEcCEcJEcTEcTHEc",
      "DEcDHEcTTEcPEcFEcBEcBHEcNGEcNGYEcNGVEcNEcNYEcNNEcMEcHMEcYYEcYEcVEcREcucSEcZEcSHEcZHEcSHYEc",
      "SSHEcHE...bABBREVIATION MsKaTvY TWO DOTS OVz ONE DOT PUNCTUATIONaSMrL TWO DOTS OVz ONE DOT",
      " PUNCTUATIONaLsGE TWO DOTS OVz ONE DOT PUNCTUATIONbONE DOT OVz TWO DOTS PUNCTUATIONbTWO Rv",
      "GS OVz ONE RvG PUNCTUATIONbONE RvG OVz TWO RvGS PUNCTUATIONavSCRIPTIONr PsTHIyprEPHdBETHdG",
      "IMELdDrETHdHEdWAWdZAYvdHETHdTETHdYODHdKAPHdLAMEDHdMEMdNUNdSAMEKHdAYvdPEdSADHEdQOPHdRESHdSH",
      "vdTAW..cNUMBz ONEdTWOdTHREEdFOURdTENdTWENTYdONE HUNDREDeTHOUSyDbPAHLAVIprEPHdBETHdGIMELdDr",
      "ETHdHEdWAW-AYv-RESHdZAYvdHETHdTETHdYODHdKAPHdLAMEDHdMEM-QOPHdNUNdSAMEKHdPEdSADHEdSHvdTAW..",
      "...cNUMBz ONEdTWOdTHREEdFOURdTENdTWENTYdONE HUNDREDeTHOUSyDaPSrTz PAHLAVIprEPHdBETHdGIMELd",
      "DrETHdHEdWAW-AYv-RESHdZAYvdHETHdYODHdKAPHdLAMEDHdMEM-QOPHdNUNdSAMEKHdPEdSADHEdSHvdTAW"]⟩,
   ⟨0x10B99, ["aPSrTz PAHLAVI SECTION MsKcTURNED SECTION MsKcFOUR DOTSqCROSSfDOT"]⟩,
   ⟨0x10BA9, ["aPSrTz PAHLAVI NUMBz ONEdTWOdTHREEdFOURdTENdTWENTYdONE HUNDRED"]⟩,
   ⟨0x10C00, [
      "aOLD TURKICpORKHON AdYENISEI AeAEdORKHON IdYENISEI IeEdORKHON OeOEdYENISEI OEdORKHON ABdYE",
      "NISEI ABdORKHON AEBdYENISEI AEBdORKHON AGdYENISEI AGdORKHON AEGdYENISEI AEGdORKHON ADdYENI",
      "SEI ADdORKHON AEDeEZdYENISEI EZdORKHON AYdYENISEI AYdORKHON AEYdYENISEI AEYdORKHON AEKdYEN",
      "ISEI AEKdORKHON OEKdYENISEI OEKdORKHON rdYENISEI rdORKHON AELeELTeEMeyeAENdYENISEI AENdORK",
      "HON ENTdYENISEI ENTdORKHON ENCdYENISEI ENCdORKHON ENYdYENISEI ENYeyGdORKHON ENGdYENISEI AE",
      "NGdORKHON EPeOPeICeECdYENISEI ECdORKHON AQdYENISEI AQdORKHON IQdYENISEI IQdORKHON OQdYENIS",
      "EI OQdORKHON sdYENISEI sdORKHON AzeASeAESeASHdYENISEI ASHdORKHON ESHdYENISEI ESHdORKHON AT",
      "dYENISEI ATdORKHON AETdYENISEI AETdORKHON OTeBASH"]⟩,
   ⟨0x10C80, [
      "aOLD HUNGsIy xLpAeAAeEBeAMBeECeENCeECSeEDeyDeEeCLOSE EeEEeEFeEGeEGYeEHeIeIIeEJeEKeAKeUNKeE",
      "LeELYeEMeENeENYeOeOOeNIKOLSBURG OEeRUDIMENTA OEeOEEeEPeEMPezeSHORT zeESeESZeETeENTeETYeECH",
      "eUeUUeNIKOLSBURG UEeRUDIMENTA UEeEVeEZeEZSeENT-SHAPED SIGNeUS"]⟩,
   ⟨0x10CC0, [
      "aOLD HUNGsIy SMrLpAeAAeEBeAMBeECeENCeECSeEDeyDeEeCLOSE EeEEeEFeEGeEGYeEHeIeIIeEJeEKeAKeUNK",
      "eELeELYeEMeENeENYeOeOOeNIKOLSBURG OEeRUDIMENTA OEeOEEeEPeEMPezeSHORT zeESeESZeETeENTeETYeE",
      "CHeUeUUeNIKOLSBURG UEeRUDIMENTA UEeEVeEZeEZSeENT-SHAPED SIGNeUS"]⟩,
   ⟨0x10CFA, [
      "aOLD HUNGsIy NUMBz ONEdFIVEdTENdFIFTYdONE HUNDREDeTHOUSyDaHyIFI ROHvGYApAdBAdPAdTAdTTAdJAd",
      "CAdHAdKHAdFAdDAdDDAdRAdRRAdZAdSAdSHAdKAdGAdLAdMAdNAdWAdKvNA WAdYAdKvNA YAdNGAdNYAdVAcVOWEL",
      " AdIdUdEdOcMsK SAKvdNA KHONNAcSIGN HsBAHAYdTAHrAdTyAdTASSI"]⟩,
   ⟨0x10D30, ["aHyIFI ROHvGYA DIGIT ZzOdONEdTWOdTHREEdFOURdFIVEdSIXdSEVENdEtdNvE"]⟩,
   ⟨0x10E60, [
      "aRUMI DIGIT ONEcTWOcTHREEcFOURcFIVEcSIXcSEVENcEtcNvEbNUMBz TENcTWENTYcTHIRTYcFORTYcFIFTYcS",
      "IXTYcSEVENTYcEtYcNvETYcONE HUNDREDcTWO HUNDREDcTHREE HUNDREDcFOUR HUNDREDcFIVE HUNDREDcSIX",
      " HUNDREDcSEVEN HUNDREDcEt HUNDREDcNvE HUNDREDbFRACTION ONE HrFdQUsTzdTHIRDcTWO THIRDS.aYEZ",
      "IDIpELIFcBEcPEcPHEcTHEcSEcCIMcCHIMcCHHIMcHHAcXAcDrcZrcRAcRHAcZAcJAcSvcSHvcSADcDADcTAcZEcEY",
      "NcXHEYNcFAcVAdrTzNATEwcQAFcKAFcKHAFcGAFcLAMcMIMcNUNcUMcWAWcOWcEWcHAYcYOTcET.bCOMBvvG HAMZA",
      " MsKcMADDA MsKbHYPHENATION MsK..buTTz LAMqDOT ABOVEcYOTqCIRCUMFuX ABOVE"]⟩,
   ⟨0x10F00, [
      "aOLD SOGDIyprEPHdFvr rEPHdBETHdFvr BETHdGIMELdHEdFvr HEdWAWdZAYvdHETHdYODHdKAPHdLAMEDHdMEM",
      "dNUNdFvr NUNfWITH VzTICr TAILdSAMEKHdAYvdrTzNATE AYvdPEdSADHEdFvr SADHEfWITH VzTICr TAILdR",
      "ESH-AYv-DrETHdSHvdTAWdFvr TAWfWITH VzTICr TAILcNUMBz ONEdTWOdTHREEdFOURdFIVEdTENdTWENTYdTH",
      "IRTYdONE HUNDREDcFRACTION ONE HrFcLIGATURE AYv-DrETH"]⟩,
   ⟨0x10F30, [
      "aSOGDIyprEPHcBETHcGIMELcHEcWAWcZAYvcHETHcYODHcKAPHcLAMEDHcMEMcNUNcSAMEKHcAYvcPEcSADHEcRESH",
      "-AYvcSHvcTAWcFETHcuSHbvDEPENDENT SHvbCOMBvvG DOT BELOWcTWO DOTS BELOWcDOT ABOVEcTWO DOTS A",
      "BOVEcCURVE ABOVEdBELOWcHOOK ABOVEdBELOWcLONG HOOK BELOWcRESH BELOWcSTROKE BELOWbNUMBz ONEc",
      "TENcTWENTYcONE HUNDREDbPUNCTUATION TWO VzTICr BsSfWITH DOTScCIRCuqDOTcTWO CIRCuSqDOTScHrF ",
      "CIRCuqDOT"]⟩,
   ⟨0x10F70, [
      "aOLD UYGHURprEPHdBETHdGIMEL-HETHdWAWdZAYvdFvr HETHdYODHdKAPHdLAMEDHdMEMdNUNdSAMEKHdPEdSADH",
      "EdRESHdSHvdTAWduSHcCOMBvvG DOT ABOVEeBELOWdTWO DOTS ABOVEfBELOWcPUNCTUATION BsdTWO BsSeDOT",
      "SdFOUR DOTS"]⟩,
   ⟨0x10FB0, [
      "aCHORASMIyprEPHcSMrL rEPHcBETHcGIMELcDrETHcHEcWAWcCURuD WAWcZAYvcHETHcYODHcKAPHcLAMEDHcMEM",
      "cNUNcSAMEKHcAYvcPEcRESHcSHvcTAWbNUMBz ONEcTWOcTHREEcFOURcTENcTWENTYcONE HUNDRED"]⟩,
   ⟨0x10FE0, [
      "aELYMAICprEPHcBETHcGIMELcDrETHcHEcWAWcZAYvcHETHcTETHcYODHcKAPHcLAMEDHcMEMcNUNcSAMEKHcAYvcP",
      "EcSADHEcQOPHcRESHcSHvcTAWbLIGATURE ZAYv-YODH"]⟩,
   ⟨0x11000, [
      "aBRAHMI SIGN CyDRABvDUcyUSVsAcVISsGAcJIHVAMULIYAcUPADHMyIYAbuTTz AcAAcIcIIcUcUUcVOCrIC RdR",
      "RdLdLLcEcAIcOcAUcKAcKHAcGAcGHAcNGAcCAcCHAcJAcJHAcNYAcTTAcTTHAcDDAcDDHAcNNAcTAcTHAcDAcDHAcN",
      "AcPAcPHAcBAcBHAcMAcYAcRAcLAcVAcSHAcSSAcSAcHAcLLAcOLD TAMIL LLLAeRRAeNNNAbVOWEL SIGN AAdBHA",
      "TTIPROLU AAdIdIIdUdUUdVOCrIC ReRReLeLLdEdAIdOdAUbVIRAMAbDyDAbDOUBu DyDAbPUNCTUATION DOTcDO",
      "UBu DOTcLvEcCRESCENT BscLOTUS....bNUMBz ONEcTWOcTHREEcFOURcFIVEcSIXcSEVENcEtcNvEcTENcTWENT",
      "YcTHIRTYcFORTYcFIFTYcSIXTYcSEVENTYcEtYcNvETYcONE HUNDREDdTHOUSyDbDIGIT ZzOcONEcTWOcTHREEcF",
      "OURcFIVEcSIXcSEVENcEtcNvEbSIGN OLD TAMIL VIRAMAbuTTz OLD TAMIL SHORT EfObVOWEL SIGN OLD TA",
      "MIL SHORT EgObuTTz OLD TAMIL LLA"]⟩,
   ⟨0x1107F, [
      "aBRAHMI NUMBz JOvzaKAITHI SIGN CyDRABvDUcyUSVsAcVISsGAbuTTz AcAAcIcIIcUcUUcEcAIcOcAUcKAcKH",
      "AcGAcGHAcNGAcCAcCHAcJAcJHAcNYAcTTAcTTHAcDDAcDDDHAcDDHAcRHAcNNAcTAcTHAcDAcDHAcNAcPAcPHAcBAc",
      "BHAcMAcYAcRAcLAcVAcSHAcSSAcSAcHAbVOWEL SIGN AAdIdIIdUdUUdEdAIdOdAUbSIGN VIRAMAcNUKTAbABBRE",
      "VIATION SIGNbENUMzATION SIGNbNUMBz SIGNbSECTION MsKbDOUBu SECTION MsKbDyDAbDOUBu DyDAbVOWE",
      "L SIGN VOCrIC R"]⟩,
   ⟨0x110CD, [
      "aKAITHI NUMBz SIGN ABOVE..aSORA SOMPENGpSAHdTAHdBAHdCAHdDAHdGAHdMAHdNGAHdLAHdNAHdVAHdPAHdY",
      "AHdRAHdHAHdKAHdJAHdNYAHdAHdEEHdIHdUHdOHdEHdMAE"]⟩,
   ⟨0x110F0, ["aSORA SOMPENG DIGIT ZzOdONEdTWOdTHREEdFOURdFIVEdSIXdSEVENdEtdNvE"]⟩,
   ⟨0x11100, [
      "aCHAKMA SIGN CyDRABvDUcyUSVsAcVISsGAbuTTz AAcIcUcEcKAAcKHAAcGAAcGHAAcNGAAcCAAcCHAAcJAAcJHA",
      "AcNYAAcTTAAcTTHAAcDDAAcDDHAAcNNAAcTAAcTHAAcDAAcDHAAcNAAcPAAcPHAAcBAAcBHAAcMAAcYYAAcYAAcRAA",
      "cLAAcWAAcSAAcHAAbVOWEL SIGN AdIdIIdUdUUdEdAIdOdAUdOIbO MsKbAU MsKbVIRAMAbMAAYYAA.bDIGIT Zz",
      "OcONEcTWOcTHREEcFOURcFIVEcSIXcSEVENcEtcNvEbSECTION MsKbDyDAbDOUBu DyDAbQUESTION MsKbuTTz L",
      "HAAbVOWEL SIGN AAdEIbuTTz VAA"]⟩,
   ⟨0x11150, [
      "aMAHAJyIpAcIcUcEcOcKAcKHAcGAcGHAcCAcCHAcJAcJHAcNYAcTTAcTTHAcDDAcDDHAcNNAcTAcTHAcDAcDHAcNAc",
      "PAcPHAcBAcBHAcMAcRAcLAcVAcSAcHAcRRAbSIGN NUKTAbABBREVIATION SIGNbSECTION MsKbLIGATURE SHRI"]⟩,
   ⟨0x11180, [
      "aSHsADA SIGN CyDRABvDUcyUSVsAcVISsGAbuTTz AcAAcIcIIcUcUUcVOCrIC RdRRdLdLLcEcAIcOcAUcKAcKHA",
      "cGAcGHAcNGAcCAcCHAcJAcJHAcNYAcTTAcTTHAcDDAcDDHAcNNAcTAcTHAcDAcDHAcNAcPAcPHAcBAcBHAcMAcYAcR",
      "AcLAcLLAcVAcSHAcSSAcSAcHAbVOWEL SIGN AAdIdIIdUdUUdVOCrIC ReRReLeLLdEdAIdOdAUbSIGN VIRAMAcA",
      "VAGRAHAcJIHVAMULIYAcUPADHMyIYAbOMbDyDAbDOUBu DyDAbABBREVIATION SIGNbSEPsATORbSyDHI MsKbSIG",
      "N NUKTAbVOWEL MODIFIz MsKbEXTRA SHORT VOWEL MsKbSUTRA MsKbVOWEL SIGN PRISHTHAMATRA EbSIGN ",
      "vVzTED CyDRABvDUbDIGIT ZzOcONEcTWOcTHREEcFOURcFIVEcSIXcSEVENcEtcNvEbEKAMbSIGN SIDDHAMbHEAD",
      "STROKEbCONTvUATION SIGNbSECTION MsK-1cMsK-2.aSvHrA sCHAIC DIGIT ONEdTWOdTHREEdFOURdFIVEdSI",
      "XdSEVENdEtdNvEcNUMBz TENdTWENTYdTHIRTYdFORTYdFIFTYdSIXTYdSEVENTYdEtYdNvETYdONE HUNDREDeTHO",
      "USyD"]⟩,
   ⟨0x11200, [
      "aKHOJKIpAcAAcIcUcEcAIcOcAUcKAcKHAcGAcGGAcGHAcNGAcCAcCHAcJAcJJA.cNYAcTTAcTTHAcDDAcDDHAcNNAc",
      "TAcTHAcDAcDDDAcDHAcNAcPAcPHAcBAcBBAcBHAcMAcYAcRAcLAcVAcSAcHAcLLAbVOWEL SIGN AAdIdIIdUdEdAI",
      "dOdAUbSIGN yUSVsAcVIRAMAcNUKTAcSHADDAbDyDAbDOUBu DyDAbWORD SEPsATORbSECTION MsKbDOUBu SECT",
      "ION MsKbABBREVIATION SIGNbSIGN SUKUN"]⟩,
   ⟨0x11280, [
      "aMULTyIpAcIcUcEcKAcKHAcGA.cGHA.cCAcCHAcJAcJJA.cNYAcTTAcTTHAcDDAcDDDAcDDHAcNNAcTAcTHAcDAcDH",
      "AcNAcPAcPHAcBA.cBHAcMAcYAcRAcLAcVAcSAcHAcRRAcRHAbSECTION MsK"]⟩,
   ⟨0x112B0, [
      "aKHUDAWADIpAcAAcIcIIcUcUUcEcAIcOcAUcKAcKHAcGAcGGAcGHAcNGAcCAcCHAcJAcJJAcJHAcNYAcTTAcTTHAcD",
      "DAcDDDAcRRAcDDHAcNNAcTAcTHAcDAcDHAcNAcPAcPHAcBAcBBAcBHAcMAcYAcRAcLAcVAcSHAcSAcHAbSIGN yUSV",
      "sAbVOWEL SIGN AAdIdIIdUdUUdEdAIdOdAUbSIGN NUKTAcVIRAMA.....bDIGIT ZzOcONEcTWOcTHREEcFOURcF",
      "IVEcSIXcSEVENcEtcNvE"]⟩,
   ⟨0x11300, [
      "aGRyTHA SIGN COMBvvG yUSVsA ABOVEcCyDRABvDUcyUSVsAcVISsGA.buTTz AcAAcIcIIcUcUUcVOCrIC RdL.",
      ".cEEcAI..cOOcAUcKAcKHAcGAcGHAcNGAcCAcCHAcJAcJHAcNYAcTTAcTTHAcDDAcDDHAcNNAcTAcTHAcDAcDHAcNA",
      ".cPAcPHAcBAcBHAcMAcYAcRA.cLAcLLA.cVAcSHAcSSAcSAcHA.aCOMBvvG BvDU BELOWaGRyTHA SIGN NUKTAcA",
      "VAGRAHAbVOWEL SIGN AAdIdIIdUdUUdVOCrIC ReRR..dEEdAI..dOOdAUbSIGN VIRAMA..bOM"]⟩,
   ⟨0x11357, [
      "aGRyTHA AU uNGTH MsK.....bSIGN PLUTAbuTTz VEDIC yUSVsAdDOUBu yUSVsAcVOCrIC RRdLLbVOWEL SIG",
      "N VOCrIC LeLL..aCOMBvvG GRyTHA DIGIT ZzOdONEdTWOdTHREEdFOURdFIVEdSIX...cuTTz AdKAdNAdVIdPA"]⟩,
   ⟨0x11400, [
      "aNEWApAcAAcIcIIcUcUUcVOCrIC RdRRdLdLLcEcAIcOcAUcKAcKHAcGAcGHAcNGAcNGHAcCAcCHAcJAcJHAcNYAcN",
      "YHAcTTAcTTHAcDDAcDDHAcNNAcTAcTHAcDAcDHAcNAcNHAcPAcPHAcBAcBHAcMAcMHAcYAcRAcRHAcLAcLHAcWAcSH",
      "AcSSAcSAcHAbVOWEL SIGN AAdIdIIdUdUUdVOCrIC ReRReLeLLdEdAIdOdAUbSIGN VIRAMAcCyDRABvDUcyUSVs",
      "AcVISsGAcNUKTAcAVAGRAHAcFvr yUSVsAbOMbSIDDHIbDyDAbDOUBu DyDAbCOMMAbGAP FILuRbABBREVIATION ",
      "SIGNbDIGIT ZzOcONEcTWOcTHREEcFOURcFIVEcSIXcSEVENcEtcNvEbDOUBu COMMAbPLACEHOLDz MsK.bvSzTIO",
      "N SIGNbSyDHI MsKbuTTz VEDIC yUSVsAbSIGN JIHVAMULIYAcUPADHMyIYA"]⟩,
   ⟨0x11480, [
      "aTIRHUTA yJIbuTTz AcAAcIcIIcUcUUcVOCrIC RdRRdLdLLcEcAIcOcAUcKAcKHAcGAcGHAcNGAcCAcCHAcJAcJH",
      "AcNYAcTTAcTTHAcDDAcDDHAcNNAcTAcTHAcDAcDHAcNAcPAcPHAcBAcBHAcMAcYAcRAcLAcVAcSHAcSSAcSAcHAbVO",
      "WEL SIGN AAdIdIIdUdUUdVOCrIC ReRReLeLLdEdSHORT EdAIdOdSHORT OdAUbSIGN CyDRABvDUcyUSVsAcVIS",
      "sGAcVIRAMAcNUKTAcAVAGRAHAbGVyGbABBREVIATION SIGNbOM"]⟩,
   ⟨0x114D0, ["aTIRHUTA DIGIT ZzOcONEcTWOcTHREEcFOURcFIVEcSIXcSEVENcEtcNvE"]⟩,
   ⟨0x11580, [
      "aSIDDHAMpAcAAcIcIIcUcUUcVOCrIC RdRRdLdLLcEcAIcOcAUcKAcKHAcGAcGHAcNGAcCAcCHAcJAcJHAcNYAcTTA",
      "cTTHAcDDAcDDHAcNNAcTAcTHAcDAcDHAcNAcPAcPHAcBAcBHAcMAcYAcRAcLAcVAcSHAcSSAcSAcHAbVOWEL SIGN ",
      "AAdIdIIdUdUUdVOCrIC ReRR..dEdAIdOdAUbSIGN CyDRABvDUcyUSVsAcVISsGAcVIRAMAcNUKTAcSIDDHAMbDyD",
      "AbDOUBu DyDAbSEPsATOR DOTcBsbREPETITION MsK-1cMsK-2cMsK-3bEND OF TEXT MsKbSECTION MsKqTRID",
      "ENT yD U-SHAPED ORNAMENTSgDOTTED CRESCENTSeRAYS yD DOTTED CRESCENTShDOUBu CRESCENTShTRIPu ",
      "CRESCENTSdDOUBu RvGfWITH RAYSdWITH DOUBu CRESCENTSeTRIPu CRESCENTSeQUADRUPu CRESCENTSeSEPT",
      "UPu CRESCENTSeCIRCuS yD RAYSgTWO ENCLOSURESgFOUR ENCLOSURESbuTTz THREE-CIRCu rTzNATE IcTWO",
      "-CIRCu rTzNATE IeIIcrTzNATE UbVOWEL SIGN rTzNATE UeUU"]⟩,
   ⟨0x11600, [
      "aMODIpAcAAcIcIIcUcUUcVOCrIC RdRRdLdLLcEcAIcOcAUcKAcKHAcGAcGHAcNGAcCAcCHAcJAcJHAcNYAcTTAcTT",
      "HAcDDAcDDHAcNNAcTAcTHAcDAcDHAcNAcPAcPHAcBAcBHAcMAcYAcRAcLAcVAcSHAcSSAcSAcHAcLLAbVOWEL SIGN",
      " AAdIdIIdUdUUdVOCrIC ReRReLeLLdEdAIdOdAUbSIGN yUSVsAcVISsGAcVIRAMAcsDHACyDRAbDyDAbDOUBu Dy",
      "DAbABBREVIATION SIGNbSIGN HUVA"]⟩,
   ⟨0x11650, ["aMODI DIGIT ZzOcONEcTWOcTHREEcFOURcFIVEcSIXcSEVENcEtcNvE"]⟩,
   ⟨0x11660, [
      "aMONGOLIy BIRGAqORNAMENTbROTATED BIRGAbDOUBu BIRGAqORNAMENTbTRIPu BIRGAqORNAMENTbBIRGAqDOU",
      "Bu ORNAMENTbROTATED BIRGAqORNAMENTeDOUBu ORNAMENTbvVzTED BIRGAdWITH DOUBu ORNAMENTbSWIRL B",
      "IRGAdWITH ORNAMENTeDOUBu ORNAMENTbTURNED SWIRL BIRGAqDOUBu ORNAMENT"]⟩,
   ⟨0x11680, [
      "aTAKRIpAcAAcIcIIcUcUUcEcAIcOcAUcKAcKHAcGAcGHAcNGAcCAcCHAcJAcJHAcNYAcTTAcTTHAcDDAcDDHAcNNAc",
      "TAcTHAcDAcDHAcNAcPAcPHAcBAcBHAcMAcYAcRAcLAcVAcSHAcSAcHAcRRAbSIGN yUSVsAcVISsGAbVOWEL SIGN ",
      "AAdIdIIdUdUUdEdAIdOdAUbSIGN VIRAMAcNUKTAbuTTz sCHAIC KHAbABBREVIATION SIGN"]⟩,
   ⟨0x116C0, ["aTAKRI DIGIT ZzOcONEcTWOcTHREEcFOURcFIVEcSIXcSEVENcEtcNvE"]⟩,
   ⟨0x11700, [
      "aAHOMpKAcKHAcNGAcNAcTAcrTzNATE TAcPAcPHAcBAcMAcJAcCHAcTHAcRAcLAcSAcNYAcHAcAcDAcDHAcGAcrTzN",
      "ATE GAcGHAcBHAcJHAcrTzNATE BA..bCONSONyT SIGN MEDIr LAeRAeLIGATvG RAbVOWEL SIGN AdAAdIdIId",
      "UdUUdEdAWdOdAIdAMbSIGN KILuR....bDIGIT ZzOcONEcTWOcTHREEcFOURcFIVEcSIXcSEVENcEtcNvEbNUMBz ",
      "TENcTWENTYbSIGN SMrL SECTIONcSECTIONcRULAIbSYMBOL VIbuTTz CAcTTAcTTHAcDDAcDDHAcNNAcLLA"]⟩,
   ⟨0x11800, [
      "aDOGRApAcAAcIcIIcUcUUcEcAIcOcAUcKAcKHAcGAcGHAcNGAcCAcCHAcJAcJHAcNYAcTTAcTTHAcDDAcDDHAcNNAc",
      "TAcTHAcDAcDHAcNAcPAcPHAcBAcBHAcMAcYAcRAcLAcVAcSHAcSSAcSAcHAcRRAbVOWEL SIGN AAdIdIIdUdUUdVO",
      "CrIC ReRRdEdAIdOdAUbSIGN yUSVsAcVISsGAcVIRAMAcNUKTAbABBREVIATION SIGN"]⟩,
   ⟨0x118A0, [
      "aWsyG CITI xLpNGAAeAeWIeYUeYAeYOeIIeUUeEeOeyGeGAeKOeENYeYUJeUCeENNeODDeTTEeNUNGeDAeATeAMeB",
      "UePUeHIYOeHOLOeHORReHseSSUUeSIIeVIYOcSMrLpNGAAeAeWIeYUeYAeYOeIIeUUeEeOeyGeGAeKOeENYeYUJeUC",
      "eENNeODDeTTEeNUNGeDAeATeAMeBUePUeHIYOeHOLOeHORReHseSSUUeSIIeVIYOcDIGIT ZzOdONEdTWOdTHREEdF",
      "OURdFIVEdSIXdSEVENdEtdNvEcNUMBz TENdTWENTYdTHIRTYdFORTYdFIFTYdSIXTYdSEVENTYdEtYdNvETY"]⟩,
   ⟨0x118FF, [
      "aWsyG CITI OMaDIVES AKURUpAdAAdIdIIdUdUUdE..dO..dKAdKHAdGAdGHAdNGAdCAdCHAdJA.dNYAdTTA.dDDA",
      "dDDHAdNNAdTAdTHAdDAdDHAdNAdPAdPHAdBAdBHAdMAdYAdYYAdRAdLAdVAdSHAdSSAdSAdHAdLLAdZAcVOWEL SIG",
      "N AAeIeIIeUeUUeE.eAIeO..cSIGN yUSVsAdCyDRABvDUdHryTAcVIRAMAcPREFIXED NASr SIGNcMEDIr YAcvI",
      "TIr RAcMEDIr RAcSIGN NUKTAcDOUBu DyDAcGAP FILuRcEND OF TEXT MsK"]⟩,
   ⟨0x11950, ["aDIVES AKURU DIGIT ZzOdONEdTWOdTHREEdFOURdFIVEdSIXdSEVENdEtdNvE"]⟩,
   ⟨0x119A0, [
      "aNyDvAGsIpAcAAcIcIIcUcUUcVOCrIC RdRR..cEcAIcOcAUcKAcKHAcGAcGHAcNGAcCAcCHAcJAcJHAcNYAcTTAcT",
      "THAcDDAcDDHAcNNAcTAcTHAcDAcDHAcNAcPAcPHAcBAcBHAcMAcYAcRAcLAcVAcSHAcSSAcSAcHAcLLAcRRAbVOWEL",
      " SIGN AAdIdIIdUdUUdVOCrIC ReRR..dEdAIdOdAUbSIGN yUSVsAcVISsGAcVIRAMAcAVAGRAHAcSIDDHAMbHEAD",
      "STROKEbVOWEL SIGN PRISHTHAMATRA E"]⟩,
   ⟨0x11A00, [
      "aZyABAZs SQUsEpAcVOWEL SIGN IeUEeUeEeOEeOeAIeAUeREVzSED IduNGTH MsKcuTTz KAdKHAdGAdGHAdNGA",
      "dCAdCHAdJAdNYAdTTAdTTHAdDDAdDDHAdNNAdTAdTHAdDAdDHAdNAdPAdPHAdBAdBHAdMAdTSAdTSHAdDZAdDZHAdZ",
      "HAdZAd-AdYAdRAdLAdVAdSHAdSSAdSAdHAdKSSAcFvr CONSONyT MsKcSIGN VIRAMAdCyDRABvDUeWITH ORNAME",
      "NTdCyDRAqORNAMENTdyUSVsAdVISsGAcCLUSTz-vITIrpRAcCLUSTz-FvrpYAeRAeLAeVAcvITIr HEAD MsKcCLOS",
      "vG HEAD MsKcMsK TSHEGdSHADdDOUBu SHADdLONG TSHEGcvITIr DOUBu-LvED HEAD MsKcCLOSvG DOUBu-Lv",
      "ED HEAD MsKcSUBJOvz"]⟩,
   ⟨0x11A50, [
      "aSOYOMBOpAbVOWEL SIGN IdUEdUdEdOdOEdAIdAUdVOCrIC ReLcuNGTH MsKbuTTz KAcKHAcGAcGHAcNGAcCAcC",
      "HAcJAcJHAcNYAcTTAcTTHAcDDAcDDHAcNNAcTAcTHAcDAcDHAcNAcPAcPHAcBAcBHAcMAcTSAcTSHAcDZAcZHAcZAc",
      "-AcYAcRAcLAcVAcSHAcSSAcSAcHAcKSSAbSIGN JIHVAMULIYAcUPADHMyIYAbCLUSTz-vITIrpRAdLAdSHAdSAbFv",
      "r CONSONyT SIGN GeKeNGeDeNeBeMeReLeSHeSe-AbSIGN yUSVsAcVISsGAbGEMvATION MsKbSUBJOvzbMsK TS",
      "HEGcSHADcDOUBu SHADcPLUTAbHEAD MsKqMOON yD SUN yD TRIPu FLAMEiFLAMEgSUNbTzMvr MsK-1cMsK-2"]⟩,
   ⟨0x11AB0, [
      "aCyADIy SYLLABICS NATTILIK HIdHIIdHOdHOOdHAdHAAdSHRIdSHRIIdSHROdSHROOdSHRAdSHRAAcSPEcSPIcS",
      "POcSPAaPAU Cv HAUpPAeKAeLAeMAeDAeZAeVAeNGAeHAeGAeKHAeSAeBAeCAeTAeTHAeNAePHAeRAeFAeCHAeAeEe",
      "IeOeUeUAeIAeFvr PfKfTfMfNfLfWfNGfYdRISvG TONE LONGeTONEdSyDHI GLOTTr STOPdRISvG TONE LONG ",
      "FvrfFvrdSyDHI GLOTTr STOP FvreTONE LONGeTONEfLONG FvrfFvrdMID-uVEL TONEdGLOTTr STOP VsIyTd",
      "MID-uVEL TONE LONG FvrfFvrdLOW-FrLvG TONE LONGeTONEdGLOTTr STOPdLOW-FrLvG TONE LONG FvrfFv",
      "rdGLOTTr STOP Fvr"]⟩,
   ⟨0x11C00, [
      "aBHAIKSUKIpAcAAcIcIIcUcUUcVOCrIC RdRRdL.cEcAIcOcAUcKAcKHAcGAcGHAcNGAcCAcCHAcJAcJHAcNYAcTTA",
      "cTTHAcDDAcDDHAcNNAcTAcTHAcDAcDHAcNAcPAcPHAcBAcBHAcMAcYAcRAcLAcVAcSHAcSSAcSAcHAbVOWEL SIGN ",
      "AAdIdIIdUdUUdVOCrIC ReRReL.dEdAIdOdAUbSIGN CyDRABvDUcyUSVsAcVISsGAcVIRAMAcAVAGRAHAbDyDAbDO",
      "UBu DyDAbWORD SEPsATORbGAP FILuR-1cFILuR-2"]⟩,
   ⟨0x11C50, [
      "aBHAIKSUKI DIGIT ZzOcONEcTWOcTHREEcFOURcFIVEcSIXcSEVENcEtcNvEbNUMBz ONEcTWOcTHREEcFOURcFIV",
      "EcSIXcSEVENcEtcNvEcTENcTWENTYcTHIRTYcFORTYcFIFTYcSIXTYcSEVENTYcEtYcNvETYbHUNDREDS UNIT MsK",
      "...aMsCHEN HEAD MsKbMsK SHADbuTTz KAcKHAcGAcNGAcCAcCHAcJAcNYAcTAcTHAcDAcNAcPAcPHAcBAcMAcTS",
      "AcTSHAcDZAcWAcZHAcZAc-AcYAcRAcLAcSHAcSAcHAcA..bSUBJOvEDpKAdKHAdGAdNGAdCAdCHAdJAdNYAdTAdTHA",
      "dDAdNAdPAdPHAdBAdMAdTSAdTSHAdDZAdWAdZHAdZA.dYAdRAdLAdSHAdSAdHAdAbVOWEL SIGN AAdIdUdEdObSIG",
      "N yUSVsAcCyDRABvDU"]⟩,
   ⟨0x11D00, [
      "aMASsAM GONDIpAdAAdIdIIdUdUUdE.dAIdO.dAUdKAdKHAdGAdGHAdNGAdCAdCHAdJAdJHAdNYAdTTAdTTHAdDDAd",
      "DDHAdNNAdTAdTHAdDAdDHAdNAdPAdPHAdBAdBHAdMAdYAdRAdLAdVAdSHAdSSAdSAdHAdLLAdKSSAdJNYAdTRAcVOW",
      "EL SIGN AAeIeIIeUeUUeVOCrIC R...eE.eAIeO.eAUcSIGN yUSVsAdVISsGAdNUKTAdCyDRAdHryTAcVIRAMAcR",
      "EPHAcRA-KsA"]⟩,
   ⟨0x11D50, ["aMASsAM GONDI DIGIT ZzOdONEdTWOdTHREEdFOURdFIVEdSIXdSEVENdEtdNvE"]⟩,
   ⟨0x11D60, [
      "aGUNJrA GONDIpAdAAdIdIIdUdUU.dEEdAI.dOOdAUdYAdVAdBAdBHAdMAdKAdKHAdTAdTHAdLAdGAdGHAdDAdDHAd",
      "NAdCAdCHAdTTAdTTHAdLLAdJAdJHAdDDAdDDHAdNGAdPAdPHAdHAdRAdSAcVOWEL SIGN AAeIeIIeUeUU.eEEeAI.",
      "eOOeAUcSIGN yUSVsAdVISsGAcVIRAMAcOM"]⟩,
   ⟨0x11DA0, ["aGUNJrA GONDI DIGIT ZzOdONEdTWOdTHREEdFOURdFIVEdSIXdSEVENdEtdNvE"]⟩,
   ⟨0x11EE0, [
      "aMAKASspKAcGAcNGAcPAcBAcMAcTAcDAcNAcCAcJAcNYAcYAcRAcLAcVAcSAcAbyGKAbVOWEL SIGN IdUdEdObPAS",
      "SIMByGbEND OF SECTION"]⟩,
   ⟨0x11FB0, ["aLISUpYHA"]⟩,
   ⟨0x11FC0, [
      "aTAMIL FRACTION ONE THREE-HUNDRED-yD-TWENTIETHdONE-HUNDRED-yD-SIXTIETHdEtIETHdSIXTY-FOURTH",
      "dFORTIETHdTHIRTY-SECONDcTHREE EtIETHSdSIXTY-FOURTHScONE TWENTIETHdSIXTEENTH-1dSIXTEENTH-2d",
      "TENTHdEtHcTHREE TWENTIETHSdSIXTEENTHScONE FIFTHdQUsTzdHrF-1dHrF-2cTHREE QUsTzScDOWNSCrvG F",
      "ACTOR KIIZHbSIGN NELcCEVITUcAAZHAAKKUcUZHAKKUcMUUVUZHAKKUcKURUNIcPATHAKKUcMUKKURUNIcKAACUc",
      "PyAMcPONcVsAAKycPAsAMcKUZHIcVELIbWET CULTIVATION SIGNbDRY CULTIVATION SIGNbLyD SIGNbSrT Py",
      " SIGNbTRADITIONr CREDIT SIGNcNUMBz SIGNbCURRENT SIGNbyD ODD SIGNbSPENT SIGNbTOTr SIGNbv PO",
      "SSESSION SIGNbSTsTvG FROM SIGNbSIGN MUTHrIYAcVAKAIYsAA"]⟩,
   ⟨0x11FFF, ["aTAMIL PUNCTUATION END OF TEXT"]⟩]

end Upkeep.Text.Names
