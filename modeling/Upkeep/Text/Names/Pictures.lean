import Upkeep.Text.Names.Packed

/-!
Names of characters: pictures, tags and variation selectors.
-/
namespace Upkeep.Text.Names

def pictures : List Run :=
  [⟨0x1F000, [
      "aMAHJONG TIu EAST WvDcSOUTH WvDcWEST WvDcNORTH WvDcRED DRAGONcGREEN DRAGONcWHITE DRAGONcON",
      "E OF CHsACTzScTWO OF CHsACTzScTHREE OF CHsACTzScFOUR OF CHsACTzScFIVE OF CHsACTzScSIX OF C",
      "HsACTzScSEVEN OF CHsACTzScEt OF CHsACTzScNvE OF CHsACTzScONE OF BAMBOOScTWO OF BAMBOOScTHR",
      "EE OF BAMBOOScFOUR OF BAMBOOScFIVE OF BAMBOOScSIX OF BAMBOOScSEVEN OF BAMBOOScEt OF BAMBOO",
      "ScNvE OF BAMBOOScONE OF CIRCuScTWO OF CIRCuScTHREE OF CIRCuScFOUR OF CIRCuScFIVE OF CIRCuS",
      "cSIX OF CIRCuScSEVEN OF CIRCuScEt OF CIRCuScNvE OF CIRCuScPLUMcORCHIDcBAMBOOcCHRYSyTHEMUMc",
      "SPRvGcSUMMzcAUTUMNcWvTzcJOKzcBACK....aDOMvO TIu HORIZONTr BACKcHORIZONTr-00-00cHORIZONTr-0",
      "0-01cHORIZONTr-00-02cHORIZONTr-00-03cHORIZONTr-00-04cHORIZONTr-00-05cHORIZONTr-00-06cHORIZ",
      "ONTr-01-00cHORIZONTr-01-01cHORIZONTr-01-02cHORIZONTr-01-03cHORIZONTr-01-04cHORIZONTr-01-05",
      "cHORIZONTr-01-06cHORIZONTr-02-00cHORIZONTr-02-01cHORIZONTr-02-02cHORIZONTr-02-03cHORIZONTr",
      "-02-04cHORIZONTr-02-05cHORIZONTr-02-06cHORIZONTr-03-00cHORIZONTr-03-01cHORIZONTr-03-02cHOR",
      "IZONTr-03-03cHORIZONTr-03-04cHORIZONTr-03-05cHORIZONTr-03-06cHORIZONTr-04-00cHORIZONTr-04-",
      "01cHORIZONTr-04-02cHORIZONTr-04-03cHORIZONTr-04-04cHORIZONTr-04-05cHORIZONTr-04-06cHORIZON",
      "Tr-05-00cHORIZONTr-05-01cHORIZONTr-05-02cHORIZONTr-05-03cHORIZONTr-05-04cHORIZONTr-05-05cH",
      "ORIZONTr-05-06cHORIZONTr-06-00cHORIZONTr-06-01cHORIZONTr-06-02cHORIZONTr-06-03cHORIZONTr-0",
      "6-04cHORIZONTr-06-05cHORIZONTr-06-06cVzTICr BACKcVzTICr-00-00cVzTICr-00-01cVzTICr-00-02cVz",
      "TICr-00-03cVzTICr-00-04cVzTICr-00-05cVzTICr-00-06cVzTICr-01-00cVzTICr-01-01cVzTICr-01-02cV",
      "zTICr-01-03cVzTICr-01-04cVzTICr-01-05cVzTICr-01-06cVzTICr-02-00cVzTICr-02-01cVzTICr-02-02c",
      "VzTICr-02-03cVzTICr-02-04cVzTICr-02-05cVzTICr-02-06cVzTICr-03-00cVzTICr-03-01cVzTICr-03-02",
      "cVzTICr-03-03cVzTICr-03-04cVzTICr-03-05cVzTICr-03-06cVzTICr-04-00cVzTICr-04-01cVzTICr-04-0",
      "2cVzTICr-04-03cVzTICr-04-04cVzTICr-04-05cVzTICr-04-06cVzTICr-05-00cVzTICr-05-01cVzTICr-05-",
      "02cVzTICr-05-03cVzTICr-05-04cVzTICr-05-05cVzTICr-05-06cVzTICr-06-00cVzTICr-06-01cVzTICr-06",
      "-02cVzTICr-06-03cVzTICr-06-04cVzTICr-06-05cVzTICr-06-06"]⟩,
   ⟨0x1F0A0, [
      "aPLAYvG CsD BACKcACE OF SPADEScTWO OF SPADEScTHREE OF SPADEScFOUR OF SPADEScFIVE OF SPADES",
      "cSIX OF SPADEScSEVEN OF SPADEScEt OF SPADEScNvE OF SPADEScTEN OF SPADEScJACK OF SPADEScKNt",
      " OF SPADEScQUEEN OF SPADEScKvG OF SPADES..cACE OF HEsTScTWO OF HEsTScTHREE OF HEsTScFOUR O",
      "F HEsTScFIVE OF HEsTScSIX OF HEsTScSEVEN OF HEsTScEt OF HEsTScNvE OF HEsTScTEN OF HEsTScJA",
      "CK OF HEsTScKNt OF HEsTScQUEEN OF HEsTScKvG OF HEsTScRED JOKz.cACE OF DIAMONDScTWO OF DIAM",
      "ONDScTHREE OF DIAMONDScFOUR OF DIAMONDScFIVE OF DIAMONDScSIX OF DIAMONDScSEVEN OF DIAMONDS",
      "cEt OF DIAMONDScNvE OF DIAMONDScTEN OF DIAMONDScJACK OF DIAMONDScKNt OF DIAMONDScQUEEN OF ",
      "DIAMONDScKvG OF DIAMONDScBLACK JOKz.cACE OF CLUBScTWO OF CLUBScTHREE OF CLUBScFOUR OF CLUB",
      "ScFIVE OF CLUBScSIX OF CLUBScSEVEN OF CLUBScEt OF CLUBScNvE OF CLUBScTEN OF CLUBScJACK OF ",
      "CLUBScKNt OF CLUBScQUEEN OF CLUBScKvG OF CLUBScWHITE JOKzcFOOLcTRUMP-1cTRUMP-2cTRUMP-3cTRU",
      "MP-4cTRUMP-5cTRUMP-6cTRUMP-7cTRUMP-8cTRUMP-9cTRUMP-10cTRUMP-11cTRUMP-12cTRUMP-13cTRUMP-14c",
      "TRUMP-15cTRUMP-16cTRUMP-17cTRUMP-18cTRUMP-19cTRUMP-20cTRUMP-21"]⟩,
   ⟨0x1F100, [
      "aDIGIT ZzO FULL STOPcCOMMAbONE COMMAbTWO COMMAbTHREE COMMAbFOUR COMMAbFIVE COMMAbSIX COMMA",
      "bSEVEN COMMAbEt COMMAbNvE COMMAaDvGBAT CIRCuD SyS-SzIF DIGIT ZzObNEGATIVE CIRCuD SyS-SzIF ",
      "DIGIT ZzOaCIRCuD ZzOqSLASHbyTICLOCKWISE sROWbDOLLs SIGNqOVzLAID BACKSLASHaPsENTHESIZED LAT",
      "v xLpAeBeCeDeEeFeGeHeIeJeKeLeMeNeOePeQeReSeTeUeVeWeXeYeZaTORTOISE SHELL BRACKETED LATv xLp",
      "SaCIRCuD ITrIC LATv xLpCfRbCDbWZaCOPYuFT SYMBOLaSQUsED LATv xLpAeBeCeDeEeFeGeHeIeJeKeLeMeN",
      "eOePeQeReSeTeUeVeWeXeYeZbHVbMVbSDbSSbPPVbWCaNEGATIVE CIRCuD LATv xLpAfBfCfDfEfFfGfHfIfJfKf",
      "LfMfNfOfPfQfRfSfTfUfVfWfXfYfZaRAISED MC SIGNbMD SIGNbMR SIGNaCIRCuD CCbCqOVzLAID BACKSLASH",
      "bHUMy FIGUREaNEGATIVE SQUsED LATv xLpAfBfCfDfEfFfGfHfIfJfKfLfMfNfOfPfQfRfSfTfUfVfWfXfYfZaC",
      "ROSSED NEGATIVE SQUsED LATv xLpPaNEGATIVE SQUsED ICcPAcSAcABcWCaSQUsE DJaSQUsED CLbCOOLbFR",
      "EEbIDbNEWbNGbOKbSOSbUPqEXCLAMATION MsKbVSbTHREE DbSECOND SCREENbTWO KbFOUR KbEt KbFIVE POv",
      "T ONEbSEVEN POvT ONEbTWENTY-TWO POvT TWObSIXTY PbONE HUNDRED TWENTY PbLATv SMrLpDbHCbHDRbH",
      "I-RESbLOSSuSSbSHVbUHDbVODaMASK WORK SYMBOL"]⟩,
   ⟨0x1F1E6, [
      "aREGIONr vDICATOR SYMBOLpAeBeCeDeEeFeGeHeIeJeKeLeMeNeOePeQeReSeTeUeVeWeXeYeZaSQUsE HIRAGyA",
      " HOKAaSQUsED KATAKyA KOKOcSA"]⟩,
   ⟨0x1F210, [
      "aSQUsED CJK UNIFIED IDEOGRAPH-624BdIDEOGRAPH-5B57dIDEOGRAPH-53CCbKATAKyA DEbCJK UNIFIED ID",
      "EOGRAPH-4E8CdIDEOGRAPH-591AdIDEOGRAPH-89E3dIDEOGRAPH-5929dIDEOGRAPH-4EA4dIDEOGRAPH-6620dID",
      "EOGRAPH-7121dIDEOGRAPH-6599dIDEOGRAPH-524DdIDEOGRAPH-5F8CdIDEOGRAPH-518DdIDEOGRAPH-65B0dID",
      "EOGRAPH-521DdIDEOGRAPH-7D42dIDEOGRAPH-751FdIDEOGRAPH-8CA9dIDEOGRAPH-58F0dIDEOGRAPH-5439dID",
      "EOGRAPH-6F14dIDEOGRAPH-6295dIDEOGRAPH-6355dIDEOGRAPH-4E00dIDEOGRAPH-4E09dIDEOGRAPH-904AdID",
      "EOGRAPH-5DE6dIDEOGRAPH-4E2DdIDEOGRAPH-53F3dIDEOGRAPH-6307dIDEOGRAPH-8D70dIDEOGRAPH-6253dID",
      "EOGRAPH-7981dIDEOGRAPH-7A7AdIDEOGRAPH-5408dIDEOGRAPH-6E80dIDEOGRAPH-6709dIDEOGRAPH-6708dID",
      "EOGRAPH-7533dIDEOGRAPH-5272dIDEOGRAPH-55B6dIDEOGRAPH-914D....aTORTOISE SHELL BRACKETED CJK",
      " UNIFIED IDEOGRAPH-672CfIDEOGRAPH-4E09fIDEOGRAPH-4E8CfIDEOGRAPH-5B89fIDEOGRAPH-70B9fIDEOGR",
      "APH-6253fIDEOGRAPH-76D7fIDEOGRAPH-52DDfIDEOGRAPH-6557"]⟩,
   ⟨0x1F250, ["aCIRCuD IDEOGRAPH ADVyTAGEcACCEPT"]⟩,
   ⟨0x1F260, ["aROUNDED SYMBOL FOR FUdLUdSHOUdXIdSHUyGXIdCAI"]⟩,
   ⟨0x1F300, [
      "aCYCLONEaFOGGYaCLOSED UMBRELLAaNtqSTsSaSUNRISE OVz MOUNTAvSaSUNRISEaCITYSCAPE AT DUSKaSUNS",
      "ET OVz BUILDvGSaRAvBOWaBRIDGE AT NtaWATz WAVEaVOLCyOaMILKY WAYaEsTH GLOBE EUROPE-AFRICAcAM",
      "zICAScASIA-AUSTRrIAaGLOBEqMzIDIySaNEW MOON SYMBOLaWAXvG CRESCENT MOON SYMBOLaFIRST QUsTz M",
      "OON SYMBOLaWAXvG GIBBOUS MOON SYMBOLaFULL MOON SYMBOLaWyvG GIBBOUS MOON SYMBOLaLAST QUsTz ",
      "MOON SYMBOLaWyvG CRESCENT MOON SYMBOLaCRESCENT MOONaNEW MOONqFACEaFIRST QUsTz MOONqFACEaLA",
      "ST QUsTz MOONqFACEaFULL MOONqFACEaSUNqFACEaGLOWvG STsaSHOOTvG STsaTHzMOMETzaBLACK DROPuTaW",
      "HITE SUNcWITH SMrL CLOUDcBEHvD CLOUDeWITH RAvaCLOUDqRAvcSNOWcLtNvGcTORNADOaFOGaWvD BLOWvG ",
      "FACEaHOT DOGaTACOaBURRITOaCHESTNUTaSEEDLvGaEVzGREEN TREEaDECIDUOUS TREEaPrM TREEaCACTUSaHO",
      "T PEPPzaTULIPaCHzRY BLOSSOMaROSEaHIBISCUSaSUNFLOWzaBLOSSOMaEs OF MAIZEcRICEaHzBaFOUR uAF C",
      "LOVzaMAPu uAFaFruN uAFauAF FLUTTzvG v WvDaMUSHROOMaTOMATOaAUBzGvEaGRAPESaMELONaWATzMELONaT",
      "yGzvEauMONaByyAaPvEAPPuaRED APPuaGREEN APPuaPEsaPEACHaCHzRIESaSTRAWBzRYaHAMBURGzaSLICE OF ",
      "PIZZAaMEAT ON BONEaPOULTRY uGaRICE CRACKzbBrLaCOOKED RICEaCURRY yD RICEaSTEAMvG BOWLaSPAGH",
      "ETTIaBREADaFRENCH FRIESaROASTED SWEET POTATOaDyGOaODENaSUSHIaFRIED SHRIMPaFISH CAKEqSWIRL ",
      "DESIGNaSOFT ICE CREAMaSHAVED ICEaICE CREAMaDOUGHNUTaCOOKIEaCHOCOLATE BsaCyDYaLOLLIPOPaCUST",
      "sDaHONEY POTaSHORTCAKEaBENTO BOXaPOT OF FOODaCOOKvGaFORK yD KNIFEaTEACUP WITHOUT HyDuaSAKE",
      " BOTTu yD CUPaWvE GLASSaCOCKTAIL GLASSaTROPICr DRvKaBEz MUGaCLvKvG BEz MUGSaBABY BOTTuaFOR",
      "K yD KNIFEqPLATEaBOTTuqPOPPvG CORKaPOPCORNaRIBBONaWRAPPED PRESENTaBIRTHDAY CAKEaJACK-O-LyT",
      "zNaCHRISTMAS TREEaFATHz CHRISTMASaFIREWORKSaFIREWORK SPsKuRaBrLOONaPsTY POPPzaCONFETTI BrL",
      "aTyABATA TREEaCROSSED FLAGSaPvE DECORATIONaJAPyESE DOLLSaCsP STREAMzaWvD CHIMEaMOON VIEWvG",
      " CzEMONYaSCHOOL SATCHELaGRADUATION CAPaHEsTqTIP ON THE uFTaBOUQUET OF FLOWzSaMILITsY MEDra",
      "REMvDz RIBBONaMUSICr KEYBOsDqJACKSaSTUDIO MICROPHONEauVEL SLIDzaCONTROL KNOBSaBEAMED ASCEN",
      "DvG MUSICr NOTESbDESCENDvG MUSICr NOTESaFILM FRAMESaADMISSION TICKETSaCsOUSEL HORSEaFzRIS ",
      "WHEELaROLuR COASTzaFISHvG POu yD FISHaMICROPHONEaMOVIE CAMzAaCvEMAaHEADPHONEasTIST PrETTEa",
      "TOP HATaCIRCUS TENTaTICKETaCLAPPz BOsDaPzFORMvG sTSaVIDEO GAMEaDIRECT HITaSLOT MACHvEaBILL",
      "IsDSaGAME DIEaBOWLvGaFLOWz PLAYvG CsDSaMUSICr NOTEaMULTIPu MUSICr NOTESaSAXOPHONEaGUITsaMU",
      "SICr KEYBOsDaTRUMPETaVIOLvaMUSICr SCOREaRUNNvG SHIRTqSASHaTENNIS RACQUET yD BrLaSKI yD SKI",
      " BOOTaBASKETBrL yD HOOPaCHEQUzED FLAGaSNOWBOsDzaRUNNzaSURFzaSPORTS MEDraTROPHYaHORSE RACvG",
      "aAMzICy FOOTBrLaRUGBY FOOTBrLaSWIMMzaWEt LIFTzaGOLFzaRACvG MOTORCYCubCsaCRICKET BAT yD BrL",
      "aVOLuYBrLaFIELD HOCKEY STICK yD BrLaICE HOCKEY STICK yD PUCKaTABu TENNIS PADDu yD BrLaSNOW",
      " CAPPED MOUNTAvaCAMPvGaBEACHqUMBRELLAaBUILDvG CONSTRUCTIONaHOUSE BUILDvGSaCITYSCAPEaDzELIC",
      "T HOUSE BUILDvGaCLASSICr BUILDvGaDESzTbISLyDaNATIONr PsKaSTADIUMaHOUSE BUILDvGbWITH GsDENa",
      "OFFICE BUILDvGaJAPyESE POST OFFICEaEUROPEy POST OFFICEaHOSPITraByKaAUTOMATED TELuR MACHvEa",
      "HOTELaLOVE HOTELaCONVENIENCE STOREaSCHOOLaDEPsTMENT STOREaFACTORYaIZAKAYA LyTzNaJAPyESE CA",
      "STuaEUROPEy CASTuaWHITE PENNyTaBLACK PENNyTaWAVvG WHITE FLAGbBLACK FLAGaROSETTEaBLACK ROSE",
      "TTEaLABELaBADMvTON RACQUET yD SHUTTuCOCKaBOW yD sROWaAMPHORAaEMOJI MODIFIz FITZPATRICK TYP",
      "E-1-2dTYPE-3dTYPE-4dTYPE-5dTYPE-6aRATaMOUSEaOXaWATz BUFFrOaCOWaTIGzauOPsDaRABBITaCATaDRAGO",
      "NaCROCODIuaWHrEaSNAILaSNAKEaHORSEaRAMaGOATaSHEEPaMONKEYaROOSTzaCHICKENaDOGaPIGaBOsaEuPHyTa",
      "OCTOPUSaSPIRr SHELLaBUGayTaHONEYBEEaLADY BEETuaFISHaTROPICr FISHaBLOWFISHaTURTuaHATCHvG CH",
      "ICKaBABY CHICKaFRONT-FACvG BABY CHICKaBIRDaPENGUvaKOrAaPOODuaDROMEDsY CAMELaBACTRIy CAMELa",
      "DOLPHvaMOUSE FACEaCOW FACEaTIGz FACEaRABBIT FACEaCAT FACEaDRAGON FACEaSPOUTvG WHrEaHORSE F",
      "ACEaMONKEY FACEaDOG FACEaPIG FACEaFROG FACEaHAMSTz FACEaWOLF FACEaBEs FACEaPyDA FACEaPIG N",
      "OSEaPAW PRvTSaCHIPMUNKaEYESaEYEaEsaNOSEaMOUTHaTONGUEaWHITE UP POvTvG BACKHyD vDEXbDOWN POv",
      "TvG BACKHyD vDEXbuFT POvTvG BACKHyD vDEXbRt POvTvG BACKHyD vDEXaFISTED HyD SIGNaWAVvG HyD ",
      "SIGNaOK HyD SIGNaTHUMBS UP SIGNbDOWN SIGNaCLAPPvG HyDS SIGNaOPEN HyDS SIGNaCROWNaWOMyS HAT",
      "aEYEGLASSESaNECKTIEaT-SHIRTaJEySaDRESSaKIMONOaBIKvIaWOMyS CLOTHESaPURSEaHyDBAGaPOUCHaMyS S",
      "HOEaATHuTIC SHOEaHIGH-HEEuD SHOEaWOMyS SyDrbBOOTSaFOOTPRvTSaBUST v SILHOUETTEaBUSTS v SILH",
      "OUETTEaBOYaGIRLaMyaWOMyaFAMILYaMy yD WOMy HOLDvG HyDSaTWO MEN HOLDvG HyDSbWOMEN HOLDvG HyD",
      "SaPOLICE OFFICzaWOMyqBUNNY EsSaBRIDEqVEILaPzSONqBLOND HAIRaMyqGUA PI MAOcTURByaOLDz MybWOM",
      "yaBABYaCONSTRUCTION WORKzaPRvCESSaJAPyESE OGREbGOBLvaGHOSTaBABY yGELaEXTRATzRESTRIr rIENar",
      "IEN MONSTzaIMPaSKULLavFORMATION DESK PzSONaGUsDSMyaDyCzaLIPSTICKaNAIL POLISHaFACE MASSAGEa",
      "HAIRCUTaBsBz POuaSYRvGEaPILLaKISS MsKaLOVE uTTzaRvGaGEM STONEaKISSaBOUQUETaCOUPuqHEsTaWEDD",
      "vGaBEATvG HEsTaBROKEN HEsTaTWO HEsTSaSPsKLvG HEsTaGROWvG HEsTaHEsTqsROWaBLUE HEsTaGREEN HE",
      "sTaYELLOW HEsTaPURPu HEsTaHEsTqRIBBONaREVOLVvG HEsTSaHEsT DECORATIONaDIAMOND SHAPEqA DOT v",
      "SIDEaEuCTRIC Lt BULBayGz SYMBOLaBOMBaSuEPvG SYMBOLaCOLLISION SYMBOLaSPLASHvG SWEAT SYMBOLa",
      "DROPuTaDASH SYMBOLaPIu OF POOaFuXED BICEPSaDIZZY SYMBOLaSPEECH BrLOONaTHOUGHT BrLOONaWHITE",
      " FLOWzaHUNDRED POvTS SYMBOLaMONEY BAGaCURRENCY EXCHyGEaHEAVY DOLLs SIGNaCREDIT CsDaByKNOTE",
      "qYEN SIGNcDOLLs SIGNcEURO SIGNcPOUND SIGNaMONEYqWvGSaCHsTqUPWsDS TREND yD YEN SIGNaSEATaPz",
      "SONr COMPUTzaBRIEFCASEaMvIDISCaFLOPPY DISKaOPTICr DISCaDVDaFIu FOLDzaOPEN FIu FOLDzaPAGEqC",
      "URLbFACvG UPaCrENDsaTEs-OFF CrENDsaCsD vDEXaCHsTqUPWsDS TRENDcDOWNWsDS TRENDaBs CHsTaCLIPB",
      "OsDaPUSHPvaROUND PUSHPvaPAPzCLIPaSTRAt RUuRaTRIyGULs RUuRaBOOKMsK TABSauDGzaNOTEBOOKbWITH ",
      "DECORATIVE COVzaCLOSED BOOKaOPEN BOOKaGREEN BOOKaBLUE BOOKaORyGE BOOKaBOOKSaNAME BADGEaSCR",
      "OLLaMEMOaTEuPHONE RECEIVzaPAGzaFAX MACHvEaSATELLITE yTENNAaPUBLIC ADDRESS LOUDSPEAKzaCHEzv",
      "G MEGAPHONEaOUTBOX TRAYavBOX TRAYaPACKAGEaE-MAIL SYMBOLavCOMvG ENVELOPEaENVELOPEqDOWNWsDS ",
      "sROW ABOVEaCLOSED MAILBOXqLOWzED FLAGdRAISED FLAGaOPEN MAILBOXqRAISED FLAGdLOWzED FLAGaPOS",
      "TBOXaPOSTr HORNaNEWSPAPzaMOBIu PHONEcWITH RtWsDS sROW AT uFTaVIBRATION MODEaMOBIu PHONE OF",
      "FaNO MOBIu PHONESayTENNAqBsSaCAMzAbWITH FLASHaVIDEO CAMzAaTEuVISIONaRADIOaVIDEOCASSETTEaFI",
      "LM PROJECTORaPORTABu STzEOaPRAYz BEADSaTWISTED RtWsDS sROWSaCLOCKWISE RtWsDS yD uFTWsDS OP",
      "EN CIRCu sROWShWITH CIRCuD ONE OVzLAYbDOWNWsDS yD UPWsDS OPEN CIRCu sROWSayTICLOCKWISE DOW",
      "NWsDS yD UPWsDS OPEN CIRCu sROWSaLOW BRtNESS SYMBOLaHIGH BRtNESS SYMBOLaSPEAKzqCyCELLATION",
      " STROKEaSPEAKzbWITH ONE SOUND WAVEcTHREE SOUND WAVESaBATTzYaEuCTRIC PLUGauFT-POvTvG MAGNIF",
      "YvG GLASSaRt-POvTvG MAGNIFYvG GLASSaLOCKqvK PENaCLOSED LOCKqKEYaKEYaLOCKaOPEN LOCKaBELLbWI",
      "TH CyCELLATION STROKEaBOOKMsKaLvK SYMBOLaRADIO BUTTONaBACKquFTWsDS sROW ABOVEaENDquFTWsDS ",
      "sROW ABOVEaONqEXCLAMATION MsKquFT Rt sROW ABOVEaSOONqRtWsDS sROW ABOVEaTOPqUPWsDS sROW ABO",
      "VEaNO ONE UNDz EtEEN SYMBOLaKEYCAP TENavPUT SYMBOL FOR LATv xL uTTzSeSMrL uTTzSdNUMBzSdSYM",
      "BOLSdLATv uTTzSaFIREaEuCTRIC TORCHaWRENCHaHAMMzaNUT yD BOLTaHOCHOaPISTOLaMICROSCOPEaTEuSCO",
      "PEaCRYSTr BrLaSIX POvTED STsqMIDDu DOTaJAPyESE SYMBOL FOR BEGvNzaTRIDENT EMBuMaBLACK SQUsE",
      " BUTTONaWHITE SQUsE BUTTONaLsGE RED CIRCubBLUE CIRCubORyGE DIAMONDbBLUE DIAMONDaSMrL ORyGE",
      " DIAMONDbBLUE DIAMONDaUP-POvTvG RED TRIyGuaDOWN-POvTvG RED TRIyGuaUP-POvTvG SMrL RED TRIyG",
      "uaDOWN-POvTvG SMrL RED TRIyGuaLOWz Rt SHADOWED WHITE CIRCuaUPPz Rt SHADOWED WHITE CIRCuaCI",
      "RCuD CROSS POMMEEaCROSS POMMEEqHrF-CIRCu BELOWbPOMMEEaNOTCHED uFT SEMICIRCuqTHREE DOTSbRt ",
      "SEMICIRCuqTHREE DOTSaSYMBOL FOR MsKS CHAPTzaWHITE LATv CROSSaHEAVY LATv CROSSaCELTIC CROSS",
      "aOM SYMBOLaDOVE OF PEACEaKAABAaMOSQUEaSYNAGOGUEaMENORAHqNvE BRyCHESaBOWL OF HYGIEIAaCLOCK ",
      "FACE ONE OCLOCKcTWO OCLOCKcTHREE OCLOCKcFOUR OCLOCKcFIVE OCLOCKcSIX OCLOCKcSEVEN OCLOCKcEt",
      " OCLOCKcNvE OCLOCKcTEN OCLOCKcEuVEN OCLOCKcTWELVE OCLOCKcONE-THIRTYcTWO-THIRTYcTHREE-THIRT",
      "YcFOUR-THIRTYcFIVE-THIRTYcSIX-THIRTYcSEVEN-THIRTYcEt-THIRTYcNvE-THIRTYcTEN-THIRTYcEuVEN-TH",
      "IRTYcTWELVE-THIRTYaRt SPEAKzcWITH ONE SOUND WAVEdTHREE SOUND WAVESaBULLHORNbWITH SOUND WAV",
      "ESaRvGvG BELLaBOOKaCyDuaMyTELPIECE CLOCKaBLACK SKULL yD CROSSBONESaNO PIRACYaHOuaMy v BUSv",
      "ESS SUIT uVITATvGaSuUTH OR SPYaDsK SUNGLASSESaSPIDzbWEBaJOYSTICKaMy DyCvGauFT HyD TEuPHONE",
      " RECEIVzaTEuPHONE RECEIVzqPAGEaRt HyD TEuPHONE RECEIVzaWHITE TOUCHTONE TEuPHONEaBLACK TOUC",
      "HTONE TEuPHONEaTEuPHONE ON TOP OF MODEMaCLAMSHELL MOBIu PHONEaBACK OF ENVELOPEaSTAMPED ENV",
      "ELOPEaENVELOPEqLtNvGaFLYvG ENVELOPEaPEN OVz STAMPED ENVELOPEaLvKED PAPzCLIPSaBLACK PUSHPva",
      "LOWz uFT PENCILcBrLPOvT PENcFOUNTAv PENcPAvTBRUSHcCRAYONauFT WRITvG HyDaTURNED OK HyD SIGN",
      "aRAISED HyDqFvGzS SPLAYEDaREVzSED RAISED HyDqFvGzS SPLAYEDbTHUMBS UP SIGNcDOWN SIGNbVICTOR",
      "Y HyDbHyDqMIDDu FvGz EXTENDEDaRAISED HyDqPsT BETWEEN MIDDu yD RvG FvGzSaWHITE DOWN POvTvG ",
      "uFT HyD vDEXaSIDEWAYS WHITE uFT POvTvG vDEXcRt POvTvG vDEXbBLACK uFT POvTvG vDEXcRt POvTvG",
      " vDEXaBLACK uFT POvTvG BACKHyD vDEXbRt POvTvG BACKHyD vDEXaSIDEWAYS WHITE UP POvTvG vDEXcD",
      "OWN POvTvG vDEXbBLACK UP POvTvG vDEXcDOWN POvTvG vDEXaBLACK UP POvTvG BACKHyD vDEXbDOWN PO",
      "vTvG BACKHyD vDEXbHEsTaDESKTOP COMPUTzaKEYBOsD yD MOUSEaTHREE NETWORKED COMPUTzSaPRvTzaPOC",
      "KET CrCULATORaBLACK HsD SHELL FLOPPY DISKaWHITE HsD SHELL FLOPPY DISKaSOFT SHELL FLOPPY DI",
      "SKaTAPE CsTRIDGEaWIRED KEYBOsDaONE BUTTON MOUSEaTWO BUTTON MOUSEaTHREE BUTTON MOUSEaTRACKB",
      "rLaOLD PzSONr COMPUTzaHsD DISKaSCREENaPRvTz ICONaFAX ICONaOPTICr DISC ICONaDOCUMENTqTEXTdy",
      "D PICTUREcPICTUREaFRAMEqPICTUREcTIuScy XaBLACK FOLDzaFOLDzaOPEN FOLDzaCsD vDEX DIVIDzSbFIu",
      " BOXaFIu CABvETaEMPTY NOTEcPAGEcPADaNOTEbPAGEbPADaEMPTY DOCUMENTbPAGEbPAGESaDOCUMENTaPAGEa",
      "PAGESaWASTEBASKETaSPIRr NOTE PADbCrENDs PADaDESKTOP WvDOWaMvIMIZEaMAXIMIZEaOVzLAPaCLOCKWIS",
      "E Rt yD uFT SEMICIRCu sROWSaCyCELLATION XavCREASE FONT SIZE SYMBOLaDECREASE FONT SIZE SYMB",
      "OLaCOMPRESSIONaOLD KEYaROLuD-UP NEWSPAPzaPAGEqCIRCuD TEXTaSTOCK CHsTaDAGGz KNIFEaLIPSaSPEA",
      "KvG HEAD v SILHOUETTEaTHREE RAYS ABOVEcBELOWcuFTcRtauFT SPEECH BUBBuaRt SPEECH BUBBuaTWO S",
      "PEECH BUBBuSaTHREE SPEECH BUBBuSauFT THOUGHT BUBBuaRt THOUGHT BUBBuauFT yGz BUBBuaRt yGz B",
      "UBBuaMOOD BUBBuaLtNvG MOOD BUBBubMOODaBrLOT BOXqBrLOTbSCRIPT XbBOXqSCRIPT XbBOLD SCRIPT Xb",
      "BOXqBOLD SCRIPT XaLt CHECK MsKaBrLOT BOXqBOLD CHECKaWORLD MAPaMOUNT FUJIaTOKYO TOWzaSTATUE",
      " OF LIBzTYaSILHOUETTE OF JAPyaMOYAIaGRvNvG FACEcWITH SMILvG EYESaFACEqTEsS OF JOYaSMILvG F",
      "ACEqOPEN MOUTHfyD SMILvG EYESgCOLD SWEATgTtLY-CLOSED EYESdHrOdHORNSaWvKvG FACEaSMILvG FACE",
      "qSMILvG EYESaFACE SAVOURvG DELICIOUS FOODaRELIEVED FACEaSMILvG FACEqHEsT-SHAPED EYESdSUNGL",
      "ASSESaSMIRKvG FACEaNEUTRr FACEaEXPRESSIONuSS FACEaUNAMUSED FACEaFACEqCOLD SWEATaPENSIVE FA",
      "CEaCONFUSED FACEaCONFOUNDED FACEaKISSvG FACEaFACE THROWvG A KISSaKISSvG FACEqSMILvG EYESdC",
      "LOSED EYESaFACEqSTUCK-OUT TONGUEeyD WvKvG EYEfTtLY-CLOSED EYESaDISAPPOvTED FACEaWORRIED FA",
      "CEayGRY FACEaPOUTvG FACEaCRYvG FACEaPzSEVzvG FACEaFACEqLOOK OF TRIUMPHaDISAPPOvTED BUT REL",
      "IEVED FACEaFROWNvG FACEqOPEN MOUTHayGUISHED FACEaFEsFUL FACEaWEsY FACEaSuEPY FACEaTIRED FA",
      "CEaGRIMACvG FACEaLOUDLY CRYvG FACEaFACEqOPEN MOUTHaHUSHED FACEaFACEqOPEN MOUTH yD COLD SWE",
      "ATbSCREAMvG v FEsaASTONISHED FACEaFLUSHED FACEaSuEPvG FACEaDIZZY FACEaFACE WITHOUT MOUTHbW",
      "ITH MEDICr MASKaGRvNvG CAT FACEqSMILvG EYESaCAT FACEqTEsS OF JOYaSMILvG CAT FACEqOPEN MOUT",
      "HeHEsT-SHAPED EYESaCAT FACEqWRY SMIuaKISSvG CAT FACEqCLOSED EYESaPOUTvG CAT FACEaCRYvG CAT",
      " FACEaWEsY CAT FACEaSLtLY FROWNvG FACEbSMILvG FACEaUPSIDE-DOWN FACEaFACEqROLLvG EYEScNO GO",
      "OD GESTUREcOK GESTUREaPzSON BOWvG DEEPLYaSEE-NO-EVIL MONKEYaHEs-NO-EVIL MONKEYaSPEAK-NO-EV",
      "IL MONKEYaHAPPY PzSON RAISvG ONE HyDaPzSON RAISvG BOTH HyDS v CEuBRATIONbFROWNvGbWITH POUT",
      "vG FACEcFOLDED HyDSaNORTH WEST POvTvG uAFaSOUTH WEST POvTvG uAFaNORTH EAST POvTvG uAFaSOUT",
      "H EAST POvTvG uAFaTURNED NORTH WEST POvTvG uAFbSOUTH WEST POvTvG uAFbNORTH EAST POvTvG uAF",
      "bSOUTH EAST POvTvG uAFaNORTH WEST POvTvG VvE uAFaSOUTH WEST POvTvG VvE uAFaNORTH EAST POvT",
      "vG VvE uAFaSOUTH EAST POvTvG VvE uAFaHEAVY NORTH WEST POvTvG VvE uAFbSOUTH WEST POvTvG VvE",
      " uAFbNORTH EAST POvTvG VvE uAFbSOUTH EAST POvTvG VvE uAFaNORTH WEST POvTvG BUDaSOUTH WEST ",
      "POvTvG BUDaNORTH EAST POvTvG BUDaSOUTH EAST POvTvG BUDaHEAVY NORTH WEST POvTvG BUDbSOUTH W",
      "EST POvTvG BUDbNORTH EAST POvTvG BUDbSOUTH EAST POvTvG BUDaHOLLOW QUILT SQUsE ORNAMENTev B",
      "LACK SQUsEaSOLID QUILT SQUsE ORNAMENTev BLACK SQUsEauFTWsDS ROCKETaUPWsDS ROCKETaRtWsDS RO",
      "CKETaDOWNWsDS ROCKETaSCRIPT LIGATURE ET ORNAMENTaHEAVY SCRIPT LIGATURE ET ORNAMENTaLIGATUR",
      "E OPEN ET ORNAMENTaHEAVY LIGATURE OPEN ET ORNAMENTbAMPzSyD ORNAMENTaSWASH AMPzSyD ORNAMENT",
      "aSyS-SzIF HEAVY DOUBu TURNED COMMA QUOTATION MsK ORNAMENTdCOMMA QUOTATION MsK ORNAMENTcLOW",
      " DOUBu COMMA QUOTATION MsK ORNAMENTaHEAVY vTzROByG ORNAMENTaSyS-SzIF vTzROByG ORNAMENTaHEA",
      "VY SyS-SzIF vTzROByG ORNAMENTaVzY HEAVY SOLIDUScREVzSE SOLIDUSaCHECKz BOsDaREVzSE CHECKz B",
      "OsDaROCKETaHELICOPTzaSTEAM LOCOMOTIVEaRAILWAY CsaHIGH-SPEED TRAvcWITH BULuT NOSEaTRAvaMETR",
      "OaLt RAILaSTATIONaTRAMbCsaBUSaONCOMvG BUSaTROLuYBUSaBUS STOPaMvIBUSaAMBULyCEaFIRE ENGvEaPO",
      "LICE CsaONCOMvG POLICE CsaTAXIaONCOMvG TAXIaAUTOMOBIuaONCOMvG AUTOMOBIuaRECREATIONr VEHICu",
      "aDELIVzY TRUCKasTICULATED LORRYaTRACTORaMONORAILaMOUNTAv RAILWAYaSUSPENSION RAILWAYaMOUNTA",
      "v CABuWAYaAzIr TRAMWAYaSHIPaROWBOATaSPEEDBOATaHORIZONTr TRAFFIC LtaVzTICr TRAFFIC LtaCONST",
      "RUCTION SIGNaPOLICE CsS REVOLVvG LtaTRIyGULs FLAG ON POSTaDOORaNO ENTRY SIGNaSMOKvG SYMBOL",
      "aNO SMOKvG SYMBOLaPUT LITTz v ITS PLACE SYMBOLaDO NOT LITTz SYMBOLaPOTABu WATz SYMBOLaNON-",
      "POTABu WATz SYMBOLaBICYCuaNO BICYCuSaBICYCLISTaMOUNTAv BICYCLISTaPEDESTRIyaNO PEDESTRIySaC",
      "HILDREN CROSSvGaMENS SYMBOLaWOMENS SYMBOLaRESTROOMaBABY SYMBOLaTOIuTaWATz CLOSETaSHOWzaBAT",
      "HaBATHTUBaPASSPORT CONTROLaCUSTOMSaBAGGAGE CLAIMauFT LUGGAGEaTRIyGuqROUNDED CORNzSaPROHIBI",
      "TED SIGNaCIRCuD vFORMATION SOURCEaBOYS SYMBOLaGIRLS SYMBOLaCOUCH yD LAMPaSuEPvG ACCOMMODAT",
      "IONaSHOPPvG BAGSaBELLHOP BELLaBEDaPLACE OF WORSHIPaOCTAGONr SIGNaSHOPPvG TROLuYaSTUPAaPAGO",
      "DAaHvDU TEMPuaHUTaEuVATOR.....aPLAYGROUND SLIDEaWHEELaRvG BUOYaHAMMz yD WRENCHaSHIELDaOIL ",
      "DRUMaMOTORWAYaRAILWAY TRACKaMOTOR BOATaUP-POvTvG MILITsY AIRPLyEbAIRPLyEbSMrL AIRPLyEaSMrL",
      " AIRPLyEaNORTHEAST-POvTvG AIRPLyEaAIRPLyE DEPsTUREbsRIVvG...aSATELLITEaONCOMvG FIRE ENGvEa",
      "DIESEL LOCOMOTIVEaPASSENGz SHIPaSCOOTzaMOTOR SCOOTzaCyOEaSuDaFLYvG SAUCzaSKATEBOsDaAUTO RI",
      "CKSHAWaPICKUP TRUCKaROLuR SKATE...arCHEMICr SYMBOL FOR QUvTESSENCEdAIRdFIREdEsTHdWATzdAQUA",
      "FORTISdAQUA REGIAeREGIA-2eVITAEeVITAE-2dVvEGsdVvEGs-2dVvEGs-3dSULFURdPHILOSOPHzS SULFURdBL",
      "ACK SULFURdMzCURY SUBLIMATEeSUBLIMATE-2eSUBLIMATE-3dCvNABsdSrTdNITREdVITRIOLdVITRIOL-2dROC",
      "K SrTeSrT-2dGOLDdSILVzdIRON OREeORE-2dCROCUS OF IRONdREGULUS OF IRONdCOPPz OREdIRON-COPPz ",
      "OREdSUBLIMATE OF COPPzdCROCUS OF COPPzfCOPPz-2dCOPPz yTIMONIATEdSrT OF COPPz yTIMONIATEdSU",
      "BLIMATE OF SrT OF COPPzdVzDIGRISdTv OREduAD OREdyTIMONY OREdSUBLIMATE OF yTIMONYdSrT OF yT",
      "IMONYdSUBLIMATE OF SrT OF yTIMONYdVvEGs OF yTIMONYdREGULUS OF yTIMONYfyTIMONY-2dREGULUSdRE",
      "GULUS-2dREGULUS-3dREGULUS-4drKrIdrKrI-2dMsCASITEdSr-AMMONIACdsSENICdRErGsdRErGs-2dAURIPIGM",
      "ENTdBISMUTH OREdTsTsdTsTs-2dQUICK LIMEdBORAXdBORAX-2dBORAX-3drUMdOILdSPIRITdTvCTUREdGUMdWA",
      "XdPOWDzdCrXdTUTTYdCAPUT MORTUUMdSCEPTz OF JOVEdCADUCEUSdTRIDENTdSTsRED TRIDENTdLODESTONEdS",
      "OAPdURvEdHORSE DUNGdASHESdPOT ASHESdBRICKdPOWDzED BRICKdAMrGAMdSTRATUM SUPz STRATUMfSTRATU",
      "M-2dSUBLIMATIONdPRECIPITATEdDISTILLdDISSOLVEdDISSOLVE-2dPURIFYdPUTREFACTIONdCRUCIBudCRUCIB",
      "u-2dCRUCIBu-3dCRUCIBu-4dCRUCIBu-5drEMBICdBATH OF MsYfVAPOURSdRETORTdHOURdNtdDAY-NtdMONTHdH",
      "rF DRAMeOUNCE"]⟩,
   ⟨0x1F780, [
      "aBLACK uFT-POvTvG ISOSCEuS Rt TRIyGubUP-POvTvG ISOSCEuS Rt TRIyGubRt-POvTvG ISOSCEuS Rt TR",
      "IyGubDOWN-POvTvG ISOSCEuS Rt TRIyGubSLtLY SMrL CIRCuaMEDIUM BOLD WHITE CIRCuaBOLD WHITE CI",
      "RCuaHEAVY WHITE CIRCuaVzY HEAVY WHITE CIRCuaEXTREMELY HEAVY WHITE CIRCuaWHITE CIRCu CONTAv",
      "vG BLACK SMrL CIRCuaROUND TsGETaBLACK TvY SQUsEbSLtLY SMrL SQUsEaLt WHITE SQUsEaMEDIUM WHI",
      "TE SQUsEaBOLD WHITE SQUsEaHEAVY WHITE SQUsEaVzY HEAVY WHITE SQUsEaEXTREMELY HEAVY WHITE SQ",
      "UsEaWHITE SQUsE CONTAvvG BLACK VzY SMrL SQUsEeMEDIUM SQUsEaSQUsE TsGETaBLACK TvY DIAMONDbV",
      "zY SMrL DIAMONDbMEDIUM SMrL DIAMONDaWHITE DIAMOND CONTAvvG BLACK VzY SMrL DIAMONDeMEDIUM D",
      "IAMONDaDIAMOND TsGETaBLACK TvY LOZENGEbVzY SMrL LOZENGEbMEDIUM SMrL LOZENGEaWHITE LOZENGE ",
      "CONTAvvG BLACK SMrL LOZENGEaTHv GREEK CROSSaLt GREEK CROSSaMEDIUM GREEK CROSSaBOLD GREEK C",
      "ROSSaVzY BOLD GREEK CROSSbHEAVY GREEK CROSSaEXTREMELY HEAVY GREEK CROSSaTHv SrTIREaLt SrTI",
      "REaMEDIUM SrTIREaBOLD SrTIREaHEAVY SrTIREaVzY HEAVY SrTIREaEXTREMELY HEAVY SrTIREaLt FIVE ",
      "SPOKED ASTzISKaMEDIUM FIVE SPOKED ASTzISKaBOLD FIVE SPOKED ASTzISKaHEAVY FIVE SPOKED ASTzI",
      "SKaVzY HEAVY FIVE SPOKED ASTzISKaEXTREMELY HEAVY FIVE SPOKED ASTzISKaLt SIX SPOKED ASTzISK",
      "aMEDIUM SIX SPOKED ASTzISKaBOLD SIX SPOKED ASTzISKaHEAVY SIX SPOKED ASTzISKaVzY HEAVY SIX ",
      "SPOKED ASTzISKaEXTREMELY HEAVY SIX SPOKED ASTzISKaLt Et SPOKED ASTzISKaMEDIUM Et SPOKED AS",
      "TzISKaBOLD Et SPOKED ASTzISKaHEAVY Et SPOKED ASTzISKaVzY HEAVY Et SPOKED ASTzISKaLt THREE ",
      "POvTED BLACK STsaMEDIUM THREE POvTED BLACK STsaTHREE POvTED BLACK STsaMEDIUM THREE POvTED ",
      "PvWHEEL STsaLt FOUR POvTED BLACK STsaMEDIUM FOUR POvTED BLACK STsaFOUR POvTED BLACK STsaME",
      "DIUM FOUR POvTED PvWHEEL STsaREVzSE Lt FOUR POvTED PvWHEEL STsaLt FIVE POvTED BLACK STsaHE",
      "AVY FIVE POvTED BLACK STsaMEDIUM SIX POvTED BLACK STsaHEAVY SIX POvTED BLACK STsaSIX POvTE",
      "D PvWHEEL STsaMEDIUM Et POvTED BLACK STsaHEAVY Et POvTED BLACK STsaVzY HEAVY Et POvTED BLA",
      "CK STsaHEAVY Et POvTED PvWHEEL STsaLt TWELVE POvTED BLACK STsaHEAVY TWELVE POvTED BLACK ST",
      "sdPvWHEEL STsaCIRCuD TRIyGuaNEGATIVE CIRCuD TRIyGuaCIRCuD SQUsEaNEGATIVE CIRCuD SQUsE"]⟩,
   ⟨0x1F7E0, [
      "aLsGE ORyGE CIRCubYELLOW CIRCubGREEN CIRCubPURPu CIRCubBROWN CIRCubRED SQUsEbBLUE SQUsEbOR",
      "yGE SQUsEbYELLOW SQUsEbGREEN SQUsEbPURPu SQUsEbBROWN SQUsE....aHEAVY EQUrS SIGN"]⟩,
   ⟨0x1F800, [
      "auFTWsDS sROWqSMrL TRIyGu sROWHEADaUPWsDS sROWqSMrL TRIyGu sROWHEADaRtWsDS sROWqSMrL TRIyG",
      "u sROWHEADaDOWNWsDS sROWqSMrL TRIyGu sROWHEADauFTWsDS sROWqMEDIUM TRIyGu sROWHEADaUPWsDS s",
      "ROWqMEDIUM TRIyGu sROWHEADaRtWsDS sROWqMEDIUM TRIyGu sROWHEADaDOWNWsDS sROWqMEDIUM TRIyGu ",
      "sROWHEADauFTWsDS sROWqLsGE TRIyGu sROWHEADaUPWsDS sROWqLsGE TRIyGu sROWHEADaRtWsDS sROWqLs",
      "GE TRIyGu sROWHEADaDOWNWsDS sROWqLsGE TRIyGu sROWHEAD....auFTWsDS sROWqSMrL EQUILATzr sROW",
      "HEADaUPWsDS sROWqSMrL EQUILATzr sROWHEADaRtWsDS sROWqSMrL EQUILATzr sROWHEADaDOWNWsDS sROW",
      "qSMrL EQUILATzr sROWHEADauFTWsDS sROWqEQUILATzr sROWHEADaUPWsDS sROWqEQUILATzr sROWHEADaRt",
      "WsDS sROWqEQUILATzr sROWHEADaDOWNWsDS sROWqEQUILATzr sROWHEADaHEAVY uFTWsDS sROWqEQUILATzr",
      " sROWHEADbUPWsDS sROWqEQUILATzr sROWHEADbRtWsDS sROWqEQUILATzr sROWHEADbDOWNWsDS sROWqEQUI",
      "LATzr sROWHEADbuFTWsDS sROWqLsGE EQUILATzr sROWHEADbUPWsDS sROWqLsGE EQUILATzr sROWHEADbRt",
      "WsDS sROWqLsGE EQUILATzr sROWHEADbDOWNWsDS sROWqLsGE EQUILATzr sROWHEADauFTWsDS TRIyGu-HEA",
      "DED sROWqNsROW SHAFTaUPWsDS TRIyGu-HEADED sROWqNsROW SHAFTaRtWsDS TRIyGu-HEADED sROWqNsROW",
      " SHAFTaDOWNWsDS TRIyGu-HEADED sROWqNsROW SHAFTauFTWsDS TRIyGu-HEADED sROWqMEDIUM SHAFTaUPW",
      "sDS TRIyGu-HEADED sROWqMEDIUM SHAFTaRtWsDS TRIyGu-HEADED sROWqMEDIUM SHAFTaDOWNWsDS TRIyGu",
      "-HEADED sROWqMEDIUM SHAFTauFTWsDS TRIyGu-HEADED sROWqBOLD SHAFTaUPWsDS TRIyGu-HEADED sROWq",
      "BOLD SHAFTaRtWsDS TRIyGu-HEADED sROWqBOLD SHAFTaDOWNWsDS TRIyGu-HEADED sROWqBOLD SHAFTauFT",
      "WsDS TRIyGu-HEADED sROWqHEAVY SHAFTaUPWsDS TRIyGu-HEADED sROWqHEAVY SHAFTaRtWsDS TRIyGu-HE",
      "ADED sROWqHEAVY SHAFTaDOWNWsDS TRIyGu-HEADED sROWqHEAVY SHAFTauFTWsDS TRIyGu-HEADED sROWqV",
      "zY HEAVY SHAFTaUPWsDS TRIyGu-HEADED sROWqVzY HEAVY SHAFTaRtWsDS TRIyGu-HEADED sROWqVzY HEA",
      "VY SHAFTaDOWNWsDS TRIyGu-HEADED sROWqVzY HEAVY SHAFTauFTWsDS FvGz-POST sROWaUPWsDS FvGz-PO",
      "ST sROWaRtWsDS FvGz-POST sROWaDOWNWsDS FvGz-POST sROWauFTWsDS SQUsED sROWaUPWsDS SQUsED sR",
      "OWaRtWsDS SQUsED sROWaDOWNWsDS SQUsED sROWauFTWsDS COMPRESSED sROWaUPWsDS COMPRESSED sROWa",
      "RtWsDS COMPRESSED sROWaDOWNWsDS COMPRESSED sROWauFTWsDS HEAVY COMPRESSED sROWaUPWsDS HEAVY",
      " COMPRESSED sROWaRtWsDS HEAVY COMPRESSED sROWaDOWNWsDS HEAVY COMPRESSED sROWauFTWsDS HEAVY",
      " sROWaUPWsDS HEAVY sROWaRtWsDS HEAVY sROWaDOWNWsDS HEAVY sROW"]⟩,
   ⟨0x1F850, [
      "auFTWsDS SyS-SzIF sROWaUPWsDS SyS-SzIF sROWaRtWsDS SyS-SzIF sROWaDOWNWsDS SyS-SzIF sROWaNO",
      "RTH WEST SyS-SzIF sROWbEAST SyS-SzIF sROWaSOUTH EAST SyS-SzIF sROWbWEST SyS-SzIF sROWauFT ",
      "Rt SyS-SzIF sROWaUP DOWN SyS-SzIF sROW"]⟩,
   ⟨0x1F860, [
      "aWIDE-HEADED uFTWsDS Lt BsB sROWbUPWsDS Lt BsB sROWbRtWsDS Lt BsB sROWbDOWNWsDS Lt BsB sRO",
      "WbNORTH WEST Lt BsB sROWcEAST Lt BsB sROWbSOUTH EAST Lt BsB sROWcWEST Lt BsB sROWbuFTWsDS ",
      "BsB sROWbUPWsDS BsB sROWbRtWsDS BsB sROWbDOWNWsDS BsB sROWbNORTH WEST BsB sROWcEAST BsB sR",
      "OWbSOUTH EAST BsB sROWcWEST BsB sROWbuFTWsDS MEDIUM BsB sROWbUPWsDS MEDIUM BsB sROWbRtWsDS",
      " MEDIUM BsB sROWbDOWNWsDS MEDIUM BsB sROWbNORTH WEST MEDIUM BsB sROWcEAST MEDIUM BsB sROWb",
      "SOUTH EAST MEDIUM BsB sROWcWEST MEDIUM BsB sROWbuFTWsDS HEAVY BsB sROWbUPWsDS HEAVY BsB sR",
      "OWbRtWsDS HEAVY BsB sROWbDOWNWsDS HEAVY BsB sROWbNORTH WEST HEAVY BsB sROWcEAST HEAVY BsB ",
      "sROWbSOUTH EAST HEAVY BsB sROWcWEST HEAVY BsB sROWbuFTWsDS VzY HEAVY BsB sROWbUPWsDS VzY H",
      "EAVY BsB sROWbRtWsDS VzY HEAVY BsB sROWbDOWNWsDS VzY HEAVY BsB sROWbNORTH WEST VzY HEAVY B",
      "sB sROWcEAST VzY HEAVY BsB sROWbSOUTH EAST VzY HEAVY BsB sROWcWEST VzY HEAVY BsB sROW"]⟩,
   ⟨0x1F890, [
      "auFTWsDS TRIyGu sROWHEADaUPWsDS TRIyGu sROWHEADaRtWsDS TRIyGu sROWHEADaDOWNWsDS TRIyGu sRO",
      "WHEADauFTWsDS WHITE sROW WITHv TRIyGu sROWHEADaUPWsDS WHITE sROW WITHv TRIyGu sROWHEADaRtW",
      "sDS WHITE sROW WITHv TRIyGu sROWHEADaDOWNWsDS WHITE sROW WITHv TRIyGu sROWHEADauFTWsDS sRO",
      "WqNOTCHED TAILaUPWsDS sROWqNOTCHED TAILaRtWsDS sROWqNOTCHED TAILaDOWNWsDS sROWqNOTCHED TAI",
      "LaHEAVY sROW SHAFT WIDTH ONEeTWO THIRDSeONE HrFfTHIRDauFTWsDS BOTTOM-SHADED WHITE sROWaRtW",
      "sDS BOTTOM SHADED WHITE sROWauFTWsDS TOP SHADED WHITE sROWaRtWsDS TOP SHADED WHITE sROWauF",
      "TWsDS uFT-SHADED WHITE sROWaRtWsDS Rt-SHADED WHITE sROWauFTWsDS Rt-SHADED WHITE sROWaRtWsD",
      "S uFT-SHADED WHITE sROWauFTWsDS BACK-TILTED SHADOWED WHITE sROWaRtWsDS BACK-TILTED SHADOWE",
      "D WHITE sROWauFTWsDS FRONT-TILTED SHADOWED WHITE sROWaRtWsDS FRONT-TILTED SHADOWED WHITE s",
      "ROWaWHITE sROW SHAFT WIDTH ONEeTWO THIRDS..asROW POvTvG UPWsDS THEN NORTH WESTcRtWsDS THEN",
      " CURVvG SOUTH WEST"]⟩,
   ⟨0x1F900, [
      "aCIRCuD CROSSwEEqFOUR DOTSeTWO DOTScFORMEEauFT HrF CIRCuqFOUR DOTSeTHREE DOTSeTWO DOTSeDOT",
      "cCIRCuaDOWNWsD FACvG HOOKcNOTCHED HOOKcHOOKqDOTcNOTCHED HOOKqDOTaPvCHED FvGzSaWHITE HEsTaB",
      "ROWN HEsTaPvCHvG HyDaZIPPz-MOUTH FACEaMONEY-MOUTH FACEaFACEqTHzMOMETzaNzD FACEaTHvKvG FACE",
      "aFACEqHEAD-ByDAGEaROBOT FACEaHUGGvG FACEaSIGN OF THE HORNSaCrL ME HyDaRAISED BACK OF HyDau",
      "FT-FACvG FISTaRt-FACvG FISTaHyDSHAKEaHyDqvDEX yD MIDDu FvGzS CROSSEDaI LOVE YOU HyD SIGNaF",
      "ACEqCOWBOY HATaCLOWN FACEaNAUSEATED FACEaROLLvG ON THE FLOOR LAUGHvGaDROOLvG FACEaLYvG FAC",
      "EaFACE PrMaSNEEZvG FACEaFACEqONE EYEBROW RAISEDaGRvNvG FACEqSTs EYESdONE LsGE yD ONE SMrL ",
      "EYEaFACEqFvGz COVzvG CLOSED LIPSaSzIOUS FACEqSYMBOLS COVzvG MOUTHaSMILvG FACEqSMILvG EYES ",
      "yD HyD COVzvG MOUTHaFACEqOPEN MOUTH VOMITvGaSHOCKED FACEqEXPLODvG HEADaPREGNyT WOMyaBREAST",
      "-FEEDvGaPrMS UP TOGETHzaSELFIEaPRvCEaMy v TUXEDOaMOTHz CHRISTMASaSHRUGaPzSON DOvG CsTWHEEL",
      "aJUGGLvGaFENCzaMODzN PENTATHLONaWRESTuRSaWATz POLOaHyDBrLaDIVvG MASKaWILTED FLOWzaDRUMqDRU",
      "MSTICKSaCLvKvG GLASSESaTUMBuR GLASSaSPOONaGOr NETaRIFuaFIRST PLACE MEDraSECOND PLACE MEDra",
      "THIRD PLACE MEDraBOXvG GLOVEaMsTIr sTS UNIFORMaCURLvG STONEaLACROSSE STICK yD BrLaSOFTBrLa",
      "FLYvG DISCaCROISSyTaAVOCADOaCUCUMBzaBACONaPOTATOaCsROTaBAGUETTE BREADaGREEN SrADaSHrLOW Py",
      " OF FOODaSTUFFED FLATBREADaEGGaGLASS OF MILKaPEyUTSaKIWIFRUITaPyCAKESaDUMPLvGaFORTUNE COOK",
      "IEaTAKEOUT BOXaCHOPSTICKSaBOWLqSPOONaCUPqSTRAWaCOCONUTaBROCCOLIaPIEaPRETZELaCUT OF MEATaSy",
      "DWICHaCyNED FOODauAFY GREENaMyGOaMOON CAKEaBAGELaSMILvG FACEqSMILvG EYES yD THREE HEsTSaYA",
      "WNvG FACEaSMILvG FACEqTEsaFACEqPsTY HORN yD PsTY HATcUNEVEN EYES yD WAVY MOUTHaOVzHEATED F",
      "ACEaFREEZvG FACEaNvJAaDISGUISED FACEaFACE HOLDvG BACK TEsSbWITH PuADvG EYESaSsIaLAB COATaG",
      "OGGuSaHIKvG BOOTaFLAT SHOEaCRABaLION FACEaSCORPIONaTURKEYaUNICORN FACEaEAGuaDUCKaBATaSHsKa",
      "OWLaFOX FACEaBUTTzFLYaDEzaGORILLAaLIZsDaRHvOCzOSaSHRIMPaSQUIDaGIRAFFE FACEaZEBRA FACEaHEDG",
      "EHOGaSAUROPODaT-REXaCRICKETaKyGsOOaLLAMAaPEACOCKaHIPPOPOTAMUSaPsROTaRACCOONaLOBSTzaMOSQUIT",
      "OaMICROBEaBADGzaSWyaMAMMOTHaDODOaSLOTHaOTTzaORyGUTyaSKUNKaFLAMvGOaOYSTzaBEAVzaBISONaSEraGU",
      "IDE DOGaPROBvG CyEaEMOJI COMPONENT RED HAIRcCURLY HAIRcBrDcWHITE HAIRaBONEauGaFOOTaTOOTHaS",
      "UPzHzOaSUPzVILLAvaSAFETY VESTaEsqHEsvG AIDaMOTORIZED WHEELCHAIRaMyUr WHEELCHAIRaMECHyICr s",
      "MbuGaCHEESE WEDGEaCUPCAKEaSrT SHAKzaBEVzAGE BOXaGsLICaONIONaFrAFELaWAFFuaBUTTzaMATE DRvKaI",
      "CE CUBEaBUBBu TEAaTROLLaSTyDvG PzSONaKNEELvG PzSONaDEAF PzSONaFACEqMONOCuaADULTaCHILDaOLDz",
      " ADULTaBEsDED PzSONaPzSONqHEADSCsFbv STEAMY ROOMbCLIMBvGbv LOTUS POSITIONaMAGEaFAIRYaVAMPI",
      "REaMzPzSONaELFaGENIEaZOMBIEaBRAvaORyGE HEsTaBILuD CAPaSCsFaGLOVESaCOATaSOCKSaRED GIFT ENVE",
      "LOPEaFIRECRACKzaJIGSAW PUZZu PIECEaTEST TUBEaPETRI DISHaDNA DOUBu HELIXaCOMPASSaABACUSaFIR",
      "E EXTvGUISHzaTOOLBOXaBRICKaMAGNETaLUGGAGEaLOTION BOTTuaSPOOL OF THREADaBrL OF YsNaSAFETY P",
      "vaTEDDY BEsaBROOMaBASKETaROLL OF PAPzaBs OF SOAPaSPONGEaRECEIPTaNAZs AMUuTaNEUTRr CHESS Kv",
      "GcQUEENcROOKcBISHOPcKNtcPAWNaWHITE CHESS KNt ROTATED FORTY-FIVE DEGREESaBLACK CHESS KNt RO",
      "TATED FORTY-FIVE DEGREESaNEUTRr CHESS KNt ROTATED FORTY-FIVE DEGREESaWHITE CHESS KvG ROTAT",
      "ED NvETY DEGREEScQUEEN ROTATED NvETY DEGREEScROOK ROTATED NvETY DEGREEScBISHOP ROTATED NvE",
      "TY DEGREEScKNt ROTATED NvETY DEGREEScPAWN ROTATED NvETY DEGREESaBLACK CHESS KvG ROTATED Nv",
      "ETY DEGREEScQUEEN ROTATED NvETY DEGREEScROOK ROTATED NvETY DEGREEScBISHOP ROTATED NvETY DE",
      "GREEScKNt ROTATED NvETY DEGREEScPAWN ROTATED NvETY DEGREESaNEUTRr CHESS KvG ROTATED NvETY ",
      "DEGREEScQUEEN ROTATED NvETY DEGREEScROOK ROTATED NvETY DEGREEScBISHOP ROTATED NvETY DEGREE",
      "ScKNt ROTATED NvETY DEGREEScPAWN ROTATED NvETY DEGREESaWHITE CHESS KNt ROTATED ONE HUNDRED",
      " THIRTY-FIVE DEGREESaBLACK CHESS KNt ROTATED ONE HUNDRED THIRTY-FIVE DEGREESaNEUTRr CHESS ",
      "KNt ROTATED ONE HUNDRED THIRTY-FIVE DEGREESaWHITE CHESS TURNED KvGdQUEENdROOKdBISHOPdKNtdP",
      "AWNaBLACK CHESS TURNED KvGdQUEENdROOKdBISHOPdKNtdPAWNaNEUTRr CHESS TURNED KvGdQUEENdROOKdB",
      "ISHOPdKNtdPAWNaWHITE CHESS KNt ROTATED TWO HUNDRED TWENTY-FIVE DEGREESaBLACK CHESS KNt ROT",
      "ATED TWO HUNDRED TWENTY-FIVE DEGREESaNEUTRr CHESS KNt ROTATED TWO HUNDRED TWENTY-FIVE DEGR",
      "EESaWHITE CHESS KvG ROTATED TWO HUNDRED SEVENTY DEGREEScQUEEN ROTATED TWO HUNDRED SEVENTY ",
      "DEGREEScROOK ROTATED TWO HUNDRED SEVENTY DEGREEScBISHOP ROTATED TWO HUNDRED SEVENTY DEGREE",
      "ScKNt ROTATED TWO HUNDRED SEVENTY DEGREEScPAWN ROTATED TWO HUNDRED SEVENTY DEGREESaBLACK C",
      "HESS KvG ROTATED TWO HUNDRED SEVENTY DEGREEScQUEEN ROTATED TWO HUNDRED SEVENTY DEGREEScROO",
      "K ROTATED TWO HUNDRED SEVENTY DEGREEScBISHOP ROTATED TWO HUNDRED SEVENTY DEGREEScKNt ROTAT",
      "ED TWO HUNDRED SEVENTY DEGREEScPAWN ROTATED TWO HUNDRED SEVENTY DEGREESaNEUTRr CHESS KvG R",
      "OTATED TWO HUNDRED SEVENTY DEGREEScQUEEN ROTATED TWO HUNDRED SEVENTY DEGREEScROOK ROTATED ",
      "TWO HUNDRED SEVENTY DEGREEScBISHOP ROTATED TWO HUNDRED SEVENTY DEGREEScKNt ROTATED TWO HUN",
      "DRED SEVENTY DEGREEScPAWN ROTATED TWO HUNDRED SEVENTY DEGREESaWHITE CHESS KNt ROTATED THRE",
      "E HUNDRED FIFTEEN DEGREESaBLACK CHESS KNt ROTATED THREE HUNDRED FIFTEEN DEGREESaNEUTRr CHE",
      "SS KNt ROTATED THREE HUNDRED FIFTEEN DEGREESaWHITE CHESS EQUIHOPPzaBLACK CHESS EQUIHOPPzaN",
      "EUTRr CHESS EQUIHOPPzaWHITE CHESS EQUIHOPPz ROTATED NvETY DEGREESaBLACK CHESS EQUIHOPPz RO",
      "TATED NvETY DEGREESaNEUTRr CHESS EQUIHOPPz ROTATED NvETY DEGREESaWHITE CHESS KNt-QUEENcKNt",
      "-ROOKcKNt-BISHOPaBLACK CHESS KNt-QUEENcKNt-ROOKcKNt-BISHOP"]⟩,
   ⟨0x1FA60, [
      "aXIyGQI RED GENzrcMyDsvcEuPHyTcHORSEcCHsIOTcCyNONcSOLDIzbBLACK GENzrcMyDsvcEuPHyTcHORSEcCH",
      "sIOTcCyNONcSOLDIz..aBruT SHOESaONE-PIECE SWIMSUITaBRIEFSaSHORTSaTHONG SyDr...aDROP OF BLOO",
      "DaADHESIVE ByDAGEaSTETHOSCOPEaX-RAYaCRUTCH...aYO-YOaKITEaPsACHUTEaBOOMzyGaMAGIC WyDaPvATAa",
      "NESTvG DOLLS"]⟩,
   ⟨0x1FA90, [
      "aRvGED PLyETaCHAIRaRAZORaAXEaDIYA LAMPaByJOaMILITsY HELMETaACCORDIONaLONG DRUMaCOvaCsPENTR",
      "Y SAWaSCREWDRIVzaLADDzaHOOKaMIRRORaWvDOWaPLUNGzaSEWvG NEEDuaKNOTaBUCKETaMOUSE TRAPaTOOTHBR",
      "USHaHEADSTONEaPLACsDaROCKaMIRROR BrLaIDENTIFICATION CsDaLOW BATTzYaHAMSA...aFLYaWORMaBEETu",
      "aCOCKROACHaPOTTED PLyTaWOODaFEATHzaLOTUSaCORraEMPTY NESTaNESTqEGGS.....ayATOMICr HEsTaLUNG",
      "SaPEOPu HUGGvGaPREGNyT MybPzSONaPzSONqCROWN"]⟩,
   ⟨0x1FAD0, [
      "aBLUEBzRIESaBELL PEPPzaOLIVEaFLATBREADaTAMrEaFONDUEaTEAPOTaPOURvG LIQUIDaBEySaJs"]⟩,
   ⟨0x1FAE0, [
      "aMELTvG FACEaSrUTvG FACEaFACEqOPEN EYES yD HyD OVz MOUTHcPEEKvG EYEcDIAGONr MOUTHaDOTTED L",
      "vE FACEaBITvG LIPaBUBBuS"]⟩,
   ⟨0x1FAF0, [
      "aHyDqvDEX FvGz yD THUMB CROSSEDaRtWsDS HyDauFTWsDS HyDaPrM DOWN HyDbUP HyDavDEX POvTvG AT ",
      "THE VIEWzaHEsT HyDS"]⟩,
   ⟨0x1FB00, [
      "aBLOCK SEXTyT-1bSEXTyT-2bSEXTyT-12bSEXTyT-3bSEXTyT-13bSEXTyT-23bSEXTyT-123bSEXTyT-4bSEXTyT",
      "-14bSEXTyT-24bSEXTyT-124bSEXTyT-34bSEXTyT-134bSEXTyT-234bSEXTyT-1234bSEXTyT-5bSEXTyT-15bSE",
      "XTyT-25bSEXTyT-125bSEXTyT-35bSEXTyT-235bSEXTyT-1235bSEXTyT-45bSEXTyT-145bSEXTyT-245bSEXTyT",
      "-1245bSEXTyT-345bSEXTyT-1345bSEXTyT-2345bSEXTyT-12345bSEXTyT-6bSEXTyT-16bSEXTyT-26bSEXTyT-",
      "126bSEXTyT-36bSEXTyT-136bSEXTyT-236bSEXTyT-1236bSEXTyT-46bSEXTyT-146bSEXTyT-1246bSEXTyT-34",
      "6bSEXTyT-1346bSEXTyT-2346bSEXTyT-12346bSEXTyT-56bSEXTyT-156bSEXTyT-256bSEXTyT-1256bSEXTyT-",
      "356bSEXTyT-1356bSEXTyT-2356bSEXTyT-12356bSEXTyT-456bSEXTyT-1456bSEXTyT-2456bSEXTyT-12456bS",
      "EXTyT-3456bSEXTyT-13456bSEXTyT-23456aLOWz uFT BLOCK DIAGONr LOWz MIDDu uFT TO LOWz CENTREj",
      "RteUPPz MIDDu uFT TO LOWz CENTREjRtfuFT TO LOWz CENTREbRt BLOCK DIAGONr UPPz MIDDu uFT TO ",
      "UPPz CENTREjRteLOWz MIDDu uFT TO UPPz CENTREjRtfuFT TO UPPz CENTREfMIDDu uFT TO UPPz MIDDu",
      " RtfCENTRE TO LOWz MIDDu RtfuFT TO LOWz MIDDu RtfCENTRE TO UPPz MIDDu RtfuFT TO UPPz MIDDu",
      " RtfCENTRE TO UPPz RtbuFT BLOCK DIAGONr UPPz CENTRE TO UPPz MIDDu RtfuFT TO UPPz MIDDu Rtf",
      "CENTRE TO LOWz MIDDu RtfuFT TO LOWz MIDDu RtfCENTRE TO LOWz RtfMIDDu uFT TO LOWz MIDDu Rta",
      "UPPz Rt BLOCK DIAGONr LOWz MIDDu uFT TO LOWz CENTREjRteUPPz MIDDu uFT TO LOWz CENTREjRtfuF",
      "T TO LOWz CENTREbuFT BLOCK DIAGONr UPPz MIDDu uFT TO UPPz CENTREjRteLOWz MIDDu uFT TO UPPz",
      " CENTREjRtfuFT TO UPPz CENTREfMIDDu uFT TO UPPz MIDDu RtfCENTRE TO LOWz MIDDu RtfuFT TO LO",
      "Wz MIDDu RtfCENTRE TO UPPz MIDDu RtfuFT TO UPPz MIDDu RtfCENTRE TO UPPz RtbRt BLOCK DIAGON",
      "r UPPz CENTRE TO UPPz MIDDu RtfuFT TO UPPz MIDDu RtfCENTRE TO LOWz MIDDu RtfuFT TO LOWz MI",
      "DDu RtfCENTRE TO LOWz RtfMIDDu uFT TO LOWz MIDDu RtbyD Rt yD LOWz TRIyGULs THREE QUsTzS BL",
      "OCKauFT yD LOWz yD Rt TRIyGULs THREE QUsTzS BLOCKaUPPz yD uFT yD LOWz TRIyGULs THREE QUsTz",
      "S BLOCKauFT yD UPPz yD Rt TRIyGULs THREE QUsTzS BLOCKbTRIyGULs ONE QUsTz BLOCKaUPPz TRIyGU",
      "Ls ONE QUsTz BLOCKaRt TRIyGULs ONE QUsTz BLOCKaLOWz TRIyGULs ONE QUsTz BLOCKaVzTICr ONE Et",
      "H BLOCK-2dBLOCK-3dBLOCK-4dBLOCK-5dBLOCK-6dBLOCK-7aHORIZONTr ONE EtH BLOCK-2dBLOCK-3dBLOCK-",
      "4dBLOCK-5dBLOCK-6dBLOCK-7auFT yD LOWz ONE EtH BLOCKcUPPz ONE EtH BLOCKaRt yD UPPz ONE EtH ",
      "BLOCKcLOWz ONE EtH BLOCKaUPPz yD LOWz ONE EtH BLOCKaHORIZONTr ONE EtH BLOCK-1358aUPPz ONE ",
      "QUsTz BLOCKbTHREE EtHS BLOCKbFIVE EtHS BLOCKbTHREE QUsTzS BLOCKbSEVEN EtHS BLOCKaRt ONE QU",
      "sTz BLOCKbTHREE EtHS BLOCKbFIVE EtHS BLOCKbTHREE QUsTzS BLOCKbSEVEN EtHS BLOCKauFT HrF MED",
      "IUM SHADEaRt HrF MEDIUM SHADEaUPPz HrF MEDIUM SHADEaLOWz HrF MEDIUM SHADEavVzSE MEDIUM SHA",
      "DEaUPPz HrF BLOCK yD LOWz HrF vVzSE MEDIUM SHADEcvVzSE MEDIUM SHADE yD LOWz HrF BLOCK.auFT",
      " HrF vVzSE MEDIUM SHADE yD Rt HrF BLOCKaCHECKz BOsD FILLavVzSE CHECKz BOsD FILLaHEAVY HORI",
      "ZONTr FILLaUPPz uFT TO LOWz Rt FILLbRt TO LOWz uFT FILLbyD LOWz TRIyGULs HrF BLOCKauFT yD ",
      "Rt TRIyGULs HrF BLOCKaUPPz uFT TRIyGULs MEDIUM SHADEbRt TRIyGULs MEDIUM SHADEaLOWz Rt TRIy",
      "GULs MEDIUM SHADEbuFT TRIyGULs MEDIUM SHADEaBOX DRAWvGS Lt DIAGONr UPPz CENTRE TO MIDDu uF",
      "TiRteMIDDu uFT TO LOWz CENTREfRt TO LOWz CENTREeUPPz CENTRE TO MIDDu uFT TO LOWz CENTREiRt",
      " TO LOWz CENTREeMIDDu uFT TO LOWz CENTRE TO MIDDu RthUPPz CENTRE TO MIDDu RteUPPz CENTRE T",
      "O MIDDu uFT yD MIDDu Rt TO LOWz CENTREiRt yD MIDDu uFT TO LOWz CENTREjTO LOWz CENTRE TO MI",
      "DDu uFTiuFT TO LOWz CENTRE TO MIDDu RteMIDDu uFT TO UPPz CENTRE TO MIDDu Rt TO LOWz CENTRE",
      "fRt TO UPPz CENTRE TO MIDDu uFT TO LOWz CENTREeDIAMONDdHORIZONTrqVzTICr STROKEasROWHEAD-SH",
      "APED POvTzavVzSE CHECK MsKauFT HrF RUNNvG MyaRt HrF RUNNvG MyavVzSE DOWNWsDS sROWqTIP uFTW",
      "sDSauFTWsDS sROW yD UPPz yD LOWz ONE EtH BLOCKaRtWsDS sROW yD UPPz yD LOWz ONE EtH BLOCKaD",
      "OWNWsDS sROW yD Rt ONE EtH BLOCKaUPWsDS sROW yD Rt ONE EtH BLOCKauFT HrF FOLDzaRt HrF FOLD",
      "zaVOIDED GREEK CROSSaRt OPEN SQUsED DOTaNEGATIVE DIAGONr CROSScMIDDu Rt TO LOWz CENTREcDIA",
      "MONDaWHITE HEAVY SrTIREqROUNDED CORNzSauFT THIRD WHITE Rt POvTvG vDEXaMIDDu THIRD WHITE Rt",
      " POvTvG vDEXaRt THIRD WHITE Rt POvTvG vDEXaNEGATIVE SQUsED QUESTION MsKaSTICK FIGUREcWITH ",
      "sMS RAISEDcuyvG uFTdRtcWITH DRESSaWHITE UP-POvTvG CHEVRON"]⟩,
   ⟨0x1FBF0, ["aSEGMENTED DIGIT ZzOcONEcTWOcTHREEcFOURcFIVEcSIXcSEVENcEtcNvE"]⟩,
   ⟨0xE0001, ["aLyGUAGE TAG"]⟩,
   ⟨0xE0020, [
      "aTAG SPACEbEXCLAMATION MsKbQUOTATION MsKbNUMBz SIGNbDOLLs SIGNbPzCENT SIGNbAMPzSyDbAPOSTRO",
      "PHEbuFT PsENTHESISbRt PsENTHESISbASTzISKbPLUS SIGNbCOMMAbHYPHEN-MvUSbFULL STOPbSOLIDUSbDIG",
      "IT ZzOcONEcTWOcTHREEcFOURcFIVEcSIXcSEVENcEtcNvEbCOLONbSEMICOLONbuSS-THy SIGNbEQUrS SIGNbGR",
      "EATz-THy SIGNbQUESTION MsKbCOMMzCIr ATbLATv xLpAeBeCeDeEeFeGeHeIeJeKeLeMeNeOePeQeReSeTeUeV",
      "eWeXeYeZbuFT SQUsE BRACKETbREVzSE SOLIDUSbRt SQUsE BRACKETbCIRCUMFuX ACCENTbLOW LvEbGRAVE ",
      "ACCENTbLATv SMrLpAeBeCeDeEeFeGeHeIeJeKeLeMeNeOePeQeReSeTeUeVeWeXeYeZbuFT CURLY BRACKETbVzT",
      "ICr LvEbRt CURLY BRACKETbTILDEaCyCEL TAG"]⟩,
   ⟨0xE0100, [
      "aVsIATION SEuCTOR-17bSEuCTOR-18bSEuCTOR-19bSEuCTOR-20bSEuCTOR-21bSEuCTOR-22bSEuCTOR-23bSEu",
      "CTOR-24bSEuCTOR-25bSEuCTOR-26bSEuCTOR-27bSEuCTOR-28bSEuCTOR-29bSEuCTOR-30bSEuCTOR-31bSEuCT",
      "OR-32bSEuCTOR-33bSEuCTOR-34bSEuCTOR-35bSEuCTOR-36bSEuCTOR-37bSEuCTOR-38bSEuCTOR-39bSEuCTOR",
      "-40bSEuCTOR-41bSEuCTOR-42bSEuCTOR-43bSEuCTOR-44bSEuCTOR-45bSEuCTOR-46bSEuCTOR-47bSEuCTOR-4",
      "8bSEuCTOR-49bSEuCTOR-50bSEuCTOR-51bSEuCTOR-52bSEuCTOR-53bSEuCTOR-54bSEuCTOR-55bSEuCTOR-56b",
      "SEuCTOR-57bSEuCTOR-58bSEuCTOR-59bSEuCTOR-60bSEuCTOR-61bSEuCTOR-62bSEuCTOR-63bSEuCTOR-64bSE",
      "uCTOR-65bSEuCTOR-66bSEuCTOR-67bSEuCTOR-68bSEuCTOR-69bSEuCTOR-70bSEuCTOR-71bSEuCTOR-72bSEuC",
      "TOR-73bSEuCTOR-74bSEuCTOR-75bSEuCTOR-76bSEuCTOR-77bSEuCTOR-78bSEuCTOR-79bSEuCTOR-80bSEuCTO",
      "R-81bSEuCTOR-82bSEuCTOR-83bSEuCTOR-84bSEuCTOR-85bSEuCTOR-86bSEuCTOR-87bSEuCTOR-88bSEuCTOR-",
      "89bSEuCTOR-90bSEuCTOR-91bSEuCTOR-92bSEuCTOR-93bSEuCTOR-94bSEuCTOR-95bSEuCTOR-96bSEuCTOR-97",
      "bSEuCTOR-98bSEuCTOR-99bSEuCTOR-100bSEuCTOR-101bSEuCTOR-102bSEuCTOR-103bSEuCTOR-104bSEuCTOR",
      "-105bSEuCTOR-106bSEuCTOR-107bSEuCTOR-108bSEuCTOR-109bSEuCTOR-110bSEuCTOR-111bSEuCTOR-112bS",
      "EuCTOR-113bSEuCTOR-114bSEuCTOR-115bSEuCTOR-116bSEuCTOR-117bSEuCTOR-118bSEuCTOR-119bSEuCTOR",
      "-120bSEuCTOR-121bSEuCTOR-122bSEuCTOR-123bSEuCTOR-124bSEuCTOR-125bSEuCTOR-126bSEuCTOR-127bS",
      "EuCTOR-128bSEuCTOR-129bSEuCTOR-130bSEuCTOR-131bSEuCTOR-132bSEuCTOR-133bSEuCTOR-134bSEuCTOR",
      "-135bSEuCTOR-136bSEuCTOR-137bSEuCTOR-138bSEuCTOR-139bSEuCTOR-140bSEuCTOR-141bSEuCTOR-142bS",
      "EuCTOR-143bSEuCTOR-144bSEuCTOR-145bSEuCTOR-146bSEuCTOR-147bSEuCTOR-148bSEuCTOR-149bSEuCTOR",
      "-150bSEuCTOR-151bSEuCTOR-152bSEuCTOR-153bSEuCTOR-154bSEuCTOR-155bSEuCTOR-156bSEuCTOR-157bS",
      "EuCTOR-158bSEuCTOR-159bSEuCTOR-160bSEuCTOR-161bSEuCTOR-162bSEuCTOR-163bSEuCTOR-164bSEuCTOR",
      "-165bSEuCTOR-166bSEuCTOR-167bSEuCTOR-168bSEuCTOR-169bSEuCTOR-170bSEuCTOR-171bSEuCTOR-172bS",
      "EuCTOR-173bSEuCTOR-174bSEuCTOR-175bSEuCTOR-176bSEuCTOR-177bSEuCTOR-178bSEuCTOR-179bSEuCTOR",
      "-180bSEuCTOR-181bSEuCTOR-182bSEuCTOR-183bSEuCTOR-184bSEuCTOR-185bSEuCTOR-186bSEuCTOR-187bS",
      "EuCTOR-188bSEuCTOR-189bSEuCTOR-190bSEuCTOR-191bSEuCTOR-192bSEuCTOR-193bSEuCTOR-194bSEuCTOR",
      "-195bSEuCTOR-196bSEuCTOR-197bSEuCTOR-198bSEuCTOR-199bSEuCTOR-200bSEuCTOR-201bSEuCTOR-202bS",
      "EuCTOR-203bSEuCTOR-204bSEuCTOR-205bSEuCTOR-206bSEuCTOR-207bSEuCTOR-208bSEuCTOR-209bSEuCTOR",
      "-210bSEuCTOR-211bSEuCTOR-212bSEuCTOR-213bSEuCTOR-214bSEuCTOR-215bSEuCTOR-216bSEuCTOR-217bS",
      "EuCTOR-218bSEuCTOR-219bSEuCTOR-220bSEuCTOR-221bSEuCTOR-222bSEuCTOR-223bSEuCTOR-224bSEuCTOR",
      "-225bSEuCTOR-226bSEuCTOR-227bSEuCTOR-228bSEuCTOR-229bSEuCTOR-230bSEuCTOR-231bSEuCTOR-232bS",
      "EuCTOR-233bSEuCTOR-234bSEuCTOR-235bSEuCTOR-236bSEuCTOR-237bSEuCTOR-238bSEuCTOR-239bSEuCTOR",
      "-240bSEuCTOR-241bSEuCTOR-242bSEuCTOR-243bSEuCTOR-244bSEuCTOR-245bSEuCTOR-246bSEuCTOR-247bS",
      "EuCTOR-248bSEuCTOR-249bSEuCTOR-250bSEuCTOR-251bSEuCTOR-252bSEuCTOR-253bSEuCTOR-254bSEuCTOR",
      "-255bSEuCTOR-256"]⟩]

end Upkeep.Text.Names
