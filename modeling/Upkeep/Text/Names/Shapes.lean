import Upkeep.Text.Names.Packed

/-!
Names of characters: enclosed letters, lines, shapes, dingbats and further arrows.
-/
namespace Upkeep.Text.Names

def shapes : List Run :=
  [⟨0x2440, [
      "aOCR HOOKbCHAIRbFORKbvVzTED FORKbBELT BUCKubBOW TIEbBRyCH ByK IDENTIFICATIONbAMOUNT OF CHE",
      "CKbDASHbCUSTOMz ACCOUNT NUMBzbDOUBu BACKSLASH"]⟩,
   ⟨0x2460, [
      "aCIRCuD DIGIT ONEcTWOcTHREEcFOURcFIVEcSIXcSEVENcEtcNvEbNUMBz TENcEuVENcTWELVEcTHIRTEENcFOU",
      "RTEENcFIFTEENcSIXTEENcSEVENTEENcEtEENcNvETEENcTWENTYaPsENTHESIZED DIGIT ONEcTWOcTHREEcFOUR",
      "cFIVEcSIXcSEVENcEtcNvEbNUMBz TENcEuVENcTWELVEcTHIRTEENcFOURTEENcFIFTEENcSIXTEENcSEVENTEENc",
      "EtEENcNvETEENcTWENTYaDIGIT ONE FULL STOPbTWO FULL STOPbTHREE FULL STOPbFOUR FULL STOPbFIVE",
      " FULL STOPbSIX FULL STOPbSEVEN FULL STOPbEt FULL STOPbNvE FULL STOPaNUMBz TEN FULL STOPbEu",
      "VEN FULL STOPbTWELVE FULL STOPbTHIRTEEN FULL STOPbFOURTEEN FULL STOPbFIFTEEN FULL STOPbSIX",
      "TEEN FULL STOPbSEVENTEEN FULL STOPbEtEEN FULL STOPbNvETEEN FULL STOPbTWENTY FULL STOPaPsEN",
      "THESIZED LATv SMrLpAeBeCeDeEeFeGeHeIeJeKeLeMeNeOePeQeReSeTeUeVeWeXeYeZaCIRCuD LATv xLpAeBe",
      "CeDeEeFeGeHeIeJeKeLeMeNeOePeQeReSeTeUeVeWeXeYeZcSMrLpAeBeCeDeEeFeGeHeIeJeKeLeMeNeOePeQeReS",
      "eTeUeVeWeXeYeZbDIGIT ZzOaNEGATIVE CIRCuD NUMBz EuVENdTWELVEdTHIRTEENdFOURTEENdFIFTEENdSIXT",
      "EENdSEVENTEENdEtEENdNvETEENdTWENTYaDOUBu CIRCuD DIGIT ONEdTWOdTHREEdFOURdFIVEdSIXdSEVENdEt",
      "dNvEcNUMBz TENaNEGATIVE CIRCuD DIGIT ZzOaBOX DRAWvGS Lt HORIZONTrcHEAVY HORIZONTrcLt VzTIC",
      "rcHEAVY VzTICrcLt TRIPu DASH HORIZONTrcHEAVY TRIPu DASH HORIZONTrcLt TRIPu DASH VzTICrcHEA",
      "VY TRIPu DASH VzTICrcLt QUADRUPu DASH HORIZONTrcHEAVY QUADRUPu DASH HORIZONTrcLt QUADRUPu ",
      "DASH VzTICrcHEAVY QUADRUPu DASH VzTICrcLt DOWN yD RtcDOWN Lt yD Rt HEAVYdHEAVY yD Rt LtcHE",
      "AVY DOWN yD RtcLt DOWN yD uFTcDOWN Lt yD uFT HEAVYdHEAVY yD uFT LtcHEAVY DOWN yD uFTcLt UP",
      " yD RtcUP Lt yD Rt HEAVYdHEAVY yD Rt LtcHEAVY UP yD RtcLt UP yD uFTcUP Lt yD uFT HEAVYdHEA",
      "VY yD uFT LtcHEAVY UP yD uFTcLt VzTICr yD RtcVzTICr Lt yD Rt HEAVYcUP HEAVY yD Rt DOWN Ltc",
      "DOWN HEAVY yD Rt UP LtcVzTICr HEAVY yD Rt LtcDOWN Lt yD Rt UP HEAVYcUP Lt yD Rt DOWN HEAVY",
      "cHEAVY VzTICr yD RtcLt VzTICr yD uFTcVzTICr Lt yD uFT HEAVYcUP HEAVY yD uFT DOWN LtcDOWN H",
      "EAVY yD uFT UP LtcVzTICr HEAVY yD uFT LtcDOWN Lt yD uFT UP HEAVYcUP Lt yD uFT DOWN HEAVYcH",
      "EAVY VzTICr yD uFTcLt DOWN yD HORIZONTrcuFT HEAVY yD Rt DOWN LtcRt HEAVY yD uFT DOWN LtcDO",
      "WN Lt yD HORIZONTr HEAVYdHEAVY yD HORIZONTr LtcRt Lt yD uFT DOWN HEAVYcuFT Lt yD Rt DOWN H",
      "EAVYcHEAVY DOWN yD HORIZONTrcLt UP yD HORIZONTrcuFT HEAVY yD Rt UP LtcRt HEAVY yD uFT UP L",
      "tcUP Lt yD HORIZONTr HEAVYdHEAVY yD HORIZONTr LtcRt Lt yD uFT UP HEAVYcuFT Lt yD Rt UP HEA",
      "VYcHEAVY UP yD HORIZONTrcLt VzTICr yD HORIZONTrcuFT HEAVY yD Rt VzTICr LtcRt HEAVY yD uFT ",
      "VzTICr LtcVzTICr Lt yD HORIZONTr HEAVYcUP HEAVY yD DOWN HORIZONTr LtcDOWN HEAVY yD UP HORI",
      "ZONTr LtcVzTICr HEAVY yD HORIZONTr LtcuFT UP HEAVY yD Rt DOWN LtcRt UP HEAVY yD uFT DOWN L",
      "tcuFT DOWN HEAVY yD Rt UP LtcRt DOWN HEAVY yD uFT UP LtcDOWN Lt yD UP HORIZONTr HEAVYcUP L",
      "t yD DOWN HORIZONTr HEAVYcRt Lt yD uFT VzTICr HEAVYcuFT Lt yD Rt VzTICr HEAVYcHEAVY VzTICr",
      " yD HORIZONTrcLt DOUBu DASH HORIZONTrcHEAVY DOUBu DASH HORIZONTrcLt DOUBu DASH VzTICrcHEAV",
      "Y DOUBu DASH VzTICrcDOUBu HORIZONTrdVzTICrcDOWN SvGu yD Rt DOUBudDOUBu yD Rt SvGucDOUBu DO",
      "WN yD RtcDOWN SvGu yD uFT DOUBudDOUBu yD uFT SvGucDOUBu DOWN yD uFTcUP SvGu yD Rt DOUBudDO",
      "UBu yD Rt SvGucDOUBu UP yD RtcUP SvGu yD uFT DOUBudDOUBu yD uFT SvGucDOUBu UP yD uFTcVzTIC",
      "r SvGu yD Rt DOUBudDOUBu yD Rt SvGucDOUBu VzTICr yD RtcVzTICr SvGu yD uFT DOUBudDOUBu yD u",
      "FT SvGucDOUBu VzTICr yD uFTcDOWN SvGu yD HORIZONTr DOUBudDOUBu yD HORIZONTr SvGucDOUBu DOW",
      "N yD HORIZONTrcUP SvGu yD HORIZONTr DOUBudDOUBu yD HORIZONTr SvGucDOUBu UP yD HORIZONTrcVz",
      "TICr SvGu yD HORIZONTr DOUBudDOUBu yD HORIZONTr SvGucDOUBu VzTICr yD HORIZONTrcLt sC DOWN ",
      "yD RtguFTeUP yD uFTgRtdDIAGONr UPPz Rt TO LOWz uFTfuFT TO LOWz RteCROSSduFTdUPdRtdDOWNcHEA",
      "VY uFTdUPdRtdDOWNcLt uFT yD HEAVY RtdUP yD HEAVY DOWNcHEAVY uFT yD Lt RtdUP yD Lt DOWNaUPP",
      "z HrF BLOCKaLOWz ONE EtH BLOCKcQUsTz BLOCKbTHREE EtHS BLOCKbHrF BLOCKbFIVE EtHS BLOCKbTHRE",
      "E QUsTzS BLOCKbSEVEN EtHS BLOCKaFULL BLOCKauFT SEVEN EtHS BLOCKbTHREE QUsTzS BLOCKbFIVE Et",
      "HS BLOCKbHrF BLOCKbTHREE EtHS BLOCKbONE QUsTz BLOCKcEtH BLOCKaRt HrF BLOCKaLt SHADEaMEDIUM",
      " SHADEaDsK SHADEaUPPz ONE EtH BLOCKaRt ONE EtH BLOCKaQUADRyT LOWz uFTcRtbUPPz uFTdyD LOWz ",
      "uFT yD LOWz RtfRteUPPz Rt yD LOWz uFTiRtcRtdyD LOWz uFTgyD LOWz RtaBLACK SQUsEaWHITE SQUsE",
      "cWITH ROUNDED CORNzScCONTAvvG BLACK SMrL SQUsEaSQUsEqHORIZONTr FILLcVzTICr FILLcORTHOGONr ",
      "CROSSHATCH FILLcUPPz uFT TO LOWz Rt FILLdRt TO LOWz uFT FILLcDIAGONr CROSSHATCH FILLaBLACK",
      " SMrL SQUsEaWHITE SMrL SQUsEaBLACK RECTyGuaWHITE RECTyGuaBLACK VzTICr RECTyGuaWHITE VzTICr",
      " RECTyGuaBLACK PsruLOGRAMaWHITE PsruLOGRAMaBLACK UP-POvTvG TRIyGuaWHITE UP-POvTvG TRIyGuaB",
      "LACK UP-POvTvG SMrL TRIyGuaWHITE UP-POvTvG SMrL TRIyGuaBLACK Rt-POvTvG TRIyGuaWHITE Rt-POv",
      "TvG TRIyGuaBLACK Rt-POvTvG SMrL TRIyGuaWHITE Rt-POvTvG SMrL TRIyGuaBLACK Rt-POvTvG POvTzaW",
      "HITE Rt-POvTvG POvTzaBLACK DOWN-POvTvG TRIyGuaWHITE DOWN-POvTvG TRIyGuaBLACK DOWN-POvTvG S",
      "MrL TRIyGuaWHITE DOWN-POvTvG SMrL TRIyGuaBLACK uFT-POvTvG TRIyGuaWHITE uFT-POvTvG TRIyGuaB",
      "LACK uFT-POvTvG SMrL TRIyGuaWHITE uFT-POvTvG SMrL TRIyGuaBLACK uFT-POvTvG POvTzaWHITE uFT-",
      "POvTvG POvTzaBLACK DIAMONDaWHITE DIAMONDcCONTAvvG BLACK SMrL DIAMONDaFISHEYEaLOZENGEaWHITE",
      " CIRCuaDOTTED CIRCuaCIRCuqVzTICr FILLaBULLSEYEaBLACK CIRCuaCIRCuquFT HrF BLACKcRt HrF BLAC",
      "KcLOWz HrF BLACKcUPPz HrF BLACKdRt QUADRyT BLACKcrL BUT UPPz uFT QUADRyT BLACKauFT HrF BLA",
      "CK CIRCuaRt HrF BLACK CIRCuavVzSE BULuTbWHITE CIRCuaUPPz HrF vVzSE WHITE CIRCuaLOWz HrF vV",
      "zSE WHITE CIRCuaUPPz uFT QUADRyT CIRCULs sCbRt QUADRyT CIRCULs sCaLOWz Rt QUADRyT CIRCULs ",
      "sCbuFT QUADRyT CIRCULs sCaUPPz HrF CIRCuaLOWz HrF CIRCuaBLACK LOWz Rt TRIyGucuFT TRIyGubUP",
      "Pz uFT TRIyGucRt TRIyGuaWHITE BULuTaSQUsEquFT HrF BLACKcRt HrF BLACKcUPPz uFT DIAGONr HrF ",
      "BLACKcLOWz Rt DIAGONr HrF BLACKaWHITE SQUsEqVzTICr BISECTvG LvEbUP-POvTvG TRIyGuqDOTaUP-PO",
      "vTvG TRIyGuquFT HrF BLACKdRt HrF BLACKaLsGE CIRCuaWHITE SQUsEqUPPz uFT QUADRyTdLOWz uFT QU",
      "ADRyTeRt QUADRyTdUPPz Rt QUADRyTbCIRCuqUPPz uFT QUADRyTdLOWz uFT QUADRyTeRt QUADRyTdUPPz R",
      "t QUADRyTaUPPz uFT TRIyGubRt TRIyGuaLOWz uFT TRIyGuaWHITE MEDIUM SQUsEaBLACK MEDIUM SQUsEa",
      "WHITE MEDIUM SMrL SQUsEaBLACK MEDIUM SMrL SQUsEaLOWz Rt TRIyGuaBLACK SUNqRAYSaCLOUDaUMBREL",
      "LAaSNOWMyaCOMETaBLACK STsaWHITE STsaLtNvGaTHUNDzSTORMaSUNaASCENDvG NODEaDESCENDvG NODEaCON",
      "JUNCTIONaOPPOSITIONaBLACK TEuPHONEaWHITE TEuPHONEaBrLOT BOXcWITH CHECKdXaSrTIREaUMBRELLAqR",
      "Av DROPSaHOT BEVzAGEaWHITE SHOGI PIECEaBLACK SHOGI PIECEaSHAMROCKaREVzSED ROTATED FLORr HE",
      "sT BULuTaBLACK uFT POvTvG vDEXbRt POvTvG vDEXaWHITE uFT POvTvG vDEXbUP POvTvG vDEXbRt POvT",
      "vG vDEXbDOWN POvTvG vDEXaSKULL yD CROSSBONESaCAUTION SIGNaRADIOACTIVE SIGNaBIOHAZsD SIGNaC",
      "ADUCEUSayKHaORTHODOX CROSSaCHI RHOaCROSS OF LORRAvEcJzUSrEMaSTs yD CRESCENTaFsSI SYMBOLaAD",
      "I SHAKTIaHAMMz yD SICKuaPEACE SYMBOLaYv YyGaTRIGRAM FOR HEAVENcLAKEcFIREcTHUNDzcWvDcWATzcM",
      "OUNTAvcEsTHaWHEEL OF DHsMAaWHITE FROWNvG FACEbSMILvG FACEaBLACK SMILvG FACEaWHITE SUNqRAYS",
      "aFIRST QUsTz MOONaLAST QUsTz MOONaMzCURYaFEMrE SIGNaEsTHaMrE SIGNaJUPITzaSATURNaURyUSaNEPT",
      "UNEaPLUTOasIESaTAURUSaGEMvIaCyCzauOaVIRGOaLIBRAaSCORPIUSaSAGITTsIUSaCAPRICORNaAQUsIUSaPISC",
      "ESaWHITE CHESS KvGcQUEENcROOKcBISHOPcKNtcPAWNaBLACK CHESS KvGcQUEENcROOKcBISHOPcKNtcPAWNbS",
      "PADE SUITaWHITE HEsT SUITbDIAMOND SUITaBLACK CLUB SUITaWHITE SPADE SUITaBLACK HEsT SUITbDI",
      "AMOND SUITaWHITE CLUB SUITaHOT SPRvGSaQUsTz NOTEaEtH NOTEaBEAMED EtH NOTESbSIXTEENTH NOTES",
      "aMUSIC FLAT SIGNbNATURr SIGNbSHsP SIGNaWEST SYRIAC CROSSaEAST SYRIAC CROSSaUNIVzSr RECYCLv",
      "G SYMBOLaRECYCLvG SYMBOL FOR TYPE-1 PLASTICSdTYPE-2 PLASTICSdTYPE-3 PLASTICSdTYPE-4 PLASTI",
      "CSdTYPE-5 PLASTICSdTYPE-6 PLASTICSdTYPE-7 PLASTICSdGENzIC MATzIrSaBLACK UNIVzSr RECYCLvG S",
      "YMBOLaRECYCuD PAPz SYMBOLaPsTIrLY-RECYCuD PAPz SYMBOLaPzMyENT PAPz SIGNaWHEELCHAIR SYMBOLa",
      "DIE FACE-1bFACE-2bFACE-3bFACE-4bFACE-5bFACE-6aWHITE CIRCuqDOT RtdTWO DOTSaBLACK CIRCuqWHIT",
      "E DOT RtdTWO WHITE DOTSaMONOGRAM FOR YyGcYvaDIGRAM FOR GREATz YyGcuSSz YvdYyGcGREATz YvaWH",
      "ITE FLAGaBLACK FLAGaHAMMz yD PICKayCHORaCROSSED SWORDSaSTAFF OF AESCULAPIUSaSCrESarEMBICaF",
      "LOWzaGEsaSTAFF OF HzMESaATOM SYMBOLaFuUR-DE-LISaOUTLvED WHITE STsaTHREE LvES CONVzGvG Rtdu",
      "FTaWsNvG SIGNaHIGH VOLTAGE SIGNaDOUBuD FEMrE SIGNbMrE SIGNavTzLOCKED FEMrE yD MrE SIGNaMrE",
      " yD FEMrE SIGNbWITH STROKE SIGNdyD MrE yD FEMrE SIGNaVzTICr MrEqSTROKE SIGNaHORIZONTr MrEq",
      "STROKE SIGNaMEDIUM WHITE CIRCubBLACK CIRCubSMrL WHITE CIRCuaMsRIAGE SYMBOLaDIVORCE SYMBOLa",
      "UNMsRIED PsTNzSHIP SYMBOLaCOFFvaFUNzr URNaNEUTzaCzESaPrLASaJUNOaVESTAaCHIRONaBLACK MOON LI",
      "LITHaSEXTIuaSEMISEXTIuaQUvCUNXaSESQUIQUADRATEaSOCCz BrLaBASEBrLaSQUsED KEYaWHITE DRAUGHTS ",
      "MycKvGaBLACK DRAUGHTS MycKvGaSNOWMy WITHOUT SNOWaSUN BEHvD CLOUDaRAvaBLACK SNOWMyaTHUNDz C",
      "LOUD yD RAvaTURNED WHITE SHOGI PIECEbBLACK SHOGI PIECEaWHITE DIAMOND v SQUsEaCROSSvG LyESa",
      "DISABuD CsaOPHIUCHUSaPICKaCs SLIDvGaHELMETqWHITE CROSSaCIRCuD CROSSvG LyESaCHAvSaNO ENTRYa",
      "rTzNATE ONE-WAY uFT WAY TRAFFICaBLACK TWO-WAY uFT WAY TRAFFICaWHITE TWO-WAY uFT WAY TRAFFI",
      "CaBLACK uFT LyE MzGEaWHITE uFT LyE MzGEaDRIVE SLOW SIGNaHEAVY WHITE DOWN-POvTvG TRIyGuauFT",
      " CLOSED ENTRYaSQUsED SrTIREaFrLvG DIAGONr v WHITE CIRCu v BLACK SQUsEaBLACK TRUCKaRESTRICT",
      "ED uFT ENTRY-1cENTRY-2aASTRONOMICr SYMBOL FOR URyUSaHEAVY CIRCuqSTROKE yD TWO DOTS ABOVEaP",
      "ENTAGRAMaRt-HyDED vTzLACED PENTAGRAMauFT-HyDED vTzLACED PENTAGRAMavVzTED PENTAGRAMaBLACK C",
      "ROSS ON SHIELDaSHvTO SHRvEaCHURCHaCASTuaHISTORIC SITEaGEs WITHOUT HUBbWITH HyDuSaMAP SYMBO",
      "L FOR LtHOUSEaMOUNTAvaUMBRELLA ON GROUNDaFOUNTAvaFLAG v HOuaFzRYaSAILBOATaSQUsE FOUR CORNz",
      "SaSKIzaICE SKATEaPzSONqBrLaTENTaJAPyESE ByK SYMBOLaHEADSTONE GRAVEYsD SYMBOLaFUEL PUMPaCUP",
      " ON BLACK SQUsEaWHITE FLAGqHORIZONTr MIDDu BLACK STRIPEaBLACK SAFETY SCISSORSaUPPz BLADE S",
      "CISSORSaBLACK SCISSORSaLOWz BLADE SCISSORSaWHITE SCISSORSbHEAVY CHECK MsKaTEuPHONE LOCATIO",
      "N SIGNaTAPE DRIVEaAIRPLyEaENVELOPEaRAISED FISTbHyDaVICTORY HyDaWRITvG HyDaLOWz Rt PENCILaP",
      "ENCILaUPPz Rt PENCILaWHITE NIBaBLACK NIBaCHECK MsKaHEAVY CHECK MsKaMULTIPLICATION XaHEAVY ",
      "MULTIPLICATION XaBrLOT XaHEAVY BrLOT XaOUTLvED GREEK CROSSaHEAVY GREEK CROSSaOPEN CENTRE C",
      "ROSSaHEAVY OPEN CENTRE CROSSaLATv CROSSaSHADOWED WHITE LATv CROSSaOUTLvED LATv CROSSaMrTES",
      "E CROSSaSTs OF DAVIDaFOUR TEsDROP-SPOKED ASTzISKbBrLOON-SPOKED ASTzISKaHEAVY FOUR BrLOON-S",
      "POKED ASTzISKaFOUR CLUB-SPOKED ASTzISKaBLACK FOUR POvTED STsaWHITE FOUR POvTED STsaSPsKuSa",
      "STRESS OUTLvED WHITE STsaCIRCuD WHITE STsaOPEN CENTRE BLACK STsaBLACK CENTRE WHITE STsaOUT",
      "LvED BLACK STsaHEAVY OUTLvED BLACK STsaPvWHEEL STsaSHADOWED WHITE STsaHEAVY ASTzISKaOPEN C",
      "ENTRE ASTzISKaEt SPOKED ASTzISKbPOvTED BLACK STscPvWHEEL STsaSIX POvTED BLACK STsaEt POvTE",
      "D RECTILvEs BLACK STsaHEAVY Et POvTED RECTILvEs BLACK STsaTWELVE POvTED BLACK STsaSIXTEEN ",
      "POvTED ASTzISKaTEsDROP-SPOKED ASTzISKaOPEN CENTRE TEsDROP-SPOKED ASTzISKaHEAVY TEsDROP-SPO",
      "KED ASTzISKaSIX PETruD BLACK yD WHITE FLORETTEaBLACK FLORETTEaWHITE FLORETTEaEt PETruD OUT",
      "LvED BLACK FLORETTEaCIRCuD OPEN CENTRE Et POvTED STsaHEAVY TEsDROP-SPOKED PvWHEEL ASTzISKa",
      "SNOWFLAKEaTt TRIFOLIATE SNOWFLAKEaHEAVY CHEVRON SNOWFLAKEaSPsKuaHEAVY SPsKuaBrLOON-SPOKED ",
      "ASTzISKaEt TEsDROP-SPOKED PROPELuR ASTzISKaHEAVY Et TEsDROP-SPOKED PROPELuR ASTzISKaCROSS ",
      "MsKaSHADOWED WHITE CIRCuaNEGATIVE SQUsED CROSS MsKaLOWz Rt DROP-SHADOWED WHITE SQUsEaUPPz ",
      "Rt DROP-SHADOWED WHITE SQUsEaLOWz Rt SHADOWED WHITE SQUsEaUPPz Rt SHADOWED WHITE SQUsEaBLA",
      "CK QUESTION MsK ORNAMENTaWHITE QUESTION MsK ORNAMENTbEXCLAMATION MsK ORNAMENTaBLACK DIAMON",
      "D MvUS WHITE XaHEAVY EXCLAMATION MsK SYMBOLaLt VzTICr BsaMEDIUM VzTICr BsaHEAVY VzTICr Bsb",
      "SvGu TURNED COMMA QUOTATION MsK ORNAMENTcCOMMA QUOTATION MsK ORNAMENTbDOUBu TURNED COMMA Q",
      "UOTATION MsK ORNAMENTcCOMMA QUOTATION MsK ORNAMENTbLOW SvGu COMMA QUOTATION MsK ORNAMENTcD",
      "OUBu COMMA QUOTATION MsK ORNAMENTaCURVED STEM PsAGRAPH SIGN ORNAMENTaHEAVY EXCLAMATION MsK",
      " ORNAMENTbHEsT EXCLAMATION MsK ORNAMENTbBLACK HEsTaROTATED HEAVY BLACK HEsT BULuTaFLORr HE",
      "sTaROTATED FLORr HEsT BULuTaMEDIUM uFT PsENTHESIS ORNAMENTbRt PsENTHESIS ORNAMENTbFLATTENE",
      "D uFT PsENTHESIS ORNAMENTcRt PsENTHESIS ORNAMENTbuFT-POvTvG yGu BRACKET ORNAMENTbRt-POvTvG",
      " yGu BRACKET ORNAMENTaHEAVY uFT-POvTvG yGu QUOTATION MsK ORNAMENTbRt-POvTvG yGu QUOTATION ",
      "MsK ORNAMENTbuFT-POvTvG yGu BRACKET ORNAMENTbRt-POvTvG yGu BRACKET ORNAMENTaLt uFT TORTOIS",
      "E SHELL BRACKET ORNAMENTbRt TORTOISE SHELL BRACKET ORNAMENTaMEDIUM uFT CURLY BRACKET ORNAM",
      "ENTbRt CURLY BRACKET ORNAMENTaDvGBAT NEGATIVE CIRCuD DIGIT ONEeTWOeTHREEeFOUReFIVEeSIXeSEV",
      "ENeEteNvEdNUMBz TENbCIRCuD SyS-SzIF DIGIT ONEeTWOeTHREEeFOUReFIVEeSIXeSEVENeEteNvEdNUMBz T",
      "ENbNEGATIVE CIRCuD SyS-SzIF DIGIT ONEfTWOfTHREEfFOURfFIVEfSIXfSEVENfEtfNvEeNUMBz TENaHEAVY",
      " WIDE-HEADED RtWsDS sROWbPLUS SIGNbMvUS SIGNbDIVISION SIGNbSOUTH EAST sROWbRtWsDS sROWbNOR",
      "TH EAST sROWaDRAFTvG POvT RtWsDS sROWaHEAVY ROUND-TIPPED RtWsDS sROWaTRIyGu-HEADED RtWsDS ",
      "sROWaHEAVY TRIyGu-HEADED RtWsDS sROWaDASHED TRIyGu-HEADED RtWsDS sROWaHEAVY DASHED TRIyGu-",
      "HEADED RtWsDS sROWaBLACK RtWsDS sROWaTHREE-D TOP-LtED RtWsDS sROWHEADbBOTTOM-LtED RtWsDS s",
      "ROWHEADaBLACK RtWsDS sROWHEADaHEAVY BLACK CURVED DOWNWsDS yD RtWsDS sROWdUPWsDS yD RtWsDS ",
      "sROWaSQUAT BLACK RtWsDS sROWaHEAVY CONCAVE-POvTED BLACK RtWsDS sROWaRt-SHADED WHITE RtWsDS",
      " sROWauFT-SHADED WHITE RtWsDS sROWaBACK-TILTED SHADOWED WHITE RtWsDS sROWaFRONT-TILTED SHA",
      "DOWED WHITE RtWsDS sROWaHEAVY LOWz Rt-SHADOWED WHITE RtWsDS sROWbUPPz Rt-SHADOWED WHITE Rt",
      "WsDS sROWaNOTCHED LOWz Rt-SHADOWED WHITE RtWsDS sROWaCURLY LOOPaNOTCHED UPPz Rt-SHADOWED W",
      "HITE RtWsDS sROWaCIRCuD HEAVY WHITE RtWsDS sROWaWHITE-FEATHzED RtWsDS sROWaBLACK-FEATHzED ",
      "SOUTH EAST sROWbRtWsDS sROWbNORTH EAST sROWaHEAVY BLACK-FEATHzED SOUTH EAST sROWcRtWsDS sR",
      "OWcNORTH EAST sROWaTEsDROP-BsBED RtWsDS sROWaHEAVY TEsDROP-SHyKED RtWsDS sROWaWEDGE-TAIuD ",
      "RtWsDS sROWaHEAVY WEDGE-TAIuD RtWsDS sROWaOPEN-OUTLvED RtWsDS sROWaDOUBu CURLY LOOPaTHREE ",
      "DIMENSIONr yGuaWHITE TRIyGu CONTAvvG SMrL WHITE TRIyGuaPzPENDICULsaOPEN SUBSETbSUPzSETauFT",
      " S-SHAPED BAG DELIMITzaRt S-SHAPED BAG DELIMITzaORqDOT vSIDEaREVzSE SOLIDUS PRECEDvG SUBSE",
      "TaSUPzSET PRECEDvG SOLIDUSaVzTICr BsqHORIZONTr STROKEaMATHEMATICr RISvG DIAGONraLONG DIVIS",
      "IONaMATHEMATICr FrLvG DIAGONraSQUsED LOGICr yDcORaWHITE DIAMONDqCENTRED DOTayDqDOTaEuMENT ",
      "OF OPENvG UPWsDSaLOWz Rt CORNzqDOTaUPPz uFT CORNzqDOTauFT OUTz JOvaRt OUTz JOvaFULL OUTz J",
      "OvaLsGE UP TACKbDOWN TACKauFT yD Rt DOUBu TURNSTIudTACKbMULTIMAPaLONG Rt TACKbuFT TACKaUP ",
      "TACKqCIRCu ABOVEaLOZENGE DIVIDED BY HORIZONTr RUuaWHITE CONCAVE-SIDED DIAMONDdWITH uFTWsDS",
      " TICKeRtWsDS TICKbSQUsEquFTWsDS TICKdRtWsDS TICKaMATHEMATICr uFT WHITE SQUsE BRACKETbRt WH",
      "ITE SQUsE BRACKETbuFT yGu BRACKETbRt yGu BRACKETbuFT DOUBu yGu BRACKETbRt DOUBu yGu BRACKE",
      "TbuFT WHITE TORTOISE SHELL BRACKETbRt WHITE TORTOISE SHELL BRACKETbuFT FLATTENED PsENTHESI",
      "SbRt FLATTENED PsENTHESISaUPWsDS QUADRUPu sROWaDOWNWsDS QUADRUPu sROWayTICLOCKWISE GAPPED ",
      "CIRCu sROWaCLOCKWISE GAPPED CIRCu sROWaRt sROWqCIRCuD PLUSaLONG uFTWsDS sROWbRtWsDS sROWbu",
      "FT Rt sROWbuFTWsDS DOUBu sROWbRtWsDS DOUBu sROWbuFT Rt DOUBu sROWbuFTWsDS sROW FROM BsbRtW",
      "sDS sROW FROM BsbuFTWsDS DOUBu sROW FROM BsbRtWsDS DOUBu sROW FROM BscSQUIGGu sROWaBRAILu ",
      "PATTzN BLyKcDOTS-1cDOTS-2cDOTS-12cDOTS-3cDOTS-13cDOTS-23cDOTS-123cDOTS-4cDOTS-14cDOTS-24cD",
      "OTS-124cDOTS-34cDOTS-134cDOTS-234cDOTS-1234cDOTS-5cDOTS-15cDOTS-25cDOTS-125cDOTS-35cDOTS-1",
      "35cDOTS-235cDOTS-1235cDOTS-45cDOTS-145cDOTS-245cDOTS-1245cDOTS-345cDOTS-1345cDOTS-2345cDOT",
      "S-12345cDOTS-6cDOTS-16cDOTS-26cDOTS-126cDOTS-36cDOTS-136cDOTS-236cDOTS-1236cDOTS-46cDOTS-1",
      "46cDOTS-246cDOTS-1246cDOTS-346cDOTS-1346cDOTS-2346cDOTS-12346cDOTS-56cDOTS-156cDOTS-256cDO",
      "TS-1256cDOTS-356cDOTS-1356cDOTS-2356cDOTS-12356cDOTS-456cDOTS-1456cDOTS-2456cDOTS-12456cDO",
      "TS-3456cDOTS-13456cDOTS-23456cDOTS-123456cDOTS-7cDOTS-17cDOTS-27cDOTS-127cDOTS-37cDOTS-137",
      "cDOTS-237cDOTS-1237cDOTS-47cDOTS-147cDOTS-247cDOTS-1247cDOTS-347cDOTS-1347cDOTS-2347cDOTS-",
      "12347cDOTS-57cDOTS-157cDOTS-257cDOTS-1257cDOTS-357cDOTS-1357cDOTS-2357cDOTS-12357cDOTS-457",
      "cDOTS-1457cDOTS-2457cDOTS-12457cDOTS-3457cDOTS-13457cDOTS-23457cDOTS-123457cDOTS-67cDOTS-1",
      "67cDOTS-267cDOTS-1267cDOTS-367cDOTS-1367cDOTS-2367cDOTS-12367cDOTS-467cDOTS-1467cDOTS-2467",
      "cDOTS-12467cDOTS-3467cDOTS-13467cDOTS-23467cDOTS-123467cDOTS-567cDOTS-1567cDOTS-2567cDOTS-",
      "12567cDOTS-3567cDOTS-13567cDOTS-23567cDOTS-123567cDOTS-4567cDOTS-14567cDOTS-24567cDOTS-124",
      "567cDOTS-34567cDOTS-134567cDOTS-234567cDOTS-1234567cDOTS-8cDOTS-18cDOTS-28cDOTS-128cDOTS-3",
      "8cDOTS-138cDOTS-238cDOTS-1238cDOTS-48cDOTS-148cDOTS-248cDOTS-1248cDOTS-348cDOTS-1348cDOTS-",
      "2348cDOTS-12348cDOTS-58cDOTS-158cDOTS-258cDOTS-1258cDOTS-358cDOTS-1358cDOTS-2358cDOTS-1235",
      "8cDOTS-458cDOTS-1458cDOTS-2458cDOTS-12458cDOTS-3458cDOTS-13458cDOTS-23458cDOTS-123458cDOTS",
      "-68cDOTS-168cDOTS-268cDOTS-1268cDOTS-368cDOTS-1368cDOTS-2368cDOTS-12368cDOTS-468cDOTS-1468",
      "cDOTS-2468cDOTS-12468cDOTS-3468cDOTS-13468cDOTS-23468cDOTS-123468cDOTS-568cDOTS-1568cDOTS-",
      "2568cDOTS-12568cDOTS-3568cDOTS-13568cDOTS-23568cDOTS-123568cDOTS-4568cDOTS-14568cDOTS-2456",
      "8cDOTS-124568cDOTS-34568cDOTS-134568cDOTS-234568cDOTS-1234568cDOTS-78cDOTS-178cDOTS-278cDO",
      "TS-1278cDOTS-378cDOTS-1378cDOTS-2378cDOTS-12378cDOTS-478cDOTS-1478cDOTS-2478cDOTS-12478cDO",
      "TS-3478cDOTS-13478cDOTS-23478cDOTS-123478cDOTS-578cDOTS-1578cDOTS-2578cDOTS-12578cDOTS-357",
      "8cDOTS-13578cDOTS-23578cDOTS-123578cDOTS-4578cDOTS-14578cDOTS-24578cDOTS-124578cDOTS-34578",
      "cDOTS-134578cDOTS-234578cDOTS-1234578cDOTS-678cDOTS-1678cDOTS-2678cDOTS-12678cDOTS-3678cDO",
      "TS-13678cDOTS-23678cDOTS-123678cDOTS-4678cDOTS-14678cDOTS-24678cDOTS-124678cDOTS-34678cDOT",
      "S-134678cDOTS-234678cDOTS-1234678cDOTS-5678cDOTS-15678cDOTS-25678cDOTS-125678cDOTS-35678cD",
      "OTS-135678cDOTS-235678cDOTS-1235678cDOTS-45678cDOTS-145678cDOTS-245678cDOTS-1245678cDOTS-3",
      "45678cDOTS-1345678cDOTS-2345678cDOTS-12345678aRtWsDS TWO-HEADED sROWqVzTICr STROKEeDOUBu V",
      "zTICr STROKEauFTWsDS DOUBu sROWqVzTICr STROKEaRtWsDS DOUBu sROWqVzTICr STROKEauFT Rt DOUBu",
      " sROWqVzTICr STROKEaRtWsDS TWO-HEADED sROW FROM BsauFTWsDS DOUBu sROW FROM BsaRtWsDS DOUBu",
      " sROW FROM BsaDOWNWsDS sROWqHORIZONTr STROKEaUPWsDS sROWqHORIZONTr STROKEbTRIPu sROWaDOWNW",
      "sDS TRIPu sROWauFTWsDS DOUBu DASH sROWaRtWsDS DOUBu DASH sROWauFTWsDS TRIPu DASH sROWaRtWs",
      "DS TRIPu DASH sROWbTWO-HEADED TRIPu DASH sROWbsROWqDOTTED STEMaUPWsDS sROW TO BsaDOWNWsDS ",
      "sROW TO BsaRtWsDS sROWqTAILqVzTICr STROKEfDOUBu VzTICr STROKEbTWO-HEADED sROWqTAILfWITH Vz",
      "TICr STROKEgDOUBu VzTICr STROKEauFTWsDS sROW-TAILaRtWsDS sROW-TAILauFTWsDS DOUBu sROW-TAIL",
      "aRtWsDS DOUBu sROW-TAILauFTWsDS sROW TO BLACK DIAMONDaRtWsDS sROW TO BLACK DIAMONDauFTWsDS",
      " sROW FROM Bs TO BLACK DIAMONDaRtWsDS sROW FROM Bs TO BLACK DIAMONDaNORTH WEST yD SOUTH EA",
      "ST sROWbEAST yD SOUTH WEST sROWbWEST sROWqHOOKbEAST sROWqHOOKaSOUTH EAST sROWqHOOKbWEST sR",
      "OWqHOOKaNORTH WEST sROW yD NORTH EAST sROWbEAST sROW yD SOUTH EAST sROWaSOUTH EAST sROW yD",
      " SOUTH WEST sROWbWEST sROW yD NORTH WEST sROWaRISvG DIAGONr CROSSvG FrLvG DIAGONraFrLvG DI",
      "AGONr CROSSvG RISvG DIAGONraSOUTH EAST sROW CROSSvG NORTH EAST sROWaNORTH EAST sROW CROSSv",
      "G SOUTH EAST sROWaFrLvG DIAGONr CROSSvG NORTH EAST sROWaRISvG DIAGONr CROSSvG SOUTH EAST s",
      "ROWaNORTH EAST sROW CROSSvG NORTH WEST sROWbWEST sROW CROSSvG NORTH EAST sROWaWAVE sROW PO",
      "vTvG DIRECTLY RtasROW POvTvG RtWsDS THEN CURVvG UPWsDSfDOWNWsDScDOWNWsDS THEN CURVvG uFTWs",
      "DSfRtWsDSaRt-SIDE sC CLOCKWISE sROWauFT-SIDE sC yTICLOCKWISE sROWaTOP sC yTICLOCKWISE sROW",
      "aBOTTOM sC yTICLOCKWISE sROWaTOP sC CLOCKWISE sROWqMvUScyTICLOCKWISE sROWqPLUSaLOWz Rt SEM",
      "ICIRCULs CLOCKWISE sROWbuFT SEMICIRCULs yTICLOCKWISE sROWayTICLOCKWISE CLOSED CIRCu sROWaC",
      "LOCKWISE CLOSED CIRCu sROWaRtWsDS sROW ABOVE SHORT uFTWsDS sROWauFTWsDS sROW ABOVE SHORT R",
      "tWsDS sROWaSHORT RtWsDS sROW ABOVE uFTWsDS sROWaRtWsDS sROWqPLUS BELOWauFTWsDS sROWqPLUS B",
      "ELOWaRtWsDS sROW THROUGH XauFT Rt sROW THROUGH SMrL CIRCuaUPWsDS TWO-HEADED sROW FROM SMrL",
      " CIRCuauFT BsB UP Rt BsB DOWN HsPOONcDOWN Rt BsB UP HsPOONaUP BsB Rt DOWN BsB uFT HsPOONcu",
      "FT DOWN BsB Rt HsPOONauFT BsB UP Rt BsB UP HsPOONaUP BsB Rt DOWN BsB Rt HsPOONauFT BsB DOW",
      "N Rt BsB DOWN HsPOONaUP BsB uFT DOWN BsB uFT HsPOONauFTWsDS HsPOONqBsB UP TO BsaRtWsDS HsP",
      "OONqBsB UP TO BsaUPWsDS HsPOONqBsB Rt TO BsaDOWNWsDS HsPOONqBsB Rt TO BsauFTWsDS HsPOONqBs",
      "B DOWN TO BsaRtWsDS HsPOONqBsB DOWN TO BsaUPWsDS HsPOONqBsB uFT TO BsaDOWNWsDS HsPOONqBsB ",
      "uFT TO BsauFTWsDS HsPOONqBsB UP FROM BsaRtWsDS HsPOONqBsB UP FROM BsaUPWsDS HsPOONqBsB Rt ",
      "FROM BsaDOWNWsDS HsPOONqBsB Rt FROM BsauFTWsDS HsPOONqBsB DOWN FROM BsaRtWsDS HsPOONqBsB D",
      "OWN FROM BsaUPWsDS HsPOONqBsB uFT FROM BsaDOWNWsDS HsPOONqBsB uFT FROM BsauFTWsDS HsPOONqB",
      "sB UP ABOVE uFTWsDS HsPOONqBsB DOWNaUPWsDS HsPOONqBsB uFT BESIDE UPWsDS HsPOONqBsB RtaRtWs",
      "DS HsPOONqBsB UP ABOVE RtWsDS HsPOONqBsB DOWNaDOWNWsDS HsPOONqBsB uFT BESIDE DOWNWsDS HsPO",
      "ONqBsB RtauFTWsDS HsPOONqBsB UP ABOVE RtWsDS HsPOONqBsB UPeDOWN ABOVE RtWsDS HsPOONqBsB DO",
      "WNaRtWsDS HsPOONqBsB UP ABOVE uFTWsDS HsPOONqBsB UPeDOWN ABOVE uFTWsDS HsPOONqBsB DOWNauFT",
      "WsDS HsPOONqBsB UP ABOVE LONG DASHeDOWN BELOW LONG DASHaRtWsDS HsPOONqBsB UP ABOVE LONG DA",
      "SHeDOWN BELOW LONG DASHaUPWsDS HsPOONqBsB uFT BESIDE DOWNWsDS HsPOONqBsB RtaDOWNWsDS HsPOO",
      "NqBsB uFT BESIDE UPWsDS HsPOONqBsB RtaRt DOUBu sROWqROUNDED HEADaEQUrS SIGN ABOVE RtWsDS s",
      "ROWaTILDE OPzATOR ABOVE RtWsDS sROWauFTWsDS sROW ABOVE TILDE OPzATORaRtWsDS sROW ABOVE TIL",
      "DE OPzATORdrMOST EQUr TOauSS-THy ABOVE uFTWsDS sROWauFTWsDS sROW THROUGH uSS-THyaGREATz-TH",
      "y ABOVE RtWsDS sROWaSUBSET ABOVE RtWsDS sROWauFTWsDS sROW THROUGH SUBSETaSUPzSET ABOVE uFT",
      "WsDS sROWauFT FISH TAILaRt FISH TAILaUP FISH TAILaDOWN FISH TAILaTRIPu VzTICr Bs DELIMITza",
      "Z NOTATION SPOTcTYPE COLONauFT WHITE CURLY BRACKETaRt WHITE CURLY BRACKETauFT WHITE PsENTH",
      "ESISaRt WHITE PsENTHESISaZ NOTATION uFT IMAGE BRACKETcRt IMAGE BRACKETcuFT BvDvG BRACKETcR",
      "t BvDvG BRACKETauFT SQUsE BRACKETqUNDzBsaRt SQUsE BRACKETqUNDzBsauFT SQUsE BRACKETqTICK v ",
      "TOP CORNzaRt SQUsE BRACKETqTICK v BOTTOM CORNzauFT SQUsE BRACKETqTICK v BOTTOM CORNzaRt SQ",
      "UsE BRACKETqTICK v TOP CORNzauFT yGu BRACKETqDOTaRt yGu BRACKETqDOTauFT sC uSS-THy BRACKET",
      "aRt sC GREATz-THy BRACKETaDOUBu uFT sC GREATz-THy BRACKETbRt sC uSS-THy BRACKETauFT BLACK ",
      "TORTOISE SHELL BRACKETaRt BLACK TORTOISE SHELL BRACKETaDOTTED FENCEaVzTICr ZIGZAG LvEaMEAS",
      "URED yGu OPENvG uFTaRt yGu VsIyTqSQUsEaMEASURED Rt yGuqDOTayGuqS vSIDEaACUTE yGuaSPHzICr y",
      "Gu OPENvG uFTdUPaTURNED yGuaREVzSED yGuayGuqUNDzBsaREVzSED yGuqUNDzBsaOBLIQUE yGu OPENvG U",
      "PdDOWNaMEASURED yGuqOPEN sM ENDvG v sROW POvTvG UP yD RtluFTjDOWN yD RtluFTjRt yD UPjuFT y",
      "D UPjRt yD DOWNjuFT yD DOWNaREVzSED EMPTY SETaEMPTY SETqOVzBsdSMrL CIRCu ABOVEdRt sROW ABO",
      "VEduFT sROW ABOVEaCIRCuqHORIZONTr BsaCIRCuD VzTICr BsbPsruLbREVzSE SOLIDUSbPzPENDICULsaCIR",
      "Cu DIVIDED BY HORIZONTr Bs yD TOP HrF DIVIDED BY VzTICr BsbWITH SUPzIMPOSED XaCIRCuD yTICL",
      "OCKWISE-ROTATED DIVISION SIGNaUP sROW THROUGH CIRCuaCIRCuD WHITE BULuTbBULuTbuSS-THybGREAT",
      "z-THyaCIRCuqSMrL CIRCu TO THE RtcTWO HORIZONTr STROKES TO THE RtaSQUsED RISvG DIAGONr SLAS",
      "HbFrLvG DIAGONr SLASHbASTzISKbSMrL CIRCubSQUsEaTWO JOvED SQUsESaTRIyGuqDOT ABOVEcUNDzBsaS ",
      "v TRIyGuaTRIyGuqSzIFS AT BOTTOMaRt TRIyGu ABOVE uFT TRIyGuauFT TRIyGu BESIDE VzTICr BsaVzT",
      "ICr Bs BESIDE Rt TRIyGuaBOWTIEquFT HrF BLACKcRt HrF BLACKaBLACK BOWTIEaTIMESquFT HrF BLACK",
      "cRt HrF BLACKaWHITE HOURGLASSaBLACK HOURGLASSauFT WIGGLY FENCEaRt WIGGLY FENCEauFT DOUBu W",
      "IGGLY FENCEaRt DOUBu WIGGLY FENCEavCOMPuTE vFvITYaTIE OVz vFvITYavFvITY NEGATEDqVzTICr Bsa",
      "DOUBu-ENDED MULTIMAPaSQUsEqCONTOURED OUTLvEavCREASES ASaSHUFFu PRODUCTaEQUrS SIGN yD SLyTE",
      "D PsruLfWITH TILDE ABOVEaIDENTICr TO yD SLyTED PsruLaGuICH STsKaTHzMODYNAMICaDOWN-POvTvG T",
      "RIyGuquFT HrF BLACKdRt HrF BLACKaBLACK DIAMONDqDOWN sROWbLOZENGEaWHITE CIRCuqDOWN sROWaBLA",
      "CK CIRCuqDOWN sROWazROR-BsRED WHITE SQUsEbBLACK SQUsEbWHITE DIAMONDbBLACK DIAMONDbWHITE CI",
      "RCubBLACK CIRCuaRUu-DELAYEDaREVzSE SOLIDUS OPzATORaSOLIDUSqOVzBsaREVzSE SOLIDUSqHORIZONTr ",
      "STROKEaBIG SOLIDUSbREVzSE SOLIDUSaDOUBu PLUSaTRIPu PLUSauFT-POvTvG CURVED yGu BRACKETaRt-P",
      "OvTvG CURVED yGu BRACKETaTvYaMvYaN-sY CIRCuD DOT OPzATORcPLUS OPzATORcTIMES OPzATORbUNION ",
      "OPzATORqDOTePLUSbSQUsE vTzSECTION OPzATORcUNION OPzATORaTWO LOGICr yD OPzATORcOR OPzATORaN",
      "-sY TIMES OPzATORaMODULO TWO SUMaSUMMATIONqvTEGRraQUADRUPu vTEGRr OPzATORaFvITE PsT vTEGRr",
      "avTEGRrqDOUBu STROKEbAVzAGEqSLASHaCIRCULATION FUNCTIONayTICLOCKWISE vTEGRATIONaLvE vTEGRAT",
      "IONqRECTyGULs PATH sOUND POudSEMICIRCULs PATH sOUND POucNOT vCLUDvG THE POuavTEGRr sOUND A",
      " POvT OPzATORaQUATzNION vTEGRr OPzATORavTEGRrquFTWsDS sROWqHOOKcTIMES SIGNcvTzSECTIONcUNIO",
      "NcOVzBscUNDzBsaJOvaLsGE uFT TRIyGu OPzATORaZ NOTATION SCHEMA COMPOSITIONdPIPvGdPROJECTIONa",
      "PLUS SIGNqSMrL CIRCu ABOVEdCIRCUMFuX ACCENT ABOVEdTILDE ABOVEdDOT BELOWdTILDE BELOWdSUBSCR",
      "IPT TWOdBLACK TRIyGuaMvUS SIGNqCOMMA ABOVEdDOT BELOWdFrLvG DOTSdRISvG DOTSaPLUS SIGN v uFT",
      " HrF CIRCudRt HrF CIRCuaVECTOR OR CROSS PRODUCTaMULTIPLICATION SIGNqDOT ABOVEdUNDzBsaSEMID",
      "IRECT PRODUCTqBOTTOM CLOSEDaSMASH PRODUCTaMULTIPLICATION SIGN v uFT HrF CIRCudRt HrF CIRCu",
      "aCIRCuD MULTIPLICATION SIGNqCIRCUMFuX ACCENTaMULTIPLICATION SIGN v DOUBu CIRCuaCIRCuD DIVI",
      "SION SIGNaPLUS SIGN v TRIyGuaMvUS SIGN v TRIyGuaMULTIPLICATION SIGN v TRIyGuavTzIOR PRODUC",
      "TaRtHyD vTzIOR PRODUCTaZ NOTATION RELATIONr COMPOSITIONaAMrGAMATION OR COPRODUCTavTzSECTIO",
      "NqDOTaUNIONqMvUS SIGNcOVzBsavTzSECTIONqOVzBscLOGICr yDaUNIONqLOGICr ORbABOVE vTzSECTIONavT",
      "zSECTION ABOVE UNIONaUNION ABOVE Bs ABOVE vTzSECTIONavTzSECTION ABOVE Bs ABOVE UNIONaUNION",
      " BESIDE yD JOvEDqUNIONavTzSECTION BESIDE yD JOvEDqvTzSECTIONaCLOSED UNIONqSzIFSbvTzSECTION",
      "qSzIFSaDOUBu SQUsE vTzSECTIONcUNIONaCLOSED UNIONqSzIFS yD SMASH PRODUCTaLOGICr yDqDOT ABOV",
      "EbORqDOT ABOVEaDOUBu LOGICr yDcORaTWO vTzSECTvG LOGICr yDdORaSLOPvG LsGE ORcyDaLOGICr OR O",
      "VzLAPPvG LOGICr yDbyDqMIDDu STEMbORqMIDDu STEMbyDqHORIZONTr DASHbORqHORIZONTr DASHbyDqDOUB",
      "u OVzBsdUNDzBsdDOUBu UNDzBsaSMrL VEEqUNDzBsaLOGICr ORqDOUBu OVzBseUNDzBsaZ NOTATION DOMAv ",
      "yTIRESTRICTIONcRyGE yTIRESTRICTIONaEQUrS SIGNqDOT BELOWaIDENTICrqDOT ABOVEaTRIPu HORIZONTr",
      " BsqDOUBu VzTICr STROKEeTRIPu VzTICr STROKEaTILDE OPzATORqDOT ABOVEdRISvG DOTSaSIMILs MvUS",
      " SIMILsaCONGRUENTqDOT ABOVEaEQUrSqASTzISKarMOST EQUr TOqCIRCUMFuX ACCENTaAPPROXIMATELY EQU",
      "r OR EQUr TOaEQUrS SIGN ABOVE PLUS SIGNaPLUS SIGN ABOVE EQUrS SIGNaEQUrS SIGN ABOVE TILDE ",
      "OPzATORaDOUBu COLON EQUraTWO CONSECUTIVE EQUrS SIGNSaTHREE CONSECUTIVE EQUrS SIGNSaEQUrS S",
      "IGNqTWO DOTS ABOVE yD TWO DOTS BELOWaEQUIVrENTqFOUR DOTS ABOVEauSS-THyqCIRCu vSIDEaGREATz-",
      "THyqCIRCu vSIDEauSS-THyqQUESTION MsK ABOVEaGREATz-THyqQUESTION MsK ABOVEauSS-THy OR SLyTED",
      " EQUr TOaGREATz-THy OR SLyTED EQUr TOauSS-THy OR SLyTED EQUr TOqDOT vSIDEaGREATz-THy OR SL",
      "yTED EQUr TOqDOT vSIDEauSS-THy OR SLyTED EQUr TOqDOT ABOVEaGREATz-THy OR SLyTED EQUr TOqDO",
      "T ABOVEauSS-THy OR SLyTED EQUr TOqDOT ABOVE RtaGREATz-THy OR SLyTED EQUr TOqDOT ABOVE uFTa",
      "uSS-THy OR APPROXIMATEaGREATz-THy OR APPROXIMATEauSS-THy yD SvGu-LvE NOT EQUr TOaGREATz-TH",
      "y yD SvGu-LvE NOT EQUr TOauSS-THy yD NOT APPROXIMATEaGREATz-THy yD NOT APPROXIMATEauSS-THy",
      " ABOVE DOUBu-LvE EQUr ABOVE GREATz-THyaGREATz-THy ABOVE DOUBu-LvE EQUr ABOVE uSS-THyauSS-T",
      "Hy ABOVE SIMILs OR EQUraGREATz-THy ABOVE SIMILs OR EQUrauSS-THy ABOVE SIMILs ABOVE GREATz-",
      "THyaGREATz-THy ABOVE SIMILs ABOVE uSS-THyauSS-THy ABOVE GREATz-THy ABOVE DOUBu-LvE EQUraGR",
      "EATz-THy ABOVE uSS-THy ABOVE DOUBu-LvE EQUrauSS-THy ABOVE SLyTED EQUr ABOVE GREATz-THy ABO",
      "VE SLyTED EQUraGREATz-THy ABOVE SLyTED EQUr ABOVE uSS-THy ABOVE SLyTED EQUraSLyTED EQUr TO",
      " OR uSS-THyeGREATz-THyeuSS-THyqDOT vSIDEeGREATz-THyqDOT vSIDEaDOUBu-LvE EQUr TO OR uSS-THy",
      "eGREATz-THybSLyTED EQUr TO OR uSS-THyfGREATz-THyaSIMILs OR uSS-THycGREATz-THybABOVE uSS-TH",
      "y ABOVE EQUrS SIGNcGREATz-THy ABOVE EQUrS SIGNaDOUBu NESTED uSS-THycGREATz-THycuSS-THyqUND",
      "zBsaGREATz-THy OVzLAPPvG uSS-THybBESIDE uSS-THyauSS-THy CLOSED BY CURVEaGREATz-THy CLOSED ",
      "BY CURVEauSS-THy CLOSED BY CURVE ABOVE SLyTED EQUraGREATz-THy CLOSED BY CURVE ABOVE SLyTED",
      " EQUraSMruR THyaLsGz THyaSMruR THy OR EQUr TOaLsGz THy OR EQUr TOaEQUrS SIGNqBUMPY ABOVEaP",
      "RECEDES ABOVE SvGu-LvE EQUrS SIGNaSUCCEEDS ABOVE SvGu-LvE EQUrS SIGNaPRECEDES ABOVE SvGu-L",
      "vE NOT EQUr TOaSUCCEEDS ABOVE SvGu-LvE NOT EQUr TOaPRECEDES ABOVE EQUrS SIGNaSUCCEEDS ABOV",
      "E EQUrS SIGNaPRECEDES ABOVE NOT EQUr TOaSUCCEEDS ABOVE NOT EQUr TOaPRECEDES ABOVE rMOST EQ",
      "Ur TOaSUCCEEDS ABOVE rMOST EQUr TOaPRECEDES ABOVE NOT rMOST EQUr TOaSUCCEEDS ABOVE NOT rMO",
      "ST EQUr TOaDOUBu PRECEDESbSUCCEEDSaSUBSETqDOTaSUPzSETqDOTaSUBSETqPLUS SIGN BELOWaSUPzSETqP",
      "LUS SIGN BELOWaSUBSETqMULTIPLICATION SIGN BELOWaSUPzSETqMULTIPLICATION SIGN BELOWaSUBSET O",
      "F OR EQUr TOqDOT ABOVEaSUPzSET OF OR EQUr TOqDOT ABOVEaSUBSET OF ABOVE EQUrS SIGNaSUPzSET ",
      "OF ABOVE EQUrS SIGNaSUBSET OF ABOVE TILDE OPzATORaSUPzSET OF ABOVE TILDE OPzATORaSUBSET OF",
      " ABOVE rMOST EQUr TOaSUPzSET OF ABOVE rMOST EQUr TOaSUBSET OF ABOVE NOT EQUr TOaSUPzSET OF",
      " ABOVE NOT EQUr TOaSQUsE uFT OPEN BOX OPzATORbRt OPEN BOX OPzATORaCLOSED SUBSETbSUPzSETbSU",
      "BSET OR EQUr TObSUPzSET OR EQUr TOaSUBSET ABOVE SUPzSETaSUPzSET ABOVE SUBSETaSUBSET ABOVE ",
      "SUBSETaSUPzSET ABOVE SUPzSETbBESIDE SUBSETcyD JOvED BY DASHqSUBSETaEuMENT OF OPENvG DOWNWs",
      "DSaPITCHFORKqTEE TOPaTRySVzSr vTzSECTIONaFORKvGaNONFORKvGaSHORT uFT TACKbDOWN TACKbUP TACK",
      "aPzPENDICULsqSaVzTICr Bs TRIPu Rt TURNSTIuaDOUBu VzTICr Bs uFT TURNSTIuaVzTICr Bs DOUBu uF",
      "T TURNSTIuaDOUBu VzTICr Bs DOUBu uFT TURNSTIuaLONG DASH FROM uFT MEMBz OF DOUBu VzTICraSHO",
      "RT DOWN TACKqOVzBsbUP TACKqUNDzBsdABOVE SHORT DOWN TACKaDOUBu DOWN TACKbUP TACKbSTROKE NOT",
      " SIGNaREVzSED DOUBu STROKE NOT SIGNaDOES NOT DIVIDEqREVzSED NEGATION SLASHaVzTICr LvEqCIRC",
      "u ABOVEeBELOWaDOWN TACKqCIRCu BELOWaPsruLqHORIZONTr STROKEcTILDE OPzATORaTRIPu VzTICr Bs B",
      "vsY RELATIONdWITH HORIZONTr STROKEbCOLON OPzATORbNESTED uSS-THycGREATz-THyaDOUBu-LvE SLyTE",
      "D uSS-THy OR EQUr TOcGREATz-THy OR EQUr TOaTRIPu SOLIDUS BvsY RELATIONaLsGE TRIPu VzTICr B",
      "s OPzATORaDOUBu SOLIDUS OPzATORaWHITE VzTICr BsaN-sY WHITE VzTICr BsaNORTH EAST WHITE sROW",
      "bWEST WHITE sROWaSOUTH EAST WHITE sROWbWEST WHITE sROWauFT Rt WHITE sROWauFTWsDS BLACK sRO",
      "WaUPWsDS BLACK sROWaDOWNWsDS BLACK sROWaNORTH EAST BLACK sROWbWEST BLACK sROWaSOUTH EAST B",
      "LACK sROWbWEST BLACK sROWauFT Rt BLACK sROWaUP DOWN BLACK sROWaRtWsDS sROWqTIP DOWNWsDSeUP",
      "WsDSauFTWsDS sROWqTIP DOWNWsDSeUPWsDSaSQUsEqTOP HrF BLACKcBOTTOM HrF BLACKcUPPz Rt DIAGONr",
      " HrF BLACKcLOWz uFT DIAGONr HrF BLACKaDIAMONDquFT HrF BLACKcRt HrF BLACKcTOP HrF BLACKcBOT",
      "TOM HrF BLACKaDOTTED SQUsEaBLACK LsGE SQUsEaWHITE LsGE SQUsEaBLACK VzY SMrL SQUsEaWHITE Vz",
      "Y SMrL SQUsEaBLACK PENTAGONaWHITE PENTAGONbHEXAGONaBLACK HEXAGONaHORIZONTr BLACK HEXAGONaB",
      "LACK LsGE CIRCubMEDIUM DIAMONDaWHITE MEDIUM DIAMONDaBLACK MEDIUM LOZENGEaWHITE MEDIUM LOZE",
      "NGEaBLACK SMrL DIAMONDcLOZENGEaWHITE SMrL LOZENGEaBLACK HORIZONTr ELLIPSEaWHITE HORIZONTr ",
      "ELLIPSEaBLACK VzTICr ELLIPSEaWHITE VzTICr ELLIPSEauFT sROWqSMrL CIRCuaTHREE uFTWsDS sROWSa",
      "uFT sROWqCIRCuD PLUSaLONG uFTWsDS SQUIGGu sROWauFTWsDS TWO-HEADED sROWqVzTICr STROKEeDOUBu",
      " VzTICr STROKEdFROM BscTRIPu DASH sROWbsROWqDOTTED STEMdTAILqVzTICr STROKEfDOUBu VzTICr ST",
      "ROKEbTWO-HEADED sROWqTAILfWITH VzTICr STROKEgDOUBu VzTICr STROKEbsROW THROUGH XaWAVE sROW ",
      "POvTvG DIRECTLY uFTaEQUrS SIGN ABOVE uFTWsDS sROWaREVzSE TILDE OPzATOR ABOVE uFTWsDS sROWa",
      "uFTWsDS sROW ABOVE REVzSE rMOST EQUr TOaRtWsDS sROW THROUGH GREATz-THydSUPzSETauFTWsDS QUA",
      "DRUPu sROWaRtWsDS QUADRUPu sROWaREVzSE TILDE OPzATOR ABOVE RtWsDS sROWaRtWsDS sROW ABOVE R",
      "EVzSE rMOST EQUr TOaTILDE OPzATOR ABOVE uFTWsDS sROWauFTWsDS sROW ABOVE rMOST EQUr TOdREVz",
      "SE TILDE OPzATORaRtWsDS sROW ABOVE REVzSE TILDE OPzATORaDOWNWsDS TRIyGu-HEADED ZIGZAG sROW",
      "aSHORT SLyTED NORTH sROWbBACKSLyTED SOUTH sROWaWHITE MEDIUM STsaBLACK SMrL STsaWHITE SMrL ",
      "STsaBLACK Rt-POvTvG PENTAGONaWHITE Rt-POvTvG PENTAGONaHEAVY LsGE CIRCubOVrqOVr vSIDEbCIRCu",
      "qCIRCu vSIDEbCIRCubCIRCuD SrTIREaSLyTED NORTH sROWqHOOKED HEADaBACKSLyTED SOUTH sROWqHOOKE",
      "D TAILaSLyTED NORTH sROWqHORIZONTr TAILaBACKSLyTED SOUTH sROWqHORIZONTr TAILaBENT sROW POv",
      "TvG DOWNWsDS THEN NORTH EASTaSHORT BENT sROW POvTvG DOWNWsDS THEN NORTH EASTauFTWsDS TRIyG",
      "u-HEADED sROWaUPWsDS TRIyGu-HEADED sROWaRtWsDS TRIyGu-HEADED sROWaDOWNWsDS TRIyGu-HEADED s",
      "ROWauFT Rt TRIyGu-HEADED sROWaUP DOWN TRIyGu-HEADED sROWaNORTH WEST TRIyGu-HEADED sROWbEAS",
      "T TRIyGu-HEADED sROWaSOUTH EAST TRIyGu-HEADED sROWbWEST TRIyGu-HEADED sROWauFTWsDS TRIyGu-",
      "HEADED DASHED sROWaUPWsDS TRIyGu-HEADED DASHED sROWaRtWsDS TRIyGu-HEADED DASHED sROWaDOWNW",
      "sDS TRIyGu-HEADED DASHED sROWaCLOCKWISE TRIyGu-HEADED OPEN CIRCu sROWayTICLOCKWISE TRIyGu-",
      "HEADED OPEN CIRCu sROWauFTWsDS TRIyGu-HEADED sROW TO BsaUPWsDS TRIyGu-HEADED sROW TO BsaRt",
      "WsDS TRIyGu-HEADED sROW TO BsaDOWNWsDS TRIyGu-HEADED sROW TO Bs..aNORTH WEST TRIyGu-HEADED",
      " sROW TO BsbEAST TRIyGu-HEADED sROW TO BsaSOUTH EAST TRIyGu-HEADED sROW TO BsbWEST TRIyGu-",
      "HEADED sROW TO BsauFTWsDS TRIyGu-HEADED sROWqDOUBu HORIZONTr STROKEaUPWsDS TRIyGu-HEADED s",
      "ROWqDOUBu HORIZONTr STROKEaRtWsDS TRIyGu-HEADED sROWqDOUBu HORIZONTr STROKEaDOWNWsDS TRIyG",
      "u-HEADED sROWqDOUBu HORIZONTr STROKEaHORIZONTr TAB KEYaVzTICr TAB KEYauFTWsDS TRIyGu-HEADE",
      "D sROW OVz RtWsDS TRIyGu-HEADED sROWaUPWsDS TRIyGu-HEADED sROW uFTWsDS OF DOWNWsDS TRIyGu-",
      "HEADED sROWaRtWsDS TRIyGu-HEADED sROW OVz uFTWsDS TRIyGu-HEADED sROWaDOWNWsDS TRIyGu-HEADE",
      "D sROW uFTWsDS OF UPWsDS TRIyGu-HEADED sROWauFTWsDS TRIyGu-HEADED PAIRED sROWSaUPWsDS TRIy",
      "Gu-HEADED PAIRED sROWSaRtWsDS TRIyGu-HEADED PAIRED sROWSaDOWNWsDS TRIyGu-HEADED PAIRED sRO",
      "WSauFTWsDS BLACK CIRCuD WHITE sROWaUPWsDS BLACK CIRCuD WHITE sROWaRtWsDS BLACK CIRCuD WHIT",
      "E sROWaDOWNWsDS BLACK CIRCuD WHITE sROWayTICLOCKWISE TRIyGu-HEADED Rt U-SHAPED sROWcBOTTOM",
      " U-SHAPED sROWcuFT U-SHAPED sROWcTOP U-SHAPED sROWaRETURN uFTbRtaNEWLvE uFTbRtaFOUR CORNz ",
      "sROWS CIRCLvG yTICLOCKWISEaRtWsDS BLACK sROW.aSYMBOL FOR TYPE A EuCTRONICSaTHREE-D TOP-LtE",
      "D uFTWsDS EQUILATzr sROWHEADbRt-LtED UPWsDS EQUILATzr sROWHEADbTOP-LtED RtWsDS EQUILATzr s",
      "ROWHEADbuFT-LtED DOWNWsDS EQUILATzr sROWHEADaBLACK uFTWsDS EQUILATzr sROWHEADbUPWsDS EQUIL",
      "ATzr sROWHEADbRtWsDS EQUILATzr sROWHEADbDOWNWsDS EQUILATzr sROWHEADaDOWNWsDS TRIyGu-HEADED",
      " sROWqLONG TIP uFTWsDSgRtWsDSaUPWsDS TRIyGu-HEADED sROWqLONG TIP uFTWsDSgRtWsDSauFTWsDS TR",
      "IyGu-HEADED sROWqLONG TIP UPWsDSaRtWsDS TRIyGu-HEADED sROWqLONG TIP UPWsDSauFTWsDS TRIyGu-",
      "HEADED sROWqLONG TIP DOWNWsDSaRtWsDS TRIyGu-HEADED sROWqLONG TIP DOWNWsDSaBLACK CURVED DOW",
      "NWsDS yD uFTWsDS sROWeRtWsDS sROWcUPWsDS yD uFTWsDS sROWeRtWsDS sROWcuFTWsDS yD UPWsDS sRO",
      "WcRtWsDS yD UPWsDS sROWcuFTWsDS yD DOWNWsDS sROWcRtWsDS yD DOWNWsDS sROWaRIBBON sROW DOWN ",
      "uFTdRtcUP uFTdRtcuFT UPcRt UPcuFT DOWNcRt DOWNaUPWsDS WHITE sROW FROM BsqHORIZONTr BsaUP s",
      "ROWHEAD v A RECTyGu BOXaOVzLAPPvG WHITE SQUsEScyD BLACK SQUsESbBLACK SQUsESaBrLOT BOXqLt X",
      "aCIRCuD XbBOLD XaBLACK SQUsE CENTREDbDIAMOND CENTREDaTURNED BLACK PENTAGONaHORIZONTr BLACK",
      " OCTAGONaBLACK OCTAGONbMEDIUM UP-POvTvG TRIyGu CENTREDcDOWN-POvTvG TRIyGu CENTREDcuFT-POvT",
      "vG TRIyGu CENTREDcRt-POvTvG TRIyGu CENTREDaNEPTUNEw TWOaTOP HrF BLACK CIRCuaBOTTOM HrF BLA",
      "CK CIRCuaLt FOUR POvTED BLACK CUSPaROTATED Lt FOUR POvTED BLACK CUSPaWHITE FOUR POvTED CUS",
      "PaROTATED WHITE FOUR POvTED CUSPaSQUsE POSITION vDICATORaUNCzTAvTY SIGNaGROUP MsKaPLUTOw T",
      "WOcTHREEcFOURcFIVEaTRySPLUTOaPROSzPvAaASTRAEAaHYGIEAaPHOLUSaNESSUSaWHITE MOON SEuNAaBLACK ",
      "DIAMOND ON CROSSaTRUE Lt MOON sTAaCUPIDOaHADESaZEUSaKRONOSaAPOLLONaADMETOSaVULCyUSaPOSEIDO",
      "NauFT HrF BLACK STsaRt HrF BLACK STsaSTsquFT HrF BLACKcRt HrF BLACKauFTWsDS TWO-HEADED sRO",
      "WqTRIyGu sROWHEADSaUPWsDS TWO-HEADED sROWqTRIyGu sROWHEADSaRtWsDS TWO-HEADED sROWqTRIyGu s",
      "ROWHEADSaDOWNWsDS TWO-HEADED sROWqTRIyGu sROWHEADSazISw ONEcTWOaSEDNAaRUSSIy ASTROLOGICr S",
      "YMBOL VIGvTIudNOVIudQUvTIudBvOVIudSENTAGONdTREDECIuaEQUrS SIGNqvFvITY BELOWaUNITED SYMBOLa",
      "SEPsATED SYMBOLaDOUBuD SYMBOLaPASSED SYMBOLaREVzSED Rt yGuaHELLSCHREIBz PAUSE SYMBOL"]⟩]

end Upkeep.Text.Names
