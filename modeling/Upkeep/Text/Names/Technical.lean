import Upkeep.Text.Names.Packed

/-!
Names of characters: punctuation, arrows, and mathematical and technical signs.
-/
namespace Upkeep.Text.Names

def technical : List Run :=
  [⟨0x2000, [
      "aEN QUADaEM QUADaEN SPACEaEM SPACEaTHREE-Pz-EM SPACEaFOUR-Pz-EM SPACEaSIX-Pz-EM SPACEaFIGU",
      "RE SPACEaPUNCTUATION SPACEaTHv SPACEaHAIR SPACEaZzO WIDTH SPACEcNON-JOvzcJOvzauFT-TO-Rt Ms",
      "KaRt-TO-uFT MsKaHYPHENaNON-BREAKvG HYPHENaFIGURE DASHaEN DASHaEM DASHaHORIZONTr BsaDOUBu V",
      "zTICr LvEbLOW LvEauFT SvGu QUOTATION MsKaRt SvGu QUOTATION MsKaSvGu LOW-9 QUOTATION MsKbHI",
      "GH-REVzSED-9 QUOTATION MsKauFT DOUBu QUOTATION MsKaRt DOUBu QUOTATION MsKaDOUBu LOW-9 QUOT",
      "ATION MsKbHIGH-REVzSED-9 QUOTATION MsKaDAGGzaDOUBu DAGGzaBULuTaTRIyGULs BULuTaONE DOT uADz",
      "aTWO DOT uADzaHORIZONTr ELLIPSISaHYPHENATION POvTaLvE SEPsATORaPsAGRAPH SEPsATORauFT-TO-Rt",
      " EMBEDDvGaRt-TO-uFT EMBEDDvGaPOP DIRECTIONrwATTvGauFT-TO-Rt OVzRIDEaRt-TO-uFT OVzRIDEaNsRO",
      "W NO-BREAK SPACEaPz MILu SIGNbTEN THOUSyD SIGNaPRIMEaDOUBu PRIMEaTRIPu PRIMEaREVzSED PRIME",
      "bDOUBu PRIMEbTRIPu PRIMEaCsETaSvGu uFT-POvTvG yGu QUOTATION MsKbRt-POvTvG yGu QUOTATION Ms",
      "KaREFzENCE MsKaDOUBu EXCLAMATION MsKavTzROByGaOVzLvEaUNDzTIEaCHsACTz TIEaCsET vSzTION POvT",
      "aASTzISMaHYPHEN BULuTaFRACTION SLASHauFT SQUsE BRACKETqQUILLaRt SQUsE BRACKETqQUILLaDOUBu ",
      "QUESTION MsKaQUESTION EXCLAMATION MsKaEXCLAMATION QUESTION MsKaTIRONIy SIGN ETaREVzSED PIL",
      "CROW SIGNaBLACK uFTWsDS BULuTbRtWsDS BULuTaLOW ASTzISKaREVzSED SEMICOLONaCLOSE UPaTWO ASTz",
      "ISKS rIGNED VzTICrLYaCOMMzCIr MvUS SIGNaSWUNG DASHavVzTED UNDzTIEaFLOWz PUNCTUATION MsKaTH",
      "REE DOT PUNCTUATIONaQUADRUPu PRIMEaFOUR DOT PUNCTUATIONaFIVE DOT PUNCTUATIONaTWO DOT PUNCT",
      "UATIONaFOUR DOT MsKaDOTTED CROSSaTRICOLONaVzTICr FOUR DOTSaMEDIUM MATHEMATICr SPACEaWORD J",
      "OvzaFUNCTION APPLICATIONavVISIBu TIMESbSEPsATORbPLUS.auFT-TO-Rt ISOLATEaRt-TO-uFT ISOLATEa",
      "FIRST STRONG ISOLATEaPOP DIRECTIONr ISOLATEavHIBIT SYMMETRIC SWAPPvGaACTIVATE SYMMETRIC SW",
      "APPvGavHIBIT sABICw SHAPvGaACTIVATE sABICw SHAPvGaNATIONr DIGIT SHAPESaNOMvr DIGIT SHAPESa",
      "SUPzSCRIPT ZzObLATv SMrLpI..bFOURbFIVEbSIXbSEVENbEtbNvEbPLUS SIGNbMvUSbEQUrS SIGNbuFT PsEN",
      "THESISbRt PsENTHESISbLATv SMrLpNaSUBSCRIPT ZzObONEbTWObTHREEbFOURbFIVEbSIXbSEVENbEtbNvEbPL",
      "US SIGNbMvUSbEQUrS SIGNbuFT PsENTHESISbRt PsENTHESIS.aLATv SUBSCRIPT SMrLpAeEeOeXeSCHWAeHe",
      "KeLeMeNePeSeT...aEURO-CURRENCY SIGNaCOLON SIGNaCRUZEIRO SIGNaFRENCH FRyC SIGNaLIRA SIGNaMI",
      "LL SIGNaNAIRA SIGNaPESETA SIGNaRUPEE SIGNaWON SIGNaNEW SHEQEL SIGNaDONG SIGNaEURO SIGNaKIP",
      " SIGNaTUGRIK SIGNaDRACHMA SIGNaGzMy PENNY SIGNaPESO SIGNaGUsyI SIGNaAUSTRr SIGNaHRYVNIA SI",
      "GNaCEDI SIGNaLIVRE TOURNOIS SIGNaSPESMILO SIGNaTENGE SIGNavDIy RUPEE SIGNaTURKISH LIRA SIG",
      "NaNORDIC MsK SIGNaMyAT SIGNaRUBu SIGNaLsI SIGNaBITCOv SIGNaSOM SIGN"]⟩,
   ⟨0x20D0, [
      "aCOMBvvG uFT HsPOON ABOVEbRt HsPOON ABOVEbLONG VzTICr LvE OVzLAYbSHORT VzTICr LvE OVzLAYby",
      "TICLOCKWISE sROW ABOVEbCLOCKWISE sROW ABOVEbuFT sROW ABOVEbRt sROW ABOVEbRvG OVzLAYbCLOCKW",
      "ISE RvG OVzLAYbyTICLOCKWISE RvG OVzLAYbTHREE DOTS ABOVEbFOUR DOTS ABOVEbENCLOSvG CIRCucSQU",
      "sEcDIAMONDcCIRCu BACKSLASHbuFT Rt sROW ABOVEbENCLOSvG SCREENcKEYCAPcUPWsD POvTvG TRIyGubRE",
      "VzSE SOLIDUS OVzLAYbDOUBu VzTICr STROKE OVzLAYbyNUITY SYMBOLbTRIPu UNDzDOTbWIDE BRIDGE ABO",
      "VEbuFTWsDS sROW OVzLAYbLONG DOUBu SOLIDUS OVzLAYbRtWsDS HsPOONqBsB DOWNWsDSbuFTWsDS HsPOON",
      "qBsB DOWNWsDSbuFT sROW BELOWbRt sROW BELOWbASTzISK ABOVE"]⟩,
   ⟨0x2100, [
      "aACCOUNT OFaADDRESSED TO THE SUBJECTaDOUBu-STRUCK xL CaDEGREE CELSIUSaCENTRE LvE SYMBOLaCs",
      "E OFaCADA UNAaEUuR CONSTyTaSCRUPuaDEGREE FAHRENHEITaSCRIPT SMrL GbxL HaBLACK-uTTz xL HaDOU",
      "Bu-STRUCK xL HaPLyCK CONSTyTcOVz TWO PIaSCRIPT xL IaBLACK-uTTz xL IaSCRIPT xL LbSMrL LaL B",
      " Bs SYMBOLaDOUBu-STRUCK xL NaNUMzO SIGNaSOUND RECORDvG COPYRtaSCRIPT xL PaDOUBu-STRUCK xL ",
      "PcQaSCRIPT xL RaBLACK-uTTz xL RaDOUBu-STRUCK xL RaPRESCRIPTION TAKEaRESPONSEaSzVICE MsKaTE",
      "uPHONE SIGNaTRADE MsK SIGNaVzSICuaDOUBu-STRUCK xL ZaOUNCE SIGNaOHM SIGNavVzTED OHM SIGNaBL",
      "ACK-uTTz xL ZaTURNED GREEK SMrLpIOTAaKELVv SIGNayGSTROM SIGNaSCRIPT xL BaBLACK-uTTz xL CaE",
      "STIMATED SYMBOLaSCRIPT SMrL EbxL EcFaTURNED xL FaSCRIPT xL MbSMrL OarEF SYMBOLaBET SYMBOLa",
      "GIMEL SYMBOLaDrET SYMBOLavFORMATION SOURCEaROTATED xL QaFACSIMIu SIGNaDOUBu-STRUCK SMrL PI",
      "cGAMMAbxL GAMMAcPIbN-sY SUMMATIONaTURNED SyS-SzIF xL GdLaREVzSED SyS-SzIF xL LaTURNED SyS-",
      "SzIF xL YaDOUBu-STRUCK ITrIC xL DcSMrL DdEdIdJaPROPzTY LvEaTURNED AMPzSyDaPz SIGNaAKTIESEL",
      "SKABaTURNED SMrL FaSYMBOL FOR SAMsITy SOURCEaVULGs FRACTION ONE SEVENTHdNvTHdTENTHdTHIRDcT",
      "WO THIRDScONE FIFTHcTWO FIFTHScTHREE FIFTHScFOUR FIFTHScONE SIXTHcFIVE SIXTHScONE EtHcTHRE",
      "E EtHScFIVE EtHScSEVEN EtHSaFRACTION NUMzATOR ONEaROMy NUMzr ONEcTWOcTHREEcFOURcFIVEcSIXcS",
      "EVENcEtcNvEcTENcEuVENcTWELVEcFIFTYcONE HUNDREDcFIVE HUNDREDcONE THOUSyDaSMrL ROMy NUMzr ON",
      "EdTWOdTHREEdFOURdFIVEdSIXdSEVENdEtdNvEdTENdEuVENdTWELVEdFIFTYdONE HUNDREDdFIVE HUNDREDdONE",
      " THOUSyDaROMy NUMzr ONE THOUSyD C DcFIVE THOUSyDcTEN THOUSyDcREVzSED ONE HUNDREDaLATv SMrL",
      "pREVzSED CaROMy NUMzr SIX LATEwcFIFTY EsLYwdTHOUSyDcONE HUNDRED THOUSyDaVULGs FRACTION ZzO",
      " THIRDSaTURNED DIGIT TWOcTHREE....auFTWsDS sROWaUPWsDS sROWaRtWsDS sROWaDOWNWsDS sROWauFT ",
      "Rt sROWaUP DOWN sROWaNORTH WEST sROWbEAST sROWaSOUTH EAST sROWbWEST sROWauFTWsDS sROWqSTRO",
      "KEaRtWsDS sROWqSTROKEauFTWsDS WAVE sROWaRtWsDS WAVE sROWauFTWsDS TWO HEADED sROWaUPWsDS TW",
      "O HEADED sROWaRtWsDS TWO HEADED sROWaDOWNWsDS TWO HEADED sROWauFTWsDS sROWqTAILaRtWsDS sRO",
      "WqTAILauFTWsDS sROW FROM BsaUPWsDS sROW FROM BsaRtWsDS sROW FROM BsaDOWNWsDS sROW FROM Bsa",
      "UP DOWN sROWqBASEauFTWsDS sROWqHOOKaRtWsDS sROWqHOOKauFTWsDS sROWqLOOPaRtWsDS sROWqLOOPauF",
      "T Rt WAVE sROWcsROWqSTROKEaDOWNWsDS ZIGZAG sROWaUPWsDS sROWqTIP uFTWsDSeRtWsDSaDOWNWsDS sR",
      "OWqTIP uFTWsDSeRtWsDSaRtWsDS sROWqCORNz DOWNWsDSaDOWNWsDS sROWqCORNz uFTWsDSayTICLOCKWISE ",
      "TOP SEMICIRCu sROWaCLOCKWISE TOP SEMICIRCu sROWaNORTH WEST sROW TO LONG BsauFTWsDS sROW TO",
      " Bs OVz RtWsDS sROW TO BsayTICLOCKWISE OPEN CIRCu sROWaCLOCKWISE OPEN CIRCu sROWauFTWsDS H",
      "sPOONqBsB UPWsDSeDOWNWsDSaUPWsDS HsPOONqBsB RtWsDSeuFTWsDSaRtWsDS HsPOONqBsB UPWsDSeDOWNWs",
      "DSaDOWNWsDS HsPOONqBsB RtWsDSeuFTWsDSaRtWsDS sROW OVz uFTWsDS sROWaUPWsDS sROW uFTWsDS OF ",
      "DOWNWsDS sROWauFTWsDS sROW OVz RtWsDS sROWbPAIRED sROWSaUPWsDS PAIRED sROWSaRtWsDS PAIRED ",
      "sROWSaDOWNWsDS PAIRED sROWSauFTWsDS HsPOON OVz RtWsDS HsPOONaRtWsDS HsPOON OVz uFTWsDS HsP",
      "OONauFTWsDS DOUBu sROWqSTROKEauFT Rt DOUBu sROWqSTROKEaRtWsDS DOUBu sROWqSTROKEauFTWsDS DO",
      "UBu sROWaUPWsDS DOUBu sROWaRtWsDS DOUBu sROWaDOWNWsDS DOUBu sROWauFT Rt DOUBu sROWaUP DOWN",
      " DOUBu sROWaNORTH WEST DOUBu sROWbEAST DOUBu sROWaSOUTH EAST DOUBu sROWbWEST DOUBu sROWauF",
      "TWsDS TRIPu sROWaRtWsDS TRIPu sROWauFTWsDS SQUIGGu sROWaRtWsDS SQUIGGu sROWaUPWsDS sROWqDO",
      "UBu STROKEaDOWNWsDS sROWqDOUBu STROKEauFTWsDS DASHED sROWaUPWsDS DASHED sROWaRtWsDS DASHED",
      " sROWaDOWNWsDS DASHED sROWauFTWsDS sROW TO BsaRtWsDS sROW TO BsauFTWsDS WHITE sROWaUPWsDS ",
      "WHITE sROWaRtWsDS WHITE sROWaDOWNWsDS WHITE sROWaUPWsDS WHITE sROW FROM BsdON PEDESTrfWITH",
      " HORIZONTr BsgVzTICr BscDOUBu sROWeON PEDESTraRtWsDS WHITE sROW FROM WrLaNORTH WEST sROW T",
      "O CORNzaSOUTH EAST sROW TO CORNzaUP DOWN WHITE sROWaRt sROWqSMrL CIRCuaDOWNWsDS sROW uFTWs",
      "DS OF UPWsDS sROWaTHREE RtWsDS sROWSauFTWsDS sROWqVzTICr STROKEaRtWsDS sROWqVzTICr STROKEa",
      "uFT Rt sROWqVzTICr STROKEauFTWsDS sROWqDOUBu VzTICr STROKEaRtWsDS sROWqDOUBu VzTICr STROKE",
      "auFT Rt sROWqDOUBu VzTICr STROKEauFTWsDS OPEN-HEADED sROWaRtWsDS OPEN-HEADED sROWauFT Rt O",
      "PEN-HEADED sROWaFOR rLaCOMPuMENTaPsTIr DIFFzENTIraTHzE EXISTSbDOES NOT EXISTaEMPTY SETavCR",
      "EMENTaNABLAaEuMENT OFaNOT y EuMENT OFaSMrL EuMENT OFaCONTAvS AS MEMBzaDOES NOT CONTAv AS M",
      "EMBzaSMrL CONTAvS AS MEMBzaEND OF PROOFaN-sY PRODUCTbCOPRODUCTbSUMMATIONaMvUS SIGNaMvUS-OR",
      "-PLUS SIGNaDOT PLUSaDIVISION SLASHaSET MvUSaASTzISK OPzATORaRvG OPzATORaBULuT OPzATORaSQUs",
      "E ROOTaCUBE ROOTaFOURTH ROOTaPROPORTIONr TOavFvITYaRt yGuayGuaMEASURED yGuaSPHzICr yGuaDIV",
      "IDESaDOES NOT DIVIDEaPsruL TOaNOT PsruL TOaLOGICr yDbORavTzSECTIONaUNIONavTEGRraDOUBu vTEG",
      "RraTRIPu vTEGRraCONTOUR vTEGRraSURFACE vTEGRraVOLUME vTEGRraCLOCKWISE vTEGRrbCONTOUR vTEGR",
      "rayTICLOCKWISE CONTOUR vTEGRraTHzEFOREaBECAUSEaRATIOaPROPORTIONaDOT MvUSaEXCESSaGEOMETRIC ",
      "PROPORTIONaHOMOTHETICaTILDE OPzATORaREVzSED TILDEavVzTED LAZY SaSvE WAVEaWREATH PRODUCTaNO",
      "T TILDEaMvUS TILDEaASYMPTOTICrLY EQUr TOaNOT ASYMPTOTICrLY EQUr TOaAPPROXIMATELY EQUr TObB",
      "UT NOT ACTUrLY EQUr TOaNEITHz APPROXIMATELY NOR ACTUrLY EQUr TOarMOST EQUr TOaNOT rMOST EQ",
      "Ur TOarMOST EQUr OR EQUr TOaTRIPu TILDEarL EQUr TOaEQUIVrENT TOaGEOMETRICrLY EQUIVrENT TOa",
      "DIFFzENCE BETWEENaAPPROACHES THE LIMITaGEOMETRICrLY EQUr TOaAPPROXIMATELY EQUr TO OR THE I",
      "MAGE OFaIMAGE OF OR APPROXIMATELY EQUr TOaCOLON EQUrSaEQUrS COLONaRvG v EQUr TObEQUr TOaCO",
      "RRESPONDS TOaESTIMATESaEQUIyGULs TOaSTs EQUrSaDELTA EQUr TOaEQUr TO BY DEFvITIONaMEASURED ",
      "BYaQUESTIONED EQUr TOaNOT EQUr TOaIDENTICr TOaNOT IDENTICr TOaSTRICTLY EQUIVrENT TOauSS-TH",
      "y OR EQUr TOaGREATz-THy OR EQUr TOauSS-THy OVz EQUr TOaGREATz-THy OVz EQUr TOauSS-THy BUT ",
      "NOT EQUr TOaGREATz-THy BUT NOT EQUr TOaMUCH uSS-THybGREATz-THyaBETWEENaNOT EQUIVrENT TObuS",
      "S-THybGREATz-THyaNEITHz uSS-THy NOR EQUr TObGREATz-THy NOR EQUr TOauSS-THy OR EQUIVrENT TO",
      "aGREATz-THy OR EQUIVrENT TOaNEITHz uSS-THy NOR EQUIVrENT TObGREATz-THy NOR EQUIVrENT TOauS",
      "S-THy OR GREATz-THyaGREATz-THy OR uSS-THyaNEITHz uSS-THy NOR GREATz-THybGREATz-THy NOR uSS",
      "-THyaPRECEDESaSUCCEEDSaPRECEDES OR EQUr TOaSUCCEEDS OR EQUr TOaPRECEDES OR EQUIVrENT TOaSU",
      "CCEEDS OR EQUIVrENT TOaDOES NOT PRECEDEcSUCCEEDaSUBSET OFaSUPzSET OFaNOT A SUBSET OFcSUPzS",
      "ET OFaSUBSET OF OR EQUr TOaSUPzSET OF OR EQUr TOaNEITHz A SUBSET OF NOR EQUr TOcSUPzSET OF",
      " NOR EQUr TOaSUBSET OFqNOT EQUr TOaSUPzSET OFqNOT EQUr TOaMULTISETbMULTIPLICATIONbUNIONaSQ",
      "UsE IMAGE OFbORIGvr OFbIMAGE OF OR EQUr TObORIGvr OF OR EQUr TObCAPbCUPaCIRCuD PLUSbMvUSbT",
      "IMESbDIVISION SLASHbDOT OPzATORbRvG OPzATORbASTzISK OPzATORbEQUrSbDASHaSQUsED PLUSbMvUSbTI",
      "MESbDOT OPzATORaRt TACKauFT TACKaDOWN TACKaUP TACKaASSzTIONaMODELSaTRUEaFORCESaTRIPu VzTIC",
      "r Bs Rt TURNSTIuaDOUBu VzTICr Bs DOUBu Rt TURNSTIuaDOES NOT PROVEaNOT TRUEaDOES NOT FORCEa",
      "NEGATED DOUBu VzTICr Bs DOUBu Rt TURNSTIuaPRECEDES UNDz RELATIONaSUCCEEDS UNDz RELATIONaNO",
      "RMr SUBGROUP OFaCONTAvS AS NORMr SUBGROUPaNORMr SUBGROUP OF OR EQUr TOaCONTAvS AS NORMr SU",
      "BGROUP OR EQUr TOaORIGvr OFaIMAGE OFaMULTIMAPaHzMITIy CONJUGATE MATRIXavTzCrATEaXORaNyDaNO",
      "RaRt yGuqsCbTRIyGuaN-sY LOGICr yDcORbvTzSECTIONbUNIONaDIAMOND OPzATORaDOT OPzATORaSTs OPzA",
      "TORaDIVISION TIMESaBOWTIEauFT NORMr FACTOR SEMIDIRECT PRODUCTaRt NORMr FACTOR SEMIDIRECT P",
      "RODUCTauFT SEMIDIRECT PRODUCTaRt SEMIDIRECT PRODUCTaREVzSED TILDE EQUrSaCURLY LOGICr ORcyD",
      "aDOUBu SUBSETbSUPzSETbvTzSECTIONbUNIONaPITCHFORKaEQUr yD PsruL TOauSS-THyqDOTaGREATz-THyqD",
      "OTaVzY MUCH uSS-THycGREATz-THyauSS-THy EQUr TO OR GREATz-THyaGREATz-THy EQUr TO OR uSS-THy",
      "aEQUr TO OR uSS-THydGREATz-THydPRECEDESdSUCCEEDSaDOES NOT PRECEDE OR EQUrcSUCCEED OR EQUra",
      "NOT SQUsE IMAGE OF OR EQUr TOcORIGvr OF OR EQUr TOaSQUsE IMAGE OF OR NOT EQUr TObORIGvr OF",
      " OR NOT EQUr TOauSS-THy BUT NOT EQUIVrENT TOaGREATz-THy BUT NOT EQUIVrENT TOaPRECEDES BUT ",
      "NOT EQUIVrENT TOaSUCCEEDS BUT NOT EQUIVrENT TOaNOT NORMr SUBGROUP OFaDOES NOT CONTAv AS NO",
      "RMr SUBGROUPaNOT NORMr SUBGROUP OF OR EQUr TOaDOES NOT CONTAv AS NORMr SUBGROUP OR EQUraVz",
      "TICr ELLIPSISaMIDLvE HORIZONTr ELLIPSISaUP Rt DIAGONr ELLIPSISaDOWN Rt DIAGONr ELLIPSISaEu",
      "MENT OFqLONG HORIZONTr STROKEdVzTICr Bs AT END OF HORIZONTr STROKEaSMrL EuMENT OFqVzTICr B",
      "s AT END OF HORIZONTr STROKEaEuMENT OFqDOT ABOVEdOVzBsaSMrL EuMENT OFqOVzBsaEuMENT OFqUNDz",
      "BsdTWO HORIZONTr STROKESaCONTAvSqLONG HORIZONTr STROKEcVzTICr Bs AT END OF HORIZONTr STROK",
      "EaSMrL CONTAvSqVzTICr Bs AT END OF HORIZONTr STROKEaCONTAvSqOVzBsaSMrL CONTAvSqOVzBsaZ NOT",
      "ATION BAG MEMBzSHIPaDIAMETz SIGNaEuCTRIC sROWaHOUSEaUP sROWHEADaDOWN sROWHEADaPROJECTIVEaP",
      "zSPECTIVEaWAVY LvEauFT CEILvGaRt CEILvGauFT FLOORaRt FLOORaBOTTOM Rt CROPbuFT CROPaTOP Rt ",
      "CROPbuFT CROPaREVzSED NOT SIGNaSQUsE LOZENGEasCaSEGMENTaSECTORaTEuPHONE RECORDzaPOSITION v",
      "DICATORaVIEWDATA SQUsEaPLACE OF vTzEST SIGNaTURNED NOT SIGNaWATCHaHOURGLASSaTOP uFT CORNzb",
      "Rt CORNzaBOTTOM uFT CORNzbRt CORNzaTOP HrF vTEGRraBOTTOM HrF vTEGRraFROWNaSMIuaUP sROWHEAD",
      " BETWEEN TWO HORIZONTr BsSaOPTION KEYazASE TO THE RtaX v A RECTyGu BOXaKEYBOsDauFT-POvTvG ",
      "yGu BRACKETaRt-POvTvG yGu BRACKETazASE TO THE uFTaBENZENE RvGaCYLvDRICITYarL sOUND-PROFIua",
      "SYMMETRYaTOTr RUNOUTaDIMENSION ORIGvaCONICr TAPzaSLOPEaCOUNTzBOREaCOUNTzSvKaAPL FUNCTIONr ",
      "SYMBOL I-BEAMdSQUISH QUADdQUAD EQUreDIVIDEeDIAMONDeJOTeCIRCudCIRCu STIueJOTdSLASH BsdBACKS",
      "LASH BsdQUAD SLASHeBACKSLASHeuSS-THyeGREATz-THyduFTWsDS VyEdRtWsDS VyEdQUAD uFTWsDS sROWeR",
      "tWsDS sROWdCIRCu BACKSLASHdDOWN TACK UNDzBsdDELTA STIudQUAD DOWN CsETeDELTAdDOWN TACK JOTd",
      "UPWsDS VyEdQUAD UPWsDS sROWdUP TACK OVzBsdDEL STIudQUAD UP CsETeDELdUP TACK JOTdDOWNWsDS V",
      "yEdQUAD DOWNWsDS sROWdQUOTE UNDzBsdDELTA UNDzBsdDIAMOND UNDzBsdJOT UNDzBsdCIRCu UNDzBsdUP ",
      "SHOE JOTdQUOTE QUADdCIRCu STsdQUAD COLONdUP TACK DIAzESISdDEL DIAzESISdSTs DIAzESISdJOT DI",
      "AzESISdCIRCu DIAzESISdDOWN SHOE STIuduFT SHOE STIudTILDE DIAzESISdGREATz-THy DIAzESISdCOMM",
      "A BsdDEL TILDEdZILDEdSTIu TILDEdSEMICOLON UNDzBsdQUAD NOT EQUreQUESTIONdDOWN CsET TILDEdUP",
      " CsET TILDEdIOTAdRHOdOMEGAdrPHA UNDzBsdEPSILON UNDzBsdIOTA UNDzBsdOMEGA UNDzBsdrPHAaNOT CH",
      "ECK MsKaRt yGuqDOWNWsDS ZIGZAG sROWaSHOULDzED OPEN BOXaBELL SYMBOLaVzTICr LvEqMIDDu DOTavS",
      "zTION SYMBOLaCONTvUOUS UNDzLvE SYMBOLaDISCONTvUOUS UNDzLvE SYMBOLaEMPHASIS SYMBOLaCOMPOSIT",
      "ION SYMBOLaWHITE SQUsEqCENTRE VzTICr LvEaENTz SYMBOLarTzNATIVE KEY SYMBOLaHELM SYMBOLaCIRC",
      "uD HORIZONTr BsqNOTCHbTRIyGu DOWNaBROKEN CIRCuqNORTHWEST sROWaUNDO SYMBOLaMONOSTABu SYMBOL",
      "aHYSTzESIS SYMBOLaOPEN-CIRCUIT-OUTPUT H-TYPE SYMBOLbL-TYPE SYMBOLaPASSIVE-PULL-DOWN-OUTPUT",
      " SYMBOLaPASSIVE-PULL-UP-OUTPUT SYMBOLaDIRECT CURRENT SYMBOLw TWOaSOFTWsE-FUNCTION SYMBOLaA",
      "PL FUNCTIONr SYMBOL QUADaDECIMr SEPsATOR KEY SYMBOLaPREVIOUS PAGEaNEXT PAGEaPRvT SCREEN SY",
      "MBOLaCus SCREEN SYMBOLauFT PsENTHESIS UPPz HOOKcEXTENSIONcLOWz HOOKaRt PsENTHESIS UPPz HOO",
      "KcEXTENSIONcLOWz HOOKauFT SQUsE BRACKET UPPz CORNzdEXTENSIONdLOWz CORNzaRt SQUsE BRACKET U",
      "PPz CORNzdEXTENSIONdLOWz CORNzauFT CURLY BRACKET UPPz HOOKdMIDDu PIECEdLOWz HOOKaCURLY BRA",
      "CKET EXTENSIONaRt CURLY BRACKET UPPz HOOKdMIDDu PIECEdLOWz HOOKavTEGRr EXTENSIONaHORIZONTr",
      " LvE EXTENSIONaUPPz uFT OR LOWz Rt CURLY BRACKET SECTIONbRt OR LOWz uFT CURLY BRACKET SECT",
      "IONaSUMMATION TOPbBOTTOMaTOP SQUsE BRACKETaBOTTOM SQUsE BRACKETdOVz TOP SQUsE BRACKETaRADI",
      "Cr SYMBOL BOTTOMauFT VzTICr BOX LvEaRt VzTICr BOX LvEaHORIZONTr SCy LvE-1cLvE-3cLvE-7cLvE-",
      "9aDENTISTRY SYMBOL Lt VzTICr yD TOP RtfBOTTOM RteWITH CIRCudDOWN yD HORIZONTrqCIRCudUP yD ",
      "HORIZONTrqCIRCudVzTICrqTRIyGudDOWN yD HORIZONTrqTRIyGudUP yD HORIZONTrqTRIyGudVzTICr yD WA",
      "VEdDOWN yD HORIZONTrqWAVEdUP yD HORIZONTrqWAVEdDOWN yD HORIZONTrdUP yD HORIZONTrdVzTICr yD",
      " TOP uFTfBOTTOM uFTaSQUsE FOOTaRETURN SYMBOLaEJECT SYMBOLaVzTICr LvE EXTENSIONaMETRICr BRE",
      "VEbLONG OVz SHORTbSHORT OVz LONGbLONG OVz TWO SHORTSbTWO SHORTS OVz LONGdJOvEDbTRISEMEbTET",
      "RASEMEbPENTASEMEaEsTH GROUNDaFUSEaTOP PsENTHESISaBOTTOM PsENTHESISaTOP CURLY BRACKETaBOTTO",
      "M CURLY BRACKETaTOP TORTOISE SHELL BRACKETaBOTTOM TORTOISE SHELL BRACKETaWHITE TRAPEZIUMaB",
      "ENZENE RvGqCIRCuaSTRAtNESSaFLATNESSaAC CURRENTaEuCTRICr vTzSECTIONaDECIMr EXPONENT SYMBOLa",
      "BLACK Rt-POvTvG DOUBu TRIyGubuFT-POvTvG DOUBu TRIyGubUP-POvTvG DOUBu TRIyGubDOWN-POvTvG DO",
      "UBu TRIyGubRt-POvTvG DOUBu TRIyGuqVzTICr BsbuFT-POvTvG DOUBu TRIyGuqVzTICr BsbRt-POvTvG TR",
      "IyGuqDOUBu VzTICr BsarsM CLOCKaSTOPWATCHaTIMz CLOCKaHOURGLASSqFLOWvG SyDaBLACK MEDIUM uFT-",
      "POvTvG TRIyGucRt-POvTvG TRIyGucUP-POvTvG TRIyGucDOWN-POvTvG TRIyGuaDOUBu VzTICr BsaBLACK S",
      "QUsE FOR STOPbCIRCu FOR RECORDaPOWz SYMBOLbON-OFF SYMBOLbON SYMBOLbSuEP SYMBOLaOBSzVz EYE ",
      "SYMBOLaSYMBOL FOR NULLcSTsT OF HEADvGeTEXTcEND OF TEXTeTRySMISSIONcENQUIRYcACKNOWuDGEcBELL",
      "cBACKSPACEcHORIZONTr TABULATIONcLvE FEEDcVzTICr TABULATIONcFORM FEEDcCsRIAGE RETURNcSHIFT ",
      "OUTdvcDATA LvK ESCAPEcDEVICE CONTROL ONEeTWOeTHREEeFOURcNEGATIVE ACKNOWuDGEcSYNCHRONOUS ID",
      "ucEND OF TRySMISSION BLOCKcCyCELcEND OF MEDIUMcSUBSTITUTEcESCAPEcFIu SEPsATORcGROUP SEPsAT",
      "ORcRECORD SEPsATORcUNIT SEPsATORcSPACEcDEuTEaBLyK SYMBOLaOPEN BOXaSYMBOL FOR NEWLvEcDEuTEw",
      " TWOcSUBSTITUTEw TWO"]⟩]

end Upkeep.Text.Names
