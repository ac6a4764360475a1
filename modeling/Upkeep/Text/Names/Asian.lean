import Upkeep.Text.Names.Packed

/-!
Names of characters: radicals, syllables and letters up to the surrogates.
-/
namespace Upkeep.Text.Names

def asian : List Run :=
  [⟨0x2C00, [
      "aGLAGOLITIC xLpAZUdBUKYdVEDEdGLAGOLIdDOBROdYESTUdZHIVETEdDZELOdZEMLJAdIZHEdvITIr IZHEdIdDJ",
      "zVIdKAKOdLJUDIJEdMYSLITEdNASHIdONUdPOKOJIdRITSIdSLOVOdTVRIDOdUKUdFRITUdHzUdOTUdPEdSHTAdTSI",
      "dCHRIVIdSHAdYzUdYzIdYATIdSPIDzY HAdYUdSMrL YUSfWITH TAILdYOdIOTATED SMrL YUSdBIG YUSdIOTAT",
      "ED BIG YUSdFITAdIZHITSAdSHTAPICdTROKUTASTI AdLATvATE MYSLITEdCAUDATE CHRIVIbSMrLpAZUdBUKYd",
      "VEDEdGLAGOLIdDOBROdYESTUdZHIVETEdDZELOdZEMLJAdIZHEdvITIr IZHEdIdDJzVIdKAKOdLJUDIJEdMYSLITE",
      "dNASHIdONUdPOKOJIdRITSIdSLOVOdTVRIDOdUKUdFRITUdHzUdOTUdPEdSHTAdTSIdCHRIVIdSHAdYzUdYzIdYATI",
      "dSPIDzY HAdYUdSMrL YUSfWITH TAILdYOdIOTATED SMrL YUSdBIG YUSdIOTATED BIG YUSdFITAdIZHITSAd",
      "SHTAPICdTROKUTASTI AdLATvATE MYSLITEdCAUDATE CHRIVIaLATv xLpLqDOUBu BsbSMrLpLqDOUBu BsbxLp",
      "LqMIDDu TILDEdPqSTROKEdRqTAILbSMrLpAqSTROKEdTqDIAGONr STROKEbxLpHqDESCENDzbSMrLpHqDESCENDz",
      "bxLpKqDESCENDzbSMrLpKqDESCENDzbxLpZqDESCENDzbSMrLpZqDESCENDzbxLprPHAdMqHOOKdTURNED AerPHAb",
      "SMrLpVqRt HOOKbxLpWqHOOKbSMrLpWqHOOKdVqCURLbxLpHrF HbSMrLpHrF HdTAILuSS PHIdEqNOTCHdTURNED",
      " RqTAILdOqLOW RvG vSIDEbuTTz SMrL xL TURNED EbSUBSCRIPT SMrLpJaMODIFIzpxL VaLATv xLpSqSWAS",
      "H TAILdZqSWASH TAILaCOPTIC xLprFAbSMrLprFAbxLpVIDAbSMrLpVIDAbxLpGAMMAbSMrLpGAMMAbxLpDrDAbS",
      "MrLpDrDAbxLpEIEbSMrLpEIEbxLpSOUbSMrLpSOUbxLpZATAbSMrLpZATAbxLpHATEbSMrLpHATEbxLpTHETHEbSMr",
      "LpTHETHEbxLpIAUDAbSMrLpIAUDAbxLpKAPAbSMrLpKAPAbxLpLAULAbSMrLpLAULAbxLpMIbSMrLpMIbxLpNIbSMr",
      "LpNIbxLpKSIbSMrLpKSIbxLpObSMrLpObxLpPIbSMrLpPIbxLpRObSMrLpRObxLpSIMAbSMrLpSIMAbxLpTAUbSMrL",
      "pTAUbxLpUAbSMrLpUAbxLpFIbSMrLpFIbxLpKHIbSMrLpKHIbxLpPSIbSMrLpPSIbxLpOOUbSMrLpOOUbxLpDIrECT",
      "-P rEFbSMrLpDIrECT-P rEFbxLpOLD COPTIC AvbSMrLpOLD COPTIC AvbxLpCRYPTOGRAMMIC EIEbSMrLpCRY",
      "PTOGRAMMIC EIEbxLpDIrECT-P KAPAbSMrLpDIrECT-P KAPAbxLpDIrECT-P NIbSMrLpDIrECT-P NIbxLpCRYP",
      "TOGRAMMIC NIbSMrLpCRYPTOGRAMMIC NIbxLpOLD COPTIC OOUbSMrLpOLD COPTIC OOUbxLpSAMPIbSMrLpSAM",
      "PIbxLpCROSSED SHEIbSMrLpCROSSED SHEIbxLpOLD COPTIC SHEIbSMrLpOLD COPTIC SHEIbxLpOLD COPTIC",
      " ESHbSMrLpOLD COPTIC ESHbxLpAKHMIMIC KHEIbSMrLpAKHMIMIC KHEIbxLpDIrECT-P HORIbSMrLpDIrECT-",
      "P HORIbxLpOLD COPTIC HORIbSMrLpOLD COPTIC HORIbxLpOLD COPTIC HAbSMrLpOLD COPTIC HAbxLpL-SH",
      "APED HAbSMrLpL-SHAPED HAbxLpOLD COPTIC HEIbSMrLpOLD COPTIC HEIbxLpOLD COPTIC HATbSMrLpOLD ",
      "COPTIC HATbxLpOLD COPTIC GyGIAbSMrLpOLD COPTIC GyGIAbxLpOLD COPTIC DJAbSMrLpOLD COPTIC DJA",
      "bxLpOLD COPTIC SHIMAbSMrLpOLD COPTIC SHIMAbxLpOLD NUBIy SHIMAbSMrLpOLD NUBIy SHIMAbxLpOLD ",
      "NUBIy NGIbSMrLpOLD NUBIy NGIbxLpOLD NUBIy NYIbSMrLpOLD NUBIy NYIbxLpOLD NUBIy WAUbSMrLpOLD",
      " NUBIy WAUbSYMBOL KAIcMI ROcPI ROcSTAUROScTAU ROcKHI ROcSHIMA SIMAbxLpCRYPTOGRAMMIC SHEIbS",
      "MrLpCRYPTOGRAMMIC SHEIbxLpCRYPTOGRAMMIC GyGIAbSMrLpCRYPTOGRAMMIC GyGIAbCOMBvvG NI ABOVEcSP",
      "IRITUS ASPzduNISbxLpBOHAIRIC KHEIbSMrLpBOHAIRIC KHEI.....bOLD NUBIy FULL STOPdDIRECT QUEST",
      "ION MsKdvDIRECT QUESTION MsKdVzSE DIVIDzbFRACTION ONE HrFbFULL STOPbMORPHOLOGICr DIVIDzaGE",
      "ORGIy SMrLpydBydGydDONdENdVvdZENdTydvdKydLASdMydNsdONdPsdZHsdRAEdSydTsdUNdPHsdKHsdGHydQsdS",
      "HvdCHvdCydJILdCILdCHsdXydJHydHAEdHEdHIEdWEdHsdHOE.dYN.....dAEN..aTIFvAGHpYAcYABcYABHcYAGcY",
      "AGHHcBzBz ACADEMY YAJcYAJcYADcYADHcYADDcYADDHcYEYcYAFcYAKcTUsEG YAKcYAKHHcYAHcBzBz ACADEMY",
      " YAHcTUsEG YAHcYAHHcYAAcYAKHcTUsEG YAKHcYAQcTUsEG YAQcYIcYAZHcAHAGGs YAZHcTUsEG YAZHcYrcYA",
      "McYycTUsEG YAGNdYyGcYAPcYUcYscYsRcYAGHcTUsEG YAGHcAYz YAGHcYAScYASScYASHcYATcYATHcYACHcYAT",
      "TcYAVcYAWcYAYcYAZcTAWELuMET YAZcYAZZcYEcYO"]⟩,
   ⟨0x2D6F, ["aTIFvAGH MODIFIzpLABIrIZATION MsKbSEPsATOR MsK"]⟩,
   ⟨0x2D7F, [
      "aTIFvAGH CONSONyT JOvzaETHIOPIC SYLLABu LOAcMOAcROAcSOAcSHOAcBOAcTOAcCOAcNOAcNYOAcGLOTTr O",
      "AcZOAcDOAcDDOAcJOAcTHOAcCHOAcPHOAcPOAcGGWAcGGWIcGGWEEcGGWE"]⟩,
   ⟨0x2DA0, [
      "aETHIOPIC SYLLABu SSAcSSUcSSIcSSAAcSSEEcSSEcSSO.cCCAcCCUcCCIcCCAAcCCEEcCCEcCCO.cZZAcZZUcZZ",
      "IcZZAAcZZEEcZZEcZZO.cCCHAcCCHUcCCHIcCCHAAcCCHEEcCCHEcCCHO.cQYAcQYUcQYIcQYAAcQYEEcQYEcQYO.c",
      "KYAcKYUcKYIcKYAAcKYEEcKYEcKYO.cXYAcXYUcXYIcXYAAcXYEEcXYEcXYO.cGYAcGYUcGYIcGYAAcGYEEcGYEcGY",
      "O.aCOMBvvG CYRILLICpBEdVEdGHEdDEdZHEdZEdKAdELdEMdENdOdPEdzdESdTEdHAdTSEdCHEdSHAdSHCHAdFITA",
      "dES-TEdAdIEdDJzVdMONOGRAPH UKdYATdYUdIOTIFIED AdLITTu YUSdBIG YUSdIOTIFIED BIG YUSaRt yGu ",
      "SUBSTITUTION MsKzcDOTTED SUBSTITUTION MsKzauFT SUBSTITUTION BRACKETaRt SUBSTITUTION BRACKE",
      "TauFT DOTTED SUBSTITUTION BRACKETaRt DOTTED SUBSTITUTION BRACKETaRAISED vTzPOLATION MsKzbD",
      "OTTED vTzPOLATION MsKzaDOTTED TRySPOSITION MsKzauFT TRySPOSITION BRACKETaRt TRySPOSITION B",
      "RACKETaRAISED SQUsEauFT RAISED OMISSION BRACKETaRt RAISED OMISSION BRACKETaEDITORIr CORONI",
      "SaPsAGRAPHOSaFORKED PsAGRAPHOSaREVzSED FORKED PsAGRAPHOSaHYPODIASTOuaDOTTED OBELOSaDOWNWsD",
      "S yCORAaUPWsDS yCORAaDOTTED Rt-POvTvG yGuaDOUBu OBLIQUE HYPHENavVzTED vTzROByGaPrM BRyCHaH",
      "YPHENqDIAzESISaTILDEqRvG ABOVEauFT LOW PsAPHRASE BRACKETaRt LOW PsAPHRASE BRACKETaTILDEqDO",
      "T ABOVEdBELOWauFT VzTICr BsqQUILLaRt VzTICr BsqQUILLaTOP uFT HrF BRACKETbRt HrF BRACKETaBO",
      "TTOM uFT HrF BRACKETbRt HrF BRACKETauFT SIDEWAYS U BRACKETaRt SIDEWAYS U BRACKETauFT DOUBu",
      " PsENTHESISaRt DOUBu PsENTHESISaTWO DOTS OVz ONE DOT PUNCTUATIONaONE DOT OVz TWO DOTS PUNC",
      "TUATIONaSQUsED FOUR DOT PUNCTUATIONaFIVE DOT MsKaREVzSED QUESTION MsKaVzTICr TILDEaRvG POv",
      "TaWORD SEPsATOR MIDDu DOTaTURNED COMMAaRAISED DOTbCOMMAaTURNED SEMICOLONaDAGGzquFT GUsDcRt",
      " GUsDaTURNED DAGGzaTOP HrF SECTION SIGNaTWO-EM DASHaTHREE-EM DASHaSTENOGRAPHIC FULL STOPaV",
      "zTICr SIX DOTSaWIGGLY VzTICr LvEaCAPITULUMaDOUBu HYPHENaREVzSED COMMAaDOUBu LOW-REVzSED-9 ",
      "QUOTATION MsKaDASHquFT UPTURNaDOUBu SUSPENSION MsKavVzTED LOW KAVYKAdWITH KAVYKA ABOVEaLOW",
      " KAVYKAcWITH DOTaDOUBu STACKED COMMAaDOTTED SOLIDUSaTRIPu DAGGzaMEDIEVr COMMAaPsAGRAPHUS M",
      "sKaPUNCTUS EuVATUS MsKaCORNISH VzSE DIVIDzaCROSS PATTYqRt CROSSBsduFT CROSSBsaTIRONIy SIGN",
      " xL ETaMEDIEVr EXCLAMATION MsKbQUESTION MsKauFT SQUsE BRACKETqSTROKEaRt SQUsE BRACKETqSTRO",
      "KEauFT SQUsE BRACKETqDOUBu STROKEaRt SQUsE BRACKETqDOUBu STROKEaTOP HrF uFT PsENTHESIScRt ",
      "PsENTHESISaBOTTOM HrF uFT PsENTHESIScRt PsENTHESISaOBLIQUE HYPHEN"]⟩,
   ⟨0x2E80, [
      "aCJK RADICr REPEATcCLIFFcSECOND ONEdTWOdTHREEcPzSONcBOXcTABucKNIFE ONEdTWOcDIVvATIONcSErcS",
      "MrL ONEdTWOcLAME ONEdTWOdTHREEdFOURcSNAKEcTHREADcSNOUT ONEdTWOcHEsT ONEdTWOcHyDcRAP.cCHOKE",
      "cSUNcMOONcDEATHcMOTHzcCIVILIycWATz ONEdTWOcFIREcPAW ONEdTWOcSIMPLIFIED HrF TREE TRUNKcCOWc",
      "DOGcJADEcBOLT OF CLOTHcEYEcSPIRIT ONEdTWOcBAMBOOcSILKcC-SIMPLIFIED SILKcNET ONEdTWOdTHREEd",
      "FOURcMESHcSHEEPcRAMcEWEcOLDcBRUSH ONEdTWOcMEATcMORTscGRASS ONEdTWOdTHREEcTIGzcCLOTHEScWEST",
      " ONEdTWOcC-SIMPLIFIED SEEcSIMPLIFIED HORNcHORNcC-SIMPLIFIED SPEECHdSHELLcFOOTcC-SIMPLIFIED",
      " CsTcSIMPLIFIED WrKcWrK ONEdTWOcCITYcC-SIMPLIFIED GOLDcLONG ONEdTWOcC-SIMPLIFIED LONGdGATE",
      "cMOUND ONEdTWOcRAvcBLUEcC-SIMPLIFIED TyNED uATHzduAFdWvDdFLYcEAT ONEdTWOdTHREEcC-SIMPLIFIE",
      "D EATcHEADcC-SIMPLIFIED HORSEcBONEcGHOSTcC-SIMPLIFIED FISHdBIRDdSrTcSIMPLIFIED WHEATdYELLO",
      "WcC-SIMPLIFIED FROGcJ-SIMPLIFIED EVENcC-SIMPLIFIED EVENcJ-SIMPLIFIED TOOTHcC-SIMPLIFIED TO",
      "OTHcJ-SIMPLIFIED DRAGONcC-SIMPLIFIED DRAGONcTURTucJ-SIMPLIFIED TURTucC-SIMPLIFIED TURTu"]⟩,
   ⟨0x2F00, [
      "aKyGXI RADICr ONEcLvEcDOTcSLASHcSECONDcHOOKcTWOcLIDcMycuGScENTzcEtcDOWN BOXcCOVzcICEcTABuc",
      "OPEN BOXcKNIFEcPOWzcWRAPcSPOONcRt OPEN BOXcHIDvG ENCLOSUREcTENcDIVvATIONcSErcCLIFFcPRIVATE",
      "cAGAvcMOUTHcENCLOSUREcEsTHcSCHOLscGOdSLOWLYcEVENvGcBIGcWOMycCHILDcROOFcvCHcSMrLcLAMEcCORPS",
      "EcSPROUTcMOUNTAvcRIVzcWORKcONESELFcTURBycDRYcSHORT THREADcDOTTED CLIFFcLONG STRIDEcTWO HyD",
      "ScSHOOTcBOWcSNOUTcBRISTucSTEPcHEsTcHrBzDcDOORcHyDcBRyCHcRAPcSCRIPTcDIPPzcAXEcSQUsEcNOTcSUN",
      "cSAYcMOONcTREEcLACKcSTOPcDEATHcWEAPONcDO NOTcCOMPsEcFURcCLycSTEAMcWATzcFIREcCLAWcFATHzcDOU",
      "Bu XcHrF TREE TRUNKcSLICEcFyGcCOWcDOGcPROFOUNDcJADEcMELONcTIucSWEETcLIFEcUSEcFIELDcBOLT OF",
      " CLOTHcSICKNESScDOTTED TENTcWHITEcSKvcDISHcEYEcSPEscsROWcSTONEcSPIRITcTRACKcGRAvcCAVEcSTyD",
      "cBAMBOOcRICEcSILKcJscNETcSHEEPcFEATHzcOLDcyDcPLOWcEscBRUSHcMEATcMvISTzcSELFcsRIVEcMORTscTO",
      "NGUEcOPPOSEcBOATcSTOPPvGcCOLORcGRASScTIGzcvSECTcBLOODcWrK ENCLOSUREcCLOTHEScWESTcSEEcHORNc",
      "SPEECHcVruYcBEycPIGcBADGzcSHELLcREDcRUNcFOOTcBODYcCsTcBITTzcMORNvGcWrKcCITYcWvEcDISTvGUISH",
      "cVILLAGEcGOLDcLONGcGATEcMOUNDcSLAVEcSHORT TAIuD BIRDcRAvcBLUEcWRONGcFACEcuATHzcTyNED uATHz",
      "cuEKcSOUNDcuAFcWvDcFLYcEATcHEADcFRAGRyTcHORSEcBONEcTrLcHAIRcFtcSACRIFICIr WvEcCAULDRONcGHO",
      "STcFISHcBIRDcSrTcDEzcWHEATcHEMPcYELLOWcMILuTcBLACKcEMBROIDzYcFROGcTRIPODcDRUMcRATcNOSEcEVE",
      "NcTOOTHcDRAGONcTURTucFLUTE"]⟩,
   ⟨0x2FF0, [
      "aIDEOGRAPHIC DESCRIPTION CHsACTz uFT TO RtdABOVE TO BELOWduFT TO MIDDu yD RtdABOVE TO MIDD",
      "u yD BELOWdFULL SURROUNDdSURROUND FROM ABOVEfBELOWfuFTfUPPz uFTgRtfLOWz uFTdOVzLAID....bSP",
      "ACEbCOMMAbFULL STOPaDITTO MsKaJAPyESE vDUSTRIr STyDsD SYMBOLaIDEOGRAPHIC ITzATION MsKbCLOS",
      "vG MsKbNUMBz ZzOauFT yGu BRACKETaRt yGu BRACKETauFT DOUBu yGu BRACKETaRt DOUBu yGu BRACKET",
      "auFT CORNz BRACKETaRt CORNz BRACKETauFT WHITE CORNz BRACKETaRt WHITE CORNz BRACKETauFT BLA",
      "CK uNTICULs BRACKETaRt BLACK uNTICULs BRACKETaPOSTr MsKaGETA MsKauFT TORTOISE SHELL BRACKE",
      "TaRt TORTOISE SHELL BRACKETauFT WHITE uNTICULs BRACKETaRt WHITE uNTICULs BRACKETauFT WHITE",
      " TORTOISE SHELL BRACKETaRt WHITE TORTOISE SHELL BRACKETauFT WHITE SQUsE BRACKETaRt WHITE S",
      "QUsE BRACKETaWAVE DASHaREVzSED DOUBu PRIME QUOTATION MsKaDOUBu PRIME QUOTATION MsKaLOW DOU",
      "Bu PRIME QUOTATION MsKaPOSTr MsK FACEaHyGZHOU NUMzr ONEcTWOcTHREEcFOURcFIVEcSIXcSEVENcEtcN",
      "vEaIDEOGRAPHIC uVEL TONE MsKbRISvG TONE MsKbDEPsTvG TONE MsKbENTzvG TONE MsKaHyGUL SvGu DO",
      "T TONE MsKbDOUBu DOT TONE MsKaWAVY DASHaVzTICr KyA REPEAT MsKdWITH VOICED SOUND MsKdMsK UP",
      "Pz HrFdWITH VOICED SOUND MsK UPPz HrFdMsK LOWz HrFaCIRCuD POSTr MsKaIDEOGRAPHIC TEuGRAPH L",
      "vE FEED SEPsATOR SYMBOLaHyGZHOU NUMzr TENcTWENTYcTHIRTYaVzTICr IDEOGRAPHIC ITzATION MsKaMA",
      "SU MsKaPsT rTzNATION MsKaIDEOGRAPHIC VsIATION vDICATORbHrF FILL SPACE.aHIRAGyApSMrL AcAcSM",
      "rL IcIcSMrL UcUcSMrL EcEcSMrL OcOcKAcGAcKIcGIcKUcGUcKEcGEcKOcGOcSAcZAcSIcZIcSUcZUcSEcZEcSO",
      "cZOcTAcDAcTIcDIcSMrL TUcTUcDUcTEcDEcTOcDOcNAcNIcNUcNEcNOcHAcBAcPAcHIcBIcPIcHUcBUcPUcHEcBEc",
      "PEcHOcBOcPOcMAcMIcMUcMEcMOcSMrL YAcYAcSMrL YUcYUcSMrL YOcYOcRAcRIcRUcREcROcSMrL WAcWAcWIcW",
      "EcWOcNcVUcSMrL KAdKE..aCOMBvvG KATAKyA-HIRAGyA VOICED SOUND MsKcSEMI-VOICED SOUND MsKaKATA",
      "KyA-HIRAGyA VOICED SOUND MsKbSEMI-VOICED SOUND MsKaHIRAGyA ITzATION MsKbVOICED ITzATION Ms",
      "KbDIGRAPH YORIaKATAKyA-HIRAGyA DOUBu HYPHENaKATAKyApSMrL AcAcSMrL IcIcSMrL UcUcSMrL EcEcSM",
      "rL OcOcKAcGAcKIcGIcKUcGUcKEcGEcKOcGOcSAcZAcSIcZIcSUcZUcSEcZEcSOcZOcTAcDAcTIcDIcSMrL TUcTUc",
      "DUcTEcDEcTOcDOcNAcNIcNUcNEcNOcHAcBAcPAcHIcBIcPIcHUcBUcPUcHEcBEcPEcHOcBOcPOcMAcMIcMUcMEcMOc",
      "SMrL YAcYAcSMrL YUcYUcSMrL YOcYOcRAcRIcRUcREcROcSMrL WAcWAcWIcWEcWOcNcVUcSMrL KAdKEcVAcVIc",
      "VEcVObMIDDu DOTaKATAKyA-HIRAGyA PROLONGED SOUND MsKaKATAKyA ITzATION MsKbVOICED ITzATION M",
      "sKbDIGRAPH KOTO.....aBOPOMOFOpBcPcMcFcDcTcNcLcGcKcHcJcQcXcZHcCHcSHcRcZcCcScAcOcEcEHcAIcEIc",
      "AUcOUcycENcyGcENGczcIcUcIUcVcNGcGNcIHcOqDOT ABOVEcNN.aHyGULpKIYEOKcSSyGKIYEOKcKIYEOK-SIOSc",
      "NIEUNcNIEUN-CIEUCcNIEUN-HIEUHcTIKEUTcSSyGTIKEUTcRIEULcRIEUL-KIYEOKcRIEUL-MIEUMcRIEUL-PIEUP",
      "cRIEUL-SIOScRIEUL-THIEUTHcRIEUL-PHIEUPHcRIEUL-HIEUHcMIEUMcPIEUPcSSyGPIEUPcPIEUP-SIOScSIOSc",
      "SSyGSIOScIEUNGcCIEUCcSSyGCIEUCcCHIEUCHcKHIEUKHcTHIEUTHcPHIEUPHcHIEUHcAcAEcYAcYAEcEOcEcYEOc",
      "YEcOcWAcWAEcOEcYOcUcWEOcWEcWIcYUcEUcYIcIbFILuRbuTTz SSyGNIEUNcNIEUN-TIKEUTcNIEUN-SIOScNIEU",
      "N-PySIOScRIEUL-KIYEOK-SIOScRIEUL-TIKEUTcRIEUL-PIEUP-SIOScRIEUL-PySIOScRIEUL-YEORvHIEUHcMIE",
      "UM-PIEUPcMIEUM-SIOScMIEUM-PySIOScKAPYEOUNMIEUMcPIEUP-KIYEOKcPIEUP-TIKEUTcPIEUP-SIOS-KIYEOK",
      "cPIEUP-SIOS-TIKEUTcPIEUP-CIEUCcPIEUP-THIEUTHcKAPYEOUNPIEUPcKAPYEOUNSSyGPIEUPcSIOS-KIYEOKcS",
      "IOS-NIEUNcSIOS-TIKEUTcSIOS-PIEUPcSIOS-CIEUCcPySIOScSSyGIEUNGcYESIEUNGcYESIEUNG-SIOScYESIEU",
      "NG-PySIOScKAPYEOUNPHIEUPHcSSyGHIEUHcYEORvHIEUHcYO-YAcYO-YAEcYO-IcYU-YEOcYU-YEcYU-IcsAEAcsA",
      "EAE.aIDEOGRAPHIC yNOTATION LvKvG MsKcREVzSE MsKcONE MsKcTWO MsKcTHREE MsKcFOUR MsKcTOP MsK",
      "cMIDDu MsKcBOTTOM MsKcFIRST MsKcSECOND MsKcTHIRD MsKcFOURTH MsKcHEAVEN MsKcEsTH MsKcMy MsK",
      "aBOPOMOFOpBUcZIcJIcGUcEEcENNcOOcONNcIRcyNcvNcUNNcIMcNGGcAvNcAUNNcAMcOMcONGcvNNbFvrpPdTdKdH",
      "buTTz GHcLHcZYbFvrpGbuTTz GWcKWcOEcAHaCJK STROKE TcWGcXGcBXGcSWcHZZcHZGcHPcHZWGcSZWGcHZTcH",
      "ZZPcHPWGcHZWcHZZZcNcHcScPcSPcDcHZcHGcSZcSWZcSTcSGcPDcPZcTNcSZZcSWGcHXWGcHZZZGcPGcQ"]⟩,
   ⟨0x31F0, [
      "aKATAKyApSMrL KUdSIdSUdTOdNUdHAdHIdHUdHEdHOdMUdRAdRIdRUdREdROaPsENTHESIZED HyGUL KIYEOKcNI",
      "EUNcTIKEUTcRIEULcMIEUMcPIEUPcSIOScIEUNGcCIEUCcCHIEUCHcKHIEUKHcTHIEUTHcPHIEUPHcHIEUHcKIYEOK",
      " AcNIEUN AcTIKEUT AcRIEUL AcMIEUM AcPIEUP AcSIOS AcIEUNG AcCIEUC AcCHIEUCH AcKHIEUKH AcTHI",
      "EUTH AcPHIEUPH AcHIEUH AcCIEUC UbKOREy CHsACTz OJEONdO HU.bIDEOGRAPH ONEcTWOcTHREEcFOURcFI",
      "VEcSIXcSEVENcEtcNvEcTENcMOONcFIREcWATzcWOODcMETrcEsTHcSUNcSTOCKcHAVEcSOCIETYcNAMEcSPECIrcF",
      "vyCIrcCONGRATULATIONcLABORcREPRESENTcCrLcSTUDYcSUPzVISEcENTzPRISEcRESOURCEcrLIyCEcFESTIVrc",
      "RESTcSELFcREACHaCIRCuD IDEOGRAPH QUESTIONcKvDzGsTENcSCHOOLcKOTObNUMBz TEN ON BLACK SQUsEcT",
      "WENTY ON BLACK SQUsEcTHIRTY ON BLACK SQUsEcFORTY ON BLACK SQUsEcFIFTY ON BLACK SQUsEcSIXTY",
      " ON BLACK SQUsEcSEVENTY ON BLACK SQUsEcEtY ON BLACK SQUsEaPsTNzSHIP SIGNaCIRCuD NUMBz TWEN",
      "TY ONEdTWOdTHREEdFOURdFIVEdSIXdSEVENdEtdNvEcTHIRTYdONEdTWOdTHREEdFOURdFIVEbHyGUL KIYEOKcNI",
      "EUNcTIKEUTcRIEULcMIEUMcPIEUPcSIOScIEUNGcCIEUCcCHIEUCHcKHIEUKHcTHIEUTHcPHIEUPHcHIEUHcKIYEOK",
      " AcNIEUN AcTIKEUT AcRIEUL AcMIEUM AcPIEUP AcSIOS AcIEUNG AcCIEUC AcCHIEUCH AcKHIEUKH AcTHI",
      "EUTH AcPHIEUPH AcHIEUH AbKOREy CHsACTz CHAMKOdJUEUIbHyGUL IEUNG UaKOREy STyDsD SYMBOLaCIRC",
      "uD IDEOGRAPH ONEcTWOcTHREEcFOURcFIVEcSIXcSEVENcEtcNvEcTENcMOONcFIREcWATzcWOODcMETrcEsTHcSU",
      "NcSTOCKcHAVEcSOCIETYcNAMEcSPECIrcFvyCIrcCONGRATULATIONcLABORcSECRETcMrEcFEMrEcSUITABucEXCE",
      "LuNTcPRvTcATTENTIONcITEMcRESTcCOPYcCORRECTcHIGHcCENTREcLOWcuFTcRtcMEDICvEcRELIGIONcSTUDYcS",
      "UPzVISEcENTzPRISEcRESOURCEcrLIyCEcNtbNUMBz THIRTY SIXdSEVENdEtdNvEcFORTYdONEdTWOdTHREEdFOU",
      "RdFIVEdSIXdSEVENdEtdNvEcFIFTYaIDEOGRAPHIC TEuGRAPH SYMBOL FOR JyUsYeFEBRUsYeMsCHeAPRILeMAY",
      "eJUNEeJULYeAUGUSTeSEPTEMBzeOCTOBzeNOVEMBzeDECEMBzaSQUsE HGbzGbEVaLIMITED LIABILITY SIGNaCI",
      "RCuD KATAKyA AcIcUcEcOcKAcKIcKUcKEcKOcSAcSIcSUcSEcSOcTAcTIcTUcTEcTOcNAcNIcNUcNEcNOcHAcHIcH",
      "UcHEcHOcMAcMIcMUcMEcMOcYAcYUcYOcRAcRIcRUcREcROcWAcWIcWEcWOaSQUsE zA NAME REIWAbAPAATObsUHU",
      "AbyPEAbAsUbvvGUbvTIbUONbESUKUUDObEEKAAbONSUbOOMUbKAIRIbKsATTObKsORIIbGsONbGyMAbGIGAbGvIIbK",
      "YURIIbGIRUDAAbKIRObKIROGURAMUbKIROMEETORUbKIROWATTObGURAMUbGURAMUTONbKURUZEIRObKUROONEbKEE",
      "SUbKORUNAbKOOPObSAIKURUbSyTIIMUbSIRvGUbSENTIbSENTObDAASUbDESIbDORUbTONbNyObNOTTObHAITUbPAA",
      "SENTObPAATUbBAszUbPIASUTORUbPIKURUbPIKObBIRUbHUsADDObHUIITObBUSSYzUbHURybHEKUTAsUbPESObPEN",
      "IHIbHzUTUbPENSUbPEEZIbBEETAbPOvTObBORUTObHONbPONDObHOORUbHOONbMAIKURObMAIRUbMAHHAbMsUKUbMy",
      "SYONbMIKURONbMIRIbMIRIBAsUbMEGAbMEGATONbMEETORUbYAADObYAsUbYUybRITTORUbRIRAbRUPIIbRUUBURUb",
      "REMUbRENTOGENbWATTOaIDEOGRAPHIC TEuGRAPH SYMBOL FOR HOUR ZzOfONEfTWOfTHREEfFOURfFIVEfSIXfS",
      "EVENfEtfNvEfTENfEuVENfTWELVEfTHIRTEENfFOURTEENfFIFTEENfSIXTEENfSEVENTEENfEtEENfNvETEENfTWE",
      "NTYfTWENTY-ONEfTWENTY-TWOfTWENTY-THREEfTWENTY-FOURaSQUsE HPAbDAbAUbBsbOVbPCbDMcSQUsEDcCUBE",
      "DbIUbzA NAME HEISEIdSYOUWAdTAISYOUdMEIZIbCORPORATIONbPA AMPSbNAbMU AbMAbKAbKBbMBbGBbCrbKCr",
      "bPFbNFbMU FcGbMGbKGbHZbKHZbMHZbGHZbTHZbMU LbMLbDLbKLbFMbNMbMU MbMMbCMbKMbMM SQUsEDbCM SQUs",
      "EDbM SQUsEDbKM SQUsEDbMM CUBEDbCM CUBEDbM CUBEDbKM CUBEDbM OVz SeSQUsEDbPAbKPAbMPAbGPAbRAD",
      "cOVz SeSQUsEDbPSbNSbMU SbMSbPVbNVbMU VbMVbKVbMV MEGAbPWbNWbMU WbMWbKWbMW MEGAbK OHMbM OHMb",
      "AMbBQbCCbCDbC OVz KGbCObDBbGYbHAbHPbvbKKbKM xLbKTbLMbLNbLOGbLXbMB SMrLbMILbMOLbPHbPMbPPMbP",
      "RbSRbSVbWBbV OVz MbA OVz MaIDEOGRAPHIC TEuGRAPH SYMBOL FOR DAY ONEfTWOfTHREEfFOURfFIVEfSIX",
      "fSEVENfEtfNvEfTENfEuVENfTWELVEfTHIRTEENfFOURTEENfFIFTEENfSIXTEENfSEVENTEENfEtEENfNvETEENfT",
      "WENTYfTWENTY-ONEfTWENTY-TWOfTWENTY-THREEfTWENTY-FOURfTWENTY-FIVEfTWENTY-SIXfTWENTY-SEVENfT",
      "WENTY-EtfTWENTY-NvEfTHIRTYfTHIRTY-ONEaSQUsE Gr"]⟩,
   ⟨0x4DC0, [
      "aHEXAGRAM FOR THE CREATIVE HEAVENdRECEPTIVE EsTHcDIFFICULTY AT THE BEGvNvGcYOUTHFUL FOLLYc",
      "WAITvGcCONFLICTcTHE sMYcHOLDvG TOGETHzcSMrL TAMvGcTREADvGcPEACEcSTyDSTILLcFELLOWSHIPcGREAT",
      " POSSESSIONcMODESTYcENTHUSIASMcFOLLOWvGcWORK ON THE DECAYEDcAPPROACHcCONTEMPLATIONcBITvG T",
      "HROUGHcGRACEcSPLITTvG APsTcRETURNcvNOCENCEcGREAT TAMvGcMOUTH CORNzScGREAT PREPONDzyCEcTHE ",
      "ABYSMr WATzdCLvGvG FIREcvFLUENCEcDURATIONcRETREATcGREAT POWzcPROGRESScDsKENvG OF THE LtcTH",
      "E FAMILYcOPPOSITIONcOBSTRUCTIONcDELIVzyCEcDECREASEcvCREASEcBREAKTHROUGHcCOMvG TO MEETcGATH",
      "zvG TOGETHzcPUSHvG UPWsDcOPPRESSIONcTHE WELLcREVOLUTIONcTHE CAULDRONdsOUSvG THUNDzdKEEPvG ",
      "STILL MOUNTAvcDEVELOPMENTcTHE MsRYvG MAIDENcABUNDyCEcTHE WyDzzdGENTu WvDdJOYOUS LAKEcDISPz",
      "SIONcLIMITATIONcvNz TRUTHcSMrL PREPONDzyCEcAFTz COMPuTIONcBEFORE COMPuTION"]⟩,
   ⟨0xA000, [
      "aYI SYLLABu ITcIXcIcIPcIETcIEXcIEcIEPcATcAXcAcAPcUOXcUOcUOPcOTcOXcOcOPcEXcEcWUcBITcBIXcBIc",
      "BIPcBIETcBIEXcBIEcBIEPcBATcBAXcBAcBAPcBUOXcBUOcBUOPcBOTcBOXcBOcBOPcBEXcBEcBEPcBUTcBUXcBUcB",
      "UPcBURXcBURcBYTcBYXcBYcBYPcBYRXcBYRcPITcPIXcPIcPIPcPIEXcPIEcPIEPcPATcPAXcPAcPAPcPUOXcPUOcP",
      "UOPcPOTcPOXcPOcPOPcPUTcPUXcPUcPUPcPURXcPURcPYTcPYXcPYcPYPcPYRXcPYRcBBITcBBIXcBBIcBBIPcBBIE",
      "TcBBIEXcBBIEcBBIEPcBBATcBBAXcBBAcBBAPcBBUOXcBBUOcBBUOPcBBOTcBBOXcBBOcBBOPcBBEXcBBEcBBEPcBB",
      "UTcBBUXcBBUcBBUPcBBURXcBBURcBBYTcBBYXcBBYcBBYPcNBITcNBIXcNBIcNBIPcNBIEXcNBIEcNBIEPcNBATcNB",
      "AXcNBAcNBAPcNBOTcNBOXcNBOcNBOPcNBUTcNBUXcNBUcNBUPcNBURXcNBURcNBYTcNBYXcNBYcNBYPcNBYRXcNBYR",
      "cHMITcHMIXcHMIcHMIPcHMIEXcHMIEcHMIEPcHMATcHMAXcHMAcHMAPcHMUOXcHMUOcHMUOPcHMOTcHMOXcHMOcHMO",
      "PcHMUTcHMUXcHMUcHMUPcHMURXcHMURcHMYXcHMYcHMYPcHMYRXcHMYRcMITcMIXcMIcMIPcMIEXcMIEcMIEPcMATc",
      "MAXcMAcMAPcMUOTcMUOXcMUOcMUOPcMOTcMOXcMOcMOPcMEXcMEcMUTcMUXcMUcMUPcMURXcMURcMYTcMYXcMYcMYP",
      "cFITcFIXcFIcFIPcFATcFAXcFAcFAPcFOXcFOcFOPcFUTcFUXcFUcFUPcFURXcFURcFYTcFYXcFYcFYPcVITcVIXcV",
      "IcVIPcVIETcVIEXcVIEcVIEPcVATcVAXcVAcVAPcVOTcVOXcVOcVOPcVEXcVEPcVUTcVUXcVUcVUPcVURXcVURcVYT",
      "cVYXcVYcVYPcVYRXcVYRcDITcDIXcDIcDIPcDIEXcDIEcDIEPcDATcDAXcDAcDAPcDUOXcDUOcDOTcDOXcDOcDOPcD",
      "EXcDEcDEPcDUTcDUXcDUcDUPcDURXcDURcTITcTIXcTIcTIPcTIEXcTIEcTIEPcTATcTAXcTAcTAPcTUOTcTUOXcTU",
      "OcTUOPcTOTcTOXcTOcTOPcTEXcTEcTEPcTUTcTUXcTUcTUPcTURXcTURcDDITcDDIXcDDIcDDIPcDDIEXcDDIEcDDI",
      "EPcDDATcDDAXcDDAcDDAPcDDUOXcDDUOcDDUOPcDDOTcDDOXcDDOcDDOPcDDEXcDDEcDDEPcDDUTcDDUXcDDUcDDUP",
      "cDDURXcDDURcNDITcNDIXcNDIcNDIPcNDIEXcNDIEcNDATcNDAXcNDAcNDAPcNDOTcNDOXcNDOcNDOPcNDEXcNDEcN",
      "DEPcNDUTcNDUXcNDUcNDUPcNDURXcNDURcHNITcHNIXcHNIcHNIPcHNIETcHNIEXcHNIEcHNIEPcHNATcHNAXcHNAc",
      "HNAPcHNUOXcHNUOcHNOTcHNOXcHNOPcHNEXcHNEcHNEPcHNUTcNITcNIXcNIcNIPcNIEXcNIEcNIEPcNAXcNAcNAPc",
      "NUOXcNUOcNUOPcNOTcNOXcNOcNOPcNEXcNEcNEPcNUTcNUXcNUcNUPcNURXcNURcHLITcHLIXcHLIcHLIPcHLIEXcH",
      "LIEcHLIEPcHLATcHLAXcHLAcHLAPcHLUOXcHLUOcHLUOPcHLOXcHLOcHLOPcHuXcHucHuPcHLUTcHLUXcHLUcHLUPc",
      "HLURXcHLURcHLYTcHLYXcHLYcHLYPcHLYRXcHLYRcLITcLIXcLIcLIPcLIETcLIEXcLIEcLIEPcLATcLAXcLAcLAPc",
      "LUOTcLUOXcLUOcLUOPcLOTcLOXcLOcLOPcuXcucuPcLUTcLUXcLUcLUPcLURXcLURcLYTcLYXcLYcLYPcLYRXcLYRc",
      "GITcGIXcGIcGIPcGIETcGIEXcGIEcGIEPcGATcGAXcGAcGAPcGUOTcGUOXcGUOcGUOPcGOTcGOXcGOcGOPcGETcGEX",
      "cGEcGEPcGUTcGUXcGUcGUPcGURXcGURcKITcKIXcKIcKIPcKIEXcKIEcKIEPcKATcKAXcKAcKAPcKUOXcKUOcKUOPc",
      "KOTcKOXcKOcKOPcKETcKEXcKEcKEPcKUTcKUXcKUcKUPcKURXcKURcGGITcGGIXcGGIcGGIEXcGGIEcGGIEPcGGATc",
      "GGAXcGGAcGGAPcGGUOTcGGUOXcGGUOcGGUOPcGGOTcGGOXcGGOcGGOPcGGETcGGEXcGGEcGGEPcGGUTcGGUXcGGUcG",
      "GUPcGGURXcGGURcMGIEXcMGIEcMGATcMGAXcMGAcMGAPcMGUOXcMGUOcMGUOPcMGOTcMGOXcMGOcMGOPcMGEXcMGEc",
      "MGEPcMGUTcMGUXcMGUcMGUPcMGURXcMGURcHXITcHXIXcHXIcHXIPcHXIETcHXIEXcHXIEcHXIEPcHXATcHXAXcHXA",
      "cHXAPcHXUOTcHXUOXcHXUOcHXUOPcHXOTcHXOXcHXOcHXOPcHXEXcHXEcHXEPcNGIEXcNGIEcNGIEPcNGATcNGAXcN",
      "GAcNGAPcNGUOTcNGUOXcNGUOcNGOTcNGOXcNGOcNGOPcNGEXcNGEcNGEPcHITcHIEXcHIEcHATcHAXcHAcHAPcHUOT",
      "cHUOXcHUOcHUOPcHOTcHOXcHOcHOPcHEXcHEcHEPcWATcWAXcWAcWAPcWUOXcWUOcWUOPcWOXcWOcWOPcWEXcWEcWE",
      "PcZITcZIXcZIcZIPcZIEXcZIEcZIEPcZATcZAXcZAcZAPcZUOXcZUOcZUOPcZOTcZOXcZOcZOPcZEXcZEcZEPcZUTc",
      "ZUXcZUcZUPcZURXcZURcZYTcZYXcZYcZYPcZYRXcZYRcCITcCIXcCIcCIPcCIETcCIEXcCIEcCIEPcCATcCAXcCAcC",
      "APcCUOXcCUOcCUOPcCOTcCOXcCOcCOPcCEXcCEcCEPcCUTcCUXcCUcCUPcCURXcCURcCYTcCYXcCYcCYPcCYRXcCYR",
      "cZZITcZZIXcZZIcZZIPcZZIETcZZIEXcZZIEcZZIEPcZZATcZZAXcZZAcZZAPcZZOXcZZOcZZOPcZZEXcZZEcZZEPc",
      "ZZUXcZZUcZZUPcZZURXcZZURcZZYTcZZYXcZZYcZZYPcZZYRXcZZYRcNZITcNZIXcNZIcNZIPcNZIEXcNZIEcNZIEP",
      "cNZATcNZAXcNZAcNZAPcNZUOXcNZUOcNZOXcNZOPcNZEXcNZEcNZUXcNZUcNZUPcNZURXcNZURcNZYTcNZYXcNZYcN",
      "ZYPcNZYRXcNZYRcSITcSIXcSIcSIPcSIEXcSIEcSIEPcSATcSAXcSAcSAPcSUOXcSUOcSUOPcSOTcSOXcSOcSOPcSE",
      "XcSEcSEPcSUTcSUXcSUcSUPcSURXcSURcSYTcSYXcSYcSYPcSYRXcSYRcSSITcSSIXcSSIcSSIPcSSIEXcSSIEcSSI",
      "EPcSSATcSSAXcSSAcSSAPcSSOTcSSOXcSSOcSSOPcSSEXcSSEcSSEPcSSUTcSSUXcSSUcSSUPcSSYTcSSYXcSSYcSS",
      "YPcSSYRXcSSYRcZHATcZHAXcZHAcZHAPcZHUOXcZHUOcZHUOPcZHOTcZHOXcZHOcZHOPcZHETcZHEXcZHEcZHEPcZH",
      "UTcZHUXcZHUcZHUPcZHURXcZHURcZHYTcZHYXcZHYcZHYPcZHYRXcZHYRcCHATcCHAXcCHAcCHAPcCHUOTcCHUOXcC",
      "HUOcCHUOPcCHOTcCHOXcCHOcCHOPcCHETcCHEXcCHEcCHEPcCHUXcCHUcCHUPcCHURXcCHURcCHYTcCHYXcCHYcCHY",
      "PcCHYRXcCHYRcRRAXcRRAcRRUOXcRRUOcRROTcRROXcRROcRROPcRRETcRREXcRREcRREPcRRUTcRRUXcRRUcRRUPc",
      "RRURXcRRURcRRYTcRRYXcRRYcRRYPcRRYRXcRRYRcNRATcNRAXcNRAcNRAPcNROXcNROcNROPcNRETcNREXcNREcNR",
      "EPcNRUTcNRUXcNRUcNRUPcNRURXcNRURcNRYTcNRYXcNRYcNRYPcNRYRXcNRYRcSHATcSHAXcSHAcSHAPcSHUOXcSH",
      "UOcSHUOPcSHOTcSHOXcSHOcSHOPcSHETcSHEXcSHEcSHEPcSHUTcSHUXcSHUcSHUPcSHURXcSHURcSHYTcSHYXcSHY",
      "cSHYPcSHYRXcSHYRcRATcRAXcRAcRAPcRUOXcRUOcRUOPcROTcROXcROcROPcREXcREcREPcRUTcRUXcRUcRUPcRUR",
      "XcRURcRYTcRYXcRYcRYPcRYRXcRYRcJITcJIXcJIcJIPcJIETcJIEXcJIEcJIEPcJUOTcJUOXcJUOcJUOPcJOTcJOX",
      "cJOcJOPcJUTcJUXcJUcJUPcJURXcJURcJYTcJYXcJYcJYPcJYRXcJYRcQITcQIXcQIcQIPcQIETcQIEXcQIEcQIEPc",
      "QUOTcQUOXcQUOcQUOPcQOTcQOXcQOcQOPcQUTcQUXcQUcQUPcQURXcQURcQYTcQYXcQYcQYPcQYRXcQYRcJJITcJJI",
      "XcJJIcJJIPcJJIETcJJIEXcJJIEcJJIEPcJJUOXcJJUOcJJUOPcJJOTcJJOXcJJOcJJOPcJJUTcJJUXcJJUcJJUPcJ",
      "JURXcJJURcJJYTcJJYXcJJYcJJYPcNJITcNJIXcNJIcNJIPcNJIETcNJIEXcNJIEcNJIEPcNJUOXcNJUOcNJOTcNJO",
      "XcNJOcNJOPcNJUXcNJUcNJUPcNJURXcNJURcNJYTcNJYXcNJYcNJYPcNJYRXcNJYRcNYITcNYIXcNYIcNYIPcNYIET",
      "cNYIEXcNYIEcNYIEPcNYUOXcNYUOcNYUOPcNYOTcNYOXcNYOcNYOPcNYUTcNYUXcNYUcNYUPcXITcXIXcXIcXIPcXI",
      "ETcXIEXcXIEcXIEPcXUOXcXUOcXOTcXOXcXOcXOPcXYTcXYXcXYcXYPcXYRXcXYRcYITcYIXcYIcYIPcYIETcYIEXc",
      "YIEcYIEPcYUOTcYUOXcYUOcYUOPcYOTcYOXcYOcYOPcYUTcYUXcYUcYUPcYURXcYURcYYTcYYXcYYcYYPcYYRXcYYR",
      "...bRADICr QOTcLIcKITcNYIPcCYPcSSIcGGOPcGEPcMIcHXITcLYRcBBUTcMOPcYOcPUTcHXUOcTATcGAcZUPcCY",
      "TcDDURcBURcGGUOcNYOPcTUcOPcJJUTcZOTcPYTcHMOcYITcVURcSHYcVEPcZAcJOcNZUPcJJYcGOTcJJIEcWOcDUc",
      "SHURcLIEcCYcCUOPcCIPcHXOPcSHATcZURcSHOPcCHEcZZIETcNBIEcKE"]⟩,
   ⟨0xA4D0, [
      "aLISUpBAcPAcPHAcDAcTAcTHAcGAcKAcKHAcJAcCAcCHAcDZAcTSAcTSHAcMAcNAcLAcSAcZHAcZAcNGAcHAcXAcHH",
      "AcFAcWAcSHAcYAcGHAcAcAEcEcEUcIcOcUcUEcUHcOEcTONE MYA TIdNA POdMYA CYAeBOeNAeJEUbPUNCTUATIO",
      "N COMMAcFULL STOPaVAI SYLLABu EEcEENcHEEcWEEcWEENcPEEcBHEEcBEEcMBEEcKPEEcMGBEEcGBEEcFEEcVE",
      "EcTEEcTHEEcDHEEcDHHEEcuEcREEcDEEcNDEEcSEEcSHEEcZEEcZHEEcCEEcJEEcNJEEcYEEcKEEcNGGEEcGEEcMEE",
      "cNEEcNYEEcIcvcHIcHvcWIcWvcPIcBHIcBIcMBIcKPIcMGBIcGBIcFIcVIcTIcTHIcDHIcDHHIcLIcRIcDIcNDIcSI",
      "cSHIcZIcZHIcCIcJIcNJIcYIcKIcNGGIcGIcMIcNIcNYIcAcycNGycHAcHycWAcWycPAcBHAcBAcMBAcKPAcKPycMG",
      "BAcGBAcFAcVAcTAcTHAcDHAcDHHAcLAcRAcDAcNDAcSAcSHAcZAcZHAcCAcJAcNJAcYAcKAcKycNGGAcGAcMAcNAcN",
      "YAcOOcOONcHOOcWOOcWOONcPOOcBHOOcBOOcMBOOcKPOOcMGBOOcGBOOcFOOcVOOcTOOcTHOOcDHOOcDHHOOcLOOcR",
      "OOcDOOcNDOOcSOOcSHOOcZOOcZHOOcCOOcJOOcNJOOcYOOcKOOcNGGOOcGOOcMOOcNOOcNYOOcUcUNcHUcHUNcWUcW",
      "UNcPUcBHUcBUcMBUcKPUcMGBUcGBUcFUcVUcTUcTHUcDHUcDHHUcLUcRUcDUcNDUcSUcSHUcZUcZHUcCUcJUcNJUcY",
      "UcKUcNGGUcGUcMUcNUcNYUcOcONcNGONcHOcHONcWOcWONcPOcBHOcBOcMBOcKPOcMGBOcGBOcGBONcFOcVOcTOcTH",
      "OcDHOcDHHOcLOcROcDOcNDOcSOcSHOcZOcZHOcCOcJOcNJOcYOcKOcNGGOcGOcMOcNOcNYOcEcENcNGENcHEcHENcW",
      "EcWENcPEcBHEcBEcMBEcKPEcKPENcMGBEcGBEcGBENcFEcVEcTEcTHEcDHEcDHHEcucREcDEcNDEcSEcSHEcZEcZHE",
      "cCEcJEcNJEcYEcKEcNGGEcNGGENcGEcGENcMEcNEcNYEcNGcuNGTHENzbCOMMAbFULL STOPbQUESTION MsKbSYLL",
      "ABu NDOu FAdKAdSOObSYMBOL FEENGcKEENGcTvGcNIIcByGcFAAcTAAcDyGcDOONGcKUNGcTONGcDO-OcJONGbDI",
      "GIT ZzOcONEcTWOcTHREEcFOURcFIVEcSIXcSEVENcEtcNvEbSYLLABu NDOu MAdDO"]⟩,
   ⟨0xA640, [
      "aCYRILLIC xLpZEMLYAbSMrLpZEMLYAbxLpDZELObSMrLpDZELObxLpREVzSED DZEbSMrLpREVzSED DZEbxLpIOT",
      "AbSMrLpIOTAbxLpDJzVbSMrLpDJzVbxLpMONOGRAPH UKbSMrLpMONOGRAPH UKbxLpBROAD OMEGAbSMrLpBROAD ",
      "OMEGAbxLpNEUTRr YzbSMrLpNEUTRr YzbxLpYzUqBACK YzbSMrLpYzUqBACK YzbxLpIOTIFIED YATbSMrLpIOT",
      "IFIED YATbxLpREVzSED YUbSMrLpREVzSED YUbxLpIOTIFIED AbSMrLpIOTIFIED AbxLpCLOSED LITTu YUSb",
      "SMrLpCLOSED LITTu YUSbxLpBuNDED YUSbSMrLpBuNDED YUSbxLpIOTIFIED CLOSED LITTu YUSbSMrLpIOTI",
      "FIED CLOSED LITTu YUSbxLpYNbSMrLpYNbxLpREVzSED TSEbSMrLpREVzSED TSEbxLpSOFT DEbSMrLpSOFT D",
      "EbxLpSOFT ELbSMrLpSOFT ELbxLpSOFT EMbSMrLpSOFT EMbxLpMONOCULs ObSMrLpMONOCULs ObxLpBvOCULs",
      " ObSMrLpBvOCULs ObxLpDOUBu MONOCULs ObSMrLpDOUBu MONOCULs ObuTTz MULTIOCULs OaCOMBvvG CYRI",
      "LLIC VZMETcTEN MILLIONS SIGNcHUNDRED MILLIONS SIGNcTHOUSyD MILLIONS SIGNaSLAVONIC ASTzISKa",
      "COMBvvG CYRILLICpUKRAvIy IEdIdYIdUdHsD SIGNdYzUdSOFT SIGNdOMEGAcKAVYKAcPAYzOKaCYRILLIC KAV",
      "YKAbPAYzOKbxLpDWEbSMrLpDWEbxLpDZWEbSMrLpDZWEbxLpZHWEbSMrLpZHWEbxLpCCHEbSMrLpCCHEbxLpDZZEbS",
      "MrLpDZZEbxLpTEqMIDDu HOOKbSMrLpTEqMIDDu HOOKbxLpTWEbSMrLpTWEbxLpTSWEbSMrLpTSWEbxLpTSSEbSMr",
      "LpTSSEbxLpTCHEbSMrLpTCHEbxLpHWEbSMrLpHWEbxLpSHWEbSMrLpSHWEbxLpDOUBu ObSMrLpDOUBu ObxLpCROS",
      "SED ObSMrLpCROSSED OaMODIFIzpCYRILLIC HsD SIGNdSOFT SIGNaCOMBvvG CYRILLICpEFdIOTIFIED EaBA",
      "MUMpAcKAcUcKUcEEcREEcTAEcOcNYIcIcLAcPAcRIIcRIEEcuEEEcMEEEEcTAAcNDAAcNJAEMcMcSUUcMUcSHIIcSI",
      "cSHEUXcSEUXcKYEEcKETcNUAEcNUcNJUAEcYOQcSHUcYUQcYAcNSHAcKEUXcPEUXcNJEEcNTEEcPUEcWUEcPEEcFEE",
      "cRUcLUcMIcNIcREUXcRAEcKENcNGKWAENcNGGAcNGAcSHOcPUAEcFUcFOMcWAcNAcLIcPIcLOQcKOcMBENcRENcMEN",
      "cMAcTIcKIcMOcMBAAcTETcKPAcTENcNTUUcSAMBAcFAAMAEcKOVUUcKOGHOMbCOMBvvG MsK KOQNDONdTUKWENTIS",
      "bNJAEMLIbFULL STOPbCOLONbCOMMAbSEMICOLONbQUESTION MsK"]⟩,
   ⟨0xA700, [
      "aMODIFIzpCHvESE TONE Yv PvGeYyG PvGeYv SHyGeYyG SHyGeYv QUeYyG QUeYv RUeYyG RUcEXTRA-HIGH ",
      "DOTTED TONE BscHIGH DOTTED TONE BscMID DOTTED TONE BscLOW DOTTED TONE BscEXTRA-LOW DOTTED ",
      "TONE BscEXTRA-HIGH DOTTED uFT-STEM TONE BscHIGH DOTTED uFT-STEM TONE BscMID DOTTED uFT-STE",
      "M TONE BscLOW DOTTED uFT-STEM TONE BscEXTRA-LOW DOTTED uFT-STEM TONE BscEXTRA-HIGH uFT-STE",
      "M TONE BscHIGH uFT-STEM TONE BscMID uFT-STEM TONE BscLOW uFT-STEM TONE BscEXTRA-LOW uFT-ST",
      "EM TONE BscDOT VzTICr BsdSLASHdHORIZONTr BscLOWz Rt CORNz yGucRAISED UP sROWdDOWN sROWdEXC",
      "LAMATION MsKdvVzTED EXCLAMATION MsKcLOW vVzTED EXCLAMATION MsKcSTRESS yD HIGH TONEeLOW TON",
      "EaLATv xLpEGYPTOLOGICr rEFbSMrLpEGYPTOLOGICr rEFbxLpEGYPTOLOGICr AvbSMrLpEGYPTOLOGICr Avbx",
      "LpHENGbSMrLpHENGbxLpTZbSMrLpTZbxLpTRESILLObSMrLpTRESILLObxLpCUATRILLObSMrLpCUATRILLObxLpCU",
      "ATRILLOqCOMMAbSMrLpCUATRILLOqCOMMAbuTTz SMrL xL FeSbxLpAAbSMrLpAAbxLpAObSMrLpAObxLpAUbSMrL",
      "pAUbxLpAVbSMrLpAVbxLpAVqHORIZONTr BsbSMrLpAVqHORIZONTr BsbxLpAYbSMrLpAYbxLpREVzSED CqDOTbS",
      "MrLpREVzSED CqDOTbxLpKqSTROKEbSMrLpKqSTROKEbxLpKqDIAGONr STROKEbSMrLpKqDIAGONr STROKEbxLpK",
      "qSTROKE yD DIAGONr STROKEbSMrLpKqSTROKE yD DIAGONr STROKEbxLpBROKEN LbSMrLpBROKEN LbxLpLqH",
      "IGH STROKEbSMrLpLqHIGH STROKEbxLpOqLONG STROKE OVzLAYbSMrLpOqLONG STROKE OVzLAYbxLpOqLOOPb",
      "SMrLpOqLOOPbxLpOObSMrLpOObxLpPqSTROKE THROUGH DESCENDzbSMrLpPqSTROKE THROUGH DESCENDzbxLpP",
      "qFLOURISHbSMrLpPqFLOURISHbxLpPqSQUIRREL TAILbSMrLpPqSQUIRREL TAILbxLpQqSTROKE THROUGH DESC",
      "ENDzbSMrLpQqSTROKE THROUGH DESCENDzbxLpQqDIAGONr STROKEbSMrLpQqDIAGONr STROKEbxLpR ROTUNDA",
      "bSMrLpR ROTUNDAbxLpRUM ROTUNDAbSMrLpRUM ROTUNDAbxLpVqDIAGONr STROKEbSMrLpVqDIAGONr STROKEb",
      "xLpVYbSMrLpVYbxLpVISIGOTHIC ZbSMrLpVISIGOTHIC ZbxLpTHORNqSTROKEbSMrLpTHORNqSTROKEbxLpTHORN",
      "qSTROKE THROUGH DESCENDzbSMrLpTHORNqSTROKE THROUGH DESCENDzbxLpVENDbSMrLpVENDbxLpETbSMrLpE",
      "TbxLpISbSMrLpISbxLpCONbSMrLpCONaMODIFIzpUSaLATv SMrLpDUMdLUMdMUMdNUMdRUMbuTTz SMrL xL RUMb",
      "SMrLpTUMdUMbxLpvSULs DbSMrLpvSULs DbxLpvSULs FbSMrLpvSULs FbxLpvSULs GdTURNED vSULs GbSMrL",
      "pTURNED vSULs GbxLpTURNED LbSMrLpTURNED LbxLpvSULs RbSMrLpvSULs RbxLpvSULs SbSMrLpvSULs Sb",
      "xLpvSULs TbSMrLpvSULs TaMODIFIzpLOW CIRCUMFuX ACCENTcCOLONcSHORT EQUrS SIGNaLATv xLpSrTILL",
      "ObSMrLpSrTILLObxLpTURNED HbSMrLpLqRETROFuX HOOK yD BELTbuTTz SvOLOGICr DOTbxLpNqDESCENDzbS",
      "MrLpNqDESCENDzbxLpCqBsbSMrLpCqBsfPrATr HOOKdHqPrATr HOOKbxLpBqFLOURISHbSMrLpBqFLOURISHbxLp",
      "FqSTROKEbSMrLpFqSTROKEbxLpVOLAPUK AEbSMrLpVOLAPUK AEbxLpVOLAPUK OEbSMrLpVOLAPUK OEbxLpVOLA",
      "PUK UEbSMrLpVOLAPUK UEbxLpGqOBLIQUE STROKEbSMrLpGqOBLIQUE STROKEbxLpKqOBLIQUE STROKEbSMrLp",
      "KqOBLIQUE STROKEbxLpNqOBLIQUE STROKEbSMrLpNqOBLIQUE STROKEbxLpRqOBLIQUE STROKEbSMrLpRqOBLI",
      "QUE STROKEbxLpSqOBLIQUE STROKEbSMrLpSqOBLIQUE STROKEbxLpHqHOOKdREVzSED OPEN EdSCRIPT GdLqB",
      "ELTdSMrL xL IbuTTz SMrL xL QbxLpTURNED KeTdJqCROSSED-TAILdCHIdBETAbSMrLpBETAbxLpOMEGAbSMrL",
      "pOMEGAbxLpUqSTROKEbSMrLpUqSTROKEbxLpGLOTTr AbSMrLpGLOTTr AbxLpGLOTTr IbSMrLpGLOTTr IbxLpGL",
      "OTTr UbSMrLpGLOTTr UbxLpOLD POLISH ObSMrLpOLD POLISH ObxLpyGLICyA WbSMrLpyGLICyA WbxLpCqPr",
      "ATr HOOKdSqHOOKdZqPrATr HOOKdDqSHORT STROKE OVzLAYbSMrLpDqSHORT STROKE OVzLAYbxLpSqSHORT S",
      "TROKE OVzLAYbSMrLpSqSHORT STROKE OVzLAY.....bxLpCLOSED vSULs GbSMrLpCLOSED vSULs G.dDOUBu ",
      "THORN.eWYNNbxLpMIDDu SCOTS SbSMrLpMIDDu SCOTS SbxLpSIGMOID SbSMrLpSIGMOID S"]⟩,
   ⟨0xA7F2, [
      "aMODIFIzpxL CdFdQaLATv xLpREVzSED HrF HbSMrLpREVzSED HrF HbEPIGRAPHICpSIDEWAYS IaMODIFIzpx",
      "L HqSTROKEcSMrL LIGATURE OEaLATvpSMrL xL TURNED MbEPIGRAPHICpREVzSED FePdvVzTED MdI LONGAd",
      "sCHAIC MaSYLOTI NAGRIpAdIcSIGN DVISVsAcuTTz UdEdOcSIGN HASyTAcuTTz KOdKHOdGOdGHOcSIGN yUSV",
      "sAcuTTz COdCHOdJOdJHOdTTOdTTHOdDDOdDDHOdTOdTHOdDOdDHOdNOdPOdPHOdBOdBHOdMOdROdLOdRROdSOdHOc",
      "VOWEL SIGN AeIeUeEeOOcPOETRY MsK-1dMsK-2dMsK-3dMsK-4cSIGN rTzNATE HASyTA...aNORTH vDIC FRA",
      "CTION ONE QUsTzeHrFdTHREE QUsTzSdONE SIXTEENTHeEtHdTHREE SIXTEENTHScQUsTz MsKcPLACEHOLDz M",
      "sKcRUPEE MsKcQUyTITY MsK"]⟩,
   ⟨0xA840, [
      "aPHAGS-PApKAcKHAcGAcNGAcCAcCHAcJAcNYAcTAcTHAcDAcNAcPAcPHAcBAcMAcTSAcTSHAcDZAcWAcZHAcZAcSMr",
      "L AcYAcRAcLAcSHAcSAcHAcAcIcUcEcOcQAcXAcFAcGGAcEEbSUBJOvEDpWAdYAbuTTz TTAcTTHAcDDAcNNAcrTzN",
      "ATE YAcVOICEuSS SHAcVOICED HAcASPIRATED FAbSUBJOvEDpRAbSUPzFIXEDpRAbuTTz CyDRABvDUbSvGu HE",
      "AD MsKbDOUBu HEAD MsKbMsK SHADcDOUBu SHAD"]⟩,
   ⟨0xA880, [
      "aSAURASHTRA SIGN yUSVsAcVISsGAbuTTz AcAAcIcIIcUcUUcVOCrIC RdRRdLdLLcEcEEcAIcOcOOcAUcKAcKHA",
      "cGAcGHAcNGAcCAcCHAcJAcJHAcNYAcTTAcTTHAcDDAcDDHAcNNAcTAcTHAcDAcDHAcNAcPAcPHAcBAcBHAcMAcYAcR",
      "AcLAcVAcSHAcSSAcSAcHAcLLAbCONSONyT SIGN HAsUbVOWEL SIGN AAdIdIIdUdUUdVOCrIC ReRReLeLLdEdEE",
      "dAIdOdOOdAUbSIGN VIRAMAcCyDRABvDU"]⟩,
   ⟨0xA8CE, ["aSAURASHTRA DyDAbDOUBu DyDAbDIGIT ZzOcONEcTWOcTHREEcFOURcFIVEcSIXcSEVENcEtcNvE"]⟩,
   ⟨0xA8E0, [
      "aCOMBvvG DEVyAGsI DIGIT ZzOdONEdTWOdTHREEdFOURdFIVEdSIXdSEVENdEtdNvEcuTTz AdUdKAdNAdPAdRAd",
      "VIcSIGN AVAGRAHAaDEVyAGsI SIGN SPACvG CyDRABvDUcCyDRABvDU VIRAMAcDOUBu CyDRABvDU VIRAMAcCy",
      "DRABvDU TWOdTHREEdAVAGRAHAcPUSHPIKAbGAP FILuRbCsETbHEADSTROKEbSIGN SIDDHAMbJAv OMbuTTz AYb",
      "VOWEL SIGN AYaKAYAH LI DIGIT ZzOdONEdTWOdTHREEdFOURdFIVEdSIXdSEVENdEtdNvEcuTTz KAdKHAdGAdN",
      "GAdSAdSHAdZAdNYAdTAdHTAdNAdPAdPHAdMAdDAdBAdRAdYAdLAdWAdTHAdHAdVAdCAdAdOEdIdOOcVOWEL UEdEdU",
      "dEEdOcTONE PLOPHUdCrYAePLOPHUcSIGN CWIdSHYAaREJyGpKAcGAcNGAcTAcDAcNAcPAcBAcMAcCAcJAcNYAcSA",
      "cRAcLAcYAcWAcHAcMBAcNGGAcNDAcNYJAcAbVOWEL SIGN IdUdEdAIdOdAUdEUdEAbCONSONyT SIGN NGdNdRdHb",
      "VIRAMA"]⟩,
   ⟨0xA95F, [
      "aREJyG SECTION MsKaHyGUL CHOSEONG TIKEUT-MIEUMcTIKEUT-PIEUPcTIKEUT-SIOScTIKEUT-CIEUCcRIEUL",
      "-KIYEOKcRIEUL-SSyGKIYEOKcRIEUL-TIKEUTcRIEUL-SSyGTIKEUTcRIEUL-MIEUMcRIEUL-PIEUPcRIEUL-SSyGP",
      "IEUPcRIEUL-KAPYEOUNPIEUPcRIEUL-SIOScRIEUL-CIEUCcRIEUL-KHIEUKHcMIEUM-KIYEOKcMIEUM-TIKEUTcMI",
      "EUM-SIOScPIEUP-SIOS-THIEUTHcPIEUP-KHIEUKHcPIEUP-HIEUHcSSyGSIOS-PIEUPcIEUNG-RIEULcIEUNG-HIE",
      "UHcSSyGCIEUC-HIEUHcSSyGTHIEUTHcPHIEUPH-HIEUHcHIEUH-SIOScSSyGYEORvHIEUH...aJAVyESE SIGN PyY",
      "yGGAcCECAKcLAYscWIGNYybuTTz AcI KAWIcIcIIcUcPA CzEKcNGA uuTeRASWADIcEcAIcOcKAdSASAKdMURDAc",
      "GAdMURDAcNGAcCAdMURDAcJAcNYA MURDAcJA MAHAPRyAcNYAcTTAdMAHAPRyAcDDAdMAHAPRyAcNA MURDAcTAdM",
      "URDAcDAdMAHAPRyAcNAcPAdMURDAcBAdMURDAcMAcYAcRAdAGUNGcLAcWAcSA MURDAdMAHAPRyAcSAcHAbSIGN CE",
      "CAK TELUbVOWEL SIGN TsUNGdTOLONGdWULUeMELIKdSUKUeMENDUTdTrvGdDIRGA MUREdPEPETbCONSONyT SIG",
      "N KzETdPENGKrdCAKRAbPyGKONbuFT RzENGGybRt RzENGGybPADA yDAPcMADYAcLUHURcWvDUcPyGKATcLvGSAc",
      "LUNGSIcADEGdADEGcPISEuHbTURNED PADA PISEuH.bPyGRyGKEPbDIGIT ZzOcONEcTWOcTHREEcFOURcFIVEcSI",
      "XcSEVENcEtcNvE....bPADA TIRTA TUMETEScISEN-ISENaMYyMspSHy GHAdCHAdJHAdNNAdBHAbSIGN SHy SAW",
      "bMODIFIzpSHy REDUPLICATIONbuTTz TAI LAvG NYAeFAeGAeGHAeJAeJHAeDDAeDDHAeNNAbTAI LAvG DIGIT ",
      "ZzOeONEeTWOeTHREEeFOUReFIVEeSIXeSEVENeEteNvEbuTTz TAI LAvG LLAeDAeDHAeBAeBHA.aCHAMpAcIcUcE",
      "cAIcOcKAcKHAcGAcGHAcNGUEcNGAcCHAcCHHAcJAcJHAcNHUEcNHAcNHJAcTAcTHAcDAcDHAcNUEcNAcDDAcPAcPPA",
      "cPHAcBAcBHAcMUEcMAcBBAcYAcRAcLAcVAcSSAcSAcHAbVOWEL SIGN AAdIdIIdEIdUdOEdOdAIdAUdUEbCONSONy",
      "T SIGN YAdRAdLAdWA"]⟩,
   ⟨0xAA40, [
      "aCHAMpFvr KdGdNGbCONSONyT SIGN Fvr NGbuTTz Fvr CHdTdNdPdYdRdLdSSbCONSONyT SIGN Fvr MeH..bD",
      "IGIT ZzOcONEcTWOcTHREEcFOURcFIVEcSIXcSEVENcEtcNvE..bPUNCTUATION SPIRrcDyDAcDOUBu DyDAcTRIP",
      "u DyDAaMYyMspKHAMTI GAdCAdCHAdJAdJHAdNYAdTTAdTTHAdDDAdDDHAdDHAdNAdSAdHAdHHAdFAbMODIFIzpKHA",
      "MTI REDUPLICATIONbuTTz KHAMTI XAdZAdRAbLOGOGRAM KHAMTI OAYdQNdHMbSYMBOL AITON EXCLAMATIONd",
      "ONEdTWObuTTz AITON RAbSIGN PAO KsEN TONEcTAI LAvG TONE-2eTONE-5buTTz SHWE PrAUNG CHAeSHAaT",
      "AI VIETpLOW KOdHIGH KOdLOW KHOdHIGH KHOdLOW KHHOdHIGH KHHOdLOW GOdHIGH GOdLOW NGOdHIGH NGO",
      "dLOW COdHIGH COdLOW CHOdHIGH CHOdLOW SOdHIGH SOdLOW NYOdHIGH NYOdLOW DOdHIGH DOdLOW TOdHIG",
      "H TOdLOW THOdHIGH THOdLOW NOdHIGH NOdLOW BOdHIGH BOdLOW POdHIGH POdLOW PHOdHIGH PHOdLOW FO",
      "dHIGH FOdLOW MOdHIGH MOdLOW YOdHIGH YOdLOW ROdHIGH ROdLOW LOdHIGH LOdLOW VOdHIGH VOdLOW HO",
      "dHIGH HOdLOW OdHIGH OcMAI KyGcVOWEL AAdIdUEdUdEdOcMAI KHITcVOWEL IAdUEAdUAdAUEdAYdydAMcTON",
      "E MAI EKeNUENGeTHOeSONG"]⟩,
   ⟨0xAADB, [
      "aTAI VIET SYMBOL KONdNUENGdSAMdHO HOIdKOI KOIaMEETEI MAYEKpEdOdCHAdNYAdTTAdTTHAdDDAdDDHAdN",
      "NAdSHAdSSAcVOWEL SIGN IIeUUeAAIeAUeAAUcCHEIKHycAHyG KHUDAMcyJIcSYLLABu REPETITION MsKcWORD",
      " REPETITION MsKcVOWEL SIGN VISsGAcVIRAMA"]⟩,
   ⟨0xAB01, [
      "aETHIOPIC SYLLABu TTHUcTTHIcTTHAAcTTHEEcTTHEcTTHO..cDDHUcDDHIcDDHAAcDDHEEcDDHEcDDHO..cDZUc",
      "DZIcDZAAcDZEEcDZEcDZO"]⟩,
   ⟨0xAB20, [
      "aETHIOPIC SYLLABu CCHHAcCCHHUcCCHHIcCCHHAAcCCHHEEcCCHHEcCCHHO.cBBAcBBUcBBIcBBAAcBBEEcBBEcB",
      "BO.aLATv SMrLpBsRED rPHAdA REVzSED-SCHWAdBLACKuTTz EdBsRED EdEqFLOURISHduNIS FdSCRIPT GqCR",
      "OSSED-TAILdLqvVzTED LAZY SfDOUBu MIDDu TILDEfMIDDu RvGdMqCROSSED-TAILdNqCROSSED-TAILdENGqC",
      "ROSSED-TAILdBLACKuTTz OfWITH STROKEdOPEN OqSTROKEdvVzTED OEdTURNED OEqSTROKEgHORIZONTr STR",
      "OKEeO OPEN-OgWITH STROKEdSTIRRUP RbuTTz SMrL xL RqRt uGbSMrLpR WITHOUT HyDudDOUBu RdRqCROS",
      "SED-TAILdDOUBu RqCROSSED-TAILdSCRIPT RfWITH RvGdBASELvE ESHdUqSHORT Rt uGeBsqSHORT Rt uGdU",
      "IdTURNED UIdUquFT HOOKdCHIeWITH LOW Rt RvGguFT SzIFdXqLOW Rt RvGfLONG uFT uGiyD LOW Rt RvG",
      "iWITH SzIFdYqSHORT Rt uGaMODIFIz BREVEqvVzTED BREVEbuTTz SMrL HENGdLqvVzTED LAZY SfMIDDu T",
      "ILDEdUquFT HOOKaLATv SMrLpSAKHA YATdIOTIFIED EdOPEN OEdUOdvVzTED rPHAaGREEKpSMrL xL OMEGAa",
      "LATv SMrLpDZ DIGRAPHqRETROFuX HOOKdTS DIGRAPHqRETROFuX HOOKdTURNED RqMIDDu TILDEaMODIFIzpS",
      "MrL TURNED WcuFT TACKcRt TACK....aCHzOKEE SMrLpAdEdIdOdUdVdGAdKAdGEdGIdGOdGUdGVdHAdHEdHIdH",
      "OdHUdHVdLAdudLIdLOdLUdLVdMAdMEdMIdMOdMUdNAdHNAdNAHdNEdNIdNOdNUdNVdQUAdQUEdQUIdQUOdQUUdQUVd",
      "SAdSdSEdSIdSOdSUdSVdDAdTAdDEdTEdDIdTIdDOdDUdDVdDLAdTLAdTudTLIdTLOdTLUdTLVdTSAdTSEdTSIdTSOd",
      "TSUdTSVdWAdWEdWIdWOdWUdWVdYAaMEETEI MAYEKpKOKdSAMdLAIdMITdPAdNAdCHILdTILdKHOUdNGOUdTHOUdWA",
      "IdYyGdHUKdUNdIdPHAMdATIYAdGOKdJHAMdRAIdBAdJILdDILdGHOUdDHOUdBHAMdKOK LONSUMdLAI LONSUMdMIT",
      " LONSUMdPA LONSUMdNA LONSUMdTIL LONSUMdNGOU LONSUMdI LONSUMcVOWEL SIGN ONAPevAPeyAPeYENAPe",
      "SOUNAPeUNAPeCHEvAPeNUNGcCHEIKHEIcLUM IYEKcAPUN IYEK..cDIGIT ZzOdONEdTWOdTHREEdFOURdFIVEdSI",
      "XdSEVENdEtdNvE"]⟩,
   ⟨0xD7B0, [
      "aHyGUL JUNGSEONG O-YEOcO-O-IcYO-AcYO-AEcYO-EOcU-YEOcU-I-IcYU-AEcYU-OcEU-AcEU-EOcEU-EcEU-Oc",
      "I-YA-OcI-YAEcI-YEOcI-YEcI-O-IcI-YOcI-YUcI-IcsAEA-AcsAEA-E....bJONGSEONG NIEUN-RIEULcNIEUN-",
      "CHIEUCHcSSyGTIKEUTcSSyGTIKEUT-PIEUPcTIKEUT-PIEUPcTIKEUT-SIOScTIKEUT-SIOS-KIYEOKcTIKEUT-CIE",
      "UCcTIKEUT-CHIEUCHcTIKEUT-THIEUTHcRIEUL-SSyGKIYEOKcRIEUL-KIYEOK-HIEUHcSSyGRIEUL-KHIEUKHcRIE",
      "UL-MIEUM-HIEUHcRIEUL-PIEUP-TIKEUTcRIEUL-PIEUP-PHIEUPHcRIEUL-YESIEUNGcRIEUL-YEORvHIEUH-HIEU",
      "HcKAPYEOUNRIEULcMIEUM-NIEUNcMIEUM-SSyGNIEUNcSSyGMIEUMcMIEUM-PIEUP-SIOScMIEUM-CIEUCcPIEUP-T",
      "IKEUTcPIEUP-RIEUL-PHIEUPHcPIEUP-MIEUMcSSyGPIEUPcPIEUP-SIOS-TIKEUTcPIEUP-CIEUCcPIEUP-CHIEUC",
      "HcSIOS-MIEUMcSIOS-KAPYEOUNPIEUPcSSyGSIOS-KIYEOKcSSyGSIOS-TIKEUTcSIOS-PySIOScSIOS-CIEUCcSIO",
      "S-CHIEUCHcSIOS-THIEUTHcSIOS-HIEUHcPySIOS-PIEUPcPySIOS-KAPYEOUNPIEUPcYESIEUNG-MIEUMcYESIEUN",
      "G-HIEUHcCIEUC-PIEUPcCIEUC-SSyGPIEUPcSSyGCIEUCcPHIEUPH-SIOScPHIEUPH-THIEUTH"]⟩]

end Upkeep.Text.Names
