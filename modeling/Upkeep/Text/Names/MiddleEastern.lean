import Upkeep.Text.Names.Packed

/-!
Names of characters: the scripts of the Middle East.
-/
namespace Upkeep.Text.Names

def middleEastern : List Run :=
  [⟨0x591, [
      "aHEBREW ACCENT ETNAHTAcSEGOLcSHrSHEuTcZAQEF QATydGADOLcTIPEHAcREVIAcZsQAcPASHTAcYETIVcTEVI",
      "RcGzESHdMUQDAMcGzSHAYIMcQsNEY PsAcTELISHA GEDOLAcPAZzcATNAH HAFUKHcMUNAHcMAHAPAKHcMzKHAdKE",
      "FULAcDsGAcQADMAcTELISHA QETyAcYzAH BEN YOMOcOucILUYcDEHIcZvORbMsK MASORA CIRCubPOvT SHEVAc",
      "HATAF SEGOLdPATAHdQAMATScHIRIQcTSzEcSEGOLcPATAHcQAMATScHOLAMdHASz FOR VAVcQUBUTScDAGESH OR",
      " MAPIQcMETEGbPUNCTUATION MAQAFbPOvT RAFEbPUNCTUATION PASEQbPOvT SHv DOTcSv DOTbPUNCTUATION",
      " SOF PASUQbMsK UPPz DOTcLOWz DOTbPUNCTUATION NUN HAFUKHAbPOvT QAMATS QATy"]⟩,
   ⟨0x5D0, [
      "aHEBREWprEFcBETcGIMELcDrETcHEcVAVcZAYvcHETcTETcYODcFvr KAFcKAFcLAMEDcFvr MEMcMEMcFvr NUNcN",
      "UNcSAMEKHcAYvcFvr PEcPEcFvr TSADIcTSADIcQOFcRESHcSHvcTAV....bYOD TRIyGubLIGATURE YIDDISH D",
      "OUBu VAVdVAV YODdDOUBu YODbPUNCTUATION GzESHcGzSHAYIM"]⟩,
   ⟨0x600, [
      "asABIC NUMBz SIGNbSIGN SyAHbFOOTNOTE MsKzbSIGN SAFHAcSAMVATbNUMBz MsK ABOVEasABIC-vDIC CUB",
      "E ROOTbFOURTH ROOTasABIC RAYasABIC-vDIC Pz MILu SIGNcTEN THOUSyD SIGNaAFGHyI SIGNasABIC CO",
      "MMAbDATE SEPsATORbPOETIC VzSE SIGNbSIGN MISRAcSrLrLAHOU rAYHE WASSrLAMcrAYHE ASSrLAMcRAHMA",
      "TULLAH rAYHEcRADI rLAHOU yHUcTAKHrLUSbSMrL HIGH TAHdLIGATURE rEFqLAMqYEHdZAvcFATHAcDAMMAcK",
      "ASRAbSEMICOLONbuTTz MsKbEND OF TEXT MsKbTRIPu DOT PUNCTUATION MsKbQUESTION MsKbuTTz KASHMI",
      "RI YEHcHAMZAcrEFqMADDA ABOVEeHAMZA ABOVEcWAWqHAMZA ABOVEcrEFqHAMZA BELOWcYEHqHAMZA ABOVEcr",
      "EFcBEHcTEH MsBUTAcTEHcTHEHcJEEMcHAHcKHAHcDrcTHrcREHcZAvcSEENcSHEENcSADcDADcTAHcZAHcAvcGHAv",
      "cKEHEHqTWO DOTS ABOVEeTHREE DOTS BELOWcFsSI YEHqvVzTED VfTWO DOTS ABOVEfTHREE DOTS ABOVEbT",
      "ATWEELbuTTz FEHcQAFcKAFcLAMcMEEMcNOONcHEHcWAWcrEF MAKSURAcYEHbFATHATybDAMMATybKASRATybFATH",
      "AbDAMMAbKASRAbSHADDAbSUKUNbMADDAH ABOVEbHAMZA ABOVEcBELOWbSUBSCRIPT rEFbvVzTED DAMMAbMsK N",
      "OON GHUNNAbZWsAKAYbVOWEL SIGN SMrL V ABOVEdvVzTED SMrL V ABOVEdDOT BELOWbREVzSED DAMMAbFAT",
      "HAqTWO DOTSbWAVY HAMZA BELOWasABIC-vDIC DIGIT ZzOcONEcTWOcTHREEcFOURcFIVEcSIXcSEVENcEtcNvE",
      "asABIC PzCENT SIGNbDECIMr SEPsATORbTHOUSyDS SEPsATORbFIVE POvTED STsbuTTz DOTuSS BEHdQAFcS",
      "UPzSCRIPT rEFcrEF WASLAdWITH WAVY HAMZA ABOVEgBELOWcHIGH HAMZAerEFeWAWcUqHAMZA ABOVEcHIGH ",
      "HAMZA YEHcTTEHcTTEHEHcBEEHcTEHqRvGeTHREE DOTS ABOVE DOWNWsDScPEHcTEHEHcBEHEHcHAHqHAMZA ABO",
      "VEeTWO DOTS VzTICr ABOVEcNYEHcDYEHcHAHqTHREE DOTS ABOVEcTCHEHcTCHEHEHcDDrcDrqRvGeDOT BELOW",
      "gyD SMrL TAHcDAHrcDDAHrcDULcDrqTHREE DOTS ABOVE DOWNWsDSeFOUR DOTS ABOVEcRREHcREHqSMrL VeR",
      "vGeDOT BELOWeSMrL V BELOWeDOT BELOW yD DOT ABOVEeTWO DOTS ABOVEcJEHcREHqFOUR DOTS ABOVEcSE",
      "ENqDOT BELOW yD DOT ABOVEeTHREE DOTS BELOWhyD THREE DOTS ABOVEcSADqTWO DOTS BELOWeTHREE DO",
      "TS ABOVEcTAHqTHREE DOTS ABOVEcAvqTHREE DOTS ABOVEcDOTuSS FEHcFEHqDOT MOVED BELOWfBELOWcVEH",
      "cFEHqTHREE DOTS BELOWcPEHEHcQAFqDOT ABOVEeTHREE DOTS ABOVEcKEHEHcSWASH KAFcKAFqRvGeDOT ABO",
      "VEcNGcKAFqTHREE DOTS BELOWcGAFdWITH RvGcNGOEHcGAFqTWO DOTS BELOWcGUEHcGAFqTHREE DOTS ABOVE",
      "cLAMqSMrL VeDOT ABOVEeTHREE DOTS ABOVEgBELOWcNOONqDOT BELOWdGHUNNAcRNOONcNOONqRvGeTHREE DO",
      "TS ABOVEcHEH DOACHASHMEEcTCHEHqDOT ABOVEcHEHqYEH ABOVEdGOreWITH HAMZA ABOVEcTEH MsBUTA GOr",
      "cWAWqRvGcKIRGHIZ OEcOEcUcYUcKIRGHIZ YUcWAWqTWO DOTS ABOVEcVEcFsSI YEHcYEHqTAILeSMrL VcWAWq",
      "DOT ABOVEcEcYEHqTHREE DOTS BELOWdBsREEeWITH HAMZA ABOVEbFULL STOPbuTTz AEbSMrL HIGH LIGATU",
      "RE SADqLAMqrEF MAKSURAeQAFqLAMqrEF MAKSURAdMEEM vITIrwdLAM rEFdJEEMdTHREE DOTSdSEENbEND OF",
      " AYAHbSTsT OF RUB EL HIZBbSMrL HIGH ROUNDED ZzOdUPRt RECTyGULs ZzOdDOTuSS HEAD OF KHAHdMEE",
      "M ISOLATEDwcLOW SEENcHIGH MADDAcWAWcYEHcHIGH YEHdNOONbPLACE OF SAJDAHbEMPTY CENTRE LOW STO",
      "PdHIGH STOPbROUNDED HIGH STOPqFILuD CENTREbSMrL LOW MEEMbuTTz DrqvVzTED VcREHqvVzTED VaEXT",
      "ENDED sABIC-vDIC DIGIT ZzOdONEdTWOdTHREEdFOURdFIVEdSIXdSEVENdEtdNvEasABICpSHEENqDOT BELOWc",
      "DADqDOT BELOWcGHAvqDOT BELOWbSIGN SvDHI AMPzSyDdPOSTPOSITION MENbuTTz HEHqvVzTED VaSYRIAC ",
      "END OF PsAGRAPHbSUPRrvEs FULL STOPbSUBLvEs FULL STOPbSUPRrvEs COLONbSUBLvEs COLONbHORIZONT",
      "r COLONbCOLON SKEWED uFTdRtbSUPRrvEs COLON SKEWED uFTbSUBLvEs COLON SKEWED RtbCONTRACTIONb",
      "HsKuy OBELUScMETOBELUScASTzISCUS.bABBREVIATION MsKbuTTz rAPHcSUPzSCRIPT rAPHcBETHcGAMrdGsS",
      "HUNIcDrATHcDOTuSS DrATH RISHcHEcWAWcZAvcHETHcTETHdGsSHUNIcYUDHdHEcKAPHcLAMADHcMIMcNUNcSEMK",
      "ATHcFvr SEMKATHcEcPEcREVzSED PEcSADHEcQAPHcRISHcSHvcTAWcPzSIy BHETHdGHAMrdDHrATHbPTHAHA AB",
      "OVEcBELOWcDOTTEDbZQAPHA ABOVEcBELOWcDOTTEDbRBASA ABOVEcBELOWbDOTTED ZLAMA HORIZONTrdyGULsb",
      "HBASA ABOVEcBELOWbHBASA-ESASA DOTTEDbESASA ABOVEcBELOWbRWAHAbFEMvvE DOTbQUSHSHAYAbRUKKAKHA",
      "bTWO VzTICr DOTS ABOVEeBELOWbTHREE DOTS ABOVEdBELOWbOBLIQUE LvE ABOVEdBELOWbMUSICbBsREKH..",
      "buTTz SOGDIy ZHAvdKHAPHdFEasABICpBEHqTHREE DOTS HORIZONTrLY BELOWeDOT BELOW yD THREE DOTS ",
      "ABOVEeTHREE DOTS POvTvG UPWsDS BELOWjyD TWO DOTS ABOVEeTWO DOTS BELOW yD DOT ABOVEevVzTED ",
      "SMrL V BELOWeSMrL VcHAHqTWO DOTS ABOVEeTHREE DOTS POvTvG UPWsDS BELOWcDrqTWO DOTS VzTICrLY",
      " BELOW yD SMrL TAHevVzTED SMrL V BELOWcREHqSTROKEcSEENqFOUR DOTS ABOVEcAvqTWO DOTS ABOVEeT",
      "HREE DOTS POvTvG DOWNWsDS ABOVEeTWO DOTS VzTICrLY ABOVEcFEHqTWO DOTS BELOWeTHREE DOTS POvT",
      "vG UPWsDS BELOWcKEHEHqDOT ABOVEeTHREE DOTS ABOVEgPOvTvG UPWsDS BELOWcMEEMqDOT ABOVEfBELOWc",
      "NOONqTWO DOTS BELOWeSMrL TAHfVcLAMqBscREHqTWO DOTS VzTICrLY ABOVEeHAMZA ABOVEcSEENqTWO DOT",
      "S VzTICrLY ABOVEcHAHqSMrL sABICpTAH BELOWiyD TWO DOTScSEENqSMrL sABICpTAH yD TWO DOTScREHq",
      "SMrL sABICpTAH yD TWO DOTScHAHqSMrL sABICpTAH ABOVEcrEFqEXTENDED sABIC-vDIC DIGIT TWO ABOV",
      "EhTHREE ABOVEcFsSI YEHqEXTENDED sABIC-vDIC DIGIT TWO ABOVEiTHREE ABOVEiFOUR BELOWcWAWqEXTE",
      "NDED sABIC-vDIC DIGIT TWO ABOVEhTHREE ABOVEcYEH BsREEqEXTENDED sABIC-vDIC DIGIT TWO ABOVEi",
      "THREE ABOVEcHAHqEXTENDED sABIC-vDIC DIGIT FOUR BELOWcSEENqEXTENDED sABIC-vDIC DIGIT FOUR A",
      "BOVEevVzTED VcKAFqTWO DOTS ABOVEaTHAyApHAAcSHAVIYyIcNOONUcRAAcBAAcLHAVIYyIcKAAFUcrIFUcVAAV",
      "UcMEEMUcFAAFUcDHArUcTHAAcLAAMUcGAAFUcGNAVIYyIcSEENUcDAVIYyIcZAVIYyIcTAVIYyIcYAAcPAVIYyIcJA",
      "VIYyIcCHAVIYyIcTTAAcHHAAcKHAAcTHArUcZAAcSHEENUcSAADHUcDAADHUcTOcZOcAvUcGHAvUcQAAFUcWAAVUbA",
      "BAFILIbAABAAFILIbIBIFILIbEEBEEFILIbUBUFILIbOOBOOFILIbEBEFILIbEYBEYFILIbOBOFILIbOABOAFILIbS",
      "UKUNbuTTz NAA"]⟩,
   ⟨0x7C0, [
      "aNKO DIGIT ZzOcONEcTWOcTHREEcFOURcFIVEcSIXcSEVENcEtcNvEbuTTz AcEEcIcEcUcOOcOcDAGBASvNAcNcB",
      "AcPAcTAcJAcCHAcDAcRAcRRAcSAcGBAcFAcKAcLAcNA WOLOSOcMAcNYAcNAcHAcWAcYAcNYA WOLOSOcJONA JAdC",
      "HAdRAbCOMBvvG SHORT HIGH TONEdLOW TONEdRISvG TONEcLONG DESCENDvG TONEdHIGH TONEdLOW TONEdR",
      "ISvG TONEcNASrIZATION MsKcDOUBu DOT ABOVEbHIGH TONE APOSTROPHEbLOW TONE APOSTROPHEbSYMBOL ",
      "OO DENNENcGBAKURUNENbCOMMAbEXCLAMATION MsKbLAJyYry..bDyTAYrybDOROME SIGNbTAMy SIGNaSAMsITy",
      "prAFcBITcGAMycDrATcIYcBAAcZENcITcTITcYUTcKAAFcLABATcMIMcNUNcSvGAATcvcFIcTSAADIYcQUFcRISHcS",
      "HycTAAFbMsK vcv-rAFcOCCLUSIONcDAGESHbMODIFIzpEPENTHETIC YUTbMsK EPENTHETIC YUTbVOWEL SIGN ",
      "LONG EdEdOVzLONG AAdLONG AAdAAdOVzLONG AdLONG AdAbMODIFIzpSHORT AbVOWEL SIGN SHORT AdLONG ",
      "UdUbMODIFIzpIbVOWEL SIGN LONG IdIdOdSUKUNbMsK NEQUDAA..bPUNCTUATION NEQUDAAcAFSAAQcyGEDcBA",
      "UcATMAAUcSHIYYArAAbABBREVIATION MsKbPUNCTUATION MELODIC QITSAcZIQAAcQITSAcZAEFcTURUcsKAyUc",
      "SOF MASHFAATcyNAAU.aMyDAICpHrQAcABcAGcADcAHcUSHENNAcAZcITcATTcAKSAcAKcrcAMcycAScvcAPcASZcA",
      "QcscASHcATcDUSHENNAcKADcAvbAFFRICATION MsKbVOCrIZATION MsKbGEMvATION MsK..bPUNCTUATION.aSY",
      "RIACpMrAYrAM NGAdJAdNYAdTTAdNNAdNNNAdBHAdRAdLLAdLLLAdSSA.....asABICprEFqATTACHED FATHAfTOP",
      " Rt FATHAeRt MIDDu STROKEeuFT MIDDu STROKEeATTACHED KASRAfBOTTOM Rt KASRAfROUND DOT ABOVEf",
      "Rt ROUND DOTfuFT ROUND DOTfROUND DOT BELOWeDOT ABOVEeATTACHED TOP Rt FATHA yD DOT ABOVEeRt",
      " MIDDu STROKE yD DOT ABOVEeATTACHED BOTTOM Rt KASRA yD DOT ABOVEfTOP Rt FATHA yD uFT RvGeR",
      "t MIDDu STROKE yD uFT RvGeATTACHED BOTTOM Rt KASRA yD uFT RvGfRt HAMZAfuFT HAMZAbTATWEELqO",
      "VzSTRUCK HAMZAeWAWdTWO DOTS BELOWbuTTz THv YEHbBASELvE ROUND DOTbRAISED ROUND DOTbuTTz NOO",
      "NqvVzTED SMrL VcHAHqvVzTED SMrL V BELOWcTAHqDOT BELOWeTHREE DOTS BELOWcKEHEHqTWO DOTS VzTI",
      "CrLY BELOWbVzTICr TAIL.bPOUND MsK ABOVEbPIASTRE MsK ABOVE"]⟩,
   ⟨0x898, [
      "asABIC SMrL HIGH WORD r-JUZcLOW WORD ISHMAAMeIMArAeTASHEELbMADDA WAAJIBbSUPzSCRIPT rEF MOK",
      "HASSASbDOUBuD MADDAbHrF MADDA OVz MADDAbuTTz BEHqSMrL V BELOWeHAMZA ABOVEcJEEMqTWO DOTS AB",
      "OVEcTAHqTWO DOTS ABOVEcFEHqDOT BELOW yD THREE DOTS ABOVEcQAFqDOT BELOWcLAMqDOUBu BscMEEMqT",
      "HREE DOTS ABOVEcYEHqTWO DOTS BELOW yD HAMZA ABOVEiDOT ABOVEcREHqLOOPcWAWqDOT WITHvcROHvGYA",
      " YEHcLOW rEFcDrqTHREE DOTS BELOWcSADqTHREE DOTS BELOWcGAFqvVzTED STROKEcSTRAt WAWcZAvqvVzT",
      "ED V ABOVEcAvqTHREE DOTS BELOWcKAFqDOT BELOWcQAFqDOT BELOW yD NO DOTS ABOVEcBEHqSMrL MEEM ",
      "ABOVEcPEHqSMrL MEEM ABOVEcTEHqSMrL TEH ABOVEcREHqSMrL NOON ABOVEcYEHqTWO DOTS BELOW yD SMr",
      "L NOON ABOVEcAFRICy FEHdQAFdNOONcPEHqSMrL VcTEHqSMrL VcTTEHqSMrL VcTCHEHqSMrL VcKEHEHqSMrL",
      " VcGHAvqTHREE DOTS ABOVEcAFRICy QAFqTHREE DOTS ABOVEcJEEMqTHREE DOTS ABOVEgBELOWcLAMqSMrL ",
      "sABICpTAH ABOVEcGRAFbSMrL FsSI YEHcHIGH FsSI YEHdYEH BsREEqTWO DOTS BELOWdWORD SAHdZAHbLsG",
      "E ROUND DOT ABOVEeBELOWbSUKUN BELOWbLsGE CIRCu BELOWcROUND DOT vSIDE CIRCu BELOWbSMrL LOW ",
      "WAWcHIGH WORD s-RUBdSADdAvdQAFdNOONqKASRAcLOW NOONqKASRAcHIGH WORD ATH-THrATHAeAS-SAJDAey-",
      "NISFeSAKTAeQIFeWAQFAdFOOTNOTE MsKzdSIGN SAFHAbDISPUTED END OF AYAHbTURNED DAMMA BELOWbCURL",
      "Y FATHAcDAMMAcKASRAcFATHATycDAMMATycKASRATybTONE ONE DOT ABOVEcTWO DOTS ABOVEcLOOP ABOVEcO",
      "NE DOT BELOWcTWO DOTS BELOWcLOOP BELOWbOPEN FATHATycDAMMATycKASRATybSMrL HIGH WAWbFATHAqRv",
      "GdDOT ABOVEbKASRAqDOT BELOWbuFT sROWHEAD ABOVEbRt sROWHEAD ABOVEbuFT sROWHEAD BELOWbRt sRO",
      "WHEAD BELOWbDOUBu Rt sROWHEAD ABOVEfWITH DOTbRt sROWHEAD ABOVEqDOTbDAMMAqDOTbMsK SIDEWAYS ",
      "NOON GHUNNA"]⟩]

end Upkeep.Text.Names
