import Upkeep.Text.Names.Packed

/-!
Names of characters: presentation forms of letters.
-/
namespace Upkeep.Text.Names

def presentation : List Run :=
  [⟨0xFB00, ["aLATv SMrL LIGATURE FFdFIdFLdFFIdFFLdLONG S TdST"]⟩,
   ⟨0xFB13, [
      "asMENIy SMrL LIGATURE MEN NOWeECHevIdVEW NOWdMEN XEH.....aHEBREWpYODqHIRIQbPOvT JUDEO-SPyI",
      "SH VsIKAbLIGATURE YIDDISH YOD YOD PATAHbuTTz rTzNATIVE AYvcWIDE rEFdDrETdHEdKAFdLAMEDdFvr ",
      "MEMdRESHdTAVcrTzNATIVE PLUS SIGNcSHvqSHv DOTeSv DOTeDAGESH yD SHv DOTgSv DOTcrEFqPATAHeQAM",
      "ATSeMAPIQcBETqDAGESHcGIMELqDAGESHcDrETqDAGESHcHEqMAPIQcVAVqDAGESHcZAYvqDAGESH.cTETqDAGESHc",
      "YODqDAGESHcFvr KAFqDAGESHcKAFqDAGESHcLAMEDqDAGESH.cMEMqDAGESH.cNUNqDAGESHcSAMEKHqDAGESH.cF",
      "vr PEqDAGESHcPEqDAGESH.cTSADIqDAGESHcQOFqDAGESHcRESHqDAGESHcSHvqDAGESHcTAVqDAGESHcVAVqHOLA",
      "McBETqRAFEcKAFqRAFEcPEqRAFEbLIGATURE rEF LAMEDasABICprEF WASLA ISOLATEDweFvrwcBEEH ISOLATE",
      "DwdFvrwdvITIrwdMEDIrwcPEH ISOLATEDwdFvrwdvITIrwdMEDIrwcBEHEH ISOLATEDwdFvrwdvITIrwdMEDIrwc",
      "TTEHEH ISOLATEDwdFvrwdvITIrwdMEDIrwcTEHEH ISOLATEDwdFvrwdvITIrwdMEDIrwcTTEH ISOLATEDwdFvrw",
      "dvITIrwdMEDIrwcVEH ISOLATEDwdFvrwdvITIrwdMEDIrwcPEHEH ISOLATEDwdFvrwdvITIrwdMEDIrwcDYEH IS",
      "OLATEDwdFvrwdvITIrwdMEDIrwcNYEH ISOLATEDwdFvrwdvITIrwdMEDIrwcTCHEH ISOLATEDwdFvrwdvITIrwdM",
      "EDIrwcTCHEHEH ISOLATEDwdFvrwdvITIrwdMEDIrwcDDAHr ISOLATEDwdFvrwcDAHr ISOLATEDwdFvrwcDUL IS",
      "OLATEDwdFvrwcDDr ISOLATEDwdFvrwcJEH ISOLATEDwdFvrwcRREH ISOLATEDwdFvrwcKEHEH ISOLATEDwdFvr",
      "wdvITIrwdMEDIrwcGAF ISOLATEDwdFvrwdvITIrwdMEDIrwcGUEH ISOLATEDwdFvrwdvITIrwdMEDIrwcNGOEH I",
      "SOLATEDwdFvrwdvITIrwdMEDIrwcNOON GHUNNA ISOLATEDweFvrwcRNOON ISOLATEDwdFvrwdvITIrwdMEDIrwc",
      "HEHqYEH ABOVE ISOLATEDwgFvrwdGOr ISOLATEDweFvrwevITIrweMEDIrwdDOACHASHMEE ISOLATEDweFvrwev",
      "ITIrweMEDIrwcYEH BsREE ISOLATEDweFvrweWITH HAMZA ABOVE ISOLATEDwhFvrwbSYMBOL DOT ABOVEdBEL",
      "OWcTWO DOTS ABOVEeBELOWcTHREE DOTS ABOVEeBELOWePOvTvG DOWNWsDS ABOVEgBELOWcFOUR DOTS ABOVE",
      "eBELOWcDOUBu VzTICr Bs BELOWcTWO DOTS VzTICrLY ABOVEfBELOWcRvGcSMrL TAH ABOVEeBELOWcWASLA ",
      "ABOVE"]⟩,
   ⟨0xFBD3, [
      "asABICpNG ISOLATEDwdFvrwdvITIrwdMEDIrwcU ISOLATEDwdFvrwcOE ISOLATEDwdFvrwcYU ISOLATEDwdFvr",
      "wcUqHAMZA ABOVE ISOLATEDwcVE ISOLATEDwdFvrwcKIRGHIZ OE ISOLATEDweFvrwdYU ISOLATEDweFvrwcE ",
      "ISOLATEDwdFvrwdvITIrwdMEDIrwcUIGHUR KAZAKH KIRGHIZ rEF MAKSURA vITIrwhMEDIrwbLIGATURE YEHq",
      "HAMZA ABOVEqrEF ISOLATEDwiFvrwhAE ISOLATEDwiFvrwhWAW ISOLATEDwiFvrwhU ISOLATEDwiFvrwhOE IS",
      "OLATEDwiFvrwhYU ISOLATEDwiFvrwhE ISOLATEDwiFvrwivITIrwcUIGHUR KIRGHIZ YEHqHAMZA ABOVEqrEF ",
      "MAKSURA ISOLATEDwlFvrwlvITIrwbuTTz FsSI YEH ISOLATEDweFvrwevITIrweMEDIrwbLIGATURE YEHqHAMZ",
      "A ABOVEqJEEM ISOLATEDwhHAH ISOLATEDwhMEEM ISOLATEDwhrEF MAKSURA ISOLATEDwhYEH ISOLATEDwcBE",
      "HqJEEM ISOLATEDweHAH ISOLATEDweKHAH ISOLATEDweMEEM ISOLATEDwerEF MAKSURA ISOLATEDweYEH ISO",
      "LATEDwcTEHqJEEM ISOLATEDweHAH ISOLATEDweKHAH ISOLATEDweMEEM ISOLATEDwerEF MAKSURA ISOLATED",
      "weYEH ISOLATEDwcTHEHqJEEM ISOLATEDweMEEM ISOLATEDwerEF MAKSURA ISOLATEDweYEH ISOLATEDwcJEE",
      "MqHAH ISOLATEDweMEEM ISOLATEDwcHAHqJEEM ISOLATEDweMEEM ISOLATEDwcKHAHqJEEM ISOLATEDweHAH I",
      "SOLATEDweMEEM ISOLATEDwcSEENqJEEM ISOLATEDweHAH ISOLATEDweKHAH ISOLATEDweMEEM ISOLATEDwcSA",
      "DqHAH ISOLATEDweMEEM ISOLATEDwcDADqJEEM ISOLATEDweHAH ISOLATEDweKHAH ISOLATEDweMEEM ISOLAT",
      "EDwcTAHqHAH ISOLATEDweMEEM ISOLATEDwcZAHqMEEM ISOLATEDwcAvqJEEM ISOLATEDweMEEM ISOLATEDwcG",
      "HAvqJEEM ISOLATEDweMEEM ISOLATEDwcFEHqJEEM ISOLATEDweHAH ISOLATEDweKHAH ISOLATEDweMEEM ISO",
      "LATEDwerEF MAKSURA ISOLATEDweYEH ISOLATEDwcQAFqHAH ISOLATEDweMEEM ISOLATEDwerEF MAKSURA IS",
      "OLATEDweYEH ISOLATEDwcKAFqrEF ISOLATEDweJEEM ISOLATEDweHAH ISOLATEDweKHAH ISOLATEDweLAM IS",
      "OLATEDweMEEM ISOLATEDwerEF MAKSURA ISOLATEDweYEH ISOLATEDwcLAMqJEEM ISOLATEDweHAH ISOLATED",
      "weKHAH ISOLATEDweMEEM ISOLATEDwerEF MAKSURA ISOLATEDweYEH ISOLATEDwcMEEMqJEEM ISOLATEDweHA",
      "H ISOLATEDweKHAH ISOLATEDweMEEM ISOLATEDwerEF MAKSURA ISOLATEDweYEH ISOLATEDwcNOONqJEEM IS",
      "OLATEDweHAH ISOLATEDweKHAH ISOLATEDweMEEM ISOLATEDwerEF MAKSURA ISOLATEDweYEH ISOLATEDwcHE",
      "HqJEEM ISOLATEDweMEEM ISOLATEDwerEF MAKSURA ISOLATEDweYEH ISOLATEDwcYEHqJEEM ISOLATEDweHAH",
      " ISOLATEDweKHAH ISOLATEDweMEEM ISOLATEDwerEF MAKSURA ISOLATEDweYEH ISOLATEDwcTHrqSUPzSCRIP",
      "T rEF ISOLATEDwcREHqSUPzSCRIPT rEF ISOLATEDwcrEF MAKSURAqSUPzSCRIPT rEF ISOLATEDwcSHADDAqD",
      "AMMATy ISOLATEDweKASRATy ISOLATEDweFATHA ISOLATEDweDAMMA ISOLATEDweKASRA ISOLATEDweSUPzSCR",
      "IPT rEF ISOLATEDwcYEHqHAMZA ABOVEqREH FvrwhZAv FvrwhMEEM FvrwhNOON FvrwhrEF MAKSURA FvrwhY",
      "EH FvrwcBEHqREH FvrweZAv FvrweMEEM FvrweNOON FvrwerEF MAKSURA FvrweYEH FvrwcTEHqREH FvrweZ",
      "Av FvrweMEEM FvrweNOON FvrwerEF MAKSURA FvrweYEH FvrwcTHEHqREH FvrweZAv FvrweMEEM FvrweNOO",
      "N FvrwerEF MAKSURA FvrweYEH FvrwcFEHqrEF MAKSURA FvrweYEH FvrwcQAFqrEF MAKSURA FvrweYEH Fv",
      "rwcKAFqrEF FvrweLAM FvrweMEEM FvrwerEF MAKSURA FvrweYEH FvrwcLAMqMEEM FvrwerEF MAKSURA Fvr",
      "weYEH FvrwcMEEMqrEF FvrweMEEM FvrwcNOONqREH FvrweZAv FvrweMEEM FvrweNOON FvrwerEF MAKSURA ",
      "FvrweYEH FvrwcrEF MAKSURAqSUPzSCRIPT rEF FvrwcYEHqREH FvrweZAv FvrweMEEM FvrweNOON FvrwerE",
      "F MAKSURA FvrweYEH FvrweHAMZA ABOVEqJEEM vITIrwhHAH vITIrwhKHAH vITIrwhMEEM vITIrwhHEH vIT",
      "IrwcBEHqJEEM vITIrweHAH vITIrweKHAH vITIrweMEEM vITIrweHEH vITIrwcTEHqJEEM vITIrweHAH vITI",
      "rweKHAH vITIrweMEEM vITIrweHEH vITIrwcTHEHqMEEM vITIrwcJEEMqHAH vITIrweMEEM vITIrwcHAHqJEE",
      "M vITIrweMEEM vITIrwcKHAHqJEEM vITIrweMEEM vITIrwcSEENqJEEM vITIrweHAH vITIrweKHAH vITIrwe",
      "MEEM vITIrwcSADqHAH vITIrweKHAH vITIrweMEEM vITIrwcDADqJEEM vITIrweHAH vITIrweKHAH vITIrwe",
      "MEEM vITIrwcTAHqHAH vITIrwcZAHqMEEM vITIrwcAvqJEEM vITIrweMEEM vITIrwcGHAvqJEEM vITIrweMEE",
      "M vITIrwcFEHqJEEM vITIrweHAH vITIrweKHAH vITIrweMEEM vITIrwcQAFqHAH vITIrweMEEM vITIrwcKAF",
      "qJEEM vITIrweHAH vITIrweKHAH vITIrweLAM vITIrweMEEM vITIrwcLAMqJEEM vITIrweHAH vITIrweKHAH",
      " vITIrweMEEM vITIrweHEH vITIrwcMEEMqJEEM vITIrweHAH vITIrweKHAH vITIrweMEEM vITIrwcNOONqJE",
      "EM vITIrweHAH vITIrweKHAH vITIrweMEEM vITIrweHEH vITIrwcHEHqJEEM vITIrweMEEM vITIrweSUPzSC",
      "RIPT rEF vITIrwcYEHqJEEM vITIrweHAH vITIrweKHAH vITIrweMEEM vITIrweHEH vITIrweHAMZA ABOVEq",
      "MEEM MEDIrwhHEH MEDIrwcBEHqMEEM MEDIrweHEH MEDIrwcTEHqMEEM MEDIrweHEH MEDIrwcTHEHqMEEM MED",
      "IrweHEH MEDIrwcSEENqMEEM MEDIrweHEH MEDIrwcSHEENqMEEM MEDIrweHEH MEDIrwcKAFqLAM MEDIrweMEE",
      "M MEDIrwcLAMqMEEM MEDIrwcNOONqMEEM MEDIrweHEH MEDIrwcYEHqMEEM MEDIrweHEH MEDIrwcSHADDAqFAT",
      "HA MEDIrweDAMMA MEDIrweKASRA MEDIrwcTAHqrEF MAKSURA ISOLATEDweYEH ISOLATEDwcAvqrEF MAKSURA",
      " ISOLATEDweYEH ISOLATEDwcGHAvqrEF MAKSURA ISOLATEDweYEH ISOLATEDwcSEENqrEF MAKSURA ISOLATE",
      "DweYEH ISOLATEDwcSHEENqrEF MAKSURA ISOLATEDweYEH ISOLATEDwcHAHqrEF MAKSURA ISOLATEDweYEH I",
      "SOLATEDwcJEEMqrEF MAKSURA ISOLATEDweYEH ISOLATEDwcKHAHqrEF MAKSURA ISOLATEDweYEH ISOLATEDw",
      "cSADqrEF MAKSURA ISOLATEDweYEH ISOLATEDwcDADqrEF MAKSURA ISOLATEDweYEH ISOLATEDwcSHEENqJEE",
      "M ISOLATEDweHAH ISOLATEDweKHAH ISOLATEDweMEEM ISOLATEDweREH ISOLATEDwcSEENqREH ISOLATEDwcS",
      "ADqREH ISOLATEDwcDADqREH ISOLATEDwcTAHqrEF MAKSURA FvrweYEH FvrwcAvqrEF MAKSURA FvrweYEH F",
      "vrwcGHAvqrEF MAKSURA FvrweYEH FvrwcSEENqrEF MAKSURA FvrweYEH FvrwcSHEENqrEF MAKSURA FvrweY",
      "EH FvrwcHAHqrEF MAKSURA FvrweYEH FvrwcJEEMqrEF MAKSURA FvrweYEH FvrwcKHAHqrEF MAKSURA Fvrw",
      "eYEH FvrwcSADqrEF MAKSURA FvrweYEH FvrwcDADqrEF MAKSURA FvrweYEH FvrwcSHEENqJEEM FvrweHAH ",
      "FvrweKHAH FvrweMEEM FvrweREH FvrwcSEENqREH FvrwcSADqREH FvrwcDADqREH FvrwcSHEENqJEEM vITIr",
      "weHAH vITIrweKHAH vITIrweMEEM vITIrwcSEENqHEH vITIrwcSHEENqHEH vITIrwcTAHqMEEM vITIrwcSEEN",
      "qJEEM MEDIrweHAH MEDIrweKHAH MEDIrwcSHEENqJEEM MEDIrweHAH MEDIrweKHAH MEDIrwcTAHqMEEM MEDI",
      "rwcZAHqMEEM MEDIrwcrEFqFATHATy FvrwfISOLATEDwaORNATE uFT PsENTHESISbRt PsENTHESISasABIC LI",
      "GATURE RAHIMAHU rLAAHcRADI rLAAHU yHeyHAAeyHUMeyHUMAAeyHUNNAcSrLrLAAHU rAYHI WA-ArIHcrAYHI",
      " AS-SrAAMcrAYHIM AS-SrAAMcrAYHIMAA AS-SrAAMcrAYHI AS-SrAATU WAS-SrAAMcQUDDISA SIRRAHcSrLrL",
      "AHU rAYHI WAArIHEE WA-SrLAMcrAYHAA AS-SrAAMcTABAsAKA WA-TAArAAcRAHIMAHUM rLAAHcTEHqJEEMqME",
      "EM vITIrweHAHqJEEM FvrwhvITIrwgMEEM vITIrweKHAHqMEEM vITIrweMEEMqJEEM vITIrwgHAH vITIrwgKH",
      "AH vITIrwcJEEMqMEEMqHAH FvrwhvITIrwcHAHqMEEMqYEH FvrwgrEF MAKSURA FvrwcSEENqHAHqJEEM vITIr",
      "weJEEMqHAH vITIrwgrEF MAKSURA FvrweMEEMqHAH FvrwhvITIrwgJEEM vITIrwgMEEM FvrwhvITIrwcSADqH",
      "AHqHAH FvrwhvITIrweMEEMqMEEM FvrwcSHEENqHAHqMEEM FvrwhvITIrweJEEMqYEH FvrweMEEMqKHAH Fvrwh",
      "vITIrwgMEEM FvrwhvITIrwcDADqHAHqrEF MAKSURA FvrweKHAHqMEEM FvrwhvITIrwcTAHqMEEMqHAH Fvrwhv",
      "ITIrwgMEEM vITIrwgYEH FvrwcAvqJEEMqMEEM FvrweMEEMqMEEM FvrwhvITIrwgrEF MAKSURA FvrwcGHAvqM",
      "EEMqMEEM FvrwgYEH FvrwgrEF MAKSURA FvrwcFEHqKHAHqMEEM FvrwhvITIrwcQAFqMEEMqHAH FvrwgMEEM F",
      "vrwcLAMqHAHqMEEM FvrwgYEH FvrwgrEF MAKSURA FvrweJEEMqJEEM vITIrwhFvrweKHAHqMEEM FvrwhvITIr",
      "weMEEMqHAH FvrwhvITIrwcMEEMqHAHqJEEM vITIrwgMEEM vITIrwgYEH FvrweJEEMqHAH vITIrwgMEEM vITI",
      "rweKHAHqJEEM vITIrwgMEEM vITIrw..eJEEMqKHAH vITIrwcHEHqMEEMqJEEM vITIrwgMEEM vITIrwcNOONqH",
      "AHqMEEM vITIrwgrEF MAKSURA FvrweJEEMqMEEM FvrwhvITIrwgrEF MAKSURA FvrweMEEMqYEH FvrwgrEF M",
      "AKSURA FvrwcYEHqMEEMqMEEM FvrwhvITIrwcBEHqKHAHqYEH FvrwcTEHqJEEMqYEH FvrwgrEF MAKSURA Fvrw",
      "eKHAHqYEH FvrwgrEF MAKSURA FvrweMEEMqYEH FvrwgrEF MAKSURA FvrwcJEEMqMEEMqYEH FvrweHAHqrEF ",
      "MAKSURA FvrweMEEMqrEF MAKSURA FvrwcSEENqKHAHqrEF MAKSURA FvrwcSADqHAHqYEH FvrwcSHEENqHAHqY",
      "EH FvrwcDADqHAHqYEH FvrwcLAMqJEEMqYEH FvrweMEEMqYEH FvrwcYEHqHAHqYEH FvrweJEEMqYEH FvrweME",
      "EMqYEH FvrwcMEEMqMEEMqYEH FvrwcQAFqMEEMqYEH FvrwcNOONqHAHqYEH FvrwcQAFqMEEMqHAH vITIrwcLAM",
      "qHAHqMEEM vITIrwcAvqMEEMqYEH FvrwcKAFqMEEMqYEH FvrwcNOONqJEEMqHAH vITIrwcMEEMqKHAHqYEH Fvr",
      "wcLAMqJEEMqMEEM vITIrwcKAFqMEEMqMEEM FvrwcLAMqJEEMqMEEM FvrwcNOONqJEEMqHAH FvrwcJEEMqHAHqY",
      "EH FvrwcHAHqJEEMqYEH FvrwcMEEMqJEEMqYEH FvrwcFEHqMEEMqYEH FvrwcBEHqHAHqYEH FvrwcKAFqMEEMqM",
      "EEM vITIrwcAvqJEEMqMEEM vITIrwcSADqMEEMqMEEM vITIrwcSEENqKHAHqYEH FvrwcNOONqJEEMqYEH Fvrw"]⟩,
   ⟨0xFDCF, ["asABIC LIGATURE SrAAMUHU rAYNAA"]⟩,
   ⟨0xFDF0, [
      "asABIC LIGATURE SrLA USED AS KORyIC STOP SIGN ISOLATEDwcQrA USED AS KORyIC STOP SIGN ISOLA",
      "TEDwcrLAH ISOLATEDwcAKBs ISOLATEDwcMOHAMMAD ISOLATEDwcSrAM ISOLATEDwcRASOUL ISOLATEDwcrAYH",
      "E ISOLATEDwcWASrLAM ISOLATEDwcSrLA ISOLATEDwcSrLrLAHOU rAYHE WASrLAMcJrLAJrrOUHOUaRIr SIGN",
      "asABIC LIGATURE BISMILLAH s-RAHMy s-RAHEEMcSUBHAyAHU WA TAArAAcAZZA WA JrLaVsIATION SEuCTO",
      "R-1bSEuCTOR-2bSEuCTOR-3bSEuCTOR-4bSEuCTOR-5bSEuCTOR-6bSEuCTOR-7bSEuCTOR-8bSEuCTOR-9bSEuCTO",
      "R-10bSEuCTOR-11bSEuCTOR-12bSEuCTOR-13bSEuCTOR-14bSEuCTOR-15bSEuCTOR-16aPRESENTATIONw FOR V",
      "zTICr COMMAeIDEOGRAPHIC COMMAfFULL STOPeCOLONeSEMICOLONeEXCLAMATION MsKeQUESTION MsKeuFT W",
      "HITE uNTICULs BRACKETeRt WHITE uNTICULs BRAKCETeHORIZONTr ELLIPSIS"]⟩,
   ⟨0xFE20, [
      "aCOMBvvG LIGATURE uFT HrFcRt HrFbDOUBu TILDE uFT HrFdRt HrFbMACRON uFT HrFcRt HrFbCONJOvvG",
      " MACRONbLIGATURE uFT HrF BELOWcRt HrF BELOWbTILDE uFT HrF BELOWcRt HrF BELOWbMACRON uFT Hr",
      "F BELOWcRt HrF BELOWbCONJOvvG MACRON BELOWbCYRILLIC TITLO uFT HrFdRt HrFaPRESENTATIONw FOR",
      " VzTICr TWO DOT uADzeEM DASHeEN DASHeLOW LvEeWAVY LOW LvEeuFT PsENTHESISeRt PsENTHESISeuFT",
      " CURLY BRACKETeRt CURLY BRACKETeuFT TORTOISE SHELL BRACKETeRt TORTOISE SHELL BRACKETeuFT B",
      "LACK uNTICULs BRACKETeRt BLACK uNTICULs BRACKETeuFT DOUBu yGu BRACKETeRt DOUBu yGu BRACKET",
      "euFT yGu BRACKETeRt yGu BRACKETeuFT CORNz BRACKETeRt CORNz BRACKETeuFT WHITE CORNz BRACKET",
      "eRt WHITE CORNz BRACKETaSESAME DOTaWHITE SESAME DOTaPRESENTATIONw FOR VzTICr uFT SQUsE BRA",
      "CKETeRt SQUsE BRACKETaDASHED OVzLvEaCENTRELvE OVzLvEaWAVY OVzLvEaDOUBu WAVY OVzLvEaDASHED ",
      "LOW LvEaCENTRELvE LOW LvEaWAVY LOW LvEaSMrL COMMAbIDEOGRAPHIC COMMAbFULL STOP.bSEMICOLONbC",
      "OLONbQUESTION MsKbEXCLAMATION MsKbEM DASHbuFT PsENTHESISbRt PsENTHESISbuFT CURLY BRACKETbR",
      "t CURLY BRACKETbuFT TORTOISE SHELL BRACKETbRt TORTOISE SHELL BRACKETbNUMBz SIGNbAMPzSyDbAS",
      "TzISKbPLUS SIGNbHYPHEN-MvUSbuSS-THy SIGNbGREATz-THy SIGNbEQUrS SIGN.bREVzSE SOLIDUSbDOLLs ",
      "SIGNbPzCENT SIGNbCOMMzCIr AT....asABIC FATHATy ISOLATEDwbTATWEELqFATHATy ABOVEbDAMMATy ISO",
      "LATEDwbTAIL FRAGMENTbKASRATy ISOLATEDw.bFATHA ISOLATEDwcMEDIrwbDAMMA ISOLATEDwcMEDIrwbKASR",
      "A ISOLATEDwcMEDIrwbSHADDA ISOLATEDwcMEDIrwbSUKUN ISOLATEDwcMEDIrwbuTTz HAMZA ISOLATEDwcrEF",
      "qMADDA ABOVE ISOLATEDwgFvrweHAMZA ABOVE ISOLATEDwgFvrwcWAWqHAMZA ABOVE ISOLATEDwgFvrwcrEFq",
      "HAMZA BELOW ISOLATEDwgFvrwcYEHqHAMZA ABOVE ISOLATEDwgFvrwgvITIrwgMEDIrwcrEF ISOLATEDwdFvrw",
      "cBEH ISOLATEDwdFvrwdvITIrwdMEDIrwcTEH MsBUTA ISOLATEDweFvrwdISOLATEDwdFvrwdvITIrwdMEDIrwcT",
      "HEH ISOLATEDwdFvrwdvITIrwdMEDIrwcJEEM ISOLATEDwdFvrwdvITIrwdMEDIrwcHAH ISOLATEDwdFvrwdvITI",
      "rwdMEDIrwcKHAH ISOLATEDwdFvrwdvITIrwdMEDIrwcDr ISOLATEDwdFvrwcTHr ISOLATEDwdFvrwcREH ISOLA",
      "TEDwdFvrwcZAv ISOLATEDwdFvrwcSEEN ISOLATEDwdFvrwdvITIrwdMEDIrwcSHEEN ISOLATEDwdFvrwdvITIrw",
      "dMEDIrwcSAD ISOLATEDwdFvrwdvITIrwdMEDIrwcDAD ISOLATEDwdFvrwdvITIrwdMEDIrwcTAH ISOLATEDwdFv",
      "rwdvITIrwdMEDIrwcZAH ISOLATEDwdFvrwdvITIrwdMEDIrwcAv ISOLATEDwdFvrwdvITIrwdMEDIrwcGHAv ISO",
      "LATEDwdFvrwdvITIrwdMEDIrwcFEH ISOLATEDwdFvrwdvITIrwdMEDIrwcQAF ISOLATEDwdFvrwdvITIrwdMEDIr",
      "wcKAF ISOLATEDwdFvrwdvITIrwdMEDIrwcLAM ISOLATEDwdFvrwdvITIrwdMEDIrwcMEEM ISOLATEDwdFvrwdvI",
      "TIrwdMEDIrwcNOON ISOLATEDwdFvrwdvITIrwdMEDIrwcHEH ISOLATEDwdFvrwdvITIrwdMEDIrwcWAW ISOLATE",
      "DwdFvrwcrEF MAKSURA ISOLATEDweFvrwcYEH ISOLATEDwdFvrwdvITIrwdMEDIrwbLIGATURE LAMqrEFqMADDA",
      " ABOVE ISOLATEDwiFvrwgHAMZA ABOVE ISOLATEDwiFvrwhBELOW ISOLATEDwiFvrwfISOLATEDwfFvrw..aZzO",
      " WIDTH NO-BREAK SPACE.aFULLWIDTH EXCLAMATION MsKbQUOTATION MsKbNUMBz SIGNbDOLLs SIGNbPzCEN",
      "T SIGNbAMPzSyDbAPOSTROPHEbuFT PsENTHESISbRt PsENTHESISbASTzISKbPLUS SIGNbCOMMAbHYPHEN-MvUS",
      "bFULL STOPbSOLIDUSbDIGIT ZzOcONEcTWOcTHREEcFOURcFIVEcSIXcSEVENcEtcNvEbCOLONbSEMICOLONbuSS-",
      "THy SIGNbEQUrS SIGNbGREATz-THy SIGNbQUESTION MsKbCOMMzCIr ATbLATv xLpAeBeCeDeEeFeGeHeIeJeK",
      "eLeMeNeOePeQeReSeTeUeVeWeXeYeZbuFT SQUsE BRACKETbREVzSE SOLIDUSbRt SQUsE BRACKETbCIRCUMFuX",
      " ACCENTbLOW LvEbGRAVE ACCENTbLATv SMrLpAeBeCeDeEeFeGeHeIeJeKeLeMeNeOePeQeReSeTeUeVeWeXeYeZ",
      "buFT CURLY BRACKETbVzTICr LvEbRt CURLY BRACKETbTILDEbuFT WHITE PsENTHESISbRt WHITE PsENTHE",
      "SISaHrFWIDTH IDEOGRAPHIC FULL STOPbuFT CORNz BRACKETbRt CORNz BRACKETbIDEOGRAPHIC COMMAbKA",
      "TAKyA MIDDu DOTcuTTz WOdSMrL AeIeUeEeOeYAeYUeYOeTUbKATAKyA-HIRAGyA PROLONGED SOUND MsKbKAT",
      "AKyApAdIdUdEdOdKAdKIdKUdKEdKOdSAdSIdSUdSEdSOdTAdTIdTUdTEdTOdNAdNIdNUdNEdNOdHAdHIdHUdHEdHOd",
      "MAdMIdMUdMEdMOdYAdYUdYOdRAdRIdRUdREdROdWAdNcVOICED SOUND MsKcSEMI-VOICED SOUND MsKbHyGUL F",
      "ILuRcuTTz KIYEOKdSSyGKIYEOKdKIYEOK-SIOSdNIEUNdNIEUN-CIEUCdNIEUN-HIEUHdTIKEUTdSSyGTIKEUTdRI",
      "EULdRIEUL-KIYEOKdRIEUL-MIEUMdRIEUL-PIEUPdRIEUL-SIOSdRIEUL-THIEUTHdRIEUL-PHIEUPHdRIEUL-HIEU",
      "HdMIEUMdPIEUPdSSyGPIEUPdPIEUP-SIOSdSIOSdSSyGSIOSdIEUNGdCIEUCdSSyGCIEUCdCHIEUCHdKHIEUKHdTHI",
      "EUTHdPHIEUPHdHIEUH...dAdAEdYAdYAEdEOdE..dYEOdYEdOdWAdWAEdOE..dYOdUdWEOdWEdWIdYU..dEUdYIdI.",
      "..aFULLWIDTH CENT SIGNbPOUND SIGNbNOT SIGNbMACRONbBROKEN BsbYEN SIGNbWON SIGN.aHrFWIDTHwS ",
      "Lt VzTICrbuFTWsDS sROWbUPWsDS sROWbRtWsDS sROWbDOWNWsDS sROWbBLACK SQUsEbWHITE CIRCu"]⟩,
   ⟨0xFFF9, [
      "avTzLvEs yNOTATION yCHORcSEPsATORcTzMvATORaOBJECT REPLACEMENT CHsACTzaREPLACEMENT CHsACTz"]⟩]

end Upkeep.Text.Names
