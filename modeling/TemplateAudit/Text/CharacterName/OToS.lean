namespace TemplateAudit

namespace CharacterName

/-- Names of characters that start with one of the letters from O to S. Small letters tell how many
    characters to take from the end of the name before. -/
def namesOToS : List String :=
  ["aOBJECT REPLACEMENT CHARACTERzbLIQUE ANGLE OPENING DOWNeUPqHYPHENmSERVER EYE SYMBOLsCR AMOUNT ",
   "OF CHECKpBELT BUCKLEkOW TIEgRANCH BANK IDENTIFICATIONzbCHAIReUSTOMER ACCOUNT NUMBERxDASHdOUBLE",
   " BACKSLASHqFORKeHOOKeINVERTED FORKpTAGONAL SIGNlOPUSgDENdFFICE BUILDINGoGHAM FEATHER MARKmLETT",
   "ER AILMeBEITHfCEIRTeOLLeDAIReEABHADHfDHADHfMHANCHOLLlFEARNfGORTeIFINdODHADHhLUISeMUINeNGEADALg",
   "IONeONNcRcPEITHfRUISeSAILdTRAIFgTINNEfUATHdILLEANNhRjREVERSED FEATHER MARKvSPACE MARKoONEKfHM ",
   "SIGNhIL DRUMhK HAND SIGNlL CHIKI AHADeDIGIT EIGHTfFIVEdOUReNINEeONEdSEVENeIXdTHREEeWOdZEROkGAA",
   "HLAA TTUDDAAGqLETTER AAJbKbMbWcGbLbNGcTcEDDcNbPbRRdIHbNYcRbScLAaAcEbIbObUcOBbHbTTcVcUCbDbNNcYj",
   "MU TTUDDAGi-GAAHLAA TTUDDAAGtPHAARKAAhUNCTUATION DOUBLE MUCAADnMUCAADsRELAAmD CHINESE HOOK MAR",
   "KjITERATION MARKwHUNGARIAN CAPITAL LETTER AaAbKbMBcNDdCLOSE EhEaBbCaHbScDbEbFbGaYcHbJbKbLaYcMa",
   "PcNaCbTa-SHAPED SIGNnYcPbRbSaZcTaYcVbZaSdIaIcNIKOLSBURG OEcUEnOaEEcOcRUDIMENTA OEcUEmSHORT ERi",
   "UaNKcSbUrNUMBER FIFTYdVEeONEa HUNDREDhTHOUSANDmTENkSMALL LETTER AaAbKbMBcNDdCLOSE EhEaBbCaHbSc",
   "DbEbFbGaYcHbJbKbLaYcMaPcNaCbTa-SHAPED SIGNnYcPbRbSaZcTaYcVbZaSdIaIcNIKOLSBURG OEcUEnOaEEcOcRUD",
   "IMENTA OEcUEmSHORT ERiUaNKcSbUzITALIC LETTER AbBEcCHEdDEcEaFbKScLbMbNbRaScSaHbSdHEcIaIcKAbEbHE",
   "cUcNORTHERN TSEmObPEbHEdSHEcOUTHERN TSEmTEbHEdUaUcVEcYEcZEjNUMERAL FIFTYdVEeONEdTENsKEYdNORTH ",
   "ARABIAN LETTER AINcLEFeBEHdDADbLdES-1b2b3eFEHdGEEMdHAINfHAHcEHdKAFcHAHeLAMdMEEMeNOONeQAFdREHdS",
   "ADdTAHcEHcHALcEHeWAWdYEHdZAHbINlNUMBER ONEdTENcWENTYzcPERMIC LETTER ANcBURdCHERYfDOIcZHOIdITAf",
   "EaFcGAIdHAcIaAbEcKOKEeLEIdMENOEfNENOEfOaOcPEEIeREIdSHCHOOIfOOIeIIdTAIcSIUeUbVERcOOIeYAaTcERaIb",
   "UdRYcUcZATAdHOIpSIAN NUMBER HUNDREDhONEdTENcWENTYeOkSIGN AaURAMAZDAAa-2cHAmBAaGAdUUMISHhCAcDAa",
   "HYAAUSHa-2kIbUcFAcGAbUcHAcIbJAbIcKAbUcLAcMAbIbUcNAbUcPAcRAbUcSAbHAcSAdTAbHAcUcUbVAbIcXAbSHAAYA",
   "THIYAmYAcZAhWORD DIVIDERqONAL COMPUTERrSOGDIAN FRACTION ONE HALFrLETTER ALEPHdTERNATE AYINnYIN",
   "eBETHeFINAL ALEPHfBETHeHEcNUNa WITH VERTICAL TAILwSADHEa WITH VERTICAL TAILyTAWa WITH VERTICAL",
   " TAILzdGIMELfHEaTHeKAPHeLAMEDHgMEMdNUNdPEcRESH-AYIN-DALETHqSADHEdMEKHfHINeTAWdWAWdYODHeZAYINlI",
   "GATURE AYIN-DALETHuNUMBER FIVEdOUReONEa HUNDREDlTENcHIRTYeREEeWENTYeOqUTH ARABIAN LETTER ALEFd",
   "YNdBETHeDALETHfHADHEdLETHhFEcGHAYNeIMELfHEaTHeKAPHdHETHfLAMEDHgMEMdNUNdQOPHeRESHeSADHEdMEKHeTc",
   "HINeTAWcETHdHAWcETHfWAWdYODHeZAYNlNUMBER FIFTYfONEhERIC INDICATORzgTURKIC LETTER ORKHON AaBbDb",
   "EBbDbGbKbLbNbRbSbTbYcGbLbNbQbRbSaHcTbYcBASHeECbLTcMbNCbGbTbYcPbSHcZcIaCbQcOaEaKcPbQbTjYENISEI ",
   "AaBbDbEaBbGbKbNaGcTbYcGbLbNGcQbRbSHcTbYcEaCbNCbTbYcSHcZcIaQcOEaKcQyUYGHUR COMBINING DOT ABOVEf",
   "BELOWjTWO DOTS ABOVEfBELOWyLETTER ALEPHfBETHeFINAL HETHkGIMEL-HETHkKAPHeLAMEDHfESHeMEMdNUNdPEc",
   "RESHeSADHEdMEKHfHINeTAWdWAWdYODHeZAYINmPUNCTUATION BARdFOUR DOTSjTWO BARSeDOTSzdER ADULTfMANdW",
   "OMANjIVEeM SYMBOLiN WITH EXCLAMATION MARK WITH LEFT RIGHT ARROW ABOVEzzCOMING AUTOMOBILEkBUSdF",
   "IRE ENGINElPOLICE CARkTAXIlE BUTTON MOUSEmDOT LEADERgOVER TWO DOTS PUNCTUATIONzf-PIECE SWIMSUI",
   "TqIONePEN BOOKcXdCENTRE ASTERISKiBLACK STARkCROSSfTEARDROP-SPOKED ASTERISKzgFILE FOLDERkOLDERg",
   "HANDS SIGNkLOCKeMAILBOX WITH LOWERED FLAGmRAISED FLAGySUBSETePERSETj-CIRCUIT-OUTPUT H-TYPE SYM",
   "BOLnL-TYPE SYMBOLzdOUTLINED RIGHTWARDS ARROWzcRATING SYSTEM COMMANDwHIUCHUShPOSITIONiTICAL DIS",
   "Ca ICONnON KEYjR WITH DOT INSIDEqANGE BOOKeHEARThUTANhIGINAL OFiYA AI LENGTH MARKnU LENGTH MAR",
   "KoDIGIT EIGHTfFIVEdOUReNINEeONEdSEVENeIXdTHREEeWOdZEROkFRACTION ONE EIGHTHgHALFeQUARTERhSIXTEE",
   "NTHnTHREE QUARTERSiSIXTEENTHSzISSHARgLETTER AaAbIbUcBAbHAdCAbHAdDAbDAbHAdHAdEbGAbHAdHAcIaIcJAb",
   "HAdKAbHAdLAbLAdMAcNAbGAcNAcYAdObPAbHAdRAbHAcRAdSAbHAcSAdTAbHAcTAbHAeUaUcVAbOCALIC LaLcRaRkWAcY",
   "AbYAkSIGN ANUSVARAhVAGRAHAiCANDRABINDUlNUKTAfOVERLINEiVIRAMAeSARGAmVOWEL SIGN AAbIbUcEbIaIcObU",
   "aUcVOCALIC LaLcRaRzNATE LEFT PARENTHESISqRIGHT PARENTHESISwTHODOX CROSSnSAGE CAPITAL LETTER Aa",
   "HbIaNdBRAdCHAdDHAdEaHCHAdKAcPAcTAbSAeINdGHAdHAbYAdIbKAbHAcYAdLAcMAcNAcOaINdPAcSAbHAdTAbSAbHAeU",
   "bWAcZAbHAsSMALL LETTER AaHbIaNdBRAdCHAdDHAdEaHCHAdKAcPAcTAbSAeINdGHAdHAbYAdIbKAbHAcYAdLAcMAcNA",
   "cOaINdPAcSAbHAdTAbSAbHAeUbWAcZAbHAuCbMANYA DIGIT EIGHTfFIVEdOUReNINEeONEdSEVENeIXdTHREEeWOdZER",
   "OkLETTER AaAbLEFeBAcCAYNeDEELdHAdEaEcFAcGAcHAcIbJAcKAAFdHAdLAANeMIINeNUUNeOaOcQAAFeRAcSAbHIINf",
   "TAcUbWAWdXAcYAqTTERcOMAN SIYAQ ALTERNATE NUMBER EIGHTfFIVEdOURa HUNDREDmNINEeSEVENeIXa HUNDRED",
   "lTENa THOUSANDlHREEeWOa THOUSANDzeFRACTION ONE HALFeSIXTHsMARRATANiNUMBER EIGHTa HUNDREDhTHOUS",
   "ANDjYa THOUSANDpFIFTYa THOUSANDmVEa HUNDREDhTHOUSANDmORTYa THOUSANDmURa HUNDREDhTHOUSANDnNINEa",
   " HUNDREDhTHOUSANDjTYa THOUSANDpONEa HUNDREDhTHOUSANDmSEVENa HUNDREDhTHOUSANDjTYa THOUSANDpIXa ",
   "HUNDREDhTHOUSANDjTYa THOUSANDoTENa THOUSANDlHIRTYa THOUSANDnREEa HUNDREDhTHOUSANDnWENTYa THOUS",
   "ANDnOa HUNDREDhTHOUSANDzhUNCE SIGNiTBOX TRAYiLINED BLACK STARkGREEK CROSSlLATIN CROSSlWHITE ST",
   "ARsVERHEATED FACElLAPaPING BLACK SQUARESnWHITE AND BLACK SQUARESrSQUARESuINEhWLcXbYSTERgPACKAG",
   "EfDaDING CHARACTERpGEa FACING UPjWITH CIRCLED TEXTlURLkRbScODAeHAWH HMONG CLAN SIGN FAJdHAMbWJ",
   "eKHABdOOcWMdLAUJdISdMUASePHABeTHOJdSABcHEEJeWBeVAJcWJdXYOOJfYAJcEEGnONSONANT AUcCAUcHAUeHAUcLA",
   "UdNAUeLAUdMAUdNAUcCHAUeKAUdLAUdTHAUdSAUfPLHAUfQHAUeRAUdVAUdXAUdYAUnDIGIT EIGHTfFIVEdOUReNINEeO",
   "NEdSEVENeIXdTHREEeWOdZEROkMARK CIM HOMdKEScHAVeSObUAMeTAUMdUBmNUMBER HUNDRED MILLIONSjSiMILLIO",
   "NSiTEN BILLIONSiTHOUSANDSkSdRILLIONSqSIGN AVcCIM CHEEMeUAM TSHOOJlHAIS LUS NTOG NTOGsNRES TOSi",
   "PUB DAWBiTSOV ROGhXWVa CHWVnHLIcNUBeIB YAMgLOSdMEEJ SUABeTSEEBjUSdNQIGdTUJeTAUcHIRD-STAGE HLIo",
   "XHEEJ CEEVlVOS FEEMeLUBdNRUAeSEEVeTHIABdOMdSHAB CEEBoXAUSdIABdYEEM FAIBeNTXIVfRHOdTOVhOOeZWJ T",
   "HAJnVOWEL KAABbVcBbIBbVcUBbVcVbWBbVdEBbEBbVcVcIABbVcBbVcOBbOBbVcVcUABbVcBbVcWBbVuLLASdM BRANCH",
   "gDOWN HANDjTREEeUP HANDiS UP TOGETHERnYRENE LEFT-POINTING FLEURONtTTER ALEPHeYINeBETHeDALETHgF",
   "INAL NUNjGIMELfHEaTHeKAPHeLAMEDHgMEMdNUNdPEcQOPHeRESHeSADHEdMEKHfHINeTAWcETHeWAWdYODHeZAYINmNU",
   "MBER FIVEdOUReONEdTENcHREEeWENTYeOkRIGHT-POINTING FLEURONzfNCAKESfDA FACEiPERCLIPhRACHUTEfGRAP",
   "H SEPARATORkOScUS MARKmLLEL TOcWITH HORIZONTAL STROKErTILDE OPERATORzENTHESIZED DIGIT EIGHTfFI",
   "VEdOUReNINEeONEdSEVENeIXdTHREEeWOjHANGUL CHIEUCHa AiIEUCa AbUhHIEUHa AhIEUNGa AhKHIEUKHa AiIYE",
   "OKa AiMIEUMa AhNIEUNa AhPHIEUPHa AiIEUPa AhRIEULa AhSIOSa AgTHIEUTHa AiIKEUTa ApIDEOGRAPH ALLI",
   "ANCEiCALLdONGRATULATIONoEARTHeIGHTeNTERPRISEkFESTIVALhINANCIALhREcVEdOUReHAVEeLABORfMETALeOONe",
   "NAMEdINEeONEdREACHdPRESENThSOURCEfTeSELFcVENeIXcOCIETYgPECIALgTOCKdUDYeUNbPERVISEjTENcHREEeWOd",
   "WATEReOODoKOREAN CHARACTER O HUdJEONwLATIN CAPITAL LETTER AbBbCbDbEbFbGbHbIbJbKbLbMbNbObPbQbRb",
   "SbTbUbVbWbXbYbZqSMALL LETTER AbBbCbDbEbFbGbHbIbJbKbLbMbNbObPbQbRbSbTbUbVbWbXbYbZuNUMBER EIGHTE",
   "ENhLEVENgFIFTEENgOURTEENiNINETEENiSEVENTEENiIXTEENhTENcHIRTEENhWELVEdNTYyROTdT ALTERNATION MAR",
   "KrIAL DIFFERENTIALmLINE BACKWARDiDOWNeFORWARDhUPiLY-RECYCLED PAPER SYMBOLzcNERSHIP SIGNmY POPP",
   "ERkSSED SYMBOLiNGER SHIPkIVE-PULL-DOWN-OUTPUT SYMBOLsUP-OUTPUT SYMBOLzPORT CONTROLoU CIN HAU G",
   "LOTTAL STOPa FINALfVARIANTuLETTER AbBAcCAbHAdDAcEbFAbINAL KbLbMbNaGcPbTbWbYhGAcHAcIaAcKAbHAdLA",
   "cMAcNAbGAdObPAbHAdRAcSAcTAbHAdUaAcVAcZAiOW-FALLING TONEa FINALfLONGa FINALzcMID-LEVEL TONEa FI",
   "NALfLONG FINALzRISING TONEa FINALfLONGa FINALwSANDHI GLOTTAL STOPa FINALsTONEa FINALfLONGa FIN",
   "ALzhW PRINTSjDFbIcEACE SYMBOLiHbOCKeNUTSeRcDESTRIANiN OVER STAMPED ENVELOPEwCILdGUINeSIVE FACE",
   "jTAGRAMhOPLE HUGGINGmR MILLE SIGNkSIGNeTEN THOUSAND SIGNsCENT SIGNjFORMING ARTSmMANENT PAPER S",
   "IGNrPENDICULARa WITH SrSEVERING FACEmON BOWING DEEPLYnCLIMBINGiDOING CARTWHEELpFROWNINGiIN LOT",
   "US POSITIONoSTEAMY ROOMoRAISING BOTH HANDS IN CELEBRATIONziWITH BALLdLOND HAIRkCROWNfFOLDED HA",
   "NDSmHEADSCARFjPOUTING FACEsAL COMPUTERnPECTIVEjSETA SIGNiO SIGNhTRI DISHjHAGS-PA DOUBLE HEAD M",
   "ARKqLETTER AaLTERNATE YAlSPIRATED FAmBAcCAaNDRABINDUkHAdDAbDAcZAdEaEcFAcGAbGAdHAcIbJAcKAbHAdLA",
   "cMAcNAbGAcNAcYAdObPAbHAdQAcRAcSAbHAcMALL AhTAbHAcSAbHAdTAbHAeUbVOICED HAeLESS SHAnWAcXAcYAcZAb",
   "HAkMARK DOUBLE SHADlSHADjSINGLE HEAD MARKpUBJOINED LETTER RAcWAcYArPERFIXED LETTER RAzbISTOS D",
   "ISC SIGN ARROWfBEEaHIVEgOOMERANGhWcULLS LEGjCAPTIVEfRPENTRY PLANEnTcHILDeLUBdOLUMNeMBaINING OB",
   "LIQUE STROKEyDOLIUMeVEeEAGLEfFLUTEfGAUNTLEThRATERgHELMETfIDEdORNeLIDbLYeMANACLESgTTOCKhOX BACK",
   "hPAPYRUSgEDESTRIANjLANE TREEiUMED HEADlRAMcOSETTEhSAWcHIELDdPdLINGeMALL AXEiTRAINERiTATTOOED H",
   "EADmIARAeUNNYfVINEeWAVY BANDiOMANwILIPPINE DOUBLE PUNCTUATIONsSINGLE PUNCTUATIONzcOENICIAN LET",
   "TER AINcLFdBETdDELTeGAMLeHEaTdKAFdLAMDeMEMdNUNdPEcQOFdROSHeSADEdEMKdHINeTAUcETdWAUdYODdZAIkNUM",
   "BER ONEa HUNDREDlTENcHREEeWENTYeOkWORD SEPARATORwLUSfICKaUP TRUCKkEbGa FACEeNOSEgLCROW SIGNjE ",
   "OF POOiLcNATAdCHED FINGERSkING HANDkE DECORATIONlAPPLEgWHEEL STARlSCESdTOLeTCHFORKa WITH TEE T",
   "OPvLACARDdE OF INTEREST SIGNnWORSHIPnNCK CONSTANTa OVER TWO PIyYGROUND SLIDEmING CARD ACE OF C",
   "LUBSfDIAMONDSiHEARTSgSPADESnBACKdLACK JOKERlEIGHT OF CLUBSfDIAMONDSiHEARTSgSPADESpFIVE OF CLUB",
   "SfDIAMONDSiHEARTSgSPADESnOOLcUR OF CLUBSfDIAMONDSiHEARTSgSPADESoJACK OF CLUBSfDIAMONDSiHEARTSg",
   "SPADESoKING OF CLUBSfDIAMONDSiHEARTSgSPADESnNIGHT OF CLUBSfDIAMONDSiHEARTSgSPADESqNINE OF CLUB",
   "SfDIAMONDSiHEARTSgSPADESoQUEEN OF CLUBSfDIAMONDSiHEARTSgSPADESpRED JOKERjSEVEN OF CLUBSfDIAMON",
   "DSiHEARTSgSPADESoIX OF CLUBSfDIAMONDSiHEARTSgSPADESnTEN OF CLUBSfDIAMONDSiHEARTSgSPADESmHREE O",
   "F CLUBSfDIAMONDSiHEARTSgSPADESoRUMP-1a0b1b2b3b4b5b6b7b8b9c2a0b1c3b4b5b6b7b8b9gWO OF CLUBSfDIAM",
   "ONDSiHEARTSgSPADESnWHITE JOKERwDbUaNGEReS SIGNa ABOVE EQUALS SIGNrIN LEFT HALF CIRCLEqRIGHT HA",
   "LF CIRCLErTRIANGLElWITH BLACK TRIANGLEoCIRCUMFLEX ACCENT ABOVExDOT BELOWjSMALL CIRCLE ABOVErUB",
   "SCRIPT TWOnTILDE ABOVEfBELOWw-MINUS SIGNmTOa FORM FIVEdOUReTHREEeWOnMbOCKET CALCULATORpLICE CA",
   "RaS REVOLVING LIGHTuOFFICERmODLEeP DIRECTIONAL FORMATTINGkISOLATEuCORNfRTABLE STEREOnSEIDONfIT",
   "ION INDICATORpTAL HORNeMARKa FACEmBOXfT OF FOODiABLE WATER SYMBOLqTOdTED PLANTkUCHcLTRY LEGiND",
   " SIGNhRING LIQUIDlTING CAT FACEiFACEkWER ON SYMBOLh-OFF SYMBOLnSLEEP SYMBOLlYMBOLlRAYER BEADSk",
   "ECEDESa ABOVE ALMOST EQUAL TOpEQUALS SIGNlNOT ALMOST EQUAL TOpEQUAL TOmSINGLE-LINE EQUALS SIGN",
   "lNOT EQUAL TOzfBUT NOT EQUIVALENT TOvOR EQUAL TOfIVALENT TOqUNDER RELATIONuGNANT MANdPERSONgWO",
   "MANlSCRIPTION TAKEnENTATION FORM FOR VERTICAL COLONdMMAfEM DASHgN DASHgXCLAMATION MARKqHORIZON",
   "TAL ELLIPSIStIDEOGRAPHIC COMMAfFULL STOPvLEFT ANGLE BRACKETnBLACK LENTICULAR BRACKETyCORNER BR",
   "ACKETnURLY BRACKETnDOUBLE ANGLE BRACKETuPARENTHESISlSQUARE BRACKEToTORTOISE SHELL BRACKETwWHIT",
   "E CORNER BRACKEToLENTICULAR BRACKETzdOW LINEiQUESTION MARKnRIGHT ANGLE BRACKETnBLACK LENTICULA",
   "R BRACKETyCORNER BRACKETnURLY BRACKETnDOUBLE ANGLE BRACKETuPARENTHESISlSQUARE BRACKEToTORTOISE",
   " SHELL BRACKETwWHITE CORNER BRACKEToLENTICULAR BRACKETeKCETzfSEMICOLONjTWO DOT LEADERoWAVY LOW",
   " LINEzqTZELeVIOUS PAGElIMEcNCEaSSeT SCREEN SYMBOLoERa ICONjVACY MESSAGEkTE USE ONEdTWOe-1b2lOB",
   "ING CANEjHIBITED SIGNmJECTIVEhPERTY LINEjORTIONaAL TOmSERPINAjSALTER PAHLAVI FOUR DOTS WITH CR",
   "OSSfDOTsLETTER ALEPHfBETHeDALETHgGIMELfHEaTHeKAPHeLAMEDHgMEM-QOPHiNUNdPEcSADHEdMEKHfHINeTAWdWA",
   "W-AYIN-RESHnYODHeZAYINmNUMBER FOUReONEa HUNDREDlTENcHREEeWENTYeOkSECTION MARKmTURNED SECTION M",
   "ARKzjU1b2bBLIC ADDRESS LOUDSPEAKERyNCTUATION SPACElS ELEVATUS MARKtRPLE HEARTjSEdSHPINfT LITTE",
   "R IN ITS PLACE SYMBOLzfQUADRANT LOWER LEFTeRIGHTlUPPER LEFTa AND LOWER LEFT AND LOWER RIGHTuRI",
   "GHTlUPPER RIGHT AND LOWER LEFTeRIGHTzlRIGHTa AND LOWER LEFTa AND LOWER RIGHTzvUPLE INTEGRAL OP",
   "ERATORrPRIMEmRTER NOTEjTERNION INTEGRAL OPERATORzbESTION EXCLAMATION MARKqMARKfED EQUAL TOrINC",
   "UNXgOTATION MARKoRABBITa FACEjCCOONeING CARdMOTORCYCLEpDICAL SYMBOL BOTTOMrOa BUTTONhACTIVE SI",
   "GNoILWAY CARdTRACKkNaBOWeSED BACK OF HANDmCOMMAfDOTaTED INTERPOLATION MARKERzcFISTeHANDa WITH ",
   "FINGERS SPLAYEDpPART BETWEEN MIDDLE AND RING FINGERSzvINTERPOLATION MARKERuMC SIGNgD SIGNgR SI",
   "GNhSQUARElMbTaIOdZOReECEIPTeORD SEPARATORnREATIONAL VEHICLErYCLED PAPER SYMBOLpING SYMBOL FOR ",
   "GENERIC MATERIALSrTYPE-1 PLASTICSk2 PLASTICSk3 PLASTICSk4 PLASTICSk5 PLASTICSk6 PLASTICSk7 PLA",
   "STICSzjD APPLEfGIFT ENVELOPEpFERENCE MARKmGIONAL INDICATOR SYMBOL LETTER AbBbCbDbEbFbGbHbIbJbK",
   "bLbMbNbObPbQbRbSbTbUbVbWbXbYbZzfSTERED SIGNnJANG CONSONANT SIGN HbNaGcRqLETTER AbBAcCAcDAcGAcH",
   "AcJAcKAcLAcMAbBAdNAbDAcGAbGAdYAbJAePAcRAcSAcTAcWAcYAjSECTION MARKmVIRAMAfOWEL SIGN AIbUcEaAbUc",
   "IbObUrLIEVED FACElMINDER RIBBONnPLACEMENT CHARACTERtSPONSEfTRICTED LEFT ENTRY-1b2sOOMgTURN LEF",
   "TeRIGHTfSYMBOLlVERSE CHECKER BOARDnINDEXfLIGHT FOUR POINTED PINWHEEL STARzfNE FEEDjSOLIDUSa OP",
   "ERATORiPRECEDING SUBSETqWITH HORIZONTAL STROKEzfTILDE OPERATOR ABOVE LEFTWARDS ARROWpRIGHTWARD",
   "S ARROWznD ANGLEa WITH UNDERBARtCOMMAfDOUBLE PRIMEa QUOTATION MARKuSTROKE NOT SIGNwEMPTY SETjF",
   "ORKED PARAGRAPHOSsHAND WITH MIDDLE FINGER EXTENDEDzhNOT SIGNiPILCROW SIGNlRIMEfQUESTION MARKnR",
   "AISED HAND WITH FINGERS SPLAYEDzgIGHT ANGLEkOTATED FLORAL HEART BULLETzcSANS-SERIF CAPITAL LtE",
   "MICOLONjTHUMBS DOWN SIGNjUP SIGNnILDEa EQUALSlRIPLE PRIMEmVICTORY HANDsOLVING HEARTSpHINOCEROS",
   "jIaAL SIGNhBBONa ARROW DOWN LEFTeRIGHTkLEFT DOWNeUPhRIGHT DOWNeUPiUP LEFTeRIGHTtCE BALLeCRACKE",
   "RkFLEdGHT AND LOWER ONE EIGHTH BLOCKwUPPER ONE EIGHTH BLOCKyGER BUBBLEjLEa BRACKETa WITH DOTqD",
   "OTTED SUBSTITUTION MARKERzbSUBSTITUTION MARKERtVARIANT WITH SQUAREtWITH ARCdDOWNWARDS ZIGZAG A",
   "RROWzhRC GREATER-THAN BRACKETwROW WITH CIRCLED PLUSmSMALL CIRCLExBLACK LENTICULAR BRACKETsTORT",
   "OISE SHELL BRACKETzdCEILINGgORNER BRACKETnURLY BRACKETa LOWER HOOKkMIDDLE PIECEmUPPER HOOKyDOT",
   "TED SUBSTITUTION BRACKETzUBLE ANGLE BRACKETmRROW WITH ROUNDED HEADxPARENTHESISlQUOTATION MARKo",
   "WIGGLY FENCEtFISH TAILhVE EIGHTHS BLOCKrLOORfHALF BLACK CIRCLEgSTARiOCKfFOLDERgMEDIUM SHADEmRU",
   "NNING MANoND TELEPHONE RECEIVERxLOW PARAPHRASE BRACKETwNORMAL FACTOR SEMIDIRECT PRODUCTzhONE E",
   "IGHTH BLOCKmQUARTER BLOCKqPEN SQUARED DOTpUTER JOINkPARENTHESISa EXTENSIONjLOWER HOOKkUPPER HO",
   "OKwRAISED OMISSION BRACKETxS-SHAPED BAG DELIMITERvEMIDIRECT PRODUCTqVEN EIGHTHS BLOCKsIDEWAYS ",
   "U BRACKETqNGLE QUOTATION MARKuPEAKERa WITH ONE SOUND WAVEoTHREE SOUND WAVESzcECH BUBBLEmQUARE ",
   "BRACKETa EXTENSIONjLOWER CORNERmUPPER CORNERmWITH DOUBLE STROKEnQUILLfSTROKEgTICK IN BOTTOM CO",
   "RNERnTOP CORNERsUNDERBARzcUBSTITUTION BRACKETuTACKdHIRD WHITE RIGHT POINTING INDEXzfOUGHT BUBB",
   "LEmREE EIGHTHS BLOCKnQUARTERS BLOCKtORTOISE SHELL BRACKETvRANSPOSITION BRACKETtIANGLEa ABOVE L",
   "EFT TRIANGLEwULAR ONE QUARTER BLOCKzdVERTICAL BAR WITH QUILLnOX LINErWHITE CORNER BRACKETnURLY",
   " BRACKETnLENTICULAR BRACKETsPARENTHESISlSQUARE BRACKEToTORTOISE SHELL BRACKETzcIGGLY FENCEn-FA",
   "CING ARMENIAN ETERNITY SIGNwFISTeSVASTI SIGNa WITH DOTSzdHANDED INTERLACED PENTAGRAMzcPOINTING",
   " ANGLE BRACKETnCURVED ANGLE BRACKETuDOUBLE ANGLE QUOTATION MARKzcMAGNIFYING GLASSzSHADED WHITE",
   " RIGHTWARDS ARROWzdIDE ARC CLOCKWISE ARROWyTO-LEFT EMBEDDINGjISOLATEhMARKeOVERRIDErHAND INTERI",
   "OR PRODUCTvWARDS ARROWa ABOVE ALMOST EQUAL TOpREVERSE ALMOST EQUAL TOpTILDE OPERATORwSHORT LEF",
   "TWARDS ARROWvTILDE OPERATORtND UPPER AND LOWER ONE EIGHTH BLOCKzlFROM BARa TO BLACK DIAMONDzOV",
   "ER LEFTWARDS ARROWuTHROUGH GREATER-THANmSUPERSETiXiO BARcLACK DIAMONDqWITH CORNER DOWNWARDSqDO",
   "TTED STEMjUBLE VERTICAL STROKEwEQUILATERAL ARROWHEADvHOOKeLARGE TRIANGLE ARROWHEADxOOPeMEDIUM ",
   "TRIANGLE ARROWHEADzNOTCHED TAILmPLUS BELOWkSMALL EQUILATERAL ARROWHEADvTRIANGLE ARROWHEADxTROK",
   "EgTAILa WITH DOUBLE VERTICAL STROKEwVERTICAL STROKEyIP DOWNWARDSjUPWARDSlVERTICAL STROKEv-TAIL",
   "kBACK-TILTED SHADOWED WHITE ARROWzgLACK ARROWfCIRCLED WHITE ARROWyOTTOM SHADED WHITE ARROWzCOM",
   "PRESSED ARROWqDASHED ARROWlOUBLE ARROWa FROM BARiWITH STROKEgVERTICAL STROKEv-TAILkDASH ARROWr",
   "FINGER-POST ARROWqRONT-TILTED SHADOWED WHITE ARROWziHANDcRPOON OVER LEFTWARDS HARPOONwWITH BAR",
   "B DOWN ABOVE LEFTWARDS HARPOON WITH BARB DOWNznBELOW LONG DASHpFROM BARiTO BARhWARDSjUP ABOVE ",
   "LEFTWARDS HARPOON WITH BARB UPzeONG DASHjRIGHTWARDS HARPOON WITH BARB DOWNzoFROM BARiTO BARhWA",
   "RDSyEAVY ARROWfCOMPRESSED ARROWwLEFT-SHADED WHITE ARROWxOPEN-HEADED ARROWrPAIRED ARROWSnQUADRU",
   "PLE ARROWpRIGHT-SHADED WHITE ARROWxOCKETgSANS-SERIF ARROWpQUARED ARROWkIGGLE ARROWoTOP SHADED ",
   "WHITE ARROWvRIANGLE ARROWHEADk-HEADED ARROWa OVER LEFTWARDS TRIANGLE-HEADED ARROWzlTO BARgWITH",
   " BOLD SHAFTkDOUBLE HORIZONTAL STROKErVERTICAL STROKEwHEAVY SHAFTlLONG TIP DOWNWARDSjUPWARDSqME",
   "DIUM SHAFTmNARROW SHAFTmVERY HEAVY SHAFTzcDASHED ARROWmPAIRED ARROWSzbPLE ARROWfDASH ARROWqWO ",
   "HEADED ARROWn-HEADED ARROW FROM BARiWITH DOUBLE VERTICAL STROKEwTAILa WITH DOUBLE VERTICAL STR",
   "OKEwVERTICAL STROKEyRIANGLE ARROWHEADStVERTICAL STROKEzbTRIPLE DASH ARROWzdWAVE ARROWjHITE ARR",
   "OWa FROM WALLjWITHIN TRIANGLE ARROWHEADzvNGa ABOVEfBUOYeEQUAL TOiIN EQUAL TOlOPERATORiPOINTgED",
   " PLANETjING BELLkSING DIAGONAL CROSSING FALLING DIAGONALqSOUTH EAST ARROWzpLEbIbMbOcOASTED SWE",
   "ET POTATOsBOT FACEiCKaETeLL OF PAPERjED-UP NEWSPAPERoR COASTERhSKATEiING ON THE FLOOR LAUGHING",
   "zcMAN AS SIGNhCENTURIAL SIGNoDENARIUS SIGNmIMIDIA SEXTULA SIGNtUPONDIUS SIGNoNUMERAL EIGHTeLEV",
   "ENgFIFTYa EARLY FORMkTHOUSANDmVEa HUNDREDhTHOUSANDmOUReNINEeONEa HUNDREDa THOUSANDqTHOUSANDa C",
   " DqREVERSED ONE HUNDREDuSEVENeIXa LATE FORMnTENa THOUSANDlHREEeWELVEeOlQUINARIUS SIGNoSEMUNCIA",
   " SIGNlSTERTIUS SIGNnXTANS SIGNiULA SIGNlILIQUA SIGNmUNCIA SIGNoOSTERfSEaTTEfTATED CAPITAL QjFL",
   "ORAL HEART BULLETtHEAVY BLACK HEART BULLETyLIGHT FOUR POINTED BLACK CUSPzeWHITE FOUR POINTED C",
   "USPzeUND PUSHPINhTARGEThED SYMBOL FOR CAIdFUcLUcSHOUcUANGXIiXItWBOATgSbUBLE SIGNiGBY FOOTBALLm",
   "LE-DELAYEDkMI DIGIT EIGHTfFIVEdOUReNINEeONEdSEVENeIXdTHREEeWOjFRACTION ONE HALFeQUARTERhTHIRDj",
   "TWO THIRDStNUMBER EIGHT HUNDREDiYgFIFTYdVE HUNDREDlORTYdUR HUNDREDmNINE HUNDREDiTYgONE HUNDRED",
   "lSEVEN HUNDREDiTYgIX HUNDREDiTYfTENcHIRTYeREE HUNDREDmWENTYeO HUNDREDvNIC ARLAUG SYMBOLnBELGTH",
   "OR SYMBOLpCROSS PUNCTUATIONrLETTER AC AdESCdLGIZ EOLHXkNSUZ AhBERKANAN BEORC BJARKAN ByCaALCdE",
   "ALCdNcWEORTHhDaAGAZ DAEG DlOTTED-LbNbPiEaARcHWAZ EH EjNGcTHdFEHU FEOH FE FnRANKS CASKET ACbESC",
   "eEHcIScOSqGaARcEBO GYFU GjRdHAEGL HfGLAZ HiICELANDIC-YRlNGaWAZfORcSAZ IS ISS ImWAZ EOHiJERAN J",
   "hKaAUN KcAfLAUKAZ LAGU LOGR LrONG-BRANCH-AR AEfHAGALL HiMADR MgOSS OfYRoMANNAZ MAN MmNAUDIZ NY",
   "D NAUD NrOaEbNbObPEN-PfS OdTHALAN ETHEL OpPERTHO PEORTH PpQbRAIDO RAD REID RqSHaORT-TWIG-AR Ae",
   "BJARKAN BjHAGALL HiMADR MgNAUD NgOSS OfSOL SfTYR TfYRmIGEL LONG-BRANCH-SOL SwOWILO ShTANeTHURI",
   "SAZ THURS THORNtIWAZ TIR TYR TpURUZ UR UjVbWaUNJO WYNN WmXbYaRcZiMULTIPLE PUNCTUATIONuSINGLE P",
   "UNCTUATIONsTVIMADUR SYMBOLsNERcING SHIRT WITH SASHvPEE SIGNiSSIAN ASTROLOGICAL SYMBOL BINOVILE",
   "iNOVILEgQUINTILEiSENTAGONiTREDECILEjVIGINTILEzmS IN TRIANGLEmAFETY PINdVESTjGITTARIUSjILBOATgK",
   "E BOTTLE AND CUPrLT SHAKERhIREeUTING FACElMARITAN ABBREVIATION MARKrLETTER ALAFeBAAcITdDALATfF",
   "IcGAMANfINbTbYcKAAFeLABATfMIMdNUNdQUFdRISHeSHANdINGAAThTAAFdITcSAADIYhYUTdZENkMARK DAGESHgEPEN",
   "THETIC YUToINa-ALAFhNEQUDAAhOCCLUSIONnODIFIER LETTER EPENTHETIC YUToIbSHORT AxPUNCTUATION AFSA",
   "AQfNGEDdNAAUfRKAANUgTMAAUgBAUdMELODIC QITSAnNEQUDAAhQITSAfSHIYYAALAAjOF MASHFAATmTURUeZAEFdIQA",
   "ArVOWEL SIGN AaAcEbIbLONG AaAcEbIbUgOaVERLONG AaAlSHORT AgUKUNfUuNDWICHfS-SERIF HEAVY DOUBLE C",
   "OMMA QUOTATION MARK ORNAMENTzeTURNED COMMA QUOTATION MARK ORNAMENTzsLOW DOUBLE COMMA QUOTATION",
   " MARK ORNAMENTzvINTERROBANG ORNAMENTzeRIcTELLITEa ANTENNAoURNeURASHTRA CONSONANT SIGN HAARUuDA",
   "NDAeIGIT EIGHTfFIVEdOUReNINEeONEdSEVENeIXdTHREEeWOdZEROjOUBLE DANDAmLETTER AaAbIbUcBAbHAdCAbHA",
   "dDAbDAbHAdHAdEaEcGAbHAdHAcIaIcJAbHAdKAbHAdLAbLAdMAcNAbGAcNAcYAdOaOcPAbHAdRAcSAbHAcSAdTAbHAcTAb",
   "HAeUaUcVAbOCALIC LaLcRaRkYAjSIGN ANUSVARAiCANDRABINDUlVIRAMAeSARGAmVOWEL SIGN AAbIbUcEaEcIaIcO",
   "aOcUaUcVOCALIC LaLcRaRzdOPODgXOPHONEiCALESdRFdHOOLa SATCHELmIbOOTEReRPIONcUSgREENcWDRIVERiIPT ",
   "CAPITAL BbEbFbHbIbLbMbPbRjLIGATURE ET ORNAMENTuSMALL EbGbLbOlOLLdUPLEgEALbTcCOND PLACE MEDALpT",
   "ION SIGNiOReDNAdE-NO-EVIL MONKEYpDLINGgGMENTaED DIGIT EIGHTfFIVEdOUReNINEeONEdSEVENeIXdTHREEeW",
   "OdZEROsLFIEeMICOLONfDIRECT PRODUCT WITH BOTTOM CLOSEDziSEXTILEjPARATED SYMBOLoRIOUS FACE WITH ",
   "SYMBOLS COVERING MOUTHzmVICE MARKkSAME DOThQUIQUADRATEmT MINUSfTRANSMIT STATEqWING NEEDLElXTIL",
   "EgGCcHADOWED WHITE CIRCLEgLATIN CROSSlSTARqLLOW PAN OF FOODqMROCKfRADA ABBREVIATION SIGNrCONTI",
   "NUATION SIGNrDANDAeIGIT EIGHTfFIVEdOUReNINEeONEdSEVENeIXdTHREEeWOdZEROjOUBLE DANDAmEKAMdXTRA S",
   "HORT VOWEL MARKwHEADSTROKEkLETTER AaAbIbUcBAbHAdCAbHAdDAbDAbHAdHAdEbGAbHAdHAcIaIcJAbHAdKAbHAdL",
   "AbLAdMAcNAbGAcNAcYAdObPAbHAdRAcSAbHAcSAdTAbHAcTAbHAeUaUcVAbOCALIC LaLcRaRkYAjOMcSANDHI MARKkEC",
   "TION MARK-1b2mPARATORiIGN ANUSVARAhVAGRAHAiCANDRABINDUlINVERTED CANDRABINDUuJIHVAMULIYAlNUKTAf",
   "SIDDHAMhUPADHMANIYAlVIRAMAeSARGAlUTRA MARKkVOWEL MODIFIER MARKnSIGN AAbIbUcEbIaIcObPRISHTHAMAT",
   "RA EpUaUcVOCALIC LaLcRaRzKcVED ICEgIAN LETTER ADOcGEcHbIRcREbRAYeSHcWEdBIBdCHURCHgDEADeEARbTcG",
   "GcRRdFEEdGAGdHA-HAeUNGeIANcCEcFcJUDGEfKICKeLOLLeMEASUREgIMEeNUNdOAKcILcNbOZEdRbUTdPEEPeROAReSO",
   "bUREeTHEYcIGHeOTdUPcVOWdWOEbOLeYEAbWdZOOqEEPdIELDdFT INcOUTgNTO SHRINEkPcOCKED FACE WITH EXPLO",
   "DING HEADzeOTING STARkPPING BAGSeTROLLEYnRT BACKSLANTED SOUTH ARROWwENT ARROW POINTING DOWNWAR",
   "DS THEN NORTH EASTzuDOWN TACKa WITH OVERBARwLEFT TACKjRIGHTWARDS ARROW ABOVE LEFTWARDS ARROWzn",
   "SLANTED NORTH ARROWtUP TACKa ABOVE SHORT DOWN TACKvWITH UNDERBARwCAKEeHAND FORMAT CONTINUING O",
   "VERLAPsDOWN STEPjLETTER OVERLAPoUP STEPtSdULDERED OPEN BOXqWEReRIMPdUGdUFFLE PRODUCTnYcIaDDHAM",
   " DANDAeOUBLE DANDAmEND OF TEXT MARKqLETTER AaAbIbLTERNATE UkUcBAbHAdCAbHAdDAbDAbHAdHAdEbGAbHAd",
   "HAcIaIcJAbHAdKAbHAdLAcMAcNAbGAcNAcYAdObPAbHAdRAcSAbHAcSAdTAbHAbREE-CIRCLE ALTERNATE IxTAbHAdWO",
   "-CIRCLE ALTERNATE IaIxUaUcVAbOCALIC LaLcRaRkYAjREPETITION MARK-1b2b3rSECTION MARK DOUBLE RINGa",
   " WITH RAYSvWITH CIRCLES AND FOUR ENCLOSURESpRAYSeTWO ENCLOSURESzbDOUBLE CRESCENTSqQUADRUPLE CR",
   "ESCENTStRAYS AND DOTTED CRESCENTSjDOUBLE CRESCENTSqTRIPLE CRESCENTSzhSEPTUPLE CRESCENTSsTRIDEN",
   "T AND DOTTED CRESCENTSqU-SHAPED ORNAMENTSzcPLE CRESCENTSzhPARATOR BARdDOTmIGN ANUSVARAiCANDRAB",
   "INDUlNUKTAfSIDDHAMhVIRAMAeSARGAmVOWEL SIGN AAbIbLTERNATE UaUlUcEbIaIcObUaUcVOCALIC RaRzbEWAYS ",
   "BLACK DOWN POINTING INDEXtLEFT POINTING INDEXtRIGHT POINTING INDEXuUP POINTING INDEXxWHITE DOW",
   "N POINTING INDEXtLEFT POINTING INDEXtRIGHT POINTING INDEXuUP POINTING INDEXzfGN OF THE HORNSnW",
   "RITING AIR BLOW SMALL ROTATIONSqING OUTlSUCK SMALL ROTATIONSqING INoBREATH EXHALEgINHALElUSH B",
   "ETWEENhMULTIPLEiSINGLEmCHEEKS NEUTRALhPUFFEDgSUCKEDmOLONdMMAfDREAMY EYEBROWS DOWN NEUTRALmNEUT",
   "RAL DOWNeUPkUP NEUTRALzYNAMIC ARROWHEAD LARGEfSMALLpEVERY OTHER TIMEqFASTeGRADUALhRELAXEDhSIMU",
   "LTANEOUSa ALTERNATINGxLOWeTENSEnEARSdXCITEMENTjYE BLINK MULTIPLEiSINGLEmWINKfBROWS STRAIGHT DO",
   "WNeNEUTRALhUPrGAZE-FLOORPLANE CURVEDgSTRAIGHTa ALTERNATINGlDOUBLEzbWALLPLANE CIRCLINGhURVEDgST",
   "RAIGHTa ALTERNATINGlDOUBLEzfLASHES DOWNeFLUTTERINGkUPjS CLOSEDgHALF CLOSEDgOPENjOPENeSQUEEZEDi",
   "WIDE OPENfNING MOVEMENTwFACE DIRECTION POSITION NOSE FORWARD TILTINGpUP OR DOWNa TILTINGzvILL ",
   "MODIFIER-2b3b4b5b6nNGERfLICK LARGE MULTIPLEiSINGLEmSEQUENTIALjMALL MULTIPLEiSINGLEqOORPLANE SH",
   "OULDER HIP MOVEzcOREHEAD CONTACThNEUTRALhWRINKLEDqULL STOPjGRASP BETWEENhMULTIPLEiSINGLEmHAIRc",
   "ND-ANGLEa INDEXa MIDDLE LITTLEgRINGlRING LITTLEa OUTpTHUMBa INcOUTpLITTLE INDEXa THUMB INDEX T",
   "HUMBa OUTzcUPjMIDDLE RING LITTLEa INcOUTwRING DOWN MIDDLE THUMB INDEX CROSSzeLITTLErCIRCLEa IN",
   "DEXa BENTeHINGEfMIDDLEa CROSS LITTLEhEDhLITTLEgRINGeTHUMBmRING LITTLErLITTLE INDEXfUPjMIDDLE R",
   "ING LITTLEa BENTqUPjRING LITTLErLAWa FOUR FINGERS CONJOINEDwINDEX THUMB CURVE THUMB INSIDEzfMI",
   "DDLE RING LITTLE CONJOINEDa SIDEziNO THUMBiTHUMB FORWARDhSIDEoUPa FIVE FINGERS SPREADa OPENyIN",
   "DEXa RING LITTLElTHUMBa OPENqMIDDLE RING LITTLEsNO THUMBiOPENa NO THUMBiTHUMB FORWARDhSIDEpTHU",
   "MB FORWARDhSIDEmRLICUEa INDEX RING LITTLE ONuMIDDLE RING LITTLE ONvOPENnFISTa FOUR FINGERS CON",
   "JOINED BENTzcHEELeINDEXa BENTa OVER MIDDLEqCUPPEDgHINGEDa LOWdMIDDLE UPa THUMB SIDEzcMIDDLEa B",
   "ENTa THUMB STRAIGHTtCONJOINEDa CUPPEDa THUMB FORWARDuHINGEDa THUMB SIDErINDEX BENTkMIDDLE BENT",
   "lTHUMB FORWARDhSIDEa BENTeCONJOINEDzeROSS LITTLEhEDa THUMB SIDEsHINGEDa SPREAD THUMB SIDEyLITT",
   "LEgRAISED KNUCKLESoINGa BENTeCONJOINEDoSTRAIGHT THUMB BENTtTHUMBa ANGLEDa OUTkBENTeCIRCLEDgONJ",
   "OINED HINGEDpUPPEDgHINGEDfOOKEDmUP SPREAD THUMB FORWARDzfRAISED KNUCKLEnING LITTLElTHUMB ANGLE",
   "D IN MIDDLE UPmOUT MIDDLE UPuCIRCLEaD MIDDLE UPqUPPED MIDDLE UPoRLICUEfVE THUMB INSIDEgUNDERrF",
   "ORWARD INDEX BENTeSTRAIGHTwHOOKaED MIDDLE HINGEDgUPqSIDEa BOTH BENTjINDEX BENTeHINGElTHUMB BEN",
   "TeCONJOINEDjDIAGONALzUP MIDDLE HINGEDa THUMB CONJOINEDjSIDEziLITTLE BENTeDOWNa OTHERS CIRCLEDo",
   "RIPPLE CURVEDgSTRAIGHTuINDEXa THUMBlRAISED KNUCKLEoTHUMBeOUCHES THUMBnUPjMIDDLE BENT OVER INDE",
   "XpDOWNeLITTLEgRAISED KNUCKLEnING LITTLElTHUMB ANGLED INDEX UPiOUT INDEX CROSSEDhUPtCIRCLED IND",
   "EX HINGEDgUPpUPPED INDEX UPpHOOKED INDEX UPpLITTLEmUPa THUMB SIDEuRING DOWNeINDEXfLITTLEgMIDDL",
   "Ea CONJOINEDjRAISED KNUCKLESwRAISED KNUCKLEoTHUMBfUPhTHUMBa BETWEEN INDEX MIDDLEa STRAIGHTvMID",
   "DLE RINGlRING LITTLEtFORWARDhHEELeOVER FOUR RAISED KNUCKLESuTWO FINGERSqSIDE BENTeCONJOINEDjDI",
   "AGONALnUNDER FOUR FINGERSmINDEX BENTkLITTLE UPjTHREE FINGERSmWO FINGERSzcLATa BETWEEN PALM FAC",
   "INGSuFIVE FINGERS SPREADa BENTeFOUR BENTjHINGEDa NO THUMBiTHUMB SIDErTHUMB FORWARDzhOUR FINGER",
   "Sa BENTeCONJOINEDa SPLITpHINGEDtHEELa FIVE FINGERS SPREADa BENTeFOUR BENTzeTHUMB SIDEpSPLIT CE",
   "NTREa THUMB SIDEa BENTwINDEX THUMB SIDEqLITTLEmTHUMB BENTeFORWARDhSIDEpHINGEa FIVE FINGERS SPR",
   "EAD OPENxOUR FINGERS CONJOINEDwINDEXa HINGEDgMIDDLE LITTLEgRINGa CONJOINEDvRING LITTLElTHUMBa ",
   "LARGEfOPENeSIDEdMALLrLITTLEa INDEXa THUMBlTHUMBmMIDDLEa RING LITTLEsNO THUMBiOPENa NO THUMBiTH",
   "UMB FORWARDhSIDEpRINGa DOWN INDEX THUMB HOOK MIDDLEziSMALLfTHUMB BETWEEN MIDDLE RINGtSIDEa TOU",
   "CHING INDEXzfOOKa CURLICUEiINDEX RING LITTLE INcOUTdUNDERxMIDDLE RING LITTLE CONJOINEDa INcOUT",
   "zTHUMBmRING THUMBpOVALa FIVE FINGERS SPREADtINDEXfLITTLE UPjNO THUMBiRING LITTLElTHUMB FORWARD",
   "hSIDEtEADa MOVEMENT CIRCLEh-FLOORPLANE CURVEfSTRAIGHTtWALLPLANE CURVEfSTRAIGHTiTILTxRIMiLIMB C",
   "OMBINATIONlLENGTH-1b2b3b4b5b6b7lP LOWER OVER UPPERqUPPER OVER LOWERrS PRESSED TOGETHERuOCATION",
   " DEPTHfHEAD NECKhIGHTgLIMBS DIGITSmTORSOfWIDTHg-FLOORPLANE SPACEqWALLPLANE SPACEyMOUTH CLOSED ",
   "CONTACThFORWARDhNEUTRALnORNERShFROWNa OPENeWRINKLEDoKISSa FORWARDhWRINKLEDnOPEN CIRCLEgFORWARD",
   "hOVALa WRINKLEDiYAWNjRECTANGLEa WRINKLEDiYAWNoWRINKLEDnSMILEa OPENeWRINKLEDoTENSEa FORWARDhSUC",
   "KEDmWRINKLES DOUBLEgSINGLEtVEMENT-DIAGONAL AWAY LARGEaSThMEDIUMgSMALLkBETWEEN AWAY LARGEaSThME",
   "DIUMgSMALLkTOWARDS LARGEaSThMEDIUMgSMALLvTOWARDS LARGEaSThMEDIUMgSMALLwFLOORPLANE ARM CIRCLE H",
   "ITTING WALL LARGE DOUBLEgSINGLEmMEDIUM DOUBLEgSINGLEnSMALL DOUBLEgSINGLEzlBENDdOX LARGEfMEDIUM",
   "gSMALLjCHECKeORNER LARGEfMEDIUMgSMALLlROSSeURVE COMBINEDiHITTING CEILING LARGEfSMALLnFLOOR LAR",
   "GEfSMALLtLARGEaSThMEDIUMgSMALLlDOUBLE ALTERNATINGa WRIST FLEXwSTRAIGHTiWRIST FLEXrFINGER CIRCL",
   "ES HITTING WALL DOUBLEgSINGLEzbONTACToHUMP HITTING CEILING LARGE DOUBLEgTRIPLEmSMALL DOUBLEgTR",
   "IPLEuFLOOR LARGE DOUBLEmSMALL DOUBLEmTRIPLE LARGE TRIPLEmSMALL TRIPLEziSMALLkJAWdLOOP HITTING ",
   "CEILING LARGE DOUBLEgSINGLEmSMALL DOUBLEgSINGLEuFLOOR LARGE DOUBLEgSINGLEmSMALL DOUBLEgSINGLEz",
   "bSMALLkPEAKS LARGEfMEDIUMgSMALLlSHAKING PARALLELpINGLE STRAIGHT LARGEaSThMEDIUMgSMALLoWRIST FL",
   "EXrTRIPLE ALTERNATING MOVEMENTiWRIST FLEXwSTRAIGHT MOVEMENTrWRIST FLEXrWAVE HITTING CEILING LA",
   "RGEfSMALLnFLOOR LARGEfSMALLtLARGEfSMALLeNAKEjRIST CIRCLE HITTING WALL DOUBLEgSINGLEzhZIGZAG LA",
   "RGEfMEDIUMgSMALLxHINGE DOWN SEQUENTIALpSIDE TO SIDE SCISSORSvUP DOWN ALTERNATING LARGEfSMALLrL",
   "ARGEfSMALLkSEQUENTIALtWALLPLANE ARM CIRCLE MEDIUM DOUBLEgSINGLEnSMALL DOUBLEgSINGLExBEND LARGE",
   "fMEDIUMgSMALLjOX LARGEfMEDIUMgSMALLjCHECK LARGEfMEDIUMgSMALLkORNER LARGEfMEDIUMgROTATIONiSMALL",
   "lROSSeURVE HALF-CIRCLE LARGEaSThMEDIUMgSMALLqITTING CHESTfFRONT WALLsQUARTER LARGEaSThMEDIUMgS",
   "MALLnTHEN STRAIGHTlREE-QUARTER CIRCLE MEDIUMgSMALLzcD CROSS MEDIUMgSMALLsDOUBLE ALTERNATINGa W",
   "RIST FLEXwSTRAIGHTiWRIST FLEXrFINGER CIRCLES DOUBLEgSINGLEnONTACToHUMP HITTING CHESTfFRONT WAL",
   "LsLARGEfMEDIUMgSMALLkJAWdLOOP HITTING CHESTfFRONT WALLsLARGEfMEDIUMgSMALLa DOUBLErPEAKS LARGEf",
   "MEDIUMgSMALLlSHAKINGgINGLE STRAIGHT LARGEaSThMEDIUMgSMALLoWRIST FLEXrTRIPLE ALTERNATINGa WRIST",
   " FLEXwSTRAIGHT MOVEMENTrWRIST FLEXrWAVE CURVE DOUBLE LARGEfMEDIUMgSMALLmTRIPLE LARGEfMEDIUMgSM",
   "ALLsDIAGONAL PATH LARGEfMEDIUMgSMALLtHITTING CHESTfFRONT WALLwRIST CIRCLE FRONT DOUBLEgSINGLEz",
   "ZIGZAG LARGEfMEDIUMgSMALLzgNECKdOSE CONTACThNEUTRALhWIGGLESgRINKLESnPARENTHESISlROTATION MODIF",
   "IER-10b1b2b3b4b5b6c2b3b4b5b6b7b8b9l-FLOORPLANE ALTERNATINGa HITTING CEILINGhFLOORzDOUBLEa HITT",
   "ING CEILINGhFLOORuSINGLEa HITTING CEILINGhFLOORzgWALLPLANE ALTERNATEbING HITTING CHESTfFRONT W",
   "ALLzfDOUBLEa HITTING CHESTfFRONT WALLzSINGLEa HITTING CHESTfFRONT WALLzsUB BETWEENhMULTIPLEiSI",
   "NGLEkSEMICOLONiHOULDER HIP POSITIONSjSPINEjTILTING FROM WAISTzbQUEEZE FLICK ALTERNATINGrLARGE ",
   "MULTIPLEiSINGLEmSEQUENTIALjMALL MULTIPLEiSINGLEtTRIKE BETWEENhMULTIPLEiSINGLEmURFACE BETWEENhS",
   "YMBOLSpTEETHa BITE LIPSjMOVEMENTiON LIPSa MOVEMENTnTONGUEa MOVEMENTwNSE CHEEKS HIGHeLOWdMIDDLE",
   "sONGUE CENTRE INSIDE MOUTHmSTICKING OUTtINSIDE MOUTH RELAXEDuLICKING LIPSmMOVES AGAINST CHEEKt",
   "STICKING OUT FARqTIP BETWEEN LIPSmTOUCHING INSIDE MOUTHzfRSO-FLOORPLANE TWISTINGtWALLPLANE CUR",
   "VED BENDlSTRAIGHT STRETCHzfUCH BETWEENhMULTIPLEiSINGLElRAVEL-FLOORPLANE ROTATION-FLOORPLANE AL",
   "TERNATINGlDOUBLEgSINGLErWALLPLANE ALTERNATINGlDOUBLEgSINGLEzSHAKINGsWALLPLANE ARM SPIRAL DOUBL",
   "EgSINGLEgTRIPLErROTATION-FLOORPLANE ALTERNATINGlDOUBLEgSINGLErWALLPLANE ALTERNATINGlDOUBLEgSIN",
   "GLEzSHAKINGyUPPER BODY TILTING FROM HIP JOINTSzjWALLPLANE SHOULDER HIP MOVEzmLHOUETTE OF JAPAN",
   "rMILAR ABOVE GREATER-THAN ABOVE EQUALS SIGNzfLESS-THAN ABOVE EQUALS SIGNziMINUS SIMILARnOR GRE",
   "ATER-THANmLESS-THANsNE WAVEgGLE CHARACTER INTRODUCERuGRAPHIC CHARACTER INTRODUCERzdHIGH-REVERS",
   "ED-9 QUOTATION MARKzfLEFT-POINTING ANGLE QUOTATION MARKziOW-9 QUOTATION MARKuRIGHT-POINTING AN",
   "GLE QUOTATION MARKzkSHIFT THREEeWOk-SHIFT-2b3lHALA ARCHAIC DIGIT EIGHTfFIVEdOUReNINEeONEdSEVEN",
   "eIXdTHREEeWOjNUMBER EIGHTYgFIFTYeORTYfNINETYgONE HUNDREDhTHOUSANDmSEVENTYgIXTYfTENcHIRTYfWENTY",
   "vLETTER AAYANNAgEEYANNAgYANNAgIYANNAgLPAPRAANA BAYANNAhCAYANNAhDAYANNAgDAYANNAiGAYANNAhJAYANNA",
   "hKAYANNAhPAYANNAhTAYANNAgTAYANNAsMBA BAYANNAlUYANNAgYANNAgDANTAJA LAYANNAhNAYANNAhSAYANNApEEYA",
   "NNAgYANNAgFAYANNAhHAYANNAhIIYANNAgLUUYANNAgYANNAhRUUYANNAgYANNAhYANNAgKANTAJA NAASIKYAYAsMAHAA",
   "PRAANA BAYANNAhCAYANNAhDAYANNAgDAYANNAiGAYANNAhJAYANNAhKAYANNAhPAYANNAhTAYANNAgTAYANNAsYANNAgU",
   "URDHAJA LAYANNAhNAYANNAhSAYANNArOOYANNAgYANNAgRAYANNAhSANYAKA DAYANNAgDAYANNAiGAYANNAhJAYANNAp",
   "TAALUJA NAASIKYAYAkSANYOOGA NAAKSIKYAYAsYANNApUUYANNAgYANNAgVAYANNAhYAYANNAnITH DIGIT EIGHTfFI",
   "VEdOUReNINEeONEdSEVENeIXdTHREEeWOdZEROpPUNCTUATION KUNDDALIYAwSIGN AL-LAKUNAiNUSVARAYAkCANDRAB",
   "INDUlVISARGAYAoVOWEL SIGN AELA-PILLAkDIGA AEDA-PILLAkGAETTA-PILLAkYANUKITTAlIS-PILLAiKOMBUVAhP",
   "AA-PILLAoGAETTA-PILLAkYANUKITTAlKETTI AEDA-PILLAkIS-PILLAiPAA-PILLAoOMBU DEKAfVAa HAA AELA-PIL",
   "LAkDIGA AELA-PILLApGAYANUKITTAzpX PETALLED BLACK AND WHITE FLORETTEzhOINTED BLACK STARkPINWHEE",
   "L STARnSTAR WITH MIDDLE DOTze-PER-EM SPACEnTEEN POINTED ASTERISKxKATEBOARDiI AND SKI BOOTnERdU",
   "LLa AND CROSSBONESrNKeLANTED EQUAL TO OR GREATER-THANa WITH DOT INSIDEzdLESS-THANa WITH DOT IN",
   "SIDEzmNORTH ARROW WITH HOOKED HEADjRIZONTAL TAILzmVONIC ASTERISKpEDbEPING ACCOMMODATIONnFACEeS",
   "YMBOLkY FACEiUTH OR SPYlICE OF PIZZAlGHTLY FROWNING FACEnSMILING FACEtOPEbING LARGE ANDdORnT M",
   "ACHINEiHeMALL AIRPLANEhMPERSANDiSTERISKiBLUE DIAMONDmCOLONdMMAbERCIAL ATlNTAINS AS MEMBERjWITH",
   " OVERBARhVERTICAL BAR AT END OF HORIZONTAL STROKEzzeDOLLAR SIGNlELEMENT OFa WITH OVERBARhVERTI",
   "CAL BAR AT END OF HORIZONTAL STROKEzzfM DASHgQUALS SIGNkXCLAMATION MARKqFULL STOPjGREATER-THAN",
   " SIGNrHYPHEN-MINUSmIDEOGRAPHIC COMMArLEFT CURLY BRACKETnPARENTHESISlTORTOISE SHELL BRACKETzSS-",
   "THAN SIGNoNUMBER SIGNlORANGE DIAMONDoPERCENT SIGNlLUS SIGNjQUESTION MARKnREVERSE SOLIDUSoIGHT ",
   "CURLY BRACKETnPARENTHESISlTORTOISE SHELL BRACKETzcOMAN NUMERAL EIGHTeLEVENgFIFTYdVEa HUNDREDlO",
   "UReNINEeONEa HUNDREDhTHOUSANDmSEVENeIXdTENcHREEeWELVEeOrSEMICOLONjTILDEeWO DOTS OVER ONE DOT P",
   "UNCTUATIONziVEE WITH UNDERBARsER THANa OR EQUAL TOvSH PRODUCTlILEbING CAT FACE WITH HEART-SHAP",
   "ED EYESrOPEN MOUTHyFACE WITH HALOdEART-SHAPED EYESqORNSfOPEN MOUTHa AND COLD SWEATkSMILING EYE",
   "SmTIGHTLY-CLOSED EYESzjSMILING EYESa AND HAND COVERING MOUTHtTHREE HEARTSzdUNGLASSESkTEARtRKIN",
   "G FACElOKING SYMBOLnNAILcKEdEEZING FACElOW CAPPED MOUNTAINqBOARDERhFLAKEfMANa WITHOUT SNOWtOaC",
   "CER BALLiKSdFT HYPHENgICE CREAMjSHELL FLOPPY DISKsBALLeWARE-FUNCTION SYMBOLwGDIAN COMBINING CU",
   "RVE ABOVEfBELOWlDOT ABOVEfBELOWjHOOK ABOVEfBELOWkLONG HOOK BELOWpRESH BELOWkSTROKE BELOWmTWO D",
   "OTS ABOVEfBELOWyINDEPENDENT SHINqLETTER ALEPHeYINeBETHeFETHeGIMELfHEaTHeKAPHeLAMEDHfESHeMEMdNU",
   "NdPEcRESH-AYINjSADHEdMEKHfHINeTAWdWAWdYODHeZAYINmNUMBER ONEa HUNDREDlTENcWENTYnPUNCTUATION CIR",
   "CLE WITH DOTpHALF CIRCLE WITH DOTuTWO CIRCLES WITH DOTSrVERTICAL BARSa WITH DOTSzuHbLID QUILT ",
   "SQUARE ORNAMENTa IN BLACK SQUAREznUSa WITH OVERBARsM SIGNgON WITH RIGHTWARDS ARROW ABOVEzfRA S",
   "OMPENG DIGIT EIGHTfFIVEdOUReNINEeONEdSEVENeIXdTHREEeWOdZEROkLETTER AHcBAHdCAHdDAHdEEHcHcGAHdHA",
   "HdIHcJAHdKAHdLAHdMAEbHdNAHcGAHdYAHeOHcPAHdRAHdSAHdTAHdUHcVAHdYAHvSbUND RECORDING COPYRIGHTwTH ",
   "EAST ARROWa AND SOUTH WEST ARROWuCROSSING NORTH EAST ARROWzTO CORNERjWITH HOOKpBLACK ARROWlDOU",
   "BLE ARROWmPOINTING BUDdLEAFeVINE LEAFsSANS-SERIF ARROWqTRIANGLE-HEADED ARROWa TO BARzdWHITE AR",
   "ROWqWEST ARROWa AND NORTH WEST ARROWuWITH HOOKpBLACK ARROWlDOUBLE ARROWmPOINTING BUDdLEAFeVINE",
   " LEAFsSANS-SERIF ARROWqTRIANGLE-HEADED ARROWa TO BARzdWHITE ARROWuYOMBO CLUSTER-INITIAL LETTER",
   " LAcRAcSAbHAzbFINAL CONSONANT SIGN -AcBbDbGbKbLbMbNaGcRbSaHxGEMINATION MARKpHEAD MARK WITH MOO",
   "N AND SUNa AND FLAMEfTRIPLE FLAMEztLETTER -AcAbBAbHAdCAbHAdDAbDAbHAdHAcZAdGAbHAdHAcJAbHAdKAbHA",
   "cSSAeLAcMAcNAbGAcNAcYAdPAbHAdRAcSAbHAcSAdTAbHAcSAbHAdTAbHAeVAcYAcZAbHAkMARK DOUBLE SHADlPLUTAf",
   "SHADeTSHEGkSIGN ANUSVARAiJIHVAMULIYAlUPADHMANIYAlVISARGAlUBJOINERjTERMINAL MARK-1b2pVOWEL LENG",
   "TH MARKlSIGN AIbUcEbIbOaEcUaEcVOCALIC LbRzcPaAaCEcGHETTIgRKLEaScING HEARTnEAK-NO-EVIL MONKEYpE",
   "Ra WITH CANCELLATION STROKEtONE SOUND WAVEoTHREE SOUND WAVESzING HEAD IN SILHOUETTEyECH BALLOO",
   "NkDBOATgSMILO SIGNlHERICAL ANGLEa OPENING LEFTeUPyIDERa WEBhRAL CALENDAR PADmNOTE PADiSHELLkLA",
   "SHING SWEAT SYMBOLuONGEdOL OF THREADlNcRTS MEDALjUTING WHALEnQUARE A OVER MhARUdMbNPEAePAATOfR",
   "UHUAfUcBAARERUfRcEETAeIRUdORUTOfQbUSSYERUiC OVER KGiALbPcCbDbMa CUBEDfSQUAREDjOaRPORATIONkUPdD",
   "AaASUeBbESIdJbLbMa CUBEDfSQUAREDjORUeEEKAAeRA NAME HEISEIgMEIZIfREIWAfSYOUWAgTAISYOUoGcSUKUUDO",
   "hVcFMbOOTcUR CORNERSmGALbNMAdRONeBbHZcIGAcNIIdRUDAAgPAcURAMUaTONiYcHAaITUeEKUTAARUhRUTUfGbIRAG",
   "ANA HOKAmONbONbRUePaAcUARADDOgIITOeRANeZcIMAGE OFa OR EQUAL TOiNOT EQUAL TOxNaINGUeTIdUcK OHMe",
   "AaIRIdRATTOeORIIgBbCALdEESUeGbHZcIROaGURAMUgMEETORUhWATTOiKbLbMa CAPITALgUBEDfSQUAREDjOOPOdRUN",
   "AfPAcTbUROONEeUZEIROiVbWbYURIIgLEFT OPEN BOX OPERATORvMbNbOGbZENGEgXcM CUBEDfOHMcVER Sa SQUARE",
   "DoSQUAREDiAaHHAdIKUROeRUdNSYONfRUKUfBa SMALLhEETORUfGAaTONgGbHZcIKURONfLbRIaBAARUiLbMa CUBEDfS",
   "QUAREDjOLcPAcSbU AbFbGbLbMbSbVbWdVa MEGAgWa MEGAhNAaNOdFbMbOTTOeSbVbWcONSUdOMUdRIGINAL OFa OR ",
   "EQUAL TOiNOT EQUAL TOzbVcPAa AMPSfASENTOfTUeCbEEZIdNIHIdSUdSOdFbHbIASUTORUhKObURUfMbOINTOeNDOd",
   "SITION INDICATORrPMcRbSbVbWcRADa OVER Sa SQUAREDrEMUcNTOGENhIGHT OPEN BOX OPERATORvRAcTTORUgOO",
   "TdUPIIdUBURUhSAIKURUfNTIIMUhENTIbOeIRINGUgRbVcTARGETfHZcONdUONdV OVER MiWATTOeBbITH BOTTOM HAL",
   "F BLACKrCONTOURED OUTLINErDIAGONAL CROSSHATCH FILLyHORIZONTAL FILLpLEFT HALF BLACKoOWER LEFT D",
   "IAGONAL HALF BLACKyRIGHT DIAGONAL HALF BLACKzgORTHOGONAL CROSSHATCH FILLzbRIGHT HALF BLACKqTOP",
   " HALF BLACKoUPPER LEFT DIAGONAL HALF BLACKtTO LOWER RIGHT FILLyRIGHT DIAGONAL HALF BLACKtTO LO",
   "WER LEFT FILLzfVERTICAL FILLsYAADOcRUeUANfD ASTERISKiCJK UNIFIED IDEOGRAPH-4E00b9c2Dc8CcA4e518",
   "Dd21Dc4Dc72d3CCcF3d408c39d5B6d8F0d91Ac29dB57dDE6dF8Ce624Bc53c95d307c55d599cB0d620d708b9dE80dF1",
   "4e7121d51Fc33d981dA7AdD42e89E3dCA9dD70e904Ad14DzLbOOLeDOT OPERATORmEIGHT KhFALLING DIAGONAL SL",
   "ASHvIVE POINT ONEnOUR DOT PUNCTUATIONpKfREEeHCbDRcI-RESfVcIDcKATAKANA DEcKOKOeSAkEYdLATIN CAPI",
   "TAL LETTER AbBbCbDbEbFbGbHbIbJbKbLbMbNbObPbQbRbSbTbUbVbWbXbYbZqSMALL LETTER DtOGICAL ANDdORiSS",
   "LESSiMINUSeVcNEWcGcOKbNE HUNDRED TWENTY PuPLUSdPVdRISING DIAGONAL SLASHvSALTIREgDbECOND SCREEN",
   "lVEN POINT ONEoHVcIXTY PgMALL CIRCLElOScQUAREfScTHREE DgIMESeWENTY-TWO POINT TWOsO KfUHDcP WIT",
   "H EXCLAMATION MARKyVODcScWCgT BLACK RIGHTWARDS ARROWzIDeS2b3bAcTaADIUMeFF OF AESCULAPIUSlHERME",
   "SmMPED ENVELOPEnNDING PERSONmR AND CRESCENTmEQUALSgOF DAVIDhPERATORiWITH LEFT HALF BLACKpRIGHT",
   " HALF BLACKwT OF GUARDED AREAmHEADINGhPROTECTED AREAoSELECTED AREAmTRINGgTEXTkTIONdUE OF LIBER",
   "TYpEAM LOCOMOTIVElING BOWLkNOGRAPHIC FULL STOPtTHOSCOPEjICK FIGUREa LEANING LEFTeRIGHTnWITH AR",
   "MS RAISEDlDRESSvOCK CHARTiPWATCHhRAIGHT RULERgNESSiWBERRYhESS OUTLINED WHITE STARxICTLY EQUIVA",
   "LENT TOsNG TERMINATORpSbUDIO MICROPHONEoFFED FLATBREADoPAdXcUBaSCRIPT EIGHTeQUALS SIGNlFIVEdOU",
   "ReLEFT PARENTHESISqMINUSfNINEeONEdPLUS SIGNjRIGHT PARENTHESISrSEVENeIXdTHREEeWOdZEROkET ABOVE ",
   "RIGHTWARDS ARROWqSUBSETePERSEToOFa ABOVE ALMOST EQUAL TOpEQUALS SIGNlNOT EQUAL TOmTILDE OPERAT",
   "ORuOR EQUAL TOa WITH DOT ABOVEzbWITH NOT EQUAL TOuWITH DOTdMULTIPLICATION SIGN BELOWzPLUS SIGN",
   " BELOWxTITUTEiCCEEDSa ABOVE ALMOST EQUAL TOpEQUALS SIGNlNOT ALMOST EQUAL TOpEQUAL TOmSINGLE-LI",
   "NE EQUALS SIGNlNOT EQUAL TOzfBUT NOT EQUIVALENT TOvOR EQUAL TOfIVALENT TOqUNDER RELATIONvMMATI",
   "ON BOTTOMgTOPdWITH INTEGRALvNa BEHIND CLOUDmWITH FACEkDANESE AVAGRAHAiCONSONANT SIGN PAMINGKAL",
   "hNYAKRAeIKUfSANGAN MAcWAzbDIGIT EIGHTfFIVEdOUReNINEeONEdSEVENeIXdTHREEeWOdZEROkLETTER AaEcBAbH",
   "AdCAcDAcEaUcFAbINAL KbMhGAcHAcIbJAcKAbHAdLAbEUdMAcNAbGAcYAdObPAcQAcRAbEUdSAbYAdTAcUbVAcWAcXAcY",
   "AcZAjPUNCTUATION BINDU BA SATANGAkCAKRAfDA SATANGAkKA SATANGAkLEU SATANGAlPANGLONGhURNAMAhSURY",
   "AxSIGN PAMAAEHfNGLAYARfWISADgYECEKiVIRAMAlVOWEL SIGN PAMEPETfNAELAENGhEULEUNGhGHULUfOLONGfYUKU",
   "zFLOWERgRISEa OVER MOUNTAINStSET OVER BUILDINGStPERHEROeSCRIPT EIGHTeQUALS SIGNlFIVEdOUReLATIN",
   " SMALL LETTER IbNtEFT PARENTHESISqMINUSfNINEeONEdPLUS SIGNjRIGHT PARENTHESISrSEVENeIXdTHREEeWO",
   "dZEROkET ABOVE LEFTWARDS ARROWpSUBSETePERSEToBESIDE AND JOINED BY DASH WITH SUBSETzfSUBSETnOFa",
   " ABOVE ALMOST EQUAL TOpEQUALS SIGNlNOT EQUAL TOmTILDE OPERATORuOR EQUAL TOa WITH DOT ABOVEzbWI",
   "TH NOT EQUAL TOuPRECEDING SOLIDUSrWITH DOTdMULTIPLICATION SIGN BELOWzPLUS SIGN BELOWyVILLAINkR",
   "FACE INTEGRALmEReSHIcPENSION RAILWAYrWANbSH AMPERSAND ORNAMENTwIMMERfUNG DASHjYLOTI NAGRI LETT",
   "ER AbBHOcOcCHOcOcDDHOcOcHOcOcEbGHOcOcHOcIbJHOcOcKHOcOcLOcMOcNOcObPHOcOcRObROdSOcTHOcObTHOcOdUi",
   "POETRY MARK-1b2b3b4nSIGN ALTERNATE HASANTAqNUSVARAiDVISVARAiHASANTAmVOWEL SIGN AbEbIbOOcUxMBOL",
   " FOR ACKNOWLEDGElBACKSPACEiELLeCANCELeRRIAGE RETURNpDATA LINK ESCAPEpELETEa FORM TWOnVICE CONT",
   "ROL FOUReONEdTHREEeWOsEND OF MEDIUMgTEXTdRANSMISSIONa BLOCKxQUIRYgSCAPEgFILE SEPARATORnORM FEE",
   "DjGROUP SEPARATORpHORIZONTAL TABULATIONvLINE FEEDjMARKS CHAPTERnNEGATIVE ACKNOWLEDGEsWLINEgULL",
   "eRECORD SEPARATORqSAMARITAN SOURCEpHIFT INcOUTiPACEeTART OF HEADINGhTEXTmUBSTITUTEa FORM TWOsY",
   "NCHRONOUS IDLEqTYPE A ELECTRONICSsUNIT SEPARATORoVERTICAL TABULATIONzcMETRYgNaAGOGUEgCHRONOUS ",
   "IDLEoRIAC ABBREVIATION MARKrBARREKHhCOLON SKEWED LEFTeRIGHTqNTRACTIONlDOTTED ZLAMA ANGULARhHOR",
   "IZONTALxEND OF PARAGRAPHpSASA ABOVEfBELOWlFEMININE DOTmHARKLEAN ASTERISCUSkMETOBELUSjOBELUSoBA",
   "SA ABOVEfBELOWg-ESASA DOTTEDrORIZONTAL COLONqLETTER ALAPHfBETHeDALATHfOTLESS DALATH RISHtEbFIN",
   "AL SEMKATHnGAMALa GARSHUNIoHEaTHeKAPHeLAMADHgMALAYALAM BHAdJAcLLAbLAeNGAcNAbNAdYAdRAcSSAdTTAmI",
   "MdNUNdPEaRSIAN BHETHfDHALATHhGHAMALoQAPHeREVERSED PEkISHeSADHEeEMKATHgHINdOGDIAN FEcKHAPHfZHAI",
   "NmUPERSCRIPT ALAPHrTAWcETHa GARSHUNInWAWdYUDHa HEhZAINlMUSICfOBLIQUE LINE ABOVEfBELOWsPTHAHA A",
   "BOVEfBELOWfDOTTEDnQUSHSHAYAjRBASA ABOVEfBELOWkUKKAKHAhWAHAfSUBLINEAR COLONa SKEWED LEFTeRIGHTs",
   "FULL STOPrPRALINEAR COLONa SKEWED LEFTrFULL STOPvTHREE DOTS ABOVEfBELOWpWO VERTICAL DOTS ABOVE",
   "fBELOWxZQAPHA ABOVEfBELOWfDOTTEDqNGE"]

end CharacterName

end TemplateAudit
