/-!
# Scripts

The characters of each script of version 16 of the character database. The extensions of a script
are written as the characters in which they differ from the script.
-/

namespace Alerting.Unicode.Tables

def scripts : List (List String × List String) := [
  (["adlm", "adlam"],
   ["hdeUcYEKEC"]),
  (["ahom"],
   ["ebrCbBCPEX"]),
  (["hluw", "anatolianhieroglyphs"],
   ["essEwL"]),
  (["arab", "arabic"],
   ["chCFBGBOBDBbGBKLbABeEBbIdCbWjGbFBCFcXBbDdntWeLQnZCdCCcCHBbGQeIFBfFfvNbFcPDcDEdglSEBbBBCBBCB",
    "BKBEBBBBGBEBBBBBBDBCBBCBBBBBBBBBBCBBCEBHBEBEBBBKBRFDBFBRcAC"]),
  (["armn", "armenian"],
   ["bzDbMCbYCDdozJF"]),
  (["avst", "avestan"],
   ["dxcYcCDH"]),
  (["bali", "balinese"],
   ["kfWcZBbY"]),
  (["bamu", "bamum"],
   ["clcQdKcvcQvX"]),
  (["bass", "bassavah"],
   ["fhkIbECG"]),
  (["batk", "batak"],
   ["knGcAIE"]),
  (["beng", "bengali"],
   ["dpOEBICCCWBHBBDECJCCCEIBECBFCZ"]),
  (["bhks", "bhaiksuki"],
   ["edoIJBbTBOKbD"]),
  (["bopo", "bopomofo"],
   ["bcSCrlXbReIbG"]),
  (["brah", "brahmi"],
   ["dzaEdAEbKJB"]),
  (["brai", "braille"],
   ["pdWjW"]),
  (["bugi", "buginese"],
   ["jwAbCCC"]),
  (["buhd", "buhid"],
   ["iuYU"]),
  (["cans", "canadianaboriginal"],
   ["hoYyQvOcSdtpQQ"]),
  (["cari", "carian"],
   ["dtyMbX"]),
  (["aghb", "caucasianalbanian"],
   ["duxScALB"]),
  (["cakm", "chakma"],
   ["dzkAcBBS"]),
  (["cham"],
   ["cmjWcDJOCKCE"]),
  (["cher", "cherokee"],
   ["hlGdICGcfjEdC"]),
  (["chrs", "chorasmian"],
   ["dyxCbC"]),
  (["zyyy", "common"],
   ["AcNbAGbAbVBPBFXBbFBrHbNFFCUeMBJBGBBByNBGBOBDBbGBgABtWBeZCbvTBpPElEBcgLDcTChVCBBbvHBNBHEBGBD",
    "CBbdTMCdJBLDLBPRbHcLbMBDCGBbBBRbPDEzQWLVbjSjWyECbGBeBtSdQpMVBBBZPIEEdNCDBdMCfRQbGbMJBbWcMbF",
    "dDbVBdKgMjtOcMbhsIbIdYDgJKjKBgEBpFBOCbezQCiAKWbJBTBEfRBBbGbAGbALKBbTCcMHBHKFjYDEbTDJdCNbZbT",
    "iUbBcshWEfvGjQGqUgAeMcIjMKbNCcKDRICHbEEcJiFUMUMdJJZfFdHBcTBCCBCCCEBMBBBHBcNBECIBHBbCBEBFBBD",
    "HBnCClGCbYhtHcQcYcJbbEbSEdWMPCPBPBbLKgScEbABCNbSEJHCOGfYblWERDNDePEdRGMEBPMEcEIKGbOIbECMECc",
    "KnCMOCNDKFcEHPCLGJHfRBdYbsuxBBbEdS"]),
  (["copt", "coptic", "qaac"],
   ["bmGOpjKeMFH"]),
  (["xsux", "cuneiform"],
   ["efbSbjMdYeHBFLhO"]),
  (["cprt", "cypriot"],
   ["dvzKGCBBbSBCDBCB"]),
  (["cpmn", "cyprominoan"],
   ["ekyYdV"]),
  (["cyrl", "cyrillic"],
   ["bnKfDCgNivOLgEBcYBgfNbGbtoAdSbheCCdhpGcKbHB"]),
  (["dsrt", "deseret"],
   ["dumAdC"]),
  (["deva", "devanagari"],
   ["dkQdDEPCbAcijGbGbreMK"]),
  (["diak", "divesakuru"],
   ["eckUHCBCIBCBbEBCCMJK"]),
  (["dogr", "dogra"],
   ["ecaYcI"]),
  (["dupl", "duployan"],
   ["gmdSeDFNDJHKCE"]),
  (["egyp", "egyptianhieroglyphs"],
   ["eldGbqSKfxR"]),
  (["elba", "elbasan"],
   ["duvWbO"]),
  (["elym", "elymaic"],
   ["dyyYX"]),
  (["ethi", "ethiopic"],
   ["gvGcVBECHBBBECbPBECbHBECHBBBECPBcFBECcPCbGDbAjvAXJHBHBHBHBHBHBHBHbvkCGCGCGJHBHepyFHBEBCBP"]),
  (["gara", "garay"],
   ["dxzCbMDbDIC"]),
  (["geor", "georgian"],
   ["ghSbMBBFBCbRBEejWbRCDgeAbMBBFB"]),
  (["glag", "glagolitic"],
   ["qrGdSgizGHBRCHBCBF"]),
  (["goth", "gothic"],
   ["dueAbB"]),
  (["gran", "grantha"],
   ["eadSEBICCCWBHBCBFCJCCCDCBGBFHCHDF"]),
  (["grek", "greek"],
   ["bhWEBDCEBBEBBBBDBBBUBcLOQjnQFbYFEFdGBmIWCGCbMCGCIBBBBBBBbFCcBBPBOCGBTCDBJlJBcajEBbgnIdBRBda",
    "xRcS"]),
  (["gujr", "gujarati"],
   ["dzLDBJBDBWBHBCBFCKBDBDCBPECMHH"]),
  (["gong", "gunjalagondi"],
   ["eebWGBCBbLBCBGHK"]),
  (["guru", "gurmukhi"],
   ["duNDBGECCWBHBCBCBCCBBFECCDDBHEBBHR"]),
  (["gukh", "gurungkhema"],
   ["fdrScG"]),
  (["hani", "han"],
   ["rpWbABdLMiGbVBBBZJOEblCjtOcMbfbKbhsIoCCeCbsiICMCccoKclfCbGgdUGiOCinQOlbLPxYdqWuWcfYhhZFgfG"]),
  (["hang", "hangul"],
   ["glKjWllECjXdQeJbFcNbFbtaNbDyTqnSMXEbXpaIbFDGCGCGCD"]),
  (["rohg", "hanifirohingya"],
   ["dxwQbOIK"]),
  (["hano", "hanunoo"],
   ["itSV"]),
  (["hatr", "hatran"],
   ["dwiATBCFF"]),
  (["hebr", "hebrew"],
   ["ccVcDIbBEGdovWbABFBBBCBCBK"]),
  (["hira", "hiragana"],
   ["shDdIGDfpeVlBSBbDDymVB"]),
  (["armi", "imperialaramaic"],
   ["dwbWWBJ"]),
  (["zinh", "inherited", "qaai"],
   ["bdOeIkRCrKLbABbcIEgoXbFtTDBNBHEBGBDChQcMuEChMbHftXEeDCczuJQQOblNBiSBgfABctcUbUCXuYDRICHbEEb",
    "tlhIjG"]),
  (["phli", "inscriptionalpahlavi"],
   ["dxgQTFI"]),
  (["prti", "inscriptionalparthian"],
   ["dxfKWCI"]),
  (["java", "javanese"],
   ["cmeYdACKEC"]),
  (["kthi", "kaithi"],
   ["dzfCcPKB"]),
  (["knda", "kannada"],
   ["etCNBDBXBKBFCJBDBEHCGCBECKBD"]),
  (["kana", "katakana"],
   ["skVdMCDjGQiAbVBdKczhEKBbTcouCEBHBCBBlBDbYBOE"]),
  (["kawi"],
   ["eerWRBbPDbD"]),
  (["kali", "kayahli"],
   ["cmaAbUBB"]),
  (["khar", "kharoshthi"],
   ["dwtCEBCFIBDBbDCDEKHJ"]),
  (["kits", "khitansmallscript"],
   ["fjiIBkgXsCbPB"]),
  (["khmr", "khmer"],
   ["ixKdQCKGKsSbG"]),
  (["khoj", "khojki"],
   ["dztWSBbV"]),
  (["sind", "khudawadi"],
   ["eaaQcHFK"]),
  (["krai", "kiratrai"],
   ["fiiIcG"]),
  (["laoo", "lao"],
   ["fmVCBBBFBYBBBXCFBBBHBKCE"]),
  (["latn", "latin"],
   ["cNbAGbAbVBPBFXBbFBrHbNFjxBbMGbXFEFNBcScNjWoFBNBQNfLCGBbBBRbPecTbGbulMdYDcPCCBBBIVObfKbRBJBE",
    "bedQHboKbAGbAdcFGBbQBJddnPbFGG"]),
  (["lepc", "lepcha"],
   ["kpScEDPDD"]),
  (["limb", "limbu"],
   ["jmEbFBMEMEBDM"]),
  (["lina", "lineara"],
   ["dvfSlZJWKI"]),
  (["linb", "linearb"],
   ["dsyQMBbABTBCBPCObIeT"]),
  (["lisu"],
   ["ckkUbWbumAB"]),
  (["lyci", "lycian"],
   ["dtxGbD"]),
  (["lydi", "lydian"],
   ["dwkMbAFB"]),
  (["mahj", "mahajani"],
   ["dznCbN"]),
  (["maka", "makasar"],
   ["eeqQZ"]),
  (["mlym", "malayalam"],
   ["eyANBDBbZBDBGEQCbA"]),
  (["mand", "mandaic"],
   ["ddGbCCB"]),
  (["mani", "manichaean"],
   ["dxaMbNEM"]),
  (["marc", "marchen"],
   ["edsQbGCWBO"]),
  (["gonm", "masaramgondi"],
   ["edyEHBCBbSDBBCBJIK"]),
  (["medf", "medefaidrin"],
   ["fisEdN"]),
  (["mtei", "meeteimayek"],
   ["cmsMXhTbUCK"]),
  (["mend", "mendekikakui"],
   ["hcuYhPCQ"]),
  (["merc", "meroiticcursive"],
   ["dwpKYEUCbU"]),
  (["mero", "meroitichieroglyphs"],
   ["dwoEbG"]),
  (["plrd", "miao"],
   ["fizOcXEcFHR"]),
  (["modi"],
   ["ebhGcRLK"]),
  (["mong", "mongolian"],
   ["jcICCBBUGdLHbRdscBN"]),
  (["mroo", "mro"],
   ["fheUbFBKEC"]),
  (["mult", "multani"],
   ["dzyUHBBBEBPBL"]),
  (["mymr", "myanmar"],
   ["gbOgEcgaYbFdTbGbpaMU"]),
  (["nbat", "nabataean"],
   ["dweIbFIJ"]),
  (["nagm", "nagmundari"],
   ["hbpObQ"]),
  (["nand", "nandinagari"],
   ["ecqYICbUCL"]),
  (["talu", "newtailue"],
   ["jrCbSEbAGLDC"]),
  (["newa"],
   ["eanOdOBF"]),
  (["nkoo", "nko"],
   ["cyIcHCD"]),
  (["nshu", "nushu"],
   ["fjiFByvMpG"]),
  (["hmnp", "nyiakengpuachuehmong"],
   ["haeAbTDOCKEC"]),
  (["ogam", "ogham"],
   ["inObD"]),
  (["olck", "olchiki"],
   ["ksUbW"]),
  (["onao", "olonal"],
   ["hbzKbREB"]),
  (["hung", "oldhungarian"],
   ["dxrSbZNbZHG"]),
  (["ital", "olditalic"],
   ["ducEbKJD"]),
  (["narb", "oldnortharabian"],
   ["dwyAbG"]),
  (["perm", "oldpermic"],
   ["dufGbR"]),
  (["xpeo", "oldpersian"],
   ["duiIbKEO"]),
  (["sogo", "oldsogdian"],
   ["dyqIbO"]),
  (["sarb", "oldsoutharabian"],
   ["dwwUbG"]),
  (["orkh", "oldturkic"],
   ["dxmUcV"]),
  (["ougr", "olduyghur"],
   ["dyuQbA"]),
  (["orya", "oriya"],
   ["eeJDBICCCWBHBCBFCJCCCDHDECBFCS"]),
  (["osge", "osage"],
   ["dusUbKEbK"]),
  (["osma", "osmanya"],
   ["duqYbECK"]),
  (["hmng", "pahawhhmong"],
   ["fhmEcSKKBHBVFT"]),
  (["palm", "palmyrene"],
   ["dwdCbG"]),
  (["pauc", "paucinhau"],
   ["edcAcF"]),
  (["phag", "phagspa"],
   ["clsQcE"]),
  (["phnx", "phoenician"],
   ["dwjGbCDB"]),
  (["phlp", "psalterpahlavi"],
   ["dxhWSHEMH"]),
  (["rjng", "rejang"],
   ["cmbWbKLB"]),
  (["runr", "runic"],
   ["ioUcXDL"]),
  (["samr", "samaritan"],
   ["daUbUCP"]),
  (["saur", "saurashtra"],
   ["clvCcSIM"]),
  (["shrd", "sharada"],
   ["dzoYdS"]),
  (["shaw", "shavian"],
   ["dupCbW"]),
  (["sidd", "siddham"],
   ["ebcIcCCbM"]),
  (["sgnw", "signwriting"],
   ["gwtKzCPFBP"]),
  (["sinh", "sinhala"],
   ["fcZDBSDYBJBBCHDBEGBBBIGKCDdulGU"]),
  (["sogd", "sogdian"],
   ["dysEbQ"]),
  (["sora", "sorasompeng"],
   ["dziEZHK"]),
  (["soyo", "soyombo"],
   ["ecxSdF"]),
  (["sund", "sundanese"],
   ["kkUcMjWI"]),
  (["sunu", "sunuwar"],
   ["edlWbIOK"]),
  (["sylo", "sylotinagri"],
   ["clqEbT"]),
  (["syrc", "syriac"],
   ["cqYOBcICDkML"]),
  (["tglg", "tagalog"],
   ["isMWJB"]),
  (["tagb", "tagbanwa"],
   ["iwENBDBC"]),
  (["tale", "taile"],
   ["jpGbECF"]),
  (["lana", "taitham"],
   ["jxGcLBbDCLGKGO"]),
  (["tavt", "taiviet"],
   ["cmoUcPYF"]),
  (["takr", "takri"],
   ["ebmEcGGK"]),
  (["taml", "tamil"],
   ["ejICBGDDBEDCBBBCDCDDDMEFDDBECBGBOVealHbYNB"]),
  (["tnsa", "tangsa"],
   ["fhgQdBBK"]),
  (["tang", "tangut"],
   ["fjiEBbFjcAIbdOtSJ"]),
  (["telu", "telugu"],
   ["eoENBDBXBQCJBDBEHCBDCBCECKHJ"]),
  (["thaa", "thaana"],
   ["cvWbY"]),
  (["thai"],
   ["fhXcGFbC"]),
  (["tibt", "tibetan"],
   ["frScUBbKEbNBbKBPBHEC"]),
  (["tfng", "tifinagh"],
   ["rcYcEHCOB"]),
  (["tirh", "tirhuta"],
   ["easMcUIK"]),
  (["todr", "todhri"],
   ["dvdGcA"]),
  (["toto"],
   ["hatKbF"]),
  (["tutg", "tulutigalari"],
   ["eaiQKBBCBBbMBKBBCBBEBKBCIC"]),
  (["ugar", "ugaritic"],
   ["duhCbEBB"]),
  (["zzzz", "unknown"],
   ["biECGEHBBBUBpHBbMCbYCDBcDIbBEGLkKBcICdXOcHCbXCPBbCCBBLFbIFjDBICCCWBHBBDECJCCCEIBECBFCZCDBGE",
    "CCWBHBCBCBCCBBFECCDDBHEBBHRKDBJBDBWBHBCBFCKBDBDCBPECMHHBDBICCCWBHBCBFCJCCCDHDECBFCSKCBGDDBE",
    "DCBBBCDCDDDMEFDDBECBGBOVFNBDBXBQCJBDBEHCBDBCCECKHWBDBXBKBFCJBDBEHCFDBECKBDMNBDBbZBDBGEQCbAB",
    "DBSDYBJBBCHDBEGBBBIGKCDMcGEbDbLCBBBFBYBBBXCFBBBHBKCEbGcUBbKEbNBbKBPBNbLhQBBFBCoNBECHBBBECbP",
    "BECbHBECHBBBECPBcFBECcPCbGDbAGdICGCzTDdLHWJYJUMNBDBCMdQCKGKGbAGdLHbRFcSKbFBMEMEBDbQCFLbSEbA",
    "GLDcKCcNBbDCLGKGOCbUCMUcZBgKIcIDPDcKFbRCLIbRFuOCGCbMCGCIBBBBBBBbFCcBBPBOCGBTCDBJBdXBMCbBBND",
    "bIObHPfKEzQWLVcrSCoSFbTBBFBCcEHCOYJHBHBHBHBHBHBHBHBeWbIbABdLMiGbAdCBdICdZFbRBdQBdIJbWBbriRD",
    "cDJnKUhCIiNUcIDKGcEIcSIMGeMLbEDdABLEbHBcDJOCKCdZYbCKGCGCGJHBHBcIEeWCKGqnSMXEbXmnCoCCeCbMHMF",
    "FbABFBBBCBCBzAbGbQGbZBTBEEFBfFCBBhIDGCGCGCDDHBHKFCMBbABTBCBPCObIeTFDEbTDdKBNDBbVbUfAbDDbXPb",
    "CEbKJbEFbRFbEBbLEObQgCCKGbKEbKEbOIcALMBPBHBCBLBPBHBCDcAMlZJWKIYGBbQBJcRGCBBbSBCDBCXBcUIJbWT",
    "BCFbHDbBFbBbMcEEUCbYBCFIBDBbDCDEKHJHcMbGbNEMJcCDbDCbBFbAHEMHdCcVcDbZNbZHbUIKGbMDbDICiAbFBbQ",
    "BDCCQGIJbHbUIbQWbAbMbCUXJdAEbKJcQKBCZHKGcBBSIbNJdSBULSBbVcKHBBBEBPBLGcHFKGEBICCCWBHBCBFBKCC",
    "CDCBGBFHCHDFLKBBCBBbMBKBBCBBEBKBCICbDdOBFbEcUIKgKcCCbMbIcRLKGNTcGGKGUbCbBCPEXhDcIdWdFMICBCI",
    "BCBbEBCCMJKcSICbUCLbBcUIdFNcVHKdIIdKbIOKGJBbTBOKbDDbGCWBOcVHBCBbSDBBCBJIKGGBCBbLBCBGHKGbSEK",
    "jMZHRBbPDbDdHBPbYNbjNdYeHBFLhOdxKdVNbqSKfxRFwLkdDcGcoSvXHbFBKEdDBKGbECGKcSKKBHBVFTqQcGhQdNF",
    "ZCZbScXEcFHRcMFLHJkxYbPbGdTeLmwREBHBCBlFPBbDDCBOEIpGdkUeDFNDJHKCIfvGjTDqUGXPRPbUCXJeMcIjMKb",
    "NChMVcSeSUMUMdJJZfFdHBcTBCCBCCCEBMBBBHBcNBECIBHBbCBEBFBBDHBnCClGCbbAPFBPbqMbFGGiFHBRCHBCBFF",
    "cKbHBeIbTDOCKECmIbFRcGFBrWbQiGbREBhKbFBWICiQHBEBCBPBhPCQbPcYEKECbeFcQcYcJhMEBbBBCBBCBBKBEBB",
    "BBGBEBBBBBBDBCBBCBBBBBBBBBBCBBCEBHBEBEBBBKBRFDBFBRcACkKbSEdWMPCPBPBbLKgScEbDNbSEJHCOGfYblXD",
    "RDNDiKGMEBPMEcEIKGbOIbECMECOJbNnGIOCNDLDcFBBEQCMEKHfRBdZbnPclfCbGgmOCioCClbLPxYdqWuWcfYhhZF",
    "moObogoDBbEdSeYjGlecU"]),
  (["vaii", "vai"],
   ["ckmQlO"]),
  (["vith", "vithkuqi"],
   ["dvaELBPBHBCBLBPBHBC"]),
  (["wcho", "wancho"],
   ["havGcGFB"]),
  (["wara", "warangciti"],
   ["echCdFMB"]),
  (["yezi", "yezidi"],
   ["dylKbQBDCC"]),
  (["yiii", "yi"],
   ["cipKbsVDcD"]),
  (["zanb", "zanabazarsquare"],
   ["ecuQcU"])]

/-- Where the extensions of a script differ from the script. -/
def scriptExtensions : List (List String × List String) := [
  (["adlm", "adlam"],
   ["ciHBbGBjwOBfhHB"]),
  (["arab", "arabic"],
   ["chOBOBDBbGBKLbABjuSBfhHBdakACcdKbC"]),
  (["armn", "armenian"],
   ["bdWB"]),
  (["avst", "avestan"],
   ["hBBrfSC"]),
  (["beng", "bengali"],
   ["baYBcmUCRChjEBBBCCBBIBIBCBEBCDcbaFB"]),
  (["bopo", "bopomofo"],
   ["bbJBBDNBrcPDEKBNKECBGBhNBcztHCkWF"]),
  (["bugi", "buginese"],
   ["cmhZB"]),
  (["buhd", "buhid"],
   ["iuNC"]),
  (["cari", "carian"],
   ["hBBlzMBCBfgDB"]),
  (["aghb", "caucasianalbanian"],
   ["bdSBbSBbSB"]),
  (["cakm", "chakma"],
   ["dtMKckEK"]),
  (["cher", "cherokee"],
   ["bdODBBGCWCLC"]),
  (["zyyy", "common"],
   ["hBBtWBKBBDBBJBBBfYBzNBOBDBbGBbeXCcwRBcgLDcTChVCBBbvHBNBHEBGBDCBbfOBbFBKBCBffDBYCKBEBBBqMQBD",
    "CBBKBNQGBBEEdNCDBdMCfRQbGbMJBbWbOcEbXPMbZBdKZKFdSbFbroJIlKKjKBgEBbfpMCkBCkWFKBbTCnODEbTDJqB",
    "bBcshWEipWSlrYC"]),
  (["copt", "coptic", "qaac"],
   ["hBBwMBDCBBeECqdTBdcpCbC"]),
  (["cprt", "cypriot"],
   ["dtiMDEbTDJ"]),
  (["cpmn", "cyprominoan"],
   ["dtiMC"]),
  (["cyrl", "cyrillic"],
   ["baYBcPDBBBBBBCBFBoHCjqNBgeKB"]),
  (["deva", "devanagari"],
   ["baYBcmUCRChjEbNBCbnABbzfRK"]),
  (["dogr", "dogra"],
   ["doMMcidCK"]),
  (["dupl", "duployan"],
   ["hBBwTCBBYCqiHBfuwPE"]),
  (["elba", "elbasan"],
   ["hBBwRB"]),
  (["ethi", "ethiopic"],
   ["beCB"]),
  (["gara", "garay"],
   ["chOBOBDB"]),
  (["geor", "georgian"],
   ["hBBbvLBeiRBfvIBfgGB"]),
  (["glag", "glagolitic"],
   ["hBBwPBBBoSBCBjXBeiRBfvIBfgYBbtnFB"]),
  (["goth", "gothic"],
   ["hBBwQCCBbOB"]),
  (["gran", "grantha"],
   ["dnTCRCyQOgkABBCbEDDCbnABdntQBetWCBB"]),
  (["grek", "greek"],
   ["hBBwMCCBBBBBKBbUBCBbUBjyXCzRB"]),
  (["gujr", "gujarati"],
   ["dnTCRCcidMK"]),
  (["gong", "gunjalagondi"],
   ["hBBdhKC"]),
  (["guru", "gurmukhi"],
   ["dnTCRCcidMK"]),
  (["gukh", "gurungkhema"],
   ["doNB"]),
  (["hani", "han"],
   ["hBBrwYQBDCBBKBNKECBGBEEhFBfSQbGbMJBbWbOcEbXPMbZBdKZKFdSbFbroJIbhaZCkWFdchESlrYC"]),
  (["hang", "hangul"],
   ["seRDEKBNQBGBhNBcztHCkWF"]),
  (["rohg", "hanifirohingya"],
   ["chOBOBDBbGBfRB"]),
  (["hano", "hanunoo"],
   ["iuNC"]),
  (["hebr", "hebrew"],
   ["bdVC"]),
  (["hira", "hiragana"],
   ["seRDEKBNQGBBECdNEDBdMCcztGCkWFKBbTC"]),
  (["zinh", "inherited", "qaai"],
   ["bdOPBCBBPDHCBCQBCBSBFBENkRCrKLbABbcIChjXDBNBHEBGBDChQCcCBBBbdDBftXEeDCdbqJBgfAB"]),
  (["java", "javanese"],
   ["cmhZB"]),
  (["kthi", "kaithi"],
   ["doOKnxXBbufEK"]),
  (["knda", "kannada"],
   ["dnTCRChjEBBCGBXBBBcasXG"]),
  (["kana", "katakana"],
   ["bdTBbDBqzTDEKBNQGBBECdNEDBdMCcztGCkWFKBbTC"]),
  (["kali", "kayahli"],
   ["cmbUB"]),
  (["khoj", "khojki"],
   ["edIKchoIK"]),
  (["sind", "khudawadi"],
   ["doMCcidMK"]),
  (["latn", "latin"],
   ["hBBtWBKBBDBBJBBBbMPBCBBPDHCBCbMBFBENkRCbvECcxKBexWBvUBhKBezMBbtuMIvEB"]),
  (["limb", "limbu"],
   ["doNB"]),
  (["lina", "lineara"],
   ["dtiTbT"]),
  (["linb", "linearb"],
   ["dtiMDEbTDJ"]),
  (["lisu"],
   ["baYBQBrdKC"]),
  (["lyci", "lycian"],
   ["mgOB"]),
  (["lydi", "lydian"],
   ["hBBrfTB"]),
  (["mahj", "mahajani"],
   ["hBBdhKMcidCK"]),
  (["mlym", "malayalam"],
   ["dnTCRChjOBXBcasZD"]),
  (["mand", "mandaic"],
   ["cjOB"]),
  (["mani", "manichaean"],
   ["cjOB"]),
  (["gonm", "masaramgondi"],
   ["doMC"]),
  (["mero", "meroitichieroglyphs"],
   ["mgRB"]),
  (["modi"],
   ["clsAK"]),
  (["mong", "mongolian"],
   ["jcKCBBdcJBfzTCFE"]),
  (["mult", "multani"],
   ["dyKK"]),
  (["mymr", "myanmar"],
   ["cmbUB"]),
  (["nand", "nandinagari"],
   ["dnTBSCbiMKgbHBIBHBcasRG"]),
  (["newa"],
   ["dnTChkCBBCJBGBBBBB"]),
  (["nkoo", "nko"],
   ["chOBOBDBdppEC"]),
  (["onao", "olonal"],
   ["doMC"]),
  (["hung", "oldhungarian"],
   ["mgOBCBfgDBPB"]),
  (["perm", "oldpermic"],
   ["hBBwMBFDKBoDB"]),
  (["orkh", "oldturkic"],
   ["mgOBfgFB"]),
  (["ougr", "olduyghur"],
   ["cjOBdusVB"]),
  (["orya", "oriya"],
   ["dnTCRChjOBXB"]),
  (["osge", "osage"],
   ["bdPBCBGBcYB"]),
  (["phag", "phagspa"],
   ["jcKCBBdcJBfzUB"]),
  (["phlp", "psalterpahlavi"],
   ["cjOB"]),
  (["runr", "runic"],
   ["irRD"]),
  (["samr", "samaritan"],
   ["rmVB"]),
  (["shrd", "sharada"],
   ["dnTBhkFBBBCCCBJBCBcatEGCB"]),
  (["shaw", "shavian"],
   ["hBB"]),
  (["sinh", "sinhala"],
   ["doMChkMB"]),
  (["sogd", "sogdian"],
   ["cjOB"]),
  (["sunu", "sunuwar"],
   ["bdOCBBJBCBbCBDB"]),
  (["sylo", "sylotinagri"],
   ["doMCeYK"]),
  (["syrc", "syriac"],
   ["bdRCCCBBYDHCBCbcCBOCCBbGBKLbABixRBBB"]),
  (["tglg", "tagalog"],
   ["iuNC"]),
  (["tagb", "tagbanwa"],
   ["iuNC"]),
  (["tale", "taile"],
   ["bdOCFCDBezZK"]),
  (["takr", "takri"],
   ["doMCcidMK"]),
  (["taml", "tamil"],
   ["dnTCRChjOBcbbKBboeFBBBcDC"]),
  (["tang", "tangut"],
   ["seAQtBB"]),
  (["telu", "telugu"],
   ["dnTCRChjJCBBBBXB"]),
  (["thaa", "thaana"],
   ["chOBOCCBcMKdptGBKB"]),
  (["thai"],
   ["baYBbABbRBbTB"]),
  (["tibt", "tibetan"],
   ["seYE"]),
  (["tfng", "tifinagh"],
   ["bdQBBBBEZB"]),
  (["tirh", "tirhuta"],
   ["dnTCRChjJBMBPBcasZK"]),
  (["todr", "todhri"],
   ["bdPBCBCBJBBBcWB"]),
  (["toto"],
   ["baYB"]),
  (["tutg", "tulutigalari"],
   ["exAKgbQBBBcasXGhFB"]),
  (["yezi", "yezidi"],
   ["chOBOBDBcMK"]),
  (["yiii", "yi"],
   ["seRCFKCIiPBdaeFF"])]

end Alerting.Unicode.Tables
