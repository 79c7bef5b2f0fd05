/-!
# General categories

The characters of each general category of version 16 of the character database, but for those that
are not assigned, which are the rest. A category has all its names, without case, blanks, hyphens
and low lines.
-/

namespace Alerting.Unicode.Tables

def categories : List (List String × List String) := [
  (["lu", "uppercaseletter"],
   ["cNbAdXXBHbHBBBBBBBBBBBBBBBBBBBBBBBBBBBBBBBBBBBBBBBBBBBBBBBBBBBBBBBCBBBBBBBBBBBBBBBCBBBBBBBB",
    "BBBBBBBBBBBBBBBBBBBBBBBBBBBBBBBBBBBBBBCBBBBDCBBBCBDCEBCBDDCBCBBBBBCBBCBBCBDBBBCDBHBCBCBCBBB",
    "BBBBBBBBBBBBCBBBBBBBBBBBBBBBBBCBCBBDBBBBBBBBBBBBBBBBBBBBBBBBBBBBBBBBBBBBBBBBBBBBBBBBBBBBBBB",
    "BBBHCBCCBBEBBBBBBBBlDBBBDBIBGBBDBBBCBRBJbJBCDDBBBBBBBBBBBBBBBBBBBBBBBFBCBBCCbZbWBBBBBBBBBBB",
    "BBBBBBBBBBBBBBBBBBBBBBJBBBBBBBBBBBBBBBBBBBBBBBBBBBBBBBBBBBBBBBBBBBBBBBBBBBBBBCBBBBBBBBBBBBC",
    "BBBBBBBBBBBBBBBBBBBBBBBBBBBBBBBBBBBBBBBBBBBBBBBBBBBBBBBBBBBBBBBBBBBBBBBBBBBBBBBBBBBBBBBBBBB",
    "BBBBCbMehDbMBBFBbbUdIdgLBGbRCDmIBBBBBBBBBBBBBBBBBBBBBBBBBBBBBBBBBBBBBBBBBBBBBBBBBBBBBBBBBBB",
    "BBBBBBBBBBBBBBBBBBBBBBBBBBBBBBBBBBBBBBBBBBBBBBBBBBBBBBBBBBBBBBBBBBBBBBBBBBBBBBBBBBBBBBBBBBJ",
    "BBBBBBBBBBBBBBBBBBBBBBBBBBBBBBBBBBBBBBBBBBBBBBBBBBBBBBBBBBBBBBBBBBBBBBBBBBBBBBBBBBBBBBBBBBB",
    "BBBBBBJIIGKIIIIGLBBBBBBBIIcUEMEMEMFLEkCBEBDDCDCBDFGBBBBBBECEKCFBcJBdzGbWbWBBDCBBBBBBEBBCBID",
    "BBBBBBBBBBBBBBBBBBBBBBBBBBBBBBBBBBBBBBBBBBBBBBBBBBBBBBBBBBBBBBBBBBBBBBBBBBBBBBBBBBBBBBBBBBB",
    "BBBBBBBIBBBEBbtyJBBBBBBBBBBBBBBBBBBBBBBBBBBBBBBBBBBBBBBBBBBBBBTBBBBBBBBBBBBBBBBBBBBBBBBBBBf",
    "FBBBBBBBBBBBBBDBBBBBBBBBBBBBBBBBBBBBBBBBBBBBBBBBBBBBBBBBBBBBBBBBBBBBBBBBBBBBKBBBBCBBBBBBBBE",
    "BBBCBBBDBBBBBBBBBBBBBBBBBBBBFBFBBBBBBBBBBBBBBBEBBBCDBFBBBBBBBYBbhaHbAbuZbOfGbKgALBPBHBCcqCb",
    "ZgBWegObGbgjWbGbmmQbAbAbAbAbAbABBCCBCCCEBIbAbAbACBECIBHbBCBEBFBBDHbBbAbAbAbAbAbAbAbAbAbAbAb",
    "EZbHZbHZbHZbHZbHBgnLbI"]),
  (["ll", "lowercaseletter"],
   ["dTbAcGBbPYBIBBBBBBBBBBBBBBBBBBBBBBBBBBBBBBBBBBBBBBBBBBBBBBBBBBBBBBBCBBBBBBBBBBBBBBBCBBBBBBB",
    "BBBBBBBBBBBBBBBBBBBBBBBBBBBBBBBBBBBBBBBCBBBBDCBBBCBDCEBCBDDCBCBBBBBCBBCBBCBDBBBCCCDGBCBCBBB",
    "BBBBBBBBBBBBBCBBBBBBBBBBBBBBBBBCCBBBDBBBBBBBBBBBBBBBBBBBBBBBBBBBBBBBBBBBBBBBBBBBBBBBBBBBBBB",
    "BBBBHCBCCBBEBBBBBBBBcRCbAhLBBBDBDDSBbBbJBCDDBBBBBBBBBBBBBBBBBBBBBBBFBBCBCCbZbWBBBBBBBBBBBBB",
    "BBBBBBBBBBBBBBBBBBBBBJBBBBBBBBBBBBBBBBBBBBBBBBBBBBBBBBBBBBBBBBBBBBBBBBBBBBBCBBBBBBBBBBBBCBB",
    "BBBBBBBBBBBBBBBBBBBBBBBBBBBBBBBBBBBBBBBBBBBBBBBBBBBBBBBBBBBBBBBBBBBBBBBBBBBBBBBBBBBBBBBBBBB",
    "BBBbWbPehBbRCDbdGGdfUJBBeNbScLNBbIdYBBBBBBBBBBBBBBBBBBBBBBBBBBBBBBBBBBBBBBBBBBBBBBBBBBBBBBB",
    "BBBBBBBBBBBBBBBBBBBBBBBBBBBBBBBBBBBBBBBBBBBBBBBBBBBBBBBBBBBBBBBBBBBBBBBBBBBBBBBBBBBBBBBBBBB",
    "BBJBBBBBBBBBBBBBBBBBBBBBBBBBBBBBBBBBBBBBBBBBBBBBBBBBBBBBBBBBBBBBBBBBBBBBBBBBBBBBBBBBBBBBBBB",
    "BBBBBBBBBJIGKIIIIGKIIIIOCIIIIIIFBCGBDDBCIECCIIKDBCkOBDCDBbBBEBEBCCIEEBcBBebBbWBBDCBBBBBBEBB",
    "CBGFBBBBBBBBBBBBBBBBBBBBBBBBBBBBBBBBBBBBBBBBBBBBBBBBBBBBBBBBBBBBBBBBBBBBBBBBBBBBBBBBBBBBBBB",
    "BBBBBBBBBBBCHBBBEBMbMBBFBbtwDBBBBBBBBBBBBBBBBBBBBBBBBBBBBBBBBBBBBBBBBBBBBBTBBBBBBBBBBBBBBBB",
    "BBBBBBBBBBBfFBBBBBBBBBBBBDBBBBBBBBBBBBBBBBBBBBBBBBBBBBBBBBBBBBBBBBBBBBBBBBBBBBBBBBBBBBBBBIB",
    "BBBCBBBBBBBBBEBBBCBBDBBBBBBBBBBBBBBBBBBBBFBFBBBBBBBBBBBBBBBEBBBCBDBBBBBBBBBBBbABDBbfPbRFJHd",
    "CbeaIHMFboZbAbvHbOfGbKfZLBPBHBCcrBbZeVWegObGbgjWbGbmmKbAbAHBSbAbAbAEBBBHBLbAbAbAbAbAbAbAbAb",
    "AbAbAbAbAbAbAbAbAbCbCZBGbAZBGbAZBGbAZBGbAZBGBBcsYKBUGGduDbI"]),
  (["lt", "titlecaseletter"],
   ["rLBCBCBbMBlfHIIIIIMBPBbVB"]),
  (["lm", "modifierletter"],
   ["baMSEMOFHBBBfDBFBsKBiWBgICkJCEBbFBJBDBgEBgLBbvOBeXBvTBcpMBeDBxNBrWGgScLNBbIbLbaNBNBQNemXCjH",
    "BhJBsBBbRFFBdTCdPDbqbUBbwCGkKBeKBbCCeRJdCBXBeBDDCsBBWBfHBeEBVCdZEJBbfvIBbTCczOGBbQBJccXBbGB",
    "bjnSEtODbOCvENcMCBBygQEBHBCsgNcKhTHbkFBbrBB"]),
  (["lo", "otherletter"],
   ["gOBPBjWBEEiACbfUbBEEbTbGBKbJCBdVBBYCKDCBQBBbEbDdLLBYbHVWbQZHLFYBGRbPcHcCDBSBHKQPEICCCWBHBBD",
    "EDBQBNCBDOCKBIGECCWBHBCBCBCbFEBBTDQJBDBWBHBCBFDBSBPCXBLICCCWBHBCBFDBbECBDPBRBBGDDBEDCBBBCDC",
    "DDDMWBcAIBDBXBQDBbADCBCCbEBEIBDBXBKBFDBbFCBCPCRJBDBbPCBQBFDIDYGFSDYBJBBCHcGbWBCMGcHCBBBFBYB",
    "BBKBCJBCFXEbGBcLIBbKbBFeLbRUBQGEEDBDCHDENMBeJmRBECHBBBECbPBECbHBECHBBBECPBcFBECcPbLQeJxWCRB",
    "bAFcXGIHSNTOSONBDPcAbOBcPbJBcBHFCbIBBFcSKbFbXbECFLbSEbAcCXJcBgUbVRIcCbENCKbSbAbKbPDKbEeJEBG",
    "BCDBbpQEenVcEYXJHBHBHBHBHBHBHBHvFBcBBEdIIBBdMEBFbRBdQRbGbWQtSjtOcMbfcFBbrZcPbOIkIEQKCcOBbXc",
    "SgNBdZBDHBDBEBXbDcAObYcKGDBBCLbCKXZbDHbVbTFCJKFBbPXDBIUQBGDBDbYBBDCCFCBBBYCDLHBOGCGCGJHBHfP",
    "bJbDqnSMXEbXmnCoCCeCcPBBKBNBFBBBCBCBeEbHnZScMCcCbOMeMFBfFeBKBbTCbFDGCGCGCDbJMBbABTBCBPCObIe",
    "ToZbDDbXbVbGNUBIGbMKbECbKEIeYdAdUbOIcAdOcAMlZJWKIfWGCBBbSBCDBCXKXJbFcNTBCKWKbAcScEGCcMBPEBD",
    "BbDbQbDDbDbJIBbCbBcCKWKTNSeGcVhBbKbMEBBlSbQGCQDcHbDKBIWbQSbUVbBXMcBcFCCBNbTbGZbAbKbDBCBIbJD",
    "BMbWOEVBBBbJSBZTCcLHBBBEBPBKHbVbMICCCWBHBCBFDBSBMFbEKBBCBBbMBBZBBBbScBSEUDbEbWUCBBhCbVbPEbK",
    "bWUBcHbRNBcTbBbLHhDbSiDICBCIBCBYPBBBdQICbNQBBBbCBKbOHBVBLbUTBScVhRbHbFJBbLRBbXbEeIHBCBbMVBZ",
    "GBCBbGOBmPTPBBNBbIeUBdBbjMiWhOdxKdTPbpGRGZfxRFwLkdDbEcpUvXHbFRdBRbESbWbZVFTqTbOpPcXFBgTjcAI",
    "bvQbPKngHlFPBbDDCBOEIpGdkUeDFNDJHKnbCBtHbTbHBmJbESbSsQbBiVbECBtBHBEBCBPBhPbzNEBbBBCBBCBBKBE",
    "BBBBGBEBBBBBBDBCBBCBBBBBBBBBBCBBCEBHBEBEBBBKBRFDBFBRgoAclfCbGgdUGiOCinQOlbLPxYdqWuWcfYhhZFg",
    "fG"]),
  (["mn", "nonspacingmark"],
   ["bdOeIkPFkFbTBBBCBCBBcULbWVQBdXHCGCCBEbJBbEbBdNLcGJJBYEBJBDBFbRDcHJbQYBbGcDBBBEIEBDHKCbDBcGB",
    "EEIBUCbABCCcFBECECCDDBbECDBLCcFBEFBCEBUCWGBBcGBCBBEIBHCLCbEBcJBMBbYBDBcDBBDFDBEHCLCbDBcGBCB",
    "GBFCUCbCCcFCEEIBUCbDBcUBHDBBdMBCHMIdUBCJLHcVCbBBBBBBcDOBFBCFLBbKJBdYEBGBCCCZCEDQENBCCGBPBbb",
    "BDbkKDbDCbECbECcMCBHIBCLJBbTDBBeNCbIBeODECJBGDiLCCBcGBBHBBBBCIGKCBbWOBQbXEbWBBFBBFBbOJMCbGE",
    "CCBDcEBBCDBBDcGICCfWDBNBHEBGBDChQcMbbSNEBDMeoCDfLBdSbGvIEeDCbsqEBEKbGCdCCkMBDBEBZCFBfVCbASN",
    "BbMIZLbUDbWBCECCbNBcPGCCCCMBIBbVBbZBBDCCFCBBbQCIBjEBCBEBbdzSBbcJQQQblLBiSBfTFcmGDBCFEbODEBg",
    "JCwBEcNFmFCdBEcSLbXEeTBcCPbPBCCKDbXECCHBcJDbKFBIcKBMCcAJKECBdRDCBBCGBCBgBBDIVCcFCDBbLHDFcSG",
    "NBBBBBOCdHICDBBXBdGGBBECBCjEEGCBCbBCdHICBBCeCBBBCGBBdXBBBCEBFjZJBCjWCBBEBfOECCEBbGKbOGCEIBJ",
    "GCDbUNBCpQHBGBBdEWCHBCBCeSGDBBCBHBBcUCDBBBnJCLCcAFFBBBXBhxTBGPqyYMDDdsAFcHHboIBcLEdDBbdbKCg",
    "yZbUCXuYDRICHbEEfSDcyDcDEbYIBOBWFBPcaIHBRCHBCBFdWBgEHoLBcJEtOEjUCbcIHeFHbtciVjG"]),
  (["mc", "spacingmark"],
   ["dkTBcDBCDIEBCbYCcGDGCCCKBbRBcGDcOBcGDIBBCcBCcGBBBGCCCKBdYCBCDDBDKBbPDcJEcJCcGBBFCCBCJCbCBOC",
    "cGDFDBDKBbQCcXDGISCmSCcLBgPCEBGBCCZCKDCHVCCGCBKDclSBbEBeZBHIBCnIECDECBGiQCcGBBBJBBCIGfPBbWB",
    "FBBFBCcJBbEBECCBcIBCDBBDCbWIICgPBVBhhECbtlBCCBdKCbYQfMCbVBbWCECCDeGCCCYBbTBBBeFBCCFBjDCBCBC",
    "BBblxJBBBeXBbTDECeLBYCcHBbWDJCNBdPDDCBBgODbFCcGCBECCCDJBKCdGDHBCBBEBCBBdXDICDBeCDGBBECBjDDG",
    "ECBeJDICBBeFBBCGBdZBBCEBkBDJBjNGBCEBCBBBfMDIEEBdGBbDCcKBpRBOBeCBHBCBiFFECBBnMCMBbWCICBByyYD",
    "fjGcDeACbkxNCGG"]),
  (["me", "enclosingmark"],
   ["bsQCikQBciGEBDbyoXD"]),
  (["nd", "decimalnumber", "digit"],
   ["bWKciOKfEKhQKpWKeOKeOKeOKeOKeOKeOKeOKeOKeOKdSKeOKcSKkSKcSKctQKbMKlOKeYKgKKGKhAKdIKfEKGKcaeO",
    "KbaCKbMKhQKWKdIKpQKbfmCKccKKdfYKGKbeQKeYKcIKfOKkSKnEKeOKoKKdYKGUcYKqGKdYKzMKdIKjMKcSKqGKyyG",
    "KdmCKdIKfEKuOKbkdYKecQbYdnCKqGKtIKjNKbgVKhbAK"]),
  (["nl", "letternumber"],
   ["irUDdyTbJCEfmSBZJODbsyLKbifGcBrSBIBfEFmeSeH"]),
  (["no", "othernumber"],
   ["gWCFBCDdmRGoMGeQDfDHiJHRJqRKbpLUbrVKsMBcmVBDGGKhQQbPBbbYcIdAWyGbEcbHBbtCEfIKbEIBPbGKbNPbsmI",
    "GbhqNbTcNERCnDbBbKEbzGIZHbNJcXFWGgECCQCbUcMJcACbEDcXFeAIYIbPHmSGnObFgCKbQEeIHfEUoPUbzXCqOJb",
    "hNTbgTVbcpQHbeSXblyFUMUeEZibUJbjTcHBDBEcYbTBPblAN"]),
  (["pc", "connectorpunctuation"],
   ["dRBmbVCTBdgaOCYDjFB"]),
  (["pd", "dashpunctuation"],
   ["bTBcaUBbZBfkJBbnPBdbDGfhXBCBbFCEBbCBrEBTBeHBczwACbLBKBgNBflOBmGB"]),
  (["ps", "openpunctuation"],
   ["bOBbYBbFBfpEBBBcuOBdpMBDBbMBcDBPByKBBBbEBbpUBBBBBBBBBBBBBdCBbGBBBBBBBBBpOBBBBBBBBBBBBBBBBBB",
    "BBBcMBBBbHBboVBBBBBBBZBSBBBBBBBqMBBBBBBBBBDBBBBBBBCBczrTBiHBbDBBBBBBBBBBBBBBBDBRBBBBBgOBbYB",
    "bFBDBCB"]),
  (["pe", "closepunctuation"],
   ["bPBbZBbFBfpDBBBcuOBdrDBcDBPByKBBBbEBbpUBBBBBBBBBBBBBdCBbGBBBBBBBBBpOBBBBBBBBBBBBBBBBBBBBBcM",
    "BBBbHBboVBBBBBBBbSBBBBBBBqMBBBBBBBBBDBBBBBBBCCczrQBiJBbDBBBBBBBBBBBBBBBDBRBBBBBgOBbZBbFBCBC",
    "B"]),
  (["pi", "initialpunctuation"],
   ["gPBlxKBCCCBZBffSBBBEBCBPBDB"]),
  (["pf", "finalpunctuation"],
   ["hFBlwVBDBbCBffSBBBEBCBPBDB"]),
  (["po", "otherpunctuation"],
   ["bHDBDCBBBBCKCDCbBBcQBFBOCHBbbABIBrYGbPBcCBCBCBbSCUCBCNBBDcWEdYBbROiZDcCPbFBkBCKBfKBeQBeRBpA",
    "BMBoDBdMBKCgMPBBeIBcWFECeHGgPBxOJbdTBeUDcTCgBDBDbLGBEmBCiICeYHBGgECKHbCDeUEcHFcKCcMILBbgCCI",
    "IIJCECDDLBBBKeuCEBCeIBfNCEDCBCJBCBBCCKFBKCEBBBNCDqMDcFBhHBbryGCkJDdVBKBeLGoQEdICbODBBbXCbVB",
    "dTNQCeUEeWCQCjPBbfcUHCBWBUCCEDDBEHDGBBCfTDBDCBBBBCKCDCbBBbKBCCpUDzSBbWBpYBbcPBhRBbFBkMJbMBe",
    "IHcOHdLEbkQFbSEhHHeFCBEeWEbWCdBEEBNBBDdKGeDBlMCBCeKFKCBBeABjQXeBDbCNcYBfADjSBkEDfZBdOIdFDBF",
    "dPKiHBdRFbQCyVCcWNgTBbrSFejCCwdVCfDBcNFIBvGDlJEmPBbdbOBliLFeiTBbhEC"]),
  (["sm", "mathsymbol"],
   ["bRBQDcJBBBbTBEBbLBbFBbdMBuHDjyHBNBbNDNDfJBbNFGBcQFFCEBCBCBHBbFCCBBBbFkIbGCdMBbEZbOGsBBJBcCI",
    "eHBmYFCbFKQjWfBWcLEbGCjYbWVCGdasQBbfSBBDgIBQDcJBBBfBBGEfeFCcyeZBZBbFBZBbFBZBbFBZBbFBZBiuEC"]),
  (["sc", "currencysymbol"],
   ["bKBeVEbwJBeTBtECtECHBjLBkDBwJBdqPBdiIbHbzhVBbgmLBeEBfYBiLCDCmcSEcvxEBdrKB"]),
  (["sk", "modifiersymbol"],
   ["dQBBBcTBGBEBDBuBEMOFHBBBReNBOCbxIBiuMBBDLDNDNDNCghOCbsvRXJCdZCblOBOCbekKRbiHBBBgGBdolJF"]),
  (["so", "othersymbol"],
   ["gKBCBEBBBblPBkGCeXChYBKBTCjNBtVBoJBfAGBBfCBhZBbPBpBDPBBDCGUBBBBBfDIBGBCFEhPCbcYKbbVBbbUBgBb",
    "InPKJJccHCBEBCKBBCGGBBBBBBEBLCOBBCBBcGCJFCEBCBCBHBbFCCBBBbFkIIEUCHCdDBbEZbOGcUWLdDdAWhBBJBc",
    "CIeHBjObSbScMjWtSbWVCGbNCbGBeBiVGnTCbUbABdLMiGbAQEBNCMBVCGCmYCEKbGbMJBQbFLbEIBPbGKbNPmIjtOc",
    "MbguIcDbhHEKCBBwBDbfjAQeXBbTDsQBDBECNCmBJcFRCDBNDBbVbTclUCwTBesSBdgNIERbcnIEFBbeuWBfvNjGQqU",
    "gAeMcIjMKbNCcIFDWCHbEEcJVcODBhEdJbtXtScDEbYIBOBCcoUBehWBeZBbbTbSEdWMPCPBPBbLXgFcEbDNbSEJHCO",
    "GfYjRFbcAERDNDePEdRGMEBPMEcEIKGbOIbECMECcKnCMOCNDKFcEHPCLGJHfRBdO"]),
  (["zs", "spaceseparator"],
   ["bGBeXBihJBdpNLbKBbVBfxWB"]),
  (["zl", "lineseparator"],
   ["meQB"]),
  (["zp", "paragraphseparator"],
   ["meRB"]),
  (["cc", "control", "cntrl"],
   ["AbGdRbH"]),
  (["cf", "format"],
   ["gRBcaKGWBhKBbXBoUCdCBftJBdaQFbAFbXFBKdghJBjPDgiZBPBnkKQbzqUEhwXIbtkzMBbEdS"]),
  (["co", "privateuse"],
   ["dgvOjmEcahxOdsyOCdsyO"])]

end Alerting.Unicode.Tables
