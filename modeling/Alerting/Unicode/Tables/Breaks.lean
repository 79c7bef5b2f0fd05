/-!
# Text boundaries

The classes of characters that decide where graphemes, words and sentences end, in version 16 of the
character database.
-/

namespace Alerting.Unicode.Tables

def graphemeBreaks : List (List String × List String) := [
  (["cr"],
   ["NB"]),
  (["cn", "control"],
   ["AKBCBSdRbHNBcbMBguRBdaQBCCYHbXQdghJBjGMtuAQbzqUEhwXIbtkzLbGdSeYjGfiM"]),
  (["ex", "extend"],
   ["bdOeIkPHkDbTBBBCBCBBcULbWVQBdXHCGCCBEbJBbEbBdNLcGJJBYEBJBDBFbRDcHJbQYBbGcDBBBEIEBDHKCbDBcGB",
    "BBCEIBJBKCbABCCcFBECECCDDBbECDBLCcFBEFBCEBUCWGBBcGBBCBEIBHDKCbEBcHBBBMBJBbOBDBcDBBDFDBEHCLC",
    "bDBcGBCCBBDDBEHCLCbCCcFCBBCEIBJBKCbDBcUBEBCDBBIBdDBCHMIdUBCJLHcVCbBBBBBBcDOBFBCFLBbKJBdYEBG",
    "BCCCZCEDQENBCCGBPBbbBDbkKEbCDbDCbECcMCBHIBCLJBbTDBBeNCbIBeODECJBGDiLCCBcGBBHBBBBCIGKCBbWbFb",
    "XEbWKEDbMJMCbGECGcEBBCDBBFcEICCfWDBNBHEBGBDChQcMuEBhNbHeoCDfLBdSbGvIGeBCbsqEEBKbGCdCCkMBDBE",
    "BZCFBfVCbASNBbMIZLBBbSDbWBCECCCBbKBcPGCCCCMBIBbVBbZBBDCCFCBBbQCIBjEBCBEBbdzSBbcJQQQoCCxHBiS",
    "BfTFcmGDBCFEbODEBgJCwBEcNFmFCdBEcSLbXEeTBcCPbPBCCKDbXECCHBcJDbKFBIcKBMCcAJBBIECBdRDCEGBCBgB",
    "BDIVCcFCBBBBMBJBOHDFcPBCGBBCBBDEDBBOCdHICDBBXBdDBCGBBCBBCBCjBBCEGCBCbBCdHICBBCeCBBBCIdXDCEB",
    "FjZJBCjLBKEEBfOECCEBbGKbOGCEIBJGCDbUNBCpQHBGBBdEWCHBCBCeSGDBBCBHBBcUCDBBBnJCLCcAFFDXBhxTBGP",
    "qyYMDDdsAFcHHboIBcLEdDBLCbdaXCgyZbUCXuWFDGIICHbEEfSDcyDcDEbYIBOBWFBPcaIHBRCHBCBFdWBgEHoLBcJ",
    "EtOEjUCbcIHeFHebGFbsxyUdSeYjG"]),
  (["l"],
   ["glKdScfoQbD"]),
  (["lf"],
   ["KB"]),
  (["lv"],
   ["cndOBbBBbBBbBBbBBbBBbBBbBBbBBbBBbBBbBBbBBbBBbBBbBBbBBbBBbBBbBBbBBbBBbBBbBBbBBbBBbBBbBBbBBbB",
    "BbBBbBBbBBbBBbBBbBBbBBbBBbBBbBBbBBbBBbBBbBBbBBbBBbBBbBBbBBbBBbBBbBBbBBbBBbBBbBBbBBbBBbBBbBB",
    "bBBbBBbBBbBBbBBbBBbBBbBBbBBbBBbBBbBBbBBbBBbBBbBBbBBbBBbBBbBBbBBbBBbBBbBBbBBbBBbBBbBBbBBbBBb",
    "BBbBBbBBbBBbBBbBBbBBbBBbBBbBBbBBbBBbBBbBBbBBbBBbBBbBBbBBbBBbBBbBBbBBbBBbBBbBBbBBbBBbBBbBBbB",
    "BbBBbBBbBBbBBbBBbBBbBBbBBbBBbBBbBBbBBbBBbBBbBBbBBbBBbBBbBBbBBbBBbBBbBBbBBbBBbBBbBBbBBbBBbBB",
    "bBBbBBbBBbBBbBBbBBbBBbBBbBBbBBbBBbBBbBBbBBbBBbBBbBBbBBbBBbBBbBBbBBbBBbBBbBBbBBbBBbBBbBBbBBb",
    "BBbBBbBBbBBbBBbBBbBBbBBbBBbBBbBBbBBbBBbBBbBBbBBbBBbBBbBBbBBbBBbBBbBBbBBbBBbBBbBBbBBbBBbBBbB",
    "BbBBbBBbBBbBBbBBbBBbBBbBBbBBbBBbBBbBBbBBbBBbBBbBBbBBbBBbBBbBBbBBbBBbBBbBBbBBbBBbBBbBBbBBbBB",
    "bBBbBBbBBbBBbBBbBBbBBbBBbBBbBBbBBbBBbBBbBBbBBbBBbBBbBBbBBbBBbBBbBBbBBbBBbBBbBBbBBbBBbBBbBBb",
    "BBbBBbBBbBBbBBbBBbBBbBBbBBbBBbBBbBBbBBbBBbBBbBBbBBbBBbBBbBBbBBbBBbBBbBBbBBbBBbBBbBBbBBbBBbB",
    "BbBBbBBbBBbBBbBBbBBbBBbBBbBBbBBbBBbBBbBBbBBbBBbBBbBBbBBbBBbBBbBBbBBbBBbBBbBBbBBbBBbBBbBBbBB",
    "bBBbBBbBBbBBbBBbBBbBBbBBbBBbBBbBBbBBbBBbBBbBBbBBbBBbBBbBBbBBbBBbBBbBBbBBbBBbBBbBBbBBbBBbBBb",
    "BBbBBbBBbBBbBBbBBbBBbBBbBBbBBbBBbBBbBBbBBbBBbBBbBBbBBbBBbBBbBBbBBbBBbBBbBBbBBbBBbBBbBBbBBbB",
    "BbBBbBBbBBbBBbBB"]),
  (["lvt"],
   ["cndPbBBbBBbBBbBBbBBbBBbBBbBBbBBbBBbBBbBBbBBbBBbBBbBBbBBbBBbBBbBBbBBbBBbBBbBBbBBbBBbBBbBBbBB",
    "bBBbBBbBBbBBbBBbBBbBBbBBbBBbBBbBBbBBbBBbBBbBBbBBbBBbBBbBBbBBbBBbBBbBBbBBbBBbBBbBBbBBbBBbBBb",
    "BBbBBbBBbBBbBBbBBbBBbBBbBBbBBbBBbBBbBBbBBbBBbBBbBBbBBbBBbBBbBBbBBbBBbBBbBBbBBbBBbBBbBBbBBbB",
    "BbBBbBBbBBbBBbBBbBBbBBbBBbBBbBBbBBbBBbBBbBBbBBbBBbBBbBBbBBbBBbBBbBBbBBbBBbBBbBBbBBbBBbBBbBB",
    "bBBbBBbBBbBBbBBbBBbBBbBBbBBbBBbBBbBBbBBbBBbBBbBBbBBbBBbBBbBBbBBbBBbBBbBBbBBbBBbBBbBBbBBbBBb",
    "BBbBBbBBbBBbBBbBBbBBbBBbBBbBBbBBbBBbBBbBBbBBbBBbBBbBBbBBbBBbBBbBBbBBbBBbBBbBBbBBbBBbBBbBBbB",
    "BbBBbBBbBBbBBbBBbBBbBBbBBbBBbBBbBBbBBbBBbBBbBBbBBbBBbBBbBBbBBbBBbBBbBBbBBbBBbBBbBBbBBbBBbBB",
    "bBBbBBbBBbBBbBBbBBbBBbBBbBBbBBbBBbBBbBBbBBbBBbBBbBBbBBbBBbBBbBBbBBbBBbBBbBBbBBbBBbBBbBBbBBb",
    "BBbBBbBBbBBbBBbBBbBBbBBbBBbBBbBBbBBbBBbBBbBBbBBbBBbBBbBBbBBbBBbBBbBBbBBbBBbBBbBBbBBbBBbBBbB",
    "BbBBbBBbBBbBBbBBbBBbBBbBBbBBbBBbBBbBBbBBbBBbBBbBBbBBbBBbBBbBBbBBbBBbBBbBBbBBbBBbBBbBBbBBbBB",
    "bBBbBBbBBbBBbBBbBBbBBbBBbBBbBBbBBbBBbBBbBBbBBbBBbBBbBBbBBbBBbBBbBBbBBbBBbBBbBBbBBbBBbBBbBBb",
    "BBbBBbBBbBBbBBbBBbBBbBBbBBbBBbBBbBBbBBbBBbBBbBBbBBbBBbBBbBBbBBbBBbBBbBBbBBbBBbBBbBBbBBbBBbB",
    "BbBBbBBbBBbBBbBBbBBbBBbBBbBBbBBbBBbBBbBBbBBbBBbBBbBBbBBbBBbBBbBBbBBbBBbBBbBBbBBbBBbBBbBBbBB",
    "bBBbBBbBBbBBbBBbB"]),
  (["pp", "prepend"],
   ["chCGiHBbXBoUCdCBbrNBdugKBPBjKCuFBcbLBBBjOBcVGbaYBrBB"]),
  (["ri", "regionalindicator"],
   ["hgoKbA"]),
  (["sm", "spacingmark"],
   ["dkTBcDBCDIEBCbYCcHCGCCCcCBcGDcOBcGDIBBCcBCcIBGCCCeKBBCDDBDcADcJEcJCcGBCBBCbUBOCcHCFDBDcBCcY",
    "CGHTCcLBeXBfICcLBgVBJCZCbSBcsVBHIBCnIECDECBGiQCcGBBBVGfPBcFEcMBbEBECcLBCDBBcBIICgPBVBcasHCC",
    "BdKCbYQfMBbWBbWCECCCeHCCCYBgBBCCFBjDCBCBCBBblxJBBBeXBbTDECeLBYCcHBbWDJBOBdPDDCgQDbFCcHBBECC",
    "CCVCdHCPBBCdZDICDBeDCGBBCBBCBjECGECBeJDICBBeFBBCeOBkBDJBjOFBCHBBBfMDIEEBdGBbDCcKBpRBOBeCBHB",
    "CBiFFECBBnMCMBbWCICyzADfjGcD"]),
  (["t"],
   ["grWdKcwxNbX"]),
  (["v"],
   ["gpCcUcwzWXcerCBDE"]),
  (["zwj"],
   ["mdPB"])]

def wordBreaks : List (List String × List String) := [
  (["le", "aletter"],
   ["cNbAGbAbVBKBEBFXBbFBsMGbIeIFBCCEBBGBBDBBBUBdFBfJIgKBbMCEBBBbPBBeABbSbRbJCBdVBBPCHCKDCBQBBbE",
    "bDdLLBYbHJCEBFWEBJBDBXZHLFYBGRbQcGcCDBSBHKPQEICCCWBHBBDEDBQBNCBDOCKBIGECCWBHBCBCBCbFEBBTDQJ",
    "BDBWBHBCBFDBSBPCXBLICCCWBHBCBFDBbECBDPBRBBGDDBEDCBBBCDCDDDMWBcAIBDBXBQDBbADCBCCbEBEIBDBXBKB",
    "FDBbFCBCPCRJBDBbPCBQBFDIDYGFSDYBJBBCHmBBcLIBbKbBFkPbMBBFBCbRBmVBECHBBBECbPBECbHBECHBBBECPBc",
    "FBECcPbLQQdICGDxWCRBbAFcXDLHSNTOSONBDgTdLHFCbIBBFcSKbFiRXjEbVRIcCbENCKbSbAbKbPDKbKCLFbRCDbP",
    "EBGBCDBFhKcMkSCGCbMCGCIBBBBBBBbFCcBBHBBDDBHDECGENFDBHeMBNBQNdXBEBCKBBDFGBBBBBBEBLCEFFEBRbPb",
    "fHcAcrUiVGEDCMbMBBFBCcEHBQXJHBHBHBHBHBHBHBHdCBsBBcBChSbRBdQRbGbptObsVcPbUCkJDQKCUbVQbFCdCYh",
    "QCCBBBIVQBDBEBXbDcAObYcKGDBBCLbCKXZbDHbVbCBbWbPXDBIfSLHDMGCGCGJHBHBcGGeLbDqnSMXEbXngUHMFcEd",
    "UbHnZScMCcCbOMeMFBfFbKbAGbAcRbFDGCGCGCDbJMBbABTBCBPCObIeTcRcBkHbDDbXbVbGNbEFbMKbECbKEIBFbQg",
    "CSbKEbKEbOIcAMLBPBHBCBLBPBHBCDcAMlZJWKIYGBbQBJcRGCBBbSBCDBCXKXJbFcNTBCKWKbAcScEGCcMBPEBDBbD",
    "bQbDDbDbJIBbCbBcCKWKTNSeGcVcDbZNbZNbKbMbCJXjQbQGCQDcHbDKBIWbQSbUVbBXMcBcFCCBNbTbGZbAbKbDBCB",
    "IbJDBMbWOEVBBBbJSBZTCcLHBBBEBPBKHbVbMICCCWBHBCBFDBSBMFbEKBBCBBbMBBZBBBbScBSEUDbEbWUCBBhCbVb",
    "PEbKbWUBcHbRNBmPbSeMcMbFICBCIBCBYPBBBdQICbNQBBBbCBKbOHBVBLbUTBScVhRbHbFJBbLRBbXbEeIHBCBbMVB",
    "ZGBCBbGOBmPTPBBNBbIeUBdBbjMdYeHRhOdxKdTPbpGRGZfxRFwLkdDbEcpUvXHbFRdBRbESbWQEbFVFTqQbTiDcMeY",
    "cXFBcONcMCBBbcvKeDFNDJHKiwKdHBcTBCCBCCCEBMBBBHBcNBECIBHBbCBEBFBBDHBnCCZBZBbFBZBbFBZBbFBZBbF",
    "BZBIcsYbFGGkBcKfQbTKHQBmJbESbSsQbCiUbECBtBHBEBCBPBhPcHcQHBbuIEBbBBCBBCBBKBEBBBBGBEBBBBBBDBC",
    "BBCBBBBBBBBBBCBBCEBHBEBEBBBKBRFDBFBRyEbAGbAGbA"]),
  (["cr"],
   ["NB"]),
  (["dq", "doublequote"],
   ["bIB"]),
  (["extend"],
   ["bdOeIkPHkDbTBBBCBCBBcULbWVQBdXHCGCCBEbJBbEbBdNLcGJJBYEBJBDBFbRDcHJbQYBbHcCDBSBHKCbDDcEBBHCC",
    "CDJBKCbABCDcEBBFECCDDBbECDBLDcEBBIBDBDUCWGBDcEBBHCCCDHDKCbEBcHFDDBEJBbOFcDBBHBDBEHCLCbDDcEB",
    "BHBDBEHCLCPBMEcDCBHBDBEJBKCbDDcSBEGBBBISCcJBCHMIdUBCJLHcVCbBBBBBBECbXUBCFLBbKJBdWUXEEDBDCHD",
    "ENMBBKEbbBDbkKEbCDbDCbECcMbGJBbTDBBeNCbIBeOMEMiLFcFKBbDCBbWbFbXFbVRbMJMDbENcEObWUfWDBVEBGBC",
    "DhQcMuEBhNbHeoCDfLBdSbGvIGeBCbsqEEBKbGCdCCkMBDBEBXFEBdFCbYSbASNBbMIZNbSEbVObKBcPOMBICbTDbYB",
    "BDCCFCBBbPFFCjCIBCbdzSBbcJQQQoCCxHBiSBfTFcmGDBCFEbODEBgJCwBEcNFmFCdBEcSLbXEeSDcBPbPBCCKEbTL",
    "HBcJDbKOQCbSBMDbWOIEBCdOMGBCBgBMVEcDCBHCCCDJBKCCHDFcPJBBCBBEBFBBOCdESXBdDUjBHCJbBCdEReCNdXP",
    "jWPjLGBCCEBBBCfLHCHDBbCKbOHBEIBJLbUQpPIBIdEWBOeSGDBBCBHBBcOFBCBFnJEJCBBbWHDFXBhxTBGPqyYSdsA",
    "FcHHboIBBcDHEdDBLCbdaXCgyZbUCXuWFDGIICHbEEfSDcyDcDEbYIBOBWFBPcaIHBRCHBCBFdWBgEHoLBcJEtOEjUC",
    "bcIHeFHebGFbsxyUdSeYjG"]),
  (["ex", "extendnumlet"],
   ["dRBmbFBPCTBdgaOCYDjFB"]),
  (["fo", "format"],
   ["gRBcaKGWBhKBbXBoUCdCBftJBdaTCbAFbXFBKdghJBjPDgiZBPBnkKQbzqUEhwXIbtkzMB"]),
  (["hl", "hebrewletter"],
   ["cfGbBEEdovYBBKBNBFBBBCBCBK"]),
  (["ka", "katakana"],
   ["sgNFdXCDdNBEjGQiAbVBdKczhEcEcouCEBHBCBBlBDbYBOE"]),
  (["lf"],
   ["KB"]),
  (["ml", "midletter"],
   ["cGBeUBbbRBsDBfSBjxYBdgbBBcNBhOB"]),
  (["mn", "midnum"],
   ["bSBOBbgCBuCBfACdQBpFBjfFBdfzVBDBcHBDBhBBOB"]),
  (["mb", "midnumlet"],
   ["bUBmcFCKBdgdPBgYBGB"]),
  (["nl", "newline"],
   ["LCeQBlzMC"]),
  (["nu", "numeric"],
   ["bWKciOKBBfCKhQKpWKeOKeOKeOKeOKeOKeOKeOKeOKeOKdSKeOKcSKkSKcSKctQKbMKlOKeYKgKKGKhAKdIKfEKGKca",
    "eOKbaCKbMKhQKWKdIKpQKbfmCKccKKdfYKGKbeQKeYKcIKfOKkSKnEKeOKoKKdYKGUcYKqGKdYKzMKdIKjMKcSKqGKy",
    "yGKdmCKdIKfEKuOKbkdYKecQbYdnCKqGKtIKjNKbgVKhbAK"]),
  (["ri", "regionalindicator"],
   ["hgoKbA"]),
  (["sq", "singlequote"],
   ["bNB"]),
  (["wsegspace"],
   ["bGBimHBdpNHBDdGBfxWB"]),
  (["zwj"],
   ["mdPB"])]

def sentenceBreaks : List (List String × List String) := [
  (["at", "aterm"],
   ["bUBmcRBdgdPBhFB"]),
  (["cr"],
   ["NB"]),
  (["cl", "close"],
   ["bIBEDbXBBBbDBBBbTBPBfmSEcuNCdpJIZCKCcCCOCyJEbDCbpGGHOdBCbFKpNWcLEbGCbnMOOCCKYBSIqLKCIBDczrQ",
    "CiHCbCQCCQGgNCbXBBBbDBBBBCBCdpoSD"]),
  (["ex", "extend"],
   ["bdOeIkPHkDbTBBBCBCBBcULbWVQBdXHCGCCBEbJBbEbBdNLcGJJBYEBJBDBFbRDcHJbQYBbHcCDBSBHKCbDDcEBBHCC",
    "CDJBKCbABCDcEBBFECCDDBbECDBLDcEBBIBDBDUCWGBDcEBBHCCCDHDKCbEBcHFDDBEJBbOFcDBBHBDBEHCLCbDDcEB",
    "BHBDBEHCLCPBMEcDCBHBDBEJBKCbDDcSBEGBBBISCcJBCHMIdUBCJLHcVCbBBBBBBECbXUBCFLBbKJBdWUXEEDBDCHD",
    "ENMBBKEbbBDbkKEbCDbDCbECcMbGJBbTDBBeNCbIBeOMEMiLFcFKBbDCBbWbFbXFbVRbMJMDbENcEObWUfWDBVEBGBC",
    "DhQcMuEChMbHeoCDfLBdSbGvIGeBCbsqEEBKbGCdCCkMBDBEBXFEBdFCbYSbASNBbMIZNbSEbVObKBcPOMBICbTDbYB",
    "BDCCFCBBbPFFCjCIBCbdzSBbcJQQQoCCxHBiSBfTFcmGDBCFEbODEBgJCwBEcNFmFCdBEcSLbXEeSDcBPbPBCCKEbTL",
    "HBcJDbKOQCbSBMDbWOIEBCdOMGBCBgBMVEcDCBHCCCDJBKCCHDFcPJBBCBBEBFBBOCdESXBdDUjBHCJbBCdEReCNdXP",
    "jWPjLGBCCEBBBCfLHCHDBbCKbOHBEIBJLbUQpPIBIdEWBOeSGDBBCBHBBcOFBCBFnJEJCBBbWHDFXBhxTBGPqyYSdsA",
    "FcHHboIBBcDHEdDBLCbdaXCgyZbUCXuWFDGIICHbEEfSDcyDcDEbYIBOBWFBPcaIHBRCHBCBFdWBgEHoLBcJEtOEjUC",
    "bcIHeFHbtcaFdSeYjG"]),
  (["fo", "format"],
   ["gRBcaKGWBhKBbXBoUCdCBftJBdaQBCCbAFbXFBKdghJBjPDgiZBPBnkKQbzqUEhwXIbtkzMB"]),
  (["lf"],
   ["KB"]),
  (["lo", "lower"],
   ["dTbAbVBKBEBbKYBIBBBBBBBBBBBBBBBBBBBBBBBBBBBBBBBBBBBBBBBBBBBBBBBBBBBBBBBCBBBBBBBBBBBBBBBCBBB",
    "BBBBBBBBBBBBBBBBBBBBBBBBBBBBBBBBBBBBBBBBBBBCBBBBDCBBBCBDCEBCBDDCBCBBBBBCBBCBBCBDBBBCCCDGBCB",
    "CBBBBBBBBBBBBBBBBCBBBBBBBBBBBBBBBBBCCBBBDBBBBBBBBBBBBBBBBBBBBBBBBBBBBBBBBBBBBBBBBBBBBBBBBBB",
    "BBBBBBBBHCBCCBBEBBBBBBBBcRBbKHCbEFfKBBBDBCESBbBbJBCDDBBBBBBBBBBBBBBBBBBBBBBBFBBCBCCbZbWBBBB",
    "BBBBBBBBBBBBBBBBBBBBBBBBBBBBBBJBBBBBBBBBBBBBBBBBBBBBBBBBBBBBBBBBBBBBBBBBBBBBBBBBBBBBCBBBBBB",
    "BBBBBBCBBBBBBBBBBBBBBBBBBBBBBBBBBBBBBBBBBBBBBBBBBBBBBBBBBBBBBBBBBBBBBBBBBBBBBBBBBBBBBBBBBBB",
    "BBBBBBBBBBBBbWbPeiTBbdJGdfUJBBeNhKcNBBBBBBBBBBBBBBBBBBBBBBBBBBBBBBBBBBBBBBBBBBBBBBBBBBBBBBB",
    "BBBBBBBBBBBBBBBBBBBBBBBBBBBBBBBBBBBBBBBBBBBBBBBBBBBBBBBBBBBBBBBBBBBBBBBBBBBBBBBBBBBBBBBBBBB",
    "BBJBBBBBBBBBBBBBBBBBBBBBBBBBBBBBBBBBBBBBBBBBBBBBBBBBBBBBBBBBBBBBBBBBBBBBBBBBBBBBBBBBBBBBBBB",
    "BBBBBBBBBJIGKIIIIGKIIIIOCIIIIIIFBCGBDDBCIECCIIKDBCeRBNBQNeFBDCDBbBBEBEBCCIEEBbHQEBbgLbActQb",
    "WBBDCBBBBBBEBBCBIDBBBBBBBBBBBBBBBBBBBBBBBBBBBBBBBBBBBBBBBBBBBBBBBBBBBBBBBBBBBBBBBBBBBBBBBBB",
    "BBBBBBBBBBBBBBBBBBBBBBBBBCHBBBEBMbMBBFBbtwDBBBBBBBBBBBBBBBBBBBBBBBBBBBBBBBBBBBBBBBBBBBBBTBB",
    "BBBBBBBBBBBBBBBBBBBBBBBBDfDBBBBBBBBBBBBDBBBBBBBBBBBBBBBBBBBBBBBBBBBBBBBBBBBBBBBBBBBBBBBBBBB",
    "BBBBBBBBBBKBBBBCBBBBBBBBBEBBBCBBDBBBBBBBBBBBBBBBBBBBBFBFBBBBBBBBBBBBBBBEBBBCBDBBBBBBBBBBBWD",
    "BBBDbfPbRBOGdCbeaIHMFboZbAbvHbOfGbKfZLBPBHBCrJBCDBbQBJbxLbZeVWegObGbgjWbGbmmKbAbAHBSbAbAbAE",
    "BBBHBLbAbAbAbAbAbAbAbAbAbAbAbAbAbAbAbAbAbCbCZBGbAZBGbAZBGbAZBGbAZBGBBcsYKBUGGkBcKdhSbI"]),
  (["nu", "numeric"],
   ["bWKciOKBCfBKhQKpWKeOKeOKeOKeOKeOKeOKeOKeOKeOKdSKeOKcSKkSKcSKctQKbMKlOKeYKgKKGKhAKdIKfEKGKca",
    "eOKbaCKbMKhQKWKdIKpQKbfmCKccKKdfYKGKbeQKeYKcIKfOKkSKnEKeOKoKKdYKGUcYKqGKdYKzMKdIKjMKcSKqGKy",
    "yGKdmCKdIKfEKuOKbkdYKecQbYdnCKqGKtIKjNKbgVKhbAK"]),
  (["le", "oletter"],
   ["rBBEEiABbKHGMbABBBfDBsQBeObBEFbSbRbJCBdVBBPCHCKDCBQBBbEbDdLLBYbHJCEBFWEBJBDBXZHLFYBGRbQcGcC",
    "DBSBHKPQEICCCWBHBBDEDBQBNCBDOCKBIGECCWBHBCBCBCbFEBBTDQJBDBWBHBCBFDBSBPCXBLICCCWBHBCBFDBbECB",
    "DPBRBBGDDBEDCBBBCDCDDDMWBcAIBDBXBQDBbADCBCCbEBEIBDBXBKBFDBbFCBCPCRJBDBbPCBQBFDIDYGFSDYBJBBC",
    "HcGbWBCMHcGCBBBFBYBBBKBCJBCFBBVEbGBcLIBbKbBFeLbRUBQGEEDBDCHDENMBcNbRCmUBECHBBBECbPBECbHBECH",
    "BBBECPBcFBECcPbLQeJxWCRBbAFcXDLHSNTOSONBDPcAbJBEBcPdLHFCbIBBFcSKbFbXbECFLbSEbAcCXJcBdEBdPbV",
    "RIcCbENCKbSbAbKbPDKbKSbRCDbPEBGBCDBbpQEcTDCEekTcEHBQXJHBHBHBHBHBHBHBHdCBsBDZJHFCFEdIGDBdMBE",
    "FbRBdQRbGbWQtSjtOcMbguFcPbUCkJDQKCcOBQBbGdCbNJeABGBdZBDHBDBEBXbDcAObYcKGDBBCLbCKXZbDHbVbCBQ",
    "FBKKFBbPXDBIUXDBDbYBBDCCFCBBBYDCLHDMGCGCGJHBHfPbJbDqnSMXEbXmnCoCCeCcPBBKBNBFBBBCBCBeEbHnZSc",
    "MCcCbOMeMFBfFeBcECbFDGCGCGCDbJMBbABTBCBPCObIeTcRcBkHbDDbXbVbGNbEFbMKbECbKEIBFeSdAdUbOIcAdOc",
    "AMlZJWKIZCeVGCBBbSBCDBCXKXJbFcNTBCKWKbAcScEGCcMBPEBDBbDbQbDDbDbJIBbCbBcCKWKTNSeGcVhBbKbMGbF",
    "BkMbQGCQDcHbDKBIWbQSbUVbBXMcBcFCCBNbTbGZbAbKbDBCBIbJDBMbWOEVBBBbJSBZTCcLHBBBEBPBKHbVbMICCCW",
    "BHBCBFDBSBMFbEKBBCBBbMBBZBBBbScBSEUDbEbWUCBBhCbVbPEbKbWUBcHbRNBcTbBbLHhDbSiDICBCIBCBYPBBBdQ",
    "ICbNQBBBbCBKbOHBVBLbUTBScVhRbHbFJBbLRBbXbEeIHBCBbMVBZGBCBbGOBmPTPBBNBbIeUBdBbjMdYeHRhOdxKdT",
    "PbpGRGZfxRFwLkdDbEcpUvXHbFRdBRbESbWQEbFVFTqQbTpNcXFBcONcMCBBbCjcAIbvQbPKnfREBHBCBlFPBbDDCBO",
    "EIpGdkUeDFNDJHKnbCBtHbTKHQBmJbESbSsQbCiUbECBtBHBEBCBPBhPfEBbuIEBbBBCBBCBBKBEBBBBGBEBBBBBBDB",
    "CBBCBBBBBBBBBBCBBCEBHBEBEBBBKBRFDBFBRgoAclfCbGgdUGiOCinQOlbLPxYdqWuWcfYhhZFgfG"]),
  (["sc", "scontinue"],
   ["bSCMBbyOBgSCsWBgbXBFBdbECgaUBdaaWCBBbDCbDCDBCBKBgMCMBcVB"]),
  (["st", "sterm"],
   ["bHBbDBcaBBfRDgYBbRDjMBcJBBBDClHCcpWCbeKBECbdTBhQChWBFBmCCnQEgGCKCCCbDDhFCcNCbkUCJDfgUBNBWCq",
    "NBbshWBkKCiTBDBoSCdICdRBfWCfRDfOCjPBbffMCgNBbDBcNBedWCbxDFbSEhHCeNEeXDeZCGBQCdKCBCeEBlMCeNC",
    "oJCFPeBCjPDtXBBBjRCdJCqECbaQCcWCbcmBCfDBcNCLBvHClKBbdoGBliMB"]),
  (["se", "sep"],
   ["fDBlzMC"]),
  (["sp"],
   ["JBBCTBeXBihJBdpNLbKBbVBfxWB"]),
  (["up", "upper"],
   ["cNbAdXXBHbHBBBBBBBBBBBBBBBBBBBBBBBBBBBBBBBBBBBBBBBBBBBBBBBBBBBBBBBCBBBBBBBBBBBBBBBCBBBBBBBB",
    "BBBBBBBBBBBBBBBBBBBBBBBBBBBBBBBBBBBBBBCBBBBDCBBBCBDCEBCBDDCBCBBBBBCBBCBBCBDBBBCDBHCBCBCBBBB",
    "BBBBBBBBBBBBCBBBBBBBBBBBBBBBBBCCBBBDBBBBBBBBBBBBBBBBBBBBBBBBBBBBBBBBBBBBBBBBBBBBBBBBBBBBBBB",
    "BBBHCBCCBBEBBBBBBBBlDBBBDBIBGBBDBBBCBRBJbJBCDDBBBBBBBBBBBBBBBBBBBBBBBFBCBBCCbZbWBBBBBBBBBBB",
    "BBBBBBBBBBBBBBBBBBBBBBJBBBBBBBBBBBBBBBBBBBBBBBBBBBBBBBBBBBBBBBBBBBBBBBBBBBBBBCBBBBBBBBBBBBC",
    "BBBBBBBBBBBBBBBBBBBBBBBBBBBBBBBBBBBBBBBBBBBBBBBBBBBBBBBBBBBBBBBBBBBBBBBBBBBBBBBBBBBBBBBBBBB",
    "BBBBCbMehDbMBBFBbbUdIdgLBoKBBBBBBBBBBBBBBBBBBBBBBBBBBBBBBBBBBBBBBBBBBBBBBBBBBBBBBBBBBBBBBBB",
    "BBBBBBBBBBBBBBBBBBBBBBBBBBBBBBBBBBBBBBBBBBBBBBBBBBBBBBBBBBBBBBBBBBBBBBBBBBBBBBBBBBBBBJBBBBB",
    "BBBBBBBBBBBBBBBBBBBBBBBBBBBBBBBBBBBBBBBBBBBBBBBBBBBBBBBBBBBBBBBBBBBBBBBBBBBBBBBBBBBBBBBBBBB",
    "BJIIGKIIIIGLBBBBBBBIIYIIIIIIFLFLEMFLFkBBEBDDCDCBDFGBBBBBBECEKCFBbAQTBbfMbAcsUbWbWBBDCBBBBBB",
    "EBBCBIDBBBBBBBBBBBBBBBBBBBBBBBBBBBBBBBBBBBBBBBBBBBBBBBBBBBBBBBBBBBBBBBBBBBBBBBBBBBBBBBBBBBB",
    "BBBBBBBBBBBBBBIBBBEBbtyJBBBBBBBBBBBBBBBBBBBBBBBBBBBBBBBBBBBBBBBBBBBBBTBBBBBBBBBBBBBBBBBBBBB",
    "BBBBBBfFBBBBBBBBBBBBBDBBBBBBBBBBBBBBBBBBBBBBBBBBBBBBBBBBBBBBBBBBBBBBBBBBBBBBBBBBBBBKBBBBCBB",
    "BBBBBBEBBBCBBBDBBBBBBBBBBBBBBBBBBBBFBFBBBBBBBBBBBBBBBEBBBCDBFBBBBBBBYBbhaHbAbuZbOfGbKgALBPB",
    "HBCcqCbZgBWegObGbgjWbGbmmQbAbAbAbAbAbABBCCBCCCEBIbAbAbACBECIBHbBCBEBFBBDHbBbAbAbAbAbAbAbAbA",
    "bAbAbAbEZbHZbHZbHZbHZbHBgnLbIdbIbAGbAGbA"])]

end Alerting.Unicode.Tables
