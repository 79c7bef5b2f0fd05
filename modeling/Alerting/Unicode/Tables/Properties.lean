/-!
# Properties

The characters with each property that holds of a character or does not, in version 16 of the
character database.
-/

namespace Alerting.Unicode.Tables

def properties : List (List String × List String) := [
  (["ahex", "asciihexdigit"],
   ["bWKHGbAG"]),
  (["alpha", "alphabetic"],
   ["cNbAGbAbVBKBEBFXBbFBrQEMOFHBBBdIBbDSBCCEBBGBBDBBBUBdFBfJIgKBbMCBGbPbNOBBBCBCBBIbBEEbDLFcEBH",
    "OdYBIEIEDKDCBQbWNdXYbHJCEBFYCTTZHLFYBGIBIbQKMDHGcYBQBDEPNTBICCCWBHBBDEDICCCCBBIBECBFMCKBEDB",
    "GECCWBHBCBCBCEFECCCEBHEBBRGLDBJBDBWBHBCBFDJBDBCDBPEVEEDBICCCWBHBCBFDICCCCJCECBFNBQCBGDDBEDC",
    "BBBCDCDDDMEFDDBDDBGBbONBDBXBQDIBDBDICBDCBCEbCEBIBDBXBKBFDIBDBDICGCBENDMNBDBbPCIBDBDBBFEHFWG",
    "BDBSDYBJBBCHIGBBBISCNcGFHGBbZCBBBFBYBBBTBDCFBBGBOEbGBcLIBbKETEQBbKcPcDBBCFQcMKECbMBBFBCbRBm",
    "VBECHBBBECbPBECbHBECHBBBECPBcFBECcPbLQQdICGDxWCRBbAFcXDLHULVMUMNBDBCMcACTOBEBcPdLHbRFcSKbFB",
    "MEJXbECFLbSEbAcCbCEcLCUbYBXCLDbXcABPBIbZbQCEKbSBLOcDWDKbKCLFbRCDbPEBGBCDBFhKTbILkSCGCbMCGCI",
    "BBBBBBBbFCcBBHBBDDBHDECGENFDBHeMBNBQNdXBEBCKBBDFGBBBBBBEBLCEFFEBRbPbfHcAcrUiVGEDCMbMBBFBCcE",
    "HBQXJHBHBHBHBHBHBHBHBbGbVBsBDZJHFCFEdIGDBdMBEFbRBdQRbGbWQtSjtOcMbguFcPbUCkJDQKCUbVFIDeJbNJC",
    "dZCcPCCBBBIVUBbHYcAMcQBBbSGDBBDKbHFbJNbDDbZBMPBQQKFBcDJOSXDcRBBBBYDCQCELGCGCGJHBHBbRBOGeTVq",
    "nSMXEbXmnCoCCeCbMHMFFMBNBFBBBCBCBeEbHnZScMCcCbOMeMFBfFbKbAGbALdLDGCGCGCDbJMBbABTBCBPCObIeTc",
    "RcBkHbDDbXbVbGNbEFbRFbECbKEIBFbQgCSbKEbKEbOIcAMLBPBHBCBLBPBHBCDcAMlZJWKIYGBbQBJcRGCBBbSBCDB",
    "CXKXJbFcNTBCKWKbAcScEGCcMEBCFIBDBbDbQbDDbDbJIBbCbBcCKWKTNSeGcVcDbZNbZNbObIbCDBFXjQbQBCDCQDc",
    "DBDbDKBIWbQSbUVbBXJcSbRFKcFJBNZXbZREIbJDBJcMBEJCKBBBbJSBbICBGEcKHBBBEBPBKHcFXEBICCCWBHBCBFD",
    "ICCCCDBGBFHbCKBBCBBbMBKBBCBBEBCDBBBbScOBDBEUDbEcOCCBBhCcCCHZGbIcLBBDBcHcCCBcTbBCOVHhDcFdZcM",
    "bFICBCIBCBbEBCCCCEdPICbUCGBBBCbBbZCKRcUFBScVhRbHbFJBbTBHBBbXbECWBOcVHBCBbSDBBCBDBBCCYGBCBbL",
    "BCBEBBmPXJRBbPDDeHBdBbjMdYeHRhOdxKdTPbpGRGZfxRFwLkdDbVcpDvXHbFRdBRbESbWQEbFVFTqQbTiDcMeYcXE",
    "cFHRcMCBBMCOjcAIbvQbPKnfREBHBCBlFPBbDDCBOEIpGdkUeDFNDJHKEBiwFdHBcTBCCBCCCEBMBBBHBcNBECIBHBb",
    "CBEBFBBDHBnCCZBZBbFBZBbFBZBbFBZBbFBZBIcsYbFGGiFHBRCHBCBFFcKbHBeIbTKHQBmJbESbSsQbCiUbECBtBHB",
    "EBCBPBhPcHcQDBDBbuIEBbBBCBBCBBKBEBBBBGBEBBBBBBDBCBBCBBBBBBBBBBCBBCEBHBEBEBBBKBRFDBFBRyEbAGb",
    "AGbAfmKclfCbGgdUGiOCinQOlbLPxYdqWuWcfYhhZFgfG"]),
  (["bidic", "bidicontrol"],
   ["ciEBjvLCbAFcDE"]),
  (["bidim", "bidimirrored"],
   ["bOCSBBBbCBBBbDBBBbTBPBfmSEcuNCdqQCKCcCCOCgVBhKEDGDBDCDEBEBBBBEJFBBSFEJCBBBIBbGCEFBJCCTFCJFC",
    "CEYCQIEUCHCbpTOcWBCEBCBDFEFDDOpNWCGBOIBHGDBEFBCCFEBBDCCKGCCMTBECBBBCBBEFCGDYCLCEEBCCCEbRCIB",
    "bOFBBBDFFDEBDFBBjWBtVEDCBCOCCKbRIqLKCIdacRGFCgGCSBBBbCBBBbDBBBBCBCddpNBcFBcFBcFBcFB"]),
  (["ci", "caseignorable"],
   ["bNBGBLBbJBBBcTBEBBBEBCCtJhKECEBJCBBjRHhZBFBbXbTBBBCBCBBbSBLGKLBBbJBKVQBdXIBKBEbHBBBbEbBdNLc",
    "GLEBCBYYbRDbSBHCFJbPcGcDBBBEIEBDHKCNBPBcGBEEIBUCbABCCcFBECECCDDBbECDBLCcFBEFBCEBUCWGBBcGBCB",
    "BEIBHCLCbEBcJBMBbYBDBcDBBDFDBEHCLCbDBcGBCBGBFCUCbCCcFCEEIBUCbDBcUBHDBBdMBCHLJdUBCJJBBHcVCbB",
    "BBBBBcDOBFBCFLBbKJBdYEBGBCCCZCEDQENBCCGBPBdQBxKDbkKDbDCbECbECcMCBHIBCLDBFBbTFbZBcNCbIBeODEC",
    "JBGDiLCCBcGBBHBBBBCIGKCBbNBIbFbXEbWBBFBBFBbOJMCbGECCBDcEBBCDBBDcGICCcMGdEDBNBHEBGBDCbYcLNBb",
    "IdXrDBBDLDNDNDNCMFICKBCBCFbXFBKBBNBQNbZbHejRCeJDeVBPBdSbGbVBsBBbKEDFFBdPGdPDbqbUBbwCGkKBdUE",
    "BKBBbCEdCCObIdABXDdZDDCIBDBEBZCFBfVCbASNBbMIZLbUDbWBCECCRBVCcOGCCCCMBIBbJBLBbZBBDCCFCBBbBBO",
    "CFCBBdWFJDeRBCBEBbdzSBfRRwBQDBMQbIBCBgNBHBGBLBbJBBBbVBbTCcPBVDtTBiSBfTFbnPGBbQBJwKDBCFEbODE",
    "BgJCwBEbMBbAFBBmDCdBEcSLbXEeTBcCPbPBCCKDbXECCCBEBKBbYDbKFBIcKBMCcAJKECBdRDCBBCGBCBgBBDIVCcF",
    "CDBbLHDFcSGNBBBBBOCdHICDBBXBdGGBBECBCjEEGCBCbBCdHICBBCeCBBBCGBBdXBBBCEBFjZJBCjWCBBEBfOECCEB",
    "bGKbOGCEIBJGCDbUNBCpQHBGBBdEWCHBCBCeSGDBBCBHBBcUCDBBBnJCLCcAFFBBBXBhxDRGPqyYMDDdsAFcHHJEtOD",
    "bOCsOBcLRcMCBCygPEBHBCeuGCBEgyUbUCXuYDJQCHbEEfSDcyDcDEbYIBOBWFBPcaIHBRCHBCBFFcKbHBgEOoEBcJE",
    "tNFjUCbcIHeFIebFFbsxxPBbEdSeYjG"]),
  (["cased"],
   ["cNbAGbAbVBKBEBFXBbFBhNBEEiACbJHCbEFdSBbQECCCEBBGBBDBBBUBdFBfJIgKBbMJbPefFbMBBFBCbRBEzWdICGd",
    "fULFbRCDcMhKcMkSCGCbMCGCIBBBBBBBbFCcBBHBBDDBHDECGENFDBHeMBNBQNdXBEBCKBBDFGBBBBBBEBGEBCEFFEB",
    "RbGDCbfLcAcrUiVGEDCMbMBBFBbtwCbUSbEfCdYDEBcKCCBBBIVFBDbfPbRBOGdCbeaIHMFbnTbAGbAbtTdCdSbKEbK",
    "eMLBPBHBCBLBPBHBCrJBCDBbQBJbuZbZNbZdPWKWefIcMbgiQcMbmlKdHBcTBCCBCCCEBMBBBHBcNBECIBHBbCBEBFB",
    "BDHBnCCZBZBbFBZBbFBZBbFBZBbFBZBIcsYKBUGGkBcKdgKcQdaAbAGbAGbA"]),
  (["cwcf", "changeswhencasefolded"],
   ["cNbAdMBKXBIbGBBBBBBBBBBBBBBBBBBBBBBBBBBBBBBBBBBBBBBBBBBBBBBBBBBBBBBBCBBBBBBBBBBBBBBBBCBBBBB",
    "BBBBBBBBBBBBBBBBBBBBBBBBBBBBBBBBBBBBBBBBCBBBBBBBCBBBCBDCEBCBDDCBCBBBBBCBBCBBCBDBBBCDBHCBCBC",
    "BBBBBBBBBBBBBBBBCBBBBBBBBBBBBBBBBBCCBBBDBBBBBBBBBBBBBBBBBBBBBBBBBBBBBBBBBBBBBBBBBBBBBBBBBBB",
    "BBBBBBBHCBCCBBEBBBBBBBBjMBbQBBBDBIBGBBDBBBCBRBJWBMDDCBBBBBBBBBBBBBBBBBBBBBBBBBCCCBBBCCbZbWB",
    "BBBBBBBBBBBBBBBBBBBBBBBBBBBBBBBBJBBBBBBBBBBBBBBBBBBBBBBBBBBBBBBBBBBBBBBBBBBBBBBBBBBBBBBCBBB",
    "BBBBBBBBBCBBBBBBBBBBBBBBBBBBBBBBBBBBBBBBBBBBBBBBBBBBBBBBBBBBBBBBBBBBBBBBBBBBBBBBBBBBBBBBBBB",
    "BBBBBBBBBBBBBBCbMbWBefGbMBBFBbfEGdfUKGbRCDmIBBBBBBBBBBBBBBBBBBBBBBBBBBBBBBBBBBBBBBBBBBBBBBB",
    "BBBBBBBBBBBBBBBBBBBBBBBBBBBBBBBBBBBBBBBBBBBBBBBBBBBBBBBBBBBBBBBBBBBBBBBBBBBBBBBBBBBBBBBBBBB",
    "BBBBBBBBBBBFCCBBBBBBBBBBBBBBBBBBBBBBBBBBBBBBBBBBBBBBBBBBBBBBBBBBBBBBBBBBBBBBBBBBBBBBBBBBBBB",
    "BBBBBBBBBBBBBBBBBBBBJIIGKIIIIGLBBBBBBBIIQbWCDCGFDCGLEMFFDCGlLBDCGBbTQTBbfMbAcsUbWbWBBDCBBBB",
    "BBEBBCBIDBBBBBBBBBBBBBBBBBBBBBBBBBBBBBBBBBBBBBBBBBBBBBBBBBBBBBBBBBBBBBBBBBBBBBBBBBBBBBBBBBB",
    "BBBBBBBBBBBBBBBBIBBBEBbtyJBBBBBBBBBBBBBBBBBBBBBBBBBBBBBBBBBBBBBBBBBBBBBTBBBBBBBBBBBBBBBBBBB",
    "BBBBBBBBfFBBBBBBBBBBBBBDBBBBBBBBBBBBBBBBBBBBBBBBBBBBBBBBBBBBBBBBBBBBBBBBBBBBBBBBBBBBBKBBBBC",
    "BBBBBBBBEBBBCBBBDBBBBBBBBBBBBBBBBBBBBFBFBBBBBBBBBBBBBBBEBBBCDBFBBBBBBBYBbiGdCbeaIHMFbnTbAbu",
    "ZbOfGbKgALBPBHBCcqCbZgBWegObGbgjWbGbulKbI"]),
  (["cwcm", "changeswhencasemapped"],
   ["cNbAGbAcGBKXBbFBcMBdGBbCCOCCBBEdPBSGbBBCBBBCDCBEBFCBBCCBHBCBBCDGFBKCgKBbQECCDDBBGBBDBBBUBbV",
    "DbHBFBfDIgKBbMKbNefGbMBBFBCbRCDzWdICGdfULFbRCDhDBDBQBeJgACBBeOCGCbMCGCIBBBBBBBbFCcBBHBBDDBH",
    "DECGENFDBHlLBDCGBbBBRbGDCbfLcAcrUeJBCBCHdYHEDCMbMBBFBbtwCbUSbCfEOCcKJPDDCFBZBbECCBBBIYCbhCB",
    "bCdCbeaIHMFbnTbAGbAbtTdCdSbKEbKeMLBPBHBCBLBPBHBCcoPbZNbZdPWKWefIcMbgiQcMbukEcQ"]),
  (["cwl", "changeswhenlowercased"],
   ["cNbAdXXBHbHBBBBBBBBBBBBBBBBBBBBBBBBBBBBBBBBBBBBBBBBBBBBBBBBBBBBBBBCBBBBBBBBBBBBBBBCBBBBBBBB",
    "BBBBBBBBBBBBBBBBBBBBBBBBBBBBBBBBBBBBBBCBBBBDCBBBCBDCEBCBDDCBCBBBBBCBBCBBCBDBBBCDBHCBCBCBBBB",
    "BBBBBBBBBBBBCBBBBBBBBBBBBBBBBBCCBBBDBBBBBBBBBBBBBBBBBBBBBBBBBBBBBBBBBBBBBBBBBBBBBBBBBBBBBBB",
    "BBBHCBCCBBEBBBBBBBBlDBBBDBIBGBBDBBBCBRBJbJBIBBBBBBBBBBBBBBBBBBBBBBBFBCBBCCbZbWBBBBBBBBBBBBB",
    "BBBBBBBBBBBBBBBBBBBBJBBBBBBBBBBBBBBBBBBBBBBBBBBBBBBBBBBBBBBBBBBBBBBBBBBBBBBCBBBBBBBBBBBBCBB",
    "BBBBBBBBBBBBBBBBBBBBBBBBBBBBBBBBBBBBBBBBBBBBBBBBBBBBBBBBBBBBBBBBBBBBBBBBBBBBBBBBBBBBBBBBBBB",
    "BBCbMehDbMBBFBbbUdIdgLBGbRCDmIBBBBBBBBBBBBBBBBBBBBBBBBBBBBBBBBBBBBBBBBBBBBBBBBBBBBBBBBBBBBB",
    "BBBBBBBBBBBBBBBBBBBBBBBBBBBBBBBBBBBBBBBBBBBBBBBBBBBBBBBBBBBBBBBBBBBBBBBBBBBBBBBBBBBBBBBBJBB",
    "BBBBBBBBBBBBBBBBBBBBBBBBBBBBBBBBBBBBBBBBBBBBBBBBBBBBBBBBBBBBBBBBBBBBBBBBBBBBBBBBBBBBBBBBBBB",
    "BBBBJIIGKIIIIGLBBBBBBBIIYIIIIIIFLFLEMFLFlLBDCGBbTQTBbfMbAcsUbWbWBBDCBBBBBBEBBCBIDBBBBBBBBBB",
    "BBBBBBBBBBBBBBBBBBBBBBBBBBBBBBBBBBBBBBBBBBBBBBBBBBBBBBBBBBBBBBBBBBBBBBBBBBBBBBBBBBBBBBBBIBB",
    "BEBbtyJBBBBBBBBBBBBBBBBBBBBBBBBBBBBBBBBBBBBBBBBBBBBBTBBBBBBBBBBBBBBBBBBBBBBBBBBBfFBBBBBBBBB",
    "BBBBDBBBBBBBBBBBBBBBBBBBBBBBBBBBBBBBBBBBBBBBBBBBBBBBBBBBBBBBBBBBBBKBBBBCBBBBBBBBEBBBCBBBDBB",
    "BBBBBBBBBBBBBBBBBBFBFBBBBBBBBBBBBBBBEBBBCDBFBBBBBBBYBbhaHbAbuZbOfGbKgALBPBHBCcqCbZgBWegObGb",
    "gjWbGbulKbI"]),
  (["cwt", "changeswhentitlecased"],
   ["dTbAcGBbPYBIBBBBBBBBBBBBBBBBBBBBBBBBBBBBBBBBBBBBBBBBBBBBBBBBBBBBBBBBCBBBBBBBBBBBBBBCBBBBBBB",
    "BBBBBBBBBBBBBBBBBBBBBBBBBBBBBBBBBBBBBBBCBBBBDCBBBCBDBFBCBDDCBCBBBBBCBEBCBDBBBCBDBBBEBBCBCBB",
    "BBBBBBBBBBBBBBBCBBBBBBBBBBBBBBBBBDBBBBDBBBBBBBBBBBBBBBBBBBBBBBBBBBBBBBBBBBBBBBDBBBBBBBBBBBB",
    "BBBBBIBCCBBEBBBBBBBBGBCBBBCDCBEBFCBBCCBHBCBBCDGFBKCgKBbRBBBDBDDSBbBbJBCDDBBBBBBBBBBBBBBBBBB",
    "BBBBBFBBCBCBcAbWBBBBBBBBBBBBBBBBBBBBBBBBBBBBBBBBBBJBBBBBBBBBBBBBBBBBBBBBBBBBBBBBBBBBBBBBBBB",
    "BBBBBBBBBBBBBCBBBBBBBBBBBBCBBBBBBBBBBBBBBBBBBBBBBBBBBBBBBBBBBBBBBBBBBBBBBBBBBBBBBBBBBBBBBBB",
    "BBBBBBBBBBBBBBBBBBBBBBBBBBBBBBBBbXbNfmEGdfUJBBjEBDBQBeKBBBBBBBBBBBBBBBBBBBBBBBBBBBBBBBBBBBB",
    "BBBBBBBBBBBBBBBBBBBBBBBBBBBBBBBBBBBBBBBBBBBBBBBBBBBBBBBBBBBBBBBBBBBBBBBBBBBBBBBBBBBBBBBBBBB",
    "BBBBBBBBBBBBBBBBBBBBBHFBBBBBBBBBBBBBBBBBBBBBBBBBBBBBBBBBBBBBBBBBBBBBBBBBBBBBBBBBBBBBBBBBBBB",
    "BBBBBBBBBBBBBBBBBBBBBBBBBBJIGKIIIIGKIIIIOCIIIIIIFBCGBDDBCIECCIIKDBCnEBbHQEBbgLbActQbWBBDCBB",
    "BBBBGBCBKBBBBBBBBBBBBBBBBBBBBBBBBBBBBBBBBBBBBBBBBBBBBBBBBBBBBBBBBBBBBBBBBBBBBBBBBBBBBBBBBBB",
    "BBBBBBBBBBBBBBBBBIBBBEBMbMBBFBbtwDBBBBBBBBBBBBBBBBBBBBBBBBBBBBBBBBBBBBBBBBBBBBBTBBBBBBBBBBB",
    "BBBBBBBBBBBBBBBBfFBBBBBBBBBBBBBDBBBBBBBBBBBBBBBBBBBBBBBBBBBBBBBBBBBBBBBBBBBBBBBBBBBBBBBBBBB",
    "BBKBBBCBBBBBBBBBEBEBBCCBBBBBBBBBBBBBBBBBBBLBBBBBBBBBBBBBBBEBBBCBDBBBBBBBBBBBbABbhCBbCdCbeaI",
    "HMFboZbAbvHbOfGbKfZLBPBHBCcrBbZeVWegObGbgjWbGbulMbI"]),
  (["cwu", "changeswhenuppercased"],
   ["dTbAcGBbPYBIBBBBBBBBBBBBBBBBBBBBBBBBBBBBBBBBBBBBBBBBBBBBBBBBBBBBBBBBCBBBBBBBBBBBBBBCBBBBBBB",
    "BBBBBBBBBBBBBBBBBBBBBBBBBBBBBBBBBBBBBBBCBBBBDCBBBCBDBFBCBDDCBCBBBBBCBEBCBDBBBCBDBBBFCBCBCBB",
    "BBBBBBBBBBBBBCBBBBBBBBBBBBBBBBBCBCBBDBBBBBBBBBBBBBBBBBBBBBBBBBBBBBBBBBBBBBBBDBBBBBBBBBBBBBB",
    "BBBIBCCBBEBBBBBBBBGBCBBBCDCBEBFCBBCCBHBCBBCDGFBKCgKBbRBBBDBDDSBbBbJBCDDBBBBBBBBBBBBBBBBBBBB",
    "BBBFBBCBCBcAbWBBBBBBBBBBBBBBBBBBBBBBBBBBBBBBBBBBJBBBBBBBBBBBBBBBBBBBBBBBBBBBBBBBBBBBBBBBBBB",
    "BBBBBBBBBBBCBBBBBBBBBBBBCBBBBBBBBBBBBBBBBBBBBBBBBBBBBBBBBBBBBBBBBBBBBBBBBBBBBBBBBBBBBBBBBBB",
    "BBBBBBBBBBBBBBBBBBBBBBBBBBBBBBbXbNehCbRCDbdGGdfUJBBjEBDBQBeKBBBBBBBBBBBBBBBBBBBBBBBBBBBBBBB",
    "BBBBBBBBBBBBBBBBBBBBBBBBBBBBBBBBBBBBBBBBBBBBBBBBBBBBBBBBBBBBBBBBBBBBBBBBBBBBBBBBBBBBBBBBBBB",
    "BBBBBBBBBBBBBBBBBBBBBBBBBBHFBBBBBBBBBBBBBBBBBBBBBBBBBBBBBBBBBBBBBBBBBBBBBBBBBBBBBBBBBBBBBBB",
    "BBBBBBBBBBBBBBBBBBBBBBBBBBBBBBBJIGKIIIIGKIIIIOCcBBCEBBBDDBCEBDECCIIKDBCEBmZBbHQEBbgLbActQbW",
    "BBDCBBBBBBGBCBKBBBBBBBBBBBBBBBBBBBBBBBBBBBBBBBBBBBBBBBBBBBBBBBBBBBBBBBBBBBBBBBBBBBBBBBBBBBB",
    "BBBBBBBBBBBBBBBBBBBBBBBIBBBEBMbMBBFBbtwDBBBBBBBBBBBBBBBBBBBBBBBBBBBBBBBBBBBBBBBBBBBBBTBBBBB",
    "BBBBBBBBBBBBBBBBBBBBBBfFBBBBBBBBBBBBBDBBBBBBBBBBBBBBBBBBBBBBBBBBBBBBBBBBBBBBBBBBBBBBBBBBBBB",
    "BBBBBBBBKBBBCBBBBBBBBBEBEBBCCBBBBBBBBBBBBBBBBBBBLBBBBBBBBBBBBBBBEBBBCBDBBBBBBBBBBBbABbhCBbC",
    "dCbeaIHMFboZbAbvHbOfGbKfZLBPBHBCcrBbZeVWegObGbgjWbGbulMbI"]),
  (["dash"],
   ["bTBcaUBbZBfkJBbnPBdbDGcJBbNBPBpABeoIBCBbFCEBbCBrEBTBeHBczwACbLBKBgNBflOBmGB"]),
  (["di", "defaultignorablecodepoint"],
   ["gRBzXBbbOBegWCckHCdHFdaPFbAFbXQgkYBczmPQjFBgEBdBJctlNEhwXIbtkzLgbO"]),
  (["dep", "deprecated"],
   ["mRBbyVBdkTBBBdcJCdiJGbaVCbzryKB"]),
  (["dia", "diacritic"],
   ["dQBBBcTBGBEBCCtJgDBIFGRCEBJCjTFiBBcDbTBBBCBCBBfBIECfECECDDcPbBdNLcGLbICeWIbPKQbCcJBQBDEbCBc",
    "WBQBeGBQBeGBQBbVDcIBQBHBePBeGBQBeGBQBeFCQBeUBeHBMGBBeDBNFcXCbBBBBBBECcODBCcKBeIBBCbOCEFZHBB",
    "KCbbDDbkMCbEBfSLJBnJDlGBUICBbWPCLeABPBbMJcCCcGBLCcOCcMGdEZEBGBCDbYcLbWbKFMbLLrDBBDLDNDNDNCe",
    "xKDmFBtMGeBEdRBbsmKBMCBBbCCdECObIdYDeFCMBbLBfVBbBScFEbKBdRBMBbKBfTDcNEbZBdWFJDeYCbdzSBbdPQk",
    "KBBBbVBbTCcPBbdKBbtNGBbQBJyNDEBgJCvZGbMBbAFpJDcSLbXEhKBbPBcUCeQCcKBcYBJDeACgWCdCCQBYHDFdLDB",
    "CNCdRBDBeTCjRCeWBeOCeLBkJCjYCEBgABdFBSBdDBqFBjYBBCdDBqJCXBhyAPqzPBdsAFcHHvSCvARdCCygCEBHBCl",
    "tHbUCXuYDDGIICHbEEfmWcKhMHoLBcJEbdMCbcIHeFDBD"]),
  (["emoji"],
   ["bJBGBFKeHBEBlyRBMBiIBWBdMGPCoDCMBgKBZLEDhRBiXCKBJBcGEBFJBCBCCCBEBCBBCCBDBDCIDFBBBFMLCCBBCBB",
    "SBCCSGBBBCDCFBCCECLCFCCBFCBBBCUCFGBECBEBCBCGBBCBBBBBGBDBGBKCPBCBEBBBEDBBLCbWDJBOBOBoICrVDTC",
    "bZBEBbvUBMBxDBBBgmrQBhUBgECMCOBCKcXbABCXBUBCJVCgSbICeICCBDCdFCDBkDBcLLGBYHCCIMBCECBECNCCBIC",
    "JBFDMDIDCBBBEBGBDBGdIbWcSFICDEKDBBCDBCKiTMEBkXbVBKBhDeINDKFcEHPCLGJ"]),
  (["ecomp", "emojicomponent"],
   ["bJBGBFKmbJBiFBdftRBdoiWbAtNFceAEbsvuQdS"]),
  (["emod", "emojimodifier"],
   ["hhiXF"]),
  (["ebase", "emojimodifierbase"],
   ["olHBiLBQEgsjVBcIDCBCDeNCCLVTDBEDBDHBBBYBhTCEBVBECgSDDFdFBQDJBLBwDBCBIIGBJKCDcEBcJCBCBBRDBNi",
    "VDbQJ"]),
  (["epres", "emojipresentation"],
   ["nhQChXEDBCBuBCVCbYMbRBTBNBICRCFCIBFBVBHCBBEBCBHBECbCBbJBBBEDBBcJDYBOBbhBCbZBEBgplEBhUBhIBCK",
    "cXbABBYBUBCFBDVCgSbHMJBcSBWMbREFMRDBDcTBBBhFCcLNEBYSBbACNBdIdHbWcSGBDDCDEELCHJiTMEBkXbVBKBh",
    "DeINDKFcEHPCLGJ"]),
  (["extpict", "extendedpictographic"],
   ["gNBEBlyRBMBiIBWBdMGPCoDCMBgKBZLEDhRBiXCKBJBcGEBFJBCBCCCBEBCBBCCBDBDCIDFBBBFMLCCBBCBBSBCCSGB",
    "BBCDCFBCCECLCFCCBFCBBBCUCFGBECBEBCBCGBBCBBBBBGBDBGBKCPBCBEBBBEDBBLCbWDJBOBOBoICrVDTCbZBEBbv",
    "UBMBxDBBBgmrQBbNEdWMPCPBOCbLKeICMCOBCKTcEbBPKBUBCJBEJXGhGCeICCBDCdFCDBEFjUBcLLGBYHCCIMBCECB",
    "ECNCCBICJBFDMDIDCBBBEBGBDBGdIbWcSFICRDBBGCNePEdRbMMEcEIKGbOIbECMECcKMbVBKBhDdGMOfQjWbnI"]),
  (["ext", "extender"],
   ["hBBuQCbhUBqZByGBfHBdLBbcYBeXBdnFBcEBxNBpIBcQBhkJBbRFdZCdPDbqbUBcgSBblABWBfHBeEBVCbfzVBdbKCc",
    "fBBbBBEBbvBBlHBeMCtEDbvJBbeoFCbtKCBBbqyACbuFBbgUD"]),
  (["grbase", "graphemebase"],
   ["bGdRbHNBwWeIICGEHBBBUBiQHgKBbMCbYCDbUBBBCBCBJbBEGRKLBBbUVQBdXIBGCCBEbGCBBbEbDdLLBObRJHDYEBJ",
    "BDBHPBZFBBLFbFRbQcFcDBBBEIEBDHKCbDBCBICCCWBHBBDEDBBCGCCCBBNCBDEYFBBGECCWBHBCBCBCEDYEBBHKCDB",
    "BMBBJBDBWBHBCBFDEIBBCDBPCEMHBICBICCCWBHBCBFDBCBGCCCPCBDESLBBGDDBEDCBBBCDCDDDMFBBCDDBDDBVVGD",
    "BIBDBXBQDBDETDCBCCEKHKBLBDBXBKBFDCCBBCYCBCEKBDOLBDBbPCBBCFDBDBCEDBKEbACCBSDYBJBBCHJCGHHKCDM",
    "bWBCLIINbLCBBBFBYBBBKBCJBCFBBJKCEbGYCbBBBBBBOBbKSBFBCFbXIBGBNbLbTEBGBCCCZCEDQENBCCGBPBbOBBF",
    "BCoNBECHBBBECbPBECbHBECHBBBECPBcFBECcPFbDDbAGdICGCzTDdLHSNTDCJSONBDPcACBHIBCLJDKGKGLFKGdLHF",
    "CbIBBFcSKbFEECDECBGHBDbQCFLbSEbAGLDcFCCDcEBBJBBCIGNKGKGOdIbWKEDIBbDJMCbGECGcEBBCDBBNbWICFPD",
    "cKFbRCLLBNBHEBGBDCBFhKcMkSCGCbMCGCIBBBBBBBbFCcBBPBOCGBTCDBJBLFYHbXQCCbBBNDbHcLfKEzQWLVcrSCb",
    "GBnGDCFbTBBFBCcEHCPXJHBHBHBHBHBHBHBHbHdQbIbABdLMiGbAcGGQBdIEdXFbRBdQBdIJbWBbriRDcDJnKUbVEBK",
    "bGCdCCGIhYCCBBBIVQBDBEBZCFEKGcEIcQKMYNBbMIZLBMbEGbWBCECCCBNBLEHBZBbPGCCCLDBIBBCKCbGBbZBBDCC",
    "FCBBBYRCILGCGCGJHBHBcIEeNBCBEDKGqnSMXEbXmnCoCCeCbMHMFFBBYBFBBBCBCBeVQrDCcCHBbGQQKWbJBTBEEFB",
    "fFEgBCbFDGCGCGCDDHBHNCCMBbABTBCBPCObIeTFDEbTDdKBNDBbVbTfBbDDbXQbBEbKJbEFbMKbEBbLEObQgCCKGbK",
    "EbKEbOIcALMBPBHBCBLBPBHBCDcAMlZJWKIYGBbQBJcRGCBBbSBCDBCXBcUIJbWTBCFbHDbBFBcMcEEUCbVPEBDBbDK",
    "JHJHcMbGbLGMJcCDbDCbBFbAHEMHdCcVcDbZNbZHbQMKGbMIYICiAbFBbQDBCCQDcHbOIWLJWSEEbMbCUXJBBcCPHEb",
    "EBCCBMbXECCCBEOZHKJbKFBJSIbJBDLcAJBBIECBQBULSBbCDCEGBCcLHBBBEBPBLGbVBDNKICBICCCWBHBCBFDBBBB",
    "ECCCCDBMHbCKBBCBBbMBBBCPBBCDBBDBCbNcEICDBBVBBBDbEbWBCGBBCBBCBCEIKgKbVBCGECBCbBbKbZICBBCELKG",
    "NTbRBBBCICGKGUbCbBDBBCEBJXhDbVJBCBdWdFMICBCIBCBYBFBCGEBDJKcSICbQIEBEbBBKbOGCEIJBGCDbUNBCJNc",
    "VHKhAbIOKGJBbMOBBGKbDDbGZBHBCBcXHBCBbMVBJKGGBCBbLECBBBBHKlYTCEJPBbKICDXdIBPbYNbjNdYeHBFLhOd",
    "xKdVNbpGRGZfxRFwLkdDbEMDDKcoSvXHbFBKEdDBKGbEHBKbWHPKKBHBVFTqQcGhQdNdXcXFcELNcMEbCjcAIbvQbPK",
    "nfREBHBCBlFPBbDDCBOEIpGdkUeDFNDJHKCBCBfvKjQGqUgAeMcIjMKbNCcIFDWCHbEEcJVcODBeSUMUMdJJZfFdHBc",
    "TBCCBCCCEBMBBBHBcNBECIBHBbCBEBFBBDHBnCClGCvQcDEbYIBOBHbrWbFGGkBcKfQbTKHCKECmIbESbSEKFBrWbCE",
    "KiGbECLEBsMHBEBCBPBhPCJbWcQHBEKECbeFcQcYcJhMEBbBBCBBCBBKBEBBBBGBEBBBBBBDBCBBCBBBBBBBBBBCBBC",
    "EBHBEBEBBBKBRFDBFBRcACkKbSEdWMPCPBPBbLKgScEbDNbSEJHCOGfYblWERDNDePEdRGMEBPMEcEIKGbOIbECMECc",
    "KnCMOCNDKFcEHPCLGJHfRBdYbnQclfCbGgdUGiOCinQOlbLPxYdqWuWcfYhhZFgfG"]),
  (["grext", "graphemeextend"],
   ["bdOeIkPHkDbTBBBCBCBBcULbWVQBdXHCGCCBEbJBbEbBdNLcGJJBYEBJBDBFbRDcHJbQYBbGcDBBBEIEBDHKCbDBcGB",
    "BBCEIBJBKCbABCCcFBECECCDDBbECDBLCcFBEFBCEBUCWGBBcGBBCBEIBHDKCbEBcHBBBMBJBbOBDBcDBBDFDBEHCLC",
    "bDBcGBCCBBDDBEHCLCbCCcFCBBCEIBJBKCbDBcUBEBCDBBIBdDBCHMIdUBCJLHcVCbBBBBBBcDOBFBCFLBbKJBdYEBG",
    "BCCCZCEDQENBCCGBPBbbBDbkKEbCDbDCbECcMCBHIBCLJBbTDBBeNCbIBeODECJBGDiLCCBcGBBHBBBBCIGKCBbWbFb",
    "XEbWKEDbMJMCbGECGcEBBCDBBFcEICCfWDBNBHEBGBDChQcMuEBhNbHeoCDfLBdSbGvIGeBCbsqEEBKbGCdCCkMBDBE",
    "BZCFBfVCbASNBbMIZLBBbSDbWBCECCCBbKBcPGCCCCMBIBbVBbZBBDCCFCBBbQCIBjEBCBEBbdzSBbcJQQQoCCxHBiS",
    "BfTFcmGDBCFEbODEBgJCwBEcNFmFCdBEcSLbXEeTBcCPbPBCCKDbXECCHBcJDbKFBIcKBMCcAJBBIECBdRDCEGBCBgB",
    "BDIVCcFCBBBBMBJBOHDFcPBCGBBCBBDEDBBOCdHICDBBXBdDBCGBBCBBCBCjBBCEGCBCbBCdHICBBCeCBBBCIdXBBBC",
    "EBFjZJBCjLBKEEBfOECCEBbGKbOGCEIBJGCDbUNBCpQHBGBBdEWCHBCBCeSGDBBCBHBBcUCDBBBnJCLCcAFFDXBhxTB",
    "GPqyYMDDdsAFcHHboIBcLEdDBLCbdaXCgyZbUCXuWFDGIICHbEEfSDcyDcDEbYIBOBWFBPcaIHBRCHBCBFdWBgEHoLB",
    "cJEtOEjUCbcIHeFHbtcaFdSeYjG"]),
  (["grlink", "graphemelink"],
   ["dnPBeXBeXBeXBeXBeXBeXBeXBeFCQBeUBeHBeXBhTBgYCcpLCbEBgBBzDBiTBdXCcSCgqTBbukKBbLBfVBfMBeEBlXB",
    "jMBbjsRBchIBbPBOBcFBeRCfJBeMBgYBdUBeYDeJBeXBjSBeXBeOBeMBkJBjZCgFBdFBSBdDBqFBkACdDBqJCyzCB"]),
  (["hex", "hexdigit"],
   ["bWKHGbAGdslLKHGbAG"]),
  (["hyphen"],
   ["bTBeXBbvWBgzZBdbDCfiBBbcLBczuLBgNBdJB"]),
  (["idsb", "idsbinaryoperator"],
   ["seACCKtDB"]),
  (["idst", "idstrinaryoperator"],
   ["seCC"]),
  (["idsu", "idsunaryoperator"],
   ["seOC"]),
  (["idcompatmathcontinue"],
   ["gWCFBmaGBDLBPoHBEBWBgjjEBZBbFBZBbFBZBbFBZBbFBZB"]),
  (["idcompatmathstart"],
   ["mwWBEBWBgjjEBZBbFBZBbFBZBbFBZBbFBZB"]),
  (["idc", "idcontinue"],
   ["bWKHbAEBBbAbVBKBBBCBFXBbFBrQEMOFHBBBReNBCCEBBGFBBBUBdFBfJBFCgKBbMCBGbPIbTBBBCBCBBIbBEEbDLFc",
    "WEdYBICKBTCBQcHCdXOcCEBCBCbUSbCELFYBGIcXBeZCKBTBICCCWBHBBDECJCCCEIBECBFCMKBBBCDBGECCWBHBCBC",
    "BCCBBFECCDDBHEBBHQLDBJBDBWBHBCBFCKBDBDCBPECKJHBDBICCCWBHBCBFCJCCCDHDECBFCKBBQCBGDDBEDCBBBCD",
    "CDDDMEFDDBECBGBOKQNBDBXBQCJBDBEHCBDCBCECKQEBIBDBXBKBFCJBDBEHCGCBECKBDMNBDBbZBDBFFEHFCKKGBDB",
    "SDYBJBBCHDBEGBBBIGKCCNcGFPBKbNCBBBFBYBBBXCFBBBHBKCEbGBXCGKLBBBBBEKBbKEUBSBbKJBcFcWGdACbMBBF",
    "BCbRBmVBECHBBBECbPBECbHBECHBBBECPBcFBECcPCDJJOQQdICGDxWCRBbAFcXDLHWJWLUMNBDBCMdGDBECCKbHDBL",
    "GdLHbRFcSKbFBMEMKbOCFLbSEbAGLbLbCEcLBbDCLGKNBIOBQbXcZDKRJMeMMcEIKDbXCLFbRCDQDBbNFuOCGCbMCGC",
    "IBBBBBBBbFCcBBHBBDDBHDECGENFDBHPCbXCTBbCBNBQNbZNEBDMRBEBCKBBCGGBBBBBBQCEFFEBRbPdzBiVGJMbMBB",
    "FBCcEHBPYJHBHBHBHBHBHBHBHBbGtXDZPBFCFEdICHBdRFbRBdQRbGbWQtSjtOcMbguFcPbUCkJDbCUbWEKBeLbLJCd",
    "ZCcPCCBBBIVcCEBTcAMcSKKGYDBBbXCbKMbDDcNOLGbFBcDJOCKGXDcVYDCQCFKGCGCGJHBHBbRBOGeTBCCKGqnSMXE",
    "bXmnCoCCeCbMHMFFMBNBFBBBCBCBeEbHnZScMCcCbOMEQQQDCYDbGFBfFTKHbAEBBbAKdMDGCGCGCDbJMBbABTBCBPC",
    "ObIeTcRcBfGBfAbDDbXPBbFbGNbEFbRFbECbKEIBFbQgCCKGbKEbKEbOIcAMLBPBHBCBLBPBHBCDcAMlZJWKIYGBbQB",
    "JcRGCBBbSBCDBCXKXJbFcNTBCKWKbAcScEGCcMEBCFIBDBbDCDEBbGbDDbDbJIBbEZcCKWKTNSeGcVcDbZNbZNbOIKG",
    "bMDFBXjQbQBCDCQDcDbHKBIbHbFWbQVbBXJcTbFQJcIHBNZHKGcBBKEEIbKCBJcREEBNBBbJSBbLGEcKHBBBEBPBKHc",
    "HFKGEBICCCWBHBCBFBKCCCDCBGBFHCHDFLKBBCBBbMBKBBCBBEBINCbDcXFKEEbEcSBBIKgKcCCJXGbIcNDBLKbMcFH",
    "KGUbCbBCPEKGHhDcHdXcWVICBCIBCBbEBCCJMKcSICbUCIBCbBcLIBIcWDBScVhRbHPKGJBbTBJPKYbECWBOcVHBCBb",
    "SDBBCBJIKGGBCBbLBCBGHKlYXJRBbPDFNLdHBdBbjMdYeHRhOdxKdTPbpGQWKfxRFwLkdDcGcoSvXHbFBKGdBBKGbEC",
    "FLcDJEMKJVFTqQbTDKhQcMeYcXEcFHRcMCBCLCOjcAIbvQbPKnfREBHBCBlFPBbDDCBOEIpGdkUeDFNDJHKDCgeRKtY",
    "bUCXuWFDGIICHbEEfSDrBdHBcTBCCBCCCEBMBBBHBcNBECIBHBbCBEBFBBDHBnCCZBZBbFBZBbFBZBbFBZBbFBZBICb",
    "YtScDEbYIBOBWFBPbqMbFGGiFHBRCHBCBFFcKbHBeIbTDOCKEBmJbFRcGsCbQiGbRsRHBEBCBPBhPLHbPcYEKbtUEBb",
    "BBCBBCBBKBEBBBBGBEBBBBBBDBCBBCBBBBBBBBBBCBBCEBHBEBEBBBKBRFDBFBRfaAKbnQclfCbGgdUGiOCinQOlbLP",
    "xYdqWuWcfYhhZFgfGbonhGjG"]),
  (["ids", "idstart"],
   ["cNbAGbAbVBKBEBFXBbFBrQEMOFHBBBeZFBCCEBBGBBDBBBUBdFBfJIgKBbMCBGbPcTbBEEbTbRbJCBdVBBPCHCKDCBQ",
    "BBbEbDdLLBYbHJCEBFWEBJBDBXZHLFYBGRbQcGcCDBSBHKPQEICCCWBHBBDEDBQBNCBDOCKBIGECCWBHBCBCBCbFEBB",
    "TDQJBDBWBHBCBFDBSBPCXBLICCCWBHBCBFDBbECBDPBRBBGDDBEDCBBBCDCDDDMWBcAIBDBXBQDBbADCBCCbEBEIBDB",
    "XBKBFDBbFCBCPCRJBDBbPCBQBFDIDYGFSDYBJBBCHcGbWBCMHcGCBBBFBYBBBKBCJBCFBBVEbGBcLIBbKbBFeLbRUBQ",
    "GEEDBDCHDENMBRbMBBFBCbRBmVBECHBBBECbPBECbHBECHBBBECPBcFBECcPbLQQdICGDxWCRBbAFcXDLHSNTOSONBD",
    "PcAbJBEBcPdLHbPBBFcSKbFbXbECFLbSEbAcCXJcBdEBdPbVRIcCbENCKbSbAbKbPDKbKCLFbRCDbPEBGBCDBFhKcMk",
    "SCGCbMCGCIBBBBBBBbFCcBBHBBDDBHDECGENFDBHeMBNBQNdXBEBCKBBCGGBBBBBBQCEFFEBRbPdzBiVGEDCMbMBBFB",
    "CcEHBQXJHBHBHBHBHBHBHBHvEDZJHFCFEdIEFBdMBEFbRBdQRbGbWQtSjtOcMbguFcPbUCkJDQKCUbVQbFCdCbNJCdZ",
    "CcPCCBBBIVQBDBEBXbDcAObYcKGDBBCLbCKXZbDHbVbCBQFBKKFBbPXDBIUXDBDbYBBDCCFCBBBYDCLHDMGCGCGJHBH",
    "BbRBOGeLbDqnSMXEbXmnCoCCeCbMHMFFBBKBNBFBBBCBCBeEbHnZScMCcCbOMeMFBfFbKbAGbALdLDGCGCGCDbJMBbA",
    "BTBCBPCObIeTcRcBkHbDDbXbVbGNbEFbMKbECbKEIBFbQgCSbKEbKEbOIcAMLBPBHBCBLBPBHBCDcAMlZJWKIYGBbQB",
    "JcRGCBBbSBCDBCXKXJbFcNTBCKWKbAcScEGCcMBPEBDBbDbQbDDbDbJIBbCbBcCKWKTNSeGcVcDbZNbZNbKbMbCJXjQ",
    "bQGCQDcHbDKBIWbQSbUVbBXMcBcFCCBNbTbGZbAbKbDBCBIbJDBMbWOEVBBBbJSBZTCcLHBBBEBPBKHbVbMICCCWBHB",
    "CBFDBSBMFbEKBBCBBbMBBZBBBbScBSEUDbEbWUCBBhCbVbPEbKbWUBcHbRNBcTbBbLHhDbSeMcMbFICBCIBCBYPBBBd",
    "QICbNQBBBbCBKbOHBVBLbUTBScVhRbHbFJBbLRBbXbEeIHBCBbMVBZGBCBbGOBmPTPBBNBbIeUBdBbjMdYeHRhOdxKd",
    "TPbpGRGZfxRFwLkdDbEcpUvXHbFRdBRbESbWQEbFVFTqQbTiDcMeYcXFBcONcMCBBbCjcAIbvQbPKnfREBHBCBlFPBb",
    "DDCBOEIpGdkUeDFNDJHKiwKdHBcTBCCBCCCEBMBBBHBcNBECIBHBbCBEBFBBDHBnCCZBZBbFBZBbFBZBbFBZBbFBZBI",
    "csYbFGGkBcKfQbTKHQBmJbESbSsQbCiUbECBtBHBEBCBPBhPcHcQHBbuIEBbBBCBBCBBKBEBBBBGBEBBBBBBDBCBBCB",
    "BBBBBBBBBCBBCEBHBEBEBBBKBRFDBFBRgoAclfCbGgdUGiOCinQOlbLPxYdqWuWcfYhhZFgfG"]),
  (["ideo", "ideographic"],
   ["seWCZJODblDjtOcMbfbKbhsIoCCeCbsiKBbBjcAIbvQbPKnuLpGbdeIclfCbGgdUGiOCinQOlbLPxYdqWuWcfYhhZFg",
    "fG"]),
  (["joinc", "joincontrol"],
   ["mdOC"]),
  (["loe", "logicalorderexception"],
   ["fkIFeTFedSDCBccxMCCBBC"]),
  (["lower", "lowercase"],
   ["dTbAbVBKBEBbKYBIBBBBBBBBBBBBBBBBBBBBBBBBBBBBBBBBBBBBBBBBBBBBBBBBBBBBBBBCBBBBBBBBBBBBBBBCBBB",
    "BBBBBBBBBBBBBBBBBBBBBBBBBBBBBBBBBBBBBBBBBBBCBBBBDCBBBCBDCEBCBDDCBCBBBBBCBBCBBCBDBBBCCCDGBCB",
    "CBBBBBBBBBBBBBBBBCBBBBBBBBBBBBBBBBBCCBBBDBBBBBBBBBBBBBBBBBBBBBBBBBBBBBBBBBBBBBBBBBBBBBBBBBB",
    "BBBBBBBBHCBCCBBEBBBBBBBBcRCbJHCbEFdSBbRBBBDBCESBbBbJBCDDBBBBBBBBBBBBBBBBBBBBBBBFBBCBCCbZbWB",
    "BBBBBBBBBBBBBBBBBBBBBBBBBBBBBBBBBJBBBBBBBBBBBBBBBBBBBBBBBBBBBBBBBBBBBBBBBBBBBBBBBBBBBBBCBBB",
    "BBBBBBBBBCBBBBBBBBBBBBBBBBBBBBBBBBBBBBBBBBBBBBBBBBBBBBBBBBBBBBBBBBBBBBBBBBBBBBBBBBBBBBBBBBB",
    "BBBBBBBBBBBBBBBbWbPehBbRBEbdGGdfUJBBeNhKcNBBBBBBBBBBBBBBBBBBBBBBBBBBBBBBBBBBBBBBBBBBBBBBBBB",
    "BBBBBBBBBBBBBBBBBBBBBBBBBBBBBBBBBBBBBBBBBBBBBBBBBBBBBBBBBBBBBBBBBBBBBBBBBBBBBBBBBBBBBBBBBBB",
    "BBBBBBBBJBBBBBBBBBBBBBBBBBBBBBBBBBBBBBBBBBBBBBBBBBBBBBBBBBBBBBBBBBBBBBBBBBBBBBBBBBBBBBBBBBB",
    "BBBBBBBBBBBBBBBJIGKIIIIGKIIIIOCIIIIIIFBCGBDDBCIECCIIKDBCeRBNBQNeFBDCDBbBBEBEBCCIEEBbHQEBbgL",
    "bActQbWBBDCBBBBBBEBBCBIDBBBBBBBBBBBBBBBBBBBBBBBBBBBBBBBBBBBBBBBBBBBBBBBBBBBBBBBBBBBBBBBBBBB",
    "BBBBBBBBBBBBBBBBBBBBBBBBBBBBBBBCHBBBEBMbMBBFBbtwDBBBBBBBBBBBBBBBBBBBBBBBBBBBBBBBBBBBBBBBBBB",
    "BBBTBBBBBBBBBBBBBBBBBBBBBBBBBBDfDBBBBBBBBBBBBDBBBBBBBBBBBBBBBBBBBBBBBBBBBBBBBBBBBBBBBBBBBBB",
    "BBBBBBBBBBBBBBBBKBBBBCBBBBBBBBBEBBBCBBDBBBBBBBBBBBBBBBBBBBBFBFBBBBBBBBBBBBBBBEBBBCBDBBBBBBB",
    "BBBBWDBBBDbfPbRBOGdCbeaIHMFboZbAbvHbOfGbKfZLBPBHBCrJBCDBbQBJbxLbZeVWegObGbgjWbGbmmKbAbAHBSb",
    "AbAbAEBBBHBLbAbAbAbAbAbAbAbAbAbAbAbAbAbAbAbAbAbCbCZBGbAZBGbAZBGbAZBGbAZBGBBcsYKBUGGkBcKdhSb",
    "I"]),
  (["math"],
   ["bRBQDbFBbDBBBbTBEBbLBbFBbcADCBbACCDuHDjwNBbBDLBDBNBOEVFLFcNNEBDCEFSBEBCKBBCGGBDCCCBDBGDOBBc",
    "QYBGBCECEbGBBGCOkIIEUCdMBbEbBBBYBLHrDCMKEGECCCDFOBBBCGLIFCcFBBBbDEJDmYcMjWtSbWVCGdasQBbfRGB",
    "BgGBQDbDBBBbDBBBfBBGEfeFCcxdWdHBcTBCCBCCCEBMBBBHBcNBECIBHBbCBEBFBBDHBnCClGCbYiiQEBbBBCBBCBB",
    "KBEBBBBGBEBBBBBBDBCBBCBBBBBBBBBBCBBCEBHBEBEBBBKBRFDBFBRcAC"]),
  (["mcm", "modifiercombiningmark"],
   ["ckICCBfBBGBDCsNCBDDBbFB"]),
  (["nchar", "noncharactercodepoint"],
   ["dsdCbGuGCdsyOCdsyOCdsyOCdsyOCdsyOCdsyOCdsyOCdsyOCdsyOCdsyOCdsyOCdsyOCdsyOCdsyOCdsyOCdsyOC"]),
  (["oalpha", "otheralphabetic"],
   ["bgFBbDNwEOBBBCBCBBcULbWNBHQBdXHEECCEBbJBbEQdYLdXCDJBDBEeCBcIMDHGUcCCCPBCFDKCbDDcGHCCCCKBKCb",
    "DDcGFECCCEBbECDBLDcGIBDBCVCWDEDcGHCCCCJCKCbEBcHFDDBDKBbOFcFHBDBDICLCbDDcGHBDBDICLCPBMEcGHBD",
    "BDKBKCbDDcXGBBBISCcJBCHSBdVBCGBCQBgHTJLBbKeGMBBCEXEEDBDCHDENMBBKEclOCbECbECbECcOThGCbIBeOME",
    "JiOFcFKCUcWCLDbXFbWPcIDbEJCCcFLbYTpWbIcoNcAdkGbGbtqAIbICnQBIBXFdKCbYQBBcFBbMFbCMbTEbWMbLBcP",
    "OMBICbTDbYBBDCCFBbSFFBjDIbdzVBdeDFcmGDBCFEbeIEcNBmJCdBBjZDcBObTCLDbTJJBcJDbKMSCcFDbWNOCdOJC",
    "BGBCBgBKXEcGHCCCCKBKCdGJBBCBBEBCdZNBDeCSjDHCHbDCdEPBBeCLdZOjXNjNGBCCCDBBBfMHCGEBbCKbQFBESLb",
    "UOpRIBHdFWBOeSGDBBCBDBBDBcOFBCBEnKEJCBBbWHDDyyNRfjCBBcDHEdPCbdaYBnkJHBRCHBCBFdWBdhVBczWbAGb",
    "AGbA"]),
  (["odi", "otherdefaultignorablecodepoint"],
   ["bgPBfiLCckHCdhNBglIBdacPBdBJbwmiHBBbEdSeYjGfiM"]),
  (["ogrext", "othergraphemeextend"],
   ["drYBYBnUBYBdYBYBiYBBBECBCJCdZBYBePBPBdmRBbEBbnKBFBBBFCdXBcTCboIBgcVCbtwTBeEBbgnLCgwMBeMBkEB",
    "OBJBdSBJBCBBDFBiQBMBjHBkCByJBMBchFBbeoKCbkxNCGGbtlaZdS"]),
  (["oidc", "otheridcontinue"],
   ["hBBbbRBgaJJclCBciZCgkRBdaeJB"]),
  (["oids", "otheridstart"],
   ["jhLCdgJBVBfvWC"]),
  (["olower", "otherlowercase"],
   ["gOBPBtHJHCbEFdSBcABfcZBepZcLNBbIbLbaNBNBQNiDQbgQbAcwOCbugKCiCBeZDDCbhIEJBbiwSBCDBbQBJddzHcK"]),
  (["omath", "othermath"],
   ["dQBbhXDCBbACCCkqYBbBDLBbGEYCOCcNNEBDCEFSBEBCKBBDFGBDCCCBDBGDEFFcXFCEBCBCBBBFCCECESCCBBBHBBG",
    "ClEEgMCBBYBRBrDCMJFFFCCCDFOBBBCGYCcFBBBbDEJCnECbFKpNWcLEbGCdclFBBBEBiDBBBdcoVdHBcTBCCBCCCEB",
    "MBBBHBcNBECIBHBbCBEBFBBDHBnCCZBZBbFBZBbFBZBbFBZBbFBZBICbYiiQEBbBBCBBCBBKBEBBBBGBEBBBBBBDBCB",
    "BCBBBBBBBBBBCBBCEBHBEBEBBBKBRFDBFBR"]),
  (["oupper", "otheruppercase"],
   ["mqQQbgGbAgsiYbAGbAGbA"]),
  (["patsyn", "patternsyntax"],
   ["bHPKHbAEBBbAEbIHBBBCBBBCEBEBDBXBbFBluEYIPCTBKlTbbSgEyGbEbnMBeBtSeYoVDEZPBczqZCkBC"]),
  (["patws", "patternwhitespace"],
   ["JFSBdWBlyMCYC"]),
  (["pcm", "prependedconcatenationmark"],
   ["chCGiHBbXBoUCdCBdvxYBPB"]),
  (["qmark", "quotationmark"],
   ["bIBEBfBBPBlwUIZCfiDBrPENDdabPEhHBEBdMC"]),
  (["radical"],
   ["rpWbABdLMiG"]),
  (["ri", "regionalindicator"],
   ["hgoKbA"]),
  (["sterm", "sentenceterminal"],
   ["bHBMBQBcaBBfRDgYBbRDjMBcJBBBDClHCcpWCbeKBECbdTBhQCgBCbTBFBmCCnQEgGCKCCCbDDhFCcNCbjWBXCJDeuX",
    "DlUBNBWCqNBbshWBkKCiTBDBoSCdICdRBfWCfRDfOCjPBbfcWBCCcHBDCgNBMBQBcNBedWCbxDFbSEhHCeNEeXDeZCG",
    "BQCdKCBCeEBlMCeNCoJCFPeBCjPDtXBBBjRCdJCqECbaQCcWCbcmBCfDBcNCLBvHClKBbdoGBliMB"]),
  (["sd", "softdotted"],
   ["eBChOBkVBbEBcABUBmIBdUBBBjmNBbZBNBDBfCBgBBqFBiGCegGBgelHCbYCbYCbYCbYCbYCbYCbYCbYCbYCbYCbYCb",
    "YCdfYBlTCbAB"]),
  (["term", "terminalpunctuation"],
   ["bHBKBBBLCDBbfYBIBtTBcFBcUBOBBDgYBbRLBBjBCcCGBIbFBkBCbwUCgQBEGlZCbeJIbdTBeUDcTCgBDDBbNECCmCC",
    "nQEgGCKCBDbDDhFFcKCbjWBXCJDeuXDlUBNBEBKBBCDCqMCbshVCkJDiTFoSCdICdRBfVDfRDeXBQCjPBbfcWBCCcFD",
    "BEgNBKBBBLCDBcNBCBbpQBbWBbsOBhRBlYCfWGcQGdLEbkQFbSEhHHeIEeXDeZCGBQCdKFeEBlMCeNDMCnUEDPeBCjP",
    "DtXBBBjRCdJCECpYDbTByVCcWCbyXFbamZCfDBcNDKBvHClJCbdoGBliLE"]),
  (["uideo", "unifiedideograph"],
   ["tsAjtOcMbfbKbicSCBBBCKBBBBCCDdveCclfCbGgdUGiOCinQOlbLPxYgrQhhZFgfG"]),
  (["upper", "uppercase"],
   ["cNbAdXXBHbHBBBBBBBBBBBBBBBBBBBBBBBBBBBBBBBBBBBBBBBBBBBBBBBBBBBBBBBCBBBBBBBBBBBBBBBCBBBBBBBB",
    "BBBBBBBBBBBBBBBBBBBBBBBBBBBBBBBBBBBBBBCBBBBDCBBBCBDCEBCBDDCBCBBBBBCBBCBBCBDBBBCDBHBCBCBCBBB",
    "BBBBBBBBBBBBCBBBBBBBBBBBBBBBBBCBCBBDBBBBBBBBBBBBBBBBBBBBBBBBBBBBBBBBBBBBBBBBBBBBBBBBBBBBBBB",
    "BBBHCBCCBBEBBBBBBBBlDBBBDBIBGBBDBBBCBRBJbJBCDDBBBBBBBBBBBBBBBBBBBBBBBFBCBBCCbZbWBBBBBBBBBBB",
    "BBBBBBBBBBBBBBBBBBBBBBJBBBBBBBBBBBBBBBBBBBBBBBBBBBBBBBBBBBBBBBBBBBBBBBBBBBBBBCBBBBBBBBBBBBC",
    "BBBBBBBBBBBBBBBBBBBBBBBBBBBBBBBBBBBBBBBBBBBBBBBBBBBBBBBBBBBBBBBBBBBBBBBBBBBBBBBBBBBBBBBBBBB",
    "BBBBCbMehDbMBBFBbbUdIdgLBGbRCDmIBBBBBBBBBBBBBBBBBBBBBBBBBBBBBBBBBBBBBBBBBBBBBBBBBBBBBBBBBBB",
    "BBBBBBBBBBBBBBBBBBBBBBBBBBBBBBBBBBBBBBBBBBBBBBBBBBBBBBBBBBBBBBBBBBBBBBBBBBBBBBBBBBBBBBBBBBJ",
    "BBBBBBBBBBBBBBBBBBBBBBBBBBBBBBBBBBBBBBBBBBBBBBBBBBBBBBBBBBBBBBBBBBBBBBBBBBBBBBBBBBBBBBBBBBB",
    "BBBBBBJIIGKIIIIGLBBBBBBBIIcUEMEMEMFLEkCBEBDDCDCBDFGBBBBBBECEKCFBbAQTBbfMbAcsUbWbWBBDCBBBBBB",
    "EBBCBIDBBBBBBBBBBBBBBBBBBBBBBBBBBBBBBBBBBBBBBBBBBBBBBBBBBBBBBBBBBBBBBBBBBBBBBBBBBBBBBBBBBBB",
    "BBBBBBBBBBBBBBIBBBEBbtyJBBBBBBBBBBBBBBBBBBBBBBBBBBBBBBBBBBBBBBBBBBBBBTBBBBBBBBBBBBBBBBBBBBB",
    "BBBBBBfFBBBBBBBBBBBBBDBBBBBBBBBBBBBBBBBBBBBBBBBBBBBBBBBBBBBBBBBBBBBBBBBBBBBBBBBBBBBKBBBBCBB",
    "BBBBBBEBBBCBBBDBBBBBBBBBBBBBBBBBBBBFBFBBBBBBBBBBBBBBBEBBBCDBFBBBBBBBYBbhaHbAbuZbOfGbKgALBPB",
    "HBCcqCbZgBWegObGbgjWbGbmmQbAbAbAbAbAbABBCCBCCCEBIbAbAbACBECIBHbBCBEBFBBDHbBbAbAbAbAbAbAbAbA",
    "bAbAbAbEZbHZbHZbHZbHZbHBgnLbIdbIbAGbAGbA"]),
  (["vs", "variationselector"],
   ["jcTDBBdjcAQbwnkYjG"]),
  (["wspace", "whitespace", "space"],
   ["JFSBdWBbABihJBdpNLbDCFBbVBfxWB"]),
  (["xidc", "xidcontinue"],
   ["bWKHbAEBBbAbVBKBBBCBFXBbFBrQEMOFHBBBReNBCDDBBGFBBBUBdFBfJBFCgKBbMCBGbPIbTBBBCBCBBIbBEEbDLFc",
    "WEdYBICKBTCBQcHCdXOcCEBCBCbUSbCELFYBGIcXBeZCKBTBICCCWBHBBDECJCCCEIBECBFCMKBBBCDBGECCWBHBCBC",
    "BCCBBFECCDDBHEBBHQLDBJBDBWBHBCBFCKBDBDCBPECKJHBDBICCCWBHBCBFCJCCCDHDECBFCKBBQCBGDDBEDCBBBCD",
    "CDDDMEFDDBECBGBOKQNBDBXBQCJBDBEHCBDCBCECKQEBIBDBXBKBFCJBDBEHCGCBECKBDMNBDBbZBDBFFEHFCKKGBDB",
    "SDYBJBBCHDBEGBBBIGKCCNcGFPBKbNCBBBFBYBBBXCFBBBHBKCEbGBXCGKLBBBBBEKBbKEUBSBbKJBcFcWGdACbMBBF",
    "BCbRBmVBECHBBBECbPBECbHBECHBBBECPBcFBECcPCDJJOQQdICGDxWCRBbAFcXDLHWJWLUMNBDBCMdGDBECCKbHDBL",
    "GdLHbRFcSKbFBMEMKbOCFLbSEbAGLbLbCEcLBbDCLGKNBIOBQbXcZDKRJMeMMcEIKDbXCLFbRCDQDBbNFuOCGCbMCGC",
    "IBBBBBBBbFCcBBHBBDDBHDECGENFDBHPCbXCTBbCBNBQNbZNEBDMRBEBCKBBCGGBBBBBBQCEFFEBRbPdzBiVGJMbMBB",
    "FBCcEHBPYJHBHBHBHBHBHBHBHBbGtXDZPBFCFEdICCCDBdRFbRBdQRbGbWQtSjtOcMbguFcPbUCkJDbCUbWEKBeLbLJ",
    "CdZCcPCCBBBIVcCEBTcAMcSKKGYDBBbXCbKMbDDcNOLGbFBcDJOCKGXDcVYDCQCFKGCGCGJHBHBbRBOGeTBCCKGqnSM",
    "XEbXmnCoCCeCbMHMFFMBNBFBBBCBCBeEbHfJGiKScMCcCbOKGQQQDCYDbHBBBDBBBBBBBBeWTKHbAEBBbAKdMDGCGCG",
    "CDbJMBbABTBCBPCObIeTcRcBfGBfAbDDbXPBbFbGNbEFbRFbECbKEIBFbQgCCKGbKEbKEbOIcAMLBPBHBCBLBPBHBCD",
    "cAMlZJWKIYGBbQBJcRGCBBbSBCDBCXKXJbFcNTBCKWKbAcScEGCcMEBCFIBDBbDCDEBbGbDDbDbJIBbEZcCKWKTNSeG",
    "cVcDbZNbZNbOIKGbMDFBXjQbQBCDCQDcDbHKBIbHbFWbQVbBXJcTbFQJcIHBNZHKGcBBKEEIbKCBJcREEBNBBbJSBbL",
    "GEcKHBBBEBPBKHcHFKGEBICCCWBHBCBFBKCCCDCBGBFHCHDFLKBBCBBbMBKBBCBBEBINCbDcXFKEEbEcSBBIKgKcCCJ",
    "XGbIcNDBLKbMcFHKGUbCbBCPEKGHhDcHdXcWVICBCIBCBbEBCCJMKcSICbUCIBCbBcLIBIcWDBScVhRbHPKGJBbTBJP",
    "KYbECWBOcVHBCBbSDBBCBJIKGGBCBbLBCBGHKlYXJRBbPDFNLdHBdBbjMdYeHRhOdxKdTPbpGQWKfxRFwLkdDcGcoSv",
    "XHbFBKGdBBKGbECFLcDJEMKJVFTqQbTDKhQcMeYcXEcFHRcMCBCLCOjcAIbvQbPKnfREBHBCBlFPBbDDCBOEIpGdkUe",
    "DFNDJHKDCgeRKtYbUCXuWFDGIICHbEEfSDrBdHBcTBCCBCCCEBMBBBHBcNBECIBHBbCBEBFBBDHBnCCZBZBbFBZBbFB",
    "ZBbFBZBbFBZBICbYtScDEbYIBOBWFBPbqMbFGGiFHBRCHBCBFFcKbHBeIbTDOCKEBmJbFRcGsCbQiGbRsRHBEBCBPBh",
    "PLHbPcYEKbtUEBbBBCBBCBBKBEBBBBGBEBBBBBBDBCBBCBBBBBBBBBBCBBCEBHBEBEBBBKBRFDBFBRfaAKbnQclfCbG",
    "gdUGiOCinQOlbLPxYdqWuWcfYhhZFgfGbonhGjG"]),
  (["xids", "xidstart"],
   ["cNbAGbAbVBKBEBFXBbFBrQEMOFHBBBeZFBCDDBBGBBDBBBUBdFBfJIgKBbMCBGbPcTbBEEbTbRbJCBdVBBPCHCKDCBQ",
    "BBbEbDdLLBYbHJCEBFWEBJBDBXZHLFYBGRbQcGcCDBSBHKPQEICCCWBHBBDEDBQBNCBDOCKBIGECCWBHBCBCBCbFEBB",
    "TDQJBDBWBHBCBFDBSBPCXBLICCCWBHBCBFDBbECBDPBRBBGDDBEDCBBBCDCDDDMWBcAIBDBXBQDBbADCBCCbEBEIBDB",
    "XBKBFDBbFCBCPCRJBDBbPCBQBFDIDYGFSDYBJBBCHcGbWBBNHcGCBBBFBYBBBKBBKBCFBBVEbGBcLIBbKbBFeLbRUBQ",
    "GEEDBDCHDENMBRbMBBFBCbRBmVBECHBBBECbPBECbHBECHBBBECPBcFBECcPbLQQdICGDxWCRBbAFcXDLHSNTOSONBD",
    "PcAbJBEBcPdLHbPBBFcSKbFbXbECFLbSEbAcCXJcBdEBdPbVRIcCbENCKbSbAbKbPDKbKCLFbRCDbPEBGBCDBFhKcMk",
    "SCGCbMCGCIBBBBBBBbFCcBBHBBDDBHDECGENFDBHeMBNBQNdXBEBCKBBCGGBBBBBBQCEFFEBRbPdzBiVGEDCMbMBBFB",
    "CcEHBQXJHBHBHBHBHBHBHBHvEDZJHFCFEdIGDBdMBEFbRBdQRbGbWQtSjtOcMbguFcPbUCkJDQKCUbVQbFCdCbNJCdZ",
    "CcPCCBBBIVQBDBEBXbDcAObYcKGDBBCLbCKXZbDHbVbCBQFBKKFBbPXDBIUXDBDbYBBDCCFCBBBYDCLHDMGCGCGJHBH",
    "BbRBOGeLbDqnSMXEbXmnCoCCeCbMHMFFBBKBNBFBBBCBCBeEbHfJGiKScMCcCbOKePBBBDBBBBBBBBeWbKbAGbALcEC",
    "bFDGCGCGCDbJMBbABTBCBPCObIeTcRcBkHbDDbXbVbGNbEFbMKbECbKEIBFbQgCSbKEbKEbOIcAMLBPBHBCBLBPBHBC",
    "DcAMlZJWKIYGBbQBJcRGCBBbSBCDBCXKXJbFcNTBCKWKbAcScEGCcMBPEBDBbDbQbDDbDbJIBbCbBcCKWKTNSeGcVcD",
    "bZNbZNbKbMbCJXjQbQGCQDcHbDKBIWbQSbUVbBXMcBcFCCBNbTbGZbAbKbDBCBIbJDBMbWOEVBBBbJSBZTCcLHBBBEB",
    "PBKHbVbMICCCWBHBCBFDBSBMFbEKBBCBBbMBBZBBBbScBSEUDbEbWUCBBhCbVbPEbKbWUBcHbRNBcTbBbLHhDbSeMcM",
    "bFICBCIBCBYPBBBdQICbNQBBBbCBKbOHBVBLbUTBScVhRbHbFJBbLRBbXbEeIHBCBbMVBZGBCBbGOBmPTPBBNBbIeUB",
    "dBbjMdYeHRhOdxKdTPbpGRGZfxRFwLkdDbEcpUvXHbFRdBRbESbWQEbFVFTqQbTiDcMeYcXFBcONcMCBBbCjcAIbvQb",
    "PKnfREBHBCBlFPBbDDCBOEIpGdkUeDFNDJHKiwKdHBcTBCCBCCCEBMBBBHBcNBECIBHBbCBEBFBBDHBnCCZBZBbFBZB",
    "bFBZBbFBZBbFBZBIcsYbFGGkBcKfQbTKHQBmJbESbSsQbCiUbECBtBHBEBCBPBhPcHcQHBbuIEBbBBCBBCBBKBEBBBB",
    "GBEBBBBBBDBCBBCBBBBBBBBBBCBBCEBHBEBEBBBKBRFDBFBRgoAclfCbGgdUGiOCinQOlbLPxYdqWuWcfYhhZFgfG"])]

end Alerting.Unicode.Tables
