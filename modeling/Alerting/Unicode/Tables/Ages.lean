/-!
# Ages

The characters that each version of the character database added, up to version 16.
-/

namespace Alerting.Unicode.Tables

/-- The versions in their order with the characters they added. -/
def ages : List (List String × List String) := [
  (["1.1", "v11"],
   ["AtIEbEcEdLHbVBKWcSbACSCEBDBFHBBBUBbSBHDBBBBBBBBSNMBcOBMBbPJcBCCCCDbCCICCcDbMCHBbNBBbMKBJMbB",
    "FFXBOBDBBbAFTNOCcUCFBPBbECKtZDBcBCSCFDZQDBICCCWBHBBDECBBHCCCDJBECBFCVHBCGECCWBHBCBCBCCBBFEC",
    "CDLEBBHPMDBHBBBDBWBHBCBFCKBDBDCBPBFKRDBICCCWBHBCCECIDCCDICECBDELRCBGDDBEDCBBBCDCDDDIBDEFDDB",
    "EJBPMODBIBDBXBKBFEHBDBEHCJCEKSCBIBDBXBKBFEHBDBEHCHBBCEKSCBIBDBXBQEGCDBEJBICEKfPcGEbDbLCBBCC",
    "BBCBGEBHBDBBBBCCBNBDCFBBBGCKCCrIbMKbNEBEdMFcQFdEeoKfZFdMGWCGCbMCGCIBBBBBBBbFCcBBPBOCGBTCDBJ",
    "BbVBXbJHDbBRLbLSbEcFbAbWNdNVjIOBBeRfDbLbBLVfJVfUKdCQUGdIfPEBECbCBbJBBBEDBBHCHObFDYBOddHcEHB",
    "BdGEGCdQGbOEdQBQdSbDDbKbCbCDbYPMEbVBePEdVCbFjwBbexYyjQjxUiCHMFGZBFBBBCBCBeEbHoBQcMCcCbOMbKE",
    "MVEKBTBEEDBBBfFCBBdQCdQDGCGCGCDDHBHOD"]),
  (["2.0", "v20"],
   ["ccVRBNUBdmXcUBbHHbBEGBBBVDHBBfqNBuHBcatWqnSdOdaUefbQCdsyOCdsyOCdsyOCdsyOCdsyOCdsyOCdsyOCdsy",
    "OCdsyOCdsyOCdsyOCdsyOCdsyOhlxI"]),
  (["2.1", "v21"],
   ["mjSBdgoTB"]),
  (["3.0", "v30"],
   ["tIEbEICSeNFbXBKFdJJTBeMBDBBBBBBBbEBMBcOBMBbQCCEdOCgABhSDdUCFBPBbQFBOBbEDbBcBbXcfHCBSDYBJBBC",
    "HDBEGBBBISDoJBbRBXDHBBDBPCBbWbIBFBCBHDEGbAqGHBcLBBBECHBBBECbNBBBECbFBBBECHBBBECHBHBXBbFBBBE",
    "CHBbNBTGbCbJdHMyGJbDDdDfNdPDKWPBKGdKIbQcwBBYGdRDbYCdHCcUBdZJkJBeRBBbEfICrPIbHBdICpIjWccEbAB",
    "dLMiGbAMcIDDBnPYwMjtEbfeGbsVDSCQBMBDBBbgsCBbvVD"]),
  (["3.1", "v31"],
   ["bmYCdqqCbGbxWbFBEMbBgZbMCbMczdQjMKbNDgYvAdHBcTBCCBCCCEBMBBBEBCBcNBECIBHBbCBEBFBBDHBnAElEEbY",
    "pdWcleTbetDuWbpcqTBbEdS"]),
  (["3.2", "v32"],
   ["uYBlQBTNeACbCBfRCcFCCCCCbXQnMCmJBdnHCchJNBHLXJUMNBDBCdiXBGFEBHFNBcKCbYHdEPgMMjIOeUBbEcAkYUf",
    "VKdKIWCdMMCKiOOdMbCEQjWtSbzNDdJCICdQBjGQdDPdDPbrdICQBMBDBbgjAcHbjDBDQcBCbSBjBC"]),
  (["4.0", "v40"],
   ["uZBSDePCcLRdCIFDfVFtWEJJcMDfTCPBbTDbDDqUBhCBcPBBBfGBdGDNBcPBcHBeZIhLCefNBSKkCbDDMEMEBDbQCFe",
    "DbGbdOeEbcPCiWBzJClQBkQCeMIOCbrAOcrNCbXBbRCdAEgLEdVCbFBjtOcMcoqVBcVCqXMBbABTBCBPCObIeTFDEbT",
    "DJwEbEBBfECbMdCCKbgWGCBBbSBCDBCBcyuIdJnYBbtkdAjG"]),
  (["4.1", "v41"],
   ["vVLkSFgDEjMCgOBbIDcPBSBcGGjHbEuHBdCBsTBbVBbmNClJCBBkGBcLBcLBbNBbFBbFBbFBPBbNBXCbFbAcgCbQGbA",
    "GKECbGbCCCbgMdKzHCBHbXFbDEcBBdCBPByULwABdXCSLFQkKHbgHGjCbVBbVbHeDObTKcCJBQXJHBHBHBHBHBHBHBH",
    "bHYECbjUQgSBbpiTWctOXiZbSbfeAeCbfQKbfAcXuNbKEOciSEBCFIBDBbBEDEJIJcxpVcSbrAC"]),
  (["5.0", "v50"],
   ["wGOlNDmZBbQGQEgKBtXcHoUCBCbhICNCfiJcYEbTwLHbZCbcUEdPCcBBxBMbbMBkQEbgJHFEmENHEbulJEFClAcEbko",
    "MbAFBirGbhVfPdVNEcogISbqUC"]),
  (["5.1", "v51"],
   ["bhWECCdJBhBBfKQiSFLFbGFlQStDCiOBbJBhYBbDCeEBeEBbACICUIhHBGBbDCMGDHsXCdTBDDcZBFBCBHDEGbAcMEC",
    "dbEBbbXbRDMcScEDPDbZmTbCgZEdMGnSBfJBdQBcBEbyABVKDEkEBbFEbfFFEbPDFkUDBDEGnQbGYECTbdKBgGUbppO",
    "IbzOlOUbGCSIbCfBFCeDeGFeYcRJMbMdGLBgEcDJOCKCEbfsUDbhPMcAbUfAbDDbXckDbAFBcxsJBlrQbSEdW"]),
  (["5.2", "v52"],
   ["byQCbcCbUCPhLBcZBGBbJCeYBcfPEhLEhGFcQFdEGtSByGJvOcSgYCbUBcRcLBbDCLGKGOvAbJkGBbaUDfVDcCBxIBb",
    "aRCbDDEKBTBBEYdJBbnHFkSBNCeDHmHBboCMbplSIbxKbWqAdKmAKgKbCdWbDDdABLECeYbCEcPYFiQbUCKqoKXEbXn",
    "bBDfgCWBJhECmMbGeYcCDbDCbBFIeYcVuPbFtTcOlvQbpFctnDLFbFCBLBBBCBDBDFIBHBZBBCCBKECBeHBPbIOJcql",
    "JgdP"]),
  (["6.0", "v60"],
   ["bySCjOBcKBsMbCCBiLCTBGCbBFtMGqRBQBTBwBEcVCbiOCdeNcAIEtOBzOIbCBbfJLbcCBTBBEbDBECbCBbJBBBEDJC",
    "cADYBOBOCcdKBOBbpODbseNClNCBCOKdCBbdUGCGCGJHBHbemTQhrIdAEbEbheEvXbalBCymGPCOCPBPdCBBLBBBCBD",
    "BDFIBHBKGJBBCCBKECBKcXbABCbVJVCgSbHPGBcSDUMbLBFVRPcLBBBhABEDcKSYfRFBQBDBBBBBBBDBGCEBBCEBMEL",
    "bWcScGeMcuqMiO"]),
  (["6.1", "v61"],
   ["ccTBeMBzRBBLcDbBtDBbmRCsTBFBbVDebBDMGjWIbREecQBBBbyQCbZBFBcEChUKbraEBcnNIbJBjICWBcZCbcOXbdz",
    "ZCfuUcEGCcrOZHKGcBBOcIcVHKbtUcEIKbhkOcRLbVQRbvwIEBbBBCBBCBBKBEBBBBGBEBBBBBBDBCBBCBBBBBBBBBB",
    "CBBCEBHBEBEBBBKBRFDBFBRcACyICblSEhGBQBDBBBBBBBDBGCEBBCEB"]),
  (["6.2", "v62"],
   ["mkGB"]),
  (["6.3", "v63"],
   ["ciEBjyVE"]),
  (["7.0", "v70"],
   ["biLBqIIdPCeOBzRBLGcYBeQBHByPBbZBcYBeXBiUKdkRIvCCpLPvXCjDPbbHDbfQHbdTBbqIDKbACbGCbIDMBIxUHbt",
    "oVGjMMLDCCcRBsUbFeVEgUbWECbfiVHbhDCTBmHbCbJBbWbRoZbOIcALBfOlZJWKIjOcLIJrWbGbGbNEMfHSHEMHbvJ",
    "BiAbNdIBMBGULSBbReKcHFKHDBICCCWBHBCBFCJCCCDJBFHCHDFkHcUIKgKcCCScCcRLKwKdFMBrGcFdfIbQhUMFBba",
    "lFbFBKECdSbECGKcSKKBHBVFTbemAeDFNDJHKCIqkYhPCQczWBbGWVCuMMJBcSBWMbLBFEFMRHcTBBBhABECcLCEHbD",
    "SBbPBdIcSCNbWcSKQNDEfKdHbRMEcEIKGbOIbE"]),
  (["8.0", "v80"],
   ["dhRCbUBuNBnOBkABcmVBCGevOBhVCdyEEbrwVJcoUBjGBbIGmMCxMEMdCbffQCebGTBCFFhGCCQCbUyQbZNbZHGbvDE",
    "OFgEHBBBEBPBLdIBdBByJUlEbADPEQerPBiWhOlqQwLcawLLchZzCPFBPjhDDdACdBFbKIjVBcXFjJCfJBwDJdZFcHB",
    "cucLinQ"]),
  (["9.0", "v90"],
   ["dhUIWPbjPBhYBEDBHXDfrZJoGBchBEdxCCbtzLBkSBbhqDCbeVbKEbKfaOBrHdMBBBBtUNccXJBbTBOKbDDbGCWBObf",
    "mVBbFjbPTbdBbgfLHBRCHBCBFdiZcXFKECddBSfMBbfYBbPBlOCbHDvAGBIIBCMBMEPbMN"]),
  (["10.0", "v100"],
   ["deMLpLCjSGtSBcGCfyWBjUEbbHBbfZBczAByCFbcMBbpxNVblpIDiqQcUIcACXBFxHHBCBbSDBBCBJIKbfgPByhKkZd",
    "DpGyaEGbrPCbICtZMTBIIBCZBSNbMGcEXdcpDlbL"]),
  (["11.0", "v110"],
   ["caYBbNBdYBuFDiDBlMBePBpHBeXBenRBboHbRCDfrMDWZEPwPFbcIBbpyHFcyHBICmMCbkvCCSBbaTbOIKrMbOIbQoH",
    "BeODtGBlEBbaXBiVcIxLBbbEGBCBbLBCBGHKlYZbeaPdNjpIFbcjUUeWHjlWcQbsCBceZBiLEoIDbCFCEDBBEYLNKHC",
    "bKZdSO"]),
  (["12.0", "v120"],
   ["esTBuGBCBCBBGEBHBHCCBNBfkHBfpUBcBBwTBbtzMGCFbjRCbmbGXbrKBxCBbcPICbUCLgDCbzMbYNBhqUJwjKGEBbV",
    "JdMCjcWGprCDREsaQbTDOCKECoEcGFBcjZBbkNcJbpEBcbGBbKBiVMlDDbVBbXBJBbPGDCKGDICDbWdGbCEEDFDNG"]),
  (["12.1", "v121"],
   ["tiDB"]),
  (["13.0", "v130"],
   ["diCKzDBqOBeUBfaJCgjUBbaUDbhOFkpIKbfdGNcySEbQCcBBbfVEbgqQBewXbQBDCCjUbCoPBfECzABFCbtMHCBCIBC",
    "BbEBCCMJKckKBbejRBLCkfXsPbQJblwUDdPDcJBbyUCbJCqTCdMBdXBECbQCGDbDBgMBOEPTHHJDNHbPfRBcDbLKcms",
    "JHbhtQhhZ"]),
  (["14.0", "v140"],
   ["ciFBwWbFBCGIVBSLbhPBbGBeXBdwHBHBJBjFBbaNOeVBbWCyLBbbHBeiOBbVBtFLbraTDcyICOCBBBFYDbftDBoRQeX",
    "BbUCcvGLBPBHBCBLBPBHBCrJGBbQBJcxXbAiWGcYBcgSBfEHbhPQhwYdVwdXdBBKbaeWEBHBClCEliBbUCXJeMvDCey",
    "VbFbhXbFbzDHBEBCBPfqKDkMBpCBdEBgSCbSEKEIDRDGIIHcncPCgeVE"]),
  (["15.0", "v150"],
   ["exNBsGBdtaKDbfZDdiCKbnARBbPDbChxDBJbDbvhKBbIBmrAUerHGkBcKbHBbpWbQguCBfVDEFdLBzRDPCbKDLDBBOC",
    "KCMBOCcthOBbiwSgfG"]),
  (["15.1", "v151"],
   ["seMEtBBkeiQxY"]),
  (["16.0", "v160"],
   ["dgPBhcGCbVBkFCcwYDffECbsqVDMDbjoLcActWbMDbDIClUDcDBbsLKBBCBBbMBKBBCBBEBKBCICbcVUbvWbIOKbhGB",
    "hyZfxRkzTcGeoKcGlyJBxwIjQGqUitObREBhcCKECrNBFBbUBHBVBCBJBiRbL"])]

end Alerting.Unicode.Tables
