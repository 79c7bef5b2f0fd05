/-!
# Case folding

The groups of characters that differ in case only, under the simple folding of version 16 of the
character database. A group is written as its size, the distance of its first member from the first
member of the group before it, and the distances between its members.
-/

namespace Alerting.Unicode.Tables

def caseGroups : List String :=
  ["CcNbGCBbGCBbGCBbGCBbGCBbGCBbGCBbGCBbGCBbGDBbGmkLCBbGCBbGCBbGCBbGCBbGCBbGCBbGDBbGkICBbGCBbGCB",
   "bGCBbGCBbGCBbGCBbGDdNbcPbGCLbGCBbGCBbGCBbGCBbGDBbGmfUCBbGCBbGCBbGCBbGCBbGCBbGCBbGCBbGCBbGCB",
   "bGCBbGCBbGCBbGCBbGCBbGCBbGCBbGCCbGCBbGCBbGCBbGCBbGCBbGCBbGCBlgXCbGeRCBBCCBCCBCCBCCBCCBCCBCC",
   "BCCBCCBCCBCCBCCBCCBCCBCCBCCBCCBCCBCCBCCBCCBCCBCCBCEBCCBCCBCDBCCBCCBCCBCCBCCBCCBCCBCDBCCBCCB",
   "CCBCCBCCBCCBCCBCCBCCBCCBCCBCCBCCBCCBCCBCCBCCBCCBCCBCCBCCBCCBCDBCCBCCBCDhNCBiCCBBCCBCChYCBBC",
   "ChXCBhXCBBCDdBCBhUCBhVCBBCChXCBhZCBdTCBiDCBiBCBBCCgHCBckyZCBiDCBiFCBfACBiGCBBCCBCCBCCiKCBBC",
   "CiKCDBCCiKCBBCCiJCBiJCBBCCBCCiLCBBCEBCDcEDFBBDDBBDDBBCDBCCBCCBCCBCCBCCBCCBCCBCDBCCBCCBCCBCC",
   "BCCBCCBCCBCCBDDBBCDBCEBCCBCCBCCBCCBCCBCCBCCBCCBCCBCCBCCBCCBCCBCCBCCBCCBCCBCCBCCBCEBCCBCCBCC",
   "BCCBCCBCCBCCBCCBCIpzFCBBCDpzCCBpzZCBpzZCBBCDcRCBcTCBBCCBCCBCCBCCBCCpyTCBpyQCBpySCKckpRCFckp",
   "NCDckqPCBckoECBckpGCEckpGCBpxFCBckpDCFpxLCMpwPCFckpFCFckoGCWcknLCBcknIEgLdGbGkpXCbRBCCBCEBC",
   "FfACBfACBfACCeMCHbMCCbLCBbLCBbLCCcMCCcLCBcLCBksHCBbGDBbGbECBbGCBbGDBbGcMCBbGCBbGEBbGZbJDCbG",
   "cCCBbGCCbGCBbGCBbGDBbGWDBbGbWDCbFBCBbGCBbGDBbGPCBbGCBbGDBbGldDCBbGCBbGCFkrRCbFICJBCCBCCBCCB",
   "CCBCCBCCBCCBCCBCCBCCBCCBCEHCFBCDBCGdCCBdCCBdCCBdCCBdCCBdCCBdCCBdCCBdCCBdCCBdCCBdCCBdCCBdCCB",
   "dCCBdCCBbGCBbGDBbGjfICBbGDBbGjfHCBbGCBbGCBbGCBbGCBbGCBbGCBbGCBbGCBbGDBbGjeYCBbGCBbGDBbGjeWE",
   "BbGjeWBCBbGCBbGCBbGCBbGCBbGCBbGCBbGDBbGjeQCBbGCBbGCBbGCBbGCBbGCbXBDCBjdSCCBCCBCCBCCBCCBCCBC",
   "CBCCBCCBCCBCCBCCBCCBCCBCCBCKBCCBCCBCCBCCBCCBCCBCCBCCBCCBCCBCCBCCBCCBCCBCCBCCBCCBCCBCCBCCBCC",
   "BCCBCCBCCBCCBCCBCCPCBBCCBCCBCCBCCBCCBCCBCDBCCBCCBCCBCCBCCBCCBCCBCCBCCBCCBCCBCCBCCBCCBCCBCCB",
   "CCBCCBCCBCCBCCBCCBCCBCCBCCBCCBCCBCCBCCBCCBCCBCCBCCBCCBCCBCCBCCBCCBCCBCCBCCBCCBCCBCCBCCBCCBC",
   "CBCDbWCBbWCBbWCBbWCBbWCBbWCBbWCBbWCBbWCBbWCBbWCBbWCBbWCBbWCBbWCBbWCBbWCBbWCBbWCBbWCBbWCBbWC",
   "BbWCBbWCBbWCBbWCBbWCBbWCBbWCBbWCBbWCBbWCBbWCBbWCBbWCBbWCBbWCBbWCehEktKCBktKCBktKCBktKCBktKC",
   "BktKCBktKCBktKCBktKCBktKCBktKCBktKCBktKCBktKCBktKCBktKCBktKCBktKCBktKCBktKCBktKCBktKCBktKCB",
   "ktKCBktKCBktKCBktKCBktKCBktKCBktKCBktKCBktKCBktKCBktKCBktKCBktKCBktKCBktKCCktKCGktKCDelSCBe",
   "lSCBelSCBelSCBelSCBelSCBelSCBelSCBelSCBelSCBelSCBelSCBelSCBelSCBelSCBelSCBelSCBelSCBelSCBel",
   "SCBelSCBelSCBelSCBelSCBelSCBelSCBelSCBelSCBelSCBelSCBelSCBelSCBelSCBelSCBelSCBelSCBelSCBelS",
   "CBelSCBelSCBelSCBelSCBelSCDelSCBelSCBelSCzXcfmUCBcfmUCBcfmUCBcfmUCBcfmUCBcfmUCBcfmUCBcfmUCB",
   "cfmUCBcfmUCBcfmUCBcfmUCBcfmUCBcfmUCBcfmUCBcfmUCBcfmUCBcfmUCBcfmUCBcfmUCBcfmUCBcfmUCBcfmUCBc",
   "fmUCBcfmUCBcfmUCBcfmUCBcfmUCBcfmUCBcfmUCBcfmUCBcfmUCBcfmUCBcfmUCBcfmUCBcfmUCBcfmUCBcfmUCBcf",
   "mUCBcfmUCBcfmUCBcfmUCBcfmUCBcfmUCBcfmUCBcfmUCBcfmUCBcfmUCBcfmUCBcfmUCBcfmUCBcfmUCBcfmUCBcfm",
   "UCBcfmUCBcfmUCBcfmUCBcfmUCBcfmUCBcfmUCBcfmUCBcfmUCBcfmUCBcfmUCBcfmUCBcfmUCBcfmUCBcfmUCBcfmU",
   "CBcfmUCBcfmUCBcfmUCBcfmUCBcfmUCBcfmUCBcfmUCBcfmUCBcfmUCBcfmUCBcfmUCBICBICBICBICBICBIDdgLcae",
   "KBCBBCjGcagYCEfqSCRcaiYCeKBCCBCCBCCBCCBCCBCCBCCBCCBCCBCCBCCBCCBCCBCCBCCBCCBCCBCCBCCBCCBCCBC",
   "CBCCBCCBCCBCCBCCBCCBCCBCCBCCBCCBCCBCCBCCBCCBCCBCCBCCBCCBCCBCCBCCBCCBCCBCCBCCBDCBcGCCBCCBCCB",
   "CCBCCBCCBCCBCCBCCBCCBCCBCCBCCBCCBCCBCCBCCBCCBCCBCCBCCBCCBCCBCCBCCBCCBCMBCCBCCBCCBCCBCCBCCBC",
   "CBCCBCCBCCBCCBCCBCCBCCBCCBCCBCCBCCBCCBCCBCCBCCBCCBCCBCCBCCBCCBCCBCCBCCBCCBCCBCCBCCBCCBCCBCC",
   "BCCBCCBCCBCCBCCBCCBCCBCCBCCBCCBCCICBICBICBICBICBICBICBICJICBICBICBICBICBICLICBICBICBICBICBI",
   "CBICBICJICBICBICBICBICBICBICBICJICBICBICBICBICBICMICCICCICCICJICBICBICBICBICBICBICBICJcWCBc",
   "WCBdICBdICBdICBdICBdWCBdWCBeYCBeYCBeICBeICBeWCBeWCDICBICBICBICBICBICBICBICJICBICBICBICBICBI",
   "CBICBICJICBICBICBICBICBICBICBICJICBICCJCQJCNICBICPICBICEHCOJCmHbCCbUQCBQCBQCBQCBQCBQCBQCBQC",
   "BQCBQCBQCBQCBQCBQCBQCBQCUBCbfNbACBbACBbACBbACBbACBbACBbACBbACBbACBbACBbACBbACBbACBbACBbACBb",
   "ACBbACBbACBbACBbACBbACBbACBbACBbACBbACBbACcsVbWCBbWCBbWCBbWCBbWCBbWCBbWCBbWCBbWCBbWCBbWCBbW",
   "CBbWCBbWCBbWCBbWCBbWCBbWCBbWCBbWCBbWCBbWCBbWCBbWCBbWCBbWCBbWCBbWCBbWCBbWCBbWCBbWCBbWCBbWCBb",
   "WCBbWCBbWCBbWCBbWCBbWCBbWCBbWCBbWCBbWCBbWCBbWCBbWCBbWCbXBCHBCCBCCBCHBCDBCLBCCBCCBCCBCCBCCBC",
   "CBCCBCCBCCBCCBCCBCCBCCBCCBCCBCCBCCBCCBCCBCCBCCBCCBCCBCCBCCBCCBCCBCCBCCBCCBCCBCCBCCBCCBCCBCC",
   "BCCBCCBCCBCCBCCBCCBCCBCCBCCBCCBCCBCCBCCBCJBCCBCFBCbtyKBCCBCCBCCBCCBCEBCCBCCBCCBCCBCCBCCBCCB",
   "CCBCCBCCBCCBCCBCCBCCBCCBCCBCUBCCBCCBCCBCCBCCBCCBCCBCCBCCBCCBCCBCCBCCBCfGBCCBCCBCCBCCBCCBCCB",
   "CEBCCBCCBCCBCCBCCBCCBCCBCCBCCBCCBCCBCCBCCBCCBCCBCCBCCBCCBCCBCCBCCBCCBCCBCCBCCBCCBCCBCCBCCBC",
   "CBCLBCCBCDBCCBCCBCCBCCBCFBCFBCCBCCbWCCBCCBCCBCCBCCBCCBCCBCCBCCBCCBCLbjSCBBCCBCCBCCBCCBCCBCC",
   "BCCBCFBCCBCDBCEBCGBCCBCCBCbBBCbflWBCboMbGCBbGCBbGCBbGCBbGCBbGCBbGCBbGCBbGCBbGCBbGCBbGCBbGCB",
   "bGCBbGCBbGCBbGCBbGCBbGCBbGCBbGCBbGCBbGCBbGCBbGCBbGCbvAbOCBbOCBbOCBbOCBbOCBbOCBbOCBbOCBbOCBb",
   "OCBbOCBbOCBbOCBbOCBbOCBbOCBbOCBbOCBbOCBbOCBbOCBbOCBbOCBbOCBbOCBbOCBbOCBbOCBbOCBbOCBbOCBbOCB",
   "bOCBbOCBbOCBbOCBbOCBbOCBbOCBbOCfHbOCBbOCBbOCBbOCBbOCBbOCBbOCBbOCBbOCBbOCBbOCBbOCBbOCBbOCBbO",
   "CBbOCBbOCBbOCBbOCBbOCBbOCBbOCBbOCBbOCBbOCBbOCBbOCBbOCBbOCBbOCBbOCBbOCBbOCBbOCBbOCBbOCgBbNCB",
   "bNCBbNCBbNCBbNCBbNCBbNCBbNCBbNCBbNCBbNCCbNCBbNCBbNCBbNCBbNCBbNCBbNCBbNCBbNCBbNCBbNCBbNCBbNC",
   "BbNCBbNCCbNCBbNCBbNCBbNCBbNCBbNCBbNCCbNCBbNCcqDcMCBcMCBcMCBcMCBcMCBcMCBcMCBcMCBcMCBcMCBcMCB",
   "cMCBcMCBcMCBcMCBcMCBcMCBcMCBcMCBcMCBcMCBcMCBcMCBcMCBcMCBcMCBcMCBcMCBcMCBcMCBcMCBcMCBcMCBcMC",
   "BcMCBcMCBcMCBcMCBcMCBcMCBcMCBcMCBcMCBcMCBcMCBcMCBcMCBcMCBcMCBcMCBcMCgCbGCBbGCBbGCBbGCBbGCBb",
   "GCBbGCBbGCBbGCBbGCBbGCBbGCBbGCBbGCBbGCBbGCBbGCBbGCBbGCBbGCBbGCBbGCegPbGCBbGCBbGCBbGCBbGCBbG",
   "CBbGCBbGCBbGCBbGCBbGCBbGCBbGCBbGCBbGCBbGCBbGCBbGCBbGCBbGCBbGCBbGCBbGCBbGCBbGCBbGCBbGCBbGCBb",
   "GCBbGCBbGCBbGCbgjXbGCBbGCBbGCBbGCBbGCBbGCBbGCBbGCBbGCBbGCBbGCBbGCBbGCBbGCBbGCBbGCBbGCBbGCBb",
   "GCBbGCBbGCBbGCBbGCBbGCBbGCBbGCBbGCBbGCBbGCBbGCBbGCBbGCbulLbICBbICBbICBbICBbICBbICBbICBbICBb",
   "ICBbICBbICBbICBbICBbICBbICBbICBbICBbICBbICBbICBbICBbICBbICBbICBbICBbICBbICBbICBbICBbICBbICB",
   "bICBbICBbI"]

end Alerting.Unicode.Tables
