import ValueRules.Unicode.Property

/-!
Version 17 of the standard, as far as texts go by it: their cases, their quoting and the letters of
names. The tables are those of version 16, by which patterns go, with what was added or changed
since.
-/

namespace ValueRules.Unicode.Current

/-- The code points that had no character before. -/
def added : CharSet := .ofText
  "88F C5C CDC 1ACF-1ADD 1AE0-1AEB 20C1 2B96 A7CE-A7CF A7D2 A7D4 A7F1 FBC3-FBD2 FD90-FD91
   FDC8-FDCE 10940-10959 10EC5-10EC7 10ED0-10ED8 10EFA-10EFB 11B60-11B67 11DB0-11DDB 11DE0-11DE9
   16EA0-16EB8 16EBB-16ED3 16FF2-16FF6 187F8-187FF 18D09-18D1E 18D80-18DF2 1CCFA-1CCFC
   1CEBA-1CED0 1CEE0-1CEF0 1E6C0-1E6DE 1E6E0-1E6F5 1E6FE-1E6FF 1F6D8 1F777-1F77A 1F8D0-1F8D8
   1FA54-1FA57 1FA8A 1FA8E 1FAC8 1FACD 1FAEA 1FAEF 1FBFA 2B73A-2B73F 2CEA2-2CEAD 323B0-33479"

def addedNumber : CharSet := .ofText "11DE0-11DE9 16FF4-16FF6"

/-- Marks that were added and take no space of their own. -/
def addedNonspacingMark : CharSet := .ofText
  "1ACF-1ADD 1AE0-1AEB 10EFA-10EFB 11B60 11B62-11B64 11B66 1E6E3 1E6E6 1E6EE-1E6EF 1E6F5"

/-- What was added and is not alphabetic: the signs, digits and some marks. -/
def addedSign : CharSet := .ofText
  "1ACF-1ADD 1AE0-1AEB 20C1 2B96 FBC3-FBD2 FD90-FD91 FDC8-FDCE 10ED0-10ED8 11DE0-11DE9
   1CCFA-1CCFC 1CEBA-1CED0 1CEE0-1CEF0 1F6D8 1F777-1F77A 1F8D0-1F8D8 1FA54-1FA57 1FA8A 1FA8E
   1FAC8 1FACD 1FAEA 1FAEF 1FBFA"

def alphabetic : CharSet :=
  Unicode.alphabetic.union (added.diff addedSign)

def number : CharSet :=
  Unicode.number.union addedNumber

/-- One letter was found to have no case. -/
def cased : CharSet :=
  (Unicode.cased.union (.ofText "A7CE-A7CF A7D2 A7D4 A7F1 16EA0-16EB8 16EBB-16ED3")).diff
    (.ofText "295")

def caseIgnorable : CharSet := .unions
  [Unicode.caseIgnorable, addedNonspacingMark, .ofText "A7F1 10EC5 11DD9 16FF2-16FF3 1E6FF"]

def graphemeExtend : CharSet :=
  Unicode.graphemeExtend.union addedNonspacingMark

/-- Characters that have no form of their own on the page, the plain space apart. Those that can be
ignored where they cannot be shown are among them, such as the fillers of Hangul syllables. -/
def invisible : CharSet :=
  ((CharSet.unions [other, separator]).diff (added.union (.singleton ' '))).union defaultIgnorable

def toLower : CaseMap :=
  Unicode.toLower.extend (.ofText "A7CE:A7CF A7D2-A7D4/2:A7D3 16EA0-16EB8:16EBB")

def toUpper : CaseMap :=
  Unicode.toUpper.extend (.ofText "A7CF:A7CE A7D3-A7D5/2:A7D2 16EBB-16ED3:16EA0")

end ValueRules.Unicode.Current
