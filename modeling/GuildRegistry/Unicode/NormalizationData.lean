
/-! Canonical normalization data of Unicode 15.0.0.

The combining classes are entries of a first code point in upper-case hexadecimal, `k`, and the
class in hexadecimal; a range reaches up to the next entry. The canonical decompositions are entries
of a code point, `p` when the pair it decomposes to composes back to it (a primary composite) or `d`
otherwise, and the code points of its decomposition separated by dots.
-/

set_option autoImplicit false

namespace GuildRegistry.Unicode

/-- The canonical combining classes, in code point order. -/
def combiningClassText : String :=
  "0k0 300kE6 315kE8 316kDC 31AkE8 31BkD8 31CkDC 321kCA 323kDC 327kCA 329kDC 334k1 339kDC 33DkE6
  345kF0 346kE6 347kDC 34AkE6 34DkDC 34Fk0 350kE6 353kDC 357kE6 358kE8 359kDC 35BkE6 35CkE9 35DkEA
  35FkE9 360kEA 362kE9 363kE6 370k0 483kE6 488k0 591kDC 592kE6 596kDC 597kE6 59AkDE 59BkDC 59CkE6
  5A2kDC 5A8kE6 5AAkDC 5ABkE6 5ADkDE 5AEkE4 5AFkE6 5B0kA 5B1kB 5B2kC 5B3kD 5B4kE 5B5kF 5B6k10
  5B7k11 5B8k12 5B9k13 5BBk14 5BCk15 5BDk16 5BEk0 5BFk17 5C0k0 5C1k18 5C2k19 5C3k0 5C4kE6 5C5kDC
  5C6k0 5C7k12 5C8k0 610kE6 618k1E 619k1F 61Ak20 61Bk0 64Bk1B 64Ck1C 64Dk1D 64Ek1E 64Fk1F 650k20
  651k21 652k22 653kE6 655kDC 657kE6 65CkDC 65DkE6 65FkDC 660k0 670k23 671k0 6D6kE6 6DDk0 6DFkE6
  6E3kDC 6E4kE6 6E5k0 6E7kE6 6E9k0 6EAkDC 6EBkE6 6EDkDC 6EEk0 711k24 712k0 730kE6 731kDC 732kE6
  734kDC 735kE6 737kDC 73AkE6 73BkDC 73DkE6 73EkDC 73FkE6 742kDC 743kE6 744kDC 745kE6 746kDC
  747kE6 748kDC 749kE6 74Bk0 7EBkE6 7F2kDC 7F3kE6 7F4k0 7FDkDC 7FEk0 816kE6 81Ak0 81BkE6 824k0
  825kE6 828k0 829kE6 82Ek0 859kDC 85Ck0 898kE6 899kDC 89CkE6 8A0k0 8CAkE6 8CFkDC 8D4kE6 8E2k0
  8E3kDC 8E4kE6 8E6kDC 8E7kE6 8E9kDC 8EAkE6 8EDkDC 8F0k1B 8F1k1C 8F2k1D 8F3kE6 8F6kDC 8F7kE6
  8F9kDC 8FBkE6 900k0 93Ck7 93Dk0 94Dk9 94Ek0 951kE6 952kDC 953kE6 955k0 9BCk7 9BDk0 9CDk9 9CEk0
  9FEkE6 9FFk0 A3Ck7 A3Dk0 A4Dk9 A4Ek0 ABCk7 ABDk0 ACDk9 ACEk0 B3Ck7 B3Dk0 B4Dk9 B4Ek0 BCDk9 BCEk0
  C3Ck7 C3Dk0 C4Dk9 C4Ek0 C55k54 C56k5B C57k0 CBCk7 CBDk0 CCDk9 CCEk0 D3Bk9 D3Dk0 D4Dk9 D4Ek0
  DCAk9 DCBk0 E38k67 E3Ak9 E3Bk0 E48k6B E4Ck0 EB8k76 EBAk9 EBBk0 EC8k7A ECCk0 F18kDC F1Ak0 F35kDC
  F36k0 F37kDC F38k0 F39kD8 F3Ak0 F71k81 F72k82 F73k0 F74k84 F75k0 F7Ak82 F7Ek0 F80k82 F81k0
  F82kE6 F84k9 F85k0 F86kE6 F88k0 FC6kDC FC7k0 1037k7 1038k0 1039k9 103Bk0 108DkDC 108Ek0 135DkE6
  1360k0 1714k9 1716k0 1734k9 1735k0 17D2k9 17D3k0 17DDkE6 17DEk0 18A9kE4 18AAk0 1939kDE 193AkE6
  193BkDC 193Ck0 1A17kE6 1A18kDC 1A19k0 1A60k9 1A61k0 1A75kE6 1A7Dk0 1A7FkDC 1A80k0 1AB0kE6
  1AB5kDC 1ABBkE6 1ABDkDC 1ABEk0 1ABFkDC 1AC1kE6 1AC3kDC 1AC5kE6 1ACAkDC 1ACBkE6 1ACFk0 1B34k7
  1B35k0 1B44k9 1B45k0 1B6BkE6 1B6CkDC 1B6DkE6 1B74k0 1BAAk9 1BACk0 1BE6k7 1BE7k0 1BF2k9 1BF4k0
  1C37k7 1C38k0 1CD0kE6 1CD3k0 1CD4k1 1CD5kDC 1CDAkE6 1CDCkDC 1CE0kE6 1CE1k0 1CE2k1 1CE9k0 1CEDkDC
  1CEEk0 1CF4kE6 1CF5k0 1CF8kE6 1CFAk0 1DC0kE6 1DC2kDC 1DC3kE6 1DCAkDC 1DCBkE6 1DCDkEA 1DCEkD6
  1DCFkDC 1DD0kCA 1DD1kE6 1DF6kE8 1DF7kE4 1DF9kDC 1DFAkDA 1DFBkE6 1DFCkE9 1DFDkDC 1DFEkE6 1DFFkDC
  1E00k0 20D0kE6 20D2k1 20D4kE6 20D8k1 20DBkE6 20DDk0 20E1kE6 20E2k0 20E5k1 20E7kE6 20E8kDC
  20E9kE6 20EAk1 20ECkDC 20F0kE6 20F1k0 2CEFkE6 2CF2k0 2D7Fk9 2D80k0 2DE0kE6 2E00k0 302AkDA
  302BkE4 302CkE8 302DkDE 302EkE0 3030k0 3099k8 309Bk0 A66FkE6 A670k0 A674kE6 A67Ek0 A69EkE6
  A6A0k0 A6F0kE6 A6F2k0 A806k9 A807k0 A82Ck9 A82Dk0 A8C4k9 A8C5k0 A8E0kE6 A8F2k0 A92BkDC A92Ek0
  A953k9 A954k0 A9B3k7 A9B4k0 A9C0k9 A9C1k0 AAB0kE6 AAB1k0 AAB2kE6 AAB4kDC AAB5k0 AAB7kE6 AAB9k0
  AABEkE6 AAC0k0 AAC1kE6 AAC2k0 AAF6k9 AAF7k0 ABEDk9 ABEEk0 FB1Ek1A FB1Fk0 FE20kE6 FE27kDC FE2EkE6
  FE30k0 101FDkDC 101FEk0 102E0kDC 102E1k0 10376kE6 1037Bk0 10A0DkDC 10A0Ek0 10A0FkE6 10A10k0
  10A38kE6 10A39k1 10A3AkDC 10A3Bk0 10A3Fk9 10A40k0 10AE5kE6 10AE6kDC 10AE7k0 10D24kE6 10D28k0
  10EABkE6 10EADk0 10EFDkDC 10F00k0 10F46kDC 10F48kE6 10F4BkDC 10F4CkE6 10F4DkDC 10F51k0 10F82kE6
  10F83kDC 10F84kE6 10F85kDC 10F86k0 11046k9 11047k0 11070k9 11071k0 1107Fk9 11080k0 110B9k9
  110BAk7 110BBk0 11100kE6 11103k0 11133k9 11135k0 11173k7 11174k0 111C0k9 111C1k0 111CAk7 111CBk0
  11235k9 11236k7 11237k0 112E9k7 112EAk9 112EBk0 1133Bk7 1133Dk0 1134Dk9 1134Ek0 11366kE6 1136Dk0
  11370kE6 11375k0 11442k9 11443k0 11446k7 11447k0 1145EkE6 1145Fk0 114C2k9 114C3k7 114C4k0
  115BFk9 115C0k7 115C1k0 1163Fk9 11640k0 116B6k9 116B7k7 116B8k0 1172Bk9 1172Ck0 11839k9 1183Ak7
  1183Bk0 1193Dk9 1193Fk0 11943k7 11944k0 119E0k9 119E1k0 11A34k9 11A35k0 11A47k9 11A48k0 11A99k9
  11A9Ak0 11C3Fk9 11C40k0 11D42k7 11D43k0 11D44k9 11D46k0 11D97k9 11D98k0 11F41k9 11F43k0 16AF0k1
  16AF5k0 16B30kE6 16B37k0 16FF0k6 16FF2k0 1BC9Ek1 1BC9Fk0 1D165kD8 1D167k1 1D16Ak0 1D16DkE2
  1D16EkD8 1D173k0 1D17BkDC 1D183k0 1D185kE6 1D18AkDC 1D18Ck0 1D1AAkE6 1D1AEk0 1D242kE6 1D245k0
  1E000kE6 1E007k0 1E008kE6 1E019k0 1E01BkE6 1E022k0 1E023kE6 1E025k0 1E026kE6 1E02Bk0 1E08FkE6
  1E090k0 1E130kE6 1E137k0 1E2AEkE6 1E2AFk0 1E2ECkE6 1E2F0k0 1E4ECkE8 1E4EEkDC 1E4EFkE6 1E4F0k0
  1E8D0kDC 1E8D7k0 1E944kE6 1E94Ak7 1E94Bk0"

/-- The canonical decompositions, in code point order. -/
def decompositionText : String :=
  "C0p41.300 C1p41.301 C2p41.302 C3p41.303 C4p41.308 C5p41.30A C7p43.327 C8p45.300 C9p45.301
  CAp45.302 CBp45.308 CCp49.300 CDp49.301 CEp49.302 CFp49.308 D1p4E.303 D2p4F.300 D3p4F.301
  D4p4F.302 D5p4F.303 D6p4F.308 D9p55.300 DAp55.301 DBp55.302 DCp55.308 DDp59.301 E0p61.300
  E1p61.301 E2p61.302 E3p61.303 E4p61.308 E5p61.30A E7p63.327 E8p65.300 E9p65.301 EAp65.302
  EBp65.308 ECp69.300 EDp69.301 EEp69.302 EFp69.308 F1p6E.303 F2p6F.300 F3p6F.301 F4p6F.302
  F5p6F.303 F6p6F.308 F9p75.300 FAp75.301 FBp75.302 FCp75.308 FDp79.301 FFp79.308 100p41.304
  101p61.304 102p41.306 103p61.306 104p41.328 105p61.328 106p43.301 107p63.301 108p43.302
  109p63.302 10Ap43.307 10Bp63.307 10Cp43.30C 10Dp63.30C 10Ep44.30C 10Fp64.30C 112p45.304
  113p65.304 114p45.306 115p65.306 116p45.307 117p65.307 118p45.328 119p65.328 11Ap45.30C
  11Bp65.30C 11Cp47.302 11Dp67.302 11Ep47.306 11Fp67.306 120p47.307 121p67.307 122p47.327
  123p67.327 124p48.302 125p68.302 128p49.303 129p69.303 12Ap49.304 12Bp69.304 12Cp49.306
  12Dp69.306 12Ep49.328 12Fp69.328 130p49.307 134p4A.302 135p6A.302 136p4B.327 137p6B.327
  139p4C.301 13Ap6C.301 13Bp4C.327 13Cp6C.327 13Dp4C.30C 13Ep6C.30C 143p4E.301 144p6E.301
  145p4E.327 146p6E.327 147p4E.30C 148p6E.30C 14Cp4F.304 14Dp6F.304 14Ep4F.306 14Fp6F.306
  150p4F.30B 151p6F.30B 154p52.301 155p72.301 156p52.327 157p72.327 158p52.30C 159p72.30C
  15Ap53.301 15Bp73.301 15Cp53.302 15Dp73.302 15Ep53.327 15Fp73.327 160p53.30C 161p73.30C
  162p54.327 163p74.327 164p54.30C 165p74.30C 168p55.303 169p75.303 16Ap55.304 16Bp75.304
  16Cp55.306 16Dp75.306 16Ep55.30A 16Fp75.30A 170p55.30B 171p75.30B 172p55.328 173p75.328
  174p57.302 175p77.302 176p59.302 177p79.302 178p59.308 179p5A.301 17Ap7A.301 17Bp5A.307
  17Cp7A.307 17Dp5A.30C 17Ep7A.30C 1A0p4F.31B 1A1p6F.31B 1AFp55.31B 1B0p75.31B 1CDp41.30C
  1CEp61.30C 1CFp49.30C 1D0p69.30C 1D1p4F.30C 1D2p6F.30C 1D3p55.30C 1D4p75.30C 1D5pDC.304
  1D6pFC.304 1D7pDC.301 1D8pFC.301 1D9pDC.30C 1DApFC.30C 1DBpDC.300 1DCpFC.300 1DEpC4.304
  1DFpE4.304 1E0p226.304 1E1p227.304 1E2pC6.304 1E3pE6.304 1E6p47.30C 1E7p67.30C 1E8p4B.30C
  1E9p6B.30C 1EAp4F.328 1EBp6F.328 1ECp1EA.304 1EDp1EB.304 1EEp1B7.30C 1EFp292.30C 1F0p6A.30C
  1F4p47.301 1F5p67.301 1F8p4E.300 1F9p6E.300 1FApC5.301 1FBpE5.301 1FCpC6.301 1FDpE6.301
  1FEpD8.301 1FFpF8.301 200p41.30F 201p61.30F 202p41.311 203p61.311 204p45.30F 205p65.30F
  206p45.311 207p65.311 208p49.30F 209p69.30F 20Ap49.311 20Bp69.311 20Cp4F.30F 20Dp6F.30F
  20Ep4F.311 20Fp6F.311 210p52.30F 211p72.30F 212p52.311 213p72.311 214p55.30F 215p75.30F
  216p55.311 217p75.311 218p53.326 219p73.326 21Ap54.326 21Bp74.326 21Ep48.30C 21Fp68.30C
  226p41.307 227p61.307 228p45.327 229p65.327 22ApD6.304 22BpF6.304 22CpD5.304 22DpF5.304
  22Ep4F.307 22Fp6F.307 230p22E.304 231p22F.304 232p59.304 233p79.304 340d300 341d301 343d313
  344d308.301 374d2B9 37Ed3B 385pA8.301 386p391.301 387dB7 388p395.301 389p397.301 38Ap399.301
  38Cp39F.301 38Ep3A5.301 38Fp3A9.301 390p3CA.301 3AAp399.308 3ABp3A5.308 3ACp3B1.301 3ADp3B5.301
  3AEp3B7.301 3AFp3B9.301 3B0p3CB.301 3CAp3B9.308 3CBp3C5.308 3CCp3BF.301 3CDp3C5.301 3CEp3C9.301
  3D3p3D2.301 3D4p3D2.308 400p415.300 401p415.308 403p413.301 407p406.308 40Cp41A.301 40Dp418.300
  40Ep423.306 419p418.306 439p438.306 450p435.300 451p435.308 453p433.301 457p456.308 45Cp43A.301
  45Dp438.300 45Ep443.306 476p474.30F 477p475.30F 4C1p416.306 4C2p436.306 4D0p410.306 4D1p430.306
  4D2p410.308 4D3p430.308 4D6p415.306 4D7p435.306 4DAp4D8.308 4DBp4D9.308 4DCp416.308 4DDp436.308
  4DEp417.308 4DFp437.308 4E2p418.304 4E3p438.304 4E4p418.308 4E5p438.308 4E6p41E.308 4E7p43E.308
  4EAp4E8.308 4EBp4E9.308 4ECp42D.308 4EDp44D.308 4EEp423.304 4EFp443.304 4F0p423.308 4F1p443.308
  4F2p423.30B 4F3p443.30B 4F4p427.308 4F5p447.308 4F8p42B.308 4F9p44B.308 622p627.653 623p627.654
  624p648.654 625p627.655 626p64A.654 6C0p6D5.654 6C2p6C1.654 6D3p6D2.654 929p928.93C 931p930.93C
  934p933.93C 958d915.93C 959d916.93C 95Ad917.93C 95Bd91C.93C 95Cd921.93C 95Dd922.93C 95Ed92B.93C
  95Fd92F.93C 9CBp9C7.9BE 9CCp9C7.9D7 9DCd9A1.9BC 9DDd9A2.9BC 9DFd9AF.9BC A33dA32.A3C A36dA38.A3C
  A59dA16.A3C A5AdA17.A3C A5BdA1C.A3C A5EdA2B.A3C B48pB47.B56 B4BpB47.B3E B4CpB47.B57 B5CdB21.B3C
  B5DdB22.B3C B94pB92.BD7 BCApBC6.BBE BCBpBC7.BBE BCCpBC6.BD7 C48pC46.C56 CC0pCBF.CD5 CC7pCC6.CD5
  CC8pCC6.CD6 CCApCC6.CC2 CCBpCCA.CD5 D4ApD46.D3E D4BpD47.D3E D4CpD46.D57 DDApDD9.DCA DDCpDD9.DCF
  DDDpDDC.DCA DDEpDD9.DDF F43dF42.FB7 F4DdF4C.FB7 F52dF51.FB7 F57dF56.FB7 F5CdF5B.FB7 F69dF40.FB5
  F73dF71.F72 F75dF71.F74 F76dFB2.F80 F78dFB3.F80 F81dF71.F80 F93dF92.FB7 F9DdF9C.FB7 FA2dFA1.FB7
  FA7dFA6.FB7 FACdFAB.FB7 FB9dF90.FB5 1026p1025.102E 1B06p1B05.1B35 1B08p1B07.1B35 1B0Ap1B09.1B35
  1B0Cp1B0B.1B35 1B0Ep1B0D.1B35 1B12p1B11.1B35 1B3Bp1B3A.1B35 1B3Dp1B3C.1B35 1B40p1B3E.1B35
  1B41p1B3F.1B35 1B43p1B42.1B35 1E00p41.325 1E01p61.325 1E02p42.307 1E03p62.307 1E04p42.323
  1E05p62.323 1E06p42.331 1E07p62.331 1E08pC7.301 1E09pE7.301 1E0Ap44.307 1E0Bp64.307 1E0Cp44.323
  1E0Dp64.323 1E0Ep44.331 1E0Fp64.331 1E10p44.327 1E11p64.327 1E12p44.32D 1E13p64.32D 1E14p112.300
  1E15p113.300 1E16p112.301 1E17p113.301 1E18p45.32D 1E19p65.32D 1E1Ap45.330 1E1Bp65.330
  1E1Cp228.306 1E1Dp229.306 1E1Ep46.307 1E1Fp66.307 1E20p47.304 1E21p67.304 1E22p48.307
  1E23p68.307 1E24p48.323 1E25p68.323 1E26p48.308 1E27p68.308 1E28p48.327 1E29p68.327 1E2Ap48.32E
  1E2Bp68.32E 1E2Cp49.330 1E2Dp69.330 1E2EpCF.301 1E2FpEF.301 1E30p4B.301 1E31p6B.301 1E32p4B.323
  1E33p6B.323 1E34p4B.331 1E35p6B.331 1E36p4C.323 1E37p6C.323 1E38p1E36.304 1E39p1E37.304
  1E3Ap4C.331 1E3Bp6C.331 1E3Cp4C.32D 1E3Dp6C.32D 1E3Ep4D.301 1E3Fp6D.301 1E40p4D.307 1E41p6D.307
  1E42p4D.323 1E43p6D.323 1E44p4E.307 1E45p6E.307 1E46p4E.323 1E47p6E.323 1E48p4E.331 1E49p6E.331
  1E4Ap4E.32D 1E4Bp6E.32D 1E4CpD5.301 1E4DpF5.301 1E4EpD5.308 1E4FpF5.308 1E50p14C.300
  1E51p14D.300 1E52p14C.301 1E53p14D.301 1E54p50.301 1E55p70.301 1E56p50.307 1E57p70.307
  1E58p52.307 1E59p72.307 1E5Ap52.323 1E5Bp72.323 1E5Cp1E5A.304 1E5Dp1E5B.304 1E5Ep52.331
  1E5Fp72.331 1E60p53.307 1E61p73.307 1E62p53.323 1E63p73.323 1E64p15A.307 1E65p15B.307
  1E66p160.307 1E67p161.307 1E68p1E62.307 1E69p1E63.307 1E6Ap54.307 1E6Bp74.307 1E6Cp54.323
  1E6Dp74.323 1E6Ep54.331 1E6Fp74.331 1E70p54.32D 1E71p74.32D 1E72p55.324 1E73p75.324 1E74p55.330
  1E75p75.330 1E76p55.32D 1E77p75.32D 1E78p168.301 1E79p169.301 1E7Ap16A.308 1E7Bp16B.308
  1E7Cp56.303 1E7Dp76.303 1E7Ep56.323 1E7Fp76.323 1E80p57.300 1E81p77.300 1E82p57.301 1E83p77.301
  1E84p57.308 1E85p77.308 1E86p57.307 1E87p77.307 1E88p57.323 1E89p77.323 1E8Ap58.307 1E8Bp78.307
  1E8Cp58.308 1E8Dp78.308 1E8Ep59.307 1E8Fp79.307 1E90p5A.302 1E91p7A.302 1E92p5A.323 1E93p7A.323
  1E94p5A.331 1E95p7A.331 1E96p68.331 1E97p74.308 1E98p77.30A 1E99p79.30A 1E9Bp17F.307 1EA0p41.323
  1EA1p61.323 1EA2p41.309 1EA3p61.309 1EA4pC2.301 1EA5pE2.301 1EA6pC2.300 1EA7pE2.300 1EA8pC2.309
  1EA9pE2.309 1EAApC2.303 1EABpE2.303 1EACp1EA0.302 1EADp1EA1.302 1EAEp102.301 1EAFp103.301
  1EB0p102.300 1EB1p103.300 1EB2p102.309 1EB3p103.309 1EB4p102.303 1EB5p103.303 1EB6p1EA0.306
  1EB7p1EA1.306 1EB8p45.323 1EB9p65.323 1EBAp45.309 1EBBp65.309 1EBCp45.303 1EBDp65.303
  1EBEpCA.301 1EBFpEA.301 1EC0pCA.300 1EC1pEA.300 1EC2pCA.309 1EC3pEA.309 1EC4pCA.303 1EC5pEA.303
  1EC6p1EB8.302 1EC7p1EB9.302 1EC8p49.309 1EC9p69.309 1ECAp49.323 1ECBp69.323 1ECCp4F.323
  1ECDp6F.323 1ECEp4F.309 1ECFp6F.309 1ED0pD4.301 1ED1pF4.301 1ED2pD4.300 1ED3pF4.300 1ED4pD4.309
  1ED5pF4.309 1ED6pD4.303 1ED7pF4.303 1ED8p1ECC.302 1ED9p1ECD.302 1EDAp1A0.301 1EDBp1A1.301
  1EDCp1A0.300 1EDDp1A1.300 1EDEp1A0.309 1EDFp1A1.309 1EE0p1A0.303 1EE1p1A1.303 1EE2p1A0.323
  1EE3p1A1.323 1EE4p55.323 1EE5p75.323 1EE6p55.309 1EE7p75.309 1EE8p1AF.301 1EE9p1B0.301
  1EEAp1AF.300 1EEBp1B0.300 1EECp1AF.309 1EEDp1B0.309 1EEEp1AF.303 1EEFp1B0.303 1EF0p1AF.323
  1EF1p1B0.323 1EF2p59.300 1EF3p79.300 1EF4p59.323 1EF5p79.323 1EF6p59.309 1EF7p79.309 1EF8p59.303
  1EF9p79.303 1F00p3B1.313 1F01p3B1.314 1F02p1F00.300 1F03p1F01.300 1F04p1F00.301 1F05p1F01.301
  1F06p1F00.342 1F07p1F01.342 1F08p391.313 1F09p391.314 1F0Ap1F08.300 1F0Bp1F09.300 1F0Cp1F08.301
  1F0Dp1F09.301 1F0Ep1F08.342 1F0Fp1F09.342 1F10p3B5.313 1F11p3B5.314 1F12p1F10.300 1F13p1F11.300
  1F14p1F10.301 1F15p1F11.301 1F18p395.313 1F19p395.314 1F1Ap1F18.300 1F1Bp1F19.300 1F1Cp1F18.301
  1F1Dp1F19.301 1F20p3B7.313 1F21p3B7.314 1F22p1F20.300 1F23p1F21.300 1F24p1F20.301 1F25p1F21.301
  1F26p1F20.342 1F27p1F21.342 1F28p397.313 1F29p397.314 1F2Ap1F28.300 1F2Bp1F29.300 1F2Cp1F28.301
  1F2Dp1F29.301 1F2Ep1F28.342 1F2Fp1F29.342 1F30p3B9.313 1F31p3B9.314 1F32p1F30.300 1F33p1F31.300
  1F34p1F30.301 1F35p1F31.301 1F36p1F30.342 1F37p1F31.342 1F38p399.313 1F39p399.314 1F3Ap1F38.300
  1F3Bp1F39.300 1F3Cp1F38.301 1F3Dp1F39.301 1F3Ep1F38.342 1F3Fp1F39.342 1F40p3BF.313 1F41p3BF.314
  1F42p1F40.300 1F43p1F41.300 1F44p1F40.301 1F45p1F41.301 1F48p39F.313 1F49p39F.314 1F4Ap1F48.300
  1F4Bp1F49.300 1F4Cp1F48.301 1F4Dp1F49.301 1F50p3C5.313 1F51p3C5.314 1F52p1F50.300 1F53p1F51.300
  1F54p1F50.301 1F55p1F51.301 1F56p1F50.342 1F57p1F51.342 1F59p3A5.314 1F5Bp1F59.300 1F5Dp1F59.301
  1F5Fp1F59.342 1F60p3C9.313 1F61p3C9.314 1F62p1F60.300 1F63p1F61.300 1F64p1F60.301 1F65p1F61.301
  1F66p1F60.342 1F67p1F61.342 1F68p3A9.313 1F69p3A9.314 1F6Ap1F68.300 1F6Bp1F69.300 1F6Cp1F68.301
  1F6Dp1F69.301 1F6Ep1F68.342 1F6Fp1F69.342 1F70p3B1.300 1F71d3AC 1F72p3B5.300 1F73d3AD
  1F74p3B7.300 1F75d3AE 1F76p3B9.300 1F77d3AF 1F78p3BF.300 1F79d3CC 1F7Ap3C5.300 1F7Bd3CD
  1F7Cp3C9.300 1F7Dd3CE 1F80p1F00.345 1F81p1F01.345 1F82p1F02.345 1F83p1F03.345 1F84p1F04.345
  1F85p1F05.345 1F86p1F06.345 1F87p1F07.345 1F88p1F08.345 1F89p1F09.345 1F8Ap1F0A.345
  1F8Bp1F0B.345 1F8Cp1F0C.345 1F8Dp1F0D.345 1F8Ep1F0E.345 1F8Fp1F0F.345 1F90p1F20.345
  1F91p1F21.345 1F92p1F22.345 1F93p1F23.345 1F94p1F24.345 1F95p1F25.345 1F96p1F26.345
  1F97p1F27.345 1F98p1F28.345 1F99p1F29.345 1F9Ap1F2A.345 1F9Bp1F2B.345 1F9Cp1F2C.345
  1F9Dp1F2D.345 1F9Ep1F2E.345 1F9Fp1F2F.345 1FA0p1F60.345 1FA1p1F61.345 1FA2p1F62.345
  1FA3p1F63.345 1FA4p1F64.345 1FA5p1F65.345 1FA6p1F66.345 1FA7p1F67.345 1FA8p1F68.345
  1FA9p1F69.345 1FAAp1F6A.345 1FABp1F6B.345 1FACp1F6C.345 1FADp1F6D.345 1FAEp1F6E.345
  1FAFp1F6F.345 1FB0p3B1.306 1FB1p3B1.304 1FB2p1F70.345 1FB3p3B1.345 1FB4p3AC.345 1FB6p3B1.342
  1FB7p1FB6.345 1FB8p391.306 1FB9p391.304 1FBAp391.300 1FBBd386 1FBCp391.345 1FBEd3B9 1FC1pA8.342
  1FC2p1F74.345 1FC3p3B7.345 1FC4p3AE.345 1FC6p3B7.342 1FC7p1FC6.345 1FC8p395.300 1FC9d388
  1FCAp397.300 1FCBd389 1FCCp397.345 1FCDp1FBF.300 1FCEp1FBF.301 1FCFp1FBF.342 1FD0p3B9.306
  1FD1p3B9.304 1FD2p3CA.300 1FD3d390 1FD6p3B9.342 1FD7p3CA.342 1FD8p399.306 1FD9p399.304
  1FDAp399.300 1FDBd38A 1FDDp1FFE.300 1FDEp1FFE.301 1FDFp1FFE.342 1FE0p3C5.306 1FE1p3C5.304
  1FE2p3CB.300 1FE3d3B0 1FE4p3C1.313 1FE5p3C1.314 1FE6p3C5.342 1FE7p3CB.342 1FE8p3A5.306
  1FE9p3A5.304 1FEAp3A5.300 1FEBd38E 1FECp3A1.314 1FEDpA8.300 1FEEd385 1FEFd60 1FF2p1F7C.345
  1FF3p3C9.345 1FF4p3CE.345 1FF6p3C9.342 1FF7p1FF6.345 1FF8p39F.300 1FF9d38C 1FFAp3A9.300 1FFBd38F
  1FFCp3A9.345 1FFDdB4 2000d2002 2001d2003 2126d3A9 212Ad4B 212BdC5 219Ap2190.338 219Bp2192.338
  21AEp2194.338 21CDp21D0.338 21CEp21D4.338 21CFp21D2.338 2204p2203.338 2209p2208.338
  220Cp220B.338 2224p2223.338 2226p2225.338 2241p223C.338 2244p2243.338 2247p2245.338
  2249p2248.338 2260p3D.338 2262p2261.338 226Dp224D.338 226Ep3C.338 226Fp3E.338 2270p2264.338
  2271p2265.338 2274p2272.338 2275p2273.338 2278p2276.338 2279p2277.338 2280p227A.338
  2281p227B.338 2284p2282.338 2285p2283.338 2288p2286.338 2289p2287.338 22ACp22A2.338
  22ADp22A8.338 22AEp22A9.338 22AFp22AB.338 22E0p227C.338 22E1p227D.338 22E2p2291.338
  22E3p2292.338 22EAp22B2.338 22EBp22B3.338 22ECp22B4.338 22EDp22B5.338 2329d3008 232Ad3009
  2ADCd2ADD.338 304Cp304B.3099 304Ep304D.3099 3050p304F.3099 3052p3051.3099 3054p3053.3099
  3056p3055.3099 3058p3057.3099 305Ap3059.3099 305Cp305B.3099 305Ep305D.3099 3060p305F.3099
  3062p3061.3099 3065p3064.3099 3067p3066.3099 3069p3068.3099 3070p306F.3099 3071p306F.309A
  3073p3072.3099 3074p3072.309A 3076p3075.3099 3077p3075.309A 3079p3078.3099 307Ap3078.309A
  307Cp307B.3099 307Dp307B.309A 3094p3046.3099 309Ep309D.3099 30ACp30AB.3099 30AEp30AD.3099
  30B0p30AF.3099 30B2p30B1.3099 30B4p30B3.3099 30B6p30B5.3099 30B8p30B7.3099 30BAp30B9.3099
  30BCp30BB.3099 30BEp30BD.3099 30C0p30BF.3099 30C2p30C1.3099 30C5p30C4.3099 30C7p30C6.3099
  30C9p30C8.3099 30D0p30CF.3099 30D1p30CF.309A 30D3p30D2.3099 30D4p30D2.309A 30D6p30D5.3099
  30D7p30D5.309A 30D9p30D8.3099 30DAp30D8.309A 30DCp30DB.3099 30DDp30DB.309A 30F4p30A6.3099
  30F7p30EF.3099 30F8p30F0.3099 30F9p30F1.3099 30FAp30F2.3099 30FEp30FD.3099 F900d8C48 F901d66F4
  F902d8ECA F903d8CC8 F904d6ED1 F905d4E32 F906d53E5 F907d9F9C F908d9F9C F909d5951 F90Ad91D1
  F90Bd5587 F90Cd5948 F90Dd61F6 F90Ed7669 F90Fd7F85 F910d863F F911d87BA F912d88F8 F913d908F
  F914d6A02 F915d6D1B F916d70D9 F917d73DE F918d843D F919d916A F91Ad99F1 F91Bd4E82 F91Cd5375
  F91Dd6B04 F91Ed721B F91Fd862D F920d9E1E F921d5D50 F922d6FEB F923d85CD F924d8964 F925d62C9
  F926d81D8 F927d881F F928d5ECA F929d6717 F92Ad6D6A F92Bd72FC F92Cd90CE F92Dd4F86 F92Ed51B7
  F92Fd52DE F930d64C4 F931d6AD3 F932d7210 F933d76E7 F934d8001 F935d8606 F936d865C F937d8DEF
  F938d9732 F939d9B6F F93Ad9DFA F93Bd788C F93Cd797F F93Dd7DA0 F93Ed83C9 F93Fd9304 F940d9E7F
  F941d8AD6 F942d58DF F943d5F04 F944d7C60 F945d807E F946d7262 F947d78CA F948d8CC2 F949d96F7
  F94Ad58D8 F94Bd5C62 F94Cd6A13 F94Dd6DDA F94Ed6F0F F94Fd7D2F F950d7E37 F951d964B F952d52D2
  F953d808B F954d51DC F955d51CC F956d7A1C F957d7DBE F958d83F1 F959d9675 F95Ad8B80 F95Bd62CF
  F95Cd6A02 F95Dd8AFE F95Ed4E39 F95Fd5BE7 F960d6012 F961d7387 F962d7570 F963d5317 F964d78FB
  F965d4FBF F966d5FA9 F967d4E0D F968d6CCC F969d6578 F96Ad7D22 F96Bd53C3 F96Cd585E F96Dd7701
  F96Ed8449 F96Fd8AAA F970d6BBA F971d8FB0 F972d6C88 F973d62FE F974d82E5 F975d63A0 F976d7565
  F977d4EAE F978d5169 F979d51C9 F97Ad6881 F97Bd7CE7 F97Cd826F F97Dd8AD2 F97Ed91CF F97Fd52F5
  F980d5442 F981d5973 F982d5EEC F983d65C5 F984d6FFE F985d792A F986d95AD F987d9A6A F988d9E97
  F989d9ECE F98Ad529B F98Bd66C6 F98Cd6B77 F98Dd8F62 F98Ed5E74 F98Fd6190 F990d6200 F991d649A
  F992d6F23 F993d7149 F994d7489 F995d79CA F996d7DF4 F997d806F F998d8F26 F999d84EE F99Ad9023
  F99Bd934A F99Cd5217 F99Dd52A3 F99Ed54BD F99Fd70C8 F9A0d88C2 F9A1d8AAA F9A2d5EC9 F9A3d5FF5
  F9A4d637B F9A5d6BAE F9A6d7C3E F9A7d7375 F9A8d4EE4 F9A9d56F9 F9AAd5BE7 F9ABd5DBA F9ACd601C
  F9ADd73B2 F9AEd7469 F9AFd7F9A F9B0d8046 F9B1d9234 F9B2d96F6 F9B3d9748 F9B4d9818 F9B5d4F8B
  F9B6d79AE F9B7d91B4 F9B8d96B8 F9B9d60E1 F9BAd4E86 F9BBd50DA F9BCd5BEE F9BDd5C3F F9BEd6599
  F9BFd6A02 F9C0d71CE F9C1d7642 F9C2d84FC F9C3d907C F9C4d9F8D F9C5d6688 F9C6d962E F9C7d5289
  F9C8d677B F9C9d67F3 F9CAd6D41 F9CBd6E9C F9CCd7409 F9CDd7559 F9CEd786B F9CFd7D10 F9D0d985E
  F9D1d516D F9D2d622E F9D3d9678 F9D4d502B F9D5d5D19 F9D6d6DEA F9D7d8F2A F9D8d5F8B F9D9d6144
  F9DAd6817 F9DBd7387 F9DCd9686 F9DDd5229 F9DEd540F F9DFd5C65 F9E0d6613 F9E1d674E F9E2d68A8
  F9E3d6CE5 F9E4d7406 F9E5d75E2 F9E6d7F79 F9E7d88CF F9E8d88E1 F9E9d91CC F9EAd96E2 F9EBd533F
  F9ECd6EBA F9EDd541D F9EEd71D0 F9EFd7498 F9F0d85FA F9F1d96A3 F9F2d9C57 F9F3d9E9F F9F4d6797
  F9F5d6DCB F9F6d81E8 F9F7d7ACB F9F8d7B20 F9F9d7C92 F9FAd72C0 F9FBd7099 F9FCd8B58 F9FDd4EC0
  F9FEd8336 F9FFd523A FA00d5207 FA01d5EA6 FA02d62D3 FA03d7CD6 FA04d5B85 FA05d6D1E FA06d66B4
  FA07d8F3B FA08d884C FA09d964D FA0Ad898B FA0Bd5ED3 FA0Cd5140 FA0Dd55C0 FA10d585A FA12d6674
  FA15d51DE FA16d732A FA17d76CA FA18d793C FA19d795E FA1Ad7965 FA1Bd798F FA1Cd9756 FA1Dd7CBE
  FA1Ed7FBD FA20d8612 FA22d8AF8 FA25d9038 FA26d90FD FA2Ad98EF FA2Bd98FC FA2Cd9928 FA2Dd9DB4
  FA2Ed90DE FA2Fd96B7 FA30d4FAE FA31d50E7 FA32d514D FA33d52C9 FA34d52E4 FA35d5351 FA36d559D
  FA37d5606 FA38d5668 FA39d5840 FA3Ad58A8 FA3Bd5C64 FA3Cd5C6E FA3Dd6094 FA3Ed6168 FA3Fd618E
  FA40d61F2 FA41d654F FA42d65E2 FA43d6691 FA44d6885 FA45d6D77 FA46d6E1A FA47d6F22 FA48d716E
  FA49d722B FA4Ad7422 FA4Bd7891 FA4Cd793E FA4Dd7949 FA4Ed7948 FA4Fd7950 FA50d7956 FA51d795D
  FA52d798D FA53d798E FA54d7A40 FA55d7A81 FA56d7BC0 FA57d7DF4 FA58d7E09 FA59d7E41 FA5Ad7F72
  FA5Bd8005 FA5Cd81ED FA5Dd8279 FA5Ed8279 FA5Fd8457 FA60d8910 FA61d8996 FA62d8B01 FA63d8B39
  FA64d8CD3 FA65d8D08 FA66d8FB6 FA67d9038 FA68d96E3 FA69d97FF FA6Ad983B FA6Bd6075 FA6Cd242EE
  FA6Dd8218 FA70d4E26 FA71d51B5 FA72d5168 FA73d4F80 FA74d5145 FA75d5180 FA76d52C7 FA77d52FA
  FA78d559D FA79d5555 FA7Ad5599 FA7Bd55E2 FA7Cd585A FA7Dd58B3 FA7Ed5944 FA7Fd5954 FA80d5A62
  FA81d5B28 FA82d5ED2 FA83d5ED9 FA84d5F69 FA85d5FAD FA86d60D8 FA87d614E FA88d6108 FA89d618E
  FA8Ad6160 FA8Bd61F2 FA8Cd6234 FA8Dd63C4 FA8Ed641C FA8Fd6452 FA90d6556 FA91d6674 FA92d6717
  FA93d671B FA94d6756 FA95d6B79 FA96d6BBA FA97d6D41 FA98d6EDB FA99d6ECB FA9Ad6F22 FA9Bd701E
  FA9Cd716E FA9Dd77A7 FA9Ed7235 FA9Fd72AF FAA0d732A FAA1d7471 FAA2d7506 FAA3d753B FAA4d761D
  FAA5d761F FAA6d76CA FAA7d76DB FAA8d76F4 FAA9d774A FAAAd7740 FAABd78CC FAACd7AB1 FAADd7BC0
  FAAEd7C7B FAAFd7D5B FAB0d7DF4 FAB1d7F3E FAB2d8005 FAB3d8352 FAB4d83EF FAB5d8779 FAB6d8941
  FAB7d8986 FAB8d8996 FAB9d8ABF FABAd8AF8 FABBd8ACB FABCd8B01 FABDd8AFE FABEd8AED FABFd8B39
  FAC0d8B8A FAC1d8D08 FAC2d8F38 FAC3d9072 FAC4d9199 FAC5d9276 FAC6d967C FAC7d96E3 FAC8d9756
  FAC9d97DB FACAd97FF FACBd980B FACCd983B FACDd9B12 FACEd9F9C FACFd2284A FAD0d22844 FAD1d233D5
  FAD2d3B9D FAD3d4018 FAD4d4039 FAD5d25249 FAD6d25CD0 FAD7d27ED3 FAD8d9F43 FAD9d9F8E FB1Dd5D9.5B4
  FB1Fd5F2.5B7 FB2Ad5E9.5C1 FB2Bd5E9.5C2 FB2CdFB49.5C1 FB2DdFB49.5C2 FB2Ed5D0.5B7 FB2Fd5D0.5B8
  FB30d5D0.5BC FB31d5D1.5BC FB32d5D2.5BC FB33d5D3.5BC FB34d5D4.5BC FB35d5D5.5BC FB36d5D6.5BC
  FB38d5D8.5BC FB39d5D9.5BC FB3Ad5DA.5BC FB3Bd5DB.5BC FB3Cd5DC.5BC FB3Ed5DE.5BC FB40d5E0.5BC
  FB41d5E1.5BC FB43d5E3.5BC FB44d5E4.5BC FB46d5E6.5BC FB47d5E7.5BC FB48d5E8.5BC FB49d5E9.5BC
  FB4Ad5EA.5BC FB4Bd5D5.5B9 FB4Cd5D1.5BF FB4Dd5DB.5BF FB4Ed5E4.5BF 1109Ap11099.110BA
  1109Cp1109B.110BA 110ABp110A5.110BA 1112Ep11131.11127 1112Fp11132.11127 1134Bp11347.1133E
  1134Cp11347.11357 114BBp114B9.114BA 114BCp114B9.114B0 114BEp114B9.114BD 115BAp115B8.115AF
  115BBp115B9.115AF 11938p11935.11930 1D15Ed1D157.1D165 1D15Fd1D158.1D165 1D160d1D15F.1D16E
  1D161d1D15F.1D16F 1D162d1D15F.1D170 1D163d1D15F.1D171 1D164d1D15F.1D172 1D1BBd1D1B9.1D165
  1D1BCd1D1BA.1D165 1D1BDd1D1BB.1D16E 1D1BEd1D1BC.1D16E 1D1BFd1D1BB.1D16F 1D1C0d1D1BC.1D16F
  2F800d4E3D 2F801d4E38 2F802d4E41 2F803d20122 2F804d4F60 2F805d4FAE 2F806d4FBB 2F807d5002
  2F808d507A 2F809d5099 2F80Ad50E7 2F80Bd50CF 2F80Cd349E 2F80Dd2063A 2F80Ed514D 2F80Fd5154
  2F810d5164 2F811d5177 2F812d2051C 2F813d34B9 2F814d5167 2F815d518D 2F816d2054B 2F817d5197
  2F818d51A4 2F819d4ECC 2F81Ad51AC 2F81Bd51B5 2F81Cd291DF 2F81Dd51F5 2F81Ed5203 2F81Fd34DF
  2F820d523B 2F821d5246 2F822d5272 2F823d5277 2F824d3515 2F825d52C7 2F826d52C9 2F827d52E4
  2F828d52FA 2F829d5305 2F82Ad5306 2F82Bd5317 2F82Cd5349 2F82Dd5351 2F82Ed535A 2F82Fd5373
  2F830d537D 2F831d537F 2F832d537F 2F833d537F 2F834d20A2C 2F835d7070 2F836d53CA 2F837d53DF
  2F838d20B63 2F839d53EB 2F83Ad53F1 2F83Bd5406 2F83Cd549E 2F83Dd5438 2F83Ed5448 2F83Fd5468
  2F840d54A2 2F841d54F6 2F842d5510 2F843d5553 2F844d5563 2F845d5584 2F846d5584 2F847d5599
  2F848d55AB 2F849d55B3 2F84Ad55C2 2F84Bd5716 2F84Cd5606 2F84Dd5717 2F84Ed5651 2F84Fd5674
  2F850d5207 2F851d58EE 2F852d57CE 2F853d57F4 2F854d580D 2F855d578B 2F856d5832 2F857d5831
  2F858d58AC 2F859d214E4 2F85Ad58F2 2F85Bd58F7 2F85Cd5906 2F85Dd591A 2F85Ed5922 2F85Fd5962
  2F860d216A8 2F861d216EA 2F862d59EC 2F863d5A1B 2F864d5A27 2F865d59D8 2F866d5A66 2F867d36EE
  2F868d36FC 2F869d5B08 2F86Ad5B3E 2F86Bd5B3E 2F86Cd219C8 2F86Dd5BC3 2F86Ed5BD8 2F86Fd5BE7
  2F870d5BF3 2F871d21B18 2F872d5BFF 2F873d5C06 2F874d5F53 2F875d5C22 2F876d3781 2F877d5C60
  2F878d5C6E 2F879d5CC0 2F87Ad5C8D 2F87Bd21DE4 2F87Cd5D43 2F87Dd21DE6 2F87Ed5D6E 2F87Fd5D6B
  2F880d5D7C 2F881d5DE1 2F882d5DE2 2F883d382F 2F884d5DFD 2F885d5E28 2F886d5E3D 2F887d5E69
  2F888d3862 2F889d22183 2F88Ad387C 2F88Bd5EB0 2F88Cd5EB3 2F88Dd5EB6 2F88Ed5ECA 2F88Fd2A392
  2F890d5EFE 2F891d22331 2F892d22331 2F893d8201 2F894d5F22 2F895d5F22 2F896d38C7 2F897d232B8
  2F898d261DA 2F899d5F62 2F89Ad5F6B 2F89Bd38E3 2F89Cd5F9A 2F89Dd5FCD 2F89Ed5FD7 2F89Fd5FF9
  2F8A0d6081 2F8A1d393A 2F8A2d391C 2F8A3d6094 2F8A4d226D4 2F8A5d60C7 2F8A6d6148 2F8A7d614C
  2F8A8d614E 2F8A9d614C 2F8AAd617A 2F8ABd618E 2F8ACd61B2 2F8ADd61A4 2F8AEd61AF 2F8AFd61DE
  2F8B0d61F2 2F8B1d61F6 2F8B2d6210 2F8B3d621B 2F8B4d625D 2F8B5d62B1 2F8B6d62D4 2F8B7d6350
  2F8B8d22B0C 2F8B9d633D 2F8BAd62FC 2F8BBd6368 2F8BCd6383 2F8BDd63E4 2F8BEd22BF1 2F8BFd6422
  2F8C0d63C5 2F8C1d63A9 2F8C2d3A2E 2F8C3d6469 2F8C4d647E 2F8C5d649D 2F8C6d6477 2F8C7d3A6C
  2F8C8d654F 2F8C9d656C 2F8CAd2300A 2F8CBd65E3 2F8CCd66F8 2F8CDd6649 2F8CEd3B19 2F8CFd6691
  2F8D0d3B08 2F8D1d3AE4 2F8D2d5192 2F8D3d5195 2F8D4d6700 2F8D5d669C 2F8D6d80AD 2F8D7d43D9
  2F8D8d6717 2F8D9d671B 2F8DAd6721 2F8DBd675E 2F8DCd6753 2F8DDd233C3 2F8DEd3B49 2F8DFd67FA
  2F8E0d6785 2F8E1d6852 2F8E2d6885 2F8E3d2346D 2F8E4d688E 2F8E5d681F 2F8E6d6914 2F8E7d3B9D
  2F8E8d6942 2F8E9d69A3 2F8EAd69EA 2F8EBd6AA8 2F8ECd236A3 2F8EDd6ADB 2F8EEd3C18 2F8EFd6B21
  2F8F0d238A7 2F8F1d6B54 2F8F2d3C4E 2F8F3d6B72 2F8F4d6B9F 2F8F5d6BBA 2F8F6d6BBB 2F8F7d23A8D
  2F8F8d21D0B 2F8F9d23AFA 2F8FAd6C4E 2F8FBd23CBC 2F8FCd6CBF 2F8FDd6CCD 2F8FEd6C67 2F8FFd6D16
  2F900d6D3E 2F901d6D77 2F902d6D41 2F903d6D69 2F904d6D78 2F905d6D85 2F906d23D1E 2F907d6D34
  2F908d6E2F 2F909d6E6E 2F90Ad3D33 2F90Bd6ECB 2F90Cd6EC7 2F90Dd23ED1 2F90Ed6DF9 2F90Fd6F6E
  2F910d23F5E 2F911d23F8E 2F912d6FC6 2F913d7039 2F914d701E 2F915d701B 2F916d3D96 2F917d704A
  2F918d707D 2F919d7077 2F91Ad70AD 2F91Bd20525 2F91Cd7145 2F91Dd24263 2F91Ed719C 2F91Fd243AB
  2F920d7228 2F921d7235 2F922d7250 2F923d24608 2F924d7280 2F925d7295 2F926d24735 2F927d24814
  2F928d737A 2F929d738B 2F92Ad3EAC 2F92Bd73A5 2F92Cd3EB8 2F92Dd3EB8 2F92Ed7447 2F92Fd745C
  2F930d7471 2F931d7485 2F932d74CA 2F933d3F1B 2F934d7524 2F935d24C36 2F936d753E 2F937d24C92
  2F938d7570 2F939d2219F 2F93Ad7610 2F93Bd24FA1 2F93Cd24FB8 2F93Dd25044 2F93Ed3FFC 2F93Fd4008
  2F940d76F4 2F941d250F3 2F942d250F2 2F943d25119 2F944d25133 2F945d771E 2F946d771F 2F947d771F
  2F948d774A 2F949d4039 2F94Ad778B 2F94Bd4046 2F94Cd4096 2F94Dd2541D 2F94Ed784E 2F94Fd788C
  2F950d78CC 2F951d40E3 2F952d25626 2F953d7956 2F954d2569A 2F955d256C5 2F956d798F 2F957d79EB
  2F958d412F 2F959d7A40 2F95Ad7A4A 2F95Bd7A4F 2F95Cd2597C 2F95Dd25AA7 2F95Ed25AA7 2F95Fd7AEE
  2F960d4202 2F961d25BAB 2F962d7BC6 2F963d7BC9 2F964d4227 2F965d25C80 2F966d7CD2 2F967d42A0
  2F968d7CE8 2F969d7CE3 2F96Ad7D00 2F96Bd25F86 2F96Cd7D63 2F96Dd4301 2F96Ed7DC7 2F96Fd7E02
  2F970d7E45 2F971d4334 2F972d26228 2F973d26247 2F974d4359 2F975d262D9 2F976d7F7A 2F977d2633E
  2F978d7F95 2F979d7FFA 2F97Ad8005 2F97Bd264DA 2F97Cd26523 2F97Dd8060 2F97Ed265A8 2F97Fd8070
  2F980d2335F 2F981d43D5 2F982d80B2 2F983d8103 2F984d440B 2F985d813E 2F986d5AB5 2F987d267A7
  2F988d267B5 2F989d23393 2F98Ad2339C 2F98Bd8201 2F98Cd8204 2F98Dd8F9E 2F98Ed446B 2F98Fd8291
  2F990d828B 2F991d829D 2F992d52B3 2F993d82B1 2F994d82B3 2F995d82BD 2F996d82E6 2F997d26B3C
  2F998d82E5 2F999d831D 2F99Ad8363 2F99Bd83AD 2F99Cd8323 2F99Dd83BD 2F99Ed83E7 2F99Fd8457
  2F9A0d8353 2F9A1d83CA 2F9A2d83CC 2F9A3d83DC 2F9A4d26C36 2F9A5d26D6B 2F9A6d26CD5 2F9A7d452B
  2F9A8d84F1 2F9A9d84F3 2F9AAd8516 2F9ABd273CA 2F9ACd8564 2F9ADd26F2C 2F9AEd455D 2F9AFd4561
  2F9B0d26FB1 2F9B1d270D2 2F9B2d456B 2F9B3d8650 2F9B4d865C 2F9B5d8667 2F9B6d8669 2F9B7d86A9
  2F9B8d8688 2F9B9d870E 2F9BAd86E2 2F9BBd8779 2F9BCd8728 2F9BDd876B 2F9BEd8786 2F9BFd45D7
  2F9C0d87E1 2F9C1d8801 2F9C2d45F9 2F9C3d8860 2F9C4d8863 2F9C5d27667 2F9C6d88D7 2F9C7d88DE
  2F9C8d4635 2F9C9d88FA 2F9CAd34BB 2F9CBd278AE 2F9CCd27966 2F9CDd46BE 2F9CEd46C7 2F9CFd8AA0
  2F9D0d8AED 2F9D1d8B8A 2F9D2d8C55 2F9D3d27CA8 2F9D4d8CAB 2F9D5d8CC1 2F9D6d8D1B 2F9D7d8D77
  2F9D8d27F2F 2F9D9d20804 2F9DAd8DCB 2F9DBd8DBC 2F9DCd8DF0 2F9DDd208DE 2F9DEd8ED4 2F9DFd8F38
  2F9E0d285D2 2F9E1d285ED 2F9E2d9094 2F9E3d90F1 2F9E4d9111 2F9E5d2872E 2F9E6d911B 2F9E7d9238
  2F9E8d92D7 2F9E9d92D8 2F9EAd927C 2F9EBd93F9 2F9ECd9415 2F9EDd28BFA 2F9EEd958B 2F9EFd4995
  2F9F0d95B7 2F9F1d28D77 2F9F2d49E6 2F9F3d96C3 2F9F4d5DB2 2F9F5d9723 2F9F6d29145 2F9F7d2921A
  2F9F8d4A6E 2F9F9d4A76 2F9FAd97E0 2F9FBd2940A 2F9FCd4AB2 2F9FDd29496 2F9FEd980B 2F9FFd980B
  2FA00d9829 2FA01d295B6 2FA02d98E2 2FA03d4B33 2FA04d9929 2FA05d99A7 2FA06d99C2 2FA07d99FE
  2FA08d4BCE 2FA09d29B30 2FA0Ad9B12 2FA0Bd9C40 2FA0Cd9CFD 2FA0Dd4CCE 2FA0Ed4CED 2FA0Fd9D67
  2FA10d2A0CE 2FA11d4CF8 2FA12d2A105 2FA13d2A20E 2FA14d2A291 2FA15d9EBB 2FA16d4D56 2FA17d9EF9
  2FA18d9EFE 2FA19d9F05 2FA1Ad9F0F 2FA1Bd9F16 2FA1Cd9F3B 2FA1Dd2A600"

/-- The primary composites by the pair they compose from, in order of the first and then the second code point of the pair. -/
def compositionText : String :=
  "3Cc338.226E 3Dc338.2260 3Ec338.226F 41c300.C0 41c301.C1 41c302.C2 41c303.C3 41c304.100
  41c306.102 41c307.226 41c308.C4 41c309.1EA2 41c30A.C5 41c30C.1CD 41c30F.200 41c311.202
  41c323.1EA0 41c325.1E00 41c328.104 42c307.1E02 42c323.1E04 42c331.1E06 43c301.106 43c302.108
  43c307.10A 43c30C.10C 43c327.C7 44c307.1E0A 44c30C.10E 44c323.1E0C 44c327.1E10 44c32D.1E12
  44c331.1E0E 45c300.C8 45c301.C9 45c302.CA 45c303.1EBC 45c304.112 45c306.114 45c307.116 45c308.CB
  45c309.1EBA 45c30C.11A 45c30F.204 45c311.206 45c323.1EB8 45c327.228 45c328.118 45c32D.1E18
  45c330.1E1A 46c307.1E1E 47c301.1F4 47c302.11C 47c304.1E20 47c306.11E 47c307.120 47c30C.1E6
  47c327.122 48c302.124 48c307.1E22 48c308.1E26 48c30C.21E 48c323.1E24 48c327.1E28 48c32E.1E2A
  49c300.CC 49c301.CD 49c302.CE 49c303.128 49c304.12A 49c306.12C 49c307.130 49c308.CF 49c309.1EC8
  49c30C.1CF 49c30F.208 49c311.20A 49c323.1ECA 49c328.12E 49c330.1E2C 4Ac302.134 4Bc301.1E30
  4Bc30C.1E8 4Bc323.1E32 4Bc327.136 4Bc331.1E34 4Cc301.139 4Cc30C.13D 4Cc323.1E36 4Cc327.13B
  4Cc32D.1E3C 4Cc331.1E3A 4Dc301.1E3E 4Dc307.1E40 4Dc323.1E42 4Ec300.1F8 4Ec301.143 4Ec303.D1
  4Ec307.1E44 4Ec30C.147 4Ec323.1E46 4Ec327.145 4Ec32D.1E4A 4Ec331.1E48 4Fc300.D2 4Fc301.D3
  4Fc302.D4 4Fc303.D5 4Fc304.14C 4Fc306.14E 4Fc307.22E 4Fc308.D6 4Fc309.1ECE 4Fc30B.150 4Fc30C.1D1
  4Fc30F.20C 4Fc311.20E 4Fc31B.1A0 4Fc323.1ECC 4Fc328.1EA 50c301.1E54 50c307.1E56 52c301.154
  52c307.1E58 52c30C.158 52c30F.210 52c311.212 52c323.1E5A 52c327.156 52c331.1E5E 53c301.15A
  53c302.15C 53c307.1E60 53c30C.160 53c323.1E62 53c326.218 53c327.15E 54c307.1E6A 54c30C.164
  54c323.1E6C 54c326.21A 54c327.162 54c32D.1E70 54c331.1E6E 55c300.D9 55c301.DA 55c302.DB
  55c303.168 55c304.16A 55c306.16C 55c308.DC 55c309.1EE6 55c30A.16E 55c30B.170 55c30C.1D3
  55c30F.214 55c311.216 55c31B.1AF 55c323.1EE4 55c324.1E72 55c328.172 55c32D.1E76 55c330.1E74
  56c303.1E7C 56c323.1E7E 57c300.1E80 57c301.1E82 57c302.174 57c307.1E86 57c308.1E84 57c323.1E88
  58c307.1E8A 58c308.1E8C 59c300.1EF2 59c301.DD 59c302.176 59c303.1EF8 59c304.232 59c307.1E8E
  59c308.178 59c309.1EF6 59c323.1EF4 5Ac301.179 5Ac302.1E90 5Ac307.17B 5Ac30C.17D 5Ac323.1E92
  5Ac331.1E94 61c300.E0 61c301.E1 61c302.E2 61c303.E3 61c304.101 61c306.103 61c307.227 61c308.E4
  61c309.1EA3 61c30A.E5 61c30C.1CE 61c30F.201 61c311.203 61c323.1EA1 61c325.1E01 61c328.105
  62c307.1E03 62c323.1E05 62c331.1E07 63c301.107 63c302.109 63c307.10B 63c30C.10D 63c327.E7
  64c307.1E0B 64c30C.10F 64c323.1E0D 64c327.1E11 64c32D.1E13 64c331.1E0F 65c300.E8 65c301.E9
  65c302.EA 65c303.1EBD 65c304.113 65c306.115 65c307.117 65c308.EB 65c309.1EBB 65c30C.11B
  65c30F.205 65c311.207 65c323.1EB9 65c327.229 65c328.119 65c32D.1E19 65c330.1E1B 66c307.1E1F
  67c301.1F5 67c302.11D 67c304.1E21 67c306.11F 67c307.121 67c30C.1E7 67c327.123 68c302.125
  68c307.1E23 68c308.1E27 68c30C.21F 68c323.1E25 68c327.1E29 68c32E.1E2B 68c331.1E96 69c300.EC
  69c301.ED 69c302.EE 69c303.129 69c304.12B 69c306.12D 69c308.EF 69c309.1EC9 69c30C.1D0 69c30F.209
  69c311.20B 69c323.1ECB 69c328.12F 69c330.1E2D 6Ac302.135 6Ac30C.1F0 6Bc301.1E31 6Bc30C.1E9
  6Bc323.1E33 6Bc327.137 6Bc331.1E35 6Cc301.13A 6Cc30C.13E 6Cc323.1E37 6Cc327.13C 6Cc32D.1E3D
  6Cc331.1E3B 6Dc301.1E3F 6Dc307.1E41 6Dc323.1E43 6Ec300.1F9 6Ec301.144 6Ec303.F1 6Ec307.1E45
  6Ec30C.148 6Ec323.1E47 6Ec327.146 6Ec32D.1E4B 6Ec331.1E49 6Fc300.F2 6Fc301.F3 6Fc302.F4
  6Fc303.F5 6Fc304.14D 6Fc306.14F 6Fc307.22F 6Fc308.F6 6Fc309.1ECF 6Fc30B.151 6Fc30C.1D2
  6Fc30F.20D 6Fc311.20F 6Fc31B.1A1 6Fc323.1ECD 6Fc328.1EB 70c301.1E55 70c307.1E57 72c301.155
  72c307.1E59 72c30C.159 72c30F.211 72c311.213 72c323.1E5B 72c327.157 72c331.1E5F 73c301.15B
  73c302.15D 73c307.1E61 73c30C.161 73c323.1E63 73c326.219 73c327.15F 74c307.1E6B 74c308.1E97
  74c30C.165 74c323.1E6D 74c326.21B 74c327.163 74c32D.1E71 74c331.1E6F 75c300.F9 75c301.FA
  75c302.FB 75c303.169 75c304.16B 75c306.16D 75c308.FC 75c309.1EE7 75c30A.16F 75c30B.171
  75c30C.1D4 75c30F.215 75c311.217 75c31B.1B0 75c323.1EE5 75c324.1E73 75c328.173 75c32D.1E77
  75c330.1E75 76c303.1E7D 76c323.1E7F 77c300.1E81 77c301.1E83 77c302.175 77c307.1E87 77c308.1E85
  77c30A.1E98 77c323.1E89 78c307.1E8B 78c308.1E8D 79c300.1EF3 79c301.FD 79c302.177 79c303.1EF9
  79c304.233 79c307.1E8F 79c308.FF 79c309.1EF7 79c30A.1E99 79c323.1EF5 7Ac301.17A 7Ac302.1E91
  7Ac307.17C 7Ac30C.17E 7Ac323.1E93 7Ac331.1E95 A8c300.1FED A8c301.385 A8c342.1FC1 C2c300.1EA6
  C2c301.1EA4 C2c303.1EAA C2c309.1EA8 C4c304.1DE C5c301.1FA C6c301.1FC C6c304.1E2 C7c301.1E08
  CAc300.1EC0 CAc301.1EBE CAc303.1EC4 CAc309.1EC2 CFc301.1E2E D4c300.1ED2 D4c301.1ED0 D4c303.1ED6
  D4c309.1ED4 D5c301.1E4C D5c304.22C D5c308.1E4E D6c304.22A D8c301.1FE DCc300.1DB DCc301.1D7
  DCc304.1D5 DCc30C.1D9 E2c300.1EA7 E2c301.1EA5 E2c303.1EAB E2c309.1EA9 E4c304.1DF E5c301.1FB
  E6c301.1FD E6c304.1E3 E7c301.1E09 EAc300.1EC1 EAc301.1EBF EAc303.1EC5 EAc309.1EC3 EFc301.1E2F
  F4c300.1ED3 F4c301.1ED1 F4c303.1ED7 F4c309.1ED5 F5c301.1E4D F5c304.22D F5c308.1E4F F6c304.22B
  F8c301.1FF FCc300.1DC FCc301.1D8 FCc304.1D6 FCc30C.1DA 102c300.1EB0 102c301.1EAE 102c303.1EB4
  102c309.1EB2 103c300.1EB1 103c301.1EAF 103c303.1EB5 103c309.1EB3 112c300.1E14 112c301.1E16
  113c300.1E15 113c301.1E17 14Cc300.1E50 14Cc301.1E52 14Dc300.1E51 14Dc301.1E53 15Ac307.1E64
  15Bc307.1E65 160c307.1E66 161c307.1E67 168c301.1E78 169c301.1E79 16Ac308.1E7A 16Bc308.1E7B
  17Fc307.1E9B 1A0c300.1EDC 1A0c301.1EDA 1A0c303.1EE0 1A0c309.1EDE 1A0c323.1EE2 1A1c300.1EDD
  1A1c301.1EDB 1A1c303.1EE1 1A1c309.1EDF 1A1c323.1EE3 1AFc300.1EEA 1AFc301.1EE8 1AFc303.1EEE
  1AFc309.1EEC 1AFc323.1EF0 1B0c300.1EEB 1B0c301.1EE9 1B0c303.1EEF 1B0c309.1EED 1B0c323.1EF1
  1B7c30C.1EE 1EAc304.1EC 1EBc304.1ED 226c304.1E0 227c304.1E1 228c306.1E1C 229c306.1E1D
  22Ec304.230 22Fc304.231 292c30C.1EF 391c300.1FBA 391c301.386 391c304.1FB9 391c306.1FB8
  391c313.1F08 391c314.1F09 391c345.1FBC 395c300.1FC8 395c301.388 395c313.1F18 395c314.1F19
  397c300.1FCA 397c301.389 397c313.1F28 397c314.1F29 397c345.1FCC 399c300.1FDA 399c301.38A
  399c304.1FD9 399c306.1FD8 399c308.3AA 399c313.1F38 399c314.1F39 39Fc300.1FF8 39Fc301.38C
  39Fc313.1F48 39Fc314.1F49 3A1c314.1FEC 3A5c300.1FEA 3A5c301.38E 3A5c304.1FE9 3A5c306.1FE8
  3A5c308.3AB 3A5c314.1F59 3A9c300.1FFA 3A9c301.38F 3A9c313.1F68 3A9c314.1F69 3A9c345.1FFC
  3ACc345.1FB4 3AEc345.1FC4 3B1c300.1F70 3B1c301.3AC 3B1c304.1FB1 3B1c306.1FB0 3B1c313.1F00
  3B1c314.1F01 3B1c342.1FB6 3B1c345.1FB3 3B5c300.1F72 3B5c301.3AD 3B5c313.1F10 3B5c314.1F11
  3B7c300.1F74 3B7c301.3AE 3B7c313.1F20 3B7c314.1F21 3B7c342.1FC6 3B7c345.1FC3 3B9c300.1F76
  3B9c301.3AF 3B9c304.1FD1 3B9c306.1FD0 3B9c308.3CA 3B9c313.1F30 3B9c314.1F31 3B9c342.1FD6
  3BFc300.1F78 3BFc301.3CC 3BFc313.1F40 3BFc314.1F41 3C1c313.1FE4 3C1c314.1FE5 3C5c300.1F7A
  3C5c301.3CD 3C5c304.1FE1 3C5c306.1FE0 3C5c308.3CB 3C5c313.1F50 3C5c314.1F51 3C5c342.1FE6
  3C9c300.1F7C 3C9c301.3CE 3C9c313.1F60 3C9c314.1F61 3C9c342.1FF6 3C9c345.1FF3 3CAc300.1FD2
  3CAc301.390 3CAc342.1FD7 3CBc300.1FE2 3CBc301.3B0 3CBc342.1FE7 3CEc345.1FF4 3D2c301.3D3
  3D2c308.3D4 406c308.407 410c306.4D0 410c308.4D2 413c301.403 415c300.400 415c306.4D6 415c308.401
  416c306.4C1 416c308.4DC 417c308.4DE 418c300.40D 418c304.4E2 418c306.419 418c308.4E4 41Ac301.40C
  41Ec308.4E6 423c304.4EE 423c306.40E 423c308.4F0 423c30B.4F2 427c308.4F4 42Bc308.4F8 42Dc308.4EC
  430c306.4D1 430c308.4D3 433c301.453 435c300.450 435c306.4D7 435c308.451 436c306.4C2 436c308.4DD
  437c308.4DF 438c300.45D 438c304.4E3 438c306.439 438c308.4E5 43Ac301.45C 43Ec308.4E7 443c304.4EF
  443c306.45E 443c308.4F1 443c30B.4F3 447c308.4F5 44Bc308.4F9 44Dc308.4ED 456c308.457 474c30F.476
  475c30F.477 4D8c308.4DA 4D9c308.4DB 4E8c308.4EA 4E9c308.4EB 627c653.622 627c654.623 627c655.625
  648c654.624 64Ac654.626 6C1c654.6C2 6D2c654.6D3 6D5c654.6C0 928c93C.929 930c93C.931 933c93C.934
  9C7c9BE.9CB 9C7c9D7.9CC B47cB3E.B4B B47cB56.B48 B47cB57.B4C B92cBD7.B94 BC6cBBE.BCA BC6cBD7.BCC
  BC7cBBE.BCB C46cC56.C48 CBFcCD5.CC0 CC6cCC2.CCA CC6cCD5.CC7 CC6cCD6.CC8 CCAcCD5.CCB D46cD3E.D4A
  D46cD57.D4C D47cD3E.D4B DD9cDCA.DDA DD9cDCF.DDC DD9cDDF.DDE DDCcDCA.DDD 1025c102E.1026
  1B05c1B35.1B06 1B07c1B35.1B08 1B09c1B35.1B0A 1B0Bc1B35.1B0C 1B0Dc1B35.1B0E 1B11c1B35.1B12
  1B3Ac1B35.1B3B 1B3Cc1B35.1B3D 1B3Ec1B35.1B40 1B3Fc1B35.1B41 1B42c1B35.1B43 1E36c304.1E38
  1E37c304.1E39 1E5Ac304.1E5C 1E5Bc304.1E5D 1E62c307.1E68 1E63c307.1E69 1EA0c302.1EAC
  1EA0c306.1EB6 1EA1c302.1EAD 1EA1c306.1EB7 1EB8c302.1EC6 1EB9c302.1EC7 1ECCc302.1ED8
  1ECDc302.1ED9 1F00c300.1F02 1F00c301.1F04 1F00c342.1F06 1F00c345.1F80 1F01c300.1F03
  1F01c301.1F05 1F01c342.1F07 1F01c345.1F81 1F02c345.1F82 1F03c345.1F83 1F04c345.1F84
  1F05c345.1F85 1F06c345.1F86 1F07c345.1F87 1F08c300.1F0A 1F08c301.1F0C 1F08c342.1F0E
  1F08c345.1F88 1F09c300.1F0B 1F09c301.1F0D 1F09c342.1F0F 1F09c345.1F89 1F0Ac345.1F8A
  1F0Bc345.1F8B 1F0Cc345.1F8C 1F0Dc345.1F8D 1F0Ec345.1F8E 1F0Fc345.1F8F 1F10c300.1F12
  1F10c301.1F14 1F11c300.1F13 1F11c301.1F15 1F18c300.1F1A 1F18c301.1F1C 1F19c300.1F1B
  1F19c301.1F1D 1F20c300.1F22 1F20c301.1F24 1F20c342.1F26 1F20c345.1F90 1F21c300.1F23
  1F21c301.1F25 1F21c342.1F27 1F21c345.1F91 1F22c345.1F92 1F23c345.1F93 1F24c345.1F94
  1F25c345.1F95 1F26c345.1F96 1F27c345.1F97 1F28c300.1F2A 1F28c301.1F2C 1F28c342.1F2E
  1F28c345.1F98 1F29c300.1F2B 1F29c301.1F2D 1F29c342.1F2F 1F29c345.1F99 1F2Ac345.1F9A
  1F2Bc345.1F9B 1F2Cc345.1F9C 1F2Dc345.1F9D 1F2Ec345.1F9E 1F2Fc345.1F9F 1F30c300.1F32
  1F30c301.1F34 1F30c342.1F36 1F31c300.1F33 1F31c301.1F35 1F31c342.1F37 1F38c300.1F3A
  1F38c301.1F3C 1F38c342.1F3E 1F39c300.1F3B 1F39c301.1F3D 1F39c342.1F3F 1F40c300.1F42
  1F40c301.1F44 1F41c300.1F43 1F41c301.1F45 1F48c300.1F4A 1F48c301.1F4C 1F49c300.1F4B
  1F49c301.1F4D 1F50c300.1F52 1F50c301.1F54 1F50c342.1F56 1F51c300.1F53 1F51c301.1F55
  1F51c342.1F57 1F59c300.1F5B 1F59c301.1F5D 1F59c342.1F5F 1F60c300.1F62 1F60c301.1F64
  1F60c342.1F66 1F60c345.1FA0 1F61c300.1F63 1F61c301.1F65 1F61c342.1F67 1F61c345.1FA1
  1F62c345.1FA2 1F63c345.1FA3 1F64c345.1FA4 1F65c345.1FA5 1F66c345.1FA6 1F67c345.1FA7
  1F68c300.1F6A 1F68c301.1F6C 1F68c342.1F6E 1F68c345.1FA8 1F69c300.1F6B 1F69c301.1F6D
  1F69c342.1F6F 1F69c345.1FA9 1F6Ac345.1FAA 1F6Bc345.1FAB 1F6Cc345.1FAC 1F6Dc345.1FAD
  1F6Ec345.1FAE 1F6Fc345.1FAF 1F70c345.1FB2 1F74c345.1FC2 1F7Cc345.1FF2 1FB6c345.1FB7
  1FBFc300.1FCD 1FBFc301.1FCE 1FBFc342.1FCF 1FC6c345.1FC7 1FF6c345.1FF7 1FFEc300.1FDD
  1FFEc301.1FDE 1FFEc342.1FDF 2190c338.219A 2192c338.219B 2194c338.21AE 21D0c338.21CD
  21D2c338.21CF 21D4c338.21CE 2203c338.2204 2208c338.2209 220Bc338.220C 2223c338.2224
  2225c338.2226 223Cc338.2241 2243c338.2244 2245c338.2247 2248c338.2249 224Dc338.226D
  2261c338.2262 2264c338.2270 2265c338.2271 2272c338.2274 2273c338.2275 2276c338.2278
  2277c338.2279 227Ac338.2280 227Bc338.2281 227Cc338.22E0 227Dc338.22E1 2282c338.2284
  2283c338.2285 2286c338.2288 2287c338.2289 2291c338.22E2 2292c338.22E3 22A2c338.22AC
  22A8c338.22AD 22A9c338.22AE 22ABc338.22AF 22B2c338.22EA 22B3c338.22EB 22B4c338.22EC
  22B5c338.22ED 3046c3099.3094 304Bc3099.304C 304Dc3099.304E 304Fc3099.3050 3051c3099.3052
  3053c3099.3054 3055c3099.3056 3057c3099.3058 3059c3099.305A 305Bc3099.305C 305Dc3099.305E
  305Fc3099.3060 3061c3099.3062 3064c3099.3065 3066c3099.3067 3068c3099.3069 306Fc3099.3070
  306Fc309A.3071 3072c3099.3073 3072c309A.3074 3075c3099.3076 3075c309A.3077 3078c3099.3079
  3078c309A.307A 307Bc3099.307C 307Bc309A.307D 309Dc3099.309E 30A6c3099.30F4 30ABc3099.30AC
  30ADc3099.30AE 30AFc3099.30B0 30B1c3099.30B2 30B3c3099.30B4 30B5c3099.30B6 30B7c3099.30B8
  30B9c3099.30BA 30BBc3099.30BC 30BDc3099.30BE 30BFc3099.30C0 30C1c3099.30C2 30C4c3099.30C5
  30C6c3099.30C7 30C8c3099.30C9 30CFc3099.30D0 30CFc309A.30D1 30D2c3099.30D3 30D2c309A.30D4
  30D5c3099.30D6 30D5c309A.30D7 30D8c3099.30D9 30D8c309A.30DA 30DBc3099.30DC 30DBc309A.30DD
  30EFc3099.30F7 30F0c3099.30F8 30F1c3099.30F9 30F2c3099.30FA 30FDc3099.30FE 11099c110BA.1109A
  1109Bc110BA.1109C 110A5c110BA.110AB 11131c11127.1112E 11132c11127.1112F 11347c1133E.1134B
  11347c11357.1134C 114B9c114B0.114BC 114B9c114BA.114BB 114B9c114BD.114BE 115B8c115AF.115BA
  115B9c115AF.115BB 11935c11930.11938"

end GuildRegistry.Unicode
