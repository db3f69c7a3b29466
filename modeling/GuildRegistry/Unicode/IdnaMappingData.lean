
/-! The mapping table of Unicode Technical Standard 46, version 15.0.0, for nontransitional

processing without the STD3 rules.
-/

set_option autoImplicit false

namespace GuildRegistry.Unicode

/-- The mapping entries, in code point order. -/
def idnaMappingText : String :=
  "0v 41m61 42m62 43m63 44m64 45m65 46m66 47m67 48m68 49m69 4Am6A 4Bm6B 4Cm6C 4Dm6D 4Em6E 4Fm6F
  50m70 51m71 52m72 53m73 54m74 55m75 56m76 57m77 58m78 59m79 5Am7A 5Bv 80x A0m20 A1v A8m20.308
  A9v AAm61 ABv ADi AEv AFm20.304 B0v B2m32 B3m33 B4m20.301 B5m3BC B6v B8m20.327 B9m31 BAm6F BBv
  BCm31.2044.34 BDm31.2044.32 BEm33.2044.34 BFv C0mE0 C1mE1 C2mE2 C3mE3 C4mE4 C5mE5 C6mE6 C7mE7
  C8mE8 C9mE9 CAmEA CBmEB CCmEC CDmED CEmEE CFmEF D0mF0 D1mF1 D2mF2 D3mF3 D4mF4 D5mF5 D6mF6 D7v
  D8mF8 D9mF9 DAmFA DBmFB DCmFC DDmFD DEmFE DFv 100m101 101v 102m103 103v 104m105 105v 106m107
  107v 108m109 109v 10Am10B 10Bv 10Cm10D 10Dv 10Em10F 10Fv 110m111 111v 112m113 113v 114m115 115v
  116m117 117v 118m119 119v 11Am11B 11Bv 11Cm11D 11Dv 11Em11F 11Fv 120m121 121v 122m123 123v
  124m125 125v 126m127 127v 128m129 129v 12Am12B 12Bv 12Cm12D 12Dv 12Em12F 12Fv 130m69.307 131v
  132m69.6A 134m135 135v 136m137 137v 139m13A 13Av 13Bm13C 13Cv 13Dm13E 13Ev 13Fm6C.B7 141m142
  142v 143m144 144v 145m146 146v 147m148 148v 149m2BC.6E 14Am14B 14Bv 14Cm14D 14Dv 14Em14F 14Fv
  150m151 151v 152m153 153v 154m155 155v 156m157 157v 158m159 159v 15Am15B 15Bv 15Cm15D 15Dv
  15Em15F 15Fv 160m161 161v 162m163 163v 164m165 165v 166m167 167v 168m169 169v 16Am16B 16Bv
  16Cm16D 16Dv 16Em16F 16Fv 170m171 171v 172m173 173v 174m175 175v 176m177 177v 178mFF 179m17A
  17Av 17Bm17C 17Cv 17Dm17E 17Ev 17Fm73 180v 181m253 182m183 183v 184m185 185v 186m254 187m188
  188v 189m256 18Am257 18Bm18C 18Cv 18Em1DD 18Fm259 190m25B 191m192 192v 193m260 194m263 195v
  196m269 197m268 198m199 199v 19Cm26F 19Dm272 19Ev 19Fm275 1A0m1A1 1A1v 1A2m1A3 1A3v 1A4m1A5 1A5v
  1A6m280 1A7m1A8 1A8v 1A9m283 1AAv 1ACm1AD 1ADv 1AEm288 1AFm1B0 1B0v 1B1m28A 1B2m28B 1B3m1B4 1B4v
  1B5m1B6 1B6v 1B7m292 1B8m1B9 1B9v 1BCm1BD 1BDv 1C4m64.17E 1C7m6C.6A 1CAm6E.6A 1CDm1CE 1CEv
  1CFm1D0 1D0v 1D1m1D2 1D2v 1D3m1D4 1D4v 1D5m1D6 1D6v 1D7m1D8 1D8v 1D9m1DA 1DAv 1DBm1DC 1DCv
  1DEm1DF 1DFv 1E0m1E1 1E1v 1E2m1E3 1E3v 1E4m1E5 1E5v 1E6m1E7 1E7v 1E8m1E9 1E9v 1EAm1EB 1EBv
  1ECm1ED 1EDv 1EEm1EF 1EFv 1F1m64.7A 1F4m1F5 1F5v 1F6m195 1F7m1BF 1F8m1F9 1F9v 1FAm1FB 1FBv
  1FCm1FD 1FDv 1FEm1FF 1FFv 200m201 201v 202m203 203v 204m205 205v 206m207 207v 208m209 209v
  20Am20B 20Bv 20Cm20D 20Dv 20Em20F 20Fv 210m211 211v 212m213 213v 214m215 215v 216m217 217v
  218m219 219v 21Am21B 21Bv 21Cm21D 21Dv 21Em21F 21Fv 220m19E 221v 222m223 223v 224m225 225v
  226m227 227v 228m229 229v 22Am22B 22Bv 22Cm22D 22Dv 22Em22F 22Fv 230m231 231v 232m233 233v
  23Am2C65 23Bm23C 23Cv 23Dm19A 23Em2C66 23Fv 241m242 242v 243m180 244m289 245m28C 246m247 247v
  248m249 249v 24Am24B 24Bv 24Cm24D 24Dv 24Em24F 24Fv 2B0m68 2B1m266 2B2m6A 2B3m72 2B4m279 2B5m27B
  2B6m281 2B7m77 2B8m79 2B9v 2D8m20.306 2D9m20.307 2DAm20.30A 2DBm20.328 2DCm20.303 2DDm20.30B
  2DEv 2E0m263 2E1m6C 2E2m73 2E3m78 2E4m295 2E5v 340m300 341m301 342v 343m313 344m308.301 345m3B9
  346v 34Fi 350v 370m371 371v 372m373 373v 374m2B9 375v 376m377 377v 378x 37Am20.3B9 37Bv 37Em3B
  37Fm3F3 380x 384m20.301 385m20.308.301 386m3AC 387mB7 388m3AD 389m3AE 38Am3AF 38Bx 38Cm3CC 38Dx
  38Em3CD 38Fm3CE 390v 391m3B1 392m3B2 393m3B3 394m3B4 395m3B5 396m3B6 397m3B7 398m3B8 399m3B9
  39Am3BA 39Bm3BB 39Cm3BC 39Dm3BD 39Em3BE 39Fm3BF 3A0m3C0 3A1m3C1 3A2x 3A3m3C3 3A4m3C4 3A5m3C5
  3A6m3C6 3A7m3C7 3A8m3C8 3A9m3C9 3AAm3CA 3ABm3CB 3ACv 3CFm3D7 3D0m3B2 3D1m3B8 3D2m3C5 3D3m3CD
  3D4m3CB 3D5m3C6 3D6m3C0 3D7v 3D8m3D9 3D9v 3DAm3DB 3DBv 3DCm3DD 3DDv 3DEm3DF 3DFv 3E0m3E1 3E1v
  3E2m3E3 3E3v 3E4m3E5 3E5v 3E6m3E7 3E7v 3E8m3E9 3E9v 3EAm3EB 3EBv 3ECm3ED 3EDv 3EEm3EF 3EFv
  3F0m3BA 3F1m3C1 3F2m3C3 3F3v 3F4m3B8 3F5m3B5 3F6v 3F7m3F8 3F8v 3F9m3C3 3FAm3FB 3FBv 3FDm37B
  3FEm37C 3FFm37D 400m450 401m451 402m452 403m453 404m454 405m455 406m456 407m457 408m458 409m459
  40Am45A 40Bm45B 40Cm45C 40Dm45D 40Em45E 40Fm45F 410m430 411m431 412m432 413m433 414m434 415m435
  416m436 417m437 418m438 419m439 41Am43A 41Bm43B 41Cm43C 41Dm43D 41Em43E 41Fm43F 420m440 421m441
  422m442 423m443 424m444 425m445 426m446 427m447 428m448 429m449 42Am44A 42Bm44B 42Cm44C 42Dm44D
  42Em44E 42Fm44F 430v 460m461 461v 462m463 463v 464m465 465v 466m467 467v 468m469 469v 46Am46B
  46Bv 46Cm46D 46Dv 46Em46F 46Fv 470m471 471v 472m473 473v 474m475 475v 476m477 477v 478m479 479v
  47Am47B 47Bv 47Cm47D 47Dv 47Em47F 47Fv 480m481 481v 48Am48B 48Bv 48Cm48D 48Dv 48Em48F 48Fv
  490m491 491v 492m493 493v 494m495 495v 496m497 497v 498m499 499v 49Am49B 49Bv 49Cm49D 49Dv
  49Em49F 49Fv 4A0m4A1 4A1v 4A2m4A3 4A3v 4A4m4A5 4A5v 4A6m4A7 4A7v 4A8m4A9 4A9v 4AAm4AB 4ABv
  4ACm4AD 4ADv 4AEm4AF 4AFv 4B0m4B1 4B1v 4B2m4B3 4B3v 4B4m4B5 4B5v 4B6m4B7 4B7v 4B8m4B9 4B9v
  4BAm4BB 4BBv 4BCm4BD 4BDv 4BEm4BF 4BFv 4C0x 4C1m4C2 4C2v 4C3m4C4 4C4v 4C5m4C6 4C6v 4C7m4C8 4C8v
  4C9m4CA 4CAv 4CBm4CC 4CCv 4CDm4CE 4CEv 4D0m4D1 4D1v 4D2m4D3 4D3v 4D4m4D5 4D5v 4D6m4D7 4D7v
  4D8m4D9 4D9v 4DAm4DB 4DBv 4DCm4DD 4DDv 4DEm4DF 4DFv 4E0m4E1 4E1v 4E2m4E3 4E3v 4E4m4E5 4E5v
  4E6m4E7 4E7v 4E8m4E9 4E9v 4EAm4EB 4EBv 4ECm4ED 4EDv 4EEm4EF 4EFv 4F0m4F1 4F1v 4F2m4F3 4F3v
  4F4m4F5 4F5v 4F6m4F7 4F7v 4F8m4F9 4F9v 4FAm4FB 4FBv 4FCm4FD 4FDv 4FEm4FF 4FFv 500m501 501v
  502m503 503v 504m505 505v 506m507 507v 508m509 509v 50Am50B 50Bv 50Cm50D 50Dv 50Em50F 50Fv
  510m511 511v 512m513 513v 514m515 515v 516m517 517v 518m519 519v 51Am51B 51Bv 51Cm51D 51Dv
  51Em51F 51Fv 520m521 521v 522m523 523v 524m525 525v 526m527 527v 528m529 529v 52Am52B 52Bv
  52Cm52D 52Dv 52Em52F 52Fv 530x 531m561 532m562 533m563 534m564 535m565 536m566 537m567 538m568
  539m569 53Am56A 53Bm56B 53Cm56C 53Dm56D 53Em56E 53Fm56F 540m570 541m571 542m572 543m573 544m574
  545m575 546m576 547m577 548m578 549m579 54Am57A 54Bm57B 54Cm57C 54Dm57D 54Em57E 54Fm57F 550m580
  551m581 552m582 553m583 554m584 555m585 556m586 557x 559v 587m565.582 588v 58Bx 58Dv 590x 591v
  5C8x 5D0v 5EBx 5EFv 5F5x 606v 61Cx 61Dv 675m627.674 676m648.674 677m6C7.674 678m64A.674 679v
  6DDx 6DEv 70Ex 710v 74Bx 74Dv 7B2x 7C0v 7FBx 7FDv 82Ex 830v 83Fx 840v 85Cx 85Ev 85Fx 860v 86Bx
  870v 88Fx 898v 8E2x 8E3v 958m915.93C 959m916.93C 95Am917.93C 95Bm91C.93C 95Cm921.93C 95Dm922.93C
  95Em92B.93C 95Fm92F.93C 960v 984x 985v 98Dx 98Fv 991x 993v 9A9x 9AAv 9B1x 9B2v 9B3x 9B6v 9BAx
  9BCv 9C5x 9C7v 9C9x 9CBv 9CFx 9D7v 9D8x 9DCm9A1.9BC 9DDm9A2.9BC 9DEx 9DFm9AF.9BC 9E0v 9E4x 9E6v
  9FFx A01v A04x A05v A0Bx A0Fv A11x A13v A29x A2Av A31x A32v A33mA32.A3C A34x A35v A36mA38.A3C
  A37x A38v A3Ax A3Cv A3Dx A3Ev A43x A47v A49x A4Bv A4Ex A51v A52x A59mA16.A3C A5AmA17.A3C
  A5BmA1C.A3C A5Cv A5Dx A5EmA2B.A3C A5Fx A66v A77x A81v A84x A85v A8Ex A8Fv A92x A93v AA9x AAAv
  AB1x AB2v AB4x AB5v ABAx ABCv AC6x AC7v ACAx ACBv ACEx AD0v AD1x AE0v AE4x AE6v AF2x AF9v B00x
  B01v B04x B05v B0Dx B0Fv B11x B13v B29x B2Av B31x B32v B34x B35v B3Ax B3Cv B45x B47v B49x B4Bv
  B4Ex B55v B58x B5CmB21.B3C B5DmB22.B3C B5Ex B5Fv B64x B66v B78x B82v B84x B85v B8Bx B8Ev B91x
  B92v B96x B99v B9Bx B9Cv B9Dx B9Ev BA0x BA3v BA5x BA8v BABx BAEv BBAx BBEv BC3x BC6v BC9x BCAv
  BCEx BD0v BD1x BD7v BD8x BE6v BFBx C00v C0Dx C0Ev C11x C12v C29x C2Av C3Ax C3Cv C45x C46v C49x
  C4Av C4Ex C55v C57x C58v C5Bx C5Dv C5Ex C60v C64x C66v C70x C77v C8Dx C8Ev C91x C92v CA9x CAAv
  CB4x CB5v CBAx CBCv CC5x CC6v CC9x CCAv CCEx CD5v CD7x CDDv CDFx CE0v CE4x CE6v CF0x CF1v CF4x
  D00v D0Dx D0Ev D11x D12v D45x D46v D49x D4Av D50x D54v D64x D66v D80x D81v D84x D85v D97x D9Av
  DB2x DB3v DBCx DBDv DBEx DC0v DC7x DCAv DCBx DCFv DD5x DD6v DD7x DD8v DE0x DE6v DF0x DF2v DF5x
  E01v E33mE4D.E32 E34v E3Bx E3Fv E5Cx E81v E83x E84v E85x E86v E8Bx E8Cv EA4x EA5v EA6x EA7v
  EB3mECD.EB2 EB4v EBEx EC0v EC5x EC6v EC7x EC8v ECFx ED0v EDAx EDCmEAB.E99 EDDmEAB.EA1 EDEv EE0x
  F00v F0CmF0B F0Dv F43mF42.FB7 F44v F48x F49v F4DmF4C.FB7 F4Ev F52mF51.FB7 F53v F57mF56.FB7 F58v
  F5CmF5B.FB7 F5Dv F69mF40.FB5 F6Av F6Dx F71v F73mF71.F72 F74v F75mF71.F74 F76mFB2.F80
  F77mFB2.F71.F80 F78mFB3.F80 F79mFB3.F71.F80 F7Av F81mF71.F80 F82v F93mF92.FB7 F94v F98x F99v
  F9DmF9C.FB7 F9Ev FA2mFA1.FB7 FA3v FA7mFA6.FB7 FA8v FACmFAB.FB7 FADv FB9mF90.FB5 FBAv FBDx FBEv
  FCDx FCEv FDBx 1000v 10A0x 10C7m2D27 10C8x 10CDm2D2D 10CEx 10D0v 10FCm10DC 10FDv 115Fx 1161v
  1249x 124Av 124Ex 1250v 1257x 1258v 1259x 125Av 125Ex 1260v 1289x 128Av 128Ex 1290v 12B1x 12B2v
  12B6x 12B8v 12BFx 12C0v 12C1x 12C2v 12C6x 12C8v 12D7x 12D8v 1311x 1312v 1316x 1318v 135Bx 135Dv
  137Dx 1380v 139Ax 13A0v 13F6x 13F8m13F0 13F9m13F1 13FAm13F2 13FBm13F3 13FCm13F4 13FDm13F5 13FEx
  1400v 1680x 1681v 169Dx 16A0v 16F9x 1700v 1716x 171Fv 1737x 1740v 1754x 1760v 176Dx 176Ev 1771x
  1772v 1774x 1780v 17B4x 17B6v 17DEx 17E0v 17EAx 17F0v 17FAx 1800v 1806x 1807v 180Bi 180Ex 180Fi
  1810v 181Ax 1820v 1879x 1880v 18ABx 18B0v 18F6x 1900v 191Fx 1920v 192Cx 1930v 193Cx 1940v 1941x
  1944v 196Ex 1970v 1975x 1980v 19ACx 19B0v 19CAx 19D0v 19DBx 19DEv 1A1Cx 1A1Ev 1A5Fx 1A60v 1A7Dx
  1A7Fv 1A8Ax 1A90v 1A9Ax 1AA0v 1AAEx 1AB0v 1ACFx 1B00v 1B4Dx 1B50v 1B7Fx 1B80v 1BF4x 1BFCv 1C38x
  1C3Bv 1C4Ax 1C4Dv 1C80m432 1C81m434 1C82m43E 1C83m441 1C84m442 1C86m44A 1C87m463 1C88mA64B 1C89x
  1C90m10D0 1C91m10D1 1C92m10D2 1C93m10D3 1C94m10D4 1C95m10D5 1C96m10D6 1C97m10D7 1C98m10D8
  1C99m10D9 1C9Am10DA 1C9Bm10DB 1C9Cm10DC 1C9Dm10DD 1C9Em10DE 1C9Fm10DF 1CA0m10E0 1CA1m10E1
  1CA2m10E2 1CA3m10E3 1CA4m10E4 1CA5m10E5 1CA6m10E6 1CA7m10E7 1CA8m10E8 1CA9m10E9 1CAAm10EA
  1CABm10EB 1CACm10EC 1CADm10ED 1CAEm10EE 1CAFm10EF 1CB0m10F0 1CB1m10F1 1CB2m10F2 1CB3m10F3
  1CB4m10F4 1CB5m10F5 1CB6m10F6 1CB7m10F7 1CB8m10F8 1CB9m10F9 1CBAm10FA 1CBBx 1CBDm10FD 1CBEm10FE
  1CBFm10FF 1CC0v 1CC8x 1CD0v 1CFBx 1D00v 1D2Cm61 1D2DmE6 1D2Em62 1D2Fv 1D30m64 1D31m65 1D32m1DD
  1D33m67 1D34m68 1D35m69 1D36m6A 1D37m6B 1D38m6C 1D39m6D 1D3Am6E 1D3Bv 1D3Cm6F 1D3Dm223 1D3Em70
  1D3Fm72 1D40m74 1D41m75 1D42m77 1D43m61 1D44m250 1D45m251 1D46m1D02 1D47m62 1D48m64 1D49m65
  1D4Am259 1D4Bm25B 1D4Cm25C 1D4Dm67 1D4Ev 1D4Fm6B 1D50m6D 1D51m14B 1D52m6F 1D53m254 1D54m1D16
  1D55m1D17 1D56m70 1D57m74 1D58m75 1D59m1D1D 1D5Am26F 1D5Bm76 1D5Cm1D25 1D5Dm3B2 1D5Em3B3
  1D5Fm3B4 1D60m3C6 1D61m3C7 1D62m69 1D63m72 1D64m75 1D65m76 1D66m3B2 1D67m3B3 1D68m3C1 1D69m3C6
  1D6Am3C7 1D6Bv 1D78m43D 1D79v 1D9Bm252 1D9Cm63 1D9Dm255 1D9EmF0 1D9Fm25C 1DA0m66 1DA1m25F
  1DA2m261 1DA3m265 1DA4m268 1DA5m269 1DA6m26A 1DA7m1D7B 1DA8m29D 1DA9m26D 1DAAm1D85 1DABm29F
  1DACm271 1DADm270 1DAEm272 1DAFm273 1DB0m274 1DB1m275 1DB2m278 1DB3m282 1DB4m283 1DB5m1AB
  1DB6m289 1DB7m28A 1DB8m1D1C 1DB9m28B 1DBAm28C 1DBBm7A 1DBCm290 1DBDm291 1DBEm292 1DBFm3B8 1DC0v
  1E00m1E01 1E01v 1E02m1E03 1E03v 1E04m1E05 1E05v 1E06m1E07 1E07v 1E08m1E09 1E09v 1E0Am1E0B 1E0Bv
  1E0Cm1E0D 1E0Dv 1E0Em1E0F 1E0Fv 1E10m1E11 1E11v 1E12m1E13 1E13v 1E14m1E15 1E15v 1E16m1E17 1E17v
  1E18m1E19 1E19v 1E1Am1E1B 1E1Bv 1E1Cm1E1D 1E1Dv 1E1Em1E1F 1E1Fv 1E20m1E21 1E21v 1E22m1E23 1E23v
  1E24m1E25 1E25v 1E26m1E27 1E27v 1E28m1E29 1E29v 1E2Am1E2B 1E2Bv 1E2Cm1E2D 1E2Dv 1E2Em1E2F 1E2Fv
  1E30m1E31 1E31v 1E32m1E33 1E33v 1E34m1E35 1E35v 1E36m1E37 1E37v 1E38m1E39 1E39v 1E3Am1E3B 1E3Bv
  1E3Cm1E3D 1E3Dv 1E3Em1E3F 1E3Fv 1E40m1E41 1E41v 1E42m1E43 1E43v 1E44m1E45 1E45v 1E46m1E47 1E47v
  1E48m1E49 1E49v 1E4Am1E4B 1E4Bv 1E4Cm1E4D 1E4Dv 1E4Em1E4F 1E4Fv 1E50m1E51 1E51v 1E52m1E53 1E53v
  1E54m1E55 1E55v 1E56m1E57 1E57v 1E58m1E59 1E59v 1E5Am1E5B 1E5Bv 1E5Cm1E5D 1E5Dv 1E5Em1E5F 1E5Fv
  1E60m1E61 1E61v 1E62m1E63 1E63v 1E64m1E65 1E65v 1E66m1E67 1E67v 1E68m1E69 1E69v 1E6Am1E6B 1E6Bv
  1E6Cm1E6D 1E6Dv 1E6Em1E6F 1E6Fv 1E70m1E71 1E71v 1E72m1E73 1E73v 1E74m1E75 1E75v 1E76m1E77 1E77v
  1E78m1E79 1E79v 1E7Am1E7B 1E7Bv 1E7Cm1E7D 1E7Dv 1E7Em1E7F 1E7Fv 1E80m1E81 1E81v 1E82m1E83 1E83v
  1E84m1E85 1E85v 1E86m1E87 1E87v 1E88m1E89 1E89v 1E8Am1E8B 1E8Bv 1E8Cm1E8D 1E8Dv 1E8Em1E8F 1E8Fv
  1E90m1E91 1E91v 1E92m1E93 1E93v 1E94m1E95 1E95v 1E9Am61.2BE 1E9Bm1E61 1E9Cv 1E9Em73.73 1E9Fv
  1EA0m1EA1 1EA1v 1EA2m1EA3 1EA3v 1EA4m1EA5 1EA5v 1EA6m1EA7 1EA7v 1EA8m1EA9 1EA9v 1EAAm1EAB 1EABv
  1EACm1EAD 1EADv 1EAEm1EAF 1EAFv 1EB0m1EB1 1EB1v 1EB2m1EB3 1EB3v 1EB4m1EB5 1EB5v 1EB6m1EB7 1EB7v
  1EB8m1EB9 1EB9v 1EBAm1EBB 1EBBv 1EBCm1EBD 1EBDv 1EBEm1EBF 1EBFv 1EC0m1EC1 1EC1v 1EC2m1EC3 1EC3v
  1EC4m1EC5 1EC5v 1EC6m1EC7 1EC7v 1EC8m1EC9 1EC9v 1ECAm1ECB 1ECBv 1ECCm1ECD 1ECDv 1ECEm1ECF 1ECFv
  1ED0m1ED1 1ED1v 1ED2m1ED3 1ED3v 1ED4m1ED5 1ED5v 1ED6m1ED7 1ED7v 1ED8m1ED9 1ED9v 1EDAm1EDB 1EDBv
  1EDCm1EDD 1EDDv 1EDEm1EDF 1EDFv 1EE0m1EE1 1EE1v 1EE2m1EE3 1EE3v 1EE4m1EE5 1EE5v 1EE6m1EE7 1EE7v
  1EE8m1EE9 1EE9v 1EEAm1EEB 1EEBv 1EECm1EED 1EEDv 1EEEm1EEF 1EEFv 1EF0m1EF1 1EF1v 1EF2m1EF3 1EF3v
  1EF4m1EF5 1EF5v 1EF6m1EF7 1EF7v 1EF8m1EF9 1EF9v 1EFAm1EFB 1EFBv 1EFCm1EFD 1EFDv 1EFEm1EFF 1EFFv
  1F08m1F00 1F09m1F01 1F0Am1F02 1F0Bm1F03 1F0Cm1F04 1F0Dm1F05 1F0Em1F06 1F0Fm1F07 1F10v 1F16x
  1F18m1F10 1F19m1F11 1F1Am1F12 1F1Bm1F13 1F1Cm1F14 1F1Dm1F15 1F1Ex 1F20v 1F28m1F20 1F29m1F21
  1F2Am1F22 1F2Bm1F23 1F2Cm1F24 1F2Dm1F25 1F2Em1F26 1F2Fm1F27 1F30v 1F38m1F30 1F39m1F31 1F3Am1F32
  1F3Bm1F33 1F3Cm1F34 1F3Dm1F35 1F3Em1F36 1F3Fm1F37 1F40v 1F46x 1F48m1F40 1F49m1F41 1F4Am1F42
  1F4Bm1F43 1F4Cm1F44 1F4Dm1F45 1F4Ex 1F50v 1F58x 1F59m1F51 1F5Ax 1F5Bm1F53 1F5Cx 1F5Dm1F55 1F5Ex
  1F5Fm1F57 1F60v 1F68m1F60 1F69m1F61 1F6Am1F62 1F6Bm1F63 1F6Cm1F64 1F6Dm1F65 1F6Em1F66 1F6Fm1F67
  1F70v 1F71m3AC 1F72v 1F73m3AD 1F74v 1F75m3AE 1F76v 1F77m3AF 1F78v 1F79m3CC 1F7Av 1F7Bm3CD 1F7Cv
  1F7Dm3CE 1F7Ex 1F80m1F00.3B9 1F81m1F01.3B9 1F82m1F02.3B9 1F83m1F03.3B9 1F84m1F04.3B9
  1F85m1F05.3B9 1F86m1F06.3B9 1F87m1F07.3B9 1F88m1F00.3B9 1F89m1F01.3B9 1F8Am1F02.3B9
  1F8Bm1F03.3B9 1F8Cm1F04.3B9 1F8Dm1F05.3B9 1F8Em1F06.3B9 1F8Fm1F07.3B9 1F90m1F20.3B9
  1F91m1F21.3B9 1F92m1F22.3B9 1F93m1F23.3B9 1F94m1F24.3B9 1F95m1F25.3B9 1F96m1F26.3B9
  1F97m1F27.3B9 1F98m1F20.3B9 1F99m1F21.3B9 1F9Am1F22.3B9 1F9Bm1F23.3B9 1F9Cm1F24.3B9
  1F9Dm1F25.3B9 1F9Em1F26.3B9 1F9Fm1F27.3B9 1FA0m1F60.3B9 1FA1m1F61.3B9 1FA2m1F62.3B9
  1FA3m1F63.3B9 1FA4m1F64.3B9 1FA5m1F65.3B9 1FA6m1F66.3B9 1FA7m1F67.3B9 1FA8m1F60.3B9
  1FA9m1F61.3B9 1FAAm1F62.3B9 1FABm1F63.3B9 1FACm1F64.3B9 1FADm1F65.3B9 1FAEm1F66.3B9
  1FAFm1F67.3B9 1FB0v 1FB2m1F70.3B9 1FB3m3B1.3B9 1FB4m3AC.3B9 1FB5x 1FB6v 1FB7m1FB6.3B9 1FB8m1FB0
  1FB9m1FB1 1FBAm1F70 1FBBm3AC 1FBCm3B1.3B9 1FBDm20.313 1FBEm3B9 1FBFm20.313 1FC0m20.342
  1FC1m20.308.342 1FC2m1F74.3B9 1FC3m3B7.3B9 1FC4m3AE.3B9 1FC5x 1FC6v 1FC7m1FC6.3B9 1FC8m1F72
  1FC9m3AD 1FCAm1F74 1FCBm3AE 1FCCm3B7.3B9 1FCDm20.313.300 1FCEm20.313.301 1FCFm20.313.342 1FD0v
  1FD3m390 1FD4x 1FD6v 1FD8m1FD0 1FD9m1FD1 1FDAm1F76 1FDBm3AF 1FDCx 1FDDm20.314.300
  1FDEm20.314.301 1FDFm20.314.342 1FE0v 1FE3m3B0 1FE4v 1FE8m1FE0 1FE9m1FE1 1FEAm1F7A 1FEBm3CD
  1FECm1FE5 1FEDm20.308.300 1FEEm20.308.301 1FEFm60 1FF0x 1FF2m1F7C.3B9 1FF3m3C9.3B9 1FF4m3CE.3B9
  1FF5x 1FF6v 1FF7m1FF6.3B9 1FF8m1F78 1FF9m3CC 1FFAm1F7C 1FFBm3CE 1FFCm3C9.3B9 1FFDm20.301
  1FFEm20.314 1FFFx 2000m20 200Bi 200Cv 200Ex 2010v 2011m2010 2012v 2017m20.333 2018v 2024x 2027v
  2028x 202Fm20 2030v 2033m2032.2032 2034m2032.2032.2032 2035v 2036m2035.2035 2037m2035.2035.2035
  2038v 203Cm21.21 203Dv 203Em20.305 203Fv 2047m3F.3F 2048m3F.21 2049m21.3F 204Av
  2057m2032.2032.2032.2032 2058v 205Fm20 2060i 2061x 2064i 2065x 2070m30 2071m69 2072x 2074m34
  2075m35 2076m36 2077m37 2078m38 2079m39 207Am2B 207Bm2212 207Cm3D 207Dm28 207Em29 207Fm6E
  2080m30 2081m31 2082m32 2083m33 2084m34 2085m35 2086m36 2087m37 2088m38 2089m39 208Am2B
  208Bm2212 208Cm3D 208Dm28 208Em29 208Fx 2090m61 2091m65 2092m6F 2093m78 2094m259 2095m68 2096m6B
  2097m6C 2098m6D 2099m6E 209Am70 209Bm73 209Cm74 209Dx 20A0v 20A8m72.73 20A9v 20C1x 20D0v 20F1x
  2100m61.2F.63 2101m61.2F.73 2102m63 2103mB0.63 2104v 2105m63.2F.6F 2106m63.2F.75 2107m25B 2108v
  2109mB0.66 210Am67 210Bm68 210Fm127 2110m69 2112m6C 2114v 2115m6E 2116m6E.6F 2117v 2119m70
  211Am71 211Bm72 211Ev 2120m73.6D 2121m74.65.6C 2122m74.6D 2123v 2124m7A 2125v 2126m3C9 2127v
  2128m7A 2129v 212Am6B 212BmE5 212Cm62 212Dm63 212Ev 212Fm65 2131m66 2132x 2133m6D 2134m6F
  2135m5D0 2136m5D1 2137m5D2 2138m5D3 2139m69 213Av 213Bm66.61.78 213Cm3C0 213Dm3B3 213Fm3C0
  2140m2211 2141v 2145m64 2147m65 2148m69 2149m6A 214Av 2150m31.2044.37 2151m31.2044.39
  2152m31.2044.31.30 2153m31.2044.33 2154m32.2044.33 2155m31.2044.35 2156m32.2044.35
  2157m33.2044.35 2158m34.2044.35 2159m31.2044.36 215Am35.2044.36 215Bm31.2044.38 215Cm33.2044.38
  215Dm35.2044.38 215Em37.2044.38 215Fm31.2044 2160m69 2161m69.69 2162m69.69.69 2163m69.76 2164m76
  2165m76.69 2166m76.69.69 2167m76.69.69.69 2168m69.78 2169m78 216Am78.69 216Bm78.69.69 216Cm6C
  216Dm63 216Em64 216Fm6D 2170m69 2171m69.69 2172m69.69.69 2173m69.76 2174m76 2175m76.69
  2176m76.69.69 2177m76.69.69.69 2178m69.78 2179m78 217Am78.69 217Bm78.69.69 217Cm6C 217Dm63
  217Em64 217Fm6D 2180v 2183x 2184v 2189m30.2044.33 218Av 218Cx 2190v 222Cm222B.222B
  222Dm222B.222B.222B 222Ev 222Fm222E.222E 2230m222E.222E.222E 2231v 2329m3008 232Am3009 232Bv
  2427x 2440v 244Bx 2460m31 2461m32 2462m33 2463m34 2464m35 2465m36 2466m37 2467m38 2468m39
  2469m31.30 246Am31.31 246Bm31.32 246Cm31.33 246Dm31.34 246Em31.35 246Fm31.36 2470m31.37
  2471m31.38 2472m31.39 2473m32.30 2474m28.31.29 2475m28.32.29 2476m28.33.29 2477m28.34.29
  2478m28.35.29 2479m28.36.29 247Am28.37.29 247Bm28.38.29 247Cm28.39.29 247Dm28.31.30.29
  247Em28.31.31.29 247Fm28.31.32.29 2480m28.31.33.29 2481m28.31.34.29 2482m28.31.35.29
  2483m28.31.36.29 2484m28.31.37.29 2485m28.31.38.29 2486m28.31.39.29 2487m28.32.30.29 2488x
  249Cm28.61.29 249Dm28.62.29 249Em28.63.29 249Fm28.64.29 24A0m28.65.29 24A1m28.66.29
  24A2m28.67.29 24A3m28.68.29 24A4m28.69.29 24A5m28.6A.29 24A6m28.6B.29 24A7m28.6C.29
  24A8m28.6D.29 24A9m28.6E.29 24AAm28.6F.29 24ABm28.70.29 24ACm28.71.29 24ADm28.72.29
  24AEm28.73.29 24AFm28.74.29 24B0m28.75.29 24B1m28.76.29 24B2m28.77.29 24B3m28.78.29
  24B4m28.79.29 24B5m28.7A.29 24B6m61 24B7m62 24B8m63 24B9m64 24BAm65 24BBm66 24BCm67 24BDm68
  24BEm69 24BFm6A 24C0m6B 24C1m6C 24C2m6D 24C3m6E 24C4m6F 24C5m70 24C6m71 24C7m72 24C8m73 24C9m74
  24CAm75 24CBm76 24CCm77 24CDm78 24CEm79 24CFm7A 24D0m61 24D1m62 24D2m63 24D3m64 24D4m65 24D5m66
  24D6m67 24D7m68 24D8m69 24D9m6A 24DAm6B 24DBm6C 24DCm6D 24DDm6E 24DEm6F 24DFm70 24E0m71 24E1m72
  24E2m73 24E3m74 24E4m75 24E5m76 24E6m77 24E7m78 24E8m79 24E9m7A 24EAm30 24EBv
  2A0Cm222B.222B.222B.222B 2A0Dv 2A74m3A.3A.3D 2A75m3D.3D 2A76m3D.3D.3D 2A77v 2ADCm2ADD.338 2ADDv
  2B74x 2B76v 2B96x 2B97v 2C00m2C30 2C01m2C31 2C02m2C32 2C03m2C33 2C04m2C34 2C05m2C35 2C06m2C36
  2C07m2C37 2C08m2C38 2C09m2C39 2C0Am2C3A 2C0Bm2C3B 2C0Cm2C3C 2C0Dm2C3D 2C0Em2C3E 2C0Fm2C3F
  2C10m2C40 2C11m2C41 2C12m2C42 2C13m2C43 2C14m2C44 2C15m2C45 2C16m2C46 2C17m2C47 2C18m2C48
  2C19m2C49 2C1Am2C4A 2C1Bm2C4B 2C1Cm2C4C 2C1Dm2C4D 2C1Em2C4E 2C1Fm2C4F 2C20m2C50 2C21m2C51
  2C22m2C52 2C23m2C53 2C24m2C54 2C25m2C55 2C26m2C56 2C27m2C57 2C28m2C58 2C29m2C59 2C2Am2C5A
  2C2Bm2C5B 2C2Cm2C5C 2C2Dm2C5D 2C2Em2C5E 2C2Fm2C5F 2C30v 2C60m2C61 2C61v 2C62m26B 2C63m1D7D
  2C64m27D 2C65v 2C67m2C68 2C68v 2C69m2C6A 2C6Av 2C6Bm2C6C 2C6Cv 2C6Dm251 2C6Em271 2C6Fm250
  2C70m252 2C71v 2C72m2C73 2C73v 2C75m2C76 2C76v 2C7Cm6A 2C7Dm76 2C7Em23F 2C7Fm240 2C80m2C81 2C81v
  2C82m2C83 2C83v 2C84m2C85 2C85v 2C86m2C87 2C87v 2C88m2C89 2C89v 2C8Am2C8B 2C8Bv 2C8Cm2C8D 2C8Dv
  2C8Em2C8F 2C8Fv 2C90m2C91 2C91v 2C92m2C93 2C93v 2C94m2C95 2C95v 2C96m2C97 2C97v 2C98m2C99 2C99v
  2C9Am2C9B 2C9Bv 2C9Cm2C9D 2C9Dv 2C9Em2C9F 2C9Fv 2CA0m2CA1 2CA1v 2CA2m2CA3 2CA3v 2CA4m2CA5 2CA5v
  2CA6m2CA7 2CA7v 2CA8m2CA9 2CA9v 2CAAm2CAB 2CABv 2CACm2CAD 2CADv 2CAEm2CAF 2CAFv 2CB0m2CB1 2CB1v
  2CB2m2CB3 2CB3v 2CB4m2CB5 2CB5v 2CB6m2CB7 2CB7v 2CB8m2CB9 2CB9v 2CBAm2CBB 2CBBv 2CBCm2CBD 2CBDv
  2CBEm2CBF 2CBFv 2CC0m2CC1 2CC1v 2CC2m2CC3 2CC3v 2CC4m2CC5 2CC5v 2CC6m2CC7 2CC7v 2CC8m2CC9 2CC9v
  2CCAm2CCB 2CCBv 2CCCm2CCD 2CCDv 2CCEm2CCF 2CCFv 2CD0m2CD1 2CD1v 2CD2m2CD3 2CD3v 2CD4m2CD5 2CD5v
  2CD6m2CD7 2CD7v 2CD8m2CD9 2CD9v 2CDAm2CDB 2CDBv 2CDCm2CDD 2CDDv 2CDEm2CDF 2CDFv 2CE0m2CE1 2CE1v
  2CE2m2CE3 2CE3v 2CEBm2CEC 2CECv 2CEDm2CEE 2CEEv 2CF2m2CF3 2CF3v 2CF4x 2CF9v 2D26x 2D27v 2D28x
  2D2Dv 2D2Ex 2D30v 2D68x 2D6Fm2D61 2D70v 2D71x 2D7Fv 2D97x 2DA0v 2DA7x 2DA8v 2DAFx 2DB0v 2DB7x
  2DB8v 2DBFx 2DC0v 2DC7x 2DC8v 2DCFx 2DD0v 2DD7x 2DD8v 2DDFx 2DE0v 2E5Ex 2E80v 2E9Ax 2E9Bv
  2E9Fm6BCD 2EA0v 2EF3m9F9F 2EF4x 2F00m4E00 2F01m4E28 2F02m4E36 2F03m4E3F 2F04m4E59 2F05m4E85
  2F06m4E8C 2F07m4EA0 2F08m4EBA 2F09m513F 2F0Am5165 2F0Bm516B 2F0Cm5182 2F0Dm5196 2F0Em51AB
  2F0Fm51E0 2F10m51F5 2F11m5200 2F12m529B 2F13m52F9 2F14m5315 2F15m531A 2F16m5338 2F17m5341
  2F18m535C 2F19m5369 2F1Am5382 2F1Bm53B6 2F1Cm53C8 2F1Dm53E3 2F1Em56D7 2F1Fm571F 2F20m58EB
  2F21m5902 2F22m590A 2F23m5915 2F24m5927 2F25m5973 2F26m5B50 2F27m5B80 2F28m5BF8 2F29m5C0F
  2F2Am5C22 2F2Bm5C38 2F2Cm5C6E 2F2Dm5C71 2F2Em5DDB 2F2Fm5DE5 2F30m5DF1 2F31m5DFE 2F32m5E72
  2F33m5E7A 2F34m5E7F 2F35m5EF4 2F36m5EFE 2F37m5F0B 2F38m5F13 2F39m5F50 2F3Am5F61 2F3Bm5F73
  2F3Cm5FC3 2F3Dm6208 2F3Em6236 2F3Fm624B 2F40m652F 2F41m6534 2F42m6587 2F43m6597 2F44m65A4
  2F45m65B9 2F46m65E0 2F47m65E5 2F48m66F0 2F49m6708 2F4Am6728 2F4Bm6B20 2F4Cm6B62 2F4Dm6B79
  2F4Em6BB3 2F4Fm6BCB 2F50m6BD4 2F51m6BDB 2F52m6C0F 2F53m6C14 2F54m6C34 2F55m706B 2F56m722A
  2F57m7236 2F58m723B 2F59m723F 2F5Am7247 2F5Bm7259 2F5Cm725B 2F5Dm72AC 2F5Em7384 2F5Fm7389
  2F60m74DC 2F61m74E6 2F62m7518 2F63m751F 2F64m7528 2F65m7530 2F66m758B 2F67m7592 2F68m7676
  2F69m767D 2F6Am76AE 2F6Bm76BF 2F6Cm76EE 2F6Dm77DB 2F6Em77E2 2F6Fm77F3 2F70m793A 2F71m79B8
  2F72m79BE 2F73m7A74 2F74m7ACB 2F75m7AF9 2F76m7C73 2F77m7CF8 2F78m7F36 2F79m7F51 2F7Am7F8A
  2F7Bm7FBD 2F7Cm8001 2F7Dm800C 2F7Em8012 2F7Fm8033 2F80m807F 2F81m8089 2F82m81E3 2F83m81EA
  2F84m81F3 2F85m81FC 2F86m820C 2F87m821B 2F88m821F 2F89m826E 2F8Am8272 2F8Bm8278 2F8Cm864D
  2F8Dm866B 2F8Em8840 2F8Fm884C 2F90m8863 2F91m897E 2F92m898B 2F93m89D2 2F94m8A00 2F95m8C37
  2F96m8C46 2F97m8C55 2F98m8C78 2F99m8C9D 2F9Am8D64 2F9Bm8D70 2F9Cm8DB3 2F9Dm8EAB 2F9Em8ECA
  2F9Fm8F9B 2FA0m8FB0 2FA1m8FB5 2FA2m9091 2FA3m9149 2FA4m91C6 2FA5m91CC 2FA6m91D1 2FA7m9577
  2FA8m9580 2FA9m961C 2FAAm96B6 2FABm96B9 2FACm96E8 2FADm9751 2FAEm975E 2FAFm9762 2FB0m9769
  2FB1m97CB 2FB2m97ED 2FB3m97F3 2FB4m9801 2FB5m98A8 2FB6m98DB 2FB7m98DF 2FB8m9996 2FB9m9999
  2FBAm99AC 2FBBm9AA8 2FBCm9AD8 2FBDm9ADF 2FBEm9B25 2FBFm9B2F 2FC0m9B32 2FC1m9B3C 2FC2m9B5A
  2FC3m9CE5 2FC4m9E75 2FC5m9E7F 2FC6m9EA5 2FC7m9EBB 2FC8m9EC3 2FC9m9ECD 2FCAm9ED1 2FCBm9EF9
  2FCCm9EFD 2FCDm9F0E 2FCEm9F13 2FCFm9F20 2FD0m9F3B 2FD1m9F4A 2FD2m9F52 2FD3m9F8D 2FD4m9F9C
  2FD5m9FA0 2FD6x 3000m20 3001v 3002m2E 3003v 3036m3012 3037v 3038m5341 3039m5344 303Am5345 303Bv
  3040x 3041v 3097x 3099v 309Bm20.3099 309Cm20.309A 309Dv 309Fm3088.308A 30A0v 30FFm30B3.30C8
  3100x 3105v 3130x 3131m1100 3132m1101 3133m11AA 3134m1102 3135m11AC 3136m11AD 3137m1103
  3138m1104 3139m1105 313Am11B0 313Bm11B1 313Cm11B2 313Dm11B3 313Em11B4 313Fm11B5 3140m111A
  3141m1106 3142m1107 3143m1108 3144m1121 3145m1109 3146m110A 3147m110B 3148m110C 3149m110D
  314Am110E 314Bm110F 314Cm1110 314Dm1111 314Em1112 314Fm1161 3150m1162 3151m1163 3152m1164
  3153m1165 3154m1166 3155m1167 3156m1168 3157m1169 3158m116A 3159m116B 315Am116C 315Bm116D
  315Cm116E 315Dm116F 315Em1170 315Fm1171 3160m1172 3161m1173 3162m1174 3163m1175 3164x 3165m1114
  3166m1115 3167m11C7 3168m11C8 3169m11CC 316Am11CE 316Bm11D3 316Cm11D7 316Dm11D9 316Em111C
  316Fm11DD 3170m11DF 3171m111D 3172m111E 3173m1120 3174m1122 3175m1123 3176m1127 3177m1129
  3178m112B 3179m112C 317Am112D 317Bm112E 317Cm112F 317Dm1132 317Em1136 317Fm1140 3180m1147
  3181m114C 3182m11F1 3183m11F2 3184m1157 3185m1158 3186m1159 3187m1184 3188m1185 3189m1188
  318Am1191 318Bm1192 318Cm1194 318Dm119E 318Em11A1 318Fx 3190v 3192m4E00 3193m4E8C 3194m4E09
  3195m56DB 3196m4E0A 3197m4E2D 3198m4E0B 3199m7532 319Am4E59 319Bm4E19 319Cm4E01 319Dm5929
  319Em5730 319Fm4EBA 31A0v 31E4x 31F0v 3200m28.1100.29 3201m28.1102.29 3202m28.1103.29
  3203m28.1105.29 3204m28.1106.29 3205m28.1107.29 3206m28.1109.29 3207m28.110B.29 3208m28.110C.29
  3209m28.110E.29 320Am28.110F.29 320Bm28.1110.29 320Cm28.1111.29 320Dm28.1112.29 320Em28.AC00.29
  320Fm28.B098.29 3210m28.B2E4.29 3211m28.B77C.29 3212m28.B9C8.29 3213m28.BC14.29 3214m28.C0AC.29
  3215m28.C544.29 3216m28.C790.29 3217m28.CC28.29 3218m28.CE74.29 3219m28.D0C0.29 321Am28.D30C.29
  321Bm28.D558.29 321Cm28.C8FC.29 321Dm28.C624.C804.29 321Em28.C624.D6C4.29 321Fx 3220m28.4E00.29
  3221m28.4E8C.29 3222m28.4E09.29 3223m28.56DB.29 3224m28.4E94.29 3225m28.516D.29 3226m28.4E03.29
  3227m28.516B.29 3228m28.4E5D.29 3229m28.5341.29 322Am28.6708.29 322Bm28.706B.29 322Cm28.6C34.29
  322Dm28.6728.29 322Em28.91D1.29 322Fm28.571F.29 3230m28.65E5.29 3231m28.682A.29 3232m28.6709.29
  3233m28.793E.29 3234m28.540D.29 3235m28.7279.29 3236m28.8CA1.29 3237m28.795D.29 3238m28.52B4.29
  3239m28.4EE3.29 323Am28.547C.29 323Bm28.5B66.29 323Cm28.76E3.29 323Dm28.4F01.29 323Em28.8CC7.29
  323Fm28.5354.29 3240m28.796D.29 3241m28.4F11.29 3242m28.81EA.29 3243m28.81F3.29 3244m554F
  3245m5E7C 3246m6587 3247m7B8F 3248v 3250m70.74.65 3251m32.31 3252m32.32 3253m32.33 3254m32.34
  3255m32.35 3256m32.36 3257m32.37 3258m32.38 3259m32.39 325Am33.30 325Bm33.31 325Cm33.32
  325Dm33.33 325Em33.34 325Fm33.35 3260m1100 3261m1102 3262m1103 3263m1105 3264m1106 3265m1107
  3266m1109 3267m110B 3268m110C 3269m110E 326Am110F 326Bm1110 326Cm1111 326Dm1112 326EmAC00
  326FmB098 3270mB2E4 3271mB77C 3272mB9C8 3273mBC14 3274mC0AC 3275mC544 3276mC790 3277mCC28
  3278mCE74 3279mD0C0 327AmD30C 327BmD558 327CmCC38.ACE0 327DmC8FC.C758 327EmC6B0 327Fv 3280m4E00
  3281m4E8C 3282m4E09 3283m56DB 3284m4E94 3285m516D 3286m4E03 3287m516B 3288m4E5D 3289m5341
  328Am6708 328Bm706B 328Cm6C34 328Dm6728 328Em91D1 328Fm571F 3290m65E5 3291m682A 3292m6709
  3293m793E 3294m540D 3295m7279 3296m8CA1 3297m795D 3298m52B4 3299m79D8 329Am7537 329Bm5973
  329Cm9069 329Dm512A 329Em5370 329Fm6CE8 32A0m9805 32A1m4F11 32A2m5199 32A3m6B63 32A4m4E0A
  32A5m4E2D 32A6m4E0B 32A7m5DE6 32A8m53F3 32A9m533B 32AAm5B97 32ABm5B66 32ACm76E3 32ADm4F01
  32AEm8CC7 32AFm5354 32B0m591C 32B1m33.36 32B2m33.37 32B3m33.38 32B4m33.39 32B5m34.30 32B6m34.31
  32B7m34.32 32B8m34.33 32B9m34.34 32BAm34.35 32BBm34.36 32BCm34.37 32BDm34.38 32BEm34.39
  32BFm35.30 32C0m31.6708 32C1m32.6708 32C2m33.6708 32C3m34.6708 32C4m35.6708 32C5m36.6708
  32C6m37.6708 32C7m38.6708 32C8m39.6708 32C9m31.30.6708 32CAm31.31.6708 32CBm31.32.6708
  32CCm68.67 32CDm65.72.67 32CEm65.76 32CFm6C.74.64 32D0m30A2 32D1m30A4 32D2m30A6 32D3m30A8
  32D4m30AA 32D5m30AB 32D6m30AD 32D7m30AF 32D8m30B1 32D9m30B3 32DAm30B5 32DBm30B7 32DCm30B9
  32DDm30BB 32DEm30BD 32DFm30BF 32E0m30C1 32E1m30C4 32E2m30C6 32E3m30C8 32E4m30CA 32E5m30CB
  32E6m30CC 32E7m30CD 32E8m30CE 32E9m30CF 32EAm30D2 32EBm30D5 32ECm30D8 32EDm30DB 32EEm30DE
  32EFm30DF 32F0m30E0 32F1m30E1 32F2m30E2 32F3m30E4 32F4m30E6 32F5m30E8 32F6m30E9 32F7m30EA
  32F8m30EB 32F9m30EC 32FAm30ED 32FBm30EF 32FCm30F0 32FDm30F1 32FEm30F2 32FFm4EE4.548C
  3300m30A2.30D1.30FC.30C8 3301m30A2.30EB.30D5.30A1 3302m30A2.30F3.30DA.30A2 3303m30A2.30FC.30EB
  3304m30A4.30CB.30F3.30B0 3305m30A4.30F3.30C1 3306m30A6.30A9.30F3 3307m30A8.30B9.30AF.30FC.30C9
  3308m30A8.30FC.30AB.30FC 3309m30AA.30F3.30B9 330Am30AA.30FC.30E0 330Bm30AB.30A4.30EA
  330Cm30AB.30E9.30C3.30C8 330Dm30AB.30ED.30EA.30FC 330Em30AC.30ED.30F3 330Fm30AC.30F3.30DE
  3310m30AE.30AC 3311m30AE.30CB.30FC 3312m30AD.30E5.30EA.30FC 3313m30AE.30EB.30C0.30FC
  3314m30AD.30ED 3315m30AD.30ED.30B0.30E9.30E0 3316m30AD.30ED.30E1.30FC.30C8.30EB
  3317m30AD.30ED.30EF.30C3.30C8 3318m30B0.30E9.30E0 3319m30B0.30E9.30E0.30C8.30F3
  331Am30AF.30EB.30BC.30A4.30ED 331Bm30AF.30ED.30FC.30CD 331Cm30B1.30FC.30B9 331Dm30B3.30EB.30CA
  331Em30B3.30FC.30DD 331Fm30B5.30A4.30AF.30EB 3320m30B5.30F3.30C1.30FC.30E0
  3321m30B7.30EA.30F3.30B0 3322m30BB.30F3.30C1 3323m30BB.30F3.30C8 3324m30C0.30FC.30B9
  3325m30C7.30B7 3326m30C9.30EB 3327m30C8.30F3 3328m30CA.30CE 3329m30CE.30C3.30C8
  332Am30CF.30A4.30C4 332Bm30D1.30FC.30BB.30F3.30C8 332Cm30D1.30FC.30C4 332Dm30D0.30FC.30EC.30EB
  332Em30D4.30A2.30B9.30C8.30EB 332Fm30D4.30AF.30EB 3330m30D4.30B3 3331m30D3.30EB
  3332m30D5.30A1.30E9.30C3.30C9 3333m30D5.30A3.30FC.30C8 3334m30D6.30C3.30B7.30A7.30EB
  3335m30D5.30E9.30F3 3336m30D8.30AF.30BF.30FC.30EB 3337m30DA.30BD 3338m30DA.30CB.30D2
  3339m30D8.30EB.30C4 333Am30DA.30F3.30B9 333Bm30DA.30FC.30B8 333Cm30D9.30FC.30BF
  333Dm30DD.30A4.30F3.30C8 333Em30DC.30EB.30C8 333Fm30DB.30F3 3340m30DD.30F3.30C9
  3341m30DB.30FC.30EB 3342m30DB.30FC.30F3 3343m30DE.30A4.30AF.30ED 3344m30DE.30A4.30EB
  3345m30DE.30C3.30CF 3346m30DE.30EB.30AF 3347m30DE.30F3.30B7.30E7.30F3 3348m30DF.30AF.30ED.30F3
  3349m30DF.30EA 334Am30DF.30EA.30D0.30FC.30EB 334Bm30E1.30AC 334Cm30E1.30AC.30C8.30F3
  334Dm30E1.30FC.30C8.30EB 334Em30E4.30FC.30C9 334Fm30E4.30FC.30EB 3350m30E6.30A2.30F3
  3351m30EA.30C3.30C8.30EB 3352m30EA.30E9 3353m30EB.30D4.30FC 3354m30EB.30FC.30D6.30EB
  3355m30EC.30E0 3356m30EC.30F3.30C8.30B2.30F3 3357m30EF.30C3.30C8 3358m30.70B9 3359m31.70B9
  335Am32.70B9 335Bm33.70B9 335Cm34.70B9 335Dm35.70B9 335Em36.70B9 335Fm37.70B9 3360m38.70B9
  3361m39.70B9 3362m31.30.70B9 3363m31.31.70B9 3364m31.32.70B9 3365m31.33.70B9 3366m31.34.70B9
  3367m31.35.70B9 3368m31.36.70B9 3369m31.37.70B9 336Am31.38.70B9 336Bm31.39.70B9 336Cm32.30.70B9
  336Dm32.31.70B9 336Em32.32.70B9 336Fm32.33.70B9 3370m32.34.70B9 3371m68.70.61 3372m64.61
  3373m61.75 3374m62.61.72 3375m6F.76 3376m70.63 3377m64.6D 3378m64.6D.32 3379m64.6D.33 337Am69.75
  337Bm5E73.6210 337Cm662D.548C 337Dm5927.6B63 337Em660E.6CBB 337Fm682A.5F0F.4F1A.793E 3380m70.61
  3381m6E.61 3382m3BC.61 3383m6D.61 3384m6B.61 3385m6B.62 3386m6D.62 3387m67.62 3388m63.61.6C
  3389m6B.63.61.6C 338Am70.66 338Bm6E.66 338Cm3BC.66 338Dm3BC.67 338Em6D.67 338Fm6B.67 3390m68.7A
  3391m6B.68.7A 3392m6D.68.7A 3393m67.68.7A 3394m74.68.7A 3395m3BC.6C 3396m6D.6C 3397m64.6C
  3398m6B.6C 3399m66.6D 339Am6E.6D 339Bm3BC.6D 339Cm6D.6D 339Dm63.6D 339Em6B.6D 339Fm6D.6D.32
  33A0m63.6D.32 33A1m6D.32 33A2m6B.6D.32 33A3m6D.6D.33 33A4m63.6D.33 33A5m6D.33 33A6m6B.6D.33
  33A7m6D.2215.73 33A8m6D.2215.73.32 33A9m70.61 33AAm6B.70.61 33ABm6D.70.61 33ACm67.70.61
  33ADm72.61.64 33AEm72.61.64.2215.73 33AFm72.61.64.2215.73.32 33B0m70.73 33B1m6E.73 33B2m3BC.73
  33B3m6D.73 33B4m70.76 33B5m6E.76 33B6m3BC.76 33B7m6D.76 33B8m6B.76 33B9m6D.76 33BAm70.77
  33BBm6E.77 33BCm3BC.77 33BDm6D.77 33BEm6B.77 33BFm6D.77 33C0m6B.3C9 33C1m6D.3C9 33C2x 33C3m62.71
  33C4m63.63 33C5m63.64 33C6m63.2215.6B.67 33C7x 33C8m64.62 33C9m67.79 33CAm68.61 33CBm68.70
  33CCm69.6E 33CDm6B.6B 33CEm6B.6D 33CFm6B.74 33D0m6C.6D 33D1m6C.6E 33D2m6C.6F.67 33D3m6C.78
  33D4m6D.62 33D5m6D.69.6C 33D6m6D.6F.6C 33D7m70.68 33D8x 33D9m70.70.6D 33DAm70.72 33DBm73.72
  33DCm73.76 33DDm77.62 33DEm76.2215.6D 33DFm61.2215.6D 33E0m31.65E5 33E1m32.65E5 33E2m33.65E5
  33E3m34.65E5 33E4m35.65E5 33E5m36.65E5 33E6m37.65E5 33E7m38.65E5 33E8m39.65E5 33E9m31.30.65E5
  33EAm31.31.65E5 33EBm31.32.65E5 33ECm31.33.65E5 33EDm31.34.65E5 33EEm31.35.65E5 33EFm31.36.65E5
  33F0m31.37.65E5 33F1m31.38.65E5 33F2m31.39.65E5 33F3m32.30.65E5 33F4m32.31.65E5 33F5m32.32.65E5
  33F6m32.33.65E5 33F7m32.34.65E5 33F8m32.35.65E5 33F9m32.36.65E5 33FAm32.37.65E5 33FBm32.38.65E5
  33FCm32.39.65E5 33FDm33.30.65E5 33FEm33.31.65E5 33FFm67.61.6C 3400v A48Dx A490v A4C7x A4D0v
  A62Cx A640mA641 A641v A642mA643 A643v A644mA645 A645v A646mA647 A647v A648mA649 A649v A64AmA64B
  A64Bv A64CmA64D A64Dv A64EmA64F A64Fv A650mA651 A651v A652mA653 A653v A654mA655 A655v A656mA657
  A657v A658mA659 A659v A65AmA65B A65Bv A65CmA65D A65Dv A65EmA65F A65Fv A660mA661 A661v A662mA663
  A663v A664mA665 A665v A666mA667 A667v A668mA669 A669v A66AmA66B A66Bv A66CmA66D A66Dv A680mA681
  A681v A682mA683 A683v A684mA685 A685v A686mA687 A687v A688mA689 A689v A68AmA68B A68Bv A68CmA68D
  A68Dv A68EmA68F A68Fv A690mA691 A691v A692mA693 A693v A694mA695 A695v A696mA697 A697v A698mA699
  A699v A69AmA69B A69Bv A69Cm44A A69Dm44C A69Ev A6F8x A700v A722mA723 A723v A724mA725 A725v
  A726mA727 A727v A728mA729 A729v A72AmA72B A72Bv A72CmA72D A72Dv A72EmA72F A72Fv A732mA733 A733v
  A734mA735 A735v A736mA737 A737v A738mA739 A739v A73AmA73B A73Bv A73CmA73D A73Dv A73EmA73F A73Fv
  A740mA741 A741v A742mA743 A743v A744mA745 A745v A746mA747 A747v A748mA749 A749v A74AmA74B A74Bv
  A74CmA74D A74Dv A74EmA74F A74Fv A750mA751 A751v A752mA753 A753v A754mA755 A755v A756mA757 A757v
  A758mA759 A759v A75AmA75B A75Bv A75CmA75D A75Dv A75EmA75F A75Fv A760mA761 A761v A762mA763 A763v
  A764mA765 A765v A766mA767 A767v A768mA769 A769v A76AmA76B A76Bv A76CmA76D A76Dv A76EmA76F A76Fv
  A770mA76F A771v A779mA77A A77Av A77BmA77C A77Cv A77Dm1D79 A77EmA77F A77Fv A780mA781 A781v
  A782mA783 A783v A784mA785 A785v A786mA787 A787v A78BmA78C A78Cv A78Dm265 A78Ev A790mA791 A791v
  A792mA793 A793v A796mA797 A797v A798mA799 A799v A79AmA79B A79Bv A79CmA79D A79Dv A79EmA79F A79Fv
  A7A0mA7A1 A7A1v A7A2mA7A3 A7A3v A7A4mA7A5 A7A5v A7A6mA7A7 A7A7v A7A8mA7A9 A7A9v A7AAm266
  A7ABm25C A7ACm261 A7ADm26C A7AEm26A A7AFv A7B0m29E A7B1m287 A7B2m29D A7B3mAB53 A7B4mA7B5 A7B5v
  A7B6mA7B7 A7B7v A7B8mA7B9 A7B9v A7BAmA7BB A7BBv A7BCmA7BD A7BDv A7BEmA7BF A7BFv A7C0mA7C1 A7C1v
  A7C2mA7C3 A7C3v A7C4mA794 A7C5m282 A7C6m1D8E A7C7mA7C8 A7C8v A7C9mA7CA A7CAv A7CBx A7D0mA7D1
  A7D1v A7D2x A7D3v A7D4x A7D5v A7D6mA7D7 A7D7v A7D8mA7D9 A7D9v A7DAx A7F2m63 A7F3m66 A7F4m71
  A7F5mA7F6 A7F6v A7F8m127 A7F9m153 A7FAv A82Dx A830v A83Ax A840v A878x A880v A8C6x A8CEv A8DAx
  A8E0v A954x A95Fv A97Dx A980v A9CEx A9CFv A9DAx A9DEv A9FFx AA00v AA37x AA40v AA4Ex AA50v AA5Ax
  AA5Cv AAC3x AADBv AAF7x AB01v AB07x AB09v AB0Fx AB11v AB17x AB20v AB27x AB28v AB2Fx AB30v
  AB5CmA727 AB5DmAB37 AB5Em26B AB5FmAB52 AB60v AB69m28D AB6Av AB6Cx AB70m13A0 AB71m13A1 AB72m13A2
  AB73m13A3 AB74m13A4 AB75m13A5 AB76m13A6 AB77m13A7 AB78m13A8 AB79m13A9 AB7Am13AA AB7Bm13AB
  AB7Cm13AC AB7Dm13AD AB7Em13AE AB7Fm13AF AB80m13B0 AB81m13B1 AB82m13B2 AB83m13B3 AB84m13B4
  AB85m13B5 AB86m13B6 AB87m13B7 AB88m13B8 AB89m13B9 AB8Am13BA AB8Bm13BB AB8Cm13BC AB8Dm13BD
  AB8Em13BE AB8Fm13BF AB90m13C0 AB91m13C1 AB92m13C2 AB93m13C3 AB94m13C4 AB95m13C5 AB96m13C6
  AB97m13C7 AB98m13C8 AB99m13C9 AB9Am13CA AB9Bm13CB AB9Cm13CC AB9Dm13CD AB9Em13CE AB9Fm13CF
  ABA0m13D0 ABA1m13D1 ABA2m13D2 ABA3m13D3 ABA4m13D4 ABA5m13D5 ABA6m13D6 ABA7m13D7 ABA8m13D8
  ABA9m13D9 ABAAm13DA ABABm13DB ABACm13DC ABADm13DD ABAEm13DE ABAFm13DF ABB0m13E0 ABB1m13E1
  ABB2m13E2 ABB3m13E3 ABB4m13E4 ABB5m13E5 ABB6m13E6 ABB7m13E7 ABB8m13E8 ABB9m13E9 ABBAm13EA
  ABBBm13EB ABBCm13EC ABBDm13ED ABBEm13EE ABBFm13EF ABC0v ABEEx ABF0v ABFAx AC00v D7A4x D7B0v
  D7C7x D7CBv D7FCx F900m8C48 F901m66F4 F902m8ECA F903m8CC8 F904m6ED1 F905m4E32 F906m53E5
  F907m9F9C F909m5951 F90Am91D1 F90Bm5587 F90Cm5948 F90Dm61F6 F90Em7669 F90Fm7F85 F910m863F
  F911m87BA F912m88F8 F913m908F F914m6A02 F915m6D1B F916m70D9 F917m73DE F918m843D F919m916A
  F91Am99F1 F91Bm4E82 F91Cm5375 F91Dm6B04 F91Em721B F91Fm862D F920m9E1E F921m5D50 F922m6FEB
  F923m85CD F924m8964 F925m62C9 F926m81D8 F927m881F F928m5ECA F929m6717 F92Am6D6A F92Bm72FC
  F92Cm90CE F92Dm4F86 F92Em51B7 F92Fm52DE F930m64C4 F931m6AD3 F932m7210 F933m76E7 F934m8001
  F935m8606 F936m865C F937m8DEF F938m9732 F939m9B6F F93Am9DFA F93Bm788C F93Cm797F F93Dm7DA0
  F93Em83C9 F93Fm9304 F940m9E7F F941m8AD6 F942m58DF F943m5F04 F944m7C60 F945m807E F946m7262
  F947m78CA F948m8CC2 F949m96F7 F94Am58D8 F94Bm5C62 F94Cm6A13 F94Dm6DDA F94Em6F0F F94Fm7D2F
  F950m7E37 F951m964B F952m52D2 F953m808B F954m51DC F955m51CC F956m7A1C F957m7DBE F958m83F1
  F959m9675 F95Am8B80 F95Bm62CF F95Cm6A02 F95Dm8AFE F95Em4E39 F95Fm5BE7 F960m6012 F961m7387
  F962m7570 F963m5317 F964m78FB F965m4FBF F966m5FA9 F967m4E0D F968m6CCC F969m6578 F96Am7D22
  F96Bm53C3 F96Cm585E F96Dm7701 F96Em8449 F96Fm8AAA F970m6BBA F971m8FB0 F972m6C88 F973m62FE
  F974m82E5 F975m63A0 F976m7565 F977m4EAE F978m5169 F979m51C9 F97Am6881 F97Bm7CE7 F97Cm826F
  F97Dm8AD2 F97Em91CF F97Fm52F5 F980m5442 F981m5973 F982m5EEC F983m65C5 F984m6FFE F985m792A
  F986m95AD F987m9A6A F988m9E97 F989m9ECE F98Am529B F98Bm66C6 F98Cm6B77 F98Dm8F62 F98Em5E74
  F98Fm6190 F990m6200 F991m649A F992m6F23 F993m7149 F994m7489 F995m79CA F996m7DF4 F997m806F
  F998m8F26 F999m84EE F99Am9023 F99Bm934A F99Cm5217 F99Dm52A3 F99Em54BD F99Fm70C8 F9A0m88C2
  F9A1m8AAA F9A2m5EC9 F9A3m5FF5 F9A4m637B F9A5m6BAE F9A6m7C3E F9A7m7375 F9A8m4EE4 F9A9m56F9
  F9AAm5BE7 F9ABm5DBA F9ACm601C F9ADm73B2 F9AEm7469 F9AFm7F9A F9B0m8046 F9B1m9234 F9B2m96F6
  F9B3m9748 F9B4m9818 F9B5m4F8B F9B6m79AE F9B7m91B4 F9B8m96B8 F9B9m60E1 F9BAm4E86 F9BBm50DA
  F9BCm5BEE F9BDm5C3F F9BEm6599 F9BFm6A02 F9C0m71CE F9C1m7642 F9C2m84FC F9C3m907C F9C4m9F8D
  F9C5m6688 F9C6m962E F9C7m5289 F9C8m677B F9C9m67F3 F9CAm6D41 F9CBm6E9C F9CCm7409 F9CDm7559
  F9CEm786B F9CFm7D10 F9D0m985E F9D1m516D F9D2m622E F9D3m9678 F9D4m502B F9D5m5D19 F9D6m6DEA
  F9D7m8F2A F9D8m5F8B F9D9m6144 F9DAm6817 F9DBm7387 F9DCm9686 F9DDm5229 F9DEm540F F9DFm5C65
  F9E0m6613 F9E1m674E F9E2m68A8 F9E3m6CE5 F9E4m7406 F9E5m75E2 F9E6m7F79 F9E7m88CF F9E8m88E1
  F9E9m91CC F9EAm96E2 F9EBm533F F9ECm6EBA F9EDm541D F9EEm71D0 F9EFm7498 F9F0m85FA F9F1m96A3
  F9F2m9C57 F9F3m9E9F F9F4m6797 F9F5m6DCB F9F6m81E8 F9F7m7ACB F9F8m7B20 F9F9m7C92 F9FAm72C0
  F9FBm7099 F9FCm8B58 F9FDm4EC0 F9FEm8336 F9FFm523A FA00m5207 FA01m5EA6 FA02m62D3 FA03m7CD6
  FA04m5B85 FA05m6D1E FA06m66B4 FA07m8F3B FA08m884C FA09m964D FA0Am898B FA0Bm5ED3 FA0Cm5140
  FA0Dm55C0 FA0Ev FA10m585A FA11v FA12m6674 FA13v FA15m51DE FA16m732A FA17m76CA FA18m793C
  FA19m795E FA1Am7965 FA1Bm798F FA1Cm9756 FA1Dm7CBE FA1Em7FBD FA1Fv FA20m8612 FA21v FA22m8AF8
  FA23v FA25m9038 FA26m90FD FA27v FA2Am98EF FA2Bm98FC FA2Cm9928 FA2Dm9DB4 FA2Em90DE FA2Fm96B7
  FA30m4FAE FA31m50E7 FA32m514D FA33m52C9 FA34m52E4 FA35m5351 FA36m559D FA37m5606 FA38m5668
  FA39m5840 FA3Am58A8 FA3Bm5C64 FA3Cm5C6E FA3Dm6094 FA3Em6168 FA3Fm618E FA40m61F2 FA41m654F
  FA42m65E2 FA43m6691 FA44m6885 FA45m6D77 FA46m6E1A FA47m6F22 FA48m716E FA49m722B FA4Am7422
  FA4Bm7891 FA4Cm793E FA4Dm7949 FA4Em7948 FA4Fm7950 FA50m7956 FA51m795D FA52m798D FA53m798E
  FA54m7A40 FA55m7A81 FA56m7BC0 FA57m7DF4 FA58m7E09 FA59m7E41 FA5Am7F72 FA5Bm8005 FA5Cm81ED
  FA5Dm8279 FA5Fm8457 FA60m8910 FA61m8996 FA62m8B01 FA63m8B39 FA64m8CD3 FA65m8D08 FA66m8FB6
  FA67m9038 FA68m96E3 FA69m97FF FA6Am983B FA6Bm6075 FA6Cm242EE FA6Dm8218 FA6Ex FA70m4E26 FA71m51B5
  FA72m5168 FA73m4F80 FA74m5145 FA75m5180 FA76m52C7 FA77m52FA FA78m559D FA79m5555 FA7Am5599
  FA7Bm55E2 FA7Cm585A FA7Dm58B3 FA7Em5944 FA7Fm5954 FA80m5A62 FA81m5B28 FA82m5ED2 FA83m5ED9
  FA84m5F69 FA85m5FAD FA86m60D8 FA87m614E FA88m6108 FA89m618E FA8Am6160 FA8Bm61F2 FA8Cm6234
  FA8Dm63C4 FA8Em641C FA8Fm6452 FA90m6556 FA91m6674 FA92m6717 FA93m671B FA94m6756 FA95m6B79
  FA96m6BBA FA97m6D41 FA98m6EDB FA99m6ECB FA9Am6F22 FA9Bm701E FA9Cm716E FA9Dm77A7 FA9Em7235
  FA9Fm72AF FAA0m732A FAA1m7471 FAA2m7506 FAA3m753B FAA4m761D FAA5m761F FAA6m76CA FAA7m76DB
  FAA8m76F4 FAA9m774A FAAAm7740 FAABm78CC FAACm7AB1 FAADm7BC0 FAAEm7C7B FAAFm7D5B FAB0m7DF4
  FAB1m7F3E FAB2m8005 FAB3m8352 FAB4m83EF FAB5m8779 FAB6m8941 FAB7m8986 FAB8m8996 FAB9m8ABF
  FABAm8AF8 FABBm8ACB FABCm8B01 FABDm8AFE FABEm8AED FABFm8B39 FAC0m8B8A FAC1m8D08 FAC2m8F38
  FAC3m9072 FAC4m9199 FAC5m9276 FAC6m967C FAC7m96E3 FAC8m9756 FAC9m97DB FACAm97FF FACBm980B
  FACCm983B FACDm9B12 FACEm9F9C FACFm2284A FAD0m22844 FAD1m233D5 FAD2m3B9D FAD3m4018 FAD4m4039
  FAD5m25249 FAD6m25CD0 FAD7m27ED3 FAD8m9F43 FAD9m9F8E FADAx FB00m66.66 FB01m66.69 FB02m66.6C
  FB03m66.66.69 FB04m66.66.6C FB05m73.74 FB07x FB13m574.576 FB14m574.565 FB15m574.56B FB16m57E.576
  FB17m574.56D FB18x FB1Dm5D9.5B4 FB1Ev FB1Fm5F2.5B7 FB20m5E2 FB21m5D0 FB22m5D3 FB23m5D4 FB24m5DB
  FB25m5DC FB26m5DD FB27m5E8 FB28m5EA FB29m2B FB2Am5E9.5C1 FB2Bm5E9.5C2 FB2Cm5E9.5BC.5C1
  FB2Dm5E9.5BC.5C2 FB2Em5D0.5B7 FB2Fm5D0.5B8 FB30m5D0.5BC FB31m5D1.5BC FB32m5D2.5BC FB33m5D3.5BC
  FB34m5D4.5BC FB35m5D5.5BC FB36m5D6.5BC FB37x FB38m5D8.5BC FB39m5D9.5BC FB3Am5DA.5BC FB3Bm5DB.5BC
  FB3Cm5DC.5BC FB3Dx FB3Em5DE.5BC FB3Fx FB40m5E0.5BC FB41m5E1.5BC FB42x FB43m5E3.5BC FB44m5E4.5BC
  FB45x FB46m5E6.5BC FB47m5E7.5BC FB48m5E8.5BC FB49m5E9.5BC FB4Am5EA.5BC FB4Bm5D5.5B9 FB4Cm5D1.5BF
  FB4Dm5DB.5BF FB4Em5E4.5BF FB4Fm5D0.5DC FB50m671 FB52m67B FB56m67E FB5Am680 FB5Em67A FB62m67F
  FB66m679 FB6Am6A4 FB6Em6A6 FB72m684 FB76m683 FB7Am686 FB7Em687 FB82m68D FB84m68C FB86m68E
  FB88m688 FB8Am698 FB8Cm691 FB8Em6A9 FB92m6AF FB96m6B3 FB9Am6B1 FB9Em6BA FBA0m6BB FBA4m6C0
  FBA6m6C1 FBAAm6BE FBAEm6D2 FBB0m6D3 FBB2v FBC3x FBD3m6AD FBD7m6C7 FBD9m6C6 FBDBm6C8 FBDDm6C7.674
  FBDEm6CB FBE0m6C5 FBE2m6C9 FBE4m6D0 FBE8m649 FBEAm626.627 FBECm626.6D5 FBEEm626.648 FBF0m626.6C7
  FBF2m626.6C6 FBF4m626.6C8 FBF6m626.6D0 FBF9m626.649 FBFCm6CC FC00m626.62C FC01m626.62D
  FC02m626.645 FC03m626.649 FC04m626.64A FC05m628.62C FC06m628.62D FC07m628.62E FC08m628.645
  FC09m628.649 FC0Am628.64A FC0Bm62A.62C FC0Cm62A.62D FC0Dm62A.62E FC0Em62A.645 FC0Fm62A.649
  FC10m62A.64A FC11m62B.62C FC12m62B.645 FC13m62B.649 FC14m62B.64A FC15m62C.62D FC16m62C.645
  FC17m62D.62C FC18m62D.645 FC19m62E.62C FC1Am62E.62D FC1Bm62E.645 FC1Cm633.62C FC1Dm633.62D
  FC1Em633.62E FC1Fm633.645 FC20m635.62D FC21m635.645 FC22m636.62C FC23m636.62D FC24m636.62E
  FC25m636.645 FC26m637.62D FC27m637.645 FC28m638.645 FC29m639.62C FC2Am639.645 FC2Bm63A.62C
  FC2Cm63A.645 FC2Dm641.62C FC2Em641.62D FC2Fm641.62E FC30m641.645 FC31m641.649 FC32m641.64A
  FC33m642.62D FC34m642.645 FC35m642.649 FC36m642.64A FC37m643.627 FC38m643.62C FC39m643.62D
  FC3Am643.62E FC3Bm643.644 FC3Cm643.645 FC3Dm643.649 FC3Em643.64A FC3Fm644.62C FC40m644.62D
  FC41m644.62E FC42m644.645 FC43m644.649 FC44m644.64A FC45m645.62C FC46m645.62D FC47m645.62E
  FC48m645.645 FC49m645.649 FC4Am645.64A FC4Bm646.62C FC4Cm646.62D FC4Dm646.62E FC4Em646.645
  FC4Fm646.649 FC50m646.64A FC51m647.62C FC52m647.645 FC53m647.649 FC54m647.64A FC55m64A.62C
  FC56m64A.62D FC57m64A.62E FC58m64A.645 FC59m64A.649 FC5Am64A.64A FC5Bm630.670 FC5Cm631.670
  FC5Dm649.670 FC5Em20.64C.651 FC5Fm20.64D.651 FC60m20.64E.651 FC61m20.64F.651 FC62m20.650.651
  FC63m20.651.670 FC64m626.631 FC65m626.632 FC66m626.645 FC67m626.646 FC68m626.649 FC69m626.64A
  FC6Am628.631 FC6Bm628.632 FC6Cm628.645 FC6Dm628.646 FC6Em628.649 FC6Fm628.64A FC70m62A.631
  FC71m62A.632 FC72m62A.645 FC73m62A.646 FC74m62A.649 FC75m62A.64A FC76m62B.631 FC77m62B.632
  FC78m62B.645 FC79m62B.646 FC7Am62B.649 FC7Bm62B.64A FC7Cm641.649 FC7Dm641.64A FC7Em642.649
  FC7Fm642.64A FC80m643.627 FC81m643.644 FC82m643.645 FC83m643.649 FC84m643.64A FC85m644.645
  FC86m644.649 FC87m644.64A FC88m645.627 FC89m645.645 FC8Am646.631 FC8Bm646.632 FC8Cm646.645
  FC8Dm646.646 FC8Em646.649 FC8Fm646.64A FC90m649.670 FC91m64A.631 FC92m64A.632 FC93m64A.645
  FC94m64A.646 FC95m64A.649 FC96m64A.64A FC97m626.62C FC98m626.62D FC99m626.62E FC9Am626.645
  FC9Bm626.647 FC9Cm628.62C FC9Dm628.62D FC9Em628.62E FC9Fm628.645 FCA0m628.647 FCA1m62A.62C
  FCA2m62A.62D FCA3m62A.62E FCA4m62A.645 FCA5m62A.647 FCA6m62B.645 FCA7m62C.62D FCA8m62C.645
  FCA9m62D.62C FCAAm62D.645 FCABm62E.62C FCACm62E.645 FCADm633.62C FCAEm633.62D FCAFm633.62E
  FCB0m633.645 FCB1m635.62D FCB2m635.62E FCB3m635.645 FCB4m636.62C FCB5m636.62D FCB6m636.62E
  FCB7m636.645 FCB8m637.62D FCB9m638.645 FCBAm639.62C FCBBm639.645 FCBCm63A.62C FCBDm63A.645
  FCBEm641.62C FCBFm641.62D FCC0m641.62E FCC1m641.645 FCC2m642.62D FCC3m642.645 FCC4m643.62C
  FCC5m643.62D FCC6m643.62E FCC7m643.644 FCC8m643.645 FCC9m644.62C FCCAm644.62D FCCBm644.62E
  FCCCm644.645 FCCDm644.647 FCCEm645.62C FCCFm645.62D FCD0m645.62E FCD1m645.645 FCD2m646.62C
  FCD3m646.62D FCD4m646.62E FCD5m646.645 FCD6m646.647 FCD7m647.62C FCD8m647.645 FCD9m647.670
  FCDAm64A.62C FCDBm64A.62D FCDCm64A.62E FCDDm64A.645 FCDEm64A.647 FCDFm626.645 FCE0m626.647
  FCE1m628.645 FCE2m628.647 FCE3m62A.645 FCE4m62A.647 FCE5m62B.645 FCE6m62B.647 FCE7m633.645
  FCE8m633.647 FCE9m634.645 FCEAm634.647 FCEBm643.644 FCECm643.645 FCEDm644.645 FCEEm646.645
  FCEFm646.647 FCF0m64A.645 FCF1m64A.647 FCF2m640.64E.651 FCF3m640.64F.651 FCF4m640.650.651
  FCF5m637.649 FCF6m637.64A FCF7m639.649 FCF8m639.64A FCF9m63A.649 FCFAm63A.64A FCFBm633.649
  FCFCm633.64A FCFDm634.649 FCFEm634.64A FCFFm62D.649 FD00m62D.64A FD01m62C.649 FD02m62C.64A
  FD03m62E.649 FD04m62E.64A FD05m635.649 FD06m635.64A FD07m636.649 FD08m636.64A FD09m634.62C
  FD0Am634.62D FD0Bm634.62E FD0Cm634.645 FD0Dm634.631 FD0Em633.631 FD0Fm635.631 FD10m636.631
  FD11m637.649 FD12m637.64A FD13m639.649 FD14m639.64A FD15m63A.649 FD16m63A.64A FD17m633.649
  FD18m633.64A FD19m634.649 FD1Am634.64A FD1Bm62D.649 FD1Cm62D.64A FD1Dm62C.649 FD1Em62C.64A
  FD1Fm62E.649 FD20m62E.64A FD21m635.649 FD22m635.64A FD23m636.649 FD24m636.64A FD25m634.62C
  FD26m634.62D FD27m634.62E FD28m634.645 FD29m634.631 FD2Am633.631 FD2Bm635.631 FD2Cm636.631
  FD2Dm634.62C FD2Em634.62D FD2Fm634.62E FD30m634.645 FD31m633.647 FD32m634.647 FD33m637.645
  FD34m633.62C FD35m633.62D FD36m633.62E FD37m634.62C FD38m634.62D FD39m634.62E FD3Am637.645
  FD3Bm638.645 FD3Cm627.64B FD3Ev FD50m62A.62C.645 FD51m62A.62D.62C FD53m62A.62D.645
  FD54m62A.62E.645 FD55m62A.645.62C FD56m62A.645.62D FD57m62A.645.62E FD58m62C.645.62D
  FD5Am62D.645.64A FD5Bm62D.645.649 FD5Cm633.62D.62C FD5Dm633.62C.62D FD5Em633.62C.649
  FD5Fm633.645.62D FD61m633.645.62C FD62m633.645.645 FD64m635.62D.62D FD66m635.645.645
  FD67m634.62D.645 FD69m634.62C.64A FD6Am634.645.62E FD6Cm634.645.645 FD6Em636.62D.649
  FD6Fm636.62E.645 FD71m637.645.62D FD73m637.645.645 FD74m637.645.64A FD75m639.62C.645
  FD76m639.645.645 FD78m639.645.649 FD79m63A.645.645 FD7Am63A.645.64A FD7Bm63A.645.649
  FD7Cm641.62E.645 FD7Em642.645.62D FD7Fm642.645.645 FD80m644.62D.645 FD81m644.62D.64A
  FD82m644.62D.649 FD83m644.62C.62C FD85m644.62E.645 FD87m644.645.62D FD89m645.62D.62C
  FD8Am645.62D.645 FD8Bm645.62D.64A FD8Cm645.62C.62D FD8Dm645.62C.645 FD8Em645.62E.62C
  FD8Fm645.62E.645 FD90x FD92m645.62C.62E FD93m647.645.62C FD94m647.645.645 FD95m646.62D.645
  FD96m646.62D.649 FD97m646.62C.645 FD99m646.62C.649 FD9Am646.645.64A FD9Bm646.645.649
  FD9Cm64A.645.645 FD9Em628.62E.64A FD9Fm62A.62C.64A FDA0m62A.62C.649 FDA1m62A.62E.64A
  FDA2m62A.62E.649 FDA3m62A.645.64A FDA4m62A.645.649 FDA5m62C.645.64A FDA6m62C.62D.649
  FDA7m62C.645.649 FDA8m633.62E.649 FDA9m635.62D.64A FDAAm634.62D.64A FDABm636.62D.64A
  FDACm644.62C.64A FDADm644.645.64A FDAEm64A.62D.64A FDAFm64A.62C.64A FDB0m64A.645.64A
  FDB1m645.645.64A FDB2m642.645.64A FDB3m646.62D.64A FDB4m642.645.62D FDB5m644.62D.645
  FDB6m639.645.64A FDB7m643.645.64A FDB8m646.62C.62D FDB9m645.62E.64A FDBAm644.62C.645
  FDBBm643.645.645 FDBCm644.62C.645 FDBDm646.62C.62D FDBEm62C.62D.64A FDBFm62D.62C.64A
  FDC0m645.62C.64A FDC1m641.645.64A FDC2m628.62D.64A FDC3m643.645.645 FDC4m639.62C.645
  FDC5m635.645.645 FDC6m633.62E.64A FDC7m646.62C.64A FDC8x FDCFv FDD0x FDF0m635.644.6D2
  FDF1m642.644.6D2 FDF2m627.644.644.647 FDF3m627.643.628.631 FDF4m645.62D.645.62F
  FDF5m635.644.639.645 FDF6m631.633.648.644 FDF7m639.644.64A.647 FDF8m648.633.644.645
  FDF9m635.644.649 FDFAm635.644.649.20.627.644.644.647.20.639.644.64A.647.20.648.633.644.645
  FDFBm62C.644.20.62C.644.627.644.647 FDFCm631.6CC.627.644 FDFDv FE00i FE10m2C FE11m3001 FE12x
  FE13m3A FE14m3B FE15m21 FE16m3F FE17m3016 FE18m3017 FE19x FE20v FE30x FE31m2014 FE32m2013
  FE33m5F FE35m28 FE36m29 FE37m7B FE38m7D FE39m3014 FE3Am3015 FE3Bm3010 FE3Cm3011 FE3Dm300A
  FE3Em300B FE3Fm3008 FE40m3009 FE41m300C FE42m300D FE43m300E FE44m300F FE45v FE47m5B FE48m5D
  FE49m20.305 FE4Dm5F FE50m2C FE51m3001 FE52x FE54m3B FE55m3A FE56m3F FE57m21 FE58m2014 FE59m28
  FE5Am29 FE5Bm7B FE5Cm7D FE5Dm3014 FE5Em3015 FE5Fm23 FE60m26 FE61m2A FE62m2B FE63m2D FE64m3C
  FE65m3E FE66m3D FE67x FE68m5C FE69m24 FE6Am25 FE6Bm40 FE6Cx FE70m20.64B FE71m640.64B FE72m20.64C
  FE73v FE74m20.64D FE75x FE76m20.64E FE77m640.64E FE78m20.64F FE79m640.64F FE7Am20.650
  FE7Bm640.650 FE7Cm20.651 FE7Dm640.651 FE7Em20.652 FE7Fm640.652 FE80m621 FE81m622 FE83m623
  FE85m624 FE87m625 FE89m626 FE8Dm627 FE8Fm628 FE93m629 FE95m62A FE99m62B FE9Dm62C FEA1m62D
  FEA5m62E FEA9m62F FEABm630 FEADm631 FEAFm632 FEB1m633 FEB5m634 FEB9m635 FEBDm636 FEC1m637
  FEC5m638 FEC9m639 FECDm63A FED1m641 FED5m642 FED9m643 FEDDm644 FEE1m645 FEE5m646 FEE9m647
  FEEDm648 FEEFm649 FEF1m64A FEF5m644.622 FEF7m644.623 FEF9m644.625 FEFBm644.627 FEFDx FEFFi FF00x
  FF01m21 FF02m22 FF03m23 FF04m24 FF05m25 FF06m26 FF07m27 FF08m28 FF09m29 FF0Am2A FF0Bm2B FF0Cm2C
  FF0Dm2D FF0Em2E FF0Fm2F FF10m30 FF11m31 FF12m32 FF13m33 FF14m34 FF15m35 FF16m36 FF17m37 FF18m38
  FF19m39 FF1Am3A FF1Bm3B FF1Cm3C FF1Dm3D FF1Em3E FF1Fm3F FF20m40 FF21m61 FF22m62 FF23m63 FF24m64
  FF25m65 FF26m66 FF27m67 FF28m68 FF29m69 FF2Am6A FF2Bm6B FF2Cm6C FF2Dm6D FF2Em6E FF2Fm6F FF30m70
  FF31m71 FF32m72 FF33m73 FF34m74 FF35m75 FF36m76 FF37m77 FF38m78 FF39m79 FF3Am7A FF3Bm5B FF3Cm5C
  FF3Dm5D FF3Em5E FF3Fm5F FF40m60 FF41m61 FF42m62 FF43m63 FF44m64 FF45m65 FF46m66 FF47m67 FF48m68
  FF49m69 FF4Am6A FF4Bm6B FF4Cm6C FF4Dm6D FF4Em6E FF4Fm6F FF50m70 FF51m71 FF52m72 FF53m73 FF54m74
  FF55m75 FF56m76 FF57m77 FF58m78 FF59m79 FF5Am7A FF5Bm7B FF5Cm7C FF5Dm7D FF5Em7E FF5Fm2985
  FF60m2986 FF61m2E FF62m300C FF63m300D FF64m3001 FF65m30FB FF66m30F2 FF67m30A1 FF68m30A3
  FF69m30A5 FF6Am30A7 FF6Bm30A9 FF6Cm30E3 FF6Dm30E5 FF6Em30E7 FF6Fm30C3 FF70m30FC FF71m30A2
  FF72m30A4 FF73m30A6 FF74m30A8 FF75m30AA FF76m30AB FF77m30AD FF78m30AF FF79m30B1 FF7Am30B3
  FF7Bm30B5 FF7Cm30B7 FF7Dm30B9 FF7Em30BB FF7Fm30BD FF80m30BF FF81m30C1 FF82m30C4 FF83m30C6
  FF84m30C8 FF85m30CA FF86m30CB FF87m30CC FF88m30CD FF89m30CE FF8Am30CF FF8Bm30D2 FF8Cm30D5
  FF8Dm30D8 FF8Em30DB FF8Fm30DE FF90m30DF FF91m30E0 FF92m30E1 FF93m30E2 FF94m30E4 FF95m30E6
  FF96m30E8 FF97m30E9 FF98m30EA FF99m30EB FF9Am30EC FF9Bm30ED FF9Cm30EF FF9Dm30F3 FF9Em3099
  FF9Fm309A FFA0x FFA1m1100 FFA2m1101 FFA3m11AA FFA4m1102 FFA5m11AC FFA6m11AD FFA7m1103 FFA8m1104
  FFA9m1105 FFAAm11B0 FFABm11B1 FFACm11B2 FFADm11B3 FFAEm11B4 FFAFm11B5 FFB0m111A FFB1m1106
  FFB2m1107 FFB3m1108 FFB4m1121 FFB5m1109 FFB6m110A FFB7m110B FFB8m110C FFB9m110D FFBAm110E
  FFBBm110F FFBCm1110 FFBDm1111 FFBEm1112 FFBFx FFC2m1161 FFC3m1162 FFC4m1163 FFC5m1164 FFC6m1165
  FFC7m1166 FFC8x FFCAm1167 FFCBm1168 FFCCm1169 FFCDm116A FFCEm116B FFCFm116C FFD0x FFD2m116D
  FFD3m116E FFD4m116F FFD5m1170 FFD6m1171 FFD7m1172 FFD8x FFDAm1173 FFDBm1174 FFDCm1175 FFDDx
  FFE0mA2 FFE1mA3 FFE2mAC FFE3m20.304 FFE4mA6 FFE5mA5 FFE6m20A9 FFE7x FFE8m2502 FFE9m2190
  FFEAm2191 FFEBm2192 FFECm2193 FFEDm25A0 FFEEm25CB FFEFx 10000v 1000Cx 1000Dv 10027x 10028v
  1003Bx 1003Cv 1003Ex 1003Fv 1004Ex 10050v 1005Ex 10080v 100FBx 10100v 10103x 10107v 10134x
  10137v 1018Fx 10190v 1019Dx 101A0v 101A1x 101D0v 101FEx 10280v 1029Dx 102A0v 102D1x 102E0v
  102FCx 10300v 10324x 1032Dv 1034Bx 10350v 1037Bx 10380v 1039Ex 1039Fv 103C4x 103C8v 103D6x
  10400m10428 10401m10429 10402m1042A 10403m1042B 10404m1042C 10405m1042D 10406m1042E 10407m1042F
  10408m10430 10409m10431 1040Am10432 1040Bm10433 1040Cm10434 1040Dm10435 1040Em10436 1040Fm10437
  10410m10438 10411m10439 10412m1043A 10413m1043B 10414m1043C 10415m1043D 10416m1043E 10417m1043F
  10418m10440 10419m10441 1041Am10442 1041Bm10443 1041Cm10444 1041Dm10445 1041Em10446 1041Fm10447
  10420m10448 10421m10449 10422m1044A 10423m1044B 10424m1044C 10425m1044D 10426m1044E 10427m1044F
  10428v 1049Ex 104A0v 104AAx 104B0m104D8 104B1m104D9 104B2m104DA 104B3m104DB 104B4m104DC
  104B5m104DD 104B6m104DE 104B7m104DF 104B8m104E0 104B9m104E1 104BAm104E2 104BBm104E3 104BCm104E4
  104BDm104E5 104BEm104E6 104BFm104E7 104C0m104E8 104C1m104E9 104C2m104EA 104C3m104EB 104C4m104EC
  104C5m104ED 104C6m104EE 104C7m104EF 104C8m104F0 104C9m104F1 104CAm104F2 104CBm104F3 104CCm104F4
  104CDm104F5 104CEm104F6 104CFm104F7 104D0m104F8 104D1m104F9 104D2m104FA 104D3m104FB 104D4x
  104D8v 104FCx 10500v 10528x 10530v 10564x 1056Fv 10570m10597 10571m10598 10572m10599 10573m1059A
  10574m1059B 10575m1059C 10576m1059D 10577m1059E 10578m1059F 10579m105A0 1057Am105A1 1057Bx
  1057Cm105A3 1057Dm105A4 1057Em105A5 1057Fm105A6 10580m105A7 10581m105A8 10582m105A9 10583m105AA
  10584m105AB 10585m105AC 10586m105AD 10587m105AE 10588m105AF 10589m105B0 1058Am105B1 1058Bx
  1058Cm105B3 1058Dm105B4 1058Em105B5 1058Fm105B6 10590m105B7 10591m105B8 10592m105B9 10593x
  10594m105BB 10595m105BC 10596x 10597v 105A2x 105A3v 105B2x 105B3v 105BAx 105BBv 105BDx 10600v
  10737x 10740v 10756x 10760v 10768x 10780v 10781m2D0 10782m2D1 10783mE6 10784m299 10785m253
  10786x 10787m2A3 10788mAB66 10789m2A5 1078Am2A4 1078Bm256 1078Cm257 1078Dm1D91 1078Em258
  1078Fm25E 10790m2A9 10791m264 10792m262 10793m260 10794m29B 10795m127 10796m29C 10797m267
  10798m284 10799m2AA 1079Am2AB 1079Bm26C 1079Cm1DF04 1079DmA78E 1079Em26E 1079Fm1DF05 107A0m28E
  107A1m1DF06 107A2mF8 107A3m276 107A4m277 107A5m71 107A6m27A 107A7m1DF08 107A8m27D 107A9m27E
  107AAm280 107ABm2A8 107ACm2A6 107ADmAB67 107AEm2A7 107AFm288 107B0m2C71 107B1x 107B2m28F
  107B3m2A1 107B4m2A2 107B5m298 107B6m1C0 107B7m1C1 107B8m1C2 107B9m1DF0A 107BAm1DF1E 107BBx
  10800v 10806x 10808v 10809x 1080Av 10836x 10837v 10839x 1083Cv 1083Dx 1083Fv 10856x 10857v
  1089Fx 108A7v 108B0x 108E0v 108F3x 108F4v 108F6x 108FBv 1091Cx 1091Fv 1093Ax 1093Fv 10940x
  10980v 109B8x 109BCv 109D0x 109D2v 10A04x 10A05v 10A07x 10A0Cv 10A14x 10A15v 10A18x 10A19v
  10A36x 10A38v 10A3Bx 10A3Fv 10A49x 10A50v 10A59x 10A60v 10AA0x 10AC0v 10AE7x 10AEBv 10AF7x
  10B00v 10B36x 10B39v 10B56x 10B58v 10B73x 10B78v 10B92x 10B99v 10B9Dx 10BA9v 10BB0x 10C00v
  10C49x 10C80m10CC0 10C81m10CC1 10C82m10CC2 10C83m10CC3 10C84m10CC4 10C85m10CC5 10C86m10CC6
  10C87m10CC7 10C88m10CC8 10C89m10CC9 10C8Am10CCA 10C8Bm10CCB 10C8Cm10CCC 10C8Dm10CCD 10C8Em10CCE
  10C8Fm10CCF 10C90m10CD0 10C91m10CD1 10C92m10CD2 10C93m10CD3 10C94m10CD4 10C95m10CD5 10C96m10CD6
  10C97m10CD7 10C98m10CD8 10C99m10CD9 10C9Am10CDA 10C9Bm10CDB 10C9Cm10CDC 10C9Dm10CDD 10C9Em10CDE
  10C9Fm10CDF 10CA0m10CE0 10CA1m10CE1 10CA2m10CE2 10CA3m10CE3 10CA4m10CE4 10CA5m10CE5 10CA6m10CE6
  10CA7m10CE7 10CA8m10CE8 10CA9m10CE9 10CAAm10CEA 10CABm10CEB 10CACm10CEC 10CADm10CED 10CAEm10CEE
  10CAFm10CEF 10CB0m10CF0 10CB1m10CF1 10CB2m10CF2 10CB3x 10CC0v 10CF3x 10CFAv 10D28x 10D30v 10D3Ax
  10E60v 10E7Fx 10E80v 10EAAx 10EABv 10EAEx 10EB0v 10EB2x 10EFDv 10F28x 10F30v 10F5Ax 10F70v
  10F8Ax 10FB0v 10FCCx 10FE0v 10FF7x 11000v 1104Ex 11052v 11076x 1107Fv 110BDx 110BEv 110C3x
  110D0v 110E9x 110F0v 110FAx 11100v 11135x 11136v 11148x 11150v 11177x 11180v 111E0x 111E1v
  111F5x 11200v 11212x 11213v 11242x 11280v 11287x 11288v 11289x 1128Av 1128Ex 1128Fv 1129Ex
  1129Fv 112AAx 112B0v 112EBx 112F0v 112FAx 11300v 11304x 11305v 1130Dx 1130Fv 11311x 11313v
  11329x 1132Av 11331x 11332v 11334x 11335v 1133Ax 1133Bv 11345x 11347v 11349x 1134Bv 1134Ex
  11350v 11351x 11357v 11358x 1135Dv 11364x 11366v 1136Dx 11370v 11375x 11400v 1145Cx 1145Dv
  11462x 11480v 114C8x 114D0v 114DAx 11580v 115B6x 115B8v 115DEx 11600v 11645x 11650v 1165Ax
  11660v 1166Dx 11680v 116BAx 116C0v 116CAx 11700v 1171Bx 1171Dv 1172Cx 11730v 11747x 11800v
  1183Cx 118A0m118C0 118A1m118C1 118A2m118C2 118A3m118C3 118A4m118C4 118A5m118C5 118A6m118C6
  118A7m118C7 118A8m118C8 118A9m118C9 118AAm118CA 118ABm118CB 118ACm118CC 118ADm118CD 118AEm118CE
  118AFm118CF 118B0m118D0 118B1m118D1 118B2m118D2 118B3m118D3 118B4m118D4 118B5m118D5 118B6m118D6
  118B7m118D7 118B8m118D8 118B9m118D9 118BAm118DA 118BBm118DB 118BCm118DC 118BDm118DD 118BEm118DE
  118BFm118DF 118C0v 118F3x 118FFv 11907x 11909v 1190Ax 1190Cv 11914x 11915v 11917x 11918v 11936x
  11937v 11939x 1193Bv 11947x 11950v 1195Ax 119A0v 119A8x 119AAv 119D8x 119DAv 119E5x 11A00v
  11A48x 11A50v 11AA3x 11AB0v 11AF9x 11B00v 11B0Ax 11C00v 11C09x 11C0Av 11C37x 11C38v 11C46x
  11C50v 11C6Dx 11C70v 11C90x 11C92v 11CA8x 11CA9v 11CB7x 11D00v 11D07x 11D08v 11D0Ax 11D0Bv
  11D37x 11D3Av 11D3Bx 11D3Cv 11D3Ex 11D3Fv 11D48x 11D50v 11D5Ax 11D60v 11D66x 11D67v 11D69x
  11D6Av 11D8Fx 11D90v 11D92x 11D93v 11D99x 11DA0v 11DAAx 11EE0v 11EF9x 11F00v 11F11x 11F12v
  11F3Bx 11F3Ev 11F5Ax 11FB0v 11FB1x 11FC0v 11FF2x 11FFFv 1239Ax 12400v 1246Fx 12470v 12475x
  12480v 12544x 12F90v 12FF3x 13000v 13430x 13440v 13456x 14400v 14647x 16800v 16A39x 16A40v
  16A5Fx 16A60v 16A6Ax 16A6Ev 16ABFx 16AC0v 16ACAx 16AD0v 16AEEx 16AF0v 16AF6x 16B00v 16B46x
  16B50v 16B5Ax 16B5Bv 16B62x 16B63v 16B78x 16B7Dv 16B90x 16E40m16E60 16E41m16E61 16E42m16E62
  16E43m16E63 16E44m16E64 16E45m16E65 16E46m16E66 16E47m16E67 16E48m16E68 16E49m16E69 16E4Am16E6A
  16E4Bm16E6B 16E4Cm16E6C 16E4Dm16E6D 16E4Em16E6E 16E4Fm16E6F 16E50m16E70 16E51m16E71 16E52m16E72
  16E53m16E73 16E54m16E74 16E55m16E75 16E56m16E76 16E57m16E77 16E58m16E78 16E59m16E79 16E5Am16E7A
  16E5Bm16E7B 16E5Cm16E7C 16E5Dm16E7D 16E5Em16E7E 16E5Fm16E7F 16E60v 16E9Bx 16F00v 16F4Bx 16F4Fv
  16F88x 16F8Fv 16FA0x 16FE0v 16FE5x 16FF0v 16FF2x 17000v 187F8x 18800v 18CD6x 18D00v 18D09x
  1AFF0v 1AFF4x 1AFF5v 1AFFCx 1AFFDv 1AFFFx 1B000v 1B123x 1B132v 1B133x 1B150v 1B153x 1B155v
  1B156x 1B164v 1B168x 1B170v 1B2FCx 1BC00v 1BC6Bx 1BC70v 1BC7Dx 1BC80v 1BC89x 1BC90v 1BC9Ax
  1BC9Cv 1BCA0i 1BCA4x 1CF00v 1CF2Ex 1CF30v 1CF47x 1CF50v 1CFC4x 1D000v 1D0F6x 1D100v 1D127x
  1D129v 1D15Em1D157.1D165 1D15Fm1D158.1D165 1D160m1D158.1D165.1D16E 1D161m1D158.1D165.1D16F
  1D162m1D158.1D165.1D170 1D163m1D158.1D165.1D171 1D164m1D158.1D165.1D172 1D165v 1D173x 1D17Bv
  1D1BBm1D1B9.1D165 1D1BCm1D1BA.1D165 1D1BDm1D1B9.1D165.1D16E 1D1BEm1D1BA.1D165.1D16E
  1D1BFm1D1B9.1D165.1D16F 1D1C0m1D1BA.1D165.1D16F 1D1C1v 1D1EBx 1D200v 1D246x 1D2C0v 1D2D4x 1D2E0v
  1D2F4x 1D300v 1D357x 1D360v 1D379x 1D400m61 1D401m62 1D402m63 1D403m64 1D404m65 1D405m66
  1D406m67 1D407m68 1D408m69 1D409m6A 1D40Am6B 1D40Bm6C 1D40Cm6D 1D40Dm6E 1D40Em6F 1D40Fm70
  1D410m71 1D411m72 1D412m73 1D413m74 1D414m75 1D415m76 1D416m77 1D417m78 1D418m79 1D419m7A
  1D41Am61 1D41Bm62 1D41Cm63 1D41Dm64 1D41Em65 1D41Fm66 1D420m67 1D421m68 1D422m69 1D423m6A
  1D424m6B 1D425m6C 1D426m6D 1D427m6E 1D428m6F 1D429m70 1D42Am71 1D42Bm72 1D42Cm73 1D42Dm74
  1D42Em75 1D42Fm76 1D430m77 1D431m78 1D432m79 1D433m7A 1D434m61 1D435m62 1D436m63 1D437m64
  1D438m65 1D439m66 1D43Am67 1D43Bm68 1D43Cm69 1D43Dm6A 1D43Em6B 1D43Fm6C 1D440m6D 1D441m6E
  1D442m6F 1D443m70 1D444m71 1D445m72 1D446m73 1D447m74 1D448m75 1D449m76 1D44Am77 1D44Bm78
  1D44Cm79 1D44Dm7A 1D44Em61 1D44Fm62 1D450m63 1D451m64 1D452m65 1D453m66 1D454m67 1D455x 1D456m69
  1D457m6A 1D458m6B 1D459m6C 1D45Am6D 1D45Bm6E 1D45Cm6F 1D45Dm70 1D45Em71 1D45Fm72 1D460m73
  1D461m74 1D462m75 1D463m76 1D464m77 1D465m78 1D466m79 1D467m7A 1D468m61 1D469m62 1D46Am63
  1D46Bm64 1D46Cm65 1D46Dm66 1D46Em67 1D46Fm68 1D470m69 1D471m6A 1D472m6B 1D473m6C 1D474m6D
  1D475m6E 1D476m6F 1D477m70 1D478m71 1D479m72 1D47Am73 1D47Bm74 1D47Cm75 1D47Dm76 1D47Em77
  1D47Fm78 1D480m79 1D481m7A 1D482m61 1D483m62 1D484m63 1D485m64 1D486m65 1D487m66 1D488m67
  1D489m68 1D48Am69 1D48Bm6A 1D48Cm6B 1D48Dm6C 1D48Em6D 1D48Fm6E 1D490m6F 1D491m70 1D492m71
  1D493m72 1D494m73 1D495m74 1D496m75 1D497m76 1D498m77 1D499m78 1D49Am79 1D49Bm7A 1D49Cm61 1D49Dx
  1D49Em63 1D49Fm64 1D4A0x 1D4A2m67 1D4A3x 1D4A5m6A 1D4A6m6B 1D4A7x 1D4A9m6E 1D4AAm6F 1D4ABm70
  1D4ACm71 1D4ADx 1D4AEm73 1D4AFm74 1D4B0m75 1D4B1m76 1D4B2m77 1D4B3m78 1D4B4m79 1D4B5m7A 1D4B6m61
  1D4B7m62 1D4B8m63 1D4B9m64 1D4BAx 1D4BBm66 1D4BCx 1D4BDm68 1D4BEm69 1D4BFm6A 1D4C0m6B 1D4C1m6C
  1D4C2m6D 1D4C3m6E 1D4C4x 1D4C5m70 1D4C6m71 1D4C7m72 1D4C8m73 1D4C9m74 1D4CAm75 1D4CBm76 1D4CCm77
  1D4CDm78 1D4CEm79 1D4CFm7A 1D4D0m61 1D4D1m62 1D4D2m63 1D4D3m64 1D4D4m65 1D4D5m66 1D4D6m67
  1D4D7m68 1D4D8m69 1D4D9m6A 1D4DAm6B 1D4DBm6C 1D4DCm6D 1D4DDm6E 1D4DEm6F 1D4DFm70 1D4E0m71
  1D4E1m72 1D4E2m73 1D4E3m74 1D4E4m75 1D4E5m76 1D4E6m77 1D4E7m78 1D4E8m79 1D4E9m7A 1D4EAm61
  1D4EBm62 1D4ECm63 1D4EDm64 1D4EEm65 1D4EFm66 1D4F0m67 1D4F1m68 1D4F2m69 1D4F3m6A 1D4F4m6B
  1D4F5m6C 1D4F6m6D 1D4F7m6E 1D4F8m6F 1D4F9m70 1D4FAm71 1D4FBm72 1D4FCm73 1D4FDm74 1D4FEm75
  1D4FFm76 1D500m77 1D501m78 1D502m79 1D503m7A 1D504m61 1D505m62 1D506x 1D507m64 1D508m65 1D509m66
  1D50Am67 1D50Bx 1D50Dm6A 1D50Em6B 1D50Fm6C 1D510m6D 1D511m6E 1D512m6F 1D513m70 1D514m71 1D515x
  1D516m73 1D517m74 1D518m75 1D519m76 1D51Am77 1D51Bm78 1D51Cm79 1D51Dx 1D51Em61 1D51Fm62 1D520m63
  1D521m64 1D522m65 1D523m66 1D524m67 1D525m68 1D526m69 1D527m6A 1D528m6B 1D529m6C 1D52Am6D
  1D52Bm6E 1D52Cm6F 1D52Dm70 1D52Em71 1D52Fm72 1D530m73 1D531m74 1D532m75 1D533m76 1D534m77
  1D535m78 1D536m79 1D537m7A 1D538m61 1D539m62 1D53Ax 1D53Bm64 1D53Cm65 1D53Dm66 1D53Em67 1D53Fx
  1D540m69 1D541m6A 1D542m6B 1D543m6C 1D544m6D 1D545x 1D546m6F 1D547x 1D54Am73 1D54Bm74 1D54Cm75
  1D54Dm76 1D54Em77 1D54Fm78 1D550m79 1D551x 1D552m61 1D553m62 1D554m63 1D555m64 1D556m65 1D557m66
  1D558m67 1D559m68 1D55Am69 1D55Bm6A 1D55Cm6B 1D55Dm6C 1D55Em6D 1D55Fm6E 1D560m6F 1D561m70
  1D562m71 1D563m72 1D564m73 1D565m74 1D566m75 1D567m76 1D568m77 1D569m78 1D56Am79 1D56Bm7A
  1D56Cm61 1D56Dm62 1D56Em63 1D56Fm64 1D570m65 1D571m66 1D572m67 1D573m68 1D574m69 1D575m6A
  1D576m6B 1D577m6C 1D578m6D 1D579m6E 1D57Am6F 1D57Bm70 1D57Cm71 1D57Dm72 1D57Em73 1D57Fm74
  1D580m75 1D581m76 1D582m77 1D583m78 1D584m79 1D585m7A 1D586m61 1D587m62 1D588m63 1D589m64
  1D58Am65 1D58Bm66 1D58Cm67 1D58Dm68 1D58Em69 1D58Fm6A 1D590m6B 1D591m6C 1D592m6D 1D593m6E
  1D594m6F 1D595m70 1D596m71 1D597m72 1D598m73 1D599m74 1D59Am75 1D59Bm76 1D59Cm77 1D59Dm78
  1D59Em79 1D59Fm7A 1D5A0m61 1D5A1m62 1D5A2m63 1D5A3m64 1D5A4m65 1D5A5m66 1D5A6m67 1D5A7m68
  1D5A8m69 1D5A9m6A 1D5AAm6B 1D5ABm6C 1D5ACm6D 1D5ADm6E 1D5AEm6F 1D5AFm70 1D5B0m71 1D5B1m72
  1D5B2m73 1D5B3m74 1D5B4m75 1D5B5m76 1D5B6m77 1D5B7m78 1D5B8m79 1D5B9m7A 1D5BAm61 1D5BBm62
  1D5BCm63 1D5BDm64 1D5BEm65 1D5BFm66 1D5C0m67 1D5C1m68 1D5C2m69 1D5C3m6A 1D5C4m6B 1D5C5m6C
  1D5C6m6D 1D5C7m6E 1D5C8m6F 1D5C9m70 1D5CAm71 1D5CBm72 1D5CCm73 1D5CDm74 1D5CEm75 1D5CFm76
  1D5D0m77 1D5D1m78 1D5D2m79 1D5D3m7A 1D5D4m61 1D5D5m62 1D5D6m63 1D5D7m64 1D5D8m65 1D5D9m66
  1D5DAm67 1D5DBm68 1D5DCm69 1D5DDm6A 1D5DEm6B 1D5DFm6C 1D5E0m6D 1D5E1m6E 1D5E2m6F 1D5E3m70
  1D5E4m71 1D5E5m72 1D5E6m73 1D5E7m74 1D5E8m75 1D5E9m76 1D5EAm77 1D5EBm78 1D5ECm79 1D5EDm7A
  1D5EEm61 1D5EFm62 1D5F0m63 1D5F1m64 1D5F2m65 1D5F3m66 1D5F4m67 1D5F5m68 1D5F6m69 1D5F7m6A
  1D5F8m6B 1D5F9m6C 1D5FAm6D 1D5FBm6E 1D5FCm6F 1D5FDm70 1D5FEm71 1D5FFm72 1D600m73 1D601m74
  1D602m75 1D603m76 1D604m77 1D605m78 1D606m79 1D607m7A 1D608m61 1D609m62 1D60Am63 1D60Bm64
  1D60Cm65 1D60Dm66 1D60Em67 1D60Fm68 1D610m69 1D611m6A 1D612m6B 1D613m6C 1D614m6D 1D615m6E
  1D616m6F 1D617m70 1D618m71 1D619m72 1D61Am73 1D61Bm74 1D61Cm75 1D61Dm76 1D61Em77 1D61Fm78
  1D620m79 1D621m7A 1D622m61 1D623m62 1D624m63 1D625m64 1D626m65 1D627m66 1D628m67 1D629m68
  1D62Am69 1D62Bm6A 1D62Cm6B 1D62Dm6C 1D62Em6D 1D62Fm6E 1D630m6F 1D631m70 1D632m71 1D633m72
  1D634m73 1D635m74 1D636m75 1D637m76 1D638m77 1D639m78 1D63Am79 1D63Bm7A 1D63Cm61 1D63Dm62
  1D63Em63 1D63Fm64 1D640m65 1D641m66 1D642m67 1D643m68 1D644m69 1D645m6A 1D646m6B 1D647m6C
  1D648m6D 1D649m6E 1D64Am6F 1D64Bm70 1D64Cm71 1D64Dm72 1D64Em73 1D64Fm74 1D650m75 1D651m76
  1D652m77 1D653m78 1D654m79 1D655m7A 1D656m61 1D657m62 1D658m63 1D659m64 1D65Am65 1D65Bm66
  1D65Cm67 1D65Dm68 1D65Em69 1D65Fm6A 1D660m6B 1D661m6C 1D662m6D 1D663m6E 1D664m6F 1D665m70
  1D666m71 1D667m72 1D668m73 1D669m74 1D66Am75 1D66Bm76 1D66Cm77 1D66Dm78 1D66Em79 1D66Fm7A
  1D670m61 1D671m62 1D672m63 1D673m64 1D674m65 1D675m66 1D676m67 1D677m68 1D678m69 1D679m6A
  1D67Am6B 1D67Bm6C 1D67Cm6D 1D67Dm6E 1D67Em6F 1D67Fm70 1D680m71 1D681m72 1D682m73 1D683m74
  1D684m75 1D685m76 1D686m77 1D687m78 1D688m79 1D689m7A 1D68Am61 1D68Bm62 1D68Cm63 1D68Dm64
  1D68Em65 1D68Fm66 1D690m67 1D691m68 1D692m69 1D693m6A 1D694m6B 1D695m6C 1D696m6D 1D697m6E
  1D698m6F 1D699m70 1D69Am71 1D69Bm72 1D69Cm73 1D69Dm74 1D69Em75 1D69Fm76 1D6A0m77 1D6A1m78
  1D6A2m79 1D6A3m7A 1D6A4m131 1D6A5m237 1D6A6x 1D6A8m3B1 1D6A9m3B2 1D6AAm3B3 1D6ABm3B4 1D6ACm3B5
  1D6ADm3B6 1D6AEm3B7 1D6AFm3B8 1D6B0m3B9 1D6B1m3BA 1D6B2m3BB 1D6B3m3BC 1D6B4m3BD 1D6B5m3BE
  1D6B6m3BF 1D6B7m3C0 1D6B8m3C1 1D6B9m3B8 1D6BAm3C3 1D6BBm3C4 1D6BCm3C5 1D6BDm3C6 1D6BEm3C7
  1D6BFm3C8 1D6C0m3C9 1D6C1m2207 1D6C2m3B1 1D6C3m3B2 1D6C4m3B3 1D6C5m3B4 1D6C6m3B5 1D6C7m3B6
  1D6C8m3B7 1D6C9m3B8 1D6CAm3B9 1D6CBm3BA 1D6CCm3BB 1D6CDm3BC 1D6CEm3BD 1D6CFm3BE 1D6D0m3BF
  1D6D1m3C0 1D6D2m3C1 1D6D3m3C3 1D6D5m3C4 1D6D6m3C5 1D6D7m3C6 1D6D8m3C7 1D6D9m3C8 1D6DAm3C9
  1D6DBm2202 1D6DCm3B5 1D6DDm3B8 1D6DEm3BA 1D6DFm3C6 1D6E0m3C1 1D6E1m3C0 1D6E2m3B1 1D6E3m3B2
  1D6E4m3B3 1D6E5m3B4 1D6E6m3B5 1D6E7m3B6 1D6E8m3B7 1D6E9m3B8 1D6EAm3B9 1D6EBm3BA 1D6ECm3BB
  1D6EDm3BC 1D6EEm3BD 1D6EFm3BE 1D6F0m3BF 1D6F1m3C0 1D6F2m3C1 1D6F3m3B8 1D6F4m3C3 1D6F5m3C4
  1D6F6m3C5 1D6F7m3C6 1D6F8m3C7 1D6F9m3C8 1D6FAm3C9 1D6FBm2207 1D6FCm3B1 1D6FDm3B2 1D6FEm3B3
  1D6FFm3B4 1D700m3B5 1D701m3B6 1D702m3B7 1D703m3B8 1D704m3B9 1D705m3BA 1D706m3BB 1D707m3BC
  1D708m3BD 1D709m3BE 1D70Am3BF 1D70Bm3C0 1D70Cm3C1 1D70Dm3C3 1D70Fm3C4 1D710m3C5 1D711m3C6
  1D712m3C7 1D713m3C8 1D714m3C9 1D715m2202 1D716m3B5 1D717m3B8 1D718m3BA 1D719m3C6 1D71Am3C1
  1D71Bm3C0 1D71Cm3B1 1D71Dm3B2 1D71Em3B3 1D71Fm3B4 1D720m3B5 1D721m3B6 1D722m3B7 1D723m3B8
  1D724m3B9 1D725m3BA 1D726m3BB 1D727m3BC 1D728m3BD 1D729m3BE 1D72Am3BF 1D72Bm3C0 1D72Cm3C1
  1D72Dm3B8 1D72Em3C3 1D72Fm3C4 1D730m3C5 1D731m3C6 1D732m3C7 1D733m3C8 1D734m3C9 1D735m2207
  1D736m3B1 1D737m3B2 1D738m3B3 1D739m3B4 1D73Am3B5 1D73Bm3B6 1D73Cm3B7 1D73Dm3B8 1D73Em3B9
  1D73Fm3BA 1D740m3BB 1D741m3BC 1D742m3BD 1D743m3BE 1D744m3BF 1D745m3C0 1D746m3C1 1D747m3C3
  1D749m3C4 1D74Am3C5 1D74Bm3C6 1D74Cm3C7 1D74Dm3C8 1D74Em3C9 1D74Fm2202 1D750m3B5 1D751m3B8
  1D752m3BA 1D753m3C6 1D754m3C1 1D755m3C0 1D756m3B1 1D757m3B2 1D758m3B3 1D759m3B4 1D75Am3B5
  1D75Bm3B6 1D75Cm3B7 1D75Dm3B8 1D75Em3B9 1D75Fm3BA 1D760m3BB 1D761m3BC 1D762m3BD 1D763m3BE
  1D764m3BF 1D765m3C0 1D766m3C1 1D767m3B8 1D768m3C3 1D769m3C4 1D76Am3C5 1D76Bm3C6 1D76Cm3C7
  1D76Dm3C8 1D76Em3C9 1D76Fm2207 1D770m3B1 1D771m3B2 1D772m3B3 1D773m3B4 1D774m3B5 1D775m3B6
  1D776m3B7 1D777m3B8 1D778m3B9 1D779m3BA 1D77Am3BB 1D77Bm3BC 1D77Cm3BD 1D77Dm3BE 1D77Em3BF
  1D77Fm3C0 1D780m3C1 1D781m3C3 1D783m3C4 1D784m3C5 1D785m3C6 1D786m3C7 1D787m3C8 1D788m3C9
  1D789m2202 1D78Am3B5 1D78Bm3B8 1D78Cm3BA 1D78Dm3C6 1D78Em3C1 1D78Fm3C0 1D790m3B1 1D791m3B2
  1D792m3B3 1D793m3B4 1D794m3B5 1D795m3B6 1D796m3B7 1D797m3B8 1D798m3B9 1D799m3BA 1D79Am3BB
  1D79Bm3BC 1D79Cm3BD 1D79Dm3BE 1D79Em3BF 1D79Fm3C0 1D7A0m3C1 1D7A1m3B8 1D7A2m3C3 1D7A3m3C4
  1D7A4m3C5 1D7A5m3C6 1D7A6m3C7 1D7A7m3C8 1D7A8m3C9 1D7A9m2207 1D7AAm3B1 1D7ABm3B2 1D7ACm3B3
  1D7ADm3B4 1D7AEm3B5 1D7AFm3B6 1D7B0m3B7 1D7B1m3B8 1D7B2m3B9 1D7B3m3BA 1D7B4m3BB 1D7B5m3BC
  1D7B6m3BD 1D7B7m3BE 1D7B8m3BF 1D7B9m3C0 1D7BAm3C1 1D7BBm3C3 1D7BDm3C4 1D7BEm3C5 1D7BFm3C6
  1D7C0m3C7 1D7C1m3C8 1D7C2m3C9 1D7C3m2202 1D7C4m3B5 1D7C5m3B8 1D7C6m3BA 1D7C7m3C6 1D7C8m3C1
  1D7C9m3C0 1D7CAm3DD 1D7CCx 1D7CEm30 1D7CFm31 1D7D0m32 1D7D1m33 1D7D2m34 1D7D3m35 1D7D4m36
  1D7D5m37 1D7D6m38 1D7D7m39 1D7D8m30 1D7D9m31 1D7DAm32 1D7DBm33 1D7DCm34 1D7DDm35 1D7DEm36
  1D7DFm37 1D7E0m38 1D7E1m39 1D7E2m30 1D7E3m31 1D7E4m32 1D7E5m33 1D7E6m34 1D7E7m35 1D7E8m36
  1D7E9m37 1D7EAm38 1D7EBm39 1D7ECm30 1D7EDm31 1D7EEm32 1D7EFm33 1D7F0m34 1D7F1m35 1D7F2m36
  1D7F3m37 1D7F4m38 1D7F5m39 1D7F6m30 1D7F7m31 1D7F8m32 1D7F9m33 1D7FAm34 1D7FBm35 1D7FCm36
  1D7FDm37 1D7FEm38 1D7FFm39 1D800v 1DA8Cx 1DA9Bv 1DAA0x 1DAA1v 1DAB0x 1DF00v 1DF1Fx 1DF25v 1DF2Bx
  1E000v 1E007x 1E008v 1E019x 1E01Bv 1E022x 1E023v 1E025x 1E026v 1E02Bx 1E030m430 1E031m431
  1E032m432 1E033m433 1E034m434 1E035m435 1E036m436 1E037m437 1E038m438 1E039m43A 1E03Am43B
  1E03Bm43C 1E03Cm43E 1E03Dm43F 1E03Em440 1E03Fm441 1E040m442 1E041m443 1E042m444 1E043m445
  1E044m446 1E045m447 1E046m448 1E047m44B 1E048m44D 1E049m44E 1E04AmA689 1E04Bm4D9 1E04Cm456
  1E04Dm458 1E04Em4E9 1E04Fm4AF 1E050m4CF 1E051m430 1E052m431 1E053m432 1E054m433 1E055m434
  1E056m435 1E057m436 1E058m437 1E059m438 1E05Am43A 1E05Bm43B 1E05Cm43E 1E05Dm43F 1E05Em441
  1E05Fm443 1E060m444 1E061m445 1E062m446 1E063m447 1E064m448 1E065m44A 1E066m44B 1E067m491
  1E068m456 1E069m455 1E06Am45F 1E06Bm4AB 1E06CmA651 1E06Dm4B1 1E06Ex 1E08Fv 1E090x 1E100v 1E12Dx
  1E130v 1E13Ex 1E140v 1E14Ax 1E14Ev 1E150x 1E290v 1E2AFx 1E2C0v 1E2FAx 1E2FFv 1E300x 1E4D0v
  1E4FAx 1E7E0v 1E7E7x 1E7E8v 1E7ECx 1E7EDv 1E7EFx 1E7F0v 1E7FFx 1E800v 1E8C5x 1E8C7v 1E8D7x
  1E900m1E922 1E901m1E923 1E902m1E924 1E903m1E925 1E904m1E926 1E905m1E927 1E906m1E928 1E907m1E929
  1E908m1E92A 1E909m1E92B 1E90Am1E92C 1E90Bm1E92D 1E90Cm1E92E 1E90Dm1E92F 1E90Em1E930 1E90Fm1E931
  1E910m1E932 1E911m1E933 1E912m1E934 1E913m1E935 1E914m1E936 1E915m1E937 1E916m1E938 1E917m1E939
  1E918m1E93A 1E919m1E93B 1E91Am1E93C 1E91Bm1E93D 1E91Cm1E93E 1E91Dm1E93F 1E91Em1E940 1E91Fm1E941
  1E920m1E942 1E921m1E943 1E922v 1E94Cx 1E950v 1E95Ax 1E95Ev 1E960x 1EC71v 1ECB5x 1ED01v 1ED3Ex
  1EE00m627 1EE01m628 1EE02m62C 1EE03m62F 1EE04x 1EE05m648 1EE06m632 1EE07m62D 1EE08m637 1EE09m64A
  1EE0Am643 1EE0Bm644 1EE0Cm645 1EE0Dm646 1EE0Em633 1EE0Fm639 1EE10m641 1EE11m635 1EE12m642
  1EE13m631 1EE14m634 1EE15m62A 1EE16m62B 1EE17m62E 1EE18m630 1EE19m636 1EE1Am638 1EE1Bm63A
  1EE1Cm66E 1EE1Dm6BA 1EE1Em6A1 1EE1Fm66F 1EE20x 1EE21m628 1EE22m62C 1EE23x 1EE24m647 1EE25x
  1EE27m62D 1EE28x 1EE29m64A 1EE2Am643 1EE2Bm644 1EE2Cm645 1EE2Dm646 1EE2Em633 1EE2Fm639 1EE30m641
  1EE31m635 1EE32m642 1EE33x 1EE34m634 1EE35m62A 1EE36m62B 1EE37m62E 1EE38x 1EE39m636 1EE3Ax
  1EE3Bm63A 1EE3Cx 1EE42m62C 1EE43x 1EE47m62D 1EE48x 1EE49m64A 1EE4Ax 1EE4Bm644 1EE4Cx 1EE4Dm646
  1EE4Em633 1EE4Fm639 1EE50x 1EE51m635 1EE52m642 1EE53x 1EE54m634 1EE55x 1EE57m62E 1EE58x
  1EE59m636 1EE5Ax 1EE5Bm63A 1EE5Cx 1EE5Dm6BA 1EE5Ex 1EE5Fm66F 1EE60x 1EE61m628 1EE62m62C 1EE63x
  1EE64m647 1EE65x 1EE67m62D 1EE68m637 1EE69m64A 1EE6Am643 1EE6Bx 1EE6Cm645 1EE6Dm646 1EE6Em633
  1EE6Fm639 1EE70m641 1EE71m635 1EE72m642 1EE73x 1EE74m634 1EE75m62A 1EE76m62B 1EE77m62E 1EE78x
  1EE79m636 1EE7Am638 1EE7Bm63A 1EE7Cm66E 1EE7Dx 1EE7Em6A1 1EE7Fx 1EE80m627 1EE81m628 1EE82m62C
  1EE83m62F 1EE84m647 1EE85m648 1EE86m632 1EE87m62D 1EE88m637 1EE89m64A 1EE8Ax 1EE8Bm644 1EE8Cm645
  1EE8Dm646 1EE8Em633 1EE8Fm639 1EE90m641 1EE91m635 1EE92m642 1EE93m631 1EE94m634 1EE95m62A
  1EE96m62B 1EE97m62E 1EE98m630 1EE99m636 1EE9Am638 1EE9Bm63A 1EE9Cx 1EEA1m628 1EEA2m62C 1EEA3m62F
  1EEA4x 1EEA5m648 1EEA6m632 1EEA7m62D 1EEA8m637 1EEA9m64A 1EEAAx 1EEABm644 1EEACm645 1EEADm646
  1EEAEm633 1EEAFm639 1EEB0m641 1EEB1m635 1EEB2m642 1EEB3m631 1EEB4m634 1EEB5m62A 1EEB6m62B
  1EEB7m62E 1EEB8m630 1EEB9m636 1EEBAm638 1EEBBm63A 1EEBCx 1EEF0v 1EEF2x 1F000v 1F02Cx 1F030v
  1F094x 1F0A0v 1F0AFx 1F0B1v 1F0C0x 1F0C1v 1F0D0x 1F0D1v 1F0F6x 1F101m30.2C 1F102m31.2C
  1F103m32.2C 1F104m33.2C 1F105m34.2C 1F106m35.2C 1F107m36.2C 1F108m37.2C 1F109m38.2C 1F10Am39.2C
  1F10Bv 1F110m28.61.29 1F111m28.62.29 1F112m28.63.29 1F113m28.64.29 1F114m28.65.29 1F115m28.66.29
  1F116m28.67.29 1F117m28.68.29 1F118m28.69.29 1F119m28.6A.29 1F11Am28.6B.29 1F11Bm28.6C.29
  1F11Cm28.6D.29 1F11Dm28.6E.29 1F11Em28.6F.29 1F11Fm28.70.29 1F120m28.71.29 1F121m28.72.29
  1F122m28.73.29 1F123m28.74.29 1F124m28.75.29 1F125m28.76.29 1F126m28.77.29 1F127m28.78.29
  1F128m28.79.29 1F129m28.7A.29 1F12Am3014.73.3015 1F12Bm63 1F12Cm72 1F12Dm63.64 1F12Em77.7A
  1F12Fv 1F130m61 1F131m62 1F132m63 1F133m64 1F134m65 1F135m66 1F136m67 1F137m68 1F138m69 1F139m6A
  1F13Am6B 1F13Bm6C 1F13Cm6D 1F13Dm6E 1F13Em6F 1F13Fm70 1F140m71 1F141m72 1F142m73 1F143m74
  1F144m75 1F145m76 1F146m77 1F147m78 1F148m79 1F149m7A 1F14Am68.76 1F14Bm6D.76 1F14Cm73.64
  1F14Dm73.73 1F14Em70.70.76 1F14Fm77.63 1F150v 1F16Am6D.63 1F16Bm6D.64 1F16Cm6D.72 1F16Dv
  1F190m64.6A 1F191v 1F1AEx 1F1E6v 1F200m307B.304B 1F201m30B3.30B3 1F202m30B5 1F203x 1F210m624B
  1F211m5B57 1F212m53CC 1F213m30C7 1F214m4E8C 1F215m591A 1F216m89E3 1F217m5929 1F218m4EA4
  1F219m6620 1F21Am7121 1F21Bm6599 1F21Cm524D 1F21Dm5F8C 1F21Em518D 1F21Fm65B0 1F220m521D
  1F221m7D42 1F222m751F 1F223m8CA9 1F224m58F0 1F225m5439 1F226m6F14 1F227m6295 1F228m6355
  1F229m4E00 1F22Am4E09 1F22Bm904A 1F22Cm5DE6 1F22Dm4E2D 1F22Em53F3 1F22Fm6307 1F230m8D70
  1F231m6253 1F232m7981 1F233m7A7A 1F234m5408 1F235m6E80 1F236m6709 1F237m6708 1F238m7533
  1F239m5272 1F23Am55B6 1F23Bm914D 1F23Cx 1F240m3014.672C.3015 1F241m3014.4E09.3015
  1F242m3014.4E8C.3015 1F243m3014.5B89.3015 1F244m3014.70B9.3015 1F245m3014.6253.3015
  1F246m3014.76D7.3015 1F247m3014.52DD.3015 1F248m3014.6557.3015 1F249x 1F250m5F97 1F251m53EF
  1F252x 1F260v 1F266x 1F300v 1F6D8x 1F6DCv 1F6EDx 1F6F0v 1F6FDx 1F700v 1F777x 1F77Bv 1F7DAx
  1F7E0v 1F7ECx 1F7F0v 1F7F1x 1F800v 1F80Cx 1F810v 1F848x 1F850v 1F85Ax 1F860v 1F888x 1F890v
  1F8AEx 1F8B0v 1F8B2x 1F900v 1FA54x 1FA60v 1FA6Ex 1FA70v 1FA7Dx 1FA80v 1FA89x 1FA90v 1FABEx
  1FABFv 1FAC6x 1FACEv 1FADCx 1FAE0v 1FAE9x 1FAF0v 1FAF9x 1FB00v 1FB93x 1FB94v 1FBCBx 1FBF0m30
  1FBF1m31 1FBF2m32 1FBF3m33 1FBF4m34 1FBF5m35 1FBF6m36 1FBF7m37 1FBF8m38 1FBF9m39 1FBFAx 20000v
  2A6E0x 2A700v 2B73Ax 2B740v 2B81Ex 2B820v 2CEA2x 2CEB0v 2EBE1x 2F800m4E3D 2F801m4E38 2F802m4E41
  2F803m20122 2F804m4F60 2F805m4FAE 2F806m4FBB 2F807m5002 2F808m507A 2F809m5099 2F80Am50E7
  2F80Bm50CF 2F80Cm349E 2F80Dm2063A 2F80Em514D 2F80Fm5154 2F810m5164 2F811m5177 2F812m2051C
  2F813m34B9 2F814m5167 2F815m518D 2F816m2054B 2F817m5197 2F818m51A4 2F819m4ECC 2F81Am51AC
  2F81Bm51B5 2F81Cm291DF 2F81Dm51F5 2F81Em5203 2F81Fm34DF 2F820m523B 2F821m5246 2F822m5272
  2F823m5277 2F824m3515 2F825m52C7 2F826m52C9 2F827m52E4 2F828m52FA 2F829m5305 2F82Am5306
  2F82Bm5317 2F82Cm5349 2F82Dm5351 2F82Em535A 2F82Fm5373 2F830m537D 2F831m537F 2F834m20A2C
  2F835m7070 2F836m53CA 2F837m53DF 2F838m20B63 2F839m53EB 2F83Am53F1 2F83Bm5406 2F83Cm549E
  2F83Dm5438 2F83Em5448 2F83Fm5468 2F840m54A2 2F841m54F6 2F842m5510 2F843m5553 2F844m5563
  2F845m5584 2F847m5599 2F848m55AB 2F849m55B3 2F84Am55C2 2F84Bm5716 2F84Cm5606 2F84Dm5717
  2F84Em5651 2F84Fm5674 2F850m5207 2F851m58EE 2F852m57CE 2F853m57F4 2F854m580D 2F855m578B
  2F856m5832 2F857m5831 2F858m58AC 2F859m214E4 2F85Am58F2 2F85Bm58F7 2F85Cm5906 2F85Dm591A
  2F85Em5922 2F85Fm5962 2F860m216A8 2F861m216EA 2F862m59EC 2F863m5A1B 2F864m5A27 2F865m59D8
  2F866m5A66 2F867m36EE 2F868x 2F869m5B08 2F86Am5B3E 2F86Cm219C8 2F86Dm5BC3 2F86Em5BD8 2F86Fm5BE7
  2F870m5BF3 2F871m21B18 2F872m5BFF 2F873m5C06 2F874x 2F875m5C22 2F876m3781 2F877m5C60 2F878m5C6E
  2F879m5CC0 2F87Am5C8D 2F87Bm21DE4 2F87Cm5D43 2F87Dm21DE6 2F87Em5D6E 2F87Fm5D6B 2F880m5D7C
  2F881m5DE1 2F882m5DE2 2F883m382F 2F884m5DFD 2F885m5E28 2F886m5E3D 2F887m5E69 2F888m3862
  2F889m22183 2F88Am387C 2F88Bm5EB0 2F88Cm5EB3 2F88Dm5EB6 2F88Em5ECA 2F88Fm2A392 2F890m5EFE
  2F891m22331 2F893m8201 2F894m5F22 2F896m38C7 2F897m232B8 2F898m261DA 2F899m5F62 2F89Am5F6B
  2F89Bm38E3 2F89Cm5F9A 2F89Dm5FCD 2F89Em5FD7 2F89Fm5FF9 2F8A0m6081 2F8A1m393A 2F8A2m391C
  2F8A3m6094 2F8A4m226D4 2F8A5m60C7 2F8A6m6148 2F8A7m614C 2F8A8m614E 2F8A9m614C 2F8AAm617A
  2F8ABm618E 2F8ACm61B2 2F8ADm61A4 2F8AEm61AF 2F8AFm61DE 2F8B0m61F2 2F8B1m61F6 2F8B2m6210
  2F8B3m621B 2F8B4m625D 2F8B5m62B1 2F8B6m62D4 2F8B7m6350 2F8B8m22B0C 2F8B9m633D 2F8BAm62FC
  2F8BBm6368 2F8BCm6383 2F8BDm63E4 2F8BEm22BF1 2F8BFm6422 2F8C0m63C5 2F8C1m63A9 2F8C2m3A2E
  2F8C3m6469 2F8C4m647E 2F8C5m649D 2F8C6m6477 2F8C7m3A6C 2F8C8m654F 2F8C9m656C 2F8CAm2300A
  2F8CBm65E3 2F8CCm66F8 2F8CDm6649 2F8CEm3B19 2F8CFm6691 2F8D0m3B08 2F8D1m3AE4 2F8D2m5192
  2F8D3m5195 2F8D4m6700 2F8D5m669C 2F8D6m80AD 2F8D7m43D9 2F8D8m6717 2F8D9m671B 2F8DAm6721
  2F8DBm675E 2F8DCm6753 2F8DDm233C3 2F8DEm3B49 2F8DFm67FA 2F8E0m6785 2F8E1m6852 2F8E2m6885
  2F8E3m2346D 2F8E4m688E 2F8E5m681F 2F8E6m6914 2F8E7m3B9D 2F8E8m6942 2F8E9m69A3 2F8EAm69EA
  2F8EBm6AA8 2F8ECm236A3 2F8EDm6ADB 2F8EEm3C18 2F8EFm6B21 2F8F0m238A7 2F8F1m6B54 2F8F2m3C4E
  2F8F3m6B72 2F8F4m6B9F 2F8F5m6BBA 2F8F6m6BBB 2F8F7m23A8D 2F8F8m21D0B 2F8F9m23AFA 2F8FAm6C4E
  2F8FBm23CBC 2F8FCm6CBF 2F8FDm6CCD 2F8FEm6C67 2F8FFm6D16 2F900m6D3E 2F901m6D77 2F902m6D41
  2F903m6D69 2F904m6D78 2F905m6D85 2F906m23D1E 2F907m6D34 2F908m6E2F 2F909m6E6E 2F90Am3D33
  2F90Bm6ECB 2F90Cm6EC7 2F90Dm23ED1 2F90Em6DF9 2F90Fm6F6E 2F910m23F5E 2F911m23F8E 2F912m6FC6
  2F913m7039 2F914m701E 2F915m701B 2F916m3D96 2F917m704A 2F918m707D 2F919m7077 2F91Am70AD
  2F91Bm20525 2F91Cm7145 2F91Dm24263 2F91Em719C 2F91Fx 2F920m7228 2F921m7235 2F922m7250
  2F923m24608 2F924m7280 2F925m7295 2F926m24735 2F927m24814 2F928m737A 2F929m738B 2F92Am3EAC
  2F92Bm73A5 2F92Cm3EB8 2F92Em7447 2F92Fm745C 2F930m7471 2F931m7485 2F932m74CA 2F933m3F1B
  2F934m7524 2F935m24C36 2F936m753E 2F937m24C92 2F938m7570 2F939m2219F 2F93Am7610 2F93Bm24FA1
  2F93Cm24FB8 2F93Dm25044 2F93Em3FFC 2F93Fm4008 2F940m76F4 2F941m250F3 2F942m250F2 2F943m25119
  2F944m25133 2F945m771E 2F946m771F 2F948m774A 2F949m4039 2F94Am778B 2F94Bm4046 2F94Cm4096
  2F94Dm2541D 2F94Em784E 2F94Fm788C 2F950m78CC 2F951m40E3 2F952m25626 2F953m7956 2F954m2569A
  2F955m256C5 2F956m798F 2F957m79EB 2F958m412F 2F959m7A40 2F95Am7A4A 2F95Bm7A4F 2F95Cm2597C
  2F95Dm25AA7 2F95Fx 2F960m4202 2F961m25BAB 2F962m7BC6 2F963m7BC9 2F964m4227 2F965m25C80
  2F966m7CD2 2F967m42A0 2F968m7CE8 2F969m7CE3 2F96Am7D00 2F96Bm25F86 2F96Cm7D63 2F96Dm4301
  2F96Em7DC7 2F96Fm7E02 2F970m7E45 2F971m4334 2F972m26228 2F973m26247 2F974m4359 2F975m262D9
  2F976m7F7A 2F977m2633E 2F978m7F95 2F979m7FFA 2F97Am8005 2F97Bm264DA 2F97Cm26523 2F97Dm8060
  2F97Em265A8 2F97Fm8070 2F980m2335F 2F981m43D5 2F982m80B2 2F983m8103 2F984m440B 2F985m813E
  2F986m5AB5 2F987m267A7 2F988m267B5 2F989m23393 2F98Am2339C 2F98Bm8201 2F98Cm8204 2F98Dm8F9E
  2F98Em446B 2F98Fm8291 2F990m828B 2F991m829D 2F992m52B3 2F993m82B1 2F994m82B3 2F995m82BD
  2F996m82E6 2F997m26B3C 2F998m82E5 2F999m831D 2F99Am8363 2F99Bm83AD 2F99Cm8323 2F99Dm83BD
  2F99Em83E7 2F99Fm8457 2F9A0m8353 2F9A1m83CA 2F9A2m83CC 2F9A3m83DC 2F9A4m26C36 2F9A5m26D6B
  2F9A6m26CD5 2F9A7m452B 2F9A8m84F1 2F9A9m84F3 2F9AAm8516 2F9ABm273CA 2F9ACm8564 2F9ADm26F2C
  2F9AEm455D 2F9AFm4561 2F9B0m26FB1 2F9B1m270D2 2F9B2m456B 2F9B3m8650 2F9B4m865C 2F9B5m8667
  2F9B6m8669 2F9B7m86A9 2F9B8m8688 2F9B9m870E 2F9BAm86E2 2F9BBm8779 2F9BCm8728 2F9BDm876B
  2F9BEm8786 2F9BFx 2F9C0m87E1 2F9C1m8801 2F9C2m45F9 2F9C3m8860 2F9C4m8863 2F9C5m27667 2F9C6m88D7
  2F9C7m88DE 2F9C8m4635 2F9C9m88FA 2F9CAm34BB 2F9CBm278AE 2F9CCm27966 2F9CDm46BE 2F9CEm46C7
  2F9CFm8AA0 2F9D0m8AED 2F9D1m8B8A 2F9D2m8C55 2F9D3m27CA8 2F9D4m8CAB 2F9D5m8CC1 2F9D6m8D1B
  2F9D7m8D77 2F9D8m27F2F 2F9D9m20804 2F9DAm8DCB 2F9DBm8DBC 2F9DCm8DF0 2F9DDm208DE 2F9DEm8ED4
  2F9DFm8F38 2F9E0m285D2 2F9E1m285ED 2F9E2m9094 2F9E3m90F1 2F9E4m9111 2F9E5m2872E 2F9E6m911B
  2F9E7m9238 2F9E8m92D7 2F9E9m92D8 2F9EAm927C 2F9EBm93F9 2F9ECm9415 2F9EDm28BFA 2F9EEm958B
  2F9EFm4995 2F9F0m95B7 2F9F1m28D77 2F9F2m49E6 2F9F3m96C3 2F9F4m5DB2 2F9F5m9723 2F9F6m29145
  2F9F7m2921A 2F9F8m4A6E 2F9F9m4A76 2F9FAm97E0 2F9FBm2940A 2F9FCm4AB2 2F9FDm29496 2F9FEm980B
  2FA00m9829 2FA01m295B6 2FA02m98E2 2FA03m4B33 2FA04m9929 2FA05m99A7 2FA06m99C2 2FA07m99FE
  2FA08m4BCE 2FA09m29B30 2FA0Am9B12 2FA0Bm9C40 2FA0Cm9CFD 2FA0Dm4CCE 2FA0Em4CED 2FA0Fm9D67
  2FA10m2A0CE 2FA11m4CF8 2FA12m2A105 2FA13m2A20E 2FA14m2A291 2FA15m9EBB 2FA16m4D56 2FA17m9EF9
  2FA18m9EFE 2FA19m9F05 2FA1Am9F0F 2FA1Bm9F16 2FA1Cm9F3B 2FA1Dm2A600 2FA1Ex 30000v 3134Bx 31350v
  323B0x E0100i E01F0x"

end GuildRegistry.Unicode
