
/-! The character classes that the label rules of internationalized domain names consult,

as the validating resolver tabulates them. They follow Unicode 13.0: characters added later have no
bidi class and are neither marks nor viramas. Code points that never stand in a checked label
(mapped, ignored or disallowed ones) take whatever class their range has.
-/

set_option autoImplicit false

namespace GuildRegistry.Unicode

/-- Whether a code point is a mark (general category M). -/
def markText : String :=
  "0n 300y 371n 483y 48Bn 591y 5BEn 5BFy 5C0n 5C1y 5C3n 5C4y 5C6n 5C7y 5D0n 610y 61Bn 64By 660n
  670y 671n 6D6y 6DEn 6DFy 6E5n 6E7y 6E9n 6EAy 6EEn 711y 712n 730y 74Dn 7A6y 7B1n 7EBy 7F4n 7FDy
  7FEn 816y 81An 81By 824n 825y 828n 829y 830n 859y 85En 8D3y 904n 93Ay 93Dn 93Ey 950n 951y 960n
  962y 964n 981y 985n 9BCy 9BDn 9BEy 9CEn 9D7y 9E0n 9E2y 9E6n 9FEy A05n A3Cy A5Cn A70y A72n A75y
  A76n A81y A85n ABCy ABDn ABEy AD0n AE2y AE6n AFAy B05n B3Cy B3Dn B3Ey B5Fn B62y B66n B82y B83n
  BBEy BD0n BD7y BE6n C00y C05n C3Ey C58n C62y C66n C81y C84n CBCy CBDn CBEy CDDn CE2y CE6n D00y
  D04n D3By D3Dn D3Ey D4En D57y D58n D62y D66n D81y D85n DCAy DE6n DF2y DF4n E31y E32n E34y E3Fn
  E47y E4Fn EB1y EB2n EB4y EBDn EC8y ECEn F18y F1An F35y F36n F37y F38n F39y F3An F3Ey F40n F71y
  F85n F86y F88n F8Dy FBEn FC6y FC7n 102By 103Fn 1056y 105An 105Ey 1061n 1062y 1065n 1067y 106En
  1071y 1075n 1082y 108En 108Fy 1090n 109Ay 109En 135Dy 1360n 1712y 1715n 1732y 1735n 1752y 1760n
  1772y 1780n 17B6y 17D4n 17DDy 17E0n 1885y 1887n 18A9y 18AAn 1920y 1940n 1A17y 1A1En 1A55y 1A80n
  1AB0y 1AC1n 1B00y 1B05n 1B34y 1B45n 1B6By 1B74n 1B80y 1B83n 1BA1y 1BAEn 1BE6y 1BFCn 1C24y 1C3Bn
  1CD0y 1CD3n 1CD4y 1CE9n 1CEDy 1CEEn 1CF4y 1CF5n 1CF7y 1CFAn 1DC0y 1DFAn 1DFBy 1E01n 20D0y 2104n
  2CEFy 2CF3n 2D7Fy 2D80n 2DE0y 2E00n 302Ay 3030n 3099y 309Dn A66Fy A673n A674y A67En A69Ey A6A0n
  A6F0y A6F2n A802y A803n A806y A807n A80By A80Cn A823y A828n A82Cy A830n A880y A882n A8B4y A8CEn
  A8E0y A8F2n A8FFy A900n A926y A92En A947y A95Fn A980y A984n A9B3y A9C1n A9E5y A9E6n AA29y AA40n
  AA43y AA44n AA4Cy AA50n AA7By AA7En AAB0y AAB1n AAB2y AAB5n AAB7y AAB9n AABEy AAC0n AAC1y AAC2n
  AAEBy AAF0n AAF5y AB01n ABE3y ABEBn ABECy ABF0n FB1Ey FBB2n FE20y FE45n 101FDy 10280n 102E0y
  102E1n 10376y 10380n 10A01y 10A10n 10A38y 10A40n 10AE5y 10AEBn 10D24y 10D30n 10EABy 10EADn
  10F46y 10F51n 11000y 11003n 11038y 11047n 1107Fy 11083n 110B0y 110BBn 11100y 11103n 11127y
  11136n 11145y 11147n 11173y 11174n 11180y 11183n 111B3y 111C1n 111C9y 111CDn 111CEy 111D0n
  1122Cy 11238n 1123Ey 1123Fn 112DFy 112F0n 11300y 11305n 1133By 1133Dn 1133Ey 11350n 11357y
  1135Dn 11362y 11400n 11435y 11447n 1145Ey 1145Fn 114B0y 114C4n 115AFy 115C1n 115DCy 11600n
  11630y 11641n 116ABy 116B8n 1171Dy 11730n 1182Cy 1183Bn 11930y 1193Fn 11940y 11941n 11942y
  11944n 119D1y 119E1n 119E4y 11A00n 11A01y 11A0Bn 11A33y 11A3An 11A3By 11A3Fn 11A47y 11A50n
  11A51y 11A5Cn 11A8Ay 11A9An 11C2Fy 11C40n 11C92y 11D00n 11D31y 11D46n 11D47y 11D50n 11D8Ay
  11D98n 11EF3y 11EF7n 16AF0y 16AF5n 16B30y 16B37n 16F4Fy 16F50n 16F51y 16F93n 16FE4y 17000n
  1BC9Dy 1BC9Fn 1D165y 1D16An 1D16Dy 1D183n 1D185y 1D18Cn 1D1AAy 1D1AEn 1D242y 1D245n 1DA00y
  1DA37n 1DA3By 1DA6Dn 1DA75y 1DA76n 1DA84y 1DA85n 1DA9By 1DF00n 1E000y 1E08Fn 1E130y 1E137n
  1E2ECy 1E2F0n 1E8D0y 1E922n 1E944y 1E94Bn"

/-- The bidi class of a code point. -/
def bidiClassText : String :=
  "0w 9o Ew 1Co 21w 30g 3Aw 41l 5Bw 61l 7Bw DFl F7w F8l 2B9w 2BBl 2C2w 2D0l 2D2w 2EEl 2EFw 300s
  371l 375w 377l 3F6w 3F8l 483s 48Bl 58Aw 591s 5BEr 5BFs 5C0r 5C1s 5C3r 5C4s 5C6r 5C7s 5D0r 606w
  608r 609w 60Br 60Cw 60Dr 60Ew 610s 61Br 61Do 61Er 64Bs 660n 66Aw 66Bn 66Dr 670s 671r 6D6s 6DEw
  6DFs 6E5r 6E7s 6E9w 6EAs 6EEr 6F0g 6FAr 711s 712r 730s 74Dr 7A6s 7B1r 7EBs 7F4r 7F6w 7FAr 7FDs
  7FEr 816s 81Ar 81Bs 824r 825s 828r 829s 830r 859s 85Er 870o 8A0r 8B5o 8B6r 8C8o 8D3s 903l 93As
  93Bl 93Cs 93Dl 941s 949l 94Ds 94El 951s 960l 962s 964l 981s 982l 9BCs 9BDl 9C1s 9C7l 9CDs 9CEl
  9E2s 9E6l 9F2w 9F4l 9FBw 9FCl 9FEs A03l A3Cs A3El A41s A5Cl A70s A72l A75s A76l A81s A83l ABCs
  ABDl AC1s AC9l ACDs AD0l AE2s AE6l AF1w AF9l AFAs B02l B3Cs B3Dl B3Fs B40l B41s B47l B4Ds B57l
  B62s B66l B82s B83l BC0s BC1l BCDs BD0l BF3w C00s C01l C04s C05l C3Co C3Dl C3Es C41l C46s C58l
  C5Do C60l C62s C66l C78w C7Fl C81s C82l CBCs CBDl CCCs CD5l CDDo CDEl CE2s CE6l CF3o D00s D02l
  D3Bs D3Dl D41s D46l D4Ds D4El D62s D66l D81s D82l DCAs DCFl DD2s DD8l E31s E32l E34s E3Fw E40l
  E47s E4Fl EB1s EB2l EB4s EBDl EC8s ECEo ED0l F18s F1Al F35s F36l F37s F38l F39s F3Aw F3El F71s
  F7Fl F80s F85l F86s F88l F8Ds FBEl FC6s FC7l 102Ds 1031l 1032s 1038l 1039s 103Bl 103Ds 103Fl
  1058s 105Al 105Es 1061l 1071s 1075l 1082s 1083l 1085s 1087l 108Ds 108El 109Ds 109El 135Ds 1360l
  1390w 13A0l 1400w 1401l 169Bw 16A0l 170Do 170El 1712s 1715o 1720l 1732s 1735l 1752s 1760l 1772s
  1780l 17B7s 17BEl 17C6s 17C7l 17C9s 17D4l 17DBw 17DCl 17DDs 17E0l 17F0w 1810l 1885s 1887l 18A9s
  18AAl 1920s 1923l 1927s 1929l 1932s 1933l 1939s 1940w 1946l 19DEw 1A00l 1A17s 1A19l 1A1Bs 1A1El
  1A56s 1A57l 1A58s 1A61l 1A62s 1A63l 1A65s 1A6Dl 1A73s 1A80l 1AB0s 1AC1o 1B00s 1B04l 1B34s 1B35l
  1B36s 1B3Bl 1B3Cs 1B3Dl 1B42s 1B43l 1B4Co 1B50l 1B6Bs 1B74l 1B7Do 1B80s 1B82l 1BA2s 1BA6l 1BA8s
  1BAAl 1BABs 1BAEl 1BE6s 1BE7l 1BE8s 1BEAl 1BEDs 1BEEl 1BEFs 1BF2l 1C2Cs 1C34l 1C36s 1C3Bl 1CD0s
  1CD3l 1CD4s 1CE1l 1CE2s 1CE9l 1CEDs 1CEEl 1CF4s 1CF5l 1CF8s 1CFAl 1DC0s 1DFAo 1DFBs 1E01l 200Cw
  20C0o 20D0s 2104w 214El 218Aw 2336l 237Bw 2395l 2396w 26ACl 26ADw 2800l 2900w 2C30l 2C5Fo 2C61l
  2CE5w 2CECl 2CEFs 2CF3l 2CF9w 2D00l 2D7Fs 2D80l 2DE0s 2E00w 2E53o 2E80w 3005l 3008w 3021l 302As
  302El 3030w 3031l 3037w 303Bl 303Dw 3041l 3099s 309Dl 30A0w 30A1l 30FBw 30FCl 31C0w 31F0l 4DC0w
  4E00l 9FFDo A000l A490w A4D0l A60Dw A610l A66Fs A673w A674s A67Ew A681l A69Es A6A0l A6F0s A6F2l
  A700w A723l A788w A789l A7C1o A7C3l A7D1o A7F6l A802s A803l A806s A807l A80Bs A80Cl A825s A827l
  A828w A82Cs A830l A838w A840l A874w A880l A8C4s A8CEl A8E0s A8F2l A8FFs A900l A926s A92El A947s
  A952l A980s A983l A9B3s A9B4l A9B6s A9BAl A9BCs A9BEl A9E5s A9E6l AA29s AA2Fl AA31s AA33l AA35s
  AA40l AA43s AA44l AA4Cs AA4Dl AA7Cs AA7Dl AAB0s AAB1l AAB2s AAB5l AAB7s AAB9l AABEs AAC0l AAC1s
  AAC2l AAECs AAEEl AAF6s AB01l AB6Aw ABC0l ABE5s ABE6l ABE8s ABE9l ABEDs ABF0l FB1Es FBB2r FBC2o
  FD3Ew FD40o FDFDw FDFEo FE20s FE45w FE73r 10000l 10101w 10102l 10140w 1018Dl 10190w 101D0l
  101FDs 10280l 102E0s 102E1g 10300l 10376s 10380l 10597o 10600l 10780o 10800r 1091Fw 10920r
  10A01s 10A10r 10A38s 10A40r 10AE5s 10AEBr 10B39w 10B40r 10D24s 10D30n 10E80r 10EABs 10EADr
  10EFDo 10F00r 10F46s 10F51r 10F70o 10FB0r 11000l 11001s 11002l 11038s 11047l 11052w 11066l
  11070o 1107Fs 11082l 110B3s 110B7l 110B9s 110BBl 110C2o 110D0l 11100s 11103l 11127s 1112Cl
  1112Ds 11136l 11173s 11174l 11180s 11182l 111B6s 111BFl 111C9s 111CDl 111CFs 111D0l 1122Fs
  11232l 11234s 11235l 11236s 11238l 1123Es 1123Fo 11280l 112DFs 112E0l 112E3s 112F0l 11300s
  11302l 1133Bs 1133Dl 11340s 11341l 11366s 11400l 11438s 11440l 11442s 11445l 11446s 11447l
  1145Es 1145Fl 114B3s 114B9l 114BAs 114BBl 114BFs 114C1l 114C2s 114C4l 115B2s 115B8l 115BCs
  115BEl 115BFs 115C1l 115DCs 11600l 11633s 1163Bl 1163Ds 1163El 1163Fs 11641l 11660w 11680l
  116ABs 116ACl 116ADs 116AEl 116B0s 116B6l 116B7s 116B8l 116B9o 116C0l 1171Ds 11720l 11722s
  11726l 11727s 11730l 11740o 11800l 1182Fs 11838l 11839s 1183Bl 1193Bs 1193Dl 1193Es 1193Fl
  11943s 11944l 119D4s 119DCl 119E0s 119E1l 11A01s 11A07l 11A09s 11A0Bl 11A33s 11A39l 11A3Bs
  11A3Fl 11A47s 11A50l 11A51s 11A57l 11A59s 11A5Cl 11A8As 11A97l 11A98s 11A9Al 11AB0o 11AC0l
  11B00o 11C00l 11C30s 11C3El 11C92s 11CA9l 11CAAs 11CB1l 11CB2s 11CB4l 11CB5s 11D00l 11D31s
  11D46l 11D47s 11D50l 11D90s 11D93l 11D95s 11D96l 11D97s 11D98l 11EF3s 11EF5l 11F00o 11FB0l
  11FD5w 11FFFl 12F90o 13000l 1342Fo 14400l 16A70o 16AD0l 16AF0s 16AF5l 16B30s 16B37l 16F4Fs
  16F50l 16F8Fs 16F93l 16FE2w 16FE3l 16FE4s 16FF0l 1AFF0o 1B000l 1B11Fo 1B150l 1B155o 1B164l
  1BC9Ds 1BC9Fl 1CF00o 1D000l 1D167s 1D16Al 1D17Bs 1D183l 1D185s 1D18Cl 1D1AAs 1D1AEl 1D1E9o
  1D200w 1D242s 1D245w 1D2C0o 1D2E0l 1D300w 1D360l 1DA00s 1DA37l 1DA3Bs 1DA6Dl 1DA75s 1DA76l
  1DA84s 1DA85l 1DA9Bs 1DF00o 1E000s 1E08Fo 1E100l 1E130s 1E137l 1E290o 1E2C0l 1E2ECs 1E2F0l
  1E2FFw 1E4D0o 1E800r 1E8D0s 1E922r 1E944s 1E94Br 1EEF0w 1F150l 1F16Dw 1F170l 1F1ADw 1F1E6l
  1F260w 1F6DCo 1F6E0w 1F774o 1F780w 1F7D9o 1F7E0w 1F7F0o 1F800w 1F979o 1F97Aw 1F9CCo 1F9CDw
  1FA75o 1FA78w 1FA7Bo 1FA80w 1FA87o 1FA90w 1FAA9o 1FAB0w 1FAB7o 1FAC0w 1FAC3o 1FAD0w 1FAD7o
  1FB00w 20000l 2A6DEo 2A700l 2B735o 2B740l 31350o"

/-- Whether a letter joins to the letter after it: joining type L or D. -/
def joinsForwardText : String :=
  "0n 620y 621n 626y 627n 628y 629n 62Ay 62Fn 633y 640n 641y 648n 649y 64Bn 66Ey 670n 679y 688n
  69Ay 6C0n 6C1y 6C3n 6CCy 6CDn 6CEy 6CFn 6D0y 6D2n 6FAy 6FDn 6FFy 700n 712y 715n 71Ay 71En 71Fy
  728n 729y 72An 72By 72Cn 72Dy 72Fn 74Ey 759n 75Cy 767n 850y 854n 855y 856n 8A0y 8A1n 8A2y 8AAn
  1807y 1808n 1820y 1878n 1887y 18A9n 18AAy 18B0n A840y A873n"

/-- Whether a letter joins to the letter before it: joining type R or D. -/
def joinsBackwardText : String :=
  "0n 620y 621n 622y 640n 641y 64Bn 66Ey 670n 671y 674n 679y 6D4n 6D5y 6D6n 6EEy 6F0n 6FAy 6FDn
  6FFy 700n 710y 711n 712y 730n 74Dy 767n 850y 856n 8A0y 8A1n 8A2y 8ADn 1807y 1808n 1820y 1878n
  1887y 18A9n 18AAy 18B0n A840y A872n"

/-- Whether a code point is a virama: canonical combining class 9. -/
def viramaText : String :=
  "0n 94Dy 94En 9CDy 9CEn A4Dy A51n ACDy AD0n B4Dy B55n BCDy BD0n C4Dy C55n CCDy CD5n D3By D3Dn
  D4Dy D4En DCAy DCFn E3Ay E3Fn EBAy EBBn F84y F85n 1039y 103Bn 1714y 1715n 1734y 1735n 17D2y
  17D3n 1A60y 1A61n 1B44y 1B45n 1BAAy 1BACn 1BF2y 1BFCn 2D7Fy 2D80n A806y A807n A82Cy A830n A8C4y
  A8C5n A953y A95Fn A9C0y A9C1n AAF6y AB01n ABEDy ABF0n 10A3Fy 10A40n 11046y 11047n 1107Fy 11080n
  110B9y 110BAn 11133y 11136n 111C0y 111C1n 11235y 11236n 112EAy 112F0n 1134Dy 11350n 11442y
  11443n 114C2y 114C3n 115BFy 115C0n 1163Fy 11640n 116B6y 116B7n 1172By 11730n 11839y 1183An
  1193Dy 1193Fn 119E0y 119E1n 11A34y 11A35n 11A47y 11A50n 11A99y 11A9An 11C3Fy 11C40n 11D44y
  11D46n 11D97y 11D98n"

end GuildRegistry.Unicode
