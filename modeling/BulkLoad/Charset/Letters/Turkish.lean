import BulkLoad.Charset.Letters

/-!
Turkish, whose texts are looked at with their plain letters.
-/
namespace BulkLoad.Charset.Letters

def turkishPairs : Array Nat :=
  digitTable
    ["0000000000000000000000000000000000000000000000000000000000000000",
      "0223303333333231033133033333030331101010000001111000000022000101",
      "0323303333333231133033123333030331100010000110121000100002000001",
      "0333332333333331332032122133000222010010011000000000000101101001",
      "0332331233333331321032012332100221000000000001000000000000202000",
      "0013313333333120023023002223030121000000000000000000000000000000",
      "0333333333333330333032023233100232001000000200100000000011102001",
      "0332332333323330330021002322000222000000000000000001100010102001",
      "0332333333323330320132113232100222001000000000000000000010100000",
      "0332333333323330322023002222000233000000000000000000000010201000",
      "0333333222232330331122002232001303100010000000000000000010100001",
      "0332333212232330320011011212000103000000000100000000000010101000",
      "0332332322233331311032113323100110010000000000000000000000102001",
      "0223303333333221033133013323030320000000000100000000000001000000",
      "0223303333333330032033032333031320000000000101201000000022001001",
      "0331233100100332300200202000202003101000221011212220211000200000",
      "0213303333323000023023102313030230000000010000000000000000000000",
      "0331332232201230121010001022000111000000000000010000000011001000",
      "0331331133113310212021001121000221000000000000000000000000000000",
      "0331021300200330300101200112201001211010111110111221201000000100",
      "0332323302223330300022012111000103000000000000000000000000001000",
      "0333332122333320200022002133001111001000000100000000000000101000",
      "0123303333332202023232222222132320212222112212212002110210010001",
      "0331110111232110000000000101000001000000000000000000000000000000",
      "0332223232213330212021001111100121000000000000001000000010201000",
      "0332333332312331200000003211000020000000000000000000000001000000",
      "0332233211111330310011003121000003000000000000000000000000100000",
      "0332232223211330300001003112000110010020000000000000000000000001",
      "0113303333322212021221101222222200212121011312112002010101000101",
      "0331333011022310300010001001010010000000000000000000000000000000",
      "0320022100100331300110203000201101201220222210211020212000000000",
      "0331323202221320212012001022000210000000000000000000000001101000",
      "0330331123103230300010001010000012000000000000000000000000000000",
      "0003303323322000012013000311030220000010000000000000000000000000",
      "0331221031111332300101202202202102211110211011112121201010000000",
      "0330113001100220300110100000200003101010200101011121102000000000",
      "0330202011100330200100211010101002012020211010211021101000110000",
      "0230100000000120100100100000200000110010100100021010200000000000",
      "0330023001010232300130210000201002100110210010011011201000010000",
      "0220011000000311100000100000201001000000100000001000101000000000",
      "0003302322122112013222002200012130211011101222112000010110000000",
      "0112303332222101010122002213112100112011001202112001000101010000",
      "0320031000000321200100200000201002110010120011002111102000000000",
      "0320010000100332200100201000201000110020210011212021211100110000",
      "0320022000110221310101200000101001100000100100011010100000000000",
      "0332000100100231200100200010202001122120211001101111211000000000",
      "0330212100110331200100202011200000111120110111100011101000100000",
      "0330223200100231000000202000200001100010010110101110100000000000",
      "0230000000100222200100200000201000211010211001121020201000200000",
      "0002202111122001010013000010021000101000002101000000000200000000",
      "0002302312202002021112100121121010201011002212112001000000000000",
      "0330212000100320100100200012101000001010010000101011101000000000",
      "0002202211011111001211101000111100210111011212112011210200000000",
      "0220020000000220200100200000200002100000100000001000101000000000",
      "0003202201101001000101000001000020101011001201011001010200000000",
      "0220110001000120100100100001201000100010010000001010200000000000",
      "0222101110000120010001001000000000000000000000000000000020000000",
      "0120100010100010010000000100000000000000000000000001000002000001",
      "0012202121122000010011002000010000000000000000000000000000001000",
      "0220001000000221100000100000000000001000100000000000000000000000",
      "0001100010001000000011000000000000000000000000000000000000000000",
      "0220101000000110000000101000000000000000000000000000000010000100",
      "0000000000000000000000000000000000000000000000000000000000000000",
      "0010000000000220000000000000000000000000000000000000000000000000"]

def turkishNumbers : Array Nat :=
  pairTable
    ["ffffffffffffffffffffffffffffffffffffffffffffffffffffffffffffffff",
      "ffffffffffffffffffffffffffffffffffffffffffffffffffffffffffffffff",
      "ff17252f271d34242d353c1031142e2a30452c231f33263e412b38ffffffffff",
      "ff01151c0c02121b1903180a050d040f1a400708090e20393a0b16ffffffffff",
      "b4b3b2b1b0afaeadacabaaa9a8a7a6a5a4a3a2a1a09f659e9d9c9b9a9998976a",
      "96959493929190648f8e8d8c8b8a89885e505d876986853f84838281807f7e7d",
      "7c6849634f557b367a625c79785b6777447675617473325a7271706f37292856",
      "59463b4e475258214d4254536e4b3d601e436d4a5766225f516c4c481106136b"]

def turkish : Letters :=
  ⟨"iso-8859-9", turkishNumbers, turkishPairs, 970290, false, true⟩

end BulkLoad.Charset.Letters
