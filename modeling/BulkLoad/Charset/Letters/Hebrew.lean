import BulkLoad.Charset.Letters

/-!
Hebrew, in either direction.
-/
namespace BulkLoad.Charset.Letters

def hebrewPairs : Array Nat :=
  digitTable
    ["0000000000000000000000000000000000000000000000000000000000000000",
      "0333333333333333333333333333222212121200200000101000000100000010",
      "0333333333333333333333333333322212131100200010101000000100000000",
      "0333333333333333333333333101221312112200220000101000100000010110",
      "0333333333333333333333323322223212122200100000100000000100000010",
      "0333333333333333233232232221222212112201200000001000100000000010",
      "0333333333333333333333333202222202022200100000000000000100000010",
      "0333333333333333333333333323022202122200210000101000000200000010",
      "0333333333323333333333333212322212122200100000100000000100000110",
      "0333333332333233333333333331020202122200120000101000000100020010",
      "0333333333333333333232322321211101111130100002100000000000000010",
      "0111111111111111011011001001000000100000200000100000000000000000",
      "0333333333333333333333333222222202012200000000000000000000000010",
      "0333333332333212332333323212021202022200120000101000000000010010",
      "0333333332333122332323223122022202122200120000100000100100010010",
      "0333333333333233323322233331322202012200000000000000000000000010",
      "0333333333333322333232221220222202022200100000100000000000000010",
      "0333333333323331323323322122222202121200100000100000100100000010",
      "0333332323323333232333332222222102012100000000100000000100000010",
      "0333333332123333333232321230212202112100100000100000000100000020",
      "0333333332333321312221233121222201111100000000100000100200000000",
      "0333333333023331333122221122222202011200000000000000000100000010",
      "0333332333223332123232222121112202111100100000000000000000000010",
      "0111111111111111111110100010000010100000200000101000000000000000",
      "0333323323122223231122122110222201012200110000000000000100000010",
      "0001101001100010000000000000122000000000100000000000000000000000",
      "0010101101100011011100000010000000000000100000000000000000000000",
      "0000110101000000000100000000000000000000100000000000000100000000",
      "0221222222212212211111111211033303022220010001000000000000000010",
      "0223222222222222222122122211120100000000000000000000000000000000",
      "0222222222212222222222202200000000011000000000000000000000000000",
      "0312222222222222222222222121021000001000000000000000000000000000",
      "0111111111100111101111000000000000000000000000000000001000000000",
      "0311222221222112222222122101111001001000000000000000000000000000",
      "0211112112101111111111101000000000200000000110000110011000000100",
      "0112222222222212222212121111000000010000000000000000000000000000",
      "0212222222222121211211121212010100001000000000000000000000000000",
      "0312221222222221211111121211010100001000000000000000000000000000",
      "0120000000000100000000000000022202012200000000000000000000000010",
      "0000100000000001010001000000000000000000000000000000000000000000",
      "0111111101101001001000001000000000000000201110100011011000001100",
      "0111212220202011211112101100000000000000000000000000000000000000",
      "0000000000000000001000000000000010100000101220100112212020001201",
      "0000000000000000000000000000000000000000202120200111111010001001",
      "0000000000000000000000000000000000100000102110100111220010001001",
      "0121011101011110001010000000022102012100000000000000000000000000",
      "0100101111000001000011000000000000000000000010000000000000000000",
      "0111111112101111111111101000000000000000001110000111011010001101",
      "0010101001000001000000000000000000000000000000000000000000000000",
      "0000000000000000000000000000000000000000101110100112112010001101",
      "0001001000100000010000000000000000000000101120100002112020001101",
      "0000000000000000000000000000000000000000102110100221211010001101",
      "0010011000000000000000000000000000000000001220000011010010000101",
      "0000000000000000000000000000000000000000001220000211102110002101",
      "0001000000000000000000000000000000000000101120100110211010001101",
      "0211101101101000000100010000000000000000000100000000000000000000",
      "0000000000000000000000000000000000000000102110100110121020001101",
      "0000000000000000000000000000000000000000000000000000000000000000",
      "0000000000000000000000000000000000000000000000000000000000200000",
      "0100202110101001000010001000001000000000000000000000000000000000",
      "0001001001001000000000000000000000000000101120100111010010001001",
      "0001000000000000000000000000000010000000101100100211111010000101",
      "0111211110111111111111011000000000000000000000000000000000000000",
      "0000000000000000000000000000000000000000001210000011111010001100"]

def hebrewNumbers : Array Nat :=
  pairTable
    ["fffffffffffffffffffffefffffeffffffffffffffffffffffffffffffffffff",
      "fdfdfdfdfdfdfdfdfdfdfdfdfdfdfdfdfcfcfcfcfcfcfcfcfcfcfdfdfdfdfdfd",
      "fd455b4f505c59615a446f7052495f554e79564743666b54726773fdfdfdfdfd",
      "fd324a3c3d2a4c464035695d38413631426e332b2c3f514d624b6cfdfdfdfdfd",
      "7ccacbcccd283acecfd0d1d2d3d4d5d6d753342f2e48205ed871d96ddadbdcdd",
      "2274de7664dfe07577687de1e25763e36a7a7be437e5e665e7e878e9302739ea",
      "1e3b29582125241f1d23eb3e1cec7eedee262deff0f1f2f37ff4f5f6f7f8f9fa",
      "090814100302180e1601190f040b06170c130d1a121b1511070a05fbfc8060fd"]

def hebrew (backwards : Bool) : Letters :=
  ⟨"hebrew", hebrewNumbers, hebrewPairs, 984004, backwards, false⟩

end BulkLoad.Charset.Letters
