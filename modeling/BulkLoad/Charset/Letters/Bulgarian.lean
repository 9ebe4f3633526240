import BulkLoad.Charset.Letters

/-!
Bulgarian and the sets in which it is written.
-/
namespace BulkLoad.Charset.Letters

def bulgarianPairs : Array Nat :=
  digitTable
    ["0000000000000000000000000000000000000000000000000000000000000000",
      "0133233333333333303333333333030100000000001011000000000000000001",
      "0333333333333333323233333333031001000000001101001000000000000001",
      "0222333333333333313233333333030000000000001001000000000000000000",
      "0233233333333333313233333333030000000000001001000000000000000000",
      "0333333333323221333322211201010000000000002000000000200000000001",
      "0333333232233112332333321202030000000001002000000000200000000001",
      "0333333133333232333332331303020000000000002000000000100000000001",
      "0333333313323331332322200202020000000000002000000000200000000001",
      "0333333330333223331223211202000010000000002001001000100000000001",
      "0333333233123222333332231202120000000000003001000000200000000001",
      "0333313333323332332322231201010000000000001000000000100000000001",
      "0333333333311122131322300101010000010000102000000000100000000001",
      "0333322322312111231312201111010000000000002000000000100000000001",
      "0333313223312311333312211102020100000000002000000000100000000001",
      "0333333333333331223332211202010000000000001000000000100000000001",
      "0012133233333232103121212321010000000000000001000000000000000000",
      "0112333333333333003133233222010000000000002000000000000000000000",
      "0333303333321121330311113201000000000000002000000000100000000001",
      "0322233333333333113133232223020000000000001000000000000000000000",
      "0333323322321111131311000100010000000000001000000000100000000000",
      "0333323203203020021310010001000000000000001000000000000000000001",
      "0333211112112111221211101101010000000000000000000000100000000001",
      "0333213112132110123211100000000000000000000000000000000000000000",
      "0333322101001000210300100000000000000000000000000000000000000001",
      "0332323313211121121301000100000000000000001000000000000000000000",
      "0112233232223122112112201101020000000000000000000000000000000000",
      "0333213102213210020201000000010000000000001000000000100000000001",
      "0333331202312320131211100100222322221211221120111001100110001101",
      "0333321221202010121211000101000000000000001000000000200000000001",
      "0323311310321000120201000101212211111112221111111012111000001100",
      "0101023222322222102121110121222111222212110121222111011112010000",
      "0323300210210000230200000100201221212211121110122111110111001200",
      "0322302311200010020200010101202211112101222111111101110000001100",
      "0323300301101000221200000000201222111112221020101001010010000100",
      "0333222220211112121102010100201211111112211020102001110020001100",
      "0333310000000000200110000001201222211211222120111111011110011100",
      "0333302202100011120200030000202211121211222120111011110210001100",
      "0333302100200000120200000000201211121111222010111001110010000100",
      "0322301010000000110300000000102211111211221221011111010010001100",
      "0101022223211123001021101111211112212122110121221110011121010000",
      "0101031222212211102122112110211112222222120110211111001111010000",
      "0111122221222122112123221111010000000000000000000000000000000000",
      "0223201201211010121200011000100211001101111020111001100001000100",
      "0000012222222121111111011111211112222112121110212111021111010000",
      "0000000000000000000000000000101011010111110000000100000000000000",
      "0223200001000000110200000000101211111100222220110111110010001101",
      "0312101102220010011110000000101211112111111110110101010010000100",
      "0222200200200000010100000000202211111001211010100001100000000000",
      "0222200201100010020200000000001100011111111110100100100000000000",
      "0223200100100000010200010000000211001000110010110001100000000000",
      "0122212122112111011112010111101111211111100121111110011100000000",
      "0001311000001000000000100000000000000000001000000000000000000000",
      "0222100102000001110100000000200102010011201010100001000000000000",
      "0222201102101110010201000000000101001000110010010001100000000000",
      "0222200100010100010100000000000101011100111010000001100000000000",
      "0010012111111221001010000111100011211110001100100000000000000000",
      "0212100100000000110100000000000100000000110010000000000000000000",
      "0000000000000000000000000000000000000000000000000000000000000000",
      "0001200000000000010000000000100001101110010010100010000010000000",
      "0010011111111111001020020100100111001101000100100000000100000000",
      "0000001100100000000000000000101011111112000000210110011101000000",
      "0000000000000000000000000000000000000000000000000000000000000000",
      "0001111111111111101011011111010000000000000000000000000000000001"]

def bulgarianIso : Array Nat :=
  pairTable
    ["fffffffffffffffffffffefffffeffffffffffffffffffffffffffffffffffff",
      "fdfdfdfdfdfdfdfdfdfdfdfdfdfdfdfdfcfcfcfcfcfcfcfcfcfcfdfdfdfdfdfd",
      "fd4d5a6364486d6b654fb951664c5e526eba6c5b4a7754606fbb73fdfdfdfdfd",
      "fd414546423f4470675cc2685f56574774c3555d6171c4c5c6c7c8fdfdfdfdfd",
      "c2c3c4c5c6c7c8c9cacbcccdcecfd0d1d2d3d4d5d6d7d8d9dadbdcdddedfe0e1",
      "51e2e3e4e5e669e7e8e9eaebec2dedee1f20232b252c372f283b212e2624291e",
      "271c22333031353236393def43f03c38011209140b03170f021a0c0a0e06040d",
      "070805131d1916151b18114b34f12a103ef2f3f43af562f6f7f8f9fafb5bfcfd"]

def bulgarianWindows : Array Nat :=
  pairTable
    ["fffffffffffffffffffffefffffeffffffffffffffffffffffffffffffffffff",
      "fdfdfdfdfdfdfdfdfdfdfdfdfdfdfdfdfcfcfcfcfcfcfcfcfcfcfdfdfdfdfdfd",
      "fd4d5a6364486d6b654fb951664c5e526eba6c5b4a7754606fbb73fdfdfdfdfd",
      "fd414546423f4470675cc2685f56574774c3555d6171c4c5c6c7c8fdfdfdfdfd",
      "cecfd0d1d2d3d4d578d6d7d8d9dadbdcdd4e405379627569dedfe0e1e2e3e4e5",
      "58e6e7e8e97a596aeaebecedee2deff049507672f1f2f3f4f53e3af6f7f8f9fa",
      "1f20232b252c372f283b212e2624291e271c22333031353236393dfb43fc3c38",
      "011209140b03170f021a0c0a0e06040d070805131d1916151b18114b34fd2a10"]

def bulgarian : List Letters :=
  [⟨"iso-8859-5", bulgarianIso, bulgarianPairs, 969392, false, false⟩,
    ⟨"windows-1251", bulgarianWindows, bulgarianPairs, 969392, false, false⟩]

end BulkLoad.Charset.Letters
