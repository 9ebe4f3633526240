import BulkLoad.Charset.Letters

/-!
Russian and the sets in which it is written.
-/
namespace BulkLoad.Charset.Letters

def russianPairs : Array Nat :=
  digitTable
    ["0000000000000000000000000000000000000000000000000000000000000000",
      "0332333333333323300333333333232000000002000000000000000000000000",
      "0332233333333323300333333332331000000002000000000000000000000000",
      "0232333333333333300333333333332100000002001000000000000000000000",
      "0333333333333323300333333333332100000102000000000000000000000000",
      "0333333322231331333322302223321000000002000000000000001000000000",
      "0333332333332232333212201222222000000002000000000000002000000000",
      "0333333333333333333222302233212000000002000000000001002000000000",
      "0333332331232232333322303223111000000002000000000000000000000000",
      "0333333322333332333322203332222000000002000000000000000000000000",
      "0333333333232333333232201321221000000001000000000000002000000000",
      "0333333333321130111121102221201000000001000000000000000000000000",
      "0333332332222132323212201121212000000002000000000000000000000000",
      "0333333333332232333222202222311000000001000000000000002000000000",
      "0232233333333313200333323333232000000002000000000000000000000000",
      "0333332233021032323001200101211000000001000000000000000000000000",
      "0030233332333312200232223232230000000001000000000000000000000000",
      "0230232301233202300232201313221000000002000000000000000000000000",
      "0130233333333213200223332330220000000000000000000000000000000000",
      "0333332233222330011111200111101000000001000000000000000000000000",
      "0333332233333330323323202101101000000000000000000000002000000000",
      "0333332333222231323112102222131000001000000000000000002000000000",
      "0233333122131030030001101210000000000001000000000000000000000000",
      "0221133322122311200221300211211000000002000000000000000000000000",
      "0233331222121331121212202001101000000001000000000000000000000000",
      "0333332132232032030101100111101000000002000000000000000000000000",
      "0323332223312121010110100211101000000001000000000000001000000000",
      "0112123322122302100223212222231000000001000000000000000000000000",
      "0333311011221130013111000101100000000000000000000000000000000000",
      "0133320002101020020000000000000000000000000000000000000000000000",
      "0010023222122212100111020111001110000012000001000000010000000000",
      "0333300001000030121000000011001110101200112101111011110100100110",
      "0232223122222222111111101011102111111111211111111110101101110110",
      "0332222322112222113121200110102111111210111101001100101001000110",
      "0001032222121212000212211220110211111011121112101211110111001001",
      "0322211123000020221000000100001110110101101102001100100000000110",
      "0323212222100020011000000011002111210200101001001101100000100000",
      "0001022232222222000212111220001211111012111111101111110111111001",
      "0323320111001020113100000001002111111110101111011100110100000010",
      "0333312222011021112101100101002000000002000000000000000000000000",
      "0333200112210020113001000001012111201110101101011110100000010110",
      "0323210022201020111010003011002111101100001101002110100010100110",
      "0121122222212211000222000121010121111111111111102111010110111001",
      "0000020111111101000111010110010111001000101100101010000100010001",
      "0332200022000120112000000001002101100110001101101100100000000010",
      "0323200001100020202000001001001111201210112111112110100111110110",
      "0322210022101220010000000001001100110110011011001100100000000000",
      "0001023122222211000101021110000111011011110001000100000000001000",
      "0020010321212201000210021111020221111111111112101111000111101001",
      "0222210010000020111100001012002010111210101100101110100010010110",
      "0122203011000020010000000000000100011100101000001000100000000100",
      "0223220011201210101001000000000101100110011001101100100000000110",
      "0211212222212201000122212111112111111111110011101110000111011001",
      "0222201022000020010000000000002000100100001011001100100000000000",
      "0020000000000000200000000001000000000000000000000000000000000000",
      "0222200022201010010000000000001101100110001000000100000000000000",
      "0222200001001120000101001002000100100100011000001001100000000000",
      "0222112021111022000000000110001100101100001000001100100000000000",
      "0021200000100010001000000001000000101100001000001000100000000010",
      "0000020121011101000101001010000100000100110011000010000000000001",
      "0210000000000000000000000000000110001000110000000100000100100000",
      "0000000000000000000000000000000111101010011110001000010001010000",
      "0000000000000000000000000000000111011010100001101100000101101000",
      "0111100000000010000000000000000000000100001000001000000000000100"]

def russianWindows : Array Nat :=
  pairTable
    ["fffffffffffffffffffffefffffeffffffffffffffffffffffffffffffffffff",
      "fdfdfdfdfdfdfdfdfdfdfdfdfdfdfdfdfcfcfcfcfcfcfcfcfcfcfdfdfdfdfdfd",
      "fd8e8f9091929394959697984a994b9a9b9c9d9e9fa0a1a2a3a4a5fdfdfdfdfd",
      "fd47ac42ad41ae4caf40b0b14d48b24543b34e49b4b54fb6b7b8b9fdfdfdfdfd",
      "bfc0c1c2c3c4c5c6c7c8c9cacbcccdcecfd0d1d2d3d4d5d6d7d8d9dadbdcddde",
      "dfe0e1e2e3e4e5e6e7e8e9eaebecedeeeff0f1f2f3f4f5f644f7f8f9fafbfcfd",
      "252c212e293038332a3c2431261f22232d20283435373a32393f463e3d2f3b2b",
      "03150a130d02181404170b080c05010f0907060e271a1c16191d3612111e1b10"]

def russianKoi8 : Array Nat :=
  pairTable
    ["fffffffffffffffffffffefffffeffffffffffffffffffffffffffffffffffff",
      "fdfdfdfdfdfdfdfdfdfdfdfdfdfdfdfdfcfcfcfcfcfcfcfcfcfcfdfdfdfdfdfd",
      "fd8e8f9091929394959697984a994b9a9b9c9d9e9fa0a1a2a3a4a5fdfdfdfdfd",
      "fd47ac42ad41ae4caf40b0b14d48b24543b34e49b4b54fb6b7b8b9fdfdfdfdfd",
      "bfc0c1c2c3c4c5c6c7c8c9cacbcccdcecfd0d1d2d3d4d5d6d7d8d9dadbdcddde",
      "dfe0e144e2e3e4e5e6e7e8e9eaebecedeeeff0f1f2f3f4f5f6f7f8f9fafbfcfd",
      "1b03151c0d0227131a04170b080c05010f100907060e180a111214191e1d1636",
      "3b252c3a2930352e372a3c2431261f22232b2d20283438213d3e33392f3f3246"]

def russianIso : Array Nat :=
  pairTable
    ["fffffffffffffffffffffefffffeffffffffffffffffffffffffffffffffffff",
      "fdfdfdfdfdfdfdfdfdfdfdfdfdfdfdfdfcfcfcfcfcfcfcfcfcfcfdfdfdfdfdfd",
      "fd8e8f9091929394959697984a994b9a9b9c9d9e9fa0a1a2a3a4a5fdfdfdfdfd",
      "fd47ac42ad41ae4caf40b0b14d48b24543b34e49b4b54fb6b7b8b9fdfdfdfdfd",
      "bfc0c1c2c3c4c5c6c7c8c9cacbcccdcecfd0d1d2d3d4d5d6d7d8d9dadbdcddde",
      "dfe0e1e2e3e4e5e6e7e8e9eaebecedee252c212e293038332a3c2431261f2223",
      "2d20283435373a32393f463e3d2f3b2b03150a130d02181404170b080c05010f",
      "0907060e271a1c16191d3612111e1b10ef44f0f1f2f3f4f5f6f7f8f9fafbfcff"]

def russianMac : Array Nat :=
  pairTable
    ["fffffffffffffffffffffefffffeffffffffffffffffffffffffffffffffffff",
      "fdfdfdfdfdfdfdfdfdfdfdfdfdfdfdfdfcfcfcfcfcfcfcfcfcfcfdfdfdfdfdfd",
      "fd8e8f9091929394959697984a994b9a9b9c9d9e9fa0a1a2a3a4a5fdfdfdfdfd",
      "fd47ac42ad41ae4caf40b0b14d48b24543b34e49b4b54fb6b7b8b9fdfdfdfdfd",
      "252c212e293038332a3c2431261f22232d20283435373a32393f463e3d2f3b2b",
      "bfc0c1c2c3c4c5c6c7c8c9cacbcccdcecfd0d1d2d3d4d5d6d7d8d9dadbdcddde",
      "dfe0e1e2e3e4e5e6e7e8e9eaebecedeeeff0f1f2f3f4f5f6f7f8f9fafbfc4410",
      "03150a130d02181404170b080c05010f0907060e271a1c16191d3612111e1bff"]

def russian866 : Array Nat :=
  pairTable
    ["fffffffffffffffffffffefffffeffffffffffffffffffffffffffffffffffff",
      "fdfdfdfdfdfdfdfdfdfdfdfdfdfdfdfdfcfcfcfcfcfcfcfcfcfcfdfdfdfdfdfd",
      "fd8e8f9091929394959697984a994b9a9b9c9d9e9fa0a1a2a3a4a5fdfdfdfdfd",
      "fd47ac42ad41ae4caf40b0b14d48b24543b34e49b4b54fb6b7b8b9fdfdfdfdfd",
      "252c212e293038332a3c2431261f22232d20283435373a32393f463e3d2f3b2b",
      "03150a130d02181404170b080c05010fbfc0c1c2c3c4c5c6c7c8c9cacbcccdce",
      "cfd0d1d2d3d4d5d6d7d8d9dadbdcdddedfe0e1e2e3e4e5e6e7e8e9eaebecedee",
      "0907060e271a1c16191d3612111e1b10ef44f0f1f2f3f4f5f6f7f8f9fafbfcff"]

def russian855 : Array Nat :=
  pairTable
    ["fffffffffffffffffffffefffffeffffffffffffffffffffffffffffffffffff",
      "fdfdfdfdfdfdfdfdfdfdfdfdfdfdfdfdfcfcfcfcfcfcfcfcfcfcfdfdfdfdfdfd",
      "fd8e8f9091929394959697984a994b9a9b9c9d9e9fa0a1a2a3a4a5fdfdfdfdfd",
      "fd47ac42ad41ae4caf40b0b14d48b24543b34e49b4b54fb6b7b8b9fdfdfdfdfd",
      "bfc0c1c244c3c4c5c6c7c8c9cacbcccdcecfd0d1d2d3d4d5d6d7d8d91b3b3646",
      "0325152c1c3a0d2902302735132edadbdcdddedfe01a37042ae1e2e3e4173ce5",
      "e6e7e8e9eaeb0b24ecedeeeff0f1f2f308310c26051f01220ff4f5f6f72310f8",
      "2b092d072006280e3418380a21113df9fa123e143319391e2f1d3f1632fbfcff"]

def russian : List Letters :=
  [⟨"windows-1251", russianWindows, russianPairs, 976601, false, false⟩,
    ⟨"koi8-r", russianKoi8, russianPairs, 976601, false, false⟩,
    ⟨"iso-8859-5", russianIso, russianPairs, 976601, false, false⟩,
    ⟨"maccyrillic", russianMac, russianPairs, 976601, false, false⟩,
    ⟨"ibm866", russian866, russianPairs, 976601, false, false⟩,
    ⟨"ibm855", russian855, russianPairs, 976601, false, false⟩]

end BulkLoad.Charset.Letters
