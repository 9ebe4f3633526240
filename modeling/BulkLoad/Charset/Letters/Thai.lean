import BulkLoad.Charset.Letters

/-!
Thai.
-/
namespace BulkLoad.Charset.Letters

def thaiPairs : Array Nat :=
  digitTable
    ["0000000000000000000000000000000000000000000000000000000000000000",
      "0033230033033033333333303230222302300001012311322011001000000011",
      "0332333333333332222222332323322231230332212331201301001000000011",
      "0322333312333332222332233223232233123122331021003121001000000101",
      "0333332233332322332232222113121132102101011011001010001000000000",
      "0332323322323323112322232222212122113321012201300011000002300211",
      "0323320033033022312211102220221102102002010010001111000000000010",
      "0323320033023021222212002220221102102002011010000001001000000000",
      "0323232022132132123223023221222212200002012011101031100000000010",
      "0323323222322322123223132223222332130111021111101011000000000200",
      "0003033333003022333330001130000200100000002300030200000300000000",
      "0033330023003033233333003330003300300002002113001002301000000010",
      "0333233333331213322122231120212122100011010110000011001000000000",
      "0021233302022021322121002210212201100001011000000010000000000000",
      "0333213311302311321120223211111230013121203000103000000000000100",
      "0311323331321321322221331213123021132221210011000000000000000002",
      "0323233232323321032221222122121122230131111011021020000000000000",
      "0333232211323232032212022212222132122102010011000001101000000001",
      "0333323123322301120332230113000031033020210032000000000000000000",
      "0332323301311212113110231111111131122221110022000000000000000001",
      "0221121332322322312212032122222132122211110011000020000000000000",
      "0333333313302103200310110100000110010320000000020000000000000000",
      "0022230013032032233333102220221202300001010011001000000000000001",
      "0023133233033032232333002230111300300022013012223000001000000001",
      "0233203322313213201220232103000030023130030200000000000000000000",
      "0132221201311313002111121110210112000311000010100101000003100010",
      "0333222221311120112121320031111131023000300010000000000000000000",
      "0002303302000000030010000000000000100000000000000000000000000000",
      "0023130012002033233323002220002200100003000020000000002000000000",
      "0003020000000000123133001030000000300000000000000000000000000000",
      "0312312310302210211201001111010010000110300200000000000000000000",
      "0333210111312222221111031013111111020131100100001000000000000201",
      "0022133233011022121331003200002101000012011311221000000100000000",
      "0030010003003031011132000300002000100000000000000001002000000000",
      "0313213312201210120000030003000030011100000000010000000000000000",
      "0012033322011013000220000310100000000000010100020000000000000000",
      "0023120021031012011113003110221102000001010011000100000000000000",
      "0003120022012010131210002030001001000000000000010000000000000000",
      "0011220002021011011121001110211101100000010010000000001000000101",
      "0002013111100003201000120001000000030000000000000000000000000000",
      "0000033331000000000010000000000000000000000000000000000000000000",
      "0023220001000023212230002310001100100000001001000001101000000000",
      "0322010000202010001100021010110001020010301000210000000000000000",
      "0310010000011200001001310000110001000030000003000000030000000000",
      "0311112300211111021100021012110121030000300000000000000000000000",
      "0310000000300030000000011000000100020010000000000000000000000000",
      "0320000001210110200100200000000000000020001301000200000001200000",
      "0300112001210111011002110100111000100000000000030010000000000000",
      "0221000010000300000000030000000020000030000000000000000000000000",
      "0300110002000000020000000000000000000010001000000000000000000000",
      "0000000000000000000000000000000000000000000000000000000000000000",
      "0101201200110201001000010002000010010110300000000000000000000000",
      "0100000001101102130000110000000310000000000000000000000000000000",
      "0000000000000000000000020000000000000030000000000000000000000000",
      "0010100200200112001100010001100010100000000000000000002000000000",
      "0003000000000000000000010000000100000000000000000000000000000000",
      "0000000000000000000000000000000000000000000000000000000020011000",
      "0000000000000100000000030000000000000000000000000000000000000000",
      "0000020000000200000001010000000000000000000000000000000000000000",
      "0000000000000000000000000000000000000000000000000000000010013000",
      "0000000000000000000000000000000000000000000000000000000020010000",
      "0000000001000020000200000000000000000000000000200000000000000000",
      "0011002100100100000000000000000000000000200000000000000000000000",
      "0000000000000002000000000000000000000000000000000000000000000000"]

def thaiNumbers : Array Nat :=
  pairTable
    ["fffffffffffffffffffffefffffeffffffffffffffffffffffffffffffffffff",
      "fdfdfdfdfdfdfdfdfdfdfdfdfdfdfdfdfcfcfcfcfcfcfcfcfcfcfdfdfdfdfdfd",
      "fdb66a6b64b7b8b9655ebabb6c6d6e6fbcbdbe595f7071bfc0c1c2fdfdfdfdfd",
      "fd404849724a73746651c9755a674e5260ca5b4f54686961625ccbfdfdfdfdfd",
      "d1d2d3d4d558d6d7d8d9dadbdc76dddedfe0635553e1e2e3e4e5e6e7e8e9eaeb",
      "ec051eed18ee4b081a342233772f3a393135372b14132c0e30031119273e1f36",
      "2d0910023d0fef0c2a2e12154c04423f160a0124170d281b202356f0f1f2f3f4",
      "0b1c291d21f532250607434d265df6f744383b41453c46504757f8f9fafbfcfd"]

def thai : Letters :=
  ⟨"tis-620", thaiNumbers, thaiPairs, 926386, false, false⟩

end BulkLoad.Charset.Letters
