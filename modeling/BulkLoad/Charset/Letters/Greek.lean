import BulkLoad.Charset.Letters

/-!
Greek and the sets in which it is written.
-/
namespace BulkLoad.Charset.Letters

def greekPairs : Array Nat :=
  digitTable
    ["0000000000000000000000000000000000000000000000000000000000000000",
      "0032233333333133302233030320333030002000002000000000000000000000",
      "0333330330323303233300303033200020000000000000000000000200000000",
      "0232233333333033330233033332333020002000002000000000000000000000",
      "0233233333333333302133332332332000002000002000000000000000000000",
      "0333303333330330333333333303233020102000002000000000000100000000",
      "0333332300003303133303303333000020002000000000000000000000000000",
      "0333330303333303222302333332330000000000000000000000000000000000",
      "0333333222333303133332333333322000000000000000000000000000000000",
      "0333332030003323333300323023000000000000000000000000000000000000",
      "0303333003302303033300303022330000100000002000000000000000000000",
      "0333332032333303333303323233200000000000000000000000000000000000",
      "0332323333330232322232332302223020000000002000000000000000000000",
      "0030003332330030300032030300202000002000002000000000000000000000",
      "0000000000000000000000000000000000002000000000000000000000000000",
      "0333303333330330300033033300123030000000002000000000000000000000",
      "0333332003223303333321303233210000000000000000000000000000000000",
      "0033023333330030300033032300333030002000003000000000000000000000",
      "0333303333330030300032032300323020000000003000000000000000000000",
      "0031223333330230300033030200231020000000002000000000000000000000",
      "0303333030332303333330333023003000000000000000000000000000000000",
      "0303330030003303023300303033000000000000000000000000000000000000",
      "0030003333330030200033030300202000001000002000000000000000000000",
      "0333333030203203232300323233000000000000000000000000000000000000",
      "0030023333300030210032220300220000000000000000000000000000000000",
      "0303332030303302123300303033000000000000000000000000000000000000",
      "0233303333330230300021022300222000000000002000000000000000000000",
      "0030023332300130200003010200111000000000000000000000000000000000",
      "0333331030003203233300303222100000000000000000000000000000000000",
      "0303330030000202332222302022000000000000000000000000000000000000",
      "0333320000002302023200303031000000000000000000000000000000000000",
      "0000003233223020300020000120202002020220010222022202220020010000",
      "0203320000001302022200203002000000000000000000000000000000000000",
      "0302320220202202022200000023000201200002200021022000000102000000",
      "0021023223232003330032000110202202020220020222022220020002010000",
      "0303322030002202221200122003000201200012000000022010020002000000",
      "0000000000000000000000000000000000000000000000000000000000000000",
      "0233220002023302000000222022020202200222210022020020000002000000",
      "0203230003002202022200200000000200220022200000020002000000000000",
      "0020032022222000200002010020100002220220120222022221220020000000",
      "0000001000000000200000010000000002020220000121002200200000000000",
      "0003230020002202000100202022000000200002200000020000000002000000",
      "0223220000001302022000102000000000000000000000000000000000000000",
      "0202032020000002200000000000000100200001100212022010010002000000",
      "0302220020002000230200000022000201200012210002002000000001000000",
      "0000000003000000200000000000000002120220200200001210210000000000",
      "0020003122020000200020030000222000000000000000000000000000000000",
      "0210201200000000000002001000000202200222220120002201020022000000",
      "0000100000003002000000002020000201200002210101022210000001000000",
      "0201200000000002002200001000000202200002200000020000000002002000",
      "0222200030000000020000002000000100200001200000022110000001000000",
      "0202220020000000222000200000000200100002100000010000010000000000",
      "0302000000002000002000000020000200200002200001001000000000000000",
      "0202210000002002022200000020000200200202200002020000020002000000",
      "0030002202200000200000020000000000000000000000000000000000000000",
      "0000001000001000000000000000000000001000000000000000000200200000",
      "0222220000002000000000000011000100000002100000020000000000000000",
      "0000000220000020000000010000000002000200000100002200010000000000",
      "0000100000000000020000000000000000000000000000000000000100102000",
      "0202000000000000002000000000000000100001100000000000000000000000",
      "0000000000000000000000000000000000001000000000000010000100202000",
      "0000000021000000200012000000000000000000000000000000000000000000",
      "0000000000000000000000000000000000000000000000000000000000000000",
      "0000000000000000000000000000000000000000000000000000000000000000"]

def greekIso : Array Nat :=
  pairTable
    ["fffffffffffffffffffffefffffeffffffffffffffffffffffffffffffffffff",
      "fdfdfdfdfdfdfdfdfdfdfdfdfdfdfdfdfcfcfcfcfcfcfcfcfcfcfdfdfdfdfdfd",
      "fd5264685e626574666fbb755c5871554f7669534372775f636dbcfdfdfdfdfd",
      "fd484650513c605d594478614d5645374e7341423a4c6a67576b70fdfdfdfdfd",
      "ffffffffffffffffffffffffffffffffffffffffffffffffffffffffffffffff",
      "fde95afdfdfdfdfdfdfdfdfdfd4afdfdfdfdfdfdf7f83d242e4749fd36fd6c7b",
      "6e1f332b29225b28342f2c3526313b272330fa25212d3832543978791112160f",
      "7c011d141503200d19050b100a061e0409080e07020c1c172a18404b131a1bfd"]

def greekWindows : Array Nat :=
  pairTable
    ["fffffffffffffffffffffefffffeffffffffffffffffffffffffffffffffffff",
      "fdfdfdfdfdfdfdfdfdfdfdfdfdfdfdfdfcfcfcfcfcfcfcfcfcfcfdfdfdfdfdfd",
      "fd5264685e626574666fbb755c5871554f7669534372775f636dbcfdfdfdfdfd",
      "fd484650513c605d594478614d5645374e7341423a4c6a67576b70fdfdfdfdfd",
      "ffffffffffffffffffffffffffffffffffffffffffffffffffffffffffffffff",
      "fde93dfdfdfdfdfdfdfdfdfdfd4afdfdfdfdfdfdf7fdfd242e4749fd36fd6c7b",
      "6e1f332b29225b28342f2c3526313b272330fa25212d3832543978791112160f",
      "7c011d141503200d19050b100a061e0409080e07020c1c172a18404b131a1bfd"]

def greek : List Letters :=
  [⟨"iso-8859-7", greekIso, greekPairs, 982851, false, false⟩,
    ⟨"windows-1253", greekWindows, greekPairs, 982851, false, false⟩]

end BulkLoad.Charset.Letters
