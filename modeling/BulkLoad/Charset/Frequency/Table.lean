import BulkLoad.Charset.Table

/-!
The 512 most common characters of each language, as sets of character numbers.
-/
namespace BulkLoad.Charset.Frequency.Table

/-- Traditional Chinese, numbered along the rows of EUC. -/
def taiwan : Array Bool :=
  bitTable
    ["97b15d040ab89702641232d2081d480cb3412105445004e84602645442850328",
      "00c89120400334f00021f19820e440c08c10e000207018228c1005a042888000",
      "80000000000220001011110088a003804100000101808505800804e054002e02",
      "840a000210000204008000004080004540000000a4410c200000004008000100",
      "02684084000400441c011220000090600040040000044000c420000024020180",
      "0008004041000200000100005040200120000000200028080004116c00020600",
      "0002000400000000222001000000000014808a00040101100000400008001000",
      "0100080000000004040000000010801000008084280100002854010008080000",
      "0300006030a01080000801040100000400010000100002000009c10001808080",
      "2040000000000400482180002b082800c0000104400081000240000200800000",
      "0000400010050000000000000000006000002008008080040800000012000000",
      "1000204800001010014000850001000008000000000005c00000002014000000",
      "000800800000200000000040081004000400001000061502000802041d040000",
      "0000208000002000000640000042000000000000000020040000000000000820",
      "01008000003400000002022000048000000009000008100000008000000d8000",
      "0000000421040000000400000000000000100000000000000850000800000000",
      "0000000000000000004001400820100001000000000000000000000000000080",
      "00000048010000000400000000000004000000001000400a0000000000400140",
      "0400000000004000400000000000800000000000000000000000000008400000",
      "01000000000000000000000000000800020000a0800000000000000000015000",
      "0000800000008000000000000000180080000000000001020800008000004400"]

def korea : Array Bool :=
  bitTable
    ["e94d20200ab8105a850803500000870008004ab1501000000004001200000800",
      "0000002012900b04312182100a060000c800414083809432200900220032080e",
      "9201412a34028020140200300000004003b03a09ec703c21f800208400202e07",
      "efa04a202c04028da1000094000008441bb816001462a0711b00005408000488",
      "01000000000000080000d40b02000ca05c42006c200000054802420126eb2000",
      "0200000000000580205634e03020767c283606205a229504040f91e10a824169",
      "021f3462ca00007b58189c920001162800193d2080100000040000000000291e",
      "000a2c04100100d1080040e3202002b08280580000000022e59c1180280d8048",
      "802400007401632010020101842c0201400828d1f6d1d8440504310f41021000",
      "000000000200"]

def china : Array Bool :=
  bitTable
    ["000051000000808000100010840204900400040041240004000003a0c8400020",
      "0800042c80020000a401000000010004201000002420000802614020828065c4",
      "0005008800080012200100100300100000105040040282802102008000010004",
      "8060308100220402879052810200020004c1900001a20000000200e201000002",
      "0004d1c0a0000000402001323200230550264860209000002404a00080004881",
      "03080614400a820020008048a000004900100400012a00100005010000081000",
      "000a0001000e006111400028008c100000400800000020000c00020000800000",
      "000c08c280008001002088200000020202805000400000021000000000000000",
      "0001000000208000000401001210000040008000000042200840892002600126",
      "08000220001800800020004802000c320108486ae9f46012e300080080800142",
      "25040000200000002e0100010000000100c81008000440980230000001010120",
      "8004200201840400408028201000820010400141c0891818a2880000582d1000",
      "0108010208001000080c000002800600040482800009a404c80410811040000a",
      "2141100008000200489058402000c0001144000000026020000009100102b124",
      "789248445055800000202250400402100c0482210180"]

/-- Traditional Chinese, numbered along the rows of Big5. -/
def big5 : Array Bool :=
  bitTable
    ["97b15d040ab89702641232d2081d480cb3412105445004e84602645442850328",
      "00c89120400334f00021f19820e440c08c10e000207018228c1005a042888000",
      "80000000000220001011110088a003804100000101808505800804e054002e02",
      "840a000210000204008000004080004540000000a4410c200000004008000100",
      "02684084000400441c011220000090600040040000044000c420000024020180",
      "000800404100020000010000504020012000000010001404000208b600010300",
      "000100020000000011100080000000000a404500020080880000200004000800",
      "0080040000000004040000000010801000008084280100002854010008080000",
      "0300006030a01080000801040100000400010000100002000009c10001808080",
      "2040000000000400482180002b082800c0000104400081000240000200800000",
      "0000400010050000000000000000006000002008008080040800000012000000",
      "1000204800001010014000850001000008000000000005c00000002014000000",
      "000800800000200000000040081004000400001000061502000802041d040000",
      "0000208000002000000640000042000000000000000020040000000000000820",
      "01008000003400000002022000048000000012000010200000010000001b0000",
      "00000008420800000008000000000000002000000000000010a0001000000000",
      "0000000000000000004001400820100001000000000000000000000000000080",
      "00000048010000000400000000000004000000001000400a0000000000400140",
      "0400000000008000800000000001000000000000000000000000000008400000",
      "0100000000000000000000000000100004000141000000000000000000015000",
      "0000800000008000000000000000180080000000000001020800008000004400"]

def japan : Array Bool :=
  bitTable
    ["fec0009810661f80000010000400000000000000000000000000000000000000",
      "000000155fffffefffdb6dfdfed800f7ebafebb7ebbeffeefa20000000000000",
      "0000000000000000000000000000000000002004000000000000000000000000",
      "0000000000000000000000000000000000000000000000000000000000000000",
      "0000000000000000000000000000000000000000000000000000000000000000",
      "00000000000000000000000000000000010200001014020c0804001004000004",
      "0000000000000014000400f8c440000204038000021000004050140110000000",
      "0001200010014108204004d00a00008000000000020406102820000400000300",
      "4020000020020800102000124000300803025300000103040093080000880008",
      "1000460080048000000118000228001000000016000190a43011400044e04860",
      "103000150000d08200004001080801400101c082100018000084040040204c20",
      "00284120b0548000008001000423024404000014904000010841300001004020",
      "8040020040308418081450003d0000020028010006e04000c080100208042100",
      "240000001008000050020118000080021004c000460084822000010000805020",
      "200080002002000004000000800000800100400008000010010840401a202000",
      "1200814006080042102100408028000080000080010000004008000201c00400",
      "14048902000008200404088a0001040308021000100208000480000004000004",
      "1200"]

end BulkLoad.Charset.Frequency.Table
