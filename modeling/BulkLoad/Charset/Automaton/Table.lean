import BulkLoad.Charset.Automaton

/-!
The automata of the encodings with several bytes a character and of those with escape sequences.
-/
namespace BulkLoad.Charset.Automaton

def utf8 : Automaton where
  classes :=
    digitTable
      ["1111111111111100111111111110111111111111111111111111111111111111",
        "1111111111111111111111111111111111111111111111111111111111111111",
        "2222333344444444444444444444444455555555555555555555555555555555",
        "006666666666666666666666666666667888888888888988abbbbbbbcdddef00"]
  width := 16
  next :=
    digitTable
      ["101111ca9b876543",
        "1111111111111111",
        "2222222222222222",
        "1155551111111111",
        "1115551111111111",
        "1177771111111111",
        "1111771111111111",
        "1199991111111111",
        "1111191111111111",
        "11cccc1111111111",
        "11111c1111111111",
        "11ccc11111111111",
        "1100001111111111"]
  lengths := #[0, 1, 0, 0, 0, 0, 2, 3, 3, 3, 4, 4, 5, 5, 6, 6]

def shiftJis : Automaton where
  classes :=
    digitTable
      ["1111111111111100111111111110111111111111111111111111111111111111",
        "2222222222222222222222222222222222222222222222222222222222222221",
        "3333322333333333333333333333333322222222222222222222222222222222",
        "2222222222222222222222222222222233333333333334443333333333333000"]
  width := 6
  next :=
    digitTable
      ["100311",
        "111111",
        "222222",
        "110000"]
  lengths := #[0, 1, 1, 2, 0, 0]

def eucJp : Automaton where
  classes :=
    digitTable
      ["4444444444444455444444444445444444444444444444444444444444444444",
        "4444444444444444444444444444444444444444444444444444444444444444",
        "5555555555555513555555555555555552222222222222222222222222222222",
        "2222222222222222222222222222222200000000000000000000000000000005"]
  width := 6
  next :=
    digitTable
      ["343501",
        "111111",
        "222222",
        "010111",
        "110111",
        "313111",
        "0000"]
  lengths := #[2, 2, 2, 3, 1, 0]

def gb2312 : Automaton where
  classes :=
    digitTable
      ["1111111111111100111111111110111111111111111111113333333333111111",
        "2222222222222222222222222222222222222222222222222222222222222224",
        "5666666666666666666666666666666666666666666666666666666666666666",
        "6666666666666666666666666666666666666666666666666666666666666660"]
  width := 7
  next :=
    digitTable
      ["1000003",
        "1111111",
        "2222222",
        "1104100",
        "1111115",
        "1112111",
        "000000"]
  lengths := #[0, 1, 1, 1, 1, 1, 2]

def eucKr : Automaton where
  classes :=
    digitTable
      ["1111111111111100111111111110111111111111111111111111111111111111",
        "1111111111111111111111111111111111111111111111111111111111111111",
        "0000000000000000000000000000000002222222222223332222222222222222",
        "2222222223222222222222222222222222222222222222222222222222222220"]
  width := 4
  next :=
    digitTable
      ["1031",
        "1111",
        "2222",
        "1100"]
  lengths := #[0, 1, 2, 0]

/-- The automaton of the extension of EUC for Korean. -/
def cp949 : Automaton where
  classes :=
    digitTable
      ["1111111111111100111111111110111111111111111111111111111111111111",
        "1444444444444444445555555551111115555555555555555555555555511111",
        "0666666666666666666666666666666667777777777778887777777777777777",
        "7777779223222222222222222222222222222222222222222222222222222220"]
  width := 10
  next :=
    digitTable
      ["1031004516",
        "1111111111",
        "2222222222",
        "1100111000",
        "1100000000",
        "1000000000",
        "1000011000"]
  lengths := #[0, 1, 2, 0, 1, 1, 2, 2, 0, 2]

def big5 : Automaton where
  classes :=
    digitTable
      ["1111111111111100111111111110111111111111111111111111111111111111",
        "2222222222222222222222222222222222222222222222222222222222222221",
        "4444444444444444444444444444444443333333333333333333333333333333",
        "3333333333333333333333333333333333333333333333333333333333333330"]
  width := 5
  next :=
    digitTable
      ["10031",
        "11111",
        "22222",
        "11000",
        "0000"]
  lengths := #[0, 1, 1, 2, 0]

def eucTw : Automaton where
  classes :=
    digitTable
      ["2222222222222200222222222220222222222222222222222222222222222222",
        "2222222222222222222222222222222222222222222222222222222222222222",
        "0000000000000060000000000000000003444444551111111111111111111111",
        "1131333333333333333333333333333333333333333333333333333333333330"]
  width := 7
  next :=
    digitTable
      ["1103334",
        "1111111",
        "2222222",
        "1010001",
        "1111511",
        "1010001",
        "000000"]
  lengths := #[0, 0, 1, 2, 2, 2, 3]

def hz : Automaton where
  classes :=
    digitTable
      ["1000000000000000000000000001000000000000000000000000000000000000",
        "0000000000000000000000000000000000000000000000000000000000040520",
        "1111111111111111111111111111111111111111111111111111111111111111",
        "1111111111111111111111111111111111111111111111111111111111111111"]
  width := 6
  next :=
    digitTable
      ["013000",
        "111111",
        "222222",
        "110041",
        "516155",
        "414144",
        "414142",
        "000000"]
  lengths := #[0, 0, 0, 0, 0, 0]

def iso2022Cn : Automaton where
  classes :=
    digitTable
      ["2000000000000000000000000001000000000000030000000000000000000000",
        "0004000000000000000000000000000000000000000000000000000000000000",
        "2222222222222222222222222222222222222222222222222222222222222222",
        "2222222222222222222222222222222222222222222222222222222222222222"]
  width := 9
  next :=
    digitTable
      ["031000000",
        "111111111",
        "222222222",
        "111411112",
        "111156111",
        "111111211",
        "111111121",
        "0"]
  lengths := #[0, 0, 0, 0, 0, 0, 0, 0, 0]

def iso2022Jp : Automaton where
  classes :=
    digitTable
      ["2000000000000022000000000001000000007000300000000000000000000000",
        "6040800009500000000000000000000000000000000000000000000000000000",
        "2222222222222222222222222222222222222222222222222222222222222222",
        "2222222222222222222222222222222222222222222222222222222222222222"]
  width := 10
  next :=
    digitTable
      ["0310000000",
        "1111111111",
        "2222222222",
        "1115111411",
        "1116212111",
        "1111221112",
        "1111111121",
        "00"]
  lengths := #[0, 0, 0, 0, 0, 0, 0, 0, 0, 0]

def iso2022Kr : Automaton where
  classes :=
    digitTable
      ["2000000000000000000000000001000000003000040000000000000000000000",
        "0005000000000000000000000000000000000000000000000000000000000000",
        "2222222222222222222222222222222222222222222222222222222222222222",
        "2222222222222222222222222222222222222222222222222222222222222222"]
  width := 6
  next :=
    digitTable
      ["031000",
        "111111",
        "222222",
        "111411",
        "111151",
        "111112",
        "0000"]
  lengths := #[0, 0, 0, 0, 0, 0]

end BulkLoad.Charset.Automaton
