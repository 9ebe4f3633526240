import BulkLoad.Charset.Table

/-!
Which hiragana follow which in Japanese.
-/
namespace BulkLoad.Charset.Kana.Table

def size : Nat := 83

/-- A row for each hiragana: 1 where the other one may follow it. -/
def following : Array Nat :=
  digitTable
    ["00010000000000000000000000000000000000010000000000000000000000000001000100000000001",
      "11010101011111111111111111111111111111111110111101101101101101101101010111111011011",
      "00100000000000000000000000000000001000000000000000000000000000000000000000000000001",
      "01010101011111111111111111111111111111111111111111101101101111111101010111111010011",
      "00000000000000000000000000000000000000000000000000000000000000000000000000000000000",
      "01010101011111111111111111111111111111111111111101111101101111111101010111111011111",
      "00000000000000000000000000000000001000000000000000000000000000000000000000000000000",
      "01010101011111111111111111111111101101111111111101101101101001111101010111111011011",
      "00000000000000000000000000000000000000010000000000000000000000000000000000000000000",
      "01010101111111111111111111111111111111111110111101101110001101111101010111111010011",
      "11010101011111111111111111111111111111111111111101111101111111111101010111111010011",
      "01010101011111111011111111111111101111111111111111111111101111111101010111111011011",
      "01110101011111111111111111111111111111111111111111111101101101111111111111111011111",
      "01010101001100101011111111101011111101111111011100001001000001101111111111111011011",
      "01010101011111111111111111111111111111111110111111111101111111111101010111111011011",
      "01010100011110100010101011101111111110111110011101100001101001110100000111111010011",
      "11010101011111111111111111001111111111111111111101111101100101111101010111111010011",
      "01010111011110110010111111110011101111110111111101001000100001111101000111111010011",
      "01010101011111111111111111101111111111111111111101101101101111111101010111111010111",
      "01010100011110101110111111011111101101111110011001000100001101111101010011111010111",
      "11010101011111111111111111101111101111111111111111101101101101111101010111111010011",
      "01010101011111101010101010001011001100010110111000000100000001111101000111110010011",
      "11110101011111111111111111111111111111111111111101111101101101111111111111111011011",
      "01010100011111111011101111001011101101111111111101001100001001111111111111111011011",
      "01010101011111111111101111111111011101111110111111111101101111111101010111110010111",
      "01010101011111111011101111101011001101111110111101011101101111111101010111111011111",
      "01010101011111111010111111101011101101111111111101100100100001111101000111111011011",
      "01010001011010001011111001001011101101110111010001000000000001110101000111100010011",
      "01010101011111111111101110001111111100111110111101101101101101111101010111111010011",
      "01010101011110101011101010001100101100111111011001000001000001111101010111011011011",
      "01010101011111111111111111111111111111111111111111111101111111111101010111111010111",
      "01010101011111111111111111111111111111111110111111101101101001111101010111111010011",
      "01010111011111101111111111101111111111111111111111111101101111111111111111101011111",
      "01010000011110000010111001000010010111100011011000001000000001111011000110010000011",
      "01000100001011101010101010101111100101011010001110110010011111000000000000100000000",
      "11010101011111111111101111111111111111111111111111111111111111111101010111111010111",
      "01010000011011111010101000001011110100011100111101000100100001101101000111110000110",
      "01110101011111111011111111111111101111111111111111111111111111111101010111111011011",
      "01010101011111111111111111111011101101111111111111111101001111111101010111111011011",
      "01010101011111111111111111101111111111111110111111111111101111111101010111111010011",
      "01010101111111111011101111101011101101111110111101001101101101111101010111111011011",
      "11010101011111111111111111111111111111111111111101101101101101111101010111111011011",
      "01010101011111111111111111111111101101111111111111111101101111111111111111000011111",
      "01010101011111111010001110001111001101111110011101001100101101001101010111110011011",
      "01010111011111111010111111001011111111111111011101101101101101111101000111110000011",
      "01010101011111111111111111111111111111111111111111111101111111111101010111111010111",
      "01010101011111111111111111111111111111111111111111111111111111111101010111111011011",
      "01010101011110101111111111111111101100111111111101001001001001111101010111111010011",
      "00010000001010100000101010000011101100010110010000000000000000000000000011010000001",
      "01110101011111111111111111111011111111111111111101101001001001101101101111111011011",
      "01010101011110111011111111111011101111111111111110110101010001110101101111111001011",
      "00000000001010100000001000000010101101010010000000000000000000000000101011000000001",
      "01011101011111111111111110111111111111111110111101101001101001111101010111111010011",
      "01010100011111101110111110101111101111111111111001000000101001111101000111111010011",
      "00010100001000100000001110000000001100010000000000000000000000000001000011100000001",
      "01010101011111111011111111001011101111111111111101111101111011111101010111111011011",
      "01010101011111101011111011001111101101111111011101000000100001010101010111111000011",
      "00010000001010000010000000000010000001000000000000000000000000000000000011001000001",
      "01010101011110111111111111111011011111011100111101001000001101111101010111111010101",
      "00010101011100101011101010101011101100111110110001001000000001111001000011111000011",
      "00010100001110101010100000001010101100111110010000000001000000000000000001001000011",
      "11010101011111111111111111111011111111111111111101101101001101111101010111111011011",
      "01010101011111111011111111101111111111111111111101001101001101111101011111111011011",
      "01010100011111111111111111101111101110111110111101101000101001111101010111111010011",
      "01010101011110111111111111001111111111111111111101000001001101111101010111111011011",
      "01010101011111111111111111101111111101111111111111111101101111111101010111111011011",
      "11010101011111111111101111101111101101111110111101111100101101111101000111111010011",
      "01010100011111111111111110101111111111111111111101101100101101111101010111111011011",
      "00010100000011100000000010000000101100100010000001000000000000000000000000001000001",
      "01010101011110101111111011101011001110110000010101101100101101101000010011111010101",
      "00010100001010110110001000100011001000110111010000000000000100000100000001001000001",
      "01010101011111111111101110101011111100111110111101111101101101111101000111111010011",
      "01010101011111111111111111111111111111111111111111111111101111111101010111110011011",
      "01010101011111111111111111111111111111111111111101111111101111111111111111111011111",
      "01010101011111111011111111111111111111111111111101101111111101111101010111110011011",
      "11010101011111111011111111001111111111111111111111101001101101111111010111111011011",
      "01010101011111111111111111101111111110111111111101101101101111111101010111001010011",
      "00000000000000000000000000000000000000000000000000000000000000000000000000000000000",
      "01010101011111111111111111101111101111111111111100101101100001111101010111111010011",
      "00000000000000100000111001100011110101100111111000000000000001010001000110111000001",
      "00000000010100001000000101000011000101100111011001000000000001110000010011000000001",
      "01010101011111111011111111111111111101111111111111111111111111111101010111111010011",
      "01010101011111111111111111111111111111111111111111111111111111111101010111111010011"]

def follows (first second : Nat) : Bool := following.getD (size * first + second) 0 == 1

end BulkLoad.Charset.Kana.Table
