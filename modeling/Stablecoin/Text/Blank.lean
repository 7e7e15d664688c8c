namespace Stablecoin.Text

/-- The character is white space. -/
def isBlank (c : Char) : Bool :=
  let code := c.toNat
  (9 ≤ code && code ≤ 13) || code == 0x20 || code == 0x85 || code == 0xA0 || code == 0x1680 ||
    (0x2000 ≤ code && code ≤ 0x200A) || code == 0x2028 || code == 0x2029 || code == 0x202F ||
    code == 0x205F || code == 0x3000

/-- The characters without the blanks in front of them and behind them. -/
def trimBlanks (text : List Char) : List Char := ((text.dropWhile isBlank).reverse.dropWhile isBlank).reverse

end Stablecoin.Text
