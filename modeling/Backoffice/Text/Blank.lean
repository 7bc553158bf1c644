namespace Backoffice.Text

def isBlank (c : Char) : Bool :=
  let n := c.toNat
  (0x9 ≤ n && n ≤ 0xD) || n == 0x20 || n == 0x85 || n == 0xA0 || n == 0x1680 ||
    (0x2000 ≤ n && n ≤ 0x200A) || n == 0x2028 || n == 0x2029 || n == 0x202F || n == 0x205F ||
    n == 0x3000

def stripChars (p : Char → Bool) (cs : List Char) : List Char :=
  ((cs.dropWhile p).reverse.dropWhile p).reverse

def trim (s : String) : String :=
  String.ofList (stripChars isBlank s.toList)

def trimEndOf (c : Char) (s : String) : String :=
  String.ofList (s.toList.reverse.dropWhile (· == c)).reverse

def trimStartOf (c : Char) (s : String) : String :=
  String.ofList (s.toList.dropWhile (· == c))

def trimOf (c : Char) (s : String) : String :=
  String.ofList (stripChars (· == c) s.toList)

def blank (s : String) : Bool :=
  s.toList.all isBlank

def nonBlank (s : String) : Option String :=
  if blank s then none else some (trim s)

end Backoffice.Text
