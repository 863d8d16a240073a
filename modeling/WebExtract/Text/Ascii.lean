/-!
# Letters and digits of ASCII
-/
namespace WebExtract.Text

def isAlpha (c : Char) : Bool := ('a' ≤ c && c ≤ 'z') || ('A' ≤ c && c ≤ 'Z')

def isDigit (c : Char) : Bool := '0' ≤ c && c ≤ '9'

def isAlnum (c : Char) : Bool := isAlpha c || isDigit c

def isHexDigit (c : Char) : Bool :=
  isDigit c || ('a' ≤ c && c ≤ 'f') || ('A' ≤ c && c ≤ 'F')

/-- The value of a digit, which may be hexadecimal. -/
def hexValue (c : Char) : Nat :=
  if c ≤ '9' then c.toNat - 48 else if c ≤ 'F' then c.toNat - 55 else c.toNat - 87

/-- The number that digits write in a base up to sixteen. -/
def number (base : Nat) (ds : List Char) : Nat := ds.foldl (fun n d => n * base + hexValue d) 0

/-- The character that takes the place of a wrong one. -/
def replacement : Char := '\uFFFD'

/-- With its capital letters made small. -/
def lowerAscii (s : String) : String := String.ofList (s.toList.map Char.toLower)

end WebExtract.Text
