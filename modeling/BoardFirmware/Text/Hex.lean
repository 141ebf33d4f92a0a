namespace BoardFirmware.Text

-- The digits of a number, at least `width` of them.
def hexDigits (width n : Nat) : String :=
  let digits := Nat.toDigits 16 n
  String.ofList (List.replicate (width - digits.length) '0' ++ digits)

-- As few digits as the number needs.
def hex (n : Nat) : String :=
  "0x" ++ hexDigits 1 n

-- At least `width` digits, filled up with leading zeros.
def paddedHex (width n : Nat) : String :=
  "0x" ++ hexDigits width n

-- The items between brackets, with commas between them.
def bracketed (items : List String) : String :=
  "[" ++ ", ".intercalate items ++ "]"

-- A value that may be missing, in the notation of diagnostics.
def optional (text : α → String) : Option α → String
  | some a => "Some(" ++ text a ++ ")"
  | none   => "None"

end BoardFirmware.Text
