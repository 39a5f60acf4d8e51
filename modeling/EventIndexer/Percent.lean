import EventIndexer.Hex

/-! Text in which a percent sign and two digits stand for a byte. -/

namespace EventIndexer.Percent

/-- The bytes of a text; a percent sign without two digits stands for itself. -/
def bytes : List Char → List UInt8
  | '%' :: high :: low :: rest =>
    match Hex.digit? high, Hex.digit? low with
    | some h, some l => UInt8.ofNat (16 * h + l) :: bytes rest
    | _, _ => 0x25 :: bytes (high :: low :: rest)
  | c :: rest => String.utf8EncodeChar c ++ bytes rest
  | [] => []

end EventIndexer.Percent
